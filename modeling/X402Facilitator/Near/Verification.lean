import X402Facilitator.Protocol.Request

/-!
# Verification of a NEAR payment

The checks of `verify_proto_request` that need no RPC node: the request is parsed once more, the
accepted requirements are compared with the requested ones, and the signed delegate action must be
one `ft_transfer` of exactly the requested payment. They are in the order of the source, which
decides what reason a request that fails several of them gets.
-/

namespace X402Facilitator

inductive VerificationFailure where
  | invalidX402Version
  | unsupportedScheme
  | invalidNetwork
  | networkMismatch
  | assetMismatch
  | payToMismatch
  | amountMismatch
  | invalidMaxTimeout
  | invalidPayloadShape
  | invalidSignedDelegateAction
  | invalidSignature
  | relayerCannotBePayer
  | invalidActionCount
  | invalidActionKind
  | invalidMethodName
  | tokenContractMismatch
  | invalidFtTransferArgs
  | recipientMismatch
  | transferAmountMismatch
  | invalidAttachedDeposit
  | gasLimitExceeded
  | currentBlockHeightUnavailable
  | delegateActionExpired
  | timeoutWindowExceedsMaximum
  | delegateNonceOutOfRange
  | accessKeyLookupFailed
  | accessKeyNotFound
  | delegateNonceAlreadyUsed
  | functionCallKeyNotAllowed
  | unsupportedAccessKeyPermission
  | accountLookupFailed
  | senderAccountNotFound
  | tokenAccountLookupFailed
  | tokenAccountNotFound
  | tokenContractHasNoCode
  | balanceCheckFailed
  | insufficientFunds
  | storageCheckFailed
  | recipientNotRegisteredForStorage
deriving DecidableEq

namespace VerificationFailure

def reason : VerificationFailure → String
  | invalidX402Version => "invalid_x402_version"
  | unsupportedScheme => "unsupported_scheme"
  | invalidNetwork => "invalid_network"
  | networkMismatch => "invalid_exact_near_network_mismatch"
  | assetMismatch => "invalid_exact_near_asset_mismatch"
  | payToMismatch => "invalid_exact_near_pay_to_mismatch"
  | amountMismatch => "invalid_exact_near_amount_mismatch"
  | invalidMaxTimeout => "invalid_exact_near_max_timeout"
  | invalidPayloadShape => "invalid_exact_near_payload_shape"
  | invalidSignedDelegateAction => "invalid_exact_near_payload_signed_delegate_action"
  | invalidSignature => "invalid_exact_near_payload_signature"
  | relayerCannotBePayer => "invalid_exact_near_relayer_cannot_be_payer"
  | invalidActionCount => "invalid_exact_near_payload_action_count"
  | invalidActionKind => "invalid_exact_near_payload_action_kind"
  | invalidMethodName => "invalid_exact_near_payload_method_name"
  | tokenContractMismatch => "invalid_exact_near_payload_token_contract_mismatch"
  | invalidFtTransferArgs => "invalid_exact_near_payload_ft_transfer_args"
  | recipientMismatch => "invalid_exact_near_payload_recipient_mismatch"
  | transferAmountMismatch => "invalid_exact_near_payload_amount_mismatch"
  | invalidAttachedDeposit => "invalid_exact_near_payload_attached_deposit"
  | gasLimitExceeded => "invalid_exact_near_payload_gas_limit_exceeded"
  | currentBlockHeightUnavailable => "invalid_exact_near_current_block_height_unavailable"
  | delegateActionExpired => "invalid_exact_near_payload_delegate_action_expired"
  | timeoutWindowExceedsMaximum =>
    "invalid_exact_near_payload_delegate_action_timeout_window_exceeds_max_timeout"
  | delegateNonceOutOfRange => "invalid_exact_near_payload_delegate_action_nonce_out_of_range"
  | accessKeyLookupFailed => "invalid_exact_near_access_key_lookup_failed"
  | accessKeyNotFound => "invalid_exact_near_access_key_not_found"
  | delegateNonceAlreadyUsed => "invalid_exact_near_payload_delegate_action_nonce_already_used"
  | functionCallKeyNotAllowed => "invalid_exact_near_function_call_key_not_allowed"
  | unsupportedAccessKeyPermission => "invalid_exact_near_unsupported_access_key_permission"
  | accountLookupFailed => "invalid_exact_near_account_lookup_failed"
  | senderAccountNotFound => "invalid_exact_near_sender_account_not_found"
  | tokenAccountLookupFailed => "invalid_exact_near_token_account_lookup_failed"
  | tokenAccountNotFound => "invalid_exact_near_token_account_not_found"
  | tokenContractHasNoCode => "invalid_exact_near_token_contract_no_code"
  | balanceCheckFailed => "invalid_exact_near_balance_check_failed"
  | insufficientFunds => "insufficient_funds"
  | storageCheckFailed => "invalid_exact_near_storage_check_failed"
  | recipientNotRegisteredForStorage => "invalid_exact_near_recipient_not_registered_for_storage"

/-- `near_verification_is_rpc_ambiguous`. -/
def isRpcAmbiguous : VerificationFailure → Bool
  | currentBlockHeightUnavailable | accessKeyLookupFailed | accountLookupFailed
  | tokenAccountLookupFailed | balanceCheckFailed | storageCheckFailed => true
  | _ => false

end VerificationFailure

/-! ## The request -/

structure WireRequirements where
  scheme : String
  network : String
  amount : String
  payTo : String
  maxTimeoutSeconds : Json
  asset : String

structure WireRequest where
  x402Version : Json
  payloadVersion : Json
  accepted : WireRequirements
  payload : Json
  paymentRequirements : WireRequirements

/-- The derived deserializer: every field but `extra` must be there, other fields are ignored. -/
def WireRequirements.ofJson? (json : Json) : Option WireRequirements := do
  let text (key : String) : Option String := (json.get? key).bind Json.asStr?
  return {
    scheme := ← text "scheme"
    network := ← text "network"
    amount := ← text "amount"
    payTo := ← text "payTo"
    maxTimeoutSeconds := ← json.get? "maxTimeoutSeconds"
    asset := ← text "asset" }

def WireRequest.ofJson? (json : Json) : Option WireRequest := do
  let paymentPayload ← json.get? "paymentPayload"
  return {
    x402Version := ← json.get? "x402Version"
    payloadVersion := ← paymentPayload.get? "x402Version"
    accepted := ← (paymentPayload.get? "accepted").bind WireRequirements.ofJson?
    payload := ← paymentPayload.get? "payload"
    paymentRequirements := ← (json.get? "paymentRequirements").bind WireRequirements.ofJson? }

def valueIsTwo (value : Json) : Bool := value.asU64? = some 2

/-- `NearNetwork::try_from`, as the reference part of the chain id. -/
def nearNetwork? : String → Option String
  | "near:mainnet" => some "mainnet"
  | "near:testnet" => some "testnet"
  | _ => none

/-- `parse_decimal`. -/
def parseDecimal (value : String) : Option Nat :=
  if value = "" then none else (decimalValue? value.toList).filter (· < 2 ^ 128)

section
variable [NearPrimitives]

/-! ## The signed delegate action -/

structure DecodedSignedDelegate where
  signedDelegate : SignedDelegateAction
  paymentHash : Hash32

def decodeSignedDelegate (encoded : String) : Except VerificationFailure DecodedSignedDelegate :=
  match NearPrimitives.decodeBase64 encoded with
  | none => .error .invalidSignedDelegateAction
  | some bytes =>
    match NearPrimitives.delegateFromSlice bytes with
    | none => .error .invalidSignedDelegateAction
    | some signedDelegate =>
      if ¬ NearPrimitives.curvesMatch signedDelegate then .error .invalidSignature
      else .ok ⟨signedDelegate, hashSignedDelegateBytes bytes⟩

theorem decodeSignedDelegate_ok {encoded : String} {decoded : DecodedSignedDelegate}
    (h : decodeSignedDelegate encoded = .ok decoded) :
    ∃ bytes, NearPrimitives.decodeBase64 encoded = some bytes ∧
      NearPrimitives.delegateFromSlice bytes = some decoded.signedDelegate ∧
      decoded.paymentHash = hashSignedDelegateBytes bytes := by
  unfold decodeSignedDelegate at h
  split at h
  · cases h
  rename_i bytes hbytes
  split at h
  · cases h
  rename_i signed hslice
  obtain ⟨-, h⟩ := Except.of_ite_error h
  obtain rfl := Except.ok.inj h
  exact ⟨bytes, hbytes, hslice, rfl⟩

/-- The hash of a decoded action is the one that recovery computes from the action. -/
theorem signedDelegateHash_of_decode {encoded : String} {decoded : DecodedSignedDelegate}
    (h : decodeSignedDelegate encoded = .ok decoded) :
    signedDelegateHash decoded.signedDelegate = some decoded.paymentHash := by
  obtain ⟨bytes, -, hslice, hhash⟩ := decodeSignedDelegate_ok h
  rw [signedDelegateHash, NearPrimitives.borshDelegate_of_delegateFromSlice hslice, hhash]
  rfl

def decodeFtTransferArgs (input : Bytes) : Except VerificationFailure (String × String) :=
  match NearPrimitives.ftTransferArgs input with
  | none => .error .invalidFtTransferArgs
  | some (receiverId, amount) =>
    if receiverId = "" ∨ amount = "" ∨ ¬ amount.toList.all Char.isDigit then
      .error .invalidFtTransferArgs
    else .ok (receiverId, amount)

/-- The delegated call is the requested transfer, and its sponsor pays no more than it should. -/
def checkTransfer (delegate : SignedDelegateAction) (requirements : WireRequirements)
    (maxSponsoredGas : Nat) : Except VerificationFailure Unit :=
  match delegate.actions with
  | [.functionCall call] =>
    if call.methodName ≠ "ft_transfer" then .error .invalidMethodName
    else if delegate.receiverId.text ≠ requirements.asset then .error .tokenContractMismatch
    else do
      let (receiverId, amount) ← decodeFtTransferArgs call.args
      if receiverId ≠ requirements.payTo then .error .recipientMismatch
      else if amount ≠ requirements.amount then .error .transferAmountMismatch
      else if call.deposit ≠ 1 then .error .invalidAttachedDeposit
      else if call.gas > maxSponsoredGas then .error .gasLimitExceeded
      else .ok ()
  | [.other _] => .error .invalidActionKind
  | _ => .error .invalidActionCount

/-! ## The checks before the first RPC read -/

structure OfflineVerified where
  requirements : WireRequirements
  maxTimeoutSeconds : Nat
  decoded : DecodedSignedDelegate

def checkRequirements (relayer : NearProvider) (wire : WireRequest) :
    Except VerificationFailure Nat :=
  let accepted := wire.accepted
  let requirements := wire.paymentRequirements
  if ¬ valueIsTwo wire.x402Version ∨ ¬ valueIsTwo wire.payloadVersion then
    .error .invalidX402Version
  else if accepted.scheme ≠ "exact" ∨ requirements.scheme ≠ "exact" then .error .unsupportedScheme
  else if nearNetwork? requirements.network ≠ some relayer.chainReference then
    .error .invalidNetwork
  else if accepted.network ≠ requirements.network then .error .networkMismatch
  else if accepted.asset ≠ requirements.asset then .error .assetMismatch
  else if accepted.payTo ≠ requirements.payTo then .error .payToMismatch
  else if accepted.amount ≠ requirements.amount then .error .amountMismatch
  else
    match requirements.maxTimeoutSeconds.asU64?.filter (0 < ·) with
    | none => .error .invalidMaxTimeout
    | some seconds => .ok seconds

def verifyOffline (relayer : NearProvider) (request : Json) (maxSponsoredGas : Nat) :
    Except VerificationFailure OfflineVerified :=
  match WireRequest.ofJson? request with
  | none => .error .invalidPayloadShape
  | some wire => do
    let maxTimeoutSeconds ← checkRequirements relayer wire
    let some encoded := (wire.payload.get? "signedDelegateAction").bind Json.asStr?
      | .error .invalidPayloadShape
    let decoded ← decodeSignedDelegate encoded
    let delegate := decoded.signedDelegate
    if ¬ verifyDelegate delegate then .error .invalidSignature
    else if delegate.senderId = relayer.accountId then .error .relayerCannotBePayer
    else
      checkTransfer delegate wire.paymentRequirements maxSponsoredGas
      return ⟨wire.paymentRequirements, maxTimeoutSeconds, decoded⟩

/-- What the checks before the first RPC read have established. -/
structure OfflineVerified.Checked (offline : OfflineVerified) (relayer : NearProvider)
    (request : Json) (maxSponsoredGas : Nat) (wire : WireRequest) (encoded : String) : Prop where
  wire_eq : WireRequest.ofJson? request = some wire
  requirements_ok : checkRequirements relayer wire = .ok offline.maxTimeoutSeconds
  requirements_eq : offline.requirements = wire.paymentRequirements
  encoded_eq : (wire.payload.get? "signedDelegateAction").bind Json.asStr? = some encoded
  decoded_ok : decodeSignedDelegate encoded = .ok offline.decoded
  signature : verifyDelegate offline.decoded.signedDelegate = true
  sender : offline.decoded.signedDelegate.senderId ≠ relayer.accountId
  transfer_ok : checkTransfer offline.decoded.signedDelegate wire.paymentRequirements
    maxSponsoredGas = .ok ()

theorem verifyOffline_ok {relayer : NearProvider} {request : Json} {maxSponsoredGas : Nat}
    {offline : OfflineVerified} (h : verifyOffline relayer request maxSponsoredGas = .ok offline) :
    ∃ wire encoded, offline.Checked relayer request maxSponsoredGas wire encoded := by
  unfold verifyOffline at h
  split at h
  · cases h
  rename_i wire hwire
  obtain ⟨seconds, hrequirements, h⟩ := Except.exists_of_bind h
  split at h
  swap
  · cases h
  rename_i encoded hencoded
  obtain ⟨decoded, hdecoded, h⟩ := Except.exists_of_bind h
  obtain ⟨hsignature, h⟩ := Except.of_ite_error h
  obtain ⟨hsender, h⟩ := Except.of_ite_error h
  obtain ⟨_, htransfer, h⟩ := Except.exists_of_bind h
  obtain rfl := Except.ok.inj h
  exact ⟨wire, encoded, hwire, hrequirements, rfl, hencoded, hdecoded, not_not.mp hsignature,
    hsender, htransfer⟩

/-- The checks on the final block that the rest of the verification is pinned to. -/
def checkHeight (offline : OfflineVerified) (height : Nat) : Except VerificationFailure Unit :=
  let delegate := offline.decoded.signedDelegate
  if delegate.maxBlockHeight ≤ height then .error .delegateActionExpired
  else if delegate.maxBlockHeight - height > max offline.maxTimeoutSeconds 1 then
    .error .timeoutWindowExceedsMaximum
  -- `saturating_mul` on a `u64`.
  else if min (height * 1000000) (2 ^ 64 - 1) ≤ delegate.nonce then .error .delegateNonceOutOfRange
  else .ok ()

/-- `VerifiedPayment::new`. -/
def OfflineVerified.payment (offline : OfflineVerified) (asset payTo : AccountId) (amount : Nat) :
    NearVerifiedPayment where
  payer := offline.decoded.signedDelegate.senderId
  payerPublicKey := offline.decoded.signedDelegate.publicKey
  delegateNonce := offline.decoded.signedDelegate.nonce
  maxBlockHeight := offline.decoded.signedDelegate.maxBlockHeight
  requirements := ⟨offline.requirements.network, asset, payTo, amount⟩
  signedDelegate := offline.decoded.signedDelegate
  paymentHash := offline.decoded.paymentHash

end

end X402Facilitator
