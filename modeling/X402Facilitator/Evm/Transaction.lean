import X402Facilitator.Store.Transaction

/-!
# The EVM settlement transaction

The facilitator pays for an ERC-3009 transfer with one EIP-1559 transaction that it signs itself and
keeps as exact bytes. This module has its construction, the fee envelope it is signed under, and the
validator that recovery runs on stored bytes.

Encodings, hashes, signatures and the upstream classification of payer signatures are third-party
code: the fields of `EvmPrimitives`, with the laws the development relies on.
-/

namespace X402Facilitator

abbrev Address := BitVec 160

structure Erc3009Authorization where
  payer : Address
  payee : Address
  value : Nat
  validAfter : Nat
  validBefore : Nat
  nonce : Hash32
deriving DecidableEq

/-- The amounts and times fit their 256-bit words. -/
def Erc3009Authorization.Fits (authorization : Erc3009Authorization) : Prop :=
  authorization.value < 2 ^ 256 ∧ authorization.validAfter < 2 ^ 256 ∧
    authorization.validBefore < 2 ^ 256

structure TxEip1559 where
  chainId : Nat
  nonce : Nat
  gasLimit : Nat
  maxFeePerGas : Nat
  maxPriorityFeePerGas : Nat
  callTarget : Option Address
  value : Nat
  accessList : List (Address × List Hash32)
  input : Bytes
deriving DecidableEq

structure SignedEip1559 where
  tx : TxEip1559
  signature : Bytes
deriving DecidableEq

inductive TxEnvelope where
  | eip1559 (signed : SignedEip1559)
  | other (encoded : Bytes)
deriving DecidableEq

structure Eip712Domain where
  name : String
  version : String
  chainId : Option Nat
  verifyingContract : Option Address
  salt : Option Hash32
deriving DecidableEq

inductive SettleableSignature where
  | eoa (v : UInt8) (r s : Hash32)
  | eip1271 (signature : Bytes)
deriving DecidableEq

inductive UnsupportedSignature where
  | counterfactualWallet
  | malformed
deriving DecidableEq

inductive Erc3009SignatureKind where
  | eoa
  | eip1271
deriving DecidableEq

/-- Payment requirements as the upstream protocol types have them. -/
structure ExactRequirements where
  asset : Address
  payTo : Address
  amount : Nat
  name : String
  version : String
deriving DecidableEq

structure Eip3009Payload where
  accepted : ExactRequirements
  authorization : Erc3009Authorization
  signature : Bytes
deriving DecidableEq

inductive FacilitatorVerifyRequest where
  | eip3009 (payload : Eip3009Payload) (requirements : ExactRequirements)
  | permit2
deriving DecidableEq

/-- The typed requirements say what the `paymentRequirements` of the request say. -/
structure ExactRequirements.Reads (requirements : ExactRequirements)
    (parseAddress : String → Option Address) (request : Json) : Prop where
  asset : ∀ text, (request.get? "paymentRequirements").bind (·.get? "asset") = some (.string text) →
    parseAddress text = some requirements.asset
  payTo : ∀ text, (request.get? "paymentRequirements").bind (·.get? "payTo") = some (.string text) →
    parseAddress text = some requirements.payTo
  amount : ∀ text n, (request.get? "paymentRequirements").bind (·.get? "amount") =
    some (.string text) → decimalValue? text.toList = some n → requirements.amount = n

class EvmPrimitives where
  addressText : Address → String
  parseAddress : String → Option Address
  parseAddress_addressText : ∀ address, parseAddress (addressText address) = some address
  /-- The checksum is in the case of the letters only. -/
  asciiLower_addressText : ∀ address,
    asciiLower (addressText address) = String.ofList ('0' :: 'x' :: hexDigits 40 address.toNat)
  /-- An address is read in any case, with or without its leading `0x`. -/
  asciiLower_of_parseAddress : ∀ {text address}, parseAddress text = some address →
    asciiLower text = String.ofList ('0' :: 'x' :: hexDigits 40 address.toNat) ∨
      asciiLower text = String.ofList (hexDigits 40 address.toNat)
  b256Text : Hash32 → String
  parseB256 : String → Option Hash32
  parseB256_b256Text : ∀ hash, parseB256 (b256Text hash) = some hash
  /-- `U256::from_str_radix` of a decimal text. -/
  parseU256 : String → Option Nat
  parseU256_toString : ∀ {n}, n < 2 ^ 256 → parseU256 (toString n) = some n
  /-- `FacilitatorVerifyRequest::try_from`. -/
  facilitatorRequest : Json → Option FacilitatorVerifyRequest
  facilitatorRequest_reads : ∀ {request payload requirements},
    facilitatorRequest request = some (.eip3009 payload requirements) →
      requirements.Reads parseAddress request ∧ payload.authorization.Fits
  /-- `serde_json::from_slice`. -/
  jsonFromSlice : Bytes → Option Json
  /-- `PrivateKeySigner::address`. -/
  addressOf : (secretKey : Bytes) → Address
  /-- `sign_hash_sync` over the signature hash, and `into_signed`. -/
  signTransaction : (secretKey : Bytes) → TxEip1559 → Option SignedEip1559
  transactionHash : TxEnvelope → Hash32
  encode2718 : TxEnvelope → Bytes
  /-- `decode_2718`, with what it leaves unread. -/
  decode2718 : Bytes → Option (TxEnvelope × Bytes)
  recoverSigner : SignedEip1559 → Option Address
  /-- What the signer signed decodes from its bytes and recovers to the signer's address. -/
  recoverSigner_signTransaction : ∀ {secretKey tx signed}, signTransaction secretKey tx = some signed →
    signed.tx = tx ∧ decode2718 (encode2718 (.eip1559 signed)) = some (.eip1559 signed, []) ∧
      recoverSigner signed = some (addressOf secretKey)
  /-- The `bytes` overload of `transferWithAuthorization`. -/
  encodeBytesCall : Erc3009Authorization → Bytes → Bytes
  decodeBytesCall : Bytes → Option (Erc3009Authorization × Bytes)
  bytesCallSelector : Bytes
  decodeBytesCall_encodeBytesCall : ∀ {authorization} signature, authorization.Fits →
    bytesCallSelector <+: encodeBytesCall authorization signature ∧
      decodeBytesCall (encodeBytesCall authorization signature) = some (authorization, signature)
  /-- The `(v, r, s)` overload. -/
  encodeVrsCall : Erc3009Authorization → UInt8 → Hash32 → Hash32 → Bytes
  decodeVrsCall : Bytes → Option (Erc3009Authorization × UInt8 × Hash32 × Hash32)
  vrsCallSelector : Bytes
  decodeVrsCall_encodeVrsCall : ∀ {authorization} v r s, authorization.Fits →
    vrsCallSelector <+: encodeVrsCall authorization v r s ∧
      ¬ bytesCallSelector <+: encodeVrsCall authorization v r s ∧
      decodeVrsCall (encodeVrsCall authorization v r s) = some (authorization, v, r, s)
  b256Bytes : Hash32 → Bytes
  eip712TransferHash : Erc3009Authorization → Eip712Domain → Hash32
  /-- `StructuredSignature::try_from_bytes` and the match on its shape. -/
  classifySettleableSignature : Address → Bytes → Hash32 →
    Except UnsupportedSignature SettleableSignature
  /-- A signature is classified the same once it has been through the calldata. -/
  classify_eoa : ∀ {payer signature hash v r s},
    classifySettleableSignature payer signature hash = .ok (.eoa v r s) →
      ∃ v' r' s', classifySettleableSignature payer (b256Bytes r ++ b256Bytes s ++ [v]) hash =
        .ok (.eoa v' r' s')
  classify_eip1271 : ∀ {payer signature hash bytes},
    classifySettleableSignature payer signature hash = .ok (.eip1271 bytes) →
      ∃ bytes', classifySettleableSignature payer bytes hash = .ok (.eip1271 bytes')

export EvmPrimitives (addressText parseAddress parseAddress_addressText b256Text parseB256
  parseB256_b256Text parseU256 parseU256_toString addressOf encode2718 decode2718 recoverSigner
  recoverSigner_signTransaction eip712TransferHash classifySettleableSignature)

/-! ## Preparation -/

structure EvmVerifiedPayment where
  payer : Address
  paymentHash : Hash32
  asset : Address
  payTo : Address
  amount : Nat
  authorization : Erc3009Authorization
  signature : Bytes
deriving DecidableEq

structure EvmFeeEnvelope where
  gasLimit : Nat
  maxFeePerGas : Nat
  maxPriorityFeePerGas : Nat
deriving DecidableEq

structure EvmPrepared where
  txHash : Hash32
  signerAddress : Address
  accountNonce : Nat
  signedTxRlp : Bytes
  estimatedL1FeeWei : Option Nat
deriving DecidableEq

inductive EvmRpcError where
  | rpc
  | readerDisagreement (what : String)
  | invalidTransactionHash
  | invalidTransaction (what : String)
  | invalidReceipt (what : String)
  | invalidConfirmations
  | headBehindReceipt
  | feeOverflow
deriving DecidableEq

inductive EvmPrepareError where
  | signature (error : UnsupportedSignature)
  | rpc (error : EvmRpcError)
  | sign
  | feeCapExceeded
  | invalidFeeEstimate
deriving DecidableEq

/-- A quote of `estimate_eip1559_fees`. -/
structure FeeEstimate where
  maxFeePerGas : Nat
  maxPriorityFeePerGas : Nat
deriving DecidableEq

def boundedFeeEnvelope (gasLimit cap : Nat) (primary backup : FeeEstimate) :
    Except EvmPrepareError EvmFeeEnvelope :=
  if primary.maxFeePerGas = 0 ∨ backup.maxFeePerGas = 0 ∨
      primary.maxPriorityFeePerGas > primary.maxFeePerGas ∨
      backup.maxPriorityFeePerGas > backup.maxFeePerGas then
    .error .invalidFeeEstimate
  else if max primary.maxFeePerGas backup.maxFeePerGas > cap then .error .feeCapExceeded
  else .ok {
    gasLimit := gasLimit
    maxFeePerGas := max primary.maxFeePerGas backup.maxFeePerGas
    maxPriorityFeePerGas := max primary.maxPriorityFeePerGas backup.maxPriorityFeePerGas }

/-- The fees stay under the cap, at the gas limit. -/
structure EvmFeeEnvelope.Within (fees : EvmFeeEnvelope) (gasLimit cap : Nat) : Prop where
  gasLimit : fees.gasLimit = gasLimit
  positive : 0 < fees.maxFeePerGas
  cap : fees.maxFeePerGas ≤ cap
  priority : fees.maxPriorityFeePerGas ≤ fees.maxFeePerGas

theorem boundedFeeEnvelope_within {gasLimit cap : Nat} {primary backup : FeeEstimate}
    {fees : EvmFeeEnvelope} (h : boundedFeeEnvelope gasLimit cap primary backup = .ok fees) :
    fees.Within gasLimit cap := by
  unfold boundedFeeEnvelope at h
  split_ifs at h with hinvalid hcap
  obtain rfl := Except.ok.inj h
  simp only [not_or, not_lt, gt_iff_lt] at hinvalid hcap
  obtain ⟨hprimary, -, hp, hb⟩ := hinvalid
  exact ⟨rfl, lt_max_of_lt_left (Nat.pos_of_ne_zero hprimary), hcap, max_le_max hp hb⟩

section
variable [EvmPrimitives]

def settlementCalldata (authorization : Erc3009Authorization) (signature : Bytes)
    (eip712Prehash : Hash32) : Except UnsupportedSignature Bytes :=
  (classifySettleableSignature authorization.payer signature eip712Prehash).map fun
    | .eoa v r s => EvmPrimitives.encodeVrsCall authorization v r s
    | .eip1271 bytes => EvmPrimitives.encodeBytesCall authorization bytes

/-- The EIP-1559 transaction that calls `transferWithAuthorization` on the token. -/
def settlementTransaction (chainId accountNonce : Nat) (fees : EvmFeeEnvelope) (asset : Address)
    (calldata : Bytes) : TxEip1559 where
  chainId := chainId
  nonce := accountNonce
  gasLimit := fees.gasLimit
  maxFeePerGas := fees.maxFeePerGas
  maxPriorityFeePerGas := fees.maxPriorityFeePerGas
  callTarget := some asset
  value := 0
  accessList := []
  input := calldata

def signSettlementTransaction (secretKey : Bytes) (chainId accountNonce : Nat)
    (fees : EvmFeeEnvelope) (asset : Address) (calldata : Bytes) :
    Except EvmPrepareError EvmPrepared :=
  match EvmPrimitives.signTransaction secretKey
      (settlementTransaction chainId accountNonce fees asset calldata) with
  | none => .error .sign
  | some signed => .ok {
      txHash := EvmPrimitives.transactionHash (.eip1559 signed)
      signerAddress := addressOf secretKey
      accountNonce := accountNonce
      signedTxRlp := encode2718 (.eip1559 signed)
      estimatedL1FeeWei := none }

/-- The address that signed an encoded EIP-1559 transaction. -/
def signerOfBytes (bytes : Bytes) : Option Address :=
  match decode2718 bytes with
  | some (.eip1559 signed, []) => recoverSigner signed
  | _ => none

theorem signSettlementTransaction_ok {secretKey : Bytes} {chainId accountNonce : Nat}
    {fees : EvmFeeEnvelope} {asset : Address} {calldata : Bytes} {prepared : EvmPrepared}
    (h : signSettlementTransaction secretKey chainId accountNonce fees asset calldata
      = .ok prepared) :
    prepared.signerAddress = addressOf secretKey ∧ prepared.accountNonce = accountNonce ∧
      signerOfBytes prepared.signedTxRlp = some (addressOf secretKey) := by
  unfold signSettlementTransaction at h
  split at h
  · cases h
  · rename_i signed hsigned
    obtain rfl := Except.ok.inj h
    obtain ⟨-, hdecode, hrecover⟩ := recoverSigner_signTransaction hsigned
    exact ⟨rfl, rfl, by simp only [signerOfBytes, hdecode, hrecover]⟩

end

/-! ## Validation of stored bytes -/

structure ExpectedEvmSubmission where
  transactionHash : Hash32
  facilitatorSigner : Address
  chainId : Nat
  accountNonce : Nat
  token : Address
  gasLimit : Nat
  maxFeePerGas : Nat
  payer : Address
  payee : Address
  value : Nat
  validAfter : Nat
  validBefore : Nat
  authorizationNonce : Hash32
  paymentHash : Hash32
  domain : Eip712Domain
deriving DecidableEq

inductive StoredTransactionError where
  | invalidEnvelope
  | trailingBytes
  | unsupportedEnvelope
  | transactionHashMismatch
  | signerRecovery
  | signerMismatch
  | chainIdMismatch
  | accountNonceMismatch
  | tokenMismatch
  | nativeValue
  | gasLimitMismatch
  | feeCapExceeded
  | invalidFeeEnvelope
  | unexpectedAccessList
  | invalidCalldata
  | authorizationMismatch
  | domainMismatch
  | paymentHashMismatch
deriving DecidableEq

section
variable [EvmPrimitives]

def decodeAuthorizationCall (input : Bytes) :
    Except StoredTransactionError (Erc3009Authorization × Erc3009SignatureKind × Bytes) :=
  if EvmPrimitives.bytesCallSelector <+: input then
    match EvmPrimitives.decodeBytesCall input with
    | none => .error .invalidCalldata
    | some (authorization, signature) =>
      if EvmPrimitives.encodeBytesCall authorization signature ≠ input then .error .invalidCalldata
      else .ok (authorization, .eip1271, signature)
  else if EvmPrimitives.vrsCallSelector <+: input then
    match EvmPrimitives.decodeVrsCall input with
    | none => .error .invalidCalldata
    | some (authorization, v, r, s) =>
      if EvmPrimitives.encodeVrsCall authorization v r s ≠ input then .error .invalidCalldata
      else .ok (authorization, .eoa,
        EvmPrimitives.b256Bytes r ++ EvmPrimitives.b256Bytes s ++ [v])
  else .error .invalidCalldata

/-- The checks on the decoded envelope, before its calldata is read. -/
def checkEnvelope (signed : SignedEip1559) (expected : ExpectedEvmSubmission) :
    Except StoredTransactionError Unit :=
  if EvmPrimitives.transactionHash (.eip1559 signed) ≠ expected.transactionHash then
    .error .transactionHashMismatch
  else
    match recoverSigner signed with
    | none => .error .signerRecovery
    | some signer =>
      if signer ≠ expected.facilitatorSigner then .error .signerMismatch
      else if signed.tx.chainId ≠ expected.chainId then .error .chainIdMismatch
      else if signed.tx.nonce ≠ expected.accountNonce then .error .accountNonceMismatch
      else if signed.tx.callTarget ≠ some expected.token then .error .tokenMismatch
      else if signed.tx.value ≠ 0 then .error .nativeValue
      else if signed.tx.gasLimit ≠ expected.gasLimit then .error .gasLimitMismatch
      else if signed.tx.maxFeePerGas > expected.maxFeePerGas then .error .feeCapExceeded
      else if signed.tx.maxFeePerGas = 0 ∨
          signed.tx.maxPriorityFeePerGas > signed.tx.maxFeePerGas then
        .error .invalidFeeEnvelope
      else if signed.tx.accessList ≠ [] then .error .unexpectedAccessList
      else if expected.domain.chainId ≠ some expected.chainId ∨
          expected.domain.verifyingContract ≠ some expected.token ∨
          expected.domain.salt ≠ none then
        .error .domainMismatch
      else .ok ()

def validateSignedTransaction (signedTxRlp : Bytes) (expected : ExpectedEvmSubmission) :
    Except StoredTransactionError Unit :=
  match decode2718 signedTxRlp with
  | none => .error .invalidEnvelope
  | some (envelope, remaining) =>
    if remaining ≠ [] then .error .trailingBytes
    else if encode2718 envelope ≠ signedTxRlp then .error .invalidEnvelope
    else match envelope with
      | .other _ => .error .unsupportedEnvelope
      | .eip1559 signed => do
        checkEnvelope signed expected
        let (authorization, signatureKind, payerSignature) ← decodeAuthorizationCall signed.tx.input
        if authorization ≠ ⟨expected.payer, expected.payee, expected.value, expected.validAfter,
            expected.validBefore, expected.authorizationNonce⟩ then
          .error .authorizationMismatch
        else if eip712TransferHash authorization expected.domain ≠ expected.paymentHash then
          .error .paymentHashMismatch
        else
          match classifySettleableSignature authorization.payer payerSignature
              (eip712TransferHash authorization expected.domain) with
          | .ok (.eoa ..) => if signatureKind = .eoa then .ok () else .error .invalidCalldata
          | .ok (.eip1271 _) =>
            if signatureKind = .eip1271 then .ok () else .error .invalidCalldata
          | .error _ => .error .invalidCalldata

/-! ## The validator accepts what is signed -/

/-- The calldata of a settlement decodes to its authorization and a payer signature of its kind. -/
theorem decodeAuthorizationCall_settlementCalldata {authorization : Erc3009Authorization}
    {signature : Bytes} {hash : Hash32} {calldata : Bytes} (hfits : authorization.Fits)
    (h : settlementCalldata authorization signature hash = .ok calldata) :
    ∃ kind payerSignature settleable,
      decodeAuthorizationCall calldata = .ok (authorization, kind, payerSignature) ∧
        classifySettleableSignature authorization.payer payerSignature hash = .ok settleable ∧
        ((kind = .eoa ∧ ∃ v r s, settleable = .eoa v r s) ∨
          kind = .eip1271 ∧ ∃ bytes, settleable = .eip1271 bytes) := by
  unfold settlementCalldata at h
  cases hclass : classifySettleableSignature authorization.payer signature hash with
  | error e =>
    rw [hclass] at h
    cases h
  | ok settleable =>
    rw [hclass] at h
    obtain rfl := Except.ok.inj h
    cases settleable with
    | eoa v r s =>
      obtain ⟨hselector, hother, hdecode⟩ :=
        EvmPrimitives.decodeVrsCall_encodeVrsCall v r s hfits
      obtain ⟨v', r', s', hclass'⟩ := EvmPrimitives.classify_eoa hclass
      refine ⟨.eoa, _, _, ?_, hclass', .inl ⟨rfl, v', r', s', rfl⟩⟩
      simp [decodeAuthorizationCall, hselector, hother, hdecode]
    | eip1271 bytes =>
      obtain ⟨hselector, hdecode⟩ :=
        EvmPrimitives.decodeBytesCall_encodeBytesCall bytes hfits
      obtain ⟨bytes', hclass'⟩ := EvmPrimitives.classify_eip1271 hclass
      refine ⟨.eip1271, _, _, ?_, hclass', .inr ⟨rfl, bytes', rfl⟩⟩
      simp [decodeAuthorizationCall, hselector, hdecode]

/-- What recovery expects of the transaction of an authorization. -/
def expectedSubmission (txHash : Hash32) (signer : Address) (chainId nonce : Nat) (token : Address)
    (gasLimit maxFeePerGas : Nat) (authorization : Erc3009Authorization) (domain : Eip712Domain) :
    ExpectedEvmSubmission where
  transactionHash := txHash
  facilitatorSigner := signer
  chainId := chainId
  accountNonce := nonce
  token := token
  gasLimit := gasLimit
  maxFeePerGas := maxFeePerGas
  payer := authorization.payer
  payee := authorization.payee
  value := authorization.value
  validAfter := authorization.validAfter
  validBefore := authorization.validBefore
  authorizationNonce := authorization.nonce
  paymentHash := eip712TransferHash authorization domain
  domain := domain

/-- Recovery accepts the bytes that preparation signs, when it expects the authorization that they
carry. -/
theorem validateSignedTransaction_of_signed {authorization : Erc3009Authorization}
    {signature secretKey calldata : Bytes} {domain : Eip712Domain} {chainId nonce gasLimit cap : Nat}
    {fees : EvmFeeEnvelope} {asset : Address} {prepared : EvmPrepared}
    (hfits : authorization.Fits) (hchain : domain.chainId = some chainId)
    (hcontract : domain.verifyingContract = some asset) (hsalt : domain.salt = none)
    (hcalldata : settlementCalldata authorization signature
      (eip712TransferHash authorization domain) = .ok calldata)
    (hfees : fees.Within gasLimit cap)
    (hsigned : signSettlementTransaction secretKey chainId nonce fees asset calldata
      = .ok prepared) :
    validateSignedTransaction prepared.signedTxRlp (expectedSubmission prepared.txHash
      (addressOf secretKey) chainId nonce asset gasLimit cap authorization domain) = .ok () := by
  unfold signSettlementTransaction at hsigned
  split at hsigned
  · cases hsigned
  rename_i signed hsign
  obtain rfl := Except.ok.inj hsigned
  obtain ⟨htx, hdecode, hrecover⟩ := recoverSigner_signTransaction hsign
  obtain ⟨kind, payerSignature, settleable, hcall, hclass, hkind⟩ :=
    decodeAuthorizationCall_settlementCalldata hfits hcalldata
  have henvelope : checkEnvelope signed (expectedSubmission
      (EvmPrimitives.transactionHash (.eip1559 signed)) (addressOf secretKey) chainId nonce asset
      gasLimit cap authorization domain) = .ok () := by
    have hpositive := hfees.positive
    have hcap := hfees.cap
    have hpriority := hfees.priority
    simp [checkEnvelope, expectedSubmission, hrecover, htx, settlementTransaction, hfees.gasLimit,
      hchain, hcontract, hsalt, Nat.not_lt.mpr hcap, Nat.not_lt.mpr hpriority,
      Nat.pos_iff_ne_zero.mp hpositive]
  have hinput : signed.tx.input = calldata := by rw [htx]; rfl
  simp only [validateSignedTransaction, hdecode, ne_eq, not_true_eq_false, if_false, henvelope,
    hinput, hcall, bind, Except.bind]
  simp only [expectedSubmission, not_true_eq_false, if_false, hclass]
  obtain ⟨rfl, v, r, s, rfl⟩ | ⟨rfl, bytes, rfl⟩ := hkind <;> rfl

end

end X402Facilitator
