import X402Facilitator.Service.Config

/-!
# Verification of an EVM payment

What the provider does around the upstream check of an ERC-3009 payment: it parses the request,
refuses another token, another token domain and a signature that it could not settle, and derives the
payment hash. The same steps without the upstream check give the payment's identity offline.
-/

namespace X402Facilitator

structure EvmVerifyRejection where
  reason : String
  rpcAmbiguous : Bool
deriving DecidableEq

def EvmVerifyRejection.definitive (reason : String) : EvmVerifyRejection := ⟨reason, false⟩

inductive PaymentVerificationError where
  | invalidFormat
  | invalidPaymentAmount
  | early
  | expired
  | chainIdMismatch
  | recipientMismatch
  | assetMismatch
  | insufficientFunds
  | insufficientAllowance
  | invalidSignature
  | transactionSimulation
  | unsupportedChain
  | unsupportedScheme
  | acceptedRequirementsMismatch
deriving DecidableEq

/-- `X402SchemeFacilitatorError`. -/
inductive EvmFacilitatorError where
  | onchainFailure
  | paymentVerification (error : PaymentVerificationError)
deriving DecidableEq

def classifyVerifyError : EvmFacilitatorError → EvmVerifyRejection
  | .onchainFailure => ⟨"onchain_failure", true⟩
  | .paymentVerification error => .definitive <| match error with
    | .invalidFormat => "invalid_format"
    | .invalidPaymentAmount => "invalid_payment_amount"
    | .early => "authorization_not_yet_valid"
    | .expired => "authorization_expired"
    | .chainIdMismatch => "chain_id_mismatch"
    | .recipientMismatch => "recipient_mismatch"
    | .assetMismatch => "asset_mismatch"
    | .insufficientFunds => "insufficient_funds"
    | .insufficientAllowance => "insufficient_allowance"
    | .invalidSignature => "invalid_signature"
    | .transactionSimulation => "simulation_failed"
    | .unsupportedChain => "unsupported_chain"
    | .unsupportedScheme => "unsupported_scheme"
    | .acceptedRequirementsMismatch => "accepted_requirements_mismatch"

/-- The answer of the upstream check. -/
inductive EvmVerifyResponse where
  | valid (payer : String)
  | invalid
deriving DecidableEq

section
variable [EvmPrimitives]

def validateTokenDomain (expectedName suppliedName suppliedVersion : String) :
    Except EvmVerifyRejection Unit :=
  if suppliedName ≠ expectedName ∨ suppliedVersion ≠ "2" then
    .error (.definitive "invalid_token_domain")
  else .ok ()

def classifySignatureBeforeRpc (authorization : Erc3009Authorization) (signature : Bytes)
    (domain : Eip712Domain) : Except EvmVerifyRejection Hash32 :=
  let paymentHash := eip712TransferHash authorization domain
  match classifySettleableSignature authorization.payer signature paymentHash with
  | .error .counterfactualWallet => .error (.definitive "unsupported_eip6492")
  | .error .malformed => .error (.definitive "invalid_signature")
  | .ok _ => .ok paymentHash

/-- The payload of an ERC-3009 payment with the configured token. -/
def eip3009Request (provider : EvmProvider) (request : Json) :
    Except EvmVerifyRejection (Eip3009Payload × ExactRequirements) :=
  match EvmPrimitives.facilitatorRequest request with
  | none => .error (.definitive "invalid_format")
  | some .permit2 => .error (.definitive "unsupported_permit2_scheme")
  | some (.eip3009 payload requirements) =>
    if payload.accepted.asset ≠ provider.asset then .error (.definitive "asset_mismatch")
    else do
      validateTokenDomain provider.transferDomainName payload.accepted.name payload.accepted.version
      return (payload, requirements)

/-- `EvmChainProvider::offline_payment_hash`. -/
def EvmProvider.offlinePaymentHash (provider : EvmProvider) (request : Json) :
    Except EvmVerifyRejection Hash32 := do
  let (payload, _) ← eip3009Request provider request
  return eip712TransferHash payload.authorization provider.transferDomain

/-- `EvmChainProvider::verify` once the upstream check has answered. -/
def evmVerified (payload : Eip3009Payload) (paymentHash : Hash32) (response : EvmVerifyResponse) :
    Except EvmVerifyRejection EvmVerifiedPayment :=
  match response with
  | .invalid => .error (.definitive "invalid_payment")
  | .valid payer =>
    match parseAddress payer with
    | none => .error (.definitive "invalid_payer_address")
    | some payer =>
      if payer ≠ payload.authorization.payer then .error (.definitive "payer_mismatch")
      else .ok {
        payer := payer
        paymentHash := paymentHash
        asset := payload.accepted.asset
        payTo := payload.accepted.payTo
        amount := payload.accepted.amount
        authorization := payload.authorization
        signature := payload.signature }

/-! ## What the checks establish -/

theorem classifySignatureBeforeRpc_ok {authorization : Erc3009Authorization} {signature : Bytes}
    {domain : Eip712Domain} {hash : Hash32}
    (h : classifySignatureBeforeRpc authorization signature domain = .ok hash) :
    hash = eip712TransferHash authorization domain := by
  simp only [classifySignatureBeforeRpc] at h
  split at h
  · cases h
  · cases h
  · exact (Except.ok.inj h).symm

theorem eip3009Request_ok {provider : EvmProvider} {request : Json} {payload : Eip3009Payload}
    {requirements : ExactRequirements}
    (h : eip3009Request provider request = .ok (payload, requirements)) :
    EvmPrimitives.facilitatorRequest request = some (.eip3009 payload requirements) ∧
      payload.accepted.asset = provider.asset := by
  unfold eip3009Request at h
  split at h
  · cases h
  · cases h
  · rename_i payload' requirements' hrequest
    obtain ⟨hasset, h⟩ := Except.of_ite_error h
    obtain ⟨_, -, h⟩ := Except.exists_of_bind h
    obtain ⟨rfl, rfl⟩ := Prod.mk.inj (Except.ok.inj h)
    exact ⟨hrequest, not_not.mp hasset⟩

theorem evmVerified_ok {payload : Eip3009Payload} {paymentHash : Hash32}
    {response : EvmVerifyResponse} {payment : EvmVerifiedPayment}
    (h : evmVerified payload paymentHash response = .ok payment) :
    ∃ payer, response = .valid payer ∧ payment.payer = payload.authorization.payer ∧
      payment.paymentHash = paymentHash ∧ payment.authorization = payload.authorization ∧
      payment.asset = payload.accepted.asset := by
  cases response with
  | invalid => cases h
  | valid payer =>
    simp only [evmVerified] at h
    split at h
    · cases h
    · obtain ⟨hpayer, h⟩ := Except.of_ite_error h
      obtain rfl := Except.ok.inj h
      exact ⟨payer, rfl, not_not.mp hpayer, rfl, rfl, rfl⟩

end

end X402Facilitator
