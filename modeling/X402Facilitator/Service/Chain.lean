import X402Facilitator.Service.Effects

/-!
# Chain providers

The operations of `ChainProvider`: heads, verification, preparation, broadcast and reconciliation, on
NEAR and on EVM. Every call to an RPC endpoint is one operation. Calls that the source joins run here
one after the other, the primary reader first; their answers are arbitrary either way.
-/

namespace X402Facilitator

open Service

/-! ## Identity of a verified payment -/

inductive AuthorizationMetadata where
  | near (delegatePublicKey : String) (delegateNonce maxBlockHeight : Nat)
  | evm (metadata : EvmAuthorizationMetadata)
deriving DecidableEq

structure PaymentIdentity where
  requestHash : Hash32
  anchorScope : String
  anchorValue : Hash32
  authorization : AuthorizationMetadata
deriving DecidableEq

def VerifiedPayment.identity (payment : VerifiedPayment) : PaymentIdentity :=
  match payment.detail with
  | .near near => {
      requestHash := payment.paymentHash
      anchorScope := "near"
      anchorValue := payment.paymentHash
      authorization := .near near.payerPublicKey near.delegateNonce near.maxBlockHeight }
  | .evm evm => {
      requestHash := payment.paymentHash
      anchorScope := Settlement.evmAnchorScope payment.requirements.network
        payment.requirements.asset payment.payer
      anchorValue := evm.authorization.nonce
      authorization := .evm ⟨2, toString evm.authorization.validAfter,
        toString evm.authorization.validBefore⟩ }

def VerifiedPayment.ofNear (near : NearVerifiedPayment) : VerifiedPayment where
  payer := near.payer.text
  paymentHash := near.paymentHash
  requirements := {
    network := near.requirements.network
    asset := near.requirements.asset.text
    payTo := near.requirements.payTo.text
    amountDecimal := near.requirements.amount }
  detail := .near near

def VerifiedPayment.ofEvm [EvmPrimitives] (provider : EvmProvider) (evm : EvmVerifiedPayment) :
    VerifiedPayment where
  payer := addressText evm.payer
  paymentHash := evm.paymentHash
  requirements := {
    network := provider.caip2
    asset := addressText evm.asset
    payTo := addressText evm.payTo
    amountDecimal := evm.amount }
  detail := .evm evm

/-! ## Reads -/

/-- A read that is repeated while it fails. -/
def retryRead {ε α : Type} (read : Service (Except ε α)) : Service (Except ε α) :=
  retryWhileTransient read fun result => !result.isOk

def relayerHeadFrom (relayer : NearProvider) (reader : Reader) :
    Service (Except NearRpcError RelayerHead) := do
  andThen (← ask (.nearFinalBlock reader)) fun block => do
    andThen (← ask (.nearAccessKey reader block.hash relayer.accountId relayer.publicKey))
      fun accessKey => do
        if ¬ accessKey.fullAccess then
          return .error (.invalidResponse "relayer key is not full access")
        return .ok ⟨block.height, block.hash, accessKey.nonce⟩

def relayerStatus (relayer : NearProvider) : Service (Except NearRpcError NearRelayerStatus) := do
  andThen (← relayerHeadFrom relayer .primary) fun head => do
    andThen (← ask (.nearAccount head.blockHash relayer.accountId)) fun amount => do
      return .ok ⟨head.blockHeight, head.blockHash, head.accessKeyNonce, amount⟩

/-- `EvmHeadSnapshotFailure::into_rpc_error`. -/
def EvmHeadSnapshotFailure.intoRpcError : EvmHeadSnapshotFailure → EvmRpcError
  | primaryRpcUnavailable | backupRpcUnavailable | bothRpcUnavailable => .rpc
  | chainIdMismatch => .readerDisagreement "chain id"
  | pendingNonceDisagreement => .readerDisagreement "pending account nonce"

/-- Both readers of a merged read. -/
def mergeReads {ε α β : Type} (merge : α → α → Except ε β) (primary backup : Except ε α) :
    Except ε β := do
  merge (← primary) (← backup)

inductive SignerHeadError where
  | near (error : NearRpcError)
  | evm (error : EvmRpcError)
deriving DecidableEq

section
variable [EvmPrimitives]

def evmSnapshot (provider : EvmProvider) : Service (Except EvmHeadSnapshotFailure EvmHead) := do
  let primary ← retryRead (ask (.evmEndpointHead .primary provider.signerAddress))
  let backup ← retryRead (ask (.evmEndpointHead .backup provider.signerAddress))
  return mergeHeadSnapshot provider.chainId provider.signerAddress primary backup

/-- `EvmChainProvider::head`. -/
def evmHead (provider : EvmProvider) : Service (Except EvmRpcError EvmHead) := do
  match ← evmSnapshot provider with
  | .ok head => return .ok head
  | .error failure => return .error failure.intoRpcError

def receiptOnce (reader : Reader) (hash : Hash32) :
    Service (Except EvmRpcError ReceiptObservation) := do
  andThen (← ask (.evmReceipt reader hash)) fun value => return parseRawReceipt hash value

def transactionOnce (provider : EvmProvider) (reader : Reader) (hash : Hash32) :
    Service (Except EvmRpcError TransactionObservation) := do
  andThen (← ask (.evmTransaction reader hash)) fun value =>
    return parseRawTransaction hash provider.chainId provider.signerAddress provider.asset value

def safeBlockNumber (provider : EvmProvider) : Service (Except EvmRpcError Nat) := do
  let primary ← retryRead (ask (.evmBlockHead .primary))
  let backup ← retryRead (ask (.evmBlockHead .backup))
  return mergeReads (fun p b : Nat × Nat =>
    if p.1 ≠ provider.chainId ∨ b.1 ≠ provider.chainId then
      .error (.readerDisagreement "chain id")
    else .ok (min p.2 b.2)) primary backup

def mergedReceipt (hash : Hash32) : Service (Except EvmRpcError ReceiptObservation) := do
  let primary ← retryRead (receiptOnce .primary hash)
  let backup ← retryRead (receiptOnce .backup hash)
  return mergeReads mergeReceipts primary backup

def mergedTransaction (provider : EvmProvider) (hash : Hash32) :
    Service (Except EvmRpcError TransactionObservation) := do
  let primary ← retryRead (transactionOnce provider .primary hash)
  let backup ← retryRead (transactionOnce provider .backup hash)
  return mergeReads mergeTransactions primary backup

def reconcileWithConfirmations (provider : EvmProvider) (hash : Hash32)
    (requiredConfirmations : Nat) : Service (Except EvmRpcError EvmReconcileStatus) := do
  if requiredConfirmations = 0 then
    return .error .invalidConfirmations
  let firstReceipt ← mergedReceipt hash
  let transaction ← mergedTransaction provider hash
  andThen firstReceipt fun firstReceipt =>
    andThen transaction fun transaction => do
      andThen (← safeBlockNumber provider) fun headBlock => do
        match firstReceipt with
        | .mined _ =>
          andThen (← mergedReceipt hash) fun rechecked =>
            return classifyReconciliation firstReceipt transaction (some rechecked) headBlock
              requiredConfirmations
        | _ =>
          return classifyReconciliation firstReceipt transaction none headBlock
            requiredConfirmations

def reconcileHashWithConfirmations (provider : EvmProvider) (txHash : String)
    (requiredConfirmations : Nat) : Service (Except EvmRpcError EvmReconcileStatus) :=
  match parseB256 txHash with
  | none => return .error .invalidTransactionHash
  | some hash => reconcileWithConfirmations provider hash requiredConfirmations

def feeEnvelope (provider : EvmProvider) : Service (Except EvmPrepareError EvmFeeEnvelope) := do
  let primary ← retryRead (ask (.evmFees .primary))
  let backup ← retryRead (ask (.evmFees .backup))
  match primary, backup with
  | .ok primary, .ok backup =>
    return boundedFeeEnvelope provider.gasLimit provider.maxFeePerGas primary backup
  | .error e, _ | .ok _, .error e => return .error (.rpc e)

def estimateL1FeeWei (bytes : Bytes) : Service (Except EvmRpcError Nat) := do
  let primary ← retryRead (ask (.evmL1Fee .primary bytes))
  let backup ← retryRead (ask (.evmL1Fee .backup bytes))
  return mergeReads (fun p b : Nat => .ok (max p b)) primary backup

/-- `EvmChainProvider::prepare`. -/
def prepareEvm (provider : EvmProvider) (payment : EvmVerifiedPayment) (accountNonce : Nat) :
    Service (Except EvmPrepareError EvmPrepared) :=
  match settlementCalldata payment.authorization payment.signature payment.paymentHash with
  | .error e => return .error (.signature e)
  | .ok calldata => do
    andThen (← feeEnvelope provider) fun fees =>
      andThen (signSettlementTransaction provider.secretKey provider.chainId accountNonce fees
          provider.asset calldata) fun prepared => do
        match ← estimateL1FeeWei prepared.signedTxRlp with
        | .error e => return .error (.rpc e)
        | .ok fee => return .ok { prepared with estimatedL1FeeWei := some fee }

end

/-! ## Verification -/

section
variable [NearPrimitives]

/-- `storage_balance_of`: a token without the method needs no registration. -/
def verifyNearStorage (offline : OfflineVerified) (block : FinalBlock) (asset : AccountId)
    (amount : Nat) : Service (Except VerificationFailure NearVerifiedPayment) :=
  match AccountId.parse offline.requirements.payTo with
  | none => return .error .storageCheckFailed
  | some payTo => do
    match ← ask (.nearViewCall block.hash asset "storage_balance_of" payTo) with
    | .ok (some storage) =>
      if storage.isNull then return .error .recipientNotRegisteredForStorage
      else return .ok (offline.payment asset payTo amount)
    | .error .methodNotFound => return .ok (offline.payment asset payTo amount)
    | .ok none | .error _ => return .error .storageCheckFailed

/-- `ft_balance_of`. -/
def verifyNearBalance (offline : OfflineVerified) (block : FinalBlock) (asset : AccountId) :
    Service (Except VerificationFailure NearVerifiedPayment) := do
  match ← ask (.nearViewCall block.hash asset "ft_balance_of"
      offline.decoded.signedDelegate.senderId) with
  | .ok (some (.string balance)) =>
    match parseDecimal balance, parseDecimal offline.requirements.amount with
    | some balance, some amount =>
      if balance < amount then return .error .insufficientFunds
      else verifyNearStorage offline block asset amount
    | _, _ => return .error .balanceCheckFailed
  | _ => return .error .balanceCheckFailed

def verifyNearToken (offline : OfflineVerified) (block : FinalBlock) :
    Service (Except VerificationFailure NearVerifiedPayment) :=
  match AccountId.parse offline.requirements.asset with
  | none => return .error .tokenAccountLookupFailed
  | some asset => do
    match ← ask (.nearContract block.hash asset) with
    | .ok hasCode =>
      let hasCode : Bool := hasCode
      if ¬ hasCode then return .error .tokenContractHasNoCode
      else verifyNearBalance offline block asset
    | .error .accountNotFound => return .error .tokenAccountNotFound
    | .error _ => return .error .tokenAccountLookupFailed

def verifyNearPayer (offline : OfflineVerified) (block : FinalBlock) :
    Service (Except VerificationFailure NearVerifiedPayment) := do
  let delegate := offline.decoded.signedDelegate
  match ← ask (.nearPayerKey block.hash delegate.senderId delegate.publicKey) with
  | .error .accessKeyNotFound => return .error .accessKeyNotFound
  | .error _ => return .error .accessKeyLookupFailed
  | .ok accessKey =>
    if delegate.nonce ≤ accessKey.nonce then return .error .delegateNonceAlreadyUsed
    else
      match accessKey.permission with
      | .functionCall => return .error .functionCallKeyNotAllowed
      | .gasKeyFunctionCall | .gasKeyFullAccess => return .error .unsupportedAccessKeyPermission
      | .fullAccess =>
        match ← ask (.nearAccount block.hash delegate.senderId) with
        | .ok _ => verifyNearToken offline block
        | .error .accountNotFound => return .error .senderAccountNotFound
        | .error _ => return .error .accountLookupFailed

/-- `verify_proto_request`; every read after the first is pinned to the same final block. -/
def verifyProtoRequest (relayer : NearProvider) (request : Json) (maxSponsoredGas : Nat) :
    Service (Except VerificationFailure NearVerifiedPayment) :=
  andThen (verifyOffline relayer request maxSponsoredGas) fun offline => do
    match ← ask (.nearFinalBlock .primary) with
    | .error _ => return .error .currentBlockHeightUnavailable
    | .ok block => andThen (checkHeight offline block.height) fun _ => verifyNearPayer offline block

end

/-- `VerifyRejection::from_near`. -/
def VerifyRejection.fromNear (failure : VerificationFailure) : VerifyRejection :=
  ⟨failure.reason, failure.isRpcAmbiguous⟩

/-- `VerifyRejection::from_evm`. -/
def VerifyRejection.fromEvm (rejection : EvmVerifyRejection) : VerifyRejection :=
  ⟨rejection.reason, rejection.rpcAmbiguous⟩

/-- `EvmChainProvider::verify`. -/
def verifyEvm [EvmPrimitives] (provider : EvmProvider) (request : Json) :
    Service (Except EvmVerifyRejection EvmVerifiedPayment) :=
  andThen (eip3009Request provider request) fun (payload, requirements) =>
    andThen (classifySignatureBeforeRpc payload.authorization payload.signature
        provider.transferDomain) fun paymentHash => do
      let response ← retryWhileTransient (ask (.evmVerify payload requirements)) fun
        | .error error => (classifyVerifyError error).rpcAmbiguous
        | .ok _ => false
      match response with
      | .error error => return .error (classifyVerifyError error)
      | .ok response => return evmVerified payload paymentHash response

/-! ## Interpretation -/

inductive NearInterpretation where
  | terminal (outcome : TerminalOutcome)
  | indeterminate (reason : String)
deriving DecidableEq

def evmTerminalToNeutral [EvmPrimitives] (outcome : EvmTerminalOutcome) : TerminalOutcome where
  success := outcome.success
  txHash := b256Text outcome.txHash
  feeAtomic := outcome.feeWei
  gasUnits := outcome.gasUsed
  failureDetail := if outcome.success then none else some "evm_execution_reverted"
  minedBlockNumber := some outcome.blockNumber
  minedBlockHash := outcome.blockHash.map b256Text
  confirmations := some outcome.confirmations

section
variable [NearPrimitives]

/-- The terminal outcome of a NEAR transaction whose final outcome has been accepted. -/
def nearTerminal (outcome : FinalExecutionOutcomeView) (hash : CryptoHash)
    (failureDetail : Option String) : TerminalOutcome where
  success := failureDetail.isNone
  txHash := hashText hash
  feeAtomic := (executionCostNear outcome).2
  gasUnits := (executionCostNear outcome).1
  failureDetail := failureDetail
  minedBlockNumber := none
  minedBlockHash := none
  confirmations := none

def interpretNearFinal (outcome : FinalExecutionOutcomeView) (transactionHash : CryptoHash)
    (signer payer asset : AccountId) : NearInterpretation :=
  match validateFinalOutcomeIdentity outcome transactionHash signer payer with
  | .error e => .indeterminate e.message
  | .ok () =>
    match interpretFinalOutcome outcome payer asset with
    | .ok _ => .terminal (nearTerminal outcome transactionHash none)
    | .error e =>
      if e.isDefinitiveFailure then
        .terminal (nearTerminal outcome transactionHash (some e.message))
      else .indeterminate e.message

end

def nearFinalOutcome : Except NearRpcError TransactionLookup → Option FinalExecutionOutcomeView
  | .ok (.final outcome) => some outcome
  | _ => none

def nearLookupUnknown : Except NearRpcError TransactionLookup → Bool
  | .ok .unknown | .error .transactionUnknown => true
  | _ => false

def nearLookupPending : Except NearRpcError TransactionLookup → Bool
  | .ok .pending => true
  | _ => false

def finalOutcomesConflict {α : Type} [DecidableEq α] : Option α → Option α → Bool
  | some primary, some backup => primary ≠ backup
  | _, _ => false

/-! ## `ChainProvider` -/

inductive PrepareError where
  | invalidSignerHead
  | near (error : NearRpcError)
  | evm (error : EvmPrepareError)
deriving DecidableEq

namespace ChainProvider

section
variable [NearPrimitives] [EvmPrimitives]

def durableSubmission (provider : ChainProvider) (prepared : Prepared) : DurableSubmission where
  submitter := prepared.signerId
  nonce := prepared.signerNonce
  bytes := prepared.submitBytes
  hash := prepared.submitHash
  recoveryPolicy := match provider with
    | near _ => .nearFinality
    | evm provider => .evmConfirmations provider.requiredConfirmations

/-- `evm_head_to_signer_head`. -/
def evmHeadToSignerHead (head : EvmHead) : SignerHead where
  chainBlockHeight := head.blockNumber
  chainBlockRef := ""
  signerNonce := head.accountNonce
  signerId := addressText head.signerAddress
  signerPublicKey := addressText head.signerAddress
  signerBalanceAtomic := head.gasBalanceWei

def evmSignerHead (provider : EvmProvider) : Service (Except SignerHeadError SignerHead) := do
  match ← evmHead provider with
  | .error e => return .error (.evm e)
  | .ok head => return .ok (evmHeadToSignerHead head)

def signerHead : ChainProvider → Service (Except SignerHeadError SignerHead)
  | near relayer => do
    match ← relayerStatus relayer with
    | .error e => return .error (.near e)
    | .ok status => return .ok {
        chainBlockHeight := status.blockHeight
        chainBlockRef := hashText status.blockHash
        signerNonce := status.accessKeyNonce
        signerId := relayer.accountId.text
        signerPublicKey := relayer.publicKey
        signerBalanceAtomic := status.amount }
  | evm provider => evmSignerHead provider

def backupSignerHead : ChainProvider → Service (Except SignerHeadError SignerHead)
  | near relayer => do
    match ← relayerHeadFrom relayer .backup with
    | .error e => return .error (.near e)
    | .ok head => return .ok {
        chainBlockHeight := head.blockHeight
        chainBlockRef := hashText head.blockHash
        signerNonce := head.accessKeyNonce
        signerId := relayer.accountId.text
        signerPublicKey := relayer.publicKey
        signerBalanceAtomic := 0 }
  | evm provider => evmSignerHead provider

def verify (provider : ChainProvider) (request : Json) (maxSponsoredGas : Nat) :
    Service (Except VerifyRejection VerifiedPayment) :=
  match provider with
  | near relayer => do
    match ← retryWhileTransient (verifyProtoRequest relayer request maxSponsoredGas) fun
        | .error failure => failure.isRpcAmbiguous
        | .ok _ => false with
    | .error failure => return .error (.fromNear failure)
    | .ok payment => return .ok (.ofNear payment)
  | evm provider => do
    match ← verifyEvm provider request with
    | .error rejection => return .error (.fromEvm rejection)
    | .ok payment => return .ok (.ofEvm provider payment)

/-- `offline_payment_hash`. -/
def offlinePaymentHash (provider : ChainProvider) (request : Json) : Except String Hash32 :=
  match provider with
  | near _ => .error "not_eip155"
  | evm provider =>
    match provider.offlinePaymentHash request with
    | .ok hash => .ok hash
    | .error rejection => .error rejection.reason

def prepare (provider : ChainProvider) (payment : VerifiedPayment) (head : SignerHead) :
    Service (Except PrepareError Prepared) :=
  match provider, payment.detail with
  | near relayer, .near nearPayment =>
    match parseHash head.chainBlockRef with
    | none => return .error .invalidSignerHead
    | some blockHash =>
      if 2 ^ 64 ≤ head.signerNonce then return .error .invalidSignerHead
      else
        match prepareOuterTransaction relayer nearPayment
            ⟨head.chainBlockHeight, blockHash, head.signerNonce⟩ with
        | .error e => return .error (.near e)
        | .ok prepared => return .ok {
            submitBytes := prepared.signedTransactionBytes
            submitHash := hashText prepared.transactionHash
            signerId := prepared.signerId.text
            signerPublicKey := prepared.signerPublicKey
            signerNonce := prepared.relayerNonce
            detail := .near prepared }
  | evm provider, .evm evmPayment =>
    if 2 ^ 64 ≤ head.signerNonce then return .error .invalidSignerHead
    else do
      match ← prepareEvm provider evmPayment head.signerNonce with
      | .error e => return .error (.evm e)
      | .ok prepared => return .ok {
          submitBytes := prepared.signedTxRlp
          submitHash := b256Text prepared.txHash
          signerId := addressText prepared.signerAddress
          signerPublicKey := addressText prepared.signerAddress
          signerNonce := prepared.accountNonce
          detail := .evm prepared }
  | _, _ => return .error .invalidSignerHead

/-- `broadcast_exact`: the bytes are decoded, and the decoded transaction goes to the primary RPC. -/
def broadcastExact (bytes : Bytes) : Service (Except NearRpcError TransactionLookup) :=
  match decodeSignedTransaction bytes with
  | .error e => return .error e
  | .ok signed => ask (.nearSend signed)

/-- How a broadcast's answer is read, once the final outcome can be interpreted. -/
def classifyBroadcast (interpret : FinalExecutionOutcomeView → NearInterpretation) :
    Except NearRpcError TransactionLookup → BroadcastOutcome
  | .ok (.final outcome) =>
    match interpret outcome with
    | .terminal terminal => .terminal terminal
    | .indeterminate _ => .pending
  | .error .transactionRejected => .rejected "transaction_rejected"
  | _ => .pending

def broadcast (provider : ChainProvider) (prepared : Prepared) (payment : VerifiedPayment) :
    Service BroadcastOutcome :=
  match provider, prepared.detail, payment.detail with
  | near relayer, .near nearPrepared, .near nearPayment => do
    let answer ← broadcastExact nearPrepared.signedTransactionBytes
    return classifyBroadcast (interpretNearFinal · nearPrepared.transactionHash relayer.accountId
      nearPayment.payer nearPayment.requirements.asset) answer
  | evm _, .evm evmPrepared, _ => do
    let _ ← ask (.evmSend evmPrepared.signedTxRlp)
    return .pending
  | _, _, _ => return .pending

def rebroadcast (provider : ChainProvider) (bytes : Bytes) (submitHash payer asset : String) :
    Service BroadcastOutcome :=
  match provider with
  | near relayer => do
    let answer ← broadcastExact bytes
    return classifyBroadcast (fun outcome =>
      match parseHash submitHash, AccountId.parse payer, AccountId.parse asset with
      | some hash, some payer, some asset =>
        interpretNearFinal outcome hash relayer.accountId payer asset
      | _, _, _ => .indeterminate "journal identity is invalid") answer
  | evm _ => do
    let _ ← ask (.evmSend bytes)
    return .pending

/-- The NEAR arm of `reconcile_status`, once its arguments are parsed. -/
def reconcileNear (relayer : NearProvider) (hash : CryptoHash) (signer payer asset : AccountId) :
    Service ReconcileVerdict := do
  let primary ← ask (.nearTransaction .primary hash signer)
  let backup ← ask (.nearTransaction .backup hash signer)
  let primaryFinal := nearFinalOutcome primary
  let backupFinal := nearFinalOutcome backup
  if finalOutcomesConflict primaryFinal backupFinal then
    return .conflict
  match primaryFinal.or backupFinal with
  | some outcome =>
    match interpretNearFinal outcome hash relayer.accountId payer asset with
    | .terminal terminal => return .terminal terminal
    | .indeterminate reason => return .indeterminate reason
  | none =>
    if nearLookupPending primary ∨ nearLookupPending backup then return .pending
    else if nearLookupUnknown primary ∧ nearLookupUnknown backup then return .unknown
    else return .ambiguous

def reconcileStatus (provider : ChainProvider) (submitHash signer payer asset : String)
    (policy : RecoveryPolicy) : Service ReconcileVerdict :=
  match provider, policy with
  | near relayer, .nearFinality =>
    match parseHash submitHash, AccountId.parse signer, AccountId.parse payer,
        AccountId.parse asset with
    | some hash, some signer, some payer, some asset =>
      reconcileNear relayer hash signer payer asset
    | _, _, _, _ => return .ambiguous
  | evm provider, .evmConfirmations required => do
    match ← reconcileHashWithConfirmations provider submitHash required with
    | .ok (.terminal outcome) => return .terminal (evmTerminalToNeutral outcome)
    | .ok (.mined ..) | .ok .pending => return .pending
    | .ok .unknown => return .unknown
    | .error _ => return .ambiguous
  | _, _ => return .ambiguous

/-- One reader of `readiness_probe`: it serves the configured network and has a final block. -/
def probeRpcReadiness (relayer : NearProvider) (reader : Reader) : Service Bool := do
  let network ← ask (.nearNetworkId reader)
  let block ← ask (.nearFinalBlock reader)
  return network.toOption = some relayer.chainReference ∧ block.isOk

/-- `readiness_observation`, reduced to what the gates are set from. -/
def readinessObservation (provider : ChainProvider) :
    Service (Bool × Except SignerHeadError SignerHead) :=
  match provider with
  | near relayer => do
    let primary ← probeRpcReadiness relayer .primary
    let backup ← probeRpcReadiness relayer .backup
    let head ← provider.signerHead
    return (primary && backup, head)
  | evm evmProvider => do
    match ← evmSnapshot evmProvider with
    | .ok head => return (true, .ok (evmHeadToSignerHead head))
    | .error failure => return (false, .error (.evm failure.intoRpcError))

end

end ChainProvider

/-! ## Stored EVM submissions -/

inductive StoredSubmissionError where
  | wrongProvider
  | field (name : String)
  | transaction (error : StoredTransactionError)
deriving DecidableEq

def StoredSubmissionError.message : StoredSubmissionError → String
  | wrongProvider => "stored submission does not match the configured provider"
  | field name => "stored EVM submission has an invalid " ++ name
  | transaction _ => "stored EVM transaction is inconsistent with the settlement"

structure StoredEvmSubmission where
  network : String
  hash : String
  submitter : String
  nonce : Nat
  asset : String
  payer : String
  payee : String
  amount : Nat
  validAfter : String
  validBefore : String
  anchorScope : String
  anchorValue : Hash32
  paymentHash : Hash32
  gasLimit : Nat
  maxFeePerGas : Nat
deriving DecidableEq

def validateStoredSubmission [EvmPrimitives] (provider : ChainProvider) (bytes : Bytes)
    (binding : StoredEvmSubmission) : Except StoredSubmissionError Unit := do
  let field {α : Type} (name : String) (value : Option α) : Except StoredSubmissionError α :=
    match value with
    | some a => .ok a
    | none => .error (.field name)
  match provider with
  | .near _ => .error .wrongProvider
  | .evm provider =>
    if binding.network ≠ provider.caip2 then .error (.field "network")
    else
      let transactionHash ← field "transaction hash" (parseB256 binding.hash)
      let facilitatorSigner ← field "submitter" (parseAddress binding.submitter)
      if facilitatorSigner ≠ provider.signerAddress then .error (.field "submitter")
      else if 2 ^ 64 ≤ binding.nonce then .error (.field "account nonce")
      else
        let token ← field "asset" (parseAddress binding.asset)
        if token ≠ provider.asset then .error (.field "asset")
        else
          let payer ← field "payer" (parseAddress binding.payer)
          let payee ← field "payee" (parseAddress binding.payee)
          if 2 ^ 256 ≤ binding.amount then .error (.field "amount")
          else
            let validAfter ← field "validAfter" (parseU256 binding.validAfter)
            let validBefore ← field "validBefore" (parseU256 binding.validBefore)
            if binding.anchorScope ≠
                Settlement.evmAnchorScope binding.network binding.asset binding.payer then
              .error (.field "anchor scope")
            else
              match validateSignedTransaction bytes {
                  transactionHash := transactionHash
                  facilitatorSigner := facilitatorSigner
                  chainId := provider.chainId
                  accountNonce := binding.nonce
                  token := token
                  gasLimit := binding.gasLimit
                  maxFeePerGas := binding.maxFeePerGas
                  payer := payer
                  payee := payee
                  value := binding.amount
                  validAfter := validAfter
                  validBefore := validBefore
                  authorizationNonce := binding.anchorValue
                  paymentHash := binding.paymentHash
                  domain := provider.transferDomain } with
              | .ok () => .ok ()
              | .error e => .error (.transaction e)

end X402Facilitator
