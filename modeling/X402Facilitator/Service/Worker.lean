import X402Facilitator.Service.Chain

/-!
# The settlement worker

`run_new_settlement`: from the relayer lock through verification, preparation and the durable journal
to the broadcast, on both chains. Every early return of the source is a branch here.
-/

namespace X402Facilitator

open Service

/-! ## Terminal entries -/

/-- `i32::try_from`. -/
def toI32 (n : Nat) : Option Int :=
  if n < 2 ^ 31 then some n else none

/-- The journal entry of a settlement that failed without an on-chain cost. -/
def failureEntry (settlementId : Uuid) (code : String) (response : SettleResponse) :
    TerminalJournalEntry where
  settlementId := settlementId
  state := .failed
  httpStatus := 200
  responseBytes := response.bytes
  errorCode := some code
  errorDetail := none
  gasBurnt := some 0
  tokensBurnt := some 0
  actualYoctoNear := 0
  minedBlockNumber := none
  minedBlockHash := none
  confirmations := none

/-- The response to a terminal on-chain outcome. -/
def outcomeResponse (payer network : String) (outcome : TerminalOutcome) : SettleResponse :=
  if outcome.success then .succeeded payer outcome.txHash network
  else .failure "transaction_failed" outcome.failureDetail (some payer) outcome.txHash network

/-- The journal entry of a terminal on-chain outcome. -/
def outcomeEntry (settlementId : Uuid) (payer network : String) (outcome : TerminalOutcome) :
    TerminalJournalEntry where
  settlementId := settlementId
  state := if outcome.success then .succeeded else .failed
  httpStatus := 200
  responseBytes := (outcomeResponse payer network outcome).bytes
  errorCode := if outcome.success then none else some "transaction_failed"
  errorDetail := none
  gasBurnt := some outcome.gasUnits
  tokensBurnt := some outcome.feeAtomic
  actualYoctoNear := outcome.feeAtomic
  minedBlockNumber := outcome.minedBlockNumber
  minedBlockHash := outcome.minedBlockHash
  confirmations := outcome.confirmations.bind toI32

section
variable [NearPrimitives] [EvmPrimitives]

/-- A terminal entry that the caller does not retry: a failed write closes the reconciliation
gate. -/
def journalTerminal (entry : TerminalJournalEntry) : Service Unit := do
  match ← store (.markTerminal entry) with
  | .ok _ => return ()
  | .error _ => setReconciliation false

def retryableServiceFailure (settlementId : Uuid) (code : String) : Service Unit := do
  match ← store (.markAwaitingRetry settlementId code) with
  | .ok _ => return ()
  | .error _ => setReconciliation false

def terminalProtocolFailure (state : AppState) (settlementId : Uuid) (reason : String)
    (payer transaction : Option String) : Service Unit :=
  journalTerminal (failureEntry settlementId reason
    (.failure reason none payer (transaction.getD "") state.config.network))

def terminalTransactionRejected (state : AppState) (settlementId : Uuid) (payer : Option String)
    (transactionHash : String) : Service Unit :=
  journalTerminal (failureEntry settlementId "transaction_rejected"
    (.failure "transaction_rejected" none payer transactionHash state.config.network))

def finalizeTerminal (state : AppState) (settlementId : Uuid) (payment : VerifiedPayment)
    (outcome : TerminalOutcome) : Service Unit :=
  journalTerminal (outcomeEntry settlementId payment.payer state.config.network outcome)

/-! ## The signer -/

def freshSignerHead (state : AppState) : Service (Except StoreError SignerHead) := do
  match ← state.provider.signerHead with
  | .error _ =>
    setRelayerGate false
    return .error (.corrupt "relayer chain state is unavailable")
  | .ok head =>
    let key : RelayerKey :=
      ⟨state.config.network, state.provider.signerAccountId, head.signerPublicKey⟩
    match ← store (.relayerIsActive key) with
    | .error e => return .error e
    | .ok policyActive =>
      let active : Bool := policyActive
      if ¬ active ∨ ¬ signerIsFunded state.config head.signerBalanceAtomic then
        setRelayerGate false
        return .error (.corrupt "relayer policy or balance hard stop is not satisfied")
      else
        setRelayerGate true
        return .ok head

/-- `quarantine_relayer` for the configured signer. -/
def quarantineSigner (state : AppState) (reason : String) (observedNonce : Nat) :
    Service (Except StoreError Unit) :=
  store (.quarantineRelayer state.relayerRow reason observedNonce)

/-- The signer's nonce moved between preparation and broadcast. -/
def pauseOnNonceDrift (state : AppState) (reason : String) (observedNonce : Nat) :
    Service Unit := do
  let _ ← quarantineSigner state reason observedNonce
  setRelayerGate false
  setReconciliation false

/-! ## The EVM path -/

/-- `settle_prepared_evm`, once the submission is marked submitted. -/
def broadcastSubmittedEvm (state : AppState) (settlementId : Uuid) (prepared : Prepared)
    (submission : DurableSubmission) (payment : VerifiedPayment) : Service Unit := do
  if ¬ (← canSettle) then
    setReconciliation false
  else
    match ← freshSignerHead state with
    | .error _ => setReconciliation false
    | .ok currentHead =>
      if currentHead.signerNonce ≠ submission.nonce then
        pauseOnNonceDrift state "signer nonce changed between preparation and broadcast"
          currentHead.signerNonce
      else if ¬ (← canSettle) then
        setReconciliation false
      else
        match ← state.provider.broadcast prepared payment with
        | .terminal _ => setReconciliation false
        | .rejected _ =>
          terminalTransactionRejected state settlementId (some payment.payer) prepared.submitHash
        | .pending => setReconciliation false

/-- The journal entry of a prepared EVM submission. -/
def evmJournalEntry (settlementId : Uuid) (submission : DurableSubmission)
    (requiredConfirmations : Int) : EvmPreparedJournalEntry where
  settlementId := settlementId
  signerAccountNonce := submission.nonce
  submittedTxRlp := submission.bytes
  submittedTxHash := submission.hash
  requiredConfirmations := requiredConfirmations

def settlePreparedEvm (state : AppState) (settlementId : Uuid) (prepared : Prepared)
    (submission : DurableSubmission) (payment : VerifiedPayment) : Service Unit :=
  match submission.recoveryPolicy with
  | .nearFinality => setReconciliation false
  | .evmConfirmations required =>
    match toI32 required with
    | none => setReconciliation false
    | some required => do
      match ← store (.markPreparedEvm (evmJournalEntry settlementId submission required)) with
      | .error _ => setReconciliation false
      | .ok _ =>
        if ¬ (← canSettle) then
          setReconciliation false
        else
          match ← store (.markSubmitted settlementId) with
          | .error _ => setReconciliation false
          | .ok _ => broadcastSubmittedEvm state settlementId prepared submission payment

/-! ## The NEAR path -/

/-- The journal entry of a prepared NEAR submission. -/
def nearJournalEntry (settlementId : Uuid) (prepared : Prepared) (submission : DurableSubmission) :
    PreparedJournalEntry where
  settlementId := settlementId
  relayerAccountId := submission.submitter
  relayerPublicKey := prepared.signerPublicKey
  relayerNonce := submission.nonce
  transactionBytes := submission.bytes
  transactionHash := submission.hash

/-- The NEAR tail of `run_new_settlement`, once the submission is marked submitted. -/
def broadcastSubmittedNear (state : AppState) (settlementId : Uuid) (prepared : Prepared)
    (payment : VerifiedPayment) : Service Unit := do
  if ¬ (← canSettle) then
    setReconciliation false
  else
    match ← state.provider.broadcast prepared payment with
    | .terminal outcome => finalizeTerminal state settlementId payment outcome
    | .rejected _ =>
      terminalTransactionRejected state settlementId (some payment.payer) prepared.submitHash
    | .pending => setReconciliation false

/-- The NEAR tail of `run_new_settlement`, from the prepared bytes on. -/
def settlePreparedNear (state : AppState) (settlementId : Uuid) (signerHead : SignerHead)
    (prepared : Prepared) (submission : DurableSubmission) (payment : VerifiedPayment) :
    Service Unit := do
  match ← store (.markPrepared (nearJournalEntry settlementId prepared submission)) with
  | .error _ => setReconciliation false
  | .ok _ =>
    match ← freshSignerHead state with
    | .error _ => setReconciliation false
    | .ok currentHead =>
      if currentHead.signerNonce ≠ signerHead.signerNonce then
        pauseOnNonceDrift state "relayer nonce changed between preparation and broadcast"
          currentHead.signerNonce
      else if ¬ (← canSettle) then
        setReconciliation false
      else
        match ← store (.markSubmitted settlementId) with
        | .error _ => setReconciliation false
        | .ok _ => broadcastSubmittedNear state settlementId prepared payment

/-! ## The worker -/

/-- The journaled row is the reservation of exactly this payment. -/
def journaledMatches (journaled : Settlement) (payment : VerifiedPayment) : Bool :=
  journaled.state = .reserved ∧
    journaled.paymentHash = payment.identity.requestHash ∧
    journaled.anchorScope = payment.identity.anchorScope ∧
    journaled.anchorValue = payment.identity.anchorValue ∧
    journaled.payer = payment.payer ∧
    journaled.network = payment.requirements.network ∧
    eqIgnoreAsciiCase journaled.asset payment.requirements.asset ∧
    eqIgnoreAsciiCase journaled.payTo payment.requirements.payTo ∧
    payment.requirements.amountDecimal ≤ journaled.amount ∧
    journaled.amount ≤ payment.requirements.amountDecimal

/-- The part of `run_new_settlement` after the journaled row has been compared. -/
def prepareAndSettle (state : AppState) (settlementId : Uuid) (payment : VerifiedPayment) :
    Service Unit := do
  match ← freshSignerHead state with
  | .error _ => retryableServiceFailure settlementId "relayer_unavailable"
  | .ok signerHead =>
    match ← state.provider.prepare payment signerHead with
    | .error _ => retryableServiceFailure settlementId "transaction_preparation_failed"
    | .ok prepared =>
      let submission := state.provider.durableSubmission prepared
      match prepared.detail with
      | .evm evmPrepared =>
        match evmPrepared.estimatedL1FeeWei with
        | none => retryableServiceFailure settlementId "l1_fee_estimation_failed"
        | some estimatedL1Fee =>
          if ¬ evmReservationCoversLiability state.config estimatedL1Fee then
            retryableServiceFailure settlementId "sponsorship_reservation_insufficient"
          else
            settlePreparedEvm state settlementId prepared submission payment
      | .near _ => settlePreparedNear state settlementId signerHead prepared submission payment

/-- `run_new_settlement` under the relayer lock. -/
def settleLocked (state : AppState) (settlementId : Uuid) (request : Json) : Service Unit := do
  if ¬ (← canSettle) then
    retryableServiceFailure settlementId "leadership_unavailable"
  else
    match ← state.provider.verify request state.config.maxInnerGas with
    | .error rejection =>
      if rejection.rpcAmbiguous then
        retryableServiceFailure settlementId "rpc_unavailable"
      else
        terminalProtocolFailure state settlementId rejection.reason none none
    | .ok payment =>
      match ← store (.settlement settlementId) with
      | .error _ | .ok none =>
        retryableServiceFailure settlementId "settlement_journal_unavailable"
      | .ok (some journaled) =>
        if ¬ journaledMatches journaled payment then
          terminalProtocolFailure state settlementId "settlement_identity_mismatch" none none
        else
          prepareAndSettle state settlementId payment

/-- `run_new_settlement`. The guard is dropped on every return. -/
def runNewSettlement (state : AppState) (settlementId : Uuid) (request : Json) :
    Service Unit := do
  lockRelayer
  settleLocked state settlementId request
  unlockRelayer

end

end X402Facilitator
