import Mathlib.Data.List.Sort
import X402Facilitator.Store.Transaction

/-!
# The store operations

Each transaction of `PgStore` on the journal, as one atomic step on the shared database. A store
call of the service that issues several statements (`claim_settlement`, `resume_awaiting_retry`,
`raise_required_confirmations`) is a program over these steps; other processes may run between them.
-/

namespace X402Facilitator

structure NewSettlement where
  id : Uuid
  apiClientId : Uuid
  paymentIdentifier : Option String
  paymentHash : Hash32
  requestFingerprint : Hash32
  anchorScope : String
  anchorValue : Hash32
  x402Version : Nat
  scheme : String
  network : String
  asset : String
  payTo : String
  amount : Nat
  payer : String
  chainKind : ChainKind
  delegatePublicKey : Option String
  delegateNonce : Option Nat
  delegateMaxBlockHeight : Option Nat
  authorizationMetadata : Option EvmAuthorizationMetadata
  signerAddress : Option String
  policySnapshot : Json
  reservationYoctoNear : Nat
  globalDailyBudgetYoctoNear : Nat
  clientDailyBudgetYoctoNear : Nat

structure RetryReservation where
  settlementId : Uuid
  policySnapshot : Json
  reservationYoctoNear : Nat
  globalDailyBudgetYoctoNear : Nat
  clientDailyBudgetYoctoNear : Nat

structure PreparedJournalEntry where
  settlementId : Uuid
  relayerAccountId : String
  relayerPublicKey : String
  relayerNonce : Nat
  transactionBytes : Bytes
  transactionHash : String
deriving DecidableEq, Repr

structure EvmPreparedJournalEntry where
  settlementId : Uuid
  signerAccountNonce : Nat
  submittedTxRlp : Bytes
  submittedTxHash : String
  requiredConfirmations : Int
deriving DecidableEq, Repr

structure TerminalJournalEntry where
  settlementId : Uuid
  state : SettlementState
  httpStatus : Nat
  responseBytes : Bytes
  errorCode : Option String
  errorDetail : Option String
  gasBurnt : Option Nat
  tokensBurnt : Option Nat
  actualYoctoNear : Nat
  minedBlockNumber : Option Nat
  minedBlockHash : Option String
  confirmations : Option Int
deriving DecidableEq, Repr

/-! ## The rows that the statements write -/

/-- The row that the `INSERT` of `claim_settlement` writes. -/
def NewSettlement.row (new : NewSettlement) (usageDate : Day) (createdAt : Nat) : Settlement where
  id := new.id
  apiClientId := new.apiClientId
  paymentIdentifier := new.paymentIdentifier
  paymentHash := new.paymentHash
  requestFingerprint := new.requestFingerprint
  state := .reserved
  x402Version := new.x402Version
  scheme := new.scheme
  network := new.network
  asset := new.asset
  payTo := new.payTo
  amount := new.amount
  payer := new.payer
  chainKind := new.chainKind
  anchorScope := new.anchorScope
  anchorValue := new.anchorValue
  delegatePublicKey := new.delegatePublicKey
  delegateNonce := new.delegateNonce
  delegateMaxBlockHeight := new.delegateMaxBlockHeight
  authorizationMetadata := new.authorizationMetadata
  policySnapshot := new.policySnapshot
  reservationDate := usageDate
  reservedYoctoNear := new.reservationYoctoNear
  relayerAccountId := none
  relayerPublicKey := none
  relayerNonce := none
  outerTransactionBytes := none
  outerTransactionHash := none
  signerAddress := new.signerAddress
  signerAccountNonce := none
  submittedTxRlp := none
  submittedTxHash := none
  requiredConfirmations := none
  confirmations := none
  minedBlockNumber := none
  minedBlockHash := none
  attemptCount := 1
  retryCode := none
  terminalHttpStatus := none
  terminalResponseBytes := none
  errorCode := none
  errorDetail := none
  gasBurnt := none
  tokensBurnt := none
  reconciliationAttempts := 0
  createdAt := createdAt

/-- What a single-row `UPDATE` of the journal can write. -/
inductive RowUpdate where
  | release (retryCode : String)
  | resume (retry : RetryReservation) (usageDate : Day)
  | prepare (entry : PreparedJournalEntry)
  | prepareEvm (entry : EvmPreparedJournalEntry)
  | submit
  | raise (minimum : Int)
  | terminate (entry : TerminalJournalEntry)
  | note

/-- The `SET` clause of each update. -/
def RowUpdate.apply (r : Settlement) : RowUpdate → Settlement
  | release retryCode =>
    { r with state := .awaitingRetry, reservedYoctoNear := 0, retryCode := some retryCode }
  | resume retry usageDate =>
    { r with
      state := .reserved
      policySnapshot := retry.policySnapshot
      reservationDate := usageDate
      reservedYoctoNear := retry.reservationYoctoNear
      attemptCount := r.attemptCount + 1
      retryCode := none }
  | prepare entry =>
    { r with
      state := .prepared
      relayerAccountId := some entry.relayerAccountId
      relayerPublicKey := some entry.relayerPublicKey
      relayerNonce := some entry.relayerNonce
      outerTransactionBytes := some entry.transactionBytes
      outerTransactionHash := some entry.transactionHash }
  | prepareEvm entry =>
    { r with
      state := .prepared
      signerAccountNonce := some entry.signerAccountNonce
      submittedTxRlp := some entry.submittedTxRlp
      submittedTxHash := some entry.submittedTxHash
      requiredConfirmations := some entry.requiredConfirmations }
  | submit => { r with state := .submitted }
  -- `GREATEST` skips a NULL argument.
  | raise minimum =>
    { r with requiredConfirmations := some (max (r.requiredConfirmations.getD minimum) minimum) }
  | terminate entry =>
    { r with
      state := entry.state
      terminalHttpStatus := some entry.httpStatus
      terminalResponseBytes := some entry.responseBytes
      errorCode := entry.errorCode
      errorDetail := entry.errorDetail
      gasBurnt := some (entry.gasBurnt.getD 0)
      tokensBurnt := some (entry.tokensBurnt.getD 0)
      minedBlockNumber := entry.minedBlockNumber
      minedBlockHash := entry.minedBlockHash
      confirmations := entry.confirmations }
  | note => { r with reconciliationAttempts := r.reconciliationAttempts + 1 }

/-! ## The transactions -/

/-- `SELECT … FROM settlements WHERE id = $1 FOR UPDATE`, where a missing row is corruption. -/
def selectForUpdate (id : Uuid) (missing : String) : Txn Settlement := do
  match (← Txn.get).settlement? id with
  | some row => return row
  | none => Txn.fail (.corrupt missing)

/-- The update of one row by its primary key, guarded by the state it must be in. -/
def updateInState (id : Uuid) (source : SettlementState) (update : RowUpdate) : Txn Nat :=
  updateSettlements (fun r => r.id = id ∧ r.state = source) update.apply

/-- Both reservations of a claim or a resume. When either ledger refuses, the caller rolls the whole
transaction back. -/
def reserveBudgets (usageDate : Day) (client : Uuid) (reservation globalLimit clientLimit : Nat) :
    Txn Bool := do
  if ← reserveGlobalBudget usageDate reservation globalLimit then
    reserveClientBudget usageDate client reservation clientLimit
  else
    return false

inductive ClaimReply where
  | inserted
  | conflicted
  | budgetExceeded
deriving DecidableEq, Repr

/-- The transaction of `claim_settlement`: the insert, both reservations and the first event. -/
def claimReservation (new : NewSettlement) (usageDate : Day) (createdAt : Nat) :
    Txn ClaimReply := do
  let before ← Txn.get
  if ← insertSettlement (new.row usageDate createdAt) then
    if ← reserveBudgets usageDate new.apiClientId new.reservationYoctoNear
        new.globalDailyBudgetYoctoNear new.clientDailyBudgetYoctoNear then
      insertEvent ⟨new.id, none, .reserved, some "claimed", none⟩
      return .inserted
    else
      Txn.set before
      return .budgetExceeded
  else
    return .conflicted

def markAwaitingRetry (id : Uuid) (retryCode : String) : Txn Unit := do
  if retryCode = "" then
    Txn.fail (.invalidInput "retry code must not be empty")
  else
    let row ← selectForUpdate id "retry settlement not found"
    let refused := StoreError.transition row.state.asStr SettlementState.awaitingRetry.asStr
    if row.state ≠ .reserved then
      Txn.fail refused
    else
      releaseBudget row.reservationDate row.apiClientId row.reservedYoctoNear 0
      let affected ← updateInState id .reserved (.release retryCode)
      if affected ≠ 1 then
        Txn.fail refused
      else
        insertEvent ⟨id, some .reserved, .awaitingRetry, some retryCode, none⟩

inductive ResumeReply where
  | resumed
  | settlementBusy
  | budgetExceeded
deriving DecidableEq, Repr

/-- The guarded update of `resume_awaiting_retry`, whose one expected failure is a taken signer
slot. -/
def acquireSlot (retry : RetryReservation) (usageDate : Day) : Txn (Option Nat) where
  run db :=
    match (updateInState retry.settlementId .awaitingRetry (.resume retry usageDate)).run db with
    | .ok (affected, db') => .ok (some affected, db')
    | .error (.database (.uniqueViolation .evmActiveSigner)) => .ok (none, db)
    | .error e => .error e

/-- The transaction of `resume_awaiting_retry`. -/
def resumeReservation (retry : RetryReservation) (usageDate : Day) : Txn ResumeReply := do
  let before ← Txn.get
  let row ← selectForUpdate retry.settlementId "retry settlement not found"
  let refused := StoreError.transition row.state.asStr SettlementState.reserved.asStr
  if row.state ≠ .awaitingRetry then
    Txn.fail refused
  else
    match ← acquireSlot retry usageDate with
    | none => return .settlementBusy
    | some affected =>
      if affected ≠ 1 then
        Txn.fail refused
      else if ← reserveBudgets usageDate row.apiClientId retry.reservationYoctoNear
          retry.globalDailyBudgetYoctoNear retry.clientDailyBudgetYoctoNear then
        insertEvent ⟨retry.settlementId, some .awaitingRetry, .reserved, some "retry_resumed", none⟩
        return .resumed
      else
        Txn.set before
        return .budgetExceeded

/-- The `UPDATE … RETURNING required_confirmations` of `raise_required_confirmations`. -/
def raiseConfirmations (id : Uuid) (minimum : Int) : Txn (Option Int) := do
  let selected := fun r : Settlement => r.id = id ∧ r.chainKind = .eip155 ∧ r.state.inFlight
  let _ ← updateSettlements selected (RowUpdate.raise minimum).apply
  return ((← Txn.get).settlements.find? selected).bind Settlement.requiredConfirmations

/-- The reserved-to-prepared transition that both chains share. -/
def journalPrepared (id : Uuid) (update : RowUpdate) (code transaction : String) : Txn Unit := do
  let affected ← updateInState id .reserved update
  if affected ≠ 1 then
    let row ← selectForUpdate id "settlement not found"
    Txn.fail (.transition row.state.asStr SettlementState.prepared.asStr)
  else
    insertEvent ⟨id, some .reserved, .prepared, some code, some transaction⟩

def markPrepared (entry : PreparedJournalEntry) : Txn Unit :=
  journalPrepared entry.settlementId (.prepare entry) "outer_transaction_persisted"
    entry.transactionHash

def markPreparedEvm (entry : EvmPreparedJournalEntry) : Txn Unit := do
  if entry.requiredConfirmations < 1 then
    Txn.fail (.invalidInput "required confirmations must be at least 1")
  else
    journalPrepared entry.settlementId (.prepareEvm entry) "evm_transaction_persisted"
      entry.submittedTxHash

def markSubmitted (id : Uuid) : Txn Unit := do
  let affected ← updateInState id .prepared .submit
  if affected ≠ 1 then
    let row ← selectForUpdate id "settlement not found"
    Txn.fail (.transition row.state.asStr SettlementState.submitted.asStr)
  else
    insertEvent ⟨id, some .prepared, .submitted, some "broadcast_started", none⟩

/-- The `matches!` of `mark_terminal`. -/
def transitionAllowed : SettlementState → SettlementState → Bool
  | .reserved, .failed => true
  | .prepared, .succeeded | .prepared, .failed => true
  | .submitted, .succeeded | .submitted, .failed => true
  | _, _ => false

/-- `i16::try_from` of an HTTP status. -/
def smallint? (status : Nat) : Option Nat :=
  if status < 2 ^ 15 then some status else none

theorem smallint?_eq_some {status n : Nat} :
    smallint? status = some n ↔ status < 2 ^ 15 ∧ status = n := by
  simp [smallint?]

def markTerminal (entry : TerminalJournalEntry) : Txn Unit := do
  if ¬ entry.state.isTerminal then
    Txn.fail (.transition "unknown" entry.state.asStr)
  else
    let row ← selectForUpdate entry.settlementId "terminal settlement not found"
    let refused := StoreError.transition row.state.asStr entry.state.asStr
    if row.state.isTerminal then
      -- Idempotent only when the exact body and status already match.
      if row.terminalHttpStatus = smallint? entry.httpStatus ∧
          row.terminalResponseBytes = some entry.responseBytes then
        return ()
      else
        Txn.fail refused
    else if ¬ transitionAllowed row.state entry.state then
      Txn.fail refused
    else
      releaseBudget row.reservationDate row.apiClientId row.reservedYoctoNear
        entry.actualYoctoNear
      match smallint? entry.httpStatus with
      | none => Txn.fail (.corrupt "terminal HTTP status does not fit SMALLINT")
      | some _ =>
        let _ ← updateSettlements (fun r => r.id = entry.settlementId)
          (RowUpdate.terminate entry).apply
        insertEvent ⟨entry.settlementId, some row.state, entry.state, entry.errorCode, none⟩

def noteReconciliation (id : Uuid) : Txn Unit := do
  let _ ← updateSettlements (fun r => r.id = id) RowUpdate.note.apply

def setRelayer (key : RelayerKey) (relayer : Relayer) : Txn Unit where
  run db := .ok ((), { db with relayers := Function.update db.relayers key (some relayer) })

def upsertRelayer (key : RelayerKey) : Txn Unit := do
  match (← Txn.get).relayers key with
  | some _ => return ()
  | none => setRelayer key ⟨.active, none, none⟩

def quarantineRelayer (key : RelayerKey) (reason : String) (observedNonce : Nat) : Txn Unit := do
  if ¬ fitsNumeric20 observedNonce then
    Txn.fail (.database .numericOverflow)
  else
    setRelayer key ⟨.quarantined, some reason, some observedNonce⟩

/-- The insert of `create_client`, which only matters here as the target of the foreign keys. -/
def createClient (id : Uuid) : Txn Unit where
  run db :=
    if id ∈ db.clients then .error (.database (.uniqueViolation .primaryKey))
    else .ok ((), { db with clients := db.clients ++ [id] })

/-! ## The queries -/

/-- The rows `find_existing_settlement` looks at. With an identifier the query also matches the
client's own row under it; the two unique indexes leave at most two rows. -/
def selectExisting (db : Db) (apiClientId : Uuid) (paymentIdentifier : Option String)
    (paymentHash : Hash32) : List Settlement :=
  match paymentIdentifier with
  | some identifier => db.settlements.filter fun r =>
      (r.apiClientId = apiClientId ∧ r.paymentIdentifier = some identifier) ∨
        r.paymentHash = paymentHash
  | none => db.settlements.filter fun r => r.paymentHash = paymentHash

def anchorIsClaimed (db : Db) (scope : String) (value : Hash32) : Bool :=
  db.settlements.any fun r => r.anchorScope = scope ∧ r.anchorValue = value

def activeEvmSignerExists (db : Db) (network signer : String) : Bool :=
  db.settlements.any fun r => r.evmActiveSignerKey = some (network, asciiLower signer)

/-- `WHERE state IN ('reserved', 'prepared', 'submitted') ORDER BY created_at`. -/
def nonterminalSettlements (db : Db) : List Settlement :=
  (db.settlements.filter (·.state.holdsReservation)).insertionSort (·.createdAt ≤ ·.createdAt)

def relayerIsActive (db : Db) (key : RelayerKey) : Bool :=
  (db.relayers key).any (·.status = .active)

theorem mem_nonterminalSettlements {db : Db} {r : Settlement} :
    r ∈ nonterminalSettlements db ↔ r ∈ db.settlements ∧ r.state.holdsReservation = true := by
  simp [nonterminalSettlements, List.mem_insertionSort]

/-! ## One step of the store -/

/-- A statement or transaction that the service sends to the database. -/
inductive StoreOp where
  | selectExisting (apiClientId : Uuid) (paymentIdentifier : Option String) (paymentHash : Hash32)
  | anchorIsClaimed (scope : String) (value : Hash32)
  | activeEvmSignerExists (network signer : String)
  | claimReservation (new : NewSettlement) (usageDate : Day)
  | settlement (id : Uuid)
  | nonterminalSettlements
  | markAwaitingRetry (id : Uuid) (retryCode : String)
  | resumeReservation (retry : RetryReservation) (usageDate : Day)
  | raiseConfirmations (id : Uuid) (minimum : Int)
  | markPrepared (entry : PreparedJournalEntry)
  | markPreparedEvm (entry : EvmPreparedJournalEntry)
  | markSubmitted (id : Uuid)
  | markTerminal (entry : TerminalJournalEntry)
  | noteReconciliation (id : Uuid)
  | upsertRelayer (key : RelayerKey)
  | quarantineRelayer (key : RelayerKey) (reason : String) (observedNonce : Nat)
  | relayerIsActive (key : RelayerKey)
  | createClient (id : Uuid)

namespace StoreOp

/-- What the statement returns when it succeeds. -/
@[reducible]
def Reply : StoreOp → Type
  | selectExisting .. => List Settlement
  | anchorIsClaimed .. | activeEvmSignerExists .. | relayerIsActive .. => Bool
  | claimReservation .. => ClaimReply
  | settlement _ => Option Settlement
  | nonterminalSettlements => List Settlement
  | resumeReservation .. => ResumeReply
  | raiseConfirmations .. => Option Int
  | markAwaitingRetry .. | markPrepared _ | markPreparedEvm _ | markSubmitted _ | markTerminal _
  | noteReconciliation _ | upsertRelayer _ | quarantineRelayer .. | createClient _ => Unit

/-- The transaction behind a statement; `now` is the database clock. -/
def txn (now : Nat) : (op : StoreOp) → Txn op.Reply
  | selectExisting client identifier hash =>
      Txn.query fun db => X402Facilitator.selectExisting db client identifier hash
  | anchorIsClaimed scope value => Txn.query fun db => X402Facilitator.anchorIsClaimed db scope value
  | activeEvmSignerExists network signer =>
      Txn.query fun db => X402Facilitator.activeEvmSignerExists db network signer
  | claimReservation new usageDate => X402Facilitator.claimReservation new usageDate now
  | settlement id => Txn.query fun db => db.settlement? id
  | nonterminalSettlements => Txn.query X402Facilitator.nonterminalSettlements
  | markAwaitingRetry id code => X402Facilitator.markAwaitingRetry id code
  | resumeReservation retry usageDate => X402Facilitator.resumeReservation retry usageDate
  | raiseConfirmations id minimum => X402Facilitator.raiseConfirmations id minimum
  | markPrepared entry => X402Facilitator.markPrepared entry
  | markPreparedEvm entry => X402Facilitator.markPreparedEvm entry
  | markSubmitted id => X402Facilitator.markSubmitted id
  | markTerminal entry => X402Facilitator.markTerminal entry
  | noteReconciliation id => X402Facilitator.noteReconciliation id
  | upsertRelayer key => X402Facilitator.upsertRelayer key
  | quarantineRelayer key reason nonce => X402Facilitator.quarantineRelayer key reason nonce
  | relayerIsActive key => Txn.query fun db => X402Facilitator.relayerIsActive db key
  | createClient id => X402Facilitator.createClient id

/-- One step of the store: the reply and the database it leaves. -/
def exec (op : StoreOp) (now : Nat) (db : Db) : Except StoreError op.Reply × Db :=
  (op.txn now).exec db

end StoreOp

end X402Facilitator
