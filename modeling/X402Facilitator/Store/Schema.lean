import Mathlib.Tactic.MkIffOfInductiveProp
import X402Facilitator.Lib.Table
import X402Facilitator.Lib.Text

/-!
# The journal schema

The PostgreSQL tables the service shares between its processes, after the three migrations: the
`settlements` journal with its `CHECK` constraints and unique indexes, the audit log
`settlement_events`, the two daily sponsorship ledgers and the relayer registry.

A database carries the proof that its journal satisfies every constraint, so a statement that would
violate one has no resulting state: it is an error and the transaction it belongs to is rolled back.
Amounts and nonces are natural numbers, the columns' `NUMERIC` widths are constraints on them.
-/

namespace X402Facilitator

abbrev Uuid := Nat
abbrev Bytes := List UInt8
abbrev Hash32 := BitVec 256
/-- A calendar day (`NaiveDate`), counted in days. -/
abbrev Day := Nat

inductive ChainKind where
  | near
  | eip155
deriving DecidableEq, Repr

inductive SettlementState where
  | reserved
  | awaitingRetry
  | prepared
  | submitted
  | succeeded
  | failed
deriving DecidableEq, Repr

namespace SettlementState

def asStr : SettlementState → String
  | reserved => "reserved"
  | awaitingRetry => "awaiting_retry"
  | prepared => "prepared"
  | submitted => "submitted"
  | succeeded => "succeeded"
  | failed => "failed"

def isTerminal : SettlementState → Bool
  | succeeded | failed => true
  | _ => false

/-- The states of `state IN ('reserved', 'prepared', 'submitted')`: the row holds a reservation. -/
def holdsReservation : SettlementState → Bool
  | reserved | prepared | submitted => true
  | _ => false

/-- The states in which a signed transaction may be on its way to the chain. -/
def inFlight : SettlementState → Bool
  | prepared | submitted => true
  | _ => false

end SettlementState

structure EvmAuthorizationMetadata where
  version : Nat
  validAfter : String
  validBefore : String
deriving DecidableEq, Repr

/-- A row of `settlements`. -/
structure Settlement where
  id : Uuid
  apiClientId : Uuid
  paymentIdentifier : Option String
  paymentHash : Hash32
  requestFingerprint : Hash32
  state : SettlementState
  x402Version : Nat
  scheme : String
  network : String
  asset : String
  payTo : String
  amount : Nat
  payer : String
  chainKind : ChainKind
  anchorScope : String
  anchorValue : Hash32
  delegatePublicKey : Option String
  delegateNonce : Option Nat
  delegateMaxBlockHeight : Option Nat
  authorizationMetadata : Option EvmAuthorizationMetadata
  policySnapshot : Json
  reservationDate : Day
  reservedYoctoNear : Nat
  relayerAccountId : Option String
  relayerPublicKey : Option String
  relayerNonce : Option Nat
  outerTransactionBytes : Option Bytes
  outerTransactionHash : Option String
  signerAddress : Option String
  signerAccountNonce : Option Nat
  submittedTxRlp : Option Bytes
  submittedTxHash : Option String
  requiredConfirmations : Option Int
  confirmations : Option Int
  minedBlockNumber : Option Nat
  minedBlockHash : Option String
  attemptCount : Nat
  retryCode : Option String
  terminalHttpStatus : Option Nat
  terminalResponseBytes : Option Bytes
  errorCode : Option String
  errorDetail : Option String
  gasBurnt : Option Nat
  tokensBurnt : Option Nat
  reconciliationAttempts : Nat
  createdAt : Nat

/-- The width of a `NUMERIC(40, 0)` column. -/
def fitsNumeric40 (n : Nat) : Prop := n < 10 ^ 40

/-- The width of a `NUMERIC(20, 0)` column. -/
def fitsNumeric20 (n : Nat) : Prop := n < 10 ^ 20

instance (n : Nat) : Decidable (fitsNumeric40 n) := inferInstanceAs (Decidable (n < _))
instance (n : Nat) : Decidable (fitsNumeric20 n) := inferInstanceAs (Decidable (n < _))

/-- The regular expression `^[A-Za-z0-9_-]{16,128}$`. -/
def validPaymentIdentifier (s : String) : Prop :=
  16 ≤ s.toList.length ∧ s.toList.length ≤ 128 ∧
    ∀ c ∈ s.toList, c.isAlphanum ∨ c = '_' ∨ c = '-'

instance (s : String) : Decidable (validPaymentIdentifier s) :=
  inferInstanceAs (Decidable (_ ∧ _ ∧ _))

namespace Settlement

/-- The NEAR submission columns are all present. -/
def nearSubmitted (r : Settlement) : Prop :=
  r.chainKind = .near ∧ r.relayerAccountId.isSome ∧ r.relayerPublicKey.isSome ∧
    r.relayerNonce.isSome ∧ r.outerTransactionBytes.isSome ∧ r.outerTransactionHash.isSome

/-- The EVM submission columns are all present. -/
def evmSubmitted (r : Settlement) : Prop :=
  r.chainKind = .eip155 ∧ r.signerAddress.isSome ∧ r.signerAccountNonce.isSome ∧
    r.submittedTxRlp.isSome ∧ r.submittedTxHash.isSome ∧ r.requiredConfirmations.isSome

/-- No column of a submission is present, on either chain. -/
def unsubmitted (r : Settlement) : Prop :=
  r.relayerAccountId = none ∧ r.relayerPublicKey = none ∧ r.relayerNonce = none ∧
    r.outerTransactionBytes = none ∧ r.outerTransactionHash = none ∧
    r.signerAccountNonce = none ∧ r.submittedTxRlp = none ∧ r.submittedTxHash = none

instance (r : Settlement) : Decidable r.nearSubmitted := inferInstanceAs (Decidable (_ ∧ _))
instance (r : Settlement) : Decidable r.evmSubmitted := inferInstanceAs (Decidable (_ ∧ _))
instance (r : Settlement) : Decidable r.unsubmitted := inferInstanceAs (Decidable (_ ∧ _))

/-- The anchor domain `settlements_anchor_scope_check` asks for on an EVM row. -/
def evmAnchorScope (network asset payer : String) : String :=
  network ++ ":" ++ asciiLower asset ++ ":" ++ asciiLower payer

/-- The `CHECK` constraints of a row, and the ranges of its numeric columns. -/
@[mk_iff]
structure Checks (r : Settlement) : Prop where
  paymentIdentifier : ∀ s ∈ r.paymentIdentifier, validPaymentIdentifier s
  anchorScope :
    (r.chainKind = .near ∧ r.anchorScope = "near" ∧ r.anchorValue = r.paymentHash) ∨
      (r.chainKind = .eip155 ∧ r.anchorScope = evmAnchorScope r.network r.asset r.payer)
  -- A NULL metadata column makes the EVM arm unknown rather than false, and a CHECK admits it.
  chainAuthorization :
    (r.chainKind = .near ∧ r.delegatePublicKey.isSome ∧ r.delegateNonce.isSome ∧
        r.delegateMaxBlockHeight.isSome ∧ r.authorizationMetadata = none) ∨
      (r.chainKind = .eip155 ∧ r.signerAddress.isSome ∧
        ∀ m ∈ r.authorizationMetadata, m.version = 2)
  nonterminalSubmission :
    r.state = .reserved ∨ r.state = .awaitingRetry ∨ r.state = .failed ∨
      r.nearSubmitted ∨ r.evmSubmitted
  awaitingRetry :
    r.state = .awaitingRetry → r.retryCode.isSome ∧ r.reservedYoctoNear = 0 ∧ r.unsubmitted
  terminal :
    r.state.isTerminal → r.terminalHttpStatus.isSome ∧ r.terminalResponseBytes.isSome
  evmSuccessConfirmations :
    r.chainKind = .eip155 ∧ r.state = .succeeded →
      ∃ n ∈ r.confirmations, ∃ m ∈ r.requiredConfirmations, m ≤ n
  requiredConfirmations : ∀ n ∈ r.requiredConfirmations, 1 ≤ n
  confirmations : ∀ n ∈ r.confirmations, 0 ≤ n
  attemptCount : 1 ≤ r.attemptCount ∧ r.attemptCount < 2 ^ 31
  reconciliationAttempts : r.reconciliationAttempts < 2 ^ 31
  amounts : fitsNumeric40 r.amount ∧ fitsNumeric40 r.reservedYoctoNear ∧
    (∀ n ∈ r.gasBurnt, fitsNumeric40 n) ∧ ∀ n ∈ r.tokensBurnt, fitsNumeric40 n
  nonces : (∀ n ∈ r.delegateNonce, fitsNumeric20 n) ∧
    (∀ n ∈ r.delegateMaxBlockHeight, fitsNumeric20 n) ∧
    (∀ n ∈ r.relayerNonce, fitsNumeric20 n) ∧ (∀ n ∈ r.signerAccountNonce, fitsNumeric20 n) ∧
    ∀ n ∈ r.minedBlockNumber, fitsNumeric20 n

instance (r : Settlement) : Decidable r.Checks :=
  decidable_of_iff' _ (checks_iff r)

end Settlement
/-! ## The database -/

/-- The unique indexes of `settlements`. -/
inductive UniqueIndex where
  | primaryKey
  | paymentHash
  | clientPaymentIdentifier
  | relayerNonce
  | anchor
  | evmActiveSigner
  | evmSignerNonce
deriving DecidableEq, Repr

namespace Settlement

def paymentIdentifierKey (r : Settlement) : Option (Uuid × String) :=
  r.paymentIdentifier.map fun identifier => (r.apiClientId, identifier)

/-- The key of `settlements_relayer_nonce_idx`. It has no condition on the state: a terminal row
keeps its nonce. -/
def relayerNonceKey (r : Settlement) : Option (String × String × String × Nat) := do
  let nonce ← r.relayerNonce
  let account ← r.relayerAccountId
  let publicKey ← r.relayerPublicKey
  return (r.network, account, publicKey, nonce)

def anchor (r : Settlement) : String × Hash32 := (r.anchorScope, r.anchorValue)

/-- The key of `settlements_evm_active_signer_idx`. -/
def evmActiveSignerKey (r : Settlement) : Option (String × String) :=
  if r.chainKind = .eip155 ∧ r.state.holdsReservation = true then
    r.signerAddress.map fun signer => (r.network, asciiLower signer)
  else none

/-- The key of `settlements_evm_signer_nonce_idx`. -/
def evmSignerNonceKey (r : Settlement) : Option (String × String × Nat) := do
  if r.chainKind = .eip155 then
    let nonce ← r.signerAccountNonce
    let signer ← r.signerAddress
    return (r.network, asciiLower signer, nonce)
  else none

end Settlement

/-- What PostgreSQL enforces on the rows of `settlements`. -/
@[mk_iff]
structure Constraints (rows : List Settlement) : Prop where
  checks : ∀ r ∈ rows, r.Checks
  primaryKey : Table.UniqueOn (fun r => some r.id) rows
  paymentHash : Table.UniqueOn (fun r => some r.paymentHash) rows
  clientPaymentIdentifier : Table.UniqueOn Settlement.paymentIdentifierKey rows
  relayerNonce : Table.UniqueOn Settlement.relayerNonceKey rows
  anchor : Table.UniqueOn (fun r => some r.anchor) rows
  evmActiveSigner : Table.UniqueOn Settlement.evmActiveSignerKey rows
  evmSignerNonce : Table.UniqueOn Settlement.evmSignerNonceKey rows

instance (rows : List Settlement) : Decidable (Constraints rows) :=
  decidable_of_iff' _ (constraints_iff rows)

/-- A row of `settlement_events`; `transaction` is the only member its metadata object ever has. -/
structure SettlementEvent where
  settlementId : Uuid
  fromState : Option SettlementState
  toState : SettlementState
  code : Option String
  transaction : Option String
deriving DecidableEq, Repr

/-- A row of `daily_global_sponsorship` or `daily_client_sponsorship`. -/
structure SponsorshipUsage where
  reserved : Nat
  spent : Nat
deriving DecidableEq, Repr

inductive RelayerStatus where
  | active
  | quarantined
  | disabled
deriving DecidableEq, Repr

structure RelayerKey where
  network : String
  accountId : String
  publicKey : String
deriving DecidableEq, Repr

structure Relayer where
  status : RelayerStatus
  quarantineReason : Option String
  lastObservedNonce : Option Nat
deriving DecidableEq, Repr

/-- The shared database. -/
structure Db where
  settlements : List Settlement
  constraints : Constraints settlements
  /-- In insertion order. -/
  events : List SettlementEvent
  globalSponsorship : Day → Option SponsorshipUsage
  clientSponsorship : Day → Uuid → Option SponsorshipUsage
  relayers : RelayerKey → Option Relayer
  /-- The ids of `api_clients`, which `settlements` references. -/
  clients : List Uuid

theorem Constraints.nil : Constraints [] := by
  constructor <;> first | exact List.Pairwise.nil | simp

/-- The database right after the migrations. -/
def Db.empty : Db where
  settlements := []
  constraints := Constraints.nil
  events := []
  globalSponsorship := fun _ => none
  clientSponsorship := fun _ _ => none
  relayers := fun _ => none
  clients := []

namespace Db

/-- The primary key determines the row. -/
theorem eq_of_id (db : Db) {r r' : Settlement} (hr : r ∈ db.settlements)
    (hr' : r' ∈ db.settlements) (hid : r.id = r'.id) : r = r' :=
  db.constraints.primaryKey.eq_of_key hr hr' rfl (congrArg some hid.symm)

/-- `SELECT … FROM settlements WHERE id = $1`. -/
def settlement? (db : Db) (id : Uuid) : Option Settlement :=
  db.settlements.find? (·.id = id)

theorem settlement?_eq_some {db : Db} {id : Uuid} {r : Settlement} :
    db.settlement? id = some r ↔ r ∈ db.settlements ∧ r.id = id := by
  constructor
  · intro h
    exact ⟨List.mem_of_find?_eq_some h, by simpa using List.find?_some h⟩
  · rintro ⟨hr, rfl⟩
    cases h : db.settlement? r.id with
    | none => exact absurd (List.find?_eq_none.mp h r hr) (by simp)
    | some r' =>
      have hid : r'.id = r.id := by simpa using List.find?_some h
      rw [db.eq_of_id (List.mem_of_find?_eq_some h) hr hid]

theorem settlement?_eq_none {db : Db} {id : Uuid} :
    db.settlement? id = none ↔ ∀ r ∈ db.settlements, r.id ≠ id := by
  simp [settlement?, List.find?_eq_none]

end Db

end X402Facilitator
