import X402Facilitator.Store.Schema

/-!
# Transactions

A transaction reads and writes the database and either returns a value with the database to commit,
or fails; a failed transaction is rolled back, so it has no resulting database. On top of that this
module has the statements that the store's transactions are built from: the guarded `UPDATE` of the
journal, the audit insert, and the three statements on the sponsorship ledgers.
-/

namespace X402Facilitator

inductive DatabaseError where
  | uniqueViolation (index : UniqueIndex)
  | checkViolation
  | foreignKeyViolation
  | numericOverflow
  | unavailable
deriving DecidableEq, Repr

inductive StoreError where
  | database (error : DatabaseError)
  | corrupt (message : String)
  | invalidInput (message : String)
  | transition (source target : String)
deriving DecidableEq, Repr

structure Txn (α : Type) where
  run : Db → Except StoreError (α × Db)

namespace Txn

variable {α β : Type}

protected def pure (a : α) : Txn α := ⟨fun db => .ok (a, db)⟩

protected def bind (x : Txn α) (f : α → Txn β) : Txn β where
  run db :=
    match x.run db with
    | .ok (a, db') => (f a).run db'
    | .error e => .error e

instance : Monad Txn where
  pure := Txn.pure
  bind := Txn.bind

/-- `return Err(..)`: dropping the transaction rolls it back. -/
def fail (e : StoreError) : Txn α := ⟨fun _ => .error e⟩

def get : Txn Db := ⟨fun db => .ok (db, db)⟩

/-- A statement that only reads. -/
def query (f : Db → α) : Txn α := ⟨fun db => .ok (f db, db)⟩

def set (db : Db) : Txn Unit := ⟨fun _ => .ok ((), db)⟩

/-- Run a transaction: its reply and the database that is committed. -/
def exec (x : Txn α) (db : Db) : Except StoreError α × Db :=
  match x.run db with
  | .ok (a, db') => (.ok a, db')
  | .error e => (.error e, db)

theorem pure_ok {a b : α} {db db' : Db} :
    (pure a : Txn α).run db = .ok (b, db') ↔ b = a ∧ db' = db := by
  change Except.ok (a, db) = Except.ok (b, db') ↔ _
  simp [eq_comm]

theorem fail_ok {e : StoreError} {a : α} {db db' : Db} :
    (fail e : Txn α).run db = .ok (a, db') ↔ False := by
  simp [fail]

theorem get_ok {a db db' : Db} : get.run db = .ok (a, db') ↔ a = db ∧ db' = db := by
  simp [get, eq_comm]

theorem set_ok {u : Unit} {new db db' : Db} : (set new).run db = .ok (u, db') ↔ db' = new := by
  simp [set, eq_comm]

/-- A transaction in two parts commits when both parts do. -/
theorem bind_ok {x : Txn α} {f : α → Txn β} {db db' : Db} {b : β} :
    (x >>= f).run db = .ok (b, db') ↔
      ∃ a mid, x.run db = .ok (a, mid) ∧ (f a).run mid = .ok (b, db') := by
  change (Txn.bind x f).run db = _ ↔ _
  rcases h : x.run db with e | ⟨a, mid⟩ <;> simp [Txn.bind, h]

theorem exec_snd_cases (x : Txn α) (db : Db) :
    (x.exec db).2 = db ∨ ∃ a, x.run db = .ok (a, (x.exec db).2) ∧ (x.exec db).1 = .ok a := by
  unfold exec
  cases h : x.run db with
  | error e => exact .inl rfl
  | ok p => exact .inr ⟨p.1, rfl, rfl⟩

theorem exec_of_ok {x : Txn α} {db db' : Db} {a : α} (h : x.run db = .ok (a, db')) :
    x.exec db = (.ok a, db') := by
  simp [exec, h]

theorem exec_ok {x : Txn α} {db : Db} {a : α} (h : (x.exec db).1 = .ok a) :
    x.run db = .ok (a, (x.exec db).2) := by
  unfold exec at *
  rcases hx : x.run db with e | ⟨a', mid⟩
  · simp [hx] at h
  · simp_all

theorem exec_error {x : Txn α} {db : Db} {e : StoreError} (h : (x.exec db).1 = .error e) :
    x.run db = .error e ∧ (x.exec db).2 = db := by
  unfold exec at *
  cases hx : x.run db with
  | error e' => simp_all
  | ok p => simp [hx] at h

end Txn

/-! ## Statements on the journal -/

/-- The constraint that rejects a table, for the error report. -/
def violation (rows : List Settlement) : DatabaseError :=
  if ¬ ∀ r ∈ rows, r.Checks then .checkViolation
  else if ¬ Table.UniqueOn (fun r => some r.id) rows then .uniqueViolation .primaryKey
  else if ¬ Table.UniqueOn (fun r => some r.paymentHash) rows then .uniqueViolation .paymentHash
  else if ¬ Table.UniqueOn Settlement.paymentIdentifierKey rows then
    .uniqueViolation .clientPaymentIdentifier
  else if ¬ Table.UniqueOn Settlement.relayerNonceKey rows then .uniqueViolation .relayerNonce
  else if ¬ Table.UniqueOn (fun r => some r.anchor) rows then .uniqueViolation .anchor
  else if ¬ Table.UniqueOn Settlement.evmActiveSignerKey rows then
    .uniqueViolation .evmActiveSigner
  else .uniqueViolation .evmSignerNonce

/-- `UPDATE settlements SET … WHERE …`, with the number of rows it affected. -/
def updateSettlements (sel : Settlement → Bool) (f : Settlement → Settlement) : Txn Nat where
  run db :=
    let rows := Table.update sel f db.settlements
    if h : Constraints rows then
      .ok (Table.affected sel db.settlements, { db with settlements := rows, constraints := h })
    else .error (.database (violation rows))

/-- `INSERT INTO settlements … ON CONFLICT DO NOTHING`, with whether the row went in. The checks
are evaluated before the indexes are consulted, the foreign key after the row is in. -/
def insertSettlement (row : Settlement) : Txn Bool where
  run db :=
    let rows := db.settlements ++ [row]
    if ¬ row.Checks then .error (.database .checkViolation)
    else if h : Constraints rows then
      if row.apiClientId ∈ db.clients then
        .ok (true, { db with settlements := rows, constraints := h })
      else .error (.database .foreignKeyViolation)
    else .ok (false, db)

def insertEvent (event : SettlementEvent) : Txn Unit where
  run db := .ok ((), { db with events := db.events ++ [event] })

/-! ## Statements on the sponsorship ledgers -/

/-- The `INSERT … SELECT … WHERE … ON CONFLICT DO UPDATE … WHERE … RETURNING 1` of one ledger row:
`none` when no row is returned. The insert arm compares the reservation alone with the limit, the
update arm the whole usage; either write is subject to the width of its column. -/
def reserveUsage (reservation limit : Nat) (usage : Option SponsorshipUsage) :
    Except StoreError (Option SponsorshipUsage) :=
  if ¬ reservation ≤ limit then .ok none
  else if ¬ fitsNumeric40 reservation then .error (.database .numericOverflow)
  else match usage with
    | none => .ok (some ⟨reservation, 0⟩)
    | some u =>
      if ¬ u.reserved + u.spent + reservation ≤ limit then .ok none
      else if ¬ fitsNumeric40 (u.reserved + reservation) then .error (.database .numericOverflow)
      else .ok (some ⟨u.reserved + reservation, u.spent⟩)

def reserveGlobalBudget (usageDate : Day) (reservation limit : Nat) : Txn Bool where
  run db :=
    match reserveUsage reservation limit (db.globalSponsorship usageDate) with
    | .error e => .error e
    | .ok none => .ok (false, db)
    | .ok (some usage) => .ok (true, { db with
        globalSponsorship := Function.update db.globalSponsorship usageDate (some usage) })

def reserveClientBudget (usageDate : Day) (clientId : Uuid) (reservation limit : Nat) :
    Txn Bool where
  run db :=
    match reserveUsage reservation limit (db.clientSponsorship usageDate clientId) with
    | .error e => .error e
    | .ok none => .ok (false, db)
    | .ok (some usage) => .ok (true, { db with
        clientSponsorship := Function.update db.clientSponsorship usageDate
          (Function.update (db.clientSponsorship usageDate) clientId (some usage)) })

/-- The `UPDATE … WHERE reserved >= $2` of one ledger row: `none` when it affects no row. -/
def releaseUsage (reservation actual : Nat) (usage : Option SponsorshipUsage) :
    Except StoreError (Option SponsorshipUsage) :=
  match usage with
  | none => .ok none
  | some u =>
    if ¬ reservation ≤ u.reserved then .ok none
    else if ¬ fitsNumeric40 (u.spent + actual) then .error (.database .numericOverflow)
    else .ok (some ⟨u.reserved - reservation, u.spent + actual⟩)

/-- The message of the branch that a release without its reservation takes. -/
def missingLedgerRow : String := "sponsorship reservation ledger row is missing"

def releaseBudget (usageDate : Day) (clientId : Uuid) (reservation actual : Nat) : Txn Unit where
  run db :=
    match releaseUsage reservation actual (db.globalSponsorship usageDate),
        releaseUsage reservation actual (db.clientSponsorship usageDate clientId) with
    | .error e, _ => .error e
    | .ok _, .error e => .error e
    | .ok (some global), .ok (some client) => .ok ((), { db with
        globalSponsorship := Function.update db.globalSponsorship usageDate (some global)
        clientSponsorship := Function.update db.clientSponsorship usageDate
          (Function.update (db.clientSponsorship usageDate) clientId (some client)) })
    | .ok _, .ok _ => .error (.corrupt missingLedgerRow)

end X402Facilitator
