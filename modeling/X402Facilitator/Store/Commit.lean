import X402Facilitator.Lib.Run
import X402Facilitator.Store.Operations

/-!
# What a committed statement does

Every statement leaves the journal alone, inserts one reserved row, or rewrites one row by one of
the updates of `RowUpdate`. `StoreOp.exec_cases` says so once, with the guard under which an update
is made, the audit events it appends and what it moves in the sponsorship ledgers. The invariants
of the journal are proved from these three cases and never unfold a transaction.
-/

namespace X402Facilitator

/-! ## Effects of an update -/

/-- What a transaction moves in the sponsorship ledgers. -/
inductive LedgerEffect where
  | keep
  | reserve (usageDate : Day) (client : Uuid) (amount globalLimit clientLimit : Nat)
  | release (usageDate : Day) (client : Uuid) (amount actual : Nat)

/-- Both ledger rows of a day and client are replaced. -/
structure LedgersSet (db db' : Db) (usageDate : Day) (client : Uuid)
    (global perClient : SponsorshipUsage) : Prop where
  globalSponsorship :
    db'.globalSponsorship = Function.update db.globalSponsorship usageDate (some global)
  clientSponsorship :
    db'.clientSponsorship = Function.update db.clientSponsorship usageDate
      (Function.update (db.clientSponsorship usageDate) client (some perClient))

def LedgerEffect.Holds (db db' : Db) : LedgerEffect → Prop
  | keep => db'.globalSponsorship = db.globalSponsorship ∧
      db'.clientSponsorship = db.clientSponsorship
  | reserve usageDate client amount globalLimit clientLimit => ∃ global perClient,
      reserveUsage amount globalLimit (db.globalSponsorship usageDate) = .ok (some global) ∧
      reserveUsage amount clientLimit (db.clientSponsorship usageDate client)
        = .ok (some perClient) ∧
      LedgersSet db db' usageDate client global perClient
  | release usageDate client amount actual => ∃ global perClient,
      releaseUsage amount actual (db.globalSponsorship usageDate) = .ok (some global) ∧
      releaseUsage amount actual (db.clientSponsorship usageDate client) = .ok (some perClient) ∧
      LedgersSet db db' usageDate client global perClient

namespace RowUpdate

/-- The guard under which the store makes an update. -/
def Allowed (r : Settlement) : RowUpdate → Prop
  | release retryCode => retryCode ≠ "" ∧ r.state = .reserved
  | resume _ _ => r.state = .awaitingRetry
  | prepare _ => r.state = .reserved
  | prepareEvm entry => 1 ≤ entry.requiredConfirmations ∧ r.state = .reserved
  | submit => r.state = .prepared
  | raise _ => r.chainKind = .eip155 ∧ r.state.inFlight = true
  | terminate entry => entry.state.isTerminal = true ∧
      transitionAllowed r.state entry.state = true ∧ entry.httpStatus < 2 ^ 15
  | note => True

/-- The audit events an update appends. -/
def events (r : Settlement) : RowUpdate → List SettlementEvent
  | release retryCode => [⟨r.id, some .reserved, .awaitingRetry, some retryCode, none⟩]
  | resume _ _ => [⟨r.id, some .awaitingRetry, .reserved, some "retry_resumed", none⟩]
  | prepare entry => [⟨r.id, some .reserved, .prepared, some "outer_transaction_persisted",
      some entry.transactionHash⟩]
  | prepareEvm entry => [⟨r.id, some .reserved, .prepared, some "evm_transaction_persisted",
      some entry.submittedTxHash⟩]
  | submit => [⟨r.id, some .prepared, .submitted, some "broadcast_started", none⟩]
  | raise _ => []
  | terminate entry => [⟨r.id, some r.state, entry.state, entry.errorCode, none⟩]
  | note => []

/-- What an update moves in the ledgers. -/
def effect (r : Settlement) : RowUpdate → LedgerEffect
  | release _ => .release r.reservationDate r.apiClientId r.reservedYoctoNear 0
  | resume retry usageDate => .reserve usageDate r.apiClientId retry.reservationYoctoNear
      retry.globalDailyBudgetYoctoNear retry.clientDailyBudgetYoctoNear
  | terminate entry =>
      .release r.reservationDate r.apiClientId r.reservedYoctoNear entry.actualYoctoNear
  | _ => .keep

@[simp]
theorem apply_id (r : Settlement) (u : RowUpdate) : (u.apply r).id = r.id := by
  cases u <;> rfl

end RowUpdate

/-! ## The three outcomes -/

/-- Journal, audit log and ledgers are as they were. -/
structure SameJournal (db db' : Db) : Prop where
  settlements : db'.settlements = db.settlements
  events : db'.events = db.events
  globalSponsorship : db'.globalSponsorship = db.globalSponsorship
  clientSponsorship : db'.clientSponsorship = db.clientSponsorship

theorem SameJournal.refl (db : Db) : SameJournal db db := ⟨rfl, rfl, rfl, rfl⟩

/-- A new row has been claimed. -/
structure Claimed (db db' : Db) (new : NewSettlement) (usageDate : Day) (createdAt : Nat) :
    Prop where
  settlements : db'.settlements = db.settlements ++ [new.row usageDate createdAt]
  events : db'.events = db.events ++ [⟨new.id, none, .reserved, some "claimed", none⟩]
  ledger : (LedgerEffect.reserve usageDate new.apiClientId new.reservationYoctoNear
    new.globalDailyBudgetYoctoNear new.clientDailyBudgetYoctoNear).Holds db db'

/-- The row `r` has been rewritten by the update `u`. -/
structure Updated (db db' : Db) (r : Settlement) (u : RowUpdate) : Prop where
  allowed : u.Allowed r
  settlements : ∃ before after, db.settlements = before ++ r :: after ∧
    db'.settlements = before ++ u.apply r :: after
  events : db'.events = db.events ++ u.events r
  ledger : (u.effect r).Holds db db'

/-- A reservation that both ledgers granted, with the limits it was checked against. -/
structure Reservation where
  usageDate : Day
  client : Uuid
  amount : Nat
  globalLimit : Nat
  clientLimit : Nat

/-- A terminalization: what its row had reserved and what it turned out to cost. -/
structure Charge where
  usageDate : Day
  client : Uuid
  reserved : Nat
  actual : Nat

namespace RowUpdate

def reservation (r : Settlement) : RowUpdate → Option Reservation
  | resume retry usageDate => some ⟨usageDate, r.apiClientId, retry.reservationYoctoNear,
      retry.globalDailyBudgetYoctoNear, retry.clientDailyBudgetYoctoNear⟩
  | _ => none

def charge (r : Settlement) : RowUpdate → Option Charge
  | terminate entry =>
      some ⟨r.reservationDate, r.apiClientId, r.reservedYoctoNear, entry.actualYoctoNear⟩
  | _ => none

end RowUpdate

namespace StoreOp

/-- The reservation a statement is granted, if any. -/
def reservation (now : Nat) (db : Db) : StoreOp → Option Reservation
  | claimReservation new usageDate =>
    match ((claimReservation new usageDate).exec now db).1 with
    | .ok ClaimReply.inserted => some ⟨usageDate, new.apiClientId, new.reservationYoctoNear,
        new.globalDailyBudgetYoctoNear, new.clientDailyBudgetYoctoNear⟩
    | _ => none
  | resumeReservation retry usageDate =>
    match ((resumeReservation retry usageDate).exec now db).1 with
    | .ok ResumeReply.resumed =>
      (db.settlement? retry.settlementId).bind fun r =>
        (RowUpdate.resume retry usageDate).reservation r
    | _ => none
  | _ => none

/-- The terminalization a statement commits, if any. -/
def charge (now : Nat) (db : Db) : StoreOp → Option Charge
  | markTerminal entry =>
    match ((markTerminal entry).exec now db).1 with
    | .ok _ => (db.settlement? entry.settlementId).bind fun r =>
        if r.state.isTerminal then none else (RowUpdate.terminate entry).charge r
    | .error _ => none
  | _ => none

end StoreOp

/-- The row an update statement names, and the update it makes. -/
def StoreOp.target : StoreOp → Option (Uuid × RowUpdate)
  | markAwaitingRetry id retryCode => some (id, .release retryCode)
  | resumeReservation retry usageDate => some (retry.settlementId, .resume retry usageDate)
  | raiseConfirmations id minimum => some (id, .raise minimum)
  | markPrepared entry => some (entry.settlementId, .prepare entry)
  | markPreparedEvm entry => some (entry.settlementId, .prepareEvm entry)
  | markSubmitted id => some (id, .submit)
  | markTerminal entry => some (entry.settlementId, .terminate entry)
  | noteReconciliation id => some (id, .note)
  | _ => none

/-! ## Statements -/

theorem updateSettlements_ok {sel : Settlement → Bool} {f : Settlement → Settlement} {db db' : Db}
    {n : Nat} (h : (updateSettlements sel f).run db = .ok (n, db')) :
    n = Table.affected sel db.settlements ∧ ∃ hrows : Constraints (Table.update sel f db.settlements),
      db' = { db with settlements := Table.update sel f db.settlements, constraints := hrows } := by
  dsimp only [updateSettlements] at h
  split at h
  next hrows => simp only [Except.ok.injEq, Prod.mk.injEq] at h; exact ⟨h.1.symm, hrows, h.2.symm⟩
  next => cases h

/-- An update that affects some row has found one. -/
theorem exists_of_affected {sel : Settlement → Bool} {rows : List Settlement}
    (h : Table.affected sel rows = 1) : ∃ r ∈ rows, sel r = true := by
  have hpos : 0 < rows.countP sel := by
    rw [← Table.affected, h]
    exact Nat.one_pos
  exact List.countP_pos_iff.mp hpos

/-- An update by primary key rewrites one place of the journal. -/
theorem update_split (db : Db) {r : Settlement} (hr : r ∈ db.settlements) (sel : Settlement → Bool)
    (f : Settlement → Settlement) (hselr : sel r = true) (hsel : ∀ a, sel a = true → a.id = r.id) :
    ∃ before after, db.settlements = before ++ r :: after ∧
      Table.update sel f db.settlements = before ++ f r :: after := by
  obtain ⟨before, after, hsplit, hupdate⟩ := Table.exists_split db.constraints.primaryKey hr
  exact ⟨before, after, hsplit, hupdate sel f hselr hsel⟩

theorem updateSettlements_split {sel : Settlement → Bool} {f : Settlement → Settlement}
    {db db' : Db} {n : Nat} (h : (updateSettlements sel f).run db = .ok (n, db')) {r : Settlement}
    (hr : r ∈ db.settlements) (hselr : sel r = true) (hsel : ∀ a, sel a = true → a.id = r.id) :
    (∃ before after, db.settlements = before ++ r :: after ∧
      db'.settlements = before ++ f r :: after) ∧ db'.events = db.events ∧
      db'.globalSponsorship = db.globalSponsorship ∧
      db'.clientSponsorship = db.clientSponsorship := by
  obtain ⟨-, hrows, rfl⟩ := updateSettlements_ok h
  exact ⟨update_split db hr sel f hselr hsel, rfl, rfl, rfl⟩

theorem selectForUpdate_ok {id : Uuid} {missing : String} {db db' : Db} {r : Settlement}
    (h : (selectForUpdate id missing).run db = .ok (r, db')) :
    (r ∈ db.settlements ∧ r.id = id) ∧ db' = db := by
  obtain ⟨a, mid, hget, hrest⟩ := Txn.bind_ok.mp h
  obtain ⟨rfl, rfl⟩ := Txn.get_ok.mp hget
  cases hrow : mid.settlement? id with
  | none =>
    rw [hrow] at hrest
    exact (Txn.fail_ok.mp hrest).elim
  | some row =>
    rw [hrow] at hrest
    obtain ⟨rfl, rfl⟩ := Txn.pure_ok.mp hrest
    exact ⟨Db.settlement?_eq_some.mp hrow, rfl⟩

theorem insertEvent_ok {event : SettlementEvent} {db db' : Db} {u : Unit}
    (h : (insertEvent event).run db = .ok (u, db')) :
    db' = { db with events := db.events ++ [event] } := by
  simp only [insertEvent, Except.ok.injEq, Prod.mk.injEq] at h
  exact h.2.symm

theorem reserveGlobalBudget_ok {usageDate : Day} {reservation limit : Nat} {db db' : Db} {b : Bool}
    (h : (reserveGlobalBudget usageDate reservation limit).run db = .ok (b, db')) :
    (b = false ∧ db' = db) ∨ (b = true ∧ ∃ usage,
      reserveUsage reservation limit (db.globalSponsorship usageDate) = .ok (some usage) ∧
      db' = { db with
        globalSponsorship := Function.update db.globalSponsorship usageDate (some usage) }) := by
  dsimp only [reserveGlobalBudget] at h
  split at h
  next => cases h
  next => simp only [Except.ok.injEq, Prod.mk.injEq] at h; exact .inl ⟨h.1.symm, h.2.symm⟩
  next usage husage =>
    simp only [Except.ok.injEq, Prod.mk.injEq] at h
    exact .inr ⟨h.1.symm, usage, husage, h.2.symm⟩

theorem reserveClientBudget_ok {usageDate : Day} {client : Uuid} {reservation limit : Nat}
    {db db' : Db} {b : Bool}
    (h : (reserveClientBudget usageDate client reservation limit).run db = .ok (b, db')) :
    (b = false ∧ db' = db) ∨ (b = true ∧ ∃ usage,
      reserveUsage reservation limit (db.clientSponsorship usageDate client) = .ok (some usage) ∧
      db' = { db with
        clientSponsorship := Function.update db.clientSponsorship usageDate
          (Function.update (db.clientSponsorship usageDate) client (some usage)) }) := by
  dsimp only [reserveClientBudget] at h
  split at h
  next => cases h
  next => simp only [Except.ok.injEq, Prod.mk.injEq] at h; exact .inl ⟨h.1.symm, h.2.symm⟩
  next usage husage =>
    simp only [Except.ok.injEq, Prod.mk.injEq] at h
    exact .inr ⟨h.1.symm, usage, husage, h.2.symm⟩

theorem releaseBudget_ok {usageDate : Day} {client : Uuid} {reservation actual : Nat}
    {db db' : Db} {u : Unit}
    (h : (releaseBudget usageDate client reservation actual).run db = .ok (u, db')) :
    db'.settlements = db.settlements ∧ db'.events = db.events ∧
      (LedgerEffect.release usageDate client reservation actual).Holds db db' := by
  dsimp only [releaseBudget] at h
  split at h
  next => cases h
  next => cases h
  next global perClient hglobal hclient =>
    simp only [Except.ok.injEq, Prod.mk.injEq, true_and] at h
    subst h
    exact ⟨rfl, rfl, global, perClient, hglobal, hclient, rfl, rfl⟩
  next => cases h

/-! ## Transactions -/

theorem reserveBudgets_ok {usageDate : Day} {client : Uuid}
    {reservation globalLimit clientLimit : Nat} {db db' : Db} {b : Bool}
    (h : (reserveBudgets usageDate client reservation globalLimit clientLimit).run db
      = .ok (b, db')) :
    b = false ∨ (b = true ∧ db'.settlements = db.settlements ∧ db'.events = db.events ∧
      (LedgerEffect.reserve usageDate client reservation globalLimit clientLimit).Holds db db') := by
  rw [reserveBudgets, Txn.bind_ok] at h
  obtain ⟨granted, mid, hglobal, h⟩ := h
  obtain ⟨rfl, rfl⟩ | ⟨rfl, global, husage, rfl⟩ := reserveGlobalBudget_ok hglobal
  · exact .inl (Txn.pure_ok.mp h).1
  · obtain ⟨rfl, -⟩ | ⟨rfl, perClient, husage', rfl⟩ := reserveClientBudget_ok h
    · exact .inl rfl
    · exact .inr ⟨rfl, rfl, rfl, global, perClient, husage, husage', rfl, rfl⟩

theorem claimReservation_ok {new : NewSettlement} {usageDate : Day} {createdAt : Nat} {db db' : Db}
    {reply : ClaimReply} (h : (claimReservation new usageDate createdAt).run db = .ok (reply, db')) :
    (reply = .inserted ∧ Claimed db db' new usageDate createdAt) ∨
      (reply ≠ .inserted ∧ db' = db) := by
  rw [claimReservation, Txn.bind_ok] at h
  obtain ⟨before, db₀, hget, h⟩ := h
  obtain ⟨rfl, rfl⟩ := Txn.get_ok.mp hget
  rw [Txn.bind_ok] at h
  obtain ⟨inserted, db₁, hinsert, h⟩ := h
  dsimp only [insertSettlement] at hinsert
  split at hinsert
  · cases hinsert
  split at hinsert
  case isFalse =>
    obtain ⟨rfl, rfl⟩ : false = inserted ∧ db₀ = db₁ := by simpa using hinsert
    obtain ⟨rfl, rfl⟩ := Txn.pure_ok.mp h
    exact .inr ⟨by decide, rfl⟩
  case isTrue hrows =>
    split at hinsert
    case isFalse => cases hinsert
    obtain ⟨rfl, rfl⟩ := (by simpa using hinsert : true = inserted ∧ _ = db₁)
    rw [if_pos rfl, Txn.bind_ok] at h
    obtain ⟨granted, db₂, hreserve, h⟩ := h
    obtain rfl | ⟨rfl, hrows', hevents, global, perClient, hglobal, hclient, hset, hset'⟩ :=
      reserveBudgets_ok hreserve
    · rw [if_neg (by decide), Txn.bind_ok] at h
      obtain ⟨_, db₃, hset, h⟩ := h
      obtain ⟨rfl, rfl⟩ := Txn.pure_ok.mp h
      exact .inr ⟨by decide, Txn.set_ok.mp hset⟩
    · rw [if_pos rfl, Txn.bind_ok] at h
      obtain ⟨_, db₃, hevent, h⟩ := h
      obtain ⟨rfl, rfl⟩ := Txn.pure_ok.mp h
      rw [insertEvent_ok hevent]
      exact .inl ⟨rfl, hrows', by rw [hevents], global, perClient, hglobal, hclient, hset, hset'⟩

theorem markAwaitingRetry_ok {id : Uuid} {retryCode : String} {db db' : Db} {u : Unit}
    (h : (markAwaitingRetry id retryCode).run db = .ok (u, db')) :
    ∃ r ∈ db.settlements, r.id = id ∧ Updated db db' r (.release retryCode) := by
  unfold markAwaitingRetry at h
  split at h
  · exact (Txn.fail_ok.mp h).elim
  rename_i hcode
  rw [Txn.bind_ok] at h
  obtain ⟨r, db₁, hselect, h⟩ := h
  obtain ⟨⟨hr, hid⟩, rfl⟩ := selectForUpdate_ok hselect
  split at h
  · exact (Txn.fail_ok.mp h).elim
  rename_i hstate
  rw [not_not] at hstate
  rw [Txn.bind_ok] at h
  obtain ⟨_, db₂, hrelease, h⟩ := h
  obtain ⟨hrows, hevents, hledger⟩ := releaseBudget_ok hrelease
  rw [Txn.bind_ok] at h
  obtain ⟨affected, db₃, hupdate, h⟩ := h
  split at h
  · exact (Txn.fail_ok.mp h).elim
  obtain ⟨⟨before, after, hsplit, hsplit'⟩, hevents', hglobal, hclient⟩ :=
    updateSettlements_split hupdate (hrows ▸ hr) (by simp [hid, hstate]) (by simp +contextual [hid])
  rw [insertEvent_ok h]
  refine ⟨r, hr, hid, ⟨hcode, hstate⟩, ⟨before, after, hrows ▸ hsplit, hsplit'⟩, ?_, ?_⟩
  · simp [hevents', hevents, RowUpdate.events, hid]
  · obtain ⟨global, perClient, h₁, h₂, h₃, h₄⟩ := hledger
    exact ⟨global, perClient, h₁, h₂, hglobal.trans h₃, hclient.trans h₄⟩

theorem acquireSlot_ok {retry : RetryReservation} {usageDate : Day} {db db' : Db}
    {affected : Option Nat} (h : (acquireSlot retry usageDate).run db = .ok (affected, db')) :
    (affected = none ∧ db' = db) ∨ ∃ n, affected = some n ∧
      (updateInState retry.settlementId .awaitingRetry (.resume retry usageDate)).run db
        = .ok (n, db') := by
  dsimp only [acquireSlot] at h
  split at h
  next n mid hmid =>
    obtain ⟨rfl, rfl⟩ : some n = affected ∧ mid = db' := by simpa using h
    exact .inr ⟨n, rfl, hmid⟩
  next =>
    obtain ⟨rfl, rfl⟩ : none = affected ∧ db = db' := by simpa using h
    exact .inl ⟨rfl, rfl⟩
  next => cases h

theorem resumeReservation_ok {retry : RetryReservation} {usageDate : Day} {db db' : Db}
    {reply : ResumeReply} (h : (resumeReservation retry usageDate).run db = .ok (reply, db')) :
    (reply = .resumed ∧ ∃ r ∈ db.settlements, r.id = retry.settlementId ∧
      Updated db db' r (.resume retry usageDate)) ∨ (reply ≠ .resumed ∧ db' = db) := by
  rw [resumeReservation, Txn.bind_ok] at h
  obtain ⟨before, db₀, hget, h⟩ := h
  obtain ⟨rfl, rfl⟩ := Txn.get_ok.mp hget
  rw [Txn.bind_ok] at h
  obtain ⟨r, db₁, hselect, h⟩ := h
  obtain ⟨⟨hr, hid⟩, rfl⟩ := selectForUpdate_ok hselect
  split at h
  · exact (Txn.fail_ok.mp h).elim
  rename_i hstate
  rw [not_not] at hstate
  rw [Txn.bind_ok] at h
  obtain ⟨affected, db₂, hslot, h⟩ := h
  obtain ⟨rfl, rfl⟩ | ⟨n, rfl, hupdate⟩ := acquireSlot_ok hslot
  · obtain ⟨rfl, rfl⟩ := Txn.pure_ok.mp h
    exact .inr ⟨by decide, rfl⟩
  obtain ⟨hsplit, hevents, hglobal₁, hclient₁⟩ :=
    updateSettlements_split hupdate hr (by simp [hid, hstate]) (by simp +contextual [hid])
  dsimp only at h
  split at h
  · exact (Txn.fail_ok.mp h).elim
  rw [Txn.bind_ok] at h
  obtain ⟨granted, db₃, hreserve, h⟩ := h
  obtain rfl | ⟨rfl, hrows, hevents', global, perClient, hglobal, hclient, hset, hset'⟩ :=
    reserveBudgets_ok hreserve
  · rw [if_neg (by decide), Txn.bind_ok] at h
    obtain ⟨_, db₄, hset, h⟩ := h
    obtain ⟨rfl, rfl⟩ := Txn.pure_ok.mp h
    exact .inr ⟨by decide, Txn.set_ok.mp hset⟩
  · rw [if_pos rfl, Txn.bind_ok] at h
    obtain ⟨_, db₄, hevent, h⟩ := h
    obtain ⟨rfl, rfl⟩ := Txn.pure_ok.mp h
    rw [insertEvent_ok hevent]
    refine .inl ⟨rfl, r, hr, hid, hstate, hrows ▸ hsplit, ?_, global, perClient, ?_, ?_, ?_, ?_⟩
    · simp [hevents', hevents, RowUpdate.events, hid]
    · exact hglobal₁ ▸ hglobal
    · exact hclient₁ ▸ hclient
    · exact hglobal₁ ▸ hset
    · exact hclient₁ ▸ hset'

theorem journalPrepared_ok {id : Uuid} {update : RowUpdate} {code transaction : String}
    {db db' : Db} {u : Unit} (h : (journalPrepared id update code transaction).run db = .ok (u, db')) :
    ∃ r ∈ db.settlements, r.id = id ∧ r.state = .reserved ∧
      (∃ before after, db.settlements = before ++ r :: after ∧
        db'.settlements = before ++ update.apply r :: after) ∧
      db'.events = db.events ++ [⟨id, some .reserved, .prepared, some code, some transaction⟩] ∧
      LedgerEffect.keep.Holds db db' := by
  rw [journalPrepared, Txn.bind_ok] at h
  obtain ⟨affected, db₁, hupdate, h⟩ := h
  split at h
  · rw [Txn.bind_ok] at h
    obtain ⟨r, db₂, -, h⟩ := h
    exact (Txn.fail_ok.mp h).elim
  rename_i haffected
  rw [not_not] at haffected
  obtain ⟨r, hr, hsel⟩ := exists_of_affected
    ((updateSettlements_ok hupdate).1.symm.trans haffected)
  obtain ⟨hid, hstate⟩ : r.id = id ∧ r.state = .reserved := by simpa using hsel
  obtain ⟨hsplit, hevents, hglobal, hclient⟩ :=
    updateSettlements_split hupdate hr hsel (by simp +contextual [hid])
  rw [insertEvent_ok h]
  exact ⟨r, hr, hid, hstate, hsplit, by rw [hevents], hglobal, hclient⟩

theorem markPrepared_ok {entry : PreparedJournalEntry} {db db' : Db} {u : Unit}
    (h : (markPrepared entry).run db = .ok (u, db')) :
    ∃ r ∈ db.settlements, r.id = entry.settlementId ∧ Updated db db' r (.prepare entry) := by
  obtain ⟨r, hr, hid, hstate, hsplit, hevents, hledger⟩ := journalPrepared_ok h
  exact ⟨r, hr, hid, hstate, hsplit, by rw [hevents, RowUpdate.events, hid], hledger⟩

theorem markPreparedEvm_ok {entry : EvmPreparedJournalEntry} {db db' : Db} {u : Unit}
    (h : (markPreparedEvm entry).run db = .ok (u, db')) :
    ∃ r ∈ db.settlements, r.id = entry.settlementId ∧ Updated db db' r (.prepareEvm entry) := by
  unfold markPreparedEvm at h
  split at h
  · exact (Txn.fail_ok.mp h).elim
  rename_i hdepth
  obtain ⟨r, hr, hid, hstate, hsplit, hevents, hledger⟩ := journalPrepared_ok h
  exact ⟨r, hr, hid, ⟨not_lt.mp hdepth, hstate⟩, hsplit,
    by rw [hevents, RowUpdate.events, hid], hledger⟩

theorem markSubmitted_ok {id : Uuid} {db db' : Db} {u : Unit}
    (h : (markSubmitted id).run db = .ok (u, db')) :
    ∃ r ∈ db.settlements, r.id = id ∧ Updated db db' r .submit := by
  rw [markSubmitted, Txn.bind_ok] at h
  obtain ⟨affected, db₁, hupdate, h⟩ := h
  split at h
  · rw [Txn.bind_ok] at h
    obtain ⟨r, db₂, -, h⟩ := h
    exact (Txn.fail_ok.mp h).elim
  rename_i haffected
  rw [not_not] at haffected
  obtain ⟨r, hr, hsel⟩ := exists_of_affected
    ((updateSettlements_ok hupdate).1.symm.trans haffected)
  obtain ⟨hid, hstate⟩ : r.id = id ∧ r.state = .prepared := by simpa using hsel
  obtain ⟨hsplit, hevents, hglobal, hclient⟩ :=
    updateSettlements_split hupdate hr hsel (by simp +contextual [hid])
  rw [insertEvent_ok h]
  exact ⟨r, hr, hid, hstate, hsplit, by rw [hevents, RowUpdate.events, hid], hglobal, hclient⟩

/-- A terminalization rewrites a live row, or finds the terminal row it would have written. -/
theorem markTerminal_ok {entry : TerminalJournalEntry} {db db' : Db} {u : Unit}
    (h : (markTerminal entry).run db = .ok (u, db')) :
    ∃ r ∈ db.settlements, r.id = entry.settlementId ∧
      (Updated db db' r (.terminate entry) ∨
        (r.state.isTerminal = true ∧ r.terminalHttpStatus = smallint? entry.httpStatus ∧
          r.terminalResponseBytes = some entry.responseBytes ∧ db' = db)) := by
  unfold markTerminal at h
  split at h
  · exact (Txn.fail_ok.mp h).elim
  rename_i hterminal
  rw [not_not] at hterminal
  rw [Txn.bind_ok] at h
  obtain ⟨r, db₁, hselect, h⟩ := h
  obtain ⟨⟨hr, hid⟩, rfl⟩ := selectForUpdate_ok hselect
  refine ⟨r, hr, hid, ?_⟩
  dsimp only at h
  split at h
  case isTrue hdone =>
    split at h
    case isTrue hsame => exact .inr ⟨hdone, hsame.1, hsame.2, (Txn.pure_ok.mp h).2⟩
    case isFalse => exact (Txn.fail_ok.mp h).elim
  case isFalse =>
    split at h
    · exact (Txn.fail_ok.mp h).elim
    rename_i hallowed
    rw [not_not] at hallowed
    rw [Txn.bind_ok] at h
    obtain ⟨_, db₂, hrelease, h⟩ := h
    obtain ⟨hrows, hevents, global, perClient, hglobal, hclient, hset, hset'⟩ :=
      releaseBudget_ok hrelease
    cases hstatus : smallint? entry.httpStatus with
    | none =>
      rw [hstatus] at h
      exact (Txn.fail_ok.mp h).elim
    | some status =>
      rw [hstatus] at h
      dsimp only at h
      rw [Txn.bind_ok] at h
      obtain ⟨affected, db₃, hupdate, h⟩ := h
      obtain ⟨hsplit, hevents', hglobal', hclient'⟩ :=
        updateSettlements_split hupdate (hrows ▸ hr) (by simp [hid]) (by simp +contextual [hid])
      rw [insertEvent_ok h]
      refine .inl ⟨⟨hterminal, hallowed, (smallint?_eq_some.mp hstatus).1⟩, hrows ▸ hsplit, ?_, global, perClient, hglobal,
        hclient, hglobal'.trans hset, hclient'.trans hset'⟩
      simp [hevents', hevents, RowUpdate.events, hid]

/-- An update of the row with one primary key rewrites that row or finds none. -/
theorem updateById_ok {sel : Settlement → Bool} {update : RowUpdate} {id : Uuid} {db db' : Db}
    {n : Nat} (hsel : ∀ r, sel r = true → r.id = id)
    (h : (updateSettlements sel update.apply).run db = .ok (n, db'))
    (hallowed : ∀ r, sel r = true → update.Allowed r)
    (hevents : ∀ r, update.events r = []) (heffect : ∀ r, update.effect r = .keep) :
    SameJournal db db' ∨ ∃ r ∈ db.settlements, r.id = id ∧ Updated db db' r update := by
  by_cases hnone : ∀ r ∈ db.settlements, sel r = false
  · obtain ⟨-, hrows, rfl⟩ := updateSettlements_ok h
    exact .inl ⟨Table.update_of_none hnone, rfl, rfl, rfl⟩
  · push Not at hnone
    obtain ⟨r, hr, hselr⟩ := hnone
    rw [ne_eq, Bool.not_eq_false] at hselr
    obtain ⟨hsplit, hevents', hglobal, hclient⟩ := updateSettlements_split h hr hselr
      fun a ha => (hsel a ha).trans (hsel r hselr).symm
    refine .inr ⟨r, hr, hsel r hselr, hallowed r hselr, hsplit, ?_, ?_⟩
    · rw [hevents r, List.append_nil, hevents']
    · rw [heffect r]
      exact ⟨hglobal, hclient⟩

theorem raiseConfirmations_ok {id : Uuid} {minimum : Int} {db db' : Db} {reply : Option Int}
    (h : (raiseConfirmations id minimum).run db = .ok (reply, db')) :
    (SameJournal db db' ∨ ∃ r ∈ db.settlements, r.id = id ∧ Updated db db' r (.raise minimum)) ∧
      ∀ depth ∈ reply, ∃ r ∈ db'.settlements, r.id = id ∧ r.requiredConfirmations = some depth ∧
        r.chainKind = .eip155 ∧ r.state.inFlight = true := by
  rw [raiseConfirmations, Txn.bind_ok] at h
  obtain ⟨n, db₁, hupdate, h⟩ := h
  rw [Txn.bind_ok] at h
  obtain ⟨after, db₂, hget, h⟩ := h
  obtain ⟨rfl, rfl⟩ := Txn.get_ok.mp hget
  obtain ⟨rfl, rfl⟩ := Txn.pure_ok.mp h
  have hid : ∀ r : Settlement, decide (r.id = id ∧ r.chainKind = .eip155 ∧ r.state.inFlight = true)
      = true → r.id = id := by simp +contextual
  refine ⟨updateById_ok hid hupdate (by simp [RowUpdate.Allowed]) (fun _ => rfl) fun _ => rfl, ?_⟩
  intro depth hdepth
  obtain ⟨r, hfind, hr⟩ := Option.bind_eq_some_iff.mp hdepth
  have hsel := List.find?_some hfind
  simp only [decide_eq_true_eq] at hsel
  exact ⟨r, List.mem_of_find?_eq_some hfind, hsel.1, hr, hsel.2⟩

theorem noteReconciliation_ok {id : Uuid} {db db' : Db} {u : Unit}
    (h : (noteReconciliation id).run db = .ok (u, db')) :
    SameJournal db db' ∨ ∃ r ∈ db.settlements, r.id = id ∧ Updated db db' r .note := by
  rw [noteReconciliation, Txn.bind_ok] at h
  obtain ⟨n, db₁, hupdate, h⟩ := h
  obtain ⟨-, rfl⟩ := Txn.pure_ok.mp h
  exact updateById_ok (by simp) hupdate (fun _ _ => trivial) (fun _ => rfl) fun _ => rfl

theorem setRelayer_sameJournal {key : RelayerKey} {relayer : Relayer} {db db' : Db} {u : Unit}
    (h : (setRelayer key relayer).run db = .ok (u, db')) : SameJournal db db' := by
  obtain ⟨-, rfl⟩ := (by simpa [setRelayer] using h : u = () ∧ _ = db')
  exact ⟨rfl, rfl, rfl, rfl⟩

theorem upsertRelayer_sameJournal {key : RelayerKey} {db db' : Db} {u : Unit}
    (h : (upsertRelayer key).run db = .ok (u, db')) : SameJournal db db' := by
  rw [upsertRelayer, Txn.bind_ok] at h
  obtain ⟨before, db₁, hget, h⟩ := h
  obtain ⟨rfl, rfl⟩ := Txn.get_ok.mp hget
  split at h
  · exact (Txn.pure_ok.mp h).2 ▸ SameJournal.refl _
  · exact setRelayer_sameJournal h

theorem quarantineRelayer_sameJournal {key : RelayerKey} {reason : String} {nonce : Nat}
    {db db' : Db} {u : Unit} (h : (quarantineRelayer key reason nonce).run db = .ok (u, db')) :
    SameJournal db db' := by
  unfold quarantineRelayer at h
  split at h
  · exact (Txn.fail_ok.mp h).elim
  · exact setRelayer_sameJournal h

theorem createClient_sameJournal {id : Uuid} {db db' : Db} {u : Unit}
    (h : (createClient id).run db = .ok (u, db')) : SameJournal db db' := by
  dsimp only [createClient] at h
  split at h
  · cases h
  · obtain ⟨-, rfl⟩ := (by simpa using h : u = () ∧ _ = db')
    exact ⟨rfl, rfl, rfl, rfl⟩

/-! ## Any statement -/

/-- What the store does in one step. -/
inductive StoreOp.Commit (op : StoreOp) (now : Nat) (db db' : Db) : Prop
  | same (h : SameJournal db db') (hreservation : op.reservation now db = none)
      (hcharge : op.charge now db = none)
  | claimed {new : NewSettlement} {usageDate : Day} (hop : op = .claimReservation new usageDate)
      (h : Claimed db db' new usageDate now)
      (hreservation : op.reservation now db = some ⟨usageDate, new.apiClientId,
        new.reservationYoctoNear, new.globalDailyBudgetYoctoNear, new.clientDailyBudgetYoctoNear⟩)
      (hcharge : op.charge now db = none)
  | updated {r : Settlement} {u : RowUpdate} (hop : op.target = some (r.id, u))
      (h : Updated db db' r u) (hreservation : op.reservation now db = u.reservation r)
      (hcharge : op.charge now db = u.charge r)

theorem Updated.mem {db db' : Db} {r : Settlement} {u : RowUpdate} (h : Updated db db' r u) :
    r ∈ db.settlements := by
  obtain ⟨before, after, hsplit, -⟩ := h.settlements
  simp [hsplit]

/-- A row after an update is the rewritten row or one that was there. -/
theorem Updated.mem_cases {db db' : Db} {r r' : Settlement} {u : RowUpdate}
    (h : Updated db db' r u) (hr' : r' ∈ db'.settlements) :
    r' = u.apply r ∨ (r' ∈ db.settlements ∧ r'.id ≠ r.id) := by
  obtain ⟨before, after, hsplit, hsplit'⟩ := h.settlements
  have hunique := db.constraints.primaryKey
  rw [hsplit] at hunique
  obtain ⟨-, hafter, hcross⟩ := List.pairwise_append.mp hunique
  rw [hsplit', List.mem_append, List.mem_cons] at hr'
  rcases hr' with hbefore | rfl | hafter'
  · refine .inr ⟨by simp [hsplit, hbefore], fun hid => ?_⟩
    exact hcross r' hbefore r List.mem_cons_self _ rfl (congrArg some hid.symm)
  · exact .inl rfl
  · refine .inr ⟨by simp [hsplit, hafter'], fun hid => ?_⟩
    exact (List.pairwise_cons.mp hafter).1 r' hafter' _ rfl (congrArg some hid)

/-- Every other row is still there after an update. -/
theorem Updated.mem_of_ne {db db' : Db} {r r' : Settlement} {u : RowUpdate}
    (h : Updated db db' r u) (hr' : r' ∈ db.settlements) (hne : r' ≠ r) :
    r' ∈ db'.settlements := by
  obtain ⟨before, after, hsplit, hsplit'⟩ := h.settlements
  have hr'' : r' ∈ before ∨ r' ∈ after := by simpa [hsplit, hne] using hr'
  rw [hsplit']
  rcases hr'' with hbefore | hafter
  · simp [hbefore]
  · simp [hafter]

theorem Updated.apply_mem {db db' : Db} {r : Settlement} {u : RowUpdate} (h : Updated db db' r u) :
    u.apply r ∈ db'.settlements := by
  obtain ⟨before, after, -, hsplit'⟩ := h.settlements
  simp [hsplit']

/-- A raise that returns no depth has found no row to raise. -/
theorem raiseConfirmations_none {id : Uuid} {minimum : Int} {db db' : Db}
    (h : (raiseConfirmations id minimum).run db = .ok (none, db')) : SameJournal db db' := by
  obtain hsame | ⟨r, -, hid, hupdated⟩ := (raiseConfirmations_ok h).1
  · exact hsame
  exfalso
  rw [raiseConfirmations, Txn.bind_ok] at h
  obtain ⟨n, db₁, -, h⟩ := h
  rw [Txn.bind_ok] at h
  obtain ⟨after, db₂, hget, h⟩ := h
  obtain ⟨rfl, rfl⟩ := Txn.get_ok.mp hget
  obtain ⟨hnone, rfl⟩ := Txn.pure_ok.mp h
  have hselected : decide (((RowUpdate.raise minimum).apply r).id = id ∧
      ((RowUpdate.raise minimum).apply r).chainKind = .eip155 ∧
      ((RowUpdate.raise minimum).apply r).state.inFlight = true) = true := by
    simpa [RowUpdate.apply, RowUpdate.Allowed, hid] using hupdated.allowed
  cases hfind : db'.settlements.find? fun r : Settlement =>
      decide (r.id = id ∧ r.chainKind = .eip155 ∧ r.state.inFlight = true) with
  | none => exact List.find?_eq_none.mp hfind _ hupdated.apply_mem hselected
  | some row =>
    have hrow := List.find?_some hfind
    simp only [decide_eq_true_eq] at hrow
    have hsame := db'.eq_of_id (List.mem_of_find?_eq_some hfind) hupdated.apply_mem
      (hrow.1.trans (hid.symm.trans (RowUpdate.apply_id r _).symm))
    rw [hfind, hsame] at hnone
    cases hnone

theorem not_isTerminal_of_transitionAllowed {s t : SettlementState}
    (h : transitionAllowed s t = true) : s.isTerminal = false := by
  cases s <;> simp_all [transitionAllowed, SettlementState.isTerminal]

/-- A statement whose transaction fails leaves the database as it was. -/
theorem StoreOp.commit_of_error {op : StoreOp} {now : Nat} {db : Db} {e : StoreError}
    (h : (op.exec now db).1 = .error e) : op.Commit now db (op.exec now db).2 := by
  have hsame : (op.exec now db).2 = db := (Txn.exec_error h).2
  rw [hsame]
  refine .same (SameJournal.refl db) ?_ ?_
  · cases op <;> simp only [reservation]
    all_goals rw [h]
  · cases op <;> simp only [charge]
    all_goals rw [h]

theorem StoreOp.exec_cases (op : StoreOp) (now : Nat) (db : Db) :
    op.Commit now db (op.exec now db).2 := by
  cases hreply : (op.exec now db).1 with
  | error e => exact commit_of_error hreply
  | ok reply =>
  have hrun : (op.txn now).run db = .ok (reply, (op.exec now db).2) := Txn.exec_ok hreply
  generalize hdb' : (op.exec now db).2 = db' at hrun
  have of_query : ∀ {α : Type} {f : Db → α} {a : α}, (Txn.query f).run db = .ok (a, db') →
      SameJournal db db' := by
    intro α f a h
    obtain ⟨-, rfl⟩ : f db = a ∧ db = db' := by simpa [Txn.query] using h
    exact SameJournal.refl db
  cases op with
  | selectExisting | anchorIsClaimed | activeEvmSignerExists | settlement | nonterminalSettlements
  | relayerIsActive => exact .same (of_query hrun) rfl rfl
  | claimReservation new usageDate =>
    obtain ⟨rfl, h⟩ | ⟨hne, rfl⟩ := claimReservation_ok hrun
    · exact .claimed rfl h (by simp only [reservation, hreply]) rfl
    · refine .same (SameJournal.refl _) ?_ rfl
      cases reply with
      | inserted => exact absurd rfl hne
      | conflicted | budgetExceeded => simp only [reservation, hreply]
  | markAwaitingRetry id code =>
    obtain ⟨r, -, rfl, h⟩ := markAwaitingRetry_ok hrun
    exact .updated rfl h rfl rfl
  | resumeReservation retry usageDate =>
    obtain ⟨rfl, r, hr, hid, h⟩ | ⟨hne, rfl⟩ := resumeReservation_ok hrun
    · refine .updated (by rw [hid]; rfl) h ?_ rfl
      simp only [reservation, hreply, Db.settlement?_eq_some.mpr ⟨hr, hid⟩, Option.bind_some]
    · refine .same (SameJournal.refl _) ?_ rfl
      cases reply with
      | resumed => exact absurd rfl hne
      | settlementBusy | budgetExceeded => simp only [reservation, hreply]
  | raiseConfirmations id minimum =>
    obtain h | ⟨r, -, rfl, h⟩ := (raiseConfirmations_ok hrun).1
    · exact .same h rfl rfl
    · exact .updated rfl h rfl rfl
  | markPrepared entry =>
    obtain ⟨r, -, hid, h⟩ := markPrepared_ok hrun
    exact .updated (by rw [hid]; rfl) h rfl rfl
  | markPreparedEvm entry =>
    obtain ⟨r, -, hid, h⟩ := markPreparedEvm_ok hrun
    exact .updated (by rw [hid]; rfl) h rfl rfl
  | markSubmitted id =>
    obtain ⟨r, -, rfl, h⟩ := markSubmitted_ok hrun
    exact .updated rfl h rfl rfl
  | markTerminal entry =>
    obtain ⟨r, hr, hid, h⟩ := markTerminal_ok hrun
    have hrow : db.settlement? entry.settlementId = some r := Db.settlement?_eq_some.mpr ⟨hr, hid⟩
    obtain h | ⟨hdone, -, -, rfl⟩ := h
    · refine .updated (by rw [hid]; rfl) h rfl ?_
      have hlive := not_isTerminal_of_transitionAllowed h.allowed.2.1
      simp [charge, hreply, hrow, hlive]
    · exact .same (SameJournal.refl _) rfl (by simp [charge, hreply, hrow, hdone])
  | noteReconciliation id =>
    obtain h | ⟨r, -, rfl, h⟩ := noteReconciliation_ok hrun
    · exact .same h rfl rfl
    · exact .updated rfl h rfl rfl
  | upsertRelayer key => exact .same (upsertRelayer_sameJournal hrun) rfl rfl
  | quarantineRelayer key reason nonce => exact .same (quarantineRelayer_sameJournal hrun) rfl rfl
  | createClient id => exact .same (createClient_sameJournal hrun) rfl rfl

/-! ## Sequences of store calls -/

/-- A store call with the database clock at which it runs. -/
structure StoreCall where
  op : StoreOp
  now : Nat

def Db.call (db : Db) (call : StoreCall) : Db := (call.op.exec call.now db).2

/-- The database after a sequence of store calls, in any order and from any number of processes. A
call that fails leaves the database as it was. -/
def Db.after (calls : List StoreCall) : Db := Run.after Db.call .empty calls

/-- A NEAR claim of client `7`, the input of the concrete runs below. -/
def sampleNearClaim (id : Uuid) (reservation limit : Nat) : NewSettlement where
  id := id
  apiClientId := 7
  paymentIdentifier := none
  paymentHash := BitVec.ofNat 256 id
  requestFingerprint := BitVec.ofNat 256 id
  anchorScope := "near"
  anchorValue := BitVec.ofNat 256 id
  x402Version := 2
  scheme := "exact"
  network := "near:testnet"
  asset := "usdc.testnet"
  payTo := "merchant.testnet"
  amount := 100
  payer := "payer.testnet"
  chainKind := .near
  delegatePublicKey := some "ed25519:payer"
  delegateNonce := some 1
  delegateMaxBlockHeight := some 1000
  authorizationMetadata := none
  signerAddress := none
  policySnapshot := .null
  reservationYoctoNear := reservation
  globalDailyBudgetYoctoNear := limit
  clientDailyBudgetYoctoNear := limit

end X402Facilitator
