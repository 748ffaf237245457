import X402Facilitator.Store.Ledger
import X402Facilitator.System.Claims

/-!
# Conservation of the sponsorship budget

An amount lives in a row and in two ledgers, and five transactions move it. `Books.BalancedAt` says
that they move it consistently; here is what follows from it for the transactions themselves: a release
always finds its reservation, and a refused call has moved nothing.
-/

namespace X402Facilitator

open Program Service

/-! ## A release finds its reservation -/

/-- The transaction never fails with this error. -/
def Txn.Spares {α : Type} (e : StoreError) (x : Txn α) : Prop := ∀ db, x.run db ≠ .error e

namespace Txn.Spares

variable {α β : Type} {e : StoreError}

theorem pure (a : α) : Spares e (Pure.pure a : Txn α) := fun db h => by cases h

theorem fail {e' : StoreError} (h : e' ≠ e) : Spares e (Txn.fail e' : Txn α) :=
  fun _ h' => h (Except.error.inj h')

theorem query (f : Db → α) : Spares e (Txn.query f) := fun db h => by cases h

theorem bind_at {x : Txn α} {f : α → Txn β} {db : Db} (hx : x.run db ≠ .error e)
    (hf : ∀ a mid, x.run db = .ok (a, mid) → (f a).run mid ≠ .error e) :
    (x >>= f).run db ≠ .error e := by
  change (Txn.bind x f).run db ≠ _
  simp only [Txn.bind]
  cases h : x.run db with
  | error e' =>
    rintro ⟨⟩
    exact hx h
  | ok p => exact hf p.1 p.2 h

theorem bind {x : Txn α} {f : α → Txn β} (hx : Spares e x) (hf : ∀ a, Spares e (f a)) :
    Spares e (x >>= f) :=
  fun db => bind_at (hx db) fun a mid _ => hf a mid

theorem ite {p : Prop} [Decidable p] {x y : Txn α} (hx : Spares e x) (hy : Spares e y) :
    Spares e (if p then x else y) := by
  split
  · exact hx
  · exact hy

end Txn.Spares

/-- The error of a release without its reservation. -/
def missingLedger : StoreError := .corrupt missingLedgerRow

section
variable {db : Db}

theorem spares_get : Txn.get.Spares missingLedger := fun db h => by cases h

theorem spares_set (db : Db) : (Txn.set db).Spares missingLedger := fun _ h => by cases h

theorem spares_updateSettlements (sel : Settlement → Bool) (f : Settlement → Settlement) :
    (updateSettlements sel f).Spares missingLedger := by
  intro db h
  simp only [updateSettlements] at h
  split at h <;> cases h

theorem spares_insertSettlement (row : Settlement) :
    (insertSettlement row).Spares missingLedger := by
  intro db h
  simp only [insertSettlement] at h
  split at h
  · cases h
  split at h
  · split at h <;> cases h
  · cases h

theorem spares_insertEvent (event : SettlementEvent) : (insertEvent event).Spares missingLedger :=
  fun db h => by cases h

theorem reserveUsage_error {reservation limit : Nat} {usage : Option SponsorshipUsage}
    {e : StoreError} (h : reserveUsage reservation limit usage = .error e) :
    e = .database .numericOverflow := by
  cases usage <;> simp only [reserveUsage] at h <;> split_ifs at h <;>
    exact (Except.error.inj h).symm

theorem spares_reserveBudgets (usageDate : Day) (client : Uuid)
    (reservation globalLimit clientLimit : Nat) :
    (reserveBudgets usageDate client reservation globalLimit clientLimit).Spares missingLedger := by
  refine .bind (fun db h => ?_) fun granted => .ite (fun db h => ?_) (.pure _)
  all_goals
    simp only [reserveGlobalBudget, reserveClientBudget] at h
    split at h
    · rename_i e' he'
      cases (reserveUsage_error he').symm.trans (Except.error.inj h)
    · cases h
    · cases h

theorem spares_selectForUpdate (id : Uuid) {missing : String} (h : missing ≠ missingLedgerRow) :
    (selectForUpdate id missing).Spares missingLedger := by
  refine .bind spares_get fun db => ?_
  split
  · exact .pure _
  · exact .fail fun heq => h (StoreError.corrupt.inj heq)

/-- A live row has both its reservations. -/
theorem releaseBudget_spares {calls : List StoreCall} {r : Settlement}
    (hr : r ∈ (Db.after calls).settlements) (hholds : r.state.holdsReservation = true)
    (actual : Nat) :
    (releaseBudget r.reservationDate r.apiClientId r.reservedYoctoNear actual).run (Db.after calls)
      ≠ .error missingLedger := by
  have hledger (k : LedgerKey) (hk : k.covers r.reservationDate r.apiClientId = true) :
      ∃ u, (Db.after calls).ledger k = some u ∧ r.reservedYoctoNear ≤ u.reserved := by
    have hbalanced := Books.balancedAt_after calls k
    have hdb := Books.after_db calls
    have hpresent := hbalanced.present r (by rwa [hdb]) hholds hk
    have hreserved := hbalanced.reserved
    rw [hdb] at hpresent hreserved
    obtain ⟨u, hu⟩ := Option.isSome_iff_exists.mp hpresent
    refine ⟨u, hu, ?_⟩
    calc r.reservedYoctoNear ≤ held k (Db.after calls).settlements :=
          Table.le_sumOver hr (by simp [hholds, hk])
      _ = u.reserved := by rw [← hreserved, Db.usage, hu, Option.getD_some]
  obtain ⟨global, hglobal, hle⟩ := hledger ⟨r.reservationDate, none⟩ (by simp [LedgerKey.covers])
  obtain ⟨client, hclient, hle'⟩ := hledger ⟨r.reservationDate, some r.apiClientId⟩
    (by simp [LedgerKey.covers])
  simp only [Db.ledger] at hglobal hclient
  intro h
  simp only [releaseBudget, hglobal, hclient, releaseUsage, hle, hle', not_true_eq_false,
    if_false] at h
  split_ifs at h <;> simp [missingLedger] at h

theorem spares_journalPrepared (id : Uuid) (update : RowUpdate) (code transaction : String) :
    (journalPrepared id update code transaction).Spares missingLedger :=
  .bind (spares_updateSettlements _ _) fun _ => .ite
    (.bind (spares_selectForUpdate id (by decide)) fun _ => .fail (by simp [missingLedger]))
    (spares_insertEvent _)

theorem spares_claimReservation (new : NewSettlement) (usageDate : Day) (now : Nat) :
    (claimReservation new usageDate now).Spares missingLedger := by
  refine .bind spares_get fun before => ?_
  refine .bind (spares_insertSettlement _) fun inserted => .ite ?_ (.pure _)
  refine .bind (spares_reserveBudgets _ _ _ _ _) fun granted => .ite ?_ ?_
  · exact .bind (spares_insertEvent _) fun _ => .pure _
  · exact .bind (spares_set _) fun _ => .pure _

theorem spares_acquireSlot (retry : RetryReservation) (usageDate : Day) :
    (acquireSlot retry usageDate).Spares missingLedger := by
  intro db h
  simp only [acquireSlot] at h
  split at h
  · cases h
  · cases h
  · rename_i e' _ hupdate
    exact spares_updateSettlements _ _ _ (hupdate.trans (congrArg _ (Except.error.inj h)))

theorem spares_resumeReservation (retry : RetryReservation) (usageDate : Day) :
    (resumeReservation retry usageDate).Spares missingLedger := by
  refine .bind spares_get fun before => ?_
  refine .bind (spares_selectForUpdate _ (by decide)) fun row => .ite ?_ ?_
  · exact .fail (by simp [missingLedger])
  refine .bind (spares_acquireSlot retry usageDate) fun slot => ?_
  split
  · exact .pure _
  refine .ite (.fail (by simp [missingLedger])) ?_
  refine .bind (spares_reserveBudgets _ _ _ _ _) fun granted => .ite ?_ ?_
  · exact .bind (spares_insertEvent _) fun _ => .pure _
  · exact .bind (spares_set _) fun _ => .pure _

theorem markAwaitingRetry_spares (id : Uuid) (retryCode : String) (calls : List StoreCall) :
    (markAwaitingRetry id retryCode).run (Db.after calls) ≠ .error missingLedger := by
  unfold markAwaitingRetry
  split
  · exact Txn.Spares.fail (by simp [missingLedger]) _
  refine Txn.Spares.bind_at (spares_selectForUpdate id (by decide) _) fun row mid hselect => ?_
  obtain ⟨⟨hrow, -⟩, rfl⟩ := selectForUpdate_ok hselect
  dsimp only
  split
  · exact Txn.Spares.fail (by simp [missingLedger]) _
  rename_i hstate
  rw [not_not] at hstate
  refine Txn.Spares.bind_at (releaseBudget_spares hrow (by rw [hstate]; rfl) 0) fun _ mid _ => ?_
  refine Txn.Spares.bind (spares_updateSettlements _ _) (fun affected => .ite ?_ ?_) _
  · exact .fail (by simp [missingLedger])
  · exact spares_insertEvent _

theorem markTerminal_spares (entry : TerminalJournalEntry) (calls : List StoreCall) :
    (markTerminal entry).run (Db.after calls) ≠ .error missingLedger := by
  unfold markTerminal
  split
  · exact Txn.Spares.fail (by simp [missingLedger]) _
  refine Txn.Spares.bind_at (spares_selectForUpdate _ (by decide) _) fun row mid hselect => ?_
  obtain ⟨⟨hrow, -⟩, rfl⟩ := selectForUpdate_ok hselect
  dsimp only
  split
  · exact Txn.Spares.ite (.pure _) (.fail (by simp [missingLedger])) _
  split
  · exact Txn.Spares.fail (by simp [missingLedger]) _
  rename_i hallowed
  rw [not_not] at hallowed
  refine Txn.Spares.bind_at (releaseBudget_spares hrow
    (holdsReservation_of_transitionAllowed hallowed) _) fun _ mid _ => ?_
  split
  · exact Txn.Spares.fail (by simp [missingLedger, missingLedgerRow]) _
  · exact Txn.Spares.bind (spares_updateSettlements _ _) (fun _ => spares_insertEvent _) _

theorem spares_createClient (id : Uuid) : (createClient id).Spares missingLedger := by
  intro db
  simp only [createClient]
  split <;> simp [missingLedger]

/-- No statement on a reachable database finds a reservation missing. -/
theorem storeOp_spares (op : StoreOp) (now : Nat) (calls : List StoreCall) :
    (op.exec now (Db.after calls)).1 ≠ .error missingLedger := by
  intro h
  have hrun : (op.txn now).run (Db.after calls) = .error missingLedger := (Txn.exec_error h).1
  refine absurd hrun ?_
  cases op with
  | selectExisting | anchorIsClaimed | activeEvmSignerExists | settlement | nonterminalSettlements
  | relayerIsActive => exact Txn.Spares.query _ _
  | claimReservation new usageDate => exact spares_claimReservation new usageDate now _
  | markAwaitingRetry id retryCode => exact markAwaitingRetry_spares id retryCode calls
  | resumeReservation retry usageDate => exact spares_resumeReservation retry usageDate _
  | raiseConfirmations id minimum =>
    exact Txn.Spares.bind (spares_updateSettlements _ _)
      (fun _ => .bind spares_get fun _ => .pure _) _
  | markPrepared entry => exact spares_journalPrepared _ _ _ _ _
  | markPreparedEvm entry =>
    exact Txn.Spares.ite (.fail (by simp [missingLedger])) (spares_journalPrepared _ _ _ _) _
  | markSubmitted id =>
    refine Txn.Spares.bind (spares_updateSettlements _ _) (fun _ => .ite ?_ (spares_insertEvent _)) _
    exact .bind (spares_selectForUpdate id (by decide)) fun _ => .fail (by simp [missingLedger])
  | markTerminal entry => exact markTerminal_spares entry calls
  | noteReconciliation id => exact Txn.Spares.bind (spares_updateSettlements _ _) (fun _ => .pure _) _
  | upsertRelayer key =>
    refine Txn.Spares.bind spares_get (fun db => ?_) _
    split
    · exact .pure _
    · exact fun _ h => by cases h
  | quarantineRelayer key reason nonce =>
    exact Txn.Spares.ite (.fail (by simp [missingLedger])) (fun _ h => by cases h) _
  | createClient id => exact spares_createClient id _

end

/-! ## A refused call moves nothing -/

/-- The call was refused: it met a conflict, a taken slot or an exhausted budget, or the row was not in
a state for it. -/
def PgCall.Refuses : (call : PgCall) → Except StoreError call.Outcome → Prop
  | claim _, .ok outcome => (∀ r, outcome ≠ .new r) ∧ ∀ r, outcome ≠ .existing r
  | resume _, .ok outcome => ∀ r, outcome ≠ .resumed r
  | raise .., .ok _ => False
  | single op, outcome => op.Refused outcome
  | _, .error e => ∃ source target, e = .transition source target

/-- Nothing that the call did has moved anything, unless the database has answered a read as it
cannot. -/
def Unmoved (h : History Op.Answer) : Prop :=
  (∀ e ∈ h, Harmless e) ∨ ∃ e ∈ h, MisreadTransition e

theorem claim_unmoved (new : NewSettlement) : (claimSettlement new).Obeys Anything [] fun outcome h =>
    (PgCall.claim new).Refuses outcome → Unmoved h := by
  refine (claimSettlement_saw new).conseq fun outcome h _ hsaw hrefuses => ?_
  cases outcome with
  | ok outcome => exact hsaw.harmless (fun r h => hrefuses.1 r (Except.ok.inj h)) fun e h => by cases h
  | error e =>
    exact hsaw.harmless (fun r h => by cases h) fun e' h => Except.error.inj h ▸ hrefuses

theorem resume_unmoved (retry : RetryReservation) :
    (resumeAwaitingRetry retry).Obeys Anything [] fun outcome h =>
      (PgCall.resume retry).Refuses outcome → Unmoved h := by
  refine .step trivial fun usageDate => .step trivial fun reply => ?_
  have hh := harmless_cons (e := ⟨.ask .utcToday, usageDate⟩) trivial
    (by simp : ∀ e ∈ ([] : History Op.Answer), Harmless e)
  cases reply with
  | error e => exact .pure fun hrefuses => .inl (harmless_cons (.inr hrefuses) hh)
  | ok reply =>
    cases reply with
    | settlementBusy | budgetExceeded =>
      exact .pure fun _ => .inl (harmless_cons (by simp [Harmless, StoreOp.Refused]) hh)
    | resumed =>
      refine .step trivial fun read => ?_
      cases read with
      | error e =>
        refine .pure fun hrefuses => .inr ?_
        obtain ⟨source, target, rfl⟩ := hrefuses
        exact ⟨_, List.mem_cons_self, rfl, source, target, rfl⟩
      | ok row =>
        cases row with
        | none =>
          refine .pure fun hrefuses => ?_
          obtain ⟨source, target, h⟩ := hrefuses
          cases h
        | some record => exact .pure fun hrefuses => absurd rfl (hrefuses record)

theorem raise_unmoved (id : Uuid) (minimum : Int) :
    (raiseRequiredConfirmations id minimum).Obeys Anything [] fun outcome h =>
      (PgCall.raise id minimum).Refuses outcome → Unmoved h := by
  have hnil : ∀ e ∈ ([] : History Op.Answer), Harmless e := by simp
  unfold raiseRequiredConfirmations
  split
  · exact .pure fun _ => .inl hnil
  refine .step trivial fun reply => ?_
  cases reply with
  | error e => exact .pure fun hrefuses => .inl (harmless_cons (.inr hrefuses) hnil)
  | ok reply =>
    cases reply with
    | some required => exact .pure fun hrefuses => hrefuses.elim
    | none =>
      have hh := harmless_cons (e := ⟨.store (.raiseConfirmations id minimum), .ok none⟩)
        (by simp [Harmless, StoreOp.Refused]) hnil
      refine .step trivial fun read => ?_
      have hh' := harmless_cons (harmless_read rfl read) hh
      cases read with
      | error e => exact .pure fun _ => .inl hh'
      | ok row => cases row <;> exact .pure fun _ => .inl hh'

theorem PgCall.unmoved (call : PgCall) : call.program.Obeys Anything [] fun outcome h =>
    call.Refuses outcome → Unmoved h := by
  cases call with
  | claim new => exact claim_unmoved new
  | resume retry => exact resume_unmoved retry
  | raise id minimum => exact raise_unmoved id minimum
  | single op =>
    refine .perform trivial fun reply hrefuses => .inl (harmless_cons ?_ (by simp))
    cases reply <;> exact hrefuses

/-- The sponsorship budget is conserved. After every sequence of transactions, repeated and failing
ones among them, each ledger row's reserved amount is what the live rows of its day (and client) hold,
and its spent amount is what the terminalizations charged to it cost. So a release never finds its
ledger row missing. In every interleaving of calls, one that is refused has changed no row, no event
and no ledger with any of its statements. -/
theorem budget_conservation :
    (∀ (calls : List StoreCall) (k : LedgerKey),
      ((Db.after calls).usage k).reserved = held k (Db.after calls).settlements ∧
      ((Db.after calls).usage k).spent = charged k (Books.after calls).charges) ∧
    (∀ (calls : List StoreCall) (op : StoreOp) (now : Nat),
      (op.exec now (Db.after calls)).1 ≠ .error (.corrupt missingLedgerRow)) ∧
    ∀ (moves : List CallMove), ∀ s ∈ (Calls.after moves).calls, ∀ call outcome,
      s.Returned call outcome → call.Refuses outcome →
        ∀ statement ∈ s.statements, SameJournal statement.before statement.after := by
  refine ⟨fun calls k => ?_, fun calls op now => storeOp_spares op now calls, ?_⟩
  · have hbalanced := Books.balancedAt_after calls k
    rw [← Books.after_db]
    exact ⟨hbalanced.reserved, hbalanced.spent⟩
  · intro moves s hs call outcome hreturned hrefuses statement hstatement
    have hevent : statement.event ∈ s.past := List.mem_map_of_mem hstatement
    obtain hharmless | ⟨e, he, hmisread⟩ :=
      Calls.returned_after call.unmoved moves hs hreturned hrefuses
    · exact Calls.statement_after (P := fun statement => Harmless statement.event →
        SameJournal statement.before statement.after)
        (fun env order db o _ => Statement.sameJournal env order db o) moves s hs statement
        hstatement (hharmless _ hevent)
    · obtain ⟨misread, hmem, rfl⟩ := List.mem_map.mp he
      exact absurd hmisread (Calls.statement_after (P := fun statement =>
        ¬ MisreadTransition statement.event)
        (fun env order db o _ => Statement.not_misread env order db o) moves s hs misread hmem)

end X402Facilitator
