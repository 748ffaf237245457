import X402Facilitator.Store.Operations

/-!
# Relayer entries

The registration of a process and a quarantine are the only statements that write a relayer entry. A
registration leaves an entry that exists as it is, so a quarantined entry stays quarantined.
-/

namespace X402Facilitator

/-- The entry of the key is quarantined. -/
def Db.Quarantined (db : Db) (key : RelayerKey) : Prop :=
  ∃ relayer, db.relayers key = some relayer ∧ relayer.status = .quarantined

theorem Db.Quarantined.not_active {db : Db} {key : RelayerKey} (h : db.Quarantined key) :
    relayerIsActive db key = false := by
  obtain ⟨relayer, hrelayer, hstatus⟩ := h
  simp [relayerIsActive, hrelayer, hstatus]

/-! ## Transactions that keep a property of the database -/

/-- From a database with the property, the transaction commits one with it, and returns a value with
`Q`. -/
def Txn.Keeps {α : Type} (P : Db → Prop) (x : Txn α) (Q : α → Prop) : Prop :=
  ∀ a db db', P db → x.run db = .ok (a, db') → P db' ∧ Q a

namespace Txn.Keeps

variable {α β : Type} {P : Db → Prop} {Q : α → Prop} {R : β → Prop}

theorem pure {a : α} (ha : Q a) : Txn.Keeps P (Pure.pure a : Txn α) Q := by
  intro b db db' hdb hrun
  obtain ⟨rfl, rfl⟩ := Txn.pure_ok.mp hrun
  exact ⟨hdb, ha⟩

theorem fail {e : StoreError} : Txn.Keeps P (Txn.fail e : Txn α) Q :=
  fun _ _ _ _ hrun => (Txn.fail_ok.mp hrun).elim

theorem get : Txn.Keeps P Txn.get P := by
  intro a db db' hdb hrun
  obtain ⟨rfl, rfl⟩ := Txn.get_ok.mp hrun
  exact ⟨hdb, hdb⟩

theorem set {new : Db} (hnew : P new) : Txn.Keeps P (Txn.set new) fun _ => True := by
  intro a db db' _ hrun
  obtain rfl := Txn.set_ok.mp hrun
  exact ⟨hnew, trivial⟩

theorem query (f : Db → α) : Txn.Keeps P (Txn.query f) fun _ => True := by
  intro a db db' hdb hrun
  obtain ⟨-, rfl⟩ := Prod.mk.inj (Except.ok.inj hrun)
  exact ⟨hdb, trivial⟩

theorem bind {x : Txn α} {f : α → Txn β} (hx : Txn.Keeps P x Q)
    (hf : ∀ a, Q a → Txn.Keeps P (f a) R) : Txn.Keeps P (x >>= f) R := by
  intro b db db' hdb hrun
  obtain ⟨a, mid, hmid, hrun⟩ := Txn.bind_ok.mp hrun
  obtain ⟨hP, hQ⟩ := hx a db mid hdb hmid
  exact hf a hQ b mid db' hP hrun

theorem exec {x : Txn α} (hx : Txn.Keeps P x Q) {db : Db} (hdb : P db) : P (x.exec db).2 := by
  obtain hsame | ⟨a, hrun, -⟩ := x.exec_snd_cases db
  · rwa [hsame]
  · exact (hx a db _ hdb hrun).1

end Txn.Keeps

/-! ## Statements that leave the entries alone -/

section
variable {P : (RelayerKey → Option Relayer) → Prop}

theorem updateSettlements_keeps (sel : Settlement → Bool) (f : Settlement → Settlement) :
    (updateSettlements sel f).Keeps (fun db => P db.relayers) fun _ => True := by
  intro n db db' hdb hrun
  dsimp only [updateSettlements] at hrun
  split at hrun
  · obtain ⟨-, rfl⟩ := Prod.mk.inj (Except.ok.inj hrun)
    exact ⟨hdb, trivial⟩
  · cases hrun

theorem insertSettlement_keeps (row : Settlement) :
    (insertSettlement row).Keeps (fun db => P db.relayers) fun _ => True := by
  intro b db db' hdb hrun
  dsimp only [insertSettlement] at hrun
  split at hrun
  · cases hrun
  split at hrun
  · split at hrun
    · obtain ⟨-, rfl⟩ := Prod.mk.inj (Except.ok.inj hrun)
      exact ⟨hdb, trivial⟩
    · cases hrun
  · obtain ⟨-, rfl⟩ := Prod.mk.inj (Except.ok.inj hrun)
    exact ⟨hdb, trivial⟩

theorem insertEvent_keeps (event : SettlementEvent) :
    (insertEvent event).Keeps (fun db => P db.relayers) fun _ => True := by
  intro u db db' hdb hrun
  obtain ⟨-, rfl⟩ := Prod.mk.inj (Except.ok.inj hrun)
  exact ⟨hdb, trivial⟩

theorem reserveBudgets_keeps {usageDate : Day} {client : Uuid}
    {reservation globalLimit clientLimit : Nat} :
    (reserveBudgets usageDate client reservation globalLimit clientLimit).Keeps
      (fun db => P db.relayers) fun _ => True := by
  refine .bind (Q := fun _ => True) ?_ fun reserved _ => ?_
  · intro b db db' hdb hrun
    dsimp only [reserveGlobalBudget] at hrun
    split at hrun
    · cases hrun
    all_goals
      obtain ⟨-, rfl⟩ := Prod.mk.inj (Except.ok.inj hrun)
      exact ⟨hdb, trivial⟩
  · split
    · intro b db db' hdb hrun
      dsimp only [reserveClientBudget] at hrun
      split at hrun
      · cases hrun
      all_goals
        obtain ⟨-, rfl⟩ := Prod.mk.inj (Except.ok.inj hrun)
        exact ⟨hdb, trivial⟩
    · exact .pure trivial

theorem releaseBudget_keeps {usageDate : Day} {client : Uuid} {reservation actual : Nat} :
    (releaseBudget usageDate client reservation actual).Keeps (fun db => P db.relayers)
      fun _ => True := by
  intro u db db' hdb hrun
  dsimp only [releaseBudget] at hrun
  split at hrun
  · cases hrun
  · cases hrun
  · obtain ⟨-, rfl⟩ := Prod.mk.inj (Except.ok.inj hrun)
    exact ⟨hdb, trivial⟩
  · cases hrun

theorem selectForUpdate_keeps (id : Uuid) (missing : String) :
    (selectForUpdate id missing).Keeps (fun db => P db.relayers) fun _ => True := by
  refine .bind .get fun db _ => ?_
  split
  · exact .pure trivial
  · exact .fail

theorem acquireSlot_keeps (retry : RetryReservation) (usageDate : Day) :
    (acquireSlot retry usageDate).Keeps (fun db => P db.relayers) fun _ => True := by
  intro affected db db' hdb hrun
  dsimp only [acquireSlot] at hrun
  split at hrun
  · rename_i n mid hupdate
    obtain ⟨-, rfl⟩ := Prod.mk.inj (Except.ok.inj hrun)
    exact ⟨(updateSettlements_keeps _ _ n db _ hdb hupdate).1, trivial⟩
  · obtain ⟨-, rfl⟩ := Prod.mk.inj (Except.ok.inj hrun)
    exact ⟨hdb, trivial⟩
  · cases hrun

theorem journalPrepared_keeps {id : Uuid} {update : RowUpdate} {code transaction : String} :
    (journalPrepared id update code transaction).Keeps (fun db => P db.relayers) fun _ => True := by
  refine .bind (updateSettlements_keeps _ _) fun affected _ => ?_
  split
  · exact .bind (selectForUpdate_keeps _ _) fun _ _ => .fail
  · exact insertEvent_keeps _

theorem claimReservation_keeps (new : NewSettlement) (usageDate : Day) (createdAt : Nat) :
    (claimReservation new usageDate createdAt).Keeps (fun db => P db.relayers) fun _ => True := by
  refine .bind .get fun before hbefore => .bind (insertSettlement_keeps _) fun inserted _ => ?_
  split
  · refine .bind reserveBudgets_keeps fun reserved _ => ?_
    split
    · exact .bind (insertEvent_keeps _) fun _ _ => .pure trivial
    · exact .bind (.set hbefore) fun _ _ => .pure trivial
  · exact .pure trivial

theorem resumeReservation_keeps (retry : RetryReservation) (usageDate : Day) :
    (resumeReservation retry usageDate).Keeps (fun db => P db.relayers) fun _ => True := by
  refine .bind .get fun before hbefore => .bind (selectForUpdate_keeps _ _) fun row _ => ?_
  dsimp only
  split
  · exact .fail
  refine .bind (acquireSlot_keeps retry usageDate) fun slot _ => ?_
  split
  · exact .pure trivial
  split
  · exact .fail
  refine .bind reserveBudgets_keeps fun reserved _ => ?_
  split
  · exact .bind (insertEvent_keeps _) fun _ _ => .pure trivial
  · exact .bind (.set hbefore) fun _ _ => .pure trivial

theorem markAwaitingRetry_keeps (id : Uuid) (retryCode : String) :
    (markAwaitingRetry id retryCode).Keeps (fun db => P db.relayers) fun _ => True := by
  unfold markAwaitingRetry
  split
  · exact .fail
  refine .bind (selectForUpdate_keeps _ _) fun row _ => ?_
  dsimp only
  split
  · exact .fail
  refine .bind releaseBudget_keeps fun _ _ => .bind (updateSettlements_keeps _ _) fun _ _ => ?_
  split
  · exact .fail
  · exact insertEvent_keeps _

theorem markPreparedEvm_keeps (entry : EvmPreparedJournalEntry) :
    (markPreparedEvm entry).Keeps (fun db => P db.relayers) fun _ => True := by
  unfold markPreparedEvm
  split
  · exact .fail
  · exact journalPrepared_keeps

theorem markSubmitted_keeps (id : Uuid) :
    (markSubmitted id).Keeps (fun db => P db.relayers) fun _ => True := by
  refine .bind (updateSettlements_keeps _ _) fun affected _ => ?_
  split
  · exact .bind (selectForUpdate_keeps _ _) fun _ _ => .fail
  · exact insertEvent_keeps _

theorem markTerminal_keeps (entry : TerminalJournalEntry) :
    (markTerminal entry).Keeps (fun db => P db.relayers) fun _ => True := by
  unfold markTerminal
  split
  · exact .fail
  refine .bind (selectForUpdate_keeps _ _) fun row _ => ?_
  dsimp only
  split
  · split
    · exact .pure trivial
    · exact .fail
  split
  · exact .fail
  refine .bind releaseBudget_keeps fun _ _ => ?_
  split
  · exact .fail
  · exact .bind (updateSettlements_keeps _ _) fun _ _ => insertEvent_keeps _

end

/-! ## Any statement -/

theorem setRelayer_ok {key : RelayerKey} {relayer : Relayer} {db db' : Db} {u : Unit}
    (h : (setRelayer key relayer).run db = .ok (u, db')) :
    db'.relayers = Function.update db.relayers key (some relayer) := by
  obtain ⟨-, rfl⟩ := Prod.mk.inj (Except.ok.inj h)
  rfl

/-- A registration leaves an entry that exists as it is. -/
theorem upsertRelayer_ok {key other : RelayerKey} {relayer : Relayer} {db db' : Db} {u : Unit}
    (h : (upsertRelayer key).run db = .ok (u, db')) (hrelayer : db.relayers other = some relayer) :
    db'.relayers other = some relayer := by
  rw [upsertRelayer, Txn.bind_ok] at h
  obtain ⟨read, mid, hget, h⟩ := h
  obtain ⟨rfl, rfl⟩ := Txn.get_ok.mp hget
  split at h
  · obtain ⟨-, rfl⟩ := Txn.pure_ok.mp h
    exact hrelayer
  · rename_i hnone
    have hne : other ≠ key := by
      rintro rfl
      cases hnone.symm.trans hrelayer
    rw [setRelayer_ok h, Function.update_of_ne hne, hrelayer]

/-- A quarantine that commits quarantines the entry. -/
theorem quarantineRelayer_ok {key : RelayerKey} {reason : String} {nonce : Nat} {db db' : Db}
    {u : Unit} (h : (quarantineRelayer key reason nonce).run db = .ok (u, db')) :
    db'.Quarantined key ∧ ∀ other, other ≠ key → db'.relayers other = db.relayers other := by
  unfold quarantineRelayer at h
  split at h
  · exact (Txn.fail_ok.mp h).elim
  · refine ⟨⟨_, by rw [setRelayer_ok h, Function.update_self], rfl⟩, fun other hother => ?_⟩
    rw [setRelayer_ok h, Function.update_of_ne hother]

/-- No statement ends a quarantine. -/
theorem StoreOp.exec_quarantined {op : StoreOp} {now : Nat} {db : Db} {key : RelayerKey}
    (h : db.Quarantined key) : (op.exec now db).2.Quarantined key := by
  suffices hkeeps : (op.txn now).Keeps (fun db => db.Quarantined key) fun _ => True from
    hkeeps.exec h
  have htable {α : Type} {x : Txn α} (hx : ∀ {P}, x.Keeps (fun db => P db.relayers) fun _ => True) :
      x.Keeps (fun db => db.Quarantined key) fun _ => True :=
    hx (P := fun relayers => ∃ relayer, relayers key = some relayer ∧ relayer.status = .quarantined)
  cases op with
  | selectExisting | anchorIsClaimed | activeEvmSignerExists | settlement | nonterminalSettlements
  | relayerIsActive => exact .query _
  | claimReservation new usageDate => exact htable (claimReservation_keeps new usageDate now)
  | markAwaitingRetry id code => exact htable (markAwaitingRetry_keeps id code)
  | resumeReservation retry usageDate => exact htable (resumeReservation_keeps retry usageDate)
  | raiseConfirmations id minimum =>
    refine .bind (htable (updateSettlements_keeps _ _)) fun _ _ => ?_
    exact .bind .get fun _ _ => .pure trivial
  | markPrepared entry => exact htable journalPrepared_keeps
  | markPreparedEvm entry => exact htable (markPreparedEvm_keeps entry)
  | markSubmitted id => exact htable (markSubmitted_keeps id)
  | markTerminal entry => exact htable (markTerminal_keeps entry)
  | noteReconciliation id =>
    exact .bind (htable (updateSettlements_keeps _ _)) fun _ _ => .pure trivial
  | upsertRelayer key' =>
    intro u before after hbefore hrun
    obtain ⟨relayer, hrelayer, hstatus⟩ := hbefore
    exact ⟨⟨relayer, upsertRelayer_ok hrun hrelayer, hstatus⟩, trivial⟩
  | quarantineRelayer key' reason nonce =>
    intro u before after hbefore hrun
    obtain ⟨hquarantined, hother⟩ := quarantineRelayer_ok hrun
    obtain rfl | hne := eq_or_ne key key'
    · exact ⟨hquarantined, trivial⟩
    · obtain ⟨relayer, hrelayer, hstatus⟩ := hbefore
      exact ⟨⟨relayer, (hother key hne).trans hrelayer, hstatus⟩, trivial⟩
  | createClient id =>
    intro u before after hbefore hrun
    change (if id ∈ before.clients then _ else _) = _ at hrun
    split at hrun
    · cases hrun
    · obtain ⟨-, rfl⟩ := Prod.mk.inj (Except.ok.inj hrun)
      exact ⟨hbefore, trivial⟩

end X402Facilitator
