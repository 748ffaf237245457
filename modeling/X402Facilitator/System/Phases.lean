import X402Facilitator.System.Discipline

/-!
# Phases of a lock holder

What a thread that holds the relayer lock may assume about the journal, read off its own history. It
is `clean` once it has found the reconciliation gate open, or the journal without an open row; from
then on, as long as it holds the lock, no row is prepared or submitted unless it prepares one itself.
It is `dirty` while a row that it may have prepared is unresolved, and `closed` when it has shut the
reconciliation gate on such a row.
-/

namespace X402Facilitator

open Program Service

inductive Phase where
  /-- The thread does not hold the lock. -/
  | free
  | held
  | clean
  | dirty (id : Uuid)
  | closed
deriving DecidableEq

/-- The phase after an operation and its answer. -/
def Phase.next (phase : Phase) : Event Op.Answer → Phase
  | ⟨.lockRelayer, _⟩ => held
  | ⟨.unlockRelayer, _⟩ => free
  | ⟨.loadGate .reconciliation, ready⟩ => if phase = held ∧ ready = true then clean else phase
  | ⟨.store .nonterminalSettlements, reply⟩ =>
    match phase, reply with
    | held, .ok [] => clean
    | phase, _ => phase
  | ⟨.store (.markPrepared entry), _⟩ => if phase = clean then dirty entry.settlementId else phase
  | ⟨.store (.markPreparedEvm entry), _⟩ =>
    if phase = clean then dirty entry.settlementId else phase
  | ⟨.store (.markTerminal entry), reply⟩ =>
    if phase = dirty entry.settlementId ∧ reply.isOk = true then clean else phase
  | ⟨.storeGate .reconciliation ready, _⟩ =>
    match phase, ready with
    | dirty _, false => closed
    | phase, _ => phase
  | _ => phase

/-- The phase of a thread with this history. -/
def phase : History Op.Answer → Phase
  | [] => .free
  | e :: h => (phase h).next e

def Phase.isDirty : Phase → Bool
  | dirty _ => true
  | _ => false

section
variable [NearPrimitives] [EvmPrimitives]

/-- The guarantee behind single flight: bytes are journaled only in the clean phase, the gate is
opened only there, the lock is never released on an unresolved row, and a worker that has prepared
nothing fails its row only where nothing is in flight. -/
def FliesAlone : World.Guarantee := fun role h o =>
  match o with
  | .store (.markPrepared entry) => phase h = .clean ∧ role.task.settles entry.settlementId
  | .store (.markPreparedEvm entry) => phase h = .clean ∧ role.task.settles entry.settlementId
  | .store (.markTerminal _) =>
      role.task.isWorker = true → NothingPrepared (session h) → phase h = .clean
  | .storeGate .reconciliation true => phase h = .clean
  | .lockRelayer => phase h = .free
  | .unlockRelayer => (phase h).isDirty = false
  | _ => True

variable {role : Role} {h : History Op.Answer}

/-! ## Phases and histories -/

/-- Operations that leave every phase as it is, and that every phase allows. -/
def Op.Idle : Op → Prop
  | lockRelayer | unlockRelayer | loadGate .reconciliation | storeGate .reconciliation _
  | store .nonterminalSettlements | store (.markPrepared _) | store (.markPreparedEvm _)
  | store (.markTerminal _) => False
  | _ => True

omit [NearPrimitives] [EvmPrimitives] in
theorem phase_cons_of_idle {e : Event Op.Answer} (he : e.op.Idle) : phase (e :: h) = phase h := by
  obtain ⟨o, answer⟩ := e
  cases o with
  | store op => cases op <;> first | rfl | exact he.elim
  | loadGate gate => cases gate <;> first | rfl | exact he.elim
  | storeGate gate ready => cases gate <;> first | rfl | exact he.elim
  | lockRelayer | unlockRelayer => exact he.elim
  | _ => rfl

theorem Op.Idle.flies {o : Op} (ho : o.Idle) : FliesAlone role h o := by
  cases o with
  | store op => cases op <;> trivial
  | storeGate gate ready => cases gate <;> trivial
  | lockRelayer | unlockRelayer => exact ho.elim
  | _ => trivial

omit [NearPrimitives] [EvmPrimitives] in
theorem Op.Quiet.idle {o : Op} (ho : o.Quiet) : o.Idle := by
  cases o with
  | store op => cases op <;> trivial
  | loadGate | lockRelayer | unlockRelayer => exact ho.elim
  | storeGate gate ready => obtain rfl | rfl := ho <;> trivial
  | _ => trivial

/-- A program of idle operations stays in its phase. -/
theorem idle_obeys {α : Type} {p : Service α} (hp : p.Only Op.Idle) :
    p.Obeys (FliesAlone role) h fun _ h' => phase h' = phase h :=
  hp.obeys (I := fun h' => phase h' = phase h) (fun _ _ _ ho => ho.flies)
    (fun _ _ hh he => (phase_cons_of_idle he).trans hh) rfl

theorem quiet_obeys {α : Type} {p : Service α} (hp : Quiet p) :
    p.Obeys (FliesAlone role) h fun _ h' => phase h' = phase h :=
  idle_obeys (hp.mono fun _ ho => ho.idle)

omit [NearPrimitives] [EvmPrimitives] in
theorem phase_cons_of_free {e : Event Op.Answer} (hfree : phase h = .free)
    (he : e.op ≠ .lockRelayer) : phase (e :: h) = .free := by
  obtain ⟨o, answer⟩ := e
  unfold phase
  rw [hfree]
  cases o with
  | lockRelayer => exact absurd rfl he
  | unlockRelayer => rfl
  | store op => cases op <;> rfl
  | loadGate gate => cases gate <;> rfl
  | storeGate gate ready => cases gate <;> rfl
  | _ => rfl

/-- The thread has read the journal without an open row, or found the reconciliation gate open. -/
def Cleared (h : History Op.Answer) : Prop :=
  Stored h .nonterminalSettlements [] ∨ ⟨.loadGate .reconciliation, true⟩ ∈ h

omit [NearPrimitives] [EvmPrimitives] in
theorem Phase.next_clean {e : Event Op.Answer} (hlocks : e.op.locks = false)
    (hprepares : e.op.prepares = false) : Phase.clean.next e = .clean := by
  obtain ⟨o, answer⟩ := e
  cases o with
  | lockRelayer | unlockRelayer => cases hlocks
  | store op =>
    cases op with
    | markPrepared | markPreparedEvm => cases hprepares
    | markTerminal entry => simp [Phase.next]
    | _ => rfl
  | loadGate gate => cases gate <;> rfl
  | storeGate gate ready => cases gate <;> rfl
  | _ => rfl

omit [NearPrimitives] [EvmPrimitives] in
theorem Phase.next_held {e : Event Op.Answer} (hlocks : e.op.locks = false) :
    Phase.held.next e = .clean ∨ (Phase.held.next e = .held ∧ ¬ Cleared [e]) := by
  obtain ⟨o, answer⟩ := e
  cases o with
  | lockRelayer | unlockRelayer => cases hlocks
  | store op =>
    cases op with
    | nonterminalSettlements =>
      match answer with
      | .ok [] => exact .inl rfl
      | .ok (r :: records) =>
        exact .inr ⟨rfl, by rintro (h | h) <;> cases List.mem_singleton.mp h⟩
      | .error e => exact .inr ⟨rfl, by rintro (h | h) <;> cases List.mem_singleton.mp h⟩
    | _ => exact .inr ⟨rfl, by rintro (h | h) <;> cases List.mem_singleton.mp h⟩
  | loadGate gate =>
    cases gate with
    | reconciliation =>
      cases answer with
      | true => exact .inl rfl
      | false => exact .inr ⟨rfl, by rintro (h | h) <;> cases List.mem_singleton.mp h⟩
    | _ => exact .inr ⟨rfl, by rintro (h | h) <;> cases List.mem_singleton.mp h⟩
  | storeGate gate ready =>
    refine .inr ⟨?_, by rintro (h | h) <;> cases List.mem_singleton.mp h⟩
    cases gate <;> rfl
  | _ => exact .inr ⟨rfl, by rintro (h | h) <;> cases List.mem_singleton.mp h⟩

omit [NearPrimitives] [EvmPrimitives] in
/-- A thread that has prepared nothing in its session is free, or clean, or holds the lock without
having found the journal clear. -/
theorem phase_of_nothingPrepared (hh : NothingPrepared (session h)) :
    phase h = .free ∨ phase h = .clean ∨ (phase h = .held ∧ ¬ Cleared (session h)) := by
  induction h with
  | nil => exact .inl rfl
  | cons e h ih =>
    cases hlocks : e.op.locks with
    | true =>
      obtain ⟨o, answer⟩ := e
      cases o with
      | lockRelayer => exact .inr (.inr ⟨rfl, by rintro (h | h) <;> cases h⟩)
      | unlockRelayer => exact .inl rfl
      | _ => cases hlocks
    | false =>
      rw [session_cons hlocks] at hh ⊢
      obtain ⟨hprepares, hrest⟩ := List.forall_mem_cons.mp hh
      unfold phase
      obtain hfree | hclean | ⟨hheld, hnot⟩ := ih hrest
      · refine .inl (phase_cons_of_free hfree ?_)
        rintro heq
        rw [heq] at hlocks
        cases hlocks
      · rw [hclean]
        exact .inr (.inl (Phase.next_clean hlocks hprepares))
      · rw [hheld]
        obtain hnext | ⟨hnext, hnot'⟩ := Phase.next_held hlocks
        · exact .inr (.inl hnext)
        · refine .inr (.inr ⟨hnext, ?_⟩)
          rintro (hmem | hmem)
          · obtain heq | hmem := List.mem_cons.mp hmem
            · exact hnot' (.inl (heq ▸ List.mem_singleton_self _))
            · exact hnot (.inl hmem)
          · obtain heq | hmem := List.mem_cons.mp hmem
            · exact hnot' (.inr (heq ▸ List.mem_singleton_self _))
            · exact hnot (.inr hmem)

/-! ## Tasks other than workers -/

/-- A thread that is no worker and never takes the lock stays free. -/
theorem Justified.flies {o : Op} (ho : Justified role (session h) o)
    (hworker : role.task.isWorker = false) (hreconciles : role.task.reconciles = false) :
    FliesAlone role h o := by
  have hsettles : ∀ id, ¬ role.task.settles id := by
    intro id
    generalize role.task = task at hworker
    cases task <;> first | exact fun h => h | cases hworker
  cases o with
  | store op =>
    cases op with
    | markPrepared entry => exact (hsettles _ ho.1).elim
    | markPreparedEvm entry => exact (hsettles _ ho.1).elim
    | markTerminal entry => exact fun h => by rw [hworker] at h; cases h
    | _ => trivial
  | storeGate gate ready =>
    cases gate with
    | reconciliation =>
      cases ready with
      | true =>
        have hreconciles' := ho.1
        rw [hreconciles] at hreconciles'
        cases hreconciles'
      | false => trivial
    | _ => trivial
  | lockRelayer | unlockRelayer => exact ho.elim
  | _ => trivial

theorem flies_of_justified {α : Type} {p : Service α} (hworker : role.task.isWorker = false)
    (hreconciles : role.task.reconciles = false)
    (hp : p.Obeys (Justified role) (session h) fun _ _ => True) :
    p.Obeys (FliesAlone role) h fun _ _ => True :=
  (Obeys.frame (v := session) (fun _ _ ho => session_cons ho.locks) hp).mono
    (fun _ _ _ ho => ho.flies hworker hreconciles) fun _ _ _ _ => trivial

/-! ## Recovery -/

theorem Op.Plain.flies {o : Op} (ho : o.Plain) : FliesAlone role h o := by
  cases o with
  | store op => cases op <;> trivial
  | storeGate gate ready => cases gate <;> cases ready <;> trivial
  | lockRelayer | unlockRelayer => exact ho.elim
  | _ => trivial

omit [NearPrimitives] [EvmPrimitives] in
theorem Op.Plain.free {e : Event Op.Answer} (he : e.op.Plain) (hfree : phase h = .free) :
    phase (e :: h) = .free := by
  refine phase_cons_of_free hfree fun hlock => ?_
  rw [hlock] at he
  exact he

/-- A plain program that does not hold the lock. -/
theorem plain_obeys {α : Type} {p : Service α} (hp : Plain p) (hfree : phase h = .free) :
    p.Obeys (FliesAlone role) h fun _ h' => phase h' = .free :=
  Only.obeys hp (I := fun h' => phase h' = .free) (fun _ _ _ ho => ho.flies)
    (fun _ _ hh he => he.free hh) hfree

theorem startup_flies (fuel : Nat) (hfree : phase h = .free) :
    (startup role.state fuel).Obeys (FliesAlone role) h fun _ _ => True := by
  refine .step trivial fun result => ?_
  cases result with
  | error e => exact .pure trivial
  | ok _ =>
    refine .bind (plain_obeys (Plain.refreshChainReadiness role.state) ?_) fun _ _ _ _ => ?_
    · exact phase_cons_of_free hfree nofun
    refine .step trivial fun _ => .step trivial fun _ => ?_
    exact .perform trivial fun _ => trivial

theorem runLeadership_flies (fuel : Nat) (hfree : phase h = .free) :
    (runLeadership fuel).Obeys (FliesAlone role) h fun _ _ => True := by
  refine (Only.obeys (Leading.runLeadership fuel) (I := fun h' => phase h' = .free) ?_ ?_
    hfree).conseq fun _ _ _ _ => trivial
  · rintro h' o - (hplain | ⟨ready, rfl⟩)
    · exact hplain.flies
    · trivial
  · rintro e h' hfree (hplain | ⟨ready, he⟩)
    · exact hplain.free hfree
    · exact phase_cons_of_free hfree (by rw [he]; nofun)

/-- A pass under the lock never prepares anything, so it opens the gate in the clean phase only. -/
theorem reconcileLocked_flies (htask : role.task.reconciles = true) (hheld : phase h = .held)
    (hsession : session h = []) :
    (reconcileLocked role.state).Obeys (FliesAlone role) h
      fun _ h' => (phase h').isDirty = false := by
  have hsettles : ∀ id, ¬ role.task.settles id := by
    intro id
    generalize role.task = task at htask
    cases task <;> first | exact fun h => h | cases htask
  have hworker : role.task.isWorker = false := by
    generalize role.task = task at htask
    cases task <;> first | rfl | cases htask
  have hobeys := Obeys.frame (v := session) (fun _ _ ho => session_cons ho.locks)
    (hsession ▸ reconcileLocked_obeys htask : (reconcileLocked role.state).Obeys (Justified role)
      (session h) fun _ _ => True)
  refine (hobeys.strengthen
    (I := fun h' => NothingPrepared (session h') ∧ (phase h' = .held ∨ phase h' = .clean))
    ?_ ⟨hsession ▸ List.forall_mem_nil _, .inl hheld⟩).mono ?_ ?_
  · rintro e h' ⟨hnothing, hphase⟩ he
    have hlocks := Justified.locks he
    have hprepares : e.op.prepares = false := by
      rw [← Bool.not_eq_true]
      intro hprepares
      obtain ⟨o, answer⟩ := e
      cases o with
      | store op =>
        cases op with
        | markPrepared entry => exact hsettles _ he.1
        | markPreparedEvm entry => exact hsettles _ he.1
        | _ => cases hprepares
      | _ => cases hprepares
    refine ⟨?_, ?_⟩
    · rw [session_cons hlocks]
      exact List.forall_mem_cons.mpr ⟨hprepares, hnothing⟩
    · unfold phase
      obtain hheld | hclean := hphase
      · rw [hheld]
        exact (Phase.next_held hlocks).elim .inr fun h => .inl h.1
      · rw [hclean]
        exact .inr (Phase.next_clean hlocks hprepares)
  · rintro h' o - ⟨⟨hnothing, hphase⟩, ho⟩
    cases o with
    | store op =>
      cases op with
      | markPrepared entry => exact (hsettles _ ho.1).elim
      | markPreparedEvm entry => exact (hsettles _ ho.1).elim
      | markTerminal entry => exact fun h => by rw [hworker] at h; cases h
      | _ => trivial
    | storeGate gate ready =>
      cases gate with
      | reconciliation =>
        cases ready with
        | true =>
          obtain hfree | hclean | ⟨-, hnot⟩ := phase_of_nothingPrepared hnothing
          · rw [hfree] at hphase
            obtain hphase | hphase := hphase <;> cases hphase
          · exact hclean
          · exact (hnot (.inl ho.2)).elim
        | false => trivial
      | _ => trivial
    | lockRelayer | unlockRelayer => exact ho.elim
    | _ => trivial
  · rintro _ h' - ⟨⟨-, hphase⟩, -⟩
    obtain hphase | hphase := hphase <;> rw [hphase] <;> rfl

theorem reconcile_flies (htask : role.task.reconciles = true) (hfree : phase h = .free) :
    (reconcile role.state).Obeys (FliesAlone role) h fun _ h' => phase h' = .free := by
  refine .bind (plain_obeys Plain.snapshot hfree) fun current _ _ hfree => ?_
  split
  · exact .pure hfree
  refine .bind (plain_obeys Plain.setReconciliation_false hfree) fun _ _ _ hfree => ?_
  refine .step hfree fun _ => ?_
  refine .bind (reconcileLocked_flies htask rfl session_lock) fun _ _ _ hclosed => ?_
  exact .step hclosed fun _ => .pure rfl

theorem reconciliationLoop_flies (htask : role.task.reconciles = true) (fuel : Nat)
    (hfree : phase h = .free) :
    (reconciliationLoop role.state fuel).Obeys (FliesAlone role) h fun _ _ => True := by
  induction fuel generalizing h with
  | zero => exact .pure trivial
  | succ fuel ih =>
    refine .bind (plain_obeys Plain.snapshot hfree) fun current _ _ hfree => ?_
    split
    · exact .bind (reconcile_flies htask hfree) fun _ _ _ hfree => ih hfree
    · exact ih hfree

theorem reconcileCommand_flies (htask : role.task.reconciles = true) (fuel : Nat)
    (hfree : phase h = .free) :
    (reconcileCommand role.state fuel).Obeys (FliesAlone role) h fun _ _ => True := by
  refine .bind (plain_obeys (Plain.refreshChainReadiness role.state) hfree) fun _ _ _ hfree => ?_
  refine .step trivial fun _ => ?_
  refine .bind (plain_obeys (Plain.awaitLeadership fuel) hfree) fun held _ _ hfree => ?_
  split
  · exact .bind (reconcile_flies htask hfree) fun _ _ _ _ => .pure trivial
  · exact .pure trivial

/-! ## Workers -/

/-- Looking at the gates tells nothing new to a thread that is past its first look. -/
theorem snapshot_flies (hphase : phase h ≠ .held) :
    snapshot.Obeys (FliesAlone role) h fun _ h' => phase h' = phase h := by
  refine .step trivial fun leadership => .step trivial fun reconciliation => ?_
  refine .step trivial fun rpc => .step trivial fun relayer => .pure ?_
  simp [phase, Phase.next, hphase]

theorem snapshot_flies_of_held (hheld : phase h = .held) :
    snapshot.Obeys (FliesAlone role) h fun current h' =>
      phase h' = .clean ∨ (phase h' = .held ∧ current.reconciliation = false) := by
  refine .step trivial fun leadership => .step trivial fun reconciliation => ?_
  refine .step trivial fun rpc => .step trivial fun relayer => .pure ?_
  cases reconciliation with
  | true => exact .inl (by simp [phase, Phase.next, hheld])
  | false => exact .inr ⟨by simp [phase, Phase.next, hheld], rfl⟩

theorem canSettle_flies (hphase : phase h ≠ .held) :
    canSettle.Obeys (FliesAlone role) h fun _ h' => phase h' = phase h :=
  .bind (snapshot_flies hphase) fun _ _ _ h => .pure h

/-- The first `can_settle` under the lock: where it holds, the thread is clean. -/
theorem canSettle_flies_of_held (hheld : phase h = .held) :
    canSettle.Obeys (FliesAlone role) h fun ready h' =>
      phase h' = .clean ∨ (phase h' = .held ∧ ready = false) := by
  refine .bind (snapshot_flies_of_held hheld) fun current h' _ hphase => .pure ?_
  exact hphase.imp_right fun ⟨hheld, hclosed⟩ => ⟨hheld, by simp [hclosed]⟩

theorem setReconciliation_false_flies :
    (setReconciliation false).Obeys (FliesAlone role) h fun _ h' => (phase h').isDirty = false := by
  refine .perform trivial fun _ => ?_
  change ((phase h).next _).isDirty = false
  cases phase h <;> rfl

theorem pauseOnNonceDrift_flies (state : AppState) (reason : String) (observedNonce : Nat) :
    (pauseOnNonceDrift state reason observedNonce).Obeys (FliesAlone role) h
      fun _ h' => (phase h').isDirty = false :=
  .bind (idle_obeys (.perform trivial)) fun _ _ _ _ =>
    .bind (quiet_obeys (Quiet.setRelayerGate false)) fun _ _ _ _ => setReconciliation_false_flies

theorem retryableServiceFailure_flies (id : Uuid) (code : String)
    (hphase : (phase h).isDirty = false) :
    (retryableServiceFailure id code).Obeys (FliesAlone role) h
      fun _ h' => (phase h').isDirty = false := by
  refine .step trivial fun result => ?_
  cases result with
  | ok _ =>
    refine .pure ?_
    rw [phase_cons_of_idle (by trivial)]
    exact hphase
  | error _ => exact setReconciliation_false_flies

/-- A terminal result settles the row that the thread has prepared. -/
theorem journalTerminal_flies {entry : TerminalJournalEntry}
    (hphase : phase h = .clean ∨ phase h = .dirty entry.settlementId) :
    (journalTerminal entry).Obeys (FliesAlone role) h fun _ h' => (phase h').isDirty = false := by
  refine .step (fun _ hnothing => ?_) fun result => ?_
  · obtain hclean | hdirty := hphase
    · exact hclean
    · rw [hdirty]
      obtain h | h | ⟨h, -⟩ := phase_of_nothingPrepared hnothing <;> rw [hdirty] at h <;> cases h
  · cases result with
    | ok _ =>
      refine .pure ?_
      obtain hclean | hdirty := hphase
      · simp [phase, Phase.next, hclean, Phase.isDirty]
      · simp [phase, Phase.next, hdirty, Except.isOk, Except.toBool, Phase.isDirty]
    | error _ => exact setReconciliation_false_flies

omit [EvmPrimitives] in
theorem broadcast_idle (provider : ChainProvider) (prepared : Prepared)
    (payment : VerifiedPayment) : (provider.broadcast prepared payment).Only Op.Idle := by
  unfold ChainProvider.broadcast
  split
  · refine .bind ?_ fun _ => .pure _
    unfold ChainProvider.broadcastExact
    split
    · exact .pure _
    · exact .perform trivial
  · exact .bind (.perform trivial) fun _ => .pure _
  · exact .pure _

theorem broadcastSubmittedNear_flies {id : Uuid} {prepared : Prepared} {payment : VerifiedPayment}
    (hdirty : phase h = .dirty id) :
    (broadcastSubmittedNear role.state id prepared payment).Obeys (FliesAlone role) h
      fun _ h' => (phase h').isDirty = false := by
  refine .bind (canSettle_flies (by rw [hdirty]; nofun)) fun ready h₁ _ hphase₁ => ?_
  split
  · exact setReconciliation_false_flies
  refine .bind (idle_obeys (broadcast_idle ..)) fun result h₂ _ hphase₂ => ?_
  have hdirty : phase h₂ = .dirty id := hphase₂.trans (hphase₁.trans hdirty)
  cases result with
  | terminal outcome => exact journalTerminal_flies (.inr hdirty)
  | rejected reason => exact journalTerminal_flies (.inr hdirty)
  | pending => exact setReconciliation_false_flies

theorem settlePreparedNear_flies {id : Uuid} {head : SignerHead} {prepared : Prepared}
    {submission : DurableSubmission} {payment : VerifiedPayment} (hsettles : role.task.settles id)
    (hclean : phase h = .clean) :
    (settlePreparedNear role.state id head prepared submission payment).Obeys (FliesAlone role) h
      fun _ h' => (phase h').isDirty = false := by
  refine .step ⟨hclean, hsettles⟩ fun result => ?_
  have hdirty : phase (⟨.store (.markPrepared (nearJournalEntry id prepared submission)),
      result⟩ :: h) = .dirty id := by
    simp [phase, Phase.next, hclean, nearJournalEntry]
  cases result with
  | error _ => exact setReconciliation_false_flies
  | ok _ =>
    refine .bind (quiet_obeys (Quiet.freshSignerHead role.state)) fun head h₁ _ hphase₁ => ?_
    rw [hdirty] at hphase₁
    cases head with
    | error _ => exact setReconciliation_false_flies
    | ok currentHead =>
      dsimp only
      split
      · exact pauseOnNonceDrift_flies ..
      refine .bind (canSettle_flies (by rw [hphase₁]; nofun)) fun ready h₂ _ hphase₂ => ?_
      split
      · exact setReconciliation_false_flies
      refine .step trivial fun result => ?_
      cases result with
      | error _ => exact setReconciliation_false_flies
      | ok _ =>
        refine broadcastSubmittedNear_flies ?_
        rw [phase_cons_of_idle (by trivial), hphase₂, hphase₁]

theorem broadcastSubmittedEvm_flies {id : Uuid} {prepared : Prepared}
    {submission : DurableSubmission} {payment : VerifiedPayment} (hdirty : phase h = .dirty id) :
    (broadcastSubmittedEvm role.state id prepared submission payment).Obeys (FliesAlone role) h
      fun _ h' => (phase h').isDirty = false := by
  refine .bind (canSettle_flies (by rw [hdirty]; nofun)) fun ready h₁ _ hphase₁ => ?_
  rw [hdirty] at hphase₁
  split
  · exact setReconciliation_false_flies
  refine .bind (quiet_obeys (Quiet.freshSignerHead role.state)) fun head h₂ _ hphase₂ => ?_
  rw [hphase₁] at hphase₂
  cases head with
  | error _ => exact setReconciliation_false_flies
  | ok currentHead =>
    dsimp only
    split
    · exact pauseOnNonceDrift_flies ..
    refine .bind (canSettle_flies (by rw [hphase₂]; nofun)) fun ready h₃ _ hphase₃ => ?_
    rw [hphase₂] at hphase₃
    split
    · exact setReconciliation_false_flies
    refine .bind (idle_obeys (broadcast_idle ..)) fun result h₄ _ hphase₄ => ?_
    cases result with
    | terminal outcome => exact setReconciliation_false_flies
    | rejected reason => exact journalTerminal_flies (.inr (hphase₄.trans hphase₃))
    | pending => exact setReconciliation_false_flies

theorem settlePreparedEvm_flies {id : Uuid} {prepared : Prepared} {submission : DurableSubmission}
    {payment : VerifiedPayment} (hsettles : role.task.settles id) (hclean : phase h = .clean) :
    (settlePreparedEvm role.state id prepared submission payment).Obeys (FliesAlone role) h
      fun _ h' => (phase h').isDirty = false := by
  unfold settlePreparedEvm
  split
  · exact setReconciliation_false_flies
  split
  · exact setReconciliation_false_flies
  rename_i required _
  refine .step ⟨hclean, hsettles⟩ fun result => ?_
  have hdirty : phase (⟨.store (.markPreparedEvm (evmJournalEntry id submission required)),
      result⟩ :: h) = .dirty id := by
    simp [phase, Phase.next, hclean, evmJournalEntry]
  cases result with
  | error _ => exact setReconciliation_false_flies
  | ok _ =>
    refine .bind (canSettle_flies (by rw [hdirty]; nofun)) fun ready h₁ _ hphase₁ => ?_
    split
    · exact setReconciliation_false_flies
    refine .step trivial fun result => ?_
    cases result with
    | error _ => exact setReconciliation_false_flies
    | ok _ =>
      refine broadcastSubmittedEvm_flies ?_
      rw [phase_cons_of_idle (by trivial), hphase₁, hdirty]

theorem prepareAndSettle_flies {id : Uuid} {payment : VerifiedPayment}
    (hsettles : role.task.settles id) (hclean : phase h = .clean) :
    (prepareAndSettle role.state id payment).Obeys (FliesAlone role) h
      fun _ h' => (phase h').isDirty = false := by
  have hretry {h' : History Op.Answer} (hphase : phase h' = phase h) (code : String) :
      (retryableServiceFailure id code).Obeys (FliesAlone role) h'
        fun _ h' => (phase h').isDirty = false :=
    retryableServiceFailure_flies id code (by rw [hphase, hclean]; rfl)
  refine .bind (quiet_obeys (Quiet.freshSignerHead role.state)) fun head h₁ _ hphase₁ => ?_
  cases head with
  | error _ => exact hretry hphase₁ _
  | ok head =>
    refine .bind (quiet_obeys (Quiet.prepare ..)) fun result h₂ _ hphase₂ => ?_
    have hphase₂ := hphase₂.trans hphase₁
    cases result with
    | error _ => exact hretry hphase₂ _
    | ok prepared =>
      dsimp only
      split
      · split
        · exact hretry hphase₂ _
        split
        · exact hretry hphase₂ _
        · exact settlePreparedEvm_flies hsettles (hphase₂.trans hclean)
      · exact settlePreparedNear_flies hsettles (hphase₂.trans hclean)

theorem settleLocked_flies {id : Uuid} {request : Json} (hsettles : role.task.settles id)
    (hheld : phase h = .held) :
    (settleLocked role.state id request).Obeys (FliesAlone role) h
      fun _ h' => (phase h').isDirty = false := by
  refine .bind (canSettle_flies_of_held hheld) fun ready h₁ _ hphase₁ => ?_
  split
  · refine retryableServiceFailure_flies id _ ?_
    obtain hphase₁ | ⟨hphase₁, -⟩ := hphase₁ <;> rw [hphase₁] <;> rfl
  rename_i hready
  have hclean₁ : phase h₁ = .clean :=
    hphase₁.resolve_right fun ⟨_, hfalse⟩ => hready (by rw [hfalse]; nofun)
  refine .bind (quiet_obeys (Quiet.verify ..)) fun result h₂ _ hphase₂ => ?_
  have hclean₂ : phase h₂ = .clean := hphase₂.trans hclean₁
  cases result with
  | error rejection =>
    dsimp only
    split
    · exact retryableServiceFailure_flies id _ (by rw [hclean₂]; rfl)
    · exact journalTerminal_flies (.inl hclean₂)
  | ok payment =>
    refine .step trivial fun result => ?_
    have hclean₃ : phase (⟨.store (.settlement id), result⟩ :: h₂) = .clean := by
      rw [phase_cons_of_idle (by trivial)]
      exact hclean₂
    match result with
    | .error _ => exact retryableServiceFailure_flies id _ (by rw [hclean₃]; rfl)
    | .ok none => exact retryableServiceFailure_flies id _ (by rw [hclean₃]; rfl)
    | .ok (some journaled) =>
      dsimp only
      split
      · exact journalTerminal_flies (.inl hclean₃)
      · exact prepareAndSettle_flies hsettles hclean₃

theorem runNewSettlement_flies {id : Uuid} {request : Json} (hsettles : role.task.settles id)
    (hfree : phase h = .free) :
    (runNewSettlement role.state id request).Obeys (FliesAlone role) h fun _ _ => True := by
  refine .step hfree fun _ => ?_
  refine .bind (settleLocked_flies hsettles rfl) fun _ _ _ hclosed => ?_
  exact .perform hclosed fun _ => trivial

/-- Every thread flies alone: its program obeys the guarantee from its start. -/
theorem Role.fliesAlone (role : Role) : role.thread.Follows FliesAlone := by
  unfold Thread.Follows Role.thread
  cases htask : role.task with
  | startup fuel => exact startup_flies fuel rfl
  | leadership fuel => exact runLeadership_flies fuel rfl
  | reconciliation fuel =>
    exact reconciliationLoop_flies (congrArg ServiceTask.reconciles htask) fuel rfl
  | readinessMonitor fuel =>
    exact (plain_obeys (Plain.runReadinessMonitor role.state fuel) rfl).conseq fun _ _ _ _ => trivial
  | settle fuel =>
    exact flies_of_justified (congrArg ServiceTask.isWorker htask)
      (congrArg ServiceTask.reconciles htask) (settle_obeys fuel)
  | settlementWorker id request =>
    refine runNewSettlement_flies ?_ rfl
    change role.task.settles id
    rw [htask]
    exact rfl
  | reconcileCommand fuel =>
    exact reconcileCommand_flies (congrArg ServiceTask.reconciles htask) fuel rfl

end

end X402Facilitator
