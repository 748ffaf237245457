import X402Facilitator.System.Phases

/-!
# The relayer lock

The lock of a process has one holder. A thread whose history says that it holds the lock does hold it,
as long as it has something left to do: a thread that ends or is dropped gives the lock up. Bytes are
sent, journaled and confirmed, and the signer is quarantined, by the holder only.
-/

namespace X402Facilitator

open Program Service

/-! ## What needs the lock -/

/-- Operations that only the holder of the relayer lock issues. -/
def Op.needsLock : Op → Bool
  | ask query => query.sends
  | store (.quarantineRelayer ..) | store (.raiseConfirmations ..) | store (.markPrepared _)
  | store (.markPreparedEvm _) => true
  | _ => false

theorem phase_cons_ne_free {h : History Op.Answer} {e : Event Op.Answer} (hheld : phase h ≠ .free)
    (he : e.op.locks = false) : phase (e :: h) ≠ .free := by
  obtain ⟨o, answer⟩ := e
  intro hfree
  change (phase h).next ⟨o, answer⟩ = .free at hfree
  cases o with
  | lockRelayer | unlockRelayer => cases he
  | store op =>
    cases op with
    | markPrepared | markPreparedEvm | markTerminal =>
      simp only [Phase.next] at hfree
      split at hfree
      · cases hfree
      · exact hheld hfree
    | nonterminalSettlements =>
      simp only [Phase.next] at hfree
      split at hfree
      · cases hfree
      · exact hheld hfree
    | _ => exact hheld hfree
  | loadGate gate =>
    cases gate with
    | reconciliation =>
      simp only [Phase.next] at hfree
      split at hfree
      · cases hfree
      · exact hheld hfree
    | _ => exact hheld hfree
  | storeGate gate ready =>
    cases gate with
    | reconciliation =>
      simp only [Phase.next] at hfree
      split at hfree
      · cases hfree
      · exact hheld hfree
    | _ => exact hheld hfree
  | _ => exact hheld hfree

section
variable [NearPrimitives] [EvmPrimitives]

/-- What needs the lock is done in a phase other than `free`. -/
def UnderLock : World.Guarantee := fun _ h o => o.needsLock = true → phase h ≠ .free

variable {role : Role} {h : History Op.Answer}

omit [NearPrimitives] [EvmPrimitives] in
theorem Op.Plain.not_needsLock {o : Op} (ho : o.Plain) : o.needsLock = false := by
  cases o with
  | ask query => exact ho
  | store op => cases op <;> first | rfl | cases ho
  | _ => rfl

theorem plain_underLock {α : Type} {p : Service α} (hp : Plain p) :
    p.Obeys (UnderLock role) h fun _ _ => True := by
  refine Only.obeys hp (I := fun _ => True) (fun _ _ _ ho hneeds => ?_) (fun _ _ _ _ => trivial)
    trivial
  cases ho.not_needsLock.symm.trans hneeds

/-- What is justified by the session of a lock holder neither takes nor releases the lock. -/
theorem held_underLock {α : Type} {p : Service α} (hp : p.Obeys (Justified role) [] fun _ _ => True)
    (hheld : phase h ≠ .free) (hsession : session h = []) :
    p.Obeys (UnderLock role) h fun _ _ => True := by
  have hsession : p.Obeys (Justified role) (session h) fun _ _ => True := by rwa [hsession]
  have hframe := Obeys.frame (v := session) (fun _ _ ho => session_cons ho.locks) hsession
  refine (hframe.strengthen (I := fun h' => phase h' ≠ .free) ?_ hheld).mono ?_ ?_
  · exact fun e h' hh he => phase_cons_ne_free hh he.locks
  · exact fun h' o _ hh _ => hh.1
  · exact fun _ _ _ _ => trivial

theorem lock_underLock {α β : Type} {p : Service α} {f : α → Service β}
    (hp : p.Obeys (Justified role) [] fun _ _ => True)
    (hf : ∀ a h', (f a).Obeys (UnderLock role) h' fun _ _ => True) :
    (lockRelayer >>= fun _ => p >>= f).Obeys (UnderLock role) h fun _ _ => True := by
  refine .step (fun hneeds => by cases hneeds) fun _ => ?_
  refine .bind (held_underLock hp (fun hfree => by cases hfree) session_lock) fun a h' _ _ => hf a h'

theorem unlock_underLock : unlockRelayer.Obeys (UnderLock role) h fun _ _ => True :=
  .perform (fun hneeds => by cases hneeds) fun _ => trivial

theorem reconcile_underLock (htask : role.task.reconciles = true) :
    (reconcile role.state).Obeys (UnderLock role) h fun _ _ => True := by
  refine .bind (plain_underLock Plain.snapshot) fun current _ _ _ => ?_
  split
  · exact .pure trivial
  refine .bind (plain_underLock Plain.setReconciliation_false) fun _ _ _ _ => ?_
  refine lock_underLock (reconcileLocked_obeys htask) fun _ _ => ?_
  exact .bind unlock_underLock fun _ _ _ _ => .pure trivial

theorem reconciliationLoop_underLock (htask : role.task.reconciles = true) (fuel : Nat) :
    (reconciliationLoop role.state fuel).Obeys (UnderLock role) h fun _ _ => True := by
  induction fuel generalizing h with
  | zero => exact .pure trivial
  | succ fuel ih =>
    refine .bind (plain_underLock Plain.snapshot) fun current _ _ _ => ?_
    split
    · exact .bind (reconcile_underLock htask) fun _ _ _ _ => ih
    · exact ih

theorem reconcileCommand_underLock (htask : role.task.reconciles = true) (fuel : Nat) :
    (reconcileCommand role.state fuel).Obeys (UnderLock role) h fun _ _ => True := by
  refine .bind (plain_underLock (Plain.refreshChainReadiness role.state)) fun _ _ _ _ => ?_
  refine .step (fun hneeds => by cases hneeds) fun _ => ?_
  refine .bind (plain_underLock (Plain.awaitLeadership fuel)) fun held _ _ _ => ?_
  split
  · exact .bind (reconcile_underLock htask) fun _ _ _ _ => .pure trivial
  · exact .pure trivial

/-- No task but the workers and recovery does what needs the lock. -/
theorem SessionJustified.not_needsLock {o : Op} (ho : SessionJustified role h o)
    (hworker : role.task.isWorker = false) (hreconciles : role.task.reconciles = false) :
    o.needsLock = false := by
  have hsends {r : Settlement} (hsend : MaySend role (session h) r) : False := by
    obtain htask | ⟨htask, -⟩ := hsend.task
    · cases hworker.symm.trans htask
    · cases hreconciles.symm.trans htask
  have hsettles {id : Uuid} (hsettle : role.task.settles id) : False := by
    cases htask : role.task with
    | settlementWorker => rw [htask] at hworker; cases hworker
    | _ => rw [htask] at hsettle; exact hsettle
  obtain hlocks | ho := ho
  · cases o with
    | lockRelayer | unlockRelayer => rfl
    | _ => cases hlocks
  cases o with
  | ask query =>
    cases query with
    | nearSend signed =>
      obtain ⟨r, -, hsend, -⟩ := ho
      exact (hsends hsend).elim
    | evmSend bytes =>
      obtain ⟨r, hsend, -⟩ := ho
      exact (hsends hsend).elim
    | _ => rfl
  | store op =>
    cases op with
    | markPrepared | markPreparedEvm => exact (hsettles ho.1).elim
    | raiseConfirmations => cases hreconciles.symm.trans ho.1
    | quarantineRelayer key reason nonce =>
      obtain htask | htask := QuarantineJustified.task ho
      · cases hworker.symm.trans htask
      · cases hreconciles.symm.trans htask
    | _ => rfl
  | _ => rfl

theorem Role.underLock (role : Role) : role.thread.Follows UnderLock := by
  have other (hworker : role.task.isWorker = false) (hreconciles : role.task.reconciles = false) :
      role.thread.Follows UnderLock := by
    refine Obeys.mono role.follows (fun h o _ ho hneeds => ?_) fun _ _ _ _ => trivial
    cases (ho.not_needsLock hworker hreconciles).symm.trans hneeds
  cases htask : role.task with
  | reconciliation fuel =>
    unfold Thread.Follows Role.thread
    rw [htask]
    exact reconciliationLoop_underLock (congrArg ServiceTask.reconciles htask) fuel
  | reconcileCommand fuel =>
    unfold Thread.Follows Role.thread
    rw [htask]
    exact reconcileCommand_underLock (congrArg ServiceTask.reconciles htask) fuel
  | settlementWorker id request =>
    unfold Thread.Follows Role.thread
    rw [htask]
    exact lock_underLock (settleLocked_obeys htask fun e he => (by cases he))
      fun _ _ => unlock_underLock
  | startup fuel | leadership fuel | readinessMonitor fuel | settle fuel =>
    exact other (by rw [htask]; rfl) (by rw [htask]; rfl)

/-! ## The holder -/

/-- Only the two lock operations move the lock. -/
theorem Process.after_holder {p : Process} {tid : Nat} {o : Op} (ho : o.locks = false) :
    (p.after tid o).holder = p.holder := by
  cases o with
  | lockRelayer | unlockRelayer => cases ho
  | _ => rfl

/-- A thread without the lock can only take it. -/
theorem Process.after_holder_of_ne {p : Process} {tid : Nat} {o : Op} (ho : o ≠ .lockRelayer)
    (hholder : p.holder ≠ some tid) : (p.after tid o).holder = p.holder := by
  cases o with
  | lockRelayer => exact absurd rfl ho
  | unlockRelayer => simp [Process.after, Process.release, hholder]
  | _ => rfl

namespace World

/-- A thread that is about to act in a phase other than `free` holds the lock of its process. -/
structure Exclusive (w : World) : Prop where
  holder : ∀ {tid : Nat} {t : Thread} {p : Process} {o : Op} {next : o.Answer → Service Unit},
    w.threads[tid]? = some t → t.program = .call o next →
    w.processes[t.role.process]? = some p → phase t.past ≠ .free → p.holder = some tid

namespace Exclusive

variable {w : World}

theorem launch (h : w.Exclusive) (role : Role) : (w.launch role).Exclusive := by
  refine ⟨fun {tid t p o next} ht hcall hp hphase => ?_⟩
  obtain ht | ⟨-, rfl⟩ := Pool.getElem?_concat_cases ht
  · exact h.holder ht hcall hp hphase
  · exact absurd rfl hphase

theorem started (h : w.Exclusive) (hplaced : ∀ t ∈ w.threads, t.role.process < w.processes.length)
    (state : AppState) (command : Bool) (fuel : Nat) :
    (w.startProcess state command fuel).Exclusive := by
  refine launch (w := { w with processes := w.processes ++ [Process.start state (!command)] }) ?_ _
  refine ⟨fun {tid t p o next} ht hcall hp hphase => ?_⟩
  have hlt := hplaced t (List.mem_of_getElem? ht)
  exact h.holder ht hcall ((List.getElem?_append_left hlt).symm.trans hp) hphase

theorem crashed (h : w.Exclusive) {pid : Nat} {p : Process} (hp : w.processes[pid]? = some p) :
    Exclusive { w with processes := w.processes.set pid { p with alive := false } } := by
  refine ⟨fun {tid t q o next} ht hcall hq hphase => ?_⟩
  obtain ⟨rfl, rfl⟩ | ⟨-, hq⟩ := Pool.getElem?_set_cases (List.getElem?_eq_some_iff.mp hp).1 hq
  · exact (h.holder ht hcall hp hphase :)
  · exact h.holder ht hcall hq hphase

/-- Whoever is not dropped keeps the lock if it has it. -/
theorem cancelled (h : w.Exclusive) {tid : Nat} {t : Thread} {p : Process}
    (ht : w.threads[tid]? = some t) (hp : w.processes[t.role.process]? = some p) :
    Exclusive { w with
      threads := w.threads.set tid t.stop
      processes := w.processes.set t.role.process (p.release tid) } := by
  refine ⟨fun {i s q o next} hs hcall hq hphase => ?_⟩
  obtain ⟨-, rfl⟩ | ⟨hne, hs⟩ := Pool.getElem?_set_cases (List.getElem?_eq_some_iff.mp ht).1 hs
  · cases hcall
  obtain ⟨hprocess, rfl⟩ | ⟨-, hq⟩ := Pool.getElem?_set_cases (List.getElem?_eq_some_iff.mp hp).1 hq
  · have hholder := h.holder hs hcall (hprocess ▸ hp) hphase
    have hother : p.holder ≠ some tid := by
      rw [hholder]
      exact fun heq => hne (Option.some.inj heq)
    simp only [Process.release, hother, if_false]
    exact hholder
  · exact h.holder hs hcall hq hphase

section
variable {tid : Nat} {t : Thread} {p : Process} {o : Op} {next : o.Answer → Service Unit}

theorem performed (h : w.Exclusive) (env : Env) (ht : w.threads[tid]? = some t)
    (hp : w.processes[t.role.process]? = some p) (hcall : t.program = .call o next)
    (hpermits : p.permits o = true) : (w.perform tid t p env o next).Exclusive := by
  refine ⟨fun {i s q o' next'} hs hcall' hq hphase => ?_⟩
  obtain ⟨hprocess, rfl⟩ | ⟨hne, hq⟩ := Pool.getElem?_set_cases (List.getElem?_eq_some_iff.mp hp).1 hq
  · obtain ⟨rfl, rfl⟩ | ⟨hne, hs⟩ | ⟨role, -, -, -, -, rfl⟩ := perform_thread_cases ht hs
    · by_cases hlock : o = .lockRelayer
      · subst hlock
        rfl
      have hphase' : phase t.past ≠ .free := fun hfree => hphase (phase_cons_of_free hfree hlock)
      have hholder := h.holder ht hcall hp hphase'
      cases hlocks : o.locks with
      | false => exact (Process.after_holder hlocks).trans hholder
      | true =>
        cases o with
        | lockRelayer => exact absurd rfl hlock
        | unlockRelayer => exact absurd rfl hphase
        | _ => cases hlocks
    · have hholder := h.holder hs hcall' (hprocess ▸ hp) hphase
      have hother : p.holder ≠ some tid := by
        rw [hholder]
        exact fun heq => hne (Option.some.inj heq)
      refine (Process.after_holder_of_ne ?_ hother).trans hholder
      rintro rfl
      cases (Process.holder_of_permits hpermits).symm.trans hholder
    · exact absurd rfl hphase
  · obtain ⟨rfl, rfl⟩ | ⟨-, hs⟩ | ⟨role, -, -, -, -, rfl⟩ := perform_thread_cases ht hs
    · exact absurd rfl hne
    · exact h.holder hs hcall' hq hphase
    · exact absurd rfl hphase

end

end Exclusive

theorem exclusive_after (moves : List Move) : (after moves).Exclusive := by
  induction moves using List.reverseRecOn with
  | nil => exact ⟨fun ht => by simp [after, init, Run.after_nil] at ht⟩
  | append_singleton moves m h =>
    have hplaced := placed_after moves
    have hstep := (after moves).stepped m
    rw [after_concat]
    generalize after moves = w at h hplaced hstep
    generalize w.step m = w' at hstep
    cases hstep with
    | idle => exact h
    | clientCreated => exact ⟨h.holder⟩
    | started hstate command fuel => exact h.started hplaced _ command fuel
    | crashed hp => exact h.crashed hp
    | requested => exact h.launch _
    | cancelled ht hp => exact h.cancelled ht hp
    | performed env ht hp hcall hpermits => exact h.performed env ht hp hcall hpermits

/-- What needs the lock is done by its holder. -/
theorem held_of_needsLock (moves : List Move) {tid : Nat} {t : Thread} {o : Op}
    {next : o.Answer → Service Unit} (ht : (after moves).threads[tid]? = some t)
    (hcall : t.program = .call o next) (hneeds : o.needsLock = true) : phase t.past ≠ .free :=
  (follows_after Role.underLock moves t (List.mem_of_getElem? ht)).allowed hcall hneeds

end World

end

end X402Facilitator
