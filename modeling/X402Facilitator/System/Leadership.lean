import X402Facilitator.System.Discipline

/-!
# Terms of leadership

`set_leadership(false)` writes two gates, the leadership gate and then the reconciliation gate, and
`run_leadership` raises the first only after it has lowered both. A process has one leadership task,
started by its main task, and nothing else writes the leadership gate. A pass of `reconcile` opens the
reconciliation gate only in the session that it began by finding leadership held.
-/

namespace X402Facilitator

open Program Service

/-! ## The guarantee -/

/-- How far the leadership task is with its gates. -/
inductive Tenure where
  /-- Both gates were lowered last. -/
  | cleared
  | raised
  /-- The leadership gate is lowered, the reconciliation gate not yet. -/
  | lowered
deriving DecidableEq

def Tenure.next (tenure : Tenure) : Op → Tenure
  | .storeGate .leadership ready => if ready then raised else lowered
  | .storeGate .reconciliation false => if tenure = lowered then cleared else tenure
  | _ => tenure

def tenure : History Op.Answer → Tenure
  | [] => .cleared
  | e :: h => (tenure h).next e.op

def Op.startsLeadership : Op → Bool
  | spawn (.leadership _) => true
  | _ => false

/-- What `reconcile` has done when it takes the lock, newest first: it found leadership held and
closed the reconciliation gate. -/
def PassStarted (h : History Op.Answer) : Prop :=
  ∃ earlier reconciliation rpc relayer,
    h = ⟨.lockRelayer, ()⟩ :: ⟨.storeGate .reconciliation false, ()⟩ ::
      ⟨.loadGate .relayer, relayer⟩ :: ⟨.loadGate .rpc, rpc⟩ ::
      ⟨.loadGate .reconciliation, reconciliation⟩ :: ⟨.loadGate .leadership, true⟩ :: earlier

/-- What a thread had done when its session began. -/
def beforeSession (h : History Op.Answer) : History Op.Answer :=
  h.dropWhile fun e => !e.op.locks

theorem session_append_beforeSession (h : History Op.Answer) : session h ++ beforeSession h = h :=
  List.takeWhile_append_dropWhile

theorem beforeSession_cons {e : Event Op.Answer} {h : History Op.Answer} (he : e.op.locks = false) :
    beforeSession (e :: h) = beforeSession h := by
  simp [beforeSession, he]

section
variable [NearPrimitives] [EvmPrimitives]

/-- Leadership is raised from cleared gates, the leadership task is started once, and the
reconciliation gate is opened by a pass. -/
def KeepsTerms : World.Guarantee := fun _ h o =>
  match o with
  | .storeGate .leadership true => tenure h = .cleared
  | .storeGate .reconciliation true => PassStarted (beforeSession h)
  | .spawn (.leadership _) => ∀ e ∈ h, e.op.startsLeadership = false
  | _ => True

variable {role : Role} {h : History Op.Answer}

theorem Op.Plain.keepsTerms {o : Op} (ho : o.Plain) : KeepsTerms role h o := by
  cases o with
  | storeGate gate ready => cases gate <;> cases ready <;> trivial
  | spawn task => cases task <;> trivial
  | _ => trivial

theorem plain_keepsTerms {α : Type} {p : Service α} (hp : Plain p) :
    p.Obeys (KeepsTerms role) h fun _ _ => True :=
  Only.obeys hp (I := fun _ => True) (fun _ _ _ ho => ho.keepsTerms) (fun _ _ _ _ => trivial) trivial

/-! ## The leadership task -/

theorem setLeadership_false_keepsTerms :
    (setLeadership false).Obeys (KeepsTerms role) h fun _ h' => tenure h' = .cleared := by
  refine .step trivial fun _ => .perform trivial fun _ => ?_
  simp [tenure, Tenure.next]

theorem setLeadership_true_keepsTerms (hcleared : tenure h = .cleared) :
    (setLeadership true).Obeys (KeepsTerms role) h fun _ _ => True :=
  .step hcleared fun _ => .pure trivial

theorem holdLeadership_keepsTerms (fuel : Nat) :
    (holdLeadership fuel).Obeys (KeepsTerms role) h fun _ _ => True := by
  induction fuel generalizing h with
  | zero => exact .pure trivial
  | succ fuel ih =>
    refine .step trivial fun heartbeat => ?_
    match heartbeat with
    | .alive => exact ih
    | .lost => exact .bind setLeadership_false_keepsTerms fun _ _ _ _ => .pure trivial
    | .shutdown => exact .bind setLeadership_false_keepsTerms fun _ _ _ _ => .pure trivial

theorem runLeadership_keepsTerms (fuel : Nat) :
    (runLeadership fuel).Obeys (KeepsTerms role) h fun _ _ => True := by
  induction fuel generalizing h with
  | zero => exact .pure trivial
  | succ fuel ih =>
    refine .step trivial fun shutdown => ?_
    split
    · exact setLeadership_false_keepsTerms.conseq fun _ _ _ _ => trivial
    refine .bind setLeadership_false_keepsTerms fun _ h₁ _ hcleared => ?_
    refine .step trivial fun connected => ?_
    split
    · exact ih
    refine .step trivial fun acquired => ?_
    match acquired with
    | .ok true =>
      refine .bind (setLeadership_true_keepsTerms (by simpa [tenure, Tenure.next] using hcleared))
        fun _ _ _ _ => ?_
      refine .bind (holdLeadership_keepsTerms fuel) fun shutdown _ _ _ => ?_
      match shutdown with
      | none => exact .pure trivial
      | some true => exact setLeadership_false_keepsTerms.conseq fun _ _ _ _ => trivial
      | some false => exact ih
    | .ok false => exact ih
    | .error _ => exact ih

/-! ## Passes -/

/-- A pass under the lock stays in its session, so what it opens it opens in that session. -/
theorem reconcileLocked_keepsTerms (hstarted : PassStarted h) (hsession : session h = []) :
    (reconcileLocked role.state).Obeys (KeepsTerms role) h fun _ _ => True := by
  have hbefore : beforeSession h = h := by
    simpa only [hsession, List.nil_append] using session_append_beforeSession h
  -- As a pass of the reconciliation task, it is also known to start no leadership task.
  have hpass : (reconcileLocked role.state).Obeys
      (Justified ⟨role.process, role.state, .reconciliation 0⟩) (session h) fun _ _ => True := by
    rw [hsession]
    exact reconcileLocked_obeys rfl
  have hobeys := Obeys.frame (v := session) (fun _ _ ho => session_cons ho.locks) hpass
  refine (hobeys.strengthen (I := fun h' => PassStarted (beforeSession h')) ?_ ?_).mono ?_ ?_
  · intro e h' hh he
    rwa [beforeSession_cons he.locks]
  · rwa [hbefore]
  · rintro h' o - ⟨hh, ho⟩
    cases o with
    | storeGate gate ready =>
      cases gate with
      | leadership => cases ho
      | reconciliation =>
        cases ready with
        | true => exact hh
        | false => trivial
      | _ => trivial
    | spawn task =>
      cases task with
      | leadership fuel => cases ho
      | _ => trivial
    | _ => trivial
  · exact fun _ _ _ _ => trivial

theorem reconcile_keepsTerms :
    (reconcile role.state).Obeys (KeepsTerms role) h fun _ _ => True := by
  refine .bind (Q := fun current h' => ∃ reconciliation rpc relayer, h' =
    ⟨.loadGate .relayer, relayer⟩ :: ⟨.loadGate .rpc, rpc⟩ ::
      ⟨.loadGate .reconciliation, reconciliation⟩ :: ⟨.loadGate .leadership, current.leadership⟩ ::
      h) ?_ ?_
  · refine .step trivial fun leadership => .step trivial fun reconciliation => ?_
    refine .step trivial fun rpc => .step trivial fun relayer => .pure ?_
    exact ⟨reconciliation, rpc, relayer, rfl⟩
  · rintro current h' - ⟨reconciliation, rpc, relayer, rfl⟩
    split
    · exact .pure trivial
    rename_i hheld
    have hheld : current.leadership = true := by simpa using hheld
    rw [hheld]
    refine .step trivial fun _ => .step trivial fun _ => ?_
    refine .bind (reconcileLocked_keepsTerms ⟨h, reconciliation, rpc, relayer, rfl⟩ session_lock)
      fun _ _ _ _ => ?_
    exact .step trivial fun _ => .pure trivial

theorem reconciliationLoop_keepsTerms (fuel : Nat) :
    (reconciliationLoop role.state fuel).Obeys (KeepsTerms role) h fun _ _ => True := by
  induction fuel generalizing h with
  | zero => exact .pure trivial
  | succ fuel ih =>
    refine .bind (plain_keepsTerms Plain.snapshot) fun current _ _ _ => ?_
    split
    · exact .bind reconcile_keepsTerms fun _ _ _ _ => ih
    · exact ih

/-! ## Main tasks -/

/-- A plain program starts no leadership task. -/
theorem plain_startsNone {α : Type} {p : Service α} (hp : Plain p)
    (hnone : ∀ e ∈ h, e.op.startsLeadership = false) :
    p.Obeys (KeepsTerms role) h fun _ h' => ∀ e ∈ h', e.op.startsLeadership = false := by
  refine Only.obeys hp (I := fun h' => ∀ e ∈ h', e.op.startsLeadership = false)
    (fun _ _ _ ho => ho.keepsTerms) (fun e h' hh he => ?_) hnone
  refine List.forall_mem_cons.mpr ⟨?_, hh⟩
  cases ho : e.op with
  | spawn task =>
    rw [ho] at he
    cases task <;> first | rfl | exact he.elim
  | _ => rfl

theorem startup_keepsTerms (fuel : Nat) :
    (startup role.state fuel).Obeys (KeepsTerms role) [] fun _ _ => True := by
  refine .step trivial fun result => ?_
  cases result with
  | error e => exact .pure trivial
  | ok _ =>
    refine .bind (plain_startsNone (Plain.refreshChainReadiness role.state) (by simp [Op.startsLeadership]))
      fun _ _ _ hnone => ?_
    refine .step hnone fun _ => .step trivial fun _ => ?_
    exact .perform trivial fun _ => trivial

theorem reconcileCommand_keepsTerms (fuel : Nat) :
    (reconcileCommand role.state fuel).Obeys (KeepsTerms role) [] fun _ _ => True := by
  refine .bind (plain_startsNone (Plain.refreshChainReadiness role.state) (by simp))
    fun _ _ _ hnone => ?_
  refine .step hnone fun _ => ?_
  refine .bind (plain_keepsTerms (Plain.awaitLeadership fuel)) fun held _ _ _ => ?_
  split
  · exact .bind reconcile_keepsTerms fun _ _ _ _ => .pure trivial
  · exact .pure trivial

/-! ## All tasks -/

/-- A justified operation of any other task does not touch what the guarantee is about. -/
theorem SessionJustified.keepsTerms {o : Op} (ho : SessionJustified role h o)
    (hleads : role.task.leads = false) (hmain : role.task.isMain = false)
    (hreconciles : role.task.reconciles = false) : KeepsTerms role h o := by
  obtain hlocks | ho := ho
  · cases o with
    | lockRelayer | unlockRelayer => trivial
    | _ => cases hlocks
  · cases o with
    | storeGate gate ready =>
      cases gate with
      | leadership => cases hleads.symm.trans ho
      | reconciliation =>
        cases ready with
        | true => cases hreconciles.symm.trans ho.1
        | false => trivial
      | _ => trivial
    | spawn task =>
      cases task with
      | leadership fuel => cases hmain.symm.trans ho
      | _ => trivial
    | _ => trivial

theorem Role.keepsTerms (role : Role) : role.thread.Follows KeepsTerms := by
  have other (hleads : role.task.leads = false) (hmain : role.task.isMain = false)
      (hreconciles : role.task.reconciles = false) : role.thread.Follows KeepsTerms :=
    Obeys.mono role.follows (fun _ _ _ ho => ho.keepsTerms hleads hmain hreconciles)
      fun _ _ _ _ => trivial
  cases htask : role.task with
  | startup fuel =>
    unfold Thread.Follows Role.thread
    rw [htask]
    exact startup_keepsTerms fuel
  | leadership fuel =>
    unfold Thread.Follows Role.thread
    rw [htask]
    exact runLeadership_keepsTerms fuel
  | reconciliation fuel =>
    unfold Thread.Follows Role.thread
    rw [htask]
    exact reconciliationLoop_keepsTerms fuel
  | reconcileCommand fuel =>
    unfold Thread.Follows Role.thread
    rw [htask]
    exact reconcileCommand_keepsTerms fuel
  | readinessMonitor fuel | settle fuel | settlementWorker id request =>
    exact other (by rw [htask]; rfl) (by rw [htask]; rfl) (by rw [htask]; rfl)

/-! ## One leadership task per process -/

namespace World

/-- A process has one main task and at most one leadership task, which the main task started. -/
structure Led (w : World) : Prop where
  main : ∀ {i j : Nat} {t s : Thread}, w.threads[i]? = some t → w.threads[j]? = some s →
    t.role.task.isMain = true → s.role.task.isMain = true → t.role.process = s.role.process → i = j
  started : ∀ {i : Nat} {t : Thread}, w.threads[i]? = some t → t.role.task.leads = true →
    ∃ (j : Nat) (s : Thread), w.threads[j]? = some s ∧ s.role.task.isMain = true ∧
      s.role.process = t.role.process ∧ ∃ e ∈ s.past, e.op.startsLeadership = true
  leader : ∀ {i j : Nat} {t s : Thread}, w.threads[i]? = some t → w.threads[j]? = some s →
    t.role.task.leads = true → s.role.task.leads = true → t.role.process = s.role.process → i = j

/-- What a launched thread can be, given what its starter may do. -/
theorem Launched.not_main {moves : List Move} {m : Move} {role : Role}
    (h : (after moves).Launched m role) (hmain : role.task.isMain = true) {i : Nat} {t : Thread}
    (ht : (after moves).threads[i]? = some t) : t.role.process ≠ role.process := by
  cases h with
  | main fuel htask hprocess =>
    have := placed_after moves t (List.mem_of_getElem? ht)
    omega
  | request fuel htask hp hstate =>
    rw [htask] at hmain
    cases hmain
  | spawned hm hs hp hcall hpermits hprocess hstate =>
    have hspawn := justified_after moves (List.mem_of_getElem? hs) hcall
    obtain hlocks | hspawn := hspawn
    · cases hlocks
    cases htask : role.task with
    | startup | reconcileCommand =>
      rw [htask] at hspawn
      exact hspawn.elim
    | _ =>
      rw [htask] at hmain
      cases hmain

/-- A leadership task is started by a main task that has started none before. -/
theorem Launched.leads {moves : List Move} {m : Move} {role : Role}
    (h : (after moves).Launched m role) (hleads : role.task.leads = true) :
    ∃ (tid : Nat) (t t' : Thread), (after moves).threads[tid]? = some t ∧
      t.role.task.isMain = true ∧ t.role.process = role.process ∧
      (∀ e ∈ t.past, e.op.startsLeadership = false) ∧
      (after (moves ++ [m])).threads[tid]? = some t' ∧ t'.role = t.role ∧
      ∃ e ∈ t'.past, e.op.startsLeadership = true := by
  cases h with
  | main fuel htask hprocess =>
    obtain htask | htask := htask <;> rw [htask] at hleads <;> cases hleads
  | request fuel htask hp hstate =>
    rw [htask] at hleads
    cases hleads
  | spawned hm hs hp hcall hpermits hprocess hstate =>
    rename_i tid env t p next
    have hmem := List.mem_of_getElem? hs
    obtain hlocks | hspawn := justified_after moves hmem hcall
    · cases hlocks
    have hterms := (follows_after Role.keepsTerms moves t hmem).allowed hcall
    have hstarts : (Op.spawn role.task).startsLeadership = true := by
      cases htask : role.task <;> rw [htask] at hleads <;> first | rfl | cases hleads
    cases htask : role.task with
    | leadership fuel =>
      rw [htask] at hspawn hterms
      refine ⟨tid, t, t.resume (.spawn role.task) next (), hs, hspawn, hprocess.symm, hterms, ?_, rfl,
        ⟨.spawn role.task, ()⟩, List.mem_cons_self, hstarts⟩
      rw [after_concat, hm, step_of_call env hs hp hcall hpermits]
      exact perform_thread_self hs
    | _ =>
      rw [htask] at hleads
      cases hleads

theorem led_after (moves : List Move) : (after moves).Led := by
  induction moves using List.reverseRecOn with
  | nil => constructor <;> simp [after, init, Run.after_nil]
  | append_singleton moves m ih =>
    have hstep := (after moves).stepped m
    rw [← after_concat] at hstep
    refine ⟨?_, ?_, ?_⟩
    · intro i j t s ht hs htmain hsmain hprocess
      obtain ⟨t₀, ht₀, htlater⟩ | ⟨role, hi, rfl, hrole⟩ := hstep.thread_earlier ht <;>
        obtain ⟨s₀, hs₀, hslater⟩ | ⟨role', hj, rfl, hrole'⟩ := hstep.thread_earlier hs
      · rw [htlater.role] at htmain hprocess
        rw [hslater.role] at hsmain hprocess
        exact ih.main ht₀ hs₀ htmain hsmain hprocess
      · rw [htlater.role] at hprocess
        exact absurd hprocess (hrole'.not_main hsmain ht₀)
      · rw [hslater.role] at hprocess
        exact absurd hprocess.symm (hrole.not_main htmain hs₀)
      · exact hi.trans hj.symm
    · intro i t ht hleads
      obtain ⟨t₀, ht₀, htlater⟩ | ⟨role, hi, rfl, hrole⟩ := hstep.thread_earlier ht
      · rw [htlater.role] at hleads
        obtain ⟨j, s, hs, hsmain, hprocess, e, he, hstarts⟩ := ih.started ht₀ hleads
        obtain ⟨s', hs', hslater⟩ := hstep.thread_later hs
        refine ⟨j, s', hs', ?_, ?_, e, hslater.past.mem he, hstarts⟩
        · rwa [hslater.role]
        · rw [hslater.role, htlater.role, hprocess]
      · obtain ⟨tid, s, s', -, hsmain, hprocess, -, hs', hsrole, he⟩ := hrole.leads hleads
        exact ⟨tid, s', hs', hsrole ▸ hsmain, hsrole ▸ hprocess, he⟩
    · have fresh {role : Role} (hrole : (after moves).Launched m role)
          (hleads : role.task.leads = true) {i : Nat} {t : Thread}
          (ht : (after moves).threads[i]? = some t) (htleads : t.role.task.leads = true) :
          t.role.process ≠ role.process := by
        intro hprocess
        obtain ⟨tid, s, -, hs, hsmain, hsprocess, hnone, -⟩ := hrole.leads hleads
        obtain ⟨j, s', hs', hsmain', hsprocess', e, he, hstarts⟩ := ih.started ht htleads
        obtain rfl := ih.main hs' hs hsmain' hsmain (hsprocess'.trans (hprocess.trans hsprocess.symm))
        obtain rfl := Option.some.inj (hs.symm.trans hs')
        cases (hnone e he).symm.trans hstarts
      intro i j t s ht hs htleads hsleads hprocess
      obtain ⟨t₀, ht₀, htlater⟩ | ⟨role, hi, rfl, hrole⟩ := hstep.thread_earlier ht <;>
        obtain ⟨s₀, hs₀, hslater⟩ | ⟨role', hj, rfl, hrole'⟩ := hstep.thread_earlier hs
      · rw [htlater.role] at htleads hprocess
        rw [hslater.role] at hsleads hprocess
        exact ih.leader ht₀ hs₀ htleads hsleads hprocess
      · rw [htlater.role] at htleads hprocess
        exact absurd hprocess (fresh hrole' hsleads ht₀ htleads)
      · rw [hslater.role] at hsleads hprocess
        exact absurd hprocess.symm (fresh hrole htleads hs₀ hsleads)
      · exact hi.trans hj.symm

end World

end

end X402Facilitator
