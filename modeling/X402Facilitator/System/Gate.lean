import X402Facilitator.System.Leadership
import X402Facilitator.System.Outcome

/-!
# Freshness of the reconciliation gate

The reconciliation gate has no epoch: a pass that is suspended across a loss of leadership can still
open it in the next term. In every run in which no pass is overtaken by its leadership task, the gate
is open only after a pass of the current term has read the journal without an open row.
-/

namespace X402Facilitator

open Program

/-! ## Terms in the log -/

def Op.storesLeadership : Op → Bool
  | storeGate .leadership _ => true
  | _ => false

def Op.raisesLeadership : Op → Bool
  | storeGate .leadership true => true
  | _ => false

/-- A store of the leadership gate of the process. -/
def LogEntry.setsLeadership (pid : Nat) (e : LogEntry) : Bool :=
  e.process == pid && e.event.op.storesLeadership

/-- A `set_leadership(true)` of the process. -/
def LogEntry.raises (pid : Nat) (e : LogEntry) : Bool :=
  e.process == pid && e.event.op.raisesLeadership

/-- What was logged after the last entry that satisfies `f`. -/
def since (f : LogEntry → Bool) (log : List LogEntry) : List LogEntry :=
  log.takeWhile fun e => !f e

theorem since_cons_of_stop {f : LogEntry → Bool} {e : LogEntry} (h : f e = true)
    (log : List LogEntry) : since f (e :: log) = [] := by
  simp [since, h]

theorem since_cons {f : LogEntry → Bool} {e : LogEntry} (h : f e = false) (log : List LogEntry) :
    since f (e :: log) = e :: since f log := by
  simp [since, h]

theorem since_initial (f : LogEntry → Bool) (log : List LogEntry) : since f log <+: log :=
  List.takeWhile_prefix _

/-- A stop that is rarer lets more of the log through. -/
theorem since_initial_of_imp {f g : LogEntry → Bool} (h : ∀ e, f e = true → g e = true)
    (log : List LogEntry) : since g log <+: since f log := by
  induction log with
  | nil => exact List.prefix_rfl
  | cons e log ih =>
    cases hg : g e with
    | true =>
      rw [since_cons_of_stop hg]
      exact List.nil_prefix
    | false =>
      have hf : f e = false := by
        rw [← Bool.not_eq_true]
        intro hf
        cases hg.symm.trans (h e hf)
      rw [since_cons hg, since_cons hf]
      exact List.cons_prefix_cons.mpr ⟨rfl, ih⟩

theorem LogEntry.setsLeadership_of_raises (pid : Nat) (e : LogEntry) (h : e.raises pid = true) :
    e.setsLeadership pid = true := by
  obtain ⟨hprocess, hop⟩ := Bool.and_eq_true_iff.mp h
  refine Bool.and_eq_true_iff.mpr ⟨hprocess, ?_⟩
  cases ho : e.event.op with
  | storeGate gate ready =>
    rw [ho] at hop
    cases gate <;> first | rfl | cases hop
  | _ =>
    rw [ho] at hop
    cases hop

/-! ## Passes in a history -/

/-- A pass of `reconcile` has begun in this part of a thread's history and has read the journal
without an open row. -/
def PassReadEmpty (h : History Op.Answer) : Prop :=
  ∃ later middle earlier, h = later ++ ⟨.store .nonterminalSettlements, .ok []⟩ :: (middle ++ earlier) ∧
    (∀ e ∈ middle, e.op.locks = false) ∧ PassStarted earlier

theorem PassStarted.append {h : History Op.Answer} (hh : PassStarted h) (h' : History Op.Answer) :
    PassStarted (h ++ h') := by
  obtain ⟨earlier, reconciliation, rpc, relayer, rfl⟩ := hh
  exact ⟨earlier ++ h', reconciliation, rpc, relayer, rfl⟩

theorem PassReadEmpty.append {h : History Op.Answer} (hh : PassReadEmpty h)
    (before after : History Op.Answer) : PassReadEmpty (before ++ (h ++ after)) := by
  obtain ⟨later, middle, earlier, rfl, hmiddle, hstarted⟩ := hh
  exact ⟨before ++ later, middle, earlier ++ after, by simp, hmiddle, hstarted.append after⟩

/-- A session that began with a pass and has read the journal empty. -/
theorem passReadEmpty_of_session {session earlier : History Op.Answer}
    (hread : Stored session .nonterminalSettlements [])
    (hlocks : ∀ e ∈ session, e.op.locks = false) (hstarted : PassStarted earlier) :
    PassReadEmpty (session ++ earlier) := by
  obtain ⟨later, middle, rfl⟩ := List.append_of_mem hread
  refine ⟨later, middle, earlier, by simp, fun e he => hlocks e ?_, hstarted⟩
  exact List.mem_append_right _ (List.mem_cons_of_mem _ he)

theorem session_locks (h : History Op.Answer) : ∀ e ∈ session h, e.op.locks = false := by
  intro e he
  simpa using List.all_eq_true.mp (List.all_takeWhile (p := fun e : Event Op.Answer => !e.op.locks)) e he

/-! ## Tenure and the gates -/

/-- What the tenure of the leadership task says about the gates of its process. -/
def Tenure.Matches (gates : ReadinessSnapshot) : Tenure → Prop
  | cleared => gates.leadership = false ∧ gates.reconciliation = false
  | raised => gates.leadership = true
  | lowered => gates.leadership = false

theorem Tenure.Matches.raised_of_leadership {gates : ReadinessSnapshot} {tenure : Tenure}
    (h : tenure.Matches gates) (hleadership : gates.leadership = true) : tenure = .raised := by
  cases tenure with
  | raised => rfl
  | cleared => cases h.1.symm.trans hleadership
  | lowered => cases h.symm.trans hleadership

theorem Tenure.raised_of_next {tenure : Tenure} {o : Op} (h : tenure.next o = .raised) :
    o.raisesLeadership = true ∨ tenure = .raised := by
  cases o with
  | storeGate gate ready =>
    cases gate with
    | leadership =>
      cases ready with
      | true => exact .inl rfl
      | false => cases h
    | reconciliation =>
      cases ready with
      | true => exact .inr h
      | false =>
        simp only [Tenure.next] at h
        split at h
        · cases h
        · exact .inr h
    | _ => exact .inr h
  | _ => exact .inr h

theorem exists_raise_of_tenure {h : History Op.Answer} (hraised : tenure h = .raised) :
    ∃ e ∈ h, e.op.raisesLeadership = true := by
  induction h with
  | nil => cases hraised
  | cons e h ih =>
    obtain hop | hraised := Tenure.raised_of_next hraised
    · exact ⟨e, List.mem_cons_self, hop⟩
    · obtain ⟨e', he', hop⟩ := ih hraised
      exact ⟨e', List.mem_cons_of_mem _ he', hop⟩

section
variable [NearPrimitives] [EvmPrimitives]

namespace Process

variable {p : Process} {tid : Nat} {o : Op}

theorem after_leadership (ho : o.storesLeadership = false) :
    (p.after tid o).gates.leadership = p.gates.leadership := by
  cases o with
  | storeGate gate ready => cases gate <;> first | rfl | cases ho
  | unlockRelayer =>
    simp only [after, release]
    split <;> rfl
  | _ => rfl

/-- The reconciliation gate is open only if it was, or is being opened. -/
theorem reconciliation_of_after (h : (p.after tid o).gates.reconciliation = true) :
    o = .storeGate .reconciliation true ∨ p.gates.reconciliation = true := by
  cases o with
  | storeGate gate ready =>
    cases gate with
    | reconciliation =>
      cases ready with
      | true => exact .inl rfl
      | false => cases h
    | _ => exact .inr h
  | unlockRelayer =>
    simp only [after, release] at h
    split at h <;> exact .inr h
  | _ => exact .inr h

/-- The leadership task's own operation moves its tenure with the gates. -/
theorem tenure_after {tenure : Tenure} (h : tenure.Matches p.gates)
    (ho : o ≠ .storeGate .reconciliation true) :
    (tenure.next o).Matches (p.after tid o).gates := by
  cases o with
  | storeGate gate ready =>
    cases gate with
    | leadership => cases ready <;> exact rfl
    | reconciliation =>
      cases ready with
      | true => exact absurd rfl ho
      | false =>
        cases tenure with
        | cleared => exact ⟨h.1, rfl⟩
        | raised => exact h
        | lowered => exact ⟨h, rfl⟩
    | _ => exact h
  | unlockRelayer =>
    simp only [after, release]
    split <;> exact h
  | _ => exact h

end Process

namespace World

/-- A pass of the process that began after its last `set_leadership(true)` has read the journal
without an open row. -/
def Fresh (w : World) (pid : Nat) : Prop :=
  ∃ (tid : Nat) (t : Thread), w.threads[tid]? = some t ∧ t.role.process = pid ∧
    PassReadEmpty (own tid (since (LogEntry.raises pid) w.log))

/-- The move lets a pass open the reconciliation gate although its process has written the leadership
gate since the pass began. A pass is six operations older than its session: the four loads of its
snapshot, the closing of the gate and the lock. -/
def overtaken (w : World) (m : Move) : Bool :=
  match m, w.issued? m with
  | .step tid _, some (t, .storeGate .reconciliation true) =>
    decide ((own tid (since (LogEntry.setsLeadership t.role.process) w.log)).length <
      (session t.past).length + 6)
  | _, _ => false

/-- What the gates of every process say about its leadership task and its passes. -/
structure Gated (w : World) : Prop where
  led : ∀ {pid : Nat} {p : Process} {tid : Nat} {t : Thread}, w.processes[pid]? = some p →
    w.threads[tid]? = some t → t.role.process = pid → t.role.task.leads = true →
    (tenure t.past).Matches p.gates
  unled : ∀ {pid : Nat} {p : Process}, w.processes[pid]? = some p →
    (∀ t ∈ w.threads, t.role.process = pid → t.role.task.leads = false) →
    p.gates.leadership = false ∧ p.gates.reconciliation = false
  loads : ∀ {pid : Nat} {p : Process}, w.processes[pid]? = some p →
    ∀ e ∈ since (LogEntry.setsLeadership pid) w.log, e.process = pid →
      e.event = ⟨.loadGate .leadership, true⟩ → p.gates.leadership = true
  fresh : ∀ {pid : Nat} {p : Process}, w.processes[pid]? = some p →
    p.gates.reconciliation = true → (∃ e ∈ w.log, e.raises pid = true) ∧ w.Fresh pid

namespace Gated

variable {w : World}

/-- A process whose leadership gate is up has a leadership task that raised it. -/
theorem exists_raise (h : w.Gated) (hlogged : w.Logged) {pid : Nat} {p : Process}
    (hp : w.processes[pid]? = some p) (hleadership : p.gates.leadership = true) :
    ∃ e ∈ w.log, e.raises pid = true := by
  have hex : ∃ t ∈ w.threads, t.role.process = pid ∧ t.role.task.leads = true := by
    by_contra hnone
    have hunled : ∀ t ∈ w.threads, t.role.process = pid → t.role.task.leads = false := by
      intro t ht hprocess
      rw [← Bool.not_eq_true]
      exact fun hleads => hnone ⟨t, ht, hprocess, hleads⟩
    cases (h.unled hp hunled).1.symm.trans hleadership
  obtain ⟨t, ht, hprocess, hleads⟩ := hex
  obtain ⟨tid, ht⟩ := List.getElem?_of_mem ht
  have hraised := (h.led hp ht hprocess hleads).raised_of_leadership hleadership
  obtain ⟨e, he, hop⟩ := exists_raise_of_tenure hraised
  rw [← hlogged.own ht] at he
  obtain ⟨entry, hentry, rfl⟩ := List.mem_map.mp he
  obtain ⟨hlog, hthread⟩ := List.mem_filter.mp hentry
  obtain ⟨s, hs, hsprocess⟩ := hlogged.process entry hlog
  rw [of_decide_eq_true hthread, ht] at hs
  obtain rfl := Option.some.inj hs
  refine ⟨entry, hlog, Bool.and_eq_true_iff.mpr ⟨?_, hop⟩⟩
  exact beq_iff_eq.mpr (hsprocess.symm.trans hprocess)

section
variable {tid : Nat} {t : Thread} {p : Process} {o : Op} {next : o.Answer → Service Unit}

/-- A pass that is not overtaken lies within the current term, found leadership held in it and has
read the journal empty. -/
theorem opening (h : w.Gated) (hlogged : w.Logged) (ht : w.threads[tid]? = some t)
    (hp : w.processes[t.role.process]? = some p)
    (hread : Stored (session t.past) .nonterminalSettlements [])
    (hstarted : PassStarted (beforeSession t.past))
    (hlength : (session t.past).length + 6 ≤
      (own tid (since (LogEntry.setsLeadership t.role.process) w.log)).length) :
    p.gates.leadership = true ∧
      PassReadEmpty (own tid (since (LogEntry.setsLeadership t.role.process) w.log)) := by
  obtain ⟨earlier, reconciliation, rpc, relayer, hbefore⟩ := hstarted
  generalize hterm : since (LogEntry.setsLeadership t.role.process) w.log = term at hlength
  obtain ⟨rest, hrest⟩ : term <+: w.log := hterm ▸ since_initial _ _
  let first : History Op.Answer := [⟨.lockRelayer, ()⟩, ⟨.storeGate .reconciliation false, ()⟩,
    ⟨.loadGate .relayer, relayer⟩, ⟨.loadGate .rpc, rpc⟩,
    ⟨.loadGate .reconciliation, reconciliation⟩, ⟨.loadGate .leadership, true⟩]
  have hpast : t.past = (session t.past ++ first) ++ earlier := by
    calc t.past = session t.past ++ beforeSession t.past := (session_append_beforeSession _).symm
      _ = (session t.past ++ first) ++ earlier := by rw [hbefore]; simp [first]
  have hown : own tid term ++ own tid rest = t.past := by
    rw [← own_append, hrest, hlogged.own ht]
  obtain ⟨more, hmore⟩ : session t.past ++ first <+: own tid term := by
    refine List.prefix_of_prefix_length_le ⟨earlier, hpast.symm⟩ ⟨own tid rest, hown⟩ ?_
    simpa [first] using hlength
  refine ⟨?_, ?_⟩
  · have hmem : ⟨.loadGate .leadership, true⟩ ∈ own tid term := by
      rw [← hmore]
      simp [first]
    obtain ⟨entry, hentry, hevent⟩ := List.mem_map.mp hmem
    obtain ⟨hentry, hthread⟩ := List.mem_filter.mp hentry
    have hlog : entry ∈ w.log := hrest ▸ List.mem_append_left _ hentry
    obtain ⟨s, hs, hsprocess⟩ := hlogged.process entry hlog
    rw [of_decide_eq_true hthread, ht] at hs
    obtain rfl := Option.some.inj hs
    exact h.loads hp entry (hterm ▸ hentry) hsprocess.symm hevent
  · rw [← hmore, List.append_assoc]
    exact passReadEmpty_of_session hread (session_locks _)
      ⟨more, reconciliation, rpc, relayer, rfl⟩

/-- A log entry that raises no gate of the process leaves its freshness alone. -/
theorem fresh_perform {env : Env} (ht : w.threads[tid]? = some t) {pid : Nat}
    (hraises : t.role.process = pid → o.raisesLeadership = false) (h : w.Fresh pid) :
    (w.perform tid t p env o next).Fresh pid := by
  obtain ⟨i, s, hs, hprocess, hpass⟩ := h
  have hnot : LogEntry.raises pid ⟨tid, t.role.process, o, o.answer env w.db p.gates⟩ = false := by
    rw [← Bool.not_eq_true]
    intro hraise
    obtain ⟨hpid, hop⟩ := Bool.and_eq_true_iff.mp hraise
    cases (hraises (beq_iff_eq.mp hpid)).symm.trans hop
  obtain ⟨s', hs', hlater⟩ := perform_thread_later ht hs
  refine ⟨i, s', hs', hlater.role ▸ hprocess, ?_⟩
  simp only [perform]
  rw [since_cons hnot]
  obtain rfl | hne := eq_or_ne tid i
  · rw [show own tid (⟨tid, t.role.process, o, o.answer env w.db p.gates⟩ ::
      since (LogEntry.raises pid) w.log) = _ from own_cons_self _ _]
    simpa using hpass.append [⟨o, o.answer env w.db p.gates⟩] []
  · rw [own_cons_of_ne hne]
    exact hpass

/-- What the guarantees of a thread say about its operation on the gates: only the leadership task
writes its gate, it raises it from cleared gates, and the reconciliation gate is opened by a pass of
the current term. -/
structure Permitted (w : World) (tid : Nat) (t : Thread) (p : Process) (o : Op) : Prop where
  leads : o.storesLeadership = true → t.role.task.leads = true
  raises : o.raisesLeadership = true → tenure t.past = .cleared
  opens : o = .storeGate .reconciliation true → t.role.task.leads = false ∧
    p.gates.leadership = true ∧
      PassReadEmpty (own tid (since (LogEntry.setsLeadership t.role.process) w.log))

theorem permitted (h : w.Gated) (hlogged : w.Logged) (ht : w.threads[tid]? = some t)
    (hp : w.processes[t.role.process]? = some p) (hjustified : SessionJustified t.role t.past o)
    (hterms : KeepsTerms t.role t.past o)
    (hlength : o = .storeGate .reconciliation true → (session t.past).length + 6 ≤
      (own tid (since (LogEntry.setsLeadership t.role.process) w.log)).length) :
    Permitted w tid t p o := by
  refine ⟨fun ho => ?_, fun ho => ?_, fun ho => ?_⟩
  · obtain hlocks | hjustified := hjustified
    · cases o <;> first | cases ho | cases hlocks
    cases o with
    | storeGate gate ready => cases gate <;> first | exact hjustified | cases ho
    | _ => cases ho
  · cases o with
    | storeGate gate ready => cases gate <;> cases ready <;> first | exact hterms | cases ho
    | _ => cases ho
  · subst ho
    obtain hlocks | ⟨hreconciles, hread⟩ := hjustified
    · cases hlocks
    refine ⟨?_, h.opening hlogged ht hp hread hterms (hlength rfl)⟩
    cases htask : t.role.task <;> rw [htask] at hreconciles <;> first | rfl | cases hreconciles

/-- The gates after an operation that the leadership task of the process did not issue. -/
theorem Permitted.gates (h : Permitted w tid t p o) (hleads : t.role.task.leads = false) :
    (p.after tid o).gates.leadership = p.gates.leadership ∧
      ((p.after tid o).gates.reconciliation = true →
        p.gates.leadership = true ∨ p.gates.reconciliation = true) := by
  refine ⟨Process.after_leadership ?_, fun hopen => ?_⟩
  · rw [← Bool.not_eq_true]
    intro ho
    cases hleads.symm.trans (h.leads ho)
  · exact (Process.reconciliation_of_after hopen).imp_left fun ho => (h.opens ho).2.1

/-- The gates of a process without a leadership task stay down. -/
theorem after_unled (h : w.Gated) (ht : w.threads[tid]? = some t)
    (hp : w.processes[t.role.process]? = some p) (hpermitted : Permitted w tid t p o)
    (hunled : ∀ s ∈ w.threads, s.role.process = t.role.process → s.role.task.leads = false) :
    (p.after tid o).gates.leadership = false ∧ (p.after tid o).gates.reconciliation = false := by
  obtain ⟨hdown, hclosed⟩ := h.unled hp hunled
  obtain ⟨hleadership, hopen⟩ := hpermitted.gates (hunled t (List.mem_of_getElem? ht) rfl)
  refine ⟨hleadership.trans hdown, ?_⟩
  rw [← Bool.not_eq_true]
  intro hafter
  obtain hraised | hopen := hopen hafter
  · cases hdown.symm.trans hraised
  · cases hclosed.symm.trans hopen

theorem performed_led (h : w.Gated) (hled : w.Led) {env : Env}
    (hled' : (w.perform tid t p env o next).Led) (ht : w.threads[tid]? = some t)
    (hp : w.processes[t.role.process]? = some p) (hpermitted : Permitted w tid t p o) {i : Nat}
    {s : Thread} (hs : (w.perform tid t p env o next).threads[i]? = some s)
    (hprocess : s.role.process = t.role.process) (hsleads : s.role.task.leads = true) :
    (tenure s.past).Matches (p.after tid o).gates := by
  obtain ⟨hi, rfl⟩ | ⟨hne, hs'⟩ | ⟨role, -, -, -, hi, rfl⟩ := perform_thread_cases ht hs
  · refine Process.tenure_after (h.led hp ht rfl hsleads) fun ho => ?_
    cases (hpermitted.opens ho).1.symm.trans hsleads
  · have hleads : t.role.task.leads = false := by
      rw [← Bool.not_eq_true]
      exact fun hleads => hne (hled.leader hs' ht hsleads hleads hprocess)
    obtain ⟨hleadership, hopen⟩ := hpermitted.gates hleads
    have hold := h.led hp hs' hprocess hsleads
    cases htenure : tenure s.past with
    | raised | lowered =>
      rw [htenure] at hold
      exact hleadership.trans hold
    | cleared =>
      rw [htenure] at hold
      refine ⟨hleadership.trans hold.1, ?_⟩
      rw [← Bool.not_eq_true]
      intro hafter
      obtain hraised | hopen := hopen hafter
      · cases hold.1.symm.trans hraised
      · cases hold.2.symm.trans hopen
  -- A new leadership task is the first of its process, so the gates have never been written.
  · have hunled : ∀ s' ∈ w.threads, s'.role.process = t.role.process →
        s'.role.task.leads = false := by
      intro s' hs' hpid
      rw [← Bool.not_eq_true]
      intro hleads
      obtain ⟨j, hj⟩ := List.getElem?_of_mem hs'
      obtain ⟨later, hlater, hsame⟩ := perform_thread_later (p := p) (o := o) ht hj
      have hij := hled'.leader hs hlater hsleads (hsame.role ▸ hleads)
        (hprocess.trans (hsame.role ▸ hpid.symm))
      have := (List.getElem?_eq_some_iff.mp hj).1
      omega
    exact h.after_unled ht hp hpermitted hunled

theorem performed_loads (h : w.Gated) {env : Env} (hp : w.processes[t.role.process]? = some p)
    {e : LogEntry} (he : e ∈ since (LogEntry.setsLeadership t.role.process)
      (w.perform tid t p env o next).log)
    (hprocess : e.process = t.role.process) (hload : e.event = ⟨.loadGate .leadership, true⟩) :
    (p.after tid o).gates.leadership = true := by
  simp only [perform] at he
  cases hstores : o.storesLeadership with
  | true =>
    rw [since_cons_of_stop (by simp [LogEntry.setsLeadership, hstores])] at he
    cases he
  | false =>
    rw [Process.after_leadership hstores]
    rw [since_cons (by simp [LogEntry.setsLeadership, hstores])] at he
    obtain rfl | he := List.mem_cons.mp he
    · cases o with
      | loadGate gate =>
        cases gate with
        | leadership => exact eq_of_heq (Event.mk.inj hload).2
        | _ => cases hload
      | _ => cases hload
    · exact h.loads hp e he hprocess hload

theorem performed_fresh (h : w.Gated) (hlogged : w.Logged) {env : Env}
    (ht : w.threads[tid]? = some t) (hp : w.processes[t.role.process]? = some p)
    (hpermitted : Permitted w tid t p o) (hopen : (p.after tid o).gates.reconciliation = true) :
    (∃ e ∈ (w.perform tid t p env o next).log, e.raises t.role.process = true) ∧
      (w.perform tid t p env o next).Fresh t.role.process := by
  obtain ho | hopen := Process.reconciliation_of_after hopen
  · obtain ⟨-, hleadership, hpass⟩ := hpermitted.opens ho
    obtain ⟨e, he, hraise⟩ := h.exists_raise hlogged hp hleadership
    refine ⟨⟨e, List.mem_cons_of_mem _ he, hraise⟩, fresh_perform ht (fun _ => ?_) ?_⟩
    · rw [ho]
      rfl
    · obtain ⟨more, hmore⟩ := since_initial_of_imp (LogEntry.setsLeadership_of_raises t.role.process)
        w.log
      refine ⟨tid, t, ht, rfl, ?_⟩
      rw [← hmore, own_append]
      exact hpass.append [] _
  · obtain ⟨⟨e, he, hraise⟩, hfresh⟩ := h.fresh hp hopen
    refine ⟨⟨e, List.mem_cons_of_mem _ he, hraise⟩, fresh_perform ht (fun _ => ?_) hfresh⟩
    -- Leadership is raised only from cleared gates, and this gate is open.
    rw [← Bool.not_eq_true]
    intro ho
    have hstores : o.storesLeadership = true := by
      cases o with
      | storeGate gate ready => cases gate <;> first | rfl | cases ho
      | _ => cases ho
    have hcleared := h.led hp ht rfl (hpermitted.leads hstores)
    rw [hpermitted.raises ho] at hcleared
    cases hcleared.2.symm.trans hopen

theorem performed (h : w.Gated) (hled : w.Led) (hlogged : w.Logged) {env : Env}
    (hled' : (w.perform tid t p env o next).Led) (ht : w.threads[tid]? = some t)
    (hp : w.processes[t.role.process]? = some p) (hpermitted : Permitted w tid t p o) :
    (w.perform tid t p env o next).Gated := by
  have hplt := (List.getElem?_eq_some_iff.mp hp).1
  have hprocess {pid : Nat} {q : Process}
      (hq : (w.perform tid t p env o next).processes[pid]? = some q) :
      (pid = t.role.process ∧ q = p.after tid o) ∨
        (pid ≠ t.role.process ∧ w.processes[pid]? = some q) := Pool.getElem?_set_cases hplt hq
  have hnone {pid : Nat} (hunled : ∀ s ∈ (w.perform tid t p env o next).threads,
      s.role.process = pid → s.role.task.leads = false) :
      ∀ s ∈ w.threads, s.role.process = pid → s.role.task.leads = false := by
    intro s hs hpid
    obtain ⟨i, hi⟩ := List.getElem?_of_mem hs
    obtain ⟨s', hs', hlater⟩ := perform_thread_later (p := p) (o := o) ht hi
    have := hunled s' (List.mem_of_getElem? hs')
    rw [hlater.role] at this
    exact this hpid
  refine ⟨?_, ?_, ?_, ?_⟩
  · intro pid q i s hq hs hpid hsleads
    obtain ⟨rfl, rfl⟩ | ⟨hother, hq⟩ := hprocess hq
    · exact h.performed_led hled hled' ht hp hpermitted hs hpid hsleads
    · obtain ⟨-, rfl⟩ | ⟨-, hs⟩ | ⟨role, hrole, -, -, -, rfl⟩ := perform_thread_cases ht hs
      · exact absurd hpid.symm hother
      · exact h.led hq hs hpid hsleads
      · exact absurd (hpid.symm.trans hrole) hother
  · intro pid q hq hunled
    obtain ⟨rfl, rfl⟩ | ⟨-, hq⟩ := hprocess hq
    · exact h.after_unled ht hp hpermitted (hnone hunled)
    · exact h.unled hq (hnone hunled)
  · intro pid q hq e he hpid hload
    obtain ⟨rfl, rfl⟩ | ⟨hother, hq⟩ := hprocess hq
    · exact h.performed_loads hp he hpid hload
    · simp only [perform] at he
      rw [since_cons (by simp [LogEntry.setsLeadership, hother.symm])] at he
      obtain rfl | he := List.mem_cons.mp he
      · exact absurd hpid.symm hother
      · exact h.loads hq e he hpid hload
  · intro pid q hq hopen
    obtain ⟨rfl, rfl⟩ | ⟨hother, hq⟩ := hprocess hq
    · exact h.performed_fresh hlogged ht hp hpermitted hopen
    · obtain ⟨⟨e, he, hraise⟩, hfresh⟩ := h.fresh hq hopen
      exact ⟨⟨e, List.mem_cons_of_mem _ he, hraise⟩,
        fresh_perform ht (fun hpid => absurd hpid.symm hother) hfresh⟩

end

/-- A move that issues nothing and writes no gate. A process that it starts has its gates down. -/
theorem quiet {w' : World} (h : w.Gated) (hlogged : w.Logged)
    (hplaced : ∀ t ∈ w.threads, t.role.process < w.processes.length) (hlog : w'.log = w.log)
    (hprocesses : ∀ {pid : Nat} {p' : Process}, w'.processes[pid]? = some p' →
      (∃ p, w.processes[pid]? = some p ∧ p'.gates = p.gates) ∨
        (pid = w.processes.length ∧ p'.gates = ⟨false, false, false, false⟩))
    (hearlier : ∀ {i : Nat} {s' : Thread}, w'.threads[i]? = some s' →
      (∃ s, w.threads[i]? = some s ∧ s'.role = s.role ∧ s'.past = s.past) ∨
        s'.role.task.leads = false)
    (hlater : ∀ {i : Nat} {s : Thread}, w.threads[i]? = some s →
      ∃ s', w'.threads[i]? = some s' ∧ Later s s') : w'.Gated := by
  refine ⟨?_, ?_, ?_, ?_⟩
  · intro pid p' i s' hp' hs' hpid hleads
    obtain ⟨s, hs, hrole, hpast⟩ | hnot := hearlier hs'
    · rw [hrole] at hpid hleads
      obtain ⟨p, hp, hgates⟩ | ⟨rfl, -⟩ := hprocesses hp'
      · rw [hpast, hgates]
        exact h.led hp hs hpid hleads
      · have := hplaced s (List.mem_of_getElem? hs)
        omega
    · cases hnot.symm.trans hleads
  · intro pid p' hp' hunled
    obtain ⟨p, hp, hgates⟩ | ⟨-, hgates⟩ := hprocesses hp'
    · rw [hgates]
      refine h.unled hp fun s hs hpid => ?_
      obtain ⟨i, hi⟩ := List.getElem?_of_mem hs
      obtain ⟨s', hs', hsame⟩ := hlater hi
      have := hunled s' (List.mem_of_getElem? hs')
      rw [hsame.role] at this
      exact this hpid
    · rw [hgates]
      exact ⟨rfl, rfl⟩
  · intro pid p' hp' e he hpid hload
    rw [hlog] at he
    obtain ⟨p, hp, hgates⟩ | ⟨rfl, -⟩ := hprocesses hp'
    · rw [hgates]
      exact h.loads hp e he hpid hload
    · obtain ⟨s, hs, hprocess⟩ := hlogged.process e ((since_initial _ _).subset he)
      have := hplaced s (List.mem_of_getElem? hs)
      omega
  · intro pid p' hp' hopen
    obtain ⟨p, hp, hgates⟩ | ⟨-, hgates⟩ := hprocesses hp'
    · rw [hgates] at hopen
      obtain ⟨hraise, i, s, hs, hprocess, hpass⟩ := h.fresh hp hopen
      obtain ⟨s', hs', hsame⟩ := hlater hs
      rw [← hlog] at hraise hpass
      exact ⟨hraise, i, s', hs', hsame.role ▸ hprocess, hpass⟩
    · rw [hgates] at hopen
      cases hopen

/-- Every move keeps the gates, when no pass is overtaken. -/
theorem step {moves : List Move} {m : Move} (h : (after moves).Gated)
    (hrun : (after moves).overtaken m = false) : (after (moves ++ [m])).Gated := by
  have hled := led_after moves
  have hled' := led_after (moves ++ [m])
  have hlogged := logged_after moves
  have hplaced := placed_after moves
  have hstep := (after moves).stepped m
  rw [after_concat] at hled' ⊢
  have hearlier {i : Nat} {s' : Thread} (hs' : ((after moves).step m).threads[i]? = some s') :=
    hstep.thread_earlier hs'
  have hlater {i : Nat} {s : Thread} (hs : (after moves).threads[i]? = some s) :=
    hstep.thread_later hs
  generalize hw' : (after moves).step m = w' at hstep hled' hearlier hlater ⊢
  cases hstep with
  | idle => exact h
  | clientCreated id =>
    exact h.quiet hlogged hplaced rfl (fun hp => .inl ⟨_, hp, rfl⟩)
      (fun hs => .inl ⟨_, hs, rfl, rfl⟩) hlater
  | started hstate command fuel =>
    refine h.quiet hlogged hplaced rfl (fun hp => ?_) (fun hs => ?_) hlater
    · obtain hp | ⟨hpid, rfl⟩ := Pool.getElem?_concat_cases hp
      · exact .inl ⟨_, hp, rfl⟩
      · exact .inr ⟨hpid, rfl⟩
    · obtain hs | ⟨-, rfl⟩ := Pool.getElem?_concat_cases hs
      · exact .inl ⟨_, hs, rfl, rfl⟩
      · refine .inr ?_
        cases command <;> rfl
  | crashed hp =>
    refine h.quiet hlogged hplaced rfl (fun hq => ?_) (fun hs => .inl ⟨_, hs, rfl, rfl⟩) hlater
    obtain ⟨rfl, rfl⟩ | ⟨-, hq⟩ := Pool.getElem?_set_cases (List.getElem?_eq_some_iff.mp hp).1 hq
    · exact .inl ⟨_, hp, rfl⟩
    · exact .inl ⟨_, hq, rfl⟩
  | requested hp halive fuel =>
    refine h.quiet hlogged hplaced rfl (fun hq => .inl ⟨_, hq, rfl⟩) (fun hs => ?_) hlater
    obtain hs | ⟨-, rfl⟩ := Pool.getElem?_concat_cases hs
    · exact .inl ⟨_, hs, rfl, rfl⟩
    · exact .inr rfl
  | cancelled ht hp htask =>
    refine h.quiet hlogged hplaced rfl (fun hq => ?_) (fun hs => ?_) hlater
    · obtain ⟨rfl, rfl⟩ | ⟨-, hq⟩ := Pool.getElem?_set_cases (List.getElem?_eq_some_iff.mp hp).1 hq
      · refine .inl ⟨_, hp, ?_⟩
        unfold Process.release
        split <;> rfl
      · exact .inl ⟨_, hq, rfl⟩
    · obtain ⟨rfl, rfl⟩ | ⟨-, hs⟩ := Pool.getElem?_set_cases (List.getElem?_eq_some_iff.mp ht).1 hs
      · exact .inl ⟨_, ht, rfl, rfl⟩
      · exact .inl ⟨_, hs, rfl, rfl⟩
  | performed env ht hp hcall hpermits =>
    have hmem := List.mem_of_getElem? ht
    refine h.performed hled hlogged hled' ht hp (h.permitted hlogged ht hp
      (justified_after moves hmem hcall) ((follows_after Role.keepsTerms moves _ hmem).allowed hcall)
      fun ho => ?_)
    subst ho
    simp only [overtaken, issued?_of_call env ht hp hcall hpermits, decide_eq_false_iff_not,
      Nat.not_lt] at hrun
    exact hrun

end Gated

theorem gated_after {moves : List Move} (hrun : Always (fun w m => w.overtaken m = false) moves) :
    (after moves).Gated := by
  induction moves using List.reverseRecOn with
  | nil => constructor <;> simp [after, init, Run.after_nil]
  | append_singleton moves m ih =>
    obtain ⟨hbefore, hm⟩ := hrun.concat
    exact (ih hbefore).step hm

end World

/-- In a run in which no pass opens the gate after its process has written the leadership gate,
whenever the reconciliation gate of a process is open, and so whenever its `can_settle` reads it as
open, the process has raised leadership, and a pass of `reconcile` that began after the last time it
did has read the journal without an open row. -/
theorem gate_fresh (moves : List Move)
    (hrun : World.Always (fun w m => w.overtaken m = false) moves) (pid : Nat) (p : Process)
    (hp : (World.after moves).processes[pid]? = some p) (hopen : p.gates.reconciliation = true) :
    (∃ e ∈ (World.after moves).log, e.raises pid = true) ∧ (World.after moves).Fresh pid :=
  (World.gated_after hrun).fresh hp hopen

/-- Reads the rows that hold a reservation. -/
def Op.readsActive : Op → Bool
  | store .nonterminalSettlements => true
  | _ => false

/-- Where the active rows were not read since leadership was raised, no pass is fresh. -/
theorem not_fresh {w : World} {pid : Nat}
    (hnone : (since (LogEntry.raises pid) w.log).all (fun e => !e.event.op.readsActive) = true) :
    ¬ w.Fresh pid := by
  rintro ⟨tid, t, -, -, later, middle, earlier, hpass, -⟩
  have hmem : ⟨.store .nonterminalSettlements, .ok []⟩ ∈
      World.own tid (since (LogEntry.raises pid) w.log) := by
    rw [hpass]
    simp
  obtain ⟨e, he, hevent⟩ := List.mem_map.mp hmem
  have hreads := List.all_eq_true.mp hnone e (List.mem_filter.mp he).1
  rw [hevent] at hreads
  cases hreads

end

/-! ## Runs of the sample deployment -/

namespace Sample

/-- The first pass of process 0, thread 2, has read the journal for the second time and found it
empty; it is suspended before it opens the gate. Then leadership is lost. -/
def suspended : List Move :=
  [.createClient 7, .start config [] false 5] ++ steps answer 14 0 ++ steps answer 6 1 ++
    steps answer 12 2 ++ steps disconnected 3 1

/-- Process 1 is the leader for a while, threads 4 to 7. It takes a request, thread 8, and its worker,
thread 9, has sent a transaction when it crashes. -/
def interregnum : List Move :=
  [.start config [] false 5] ++ steps answer 14 4 ++ steps answer 6 5 ++ steps answer 14 6 ++
    [.request 1 3] ++ steps answer 23 8 ++ steps answer 33 9 ++ [.crash 1]

/-- Process 0 becomes the leader again. -/
def regained : List Move := suspended ++ interregnum ++ steps answer 6 1

end Sample

section
local instance gateNear : NearPrimitives := Sample.nearPrimitives
local instance gateEvm : EvmPrimitives := Sample.evmPrimitives

set_option maxRecDepth 100000 in
theorem gate_fresh_ready :
    ∃ p, (World.after Sample.ready).processes[0]? = some p ∧ p.gates.reconciliation = true ∧
      (∃ e ∈ (World.after Sample.ready).log, e.raises 0 = true) ∧
      (World.after Sample.ready).Fresh 0 := by
  have hrun : World.Always (fun w m => w.overtaken m = false) Sample.ready := by decide +kernel
  have hgates : (World.after Sample.ready).processes[0]?.map (·.gates.reconciliation) = some true := by
    decide +kernel
  obtain ⟨p, hp, hopen⟩ := Option.map_eq_some_iff.mp hgates
  exact ⟨p, hp, hopen, gate_fresh Sample.ready hrun 0 p hp hopen⟩

set_option maxRecDepth 100000 in
/-- The suspended pass opens the gate in the next term: the process can settle, nothing has read the
active rows since it became the leader again, and the transaction of the other leader is in flight. -/
theorem suspended_pass_opens_gate :
    (∃ p, (World.after (Sample.regained ++ [Sample.next 2])).processes[0]? = some p ∧
      p.gates.leadership = true ∧ p.gates.reconciliation = true ∧ p.gates.rpc = true ∧
      p.gates.relayer = true) ∧
    ¬ (World.after (Sample.regained ++ [Sample.next 2])).Fresh 0 ∧
    (World.after (Sample.regained ++ [Sample.next 2])).db.settlements.map (·.state) =
      [.submitted] := by
  have hworld : (World.after (Sample.regained ++ [Sample.next 2])).processes[0]?.map
        (fun p => (p.gates.leadership, p.gates.reconciliation, p.gates.rpc, p.gates.relayer)) =
        some (true, true, true, true) ∧
      (since (LogEntry.raises 0) (World.after (Sample.regained ++ [Sample.next 2])).log).all
        (fun e => !e.event.op.readsActive) = true ∧
      (World.after (Sample.regained ++ [Sample.next 2])).db.settlements.map (·.state) =
        [.submitted] := by
    decide +kernel
  obtain ⟨hgates, hnone, hstates⟩ := hworld
  obtain ⟨p, hp, hgates⟩ := Option.map_eq_some_iff.mp hgates
  simp only [Prod.mk.injEq] at hgates
  exact ⟨⟨p, hp, hgates⟩, not_fresh hnone, hstates⟩

end

end X402Facilitator
