import X402Facilitator.System.Lock
import X402Facilitator.System.Rows

/-!
# Single flight

A process that is alone with the journal has at most one row in flight. The relayer lock orders the
threads that journal signed bytes, and the reconciliation gate carries what they leave behind across
the moments at which nobody holds the lock: the gate is open only while no row is in flight. After a
crash the gates of the new process are closed, so the row that the old one left is reconciled before
the next one takes off.
-/

namespace X402Facilitator

open Program

/-- No row is prepared or submitted. -/
def Db.Landed (db : Db) : Prop :=
  ∀ r ∈ db.settlements, r.state.inFlight = false

/-- The row whose signed bytes the operation journals. -/
def Op.prepared? : Op → Option Uuid
  | store (.markPrepared entry) => some entry.settlementId
  | store (.markPreparedEvm entry) => some entry.settlementId
  | _ => none

theorem not_inFlight_of_isTerminal {s : SettlementState} (h : s.isTerminal = true) :
    s.inFlight = false := by
  cases s <;> first | rfl | cases h

theorem isTerminal_of_landed {s : SettlementState} (hprepared : s.beforePrepare = false)
    (hlanded : s.inFlight = false) : s.isTerminal = true := by
  cases s <;>
    simp_all [SettlementState.beforePrepare, SettlementState.inFlight, SettlementState.isTerminal]

/-! ## What an operation does to the rows in flight -/

/-- A row in flight was in flight before, or has just been prepared. -/
theorem StoreOp.exec_inFlight {op : StoreOp} {now : Nat} {db : Db} {row : Settlement}
    (hrow : row ∈ (op.exec now db).2.settlements) (hflight : row.state.inFlight = true) :
    (∃ r ∈ db.settlements, r.state.inFlight = true ∧ r.id = row.id) ∨
      (Op.store op).prepared? = some row.id := by
  have hcommit := op.exec_cases now db
  generalize (op.exec now db).2 = db' at hcommit hrow
  obtain ⟨h, -, -⟩ | ⟨rfl, h, -, -⟩ | ⟨htarget, h, -, -⟩ := hcommit
  · exact .inl ⟨row, h.settlements ▸ hrow, hflight, rfl⟩
  · rw [h.settlements, List.mem_append, List.mem_singleton] at hrow
    obtain hrow | rfl := hrow
    · exact .inl ⟨row, hrow, hflight, rfl⟩
    · cases hflight
  · rename_i r u
    obtain rfl | ⟨hold, -⟩ := h.mem_cases hrow
    · have hallowed := h.allowed
      cases u with
      | release | resume => cases hflight
      | prepare entry =>
        obtain ⟨rfl, hid⟩ := StoreOp.eq_of_target_prepare htarget
        exact .inr (congrArg some hid)
      | prepareEvm entry =>
        obtain ⟨rfl, hid⟩ := StoreOp.eq_of_target_prepareEvm htarget
        exact .inr (congrArg some hid)
      | submit => exact .inl ⟨r, h.mem, by rw [hallowed]; rfl, rfl⟩
      | terminate entry =>
        cases (not_inFlight_of_isTerminal hallowed.1).symm.trans hflight
      | raise | note => exact .inl ⟨r, h.mem, hflight, rfl⟩
    · exact .inl ⟨row, hold, hflight, rfl⟩

theorem markTerminal_landed {entry : TerminalJournalEntry} {now : Nat} {db : Db} {u : Unit}
    (hreply : ((StoreOp.markTerminal entry).exec now db).1 = .ok u) {row : Settlement}
    (hrow : row ∈ ((StoreOp.markTerminal entry).exec now db).2.settlements)
    (hid : row.id = entry.settlementId) : row.state.inFlight = false := by
  have hrun : ((StoreOp.markTerminal entry).txn now).run db =
    .ok (u, ((StoreOp.markTerminal entry).exec now db).2) := Txn.exec_ok hreply
  generalize ((StoreOp.markTerminal entry).exec now db).2 = db' at hrun hrow
  obtain ⟨r, hr, hrid, h | ⟨hdone, -, -, rfl⟩⟩ := markTerminal_ok hrun
  · obtain rfl | ⟨-, hne⟩ := h.mem_cases hrow
    · exact not_inFlight_of_isTerminal h.allowed.1
    · exact absurd (hid.trans hrid.symm) hne
  · obtain rfl := Db.eq_of_id _ hrow hr (hid.trans hrid.symm)
    exact not_inFlight_of_isTerminal hdone

/-- A terminal result that was acknowledged ends the flight of its row. -/
theorem landed_of_reply {env : Env} {db : Db} {entry : TerminalJournalEntry}
    (hok : (env.fate.reply (.markTerminal entry) env.now db).isOk = true) {row : Settlement}
    (hrow : row ∈ ((Op.store (.markTerminal entry)).commit env db).settlements)
    (hid : row.id = entry.settlementId) : row.state.inFlight = false := by
  simp only [Op.commit] at hrow
  cases hfate : env.fate with
  | replyLost | failed =>
    rw [hfate] at hok
    cases hok
  | replied =>
    rw [hfate] at hok hrow
    cases hreply : ((StoreOp.markTerminal entry).exec env.now db).1 with
    | error e =>
      simp only [Fate.reply, hreply] at hok
      cases hok
    | ok u => exact markTerminal_landed hreply hrow hid

theorem Op.commit_inFlight {env : Env} {db : Db} {o : Op} {row : Settlement}
    (hrow : row ∈ (o.commit env db).settlements) (hflight : row.state.inFlight = true) :
    (∃ r ∈ db.settlements, r.state.inFlight = true ∧ r.id = row.id) ∨
      o.prepared? = some row.id := by
  cases o with
  | store op =>
    simp only [Op.commit] at hrow
    cases hfate : env.fate with
    | replied | replyLost =>
      rw [hfate] at hrow
      exact StoreOp.exec_inFlight hrow hflight
    | failed =>
      rw [hfate] at hrow
      exact .inl ⟨row, hrow, hflight, rfl⟩
  | _ => exact .inl ⟨row, hrow, hflight, rfl⟩

/-! ## Phases and the journal -/

/-- What the phase of the lock holder says about the journal and the reconciliation gate. Nobody
holding the lock counts as `held`: the gate is what is relied on. -/
def Phase.Safe (db : Db) (gates : ReadinessSnapshot) : Phase → Prop
  | free => False
  | held => gates.reconciliation = true → db.Landed
  | clean => db.Landed
  | dirty id => ∀ r ∈ db.settlements, r.state.inFlight = true → r.id = id
  | closed => gates.reconciliation = false

namespace Phase.Safe

variable {ph : Phase} {db db' : Db} {gates gates' : ReadinessSnapshot}

/-- Safety is kept when no row takes off and the gate is not opened. -/
theorem mono (h : ph.Safe db gates)
    (hdb : ∀ row ∈ db'.settlements, row.state.inFlight = true →
      ∃ r ∈ db.settlements, r.state.inFlight = true ∧ r.id = row.id)
    (hgate : gates'.reconciliation = true → gates.reconciliation = true) :
    ph.Safe db' gates' := by
  have hlanded (h : db.Landed) : db'.Landed := by
    intro row hrow
    rw [← Bool.not_eq_true]
    intro hflight
    obtain ⟨r, hr, hflight', -⟩ := hdb row hrow hflight
    rw [h r hr] at hflight'
    cases hflight'
  cases ph with
  | free => exact h
  | held => exact fun hopen => hlanded (h (hgate hopen))
  | clean => exact hlanded h
  | dirty id =>
    intro row hrow hflight
    obtain ⟨r, hr, hflight', hid⟩ := hdb row hrow hflight
    exact hid.symm.trans (h r hr hflight')
  | closed =>
    unfold Safe at h ⊢
    rw [← Bool.not_eq_true] at h ⊢
    exact fun hopen => h (hgate hopen)

/-- The lock can be dropped in every phase but the dirty one. -/
theorem release (h : ph.Safe db gates) (hdirty : ph.isDirty = false) :
    Phase.held.Safe db gates := by
  cases ph with
  | free => exact h.elim
  | held => exact h
  | clean => exact fun _ => h
  | dirty id => cases hdirty
  | closed =>
    intro hopen
    rw [h] at hopen
    cases hopen

end Phase.Safe

section
variable [NearPrimitives] [EvmPrimitives]

theorem FliesAlone.prepared {role : Role} {h : History Op.Answer} {o : Op} {id : Uuid}
    (hflies : FliesAlone role h o) (ho : o.prepared? = some id) :
    phase h = .clean ∧ role.task.settles id := by
  cases o with
  | store op =>
    cases op with
    | markPrepared entry => exact Option.some.inj ho ▸ hflies
    | markPreparedEvm entry => exact Option.some.inj ho ▸ hflies
    | _ => cases ho
  | _ => cases ho

omit [NearPrimitives] [EvmPrimitives] in
/-- A journal that reads as empty has no row in flight. -/
theorem landed_of_nonterminalSettlements {fate : Fate} {now : Nat} {db : Db}
    (h : fate.reply .nonterminalSettlements now db = .ok []) : db.Landed := by
  cases fate with
  | replyLost | failed => cases h
  | replied =>
    have hempty : nonterminalSettlements db = [] := Except.ok.inj h
    intro r hr
    rw [← Bool.not_eq_true]
    intro hflight
    have hmem : r ∈ nonterminalSettlements db := by
      refine mem_nonterminalSettlements.mpr ⟨hr, ?_⟩
      cases hstate : r.state <;> rw [hstate] at hflight <;> first | rfl | cases hflight
    rw [hempty] at hmem
    cases hmem

/-- An operation of the lock holder keeps its phase safe. -/
theorem Phase.Safe.step {role : Role} {h : History Op.Answer} {o : Op} {db : Db} {p : Process}
    (env : Env) (tid : Nat) (hflies : FliesAlone role h o) (hlocks : o.locks = false)
    (hsafe : (phase h).Safe db p.gates) :
    (phase (⟨o, o.answer env db p.gates⟩ :: h)).Safe (o.commit env db) (p.after tid o).gates := by
  have hkeep (ho : o.prepared? = none) : ∀ row ∈ (o.commit env db).settlements,
      row.state.inFlight = true → ∃ r ∈ db.settlements, r.state.inFlight = true ∧ r.id = row.id :=
    fun row hrow hflight => (Op.commit_inFlight hrow hflight).resolve_right (by rw [ho]; simp)
  have htakeoff {id : Uuid} (hclean : phase h = .clean) (ho : o.prepared? = some id) :
      (Phase.dirty id).Safe (o.commit env db) (p.after tid o).gates := by
    intro row hrow hflight
    obtain ⟨r, hr, hflight', -⟩ | hid := Op.commit_inFlight hrow hflight
    · rw [hclean] at hsafe
      cases (hsafe r hr).symm.trans hflight'
    · exact Option.some.inj (hid.symm.trans ho)
  cases o with
  | store op =>
    cases op with
    | nonterminalSettlements =>
      simp only [phase, Phase.next]
      split
      · rename_i hheld hreply
        have hclean : Phase.clean.Safe db p.gates := landed_of_nonterminalSettlements hreply
        exact hclean.mono (hkeep rfl) id
      · exact hsafe.mono (hkeep rfl) id
    | markPrepared entry =>
      simp only [phase, Phase.next, hflies.1, if_true]
      exact htakeoff hflies.1 rfl
    | markPreparedEvm entry =>
      simp only [phase, Phase.next, hflies.1, if_true]
      exact htakeoff hflies.1 rfl
    | markTerminal entry =>
      simp only [phase, Phase.next]
      split
      · rename_i hsettled
        obtain ⟨hdirty, hok⟩ := hsettled
        rw [hdirty] at hsafe
        intro row hrow
        rw [← Bool.not_eq_true]
        intro hflight
        obtain ⟨r, hr, hflight', hid⟩ := hkeep rfl row hrow hflight
        have hlanded := landed_of_reply hok hrow (hid.symm.trans (hsafe r hr hflight'))
        cases hlanded.symm.trans hflight
      · exact hsafe.mono (hkeep rfl) id
    | _ => exact hsafe.mono (hkeep rfl) id
  | loadGate gate =>
    cases gate with
    | reconciliation =>
      simp only [phase, Phase.next]
      split
      · rename_i hopen
        rw [hopen.1] at hsafe
        exact hsafe hopen.2
      · exact hsafe
    | _ => exact hsafe
  | storeGate gate ready =>
    cases gate with
    | reconciliation =>
      cases ready with
      | true =>
        have hclean : phase h = .clean := hflies
        simp only [phase, Phase.next, hclean] at hsafe ⊢
        exact hsafe
      | false =>
        simp only [phase, Phase.next]
        split
        · exact rfl
        · exact hsafe.mono (hkeep rfl) fun hopen => by cases hopen
    | _ => exact hsafe
  | lockRelayer | unlockRelayer => cases hlocks
  | _ => exact hsafe

/-- A thread that does not hold the lock does not open the reconciliation gate. -/
theorem FliesAlone.gate_of_free {role : Role} {h : History Op.Answer} {o : Op} {p : Process}
    {tid : Nat} (hflies : FliesAlone role h o) (hfree : phase h = .free)
    (hopen : (p.after tid o).gates.reconciliation = true) : p.gates.reconciliation = true := by
  cases o with
  | storeGate gate ready =>
    cases gate with
    | reconciliation =>
      cases ready with
      | true => cases hfree.symm.trans hflies
      | false => cases hopen
    | _ => exact hopen
  | unlockRelayer =>
    simp only [Process.after, Process.release] at hopen
    split at hopen <;> exact hopen
  | _ => exact hopen

omit [NearPrimitives] [EvmPrimitives] in
theorem Phase.eq_of_next_dirty {ph : Phase} {e : Event Op.Answer} {id : Uuid}
    (h : ph.next e = .dirty id) : ph = .dirty id ∨ e.op.prepared? = some id := by
  obtain ⟨o, answer⟩ := e
  cases o with
  | store op =>
    cases op with
    | markPrepared entry | markPreparedEvm entry =>
      simp only [Phase.next] at h
      split at h
      · exact .inr (congrArg some (Phase.dirty.inj h))
      · exact .inl h
    | markTerminal entry =>
      simp only [Phase.next] at h
      split at h
      · cases h
      · exact .inl h
    | nonterminalSettlements =>
      simp only [Phase.next] at h
      split at h
      · cases h
      · exact .inl h
    | _ => exact .inl h
  | loadGate gate =>
    cases gate with
    | reconciliation =>
      simp only [Phase.next] at h
      split at h
      · cases h
      · exact .inl h
    | _ => exact .inl h
  | storeGate gate ready =>
    cases gate with
    | reconciliation =>
      simp only [Phase.next] at h
      split at h
      · cases h
      · exact .inl h
    | _ => exact .inl h
  | lockRelayer | unlockRelayer => cases h
  | _ => exact .inl h

omit [NearPrimitives] [EvmPrimitives] in
/-- A worker is never dropped. -/
theorem ServiceTask.settles.cancellable {task : ServiceTask} {id : Uuid} (h : task.settles id) :
    task.cancellable = false := by
  cases task with
  | settlementWorker => rfl
  | _ => exact h.elim

namespace World

/-- Only the worker of a row is ever dirty on it. -/
theorem settles_of_dirty (moves : List Move) : ∀ t ∈ (after moves).threads, ∀ id,
    phase t.past = .dirty id → t.role.task.settles id := by
  induction moves using List.reverseRecOn with
  | nil => simp [after, init, Run.after_nil]
  | append_singleton moves m ih =>
    rw [after_concat]
    intro t' ht' id hdirty
    cases ((after moves).stepped m).threadStep ht' with
    | kept h => exact ih t' h id hdirty
    | new role h =>
      subst h
      cases hdirty
    | stopped t ht h =>
      subst h
      exact ih t ht id hdirty
    | resumed t ht env gates hcall hdb h =>
      subst h
      obtain hdirty | hprepared := Phase.eq_of_next_dirty hdirty
      · exact ih t ht id hdirty
      · have hflies := (follows_after Role.fliesAlone moves t ht).allowed hcall
        exact (hflies.prepared hprepared).2

/-! ## The invariant -/

/-- The move starts no process beside another one. -/
def solo (w : World) : Move → Bool
  | .start .. => w.processes.all fun p => !p.alive
  | _ => true

/-- The phase of the thread that holds the lock of the process. -/
def lockPhase (w : World) (p : Process) : Phase :=
  match p.holder with
  | none => .held
  | some tid =>
    match w.threads[tid]? with
    | none => .free
    | some t => phase t.past

/-- What holds while at most one process is alive at a time. -/
structure Alone (w : World) : Prop where
  single : ∀ {pid pid' : Nat} {p p' : Process}, w.processes[pid]? = some p →
    w.processes[pid']? = some p' → p.alive = true → p'.alive = true → pid = pid'
  one : ∀ r ∈ w.db.settlements, ∀ r' ∈ w.db.settlements, r.state.inFlight = true →
    r'.state.inFlight = true → r.id = r'.id
  safe : ∀ {pid : Nat} {p : Process}, w.processes[pid]? = some p → p.alive = true →
    (w.lockPhase p).Safe w.db p.gates

namespace Alone

variable {w : World}

theorem init : World.init.Alone where
  single h := by simp [World.init] at h
  one := by simp [World.init, Db.empty]
  safe h := by simp [World.init] at h

/-- A thread that is about to act and is not free holds the lock, and is safe. -/
theorem safe_of_call (h : w.Alone) (hexclusive : w.Exclusive) {tid : Nat} {t : Thread} {p : Process} {o : Op}
    {next : o.Answer → Service Unit} (ht : w.threads[tid]? = some t)
    (hp : w.processes[t.role.process]? = some p) (halive : p.alive = true)
    (hcall : t.program = .call o next) (hphase : phase t.past ≠ .free) :
    p.holder = some tid ∧ (phase t.past).Safe w.db p.gates := by
  have hholder := hexclusive.holder ht hcall hp hphase
  have hsafe := h.safe hp halive
  simp only [lockPhase, hholder, ht] at hsafe
  exact ⟨hholder, hsafe⟩

/-- The process stays safe when its lock holder is where it was. -/
theorem safe_of_threads (h : w.Alone) {w' : World} {pid : Nat} {p : Process}
    (hp : w.processes[pid]? = some p) (halive : p.alive = true)
    (hthreads : ∀ (tid : Nat) (t : Thread), p.holder = some tid → w.threads[tid]? = some t →
      ∃ t' : Thread, w'.threads[tid]? = some t' ∧ t'.past = t.past) :
    (w'.lockPhase p).Safe w.db p.gates := by
  have hsafe := h.safe hp halive
  unfold lockPhase at hsafe ⊢
  cases hholder : p.holder with
  | none => simpa only [hholder] using hsafe
  | some tid =>
    cases ht : w.threads[tid]? with
    | none =>
      simp only [hholder, ht] at hsafe
      exact hsafe.elim
    | some t =>
      obtain ⟨t', ht', hpast⟩ := hthreads tid t hholder ht
      simpa only [hholder, ht, ht', hpast] using hsafe

theorem clientCreated (h : w.Alone) (id : Uuid) :
    Alone { w with db := ((StoreOp.createClient id).exec 0 w.db).2 } := by
  have hkeep : ∀ row ∈ ((StoreOp.createClient id).exec 0 w.db).2.settlements,
      row.state.inFlight = true →
        ∃ r ∈ w.db.settlements, r.state.inFlight = true ∧ r.id = row.id :=
    fun row hrow hflight => (StoreOp.exec_inFlight hrow hflight).resolve_right nofun
  refine { h with one := ?_, safe := ?_ }
  · intro r hr r' hr' hflight hflight'
    obtain ⟨s, hs, hsflight, hsid⟩ := hkeep r hr hflight
    obtain ⟨s', hs', hsflight', hsid'⟩ := hkeep r' hr' hflight'
    exact hsid.symm.trans ((h.one s hs s' hs' hsflight hsflight').trans hsid')
  · exact fun hp halive => (h.safe hp halive).mono hkeep fun hopen => hopen

theorem launch (h : w.Alone) (role : Role) : (w.launch role).Alone := by
  refine { h with safe := fun hp halive => ?_ }
  refine h.safe_of_threads hp halive fun tid t _ ht => ⟨t, ?_, rfl⟩
  exact (List.getElem?_append_left (List.getElem?_eq_some_iff.mp ht).1).trans ht

/-- A process is started while no other is alive. Its gates are closed. -/
theorem started (h : w.Alone) (hsolo : ∀ p ∈ w.processes, p.alive = false) (state : AppState)
    (command : Bool) (fuel : Nat) : (w.startProcess state command fuel).Alone := by
  have hget {i : Nat} {p : Process} (halive : p.alive = true)
      (hi : (w.processes ++ [Process.start state (!command)])[i]? = some p) :
      i = w.processes.length ∧ p = Process.start state (!command) := by
    obtain hlt | hge := Nat.lt_or_ge i w.processes.length
    · rw [List.getElem?_append_left hlt] at hi
      rw [hsolo p (List.mem_of_getElem? hi)] at halive
      cases halive
    · rw [List.getElem?_append_right hge] at hi
      obtain ⟨hlt, hp⟩ := List.getElem?_eq_some_iff.mp hi
      simp only [List.length_singleton, Nat.lt_one_iff] at hlt
      simp only [List.getElem_singleton] at hp
      exact ⟨by omega, hp.symm⟩
  refine launch (w := { w with processes := w.processes ++ [Process.start state (!command)] })
    { one := h.one, single := ?_, safe := ?_ } _
  · intro pid pid' p p' hp hp' halive halive'
    rw [(hget halive hp).1, (hget halive' hp').1]
  · intro pid p hp halive
    rw [(hget halive hp).2]
    exact fun hopen => by cases hopen

theorem crashed (h : w.Alone) {pid : Nat} {p : Process} (hp : w.processes[pid]? = some p) :
    Alone { w with processes := w.processes.set pid { p with alive := false } } := by
  have hget {i : Nat} {q : Process} (halive : q.alive = true)
      (hi : (w.processes.set pid { p with alive := false })[i]? = some q) :
      w.processes[i]? = some q := by
    obtain ⟨-, rfl⟩ | ⟨-, hi⟩ := Pool.getElem?_set_cases (List.getElem?_eq_some_iff.mp hp).1 hi
    · cases halive
    · exact hi
  refine { one := h.one, single := ?_, safe := ?_ }
  · exact fun hp hp' halive halive' =>
      h.single (hget halive hp) (hget halive' hp') halive halive'
  · exact fun hp halive => h.safe (hget halive hp) halive

/-- A task that can be dropped is no worker, so it is not dirty when it is dropped. -/
theorem cancelled (h : w.Alone) {tid : Nat} {t : Thread} {p : Process}
    (ht : w.threads[tid]? = some t) (hp : w.processes[t.role.process]? = some p)
    (hdirty : (phase t.past).isDirty = false) :
    Alone { w with
      threads := w.threads.set tid t.stop
      processes := w.processes.set t.role.process (p.release tid) } := by
  have hlt := (List.getElem?_eq_some_iff.mp ht).1
  have hplt := (List.getElem?_eq_some_iff.mp hp).1
  have hthreads (i : Nat) (s : Thread) (hs : w.threads[i]? = some s) :
      ∃ s' : Thread, (w.threads.set tid t.stop)[i]? = some s' ∧ s'.past = s.past := by
    obtain rfl | hne := eq_or_ne i tid
    · rw [ht] at hs
      exact ⟨t.stop, List.getElem?_set_self hlt, Option.some.inj hs ▸ rfl⟩
    · exact ⟨s, (List.getElem?_set_ne hne.symm).trans hs, rfl⟩
  have hold {i : Nat} {q : Process} (halive : q.alive = true)
      (hq : (w.processes.set t.role.process (p.release tid))[i]? = some q) :
      ∃ q', w.processes[i]? = some q' ∧ q'.alive = true := by
    obtain ⟨rfl, rfl⟩ | ⟨-, hq⟩ := Pool.getElem?_set_cases hplt hq
    · exact ⟨p, hp, p.release_alive tid ▸ halive⟩
    · exact ⟨q, hq, halive⟩
  refine { one := h.one, single := ?_, safe := ?_ }
  · intro pid pid' q q' hq hq' halive halive'
    obtain ⟨s, hs, hsalive⟩ := hold halive hq
    obtain ⟨s', hs', hsalive'⟩ := hold halive' hq'
    exact h.single hs hs' hsalive hsalive'
  · intro pid q hq halive
    obtain ⟨rfl, rfl⟩ | ⟨-, hq⟩ := Pool.getElem?_set_cases hplt hq
    · rw [p.release_alive] at halive
      by_cases hholder : p.holder = some tid
      · have hsafe := h.safe hp halive
        simp only [lockPhase, hholder, ht] at hsafe
        simp only [Process.release, hholder, if_true, lockPhase]
        exact hsafe.release hdirty
      · simp only [Process.release, hholder, if_false]
        exact h.safe_of_threads hp halive fun i s _ => hthreads i s
    · exact h.safe_of_threads hq halive fun i s _ => hthreads i s

section
variable {tid : Nat} {t : Thread} {p : Process} {o : Op} {next : o.Answer → Service Unit}

/-- A thread that is about to act without holding the lock is free. -/
theorem free_of_holder (hexclusive : w.Exclusive) (ht : w.threads[tid]? = some t)
    (hp : w.processes[t.role.process]? = some p)
    (hcall : t.program = .call o next) (hholder : p.holder ≠ some tid) : phase t.past = .free := by
  by_contra hphase
  exact hholder (hexclusive.holder ht hcall hp hphase)

/-- An operation takes off only where nothing is in flight. -/
theorem performed_one (h : w.Alone) (hexclusive : w.Exclusive) (env : Env) (ht : w.threads[tid]? = some t)
    (hp : w.processes[t.role.process]? = some p) (halive : p.alive = true)
    (hcall : t.program = .call o next) (hflies : FliesAlone t.role t.past o) :
    ∀ r ∈ (o.commit env w.db).settlements, ∀ r' ∈ (o.commit env w.db).settlements,
      r.state.inFlight = true → r'.state.inFlight = true → r.id = r'.id := by
  intro r hr r' hr' hflight hflight'
  cases hprepared : o.prepared? with
  | none =>
    have hkeep {row : Settlement} (hrow : row ∈ (o.commit env w.db).settlements)
        (hflight : row.state.inFlight = true) :=
      (Op.commit_inFlight hrow hflight).resolve_right (by rw [hprepared]; nofun)
    obtain ⟨s, hs, hsflight, hsid⟩ := hkeep hr hflight
    obtain ⟨s', hs', hsflight', hsid'⟩ := hkeep hr' hflight'
    exact hsid.symm.trans ((h.one s hs s' hs' hsflight hsflight').trans hsid')
  | some id =>
    have hclean := (hflies.prepared hprepared).1
    have hsafe := (h.safe_of_call hexclusive ht hp halive hcall (by rw [hclean]; nofun)).2
    rw [hclean] at hsafe
    have hid {row : Settlement} (hrow : row ∈ (o.commit env w.db).settlements)
        (hflight : row.state.inFlight = true) : row.id = id := by
      obtain ⟨s, hs, hsflight, -⟩ | hid := Op.commit_inFlight hrow hflight
      · cases (hsafe s hs).symm.trans hsflight
      · exact Option.some.inj (hid.symm.trans hprepared)
    exact (hid hr hflight).trans (hid hr' hflight').symm

theorem performed_safe (h : w.Alone) (hexclusive : w.Exclusive) (env : Env) (ht : w.threads[tid]? = some t)
    (hp : w.processes[t.role.process]? = some p) (hcall : t.program = .call o next)
    (hpermits : p.permits o = true) (hflies : FliesAlone t.role t.past o) :
    ((w.perform tid t p env o next).lockPhase (p.after tid o)).Safe (o.commit env w.db)
      (p.after tid o).gates := by
  have halive := Process.alive_of_permits hpermits
  have hself : (w.perform tid t p env o next).threads[tid]? =
    some (t.resume o next (o.answer env w.db p.gates)) := perform_thread_self ht
  have hsafe := h.safe hp halive
  by_cases hholder : p.holder = some tid
  · simp only [lockPhase, hholder, ht] at hsafe
    cases hlocks : o.locks with
    | false =>
      simp only [lockPhase, (Process.after_holder hlocks).trans hholder, hself]
      exact Phase.Safe.step env tid hflies hlocks hsafe
    | true =>
      cases o with
      | lockRelayer => cases (Process.holder_of_permits hpermits).symm.trans hholder
      | unlockRelayer =>
        simp only [Process.after, Process.release, hholder, if_true, lockPhase]
        exact hsafe.release hflies
      | _ => cases hlocks
  · have hfree := free_of_holder hexclusive ht hp hcall hholder
    by_cases hlock : o = .lockRelayer
    · subst hlock
      simp only [lockPhase, Process.holder_of_permits hpermits] at hsafe
      simp only [lockPhase, Process.after, hself]
      exact hsafe
    · have hkept : ((w.perform tid t p env o next).lockPhase p).Safe w.db p.gates :=
        h.safe_of_threads hp halive fun i s hi hs =>
          ⟨s, perform_thread_of_ne hs (fun heq => hholder (heq ▸ hi)), rfl⟩
      have hphase : (w.perform tid t p env o next).lockPhase (p.after tid o) =
          (w.perform tid t p env o next).lockPhase p := by
        unfold lockPhase
        rw [Process.after_holder_of_ne hlock hholder]
      rw [hphase]
      refine hkept.mono (fun row hrow hflight => ?_) (hflies.gate_of_free hfree)
      refine (Op.commit_inFlight hrow hflight).resolve_right fun hprepared => ?_
      cases hfree.symm.trans (hflies.prepared hprepared).1

theorem performed (h : w.Alone) (hexclusive : w.Exclusive) (env : Env) (ht : w.threads[tid]? = some t)
    (hp : w.processes[t.role.process]? = some p) (hcall : t.program = .call o next)
    (hpermits : p.permits o = true) (hflies : FliesAlone t.role t.past o) :
    (w.perform tid t p env o next).Alone := by
  have hplt := (List.getElem?_eq_some_iff.mp hp).1
  have halive := Process.alive_of_permits hpermits
  have hprocess {i : Nat} {q : Process} (hq : (w.perform tid t p env o next).processes[i]? = some q)
      (hqalive : q.alive = true) : i = t.role.process ∧ q = p.after tid o := by
    obtain hi | ⟨hne, hi⟩ := Pool.getElem?_set_cases hplt hq
    · exact hi
    · exact absurd (h.single hi hp hqalive halive) hne
  refine { single := ?_, safe := ?_, one := h.performed_one hexclusive env ht hp halive hcall hflies }
  · intro pid pid' q q' hq hq' hqalive hqalive'
    rw [(hprocess hq hqalive).1, (hprocess hq' hqalive').1]
  · intro pid q hq hqalive
    obtain ⟨rfl, rfl⟩ := hprocess hq hqalive
    exact h.performed_safe hexclusive env ht hp hcall hpermits hflies

end

end Alone

/-- In a run of one process at a time, the invariant holds in every state. -/
theorem alone_after {moves : List Move} (hrun : Always (fun w m => w.solo m = true) moves) :
    (after moves).Alone := by
  induction moves using List.reverseRecOn with
  | nil => exact Alone.init
  | append_singleton moves m ih =>
    obtain ⟨hbefore, hsolo⟩ := hrun.concat
    have h := ih hbefore
    have hexclusive := exclusive_after moves
    have hflies := follows_after Role.fliesAlone moves
    have hdirty := settles_of_dirty moves
    have hstep := (after moves).stepped m
    rw [after_concat]
    generalize after moves = w at h hexclusive hflies hdirty hstep hsolo
    generalize w.step m = w' at hstep
    cases hstep with
    | idle => exact h
    | clientCreated id => exact h.clientCreated id
    | started hstate command fuel =>
      refine h.started (fun p hp => ?_) _ command fuel
      simpa using List.all_eq_true.mp hsolo p hp
    | crashed hp => exact h.crashed hp
    | requested => exact h.launch _
    | cancelled ht hp htask =>
      rename_i tid t p
      refine h.cancelled ht hp ?_
      cases hphase : phase t.past with
      | dirty id =>
        cases htask.symm.trans (hdirty t (List.mem_of_getElem? ht) id hphase).cancellable
      | _ => rfl
    | performed env ht hp hcall hpermits =>
      exact h.performed hexclusive env ht hp hcall hpermits
        ((hflies _ (List.mem_of_getElem? ht)).allowed hcall)

end World

/-! ## Rows with signed bytes -/

/-- The row holds a signed transaction. -/
def Settlement.Signed (r : Settlement) : Prop :=
  r.outerTransactionBytes.isSome ∨ r.submittedTxRlp.isSome

omit [NearPrimitives] [EvmPrimitives] in
/-- A statement whose update is not allowed on the row leaves it as it is. -/
theorem StoreOp.exec_keeps {op : StoreOp} {db : Db} {r : Settlement} (hr : r ∈ db.settlements)
    (hop : ∀ u, op.target = some (r.id, u) → ¬ u.Allowed r) (now : Nat) :
    r ∈ (op.exec now db).2.settlements := by
  have hcommit := op.exec_cases now db
  generalize (op.exec now db).2 = db' at hcommit
  obtain ⟨h, -, -⟩ | ⟨-, h, -, -⟩ | ⟨htarget, h, -, -⟩ := hcommit
  · rwa [h.settlements]
  · rw [h.settlements]
    exact List.mem_append_left _ hr
  · refine h.mem_of_ne hr ?_
    rintro rfl
    exact hop _ htarget h.allowed

omit [NearPrimitives] [EvmPrimitives] in
theorem Settlement.Signed.not_beforePrepare {db : Db} (hdb : db.Audited) {r : Settlement}
    (hr : r ∈ db.settlements) (hsigned : r.Signed) : r.state.beforePrepare = false := by
  rw [← Bool.not_eq_true]
  intro hbefore
  obtain ⟨-, -, -, hbytes, -, -, hrlp, -⟩ := (hdb.rows r hr).unsubmitted hbefore
  simp [Signed, hbytes, hrlp] at hsigned

/-- What a worker does to its row before it has prepared anything. -/
def StoreOp.isFailureHandling : StoreOp → Bool
  | markTerminal _ | markAwaitingRetry .. => true
  | _ => false

/-- Single flight. In every state of a run with one process at a time, restarts and failures included:

* at most one row is prepared or submitted;
* while a worker that has taken the relayer lock and passed its first `can_settle` has journaled
  nothing, no row is;
* what such a worker writes to fail or release its row leaves every row with signed bytes as it is. -/
theorem single_flight (moves : List Move)
    (hrun : World.Always (fun w m => w.solo m = true) moves) :
    (∀ r ∈ (World.after moves).db.settlements, ∀ r' ∈ (World.after moves).db.settlements,
      r.state.inFlight = true → r'.state.inFlight = true → r = r') ∧
    (∀ (tid : Nat) (t : Thread) (p : Process), (World.after moves).threads[tid]? = some t →
      (World.after moves).processes[t.role.process]? = some p → p.alive = true →
      p.holder = some tid → t.role.task.isWorker = true →
      (∀ gate, ⟨.loadGate gate, true⟩ ∈ session t.past) → NothingPrepared (session t.past) →
      ∀ r ∈ (World.after moves).db.settlements, r.state.inFlight = false) ∧
    ∀ (m : Move) (t : Thread) (op : StoreOp),
      (World.after moves).issued? m = some (t, .store op) → t.role.task.isWorker = true →
      NothingPrepared (session t.past) → op.isFailureHandling = true →
      ∀ r ∈ (World.after moves).db.settlements, r.Signed →
        r ∈ (World.after (moves ++ [m])).db.settlements := by
  have halone := World.alone_after hrun
  refine ⟨?_, ?_, ?_⟩
  · intro r hr r' hr' hflight hflight'
    exact Db.eq_of_id _ hr hr' (halone.one r hr r' hr' hflight hflight')
  · intro tid t p ht hp halive hholder hworker hgates hnothing
    have hsafe := halone.safe hp halive
    simp only [World.lockPhase, hholder, ht] at hsafe
    obtain hfree | hclean | ⟨-, hnot⟩ := phase_of_nothingPrepared hnothing
    · rw [hfree] at hsafe
      exact hsafe.elim
    · rw [hclean] at hsafe
      exact hsafe
    · exact (hnot (.inr (hgates .reconciliation))).elim
  · intro m t op hissued hworker hnothing hop r hr hsigned
    obtain ⟨tid, env, p, next, rfl, ht, hp, hcall, hpermits⟩ := World.exists_of_issued? hissued
    have hprepared := hsigned.not_beforePrepare (World.audited_after moves) hr
    have hkeeps : r ∈ (op.exec env.now (World.after moves).db).2.settlements := by
      refine StoreOp.exec_keeps hr (fun u htarget hallowed => ?_) env.now
      cases op with
      | markTerminal entry =>
        obtain rfl := (Prod.mk.inj (Option.some.inj htarget)).2
        have hflies := (World.follows_after Role.fliesAlone moves t (List.mem_of_getElem? ht)).allowed
          hcall
        have hclean : phase t.past = .clean := hflies hworker hnothing
        have hsafe := (halone.safe_of_call (World.exclusive_after moves) ht hp
          (Process.alive_of_permits hpermits) hcall (by rw [hclean]; nofun)).2
        rw [hclean] at hsafe
        have hlive := not_isTerminal_of_transitionAllowed hallowed.2.1
        cases hlive.symm.trans (isTerminal_of_landed hprepared (hsafe r hr))
      | markAwaitingRetry id code =>
        obtain rfl := (Prod.mk.inj (Option.some.inj htarget)).2
        rw [hallowed.2] at hprepared
        cases hprepared
      | _ => cases hop
    rw [World.after_concat, World.step_of_call env ht hp hcall hpermits]
    simp only [World.perform, Op.commit]
    cases hfate : env.fate with
    | replied | replyLost => exact hkeeps
    | failed => exact hr

end

namespace Sample

/-- The worker of the row, thread 5, has taken the lock and found all gates open. -/
def passed : List Move := claimed ++ steps answer 5 5

/-- The worker has sent its transaction when the process crashes; a second one is started. -/
def restarted : List Move := claimed ++ steps answer 33 5 ++ [.crash 0, .start config [] false 5]

end Sample

section
local instance flightNear : NearPrimitives := Sample.nearPrimitives
local instance flightEvm : EvmPrimitives := Sample.evmPrimitives

set_option maxRecDepth 100000 in
theorem single_flight_restarted :
    World.Always (fun w m => w.solo m = true) Sample.restarted ∧
      ∃ r ∈ (World.after Sample.restarted).db.settlements, r.state = .submitted ∧
        ∀ r' ∈ (World.after Sample.restarted).db.settlements, r'.state.inFlight = true → r = r' := by
  have hrun : World.Always (fun w m => w.solo m = true) Sample.restarted := by decide +kernel
  have hstates : (World.after Sample.restarted).db.settlements.map (·.state) = [.submitted] := by
    decide +kernel
  obtain ⟨r, hr, hstate⟩ := List.mem_map.mp (hstates ▸ List.mem_singleton_self _)
  refine ⟨hrun, r, hr, hstate, fun r' hr' hflight => ?_⟩
  exact (single_flight Sample.restarted hrun).1 r hr r' hr' (by rw [hstate]; rfl) hflight

set_option maxRecDepth 100000 in
example : (World.after Sample.passed).processes.map (·.holder) = [some 5] ∧
    (World.after Sample.passed).threads[5]?.any (fun t => t.role.task.isWorker &&
      (session t.past).all (fun e => !e.op.prepares) && (session t.past).length == 4) = true := by
  decide +kernel

end

end X402Facilitator
