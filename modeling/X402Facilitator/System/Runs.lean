import X402Facilitator.Store.Lifecycle
import X402Facilitator.System.World

/-!
# Runs of the system

What one move can do to the database, the processes and the threads, and the two facts that every
argument about runs starts from: the database of a run is one that store calls alone could have
produced, and every thread follows whatever guarantee its program obeys.
-/

namespace X402Facilitator

open Program

section
variable [NearPrimitives] [EvmPrimitives]

namespace Process

variable {p : Process} {o : Op}

theorem alive_of_permits (h : p.permits o = true) : p.alive = true := by
  cases o with
  | lockRelayer => exact (Bool.and_eq_true_iff.mp h).1
  | _ => exact h

theorem holder_of_permits (h : p.permits .lockRelayer = true) : p.holder = none :=
  Option.isNone_iff_eq_none.mp (Bool.and_eq_true_iff.mp h).2

@[simp]
theorem release_alive (tid : Nat) : (p.release tid).alive = p.alive := by
  unfold release
  split <;> rfl

@[simp]
theorem release_state (tid : Nat) : (p.release tid).state = p.state := by
  unfold release
  split <;> rfl

@[simp]
theorem after_alive (tid : Nat) : (p.after tid o).alive = p.alive := by
  cases o <;> first | rfl | exact release_alive tid

@[simp]
theorem after_state (tid : Nat) : (p.after tid o).state = p.state := by
  cases o <;> first | rfl | exact release_state tid

end Process

end

/-- A statement that is answered with success has committed. -/
theorem Fate.exec_of_reply {fate : Fate} {op : StoreOp} {now : Nat} {db : Db} {reply : op.Reply}
    (h : fate.reply op now db = .ok reply) :
    (op.exec now db).1 = .ok reply ∧ fate.commit op now db = (op.exec now db).2 := by
  cases fate with
  | replied => exact ⟨h, rfl⟩
  | replyLost | failed => cases h

namespace World

variable [NearPrimitives] [EvmPrimitives]

/-- What a move makes of the system. -/
inductive Stepped (w : World) : Move → World → Prop
  | idle (m : Move) : Stepped w m w
  | clientCreated (id : Uuid) :
      Stepped w (.createClient id) { w with db := ((StoreOp.createClient id).exec 0 w.db).2 }
  | started {config : ServiceConfig} {relayerKey : Bytes} {state : AppState}
      (hstate : AppState.new? config relayerKey = some state) (command : Bool) (fuel : Nat) :
      Stepped w (.start config relayerKey command fuel) (w.startProcess state command fuel)
  | crashed {pid : Nat} {p : Process} (hp : w.processes[pid]? = some p) :
      Stepped w (.crash pid) { w with processes := w.processes.set pid { p with alive := false } }
  | requested {pid : Nat} {p : Process} (hp : w.processes[pid]? = some p) (halive : p.alive = true)
      (fuel : Nat) : Stepped w (.request pid fuel) (w.launch ⟨pid, p.state, .settle fuel⟩)
  | cancelled {tid : Nat} {t : Thread} {p : Process} (ht : w.threads[tid]? = some t)
      (hp : w.processes[t.role.process]? = some p) (htask : t.role.task.cancellable = true) :
      Stepped w (.cancel tid) { w with
        threads := w.threads.set tid t.stop
        processes := w.processes.set t.role.process (p.release tid) }
  | performed {tid : Nat} {t : Thread} {p : Process} {o : Op} {next : o.Answer → Service Unit}
      (env : Env) (ht : w.threads[tid]? = some t) (hp : w.processes[t.role.process]? = some p)
      (hcall : t.program = .call o next) (hpermits : p.permits o = true) :
      Stepped w (.step tid env) (w.perform tid t p env o next)

theorem stepped (w : World) (m : Move) : w.Stepped m (w.step m) := by
  cases m with
  | createClient id => exact .clientCreated id
  | start config relayerKey command fuel =>
    simp only [step]
    split
    · exact .started ‹_› command fuel
    · exact .idle _
  | crash pid =>
    simp only [step]
    split
    · exact .crashed ‹_›
    · exact .idle _
  | request pid fuel =>
    simp only [step]
    split
    · rename_i p hp
      split
      · rename_i h
        exact .requested hp (Bool.and_eq_true_iff.mp h).1 fuel
      · exact .idle _
    · exact .idle _
  | cancel tid =>
    simp only [step]
    split
    · exact .idle _
    · rename_i t ht
      split
      · exact .idle _
      · rename_i p hp
        split
        · exact .cancelled ht hp ‹_›
        · exact .idle _
  | step tid env =>
    simp only [step, advance]
    split
    · exact .idle _
    · rename_i t ht
      split
      · rename_i p o next hp hcall
        split
        · exact .performed env ht hp hcall ‹_›
        · exact .idle _
      · exact .idle _

/-- The thread and the operation that a move lets it issue. -/
def issued? (w : World) : Move → Option (Thread × Op)
  | .step tid _ =>
    match w.threads[tid]? with
    | none => none
    | some t =>
      match w.processes[t.role.process]?, t.program with
      | some p, .call o _ => if p.permits o then some (t, o) else none
      | _, _ => none
  | _ => none

theorem exists_of_issued? {w : World} {m : Move} {t : Thread} {o : Op}
    (h : w.issued? m = some (t, o)) : ∃ tid env p next, m = .step tid env ∧
      w.threads[tid]? = some t ∧ w.processes[t.role.process]? = some p ∧
      t.program = .call o next ∧ p.permits o = true := by
  cases m with
  | step tid env =>
    simp only [issued?] at h
    split at h
    · cases h
    · rename_i t' ht
      split at h
      · rename_i p o' next hp hcall
        split at h
        · rename_i hpermits
          obtain ⟨rfl, rfl⟩ := Prod.mk.inj (Option.some.inj h)
          exact ⟨tid, env, p, next, rfl, ht, hp, hcall, hpermits⟩
        · cases h
      · cases h
  | _ => cases h

theorem issued?_eq_some {w : World} {m : Move} {t : Thread} {o : Op}
    (h : w.issued? m = some (t, o)) : t ∈ w.threads ∧ ∃ next, t.program = .call o next := by
  obtain ⟨tid, env, p, next, -, ht, -, hcall, -⟩ := exists_of_issued? h
  exact ⟨List.mem_of_getElem? ht, next, hcall⟩

/-- A move that issues an operation performs it. -/
theorem step_of_call {w : World} {tid : Nat} {t : Thread} {p : Process} {o : Op}
    {next : o.Answer → Service Unit} (env : Env) (ht : w.threads[tid]? = some t)
    (hp : w.processes[t.role.process]? = some p) (hcall : t.program = .call o next)
    (hpermits : p.permits o = true) : w.step (.step tid env) = w.perform tid t p env o next := by
  simp [step, advance, ht, hp, hcall, hpermits]

/-- The operation of a performed move is the one it issues. -/
theorem issued?_of_call {w : World} {tid : Nat} {t : Thread} {p : Process} {o : Op}
    {next : o.Answer → Service Unit} (env : Env) (ht : w.threads[tid]? = some t)
    (hp : w.processes[t.role.process]? = some p) (hcall : t.program = .call o next)
    (hpermits : p.permits o = true) : w.issued? (.step tid env) = some (t, o) := by
  simp [issued?, ht, hp, hcall, hpermits]

theorem after_concat (moves : List Move) (m : Move) :
    after (moves ++ [m]) = (after moves).step m :=
  Run.after_concat moves m

theorem Always.at {P : World → Move → Prop} {before rest : List Move} {m : Move}
    (h : Always P (before ++ m :: rest)) : P (after before) m :=
  (Run.always_append.mp h).2.1

theorem Always.concat {P : World → Move → Prop} {moves : List Move} {m : Move}
    (h : Always P (moves ++ [m])) : Always P moves ∧ P (after moves) m :=
  ⟨(Run.always_append.mp h).1, h.at⟩

/-- A property of the initial system that every move keeps holds after every run. -/
theorem invariant {P : World → Prop} (hinit : P init)
    (hstep : ∀ w m w', w.Stepped m w' → P w → P w') (moves : List Move) : P (after moves) :=
  Run.invariant hinit (fun w m h => hstep w m _ (w.stepped m) h) moves

/-- What holds at one moment of a run and is kept by every move holds from then on. -/
theorem invariant_from {P : World → Prop} (hstep : ∀ w m w', w.Stepped m w' → P w → P w')
    {moves : List Move} (h : P (after moves)) (more : List Move) : P (after (moves ++ more)) := by
  unfold after
  rw [Run.after_append]
  exact Run.invariant h (fun w m hw => hstep w m _ (w.stepped m) hw) more

/-! ## The database -/

/-- The database is left alone, or one statement commits on it. -/
theorem Stepped.db {w w' : World} {m : Move} (h : w.Stepped m w') :
    w'.db = w.db ∨ ∃ call : StoreCall, w'.db = w.db.call call := by
  cases h with
  | clientCreated id => exact .inr ⟨⟨.createClient id, 0⟩, rfl⟩
  | performed env ht hp hcall hpermits =>
    rename_i o next
    cases o with
    | store op =>
      cases hfate : env.fate with
      | replied | replyLost =>
        exact .inr ⟨⟨op, env.now⟩, by simp [perform, Op.commit, hfate, Fate.commit, Db.call]⟩
      | failed => exact .inl (by simp [perform, Op.commit, hfate, Fate.commit])
    | _ => exact .inl rfl
  | _ => exact .inl rfl

/-- The database of a run is one that a sequence of store calls produces. -/
theorem exists_calls (moves : List Move) : ∃ calls, (after moves).db = Db.after calls := by
  refine invariant (P := fun w => ∃ calls, w.db = Db.after calls) ⟨[], rfl⟩ ?_ moves
  rintro w m w' hstep ⟨calls, hcalls⟩
  obtain hdb | ⟨call, hdb⟩ := hstep.db
  · exact ⟨calls, hdb.trans hcalls⟩
  · exact ⟨calls ++ [call], by rw [hdb, hcalls, Db.after, Db.after, Run.after_concat]⟩

/-- Where a row of the journal comes from: it was there, it was claimed, or an update made it. -/
inductive RowStep (w : World) (m : Move) (w' : World) (row : Settlement) : Prop
  | kept (h : row ∈ w.db.settlements)
  | claimed {t : Thread} {new : NewSettlement} {usageDate : Day} (now : Nat)
      (hissued : w.issued? m = some (t, .store (.claimReservation new usageDate)))
      (hclaimed : Claimed w.db w'.db new usageDate now) (h : row = new.row usageDate now)
  | updated {t : Thread} {op : StoreOp} {r : Settlement} {u : RowUpdate}
      (hissued : w.issued? m = some (t, .store op)) (htarget : op.target = some (r.id, u))
      (hupdated : Updated w.db w'.db r u) (h : row = u.apply r)

/-- A committed statement accounts for every row it leaves. -/
theorem rowStep_of_exec {w w' : World} {m : Move} {t : Thread} {op : StoreOp} (now : Nat)
    (hissued : w.issued? m = some (t, .store op)) (hdb : w'.db = (op.exec now w.db).2)
    {row : Settlement} (hrow : row ∈ w'.db.settlements) : w.RowStep m w' row := by
  have hcommit := op.exec_cases now w.db
  rw [← hdb] at hcommit
  obtain ⟨h, -, -⟩ | ⟨rfl, h, -, -⟩ | ⟨htarget, h, -, -⟩ := hcommit
  · exact .kept (h.settlements ▸ hrow)
  · rw [h.settlements, List.mem_append, List.mem_singleton] at hrow
    obtain hrow | hrow := hrow
    · exact .kept hrow
    · exact .claimed now hissued h hrow
  · obtain rfl | ⟨hold, -⟩ := h.mem_cases hrow
    · exact .updated hissued htarget h rfl
    · exact .kept hold

theorem Stepped.rowStep {w w' : World} {m : Move} (h : w.Stepped m w') {row : Settlement}
    (hrow : row ∈ w'.db.settlements) : w.RowStep m w' row := by
  cases h with
  | clientCreated id =>
    obtain ⟨h, -, -⟩ | ⟨hop, -⟩ | ⟨hop, -⟩ := (StoreOp.createClient id).exec_cases 0 w.db
    · exact .kept (h.settlements ▸ hrow)
    · cases hop
    · cases hop
  | performed env ht hp hcall hpermits =>
    have hissued := issued?_of_call env ht hp hcall hpermits
    rename_i o next
    cases o with
    | store op =>
      cases hfate : env.fate with
      | replied | replyLost =>
        refine rowStep_of_exec env.now hissued ?_ hrow
        simp only [perform, Op.commit, hfate, Fate.commit]
      | failed => exact .kept (by simpa [perform, Op.commit, hfate, Fate.commit] using hrow)
    | _ => exact .kept hrow
  | _ => exact .kept hrow

theorem audited_after (moves : List Move) : (after moves).db.Audited := by
  obtain ⟨calls, hcalls⟩ := exists_calls moves
  exact hcalls ▸ Db.audited_after calls

theorem Stepped.db_evolves {w w' : World} {m : Move} (h : w.Stepped m w') :
    w.db.Evolves w'.db := by
  obtain hdb | ⟨call, hdb⟩ := h.db
  · exact hdb ▸ .refl _
  · exact hdb ▸ call.op.exec_evolves call.now w.db

theorem db_evolves (moves more : List Move) :
    (after moves).db.Evolves (after (moves ++ more)).db :=
  invariant_from (P := fun w => (after moves).db.Evolves w.db)
    (fun _ _ _ hstep h => h.trans hstep.db_evolves) (.refl _) more

/-! ## The threads -/

/-- A thread after a move is one that was there, a new one, one that was dropped, or the one whose
operation was answered. -/
inductive ThreadStep (w w' : World) (t' : Thread) : Prop
  | kept (h : t' ∈ w.threads)
  | new (role : Role) (h : t' = role.thread)
  | stopped (t : Thread) (ht : t ∈ w.threads) (h : t' = t.stop)
  | resumed (t : Thread) (ht : t ∈ w.threads) (env : Env) (gates : ReadinessSnapshot) {o : Op}
      {next : o.Answer → Service Unit} (hcall : t.program = .call o next)
      (hdb : w'.db = o.commit env w.db) (h : t' = t.resume o next (o.answer env w.db gates))

theorem Stepped.threadStep {w w' : World} {m : Move} (h : w.Stepped m w') {t' : Thread}
    (ht' : t' ∈ w'.threads) : w.ThreadStep w' t' := by
  cases h with
  | idle | clientCreated | crashed => exact .kept ht'
  | started | requested =>
    obtain ht' | ht' := List.mem_append.mp ht'
    · exact .kept ht'
    · exact .new _ (List.mem_singleton.mp ht')
  | cancelled ht hp htask =>
    obtain ht' | rfl := List.mem_or_eq_of_mem_set ht'
    · exact .kept ht'
    · exact .stopped _ (List.mem_of_getElem? ht) rfl
  | performed env ht hp hcall hpermits =>
    obtain ht' | ht' := List.mem_append.mp ht'
    · obtain ht' | rfl := List.mem_or_eq_of_mem_set ht'
      · exact .kept ht'
      · exact .resumed _ (List.mem_of_getElem? ht) env _ hcall rfl rfl
    · unfold Role.spawned at ht'
      split at ht'
      · exact .new _ (List.mem_singleton.mp ht')
      · cases ht'

/-- The thread `t'` is the thread `t` at a later moment. -/
structure Later (t t' : Thread) : Prop where
  role : t'.role = t.role
  past : t.past <:+ t'.past

section
variable {w : World} {tid : Nat} {t : Thread} {p : Process} {env : Env} {o : Op}
  {next : o.Answer → Service Unit}

theorem perform_thread_self (ht : w.threads[tid]? = some t) :
    (w.perform tid t p env o next).threads[tid]? =
      some (t.resume o next (o.answer env w.db p.gates)) := by
  have hlt := (List.getElem?_eq_some_iff.mp ht).1
  exact (List.getElem?_append_left (by rwa [List.length_set])).trans (List.getElem?_set_self hlt)

theorem perform_thread_of_ne {i : Nat} {s : Thread} (hs : w.threads[i]? = some s)
    (hne : i ≠ tid) : (w.perform tid t p env o next).threads[i]? = some s := by
  have hlt := (List.getElem?_eq_some_iff.mp hs).1
  refine (List.getElem?_append_left (by rwa [List.length_set])).trans ?_
  exact (List.getElem?_set_ne hne.symm).trans hs

theorem perform_thread_later (ht : w.threads[tid]? = some t) {i : Nat} {s : Thread}
    (hs : w.threads[i]? = some s) :
    ∃ s', (w.perform tid t p env o next).threads[i]? = some s' ∧ Later s s' := by
  obtain rfl | hne := eq_or_ne i tid
  · obtain rfl := Option.some.inj (ht.symm.trans hs)
    exact ⟨_, perform_thread_self ht, rfl, List.suffix_cons _ _⟩
  · exact ⟨s, perform_thread_of_ne hs hne, rfl, List.suffix_rfl⟩

/-- A thread after an operation: the one that issued it, another one, or one that it started. -/
theorem perform_thread_cases (ht : w.threads[tid]? = some t) {i : Nat} {s : Thread}
    (hs : (w.perform tid t p env o next).threads[i]? = some s) :
    (i = tid ∧ s = t.resume o next (o.answer env w.db p.gates)) ∨
      (i ≠ tid ∧ w.threads[i]? = some s) ∨
      ∃ role : Role, role.process = t.role.process ∧ role.state = t.role.state ∧
        o = .spawn role.task ∧ i = w.threads.length ∧ s = role.thread := by
  have hlt := (List.getElem?_eq_some_iff.mp ht).1
  have old (hs : (w.threads.set tid (t.resume o next (o.answer env w.db p.gates)))[i]? = some s) :
      (i = tid ∧ s = t.resume o next (o.answer env w.db p.gates)) ∨
        (i ≠ tid ∧ w.threads[i]? = some s) := Pool.getElem?_set_cases hlt hs
  unfold perform at hs
  cases o with
  | spawn task =>
    obtain hs | ⟨hi, rfl⟩ := Pool.getElem?_concat_cases hs
    · exact (old hs).imp_right .inl
    · rw [List.length_set] at hi
      exact .inr (.inr ⟨⟨_, t.role.state, task⟩, rfl, rfl, rfl, hi, rfl⟩)
  | _ => exact (old (by simpa [Role.spawned] using hs)).imp_right .inl

end

/-- Where a new thread comes from: the main task of a new process, a request, or a spawn. -/
inductive Launched (w : World) (m : Move) (role : Role) : Prop
  | main (fuel : Nat) (htask : role.task = .startup fuel ∨ role.task = .reconcileCommand fuel)
      (hprocess : role.process = w.processes.length)
  | request {p : Process} (fuel : Nat) (htask : role.task = .settle fuel)
      (hp : w.processes[role.process]? = some p) (hstate : role.state = p.state)
  | spawned {tid : Nat} {env : Env} {t : Thread} {p : Process}
      {next : (Op.spawn role.task).Answer → Service Unit} (hm : m = .step tid env)
      (ht : w.threads[tid]? = some t) (hp : w.processes[t.role.process]? = some p)
      (hcall : t.program = .call (.spawn role.task) next)
      (hpermits : p.permits (.spawn role.task) = true) (hprocess : role.process = t.role.process)
      (hstate : role.state = t.role.state)

/-- A thread stays in its place. -/
theorem Stepped.thread_later {w w' : World} {m : Move} (h : w.Stepped m w') {i : Nat} {t : Thread}
    (ht : w.threads[i]? = some t) : ∃ t', w'.threads[i]? = some t' ∧ Later t t' := by
  have same : Later t t := ⟨rfl, List.suffix_rfl⟩
  cases h with
  | idle | clientCreated | crashed => exact ⟨t, ht, same⟩
  | started | requested => exact ⟨t, Pool.getElem?_append_of_some ht, same⟩
  | cancelled hs hp htask =>
    rename_i tid s p
    obtain rfl | hne := eq_or_ne i tid
    · obtain rfl := Option.some.inj (hs.symm.trans ht)
      exact ⟨s.stop, List.getElem?_set_self (List.getElem?_eq_some_iff.mp ht).1, rfl, List.suffix_rfl⟩
    · exact ⟨t, (List.getElem?_set_ne hne.symm).trans ht, same⟩
  | performed env hs hp hcall hpermits => exact perform_thread_later hs ht

/-- A thread was in its place before, or has just been started at the end. -/
theorem Stepped.thread_earlier {w w' : World} {m : Move} (h : w.Stepped m w') {i : Nat}
    {t' : Thread} (ht' : w'.threads[i]? = some t') :
    (∃ t, w.threads[i]? = some t ∧ Later t t') ∨
      ∃ role : Role, i = w.threads.length ∧ t' = role.thread ∧ w.Launched m role := by
  have same : Later t' t' := ⟨rfl, List.suffix_rfl⟩
  cases h with
  | idle | clientCreated | crashed => exact .inl ⟨t', ht', same⟩
  | started hstate command fuel =>
    obtain ht | ⟨hi, rfl⟩ := Pool.getElem?_concat_cases ht'
    · exact .inl ⟨t', ht, same⟩
    · refine .inr ⟨_, hi, rfl, .main fuel ?_ rfl⟩
      cases command
      · exact .inl rfl
      · exact .inr rfl
  | requested hp halive fuel =>
    obtain ht | ⟨hi, rfl⟩ := Pool.getElem?_concat_cases ht'
    · exact .inl ⟨t', ht, same⟩
    · exact .inr ⟨_, hi, rfl, .request fuel rfl hp rfl⟩
  | cancelled hs hp htask =>
    obtain ⟨rfl, rfl⟩ | ⟨-, ht⟩ :=
      Pool.getElem?_set_cases (List.getElem?_eq_some_iff.mp hs).1 ht'
    · exact .inl ⟨_, hs, rfl, List.suffix_rfl⟩
    · exact .inl ⟨t', ht, same⟩
  | performed env hs hp hcall hpermits =>
    obtain ⟨rfl, rfl⟩ | ⟨-, ht⟩ | ⟨role, hrole, hstate, rfl, hi, rfl⟩ := perform_thread_cases hs ht'
    · exact .inl ⟨_, hs, rfl, List.suffix_cons _ _⟩
    · exact .inl ⟨t', ht, same⟩
    · exact .inr ⟨role, hi, rfl, .spawned rfl hs hp hcall hpermits hrole hstate⟩

/-- Every thread was launched by some move of the run. -/
theorem exists_launch (moves : List Move) {i : Nat} {t : Thread}
    (ht : (after moves).threads[i]? = some t) :
    ∃ before m rest, moves = before ++ m :: rest ∧ (after before).Launched m t.role := by
  induction moves using List.reverseRecOn generalizing t with
  | nil => simp [after, init] at ht
  | append_singleton moves m ih =>
    rw [after_concat] at ht
    obtain ⟨s, hs, hlater⟩ | ⟨role, -, rfl, hlaunched⟩ :=
      ((after moves).stepped m).thread_earlier ht
    · obtain ⟨before, m', rest, hsplit, hlaunched⟩ := ih hs
      exact ⟨before, m', rest ++ [m], by simp [hsplit], hlater.role ▸ hlaunched⟩
    · exact ⟨moves, m, [], rfl, hlaunched⟩

/-- A thread's history after a move: as it was, empty, or longer by the operation of the move. -/
theorem Stepped.past_cases {w w' : World} {m : Move} (h : w.Stepped m w') {i : Nat} {t' : Thread}
    (ht' : w'.threads[i]? = some t') :
    (∃ t, w.threads[i]? = some t ∧ t'.role = t.role ∧ t'.past = t.past) ∨ t'.past = [] ∨
      ∃ t env p o next, m = .step i env ∧ w.threads[i]? = some t ∧
        w.processes[t.role.process]? = some p ∧ t.program = .call o next ∧ p.permits o = true ∧
        t' = t.resume o next (o.answer env w.db p.gates) := by
  cases h with
  | idle | clientCreated | crashed => exact .inl ⟨t', ht', rfl, rfl⟩
  | started | requested =>
    obtain ht | ⟨-, rfl⟩ := Pool.getElem?_concat_cases ht'
    · exact .inl ⟨t', ht, rfl, rfl⟩
    · exact .inr (.inl rfl)
  | cancelled hs hp htask =>
    obtain ⟨rfl, rfl⟩ | ⟨-, ht⟩ :=
      Pool.getElem?_set_cases (List.getElem?_eq_some_iff.mp hs).1 ht'
    · exact .inl ⟨_, hs, rfl, rfl⟩
    · exact .inl ⟨t', ht, rfl, rfl⟩
  | performed env hs hp hcall hpermits =>
    obtain ⟨rfl, rfl⟩ | ⟨-, ht⟩ | ⟨role, -, -, -, -, rfl⟩ := perform_thread_cases hs ht'
    · exact .inr (.inr ⟨_, env, _, _, _, rfl, hs, hp, hcall, hpermits, rfl⟩)
    · exact .inl ⟨t', ht, rfl, rfl⟩
    · exact .inr (.inl rfl)

/-- The moment of a run at which a thread of this role, after this history, got this answer. -/
structure Moment (moves : List Move) (tid : Nat) (role : Role) (past : History Op.Answer)
    (e : Event Op.Answer) where
  before : List Move
  env : Env
  rest : List Move
  thread : Thread
  process : Process
  next : e.op.Answer → Service Unit
  split : moves = before ++ .step tid env :: rest
  threads : (after before).threads[tid]? = some thread
  role_eq : thread.role = role
  past_eq : thread.past = past
  processes : (after before).processes[thread.role.process]? = some process
  call : thread.program = .call e.op next
  permits : process.permits e.op = true
  answer : e.answer = e.op.answer env (after before).db process.gates

/-- Everything in a thread's history happened at some moment of the run. -/
theorem exists_moment (moves : List Move) {tid : Nat} {t : Thread}
    (ht : (after moves).threads[tid]? = some t) {e : Event Op.Answer}
    {later past : History Op.Answer} (hpast : t.past = later ++ e :: past) :
    Nonempty (Moment moves tid t.role past e) := by
  induction moves using List.reverseRecOn generalizing t later with
  | nil => simp [after, init] at ht
  | append_singleton moves m ih =>
    rw [after_concat] at ht
    have widen {role : Role} : Nonempty (Moment moves tid role past e) →
        Nonempty (Moment (moves ++ [m]) tid role past e) := fun ⟨x⟩ =>
      ⟨{ x with
        rest := x.rest ++ [m]
        split := (congrArg (· ++ [m]) x.split).trans (List.append_assoc ..) }⟩
    obtain ⟨s, hs, hrole, hsame⟩ | hnil | ⟨s, env, p, o, next, rfl, hs, hp, hcall, hpermits, rfl⟩ :=
      ((after moves).stepped m).past_cases ht
    · rw [hrole]
      exact widen (ih hs (hsame.symm.trans hpast))
    · simp [hnil] at hpast
    · cases later with
      | nil =>
        obtain ⟨rfl, rfl⟩ := List.cons.inj hpast
        exact ⟨⟨moves, env, [], s, p, next, rfl, hs, rfl, rfl, hp, hcall, hpermits, rfl⟩⟩
      | cons e' later =>
        exact widen (ih hs (List.cons.inj hpast).2 :)

theorem exists_moment_of_mem (moves : List Move) {t : Thread} (ht : t ∈ (after moves).threads)
    {e : Event Op.Answer} (he : e ∈ t.past) :
    ∃ tid past, Nonempty (Moment moves tid t.role past e) := by
  obtain ⟨tid, htid⟩ := List.getElem?_of_mem ht
  obtain ⟨later, past, hpast⟩ := List.append_of_mem he
  exact ⟨tid, past, exists_moment moves htid hpast⟩

namespace Moment

variable {moves : List Move} {tid : Nat} {role : Role} {past : History Op.Answer}
  {e : Event Op.Answer} (x : Moment moves tid role past e)

/-- The run up to and with the step. -/
def upTo : List Move := x.before ++ [.step tid x.env]

theorem upTo_append : x.upTo ++ x.rest = moves := by
  simp [upTo, x.split]

theorem after_upTo : after x.upTo =
    (after x.before).perform tid x.thread x.process x.env e.op x.next := by
  rw [upTo, after_concat, step_of_call x.env x.threads x.processes x.call x.permits]

theorem issued : (after x.before).issued? (.step tid x.env) = some (x.thread, e.op) :=
  issued?_of_call x.env x.threads x.processes x.call x.permits

theorem db_upTo : (after x.upTo).db = e.op.commit x.env (after x.before).db := by
  rw [x.after_upTo]
  rfl

theorem evolves : (after x.upTo).db.Evolves (after moves).db := by
  have h := db_evolves x.upTo x.rest
  rwa [x.upTo_append] at h

/-- A statement that was answered with success committed at that moment. -/
theorem run {op : StoreOp} {reply : op.Reply} (x : Moment moves tid role past ⟨.store op, .ok reply⟩) :
    (op.txn x.env.now).run (after x.before).db = .ok (reply, (after x.upTo).db) := by
  have hanswer : x.env.fate.reply op x.env.now (after x.before).db = .ok reply := x.answer.symm
  obtain ⟨hreply, hcommit⟩ := Fate.exec_of_reply hanswer
  rw [x.db_upTo, Op.commit, hcommit]
  exact Txn.exec_ok hreply

end Moment

/-- A process stays in its place, with the state it was started with. -/
theorem Stepped.process_later {w w' : World} {m : Move} (h : w.Stepped m w') {i : Nat} {p : Process}
    (hp : w.processes[i]? = some p) : ∃ p', w'.processes[i]? = some p' ∧ p'.state = p.state := by
  have set {j : Nat} {q q' : Process} (hq : w.processes[j]? = some q) (hstate : q'.state = q.state) :
      ∃ p', (w.processes.set j q')[i]? = some p' ∧ p'.state = p.state := by
    obtain rfl | hne := eq_or_ne i j
    · obtain rfl := Option.some.inj (hq.symm.trans hp)
      exact ⟨q', List.getElem?_set_self (List.getElem?_eq_some_iff.mp hq).1, hstate⟩
    · exact ⟨p, (List.getElem?_set_ne hne.symm).trans hp, rfl⟩
  cases h with
  | idle | clientCreated | requested => exact ⟨p, hp, rfl⟩
  | started => exact ⟨p, Pool.getElem?_append_of_some hp, rfl⟩
  | crashed hq => exact set hq rfl
  | cancelled hs hq htask => exact set hq (Process.release_state _)
  | performed env hs hq hcall hpermits => exact set hq (Process.after_state _)

/-- Every thread belongs to a process that was started, and works with its state. -/
theorem hosted_after (moves : List Move) : ∀ t ∈ (after moves).threads,
    ∃ p, (after moves).processes[t.role.process]? = some p ∧ p.state = t.role.state := by
  refine invariant (P := fun w => ∀ t ∈ w.threads,
    ∃ p, w.processes[t.role.process]? = some p ∧ p.state = t.role.state) (by simp [init]) ?_ moves
  intro w m w' hstep ih t' ht'
  have later {t : Thread} (ht : t ∈ w.threads) :
      ∃ p, w'.processes[t.role.process]? = some p ∧ p.state = t.role.state := by
    obtain ⟨p, hp, hstate⟩ := ih t ht
    obtain ⟨p', hp', hstate'⟩ := hstep.process_later hp
    exact ⟨p', hp', hstate'.trans hstate⟩
  cases hstep with
  | idle | clientCreated | crashed => exact later ht'
  | started hstate command fuel =>
    obtain ht' | ht' := List.mem_append.mp ht'
    · exact later ht'
    · rw [List.mem_singleton.mp ht']
      exact ⟨_, List.getElem?_concat_length, rfl⟩
  | requested hp halive fuel =>
    obtain ht' | ht' := List.mem_append.mp ht'
    · exact later ht'
    · rw [List.mem_singleton.mp ht']
      exact ⟨_, hp, rfl⟩
  | cancelled ht hp htask =>
    obtain ht' | rfl := List.mem_or_eq_of_mem_set ht'
    · exact later ht'
    · exact (later (List.mem_of_getElem? ht) :)
  | performed env ht hp hcall hpermits =>
    obtain ⟨i, hi⟩ := List.getElem?_of_mem ht'
    obtain ⟨-, rfl⟩ | ⟨-, hi⟩ | ⟨role, hrole, hstate, -, -, rfl⟩ := perform_thread_cases ht hi
    · exact (later (List.mem_of_getElem? ht) :)
    · exact later (List.mem_of_getElem? hi)
    · obtain ⟨p, hp, hp'⟩ := later (List.mem_of_getElem? ht)
      exact ⟨p, hrole ▸ hp, hp'.trans hstate.symm⟩

/-- Every thread belongs to a process that was started. -/
theorem placed_after (moves : List Move) :
    ∀ t ∈ (after moves).threads, t.role.process < (after moves).processes.length := by
  intro t ht
  obtain ⟨p, hp, -⟩ := hosted_after moves t ht
  exact (List.getElem?_eq_some_iff.mp hp).1

/-! ## The log -/

/-- What the thread `tid` did, according to a part of the log. -/
def own (tid : Nat) (log : List LogEntry) : History Op.Answer :=
  (log.filter fun e => e.thread = tid).map (·.event)

omit [NearPrimitives] [EvmPrimitives] in
theorem own_cons_self (e : LogEntry) (log : List LogEntry) :
    own e.thread (e :: log) = e.event :: own e.thread log := by
  simp [own]

omit [NearPrimitives] [EvmPrimitives] in
theorem own_cons_of_ne {e : LogEntry} {tid : Nat} (h : e.thread ≠ tid) (log : List LogEntry) :
    own tid (e :: log) = own tid log := by
  simp [own, h]

omit [NearPrimitives] [EvmPrimitives] in
theorem own_append (tid : Nat) (log log' : List LogEntry) :
    own tid (log ++ log') = own tid log ++ own tid log' := by
  simp [own]

/-- The log agrees with the histories of the threads. -/
structure Logged (w : World) : Prop where
  own : ∀ {tid : Nat} {t : Thread}, w.threads[tid]? = some t → own tid w.log = t.past
  process : ∀ e ∈ w.log, ∃ t : Thread, w.threads[e.thread]? = some t ∧ t.role.process = e.process

/-- The index of the next thread is not in the log yet. -/
theorem Logged.own_length {w : World} (h : w.Logged) : World.own w.threads.length w.log = [] := by
  have hnone : w.log.filter (fun e => e.thread = w.threads.length) = [] := by
    refine List.filter_eq_nil_iff.mpr fun e he => ?_
    obtain ⟨t, ht, -⟩ := h.process e he
    have := (List.getElem?_eq_some_iff.mp ht).1
    simp only [decide_eq_true_eq]
    omega
  simp only [World.own, hnone, List.map_nil]

theorem Logged.launch {w : World} (h : w.Logged) (role : Role) : (w.launch role).Logged where
  own {tid t} ht := by
    obtain ht | ⟨rfl, rfl⟩ := Pool.getElem?_concat_cases ht
    · exact h.own ht
    · exact h.own_length
  process e he := by
    obtain ⟨t, ht, hprocess⟩ := h.process e he
    exact ⟨t, Pool.getElem?_append_of_some ht, hprocess⟩

theorem Logged.step {w w' : World} {m : Move} (h : w.Logged) (hstep : w.Stepped m w') :
    w'.Logged := by
  have hlater {e : LogEntry} (he : e ∈ w.log) :
      ∃ t : Thread, w'.threads[e.thread]? = some t ∧ t.role.process = e.process := by
    obtain ⟨t, ht, hprocess⟩ := h.process e he
    obtain ⟨t', ht', hlater⟩ := hstep.thread_later ht
    exact ⟨t', ht', hlater.role ▸ hprocess⟩
  cases hstep with
  | idle => exact h
  | clientCreated | crashed => exact ⟨h.own, h.process⟩
  | started hstate command fuel =>
    rename_i state
    exact Logged.launch (w := { w with processes := w.processes ++ [Process.start state (!command)] })
      ⟨h.own, h.process⟩ _
  | requested => exact h.launch _
  | cancelled ht hp htask =>
    refine ⟨fun hs => ?_, fun e he => hlater he⟩
    obtain ⟨rfl, rfl⟩ | ⟨-, hs⟩ := Pool.getElem?_set_cases (List.getElem?_eq_some_iff.mp ht).1 hs
    · exact (h.own ht :)
    · exact h.own hs
  | performed env ht hp hcall hpermits =>
    rename_i tid t p o next
    refine ⟨fun {i s} hs => ?_, fun e he => ?_⟩
    · obtain ⟨rfl, rfl⟩ | ⟨hne, hs⟩ | ⟨role, -, -, -, rfl, rfl⟩ := perform_thread_cases ht hs
      · exact (own_cons_self _ _).trans (congrArg _ (h.own ht))
      · exact (own_cons_of_ne hne.symm _).trans (h.own hs)
      · have hne : tid ≠ w.threads.length := Nat.ne_of_lt (List.getElem?_eq_some_iff.mp ht).1
        exact (own_cons_of_ne hne _).trans h.own_length
    · obtain rfl | he := List.mem_cons.mp he
      · exact ⟨_, perform_thread_self ht, rfl⟩
      · exact hlater he

theorem logged_after (moves : List Move) : (after moves).Logged :=
  invariant (P := Logged) ⟨by simp [init], by simp [init]⟩
    (fun _ _ _ hstep h => h.step hstep) moves

theorem Stepped.log_suffix {w w' : World} {m : Move} (h : w.Stepped m w') : w.log <:+ w'.log := by
  cases h with
  | performed => exact List.suffix_cons _ _
  | _ => exact List.suffix_rfl

theorem log_suffix (moves more : List Move) :
    (after moves).log <:+ (after (moves ++ more)).log :=
  invariant_from (P := fun w => (after moves).log <:+ w.log)
    (fun _ _ _ hstep h => h.trans hstep.log_suffix) List.suffix_rfl more

/-- What an operation may be, given who issues it and what that thread has done. -/
abbrev Guarantee := Role → History Op.Answer → Op → Prop

/-- Every thread follows a guarantee that all programs obey from the start. -/
theorem follows_after {G : Guarantee} (hG : ∀ role : Role, role.thread.Follows G)
    (moves : List Move) : ∀ t ∈ (after moves).threads, t.Follows G := by
  refine invariant (P := fun w => ∀ t ∈ w.threads, t.Follows G) (by simp [init]) ?_ moves
  intro w m w' hstep ih t' ht'
  cases hstep.threadStep ht' with
  | kept h => exact ih t' h
  | new role h => exact h ▸ hG role
  | stopped t ht h => exact h ▸ Thread.Follows.stop
  | resumed t ht env gates hcall hdb h => exact h ▸ (ih t ht).resume hcall _

end World

end X402Facilitator
