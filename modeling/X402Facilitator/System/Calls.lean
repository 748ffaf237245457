import X402Facilitator.System.Knowledge

/-!
# Concurrent calls of the store

Any number of calls of `PgStore` on one database, with any arguments, interleaved statement by
statement. A call of several statements is a program; everything else is a single statement. The
environment decides what becomes of a statement, and in which order a query without `ORDER BY` returns
its rows. What a call did is kept with the database before and after each of its statements.
-/

namespace X402Facilitator

open Program Service

/-! ## Calls -/

/-- A call of `PgStore`. -/
inductive PgCall where
  | claim (new : NewSettlement)
  | resume (retry : RetryReservation)
  | raise (id : Uuid) (minimum : Int)
  | single (op : StoreOp)

namespace PgCall

@[reducible]
def Outcome : PgCall → Type
  | claim _ => ClaimOutcome
  | resume _ => RetryOutcome
  | raise .. => Int
  | single op => op.Reply

def program : (call : PgCall) → Service (Except StoreError call.Outcome)
  | claim new => claimSettlement new
  | resume retry => resumeAwaitingRetry retry
  | raise id minimum => raiseRequiredConfirmations id minimum
  | single op => store op

end PgCall

/-- The order in which a query without `ORDER BY` returns its rows. -/
structure RowOrder where
  rows : List Settlement → List Settlement
  perm : ∀ l, (rows l).Perm l

/-- The reply with its rows in the order that the database chose. -/
def RowOrder.reply (order : RowOrder) :
    (op : StoreOp) → Except StoreError op.Reply → Except StoreError op.Reply
  | .selectExisting .., reply => reply.map order.rows
  | _, reply => reply

/-- The answer to an operation of a call, which reads no gate. -/
def RowOrder.answer (order : RowOrder) (env : Env) (db : Db) : (o : Op) → o.Answer
  | .store op => order.reply op (env.fate.reply op env.now db)
  | o => o.answer env db ⟨false, false, false, false⟩

/-- An operation that was carried out, with the database before and after it. -/
structure Statement where
  event : Event Op.Answer
  before : Db
  after : Db

/-- A call that was begun, with the database it found and what it did, newest first. -/
structure CallState where
  call : PgCall
  began : Db
  program : Service (Except StoreError call.Outcome)
  statements : List Statement

namespace CallState

def past (s : CallState) : History Op.Answer := s.statements.map (·.event)

/-- The call after its operation `o`. -/
def resume (s : CallState) (db : Db) (env : Env) (order : RowOrder) (o : Op)
    (next : o.Answer → Service (Except StoreError s.call.Outcome)) : CallState :=
  let answer := order.answer env db o
  { s with
    program := next answer
    statements := ⟨⟨o, answer⟩, db, o.commit env db⟩ :: s.statements }

/-- The call has returned `outcome`. -/
def Returned (s : CallState) (call : PgCall) (outcome : Except StoreError call.Outcome) : Prop :=
  ∃ began statements, s = ⟨call, began, .done outcome, statements⟩

/-- A call returns when its last operation is answered. -/
theorem resume_returned {call : PgCall} {began : Db}
    {program : Service (Except StoreError call.Outcome)} {statements : List Statement} {db : Db}
    {env : Env} {order : RowOrder} {o : Op}
    {next : o.Answer → Service (Except StoreError call.Outcome)}
    {outcome : Except StoreError call.Outcome} (h : next (order.answer env db o) = .done outcome) :
    (resume ⟨call, began, program, statements⟩ db env order o next).Returned call outcome :=
  ⟨began, ⟨⟨o, order.answer env db o⟩, db, o.commit env db⟩ :: statements, by
    simp only [resume, h]⟩

end CallState

structure Calls where
  db : Db
  calls : List CallState

inductive CallMove where
  | begin (call : PgCall)
  | advance (call : Nat) (env : Env) (order : RowOrder)

namespace Calls

def init : Calls := ⟨Db.empty, []⟩

def step (c : Calls) : CallMove → Calls
  | .begin asked => { c with calls := c.calls ++ [⟨asked, c.db, asked.program, []⟩] }
  | .advance i env order =>
    match c.calls[i]? with
    | none => c
    | some s =>
      match s.program with
      | .done _ => c
      | .call o next => ⟨o.commit env c.db, c.calls.set i (s.resume c.db env order o next)⟩

def after (moves : List CallMove) : Calls := Run.after step init moves

theorem after_concat (moves : List CallMove) (m : CallMove) :
    after (moves ++ [m]) = (after moves).step m :=
  Run.after_concat moves m

/-! ## What a move does -/

inductive Stepped (c : Calls) : CallMove → Calls → Prop
  | idle (m : CallMove) : Stepped c m c
  | begun (call : PgCall) :
      Stepped c (.begin call) { c with calls := c.calls ++ [⟨call, c.db, call.program, []⟩] }
  | advanced {i : Nat} {s : CallState} {o : Op}
      {next : o.Answer → Service (Except StoreError s.call.Outcome)} (env : Env) (order : RowOrder)
      (hs : c.calls[i]? = some s) (hcall : s.program = .call o next) :
      Stepped c (.advance i env order)
        ⟨o.commit env c.db, c.calls.set i (s.resume c.db env order o next)⟩

theorem stepped (c : Calls) (m : CallMove) : c.Stepped m (c.step m) := by
  cases m with
  | begin call => exact .begun call
  | advance i env order =>
    simp only [step]
    split
    · exact .idle _
    · rename_i s hs
      split
      · exact .idle _
      · exact .advanced env order hs ‹_›

/-- A property of the initial state that every move keeps holds after every run. -/
theorem invariant {P : Calls → Prop} (hinit : P init)
    (hstep : ∀ c m c', c.Stepped m c' → P c → P c') (moves : List CallMove) : P (after moves) :=
  Run.invariant hinit (fun c m h => hstep c m _ (c.stepped m) h) moves

/-- An operation commits what one statement does, or nothing. -/
theorem commit_cases (env : Env) (db : Db) (o : Op) :
    o.commit env db = db ∨ ∃ call : StoreCall, o.commit env db = db.call call := by
  cases o with
  | store op =>
    cases hfate : env.fate with
    | replied | replyLost => exact .inr ⟨⟨op, env.now⟩, by simp [Op.commit, hfate, Fate.commit, Db.call]⟩
    | failed => exact .inl (by simp [Op.commit, hfate, Fate.commit])
  | _ => exact .inl rfl

/-- The database of a run is one that a sequence of statements produces. -/
theorem exists_storeCalls (moves : List CallMove) : ∃ calls, (after moves).db = Db.after calls := by
  refine invariant (P := fun c => ∃ calls, c.db = Db.after calls) ⟨[], rfl⟩ ?_ moves
  rintro c m c' hstep ⟨calls, hcalls⟩
  cases hstep with
  | idle | begun => exact ⟨calls, hcalls⟩
  | advanced env order hs hcall =>
    obtain hdb | ⟨call, hdb⟩ := commit_cases env c.db _
    · exact ⟨calls, hdb.trans hcalls⟩
    · exact ⟨calls ++ [call], by
        rw [Db.after, Run.after_concat, ← Db.after, ← hcalls]
        exact hdb⟩

theorem audited_after (moves : List CallMove) : (after moves).db.Audited := by
  obtain ⟨calls, hcalls⟩ := exists_storeCalls moves
  exact hcalls ▸ Db.audited_after calls

theorem commit_evolves (env : Env) (db : Db) (o : Op) : db.Evolves (o.commit env db) := by
  obtain hdb | ⟨call, hdb⟩ := commit_cases env db o
  · exact (congrArg (Db.Evolves db) hdb).mpr (.refl db)
  · exact (congrArg (Db.Evolves db) hdb).mpr (call.op.exec_evolves call.now db)

/-- The database only evolves while a call goes on. -/
theorem began_evolves (moves : List CallMove) :
    ∀ s ∈ (after moves).calls, s.began.Evolves (after moves).db := by
  refine invariant (P := fun c => ∀ s ∈ c.calls, s.began.Evolves c.db) (by simp [init]) ?_ moves
  intro c m c' hstep ih s' hs'
  cases hstep with
  | idle => exact ih s' hs'
  | begun call =>
    obtain hs' | hs' := List.mem_append.mp hs'
    · exact ih s' hs'
    · rw [List.mem_singleton.mp hs']
      exact .refl _
  | advanced env order hs hcall =>
    obtain hs' | rfl := List.mem_or_eq_of_mem_set hs'
    · exact (ih s' hs').trans (commit_evolves env c.db _)
    · exact (ih _ (List.mem_of_getElem? hs)).trans (commit_evolves env c.db _)

/-- A call without a statement is where it began. -/
theorem fresh_after (moves : List CallMove) :
    ∀ s ∈ (after moves).calls, s.statements = [] → s.program = s.call.program := by
  refine invariant (P := fun c => ∀ s ∈ c.calls, s.statements = [] → s.program = s.call.program)
    (by simp [init]) ?_ moves
  intro c m c' hstep ih s' hs' hstatements
  cases hstep with
  | idle => exact ih s' hs' hstatements
  | begun call =>
    obtain hs' | hs' := List.mem_append.mp hs'
    · exact ih s' hs' hstatements
    · rw [List.mem_singleton.mp hs']
  | advanced env order hs hcall =>
    obtain hs' | rfl := List.mem_or_eq_of_mem_set hs'
    · exact ih s' hs' hstatements
    · cases hstatements

/-! ## What a call does -/

/-- What the program of a call obeys when it is begun, it obeys at every moment. -/
theorem obeys_after {G : History Op.Answer → Op → Prop} {call : PgCall}
    {Q : Except StoreError call.Outcome → History Op.Answer → Prop}
    (h : call.program.Obeys G [] Q) (moves : List CallMove) :
    ∀ s ∈ (after moves).calls, ∀ began program statements,
      s = ⟨call, began, program, statements⟩ → program.Obeys G (statements.map (·.event)) Q := by
  refine invariant (P := fun c => ∀ s ∈ c.calls, ∀ began program statements,
    s = ⟨call, began, program, statements⟩ → program.Obeys G (statements.map (·.event)) Q)
    (by simp [init]) ?_ moves
  intro c m c' hstep ih s' hs' began program statements heq
  cases hstep with
  | idle => exact ih s' hs' _ _ _ heq
  | begun call' =>
    obtain hs' | hs' := List.mem_append.mp hs'
    · exact ih s' hs' _ _ _ heq
    · cases (List.mem_singleton.mp hs').symm.trans heq
      exact h
  | advanced env order hs hcall =>
    rename_i i s o next
    obtain hs' | hs' := List.mem_or_eq_of_mem_set hs'
    · exact ih s' hs' _ _ _ heq
    · cases hs'.symm.trans heq
      have hobeys := ih s (List.mem_of_getElem? hs) s.began s.program s.statements rfl
      rw [hcall] at hobeys
      exact hobeys.2 _

/-- What a returned call has done bears out what it returned. -/
theorem returned_after {G : History Op.Answer → Op → Prop} {call : PgCall}
    {Q : Except StoreError call.Outcome → History Op.Answer → Prop}
    (h : call.program.Obeys G [] Q) (moves : List CallMove) {s : CallState}
    (hs : s ∈ (after moves).calls) {outcome : Except StoreError call.Outcome}
    (hreturned : s.Returned call outcome) : Q outcome s.past := by
  obtain ⟨began, statements, rfl⟩ := hreturned
  exact obeys_after h moves _ hs _ _ _ rfl

/-- What holds of a statement when it is carried out holds of every statement of a run. -/
theorem statement_after {P : Statement → Prop}
    (h : ∀ (env : Env) (order : RowOrder) (db : Db) (o : Op), db.Audited →
      P ⟨⟨o, order.answer env db o⟩, db, o.commit env db⟩) (moves : List CallMove) :
    ∀ s ∈ (after moves).calls, ∀ statement ∈ s.statements, P statement := by
  induction moves using List.reverseRecOn with
  | nil => simp [after, init]
  | append_singleton moves m ih =>
    rw [after_concat]
    have hstep := (after moves).stepped m
    intro s' hs' statement hstatement
    generalize hc : (after moves).step m = c' at hstep hs'
    cases hstep with
    | idle => exact ih s' hs' statement hstatement
    | begun call =>
      obtain hs' | hs' := List.mem_append.mp hs'
      · exact ih s' hs' statement hstatement
      · rw [List.mem_singleton.mp hs'] at hstatement
        cases hstatement
    | advanced env order hs hcall =>
      obtain hs' | rfl := List.mem_or_eq_of_mem_set hs'
      · exact ih s' hs' statement hstatement
      · obtain rfl | hold := List.mem_cons.mp hstatement
        · exact h env order _ _ (audited_after moves)
        · exact ih _ (List.mem_of_getElem? hs) statement hold

/-- The replies of every call still hold of the database. -/
theorem attested_after (moves : List CallMove) :
    ∀ s ∈ (after moves).calls, History.Attested s.past (after moves).db := by
  induction moves using List.reverseRecOn with
  | nil => simp [after, init]
  | append_singleton moves m ih =>
    rw [after_concat]
    have hstep := (after moves).stepped m
    intro s' hs'
    generalize (after moves).step m = c' at hstep hs' ⊢
    cases hstep with
    | idle => exact ih s' hs'
    | begun call =>
      obtain hs' | hs' := List.mem_append.mp hs'
      · exact ih s' hs'
      · rw [List.mem_singleton.mp hs']
        exact fun op reply hstored => by cases hstored
    | advanced env order hs hcall =>
      rename_i i s o next
      have hevolves := commit_evolves env (after moves).db o
      obtain hs' | rfl := List.mem_or_eq_of_mem_set hs'
      · exact (ih s' hs').mono hevolves
      · intro op reply hstored
        obtain hnew | hold := List.mem_cons.mp hstored
        · -- The order of the rows is nothing that a reply attests.
          obtain ⟨rfl, -⟩ := Event.mk.inj hnew
          have hnil : History.Attested [] (after moves).db := fun op reply h => by cases h
          have hpast := hnil.answer (audited_after moves) (.store op) env
            ⟨false, false, false, false⟩ hevolves
          cases op with
          | selectExisting => trivial
          | _ => exact hpast _ reply (List.mem_singleton.mpr hnew)
        · exact (ih s (List.mem_of_getElem? hs) op reply hold).mono hevolves

end Calls

/-! ## Statements that change nothing -/

namespace StoreOp

def reads : StoreOp → Bool
  | selectExisting .. | anchorIsClaimed .. | activeEvmSignerExists .. | settlement _
  | nonterminalSettlements | relayerIsActive _ => true
  | _ => false

/-- The reply says that the statement has changed no row and no ledger. -/
def Refused : (op : StoreOp) → Except StoreError op.Reply → Prop
  | claimReservation .., .ok reply => reply ≠ ClaimReply.inserted
  | resumeReservation .., .ok reply => reply ≠ ResumeReply.resumed
  | raiseConfirmations .., .ok reply => reply = none
  | op, .ok _ => op.reads = true
  | op, .error e => op.reads = true ∨ ∃ source target, e = .transition source target

theorem exec_of_reads {op : StoreOp} (h : op.reads = true) (now : Nat) (db : Db) :
    (op.exec now db).2 = db ∧ (op.exec now db).1.isOk = true := by
  cases op with
  | selectExisting | anchorIsClaimed | activeEvmSignerExists | settlement | nonterminalSettlements
  | relayerIsActive => exact ⟨rfl, rfl⟩
  | _ => cases h

theorem Refused.sameJournal {op : StoreOp} {fate : Fate} {now : Nat} {db : Db}
    (h : op.Refused (fate.reply op now db)) : SameJournal db (fate.commit op now db) := by
  have of_reads (hreads : op.reads = true) : SameJournal db (op.exec now db).2 := by
    rw [(exec_of_reads hreads now db).1]
    exact .refl db
  cases fate with
  | failed => exact .refl db
  | replyLost =>
    -- A lost reply is no transition error, so only a read is refused with it.
    have hreads : op.reads = true := by cases op <;> simpa [Refused, Fate.reply] using h
    exact of_reads hreads
  | replied =>
    simp only [Fate.reply, Fate.commit] at h ⊢
    cases hreply : (op.exec now db).1 with
    | error e =>
      have hsame : (op.exec now db).2 = db := (Txn.exec_error hreply).2
      rw [hsame]
      exact .refl db
    | ok reply =>
      rw [hreply] at h
      have hrun : (op.txn now).run db = .ok (reply, (op.exec now db).2) := Txn.exec_ok hreply
      cases op with
      | claimReservation new usageDate =>
        obtain ⟨hinserted, -⟩ | ⟨-, hdb⟩ := claimReservation_ok hrun
        · exact absurd hinserted h
        · rw [hdb]
          exact .refl db
      | resumeReservation retry usageDate =>
        obtain ⟨hresumed, -⟩ | ⟨-, hdb⟩ := resumeReservation_ok hrun
        · exact absurd hresumed h
        · rw [hdb]
          exact .refl db
      | raiseConfirmations id minimum =>
        obtain rfl : reply = none := h
        exact raiseConfirmations_none hrun
      | _ => exact of_reads h

end StoreOp

/-- The operation has changed no row and no ledger, going by its answer. -/
def Harmless (e : Event Op.Answer) : Prop :=
  match e with
  | ⟨.store op, answer⟩ => op.Refused answer
  | _ => True

/-- A read was answered with a transition error, which no query is. -/
def MisreadTransition (e : Event Op.Answer) : Prop :=
  match e with
  | ⟨.store op, answer⟩ =>
    op.reads = true ∧ ∃ source target, answer = .error (.transition source target)
  | _ => False

/-- What a harmless statement leaves. -/
theorem Statement.sameJournal (env : Env) (order : RowOrder) (db : Db) (o : Op)
    (h : Harmless ⟨o, order.answer env db o⟩) : SameJournal db (o.commit env db) := by
  cases o with
  | store op =>
    cases op with
    | selectExisting client identifier hash =>
      have hrefused : (StoreOp.selectExisting client identifier hash).Refused
          (env.fate.reply (.selectExisting client identifier hash) env.now db) := by
        cases env.fate.reply (.selectExisting client identifier hash) env.now db <;>
          simp [StoreOp.Refused, StoreOp.reads]
      exact hrefused.sameJournal
    | _ => exact StoreOp.Refused.sameJournal h
  | _ => exact .refl db

theorem Statement.not_misread (env : Env) (order : RowOrder) (db : Db) (o : Op) :
    ¬ MisreadTransition ⟨o, order.answer env db o⟩ := by
  cases o with
  | store op =>
    rintro ⟨hreads, source, target, h⟩
    have hok := (StoreOp.exec_of_reads hreads env.now db).2
    cases hfate : env.fate with
    | failed | replyLost =>
      cases op <;> simp [RowOrder.answer, RowOrder.reply, Fate.reply, hfate] at h
      all_goals cases h
    | replied =>
      cases hreply : (op.exec env.now db).1 with
      | error e =>
        rw [hreply] at hok
        cases hok
      | ok reply =>
        cases op <;> simp [RowOrder.answer, RowOrder.reply, Fate.reply, hfate, hreply] at h
        all_goals cases h
  | _ => exact id

end X402Facilitator
