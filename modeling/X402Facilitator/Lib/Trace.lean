import X402Facilitator.Lib.Program

/-!
# Programs and the answers they get

A program does nothing but call operations, so what it is about to do is determined by what it was and
by the answers that it has got since.
-/

namespace Program

variable {Op : Type} {Ans : Op → Type} {α : Type}

theorem bind_of_pure {β : Type} (a : α) (f : α → Program Ans β) :
    Program.bind (pure a) f = f a := rfl

/-- After these operations with their answers, oldest first, the rest of the program is this. -/
inductive Reaches : Program Ans α → List (Event Ans) → Program Ans α → Prop
  | nil (p : Program Ans α) : Reaches p [] p
  | cons {o : Op} {next : Ans o → Program Ans α} {answer : Ans o} {events : List (Event Ans)}
      {q : Program Ans α} (h : Reaches (next answer) events q) :
      Reaches (call o next) (⟨o, answer⟩ :: events) q

namespace Reaches

variable {p q : Program Ans α} {events : List (Event Ans)}

/-- The same answers lead to the same place. -/
theorem rest {r : Program Ans α} {more : List (Event Ans)} (h : p.Reaches events q)
    (hmore : p.Reaches (events ++ more) r) : q.Reaches more r := by
  induction h with
  | nil p => exact hmore
  | cons _ ih =>
    cases hmore with
    | cons hmore => exact ih hmore

/-- One more operation. -/
theorem concat {o : Op} {next : Ans o → Program Ans α} (h : p.Reaches events (call o next))
    (answer : Ans o) : p.Reaches (events ++ [⟨o, answer⟩]) (next answer) := by
  generalize hq : call o next = q at h
  induction h with
  | nil p =>
    obtain rfl := hq
    exact .cons (.nil _)
  | cons _ ih => exact .cons (ih hq)

/-- Before its next operation is answered, a program has done nothing. -/
theorem of_call {o : Op} {next : Ans o → Program Ans α} (h : (call o next).Reaches events q) :
    events = [] ∨ ∃ answer more, events = ⟨o, answer⟩ :: more ∧ (next answer).Reaches more q := by
  cases h with
  | nil => exact .inl rfl
  | cons h => exact .inr ⟨_, _, rfl, h⟩

theorem eq_of_nil {o o' : Op} {next : Ans o → Program Ans α} {next' : Ans o' → Program Ans α}
    (h : (call o next).Reaches [] (call o' next')) : o = o' := by
  cases h
  rfl

theorem of_done {a : α} (h : (done a : Program Ans α).Reaches events q) : events = [] := by
  cases h
  rfl

end Reaches

end Program
