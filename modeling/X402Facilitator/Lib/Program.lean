import Mathlib.Data.List.Infix

/-!
# Interactive programs

A program that issues operations and continues with their answers: the finite interaction trees. An
operation `o` is answered by a value of `Ans o`; who answers, and what happens in between, is not the
program's business. What a program does is judged by its history, the operations it has issued with
the answers it got, newest first.

`Obeys G p h Q` says that `p`, continued from the history `h`, issues an operation only when the
guarantee `G` allows it after the history so far, and that `Q` holds of the value and history with
which it ends. Whatever the environment answers, so a program that obeys `G` does so in every
interleaving with other programs.
-/

inductive Program {Op : Type} (Ans : Op → Type) (α : Type) : Type
  | done (a : α) : Program Ans α
  | call (o : Op) (next : Ans o → Program Ans α) : Program Ans α

namespace Program

variable {Op : Type} {Ans : Op → Type} {α β : Type}

protected def bind : Program Ans α → (α → Program Ans β) → Program Ans β
  | done a, f => f a
  | call o next, f => call o fun answer => (next answer).bind f

instance : Monad (Program Ans) where
  pure := done
  bind := Program.bind

/-- Issue one operation and return its answer. -/
def perform (o : Op) : Program Ans (Ans o) := call o done

@[simp]
theorem pure_bind (a : α) (f : α → Program Ans β) : (pure a >>= f) = f a := rfl

theorem perform_bind (o : Op) (f : Ans o → Program Ans β) : (perform o >>= f) = call o f := rfl

/-- An operation with the answer it got. -/
structure Event {Op : Type} (Ans : Op → Type) where
  op : Op
  answer : Ans op

/-- What a program has done, newest first. -/
abbrev History {Op : Type} (Ans : Op → Type) := List (Event Ans)

/-- From the history `h`, the program issues only what `G` allows and ends as `Q` says. -/
def Obeys (G : History Ans → Op → Prop) : Program Ans α → History Ans →
    (α → History Ans → Prop) → Prop
  | done a, h, Q => Q a h
  | call o next, h, Q => G h o ∧ ∀ answer, (next answer).Obeys G (⟨o, answer⟩ :: h) Q

variable {G : History Ans → Op → Prop} {h : History Ans} {Q : α → History Ans → Prop}
  {R : β → History Ans → Prop}

namespace Obeys

theorem pure {a : α} (hQ : Q a h) : (Pure.pure a : Program Ans α).Obeys G h Q := hQ

theorem call {o : Op} {next : Ans o → Program Ans α} (hG : G h o)
    (hnext : ∀ answer, (next answer).Obeys G (⟨o, answer⟩ :: h) Q) :
    (Program.call o next).Obeys G h Q :=
  ⟨hG, hnext⟩

/-- One operation and then the rest of the program. -/
theorem step {o : Op} {f : Ans o → Program Ans β} (hG : G h o)
    (hnext : ∀ answer, (f answer).Obeys G (⟨o, answer⟩ :: h) R) :
    (perform o >>= f).Obeys G h R :=
  ⟨hG, hnext⟩

theorem perform {o : Op} {Q : Ans o → History Ans → Prop} (hG : G h o)
    (hQ : ∀ answer, Q answer (⟨o, answer⟩ :: h)) : (Program.perform o).Obeys G h Q :=
  ⟨hG, hQ⟩

theorem mono {G' : History Ans → Op → Prop} {Q' : α → History Ans → Prop} {p : Program Ans α}
    (hp : p.Obeys G h Q) (hG : ∀ h' o, h <:+ h' → G h' o → G' h' o)
    (hQ : ∀ a h', h <:+ h' → Q a h' → Q' a h') : p.Obeys G' h Q' := by
  induction p generalizing h with
  | done a => exact hQ a h List.suffix_rfl hp
  | call o next ih =>
    refine ⟨hG h o List.suffix_rfl hp.1, fun answer => ih answer (hp.2 answer) ?_ ?_⟩
    · exact fun h' o' hsuffix => hG h' o' ((List.suffix_cons _ h).trans hsuffix)
    · exact fun a h' hsuffix => hQ a h' ((List.suffix_cons _ h).trans hsuffix)

theorem conseq {Q' : α → History Ans → Prop} {p : Program Ans α} (hp : p.Obeys G h Q)
    (hQ : ∀ a h', h <:+ h' → Q a h' → Q' a h') : p.Obeys G h Q' :=
  hp.mono (fun _ _ _ hG => hG) hQ

theorem and {Q' : α → History Ans → Prop} {p : Program Ans α} (hp : p.Obeys G h Q)
    (hp' : p.Obeys G h Q') : p.Obeys G h fun a h' => Q a h' ∧ Q' a h' := by
  induction p generalizing h with
  | done a => exact ⟨hp, hp'⟩
  | call o next ih => exact ⟨hp.1, fun answer => ih answer (hp.2 answer) (hp'.2 answer)⟩

/-- A program and then what follows it. The history only grows. -/
theorem bind {p : Program Ans α} {f : α → Program Ans β} (hp : p.Obeys G h Q)
    (hf : ∀ a h', h <:+ h' → Q a h' → (f a).Obeys G h' R) : (p >>= f).Obeys G h R := by
  induction p generalizing h with
  | done a => exact hf a h List.suffix_rfl hp
  | call o next ih =>
    refine ⟨hp.1, fun answer => ih answer (hp.2 answer) fun a h' hsuffix => ?_⟩
    exact hf a h' ((List.suffix_cons _ h).trans hsuffix)

/-- What every allowed operation keeps of the history can be used along the way. -/
theorem strengthen {I : History Ans → Prop} {p : Program Ans α} (hp : p.Obeys G h Q)
    (hI : ∀ (e : Event Ans) h, I h → G h e.op → I (e :: h)) (hh : I h) :
    p.Obeys (fun h o => I h ∧ G h o) h fun a h' => I h' ∧ Q a h' := by
  induction p generalizing h with
  | done a => exact ⟨hh, hp⟩
  | call o next ih =>
    exact ⟨⟨hh, hp.1⟩, fun answer => ih answer (hp.2 answer) (hI ⟨o, answer⟩ h hh hp.1)⟩

/-- A program that obeys a guarantee on a part of the history obeys it on the whole, when what the
guarantee allows extends that part. -/
theorem frame {p : Program Ans α} {v : History Ans → History Ans}
    (hv : ∀ (e : Event Ans) h, G (v h) e.op → v (e :: h) = e :: v h)
    (hp : p.Obeys G (v h) Q) :
    p.Obeys (fun h o => G (v h) o) h fun a h' => Q a (v h') := by
  induction p generalizing h with
  | done a => exact hp
  | call o next ih =>
    refine ⟨hp.1, fun answer => ih answer ?_⟩
    rw [hv ⟨o, answer⟩ h hp.1]
    exact hp.2 answer

end Obeys

/-- From every history, the program issues only what `G` allows, and its result is borne out by what
it has done itself. -/
def Yields (G : History Ans → Op → Prop) (p : Program Ans α) (Saw : α → History Ans → Prop) :
    Prop :=
  ∀ h, p.Obeys G h fun a h' => ∃ own, h' = own ++ h ∧ Saw a own

namespace Yields

variable {Saw : α → History Ans → Prop} {Saw' : β → History Ans → Prop}

theorem pure {a : α} (ha : Saw a []) : Yields G (Pure.pure a) Saw := fun _ => ⟨[], rfl, ha⟩

theorem perform {o : Op} {Saw : Ans o → History Ans → Prop} (hG : ∀ h, G h o)
    (hSaw : ∀ answer, Saw answer [⟨o, answer⟩]) : Yields G (Program.perform o) Saw :=
  fun h => ⟨hG h, fun answer => ⟨[⟨o, answer⟩], rfl, hSaw answer⟩⟩

theorem bind {p : Program Ans α} {f : α → Program Ans β} (hp : Yields G p Saw)
    (hf : ∀ a own, Saw a own → Yields G (f a) fun b own' => Saw' b (own' ++ own)) :
    Yields G (p >>= f) Saw' := by
  intro h
  refine (hp h).bind fun a h' _ ⟨own, hown, ha⟩ => (hf a own ha h').conseq ?_
  rintro b h'' - ⟨own', hown', hb⟩
  exact ⟨own' ++ own, by rw [hown', hown, List.append_assoc], hb⟩

theorem conseq {p : Program Ans α} {Saw' : α → History Ans → Prop} (hp : Yields G p Saw)
    (h : ∀ a own, Saw a own → Saw' a own) : Yields G p Saw' :=
  fun h' => (hp h').conseq fun a _ _ ⟨own, hown, ha⟩ => ⟨own, hown, h a own ha⟩

theorem and {p : Program Ans α} {Saw' : α → History Ans → Prop} (hp : Yields G p Saw)
    (hp' : Yields G p Saw') : Yields G p fun a own => Saw a own ∧ Saw' a own := by
  intro h
  refine ((hp h).and (hp' h)).conseq ?_
  rintro a _ - ⟨⟨own, rfl, ha⟩, own', hown', ha'⟩
  obtain rfl := List.append_cancel_right hown'
  exact ⟨own, rfl, ha, ha'⟩

end Yields

/-- Every operation that the program can issue satisfies `N`. -/
def Only (N : Op → Prop) : Program Ans α → Prop
  | done _ => True
  | call o next => N o ∧ ∀ answer, (next answer).Only N

namespace Only

variable {N : Op → Prop}

theorem pure (a : α) : (Pure.pure a : Program Ans α).Only N := trivial

theorem perform {o : Op} (ho : N o) : (Program.perform o : Program Ans (Ans o)).Only N :=
  ⟨ho, fun _ => trivial⟩

theorem bind {p : Program Ans α} {f : α → Program Ans β} (hp : p.Only N)
    (hf : ∀ a, (f a).Only N) : (p >>= f).Only N := by
  induction p with
  | done a => exact hf a
  | call o next ih => exact ⟨hp.1, fun answer => ih answer (hp.2 answer)⟩

theorem mono {N' : Op → Prop} {p : Program Ans α} (hp : p.Only N) (hN : ∀ o, N o → N' o) :
    p.Only N' := by
  induction p with
  | done a => trivial
  | call o next ih => exact ⟨hN o hp.1, fun answer => ih answer (hp.2 answer)⟩

/-- A property of the history under which these operations are allowed, and which they keep, holds
at the end. -/
theorem obeys {I : History Ans → Prop} {p : Program Ans α} (hp : p.Only N)
    (hG : ∀ h o, I h → N o → G h o) (hI : ∀ (e : Event Ans) h, I h → N e.op → I (e :: h))
    (hh : I h) : p.Obeys G h fun _ h' => I h' := by
  induction p generalizing h with
  | done a => exact hh
  | call o next ih =>
    exact ⟨hG h o hh hp.1, fun answer => ih answer (hp.2 answer) (hI ⟨o, answer⟩ h hh hp.1)⟩

end Only

/-! ## Conversations -/

/-- Run the program against something that answers it and keeps a state. There is no result when an
operation is not answered. -/
def against {σ : Type} (answer : σ → (o : Op) → Option (Ans o × σ)) :
    Program Ans α → σ → Option (α × σ)
  | done a, s => some (a, s)
  | call o next, s => (answer s o).bind fun (r, s') => (next r).against answer s'

section Against

variable {σ : Type} {answer : σ → (o : Op) → Option (Ans o × σ)} {s s' : σ}

@[simp]
theorem against_pure (a : α) : (Pure.pure a : Program Ans α).against answer s = some (a, s) := rfl

theorem against_bind (p : Program Ans α) (f : α → Program Ans β) :
    (p >>= f).against answer s =
      (p.against answer s).bind fun (a, s') => (f a).against answer s' := by
  induction p generalizing s with
  | done a => rfl
  | call o next ih =>
    change (answer s o).bind _ = ((answer s o).bind _).bind _
    rw [Option.bind_assoc]
    congr 1
    funext r
    exact ih r.1

theorem against_bind_of {p : Program Ans α} {f : α → Program Ans β} {a : α}
    (h : p.against answer s = some (a, s')) :
    (p >>= f).against answer s = (f a).against answer s' := by
  rw [against_bind, h]
  rfl

theorem against_perform {o : Op} {r : Ans o} (h : answer s o = some (r, s')) :
    (perform o).against answer s = some (r, s') := by
  change (answer s o).bind _ = _
  rw [h]
  rfl

end Against

end Program
