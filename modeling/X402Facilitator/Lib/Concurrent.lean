import X402Facilitator.Lib.Program

/-!
# Threads

A thread is an interactive program under execution: what is left of it, and what it has done. A
guarantee that a program obeys from the empty history holds of every operation its thread issues,
whatever answers it gets, so it can be used wherever the thread is interrupted.
-/

/-! ## Pools

A pool is a list in which elements are replaced in place and added at the end, so that an index names
one element for good. -/

namespace Pool

variable {α : Type} {l : List α} {i j : Nat} {a b : α}

theorem getElem?_set_cases (hi : i < l.length) (h : (l.set i a)[j]? = some b) :
    (j = i ∧ b = a) ∨ (j ≠ i ∧ l[j]? = some b) := by
  obtain rfl | hne := eq_or_ne j i
  · rw [List.getElem?_set_self hi] at h
    exact .inl ⟨rfl, (Option.some.inj h).symm⟩
  · exact .inr ⟨hne, by rwa [List.getElem?_set_ne hne.symm] at h⟩

theorem getElem?_concat_cases (h : (l ++ [a])[i]? = some b) :
    l[i]? = some b ∨ (i = l.length ∧ b = a) := by
  obtain hlt | hge := Nat.lt_or_ge i l.length
  · exact .inl ((List.getElem?_append_left hlt).symm.trans h)
  · rw [List.getElem?_append_right hge] at h
    obtain ⟨hlt, hb⟩ := List.getElem?_eq_some_iff.mp h
    simp only [List.length_singleton, Nat.lt_one_iff] at hlt
    simp only [List.getElem_singleton] at hb
    exact .inr ⟨by omega, hb.symm⟩

theorem getElem?_append_of_some {l' : List α} (h : l[i]? = some a) : (l ++ l')[i]? = some a :=
  (List.getElem?_append_left (List.getElem?_eq_some_iff.mp h).1).trans h

end Pool

/-! ## Threads -/

namespace Program

/-- A program under execution, with what distinguishes it from other threads. -/
structure Thread {Op : Type} (Ans : Op → Type) (ρ : Type) where
  role : ρ
  program : Program Ans Unit
  past : History Ans

namespace Thread

variable {Op : Type} {Ans : Op → Type} {ρ : Type}

/-- A thread that has done nothing yet. -/
def start (role : ρ) (program : Program Ans Unit) : Thread Ans ρ := ⟨role, program, []⟩

/-- The thread after its operation `o` was answered. -/
def resume (t : Thread Ans ρ) (o : Op) (next : Ans o → Program Ans Unit) (answer : Ans o) :
    Thread Ans ρ :=
  ⟨t.role, next answer, ⟨o, answer⟩ :: t.past⟩

/-- The thread, dropped where it is. -/
def stop (t : Thread Ans ρ) : Thread Ans ρ := ⟨t.role, .done (), t.past⟩

/-- What is left of the thread obeys the guarantee of its role. -/
def Follows (G : ρ → History Ans → Op → Prop) (t : Thread Ans ρ) : Prop :=
  t.program.Obeys (G t.role) t.past fun _ _ => True

variable {G : ρ → History Ans → Op → Prop} {t : Thread Ans ρ} {o : Op}
  {next : Ans o → Program Ans Unit}

theorem Follows.allowed (h : t.Follows G) (hcall : t.program = .call o next) :
    G t.role t.past o := by
  unfold Follows at h
  rw [hcall] at h
  exact h.1

theorem Follows.resume (h : t.Follows G) (hcall : t.program = .call o next) (answer : Ans o) :
    (t.resume o next answer).Follows G := by
  unfold Follows at h
  rw [hcall] at h
  exact h.2 answer

theorem Follows.stop : t.stop.Follows G := trivial

end Thread

end Program
