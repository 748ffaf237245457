import Mathlib.Data.List.Induction

/-!
# Runs of a deterministic system

A system is a step function on states, driven by inputs that stand for everything outside it:
scheduling, failures, messages. A run is a list of inputs; quantifying over it quantifies over all
behaviours. What one step preserves holds after every run.
-/

namespace Run

variable {σ ι : Type*}

/-- The state after the inputs of a run, in order. -/
def after (step : σ → ι → σ) (init : σ) (inputs : List ι) : σ :=
  inputs.foldl step init

variable {step : σ → ι → σ} {init : σ}

@[simp]
theorem after_nil : after step init [] = init := rfl

@[simp]
theorem after_concat (inputs : List ι) (i : ι) :
    after step init (inputs ++ [i]) = step (after step init inputs) i := by
  simp [after]

theorem after_append (inputs more : List ι) :
    after step init (inputs ++ more) = after step (after step init inputs) more := by
  simp [after]

/-- A property of the initial state that each step keeps holds after every run. -/
theorem invariant {P : σ → Prop} (hinit : P init) (hstep : ∀ s i, P s → P (step s i))
    (inputs : List ι) : P (after step init inputs) := by
  induction inputs using List.reverseRecOn with
  | nil => exact hinit
  | append_singleton inputs i ih =>
    rw [after_concat]
    exact hstep _ i ih

/-- Every step of the run from `s` meets the condition `P`, on the state in which it is made. -/
def Always (step : σ → ι → σ) (P : σ → ι → Prop) : σ → List ι → Prop
  | _, [] => True
  | s, i :: inputs => P s i ∧ Always step P (step s i) inputs

instance Always.decidable {P : σ → ι → Prop} [∀ s i, Decidable (P s i)] :
    (s : σ) → (inputs : List ι) → Decidable (Always step P s inputs)
  | _, [] => .isTrue trivial
  | s, i :: inputs => @instDecidableAnd _ _ _ (Always.decidable (step s i) inputs)

theorem always_append {P : σ → ι → Prop} {s : σ} {inputs more : List ι} :
    Always step P s (inputs ++ more) ↔
      Always step P s inputs ∧ Always step P (after step s inputs) more := by
  induction inputs generalizing s with
  | nil => simp [Always, after]
  | cons i inputs ih => simp [Always, after, ih, and_assoc]

/-- A reflexive relation that extends along each step relates every state to what follows it. -/
theorem related {R : σ → σ → Prop} (hrefl : ∀ s, R s s)
    (htrans : ∀ {s t u}, R s t → R t u → R s u) (hstep : ∀ s i, R s (step s i))
    (s : σ) (inputs : List ι) : R s (after step s inputs) :=
  invariant (hrefl s) (fun t i h => htrans h (hstep t i)) inputs

end Run
