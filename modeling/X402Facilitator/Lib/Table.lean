import Mathlib.Data.List.Pairwise
import Mathlib.Algebra.BigOperators.Group.List.Basic
import Mathlib.Algebra.GroupWithZero.Nat

/-!
# Relational tables

A table is a list of rows. A unique index is a partial key function: rows on which the key is
absent are outside the index, and no two other rows may share a key. This module has the two facts
every argument about such a table uses: a key determines its row, and rewriting the row of one
primary key leaves the rest of the list where it was.
-/

namespace Table

variable {α κ : Type*}

/-- The partial unique index given by `key`: no two rows of the table carry the same present key. -/
def UniqueOn (key : α → Option κ) (rows : List α) : Prop :=
  rows.Pairwise fun a b => ∀ k ∈ key a, k ∉ key b

instance [DecidableEq κ] (key : α → Option κ) (rows : List α) :
    Decidable (UniqueOn key rows) :=
  inferInstanceAs (Decidable (rows.Pairwise fun a b => ∀ k ∈ key a, k ∉ key b))

/-- Two rows under the same key of a unique index are the same row. -/
theorem UniqueOn.eq_of_key {key : α → Option κ} {rows : List α} (hunique : UniqueOn key rows)
    {a b : α} (ha : a ∈ rows) (hb : b ∈ rows) {k : κ} (hka : key a = some k)
    (hkb : key b = some k) : a = b := by
  induction rows with
  | nil => cases ha
  | cons r rows ih =>
    obtain ⟨hhead, htail⟩ := List.pairwise_cons.mp hunique
    rcases List.mem_cons.mp ha with rfl | ha' <;> rcases List.mem_cons.mp hb with rfl | hb'
    · rfl
    · exact absurd hkb (hhead b hb' k hka)
    · exact absurd hka (hhead a ha' k hkb)
    · exact ih htail ha' hb'

/-- A key that no row of the table carries can be added. -/
theorem UniqueOn.concat {key : α → Option κ} {rows : List α} (hunique : UniqueOn key rows) {r : α}
    (hfresh : ∀ a ∈ rows, ∀ k ∈ key a, k ∉ key r) : UniqueOn key (rows ++ [r]) := by
  refine List.pairwise_append.mpr ⟨hunique, List.pairwise_singleton _ _, ?_⟩
  intro a ha b hb
  rw [List.mem_singleton.mp hb]
  exact hfresh a ha

theorem UniqueOn.of_concat {key : α → Option κ} {rows : List α} {r : α}
    (hunique : UniqueOn key (rows ++ [r])) {a : α} (ha : a ∈ rows) {k : κ} (hk : key a = some k) :
    key r ≠ some k :=
  (List.pairwise_append.mp hunique).2.2 a ha r (List.mem_singleton_self r) k hk

/-- Rewrite the rows selected by `sel`, the `UPDATE … WHERE` of the table. -/
def update (sel : α → Bool) (f : α → α) (rows : List α) : List α :=
  rows.map fun r => if sel r then f r else r

/-- How many rows an update touches. -/
def affected (sel : α → Bool) (rows : List α) : Nat :=
  rows.countP sel

theorem update_of_none {sel : α → Bool} {f : α → α} {rows : List α}
    (hnone : ∀ r ∈ rows, sel r = false) : update sel f rows = rows := by
  refine (List.map_congr_left fun r hr => ?_).trans (List.map_id rows)
  simp [hnone r hr]

/-- A selector that picks the row `r` and no other key splits the table around `r`, and an update
rewrites that one place. -/
theorem exists_split {key : α → κ} {rows : List α}
    (hunique : UniqueOn (fun r => some (key r)) rows) {r : α} (hr : r ∈ rows) :
    ∃ before after, rows = before ++ r :: after ∧
      ∀ (sel : α → Bool) (f : α → α), sel r = true → (∀ a, sel a = true → key a = key r) →
        update sel f rows = before ++ f r :: after := by
  obtain ⟨before, after, rfl⟩ := List.append_of_mem hr
  refine ⟨before, after, rfl, fun sel f hselr hsel => ?_⟩
  obtain ⟨-, hafter, hcross⟩ := List.pairwise_append.mp hunique
  have hbefore : ∀ a ∈ before, sel a = false := by
    intro a ha
    rw [← Bool.not_eq_true]
    intro h
    exact hcross a ha r List.mem_cons_self (key a) rfl (congrArg some (hsel a h).symm)
  have hrest : ∀ a ∈ after, sel a = false := by
    intro a ha
    rw [← Bool.not_eq_true]
    intro h
    exact (List.pairwise_cons.mp hafter).1 a ha (key a) (congrArg some (hsel a h).symm) rfl
  calc update sel f (before ++ r :: after)
      = update sel f before ++ f r :: update sel f after := by simp [update, hselr]
    _ = before ++ f r :: after := by rw [update_of_none hbefore, update_of_none hrest]

/-- The rows of an updated table are the untouched rows and the rewritten ones. -/
theorem mem_update {sel : α → Bool} {f : α → α} {rows : List α} {b : α} :
    b ∈ update sel f rows ↔ ∃ a ∈ rows, b = if sel a then f a else a := by
  simp only [update, List.mem_map, eq_comm]

/-- The sum of a column over the table, restricted to the rows that satisfy `p`. -/
def sumOver (p : α → Bool) (column : α → Nat) (rows : List α) : Nat :=
  (rows.map fun r => if p r then column r else 0).sum

@[simp]
theorem sumOver_nil (p : α → Bool) (column : α → Nat) : sumOver p column [] = 0 := rfl

@[simp]
theorem sumOver_cons (p : α → Bool) (column : α → Nat) (r : α) (rows : List α) :
    sumOver p column (r :: rows) = (if p r then column r else 0) + sumOver p column rows := by
  simp [sumOver]

@[simp]
theorem sumOver_append (p : α → Bool) (column : α → Nat) (rows rows' : List α) :
    sumOver p column (rows ++ rows') = sumOver p column rows + sumOver p column rows' := by
  simp [sumOver]

/-- One selected row is at most the sum. -/
theorem le_sumOver {p : α → Bool} {column : α → Nat} {rows : List α} {r : α} (hr : r ∈ rows)
    (hp : p r = true) : column r ≤ sumOver p column rows := by
  obtain ⟨before, after, rfl⟩ := List.append_of_mem hr
  simp only [sumOver_append, sumOver_cons, hp, if_true]
  omega

end Table
