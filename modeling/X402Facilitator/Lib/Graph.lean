import Mathlib.Algebra.GroupWithZero.Nat
import Mathlib.Algebra.Order.BigOperators.Group.List
import Mathlib.Data.List.Perm.Basic
import Mathlib.Data.Fintype.Card
import Mathlib.Data.Set.Finite.List
import Mathlib.Logic.Relation
import Mathlib.Order.WellFounded

/-!
# Walks over a graph given by lists of children

A node is expanded into the list of its children, with repetitions, or expanding it fails. The
worklist walk collects what can be reached from some roots, and the counting sort removes nodes that
have no parent left. Both take a number of rounds and end with `none` when it is used up, so that a
loop that stops is told apart from one that does not.
-/

namespace Graph

open Relation

variable {α ε : Type} [DecidableEq α]

/-- `b` is a child of `a`. -/
def Child (expand : α → Except ε (List α)) (a b : α) : Prop :=
  ∃ children, expand a = .ok children ∧ b ∈ children

omit [DecidableEq α] in
theorem mapM_expand {expand : α → Except ε (List α)} {children : α → List α} {xs : List α}
    (h : ∀ x ∈ xs, expand x = .ok (children x)) : xs.mapM expand = .ok (xs.map children) := by
  induction xs with
  | nil => rfl
  | cons x xs ih =>
    rw [List.mapM_cons, h x List.mem_cons_self, ih fun y hy => h y (List.mem_cons_of_mem _ hy)]
    rfl

/-! ## Computations with a bounded number of rounds -/

omit [DecidableEq α] in
theorem run_bind_of_ok {β : Type} {x : ExceptT ε Option α} {f : α → ExceptT ε Option β} {a : α}
    (h : x.run = some (.ok a)) : (x >>= f).run = (f a).run := by
  rw [ExceptT.run_bind, h]
  rfl

omit [DecidableEq α] in
theorem run_bind_of_error {β : Type} {x : ExceptT ε Option α} {f : α → ExceptT ε Option β} {e : ε}
    (h : x.run = some (.error e)) : (x >>= f).run = some (.error e) := by
  rw [ExceptT.run_bind, h]
  rfl

omit [DecidableEq α] in
@[simp]
theorem liftExcept_ok (a : α) : (liftExcept (.ok a : Except ε α) : ExceptT ε Option α) = pure a :=
  rfl

omit [DecidableEq α] in
@[simp]
theorem liftExcept_error (e : ε) :
    (liftExcept (.error e : Except ε α) : ExceptT ε Option α) = throw e :=
  rfl

/-! ## The worklist walk -/

/-- Expand the nodes of the queue, first in first out, each node once. -/
def walk (expand : α → Except ε (List α)) :
    Nat → List α → List α → ExceptT ε Option (List α)
  | _, [], visited => pure visited
  | 0, _ :: _, _ => ExceptT.mk none
  | rounds + 1, x :: queue, visited =>
    if x ∈ visited then walk expand rounds queue visited
    else
      match expand x with
      | .error e => throw e
      | .ok children => walk expand rounds (queue ++ children) (x :: visited)

/-- How many children a node adds to the queue. -/
def degree (expand : α → Except ε (List α)) (x : α) : Nat :=
  match expand x with
  | .error _ => 0
  | .ok children => children.length

/-- The rounds a walk needs at most: one for each queued node and one for each edge out of a node
that is not visited yet. -/
def openEdges (expand : α → Except ε (List α)) (nodes visited : List α) : Nat :=
  ((nodes.filter (· ∉ visited)).map (degree expand)).sum

theorem openEdges_cons (expand : α → Except ε (List α)) {nodes visited : List α} {x : α}
    (hx : x ∈ nodes) (hnew : x ∉ visited) :
    degree expand x + openEdges expand nodes (x :: visited) ≤ openEdges expand nodes visited := by
  induction nodes with
  | nil => cases hx
  | cons y nodes ih =>
    have hmono : openEdges expand nodes (x :: visited) ≤ openEdges expand nodes visited := by
      by_cases hmem : x ∈ nodes
      · have := ih hmem
        omega
      · apply le_of_eq
        unfold openEdges
        congr 2
        apply List.filter_congr
        intro z hz
        have hne : z ≠ x := fun h => hmem (h ▸ hz)
        simp [hne]
    by_cases heq : y = x
    · subst heq
      simp only [openEdges] at hmono ⊢
      rw [List.filter_cons_of_neg (by simp), List.filter_cons_of_pos (by simpa using hnew),
        List.map_cons, List.sum_cons]
      omega
    · have hmem : x ∈ nodes := (List.mem_cons.mp hx).resolve_left (Ne.symm heq)
      have := ih hmem
      by_cases hy : y ∈ visited
      · simpa [openEdges, heq, hy] using this
      · simp only [openEdges] at this ⊢
        simp only [List.mem_cons, heq, hy, or_self, not_false_eq_true, decide_true,
          List.filter_cons_of_pos, List.map_cons, List.sum_cons] at this ⊢
        omega

theorem walk_isSome {expand : α → Except ε (List α)} (nodes : List α)
    (hnodes : ∀ x children, expand x = .ok children → x ∈ nodes) {rounds : Nat}
    {queue visited : List α}
    (hrounds : queue.length + openEdges expand nodes visited ≤ rounds) :
    ∃ result, (walk expand rounds queue visited).run = some result := by
  induction rounds generalizing queue visited with
  | zero =>
    have hempty : queue = [] := List.eq_nil_of_length_eq_zero (by omega)
    subst hempty
    exact ⟨_, rfl⟩
  | succ rounds ih =>
    cases queue with
    | nil => exact ⟨_, rfl⟩
    | cons x queue =>
      simp only [List.length_cons] at hrounds
      unfold walk
      by_cases hvisited : x ∈ visited
      · rw [if_pos hvisited]
        exact ih (by omega)
      · rw [if_neg hvisited]
        cases hexpand : expand x with
        | error e => exact ⟨_, rfl⟩
        | ok children =>
          have hopen := openEdges_cons expand (hnodes x children hexpand) hvisited
          simp only [degree, hexpand] at hopen
          apply ih
          rw [List.length_append]
          omega

theorem walk_mono {expand : α → Except ε (List α)} {rounds rounds' : Nat} {queue visited : List α}
    {result : Except ε (List α)} (h : (walk expand rounds queue visited).run = some result)
    (hle : rounds ≤ rounds') : (walk expand rounds' queue visited).run = some result := by
  induction rounds generalizing rounds' queue visited with
  | zero =>
    cases queue with
    | nil => cases rounds' <;> exact h
    | cons x queue => cases h
  | succ rounds ih =>
    obtain ⟨rounds', rfl⟩ : ∃ n, rounds' = n + 1 := ⟨rounds' - 1, by omega⟩
    cases queue with
    | nil => exact h
    | cons x queue =>
      unfold walk at h ⊢
      split at h
      · rename_i hvisited
        rw [if_pos hvisited]
        exact ih h (by omega)
      · rename_i hvisited
        rw [if_neg hvisited]
        cases hexpand : expand x with
        | error e => simpa only [hexpand] using h
        | ok children =>
          simp only [hexpand] at h ⊢
          exact ih h (by omega)

/-- What a finished walk from `queue` has found. -/
def Walked (expand : α → Except ε (List α)) (queue visited : List α) :
    Except ε (List α) → Prop
  | .error e => ∃ root ∈ queue, ∃ x, ReflTransGen (Child expand) root x ∧ expand x = .error e
  | .ok final =>
    visited ⊆ final ∧ queue ⊆ final ∧ final.Nodup ∧
      ∀ x ∈ final, x ∉ visited →
        (∃ root ∈ queue, ReflTransGen (Child expand) root x) ∧
        ∃ children, expand x = .ok children ∧ children ⊆ final

theorem walked_of_walk {expand : α → Except ε (List α)} {rounds : Nat} {queue visited : List α}
    {result : Except ε (List α)} (hnodup : visited.Nodup)
    (h : (walk expand rounds queue visited).run = some result) :
    Walked expand queue visited result := by
  induction rounds generalizing queue visited with
  | zero =>
    cases queue with
    | nil =>
      cases h
      exact ⟨fun _ => id, by simp, hnodup, fun x hx hnew => absurd hx hnew⟩
    | cons x queue => cases h
  | succ rounds ih =>
    cases queue with
    | nil =>
      cases h
      exact ⟨fun _ => id, by simp, hnodup, fun x hx hnew => absurd hx hnew⟩
    | cons x queue =>
      unfold walk at h
      split at h
      · rename_i hvisited
        have hrest := ih hnodup h
        cases result with
        | error e =>
          obtain ⟨root, hroot, hfound⟩ := hrest
          exact ⟨root, List.mem_cons_of_mem _ hroot, hfound⟩
        | ok final =>
          obtain ⟨hold, hqueue, hfinal, hnew⟩ := hrest
          refine ⟨hold, List.cons_subset.mpr ⟨hold hvisited, hqueue⟩, hfinal, fun y hy hfresh => ?_⟩
          obtain ⟨⟨root, hroot, hreach⟩, hchildren⟩ := hnew y hy hfresh
          exact ⟨⟨root, List.mem_cons_of_mem _ hroot, hreach⟩, hchildren⟩
      · rename_i hvisited
        cases hexpand : expand x with
        | error e =>
          rw [hexpand] at h
          cases h
          exact ⟨x, List.mem_cons_self, x, .refl, hexpand⟩
        | ok children =>
          simp only [hexpand] at h
          have hrest := ih (List.nodup_cons.mpr ⟨hvisited, hnodup⟩) h
          -- What is reached from a child of `x` is reached from `x`.
          have hfrom : ∀ y, (∃ root ∈ queue ++ children, ReflTransGen (Child expand) root y) →
              ∃ root ∈ x :: queue, ReflTransGen (Child expand) root y := by
            rintro y ⟨root, hroot, hreach⟩
            obtain hroot | hroot := List.mem_append.mp hroot
            · exact ⟨root, List.mem_cons_of_mem _ hroot, hreach⟩
            · exact ⟨x, List.mem_cons_self, .head ⟨children, hexpand, hroot⟩ hreach⟩
          cases result with
          | error e =>
            obtain ⟨root, hroot, y, hreach, herror⟩ := hrest
            obtain ⟨root', hroot', hreach'⟩ := hfrom y ⟨root, hroot, hreach⟩
            exact ⟨root', hroot', y, hreach', herror⟩
          | ok final =>
            obtain ⟨hold, hqueue, hfinal, hnew⟩ := hrest
            obtain ⟨hx, hold⟩ := List.cons_subset.mp hold
            obtain ⟨hqueue, hchildren⟩ := List.append_subset.mp hqueue
            refine ⟨hold, List.cons_subset.mpr ⟨hx, hqueue⟩, hfinal, fun y hy hfresh => ?_⟩
            by_cases heq : y = x
            · subst heq
              exact ⟨⟨y, List.mem_cons_self, .refl⟩, children, hexpand, hchildren⟩
            · obtain ⟨hreach, hclosed⟩ := hnew y hy (by simp [heq, hfresh])
              exact ⟨hfrom y hreach, hclosed⟩

/-- A walk that ends has visited what can be reached from its roots, once each. -/
theorem walk_ok {expand : α → Except ε (List α)} {rounds : Nat} {roots visited : List α}
    (h : (walk expand rounds roots []).run = some (.ok visited)) :
    visited.Nodup ∧
      (∀ x, x ∈ visited ↔ ∃ root ∈ roots, ReflTransGen (Child expand) root x) ∧
      ∀ x ∈ visited, ∃ children, expand x = .ok children ∧ children ⊆ visited := by
  obtain ⟨-, hroots, hnodup, hnew⟩ := walked_of_walk List.nodup_nil h
  refine ⟨hnodup, fun x => ⟨fun hx => (hnew x hx (by simp)).1, ?_⟩,
    fun x hx => (hnew x hx (by simp)).2⟩
  rintro ⟨root, hroot, hreach⟩
  induction hreach with
  | refl => exact hroots hroot
  | tail _ hchild ih =>
    obtain ⟨children, hexpand, hmem⟩ := hchild
    obtain ⟨children', hexpand', hsubset⟩ := (hnew _ ih (by simp)).2
    obtain rfl : children = children' := by simpa [hexpand] using hexpand'
    exact hsubset hmem

theorem walk_error {expand : α → Except ε (List α)} {rounds : Nat} {roots : List α} {e : ε}
    (h : (walk expand rounds roots []).run = some (.error e)) :
    ∃ root ∈ roots, ∃ x, ReflTransGen (Child expand) root x ∧ expand x = .error e :=
  walked_of_walk List.nodup_nil h

/-! ## The counting sort -/

/-- Remove one edge into a child, and queue the child when it has none left. -/
def removeEdge (state : List (α × Nat) × List α) (child : α) : List (α × Nat) × List α :=
  match state.1.find? (·.1 = child) with
  | none => state
  | some (_, degree) =>
    (state.1.map fun entry => if entry.1 = child then (child, degree - 1) else entry,
      if degree - 1 = 0 then state.2 ++ [child] else state.2)

/-- Take the nodes without a parent off the graph, first in first out, and count them. -/
def sortCount (expand : α → Except ε (List α)) :
    Nat → List α → List (α × Nat) → Nat → ExceptT ε Option Nat
  | _, [], _, sorted => pure sorted
  | 0, _ :: _, _, _ => ExceptT.mk none
  | rounds + 1, x :: roots, degrees, sorted =>
    match expand x with
    | .error e => throw e
    | .ok children =>
      let next := children.foldl removeEdge (degrees, roots)
      sortCount expand rounds next.2 next.1 (sorted + 1)

/-- The table of how often each key occurs among the edges. -/
def degrees (keys edges : List α) : List (α × Nat) := keys.map fun x => (x, edges.count x)

theorem degrees_congr {keys edges edges' : List α} (h : edges.Perm edges') :
    degrees keys edges = degrees keys edges' :=
  List.map_congr_left fun x _ => by rw [h.count_eq x]

/-- However the entries of the table are ordered, it is the table of some order of the keys. -/
theorem exists_degrees_of_perm {keys edges : List α} {table : List (α × Nat)}
    (h : table.Perm (degrees keys edges)) :
    ∃ keys', keys'.Perm keys ∧ table = degrees keys' edges := by
  refine ⟨table.map (·.1), ?_, ?_⟩
  · have hkeys : (degrees keys edges).map (·.1) = keys := by simp [degrees, Function.comp_def]
    exact hkeys ▸ h.map (·.1)
  · rw [degrees, List.map_map]
    conv_lhs => rw [← List.map_id table]
    apply List.map_congr_left
    intro entry hentry
    obtain ⟨x, -, rfl⟩ := List.mem_map.mp (h.mem_iff.mp hentry)
    rfl

theorem map_filter_degrees (keys edges : List α) :
    ((degrees keys edges).filter (·.2 = 0)).map (·.1) =
      keys.filter fun x => edges.count x = 0 := by
  simp [degrees, List.filter_map, Function.comp_def]

theorem removeEdge_degrees (keys edges queue : List α) (child : α) :
    removeEdge (degrees keys (child :: edges), queue) child =
      (degrees keys edges, if child ∈ keys ∧ child ∉ edges then queue ++ [child] else queue) := by
  have hfind : (degrees keys (child :: edges)).find? (·.1 = child) =
      if child ∈ keys then some (child, edges.count child + 1) else none := by
    induction keys with
    | nil => rfl
    | cons x keys ih =>
      simp only [degrees, List.map_cons] at ih ⊢
      by_cases hx : x = child
      · subst hx
        simp
      · rw [List.find?_cons_of_neg (by simpa using hx), ih]
        simp [Ne.symm hx]
  have hother : ∀ x, x ≠ child → (child :: edges).count x = edges.count x := by
    intro x hx
    rw [List.count_cons_of_ne (Ne.symm hx)]
  simp only [removeEdge, hfind]
  by_cases hkey : child ∈ keys
  · simp only [hkey, if_true, Nat.add_sub_cancel, true_and, List.count_eq_zero, Prod.mk.injEq]
    refine ⟨?_, trivial⟩
    simp only [degrees, List.map_map]
    apply List.map_congr_left
    intro x _
    by_cases hx : x = child
    · simp [hx]
    · simp [hx, hother x hx]
  · simp only [hkey, if_false, false_and, Prod.mk.injEq, and_true]
    apply List.map_congr_left
    intro x hx
    rw [hother x fun h => hkey (h ▸ hx)]

theorem foldl_removeEdge (keys pending edges queue : List α) :
    ∃ released, pending.foldl removeEdge (degrees keys (pending ++ edges), queue) =
        (degrees keys edges, queue ++ released) ∧
      released.Nodup ∧ ∀ x, x ∈ released ↔ x ∈ keys ∧ x ∈ pending ∧ x ∉ edges := by
  induction pending generalizing queue with
  | nil => exact ⟨[], by simp⟩
  | cons child pending ih =>
    rw [List.foldl_cons, List.cons_append, removeEdge_degrees]
    by_cases hnow : child ∈ keys ∧ child ∉ pending ++ edges
    · rw [if_pos hnow]
      obtain ⟨released, hfold, hnodup, hmem⟩ := ih (queue ++ [child])
      obtain ⟨hkey, hlast⟩ := hnow
      rw [List.mem_append, not_or] at hlast
      refine ⟨child :: released, by rw [hfold]; simp, List.nodup_cons.mpr ⟨?_, hnodup⟩, ?_⟩
      · intro hin
        exact hlast.1 ((hmem child).mp hin).2.1
      · intro x
        rw [List.mem_cons, List.mem_cons, hmem x]
        constructor
        · rintro (rfl | ⟨hx, hpending, hedges⟩)
          · exact ⟨hkey, .inl rfl, hlast.2⟩
          · exact ⟨hx, .inr hpending, hedges⟩
        · rintro ⟨hx, rfl | hpending, hedges⟩
          · exact .inl rfl
          · exact .inr ⟨hx, hpending, hedges⟩
    · rw [if_neg hnow]
      obtain ⟨released, hfold, hnodup, hmem⟩ := ih queue
      refine ⟨released, hfold, hnodup, fun x => ?_⟩
      rw [hmem x, List.mem_cons]
      constructor
      · rintro ⟨hx, hpending, hedges⟩
        exact ⟨hx, .inr hpending, hedges⟩
      · rintro ⟨hx, rfl | hpending, hedges⟩
        · have hmore : x ∈ pending ++ edges := by
            by_contra hnone
            exact hnow ⟨hx, hnone⟩
          exact ⟨hx, (List.mem_append.mp hmore).resolve_right hedges, hedges⟩
        · exact ⟨hx, hpending, hedges⟩

/-- The state of the sort: `unsorted` is what has not been taken off the graph, and the queue holds
those of it that have no parent left in it. -/
structure Sorting (children : α → List α) (keys unsorted queue : List α) : Prop where
  nodup : unsorted.Nodup
  subset : unsorted ⊆ keys
  queue_nodup : queue.Nodup
  mem_queue : ∀ x, x ∈ queue ↔ x ∈ unsorted ∧ x ∉ unsorted.flatMap children
  sorted : ∀ x ∈ keys, x ∉ unsorted →
    x ∉ unsorted.flatMap children ∧ ¬ TransGen (fun a b => b ∈ children a) x x

theorem Sorting.next {children : α → List α} {keys unsorted queue released : List α} {x : α}
    (h : Sorting children keys unsorted (x :: queue))
    (hclosed : ∀ x ∈ keys, children x ⊆ keys) (hnodup : released.Nodup)
    (hmem : ∀ y, y ∈ released ↔
      y ∈ keys ∧ y ∈ children x ∧ y ∉ (unsorted.erase x).flatMap children) :
    Sorting children keys (unsorted.erase x) (queue ++ released) := by
  obtain ⟨hx, hfree⟩ := (h.mem_queue x).mp List.mem_cons_self
  obtain ⟨hxqueue, hqueue⟩ := List.nodup_cons.mp h.queue_nodup
  have hkey : x ∈ keys := h.subset hx
  have hedge : ∀ y, y ∈ children x → y ∈ unsorted.flatMap children := fun y hy =>
    List.mem_flatMap.mpr ⟨x, hx, hy⟩
  have hfewer : ∀ y, y ∉ unsorted.flatMap children →
      y ∉ (unsorted.erase x).flatMap children := by
    intro y hy hin
    obtain ⟨z, hz, hyz⟩ := List.mem_flatMap.mp hin
    exact hy (List.mem_flatMap.mpr ⟨z, List.mem_of_mem_erase hz, hyz⟩)
  -- Reachable nodes stay among the keys, and a parent of `x` has been sorted before.
  have hacyclic : ¬ TransGen (fun a b => b ∈ children a) x x := by
    intro hcycle
    obtain ⟨y, hreach, hstep⟩ := (TransGen.tail'_iff).mp hcycle
    have hykey : y ∈ keys := by
      clear hstep hcycle
      induction hreach with
      | refl => exact hkey
      | tail _ hchild ih => exact hclosed _ ih hchild
    have hysorted : y ∉ unsorted := fun hy => hfree (List.mem_flatMap.mpr ⟨y, hy, hstep⟩)
    exact (h.sorted y hykey hysorted).2 (.head' hstep hreach)
  refine ⟨h.nodup.erase x, fun y hy => h.subset (List.mem_of_mem_erase hy), ?_, fun y => ?_, ?_⟩
  · refine List.nodup_append.mpr ⟨hqueue, hnodup, ?_⟩
    rintro y hy z hz rfl
    have hfreey := ((h.mem_queue y).mp (List.mem_cons_of_mem _ hy)).2
    exact hfreey (hedge y ((hmem y).mp hz).2.1)
  · rw [List.mem_append, h.nodup.mem_erase_iff]
    constructor
    · rintro (hy | hy)
      · obtain ⟨hin, hfreey⟩ := (h.mem_queue y).mp (List.mem_cons_of_mem _ hy)
        exact ⟨⟨fun heq => hxqueue (heq ▸ hy), hin⟩, hfewer y hfreey⟩
      · obtain ⟨hykey, hchild, hfreey⟩ := (hmem y).mp hy
        have hin : y ∈ unsorted := by
          by_contra hout
          exact (h.sorted y hykey hout).1 (hedge y hchild)
        exact ⟨⟨fun heq => hfree (heq ▸ hedge y hchild), hin⟩, hfreey⟩
    · rintro ⟨⟨hne, hin⟩, hfreey⟩
      by_cases hchild : y ∈ children x
      · exact .inr ((hmem y).mpr ⟨h.subset hin, hchild, hfreey⟩)
      · have hfreey' : y ∉ unsorted.flatMap children := by
          intro hedge'
          obtain ⟨z, hz, hyz⟩ := List.mem_flatMap.mp hedge'
          have hzx : z ≠ x := fun heq => hchild (heq ▸ hyz)
          exact hfreey (List.mem_flatMap.mpr ⟨z, (h.nodup.mem_erase_iff).mpr ⟨hzx, hz⟩, hyz⟩)
        exact .inl ((List.mem_cons.mp ((h.mem_queue y).mpr ⟨hin, hfreey'⟩)).resolve_left hne)
  · intro y hykey hout
    rw [h.nodup.mem_erase_iff, not_and_or, not_not] at hout
    obtain rfl | hout := hout
    · exact ⟨hfewer y hfree, hacyclic⟩
    · obtain ⟨hfreey, hnocycle⟩ := h.sorted y hykey hout
      exact ⟨hfewer y hfreey, hnocycle⟩

/-- A sort that has a round for each unsorted node ends, and counts all but those that it got stuck
on. -/
theorem sortCount_eq {expand : α → Except ε (List α)} {children : α → List α}
    {keys unsorted queue : List α} {rounds : Nat} (sorted : Nat)
    (hexpand : ∀ x ∈ keys, expand x = .ok (children x))
    (hclosed : ∀ x ∈ keys, children x ⊆ keys) (h : Sorting children keys unsorted queue)
    (hrounds : unsorted.length ≤ rounds) :
    ∃ stuck count, (sortCount expand rounds queue (degrees keys (unsorted.flatMap children))
        sorted).run = some (.ok (sorted + count)) ∧
      count + stuck.length = unsorted.length ∧ Sorting children keys stuck [] := by
  induction rounds generalizing unsorted queue sorted with
  | zero =>
    have hempty : queue = [] := by
      have : unsorted = [] := List.eq_nil_of_length_eq_zero (by omega)
      rw [List.eq_nil_iff_forall_not_mem]
      intro x hx
      simpa [this] using ((h.mem_queue x).mp hx).1
    subst hempty
    exact ⟨unsorted, 0, rfl, by omega, h⟩
  | succ rounds ih =>
    cases queue with
    | nil => exact ⟨unsorted, 0, rfl, by omega, h⟩
    | cons x queue =>
      have hx : x ∈ unsorted := ((h.mem_queue x).mp List.mem_cons_self).1
      -- Taking `x` off the graph removes its own edges from the table.
      have htable : degrees keys (unsorted.flatMap children) =
          degrees keys (children x ++ (unsorted.erase x).flatMap children) := by
        apply List.map_congr_left
        intro y _
        have hperm := (List.perm_cons_erase hx).flatMap_right children
        rw [hperm.count_eq y, List.flatMap_cons]
      obtain ⟨released, hfold, hnodup, hmem⟩ :=
        foldl_removeEdge keys (children x) ((unsorted.erase x).flatMap children) queue
      have hlength := List.length_erase_of_mem hx
      have hpos := List.length_pos_of_mem hx
      obtain ⟨stuck, count, hrun, hcount, hstuck⟩ :=
        ih (sorted + 1) (h.next hclosed hnodup hmem) (by omega)
      refine ⟨stuck, count + 1, ?_, by omega, hstuck⟩
      rw [sortCount, hexpand x (h.subset hx)]
      simp only [htable, hfold]
      rw [hrun, show sorted + (count + 1) = sorted + 1 + count by omega]

omit [DecidableEq α] in
/-- A finite set of nodes each of which has a parent in the set contains a cycle. -/
theorem exists_cycle {children : α → List α} {nodes : List α} (hne : nodes ≠ [])
    (hparent : ∀ x ∈ nodes, x ∈ nodes.flatMap children) :
    ∃ x ∈ nodes, TransGen (fun a b => b ∈ children a) x x := by
  by_contra hnone
  push Not at hnone
  let Parent (a b : {x // x ∈ nodes}) : Prop := b.1 ∈ children a.1
  have hlift : ∀ a b, TransGen Parent a b → TransGen (fun a b => b ∈ children a) a.1 b.1 := by
    intro a b hab
    exact hab.lift Subtype.val fun _ _ => id
  have hirrefl : Std.Irrefl (TransGen Parent) :=
    ⟨fun a ha => hnone a.1 a.2 (hlift a a ha)⟩
  have hfinite : Finite {x // x ∈ nodes} := List.finite_toSet nodes
  have hwf := Finite.wellFounded_of_trans_of_irrefl (TransGen Parent)
  obtain ⟨x, hx⟩ := List.exists_mem_of_ne_nil nodes hne
  obtain ⟨m, -, hmin⟩ := hwf.has_min Set.univ ⟨⟨x, hx⟩, trivial⟩
  obtain ⟨y, hy, hmy⟩ := List.mem_flatMap.mp (hparent m.1 m.2)
  exact hmin ⟨y, hy⟩ trivial (.single hmy)

/-- A closed set of nodes is sorted completely exactly if none of them lies on a cycle, however the
table of degrees is ordered. -/
theorem sortCount_complete_iff {expand : α → Except ε (List α)} {children : α → List α}
    {keys edges : List α} {table : List (α × Nat)} {rounds : Nat} (hnodup : keys.Nodup)
    (hexpand : ∀ x ∈ keys, expand x = .ok (children x))
    (hclosed : ∀ x ∈ keys, children x ⊆ keys) (hedges : edges.Perm (keys.flatMap children))
    (htable : table.Perm (degrees keys edges)) (hrounds : keys.length ≤ rounds) :
    ∃ count, (sortCount expand rounds ((table.filter (·.2 = 0)).map (·.1)) table 0).run =
        some (.ok count) ∧
      (count = keys.length ↔ ∀ x ∈ keys, ¬ TransGen (fun a b => b ∈ children a) x x) := by
  obtain ⟨keys', hkeys, rfl⟩ := exists_degrees_of_perm htable
  rw [degrees_congr (hedges.trans (hkeys.symm.flatMap_right children)), map_filter_degrees]
  have hstart : Sorting children keys' keys'
      (keys'.filter fun x => (keys'.flatMap children).count x = 0) := by
    have hnodup' := hkeys.nodup_iff.mpr hnodup
    refine ⟨hnodup', fun _ => id, hnodup'.filter _, fun x => ?_, fun x hx hout => absurd hx hout⟩
    rw [List.mem_filter, decide_eq_true_eq, List.count_eq_zero]
  have hlength := hkeys.length_eq
  obtain ⟨stuck, count, hrun, hcount, hstuck⟩ :=
    sortCount_eq 0 (fun x hx => hexpand x (hkeys.mem_iff.mp hx))
      (fun x hx y hy => hkeys.mem_iff.mpr (hclosed x (hkeys.mem_iff.mp hx) hy)) hstart
      (hlength.trans_le hrounds)
  rw [Nat.zero_add] at hrun
  refine ⟨count, hrun, fun hall => ?_, fun hacyclic => ?_⟩
  · have hnone : stuck = [] := List.eq_nil_of_length_eq_zero (by omega)
    intro x hx
    exact (hstuck.sorted x (hkeys.mem_iff.mpr hx) (by simp [hnone])).2
  · by_contra hmissing
    have hne : stuck ≠ [] := by
      rintro rfl
      simp only [List.length_nil] at hcount
      omega
    obtain ⟨x, hx, hcycle⟩ := exists_cycle hne fun x hx => by
      by_contra hfree
      simpa using (hstuck.mem_queue x).mpr ⟨hx, hfree⟩
    exact hacyclic x (hkeys.subset (hstuck.subset hx)) hcycle

end Graph
