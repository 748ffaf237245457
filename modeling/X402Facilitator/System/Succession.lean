import X402Facilitator.System.Origin
import X402Facilitator.System.SingleFlight

/-!
# Rewritten rows, and one process at a time

Where a column of a row was written, as a moment of the run, and who can have acted between two such
moments. A row only evolves, so what one update wrote bounds what later ones find. When processes run
one at a time, everything that happens while a process lives is done by its own threads, under one
configuration.
-/

namespace X402Facilitator

open Program

section
variable [NearPrimitives] [EvmPrimitives]

namespace World

variable {moves : List Move}

/-! ## Rewritten rows -/

/-- A row of the journal evolves into the row of its id at any later moment. -/
theorem row_evolves {before rest : List Move} {r row : Settlement}
    (hr : r ∈ (after before).db.settlements) (hrow : row ∈ (after (before ++ rest)).db.settlements)
    (hid : row.id = r.id) : r.Evolves row := by
  obtain ⟨row', hrow', hevolves⟩ := (db_evolves before rest).rows r hr
  rwa [Db.eq_of_id _ hrow hrow' (hid.trans hevolves.id_eq.symm)]

/-- In the course of the run, the thread has rewritten the row by this update. -/
def Rewrote (moves : List Move) (t : Thread) (r : Settlement) (u : RowUpdate) : Prop :=
  ∃ before m rest op, moves = before ++ m :: rest ∧
    (after before).issued? m = some (t, .store op) ∧ op.target = some (r.id, u) ∧
    Updated (after before).db (after (before ++ [m])).db r u

/-- What an update made of a row evolves into the row of today. -/
theorem Rewrote.evolves {t : Thread} {r row : Settlement} {u : RowUpdate} (h : Rewrote moves t r u)
    (hrow : row ∈ (after moves).db.settlements) (hid : row.id = r.id) : (u.apply r).Evolves row := by
  obtain ⟨before, m, rest, op, rfl, -, -, hupdated⟩ := h
  rw [show before ++ m :: rest = before ++ [m] ++ rest by simp] at hrow
  exact row_evolves hupdated.apply_mem hrow (hid.trans (u.apply_id r).symm)

theorem Rewrote.concat {m : Move} {t : Thread} {r : Settlement} {u : RowUpdate}
    (h : Rewrote moves t r u) : Rewrote (moves ++ [m]) t r u := by
  obtain ⟨before, m', rest, op, rfl, hissued⟩ := h
  exact ⟨before, m', rest ++ [m], op, by simp, hissued⟩

/-- What no claim makes true of a row, an update has made true. -/
theorem exists_rewrote {P : Settlement → Prop} {Q : RowUpdate → Prop}
    (hclaimed : ∀ (new : NewSettlement) usageDate now, ¬ P (new.row usageDate now))
    (hupdated : ∀ r u, P (RowUpdate.apply r u) → P r ∨ Q u) (moves : List Move) :
    ∀ row ∈ (after moves).db.settlements, P row →
      ∃ t old u, Rewrote moves t old u ∧ Q u ∧ old.id = row.id := by
  induction moves using List.reverseRecOn with
  | nil => simp [after, init, Run.after_nil, Db.empty]
  | append_singleton moves m ih =>
    intro row hrow hP
    have kept {r : Settlement} (hr : r ∈ (after moves).db.settlements) (hP : P r)
        (hid : r.id = row.id) :
        ∃ t old u, Rewrote (moves ++ [m]) t old u ∧ Q u ∧ old.id = row.id := by
      obtain ⟨t, old, u, h, hQ, hold⟩ := ih r hr hP
      exact ⟨t, old, u, h.concat, hQ, hold.trans hid⟩
    rw [after_concat] at hrow
    obtain hkept | ⟨now, -, -, rfl⟩ | ⟨hissued, htarget, hupd, rfl⟩ :=
      ((after moves).stepped m).rowStep hrow
    · exact kept hkept hP rfl
    · exact absurd hP (hclaimed _ _ _)
    · rename_i t op old u
      obtain hP | hQ := hupdated old u hP
      · exact kept hupd.mem hP (u.apply_id old).symm
      · exact ⟨t, old, u, ⟨moves, m, [], op, rfl, hissued, htarget, by rwa [after_concat]⟩, hQ,
          (u.apply_id old).symm⟩

/-- A terminal row was made terminal by one thread, and has not changed since. -/
theorem exists_terminated (moves : List Move) {row : Settlement}
    (hrow : row ∈ (after moves).db.settlements) (hterminal : row.state.isTerminal = true) :
    ∃ t old entry, Rewrote moves t old (.terminate entry) ∧ old.id = row.id := by
  have hupdated (r : Settlement) (u : RowUpdate) (hr : (u.apply r).state.isTerminal = true) :
      r.state.isTerminal = true ∨ ∃ entry, u = .terminate entry := by
    cases u with
    | terminate entry => exact .inr ⟨entry, rfl⟩
    | note => exact .inl hr
    | raise minimum => exact .inl hr
    | release | resume | prepare | prepareEvm | submit => cases hr
  obtain ⟨t, old, u, h, ⟨entry, rfl⟩, hid⟩ :=
    exists_rewrote (P := fun r => r.state.isTerminal = true) (fun _ _ _ hnew => by cases hnew)
      hupdated moves row hrow hterminal
  exact ⟨t, old, entry, h, hid⟩

/-- The signed bytes of an EVM row were journaled by one thread. -/
theorem exists_preparedEvm (moves : List Move) {row : Settlement}
    (hrow : row ∈ (after moves).db.settlements) (hbytes : row.submittedTxRlp.isSome) :
    ∃ t old entry, Rewrote moves t old (.prepareEvm entry) ∧ old.id = row.id := by
  have hupdated (r : Settlement) (u : RowUpdate) (hr : (u.apply r).submittedTxRlp.isSome) :
      r.submittedTxRlp.isSome ∨ ∃ entry, u = .prepareEvm entry := by
    cases u with
    | prepareEvm entry => exact .inr ⟨entry, rfl⟩
    | _ => exact .inl hr
  obtain ⟨t, old, u, h, ⟨entry, rfl⟩, hid⟩ :=
    exists_rewrote (P := fun r => r.submittedTxRlp.isSome) (fun _ _ _ hnew => by cases hnew)
      hupdated moves row hrow hbytes
  exact ⟨t, old, entry, h, hid⟩

omit [NearPrimitives] [EvmPrimitives] in
/-- One of two moments of a run comes first. -/
theorem moments_order {before before' rest rest' : List Move} {m m' : Move}
    (h : before ++ m :: rest = before' ++ m' :: rest') :
    (∃ mid, before' ++ [m'] = before ++ [m] ++ mid) ∨ ∃ mid, before = before' ++ [m'] ++ mid := by
  have hleft : before ++ [m] <+: before ++ m :: rest := ⟨rest, by simp⟩
  have hright : before' ++ [m'] <+: before ++ m :: rest := ⟨rest', by rw [h]; simp⟩
  obtain hlt | hge := Nat.lt_or_ge before'.length before.length
  · have hbefore : before <+: before ++ m :: rest := ⟨m :: rest, rfl⟩
    obtain ⟨mid, hmid⟩ := List.prefix_of_prefix_length_le hright hbefore
      (by rw [List.length_append]; exact hlt)
    exact .inr ⟨mid, hmid.symm⟩
  · obtain ⟨mid, hmid⟩ := List.prefix_of_prefix_length_le hleft hright (by simpa using hge)
    exact .inl ⟨mid, hmid.symm⟩

/-! ## One process at a time -/

/-- A process that is alive was alive before. -/
theorem Stepped.alive_earlier {w w' : World} {m : Move} (h : w.Stepped m w') {i : Nat}
    {p p' : Process} (hp : w.processes[i]? = some p) (hp' : w'.processes[i]? = some p')
    (halive : p'.alive = true) : p.alive = true := by
  have set {j : Nat} {q q' : Process} (hq : w.processes[j]? = some q)
      (hp' : (w.processes.set j q')[i]? = some p') (hsame : q'.alive = true → q.alive = true) :
      p.alive = true := by
    obtain ⟨rfl, rfl⟩ | ⟨-, hi⟩ := Pool.getElem?_set_cases (List.getElem?_eq_some_iff.mp hq).1 hp'
    · rw [Option.some.inj (hp.symm.trans hq)]
      exact hsame halive
    · rwa [Option.some.inj (hp.symm.trans hi)]
  cases h with
  | idle | clientCreated | requested => rwa [Option.some.inj (hp.symm.trans hp')]
  | started =>
    rwa [Option.some.inj ((Pool.getElem?_append_of_some hp).symm.trans hp')]
  | crashed hq => exact set hq hp' fun h => by cases h
  | cancelled hs hq htask => exact set hq hp' fun h => by rwa [Process.release_alive] at h
  | performed env hs hq hcall hpermits =>
    exact set hq hp' fun h => by rwa [Process.after_alive] at h

theorem alive_earlier (moves more : List Move) {i : Nat} {p p' : Process}
    (hp : (after moves).processes[i]? = some p)
    (hp' : (after (moves ++ more)).processes[i]? = some p') (halive : p'.alive = true) :
    p.alive = true := by
  have hkept : ∃ q, (after (moves ++ more)).processes[i]? = some q ∧
      (q.alive = true → p.alive = true) := by
    refine invariant_from (P := fun w => ∃ q, w.processes[i]? = some q ∧
      (q.alive = true → p.alive = true)) ?_ ⟨p, hp, id⟩ more
    rintro w m w' hstep ⟨q, hq, hqalive⟩
    obtain ⟨q', hq', -⟩ := hstep.process_later hq
    exact ⟨q', hq', fun h => hqalive (hstep.alive_earlier hq hq' h)⟩
  obtain ⟨q, hq, hqalive⟩ := hkept
  rw [Option.some.inj (hq.symm.trans hp')] at hqalive
  exact hqalive halive

/-- While a process lives, whatever is done is done by its own threads. -/
theorem state_eq_of_solo {before mid rest : List Move} {m : Move}
    (hrun : Always (fun w m => w.solo m = true) (before ++ mid)) {pid : Nat} {p p' : Process}
    (hp : (after before).processes[pid]? = some p)
    (hp' : (after (before ++ (mid ++ m :: rest))).processes[pid]? = some p')
    (halive : p'.alive = true) {s : Thread} {o : Op}
    (hissued : (after (before ++ mid)).issued? m = some (s, o)) : s.role.state = p.state := by
  obtain ⟨tid, env, q, next, -, hs, hq, -, hpermits⟩ := exists_of_issued? hissued
  obtain ⟨p₁, hp₁, hstate₁⟩ := process_after before mid hp
  rw [← List.append_assoc] at hp'
  have halive₁ := alive_earlier (before ++ mid) (m :: rest) hp₁ hp' halive
  have hprocess := (alone_after hrun).single hq hp₁ (Process.alive_of_permits hpermits) halive₁
  obtain ⟨q', hq', hstate⟩ := hosted_after (before ++ mid) s (List.mem_of_getElem? hs)
  rw [hprocess] at hq'
  rw [← hstate, ← Option.some.inj (hp₁.symm.trans hq'), hstate₁]

end World

end

end X402Facilitator
