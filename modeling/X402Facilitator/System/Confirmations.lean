import X402Facilitator.System.Succession

/-!
# Confirmation depth

Four values of the confirmation depth coexist: the configured one of each process, the one that was
journaled with the signed bytes, the one in the policy under which the row was reserved, and the
column, which passes of later processes raise. The depth at which a row becomes terminal is at least
each of them. For a success the table itself compares with the column; for a failure it is compared
with what the pass read after its own raise, which is the column as long as one process runs at a time.
-/

namespace X402Facilitator

open Program

/-- A raise that returns a depth has raised the column to it. -/
theorem raiseConfirmations_le {id : Uuid} {minimum depth : Int} {db db' : Db}
    (h : (raiseConfirmations id minimum).run db = .ok (some depth, db')) : minimum ≤ depth := by
  rw [raiseConfirmations, Txn.bind_ok] at h
  obtain ⟨n, mid, hupdate, h⟩ := h
  rw [Txn.bind_ok] at h
  obtain ⟨read, mid', hget, h⟩ := h
  obtain ⟨rfl, rfl⟩ := Txn.get_ok.mp hget
  obtain ⟨hdepth, rfl⟩ := Txn.pure_ok.mp h
  obtain ⟨r, hfind, hr⟩ := Option.bind_eq_some_iff.mp hdepth.symm
  obtain ⟨-, hrows, hdb⟩ := updateSettlements_ok hupdate
  have hmem := List.mem_of_find?_eq_some hfind
  rw [hdb] at hmem
  obtain ⟨old, -, rfl⟩ := Table.mem_update.mp hmem
  split at hr
  · have hmax := Option.some.inj hr
    rw [← hmax]
    exact le_max_right _ _
  · rename_i hunselected
    have hselected := List.find?_some hfind
    simp only [hunselected] at hselected
    exact absurd hselected hunselected

section
variable [NearPrimitives] [EvmPrimitives]

namespace World

variable {moves : List Move}

/-! ## The column -/

/-- What a thread has to have been configured with to raise a column. -/
theorem Rewrote.minimum_eq {t : Thread} {r : Settlement} {minimum : Int}
    (h : Rewrote moves t r (.raise minimum)) :
    ∃ depth, t.role.state.provider.requiredConfirmations = some depth ∧ minimum = depth := by
  obtain ⟨before, m, rest, op, rfl, hissued, htarget, -⟩ := h
  obtain ⟨ht, next, hcall⟩ := issued?_eq_some hissued
  have hjustified := (justified_after before ht hcall).store
  cases op with
  | raiseConfirmations id minimum' =>
    obtain ⟨-, hu⟩ := Prod.mk.inj (Option.some.inj htarget)
    obtain rfl := RowUpdate.raise.inj hu
    obtain ⟨-, provider, hprovider, hminimum⟩ := hjustified
    rw [hprovider]
    exact ⟨_, rfl, toI32_eq_some hminimum⟩
  | _ => simp [StoreOp.target] at htarget

/-- A raised or prepared depth is at most the column of today. -/
theorem Rewrote.le_column {t : Thread} {r row : Settlement} {u : RowUpdate} {n : Int}
    (h : Rewrote moves t r u) (hrow : row ∈ (after moves).db.settlements) (hid : row.id = r.id)
    (hstate : (u.apply r).state.beforePrepare = false)
    (hcolumn : ∃ m ∈ (u.apply r).requiredConfirmations, n ≤ m) :
    ∃ m ∈ row.requiredConfirmations, n ≤ m := by
  obtain ⟨m, hm, hle⟩ := hcolumn
  obtain ⟨m', hm', hle'⟩ := (h.evolves hrow hid).confirmations hstate m hm
  exact ⟨m', hm', hle.trans hle'⟩

end World

/-! ## Terminal rows -/

omit [NearPrimitives] [EvmPrimitives] in
theorem evmPolicySnapshot_congr {r r' : Settlement} (hpolicy : r'.policySnapshot = r.policySnapshot)
    (hidentity : r'.identity = r.identity) : evmPolicySnapshot r' = evmPolicySnapshot r := by
  have hnetwork : r'.network = r.network := congrArg RowIdentity.network hidentity
  have hasset : r'.asset = r.asset := congrArg RowIdentity.asset hidentity
  unfold evmPolicySnapshot
  rw [hpolicy, hnetwork, hasset]

/-- What a pass has read when it journals a depth: the column after its own raise, which the depth
reaches, and the policy of the row's reservation. -/
structure ReadDepth (before : List Move) (t : Thread) (old : Settlement) (depth : Int) where
  tid : Nat
  past : History Op.Answer
  minimum : Int
  required : Int
  moment : World.Moment before tid t.role past
    ⟨.store (.raiseConfirmations old.id minimum), .ok (some required)⟩
  configured : ∃ k, t.role.state.provider.requiredConfirmations = some k ∧ minimum = k
  admission : ∃ gasLimit maxFeePerGas admission,
    evmPolicySnapshot old = .ok (gasLimit, maxFeePerGas, admission) ∧ (admission : Int) ≤ required
  le : required ≤ depth

theorem TerminalJustified.readDepth {before : List Move} {t : Thread}
    {entry : TerminalJournalEntry} {old : Settlement} {depth : Int}
    (ht : t ∈ (World.after before).threads)
    (hentry : TerminalJustified t.role (session t.past) entry)
    (hold : old ∈ (World.after before).db.settlements) (hid : entry.settlementId = old.id)
    (hdepth : entry.confirmations = some depth) : Nonempty (ReadDepth before t old depth) := by
  obtain ⟨r, hr, hrid, provider, minimum, required, gasLimit, maxFeePerGas, admission, hprovider,
    hminimum, hstored, hsnapshot, hadmission, hle⟩ := hentry.depth depth hdepth
  obtain ⟨h, hraise⟩ := World.exists_justified_of_stored before ht (session_subset _ hstored)
  obtain ⟨hwitnessed, hstate⟩ := World.witnessed_of_reconciles before ht hraise.1 hr
  have hsame : old.id = r.id := hid.symm.trans hrid.symm
  have hevolves := hwitnessed.evolves hold hsame
  have hpolicy := (hevolves.reservation (not_beforePrepare_of_inFlight hstate)).2
  have hstored := session_subset _ hstored
  rw [← hsame] at hstored
  obtain ⟨tid, past, ⟨x⟩⟩ := World.exists_moment_of_mem before ht hstored
  refine ⟨⟨tid, past, minimum, required, x, ?_, ?_, hle⟩⟩
  · rw [hprovider]
    exact ⟨_, rfl, toI32_eq_some hminimum⟩
  · rw [evmPolicySnapshot_congr hpolicy hevolves.identity]
    exact ⟨gasLimit, maxFeePerGas, admission, hsnapshot, hadmission⟩

namespace ReadDepth

variable {before : List Move} {t : Thread} {old : Settlement} {depth : Int}
  (x : ReadDepth before t old depth)

theorem column : ∃ r ∈ (World.after x.moment.upTo).db.settlements, r.id = old.id ∧
    r.requiredConfirmations = some x.required ∧ r.state.beforePrepare = false := by
  obtain ⟨r, hr, hid, hcolumn, -, hstate⟩ := (raiseConfirmations_ok x.moment.run).2 _ rfl
  exact ⟨r, hr, hid, hcolumn, not_beforePrepare_of_inFlight hstate⟩

/-- What was written before the raise is at most what was read. -/
theorem le_of_earlier {moves mid : List Move} {r : Settlement} {u : RowUpdate} {n : Int}
    (hupto : x.moment.upTo = moves ++ mid) (hr : u.apply r ∈ (World.after moves).db.settlements)
    (hid : r.id = old.id) (hstate : (u.apply r).state.beforePrepare = false)
    (hcolumn : ∃ m ∈ (u.apply r).requiredConfirmations, n ≤ m) : n ≤ depth := by
  obtain ⟨row, hrow, hrowid, hrequired, -⟩ := x.column
  rw [hupto] at hrow
  have hevolves := World.row_evolves hr hrow
    (hrowid.trans (hid.symm.trans (u.apply_id r).symm))
  obtain ⟨m, hm, hle⟩ := hcolumn
  obtain ⟨m', hm', hle'⟩ := hevolves.confirmations hstate m hm
  obtain rfl := Option.some.inj (hrequired.symm.trans hm')
  exact (hle.trans hle').trans x.le

/-- The raise has left the row prepared or later. -/
theorem not_beforePrepare {mid : List Move} {r : Settlement}
    (hr : r ∈ (World.after (x.moment.upTo ++ mid)).db.settlements) (hid : r.id = old.id) :
    r.state.beforePrepare = false := by
  obtain ⟨row, hrow, hrowid, -, hstate⟩ := x.column
  exact ((World.row_evolves hrow hr (hid.trans hrowid.symm)).prepared hstate).2

/-- Between the raise of the pass and its commit, only its own process acts. -/
theorem state_eq_of_between {mid later : List Move} {m : Move} {s : Thread} {o : Op}
    (hrun : World.Always (fun w m => w.solo m = true) before)
    (hbetween : before = x.moment.upTo ++ mid ++ [m] ++ later)
    (hissued : (World.after (x.moment.upTo ++ mid)).issued? m = some (s, o)) {p : Process}
    (hp : (World.after before).processes[t.role.process]? = some p) (halive : p.alive = true) :
    s.role.state = t.role.state := by
  have hupto : x.moment.upTo ++ mid = x.moment.before ++ (.step x.tid x.moment.env :: mid) := by
    simp [World.Moment.upTo]
  have hwhole : before =
      x.moment.before ++ (.step x.tid x.moment.env :: mid ++ m :: later) := by
    rw [hupto] at hbetween
    simpa using hbetween
  have hprocess := congrArg (fun moves => (World.after moves).processes[t.role.process]?) hwhole
  obtain ⟨q, hq, hstate⟩ := World.hosted_after _ _ (List.mem_of_getElem? x.moment.threads)
  rw [x.moment.role_eq] at hq hstate
  rw [hupto] at hissued
  rw [hwhole, ← List.append_assoc] at hrun
  exact (World.state_eq_of_solo (Run.always_append.mp hrun).1 hq (hprocess.symm.trans hp) halive
    hissued).trans hstate

end ReadDepth

/-- The depth that is stored with a terminal EVM row is at least the one its bytes were journaled
with, the one of the policy it was reserved under, and the configured depth of every process that
raised the row: of a succeeded row in every run, of a failed one when one process runs at a time. -/
theorem depth_only_tightens (moves : List Move) (row : Settlement)
    (hrow : row ∈ (World.after moves).db.settlements) (hkind : row.chainKind = .eip155)
    (hterminal : row.state.isTerminal = true) (depth : Int)
    (hdepth : row.confirmations = some depth) :
    (∃ gasLimit maxFeePerGas admission,
      evmPolicySnapshot row = .ok (gasLimit, maxFeePerGas, admission) ∧ (admission : Int) ≤ depth) ∧
    (∀ s r entry, World.Rewrote moves s r (.prepareEvm entry) → r.id = row.id →
      entry.requiredConfirmations ≤ depth) ∧
    (row.state = .succeeded ∨ World.Always (fun w m => w.solo m = true) moves →
      ∀ s r minimum, World.Rewrote moves s r (.raise minimum) → r.id = row.id →
        ∃ k, s.role.state.provider.requiredConfirmations = some k ∧ (k : Int) ≤ depth) := by
  obtain ⟨t, old, entry, hterminated, hid⟩ := World.exists_terminated moves hrow hterminal
  have hlast := hterminated.evolves hrow hid.symm
  obtain ⟨before, m, rest, op, hsplit, hissued, htarget, hupdated⟩ := hterminated
  have hended : entry.state.isTerminal = true := hupdated.allowed.1
  obtain ⟨hstate, -, -, -, hconfirmations, -⟩ := hlast.terminal hended
  obtain ⟨rfl, hentryid⟩ := StoreOp.eq_of_target_terminate htarget
  obtain ⟨tid, env, p, next, -, ht, hp, hcall, hpermits⟩ := World.exists_of_issued? hissued
  have hmem := List.mem_of_getElem? ht
  obtain ⟨x⟩ := TerminalJustified.readDepth hmem (World.justified_after before hmem hcall).store
    hupdated.mem hentryid (hconfirmations.symm.trans hdepth)
  -- The moments of the run, in the order in which they are compared with the raise of the pass.
  have hraise : moves = x.moment.before ++ .step x.tid x.moment.env :: (x.moment.rest ++ m :: rest) := by
    rw [hsplit]
    nth_rewrite 1 [x.moment.split]
    simp
  refine ⟨?_, ?_, ?_⟩
  · obtain ⟨gasLimit, maxFeePerGas, admission, hsnapshot, hadmission⟩ := x.admission
    have hnot : (entry.state).beforePrepare = false := by
      cases hs : entry.state <;> rw [hs] at hended <;> first | rfl | cases hended
    refine ⟨gasLimit, maxFeePerGas, admission, ?_, hadmission.trans x.le⟩
    rw [← hsnapshot]
    exact evmPolicySnapshot_congr (hlast.reservation hnot).2 hlast.identity
  · rintro s r prepared ⟨before', m', rest', op', hsplit', -, -, hprepared⟩ hrid
    obtain ⟨mid, hmid⟩ | ⟨mid, hmid⟩ := World.moments_order (hsplit'.symm.trans hraise)
    · exact x.le_of_earlier hmid hprepared.apply_mem (hrid.trans hid.symm) rfl ⟨_, rfl, le_rfl⟩
    · -- The bytes were journaled on a reserved row, so not after the raise.
      have hr := hprepared.mem
      rw [hmid] at hr
      have hlater := x.not_beforePrepare hr (hrid.trans hid.symm)
      rw [hprepared.allowed.2] at hlater
      cases hlater
  · intro hcase s r minimum hraised hrid
    obtain ⟨k, hk, hminimum⟩ := hraised.minimum_eq
    refine ⟨k, hk, ?_⟩
    have hraisedState : ((RowUpdate.raise minimum).apply r).state.beforePrepare = false := by
      obtain ⟨_, _, _, _, -, -, -, hupdated'⟩ := hraised
      exact not_beforePrepare_of_inFlight hupdated'.allowed.2
    have hraisedColumn : ∃ n ∈ ((RowUpdate.raise minimum).apply r).requiredConfirmations,
        (k : Int) ≤ n := ⟨_, rfl, hminimum ▸ le_max_right _ _⟩
    obtain hsucceeded | hrun := hcase
    · obtain ⟨n, hn, hle⟩ := hraised.le_column hrow hrid.symm hraisedState hraisedColumn
      obtain ⟨d, hd, c, hc, hchecked⟩ :=
        ((World.after moves).db.constraints.checks row hrow).evmSuccessConfirmations
          ⟨hkind, hsucceeded⟩
      obtain rfl := Option.some.inj (hd.symm.trans hdepth)
      obtain rfl := Option.some.inj (hc.symm.trans hn)
      exact hle.trans hchecked
    · obtain ⟨before', m', rest', op', hsplit', hissued', htarget', hupdated'⟩ := hraised
      obtain ⟨mid, hmid⟩ | ⟨mid, hmid⟩ := World.moments_order (hsplit'.symm.trans hraise)
      · exact x.le_of_earlier hmid hupdated'.apply_mem (hrid.trans hid.symm) hraisedState
          hraisedColumn
      obtain ⟨mid', hmid'⟩ | ⟨mid', hmid'⟩ := World.moments_order (hsplit.symm.trans hsplit')
      · -- A terminal row is not raised.
        have hrow' := hupdated'.apply_mem
        rw [hmid'] at hrow'
        have hevolves := World.row_evolves hupdated.apply_mem hrow'
          (((RowUpdate.raise minimum).apply_id r).trans (hrid.trans hid.symm))
        have hsame : r.state = entry.state := (hevolves.terminal hended).1
        have hlanded := not_inFlight_of_isTerminal hended
        rw [← hsame, hupdated'.allowed.2] at hlanded
        cases hlanded
      · have hstate' : s.role.state = t.role.state := by
          refine x.state_eq_of_between ?_ (hmid ▸ hmid') (hmid ▸ hissued') hp
            (Process.alive_of_permits hpermits)
          rw [hsplit] at hrun
          exact (Run.always_append.mp hrun).1
        obtain ⟨k', hk', hminimum'⟩ := x.configured
        rw [hstate', hk'] at hk
        obtain rfl := Option.some.inj hk
        rw [← hminimum']
        exact (raiseConfirmations_le x.moment.run).trans x.le

end

/-! ## A mined transaction -/

namespace Sample

/-- The receipt of a transaction in block 98, at a price of 10 and a layer-one fee of 5. -/
def receipt (status gasUsed : String) (hash : Hash32) [EvmPrimitives] : Json := .object [
  ("transactionHash", .string (b256Text hash)), ("blockNumber", .string "0x62"),
  ("blockHash", .string (b256Text 3)), ("status", .string status), ("gasUsed", .string gasUsed),
  ("effectiveGasPrice", .string "0xa"), ("l1Fee", .string "0x5")]

/-- The answers of nodes that have mined the transaction. -/
def mined (status gasUsed : String) [EvmPrimitives] : (query : Query) → query.Answer
  | .evmReceipt _ hash => .ok (some (receipt status gasUsed hash))
  | query => answer query

end Sample

section
open Sample

local instance confirmationsNear : NearPrimitives := nearPrimitives
local instance confirmationsEvm : EvmPrimitives := evmPrimitives

/-- The worker has sent its transaction, and the reconciliation task finds it mined at depth 3. -/
def Sample.baseMined : List Move :=
  baseClaimed "1000" ++ steps answer 36 5 ++ steps (mined "0x1" "0xc350") 22 2

set_option maxRecDepth 100000 in
/-- No request but the first has come, and its row is settled with the bytes that were sent. -/
theorem Sample.baseMined_settled : (World.after baseMined).threads.length ≤ 6 ∧
    ∃ row ∈ (World.after baseMined).db.settlements, row.chainKind = .eip155 ∧
      row.state = .succeeded ∧ row.confirmations = some 3 ∧ row.submittedTxRlp.isSome := by
  decide +kernel

theorem depth_only_tightens_mined :
    ∃ row ∈ (World.after baseMined).db.settlements, row.state = .succeeded ∧
      row.confirmations = some 3 ∧
      ∀ s r minimum, World.Rewrote baseMined s r (.raise minimum) → r.id = row.id →
        ∃ k, s.role.state.provider.requiredConfirmations = some k ∧ (k : Int) ≤ 3 := by
  obtain ⟨-, row, hrow, hkind, hstate, hdepth, -⟩ := baseMined_settled
  exact ⟨row, hrow, hstate, hdepth, (depth_only_tightens baseMined row hrow hkind
    (by rw [hstate]; rfl) 3 hdepth).2.2 (.inl hstate)⟩

end

end X402Facilitator
