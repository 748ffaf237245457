import X402Facilitator.System.Rows

/-!
# Where a row comes from

Every row of the journal goes back to one claim of an admitted request, whose columns it still has.
Its policy is the one of the request that claimed or resumed it last, and its signed bytes are those
that one worker journaled. The facts are about the operations and the answers of the run itself, so
that an assumption on what nodes and clients answer can be applied to them.
-/

namespace X402Facilitator

open Program

section
variable [NearPrimitives] [EvmPrimitives]

namespace World

variable {moves : List Move} {m : Move} {t : Thread} {o : Op}

/-! ## Operations and answers of a run -/

/-- In the course of the run, the thread issued the operation. -/
def Issued (moves : List Move) (t : Thread) (o : Op) : Prop :=
  ∃ before m rest, moves = before ++ m :: rest ∧ (after before).issued? m = some (t, o)

theorem Issued.concat (h : Issued moves t o) : Issued (moves ++ [m]) t o := by
  obtain ⟨before, m', rest, rfl, hissued⟩ := h
  exact ⟨before, m', rest ++ [m], by simp, hissued⟩

theorem Issued.last (h : (after moves).issued? m = some (t, o)) : Issued (moves ++ [m]) t o :=
  ⟨moves, m, [], rfl, h⟩

/-- What a thread issues against the database is justified by its session. -/
theorem Issued.justified {op : StoreOp} (h : Issued moves t (.store op)) :
    Justified t.role (session t.past) (.store op) := by
  obtain ⟨before, m, rest, -, hissued⟩ := h
  obtain ⟨ht, next, hcall⟩ := issued?_eq_some hissued
  exact (justified_after before ht hcall).store

/-- What a thread has done when it issues an operation is in the log of the run. -/
theorem Issued.logged (h : Issued moves t o) {e : Event Op.Answer} (he : e ∈ t.past) :
    ∃ entry ∈ (after moves).log, entry.event = e := by
  obtain ⟨before, m, rest, rfl, hissued⟩ := h
  obtain ⟨tid, htid⟩ := List.getElem?_of_mem (issued?_eq_some hissued).1
  rw [← (logged_after before).own htid, own] at he
  obtain ⟨entry, hentry, rfl⟩ := List.mem_map.mp he
  exact ⟨entry, (log_suffix before (m :: rest)).subset (List.mem_filter.mp hentry).1, rfl⟩

/-- A statement that a thread has been told of is in the database from then on. -/
theorem Issued.attested (h : Issued moves t o) {op : StoreOp} {reply : op.Reply}
    (hstored : Stored t.past op reply) : op.Attests (after moves).db reply := by
  obtain ⟨before, m, rest, rfl, hissued⟩ := h
  have hattests := attested_after before t (issued?_eq_some hissued).1 op reply hstored
  exact hattests.mono (db_evolves before (m :: rest))

/-! ## Rows -/

/-- A property of rows, relative to the run so far, that a claim establishes and every update
keeps. -/
theorem rows_after {Q : List Move → Settlement → Prop}
    (hkept : ∀ moves m r, Q moves r → Q (moves ++ [m]) r)
    (hclaimed : ∀ moves t new usageDate now,
      Issued moves t (.store (.claimReservation new usageDate)) → Q moves (new.row usageDate now))
    (hupdated : ∀ moves t op r u, Issued moves t (.store op) → op.target = some (r.id, u) →
      u.Allowed r → Q moves r → Q moves (u.apply r))
    (moves : List Move) : ∀ r ∈ (after moves).db.settlements, Q moves r := by
  induction moves using List.reverseRecOn with
  | nil => simp [after, init, Run.after_nil, Db.empty]
  | append_singleton moves m ih =>
    rw [after_concat]
    intro row hrow
    obtain h | ⟨now, hissued, -, rfl⟩ | ⟨hissued, htarget, hupd, rfl⟩ :=
      ((after moves).stepped m).rowStep hrow
    · exact hkept moves m row (ih row h)
    · exact hclaimed _ _ _ _ now (.last hissued)
    · exact hupdated _ _ _ _ _ (.last hissued) htarget hupd.allowed
        (hkept moves m _ (ih _ hupd.mem))

/-- The claim that a row goes back to. -/
structure ClaimOf (moves : List Move) (r : Settlement) (t : Thread) (new : NewSettlement) :
    Prop where
  issued : ∃ usageDate, Issued moves t (.store (.claimReservation new usageDate))
  identity : ∃ usageDate now, r.identity = (new.row usageDate now).identity

theorem ClaimOf.justified {r : Settlement} {new : NewSettlement} (h : ClaimOf moves r t new) :
    ClaimJustified t.role.state t.past new := by
  obtain ⟨usageDate, hissued⟩ := h.issued
  exact ClaimJustified.mono (session_subset _) hissued.justified

/-- Every row was claimed. -/
theorem exists_claim (moves : List Move) :
    ∀ r ∈ (after moves).db.settlements, ∃ t new, ClaimOf moves r t new := by
  refine rows_after (Q := fun moves r => ∃ t new, ClaimOf moves r t new) ?_ ?_ ?_ moves
  · rintro moves m r ⟨t, new, ⟨usageDate, hissued⟩, hidentity⟩
    exact ⟨t, new, ⟨usageDate, hissued.concat⟩, hidentity⟩
  · intro moves t new usageDate now hissued
    exact ⟨t, new, ⟨usageDate, hissued⟩, usageDate, now, rfl⟩
  · rintro moves - - r u - - - ⟨t, new, hissued, usageDate, now, hidentity⟩
    exact ⟨t, new, hissued, usageDate, now, (u.apply_identity r).trans hidentity⟩

/-- The policy of a row is that of a process which claimed or resumed it. -/
theorem exists_policy (moves : List Move) : ∀ r ∈ (after moves).db.settlements,
    ∃ t op, Issued moves t (.store op) ∧
      r.policySnapshot = t.role.state.config.policySnapshot := by
  refine rows_after (Q := fun moves r => ∃ t op, Issued moves t (.store op) ∧
      r.policySnapshot = t.role.state.config.policySnapshot) ?_ ?_ ?_ moves
  · rintro moves m r ⟨t, op, hissued, hpolicy⟩
    exact ⟨t, op, hissued.concat, hpolicy⟩
  · intro moves t new usageDate now hissued
    refine ⟨t, _, hissued, ?_⟩
    obtain ⟨id, client, request, paymentHash, verified, -, rfl⟩ := hissued.justified
    exact newSettlement_policySnapshot ..
  · rintro moves t op r u hissued htarget - hr
    cases u with
    | resume retry usageDate =>
      obtain ⟨rfl, -⟩ := StoreOp.eq_of_target_resume htarget
      obtain ⟨client, request, paymentHash, verified, record, -, -, rfl⟩ := hissued.justified
      exact ⟨t, _, hissued, rfl⟩
    | _ => exact hr

/-- The statement that journaled the signed bytes of an EVM row. -/
structure PreparedEvmBy (moves : List Move) (r : Settlement) (t : Thread)
    (entry : EvmPreparedJournalEntry) : Prop where
  issued : Issued moves t (.store (.markPreparedEvm entry))
  id : entry.settlementId = r.id
  bytes : r.submittedTxRlp = some entry.submittedTxRlp
  hash : r.submittedTxHash = some entry.submittedTxHash
  nonce : r.signerAccountNonce = some entry.signerAccountNonce

theorem exists_prepareEvm (moves : List Move) : ∀ r ∈ (after moves).db.settlements,
    r.submittedTxRlp.isSome → ∃ t entry, PreparedEvmBy moves r t entry := by
  refine rows_after (Q := fun moves r => r.submittedTxRlp.isSome →
    ∃ t entry, PreparedEvmBy moves r t entry) ?_ ?_ ?_ moves
  · intro moves m r hr hsome
    obtain ⟨t, entry, h⟩ := hr hsome
    exact ⟨t, entry, { h with issued := h.issued.concat }⟩
  · intro moves t new usageDate now _ hsome
    cases hsome
  · intro moves t op r u hissued htarget _ hr hsome
    cases u with
    | prepareEvm entry =>
      obtain ⟨rfl, hid⟩ := StoreOp.eq_of_target_prepareEvm htarget
      exact ⟨t, entry, hissued, hid, rfl, rfl, rfl⟩
    | _ =>
      obtain ⟨s, entry, h⟩ := hr hsome
      exact ⟨s, entry, h.issued, h.id, h.bytes, h.hash, h.nonce⟩

/-- The relayer columns are written together with the bytes. -/
theorem relayer_signed (moves : List Move) : ∀ r ∈ (after moves).db.settlements,
    r.relayerAccountId.isSome → r.outerTransactionBytes.isSome := by
  refine rows_after (Q := fun _ r => r.relayerAccountId.isSome → r.outerTransactionBytes.isSome)
    ?_ ?_ ?_ moves
  · exact fun moves m r hr => hr
  · intro moves t new usageDate now _ hsome
    cases hsome
  · intro moves t op r u _ _ _ hr
    cases u with
    | prepare entry => exact fun _ => rfl
    | _ => exact hr

/-! ## Rows that recovery has read -/

theorem exists_justified_of_stored (moves : List Move) (ht : t ∈ (after moves).threads)
    {op : StoreOp} {reply : op.Reply} (hstored : Stored t.past op reply) :
    ∃ h, Justified t.role h (.store op) := by
  obtain ⟨tid, past, ⟨x⟩⟩ := exists_moment_of_mem moves ht hstored
  have hjustified := justified_after x.before (List.mem_of_getElem? x.threads) x.call
  rw [x.role_eq] at hjustified
  exact ⟨_, hjustified.store⟩

/-- Recovery journals no bytes, so it knows a row with bytes only because it has read it. -/
theorem witnessed_of_reconciles (moves : List Move) (ht : t ∈ (after moves).threads)
    (htask : t.role.task.reconciles = true) {r : Settlement} (hr : Knows (session t.past) r) :
    (after moves).db.Witnessed r ∧ r.state.inFlight = true := by
  have hsettles {id : Uuid} (h : t.role.task.settles id) : False := by
    cases hworker : t.role.task with
    | settlementWorker => rw [hworker] at htask; cases htask
    | _ => rw [hworker] at h; exact h
  cases hr with
  | read hread hr hstate =>
    exact ⟨attested_after moves t ht _ _ (session_subset _ hread) r hr, hstate⟩
  | prepared hread hreserved hprepared =>
    obtain ⟨h, hjustified⟩ := exists_justified_of_stored moves ht (session_subset _ hprepared)
    exact (hsettles hjustified.1).elim
  | preparedEvm hread hreserved hprepared =>
    obtain ⟨h, hjustified⟩ := exists_justified_of_stored moves ht (session_subset _ hprepared)
    exact (hsettles hjustified.1).elim

/-! ## Configurations -/

end World

/-- A process that the move starts has this configuration and this key. -/
def Move.uses (config : ServiceConfig) (relayerKey : Bytes) : Move → Prop
  | start config' relayerKey' _ _ => config' = config ∧ relayerKey' = relayerKey
  | _ => True

instance (config : ServiceConfig) (relayerKey : Bytes) (m : Move) :
    Decidable (m.uses config relayerKey) := by
  unfold Move.uses
  split <;> infer_instance

theorem AppState.new?_eq_some {config : ServiceConfig} {relayerKey : Bytes} {state : AppState}
    (h : AppState.new? config relayerKey = some state) :
    state.config = config ∧ state.relayerKey = relayerKey := by
  unfold new? at h
  split at h
  · split at h
    · obtain rfl := Option.some.inj h
      exact ⟨rfl, rfl⟩
    · cases h
  · cases h

/-- The provider is determined by the configuration and the key. -/
theorem AppState.provider_eq {state state' : AppState} (hconfig : state.config = state'.config)
    (hkey : state.relayerKey = state'.relayerKey) : state.provider = state'.provider := by
  have hbuilt := state.built
  rw [hconfig, hkey, state'.built] at hbuilt
  exact (Except.ok.inj hbuilt).symm

namespace World

variable {moves : List Move} {config : ServiceConfig} {relayerKey : Bytes}

/-- When every process is started with one configuration and one key, all of them work with these. -/
theorem processes_use (huses : ∀ m ∈ moves, m.uses config relayerKey) :
    ∀ p ∈ (after moves).processes,
      p.state.config = config ∧ p.state.relayerKey = relayerKey := by
  induction moves using List.reverseRecOn with
  | nil => simp [after, init, Run.after_nil]
  | append_singleton moves m ih =>
    have ih := ih fun m' hm' => huses m' (List.mem_append_left _ hm')
    have huse := huses m (by simp)
    rw [after_concat]
    intro p hp
    have set {i : Nat} {q q' : Process} (hq : (after moves).processes[i]? = some q)
        (hp : p ∈ (after moves).processes.set i q') (hstate : q'.state = q.state) :
        p.state.config = config ∧ p.state.relayerKey = relayerKey := by
      obtain hp | rfl := List.mem_or_eq_of_mem_set hp
      · exact ih p hp
      · rw [hstate]
        exact ih q (List.mem_of_getElem? hq)
    have hstep := (after moves).stepped m
    generalize (after moves).step m = w' at hstep hp
    cases hstep with
    | idle | clientCreated | requested => exact ih p hp
    | started hstate =>
      obtain hp | hp := List.mem_append.mp hp
      · exact ih p hp
      · rw [List.mem_singleton.mp hp]
        obtain ⟨hconfig, hkey⟩ := AppState.new?_eq_some hstate
        exact ⟨hconfig.trans huse.1, hkey.trans huse.2⟩
    | crashed hq => exact set hq hp rfl
    | cancelled hs hq htask => exact set hq hp (Process.release_state _)
    | performed env hs hq hcall hpermits => exact set hq hp (Process.after_state _)

theorem process_after (moves more : List Move) {i : Nat} {p : Process}
    (hp : (after moves).processes[i]? = some p) :
    ∃ p', (after (moves ++ more)).processes[i]? = some p' ∧ p'.state = p.state := by
  refine invariant_from (P := fun w => ∃ p', w.processes[i]? = some p' ∧ p'.state = p.state) ?_
    ⟨p, hp, rfl⟩ more
  rintro w m w' hstep ⟨q, hq, hstate⟩
  obtain ⟨q', hq', hstate'⟩ := hstep.process_later hq
  exact ⟨q', hq', hstate'.trans hstate⟩

/-- The threads of a process work with one state. -/
theorem state_eq_of_process {moves more : List Move} {t s : Thread} (ht : t ∈ (after moves).threads)
    (hs : s ∈ (after (moves ++ more)).threads) (hprocess : s.role.process = t.role.process) :
    s.role.state = t.role.state := by
  obtain ⟨p, hp, hstate⟩ := hosted_after moves t ht
  obtain ⟨q, hq, hstate'⟩ := hosted_after (moves ++ more) s hs
  obtain ⟨p', hp', hsame⟩ := process_after moves more hp
  rw [hprocess, hp'] at hq
  obtain rfl := Option.some.inj hq
  rw [← hstate', hsame, hstate]

theorem Issued.uses {t : Thread} {o : Op} (h : Issued moves t o)
    (huses : ∀ m ∈ moves, m.uses config relayerKey) :
    t.role.state.config = config ∧ t.role.state.relayerKey = relayerKey := by
  obtain ⟨before, m, rest, rfl, hissued⟩ := h
  obtain ⟨p, hp, hstate⟩ := hosted_after before t (issued?_eq_some hissued).1
  rw [← hstate]
  exact processes_use (fun m' hm' => huses m' (List.mem_append_left _ hm')) p
    (List.mem_of_getElem? hp)

end World

end

end X402Facilitator
