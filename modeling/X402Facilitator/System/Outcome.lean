import X402Facilitator.System.Broadcast

/-!
# Terminal rows

A row becomes `succeeded` or `failed` by one statement of one thread. What that thread has seen about
the row's own transaction, in the session in which it makes the statement, is the evidence for the
result. Success always has evidence. Failure has it too, except for a worker that has prepared nothing
and fails its row all the same: such a worker can be stale.
-/

namespace X402Facilitator

open Program

section
variable [NearPrimitives] [EvmPrimitives]

/-- A row turns terminal by a statement of one thread on the row as it was. -/
theorem World.Stepped.exists_terminate {w w' : World} {m : Move} (h : w.Stepped m w')
    {row : Settlement} (hrow : row ∈ w'.db.settlements) (hterminal : row.state.isTerminal = true)
    (hnew : ∀ old ∈ w.db.settlements, old.id = row.id → old.state ≠ row.state) :
    ∃ t entry old, w.issued? m = some (t, .store (.markTerminal entry)) ∧
      entry.settlementId = old.id ∧ Updated w.db w'.db old (.terminate entry) ∧
      row = (RowUpdate.terminate entry).apply old := by
  obtain hkept | ⟨now, -, -, rfl⟩ | ⟨hissued, htarget, hupdated, rfl⟩ := h.rowStep hrow
  · exact absurd rfl (hnew row hkept rfl)
  · cases hterminal
  · rename_i t op old u
    have hsame : (u.apply old).state ≠ old.state := (hnew old hupdated.mem (u.apply_id old).symm).symm
    cases u with
    | terminate entry =>
      obtain ⟨rfl, hid⟩ := StoreOp.eq_of_target_terminate htarget
      exact ⟨t, entry, old, hissued, hid, hupdated, rfl⟩
    | note | raise => exact absurd rfl hsame
    | release | resume | prepare | prepareEvm | submit => cases hterminal

/-! ## The row's own transaction -/

/-- The columns of a NEAR row name this transaction, relayer, payer and asset. -/
structure Settlement.OwnsNear (row : Settlement) (hash : CryptoHash)
    (relayer payer asset : AccountId) : Prop where
  kind : row.chainKind = .near
  hash : row.outerTransactionHash = some (hashText hash)
  relayer : row.relayerAccountId = some relayer.text
  payer : row.payer = payer.text
  asset : row.asset = asset.text

/-- The columns of an EVM row name this transaction. -/
structure Settlement.OwnsEvm (row : Settlement) (hash : Hash32) : Prop where
  kind : row.chainKind = .eip155
  hash : row.submittedTxHash = some (b256Text hash)

/-- A final outcome of the transaction of a known row is one of the journal's row. -/
theorem SawOwnFinal.ownsNear {db : Db} {h : History Op.Answer} {r row : Settlement}
    {hash : CryptoHash} {relayer payer asset : AccountId} {outcome : FinalExecutionOutcomeView}
    (hfinal : SawOwnFinal h r hash relayer payer asset outcome) (hrow : db.Holds r row)
    (hsound : row.Sound) : row.OwnsNear hash relayer payer asset := by
  obtain ⟨text, htext, hparse⟩ := hfinal.hash
  have hcolumn : row.outerTransactionHash = some text :=
    (congrArg RowSubmission.outerTransactionHash hrow.submission).trans htext
  obtain ⟨-, -, hnone⟩ | ⟨signed, hbytes, hhash, -⟩ := hsound.near
  · simp [hnone] at hcolumn
  have hkind := hrow.near (by simp [hbytes])
  obtain rfl := Option.some.inj (hcolumn.symm.trans hhash)
  rw [parseHash_hashText] at hparse
  obtain rfl := Option.some.inj hparse
  refine ⟨hkind, hhash,
    (congrArg RowSubmission.relayerAccountId hrow.submission).trans hfinal.relayer,
    (congrArg RowIdentity.payer hrow.identity).trans hfinal.payer, ?_⟩
  refine eq_of_eqIgnoreAsciiCase (hsound.asset hkind) asset.valid ?_
  rw [show row.asset = r.asset from congrArg RowIdentity.asset hrow.identity]
  exact hfinal.asset

theorem SawOwnReceipt.ownsEvm {db : Db} {h : History Op.Answer} {r row : Settlement}
    {hash : Hash32} {facts : ReceiptFacts} {chainId headBlock : Nat}
    (hreceipt : SawOwnReceipt h r hash facts chainId headBlock) (hrow : db.Holds r row)
    (hsound : row.Sound) : row.OwnsEvm hash := by
  obtain ⟨text, htext, hparse⟩ := hreceipt.hash
  have hcolumn : row.submittedTxHash = some text :=
    (congrArg RowSubmission.submittedTxHash hrow.submission).trans htext
  obtain ⟨hash', rfl⟩ := hsound.evmHash text hcolumn
  rw [parseB256_b256Text] at hparse
  obtain rfl := Option.some.inj hparse
  refine ⟨hrow.evm ?_, hcolumn⟩
  rw [hrow.submittedTxRlp]
  exact hreceipt.signed

/-! ## Success -/

/-- The evidence on which a row is succeeded, as it is stored. -/
inductive Settlement.SucceededOn (h : History Op.Answer) (row : Settlement) : Prop
  /-- A final outcome of the row's own transaction, in which the only direct child of the delegate
  receipt on the row's asset returned a success value. -/
  | near {hash : CryptoHash} {relayer payer asset : AccountId}
      {outcome : FinalExecutionOutcomeView} {network : String}
      (hown : row.OwnsNear hash relayer payer asset) (hseen : SawFinal h hash outcome)
      (hidentifies : outcome.Identifies hash relayer payer)
      (htransfer : outcome.TransferSucceeded payer asset)
      (hbody : row.terminalResponseBytes =
        some (SettleResponse.succeeded row.payer (hashText hash) network).bytes)
  /-- The same success receipt from both readers, before and after a head that is deep enough for the
  row's required confirmations. -/
  | evm {hash : Hash32} {facts : ReceiptFacts} {chainId headBlock : Nat} {required : Int}
      {network : String} (hown : row.OwnsEvm hash)
      (hseen : SawConfirmed h hash facts chainId headBlock) (hsuccess : facts.success = true)
      (hblock : facts.blockNumber ≤ headBlock)
      (hrequired : row.requiredConfirmations = some required)
      (hdepth : required ≤ (headBlock - facts.blockNumber + 1 : Nat))
      (hbody : row.terminalResponseBytes =
        some (SettleResponse.succeeded row.payer (b256Text hash) network).bytes)

/-- A success that a thread saw, written on the journal's row. -/
theorem SawSuccess.succeededOn {db : Db} {state : AppState} {h : History Op.Answer}
    {r row : Settlement} {entry : TerminalJournalEntry} (hseen : SawSuccess state h r entry)
    (hrow : db.Holds r row) (hsound : row.Sound)
    (hchecks : ((RowUpdate.terminate entry).apply row).Checks) (hstate : entry.state = .succeeded) :
    ((RowUpdate.terminate entry).apply row).SucceededOn h := by
  have hpayer : row.payer = r.payer := congrArg RowIdentity.payer hrow.identity
  cases hseen with
  | near hprovider hfinal htransfer hbody =>
    have hown := hfinal.ownsNear hrow hsound
    rw [← hpayer] at hbody
    exact .near { hown with } hfinal.seen hfinal.identifies htransfer (congrArg some hbody)
  | evm hprovider hreceipt hsuccess hdepth hbody =>
    have hown := hreceipt.ownsEvm hrow hsound
    -- The CHECK on a succeeded EVM row compares with the confirmations that are stored right now.
    obtain ⟨n, hn, required, hrequired, hle⟩ := hchecks.evmSuccessConfirmations ⟨hown.kind, hstate⟩
    have hn' := toI32_eq_some (hdepth.symm.trans hn)
    rw [← hpayer] at hbody
    refine .evm { hown with } hreceipt.seen hsuccess hreceipt.block hrequired ?_
      (congrArg some hbody)
    unfold depthUnder at hn'
    omega

/-- The evidence on which a row with signed bytes is failed. -/
inductive Settlement.FailedOn (h : History Op.Answer) (row : Settlement) : Prop
  /-- A typed definitive execution failure in a final outcome of the row's own transaction. -/
  | definitive {hash : CryptoHash} {relayer payer asset : AccountId}
      {outcome : FinalExecutionOutcomeView} {error : ReceiptValidationError}
      (hown : row.OwnsNear hash relayer payer asset) (hseen : SawFinal h hash outcome)
      (hidentifies : outcome.Identifies hash relayer payer)
      (herror : interpretFinalOutcome outcome payer asset = .error error)
      (hdefinitive : error.isDefinitiveFailure = true)
  /-- A reverted receipt from both readers at the depth that the journal required. -/
  | reverted {hash : Hash32} {facts : ReceiptFacts} {chainId headBlock : Nat}
      {minimum required : Int} (hown : row.OwnsEvm hash)
      (hseen : SawConfirmed h hash facts chainId headBlock) (hreverted : facts.success = false)
      (hblock : facts.blockNumber ≤ headBlock)
      (hrequired : Stored h (.raiseConfirmations row.id minimum) (some required))
      (hdepth : required ≤ (headBlock - facts.blockNumber + 1 : Nat))
  /-- A typed rejection of exactly the journaled bytes. -/
  | rejected {bytes : Bytes} {signed : SignedTransaction}
      (hbytes : row.outerTransactionBytes = some bytes)
      (hdecode : decodeSignedTransaction bytes = .ok signed)
      (hrejected : Asked h (.nearSend signed) (.error .transactionRejected))
  /-- Both lookups are unknown, no reader's nonce has reached the prepared one, and the delegate
  action has expired. -/
  | expired {relayer : NearProvider} (hexpired : SawExpired h row relayer)

/-- Evidence about a known row is evidence about the journal's row. -/
theorem SawFailure.failedOn {db : Db} {state : AppState} {h : History Op.Answer}
    {r row : Settlement} {entry : TerminalJournalEntry} (hseen : SawFailure state h r)
    (hrow : db.Holds r row) (hsound : row.Sound) :
    ((RowUpdate.terminate entry).apply row).FailedOn h := by
  cases hseen with
  | definitive hprovider hfinal herror hdefinitive =>
    have hown := hfinal.ownsNear hrow hsound
    exact .definitive { hown with } hfinal.seen hfinal.identifies herror hdefinitive
  | reverted hprovider hreceipt hreverted hrequired hdepth =>
    have hown := hreceipt.ownsEvm hrow hsound
    rw [← hrow.id_eq] at hrequired
    refine .reverted { hown with } hreceipt.seen hreverted hreceipt.block hrequired ?_
    unfold depthUnder at hdepth
    omega
  | rejected hbytes hdecode hrejected =>
    exact .rejected (hrow.outerTransactionBytes.trans hbytes) hdecode hrejected
  | expired hprovider hexpired =>
    obtain ⟨haccount, hkey, ⟨text, hash, signer, htext, hparse, hunknown⟩,
      ⟨nonce, hnonce, hreaders⟩, ⟨expiry, hexpiry, hreached⟩⟩ := hexpired
    exact .expired ⟨(congrArg RowSubmission.relayerAccountId hrow.submission).trans haccount,
      (congrArg RowSubmission.relayerPublicKey hrow.submission).trans hkey, ⟨text, hash, signer,
      (congrArg RowSubmission.outerTransactionHash hrow.submission).trans htext, hparse, hunknown⟩,
      ⟨nonce, (congrArg RowSubmission.relayerNonce hrow.submission).trans hnonce, hreaders⟩,
      ⟨expiry, (congrArg RowIdentity.delegateMaxBlockHeight hrow.identity).trans hexpiry, hreached⟩⟩

/-- The operations whose answers say something about a transaction. -/
def Op.reports : Op → Bool
  | ask (.nearTransaction ..) | ask (.nearSend _) | ask (.evmReceipt ..) => true
  | _ => false

/-- A thread that has asked about no transaction has no evidence. -/
theorem Settlement.FailedOn.exists_report {h : History Op.Answer} {row : Settlement}
    (hfailed : row.FailedOn h) : ∃ e ∈ h, e.op.reports = true := by
  cases hfailed with
  | definitive hown hseen hidentifies herror hdefinitive =>
    obtain ⟨reader, signer, hasked⟩ | ⟨signed, hasked⟩ := hseen
    · exact ⟨_, hasked, rfl⟩
    · exact ⟨_, hasked, rfl⟩
  | reverted hown hseen hreverted hblock hrequired hdepth =>
    obtain ⟨later, middle, earlier, rest, rfl, -, -, hreceipts⟩ := hseen
    obtain ⟨value, hasked, -⟩ := hreceipts .primary
    exact ⟨_, List.mem_append_left _ hasked, rfl⟩
  | rejected hbytes hdecode hrejected => exact ⟨_, hrejected, rfl⟩
  | expired hexpired =>
    obtain ⟨text, hash, signer, -, -, hunknown⟩ := hexpired.unknown
    obtain ⟨answer, hasked, -⟩ := hunknown .primary
    exact ⟨_, hasked, rfl⟩

/-- The move lets a worker that has prepared nothing itself fail its row, which another worker has
prepared or submitted in the meantime. -/
def World.staleFailure (w : World) (m : Move) : Bool :=
  match w.issued? m with
  | some (t, .store (.markTerminal entry)) =>
    t.role.task.isWorker && (session t.past).all (fun e => !e.op.prepares) &&
      (w.db.settlement? entry.settlementId).any (·.state.inFlight)
  | _ => false

/-- In a run in which no worker fails a row that was prepared behind its back, a prepared or submitted
row becomes failed only on evidence about its own journaled transaction. -/
theorem no_false_failure (moves : List Move)
    (hrun : World.Always (fun w m => w.staleFailure m = false) moves)
    (before : List Move) (m : Move) (rest : List Move) (hmoves : moves = before ++ m :: rest)
    (old row : Settlement) (hold : old ∈ (World.after before).db.settlements)
    (hflight : old.state.inFlight = true)
    (hrow : row ∈ (World.after (before ++ [m])).db.settlements) (hid : row.id = old.id)
    (hfailed : row.state = .failed) :
    ∃ t entry, (World.after before).issued? m = some (t, .store (.markTerminal entry)) ∧
      entry.settlementId = row.id ∧ row.FailedOn (session t.past) := by
  subst hmoves
  have hfresh := hrun.at
  rw [World.after_concat] at hrow
  have hnew : ∀ old' ∈ (World.after before).db.settlements, old'.id = row.id →
      old'.state ≠ row.state := by
    intro old' hold' hid' hstate
    obtain rfl := Db.eq_of_id _ hold' hold (hid'.trans hid)
    rw [hstate, hfailed] at hflight
    cases hflight
  obtain ⟨t, entry, old', hissued, hentry, hupdated, rfl⟩ :=
    ((World.after before).stepped m).exists_terminate hrow (by rw [hfailed]; rfl) hnew
  obtain rfl : old' = old := Db.eq_of_id _ hupdated.mem hold hid
  refine ⟨t, entry, hissued, hentry, ?_⟩
  obtain ⟨ht, next, hcall⟩ := World.issued?_eq_some hissued
  have hjustified : TerminalJustified t.role (session t.past) entry :=
    (World.justified_after before ht hcall).store
  obtain ⟨hworker, hnothing⟩ | ⟨r, hr, hrid, hseen⟩ := hjustified.failed hfailed
  · have hstale : (World.after before).staleFailure m = true := by
      simp [World.staleFailure, hissued, hworker, Db.settlement?_eq_some.mpr ⟨hold, hentry.symm⟩,
        hflight]
      exact hnothing
    cases hfresh.symm.trans hstale
  · obtain ⟨row, hholds⟩ := hr.holds (World.attested_after before t ht).session
    obtain rfl : row = old' := Db.eq_of_id _ hholds.mem hold
      (hholds.id_eq.trans (hrid.trans hentry))
    exact hseen.failedOn hholds (World.sound_after before row hholds.mem)

end

/-! ## Runs of the sample deployment -/

namespace Sample

/-- A final outcome with this status of the token receipt. -/
def finalOutcome (status : ExecutionStatusView) : FinalExecutionOutcomeView where
  status := .successValue []
  transactionHash := 8
  signerId := relayer
  receiverId := alice
  transactionOutcome := ⟨8, [20], 1, 1, relayer, .successReceiptId 20, []⟩
  receiptsOutcome := [⟨20, [21], 1, 1, alice, .successReceiptId 21, []⟩, ⟨21, [], 1, 1, usdc, status, []⟩]
  rest := []

/-- The node that takes the transaction reports it final. -/
def executed : (query : Query) → query.Answer
  | .nearSend _ => .ok (.final (finalOutcome (.successValue [])))
  | query => answer query

/-- The node that takes the transaction rejects it. -/
def rejected : (query : Query) → query.Answer
  | .nearSend _ => .error .transactionRejected
  | query => answer query

/-- The worker of the row has marked it submitted and is about to send. -/
def submitted : List Move := claimed ++ steps answer 32 5

def settled : List Move := submitted ++ steps executed 1 5

def refused : List Move := submitted ++ steps rejected 1 5

/-- The leadership connection is lost. -/
def disconnected : (query : Query) → query.Answer
  | .heartbeat => .lost
  | query => answer query

/-- Verification finds the payment invalid: its delegate nonce has been used. -/
def invalid : (query : Query) → query.Answer
  | .nearPayerKey .. => .ok ⟨3, .fullAccess⟩
  | query => answer query

/-- The worker of the row, thread 5, has passed `can_settle` and waits for its verification. Then its
process loses leadership, and a second process becomes the leader, threads 6 to 9, and releases the
row in its first pass. -/
def handover : List Move :=
  claimed ++ steps answer 5 5 ++ steps disconnected 3 1 ++ [.start config [] false 5] ++
    steps answer 14 6 ++ steps answer 6 7 ++ steps answer 16 8

/-- The client repeats its request at the second process, thread 10, which resumes the row; its worker,
thread 11, sends the transaction. Only now the verification of thread 5 is answered. -/
def stale : List Move :=
  handover ++ [.request 1 3] ++ steps answer 22 10 ++ steps answer 33 11 ++ steps invalid 2 5

end Sample

section
local instance outcomeNear : NearPrimitives := Sample.nearPrimitives
local instance outcomeEvm : EvmPrimitives := Sample.evmPrimitives

set_option maxRecDepth 100000 in
theorem no_false_failure_refused :
    ∃ row ∈ (World.after (Sample.refused ++ [Sample.next 5])).db.settlements,
      row.state = .failed ∧ ∃ t entry,
        (World.after Sample.refused).issued? (Sample.next 5)
          = some (t, .store (.markTerminal entry)) ∧
        entry.settlementId = row.id ∧ row.FailedOn (session t.past) := by
  have hrun : World.Always (fun w m => w.staleFailure m = false)
      (Sample.refused ++ [Sample.next 5]) := by decide +kernel
  have hstates : (World.after Sample.refused).db.settlements.map (fun r => (r.id, r.state))
        = [(1, .submitted)] ∧
      ((World.after Sample.refused).step (Sample.next 5)).db.settlements.map
        (fun r => (r.id, r.state)) = [(1, .failed)] := by decide +kernel
  rw [← World.after_concat] at hstates
  obtain ⟨old, hold, hold'⟩ := List.mem_map.mp (hstates.1 ▸ List.mem_singleton_self _)
  obtain ⟨row, hrow, hrow'⟩ := List.mem_map.mp (hstates.2 ▸ List.mem_singleton_self _)
  obtain ⟨hid, hsubmitted⟩ := Prod.mk.inj hold'
  obtain ⟨hid', hfailed⟩ := Prod.mk.inj hrow'
  exact ⟨row, hrow, hfailed, no_false_failure _ hrun Sample.refused _ [] rfl old row hold
    (by rw [hsubmitted]; rfl) hrow (hid'.trans hid.symm) hfailed⟩

set_option maxRecDepth 100000 in
/-- A worker whose process lost leadership fails a row that the next leader has submitted, without
having asked any RPC node about the transaction. -/
theorem stale_worker_fails_submitted_row :
    ∃ old ∈ (World.after Sample.stale).db.settlements, old.state = .submitted ∧
      ∃ row ∈ (World.after (Sample.stale ++ [Sample.next 5])).db.settlements,
        row.id = old.id ∧ row.state = .failed ∧ ∀ t o,
          (World.after Sample.stale).issued? (Sample.next 5) = some (t, o) →
            ¬ row.FailedOn t.past := by
  have hstates : (World.after Sample.stale).db.settlements.map (fun r => (r.id, r.state))
        = [(1, .submitted)] ∧
      ((World.after Sample.stale).step (Sample.next 5)).db.settlements.map
        (fun r => (r.id, r.state)) = [(1, .failed)] ∧
      ((World.after Sample.stale).issued? (Sample.next 5)).map
        (fun (t, _) => t.past.any (·.op.reports)) = some false := by decide +kernel
  rw [← World.after_concat] at hstates
  obtain ⟨hbefore, hafter, hreports⟩ := hstates
  obtain ⟨old, hold, hold'⟩ := List.mem_map.mp (hbefore ▸ List.mem_singleton_self _)
  obtain ⟨row, hrow, hrow'⟩ := List.mem_map.mp (hafter ▸ List.mem_singleton_self _)
  obtain ⟨hid, hsubmitted⟩ := Prod.mk.inj hold'
  obtain ⟨hid', hfailed⟩ := Prod.mk.inj hrow'
  refine ⟨old, hold, hsubmitted, row, hrow, hid'.trans hid.symm, hfailed, ?_⟩
  intro t o hissued hfailedOn
  rw [hissued] at hreports
  obtain ⟨e, he, hreport⟩ := hfailedOn.exists_report
  exact List.any_eq_false.mp (Option.some.inj hreports) e he hreport

end

end X402Facilitator
