import X402Facilitator.System.Discipline

/-!
# Where the columns of a row come from

The journal's columns are written by justified statements only, so they can be relied on: the NEAR
submission columns are those of one signed transaction, an EVM hash column holds a transaction hash,
and the asset of a NEAR row is an account id.
-/

namespace X402Facilitator

open Program

theorem StoreOp.eq_of_target_prepare {op : StoreOp} {id : Uuid} {entry : PreparedJournalEntry}
    (h : op.target = some (id, .prepare entry)) :
    op = .markPrepared entry ∧ entry.settlementId = id := by
  cases op with
  | markPrepared entry' =>
    obtain ⟨rfl, hentry⟩ := Prod.mk.inj (Option.some.inj h)
    obtain rfl := RowUpdate.prepare.inj hentry
    exact ⟨rfl, rfl⟩
  | _ => simp [target] at h

theorem StoreOp.eq_of_target_prepareEvm {op : StoreOp} {id : Uuid}
    {entry : EvmPreparedJournalEntry} (h : op.target = some (id, .prepareEvm entry)) :
    op = .markPreparedEvm entry ∧ entry.settlementId = id := by
  cases op with
  | markPreparedEvm entry' =>
    obtain ⟨rfl, hentry⟩ := Prod.mk.inj (Option.some.inj h)
    obtain rfl := RowUpdate.prepareEvm.inj hentry
    exact ⟨rfl, rfl⟩
  | _ => simp [target] at h

theorem StoreOp.eq_of_target_terminate {op : StoreOp} {id : Uuid} {entry : TerminalJournalEntry}
    (h : op.target = some (id, .terminate entry)) :
    op = .markTerminal entry ∧ entry.settlementId = id := by
  cases op with
  | markTerminal entry' =>
    obtain ⟨rfl, hentry⟩ := Prod.mk.inj (Option.some.inj h)
    obtain rfl := RowUpdate.terminate.inj hentry
    exact ⟨rfl, rfl⟩
  | _ => simp [target] at h

theorem StoreOp.eq_of_target_resume {op : StoreOp} {id : Uuid} {retry : RetryReservation}
    {usageDate : Day} (h : op.target = some (id, .resume retry usageDate)) :
    op = .resumeReservation retry usageDate ∧ retry.settlementId = id := by
  cases op with
  | resumeReservation retry' usageDate' =>
    obtain ⟨rfl, hretry⟩ := Prod.mk.inj (Option.some.inj h)
    obtain ⟨rfl, rfl⟩ := RowUpdate.resume.inj hretry
    exact ⟨rfl, rfl⟩
  | _ => simp [target] at h

section
variable [NearPrimitives] [EvmPrimitives]

/-- The NEAR submission columns are absent, or those of one signed transaction. -/
def Settlement.NearSigned (r : Settlement) : Prop :=
  (r.relayerNonce = none ∧ r.outerTransactionBytes = none ∧ r.outerTransactionHash = none) ∨
    ∃ signed : SignedTransaction, r.outerTransactionBytes = some (borsh signed) ∧
      r.outerTransactionHash = some (hashText (transactionHash signed.transaction)) ∧
      r.relayerAccountId = some signed.transaction.signerId.text ∧
      r.relayerPublicKey = some signed.transaction.publicKey ∧
      r.relayerNonce = some signed.transaction.nonce

/-- What holds of the columns of every row, whoever wrote them. -/
structure Settlement.Sound (r : Settlement) : Prop where
  near : r.NearSigned
  evmHash : ∀ text ∈ r.submittedTxHash, ∃ hash, text = b256Text hash
  asset : r.chainKind = .near → validAccountId r.asset = true

theorem SessionJustified.store {role : Role} {past : History Op.Answer} {op : StoreOp}
    (h : SessionJustified role past (.store op)) : Justified role (session past) (.store op) :=
  h.resolve_left (by simp [Op.locks])

namespace Settlement.Sound

theorem claim {state : AppState} {past : History Op.Answer} {new : NewSettlement}
    (hnew : ClaimJustified state past new) (usageDate : Day) (now : Nat) : (new.row usageDate now).Sound where
  near := .inl ⟨rfl, rfl, rfl⟩
  evmHash text htext := by cases htext
  asset := hnew.near

/-- A justified update keeps a row sound. -/
theorem update {role : Role} {past : History Op.Answer} {op : StoreOp} {r : Settlement}
    {u : RowUpdate} (hr : r.Sound) (hop : Justified role past (.store op))
    (htarget : op.target = some (r.id, u)) : (u.apply r).Sound := by
  cases u with
  | prepare entry =>
    obtain ⟨rfl, -⟩ := StoreOp.eq_of_target_prepare htarget
    obtain ⟨-, relayer, payment, -, -, hsigned⟩ := hop
    obtain ⟨signed, reference, hbytes, hhash, htransaction⟩ := hsigned.signed
    refine { hr with
      near := .inr ⟨signed, congrArg some hbytes, congrArg some hhash, ?_, ?_, ?_⟩ }
    · rw [htransaction]
      exact congrArg some hsigned.account
    · rw [htransaction]
      exact congrArg some hsigned.publicKey
    · rw [htransaction]
      rfl
  | prepareEvm entry =>
    obtain ⟨rfl, -⟩ := StoreOp.eq_of_target_prepareEvm htarget
    obtain ⟨-, provider, payment, -, -, hsigned, -⟩ := hop
    exact { hr with
      evmHash := fun text htext => Option.some.inj htext ▸ hsigned.signed.imp fun _ h => h.1 }
  | _ => exact { hr with }

end Settlement.Sound

/-- In every run, the columns of every row are sound. -/
theorem World.sound_after (moves : List Move) :
    ∀ r ∈ (after moves).db.settlements, r.Sound := by
  induction moves using List.reverseRecOn with
  | nil => simp [after, init, Run.after_nil, Db.empty]
  | append_singleton moves m ih =>
    rw [after_concat]
    intro r hr
    obtain h | ⟨now, hissued, hclaimed, rfl⟩ | ⟨hissued, htarget, hupdated, rfl⟩ :=
      ((after moves).stepped m).rowStep hr
    · exact ih r h
    · obtain ⟨ht, next, hcall⟩ := issued?_eq_some hissued
      exact .claim (justified_after moves ht hcall).store _ now
    · obtain ⟨ht, next, hcall⟩ := issued?_eq_some hissued
      exact (ih _ hupdated.mem).update (justified_after moves ht hcall).store htarget

end

end X402Facilitator
