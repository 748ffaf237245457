import X402Facilitator.Service.Chain

/-!
# The two readers of an EVM chain

A reconciliation as a conversation with the two readers. Its verdict is a function of what they
answer; the function is symmetric in the readers, and a terminal verdict, a fee and a confirmation
count say something definite about the answers.
-/

namespace X402Facilitator

open Service Program

/-! ## The conversation -/

/-- What each reader answers to the reads of one reconciliation, each time it is asked: about the
receipt before a head has been read and after, about the transaction, and about its head. -/
structure Readers where
  receipts : Reader → Nat → Except EvmRpcError (Option Json)
  transactions : Reader → Nat → Except EvmRpcError (Option Json)
  heads : Reader → Nat → Except EvmRpcError (Nat × Nat)
  rechecks : Reader → Nat → Except EvmRpcError (Option Json)

/-- The answers that are left, and whether a head has been read. -/
structure Conversation where
  left : Readers
  headRead : Bool

namespace Conversation

/-- The answers to the next reads of the receipt. -/
def receipts (c : Conversation) : Reader → Nat → Except EvmRpcError (Option Json) :=
  if c.headRead then c.left.rechecks else c.left.receipts

def setReceipts (c : Conversation) (answers : Reader → Nat → Except EvmRpcError (Option Json)) :
    Conversation :=
  if c.headRead then { c with left := { c.left with rechecks := answers } }
  else { c with left := { c.left with receipts := answers } }

def setTransactions (c : Conversation) (answers : Reader → Nat → Except EvmRpcError (Option Json)) :
    Conversation :=
  { c with left := { c.left with transactions := answers } }

def setHeads (c : Conversation) (answers : Reader → Nat → Except EvmRpcError (Nat × Nat)) :
    Conversation :=
  { left := { c.left with heads := answers }, headRead := true }

end Conversation

/-- The answers that are left when a reader has been asked once more. -/
def dropAnswer {α : Type} (answers : Reader → Nat → α) (reader : Reader) : Reader → Nat → α :=
  Function.update answers reader fun i => answers reader (i + 1)

/-- The readers answer the reads of a reconciliation, and nothing else. -/
def Conversation.answer (c : Conversation) : (o : Op) → Option (o.Answer × Conversation)
  | .ask (.evmReceipt reader _) =>
    some (c.receipts reader 0, c.setReceipts (dropAnswer c.receipts reader))
  | .ask (.evmTransaction reader _) =>
    some (c.left.transactions reader 0, c.setTransactions (dropAnswer c.left.transactions reader))
  | .ask (.evmBlockHead reader) =>
    some (c.left.heads reader 0, c.setHeads (dropAnswer c.left.heads reader))
  | _ => none

/-- The verdict of a reconciliation with these readers. -/
def Readers.reconcile [EvmPrimitives] (readers : Readers) (provider : EvmProvider) (hash : Hash32)
    (requiredConfirmations : Nat) : Option (Except EvmRpcError EvmReconcileStatus) :=
  ((reconcileWithConfirmations provider hash requiredConfirmations).against Conversation.answer
    ⟨readers, false⟩).map (·.1)

/-! ## Repeated reads -/

section Retried

variable {ε α β : Type} {parse : α → Except ε β}

/-- The result of a read that is repeated at most twice while it fails, and the answers left. -/
def retried (parse : α → Except ε β) (answers : Nat → Except ε α) :
    Except ε β × (Nat → Except ε α) :=
  if (answers 0 >>= parse).isOk then (answers 0 >>= parse, fun i => answers (i + 1))
  else if (answers 1 >>= parse).isOk then (answers 1 >>= parse, fun i => answers (i + 2))
  else (answers 2 >>= parse, fun i => answers (i + 3))

/-- The first of the three answers that is taken. -/
def Accepted (parse : α → Except ε β) (answers : Nat → Except ε α) (a : α) (b : β) : Prop :=
  ∃ attempt < 3, answers attempt = .ok a ∧ parse a = .ok b ∧
    ∀ earlier < attempt, (answers earlier >>= parse).isOk = false

theorem accepted_of_retried {answers : Nat → Except ε α} {b : β}
    (h : (retried parse answers).1 = .ok b) : ∃ a, Accepted parse answers a b := by
  have htaken : ∀ attempt < 3, (answers attempt >>= parse) = .ok b →
      (∀ earlier < attempt, (answers earlier >>= parse).isOk = false) →
        ∃ a, Accepted parse answers a b := by
    intro attempt hattempt hok hearlier
    cases hanswer : answers attempt with
    | error e =>
      rw [hanswer] at hok
      cases hok
    | ok a =>
      rw [hanswer] at hok
      exact ⟨a, attempt, hattempt, hanswer, hok, hearlier⟩
  unfold retried at h
  split at h
  · exact htaken 0 (by omega) h (by omega)
  · rename_i hfirst
    rw [Bool.not_eq_true] at hfirst
    split at h
    · refine htaken 1 (by omega) h fun earlier hlt => ?_
      obtain rfl : earlier = 0 := by omega
      exact hfirst
    · rename_i hsecond
      rw [Bool.not_eq_true] at hsecond
      refine htaken 2 (by omega) h fun earlier hlt => ?_
      obtain rfl | rfl : earlier = 0 ∨ earlier = 1 := by omega
      · exact hfirst
      · exact hsecond

/-- A repeated read of one reader uses up answers of this reader only. -/
theorem against_retryRead {σ : Type} {answer : σ → (o : Op) → Option (o.Answer × σ)}
    {read : Service (Except ε β)} {reader : Reader} {get : σ → Reader → Nat → Except ε α}
    {set : σ → (Reader → Nat → Except ε α) → σ}
    (hread : ∀ s, read.against answer s =
      some (get s reader 0 >>= parse, set s (dropAnswer (get s) reader)))
    (hget : ∀ s answers, get (set s answers) = answers)
    (hset : ∀ s answers answers', set (set s answers) answers' = set s answers') (s : σ) :
    (retryRead read).against answer s = some ((retried parse (get s reader)).1,
      set s (Function.update (get s) reader (retried parse (get s reader)).2)) := by
  simp only [retryRead, retryWhileTransient, retried]
  rw [against_bind_of (hread s)]
  by_cases hfirst : (get s reader 0 >>= parse).isOk = true
  · simp [hfirst, dropAnswer]
  · rw [if_neg (by simp [hfirst]), against_bind_of (hread _)]
    simp only [hget, hset, dropAnswer, Function.update_self, Function.update_idem, if_neg hfirst]
    by_cases hsecond : (get s reader 1 >>= parse).isOk = true
    · simp [hsecond]
    · simp only [if_neg hsecond]
      rw [if_neg (by simp [hsecond]), hread]
      simp [hget, hset, dropAnswer]

/-- A read of both readers. -/
theorem against_mergeReads {σ γ : Type} {answer : σ → (o : Op) → Option (o.Answer × σ)}
    (get : σ → Reader → Nat → Except ε α) (set : σ → (Reader → Nat → Except ε α) → σ)
    (merge : β → β → Except ε γ) (read : Reader → Service (Except ε β))
    (hread : ∀ reader s, (read reader).against answer s =
      some (get s reader 0 >>= parse, set s (dropAnswer (get s) reader)))
    (hget : ∀ s answers, get (set s answers) = answers)
    (hset : ∀ s answers answers', set (set s answers) answers' = set s answers') (s : σ) :
    ∃ rest, (do
      let primary ← retryRead (read .primary)
      let backup ← retryRead (read .backup)
      return mergeReads merge primary backup : Service (Except ε γ)).against answer s =
      some (mergeReads merge (retried parse (get s .primary)).1 (retried parse (get s .backup)).1,
        set s rest) := by
  rw [against_bind_of (against_retryRead (hread .primary) hget hset s),
    against_bind_of (against_retryRead (hread .backup) hget hset _), against_pure]
  simp only [hget, hset]
  rw [Function.update_of_ne (by decide)]
  exact ⟨_, rfl⟩

end Retried

section

variable [EvmPrimitives] (provider : EvmProvider) (hash : Hash32)

theorem against_mergedReceipt (c : Conversation) :
    ∃ rest, (mergedReceipt hash).against Conversation.answer c =
      some (mergeReads mergeReceipts (retried (parseRawReceipt hash) (c.receipts .primary)).1
        (retried (parseRawReceipt hash) (c.receipts .backup)).1, c.setReceipts rest) := by
  refine against_mergeReads Conversation.receipts Conversation.setReceipts mergeReceipts
    (fun reader => receiptOnce reader hash) (fun reader c => ?_) (fun c answers => ?_)
    (fun c answers answers' => ?_) c
  · change (andThen (c.receipts reader 0) _).against _ _ = _
    cases c.receipts reader 0 <;> rfl
  · unfold Conversation.receipts Conversation.setReceipts
    split <;> simp_all
  · unfold Conversation.setReceipts
    split <;> simp_all

theorem against_mergedTransaction (c : Conversation) :
    ∃ rest, (mergedTransaction provider hash).against Conversation.answer c =
      some (mergeReads mergeTransactions
        (retried (parseRawTransaction hash provider.chainId provider.signerAddress provider.asset)
          (c.left.transactions .primary)).1
        (retried (parseRawTransaction hash provider.chainId provider.signerAddress provider.asset)
          (c.left.transactions .backup)).1, c.setTransactions rest) := by
  refine against_mergeReads (·.left.transactions) Conversation.setTransactions mergeTransactions
    (fun reader => transactionOnce provider reader hash) (fun reader c => ?_) (fun c answers => rfl)
    (fun c answers answers' => rfl) c
  change (andThen (c.left.transactions reader 0) _).against _ _ = _
  cases c.left.transactions reader 0 <;> rfl

/-- The merge of `safe_block_number`. -/
def mergeBlockHeads (chainId : Nat) (primary backup : Nat × Nat) : Except EvmRpcError Nat :=
  if primary.1 ≠ chainId ∨ backup.1 ≠ chainId then .error (.readerDisagreement "chain id")
  else .ok (min primary.2 backup.2)

omit [EvmPrimitives] in
theorem against_safeBlockNumber (c : Conversation) :
    ∃ rest, (safeBlockNumber provider).against Conversation.answer c =
      some (mergeReads (mergeBlockHeads provider.chainId)
        (retried .ok (c.left.heads .primary)).1 (retried .ok (c.left.heads .backup)).1,
        c.setHeads rest) := by
  refine against_mergeReads (·.left.heads) Conversation.setHeads (mergeBlockHeads provider.chainId)
    (fun reader => ask (.evmBlockHead reader)) (fun reader c => ?_) (fun c answers => rfl)
    (fun c answers answers' => rfl) c
  change some (c.left.heads reader 0, _) = _
  cases c.left.heads reader 0 <;> rfl

/-! ## The verdict -/

/-- What a reader has said in the end: the results of its four reads. -/
structure ReaderView where
  receipt : Except EvmRpcError ReceiptObservation
  transaction : Except EvmRpcError TransactionObservation
  head : Except EvmRpcError (Nat × Nat)
  recheck : Except EvmRpcError ReceiptObservation

def Readers.view (readers : Readers) (reader : Reader) : ReaderView where
  receipt := (retried (parseRawReceipt hash) (readers.receipts reader)).1
  transaction := (retried
    (parseRawTransaction hash provider.chainId provider.signerAddress provider.asset)
    (readers.transactions reader)).1
  head := (retried .ok (readers.heads reader)).1
  recheck := (retried (parseRawReceipt hash) (readers.rechecks reader)).1

/-- What a reconciliation makes of the results of both readers. -/
def reconcileViews (chainId required : Nat) (primary backup : ReaderView) :
    Except EvmRpcError EvmReconcileStatus := do
  if required = 0 then .error .invalidConfirmations
  else
    let first ← mergeReads mergeReceipts primary.receipt backup.receipt
    let transaction ← mergeReads mergeTransactions primary.transaction backup.transaction
    let headBlock ← mergeReads (mergeBlockHeads chainId) primary.head backup.head
    match first with
    | .mined _ =>
      let rechecked ← mergeReads mergeReceipts primary.recheck backup.recheck
      classifyReconciliation first transaction (some rechecked) headBlock required
    | _ => classifyReconciliation first transaction none headBlock required

/-- A reconciliation gets all its answers, and its verdict depends on nothing else. -/
theorem Readers.reconcile_eq (readers : Readers) (required : Nat) :
    readers.reconcile provider hash required =
      some (reconcileViews provider.chainId required (readers.view provider hash .primary)
        (readers.view provider hash .backup)) := by
  unfold Readers.reconcile reconcileWithConfirmations reconcileViews
  by_cases hrequired : required = 0
  · simp [hrequired]
  simp only [if_neg hrequired]
  obtain ⟨receipts, hreceipt⟩ := against_mergedReceipt hash ⟨readers, false⟩
  obtain ⟨transactions, htransaction⟩ := against_mergedTransaction provider hash
    (Conversation.setReceipts ⟨readers, false⟩ receipts)
  obtain ⟨heads, hhead⟩ := against_safeBlockNumber provider
    ((Conversation.setReceipts ⟨readers, false⟩ receipts).setTransactions transactions)
  obtain ⟨rechecks, hrecheck⟩ := against_mergedReceipt hash
    (((Conversation.setReceipts ⟨readers, false⟩ receipts).setTransactions transactions).setHeads heads)
  rw [against_bind_of hreceipt, against_bind_of htransaction]
  change Option.map _ ((andThen (mergeReads mergeReceipts (readers.view provider hash .primary).receipt
    (readers.view provider hash .backup).receipt) _).against _ _) = _
  cases mergeReads mergeReceipts (readers.view provider hash .primary).receipt
    (readers.view provider hash .backup).receipt with
  | error e => rfl
  | ok first =>
  change Option.map _ ((andThen (mergeReads mergeTransactions
    (readers.view provider hash .primary).transaction
    (readers.view provider hash .backup).transaction) _).against _ _) =
      some (mergeReads mergeTransactions _ _ >>= _)
  cases mergeReads mergeTransactions (readers.view provider hash .primary).transaction
    (readers.view provider hash .backup).transaction with
  | error e => rfl
  | ok transaction =>
  change Option.map _ ((safeBlockNumber provider >>= _).against _ _) = some (mergeReads _ _ _ >>= _)
  rw [against_bind_of hhead]
  change Option.map _ ((andThen (mergeReads (mergeBlockHeads provider.chainId)
    (readers.view provider hash .primary).head (readers.view provider hash .backup).head)
    _).against _ _) = _
  cases mergeReads (mergeBlockHeads provider.chainId) (readers.view provider hash .primary).head
    (readers.view provider hash .backup).head with
  | error e => rfl
  | ok headBlock =>
  cases first with
  | unknown | pending => rfl
  | mined facts =>
  change Option.map _ ((mergedReceipt hash >>= _).against _ _) = some (mergeReads _ _ _ >>= _)
  rw [against_bind_of hrecheck]
  change Option.map _ ((andThen (mergeReads mergeReceipts (readers.view provider hash .primary).recheck
    (readers.view provider hash .backup).recheck) _).against _ _) = _
  cases mergeReads mergeReceipts (readers.view provider hash .primary).recheck
    (readers.view provider hash .backup).recheck <;> rfl

end

/-- The verdict in terms of the merged reads. -/
theorem reconcileViews_ok_iff {chainId required : Nat} {primary backup : ReaderView}
    {status : EvmReconcileStatus} :
    reconcileViews chainId required primary backup = .ok status ↔
      required ≠ 0 ∧ ∃ first transaction headBlock,
        mergeReads mergeReceipts primary.receipt backup.receipt = .ok first ∧
        mergeReads mergeTransactions primary.transaction backup.transaction = .ok transaction ∧
        mergeReads (mergeBlockHeads chainId) primary.head backup.head = .ok headBlock ∧
        ∃ rechecked, classifyReconciliation first transaction rechecked headBlock required =
            .ok status ∧
          match first with
          | .mined _ => ∃ second, rechecked = some second ∧
              mergeReads mergeReceipts primary.recheck backup.recheck = .ok second
          | _ => rechecked = none := by
  constructor
  · intro h
    obtain ⟨hrequired, h⟩ := Except.of_ite_error h
    obtain ⟨first, hfirst, h⟩ := Except.exists_of_bind h
    obtain ⟨transaction, htransaction, h⟩ := Except.exists_of_bind h
    obtain ⟨headBlock, hhead, h⟩ := Except.exists_of_bind h
    refine ⟨hrequired, first, transaction, headBlock, hfirst, htransaction, hhead, ?_⟩
    cases first with
    | unknown | pending => exact ⟨none, h, rfl⟩
    | mined facts =>
      obtain ⟨second, hsecond, h⟩ := Except.exists_of_bind h
      exact ⟨some second, h, second, rfl, hsecond⟩
  · rintro ⟨hrequired, first, transaction, headBlock, hfirst, htransaction, hhead, rechecked, h, hre⟩
    unfold reconcileViews
    rw [if_neg hrequired, hfirst, htransaction, hhead]
    cases first with
    | unknown | pending =>
      obtain rfl := hre
      exact h
    | mined facts =>
      obtain ⟨second, rfl, hsecond⟩ := hre
      change (mergeReads mergeReceipts primary.recheck backup.recheck >>= _) = _
      rw [hsecond]
      exact h

/-! ## Symmetry -/

theorem mergeReads_ok_iff {ε α β : Type} {merge : α → α → Except ε β}
    {primary backup : Except ε α} {result : β} :
    mergeReads merge primary backup = .ok result ↔
      ∃ a b, primary = .ok a ∧ backup = .ok b ∧ merge a b = .ok result := by
  constructor
  · intro h
    obtain ⟨a, ha, hrest⟩ := Except.exists_of_bind h
    obtain ⟨b, hb, hmerge⟩ := Except.exists_of_bind hrest
    exact ⟨a, b, ha, hb, hmerge⟩
  · rintro ⟨a, b, rfl, rfl, hmerge⟩
    exact hmerge

theorem mergeReads_comm {ε α β : Type} {merge : α → α → Except ε β}
    (hmerge : ∀ a b result, merge a b = .ok result → merge b a = .ok result)
    {primary backup : Except ε α} {result : β}
    (h : mergeReads merge primary backup = .ok result) :
    mergeReads merge backup primary = .ok result := by
  obtain ⟨a, b, ha, hb, h⟩ := mergeReads_ok_iff.mp h
  exact mergeReads_ok_iff.mpr ⟨b, a, hb, ha, hmerge a b result h⟩

theorem mergeReceipts_comm (a b result : ReceiptObservation) (h : mergeReceipts a b = .ok result) :
    mergeReceipts b a = .ok result := by
  cases a <;> cases b <;> simp only [mergeReceipts] at h ⊢ <;> try exact h
  split at h
  · rename_i heq
    rw [heq] at h ⊢
    exact (if_pos rfl).trans h
  · cases h

theorem mergeTransactions_comm (a b result : TransactionObservation)
    (h : mergeTransactions a b = .ok result) : mergeTransactions b a = .ok result := by
  cases a <;> cases b <;> simp only [mergeTransactions] at h ⊢ <;> try exact h
  · split at h
    · rename_i heq
      rw [heq] at h ⊢
      exact (if_pos rfl).trans h
    · cases h
  · split at h
    · rename_i heq
      obtain ⟨rfl, rfl, rfl⟩ := heq
      simpa using h
    · cases h

theorem mergeBlockHeads_ok_iff {chainId : Nat} {a b : Nat × Nat} {result : Nat} :
    mergeBlockHeads chainId a b = .ok result ↔
      a.1 = chainId ∧ b.1 = chainId ∧ result = min a.2 b.2 := by
  unfold mergeBlockHeads
  constructor
  · intro h
    obtain ⟨hchain, h⟩ := Except.of_ite_error h
    rw [not_or, not_not, not_not] at hchain
    exact ⟨hchain.1, hchain.2, (Except.ok.inj h).symm⟩
  · rintro ⟨ha, hb, rfl⟩
    exact if_neg (by simp [ha, hb])

theorem mergeBlockHeads_comm (chainId : Nat) (a b : Nat × Nat) (result : Nat)
    (h : mergeBlockHeads chainId a b = .ok result) : mergeBlockHeads chainId b a = .ok result := by
  obtain ⟨ha, hb, rfl⟩ := mergeBlockHeads_ok_iff.mp h
  exact mergeBlockHeads_ok_iff.mpr ⟨hb, ha, min_comm _ _⟩

theorem reconcileViews_comm {chainId required : Nat} {primary backup : ReaderView}
    {status : EvmReconcileStatus}
    (h : reconcileViews chainId required primary backup = .ok status) :
    reconcileViews chainId required backup primary = .ok status := by
  obtain ⟨hrequired, first, transaction, headBlock, hfirst, htransaction, hhead, rechecked, hstatus,
    hrechecked⟩ := reconcileViews_ok_iff.mp h
  refine reconcileViews_ok_iff.mpr ⟨hrequired, first, transaction, headBlock,
    mergeReads_comm mergeReceipts_comm hfirst, mergeReads_comm mergeTransactions_comm htransaction,
    mergeReads_comm (mergeBlockHeads_comm chainId) hhead, rechecked, hstatus, ?_⟩
  cases first with
  | unknown | pending => exact hrechecked
  | mined facts =>
    obtain ⟨second, hsecond, hmerged⟩ := hrechecked
    exact ⟨second, hsecond, mergeReads_comm mergeReceipts_comm hmerged⟩

/-! ## Heads -/

/-- The second answer reports the same chain and a head that is at least as high, or both fail. -/
def HeadRaised : Except EvmRpcError (Nat × Nat) → Except EvmRpcError (Nat × Nat) → Prop
  | .ok head, .ok head' => head.1 = head'.1 ∧ head.2 ≤ head'.2
  | .error _, .error _ => True
  | _, _ => False

theorem HeadRaised.isOk_eq {a b : Except EvmRpcError (Nat × Nat)} (h : HeadRaised a b) :
    (b >>= Except.ok).isOk = (a >>= Except.ok).isOk := by
  cases a <;> cases b <;> first | rfl | exact h.elim

/-- When no answer about a head is lower, neither is the one that is taken. -/
theorem headRaised_retried {heads heads' : Nat → Except EvmRpcError (Nat × Nat)}
    (h : ∀ i, HeadRaised (heads i) (heads' i)) :
    HeadRaised (retried .ok heads).1 (retried .ok heads').1 := by
  have hpure : ∀ a : Except EvmRpcError (Nat × Nat), (a >>= Except.ok) = a := by
    intro a
    cases a <;> rfl
  unfold retried
  rw [(h 0).isOk_eq, (h 1).isOk_eq]
  simp only [hpure]
  split
  · exact h 0
  · split
    · exact h 1
    · exact h 2

theorem confirmationDepth_mono {headBlock headBlock' blockNumber : Nat} (h : headBlock ≤ headBlock') :
    confirmationDepth headBlock blockNumber ≤ confirmationDepth headBlock' blockNumber := by
  unfold confirmationDepth
  omega

/-- A terminal verdict stays terminal when the heads are raised. -/
theorem reconcileViews_terminal_mono {chainId required : Nat} {primary backup : ReaderView}
    {head head' : Except EvmRpcError (Nat × Nat)} {outcome : EvmTerminalOutcome}
    (h : reconcileViews chainId required primary backup = .ok (.terminal outcome))
    (hprimary : HeadRaised primary.head head) (hbackup : HeadRaised backup.head head') :
    ∃ outcome', reconcileViews chainId required { primary with head := head }
      { backup with head := head' } = .ok (.terminal outcome') := by
  obtain ⟨hrequired, first, transaction, headBlock, hfirst, htransaction, hhead, rechecked, hstatus,
    hrechecked⟩ := reconcileViews_ok_iff.mp h
  obtain ⟨facts, rfl, rfl, hterminal⟩ := classifyReconciliation_terminal hstatus
  obtain ⟨hpos, hbehind, hdepth, rfl⟩ := classifyConfirmations_terminal_iff.mp hterminal
  obtain ⟨a, b, ha, hb, hmerge⟩ := mergeReads_ok_iff.mp hhead
  obtain ⟨hchain, hchain', rfl⟩ := mergeBlockHeads_ok_iff.mp hmerge
  rw [ha] at hprimary
  rw [hb] at hbackup
  cases head with
  | error e => exact hprimary.elim
  | ok a' =>
  cases head' with
  | error e => exact hbackup.elim
  | ok b' =>
  have hle : min a.2 b.2 ≤ min a'.2 b'.2 := min_le_min hprimary.2 hbackup.2
  refine ⟨facts.terminalOutcome (confirmationDepth (min a'.2 b'.2) facts.blockNumber),
    reconcileViews_ok_iff.mpr ⟨hrequired, .mined facts, transaction, min a'.2 b'.2, hfirst,
      htransaction, ?_, some (.mined facts), ?_, hrechecked⟩⟩
  · exact mergeReads_ok_iff.mpr ⟨a', b', rfl, rfl, mergeBlockHeads_ok_iff.mpr
      ⟨hprimary.1.symm.trans hchain, hbackup.1.symm.trans hchain', rfl⟩⟩
  · refine (if_pos rfl).trans ?_
    exact classifyConfirmations_terminal_iff.mpr
      ⟨hpos, hbehind.trans hle, hdepth.trans (confirmationDepth_mono hle), rfl⟩

/-! ## What the verdicts rest on -/

section

variable [EvmPrimitives] {provider : EvmProvider} {hash : Hash32} {required : Nat}
  {readers : Readers}

/-- What a terminal verdict says about the answers: both readers have returned, before and after the
head read, a receipt that reports the facts, and the lower of their heads is deep enough above it. -/
structure Readers.ProveTerminal (readers : Readers) (provider : EvmProvider) (hash : Hash32)
    (required : Nat) (facts : ReceiptFacts) (head : Reader → Nat) (outcome : EvmTerminalOutcome) :
    Prop where
  required_pos : 1 ≤ required
  receipts : ∀ reader, ∃ object, DescribesReceipt object hash facts ∧
    Accepted (parseRawReceipt hash) (readers.receipts reader) (some object) (.mined facts)
  rechecks : ∀ reader, ∃ object, DescribesReceipt object hash facts ∧
    Accepted (parseRawReceipt hash) (readers.rechecks reader) (some object) (.mined facts)
  heads : ∀ reader, Accepted .ok (readers.heads reader) (provider.chainId, head reader)
    (provider.chainId, head reader)
  mined_before : facts.blockNumber ≤ min (head .primary) (head .backup)
  deep : required ≤ outcome.confirmations
  outcome_eq : outcome = facts.terminalOutcome
    (min (min (head .primary) (head .backup) - facts.blockNumber + 1) (2 ^ 64 - 1))

/-- Both readers took the same receipt. -/
theorem accepted_of_mergeReceipts {answers : Reader → Nat → Except EvmRpcError (Option Json)}
    {facts : ReceiptFacts}
    (h : mergeReads mergeReceipts (retried (parseRawReceipt hash) (answers .primary)).1
      (retried (parseRawReceipt hash) (answers .backup)).1 = .ok (.mined facts)) (reader : Reader) :
    ∃ object, DescribesReceipt object hash facts ∧
      Accepted (parseRawReceipt hash) (answers reader) (some object) (.mined facts) := by
  obtain ⟨a, b, ha, hb, hmerge⟩ := mergeReads_ok_iff.mp h
  obtain ⟨rfl, rfl⟩ := mergeReceipts_mined hmerge
  have hretried : (retried (parseRawReceipt hash) (answers reader)).1 = .ok (.mined facts) := by
    cases reader
    · exact ha
    · exact hb
  obtain ⟨value, hvalue⟩ := accepted_of_retried hretried
  obtain ⟨attempt, hattempt, hanswer, hparse, hearlier⟩ := hvalue
  obtain ⟨object, rfl, hdescribes⟩ := parseRawReceipt_mined hparse
  exact ⟨object, hdescribes, attempt, hattempt, hanswer, hparse, hearlier⟩

theorem proveTerminal_of_reconcile {outcome : EvmTerminalOutcome}
    (h : readers.reconcile provider hash required = some (.ok (.terminal outcome))) :
    ∃ facts head, readers.ProveTerminal provider hash required facts head outcome := by
  rw [Readers.reconcile_eq] at h
  obtain ⟨-, first, transaction, headBlock, hfirst, -, hhead, rechecked, hstatus, hrechecked⟩ :=
    reconcileViews_ok_iff.mp (Option.some.inj h)
  obtain ⟨facts, rfl, rfl, hterminal⟩ := classifyReconciliation_terminal hstatus
  obtain ⟨hpos, hbehind, hdepth, rfl⟩ := classifyConfirmations_terminal_iff.mp hterminal
  obtain ⟨second, hsecond, hmerged⟩ := hrechecked
  obtain rfl := Option.some.inj hsecond
  obtain ⟨a, b, ha, hb, hmerge⟩ := mergeReads_ok_iff.mp hhead
  obtain ⟨hchain, hchain', rfl⟩ := mergeBlockHeads_ok_iff.mp hmerge
  obtain ⟨chain, height⟩ := a
  obtain ⟨chain', height'⟩ := b
  obtain rfl : chain = provider.chainId := hchain
  obtain rfl : chain' = provider.chainId := hchain'
  refine ⟨facts, fun | .primary => height | .backup => height', hpos,
    accepted_of_mergeReceipts hfirst, accepted_of_mergeReceipts hmerged, fun reader => ?_, hbehind,
    hdepth, rfl⟩
  cases reader with
  | primary =>
    obtain ⟨value, attempt, hattempt, hanswer, hok, hearlier⟩ := accepted_of_retried ha
    obtain rfl := Except.ok.inj hok
    exact ⟨attempt, hattempt, hanswer, hok, hearlier⟩
  | backup =>
    obtain ⟨value, attempt, hattempt, hanswer, hok, hearlier⟩ := accepted_of_retried hb
    obtain rfl := Except.ok.inj hok
    exact ⟨attempt, hattempt, hanswer, hok, hearlier⟩

omit [EvmPrimitives] in
/-- A read whose result is nothing took the answer that there is nothing. -/
theorem accepted_none_of_retried {ε α β : Type} {parse : Option α → Except ε β}
    {answers : Nat → Except ε (Option α)} {nothing : β}
    (hparse : ∀ value, parse value = .ok nothing → value = none)
    (h : (retried parse answers).1 = .ok nothing) : Accepted parse answers none nothing := by
  obtain ⟨value, attempt, hattempt, hanswer, hok, hearlier⟩ := accepted_of_retried h
  obtain rfl := hparse value hok
  exact ⟨attempt, hattempt, hanswer, hok, hearlier⟩

theorem nothing_of_reconcile
    (h : readers.reconcile provider hash required = some (.ok .unknown)) (reader : Reader) :
    Accepted (parseRawReceipt hash) (readers.receipts reader) none .unknown ∧
      Accepted (parseRawTransaction hash provider.chainId provider.signerAddress provider.asset)
        (readers.transactions reader) none .missing := by
  rw [Readers.reconcile_eq] at h
  obtain ⟨-, first, transaction, headBlock, hfirst, htransaction, -, rechecked, hstatus, -⟩ :=
    reconcileViews_ok_iff.mp (Option.some.inj h)
  obtain ⟨rfl, rfl⟩ := classifyReconciliation_unknown hstatus
  obtain ⟨a, b, ha, hb, hmerge⟩ := mergeReads_ok_iff.mp hfirst
  obtain ⟨rfl, rfl⟩ := mergeReceipts_unknown hmerge
  obtain ⟨c, d, hc, hd, hmerge⟩ := mergeReads_ok_iff.mp htransaction
  obtain ⟨rfl, rfl⟩ := mergeTransactions_missing hmerge
  have hreceipt : (readers.view provider hash reader).receipt = .ok .unknown := by
    cases reader
    · exact ha
    · exact hb
  have hmissing : (readers.view provider hash reader).transaction = .ok .missing := by
    cases reader
    · exact hc
    · exact hd
  exact ⟨accepted_none_of_retried (fun _ => parseRawReceipt_unknown) hreceipt,
    accepted_none_of_retried (fun _ => parseRawTransaction_missing) hmissing⟩

end

/-- The other reader. -/
def Reader.other : Reader → Reader
  | primary => backup
  | backup => primary

/-- The same answers, given by the other reader. -/
def Readers.swap (readers : Readers) : Readers where
  receipts reader := readers.receipts reader.other
  transactions reader := readers.transactions reader.other
  heads reader := readers.heads reader.other
  rechecks reader := readers.rechecks reader.other

/-- The verdict of a reconciliation for any answers of the readers: there always is one; a terminal
one is borne out by both readers before and after the head read, at the depth it reports and with the
fee the receipts state; an unknown one means that both reported nothing; it is symmetric in the
readers; and no higher head makes a terminal one anything else. -/
theorem reconcile_verdict_sound [EvmPrimitives] (provider : EvmProvider) (hash : Hash32)
    (required : Nat) (readers : Readers) :
    (∃ verdict, readers.reconcile provider hash required = some verdict) ∧
    (∀ outcome, readers.reconcile provider hash required = some (.ok (.terminal outcome)) →
      ∃ facts head, readers.ProveTerminal provider hash required facts head outcome) ∧
    (readers.reconcile provider hash required = some (.ok .unknown) → ∀ reader,
      Accepted (parseRawReceipt hash) (readers.receipts reader) none .unknown ∧
      Accepted (parseRawTransaction hash provider.chainId provider.signerAddress provider.asset)
        (readers.transactions reader) none .missing) ∧
    (∀ status, readers.swap.reconcile provider hash required = some (.ok status) ↔
      readers.reconcile provider hash required = some (.ok status)) ∧
    ∀ heads, (∀ reader attempt, HeadRaised (readers.heads reader attempt) (heads reader attempt)) →
      (∃ outcome, readers.reconcile provider hash required = some (.ok (.terminal outcome))) →
        ∃ outcome, { readers with heads := heads }.reconcile provider hash required =
          some (.ok (.terminal outcome)) := by
  refine ⟨⟨_, readers.reconcile_eq provider hash required⟩, fun _ => proveTerminal_of_reconcile,
    nothing_of_reconcile, fun status => ?_, fun heads hraised => ?_⟩
  · rw [Readers.reconcile_eq, Readers.reconcile_eq, Option.some_inj, Option.some_inj]
    exact ⟨reconcileViews_comm, reconcileViews_comm⟩
  · rintro ⟨outcome, h⟩
    rw [Readers.reconcile_eq, Option.some_inj] at h
    obtain ⟨outcome', h'⟩ := reconcileViews_terminal_mono h (headRaised_retried (hraised .primary))
      (headRaised_retried (hraised .backup))
    exact ⟨outcome', by rw [Readers.reconcile_eq]; exact congrArg some h'⟩

end X402Facilitator
