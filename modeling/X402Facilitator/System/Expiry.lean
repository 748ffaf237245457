import X402Facilitator.System.Outcome

/-!
# Expired delegate actions

Recovery gives up on a NEAR row when no node knows its transaction and its delegate action has
expired. One reader has then returned a final block that is past the expiry and at which the relayer's
nonce is still below the nonce of the transaction. The transaction is therefore in no block up to
that one, and at every later height the runtime refuses the delegate action: bytes that are still in
some node's pool can no longer move the payer's tokens.
-/

namespace X402Facilitator

open Program

/-! ## The final chain -/

/-- The final chain, as far as access keys and delegate actions are concerned. -/
structure FinalChain where
  /-- The final block at a height; a height can be skipped. -/
  block : Nat → Option CryptoHash
  /-- The nonce of an access key after the blocks up to a height. -/
  nonce : AccountId → (publicKey : String) → (height : Nat) → Nat
  /-- The transaction is in the block at the height. -/
  Includes : (height : Nat) → SignedTransaction → Prop
  /-- The delegate action executes at the height, as an action of the transaction. -/
  Executes : (height : Nat) → SignedTransaction → SignedDelegateAction → Prop
  nonce_mono : ∀ account publicKey, Monotone (nonce account publicKey)
  nonce_of_includes : ∀ {height signed}, Includes height signed → signed.transaction.nonce ≤
    nonce signed.transaction.signerId signed.transaction.publicKey height
  includes_of_executes : ∀ {height signed delegate}, Executes height signed delegate →
    ∃ earlier ≤ height, Includes earlier signed
  /-- The runtime refuses an expired delegate action. -/
  height_of_executes : ∀ {height signed delegate}, Executes height signed delegate →
    height ≤ delegate.maxBlockHeight

namespace FinalChain

variable (chain : FinalChain)

/-- Readers have reported final blocks, and the access keys at these blocks, as they are. -/
structure Reported (h : History Op.Answer) : Prop where
  block : ∀ {reader block}, Asked h (.nearFinalBlock reader) (.ok block) →
    chain.block block.height = some block.hash
  accessKey : ∀ {reader hash account publicKey accessKey height},
    Asked h (.nearAccessKey reader hash account publicKey) (.ok accessKey) →
      chain.block height = some hash → accessKey.nonce = chain.nonce account publicKey height

variable {chain} {signed : SignedTransaction} {delegate : SignedDelegateAction}

/-- At a height past the expiry at which the nonce is still free, the delegate action is lost for
good. -/
theorem not_executes {height : Nat}
    (hnonce : chain.nonce signed.transaction.signerId signed.transaction.publicKey height <
      signed.transaction.nonce)
    (hexpired : delegate.maxBlockHeight ≤ height) (later : Nat) :
    ¬ chain.Executes later signed delegate := by
  intro hexecutes
  obtain ⟨earlier, hearlier, hincludes⟩ := chain.includes_of_executes hexecutes
  have hheight : earlier ≤ height :=
    hearlier.trans ((chain.height_of_executes hexecutes).trans hexpired)
  have hconsumed := chain.nonce_of_includes hincludes
  have hmono : chain.nonce signed.transaction.signerId signed.transaction.publicKey earlier ≤
      chain.nonce signed.transaction.signerId signed.transaction.publicKey height :=
    chain.nonce_mono _ _ hheight
  omega

end FinalChain

/-- A truthful reader's head is a block of the final chain, with the nonce at that block. -/
theorem SawRelayerHead.nonce_eq {h : History Op.Answer} {relayer : NearProvider} {reader : Reader}
    {head : RelayerHead} (hhead : SawRelayerHead h relayer reader head) {chain : FinalChain}
    (hchain : chain.Reported h) :
    head.accessKeyNonce = chain.nonce relayer.accountId relayer.publicKey head.blockHeight :=
  hchain.accessKey hhead.2 (hchain.block hhead.1)

section
variable [NearPrimitives] [EvmPrimitives]

omit [EvmPrimitives] in
/-- Of a row, the validator reads only what the journal can no longer change. -/
theorem StoredTransactionMatches.congr {r row : Settlement} {bytes : Bytes} {hash : CryptoHash}
    {signer : AccountId} {signed : SignedTransaction} {delegate : SignedDelegateAction}
    (h : StoredTransactionMatches r bytes hash signer signed delegate)
    (hidentity : row.identity = r.identity) (hsubmission : row.submission = r.submission) :
    StoredTransactionMatches row bytes hash signer signed delegate := by
  have hpayer : row.payer = r.payer := congrArg RowIdentity.payer hidentity
  exact { h with
    publicKey := (congrArg RowSubmission.relayerPublicKey hsubmission).trans h.publicKey
    nonce := (congrArg (parseU64 ·.relayerNonce) hsubmission).trans h.nonce
    receiverId := h.receiverId.trans hpayer.symm
    delegateHash := h.delegateHash.trans
      (congrArg (some ·.paymentHash) hidentity.symm)
    senderId := h.senderId.trans hpayer.symm
    delegatePublicKey := h.delegatePublicKey.trans
      (congrArg (·.delegatePublicKey.getD "") hidentity.symm)
    delegateNonce := (congrArg (parseU64 ·.delegateNonce) hidentity).trans h.delegateNonce
    maxBlockHeight :=
      (congrArg (parseU64 ·.delegateMaxBlockHeight) hidentity).trans h.maxBlockHeight }

/-- The stored transaction of a row that matches its columns is the one that the journal signed for. -/
theorem Settlement.Sound.signed_of_matches {row : Settlement} (hrow : row.Sound) {bytes : Bytes}
    {hash : CryptoHash} {signer : AccountId} {signed : SignedTransaction}
    {delegate : SignedDelegateAction} (hbytes : row.outerTransactionBytes = some bytes)
    (hmatches : StoredTransactionMatches row bytes hash signer signed delegate) :
    bytes = borsh signed ∧ row.relayerAccountId = some signed.transaction.signerId.text ∧
      row.relayerPublicKey = some signed.transaction.publicKey ∧
      row.relayerNonce = some signed.transaction.nonce := by
  obtain ⟨-, hnone, -⟩ | ⟨signed', hbytes', -, haccount, hkey, hnonce⟩ := hrow.near
  · rw [hnone] at hbytes
    cases hbytes
  · obtain rfl := Option.some.inj (hbytes.symm.trans hbytes')
    obtain rfl := NearPrimitives.eq_of_tryFromSlice_borsh hmatches.decoded
    exact ⟨rfl, haccount, hkey, hnonce⟩

/-- The row's delegate action expired at a final block at which its transaction's nonce was free. -/
structure PassedAt (h : History Op.Answer) (row : Settlement) (relayer : NearProvider)
    (signed : SignedTransaction) (delegate : SignedDelegateAction) (reader : Reader)
    (head : RelayerHead) : Prop where
  bytes : row.outerTransactionBytes = some (borsh signed)
  actions : signed.transaction.actions = [.delegate delegate]
  signer : signed.transaction.signerId = relayer.accountId
  publicKey : signed.transaction.publicKey = relayer.publicKey
  nonce : row.relayerNonce = some signed.transaction.nonce
  expiry : row.delegateMaxBlockHeight = some delegate.maxBlockHeight
  seen : SawRelayerHead h relayer reader head
  expired : delegate.maxBlockHeight ≤ head.blockHeight
  free : head.accessKeyNonce < signed.transaction.nonce

/-- What a thread saw of a row that it knows holds of the row in the journal. -/
theorem SawPassed.passedAt {db : Db} {h : History Op.Answer} {r row : Settlement}
    {relayer : NearProvider} (hpassed : SawPassed h r relayer) (hrow : db.Holds r row)
    (hsound : row.Sound) :
    ∃ signed delegate reader head, PassedAt h row relayer signed delegate reader head := by
  obtain ⟨bytes, hash, signer, hbytes, hvalidated⟩ := hpassed.stored
  obtain ⟨nonce, expiry, reader, head, hnonce, hexpiry, hseen, hexpired, hfree⟩ := hpassed.head
  obtain ⟨signed, delegate, hmatches⟩ := validateStoredTransaction_ok_iff.mp hvalidated
  have hmatches := hmatches.congr hrow.identity hrow.submission
  have hbytes : row.outerTransactionBytes = some bytes := hrow.outerTransactionBytes.trans hbytes
  have hnonce : row.relayerNonce = some nonce :=
    (congrArg RowSubmission.relayerNonce hrow.submission).trans hnonce
  have hexpiry : row.delegateMaxBlockHeight = some expiry :=
    (congrArg RowIdentity.delegateMaxBlockHeight hrow.identity).trans hexpiry
  obtain ⟨rfl, haccount, hkey, hsignedNonce⟩ := hsound.signed_of_matches hbytes hmatches
  obtain rfl := Option.some.inj (hsignedNonce.symm.trans hnonce)
  have hheight := hmatches.maxBlockHeight
  rw [hexpiry, parseU64, Option.filter_eq_some_iff] at hheight
  obtain rfl := Option.some.inj hheight.1
  have hsigner : signed.transaction.signerId = relayer.accountId := by
    have htext := haccount.symm.trans
      ((congrArg RowSubmission.relayerAccountId hrow.submission).trans hpassed.account)
    have hparse := AccountId.parse_eq_some.mpr (Option.some.inj htext)
    exact Option.some.inj (hparse.symm.trans (AccountId.parse_eq_some.mpr rfl))
  have hpublicKey : signed.transaction.publicKey = relayer.publicKey :=
    Option.some.inj (hkey.symm.trans
      ((congrArg RowSubmission.relayerPublicKey hrow.submission).trans hpassed.publicKey))
  exact ⟨signed, delegate, reader, head, hbytes, hmatches.actions, hsigner, hpublicKey, hsignedNonce,
    hexpiry, hseen, hexpired, hfree⟩

omit [EvmPrimitives] in
theorem PassedAt.not_executes {h : History Op.Answer} {row : Settlement} {relayer : NearProvider}
    {signed : SignedTransaction} {delegate : SignedDelegateAction} {reader : Reader}
    {head : RelayerHead} (hpassed : PassedAt h row relayer signed delegate reader head)
    {chain : FinalChain} (hchain : chain.Reported h) (height : Nat) :
    ¬ chain.Executes height signed delegate := by
  refine chain.not_executes ?_ hpassed.expired height
  rw [hpassed.signer, hpassed.publicKey, ← hpassed.seen.nonce_eq hchain]
  exact hpassed.free

/-- When a reconciliation pass takes the expiry branch for a row, one reader has returned a final block
at or above the expiry of the row's delegate action, and at that same block the relayer's nonce was
below the row's. If what the thread was told of final blocks is true, the delegate action never
executes as an action of the row's transaction. -/
theorem expired_delegate_never_executes (moves : List Move) (m : Move) (t : Thread)
    (entry : TerminalJournalEntry)
    (hissued : (World.after moves).issued? m = some (t, .store (.markTerminal entry)))
    (hpass : t.role.task.reconciles = true)
    (hbranch : entry.errorCode = some "invalid_exact_near_payload_delegate_action_expired") :
    ∃ row ∈ (World.after moves).db.settlements, row.id = entry.settlementId ∧
      ∃ relayer signed delegate reader head, t.role.state.provider = .near relayer ∧
        PassedAt t.past row relayer signed delegate reader head ∧
        ∀ chain : FinalChain, chain.Reported t.past → ∀ height,
          ¬ chain.Executes height signed delegate := by
  obtain ⟨ht, next, hcall⟩ := World.issued?_eq_some hissued
  have hjustified : TerminalJustified t.role (session t.past) entry :=
    (World.justified_after moves ht hcall).store
  obtain ⟨r, relayer, hr, hid, hprovider, hpassed⟩ := hjustified.expired hpass hbranch
  obtain ⟨row, hholds⟩ := hr.holds (World.attested_after moves t ht).session
  obtain ⟨signed, delegate, reader, head, hat⟩ :=
    hpassed.passedAt hholds (World.sound_after moves row hholds.mem)
  have hat : PassedAt t.past row relayer signed delegate reader head :=
    { hat with seen := hat.seen.mono (session_subset t.past) }
  exact ⟨row, hholds.mem, hholds.id_eq.trans hid, relayer, signed, delegate, reader, head, hprovider,
    hat, fun chain hchain height => hat.not_executes hchain height⟩

end

namespace Sample

/-- The final chain has reached the expiry of the delegate action. -/
def lapsed : (query : Query) → query.Answer
  | .nearFinalBlock _ => .ok ⟨200, 6⟩
  | query => answer query

/-- The process crashes after its worker has sent the transaction, which is lost. A second process,
threads 6 to 9, finds the delegate action expired in its first pass. -/
def expiring : List Move :=
  claimed ++ steps answer 33 5 ++ [.crash 0, .start config [] false 5] ++ steps answer 14 6 ++
    steps answer 6 7 ++ steps lapsed 21 8

def expires : Op → Bool
  | .store (.markTerminal entry) =>
    entry.errorCode = some "invalid_exact_near_payload_delegate_action_expired"
  | _ => false

theorem exists_of_expires {o : Op} (h : expires o = true) : ∃ entry, o = .store (.markTerminal entry) ∧
    entry.errorCode = some "invalid_exact_near_payload_delegate_action_expired" := by
  unfold expires at h
  split at h
  · exact ⟨_, rfl, of_decide_eq_true h⟩
  · cases h

end Sample

section
local instance expiryNear : NearPrimitives := Sample.nearPrimitives
local instance expiryEvm : EvmPrimitives := Sample.evmPrimitives

set_option maxRecDepth 100000 in
theorem expired_delegate_never_executes_lapsed : ∃ t entry,
    (World.after Sample.expiring).issued? (Sample.next 8) = some (t, .store (.markTerminal entry)) ∧
      ∃ row ∈ (World.after Sample.expiring).db.settlements, row.id = entry.settlementId ∧
        ∃ relayer signed delegate reader head, t.role.state.provider = .near relayer ∧
          PassedAt t.past row relayer signed delegate reader head ∧
          ∀ chain : FinalChain, chain.Reported t.past → ∀ height,
            ¬ chain.Executes height signed delegate := by
  have hexpires : ((World.after Sample.expiring).issued? (Sample.next 8)).any
      (fun (t, o) => t.role.task.reconciles && Sample.expires o) = true := by decide +kernel
  obtain ⟨⟨t, o⟩, hissued, hboth⟩ := (Option.any_eq_true _ _).mp hexpires
  obtain ⟨hpass, ho⟩ := Bool.and_eq_true_iff.mp hboth
  obtain ⟨entry, rfl, hbranch⟩ := Sample.exists_of_expires ho
  exact ⟨t, entry, hissued, expired_delegate_never_executes _ _ t entry hissued hpass hbranch⟩

end

end X402Facilitator
