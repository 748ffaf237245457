import X402Facilitator.System.Evidence
import X402Facilitator.System.World

/-!
# NEAR rows are recognised

What the forward path prepares for a verified NEAR payment and writes into the journal passes the
validator that recovery runs on the row, and the validator binds bytes to one row.
-/

namespace X402Facilitator

open Program

section
variable [NearPrimitives] [EvmPrimitives]

/-- What a verified payment says is what its signed delegate action says. -/
structure NearVerifiedPayment.Carries (payment : NearVerifiedPayment) : Prop where
  payer : payment.payer = payment.signedDelegate.senderId
  payerPublicKey : payment.payerPublicKey = payment.signedDelegate.publicKey
  delegateNonce : payment.delegateNonce = payment.signedDelegate.nonce
  maxBlockHeight : payment.maxBlockHeight = payment.signedDelegate.maxBlockHeight
  paymentHash : signedDelegateHash payment.signedDelegate = some payment.paymentHash
  signature : verifyDelegate payment.signedDelegate = true
  bounds : payment.delegateNonce < 2 ^ 64 ∧ payment.maxBlockHeight < 2 ^ 64

theorem VerifiedFrom.carries {h : History Op.Answer} {request : Json} {maxSponsoredGas : Nat}
    {relayer : NearProvider} {payment : NearVerifiedPayment}
    (hverified : VerifiedFrom h request maxSponsoredGas (.near relayer) (.ofNear payment)) :
    payment.Carries := by
  generalize hpayment : VerifiedPayment.ofNear payment = verified at hverified
  cases hverified with
  | @near _ offline asset payTo amount hoffline =>
    have hdetail := congrArg VerifiedPayment.detail hpayment
    obtain rfl : payment = offline.payment asset payTo amount := VerifiedDetail.near.inj hdetail
    obtain ⟨wire, encoded, hchecked⟩ := verifyOffline_ok hoffline
    obtain ⟨bytes, -, hslice, -⟩ := decodeSignedDelegate_ok hchecked.decoded_ok
    exact ⟨rfl, rfl, rfl, rfl, signedDelegateHash_of_decode hchecked.decoded_ok, hchecked.signature,
      NearPrimitives.u64_of_delegateFromSlice hslice⟩

/-- The row that a claim of the payment inserts, once its preparation is journaled. -/
def preparedNearRow (state : AppState) (id : Uuid) (request : ParsedRequest) (key : RequestKey)
    (relayer : NearProvider) (payment : NearVerifiedPayment) (prepared : Prepared) (usageDate : Day)
    (createdAt : Nat) : Settlement :=
  RowUpdate.apply ((newSettlement state id request key (.ofNear payment)).row usageDate createdAt)
    (.prepare (nearJournalEntry id prepared ((ChainProvider.near relayer).durableSubmission prepared)))

/-- Recovery reads the submission of the row and accepts it. -/
def Settlement.ValidSubmission (record : Settlement) (submission : NearSubmission) : Prop :=
  nearSubmission record = .ok submission ∧
    validateStoredTransaction record submission.bytes submission.hash submission.signer = .ok ()

/-- The signed outer transaction of a payment. -/
def signedOuterTransaction (relayer : NearProvider) (payment : NearVerifiedPayment)
    (blockHash : CryptoHash) (nonce : Nat) : SignedTransaction where
  signature := NearPrimitives.sign relayer.secretKey
    (transactionHash (outerTransaction relayer payment blockHash nonce))
  transaction := outerTransaction relayer payment blockHash nonce

theorem prepare_near (relayer : NearProvider) (payment : NearVerifiedPayment) {head : SignerHead}
    {blockHash : CryptoHash} (hhead : head.chainBlockRef = hashText blockHash)
    (hnonce : head.signerNonce < 2 ^ 64 - 1) :
    ∃ prepared, (ChainProvider.near relayer).prepare (.ofNear payment) head = pure (.ok prepared) ∧
      prepared.submitBytes = borsh (signedOuterTransaction relayer payment blockHash
        (head.signerNonce + 1)) ∧
      prepared.submitHash = hashText (transactionHash (outerTransaction relayer payment blockHash
        (head.signerNonce + 1))) ∧
      prepared.signerId = relayer.accountId.text ∧ prepared.signerPublicKey = relayer.publicKey ∧
      prepared.signerNonce = head.signerNonce + 1 := by
  have hsmall : ¬ 2 ^ 64 ≤ head.signerNonce := by omega
  have hnext : ¬ 2 ^ 64 ≤ head.signerNonce + 1 := by omega
  simp only [ChainProvider.prepare, VerifiedPayment.ofNear, hhead, parseHash_hashText,
    if_neg hsmall, prepareOuterTransaction, if_neg hnext]
  exact ⟨_, rfl, rfl, rfl, rfl, rfl, rfl⟩

theorem validSubmission_preparedNearRow {state : AppState} {id : Uuid} {request : ParsedRequest}
    {key : RequestKey} {relayer : NearProvider} {payment : NearVerifiedPayment} {prepared : Prepared}
    {usageDate : Day} {createdAt nonce : Nat} {blockHash : CryptoHash} (hcarries : payment.Carries)
    (hsign : ∀ hash, verifySignature (NearPrimitives.sign relayer.secretKey hash) hash
      relayer.publicKey = true)
    (hborsh : tryFromSlice (borsh (signedOuterTransaction relayer payment blockHash nonce)) =
      some (signedOuterTransaction relayer payment blockHash nonce))
    (hnonce : nonce < 2 ^ 64)
    (hbytes : prepared.submitBytes =
      borsh (signedOuterTransaction relayer payment blockHash nonce))
    (hhash : prepared.submitHash =
      hashText (transactionHash (outerTransaction relayer payment blockHash nonce)))
    (hsigner : prepared.signerId = relayer.accountId.text)
    (hkey : prepared.signerPublicKey = relayer.publicKey) (hprepared : prepared.signerNonce = nonce) :
    (preparedNearRow state id request key relayer payment prepared usageDate
      createdAt).ValidSubmission
        ⟨transactionHash (outerTransaction relayer payment blockHash nonce), prepared.submitBytes,
          relayer.accountId⟩ := by
  have hu64 : ∀ n < 2 ^ 64, parseU64 (some n) = some n := by
    intro n hn
    rw [parseU64, Option.filter_some, if_pos (by simpa using hn)]
  refine ⟨nearSubmission_ok_iff.mpr ⟨rfl, ⟨_, rfl, ?_⟩, congrArg some hsigner⟩,
    validateStoredTransaction_ok_iff.mpr
      ⟨signedOuterTransaction relayer payment blockHash nonce, payment.signedDelegate, ?_⟩⟩
  · change parseHash prepared.submitHash = _
    rw [hhash, parseHash_hashText]
  · refine {
      decoded := hbytes ▸ hborsh
      signature := hsign _
      hash := rfl
      version := rfl
      signerId := rfl
      publicKey := congrArg some hkey
      nonce := ?_
      receiverId := rfl
      actions := rfl
      delegateSignature := hcarries.signature
      delegateHash := hcarries.paymentHash
      senderId := congrArg AccountId.text hcarries.payer.symm
      delegatePublicKey := hcarries.payerPublicKey.symm
      delegateNonce := ?_
      maxBlockHeight := ?_ }
    · change parseU64 (some prepared.signerNonce) = some nonce
      rw [hprepared, hu64 nonce hnonce]
    · change parseU64 (some payment.delegateNonce) = some payment.signedDelegate.nonce
      rw [hu64 _ hcarries.bounds.1, hcarries.delegateNonce]
    · change parseU64 (some payment.maxBlockHeight) = some payment.signedDelegate.maxBlockHeight
      rw [hu64 _ hcarries.bounds.2, hcarries.maxBlockHeight]

omit [NearPrimitives] [EvmPrimitives] in
theorem parseU64_inj {a b : Option Nat} {n : Nat} (ha : parseU64 a = some n)
    (hb : parseU64 b = some n) : a = b := by
  rw [parseU64, Option.filter_eq_some_iff] at ha hb
  rw [ha.1, hb.1]

/-- Two rows agree in the columns by which the validator ties bytes to a row. A missing delegate key
is read as the empty text. -/
structure SameSubmission (r r' : Settlement) (submission submission' : NearSubmission) : Prop where
  hash : submission.hash = submission'.hash
  relayerAccountId : r.relayerAccountId = r'.relayerAccountId
  relayerPublicKey : r.relayerPublicKey = r'.relayerPublicKey
  relayerNonce : r.relayerNonce = r'.relayerNonce
  payer : r.payer = r'.payer
  delegatePublicKey : r.delegatePublicKey.getD "" = r'.delegatePublicKey.getD ""
  delegateNonce : r.delegateNonce = r'.delegateNonce
  delegateMaxBlockHeight : r.delegateMaxBlockHeight = r'.delegateMaxBlockHeight
  paymentHash : r.paymentHash = r'.paymentHash

omit [EvmPrimitives] in
theorem sameSubmission_of_bytes {r r' : Settlement} {submission submission' : NearSubmission}
    (h : r.ValidSubmission submission) (h' : r'.ValidSubmission submission')
    (hbytes : submission.bytes = submission'.bytes) : SameSubmission r r' submission submission' := by
  obtain ⟨signed, delegate, hmatch⟩ := validateStoredTransaction_ok_iff.mp h.2
  obtain ⟨signed', delegate', hmatch'⟩ := validateStoredTransaction_ok_iff.mp h'.2
  have hdecoded := hmatch.decoded
  rw [hbytes] at hdecoded
  obtain rfl := Option.some.inj (hdecoded.symm.trans hmatch'.decoded)
  obtain ⟨rfl⟩ : delegate = delegate' :=
    Action.delegate.inj (List.cons.inj (hmatch.actions.symm.trans hmatch'.actions)).1
  have hsigner := (nearSubmission_ok_iff.mp h.1).2.2
  have hsigner' := (nearSubmission_ok_iff.mp h'.1).2.2
  exact {
    hash := hmatch.hash.symm.trans hmatch'.hash
    relayerAccountId := by rw [hsigner, hsigner', ← hmatch.signerId, ← hmatch'.signerId]
    relayerPublicKey := hmatch.publicKey.trans hmatch'.publicKey.symm
    relayerNonce := parseU64_inj hmatch.nonce hmatch'.nonce
    payer := hmatch.receiverId.symm.trans hmatch'.receiverId
    delegatePublicKey := hmatch.delegatePublicKey.symm.trans hmatch'.delegatePublicKey
    delegateNonce := parseU64_inj hmatch.delegateNonce hmatch'.delegateNonce
    delegateMaxBlockHeight := parseU64_inj hmatch.maxBlockHeight hmatch'.maxBlockHeight
    paymentHash := Option.some.inj (hmatch.delegateHash.symm.trans hmatch'.delegateHash) }

/-- What the forward path prepares and journals for a verified NEAR payment is what recovery reads
from the row and accepts; the numbers of the row are read back from their decimal text; and bytes
that are accepted for two rows are those of one transaction, relayer, payer and delegate action. -/
theorem near_recovery_recognises_forward_path {h : History Op.Answer} {request : Json}
    {maxSponsoredGas : Nat} {relayer : NearProvider} {payment : NearVerifiedPayment}
    {head : SignerHead} {blockHash : CryptoHash}
    (hverified : VerifiedFrom h request maxSponsoredGas (.near relayer) (.ofNear payment))
    (hhead : head.chainBlockRef = hashText blockHash) (hnonce : head.signerNonce < 2 ^ 64 - 1)
    (hsign : ∀ hash, verifySignature (NearPrimitives.sign relayer.secretKey hash) hash
      relayer.publicKey = true)
    (hborsh : tryFromSlice (borsh (signedOuterTransaction relayer payment blockHash
        (head.signerNonce + 1))) =
      some (signedOuterTransaction relayer payment blockHash (head.signerNonce + 1))) :
    (∃ prepared,
      (ChainProvider.near relayer).prepare (.ofNear payment) head = pure (.ok prepared) ∧
      prepared.signerNonce = head.signerNonce + 1 ∧
      ∀ state id parsed key usageDate createdAt, ∃ submission,
        (preparedNearRow state id parsed key relayer payment prepared usageDate
          createdAt).ValidSubmission submission ∧
        submission.bytes = prepared.submitBytes ∧
        hashText submission.hash = prepared.submitHash ∧ submission.signer = relayer.accountId) ∧
    (∀ n, parseU64 (some n) = parseUnsigned? 64 (toString n)) ∧
    ∀ r r' submission submission', r.ValidSubmission submission →
      r'.ValidSubmission submission' → submission.bytes = submission'.bytes →
        SameSubmission r r' submission submission' := by
  refine ⟨?_, parseU64_eq, fun r r' submission submission' => sameSubmission_of_bytes⟩
  obtain ⟨prepared, hprepare, hbytes, hhash, hsigner, hkey, hprepared⟩ :=
    prepare_near relayer payment hhead hnonce
  refine ⟨prepared, hprepare, hprepared, fun state id parsed key usageDate createdAt =>
    ⟨_, validSubmission_preparedNearRow hverified.carries hsign hborsh (by omega) hbytes hhash hsigner
      hkey hprepared, rfl, hhash.symm, rfl⟩⟩

end

namespace Sample

local instance recognisedNear : NearPrimitives := nearPrimitives

local instance recognisedEvm : EvmPrimitives := evmPrimitives

/-- The relayer of the verified payment below. -/
def nearRelayer : NearProvider := ⟨"testnet", relayer, "ed25519:relayer", []⟩

/-- The payment of `request`. -/
def verifiedDelegate : OfflineVerified :=
  ⟨⟨"exact", "near:testnet", "1000", "shop.testnet", number 300, nearTestnetUsdc⟩, 300,
    ⟨signedDelegate, 115⟩⟩

theorem verifiedDelegate_from :
    VerifiedFrom [] request 30000000000000 (.near nearRelayer)
      (.ofNear (verifiedDelegate.payment usdc shop 1000)) :=
  .near (by with_unfolding_all rfl) (by decide +kernel) (by decide +kernel) (by decide +kernel)

/-- The head that the outer transaction of the payment is built on. -/
def signerHead : SignerHead := ⟨100, unary 5, 7, "relayer.testnet", "ed25519:relayer", 1000⟩

end Sample

section
local instance forwardNear : NearPrimitives := Sample.nearPrimitives

local instance forwardEvm : EvmPrimitives := Sample.evmPrimitives

theorem sample_payment_is_recognised :
    ∃ prepared, (ChainProvider.near Sample.nearRelayer).prepare
      (.ofNear (Sample.verifiedDelegate.payment Sample.usdc Sample.shop 1000))
      Sample.signerHead = pure (.ok prepared) ∧ prepared.signerNonce = 8 := by
  have hhead : Sample.signerHead.chainBlockRef = NearPrimitives.hashText 5 := rfl
  obtain ⟨⟨prepared, hprepare, hnonce, -⟩, -⟩ :=
    near_recovery_recognises_forward_path Sample.verifiedDelegate_from hhead (by decide)
      (fun _ => rfl) (by decide +kernel)
  exact ⟨prepared, hprepare, hnonce⟩

end

end X402Facilitator
