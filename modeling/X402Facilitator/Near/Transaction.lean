import X402Facilitator.Near.Receipt
import X402Facilitator.Store.Transaction

/-!
# The outer NEAR transaction

The relayer wraps the payer's signed delegate action into one outer transaction, signs it and keeps
its exact Borsh bytes. This module has the construction of those bytes, the decoder they go through
before every broadcast, and the validator that recovery runs on the bytes of a journal row.

Borsh, the hash functions and the signature schemes are third-party code. They are the fields of
`NearPrimitives`, with the laws the development relies on: encodings are canonical, and a hash is
read back from its text.
-/

namespace X402Facilitator

structure FunctionCall where
  methodName : String
  args : Bytes
  gas : Nat
  deposit : Nat
deriving DecidableEq

/-- An action inside a delegate action. -/
inductive NonDelegateAction where
  | functionCall (call : FunctionCall)
  | other (encoded : Bytes)
deriving DecidableEq

structure SignedDelegateAction where
  senderId : AccountId
  receiverId : AccountId
  publicKey : String
  nonce : Nat
  maxBlockHeight : Nat
  actions : List NonDelegateAction
  signature : Bytes
deriving DecidableEq

inductive Action where
  | delegate (signed : SignedDelegateAction)
  | other (encoded : Bytes)
deriving DecidableEq

inductive TransactionVersion where
  | v0
  | v1
deriving DecidableEq

/-- `Transaction`; `rest` stands for what only a later version carries. -/
structure Transaction where
  version : TransactionVersion
  signerId : AccountId
  publicKey : String
  nonce : Nat
  receiverId : AccountId
  blockHash : CryptoHash
  actions : List Action
  rest : Bytes
deriving DecidableEq

structure SignedTransaction where
  signature : Bytes
  transaction : Transaction
deriving DecidableEq

class NearPrimitives where
  /-- `borsh::to_vec`. -/
  borsh : SignedTransaction → Bytes
  /-- `SignedTransaction::try_from_slice`. -/
  tryFromSlice : Bytes → Option SignedTransaction
  borsh_of_tryFromSlice : ∀ {bytes signed}, tryFromSlice bytes = some signed → borsh signed = bytes
  /-- An encoding is read back as what it encodes. -/
  eq_of_tryFromSlice_borsh : ∀ {signed decoded}, tryFromSlice (borsh signed) = some decoded →
    decoded = signed
  /-- `Transaction::get_hash_and_size`. -/
  transactionHash : Transaction → CryptoHash
  publicKeyOf : (secretKey : Bytes) → String
  sign : (secretKey : Bytes) → CryptoHash → Bytes
  verifySignature : (signature : Bytes) → CryptoHash → (publicKey : String) → Bool
  verifyDelegate : SignedDelegateAction → Bool
  sha256 : Bytes → Hash32
  /-- The standard alphabet of `base64`. -/
  decodeBase64 : String → Option Bytes
  /-- `SignedDelegateAction::try_from_slice`. -/
  delegateFromSlice : Bytes → Option SignedDelegateAction
  /-- `borsh::to_vec` of a signed delegate action. -/
  borshDelegate : SignedDelegateAction → Option Bytes
  borshDelegate_of_delegateFromSlice : ∀ {bytes signed}, delegateFromSlice bytes = some signed →
    borshDelegate signed = some bytes
  /-- The numbers of an action are `u64` values. -/
  u64_of_delegateFromSlice : ∀ {bytes signed}, delegateFromSlice bytes = some signed →
    signed.nonce < 2 ^ 64 ∧ signed.maxBlockHeight < 2 ^ 64
  /-- The key and the signature are both on one supported curve. -/
  curvesMatch : SignedDelegateAction → Bool
  /-- The `receiver_id` and `amount` of `ft_transfer` arguments. -/
  ftTransferArgs : Bytes → Option (String × String)
  hashText : CryptoHash → String
  parseHash : String → Option CryptoHash
  parseHash_hashText : ∀ hash, parseHash (hashText hash) = some hash

export NearPrimitives (borsh tryFromSlice borsh_of_tryFromSlice transactionHash verifySignature
  verifyDelegate hashText parseHash parseHash_hashText)

def paymentHashDomain : Bytes := "x402-near/signed-delegate/v1".toUTF8.toList

def hashSignedDelegateBytes [NearPrimitives] (bytes : Bytes) : Hash32 :=
  NearPrimitives.sha256 (paymentHashDomain ++ bytes)

def signedDelegateHash [NearPrimitives] (signed : SignedDelegateAction) : Option Hash32 :=
  (NearPrimitives.borshDelegate signed).map hashSignedDelegateBytes

/-! ## RPC errors and answers -/

inductive NearRpcError where
  | accountNotFound
  | accessKeyNotFound
  | methodNotFound
  | transactionUnknown
  | transactionRejected
  | transactionTemporarilyRejected
  | timeout
  | invalidResponse (detail : String)
  | invalidSignedTransaction
  | request (message : String)
deriving DecidableEq

inductive TransactionLookup where
  | unknown
  | pending
  | final (outcome : FinalExecutionOutcomeView)
deriving DecidableEq

structure FinalBlock where
  height : Nat
  hash : CryptoHash
deriving DecidableEq

structure AccessKeyView where
  nonce : Nat
  fullAccess : Bool
deriving DecidableEq

structure RelayerHead where
  blockHeight : Nat
  blockHash : CryptoHash
  accessKeyNonce : Nat
deriving DecidableEq

/-- `RelayerStatus`, with the account reduced to its balance. -/
structure NearRelayerStatus where
  blockHeight : Nat
  blockHash : CryptoHash
  accessKeyNonce : Nat
  amount : Nat
deriving DecidableEq

/-! ## Preparation -/

structure NearRequirements where
  network : String
  asset : AccountId
  payTo : AccountId
  amount : Nat
deriving DecidableEq

/-- A verified delegate payment. -/
structure NearVerifiedPayment where
  payer : AccountId
  payerPublicKey : String
  delegateNonce : Nat
  maxBlockHeight : Nat
  requirements : NearRequirements
  signedDelegate : SignedDelegateAction
  paymentHash : Hash32
deriving DecidableEq

structure PreparedTransaction where
  transactionHash : CryptoHash
  relayerNonce : Nat
  signerId : AccountId
  signerPublicKey : String
  signedTransactionBytes : Bytes
deriving DecidableEq

/-- What a `NearChainProvider` is configured with. -/
structure NearProvider where
  chainReference : String
  accountId : AccountId
  publicKey : String
  secretKey : Bytes
deriving DecidableEq

section
variable [NearPrimitives]

/-- The outer transaction that carries a payment's delegate action. -/
def outerTransaction (relayer : NearProvider) (payment : NearVerifiedPayment)
    (blockHash : CryptoHash) (nonce : Nat) : Transaction where
  version := .v0
  signerId := relayer.accountId
  publicKey := relayer.publicKey
  nonce := nonce
  receiverId := payment.payer
  blockHash := blockHash
  actions := [.delegate payment.signedDelegate]
  rest := []

def prepareOuterTransaction (relayer : NearProvider) (payment : NearVerifiedPayment)
    (head : RelayerHead) : Except NearRpcError PreparedTransaction :=
  -- `checked_add` on a `u64`.
  if 2 ^ 64 ≤ head.accessKeyNonce + 1 then .error (.invalidResponse "relayer nonce overflow")
  else
    let nonce := head.accessKeyNonce + 1
    let transaction := outerTransaction relayer payment head.blockHash nonce
    let hash := transactionHash transaction
    .ok {
      transactionHash := hash
      relayerNonce := nonce
      signerId := relayer.accountId
      signerPublicKey := relayer.publicKey
      signedTransactionBytes := borsh ⟨NearPrimitives.sign relayer.secretKey hash, transaction⟩ }

theorem prepareOuterTransaction_ok {relayer : NearProvider} {payment : NearVerifiedPayment}
    {head : RelayerHead} {prepared : PreparedTransaction}
    (h : prepareOuterTransaction relayer payment head = .ok prepared) :
    prepared.signerId = relayer.accountId ∧ prepared.signerPublicKey = relayer.publicKey ∧
      prepared.relayerNonce = head.accessKeyNonce + 1 ∧
      ∃ signed, signed.transaction = outerTransaction relayer payment head.blockHash
          (head.accessKeyNonce + 1) ∧
        prepared.transactionHash = transactionHash signed.transaction ∧
        prepared.signedTransactionBytes = borsh signed := by
  unfold prepareOuterTransaction at h
  split at h
  · cases h
  · obtain rfl := Except.ok.inj h
    exact ⟨rfl, rfl, rfl, ⟨_, _⟩, rfl, rfl, rfl⟩

/-! ## Decoding and validation -/

def decodeSignedTransaction (bytes : Bytes) : Except NearRpcError SignedTransaction :=
  match tryFromSlice bytes with
  | none => .error .invalidSignedTransaction
  | some signed =>
    if verifySignature signed.signature (transactionHash signed.transaction)
        signed.transaction.publicKey then
      .ok signed
    else .error .invalidSignedTransaction

theorem decodeSignedTransaction_ok_iff {bytes : Bytes} {signed : SignedTransaction} :
    decodeSignedTransaction bytes = .ok signed ↔
      tryFromSlice bytes = some signed ∧ verifySignature signed.signature
        (transactionHash signed.transaction) signed.transaction.publicKey = true := by
  unfold decodeSignedTransaction
  cases tryFromSlice bytes with
  | none => simp
  | some decoded =>
    dsimp only
    rw [Option.some_inj]
    constructor
    · intro h
      split at h
      · obtain rfl := Except.ok.inj h
        exact ⟨rfl, ‹_›⟩
      · cases h
    · rintro ⟨rfl, hsignature⟩
      exact if_pos hsignature

/-- What the decoder accepts is encoded by exactly the bytes it came from. -/
theorem borsh_of_decodeSignedTransaction {bytes : Bytes} {signed : SignedTransaction}
    (h : decodeSignedTransaction bytes = .ok signed) : borsh signed = bytes :=
  borsh_of_tryFromSlice (decodeSignedTransaction_ok_iff.mp h).1

def signedTransactionHash (bytes : Bytes) : Except NearRpcError CryptoHash :=
  (decodeSignedTransaction bytes).map fun signed => transactionHash signed.transaction

/-- `text.parse::<u64>()` on a column read back as text, where a `NULL` column reads as `''`. -/
def parseU64 (column : Option Nat) : Option Nat :=
  column.filter (· < 2 ^ 64)

def validateStoredTransaction (record : Settlement) (bytes : Bytes) (expectedHash : CryptoHash)
    (expectedSigner : AccountId) : Except StoreError Unit := do
  let corrupt (message : String) : Except StoreError Unit := .error (.corrupt message)
  let some signed := (decodeSignedTransaction bytes).toOption
    | corrupt "prepared transaction bytes are invalid"
  let transaction := signed.transaction
  if (signedTransactionHash bytes).toOption ≠ some expectedHash ∨
      transactionHash transaction ≠ expectedHash then
    corrupt "prepared transaction bytes do not match journaled hash"
  else if ¬ verifySignature signed.signature (transactionHash transaction)
      transaction.publicKey then
    corrupt "prepared outer transaction signature is invalid"
  else if transaction.version ≠ .v0 then
    corrupt "prepared outer transaction is not V0"
  else
    let some expectedPublicKey := record.relayerPublicKey
      | corrupt "prepared row has no public key"
    let some expectedNonce := parseU64 record.relayerNonce
      | corrupt "prepared row has invalid nonce"
    let some payer := AccountId.parse record.payer
      | corrupt "journal payer is invalid"
    if transaction.signerId ≠ expectedSigner ∨ transaction.publicKey ≠ expectedPublicKey ∨
        transaction.nonce ≠ expectedNonce ∨ transaction.receiverId ≠ payer ∨
        transaction.actions.length ≠ 1 then
      corrupt "prepared outer transaction identity does not match the journal"
    else
      let some (.delegate delegate) := transaction.actions.head?
        | corrupt "prepared outer transaction does not contain one delegate action"
      if ¬ verifyDelegate delegate then
        corrupt "prepared delegate signature is invalid"
      else
        let some delegateHash := signedDelegateHash delegate
          | corrupt "prepared delegate cannot be hashed"
        let some expectedDelegateNonce := parseU64 record.delegateNonce
          | corrupt "journal delegate nonce is invalid"
        let some expectedMaxHeight := parseU64 record.delegateMaxBlockHeight
          | corrupt "journal delegate expiry is invalid"
        if delegateHash ≠ record.paymentHash ∨ delegate.senderId ≠ payer ∨
            delegate.publicKey ≠ record.delegatePublicKey.getD "" ∨
            delegate.nonce ≠ expectedDelegateNonce ∨
            delegate.maxBlockHeight ≠ expectedMaxHeight then
          corrupt "prepared delegate does not match the settlement journal"
        else .ok ()

omit [NearPrimitives] in
/-- The columns are read back as they were written: decimal text of a `NUMERIC` column. -/
theorem parseU64_eq (n : Nat) : parseU64 (some n) = parseUnsigned? 64 (toString n) :=
  (parseUnsigned?_toString_eq 64 n).symm

/-- What the validator compares a row and its bytes by. -/
structure StoredTransactionMatches (record : Settlement) (bytes : Bytes) (hash : CryptoHash)
    (signer : AccountId) (signed : SignedTransaction) (delegate : SignedDelegateAction) : Prop where
  decoded : tryFromSlice bytes = some signed
  signature : verifySignature signed.signature (transactionHash signed.transaction)
    signed.transaction.publicKey = true
  hash : transactionHash signed.transaction = hash
  version : signed.transaction.version = .v0
  signerId : signed.transaction.signerId = signer
  publicKey : record.relayerPublicKey = some signed.transaction.publicKey
  nonce : parseU64 record.relayerNonce = some signed.transaction.nonce
  receiverId : signed.transaction.receiverId.text = record.payer
  actions : signed.transaction.actions = [.delegate delegate]
  delegateSignature : verifyDelegate delegate = true
  delegateHash : signedDelegateHash delegate = some record.paymentHash
  senderId : delegate.senderId.text = record.payer
  delegatePublicKey : delegate.publicKey = record.delegatePublicKey.getD ""
  delegateNonce : parseU64 record.delegateNonce = some delegate.nonce
  maxBlockHeight : parseU64 record.delegateMaxBlockHeight = some delegate.maxBlockHeight

theorem validateStoredTransaction_ok_iff {record : Settlement} {bytes : Bytes} {hash : CryptoHash}
    {signer : AccountId} :
    validateStoredTransaction record bytes hash signer = .ok () ↔
      ∃ signed delegate, StoredTransactionMatches record bytes hash signer signed delegate := by
  constructor
  · intro h
    unfold validateStoredTransaction at h
    split at h
    swap
    · cases h
    rename_i signed hdecode
    dsimp only at h
    obtain ⟨hhash, h⟩ := Except.of_ite_error h
    obtain ⟨hsignature, h⟩ := Except.of_ite_error h
    obtain ⟨hversion, h⟩ := Except.of_ite_error h
    split at h
    swap
    · cases h
    rename_i publicKey hpublicKey
    split at h
    swap
    · cases h
    rename_i nonce hnonce
    split at h
    swap
    · cases h
    rename_i payer hpayer
    obtain ⟨hidentity, h⟩ := Except.of_ite_error h
    split at h
    swap
    · cases h
    rename_i delegate hdelegate
    obtain ⟨hverify, h⟩ := Except.of_ite_error h
    split at h
    swap
    · cases h
    rename_i delegateHash hdelegateHash
    split at h
    swap
    · cases h
    rename_i delegateNonce hdelegateNonce
    split at h
    swap
    · cases h
    rename_i maxHeight hmaxHeight
    obtain ⟨hjournal, -⟩ := Except.of_ite_error h
    simp only [not_or, not_not, ne_eq] at hhash hsignature hversion hidentity hverify hjournal
    obtain ⟨hsigner, rfl, rfl, rfl, hlength⟩ := hidentity
    obtain ⟨rfl, hsender, hkey, rfl, rfl⟩ := hjournal
    have htext := AccountId.parse_eq_some.mp hpayer
    obtain ⟨action, haction⟩ := List.length_eq_one_iff.mp hlength
    refine ⟨signed, delegate, ?_, hsignature, hhash.2, hversion, hsigner, hpublicKey, hnonce, htext,
      ?_, hverify, hdelegateHash, ?_, hkey, hdelegateNonce, hmaxHeight⟩
    · cases hresult : decodeSignedTransaction bytes with
      | error e =>
        rw [hresult] at hdecode
        cases hdecode
      | ok decoded =>
        rw [hresult] at hdecode
        obtain rfl := Option.some.inj hdecode
        exact (decodeSignedTransaction_ok_iff.mp hresult).1
    · rw [haction] at hdelegate ⊢
      rw [Option.some.inj hdelegate]
    · rw [hsender, htext]
  · rintro ⟨signed, delegate, h⟩
    have hdecode : decodeSignedTransaction bytes = .ok signed :=
      decodeSignedTransaction_ok_iff.mpr ⟨h.decoded, h.signature⟩
    have hpayer : AccountId.parse record.payer = some signed.transaction.receiverId :=
      AccountId.parse_eq_some.mpr h.receiverId
    have hsender : delegate.senderId = signed.transaction.receiverId := by
      have := AccountId.parse_eq_some.mpr h.senderId
      exact Option.some.inj (this.symm.trans hpayer)
    have hsignature := h.signature
    rw [h.hash] at hsignature
    simp [validateStoredTransaction, signedTransactionHash, hdecode, h.hash, hsignature, h.version,
      h.signerId, h.publicKey, h.nonce, hpayer, h.actions, h.delegateSignature, h.delegateHash,
      h.delegateNonce, h.maxBlockHeight, hsender, h.delegatePublicKey, Except.toOption, Except.map]

end

end X402Facilitator
