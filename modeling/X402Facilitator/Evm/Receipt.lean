import X402Facilitator.Evm.Transaction

/-!
# Reading an EVM transaction back

What two independent readers report about a transaction hash is parsed from raw JSON, merged, and
judged: a terminal verdict needs the same receipt from both readers before and after a head read, at
the required confirmation depth.
-/

namespace X402Facilitator

/-! ## Quantities -/

def hexDigit? (c : Char) : Option Nat :=
  if '0' ≤ c ∧ c ≤ '9' then some (c.toNat - '0'.toNat)
  else if 'a' ≤ c ∧ c ≤ 'f' then some (c.toNat - 'a'.toNat + 10)
  else if 'A' ≤ c ∧ c ≤ 'F' then some (c.toNat - 'A'.toNat + 10)
  else none

/-- The digits of `u128::from_str_radix(_, 16)`, most significant first. -/
def hexValue? (digits : List Char) : Option Nat :=
  digits.foldl (fun value c => do
    let value ← value
    let digit ← hexDigit? c
    let next := value * 16 + digit
    if next < 2 ^ 128 then return next else none) (some 0)

/-- `u128::from_str_radix(_, 16)`, which also takes a leading plus sign. -/
def u128FromHex? : List Char → Option Nat
  | [] => none
  | ['+'] => none
  | '+' :: digits => hexValue? digits
  | digits => hexValue? digits

/-- The shared body of the two quantity parsers, which differ in the errors they raise. -/
def parseQuantity (invalid : String → EvmRpcError) (overflow : EvmRpcError) (value : Json) :
    Except EvmRpcError Nat :=
  match value.asStr? with
  | none => .error (invalid "non-string quantity")
  | some raw =>
    match raw.toList with
    | '0' :: 'x' :: digits =>
      if digits = [] ∨ (1 < digits.length ∧ digits.head? = some '0') then
        .error (invalid "non-canonical quantity")
      else
        match u128FromHex? digits with
        | none => .error overflow
        | some n => .ok n
    | _ => .error (invalid "quantity prefix")

def parseHexQuantity : Json → Except EvmRpcError Nat :=
  parseQuantity .invalidReceipt .feeOverflow

def parseTransactionQuantity : Json → Except EvmRpcError Nat :=
  parseQuantity .invalidTransaction (.invalidTransaction "quantity overflow")

/-! ## Observations -/

structure ReceiptFacts where
  blockNumber : Nat
  blockHash : Option Hash32
  success : Bool
  txHash : Hash32
  gasUsed : Nat
  feeWei : Nat
  executionFeeWei : Nat
  l1FeeWei : Nat
deriving DecidableEq

inductive ReceiptObservation where
  | unknown
  | pending
  | mined (facts : ReceiptFacts)
deriving DecidableEq

inductive TransactionObservation where
  | missing
  | pending (accountNonce : Nat)
  | mined (accountNonce blockNumber : Nat) (blockHash : Hash32)
deriving DecidableEq

/-- `ok_or`. -/
def orError {α : Type} (error : EvmRpcError) : Option α → Except EvmRpcError α
  | some a => .ok a
  | none => .error error

/-- `u64::try_from`. -/
def toU64 (error : EvmRpcError) (n : Nat) : Except EvmRpcError Nat :=
  if n < 2 ^ 64 then .ok n else .error error

/-- `checked_mul` and `checked_add` on `u128` values. -/
def checkedU128 (n : Nat) : Except EvmRpcError Nat :=
  if n < 2 ^ 128 then .ok n else .error .feeOverflow

section
variable [EvmPrimitives]

/-- A member of an object that is a 32-byte hash. -/
def hashMember (invalid : String → EvmRpcError) (object : Json) (key : String) :
    Except EvmRpcError Hash32 :=
  orError (invalid key) (((object.get? key).bind Json.asStr?).bind parseB256)

def addressMember (object : Json) (key : String) : Except EvmRpcError Address :=
  orError (.invalidTransaction key) (((object.get? key).bind Json.asStr?).bind parseAddress)

def parseRawReceipt (expectedHash : Hash32) (value : Option Json) :
    Except EvmRpcError ReceiptObservation :=
  match value with
  | none => .ok .unknown
  | some object => do
    if ¬ object.isObject then
      .error (.invalidReceipt "receipt object")
    else
      let txHash ← hashMember .invalidReceipt object "transactionHash"
      if txHash ≠ expectedHash then
        .error (.invalidReceipt "transactionHash mismatch")
      else
        let blockNumberValue ← orError (.invalidReceipt "blockNumber") (object.get? "blockNumber")
        if blockNumberValue.isNull then
          return .pending
        else
          let blockNumber ← parseHexQuantity blockNumberValue
          let blockNumber ← toU64 (.invalidReceipt "blockNumber overflow") blockNumber
          let blockHash ← hashMember .invalidReceipt object "blockHash"
          let status ← parseHexQuantity (← orError (.invalidReceipt "status") (object.get? "status"))
          if 1 < status then
            .error (.invalidReceipt "status value")
          else
            let gasUsed ←
              parseHexQuantity (← orError (.invalidReceipt "gasUsed") (object.get? "gasUsed"))
            let gasUsed ← toU64 (.invalidReceipt "gasUsed overflow") gasUsed
            let effectiveGasPrice ← parseHexQuantity
              (← orError (.invalidReceipt "effectiveGasPrice") (object.get? "effectiveGasPrice"))
            let l1FeeWei ←
              parseHexQuantity (← orError (.invalidReceipt "l1Fee") (object.get? "l1Fee"))
            let executionFeeWei ← checkedU128 (gasUsed * effectiveGasPrice)
            let feeWei ← checkedU128 (executionFeeWei + l1FeeWei)
            return .mined {
              blockNumber := blockNumber
              blockHash := some blockHash
              success := status = 1
              txHash := txHash
              gasUsed := gasUsed
              feeWei := feeWei
              executionFeeWei := executionFeeWei
              l1FeeWei := l1FeeWei }

def parseRawTransaction (expectedHash : Hash32) (expectedChainId : Nat)
    (expectedSigner expectedToken : Address) (value : Option Json) :
    Except EvmRpcError TransactionObservation :=
  match value with
  | none => .ok .missing
  | some object => do
    let invalid := EvmRpcError.invalidTransaction
    let quantity (key : String) : Except EvmRpcError Nat := do
      parseTransactionQuantity (← orError (invalid key) (object.get? key))
    if ¬ object.isObject then .error (invalid "transaction object")
    else
      let txHash ← hashMember invalid object "hash"
      if txHash ≠ expectedHash then .error (invalid "hash mismatch")
      else
        let chainId ← toU64 (invalid "chainId overflow") (← quantity "chainId")
        if chainId ≠ expectedChainId then .error (invalid "chainId mismatch")
        else if (← quantity "type") ≠ 2 then .error (invalid "transaction type")
        else if (← addressMember object "from") ≠ expectedSigner then
          .error (invalid "from mismatch")
        else if (← addressMember object "to") ≠ expectedToken then .error (invalid "to mismatch")
        else if (← quantity "value") ≠ 0 then .error (invalid "native value")
        else
          let input ← orError (invalid "input") ((object.get? "input").bind Json.asStr?)
          if input.toList.length ≤ 2 ∨ ¬ ['0', 'x'] <+: input.toList then .error (invalid "input")
          else
            let accountNonce ← toU64 (invalid "nonce overflow") (← quantity "nonce")
            let blockNumber ← orError (invalid "blockNumber") (object.get? "blockNumber")
            let blockHash ← orError (invalid "blockHash") (object.get? "blockHash")
            match blockNumber.isNull, blockHash.isNull with
            | true, true => return .pending accountNonce
            | false, false =>
              let number ← parseTransactionQuantity blockNumber
              let number ← toU64 (invalid "blockNumber overflow") number
              let hash ← orError (invalid "blockHash") (blockHash.asStr?.bind parseB256)
              return .mined accountNonce number hash
            | _, _ => .error (invalid "inconsistent block identity")

end

/-! ## Merging two readers -/

def mergeReceipts : ReceiptObservation → ReceiptObservation →
    Except EvmRpcError ReceiptObservation
  | .unknown, .unknown => .ok .unknown
  | .mined primary, .mined backup =>
    if primary = backup then .ok (.mined primary)
    else .error (.readerDisagreement "receipt facts")
  | _, _ => .ok .pending

def mergeTransactions (primary backup : TransactionObservation) :
    Except EvmRpcError TransactionObservation :=
  let disagreement := .error (.readerDisagreement "transaction facts")
  match primary, backup with
  | .missing, known => .ok known
  | known, .missing => .ok known
  | .pending n, .pending m => if n = m then .ok (.pending n) else disagreement
  | .pending n, .mined m _ _ | .mined m _ _, .pending n =>
    if n = m then .ok (.pending m) else disagreement
  | .mined n block hash, .mined m block' hash' =>
    if n = m ∧ block = block' ∧ hash = hash' then .ok primary else disagreement

structure EndpointHead where
  chainId : Nat
  blockNumber : Nat
  pendingAccountNonce : Nat
  gasBalanceWei : Nat
deriving DecidableEq

structure EvmHead where
  blockNumber : Nat
  accountNonce : Nat
  gasBalanceWei : Nat
  signerAddress : Address
deriving DecidableEq

inductive EvmHeadSnapshotFailure where
  | primaryRpcUnavailable
  | backupRpcUnavailable
  | bothRpcUnavailable
  | chainIdMismatch
  | pendingNonceDisagreement
deriving DecidableEq

def mergeHeadValues (expectedChainId : Nat) (signer : Address) (primary backup : EndpointHead) :
    Except EvmHeadSnapshotFailure EvmHead :=
  if primary.chainId ≠ expectedChainId ∨ backup.chainId ≠ expectedChainId then
    .error .chainIdMismatch
  else if primary.pendingAccountNonce ≠ backup.pendingAccountNonce then
    .error .pendingNonceDisagreement
  else .ok {
    blockNumber := min primary.blockNumber backup.blockNumber
    accountNonce := primary.pendingAccountNonce
    gasBalanceWei := min primary.gasBalanceWei backup.gasBalanceWei
    signerAddress := signer }

def mergeHeadSnapshot (expectedChainId : Nat) (signer : Address)
    (primary backup : Except EvmRpcError EndpointHead) : Except EvmHeadSnapshotFailure EvmHead :=
  match primary, backup with
  | .error _, .error _ => .error .bothRpcUnavailable
  | .error _, .ok _ => .error .primaryRpcUnavailable
  | .ok _, .error _ => .error .backupRpcUnavailable
  | .ok primary, .ok backup => mergeHeadValues expectedChainId signer primary backup

/-! ## The verdict -/

structure EvmTerminalOutcome where
  success : Bool
  txHash : Hash32
  blockNumber : Nat
  blockHash : Option Hash32
  confirmations : Nat
  gasUsed : Nat
  feeWei : Nat
  executionFeeWei : Nat
  l1FeeWei : Nat
deriving DecidableEq

inductive EvmReconcileStatus where
  | unknown
  | pending
  | mined (confirmations blockNumber : Nat)
  | terminal (outcome : EvmTerminalOutcome)
deriving DecidableEq

def classifyConfirmations (receipt : ReceiptFacts) (headBlock requiredConfirmations : Nat) :
    Except EvmRpcError EvmReconcileStatus :=
  if requiredConfirmations = 0 then .error .invalidConfirmations
  else if headBlock < receipt.blockNumber then .error .headBehindReceipt
  else
    -- `saturating_add` on a `u64`.
    let confirmations := min (headBlock - receipt.blockNumber + 1) (2 ^ 64 - 1)
    if requiredConfirmations ≤ confirmations then
      .ok (.terminal {
        success := receipt.success
        txHash := receipt.txHash
        blockNumber := receipt.blockNumber
        blockHash := receipt.blockHash
        confirmations := confirmations
        gasUsed := receipt.gasUsed
        feeWei := receipt.feeWei
        executionFeeWei := receipt.executionFeeWei
        l1FeeWei := receipt.l1FeeWei })
    else .ok (.mined confirmations receipt.blockNumber)

def classifyReconciliation (firstReceipt : ReceiptObservation)
    (transaction : TransactionObservation) (recheckedReceipt : Option ReceiptObservation)
    (headBlock requiredConfirmations : Nat) : Except EvmRpcError EvmReconcileStatus :=
  match firstReceipt with
  | .unknown =>
    match transaction with
    | .missing => .ok .unknown
    | .pending _ | .mined .. => .ok .pending
  | .pending => .ok .pending
  | .mined first =>
    match recheckedReceipt with
    | some (.mined second) =>
      if first = second then classifyConfirmations second headBlock requiredConfirmations
      else .ok .pending
    | _ => .ok .pending

/-! ## What a terminal verdict rests on -/

/-- The member is a quantity with this value. -/
def HasQuantity (object : Json) (key : String) (n : Nat) : Prop :=
  ∃ value, object.get? key = some value ∧ parseHexQuantity value = .ok n

/-- The object is a well-formed receipt of the transaction that reports these facts. The fee is what
the gas cost and the layer-one fee add up to; neither the product nor the sum wraps around. -/
structure DescribesReceipt [EvmPrimitives] (object : Json) (hash : Hash32) (facts : ReceiptFacts) :
    Prop where
  isObject : object.isObject
  transactionHash : hashMember .invalidReceipt object "transactionHash" = .ok hash
  blockNumber : HasQuantity object "blockNumber" facts.blockNumber
  blockHash : ∃ blockHash, hashMember .invalidReceipt object "blockHash" = .ok blockHash ∧
    facts.blockHash = some blockHash
  status : HasQuantity object "status" (if facts.success then 1 else 0)
  gasUsed : HasQuantity object "gasUsed" facts.gasUsed
  l1Fee : HasQuantity object "l1Fee" facts.l1FeeWei
  fee : ∃ price, HasQuantity object "effectiveGasPrice" price ∧
    facts.executionFeeWei = facts.gasUsed * price ∧
    facts.feeWei = facts.gasUsed * price + facts.l1FeeWei
  txHash : facts.txHash = hash
  bounds : facts.blockNumber < 2 ^ 64 ∧ facts.gasUsed < 2 ^ 64 ∧ facts.feeWei < 2 ^ 128

theorem orError_ok {α : Type} {error : EvmRpcError} {value : Option α} {a : α}
    (h : orError error value = .ok a) : value = some a := by
  cases value with
  | none => cases h
  | some b => rw [Except.ok.inj h]

theorem toU64_ok {error : EvmRpcError} {n m : Nat} (h : toU64 error n = .ok m) :
    m = n ∧ n < 2 ^ 64 := by
  unfold toU64 at h
  split at h
  · exact ⟨(Except.ok.inj h).symm, ‹_›⟩
  · cases h

theorem toU64_eq {n : Nat} (h : n < 2 ^ 64) (error : EvmRpcError) : toU64 error n = .ok n :=
  if_pos h

theorem checkedU128_ok {n m : Nat} (h : checkedU128 n = .ok m) : m = n ∧ n < 2 ^ 128 := by
  unfold checkedU128 at h
  split at h
  · exact ⟨(Except.ok.inj h).symm, ‹_›⟩
  · cases h

/-- A receipt is only accepted for the transaction it was asked for, and with the facts it states. -/
theorem parseRawReceipt_mined [EvmPrimitives] {hash : Hash32} {value : Option Json}
    {facts : ReceiptFacts} (h : parseRawReceipt hash value = .ok (.mined facts)) :
    ∃ object, value = some object ∧ DescribesReceipt object hash facts := by
  unfold parseRawReceipt at h
  split at h
  · cases h
  rename_i object
  obtain ⟨hobject, h⟩ := Except.of_ite_error h
  obtain ⟨txHash, htxHash, h⟩ := Except.exists_of_bind h
  obtain ⟨hmismatch, h⟩ := Except.of_ite_error h
  obtain ⟨blockNumberValue, hblockValue, h⟩ := Except.exists_of_bind h
  split at h
  · cases h
  -- The members are read one after the other.
  obtain ⟨blockNumber, hblock, h⟩ := Except.exists_of_bind h
  obtain ⟨_, hblock64, h⟩ := Except.exists_of_bind h
  obtain ⟨blockHash, hblockHash, h⟩ := Except.exists_of_bind h
  obtain ⟨statusValue, hstatusValue, h⟩ := Except.exists_of_bind h
  obtain ⟨status, hstatus, h⟩ := Except.exists_of_bind h
  obtain ⟨hbit, h⟩ := Except.of_ite_error h
  obtain ⟨gasValue, hgasValue, h⟩ := Except.exists_of_bind h
  obtain ⟨gasUsed, hgas, h⟩ := Except.exists_of_bind h
  obtain ⟨_, hgas64, h⟩ := Except.exists_of_bind h
  obtain ⟨priceValue, hpriceValue, h⟩ := Except.exists_of_bind h
  obtain ⟨price, hprice, h⟩ := Except.exists_of_bind h
  obtain ⟨l1Value, hl1Value, h⟩ := Except.exists_of_bind h
  obtain ⟨l1Fee, hl1Fee, h⟩ := Except.exists_of_bind h
  obtain ⟨_, hexecution, h⟩ := Except.exists_of_bind h
  obtain ⟨_, hfee, h⟩ := Except.exists_of_bind h
  cases h
  obtain rfl := not_not.mp hmismatch
  obtain ⟨rfl, hblock64⟩ := toU64_ok hblock64
  obtain ⟨rfl, hgas64⟩ := toU64_ok hgas64
  obtain ⟨rfl, -⟩ := checkedU128_ok hexecution
  obtain ⟨rfl, hfee128⟩ := checkedU128_ok hfee
  refine ⟨object, rfl, ?_⟩
  refine {
    isObject := not_not.mp hobject
    transactionHash := htxHash
    blockNumber := ⟨blockNumberValue, orError_ok hblockValue, hblock⟩
    blockHash := ⟨blockHash, hblockHash, rfl⟩
    status := ⟨statusValue, orError_ok hstatusValue, ?_⟩
    gasUsed := ⟨gasValue, orError_ok hgasValue, hgas⟩
    l1Fee := ⟨l1Value, orError_ok hl1Value, hl1Fee⟩
    fee := ⟨price, ⟨priceValue, orError_ok hpriceValue, hprice⟩, rfl, rfl⟩
    txHash := rfl
    bounds := ⟨hblock64, hgas64, hfee128⟩ }
  obtain rfl | rfl : status = 0 ∨ status = 1 := by omega
  · exact hstatus
  · exact hstatus

theorem HasQuantity.isNull {object value : Json} {key : String} {n : Nat}
    (h : HasQuantity object key n) (hvalue : object.get? key = some value) :
    value.isNull = false ∧ parseHexQuantity value = .ok n := by
  obtain ⟨_, hvalue', hn⟩ := h
  obtain rfl := Option.some.inj (hvalue.symm.trans hvalue')
  refine ⟨?_, hn⟩
  cases value with
  | null => cases hn
  | _ => rfl

/-- Every well-formed receipt of the transaction is accepted. -/
theorem parseRawReceipt_of_describes [EvmPrimitives] {object : Json} {hash : Hash32}
    {facts : ReceiptFacts} (h : DescribesReceipt object hash facts) :
    parseRawReceipt hash (some object) = .ok (.mined facts) := by
  obtain ⟨blockNumber, hblockNumber, hblock⟩ := h.blockNumber
  obtain ⟨hnull, -⟩ := h.blockNumber.isNull hblockNumber
  obtain ⟨blockHash, hblockHash, hfacts⟩ := h.blockHash
  obtain ⟨status, hstatusValue, hstatus⟩ := h.status
  obtain ⟨gasUsed, hgasUsed, hgas⟩ := h.gasUsed
  obtain ⟨l1Fee, hl1FeeValue, hl1Fee⟩ := h.l1Fee
  obtain ⟨price, ⟨priceValue, hpriceValue, hprice⟩, hexecution, hfee⟩ := h.fee
  obtain ⟨hblock64, hgas64, hfee128⟩ := h.bounds
  have hbit : ¬ 1 < (if facts.success then 1 else 0) := by split <;> decide
  have hcost : checkedU128 (facts.gasUsed * price) = .ok facts.executionFeeWei :=
    hexecution ▸ if_pos (by omega)
  have htotal : checkedU128 (facts.executionFeeWei + facts.l1FeeWei) = .ok facts.feeWei := by
    rw [hfee, ← hexecution] at hfee128 ⊢
    exact if_pos hfee128
  simp only [parseRawReceipt, h.isObject, h.transactionHash, hblockNumber, hnull, hblock, hblockHash,
    hstatusValue, hstatus, hgasUsed, hgas, hl1FeeValue, hl1Fee, hpriceValue, hprice, orError,
    toU64_eq hblock64, toU64_eq hgas64, hcost, htotal, if_neg hbit, Except.ok_bind, not_true_eq_false,
    if_false, ne_eq, Bool.false_eq_true]
  obtain ⟨block, hash, success, txHash, gas, fee, execution, l1⟩ := facts
  obtain rfl := h.txHash
  obtain rfl : hash = some blockHash := hfacts
  cases success <;> rfl

theorem parseRawReceipt_unknown [EvmPrimitives] {hash : Hash32} {value : Option Json}
    (h : parseRawReceipt hash value = .ok .unknown) : value = none := by
  cases value with
  | none => rfl
  | some object =>
    simp only [parseRawReceipt] at h
    obtain ⟨-, h⟩ := Except.of_ite_error h
    obtain ⟨_, -, h⟩ := Except.exists_of_bind h
    obtain ⟨-, h⟩ := Except.of_ite_error h
    obtain ⟨_, -, h⟩ := Except.exists_of_bind h
    split at h
    · cases h
    iterate 5 obtain ⟨_, -, h⟩ := Except.exists_of_bind h
    obtain ⟨-, h⟩ := Except.of_ite_error h
    iterate 9 obtain ⟨_, -, h⟩ := Except.exists_of_bind h
    cases h

theorem parseRawTransaction_missing [EvmPrimitives] {hash : Hash32} {chainId : Nat}
    {signer token : Address} {value : Option Json}
    (h : parseRawTransaction hash chainId signer token value = .ok .missing) : value = none := by
  cases value with
  | none => rfl
  | some object =>
    simp only [parseRawTransaction] at h
    obtain ⟨-, h⟩ := Except.of_ite_error h
    obtain ⟨_, -, h⟩ := Except.exists_of_bind h
    obtain ⟨-, h⟩ := Except.of_ite_error h
    iterate 2 obtain ⟨_, -, h⟩ := Except.exists_of_bind h
    obtain ⟨-, h⟩ := Except.of_ite_error h
    -- The type, the two addresses, the value and the input, each read and then checked.
    iterate 5
      obtain ⟨_, -, h⟩ := Except.exists_of_bind h
      obtain ⟨-, h⟩ := Except.of_ite_error h
    iterate 4 obtain ⟨_, -, h⟩ := Except.exists_of_bind h
    split at h
    · cases h
    · iterate 3 obtain ⟨_, -, h⟩ := Except.exists_of_bind h
      cases h
    · cases h

theorem mergeReceipts_mined {primary backup : ReceiptObservation} {facts : ReceiptFacts}
    (h : mergeReceipts primary backup = .ok (.mined facts)) :
    primary = .mined facts ∧ backup = .mined facts := by
  unfold mergeReceipts at h
  split at h
  · cases h
  · split at h
    · rename_i heq
      cases h
      exact ⟨rfl, by rw [heq]⟩
    · cases h
  · cases h

theorem mergeReceipts_unknown {primary backup : ReceiptObservation}
    (h : mergeReceipts primary backup = .ok .unknown) : primary = .unknown ∧ backup = .unknown := by
  unfold mergeReceipts at h
  split at h
  · exact ⟨rfl, rfl⟩
  · split at h <;> cases h
  · cases h

theorem mergeTransactions_missing {primary backup : TransactionObservation}
    (h : mergeTransactions primary backup = .ok .missing) :
    primary = .missing ∧ backup = .missing := by
  unfold mergeTransactions at h
  dsimp only at h
  split at h
  · exact ⟨rfl, Except.ok.inj h⟩
  · exact ⟨Except.ok.inj h, rfl⟩
  · split at h <;> cases h
  · split at h <;> cases h
  · split at h <;> cases h
  · split at h <;> cases h

theorem classifyReconciliation_unknown {first : ReceiptObservation}
    {transaction : TransactionObservation} {rechecked : Option ReceiptObservation} {headBlock required : Nat}
    (h : classifyReconciliation first transaction rechecked headBlock required = .ok .unknown) :
    first = .unknown ∧ transaction = .missing := by
  unfold classifyReconciliation at h
  split at h
  · cases transaction with
    | missing => exact ⟨rfl, rfl⟩
    | pending | mined => cases h
  · cases h
  · split at h
    · split at h
      · obtain ⟨-, h⟩ := Except.of_ite_error h
        obtain ⟨-, h⟩ := Except.of_ite_error h
        dsimp only at h
        split at h <;> cases h
      · cases h
    · cases h

/-- The terminal outcome that the facts of a receipt at this depth make. -/
def ReceiptFacts.terminalOutcome (receipt : ReceiptFacts) (confirmations : Nat) :
    EvmTerminalOutcome where
  success := receipt.success
  txHash := receipt.txHash
  blockNumber := receipt.blockNumber
  blockHash := receipt.blockHash
  confirmations := confirmations
  gasUsed := receipt.gasUsed
  feeWei := receipt.feeWei
  executionFeeWei := receipt.executionFeeWei
  l1FeeWei := receipt.l1FeeWei

/-- The depth of a block below the head, a `u64`. -/
def confirmationDepth (headBlock blockNumber : Nat) : Nat :=
  min (headBlock - blockNumber + 1) (2 ^ 64 - 1)

theorem classifyConfirmations_terminal_iff {receipt : ReceiptFacts} {headBlock required : Nat}
    {outcome : EvmTerminalOutcome} :
    classifyConfirmations receipt headBlock required = .ok (.terminal outcome) ↔
      0 < required ∧ receipt.blockNumber ≤ headBlock ∧
        required ≤ confirmationDepth headBlock receipt.blockNumber ∧
        outcome = receipt.terminalOutcome (confirmationDepth headBlock receipt.blockNumber) := by
  unfold classifyConfirmations
  constructor
  · intro h
    obtain ⟨hrequired, h⟩ := Except.of_ite_error h
    obtain ⟨hbehind, h⟩ := Except.of_ite_error h
    dsimp only at h
    split at h
    · rename_i hdepth
      exact ⟨by omega, by omega, hdepth, by cases h; rfl⟩
    · cases h
  · rintro ⟨hrequired, hbehind, hdepth, rfl⟩
    rw [if_neg (by omega), if_neg (by omega)]
    exact if_pos hdepth

theorem classifyConfirmations_terminal {receipt : ReceiptFacts} {headBlock required : Nat}
    {outcome : EvmTerminalOutcome}
    (h : classifyConfirmations receipt headBlock required = .ok (.terminal outcome)) :
    0 < required ∧ receipt.blockNumber ≤ headBlock ∧ required ≤ outcome.confirmations ∧
      outcome.confirmations = min (headBlock - receipt.blockNumber + 1) (2 ^ 64 - 1) ∧
      outcome.success = receipt.success ∧ outcome.txHash = receipt.txHash := by
  obtain ⟨hrequired, hbehind, hdepth, rfl⟩ := classifyConfirmations_terminal_iff.mp h
  exact ⟨hrequired, hbehind, hdepth, rfl, rfl, rfl⟩

theorem classifyReconciliation_terminal {first : ReceiptObservation}
    {transaction : TransactionObservation} {rechecked : Option ReceiptObservation}
    {headBlock required : Nat} {outcome : EvmTerminalOutcome}
    (h : classifyReconciliation first transaction rechecked headBlock required
      = .ok (.terminal outcome)) :
    ∃ facts, first = .mined facts ∧ rechecked = some (.mined facts) ∧
      classifyConfirmations facts headBlock required = .ok (.terminal outcome) := by
  unfold classifyReconciliation at h
  split at h
  · split at h <;> cases h
  · cases h
  · split at h
    · split at h
      · rename_i facts _ second heq
        subst heq
        exact ⟨facts, rfl, rfl, h⟩
      · cases h
    · cases h

end X402Facilitator
