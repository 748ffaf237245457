import X402Facilitator.Evm.Receipt

/-!
# What the quantity parsers accept

Ethereum's JSON-RPC writes quantities without leading zeros, and the parsers refuse other texts as
non-canonical. They leave the digits to `u128::from_str_radix`, which takes an optional plus sign: a
text such as `0x+1` gets past the test for a leading zero and is read as a number.

Apart from that sign, the parsers accept exactly the canonical texts, and the facts of a receipt or
of a transaction determine the text of each quantity that they were read from.
-/

namespace X402Facilitator

/-! ## Canonical quantities -/

/-- The value is a string of `0x` and hexadecimal digits without a leading zero, the digit 0 alone
excepted, and denotes this number, which fits 128 bits. -/
def DenotesQuantity (value : Json) (n : Nat) : Prop :=
  ∃ text digits, value = .string text ∧ text.toList = '0' :: 'x' :: digits ∧ Unpadded digits ∧
    hexNumber? digits = some n ∧ n < 2 ^ 128

/-- A string with a plus sign after its `0x`. -/
def PlusSigned (value : Json) : Prop :=
  ∃ text digits, value = .string text ∧ text.toList = '0' :: 'x' :: '+' :: digits

theorem hexDigit?_eq (c : Char) : hexDigit? c = hexDigitValue? c := by
  unfold hexDigit? hexDigitValue?
  have hdigit : ('0' ≤ c ∧ c ≤ '9') ↔ c.isDigit = true := by
    rw [Char.isDigit, Bool.and_eq_true, decide_eq_true_eq, decide_eq_true_eq]
    exact Iff.rfl
  simp only [hdigit]
  split
  · rfl
  split
  · rename_i hletter
    have hbound : 97 ≤ c.toNat := hletter.1
    refine congrArg some ?_
    change c.toNat - 97 + 10 = c.toNat - 87
    omega
  split
  · rename_i hletter
    have hbound : 65 ≤ c.toNat := hletter.1
    refine congrArg some ?_
    change c.toNat - 65 + 10 = c.toNat - 55
    omega
  · rfl

theorem hexValue?_concat (digits : List Char) (c : Char) (n : Nat) :
    hexValue? (digits ++ [c]) = some n ↔
      ∃ high, hexValue? digits = some high ∧ ∃ low, hexDigitValue? c = some low ∧
        high * 16 + low = n ∧ n < 2 ^ 128 := by
  simp only [hexValue?, List.foldl_append, List.foldl_cons, List.foldl_nil, Option.bind_eq_bind,
    Option.bind_eq_some_iff, hexDigit?_eq, Option.pure_def]
  refine exists_congr fun high => and_congr_right fun _ => exists_congr fun low =>
    and_congr_right fun _ => ?_
  split
  · rename_i hlt
    rw [Option.some.injEq]
    exact ⟨fun h => ⟨h, h ▸ hlt⟩, And.left⟩
  · rename_i hge
    exact ⟨nofun, fun h => absurd (h.1 ▸ h.2) hge⟩

/-- The bound is tested digit by digit; values only grow, so it is a bound on the number. -/
theorem hexValue?_eq_some_iff (digits : List Char) (n : Nat) :
    hexValue? digits = some n ↔ hexNumber? digits = some n ∧ n < 2 ^ 128 := by
  induction digits using List.reverseRecOn generalizing n with
  | nil =>
    refine ⟨fun h => ⟨h, ?_⟩, And.left⟩
    rw [← Option.some.inj h]
    decide
  | append_singleton digits c ih =>
    rw [hexValue?_concat]
    constructor
    · rintro ⟨high, hhigh, low, hlow, rfl, hlt⟩
      have hnumber := ((ih high).mp hhigh).1
      refine ⟨?_, hlt⟩
      unfold hexNumber? at hnumber ⊢
      rw [List.foldl_append, hnumber]
      simp [hlow]
    · rintro ⟨hnumber, hlt⟩
      obtain ⟨high, hhigh, low, hlow, rfl⟩ := hexNumber?_concat hnumber
      exact ⟨high, (ih high).mpr ⟨hhigh, by omega⟩, low, hlow, rfl, hlt⟩

theorem u128FromHex?_eq_some_iff {digits : List Char} (hsign : digits.head? ≠ some '+') (n : Nat) :
    u128FromHex? digits = some n ↔ digits ≠ [] ∧ hexNumber? digits = some n ∧ n < 2 ^ 128 := by
  rw [← hexValue?_eq_some_iff]
  unfold u128FromHex?
  split
  · simp
  · exact absurd rfl hsign
  · exact absurd rfl hsign
  · rename_i hne _ _
    exact ⟨fun h => ⟨hne, h⟩, And.right⟩

theorem parseQuantity_ok_iff {invalid : String → EvmRpcError} {overflow : EvmRpcError}
    {value : Json} {n : Nat} :
    parseQuantity invalid overflow value = .ok n ↔
      ∃ text digits, value = .string text ∧ text.toList = '0' :: 'x' :: digits ∧
        Unpadded digits ∧ u128FromHex? digits = some n := by
  constructor
  · intro h
    unfold parseQuantity at h
    split at h
    · cases h
    rename_i raw hraw
    split at h
    · rename_i digits hdigits
      obtain ⟨hcanonical, h⟩ := Except.of_ite_error h
      push Not at hcanonical
      split at h
      · cases h
      · rename_i m hm
        obtain rfl := Except.ok.inj h
        refine ⟨raw, digits, ?_, hdigits, hcanonical, hm⟩
        cases value <;> cases hraw
        rfl
    · cases h
  · rintro ⟨text, digits, rfl, hdigits, ⟨hne, hpadded⟩, hvalue⟩
    have hcanonical : ¬ (digits = [] ∨ (1 < digits.length ∧ digits.head? = some '0')) := by
      rintro (h | ⟨hlength, hzero⟩)
      · exact hne h
      · exact hpadded hlength hzero
    simp only [parseQuantity, Json.asStr?, hdigits, if_neg hcanonical, hvalue]

theorem parseQuantity_ok_iff_denotes {invalid : String → EvmRpcError} {overflow : EvmRpcError}
    {value : Json} {n : Nat} (hsign : ¬ PlusSigned value) :
    parseQuantity invalid overflow value = .ok n ↔ DenotesQuantity value n := by
  rw [parseQuantity_ok_iff]
  refine exists_congr fun text => exists_congr fun digits => and_congr_right fun hvalue =>
    and_congr_right fun htext => and_congr_right fun hunpadded => ?_
  have hhead : digits.head? ≠ some '+' := by
    intro hplus
    obtain ⟨rest, rfl⟩ := List.head?_eq_some_iff.mp hplus
    exact hsign ⟨text, rest, hvalue, htext⟩
  rw [u128FromHex?_eq_some_iff hhead]
  exact ⟨And.right, fun h => ⟨hunpadded.1, h⟩⟩

/-! ## Facts determine the texts -/

/-- Both members are absent blocks, or both are texts that agree up to the case of their letters. -/
def SameQuantity (left right : Option Json) : Prop :=
  (left = some .null ∧ right = some .null) ∨
    ∃ s t, left = some (.string s) ∧ right = some (.string t) ∧
      s.toList.map Char.toLower = t.toList.map Char.toLower

theorem DenotesQuantity.same {left right : Json} {n : Nat} (hleft : DenotesQuantity left n)
    (hright : DenotesQuantity right n) : SameQuantity (some left) (some right) := by
  obtain ⟨s, digits, rfl, hs, hunpadded, hnumber, -⟩ := hleft
  obtain ⟨t, digits', rfl, ht, hunpadded', hnumber', -⟩ := hright
  refine .inr ⟨s, t, rfl, rfl, ?_⟩
  rw [hs, ht, List.map_cons, List.map_cons, List.map_cons, List.map_cons,
    hunpadded.map_toLower_eq hunpadded' hnumber hnumber']

/-- The members that `parse_raw_receipt` reads as quantities. -/
def receiptQuantities : List String :=
  ["blockNumber", "status", "gasUsed", "effectiveGasPrice", "l1Fee"]

/-- The members that `parse_raw_transaction` reads as quantities. -/
def transactionQuantities : List String := ["chainId", "type", "value", "nonce", "blockNumber"]

/-- None of these members has a plus sign. -/
def Unsigned (keys : List String) (object : Json) : Prop :=
  ∀ key ∈ keys, ∀ value, object.get? key = some value → ¬ PlusSigned value

/-- Members that are read as the same number have the same text. -/
theorem same_of_parse {invalid : String → EvmRpcError} {overflow : EvmRpcError}
    {keys : List String} {object object' value value' : Json} {key : String} {n : Nat}
    (hunsigned : Unsigned keys object) (hunsigned' : Unsigned keys object') (hkey : key ∈ keys)
    (hvalue : object.get? key = some value) (hvalue' : object'.get? key = some value')
    (hn : parseQuantity invalid overflow value = .ok n)
    (hn' : parseQuantity invalid overflow value' = .ok n) :
    SameQuantity (object.get? key) (object'.get? key) := by
  have h := (parseQuantity_ok_iff_denotes (hunsigned key hkey value hvalue)).mp hn
  have h' := (parseQuantity_ok_iff_denotes (hunsigned' key hkey value' hvalue')).mp hn'
  rw [hvalue, hvalue']
  exact h.same h'

theorem HasQuantity.same {keys : List String} {object object' : Json} {key : String} {n : Nat}
    (hunsigned : Unsigned keys object) (hunsigned' : Unsigned keys object') (hkey : key ∈ keys)
    (hn : HasQuantity object key n) (hn' : HasQuantity object' key n) :
    SameQuantity (object.get? key) (object'.get? key) := by
  obtain ⟨value, hvalue, hn⟩ := hn
  obtain ⟨value', hvalue', hn'⟩ := hn'
  exact same_of_parse hunsigned hunsigned' hkey hvalue hvalue' hn hn'

/-- The gas price is not among the facts: it is determined by the execution fee of some gas. -/
theorem DescribesReceipt.same [EvmPrimitives] {object object' : Json} {hash hash' : Hash32} {facts : ReceiptFacts}
    (h : DescribesReceipt object hash facts) (h' : DescribesReceipt object' hash' facts)
    (hunsigned : Unsigned receiptQuantities object)
    (hunsigned' : Unsigned receiptQuantities object') {key : String}
    (hkey : key ∈ receiptQuantities)
    (hgas : key = "effectiveGasPrice" → facts.gasUsed ≠ 0) :
    SameQuantity (object.get? key) (object'.get? key) := by
  have hread := hkey
  simp only [receiptQuantities, List.mem_cons, List.not_mem_nil, or_false] at hkey
  obtain rfl | rfl | rfl | rfl | rfl := hkey
  · exact h.blockNumber.same hunsigned hunsigned' hread h'.blockNumber
  · exact h.status.same hunsigned hunsigned' hread h'.status
  · exact h.gasUsed.same hunsigned hunsigned' hread h'.gasUsed
  · obtain ⟨price, hprice, hfee, -⟩ := h.fee
    obtain ⟨price', hprice', hfee', -⟩ := h'.fee
    have hpositive : 0 < facts.gasUsed := Nat.pos_of_ne_zero (hgas rfl)
    obtain rfl : price = price' := Nat.eq_of_mul_eq_mul_left hpositive (hfee.symm.trans hfee')
    exact hprice.same hunsigned hunsigned' hread hprice'
  · exact h.l1Fee.same hunsigned hunsigned' hread h'.l1Fee

/-- The member is a quantity of the transaction with this value. -/
def HasTransactionQuantity (object : Json) (key : String) (n : Nat) : Prop :=
  ∃ value, object.get? key = some value ∧ parseTransactionQuantity value = .ok n

theorem HasTransactionQuantity.same {keys : List String} {object object' : Json} {key : String}
    {n : Nat} (hunsigned : Unsigned keys object) (hunsigned' : Unsigned keys object')
    (hkey : key ∈ keys) (hn : HasTransactionQuantity object key n)
    (hn' : HasTransactionQuantity object' key n) :
    SameQuantity (object.get? key) (object'.get? key) := by
  obtain ⟨value, hvalue, hn⟩ := hn
  obtain ⟨value', hvalue', hn'⟩ := hn'
  exact same_of_parse hunsigned hunsigned' hkey hvalue hvalue' hn hn'

/-- The quantities of a transaction that was read as this observation. -/
structure DescribesTransaction (object : Json) (chainId : Nat)
    (observation : TransactionObservation) : Prop where
  chainId : HasTransactionQuantity object "chainId" chainId
  type : HasTransactionQuantity object "type" 2
  value : HasTransactionQuantity object "value" 0
  identity :
    (∃ nonce, observation = .pending nonce ∧ HasTransactionQuantity object "nonce" nonce ∧
      object.get? "blockNumber" = some .null) ∨
    ∃ nonce block hash, observation = .mined nonce block hash ∧
      HasTransactionQuantity object "nonce" nonce ∧ HasTransactionQuantity object "blockNumber" block

theorem hasTransactionQuantity_of_bind {error : EvmRpcError} {object : Json} {key : String} {n : Nat}
    (h : (orError error (object.get? key) >>= parseTransactionQuantity) = .ok n) :
    HasTransactionQuantity object key n := by
  obtain ⟨value, hvalue, hn⟩ := Except.exists_of_bind h
  exact ⟨value, orError_ok hvalue, hn⟩

theorem parseRawTransaction_describes [EvmPrimitives] {hash : Hash32} {chainId : Nat} {signer token : Address}
    {object : Json} {observation : TransactionObservation}
    (h : parseRawTransaction hash chainId signer token (some object) = .ok observation) :
    DescribesTransaction object chainId observation := by
  simp only [parseRawTransaction] at h
  obtain ⟨-, h⟩ := Except.of_ite_error h
  obtain ⟨txHash, -, h⟩ := Except.exists_of_bind h
  obtain ⟨-, h⟩ := Except.of_ite_error h
  obtain ⟨chain, hchain, h⟩ := Except.exists_of_bind h
  obtain ⟨chain64, hchain64, h⟩ := Except.exists_of_bind h
  obtain ⟨hchainId, h⟩ := Except.of_ite_error h
  obtain ⟨kind, hkind, h⟩ := Except.exists_of_bind h
  obtain ⟨htype, h⟩ := Except.of_ite_error h
  obtain ⟨sender, -, h⟩ := Except.exists_of_bind h
  obtain ⟨-, h⟩ := Except.of_ite_error h
  obtain ⟨target, -, h⟩ := Except.exists_of_bind h
  obtain ⟨-, h⟩ := Except.of_ite_error h
  obtain ⟨native, hnative, h⟩ := Except.exists_of_bind h
  obtain ⟨hvalue, h⟩ := Except.of_ite_error h
  obtain ⟨input, -, h⟩ := Except.exists_of_bind h
  obtain ⟨-, h⟩ := Except.of_ite_error h
  obtain ⟨nonce, hnonce, h⟩ := Except.exists_of_bind h
  obtain ⟨nonce64, hnonce64, h⟩ := Except.exists_of_bind h
  obtain ⟨blockNumber, hblockNumber, h⟩ := Except.exists_of_bind h
  obtain ⟨blockHash, hblockHash, h⟩ := Except.exists_of_bind h
  have hchain := hasTransactionQuantity_of_bind hchain
  rw [← (toU64_ok hchain64).1, not_not.mp hchainId] at hchain
  have hkind := hasTransactionQuantity_of_bind hkind
  rw [not_not.mp htype] at hkind
  have hnative := hasTransactionQuantity_of_bind hnative
  rw [not_not.mp hvalue] at hnative
  have hnonce := hasTransactionQuantity_of_bind hnonce
  rw [← (toU64_ok hnonce64).1] at hnonce
  have hblockNumber := orError_ok hblockNumber
  refine ⟨hchain, hkind, hnative, ?_⟩
  cases hnumber : blockNumber.isNull <;> cases hhash : blockHash.isNull <;>
    simp only [hnumber, hhash] at h
  case true.true =>
    have hnull : blockNumber = .null := by
      cases blockNumber <;> first | rfl | cases hnumber
    exact .inl ⟨nonce64, (Except.ok.inj h).symm, hnonce, hnull ▸ hblockNumber⟩
  case false.false =>
    obtain ⟨number, hnumber, h⟩ := Except.exists_of_bind h
    obtain ⟨number64, hnumber64, h⟩ := Except.exists_of_bind h
    obtain ⟨hash, -, h⟩ := Except.exists_of_bind h
    rw [← (toU64_ok hnumber64).1] at hnumber
    exact .inr ⟨nonce64, number64, hash, (Except.ok.inj h).symm, hnonce, blockNumber, hblockNumber,
      hnumber⟩
  all_goals cases h

theorem DescribesTransaction.same {object object' : Json} {chainId : Nat}
    {observation : TransactionObservation} (h : DescribesTransaction object chainId observation)
    (h' : DescribesTransaction object' chainId observation)
    (hunsigned : Unsigned transactionQuantities object)
    (hunsigned' : Unsigned transactionQuantities object') {key : String}
    (hkey : key ∈ transactionQuantities) :
    SameQuantity (object.get? key) (object'.get? key) := by
  have hread := hkey
  simp only [transactionQuantities, List.mem_cons, List.not_mem_nil, or_false] at hkey
  obtain rfl | rfl | rfl | rfl | rfl := hkey
  · exact h.chainId.same hunsigned hunsigned' hread h'.chainId
  · exact h.type.same hunsigned hunsigned' hread h'.type
  · exact h.value.same hunsigned hunsigned' hread h'.value
  · obtain ⟨nonce, rfl, hnonce, -⟩ | ⟨nonce, block, hash, rfl, hnonce, -⟩ := h.identity
    · obtain ⟨nonce', heq, hnonce', -⟩ | ⟨nonce', block', hash', heq, -⟩ := h'.identity
      · cases heq
        exact hnonce.same hunsigned hunsigned' hread hnonce'
      · cases heq
    · obtain ⟨nonce', heq, -⟩ | ⟨nonce', block', hash', heq, hnonce', -⟩ := h'.identity
      · cases heq
      · cases heq
        exact hnonce.same hunsigned hunsigned' hread hnonce'
  · obtain ⟨nonce, rfl, -, hnull⟩ | ⟨nonce, block, hash, rfl, -, hblock⟩ := h.identity
    · obtain ⟨nonce', heq, -, hnull'⟩ | ⟨nonce', block', hash', heq, -⟩ := h'.identity
      · exact .inl ⟨hnull, hnull'⟩
      · cases heq
    · obtain ⟨nonce', heq, -⟩ | ⟨nonce', block', hash', heq, -, hblock'⟩ := h'.identity
      · cases heq
      · cases heq
        exact hblock.same hunsigned hunsigned' hread hblock'

/-- A receipt of a transfer, with these texts for three of its quantities. -/
def Sample.receiptTexts [EvmPrimitives] (hash : Hash32) (status gasUsed gasPrice : String) : Json :=
  .object [("transactionHash", .string (b256Text hash)), ("blockNumber", .string "0x10"),
    ("blockHash", .string (b256Text hash)), ("status", .string status),
    ("gasUsed", .string gasUsed), ("effectiveGasPrice", .string gasPrice),
    ("l1Fee", .string "0x0")]

theorem Sample.receiptTexts_mined [EvmPrimitives] {hash : Hash32} {status gasUsed gasPrice : String}
    (success : Bool) (gas price : Nat)
    (hstatus : parseHexQuantity (.string status) = .ok (if success then 1 else 0))
    (hgas : parseHexQuantity (.string gasUsed) = .ok gas)
    (hprice : parseHexQuantity (.string gasPrice) = .ok price) (hgas64 : gas < 2 ^ 64)
    (hfee : gas * price < 2 ^ 128) :
    parseRawReceipt hash (some (receiptTexts hash status gasUsed gasPrice)) =
      .ok (.mined ⟨16, some hash, success, hash, gas, gas * price, gas * price, 0⟩) := by
  refine parseRawReceipt_of_describes ⟨rfl, ?_, ⟨_, rfl, rfl⟩, ⟨hash, ?_, rfl⟩, ⟨_, rfl, hstatus⟩,
    ⟨_, rfl, hgas⟩, ⟨_, rfl, rfl⟩, ⟨price, ⟨_, rfl, hprice⟩, rfl, rfl⟩, rfl, ?_, hgas64, hfee⟩
  · exact congrArg (orError _) (parseB256_b256Text hash)
  · exact congrArg (orError _) (parseB256_b256Text hash)
  · change 16 < 2 ^ 64
    decide

end X402Facilitator
