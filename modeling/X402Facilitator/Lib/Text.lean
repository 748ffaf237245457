import Mathlib.Data.List.Induction
import Mathlib.Data.List.Sort
import Mathlib.Data.List.TakeWhile
import Mathlib.Data.String.Basic
import Mathlib.Tactic.IntervalCases
import Mathlib.Tactic.Ring

/-!
# Text and JSON values

ASCII case folding, decimal and hexadecimal numerals, and the JSON values that a program keeps, reads
and writes. Objects are association lists; a lookup sees the last entry of a key, as a parser that
lets later members overwrite earlier ones leaves it. A map keeps its members sorted and one to a key,
so values that maps build and parsers return are equal as JSON values exactly when they are equal.
-/

/-- A fallible computation that ends with a value has passed its first step. -/
theorem Except.exists_of_bind {ε α β : Type} {x : Except ε α} {f : α → Except ε β} {b : β}
    (h : (x >>= f) = .ok b) : ∃ a, x = .ok a ∧ f a = .ok b := by
  cases x with
  | error e => cases h
  | ok a => exact ⟨a, rfl, h⟩

/-- A check that ends with a value was not refused. -/
theorem Except.ok_bind {ε α β : Type} (a : α) (f : α → Except ε β) : (Except.ok a >>= f) = f a := rfl

theorem Except.of_ite_error {ε α : Type} {c : Prop} [Decidable c] {e : ε} {x : Except ε α} {a : α}
    (h : (if c then .error e else x) = .ok a) : ¬ c ∧ x = .ok a := by
  split at h
  · cases h
  · exact ⟨‹_›, h⟩

/-- ASCII case folding: letters `A`–`Z` are lowered, every other character stays. -/
def asciiLower (s : String) : String :=
  String.ofList (s.toList.map Char.toLower)

/-- Equality up to ASCII case. -/
def eqIgnoreAsciiCase (s t : String) : Prop :=
  asciiLower s = asciiLower t

instance (s t : String) : Decidable (eqIgnoreAsciiCase s t) :=
  inferInstanceAs (Decidable (asciiLower s = asciiLower t))

def String.beginsWith (s start : String) : Bool := start.toList.isPrefixOf s.toList

/-- The value of decimal digits, most significant first. -/
def decimalValue? (digits : List Char) : Option Nat :=
  digits.foldl (fun value c => do
    let value ← value
    if c.isDigit then return value * 10 + (c.toNat - '0'.toNat) else none) (some 0)

/-- A decimal number of at most `bits` bits, with or without a leading plus sign. -/
def parseUnsigned? (bits : Nat) (s : String) : Option Nat :=
  let digits := match s.toList with
    | '+' :: rest => rest
    | all => all
  if digits = [] then none else (decimalValue? digits).filter (· < 2 ^ bits)

/-- Decimal digits are read as the number they were written from. -/
theorem decimalValue?_toDigits (n : Nat) : decimalValue? (Nat.toDigits 10 n) = some n := by
  induction n using Nat.strongRecOn with
  | ind n ih =>
    by_cases h : n < 10
    · rw [Nat.toDigits_of_lt_base h]
      interval_cases n <;> rfl
    · have hdigit : (n % 10).digitChar.isDigit = true ∧
          (n % 10).digitChar.toNat - '0'.toNat = n % 10 := by
        have : n % 10 < 10 := Nat.mod_lt n (by decide)
        generalize n % 10 = d at this
        interval_cases d <;> decide
      have hvalue := ih (n / 10) (by omega)
      unfold decimalValue? at hvalue ⊢
      rw [Nat.toDigits_of_base_le (by decide) (by omega), List.foldl_append, hvalue]
      simp only [List.foldl_cons, List.foldl_nil, hdigit, Option.pure_def, Option.bind_eq_bind,
        Option.bind_some, if_true, Option.some.injEq]
      omega

/-- A number is read back from its decimal text if it has no more bits than asked for. -/
theorem parseUnsigned?_toString_eq (bits n : Nat) :
    parseUnsigned? bits (toString n) = (some n).filter (· < 2 ^ bits) := by
  have hlist : (toString n).toList = Nat.toDigits 10 n := by simp
  have hvalue := decimalValue?_toDigits n
  have hnil : Nat.toDigits 10 n ≠ [] := Nat.toDigits_ne_nil
  have hdigits : ∀ c ∈ Nat.toDigits 10 n, c.isDigit = true := fun c =>
    Nat.isDigit_of_mem_toDigits (by decide) (by decide)
  unfold parseUnsigned?
  rw [hlist]
  generalize Nat.toDigits 10 n = digits at hvalue hnil hdigits
  split
  -- No digit is a plus sign.
  · cases hdigits '+' List.mem_cons_self
  · simp [hnil, hvalue]

theorem parseUnsigned?_toString {bits n : Nat} (h : n < 2 ^ bits) :
    parseUnsigned? bits (toString n) = some n := by
  rw [parseUnsigned?_toString_eq, Option.filter_some, if_pos (by simpa using h)]

/-! ### Comparing numerals as texts -/

/-- One more digit at the end of a numeral. -/
def pushDigit (value : Option Nat) (c : Char) : Option Nat :=
  value.bind fun value => if c.isDigit then some (value * 10 + (c.toNat - '0'.toNat)) else none

theorem foldl_pushDigit_none (digits : List Char) : digits.foldl pushDigit none = none := by
  induction digits with
  | nil => rfl
  | cons c digits ih => exact ih

theorem foldl_pushDigit (value : Nat) (digits : List Char) :
    digits.foldl pushDigit (some value) =
      (decimalValue? digits).map (value * 10 ^ digits.length + ·) := by
  have hzero (digits : List Char) : decimalValue? digits = digits.foldl pushDigit (some 0) := rfl
  induction digits generalizing value with
  | nil => simp [hzero]
  | cons c digits ih =>
    rw [hzero, List.foldl_cons, List.foldl_cons, List.length_cons]
    by_cases hdigit : c.isDigit = true
    · rw [pushDigit, Option.bind_some, if_pos hdigit, ih, pushDigit, Option.bind_some, if_pos hdigit,
        ih]
      cases decimalValue? digits with
      | none => rfl
      | some n =>
        simp only [Option.map_some, Option.some.injEq, pow_succ]
        ring
    · rw [pushDigit, Option.bind_some, if_neg hdigit, foldl_pushDigit_none, pushDigit,
        Option.bind_some, if_neg hdigit, foldl_pushDigit_none]
      rfl

/-- The first digit of a numeral. -/
theorem decimalValue?_cons {c : Char} {digits : List Char} {n : Nat}
    (h : decimalValue? (c :: digits) = some n) :
    (48 ≤ c.toNat ∧ c.toNat ≤ 57) ∧ ∃ rest, decimalValue? digits = some rest ∧
      n = (c.toNat - 48) * 10 ^ digits.length + rest := by
  have hpush : decimalValue? (c :: digits) = digits.foldl pushDigit (pushDigit (some 0) c) := rfl
  rw [hpush] at h
  by_cases hdigit : c.isDigit = true
  · rw [pushDigit, Option.bind_some, if_pos hdigit, foldl_pushDigit] at h
    obtain ⟨rest, hrest, rfl⟩ := Option.map_eq_some_iff.mp h
    have hbounds := Bool.and_eq_true_iff.mp hdigit
    exact ⟨⟨of_decide_eq_true hbounds.1, of_decide_eq_true hbounds.2⟩, rest, hrest,
      by rw [Nat.zero_mul, Nat.zero_add]; rfl⟩
  · rw [pushDigit, Option.bind_some, if_neg hdigit, foldl_pushDigit_none] at h
    cases h

theorem decimalValue?_lt {digits : List Char} {n : Nat} (h : decimalValue? digits = some n) :
    n < 10 ^ digits.length := by
  induction digits generalizing n with
  | nil =>
    obtain rfl := Option.some.inj h
    decide
  | cons c digits ih =>
    obtain ⟨hdigit, rest, hrest, rfl⟩ := decimalValue?_cons h
    have hlt := ih hrest
    rw [List.length_cons, pow_succ]
    calc (c.toNat - 48) * 10 ^ digits.length + rest
      _ < (c.toNat - 48) * 10 ^ digits.length + 10 ^ digits.length := by omega
      _ = (c.toNat - 48 + 1) * 10 ^ digits.length := by ring
      _ ≤ 10 * 10 ^ digits.length := Nat.mul_le_mul_right _ (by omega)
      _ = 10 ^ digits.length * 10 := Nat.mul_comm _ _

/-- Numerals of one length compare as their texts. -/
theorem decimal_lt_iff {left right : List Char} {m n : Nat} (hm : decimalValue? left = some m)
    (hn : decimalValue? right = some n) (hlength : left.length = right.length) :
    left < right ↔ m < n := by
  induction left generalizing right m n with
  | nil =>
    obtain rfl := List.length_eq_zero_iff.mp hlength.symm
    rw [Option.some.inj (hm.symm.trans hn)]
    simp
  | cons c left ih =>
    obtain ⟨d, right, rfl⟩ := List.exists_cons_of_length_eq_add_one hlength.symm
    obtain ⟨hc, m', hm', rfl⟩ := decimalValue?_cons hm
    obtain ⟨hd, n', hn', rfl⟩ := decimalValue?_cons hn
    have hlength : left.length = right.length := Nat.succ.inj hlength
    have hltm := decimalValue?_lt hm'
    have hltn := decimalValue?_lt hn'
    rw [hlength] at hltm ⊢
    rw [List.cons_lt_cons_iff, ih hm' hn' hlength]
    have hdigit : c < d ↔ c.toNat - 48 < d.toNat - 48 := by
      rw [show c < d ↔ c.toNat < d.toNat from Iff.rfl]
      omega
    have heq : c = d ↔ c.toNat - 48 = d.toNat - 48 := by
      rw [← Char.toNat_inj]
      omega
    rw [hdigit, heq]
    generalize c.toNat - 48 = x, d.toNat - 48 = y, 10 ^ right.length = p at *
    -- The leading digit decides unless it is the same.
    obtain hlt | rfl | hgt := lt_trichotomy x y
    · have hmul : (x + 1) * p ≤ y * p := Nat.mul_le_mul_right p hlt
      rw [Nat.add_mul, Nat.one_mul] at hmul
      omega
    · omega
    · have hmul : (y + 1) * p ≤ x * p := Nat.mul_le_mul_right p hgt
      rw [Nat.add_mul, Nat.one_mul] at hmul
      omega

/-- The digits of a numeral without its leading zeros. -/
def trimZeros (text : String) : List Char :=
  match text.toList.dropWhile (· = '0') with
  | [] => ['0']
  | digits => digits

theorem decimalValue?_dropWhile {digits : List Char} {n : Nat} (h : decimalValue? digits = some n) :
    decimalValue? (digits.dropWhile (· = '0')) = some n := by
  induction digits generalizing n with
  | nil => exact h
  | cons c digits ih =>
    by_cases hzero : c = '0'
    · rw [List.dropWhile_cons_of_pos (by simpa using hzero)]
      obtain ⟨-, rest, hrest, rfl⟩ := decimalValue?_cons h
      have hdigit : c.toNat - 48 = 0 := by rw [hzero]; rfl
      rw [hdigit, Nat.zero_mul, Nat.zero_add]
      exact ih hrest
    · rwa [List.dropWhile_cons_of_neg (by simpa using hzero)]

/-- A trimmed numeral has its value, and no leading zero unless it is zero. -/
theorem trimZeros_spec {text : String} {n : Nat} (h : decimalValue? text.toList = some n) :
    decimalValue? (trimZeros text) = some n ∧ 0 < (trimZeros text).length ∧
      (trimZeros text = ['0'] ∨ 10 ^ ((trimZeros text).length - 1) ≤ n) := by
  have hvalue := decimalValue?_dropWhile h
  unfold trimZeros
  split
  · rename_i hnil
    rw [hnil] at hvalue
    obtain rfl := Option.some.inj hvalue
    exact ⟨rfl, by decide, .inl rfl⟩
  · rename_i hdigits
    obtain ⟨c, tail, htail⟩ := List.exists_cons_of_ne_nil hdigits
    have hc : c ≠ '0' := by
      have hhead := List.head_dropWhile_not (· = '0') hdigits
      simpa [htail] using hhead
    rw [htail] at hvalue ⊢
    obtain ⟨hdigit, rest, -, hn⟩ := decimalValue?_cons hvalue
    refine ⟨hvalue, Nat.succ_pos _, .inr ?_⟩
    have hpos : 1 ≤ c.toNat - 48 := by
      have hne : c.toNat ≠ '0'.toNat := fun h => hc (Char.toNat_inj.mp h)
      have h48 : '0'.toNat = 48 := rfl
      omega
    calc 10 ^ tail.length
      _ = 1 * 10 ^ tail.length := (Nat.one_mul _).symm
      _ ≤ (c.toNat - 48) * 10 ^ tail.length := Nat.mul_le_mul_right _ hpos
      _ ≤ n := hn ▸ Nat.le_add_right _ _

theorem lt_of_length_lt {left right : String} {m n : Nat}
    (hm : decimalValue? left.toList = some m) (hn : decimalValue? right.toList = some n)
    (h : (trimZeros left).length < (trimZeros right).length) : m < n := by
  obtain ⟨hvalue, hpos, -⟩ := trimZeros_spec hm
  obtain ⟨-, -, hzero | hlarge⟩ := trimZeros_spec hn
  · rw [hzero, List.length_singleton] at h
    omega
  · calc m
      _ < 10 ^ (trimZeros left).length := decimalValue?_lt hvalue
      _ ≤ 10 ^ ((trimZeros right).length - 1) := Nat.pow_le_pow_right (by decide) (by omega)
      _ ≤ n := hlarge

/-- Numerals compare as their trimmed texts: a longer one is greater, and those of one length compare
digit by digit. -/
theorem decimal_lt_iff_trimmed {left right : String} {m n : Nat}
    (hm : decimalValue? left.toList = some m) (hn : decimalValue? right.toList = some n) :
    m < n ↔ (trimZeros left).length < (trimZeros right).length ∨
      ((trimZeros left).length = (trimZeros right).length ∧ trimZeros left < trimZeros right) := by
  obtain hlt | heq | hgt := lt_trichotomy (trimZeros left).length (trimZeros right).length
  · exact ⟨fun _ => .inl hlt, fun _ => lt_of_length_lt hm hn hlt⟩
  · rw [← decimal_lt_iff (trimZeros_spec hm).1 (trimZeros_spec hn).1 heq]
    simp [heq]
  · have hgt' := lt_of_length_lt hn hm hgt
    omega

/-- A non-empty text of ASCII digits. -/
def IsNumeral (text : String) : Prop := text ≠ "" ∧ ∀ c ∈ text.toList, c.isDigit = true

instance (text : String) : Decidable (IsNumeral text) :=
  decidable_of_iff (text ≠ "" ∧ text.toList.all Char.isDigit = true) (by simp [IsNumeral])

/-- The number that a numeral denotes. -/
def numeralValue (text : String) : Nat :=
  text.toList.foldl (fun value c => value * 10 + (c.toNat - '0'.toNat)) 0

theorem decimalValue?_of_digits {digits : List Char} (h : ∀ c ∈ digits, c.isDigit = true) :
    decimalValue? digits =
      some (digits.foldl (fun value c => value * 10 + (c.toNat - '0'.toNat)) 0) := by
  induction digits using List.reverseRecOn with
  | nil => rfl
  | append_singleton digits c ih =>
    have hvalue := ih fun d hd => h d (List.mem_append_left _ hd)
    have hc : c.isDigit = true := h c (by simp)
    unfold decimalValue? at hvalue ⊢
    rw [List.foldl_append, List.foldl_append, hvalue]
    simp [hc]

theorem IsNumeral.decimalValue? {text : String} (h : IsNumeral text) :
    decimalValue? text.toList = some (numeralValue text) :=
  decimalValue?_of_digits h.2

theorem isNumeral_toString (n : Nat) : IsNumeral (toString n) ∧ numeralValue (toString n) = n := by
  have htext : (toString n).toList = Nat.toDigits 10 n := by simp
  have hdigits : ∀ c ∈ (toString n).toList, c.isDigit = true := by
    intro c hc
    rw [htext] at hc
    exact Nat.isDigit_of_mem_toDigits (by decide) (by decide) hc
  have hvalue := decimalValue?_toDigits n
  rw [← htext, decimalValue?_of_digits hdigits] at hvalue
  refine ⟨⟨fun hempty => ?_, hdigits⟩, Option.some.inj hvalue⟩
  have hnil : Nat.toDigits 10 n = [] := by rw [← htext, hempty]; rfl
  exact Nat.toDigits_ne_nil hnil

theorem trimZeros_eq_of_value {left right : String} {n : Nat}
    (hleft : decimalValue? left.toList = some n) (hright : decimalValue? right.toList = some n) :
    trimZeros left = trimZeros right := by
  have hlt := mt (decimal_lt_iff_trimmed hleft hright).mpr (lt_irrefl n)
  have hgt := mt (decimal_lt_iff_trimmed hright hleft).mpr (lt_irrefl n)
  have hlength : (trimZeros left).length = (trimZeros right).length := by omega
  simp only [hlength, lt_irrefl, true_and, false_or, not_lt] at hlt hgt
  exact le_antisymm hgt hlt

/-- A numeral without leading zeros is what trimming leaves of it. -/
theorem trimZeros_eq_self {text : String} (hne : text ≠ "")
    (h : text.toList.head? = some '0' → text = "0") : trimZeros text = text.toList := by
  unfold trimZeros
  cases htext : text.toList with
  | nil => exact absurd (String.toList_eq_nil_iff.mp htext) hne
  | cons c rest =>
    by_cases hzero : c = '0'
    · have heq := h (by rw [htext, hzero]; rfl)
      rw [heq] at htext
      rw [← htext]
      rfl
    · rw [List.dropWhile_cons_of_neg (by simpa using hzero)]

theorem head?_toDigits {n : Nat} (h : (Nat.toDigits 10 n).head? = some '0') : n = 0 := by
  induction n using Nat.strongRecOn with
  | ind n ih =>
    by_cases hn : n < 10
    · rw [Nat.toDigits_of_lt_base hn] at h
      interval_cases n <;> first | rfl | exact absurd h (by decide)
    · have hhead : (Nat.toDigits 10 n).head? = (Nat.toDigits 10 (n / 10)).head? := by
        rw [Nat.toDigits_of_base_le (by decide) (by omega)]
        exact List.head?_append_of_ne_nil _ Nat.toDigits_ne_nil
      have hzero := ih (n / 10) (by omega) (hhead ▸ h)
      omega

/-- The decimal text of a number is its only numeral without leading zeros. -/
theorem eq_toString_of_decimalValue? {text : String} {n : Nat} (hne : text ≠ "")
    (hpad : text.toList.head? = some '0' → text = "0")
    (h : decimalValue? text.toList = some n) : text = toString n := by
  have htext : (toString n).toList = Nat.toDigits 10 n := by simp
  have hvalue : decimalValue? (toString n).toList = some n := htext ▸ decimalValue?_toDigits n
  apply String.toList_inj.mp
  rw [← trimZeros_eq_self hne hpad, trimZeros_eq_of_value h hvalue]
  refine trimZeros_eq_self (isNumeral_toString n).1.1 fun hhead => ?_
  have hzero : n = 0 := head?_toDigits (htext ▸ hhead)
  rw [hzero]
  rfl

/-! ## Hexadecimal numerals -/

def hexDigit (n : Nat) : Char := if n < 10 then Char.ofNat (48 + n) else Char.ofNat (87 + n)

def hexDigitValue? (c : Char) : Option Nat :=
  if c.isDigit then some (c.toNat - 48)
  else if 'a' ≤ c ∧ c ≤ 'f' then some (c.toNat - 87)
  else if 'A' ≤ c ∧ c ≤ 'F' then some (c.toNat - 55)
  else none

theorem hexDigitValue?_hexDigit {n : Nat} (h : n < 16) : hexDigitValue? (hexDigit n) = some n := by
  interval_cases n <;> decide

/-- The last `width` hexadecimal digits of a number, most significant first. -/
def hexDigits : (width n : Nat) → List Char
  | 0, _ => []
  | width + 1, n => hexDigits width (n / 16) ++ [hexDigit (n % 16)]

theorem length_hexDigits (width n : Nat) : (hexDigits width n).length = width := by
  induction width generalizing n with
  | zero => rfl
  | succ width ih => simp [hexDigits, ih]

theorem map_toLower_hexDigits (width n : Nat) :
    (hexDigits width n).map Char.toLower = hexDigits width n := by
  have hdigit : ∀ d < 16, (hexDigit d).toLower = hexDigit d := by decide
  induction width generalizing n with
  | zero => rfl
  | succ width ih =>
    rw [hexDigits, List.map_append, ih, List.map_singleton, hdigit _ (Nat.mod_lt n (by decide))]

/-- The value of hexadecimal digits, most significant first. -/
def hexNumber? (digits : List Char) : Option Nat :=
  digits.foldl (fun value c => do return (← value) * 16 + (← hexDigitValue? c)) (some 0)

theorem hexNumber?_hexDigits (width n : Nat) : hexNumber? (hexDigits width n) = some (n % 16 ^ width) := by
  induction width generalizing n with
  | zero => simp [hexDigits, hexNumber?, Nat.mod_one]
  | succ width ih =>
    have hdigit := hexDigitValue?_hexDigit (Nat.mod_lt n (by decide : 0 < 16))
    have hvalue := ih (n / 16)
    unfold hexNumber? at hvalue ⊢
    rw [hexDigits, List.foldl_append, hvalue]
    simp only [List.foldl_cons, List.foldl_nil, hdigit, Option.pure_def, Option.bind_eq_bind,
      Option.bind_some, Option.some.injEq]
    rw [pow_succ, Nat.mul_comm (16 ^ width), Nat.mod_mul]
    omega

theorem toLower_of_hexDigitValue? {c : Char} {n : Nat} (h : hexDigitValue? c = some n) :
    n < 16 ∧ c.toLower = hexDigit n := by
  have hsmall : c.toNat < 128 := by
    by_contra hlarge
    have hnot : hexDigitValue? c = none := by
      have hle {d : Char} (hd : d.toNat < 128) : ¬ c ≤ d := fun hcd => by
        have : c.toNat ≤ d.toNat := hcd
        omega
      have hdigit : c.isDigit = false := by
        rw [Char.isDigit, Bool.and_eq_false_iff]
        exact .inr (decide_eq_false (hle (by decide)))
      rw [hexDigitValue?, if_neg (by rw [hdigit]; decide), if_neg fun h => hle (by decide) h.2,
        if_neg fun h => hle (by decide) h.2]
    rw [hnot] at h
    cases h
  have hc : c = Char.ofNat c.toNat := (Char.ofNat_toNat c).symm
  generalize c.toNat = m at hsmall hc
  subst hc
  revert h
  interval_cases m <;> rintro ⟨⟩ <;> decide

theorem eq_of_hexDigitValue?_zero {c : Char} (h : hexDigitValue? c = some 0) : c = '0' := by
  unfold hexDigitValue? at h
  split at h
  · rename_i hdigit
    have hbounds : 48 ≤ c.toNat ∧ c.toNat ≤ 57 := by
      simpa [Char.isDigit, UInt32.le_iff_toNat_le] using hdigit
    have hzero := Option.some.inj h
    exact Char.toNat_inj.mp (by change c.toNat = 48; omega)
  split at h
  · rename_i hletter
    have hbound : 97 ≤ c.toNat := hletter.1
    have hzero := Option.some.inj h
    omega
  split at h
  · rename_i hletter
    have hbound : 65 ≤ c.toNat := hletter.1
    have hzero := Option.some.inj h
    omega
  · cases h

theorem hexNumber?_concat {digits : List Char} {c : Char} {n : Nat}
    (h : hexNumber? (digits ++ [c]) = some n) :
    ∃ high, hexNumber? digits = some high ∧ ∃ low, hexDigitValue? c = some low ∧
      high * 16 + low = n := by
  simpa [hexNumber?, List.foldl_append, Option.bind_eq_some_iff] using h

/-- Hexadecimal digits are, up to their case, those of the number they are read as. -/
theorem map_toLower_of_hexNumber? {digits : List Char} {n : Nat} (h : hexNumber? digits = some n) :
    digits.map Char.toLower = hexDigits digits.length n := by
  induction digits using List.reverseRecOn generalizing n with
  | nil => rfl
  | append_singleton digits c ih =>
    obtain ⟨high, hhigh, low, hlow, rfl⟩ := hexNumber?_concat h
    obtain ⟨hlt, hlower⟩ := toLower_of_hexDigitValue? hlow
    have hdiv : (high * 16 + low) / 16 = high := by omega
    have hmod : (high * 16 + low) % 16 = low := by omega
    rw [List.map_append, ih hhigh, List.length_append, List.length_singleton, hexDigits, hdiv, hmod,
      List.map_singleton, hlower]

theorem lt_of_hexNumber? {digits : List Char} {n : Nat} (h : hexNumber? digits = some n) :
    n < 16 ^ digits.length := by
  induction digits using List.reverseRecOn generalizing n with
  | nil =>
    obtain rfl := Option.some.inj h
    decide
  | append_singleton digits c ih =>
    obtain ⟨high, hhigh, low, hlow, rfl⟩ := hexNumber?_concat h
    have hlt := ih hhigh
    have hlow := (toLower_of_hexDigitValue? hlow).1
    rw [List.length_append, List.length_singleton, pow_succ]
    omega

theorem hexDigits_inj {width n m : Nat} (hn : n < 16 ^ width) (hm : m < 16 ^ width)
    (h : hexDigits width n = hexDigits width m) : n = m := by
  have hvalue := congrArg hexNumber? h
  rw [hexNumber?_hexDigits, hexNumber?_hexDigits, Nat.mod_eq_of_lt hn, Nat.mod_eq_of_lt hm] at hvalue
  exact Option.some.inj hvalue

theorem pow_le_of_hexNumber? {c : Char} {digits : List Char} {n : Nat} (hc : c ≠ '0')
    (h : hexNumber? (c :: digits) = some n) : 16 ^ digits.length ≤ n := by
  induction digits using List.reverseRecOn generalizing n with
  | nil =>
    have hsplit : hexNumber? ([] ++ [c]) = some n := h
    obtain ⟨high, hhigh, low, hlow, rfl⟩ := hexNumber?_concat hsplit
    have hpositive : low ≠ 0 := by
      rintro rfl
      exact hc (eq_of_hexDigitValue?_zero hlow)
    rw [List.length_nil, pow_zero]
    omega
  | append_singleton digits d ih =>
    have hsplit : hexNumber? ((c :: digits) ++ [d]) = some n := h
    obtain ⟨high, hhigh, low, -, rfl⟩ := hexNumber?_concat hsplit
    have hle := ih hhigh
    rw [List.length_append, List.length_singleton, pow_succ]
    omega

/-- Digits without a leading zero, the digit 0 alone excepted. -/
def Unpadded (digits : List Char) : Prop :=
  digits ≠ [] ∧ (1 < digits.length → digits.head? ≠ some '0')

instance (digits : List Char) : Decidable (Unpadded digits) :=
  inferInstanceAs (Decidable (_ ∧ _))

theorem Unpadded.length_le {left right : List Char} {n : Nat} (hleft : Unpadded left)
    (hl : hexNumber? left = some n) (hr : hexNumber? right = some n) (hright : right ≠ []) :
    left.length ≤ right.length := by
  obtain ⟨-, hpadded⟩ := hleft
  have hpositive := List.length_pos_iff.mpr hright
  by_contra hlt
  rw [not_le] at hlt
  cases left with
  | nil => exact absurd hlt (Nat.not_lt_zero _)
  | cons c digits =>
    have hc : c ≠ '0' := fun h => hpadded (by omega) (congrArg some h)
    have hle : 16 ^ right.length ≤ 16 ^ digits.length :=
      Nat.pow_le_pow_right (by decide) (Nat.lt_succ_iff.mp hlt)
    exact absurd (lt_of_hexNumber? hr) (not_lt.mpr (hle.trans (pow_le_of_hexNumber? hc hl)))

/-- Without padding, the digits of a number are determined up to their case. -/
theorem Unpadded.map_toLower_eq {left right : List Char} {n : Nat} (hleft : Unpadded left)
    (hright : Unpadded right) (hl : hexNumber? left = some n) (hr : hexNumber? right = some n) :
    left.map Char.toLower = right.map Char.toLower := by
  have hlength := le_antisymm (hleft.length_le hl hr hright.1) (hright.length_le hr hl hleft.1)
  rw [map_toLower_of_hexNumber? hl, map_toLower_of_hexNumber? hr, hlength]

/-! ## JSON -/

/-- A JSON number: an integer in the unsigned 64-bit range, a negative one, or any other token. -/
inductive JsonNumber where
  | posInt (n : Nat)
  | negInt (n : Nat)
  | other (token : String)
deriving DecidableEq, Repr

inductive Json where
  | null
  | bool (b : Bool)
  | number (n : JsonNumber)
  | string (s : String)
  | array (items : List Json)
  | object (members : List (String × Json))
deriving Repr

/-- The members of an object. -/
abbrev Members := List (String × Json)

namespace Members

def lookup (key : String) (members : Members) : Option Json :=
  (members.reverse.find? (·.1 = key)).map (·.2)

/-- `insert` of a sorted map. -/
def insert (key : String) (value : Json) (members : Members) : Members :=
  let others := members.filter (·.1 ≠ key)
  others.takeWhile (·.1 < key) ++ (key, value) :: others.dropWhile (·.1 < key)

@[simp]
theorem lookup_nil (key : String) : lookup key [] = none := rfl

theorem lookup_append (key : String) (members more : Members) :
    lookup key (members ++ more) = (lookup key more).or (lookup key members) := by
  simp only [lookup, List.reverse_append, List.find?_append]
  cases more.reverse.find? (·.1 = key) <;> rfl

theorem lookup_eq_none {key : String} {members : Members} (h : ∀ m ∈ members, m.1 ≠ key) :
    lookup key members = none := by
  simpa [lookup, List.find?_eq_none] using fun k v hm => h (k, v) hm

theorem lookup_cons (key : String) (m : String × Json) (members : Members) :
    lookup key (m :: members) = (lookup key members).or (if m.1 = key then some m.2 else none) := by
  rw [← List.singleton_append, lookup_append]
  congr 1
  by_cases h : m.1 = key <;> simp [lookup, h]

theorem lookup_filter {key other : String} (h : key ≠ other) (members : Members) :
    lookup key (members.filter (·.1 ≠ other)) = lookup key members := by
  simp only [lookup, ← List.filter_reverse, List.find?_filter]
  congr 2
  funext m
  by_cases hm : m.1 = key <;> simp [hm, h]

@[simp]
theorem lookup_insert_self (key : String) (value : Json) (members : Members) :
    lookup key (insert key value members) = some value := by
  have hnone {l : Members} (hl : l.Sublist (members.filter (·.1 ≠ key))) : lookup key l = none :=
    lookup_eq_none fun m hm => by simpa using (List.mem_filter.mp (hl.subset hm)).2
  rw [insert, lookup_append, lookup_cons, hnone (List.dropWhile_sublist _)]
  simp

theorem lookup_insert_of_ne {key other : String} (h : key ≠ other) (value : Json)
    (members : Members) : lookup key (insert other value members) = lookup key members := by
  rw [insert, lookup_append, lookup_cons, if_neg (Ne.symm h), Option.or_none, ← lookup_append,
    List.takeWhile_append_dropWhile, lookup_filter h]

/-- The keys of a map after an insertion. -/
theorem forall_insert {P : String → Prop} {key : String} {value : Json} {members : Members}
    (hkey : P key) (h : ∀ m ∈ members, P m.1) : ∀ m ∈ insert key value members, P m.1 := by
  intro m hm
  rw [insert, List.mem_append, List.mem_cons] at hm
  have hother {l : Members} (hl : l.Sublist (members.filter (·.1 ≠ key))) (hm : m ∈ l) : P m.1 :=
    h m (List.mem_filter.mp (hl.subset hm)).1
  obtain hm | rfl | hm := hm
  · exact hother (List.takeWhile_sublist _) hm
  · exact hkey
  · exact hother (List.dropWhile_sublist _) hm

end Members

namespace Json

/-- The member `key` of an object. -/
def get? (key : String) : Json → Option Json
  | object members => Members.lookup key members
  | _ => none

def asObject? : Json → Option Members
  | object members => some members
  | _ => none

def asArray? : Json → Option (List Json)
  | array items => some items
  | _ => none

def asU64? : Json → Option Nat
  | number (.posInt n) => if n < 2 ^ 64 then some n else none
  | _ => none

def asStr? : Json → Option String
  | string s => some s
  | _ => none

def asBool? : Json → Option Bool
  | bool b => some b
  | _ => none

def isObject : Json → Bool
  | object _ => true
  | _ => false

def isString : Json → Bool
  | string _ => true
  | _ => false

def isNull : Json → Bool
  | null => true
  | _ => false

/-- The escape of one character inside a string literal. -/
def escapeChar (c : Char) : List Char :=
  let hex (n : Nat) : Char := if n < 10 then Char.ofNat (48 + n) else Char.ofNat (87 + n)
  match c.toNat with
  | 34 => ['\\', '"']
  | 92 => ['\\', '\\']
  | 8 => ['\\', 'b']
  | 9 => ['\\', 't']
  | 10 => ['\\', 'n']
  | 12 => ['\\', 'f']
  | 13 => ['\\', 'r']
  | n => if n < 32 then ['\\', 'u', '0', '0', hex (n / 16), hex (n % 16)] else [c]

def renderString (s : String) : List Char :=
  '"' :: s.toList.flatMap escapeChar ++ ['"']

def renderNumber : JsonNumber → List Char
  | .posInt n => (toString n).toList
  | .negInt n => '-' :: (toString n).toList
  | .other token => token.toList

mutual

/-- Compact JSON text, members in the order they stand. -/
def render : Json → List Char
  | null => "null".toList
  | bool true => "true".toList
  | bool false => "false".toList
  | number n => renderNumber n
  | string s => renderString s
  | array items => '[' :: renderItems items ++ [']']
  | object members => '\x7b' :: renderMembers members ++ ['\x7d']

def renderItems : List Json → List Char
  | [] => []
  | [item] => item.render
  | item :: items => item.render ++ ',' :: renderItems items

def renderMembers : List (String × Json) → List Char
  | [] => []
  | [(key, value)] => renderString key ++ ':' :: value.render
  | (key, value) :: members => renderString key ++ ':' :: value.render ++ ',' :: renderMembers members

end

/-- The UTF-8 bytes of the compact text. -/
def toBytes (json : Json) : List UInt8 :=
  (String.ofList json.render).toUTF8.toList

mutual

/-- Compact JSON text, the members of every object sorted by key. -/
def canonicalText : Json → List Char
  | array items => '[' :: List.intercalate [','] (canonicalItems items) ++ [']']
  | object members =>
    let sorted := (canonicalMembers members).insertionSort (·.1 ≤ ·.1)
    '\x7b' :: List.intercalate [','] (sorted.map fun (key, value) => renderString key ++ ':' :: value) ++
      ['\x7d']
  | json => json.render

def canonicalItems : List Json → List (List Char)
  | [] => []
  | item :: items => item.canonicalText :: canonicalItems items

def canonicalMembers : List (String × Json) → List (String × List Char)
  | [] => []
  | (key, value) :: members => (key, value.canonicalText) :: canonicalMembers members

end

end Json
