import Mathlib.Algebra.GroupWithZero.Nat
import Mathlib.Data.Option.Basic
import Mathlib.Data.String.Basic

/-!
# Form-encoded text

UTF-8 as lists of bytes, and the `application/x-www-form-urlencoded` coding of such bytes: a plus sign
stands for a space, and a percent sign with two hexadecimal digits for a byte. The strict decoder
refuses a percent sign without its digits, the lenient one leaves it as it is. A byte of an ASCII
character is never part of the encoding of another character, so UTF-8 text may be cut there.
-/

/-! ## UTF-8 -/

def utf8Bytes (text : List Char) : List UInt8 := text.flatMap String.utf8EncodeChar

/-- `str::from_utf8`. -/
def utf8Text? (bytes : List UInt8) : Option String := String.fromUTF8? bytes.toByteArray

theorem utf8Text?_eq_some {bytes : List UInt8} {text : String} :
    utf8Text? bytes = some text ↔ bytes = utf8Bytes text.toList := by
  unfold utf8Text? String.fromUTF8?
  constructor
  · intro h
    split at h
    · rename_i hvalid
      obtain rfl := Option.some.inj h
      apply List.toByteArray_inj.mp
      exact (String.utf8Encode_toList (b := String.fromUTF8 _ hvalid)).symm
    · cases h
  · rintro rfl
    have hencode : (utf8Bytes text.toList).toByteArray = text.toByteArray := String.utf8Encode_toList
    have hvalid : (utf8Bytes text.toList).toByteArray.IsValidUTF8 := ⟨text.toList, rfl⟩
    rw [dif_pos hvalid, Option.some_inj]
    apply String.toByteArray_inj.mp
    exact hencode

theorem le_or_of_le {b mask : UInt8} (hmask : 128 ≤ mask) : 128 ≤ b ||| mask := by
  rw [UInt8.le_iff_toNat_le, UInt8.toNat_or]
  exact (UInt8.le_iff_toNat_le.mp hmask).trans Nat.right_le_or

/-- A character is one ASCII byte, or none of its bytes is ASCII. -/
theorem utf8EncodeChar_cases (c : Char) :
    (∃ b, String.utf8EncodeChar c = [b]) ∨ ∀ b ∈ String.utf8EncodeChar c, ¬ b < 128 := by
  obtain hsize | hsize | hsize | hsize := Char.utf8Size_eq c
  · exact .inl ⟨_, String.utf8EncodeChar_eq_singleton hsize⟩
  · right
    rw [String.utf8EncodeChar_eq_cons_cons hsize]
    simp [le_or_of_le]
  · right
    rw [String.utf8EncodeChar_eq_cons_cons_cons hsize]
    simp [le_or_of_le]
  · right
    rw [String.utf8EncodeChar_eq_cons_cons_cons_cons hsize]
    simp [le_or_of_le]

theorem utf8Bytes_cons (c : Char) (text : List Char) :
    utf8Bytes (c :: text) = String.utf8EncodeChar c ++ utf8Bytes text := rfl

theorem utf8Bytes_append (left right : List Char) :
    utf8Bytes (left ++ right) = utf8Bytes left ++ utf8Bytes right := List.flatMap_append

/-- The character of an ASCII byte. -/
def asciiChar (b : UInt8) : Char := Char.ofNat b.toNat

theorem utf8EncodeChar_asciiChar {b : UInt8} (hb : b < 128) :
    String.utf8EncodeChar (asciiChar b) = [b] := by
  have hall : ∀ n : Fin 256, UInt8.ofFin n < 128 →
      String.utf8EncodeChar (asciiChar (UInt8.ofFin n)) = [UInt8.ofFin n] := by decide +kernel
  exact hall b.toFin hb

theorem utf8Bytes_map_asciiChar {bytes : List UInt8} (h : ∀ b ∈ bytes, b < 128) :
    utf8Bytes (bytes.map asciiChar) = bytes := by
  induction bytes with
  | nil => rfl
  | cons b bytes ih =>
    rw [List.map_cons, utf8Bytes_cons, utf8EncodeChar_asciiChar (h b List.mem_cons_self),
      ih fun b' hb' => h b' (List.mem_cons_of_mem b hb')]
    rfl

/-- UTF-8 text may be cut at an ASCII byte. -/
theorem utf8Bytes_cut {text : List Char} {before after : List UInt8} {b : UInt8} (hb : b < 128)
    (h : before ++ b :: after = utf8Bytes text) :
    ∃ left right, before = utf8Bytes left ∧ after = utf8Bytes right := by
  induction text generalizing before with
  | nil => simp [utf8Bytes] at h
  | cons c text ih =>
    rw [utf8Bytes_cons] at h
    obtain ⟨middle, hfirst, hrest⟩ | ⟨middle, hfirst, hrest⟩ := List.append_eq_append_iff.mp h
    · -- The cut is inside the character, so it is before it, and the character is ASCII.
      cases middle with
      | nil =>
        have hstart : [] ++ b :: after = utf8Bytes text := hrest
        obtain ⟨left, right, hleft, rfl⟩ := ih hstart
        refine ⟨c :: left, right, ?_, rfl⟩
        rw [utf8Bytes_cons, ← hleft, List.append_nil, hfirst, List.append_nil]
      | cons b' middle =>
        obtain ⟨rfl, hafter⟩ := List.cons.inj hrest
        obtain ⟨byte, hchar⟩ | hchar := utf8EncodeChar_cases c
        · rw [hchar] at hfirst
          cases before with
          | nil =>
            obtain ⟨-, rfl⟩ := List.cons.inj hfirst
            exact ⟨[], text, rfl, hafter⟩
          | cons => simp at hfirst
        · exact absurd hb (hchar b (by simp [hfirst]))
    · obtain ⟨left, right, rfl, rfl⟩ := ih hrest.symm
      exact ⟨c :: left, right, hfirst.trans (utf8Bytes_cons c left).symm, rfl⟩

/-! ## Percent encoding -/

def isHexDigitByte (b : UInt8) : Bool :=
  (48 ≤ b && b ≤ 57) || (97 ≤ b && b ≤ 102) || (65 ≤ b && b ≤ 70)

/-- The value of a hexadecimal digit; zero for any other byte. -/
def hexValue (b : UInt8) : UInt8 :=
  if 48 ≤ b ∧ b ≤ 57 then b - 48
  else if 97 ≤ b ∧ b ≤ 102 then b - 97 + 10
  else if 65 ≤ b ∧ b ≤ 70 then b - 65 + 10
  else 0

def hexByte (high low : UInt8) : UInt8 := hexValue high <<< 4 ||| hexValue low

/-- A byte that stands for itself, or for the space. -/
def plainByte (b : UInt8) : UInt8 := if b = 43 then 32 else b

/-- The strict decoder. -/
def strictDecode? : List UInt8 → Option (List UInt8)
  | [] => some []
  | b :: high :: low :: rest =>
    if b = 37 then
      if isHexDigitByte high ∧ isHexDigitByte low then
        (strictDecode? rest).map (hexByte high low :: ·)
      else none
    else (strictDecode? (high :: low :: rest)).map (plainByte b :: ·)
  | b :: rest => if b = 37 then none else (strictDecode? rest).map (plainByte b :: ·)

/-- The lenient decoder. -/
def formDecode : List UInt8 → List UInt8
  | [] => []
  | b :: high :: low :: rest =>
    if b = 37 ∧ isHexDigitByte high ∧ isHexDigitByte low then hexByte high low :: formDecode rest
    else plainByte b :: formDecode (high :: low :: rest)
  | b :: rest => plainByte b :: formDecode rest

/-- What the strict decoder accepts, both decoders read alike. -/
theorem formDecode_of_strictDecode? {bytes decoded : List UInt8}
    (h : strictDecode? bytes = some decoded) : formDecode bytes = decoded := by
  fun_induction strictDecode? bytes generalizing decoded with
  | case1 => exact Option.some.inj h
  | case2 high low rest hhex ih =>
    obtain ⟨tail, htail, rfl⟩ := Option.map_eq_some_iff.mp h
    rw [formDecode, if_pos ⟨rfl, hhex⟩, ih htail]
  | case3 => cases h
  | case4 b high low rest hb ih =>
    obtain ⟨tail, htail, rfl⟩ := Option.map_eq_some_iff.mp h
    rw [formDecode, if_neg fun hescape => hb hescape.1, ih htail]
  | case5 => cases h
  | case6 b rest hshort hb ih =>
    obtain ⟨tail, htail, rfl⟩ := Option.map_eq_some_iff.mp h
    rw [formDecode, ih htail]
    exact hshort

theorem strictDecode?_cons_of_ne {b : UInt8} (hb : b ≠ 37) (rest : List UInt8) :
    strictDecode? (b :: rest) = (strictDecode? rest).map (plainByte b :: ·) := by
  match rest with
  | [] => exact if_neg hb
  | [_] => exact if_neg hb
  | _ :: _ :: _ => rw [strictDecode?, if_neg hb]

theorem strictDecode?_escape {high low : UInt8} (h : isHexDigitByte high ∧ isHexDigitByte low)
    (rest : List UInt8) :
    strictDecode? (37 :: high :: low :: rest) = (strictDecode? rest).map (hexByte high low :: ·) := by
  rw [strictDecode?, if_pos rfl, if_pos h]

/-- What follows decoded bytes is decoded on its own. -/
theorem strictDecode?_append {before left : List UInt8} (h : strictDecode? before = some left)
    (after : List UInt8) :
    strictDecode? (before ++ after) = (strictDecode? after).map (left ++ ·) := by
  fun_induction strictDecode? before generalizing left with
  | case1 =>
    obtain rfl := Option.some.inj h
    simp
  | case2 high low rest hhex ih =>
    obtain ⟨tail, htail, rfl⟩ := Option.map_eq_some_iff.mp h
    simp only [List.cons_append, strictDecode?_escape hhex, ih htail, Option.map_map]
    rfl
  | case3 => cases h
  | case4 b high low rest hb ih =>
    obtain ⟨tail, htail, rfl⟩ := Option.map_eq_some_iff.mp h
    rw [List.cons_append, strictDecode?_cons_of_ne hb, ih htail, Option.map_map]
    rfl
  | case5 => cases h
  | case6 b rest hshort hb ih =>
    obtain ⟨tail, htail, rfl⟩ := Option.map_eq_some_iff.mp h
    rw [List.cons_append, strictDecode?_cons_of_ne hb, ih htail, Option.map_map]
    rfl

/-- An escape does not reach over a byte that is no digit. -/
theorem exists_strictDecode?_of_cut {before after decoded : List UInt8} {b : UInt8}
    (hdigit : isHexDigitByte b = false) (h : strictDecode? (before ++ b :: after) = some decoded) :
    ∃ left, strictDecode? before = some left := by
  fun_induction strictDecode? before generalizing decoded with
  | case1 => exact ⟨[], rfl⟩
  | case2 high low rest hhex ih =>
    rw [List.cons_append, List.cons_append, List.cons_append, strictDecode?_escape hhex] at h
    obtain ⟨tail, htail, -⟩ := Option.map_eq_some_iff.mp h
    obtain ⟨left, hleft⟩ := ih htail
    exact ⟨_, congrArg _ hleft⟩
  | case3 high low rest hhex =>
    rw [List.cons_append, List.cons_append, List.cons_append, strictDecode?, if_pos rfl,
      if_neg hhex] at h
    cases h
  | case4 c high low rest hc ih =>
    rw [List.cons_append, strictDecode?_cons_of_ne hc] at h
    obtain ⟨tail, htail, -⟩ := Option.map_eq_some_iff.mp h
    obtain ⟨left, hleft⟩ := ih htail
    exact ⟨_, congrArg _ hleft⟩
  | case5 rest hshort =>
    -- The byte would be a digit of the escape that begins here.
    exfalso
    match rest with
    | [] =>
      match after with
      | [] => cases h
      | _ :: _ => simp [strictDecode?, hdigit] at h
    | [_] => simp [strictDecode?, hdigit] at h
    | high :: low :: rest => exact hshort high low rest rfl
  | case6 c rest hshort hc ih =>
    rw [List.cons_append, strictDecode?_cons_of_ne hc] at h
    obtain ⟨tail, htail, -⟩ := Option.map_eq_some_iff.mp h
    obtain ⟨left, hleft⟩ := ih htail
    exact ⟨_, congrArg _ hleft⟩

theorem strictDecode?_cut {before after decoded : List UInt8} {b : UInt8}
    (hdigit : isHexDigitByte b = false) (hb : b ≠ 37)
    (h : strictDecode? (before ++ b :: after) = some decoded) :
    ∃ left right, strictDecode? before = some left ∧ strictDecode? after = some right ∧
      decoded = left ++ plainByte b :: right := by
  obtain ⟨left, hleft⟩ := exists_strictDecode?_of_cut hdigit h
  rw [strictDecode?_append hleft, strictDecode?_cons_of_ne hb, Option.map_map] at h
  obtain ⟨right, hright, rfl⟩ := Option.map_eq_some_iff.mp h
  exact ⟨left, right, hleft, hright, rfl⟩

/-! ## Strictly decoded text -/

def strictText? (bytes : List UInt8) : Option String := (strictDecode? bytes).bind utf8Text?

theorem strictText?_eq_some {bytes : List UInt8} {text : String} :
    strictText? bytes = some text ↔ strictDecode? bytes = some (utf8Bytes text.toList) := by
  simp [strictText?, Option.bind_eq_some_iff, utf8Text?_eq_some]

/-- A plain ASCII byte between two encoded texts decodes on its own: the whole is text if and only if
both sides are. -/
theorem strictText?_isSome_cut {before after : List UInt8} {b : UInt8}
    (hdigit : isHexDigitByte b = false) (hb : b ≠ 37) (hplus : b ≠ 43) (hascii : b < 128) :
    (strictText? (before ++ b :: after)).isSome ↔
      (strictText? before).isSome ∧ (strictText? after).isSome := by
  have hplain : plainByte b = b := if_neg hplus
  simp only [Option.isSome_iff_exists, strictText?_eq_some]
  constructor
  · rintro ⟨text, h⟩
    obtain ⟨left, right, hleft, hright, hdecoded⟩ := strictDecode?_cut hdigit hb h
    rw [hplain] at hdecoded
    obtain ⟨first, second, rfl, rfl⟩ := utf8Bytes_cut hascii hdecoded.symm
    exact ⟨⟨String.ofList first, by simpa using hleft⟩, ⟨String.ofList second, by simpa using hright⟩⟩
  · rintro ⟨⟨first, hfirst⟩, second, hsecond⟩
    refine ⟨String.ofList (first.toList ++ asciiChar b :: second.toList), ?_⟩
    rw [strictDecode?_append hfirst, strictDecode?_cons_of_ne hb, hsecond, hplain,
      String.toList_ofList, utf8Bytes_append, utf8Bytes_cons, utf8EncodeChar_asciiChar hascii]
    rfl

/-! ## Encoding -/

def isAlphanumericByte (b : UInt8) : Bool :=
  (48 ≤ b && b ≤ 57) || (97 ≤ b && b ≤ 122) || (65 ≤ b && b ≤ 90)

def hexDigitByte (n : UInt8) : UInt8 := if n < 10 then 48 + n else 55 + n

/-- Letters and digits stand for themselves, every other byte is escaped. -/
def encodeByte (b : UInt8) : List UInt8 :=
  if isAlphanumericByte b then [b] else [37, hexDigitByte (b / 16), hexDigitByte (b % 16)]

def percentEncode (bytes : List UInt8) : List UInt8 := bytes.flatMap encodeByte

theorem strictDecode?_encodeByte (b : UInt8) : strictDecode? (encodeByte b) = some [b] := by
  have hall : ∀ n : Fin 256, strictDecode? (encodeByte (UInt8.ofFin n)) = some [UInt8.ofFin n] := by
    decide +kernel
  exact hall b.toFin

/-- The bytes of an encoding are ASCII, and none of them separates. -/
theorem encodeByte_spec (b : UInt8) :
    (∀ c ∈ encodeByte b, c < 128 ∧ c ≠ 38 ∧ c ≠ 61) ∧ (encodeByte b).length ≤ 3 := by
  -- The test runs over the bytes of each encoding, not over all bytes that might be in it.
  have hall : ∀ n : Fin 256, (encodeByte (UInt8.ofFin n)).all
      (fun c => decide (c < 128 ∧ c ≠ 38 ∧ c ≠ 61)) = true ∧
      (encodeByte (UInt8.ofFin n)).length ≤ 3 := by decide +kernel
  obtain ⟨hbytes, hlength⟩ := hall b.toFin
  exact ⟨fun c hc => of_decide_eq_true (List.all_eq_true.mp hbytes c hc), hlength⟩

theorem strictDecode?_percentEncode (bytes : List UInt8) :
    strictDecode? (percentEncode bytes) = some bytes := by
  induction bytes with
  | nil => rfl
  | cons b bytes ih =>
    change strictDecode? (encodeByte b ++ percentEncode bytes) = _
    rw [strictDecode?_append (strictDecode?_encodeByte b), ih]
    rfl

theorem mem_percentEncode {bytes : List UInt8} {c : UInt8} (h : c ∈ percentEncode bytes) :
    c < 128 ∧ c ≠ 38 ∧ c ≠ 61 := by
  obtain ⟨b, -, hc⟩ := List.mem_flatMap.mp h
  exact (encodeByte_spec b).1 c hc

theorem length_percentEncode_le (bytes : List UInt8) :
    (percentEncode bytes).length ≤ 3 * bytes.length := by
  induction bytes with
  | nil => exact le_rfl
  | cons b bytes ih =>
    have hbyte := (encodeByte_spec b).2
    change (encodeByte b ++ percentEncode bytes).length ≤ _
    rw [List.length_append, List.length_cons]
    omega

/-! ## Pairs -/

/-- What stands before the first separator, and what stands after it. -/
def cutAt (separator : UInt8) (bytes : List UInt8) : List UInt8 × List UInt8 :=
  (bytes.takeWhile (· ≠ separator), (bytes.dropWhile (· ≠ separator)).tail)

theorem cutAt_append {separator : UInt8} {before : List UInt8} (h : separator ∉ before)
    (after : List UInt8) : cutAt separator (before ++ separator :: after) = (before, after) := by
  have hbefore : ∀ b ∈ before, decide (b ≠ separator) = true :=
    fun b hb => decide_eq_true fun heq => h (heq ▸ hb)
  unfold cutAt
  rw [List.takeWhile_append_of_pos hbefore, List.dropWhile_append_of_pos hbefore]
  simp

theorem cutAt_cases (separator : UInt8) (bytes : List UInt8) :
    cutAt separator bytes = (bytes, []) ∨
      ∃ before after, separator ∉ before ∧ bytes = before ++ separator :: after := by
  by_cases hmem : separator ∈ bytes
  · obtain ⟨before, after, rfl, hbefore⟩ := List.eq_append_cons_of_mem hmem
    exact .inr ⟨before, after, hbefore, rfl⟩
  · left
    have hbytes : ∀ b ∈ bytes, decide (b ≠ separator) = true :=
      fun b hb => decide_eq_true fun heq => hmem (heq ▸ hb)
    have htake : (bytes ++ []).takeWhile (fun b => decide (b ≠ separator)) = bytes ++ [] :=
      List.takeWhile_append_of_pos hbytes
    have hdrop : (bytes ++ []).dropWhile (fun b => decide (b ≠ separator)) = [] :=
      List.dropWhile_append_of_pos hbytes
    rw [List.append_nil] at htake hdrop
    unfold cutAt
    rw [htake, hdrop]
    rfl

/-- The components of a form, without the empty ones. -/
def components (bytes : List UInt8) : List (List UInt8) := (bytes.splitOn 38).filter (· ≠ [])

/-- `form_urlencoded::parse`, with the reading of bytes that need not be UTF-8. -/
def formPairs (lossy : List UInt8 → String) (bytes : List UInt8) : List (String × String) :=
  (components bytes).map fun component =>
    (lossy (formDecode (cutAt 61 component).1), lossy (formDecode (cutAt 61 component).2))

/-- A component whose name and value are encoded text. -/
def strictPair? (component : List UInt8) : Option (String × String) := do
  let name ← strictText? (cutAt 61 component).1
  let value ← strictText? (cutAt 61 component).2
  return (name, value)

/-- The form spells these pairs, with nothing lost or replaced. -/
def Spells (bytes : List UInt8) (pairs : List (String × String)) : Prop :=
  (components bytes).map strictPair? = pairs.map some

/-- A component is encoded text if and only if its name and its value are. -/
theorem strictPair?_isSome (component : List UInt8) :
    (strictPair? component).isSome ↔ (strictText? component).isSome := by
  have hpair : (strictPair? component).isSome ↔ (strictText? (cutAt 61 component).1).isSome ∧
      (strictText? (cutAt 61 component).2).isSome := by
    unfold strictPair?
    cases strictText? (cutAt 61 component).1 <;> cases strictText? (cutAt 61 component).2 <;> simp
  rw [hpair]
  obtain hwhole | ⟨before, after, hbefore, rfl⟩ := cutAt_cases 61 component
  · rw [hwhole]
    exact and_iff_left rfl
  · rw [cutAt_append hbefore]
    exact (strictText?_isSome_cut (by decide) (by decide) (by decide) (by decide)).symm

theorem strictPair?_eq_some {component : List UInt8} {pair : String × String} :
    strictPair? component = some pair ↔ strictText? (cutAt 61 component).1 = some pair.1 ∧
      strictText? (cutAt 61 component).2 = some pair.2 := by
  unfold strictPair?
  cases strictText? (cutAt 61 component).1 <;> cases strictText? (cutAt 61 component).2 <;>
    simp [Prod.ext_iff]

/-- The lenient reading of a form loses nothing of the pairs that it spells. -/
theorem formPairs_eq {lossy : List UInt8 → String}
    (hlossy : ∀ text : String, lossy (utf8Bytes text.toList) = text) {bytes : List UInt8}
    {pairs : List (String × String)} (h : Spells bytes pairs) : formPairs lossy bytes = pairs := by
  have hread {part : List UInt8} {text : String} (hpart : strictText? part = some text) :
      lossy (formDecode part) = text := by
    rw [formDecode_of_strictDecode? (strictText?_eq_some.mp hpart), hlossy]
  have hcomponent : ∀ component ∈ components bytes, some (lossy (formDecode (cutAt 61 component).1),
      lossy (formDecode (cutAt 61 component).2)) = strictPair? component := by
    intro component hmem
    have hsome : strictPair? component ∈ pairs.map some := h ▸ List.mem_map_of_mem hmem
    obtain ⟨pair, -, hpair⟩ := List.mem_map.mp hsome
    obtain ⟨hname, hvalue⟩ := strictPair?_eq_some.mp hpair.symm
    rw [hread hname, hread hvalue, ← hpair]
  apply List.map_injective_iff.mpr (Option.some_injective (String × String))
  rw [← h, formPairs, List.map_map]
  exact List.map_congr_left hcomponent

/-- A form spells pairs where every component is encoded text. -/
theorem exists_spells {bytes : List UInt8} :
    (∃ pairs, Spells bytes pairs) ↔
      ∀ component ∈ bytes.splitOn 38, (strictText? component).isSome := by
  have hempty : (strictText? []).isSome := (strictPair?_isSome []).mp (by decide +kernel)
  constructor
  · rintro ⟨pairs, h⟩ component hmem
    by_cases hnil : component = []
    · rw [hnil]
      exact hempty
    · have hsome : strictPair? component ∈ pairs.map some :=
        h ▸ List.mem_map_of_mem (List.mem_filter.mpr ⟨hmem, decide_eq_true hnil⟩)
      obtain ⟨pair, -, hpair⟩ := List.mem_map.mp hsome
      rw [← strictPair?_isSome, ← hpair]
      rfl
  · intro h
    have hsome : ∀ pair ∈ (components bytes).map strictPair?, pair.isSome := by
      intro pair hmem
      obtain ⟨component, hcomponent, rfl⟩ := List.mem_map.mp hmem
      exact (strictPair?_isSome component).mpr (h component (List.mem_filter.mp hcomponent).1)
    refine ⟨(components bytes).filterMap strictPair?, ?_⟩
    rw [Spells, List.map_filterMap_some_eq_filter_map_isSome, List.filter_eq_self.mpr hsome]

/-- A component of a rendered form. -/
def renderPair (pair : String × String) : List UInt8 :=
  percentEncode (utf8Bytes pair.1.toList) ++ 61 :: percentEncode (utf8Bytes pair.2.toList)

def formRender (pairs : List (String × String)) : List UInt8 :=
  [38].intercalate (pairs.map renderPair)

theorem strictPair?_renderPair (pair : String × String) :
    strictPair? (renderPair pair) = some pair := by
  have hname : 61 ∉ percentEncode (utf8Bytes pair.1.toList) := fun h => (mem_percentEncode h).2.2 rfl
  rw [strictPair?_eq_some, renderPair, cutAt_append hname]
  exact ⟨strictText?_eq_some.mpr (strictDecode?_percentEncode _),
    strictText?_eq_some.mpr (strictDecode?_percentEncode _)⟩

theorem mem_renderPair {pair : String × String} {b : UInt8} (h : b ∈ renderPair pair) :
    b < 128 ∧ b ≠ 38 := by
  obtain h | h := List.mem_append.mp h
  · exact ⟨(mem_percentEncode h).1, (mem_percentEncode h).2.1⟩
  obtain rfl | h := List.mem_cons.mp h
  · decide
  · exact ⟨(mem_percentEncode h).1, (mem_percentEncode h).2.1⟩

theorem components_formRender (pairs : List (String × String)) :
    components (formRender pairs) = pairs.map renderPair := by
  cases pairs with
  | nil => decide +kernel
  | cons pair pairs =>
    unfold components formRender
    rw [List.splitOn_intercalate]
    · refine List.filter_eq_self.mpr fun component hmem => decide_eq_true ?_
      obtain ⟨pair, -, rfl⟩ := List.mem_map.mp hmem
      simp [renderPair]
    · intro component hmem hseparator
      obtain ⟨pair, -, rfl⟩ := List.mem_map.mp hmem
      exact (mem_renderPair hseparator).2 rfl
    · simp

/-- Every list of pairs is spelled by some form. -/
theorem spells_formRender (pairs : List (String × String)) : Spells (formRender pairs) pairs := by
  rw [Spells, components_formRender, List.map_map]
  exact List.map_congr_left fun pair _ => strictPair?_renderPair pair

theorem formRender_cons (pair : String × String) (pairs : List (String × String)) :
    formRender (pair :: pairs) =
      renderPair pair ++ if pairs = [] then [] else 38 :: formRender pairs := by
  cases pairs with
  | nil => simp [formRender, List.intercalate]
  | cons next pairs => simp [formRender, List.intercalate_cons_cons]

theorem mem_formRender {pairs : List (String × String)} {b : UInt8} (h : b ∈ formRender pairs) :
    b < 128 := by
  induction pairs with
  | nil => cases h
  | cons pair pairs ih =>
    rw [formRender_cons, List.mem_append] at h
    obtain h | h := h
    · exact (mem_renderPair h).1
    split at h
    · cases h
    obtain rfl | h := List.mem_cons.mp h
    · decide
    · exact ih h

theorem length_utf8Bytes (text : String) : (utf8Bytes text.toList).length = text.utf8ByteSize := by
  have hencode : (utf8Bytes text.toList).toByteArray = text.toByteArray := String.utf8Encode_toList
  rw [← List.size_toByteArray, hencode]
  rfl

theorem length_utf8Bytes_of_ascii {text : List Char} (h : ∀ c ∈ text, c.toNat < 128) :
    (utf8Bytes text).length = text.length := by
  induction text with
  | nil => rfl
  | cons c text ih =>
    have hchar : (String.utf8EncodeChar c).length = 1 := by
      rw [String.length_utf8EncodeChar, Char.utf8Size_eq_one_iff, UInt32.le_iff_toNat_le]
      exact Nat.le_of_lt_succ (h c List.mem_cons_self)
    rw [utf8Bytes_cons, List.length_append, hchar,
      ih fun d hd => h d (List.mem_cons_of_mem c hd), List.length_cons, Nat.add_comm]

/-- The text of a rendered form. -/
def formText (pairs : List (String × String)) : String :=
  String.ofList ((formRender pairs).map asciiChar)

theorem utf8Bytes_formText (pairs : List (String × String)) :
    utf8Bytes (formText pairs).toList = formRender pairs := by
  rw [formText, String.toList_ofList]
  exact utf8Bytes_map_asciiChar fun b hb => mem_formRender hb

theorem length_formRender_le (pairs : List (String × String)) : (formRender pairs).length ≤
    (pairs.map fun pair => 3 * (pair.1.utf8ByteSize + pair.2.utf8ByteSize) + 2).sum := by
  induction pairs with
  | nil => exact le_rfl
  | cons pair pairs ih =>
    have hname := length_percentEncode_le (utf8Bytes pair.1.toList)
    have hvalue := length_percentEncode_le (utf8Bytes pair.2.toList)
    rw [length_utf8Bytes] at hname hvalue
    have htail : (if pairs = [] then [] else 38 :: formRender pairs).length ≤
        1 + (formRender pairs).length := by
      split <;> simp [Nat.add_comm]
    rw [formRender_cons, List.length_append, renderPair, List.length_append, List.length_cons,
      List.map_cons, List.sum_cons]
    omega
