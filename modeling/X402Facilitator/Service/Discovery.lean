import X402Facilitator.Lib.FormEncoding
import X402Facilitator.Service.Catalog

/-!
# Discovery queries

`GET /discovery/resources` reads its filters and its page from the query of the request. The query is
read twice: once strictly, to refuse what is not percent-encoded UTF-8, and once by the lenient form
parser, whose pairs fill in the fields. The lenient reading replaces what it cannot decode, so that
its pairs are those of the request only because of the strict pass before it.
-/

namespace X402Facilitator

def defaultLimit : Nat := 100
def maxLimit : Nat := 1000
def maxFilterBytes : Nat := 200
def maxQueryBytes : Nat := 4096

structure CatalogQuery where
  resourceType : Option String := none
  payTo : Option String := none
  scheme : Option String := none
  network : Option String := none
  extension : Option String := none
  limit : Nat := defaultLimit
  offset : Nat := 0
deriving DecidableEq

/-- The third-party code that a query is read with. -/
class FormPrimitives where
  /-- `String::from_utf8_lossy`, which replaces what is not UTF-8. -/
  fromUtf8Lossy : List UInt8 → String
  fromUtf8Lossy_utf8Bytes : ∀ text : String, fromUtf8Lossy (utf8Bytes text.toList) = text

export FormPrimitives (fromUtf8Lossy fromUtf8Lossy_utf8Bytes)

/-! ## Reading a query -/

def validateFilter (name value : String) : Except CatalogError String := do
  validateText name value maxFilterBytes false
  return value

def parseBoundedInteger (name value : String) (minimum maximum : Nat) : Except CatalogError Nat :=
  if value = "" ∨ (1 < value.utf8ByteSize ∧ value.beginsWith "0") ∨
      ¬ value.toList.all Char.isDigit then
    .error (.invalid (name ++ " must be an unsigned integer"))
  else
    match parseUnsigned? 64 value with
    | none => .error (.invalid (name ++ " is too large"))
    | some parsed =>
      if minimum ≤ parsed ∧ parsed ≤ maximum then .ok parsed
      else .error (.invalid (name ++ " must be between " ++ toString minimum ++ " and " ++
        toString maximum))

def validateComponents : List (List UInt8) → Except CatalogError Unit
  | [] => .ok ()
  | component :: components =>
    match strictDecode? component with
    | none => .error (.invalid "query contains invalid percent encoding")
    | some decoded =>
      match utf8Text? decoded with
      | none => .error (.invalid "query must be valid UTF-8")
      | some _ => validateComponents components

/-- The strict pass. An ampersand is an ASCII character, so the text may be split by its bytes. -/
def validateRawQuery (raw : String) : Except CatalogError Unit :=
  validateComponents ((utf8Bytes raw.toList).splitOn 38)

namespace CatalogQuery

/-- One turn of the loop over the pairs, for a key that was not seen before. -/
def assign (query : CatalogQuery) (key value : String) : Except CatalogError CatalogQuery :=
  match key with
  | "type" => do return { query with resourceType := some (← validateFilter key value) }
  | "payTo" => do return { query with payTo := some (← validateFilter key value) }
  | "scheme" => do return { query with scheme := some (← validateFilter key value) }
  | "network" => do return { query with network := some (← validateFilter key value) }
  | "extensions" => do return { query with extension := some (← validateFilter key value) }
  | "limit" => do return { query with limit := ← parseBoundedInteger "limit" value 1 maxLimit }
  | "offset" => do return { query with offset := ← parseBoundedInteger "offset" value 0 (2 ^ 64 - 1) }
  | _ => .error (.invalid ("unknown query parameter " ++ key))

def readPairs : List (String × String) → (seen : List String) → CatalogQuery →
    Except CatalogError CatalogQuery
  | [], _, query => .ok query
  | (key, value) :: pairs, seen, query =>
    if key ∈ seen then .error (.invalid ("duplicate query parameter " ++ key))
    else do
      let query ← query.assign key value
      readPairs pairs (key :: seen) query

variable [FormPrimitives]

def parse (raw : Option String) : Except CatalogError CatalogQuery :=
  let raw := raw.getD ""
  if maxQueryBytes < raw.utf8ByteSize then
    .error (.invalid "discovery query exceeds the 4 KiB bound")
  else do
    validateRawQuery raw
    readPairs (formPairs fromUtf8Lossy (utf8Bytes raw.toList)) [] {}

end CatalogQuery

/-! ## The pairs of a query -/

/-- The five parameters that select resources by a text. -/
def filterKeys : List String := ["type", "payTo", "scheme", "network", "extensions"]

def FilterText (value : String) : Prop :=
  value ≠ "" ∧ value.utf8ByteSize ≤ maxFilterBytes ∧ ∀ c ∈ value.toList, isControl c = false

/-- The parameters that a query may have, with the values they may take. A number is written in
decimal without leading zeros. -/
inductive Admissible : String → String → Prop where
  | filter {key value : String} (hkey : key ∈ filterKeys) (hvalue : FilterText value) :
      Admissible key value
  | limit {n : Nat} (hlow : 1 ≤ n) (hhigh : n ≤ maxLimit) : Admissible "limit" (toString n)
  | offset {n : Nat} (h : n < 2 ^ 64) : Admissible "offset" (toString n)

theorem Admissible.filterText {key value : String} (h : Admissible key value)
    (hkey : key ∈ filterKeys) : FilterText value := by
  cases h with
  | filter _ hvalue => exact hvalue
  | limit => exact absurd hkey (by decide)
  | offset => exact absurd hkey (by decide)

theorem Admissible.limit_bounds {key value : String} (h : Admissible key value)
    (hkey : key = "limit") : 1 ≤ numeralValue value ∧ numeralValue value ≤ maxLimit := by
  cases h with
  | filter hfilter => exact absurd (hkey ▸ hfilter) (by decide)
  | limit hlow hhigh =>
    rw [(isNumeral_toString _).2]
    exact ⟨hlow, hhigh⟩
  | offset => exact absurd hkey (by decide)

theorem Admissible.offset_bound {key value : String} (h : Admissible key value)
    (hkey : key = "offset") : numeralValue value < 2 ^ 64 := by
  cases h with
  | filter hfilter => exact absurd (hkey ▸ hfilter) (by decide)
  | limit => exact absurd hkey (by decide)
  | offset hbits =>
    rw [(isNumeral_toString _).2]
    exact hbits

theorem validateFilter_eq_ok {name value filter : String} :
    validateFilter name value = .ok filter ↔ FilterText value ∧ filter = value := by
  unfold validateFilter validateText FilterText
  split
  · rename_i hbad
    refine ⟨nofun, fun ⟨⟨hne, hsize, hcontrol⟩, _⟩ => ?_⟩
    obtain hempty | hlarge | hany | hascii := hbad
    · exact absurd hempty hne
    · exact absurd hsize (by omega)
    · obtain ⟨c, hc, htrue⟩ := List.any_eq_true.mp hany
      exact absurd (hcontrol c hc) (by simp [htrue])
    · cases hascii.1
  · rename_i hgood
    simp only [not_or, Nat.not_lt, List.any_eq_true, not_exists, not_and] at hgood
    obtain ⟨hne, hsize, hcontrol, -⟩ := hgood
    have htext : ∀ c ∈ value.toList, isControl c = false :=
      fun c hc => Bool.eq_false_iff.mpr (hcontrol c hc)
    constructor
    · intro h
      exact ⟨⟨hne, hsize, htext⟩, (Except.ok.inj h).symm⟩
    · rintro ⟨-, rfl⟩
      rfl

theorem beginsWith_zero {text : String} : text.beginsWith "0" ↔ text.toList.head? = some '0' := by
  unfold String.beginsWith
  cases text.toList with
  | nil => decide
  | cons c rest =>
    change ('0' == c && [].isPrefixOf rest) = true ↔ some c = some '0'
    simp only [List.isPrefixOf_nil_left, Bool.and_true, beq_iff_eq, Option.some.injEq]
    exact eq_comm

theorem eq_zero_of_size {text : String} (hhead : text.toList.head? = some '0')
    (hsize : text.utf8ByteSize ≤ 1) : text = "0" := by
  obtain ⟨rest, htext⟩ := List.head?_eq_some_iff.mp hhead
  rw [← length_utf8Bytes, htext, utf8Bytes_cons, List.length_append] at hsize
  have hfirst : (String.utf8EncodeChar '0').length = 1 := by decide
  cases rest with
  | nil => exact String.toList_inj.mp htext
  | cons c rest =>
    have hpos : 0 < (String.utf8EncodeChar c).length := by
      rw [String.length_utf8EncodeChar]
      exact c.utf8Size_pos
    rw [utf8Bytes_cons, List.length_append] at hsize
    omega

/-- The numerals that the parser takes are those that numbers are written as. -/
theorem unpadded_iff {text : String} :
    ¬ (text = "" ∨ (1 < text.utf8ByteSize ∧ text.beginsWith "0") ∨
      ¬ text.toList.all Char.isDigit) ↔ text = toString (numeralValue text) := by
  constructor
  · intro h
    simp only [not_or, not_and, not_not, List.all_eq_true] at h
    obtain ⟨hne, hpad, hdigits⟩ := h
    refine eq_toString_of_decimalValue? hne (fun hhead => ?_)
      (IsNumeral.decimalValue? ⟨hne, hdigits⟩)
    exact eq_zero_of_size hhead (Nat.not_lt.mp fun hlong => hpad hlong (beginsWith_zero.mpr hhead))
  · intro h
    obtain ⟨⟨hne, hdigits⟩, -⟩ := isNumeral_toString (numeralValue text)
    rw [← h] at hne hdigits
    rintro (hempty | ⟨hlong, hzero⟩ | hletter)
    · exact hne hempty
    · have hlist : (toString (numeralValue text)).toList = Nat.toDigits 10 (numeralValue text) := by
        simp
      rw [h, beginsWith_zero, hlist] at hzero
      rw [h, head?_toDigits hzero] at hlong
      exact absurd hlong (by decide)
    · exact hletter (List.all_eq_true.mpr hdigits)

theorem parseBoundedInteger_eq_ok {name value : String} {minimum maximum n : Nat} :
    parseBoundedInteger name value minimum maximum = .ok n ↔
      value = toString n ∧ n < 2 ^ 64 ∧ minimum ≤ n ∧ n ≤ maximum := by
  unfold parseBoundedInteger
  constructor
  · intro h
    obtain ⟨hunpadded, h⟩ := Except.of_ite_error h
    have htext := unpadded_iff.mp hunpadded
    rw [htext, parseUnsigned?_toString_eq, Option.filter_some] at h
    by_cases hbits : numeralValue value < 2 ^ 64
    · rw [if_pos (decide_eq_true hbits)] at h
      dsimp only at h
      split at h
      · rename_i hbounds
        obtain rfl := Except.ok.inj h
        exact ⟨htext, hbits, hbounds⟩
      · cases h
    · rw [if_neg (by simpa using hbits)] at h
      cases h
  · rintro ⟨rfl, hbits, hlow, hhigh⟩
    have hunpadded := unpadded_iff.mpr (congrArg toString (isNumeral_toString n).2.symm)
    rw [if_neg hunpadded, parseUnsigned?_toString hbits]
    exact if_pos ⟨hlow, hhigh⟩

namespace CatalogQuery

/-- A query with one parameter set. -/
def put (query : CatalogQuery) (pair : String × String) : CatalogQuery :=
  match pair.1 with
  | "type" => { query with resourceType := some pair.2 }
  | "payTo" => { query with payTo := some pair.2 }
  | "scheme" => { query with scheme := some pair.2 }
  | "network" => { query with network := some pair.2 }
  | "extensions" => { query with extension := some pair.2 }
  | "limit" => { query with limit := numeralValue pair.2 }
  | "offset" => { query with offset := numeralValue pair.2 }
  | _ => query

theorem assign_of_filterKeys {key : String} (h : key ∈ filterKeys) (query : CatalogQuery)
    (value : String) : query.assign key value =
      validateFilter key value >>= fun filter => .ok (query.put (key, filter)) := by
  simp only [filterKeys, List.mem_cons, List.not_mem_nil, or_false] at h
  obtain rfl | rfl | rfl | rfl | rfl := h <;> rfl

theorem assign_limit (query : CatalogQuery) (value : String) : query.assign "limit" value =
    parseBoundedInteger "limit" value 1 maxLimit >>= fun n =>
      .ok (query.put ("limit", toString n)) := by
  simp only [put, (isNumeral_toString _).2]
  rfl

theorem assign_offset (query : CatalogQuery) (value : String) : query.assign "offset" value =
    parseBoundedInteger "offset" value 0 (2 ^ 64 - 1) >>= fun n =>
      .ok (query.put ("offset", toString n)) := by
  simp only [put, (isNumeral_toString _).2]
  rfl

theorem assign_unknown {key : String} (hfilter : key ∉ filterKeys) (hlimit : key ≠ "limit")
    (hoffset : key ≠ "offset") (query : CatalogQuery) (value : String) :
    query.assign key value = .error (.invalid ("unknown query parameter " ++ key)) := by
  simp only [filterKeys, List.mem_cons, List.not_mem_nil, or_false, not_or] at hfilter
  unfold assign
  split
  all_goals first | rfl | (exfalso; simp_all)

theorem assign_eq_ok {query query' : CatalogQuery} {key value : String} :
    query.assign key value = .ok query' ↔ Admissible key value ∧ query' = query.put (key, value) := by
  by_cases hfilter : key ∈ filterKeys
  · rw [assign_of_filterKeys hfilter]
    constructor
    · intro h
      obtain ⟨filter, hvalid, hput⟩ := Except.exists_of_bind h
      obtain ⟨hvalue, rfl⟩ := validateFilter_eq_ok.mp hvalid
      exact ⟨.filter hfilter hvalue, (Except.ok.inj hput).symm⟩
    · rintro ⟨hadmissible, rfl⟩
      rw [validateFilter_eq_ok.mpr ⟨hadmissible.filterText hfilter, rfl⟩, Except.ok_bind]
  by_cases hlimit : key = "limit"
  · constructor
    · intro h
      rw [hlimit, assign_limit] at h
      obtain ⟨n, hparse, hput⟩ := Except.exists_of_bind h
      obtain ⟨rfl, -, hlow, hhigh⟩ := parseBoundedInteger_eq_ok.mp hparse
      rw [hlimit]
      exact ⟨.limit hlow hhigh, (Except.ok.inj hput).symm⟩
    · rintro ⟨hadmissible, rfl⟩
      cases hadmissible with
      | filter hkey => exact absurd hkey hfilter
      | limit hlow hhigh =>
        have hbits := hhigh.trans_lt (by decide : maxLimit < 2 ^ 64)
        rw [assign_limit, parseBoundedInteger_eq_ok.mpr ⟨rfl, hbits, hlow, hhigh⟩, Except.ok_bind]
      | offset => exact absurd hlimit (by decide)
  by_cases hoffset : key = "offset"
  · constructor
    · intro h
      rw [hoffset, assign_offset] at h
      obtain ⟨n, hparse, hput⟩ := Except.exists_of_bind h
      obtain ⟨rfl, hbits, -⟩ := parseBoundedInteger_eq_ok.mp hparse
      rw [hoffset]
      exact ⟨.offset hbits, (Except.ok.inj hput).symm⟩
    · rintro ⟨hadmissible, rfl⟩
      cases hadmissible with
      | filter hkey => exact absurd hkey hfilter
      | limit => exact absurd rfl hlimit
      | offset hbits =>
        rw [assign_offset, parseBoundedInteger_eq_ok.mpr ⟨rfl, hbits, Nat.zero_le _, by omega⟩,
          Except.ok_bind]
  · rw [assign_unknown hfilter hlimit hoffset]
    refine ⟨nofun, fun ⟨hadmissible, _⟩ => ?_⟩
    cases hadmissible with
    | filter hkey => exact absurd hkey hfilter
    | limit => exact absurd rfl hlimit
    | offset => exact absurd rfl hoffset

theorem readPairs_eq_ok {pairs : List (String × String)} {seen : List String}
    {query query' : CatalogQuery} :
    readPairs pairs seen query = .ok query' ↔
      (∀ pair ∈ pairs, pair.1 ∉ seen) ∧ (pairs.map Prod.fst).Nodup ∧
        (∀ pair ∈ pairs, Admissible pair.1 pair.2) ∧ query' = pairs.foldl put query := by
  induction pairs generalizing seen query with
  | nil =>
    simp [readPairs, eq_comm]
  | cons pair pairs ih =>
    obtain ⟨key, value⟩ := pair
    unfold readPairs
    split
    · rename_i hseen
      exact ⟨nofun, fun h => absurd hseen (h.1 _ List.mem_cons_self)⟩
    · rename_i hseen
      constructor
      · intro h
        obtain ⟨next, hassign, h⟩ := Except.exists_of_bind h
        obtain ⟨hadmissible, rfl⟩ := assign_eq_ok.mp hassign
        obtain ⟨hfresh, hnodup, hall, rfl⟩ := ih.mp h
        refine ⟨?_, ?_, List.forall_mem_cons.mpr ⟨hadmissible, hall⟩, rfl⟩
        · refine List.forall_mem_cons.mpr ⟨hseen, fun pair hpair hmem => ?_⟩
          exact hfresh pair hpair (List.mem_cons_of_mem key hmem)
        · refine List.nodup_cons.mpr ⟨fun hmem => ?_, hnodup⟩
          obtain ⟨pair, hpair, heq⟩ := List.mem_map.mp hmem
          exact hfresh pair hpair (heq ▸ List.mem_cons_self)
      · rintro ⟨hfresh, hnodup, hall, rfl⟩
        obtain ⟨hadmissible, hall⟩ := List.forall_mem_cons.mp hall
        obtain ⟨hnew, hnodup⟩ := List.nodup_cons.mp hnodup
        rw [assign_eq_ok.mpr ⟨hadmissible, rfl⟩, Except.ok_bind]
        refine ih.mpr ⟨fun pair hpair hmem => ?_, hnodup, hall, rfl⟩
        obtain heq | hmem := List.mem_cons.mp hmem
        · exact hnew (List.mem_map.mpr ⟨pair, hpair, heq⟩)
        · exact hfresh pair (List.mem_cons_of_mem _ hpair) hmem

/-- A field that one key sets and no other key touches is what the pair of that key says. -/
theorem field_foldl_put {α : Type} {field : CatalogQuery → α} {read : String → α} {key : String}
    (hset : ∀ query value, field (put query (key, value)) = read value)
    (hkeep : ∀ query pair, pair.1 ≠ key → field (put query pair) = field query)
    {pairs : List (String × String)} (hnodup : (pairs.map Prod.fst).Nodup) (query : CatalogQuery) :
    field (pairs.foldl put query) = ((pairs.lookup key).map read).getD (field query) := by
  induction pairs generalizing query with
  | nil => rfl
  | cons pair pairs ih =>
    obtain ⟨name, value⟩ := pair
    obtain ⟨hnew, hnodup⟩ := List.nodup_cons.mp hnodup
    rw [List.foldl_cons, ih hnodup, List.lookup_cons]
    by_cases hname : key = name
    · subst hname
      have hnone : pairs.lookup key = none := List.lookup_eq_none_iff.mpr fun pair hpair =>
        bne_iff_ne.mpr fun heq => hnew (List.mem_map.mpr ⟨pair, hpair, heq.symm⟩)
      rw [hnone, hset]
      simp
    · rw [hkeep query _ (Ne.symm hname), beq_eq_false_iff_ne.mpr hname]

/-- The query is what these pairs say, with the defaults for what they do not say. -/
structure StatedBy (query : CatalogQuery) (pairs : List (String × String)) : Prop where
  resourceType : query.resourceType = pairs.lookup "type"
  payTo : query.payTo = pairs.lookup "payTo"
  scheme : query.scheme = pairs.lookup "scheme"
  network : query.network = pairs.lookup "network"
  extension : query.extension = pairs.lookup "extensions"
  limit : query.limit = ((pairs.lookup "limit").map numeralValue).getD defaultLimit
  offset : query.offset = ((pairs.lookup "offset").map numeralValue).getD 0

theorem put_of_ne (query : CatalogQuery) (pair : String × String) :
    (pair.1 ≠ "type" → (put query pair).resourceType = query.resourceType) ∧
    (pair.1 ≠ "payTo" → (put query pair).payTo = query.payTo) ∧
    (pair.1 ≠ "scheme" → (put query pair).scheme = query.scheme) ∧
    (pair.1 ≠ "network" → (put query pair).network = query.network) ∧
    (pair.1 ≠ "extensions" → (put query pair).extension = query.extension) ∧
    (pair.1 ≠ "limit" → (put query pair).limit = query.limit) ∧
    (pair.1 ≠ "offset" → (put query pair).offset = query.offset) := by
  unfold put
  split <;> simp_all

theorem filter_foldl_put {field : CatalogQuery → Option String} {key : String}
    (hset : ∀ query value, field (put query (key, value)) = some value)
    (hkeep : ∀ query pair, pair.1 ≠ key → field (put query pair) = field query)
    (hdefault : field {} = none) {pairs : List (String × String)}
    (hnodup : (pairs.map Prod.fst).Nodup) : field (pairs.foldl put {}) = pairs.lookup key := by
  rw [field_foldl_put hset hkeep hnodup, hdefault]
  cases pairs.lookup key <;> rfl

theorem statedBy_foldl_put {pairs : List (String × String)} (hnodup : (pairs.map Prod.fst).Nodup) :
    (pairs.foldl put {}).StatedBy pairs where
  resourceType := filter_foldl_put (fun _ _ => rfl) (fun q p => (put_of_ne q p).1) rfl hnodup
  payTo := filter_foldl_put (fun _ _ => rfl) (fun q p => (put_of_ne q p).2.1) rfl hnodup
  scheme := filter_foldl_put (fun _ _ => rfl) (fun q p => (put_of_ne q p).2.2.1) rfl hnodup
  network := filter_foldl_put (fun _ _ => rfl) (fun q p => (put_of_ne q p).2.2.2.1) rfl hnodup
  extension := filter_foldl_put (fun _ _ => rfl) (fun q p => (put_of_ne q p).2.2.2.2.1) rfl hnodup
  limit := field_foldl_put (fun _ _ => rfl) (fun q p => (put_of_ne q p).2.2.2.2.2.1) hnodup {}
  offset := field_foldl_put (fun _ _ => rfl) (fun q p => (put_of_ne q p).2.2.2.2.2.2) hnodup {}

theorem StatedBy.eq {query query' : CatalogQuery} {pairs : List (String × String)}
    (h : query.StatedBy pairs) (h' : query'.StatedBy pairs) : query = query' := by
  obtain ⟨hresourceType, hpayTo, hscheme, hnetwork, hextension, hlimit, hoffset⟩ := h
  obtain ⟨hresourceType', hpayTo', hscheme', hnetwork', hextension', hlimit', hoffset'⟩ := h'
  cases query
  cases query'
  simp_all

theorem validateRawQuery_eq_ok {raw : String} :
    validateRawQuery raw = .ok () ↔ ∃ pairs, Spells (utf8Bytes raw.toList) pairs := by
  rw [exists_spells, validateRawQuery]
  generalize (utf8Bytes raw.toList).splitOn 38 = components
  induction components with
  | nil => simp [validateComponents]
  | cons component components ih =>
    rw [List.forall_mem_cons, ← ih, validateComponents, strictText?]
    cases strictDecode? component with
    | none => simp
    | some decoded =>
      cases htext : utf8Text? decoded with
      | none => simp [htext]
      | some text => simp [htext]

/-! ## Writing a query -/

def parameters (query : CatalogQuery) : List (String × Option String) :=
  [("type", query.resourceType), ("payTo", query.payTo), ("scheme", query.scheme),
    ("network", query.network), ("extensions", query.extension),
    ("limit", some (toString query.limit)), ("offset", some (toString query.offset))]

/-- The parameters that have a value. -/
def stated (parameters : List (String × Option String)) : List (String × String) :=
  parameters.filterMap fun parameter => parameter.2.map (parameter.1, ·)

def render (query : CatalogQuery) : String := formText (stated query.parameters)

theorem stated_cons (parameter : String × Option String)
    (parameters : List (String × Option String)) :
    stated (parameter :: parameters) =
      (parameter.2.map (parameter.1, ·)).toList ++ stated parameters := by
  unfold stated
  cases h : parameter.2 <;> simp [h]

theorem keys_stated (parameters : List (String × Option String)) :
    ((stated parameters).map Prod.fst).Sublist (parameters.map Prod.fst) := by
  induction parameters with
  | nil => exact List.Sublist.refl _
  | cons parameter parameters ih =>
    rw [stated_cons]
    cases parameter.2 with
    | none => exact ih.cons _
    | some value => exact ih.cons_cons _

theorem lookup_stated {parameters : List (String × Option String)}
    (hnodup : (parameters.map Prod.fst).Nodup) (key : String) :
    (stated parameters).lookup key = (parameters.lookup key).join := by
  induction parameters with
  | nil => rfl
  | cons parameter parameters ih =>
    obtain ⟨name, value⟩ := parameter
    obtain ⟨hnew, hnodup⟩ := List.nodup_cons.mp hnodup
    have habsent : (stated parameters).lookup name = none :=
      List.lookup_eq_none_iff.mpr fun pair hpair => bne_iff_ne.mpr fun heq =>
        hnew ((keys_stated parameters).subset (List.mem_map.mpr ⟨pair, hpair, heq.symm⟩))
    rw [stated_cons, List.lookup_cons]
    by_cases hname : key = name
    · subst hname
      rw [beq_self_eq_true]
      cases value with
      | none => exact habsent
      | some value => simp
    · rw [beq_eq_false_iff_ne.mpr hname, ← ih hnodup]
      cases value with
      | none => rfl
      | some value => simp [List.lookup_cons, beq_eq_false_iff_ne.mpr hname]

/-- What the parser can return. -/
structure WellFormed (query : CatalogQuery) : Prop where
  filters : ∀ filter ∈ [query.resourceType, query.payTo, query.scheme, query.network,
    query.extension], ∀ value ∈ filter, FilterText value
  limit : 1 ≤ query.limit ∧ query.limit ≤ maxLimit
  offset : query.offset < 2 ^ 64

theorem keys_parameters (query : CatalogQuery) : (query.parameters.map Prod.fst).Nodup := by
  change ["type", "payTo", "scheme", "network", "extensions", "limit", "offset"].Nodup
  decide

theorem statedBy_parameters (query : CatalogQuery) : query.StatedBy (stated query.parameters) := by
  have hlookup := lookup_stated (keys_parameters query)
  constructor
  case limit =>
    rw [hlookup]
    exact (isNumeral_toString query.limit).2.symm
  case offset =>
    rw [hlookup]
    exact (isNumeral_toString query.offset).2.symm
  all_goals
    rw [hlookup]
    rfl

theorem admissible_stated {query : CatalogQuery} (h : query.WellFormed) :
    ∀ pair ∈ stated query.parameters, Admissible pair.1 pair.2 := by
  have hfilter {key : String} {filter : Option String} (hkey : key ∈ filterKeys)
      (hvalid : ∀ value ∈ filter, FilterText value) :
      ∀ pair ∈ (filter.map (key, ·)).toList, Admissible pair.1 pair.2 := by
    intro pair hpair
    rw [Option.mem_toList, Option.map_eq_some_iff] at hpair
    obtain ⟨value, hvalue, rfl⟩ := hpair
    exact .filter hkey (hvalid value hvalue)
  obtain ⟨hfilters, hlimit, hoffset⟩ := h
  simp only [List.forall_mem_cons] at hfilters
  obtain ⟨hresourceType, hpayTo, hscheme, hnetwork, hextension, -⟩ := hfilters
  simp only [parameters, stated_cons, List.forall_mem_append]
  refine ⟨hfilter (by decide) hresourceType, hfilter (by decide) hpayTo, hfilter (by decide) hscheme,
    hfilter (by decide) hnetwork, hfilter (by decide) hextension, ?_, ?_, nofun⟩
  · intro pair hpair
    obtain rfl := List.mem_singleton.mp hpair
    exact .limit hlimit.1 hlimit.2
  · intro pair hpair
    obtain rfl := List.mem_singleton.mp hpair
    exact .offset hoffset

theorem mem_of_lookup {pairs : List (String × String)} {key value : String}
    (h : pairs.lookup key = some value) : (key, value) ∈ pairs := by
  obtain ⟨before, after, rfl, -⟩ := List.lookup_eq_some_iff.mp h
  simp

theorem StatedBy.wellFormed {query : CatalogQuery} {pairs : List (String × String)}
    (h : query.StatedBy pairs) (hpairs : ∀ pair ∈ pairs, Admissible pair.1 pair.2) :
    query.WellFormed := by
  have hfilter {key : String} (hkey : key ∈ filterKeys) :
      ∀ value ∈ pairs.lookup key, FilterText value :=
    fun value hvalue => (hpairs _ (mem_of_lookup hvalue)).filterText hkey
  refine ⟨?_, ?_, ?_⟩
  · simp only [List.forall_mem_cons]
    rw [h.resourceType, h.payTo, h.scheme, h.network, h.extension]
    exact ⟨hfilter (by decide), hfilter (by decide), hfilter (by decide), hfilter (by decide),
      hfilter (by decide), nofun⟩
  · rw [h.limit]
    cases hlimit : pairs.lookup "limit" with
    | none => decide
    | some value => exact (hpairs _ (mem_of_lookup hlimit)).limit_bounds rfl
  · rw [h.offset]
    cases hoffset : pairs.lookup "offset" with
    | none => decide
    | some value => exact (hpairs _ (mem_of_lookup hoffset)).offset_bound rfl

/-! ### The size of a written query -/

theorem size_toString_le {n : Nat} (h : n < 2 ^ 64) : (toString n).utf8ByteSize ≤ 20 := by
  have htext : (toString n).toList = Nat.toDigits 10 n := by simp
  have hvalue : decimalValue? (toString n).toList = some n := htext ▸ decimalValue?_toDigits n
  have hascii : ∀ c ∈ (toString n).toList, c.toNat < 128 := by
    intro c hc
    have hdigit := (isNumeral_toString n).1.2 c hc
    simp only [Char.isDigit, Bool.and_eq_true, decide_eq_true_eq, UInt32.le_iff_toNat_le] at hdigit
    exact hdigit.2.trans_lt (by decide)
  have htrim : trimZeros (toString n) = (toString n).toList :=
    trimZeros_eq_self (isNumeral_toString n).1.1 fun hhead => by
      have hzero : n = 0 := head?_toDigits (htext ▸ hhead)
      rw [hzero]
      rfl
  rw [← length_utf8Bytes, length_utf8Bytes_of_ascii hascii, ← htrim]
  obtain ⟨-, hpos, hzero | hlarge⟩ := trimZeros_spec hvalue
  · rw [hzero]
    decide
  · have hpow : 10 ^ ((trimZeros (toString n)).length - 1) < 10 ^ 20 :=
      hlarge.trans_lt (h.trans (by decide))
    have hlength := (Nat.pow_lt_pow_iff_right (by decide)).mp hpow
    omega

theorem length_stated_le (parameters : List (String × Option String)) :
    (formRender (stated parameters)).length ≤ (parameters.map fun parameter =>
      3 * (parameter.1.utf8ByteSize + (parameter.2.map String.utf8ByteSize).getD 0) + 2).sum := by
  refine (length_formRender_le (stated parameters)).trans ?_
  induction parameters with
  | nil => exact le_rfl
  | cons parameter parameters ih =>
    obtain ⟨key, value⟩ := parameter
    rw [stated_cons, List.map_append, List.sum_append, List.map_cons, List.sum_cons]
    refine Nat.add_le_add ?_ ih
    cases value with
    | none => exact Nat.zero_le _
    | some value => exact le_rfl

theorem size_render_le {query : CatalogQuery} (h : query.WellFormed) :
    query.render.utf8ByteSize ≤ maxQueryBytes := by
  have hfilter {filter : Option String} (hvalid : ∀ value ∈ filter, FilterText value) :
      (filter.map String.utf8ByteSize).getD 0 ≤ 200 := by
    cases filter with
    | none => exact Nat.zero_le _
    | some value => exact (hvalid value rfl).2.1
  obtain ⟨hfilters, hlimit, hoffset⟩ := h
  simp only [List.forall_mem_cons] at hfilters
  obtain ⟨hresourceType, hpayTo, hscheme, hnetwork, hextension, -⟩ := hfilters
  have hlength := length_stated_le query.parameters
  have hnames : "type".utf8ByteSize = 4 ∧ "payTo".utf8ByteSize = 5 ∧ "scheme".utf8ByteSize = 6 ∧
      "network".utf8ByteSize = 7 ∧ "extensions".utf8ByteSize = 10 ∧ "limit".utf8ByteSize = 5 ∧
      "offset".utf8ByteSize = 6 := by decide
  simp only [parameters, List.map_cons, List.map_nil, List.sum_cons, List.sum_nil, hnames] at hlength
  have hlimitSize := size_toString_le (hlimit.2.trans_lt (by decide : maxLimit < 2 ^ 64))
  have hoffsetSize := size_toString_le hoffset
  have h1 := hfilter hresourceType
  have h2 := hfilter hpayTo
  have h3 := hfilter hscheme
  have h4 := hfilter hnetwork
  have h5 := hfilter hextension
  rw [render, ← length_utf8Bytes, utf8Bytes_formText]
  refine hlength.trans ?_
  simp only [Option.map_some, Option.getD_some]
  unfold maxQueryBytes
  omega

/-! ## Accepted queries -/

variable [FormPrimitives]

/-- A query is accepted if and only if it is short enough, every component of it is encoded text, no
parameter comes twice, and each one is known and has a value that it may have. The fields are then
what the components spell, and the defaults for the parameters that are left out. -/
theorem parse_iff_stated (raw : Option String) (query : CatalogQuery) :
    parse raw = .ok query ↔ (raw.getD "").utf8ByteSize ≤ maxQueryBytes ∧
      ∃ pairs, Spells (utf8Bytes (raw.getD "").toList) pairs ∧ (pairs.map Prod.fst).Nodup ∧
        (∀ pair ∈ pairs, Admissible pair.1 pair.2) ∧ query.StatedBy pairs := by
  unfold parse
  dsimp only
  constructor
  · intro h
    obtain ⟨hsize, h⟩ := Except.of_ite_error h
    obtain ⟨⟨⟩, hvalid, hread⟩ := Except.exists_of_bind h
    obtain ⟨pairs, hpairs⟩ := validateRawQuery_eq_ok.mp hvalid
    rw [formPairs_eq fromUtf8Lossy_utf8Bytes hpairs] at hread
    obtain ⟨-, hnodup, hadmissible, rfl⟩ := readPairs_eq_ok.mp hread
    exact ⟨Nat.not_lt.mp hsize, pairs, hpairs, hnodup, hadmissible, statedBy_foldl_put hnodup⟩
  · rintro ⟨hsize, pairs, hpairs, hnodup, hadmissible, hstated⟩
    rw [if_neg (Nat.not_lt.mpr hsize), validateRawQuery_eq_ok.mpr ⟨pairs, hpairs⟩, Except.ok_bind,
      formPairs_eq fromUtf8Lossy_utf8Bytes hpairs]
    exact readPairs_eq_ok.mpr
      ⟨fun _ _ => List.not_mem_nil, hnodup, hadmissible, hstated.eq (statedBy_foldl_put hnodup)⟩

theorem parse_render {query : CatalogQuery} (h : query.WellFormed) :
    parse (some query.render) = .ok query := by
  refine (parse_iff_stated _ query).mpr ⟨size_render_le h, stated query.parameters, ?_, ?_,
    admissible_stated h, statedBy_parameters query⟩
  · rw [Option.getD_some, render, utf8Bytes_formText]
    exact spells_formRender _
  · exact (keys_stated query.parameters).nodup (keys_parameters query)

end CatalogQuery

namespace Sample

/-- A reading that replaces all of a text that is not UTF-8. -/
@[reducible]
def formPrimitives : FormPrimitives where
  fromUtf8Lossy bytes := (utf8Text? bytes).getD "\uFFFD"
  fromUtf8Lossy_utf8Bytes text := by
    rw [utf8Text?_eq_some.mpr rfl]
    rfl

def nearPage : CatalogQuery := { network := some "near:mainnet", limit := 20, offset := 40 }

theorem nearPage_wellFormed : nearPage.WellFormed where
  filters := by
    simp only [List.forall_mem_cons]
    refine ⟨nofun, nofun, nofun, fun value hvalue => ?_, nofun, nofun⟩
    obtain rfl := Option.some.inj hvalue
    have hcontrol : "near:mainnet".toList.any isControl = false := by decide +kernel
    exact ⟨by decide, by decide, fun c hc =>
      Bool.eq_false_iff.mpr (List.any_eq_false.mp hcontrol c hc)⟩
  limit := by decide
  offset := by decide

end Sample

section
local instance formSample : FormPrimitives := Sample.formPrimitives

end

end X402Facilitator
