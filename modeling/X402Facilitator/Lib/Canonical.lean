import X402Facilitator.Lib.Text

/-!
# Canonical JSON text

The compact text of a JSON value with sorted members can be read back in one way only, and it is the
same for two values exactly when they differ in nothing but the order of object members. Every piece
of such a text is read off its front: the first character says which kind of value it is, a string
ends at its first bare quote, a number ends where no character of a number follows, and the rest of
the text is left as it was.
-/

namespace Json

/-- Induction on a JSON value, with a hypothesis for each item and each member. -/
@[elab_as_elim]
theorem induction {P : Json → Prop} (null : P null) (bool : ∀ b, P (bool b))
    (number : ∀ n, P (number n)) (string : ∀ s, P (string s))
    (array : ∀ items, (∀ item ∈ items, P item) → P (array items))
    (object : ∀ members, (∀ m ∈ members, P m.2) → P (object members)) (json : Json) : P json :=
  @Json.rec P (fun items => ∀ item ∈ items, P item) (fun members => ∀ m ∈ members, P m.2)
    (fun m => P m.2) null bool number string array object (by simp)
    (fun _ _ hhead htail => List.forall_mem_cons.mpr ⟨hhead, htail⟩) (by simp)
    (fun _ _ hhead htail => List.forall_mem_cons.mpr ⟨hhead, htail⟩) (fun _ _ h => h) json

/-! ## Values -/

/-- The characters of number tokens. -/
def isNumberChar (c : Char) : Bool := c.isDigit || c ∈ ['-', '+', '.', 'e', 'E']

/-- A number that is printed as a number. -/
def ValidNumber (n : JsonNumber) : Prop :=
  renderNumber n ≠ [] ∧ ∀ c ∈ renderNumber n, isNumberChar c = true

/-- A value as parsers return it and programs build it: an object has one member to a key. -/
inductive Valid : Json → Prop
  | null : Valid null
  | bool (b : Bool) : Valid (bool b)
  | number {n : JsonNumber} (h : ValidNumber n) : Valid (number n)
  | string (s : String) : Valid (string s)
  | array {items : List Json} (h : ∀ item ∈ items, Valid item) : Valid (array items)
  | object {members : Members} (hkeys : (members.map (·.1)).Nodup)
      (h : ∀ m ∈ members, Valid m.2) : Valid (object members)

mutual

/-- Equality up to the order of object members at every level. Numbers are compared as printed. -/
inductive Same : Json → Json → Prop
  | null : Same null null
  | bool (b : Bool) : Same (bool b) (bool b)
  | number {n n' : JsonNumber} (h : renderNumber n = renderNumber n') : Same (number n) (number n')
  | string (s : String) : Same (string s) (string s)
  | array {items items' : List Json} (h : List.Forall₂ Same items items') :
      Same (array items) (array items')
  | object {members members' reordered reordered' : Members} (hperm : members.Perm reordered)
      (hperm' : members'.Perm reordered') (h : List.Forall₂ SameMember reordered reordered') :
      Same (object members) (object members')

/-- Equality of two members: one key, and equal values. -/
inductive SameMember : String × Json → String × Json → Prop
  | intro (key : String) {value value' : Json} (h : Same value value') :
      SameMember (key, value) (key, value')

end

/-- The text of a natural number is a number. -/
theorem validNumber_posInt (n : Nat) : ValidNumber (.posInt n) := by
  have htext : renderNumber (.posInt n) = Nat.toDigits 10 n := by simp [renderNumber]
  rw [ValidNumber, htext]
  refine ⟨Nat.toDigits_ne_nil, fun c hc => ?_⟩
  rw [isNumberChar, Nat.isDigit_of_mem_toDigits (by decide) (by decide) hc, Bool.true_or]

/-! ## The text of arrays and objects -/

theorem canonicalItems_eq (items : List Json) : canonicalItems items = items.map canonicalText := by
  induction items with
  | nil => rfl
  | cons item items ih => rw [canonicalItems, ih, List.map_cons]

theorem canonicalMembers_eq (members : Members) :
    canonicalMembers members = members.map fun m => (m.1, m.2.canonicalText) := by
  induction members with
  | nil => rfl
  | cons m members ih => rw [canonicalMembers, ih, List.map_cons]

theorem keys_canonicalMembers (members : Members) :
    (canonicalMembers members).map (·.1) = members.map (·.1) := by
  rw [canonicalMembers_eq, List.map_map]
  rfl

theorem canonicalMembers_perm {members members' : Members} (h : members.Perm members') :
    (canonicalMembers members).Perm (canonicalMembers members') := by
  rw [canonicalMembers_eq, canonicalMembers_eq]
  exact h.map _

/-- One member of an object, as it is printed. -/
def memberText (m : String × Json) : List Char := renderString m.1 ++ ':' :: m.2.canonicalText

/-- The members of an object in the order they are printed. -/
def sortMembers (members : Members) : Members := members.insertionSort (·.1 ≤ ·.1)

theorem perm_sortMembers (members : Members) : (sortMembers members).Perm members :=
  List.perm_insertionSort _ members

theorem canonicalText_array (items : List Json) :
    canonicalText (array items) =
      '[' :: (List.intercalate [','] (items.map canonicalText) ++ [']']) := by
  rw [canonicalText, canonicalItems_eq, List.cons_append]

theorem canonicalText_object (members : Members) :
    canonicalText (object members) =
      '\x7b' :: (List.intercalate [','] ((sortMembers members).map memberText) ++ ['\x7d']) := by
  have hsort : (canonicalMembers members).insertionSort (·.1 ≤ ·.1) =
      (sortMembers members).map fun m => (m.1, m.2.canonicalText) := by
    rw [canonicalMembers_eq, sortMembers]
    symm
    apply List.map_insertionSort
    simp
  rw [canonicalText, hsort, List.map_map]
  rfl

/-! ## Reading a text from its front -/

/-- A rest of a text that does not go on with a number. -/
def Stops (rest : List Char) : Prop := ∀ c ∈ rest.head?, isNumberChar c = false

theorem stops_cons {c : Char} {rest : List Char} (h : isNumberChar c = false) : Stops (c :: rest) := by
  rintro _ ⟨⟩
  exact h

/-- Two runs of number characters that are followed by something else. -/
theorem number_append_inj {text text' rest rest' : List Char}
    (htext : ∀ c ∈ text, isNumberChar c = true) (htext' : ∀ c ∈ text', isNumberChar c = true)
    (hrest : Stops rest) (hrest' : Stops rest') (h : text ++ rest = text' ++ rest') :
    text = text' ∧ rest = rest' := by
  have hrun : ∀ {text rest : List Char}, (∀ c ∈ text, isNumberChar c = true) → Stops rest →
      (text ++ rest).takeWhile isNumberChar = text := by
    intro text rest htext hrest
    rw [List.takeWhile_append_of_pos htext]
    cases rest with
    | nil => simp
    | cons c rest => simp [hrest c rfl]
  have heq := congrArg (List.takeWhile isNumberChar) h
  rw [hrun htext hrest, hrun htext' hrest'] at heq
  subst heq
  exact ⟨rfl, List.append_cancel_left h⟩

/-! ### Strings -/

/-- The character that the front of a string literal stands for. -/
def readChar : List Char → Option (Char × List Char)
  | '\\' :: 'u' :: '0' :: '0' :: high :: low :: rest => do
    return (Char.ofNat ((← hexDigitValue? high) * 16 + (← hexDigitValue? low)), rest)
  | '\\' :: 'b' :: rest => some (Char.ofNat 8, rest)
  | '\\' :: 't' :: rest => some (Char.ofNat 9, rest)
  | '\\' :: 'n' :: rest => some (Char.ofNat 10, rest)
  | '\\' :: 'f' :: rest => some (Char.ofNat 12, rest)
  | '\\' :: 'r' :: rest => some (Char.ofNat 13, rest)
  | '\\' :: c :: rest => some (c, rest)
  | '"' :: _ => none
  | c :: rest => some (c, rest)
  | [] => none

theorem readChar_plain {c : Char} (hescape : c ≠ '\\') (hquote : c ≠ '"') (rest : List Char) :
    readChar (c :: rest) = some (c, rest) := by
  unfold readChar
  split <;> simp_all

theorem readChar_escapeChar (c : Char) (rest : List Char) :
    readChar (escapeChar c ++ rest) = some (c, rest) := by
  by_cases hascii : c.toNat < 128
  · have hc : c = Char.ofNat c.toNat := (Char.ofNat_toNat c).symm
    generalize c.toNat = n at hascii hc
    subst hc
    interval_cases n <;> rfl
  · have hescape : escapeChar c = [c] := by
      unfold escapeChar
      split <;> first | omega | skip
      rw [if_neg (by omega)]
    rw [hescape]
    apply readChar_plain <;> rintro rfl <;> exact hascii (by decide)

/-- The characters of a string literal are read one by one up to its closing quote. -/
theorem escaped_append_inj {s t rest rest' : List Char}
    (h : s.flatMap escapeChar ++ '"' :: rest = t.flatMap escapeChar ++ '"' :: rest') :
    s = t ∧ rest = rest' := by
  induction s generalizing t with
  | nil =>
    cases t with
    | nil => exact ⟨rfl, (List.cons.inj h).2⟩
    | cons d t =>
      rw [List.flatMap_cons, List.append_assoc] at h
      have hread := congrArg readChar h
      rw [readChar_escapeChar] at hread
      cases hread
  | cons c s ih =>
    rw [List.flatMap_cons, List.append_assoc] at h
    have hread := congrArg readChar h
    rw [readChar_escapeChar] at hread
    cases t with
    | nil => cases hread
    | cons d t =>
      rw [List.flatMap_cons, List.append_assoc, readChar_escapeChar] at hread
      obtain ⟨rfl, htail⟩ := Prod.mk.inj (Option.some.inj hread)
      obtain ⟨rfl, hrest⟩ := ih htail
      exact ⟨rfl, hrest⟩

theorem renderString_append_inj {s t : String} {rest rest' : List Char}
    (h : renderString s ++ rest = renderString t ++ rest') : s = t ∧ rest = rest' := by
  simp only [renderString, List.cons_append, List.append_assoc, List.nil_append] at h
  obtain ⟨htext, hrest⟩ := escaped_append_inj (List.cons.inj h).2
  exact ⟨String.toList_injective htext, hrest⟩

/-! ### Kinds -/

/-- The kinds of values that the first character tells apart. -/
inductive Kind where
  | null
  | bool (b : Bool)
  | number
  | string
  | array
  | object
deriving DecidableEq

def kind : Json → Kind
  | null => .null
  | bool b => .bool b
  | number _ => .number
  | string _ => .string
  | array _ => .array
  | object _ => .object

def Kind.ofChar? (c : Char) : Option Kind :=
  if isNumberChar c then some .number
  else match c with
    | 'n' => some .null
    | 't' => some (.bool true)
    | 'f' => some (.bool false)
    | '"' => some .string
    | '[' => some .array
    | '\x7b' => some .object
    | _ => none

theorem exists_head {json : Json} (h : json.Valid) :
    ∃ c tail, json.canonicalText = c :: tail ∧ Kind.ofChar? c = some json.kind := by
  cases h with
  | null => exact ⟨'n', "ull".toList, rfl, rfl⟩
  | bool b =>
    cases b with
    | true => exact ⟨'t', "rue".toList, rfl, rfl⟩
    | false => exact ⟨'f', "alse".toList, rfl, rfl⟩
  | @number n h =>
    obtain ⟨c, tail, htext⟩ := List.exists_cons_of_ne_nil h.1
    have hc : isNumberChar c = true := h.2 c (htext ▸ List.mem_cons_self)
    exact ⟨c, tail, htext, if_pos hc⟩
  | string s => exact ⟨'"', _, rfl, rfl⟩
  | @array items _ => exact ⟨'[', _, canonicalText_array items, rfl⟩
  | @object members _ _ => exact ⟨'\x7b', _, canonicalText_object members, rfl⟩

theorem kind_eq {a b : Json} {rest rest' : List Char} (ha : a.Valid) (hb : b.Valid)
    (h : a.canonicalText ++ rest = b.canonicalText ++ rest') : a.kind = b.kind := by
  obtain ⟨c, tail, htext, hkind⟩ := exists_head ha
  obtain ⟨c', tail', htext', hkind'⟩ := exists_head hb
  rw [htext, htext'] at h
  obtain rfl := (List.cons.inj h).1
  exact Option.some.inj (hkind.symm.trans hkind')

/-! ### Separated pieces -/

section
variable {α : Type} {text : α → List Char} {R : α → α → Prop} {close : Char}

/-- What follows a piece of a separated list: a comma and the other pieces, or the end of the list. -/
def afterPiece (text : α → List Char) (close : Char) (rest : List Char) : List α → List Char
  | [] => close :: rest
  | x :: xs => ',' :: (List.intercalate [','] ((x :: xs).map text) ++ close :: rest)

theorem intercalate_cons_append (x : α) (xs : List α) (rest : List Char) :
    List.intercalate [','] ((x :: xs).map text) ++ close :: rest =
      text x ++ afterPiece text close rest xs := by
  cases xs with
  | nil => simp [afterPiece]
  | cons y ys => simp [afterPiece, List.intercalate_cons_cons]

theorem stops_afterPiece (hclose : isNumberChar close = false) (rest : List Char) (xs : List α) :
    Stops (afterPiece text close rest xs) := by
  cases xs with
  | nil => exact stops_cons hclose
  | cons x xs => exact stops_cons (by decide)

/-- Pieces that can be read one at a time, none of them starting with the closing character, can be
read from a separated list of them. -/
theorem forall₂_of_separated {xs ys : List α} {rest rest' : List Char}
    (hread : ∀ x ∈ xs, ∀ y ∈ ys, ∀ rest rest', Stops rest → Stops rest' →
      text x ++ rest = text y ++ rest' → R x y ∧ rest = rest')
    (hhead : ∀ x ∈ xs, ∃ c tail, text x = c :: tail ∧ c ≠ close)
    (hhead' : ∀ y ∈ ys, ∃ c tail, text y = c :: tail ∧ c ≠ close)
    (hclose : isNumberChar close = false) (hcomma : close ≠ ',')
    (h : List.intercalate [','] (xs.map text) ++ close :: rest =
      List.intercalate [','] (ys.map text) ++ close :: rest') :
    List.Forall₂ R xs ys ∧ rest = rest' := by
  induction xs generalizing ys with
  | nil =>
    cases ys with
    | nil => exact ⟨.nil, (List.cons.inj h).2⟩
    | cons y ys =>
      obtain ⟨c, tail, hy, hc⟩ := hhead' y List.mem_cons_self
      rw [intercalate_cons_append, hy] at h
      exact absurd (List.cons.inj h).1.symm hc
  | cons x xs ih =>
    rw [intercalate_cons_append] at h
    cases ys with
    | nil =>
      obtain ⟨c, tail, hx, hc⟩ := hhead x List.mem_cons_self
      rw [hx] at h
      exact absurd (List.cons.inj h).1 hc
    | cons y ys =>
      rw [intercalate_cons_append] at h
      obtain ⟨hxy, htail⟩ := hread x List.mem_cons_self y List.mem_cons_self _ _
        (stops_afterPiece hclose rest xs) (stops_afterPiece hclose rest' ys) h
      -- Both lists go on or both end, since the closing character is no comma.
      cases xs with
      | nil =>
        cases ys with
        | nil => exact ⟨.cons hxy .nil, (List.cons.inj htail).2⟩
        | cons y' ys => exact absurd (List.cons.inj htail).1 hcomma
      | cons x' xs =>
        cases ys with
        | nil => exact absurd (List.cons.inj htail).1.symm hcomma
        | cons y' ys =>
          obtain ⟨hrest, heq⟩ := ih
            (fun x hx y hy => hread x (List.mem_cons_of_mem _ hx) y (List.mem_cons_of_mem _ hy))
            (fun x hx => hhead x (List.mem_cons_of_mem _ hx))
            (fun y hy => hhead' y (List.mem_cons_of_mem _ hy)) (List.cons.inj htail).2
          exact ⟨.cons hxy hrest, heq⟩

end

/-! ## The text determines the value -/

/-- The value can be read off the front of a text that goes on with no number. -/
def Readable (a : Json) : Prop :=
  a.Valid → ∀ {b : Json}, b.Valid → ∀ {rest rest' : List Char}, Stops rest → Stops rest' →
    a.canonicalText ++ rest = b.canonicalText ++ rest' → Same a b ∧ rest = rest'

theorem head_ne_bracket {json : Json} (h : json.Valid) :
    ∃ c tail, json.canonicalText = c :: tail ∧ c ≠ ']' := by
  obtain ⟨c, tail, htext, hkind⟩ := exists_head h
  refine ⟨c, tail, htext, ?_⟩
  rintro rfl
  cases hkind

theorem same_array {items items' : List Json} {rest rest' : List Char}
    (ih : ∀ item ∈ items, Readable item) (hitems : ∀ item ∈ items, item.Valid)
    (hitems' : ∀ item ∈ items', item.Valid)
    (h : (array items).canonicalText ++ rest = (array items').canonicalText ++ rest') :
    Same (array items) (array items') ∧ rest = rest' := by
  simp only [canonicalText_array, List.cons_append, List.append_assoc, List.nil_append,
    List.cons.injEq, true_and] at h
  have hread : ∀ x ∈ items, ∀ y ∈ items', ∀ rest rest', Stops rest → Stops rest' →
      x.canonicalText ++ rest = y.canonicalText ++ rest' → Same x y ∧ rest = rest' :=
    fun x hx y hy _ _ hrest hrest' => ih x hx (hitems x hx) (hitems' y hy) hrest hrest'
  obtain ⟨hsame, heq⟩ := forall₂_of_separated hread (fun x hx => head_ne_bracket (hitems x hx))
    (fun y hy => head_ne_bracket (hitems' y hy)) (by decide) (by decide) h
  exact ⟨.array hsame, heq⟩

theorem same_object {members members' : Members} {rest rest' : List Char}
    (ih : ∀ m ∈ members, Readable m.2) (hmembers : ∀ m ∈ members, m.2.Valid)
    (hmembers' : ∀ m ∈ members', m.2.Valid)
    (h : (object members).canonicalText ++ rest = (object members').canonicalText ++ rest') :
    Same (object members) (object members') ∧ rest = rest' := by
  simp only [canonicalText_object, List.cons_append, List.append_assoc, List.nil_append,
    List.cons.injEq, true_and] at h
  have hperm := perm_sortMembers members
  have hperm' := perm_sortMembers members'
  have hread : ∀ x ∈ sortMembers members, ∀ y ∈ sortMembers members', ∀ rest rest', Stops rest →
      Stops rest' → memberText x ++ rest = memberText y ++ rest' → SameMember x y ∧ rest = rest' := by
    rintro ⟨key, value⟩ hx ⟨key', value'⟩ hy rest rest' hrest hrest' h
    have hx := hperm.subset hx
    simp only [memberText, List.append_assoc, List.cons_append] at h
    obtain ⟨rfl, hvalue⟩ := renderString_append_inj h
    obtain ⟨hsame, heq⟩ := ih _ hx (hmembers _ hx) (hmembers' _ (hperm'.subset hy)) hrest hrest'
      (List.cons.inj hvalue).2
    exact ⟨.intro key hsame, heq⟩
  have hquote (m : String × Json) : ∃ c tail, memberText m = c :: tail ∧ c ≠ '\x7d' :=
    ⟨'"', _, rfl, by decide⟩
  obtain ⟨hsame, heq⟩ := forall₂_of_separated hread (fun m _ => hquote m) (fun m _ => hquote m)
    (by decide) (by decide) h
  exact ⟨.object hperm.symm hperm'.symm hsame, heq⟩

theorem readable (a : Json) : Readable a := by
  induction a using Json.induction with
  | null =>
    intro ha b hb rest rest' hrest hrest' h
    have hkind := kind_eq ha hb h
    cases hb with
    | null => exact ⟨.null, List.append_cancel_left h⟩
    | _ => cases hkind
  | bool c =>
    intro ha b hb rest rest' hrest hrest' h
    have hkind := kind_eq ha hb h
    cases hb with
    | bool d =>
      obtain rfl := Kind.bool.inj hkind
      exact ⟨.bool c, List.append_cancel_left h⟩
    | _ => cases hkind
  | number n =>
    intro ha b hb rest rest' hrest hrest' h
    have hkind := kind_eq ha hb h
    cases ha with | number hn =>
    cases hb with
    | number hn' =>
      obtain ⟨htext, heq⟩ := number_append_inj hn.2 hn'.2 hrest hrest' h
      exact ⟨.number htext, heq⟩
    | _ => cases hkind
  | string s =>
    intro ha b hb rest rest' hrest hrest' h
    have hkind := kind_eq ha hb h
    cases hb with
    | string t =>
      obtain ⟨rfl, heq⟩ := renderString_append_inj h
      exact ⟨.string s, heq⟩
    | _ => cases hkind
  | array items ih =>
    intro ha b hb rest rest' hrest hrest' h
    have hkind := kind_eq ha hb h
    cases ha with | array hitems =>
    cases hb with
    | array hitems' => exact same_array ih hitems hitems' h
    | _ => cases hkind
  | object members ih =>
    intro ha b hb rest rest' hrest hrest' h
    have hkind := kind_eq ha hb h
    cases ha with | object _ hmembers =>
    cases hb with
    | object _ hmembers' => exact same_object ih hmembers hmembers' h
    | _ => cases hkind

/-! ## The value determines the text -/

theorem map_eq_of_forall₂ {α β : Type} {R : α → α → Prop} {f : α → β} {xs ys : List α}
    (h : List.Forall₂ R xs ys) (heq : ∀ x ∈ xs, ∀ y ∈ ys, R x y → f x = f y) :
    xs.map f = ys.map f := by
  induction h with
  | nil => rfl
  | cons hxy _ ih =>
    rw [List.map_cons, List.map_cons, heq _ List.mem_cons_self _ List.mem_cons_self hxy,
      ih fun x hx y hy => heq x (List.mem_cons_of_mem _ hx) y (List.mem_cons_of_mem _ hy)]

/-- Members with distinct keys are sorted into one list, whatever their order was. -/
theorem insertionSort_eq_of_perm {β : Type} {l l' : List (String × β)} (hkeys : (l.map (·.1)).Nodup)
    (h : l.Perm l') : l.insertionSort (·.1 ≤ ·.1) = l'.insertionSort (·.1 ≤ ·.1) := by
  let r : String × β → String × β → Prop := fun m m' => m.1 ≤ m'.1
  have : Std.Total r := ⟨fun m m' => le_total m.1 m'.1⟩
  have : IsTrans (String × β) r := ⟨fun _ _ _ => le_trans⟩
  have hsort := List.perm_insertionSort r l
  have hsort' := List.perm_insertionSort r l'
  refine List.Perm.eq_of_pairwise ?_ (List.pairwise_insertionSort r l)
    (List.pairwise_insertionSort r l') (hsort.trans (h.trans hsort'.symm))
  intro m m' hm hm' hle hge
  exact List.inj_on_of_nodup_map hkeys (hsort.subset hm) (h.symm.subset (hsort'.subset hm'))
    (le_antisymm hle hge)

theorem canonicalText_eq_of_same {a b : Json} (ha : a.Valid) (hb : b.Valid) (h : Same a b) :
    a.canonicalText = b.canonicalText := by
  induction a using Json.induction generalizing b with
  | null => cases h; rfl
  | bool c => cases h; rfl
  | number n =>
    cases h with | number h =>
    exact h
  | string s => cases h; rfl
  | array items ih =>
    cases h with | @array _ items' h =>
    cases ha with | array hitems =>
    cases hb with | array hitems' =>
    have htexts : items.map canonicalText = items'.map canonicalText :=
      map_eq_of_forall₂ h fun x hx y hy => ih x hx (hitems x hx) (hitems' y hy)
    rw [canonicalText_array, canonicalText_array, htexts]
  | object members ih =>
    cases h with | @object _ members' reordered reordered' hperm hperm' h =>
    cases ha with | object hkeys hmembers =>
    cases hb with | object _ hmembers' =>
    have htexts : canonicalMembers reordered = canonicalMembers reordered' := by
      rw [canonicalMembers_eq, canonicalMembers_eq]
      refine map_eq_of_forall₂ h fun x hx y hy hxy => ?_
      have hx := hperm.symm.subset hx
      have hy := hperm'.symm.subset hy
      cases hxy with | intro key hvalue =>
      rw [ih _ hx (hmembers _ hx) (hmembers' _ hy) hvalue]
    have hsorted : (canonicalMembers members).insertionSort (·.1 ≤ ·.1) =
        (canonicalMembers members').insertionSort (·.1 ≤ ·.1) := by
      refine insertionSort_eq_of_perm (keys_canonicalMembers members ▸ hkeys) ?_
      have hreordered := canonicalMembers_perm hperm
      rw [htexts] at hreordered
      exact hreordered.trans (canonicalMembers_perm hperm').symm
    rw [canonicalText, canonicalText, hsorted]

/-- The canonical text is that of one value, up to the order of members. -/
theorem canonicalText_eq_iff {a b : Json} (ha : a.Valid) (hb : b.Valid) :
    a.canonicalText = b.canonicalText ↔ Same a b := by
  refine ⟨fun h => ?_, canonicalText_eq_of_same ha hb⟩
  have hstops : Stops [] := nofun
  exact (readable a ha hb hstops hstops (congrArg (· ++ []) h)).1

/-! ## UTF-8 -/

theorem byteArray_toList_loop (bytes : ByteArray) (i : Nat) (done : List UInt8) :
    ByteArray.toList.loop bytes i done = done.reverse ++ bytes.data.toList.drop i := by
  induction hn : bytes.size - i generalizing i done with
  | zero =>
    unfold ByteArray.toList.loop
    have hsize : bytes.data.toList.length ≤ i := by
      have : bytes.data.toList.length = bytes.size := rfl
      omega
    rw [if_neg (by omega), List.drop_eq_nil_of_le hsize, List.append_nil]
  | succ n ih =>
    unfold ByteArray.toList.loop
    have hlt : i < bytes.data.toList.length := by
      have : bytes.data.toList.length = bytes.size := rfl
      omega
    have hbyte : bytes.get! i = bytes.data.toList[i] := by
      obtain ⟨data⟩ := bytes
      exact getElem!_pos data i hlt
    rw [if_pos (by omega), ih _ _ (by omega), List.reverse_cons, List.append_assoc, hbyte,
      List.drop_eq_getElem_cons hlt]
    rfl

/-- A text is determined by its UTF-8 bytes. -/
theorem utf8_inj {text text' : List Char}
    (h : (String.ofList text).toUTF8.toList = (String.ofList text').toUTF8.toList) : text = text' := by
  unfold ByteArray.toList at h
  simp only [byteArray_toList_loop, List.reverse_nil, List.nil_append, List.drop_zero] at h
  have hbytes : (String.ofList text).toByteArray = (String.ofList text').toByteArray :=
    ByteArray.ext (Array.toList_inj.mp h)
  exact String.ofList_inj.mp (String.toByteArray_inj.mp hbytes)

end Json
