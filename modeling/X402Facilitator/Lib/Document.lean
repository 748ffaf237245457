import X402Facilitator.Lib.Canonical

/-!
# JSON documents

A document is a JSON text as its author wrote it: an object may repeat a key. A reader of values
inserts the members of an object into a sorted map one after the other, so that the last one stays. A
reader of a structure refuses a document that repeats a field of the structure. On a value, the two
readings agree.

A value that is printed and read again is the same value, except that its floating-point numbers can
be others: neither the printer nor the reader is exact on them.
-/

namespace Members

/-- The keys stand in strictly increasing order, as in a sorted map. -/
def Sorted (members : Members) : Prop := members.Pairwise fun m m' => m.1 < m'.1

theorem Sorted.nodup {members : Members} (h : Sorted members) : (members.map (·.1)).Nodup :=
  List.pairwise_map.mpr (h.imp fun hlt => hlt.ne)

/-- What is not below the key in a sorted list is all of its rest. -/
theorem forall_dropWhile {key : String} {members : Members} (h : Sorted members) :
    ∀ m ∈ members.dropWhile (·.1 < key), key ≤ m.1 := by
  induction members with
  | nil => simp
  | cons head members ih =>
    obtain ⟨hhead, htail⟩ := List.pairwise_cons.mp h
    by_cases hlt : head.1 < key
    · rw [List.dropWhile_cons_of_pos (by simpa using hlt)]
      exact ih htail
    · rw [List.dropWhile_cons_of_neg (by simpa using hlt)]
      intro m hm
      obtain rfl | hm := List.mem_cons.mp hm
      · exact not_lt.mp hlt
      · exact (not_lt.mp hlt).trans (hhead m hm).le

theorem Sorted.insert {members : Members} (h : Sorted members) (key : String) (value : Json) :
    Sorted (insert key value members) := by
  have hothers : Sorted (members.filter (·.1 ≠ key)) := h.sublist List.filter_sublist
  have hbelow : ∀ m ∈ (members.filter (·.1 ≠ key)).takeWhile (·.1 < key), m.1 < key := by
    intro m hm
    simpa using List.mem_takeWhile_imp hm
  have habove : ∀ m ∈ (members.filter (·.1 ≠ key)).dropWhile (·.1 < key), key < m.1 := by
    intro m hm
    have hmem := (List.dropWhile_sublist _).subset hm
    exact lt_of_le_of_ne (forall_dropWhile hothers m hm)
      (by simpa using (List.mem_filter.mp hmem).2 : m.1 ≠ key).symm
  refine List.pairwise_append.mpr ⟨hothers.sublist (List.takeWhile_sublist _),
    List.pairwise_cons.mpr ⟨habove, hothers.sublist (List.dropWhile_sublist _)⟩, ?_⟩
  intro m hm m' hm'
  obtain rfl | hm' := List.mem_cons.mp hm'
  · exact hbelow m hm
  · exact (hbelow m hm).trans (habove m' hm')

theorem mem_of_mem_insert {key : String} {value : Json} {members : Members} {m : String × Json}
    (h : m ∈ insert key value members) : m = (key, value) ∨ m ∈ members := by
  rw [insert, List.mem_append, List.mem_cons] at h
  have hother {l : Members} (hl : l.Sublist (members.filter (·.1 ≠ key))) (hm : m ∈ l) :
      m ∈ members := (List.mem_filter.mp (hl.subset hm)).1
  obtain h | h | h := h
  · exact .inr (hother (List.takeWhile_sublist _) h)
  · exact .inl h
  · exact .inr (hother (List.dropWhile_sublist _) h)

/-- A key above all others goes to the end. -/
theorem insert_of_lt {key : String} {members : Members} (value : Json)
    (h : ∀ m ∈ members, m.1 < key) : insert key value members = members ++ [(key, value)] := by
  have hothers : members.filter (·.1 ≠ key) = members :=
    List.filter_eq_self.mpr fun m hm => by simpa using (h m hm).ne
  have hbelow : ∀ m ∈ members, decide (m.1 < key) = true := fun m hm => by simpa using h m hm
  rw [insert, hothers, List.takeWhile_eq_self_iff.mpr hbelow, List.dropWhile_eq_nil_iff.mpr hbelow]

theorem eq_singleton {members : Members} {key : String} {value : Json} (h : Sorted members)
    (hkeys : ∀ m ∈ members, m.1 = key) (hlookup : lookup key members = some value) :
    members = [(key, value)] := by
  match members with
  | [] => cases hlookup
  | [(key', value')] =>
    obtain rfl : key' = key := hkeys _ List.mem_cons_self
    rw [lookup_cons, if_pos rfl] at hlookup
    rw [show value' = value from Option.some.inj hlookup]
  | m :: m' :: rest =>
    have hlt := (List.pairwise_cons.mp h).1 m' List.mem_cons_self
    rw [hkeys m List.mem_cons_self, hkeys m' (List.mem_cons_of_mem _ List.mem_cons_self)] at hlt
    exact absurd hlt (lt_irrefl key)

end Members

namespace Json

mutual

/-- The value that is read from a document. -/
def fromDocument : Json → Json
  | array items => array (fromItems items)
  | object members => object (fromMembers [] members)
  | json => json

def fromItems : List Json → List Json
  | [] => []
  | item :: items => item.fromDocument :: fromItems items

/-- Insert the members into a map. -/
def fromMembers (read : Members) : Members → Members
  | [] => read
  | (key, value) :: members => fromMembers (Members.insert key value.fromDocument read) members

end

theorem lookup_fromMembers (key : String) (read members : Members) :
    Members.lookup key (fromMembers read members) =
      ((Members.lookup key members).map fromDocument).or (Members.lookup key read) := by
  induction members generalizing read with
  | nil => simp [fromMembers]
  | cons m members ih =>
    obtain ⟨key', value⟩ := m
    rw [fromMembers, ih, Members.lookup_cons]
    by_cases hkey : key' = key
    · subst hkey
      rw [Members.lookup_insert_self, if_pos rfl]
      cases Members.lookup key' members <;> rfl
    · rw [Members.lookup_insert_of_ne (Ne.symm hkey), if_neg hkey, Option.or_none]

/-- A value keeps the last member of a key. -/
theorem get?_fromDocument (key : String) (document : Json) :
    document.fromDocument.get? key = (document.get? key).map fromDocument := by
  cases document with
  | object members =>
    rw [fromDocument, get?, get?, lookup_fromMembers, Members.lookup_nil, Option.or_none]
  | _ => rfl

theorem sorted_fromMembers {read : Members} (h : Members.Sorted read) (members : Members) :
    Members.Sorted (fromMembers read members) := by
  induction members generalizing read with
  | nil => exact h
  | cons m members ih => exact ih (h.insert m.1 m.2.fromDocument)

/-- The objects of a value are sorted maps. -/
inductive IsValue : Json → Prop
  | null : IsValue null
  | bool (b : Bool) : IsValue (bool b)
  | number (n : JsonNumber) : IsValue (number n)
  | string (s : String) : IsValue (string s)
  | array {items : List Json} (h : ∀ item ∈ items, IsValue item) : IsValue (array items)
  | object {members : Members} (hsorted : Members.Sorted members)
      (h : ∀ m ∈ members, IsValue m.2) : IsValue (object members)

theorem mem_fromItems {items : List Json} {item : Json} (h : item ∈ fromItems items) :
    ∃ document ∈ items, item = document.fromDocument := by
  induction items with
  | nil => cases h
  | cons head items ih =>
    obtain rfl | h := List.mem_cons.mp h
    · exact ⟨head, List.mem_cons_self, rfl⟩
    · obtain ⟨document, hmem, heq⟩ := ih h
      exact ⟨document, List.mem_cons_of_mem _ hmem, heq⟩

theorem mem_fromMembers {read members : Members} {m : String × Json}
    (h : m ∈ fromMembers read members) :
    m ∈ read ∨ ∃ m' ∈ members, m.2 = m'.2.fromDocument := by
  induction members generalizing read with
  | nil => exact .inl h
  | cons head members ih =>
    obtain h | ⟨m', hmem, heq⟩ := ih h
    · obtain rfl | h := Members.mem_of_mem_insert h
      · exact .inr ⟨head, List.mem_cons_self, rfl⟩
      · exact .inl h
    · exact .inr ⟨m', List.mem_cons_of_mem _ hmem, heq⟩

theorem isValue_fromDocument (document : Json) : IsValue document.fromDocument := by
  induction document using Json.induction with
  | null => exact .null
  | bool b => exact .bool b
  | number n => exact .number n
  | string s => exact .string s
  | array items ih =>
    refine .array fun item h => ?_
    obtain ⟨document, hmem, rfl⟩ := mem_fromItems h
    exact ih document hmem
  | object members ih =>
    refine .object (sorted_fromMembers List.Pairwise.nil members) fun m h => ?_
    obtain h | ⟨m', hmem, heq⟩ := mem_fromMembers h
    · cases h
    · exact heq ▸ ih m' hmem

theorem fromItems_of_fixed {items : List Json} (h : ∀ item ∈ items, item.fromDocument = item) :
    fromItems items = items := by
  induction items with
  | nil => rfl
  | cons item items ih =>
    obtain ⟨hitem, hitems⟩ := List.forall_mem_cons.mp h
    rw [fromItems, hitem, ih hitems]

theorem fromMembers_of_fixed {read members : Members} (hsorted : Members.Sorted (read ++ members))
    (h : ∀ m ∈ members, m.2.fromDocument = m.2) : fromMembers read members = read ++ members := by
  induction members generalizing read with
  | nil => rw [fromMembers, List.append_nil]
  | cons m members ih =>
    obtain ⟨hm, hmembers⟩ := List.forall_mem_cons.mp h
    have hbelow : ∀ m' ∈ read, m'.1 < m.1 := fun m' hm' =>
      (List.pairwise_append.mp hsorted).2.2 m' hm' m List.mem_cons_self
    rw [fromMembers, hm, Members.insert_of_lt _ hbelow, ih _ hmembers, List.append_assoc]
    · rfl
    · simpa using hsorted

/-- Reading a value gives the value. -/
theorem IsValue.fromDocument_eq {value : Json} (h : IsValue value) : value.fromDocument = value := by
  induction value using Json.induction with
  | array items ih =>
    cases h with | array hitems =>
    rw [fromDocument, fromItems_of_fixed fun item hitem => ih item hitem (hitems item hitem)]
  | object members ih =>
    cases h with | object hsorted hmembers =>
    rw [fromDocument, fromMembers_of_fixed (by simpa using hsorted) fun m hm =>
      ih m hm (hmembers m hm), List.nil_append]
  | _ => rfl

theorem IsValue.get? {value member : Json} {key : String} (h : IsValue value)
    (hmember : value.get? key = some member) : IsValue member := by
  cases h with
  | @object members _ hmembers =>
    obtain ⟨m, hm, rfl⟩ := Option.map_eq_some_iff.mp hmember
    exact hmembers m (List.mem_reverse.mp (List.mem_of_find?_eq_some hm))
  | _ => cases hmember

theorem IsValue.map_fromDocument_lookup {members : Members} (h : IsValue (Json.object members))
    (key : String) : (members.lookup key).map fromDocument = members.lookup key := by
  cases hmember : members.lookup key with
  | none => rfl
  | some member =>
    have hvalue : IsValue member := h.get? hmember
    exact congrArg some hvalue.fromDocument_eq

/-! ## Floating-point numbers -/

mutual

/-- The value with every floating-point number replaced by one token. -/
def forgetFloats : Json → Json
  | number (.other _) => number (.other "")
  | array items => array (forgetFloatsItems items)
  | object members => object (forgetFloatsMembers members)
  | json => json

def forgetFloatsItems : List Json → List Json
  | [] => []
  | item :: items => item.forgetFloats :: forgetFloatsItems items

def forgetFloatsMembers : Members → Members
  | [] => []
  | (key, value) :: members => (key, value.forgetFloats) :: forgetFloatsMembers members

end

theorem forgetFloatsItems_eq (items : List Json) :
    forgetFloatsItems items = items.map forgetFloats := by
  induction items with
  | nil => rfl
  | cons item items ih => rw [forgetFloatsItems, ih, List.map_cons]

theorem forgetFloatsMembers_eq (members : Members) :
    forgetFloatsMembers members = members.map fun m => (m.1, m.2.forgetFloats) := by
  induction members with
  | nil => rfl
  | cons m members ih => rw [forgetFloatsMembers, ih, List.map_cons]

theorem get?_forgetFloats (key : String) (value : Json) :
    value.forgetFloats.get? key = (value.get? key).map forgetFloats := by
  match value with
  | object members =>
    rw [forgetFloats, get?, get?, forgetFloatsMembers_eq, Members.lookup, Members.lookup,
      ← List.map_reverse, List.find?_map, Option.map_map, Option.map_map]
    rfl
  | number (.other _) | number (.posInt _) | number (.negInt _) | null | bool _ | string _
  | array _ => rfl

/-- Being a value is a matter of the keys. -/
theorem isValue_forgetFloats (value : Json) : IsValue value.forgetFloats ↔ IsValue value := by
  induction value using Json.induction with
  | number n => exact ⟨fun _ => .number n, fun _ => by cases n <;> exact .number _⟩
  | array items ih =>
    rw [forgetFloats, forgetFloatsItems_eq]
    refine ⟨fun h => ?_, fun h => ?_⟩
    · cases h with | array hitems =>
      exact .array fun item hitem => (ih item hitem).mp (hitems _ (List.mem_map_of_mem hitem))
    · cases h with | array hitems =>
      exact .array (List.forall_mem_map.mpr fun item hitem => (ih item hitem).mpr (hitems item hitem))
  | object members ih =>
    have hsorted : Members.Sorted (members.map fun m => (m.1, m.2.forgetFloats)) ↔
        Members.Sorted members := List.pairwise_map
    rw [forgetFloats, forgetFloatsMembers_eq]
    refine ⟨fun h => ?_, fun h => ?_⟩
    · cases h with | object hkeys hmembers =>
      exact .object (hsorted.mp hkeys) fun m hm =>
        (ih m hm).mp (hmembers _ (List.mem_map_of_mem hm))
    · cases h with | object hkeys hmembers =>
      exact .object (hsorted.mpr hkeys)
        (List.forall_mem_map.mpr fun m hm => (ih m hm).mpr (hmembers m hm))
  | _ => rfl

/-- The values differ in nothing but floating-point numbers. -/
def SameButFloats (left right : Json) : Prop := left.forgetFloats = right.forgetFloats

namespace SameButFloats

theorem isValue {left right : Json} (h : SameButFloats left right) (hvalue : IsValue right) :
    IsValue left :=
  (isValue_forgetFloats left).mp (h ▸ (isValue_forgetFloats right).mpr hvalue)

theorem get? {left right member : Json} {key : String} (h : SameButFloats left right)
    (hmember : right.get? key = some member) :
    ∃ member', left.get? key = some member' ∧ SameButFloats member' member := by
  have hkey : (left.get? key).map forgetFloats = some member.forgetFloats := by
    rw [← get?_forgetFloats, h, get?_forgetFloats, hmember]
    rfl
  exact Option.map_eq_some_iff.mp hkey

theorem eq_string {left : Json} {s : String} (h : SameButFloats left (string s)) :
    left = string s := by
  unfold SameButFloats at h
  match left with
  | string _ => exact h
  | number (.other _) | number (.posInt _) | number (.negInt _) | null | bool _ | array _
  | object _ => cases h

theorem eq_posInt {left : Json} {n : Nat} (h : SameButFloats left (number (.posInt n))) :
    left = number (.posInt n) := by
  unfold SameButFloats at h
  match left with
  | number (.posInt _) => exact h
  | number (.other _) | number (.negInt _) | null | bool _ | string _ | array _
  | object _ => cases h

theorem eq_singleton {left : Json} {key s : String}
    (h : SameButFloats left (object [(key, string s)])) : left = object [(key, string s)] := by
  unfold SameButFloats at h
  match left with
  | object [] => cases h
  | object [(key', value)] =>
    obtain ⟨rfl, hvalue⟩ := Prod.mk.inj (List.singleton_inj.mp (Json.object.inj h))
    rw [eq_string hvalue]
  | object (_ :: _ :: _) => simp [forgetFloats, forgetFloatsMembers] at h
  | number (.other _) | number (.posInt _) | number (.negInt _) | null | bool _ | string _
  | array _ => cases h

end SameButFloats

/-- A reader of documents that reads the text of a value it has read. -/
structure Reader where
  read : List Char → Option Json
  reread : ∀ {text : List Char} {document : Json}, read text = some document →
    ∃ document', read document.fromDocument.render = some document' ∧
      SameButFloats document' document.fromDocument

/-! ## Structures -/

/-- The members of an object that repeats none of the fields, where a structure is expected. -/
def structMembers? (fields : List String) : Json → Option Members
  | object members =>
    if ((members.map (·.1)).filter (· ∈ fields)).Nodup then some members else none
  | _ => none

theorem IsValue.structMembers?_eq {value : Json} (h : IsValue value) (fields : List String) :
    structMembers? fields value = value.asObject? := by
  cases h with
  | object hsorted _ => exact if_pos (hsorted.nodup.filter _)
  | _ => rfl

end Json
