import DataHarness.Library.JsonRoundTrip
import DataHarness.Decode.Loads

/-!
# Loading what was dumped

`json.loads` gives back what `json.dumps` wrote: the value itself, or, with sorted keys, the value
with the members of its objects sorted. What it takes is that the value nests no deeper than the
interpreter reads, that no object of it holds a key twice, and that its numbers are read back:
integers of at most 4300 digits, and floats whose text `float` reads as the same float.
-/

namespace DataHarness

variable [Interpreter]

/-- A value is read back, but for what is within it. -/
def ReadBack (hook : Bool) : Json.Value → Prop
  | .int n => (Nat.toDigits 10 n.natAbs).length ≤ maxStrDigits
  | .float x => ∃ literal, Json.spelled x.text.toList = some literal ∧
      refused hook literal = false ∧ literalValue literal = .float x
  | .obj members => (members.map Prod.fst).Nodup
  | _ => True

/-- A value that `json.loads` gives back. -/
structure Loadable (hook : Bool) (value : Json.Value) : Prop where
  each : Json.Each (ReadBack hook) value
  nested : Json.depth value ≤ maxNesting

mutual

/-- A value that is read back is written. -/
theorem writable_of_each {hook : Bool} : (value : Json.Value) →
    Json.Each (ReadBack hook) value → writable value = true
  | .null, _ => rfl
  | .bool _, _ => rfl
  | .int n, short => by
    have short : (Nat.toDigits 10 n.natAbs).length ≤ maxStrDigits := short
    simp only [writable, longInteger, Bool.not_eq_true', decide_eq_false_iff_not, not_lt]
    exact short
  | .float _, _ => rfl
  | .str _, _ => rfl
  | .arr items, each => writable_of_eachItem items each.2
  | .obj members, each => writable_of_eachMember members each.2

/-- Items that are read back are written. -/
theorem writable_of_eachItem {hook : Bool} : (items : List Json.Value) →
    Json.EachItem (ReadBack hook) items → writableItems items = true
  | [], _ => rfl
  | item :: items, each => by
    rw [writableItems, writable_of_each item each.1, writable_of_eachItem items each.2]
    rfl

/-- Members that are read back are written. -/
theorem writable_of_eachMember {hook : Bool} : (members : List (String × Json.Value)) →
    Json.EachMember (ReadBack hook) members → writableMembers members = true
  | [], _ => rfl
  | member :: members, each => by
    rw [writableMembers, writable_of_each member.2 each.1, writable_of_eachMember members each.2]
    rfl

end

section Trees

variable {hook : Bool}

/-- What is read back is spelled. -/
theorem spelled_of_readBack {value : Json.Value} (back : ReadBack hook value) :
    Json.Spelled value := by
  cases value with
  | float x =>
    obtain ⟨literal, spells, -⟩ := back
    exact Option.isSome_iff_exists.mpr ⟨literal, spells⟩
  | obj members => exact back
  | _ => trivial

/-- Sorting keeps what is read back. -/
theorem readBack_canonical (value : Json.Value) (back : ReadBack hook value) :
    ReadBack hook (Json.canonical value) := by
  cases value with
  | obj members =>
    rw [Json.canonical]
    exact Json.nodup_canonical back
  | arr items => rw [Json.canonical]; trivial
  | _ => exact back

/-- The literal of a float that is read back. -/
theorem literal_of_readBack {x : Json.FloatText} (back : ReadBack hook (.float x)) :
    refused hook x.literal = false ∧ literalValue x.literal = .float x := by
  obtain ⟨literal, spells, fine, same⟩ := back
  have own : x.literal = literal := by
    unfold Json.FloatText.literal
    rw [spells]
    rfl
  rw [own]
  exact ⟨fine, same⟩

mutual

/-- The tree of a value has that value. -/
theorem treeValue_treeOf (value : Json.Value) (back : Json.Each (ReadBack hook) value) :
    treeValue (Json.treeOf value) = value := by
  cases value with
  | null => rfl
  | bool flag => rfl
  | int n => exact congrArg Json.Value.int (Json.toInt_numeralOf n)
  | float x => exact (literal_of_readBack back).2
  | str text => rfl
  | arr items => exact congrArg Json.Value.arr (treeValues_itemTrees items back.2)
  | obj members => exact congrArg Json.Value.obj (memberValues_memberTrees members back.2)

/-- The trees of items have those values. -/
theorem treeValues_itemTrees (items : List Json.Value)
    (back : Json.EachItem (ReadBack hook) items) :
    treeValues (Json.itemTrees items) = items := by
  cases items with
  | nil => rfl
  | cons item items =>
    rw [Json.itemTrees, treeValues, treeValue_treeOf item back.1, treeValues_itemTrees items back.2]

/-- The trees of members have those values. -/
theorem memberValues_memberTrees (members : List (String × Json.Value))
    (back : Json.EachMember (ReadBack hook) members) :
    memberValues (Json.memberTrees members) = members := by
  cases members with
  | nil => rfl
  | cons member members =>
    rw [Json.memberTrees, memberValues, Json.textOf_pointsOf, treeValue_treeOf member.2 back.1,
      memberValues_memberTrees members back.2]

end

mutual

/-- No literal of a value is refused. -/
theorem unrefused_literalsOf (value : Json.Value) (back : Json.Each (ReadBack hook) value) :
    ∀ literal ∈ Json.literalsOf value, refused hook literal = false := by
  intro literal member
  cases value with
  | null => cases member
  | bool flag => cases member
  | int n =>
    obtain rfl := List.mem_singleton.mp member
    have short : (Nat.toDigits 10 n.natAbs).length ≤ maxStrDigits := back
    have fits : decide (maxStrDigits < (Json.numeralOf n).whole.length) = false :=
      decide_eq_false (Nat.not_lt.mpr short)
    rw [refused, fits, Bool.and_false]
  | float x =>
    obtain rfl := List.mem_singleton.mp member
    exact (literal_of_readBack back).1
  | str text => cases member
  | arr items => exact unrefused_literalsOfItems items back.2 literal member
  | obj members => exact unrefused_literalsOfMembers members back.2 literal member

/-- No literal of items is refused. -/
theorem unrefused_literalsOfItems (items : List Json.Value)
    (back : Json.EachItem (ReadBack hook) items) :
    ∀ literal ∈ Json.literalsOfItems items, refused hook literal = false := by
  intro literal member
  cases items with
  | nil => cases member
  | cons item items =>
    rcases List.mem_append.mp member with first | later
    · exact unrefused_literalsOf item back.1 literal first
    · exact unrefused_literalsOfItems items back.2 literal later

/-- No literal of members is refused. -/
theorem unrefused_literalsOfMembers (members : List (String × Json.Value))
    (back : Json.EachMember (ReadBack hook) members) :
    ∀ literal ∈ Json.literalsOfMembers members, refused hook literal = false := by
  intro literal inside
  cases members with
  | nil => cases inside
  | cons member members =>
    rcases List.mem_append.mp inside with first | later
    · exact unrefused_literalsOf member.2 back.1 literal first
    · exact unrefused_literalsOfMembers members back.2 literal later

end

/-- A written value, with white space behind it, is loaded as itself. -/
theorem loads_render {value : Json.Value} (loadable : Loadable hook value) {blank : List Char}
    (white : ∀ c ∈ blank, Json.isWhite c = true) :
    loads hook (String.ofList (Json.render value ++ blank)) = .ok value := by
  have spelled : Json.Each Json.Spelled value :=
    Json.Each.imp (fun _ => spelled_of_readBack) value loadable.each
  have scanned : Json.scan maxNesting (String.ofList (Json.render value ++ blank)).toList =
      ⟨Json.literalsOf value, .ok (Json.treeOf value)⟩ := by
    rw [String.toList_ofList]
    exact Json.scan_render spelled loadable.nested white
  have fine : (Json.literalsOf value).find? (refused hook) = none := by
    rw [List.find?_eq_none]
    intro literal member
    rw [unrefused_literalsOf value loadable.each literal member]
    exact Bool.false_ne_true
  refine loads_eq_ok.mpr ?_
  rw [scanned]
  exact ⟨fine, _, rfl, (treeValue_treeOf value loadable.each).symm⟩

/-- A sorted value is loadable as it was. -/
theorem Loadable.canonical {value : Json.Value} (loadable : Loadable hook value) :
    Loadable hook (Json.canonical value) :=
  ⟨Json.Each.canonical readBack_canonical value loadable.each,
    (Json.depth_canonical value).trans loadable.nested⟩

end Trees

end DataHarness
