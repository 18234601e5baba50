import DataHarness.Library.Json
import DataHarness.Library.Separator
import DataHarness.Library.Table

/-!
# JSON documents

What a program reads of a document depends on its canonical form only: a member of an object, the
items of an array, the text that is signed. Canonical texts have no line break, so two of them with
a line break in between are told apart.
-/

namespace Json

/-- `value[key]` of an object, none where it raises; `value.get(key)` of an object. -/
def Value.get? (value : Value) (key : String) : Option Value :=
  match value with
  | .obj members => members.lookup key
  | _ => none

/-- The items of an object. -/
def Value.members? : Value → Option (List (String × Value))
  | .obj members => some members
  | _ => none

/-- What iterating over a value gives, none where it raises. -/
def Value.iterate : Value → Option (List Value)
  | .arr items => some items
  | .obj members => some (members.map fun member => .str member.1)
  | .str text => some (text.toList.map fun c => .str (String.singleton c))
  | _ => none

/-- `value == text`. -/
def Value.isStr (value : Value) (text : String) : Bool :=
  match value with
  | .str own => own == text
  | _ => false

/-- A value is a text exactly when it equals it. -/
@[simp] theorem isStr_iff {value : Value} {text : String} :
    value.isStr text = true ↔ value = .str text := by
  cases value <;> simp [Value.isStr]

/-- A value is read as it was written: its integers have no more than so many digits, no object in it
has a key twice, and no more than so many containers are open at once. -/
inductive Readable (digits : Nat) : Nat → Value → Prop
  | null {levels : Nat} : Readable digits levels .null
  | bool {levels : Nat} (flag : Bool) : Readable digits levels (.bool flag)
  | int {levels : Nat} {number : Int} : (Nat.toDigits 10 number.natAbs).length ≤ digits →
    Readable digits levels (.int number)
  | str {levels : Nat} (text : String) : Readable digits levels (.str text)
  | arr {levels : Nat} {items : List Value} : (∀ item ∈ items, Readable digits levels item) →
    Readable digits (levels + 1) (.arr items)
  | obj {levels : Nat} {members : List (String × Value)} : (members.map Prod.fst).Nodup →
    (∀ member ∈ members, Readable digits levels member.2) →
    Readable digits (levels + 1) (.obj members)

/-! ## Canonical values -/

/-- Canonical items are the items in canonical form. -/
theorem canonicalItems_eq_map (items : List Value) : canonicalItems items = items.map canonical := by
  induction items with
  | nil => rfl
  | cons item items ih => simp [canonicalItems, ih]

/-- Members sorted by their keys. -/
def sortMembers (members : List (String × Value)) : List (String × Value) :=
  members.insertionSort fun a b => a.1 ≤ b.1

/-- Sorting members keeps them. -/
theorem perm_sortMembers (members : List (String × Value)) : (sortMembers members).Perm members :=
  List.perm_insertionSort _ _

/-- Members in order stay in order. -/
theorem sortMembers_idem (members : List (String × Value)) :
    sortMembers (sortMembers members) = sortMembers members := by
  apply List.Pairwise.insertionSort_eq
  exact List.pairwise_insertionSort _ _

/-- An object in canonical form. -/
theorem canonical_obj (members : List (String × Value)) :
    canonical (.obj members) = .obj (sortMembers (canonicalMembers members)) := by
  rw [canonical]
  rfl

/-- A canonical list of members in canonical form is sorted only. -/
theorem canonicalMembers_sort (members : List (String × Value))
    (fixed : ∀ member ∈ members, canonical member.2 = member.2) :
    canonicalMembers (sortMembers members) = sortMembers members := by
  rw [canonicalMembers_eq_map]
  nth_rewrite 2 [← List.map_id (sortMembers members)]
  apply List.map_congr_left
  intro member inside
  have among := (perm_sortMembers members).mem_iff.mp inside
  exact Prod.ext rfl (fixed member among)

mutual

/-- The canonical form of a canonical value is the value. -/
theorem canonical_canonical : (value : Value) → canonical (canonical value) = canonical value
  | .null => by simp [canonical]
  | .bool _ => by simp [canonical]
  | .int _ => by simp [canonical]
  | .float _ => by simp [canonical]
  | .str _ => by simp [canonical]
  | .arr items => by
    simp only [canonical]
    rw [canonicalItems_idem items]
  | .obj members => by
    rw [canonical_obj, canonical_obj, canonicalMembers_sort _ (canonicalMembers_fixed members),
      sortMembers_idem]

/-- Canonical items stay as they are. -/
theorem canonicalItems_idem : (items : List Value) →
    canonicalItems (canonicalItems items) = canonicalItems items
  | [] => rfl
  | item :: items => by
    simp only [canonicalItems]
    rw [canonical_canonical item, canonicalItems_idem items]

/-- The values of canonical members stay as they are. -/
theorem canonicalMembers_fixed : (members : List (String × Value)) →
    ∀ member ∈ canonicalMembers members, canonical member.2 = member.2
  | [] => fun _ none => nomatch none
  | member :: members => by
    intro other inside
    simp only [canonicalMembers, List.mem_cons] at inside
    rcases inside with rfl | rest
    · exact canonical_canonical member.2
    · exact canonicalMembers_fixed members other rest

end

/-- A value and its canonical form have one text. -/
@[simp] theorem dumps_canonical (value : Value) : dumps (canonical value) = dumps value := by
  unfold dumps
  rw [canonical_canonical]

/-- A member of an object in canonical form is that of the object in canonical form. -/
theorem get?_canonical {members : List (String × Value)}
    (distinct : (members.map Prod.fst).Nodup) (key : String) :
    (canonical (.obj members)).get? key = (members.lookup key).map canonical := by
  have keys : (canonicalMembers members).map Prod.fst = members.map Prod.fst := by
    rw [canonicalMembers_eq_map, List.map_map]
    rfl
  have sorted : ((sortMembers (canonicalMembers members)).map Prod.fst).Nodup := by
    rw [((perm_sortMembers _).map Prod.fst).nodup_iff, keys]
    exact distinct
  rw [canonical_obj]
  apply Option.ext
  intro value
  change (sortMembers (canonicalMembers members)).lookup key = some value ↔ _
  rw [Table.lookup_iff_mem sorted, (perm_sortMembers _).mem_iff, canonicalMembers_eq_map,
    List.mem_map, Option.map_eq_some_iff]
  constructor
  · rintro ⟨member, inside, same⟩
    obtain ⟨rfl, rfl⟩ := Prod.mk.inj same
    exact ⟨member.2, (Table.lookup_iff_mem distinct).mpr inside, rfl⟩
  · rintro ⟨own, found, rfl⟩
    exact ⟨(key, own), (Table.lookup_iff_mem distinct).mp found, rfl⟩

/-- A value with the canonical form of an object has members with the canonical forms of its
members. -/
theorem member_of_canonical {value : Value} {members : List (String × Value)}
    (same : canonical value = canonical (.obj members)) {key : String} {own : Value}
    (found : value.get? key = some own) :
    ∃ other, (key, other) ∈ members ∧ canonical own = canonical other := by
  cases value with
  | obj mine =>
    have inside : (key, own) ∈ mine := Table.mem_of_lookup found
    have moved := (members_of_canonical same (key, canonical own)).mp (by
      rw [canonicalMembers_eq_map]
      exact List.mem_map.mpr ⟨(key, own), inside, rfl⟩)
    rw [canonicalMembers_eq_map, List.mem_map] at moved
    obtain ⟨other, listed, equal⟩ := moved
    obtain ⟨rfl, value⟩ := Prod.mk.inj equal
    exact ⟨other.2, listed, value.symm⟩
  | _ => cases found

/-- Objects with one canonical form have the same text members. -/
theorem str_members_iff {left right : List (String × Value)}
    (same : canonical (.obj left) = canonical (.obj right)) {name text : String} :
    (name, Value.str text) ∈ left ↔ (name, Value.str text) ∈ right :=
  ⟨str_member_of_canonical same, str_member_of_canonical same.symm⟩

/-! ## Lines -/

/-- No control character is in the text. -/
def Printable (text : List Char) : Prop := ∀ c ∈ text, 32 ≤ c.toNat

/-- A text whose characters are seen to be printable is. -/
theorem printable_of_all {text : List Char}
    (seen : (text.all fun c => decide (32 ≤ c.toNat)) = true) : Printable text := by
  intro c member
  exact of_decide_eq_true (List.all_eq_true.mp seen c member)

/-- Hexadecimal digits are printable. -/
theorem printable_hexDigit : ∀ n < 16, 32 ≤ (hexDigit n).toNat := by decide

/-- An escaped code unit is printable. -/
theorem printable_unit (n : Nat) : Printable (unit n) := by
  intro c member
  simp only [unit, List.mem_cons, List.not_mem_nil, or_false] at member
  rcases member with rfl | rfl | rfl | rfl | rfl | rfl
  · decide
  · decide
  all_goals exact printable_hexDigit _ (by omega)

/-- Texts in order are printable when each of them is. -/
theorem Printable.append {left right : List Char} (first : Printable left)
    (second : Printable right) : Printable (left ++ right) := by
  intro c member
  rcases List.mem_append.mp member with inside | inside
  · exact first c inside
  · exact second c inside

/-- A printable text after a printable character. -/
theorem Printable.cons {c : Char} {text : List Char} (first : 32 ≤ c.toNat)
    (rest : Printable text) : Printable (c :: text) := by
  intro other member
  rcases List.mem_cons.mp member with rfl | inside
  · exact first
  · exact rest other inside

/-- An escaped character is printable. -/
theorem printable_escape (c : Char) : Printable (escape c) := by
  have short : ∀ d : Char, 32 ≤ d.toNat → Printable ['\\', d] := by
    intro d printable
    exact .cons (by decide) (.cons printable fun _ none => nomatch none)
  unfold escape
  split
  · exact short _ (by decide)
  split
  · exact short _ (by decide)
  split
  · exact short _ (by decide)
  split
  · exact short _ (by decide)
  split
  · exact short _ (by decide)
  split
  · exact short _ (by decide)
  split
  · exact short _ (by decide)
  split
  · rename_i plain
    exact .cons plain.1 fun _ none => nomatch none
  split
  · exact printable_unit _
  · exact (printable_unit _).append (printable_unit _)

/-- A quoted text is printable. -/
theorem printable_quote (text : String) : Printable (quote text) := by
  have tail : ∀ cs, Printable (quoteTail cs) := by
    intro cs
    induction cs with
    | nil => exact .cons (by decide) fun _ none => nomatch none
    | cons c cs ih => exact (printable_escape c).append ih
  exact .cons (by decide) (tail _)

/-- A digit is printable. -/
theorem printable_digit {c : Char} (digit : c.isDigit = true) : 32 ≤ c.toNat := by
  unfold Char.isDigit at digit
  rw [Bool.and_eq_true, decide_eq_true_eq] at digit
  have low : (48 : UInt32).toNat ≤ c.val.toNat := UInt32.le_iff_toNat_le.mp digit.1
  have four : (48 : UInt32).toNat = 48 := rfl
  have value : c.val.toNat = c.toNat := rfl
  omega

/-- A written number is printable. -/
theorem printable_number {c : Char} (number : isNumberChar c = true) : 32 ≤ c.toNat := by
  unfold isNumberChar at number
  rw [Bool.or_eq_true, decide_eq_true_eq] at number
  rcases number with digit | other
  · exact printable_digit digit
  · simp only [List.mem_cons, List.not_mem_nil, or_false] at other
    rcases other with rfl | rfl | rfl | rfl | rfl | rfl | rfl | rfl | rfl | rfl | rfl | rfl <;>
      decide

mutual

/-- A written value is printable. -/
theorem printable_render : (value : Value) → Printable (render value)
  | .null => by unfold render; exact printable_of_all (by decide)
  | .bool true => by unfold render; exact printable_of_all (by decide)
  | .bool false => by unfold render; exact printable_of_all (by decide)
  | .int n => by
    rw [render]
    exact fun c member => printable_number (isNumberChar_of_integer (integer_chars n c member))
  | .float x => by
    rw [render]
    exact fun c member => printable_number (x.number c member)
  | .str s => by
    rw [render]
    exact printable_quote s
  | .arr [] => by unfold render; exact printable_of_all (by decide)
  | .arr (item :: items) => by
    rw [render]
    exact .cons (by decide) ((printable_render item).append (printable_items items))
  | .obj [] => by unfold render; exact printable_of_all (by decide)
  | .obj (member :: members) => by
    rw [render]
    exact .cons (by decide) ((printable_quote _).append
      (.cons (by decide) ((printable_render member.2).append (printable_members members))))

/-- Written items are printable. -/
theorem printable_items : (items : List Value) → Printable (renderItems items)
  | [] => by unfold renderItems; exact printable_of_all (by decide)
  | item :: items => by
    rw [renderItems]
    exact .cons (by decide) ((printable_render item).append (printable_items items))

/-- Written members are printable. -/
theorem printable_members : (members : List (String × Value)) → Printable (renderMembers members)
  | [] => by unfold renderMembers; exact printable_of_all (by decide)
  | member :: members => by
    rw [renderMembers]
    exact .cons (by decide) ((printable_quote _).append
      (.cons (by decide) ((printable_render member.2).append (printable_members members))))

end

/-- The text of a value is one line. -/
theorem newline_notMem_dumps (value : Value) : '\n' ∉ (dumps value).toList := by
  intro member
  unfold dumps at member
  rw [String.toList_ofList] at member
  exact absurd (printable_render _ _ member) (by decide)

/-- Two documents, the texts of which are joined by a line break, are told apart. -/
theorem lines_injective {first second other next : Value}
    (same : dumps first ++ "\n" ++ dumps second = dumps other ++ "\n" ++ dumps next) :
    canonical first = canonical other ∧ canonical second = canonical next := by
  have text := congrArg String.toList same
  simp only [String.toList_append, List.append_assoc] at text
  have parts := Separator.append_cancel (newline_notMem_dumps first) (newline_notMem_dumps other)
    (show _ ++ '\n' :: _ = _ ++ '\n' :: _ from text)
  exact ⟨dumps_injective (String.toList_injective parts.1),
    dumps_injective (String.toList_injective parts.2)⟩

end Json
