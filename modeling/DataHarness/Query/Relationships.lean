import DataHarness.Query.Planning
import DataHarness.Library.Separator

/-!
# Which relationship an identifier names

`relationship_id` writes the four names of a relationship in one text, with a dot between an asset
and its field and an arrow between the two sides, and the planner compares these texts only. A name
with one of the separators inside can make two relationships one text.
-/

namespace DataHarness

namespace RelationshipRef

/-- No name of the relationship is empty. -/
structure Named (ref : RelationshipRef) : Prop where
  leftAsset : ref.leftAsset ≠ ""
  leftField : ref.leftField ≠ ""
  rightAsset : ref.rightAsset ≠ ""
  rightField : ref.rightField ≠ ""

/-- No separator stands where another name could begin or end: no dot in an asset behind its first
letter or in a field before its last, and no arrow behind the first letter of the left field or
before the last of the right asset. -/
structure Plain (ref : RelationshipRef) : Prop where
  leftAsset : '.' ∉ ref.leftAsset.toList.tail
  leftField : '.' ∉ ref.leftField.toList.dropLast
  rightAsset : '.' ∉ ref.rightAsset.toList.tail
  rightField : '.' ∉ ref.rightField.toList.dropLast
  leftArrow : ¬ ['-', '>'] <:+: ref.leftField.toList.tail
  rightArrow : ¬ ['-', '>'] <:+: ref.rightAsset.toList.dropLast

/-- The relationship is the only one with its identifier, and the planner admits it only where it
was itself authorized. -/
structure Exact (ref : RelationshipRef) : Prop where
  alone : ∀ other : RelationshipRef, other.Named →
    other.relationshipId = ref.relationshipId → other = ref
  admitted : ∀ (intent : QueryIntent) (constraints : PlanningConstraints)
    (plan : BoundedQueryPlan) (authorized : List RelationshipRef),
      (∀ item ∈ authorized, item.Named) →
      (∀ name, name ∈ constraints.allowedRelationships ↔
        ∃ item ∈ authorized, item.relationshipId = name) →
      BoundedQueryPlanner.compile intent constraints = .ok plan →
      ref ∈ intent.relationships → ref ∈ authorized

/-- The letters of an asset and its field. -/
def side (asset field : List Char) : List Char := asset ++ '.' :: field

/-- An identifier has an arrow between two sides. -/
theorem toList_relationshipId (ref : RelationshipRef) :
    ref.relationshipId.toList = side ref.leftAsset.toList ref.leftField.toList ++
      '-' :: '>' :: side ref.rightAsset.toList ref.rightField.toList := by
  have dot : ".".toList = ['.'] := rfl
  have arrow : "->".toList = ['-', '>'] := rfl
  unfold relationshipId side
  simp only [String.toList_append, dot, arrow, List.append_assoc, List.cons_append,
    List.nil_append]

/-- A name has letters. -/
theorem letters_of_named {name : String} (filled : name ≠ "") : name.toList ≠ [] := by
  intro none
  exact filled (String.toList_eq_nil_iff.mp none)

/-- A text with letters is a name. -/
theorem named_of_letters {letters : List Char} (filled : letters ≠ []) :
    String.ofList letters ≠ "" := by
  intro none
  have same := congrArg String.toList none
  rw [String.toList_ofList] at same
  exact filled same

variable {ref : RelationshipRef}

/-- Parts that spell the identifier of a relationship are its names, when no other relationship
has the identifier. -/
theorem parts_of_alone
    (alone : ∀ other : RelationshipRef, other.Named →
      other.relationshipId = ref.relationshipId → other = ref)
    {leftAsset leftField rightAsset rightField : List Char} (one : leftAsset ≠ [])
    (two : leftField ≠ []) (three : rightAsset ≠ []) (four : rightField ≠ [])
    (letters : side leftAsset leftField ++ '-' :: '>' :: side rightAsset rightField =
      ref.relationshipId.toList) :
    (leftAsset = ref.leftAsset.toList ∧ leftField = ref.leftField.toList) ∧
      rightAsset = ref.rightAsset.toList ∧ rightField = ref.rightField.toList := by
  let other : RelationshipRef := ⟨String.ofList leftAsset, String.ofList leftField,
    String.ofList rightAsset, String.ofList rightField⟩
  have named : other.Named := ⟨named_of_letters one, named_of_letters two,
    named_of_letters three, named_of_letters four⟩
  have same : other.relationshipId = ref.relationshipId := by
    apply String.toList_injective
    rw [toList_relationshipId, ← letters]
    simp only [other, String.toList_ofList]
  have equal := alone other named same
  rw [← equal]
  simp [other]

/-- A relationship whose identifier no other has is plain. -/
theorem plain_of_alone (named : ref.Named)
    (alone : ∀ other : RelationshipRef, other.Named →
      other.relationshipId = ref.relationshipId → other = ref) : ref.Plain := by
  have one := letters_of_named named.leftAsset
  have two := letters_of_named named.leftField
  have three := letters_of_named named.rightAsset
  have four := letters_of_named named.rightField
  have spelled := toList_relationshipId ref
  have left : '.' ∉ ref.leftAsset.toList.tail ∧ '.' ∉ ref.leftField.toList.dropLast := by
    refine (Separator.unique_iff one two).mp ?_
    intro asset field filled also same
    refine (parts_of_alone alone filled also three four ?_).1
    rw [spelled, side, side, same]
    rfl
  have right : '.' ∉ ref.rightAsset.toList.tail ∧ '.' ∉ ref.rightField.toList.dropLast := by
    refine (Separator.unique_iff three four).mp ?_
    intro asset field filled also same
    refine (parts_of_alone alone one two filled also ?_).2
    rw [spelled, side, side, same]
    rfl
  refine ⟨left.1, left.2, right.1, right.2, ?_, ?_⟩
  · -- The left field ends at its arrow, and the right asset begins there.
    rintro ⟨before, after, parts⟩
    obtain ⟨c, tail, field⟩ := List.exists_cons_of_ne_nil two
    rw [field] at parts
    have parts : before ++ ['-', '>'] ++ after = tail := parts
    have letters : side ref.leftAsset.toList (c :: before) ++ '-' :: '>' ::
        side (after ++ '-' :: '>' :: ref.rightAsset.toList) ref.rightField.toList =
          ref.relationshipId.toList := by
      rw [spelled, field, ← parts]
      simp [side]
    have longer := (parts_of_alone alone one (List.cons_ne_nil _ _) (by simp) four letters).2.1
    have lengths := congrArg List.length longer
    simp only [List.length_append, List.length_cons] at lengths
    omega
  · -- The right asset begins behind its arrow, and the left field ends there.
    rintro ⟨before, after, parts⟩
    have whole : ∃ last, ref.rightAsset.toList = before ++ '-' :: '>' :: (after ++ [last]) := by
      refine ⟨ref.rightAsset.toList.getLast three, ?_⟩
      conv_lhs => rw [← List.dropLast_append_getLast three, ← parts]
      simp
    obtain ⟨last, whole⟩ := whole
    have letters : side ref.leftAsset.toList (ref.leftField.toList ++ '-' :: '>' :: before) ++
        '-' :: '>' :: side (after ++ [last]) ref.rightField.toList =
          ref.relationshipId.toList := by
      rw [spelled, whole]
      simp [side]
    have longer := (parts_of_alone alone one (by simp) (by simp) four letters).1.2
    have lengths := congrArg List.length longer
    simp only [List.length_append, List.length_cons] at lengths
    omega

/-- A plain relationship is the only one with its identifier. -/
theorem alone_of_plain (named : ref.Named) (plain : ref.Plain) (other : RelationshipRef)
    (also : other.Named) (same : other.relationshipId = ref.relationshipId) : other = ref := by
  have letters := congrArg String.toList same.symm
  rw [toList_relationshipId, toList_relationshipId] at letters
  rcases Separator.append_pair (by decide) letters with ⟨left, right⟩ | ⟨middle, _, later⟩ |
    ⟨middle, earlier, _⟩
  · -- One arrow: either side is split at its only dot.
    have lefts := (Separator.unique_iff (letters_of_named named.leftAsset)
      (letters_of_named named.leftField)).mpr ⟨plain.leftAsset, plain.leftField⟩ _ _
        (letters_of_named also.leftAsset) (letters_of_named also.leftField) left.symm
    have rights := (Separator.unique_iff (letters_of_named named.rightAsset)
      (letters_of_named named.rightField)).mpr ⟨plain.rightAsset, plain.rightField⟩ _ _
        (letters_of_named also.rightAsset) (letters_of_named also.rightField) right.symm
    cases other
    cases ref
    dsimp only at lefts rights ⊢
    simp only [String.toList_inj] at lefts rights
    simp only [mk.injEq]
    exact ⟨lefts.1, lefts.2, rights.1, rights.2⟩
  · -- The arrow of the other one is in the right side, so in the right asset.
    have later : ref.rightAsset.toList ++ '.' :: ref.rightField.toList =
        (middle ++ '-' :: '>' :: other.rightAsset.toList) ++ '.' :: other.rightField.toList := by
      rw [← side, later, side]
      simp
    obtain ⟨rest, parts⟩ := Separator.exists_front plain.rightField
      (letters_of_named also.rightField) later
    refine absurd ?_ plain.rightArrow
    have filled : other.rightAsset.toList ++ rest ≠ [] := by
      simp [letters_of_named also.rightAsset]
    refine ⟨middle, (other.rightAsset.toList ++ rest).dropLast, ?_⟩
    rw [parts]
    simp [List.dropLast_append_of_ne_nil, List.dropLast_cons_of_ne_nil, filled]
  · -- The arrow of the other one is in the left side, so in the left field.
    have earlier : ref.leftAsset.toList ++ '.' :: ref.leftField.toList =
        other.leftAsset.toList ++ '.' :: (other.leftField.toList ++ '-' :: '>' :: middle) := by
      rw [← side, earlier, side]
      simp
    obtain ⟨rest, parts⟩ := Separator.exists_back plain.leftAsset
      (letters_of_named also.leftAsset) earlier
    refine absurd ?_ plain.leftArrow
    have filled : rest ++ other.leftField.toList ≠ [] := by
      simp [letters_of_named also.leftField]
    refine ⟨(rest ++ other.leftField.toList).tail, middle, ?_⟩
    rw [parts, ← List.append_assoc, List.tail_append_of_ne_nil filled]
    simp

/-- A relationship is authorized exactly when it is plain. -/
theorem exact_iff_plain (ref : RelationshipRef) (named : ref.Named) : ref.Exact ↔ ref.Plain := by
  constructor
  · intro unmistaken
    exact plain_of_alone named unmistaken.alone
  · intro plain
    have alone := alone_of_plain named plain
    refine ⟨alone, ?_⟩
    intro intent constraints plan authorized filled allowed compiled here
    have listed := (BoundedQueryPlanner.of_compile compiled).1.related ref here
    obtain ⟨item, inside, same⟩ := (allowed _).mp listed
    rw [← alone item (filled item inside) same]
    exact inside

/-- The relationship between the orders and their parts. -/
def small : RelationshipRef := ⟨"orders", "part", "parts", "id"⟩

/-- A relationship of plain names is authorized exactly. -/
theorem small_exact : small.Named ∧ (small.Exact ↔ small.Plain) := by
  have named : small.Named := ⟨by decide, by decide, by decide, by decide⟩
  exact ⟨named, exact_iff_plain small named⟩

/-! ## One identifier for two relationships -/

/-- A relationship of an asset with its schema in front. -/
def qualified : RelationshipRef := ⟨"erp.orders", "part", "parts", "id"⟩

/-- A relationship of another asset, of which the rest is a field. -/
def nested : RelationshipRef := ⟨"erp", "orders.part", "parts", "id"⟩

/-- Constraints that allow a relationship and no fields. -/
def permitted (ref : RelationshipRef) : PlanningConstraints where
  allowedFields := .empty
  allowedRelationships := [ref.relationshipId]
  maxAssets := 2
  maxRows := 10
  maxDeadlineMs := 1000
  bounds := by decide

/-- An intent to use a relationship of two assets. -/
def wanted (ref : RelationshipRef) (differ : ref.leftAsset ≠ ref.rightAsset) : QueryIntent where
  sourceId := "erp"
  assetIds := [ref.leftAsset, ref.rightAsset]
  fields := ⟨[(ref.leftAsset, []), (ref.rightAsset, [])], by simpa using differ⟩
  filters := .empty
  relationships := [ref]
  limit := 1
  deadlineMs := 1
  purpose := "analysis"

/-- Two relationships have one identifier, and the planner admits one where only the other was
authorized. -/
theorem nested_admitted : nested.Named ∧ qualified.Named ∧ nested ≠ qualified ∧
    nested.relationshipId = qualified.relationshipId ∧
      ∃ plan, BoundedQueryPlanner.compile (wanted nested (by decide)) (permitted qualified) =
        .ok plan ∧ plan.relationships = [nested] ∧ nested ∉ [qualified] := by
  have differ : nested ≠ qualified := by
    intro same
    exact absurd (congrArg leftAsset same) (by decide)
  have named : nested.Named := ⟨by decide, by decide, by decide, by decide⟩
  have also : qualified.Named := ⟨by decide, by decide, by decide, by decide⟩
  have compiled : ∃ plan, BoundedQueryPlanner.compile (wanted nested (by decide))
      (permitted qualified) = .ok plan := exists_ok (by decide +kernel)
  obtain ⟨plan, compiled⟩ := compiled
  refine ⟨named, also, differ, by decide +kernel, plan, compiled, ?_, by simpa using differ⟩
  rw [(BoundedQueryPlanner.of_compile compiled).2]
  rfl

end RelationshipRef

end DataHarness
