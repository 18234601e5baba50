import DataHarness.Edge.Profiles
import DataHarness.Library.Guarded

/-!
# Payloads of actions

A caller writes the identity, the key, the parameters, the preconditions and the compensation of an
action. Both adapters read them alike, as dictionaries of scalars and the texts of what is no text,
and give the action model the same values; what is said here of a payload holds at either edge.
Writing such a text may raise, and so may the digest of the plan; that is told of the payload too.
-/

namespace DataHarness

/-! ## Reading mappings -/

/-- A string that is among the string keys has an item. -/
theorem lookupKey_of_stringKeys {α : Type} {entries : List (PyKey × α)} {keys : List String}
    {key : String} (strings : stringKeys entries = some keys) (member : key ∈ keys) :
    ∃ value, lookupKey key entries = some value := by
  induction entries generalizing keys with
  | nil =>
    rw [← Option.some.inj strings] at member
    cases member
  | cons item entries ih =>
    unfold stringKeys at strings
    unfold lookupKey
    by_cases same : item.1 = .str key
    · rw [if_pos same]
      exact ⟨item.2, rfl⟩
    · rw [if_neg same]
      split at strings
      · rename_i text rest own others
        rw [← Option.some.inj strings, List.mem_cons] at member
        rcases member with here | later
        · rw [here] at same
          exact absurd own same
        · exact ih others later
      · cases strings

/-- A mapping with exact keys has an item under each of them. -/
theorem lookupKey_of_keysEqual {α : Type} {entries : List (PyKey × α)} {texts : List String}
    {key : String} (exact : keysEqual entries texts = true) (member : key ∈ texts) :
    ∃ value, lookupKey key entries = some value := by
  unfold keysEqual at exact
  split at exact
  · rename_i keys strings
    rw [Bool.and_eq_true, subset_iff, subset_iff] at exact
    exact lookupKey_of_stringKeys strings (exact.2 key member)
  · cases exact

/-- An item that is there is read. -/
theorem Untrusted.item_eq_ok {mapping : Untrusted} {key : String} {value : PyValue}
    (found : lookupKey key mapping = some value) : mapping.item key = .ok value := by
  unfold item
  rw [found]

/-- An item that is not there raises a `KeyError`. -/
theorem Untrusted.item_eq_error {mapping : Untrusted} {key : String}
    (missing : lookupKey key mapping = none) : mapping.item key = .error (.keyError key) := by
  unfold item
  rw [missing]

/-- An item is read exactly when it is there. -/
theorem Untrusted.item_iff {mapping : Untrusted} {key : String} {value : PyValue} :
    mapping.item key = .ok value ↔ lookupKey key mapping = some value :=
  ⟨Untrusted.of_item, Untrusted.item_eq_ok⟩

/-- A value goes on to what follows it. -/
theorem ok_bind {ε α β : Type} {value : α} {next : α → Except ε β} :
    (Except.ok value >>= next) = next value := rfl

/-- What is constructed is what was made. -/
theorem construct_iff {α : Type} {made : Except String α} {value : α} :
    construct made = .ok value ↔ made = .ok value := by
  constructor
  · exact of_construct
  · rintro rfl
    rfl

/-! ## Writing texts -/

/-- `str(value)` raises an exception that `except (TypeError, ValueError)` does not catch. -/
def PyValue.Escapes (value : PyValue) : Prop :=
  ∃ failure, value.told = .error failure ∧ ¬ failure.Caught

/-- The text of a value is written exactly when `str(value)` gives one. -/
theorem exists_written_iff {value : PyValue} :
    (∃ text, written value.told = .ok text) ↔ value.Written := by
  simp only [written_eq_ok, PyValue.Written]

/-- What raises gives no text. -/
theorem PyValue.Raises.not_written {value : PyValue} (raises : value.Raises) : ¬ value.Written := by
  rintro ⟨text, told⟩
  obtain ⟨failure, failed⟩ := raises
  rw [told] at failed
  cases failed

/-- A text is written without a break unless `str(value)` raises what is of no kind. -/
theorem written_guarded {kind : AdapterError → Prop} {value : PyValue} :
    Guarded kind (written value.told) ↔
      ¬ ∃ failure, value.told = .error failure ∧ ¬ kind (.ofWrite failure) := by
  unfold written
  rw [Guarded.mapError]
  unfold Guarded
  push Not
  rfl

/-! ## Objects of scalars -/

/-- A non-empty object of scalars. -/
def ScalarObject (value : Option PyValue) : Prop :=
  ∃ entries text, value = some (.mapping entries text) ∧ entries ≠ [] ∧
    ∀ entry ∈ entries, (∃ name, entry.1 = .str name) ∧ entry.2.scalar?.isSome = true

/-- A dictionary in which a key was set is not empty. -/
theorem Dict.set_ne_nil {α : Type} (dict : Dict α) (key : String) (value : α) :
    (dict.set key value).entries ≠ [] := by
  intro empty
  have found := dict.get?_set key value key
  rw [if_pos rfl] at found
  unfold Dict.get? at found
  rw [empty] at found
  cases found

/-- Nor is one in which more keys were set. -/
theorem Dict.foldl_set_ne_nil {α : Type} {items : List (String × α)} {dict : Dict α}
    (some : dict.entries ≠ [] ∨ items ≠ []) :
    (items.foldl (fun result entry => result.set entry.1 entry.2) dict).entries ≠ [] := by
  induction items generalizing dict with
  | nil =>
    rcases some with filled | nothing
    · exact filled
    · exact absurd rfl nothing
  | cons item items ih => exact ih (.inl (dict.set_ne_nil item.1 item.2))

/-- An object of scalars and the dictionary of its items. -/
def PyValue.Reads (value : PyValue) (dict : Dict Scalar) : Prop :=
  ∃ entries text items, value = .mapping entries text ∧
    NorthboundActionAdapter.scalarItems entries = some items ∧
      items.foldl (fun result entry => result.set entry.1 entry.2) .empty = dict

/-- A value is read as one dictionary only. -/
theorem PyValue.Reads.unique {value : PyValue} {one other : Dict Scalar} (first : value.Reads one)
    (second : value.Reads other) : one = other := by
  obtain ⟨entries, text, items, rfl, read, rfl⟩ := first
  obtain ⟨_, _, again, same, also, rfl⟩ := second
  obtain ⟨rfl, rfl⟩ := PyValue.mapping.inj same
  rw [read] at also
  rw [Option.some.inj also]

namespace NorthboundActionAdapter

/-- The items of a mapping are scalars exactly when each of them is. -/
theorem scalarItems_iff {entries : Untrusted} :
    (∃ items, scalarItems entries = some items) ↔
      ∀ entry ∈ entries, (∃ name, entry.1 = .str name) ∧ entry.2.scalar?.isSome = true := by
  induction entries with
  | nil => simp [scalarItems]
  | cons entry entries ih =>
    obtain ⟨key, item⟩ := entry
    rw [List.forall_mem_cons, ← ih]
    cases key with
    | other text => simp [scalarItems]
    | str name =>
      cases scalar : item.scalar? with
      | none => simp [scalarItems, scalar]
      | some own =>
        cases others : scalarItems entries with
        | none => simp [scalarItems, scalar, others]
        | some rest => simp [scalarItems, scalar, others]

/-- There are as many of them as the mapping has. -/
theorem length_of_scalarItems {entries : Untrusted} {items : List (String × Scalar)}
    (read : scalarItems entries = some items) : items.length = entries.length := by
  induction entries generalizing items with
  | nil =>
    rw [← Option.some.inj read]
    rfl
  | cons entry entries ih =>
    obtain ⟨key, item⟩ := entry
    cases key with
    | other text => cases read
    | str name =>
      cases scalar : item.scalar? with
      | none => simp [scalarItems, scalar] at read
      | some own =>
        cases others : scalarItems entries with
        | none => simp [scalarItems, scalar, others] at read
        | some rest =>
          have same : (name, own) :: rest = items := by
            simpa [scalarItems, scalar, others] using read
          rw [← same, List.length_cons, List.length_cons, ih others]

/-- A mapping of scalars goes through for the non-empty objects of scalars. -/
theorem scalarMapping_iff {value : PyValue} {name : String} :
    (∃ dict, scalarMapping value name = .ok dict) ↔ ScalarObject (some value) := by
  unfold scalarMapping ScalarObject
  split
  · rename_i item items text
    constructor
    · intro ⟨dict, made⟩
      split at made
      · rename_i entries read
        exact ⟨_, _, rfl, List.cons_ne_nil _ _, scalarItems_iff.mp ⟨entries, read⟩⟩
      · cases made
    · intro ⟨entries, other, same, _, scalars⟩
      obtain ⟨rfl, rfl⟩ := PyValue.mapping.inj (Option.some.inj same)
      obtain ⟨read, found⟩ := scalarItems_iff.mpr scalars
      rw [found]
      exact ⟨_, rfl⟩
  · rename_i other
    constructor
    · intro ⟨dict, made⟩
      cases made
    · intro ⟨entries, text, same, filled, _⟩
      cases entries with
      | nil => exact absurd rfl filled
      | cons item items => exact absurd (Option.some.inj same) (other item items text)

/-- What goes through is not empty. -/
theorem ne_nil_of_scalarMapping {value : PyValue} {name : String} {dict : Dict Scalar}
    (made : scalarMapping value name = .ok dict) : dict.entries ≠ [] := by
  unfold scalarMapping at made
  split at made
  · split at made
    · rename_i entries read
      rw [← Except.ok.inj made]
      apply Dict.foldl_set_ne_nil
      right
      intro empty
      have count := length_of_scalarItems read
      rw [empty] at count
      cases count
    · cases made
  · cases made

/-- A mapping of scalars is what the object reads as, when that is not empty. -/
theorem scalarMapping_eq_ok {value : PyValue} {name : String} {dict : Dict Scalar} :
    scalarMapping value name = .ok dict ↔ value.Reads dict ∧ dict.entries ≠ [] := by
  constructor
  · intro made
    refine ⟨?_, ne_nil_of_scalarMapping made⟩
    unfold scalarMapping at made
    split at made
    · split at made
      · rename_i items read
        exact ⟨_, _, items, rfl, read, Except.ok.inj made⟩
      · cases made
    · cases made
  · rintro ⟨⟨entries, text, items, rfl, read, rfl⟩, filled⟩
    cases entries with
    | nil =>
      obtain rfl := Option.some.inj read
      exact absurd rfl filled
    | cons entry entries =>
      unfold scalarMapping
      dsimp only
      rw [read]

end NorthboundActionAdapter

/-- A non-empty dictionary is read of the non-empty objects of scalars. -/
theorem exists_reads_iff {value : PyValue} :
    (∃ dict, value.Reads dict ∧ dict.entries ≠ []) ↔ ScalarObject (some value) := by
  rw [← @NorthboundActionAdapter.scalarMapping_iff value ""]
  simp only [NorthboundActionAdapter.scalarMapping_eq_ok]

/-! ## Compensations -/

/-- The compensation that a value declares, none where it is missing or null. -/
def Declares (value : Option PyValue) (declared : Option CompensationSpec) : Prop :=
  ((value = none ∨ value = some .none) ∧ declared = none) ∨
    ∃ data text operation given needed name parameters preconditions spec,
      value = some (.mapping data text) ∧
      keysEqual data ["operation", "parameters", "preconditions"] = true ∧
      lookupKey "operation" data = some operation ∧ lookupKey "parameters" data = some given ∧
      lookupKey "preconditions" data = some needed ∧ given.Reads parameters ∧
      needed.Reads preconditions ∧
      operation.told = .ok name ∧ CompensationSpec.make name parameters preconditions = .ok spec ∧
      declared = some spec

/-- A value declares one compensation only. -/
theorem Declares.unique {value : Option PyValue} {one other : Option CompensationSpec}
    (first : Declares value one) (second : Declares value other) : one = other := by
  rcases first with ⟨missing, rfl⟩ | ⟨data, text, operation, given, needed, name, parameters,
    preconditions, spec, rfl, _, named, parametrized, conditioned, reads, checks, told, made, rfl⟩
  · rcases second with ⟨_, rfl⟩ | ⟨data, text, _, _, _, _, _, _, _, written, _⟩
    · rfl
    · rw [written] at missing
      simp at missing
  · rcases second with ⟨missing, _⟩ | ⟨_, _, _, _, _, _, _, _, _, written, _, also, again, too, same,
      equal, retold, remade, rfl⟩
    · simp at missing
    · obtain ⟨rfl, rfl⟩ := PyValue.mapping.inj (Option.some.inj written)
      rw [named] at also
      rw [parametrized] at again
      rw [conditioned] at too
      obtain rfl := Option.some.inj also
      obtain rfl := Option.some.inj again
      obtain rfl := Option.some.inj too
      obtain rfl := reads.unique same
      obtain rfl := checks.unique equal
      rw [told] at retold
      obtain rfl := Except.ok.inj retold
      rw [made] at remade
      rw [Except.ok.inj remade]

/-- A missing compensation and a null one declare none. -/
theorem declares_of_missing {value : Option PyValue} {declared : Option CompensationSpec}
    (missing : value = none ∨ value = some .none) :
    Declares value declared ↔ declared = none := by
  constructor
  · rintro (⟨_, same⟩ | ⟨data, text, _, _, _, _, _, _, _, written, _⟩)
    · exact same
    · rw [written] at missing
      simp at missing
  · intro same
    exact .inl ⟨missing, same⟩

/-- An object declares the compensation of its three members, when it has no others. -/
theorem declares_mapping_iff {data : Untrusted} {text : Told}
    {declared : Option CompensationSpec} :
    Declares (some (.mapping data text)) declared ↔
      keysEqual data ["operation", "parameters", "preconditions"] = true ∧
        ∃ operation given needed name parameters preconditions spec,
          lookupKey "operation" data = some operation ∧ lookupKey "parameters" data = some given ∧
          lookupKey "preconditions" data = some needed ∧ given.Reads parameters ∧
          needed.Reads preconditions ∧
          operation.told = .ok name ∧
          CompensationSpec.make name parameters preconditions = .ok spec ∧ declared = some spec := by
  constructor
  · rintro (⟨missing, _⟩ | ⟨_, _, operation, given, needed, name, parameters, preconditions, spec,
      written, shape, rest⟩)
    · simp at missing
    · obtain ⟨rfl, rfl⟩ := PyValue.mapping.inj (Option.some.inj written)
      exact ⟨shape, operation, given, needed, name, parameters, preconditions, spec, rest⟩
  · rintro ⟨shape, operation, given, needed, name, parameters, preconditions, spec, rest⟩
    exact .inr ⟨data, text, operation, given, needed, name, parameters, preconditions, spec, rfl,
      shape, rest⟩

/-- What is neither missing, null nor an object declares nothing. -/
theorem not_declares {value : Option PyValue} {declared : Option CompensationSpec}
    (absent : value ≠ none) (null : value ≠ some .none)
    (unstructured : ∀ data text, value ≠ some (.mapping data text)) :
    ¬ Declares value declared := by
  rintro (⟨missing | missing, _⟩ | ⟨data, text, _, _, _, _, _, _, _, written, _⟩)
  · exact absent missing
  · exact null missing
  · exact unstructured data text written

/-- A compensation that is missing or null, or has its three parts, none of them empty. -/
def CompensationAcceptable (value : Option PyValue) : Prop :=
  value = none ∨ value = some .none ∨ ∃ data text, value = some (.mapping data text) ∧
    keysEqual data ["operation", "parameters", "preconditions"] = true ∧
    (∃ operation name, lookupKey "operation" data = some operation ∧
      operation.told = .ok name ∧ name ≠ "") ∧
    ScalarObject (lookupKey "parameters" data) ∧ ScalarObject (lookupKey "preconditions" data)

/-- A compensation is declared, or none is, exactly when the value is acceptable. -/
theorem exists_declares_iff {value : Option PyValue} :
    (∃ declared, Declares value declared) ↔ CompensationAcceptable value := by
  constructor
  · rintro ⟨_, ⟨missing, _⟩ | ⟨data, text, operation, given, needed, name, parameters,
      preconditions, spec, rfl, shape, named, parametrized, conditioned, reads, checks, told, made,
      _⟩⟩
    · rcases missing with absent | null
      · exact .inl absent
      · exact .inr (.inl null)
    · obtain ⟨required, _⟩ := CompensationSpec.of_make made
      refine .inr (.inr ⟨data, text, rfl, shape, ⟨operation, name, named, told, required.1⟩,
        ?_, ?_⟩)
      · rw [parametrized]
        exact exists_reads_iff.mp ⟨parameters, reads, required.2.1⟩
      · rw [conditioned]
        exact exists_reads_iff.mp ⟨preconditions, checks, required.2.2⟩
  · rintro (absent | null | ⟨data, text, rfl, shape, ⟨operation, name, named, told, filled⟩, first,
      second⟩)
    · exact ⟨none, .inl ⟨.inl absent, rfl⟩⟩
    · exact ⟨none, .inl ⟨.inr null, rfl⟩⟩
    · obtain ⟨given, parametrized⟩ := lookupKey_of_keysEqual shape (by simp : "parameters" ∈ _)
      obtain ⟨needed, conditioned⟩ := lookupKey_of_keysEqual shape (by simp : "preconditions" ∈ _)
      rw [parametrized] at first
      rw [conditioned] at second
      obtain ⟨parameters, reads, some⟩ := exists_reads_iff.mpr first
      obtain ⟨preconditions, checks, more⟩ := exists_reads_iff.mpr second
      have required : name ≠ "" ∧ parameters.entries ≠ [] ∧ preconditions.entries ≠ [] :=
        ⟨filled, some, more⟩
      have made : CompensationSpec.make name parameters preconditions =
          .ok ⟨name, parameters, preconditions, required⟩ := by
        unfold CompensationSpec.make
        rw [dif_pos required]
      exact ⟨_, .inr ⟨data, text, operation, given, needed, name, parameters, preconditions, _, rfl,
        shape, named, parametrized, conditioned, reads, checks, told, made, rfl⟩⟩

/-! ## Payloads -/

/-- What a caller writes of an action; a compensation may be missing. -/
structure ActionPayload where
  actionId : PyValue
  idempotencyKey : PyValue
  parameters : PyValue
  preconditions : PyValue
  compensation : Option PyValue

namespace ActionPayload

/-- The plan of a tool with this payload. -/
def Gives (payload : ActionPayload) (tool : NorthboundTool) (plan : SourceActionPlan) : Prop :=
  ∃ parameters preconditions declared actionId idempotencyKey,
    payload.parameters.Reads parameters ∧ payload.preconditions.Reads preconditions ∧
    Declares payload.compensation declared ∧ payload.actionId.told = .ok actionId ∧
    payload.idempotencyKey.told = .ok idempotencyKey ∧
    SourceActionPlan.make actionId tool.sourceId tool.assetId tool.operation parameters
      preconditions idempotencyKey tool.risk tool.approvalMode tool.purpose declared = .ok plan

/-- A payload gives one plan only. -/
theorem Gives.unique {payload : ActionPayload} {tool : NorthboundTool}
    {one other : SourceActionPlan} (first : payload.Gives tool one)
    (second : payload.Gives tool other) : one = other := by
  obtain ⟨parameters, preconditions, declared, actionId, idempotencyKey, reads, checks, declares,
    named, bound, made⟩ := first
  obtain ⟨_, _, _, _, _, also, again, too, renamed, rebound, remade⟩ := second
  obtain rfl := reads.unique also
  obtain rfl := checks.unique again
  obtain rfl := declares.unique too
  rw [named] at renamed
  obtain rfl := Except.ok.inj renamed
  rw [bound] at rebound
  obtain rfl := Except.ok.inj rebound
  rw [made] at remade
  exact Except.ok.inj remade

/-- The fields of a tool and two texts identify an action exactly when neither text is empty. -/
theorem identity_iff {tool : NorthboundTool} {actionId idempotencyKey : String} :
    (∀ value ∈ [actionId, tool.sourceId, tool.assetId, tool.operation, idempotencyKey,
      tool.purpose], value ≠ "") ↔ actionId ≠ "" ∧ idempotencyKey ≠ "" := by
  have named := tool.metadata
  simp only [List.forall_mem_cons] at named ⊢
  tauto

end ActionPayload

/-! ## Digests of plans -/

/-- An object of scalars has an integer that is too long to be written. -/
def PyValue.Long (value : PyValue) : Prop :=
  ∃ dict, value.Reads dict ∧ writable dict.toJson = false

/-- The parameters or the preconditions of a compensation have one. -/
def LongCompensation (value : Option PyValue) : Prop :=
  ∃ data text key part, value = some (.mapping data text) ∧
    key ∈ ["parameters", "preconditions"] ∧ lookupKey key data = some part ∧ part.Long

/-- One of the objects of a payload has one. -/
def ActionPayload.Long (payload : ActionPayload) : Prop :=
  payload.parameters.Long ∨ payload.preconditions.Long ∨ LongCompensation payload.compensation

/-- A dictionary that is read is written unless the object has an integer that is too long. -/
theorem PyValue.Reads.writable_iff {value : PyValue} {dict : Dict Scalar} (reads : value.Reads dict) :
    writable dict.toJson = true ↔ ¬ value.Long := by
  have own : value.Long ↔ writable dict.toJson = false := by
    constructor
    · rintro ⟨other, also, long⟩
      rwa [reads.unique also]
    · intro long
      exact ⟨dict, reads, long⟩
  rw [own, Bool.not_eq_false]

/-- A compensation is written unless its objects have an integer that is too long. -/
theorem Declares.writable_iff {value : Option PyValue} {declared : Option CompensationSpec}
    (declares : Declares value declared) :
    (∀ spec, declared = some spec → writable spec.toJson = true) ↔ ¬ LongCompensation value := by
  rcases declares with ⟨missing, rfl⟩ | ⟨data, text, operation, given, needed, name, parameters,
    preconditions, spec, rfl, _, _, parametrized, conditioned, reads, checks, _, made, rfl⟩
  · apply iff_of_true
    · simp
    · rintro ⟨data, text, _, _, same, _⟩
      rw [same] at missing
      simp at missing
  · obtain ⟨_, rfl⟩ := CompensationSpec.of_make made
    have long : LongCompensation (some (.mapping data text)) ↔ given.Long ∨ needed.Long := by
      constructor
      · rintro ⟨_, _, key, part, same, member, found, long⟩
        obtain ⟨rfl, rfl⟩ := PyValue.mapping.inj (Option.some.inj same)
        rcases List.mem_pair.mp member with rfl | rfl
        · rw [parametrized] at found
          rw [Option.some.inj found]
          exact .inl long
        · rw [conditioned] at found
          rw [Option.some.inj found]
          exact .inr long
      · rintro (long | long)
        · exact ⟨data, text, "parameters", given, rfl, by simp, parametrized, long⟩
        · exact ⟨data, text, "preconditions", needed, rfl, by simp, conditioned, long⟩
    rw [long, not_or, ← reads.writable_iff, ← checks.writable_iff]
    simp [CompensationSpec.toJson, writable, writableMembers]

/-- The plan that is made of these parts is written unless one of them has an integer that is too
long. -/
theorem SourceActionPlan.writable_iff {actionId sourceId assetId operation : String}
    {parameters preconditions : Dict Scalar} {idempotencyKey : String} {risk : ActionRisk}
    {approvalMode : ApprovalMode} {purpose : String} {declared : Option CompensationSpec}
    {plan : SourceActionPlan} {given needed : PyValue} {value : Option PyValue}
    (made : make actionId sourceId assetId operation parameters preconditions idempotencyKey risk
      approvalMode purpose declared = .ok plan)
    (reads : given.Reads parameters) (checks : needed.Reads preconditions)
    (declares : Declares value declared) :
    writable plan.toJson = true ↔ ¬ (given.Long ∨ needed.Long ∨ LongCompensation value) := by
  obtain ⟨_, _, _, rfl⟩ := of_make made
  rw [not_or, not_or, ← reads.writable_iff, ← checks.writable_iff, ← declares.writable_iff]
  unfold toJson
  cases declared <;> simp [writable, writableMembers]

end DataHarness
