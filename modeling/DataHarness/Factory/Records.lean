import DataHarness.Factory.Generator

/-!
# Records of one dataset

What the loops over the records and the fields of a dataset return: a record for each row, an
entry for each field, and for a reference that is not null a value that a record of the referenced
dataset has. They only read the datasets that the dataset refers to, and they raise nothing but the
`ValueError` of a choice whose weights have no finite total. Before them the seed of the dataset is
computed, which raises a `ValueError` for names that have no encoding.
-/

namespace DataHarness

variable [Stdlib]

/-! ## What constructors leave -/

namespace FieldBlueprint

/-- A field is left null at a rate in [0, 1). -/
theorem nullRate_unit (field : FieldBlueprint) : 0 ≤ field.nullRate ∧ field.nullRate < 1 := by
  obtain ⟨_, ran⟩ := of_require field.checked
  obtain ⟨_, ran⟩ := of_require ran
  obtain ⟨_, ran⟩ := of_require ran
  obtain ⟨unit, ran⟩ := of_require ran
  simp only [Bool.and_eq_true, decide_eq_true_eq] at unit
  exact ⟨unit.1.2, unit.2⟩

/-- A choice has values. -/
theorem values_ne_nil (field : FieldBlueprint) (choice : field.kind = .choice) :
    field.values ≠ [] := by
  obtain ⟨_, ran⟩ := of_require field.checked
  obtain ⟨some, ran⟩ := of_require ran
  simpa [choice] using some

/-- Weights are those of the values of a choice. -/
theorem weights_match (field : FieldBlueprint) (weighted : field.weights ≠ []) :
    field.kind = .choice ∧ field.weights.length = field.values.length := by
  obtain ⟨_, ran⟩ := of_require field.checked
  obtain ⟨_, ran⟩ := of_require ran
  obtain ⟨same, ran⟩ := of_require ran
  rw [List.isEmpty_eq_false_iff.mpr weighted] at same
  simp only [Bool.false_or, Bool.and_eq_true, decide_eq_true_eq, beq_iff_eq] at same
  exact same.1

/-- A reference names a dataset and a field. -/
theorem names_target (field : FieldBlueprint) (reference : field.kind = .reference) :
    ∃ dataset target, field.referenceDataset = some dataset ∧
      field.referenceField = some target := by
  obtain ⟨_, ran⟩ := of_require field.checked
  obtain ⟨_, ran⟩ := of_require ran
  obtain ⟨_, ran⟩ := of_require ran
  obtain ⟨_, ran⟩ := of_require ran
  obtain ⟨_, ran⟩ := of_require ran
  obtain ⟨_, ran⟩ := of_require ran
  have named := require_eq_ok.mp ran
  cases source : field.referenceDataset with
  | none => simp [reference, source] at named
  | some dataset =>
    cases column : field.referenceField with
    | none => simp [reference, column] at named
    | some target => exact ⟨dataset, target, rfl, rfl⟩

end FieldBlueprint

namespace DatasetBlueprint

/-- A dataset has rows. -/
theorem rowCount_pos (dataset : DatasetBlueprint) : 0 < dataset.rowCount := by
  obtain ⟨some, _⟩ := of_require dataset.checked
  simp only [Bool.and_eq_true, decide_eq_true_eq] at some
  exact some.1.2

/-- The fields of a dataset have different names. -/
theorem names_nodup (dataset : DatasetBlueprint) : (dataset.fields.map (·.name)).Nodup := by
  obtain ⟨_, ran⟩ := of_require dataset.checked
  exact of_decide_eq_true (require_eq_ok.mp ran)

/-- The reference of a field is one of its dataset. -/
theorem mem_references {dataset : DatasetBlueprint} {field : FieldBlueprint}
    (member : field ∈ dataset.fields) (reference : field.kind = .reference) :
    some (field.referenceDataset.getD (.plain "")) ∈ dataset.references := by
  obtain ⟨name, _, named, _⟩ := field.names_target reference
  rw [named]
  unfold references
  refine List.mem_map.mpr ⟨field, List.mem_filter.mpr ⟨member, ?_⟩, named⟩
  exact decide_eq_true reference

end DatasetBlueprint

/-- The seed of a dataset can be computed. -/
structure IndustryPackDefinition.Seeds (definition : IndustryPackDefinition) (datasetId : PyText) :
    Prop where
  /-- The seed of the pack is written. -/
  short : longInteger definition.seed = false
  /-- The names have an encoding. -/
  packId : ∃ text, definition.packId = .plain text
  version : ∃ text, definition.version = .plain text
  datasetId : ∃ text, datasetId = .plain text

namespace MockDatasetGenerator

/-! ## Seeds -/

omit [Stdlib] in
/-- A text has an encoding, or raises a `ValueError`. -/
theorem encode_result (text : PyText) :
    (∃ own, text = .plain own ∧ text.encode = .ok own) ∨
      (¬ ∃ own, text = .plain own) ∧ ∃ message, text.encode = .error (.valueError message) := by
  cases text with
  | plain own => exact .inl ⟨own, rfl, rfl⟩
  | lone points surrogate => exact .inr ⟨nofun, _, rfl⟩

/-- The seed of a dataset is computed, or a `ValueError` is raised because it cannot be. -/
theorem datasetSeed_result (definition : IndustryPackDefinition) (datasetId : PyText) :
    definition.Seeds datasetId ∧ (∃ seed, datasetSeed definition datasetId = .ok seed) ∨
      ¬ definition.Seeds datasetId ∧
        ∃ message, datasetSeed definition datasetId = .error (.valueError message) := by
  unfold datasetSeed seedMaterial
  cases short : longInteger definition.seed with
  | true => exact .inr ⟨fun seeds => absurd (short.symm.trans seeds.short) nofun, _, rfl⟩
  | false =>
    rcases encode_result definition.packId with ⟨pack, own, encoded⟩ | ⟨lone, message, raised⟩
    · rcases encode_result definition.version with ⟨version, same, written⟩ | ⟨lone, message, raised⟩
      · rcases encode_result datasetId with ⟨dataset, named, last⟩ | ⟨lone, message, raised⟩
        · rw [encoded, written, last]
          exact .inl ⟨⟨short, ⟨_, own⟩, ⟨_, same⟩, _, named⟩, _, rfl⟩
        · rw [encoded, written, raised]
          exact .inr ⟨fun seeds => lone seeds.datasetId, message, rfl⟩
      · rw [encoded, raised]
        exact .inr ⟨fun seeds => lone seeds.version, message, rfl⟩
    · rw [raised]
      exact .inr ⟨fun seeds => lone seeds.packId, message, rfl⟩

variable (streams : RandomStreams)

/-! ## Choices -/

omit [Stdlib] in
/-- There is a running total for each weight. -/
@[simp] theorem length_accumulate (weights : List Float) :
    (accumulate weights).length = weights.length := by
  cases weights with
  | nil => rfl
  | cons weight weights => simp [accumulate]

omit [Stdlib] in
/-- A position that is searched for up to a bound is no higher. -/
theorem bisect_le (values : List Float) (x : Float) {low high : Nat} (ordered : low ≤ high) :
    bisect values x low high ≤ high := by
  induction low, high using bisect.induct values x with
  | case1 low high room middle less ih =>
    have halved : low ≤ middle := by omega
    rw [bisect, if_pos room, if_pos less]
    calc
      bisect values x low middle ≤ middle := ih halved
      _ ≤ high := by omega
  | case2 low high room middle less ih =>
    have halved : middle + 1 ≤ high := by omega
    rw [bisect, if_pos room, if_neg less]
    exact ih halved
  | case3 low high room =>
    rw [bisect, if_neg room]
    exact ordered

omit [Stdlib] in
/-- Weights with a positive and finite total choose a value. -/
theorem choices_eq_ok {values : List String} {weights : List Float}
    (same : weights.length = values.length) (some : values ≠ [])
    (takes : takesWeights weights = true) (state : streams.State) :
    ∃ result, choices streams values weights state = .ok result := by
  have total := Bool.and_eq_true_iff.mp takes
  have positive := List.length_pos_of_ne_nil some
  have inside : ∀ draw, bisect (accumulate weights) draw 0 (values.length - 1) < values.length := by
    intro draw
    have bounded := bisect_le (accumulate weights) draw (Nat.zero_le (values.length - 1))
    omega
  unfold choices
  simp only [length_accumulate, same, beq_self_eq_true, total.1, total.2, require, if_true, bind,
    Except.bind, List.getElem?_eq_getElem (inside _), present]
  exact ⟨_, rfl⟩

omit [Stdlib] in
/-- Other weights raise a `ValueError`. -/
theorem choices_eq_error (values : List String) {weights : List Float}
    (takes : takesWeights weights = false) (state : streams.State) :
    ∃ message, choices streams values weights state = .error (.valueError message) := by
  unfold choices
  cases count : (accumulate weights).length == values.length with
  | false => exact ⟨_, rfl⟩
  | true =>
    cases positive : !decide (totalWeight weights ≤ 0) with
    | false => exact ⟨_, rfl⟩
    | true =>
      have infinite : (totalWeight weights).isFinite = false := by
        simpa [takesWeights, positive] using takes
      rw [infinite]
      exact ⟨_, rfl⟩

/-! ## Fields -/

/-- The weights of every choice have a total that `random.choices` takes. -/
def Drawable (fields : List FieldBlueprint) : Prop :=
  ∀ field ∈ fields, field.weights ≠ [] → takesWeights field.weights = true

/-- A reference finds a value in every record of the dataset it refers to. -/
def Resolves (generated : GeneratedPack) (field : FieldBlueprint) : Prop :=
  field.kind = .reference → ∃ referenced,
    generated.lookup (field.referenceDataset.getD (.plain "")) = some referenced ∧ referenced ≠ [] ∧
      ∀ target ∈ referenced, ∃ value, target.lookup (field.referenceField.getD "") = some value

/-- A field whose reference resolves gets a value, or raises a `ValueError` because of its
weights. -/
theorem fieldValue_result {generated : GeneratedPack} {field : FieldBlueprint}
    (resolves : Resolves generated field) (index : Nat) (state : streams.State) :
    (∃ result, fieldValue streams generated index field state = .ok result) ∨
      ¬ Drawable [field] ∧
        ∃ message, fieldValue streams generated index field state =
          .error (.valueError message) := by
  unfold fieldValue
  by_cases sequence : field.kind = .sequence
  · rw [if_pos sequence]
    exact .inl ⟨_, rfl⟩
  rw [if_neg sequence]
  obtain ⟨null, state⟩ := skips streams field state
  cases null with
  | true => exact .inl ⟨_, rfl⟩
  | false =>
    simp only [Bool.false_eq_true, if_false]
    unfold drawValue
    cases kind : field.kind with
    | sequence => exact absurd kind sequence
    | integer => exact .inl ⟨_, rfl⟩
    | timestamp => exact .inl ⟨_, rfl⟩
    | choice =>
      have values := field.values_ne_nil kind
      by_cases plain : field.weights = []
      · have inside := streams.below_lt state (List.length_pos_of_ne_nil values)
        simp only [plain, List.isEmpty_nil, if_true, List.getElem?_eq_getElem inside, present]
        exact .inl ⟨_, rfl⟩
      · simp only [List.isEmpty_eq_false_iff.mpr plain, Bool.false_eq_true, if_false]
        cases takes : takesWeights field.weights with
        | true =>
          obtain ⟨result, drawn⟩ :=
            choices_eq_ok streams (field.weights_match plain).2 values takes state
          rw [drawn]
          exact .inl ⟨_, rfl⟩
        | false =>
          obtain ⟨message, raised⟩ := choices_eq_error streams field.values takes state
          refine .inr ⟨?_, message, ?_⟩
          · intro drawable
            rw [drawable field List.mem_cons_self plain] at takes
            cases takes
          · rw [raised]
            rfl
    | reference =>
      obtain ⟨referenced, found, some, each⟩ := resolves kind
      have inside : index % referenced.length < referenced.length :=
        Nat.mod_lt _ (List.length_pos_of_ne_nil some)
      obtain ⟨value, held⟩ := each referenced[index % referenced.length] (List.getElem_mem inside)
      simp only [found, List.getElem?_eq_getElem inside, held, present, bind, Except.bind]
      exact .inl ⟨_, rfl⟩

/-- A reference is null, or a value that a record of the referenced dataset has. -/
theorem of_reference {generated : GeneratedPack} {index : Nat} {field : FieldBlueprint}
    {state next : streams.State} {value : Json.Value} (reference : field.kind = .reference)
    (ran : fieldValue streams generated index field state = .ok (value, next)) :
    value = .null ∨ ∃ referenced target,
      generated.lookup (field.referenceDataset.getD (.plain "")) = some referenced ∧
        target ∈ referenced ∧ target.lookup (field.referenceField.getD "") = some value := by
  unfold fieldValue at ran
  rw [if_neg (by simp [reference])] at ran
  cases skipped : (skips streams field state).1 with
  | true =>
    simp only [skipped, if_true] at ran
    have same := Except.ok.inj ran
    exact .inl (congrArg Prod.fst same).symm
  | false =>
    simp only [skipped, Bool.false_eq_true, if_false] at ran
    unfold drawValue at ran
    rw [reference] at ran
    obtain ⟨referenced, found, ran⟩ := of_bind_ok ran
    obtain ⟨target, position, ran⟩ := of_bind_ok ran
    obtain ⟨held, looked, ran⟩ := of_bind_ok ran
    have same : held = value := congrArg Prod.fst (Except.ok.inj ran)
    rw [same] at looked
    exact .inr ⟨referenced, target, present_eq_ok.mp found,
      List.mem_of_getElem? (present_eq_ok.mp position), present_eq_ok.mp looked⟩

/-- A field reads nothing but the dataset it refers to. -/
theorem fieldValue_congr {generated other : GeneratedPack} {field : FieldBlueprint}
    (same : field.kind = .reference → generated.lookup (field.referenceDataset.getD (.plain "")) =
      other.lookup (field.referenceDataset.getD (.plain ""))) (index : Nat) (state : streams.State) :
    fieldValue streams generated index field state = fieldValue streams other index field state := by
  unfold fieldValue drawValue
  cases kind : field.kind with
  | reference => rw [same kind]
  | _ => rfl

/-! ## Loops -/

/-- What a loop over fields returns, or raises. -/
theorem fillRecord_result {generated : GeneratedPack} {fields : List FieldBlueprint}
    (resolves : ∀ field ∈ fields, Resolves generated field) (index : Nat) (state : streams.State) :
    (∃ result, fillRecord streams generated index fields state = .ok result) ∨
      ¬ Drawable fields ∧ ∃ message, fillRecord streams generated index fields state =
        .error (.valueError message) := by
  induction fields generalizing state with
  | nil => exact .inl ⟨_, rfl⟩
  | cons field fields ih =>
    unfold fillRecord
    cases fieldValue_result streams (resolves field List.mem_cons_self) index state with
    | inr fault =>
      obtain ⟨undrawable, message, raised⟩ := fault
      rw [raised]
      refine .inr ⟨?_, message, rfl⟩
      intro drawable
      apply undrawable
      intro other member
      rw [List.mem_singleton.mp member]
      exact drawable field List.mem_cons_self
    | inl value =>
      obtain ⟨⟨value, next⟩, drawn⟩ := value
      rw [drawn]
      cases ih (fun other member => resolves other (List.mem_cons_of_mem _ member)) next with
      | inl rest =>
        obtain ⟨result, rest⟩ := rest
        simp only [rest, bind, Except.bind]
        exact .inl ⟨_, rfl⟩
      | inr fault =>
        obtain ⟨undrawable, message, raised⟩ := fault
        simp only [raised, bind, Except.bind]
        refine .inr ⟨?_, message, rfl⟩
        intro drawable
        exact undrawable fun other member => drawable other (List.mem_cons_of_mem _ member)

/-- What a loop over records returns, or raises. -/
theorem fillRecords_result {generated : GeneratedPack} {fields : List FieldBlueprint}
    (resolves : ∀ field ∈ fields, Resolves generated field) (rows index : Nat)
    (state : streams.State) :
    (∃ records, fillRecords streams generated fields rows index state = .ok records) ∨
      ¬ Drawable fields ∧ ∃ message, fillRecords streams generated fields rows index state =
        .error (.valueError message) := by
  induction rows generalizing index state with
  | zero => exact .inl ⟨_, rfl⟩
  | succ rows ih =>
    unfold fillRecords
    cases fillRecord_result streams resolves index state with
    | inr fault =>
      obtain ⟨undrawable, message, raised⟩ := fault
      rw [raised]
      exact .inr ⟨undrawable, message, rfl⟩
    | inl record =>
      obtain ⟨⟨record, next⟩, drawn⟩ := record
      rw [drawn]
      cases ih (index + 1) next with
      | inl rest =>
        obtain ⟨records, rest⟩ := rest
        simp only [rest, bind, Except.bind]
        exact .inl ⟨_, rfl⟩
      | inr fault =>
        obtain ⟨undrawable, message, raised⟩ := fault
        simp only [raised, bind, Except.bind]
        exact .inr ⟨undrawable, message, rfl⟩

/-- The records of a dataset are generated, or a `ValueError` is raised because its seed cannot be
computed or its choices cannot be drawn. -/
theorem generateDataset_result {definition : IndustryPackDefinition} {dataset : DatasetBlueprint}
    {generated : GeneratedPack} (resolves : ∀ field ∈ dataset.fields, Resolves generated field) :
    (∃ records, generateDataset streams definition dataset generated = .ok records) ∨
      ¬ (definition.Seeds dataset.datasetId ∧ Drawable dataset.fields) ∧
        ∃ message, generateDataset streams definition dataset generated =
          .error (.valueError message) := by
  unfold generateDataset
  rcases datasetSeed_result definition dataset.datasetId with
    ⟨_, seed, ran⟩ | ⟨seedless, message, raised⟩
  · rw [ran]
    rcases fillRecords_result streams resolves dataset.rowCount.toNat 0 (streams.seeded seed) with
      ended | ⟨undrawable, fault⟩
    · exact .inl ended
    · exact .inr ⟨fun fine => undrawable fine.2, fault⟩
  · rw [raised]
    exact .inr ⟨fun fine => seedless fine.1, message, rfl⟩

/-- Records that are generated were drawn from a seed that can be computed. -/
theorem of_generateDataset {definition : IndustryPackDefinition} {dataset : DatasetBlueprint}
    {generated : GeneratedPack} {records : List Record}
    (made : generateDataset streams definition dataset generated = .ok records) :
    definition.Seeds dataset.datasetId ∧ ∃ seed,
      fillRecords streams generated dataset.fields dataset.rowCount.toNat 0
        (streams.seeded seed) = .ok records := by
  obtain ⟨seed, computed, filled⟩ := of_bind_ok made
  refine ⟨?_, seed, filled⟩
  rcases datasetSeed_result definition dataset.datasetId with ⟨seeds, _⟩ | ⟨_, message, raised⟩
  · exact seeds
  · rw [raised] at computed
    cases computed

/-- An entry of a record is what its field computes. -/
def Fills (generated : GeneratedPack) (index : Nat) (field : FieldBlueprint)
    (entry : String × Json.Value) : Prop :=
  entry.1 = field.name ∧
    ∃ state next, fieldValue streams generated index field state = .ok (entry.2, next)

/-- A record has an entry for each field. -/
theorem fills_of_fillRecord {generated : GeneratedPack} {index : Nat}
    {fields : List FieldBlueprint} {state next : streams.State} {record : Record}
    (ran : fillRecord streams generated index fields state = .ok (record, next)) :
    List.Forall₂ (Fills streams generated index) fields record := by
  induction fields generalizing state next record with
  | nil =>
    have same := congrArg Prod.fst (Except.ok.inj ran)
    rw [← show [] = record from same]
    exact .nil
  | cons field fields ih =>
    obtain ⟨⟨value, between⟩, drawn, ran⟩ := of_bind_ok ran
    obtain ⟨⟨rest, last⟩, filled, ran⟩ := of_bind_ok ran
    have same := congrArg Prod.fst (Except.ok.inj ran)
    rw [← show (field.name, value) :: rest = record from same]
    exact .cons ⟨rfl, state, between, drawn⟩ (ih filled)

/-- The keys of a record are the names of the fields. -/
theorem keys_of_fills {generated : GeneratedPack} {index : Nat} {fields : List FieldBlueprint}
    {record : Record} (filled : List.Forall₂ (Fills streams generated index) fields record) :
    record.map Prod.fst = fields.map (·.name) := by
  induction filled with
  | nil => rfl
  | cons first _ ih => rw [List.map_cons, List.map_cons, first.1, ih]

/-- The entry under the name of a field is what the field computes. -/
theorem fills_of_lookup {generated : GeneratedPack} {index : Nat} {fields : List FieldBlueprint}
    {record : Record} (filled : List.Forall₂ (Fills streams generated index) fields record)
    (distinct : (fields.map (·.name)).Nodup) {field : FieldBlueprint} (member : field ∈ fields)
    {value : Json.Value} (found : record.lookup field.name = some value) :
    Fills streams generated index field (field.name, value) := by
  induction filled with
  | nil => cases member
  | @cons first entry fields record head rest ih =>
    have parts := List.nodup_cons.mp distinct
    have own : entry = (first.name, entry.2) := by rw [← head.1]
    rw [own, List.lookup_cons] at found
    cases List.mem_cons.mp member with
    | inl same =>
      rw [same] at found ⊢
      rw [beq_self_eq_true] at found
      rw [← Option.some.inj found, ← own]
      exact head
    | inr later =>
      have different : (field.name == first.name) = false := by
        rw [beq_eq_false_iff_ne]
        intro same
        apply parts.1
        show first.name ∈ fields.map (·.name)
        rw [← same]
        exact List.mem_map_of_mem later
      rw [different] at found
      exact ih parts.2 later found

/-- There are as many records as rows, and each is filled from the fields. -/
theorem of_fillRecords {generated : GeneratedPack} {fields : List FieldBlueprint}
    {rows index : Nat} {state : streams.State} {records : List Record}
    (ran : fillRecords streams generated fields rows index state = .ok records) :
    records.length = rows ∧
      ∀ record ∈ records, ∃ position,
        List.Forall₂ (Fills streams generated position) fields record := by
  induction rows generalizing index state records with
  | zero =>
    rw [← show [] = records from Except.ok.inj ran]
    simp
  | succ rows ih =>
    obtain ⟨⟨first, next⟩, drawn, ran⟩ := of_bind_ok ran
    obtain ⟨rest, filled, ran⟩ := of_bind_ok ran
    rw [← show first :: rest = records from Except.ok.inj ran]
    have later := ih filled
    constructor
    · rw [List.length_cons, later.1]
    · intro record member
      cases List.mem_cons.mp member with
      | inl same =>
        rw [same]
        exact ⟨index, fills_of_fillRecord streams drawn⟩
      | inr among => exact later.2 record among

/-- A loop over fields reads nothing but the datasets they refer to. -/
theorem fillRecord_congr {generated other : GeneratedPack} {fields : List FieldBlueprint}
    (same : ∀ field ∈ fields, field.kind = .reference →
      generated.lookup (field.referenceDataset.getD (.plain "")) =
        other.lookup (field.referenceDataset.getD (.plain ""))) (index : Nat) (state : streams.State) :
    fillRecord streams generated index fields state =
      fillRecord streams other index fields state := by
  induction fields generalizing state with
  | nil => rfl
  | cons field fields ih =>
    unfold fillRecord
    rw [fieldValue_congr streams (same field List.mem_cons_self)]
    have rest := ih fun later member => same later (List.mem_cons_of_mem _ member)
    simp only [rest]

/-- A loop over records reads nothing but the datasets that the fields refer to. -/
theorem fillRecords_congr {generated other : GeneratedPack} {fields : List FieldBlueprint}
    (same : ∀ field ∈ fields, field.kind = .reference →
      generated.lookup (field.referenceDataset.getD (.plain "")) =
        other.lookup (field.referenceDataset.getD (.plain ""))) (rows index : Nat) (state : streams.State) :
    fillRecords streams generated fields rows index state =
      fillRecords streams other fields rows index state := by
  induction rows generalizing index state with
  | zero => rfl
  | succ rows ih =>
    unfold fillRecords
    rw [fillRecord_congr streams same]
    simp only [ih]

end MockDatasetGenerator

end DataHarness
