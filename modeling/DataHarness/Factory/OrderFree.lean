import DataHarness.Factory.Passes

/-!
# Generated packs

What the generator returns for a definition whose references name fields, when it raises, and that
the order of the datasets does not matter. It does so exactly for the definitions that either
cannot be built, or whose choices have weights that `random.choices` takes: a blueprint checks
each weight, but not that their total is finite.
-/

namespace DataHarness

variable [Stdlib]

/-- A pack is what a definition asks for. -/
structure Delivers (definition : IndustryPackDefinition) (pack : GeneratedPack) : Prop where
  /-- There is one entry for each dataset. -/
  entries : (pack.map Prod.fst).Perm (definition.datasets.map (·.datasetId))
  distinct : (pack.map Prod.fst).Nodup
  /-- Each dataset has its number of records, with an entry for each field. -/
  rows : ∀ dataset ∈ definition.datasets, ∃ records,
    pack.lookup dataset.datasetId = some records ∧ (records.length : Int) = dataset.rowCount ∧
      ∀ record ∈ records, record.map Prod.fst = dataset.fields.map (·.name)
  /-- A reference that is not null is a value that some record of the referenced dataset has. -/
  references : ∀ dataset ∈ definition.datasets, ∀ records,
    pack.lookup dataset.datasetId = some records → ∀ record ∈ records,
      ∀ field ∈ dataset.fields, field.kind = .reference → ∀ value,
        record.lookup field.name = some value → value ≠ .null → ∃ referenced target,
          pack.lookup (field.referenceDataset.getD (.plain "")) = some referenced ∧ target ∈ referenced ∧
            target.lookup (field.referenceField.getD "") = some value

namespace MockDatasetGenerator

/-- The generator builds a pack, in whatever order its datasets are listed, or raises because it
cannot be built. -/
structure Generates (streams : RandomStreams) (definition : IndustryPackDefinition) : Prop where
  raises : (∃ message, generate streams definition = .error (.valueError message)) ↔
    definition.Broken
  returns : ¬ definition.Broken → ∃ pack, generate streams definition = .ok pack ∧
    Delivers definition pack
  orderFree : ∀ other, definition.Permutes other → ∀ pack,
    generate streams definition = .ok pack → ∃ same, generate streams other = .ok same ∧
      ∀ id, same.lookup id = pack.lookup id

variable {streams : RandomStreams} {definition : IndustryPackDefinition}

/-! ## Records of a pack -/

namespace Built

variable {generated : GeneratedPack} {pending : List DatasetBlueprint}

/-- What is generated under a key are the records of a dataset of the pack. -/
theorem exists_dataset (built : Built streams definition generated pending) {id : PyText}
    (member : id ∈ generated.map Prod.fst) :
    ∃ dataset ∈ definition.datasets, dataset.datasetId = id ∧ ∃ records,
      generated.lookup id = some records ∧
        generateDataset streams definition dataset generated = .ok records := by
  have known := built.shared.mem_iff.mp (List.mem_append.mpr (.inl member))
  obtain ⟨dataset, among, own⟩ := List.mem_map.mp known
  obtain ⟨records, found⟩ := exists_entry member
  rw [← own] at found ⊢
  exact ⟨dataset, among, rfl, records, found, built.made dataset among records found⟩

/-- The references of a dataset that is ready resolve. -/
theorem resolves (built : Built streams definition generated pending)
    (named : definition.ReferencesNamed) {dataset : DatasetBlueprint}
    (member : dataset ∈ definition.datasets) (isReady : ready dataset generated = true) :
    ∀ field ∈ dataset.fields, Resolves generated field := by
  intro field among reference
  have here := DatasetBlueprint.mem_references among reference
  have known := of_ready isReady _ here
  obtain ⟨target, inside, own, referenced, found, made⟩ := built.exists_dataset known
  obtain ⟨_, seed, filled⟩ := of_generateDataset streams made
  obtain ⟨count, each⟩ := of_fillRecords streams filled
  refine ⟨referenced, found, ?_, ?_⟩
  · have rows := target.rowCount_pos
    rw [← List.length_pos_iff, count]
    omega
  · intro record held
    obtain ⟨name, _, source, _⟩ := field.names_target reference
    have to_target : field.referenceDataset = some target.datasetId := by
      rw [own, source, Option.getD_some]
    obtain ⟨column, one, own_name⟩ := named dataset member field among reference target inside
      to_target
    obtain ⟨position, filled⟩ := each record held
    rw [own_name, Option.getD_some]
    apply exists_entry
    rw [keys_of_fills streams filled]
    exact List.mem_map_of_mem one

/-- When no dataset is left every dataset of the pack is generated. -/
theorem mem_keys (built : Built streams definition generated []) {dataset : DatasetBlueprint}
    (member : dataset ∈ definition.datasets) : dataset.datasetId ∈ generated.map Prod.fst := by
  have known := built.shared.mem_iff.mpr (List.mem_map_of_mem member)
  simpa using known

/-- When no dataset is left the pack is what the definition asks for. -/
theorem delivers (built : Built streams definition generated []) :
    Delivers definition generated := by
  have shared := built.shared
  rw [List.map_nil, List.append_nil] at shared
  constructor
  · exact shared
  · exact shared.nodup_iff.mpr definition.ids_nodup
  · intro dataset member
    obtain ⟨records, found⟩ := exists_entry (built.mem_keys member)
    obtain ⟨_, seed, filled⟩ := of_generateDataset streams (built.made dataset member records found)
    obtain ⟨count, each⟩ := of_fillRecords streams filled
    have rows := dataset.rowCount_pos
    refine ⟨records, found, by omega, ?_⟩
    intro record held
    obtain ⟨position, filled⟩ := each record held
    exact keys_of_fills streams filled
  · intro dataset member records found record held field among reference value looked present
    obtain ⟨_, seed, filled⟩ := of_generateDataset streams (built.made dataset member records found)
    obtain ⟨_, each⟩ := of_fillRecords streams filled
    obtain ⟨position, filled⟩ := each record held
    obtain ⟨_, state, next, ran⟩ :=
      fills_of_lookup streams filled dataset.names_nodup among looked
    exact (of_reference streams reference ran).resolve_left present

end Built

/-- What is generated in one order is what is generated in another. -/
theorem agree {other : IndustryPackDefinition} {pack generated : GeneratedPack}
    {pending : List DatasetBlueprint} (permutes : definition.Permutes other)
    (built : Built streams definition pack []) (changed : Built streams other generated pending)
    {id : PyText} (member : id ∈ generated.map Prod.fst) :
    generated.lookup id = pack.lookup id := by
  have grounded := changed.grounded id member
  induction grounded with
  | @intro id here below ih =>
    obtain ⟨dataset, among, own, records, found, made⟩ := changed.exists_dataset member
    have listed := permutes.datasets.mem_iff.mp among
    obtain ⟨rows, held⟩ := exists_entry (built.mem_keys listed)
    -- Both compute the records from the same records of the datasets it refers to.
    have same : generateDataset streams other dataset generated =
        generateDataset streams definition dataset pack := by
      apply generateDataset_congr streams definition permutes.packId permutes.version permutes.seed
      intro name refer
      rw [← own] at member ih
      exact ih name ((IndustryPackDefinition.refers_iff among).mpr refer)
        (changed.closed dataset among member name refer)
    rw [made, built.made dataset listed rows held] at same
    rw [found, ← own, held, Except.ok.inj same]

/-- Only a seed that cannot be computed, or choices whose weights have no finite total, make the
generation of a dataset raise. -/
theorem undrawable_of_fails {error : FactoryError} (named : definition.ReferencesNamed)
    (fails : Fails streams definition error) :
    (∃ message, error = .valueError message) ∧ ¬ (definition.Seeded ∧ definition.Drawable) := by
  obtain ⟨dataset, member, generated, pending, built, isReady, raised⟩ := fails
  have resolves := built.resolves named member isReady
  cases generateDataset_result streams resolves with
  | inl ended =>
    obtain ⟨records, made⟩ := ended
    rw [made] at raised
    cases raised
  | inr fault =>
    obtain ⟨hindered, message, thrown⟩ := fault
    rw [thrown] at raised
    refine ⟨⟨message, (Except.error.inj raised).symm⟩, ?_⟩
    rintro ⟨seeded, drawable⟩
    exact hindered ⟨seeded dataset member, drawable dataset member⟩

/-- The generator returns a pack that is built, raises because a dataset cannot be generated, or
raises a `ValueError` because the definition is broken. -/
theorem generate_result (streams : RandomStreams) (definition : IndustryPackDefinition) :
    (∃ pack, generate streams definition = .ok pack ∧ Built streams definition pack []) ∨
      ∃ error, generate streams definition = .error error ∧
        (Fails streams definition error ∨
          definition.Broken ∧ ∃ message, error = .valueError message) :=
  generateFrom_result .initial

/-- A pack that is returned is built. -/
theorem built_of_generate {pack : GeneratedPack} (ran : generate streams definition = .ok pack) :
    Built streams definition pack [] := by
  cases generate_result streams definition with
  | inl ended =>
    obtain ⟨own, returned, built⟩ := ended
    rw [ran] at returned
    rw [Except.ok.inj returned]
    exact built
  | inr raised =>
    obtain ⟨error, thrown, _⟩ := raised
    rw [ran] at thrown
    cases thrown

/-- The order of the datasets does not matter to a pack that is returned. -/
theorem generate_permutes {other : IndustryPackDefinition} {pack : GeneratedPack}
    (permutes : definition.Permutes other) (ran : generate streams definition = .ok pack) :
    ∃ same, generate streams other = .ok same ∧ ∀ id, same.lookup id = pack.lookup id := by
  have built := built_of_generate ran
  cases generate_result streams other with
  | inl ended =>
    obtain ⟨same, returned, changed⟩ := ended
    refine ⟨same, returned, ?_⟩
    intro id
    by_cases member : id ∈ same.map Prod.fst
    · exact agree permutes built changed member
    · have keys := built.delivers.entries.trans
        ((permutes.datasets.map (·.datasetId)).symm.trans changed.delivers.entries.symm)
      cases first : same.lookup id with
      | some records => exact absurd (mem_of_entry first) member
      | none =>
        cases second : pack.lookup id with
        | none => rfl
        | some records => exact absurd (keys.mem_iff.mp (mem_of_entry second)) member
  | inr raised =>
    obtain ⟨error, _, fault⟩ := raised
    cases fault with
    | inr broken => exact absurd (permutes.broken.mp broken.1) built.not_broken
    | inl fails =>
      obtain ⟨dataset, among, generated, pending, changed, isReady, thrown⟩ := fails
      have listed := permutes.datasets.mem_iff.mp among
      obtain ⟨rows, held⟩ := exists_entry (built.mem_keys listed)
      have same : generateDataset streams other dataset generated =
          generateDataset streams definition dataset pack := by
        apply generateDataset_congr streams definition permutes.packId permutes.version
          permutes.seed
        intro name refer
        exact agree permutes built changed (of_ready isReady name refer)
      rw [thrown, built.made dataset listed rows held] at same
      cases same

/-! ## Weights -/

omit [Stdlib] in
/-- No float is less than itself. -/
theorem float_lt_irrefl (number : Float) : ¬ number < number := by
  have unpacked : ∀ value : Float.Model.UnpackedFloat, value.lt value = false := by
    intro value
    cases value with
    | notANumber => rfl
    | infinity sign => cases sign <;> rfl
    | zero sign => cases sign <;> rfl
    | finite sign mantissa exponent positive =>
      cases sign with
      | positive =>
        show (some ((compare exponent exponent).then (compare mantissa mantissa)) ==
          some Ordering.lt) = false
        simp
      | negative =>
        show (some ((compare exponent exponent).then (compare mantissa mantissa)).swap ==
          some Ordering.lt) = false
        simp
  intro contrary
  have seen : number.toModel.unpack.lt number.toModel.unpack = true :=
    of_decide_eq_true contrary
  rw [unpacked] at seen
  cases seen

omit [Stdlib] in
/-- Generators that draw one number over and over. -/
def constantStreams (draw : Float) (unit : 0 ≤ draw ∧ draw < 1) : RandomStreams where
  State := Unit
  seeded _ := ()
  random state := (draw, state)
  below _ state := (0, state)
  random_unit _ := unit
  below_lt _ positive := positive

omit [Stdlib] in
/-- A draw of a half is in [0, 1). -/
theorem half_unit : (0 : Float) ≤ 0.5 ∧ (0.5 : Float) < 1 := by decide +kernel

/-- A choice without a finite total raises when the draw is not below its null rate. -/
theorem fieldValue_undrawable {field : FieldBlueprint} (weighted : field.weights ≠ [])
    (takes : takesWeights field.weights = false) (generated : GeneratedPack) (index : Nat)
    (state : Unit) :
    ∃ error, fieldValue (constantStreams field.nullRate field.nullRate_unit) generated index field
      state = .error error := by
  let constant := constantStreams field.nullRate field.nullRate_unit
  have choice := (field.weights_match weighted).1
  have drawn : skips constant field state = (false, state) := by
    unfold skips
    split
    · rfl
    · have above : decide (field.nullRate < field.nullRate) = false :=
        decide_eq_false (float_lt_irrefl field.nullRate)
      show (decide (field.nullRate < field.nullRate), state) = (false, state)
      rw [above]
  obtain ⟨message, raised⟩ := choices_eq_error constant field.values takes state
  refine ⟨.valueError message, ?_⟩
  unfold fieldValue
  rw [if_neg (by simp [choice]), drawn]
  show drawValue constant generated index field state = _
  unfold drawValue
  rw [choice]
  simp only [List.isEmpty_eq_false_iff.mpr weighted, Bool.false_eq_true, if_false]
  rw [raised]
  rfl

/-- A pack that could be built, with a choice whose weights have no finite total, is not built from
draws that leave the choice not null. -/
theorem not_generates (whole : ¬ definition.Broken) {dataset : DatasetBlueprint}
    (member : dataset ∈ definition.datasets) {field : FieldBlueprint}
    (among : field ∈ dataset.fields) (weighted : field.weights ≠ [])
    (takes : takesWeights field.weights = false) :
    ¬ Generates (constantStreams field.nullRate field.nullRate_unit) definition := by
  let constant := constantStreams field.nullRate field.nullRate_unit
  intro generates
  obtain ⟨pack, ran, _⟩ := generates.returns whole
  have built := built_of_generate ran
  obtain ⟨records, found⟩ := exists_entry (built.mem_keys member)
  obtain ⟨_, seed, filled⟩ := of_generateDataset constant (built.made dataset member records found)
  obtain ⟨count, filled⟩ := of_fillRecords constant filled
  have rows := dataset.rowCount_pos
  have some : 0 < records.length := by omega
  obtain ⟨record, held⟩ := List.exists_mem_of_length_pos some
  obtain ⟨position, filled⟩ := filled record held
  have key : field.name ∈ record.map Prod.fst := by
    rw [keys_of_fills constant filled]
    exact List.mem_map_of_mem among
  obtain ⟨value, looked⟩ := exists_entry key
  obtain ⟨_, state, next, returned⟩ :=
    fills_of_lookup constant filled dataset.names_nodup among looked
  obtain ⟨error, raised⟩ := fieldValue_undrawable weighted takes pack position state
  rw [raised] at returned
  cases returned

/-- A pack that could be built, with a seed that cannot be computed, is not built. -/
theorem seeded_of_generates (whole : ¬ definition.Broken)
    (generates : Generates streams definition) : definition.Seeded := by
  intro dataset member
  obtain ⟨pack, ran, _⟩ := generates.returns whole
  have built := built_of_generate ran
  obtain ⟨records, found⟩ := exists_entry (built.mem_keys member)
  exact (of_generateDataset streams (built.made dataset member records found)).1

/-- A pack that cannot be built, or whose seeds can be computed and whose choices all have weights
with a finite total, is dealt with as it should be. -/
theorem generates_of (named : definition.ReferencesNamed)
    (fine : definition.Broken ∨ definition.Seeded ∧ definition.Drawable) :
    Generates streams definition := by
  have result := generate_result streams definition
  constructor
  · constructor
    · intro ⟨message, raised⟩
      cases result with
      | inl ended =>
        obtain ⟨pack, ran, _⟩ := ended
        rw [ran] at raised
        cases raised
      | inr fault =>
        obtain ⟨error, _, fault⟩ := fault
        cases fault with
        | inl fails => exact fine.resolve_right (undrawable_of_fails named fails).2
        | inr broken => exact broken.1
    · intro broken
      cases result with
      | inl ended =>
        obtain ⟨pack, _, built⟩ := ended
        exact absurd broken built.not_broken
      | inr fault =>
        obtain ⟨error, ran, fault⟩ := fault
        have value : ∃ message, error = .valueError message := by
          cases fault with
          | inl fails => exact (undrawable_of_fails named fails).1
          | inr broken => exact broken.2
        obtain ⟨message, own⟩ := value
        rw [ran, own]
        exact ⟨message, rfl⟩
  · intro whole
    cases result with
    | inl ended =>
      obtain ⟨pack, ran, built⟩ := ended
      exact ⟨pack, ran, built.delivers⟩
    | inr fault =>
      obtain ⟨error, _, fault⟩ := fault
      cases fault with
      | inl fails => exact absurd (fine.resolve_left whole) (undrawable_of_fails named fails).2
      | inr broken => exact absurd broken.1 whole
  · intro other permutes pack ran
    exact generate_permutes permutes ran

/-- The generator does what it should for every stream of random numbers exactly when some dataset
reaches a missing dataset or a cycle, or the seed of every dataset can be computed and the weights
of every choice have a finite total. -/
theorem generates_iff (named : definition.ReferencesNamed) :
    (∀ streams, Generates streams definition) ↔
      definition.Broken ∨ definition.Seeded ∧ definition.Drawable := by
  constructor
  · intro each
    by_contra neither
    rw [not_or] at neither
    obtain ⟨whole, hindered⟩ := neither
    have seeded := seeded_of_generates whole
      (each (constantStreams 0.5 half_unit))
    have undrawable : ¬ definition.Drawable := fun drawable => hindered ⟨seeded, drawable⟩
    unfold IndustryPackDefinition.Drawable Drawable at undrawable
    push Not at undrawable
    obtain ⟨dataset, member, field, among, weighted, takes⟩ := undrawable
    exact not_generates whole member among weighted (Bool.eq_false_iff.mpr takes) (each _)
  · intro fine streams
    exact generates_of named fine

/-! ## Two packs -/

/-- A sequence, as a blueprint with no other setting has it. -/
def parentId : letI := Stdlib.transparent; FieldBlueprint :=
  letI := Stdlib.transparent
  ⟨"parent_id", .sequence, [], 0, 100, "parent", none, none, [], 0, passes (by decide +kernel)⟩

/-- A reference to the sequence. -/
def parentOf : letI := Stdlib.transparent; FieldBlueprint :=
  letI := Stdlib.transparent
  ⟨"parent_id", .reference, [], 0, 100, "id", some "parents", some "parent_id", [], 0,
    passes (by decide +kernel)⟩

/-- Children that are listed before their parents. -/
def family : letI := Stdlib.transparent; IndustryPackDefinition :=
  letI := Stdlib.transparent
  ⟨"test-pack", "1.0.0", 42,
    [⟨"children", 5, [parentOf], passes (by decide +kernel)⟩,
      ⟨"parents", 3, [parentId], passes (by decide +kernel)⟩], passes (by decide +kernel)⟩

omit [Stdlib] in
/-- Children and their parents are generated. -/
theorem generates_iff_family :
    letI := Stdlib.transparent
    Generates (constantStreams 0.5 (by decide +kernel)) family := by
  let library := Stdlib.transparent
  have named : family.ReferencesNamed := by
    unfold IndustryPackDefinition.ReferencesNamed
    decide +kernel
  have drawable : family.Drawable := by
    unfold IndustryPackDefinition.Drawable Drawable
    decide +kernel
  have seeded : family.Seeded := by
    intro dataset member
    have plain : ∃ text, dataset.datasetId = .plain text := by
      simp only [family, List.mem_cons, List.not_mem_nil, or_false] at member
      rcases member with rfl | rfl
      · exact ⟨_, rfl⟩
      · exact ⟨_, rfl⟩
    exact ⟨by decide, ⟨_, rfl⟩, ⟨_, rfl⟩, plain⟩
  exact (generates_iff named).mpr (.inr ⟨seeded, drawable⟩) _

/-- A choice of two values, each of a finite weight. -/
def outcome : letI := Stdlib.transparent; FieldBlueprint :=
  letI := Stdlib.transparent
  ⟨"outcome", .choice, ["normal", "rare"], 0, 100, "id", none, none, [1e308, 1e308], 0,
    passes (by decide +kernel)⟩

/-- A pack of one record with the choice. -/
def overweight : letI := Stdlib.transparent; IndustryPackDefinition :=
  letI := Stdlib.transparent
  ⟨"weighted-pack", "1", 7, [⟨"events", 1, [outcome], passes (by decide +kernel)⟩],
    passes (by decide +kernel)⟩

/-- What a `ValueError` says. -/
def valueErrorText {α : Type} : Except FactoryError α → Option String
  | .error (.valueError message) => some message
  | _ => none

omit [Stdlib] in
/-- A pack without references raises when a total is infinite. -/
theorem overweight_raises :
    letI := Stdlib.transparent
    let halves := constantStreams 0.5 (by decide +kernel)
    overweight.ReferencesNamed ∧ ¬ overweight.Broken ∧
      valueErrorText (generate halves overweight) = some "Total of weights must be finite" ∧
      ¬ Generates halves overweight := by
  let library := Stdlib.transparent
  let halves := constantStreams 0.5 (by decide +kernel)
  have named : overweight.ReferencesNamed := by
    unfold IndustryPackDefinition.ReferencesNamed
    decide +kernel
  have raised : valueErrorText (generate halves overweight) =
      some "Total of weights must be finite" := by decide +kernel
  have whole : ¬ overweight.Broken := by
    intro ⟨dataset, member, broken⟩
    have grounded : Topological.Grounded overweight.Refers overweight.Known dataset.datasetId := by
      refine .intro (IndustryPackDefinition.known_of_mem member) ?_
      intro other refer
      have none : ∀ dataset ∈ overweight.datasets, dataset.references = [] := by decide +kernel
      rw [IndustryPackDefinition.refers_iff member, none dataset member] at refer
      cases refer
    exact grounded.not_broken broken
  refine ⟨named, whole, raised, ?_⟩
  intro generates
  obtain ⟨pack, ran, _⟩ := generates.returns whole
  rw [ran] at raised
  cases raised

end MockDatasetGenerator

end DataHarness
