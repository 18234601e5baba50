import DataHarness.Factory.Records
import DataHarness.Library.Topological

/-!
# Packs are built in the order of their references

Whatever the order in which a definition lists its datasets, the generator works them off in an
order of their references. Its invariant is `Built`: what is generated is what the records of a
dataset are computed to be from what is generated, and everything in it is grounded.
-/

namespace DataHarness

variable [Stdlib]

namespace IndustryPackDefinition

variable (definition : IndustryPackDefinition)

/-- A dataset of the pack refers to another one. -/
def Refers (id other : PyText) : Prop :=
  ∃ dataset ∈ definition.datasets, dataset.datasetId = id ∧ some other ∈ dataset.references

/-- A dataset is in the pack. -/
def Known (id : PyText) : Prop := id ∈ definition.datasets.map (·.datasetId)

/-- Some dataset reaches a missing dataset or a cycle through reference fields. -/
def Broken : Prop :=
  ∃ dataset ∈ definition.datasets,
    Topological.Broken definition.Refers definition.Known dataset.datasetId

/-- A reference field that targets a dataset of the pack names one of its fields. -/
def ReferencesNamed : Prop :=
  ∀ dataset ∈ definition.datasets, ∀ field ∈ dataset.fields, field.kind = .reference →
    ∀ target ∈ definition.datasets, field.referenceDataset = some target.datasetId →
      ∃ column ∈ target.fields, field.referenceField = some column.name

/-- The weights of every choice of the pack have a total that `random.choices` takes. -/
def Drawable : Prop :=
  ∀ dataset ∈ definition.datasets, MockDatasetGenerator.Drawable dataset.fields

/-- The seed of every dataset can be computed. -/
def Seeded : Prop := ∀ dataset ∈ definition.datasets, definition.Seeds dataset.datasetId

/-- A definition that differs in nothing but the order of its datasets. -/
structure Permutes (other : IndustryPackDefinition) : Prop where
  packId : other.packId = definition.packId
  version : other.version = definition.version
  seed : other.seed = definition.seed
  datasets : other.datasets.Perm definition.datasets

variable {definition}

/-- The ids of the datasets are unique. -/
theorem ids_nodup (definition : IndustryPackDefinition) :
    (definition.datasets.map (·.datasetId)).Nodup := by
  obtain ⟨_, ran⟩ := of_require definition.checked
  exact of_decide_eq_true (require_eq_ok.mp ran)

/-- A dataset of the pack is known. -/
theorem known_of_mem {dataset : DatasetBlueprint} (member : dataset ∈ definition.datasets) :
    definition.Known dataset.datasetId := List.mem_map_of_mem member

/-- What a dataset of the pack refers to is what its fields refer to. -/
theorem refers_iff {dataset : DatasetBlueprint} (member : dataset ∈ definition.datasets)
    {other : PyText} :
    definition.Refers dataset.datasetId other ↔ some other ∈ dataset.references := by
  constructor
  · intro ⟨same, among, id, refer⟩
    rw [List.inj_on_of_nodup_map definition.ids_nodup among member id] at refer
    exact refer
  · intro refer
    exact ⟨dataset, member, rfl, refer⟩

/-- A reference of a dataset names a dataset. -/
theorem exists_name {dataset : DatasetBlueprint} {reference : Option PyText}
    (member : reference ∈ dataset.references) : ∃ name, reference = some name := by
  obtain ⟨field, among, own⟩ := List.mem_map.mp member
  have kind := of_decide_eq_true (List.mem_filter.mp among).2
  obtain ⟨name, _, named, _⟩ := field.names_target kind
  exact ⟨name, by rw [← own, named]⟩

namespace Permutes

variable {other : IndustryPackDefinition}

/-- The same datasets refer to one another. -/
theorem refers (permutes : definition.Permutes other) : other.Refers = definition.Refers := by
  funext id name
  unfold Refers
  simp only [permutes.datasets.mem_iff]

/-- The same datasets are in the pack. -/
theorem known (permutes : definition.Permutes other) : other.Known = definition.Known := by
  funext id
  unfold Known
  simp only [(permutes.datasets.map (·.datasetId)).mem_iff]

/-- A pack is broken in every order. -/
theorem broken (permutes : definition.Permutes other) : other.Broken ↔ definition.Broken := by
  unfold Broken
  simp only [permutes.refers, permutes.known, permutes.datasets.mem_iff]

end Permutes

end IndustryPackDefinition

namespace MockDatasetGenerator

variable (streams : RandomStreams) (definition : IndustryPackDefinition)

/-- The records of a dataset depend on the datasets it refers to only. -/
theorem generateDataset_congr {other : IndustryPackDefinition} {dataset : DatasetBlueprint}
    {generated changed : GeneratedPack} (packId : other.packId = definition.packId)
    (version : other.version = definition.version) (seed : other.seed = definition.seed)
    (same : ∀ name, some name ∈ dataset.references →
      generated.lookup name = changed.lookup name) :
    generateDataset streams other dataset generated =
      generateDataset streams definition dataset changed := by
  unfold generateDataset datasetSeed seedMaterial
  rw [packId, version, seed]
  congr
  funext own
  apply fillRecords_congr
  intro field member reference
  exact same _ (DatasetBlueprint.mem_references member reference)

omit [Stdlib] in
/-- A key of a pack, or of a record, is looked up. -/
theorem exists_entry {α κ : Type} [DecidableEq κ] {entries : List (κ × α)} {key : κ}
    (member : key ∈ entries.map Prod.fst) : ∃ value, entries.lookup key = some value := by
  obtain ⟨entry, among, own⟩ := List.mem_map.mp member
  rw [← own]
  exact Table.exists_lookup among

omit [Stdlib] in
/-- What a pack has is not changed by a later entry. -/
theorem lookup_append_left {generated later : GeneratedPack} {id : PyText}
    (member : id ∈ generated.map Prod.fst) :
    (generated ++ later).lookup id = generated.lookup id := by
  obtain ⟨records, found⟩ := exists_entry member
  rw [List.lookup_append, found, Option.some_or]

omit [Stdlib] in
/-- A key that is looked up is one of the pack. -/
theorem mem_of_entry {generated : GeneratedPack} {id : PyText} {records : List Record}
    (found : generated.lookup id = some records) : id ∈ generated.map Prod.fst :=
  List.mem_map_of_mem (Table.mem_of_lookup found)

/-- All references of a dataset that is ready are generated. -/
theorem of_ready {dataset : DatasetBlueprint} {generated : GeneratedPack}
    (isReady : ready dataset generated = true) :
    ∀ name, some name ∈ dataset.references → name ∈ generated.map Prod.fst := by
  intro name member
  have here := List.all_eq_true.mp isReady (some name) member
  simpa using here

/-- A dataset whose references are all generated is ready. -/
theorem ready_of {dataset : DatasetBlueprint} {generated : GeneratedPack}
    (each : ∀ name, some name ∈ dataset.references → name ∈ generated.map Prod.fst) :
    ready dataset generated = true := by
  apply List.all_eq_true.mpr
  intro reference member
  obtain ⟨name, own⟩ := IndustryPackDefinition.exists_name member
  rw [own] at member ⊢
  simpa using each name member

/-! ## Invariant -/

/-- What is generated so far, and which datasets are left. -/
structure Built (generated : GeneratedPack) (pending : List DatasetBlueprint) : Prop where
  /-- A dataset that is left is one of the pack. -/
  left : ∀ dataset ∈ pending, dataset ∈ definition.datasets
  /-- Each dataset is either generated, once, or left. -/
  shared : (generated.map Prod.fst ++ pending.map (·.datasetId)).Perm
    (definition.datasets.map (·.datasetId))
  /-- What is generated reaches neither a missing dataset nor a cycle. -/
  grounded : ∀ id ∈ generated.map Prod.fst,
    Topological.Grounded definition.Refers definition.Known id
  /-- What is generated refers to what is generated. -/
  closed : ∀ dataset ∈ definition.datasets, dataset.datasetId ∈ generated.map Prod.fst →
    ∀ name, some name ∈ dataset.references → name ∈ generated.map Prod.fst
  /-- The records of a dataset are what they are computed to be. -/
  made : ∀ dataset ∈ definition.datasets, ∀ records,
    generated.lookup dataset.datasetId = some records →
      generateDataset streams definition dataset generated = .ok records

namespace Built

variable {streams} {definition} {generated : GeneratedPack} {pending : List DatasetBlueprint}

/-- Before the first pass all datasets are left. -/
theorem initial : Built streams definition [] definition.datasets where
  left _ member := member
  shared := by rw [List.map_nil, List.nil_append]
  grounded _ member := absurd member List.not_mem_nil
  closed _ _ member := absurd member List.not_mem_nil
  made _ _ _ found := by cases found

/-- The ids of what is generated and what is left are unique. -/
theorem distinct (built : Built streams definition generated pending) :
    (generated.map Prod.fst ++ pending.map (·.datasetId)).Nodup :=
  built.shared.nodup_iff.mpr definition.ids_nodup

/-- The invariant is kept when a dataset is generated that is ready. -/
theorem generate {dataset : DatasetBlueprint} {records : List Record}
    (built : Built streams definition generated pending) (here : dataset ∈ pending)
    (isReady : ready dataset generated = true)
    (made : generateDataset streams definition dataset generated = .ok records) :
    Built streams definition (generated ++ [(dataset.datasetId, records)])
      (pending.erase dataset) := by
  have member := built.left dataset here
  have before := of_ready isReady
  have fresh : dataset.datasetId ∉ generated.map Prod.fst := by
    intro old
    have parts := List.nodup_append.mp built.distinct
    exact parts.2.2 _ old _ (List.mem_map_of_mem here) rfl
  have keys : (generated ++ [(dataset.datasetId, records)]).map Prod.fst =
      generated.map Prod.fst ++ [dataset.datasetId] := by simp
  have kept : ∀ name ∈ generated.map Prod.fst,
      (generated ++ [(dataset.datasetId, records)]).lookup name = generated.lookup name :=
    fun name old => lookup_append_left old
  constructor
  · intro other among
    exact built.left other (List.mem_of_mem_erase among)
  · rw [keys, List.append_assoc]
    have same := (List.perm_cons_erase here).map (·.datasetId)
    exact (same.symm.append_left _).trans built.shared
  · intro id among
    rw [keys, List.mem_append, List.mem_singleton] at among
    cases among with
    | inl old => exact built.grounded id old
    | inr own =>
      rw [own]
      refine .intro (IndustryPackDefinition.known_of_mem member) ?_
      intro other refer
      exact built.grounded other (before other
        ((IndustryPackDefinition.refers_iff member).mp refer))
  · intro other among generated name refer
    rw [keys, List.mem_append, List.mem_singleton] at generated
    rw [keys, List.mem_append]
    cases generated with
    | inl old => exact .inl (built.closed other among old name refer)
    | inr own =>
      have same := List.inj_on_of_nodup_map definition.ids_nodup among member own
      rw [same] at refer
      exact .inl (before name refer)
  · intro other among rows found
    by_cases own : other = dataset
    · rw [own] at found ⊢
      rw [List.lookup_append, List.lookup_eq_none_iff.mpr, Option.none_or,
        List.lookup_cons_self] at found
      · have same := Option.some.inj found
        rw [← same, ← made]
        exact generateDataset_congr streams definition rfl rfl rfl
          fun name refer => kept name (before name refer)
      · intro entry old
        rw [bne_iff_ne]
        intro equal
        exact fresh (equal ▸ List.mem_map_of_mem old)
    · have old : other.datasetId ∈ generated.map Prod.fst := by
        have new := mem_of_entry found
        rw [keys, List.mem_append, List.mem_singleton] at new
        apply new.resolve_right
        intro same
        exact own (List.inj_on_of_nodup_map definition.ids_nodup among member same)
      rw [kept _ old] at found
      rw [← built.made other among rows found]
      exact generateDataset_congr streams definition rfl rfl rfl
        fun name refer => kept name (built.closed other among old name refer)

/-- When no dataset is left none is broken. -/
theorem not_broken (built : Built streams definition generated []) : ¬ definition.Broken := by
  intro ⟨dataset, member, broken⟩
  have here : dataset.datasetId ∈ generated.map Prod.fst := by
    have known := built.shared.mem_iff.mpr (List.mem_map_of_mem member)
    simpa using known
  exact (built.grounded _ here).not_broken broken

/-- When no dataset that is left is ready, one of them is broken. -/
theorem broken (built : Built streams definition generated pending) (some : pending ≠ [])
    (stuck : ∀ dataset ∈ pending, ready dataset generated = false) : definition.Broken := by
  by_contra whole
  have left : pending.map (·.datasetId) ≠ [] := by simpa using some
  have split : ∀ id, definition.Known id →
      id ∈ generated.map Prod.fst ∨ id ∈ pending.map (·.datasetId) := by
    intro id known
    exact List.mem_append.mp (built.shared.mem_iff.mpr known)
  have sound : ∀ id ∈ pending.map (·.datasetId),
      ¬ Topological.Broken definition.Refers definition.Known id := by
    intro id among broken
    obtain ⟨dataset, here, own⟩ := List.mem_map.mp among
    rw [← own] at broken
    exact whole ⟨dataset, built.left dataset here, broken⟩
  obtain ⟨id, among, each⟩ := Topological.exists_ready left split sound
  obtain ⟨dataset, here, own⟩ := List.mem_map.mp among
  have isReady : ready dataset generated = true := by
    apply ready_of
    intro name refer
    apply each
    rw [← own]
    exact (IndustryPackDefinition.refers_iff (built.left dataset here)).mpr refer
  rw [stuck dataset here] at isReady
  cases isReady

end Built

/-! ## Runs -/

/-- Generating a dataset that is ready raises. -/
def Fails (error : FactoryError) : Prop :=
  ∃ dataset ∈ definition.datasets, ∃ generated pending,
    Built streams definition generated pending ∧ ready dataset generated = true ∧
      generateDataset streams definition dataset generated = .error error

variable {streams} {definition}

/-- A pass over a snapshot keeps the invariant, or generating a dataset raises; when it makes no
progress it changes nothing, and no dataset was ready. -/
theorem visits_result {rest : List DatasetBlueprint} {pass : Pass}
    (built : Built streams definition pass.generated pass.pending) (distinct : rest.Nodup)
    (inside : ∀ dataset ∈ rest, dataset ∈ pass.pending) :
    (∃ final, rest.foldlM (visit streams definition) pass = .ok final ∧
      Built streams definition final.generated final.pending ∧
        (final.progressed = false →
          final = pass ∧ ∀ dataset ∈ rest, ready dataset pass.generated = false)) ∨
      ∃ error, rest.foldlM (visit streams definition) pass = .error error ∧
        Fails streams definition error := by
  induction rest generalizing pass with
  | nil => exact .inl ⟨pass, rfl, built, fun _ => ⟨rfl, by simp⟩⟩
  | cons dataset rest ih =>
    have here := inside dataset List.mem_cons_self
    have later : ∀ other ∈ rest, other ∈ pass.pending := fun other member =>
      inside other (List.mem_cons_of_mem _ member)
    have parts := List.nodup_cons.mp distinct
    rw [List.foldlM_cons]
    cases isReady : ready dataset pass.generated with
    | false =>
      have step : visit streams definition pass dataset = .ok pass := by
        unfold visit
        rw [isReady]
        rfl
      rw [step]
      cases ih built parts.2 later with
      | inr raised => exact .inr raised
      | inl ended =>
        obtain ⟨final, ran, kept, idle⟩ := ended
        refine .inl ⟨final, ran, kept, ?_⟩
        intro still
        refine ⟨(idle still).1, ?_⟩
        intro other member
        cases List.mem_cons.mp member with
        | inl same => rw [same, isReady]
        | inr among => exact (idle still).2 other among
    | true =>
      cases made : generateDataset streams definition dataset pass.generated with
      | error error =>
        have step : visit streams definition pass dataset = .error error := by
          unfold visit
          rw [isReady, made]
          rfl
        rw [step]
        exact .inr ⟨error, rfl, dataset, built.left dataset here, pass.generated, pass.pending,
          built, isReady, made⟩
      | ok records =>
        let next : Pass := ⟨pass.generated ++ [(dataset.datasetId, records)],
          pass.pending.erase dataset, true⟩
        have step : visit streams definition pass dataset = .ok next := by
          unfold visit
          rw [isReady, made]
          rfl
        have inside : ∀ other ∈ rest, other ∈ next.pending := by
          intro other member
          have different : other ≠ dataset := fun same => parts.1 (same ▸ member)
          exact (List.mem_erase_of_ne different).mpr (later other member)
        have after : Built streams definition next.generated next.pending :=
          built.generate here isReady made
        rw [step]
        cases ih after parts.2 inside with
        | inr raised => exact .inr raised
        | inl ended =>
          obtain ⟨final, ran, kept, idle⟩ := ended
          refine .inl ⟨final, ran, kept, ?_⟩
          intro still
          rw [(idle still).1] at still
          cases still

/-- What a pass over the datasets that are left does. -/
theorem sweep_result {pending : List DatasetBlueprint} {generated : GeneratedPack}
    (built : Built streams definition generated pending) :
    (∃ final, sweep streams definition pending generated = .ok final ∧
      Built streams definition final.generated final.pending ∧
        (final.progressed = false → final.pending = pending ∧
          ∀ dataset ∈ pending, ready dataset generated = false)) ∨
      ∃ error, sweep streams definition pending generated = .error error ∧
        Fails streams definition error := by
  have ids := (List.nodup_append.mp built.distinct).2.1
  let start : Pass := ⟨generated, pending, false⟩
  have begun : Built streams definition start.generated start.pending := built
  cases visits_result begun (List.Nodup.of_map _ ids) fun _ member => member with
  | inr raised => exact .inr raised
  | inl ended =>
    obtain ⟨final, ran, kept, idle⟩ := ended
    refine .inl ⟨final, ran, kept, ?_⟩
    intro still
    obtain ⟨same, none⟩ := idle still
    rw [same]
    exact ⟨rfl, none⟩

/-- What the loop returns when no dataset is left, or raises. -/
theorem generateFrom_result {pending : List DatasetBlueprint} {generated : GeneratedPack}
    (built : Built streams definition generated pending) :
    (∃ pack, generateFrom streams definition pending generated = .ok pack ∧
      Built streams definition pack []) ∨
      ∃ error, generateFrom streams definition pending generated = .error error ∧
        (Fails streams definition error ∨
          definition.Broken ∧ ∃ message, error = .valueError message) := by
  induction pending, generated using generateFrom.induct streams definition with
  | case1 pending generated none =>
    rw [List.isEmpty_iff.mp none] at built ⊢
    rw [generateFrom]
    exact .inl ⟨generated, rfl, built⟩
  | case2 pending generated some error swept =>
    have step : generateFrom streams definition pending generated = .error error := by
      rw [generateFrom, if_neg some]
      split <;> simp_all
    rw [step]
    cases sweep_result built with
    | inl ended =>
      obtain ⟨final, ran, _⟩ := ended
      rw [swept] at ran
      cases ran
    | inr raised =>
      obtain ⟨own, ran, fails⟩ := raised
      rw [swept] at ran
      rw [Except.error.inj ran]
      exact .inr ⟨own, rfl, .inl fails⟩
  | case3 pending generated some pass swept progressed ih =>
    have step : generateFrom streams definition pending generated =
        generateFrom streams definition pass.pending pass.generated := by
      rw [generateFrom, if_neg some]
      split <;> simp_all
    rw [step]
    apply ih
    cases sweep_result built with
    | inl ended =>
      obtain ⟨final, ran, kept, _⟩ := ended
      rw [swept] at ran
      rw [Except.ok.inj ran]
      exact kept
    | inr raised =>
      obtain ⟨own, ran, _⟩ := raised
      rw [swept] at ran
      cases ran
  | case4 pending generated some pass swept stuck =>
    have left : pending ≠ [] := by simpa using some
    cases sweep_result built with
    | inl ended =>
      obtain ⟨final, ran, _, idle⟩ := ended
      rw [swept] at ran
      have same := Except.ok.inj ran
      have still : final.progressed = false := by
        rw [← same]
        exact Bool.eq_false_iff.mpr stuck
      have step : generateFrom streams definition pending generated =
          .error (.valueError ("cyclic or unknown dataset references: " ++
            ", ".intercalate (pass.pending.map (·.datasetId.shown)))) := by
        rw [generateFrom, if_neg some]
        split <;> simp_all
      exact .inr ⟨_, step, .inr ⟨built.broken left (idle still).2, _, rfl⟩⟩
    | inr raised =>
      obtain ⟨own, ran, _⟩ := raised
      rw [swept] at ran
      cases ran

end MockDatasetGenerator

end DataHarness
