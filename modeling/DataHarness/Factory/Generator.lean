import DataHarness.Release.Packaging

/-!
# Generated datasets of industry packs

A pack definition names datasets with typed fields, some of which refer to a field of another
dataset. `MockDatasetGenerator.generate` goes over the datasets that are left, again and again, and
generates those whose references are all generated; a pass that generates none raises.

The records of a dataset are drawn from a generator of its own, seeded by a digest of the names of
the pack and the dataset; a name that has no encoding, or a seed that is not written, raises. The
generators are a parameter: what `random` computes from their draws is not.
-/

namespace DataHarness

/-- What a constructor of a blueprint, or the generator, raises. -/
abbrev FactoryError : Type := PackageError

/-- The generators of `random.Random`: their seeding and the two draws the others come from. -/
structure RandomStreams where
  State : Type
  /-- `random.Random(seed)`. -/
  seeded : Nat → State
  /-- `random()`. -/
  random : State → Float × State
  /-- `_randbelow(bound)`. -/
  below : Nat → State → Nat × State
  /-- A draw is in [0, 1). -/
  random_unit : ∀ state, 0 ≤ (random state).1 ∧ (random state).1 < 1
  /-- A draw is below a positive bound. -/
  below_lt : ∀ {bound} state, 0 < bound → (below bound state).1 < bound

/-! ## Names -/

/-- A code point that is no character by itself. -/
def isSurrogate (point : Nat) : Bool := decide (0xD800 ≤ point) && decide (point ≤ 0xDFFF)

/-- A `str`, by whether `encode()` takes it. -/
inductive PyText
  | plain (text : String)
  /-- Code points with surrogates among them. -/
  | lone (points : List Nat) (surrogate : points.any isSurrogate = true)
deriving DecidableEq

/-- A string is a text. -/
instance : Coe String PyText := ⟨.plain⟩

namespace PyText

/-- `encode()`; the message is that of the codec without the position. -/
def encode : PyText → Except FactoryError String
  | plain text => .ok text
  | lone _ _ => .error (.valueError "'utf-8' codec can't encode: surrogates not allowed")

/-- A text as messages show it, where surrogates are escaped. -/
def shown : PyText → String
  | plain text => text
  | lone points _ => String.join (points.map fun point =>
      if isSurrogate point then "\\u" ++ String.ofList (Nat.toDigits 16 point)
      else String.singleton (Char.ofNat point))

/-- The text is not empty. -/
def filled (text : PyText) : Bool := text != .plain ""

end PyText

section Blueprints

variable [Stdlib]

/-- `repr` of a string: what that of the tuple has before its comma. -/
def reprText (text : String) : String :=
  String.ofList ((reprTuple [text]).toList.drop 1).dropLast.dropLast

/-! ## Blueprints -/

omit [Stdlib] in
/-- `FieldKind`. -/
inductive FieldKind
  | sequence
  | choice
  | integer
  | timestamp
  | reference
deriving DecidableEq

/-- `__post_init__` of a field. -/
def checkField (name : String) (kind : FieldKind) (values : List String) (minimum maximum : Int)
    (referenceDataset : Option PyText) (referenceField : Option String) (weights : List Float)
    (nullRate : Float) :
    Except FactoryError Unit := do
  require (name != "") "field name is required"
  require (!(kind = .choice && values.isEmpty))
    ("choice field " ++ reprText name ++ " requires values")
  require (weights.isEmpty || (kind = .choice && weights.length == values.length &&
      weights.all fun weight => weight.isFinite && !decide (weight ≤ 0)))
    ("weights for " ++ reprText name ++ " must match choices and be positive")
  require (nullRate.isFinite && decide (0 ≤ nullRate) && decide (nullRate < 1))
    ("null rate for " ++ reprText name ++ " must be in [0, 1)")
  require (!(kind = .sequence && nullRate != 0))
    ("sequence field " ++ reprText name ++ " cannot be nullable")
  require (!(kind = .integer && decide (maximum < minimum)))
    ("invalid integer range for " ++ reprText name)
  require (!(kind = .reference &&
      (!referenceDataset.any PyText.filled || referenceField.getD "" == "")))
    ("reference field " ++ reprText name ++ " requires a dataset and field")

/-- `FieldBlueprint`. -/
structure FieldBlueprint where
  name : String
  kind : FieldKind
  values : List String
  minimum : Int
  maximum : Int
  idPrefix : String
  referenceDataset : Option PyText
  referenceField : Option String
  weights : List Float
  nullRate : Float
  checked : checkField name kind values minimum maximum referenceDataset referenceField weights
    nullRate = .ok ()
deriving DecidableEq

/-- `__post_init__` of a dataset. -/
def checkDataset (datasetId : PyText) (rowCount : Int) (fields : List FieldBlueprint) :
    Except FactoryError Unit := do
  require (datasetId.filled && decide (0 < rowCount) && !fields.isEmpty)
    "dataset id, positive row count and fields are required"
  require (decide (fields.map (·.name)).Nodup)
    ("duplicate fields in dataset " ++ reprText datasetId.shown)

/-- `DatasetBlueprint`. -/
structure DatasetBlueprint where
  datasetId : PyText
  rowCount : Int
  fields : List FieldBlueprint
  checked : checkDataset datasetId rowCount fields = .ok ()
deriving DecidableEq

/-- The datasets that the reference fields of a dataset name. -/
def DatasetBlueprint.references (dataset : DatasetBlueprint) : List (Option PyText) :=
  (dataset.fields.filter (·.kind = .reference)).map (·.referenceDataset)

/-- `__post_init__` of a pack definition. -/
def checkDefinition (packId version : PyText) (datasets : List DatasetBlueprint) :
    Except FactoryError Unit := do
  require (packId.filled && version.filled && !datasets.isEmpty)
    "pack id, version and datasets are required"
  require (decide (datasets.map (·.datasetId)).Nodup) "dataset ids must be unique"

/-- `IndustryPackDefinition`. -/
structure IndustryPackDefinition where
  packId : PyText
  version : PyText
  seed : Int
  datasets : List DatasetBlueprint
  checked : checkDefinition packId version datasets = .ok ()

end Blueprints

/-! ## Draws -/

/-- `accumulate(weights)`. -/
def accumulate : List Float → List Float
  | [] => []
  | weight :: weights => weights.scanl (· + ·) weight

/-- The total that `random.choices` draws from, `cum_weights[-1] + 0.0`. -/
def totalWeight (weights : List Float) : Float := (accumulate weights).getLastD 0 + 0

/-- `bisect(values, x, low, high)`. -/
def bisect (values : List Float) (x : Float) (low high : Nat) : Nat :=
  if low < high then
    let middle := (low + high) / 2
    if x < values.getD middle 0 then bisect values x low middle
    else bisect values x (middle + 1) high
  else low
termination_by high - low

/-- `random.choices` takes weights whose total is positive and finite. -/
def takesWeights (weights : List Float) : Bool :=
  !decide (totalWeight weights ≤ 0) && (totalWeight weights).isFinite

/-- A record; its fields are in the order of the blueprint. -/
abbrev Record : Type := List (String × Json.Value)

/-- `GeneratedPack`, in the order of generation. -/
abbrev GeneratedPack : Type := List (PyText × List Record)

namespace MockDatasetGenerator

/-- `_epoch`, the start of 2026. -/
def epoch : DateTime := ⟨1767225600000000, some 0⟩

/-- `f"{number:04d}"`. -/
def padded (number : Nat) : String :=
  let text := toString number
  String.ofList (List.replicate (4 - text.length) '0') ++ text

variable [Stdlib] (streams : RandomStreams)

omit [Stdlib] in
/-- `rng.choices(values, weights=weights, k=1)[0]`. -/
def choices (values : List String) (weights : List Float) (state : streams.State) :
    Except FactoryError (String × streams.State) := do
  require ((accumulate weights).length == values.length)
    "The number of weights does not match the population"
  require (!decide (totalWeight weights ≤ 0)) "Total of weights must be greater than zero"
  require (totalWeight weights).isFinite "Total of weights must be finite"
  let (draw, state) := streams.random state
  let position := bisect (accumulate weights) (draw * totalWeight weights) 0 (values.length - 1)
  return (← present values[position]?, state)

/-- A field is left null: a draw is only made for a rate that is not zero. -/
def skips (field : FieldBlueprint) (state : streams.State) : Bool × streams.State :=
  if field.nullRate == 0 then (false, state)
  else
    let (draw, state) := streams.random state
    (decide (draw < field.nullRate), state)

/-- The value of a field that is no sequence and is not left null. -/
def drawValue (generated : GeneratedPack) (index : Nat) (field : FieldBlueprint)
    (state : streams.State) : Except FactoryError (Json.Value × streams.State) :=
  match field.kind with
  | .choice =>
    if field.weights.isEmpty then do
      let (position, state) := streams.below field.values.length state
      return (.str (← present field.values[position]?), state)
    else do
      let (value, state) ← choices streams field.values field.weights state
      return (.str value, state)
  | .integer =>
    let (offset, state) := streams.below (field.maximum - field.minimum + 1).toNat state
    .ok (.int (field.minimum + offset), state)
  | .timestamp =>
    let (minutes, state) := streams.below 525601 state
    .ok (.str (isoformat (epoch.add (minutes * 60000000))), state)
  -- A sequence does not get here.
  | .reference | .sequence => do
    let referenced ← present (generated.lookup (field.referenceDataset.getD (.plain "")))
    let target ← present referenced[index % referenced.length]?
    return (← present (target.lookup (field.referenceField.getD "")), state)

/-- The value of a field in the record of an index. -/
def fieldValue (generated : GeneratedPack) (index : Nat) (field : FieldBlueprint)
    (state : streams.State) : Except FactoryError (Json.Value × streams.State) :=
  if field.kind = .sequence then
    .ok (.str (field.idPrefix ++ "-" ++ padded (index + 1)), state)
  else
    let (null, state) := skips streams field state
    if null then .ok (.null, state) else drawValue streams generated index field state

/-- The loop over the fields of a record. -/
def fillRecord (generated : GeneratedPack) (index : Nat) :
    List FieldBlueprint → streams.State → Except FactoryError (Record × streams.State)
  | [], state => .ok ([], state)
  | field :: fields, state => do
    let (value, state) ← fieldValue streams generated index field state
    let (record, state) ← fillRecord generated index fields state
    return ((field.name, value) :: record, state)

/-- The loop over the indices of the records, from one on. -/
def fillRecords (generated : GeneratedPack) (fields : List FieldBlueprint) :
    Nat → Nat → streams.State → Except FactoryError (List Record)
  | 0, _, _ => .ok []
  | rows + 1, index, state => do
    let (record, state) ← fillRecord streams generated index fields state
    return record :: (← fillRecords generated fields rows (index + 1) state)

/-- The number that a hexadecimal digit stands for. -/
def hexValue (digit : Char) : Nat :=
  if digit.isDigit then digit.toNat - '0'.toNat else digit.toNat - 'a'.toNat + 10

/-- `seed_material.encode()`: a seed that is not written raises, and so does a name without an
encoding. -/
def seedMaterial (definition : IndustryPackDefinition) (datasetId : PyText) :
    Except FactoryError String := do
  require (!longInteger definition.seed) longIntegerMessage
  let packId ← definition.packId.encode
  let version ← definition.version.encode
  let dataset ← datasetId.encode
  return packId ++ ":" ++ version ++ ":" ++ toString definition.seed ++ ":" ++ dataset

/-- The seed of a dataset: the first eight bytes of a digest. -/
def datasetSeed (definition : IndustryPackDefinition) (datasetId : PyText) :
    Except FactoryError Nat := do
  let material ← seedMaterial definition datasetId
  return ((sha256 material).toList.take 16).foldl
    (fun number digit => 16 * number + hexValue digit) 0

/-- `_generate_dataset`. -/
def generateDataset (definition : IndustryPackDefinition) (dataset : DatasetBlueprint)
    (generated : GeneratedPack) : Except FactoryError (List Record) := do
  let seed ← datasetSeed definition dataset.datasetId
  fillRecords streams generated dataset.fields dataset.rowCount.toNat 0 (streams.seeded seed)

/-! ## Passes -/

/-- All that a dataset refers to is generated. -/
def ready (dataset : DatasetBlueprint) (generated : GeneratedPack) : Bool :=
  dataset.references.all (· ∈ generated.map fun entry => some entry.1)

/-- What a pass works on. -/
structure Pass where
  generated : GeneratedPack
  pending : List DatasetBlueprint
  progressed : Bool

/-- What a pass does with a dataset. The ids of the datasets are unique, so a dataset that is
generated is a new entry, and it is among those that are left. -/
def visit (definition : IndustryPackDefinition) (pass : Pass) (dataset : DatasetBlueprint) :
    Except FactoryError Pass :=
  if ready dataset pass.generated then do
    let records ← generateDataset streams definition dataset pass.generated
    return { generated := pass.generated ++ [(dataset.datasetId, records)]
             pending := pass.pending.erase dataset
             progressed := true }
  else .ok pass

/-- A pass over a snapshot of the datasets that are left. -/
def sweep (definition : IndustryPackDefinition) (pending : List DatasetBlueprint)
    (generated : GeneratedPack) : Except FactoryError Pass :=
  pending.foldlM (visit streams definition) ⟨generated, pending, false⟩

variable {streams}

/-- The end of a pass that makes progress has fewer datasets left. -/
theorem sweep_shrinks {definition : IndustryPackDefinition} {pending : List DatasetBlueprint}
    {generated : GeneratedPack} {pass : Pass}
    (swept : sweep streams definition pending generated = .ok pass)
    (progressed : pass.progressed = true) : pass.pending.length < pending.length := by
  -- Until progress is made, the datasets that are left are those of the snapshot.
  have whole : ∀ (rest : List DatasetBlueprint) (start : Pass), (∀ item ∈ rest, item ∈ pending) →
      (start.progressed = false → start.pending = pending) →
      (start.progressed = true → start.pending.length < pending.length) →
      rest.foldlM (visit streams definition) start = .ok pass →
      pass.pending.length < pending.length := by
    intro rest
    induction rest with
    | nil =>
      intro start _ _ fewer ran
      have same : start = pass := Except.ok.inj ran
      rw [← same] at progressed ⊢
      exact fewer progressed
    | cons item rest ih =>
      intro start inside unchanged fewer ran
      rw [List.foldlM_cons] at ran
      obtain ⟨next, visited, ran⟩ := of_bind_ok ran
      have later : ∀ other ∈ rest, other ∈ pending := fun other member =>
        inside other (List.mem_cons_of_mem _ member)
      unfold visit at visited
      split at visited
      · obtain ⟨records, _, made⟩ := of_bind_ok visited
        have same := Except.ok.inj made
        apply ih next later _ _ ran
        · rw [← same]
          simp
        · intro _
          rw [← same]
          show (start.pending.erase item).length < pending.length
          cases held : start.progressed with
          | true => exact lt_of_le_of_lt List.length_erase_le (fewer held)
          | false =>
            have here : item ∈ pending := inside item List.mem_cons_self
            have positive := List.length_pos_of_mem here
            rw [unchanged held, List.length_erase_of_mem here]
            omega
      · have same : start = next := Except.ok.inj visited
        rw [← same] at ran
        exact ih start later unchanged fewer ran
  exact whole pending ⟨generated, pending, false⟩ (fun _ member => member) (fun _ => rfl)
    (fun contrary => absurd contrary (by simp)) swept

variable (streams)

/-- The loop while datasets are left. -/
def generateFrom (definition : IndustryPackDefinition) (pending : List DatasetBlueprint)
    (generated : GeneratedPack) : Except FactoryError GeneratedPack :=
  if pending.isEmpty then .ok generated
  else
    match _ : sweep streams definition pending generated with
    | .error error => .error error
    | .ok pass =>
      if _ : pass.progressed = true then
        generateFrom definition pass.pending pass.generated
      else .error (.valueError ("cyclic or unknown dataset references: " ++
        ", ".intercalate (pass.pending.map (·.datasetId.shown))))
termination_by pending.length
decreasing_by exact sweep_shrinks ‹_› ‹_›

/-- `generate`. -/
def generate (definition : IndustryPackDefinition) : Except FactoryError GeneratedPack :=
  generateFrom streams definition definition.datasets []

end MockDatasetGenerator

end DataHarness
