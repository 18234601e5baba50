import DataHarness.Decode.Loads
import DataHarness.Library.Paging
import DataHarness.Query.Structured

/-!
# The live query connectors

The connectors of the local runtime lab read a table, a bucket, a topic or a collection, each with
checks of its own, and answer a query with one batch. Its version is the digest of what was read,
and its lineage has a reference for each row. The database, the object store, the consumer of the
topic and the service are outside: they give what they hold.
-/

namespace DataHarness

open StructuredConnector (tuple unhashable fieldNames)

/-! ## Batches -/

section Batches

variable [Stdlib]

/-- A digest is not empty. -/
theorem digest_ne_empty (value : Json.Value) : digest value ≠ "" := by
  intro empty
  have characters := congrArg String.toList empty
  simp [digest] at characters

/-- `_version`, at a moment by the clock. -/
def liveVersion (sourceId : String) (named : sourceId ≠ "") (payload : Json.Value)
    (moment : Int) : SourceVersion where
  sourceId := sourceId
  version := digest payload
  observedAt := ⟨moment, some 0⟩
  effectiveAt := none
  required := ⟨named, digest_ne_empty payload⟩
  aware := ⟨rfl, by simp⟩

end Batches

/-- An exception instead of a batch. -/
def failed (error : QueryError) : Feed DataBatch QueryError := ⟨[], some error⟩

/-- `yield DataBatch(kind, rows, (version,), lineage, row_count=len(rows))`. -/
def liveBatch (kind : BatchKind) (rows : List Json.Value) (version : SourceVersion)
    (lineage : List LineageRef) : Feed DataBatch QueryError :=
  match DataBatch.make kind (.json (.arr rows)) [version] lineage (some rows.length) none with
  | .ok batch => ⟨[batch], none⟩
  | .error message => failed (.valueError message)

/-- A feed is one batch of rows, with their number. -/
def IsBatchOf (feed : Feed DataBatch QueryError) (rows : List Json.Value) : Prop :=
  ∃ batch, feed = ⟨[batch], none⟩ ∧ batch.payload = .json (.arr rows) ∧
    batch.rowCount = some rows.length

/-- An exception is no batch. -/
theorem failed_not_batch (error : QueryError) (rows : List Json.Value) :
    ¬ IsBatchOf (failed error) rows := by
  rintro ⟨batch, same, -⟩
  cases same

/-- Rows are yielded as a batch exactly when there is lineage. -/
theorem liveBatch_isBatchOf {kind : BatchKind} {rows others : List Json.Value}
    {version : SourceVersion} {lineage : List LineageRef} :
    IsBatchOf (liveBatch kind rows version lineage) others ↔ others = rows ∧ lineage ≠ [] := by
  unfold liveBatch DataBatch.make
  by_cases required : [version] ≠ [] ∧ lineage ≠ []
  · rw [dif_pos required]
    constructor
    · rintro ⟨batch, same, payload, -⟩
      obtain rfl := (List.cons.inj (Feed.mk.inj same).1).1
      exact ⟨(Json.Value.arr.inj (Payload.json.inj payload)).symm, required.2⟩
    · rintro ⟨rfl, -⟩
      exact ⟨_, rfl, rfl, rfl⟩
  · rw [dif_neg required]
    constructor
    · intro batch
      exact absurd batch (failed_not_batch _ _)
    · rintro ⟨-, some⟩
      exact absurd ⟨List.cons_ne_nil _ _, some⟩ required

/-- The references to records of an asset. -/
def references (sourceId assetId : String) (named : sourceId ≠ "" ∧ assetId ≠ "")
    (records : List (Option String)) : List LineageRef :=
  records.map fun record => ⟨sourceId, assetId, record, none, named⟩

/-- There are references when there are records. -/
theorem references_ne_nil {sourceId assetId : String} {named : sourceId ≠ "" ∧ assetId ≠ ""}
    {records : List (Option String)} :
    references sourceId assetId named records ≠ [] ↔ records ≠ [] := by
  unfold references
  rw [ne_eq, List.map_eq_nil_iff]

/-! ## PostgreSQL -/

/-- A value of a column: a scalar, a moment, or another object, known by its text. -/
inductive DbValue
  | scalar (value : Scalar)
  | moment (time : DateTime)
  | other (text : String)

/-- `_json_value`. -/
def jsonValue [Stdlib] : DbValue → Scalar
  | .scalar value => value
  | .moment time => .str (isoformat time)
  | .other text => .str text

/-- `SELECT … FROM … WHERE … ORDER BY` of the first column, without its limit. -/
structure Statement where
  columns : List String
  table : String
  filters : List (String × PyValue)

/-- A database. -/
structure Database where
  /-- The columns of a table; there are none where there is no table. -/
  columns : String → List String
  /-- The rows a statement selects, in its order; none where the statement is refused. -/
  select : Statement → Option (List (List DbValue))
  /-- A row has a value for each column of its statement. -/
  wide : ∀ statement found, select statement = some found →
    ∀ values ∈ found, values.length = statement.columns.length

namespace PostgreSQLLiveConnector

/-- `source_id`. -/
def sourceId : String := "whitegoods.erp"

/-- `plan.get(name, {}).get(asset_id)`. -/
def scope (plan : List (PyKey × PyValue)) (name assetId : String) :
    Except QueryError (Option PyValue) :=
  match lookupKey name plan with
  | none => .ok none
  | some (.mapping entries _) => .ok (lookupKey assetId entries)
  | some _ => .error (.other "object has no attribute 'get'")

/-- A key and its value, of an element of what `dict` is called with. -/
def pairOf (value : PyValue) : Except QueryError (PyKey × PyValue) := do
  let items ← tuple (some value)
  match items with
  | [.str text, own] => .ok (.str text, own)
  | [key, own] =>
    if unhashable key then .error (.typeError "unhashable type") else .ok (.other key.text, own)
  | _ => .error (.valueError "dictionary update sequence element has the wrong length")

/-- `dict(value)`, with `{}` for a missing one. -/
def dictOf : Option PyValue → Except QueryError (List (PyKey × PyValue))
  | none => .ok []
  | some (.mapping entries _) => .ok entries
  | some value => do
    let items ← tuple (some value)
    items.mapM pairOf

/-- The filters of string columns; a later one replaces an earlier one of its column. -/
def columnFilters (entries : List (PyKey × PyValue)) : Dict PyValue :=
  entries.foldl
    (fun filters entry =>
      match entry.1 with
      | .str name => filters.set name entry.2
      | .other _ => filters)
    .empty

/-- The checks of a request, and its statement. -/
def check (database : Database) (request : QueryRequest) : Except QueryError Statement :=
  match request.assetIds with
  | [assetId] =>
    if request.sourceId ≠ sourceId then
      .error (.valueError "PostgreSQL execution requires exactly one local asset")
    else if database.columns assetId = [] then
      .error (.keyError ("unknown PostgreSQL asset: " ++ assetId))
    else do
      let selected ← tuple (← scope request.plan "select_by_asset" assetId)
      let filters ← dictOf (← scope request.plan "where_by_asset" assetId)
      let refusal : QueryError :=
        .other "PostgreSQL plan contains an unapproved projection or filter"
      if selected = [] then .error refusal
      else if selected.any unhashable then .error (.typeError "unhashable type")
      else
        match fieldNames selected with
        | none => .error refusal
        | some columns =>
          if subset columns (database.columns assetId) &&
              keysSubset filters (database.columns assetId) then
            .ok ⟨columns, assetId, (columnFilters filters).entries⟩
          else .error refusal
  | _ => .error (.valueError "PostgreSQL execution requires exactly one local asset")

variable [Stdlib]

/-- A row, of the columns and their values. -/
def rowOf (columns : List String) (values : List DbValue) : Dict Scalar :=
  (columns.zip values).foldl (fun row entry => row.set entry.1 (jsonValue entry.2)) .empty

/-- `str(row[selected[0]])`. -/
def recordOf (columns : List String) (row : Dict Scalar) : String :=
  (((columns.head?.bind row.get?).getD .none).toPy).text

/-- The rows of a statement within a limit. -/
def selectRows (database : Database) (statement : Statement) (limit : Nat) :
    Option (List (Dict Scalar)) :=
  (database.select statement).map fun found => (found.take limit).map (rowOf statement.columns)

/-- `execute`. -/
def execute (database : Database) (moment : Int) (request : QueryRequest) :
    Feed DataBatch QueryError :=
  match check database request with
  | .error error => failed error
  | .ok statement =>
    if named : statement.table ≠ "" then
      match selectRows database statement request.limit.toNat with
      | none => failed (.other "the database refuses the statement")
      | some rows =>
        let values := rows.map Dict.toJson
        liveBatch .arrow values (liveVersion sourceId (by decide) (.arr values) moment)
          (references sourceId statement.table ⟨by decide, named⟩
            (rows.map fun row => some (recordOf statement.columns row)))
    else failed (.valueError "asset reference requires source_id and asset_id")

end PostgreSQLLiveConnector

/-! ## S3 -/

/-- An object of a bucket, as it is listed. -/
structure S3Object where
  key : String
  etag : String
  size : Nat
  lastModified : DateTime

/-- A bucket. -/
structure Bucket where
  /-- The objects in the order of their keys. -/
  objects : List S3Object
  /-- How many keys a response holds at most, whatever `MaxKeys` asks for. -/
  maxKeys : Nat
  /-- A response holds some. -/
  positive : 0 < maxKeys

/-- `list_objects_v2(Bucket=…, MaxKeys=limit).get("Contents", [])`. -/
def Bucket.list (bucket : Bucket) (limit : Nat) : List S3Object :=
  bucket.objects.take (min limit bucket.maxKeys)

namespace S3LiveConnector

/-- `source_id`. -/
def sourceId : String := "whitegoods.documents"

/-- `bucket`. -/
def bucketName : String := "technical-documents"

/-- `text.strip('"')`. -/
def stripQuotes (text : String) : String :=
  let front := text.toList.dropWhile (· == '"')
  String.ofList (front.reverse.dropWhile (· == '"')).reverse

variable [Stdlib]

/-- The row of an object. -/
def rowOf (item : S3Object) : Json.Value :=
  .obj [("key", .str item.key), ("etag", .str (stripQuotes item.etag)), ("size", .int item.size),
    ("last_modified", .str (isoformat item.lastModified))]

/-- `execute`. -/
def execute (bucket : Bucket) (moment : Int) (request : QueryRequest) : Feed DataBatch QueryError :=
  if request.sourceId ≠ sourceId ∨ request.assetIds ≠ [bucketName] then
    failed (.valueError "S3 execution is restricted to the technical-documents bucket")
  else
    let found := bucket.list request.limit.toNat
    let rows := found.map rowOf
    liveBatch .document rows (liveVersion sourceId (by decide) (.arr rows) moment)
      (references sourceId bucketName ⟨by decide, by decide⟩ (found.map fun item => some item.key))

end S3LiveConnector

/-! ## Kafka -/

/-- A message of a topic; a tombstone has no value. -/
structure KafkaMessage where
  partition : Nat
  offset : Nat
  value : Option ByteArray

/-- A consumer of a topic: its messages, and what iterating over it gives in the place of each, the
value or the exception that ends the loop. -/
structure KafkaConsumer where
  messages : List KafkaMessage
  handed : KafkaMessage → Except QueryError Json.Value

namespace KafkaLiveConnector

/-- `source_id`. -/
def sourceId : String := "whitegoods.telemetry"

/-- `topic`. -/
def topic : String := "telemetry"

section Values

variable [Interpreter]

/-- `value_deserializer`. -/
def deserialize (value : Option ByteArray) : Except QueryError Json.Value :=
  match value with
  | none => .error (.other "object has no attribute 'decode'")
  | some content =>
    match String.fromUTF8? content with
    | none => .error (.other "UnicodeDecodeError")
    | some text =>
      match loads false text with
      | .ok value => .ok value
      | .error _ => .error (.other "the value is no JSON that is read")

/-- The consumer deserializes a message when it hands it on, and no earlier. -/
def OneByOne (consumer : KafkaConsumer) : Prop :=
  ∀ message ∈ consumer.messages, consumer.handed message = deserialize message.value

end Values

/-- The loop over the messages of the consumer. -/
def poll (handed : KafkaMessage → Except QueryError Json.Value) (limit : Nat) :
    List KafkaMessage → List Json.Value → List String →
      Except QueryError (List Json.Value × List String)
  | [], rows, offsets => .ok (rows, offsets)
  | message :: messages, rows, offsets => do
    let value ← handed message
    let rows := rows ++ [value]
    let offsets := offsets ++ [toString message.partition ++ ":" ++ toString message.offset]
    if limit ≤ rows.length then .ok (rows, offsets) else poll handed limit messages rows offsets

/-- `str(row.get("event_id") or index)`. -/
def recordOf [ValueText] (index : Nat) (row : Json.Value) : Except QueryError (Option String) :=
  match row with
  | .obj members =>
    match members.lookup "event_id" with
    | some value => .ok (some (if truthy value then ValueText.str value else toString index))
    | none => .ok (some (toString index))
  | _ => .error (.other "object has no attribute 'get'")

/-- `execute`. -/
def execute [Stdlib] [ValueText] (consumer : KafkaConsumer) (moment : Int)
    (request : QueryRequest) : Feed DataBatch QueryError :=
  if request.sourceId ≠ sourceId ∨ request.assetIds ≠ [topic] then
    failed (.valueError "Kafka execution is restricted to the telemetry topic")
  else
    match poll consumer.handed request.limit.toNat consumer.messages [] [] with
    | .error error => failed error
    | .ok (rows, offsets) =>
      match rows.zipIdx.mapM fun entry => recordOf entry.2 entry.1 with
      | .error error => failed error
      | .ok records =>
        liveBatch .event rows
          (liveVersion sourceId (by decide) (.arr (offsets.map .str)) moment)
          (references sourceId topic ⟨by decide, by decide⟩ records)

end KafkaLiveConnector

/-! ## REST -/

namespace RestLiveConnector

/-- `source_id`. -/
def sourceId : String := "whitegoods.service-api"

/-- `asset_id`. -/
def assetId : String := "appointments"

variable {κ : Type}

/-- The `while` loop over the pages, with a number of requests at most. -/
def readPages (service : Paging.Service Json.Value κ) (limit fuel : Nat) :
    Option (List Json.Value) :=
  Paging.read service limit fuel [] none 0

/-- `row["appointment_id"]`; an id that is no text is kept as its JSON. -/
def recordOf (row : Json.Value) : Except QueryError (Option String) :=
  match row with
  | .obj members =>
    match members.lookup "appointment_id" with
    | some (.str text) => .ok (some text)
    | some .null => .ok none
    | some value => .ok (some (Json.dumps value))
    | none => .error (.keyError "appointment_id")
  | _ => .error (.typeError "indices must be integers")

/-- `execute`, with a number of requests at most. -/
def execute [Stdlib] (service : Paging.Service Json.Value κ) (moment : Int)
    (request : QueryRequest) (fuel : Nat) : Option (Feed DataBatch QueryError) :=
  if request.sourceId ≠ sourceId ∨ request.assetIds ≠ [assetId] then
    some (failed (.valueError "REST execution is restricted to appointments"))
  else
    match readPages service request.limit.toNat fuel with
    | none => none
    | some rows =>
      match rows.mapM recordOf with
      | .error error => some (failed error)
      | .ok records =>
        some (liveBatch .arrow rows (liveVersion sourceId (by decide) (.arr rows) moment)
          (references sourceId assetId ⟨by decide, by decide⟩ records))

end RestLiveConnector

end DataHarness
