import DataHarness.Query.Runtime

/-!
# The structured reference connector

`StructuredConnector` of the white-goods laboratory: five tables read from text files, so that
every value is a string. A request names its selections and filters for each asset, or once for
all of them; the row limit is applied to each asset by itself, and an empty selection returns
whole rows.
-/

namespace DataHarness

/-- The keys of `FILES`. -/
inductive StructuredAsset
  | products
  | customers
  | installedProducts
  | serviceOrders
  | qualityInspections
deriving DecidableEq

namespace StructuredAsset

/-- The id of an asset. -/
def name : StructuredAsset → String
  | products => "products"
  | customers => "customers"
  | installedProducts => "installed_products"
  | serviceOrders => "service_orders"
  | qualityInspections => "quality_inspections"

/-- `PRIMARY_KEYS`. -/
def primaryKey : StructuredAsset → String
  | products => "product_id"
  | customers => "customer_id"
  | installedProducts => "serial_number"
  | serviceOrders => "service_order_id"
  | qualityInspections => "inspection_id"

/-- The asset of an id. -/
def ofName (text : String) : Option StructuredAsset :=
  [products, customers, installedProducts, serviceOrders, qualityInspections].find?
    fun asset => asset.name = text

/-- An asset is found under its own id only. -/
theorem name_of_ofName {text : String} {asset : StructuredAsset}
    (found : ofName text = some asset) : asset.name = text := by
  simpa using List.find?_some found

/-- Every asset has an id. -/
theorem name_ne_empty (asset : StructuredAsset) : asset.name ≠ "" := by
  cases asset <;> decide

end StructuredAsset

/-- The columns of the tables; every table has its primary key. -/
structure StructuredSchema where
  columns : StructuredAsset → List String
  distinct : ∀ asset, (columns asset).Nodup
  keyed : ∀ asset, asset.primaryKey ∈ columns asset

/-- `StructuredConnector`: the rows of each table, and the version of the data set. -/
structure StructuredConnector (schema : StructuredSchema) where
  rows : StructuredAsset → List (Dict String)
  version : String
  /-- A row has the columns of its table. -/
  shaped : ∀ asset, ∀ row ∈ rows asset, row.keys = schema.columns asset
  versioned : version ≠ ""

namespace StructuredConnector

/-- Rows of small runs have a version. -/
theorem rows_versioned : "sha256:rows" ≠ "" := by decide

/-- Queries of small runs have a purpose. -/
theorem analysis_purposed : isBlank "analysis" = false := by decide

/-- `profile.connector_id`. -/
def connectorId : String := "whitegoods.erp"

/-- `profile.limits.max_result_bytes`. -/
def maxResultBytes : Nat := 5000000

/-- `FIXED_TIME`: midnight UTC of 27 August 2026. -/
def fixedTime : DateTime := ⟨1787788800000000, some 0⟩

/-! ## The shape of a request -/

/-- `plan.get(key)`, where a missing key and `None` are one. -/
def given (plan : List (PyKey × PyValue)) (key : String) : Option PyValue :=
  match lookupKey key plan with
  | some .none => none
  | found => found

/-- Where a request keeps its selections and filters: by asset, or once for every asset. -/
inductive Scopes
  | canonical (selections filters : List (PyKey × PyValue))
  | shared (selection filter : Option PyValue)

/-- The scopes of a plan. -/
def scopes (plan : List (PyKey × PyValue)) : Except QueryError Scopes :=
  match given plan "select_by_asset", given plan "where_by_asset" with
  | none, none => .ok (.shared (lookupKey "select" plan) (lookupKey "where" plan))
  | some (.mapping selections _), some (.mapping filters _) => .ok (.canonical selections filters)
  | _, _ => .error (.valueError "canonical select and filter scopes must be mappings")

/-- The selection of an asset, none where it is missing. -/
def Scopes.selection (scopes : Scopes) (asset : String) : Option PyValue :=
  match scopes with
  | canonical selections _ => lookupKey asset selections
  | shared selection _ => selection

/-- The filter of an asset, none where it is missing. -/
def Scopes.filter (scopes : Scopes) (asset : String) : Option PyValue :=
  match scopes with
  | canonical _ filters => lookupKey asset filters
  | shared _ filter => filter

/-- A key as an object. -/
def keyValue : PyKey → PyValue
  | .str text => .str text
  | .other text => .other text

/-- `tuple(value)`, with `()` for a missing one. -/
def tuple : Option PyValue → Except QueryError (List PyValue)
  | none => .ok []
  | some (.sequence items _) => .ok items
  | some (.str text) => .ok (text.toList.map fun c => .str (String.singleton c))
  | some (.mapping entries _) => .ok (entries.map fun item => keyValue item.1)
  | some _ => .error (.typeError "object is not iterable")

/-- The string a value is. -/
def string? : PyValue → Option String
  | .str text => some text
  | _ => none

/-- The strings among selected values, none where one of them is another object. -/
def fieldNames : List PyValue → Option (List String)
  | [] => some []
  | value :: values => do
    let name ← string? value
    let names ← fieldNames values
    some (name :: names)

/-- Strings are the strings they are. -/
@[simp] theorem fieldNames_strings (names : List String) :
    fieldNames (names.map .str) = some names := by
  induction names with
  | nil => rfl
  | cons name names ih => simp [fieldNames, string?, ih]

/-- A selected value that is no string and cannot be an element of a set either. -/
def unhashable : PyValue → Bool
  | .sequence _ _ | .mapping _ _ => true
  | _ => false

/-- An asset with the filter and the fields asked of it. -/
structure Scan where
  asset : StructuredAsset
  filters : List (PyKey × PyValue)
  fields : List String

/-- The checks of one asset of a request. -/
def scan (schema : StructuredSchema) (scopes : Scopes) (asset : String) :
    Except QueryError Scan :=
  match StructuredAsset.ofName asset with
  | none => .error (.keyError ("unknown structured asset: " ++ asset))
  | some known => do
    let selected ← tuple (scopes.selection asset)
    match (scopes.filter asset).getD (.mapping [] "") with
    | .mapping filters _ =>
      if ¬ keysSubset filters (schema.columns known) then
        .error (.valueError "query references an unknown field")
      else if selected.any unhashable then .error (.typeError "unhashable type")
      else match fieldNames selected with
        | none => .error (.valueError "query references an unknown field")
        | some fields =>
          if ¬ subset fields (schema.columns known) then
            .error (.valueError "query references an unknown field")
          else .ok ⟨known, filters, fields⟩
    | _ => .error (.valueError "where must be a mapping")

/-! ## Batches -/

variable {schema : StructuredSchema}

/-- `str(row.get(key))`. -/
def cell (row : Dict String) : PyKey → String
  | .str key => (row.get? key).getD "None"
  | .other _ => "None"

/-- `all(str(row.get(key)) == str(value) …)`: the filters in turn, up to the first that differs;
`str(value)` may raise. -/
def compare (row : Dict String) : List (PyKey × PyValue) → Except QueryError Bool
  | [] => .ok true
  | item :: filters => do
    let text ← item.2.told.mapError QueryError.ofWrite
    if cell row item.1 = text then compare row filters else .ok false

/-- The filters match a row. -/
def matchesFilters (filters : List (PyKey × PyValue)) (row : Dict String) : Bool :=
  (compare row filters).toOption.getD false

/-- Every row of a table is compared with the filters, also behind the limit. -/
def compareRows (filters : List (PyKey × PyValue)) : List (Dict String) → Except QueryError Unit
  | [] => .ok ()
  | row :: rows => do
    let _ ← compare row filters
    compareRows filters rows

/-- The selected part of a row, the whole row where nothing is selected. -/
def project (fields : List String) (row : Dict String) : Dict String :=
  if fields = [] then row
  else fields.foldl (fun result key => result.set key ((row.get? key).getD "")) .empty

/-- The rows a scan matches, as many as the limit allows. -/
def matched (connector : StructuredConnector schema) (limit : Int) (scan : Scan) :
    List (Dict String) :=
  ((connector.rows scan.asset).filter (matchesFilters scan.filters)).take limit.toNat

/-- A row as JSON. -/
def rowJson (row : Dict String) : Json.Value :=
  .obj (row.entries.map fun item => (item.1, .str item.2))

/-- The lineage of one record of an asset. -/
def lineageRef (asset : StructuredAsset) (record : String) : LineageRef :=
  ⟨connectorId, asset.name, some record, none, by decide, asset.name_ne_empty⟩

/-- The lineage of the rows of an asset. -/
def lineage (asset : StructuredAsset) (rows : List (Dict String)) : List LineageRef :=
  if rows.isEmpty then [lineageRef asset "empty-result"]
  else rows.map fun row => lineageRef asset ((row.get? asset.primaryKey).getD "")

/-- A batch always has lineage. -/
theorem lineage_ne_nil (asset : StructuredAsset) (rows : List (Dict String)) :
    lineage asset rows ≠ [] := by
  cases rows <;> simp [lineage]

/-- The version of the data set. -/
def sourceVersion (connector : StructuredConnector schema) : SourceVersion where
  sourceId := connectorId
  version := connector.version
  observedAt := fixedTime
  effectiveAt := none
  required := ⟨by decide, connector.versioned⟩
  aware := by simp [fixedTime, DateTime.aware]

/-- The batch of a scan. -/
def batch (connector : StructuredConnector schema) (limit : Int) (scan : Scan) : DataBatch :=
  let rows := connector.matched limit scan
  { kind := .arrow
    payload := .json (.arr (rows.map fun row => rowJson (project scan.fields row)))
    sourceVersions := [connector.sourceVersion]
    lineage := lineage scan.asset rows
    rowCount := some rows.length
    byteCount := none
    required := ⟨by simp, lineage_ne_nil _ _⟩ }

/-- The rows of a scan can be compared with its filters. -/
def comparable (connector : StructuredConnector schema) (scan : Scan) : Bool :=
  (compareRows scan.filters (connector.rows scan.asset)).toBool

/-- The scan of an asset, whose rows have been compared. -/
def visit (connector : StructuredConnector schema) (scopes : Scopes) (asset : String) :
    Except QueryError Scan := do
  let own ← scan schema scopes asset
  compareRows own.filters (connector.rows own.asset)
  return own

/-- The loop over the assets: batches up to the first asset that raises. -/
def batches (connector : StructuredConnector schema) (limit : Int) (scopes : Scopes) :
    List String → Feed DataBatch QueryError
  | [] => ⟨[], none⟩
  | asset :: rest =>
    match connector.visit scopes asset with
    | .error error => ⟨[], some error⟩
    | .ok scan => (connector.batches limit scopes rest).push (connector.batch limit scan)

/-- `execute`; during an injected outage the connector is not available. -/
def execute (connector : StructuredConnector schema) (available : Bool) (request : QueryRequest) :
    Feed DataBatch QueryError :=
  if available then
    match scopes request.plan with
    | .error error => ⟨[], some error⟩
    | .ok scopes => connector.batches request.limit scopes request.assetIds
  else ⟨[], some (.labSourceUnavailable ("injected outage: " ++ connectorId))⟩

/-- The connector as the gateway sees it. -/
def asConnector (connector : StructuredConnector schema) (available : Bool) : QueryConnector where
  connectorId := connectorId
  capabilities := [.discover, .describe, .query, .predicatePushdown, .projectionPushdown]
  maxResultBytes := maxResultBytes
  execute := connector.execute available

/-- A gateway that has only this connector. -/
def gateway (connector : StructuredConnector schema) (available : Bool)
    (policy : AuthorizationRequest → PolicyDecision) : HarnessGateway where
  registry := ⟨[connector.asConnector available], by simp⟩
  policy := policy

/-! ## What a batch counts for -/

/-- A row of strings has no exceptional number. -/
theorem finite_rowJson (row : Dict String) : finite (rowJson row) = true := by
  unfold rowJson finite
  induction row.entries with
  | nil => rfl
  | cons item entries ih => simpa [finiteMembers, finite] using ih

/-- Nor has a list of rows. -/
theorem finite_rows (rows : List (Dict String)) : finite (.arr (rows.map rowJson)) = true := by
  unfold finite
  induction rows with
  | nil => rfl
  | cons row rows ih => simpa [finiteItems, finite_rowJson] using ih

/-- A row of strings has no integer. -/
theorem writable_rowJson (row : Dict String) : writable (rowJson row) = true := by
  unfold rowJson writable
  induction row.entries with
  | nil => rfl
  | cons item entries ih => simpa [writableMembers, writable] using ih

/-- Nor has a list of rows. -/
theorem writable_rows (rows : List (Dict String)) :
    writable (.arr (rows.map rowJson)) = true := by
  unfold writable
  induction rows with
  | nil => rfl
  | cons row rows ih => simpa [writableItems, writable_rowJson] using ih

/-- The length of the encoded rows of a scan. -/
def bytes (connector : StructuredConnector schema) (limit : Int) (scan : Scan) : Nat :=
  (Json.dumps (.arr (((connector.matched limit scan).map (project scan.fields)).map
    rowJson))).utf8ByteSize

variable {connector : StructuredConnector schema}

/-- The rows of a batch can be encoded. -/
theorem encoded_batch (limit : Int) (scan : Scan) :
    (connector.batch limit scan).payload.encoded = some (connector.bytes limit scan) := by
  have rows := finite_rows ((connector.matched limit scan).map (project scan.fields))
  have short := writable_rows ((connector.matched limit scan).map (project scan.fields))
  rw [List.map_map] at rows short
  simp only [batch, bytes, List.map_map]
  exact Payload.encoded_json rows short

/-- A batch declares its rows. -/
theorem rowCount_batch (limit : Int) (scan : Scan) :
    (connector.batch limit scan).rowCount = some (connector.matched limit scan).length := rfl

/-- A batch counts for its encoded rows. -/
theorem counts_batch {request : QueryRequest} (source : request.sourceId = connectorId)
    (limit : Int) (scan : Scan) :
    HarnessGateway.Counts request (connector.batch limit scan) (connector.bytes limit scan)
      (connector.matched limit scan).length := by
  constructor
  · rw [HarnessGateway.batchBytes_of_encoded (encoded_batch limit scan)]
    simp [batch]
  · simp [HarnessGateway.batchRows, batch, Payload.sequence]
  · simp [batch, sourceVersion, source]

/-- A scan is of the asset it was asked for. -/
theorem name_of_scan {scopes : Scopes} {asset : String} {own : Scan}
    (scanned : scan schema scopes asset = .ok own) : own.asset.name = asset := by
  unfold scan at scanned
  split at scanned
  · cases scanned
  rename_i known found
  obtain ⟨selected, -, scanned⟩ := of_bind_ok scanned
  split at scanned
  · split at scanned
    · cases scanned
    split at scanned
    · cases scanned
    split at scanned
    · cases scanned
    split at scanned
    · cases scanned
    obtain rfl := Except.ok.inj scanned
    exact StructuredAsset.name_of_ofName found
  · cases scanned

/-- An asset that is scanned behind others is also scanned at its first place. -/
theorem exists_first_scan {scopes : Scopes} {assets before after : List String} {asset : String}
    {own : Scan} (split : assets = before ++ asset :: after)
    (earlier : ∀ other ∈ before, ∃ reached, scan schema scopes other = .ok reached)
    (scanned : scan schema scopes asset = .ok own) :
    ∃ prior later, assets = prior ++ asset :: later ∧ asset ∉ prior ∧
      prior.length ≤ before.length ∧
        ∀ other ∈ prior, ∃ reached, scan schema scopes other = .ok reached := by
  obtain ⟨prior, later, occurrence, first⟩ :=
    List.eq_append_cons_of_mem (show asset ∈ before ++ [asset] by simp)
  refine ⟨prior, later ++ after, ?_, first, ?_, ?_⟩
  · rw [split, List.append_cons, occurrence, List.append_assoc, List.cons_append]
  · have lengths := congrArg List.length occurrence
    simp only [List.length_append, List.length_cons, List.length_nil] at lengths
    omega
  · intro other there
    have place : other ∈ before ++ [asset] := by
      rw [occurrence]
      exact List.mem_append_left _ there
    rcases List.mem_append.mp place with inside | here
    · exact earlier other inside
    · obtain rfl := List.mem_singleton.mp here
      exact ⟨own, scanned⟩

/-! ## What is compared -/

/-- The filters match a row exactly when the comparison says so. -/
theorem matchesFilters_iff {filters : List (PyKey × PyValue)} {row : Dict String} :
    matchesFilters filters row = true ↔ compare row filters = .ok true := by
  unfold matchesFilters
  cases compare row filters with
  | error error => simp [Except.toOption]
  | ok same => simp [Except.toOption]

/-- A row that the filters match has the texts of their values. -/
theorem cell_of_matches {filters : List (PyKey × PyValue)} {row : Dict String}
    (matching : matchesFilters filters row = true) :
    ∀ item ∈ filters, item.2.told = .ok (cell row item.1) := by
  rw [matchesFilters_iff] at matching
  induction filters with
  | nil => simp
  | cons first filters ih =>
    unfold compare at matching
    obtain ⟨text, told, matching⟩ := of_bind_ok matching
    split at matching
    · rename_i same
      rw [List.forall_mem_cons]
      rw [same]
      exact ⟨mapError_eq_ok.mp told, ih matching⟩
    · cases matching

/-- Filters with values that are written can be compared with a row. -/
theorem compare_of_written {filters : List (PyKey × PyValue)}
    (written : ∀ item ∈ filters, item.2.Written) (row : Dict String) :
    ∃ same, compare row filters = .ok same := by
  induction filters with
  | nil => exact ⟨true, rfl⟩
  | cons first filters ih =>
    obtain ⟨text, told⟩ := written first List.mem_cons_self
    obtain ⟨same, rest⟩ := ih fun item member => written item (List.mem_cons_of_mem _ member)
    unfold compare
    rw [told]
    by_cases equal : cell row first.1 = text
    · exact ⟨same, (if_pos equal).trans rest⟩
    · exact ⟨false, if_neg equal⟩

/-- The rows are compared exactly when each of them is. -/
theorem compareRows_eq_ok {filters : List (PyKey × PyValue)} {rows : List (Dict String)} :
    compareRows filters rows = .ok () ↔ ∀ row ∈ rows, ∃ same, compare row filters = .ok same := by
  induction rows with
  | nil => simp [compareRows]
  | cons row rows ih =>
    rw [compareRows, bind_ok_iff, List.forall_mem_cons]
    simp only [ih, exists_and_right]

/-- A comparison that raises is one with a value that `str` raises for. -/
theorem ofWrite_of_compare {row : Dict String} {filters : List (PyKey × PyValue)}
    {error : QueryError} (raised : compare row filters = .error error) :
    ∃ failure, error = .ofWrite failure := by
  induction filters with
  | nil => cases raised
  | cons first filters ih =>
    unfold compare at raised
    cases told : first.2.told with
    | error failure =>
      rw [told] at raised
      exact ⟨failure, (Except.error.inj raised).symm⟩
    | ok text =>
      rw [told] at raised
      by_cases equal : cell row first.1 = text
      · exact ih ((if_pos equal).symm.trans raised)
      · cases (if_neg equal).symm.trans raised

/-- So is one of the rows of a table. -/
theorem ofWrite_of_compareRows {filters : List (PyKey × PyValue)} {rows : List (Dict String)}
    {error : QueryError} (raised : compareRows filters rows = .error error) :
    ∃ failure, error = .ofWrite failure := by
  induction rows with
  | nil => cases raised
  | cons row rows ih =>
    unfold compareRows at raised
    cases own : compare row filters with
    | error failure =>
      rw [own] at raised
      obtain rfl := Except.error.inj raised
      exact ofWrite_of_compare own
    | ok same =>
      rw [own] at raised
      exact ih raised

/-- An asset is visited exactly when it is scanned and its rows can be compared. -/
theorem visit_eq_ok {scopes : Scopes} {asset : String} {own : Scan} :
    connector.visit scopes asset = .ok own ↔
      scan schema scopes asset = .ok own ∧ connector.comparable own = true := by
  unfold visit comparable
  constructor
  · intro visited
    obtain ⟨other, scanned, visited⟩ := of_bind_ok visited
    obtain ⟨_, compared, same⟩ := of_bind_ok visited
    obtain rfl := Except.ok.inj same
    rw [compared]
    exact ⟨scanned, rfl⟩
  · rintro ⟨scanned, compared⟩
    obtain ⟨_, compared⟩ := exists_ok compared
    exact bind_ok_iff.mpr ⟨own, scanned, bind_ok_iff.mpr ⟨_, compared, rfl⟩⟩

/-- A scan is visited when each row of its table can be compared. -/
theorem visit_of_scan {scopes : Scopes} {asset : String} {own : Scan}
    (scanned : scan schema scopes asset = .ok own)
    (each : ∀ row ∈ connector.rows own.asset, ∃ same, compare row own.filters = .ok same) :
    connector.visit scopes asset = .ok own := by
  refine visit_eq_ok.mpr ⟨scanned, ?_⟩
  unfold comparable
  rw [compareRows_eq_ok.mpr each]
  rfl

/-- Rows that differ from the filters of a scan change no comparison. -/
theorem compareRows_filter {filters : List (PyKey × PyValue)} {keep : Dict String → Bool}
    {rows : List (Dict String)}
    (others : ∀ row ∈ rows, keep row = false → compare row filters = .ok false) :
    compareRows filters (rows.filter keep) = compareRows filters rows := by
  induction rows with
  | nil => rfl
  | cons row rows ih =>
    have later := ih fun other member => others other (List.mem_cons_of_mem _ member)
    cases kept : keep row with
    | false =>
      rw [List.filter_cons_of_neg (by simp [kept]), later, compareRows,
        others row List.mem_cons_self kept]
      rfl
    | true =>
      rw [List.filter_cons_of_pos kept, compareRows, compareRows, later]

/-- The assets that are visited first come first, with one batch each. -/
theorem batches_append (limit : Int) {scopes : Scopes} {before : List String}
    (visited : ∀ asset ∈ before, ∃ own, connector.visit scopes asset = .ok own)
    (after : List String) :
    ∃ front, (connector.batches limit scopes (before ++ after)).items =
      front ++ (connector.batches limit scopes after).items ∧ front.length = before.length := by
  induction before with
  | nil => exact ⟨[], rfl, rfl⟩
  | cons asset before ih =>
    obtain ⟨own, found⟩ := visited asset List.mem_cons_self
    obtain ⟨front, split, length⟩ :=
      ih fun other member => visited other (List.mem_cons_of_mem _ member)
    refine ⟨connector.batch limit own :: front, ?_, by simp [length]⟩
    rw [List.cons_append, batches, found]
    simp only [Feed.items_push, split, List.cons_append]

/-- Where every asset is scanned there is a batch for each, up to the first whose rows cannot be
compared. -/
theorem batches_of_scans (limit : Int) {scopes : Scopes} {assets : List String}
    {scanOf : String → Scan}
    (scanned : ∀ asset ∈ assets, scan schema scopes asset = .ok (scanOf asset)) :
    (connector.batches limit scopes assets).items =
        (assets.takeWhile fun asset => connector.comparable (scanOf asset)).map (fun asset =>
          connector.batch limit (scanOf asset)) ∧
      ∀ error, (connector.batches limit scopes assets).raised = some error →
        ∃ failure, error = .ofWrite failure := by
  induction assets with
  | nil => exact ⟨rfl, fun error raised => by cases raised⟩
  | cons asset assets ih =>
    obtain ⟨items, raises⟩ := ih fun other member => scanned other (List.mem_cons_of_mem _ member)
    have own := scanned asset List.mem_cons_self
    unfold batches
    rw [List.takeWhile_cons]
    by_cases compared : connector.comparable (scanOf asset) = true
    · rw [visit_eq_ok.mpr ⟨own, compared⟩, if_pos compared]
      exact ⟨congrArg (connector.batch limit (scanOf asset) :: ·) items, raises⟩
    · rw [if_neg compared]
      unfold visit
      rw [own]
      cases refused : compareRows (scanOf asset).filters (connector.rows (scanOf asset).asset) with
      | ok done =>
        unfold comparable at compared
        rw [refused] at compared
        exact absurd rfl compared
      | error failure =>
        simp only [bind, Except.bind, refused]
        refine ⟨rfl, fun error raised => ?_⟩
        obtain rfl := Option.some.inj raised
        exact ofWrite_of_compareRows refused

/-- A batch is that of an asset that was scanned, like every batch before it. -/
theorem of_batches {limit : Int} {scopes : Scopes} {assets : List String}
    {front back : List DataBatch} {last : DataBatch}
    (split : (connector.batches limit scopes assets).items = front ++ last :: back) :
    ∃ before asset after own, assets = before ++ asset :: after ∧ before.length = front.length ∧
      (∀ other ∈ before, ∃ reached, scan schema scopes other = .ok reached) ∧
        scan schema scopes asset = .ok own ∧ last = connector.batch limit own := by
  induction assets generalizing front with
  | nil => simp [batches] at split
  | cons asset assets ih =>
    unfold batches at split
    cases visited : connector.visit scopes asset with
    | error error => simp [visited] at split
    | ok own =>
      rw [visited] at split
      have scanned := (visit_eq_ok.mp visited).1
      cases front with
      | nil =>
        have same : connector.batch limit own = last := (List.cons.inj split).1
        exact ⟨[], asset, assets, own, rfl, rfl, by simp, scanned, same.symm⟩
      | cons first front =>
        obtain ⟨before, later, after, found, rfl, length, earlier, reached, same⟩ :=
          ih (List.cons.inj split).2
        refine ⟨asset :: before, later, after, found, rfl, by simp [length], ?_, reached, same⟩
        intro other member
        rcases List.mem_cons.mp member with rfl | inside
        · exact ⟨own, scanned⟩
        · exact earlier other inside

/-- The connector is registered under its id, for queries. -/
theorem registered {policy : AuthorizationRequest → PolicyDecision} {available : Bool}
    {sourceId : String} (source : sourceId = connectorId) :
    (connector.gateway available policy).registry.get sourceId .query =
      .ok (connector.asConnector available) := by
  simp [ConnectorRegistry.get, gateway, asConnector, source]

/-- No other connector is registered. -/
theorem unregistered {policy : AuthorizationRequest → PolicyDecision} {available : Bool}
    {sourceId : String} (other : sourceId ≠ connectorId) :
    (connector.gateway available policy).registry.get sourceId .query =
      .error (.keyError ("unknown connector: " ++ sourceId)) := by
  simp [ConnectorRegistry.get, gateway, asConnector, Ne.symm other]

/-- A gateway that does not authorize a query delivers nothing. -/
theorem execute_unauthorized {policy : AuthorizationRequest → PolicyDecision} {available : Bool}
    {interruptions : Interruptions} {request : QueryRequest} {identity : RequestIdentity}
    {error : QueryError} (source : request.sourceId = connectorId)
    (refused : (connector.gateway available policy).authorize interruptions request identity =
      .error error) :
    (connector.gateway available policy).execute interruptions request identity =
      ⟨[], some error⟩ := by
  unfold HarnessGateway.execute
  rw [registered source]
  simp only [refused]

/-- What a gateway makes of an authorized query. -/
theorem execute_authorized {policy : AuthorizationRequest → PolicyDecision} {available : Bool}
    {interruptions : Interruptions} {request : QueryRequest} {identity : RequestIdentity}
    (source : request.sourceId = connectorId)
    (authorized : (connector.gateway available policy).authorize interruptions request identity =
      .ok ()) :
    (connector.gateway available policy).execute interruptions request identity =
      Feed.deliver (interruptions.stops request.sourceId)
        (HarnessGateway.account maxResultBytes request)
        (connector.execute available request).raised 0 ⟨0, 0⟩
          (connector.execute available request).items := by
  unfold HarnessGateway.execute
  rw [registered source]
  simp only [authorized]
  rfl

end StructuredConnector

end DataHarness
