import DataHarness.Query.Planning
import DataHarness.Query.Structured
import Mathlib.Algebra.GroupWithZero.Nat

/-!
# The row limit of a planned query

The planner bounds one number of rows, the connector applies it to every asset by itself, and the
gateway to all batches together. They agree exactly while the rows matched in the assets of a plan,
each asset counted up to the limit, are within it; an asset whose filters have a value that cannot
be written ends the answer.
-/

namespace DataHarness

namespace StructuredConnector

variable {schema : StructuredSchema}

/-- The fields an intent selects of an asset. -/
def selected (intent : QueryIntent) (asset : String) : List String :=
  (intent.fields.get? asset).getD []

/-- The filters an intent puts on an asset. -/
def filtersOf (intent : QueryIntent) (asset : String) : List (PyKey × PyValue) :=
  ((intent.filters.get? asset).getD .empty).items Scalar.toPy

/-- The connector knows the assets and fields of an intent. -/
def Knows (schema : StructuredSchema) (intent : QueryIntent) : Prop :=
  ∀ asset ∈ intent.assetIds, ∃ known, StructuredAsset.ofName asset = some known ∧
    subset (selected intent asset) (schema.columns known) = true ∧
      keysSubset (filtersOf intent asset) (schema.columns known) = true

/-- The rows of an asset that the filters of an intent match, up to its limit. -/
def demand (connector : StructuredConnector schema) (intent : QueryIntent) (asset : String) : Nat :=
  match StructuredAsset.ofName asset with
  | none => 0
  | some known =>
    min intent.limit.toNat ((connector.rows known).countP (matchesFilters (filtersOf intent asset)))

/-- The scan of an asset of an intent. -/
def scanOf (intent : QueryIntent) (asset : String) : Scan :=
  ⟨(StructuredAsset.ofName asset).getD .products, filtersOf intent asset, selected intent asset⟩

/-- The assets of an intent up to the first whose rows cannot be compared with its filters. -/
def answered (connector : StructuredConnector schema) (intent : QueryIntent) : List String :=
  intent.assetIds.takeWhile fun asset => connector.comparable (scanOf intent asset)

/-- The length of all batches of a request together, as the gateway encodes them. -/
def resultBytes (connector : StructuredConnector schema) (request : QueryRequest) : Nat :=
  ((connector.execute true request).items.map fun batch => batch.payload.encoded.getD 0).sum

variable {texts : ContainerTexts} {intent : QueryIntent}

/-- The scan of an asset the connector knows. -/
theorem scan_known {asset : String} {known : StructuredAsset}
    (found : StructuredAsset.ofName asset = some known)
    (fields : subset (selected intent asset) (schema.columns known) = true)
    (filters : keysSubset (filtersOf intent asset) (schema.columns known) = true) :
    scan schema (.canonical (intent.fields.items texts.strings)
        (intent.filters.items (texts.dict Scalar.toPy))) asset =
      .ok ⟨known, filtersOf intent asset, selected intent asset⟩ := by
  have taken : tuple ((intent.fields.get? asset).map texts.strings) =
      .ok ((selected intent asset).map .str) := by
    unfold selected
    cases intent.fields.get? asset <;> rfl
  have hashable : ((selected intent asset).map PyValue.str).any unhashable = false := by
    simp [unhashable]
  have mapping : ∃ text, ((intent.filters.get? asset).map (texts.dict Scalar.toPy)).getD
      (.mapping [] "") = .mapping (filtersOf intent asset) text := by
    unfold filtersOf
    cases intent.filters.get? asset with
    | none => exact ⟨"", rfl⟩
    | some filters => exact ⟨_, rfl⟩
  obtain ⟨text, mapping⟩ := mapping
  unfold scan
  simp only [found, Scopes.selection, Scopes.filter, lookupKey_items, taken, mapping, bind,
    Except.bind, filters, hashable, fieldNames_strings, fields, not_true_eq_false, if_false,
    Bool.false_eq_true]

/-- A scan matches what its asset demands. -/
theorem length_matched {asset : String} (connector : StructuredConnector schema)
    (knows : ∃ known, StructuredAsset.ofName asset = some known) :
    (connector.matched intent.limit (scanOf intent asset)).length =
      connector.demand intent asset := by
  obtain ⟨known, found⟩ := knows
  unfold demand matched scanOf
  rw [found, Option.getD_some, List.length_take]
  dsimp only
  rw [List.countP_eq_length_filter]

variable {constraints : PlanningConstraints} {plan : BoundedQueryPlan}
  {policyAttributes : List (String × Scalar)} {request : QueryRequest}

/-- An available connector answers a plan it knows with one batch for each asset, up to the first
whose rows cannot be compared with its filters. -/
theorem execute_plan (connector : StructuredConnector schema) (knows : Knows schema intent)
    (assets : request.assetIds = intent.assetIds) (limit : request.limit = intent.limit)
    (fields : plan.fields = intent.fields) (filters : plan.filters = intent.filters)
    (parameters : request.plan = plan.parameters texts) :
    (connector.execute true request).items = (connector.answered intent).map (fun asset =>
        connector.batch intent.limit (scanOf intent asset)) ∧
      (connector.execute true request).raised ≠ some HarnessGateway.rowViolation := by
  have shaped : scopes request.plan = .ok (.canonical (intent.fields.items texts.strings)
      (intent.filters.items (texts.dict Scalar.toPy))) := by
    rw [parameters, ← fields, ← filters]
    rfl
  unfold execute
  rw [if_pos rfl, shaped, assets, limit]
  have scanned : ∀ asset ∈ intent.assetIds, scan schema (.canonical
      (intent.fields.items texts.strings) (intent.filters.items (texts.dict Scalar.toPy))) asset =
        .ok (scanOf intent asset) := by
    intro asset here
    obtain ⟨known, found, selects, filters⟩ := knows asset here
    rw [scan_known found selects filters, scanOf, found]
    rfl
  obtain ⟨items, raises⟩ := @batches_of_scans _ connector intent.limit _ _ _ scanned
  refine ⟨items, ?_⟩
  intro violation
  obtain ⟨failure, same⟩ := raises _ violation
  cases failure <;> cases same

/-- Running a plan the connector knows, within the byte limit, never breaks the row limit exactly
when the rows that the assets it is answered for demand are together within the limit. -/
theorem row_limit_iff (texts : ContainerTexts)
    (compiled : BoundedQueryPlanner.compile intent constraints = .ok plan)
    (emitted : plan.toQueryRequest texts policyAttributes = .ok request)
    (connector : StructuredConnector schema) (source : intent.sourceId = connectorId)
    (knows : Knows schema intent) (small : connector.resultBytes request ≤ maxResultBytes)
    (identity : RequestIdentity) {policy : AuthorizationRequest → PolicyDecision}
    (allows : (policy (request.authorization identity)).allowed = true) :
    (∀ interruptions available,
      ((connector.gateway available policy).execute interruptions request identity).raised ≠
        some HarnessGateway.rowViolation) ↔
      (((connector.answered intent).map (connector.demand intent)).sum : Int) ≤ intent.limit := by
  obtain ⟨-, rfl⟩ := BoundedQueryPlanner.of_compile compiled
  obtain ⟨_, _, _, _, rfl⟩ := QueryRequest.of_make emitted
  generalize made : QueryRequest.mk _ _ _ _ _ _ _ _ _ _ _ = request at *
  have named : request.sourceId = connectorId := by rw [← made]; exact source
  have limit : request.limit = intent.limit := by rw [← made]
  obtain ⟨items, raises⟩ := execute_plan connector knows
    (show request.assetIds = _ by rw [← made]) limit rfl rfl (by rw [← made])
  rw [resultBytes, items] at small
  have counts : ∀ batch ∈ ((connector.answered intent).map fun asset =>
      connector.batch intent.limit (scanOf intent asset)),
      HarnessGateway.Counts request batch (batch.payload.encoded.getD 0)
        (batch.rowCount.getD 0) := by
    intro batch member
    obtain ⟨asset, here, rfl⟩ := List.mem_map.mp member
    rw [encoded_batch]
    exact counts_batch named _ _
  have rows : (((connector.answered intent).map fun asset =>
      connector.batch intent.limit (scanOf intent asset)).map fun batch =>
        batch.rowCount.getD 0) = (connector.answered intent).map (connector.demand intent) := by
    rw [List.map_map]
    apply List.map_congr_left
    intro asset here
    obtain ⟨known, found, -, -⟩ := knows asset ((List.takeWhile_sublist _).subset here)
    exact length_matched connector ⟨known, found⟩
  rw [← rows]
  constructor
  · intro never
    have quiet := never .none true
    have authorized : (connector.gateway true policy).authorize .none request identity = .ok () :=
      if_pos allows
    rw [execute_authorized named authorized, items] at quiet
    exact (HarnessGateway.rows_within_limit counts small quiet).trans limit.le
  · intro few interruptions available
    cases authorized : (connector.gateway available policy).authorize interruptions request
        identity with
    | error error =>
      rw [execute_unauthorized named authorized]
      intro same
      obtain rfl := Option.some.inj same
      exact HarnessGateway.authorize_ne_rowViolation _ _ _ _ authorized
    | ok _ =>
      rw [execute_authorized named authorized]
      have outside := HarnessGateway.not_raises_rowViolation interruptions request.sourceId
      cases available with
      | true =>
        rw [items]
        exact HarnessGateway.raised_ne_rowViolation counts small raises (few.trans limit.ge) outside
      | false =>
        have positive := request.limited
        have nothing : ∀ batch ∈ ([] : List DataBatch), HarnessGateway.Counts request batch
            (batch.payload.encoded.getD 0) (batch.rowCount.getD 0) := by simp
        have outage : (some (.labSourceUnavailable ("injected outage: " ++ connectorId)) :
            Option QueryError) ≠ some HarnessGateway.rowViolation := by
          intro same
          cases same
        exact HarnessGateway.raised_ne_rowViolation nothing (Nat.zero_le _) outage
          (by simp; omega) outside

/-! ## Two assets within a limit of one -/

/-- Tables that have their primary keys only. -/
def keysOnly : StructuredSchema where
  columns asset := [asset.primaryKey]
  distinct := by simp
  keyed := by simp

/-- One record in each table. -/
def oneRecord : StructuredConnector keysOnly where
  rows asset := [⟨[(asset.primaryKey, "1")], by simp⟩]
  version := "sha256:rows"
  shaped := by simp [keysOnly, Dict.keys]
  versioned := rows_versioned

/-- An intent of two assets and one row. -/
def twoAssets : QueryIntent where
  sourceId := "whitegoods.erp"
  assetIds := ["products", "customers"]
  fields := ⟨[("products", ["product_id"]), ("customers", ["customer_id"])], by decide⟩
  filters := .empty
  relationships := []
  limit := 1
  deadlineMs := 1
  purpose := "analysis"

/-- Constraints it meets. -/
def twoAssetsAllowed : PlanningConstraints where
  allowedFields := ⟨[("products", ["product_id"]), ("customers", ["customer_id"])], by decide⟩
  allowedRelationships := []
  maxAssets := 2
  maxRows := 1
  maxDeadlineMs := 1
  bounds := by decide

/-- The plan of the intent. -/
def twoAssetsPlan : BoundedQueryPlan where
  sourceId := "whitegoods.erp"
  assetIds := ["products", "customers"]
  fields := twoAssets.fields
  filters := .empty
  relationships := []
  limit := 1
  deadlineMs := 1
  purpose := "analysis"
  estimatedRows := 1

/-- The request of the plan. -/
def twoAssetsRequest : QueryRequest where
  sourceId := "whitegoods.erp"
  assetIds := ["products", "customers"]
  plan := twoAssetsPlan.parameters .small
  limit := 1
  deadlineMs := 1
  purpose := "analysis"
  policyAttributes := []
  scope := by decide
  limited := Int.one_pos
  timed := Int.one_pos
  purposed := analysis_purposed

/-- The connector knows the intent. -/
theorem knows_twoAssets : Knows keysOnly twoAssets := by
  intro asset here
  have cases : asset = "products" ∨ asset = "customers" := by simpa [twoAssets] using here
  rcases cases with rfl | rfl
  · exact ⟨.products, by decide, by decide, by decide⟩
  · exact ⟨.customers, by decide, by decide, by decide⟩

/-- The two rows are a short result. -/
theorem resultBytes_twoAssets : oneRecord.resultBytes twoAssetsRequest ≤ maxResultBytes := by
  decide +kernel

/-- The same intent with two rows. -/
def twoRows : QueryIntent := { twoAssets with limit := 2 }

/-- Constraints it meets. -/
def twoRowsAllowed : PlanningConstraints :=
  { twoAssetsAllowed with maxRows := 2, bounds := by decide }

/-- The plan of the intent. -/
def twoRowsPlan : BoundedQueryPlan := { twoAssetsPlan with limit := 2, estimatedRows := 2 }

/-- The request of the plan. -/
def twoRowsRequest : QueryRequest :=
  { twoAssetsRequest with plan := twoRowsPlan.parameters .small, limit := 2, limited := by decide }

/-- Two rows break the limit of one plan and are within that of the other. -/
theorem row_limit_twoAssets :
    (¬ ∀ interruptions available, ((oneRecord.gateway available allowAll).execute interruptions
        twoAssetsRequest .small).raised ≠ some HarnessGateway.rowViolation) ∧
      ∀ interruptions available, ((oneRecord.gateway available allowAll).execute interruptions
        twoRowsRequest .small).raised ≠ some HarnessGateway.rowViolation := by
  have compiled : BoundedQueryPlanner.compile twoAssets twoAssetsAllowed = .ok twoAssetsPlan := rfl
  have emitted : twoAssetsPlan.toQueryRequest .small [] = .ok twoAssetsRequest := rfl
  have again : BoundedQueryPlanner.compile twoRows twoRowsAllowed = .ok twoRowsPlan := rfl
  have wider : twoRowsPlan.toQueryRequest .small [] = .ok twoRowsRequest := rfl
  have beyond : ¬ (((oneRecord.answered twoAssets).map (oneRecord.demand twoAssets)).sum : Int) ≤
      twoAssets.limit := by decide
  have within : (((oneRecord.answered twoRows).map (oneRecord.demand twoRows)).sum : Int) ≤
      twoRows.limit := by decide
  refine ⟨fun quiet => beyond ?_, ?_⟩
  · exact (row_limit_iff .small compiled emitted oneRecord rfl knows_twoAssets resultBytes_twoAssets
      .small rfl).mp quiet
  · exact (row_limit_iff .small again wider oneRecord rfl knows_twoAssets (by decide +kernel)
      .small rfl).mpr within

/-- Each asset has a row within the limit, and the second one is refused. -/
theorem twoAssets_refused :
    BoundedQueryPlanner.compile twoAssets twoAssetsAllowed = .ok twoAssetsPlan ∧
      twoAssetsPlan.toQueryRequest .small [] = .ok twoAssetsRequest ∧ Knows keysOnly twoAssets ∧
        oneRecord.resultBytes twoAssetsRequest ≤ maxResultBytes ∧
          ((oneRecord.gateway true allowAll).execute .none twoAssetsRequest .small).raised =
            some HarnessGateway.rowViolation := by
  refine ⟨rfl, rfl, knows_twoAssets, resultBytes_twoAssets, ?_⟩
  rfl

end StructuredConnector

end DataHarness
