import DataHarness.Models

/-!
# Bounded query planning

`BoundedQueryPlanner` checks a query intent against planning constraints and emits a bounded plan;
`FieldRelationshipPolicy` checks the request built from the plan once more, against a grant. The
planner reads an asset without a scope as an asset with no fields, the policy refuses it.
-/

namespace DataHarness

/-! ## Intents, constraints and plans -/

/-- `RelationshipRef`. -/
structure RelationshipRef where
  leftAsset : String
  leftField : String
  rightAsset : String
  rightField : String

/-- `relationship_id`. -/
def RelationshipRef.relationshipId (ref : RelationshipRef) : String :=
  ref.leftAsset ++ "." ++ ref.leftField ++ "->" ++ ref.rightAsset ++ "." ++ ref.rightField

/-- `QueryIntent`. -/
structure QueryIntent where
  sourceId : String
  assetIds : List String
  fields : Dict (List String)
  filters : Dict (Dict Scalar)
  relationships : List RelationshipRef
  limit : Int
  deadlineMs : Int
  purpose : String

/-- `PlanningConstraints`; sets are kept as lists that are only searched. -/
structure PlanningConstraints where
  allowedFields : Dict (List String)
  allowedRelationships : List String
  maxAssets : Int
  maxRows : Int
  maxDeadlineMs : Int
  /-- Planning bounds are positive. -/
  bounds : 0 < maxAssets ∧ 0 < maxRows ∧ 0 < maxDeadlineMs

/-- `allowed_fields.get(asset, frozenset())`. -/
def PlanningConstraints.allowed (constraints : PlanningConstraints) (asset : String) :
    List String :=
  (constraints.allowedFields.get? asset).getD []

/-- `BoundedQueryPlan`. -/
structure BoundedQueryPlan where
  sourceId : String
  assetIds : List String
  fields : Dict (List String)
  filters : Dict (Dict Scalar)
  relationships : List RelationshipRef
  limit : Int
  deadlineMs : Int
  purpose : String
  estimatedRows : Int

/-- `str` of the containers a plan is written with. Nothing of this development reads one of
these texts, so any will do. -/
structure ContainerTexts where
  ofSequence : List PyValue → String
  ofMapping : List (PyKey × PyValue) → String

/-- A list of strings. -/
def ContainerTexts.strings (texts : ContainerTexts) (items : List String) : PyValue :=
  .sequence (items.map .str) (texts.ofSequence (items.map .str))

/-- The items of a dictionary as objects. -/
def Dict.items {α : Type} (value : α → PyValue) (dict : Dict α) : List (PyKey × PyValue) :=
  dict.entries.map fun item => (.str item.1, value item.2)

/-- The keys of the items are the keys. -/
@[simp] theorem stringKeys_items {α : Type} (value : α → PyValue) (dict : Dict α) :
    stringKeys (dict.items value) = some dict.keys :=
  stringKeys_str dict.entries fun item => value item.2

/-- An item is found under its key. -/
@[simp] theorem lookupKey_items {α : Type} (value : α → PyValue) (dict : Dict α) (key : String) :
    lookupKey key (dict.items value) = (dict.get? key).map value := by
  unfold Dict.items Dict.get?
  induction dict.entries with
  | nil => rfl
  | cons item entries ih =>
    rw [List.map_cons, lookupKey]
    by_cases here : item.1 = key
    · have same : (key == item.1) = true := by simpa using here.symm
      rw [if_pos (by simpa using here), List.lookup_cons, same]
      rfl
    · have differs : (key == item.1) = false := by simpa using Ne.symm here
      rw [if_neg (by simpa using here), ih, List.lookup_cons, differs]

/-- A dictionary as an object. -/
def ContainerTexts.dict {α : Type} (texts : ContainerTexts) (value : α → PyValue)
    (dict : Dict α) : PyValue :=
  .mapping (dict.items value) (texts.ofMapping (dict.items value))

namespace BoundedQueryPlan

variable (texts : ContainerTexts)

/-- The plan of the request. -/
def parameters (plan : BoundedQueryPlan) : List (PyKey × PyValue) :=
  [(.str "select_by_asset", texts.dict texts.strings plan.fields),
    (.str "where_by_asset", texts.dict (texts.dict Scalar.toPy) plan.filters),
    (.str "relationships", texts.strings (plan.relationships.map (·.relationshipId))),
    (.str "estimated_rows", .int plan.estimatedRows)]

/-- `to_query_request`. -/
def toQueryRequest (plan : BoundedQueryPlan) (policyAttributes : List (String × Scalar)) :
    Except String QueryRequest :=
  QueryRequest.make plan.sourceId plan.assetIds (plan.parameters texts) plan.limit plan.deadlineMs
    plan.purpose policyAttributes

end BoundedQueryPlan

/-! ## The planner -/

/-- What the planner raises. -/
inductive PlanningError
  | valueError (message : String)
  | planDenied (reasonCode : String)
deriving DecidableEq

namespace BoundedQueryPlanner

/-- The loop over the relationships of an intent. -/
def relationshipsAllowed (intent : QueryIntent) (constraints : PlanningConstraints) :
    List RelationshipRef → Except PlanningError Unit
  | [] => .ok ()
  | relationship :: rest =>
    if relationship.relationshipId ∉ constraints.allowedRelationships then
      .error (.planDenied "relationship_not_authorized")
    else if relationship.leftAsset ∉ intent.assetIds ∨
        relationship.rightAsset ∉ intent.assetIds then
      .error (.planDenied "relationship_outside_asset_scope")
    else relationshipsAllowed intent constraints rest

/-- `compile`. -/
def compile (intent : QueryIntent) (constraints : PlanningConstraints) :
    Except PlanningError BoundedQueryPlan :=
  if intent.sourceId = "" ∨ intent.assetIds = [] ∨ intent.purpose = "" then
    .error (.valueError "query intent identity, assets and purpose are required")
  else if constraints.maxAssets < intent.assetIds.length then
    .error (.planDenied "asset_bound_exceeded")
  else if intent.limit ≤ 0 ∨ constraints.maxRows < intent.limit then
    .error (.planDenied "row_bound_exceeded")
  else if intent.deadlineMs ≤ 0 ∨ constraints.maxDeadlineMs < intent.deadlineMs then
    .error (.planDenied "deadline_bound_exceeded")
  else if ¬ (subset intent.fields.keys intent.assetIds ∧
      subset intent.assetIds intent.fields.keys) then
    .error (.planDenied "field_scope_incomplete")
  else if ¬ intent.fields.entries.all fun item => subset item.2 (constraints.allowed item.1) then
    .error (.planDenied "field_not_authorized")
  else if ¬ subset intent.filters.keys intent.assetIds then
    .error (.planDenied "filter_outside_asset_scope")
  else if ¬ intent.filters.entries.all fun item =>
      subset item.2.keys (constraints.allowed item.1) then
    .error (.planDenied "filter_field_not_authorized")
  else do
    relationshipsAllowed intent constraints intent.relationships
    .ok ⟨intent.sourceId, intent.assetIds, intent.fields, intent.filters, intent.relationships,
      intent.limit, intent.deadlineMs, intent.purpose, intent.limit⟩

variable {intent : QueryIntent} {constraints : PlanningConstraints} {plan : BoundedQueryPlan}

/-- What the planner checked of an intent. -/
structure Compiled (intent : QueryIntent) (constraints : PlanningConstraints) : Prop where
  limited : 0 < intent.limit ∧ intent.limit ≤ constraints.maxRows
  covered : ∀ asset, asset ∈ intent.fields.keys ↔ asset ∈ intent.assetIds
  selected : ∀ item ∈ intent.fields.entries, ∀ field ∈ item.2, field ∈ constraints.allowed item.1
  filtered : ∀ asset ∈ intent.filters.keys, asset ∈ intent.assetIds
  restricted : ∀ item ∈ intent.filters.entries,
    ∀ field ∈ item.2.keys, field ∈ constraints.allowed item.1
  related : ∀ relationship ∈ intent.relationships,
    relationship.relationshipId ∈ constraints.allowedRelationships

/-- The loop goes through over allowed relationships only. -/
theorem of_relationshipsAllowed {relationships : List RelationshipRef}
    (allowed : relationshipsAllowed intent constraints relationships = .ok ()) :
    ∀ relationship ∈ relationships,
      relationship.relationshipId ∈ constraints.allowedRelationships := by
  induction relationships with
  | nil =>
    intro relationship here
    cases here
  | cons first rest ih =>
    unfold relationshipsAllowed at allowed
    split at allowed
    · cases allowed
    rename_i known
    split at allowed
    · cases allowed
    intro relationship here
    rcases List.mem_cons.mp here with rfl | later
    · exact not_not.mp known
    · exact ih allowed relationship later

/-- A plan is the intent itself, which passed every check. -/
theorem of_compile (compiled : compile intent constraints = .ok plan) :
    Compiled intent constraints ∧
      plan = ⟨intent.sourceId, intent.assetIds, intent.fields, intent.filters,
        intent.relationships, intent.limit, intent.deadlineMs, intent.purpose, intent.limit⟩ := by
  unfold compile at compiled
  split at compiled
  · cases compiled
  split at compiled
  · cases compiled
  split at compiled
  · cases compiled
  rename_i rows
  split at compiled
  · cases compiled
  split at compiled
  · cases compiled
  rename_i scope
  split at compiled
  · cases compiled
  rename_i selected
  split at compiled
  · cases compiled
  rename_i filtered
  split at compiled
  · cases compiled
  rename_i restricted
  obtain ⟨_, related, compiled⟩ := of_bind_ok compiled
  have scope := not_not.mp scope
  rw [subset_iff, subset_iff] at scope
  refine ⟨⟨?_, ?_, ?_, ?_, ?_, ?_⟩, (Except.ok.inj compiled).symm⟩
  · omega
  · intro asset
    exact ⟨scope.1 asset, scope.2 asset⟩
  · simpa using selected
  · simpa using filtered
  · simpa using restricted
  · exact of_relationshipsAllowed related

end BoundedQueryPlanner

/-! ## Planner and policy -/

/-- The grant is for an identity at the source of an intent, and grants exactly what the
constraints allow. -/
structure QueryAccessGrant.Mirrors (grant : QueryAccessGrant) (constraints : PlanningConstraints)
    (identity : RequestIdentity) (sourceId : String) : Prop where
  covers : grant.covers identity sourceId = true
  assets : ∀ asset, asset ∈ grant.assetFields.keys ↔ asset ∈ constraints.allowedFields.keys
  fields : ∀ asset field, field ∈ (grant.fields asset).getD [] ↔ field ∈ constraints.allowed asset
  relationships : ∀ relationship,
    relationship ∈ grant.relationships ↔ relationship ∈ constraints.allowedRelationships

namespace FieldRelationshipPolicy

variable {grant : QueryAccessGrant} {texts : ContainerTexts}

/-- An asset of a grant has the fields the grant lists for it. -/
theorem exists_fields {asset : String} (granted : asset ∈ grant.assetFields.keys) :
    ∃ allowed, grant.fields asset = some allowed := Dict.mem_keys.mp granted

/-- Selections of granted fields pass. -/
theorem selectionsGranted_of {fields : Dict (List String)}
    (granted : ∀ item ∈ fields.entries, item.1 ∈ grant.assetFields.keys)
    (allowed : ∀ item ∈ fields.entries, ∀ field ∈ item.2, field ∈ (grant.fields item.1).getD []) :
    selectionsGranted grant (fields.items texts.strings) = true := by
  rw [selectionsGranted, Dict.items, List.all_map, List.all_eq_true]
  intro item here
  obtain ⟨listed, found⟩ := exists_fields (granted item here)
  have inside := allowed item here
  rw [found, Option.getD_some] at inside
  simpa [ContainerTexts.strings, found, PyValue.told] using inside

/-- Filters over granted fields pass. -/
theorem filtersGranted_of {filters : Dict (Dict Scalar)}
    (granted : ∀ item ∈ filters.entries, item.1 ∈ grant.assetFields.keys)
    (allowed : ∀ item ∈ filters.entries,
      ∀ field ∈ item.2.keys, field ∈ (grant.fields item.1).getD []) :
    filtersGranted grant (filters.items (texts.dict Scalar.toPy)) = true := by
  rw [filtersGranted, Dict.items, List.all_map, List.all_eq_true]
  intro item here
  obtain ⟨listed, found⟩ := exists_fields (granted item here)
  have inside := allowed item here
  rw [found, Option.getD_some] at inside
  simpa [ContainerTexts.dict, found, keysSubset] using inside

/-- Relationships of a grant pass. -/
theorem relationshipsGranted_of {plan : BoundedQueryPlan}
    (granted : ∀ relationship ∈ plan.relationships,
      relationship.relationshipId ∈ grant.relationships) :
    relationshipsGranted grant (plan.parameters texts) = true := by
  have items : lookupKey "relationships" (plan.parameters texts) =
      some (texts.strings (plan.relationships.map (·.relationshipId))) := rfl
  unfold relationshipsGranted
  rw [items]
  simpa [ContainerTexts.strings, PyValue.told] using granted

/-- Of a query the base allows and one grant covers, assets outside the grant are refused. -/
theorem evaluate_outside {base : AuthorizationRequest → PolicyDecision}
    {request : AuthorizationRequest} (query : request.capability = .query)
    (covers : grant.covers request.identity request.sourceId = true)
    (allows : (base request).allowed = true)
    (outside : subset request.assetIds grant.assetFields.keys = false) :
    (evaluate base [grant] request).allowed = false := by
  have kept : grantFor [grant] request = some grant := by simp [grantFor, covers]
  unfold evaluate
  rw [if_neg (by simp [allows, query])]
  simp only [kept, outside]
  rfl

/-- The emitted request of a checked intent is allowed when its assets are granted. -/
theorem evaluate_emitted {intent : QueryIntent} {constraints : PlanningConstraints}
    (checked : BoundedQueryPlanner.Compiled intent constraints) {plan : BoundedQueryPlan}
    (fields : plan.fields = intent.fields) (filters : plan.filters = intent.filters)
    (relationships : plan.relationships = intent.relationships)
    {base : AuthorizationRequest → PolicyDecision} {request : AuthorizationRequest}
    (query : request.capability = .query) (allows : (base request).allowed = true)
    (assets : request.assetIds = intent.assetIds)
    (parameters : request.parameters = plan.parameters texts)
    (mirrors : grant.Mirrors constraints request.identity request.sourceId)
    (inside : ∀ asset ∈ intent.assetIds, asset ∈ constraints.allowedFields.keys) :
    (evaluate base [grant] request).allowed = true := by
  have kept : grantFor [grant] request = some grant := by simp [grantFor, mirrors.covers]
  have granted : ∀ asset ∈ intent.assetIds, asset ∈ grant.assetFields.keys := by
    intro asset here
    exact (mirrors.assets asset).mpr (inside asset here)
  have selected : selectionsGranted grant (plan.fields.items texts.strings) = true := by
    rw [fields]
    apply selectionsGranted_of
    · intro item here
      exact granted item.1 ((checked.covered item.1).mp (List.mem_map_of_mem here))
    · intro item here field member
      exact (mirrors.fields item.1 field).mpr (checked.selected item here field member)
  have filtered : filtersGranted grant (plan.filters.items (texts.dict Scalar.toPy)) = true := by
    rw [filters]
    apply filtersGranted_of
    · intro item here
      exact granted item.1 (checked.filtered item.1 (List.mem_map_of_mem here))
    · intro item here field member
      exact (mirrors.fields item.1 field).mpr (checked.restricted item here field member)
  have related : relationshipsGranted grant (plan.parameters texts) = true := by
    apply relationshipsGranted_of
    intro relationship here
    rw [relationships] at here
    exact (mirrors.relationships _).mpr (checked.related relationship here)
  have selections : scope "select_by_asset" (plan.parameters texts) =
      some (plan.fields.items texts.strings) := rfl
  have wheres : scope "where_by_asset" (plan.parameters texts) =
      some (plan.filters.items (texts.dict Scalar.toPy)) := rfl
  have covered : keysEqual (plan.fields.items texts.strings) intent.assetIds = true := by
    simpa [keysEqual, fields] using
      And.intro (fun asset => (checked.covered asset).mp) (fun asset => (checked.covered asset).mpr)
  have within : keysSubset (plan.filters.items (texts.dict Scalar.toPy)) intent.assetIds = true := by
    simpa [keysSubset, filters] using checked.filtered
  unfold evaluate
  rw [if_neg (by simp [allows, query])]
  simp only [kept, assets, parameters]
  rw [if_neg (by simpa using granted)]
  simp only [selections, covered, selected, related, wheres, within, filtered, not_true_eq_false,
    if_false, allows]

end FieldRelationshipPolicy

/-- The policy allows what the planner emitted exactly when every asset of the intent has a scope
in the constraints. -/
theorem policy_allows_iff (texts : ContainerTexts) {intent : QueryIntent}
    {constraints : PlanningConstraints} {plan : BoundedQueryPlan}
    (compiled : BoundedQueryPlanner.compile intent constraints = .ok plan)
    {policyAttributes : List (String × Scalar)} {request : QueryRequest}
    (emitted : plan.toQueryRequest texts policyAttributes = .ok request)
    (identity : RequestIdentity) {base : AuthorizationRequest → PolicyDecision}
    (allows : (base (request.authorization identity)).allowed = true) {grant : QueryAccessGrant}
    (mirrors : grant.Mirrors constraints identity intent.sourceId) :
    (FieldRelationshipPolicy.evaluate base [grant] (request.authorization identity)).allowed =
        true ↔
      ∀ asset ∈ intent.assetIds, asset ∈ constraints.allowedFields.keys := by
  obtain ⟨checked, rfl⟩ := BoundedQueryPlanner.of_compile compiled
  obtain ⟨_, _, _, _, rfl⟩ := QueryRequest.of_make emitted
  constructor
  · intro allowed asset here
    by_contra outside
    have refused : subset intent.assetIds grant.assetFields.keys = false := by
      rw [← Bool.not_eq_true, subset_iff]
      intro all
      exact outside ((mirrors.assets asset).mp (all asset here))
    have denied := FieldRelationshipPolicy.evaluate_outside rfl mirrors.covers allows refused
    rw [denied] at allowed
    cases allowed
  · intro inside
    exact FieldRelationshipPolicy.evaluate_emitted checked rfl rfl rfl rfl allows rfl rfl
      mirrors inside

/-! ## An asset without a scope -/

/-- An intent of some selections at one source. -/
def QueryIntent.small (fields : Dict (List String)) : QueryIntent where
  sourceId := "erp"
  assetIds := fields.keys
  fields := fields
  filters := .empty
  relationships := []
  limit := 1
  deadlineMs := 1
  purpose := "analysis"

/-- Constraints that allow one field of one asset. -/
def PlanningConstraints.small : PlanningConstraints where
  allowedFields := ⟨[("orders", ["status"])], by simp⟩
  allowedRelationships := []
  maxAssets := 2
  maxRows := 10
  maxDeadlineMs := 10
  bounds := by decide

/-- A grant of that field. -/
def QueryAccessGrant.small : QueryAccessGrant where
  organizationId := "organization"
  solutionId := "solution"
  agentId := "agent"
  sourceId := "erp"
  assetFields := ⟨[("orders", ["status"])], by simp⟩
  relationships := []
  required := by decide
  assets := by simp

/-- The grant mirrors the constraints. -/
theorem QueryAccessGrant.small_mirrors :
    QueryAccessGrant.small.Mirrors .small .small "erp" where
  covers := by decide
  assets _ := Iff.rfl
  fields _ _ := Iff.rfl
  relationships _ := Iff.rfl

/-- A policy that allows everything. -/
def allowAll (_ : AuthorizationRequest) : PolicyDecision := ⟨true, "allow", "allowed"⟩

/-- Containers that are all shown alike. -/
def ContainerTexts.small : ContainerTexts := ⟨fun _ => "[…]", fun _ => "dict(…)"⟩

/-- An intent of the granted field. -/
def QueryIntent.granted : QueryIntent := .small ⟨[("orders", ["status"])], by simp⟩

/-- An intent that selects nothing of one more asset. -/
def QueryIntent.unscoped : QueryIntent :=
  .small ⟨[("orders", ["status"]), ("parts", [])], by simp⟩

/-- The granted field is allowed, as its asset has a scope. -/
theorem policy_allows_orders : ∃ plan request,
    BoundedQueryPlanner.compile .granted .small = .ok plan ∧
      plan.toQueryRequest .small [] = .ok request ∧
        ((FieldRelationshipPolicy.evaluate allowAll [.small]
          (request.authorization .small)).allowed = true ↔
            ∀ asset ∈ QueryIntent.granted.assetIds,
              asset ∈ PlanningConstraints.small.allowedFields.keys) := by
  have compiled : ∃ plan, BoundedQueryPlanner.compile .granted .small = .ok plan :=
    exists_ok (by decide +kernel)
  obtain ⟨plan, compiled⟩ := compiled
  have emitted : ∃ request, plan.toQueryRequest .small [] = .ok request := by
    rw [(BoundedQueryPlanner.of_compile compiled).2]
    exact exists_ok (by decide +kernel)
  obtain ⟨request, emitted⟩ := emitted
  refine ⟨plan, request, compiled, emitted, ?_⟩
  exact policy_allows_iff .small compiled emitted .small rfl QueryAccessGrant.small_mirrors

/-- With an empty selection of an asset without a scope the planner accepts what the policy
refuses. -/
theorem unscoped_refused : ∃ plan request,
    BoundedQueryPlanner.compile .unscoped .small = .ok plan ∧
      plan.toQueryRequest .small [] = .ok request ∧
        QueryAccessGrant.small.Mirrors .small .small request.sourceId ∧
          FieldRelationshipPolicy.evaluate allowAll [.small] (request.authorization .small) =
            ⟨false, "field:request:asset_not_authorized", "asset_not_authorized"⟩ := by
  refine ⟨_, _, rfl, rfl, QueryAccessGrant.small_mirrors, ?_⟩
  rfl

end DataHarness
