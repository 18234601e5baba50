import DataHarness.Python

/-!
# Authorization requests and decisions

The local authorization seam: who asks (`RequestIdentity`), what is asked
(`AuthorizationRequest`) and the answer. `FieldRelationshipPolicy` narrows an existing policy
for queries to the assets, fields, relationships and filters of one grant.
-/

namespace DataHarness

/-- What a connector can be asked to do. -/
inductive Capability
  | discover
  | describe
  | query
  | scan
  | search
  | subscribe
  | mutate
  | transaction
  | cdc
  | explain
  | predicatePushdown
  | projectionPushdown
deriving DecidableEq

/-- Who makes a request; no part is empty. -/
structure RequestIdentity where
  organizationId : String
  solutionId : String
  agentId : String
  requestId : String
  traceId : String
  policyDigest : String
  /-- All identity fields are required. -/
  required : ∀ value ∈ [organizationId, solutionId, agentId, requestId, traceId, policyDigest],
    value ≠ ""

/-- An identity, for small runs. -/
def RequestIdentity.small : RequestIdentity where
  organizationId := "organization"
  solutionId := "solution"
  agentId := "agent"
  requestId := "request"
  traceId := "trace"
  policyDigest := "policy"
  required := by decide

/-- What is asked of a policy. -/
structure AuthorizationRequest where
  identity : RequestIdentity
  sourceId : String
  capability : Capability
  assetIds : List String
  purpose : String
  attributes : List (String × Scalar)
  parameters : List (PyKey × PyValue)

/-- The answer of a policy. -/
structure PolicyDecision where
  allowed : Bool
  decisionId : String
  reasonCode : String

/-- The assets, fields and relationships one agent may query at one source. -/
structure QueryAccessGrant where
  organizationId : String
  solutionId : String
  agentId : String
  sourceId : String
  assetFields : Dict (List String)
  relationships : List String
  /-- The scope of a grant is named. -/
  required : ∀ value ∈ [organizationId, solutionId, agentId, sourceId], value ≠ ""
  /-- A grant names at least one asset. -/
  assets : assetFields.entries ≠ []

/-- The grant is for this identity at this source. -/
def QueryAccessGrant.covers (grant : QueryAccessGrant) (identity : RequestIdentity)
    (sourceId : String) : Bool :=
  grant.organizationId == identity.organizationId && grant.solutionId == identity.solutionId
    && grant.agentId == identity.agentId && grant.sourceId == sourceId

/-- `grant.asset_fields[asset]`, none for an asset without a scope. -/
def QueryAccessGrant.fields (grant : QueryAccessGrant) (asset : String) : Option (List String) :=
  grant.assetFields.entries.lookup asset

/-- `set(texts).issubset(allowed)`. -/
def subset (texts allowed : List String) : Bool := texts.all fun text => allowed.contains text

/-- A subset test is a membership test for each element. -/
@[simp] theorem subset_iff {texts allowed : List String} :
    subset texts allowed = true ↔ ∀ text ∈ texts, text ∈ allowed := by
  simp [subset]

/-- The strings among the keys of a mapping, none when another object is a key. -/
def stringKeys {α : Type} : List (PyKey × α) → Option (List String)
  | [] => some []
  | item :: items =>
    match item.1, stringKeys items with
    | .str text, some rest => some (text :: rest)
    | _, _ => none

/-- Of keys that are strings none is left out. -/
@[simp] theorem stringKeys_str {α β : Type} (entries : List (String × α)) (value : String × α → β) :
    stringKeys (entries.map fun item => (PyKey.str item.1, value item)) =
      some (entries.map Prod.fst) := by
  induction entries with
  | nil => rfl
  | cons item entries ih => simp [stringKeys, ih]

/-- `set(keys) <= allowed` for the keys of a mapping. -/
def keysSubset {α : Type} (entries : List (PyKey × α)) (allowed : List String) : Bool :=
  match stringKeys entries with
  | some keys => subset keys allowed
  | none => false

/-- `set(keys) == set(texts)` for the keys of a mapping. -/
def keysEqual {α : Type} (entries : List (PyKey × α)) (texts : List String) : Bool :=
  match stringKeys entries with
  | some keys => subset keys texts && subset texts keys
  | none => false

/-- The keys are strings exactly when each of them is. -/
theorem exists_stringKeys {α : Type} {entries : List (PyKey × α)} :
    (∃ keys, stringKeys entries = some keys) ↔ ∀ item ∈ entries, ∃ text, item.1 = .str text := by
  induction entries with
  | nil => simp [stringKeys]
  | cons item entries ih =>
    rw [List.forall_mem_cons, ← ih]
    cases own : item.1 with
    | other text => simp [stringKeys, own]
    | str text =>
      cases later : stringKeys entries with
      | none => simp [stringKeys, own, later]
      | some keys => simp [stringKeys, own, later]

/-- Of string keys none is left out and none is added. -/
theorem mem_stringKeys {α : Type} {entries : List (PyKey × α)} {keys : List String}
    (strings : stringKeys entries = some keys) (text : String) :
    text ∈ keys ↔ ∃ item ∈ entries, item.1 = .str text := by
  induction entries generalizing keys with
  | nil =>
    rw [← Option.some.inj strings]
    simp
  | cons item entries ih =>
    unfold stringKeys at strings
    split at strings
    · rename_i name rest own others
      rw [← Option.some.inj strings, List.mem_cons, ih others]
      simp [own, eq_comm]
    · cases strings

/-- The keys are a subset exactly when each of them is one of the texts. -/
theorem keysSubset_iff {α : Type} {entries : List (PyKey × α)} {allowed : List String} :
    keysSubset entries allowed = true ↔ ∀ item ∈ entries, ∃ text ∈ allowed, item.1 = .str text := by
  unfold keysSubset
  cases strings : stringKeys entries with
  | none =>
    apply iff_of_false Bool.false_ne_true
    intro inside
    have named : ∀ item ∈ entries, ∃ text, item.1 = .str text := by
      intro item here
      obtain ⟨text, _, own⟩ := inside item here
      exact ⟨text, own⟩
    obtain ⟨keys, some⟩ := exists_stringKeys.mpr named
    rw [strings] at some
    cases some
  | some keys =>
    have named := exists_stringKeys.mp ⟨keys, strings⟩
    rw [subset_iff]
    constructor
    · intro inside item here
      obtain ⟨text, own⟩ := named item here
      exact ⟨text, inside text ((mem_stringKeys strings text).mpr ⟨item, here, own⟩), own⟩
    · intro inside text member
      obtain ⟨item, here, own⟩ := (mem_stringKeys strings text).mp member
      obtain ⟨other, allows, same⟩ := inside item here
      rw [own] at same
      rw [PyKey.str.inj same]
      exact allows

/-- The keys are equal to the texts exactly when they are a subset and no text is missing. -/
theorem keysEqual_iff {α : Type} {entries : List (PyKey × α)} {texts : List String} :
    keysEqual entries texts = true ↔
      keysSubset entries texts = true ∧ ∀ text ∈ texts, ∃ item ∈ entries, item.1 = .str text := by
  unfold keysEqual keysSubset
  cases strings : stringKeys entries with
  | none => simp
  | some keys => simp [mem_stringKeys strings]

/-- `set(str(item) for item in items).issubset(allowed)`, of items that are written. -/
def toldSubset (items : List PyValue) (allowed : List String) : Bool :=
  items.all fun item => item.told.toOption.any allowed.contains

/-- Every item is written as an allowed text. -/
@[simp] theorem toldSubset_iff {items : List PyValue} {allowed : List String} :
    toldSubset items allowed = true ↔ ∀ item ∈ items, ∃ text, item.told = .ok text ∧
      text ∈ allowed := by
  unfold toldSubset
  rw [List.all_eq_true]
  refine forall₂_congr fun item _ => ?_
  cases item.told with
  | error failure => simp [Except.toOption]
  | ok text => simp [Except.toOption]

namespace FieldRelationshipPolicy

/-- `_deny`. -/
def deny (request : AuthorizationRequest) (reason : String) : PolicyDecision :=
  ⟨false, "field:" ++ request.identity.requestId ++ ":" ++ reason, reason⟩

/-- The grant kept for a key: the last one given. -/
def grantFor (grants : List QueryAccessGrant) (request : AuthorizationRequest) :
    Option QueryAccessGrant :=
  grants.reverse.find? fun grant => grant.covers request.identity request.sourceId

/-- The loop over `select_by_asset`: every selection is a list or tuple of granted fields. A field
that cannot be written raises, so that nothing is allowed either. -/
def selectionsGranted (grant : QueryAccessGrant) (entries : List (PyKey × PyValue)) : Bool :=
  entries.all fun item =>
    match item.1, item.2 with
    | .str asset, .sequence fields _ =>
      match grant.fields asset with
      | some allowed => toldSubset fields allowed
      | none => false
    | _, _ => false

/-- The loop over `where_by_asset`: every filter is a mapping over granted fields. -/
def filtersGranted (grant : QueryAccessGrant) (entries : List (PyKey × PyValue)) : Bool :=
  entries.all fun item =>
    match item.1, item.2 with
    | .str asset, .mapping filters _ =>
      match grant.fields asset with
      | some allowed => keysSubset filters allowed
      | none => false
    | _, _ => false

/-- `relationships` is a list or tuple of granted relationships; a missing one is empty. -/
def relationshipsGranted (grant : QueryAccessGrant) (parameters : List (PyKey × PyValue)) :
    Bool :=
  match lookupKey "relationships" parameters with
  | none => true
  | some (.sequence items _) => toldSubset items grant.relationships
  | some _ => false

/-- The `select_by_asset` of a plan, an empty mapping when it is missing and none when it is
no mapping. -/
def scope (key : String) (parameters : List (PyKey × PyValue)) :
    Option (List (PyKey × PyValue)) :=
  match lookupKey key parameters with
  | none => some []
  | some (.mapping entries _) => some entries
  | some _ => none

/-- `evaluate`, over the decisions of the base policy. -/
def evaluate (base : AuthorizationRequest → PolicyDecision) (grants : List QueryAccessGrant)
    (request : AuthorizationRequest) : PolicyDecision :=
  if (base request).allowed = false ∨ request.capability ≠ .query then base request
  else match grantFor grants request with
    | none => deny request "query_grant_missing"
    | some grant =>
      if ¬ subset request.assetIds grant.assetFields.keys then deny request "asset_not_authorized"
      else match scope "select_by_asset" request.parameters with
        | none => deny request "query_shape_invalid"
        | some selections =>
          if ¬ keysEqual selections request.assetIds then deny request "query_shape_invalid"
          else if ¬ selectionsGranted grant selections then deny request "field_not_authorized"
          else if ¬ relationshipsGranted grant request.parameters then
            deny request "relationship_not_authorized"
          else match scope "where_by_asset" request.parameters with
            | none => deny request "query_shape_invalid"
            | some filters =>
              if ¬ keysSubset filters request.assetIds then deny request "query_shape_invalid"
              else if ¬ filtersGranted grant filters then
                deny request "filter_field_not_authorized"
              else base request

end FieldRelationshipPolicy

end DataHarness
