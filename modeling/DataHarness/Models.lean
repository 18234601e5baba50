import DataHarness.Policy

/-!
# Source-neutral data exchange objects

Query requests, and the batches a connector answers them with. What a constructor checks is a
field of the value, so a request without a positive limit or a batch without a source version
cannot be built.
-/

namespace DataHarness

/-- `LineageRef`. -/
structure LineageRef where
  sourceId : String
  assetId : String
  recordId : Option String
  fieldPath : Option String
  required : sourceId ≠ "" ∧ assetId ≠ ""
deriving DecidableEq

/-- The asset of small runs. -/
abbrev LineageRef.orders : LineageRef := ⟨"erp", "orders", none, none, by decide⟩

/-- The asset of small streams. -/
abbrev LineageRef.asset : LineageRef := ⟨"source", "asset", none, none, by decide⟩

/-! ## Query requests -/

/-- `str.isspace` of a character. -/
def isSpace (c : Char) : Bool :=
  c.toNat ∈ [9, 10, 11, 12, 13, 28, 29, 30, 31, 32, 0x85, 0xa0, 0x1680, 0x2028, 0x2029, 0x202f,
    0x205f, 0x3000] || decide (0x2000 ≤ c.toNat) && decide (c.toNat ≤ 0x200a)

/-- `not text.strip()`. -/
def isBlank (text : String) : Bool := text.toList.all isSpace

/-- `QueryRequest`. -/
structure QueryRequest where
  sourceId : String
  assetIds : List String
  plan : List (PyKey × PyValue)
  limit : Int
  deadlineMs : Int
  purpose : String
  policyAttributes : List (String × Scalar)
  /-- Query source and asset ids are required. -/
  scope : sourceId ≠ "" ∧ assetIds ≠ [] ∧ ∀ asset ∈ assetIds, asset ≠ ""
  /-- The query limit is positive. -/
  limited : 0 < limit
  /-- The deadline is positive. -/
  timed : 0 < deadlineMs
  /-- A purpose is required. -/
  purposed : isBlank purpose = false

/-- A second is a deadline. -/
theorem second_timed : (0 : Int) < 1000 := by decide

/-- `QueryRequest(…)`; an error is the text of its `ValueError`. -/
def QueryRequest.make (sourceId : String) (assetIds : List String)
    (plan : List (PyKey × PyValue)) (limit deadlineMs : Int) (purpose : String)
    (policyAttributes : List (String × Scalar)) : Except String QueryRequest :=
  if scope : sourceId ≠ "" ∧ assetIds ≠ [] ∧ ∀ asset ∈ assetIds, asset ≠ "" then
    if limited : 0 < limit then
      if timed : 0 < deadlineMs then
        if purposed : isBlank purpose = false then
          .ok ⟨sourceId, assetIds, plan, limit, deadlineMs, purpose, policyAttributes, scope,
            limited, timed, purposed⟩
        else .error "purpose is required"
      else .error "deadline_ms must be positive"
    else .error "query limit must be positive"
  else .error "query source and asset_ids are required"

/-- A request that is made holds what it is made of. -/
theorem QueryRequest.of_make {sourceId : String} {assetIds : List String}
    {plan : List (PyKey × PyValue)} {limit deadlineMs : Int} {purpose : String}
    {policyAttributes : List (String × Scalar)} {request : QueryRequest}
    (made : make sourceId assetIds plan limit deadlineMs purpose policyAttributes = .ok request) :
    ∃ scope limited timed purposed, request = ⟨sourceId, assetIds, plan, limit, deadlineMs,
      purpose, policyAttributes, scope, limited, timed, purposed⟩ := by
  unfold make at made
  split at made
  · rename_i scope
    split at made
    · rename_i limited
      split at made
      · rename_i timed
        split at made
        · rename_i purposed
          exact ⟨scope, limited, timed, purposed, (Except.ok.inj made).symm⟩
        · cases made
      · cases made
    · cases made
  · cases made

/-- What `HarnessGateway` asks its policy about a request. -/
def QueryRequest.authorization (request : QueryRequest) (identity : RequestIdentity) :
    AuthorizationRequest :=
  ⟨identity, request.sourceId, .query, request.assetIds, request.purpose,
    request.policyAttributes, request.plan⟩

/-! ## Batches -/

/-- `BatchKind`. -/
inductive BatchKind
  | arrow
  | document
  | graph
  | event
  | binary
deriving DecidableEq

/-- `SourceVersion`. -/
structure SourceVersion where
  sourceId : String
  version : String
  observedAt : DateTime
  effectiveAt : Option DateTime
  required : sourceId ≠ "" ∧ version ≠ ""
  /-- Timestamps are timezone-aware. -/
  aware : observedAt.aware = true ∧ ∀ time ∈ effectiveAt, time.aware = true

/-- The payload of a batch, as far as the gateway looks at it: bytes, a JSON value that does not
nest too deeply for `json.dumps`, where a list or a tuple is an array, or anything else, with what
`json.dumps` raises of it and its length if it is a list or a tuple. -/
inductive Payload
  | bytes (content : List UInt8)
  | json (value : Json.Value)
  | unwritable (failure : WriteError) (length : Option Nat)

/-- `DataBatch`. -/
structure DataBatch where
  kind : BatchKind
  payload : Payload
  sourceVersions : List SourceVersion
  lineage : List LineageRef
  rowCount : Option Nat
  byteCount : Option Nat
  /-- Every batch requires source version and lineage. -/
  required : sourceVersions ≠ [] ∧ lineage ≠ []

/-- `DataBatch(…)`; an error is the text of its `ValueError`. -/
def DataBatch.make (kind : BatchKind) (payload : Payload) (sourceVersions : List SourceVersion)
    (lineage : List LineageRef) (rowCount byteCount : Option Nat) : Except String DataBatch :=
  if required : sourceVersions ≠ [] ∧ lineage ≠ [] then
    .ok ⟨kind, payload, sourceVersions, lineage, rowCount, byteCount, required⟩
  else .error "every batch requires source version and lineage"

end DataHarness
