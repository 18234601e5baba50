import DataHarness.Query.Structured
import DataHarness.Query.WhiteGoods

/-!
# Documents by role

`DocumentConnector` shows the documents whose access list has the role that a plan names, and the
laboratory's policy lets an agent name no role but its own. A plan that names none is not refused:
the connector then looks for the text of the missing role.
-/

namespace DataHarness

/-! ## Delivered batches -/

/-- What a gateway delivers is a first part of what its connector answers. -/
theorem HarnessGateway.execute_first {gateway : HarnessGateway} {interruptions : Interruptions}
    {request : QueryRequest} {identity : RequestIdentity} {connector : QueryConnector}
    (registered : gateway.registry.get request.sourceId .query = .ok connector) :
    (gateway.execute interruptions request identity).items <+:
      (connector.execute request).items := by
  unfold execute
  rw [registered]
  cases gateway.authorize interruptions request identity with
  | error error => exact List.nil_prefix
  | ok done =>
    obtain ⟨-, rest, split, -, -⟩ := Feed.deliver_spec (interruptions.stops request.sourceId)
      (account connector.maxResultBytes request) (connector.execute request).raised 0 ⟨0, 0⟩
      (connector.execute request).items
    exact ⟨rest, split.symm⟩

/-- A request that goes through the authorization is allowed. -/
theorem HarnessGateway.allowed_of_authorize {gateway : HarnessGateway}
    {interruptions : Interruptions} {request : QueryRequest} {identity : RequestIdentity}
    (authorized : gateway.authorize interruptions request identity = .ok ()) :
    (gateway.policy (request.authorization identity)).allowed = true := by
  unfold authorize at authorized
  cases told : interruptions.authorized with
  | some message =>
    rw [told] at authorized
    cases authorized
  | none =>
    rw [told] at authorized
    by_contra refused
    simp only [if_neg refused] at authorized
    cases authorized

/-- What a gateway delivers, its connector answered to a request that the policy allows. -/
theorem HarnessGateway.of_execute {gateway : HarnessGateway} {interruptions : Interruptions}
    {request : QueryRequest} {identity : RequestIdentity} {connector : QueryConnector}
    {batch : DataBatch}
    (registered : gateway.registry.get request.sourceId .query = .ok connector)
    (delivered : batch ∈ (gateway.execute interruptions request identity).items) :
    (gateway.policy (request.authorization identity)).allowed = true ∧
      batch ∈ (connector.execute request).items := by
  refine ⟨?_, (execute_first registered).subset delivered⟩
  cases authorized : gateway.authorize interruptions request identity with
  | error error =>
    unfold execute at delivered
    rw [registered] at delivered
    simp only [authorized] at delivered
    cases delivered
  | ok done => exact allowed_of_authorize authorized

/-! ## The connector -/

/-- `LabDocument`; `aclRoles` lists the roles of a set. -/
structure LabDocument where
  documentId : String
  product : String
  aclRoles : List String
  title : String
  content : String
  contentHash : String
  trust : String
  distinct : aclRoles.Nodup

/-- A document in a payload. -/
def LabDocument.toJson (item : LabDocument) : Json.Value :=
  .obj [("document_id", .str item.documentId), ("product", .str item.product),
    ("title", .str item.title), ("content", .str item.content),
    ("acl_roles", .arr ((sortedTexts item.aclRoles).map .str)),
    ("content_hash", .str item.contentHash), ("trust", .str item.trust)]

/-- `DocumentConnector`. -/
structure DocumentConnector where
  documents : List LabDocument
  version : String
  versioned : version ≠ ""

namespace DocumentConnector

/-- `connector_id`. -/
def documentsId : String := "whitegoods.documents"

/-- The names of the connector are not empty. -/
theorem documents_named : documentsId ≠ "" ∧ "technical_documents" ≠ "" := by decide

/-- The fixed time has a time zone. -/
theorem fixed_aware : StructuredConnector.fixedTime.aware = true ∧
    ∀ time ∈ (none : Option DateTime), time.aware = true := by
  refine ⟨rfl, ?_⟩
  intro time missing
  cases missing

/-- `str(plan.get("role", ""))`. -/
def roleOf (plan : List (PyKey × PyValue)) : Told :=
  ((lookupKey "role" plan).map PyValue.told).getD ""

/-- `product is None or product == document.product`. -/
def ofProduct (plan : List (PyKey × PyValue)) (item : LabDocument) : Bool :=
  match lookupKey "product" plan with
  | none | some .none => true
  | some value => value.equals item.product

/-- `visible`: the documents that list a role and are of the product a plan asks for, as many as the
limit allows. -/
def shownTo (role : String) (connector : DocumentConnector) (request : QueryRequest) :
    List LabDocument :=
  (connector.documents.filter fun item =>
    item.aclRoles.contains role && ofProduct request.plan item).take request.limit.toNat

/-- `self.version`. -/
def sourceVersion (connector : DocumentConnector) : SourceVersion where
  sourceId := documentsId
  version := connector.version
  observedAt := StructuredConnector.fixedTime
  effectiveAt := none
  required := ⟨documents_named.1, connector.versioned⟩
  aware := fixed_aware

/-- The lineage of one record. -/
def lineageRef (record : String) : LineageRef :=
  ⟨documentsId, "technical_documents", some record, none, documents_named⟩

/-- The lineage of the visible documents. -/
def lineage (items : List LabDocument) : List LineageRef :=
  if items.isEmpty then [lineageRef "empty-result"]
  else items.map fun item => lineageRef item.documentId

/-- A batch always has lineage. -/
theorem lineage_ne_nil (items : List LabDocument) : lineage items ≠ [] := by
  cases items <;> simp [lineage]

/-- `execute`; during an injected outage the connector is not available. -/
def execute (connector : DocumentConnector) (available : Bool) (request : QueryRequest) :
    Feed DataBatch QueryError :=
  if available then
    match roleOf request.plan with
    | .error failure => ⟨[], some (.ofWrite failure)⟩
    | .ok role =>
      let items := shownTo role connector request
      ⟨[⟨.document, .json (.arr (items.map LabDocument.toJson)), [connector.sourceVersion],
        lineage items, some items.length, none,
        ⟨List.cons_ne_nil _ _, lineage_ne_nil items⟩⟩], none⟩
  else ⟨[], some (.labSourceUnavailable ("injected outage: " ++ documentsId))⟩

/-- The connector as the gateway sees it. -/
def asConnector (connector : DocumentConnector) (available : Bool) : QueryConnector where
  connectorId := documentsId
  capabilities := [.discover, .describe, .query]
  maxResultBytes := 10485760
  execute := connector.execute available

/-! ## What an agent is shown -/

/-- Whatever other connectors a gateway has and whatever stops the query, an agent is shown
documents whose access list has the agent's own role, the first ones of the product it asks for. The
one way around the role is a plan that names none: then it is shown the documents that list the
empty role, or the role `None` where the plan has that value. -/
theorem acl_enforced {gateway : HarnessGateway} {numbers : Scalar → PyValue → Bool}
    {connector : DocumentConnector} {available : Bool} {interruptions : Interruptions}
    {request : QueryRequest} {identity : RequestIdentity} {batch : DataBatch}
    (policy : gateway.policy = WhiteGoodsPolicy.evaluate numbers)
    (registered : gateway.registry.get request.sourceId .query =
      .ok (connector.asConnector available))
    (delivered : batch ∈ (gateway.execute interruptions request identity).items) :
    ∃ grant, WhiteGoodsPolicy.grantOf identity.agentId = some grant ∧
      ∃ role shown, batch.payload = .json (.arr (shown.map LabDocument.toJson)) ∧
        shown = shownTo role connector request ∧
        (∀ item ∈ shown, item ∈ connector.documents ∧ role ∈ item.aclRoles) ∧
        (shown.length : Int) ≤ request.limit ∧
        (lookupKey "role" request.plan = some (.str grant.role) ∧ role = grant.role ∨
          lookupKey "role" request.plan = none ∧ role = "" ∨
          lookupKey "role" request.plan = some .none ∧ role = "None") := by
  obtain ⟨allowed, answered⟩ := HarnessGateway.of_execute registered delivered
  rw [policy] at allowed
  obtain ⟨grant, known, -, roles, -⟩ :=
    (WhiteGoodsPolicy.evaluate_allowed numbers (request.authorization identity)).mp allowed
  have handed : ∃ role, roleOf request.plan = .ok role ∧ batch.payload =
      .json (.arr ((shownTo role connector request).map LabDocument.toJson)) := by
    have own : batch ∈ (connector.execute available request).items := answered
    unfold execute at own
    by_cases up : available = true
    · rw [if_pos up] at own
      cases told : roleOf request.plan with
      | error failure =>
        rw [told] at own
        cases own
      | ok role =>
        rw [told] at own
        exact ⟨role, rfl, by rw [List.mem_singleton.mp own]⟩
    · rw [if_neg up] at own
      cases own
  obtain ⟨role, told, payload⟩ := handed
  refine ⟨grant, known, role, shownTo role connector request, payload, rfl, ?_, ?_, ?_⟩
  · intro item member
    obtain ⟨among, fits⟩ := List.mem_filter.mp (List.mem_of_mem_take member)
    rw [Bool.and_eq_true] at fits
    exact ⟨among, List.contains_iff_mem.mp fits.1⟩
  · have bounded : (shownTo role connector request).length ≤ request.limit.toNat :=
      List.length_take_le _ _
    have limited := request.limited
    omega
  · have planned : WhiteGoodsPolicy.plannedOf (request.authorization identity) "role" =
        (lookupKey "role" request.plan).getD .none := rfl
    unfold roleOf at told
    cases named : lookupKey "role" request.plan with
    | none =>
      rw [named] at told
      exact .inr (.inl ⟨rfl, (Except.ok.inj told).symm⟩)
    | some value =>
      rw [planned, named, Option.getD_some] at roles
      rw [named] at told
      rcases roles with ⟨-, missing⟩ | ⟨text, granted, -, same⟩
      · rw [missing] at told ⊢
        exact .inr (.inr ⟨rfl, (Except.ok.inj told).symm⟩)
      · rw [same] at told ⊢
        have own : text = role := Except.ok.inj told
        rw [← own, List.mem_singleton.mp granted]
        exact .inl ⟨rfl, rfl⟩

/-! ## A service agent -/

/-- A manual for the service role, and prices that are not for it. -/
def manuals : DocumentConnector where
  documents :=
    [⟨"prices", "washer", ["sales"], "Prices", "On request.", "sha256:prices",
      "untrusted-source", List.nodup_singleton _⟩,
    ⟨"manual", "washer", ["service"], "Manual", "Check the pump.", "sha256:manual",
      "untrusted-source", List.nodup_singleton _⟩]
  version := "sha256:rows"
  versioned := StructuredConnector.rows_versioned

/-- A gateway that has only these documents. -/
def manualsGateway : HarnessGateway where
  registry := ⟨[manuals.asConnector true], List.nodup_singleton _⟩
  policy := WhiteGoodsPolicy.evaluate fun _ _ => false

/-- A service agent asks for the documents of its role. -/
def serviceManuals : QueryRequest where
  sourceId := "whitegoods.documents"
  assetIds := ["technical_documents"]
  plan := [(.str "role", .str "service")]
  limit := 7
  deadlineMs := 1
  purpose := "analysis"
  policyAttributes := [("role", .str "service")]
  scope := by decide
  limited := by decide
  timed := Int.one_pos
  purposed := StructuredConnector.analysis_purposed

/-- It is handed one of the two. -/
theorem shownTo_service :
    (shownTo "service" manuals serviceManuals).map LabDocument.documentId = ["manual"] := by
  decide +kernel

/-- It is handed them. -/
theorem manuals_handed :
    (manualsGateway.execute .none serviceManuals .lab).items ≠ [] := by
  intro nothing
  have handed : (manualsGateway.execute .none serviceManuals .lab).items.length = 1 := by
    decide +kernel
  rw [nothing] at handed
  cases handed

/-- Of two documents the agent that asks is handed the one for its role. -/
theorem acl_enforced_service :
    ∃ batch ∈ (manualsGateway.execute .none serviceManuals .lab).items,
      ∃ shown : List LabDocument, batch.payload = .json (.arr (shown.map LabDocument.toJson)) ∧
        shown.map LabDocument.documentId = ["manual"] ∧
        ∀ item ∈ shown, item ∈ manuals.documents ∧ "service" ∈ item.aclRoles := by
  obtain ⟨batch, handed⟩ := List.exists_mem_of_ne_nil _ manuals_handed
  have registered : manualsGateway.registry.get serviceManuals.sourceId .query =
      .ok (manuals.asConnector true) := rfl
  obtain ⟨grant, known, role, shown, payload, same, each, -, roles⟩ :=
    acl_enforced rfl registered handed
  have own : grant.role = "service" := by
    obtain rfl := Option.some.inj known
    rfl
  have asked : lookupKey "role" serviceManuals.plan = some (.str "service") := rfl
  obtain rfl : role = "service" := by
    rcases roles with ⟨-, named⟩ | ⟨missing, -⟩ | ⟨missing, -⟩
    · exact named.trans own
    · rw [asked] at missing
      cases missing
    · rw [asked] at missing
      cases missing
  exact ⟨batch, handed, shown, payload, by rw [same, shownTo_service], each⟩

end DocumentConnector

end DataHarness
