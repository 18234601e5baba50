import DataHarness.Edge.Protocol
import DataHarness.Library.Document

/-!
# Pinned tool catalogs

A caller lists the tools of a catalog and calls one of them later, with the digest it was shown. The
digest binds every field of every tool, the agents included, but not the order of the tools: a call
that is accepted is one of a tool as it was listed.
-/

namespace DataHarness

/-! ## Answers -/

variable [Stdlib]

/-- The compensation of a plan's contract. -/
def CompensationSpec.toContract (spec : CompensationSpec) : Json.Value :=
  .obj [("operation", .str spec.operation),
    ("parametersDigest", .str (digest spec.parameters.toJson)),
    ("preconditionsDigest", .str (digest spec.preconditions.toJson)),
    ("preconditionFields", .arr (spec.preconditions.sorted.map .str))]

/-- `SourceActionPlan.to_contract`. -/
def SourceActionPlan.toContract (plan : SourceActionPlan) : Json.Value :=
  .obj [("schemaVersion", .str "data.harness/v1"), ("actionId", .str plan.actionId),
    ("sourceId", .str plan.sourceId), ("assetId", .str plan.assetId),
    ("operation", .str plan.operation),
    ("parametersDigest", .str (DataHarness.digest plan.parameters.toJson)),
    ("preconditionsDigest", .str (DataHarness.digest plan.preconditions.toJson)),
    ("preconditionFields", .arr (plan.preconditions.sorted.map .str)),
    ("idempotencyKey", .str plan.idempotencyKey), ("risk", .str plan.risk.value),
    ("approvalMode", .str plan.approvalMode.value), ("purpose", .str plan.purpose),
    ("compensation", (plan.compensation.map CompensationSpec.toContract).getD .null)]

omit [Stdlib] in
/-- The schema of the arguments of a tool. -/
def inputSchema : Json.Value :=
  .obj [("type", .str "object"), ("additionalProperties", .bool false),
    ("required", .arr (["actionId", "parameters", "preconditions", "idempotencyKey"].map .str)),
    ("properties", .obj [("actionId", .obj [("type", .str "string")]),
      ("parameters", .obj [("type", .str "object")]),
      ("preconditions", .obj [("type", .str "object")]),
      ("idempotencyKey", .obj [("type", .str "string")]),
      ("compensation", .obj [("type", .arr [.str "object", .str "null"])])])]

omit [Stdlib] in
/-- `exposed_contract` of a tool: its contract without the agents, and with the schema. -/
def NorthboundTool.exposedContract (tool : NorthboundTool) : Json.Value :=
  .obj [("name", .str tool.name), ("description", .str tool.description),
    ("sourceId", .str tool.sourceId), ("assetId", .str tool.assetId),
    ("operation", .str tool.operation), ("risk", .str tool.risk.value),
    ("approvalMode", .str tool.approvalMode.value), ("purpose", .str tool.purpose),
    ("inputSchema", inputSchema)]

/-- A JSON-RPC response: the id of the request, and a result or the code and message of an
error. -/
structure NorthboundResponse where
  id : Option PyValue
  answer : Except (Int × String) Json.Value

namespace NorthboundActionAdapter

/-- The result of `tools/list`. -/
def listing (adapter : NorthboundActionAdapter) (identity : RequestIdentity) : Json.Value :=
  .obj [("protocolVersion", .str protocolVersion), ("catalogDigest", .str adapter.catalog.digest),
    ("tools", .arr (((adapter.catalog.tools.insertionSort (·.name ≤ ·.name)).filter fun tool =>
      identity.agentId ∈ tool.allowedAgents).map NorthboundTool.exposedContract))]

/-- A plan whose digest is taken, and with it those of its parts. -/
def digestTaken (plan : SourceActionPlan) : Except AdapterError SourceActionPlan := do
  let _ ← written plan.digested
  .ok plan

/-- The digest is taken of a plan exactly when its integers are written. -/
theorem digestTaken_eq_ok {plan other : SourceActionPlan} :
    digestTaken plan = .ok other ↔ writable plan.toJson = true ∧ plan = other := by
  unfold digestTaken
  simp only [bind_ok_iff, written_eq_ok, SourceActionPlan.digested_eq_ok, Except.ok.injEq]
  simp

/-- The result of `tools/call`. -/
def accepted (plan : SourceActionPlan) : Json.Value :=
  .obj [("actionDigest", .str plan.digest), ("sourceAction", plan.toContract),
    ("executionRequired", .bool true)]

/-- The result of a request. -/
def result (adapter : NorthboundActionAdapter) (request : Untrusted) (identity : RequestIdentity) :
    Except AdapterError Json.Value := do
  validateEnvelope request
  let method ← request.item "method"
  if method.equals "tools/list" then .ok (adapter.listing identity)
  else if method.equals "tools/call" then
    (adapter.toActionPlan request identity >>= digestTaken).map accepted
  else .error (.protocolRequestRejected (-32601) "method is not exposed")

/-- `handle`. -/
def handle (adapter : NorthboundActionAdapter) (request : Untrusted) (identity : RequestIdentity) :
    Except AdapterError NorthboundResponse :=
  match adapter.result request identity with
  | .ok result => .ok ⟨lookupKey "id" request, .ok result⟩
  | .error (.protocolRequestRejected code message) =>
    .ok ⟨lookupKey "id" request, .error (code, message)⟩
  | .error error => .error error

/-- A call is answered with a result exactly when it gives a plan that has a digest. -/
theorem handle_call {adapter : NorthboundActionAdapter} {request : Untrusted}
    {identity : RequestIdentity} (method : lookupKey "method" request = some (.str "tools/call"))
    {answer : Json.Value} :
    adapter.handle request identity = .ok ⟨lookupKey "id" request, .ok answer⟩ ↔
      ∃ plan, adapter.toActionPlan request identity = .ok plan ∧ writable plan.toJson = true ∧
        answer = accepted plan := by
  have read : request.item "method" = .ok (.str "tools/call") := by
    rw [Untrusted.item, method]
  have other : (PyValue.str "tools/call").equals "tools/list" = false := by decide
  have same : (PyValue.str "tools/call").equals "tools/call" = true := by decide
  cases valid : validateEnvelope request with
  | error error =>
    have refused : adapter.toActionPlan request identity = .error error := by
      simp [toActionPlan, valid, bind, Except.bind]
    have answered : adapter.result request identity = .error error := by
      simp [result, valid, bind, Except.bind]
    unfold handle
    rw [answered, refused]
    cases error <;> simp
  | ok done =>
    have answered : adapter.result request identity =
        (adapter.toActionPlan request identity >>= digestTaken).map accepted := by
      simp [result, valid, read, bind, Except.bind, other, same]
    have taken : ∀ own, (adapter.toActionPlan request identity >>= digestTaken) = .ok own ↔
        adapter.toActionPlan request identity = .ok own ∧ writable own.toJson = true := by
      intro own
      simp only [bind_ok_iff, digestTaken_eq_ok]
      constructor
      · rintro ⟨plan, planned, writes, rfl⟩
        exact ⟨planned, writes⟩
      · rintro ⟨planned, writes⟩
        exact ⟨own, planned, writes, rfl⟩
    unfold handle
    rw [answered]
    simp only [← and_assoc, ← taken]
    cases adapter.toActionPlan request identity >>= digestTaken with
    | error error => cases error <;> simp [Except.map]
    | ok plan => simp [Except.map, eq_comm]

/-- A listing is answered with the tools of the agent. -/
theorem handle_list (adapter : NorthboundActionAdapter) {request : Untrusted}
    (identity : RequestIdentity) (valid : validateEnvelope request = .ok ())
    (method : lookupKey "method" request = some (.str "tools/list")) :
    adapter.handle request identity =
      .ok ⟨lookupKey "id" request, .ok (adapter.listing identity)⟩ := by
  have read : request.item "method" = .ok (.str "tools/list") := by
    rw [Untrusted.item, method]
  simp [handle, result, valid, read, bind, Except.bind, PyValue.equals]

end NorthboundActionAdapter

/-! ## What a digest binds -/

omit [Stdlib] in
/-- Two tools are the same, field by field; agents are a set. -/
structure NorthboundTool.Same (left right : NorthboundTool) : Prop where
  name : left.name = right.name
  description : left.description = right.description
  source : left.sourceId = right.sourceId
  asset : left.assetId = right.assetId
  operation : left.operation = right.operation
  risk : left.risk = right.risk
  approval : left.approvalMode = right.approvalMode
  purpose : left.purpose = right.purpose
  agents : ∀ agent, agent ∈ left.allowedAgents ↔ agent ∈ right.allowedAgents

omit [Stdlib] in
/-- Two catalogs contain the same tools. -/
def NorthboundToolCatalog.SameTools (left right : NorthboundToolCatalog) : Prop :=
  (∀ tool ∈ left.tools, ∃ other ∈ right.tools, tool.Same other) ∧
    ∀ other ∈ right.tools, ∃ tool ∈ left.tools, tool.Same other

omit [Stdlib] in
/-- Risks with one text are one risk. -/
theorem ActionRisk.value_injective : Function.Injective ActionRisk.value := by
  intro left right same
  cases left <;> cases right <;> first | rfl | exact absurd same (by decide)

omit [Stdlib] in
/-- Approval modes with one text are one mode. -/
theorem ApprovalMode.value_injective : Function.Injective ApprovalMode.value := by
  intro left right same
  cases left <;> cases right <;> first | rfl | exact absurd same (by decide)

omit [Stdlib] in
/-- A member of a tool's contract. -/
theorem NorthboundTool.get?_contract (tool : NorthboundTool) (key : String) :
    (Json.canonical tool.toContract).get? key =
      (tool.toContract.get? key).map Json.canonical := by
  rw [toContract, Json.get?_canonical (by simp)]
  rfl

omit [Stdlib] in
/-- Tools with one contract, up to the order of its keys, are the same. -/
theorem NorthboundTool.same_of_contract {left right : NorthboundTool}
    (same : Json.canonical left.toContract = Json.canonical right.toContract) :
    left.Same right := by
  have member : ∀ key, (left.toContract.get? key).map Json.canonical =
      (right.toContract.get? key).map Json.canonical := by
    intro key
    rw [← get?_contract, ← get?_contract, same]
  have text : ∀ key {first second}, left.toContract.get? key = some (.str first) →
      right.toContract.get? key = some (.str second) → first = second := by
    intro key first second mine yours
    have equal := member key
    rw [mine, yours] at equal
    simpa [Json.canonical] using equal
  have agents : left.allowedAgents.insertionSort (· ≤ ·) =
      right.allowedAgents.insertionSort (· ≤ ·) := by
    have strings : ∀ texts : List String, Json.canonical (.arr (texts.map .str)) =
        .arr (texts.map .str) := by
      intro texts
      simp [Json.canonical, Json.canonicalItems_eq_map]
    have equal : some (Json.canonical (.arr _)) = some (Json.canonical (.arr _)) :=
      member "allowedAgents"
    rw [strings, strings] at equal
    exact List.map_injective_iff.mpr (fun _ _ => Json.Value.str.inj)
      (Json.Value.arr.inj (Option.some.inj equal))
  exact {
    name := text "name" rfl rfl
    description := text "description" rfl rfl
    source := text "sourceId" rfl rfl
    asset := text "assetId" rfl rfl
    operation := text "operation" rfl rfl
    risk := ActionRisk.value_injective (text "risk" rfl rfl)
    approval := ApprovalMode.value_injective (text "approvalMode" rfl rfl)
    purpose := text "purpose" rfl rfl
    agents := fun agent => by
      rw [← List.mem_insertionSort (· ≤ ·), agents, List.mem_insertionSort]
  }

omit [Stdlib] in
/-- The same tools have one contract. -/
theorem NorthboundTool.Same.contract {left right : NorthboundTool} (same : left.Same right) :
    left.toContract = right.toContract := by
  have perm : left.allowedAgents.Perm right.allowedAgents :=
    (List.perm_ext_iff_of_nodup left.distinct right.distinct).mpr same.agents
  have agents : left.allowedAgents.insertionSort (· ≤ ·) =
      right.allowedAgents.insertionSort (· ≤ ·) := by
    apply List.Perm.eq_of_pairwise' (List.pairwise_insertionSort _ _)
      (List.pairwise_insertionSort _ _)
    exact (List.perm_insertionSort _ _).trans (perm.trans (List.perm_insertionSort _ _).symm)
  unfold toContract
  rw [same.name, same.description, same.source, same.asset, same.operation, same.risk,
    same.approval, same.purpose, agents]

namespace NorthboundToolCatalog

/-- Catalogs with one digest contain the same tools, when SHA-256 has no collision. -/
theorem sameTools_of_digest (injective : Sha256Injective) {left right : NorthboundToolCatalog}
    (same : left.digest = right.digest) : left.SameTools right := by
  have contracts := digest_injective injective same
  simp only [Json.canonical, Json.canonicalItems_eq_map, List.map_map, Json.Value.arr.injEq]
    at contracts
  constructor
  · intro tool member
    have listed : Json.canonical tool.toContract ∈
        (left.tools.insertionSort (·.name ≤ ·.name)).map
          (Json.canonical ∘ NorthboundTool.toContract) :=
      List.mem_map.mpr ⟨tool, (List.mem_insertionSort _).mpr member, rfl⟩
    rw [contracts] at listed
    obtain ⟨other, among, equal⟩ := List.mem_map.mp listed
    exact ⟨other, (List.mem_insertionSort _).mp among,
      NorthboundTool.same_of_contract equal.symm⟩
  · intro other member
    have listed : Json.canonical other.toContract ∈
        (right.tools.insertionSort (·.name ≤ ·.name)).map
          (Json.canonical ∘ NorthboundTool.toContract) :=
      List.mem_map.mpr ⟨other, (List.mem_insertionSort _).mpr member, rfl⟩
    rw [← contracts] at listed
    obtain ⟨tool, among, equal⟩ := List.mem_map.mp listed
    exact ⟨tool, (List.mem_insertionSort _).mp among, NorthboundTool.same_of_contract equal⟩

omit [Stdlib] in
/-- The names and contracts of the tools, in the order in which they are presented. -/
def presented (catalog : NorthboundToolCatalog) : List (String × Json.Value) :=
  (catalog.tools.insertionSort (·.name ≤ ·.name)).map fun tool => (tool.name, tool.toContract)

omit [Stdlib] in
/-- Catalogs that contain the same tools present them alike. -/
theorem presented_eq {left right : NorthboundToolCatalog} (same : left.SameTools right) :
    left.presented = right.presented := by
  have perm : ∀ catalog : NorthboundToolCatalog, catalog.presented.Perm
      (catalog.tools.map fun tool => (tool.name, tool.toContract)) :=
    fun catalog => (List.perm_insertionSort _ _).map _
  have distinct : ∀ catalog : NorthboundToolCatalog,
      (catalog.tools.map fun tool => (tool.name, tool.toContract)).Nodup := by
    intro catalog
    apply List.Nodup.of_map Prod.fst
    rw [List.map_map]
    exact catalog.named
  have sorted : ∀ catalog : NorthboundToolCatalog,
      catalog.presented.Pairwise fun first second => first.1 ≤ second.1 := by
    intro catalog
    rw [presented, List.pairwise_map]
    exact List.pairwise_insertionSort _ _
  have both : left.presented.Perm right.presented := by
    apply (perm left).trans (List.Perm.trans _ (perm right).symm)
    rw [List.perm_ext_iff_of_nodup (distinct left) (distinct right)]
    intro item
    simp only [List.mem_map]
    constructor
    · rintro ⟨tool, member, rfl⟩
      obtain ⟨other, among, equal⟩ := same.1 tool member
      exact ⟨other, among, by rw [equal.name, equal.contract]⟩
    · rintro ⟨other, member, rfl⟩
      obtain ⟨tool, among, equal⟩ := same.2 other member
      exact ⟨tool, among, by rw [equal.name, equal.contract]⟩
  have keys : (left.presented.map Prod.fst).Nodup := by
    rw [((perm left).map Prod.fst).nodup_iff, List.map_map]
    exact left.named
  refine List.Perm.eq_of_pairwise (fun first second here there low high => ?_) (sorted left)
    (sorted right) both
  exact List.inj_on_of_nodup_map keys here (both.mem_iff.mpr there) (le_antisymm low high)

/-- Catalogs that contain the same tools have one digest. -/
theorem digest_eq {left right : NorthboundToolCatalog} (same : left.SameTools right) :
    left.digest = right.digest := by
  have contracts := congrArg (List.map Prod.snd) (presented_eq same)
  simp only [presented, List.map_map, Function.comp_def] at contracts
  unfold digest
  rw [show NorthboundTool.toContract = fun tool => tool.toContract from rfl, contracts]

omit [Stdlib] in
/-- A catalog in another order contains the same tools. -/
theorem sameTools_of_perm {left right : NorthboundToolCatalog}
    (perm : left.tools.Perm right.tools) : left.SameTools right := by
  have self : ∀ tool : NorthboundTool, tool.Same tool := fun tool =>
    ⟨rfl, rfl, rfl, rfl, rfl, rfl, rfl, rfl, fun _ => Iff.rfl⟩
  exact ⟨fun tool member => ⟨tool, perm.mem_iff.mp member, self tool⟩,
    fun tool member => ⟨tool, perm.mem_iff.mpr member, self tool⟩⟩

end NorthboundToolCatalog

/-! ## Pinning -/

omit [Stdlib] in
/-- A contract shows a tool as a plan has it. -/
structure Shows (contract : Json.Value) (plan : SourceActionPlan) : Prop where
  source : contract.get? "sourceId" = some (.str plan.sourceId)
  asset : contract.get? "assetId" = some (.str plan.assetId)
  operation : contract.get? "operation" = some (.str plan.operation)
  risk : contract.get? "risk" = some (.str plan.risk.value)
  approval : contract.get? "approvalMode" = some (.str plan.approvalMode.value)
  purpose : contract.get? "purpose" = some (.str plan.purpose)

/-- A plan is made under the digest of the adapter's catalog. -/
theorem NorthboundActionAdapter.digest_of_toActionPlan {adapter : NorthboundActionAdapter}
    {request : Untrusted} {identity : RequestIdentity} {plan : SourceActionPlan}
    (planned : adapter.toActionPlan request identity = .ok plan) :
    (lookupKey "catalogDigest" request).any (·.equals adapter.catalog.digest) = true := by
  obtain ⟨_, -, planned⟩ := of_bind_ok planned
  obtain ⟨_, -, planned⟩ := of_bind_ok planned
  split at planned
  · cases planned
  split at planned
  · cases planned
  · rename_i current
    exact not_not.mp current

omit [Stdlib] in
/-- A value equals one text only. -/
theorem PyValue.equals_unique {value : PyValue} {first second : String}
    (left : value.equals first = true) (right : value.equals second = true) : first = second := by
  unfold PyValue.equals at left right
  split at left
  · exact (beq_iff_eq.mp left).symm.trans (beq_iff_eq.mp right)
  · cases left

omit [Stdlib] in
/-- The tool of a call has the name that the call gives. -/
theorem NorthboundActionAdapter.name_of_requestedTool {adapter : NorthboundActionAdapter}
    {request : Untrusted} {tool : NorthboundTool}
    (requested : adapter.requestedTool request = some tool) :
    (lookupKey "params" request).bind (·.get "name") = some (.str tool.name) := by
  unfold requestedTool at requested
  split at requested
  · rename_i name named
    have same : tool.name = name := by simpa using List.find?_some requested
    rw [named, same]
  · cases requested

omit [Stdlib] in
/-- The contract that is exposed of a tool shows it as plans that follow it have it. -/
theorem shows_of_follows {tool other : NorthboundTool} {plan : SourceActionPlan}
    (same : tool.Same other) (follows : NorthboundActionAdapter.Follows plan other) :
    Shows tool.exposedContract plan where
  source := by rw [follows.source, ← same.source]; rfl
  asset := by rw [follows.asset, ← same.asset]; rfl
  operation := by rw [follows.operation, ← same.operation]; rfl
  risk := by rw [follows.risk, ← same.risk]; rfl
  approval := by rw [follows.approval, ← same.approval]; rfl
  purpose := by rw [follows.purpose, ← same.purpose]; rfl

/-- A call with the digest of one catalog that is accepted over another finds the same tools there.
The first catalog lists the tool of the call to the caller, and the plan has what was listed. The
order of the tools is not pinned. -/
theorem catalog_pinned (injective : Sha256Injective) :
    (∀ (first second : NorthboundToolCatalog) (identity : RequestIdentity) (request : Untrusted)
      (answer : Json.Value),
      (lookupKey "catalogDigest" request).any (·.equals first.digest) = true →
      lookupKey "method" request = some (.str "tools/call") →
      NorthboundActionAdapter.handle ⟨second⟩ request identity =
        .ok ⟨lookupKey "id" request, .ok answer⟩ →
      first.SameTools second ∧ ∃ plan name,
        NorthboundActionAdapter.toActionPlan ⟨second⟩ request identity = .ok plan ∧
        answer = NorthboundActionAdapter.accepted plan ∧
        (lookupKey "params" request).bind (·.get "name") = some (.str name) ∧
        ∀ listing : Untrusted, NorthboundActionAdapter.validateEnvelope listing = .ok () →
          lookupKey "method" listing = some (.str "tools/list") →
          ∃ result tools, NorthboundActionAdapter.handle ⟨first⟩ listing identity =
              .ok ⟨lookupKey "id" listing, .ok result⟩ ∧
            result.get? "catalogDigest" = some (.str first.digest) ∧
            result.get? "tools" = some (.arr tools) ∧
            ∃ contract ∈ tools, contract.get? "name" = some (.str name) ∧ Shows contract plan) ∧
    ∀ first second : NorthboundToolCatalog, first.tools.Perm second.tools →
      first.digest = second.digest := by
  refine ⟨?_, fun first second perm =>
    NorthboundToolCatalog.digest_eq (NorthboundToolCatalog.sameTools_of_perm perm)⟩
  intro first second identity request answer pinned method answered
  obtain ⟨plan, planned, -, rfl⟩ := (NorthboundActionAdapter.handle_call method).mp answered
  obtain ⟨value, given, shown⟩ := (Option.any_eq_true _ _).mp pinned
  obtain ⟨own, found, current⟩ :=
    (Option.any_eq_true _ _).mp (NorthboundActionAdapter.digest_of_toActionPlan planned)
  obtain rfl : value = own := Option.some.inj (given.symm.trans found)
  have same : first.SameTools second :=
    NorthboundToolCatalog.sameTools_of_digest injective (PyValue.equals_unique shown current)
  obtain ⟨other, known, requested, listed, follows, -⟩ :=
    NorthboundActionAdapter.of_toActionPlan planned
  obtain ⟨tool, member, equal⟩ := same.2 other known
  refine ⟨same, plan, other.name, planned, rfl,
    NorthboundActionAdapter.name_of_requestedTool requested, ?_⟩
  intro listing valid method
  refine ⟨_, _, NorthboundActionAdapter.handle_list ⟨first⟩ identity valid method, rfl, rfl,
    tool.exposedContract, ?_, ?_, shows_of_follows equal follows⟩
  · apply List.mem_map.mpr
    refine ⟨tool, List.mem_filter.mpr ⟨(List.mem_insertionSort _).mpr member, ?_⟩, rfl⟩
    simpa using (equal.agents _).mpr listed
  · rw [← equal.name]
    rfl

/-- A listing of the tools. -/
def NorthboundActionAdapter.listed : Untrusted :=
  [(.str "jsonrpc", .str "2.0"), (.str "id", .str "list"), (.str "method", .str "tools/list"),
    (.str "protocolVersion", .str protocolVersion)]

omit [Stdlib]

/-- A catalog of two tools. -/
def NorthboundToolCatalog.pair : NorthboundToolCatalog where
  tools := NorthboundToolCatalog.small.tools ++ [⟨"ship", "Ship an order", "erp", "order", "ship",
    .high, .human, "ship", [RequestIdentity.small.agentId, "agent:planner"], by decide, by decide,
    by simp⟩]
  stocked := by simp
  named := by simp [NorthboundToolCatalog.small]

/-- The same tools in another order. -/
def NorthboundToolCatalog.reordered : NorthboundToolCatalog where
  tools := NorthboundToolCatalog.pair.tools.reverse
  stocked := by simp [NorthboundToolCatalog.pair]
  named := by simp [NorthboundToolCatalog.pair, NorthboundToolCatalog.small]

/-- Over another catalog, with the digest of the one that was listed, a call is accepted, and has
what was listed. -/
theorem catalog_pinned_small :
    letI := Stdlib.transparent
    NorthboundToolCatalog.pair.tools ≠ NorthboundToolCatalog.reordered.tools ∧
      ∃ plan contract, NorthboundActionAdapter.toActionPlan ⟨.reordered⟩
          (NorthboundActionAdapter.calledUnder .pair "purge") .small = .ok plan ∧
        contract.get? "name" = some (.str "hold") ∧ Shows contract plan := by
  let := Stdlib.transparent
  let request := NorthboundActionAdapter.calledUnder .pair "purge"
  obtain ⟨pins, permutes⟩ := catalog_pinned Stdlib.transparent_sha256
  have same : NorthboundToolCatalog.pair.digest = NorthboundToolCatalog.reordered.digest :=
    permutes _ _ (List.reverse_perm _).symm
  obtain ⟨plan, accepted⟩ := exists_ok (by decide +kernel :
    (NorthboundActionAdapter.toActionPlan ⟨.reordered⟩ request .small >>=
      NorthboundActionAdapter.digestTaken).toBool = true)
  obtain ⟨_, planned, taken⟩ := bind_ok_iff.mp accepted
  obtain ⟨writes, rfl⟩ := NorthboundActionAdapter.digestTaken_eq_ok.mp taken
  have method : lookupKey "method" request = some (.str "tools/call") := rfl
  have answered := (NorthboundActionAdapter.handle_call method).mpr ⟨_, planned, writes, rfl⟩
  have current := NorthboundActionAdapter.digest_of_toActionPlan planned
  have pinned : (lookupKey "catalogDigest" request).any
      (·.equals NorthboundToolCatalog.pair.digest) = true := by
    rw [same]
    exact current
  obtain ⟨-, other, name, again, -, named, lists⟩ :=
    pins .pair .reordered .small _ _ pinned method answered
  have called : name = "hold" := by
    have shown : (lookupKey "params" request).bind (·.get "name") = some (.str "hold") := rfl
    exact (PyValue.str.inj (Option.some.inj (shown.symm.trans named))).symm
  obtain ⟨_, tools, -, -, -, contract, -, own, shows⟩ :=
    lists NorthboundActionAdapter.listed (by decide) rfl
  refine ⟨?_, other, contract, again, called ▸ own, shows⟩
  intro order
  have names := congrArg (List.map NorthboundTool.name) order
  exact absurd names (by decide)

end DataHarness
