import DataHarness.Edge.Delegation

/-!
# Northbound tool calls

`NorthboundActionAdapter` maps a JSON-RPC tool call to a source action. Source, asset, operation,
risk, approval mode and purpose come from the tool of the catalog; the operation of a compensation
is taken from the arguments as it is.
-/

namespace DataHarness

/-- `PROTOCOL_VERSION`. -/
def protocolVersion : String := "data.harness.northbound/v1"

/-- `NorthboundTool`; `allowedAgents` lists the agents of a set. -/
structure NorthboundTool where
  name : String
  description : String
  sourceId : String
  assetId : String
  operation : String
  risk : ActionRisk
  approvalMode : ApprovalMode
  purpose : String
  allowedAgents : List String
  /-- A set has each agent once. -/
  distinct : allowedAgents.Nodup
  /-- Northbound tools require metadata. -/
  metadata : ∀ value ∈ [name, description, sourceId, assetId, operation, purpose], value ≠ ""
  /-- Northbound tools require at least one allowed agent. -/
  agents : allowedAgents ≠ []

/-- `to_contract` of a tool. -/
def NorthboundTool.toContract (tool : NorthboundTool) : Json.Value :=
  .obj [("name", .str tool.name), ("description", .str tool.description),
    ("sourceId", .str tool.sourceId), ("assetId", .str tool.assetId),
    ("operation", .str tool.operation), ("risk", .str tool.risk.value),
    ("approvalMode", .str tool.approvalMode.value), ("purpose", .str tool.purpose),
    ("allowedAgents", .arr ((tool.allowedAgents.insertionSort (· ≤ ·)).map .str))]

/-- `NorthboundToolCatalog`. -/
structure NorthboundToolCatalog where
  tools : List NorthboundTool
  /-- A catalog has at least one tool. -/
  stocked : tools ≠ []
  /-- Tools are uniquely named. -/
  named : (tools.map (·.name)).Nodup

/-- `digest` of a catalog. -/
def NorthboundToolCatalog.digest [Stdlib] (catalog : NorthboundToolCatalog) : String :=
  DataHarness.digest
    (.arr ((catalog.tools.insertionSort (·.name ≤ ·.name)).map NorthboundTool.toContract))

/-- `NorthboundActionAdapter`. -/
structure NorthboundActionAdapter where
  catalog : NorthboundToolCatalog

namespace NorthboundActionAdapter

/-- `_validate_envelope`. -/
def validateEnvelope (request : Untrusted) : Except AdapterError Unit :=
  if ¬ keysSubset request ["jsonrpc", "id", "method", "protocolVersion", "catalogDigest",
      "params"] then
    .error (.protocolRequestRejected (-32600) "request envelope is over-broad")
  else if ¬ (lookupKey "jsonrpc" request).any (·.equals "2.0") ∨
      ¬ (lookupKey "protocolVersion" request).any (·.equals protocolVersion) then
    .error (.protocolRequestRejected (-32600) "protocol version is unsupported")
  else match lookupKey "id" request with
    | some (.str _) | some (.int _) | some (.bool _) => .ok ()
    | _ => .error (.protocolRequestRejected (-32600) "request id is required")

/-- The items of `_scalar_mapping`; none where one of them is refused. -/
def scalarItems : Untrusted → Option (List (String × Scalar))
  | [] => some []
  | (.str name, item) :: rest => do
    let scalar ← item.scalar?
    let others ← scalarItems rest
    some ((name, scalar) :: others)
  | _ => none

/-- `_scalar_mapping`. -/
def scalarMapping (value : PyValue) (name : String) : Except AdapterError (Dict Scalar) :=
  match value with
  | .mapping (item :: items) _ =>
    match scalarItems (item :: items) with
    | some entries =>
      .ok (entries.foldl (fun result entry => result.set entry.1 entry.2) .empty)
    | none => .error (.protocolRequestRejected (-32602) (name ++ " values must be scalar"))
  | _ => .error (.protocolRequestRejected (-32602) (name ++ " must be a non-empty object"))

/-- `_compensation`; none for an argument that is missing. -/
def compensation : Option PyValue → Except AdapterError (Option CompensationSpec)
  | none | some .none => .ok none
  | some (.mapping data _) =>
    if ¬ keysEqual data ["operation", "parameters", "preconditions"] then
      .error (.protocolRequestRejected (-32602) "compensation is not exact")
    else do
      let operation ← written (← Untrusted.item data "operation").told
      let parameters ← scalarMapping (← Untrusted.item data "parameters") "compensation parameters"
      let preconditions ←
        scalarMapping (← Untrusted.item data "preconditions") "compensation preconditions"
      let spec ← construct (CompensationSpec.make operation parameters preconditions)
      .ok (some spec)
  | _ => .error (.protocolRequestRejected (-32602) "compensation is not exact")

/-- `except (TypeError, ValueError)` around the plan. -/
def asRejection {α : Type} : Except AdapterError α → Except AdapterError α
  | .error (.valueError _) | .error (.typeError _) =>
    .error (.protocolRequestRejected (-32602) "tool arguments violate action contract")
  | result => result

/-- The plan of a tool, inside the `try`. -/
def construction (tool : NorthboundTool) (arguments : Untrusted)
    (parameters preconditions : Dict Scalar) (declared : Option CompensationSpec) :
    Except AdapterError SourceActionPlan := do
  let actionId ← written (← arguments.item "actionId").told
  let idempotencyKey ← written (← arguments.item "idempotencyKey").told
  construct (SourceActionPlan.make actionId tool.sourceId tool.assetId tool.operation parameters
    preconditions idempotencyKey tool.risk tool.approvalMode tool.purpose declared)

/-- The plan of a tool from the arguments of a call. -/
def plan (tool : NorthboundTool) (arguments : Untrusted) : Except AdapterError SourceActionPlan :=
  if ¬ keysSubset arguments ["actionId", "parameters", "preconditions", "idempotencyKey",
      "compensation"] ∨ ¬ ["actionId", "parameters", "preconditions", "idempotencyKey"].all
        fun key => (lookupKey key arguments).isSome then
    .error (.protocolRequestRejected (-32602) "tool arguments are over-broad or incomplete")
  else do
    let parameters ← scalarMapping (← arguments.item "parameters") "parameters"
    let preconditions ← scalarMapping (← arguments.item "preconditions") "preconditions"
    let declared ← compensation (lookupKey "compensation" arguments)
    asRejection (construction tool arguments parameters preconditions declared)

/-- `_tools.get(name)`. -/
def tool? (adapter : NorthboundActionAdapter) (name : String) : Option NorthboundTool :=
  adapter.catalog.tools.find? fun tool => tool.name == name

/-- The tool and the arguments of the params of a call. -/
def call (adapter : NorthboundActionAdapter) (params : Option PyValue)
    (identity : RequestIdentity) : Except AdapterError SourceActionPlan :=
  match params with
  | some (.mapping params _) =>
    if ¬ keysEqual params ["name", "arguments"] then
      .error (.protocolRequestRejected (-32602) "tool call params are not exact")
    else do
      match (← Untrusted.item params "name") with
      | .str name =>
        match adapter.tool? name with
        | none => .error (.protocolRequestRejected (-32602) "tool is unknown")
        | some tool =>
          if identity.agentId ∉ tool.allowedAgents then
            .error (.protocolRequestRejected (-32003) "tool is outside agent scope")
          else match (← Untrusted.item params "arguments") with
            | .mapping arguments _ => plan tool arguments
            | _ => .error (.protocolRequestRejected (-32602) "tool arguments must be an object")
      | _ => .error (.protocolRequestRejected (-32602) "tool is unknown")
  | _ => .error (.protocolRequestRejected (-32602) "tool call params are not exact")

/-- `to_action_plan`. -/
def toActionPlan [Stdlib] (adapter : NorthboundActionAdapter) (request : Untrusted)
    (identity : RequestIdentity) : Except AdapterError SourceActionPlan := do
  validateEnvelope request
  let method ← request.item "method"
  if ¬ method.equals "tools/call" then
    .error (.protocolRequestRejected (-32601) "request is not a tool call")
  else if ¬ (lookupKey "catalogDigest" request).any (·.equals adapter.catalog.digest) then
    .error (.protocolRequestRejected (-32010) "tool catalog digest is stale or mismatched")
  else adapter.call (lookupKey "params" request) identity

/-! ## What reaches a plan -/

/-- A declared compensation carries the operation of the arguments. -/
theorem of_compensation {value : Option PyValue} {declared : Option CompensationSpec}
    (accepted : compensation value = .ok declared) :
    (value.bind (·.get "operation")).map PyValue.text = declared.map (·.operation) := by
  unfold compensation at accepted
  split at accepted
  · obtain rfl := Except.ok.inj accepted
    rfl
  · obtain rfl := Except.ok.inj accepted
    rfl
  · rename_i data text
    split at accepted
    · cases accepted
    obtain ⟨operation, read, accepted⟩ := of_bind_ok accepted
    obtain ⟨own, told, accepted⟩ := of_bind_ok accepted
    iterate 4 obtain ⟨_, -, accepted⟩ := of_bind_ok accepted
    obtain ⟨spec, constructed, accepted⟩ := of_bind_ok accepted
    obtain ⟨_, rfl⟩ := CompensationSpec.of_make (of_construct constructed)
    obtain rfl := Except.ok.inj accepted
    have found : lookupKey "operation" data = some operation := Untrusted.of_item read
    simp [PyValue.get, found, PyValue.text_of_told (written_eq_ok.mp told)]
  · cases accepted

/-- A plan takes from a tool all that a caller does not choose. -/
structure Follows (made : SourceActionPlan) (tool : NorthboundTool) : Prop where
  source : made.sourceId = tool.sourceId
  asset : made.assetId = tool.assetId
  operation : made.operation = tool.operation
  risk : made.risk = tool.risk
  approval : made.approvalMode = tool.approvalMode
  purpose : made.purpose = tool.purpose

/-- A plan follows its tool, and has the compensation of the call. -/
theorem of_plan {tool : NorthboundTool} {arguments : Untrusted} {made : SourceActionPlan}
    (accepted : plan tool arguments = .ok made) :
    Follows made tool ∧
      made.compensation.map (·.operation) =
        ((lookupKey "compensation" arguments).bind (·.get "operation")).map PyValue.text := by
  unfold plan at accepted
  split at accepted
  · cases accepted
  iterate 4 obtain ⟨_, -, accepted⟩ := of_bind_ok accepted
  obtain ⟨declared, described, accepted⟩ := of_bind_ok accepted
  unfold asRejection at accepted
  split at accepted
  · cases accepted
  · cases accepted
  iterate 4 obtain ⟨_, -, accepted⟩ := of_bind_ok accepted
  obtain ⟨_, _, _, rfl⟩ := SourceActionPlan.of_make (of_construct accepted)
  exact ⟨⟨rfl, rfl, rfl, rfl, rfl, rfl⟩, (of_compensation described).symm⟩

/-- The tool a call names. -/
def requestedTool (adapter : NorthboundActionAdapter) (request : Untrusted) :
    Option NorthboundTool :=
  match (lookupKey "params" request).bind (·.get "name") with
  | some (.str name) => adapter.tool? name
  | _ => none

/-- The operation of the compensation a call names. -/
def requestedCompensation (request : Untrusted) : Option String :=
  (((lookupKey "params" request).bind (·.get "arguments")).bind (·.get "compensation")).bind
    (·.get "operation") |>.map PyValue.text

/-- A plan follows the tool of the call, which lists the agent. -/
theorem of_toActionPlan [Stdlib] {adapter : NorthboundActionAdapter} {request : Untrusted}
    {identity : RequestIdentity} {made : SourceActionPlan}
    (accepted : adapter.toActionPlan request identity = .ok made) :
    ∃ tool ∈ adapter.catalog.tools, adapter.requestedTool request = some tool ∧
      identity.agentId ∈ tool.allowedAgents ∧ Follows made tool ∧
      made.compensation.map (·.operation) = requestedCompensation request := by
  obtain ⟨_, -, accepted⟩ := of_bind_ok accepted
  obtain ⟨_, -, accepted⟩ := of_bind_ok accepted
  split at accepted
  · cases accepted
  split at accepted
  · cases accepted
  unfold call at accepted
  split at accepted
  · rename_i params _ given
    split at accepted
    · cases accepted
    obtain ⟨name, named, accepted⟩ := of_bind_ok accepted
    split at accepted
    · rename_i name
      split at accepted
      · cases accepted
      rename_i tool known
      split at accepted
      · cases accepted
      rename_i listed
      obtain ⟨arguments, passed, accepted⟩ := of_bind_ok accepted
      split at accepted
      · rename_i arguments _
        have named := Untrusted.of_item named
        have passed := Untrusted.of_item passed
        obtain ⟨follows, declared⟩ := of_plan accepted
        refine ⟨tool, List.mem_of_find?_eq_some known, ?_, not_not.mp listed, follows, ?_⟩
        · simp [requestedTool, given, PyValue.get, named, known]
        · simp [requestedCompensation, given, PyValue.get, passed, declared]
      · cases accepted
    · cases accepted
  · cases accepted

end NorthboundActionAdapter

namespace A2AActionDelegationAdapter

/-- The source an envelope names. -/
def requestedSource (envelope : Untrusted) : Option String :=
  ((lookupKey "sourceAction" envelope).bind (·.get "sourceId")).map PyValue.text

/-- The operation of the compensation an envelope names. -/
def requestedCompensation (envelope : Untrusted) : Option String :=
  (((lookupKey "sourceAction" envelope).bind (·.get "compensation")).bind
    (·.get "operation")).map PyValue.text

/-- A plan has an exposed source and operation, and the compensation of the envelope. -/
theorem of_toActionPlan {adapter : A2AActionDelegationAdapter} {envelope : Untrusted}
    {identity : RequestIdentity} {made : SourceActionPlan}
    (accepted : adapter.toActionPlan envelope identity = .ok made) :
    (made.sourceId, made.operation) ∈ adapter.allowedOperations ∧
      requestedSource envelope = some made.sourceId ∧
      made.compensation.map (·.operation) = requestedCompensation envelope := by
  obtain ⟨action, checked, accepted⟩ := of_bind_ok accepted
  obtain ⟨value, source, accepted⟩ := of_bind_ok accepted
  obtain ⟨sourceId, told, accepted⟩ := of_bind_ok accepted
  iterate 2 obtain ⟨_, -, accepted⟩ := of_bind_ok accepted
  split at accepted
  · cases accepted
  rename_i exposed
  obtain ⟨other, given, accepted⟩ := of_bind_ok accepted
  obtain ⟨declared, described, accepted⟩ := of_bind_ok accepted
  obtain ⟨same, forward, rfl⟩ := of_plan accepted
  obtain ⟨_, found⟩ := of_sourceAction checked
  have source := Untrusted.of_item source
  have given := Untrusted.of_item given
  rw [same, forward]
  refine ⟨not_not.mp exposed, ?_, ?_⟩
  · simp [requestedSource, found, PyValue.get, source,
      PyValue.text_of_told (written_eq_ok.mp told)]
  · rw [← of_compensation described]
    simp [requestedCompensation, found, PyValue.get, given]

end A2AActionDelegationAdapter

/-! ## The declared surface -/

/-- Every operation of a plan belongs to a surface of sources and operations. -/
def SourceActionPlan.Within (surface : String → String → Prop) (plan : SourceActionPlan) : Prop :=
  surface plan.sourceId plan.operation ∧
    ∀ spec, plan.compensation = some spec → surface plan.sourceId spec.operation

/-- A named operation of a named source belongs to a surface. -/
def Exposed (surface : String → String → Prop) (sourceId operation : Option String) : Prop :=
  ∀ source ∈ sourceId, ∀ name ∈ operation, surface source name

/-- A plan whose own operation belongs to a surface is within it when its compensation is. -/
theorem SourceActionPlan.within_iff {surface : String → String → Prop} {plan : SourceActionPlan}
    {operation : Option String} (forward : surface plan.sourceId plan.operation)
    (declared : plan.compensation.map (·.operation) = operation) :
    plan.Within surface ↔ Exposed surface (some plan.sourceId) operation := by
  subst declared
  simp [Within, Exposed, forward]

/-- What an adapter exposes. -/
def A2AActionDelegationAdapter.surface (adapter : A2AActionDelegationAdapter)
    (sourceId operation : String) : Prop :=
  (sourceId, operation) ∈ adapter.allowedOperations

/-- What the tools of a catalog expose to an agent. -/
def NorthboundToolCatalog.surface (catalog : NorthboundToolCatalog) (agentId : String)
    (sourceId operation : String) : Prop :=
  ∃ tool ∈ catalog.tools,
    tool.sourceId = sourceId ∧ tool.operation = operation ∧ agentId ∈ tool.allowedAgents

/-- An accepted envelope gives a plan within the surface exactly when its compensation is. -/
theorem A2AActionDelegationAdapter.within_iff {adapter : A2AActionDelegationAdapter}
    {envelope : Untrusted} {identity : RequestIdentity} {plan : SourceActionPlan}
    (accepted : adapter.toActionPlan envelope identity = .ok plan) :
    plan.Within adapter.surface ↔
      Exposed adapter.surface (requestedSource envelope) (requestedCompensation envelope) := by
  obtain ⟨exposed, source, declared⟩ := of_toActionPlan accepted
  rw [source]
  exact SourceActionPlan.within_iff exposed declared

/-- An accepted call gives a plan within the surface exactly when its compensation is. -/
theorem NorthboundActionAdapter.within_iff [Stdlib] {adapter : NorthboundActionAdapter}
    {request : Untrusted} {identity : RequestIdentity} {plan : SourceActionPlan}
    (accepted : adapter.toActionPlan request identity = .ok plan) :
    plan.Within (adapter.catalog.surface identity.agentId) ↔
      Exposed (adapter.catalog.surface identity.agentId)
        ((adapter.requestedTool request).map (·.sourceId)) (requestedCompensation request) := by
  obtain ⟨tool, known, requested, listed, follows, declared⟩ := of_toActionPlan accepted
  rw [requested, Option.map_some, ← follows.source]
  exact SourceActionPlan.within_iff
    ⟨tool, known, follows.source.symm, follows.operation.symm, listed⟩ declared

/-- The plan of an accepted request is within the declared surface exactly when the compensation
the caller names is. -/
theorem within_surface_iff [Stdlib] :
    (∀ (adapter : A2AActionDelegationAdapter) envelope identity plan,
      adapter.toActionPlan envelope identity = .ok plan →
        (plan.Within adapter.surface ↔
          Exposed adapter.surface (A2AActionDelegationAdapter.requestedSource envelope)
            (A2AActionDelegationAdapter.requestedCompensation envelope))) ∧
      ∀ (adapter : NorthboundActionAdapter) request identity plan,
        adapter.toActionPlan request identity = .ok plan →
          (plan.Within (adapter.catalog.surface identity.agentId) ↔
            Exposed (adapter.catalog.surface identity.agentId)
              ((adapter.requestedTool request).map (·.sourceId))
              (NorthboundActionAdapter.requestedCompensation request)) := by
  constructor
  · intro _ _ _ _ accepted
    exact A2AActionDelegationAdapter.within_iff accepted
  · intro _ _ _ _ accepted
    exact NorthboundActionAdapter.within_iff accepted

/-! ## A compensation nobody exposed -/

/-- A compensation of one operation, as a caller writes it. -/
def writtenCompensation (operation : String) : PyValue :=
  .mapping [(.str "operation", .str operation),
    (.str "parameters", .mapping [(.str "status", .str "open")] ""),
    (.str "preconditions", .mapping [(.str "version", .int 2)] "")] ""

/-- An adapter that exposes one operation. -/
def A2AActionDelegationAdapter.small : A2AActionDelegationAdapter := ⟨[("erp", "set")]⟩

/-- A delegated action with a compensation. -/
def A2AActionDelegationAdapter.delegated (operation : String) : Untrusted :=
  [(.str "protocol", .str "a2a/1.0"), (.str "taskId", .str "task"),
    (.str "requestingAgent", .str RequestIdentity.small.agentId),
    (.str "sourceAction", .mapping [(.str "actionId", .str "action"), (.str "sourceId", .str "erp"),
      (.str "assetId", .str "order"), (.str "operation", .str "set"),
      (.str "parameters", .mapping [(.str "status", .str "held")] ""),
      (.str "preconditions", .mapping [(.str "version", .int 1)] ""),
      (.str "idempotencyKey", .str "key"), (.str "risk", .str "low"),
      (.str "approvalMode", .str "none"), (.str "purpose", .str "hold"),
      (.str "compensation", writtenCompensation operation)] "")]

/-- A catalog of one tool. -/
def NorthboundToolCatalog.small : NorthboundToolCatalog where
  tools := [⟨"hold", "Hold an order", "erp", "order", "set", .low, .none, "hold",
    [RequestIdentity.small.agentId], by simp, by decide, by simp⟩]
  stocked := by simp
  named := by simp

/-- A call of its tool with a compensation, under the digest of a catalog. -/
def NorthboundActionAdapter.calledUnder [Stdlib] (catalog : NorthboundToolCatalog)
    (operation : String) : Untrusted :=
  [(.str "jsonrpc", .str "2.0"), (.str "id", .str "call"), (.str "method", .str "tools/call"),
    (.str "protocolVersion", .str protocolVersion), (.str "catalogDigest", .str catalog.digest),
    (.str "params", .mapping [(.str "name", .str "hold"),
      (.str "arguments", .mapping [(.str "actionId", .str "action"),
        (.str "parameters", .mapping [(.str "status", .str "held")] ""),
        (.str "preconditions", .mapping [(.str "version", .int 1)] ""),
        (.str "idempotencyKey", .str "key"),
        (.str "compensation", writtenCompensation operation)] "")] "")]

/-- A call under the digest of the small catalog. -/
def NorthboundActionAdapter.called [Stdlib] (operation : String) : Untrusted :=
  calledUnder .small operation

/-- The delegated action is accepted, whatever operation compensates it. -/
theorem A2AActionDelegationAdapter.accepts :
    ∃ plan, small.toActionPlan (delegated "purge") .small = .ok plan :=
  exists_ok (by decide +kernel)

/-- So is the tool call. -/
theorem NorthboundActionAdapter.accepts :
    letI := Stdlib.transparent
    ∃ plan, toActionPlan ⟨.small⟩ (called "purge") .small = .ok plan :=
  let := Stdlib.transparent
  exists_ok (by decide +kernel)

/-- Of both adapters the result holds of plans they return. -/
theorem within_surface_of_purge :
    letI := Stdlib.transparent
    (∃ plan, A2AActionDelegationAdapter.small.toActionPlan
        (A2AActionDelegationAdapter.delegated "purge") .small = .ok plan ∧
      (plan.Within A2AActionDelegationAdapter.small.surface ↔
        Exposed A2AActionDelegationAdapter.small.surface (some "erp") (some "purge"))) ∧
    ∃ plan, NorthboundActionAdapter.toActionPlan ⟨.small⟩ (NorthboundActionAdapter.called "purge")
        .small = .ok plan ∧
      (plan.Within (NorthboundToolCatalog.small.surface RequestIdentity.small.agentId) ↔
        Exposed (NorthboundToolCatalog.small.surface RequestIdentity.small.agentId) (some "erp")
          (some "purge")) := by
  let := Stdlib.transparent
  obtain ⟨delegated, accepted⟩ := A2AActionDelegationAdapter.accepts
  obtain ⟨called, answered⟩ := NorthboundActionAdapter.accepts
  exact ⟨⟨delegated, accepted, within_surface_iff.1 _ _ _ _ accepted⟩,
    called, answered, within_surface_iff.2 _ _ _ _ answered⟩

/-- A plan of either adapter carries a compensating operation that nobody exposed. -/
theorem purge_unexposed :
    letI := Stdlib.transparent
    (∃ plan, A2AActionDelegationAdapter.small.toActionPlan
        (A2AActionDelegationAdapter.delegated "purge") .small = .ok plan ∧
      ¬ plan.Within A2AActionDelegationAdapter.small.surface) ∧
    ∃ plan, NorthboundActionAdapter.toActionPlan ⟨.small⟩ (NorthboundActionAdapter.called "purge")
        .small = .ok plan ∧
      ¬ plan.Within (NorthboundToolCatalog.small.surface RequestIdentity.small.agentId) := by
  let := Stdlib.transparent
  obtain ⟨delegated, accepted⟩ := A2AActionDelegationAdapter.accepts
  obtain ⟨called, answered⟩ := NorthboundActionAdapter.accepts
  refine ⟨⟨delegated, accepted, fun within => ?_⟩, called, answered, fun within => ?_⟩
  · have exposed := (A2AActionDelegationAdapter.within_iff accepted).mp within
      "erp" (by decide +kernel) "purge" (by decide +kernel)
    simp [A2AActionDelegationAdapter.surface, A2AActionDelegationAdapter.small] at exposed
  · have exposed := (NorthboundActionAdapter.within_iff answered).mp within
      "erp" (by decide +kernel) "purge" (by decide +kernel)
    simp [NorthboundToolCatalog.surface, NorthboundToolCatalog.small] at exposed

end DataHarness
