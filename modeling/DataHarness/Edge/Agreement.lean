import DataHarness.Edge.SendMessage

/-!
# Two edges for one payload

A payload can come as a tool call or as a delegated action of the same tool. Both edges make the
same plan of it; they differ in one check only, as the delegation edge refuses floats that are not
finite. So they agree on the payloads that the tool call would be refused for anyway, and on those
whose floats are finite.
-/

namespace DataHarness

namespace ActionPayload

/-! ## One payload at both edges -/

/-- A request calls a tool of the caller with the payload, under the digest of the catalog. -/
structure Requested [Stdlib] (payload : ActionPayload) (adapter : NorthboundActionAdapter)
    (tool : NorthboundTool) (identity : RequestIdentity) (request : Untrusted) : Prop where
  valid : NorthboundActionAdapter.validateEnvelope request = .ok ()
  method : (lookupKey "method" request).any (·.equals "tools/call") = true
  digest : (lookupKey "catalogDigest" request).any (·.equals adapter.catalog.digest) = true
  calls : ∃ arguments, adapter.Calls (lookupKey "params" request) identity tool arguments ∧
    NorthboundActionAdapter.Holds arguments payload

/-- An envelope delegates the payload with the fields of the tool, for an exposed operation. -/
structure Delegated (payload : ActionPayload) (adapter : A2AActionDelegationAdapter)
    (tool : NorthboundTool) (identity : RequestIdentity) (envelope : Untrusted) : Prop where
  exposed : (tool.sourceId, tool.operation) ∈ adapter.allowedOperations
  action : ∃ action, A2AActionDelegationAdapter.Delegates envelope identity action ∧
    A2AActionDelegationAdapter.Copies action tool payload

variable {payload : ActionPayload} {tool : NorthboundTool} {identity : RequestIdentity}
  {request envelope : Untrusted}

/-- A tool call is the plan of its payload. -/
theorem Requested.plan_iff [Stdlib] {adapter : NorthboundActionAdapter}
    (requested : payload.Requested adapter tool identity request) {plan : SourceActionPlan} :
    adapter.toActionPlan request identity = .ok plan ↔ payload.Gives tool plan := by
  obtain ⟨arguments, calls, holds⟩ := requested.calls
  rw [NorthboundActionAdapter.toActionPlan_eq_ok]
  constructor
  · rintro ⟨_, _, _, other, others, called, accepted⟩
    obtain ⟨rfl, rfl⟩ := calls.unique called
    obtain ⟨own, held, gives⟩ := NorthboundActionAdapter.plan_eq_ok.mp accepted
    rw [holds.unique held]
    exact gives
  · intro gives
    exact ⟨requested.valid, requested.method, requested.digest, tool, arguments, calls,
      NorthboundActionAdapter.plan_eq_ok.mpr ⟨payload, holds, gives⟩⟩

/-- A delegated action is the plan of its payload, if that has finite floats only. -/
theorem Delegated.plan_iff {adapter : A2AActionDelegationAdapter}
    (delegated : payload.Delegated adapter tool identity envelope) {plan : SourceActionPlan} :
    adapter.toActionPlan envelope identity = .ok plan ↔
      payload.Gives tool plan ∧ payload.Finite := by
  obtain ⟨action, delegates, copies⟩ := delegated.action
  exact A2AActionDelegationAdapter.toActionPlan_eq_ok delegates copies delegated.exposed

end ActionPayload

namespace ActionPayload

/-- The tool that holds an order. -/
def hold : NorthboundTool :=
  NorthboundToolCatalog.small.tools.head NorthboundToolCatalog.small.stocked

/-- A payload without a compensation that sets one parameter. -/
def scored (score : Json.FloatText) : ActionPayload where
  actionId := .str "action"
  idempotencyKey := .str "key"
  parameters := .mapping [(.str "score", .float score)] ""
  preconditions := .mapping [(.str "version", .int 1)] ""
  compensation := none

/-- The payload as the arguments of a call. -/
def arguments (payload : ActionPayload) : Untrusted :=
  [(.str "actionId", payload.actionId), (.str "parameters", payload.parameters),
    (.str "preconditions", payload.preconditions),
    (.str "idempotencyKey", payload.idempotencyKey)] ++
    (payload.compensation.map fun value => (PyKey.str "compensation", value)).toList

/-- A call of the tool with the payload. -/
def request [Stdlib] (payload : ActionPayload) : Untrusted :=
  [(.str "jsonrpc", .str "2.0"), (.str "id", .str "call"), (.str "method", .str "tools/call"),
    (.str "protocolVersion", .str protocolVersion),
    (.str "catalogDigest", .str NorthboundToolCatalog.small.digest),
    (.str "params", .mapping [(.str "name", .str "hold"),
      (.str "arguments", .mapping payload.arguments "")] "")]

/-- The payload as a source action with the fields of the tool. -/
def action (payload : ActionPayload) : Untrusted :=
  [(.str "actionId", payload.actionId), (.str "sourceId", .str "erp"),
    (.str "assetId", .str "order"), (.str "operation", .str "set"),
    (.str "parameters", payload.parameters), (.str "preconditions", payload.preconditions),
    (.str "idempotencyKey", payload.idempotencyKey), (.str "risk", .str "low"),
    (.str "approvalMode", .str "none"), (.str "purpose", .str "hold"),
    (.str "compensation", payload.compensation.getD .none)]

/-- The delegation of the source action. -/
def envelope (payload : ActionPayload) : Untrusted :=
  [(.str "protocol", .str "a2a/1.0"), (.str "taskId", .str "task"),
    (.str "requestingAgent", .str RequestIdentity.small.agentId),
    (.str "sourceAction", .mapping payload.action "")]

/-- The call has the payload. -/
theorem requested_request [Stdlib] (payload : ActionPayload) :
    payload.Requested ⟨.small⟩ hold .small payload.request where
  valid := rfl
  method := rfl
  digest := by
    show (some (PyValue.str NorthboundToolCatalog.small.digest)).any
      (·.equals NorthboundToolCatalog.small.digest) = true
    simp [PyValue.equals]
  calls := by
    refine ⟨payload.arguments, ⟨⟨_, _, _, rfl, rfl, rfl, rfl⟩, rfl, by decide⟩, ?_⟩
    obtain ⟨actionId, idempotencyKey, parameters, preconditions, compensation⟩ := payload
    cases compensation with
    | none => exact ⟨rfl, rfl, rfl, rfl, rfl, rfl⟩
    | some value => exact ⟨rfl, rfl, rfl, rfl, rfl, rfl⟩

/-- A finite float. -/
def half : Json.FloatText :=
  ⟨"0.5", List.all_eq_true.mp (by decide), ⟨'.', by decide, by decide⟩,
    (Option.all_eq_true _ _).mp (by decide)⟩

/-- The float that is no number. -/
def nan : Json.FloatText :=
  ⟨"NaN", List.all_eq_true.mp (by decide), ⟨'N', by decide, by decide⟩,
    (Option.all_eq_true _ _).mp (by decide)⟩

end ActionPayload

end DataHarness
