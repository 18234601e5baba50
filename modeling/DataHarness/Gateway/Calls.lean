import DataHarness.Durability.Journal
import DataHarness.Library.EventLoop

/-!
# What a gateway calls on

Every call a source-action gateway makes to what surrounds it: the clock, the approval
verifier, the policy, telemetry, the registry, the connector, its audit ledger, its table of
idempotency keys and the journal. Calls on the last three act on the state of the gateways
(`perform`); the others are answered by the outside world. Dispatching a connector call and
awaiting its result are two calls, so a task can stop in between.
-/

namespace DataHarness

open Effect

/-- The request dictionary of `connector.mutate`. -/
structure MutationRequest where
  actionId : String
  assetId : String
  operation : String
  parameters : Dict Scalar
  preconditions : Dict Scalar
  idempotencyKey : String

/-- The request dictionary of `connector.reconcile`. -/
structure ReconcileRequest where
  actionId : String
  idempotencyKey : String
  actionDigest : String

/-- A coroutine of the connector registered for a source. -/
inductive ConnectorCall
  | mutate (sourceId : String) (request : MutationRequest)
  | reconcile (sourceId : String) (request : ReconcileRequest)

/-- What a gateway asks of a connector it got from the registry. -/
structure ConnectorHandle where
  /-- `profile.consistency.supports_idempotency_key`. -/
  supportsIdempotencyKey : Bool
  /-- `getattr(connector, "reconcile", None)` is not `None`. -/
  hasReconcile : Bool

/-- `TelemetryEvent`, the time it is stamped with left out. The names and attributes a gateway
uses are all ones the constructor accepts. -/
structure TelemetryEvent where
  name : String
  identity : RequestIdentity
  attributes : List (String × Json.Value)

/-- The calls of a gateway. -/
inductive GatewayOp
  /-- `self.now()`. -/
  | now
  /-- `approval_verifier.verify`; the reply is also false without a verifier. -/
  | verifyApproval (approval : ActionApproval) (action : SourceActionPlan)
    (identity : RequestIdentity) (now : DateTime) (compensation : Bool)
  /-- `await policy.evaluate(request)`. -/
  | evaluate (request : AuthorizationRequest)
  /-- `await telemetry.emit(event)`. -/
  | emit (event : TelemetryEvent)
  /-- `registry.get(source_id, Capability.MUTATE)`. -/
  | connector (sourceId : String)
  /-- Calling a coroutine of the connector, which starts it. -/
  | invoke (call : ConnectorCall)
  /-- Awaiting its result. -/
  | await (call : ConnectorCall)
  /-- `after_mutation(action, result)`, when there is one. -/
  | afterMutation (action : SourceActionPlan) (result : PyValue)
  /-- `audit.append`. -/
  | audit (eventType actionId : String) (occurredAt : DateTime)
    (attributes : List (String × Json.Value))
  /-- `len(audit.entries)`. -/
  | auditLength
  /-- `_idempotency.get(key)`. -/
  | lookup (binding : Binding)
  /-- `_idempotency[key] = (digest, receipt)`. -/
  | remember (binding : Binding) (digest : String) (receipt : Receipt)
  /-- A write transaction of the journal. -/
  | journal (tx : JournalTx)
  /-- `journal.get`. -/
  | get (binding : Binding)

/-- The reply to each call; those that may raise reply with an exception. -/
def GatewayOp.Reply : GatewayOp → Type
  | .now => DateTime
  | .verifyApproval _ _ _ _ _ => Except ActionError Bool
  | .evaluate _ => Except ActionError PolicyDecision
  | .emit _ => Except ActionError Unit
  | .connector _ => Except ActionError ConnectorHandle
  | .invoke _ => Unit
  | .await _ => Except ActionError PyValue
  | .afterMutation _ _ => Except ActionError Unit
  | .audit _ _ _ _ => Except ActionError AuditEntry
  | .auditLength => Nat
  | .lookup _ => Option (String × Receipt)
  | .remember _ _ _ => Unit
  | .journal _ => Except ActionError (Option DurableActionRecord)
  | .get _ => Except ActionError (Option DurableActionRecord)

/-- The calls of a gateway with their replies. -/
abbrev gatewaySignature : Signature := ⟨GatewayOp, GatewayOp.Reply⟩

/-- A coroutine of a gateway. -/
abbrev GatewayProgram (α : Type) : Type := Program gatewaySignature ActionError α

/-- The calls a coroutine awaits. -/
def GatewayOp.suspends : GatewayOp → Bool
  | .evaluate _ => true
  | .emit _ => true
  | .await _ => true
  | _ => false

/-- The call is `connector.mutate`. -/
def GatewayOp.dispatches : GatewayOp → Bool
  | .invoke (.mutate _ _) => true
  | _ => false

/-- The call is a write transaction of the journal. -/
def GatewayOp.writes : GatewayOp → Bool
  | .journal _ => true
  | _ => false

/-- The call neither dispatches a mutation nor writes to the journal. -/
def GatewayOp.Quiet (op : GatewayOp) : Prop := op.dispatches = false ∧ op.writes = false

/-- The call leaves the connector, the table of idempotency keys and the journal alone. -/
def GatewayOp.plain : GatewayOp → Bool
  | .now => true
  | .verifyApproval _ _ _ _ _ => true
  | .evaluate _ => true
  | .emit _ => true
  | .connector _ => true
  | .audit _ _ _ _ => true
  | .auditLength => true
  | _ => false

/-- A plain call is quiet. -/
theorem GatewayOp.quiet_of_plain {op : GatewayOp} (plain : op.plain = true) : op.Quiet := by
  cases op with
  | invoke => cases plain
  | journal => cases plain
  | _ => exact ⟨rfl, rfl⟩

/-! ## The state the calls act on -/

/-- What one gateway object keeps in memory. -/
structure GatewayState where
  audit : ActionAuditLedger
  /-- `_idempotency`, the newest binding first. -/
  idempotency : List (Binding × String × Receipt)

/-- A gateway object just created. -/
def GatewayState.fresh : GatewayState := ⟨⟨[]⟩, []⟩

/-- The journal file and the gateway objects by number. -/
structure Shared where
  journal : Journal
  gateways : Nat → GatewayState

/-- An empty journal and no gateway used yet. -/
def Shared.initial : Shared := ⟨.empty, fun _ => .fresh⟩

/-- The journal survives a crash, the gateway objects do not. -/
def Shared.reopen (shared : Shared) : Shared := ⟨shared.journal, fun _ => .fresh⟩

/-- Change what one gateway keeps. -/
def Shared.set (shared : Shared) (gateway : Nat) (state : GatewayState) : Shared :=
  { shared with gateways := fun other => if other = gateway then state else shared.gateways other }

variable [Stdlib]

/-- The reply to a call of one gateway and the state after it. -/
def perform (key : IntegrityKey) (gateway : Nat) (world : World gatewaySignature) (shared : Shared) :
    (op : GatewayOp) → op.Reply × Shared
  | .audit eventType actionId occurredAt attributes =>
    match (shared.gateways gateway).audit.append eventType actionId occurredAt attributes with
    | .ok (entry, ledger) =>
      (.ok entry, shared.set gateway { shared.gateways gateway with audit := ledger })
    | .error error => (.error error, shared)
  | .auditLength => ((shared.gateways gateway).audit.entries.length, shared)
  | .lookup binding => ((shared.gateways gateway).idempotency.lookup binding, shared)
  | .remember binding digest receipt =>
    ((), shared.set gateway { shared.gateways gateway with
      idempotency := (binding, digest, receipt) :: (shared.gateways gateway).idempotency })
  | .journal tx =>
    (shared.journal.reply key tx, { shared with journal := shared.journal.commit key tx })
  | .get binding => (shared.journal.get binding, shared)
  | .now => (world .now, shared)
  | .verifyApproval approval action identity now compensation =>
    (world (.verifyApproval approval action identity now compensation), shared)
  | .evaluate request => (world (.evaluate request), shared)
  | .emit event => (world (.emit event), shared)
  | .connector sourceId => (world (.connector sourceId), shared)
  | .invoke call => (world (.invoke call), shared)
  | .await call => (world (.await call), shared)
  | .afterMutation action result => (world (.afterMutation action result), shared)

/-- Only a write transaction changes the journal. -/
theorem perform_journal (key : IntegrityKey) (gateway : Nat) (world : World gatewaySignature)
    (shared : Shared) (op : GatewayOp) :
    (perform key gateway world shared op).2.journal =
      match op with
      | .journal tx => shared.journal.commit key tx
      | _ => shared.journal := by
  cases op with
  | audit eventType actionId occurredAt attributes =>
    simp only [perform]
    split <;> rfl
  | _ => rfl

end DataHarness
