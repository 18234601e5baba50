import DataHarness.Gateway.Sequence
import DataHarness.Library.Relational

/-!
# Surroundings that answer

What is outside a gateway, with a state of its own: it answers every call that leaves the gateway and
may change with it. In given surroundings a call of a gateway runs in one way, so runs of two gateways
can be compared.
-/

namespace DataHarness

open Effect

/-- What surrounds a gateway. -/
structure Surroundings (σ : Type) where
  /-- The reply to a call, and the state after it. -/
  respond : σ → (op : GatewayOp) → op.Reply × σ

/-- Surroundings that answer always alike. -/
def Surroundings.fixed (world : World gatewaySignature) : Surroundings Unit where
  respond state op := (world op, state)

/-- The calls a gateway answers itself, from its ledger, its table or its journal. -/
def GatewayOp.internal : GatewayOp → Bool
  | .audit _ _ _ _ => true
  | .auditLength => true
  | .lookup _ => true
  | .remember _ _ _ => true
  | .journal _ => true
  | .get _ => true
  | _ => false

/-- The mutation a call requests of a source. -/
def mutationsOf : gatewaySignature.Event → List (String × MutationRequest)
  | ⟨.invoke (.mutate sourceId request), _⟩ => [(sourceId, request)]
  | _ => []

namespace Surroundings

variable {σ : Type}

variable [Stdlib] (surroundings : Surroundings σ) (key : IntegrityKey) (gateway : Nat)

/-- A call of a gateway, beside the state of its surroundings. -/
def act (state : Shared × σ) (op : GatewayOp) :
    gatewaySignature.Event × op.Reply × Shared × σ :=
  let answer := DataHarness.perform key gateway (fun op => (surroundings.respond state.2 op).1)
    state.1 op
  (⟨op, answer.1⟩, answer.1, answer.2,
    if op.internal then state.2 else (surroundings.respond state.2 op).2)

/-- The ledger of a gateway takes an entry at a time that tells its zone. -/
theorem act_audit {time : DateTime} (aware : time.aware = true) (eventType actionId : String)
    (attributes : List (String × Json.Value)) (state : Shared × σ) :
    ∃ entry ledger, (state.1.gateways gateway).audit.append eventType actionId time attributes =
        .ok (entry, ledger) ∧
      surroundings.act key gateway state (.audit eventType actionId time attributes) =
        (⟨.audit eventType actionId time attributes, (.ok entry : Except ActionError AuditEntry)⟩,
          (.ok entry : Except ActionError AuditEntry),
          state.1.set gateway { state.1.gateways gateway with audit := ledger }, state.2) := by
  obtain ⟨entry, ledger, appended⟩ := ActionAuditLedger.append_of_aware
    (state.1.gateways gateway).audit eventType actionId aware attributes
  refine ⟨entry, ledger, appended, ?_⟩
  simp only [act, DataHarness.perform, appended]
  rfl

/-- A call of a gateway method as an activity, and the states after it. -/
def perform (kind : GatewayKind) (call : GatewayCall) (state : Shared × σ) :
    Activity × Shared × σ :=
  let ran := (call.program kind).evaluate (surroundings.act key gateway) state
  (⟨call, ran.1, ran.2.1⟩, ran.2.2)

/-- In surroundings that answer, a call is an activity of the gateway. -/
theorem perform_performed (kind : GatewayKind) (call : GatewayCall) (state : Shared × σ) :
    (surroundings.perform key gateway kind call state).1.Performed key kind gateway state.1
      (surroundings.perform key gateway kind call state).2.1 := by
  have sound : ∀ state op, (((gateways key fun _ => kind).alone ⟨gateway, call⟩).beside σ).acts
      state op (surroundings.act key gateway state op).1
      (surroundings.act key gateway state op).2.1 (surroundings.act key gateway state op).2.2 :=
    fun state op => ⟨rfl, fun op => (surroundings.respond state.2 op).1, rfl⟩
  exact (Runs.of_evaluate _ sound (call.program kind) state).of_beside

end Surroundings

end DataHarness
