import DataHarness.Gateway.Programs
import DataHarness.Durability.Soundness

/-!
# The calls each coroutine makes

Most steps of a gateway neither dispatch a mutation nor write to the journal; one lemma a
step says so. The writes of a call are all about its own plan, with receipts made for it
(`program_makes`).
-/

namespace DataHarness

open Effect Program

namespace ActionGateway

variable {allowed : GatewayOp → Prop}

/-- A call is the program that makes it. -/
theorem makes_ask {op : GatewayOp} (permitted : allowed op) : (ask op).Makes allowed :=
  ⟨permitted, fun _ => trivial⟩

section Plain

variable (plain : ∀ op : GatewayOp, op.plain = true → allowed op)

include plain

/-- Reading the clock is quiet. -/
theorem now_makes : now.Makes allowed := makes_ask (plain _ rfl)

/-- Appending to the audit ledger is quiet. -/
theorem append_makes (eventType actionId : String) (occurredAt : DateTime)
    (attributes : List (String × Json.Value)) :
    (append eventType actionId occurredAt attributes).Makes allowed :=
  Makes.bind (makes_ask (plain _ rfl)) fun _ => makes_ofExcept _

/-- Looking up a connector is quiet. -/
theorem connector_makes (sourceId : String) : (connector sourceId).Makes allowed :=
  Makes.bind (makes_ask (plain _ rfl)) fun _ => makes_ofExcept _

/-- Telemetry is quiet, also when it fails. -/
theorem emitEvent_makes (event : TelemetryEvent) (actionId : String) :
    (emitEvent event actionId).Makes allowed := by
  refine Makes.bind (Makes.attempt ?_) fun outcome => ?_
  · exact Makes.bind (makes_ask (plain _ rfl)) fun _ => makes_ofExcept _
  · cases outcome with
    | ok value => trivial
    | error error =>
      exact Makes.bind (now_makes plain) fun _ =>
        Makes.bind (append_makes plain _ _ _ _) fun _ => trivial

/-- Telemetry about an action is quiet. -/
theorem emit_makes (stage : String) (action : SourceActionPlan) (identity : RequestIdentity)
    (attributes : List (String × Json.Value)) :
    (emit stage action identity attributes).Makes allowed := emitEvent_makes plain _ _

/-- Checking an approval is quiet. -/
theorem validateApproval_makes (action : SourceActionPlan) (approval : Option ActionApproval)
    (identity : RequestIdentity) (now : DateTime) (compensation : Bool) :
    (validateApproval action approval identity now compensation).Makes allowed := by
  simp only [validateApproval]
  split
  · trivial
  · split
    · trivial
    · refine Makes.bind (makes_ask (plain _ rfl)) fun _ => ?_
      refine Makes.bind (makes_ofExcept _) fun valid => ?_
      split <;> trivial

/-- A replay is quiet. -/
theorem replay_makes (action : SourceActionPlan) (identity : RequestIdentity)
    (started : DateTime) (receipt : StoredReceipt) :
    (replay action identity started receipt).Makes allowed :=
  Makes.bind (append_makes plain ..) fun _ => Makes.bind (emit_makes plain ..) fun _ => trivial

variable [Stdlib]

/-- Asking the policy is quiet. -/
theorem authorize_makes (action : SourceActionPlan) (identity : RequestIdentity)
    (stage : String) : (authorize action identity stage).Makes allowed :=
  Makes.bind (makes_ofExcept _) fun _ => Makes.bind (makes_ask (plain _ rfl)) fun _ =>
    Makes.bind (makes_ofExcept _) fun _ =>
      Makes.bind (emitEvent_makes plain _ _) fun _ => trivial

/-- The gates of `execute` are quiet. -/
theorem passGates_makes (action : SourceActionPlan) (preview : ActionPreview)
    (identity : RequestIdentity) (approval : Option ActionApproval) :
    (passGates action preview identity approval).Makes allowed := by
  refine Makes.bind (now_makes plain) fun _ => Makes.bind (makes_ofExcept _) fun _ =>
    Makes.bind (validateApproval_makes plain ..) fun _ =>
      Makes.bind (authorize_makes plain ..) fun decision => ?_
  split <;> trivial

/-- A preview is quiet. -/
theorem preview_makes (action : SourceActionPlan) (identity : RequestIdentity) (ttl : Int) :
    (preview action identity ttl).Makes allowed := by
  refine Makes.bind (connector_makes plain _) fun handle => ?_
  split
  · exact Makes.bind (authorize_makes plain ..) fun _ => Makes.bind (now_makes plain) fun _ =>
      Makes.bind (makes_ofExcept _) fun _ => Makes.bind (append_makes plain ..) fun _ =>
        Makes.bind (emit_makes plain ..) fun _ => trivial
  · trivial

/-- What `ActionGateway` does once the connector has raised is quiet. -/
theorem connectorFailed_makes (action : SourceActionPlan) (identity : RequestIdentity)
    (decision : PolicyDecision) (started : DateTime) :
    (connectorFailed action identity decision started).Makes allowed :=
  Makes.bind (now_makes plain) fun _ => Makes.bind (append_makes plain ..) fun _ =>
    Makes.bind (makes_ask (plain _ rfl)) fun _ =>
      Makes.bind (emit_makes plain ..) fun _ => trivial

end Plain

/-- What allows every quiet call allows every plain one. -/
theorem plain_of_quiet (quiet : ∀ op : GatewayOp, op.Quiet → allowed op) (op : GatewayOp)
    (plain : op.plain = true) : allowed op := quiet op (GatewayOp.quiet_of_plain plain)

variable (quiet : ∀ op : GatewayOp, op.Quiet → allowed op)

include quiet

/-- `mutate` calls the connector for its own plan. -/
theorem mutate_makes (action : SourceActionPlan)
    (own : allowed (.invoke (.mutate action.sourceId (mutationRequest action)))) :
    (mutate action).Makes allowed := by
  refine Makes.bind (Makes.bind (makes_ask own) fun _ =>
    Makes.bind (makes_ask (quiet _ ⟨rfl, rfl⟩)) fun _ => makes_ofExcept _) fun result => ?_
  split <;> trivial

variable [Stdlib]

/-- What `ActionGateway` does once the connector has answered is quiet. -/
theorem connectorAnswered_makes (action : SourceActionPlan) (identity : RequestIdentity)
    (decision : PolicyDecision) (started : DateTime) (result : PyValue) :
    (connectorAnswered action identity decision started result).Makes allowed := by
  refine Makes.bind (now_makes (plain_of_quiet quiet)) fun _ =>
    Makes.bind (makes_ofExcept _) fun _ => Makes.bind (append_makes (plain_of_quiet quiet) ..) fun _ =>
      Makes.bind (makes_ask (quiet _ ⟨rfl, rfl⟩)) fun _ => ?_
  split
  · exact Makes.bind (makes_ask (quiet _ ⟨rfl, rfl⟩)) fun _ =>
      Makes.bind (emit_makes (plain_of_quiet quiet) ..) fun _ => trivial
  · exact Makes.bind (emit_makes (plain_of_quiet quiet) ..) fun _ => trivial

/-- `ActionGateway.dispatch` dispatches its own plan and is quiet otherwise. -/
theorem dispatch_makes (action : SourceActionPlan) (identity : RequestIdentity)
    (decision : PolicyDecision) (started : DateTime)
    (own : allowed (.invoke (.mutate action.sourceId (mutationRequest action)))) :
    (dispatch action identity decision started).Makes allowed := by
  refine Makes.bind (connector_makes (plain_of_quiet quiet) _) fun _ =>
    Makes.bind (Makes.attempt (mutate_makes quiet action own)) fun outcome => ?_
  cases outcome with
  | error error => exact connectorFailed_makes (plain_of_quiet quiet) ..
  | ok result => exact connectorAnswered_makes quiet ..

/-- `ActionGateway.execute` dispatches its own plan after its checks and is quiet otherwise. -/
theorem executeChecked_makes (action : SourceActionPlan) (identity : RequestIdentity)
    (decision : PolicyDecision) (started : DateTime)
    (own : allowed (.invoke (.mutate action.sourceId (mutationRequest action)))) :
    (executeChecked action identity decision started).Makes allowed := by
  refine Makes.bind (makes_ask (quiet _ ⟨rfl, rfl⟩)) fun existing => ?_
  match existing with
  | none => exact dispatch_makes quiet action identity decision started own
  | some (digest, receipt) =>
    simp only
    split
    · trivial
    · exact replay_makes (plain_of_quiet quiet) ..

end ActionGateway

namespace DurableActionGateway

open ActionGateway

variable {allowed : GatewayOp → Prop} (quiet : ∀ op : GatewayOp, op.Quiet → allowed op)

include quiet

/-- A transaction of the journal, and a read. -/
theorem transaction_makes {tx : JournalTx} (own : allowed (.journal tx)) :
    (transaction tx).Makes allowed := by
  refine Makes.bind (makes_ask own) fun _ => Makes.bind (makes_ofExcept _) fun reply => ?_
  cases reply with
  | some record => trivial
  | none =>
    refine Makes.bind (makes_ask (quiet _ ⟨rfl, rfl⟩)) fun _ =>
      Makes.bind (makes_ofExcept _) fun updated => ?_
    cases updated <;> trivial

/-- The `try` block of `execute`. -/
theorem mutateThen_makes (action : SourceActionPlan)
    (own : allowed (.invoke (.mutate action.sourceId (mutationRequest action)))) :
    (mutateThen action).Makes allowed :=
  Makes.bind (mutate_makes quiet action own) fun _ =>
    Makes.bind (makes_ask (quiet _ ⟨rfl, rfl⟩)) fun _ => Makes.bind (makes_ofExcept _) fun _ =>
      trivial

variable [Stdlib] {action : SourceActionPlan}
  (closes : ∀ tx : JournalTx, tx.action = action → tx.Bound →
    (Journal.outcome? tx).isSome = true → allowed (.journal tx))

include closes

/-- An unknown outcome is recorded for the plan. -/
theorem outcomeUnknown_makes (identity : RequestIdentity) :
    (outcomeUnknown action identity).Makes allowed :=
  Makes.bind (now_makes (plain_of_quiet quiet)) fun _ =>
    Makes.bind (transaction_makes quiet (closes _ rfl (by rintro _ ⟨⟩) rfl)) fun _ =>
      Makes.bind (emit_makes (plain_of_quiet quiet) ..) fun _ => trivial

/-- An answer of the connector is recorded for the plan. -/
theorem connectorAnswered_makes (identity : RequestIdentity) (decision : PolicyDecision)
    (started : DateTime) (result : PyValue) :
    (connectorAnswered action identity decision started result).Makes allowed := by
  refine Makes.bind (now_makes (plain_of_quiet quiet)) fun completed =>
    Makes.bind (makes_ofExcept _) fun version =>
      Makes.bind (append_makes (plain_of_quiet quiet) ..) fun audit =>
        Makes.bind (makes_ask (quiet _ ⟨rfl, rfl⟩)) fun count => ?_
  split
  · refine Makes.bind (transaction_makes quiet (closes _ rfl ?_ rfl)) fun _ =>
      Makes.bind (emit_makes (plain_of_quiet quiet) ..) fun _ => trivial
    rintro _ ⟨⟩
    exact ⟨rfl, rfl, rfl⟩
  · refine Makes.bind (transaction_makes quiet (closes _ rfl ?_ rfl)) fun _ =>
      Makes.bind (emit_makes (plain_of_quiet quiet) ..) fun _ => trivial
    rintro _ ⟨⟩
    exact ⟨rfl, rfl, rfl⟩

/-- What follows an attempted mutation is recorded for the plan. -/
theorem afterMutation_makes (identity : RequestIdentity) (decision : PolicyDecision)
    (started : DateTime) (outcome : Except ActionError PyValue) :
    Program.Makes allowed (match outcome with
      | .error _ => outcomeUnknown action identity
      | .ok result => connectorAnswered action identity decision started result) := by
  cases outcome with
  | error error => exact outcomeUnknown_makes quiet closes identity
  | ok result => exact connectorAnswered_makes quiet closes identity decision started result

/-- The end of `reconcile` records for the plan. -/
theorem reconciled_makes (identity : RequestIdentity) (decision : PolicyDecision)
    (startedAt : DateTime) (result : PyValue) :
    (reconciled action identity decision startedAt result).Makes allowed := by
  simp only [reconciled]
  split
  · refine Makes.bind (now_makes (plain_of_quiet quiet)) fun _ =>
      Makes.bind (makes_ofExcept _) fun _ =>
        Makes.bind (append_makes (plain_of_quiet quiet) ..) fun _ =>
        Makes.bind (transaction_makes quiet (closes _ rfl ?_ rfl)) fun _ =>
        Makes.bind (emit_makes (plain_of_quiet quiet) ..) fun _ => trivial
    rintro _ ⟨⟩
    exact ⟨rfl, rfl, rfl⟩
  · exact Makes.bind (now_makes (plain_of_quiet quiet)) fun _ =>
      Makes.bind (transaction_makes quiet (closes _ rfl (by rintro _ ⟨⟩) rfl)) fun _ => trivial

/-- `reconcile` dispatches nothing and records for its plan. -/
theorem reconcile_makes (identity : RequestIdentity) :
    (reconcile action identity).Makes allowed := by
  have asks : ∀ decision startedAt,
      (askSource action identity decision startedAt).Makes allowed := by
    intro decision startedAt
    refine Makes.bind (connector_makes (plain_of_quiet quiet) _) fun handle => ?_
    split
    · exact Makes.bind (Makes.bind (makes_ask (quiet _ ⟨rfl, rfl⟩)) fun _ =>
        Makes.bind (makes_ask (quiet _ ⟨rfl, rfl⟩)) fun _ => makes_ofExcept _) fun result =>
          reconciled_makes quiet closes identity decision startedAt result
    · trivial
  refine Makes.bind (authorize_makes (plain_of_quiet quiet) ..) fun decision => ?_
  split
  · refine Makes.bind (makes_ask (quiet _ ⟨rfl, rfl⟩)) fun _ =>
      Makes.bind (makes_ofExcept _) fun found => ?_
    simp only [reconcileRecord]
    split
    · trivial
    · split
      · trivial
      · split
        · trivial
        · exact asks _ _
        · exact asks _ _
        · trivial
  · trivial

variable (own : allowed (.invoke (.mutate action.sourceId (mutationRequest action))))

include own

/-- `dispatch` dispatches and records its own plan. -/
theorem dispatch_makes (identity : RequestIdentity) (decision : PolicyDecision)
    (started : DateTime) : (dispatch action identity decision started).Makes allowed :=
  Makes.bind (connector_makes (plain_of_quiet quiet) _) fun _ =>
    Makes.bind (Makes.attempt (mutateThen_makes quiet action own)) fun outcome =>
      afterMutation_makes quiet closes identity decision started outcome

omit closes in
/-- `execute` dispatches and records its own plan after its checks. -/
theorem executeChecked_makes
    (writes : ∀ tx : JournalTx, tx.action = action → tx.Bound → allowed (.journal tx))
    (identity : RequestIdentity) (decision : PolicyDecision) (started : DateTime) :
    (executeChecked action identity decision started).Makes allowed := by
  refine Makes.bind (transaction_makes quiet (writes _ rfl (by rintro _ ⟨⟩))) fun record => ?_
  simp only [executePrepared]
  split
  · exact replay_makes (plain_of_quiet quiet) ..
  · exact Makes.bind (transaction_makes quiet (writes _ rfl (by rintro _ ⟨⟩))) fun _ =>
      dispatch_makes quiet (fun tx same bound _ => writes tx same bound) own identity decision
        started

end DurableActionGateway

namespace ActionGateway

variable {allowed : GatewayOp → Prop} (plain : ∀ op : GatewayOp, op.plain = true → allowed op)

include plain

/-- The part of `compensate` after its execution is quiet. -/
theorem recordCompensation_makes (original : SourceActionPlan)
    (receipt compensated : StoredReceipt) :
    (recordCompensation original receipt compensated).Makes allowed :=
  Makes.bind (now_makes plain) fun _ => Makes.bind (append_makes plain ..) fun _ => trivial

variable [Stdlib]

/-- The part of `compensate` before its execution is quiet. -/
theorem previewCompensation_makes (original : SourceActionPlan) (spec : CompensationSpec)
    (receipt : StoredReceipt) (identity : RequestIdentity) (approval : Option ActionApproval) :
    (previewCompensation original spec receipt identity approval).Makes allowed := by
  refine Makes.bind (makes_ofExcept _) fun _ => ?_
  split
  · trivial
  · split
    · trivial
    · exact Makes.bind (now_makes plain) fun _ =>
        Makes.bind (validateApproval_makes plain ..) fun _ => preview_makes plain ..

end ActionGateway

section Calls

open ActionGateway

variable [Stdlib] {allowed : GatewayOp → Prop} (quiet : ∀ op : GatewayOp, op.Quiet → allowed op)
  (writes : ∀ tx : JournalTx, tx.Bound → allowed (.journal tx))

/-- `execute` of either class is its checks and what follows them. -/
theorem kind_execute_eq (kind : GatewayKind) (action : SourceActionPlan) (preview : ActionPreview)
    (identity : RequestIdentity) (approval : Option ActionApproval) :
    kind.execute action preview identity approval =
      (passGates action preview identity approval).bind fun checked =>
        kind.executeChecked action identity checked.2 checked.1 := by
  cases kind <;> rfl

include quiet writes

/-- After its checks, `execute` of either class dispatches its plan and writes with bound
receipts, and is quiet otherwise. -/
theorem kind_executeChecked_makes (kind : GatewayKind) (action : SourceActionPlan)
    (own : allowed (.invoke (.mutate action.sourceId (mutationRequest action))))
    (identity : RequestIdentity) (decision : PolicyDecision) (started : DateTime) :
    (kind.executeChecked action identity decision started).Makes allowed := by
  cases kind with
  | action => exact ActionGateway.executeChecked_makes quiet action identity decision started own
  | durable =>
    exact DurableActionGateway.executeChecked_makes quiet own (fun tx _ bound => writes tx bound)
      identity decision started

/-- Every call of either class dispatches plans and writes with bound receipts, and is quiet
otherwise. -/
theorem program_makes (dispatches : ∀ action : SourceActionPlan,
    allowed (.invoke (.mutate action.sourceId (mutationRequest action))))
    (kind : GatewayKind) (call : GatewayCall) : (call.program kind).Makes allowed := by
  have executes : ∀ action preview identity approval,
      (kind.execute action preview identity approval).Makes allowed := by
    intro action preview identity approval
    rw [kind_execute_eq]
    exact Makes.bind (passGates_makes (plain_of_quiet quiet) ..) fun checked =>
      kind_executeChecked_makes quiet writes kind action (dispatches action) identity _ _
  cases call with
  | preview action identity ttl =>
    exact Makes.bind (preview_makes (plain_of_quiet quiet) ..) fun _ => trivial
  | execute action preview identity approval =>
    exact Makes.bind (executes action preview identity approval) fun _ => trivial
  | compensate original receipt identity approval =>
    refine Makes.bind ?_ fun _ => trivial
    simp only [GatewayKind.compensate]
    split
    · trivial
    · exact Makes.bind (previewCompensation_makes (plain_of_quiet quiet) ..) fun _ =>
        Makes.bind (executes _ _ _ _) fun _ => recordCompensation_makes (plain_of_quiet quiet) ..
  | reconcile action identity =>
    cases kind with
    | action => trivial
    | durable =>
      exact Makes.bind (DurableActionGateway.reconcile_makes quiet
        (fun tx _ bound _ => writes tx bound) identity) fun _ => trivial

end Calls

end DataHarness
