import DataHarness.Gateway.Telemetry

/-!
# Telemetry does not influence a call

Every coroutine of a gateway, of either class, runs alike with two telemetry sinks: it makes the
same connector calls, and returns values that are alike or raises exceptions that are alike.
-/

namespace DataHarness

open Effect ActionGateway

variable [Stdlib] {σ ρ τ : Type} {surroundings : TimedSurroundings σ} {left : Telemetry ρ}
  {right : Telemetry τ} {key : IntegrityKey} {gateway : Nat}

/-! ## Steps without telemetry -/

section Quiet

/-- A program of calls outside the gateway runs alike. -/
theorem alike_program {α : Type} {program : GatewayProgram α}
    (outside : program.Makes fun op : GatewayOp => op.outside = true) :
    RunAlike surroundings left right key gateway Eq program program := by
  induction program with
  | ret value => exact Sides.Keeps.ret rfl
  | raise error => exact Sides.Keeps.raise (.same error)
  | call op next ih => exact alike_outside outside.1 fun reply => ih reply (outside.2 reply)

/-- What is computed without a call runs alike. -/
theorem alike_outcome {α : Type} (outcome : Except ActionError α) :
    RunAlike surroundings left right key gateway Eq (Program.ofExcept outcome)
      (Program.ofExcept outcome) :=
  Sides.Keeps.ends (Together.refl (fun _ => rfl) .same outcome)

/-- A connector is looked up alike. -/
theorem alike_connector (sourceId : String) :
    RunAlike surroundings left right key gateway Eq (connector sourceId) (connector sourceId) := by
  apply alike_program
  exact Program.Makes.bind (makes_ask rfl) fun _ => Program.makes_ofExcept _

/-- A connector call is awaited alike. -/
theorem alike_await (call : ConnectorCall) :
    RunAlike surroundings left right key gateway Eq (await call) (await call) := by
  apply alike_program
  exact Program.Makes.bind (makes_ask rfl) fun _ => Program.Makes.bind (makes_ask rfl) fun _ =>
    Program.makes_ofExcept _

/-- An approval is checked alike. -/
theorem alike_validateApproval (action : SourceActionPlan) (approval : Option ActionApproval)
    (identity : RequestIdentity) (now : DateTime) (compensation : Bool) :
    RunAlike surroundings left right key gateway Eq
      (validateApproval action approval identity now compensation)
      (validateApproval action approval identity now compensation) := by
  apply alike_program
  unfold validateApproval
  split
  · trivial
  · split
    · trivial
    · refine Program.Makes.bind (makes_ask rfl) fun _ => ?_
      refine Program.Makes.bind (Program.makes_ofExcept _) fun valid => ?_
      split <;> trivial

/-- A mutation is requested alike. -/
theorem alike_mutate (action : SourceActionPlan) :
    RunAlike surroundings left right key gateway Eq (mutate action) (mutate action) := by
  apply Sides.Keeps.bind (alike_await _)
  intro result other same
  subst same
  by_cases mapping : result.isMapping = true
  · rw [if_pos mapping]
    exact Sides.Keeps.ret rfl
  · rw [if_neg mapping]
    exact Sides.Keeps.raise (.same _)

/-- A mutation is requested alike before a hook. -/
theorem alike_mutateThen (action : SourceActionPlan) :
    RunAlike surroundings left right key gateway Eq (DurableActionGateway.mutateThen action)
      (DurableActionGateway.mutateThen action) := by
  apply Sides.Keeps.bind (alike_mutate action)
  intro result other same
  subst same
  apply alike_outside
  · rfl
  intro reply
  apply Sides.Keeps.bind (alike_outcome reply)
  intro _ _ _
  exact Sides.Keeps.ret rfl

/-- A transaction runs alike on receipts that are alike. -/
theorem alike_transaction {tx other : JournalTx} (txs : tx.Alike other) :
    RunAlike surroundings left right key gateway DurableActionRecord.Alike
      (DurableActionGateway.transaction tx) (DurableActionGateway.transaction other) := by
  have bindings : tx.action.binding = other.action.binding := by
    cases txs <;> rfl
  apply alike_journal txs
  intro reply answer replies
  apply Sides.Keeps.bind (Sides.Keeps.ends replies)
  intro found another records
  cases records with
  | some alike => exact Sides.Keeps.ret alike
  | none =>
    show RunAlike surroundings left right key gateway _
      ((ask (.get tx.action.binding)).bind _) ((ask (.get other.action.binding)).bind _)
    rw [bindings]
    apply alike_get
    intro reply answer replies
    show RunAlike surroundings left right key gateway _ ((Program.ofExcept reply).bind _)
      ((Program.ofExcept answer).bind _)
    apply Sides.Keeps.bind (Sides.Keeps.ends replies)
    intro found answer records
    cases records with
    | none => exact Sides.Keeps.raise (.same _)
    | some alike => exact Sides.Keeps.ret alike

/-- Receipts of one outcome are alike, whatever the ledger says of it. -/
theorem makeReceipt_alike (action : SourceActionPlan) (decision : PolicyDecision)
    (state : ActionState) (started completed : DateTime) (version : String)
    (audit other : AuditEntry) (count another : Nat) :
    (makeReceipt action decision state started completed version audit count).Alike
      (makeReceipt action decision state started completed version other another) :=
  ⟨rfl, rfl, rfl, rfl, rfl, rfl, rfl, rfl⟩

end Quiet

/-! ## Steps with telemetry -/

section Methods

variable (zoned : ∀ state, (surroundings.clock state).aware = true)

include zoned

/-- Both runs emit about an action. -/
theorem alike_emit (stage : String) (action : SourceActionPlan) (identity : RequestIdentity)
    (attributes others : List (String × Json.Value)) :
    RunAlike surroundings left right key gateway (fun _ _ => True)
      (emit stage action identity attributes) (emit stage action identity others) :=
  alike_emitEvent zoned _ _ _

/-- The policy decides alike. -/
theorem alike_authorize (action : SourceActionPlan) (identity : RequestIdentity)
    (stage : String) :
    RunAlike surroundings left right key gateway Eq (authorize action identity stage)
      (authorize action identity stage) := by
  apply Sides.Keeps.bind (alike_outcome _)
  intro _ _ _
  apply alike_outside
  · rfl
  intro evaluated
  apply Sides.Keeps.bind (alike_outcome evaluated)
  intro decision other same
  subst same
  apply Sides.Keeps.bind (alike_emitEvent zoned _ _ _)
  intro _ _ _
  exact Sides.Keeps.ret rfl

/-- The gates of `execute` are passed alike, at a time that tells its zone. -/
theorem alike_passGates (action : SourceActionPlan) (preview : ActionPreview)
    (identity : RequestIdentity) (approval : Option ActionApproval) :
    RunAlike surroundings left right key gateway
      (fun passed other => passed = other ∧ passed.1.aware = true)
      (passGates action preview identity approval)
      (passGates action preview identity approval) := by
  apply alike_now zoned
  intro started aware
  apply Sides.Keeps.bind (alike_outcome _)
  intro _ _ _
  apply Sides.Keeps.bind (alike_validateApproval _ _ _ _ _)
  intro _ _ _
  apply Sides.Keeps.bind (alike_authorize zoned _ _ _)
  intro decision other same
  subst same
  by_cases allowed : decision.allowed = true
  · rw [if_pos allowed]
    exact Sides.Keeps.ret ⟨rfl, aware⟩
  · rw [if_neg allowed]
    exact Sides.Keeps.raise (.same _)

/-- A preview is shown alike. -/
theorem alike_preview (action : SourceActionPlan) (identity : RequestIdentity) (ttl : Int) :
    RunAlike surroundings left right key gateway Eq (preview action identity ttl)
      (preview action identity ttl) := by
  apply Sides.Keeps.bind (alike_connector _)
  intro handle other same
  subst same
  by_cases supported : handle.supportsIdempotencyKey = true
  · rw [if_pos supported]
    apply Sides.Keeps.bind (alike_authorize zoned _ _ _)
    intro decision other same
    subst same
    apply alike_now zoned
    intro createdAt aware
    apply Sides.Keeps.bind (alike_outcome _)
    intro shown other same
    subst same
    apply alike_append aware
    intro entry other
    apply Sides.Keeps.bind (alike_emit zoned _ _ _ _ _)
    intro _ _ _
    exact Sides.Keeps.ret rfl
  · rw [if_neg supported]
    exact Sides.Keeps.raise (.same _)

/-- A receipt is replayed alike. -/
theorem alike_replay (action : SourceActionPlan) (identity : RequestIdentity) {started : DateTime}
    (aware : started.aware = true) {receipt other : StoredReceipt} (receipts : receipt.Alike other) :
    RunAlike surroundings left right key gateway SourceMutationReceipt.Alike
      (replay action identity started receipt) (replay action identity started other) := by
  apply alike_append aware
  intro entry another
  apply Sides.Keeps.bind (alike_emit zoned _ _ _ _ _)
  intro _ _ _
  exact Sides.Keeps.ret ⟨receipts.actionId, receipts.actionDigest, receipts.idempotencyKey, rfl,
    receipts.startedAt, rfl, receipts.sourceVersion, receipts.policyDecisionId⟩

/-! ## `ActionGateway` -/

/-- A mutation whose connector raised is reported alike. -/
theorem alike_connectorFailed (action : SourceActionPlan) (identity : RequestIdentity)
    (decision : PolicyDecision) (started : DateTime) :
    RunAlike surroundings left right key gateway SourceMutationReceipt.Alike
      (connectorFailed action identity decision started)
      (connectorFailed action identity decision started) := by
  apply alike_now zoned
  intro completed aware
  apply alike_append aware
  intro audit other
  apply alike_auditLength
  intro count another
  apply Sides.Keeps.bind (alike_emit zoned _ _ _ _ _)
  intro _ _ _
  exact Sides.Keeps.raise (.failed (makeReceipt_alike ..).stored)

/-- A mutation whose connector answered is recorded alike in memory. -/
theorem alike_connectorAnswered (action : SourceActionPlan) (identity : RequestIdentity)
    (decision : PolicyDecision) (started : DateTime) (result : PyValue) :
    RunAlike surroundings left right key gateway SourceMutationReceipt.Alike
      (connectorAnswered action identity decision started result)
      (connectorAnswered action identity decision started result) := by
  apply alike_now zoned
  intro completed aware
  apply Sides.Keeps.bind (alike_outcome (sourceVersion result))
  intro version _ same
  subst same
  apply alike_append aware
  intro audit other
  apply alike_auditLength
  intro count another
  cases success : succeeded result with
  | true =>
    simp only [if_true]
    apply alike_remember (makeReceipt_alike ..)
    apply Sides.Keeps.bind (alike_emit zoned _ _ _ _ _)
    intro _ _ _
    exact Sides.Keeps.ret (makeReceipt_alike ..).stored
  | false =>
    simp only [Bool.false_eq_true, if_false]
    apply Sides.Keeps.bind (alike_emit zoned _ _ _ _ _)
    intro _ _ _
    exact Sides.Keeps.raise (.failed (makeReceipt_alike ..).stored)

/-- A plan is dispatched alike in memory. -/
theorem alike_dispatch (action : SourceActionPlan) (identity : RequestIdentity)
    (decision : PolicyDecision) (started : DateTime) :
    RunAlike surroundings left right key gateway SourceMutationReceipt.Alike
      (dispatch action identity decision started) (dispatch action identity decision started) := by
  apply Sides.Keeps.bind (alike_connector _)
  intro _ _ _
  apply Sides.Keeps.bind ((alike_mutate action).attempt fun _ _ alike => alike.isException)
  intro outcome other together
  cases together with
  | error _ => exact alike_connectorFailed zoned action identity decision started
  | ok same =>
    subst same
    exact alike_connectorAnswered zoned action identity decision started _

/-- A plan whose key is bound is replayed alike in memory, or refused. -/
theorem alike_bound (action : SourceActionPlan) (identity : RequestIdentity) {started : DateTime}
    (aware : started.aware = true) (digest : String) {receipt other : Receipt}
    (receipts : receipt.Alike other) :
    RunAlike surroundings left right key gateway SourceMutationReceipt.Alike
      (if digest ≠ action.digest then
        .raise (.idempotencyConflict "idempotency key was already bound to another action")
      else replay action identity started receipt.stored)
      (if digest ≠ action.digest then
        .raise (.idempotencyConflict "idempotency key was already bound to another action")
      else replay action identity started other.stored) := by
  by_cases same : digest = action.digest
  · rw [if_neg (not_not.mpr same), if_neg (not_not.mpr same)]
    exact alike_replay zoned action identity aware receipts.stored
  · rw [if_pos same, if_pos same]
    exact Sides.Keeps.raise (.same _)

/-- A plan is executed alike in memory after its checks. -/
theorem alike_executeChecked (action : SourceActionPlan) (identity : RequestIdentity)
    (decision : PolicyDecision) {started : DateTime} (aware : started.aware = true) :
    RunAlike surroundings left right key gateway SourceMutationReceipt.Alike
      (executeChecked action identity decision started)
      (executeChecked action identity decision started) := by
  apply alike_lookup
  intro found other bound
  cases bound with
  | none => exact alike_dispatch zoned action identity decision started
  | @some first second alike =>
    obtain ⟨digest, receipt⟩ := first
    obtain ⟨_, another⟩ := second
    obtain ⟨same, receipts⟩ := alike
    dsimp only at same receipts
    subst same
    exact alike_bound zoned action identity aware digest receipts

end Methods

/-! ## `DurableActionGateway` -/

namespace DurableActionGateway

variable (zoned : ∀ state, (surroundings.clock state).aware = true)

include zoned

/-- An unknown outcome is recorded alike. -/
theorem alike_outcomeUnknown (action : SourceActionPlan) (identity : RequestIdentity) :
    RunAlike surroundings left right key gateway SourceMutationReceipt.Alike
      (outcomeUnknown action identity) (outcomeUnknown action identity) := by
  apply alike_now zoned
  intro failed aware
  apply Sides.Keeps.bind (alike_transaction (.same _))
  intro _ _ _
  apply Sides.Keeps.bind (alike_emit zoned _ _ _ _ _)
  intro _ _ _
  exact Sides.Keeps.raise (.same _)

/-- A mutation whose connector answered is recorded alike in the journal. -/
theorem alike_connectorAnswered (action : SourceActionPlan) (identity : RequestIdentity)
    (decision : PolicyDecision) (started : DateTime) (result : PyValue) :
    RunAlike surroundings left right key gateway SourceMutationReceipt.Alike
      (connectorAnswered action identity decision started result)
      (connectorAnswered action identity decision started result) := by
  apply alike_now zoned
  intro completed aware
  apply Sides.Keeps.bind (alike_outcome (sourceVersion result))
  intro version _ same
  subst same
  apply alike_append aware
  intro audit other
  apply alike_auditLength
  intro count another
  cases success : succeeded result with
  | true =>
    simp only [if_true]
    apply Sides.Keeps.bind (alike_transaction (.complete action completed (makeReceipt_alike ..)))
    intro _ _ _
    apply Sides.Keeps.bind (alike_emit zoned _ _ _ _ _)
    intro _ _ _
    exact Sides.Keeps.ret (makeReceipt_alike ..).stored
  | false =>
    simp only [Bool.false_eq_true, if_false]
    apply Sides.Keeps.bind (alike_transaction (.fail action completed (makeReceipt_alike ..)))
    intro _ _ _
    apply Sides.Keeps.bind (alike_emit zoned _ _ _ _ _)
    intro _ _ _
    exact Sides.Keeps.raise (.failed (makeReceipt_alike ..).stored)

/-- A plan is dispatched alike. -/
theorem alike_dispatch (action : SourceActionPlan) (identity : RequestIdentity)
    (decision : PolicyDecision) (started : DateTime) :
    RunAlike surroundings left right key gateway SourceMutationReceipt.Alike
      (dispatch action identity decision started) (dispatch action identity decision started) := by
  apply Sides.Keeps.bind (alike_connector _)
  intro _ _ _
  apply Sides.Keeps.bind ((alike_mutateThen action).attempt fun _ _ alike => alike.isException)
  intro outcome other together
  cases together with
  | error _ => exact alike_outcomeUnknown zoned action identity
  | ok same =>
    subst same
    exact alike_connectorAnswered zoned action identity decision started _

/-- A plan is executed alike with the records that `prepare` returned. -/
theorem alike_executePrepared (action : SourceActionPlan) (identity : RequestIdentity)
    (decision : PolicyDecision) {started : DateTime} (aware : started.aware = true)
    {record other : DurableActionRecord} (records : record.Alike other) :
    RunAlike surroundings left right key gateway SourceMutationReceipt.Alike
      (executePrepared action identity decision started record)
      (executePrepared action identity decision started other) := by
  have begun : RunAlike surroundings left right key gateway SourceMutationReceipt.Alike
      ((transaction (.begin action started)).bind fun _ => dispatch action identity decision started)
      ((transaction (.begin action started)).bind fun _ =>
        dispatch action identity decision started) := by
    apply Sides.Keeps.bind (alike_transaction (.same _))
    intro _ _ _
    exact alike_dispatch zoned action identity decision started
  obtain ⟨columns, receipts⟩ := records
  unfold executePrepared
  rw [show record.state = other.state by rw [columns]]
  revert receipts
  generalize record.receipt = first
  generalize other.receipt = second
  intro receipts
  cases receipts with
  | none => cases other.state <;> exact begun
  | some alike =>
    cases other.state with
    | executed => exact alike_replay zoned action identity aware alike
    | _ => exact begun

/-- A plan is executed alike after its checks. -/
theorem alike_executeChecked (action : SourceActionPlan) (identity : RequestIdentity)
    (decision : PolicyDecision) {started : DateTime} (aware : started.aware = true) :
    RunAlike surroundings left right key gateway SourceMutationReceipt.Alike
      (executeChecked action identity decision started)
      (executeChecked action identity decision started) := by
  apply Sides.Keeps.bind (alike_transaction (.same _))
  intro record other records
  exact alike_executePrepared zoned action identity decision aware records

/-- What the source answered is recorded alike by `reconcile`. -/
theorem alike_reconciled (action : SourceActionPlan) (identity : RequestIdentity)
    (decision : PolicyDecision) (startedAt : DateTime) (result : PyValue) :
    RunAlike surroundings left right key gateway SourceMutationReceipt.Alike
      (reconciled action identity decision startedAt result)
      (reconciled action identity decision startedAt result) := by
  unfold reconciled
  by_cases proven : proves result = true
  · rw [if_pos proven]
    apply alike_now zoned
    intro completed aware
    apply Sides.Keeps.bind (alike_outcome (sourceVersion result))
    intro version _ same
    subst same
    apply alike_append aware
    intro audit other
    refine Sides.Keeps.bind (alike_transaction (.complete action completed ?_)) ?_
    · exact ⟨rfl, rfl, rfl, rfl, rfl, rfl, rfl, rfl⟩
    intro _ _ _
    apply Sides.Keeps.bind (alike_emit zoned _ _ _ _ _)
    intro _ _ _
    exact Sides.Keeps.ret ⟨rfl, rfl, rfl, rfl, rfl, rfl, rfl, rfl⟩
  · rw [if_neg proven]
    apply alike_now zoned
    intro failed aware
    apply Sides.Keeps.bind (alike_transaction (.same _))
    intro _ _ _
    exact Sides.Keeps.raise (.same _)

/-- The source is asked alike. -/
theorem alike_askSource (action : SourceActionPlan) (identity : RequestIdentity)
    (decision : PolicyDecision) (startedAt : DateTime) :
    RunAlike surroundings left right key gateway SourceMutationReceipt.Alike
      (askSource action identity decision startedAt)
      (askSource action identity decision startedAt) := by
  apply Sides.Keeps.bind (alike_connector _)
  intro handle other same
  subst same
  by_cases exposed : handle.hasReconcile = true
  · rw [if_pos exposed]
    apply Sides.Keeps.bind (alike_await _)
    intro result other same
    subst same
    exact alike_reconciled zoned action identity decision startedAt result
  · rw [if_neg exposed]
    exact Sides.Keeps.raise (.same _)

/-- Records that are alike are reconciled alike. -/
theorem alike_reconcileRecord (action : SourceActionPlan) (identity : RequestIdentity)
    (decision : PolicyDecision) {found other : Option DurableActionRecord}
    (records : Option.Rel DurableActionRecord.Alike found other) :
    RunAlike surroundings left right key gateway SourceMutationReceipt.Alike
      (reconcileRecord action identity decision found)
      (reconcileRecord action identity decision other) := by
  unfold reconcileRecord
  cases records with
  | none => exact Sides.Keeps.raise (.same _)
  | @some record another alike =>
    obtain ⟨columns, receipts⟩ := alike
    dsimp only
    rw [show record.actionDigest = another.actionDigest by rw [columns],
      show record.state = another.state by rw [columns],
      show record.startedAt = another.startedAt by rw [columns]]
    cases action.checkDigest another.actionDigest Journal.missingMessage with
    | error error => exact Sides.Keeps.raise (.same _)
    | ok _ =>
      have asks : RunAlike surroundings left right key gateway SourceMutationReceipt.Alike
          (askSource action identity decision another.startedAt)
          (askSource action identity decision another.startedAt) :=
        alike_askSource zoned action identity decision another.startedAt
      revert receipts
      generalize record.receipt = first
      generalize another.receipt = second
      intro receipts
      cases another.state with
      | executing => exact asks
      | reconciliationRequired => exact asks
      | executed =>
        cases receipts with
        | none => exact Sides.Keeps.raise (.same _)
        | some alike => exact Sides.Keeps.ret alike
      | prepared => exact Sides.Keeps.raise (.same _)
      | failed => exact Sides.Keeps.raise (.same _)

/-- An action is reconciled alike. -/
theorem alike_reconcile (action : SourceActionPlan) (identity : RequestIdentity) :
    RunAlike surroundings left right key gateway SourceMutationReceipt.Alike
      (reconcile action identity) (reconcile action identity) := by
  apply Sides.Keeps.bind (alike_authorize zoned _ _ _)
  intro decision other same
  subst same
  by_cases allowed : decision.allowed = true
  · rw [if_pos allowed]
    apply alike_get
    intro found another together
    show RunAlike surroundings left right key gateway _ ((Program.ofExcept found).bind _)
      ((Program.ofExcept another).bind _)
    apply Sides.Keeps.bind (Sides.Keeps.ends together)
    intro record answer records
    exact alike_reconcileRecord zoned action identity decision records
  · rw [if_neg allowed]
    exact Sides.Keeps.raise (.same _)

end DurableActionGateway

/-! ## Methods of either class -/

/-- Two calls are one, or compensate an action with receipts that are alike. -/
inductive GatewayCall.Alike : GatewayCall → GatewayCall → Prop
  | same (call : GatewayCall) : Alike call call
  | compensate (original : SourceActionPlan) {receipt other : StoredReceipt}
    (identity : RequestIdentity) (approval : Option ActionApproval)
    (receipts : receipt.Alike other) :
    Alike (.compensate original receipt identity approval)
      (.compensate original other identity approval)

/-- Two calls return one preview, or receipts that are alike. -/
inductive Returned.Alike : Returned → Returned → Prop
  | preview (shown : ActionPreview) : Alike (.preview shown) (.preview shown)
  | receipt {receipt other : StoredReceipt} (receipts : receipt.Alike other) :
    Alike (.receipt receipt) (.receipt other)

section Calls

variable (zoned : ∀ state, (surroundings.clock state).aware = true) (kind : GatewayKind)

include zoned

/-- A plan is executed alike. -/
theorem alike_execute (action : SourceActionPlan) (shown : ActionPreview)
    (identity : RequestIdentity) (approval : Option ActionApproval) :
    RunAlike surroundings left right key gateway SourceMutationReceipt.Alike
      (kind.execute action shown identity approval)
      (kind.execute action shown identity approval) := by
  cases kind with
  | action =>
    apply Sides.Keeps.bind (alike_passGates zoned _ _ _ _)
    rintro passed other ⟨same, aware⟩
    subst same
    exact alike_executeChecked zoned action identity passed.2 aware
  | durable =>
    apply Sides.Keeps.bind (alike_passGates zoned _ _ _ _)
    rintro passed other ⟨same, aware⟩
    subst same
    exact DurableActionGateway.alike_executeChecked zoned action identity passed.2 aware

/-- A compensation is previewed alike for receipts that are alike. -/
theorem alike_previewCompensation (original : SourceActionPlan) (spec : CompensationSpec)
    {receipt other : StoredReceipt} (receipts : receipt.Alike other) (identity : RequestIdentity)
    (approval : Option ActionApproval) :
    RunAlike surroundings left right key gateway Eq
      (previewCompensation original spec receipt identity approval)
      (previewCompensation original spec other identity approval) := by
  unfold previewCompensation
  rw [receipts.actionDigest, receipts.state]
  apply Sides.Keeps.bind (alike_outcome _)
  intro _ _ _
  by_cases bound : previewCompensation.isDigest original other.actionDigest = false
  · rw [if_pos bound]
    exact Sides.Keeps.raise (.same _)
  · rw [if_neg bound]
    by_cases failed : compensable other.state = false
    · rw [if_pos failed]
      exact Sides.Keeps.raise (.same _)
    · rw [if_neg failed]
      apply alike_now zoned
      intro asked aware
      apply Sides.Keeps.bind (alike_validateApproval _ _ _ _ _)
      intro _ _ _
      exact alike_preview zoned _ _ _

/-- A compensation is recorded alike. -/
theorem alike_recordCompensation (original : SourceActionPlan) (receipt other : StoredReceipt)
    {compensated another : StoredReceipt} (receipts : compensated.Alike another) :
    RunAlike surroundings left right key gateway SourceMutationReceipt.Alike
      (recordCompensation original receipt compensated)
      (recordCompensation original other another) := by
  apply alike_now zoned
  intro completed aware
  apply alike_append aware
  intro entry second
  exact Sides.Keeps.ret ⟨receipts.actionId, receipts.actionDigest, receipts.idempotencyKey, rfl,
    receipts.startedAt, receipts.completedAt, receipts.sourceVersion, receipts.policyDecisionId⟩

/-- An action is compensated alike for receipts that are alike. -/
theorem alike_compensate (original : SourceActionPlan) {receipt other : StoredReceipt}
    (receipts : receipt.Alike other) (identity : RequestIdentity)
    (approval : Option ActionApproval) :
    RunAlike surroundings left right key gateway SourceMutationReceipt.Alike
      (kind.compensate original receipt identity approval)
      (kind.compensate original other identity approval) := by
  unfold GatewayKind.compensate
  cases original.compensation with
  | none => exact Sides.Keeps.raise (.same _)
  | some spec =>
    apply Sides.Keeps.bind (alike_previewCompensation zoned original spec receipts _ _)
    intro shown _ same
    subst same
    apply Sides.Keeps.bind (alike_execute zoned kind _ _ _ _)
    intro compensated another alike
    exact alike_recordCompensation zoned original receipt other alike

/-- A call of a gateway runs alike with both sinks. -/
theorem alike_call {call other : GatewayCall} (calls : call.Alike other) :
    RunAlike surroundings left right key gateway Returned.Alike (call.program kind)
      (other.program kind) := by
  cases calls with
  | compensate original identity approval receipts =>
    apply Sides.Keeps.bind (alike_compensate zoned kind original receipts identity approval)
    intro compensated another alike
    exact Sides.Keeps.ret (.receipt alike)
  | same =>
    cases call with
    | preview action identity ttl =>
      apply Sides.Keeps.bind (alike_preview zoned action identity ttl)
      intro shown another same
      subst same
      exact Sides.Keeps.ret (.preview shown)
    | execute action shown identity approval =>
      apply Sides.Keeps.bind (alike_execute zoned kind action shown identity approval)
      intro receipt another alike
      exact Sides.Keeps.ret (.receipt alike)
    | compensate original receipt identity approval =>
      apply Sides.Keeps.bind (alike_compensate zoned kind original (.refl receipt) identity approval)
      intro compensated another alike
      exact Sides.Keeps.ret (.receipt alike)
    | reconcile action identity =>
      cases kind with
      | action => exact Sides.Keeps.raise (.same _)
      | durable =>
        apply Sides.Keeps.bind (DurableActionGateway.alike_reconcile zoned action identity)
        intro receipt another alike
        exact Sides.Keeps.ret (.receipt alike)

end Calls

end DataHarness
