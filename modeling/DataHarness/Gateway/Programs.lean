import DataHarness.Gateway.Calls

/-!
# The coroutines of the action gateways

`ActionGateway` and `DurableActionGateway` as programs over their calls, in the order the
source makes them. `compensate` and `preview` are inherited, so `compensate` runs the
`execute` of its own class.
-/

namespace DataHarness

open Effect

namespace ActionGateway

/-! ## Calls with typed replies -/

/-- Make a call and return its reply. -/
def ask (op : GatewayOp) : GatewayProgram op.Reply :=
  Program.perform (S := gatewaySignature) op

/-- `self.now()`. -/
def now : GatewayProgram DateTime := ask .now

/-- `self.audit.append(...)`. -/
def append (eventType actionId : String) (occurredAt : DateTime)
    (attributes : List (String × Json.Value)) : GatewayProgram AuditEntry := do
  let entry : Except ActionError AuditEntry ← ask (.audit eventType actionId occurredAt attributes)
  Program.ofExcept entry

/-- `self.registry.get(source_id, Capability.MUTATE)`. -/
def connector (sourceId : String) : GatewayProgram ConnectorHandle := do
  let handle : Except ActionError ConnectorHandle ← ask (.connector sourceId)
  Program.ofExcept handle

/-- Call a coroutine of the connector and await it. -/
def await (call : ConnectorCall) : GatewayProgram PyValue := do
  let _ : Unit ← ask (.invoke call)
  let result : Except ActionError PyValue ← ask (.await call)
  Program.ofExcept result

/-! ## Shared steps -/

/-- `_emit_event`. -/
def emitEvent (event : TelemetryEvent) (actionId : String) : GatewayProgram Unit := do
  let emit : GatewayProgram Unit := do
    let sent : Except ActionError Unit ← ask (.emit event)
    Program.ofExcept sent
  match ← emit.attempt ActionError.isException with
  | .ok _ => return ()
  | .error _ =>
    let failed ← now
    let _ ← append "telemetry-failed" actionId failed [("event_name", .str event.name)]
    return ()

/-- `_emit`. -/
def emit (stage : String) (action : SourceActionPlan) (identity : RequestIdentity)
    (attributes : List (String × Json.Value)) : GatewayProgram Unit :=
  emitEvent ⟨"data.harness.action." ++ stage, identity,
    [("source_id", .str action.sourceId), ("action_id", .str action.actionId)] ++ attributes⟩
    action.actionId

/-- `_validate_preview`. -/
def validatePreview [Stdlib] (action : SourceActionPlan) (preview : ActionPreview)
    (identity : RequestIdentity) (now : DateTime) : Except ActionError Unit :=
  let mismatch := ActionError.previewMismatch
    "preview is denied, stale or not bound to this action and policy"
  if preview.allowed = false ∨ preview.actionId ≠ action.actionId then .error mismatch
  else match action.takeDigest with
    | .error error => .error error
    | .ok digest =>
      if preview.actionDigest ≠ digest ∨ preview.policyDigest ≠ identity.policyDigest then
        .error mismatch
      else match now.before? preview.expiresAt with
        | some true => .ok ()
        | some false => .error mismatch
        | none => .error (.typeError "can't compare offset-naive and offset-aware datetimes")

/-- `_validate_approval`. -/
def validateApproval (action : SourceActionPlan) (approval : Option ActionApproval)
    (identity : RequestIdentity) (now : DateTime) (compensation : Bool) : GatewayProgram Unit :=
  match action.approvalMode with
  | .none => return ()
  | .human =>
    match approval with
    | none => .raise (.approvalRequired "human approval is required")
    | some approval => do
      let verdict : Except ActionError Bool ←
        ask (.verifyApproval approval action identity now compensation)
      let valid ← Program.ofExcept verdict
      if valid then return ()
      else .raise (.approvalRequired
        "approval is untrusted, stale, mismatched or excludes compensation")

/-- The request dictionary of a mutation. -/
def mutationRequest (action : SourceActionPlan) : MutationRequest :=
  ⟨action.actionId, action.assetId, action.operation, action.parameters, action.preconditions,
    action.idempotencyKey⟩

/-- `str(result.get("source_version", "unknown"))`. -/
def sourceVersion (result : PyValue) : Except ActionError String :=
  match result.get "source_version" with
  | some version => version.told.mapError ActionError.ofWrite
  | none => .ok "unknown"

/-- `success`: the result reports success and postconditions. -/
def succeeded (result : PyValue) : Bool :=
  result.flagged "success" && result.flagged "postconditions_met"

/-- The version a result names can be written, if the result is a success. -/
def versioned (result : PyValue) : Bool := !succeeded result || (sourceVersion result).toBool

/-- The version of a success can be written. -/
theorem exists_version {result : PyValue} (success : succeeded result = true)
    (told : versioned result = true) : ∃ version, sourceVersion result = .ok version := by
  rw [versioned, success, Bool.not_true, Bool.false_or] at told
  exact exists_ok told

/-- `await connector.mutate(...)`, whose result must be a mapping. -/
def mutate (action : SourceActionPlan) : GatewayProgram PyValue := do
  let result ← await (.mutate action.sourceId (mutationRequest action))
  if result.isMapping then return result
  else .raise (.typeError "connector mutation result must be a mapping")

variable [Stdlib]

/-- The authorization request of one stage of an action. -/
def authorizationRequest (action : SourceActionPlan) (identity : RequestIdentity)
    (stage : String) : AuthorizationRequest where
  identity := identity
  sourceId := action.sourceId
  capability := .mutate
  assetIds := [action.assetId]
  purpose := action.purpose
  attributes := [("risk", .str action.risk.value), ("stage", .str stage)]
  parameters := [(.str "operation", .str action.operation),
    (.str "precondition_fields", .sequence (action.preconditions.sorted.map .str)
      (reprTuple action.preconditions.sorted)),
    (.str "action_digest", .str action.digest)]

/-- `_authorize`. -/
def authorize (action : SourceActionPlan) (identity : RequestIdentity) (stage : String) :
    GatewayProgram PolicyDecision := do
  let _ ← Program.ofExcept action.takeDigest
  let evaluated : Except ActionError PolicyDecision ←
    ask (.evaluate (authorizationRequest action identity stage))
  let decision ← Program.ofExcept evaluated
  emitEvent ⟨"data.harness.action.authorization", identity,
    [("source_id", .str action.sourceId), ("action_id", .str action.actionId),
      ("stage", .str stage), ("allowed", .bool decision.allowed),
      ("decision_id", .str decision.decisionId)]⟩ action.actionId
  return decision

/-- The first steps of both `execute` methods: the preview, the approval and the policy. -/
def passGates (action : SourceActionPlan) (preview : ActionPreview) (identity : RequestIdentity)
    (approval : Option ActionApproval) : GatewayProgram (DateTime × PolicyDecision) := do
  let started ← now
  Program.ofExcept (validatePreview action preview identity started)
  validateApproval action approval identity started false
  let decision ← authorize action identity "execute"
  if decision.allowed then return (started, decision) else .raise (.policyDenied decision)

/-- A replay: audited, reported, and answered with the receipt of the first execution. -/
def replay (action : SourceActionPlan) (identity : RequestIdentity) (started : DateTime)
    (receipt : StoredReceipt) : GatewayProgram StoredReceipt := do
  let audit ← append "replayed" action.actionId started [("receipt_id", receipt.receiptId)]
  emit "replayed" action identity [("receipt_id", receipt.receiptId)]
  return { receipt with
    state := .alreadyExecuted
    completedAt := started
    auditDigest := .str audit.digest }

/-- The receipt of an outcome that was audited as the last of so many entries. -/
def makeReceipt (action : SourceActionPlan) (decision : PolicyDecision) (state : ActionState)
    (started completed : DateTime) (version : String) (audit : AuditEntry) (count : Nat) :
    Receipt where
  receiptId := "receipt:" ++ action.actionId ++ ":" ++ toString count
  actionId := action.actionId
  actionDigest := action.digest
  idempotencyKey := action.idempotencyKey
  state := state
  startedAt := started
  completedAt := completed
  sourceVersion := version
  policyDecisionId := decision.decisionId
  auditDigest := audit.digest
  compensationOf := none

/-! ## `ActionGateway` -/

/-- The preview `preview` builds, when its constructor accepts it. -/
def makePreview (action : SourceActionPlan) (identity : RequestIdentity)
    (decision : PolicyDecision) (createdAt : DateTime) (ttl : Int) :
    Except ActionError ActionPreview :=
  if aware : createdAt.aware = true ∧ (createdAt.add ttl).aware = true then
    if bounded : createdAt.before? (createdAt.add ttl) = some true then
      .ok {
        previewId := "preview:" ++ action.actionId ++ ":" ++
          String.ofList ((action.digest.toList.drop "sha256:".length).take 12)
        actionId := action.actionId
        actionDigest := action.digest
        policyDigest := identity.policyDigest
        policyDecisionId := decision.decisionId
        createdAt := createdAt
        expiresAt := createdAt.add ttl
        allowed := decision.allowed
        approvalRequired := action.approvalMode = .human
        effects := [action.sourceId ++ ":" ++ action.assetId ++ ":" ++ action.operation,
          "conditional:" ++ ",".intercalate action.preconditions.sorted]
        aware := aware
        bounded := ⟨bounded, by simp⟩ }
    else .error (.valueError "preview must be time-bounded and expose effects")
  else .error (.valueError "preview timestamps must be timezone-aware")

/-- `preview`. -/
def preview (action : SourceActionPlan) (identity : RequestIdentity) (ttl : Int) :
    GatewayProgram ActionPreview := do
  let handle ← connector action.sourceId
  if handle.supportsIdempotencyKey then do
    let decision ← authorize action identity "preview"
    let createdAt ← now
    let preview ← Program.ofExcept (makePreview action identity decision createdAt ttl)
    let _ ← append "previewed" action.actionId createdAt
      [("allowed", .bool decision.allowed), ("decision_id", .str decision.decisionId)]
    emit "previewed" action identity [("allowed", .bool decision.allowed)]
    return preview
  else .raise (.valueError "mutation connector must support source-level idempotency keys")

/-- A mutation whose connector raised. -/
def connectorFailed (action : SourceActionPlan) (identity : RequestIdentity)
    (decision : PolicyDecision) (started : DateTime) : GatewayProgram StoredReceipt := do
  let completed ← now
  let audit ← append ActionState.failed.value action.actionId completed
    [("source_version", .str "unknown"), ("reason", .str "connector_error")]
  let count : Nat ← ask .auditLength
  let receipt := makeReceipt action decision .failed started completed "unknown" audit count
  emit ActionState.failed.value action identity [("source_version", .str "unknown")]
  .raise (.actionExecutionFailed receipt.stored)

/-- A mutation whose connector answered. -/
def connectorAnswered (action : SourceActionPlan) (identity : RequestIdentity)
    (decision : PolicyDecision) (started : DateTime) (result : PyValue) :
    GatewayProgram StoredReceipt := do
  let completed ← now
  let state := if succeeded result then ActionState.executed else ActionState.failed
  let version ← Program.ofExcept (sourceVersion result)
  let audit ← append state.value action.actionId completed [("source_version", .str version)]
  let count : Nat ← ask .auditLength
  let receipt := makeReceipt action decision state started completed version audit count
  if succeeded result then do
    let _ : Unit ← ask (.remember action.binding action.digest receipt)
    emit state.value action identity [("source_version", .str receipt.sourceVersion)]
    return receipt.stored
  else do
    emit state.value action identity [("source_version", .str receipt.sourceVersion)]
    .raise (.actionExecutionFailed receipt.stored)

/-- The dispatch of `execute`, after its checks and the lookup of the idempotency key. -/
def dispatch (action : SourceActionPlan) (identity : RequestIdentity)
    (decision : PolicyDecision) (started : DateTime) : GatewayProgram StoredReceipt := do
  let _ ← connector action.sourceId
  match ← (mutate action).attempt ActionError.isException with
  | .error _ => connectorFailed action identity decision started
  | .ok result => connectorAnswered action identity decision started result

/-- `execute`, after its checks: the lookup of the idempotency key. -/
def executeChecked (action : SourceActionPlan) (identity : RequestIdentity)
    (decision : PolicyDecision) (started : DateTime) : GatewayProgram StoredReceipt := do
  let existing : Option (String × Receipt) ← ask (.lookup action.binding)
  match existing with
  | some (digest, receipt) =>
    if digest ≠ action.digest then
      .raise (.idempotencyConflict "idempotency key was already bound to another action")
    else replay action identity started receipt.stored
  | none => dispatch action identity decision started

/-- `execute`. -/
def execute (action : SourceActionPlan) (preview : ActionPreview) (identity : RequestIdentity)
    (approval : Option ActionApproval) : GatewayProgram StoredReceipt := do
  let (started, decision) ← passGates action preview identity approval
  executeChecked action identity decision started

end ActionGateway

/-! ## `DurableActionGateway` -/

namespace DurableActionGateway

open ActionGateway

variable [Stdlib]

/-- A method of the journal that writes: the transaction, then a read unless the transaction
returned the record itself. -/
def transaction (tx : JournalTx) : GatewayProgram DurableActionRecord := do
  let reply : Except ActionError (Option DurableActionRecord) ← ask (.journal tx)
  match ← Program.ofExcept reply with
  | some record => return record
  | none =>
    let updated : Except ActionError (Option DurableActionRecord) ← ask (.get tx.action.binding)
    match ← Program.ofExcept updated with
    | some record => return record
    | none => .raise .assertionError

/-- A mutation whose outcome is unknown. -/
def outcomeUnknown (action : SourceActionPlan) (identity : RequestIdentity) :
    GatewayProgram StoredReceipt := do
  let failed ← now
  let _ ← transaction (.requireReconciliation action failed "outcome-unknown-after-dispatch")
  emit "reconciliation-required" action identity []
  .raise (.actionOutcomeUnknown ("source outcome is unknown for action " ++ action.actionId ++
    "; reconcile before retry"))

/-- A mutation whose connector answered. -/
def connectorAnswered (action : SourceActionPlan) (identity : RequestIdentity)
    (decision : PolicyDecision) (started : DateTime) (result : PyValue) :
    GatewayProgram StoredReceipt := do
  let completed ← now
  let state := if succeeded result then ActionState.executed else ActionState.failed
  let version ← Program.ofExcept (sourceVersion result)
  let audit ← append state.value action.actionId completed [("source_version", .str version)]
  let count : Nat ← ask .auditLength
  let receipt := makeReceipt action decision state started completed version audit count
  if succeeded result then do
    let _ ← transaction (.complete action receipt completed)
    emit state.value action identity [("source_version", .str receipt.sourceVersion)]
    return receipt.stored
  else do
    let _ ← transaction (.fail action receipt completed)
    emit state.value action identity [("source_version", .str receipt.sourceVersion)]
    .raise (.actionExecutionFailed receipt.stored)

/-- The `try` block of `execute`. -/
def mutateThen (action : SourceActionPlan) : GatewayProgram PyValue := do
  let result ← mutate action
  let after : Except ActionError Unit ← ask (.afterMutation action result)
  Program.ofExcept after
  return result

/-- The dispatch of `execute`, after `begin`. -/
def dispatch (action : SourceActionPlan) (identity : RequestIdentity)
    (decision : PolicyDecision) (started : DateTime) : GatewayProgram StoredReceipt := do
  let _ ← connector action.sourceId
  match ← (mutateThen action).attempt ActionError.isException with
  | .error _ => outcomeUnknown action identity
  | .ok result => connectorAnswered action identity decision started result

/-- `execute`, after `prepare`: `begin` is called whatever record it returns. -/
def executePrepared (action : SourceActionPlan) (identity : RequestIdentity)
    (decision : PolicyDecision) (started : DateTime) (record : DurableActionRecord) :
    GatewayProgram StoredReceipt :=
  let begun : GatewayProgram StoredReceipt := do
    let _ ← transaction (.begin action started)
    dispatch action identity decision started
  match record.state, record.receipt with
  | .executed, some receipt => replay action identity started receipt
  | _, _ => begun

/-- `execute`, after its checks. -/
def executeChecked (action : SourceActionPlan) (identity : RequestIdentity)
    (decision : PolicyDecision) (started : DateTime) : GatewayProgram StoredReceipt := do
  let record ← transaction (.prepare action decision.decisionId started)
  executePrepared action identity decision started record

/-- `execute`. -/
def execute (action : SourceActionPlan) (preview : ActionPreview) (identity : RequestIdentity)
    (approval : Option ActionApproval) : GatewayProgram StoredReceipt := do
  let (started, decision) ← passGates action preview identity approval
  executeChecked action identity decision started

/-- The answer proves that the action was applied. -/
def proves (result : PyValue) : Bool :=
  result.isMapping && result.flagged "applied" && result.flagged "postconditions_met"

/-- The end of `reconcile`, once the source has answered. -/
def reconciled (action : SourceActionPlan) (identity : RequestIdentity)
    (decision : PolicyDecision) (startedAt : DateTime) (result : PyValue) :
    GatewayProgram StoredReceipt :=
  if proves result then do
    let completed ← now
    let version ← Program.ofExcept (sourceVersion result)
    let audit ← append ActionState.recovered.value action.actionId completed
      [("source_version", .str version)]
    let receipt : Receipt := ⟨"receipt:" ++ action.actionId ++ ":recovered", action.actionId,
      action.digest, action.idempotencyKey, .recovered, startedAt, completed, version,
      decision.decisionId, audit.digest, none⟩
    let _ ← transaction (.complete action receipt completed)
    emit "recovered" action identity [("source_version", .str version)]
    return receipt.stored
  else do
    let failed ← now
    let _ ← transaction (.requireReconciliation action failed "source-outcome-unresolved")
    .raise (.actionOutcomeUnknown "source could not prove whether the action was applied")

/-- The question `reconcile` asks the source. -/
def askSource (action : SourceActionPlan) (identity : RequestIdentity)
    (decision : PolicyDecision) (startedAt : DateTime) : GatewayProgram StoredReceipt := do
  let handle ← connector action.sourceId
  if handle.hasReconcile then do
    let result ← await (.reconcile action.sourceId
      ⟨action.actionId, action.idempotencyKey, action.digest⟩)
    reconciled action identity decision startedAt result
  else .raise (.actionOutcomeUnknown "connector does not expose source idempotency reconciliation")

/-- `reconcile`, after its authorization and with the record it read. -/
def reconcileRecord (action : SourceActionPlan) (identity : RequestIdentity)
    (decision : PolicyDecision) (found : Option DurableActionRecord) :
    GatewayProgram StoredReceipt :=
  match found with
  | none => .raise (.idempotencyConflict Journal.missingMessage)
  | some record =>
    match action.checkDigest record.actionDigest Journal.missingMessage with
    | .error error => .raise error
    | .ok _ =>
      match record.state, record.receipt with
      | .executed, some receipt => return receipt
      | .executing, _ => askSource action identity decision record.startedAt
      | .reconciliationRequired, _ => askSource action identity decision record.startedAt
      | state, _ => .raise (.actionOutcomeUnknown
          ("action state " ++ state.value ++ " cannot be reconciled as successful"))

/-- `reconcile`. -/
def reconcile (action : SourceActionPlan) (identity : RequestIdentity) :
    GatewayProgram StoredReceipt := do
  let decision ← authorize action identity "reconcile"
  if decision.allowed then do
    let found : Except ActionError (Option DurableActionRecord) ← ask (.get action.binding)
    let record ← Program.ofExcept found
    reconcileRecord action identity decision record
  else .raise (.policyDenied decision)

end DurableActionGateway

/-- The surroundings answer so: the clock tells its time zone, and the version that the answer to a
mutation names can be written, if the answer is a success. -/
def GatewayOp.Tells : (op : GatewayOp) → op.Reply → Prop
  | .now, time => DateTime.aware time = true
  | .await (.mutate _ _), .ok result => ActionGateway.versioned result = true
  | _, _ => True

/-! ## Calls of a gateway of either class -/

/-- The class of a gateway. -/
inductive GatewayKind
  | action
  | durable

/-- The plan that compensates an action, as `compensate` derives it. -/
def SourceActionPlan.compensating (original : SourceActionPlan) (spec : CompensationSpec) :
    SourceActionPlan where
  actionId := original.actionId ++ ":compensate"
  sourceId := original.sourceId
  assetId := original.assetId
  operation := spec.operation
  parameters := spec.parameters
  preconditions := spec.preconditions
  idempotencyKey := original.idempotencyKey ++ ":compensate"
  risk := .medium
  approvalMode := .none
  purpose := "compensate " ++ original.actionId
  compensation := none
  identity := by
    have named := original.identity
    simp only [List.forall_mem_cons] at named
    simp [named.2.1, named.2.2.1, spec.required.1]
  content := spec.required.2
  approval := by simp

/-- The states of a receipt that can be compensated. -/
def compensable : ActionState → Bool
  | .executed => true
  | .recovered => true
  | .alreadyExecuted => true
  | _ => false

section Calls

variable [Stdlib]

open ActionGateway

/-- `execute` of a class, after its checks. -/
def GatewayKind.executeChecked : GatewayKind → SourceActionPlan → RequestIdentity →
    PolicyDecision → DateTime → GatewayProgram StoredReceipt
  | .action => ActionGateway.executeChecked
  | .durable => DurableActionGateway.executeChecked

/-- `execute` of a class. -/
def GatewayKind.execute : GatewayKind → SourceActionPlan → ActionPreview → RequestIdentity →
    Option ActionApproval → GatewayProgram StoredReceipt
  | .action => ActionGateway.execute
  | .durable => DurableActionGateway.execute

/-- The default `ttl` of a preview, five minutes. -/
def defaultTtl : Int := 300000000

/-- `compensate` up to the preview of the derived plan. -/
def previewCompensation (original : SourceActionPlan) (spec : CompensationSpec)
    (receipt : StoredReceipt) (identity : RequestIdentity) (approval : Option ActionApproval) :
    GatewayProgram ActionPreview := do
  let _ ← Program.ofExcept original.takeDigest
  if isDigest receipt.actionDigest = false then
    .raise (.valueError "receipt is not bound to the source action being compensated")
  else if compensable receipt.state = false then
    .raise (.valueError "only a successful source action can be compensated")
  else do
    let asked ← now
    validateApproval original approval identity asked true
    preview (original.compensating spec) identity defaultTtl
where
  /-- `receipt.action_digest != original.digest` is false. -/
  isDigest : Json.Value → Bool
    | .str text => text == original.digest
    | _ => false

/-- `compensate` after the execution of the derived plan. -/
def recordCompensation (original : SourceActionPlan) (receipt compensated : StoredReceipt) :
    GatewayProgram StoredReceipt := do
  let completed ← now
  let audit ← append "compensated" original.actionId completed
    [("compensation_receipt_id", compensated.receiptId)]
  return { compensated with
    state := .compensated
    auditDigest := .str audit.digest
    compensationOf := some receipt.receiptId }

/-- `compensate`. -/
def GatewayKind.compensate (kind : GatewayKind) (original : SourceActionPlan)
    (receipt : StoredReceipt) (identity : RequestIdentity) (approval : Option ActionApproval) :
    GatewayProgram StoredReceipt :=
  match original.compensation with
  | none => .raise (.valueError "source action has no declared compensation")
  | some spec => do
    let preview ← previewCompensation original spec receipt identity approval
    let compensated ← kind.execute (original.compensating spec) preview identity none
    recordCompensation original receipt compensated

/-- A call of a gateway method. -/
inductive GatewayCall
  | preview (action : SourceActionPlan) (identity : RequestIdentity) (ttl : Int)
  | execute (action : SourceActionPlan) (preview : ActionPreview) (identity : RequestIdentity)
    (approval : Option ActionApproval)
  | compensate (original : SourceActionPlan) (receipt : StoredReceipt) (identity : RequestIdentity)
    (approval : Option ActionApproval)
  | reconcile (action : SourceActionPlan) (identity : RequestIdentity)

/-- What a method returns. -/
inductive Returned
  | preview (preview : ActionPreview)
  | receipt (receipt : StoredReceipt)

/-- The coroutine of a call; `reconcile` is a method of the durable class only. -/
def GatewayCall.program (kind : GatewayKind) : GatewayCall → GatewayProgram Returned
  | .preview action identity ttl => do
    let shown ← ActionGateway.preview action identity ttl
    return .preview shown
  | .execute action shown identity approval => do
    let receipt ← kind.execute action shown identity approval
    return .receipt receipt
  | .compensate original receipt identity approval => do
    let compensated ← kind.compensate original receipt identity approval
    return .receipt compensated
  | .reconcile action identity =>
    match kind with
    | .durable => do
      let receipt ← DurableActionGateway.reconcile action identity
      return .receipt receipt
    | .action => .raise (.other "object has no attribute 'reconcile'")

/-- A call made on one gateway object. -/
structure Owner where
  gateway : Nat
  call : GatewayCall

/-- Gateway objects, each of a class, over one journal. -/
def gateways (key : IntegrityKey) (kinds : Nat → GatewayKind) :
    Machine gatewaySignature ActionError Returned Owner Shared where
  program owner := owner.call.program (kinds owner.gateway)
  perform owner := perform key owner.gateway
  restart := Shared.reopen

end Calls

end DataHarness
