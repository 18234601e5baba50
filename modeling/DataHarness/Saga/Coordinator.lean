import DataHarness.Gateway.Sequence

/-!
# The saga coordinator

`ActionSagaCoordinator.run` as a program over the methods of its gateway. Each method call is one
activity of the gateway. What a run of the coordinator can do is said once (`run_report`): it
completes its steps in order, and at the first that fails in a controlled way compensates the
completed ones, the last one first.
-/

namespace DataHarness

open Effect

/-- `ActionSagaStep`. -/
structure ActionSagaStep where
  action : SourceActionPlan
  approval : Option ActionApproval

/-- `SagaState`. -/
inductive SagaState
  | completed
  | compensated
  | failed
  | compensationFailed
deriving DecidableEq

/-- `ActionSagaOutcome`. -/
structure ActionSagaOutcome where
  state : SagaState
  receipts : List StoredReceipt
  compensationReceipts : List StoredReceipt
  failedActionId : Option String

/-- `_controlled_failures`. -/
def ActionError.controlled : ActionError → Bool
  | .actionExecutionFailed _ => true
  | .approvalRequired _ => true
  | .idempotencyConflict _ => true
  | .policyDenied _ => true
  | .previewMismatch _ => true
  | .valueError _ => true
  | _ => false

/-- What a gateway method returns or raises. -/
def GatewayCall.Reply : GatewayCall → Type
  | .preview _ _ _ => Except ActionError ActionPreview
  | .execute _ _ _ _ => Except ActionError StoredReceipt
  | .compensate _ _ _ _ => Except ActionError StoredReceipt
  | .reconcile _ _ => Except ActionError StoredReceipt

/-- The outcome of a call with a reply. -/
def GatewayCall.returned : (call : GatewayCall) → call.Reply → Except ActionError Returned
  | .preview _ _ _, reply => Except.map .preview reply
  | .execute _ _ _ _, reply => Except.map .receipt reply
  | .compensate _ _ _ _, reply => Except.map .receipt reply
  | .reconcile _ _, reply => Except.map .receipt reply

/-- The methods of a gateway with their replies. -/
abbrev sagaSignature : Signature := ⟨GatewayCall, GatewayCall.Reply⟩

/-- A coroutine that awaits methods of a gateway. -/
abbrev SagaProgram (α : Type) : Type := Program sagaSignature ActionError α

/-- A step that completed, with its receipt. -/
abbrev CompletedStep : Type := ActionSagaStep × StoredReceipt

namespace ActionSagaCoordinator

/-- Await a method of the gateway. -/
def await (call : GatewayCall) : SagaProgram call.Reply := Program.perform (S := sagaSignature) call

/-- The `try` block of one step. -/
def performStep (identity : RequestIdentity) (step : ActionSagaStep) :
    SagaProgram StoredReceipt := do
  let previewed : Except ActionError ActionPreview ←
    await (.preview step.action identity defaultTtl)
  let preview ← Program.ofExcept previewed
  let executed : Except ActionError StoredReceipt ←
    await (.execute step.action preview identity step.approval)
  Program.ofExcept executed

/-- The `try` block of one compensation. -/
def compensateStep (identity : RequestIdentity) (completed : CompletedStep) :
    SagaProgram StoredReceipt := do
  let compensated : Except ActionError StoredReceipt ←
    await (.compensate completed.1.action completed.2 identity completed.1.approval)
  Program.ofExcept compensated

/-- The handler of a failed step: the completed steps that are left to compensate, the next one
first, and the compensations so far. -/
def rollBack (identity : RequestIdentity) (completed : List CompletedStep)
    (failedActionId : String) :
    List CompletedStep → List StoredReceipt → SagaProgram ActionSagaOutcome
  | [], compensations =>
    let state := if completed.isEmpty then SagaState.failed else .compensated
    return ⟨state, completed.map Prod.snd, compensations, some failedActionId⟩
  | next :: left, compensations => do
    match ← (compensateStep identity next).attempt ActionError.controlled with
    | .error _ =>
      return ⟨.compensationFailed, completed.map Prod.snd, compensations, some failedActionId⟩
    | .ok compensation =>
      rollBack identity completed failedActionId left (compensations ++ [compensation])

/-- The steps that are left, and the completed ones. -/
def runSteps (identity : RequestIdentity) :
    List ActionSagaStep → List CompletedStep → SagaProgram ActionSagaOutcome
  | [], completed => return ⟨.completed, completed.map Prod.snd, [], none⟩
  | step :: steps, completed => do
    match ← (performStep identity step).attempt ActionError.controlled with
    | .error _ => rollBack identity completed step.action.actionId completed.reverse []
    | .ok receipt => runSteps identity steps (completed ++ [(step, receipt)])

/-- `run`. -/
def run (identity : RequestIdentity) (steps : List ActionSagaStep) :
    SagaProgram ActionSagaOutcome :=
  if steps.isEmpty then .raise (.valueError "an action saga requires at least one step")
  else runSteps identity steps []

end ActionSagaCoordinator

/-! ## What a run reports -/

/-- The calls of a step that completed with a receipt. -/
inductive Completes (identity : RequestIdentity) (step : ActionSagaStep) (receipt : StoredReceipt) :
    List Activity → Prop
  | intro {previewing executing : Activity} {shown : ActionPreview} :
    previewing.call = .preview step.action identity defaultTtl →
      previewing.outcome = .ok (.preview shown) →
        executing.call = .execute step.action shown identity step.approval →
          executing.outcome = .ok (.receipt receipt) →
            Completes identity step receipt [previewing, executing]

/-- The calls of a step that raised an exception. -/
inductive Fails (identity : RequestIdentity) (step : ActionSagaStep) (error : ActionError) :
    List Activity → Prop
  | preview {previewing : Activity} :
    previewing.call = .preview step.action identity defaultTtl →
      previewing.outcome = .error error → Fails identity step error [previewing]
  | execute {previewing executing : Activity} {shown : ActionPreview} :
    previewing.call = .preview step.action identity defaultTtl →
      previewing.outcome = .ok (.preview shown) →
        executing.call = .execute step.action shown identity step.approval →
          executing.outcome = .error error → Fails identity step error [previewing, executing]

/-- The calls of steps that completed in order. -/
inductive CompletesAll (identity : RequestIdentity) : List CompletedStep → List Activity → Prop
  | nil : CompletesAll identity [] []
  | snoc {done : List CompletedStep} {step : ActionSagaStep} {receipt : StoredReceipt}
      {before last : List Activity} :
    CompletesAll identity done before → Completes identity step receipt last →
      CompletesAll identity (done ++ [(step, receipt)]) (before ++ last)

/-- The call that compensates a completed step, and how it ended. -/
structure Compensates (identity : RequestIdentity) (completed : CompletedStep)
    (outcome : Except ActionError Returned) (activity : Activity) : Prop where
  call : activity.call =
    .compensate completed.1.action completed.2 identity completed.1.approval
  outcome : activity.outcome = outcome

/-- The calls that compensated completed steps in order, and their receipts. -/
inductive CompensatesAll (identity : RequestIdentity) :
    List CompletedStep → List Activity → List StoredReceipt → Prop
  | nil : CompensatesAll identity [] [] []
  | cons {completed : CompletedStep} {left : List CompletedStep} {activity : Activity}
      {later : List Activity} {receipt : StoredReceipt} {receipts : List StoredReceipt} :
    Compensates identity completed (.ok (.receipt receipt)) activity →
      CompensatesAll identity left later receipts →
        CompensatesAll identity (completed :: left) (activity :: later) (receipt :: receipts)

/-- The handler of a failed step compensates every completed step, or stops at the first
compensation that raises. -/
inductive RollsBack (identity : RequestIdentity) (done : List CompletedStep)
    (failedActionId : String) : List Activity → Except ActionError ActionSagaOutcome → Prop
  | all {activities : List Activity} {receipts : List StoredReceipt} :
    CompensatesAll identity done.reverse activities receipts →
      RollsBack identity done failedActionId activities
        (.ok ⟨if done.isEmpty then .failed else .compensated, done.map Prod.snd, receipts,
          some failedActionId⟩)
  | stopped {undone left : List CompletedStep} {next : CompletedStep} {activities : List Activity}
      {activity : Activity} {receipts : List StoredReceipt} {error : ActionError} :
    done.reverse = undone ++ next :: left → CompensatesAll identity undone activities receipts →
      Compensates identity next (.error error) activity → error.controlled = true →
        RollsBack identity done failedActionId (activities ++ [activity])
          (.ok ⟨.compensationFailed, done.map Prod.snd, receipts, some failedActionId⟩)
  | raised {undone left : List CompletedStep} {next : CompletedStep} {activities : List Activity}
      {activity : Activity} {receipts : List StoredReceipt} {error : ActionError} :
    done.reverse = undone ++ next :: left → CompensatesAll identity undone activities receipts →
      Compensates identity next (.error error) activity → error.controlled = false →
        RollsBack identity done failedActionId (activities ++ [activity]) (.error error)

/-- What a run of the coordinator over some steps can do. -/
inductive SagaReport (identity : RequestIdentity) (steps : List ActionSagaStep) :
    List Activity → Except ActionError ActionSagaOutcome → Prop
  | completed {done : List CompletedStep} {forward : List Activity} :
    CompletesAll identity done forward → done.map Prod.fst = steps →
      SagaReport identity steps forward (.ok ⟨.completed, done.map Prod.snd, [], none⟩)
  | raised {done : List CompletedStep} {step : ActionSagaStep} {later : List ActionSagaStep}
      {forward failing : List Activity} {error : ActionError} :
    CompletesAll identity done forward → steps = done.map Prod.fst ++ step :: later →
      Fails identity step error failing → error.controlled = false →
        SagaReport identity steps (forward ++ failing) (.error error)
  | rolledBack {done : List CompletedStep} {step : ActionSagaStep} {later : List ActionSagaStep}
      {forward failing backward : List Activity} {error : ActionError}
      {outcome : Except ActionError ActionSagaOutcome} :
    CompletesAll identity done forward → steps = done.map Prod.fst ++ step :: later →
      Fails identity step error failing → error.controlled = true →
        RollsBack identity done step.action.actionId backward outcome →
          SagaReport identity steps (forward ++ failing ++ backward) outcome

/-! ## Runs of the coordinator -/

/-- A method call of the coordinator is one activity of its gateway. -/
def sagaSemantics [Stdlib] (key : IntegrityKey) (kind : GatewayKind) (gateway : Nat) :
    Semantics sagaSignature Shared Activity where
  acts before call activity reply after := activity.call = call ∧
    activity.Performed key kind gateway before after ∧ activity.outcome = call.returned reply

/-- The activities of a gateway tell what was called and what it returned or raised. -/
def Reporting {σ : Type} (gateway : Semantics sagaSignature σ Activity) : Prop :=
  ∀ before call activity reply after, gateway.acts before call activity reply after →
    activity.call = call ∧ activity.outcome = call.returned reply

/-- The modelled gateways report. -/
theorem sagaSemantics_reporting [Stdlib] (key : IntegrityKey) (kind : GatewayKind) (gateway : Nat) :
    Reporting (sagaSemantics key kind gateway) :=
  fun _ _ _ _ _ acts => ⟨acts.1, acts.2.2⟩

section Runs

variable {σ : Type} {gateway : Semantics sagaSignature σ Activity} (reporting : Reporting gateway)
  {identity : RequestIdentity} {before after : σ} {activities : List Activity}

open ActionSagaCoordinator

include reporting

/-- A step completes or fails. -/
theorem performStep_runs {step : ActionSagaStep} {outcome : Except ActionError StoredReceipt}
    (ran : Runs gateway (performStep identity step) before activities
      outcome after) :
    (∃ receipt, outcome = .ok receipt ∧ Completes identity step receipt activities) ∨
      ∃ error, outcome = .error error ∧ Fails identity step error activities := by
  obtain ⟨previewing, previewed, middle, later, rfl, acts, ran⟩ := ran.of_perform
  obtain ⟨called, ended⟩ := reporting _ _ _ _ _ acts
  cases previewed with
  | error error =>
    cases ran
    exact .inr ⟨error, rfl, .preview called ended⟩
  | ok shown =>
    obtain ⟨executing, executed, last, rest, rfl, acts, ran⟩ := Runs.of_perform ran
    obtain ⟨recalled, reended⟩ := reporting _ _ _ _ _ acts
    obtain ⟨rfl, rfl, -⟩ := Runs.of_ofExcept ran
    cases outcome with
    | error error => exact .inr ⟨error, rfl, .execute called ended recalled reended⟩
    | ok receipt => exact .inl ⟨receipt, rfl, .intro called ended recalled reended⟩

/-- A compensation is one call. -/
theorem compensateStep_runs {completed : CompletedStep} {outcome : Except ActionError StoredReceipt}
    (ran : Runs gateway (compensateStep identity completed) before
      activities outcome after) :
    ∃ activity, activities = [activity] ∧
      Compensates identity completed (outcome.map .receipt) activity := by
  obtain ⟨activity, compensated, middle, later, rfl, acts, ran⟩ := ran.of_perform
  obtain ⟨called, ended⟩ := reporting _ _ _ _ _ acts
  obtain ⟨rfl, rfl, -⟩ := Runs.of_ofExcept ran
  exact ⟨activity, rfl, called, ended⟩

omit reporting in
/-- One more compensation. -/
theorem CompensatesAll.snoc {undone : List CompletedStep} {past : List Activity}
    {receipts : List StoredReceipt} (sofar : CompensatesAll identity undone past receipts)
    {next : CompletedStep} {activity : Activity} {receipt : StoredReceipt}
    (compensates : Compensates identity next (.ok (.receipt receipt)) activity) :
    CompensatesAll identity (undone ++ [next]) (past ++ [activity]) (receipts ++ [receipt]) := by
  induction sofar with
  | nil => exact .cons compensates .nil
  | cons first _ ih => exact .cons first ih

/-- The handler goes on from the compensations so far. -/
theorem rollBack_runs {done left : List CompletedStep} {failedActionId : String}
    {compensations : List StoredReceipt} {outcome : Except ActionError ActionSagaOutcome}
    (ran : Runs gateway
      (rollBack identity done failedActionId left compensations) before activities outcome after)
    {undone : List CompletedStep} {past : List Activity} (order : done.reverse = undone ++ left)
    (sofar : CompensatesAll identity undone past compensations) :
    RollsBack identity done failedActionId (past ++ activities) outcome := by
  induction left generalizing before activities compensations undone past with
  | nil =>
    cases ran
    rw [List.append_nil] at order ⊢
    rw [← order] at sofar
    exact .all sofar
  | cons next left ih =>
    rcases Runs.of_handled ran with ⟨error, uncaught, rfl, tried⟩ |
      ⟨inner, first, later, middle, rfl, tried, caught, onward⟩
    · obtain ⟨activity, rfl, compensates⟩ := compensateStep_runs reporting tried
      exact .raised order sofar compensates uncaught
    · obtain ⟨activity, rfl, compensates⟩ := compensateStep_runs reporting tried
      cases inner with
      | error error =>
        cases onward
        exact .stopped order sofar compensates (caught error rfl)
      | ok receipt =>
        have grown := ih onward (by rw [order]; simp) (sofar.snoc compensates)
        rwa [List.append_assoc] at grown

/-- The coordinator goes on from the steps completed so far. -/
theorem runSteps_report {steps : List ActionSagaStep} {done : List CompletedStep}
    {outcome : Except ActionError ActionSagaOutcome}
    (ran : Runs gateway (runSteps identity steps done) before activities
      outcome after) {past : List Activity} (sofar : CompletesAll identity done past) :
    SagaReport identity (done.map Prod.fst ++ steps) (past ++ activities) outcome := by
  induction steps generalizing before activities done past with
  | nil =>
    cases ran
    rw [List.append_nil, List.append_nil]
    exact .completed sofar rfl
  | cons step steps ih =>
    rcases Runs.of_handled ran with ⟨error, uncaught, rfl, tried⟩ |
      ⟨inner, first, later, middle, rfl, tried, caught, onward⟩
    · rcases performStep_runs reporting tried with ⟨receipt, same, -⟩ | ⟨raised, same, fails⟩
      · cases same
      · cases same
        exact .raised sofar rfl fails uncaught
    · rcases performStep_runs reporting tried with ⟨receipt, rfl, completes⟩ | ⟨error, rfl, fails⟩
      · have grown := ih onward (sofar.snoc completes)
        simpa [List.append_assoc] using grown
      · rw [← List.append_assoc]
        exact .rolledBack sofar rfl fails (caught error rfl) (rollBack_runs reporting onward rfl .nil)

/-- What a run of the coordinator can do. -/
theorem run_report {steps : List ActionSagaStep} (some : steps ≠ [])
    {outcome : Except ActionError ActionSagaOutcome}
    (ran : Runs gateway (run identity steps) before activities outcome
      after) : SagaReport identity steps activities outcome := by
  unfold run at ran
  rw [if_neg (by simpa using some)] at ran
  exact runSteps_report reporting ran .nil

end Runs

/-! ## Evaluation -/

/-- The reply that an outcome of a call is. -/
def GatewayCall.reply : (call : GatewayCall) → Except ActionError Returned → call.Reply
  | .preview _ _ _, .ok (.preview shown) => .ok shown
  | .execute _ _ _ _, .ok (.receipt receipt) => .ok receipt
  | .compensate _ _ _ _, .ok (.receipt receipt) => .ok receipt
  | .reconcile _ _, .ok (.receipt receipt) => .ok receipt
  | .preview _ _ _, .error error => .error error
  | .execute _ _ _ _, .error error => .error error
  | .compensate _ _ _ _, .error error => .error error
  | .reconcile _ _, .error error => .error error
  | .preview _ _ _, .ok (.receipt _) => .error .assertionError
  | .execute _ _ _ _, .ok (.preview _) => .error .assertionError
  | .compensate _ _ _ _, .ok (.preview _) => .error .assertionError
  | .reconcile _ _, .ok (.preview _) => .error .assertionError

/-- A reply is read back from the outcome it is. -/
@[simp] theorem GatewayCall.reply_returned (call : GatewayCall) (reply : call.Reply) :
    call.reply (call.returned reply) = reply := by
  cases call <;> cases reply <;> rfl

section Evaluation

variable [Stdlib]

/-- An activity ends with a reply of its call. -/
theorem Activity.Performed.returned {key : IntegrityKey} {kind : GatewayKind} {gateway : Nat}
    {activity : Activity} {before after : Shared}
    (performed : activity.Performed key kind gateway before after) :
    activity.outcome = activity.call.returned (activity.call.reply activity.outcome) := by
  have shaped : ∃ reply, activity.outcome = activity.call.returned reply := by
    obtain ⟨call, events, outcome⟩ := activity
    cases call with
    | preview action identity ttl =>
      obtain ⟨reply, -, same⟩ := Runs.of_map performed
      exact ⟨reply, same⟩
    | execute action shown identity approval =>
      obtain ⟨reply, -, same⟩ := Runs.of_map performed
      exact ⟨reply, same⟩
    | compensate original receipt identity approval =>
      obtain ⟨reply, -, same⟩ := Runs.of_map performed
      exact ⟨reply, same⟩
    | reconcile action identity =>
      cases kind with
      | durable =>
        obtain ⟨reply, -, same⟩ := Runs.of_map performed
        exact ⟨reply, same⟩
      | action =>
        cases performed
        exact ⟨.error _, rfl⟩
  obtain ⟨reply, same⟩ := shaped
  rw [same, GatewayCall.reply_returned]

/-- Perform a call on a gateway in surroundings that answer every call of a kind the same way. -/
def performCall (key : IntegrityKey) (kind : GatewayKind) (gateway : Nat)
    (world : World gatewaySignature) (before : Shared) (call : GatewayCall) :
    Activity × call.Reply × Shared :=
  let ran := (call.program kind).evaluate (fun shared op =>
    let answer := perform key gateway world shared op
    (⟨op, answer.1⟩, answer.1, answer.2)) before
  (⟨call, ran.1, ran.2.1⟩, call.reply ran.2.1, ran.2.2)

/-- A performed call is an activity. -/
theorem performCall_performed (key : IntegrityKey) (kind : GatewayKind) (gateway : Nat)
    (world : World gatewaySignature) (before : Shared) (call : GatewayCall) :
    (performCall key kind gateway world before call).1.Performed key kind gateway before
      (performCall key kind gateway world before call).2.2 := by
  apply Runs.of_evaluate
  intro shared op
  exact ⟨rfl, world, rfl⟩

/-- Run the coordinator in such surroundings. -/
def evaluateSaga (key : IntegrityKey) (kind : GatewayKind) (gateway : Nat)
    (world : World gatewaySignature) (identity : RequestIdentity) (steps : List ActionSagaStep)
    (before : Shared) : List Activity × Except ActionError ActionSagaOutcome × Shared :=
  (ActionSagaCoordinator.run identity steps).evaluate (performCall key kind gateway world) before

/-- An evaluated saga is a run, so the coordinator runs to its end from every state. -/
theorem evaluateSaga_runs (key : IntegrityKey) (kind : GatewayKind) (gateway : Nat)
    (world : World gatewaySignature) (identity : RequestIdentity) (steps : List ActionSagaStep)
    (before : Shared) :
    Runs (sagaSemantics key kind gateway) (ActionSagaCoordinator.run identity steps) before
      (evaluateSaga key kind gateway world identity steps before).1
      (evaluateSaga key kind gateway world identity steps before).2.1
      (evaluateSaga key kind gateway world identity steps before).2.2 := by
  apply Runs.of_evaluate
  intro shared call
  have performed := performCall_performed key kind gateway world shared call
  exact ⟨rfl, performed, performed.returned⟩

end Evaluation

end DataHarness
