import DataHarness.Gateway.Dispatch
import DataHarness.Saga.Coordinator

/-!
# Failures of a saga

`run` handles the failures it lists and leaves every other exception to its caller. A step that
fails in one of the listed ways is named in the outcome, which has the receipts of all steps that
completed, after their compensations were attempted.
-/

namespace DataHarness

open Effect

/-- The call that compensates a completed step. -/
def CompletedStep.compensation (identity : RequestIdentity) (completed : CompletedStep) :
    GatewayCall :=
  .compensate completed.1.action completed.2 identity completed.1.approval

/-- Completed steps were compensated in the reverse order, all of them or up to one whose
compensation failed. -/
def Attempted (identity : RequestIdentity) (done : List CompletedStep)
    (activities : List Activity) : Prop :=
  ∃ attempted left, done.reverse = attempted ++ left ∧
    activities.map Activity.call = attempted.map (CompletedStep.compensation identity) ∧
      (left = [] ∨ ∃ last error, activities.getLast? = some last ∧ last.outcome = .error error ∧
        error.controlled = true)

/-- An outcome is that of a saga whose steps all completed. -/
structure AllCompleted (identity : RequestIdentity) (steps : List ActionSagaStep)
    (activities : List Activity) (outcome : ActionSagaOutcome) : Prop where
  state : outcome.state = .completed
  receipts : ∃ done, CompletesAll identity done activities ∧ done.map Prod.fst = steps ∧
    outcome.receipts = done.map Prod.snd

/-- An outcome names the step that failed after others completed, has their receipts, and comes
after their compensations were attempted. -/
def NamesFailure (identity : RequestIdentity) (steps : List ActionSagaStep)
    (activities : List Activity) (outcome : ActionSagaOutcome) : Prop :=
  ∃ done step later error forward failing backward, steps = done.map Prod.fst ++ step :: later ∧
    activities = forward ++ failing ++ backward ∧ CompletesAll identity done forward ∧
      Fails identity step error failing ∧ error.controlled = true ∧
        outcome.failedActionId = some step.action.actionId ∧
          outcome.receipts = done.map Prod.snd ∧ Attempted identity done backward

section Failures

variable {identity : RequestIdentity} {done : List CompletedStep} {failedActionId : String}
  {activities : List Activity}

/-- Compensations in order are calls in order. -/
theorem CompensatesAll.calls {undone : List CompletedStep} {receipts : List StoredReceipt}
    (compensates : CompensatesAll identity undone activities receipts) :
    activities.map Activity.call = undone.map (CompletedStep.compensation identity) := by
  induction compensates with
  | nil => rfl
  | cons first _ ih => rw [List.map_cons, List.map_cons, first.call, ih]; rfl

/-- Compensations in order and one that raised are calls in order. -/
theorem CompensatesAll.calls_snoc {undone : List CompletedStep} {next : CompletedStep}
    {activity : Activity} {receipts : List StoredReceipt} {outcome : Except ActionError Returned}
    (compensates : CompensatesAll identity undone activities receipts)
    (last : Compensates identity next outcome activity) :
    (activities ++ [activity]).map Activity.call =
      (undone ++ [next]).map (CompletedStep.compensation identity) := by
  rw [List.map_append, List.map_append, compensates.calls]
  simp [last.call, CompletedStep.compensation]

/-- Compensations that stopped at one that raised were attempted. -/
theorem attempted_of_stopped {undone left : List CompletedStep} {next : CompletedStep}
    {activity : Activity} {receipts : List StoredReceipt} {error : ActionError}
    (order : done.reverse = undone ++ next :: left)
    (compensates : CompensatesAll identity undone activities receipts)
    (stopped : Compensates identity next (.error error) activity)
    (caught : error.controlled = true) : Attempted identity done (activities ++ [activity]) := by
  have ends : (activities ++ [activity]).getLast? = some activity := by simp
  exact ⟨undone ++ [next], left, by simp [order], compensates.calls_snoc stopped,
    .inr ⟨activity, error, ends, stopped.outcome, caught⟩⟩

/-- The handler of a failed step names it, or raises what it does not catch. -/
theorem RollsBack.names {outcome : Except ActionError ActionSagaOutcome}
    (rolled : RollsBack identity done failedActionId activities outcome) :
    match outcome with
    | .ok outcome => outcome.failedActionId = some failedActionId ∧
        outcome.receipts = done.map Prod.snd ∧ Attempted identity done activities
    | .error error => error.controlled = false ∧
        ∃ last, activities.getLast? = some last ∧ last.outcome = .error error := by
  cases rolled with
  | all compensates =>
    exact ⟨rfl, rfl, done.reverse, [], by simp, compensates.calls, .inl rfl⟩
  | stopped order compensates stopped caught =>
    exact ⟨rfl, rfl, attempted_of_stopped order compensates stopped caught⟩
  | raised _ _ raised uncaught => exact ⟨uncaught, _, by simp, raised.outcome⟩

/-- A step that fails raised in its last call. -/
theorem Fails.last {step : ActionSagaStep} {error : ActionError}
    (fails : Fails identity step error activities) :
    ∃ last, activities.getLast? = some last ∧ last.outcome = .error error := by
  cases fails with
  | preview _ ended => exact ⟨_, rfl, ended⟩
  | execute _ _ _ ended => exact ⟨_, rfl, ended⟩

/-- The last of more activities is the last of those. -/
theorem getLast?_append_of_some {front back : List Activity} {last : Activity}
    (ends : back.getLast? = some last) : (front ++ back).getLast? = some last := by
  rw [List.getLast?_append, ends, Option.some_or]

/-- A saga of some steps runs to its end from every state of its gateway. An outcome it returns is
that of all steps completed, or names the step that failed; an exception it raises is not one of
those it handles, and is what its last call raised. -/
theorem saga_names_failure [Stdlib] (key : IntegrityKey) (kind : GatewayKind) (gateway : Nat)
    (identity : RequestIdentity) {steps : List ActionSagaStep} (some : steps ≠ [])
    (before : Shared) :
    (∃ activities outcome after, Runs (sagaSemantics key kind gateway)
      (ActionSagaCoordinator.run identity steps) before activities outcome after) ∧
    ∀ activities outcome after, Runs (sagaSemantics key kind gateway)
        (ActionSagaCoordinator.run identity steps) before activities outcome after →
      match outcome with
      | .ok outcome => AllCompleted identity steps activities outcome ∨
          NamesFailure identity steps activities outcome
      | .error error => error.controlled = false ∧
          ∃ last, activities.getLast? = .some last ∧ last.outcome = .error error := by
  refine ⟨⟨_, _, _, evaluateSaga_runs key kind gateway (obliging (.ok successful)) identity steps
    before⟩, ?_⟩
  intro activities outcome after ran
  cases run_report (sagaSemantics_reporting _ _ _) some ran with
  | completed completes same => exact .inl ⟨rfl, _, completes, same, rfl⟩
  | raised _ _ fails uncaught =>
    obtain ⟨last, ends, raised⟩ := fails.last
    exact ⟨uncaught, last, getLast?_append_of_some ends, raised⟩
  | @rolledBack done step later forward failing backward error outcome completes same fails caught
      rolled =>
    have named := rolled.names
    cases outcome with
    | ok outcome =>
      obtain ⟨id, receipts, attempted⟩ := named
      exact .inr ⟨done, step, later, error, forward, failing, backward, same, rfl, completes, fails,
        caught, id, receipts, attempted⟩
    | error error =>
      obtain ⟨uncaught, last, ends, raised⟩ := named
      exact ⟨uncaught, last, getLast?_append_of_some ends, raised⟩

/-- No steps are completed by no calls. -/
theorem CompletesAll.of_nil (completes : CompletesAll identity [] activities) :
    activities = [] := by
  generalize same : ([] : List CompletedStep) = done at completes
  cases completes with
  | nil => rfl
  | snoc => simp at same

/-- A saga that raised after more than two calls of its gateway had completed a step. -/
theorem completed_of_raised [Stdlib] {key : IntegrityKey} {kind : GatewayKind} {gateway : Nat}
    {steps : List ActionSagaStep} (some : steps ≠ []) {before after : Shared} {error : ActionError}
    (ran : Runs (sagaSemantics key kind gateway) (ActionSagaCoordinator.run identity steps) before
      activities (.error error) after) (long : 2 < activities.length) :
    ∃ done forward rest, activities = forward ++ rest ∧ CompletesAll identity done forward ∧
      done ≠ [] := by
  cases run_report (sagaSemantics_reporting _ _ _) some ran with
  | @raised done step later forward failing _ completes same fails uncaught =>
    refine ⟨done, forward, failing, rfl, completes, ?_⟩
    intro none
    subst none
    rw [completes.of_nil] at long
    cases fails <;> simp at long
  | @rolledBack done step later forward failing backward _ _ completes same fails caught rolled =>
    refine ⟨done, forward, failing ++ backward, by simp, completes, ?_⟩
    intro none
    subst none
    cases rolled with
    | raised order => simp at order

end Failures

/-! ## Small sagas -/

/-- A step of a plan that needs no approval. -/
abbrev SourceActionPlan.step (action : SourceActionPlan) : ActionSagaStep := ⟨action, none⟩

/-- A plan for a source that has no connector. -/
def unregistered : SourceActionPlan :=
  { SourceActionPlan.small "second" "second" (by decide) with
    sourceId := "absent"
    identity := by decide }

/-- A plan for a source whose connector has no idempotency keys. -/
def keyless : SourceActionPlan :=
  { SourceActionPlan.small "second" "second" (by decide) with
    sourceId := "legacy"
    identity := by decide }

/-- A registry with two connectors, only one of them with idempotency keys, whose mutations
succeed. -/
def twoConnectors : World gatewaySignature
  | .connector sourceId =>
    if sourceId = "erp" then .ok ⟨true, true⟩
    else if sourceId = "legacy" then .ok ⟨false, true⟩
    else .error (.keyError ("unknown connector: " ++ sourceId))
  | op => obliging (.ok successful) op

/-- An evaluated saga that passes a check is a run that does. -/
theorem evaluated [Stdlib] {key : IntegrityKey} {kind : GatewayKind} {gateway : Nat}
    {world : World gatewaySignature} {identity : RequestIdentity} {steps : List ActionSagaStep}
    {before : Shared} (check : List Activity → Except ActionError ActionSagaOutcome → Bool)
    (passed : check (evaluateSaga key kind gateway world identity steps before).1
      (evaluateSaga key kind gateway world identity steps before).2.1 = true) :
    ∃ activities outcome after, Runs (sagaSemantics key kind gateway)
      (ActionSagaCoordinator.run identity steps) before activities outcome after ∧
        check activities outcome = true :=
  ⟨_, _, _, evaluateSaga_runs key kind gateway world identity steps before, passed⟩

/-- The saga ended with a `KeyError` after more than the calls of one step. -/
def raisedKeyError (message : String) (activities : List Activity) :
    Except ActionError ActionSagaOutcome → Bool
  | .error (.keyError text) => text == message && decide (2 < activities.length)
  | _ => false

/-- An unregistered source is no failure that a saga handles: the first step stays completed. -/
theorem saga_raises_keyError : letI := Stdlib.transparent
    ∃ activities after done forward rest,
      Runs (sagaSemantics .small .action 0)
        (ActionSagaCoordinator.run .small [shared.step, unregistered.step]) .initial activities
        (.error (.keyError "unknown connector: absent")) after ∧
      activities = forward ++ rest ∧ CompletesAll .small done forward ∧ done ≠ [] := by
  let := Stdlib.transparent
  obtain ⟨activities, outcome, after, ran, seen⟩ := @evaluated _ .small .action 0 twoConnectors .small
    [shared.step, unregistered.step] .initial (raisedKeyError "unknown connector: absent")
    (by decide +kernel)
  unfold raisedKeyError at seen
  split at seen
  · rw [Bool.and_eq_true, beq_iff_eq, decide_eq_true_eq] at seen
    obtain ⟨rfl, long⟩ := seen
    obtain ⟨done, forward, rest, same, completes, some⟩ := completed_of_raised (by simp) ran long
    exact ⟨activities, after, done, forward, rest, ran, same, completes, some⟩
  · cases seen

/-- The saga returned in a state. -/
def returnedIn (state : SagaState) (_ : List Activity) :
    Except ActionError ActionSagaOutcome → Bool
  | .ok outcome => decide (outcome.state = state)
  | .error _ => false

/-- A saga names its second step, whose source has no idempotency keys. -/
theorem saga_names_keyless : letI := Stdlib.transparent
    ∃ activities outcome after, Runs (sagaSemantics .small .action 0)
        (ActionSagaCoordinator.run .small [shared.step, keyless.step]) .initial activities
        (.ok outcome) after ∧
      NamesFailure .small [shared.step, keyless.step] activities outcome := by
  let := Stdlib.transparent
  obtain ⟨activities, outcome, after, ran, seen⟩ := @evaluated _ .small .action 0 twoConnectors
    .small [shared.step, keyless.step] .initial (returnedIn .compensationFailed)
    (by decide +kernel)
  cases outcome with
  | error error => cases seen
  | ok outcome =>
    have state : outcome.state = .compensationFailed := of_decide_eq_true seen
    have named := (saga_names_failure .small .action 0 .small
      (List.cons_ne_nil shared.step [keyless.step]) .initial).2 activities _ after ran
    rcases named with completed | names
    · exact absurd (completed.state.symm.trans state) (by simp)
    · exact ⟨activities, outcome, after, ran, names⟩

end DataHarness
