import DataHarness.Saga.Failures

/-!
# The outcome of a saga

The gateway of a saga may be any: it answers each call of a method at will, with what was called
before in view. Where what it raises is always a failure that the saga handles, the outcome is
settled by the position of the first step that fails, and by the first compensation that does.
-/

namespace DataHarness

open Effect

/-- What a gateway answers to a call after the calls it had. -/
abbrev GatewayBehaviour : Type := List Activity → (call : GatewayCall) → call.Reply

/-- The gateway raises only what a saga handles. -/
def GatewayBehaviour.Controlled (behaviour : GatewayBehaviour) : Prop :=
  ∀ (past : List Activity) (call : GatewayCall) (error : ActionError),
    call.returned (behaviour past call) = .error error → error.controlled = true

/-- A call of a gateway that behaves in some way, after the calls it had. -/
def GatewayBehaviour.act (behaviour : GatewayBehaviour) (past : List Activity)
    (call : GatewayCall) : Activity × call.Reply × List Activity :=
  let activity : Activity := ⟨call, [], call.returned (behaviour past call)⟩
  (activity, behaviour past call, past ++ [activity])

/-- A gateway that behaves in some way. -/
def GatewayBehaviour.semantics (behaviour : GatewayBehaviour) :
    Semantics sagaSignature (List Activity) Activity where
  acts past call activity reply after := (activity, reply, after) = behaviour.act past call

/-- Run the coordinator on a gateway that behaves in some way: the calls it made and its
outcome. -/
def GatewayBehaviour.run (behaviour : GatewayBehaviour) (identity : RequestIdentity)
    (steps : List ActionSagaStep) : List Activity × Except ActionError ActionSagaOutcome :=
  let ran := (ActionSagaCoordinator.run identity steps).evaluate behaviour.act []
  (ran.1, ran.2.1)

/-! ## The specification -/

/-- The steps before a position, with the receipts they completed with. -/
abbrev completedBefore (steps : List ActionSagaStep) (receipts : List StoredReceipt) (i : Nat) :
    List CompletedStep := (steps.take i).zip receipts

/-- The steps before a position completed in order, and the step there raised. -/
structure FailsAt (identity : RequestIdentity) (steps : List ActionSagaStep) (i : Nat)
    (receipts : List StoredReceipt) (activities : List Activity) : Prop where
  inside : i < steps.length
  each : receipts.length = i
  calls : ∃ forward failing error, activities = forward ++ failing ∧
    CompletesAll identity (completedBefore steps receipts i) forward ∧
      Fails identity steps[i] error failing

/-- The calls and the outcome of a saga: it is settled by the first step that raises, and by the
first compensation that does. -/
inductive SagaSpecified (identity : RequestIdentity) (steps : List ActionSagaStep) :
    List Activity → ActionSagaOutcome → Prop
  | completed {receipts : List StoredReceipt} {activities : List Activity} :
    receipts.length = steps.length → CompletesAll identity (steps.zip receipts) activities →
      SagaSpecified identity steps activities ⟨.completed, receipts, [], none⟩
  | failed {first : ActionSagaStep} {activities : List Activity} :
    steps[0]? = some first → FailsAt identity steps 0 [] activities →
      SagaSpecified identity steps activities ⟨.failed, [], [], some first.action.actionId⟩
  | compensated {i : Nat} {step : ActionSagaStep} {receipts compensations : List StoredReceipt}
      {activities backward : List Activity} :
    0 < i → steps[i]? = some step → FailsAt identity steps i receipts activities →
      CompensatesAll identity (completedBefore steps receipts i).reverse backward compensations →
        compensations.length = i →
          SagaSpecified identity steps (activities ++ backward)
            ⟨.compensated, receipts, compensations, some step.action.actionId⟩
  | compensationFailed {i j : Nat} {step : ActionSagaStep} {next : CompletedStep}
      {receipts compensations : List StoredReceipt} {activities backward : List Activity}
      {last : Activity} {error : ActionError} :
    j < i → steps[i]? = some step → FailsAt identity steps i receipts activities →
      CompensatesAll identity ((completedBefore steps receipts i).reverse.take j) backward
          compensations →
        compensations.length = j →
          (completedBefore steps receipts i).reverse[j]? = some next →
            Compensates identity next (.error error) last →
              SagaSpecified identity steps (activities ++ (backward ++ [last]))
                ⟨.compensationFailed, receipts, compensations, some step.action.actionId⟩

/-! ## The coordinator meets it -/

section Outcome

variable {identity : RequestIdentity} {steps : List ActionSagaStep} {activities : List Activity}

/-- Compensations come with a receipt each. -/
theorem CompensatesAll.length_eq {undone : List CompletedStep} {receipts : List StoredReceipt}
    (compensates : CompensatesAll identity undone activities receipts) :
    receipts.length = undone.length := by
  induction compensates with
  | nil => rfl
  | cons _ _ ih => rw [List.length_cons, List.length_cons, ih]

/-- The completed steps are those before the one that failed, with their receipts. -/
theorem completedBefore_eq {done : List CompletedStep} {later : List ActionSagaStep}
    (order : steps = done.map Prod.fst ++ later) :
    completedBefore steps (done.map Prod.snd) done.length = done := by
  have front : steps.take done.length = done.map Prod.fst := by
    rw [order, List.take_left' (List.length_map _)]
  rw [completedBefore, front]
  exact (List.zip_of_prod rfl rfl).symm

/-- The step after the completed ones. -/
theorem getElem?_of_order {done : List CompletedStep} {step : ActionSagaStep}
    {later : List ActionSagaStep} (order : steps = done.map Prod.fst ++ step :: later) :
    steps[done.length]? = some step := by
  have long : (done.map Prod.fst).length = done.length := List.length_map _
  rw [order, ← long, List.getElem?_append_right (Nat.le_refl _)]
  simp

/-- A step that fails after others completed is the first that raises. -/
theorem FailsAt.of_fails {done : List CompletedStep} {step : ActionSagaStep}
    {later : List ActionSagaStep} {forward failing : List Activity} {error : ActionError}
    (completes : CompletesAll identity done forward)
    (order : steps = done.map Prod.fst ++ step :: later)
    (fails : Fails identity step error failing) :
    FailsAt identity steps done.length (done.map Prod.snd) (forward ++ failing) := by
  have here := getElem?_of_order order
  obtain ⟨inside, same⟩ := List.getElem?_eq_some_iff.mp here
  refine ⟨inside, List.length_map _, forward, failing, error, rfl, ?_, ?_⟩
  · rw [completedBefore_eq order]
    exact completes
  · rw [same]
    exact fails

/-- What the handler of a failed step does is specified by its compensations. -/
theorem RollsBack.specified {done : List CompletedStep} {step : ActionSagaStep}
    {later : List ActionSagaStep} {backward : List Activity} {outcome : ActionSagaOutcome}
    (rolled : RollsBack identity done step.action.actionId backward (.ok outcome))
    (order : steps = done.map Prod.fst ++ step :: later)
    (fails : FailsAt identity steps done.length (done.map Prod.snd) activities) :
    SagaSpecified identity steps (activities ++ backward) outcome := by
  have here := getElem?_of_order order
  have before := completedBefore_eq order
  cases rolled with
  | all compensates =>
    cases done with
    | nil =>
      cases compensates
      rw [List.append_nil]
      exact .failed here fails
    | cons first rest =>
      have long := compensates.length_eq
      rw [List.length_reverse] at long
      rw [← before] at compensates
      exact .compensated (Nat.succ_pos _) here fails compensates long
  | @stopped undone left next earlier last receipts error undoneOrder compensates stopped caught =>
    have long := compensates.length_eq
    have shorter : undone.length < done.length := by
      have total := congrArg List.length undoneOrder
      rw [List.length_reverse, List.length_append, List.length_cons] at total
      omega
    have taken : done.reverse.take undone.length = undone := by
      rw [undoneOrder, List.take_left]
    have following : done.reverse[undone.length]? = some next := by
      rw [undoneOrder, List.getElem?_append_right (Nat.le_refl _), Nat.sub_self]
      rfl
    exact .compensationFailed shorter here fails (by rwa [before, taken]) long
      (by rwa [before]) stopped

/-- A report with no exception that a saga leaves to its caller is specified. -/
theorem SagaReport.specified {outcome : Except ActionError ActionSagaOutcome}
    (report : SagaReport identity steps activities outcome)
    (controlled : ∀ activity ∈ activities, ∀ error, activity.outcome = .error error →
      error.controlled = true) :
    ∃ returned, outcome = .ok returned ∧ SagaSpecified identity steps activities returned := by
  cases report with
  | @completed done forward completes order =>
    have long : (done.map Prod.snd).length = steps.length := by
      rw [← order, List.length_map, List.length_map]
    have zipped : steps.zip (done.map Prod.snd) = done :=
      (List.zip_of_prod order rfl).symm
    refine ⟨_, rfl, .completed long ?_⟩
    rw [zipped]
    exact completes
  | @raised done step later forward failing error completes order fails uncaught =>
    obtain ⟨last, ends, ended⟩ := fails.last
    have among : last ∈ forward ++ failing :=
      List.mem_append_right _ (List.mem_of_getLast? ends)
    rw [controlled last among error ended] at uncaught
    cases uncaught
  | @rolledBack done step later forward failing backward error _ completes order fails caught
      rolled =>
    have failsAt := FailsAt.of_fails completes order fails
    cases outcome with
    | ok returned => exact ⟨returned, rfl, rolled.specified order failsAt⟩
    | error error =>
      obtain ⟨uncaught, last, ends, ended⟩ := rolled.names
      have among : last ∈ forward ++ failing ++ backward :=
        List.mem_append_right _ (List.mem_of_getLast? ends)
      rw [controlled last among error ended] at uncaught
      cases uncaught

/-- A gateway that behaves in some way reports. -/
theorem GatewayBehaviour.semantics_reporting (behaviour : GatewayBehaviour) :
    Reporting behaviour.semantics := by
  intro before call activity reply after acts
  have same : (activity, reply, after) = behaviour.act before call := acts
  simp only [GatewayBehaviour.act, Prod.mk.injEq] at same
  obtain ⟨rfl, rfl, -⟩ := same
  exact ⟨rfl, rfl⟩

/-- What the coordinator does with a gateway is a run of it. -/
theorem GatewayBehaviour.run_runs (behaviour : GatewayBehaviour) (identity : RequestIdentity)
    (steps : List ActionSagaStep) :
    ∃ after, Runs behaviour.semantics (ActionSagaCoordinator.run identity steps) []
      (behaviour.run identity steps).1 (behaviour.run identity steps).2 after := by
  have acts : ∀ past call, behaviour.semantics.acts past call (behaviour.act past call).1
      (behaviour.act past call).2.1 (behaviour.act past call).2.2 := fun _ _ => rfl
  exact ⟨_, Runs.of_evaluate _ acts (ActionSagaCoordinator.run identity steps) []⟩

/-- Every call of a run is answered as the gateway behaves. -/
theorem GatewayBehaviour.run_controlled {behaviour : GatewayBehaviour}
    (controlled : behaviour.Controlled) {program : SagaProgram ActionSagaOutcome}
    {past after : List Activity} {outcome : Except ActionError ActionSagaOutcome}
    (ran : Runs behaviour.semantics program past activities outcome after) :
    ∀ activity ∈ activities, ∀ error, activity.outcome = .error error →
      error.controlled = true := by
  induction ran with
  | ret => simp
  | raise => simp
  | @call call next past middle final activity reply later outcome acts _ ih =>
    have same : (activity, reply, middle) = behaviour.act past call := acts
    simp only [GatewayBehaviour.act, Prod.mk.injEq] at same
    intro other among error ended
    rcases List.mem_cons.mp among with rfl | among
    · rw [same.1] at ended
      exact controlled past call error ended
    · exact ih other among error ended

end Outcome

/-- Where the gateway raises only what a saga handles, the run of some steps returns, with the
calls and the outcome that the specification gives. -/
theorem saga_specified (identity : RequestIdentity) {steps : List ActionSagaStep}
    (some : steps ≠ []) {behaviour : GatewayBehaviour} (controlled : behaviour.Controlled) :
    ∃ outcome, (behaviour.run identity steps).2 = .ok outcome ∧
      SagaSpecified identity steps (behaviour.run identity steps).1 outcome := by
  obtain ⟨after, ran⟩ := behaviour.run_runs identity steps
  have report := run_report behaviour.semantics_reporting some ran
  exact report.specified (behaviour.run_controlled controlled ran)

/-- A plan executes, if it is not the one that fails. -/
def executeUnless [Stdlib] (actionId : String) (action : SourceActionPlan) :
    Except ActionError StoredReceipt :=
  if action.actionId = actionId then .error (.actionExecutionFailed action.smallReceipt.stored)
  else .ok action.smallReceipt.stored

/-- A gateway that shows and executes every plan but one, which fails. -/
def GatewayBehaviour.failing [Stdlib] (actionId : String) : GatewayBehaviour
  | _, .preview action _ _ => .ok action.smallPreview
  | _, .execute action _ _ _ => executeUnless actionId action
  | _, .compensate original _ _ _ => .ok original.smallReceipt.stored
  | _, .reconcile action _ => .ok action.smallReceipt.stored

/-- It raises only what a saga handles. -/
theorem GatewayBehaviour.failing_controlled [Stdlib] (actionId : String) :
    (GatewayBehaviour.failing actionId).Controlled := by
  intro past call error raised
  cases call with
  | preview => cases raised
  | execute action =>
    have mapped : (executeUnless actionId action).map Returned.receipt = .error error := raised
    by_cases same : action.actionId = actionId
    · rw [executeUnless, if_pos same] at mapped
      cases mapped
      rfl
    · rw [executeUnless, if_neg same] at mapped
      cases mapped
  | compensate => cases raised
  | reconcile => cases raised

/-- A saga whose second step fails is compensated, as specified. -/
theorem saga_specified_failing : letI := Stdlib.transparent
    let ran := (GatewayBehaviour.failing "second").run .small
      [shared.step, (SourceActionPlan.small "second" "second" (by decide)).step]
    ∃ outcome, ran.2 = .ok outcome ∧ outcome.state = .compensated ∧
      SagaSpecified .small [shared.step,
        (SourceActionPlan.small "second" "second" (by decide)).step] ran.1 outcome := by
  let := Stdlib.transparent
  obtain ⟨outcome, returned, specified⟩ := saga_specified .small
    (List.cons_ne_nil shared.step [(SourceActionPlan.small "second" "second" (by decide)).step])
    (GatewayBehaviour.failing_controlled "second")
  have compensated : (((GatewayBehaviour.failing "second").run .small
      [shared.step, (SourceActionPlan.small "second" "second" (by decide)).step]).2.toOption.map
        ActionSagaOutcome.state) = some .compensated := by
    decide +kernel
  rw [returned] at compensated
  exact ⟨outcome, returned, Option.some.inj compensated, specified⟩

/-- The same of a saga on the modelled gateways, from every state of theirs. -/
theorem saga_specified_modelled [Stdlib] {key : IntegrityKey} {kind : GatewayKind} {gateway : Nat}
    {identity : RequestIdentity} {steps : List ActionSagaStep} (some : steps ≠ [])
    {before after : Shared} {activities : List Activity}
    {outcome : Except ActionError ActionSagaOutcome}
    (ran : Runs (sagaSemantics key kind gateway) (ActionSagaCoordinator.run identity steps) before
      activities outcome after)
    (controlled : ∀ activity ∈ activities, ∀ error, activity.outcome = .error error →
      error.controlled = true) :
    ∃ returned, outcome = .ok returned ∧ SagaSpecified identity steps activities returned :=
  (run_report (sagaSemantics_reporting _ _ _) some ran).specified controlled

end DataHarness
