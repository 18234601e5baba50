import DataHarness.Saga.Failures

/-!
# Sessions of one gateway

A session makes calls of one gateway and runs sagas on it, one after the other. What its
activities do follows from each of them being a call of the gateway: a receipt that says
`executed` was returned with the effect still standing, a replay has an earlier effect of the same
digest behind it, and a saga compensates only steps that it completed itself.
-/

namespace DataHarness

open Effect Transition

/-- What a session does at a time: a call of the gateway, or a saga with its calls. -/
inductive SessionStep
  | call (activity : Activity)
  | saga (identity : RequestIdentity) (steps : List ActionSagaStep) (activities : List Activity)
    (outcome : Except ActionError ActionSagaOutcome)

/-- The calls of a step of a session. -/
def SessionStep.activities : SessionStep → List Activity
  | .call activity => [activity]
  | .saga _ _ activities _ => activities

/-- The calls of a session. -/
def performed (labels : List SessionStep) : List Activity := labels.flatMap SessionStep.activities

/-- The sessions of one gateway object of a class. -/
def sessions [Stdlib] (key : IntegrityKey) (kind : GatewayKind) (gateway : Nat) :
    System Shared SessionStep where
  step before label after :=
    match label with
    | .call activity => activity.Performed key kind gateway before after
    | .saga identity steps activities outcome =>
      Runs (sagaSemantics key kind gateway) (ActionSagaCoordinator.run identity steps) before
        activities outcome after

/-- The call is a compensation. -/
def GatewayCall.compensates : GatewayCall → Bool
  | .compensate _ _ _ _ => true
  | _ => false

/-- The activity applied the plan of an action to the source. -/
def Activity.Forwards [Stdlib] (activity : Activity) (action : SourceActionPlan) : Prop :=
  ∃ plan, activity.call.plan? = some plan ∧ activity.Applies plan ∧ plan.digest = action.digest

/-- The activity applied the compensation of an action to the source. -/
def Activity.Undoes [Stdlib] (activity : Activity) (action : SourceActionPlan) : Prop :=
  ∃ original receipt identity approval spec,
    activity.call = .compensate original receipt identity approval ∧
      original.compensation = some spec ∧ original.digest = action.digest ∧
        activity.Applies (original.compensating spec)

/-- An action was applied, and its compensation was not applied after that. -/
def Stands [Stdlib] (history : List Activity) (action : SourceActionPlan) : Prop :=
  ∃ before activity after, history = before ++ activity :: after ∧ activity.Forwards action ∧
    ∀ later ∈ after, ¬ later.Undoes action

/-! ## The calls of a saga -/

section Reports

variable {identity : RequestIdentity} {steps : List ActionSagaStep} {done : List CompletedStep}
  {activities : List Activity}

/-- A completed step compensates nothing. -/
theorem Completes.uncompensated {step : ActionSagaStep} {receipt : StoredReceipt}
    (completes : Completes identity step receipt activities) :
    ∀ activity ∈ activities, activity.call.compensates = false := by
  cases completes with
  | intro previewed _ executed _ => simp [previewed, executed, GatewayCall.compensates]

/-- A failed step compensates nothing. -/
theorem Fails.uncompensated {step : ActionSagaStep} {error : ActionError}
    (fails : Fails identity step error activities) :
    ∀ activity ∈ activities, activity.call.compensates = false := by
  cases fails with
  | preview previewed _ => simp [previewed, GatewayCall.compensates]
  | execute previewed _ executed _ => simp [previewed, executed, GatewayCall.compensates]

/-- Completed steps compensate nothing. -/
theorem CompletesAll.uncompensated (completes : CompletesAll identity done activities) :
    ∀ activity ∈ activities, activity.call.compensates = false := by
  induction completes with
  | nil => simp
  | snoc _ last ih =>
    intro activity member
    rcases List.mem_append.mp member with old | new
    · exact ih activity old
    · exact last.uncompensated activity new

/-- The execution of a completed step, among its activities. -/
theorem CompletesAll.executed (completes : CompletesAll identity done activities)
    {completed : CompletedStep} (member : completed ∈ done) :
    ∃ executing ∈ activities, ∃ shown,
      executing.call = .execute completed.1.action shown identity completed.1.approval ∧
        executing.outcome = .ok (.receipt completed.2) := by
  induction completes with
  | nil => cases member
  | snoc _ last ih =>
    rcases List.mem_append.mp member with old | new
    · obtain ⟨executing, among, execution⟩ := ih old
      exact ⟨executing, List.mem_append_left _ among, execution⟩
    · rw [List.mem_singleton.mp new]
      cases last with
      | @intro _ executing shown _ _ called returned =>
        exact ⟨executing, by simp, shown, called, returned⟩

/-- The handler of a failed step compensates completed steps. -/
theorem RollsBack.compensated {failedActionId : String}
    {outcome : Except ActionError ActionSagaOutcome}
    (rolled : RollsBack identity done failedActionId activities outcome) :
    ∀ activity ∈ activities, ∃ completed ∈ done,
      activity.call = CompletedStep.compensation identity completed := by
  have within : ∀ {undone left : List CompletedStep} {calls : List Activity},
      done.reverse = undone ++ left →
        calls.map Activity.call = undone.map (CompletedStep.compensation identity) →
          ∀ activity ∈ calls, ∃ completed ∈ done,
            activity.call = CompletedStep.compensation identity completed := by
    intro undone left calls order same activity member
    have called := List.mem_map_of_mem (f := Activity.call) member
    rw [same] at called
    obtain ⟨completed, among, is⟩ := List.mem_map.mp called
    have inside : completed ∈ done.reverse := by
      rw [order]
      exact List.mem_append_left _ among
    exact ⟨completed, List.mem_reverse.mp inside, is.symm⟩
  cases rolled with
  | all compensates => exact within (List.append_nil _).symm compensates.calls
  | stopped order compensates stopped _ =>
    rw [List.append_cons] at order
    exact within order (compensates.calls_snoc stopped)
  | raised order compensates stopped _ =>
    rw [List.append_cons] at order
    exact within order (compensates.calls_snoc stopped)

/-- What comes before an element with a property that earlier ones lack begins with those. -/
theorem eq_append_of_first {α : Type} {front back first second : List α} {element : α}
    {property : α → Prop} (same : first ++ second = front ++ element :: back)
    (lacks : ∀ other ∈ first, ¬ property other) (has : property element) :
    ∃ more, front = first ++ more := by
  rcases List.append_eq_append_iff.mp same with ⟨more, grown, -⟩ | ⟨more, shrunk, rest⟩
  · exact ⟨more, grown⟩
  · cases more with
    | nil => exact ⟨[], by simpa using shrunk.symm⟩
    | cons other more =>
      obtain ⟨rfl, -⟩ := List.cons.inj rest
      exact absurd has (lacks element (by simp [shrunk]))

/-- A compensation in a saga is one of a step that completed before it in the same saga. -/
theorem SagaReport.compensated {outcome : Except ActionError ActionSagaOutcome}
    (report : SagaReport identity steps activities outcome) {front back : List Activity}
    {activity : Activity} (same : activities = front ++ activity :: back)
    (compensates : activity.call.compensates = true) :
    ∃ done forward more, front = forward ++ more ∧ CompletesAll identity done forward ∧
      (∀ completed ∈ done, completed.1 ∈ steps) ∧ ∃ completed ∈ done,
        activity.call = CompletedStep.compensation identity completed := by
  have among : activity ∈ activities := by simp [same]
  have quiet : ∀ other : Activity, other.call.compensates = false →
      ¬ other.call.compensates = true := fun _ still => by simp [still]
  cases report with
  | completed completes _ =>
    exact absurd compensates (quiet _ (completes.uncompensated activity among))
  | raised completes _ fails _ =>
    rcases List.mem_append.mp among with old | new
    · exact absurd compensates (quiet _ (completes.uncompensated activity old))
    · exact absurd compensates (quiet _ (fails.uncompensated activity new))
  | @rolledBack done step later forward failing backward error outcome completes whole fails _
      rolled =>
    rw [List.append_assoc] at same among
    have mine : activity ∈ backward := by
      rcases List.mem_append.mp among with old | new
      · exact absurd compensates (quiet _ (completes.uncompensated activity old))
      · rcases List.mem_append.mp new with failed | mine
        · exact absurd compensates (quiet _ (fails.uncompensated activity failed))
        · exact mine
    obtain ⟨more, grown⟩ := eq_append_of_first same
      (fun other member => quiet other (completes.uncompensated other member)) compensates
    refine ⟨done, forward, more, grown, completes, ?_, rolled.compensated activity mine⟩
    intro completed member
    rw [whole]
    exact List.mem_append_left _ (List.mem_map_of_mem member)

/-- A report of a saga that completed is that of its steps. -/
theorem SagaReport.of_completed {outcome : ActionSagaOutcome}
    (report : SagaReport identity steps activities (.ok outcome))
    (completed : outcome.state = .completed) :
    ∃ done, CompletesAll identity done activities ∧ done.map Prod.fst = steps ∧
      outcome.receipts = done.map Prod.snd := by
  cases report with
  | completed completes same => exact ⟨_, completes, same, rfl⟩
  | @rolledBack done _ _ _ _ _ _ _ _ _ _ _ rolled =>
    cases rolled with
    | all => cases done <;> cases completed
    | stopped => cases completed

end Reports

/-! ## Sessions -/

section Sessions

variable [Stdlib] {key : IntegrityKey} {kind : GatewayKind} {gateway : Nat} {start shared : Shared}
  {labels : List SessionStep}

/-- A saga is a sequence of activities. -/
theorem saga_sequence {α : Type} {program : SagaProgram α} {activities : List Activity}
    {outcome : Except ActionError α} {before after : Shared}
    (ran : Runs (sagaSemantics key kind gateway) program before activities outcome after) :
    (sequence key kind gateway).Run before activities after := by
  induction ran with
  | ret => exact .nil
  | raise => exact .nil
  | @call _ _ state middle _ record _ records _ acts _ ih =>
    have step : (sequence key kind gateway).step state record middle := acts.2.1
    exact (System.Run.single step).append ih

/-- A session is a sequence of activities. -/
theorem session_sequence (run : (sessions key kind gateway).Run start labels shared) :
    (sequence key kind gateway).Run start (performed labels) shared := by
  induction run with
  | nil => exact .nil
  | @snoc labels state label next _ step ih =>
    have grown : performed (labels ++ [label]) = performed labels ++ label.activities := by
      simp [performed]
    rw [grown]
    cases label with
    | call activity => exact ih.snoc step
    | saga identity steps activities outcome => exact ih.append (saga_sequence step)

/-- A session's activity was performed after those before it. -/
theorem session_performed (run : (sessions key kind gateway).Run start labels shared)
    {before after : List Activity} {activity : Activity}
    (split : performed labels = before ++ activity :: after) :
    ∃ state next, (sequence key kind gateway).Run start before state ∧
      activity.Performed key kind gateway state next := by
  have sequence := session_sequence run
  rw [split] at sequence
  exact sequence.of_split

/-- An activity of a saga of a session was performed. -/
theorem saga_performed {identity : RequestIdentity} {steps : List ActionSagaStep}
    {front back : List Activity} {activity : Activity}
    {outcome : Except ActionError ActionSagaOutcome} (before : List SessionStep)
    {after : List SessionStep}
    (run : (sessions key kind gateway).Run start
      (before ++ .saga identity steps (front ++ activity :: back) outcome :: after) shared) :
    ∃ state next, (sequence key kind gateway).Run start (performed before ++ front) state ∧
      activity.Performed key kind gateway state next := by
  have split : performed (before ++ .saga identity steps (front ++ activity :: back) outcome ::
      after) = performed before ++ front ++ activity :: (back ++ performed after) := by
    simp [performed, SessionStep.activities]
  exact session_performed run split

/-- What a saga of a session reports. -/
theorem saga_report {identity : RequestIdentity} {steps : List ActionSagaStep}
    {activities : List Activity} {outcome : Except ActionError ActionSagaOutcome}
    {before after : List SessionStep}
    (run : (sessions key kind gateway).Run start
      (before ++ .saga identity steps activities outcome :: after) shared) :
    steps = [] ∧ activities = [] ∧ (∃ error, outcome = .error error) ∨
      SagaReport identity steps activities outcome := by
  obtain ⟨state, next, -, ran⟩ := run.of_split
  by_cases none : steps = []
  · subst none
    cases ran
    exact .inl ⟨rfl, rfl, _, rfl⟩
  · exact .inr (run_report (sagaSemantics_reporting _ _ _) none ran)

/-- Every compensation that a saga calls is of a step that completed before it in the same saga,
either by its own dispatch or by a replay. -/
theorem compensates_completed {past : List SessionStep} {identity : RequestIdentity}
    {steps : List ActionSagaStep} {activities : List Activity}
    {outcome : Except ActionError ActionSagaOutcome}
    (run : (sessions key kind gateway).Run start
      (past ++ [.saga identity steps activities outcome]) shared) :
    ∀ front activity back original receipt agent approval,
      activities = front ++ activity :: back →
        activity.call = .compensate original receipt agent approval →
          ∃ step ∈ steps, step.action = original ∧ ∃ executing ∈ front,
            (∃ shown, executing.call = .execute original shown identity step.approval) ∧
              executing.outcome = .ok (.receipt receipt) ∧
                (receipt.state = .executed ∧ executing.Applies original ∨
                  receipt.state = .alreadyExecuted ∧ ¬ executing.Dispatches) := by
  intro front activity back original receipt agent approval same called
  have compensates : activity.call.compensates = true := by
    rw [called]
    rfl
  rcases saga_report run with ⟨-, rfl, -⟩ | report
  · simp at same
  · obtain ⟨done, forward, more, rfl, completes, within, completed, member, is⟩ :=
      report.compensated same compensates
    rw [called] at is
    obtain ⟨rfl, rfl, -, -⟩ := GatewayCall.compensate.inj is
    obtain ⟨executing, among, shown, executed, returned⟩ := completes.executed member
    obtain ⟨early, late, rfl⟩ := List.append_of_mem among
    have placed : activities = early ++ executing :: (late ++ more ++ activity :: back) := by
      simp [same]
    rw [placed] at run
    obtain ⟨state, next, -, performed⟩ := saga_performed _ run
    exact ⟨completed.1, within completed member, rfl, executing,
      List.mem_append_left _ among, ⟨shown, executed⟩, returned,
      execute_receipt executed performed returned⟩

/-! ## Receipts and their effects -/

/-- An execution that says `executed` applied its plan. -/
theorem forwards_of_executed {activity : Activity} {action : SourceActionPlan}
    {shown : ActionPreview} {identity : RequestIdentity} {approval : Option ActionApproval}
    (called : activity.call = .execute action shown identity approval)
    (applies : activity.Applies action) : activity.Forwards action :=
  ⟨action, by rw [called]; rfl, applies, rfl⟩

/-- An action stands while nothing undoes it. -/
theorem Stands.append {history more : List Activity} {action : SourceActionPlan}
    (stands : Stands history action) (kept : ∀ later ∈ more, ¬ later.Undoes action) :
    Stands (history ++ more) action := by
  obtain ⟨before, activity, after, rfl, forwards, calm⟩ := stands
  refine ⟨before, activity, after ++ more, by simp, forwards, ?_⟩
  intro later member
  rcases List.mem_append.mp member with old | new
  · exact calm later old
  · exact kept later new

/-- An activity that is no compensation undoes nothing. -/
theorem not_undoes_of_uncompensated {activity : Activity} {action : SourceActionPlan}
    (uncompensated : activity.call.compensates = false) : ¬ activity.Undoes action := by
  rintro ⟨original, receipt, identity, approval, spec, called, -⟩
  rw [called] at uncompensated
  cases uncompensated

/-- What a receipt of an execution says of the history: `executed` that this call applied the plan
and that it stands, `already-executed` that its digest was applied by an earlier call. -/
def Backed (before : List Activity) (activity : Activity) (action : SourceActionPlan)
    (receipt : StoredReceipt) : Prop :=
  receipt.state = .executed ∧ activity.Forwards action ∧ Stands (before ++ [activity]) action ∨
    receipt.state = .alreadyExecuted ∧ ¬ activity.Dispatches ∧
      ∃ earlier ∈ before, earlier.Forwards action

/-- Every receipt that an execution of the in-memory gateway returns is backed by an effect. -/
theorem backed_of_performed {before : List Activity} {activity : Activity} {state next : Shared}
    (run : (sequence key .action gateway).Run .initial before state)
    (performed : activity.Performed key .action gateway state next) {action : SourceActionPlan}
    {shown : ActionPreview} {identity : RequestIdentity} {approval : Option ActionApproval}
    {receipt : StoredReceipt} (called : activity.call = .execute action shown identity approval)
    (returned : activity.outcome = .ok (.receipt receipt)) :
    Backed before activity action receipt := by
  rcases execute_receipt called performed returned with ⟨executed, applies⟩ | ⟨replayed, idle⟩
  · have forwards := forwards_of_executed called applies
    exact .inl ⟨executed, forwards, before, activity, [], rfl, forwards,
      fun _ none => nomatch none⟩
  · obtain ⟨first, held⟩ := held_of_replay called performed returned replayed
    obtain ⟨earlier, among, plan, planned, applies, -, digest⟩ := bindings_applied rfl run _ held
    exact .inr ⟨replayed, idle, earlier, among, plan, planned, applies, digest⟩

/-- What the receipt of a completed step says once the saga has ended. -/
def BackedStep (history : List Activity) (step : ActionSagaStep) (receipt : StoredReceipt) : Prop :=
  receipt.state = .executed ∧ Stands history step.action ∨
    receipt.state = .alreadyExecuted ∧ ∃ earlier ∈ history, earlier.Forwards step.action

/-- A receipt stays backed to the end of a saga that compensates nothing after it. -/
theorem Backed.step {before after : List Activity} {activity : Activity} {step : ActionSagaStep}
    {receipt : StoredReceipt} (backed : Backed before activity step.action receipt)
    (uncompensated : ∀ later ∈ after, later.call.compensates = false) :
    BackedStep (before ++ activity :: after) step receipt := by
  rcases backed with ⟨executed, -, stands⟩ | ⟨replayed, -, earlier, among, forwards⟩
  · have kept := stands.append fun later member =>
      not_undoes_of_uncompensated (uncompensated later member)
    rw [← List.append_cons] at kept
    exact .inl ⟨executed, kept⟩
  · exact .inr ⟨replayed, earlier, List.mem_append_left _ among, forwards⟩

/-- In every session of an in-memory gateway, a receipt that says `executed` is returned by the call
that applied its plan and while that effect stands, and one that says `already-executed` after an
effect of its digest; a saga that completed compensated nothing, and its receipts still say so at
its end. -/
theorem receipts_backed (run : (sessions key .action gateway).Run .initial labels shared) :
    (∀ before activity after action shown identity approval receipt,
      performed labels = before ++ activity :: after →
        activity.call = .execute action shown identity approval →
          activity.outcome = .ok (.receipt receipt) → Backed before activity action receipt) ∧
    ∀ before identity steps activities outcome after,
      labels = before ++ .saga identity steps activities (.ok outcome) :: after →
        outcome.state = .completed →
          (∀ activity ∈ activities, activity.call.compensates = false) ∧
            List.Forall₂ (BackedStep (performed before ++ activities)) steps outcome.receipts := by
  constructor
  · intro before activity after action shown identity approval receipt split called returned
    obtain ⟨state, next, earlier, performed⟩ := session_performed run split
    exact backed_of_performed earlier performed called returned
  · intro before identity steps activities outcome after split completed
    subst split
    rcases saga_report run with ⟨-, -, error, same⟩ | report
    · cases same
    · obtain ⟨done, completes, rfl, receipts⟩ := report.of_completed completed
      have uncompensated := completes.uncompensated
      refine ⟨uncompensated, ?_⟩
      rw [receipts, List.forall₂_map_left_iff, List.forall₂_map_right_iff, List.forall₂_same]
      intro step member
      obtain ⟨executing, among, shown, executed, returned⟩ := completes.executed member
      obtain ⟨front, back, rfl⟩ := List.append_of_mem among
      obtain ⟨state, next, earlier, performed⟩ := saga_performed _ run
      have backed := backed_of_performed earlier performed executed returned
      have kept := backed.step fun later inside =>
        uncompensated later (List.mem_append_right _ (List.mem_cons_of_mem _ inside))
      rwa [List.append_assoc] at kept

/-- The compensation of a plan is another plan, when SHA-256 has no collision. -/
theorem compensating_digest_ne (injective : Sha256Injective) (original : SourceActionPlan)
    (spec : CompensationSpec) : (original.compensating spec).digest ≠ original.digest := by
  intro same
  have named := congrArg String.length (SourceActionPlan.actionId_of_digest injective same)
  simp [SourceActionPlan.compensating] at named

/-- An effect that was undone after it was applied last does not stand. -/
theorem not_stands {front back : List Activity} {undoing : Activity} {action : SourceActionPlan}
    (undoes : undoing.Undoes action) (other : ¬ undoing.Forwards action)
    (idle : ∀ later ∈ back, ¬ later.Forwards action) :
    ¬ Stands (front ++ undoing :: back) action := by
  rintro ⟨before, activity, after, same, forwards, calm⟩
  have late : activity ∉ undoing :: back := by
    intro member
    rcases List.mem_cons.mp member with rfl | inside
    · exact other forwards
    · exact idle activity inside forwards
  rcases List.append_eq_append_iff.mp same with ⟨more, grown, rest⟩ | ⟨more, shrunk, rest⟩
  · exact late (rest ▸ List.mem_append_right _ (List.mem_cons_self ..))
  · cases more with
    | nil => exact late (by rw [List.nil_append] at rest; rw [← rest]; simp)
    | cons first more =>
      obtain ⟨-, tail⟩ := List.cons.inj rest
      exact calm undoing (by rw [tail]; simp) undoes

/-! ## Tests on activities -/

/-- The source answered the activity with success. -/
def Activity.answered (activity : Activity) : Bool :=
  activity.events.any fun event => GatewayOp.applies event.1 event.2

/-- The activity dispatched a mutation. -/
def Activity.dispatched (activity : Activity) : Bool :=
  activity.events.any fun event => event.1.dispatches

/-- The activity may dispatch a plan of a digest. -/
def Activity.plansDigest (activity : Activity) (digest : String) : Bool :=
  activity.call.plan?.any fun plan => plan.digest == digest

/-- The activity compensates a plan of a digest. -/
def Activity.compensatesDigest (activity : Activity) (digest : String) : Bool :=
  match activity.call with
  | .compensate original _ _ _ => original.digest == digest
  | _ => false

omit [Stdlib] in
/-- The test for a dispatch decides it. -/
theorem dispatched_iff {activity : Activity} :
    activity.dispatched = true ↔ activity.Dispatches := List.any_eq_true

/-- A plan that was applied was answered with success. -/
theorem answered_of_forwards {activity : Activity} {action : SourceActionPlan}
    (forwards : activity.Forwards action) : activity.answered = true := by
  obtain ⟨plan, -, ⟨-, event, among, applies⟩, -⟩ := forwards
  exact List.any_eq_true.mpr ⟨event, among, applies⟩

/-- An activity of the in-memory gateway that was answered applied the plan of its digest. -/
theorem forwards_of_answered {activity : Activity} {action : SourceActionPlan} {before after : Shared}
    (performed : activity.Performed key .action gateway before after)
    (answered : activity.answered = true) (plans : activity.plansDigest action.digest = true) :
    activity.Forwards action := by
  obtain ⟨event, among, applies⟩ := List.any_eq_true.mp answered
  obtain ⟨plan, called, applied⟩ := applies_of_answered performed among applies
  unfold Activity.plansDigest at plans
  rw [called] at plans
  exact ⟨plan, called, applied, beq_iff_eq.mp plans⟩

/-- A compensation of the in-memory gateway that was answered undoes the plan of its digest, and
applies another one. -/
theorem undoes_of_answered (injective : Sha256Injective) {activity : Activity}
    {action : SourceActionPlan} {before after : Shared}
    (performed : activity.Performed key .action gateway before after)
    (answered : activity.answered = true)
    (compensates : activity.compensatesDigest action.digest = true) :
    activity.Undoes action ∧ ¬ activity.Forwards action := by
  obtain ⟨event, among, applies⟩ := List.any_eq_true.mp answered
  obtain ⟨plan, planned, applied⟩ := applies_of_answered performed among applies
  cases called : activity.call with
  | compensate original receipt identity approval =>
    unfold Activity.compensatesDigest at compensates
    rw [called] at compensates
    have same : original.digest = action.digest := beq_iff_eq.mp compensates
    rw [called] at planned
    obtain ⟨spec, declared, derived⟩ := Option.map_eq_some_iff.mp planned
    subst derived
    refine ⟨⟨original, receipt, identity, approval, spec, called, declared, same, applied⟩, ?_⟩
    rintro ⟨other, planned', -, digest⟩
    rw [called] at planned'
    have is := planned'.symm.trans planned
    obtain rfl := Option.some.inj is
    exact compensating_digest_ne injective original spec (digest.trans same.symm)
  | _ => simp [Activity.compensatesDigest, called] at compensates

end Sessions

/-! ## Small sessions -/

/-- A plan that can be compensated. -/
def reversible : SourceActionPlan :=
  { SourceActionPlan.first with
    compensation := some {
      operation := "unset"
      parameters := SourceActionPlan.first.parameters
      preconditions := ⟨[("version", .int 2)], by simp⟩
      required := by simp [SourceActionPlan.small] } }

/-- The steps of a plan that can be compensated and of one that its source refuses. -/
abbrev refusedLate : List ActionSagaStep := [reversible.step, keyless.step]

/-- A saga returned in a state. -/
theorem of_returnedIn {state : SagaState} {activities : List Activity}
    {outcome : Except ActionError ActionSagaOutcome}
    (returned : returnedIn state activities outcome = true) :
    ∃ report, outcome = .ok report ∧ report.state = state := by
  cases outcome with
  | error error => cases returned
  | ok report => exact ⟨report, rfl, of_decide_eq_true returned⟩

/-- What the calls of three sagas show, the second of which failed late: the first one applied the
plan, the second one compensated it without a forward mutation, and the last one had no effect. -/
def undoneReplay [Stdlib] (first second third : List Activity) : Bool :=
  (first.any fun activity => activity.answered && activity.plansDigest reversible.digest) &&
    (second.any fun activity => activity.call.compensates && activity.dispatched) &&
      (second.all fun activity => activity.call.compensates || !activity.dispatched) &&
        (second.getLast?.any fun last =>
          last.answered && last.compensatesDigest reversible.digest) &&
            third.all fun activity => !activity.answered

section Evaluation

variable [Stdlib] {key : IntegrityKey} {kind : GatewayKind} {gateway : Nat}
  {identity : RequestIdentity}

/-- An evaluated saga that passes a check is a step of a session. -/
theorem step_of_evaluated {world : World gatewaySignature} {steps : List ActionSagaStep}
    {before : Shared} (check : List Activity → Except ActionError ActionSagaOutcome → Shared → Bool)
    (passed : (fun ran => check ran.1 ran.2.1 ran.2.2)
      (evaluateSaga key kind gateway world identity steps before) = true) :
    ∃ activities outcome after, (sessions key kind gateway).step before
      (.saga identity steps activities outcome) after ∧ check activities outcome after = true :=
  ⟨_, _, _, evaluateSaga_runs key kind gateway world identity steps before, passed⟩

/-- Three sagas that are evaluated one after the other, and pass a check of their calls in the
states they are to end in, are steps of a session. -/
theorem steps_of_evaluated (world : World gatewaySignature)
    {first second third : List ActionSagaStep} {ends rolls replays : SagaState}
    {check : List Activity → List Activity → List Activity → Bool}
    (passed : (fun ran => returnedIn ends [] ran.2.1 &&
      (fun next => returnedIn rolls [] next.2.1 &&
        (fun last => returnedIn replays [] last.2.1 && check ran.1 next.1 last.1)
          (evaluateSaga key kind gateway world identity third next.2.2))
        (evaluateSaga key kind gateway world identity second ran.2.2))
      (evaluateSaga key kind gateway world identity first .initial) = true) :
    ∃ ran next last ended undone report middle between after,
      (sessions key kind gateway).step .initial (.saga identity first ran (.ok ended)) middle ∧
      (sessions key kind gateway).step middle (.saga identity second next (.ok undone)) between ∧
      (sessions key kind gateway).step between (.saga identity third last (.ok report)) after ∧
      ended.state = ends ∧ undone.state = rolls ∧ report.state = replays ∧
        check ran next last = true := by
  obtain ⟨ran, outcome, middle, completes, passed⟩ := step_of_evaluated
    (fun activities outcome state => returnedIn ends [] outcome &&
      (fun next => returnedIn rolls [] next.2.1 &&
        (fun last => returnedIn replays [] last.2.1 && check activities next.1 last.1)
          (evaluateSaga key kind gateway world identity third next.2.2))
        (evaluateSaga key kind gateway world identity second state)) passed
  rw [Bool.and_eq_true] at passed
  obtain ⟨ended, rfl, completed⟩ := of_returnedIn passed.1
  obtain ⟨next, outcome, between, fails, passed⟩ := step_of_evaluated
    (fun activities outcome state => returnedIn rolls [] outcome &&
      (fun last => returnedIn replays [] last.2.1 && check ran activities last.1)
        (evaluateSaga key kind gateway world identity third state)) passed.2
  rw [Bool.and_eq_true] at passed
  obtain ⟨undone, rfl, rolled⟩ := of_returnedIn passed.1
  obtain ⟨last, outcome, after, repeats, passed⟩ := step_of_evaluated
    (fun activities outcome _ => returnedIn replays [] outcome && check ran next activities)
    passed.2
  rw [Bool.and_eq_true] at passed
  obtain ⟨report, rfl, replayed⟩ := of_returnedIn passed.1
  exact ⟨ran, next, last, ended, undone, report, middle, between, after, completes, fails, repeats,
    completed, rolled, replayed, passed.2⟩

end Evaluation

/-- A session of three sagas: a plan that can be compensated, the plan once more with a refused
step, and the plan alone again. -/
theorem three_sagas : letI := Stdlib.transparent
    ∃ first second third ended undone report middle between after,
      (sessions .small .action 0).step .initial
        (.saga .small [reversible.step] first (.ok ended)) middle ∧
      (sessions .small .action 0).step middle (.saga .small refusedLate second (.ok undone)) between ∧
      (sessions .small .action 0).step between
        (.saga .small [reversible.step] third (.ok report)) after ∧
      ended.state = .completed ∧ undone.state = .compensated ∧ report.state = .completed ∧
        undoneReplay first second third = true := by
  let := Stdlib.transparent
  apply steps_of_evaluated twoConnectors
  decide +kernel

/-- A saga compensates a step that it completed. -/
theorem compensates_completed_small : letI := Stdlib.transparent
    ∃ past activities outcome after,
      (sessions .small .action 0).Run .initial
        (past ++ [.saga .small refusedLate activities outcome]) after ∧
      ∃ front activity back original receipt agent approval,
        activities = front ++ activity :: back ∧
          activity.call = .compensate original receipt agent approval ∧
            ∃ step ∈ refusedLate, step.action = original ∧ ∃ executing ∈ front,
              (∃ shown, executing.call = .execute original shown .small step.approval) ∧
                executing.outcome = .ok (.receipt receipt) ∧
                  (receipt.state = .executed ∧ executing.Applies original ∨
                    receipt.state = .alreadyExecuted ∧ ¬ executing.Dispatches) := by
  let := Stdlib.transparent
  obtain ⟨first, second, third, ended, undone, report, middle, between, after, completes, fails,
    -, -, -, -, shown⟩ := three_sagas
  have run := (System.Run.single completes).snoc fails
  simp only [undoneReplay, Bool.and_eq_true, List.any_eq_true] at shown
  obtain ⟨⟨⟨⟨-, activity, among, compensates, -⟩, -⟩, -⟩, -⟩ := shown
  obtain ⟨front, back, same⟩ := List.append_of_mem among
  cases called : activity.call with
  | compensate original receipt agent approval =>
    exact ⟨_, second, .ok undone, between, run, front, activity, back, original, receipt, agent,
      approval, same, called,
      compensates_completed run front activity back original receipt agent approval same called⟩
  | _ => simp [called, GatewayCall.compensates] at compensates

/-- A saga that replayed its first step compensates an effect of an earlier saga. -/
theorem replay_compensated : letI := Stdlib.transparent
    ∃ first second ended undone after,
      (sessions .small .action 0).Run .initial
        [.saga .small [reversible.step] first (.ok ended),
          .saga .small refusedLate second (.ok undone)] after ∧
      undone.state = .compensated ∧
        (∃ activity ∈ second, activity.call.compensates = true ∧ activity.Dispatches) ∧
          ∀ activity ∈ second, activity.call.compensates = false → ¬ activity.Dispatches := by
  let := Stdlib.transparent
  obtain ⟨first, second, third, ended, undone, report, middle, between, after, completes, fails,
    -, -, compensated, -, shown⟩ := three_sagas
  simp only [undoneReplay, Bool.and_eq_true, List.any_eq_true, List.all_eq_true,
    Bool.or_eq_true, Bool.not_eq_true'] at shown
  obtain ⟨⟨⟨⟨-, activity, among, compensates, dispatched⟩, others⟩, -⟩, -⟩ := shown
  refine ⟨first, second, ended, undone, between, (System.Run.single completes).snoc fails,
    compensated, ⟨activity, among, compensates, dispatched_iff.mp dispatched⟩, ?_⟩
  intro other member forward dispatches
  have still := others other member
  rw [forward, dispatched_iff.mpr dispatches] at still
  simp at still

/-- A saga completes, another one is compensated behind it, and the first one is run again: what was
returned in the first and the third is backed, by an effect of the saga itself in the first and by
one of an earlier saga in the third. -/
theorem receipts_backed_small : letI := Stdlib.transparent
    ∃ first second third ended undone report after,
      (sessions .small .action 0).Run .initial
        [.saga .small [reversible.step] first (.ok ended),
          .saga .small refusedLate second (.ok undone),
          .saga .small [reversible.step] third (.ok report)] after ∧
      ended.state = .completed ∧ undone.state = .compensated ∧ report.state = .completed ∧
        List.Forall₂ (BackedStep first) [reversible.step] ended.receipts ∧
        List.Forall₂ (BackedStep (first ++ second ++ third)) [reversible.step] report.receipts ∧
        ∀ front activity back action shown identity approval receipt,
          first ++ second ++ third = front ++ activity :: back →
            activity.call = .execute action shown identity approval →
              activity.outcome = .ok (.receipt receipt) → Backed front activity action receipt := by
  let := Stdlib.transparent
  obtain ⟨first, second, third, ended, undone, report, middle, between, after, completes, fails,
    repeats, completed, compensated, replayed, -⟩ := three_sagas
  have run : (sessions .small .action 0).Run .initial [_, _, _] after :=
    ((System.Run.single completes).snoc fails).snoc repeats
  have all : performed [.saga .small [reversible.step] first (.ok ended),
      .saga .small refusedLate second (.ok undone),
      .saga .small [reversible.step] third (.ok report)] = first ++ second ++ third := by
    simp [performed, SessionStep.activities]
  have earlier : performed [.saga .small [reversible.step] first (.ok ended),
      .saga .small refusedLate second (.ok undone)] = first ++ second := by
    simp [performed, SessionStep.activities]
  have backed := receipts_backed run
  have last := (backed.2 [_, _] .small _ third report [] rfl replayed).2
  rw [earlier] at last
  rw [all] at backed
  exact ⟨first, second, third, ended, undone, report, after, run, completed, compensated, replayed,
    (backed.2 [] .small _ first ended _ rfl completed).2, last, backed.1⟩

/-- A saga that is retried after it was compensated completes, although its effect is undone. -/
theorem retried_undone : letI := Stdlib.transparent
    ∃ first second third ended undone report after,
      (sessions .small .action 0).Run .initial
        [.saga .small [reversible.step] first (.ok ended),
          .saga .small refusedLate second (.ok undone),
          .saga .small [reversible.step] third (.ok report)] after ∧
      report.state = .completed ∧ (∃ activity ∈ first, activity.Forwards reversible) ∧
        ¬ Stands (first ++ second ++ third) reversible := by
  let := Stdlib.transparent
  obtain ⟨first, second, third, ended, undone, report, middle, between, after, completes, fails,
    repeats, -, -, replayed, shown⟩ := three_sagas
  have run := ((System.Run.single completes).snoc fails).snoc repeats
  simp only [undoneReplay, Bool.and_eq_true, List.any_eq_true, Option.any_eq_true,
    List.all_eq_true, Bool.not_eq_true'] at shown
  obtain ⟨⟨⟨⟨⟨activity, among, answered, plans⟩, -⟩, -⟩, last, ends, undid, compensates⟩, idle⟩ :=
    shown
  obtain ⟨front, split⟩ := List.getLast?_eq_some_iff.mp ends
  obtain ⟨before, rest, placed⟩ := List.append_of_mem among
  have applied : activity.Forwards reversible := by
    rw [placed] at run
    obtain ⟨state, next, -, performed⟩ := saga_performed [] run
    exact forwards_of_answered performed answered plans
  have undoes : last.Undoes reversible ∧ ¬ last.Forwards reversible := by
    rw [split] at run
    obtain ⟨state, next, -, performed⟩ := saga_performed
      [.saga .small [reversible.step] first (.ok ended)] run
    exact undoes_of_answered Stdlib.transparent_sha256 performed undid compensates
  refine ⟨first, second, third, ended, undone, report, after, run, replayed,
    ⟨activity, among, applied⟩, ?_⟩
  have same : first ++ second ++ third = first ++ front ++ last :: third := by simp [split]
  rw [same]
  apply not_stands undoes.1 undoes.2
  intro later member forwards
  have still := idle later member
  rw [answered_of_forwards forwards] at still
  cases still

end DataHarness
