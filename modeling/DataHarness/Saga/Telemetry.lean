import DataHarness.Gateway.Influence
import DataHarness.Saga.Session

/-!
# Telemetry does not influence a session

Requests to a gateway, calls of its methods and sagas, are served one after the other, once with each
of two telemetry sinks. A request of the second run may hand in a receipt of the second run where the
first run hands in its own.
-/

namespace DataHarness

open Effect ActionSagaCoordinator

/-- Exceptions that are alike are both controlled failures of a saga, or both not. -/
theorem ActionError.Alike.controlled {error thrown : ActionError} (alike : error.Alike thrown) :
    error.controlled = thrown.controlled := by
  cases alike <;> rfl

/-- Two lists of receipts are alike one by one. -/
abbrev AllAlike : List StoredReceipt → List StoredReceipt → Prop :=
  List.Forall₂ SourceMutationReceipt.Alike

/-- Two outcomes of sagas agree, with receipts that are alike. -/
structure ActionSagaOutcome.Alike (outcome other : ActionSagaOutcome) : Prop where
  state : outcome.state = other.state
  receipts : AllAlike outcome.receipts other.receipts
  compensationReceipts : AllAlike outcome.compensationReceipts other.compensationReceipts
  failedActionId : outcome.failedActionId = other.failedActionId

/-- Two completed steps are one step, with receipts that are alike. -/
def CompletedStep.Alike (completed other : CompletedStep) : Prop :=
  completed.1 = other.1 ∧ completed.2.Alike other.2

/-- The connector calls of an activity, in order. -/
def Activity.sourceCalls (activity : Activity) : List ConnectorCall :=
  activity.events.flatMap DataHarness.sourceCalls

/-- A request to a gateway. -/
inductive Request
  | call (call : GatewayCall)
  | saga (identity : RequestIdentity) (steps : List ActionSagaStep)

/-- What a gateway does for a request. -/
inductive Response
  | call (activity : Activity)
  | saga (activities : List Activity) (outcome : Except ActionError ActionSagaOutcome)

/-- Two requests are one, up to receipts that are alike. -/
inductive Request.Alike : Request → Request → Prop
  | call {call other : GatewayCall} (calls : call.Alike other) : Alike (.call call) (.call other)
  | saga (identity : RequestIdentity) (steps : List ActionSagaStep) :
    Alike (.saga identity steps) (.saga identity steps)

/-- Two responses make the same connector calls, and return what is alike or raise exceptions that
are alike. -/
inductive Response.Alike : Response → Response → Prop
  | call {activity other : Activity} (same : activity.sourceCalls = other.sourceCalls)
    (outcomes : Together Returned.Alike ActionError.Alike activity.outcome other.outcome) :
    Alike (.call activity) (.call other)
  | saga {activities others : List Activity} {outcome result : Except ActionError ActionSagaOutcome}
    (same : activities.flatMap Activity.sourceCalls = others.flatMap Activity.sourceCalls)
    (outcomes : Together ActionSagaOutcome.Alike ActionError.Alike outcome result) :
    Alike (.saga activities outcome) (.saga others result)

section Served

variable [Stdlib] {σ : Type} (surroundings : Surroundings σ) (key : IntegrityKey) (gateway : Nat)
  (kind : GatewayKind)

/-- A method of the gateway that a saga awaits. -/
def Surroundings.awaited (state : Shared × σ) (call : GatewayCall) :
    Activity × call.Reply × Shared × σ :=
  let performed := surroundings.perform key gateway kind call state
  (performed.1, call.reply performed.1.outcome, performed.2)

/-- The response to a request, and the states after it. -/
def Surroundings.serve (request : Request) (state : Shared × σ) : Response × Shared × σ :=
  match request with
  | .call call =>
    let performed := surroundings.perform key gateway kind call state
    (.call performed.1, performed.2)
  | .saga identity steps =>
    let ran := (run identity steps).evaluate (surroundings.awaited key gateway kind) state
    (.saga ran.1 ran.2.1, ran.2.2)

/-- The responses to requests in order. -/
def Surroundings.serveAll : List Request → Shared × σ → List Response × Shared × σ
  | [], state => ([], state)
  | request :: requests, state =>
    let served := surroundings.serve key gateway kind request state
    let rest := serveAll requests served.2
    (served.1 :: rest.1, rest.2)

end Served

/-- Two sessions have responses that are alike one by one, and the audit ledger of the gateway verifies
after both. -/
structure ServedAlike [Stdlib] {σ τ : Type} (gateway : Nat) (served : List Response × Shared × σ)
    (other : List Response × Shared × τ) : Prop where
  responses : List.Forall₂ Response.Alike served.1 other.1
  verified : (served.2.1.gateways gateway).audit.verify = true
  verifies : (other.2.1.gateways gateway).audit.verify = true

section Influence

variable [Stdlib] {σ ρ τ : Type} {surroundings : TimedSurroundings σ} {left : Telemetry ρ}
  {right : Telemetry τ} {key : IntegrityKey} {gateway : Nat} {kind : GatewayKind}

/-! ## Replies -/

section Replies

variable {outcome result : Except ActionError Returned}
  (outcomes : Together Returned.Alike ActionError.Alike outcome result)

include outcomes

omit [Stdlib] in
/-- Previews that are returned alike are awaited alike. -/
theorem reply_preview_alike (action : SourceActionPlan) (identity : RequestIdentity) (ttl : Int) :
    @Together ActionError ActionPreview ActionPreview Eq ActionError.Alike
      (GatewayCall.reply (.preview action identity ttl) outcome)
      (GatewayCall.reply (.preview action identity ttl) result) := by
  cases outcomes with
  | error alike => exact .error alike
  | ok returned =>
    cases returned with
    | preview shown => exact .ok rfl
    | receipt receipts => exact .error (.same _)

omit [Stdlib] in
/-- Receipts that are returned alike by `execute` are awaited alike. -/
theorem reply_execute_alike (action : SourceActionPlan) (shown : ActionPreview)
    (identity : RequestIdentity) (approval : Option ActionApproval) :
    @Together ActionError StoredReceipt StoredReceipt SourceMutationReceipt.Alike
      ActionError.Alike
      (GatewayCall.reply (.execute action shown identity approval) outcome)
      (GatewayCall.reply (.execute action shown identity approval) result) := by
  cases outcomes with
  | error alike => exact .error alike
  | ok returned =>
    cases returned with
    | preview shown => exact .error (.same _)
    | receipt receipts => exact .ok receipts

omit [Stdlib] in
/-- Receipts that are returned alike by `compensate` are awaited alike. -/
theorem reply_compensate_alike (original : SourceActionPlan) (receipt other : StoredReceipt)
    (identity : RequestIdentity) (approval : Option ActionApproval) :
    @Together ActionError StoredReceipt StoredReceipt SourceMutationReceipt.Alike
      ActionError.Alike
      (GatewayCall.reply (.compensate original receipt identity approval) outcome)
      (GatewayCall.reply (.compensate original other identity approval) result) := by
  cases outcomes with
  | error alike => exact .error alike
  | ok returned =>
    cases returned with
    | preview shown => exact .error (.same _)
    | receipt receipts => exact .ok receipts

end Replies

/-! ## Sagas -/

/-- A saga with two telemetry sinks. -/
def sagaTelemetries (surroundings : TimedSurroundings σ) (left : Telemetry ρ)
    (right : Telemetry τ) (key : IntegrityKey) (gateway : Nat) (kind : GatewayKind) :
    Sides sagaSignature (Shared × σ × ρ) (Shared × σ × τ) Activity Activity ConnectorCall where
  left := (surroundings.withTelemetry left).awaited key gateway kind
  right := (surroundings.withTelemetry right).awaited key gateway kind
  seenLeft := Activity.sourceCalls
  seenRight := Activity.sourceCalls
  fine _ := True

/-- Both runs of a saga make the same connector calls and end alike. -/
abbrev SagaAlike (surroundings : TimedSurroundings σ) (left : Telemetry ρ) (right : Telemetry τ)
    (key : IntegrityKey) (gateway : Nat) (kind : GatewayKind) {α β : Type} (values : α → β → Prop)
    (program : SagaProgram α) (other : SagaProgram β) : Prop :=
  (sagaTelemetries surroundings left right key gateway kind).Keeps (Level gateway) values
    ActionError.Alike program other

section Sagas

variable (zoned : ∀ state, (surroundings.clock state).aware = true) (kind : GatewayKind)

include zoned

/-- Calls that are alike are performed alike. -/
theorem alike_perform {call other : GatewayCall} (calls : call.Alike other)
    {start : Shared × σ × ρ} {final : Shared × σ × τ} (level : Level gateway start final) :
    let performed := (surroundings.withTelemetry left).perform key gateway kind call start
    let answered := (surroundings.withTelemetry right).perform key gateway kind other final
    performed.1.sourceCalls = answered.1.sourceCalls ∧
      Together Returned.Alike ActionError.Alike performed.1.outcome answered.1.outcome ∧
        Level gateway performed.2 answered.2 := by
  have alike : RunAlike surroundings left right key gateway _ _ _ := alike_call zoned kind calls
  exact alike start final level fun _ _ => trivial

/-- A step completes alike or fails alike. -/
theorem alike_performStep (identity : RequestIdentity) (step : ActionSagaStep) :
    SagaAlike surroundings left right key gateway kind SourceMutationReceipt.Alike
      (performStep identity step) (performStep identity step) := by
  apply Sides.Keeps.call (fun reply answer : Except ActionError ActionPreview =>
    Together Eq ActionError.Alike reply answer)
  · intro start final level
    obtain ⟨same, outcomes, after⟩ :=
      alike_perform zoned kind (.same (.preview step.action identity defaultTtl)) level
    exact ⟨same, reply_preview_alike outcomes _ _ _, after⟩
  · intro previewed answered together
    show SagaAlike _ _ _ _ _ _ _ ((Program.ofExcept previewed).bind _)
      ((Program.ofExcept answered).bind _)
    apply Sides.Keeps.bind (Sides.Keeps.ends together)
    intro shown _ same
    subst same
    apply Sides.Keeps.call (fun reply answer : Except ActionError StoredReceipt =>
      Together SourceMutationReceipt.Alike ActionError.Alike reply answer)
    · intro start final level
      obtain ⟨same, outcomes, after⟩ :=
        alike_perform zoned kind (.same (.execute step.action shown identity step.approval)) level
      exact ⟨same, reply_execute_alike outcomes _ _ _ _, after⟩
    · intro executed other together
      exact Sides.Keeps.ends together

/-- A completed step is compensated alike. -/
theorem alike_compensateStep (identity : RequestIdentity) {completed other : CompletedStep}
    (steps : completed.Alike other) :
    SagaAlike surroundings left right key gateway kind SourceMutationReceipt.Alike
      (compensateStep identity completed) (compensateStep identity other) := by
  obtain ⟨step, receipt⟩ := completed
  obtain ⟨_, another⟩ := other
  obtain ⟨same, receipts⟩ := steps
  dsimp only at same receipts
  subst same
  apply Sides.Keeps.call (fun reply answer : Except ActionError StoredReceipt =>
    Together SourceMutationReceipt.Alike ActionError.Alike reply answer)
  · intro start final level
    obtain ⟨same, outcomes, after⟩ := alike_perform zoned kind
      (.compensate step.action identity step.approval receipts) level
    exact ⟨same, reply_compensate_alike outcomes _ _ _ _ _, after⟩
  · intro compensated answered together
    exact Sides.Keeps.ends together

omit [Stdlib] zoned in
/-- The receipts of completed steps that are alike. -/
theorem receipts_alike {completed others : List CompletedStep}
    (steps : List.Forall₂ CompletedStep.Alike completed others) :
    AllAlike (completed.map Prod.snd) (others.map Prod.snd) := by
  induction steps with
  | nil => exact .nil
  | cons first _ ih => exact .cons first.2 ih

/-- Completed steps are rolled back alike. -/
theorem alike_rollBack (identity : RequestIdentity) (failedActionId : String)
    {completed others : List CompletedStep}
    (steps : List.Forall₂ CompletedStep.Alike completed others)
    {undo undone : List CompletedStep} (remaining : List.Forall₂ CompletedStep.Alike undo undone)
    {compensations receipts : List StoredReceipt} (sofar : AllAlike compensations receipts) :
    SagaAlike surroundings left right key gateway kind ActionSagaOutcome.Alike
      (rollBack identity completed failedActionId undo compensations)
      (rollBack identity others failedActionId undone receipts) := by
  induction remaining generalizing compensations receipts with
  | nil =>
    have level : completed.isEmpty = others.isEmpty := by
      cases steps <;> rfl
    unfold rollBack
    rw [level]
    exact Sides.Keeps.ret ⟨rfl, receipts_alike steps, sofar, rfl⟩
  | cons next _ ih =>
    apply Sides.Keeps.bind ((alike_compensateStep zoned kind identity next).attempt
      fun _ _ alike => alike.controlled)
    intro outcome result together
    cases together with
    | error _ => exact Sides.Keeps.ret ⟨rfl, receipts_alike steps, sofar, rfl⟩
    | ok alike => exact ih (List.rel_append sofar (.cons alike .nil))

/-- The steps that are left run alike after completed ones. -/
theorem alike_runSteps (identity : RequestIdentity) (pending : List ActionSagaStep)
    {completed others : List CompletedStep}
    (steps : List.Forall₂ CompletedStep.Alike completed others) :
    SagaAlike surroundings left right key gateway kind ActionSagaOutcome.Alike
      (runSteps identity pending completed) (runSteps identity pending others) := by
  induction pending generalizing completed others with
  | nil => exact Sides.Keeps.ret ⟨rfl, receipts_alike steps, .nil, rfl⟩
  | cons step later ih =>
    apply Sides.Keeps.bind ((alike_performStep zoned kind identity step).attempt
      fun _ _ alike => alike.controlled)
    intro outcome result together
    cases together with
    | error _ =>
      exact alike_rollBack zoned kind identity _ steps (List.rel_reverse steps) .nil
    | ok alike => exact ih (List.rel_append steps (.cons ⟨rfl, alike⟩ .nil))

/-- A saga runs alike with both sinks. -/
theorem alike_run (identity : RequestIdentity) (steps : List ActionSagaStep) :
    SagaAlike surroundings left right key gateway kind ActionSagaOutcome.Alike (run identity steps)
      (run identity steps) := by
  unfold run
  cases steps with
  | nil => exact Sides.Keeps.raise (.same _)
  | cons step later => exact alike_runSteps zoned kind identity (step :: later) .nil

end Sagas

/-! ## Sessions -/

section Sessions

variable (surroundings) (left right) (key) (gateway) (kind)
  (zoned : ∀ state, (surroundings.clock state).aware = true)

include zoned

/-- A request is served alike. -/
theorem alike_serve {request other : Request} (requests : request.Alike other)
    {start : Shared × σ × ρ} {final : Shared × σ × τ} (level : Level gateway start final) :
    let served := (surroundings.withTelemetry left).serve key gateway kind request start
    let answered := (surroundings.withTelemetry right).serve key gateway kind other final
    served.1.Alike answered.1 ∧ Level gateway served.2 answered.2 := by
  cases requests with
  | call calls =>
    obtain ⟨same, outcomes, after⟩ := alike_perform zoned kind calls level
    exact ⟨.call same outcomes, after⟩
  | saga identity steps =>
    have alike : SagaAlike surroundings left right key gateway kind _ _ _ :=
      alike_run zoned kind identity steps
    obtain ⟨same, outcomes, after⟩ := alike start final level fun _ _ => trivial
    exact ⟨.saga same outcomes, after⟩

/-- From states that are level, requests are served alike. -/
theorem alike_serveAll {requests others : List Request}
    (asked : List.Forall₂ Request.Alike requests others) {start : Shared × σ × ρ}
    {final : Shared × σ × τ} (level : Level gateway start final) :
    ServedAlike gateway
      ((surroundings.withTelemetry left).serveAll key gateway kind requests start)
      ((surroundings.withTelemetry right).serveAll key gateway kind others final) := by
  induction asked generalizing start final with
  | nil => exact ⟨.nil, level.verified.1, level.verified.2⟩
  | cons first _ ih =>
    obtain ⟨response, after⟩ :=
      alike_serve surroundings left right key gateway kind zoned first level
    have rest := ih after
    exact ⟨.cons response rest.responses, rest.verified, rest.verifies⟩

/-- Requests are served alike with any two telemetry sinks, as long as the clock tells its time
zone. -/
theorem telemetry_uninfluential {requests others : List Request}
    (asked : List.Forall₂ Request.Alike requests others) {before : Shared}
    (verified : (before.gateways gateway).audit.verify = true) (start : σ) (memory : ρ)
    (record : τ) :
    ServedAlike gateway
      ((surroundings.withTelemetry left).serveAll key gateway kind requests (before, start, memory))
      ((surroundings.withTelemetry right).serveAll key gateway kind others
        (before, start, record)) := by
  have tables : ∀ binding, Option.Rel BoundAlike
      ((before.gateways gateway).idempotency.lookup binding)
      ((before.gateways gateway).idempotency.lookup binding) := by
    intro binding
    cases (before.gateways gateway).idempotency.lookup binding with
    | none => exact .none
    | some bound => exact .some ⟨rfl, .refl bound.2⟩
  apply alike_serveAll surroundings left right key gateway kind zoned asked
  exact ⟨rfl, tables, .refl before.journal, verified, verified⟩

end Sessions

end Influence

/-! ## Small sessions -/

/-- A sink that always returns. -/
def Telemetry.silent : Telemetry Unit where
  emit memory _ := (.ok (), memory)
  exceptions := by simp

/-- A sink that always raises. -/
def Telemetry.failing : Telemetry Unit where
  emit memory _ := (.error (.other "down"), memory)
  exceptions := by
    intro memory event error raised
    cases raised
    rfl

/-- Surroundings that allow everything, at one time. -/
def TimedSurroundings.obliging (time : DateTime) : TimedSurroundings Unit where
  clock _ := time
  respond state op := (DataHarness.obliging (.ok successful) op, state)
  emitted state := state

/-- A small plan is executed and compensated alike with a failing sink. -/
theorem telemetry_uninfluential_small : letI := Stdlib.transparent
    let surroundings := TimedSurroundings.obliging noon
    let requests : List Request := [.call (.execute reversible reversible.smallPreview .small none),
      .saga .small [⟨reversible, none⟩]]
    ServedAlike 0
      ((surroundings.withTelemetry .silent).serveAll .small 0 .durable requests (.initial, (), ()))
      ((surroundings.withTelemetry .failing).serveAll .small 0 .durable requests
        (.initial, (), ())) := by
  let := Stdlib.transparent
  exact telemetry_uninfluential (.obliging noon) .silent .failing .small 0 .durable (fun _ => rfl)
    (.cons (.call (.same _)) (.cons (.saga _ _) .nil)) rfl () () ()

/-- The exception is an `IdempotencyConflict`. -/
def ActionError.conflicts : ActionError → Bool
  | .idempotencyConflict _ => true
  | _ => false

/-- The response raised `IdempotencyConflict`. -/
def Response.conflicts : Response → Bool
  | .call activity =>
    match activity.outcome with
    | .ok _ => false
    | .error error => error.conflicts
  | .saga _ _ => false

/-- Responses that are alike raised `IdempotencyConflict` for the same requests. -/
theorem conflicts_alike {responses others : List Response}
    (alike : List.Forall₂ Response.Alike responses others) :
    responses.map Response.conflicts = others.map Response.conflicts := by
  induction alike with
  | nil => rfl
  | cons first _ ih =>
    rw [List.map_cons, List.map_cons, ih]
    congr 1
    cases first with
    | saga => rfl
    | @call activity other same outcomes =>
      unfold Response.conflicts
      dsimp only
      revert outcomes
      generalize activity.outcome = outcome
      generalize other.outcome = result
      intro outcomes
      cases outcomes with
      | ok => rfl
      | error alike => cases alike <;> rfl

/-- With a clock that does not tell its time zone, a failing sink makes `reconcile` of an unknown
action raise another exception. -/
theorem telemetry_influences_zoneless : letI := Stdlib.transparent
    let surroundings := TimedSurroundings.obliging { noon with utcoffset := none }
    let requests : List Request := [.call (.reconcile reversible .small)]
    ¬ ServedAlike 0
      ((surroundings.withTelemetry .silent).serveAll .small 0 .durable requests (.initial, (), ()))
      ((surroundings.withTelemetry .failing).serveAll .small 0 .durable requests
        (.initial, (), ())) := by
  let := Stdlib.transparent
  let surroundings := TimedSurroundings.obliging { noon with utcoffset := none }
  let requests : List Request := [.call (.reconcile reversible .small)]
  have quiet : ((surroundings.withTelemetry .silent).serveAll .small 0 .durable requests
      (.initial, (), ())).1.map Response.conflicts = [true] := by decide +kernel
  have raising : ((surroundings.withTelemetry .failing).serveAll .small 0 .durable requests
      (.initial, (), ())).1.map Response.conflicts = [false] := by decide +kernel
  intro surroundings requests served
  have same := conflicts_alike served.responses
  rw [quiet, raising] at same
  cases same

end DataHarness
