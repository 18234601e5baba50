import DataHarness.Gateway.Dispatch

/-!
# The gates before a mutation

Every `connector.mutate` is a call of one `execute`, for the plan of that `execute`, and
earlier in it the preview, the approval and the policy were checked (`Execution.Gated`). The
plan that `compensate` derives needs no approval of its own: its caller's approval was checked
before, for the original plan and for compensation (`ExecutesWithin`).
-/

namespace DataHarness

open Effect Program ActionGateway

/-- The arguments of a call of `execute`. -/
structure Execution where
  action : SourceActionPlan
  preview : ActionPreview
  identity : RequestIdentity
  approval : Option ActionApproval

/-- The approval verifier accepted an approval of a plan. -/
def Verified (action : SourceActionPlan) (approval : Option ActionApproval)
    (identity : RequestIdentity) (now : DateTime) (compensation : Bool)
    (history : List gatewaySignature.Event) : Prop :=
  ∃ given, approval = some given ∧
    (⟨.verifyApproval given action identity now compensation, (.ok true : Except ActionError Bool)⟩ :
      gatewaySignature.Event) ∈ history

/-- What an execution has checked, by the calls it has made. -/
structure Execution.GatedAt [Stdlib] (execution : Execution) (started : DateTime)
    (history : List gatewaySignature.Event) : Prop where
  /-- The clock was read first. -/
  clock : history.head? = some ⟨.now, started⟩
  allowed : execution.preview.allowed = true
  unexpired : started.before? execution.preview.expiresAt = some true
  action : execution.preview.actionId = execution.action.actionId
  digest : execution.preview.actionDigest = execution.action.digest
  policy : execution.preview.policyDigest = execution.identity.policyDigest
  /-- A plan that needs a human was approved for execution. -/
  approved : execution.action.approvalMode = .human →
    Verified execution.action execution.approval execution.identity started false history
  /-- The policy allowed the stage `execute` of the plan with its digest. -/
  authorized : ∃ decision : PolicyDecision, decision.allowed = true ∧
    (⟨.evaluate (authorizationRequest execution.action execution.identity "execute"),
      (.ok decision : Except ActionError PolicyDecision)⟩ : gatewaySignature.Event) ∈ history

/-- An execution has passed its gates. -/
def Execution.Gated [Stdlib] (execution : Execution) (history : List gatewaySignature.Event) :
    Prop :=
  ∃ started, execution.GatedAt started history

/-- A verified approval stays verified. -/
theorem Verified.mono {action : SourceActionPlan} {approval : Option ActionApproval}
    {identity : RequestIdentity} {now : DateTime} {compensation : Bool}
    {history longer : List gatewaySignature.Event}
    (verified : Verified action approval identity now compensation history)
    (grown : history <+: longer) : Verified action approval identity now compensation longer := by
  obtain ⟨given, same, member⟩ := verified
  exact ⟨given, same, grown.subset member⟩

/-- A valid preview is allowed, unexpired and bound to the plan and the policy. -/
theorem validatePreview_iff [Stdlib] {action : SourceActionPlan} {preview : ActionPreview}
    {identity : RequestIdentity} {now : DateTime} :
    validatePreview action preview identity now = .ok () ↔
      preview.allowed = true ∧ preview.actionId = action.actionId ∧
        action.digested = .ok preview.actionDigest ∧ preview.policyDigest = identity.policyDigest ∧
          now.before? preview.expiresAt = some true := by
  rw [← SourceActionPlan.takeDigest_eq_ok]
  simp only [validatePreview]
  split
  · rename_i refused
    refine iff_of_false (by simp) ?_
    rintro ⟨allowed, named, -⟩
    simp [allowed, named] at refused
  · rename_i named
    simp only [not_or, Bool.not_eq_false, not_not] at named
    cases action.takeDigest with
    | error error => simp
    | ok digest =>
      dsimp only
      split
      · rename_i refused
        refine iff_of_false (by simp) ?_
        rintro ⟨-, -, own, policy, -⟩
        simp [← Except.ok.inj own, policy] at refused
      · rename_i bound
        simp only [not_or, not_not] at bound
        split <;> simp_all

section Gates

variable {permits : List gatewaySignature.Event → GatewayOp → Prop}
  (free : ∀ past op, op.dispatches = false → permits past op)

include free

/-- The approval check ends with a value only when no human is needed or one approved. -/
theorem validateApproval_gates (action : SourceActionPlan) (approval : Option ActionApproval)
    (identity : RequestIdentity) (now : DateTime) (compensation : Bool)
    (past : List gatewaySignature.Event) :
    (validateApproval action approval identity now compensation).Follows
      (Protocol.history permits) past fun outcome final => past <+: final ∧
        (outcome = .ok () → action.approvalMode = .human →
          Verified action approval identity now compensation final) := by
  simp only [validateApproval]
  split
  · rename_i unneeded
    exact ⟨List.prefix_refl past, fun _ human => by cases unneeded.symm.trans human⟩
  · split
    · exact ⟨List.prefix_refl past, fun same => by cases same⟩
    · rename_i given
      refine ⟨free _ _ rfl, fun verdict _ => ?_⟩
      have grown := List.prefix_append past
        [(⟨.verifyApproval given action identity now compensation, verdict⟩ : gatewaySignature.Event)]
      cases verdict with
      | error error => exact ⟨grown, fun same => by cases same⟩
      | ok valid =>
        cases valid with
        | false => exact ⟨grown, fun same => by cases same⟩
        | true => exact ⟨grown, fun _ _ => ⟨given, rfl, by simp [Protocol.history]⟩⟩

variable [Stdlib]

/-- The policy check ends with a decision of the policy. -/
theorem authorize_gates (action : SourceActionPlan) (identity : RequestIdentity) (stage : String)
    (past : List gatewaySignature.Event) :
    (authorize action identity stage).Follows (Protocol.history permits) past
      fun outcome final => past <+: final ∧ ∀ decision, outcome = .ok decision →
        (⟨.evaluate (authorizationRequest action identity stage),
          (.ok decision : Except ActionError PolicyDecision)⟩ : gatewaySignature.Event) ∈ final := by
  refine Follows.bind (follows_ofExcept _ _) ?_ fun _ _ raised =>
    ⟨raised.2 ▸ List.prefix_refl _, fun _ same => nomatch same⟩
  rintro _ _ ⟨-, rfl⟩
  refine Follows.bind (perform_history (free _ _ rfl)) ?_ (by simp)
  rintro evaluated asked ⟨_, ⟨⟩, rfl⟩
  refine Follows.bind (follows_ofExcept _ evaluated) ?_ ?_
  · rintro decision _ ⟨rfl, rfl⟩
    refine Follows.bind ((emitEvent_makes plain_undispatching _ _).follows_history free _) ?_ ?_
    · intro _ final grown
      refine ⟨(List.prefix_append _ _).trans grown, ?_⟩
      rintro _ ⟨⟩
      exact grown.subset (by simp)
    · intro error final grown
      exact ⟨(List.prefix_append _ _).trans grown, fun _ same => nomatch same⟩
  · rintro error _ ⟨rfl, rfl⟩
    exact ⟨List.prefix_append _ _, fun _ same => nomatch same⟩

/-- The checks of `execute` end with a value only when every gate was passed. -/
theorem passGates_gates (execution : Execution) :
    (passGates execution.action execution.preview execution.identity execution.approval).Follows
      (Protocol.history permits) [] fun outcome final =>
        ∀ checked, outcome = .ok checked → execution.GatedAt checked.1 final := by
  refine Follows.bind (perform_history (free _ _ rfl)) ?_ (by simp)
  rintro started _ ⟨_, ⟨⟩, rfl⟩
  refine Follows.bind (follows_ofExcept _ _) ?_ (by simp)
  rintro _ _ ⟨shown, rfl⟩
  refine Follows.bind (validateApproval_gates free _ _ _ _ _ _) ?_ (by simp)
  rintro _ asked ⟨begun, approved⟩
  refine Follows.bind (authorize_gates free _ _ _ _) ?_ (by simp)
  rintro decision final ⟨grown, authorized⟩
  have valid := validatePreview_iff.mp shown.symm
  simp only [pure_eq]
  split
  · rename_i allowed
    rintro _ ⟨⟩
    exact {
      clock := by
        obtain ⟨more, rfl⟩ := begun.trans grown
        rfl
      allowed := valid.1
      unexpired := valid.2.2.2.2
      action := valid.2.1
      digest := (SourceActionPlan.digested_eq_ok.mp valid.2.2.1).2.symm
      policy := valid.2.2.2.1
      approved := fun human => (approved rfl human).mono grown
      authorized := ⟨decision, allowed, authorized decision rfl⟩ }
  · exact fun _ same => nomatch same

end Gates

/-! ## Executions and the calls that make them -/

section Executions

variable [Stdlib] {kind : GatewayKind} {call : GatewayCall} {execution : Execution}
  {history : List gatewaySignature.Event} {sourceId : String} {request : MutationRequest}

/-- Passed gates stay passed. -/
theorem Execution.Gated.mono {longer : List gatewaySignature.Event}
    (gated : execution.Gated history) (grown : history <+: longer) : execution.Gated longer := by
  obtain ⟨started, gated⟩ := gated
  refine ⟨started, { gated with
    clock := ?_
    approved := fun human => (gated.approved human).mono grown
    authorized := ?_ }⟩
  · obtain ⟨more, rfl⟩ := grown
    simp [List.head?_append, gated.clock]
  · obtain ⟨decision, allowed, member⟩ := gated.authorized
    exact ⟨decision, allowed, grown.subset member⟩

/-- The coroutine of an execution on a gateway of a class. -/
def Execution.program (execution : Execution) (kind : GatewayKind) :
    GatewayProgram StoredReceipt :=
  kind.execute execution.action execution.preview execution.identity execution.approval

/-- A dispatch is of the execution's own plan, after its gates. -/
def Execution.Permits (execution : Execution) (history : List gatewaySignature.Event)
    (op : GatewayOp) : Prop :=
  op.dispatches = true →
    op = .invoke (.mutate execution.action.sourceId (mutationRequest execution.action)) ∧
      execution.Gated history

/-- An execution dispatches only its own plan, and only after its gates. -/
theorem execution_follows (execution : Execution) (kind : GatewayKind) :
    (execution.program kind).Follows (Protocol.history execution.Permits) []
      fun _ _ => True := by
  have free : ∀ history op, op.dispatches = false → execution.Permits history op :=
    fun _ _ other dispatches => absurd dispatches (by simp [other])
  rw [Execution.program, kind_execute_eq]
  refine Follows.bind (passGates_gates free execution) ?_ (by simp)
  intro checked passed gated
  have own : (kind.executeChecked execution.action execution.identity checked.2 checked.1).Makes
      fun op : GatewayOp => op.dispatches = true →
        op = .invoke (.mutate execution.action.sourceId (mutationRequest execution.action)) :=
    kind_executeChecked_makes (fun _ quiet dispatches => absurd dispatches (by simp [quiet.1]))
      (fun _ _ dispatches => nomatch dispatches) kind execution.action (fun _ => rfl)
      execution.identity checked.2 checked.1
  have kept : (kind.executeChecked execution.action execution.identity checked.2 checked.1).Follows
      (Protocol.history execution.Permits) passed fun _ final => execution.Gated final :=
    own.follows_keeping ⟨checked.1, gated checked rfl⟩
      (fun past op gated own dispatches => ⟨own dispatches, gated⟩)
      fun past op reply gated _ => gated.mono (List.prefix_append _ _)
  exact kept.mono fun _ _ _ => trivial

/-- The call of a mutation. -/
abbrev mutateEvent (sourceId : String) (request : MutationRequest) : gatewaySignature.Event :=
  ⟨.invoke (.mutate sourceId request), ()⟩

/-- A dispatch of an execution carries its plan and comes after its gates. -/
theorem execution_dispatch {left : GatewayProgram StoredReceipt}
    (trace : Trace (execution.program kind) (history ++ [mutateEvent sourceId request]) left) :
    sourceId = execution.action.sourceId ∧ request = mutationRequest execution.action ∧
      execution.Gated history := by
  obtain ⟨same, gated⟩ :=
    ((execution_follows execution kind).history trace).1 history _ [] rfl rfl
  cases same
  exact ⟨rfl, rfl, gated⟩

/-- The execution a call makes, after the calls it made before. -/
inductive Executes : GatewayCall → List gatewaySignature.Event → Execution → Prop
  /-- `execute` is the execution itself. -/
  | execute (execution : Execution) :
    Executes (.execute execution.action execution.preview execution.identity execution.approval) []
      execution
  /-- `compensate` executes the derived plan, once the original one was approved for it. -/
  | compensate (original : SourceActionPlan) (receipt : StoredReceipt) (identity : RequestIdentity)
    (approval : Option ActionApproval) (spec : CompensationSpec) (preview : ActionPreview)
    (outside : List gatewaySignature.Event) (declared : original.compensation = some spec)
    (approved : original.approvalMode = .human →
      ∃ now, Verified original approval identity now true outside) :
    Executes (.compensate original receipt identity approval) outside
      ⟨original.compensating spec, preview, identity, none⟩

/-- The part of `compensate` before its execution ends with a value only when the original plan
needs no human or was approved for compensation. -/
theorem previewCompensation_gates (original : SourceActionPlan) (spec : CompensationSpec)
    (receipt : StoredReceipt) (identity : RequestIdentity) (approval : Option ActionApproval)
    {outside : List gatewaySignature.Event} {preview : ActionPreview}
    (trace : Trace (previewCompensation original spec receipt identity approval) outside
      (ret preview)) :
    original.approvalMode = .human → ∃ now, Verified original approval identity now true outside := by
  have free : ∀ (past : List gatewaySignature.Event) (op : GatewayOp),
      op.dispatches = false → True := fun _ _ _ => trivial
  have follows : (previewCompensation original spec receipt identity approval).Follows
      (Protocol.history fun _ _ => True) [] fun outcome final => ∀ preview, outcome = .ok preview →
        original.approvalMode = .human →
          ∃ now, Verified original approval identity now true final := by
    refine Follows.bind (follows_ofExcept _ _) ?_ (by simp)
    rintro _ _ ⟨-, rfl⟩
    split
    · exact fun _ same => by cases same
    · split
      · exact fun _ same => by cases same
      · refine Follows.bind (perform_history trivial) ?_ (by simp)
        rintro asked _ -
        refine Follows.bind (validateApproval_gates free original approval identity asked true _) ?_
          (by simp)
        rintro _ past ⟨-, approved⟩
        refine Follows.mono ((preview_makes plain_undispatching _ identity _).follows_history free
          past) ?_
        exact fun _ final grown _ _ human => ⟨asked, (approved rfl human).mono grown⟩
  exact (follows.history trace).2 preview rfl

/-- A dispatch of a call is the dispatch of the execution it makes. -/
theorem program_dispatch {left : GatewayProgram Returned}
    (trace : Trace (call.program kind) (history ++ [mutateEvent sourceId request]) left) :
    ∃ outside inside execution, history = outside ++ inside ∧ Executes call outside execution ∧
      ∃ rest, Trace (execution.program kind) (inside ++ [mutateEvent sourceId request]) rest := by
  have quiet : ∀ op : GatewayOp, op.Quiet → op.dispatches = false := fun _ other => other.1
  have dispatching : ¬ (mutateEvent sourceId request).1.dispatches = false := by
    simp [GatewayOp.dispatches]
  have returns : ∀ receipt, (ret (.receipt receipt) : GatewayProgram Returned).Makes
      fun op : GatewayOp => op.dispatches = false := fun _ => trivial
  have raises : ∀ (α : Type) error, (raise error : GatewayProgram α).Makes
      fun op : GatewayOp => op.dispatches = false := fun _ _ => trivial
  cases call with
  | preview action identity ttl =>
    have makes := Makes.bind (preview_makes plain_undispatching action identity ttl) fun shown =>
      makes_ret (Returned.preview shown)
    exact absurd (makes.trace trace _ (by simp)) dispatching
  | execute action preview identity approval =>
    obtain ⟨rest, ran⟩ := Trace.last_first returns dispatching trace
    exact ⟨[], history, ⟨action, preview, identity, approval⟩, rfl,
      .execute ⟨action, preview, identity, approval⟩, rest, ran⟩
  | compensate original receipt identity approval =>
    obtain ⟨rest, ran⟩ := Trace.last_first returns dispatching trace
    simp only [GatewayKind.compensate] at ran
    split at ran
    · exact absurd ((raises _ _).trace ran _ (by simp)) dispatching
    · rename_i spec declared
      obtain ⟨outside, after, preview, rfl, before, tail⟩ := Trace.last_second
        (previewCompensation_makes plain_undispatching original spec receipt identity approval)
        dispatching ran
      obtain ⟨rest, inside⟩ := Trace.last_first
        (fun compensated =>
          recordCompensation_makes plain_undispatching original receipt compensated)
        dispatching tail
      exact ⟨outside, after, ⟨original.compensating spec, preview, identity, none⟩, rfl,
        .compensate original receipt identity approval spec preview outside declared
          (previewCompensation_gates original spec receipt identity approval before), rest, inside⟩
  | reconcile action identity =>
    cases kind with
    | action => exact absurd ((raises _ _).trace trace _ (by simp)) dispatching
    | durable =>
      have makes : (DurableActionGateway.reconcile action identity).Makes
          fun op : GatewayOp => op.dispatches = false :=
        DurableActionGateway.reconcile_makes quiet (fun _ _ _ _ => rfl) identity
      exact absurd ((makes.bind returns).trace trace _ (by simp)) dispatching

/-- Every `connector.mutate` of a run is made by one execution, that of a call of `execute` or of
`compensate`, carries the plan of this execution, and comes after its gates; an original plan
that needs a human was approved for compensation before. -/
theorem mutation_gated {key : IntegrityKey} {kinds : Nat → GatewayKind}
    {before after : List (Label gatewaySignature Owner)} {index : Nat} {owner : Owner}
    {pool : Pool gatewaySignature ActionError Returned Owner Shared}
    (run : (gateways key kinds).system.Run ⟨.initial, []⟩
      (before ++ .perform index owner (.invoke (.mutate sourceId request)) () :: after) pool) :
    ∃ outside inside execution, Machine.made before index = outside ++ inside ∧
      Executes owner.call outside execution ∧
      (∃ rest, Trace (execution.program (kinds owner.gateway))
        (inside ++ [mutateEvent sourceId request]) rest) ∧
      sourceId = execution.action.sourceId ∧ request = mutationRequest execution.action ∧
        execution.Gated inside := by
  obtain ⟨left, trace⟩ := Machine.run_call run
  obtain ⟨outside, inside, execution, same, executes, rest, ran⟩ := program_dispatch trace
  exact ⟨outside, inside, execution, same, executes, ⟨rest, ran⟩, execution_dispatch ran⟩

end Executions

/-- One execution dispatches its plan after its gates. -/
theorem mutation_gated_small : letI := Stdlib.transparent
    ∃ before after index owner sourceId request pool,
      durableGateways.system.Run ⟨.initial, []⟩
        (before ++ .perform index owner (.invoke (.mutate sourceId request)) () :: after) pool ∧
      ∃ outside inside execution, Machine.made before index = outside ++ inside ∧
        Executes owner.call outside execution ∧ request = mutationRequest execution.action ∧
          execution.Gated inside := by
  let := Stdlib.transparent
  obtain ⟨labels, pool, run, seen⟩ := played durableGateways (oneExecution successful)
    (fun labels _ => labels.any fun label => (dispatched? label).isSome) (by decide +kernel)
  obtain ⟨label, member, dispatching⟩ := List.any_eq_true.mp seen
  obtain ⟨before, after, rfl⟩ := List.append_of_mem member
  simp only [dispatched?] at dispatching
  split at dispatching
  · rename_i index owner sourceId request reply
    obtain ⟨outside, inside, execution, same, executes, -, -, carried, gated⟩ := mutation_gated run
    exact ⟨before, after, index, owner, sourceId, request, pool, run, outside, inside, execution,
      same, executes, carried, gated⟩
  · simp at dispatching

end DataHarness
