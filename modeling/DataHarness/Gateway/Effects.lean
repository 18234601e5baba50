import DataHarness.Gateway.Quiet
import DataHarness.Library.Sequential

/-!
# What one call does to the source

`execute` dispatches its plan at most once, and what it returns says whether it did: `executed`
where the source answered that the plan was applied, `already-executed` where a replay left the
source alone. The in-memory gateway binds a key only to a plan that was applied in the same call.
-/

namespace DataHarness

open Effect Program ActionGateway

/-- How far one call has come with its plan. -/
inductive MutationPhase
  /-- The call has neither found a binding nor dispatched. -/
  | fresh
  /-- The idempotency key was bound to a plan of this digest. -/
  | bound (digest : String)
  /-- `connector.mutate` was called. -/
  | dispatched
  /-- The source answered that the plan was applied. -/
  | applied

/-- The answer to an awaited mutation reports success and postconditions. -/
def GatewayOp.applies : (op : GatewayOp) → op.Reply → Bool
  | .await (.mutate _ _), .ok result => result.isMapping && succeeded result
  | _, _ => false

/-- A call looks up the key of its plan, dispatches the plan if it found nothing, and binds the
key once the plan was applied. -/
def mutationProtocol [Stdlib] (plan : SourceActionPlan) :
    Protocol gatewaySignature MutationPhase where
  may phase op :=
    match op with
    | .lookup binding => phase = .fresh ∧ binding = plan.binding
    | .invoke (.mutate sourceId request) =>
      phase = .fresh ∧ sourceId = plan.sourceId ∧ request = mutationRequest plan
    | .await (.mutate _ _) => phase = .dispatched
    | .remember binding digest _ =>
      phase = .applied ∧ binding = plan.binding ∧ digest = plan.digest
    | _ => True
  can _ _ := True
  next phase op reply :=
    match op, reply with
    | .lookup _, some (digest, _) => .bound digest
    | .invoke (.mutate _ _), _ => .dispatched
    | .await (.mutate sourceId request), answer =>
      if GatewayOp.applies (.await (.mutate sourceId request)) answer then .applied else phase
    | _, _ => phase

/-- The call leaves the phase as it is. -/
def GatewayOp.steady : GatewayOp → Bool
  | .lookup _ => false
  | .invoke (.mutate _ _) => false
  | .await (.mutate _ _) => false
  | .remember _ _ _ => false
  | _ => true

/-- A plain call is steady. -/
theorem GatewayOp.steady_of_plain (op : GatewayOp) (plain : op.plain = true) :
    op.steady = true := by
  cases op with
  | invoke => cases plain
  | await => cases plain
  | lookup => cases plain
  | remember => cases plain
  | _ => rfl

section Phases

variable [Stdlib] {plan : SourceActionPlan} {phase : MutationPhase}

/-- Steady calls are permitted in every phase. -/
theorem steady_may {op : GatewayOp} (steady : op.steady = true) :
    (mutationProtocol plan).may phase op := by
  cases op with
  | invoke call =>
    cases call with
    | mutate => cases steady
    | reconcile => trivial
  | await call =>
    cases call with
    | mutate => cases steady
    | reconcile => trivial
  | lookup => cases steady
  | remember => cases steady
  | _ => trivial

/-- Steady calls leave the phase as it is. -/
theorem steady_next {op : GatewayOp} (steady : op.steady = true) (reply : op.Reply) :
    (mutationProtocol plan).next phase op reply = phase := by
  cases op with
  | invoke call =>
    cases call with
    | mutate => cases steady
    | reconcile => rfl
  | await call =>
    cases call with
    | mutate => cases steady
    | reconcile => rfl
  | lookup => cases steady
  | _ => rfl

/-- A steady program ends in the phase it starts from. -/
theorem steady_follows {α : Type} {program : GatewayProgram α}
    (makes : program.Makes fun op : GatewayOp => op.steady = true) (phase : MutationPhase) :
    program.Follows (mutationProtocol plan) phase fun _ final => final = phase :=
  makes.follows (fun _ steady => steady_may steady) fun _ reply steady => steady_next steady reply

/-- A steady program and what follows it in the same phase. -/
theorem steady_bind {α β : Type} {program : GatewayProgram α} {rest : α → GatewayProgram β}
    {post : Except ActionError β → MutationPhase → Prop}
    (makes : program.Makes fun op : GatewayOp => op.steady = true)
    (onward : ∀ value, (rest value).Follows (mutationProtocol plan) phase post)
    (raises : ∀ error, post (.error error) phase) :
    (program.bind rest).Follows (mutationProtocol plan) phase post := by
  apply (steady_follows makes phase).bind
  · intro value final same
    rw [same]
    exact onward value
  · intro error final same
    rw [same]
    exact raises error

/-- A program that returns a successful answer got it from the source. -/
def Returns (ended : Except ActionError PyValue) (phase : MutationPhase) : Prop :=
  ∀ result, ended = .ok result → succeeded result = true → phase = .applied

/-- An attempt that returns a successful answer got it from the source. -/
def Answered (ended : Except ActionError (Except ActionError PyValue)) (phase : MutationPhase) :
    Prop :=
  ∀ result, ended = .ok (.ok result) → succeeded result = true → phase = .applied

/-- An attempt answers what the program returns. -/
theorem attempt_phase {program : GatewayProgram PyValue}
    (follows : program.Follows (mutationProtocol plan) phase Returns) :
    (program.attempt ActionError.isException).Follows (mutationProtocol plan) phase Answered := by
  apply follows.attempt
  · intro outcome final returned result same
    exact returned result (Except.ok.inj same)
  · exact fun _ _ _ _ same => nomatch same

/-- `mutate` dispatches its plan, and returns what the source answered. -/
theorem mutate_phase (action : SourceActionPlan) :
    (mutate action).Follows (mutationProtocol action) .fresh Returns := by
  have awaits : (ActionGateway.await (.mutate action.sourceId (mutationRequest action))).Follows
      (mutationProtocol action) .fresh fun ended final => ∀ result, ended = .ok result →
        result.isMapping = true → succeeded result = true → final = .applied := by
    refine ⟨⟨rfl, rfl, rfl⟩, fun _ _ => ⟨rfl, fun reply _ => ?_⟩⟩
    cases reply with
    | error error => exact fun _ same => nomatch same
    | ok answer =>
      intro result same mapping success
      cases same
      simp [mutationProtocol, GatewayOp.applies, mapping, success]
  apply awaits.bind
  · intro result final answered
    split <;> rename_i mapping
    · intro returned same success
      cases same
      exact answered result rfl mapping success
    · exact fun _ same => nomatch same
  · exact fun _ _ _ _ same => nomatch same

/-! ## What an execution returns -/

/-- A receipt tells what the execution that returned it has done with its plan. -/
def Tells (kind : GatewayKind) (plan : SourceActionPlan) (receipt : StoredReceipt)
    (phase : MutationPhase) : Prop :=
  receipt.state = .executed ∧ phase = .applied ∨
    receipt.state = .alreadyExecuted ∧ match kind with
      | .action => phase = .bound plan.digest
      | .durable => phase = .fresh

/-- An execution returns no receipt but one that tells what it has done. -/
def ReturnsTelling (kind : GatewayKind) (plan : SourceActionPlan)
    (ended : Except ActionError StoredReceipt) (phase : MutationPhase) : Prop :=
  ∀ receipt, ended = .ok receipt → Tells kind plan receipt phase

/-- An exception returns no receipt. -/
theorem returnsTelling_error (kind : GatewayKind) (error : ActionError) :
    ReturnsTelling kind plan (.error error) phase := fun _ same => nomatch same

/-- A replay returns a receipt in the state `already-executed`. -/
theorem replay_phase (kind : GatewayKind) (identity : RequestIdentity) (started : DateTime)
    (receipt : StoredReceipt)
    (found : match kind with
      | .action => phase = .bound plan.digest
      | .durable => phase = .fresh) :
    (replay plan identity started receipt).Follows (mutationProtocol plan) phase
      (ReturnsTelling kind plan) := by
  apply steady_bind (append_makes GatewayOp.steady_of_plain ..) _ (returnsTelling_error kind)
  intro audit
  apply steady_bind (emit_makes GatewayOp.steady_of_plain ..) _ (returnsTelling_error kind)
  intro sent returned same
  cases same
  exact .inr ⟨rfl, found⟩

/-- What `ActionGateway` does once the connector has raised returns nothing. -/
theorem connectorFailed_phase (identity : RequestIdentity) (decision : PolicyDecision)
    (started : DateTime) :
    (connectorFailed plan identity decision started).Follows (mutationProtocol plan) phase
      (ReturnsTelling .action plan) := by
  have raises := @returnsTelling_error _ plan phase .action
  apply steady_bind (now_makes GatewayOp.steady_of_plain) _ raises
  intro completed
  apply steady_bind (append_makes GatewayOp.steady_of_plain ..) _ raises
  intro audit
  apply steady_bind (makes_ask rfl) _ raises
  intro count
  apply steady_bind (emit_makes GatewayOp.steady_of_plain ..) _ raises
  exact fun _ => raises _

/-- What `ActionGateway` does once the connector has answered binds the key only to a plan that
was applied. -/
theorem connectorAnswered_phase (identity : RequestIdentity) (decision : PolicyDecision)
    (started : DateTime) {result : PyValue} (answered : succeeded result = true → phase = .applied) :
    (connectorAnswered plan identity decision started result).Follows (mutationProtocol plan) phase
      (ReturnsTelling .action plan) := by
  have raises := @returnsTelling_error _ plan phase .action
  apply steady_bind (now_makes GatewayOp.steady_of_plain) _ raises
  intro completed
  apply steady_bind (makes_ofExcept _) _ raises
  intro version
  apply steady_bind (append_makes GatewayOp.steady_of_plain ..) _ raises
  intro audit
  apply steady_bind (makes_ask rfl) _ raises
  intro count
  by_cases success : succeeded result = true
  · have applied := answered success
    rw [if_pos success]
    refine ⟨⟨applied, rfl, rfl⟩, fun _ _ => ?_⟩
    apply steady_bind (emit_makes GatewayOp.steady_of_plain ..) _ raises
    intro sent returned same
    cases same
    exact .inl ⟨by simp [SourceMutationReceipt.stored, makeReceipt, success], applied⟩
  · rw [if_neg success]
    apply steady_bind (emit_makes GatewayOp.steady_of_plain ..) _ raises
    exact fun _ => raises _

/-- `ActionGateway.dispatch` dispatches its plan in a fresh call. -/
theorem dispatch_phase (identity : RequestIdentity) (decision : PolicyDecision)
    (started : DateTime) :
    (ActionGateway.dispatch plan identity decision started).Follows (mutationProtocol plan) .fresh
      (ReturnsTelling .action plan) := by
  apply steady_bind (connector_makes GatewayOp.steady_of_plain _) _ (returnsTelling_error .action)
  intro handle
  have attempted : ((mutate plan).attempt ActionError.isException).Follows (mutationProtocol plan)
      .fresh Answered := attempt_phase (mutate_phase plan)
  apply attempted.bind
  · intro outcome final given
    cases outcome with
    | error error => exact connectorFailed_phase identity decision started
    | ok result =>
      exact connectorAnswered_phase identity decision started (given result rfl)
  · exact fun error _ _ => returnsTelling_error .action error

/-- `ActionGateway.execute` after its checks. -/
theorem executeChecked_phase (identity : RequestIdentity) (decision : PolicyDecision)
    (started : DateTime) :
    (ActionGateway.executeChecked plan identity decision started).Follows (mutationProtocol plan)
      .fresh (ReturnsTelling .action plan) := by
  refine ⟨⟨rfl, rfl⟩, fun existing _ => ?_⟩
  match existing with
  | none => exact dispatch_phase identity decision started
  | some (digest, receipt) =>
    by_cases other : digest ≠ plan.digest
    · change Follows _ _ (if digest ≠ plan.digest then _ else _) _
      rw [if_pos other]
      exact returnsTelling_error .action _
    · change Follows _ _ (if digest ≠ plan.digest then _ else _) _
      rw [if_neg other]
      have same : digest = plan.digest := not_not.mp other
      exact replay_phase .action identity started _ (by rw [← same]; rfl)

/-! ## The durable gateway -/

omit [Stdlib] in
/-- A transaction of the journal is steady. -/
theorem transaction_steady (tx : JournalTx) :
    (DurableActionGateway.transaction tx).Makes fun op : GatewayOp => op.steady = true := by
  have writes : (ask (.journal tx)).Makes fun op : GatewayOp => op.steady = true := makes_ask rfl
  have reads : (ask (.get tx.action.binding)).Makes fun op : GatewayOp => op.steady = true :=
    makes_ask rfl
  apply writes.bind
  intro reply
  apply Makes.bind (makes_ofExcept _)
  intro returned
  cases returned with
  | some record => trivial
  | none =>
    apply reads.bind
    intro found
    apply Makes.bind (makes_ofExcept _)
    intro updated
    cases updated <;> trivial

/-- The `try` block of the durable `execute` returns what the source answered. -/
theorem mutateThen_phase (action : SourceActionPlan) :
    (DurableActionGateway.mutateThen action).Follows (mutationProtocol action) .fresh Returns := by
  apply (mutate_phase action).bind
  · intro result final answered
    have after : (ask (.afterMutation action result)).Makes
        fun op : GatewayOp => op.steady = true := makes_ask rfl
    apply steady_bind after
    · intro hooked
      apply steady_bind (makes_ofExcept _)
      · intro passed returned same success
        cases same
        exact answered result rfl success
      · exact fun _ _ same => nomatch same
    · exact fun _ _ same => nomatch same
  · exact fun _ _ _ _ same => nomatch same

/-- An unknown outcome returns nothing. -/
theorem outcomeUnknown_phase (identity : RequestIdentity) :
    (DurableActionGateway.outcomeUnknown plan identity).Follows (mutationProtocol plan) phase
      (ReturnsTelling .durable plan) := by
  have raises := @returnsTelling_error _ plan phase .durable
  apply steady_bind (now_makes GatewayOp.steady_of_plain) _ raises
  intro failed
  apply steady_bind (transaction_steady _) _ raises
  intro record
  apply steady_bind (emit_makes GatewayOp.steady_of_plain ..) _ raises
  exact fun _ => raises _

/-- What the durable gateway returns once the connector has answered tells of its success. -/
theorem connectorAnsweredDurable_phase (identity : RequestIdentity) (decision : PolicyDecision)
    (started : DateTime) {result : PyValue} (answered : succeeded result = true → phase = .applied) :
    (DurableActionGateway.connectorAnswered plan identity decision started result).Follows
      (mutationProtocol plan) phase (ReturnsTelling .durable plan) := by
  have raises := @returnsTelling_error _ plan phase .durable
  apply steady_bind (now_makes GatewayOp.steady_of_plain) _ raises
  intro completed
  apply steady_bind (makes_ofExcept _) _ raises
  intro version
  apply steady_bind (append_makes GatewayOp.steady_of_plain ..) _ raises
  intro audit
  apply steady_bind (makes_ask rfl) _ raises
  intro count
  by_cases success : succeeded result = true
  · rw [if_pos success]
    apply steady_bind (transaction_steady _) _ raises
    intro record
    apply steady_bind (emit_makes GatewayOp.steady_of_plain ..) _ raises
    intro sent returned same
    cases same
    exact .inl ⟨by simp [SourceMutationReceipt.stored, makeReceipt, success], answered success⟩
  · rw [if_neg success]
    apply steady_bind (transaction_steady _) _ raises
    intro record
    apply steady_bind (emit_makes GatewayOp.steady_of_plain ..) _ raises
    exact fun _ => raises _

/-- The durable `dispatch` dispatches its plan in a fresh call. -/
theorem dispatchDurable_phase (identity : RequestIdentity) (decision : PolicyDecision)
    (started : DateTime) :
    (DurableActionGateway.dispatch plan identity decision started).Follows (mutationProtocol plan)
      .fresh (ReturnsTelling .durable plan) := by
  apply steady_bind (connector_makes GatewayOp.steady_of_plain _) _ (returnsTelling_error .durable)
  intro handle
  have attempted : ((DurableActionGateway.mutateThen plan).attempt ActionError.isException).Follows
      (mutationProtocol plan) .fresh Answered := attempt_phase (mutateThen_phase plan)
  apply attempted.bind
  · intro outcome final given
    cases outcome with
    | error error => exact outcomeUnknown_phase identity
    | ok result =>
      exact connectorAnsweredDurable_phase identity decision started (given result rfl)
  · exact fun error _ _ => returnsTelling_error .durable error

/-- The durable `execute` after its checks. -/
theorem executeCheckedDurable_phase (identity : RequestIdentity) (decision : PolicyDecision)
    (started : DateTime) :
    (DurableActionGateway.executeChecked plan identity decision started).Follows
      (mutationProtocol plan) .fresh (ReturnsTelling .durable plan) := by
  apply steady_bind (transaction_steady _) _ (returnsTelling_error .durable)
  intro record
  unfold DurableActionGateway.executePrepared
  split
  · exact replay_phase .durable identity started _ rfl
  · apply steady_bind (transaction_steady _) _ (returnsTelling_error .durable)
    exact fun _ => dispatchDurable_phase identity decision started

/-! ## Calls of either class -/

/-- `execute` of either class dispatches its plan at most once, and its receipt tells whether. -/
theorem execute_phase (kind : GatewayKind) (preview : ActionPreview) (identity : RequestIdentity)
    (approval : Option ActionApproval) :
    (kind.execute plan preview identity approval).Follows (mutationProtocol plan) .fresh
      (ReturnsTelling kind plan) := by
  rw [kind_execute_eq]
  apply steady_bind (passGates_makes GatewayOp.steady_of_plain ..) _ (returnsTelling_error kind)
  rintro ⟨started, decision⟩
  cases kind with
  | action => exact executeChecked_phase identity decision started
  | durable => exact executeCheckedDurable_phase identity decision started

/-- `compensate` of either class dispatches the derived plan at most once, and its receipt says
that it was a compensation. -/
theorem compensate_phase (kind : GatewayKind) {original : SourceActionPlan} {spec : CompensationSpec}
    (declared : original.compensation = some spec) (receipt : StoredReceipt)
    (identity : RequestIdentity) (approval : Option ActionApproval) :
    (kind.compensate original receipt identity approval).Follows
      (mutationProtocol (original.compensating spec)) .fresh fun ended _ =>
        ∀ returned, ended = .ok returned → returned.state = .compensated := by
  simp only [GatewayKind.compensate, declared]
  apply steady_bind (previewCompensation_makes GatewayOp.steady_of_plain ..)
  · intro shown
    apply (execute_phase kind shown identity none).bind
    · intro compensated final _
      apply steady_bind (now_makes GatewayOp.steady_of_plain)
      · intro completed
        apply steady_bind (append_makes GatewayOp.steady_of_plain ..)
        · intro audit returned same
          cases same
          rfl
        · exact fun _ _ same => by cases same
      · exact fun _ _ same => by cases same
    · exact fun _ _ _ _ same => by cases same
  · exact fun _ _ same => by cases same

/-! ## What the calls of a trace show -/

omit [Stdlib] in
/-- An answer to a mutation is not steady. -/
theorem unsteady_of_applies {event : gatewaySignature.Event}
    (applies : GatewayOp.applies event.1 event.2 = true) :
    GatewayOp.steady event.1 = false := by
  obtain ⟨op, reply⟩ := event
  cases op with
  | await call =>
    cases call with
    | mutate => rfl
    | reconcile => cases applies
  | _ => cases applies

/-- The call dispatches a mutation or binds a key. -/
def GatewayOp.commits : GatewayOp → Bool
  | .invoke (.mutate _ _) => true
  | .remember _ _ _ => true
  | _ => false

/-- The call that dispatches a plan. -/
def SourceActionPlan.dispatch (plan : SourceActionPlan) : gatewaySignature.Event :=
  ⟨.invoke (.mutate plan.sourceId (mutationRequest plan)), ()⟩

/-- The calls dispatched a plan, and the source answered that it was applied. -/
def AppliedIn (plan : SourceActionPlan) (events : List gatewaySignature.Event) : Prop :=
  plan.dispatch ∈ events ∧ ∃ event ∈ events, GatewayOp.applies event.1 event.2 = true

omit [Stdlib] in
/-- More calls do not take back that a plan was applied. -/
theorem AppliedIn.append {plan : SourceActionPlan} {events : List gatewaySignature.Event}
    (applied : AppliedIn plan events) (more : List gatewaySignature.Event) :
    AppliedIn plan (events ++ more) := by
  obtain ⟨dispatched, answer, among, applies⟩ := applied
  exact ⟨List.mem_append_left _ dispatched, answer, List.mem_append_left _ among, applies⟩

/-- What the calls made so far show of the phase they led to. -/
def Shown (plan : SourceActionPlan) (events : List gatewaySignature.Event) :
    MutationPhase → Prop
  | .fresh => ∀ event ∈ events, event.1.commits = false
  | .bound digest => (∀ event ∈ events, event.1.commits = false) ∧
      ∃ receipt, ⟨.lookup plan.binding, some (digest, receipt)⟩ ∈ events
  | .dispatched => plan.dispatch ∈ events
  | .applied => AppliedIn plan events

omit [Stdlib] in
/-- A call that commits nothing and leaves the phase shows no more. -/
theorem Shown.snoc {events : List gatewaySignature.Event} (shown : Shown plan events phase)
    {event : gatewaySignature.Event} (still : event.1.commits = false) :
    Shown plan (events ++ [event]) phase := by
  have idle : (∀ event ∈ events, event.1.commits = false) →
      ∀ later ∈ events ++ [event], later.1.commits = false := by
    intro before later member
    rcases List.mem_append.mp member with old | new
    · exact before later old
    · rw [List.mem_singleton.mp new]
      exact still
  cases phase with
  | fresh => exact idle shown
  | bound digest =>
    obtain ⟨before, receipt, found⟩ := shown
    exact ⟨idle before, receipt, List.mem_append_left _ found⟩
  | dispatched => exact List.mem_append_left _ shown
  | applied => exact AppliedIn.append shown _

omit [Stdlib] in
/-- A steady call commits nothing. -/
theorem uncommitted_of_steady {op : GatewayOp} (steady : op.steady = true) :
    op.commits = false := by
  cases op with
  | invoke call =>
    cases call with
    | mutate => cases steady
    | reconcile => rfl
  | remember => cases steady
  | _ => rfl

/-- One permitted call keeps to what the calls show. -/
theorem Shown.step {events : List gatewaySignature.Event} (shown : Shown plan events phase)
    {event : gatewaySignature.Event} (permitted : (mutationProtocol plan).may phase event.1) :
    Shown plan (events ++ [event]) ((mutationProtocol plan).next phase event.1 event.2) := by
  obtain ⟨op, reply⟩ := event
  by_cases steady : op.steady = true
  · rw [steady_next steady]
    exact shown.snoc (uncommitted_of_steady steady)
  · cases op with
    | lookup binding =>
      obtain ⟨rfl, rfl⟩ := permitted
      match reply with
      | none => exact shown.snoc rfl
      | some (digest, receipt) =>
        have idle : Shown plan (events ++ [⟨.lookup plan.binding, some (digest, receipt)⟩]) .fresh :=
          shown.snoc rfl
        exact ⟨idle, receipt, by simp⟩
    | invoke call =>
      cases call with
      | mutate sourceId request =>
        obtain ⟨-, rfl, rfl⟩ := permitted
        exact List.mem_append_right _ (List.mem_singleton.mpr rfl)
      | reconcile => exact absurd rfl steady
    | await call =>
      cases call with
      | mutate sourceId request =>
        obtain rfl : phase = .dispatched := permitted
        by_cases answered : GatewayOp.applies (.await (.mutate sourceId request)) reply = true
        · change Shown plan _ (if _ then _ else _)
          rw [if_pos answered]
          exact ⟨List.mem_append_left _ shown, ⟨.await (.mutate sourceId request), reply⟩,
            by simp, answered⟩
        · change Shown plan _ (if _ then _ else _)
          rw [if_neg answered]
          exact shown.snoc rfl
      | reconcile => exact absurd rfl steady
    | remember binding digest receipt =>
      obtain ⟨rfl, -⟩ := permitted
      exact AppliedIn.append shown _
    | _ => exact absurd rfl steady

/-- The calls of a fresh call show the phase they lead to. -/
theorem shown_after {events : List gatewaySignature.Event}
    (permitted : (mutationProtocol plan).Permits .fresh events) :
    Shown plan events ((mutationProtocol plan).after .fresh events) :=
  permitted.invariant (Shown plan) (fun _ none => nomatch none) fun _ _ _ shown permitted =>
    shown.step permitted

/-- A key is bound only to the plan, and after it was applied. -/
theorem applied_of_remember {events : List gatewaySignature.Event}
    (permitted : (mutationProtocol plan).Permits .fresh events) {binding : Binding}
    {digest : String} {receipt : Receipt} {reply : Unit}
    (bound : ⟨.remember binding digest receipt, reply⟩ ∈ events) :
    binding = plan.binding ∧ digest = plan.digest ∧ AppliedIn plan events := by
  obtain ⟨before, after, rfl⟩ := List.append_of_mem bound
  obtain ⟨applied, named, same⟩ := permitted before _ after rfl
  have shown := shown_after permitted.of_append
  rw [applied] at shown
  exact ⟨named, same, AppliedIn.append shown _⟩

/-- A call that the source answered with success had dispatched its plan. -/
theorem applied_of_applies {events : List gatewaySignature.Event}
    (permitted : (mutationProtocol plan).Permits .fresh events) {event : gatewaySignature.Event}
    (among : event ∈ events) (applies : GatewayOp.applies event.1 event.2 = true) :
    AppliedIn plan events := by
  obtain ⟨before, after, rfl⟩ := List.append_of_mem among
  have dispatched : (mutationProtocol plan).after .fresh before = .dispatched := by
    have may := permitted before event after rfl
    obtain ⟨op, reply⟩ := event
    cases op with
    | await call =>
      cases call with
      | mutate => exact may
      | reconcile => cases applies
    | _ => cases applies
  have shown := shown_after permitted.of_append
  rw [dispatched] at shown
  exact ⟨List.mem_append_left _ shown, event, among, applies⟩

end Phases

end DataHarness
