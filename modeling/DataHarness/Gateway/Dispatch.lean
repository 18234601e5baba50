import DataHarness.Gateway.Outcomes

/-!
# Dispatch at most once

Durable gateways over one journal, in any interleaving. A task may dispatch only between its
own successful `begin` and its first dispatch (`armedProtocol`). A binding that is still
unprepared or prepared has no armed task and no dispatch, and every other one has at most one
of both together (`DispatchInvariant`). This holds as long as no `begin` meets an executed
record: there `begin` returns the record instead of raising, and `execute` goes on to dispatch.
-/

namespace DataHarness

open Effect Program

/-- The key a step dispatches a mutation under, if it does. -/
def dispatched? : Label gatewaySignature Owner → Option Binding
  | .perform _ _ (.invoke (.mutate sourceId request)) _ => some (sourceId, request.idempotencyKey)
  | _ => none

/-- How often `connector.mutate` was called for a key. -/
def dispatches (labels : List (Label gatewaySignature Owner)) (binding : Binding) : Nat :=
  labels.countP fun label => dispatched? label = some binding

/-! ## The protocol of one task -/

/-- A task is armed with a binding by a `begin` that wrote, and disarmed by its dispatch. -/
def armedProtocol : Protocol gatewaySignature (Option Binding) where
  may armed op :=
    match op with
    | .invoke (.mutate sourceId request) => armed = some (sourceId, request.idempotencyKey)
    | _ => True
  can op reply :=
    match op, reply with
    | .journal (.begin _ _), .ok (some _) => False
    | _, _ => True
  next armed op reply :=
    match op, reply with
    | .journal (.begin action _), .ok none => some action.binding
    | .invoke (.mutate _ _), _ => none
    | _, _ => armed

/-- The call is `begin`. -/
def GatewayOp.begins : GatewayOp → Bool
  | .journal (.begin _ _) => true
  | _ => false

/-- Calls other than dispatches are always permitted. -/
theorem armed_may {op : GatewayOp} (other : op.dispatches = false) (armed : Option Binding) :
    armedProtocol.may armed op := by
  cases op with
  | invoke call =>
    cases call with
    | mutate => cases other
    | reconcile => trivial
  | _ => trivial

/-- Calls other than dispatches and `begin` leave a task as it is. -/
theorem armed_next {op : GatewayOp} (other : op.dispatches = false) (still : op.begins = false)
    (armed : Option Binding) (reply : op.Reply) : armedProtocol.next armed op reply = armed := by
  cases op with
  | invoke call =>
    cases call with
    | mutate => cases other
    | reconcile => rfl
  | journal tx =>
    cases tx with
    | «begin» => cases still
    | _ => rfl
  | _ => rfl


/-! ## Coroutines follow it -/

section Follows

open ActionGateway DurableActionGateway

/-- Programs that dispatch nothing follow the protocol from anywhere. -/
theorem undispatching_follows {α : Type} {program : GatewayProgram α}
    (makes : program.Makes fun op : GatewayOp => op.dispatches = false) (armed : Option Binding) :
    program.Follows armedProtocol armed fun _ _ => True :=
  makes.follows_any (fun _ other => armed_may other) armed

/-- Programs that neither dispatch nor begin end armed as they started. -/
theorem still_follows {α : Type} {program : GatewayProgram α}
    (makes : program.Makes fun op : GatewayOp => op.Quiet) (armed : Option Binding) :
    program.Follows armedProtocol armed fun _ final => final = armed := by
  refine makes.follows (fun op quiet => armed_may quiet.1 armed) fun op reply quiet => ?_
  refine armed_next quiet.1 ?_ armed reply
  cases op with
  | journal tx => cases quiet.2
  | _ => rfl

/-- What is quiet dispatches nothing. -/
theorem quiet_undispatching (op : GatewayOp) (quiet : op.Quiet) : op.dispatches = false := quiet.1

/-- What is plain dispatches nothing. -/
theorem plain_undispatching : ∀ op : GatewayOp, op.plain = true → op.dispatches = false :=
  plain_of_quiet quiet_undispatching

/-- A journal write dispatches nothing. -/
theorem transaction_undispatching (tx : JournalTx) :
    (transaction tx).Makes fun op : GatewayOp => op.dispatches = false :=
  transaction_makes quiet_undispatching rfl

/-- `begin` ends with a value only if it armed the task. -/
theorem begin_arms (action : SourceActionPlan) (now : DateTime) (armed : Option Binding) :
    (transaction (.begin action now)).Follows armedProtocol armed
      fun outcome final => ∀ record, outcome = .ok record → final = some action.binding := by
  refine ⟨trivial, fun reply possible => ?_⟩
  cases reply with
  | error error => exact fun record same => nomatch same
  | ok returned =>
    cases returned with
    | some record => exact possible.elim
    | none =>
      refine ⟨trivial, fun updated _ => ?_⟩
      cases updated with
      | error error => exact fun record same => nomatch same
      | ok found =>
        cases found with
        | none => exact fun record same => nomatch same
        | some record => exact fun _ _ => rfl

/-- An armed task may call the connector for its binding. -/
theorem mutate_follows (action : SourceActionPlan) :
    (mutate action).Follows armedProtocol (some action.binding) fun _ _ => True := by
  have awaits : (ActionGateway.await (.mutate action.sourceId (mutationRequest action))).Follows
      armedProtocol (some action.binding) fun _ _ => True :=
    ⟨rfl, fun _ _ => undispatching_follows
      (Makes.bind (makes_ask rfl) fun _ => makes_ofExcept _) _⟩
  refine awaits.bind_any fun result armed => undispatching_follows ?_ armed
  split <;> trivial

variable [Stdlib]

/-- An armed task may dispatch its plan. -/
theorem dispatch_follows (action : SourceActionPlan) (identity : RequestIdentity)
    (decision : PolicyDecision) (started : DateTime) :
    (DurableActionGateway.dispatch action identity decision started).Follows armedProtocol
      (some action.binding) fun _ _ => True := by
  refine Follows.bind (still_follows (connector_makes (fun _ => GatewayOp.quiet_of_plain) _) _) ?_
    (by simp)
  rintro handle armed rfl
  have attempted : (mutateThen action).Follows armedProtocol (some action.binding)
      fun _ _ => True :=
    (mutate_follows action).bind_any fun _ => undispatching_follows
      (Makes.bind (makes_ask rfl) fun _ => Makes.bind (makes_ofExcept _) fun _ => makes_ret _)
  exact (Follows.attempt attempted (fun _ _ _ => trivial) (by simp)).bind_any fun outcome =>
    undispatching_follows (afterMutation_makes quiet_undispatching (fun _ _ _ _ => rfl) ..)

/-- `execute` follows the protocol. -/
theorem execute_follows (action : SourceActionPlan) (preview : ActionPreview)
    (identity : RequestIdentity) (approval : Option ActionApproval) (armed : Option Binding) :
    (DurableActionGateway.execute action preview identity approval).Follows armedProtocol armed
      fun _ _ => True := by
  refine (undispatching_follows (passGates_makes plain_undispatching ..) armed).bind_any ?_
  rintro ⟨started, decision⟩ armed
  simp only [DurableActionGateway.executeChecked]
  refine (undispatching_follows (transaction_undispatching _) armed).bind_any fun record armed => ?_
  simp only [executePrepared]
  split
  · exact undispatching_follows (replay_makes plain_undispatching ..) armed
  · refine Follows.bind (begin_arms action started armed) ?_ (by simp)
    intro found armed begun
    rw [begun found rfl]
    exact dispatch_follows action identity decision started

/-- Every call of a durable gateway follows the protocol. -/
theorem program_follows (call : GatewayCall) :
    (call.program .durable).Follows armedProtocol none fun _ _ => True := by
  cases call with
  | preview action identity ttl =>
    exact undispatching_follows
      (Makes.bind (preview_makes plain_undispatching ..) fun _ => makes_ret _) none
  | execute action preview identity approval =>
    exact (execute_follows action preview identity approval none).bind_any fun _ _ => trivial
  | compensate original receipt identity approval =>
    refine Follows.bind_any ?_ fun _ _ => trivial
    simp only [GatewayKind.compensate]
    split
    · trivial
    · refine (undispatching_follows
        (previewCompensation_makes plain_undispatching ..) none).bind_any fun shown armed => ?_
      refine (execute_follows _ shown identity none armed).bind_any fun compensated armed => ?_
      exact undispatching_follows (recordCompensation_makes plain_undispatching ..) armed
  | reconcile action identity =>
    exact undispatching_follows (Makes.bind
      (reconcile_makes quiet_undispatching (fun _ _ _ _ => rfl) identity) fun _ => makes_ret _) none

end Follows

/-! ## What holds of every run -/

/-- How many tasks are armed with a binding. -/
def armed (labels : List (Label gatewaySignature Owner)) (binding : Binding) : Nat :=
  (Machine.locals armedProtocol (fun _ => none) labels).countP fun state => state = some binding

/-- The binding has no record yet, or one that is only prepared. -/
def Journal.Unstarted (journal : Journal) (binding : Binding) : Prop :=
  ∀ row, journal.records.find? binding = some row → row.state = DurableActionState.prepared.value

/-- The binding has a record in state `EXECUTED`. -/
def Journal.executed? (journal : Journal) (binding : Binding) : Bool :=
  (journal.records.find? binding).any fun row => row.state == DurableActionState.executed.value

/-- The step is not a `begin` on an executed record. -/
def beginsUnexecuted (pool : Pool gatewaySignature ActionError Returned Owner Shared)
    (label : Label gatewaySignature Owner) : Bool :=
  match transaction? label with
  | some (.begin action _) => !pool.shared.journal.executed? action.binding
  | _ => true

/-- Dispatches and armed tasks of a binding are at most one together, and none before it is
started. -/
structure DispatchInvariant (labels : List (Label gatewaySignature Owner)) (journal : Journal) :
    Prop where
  once : ∀ binding, dispatches labels binding + armed labels binding ≤ 1
  unstarted : ∀ binding, journal.Unstarted binding →
    dispatches labels binding + armed labels binding = 0

section Invariant

variable {labels : List (Label gatewaySignature Owner)}

/-- A call changes the count of a binding by what it dispatched and by the arming of its task. -/
theorem balance {index : Nat} {state : Option Binding}
    (here : (Machine.locals armedProtocol (fun _ => none) labels)[index]? = some state)
    (owner : Owner) (op : GatewayOp) (reply : op.Reply) (binding : Binding) :
    dispatches (labels ++ [.perform index owner op reply]) binding +
        armed (labels ++ [.perform index owner op reply]) binding +
          (if state = some binding then 1 else 0) =
      dispatches labels binding + armed labels binding +
        (if dispatched? (.perform index owner op reply) = some binding then 1 else 0) +
          (if armedProtocol.next state op reply = some binding then 1 else 0) := by
  have counted := Machine.countP_modify (fun state => decide (state = some binding))
    (fun state => armedProtocol.next state op reply) here
  simp only [decide_eq_true_eq] at counted
  simp only [dispatches, armed, Machine.locals_snoc, Machine.advance, List.countP_append,
    List.countP_singleton, decide_eq_true_eq]
  omega

/-- A call that leaves its task as it is and dispatches nothing keeps the counts. -/
theorem balance_still {index : Nat} {owner : Owner} {op : GatewayOp} {reply : op.Reply}
    {state : Option Binding}
    (here : (Machine.locals armedProtocol (fun _ => none) labels)[index]? = some state)
    (still : armedProtocol.next state op reply = state)
    (other : dispatched? (.perform index owner op reply) = none) (binding : Binding) :
    dispatches (labels ++ [.perform index owner op reply]) binding +
        armed (labels ++ [.perform index owner op reply]) binding =
      dispatches labels binding + armed labels binding := by
  have counted := balance here owner op reply binding
  simp only [still, other, reduceCtorEq, if_false] at counted
  omega

/-- A call with unchanged counts keeps the invariant. -/
theorem DispatchInvariant.unchanged {more : List (Label gatewaySignature Owner)}
    {journal next : Journal} (holds : DispatchInvariant labels journal)
    (counts : ∀ binding, dispatches more binding + armed more binding =
      dispatches labels binding + armed labels binding)
    (started : ∀ binding, next.Unstarted binding → journal.Unstarted binding) :
    DispatchInvariant more next where
  once binding := by
    rw [counts]
    exact holds.once binding
  unstarted binding fresh := by
    rw [counts]
    exact holds.unstarted binding (started binding fresh)

/-- The dispatch of an armed task keeps the invariant. -/
theorem DispatchInvariant.step_mutate {journal : Journal}
    (holds : DispatchInvariant labels journal) {index : Nat} {sourceId : String}
    {request : MutationRequest}
    (here : (Machine.locals armedProtocol (fun _ => none) labels)[index]? =
      some (some (sourceId, request.idempotencyKey))) (owner : Owner) :
    DispatchInvariant
      (labels ++ [.perform index owner (.invoke (.mutate sourceId request)) ()]) journal := by
  refine holds.unchanged (fun binding => ?_) fun _ unstarted => unstarted
  have counted := balance here owner (.invoke (.mutate sourceId request)) () binding
  by_cases same : (sourceId, request.idempotencyKey) = binding
  · simp only [dispatched?, armedProtocol, same, if_true, reduceCtorEq, if_false] at counted
    omega
  · simp only [dispatched?, armedProtocol, Option.some.injEq, same, reduceCtorEq,
      if_false] at counted
    omega

variable [Stdlib] {key : IntegrityKey}
  {pool after : Pool gatewaySignature ActionError Returned Owner Shared}
  {label : Label gatewaySignature Owner} {journal : Journal} {tx : JournalTx}

/-- No transaction makes a binding unstarted. -/
theorem Journal.Unstarted.of_commit {binding : Binding}
    (unstarted : (journal.commit key tx).Unstarted binding) : journal.Unstarted binding := by
  rcases Journal.commit_cases key journal tx with same | wrote
  · rwa [same] at unstarted
  · obtain ⟨event, written, write⟩ := wrote.write
    intro row present
    by_cases here : tx.action.binding = binding
    · subst here
      have prepared := unstarted written write.present
      cases write.change with
      | prepared _ _ _ _ missing => simp [JournalTx.action, missing] at present
      | begun => simp [Journal.setExecuting, DurableActionState.value] at prepared
      | finished _ outcome _ _ closing =>
        exact absurd (DurableActionState.value_injective prepared) (closing_state closing)
    · exact unstarted row (by rw [write.find?, if_neg here]; exact present)

/-- A `begin` that wrote found its binding unstarted, and left it started. -/
theorem unstarted_of_begin {action : SourceActionPlan} {now : DateTime}
    (wrote : journal.reply key (.begin action now) = .ok none) :
    journal.Unstarted action.binding ∧
      ¬ (journal.commit key (.begin action now)).Unstarted action.binding := by
  obtain ⟨event, written, write⟩ := (Journal.wrote_of_reply wrote).write
  cases write.change with
  | begun _ _ digest row found present read ready =>
    refine ⟨fun other there => ?_, fun unstarted => ?_⟩
    · obtain rfl := Option.some.inj (present.symm.trans there)
      rw [← (reads_of_record read).state, ready]
    · have prepared := unstarted _ write.present
      simp [Journal.setExecuting, DurableActionState.value] at prepared
  | finished _ _ _ _ closing => cases closing

/-- A `begin` of a task that did not arm another keeps the invariant. -/
theorem DispatchInvariant.step_begin (holds : DispatchInvariant labels pool.shared.journal)
    {index : Nat} {owner : Owner} {action : SourceActionPlan} {now : DateTime}
    {state : Option Binding}
    (here : (Machine.locals armedProtocol (fun _ => none) labels)[index]? = some state)
    (possible : armedProtocol.can (.journal (.begin action now))
      (pool.shared.journal.reply key (.begin action now))) :
    DispatchInvariant
      (labels ++ [.perform index owner (.journal (.begin action now))
        (pool.shared.journal.reply key (.begin action now))])
      (pool.shared.journal.commit key (.begin action now)) := by
  cases replied : pool.shared.journal.reply key (.begin action now) with
  | error error =>
    exact holds.unchanged (balance_still here rfl rfl) fun _ => Journal.Unstarted.of_commit
  | ok returned =>
    rw [replied] at possible
    cases returned with
    | some found => exact possible.elim
    | none =>
      obtain ⟨fresh, started⟩ := unstarted_of_begin replied
      have empty := holds.unstarted _ fresh
      have counted := balance here owner (.journal (.begin action now)) (.ok none)
      simp only [dispatched?, armedProtocol, reduceCtorEq, if_false, Option.some.injEq] at counted
      refine ⟨fun binding => ?_, fun binding unstarted => ?_⟩
      · have counted := counted binding
        have once := holds.once binding
        by_cases same : action.binding = binding
        · subst same
          rw [if_pos rfl] at counted
          omega
        · rw [if_neg same] at counted
          omega
      · have counted := counted binding
        have before := holds.unstarted binding unstarted.of_commit
        have other : action.binding ≠ binding := by
          rintro rfl
          exact started unstarted
        rw [if_neg other] at counted
        omega

/-- Where `begin` finds no executed record, it returns none from inside. -/
theorem can_of_unexecuted {kinds : Nat → GatewayKind} (step : (gateways key kinds).Step pool label after)
    (unexecuted : beginsUnexecuted pool label = true) :
    ∀ index owner op reply, label = .perform index owner op reply → armedProtocol.can op reply := by
  rintro index owner op reply rfl
  cases step with
  | perform _ _ _ next world ready =>
    cases op with
    | journal tx =>
      cases tx with
      | «begin» action now =>
        change armedProtocol.can (.journal (.begin action now))
          (pool.shared.journal.reply key (.begin action now))
        cases replied : pool.shared.journal.reply key (.begin action now) with
        | error error => trivial
        | ok returned =>
          cases returned with
          | none => trivial
          | some found =>
            obtain ⟨row, present, read, executed⟩ := Journal.executed_of_begin replied
            have recorded : pool.shared.journal.executed? action.binding = true := by
              simp [Journal.executed?, present, ← (reads_of_record read).state, executed]
            simp [beginsUnexecuted, transaction?, recorded] at unexecuted
      | _ => trivial
    | _ => trivial

/-- Every step keeps the invariant where `begin` finds no executed record. -/
theorem DispatchInvariant.step (holds : DispatchInvariant labels pool.shared.journal)
    (tracks : Machine.Tracks armedProtocol
      (Machine.locals armedProtocol (fun _ => none) labels) pool.tasks)
    (step : (gateways key fun _ => .durable).Step pool label after)
    (unexecuted : beginsUnexecuted pool label = true) :
    DispatchInvariant (labels ++ [label]) after.shared.journal := by
  have possible := can_of_unexecuted step unexecuted
  cases step with
  | spawn owner =>
    refine holds.unchanged (fun binding => ?_) fun _ unstarted => unstarted
    simp [dispatches, dispatched?, armed, Machine.advance]
  | kill index =>
    refine holds.unchanged (fun binding => ?_) fun _ unstarted => unstarted
    simp [dispatches, dispatched?, armed, Machine.advance]
  | crash =>
    refine holds.unchanged (fun binding => ?_) fun _ unstarted => unstarted
    simp [dispatches, dispatched?, armed, Machine.advance]
  | perform index owner op next world ready =>
    obtain ⟨state, here, permitted⟩ := tracks.permitted ready
    have possible := possible index owner op _ rfl
    have kept := perform_journal key owner.gateway world pool.shared op
    change DispatchInvariant _ (perform key owner.gateway world pool.shared op).2.journal
    rw [kept]
    cases op with
    | invoke call =>
      cases call with
      | mutate sourceId request =>
        obtain rfl := permitted
        exact holds.step_mutate here owner
      | reconcile => exact holds.unchanged (balance_still here rfl rfl) fun _ fresh => fresh
    | journal tx =>
      cases tx with
      | «begin» action now => exact holds.step_begin here possible
      | _ => exact holds.unchanged (balance_still here rfl rfl) fun _ => Journal.Unstarted.of_commit
    | _ => exact holds.unchanged (balance_still here rfl rfl) fun _ fresh => fresh

/-- The invariant holds after every run whose `begin`s find no executed record. -/
theorem run_dispatch
    (run : ((gateways key fun _ => .durable).within beginsUnexecuted).Run ⟨.initial, []⟩ labels
      pool) : DispatchInvariant labels pool.shared.journal := by
  induction run with
  | nil =>
    exact ⟨fun _ => by simp [dispatches, armed], fun _ _ => by simp [dispatches, armed]⟩
  | snoc before step ih =>
    refine ih.step (Machine.run_tracks (fun owner => program_follows owner.call) ?_ before)
      step.1 step.2
    exact fun _ _ _ step unexecuted => can_of_unexecuted step unexecuted

/-- In every run whose `begin`s find no executed record, `connector.mutate` is called at most once
for every key. -/
theorem dispatches_le_one
    (run : ((gateways key fun _ => .durable).within beginsUnexecuted).Run ⟨.initial, []⟩ labels
      pool) (binding : Binding) : dispatches labels binding ≤ 1 := by
  have once := (run_dispatch run).once binding
  omega

end Invariant

/-! ## Two gateways -/

section Two

variable [Stdlib]

/-- The plan both gateways execute. -/
abbrev shared : SourceActionPlan := .first

/-- Every started call is an `execute`. -/
def onlyExecutes (labels : List (Label gatewaySignature Owner)) : Bool :=
  labels.all fun label =>
    match label with
    | .spawn ⟨_, .execute _ _ _ _⟩ => true
    | .spawn _ => false
    | _ => true

/-- The first gateway begins, then the second prepares and begins: its `begin` raises. -/
def dispatchedOnce : List (Machine.Choice gatewaySignature Owner) :=
  [.spawn (smallExecution 0 shared), .spawn (smallExecution 1 shared)] ++
    calls 0 9 (obliging (.ok successful)) ++ calls 1 5 (obliging (.ok successful)) ++
    calls 0 8 (obliging (.ok successful))

/-- Both gateways prepare, the first one executes to its end, and the second goes on. -/
def dispatchedTwice : List (Machine.Choice gatewaySignature Owner) :=
  [.spawn (smallExecution 0 shared), .spawn (smallExecution 1 shared)] ++
    calls 0 5 (obliging (.ok successful)) ++ calls 1 4 (obliging (.ok successful)) ++
    calls 0 12 (obliging (.ok successful)) ++ calls 1 3 (obliging (.ok successful))

end Two

/-- A second `execute` that begins while the first one runs does not dispatch. -/
theorem dispatches_once : letI := Stdlib.transparent
    ∃ labels pool, (durableGateways.within beginsUnexecuted).Run ⟨.initial, []⟩ labels pool ∧
      0 < dispatches labels shared.binding ∧ dispatches labels shared.binding ≤ 1 := by
  let := Stdlib.transparent
  obtain ⟨labels, pool, run, positive⟩ := played_within durableGateways beginsUnexecuted
    dispatchedOnce (fun labels _ => decide (0 < dispatches labels shared.binding))
    (by decide +kernel) (by decide +kernel)
  exact ⟨labels, pool, run, of_decide_eq_true positive, dispatches_le_one run shared.binding⟩

/-- A second `execute` that prepared before the first one completed dispatches again. -/
theorem dispatches_twice : letI := Stdlib.transparent
    ∃ labels pool, durableGateways.system.Run ⟨.initial, []⟩ labels pool ∧
      onlyExecutes labels = true ∧ dispatches labels shared.binding = 2 := by
  let := Stdlib.transparent
  obtain ⟨labels, pool, run, seen⟩ := played durableGateways dispatchedTwice
    (fun labels _ => onlyExecutes labels && decide (dispatches labels shared.binding = 2))
    (by decide +kernel)
  simp only [Bool.and_eq_true, decide_eq_true_eq] at seen
  exact ⟨labels, pool, run, seen.1, seen.2⟩

end DataHarness
