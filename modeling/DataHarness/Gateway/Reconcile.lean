import DataHarness.Gateway.Durable
import DataHarness.Gateway.Success
import DataHarness.Gateway.Surroundings

/-!
# What reconciliation does

`reconcile` returns the stored receipt of an executed record, or asks the source about a record
whose outcome is open and closes it when the source proves that the plan was applied. Whatever else
happens it raises, and the record is no nearer to executed than before (`reconcile_specified`).
-/

namespace DataHarness

open Effect Program ActionGateway

/-- The policy allowed the reconciliation of a plan. -/
def AllowedReconcile [Stdlib] (action : SourceActionPlan) (identity : RequestIdentity)
    (events : List gatewaySignature.Event) : Prop :=
  ∃ decision : PolicyDecision, decision.allowed = true ∧
    (⟨.evaluate (authorizationRequest action identity "reconcile"),
      (.ok decision : Except ActionError PolicyDecision)⟩ : gatewaySignature.Event) ∈ events

/-- The question about a plan that `reconcile` puts to its source. -/
def reconcileCall [Stdlib] (action : SourceActionPlan) : ConnectorCall :=
  .reconcile action.sourceId ⟨action.actionId, action.idempotencyKey, action.digest⟩

/-- The source answered that the plan was applied, with its postconditions met. -/
def ProvenApplied [Stdlib] (action : SourceActionPlan) (events : List gatewaySignature.Event) :
    Prop :=
  ∃ result : PyValue, result.isMapping = true ∧ result.flagged "applied" = true ∧
    result.flagged "postconditions_met" = true ∧
      (⟨.await (reconcileCall action), (.ok result : Except ActionError PyValue)⟩ :
        gatewaySignature.Event) ∈ events

/-- The outcome of the plan is open. -/
def DurableActionState.Pending (state : DurableActionState) : Prop :=
  state = .executing ∨ state = .reconciliationRequired

/-- A receipt says that an open record was recovered. -/
structure RecoveryOf [Stdlib] (action : SourceActionPlan) (found : DurableActionRecord)
    (receipt : StoredReceipt) : Prop where
  state : receipt.state = .recovered
  actionId : receipt.actionId = .str action.actionId
  actionDigest : receipt.actionDigest = .str action.digest
  idempotencyKey : receipt.idempotencyKey = .str action.idempotencyKey
  startedAt : receipt.startedAt = found.startedAt

/-- The record of a plan was closed as executed with a receipt. -/
def ClosedWith [Stdlib] (action : SourceActionPlan) (journal : Journal) (receipt : StoredReceipt) :
    Prop :=
  ∃ updated, journal.get action.binding = .ok (some updated) ∧ updated.state = .executed ∧
    updated.receipt = some receipt

section Reconcile

variable [Stdlib] {key : IntegrityKey} {kinds : Nat → GatewayKind} {owner : Owner}
  {before after : Shared} {events : List gatewaySignature.Event} {action : SourceActionPlan}
  {identity : RequestIdentity}

/-! ## The run -/

/-- The policy check ends with a decision of the policy. -/
theorem authorize_runs {stage : String} {decision : PolicyDecision}
    (ran : Runs ((gateways key kinds).alone owner) (authorize action identity stage) before events
      (.ok decision) after) :
    (⟨.evaluate (authorizationRequest action identity stage),
      (.ok decision : Except ActionError PolicyDecision)⟩ : gatewaySignature.Event) ∈ events := by
  rcases Runs.of_bind ran with ⟨error, -, same⟩ | ⟨digest, none, asking, begun, rfl, -, ran⟩
  · cases same
  obtain ⟨world, reply, middle, later, -, rfl, onward⟩ := ask_runs ran
  cases reply with
  | error error => cases onward
  | ok evaluated =>
    rcases Runs.of_bind onward with ⟨error, -, same⟩ |
      ⟨value, none, rest, still, rfl, decided, emitting⟩
    · cases same
    · cases decided
      rcases Runs.of_bind emitting with ⟨error, -, same⟩ |
        ⟨sent, sending, last, final, rfl, -, returning⟩
      · cases same
      · cases returning
        exact List.mem_append_right _ List.mem_cons_self

/-- What a run of `reconcile` does with the journal, once the policy has allowed it. -/
inductive Reconciles (action : SourceActionPlan) (events : List gatewaySignature.Event)
    (before after : Journal) : Except ActionError StoredReceipt → Prop
  | refused {error : ActionError} (kept : after = before) :
    Reconciles action events before after (.error error)
  | stored {found : DurableActionRecord} {receipt : StoredReceipt}
    (got : before.get action.binding = .ok (some found))
    (same : found.actionDigest = action.digest) (executed : found.state = .executed)
    (holds : found.receipt = some receipt) (kept : after = before) :
    Reconciles action events before after (.ok receipt)
  | recovered {found : DurableActionRecord} {receipt : StoredReceipt}
    {outcome : Except ActionError StoredReceipt}
    (got : before.get action.binding = .ok (some found))
    (same : found.actionDigest = action.digest) (pending : found.state.Pending)
    (proven : ProvenApplied action events) (recovery : RecoveryOf action found receipt)
    (closed : ClosedWith action after receipt)
    (others : ∀ other ≠ action.binding, after.records.find? other = before.records.find? other)
    (ends : outcome = .ok receipt ∨ ∃ error, outcome = .error error) :
    Reconciles action events before after outcome
  | unresolved {found updated : DurableActionRecord} {error : ActionError}
    (got : before.get action.binding = .ok (some found))
    (same : found.actionDigest = action.digest) (pending : found.state.Pending)
    (left : after.get action.binding = .ok (some updated))
    (reopened : updated.state = .reconciliationRequired)
    (others : ∀ other ≠ action.binding, after.records.find? other = before.records.find? other) :
    Reconciles action events before after (.error error)

variable {decision : PolicyDecision} {outcome : Except ActionError StoredReceipt}

/-- The end of `reconcile`: the record is closed with a recovered receipt, or left open, or the
version cannot be written, or the audit ledger refuses the time. -/
theorem reconciled_runs {startedAt : DateTime} {result : PyValue} {found : DurableActionRecord}
    {asked : List gatewaySignature.Event}
    (got : before.journal.get action.binding = .ok (some found))
    (own : action.digested = .ok found.actionDigest) (pending : found.state.Pending)
    (started : found.startedAt = startedAt)
    (answered : (⟨.await (reconcileCall action), (.ok result : Except ActionError PyValue)⟩ :
      gatewaySignature.Event) ∈ asked)
    (ran : Runs ((gateways key kinds).alone owner)
      (DurableActionGateway.reconciled action identity decision startedAt result) before events
      outcome after) :
    Reconciles action asked before.journal after.journal outcome := by
  obtain ⟨row, present, read⟩ := Journal.row_of_get got
  have same := (SourceActionPlan.digested_eq_ok.mp own).2.symm
  have digest : action.digested = .ok row.actionDigest := by
    rw [← (reads_of_record read).actionDigest, own]
  unfold DurableActionGateway.reconciled at ran
  by_cases proves : DurableActionGateway.proves result = true
  · rw [if_pos proves] at ran
    obtain ⟨world, completed, clocked, later, performed, rfl, onward⟩ := ask_runs ran
    have still : clocked = before := (Prod.mk.inj performed).2.symm
    subst still
    cases told : sourceVersion result with
    | error error =>
      rw [told] at onward
      cases onward
      exact .refused rfl
    | ok version =>
      rw [told] at onward
      have onward : Runs ((gateways key kinds).alone owner)
          ((append ActionState.recovered.value action.actionId completed
            [("source_version", .str version)]).bind _) clocked later outcome after := onward
      rcases Runs.of_bind onward with ⟨error, audited, rfl⟩ |
        ⟨audit, auditing, rest, noted, rfl, audited, closing⟩
      · exact .refused (journal_of_plain (append_makes (fun _ plain => plain) ..) audited)
      · have quiet := journal_of_plain (append_makes (fun _ plain => plain) ..) audited
        rw [← quiet] at present
        rcases Runs.of_bind closing with ⟨error, finished, rfl⟩ |
          ⟨updated, finishing, last, finished', rfl, finished, reporting⟩
        · obtain ⟨again, wrong, -⟩ := (transaction_runs finished).1.of_closing rfl present read digest
          cases wrong
        · obtain ⟨again, returned, left, state, receipt, others⟩ :=
            (transaction_runs finished).1.of_closing rfl present read digest
          rw [quiet] at others
          have reported : ∃ sent, Runs ((gateways key kinds).alone owner)
              (emit "recovered" action identity [("source_version", .str version)])
              finished' last sent after := by
            rcases Runs.of_bind reporting with ⟨error, sent, -⟩ |
              ⟨value, sending, tail, ended, rfl, sent, returning⟩
            · exact ⟨_, sent⟩
            · cases returning
              exact ⟨_, by rwa [List.append_nil]⟩
          obtain ⟨sent, emitted⟩ := reported
          have kept := journal_of_plain (emit_makes (fun _ plain => plain) ..) emitted
          simp only [DurableActionGateway.proves, Bool.and_eq_true] at proves
          refine .recovered got same pending ⟨result, proves.1.1, proves.1.2, proves.2, answered⟩
            ⟨rfl, rfl, rfl, rfl, started.symm⟩ ⟨again, ?_, state, receipt⟩ ?_ ?_
          · rw [kept]
            exact left
          · rw [kept]
            exact others
          · rcases Runs.of_bind reporting with ⟨error, -, rfl⟩ |
              ⟨value, sending, tail, ended, rfl, -, returning⟩
            · exact .inr ⟨error, rfl⟩
            · cases returning
              exact .inl rfl
  · rw [if_neg proves] at ran
    obtain ⟨world, failed, clocked, later, performed, rfl, onward⟩ := ask_runs ran
    have still : clocked = before := (Prod.mk.inj performed).2.symm
    subst still
    rcases Runs.of_bind onward with ⟨error, finished, rfl⟩ |
      ⟨updated, finishing, last, finished', rfl, finished, raising⟩
    · obtain ⟨again, wrong, -⟩ := (transaction_runs finished).1.of_closing rfl present read digest
      cases wrong
    · obtain ⟨again, returned, left, state, -, others⟩ :=
        (transaction_runs finished).1.of_closing rfl present read digest
      cases raising
      exact .unresolved got same pending left state others

/-- More calls before those of a run prove no less. -/
theorem Reconciles.mono {more : List gatewaySignature.Event} {start final : Journal}
    (reconciles : Reconciles action events start final outcome)
    (grown : ∀ event ∈ events, event ∈ more) : Reconciles action more start final outcome := by
  cases reconciles with
  | refused kept => exact .refused kept
  | stored got same executed holds kept => exact .stored got same executed holds kept
  | recovered got same pending proven recovery closed others ends =>
    obtain ⟨result, mapping, applied, met, answered⟩ := proven
    exact .recovered got same pending ⟨result, mapping, applied, met, grown _ answered⟩ recovery
      closed others ends
  | unresolved got same pending left reopened others =>
    exact .unresolved got same pending left reopened others

/-- The question to the source ends with a refusal, or with the answer. -/
theorem askSource_runs {found : DurableActionRecord}
    (got : before.journal.get action.binding = .ok (some found))
    (own : action.digested = .ok found.actionDigest) (pending : found.state.Pending)
    (ran : Runs ((gateways key kinds).alone owner)
      (DurableActionGateway.askSource action identity decision found.startedAt) before events
      outcome after) :
    Reconciles action events before.journal after.journal outcome := by
  obtain ⟨world, handle, looked, later, performed, rfl, onward⟩ := ask_runs ran
  have still : looked = before := (Prod.mk.inj performed).2.symm
  subst still
  cases handle with
  | error error =>
    cases onward
    exact .refused rfl
  | ok handle =>
    rcases Runs.of_bind onward with ⟨error, wrong, rfl⟩ |
      ⟨value, none, rest, middle, rfl, found', asking⟩
    · cases wrong
    · cases found'
      by_cases reconciles : handle.hasReconcile = true
      · rw [if_pos reconciles] at asking
        obtain ⟨world, called, invoked, later, performed, rfl, awaiting⟩ := ask_runs asking
        have still : invoked = looked := (Prod.mk.inj performed).2.symm
        subst still
        cases awaiting with
        | @call op next state replied final event reply rest outcome acts ending =>
          obtain ⟨rfl, world, performed⟩ := acts
          have still : replied = invoked := (Prod.mk.inj performed).2.symm
          subst still
          cases reply with
          | error error =>
            cases ending
            exact .refused rfl
          | ok value =>
            have answer : (⟨.await (reconcileCall action),
                (.ok value : Except ActionError PyValue)⟩ : gatewaySignature.Event) ∈
                  [(⟨.await (reconcileCall action), (.ok value : Except ActionError PyValue)⟩ :
                    gatewaySignature.Event)] := by simp
            apply (reconciled_runs got own pending rfl answer ending).mono
            intro event member
            rw [List.mem_singleton.mp member]
            simp [reconcileCall]
      · rw [if_neg reconciles] at asking
        cases asking
        exact .refused rfl

/-- `reconcile` with the record it read. -/
theorem reconcileRecord_runs {found : Option DurableActionRecord}
    (got : before.journal.get action.binding = .ok found)
    (ran : Runs ((gateways key kinds).alone owner)
      (DurableActionGateway.reconcileRecord action identity decision found) before events outcome
      after) :
    Reconciles action events before.journal after.journal outcome := by
  cases found with
  | none =>
    cases ran
    exact .refused rfl
  | some record =>
    unfold DurableActionGateway.reconcileRecord at ran
    dsimp only at ran
    split at ran
    · cases ran
      exact .refused rfl
    · rename_i checked
      have own := SourceActionPlan.checkDigest_eq_ok.mp checked
      have same := (SourceActionPlan.digested_eq_ok.mp own).2.symm
      split at ran
      · rename_i receipt executed holds
        cases ran
        exact .stored got same executed holds rfl
      · rename_i executing
        exact askSource_runs got own (.inl executing) ran
      · rename_i required
        exact askSource_runs got own (.inr required) ran
      · cases ran
        exact .refused rfl

/-- What a run of `reconcile` does: without an allowance of the policy nothing but raise. -/
theorem reconcile_runs
    (ran : Runs ((gateways key kinds).alone owner)
      (DurableActionGateway.reconcile action identity) before events outcome after) :
    ((∃ error, outcome = .error error) ∧ after.journal = before.journal) ∨
      AllowedReconcile action identity events ∧
        Reconciles action events before.journal after.journal outcome := by
  rcases Runs.of_bind ran with ⟨error, asked, rfl⟩ |
    ⟨decision, asking, rest, decided, rfl, asked, onward⟩
  · exact .inl ⟨⟨error, rfl⟩, journal_of_plain (authorize_makes (fun _ plain => plain) ..) asked⟩
  · have kept := journal_of_plain (authorize_makes (fun _ plain => plain) ..) asked
    by_cases allowed : decision.allowed = true
    · rw [if_pos allowed] at onward
      obtain ⟨world, found, read, later, performed, rfl, reading⟩ := ask_runs onward
      have got : decided.journal.get action.binding = found := (Prod.mk.inj performed).1
      have still : read = decided := (Prod.mk.inj performed).2.symm
      subst still
      refine .inr ⟨⟨decision, allowed, List.mem_append_left _ (authorize_runs asked)⟩, ?_⟩
      rw [← kept]
      cases found with
      | error error =>
        cases reading
        exact .refused rfl
      | ok record =>
        apply (reconcileRecord_runs got reading).mono
        intro event member
        exact List.mem_append_right _ (List.mem_cons_of_mem _ member)
    · rw [if_neg allowed] at onward
      cases onward
      exact .inl ⟨⟨_, rfl⟩, kept⟩

end Reconcile

/-! ## Every call -/

/-- The policy allowed it, and the record of the plan is executed with a receipt, or open and proven
applied by the source. -/
def Reconcilable [Stdlib] (action : SourceActionPlan) (identity : RequestIdentity)
    (before : Journal) (events : List gatewaySignature.Event) : Prop :=
  AllowedReconcile action identity events ∧
    ∃ found, before.get action.binding = .ok (some found) ∧ found.actionDigest = action.digest ∧
      (found.state = .executed ∧ (∃ receipt, found.receipt = some receipt) ∨
        found.state.Pending ∧ ProvenApplied action events)

/-- What `reconcile` returns, and what it leaves alone. -/
structure ReconcileSpecified [Stdlib] (action : SourceActionPlan) (identity : RequestIdentity)
    (activity : Activity) (before after : Journal) : Prop where
  /-- A receipt is returned only for an allowed call and a record with the plan's digest: the stored
  one with nothing written, or a recovered one that closes an open record the source proved. -/
  returns : ∀ returned, activity.outcome = .ok returned → ∃ receipt, returned = .receipt receipt ∧
    AllowedReconcile action identity activity.events ∧
      ∃ found, before.get action.binding = .ok (some found) ∧
        found.actionDigest = action.digest ∧
          (found.state = .executed ∧ found.receipt = some receipt ∧ after = before ∨
            found.state.Pending ∧ ProvenApplied action activity.events ∧
              RecoveryOf action found receipt ∧ ClosedWith action after receipt)
  /-- In every other case it raises, and the record is not moved to executed. -/
  otherwise : ¬ Reconcilable action identity before activity.events →
    (∃ error, activity.outcome = .error error) ∧
      ∀ row, after.records.find? action.binding = some row →
        row.state = DurableActionState.executed.value →
          before.records.find? action.binding = some row
  /-- A failed or prepared record is left with the whole journal unchanged. -/
  settled : ∀ row, before.records.find? action.binding = some row →
    row.state = DurableActionState.failed.value ∨ row.state = DurableActionState.prepared.value →
      after = before
  /-- The records under other keys stay. -/
  others : ∀ other ≠ action.binding, after.records.find? other = before.records.find? other
  /-- `connector.mutate` is not called. -/
  undispatched : ¬ activity.Dispatches

/-- An open record is neither failed nor prepared. -/
theorem DurableActionState.Pending.unsettled {state : DurableActionState}
    (pending : state.Pending) :
    ¬ (state.value = DurableActionState.failed.value ∨
      state.value = DurableActionState.prepared.value) := by
  rcases pending with rfl | rfl <;> decide

/-- Every call of `reconcile` that no other operation on the key interrupts does what it should. -/
theorem reconcile_specified [Stdlib] {key : IntegrityKey} {gateway : Nat} {activity : Activity}
    {before after : Shared} {action : SourceActionPlan} {identity : RequestIdentity}
    (called : activity.call = .reconcile action identity)
    (performed : activity.Performed key .durable gateway before after) :
    ReconcileSpecified action identity activity before.journal after.journal := by
  obtain ⟨call, events, outcome⟩ := activity
  obtain rfl : call = _ := called
  obtain ⟨inner, ran, rfl⟩ := Runs.of_map performed
  have makes : (DurableActionGateway.reconcile action identity).Makes
      fun op : GatewayOp => op.dispatches = false :=
    DurableActionGateway.reconcile_makes quiet_undispatching (fun _ _ _ _ => rfl) identity
  have undispatched : ¬ (⟨.reconcile action identity, events, inner.map .receipt⟩ :
      Activity).Dispatches := by
    rintro ⟨event, member, sends⟩
    rw [events_of_makes makes ran event member] at sends
    cases sends
  -- what is read of the record a case found
  have stateOf : ∀ (journal : Journal) (found : DurableActionRecord) (row : RecordRow),
      journal.get action.binding = .ok (some found) →
        journal.records.find? action.binding = some row → row.state = found.state.value := by
    intro journal found row got present
    obtain ⟨own, there, read⟩ := Journal.row_of_get got
    rw [present] at there
    rw [Option.some.inj there, (reads_of_record read).state]
  rcases reconcile_runs ran with ⟨⟨error, rfl⟩, kept⟩ | ⟨allowed, reconciles⟩
  · exact {
      returns := fun _ same => nomatch same
      otherwise := fun _ => ⟨⟨error, rfl⟩, fun row present _ => by rwa [← kept]⟩
      settled := fun _ _ _ => kept
      others := fun _ _ => by rw [kept]
      undispatched := undispatched }
  · cases reconciles with
    | @refused error kept =>
      exact {
        returns := fun _ same => nomatch same
        otherwise := fun _ => ⟨⟨error, rfl⟩, fun row present _ => by rwa [← kept]⟩
        settled := fun _ _ _ => kept
        others := fun _ _ => by rw [kept]
        undispatched := undispatched }
    | @stored found receipt got same executed holds kept =>
      have reconcilable : Reconcilable action identity before.journal events :=
        ⟨allowed, found, got, same, .inl ⟨executed, receipt, holds⟩⟩
      exact {
        returns := by
          rintro returned ⟨⟩
          exact ⟨receipt, rfl, allowed, found, got, same, .inl ⟨executed, holds, kept⟩⟩
        otherwise := fun other => absurd reconcilable other
        settled := fun _ _ _ => kept
        others := fun _ _ => by rw [kept]
        undispatched := undispatched }
    | @recovered found receipt _ got same pending proven recovery closed others ends =>
      have reconcilable : Reconcilable action identity before.journal events :=
        ⟨allowed, found, got, same, .inr ⟨pending, proven⟩⟩
      exact {
        returns := by
          intro returned ended
          rcases ends with rfl | ⟨error, rfl⟩
          · cases ended
            exact ⟨receipt, rfl, allowed, found, got, same,
              .inr ⟨pending, proven, recovery, closed⟩⟩
          · cases ended
        otherwise := fun other => absurd reconcilable other
        settled := by
          intro row present settled
          rw [stateOf _ _ _ got present] at settled
          exact absurd settled pending.unsettled
        others := others
        undispatched := undispatched }
    | @unresolved found updated error got same pending left reopened others =>
      exact {
        returns := fun _ same => nomatch same
        otherwise := by
          refine fun _ => ⟨⟨error, rfl⟩, fun row present executed => ?_⟩
          rw [stateOf _ _ _ left present, reopened] at executed
          exact absurd executed (by decide)
        settled := by
          intro row present settled
          rw [stateOf _ _ _ got present] at settled
          exact absurd settled pending.unsettled
        others := others
        undispatched := undispatched }

/-! ## A small call -/

/-- A gateway after a crash in the middle of an execution. -/
def Shared.interrupted [Stdlib] : Shared where
  journal := .replay .small .empty [.prepare shared "allow" noon, .begin shared noon]
  gateways _ := .fresh

/-- A record left open by a crash is closed once the source proves that the plan was applied. -/
theorem reconcile_specified_interrupted : letI := Stdlib.transparent
    ∃ (activity : Activity) (after : Shared) (receipt : StoredReceipt),
      activity.call = .reconcile shared .small ∧
        activity.Performed .small .durable 0 .interrupted after ∧
          activity.outcome = .ok (.receipt receipt) ∧ receipt.state = .recovered ∧
            ClosedWith shared after.journal receipt := by
  let := Stdlib.transparent
  let ran := (Surroundings.fixed (obliging (.ok applied))).perform .small 0 .durable
    (.reconcile shared .small) (.interrupted, ())
  have performed : ran.1.Performed .small .durable 0 .interrupted ran.2.1 :=
    (Surroundings.fixed (obliging (.ok applied))).perform_performed .small 0 .durable _
      (.interrupted, ())
  have called : ran.1.call = .reconcile shared .small := rfl
  have succeeds : ran.1.outcome.toBool = true := by decide +kernel
  have reads : (Shared.interrupted.journal.records.find? shared.binding).any
      (fun row => row.state == DurableActionState.executing.value) = true := by
    decide +kernel
  have specified := reconcile_specified called performed
  cases shown : ran.1.outcome with
  | error error =>
    rw [shown] at succeeds
    cases succeeds
  | ok returned =>
    obtain ⟨receipt, rfl, -, found, got, -, ⟨executed, -⟩ | ⟨-, -, recovery, closed⟩⟩ :=
      specified.returns returned shown
    · obtain ⟨row, present, read⟩ := Journal.row_of_get got
      rw [present, Option.any_some, beq_iff_eq, ← (reads_of_record read).state, executed] at reads
      exact absurd reads (by decide)
    · exact ⟨_, _, receipt, called, performed, shown, recovery.state, closed⟩

end DataHarness
