import DataHarness.Gateway.Durable
import DataHarness.Gateway.Gates
import DataHarness.Gateway.Surroundings

/-!
# Replays of an executed plan

Once an outcome is recorded, every execution of its plan by any gateway on the journal is a replay:
it calls no connector, writes nothing to the journal and returns the receipt that was stored
(`replays_original`). Only its report can still raise.
-/

namespace DataHarness

open Effect Program Transition ActionGateway

/-! ## Executions on one journal -/

/-- A call of one of the gateways opened on a journal, each with its key. -/
structure OpenedCall where
  key : IntegrityKey
  gateway : Nat
  activity : Activity

/-- Calls of `execute`, one after the other, by durable gateways opened on one journal. What a
gateway keeps in memory may be new for every call. -/
def executions [Stdlib] : System Journal OpenedCall where
  step before call after := ∃ opened final,
    (∃ action preview identity approval,
      call.activity.call = .execute action preview identity approval) ∧
    call.activity.Performed call.key .durable call.gateway ⟨before, opened⟩ final ∧
      final.journal = after

/-- The journal has the record of a plan as executed with a receipt. -/
def HoldsReceipt [Stdlib] (action : SourceActionPlan) (receipt : StoredReceipt)
    (journal : Journal) : Prop :=
  ∃ row found, journal.records.find? action.binding = some row ∧ record row = .ok found ∧
    action.digested = .ok found.actionDigest ∧ found.state = .executed ∧
      found.receipt = some receipt

/-- A call passed its gates: it went on to the journal, which no gate writes to. -/
def Activity.PassesGates (activity : Activity) : Prop :=
  ∃ event ∈ activity.events, event.1.writes = true

/-- The call reaches the connector of a source. -/
def GatewayOp.connects : GatewayOp → Bool
  | .invoke _ => true
  | .await _ => true
  | _ => false

/-- The report of a replay raised: telemetry raised outside `Exception`, or it failed and the clock
told no time zone for the entry that says so. -/
def ReportRaised (events : List gatewaySignature.Event) : Prop :=
  ∃ sent raised, sent.name = "data.harness.action.replayed" ∧
    (⟨.emit sent, (.error raised : Except ActionError Unit)⟩ : gatewaySignature.Event) ∈ events ∧
      (raised.isException = false ∨ ∃ time : DateTime, time.aware = false ∧
        (⟨.now, time⟩ : gatewaySignature.Event) ∈ events)

/-- What an execution of an executed plan does. -/
structure ReplaysReceipt (receipt : StoredReceipt) (before after : Journal) (activity : Activity) :
    Prop where
  /-- Both tables stay. -/
  unchanged : after = before
  /-- No connector is called. -/
  unconnected : ∀ event ∈ activity.events, event.1.connects = false
  /-- The stored receipt is returned with its state, completion and audit digest replaced. -/
  returns : (∃ completedAt auditDigest, activity.outcome = .ok (.receipt { receipt with
      state := .alreadyExecuted
      completedAt := completedAt
      auditDigest := auditDigest })) ∨
    (∃ error, activity.outcome = .error error) ∧ ReportRaised activity.events

section Replay

variable [Stdlib] {key : IntegrityKey} {kinds : Nat → GatewayKind} {owner : Owner}
  {before after : Shared} {events : List gatewaySignature.Event} {action : SourceActionPlan}
  {identity : RequestIdentity} {receipt : StoredReceipt}

/-! ## The pieces -/

/-- Telemetry ends, or raises outside `Exception`, or fails at a time without a zone. -/
theorem emitEvent_runs {event : TelemetryEvent} {actionId : String}
    {outcome : Except ActionError Unit}
    (ran : Runs ((gateways key kinds).alone owner) (emitEvent event actionId) before events outcome
      after) :
    outcome = .ok () ∨ ∃ raised,
      (⟨.emit event, (.error raised : Except ActionError Unit)⟩ : gatewaySignature.Event) ∈ events ∧
        (raised.isException = false ∨ ∃ time : DateTime, time.aware = false ∧
          (⟨.now, time⟩ : gatewaySignature.Event) ∈ events) := by
  have sends : ∀ {earlier : List gatewaySignature.Event} {middle : Shared}
      {sent : Except ActionError Unit}, Runs ((gateways key kinds).alone owner)
        ((ask (.emit event)).bind fun sent : Except ActionError Unit => Program.ofExcept sent)
        before earlier sent middle →
      (⟨.emit event, sent⟩ : gatewaySignature.Event) ∈ earlier := by
    intro earlier middle sent ran
    obtain ⟨world, reply, still, later, -, rfl, ended⟩ := ask_runs ran
    obtain ⟨-, rfl, -⟩ := Runs.of_ofExcept ended
    exact List.mem_cons_self
  rcases Runs.of_handled ran with ⟨raised, uncaught, rfl, tried⟩ |
    ⟨inner, earlier, later, middle, rfl, tried, -, onward⟩
  · exact .inr ⟨raised, sends tried, .inl uncaught⟩
  · have sent := sends tried
    cases inner with
    | ok value =>
      cases onward
      exact .inl rfl
    | error raised =>
      obtain ⟨world, failed, clocked, rest, -, rfl, appending⟩ := ask_runs onward
      by_cases aware : failed.aware = true
      · rcases Runs.of_bind appending with ⟨error, audited, rfl⟩ |
          ⟨entry, auditing, last, noted, rfl, audited, ended⟩
        · obtain ⟨world, reply, still, more, performed, rfl, ended⟩ := ask_runs audited
          obtain ⟨entry, ledger, appended⟩ := ActionAuditLedger.append_of_aware
            (clocked.gateways owner.gateway).audit "telemetry-failed" actionId aware
            [("event_name", .str event.name)]
          simp only [perform, appended] at performed
          obtain ⟨rfl, -⟩ := Prod.mk.inj performed
          cases ended
        · cases ended
          exact .inl rfl
      · exact .inr ⟨raised, List.mem_append_left _ sent, .inr ⟨failed,
          Bool.eq_false_iff.mpr aware, List.mem_append_right _ List.mem_cons_self⟩⟩

/-- The time at which an execution passed its gates tells its zone. -/
theorem passGates_aware {preview : ActionPreview} {approval : Option ActionApproval}
    {started : DateTime} {decision : PolicyDecision}
    (ran : Runs ((gateways key kinds).alone owner) (passGates action preview identity approval)
      before events (.ok (started, decision)) after) : started.aware = true := by
  obtain ⟨world, clock, middle, later, -, rfl, validating⟩ := ask_runs ran
  rcases Runs.of_bind validating with ⟨error, -, same⟩ |
    ⟨value, none, rest, still, rfl, validated, onward⟩
  · cases same
  · obtain ⟨-, valid, -⟩ := Runs.of_ofExcept validated
    obtain ⟨-, -, -, -, unexpired⟩ := validatePreview_iff.mp valid.symm
    have zone : clock.aware = true := by
      unfold DateTime.before? at unexpired
      split at unexpired
      · rename_i same
        rw [same]
        exact preview.aware.2
      · cases unexpired
    rcases Runs.of_bind onward with ⟨error, -, same⟩ | ⟨value, _, _, _, rfl, -, onward⟩
    · cases same
    · rcases Runs.of_bind onward with ⟨error, -, same⟩ | ⟨decided, _, _, _, rfl, -, ended⟩
      · cases same
      · by_cases allowed : decided.allowed = true
        · rw [if_pos allowed] at ended
          cases ended
          exact zone
        · rw [if_neg allowed] at ended
          cases ended

/-- A replay at a time with a zone returns the receipt, or its report raises. -/
theorem replay_runs {started : DateTime} {outcome : Except ActionError StoredReceipt}
    (aware : started.aware = true)
    (ran : Runs ((gateways key kinds).alone owner) (replay action identity started receipt) before
      events outcome after) :
    (∃ auditDigest, outcome = .ok { receipt with
        state := .alreadyExecuted
        completedAt := started
        auditDigest := auditDigest }) ∨
      (∃ error, outcome = .error error) ∧ ReportRaised events := by
  rcases Runs.of_bind ran with ⟨error, audited, rfl⟩ |
    ⟨audit, auditing, rest, noted, rfl, audited, reporting⟩
  · obtain ⟨world, reply, still, more, performed, rfl, ended⟩ := ask_runs audited
    obtain ⟨entry, ledger, appended⟩ := ActionAuditLedger.append_of_aware
      (before.gateways owner.gateway).audit "replayed" action.actionId aware
      [("receipt_id", receipt.receiptId)]
    simp only [perform, appended] at performed
    obtain ⟨rfl, -⟩ := Prod.mk.inj performed
    cases ended
  · rcases Runs.of_bind reporting with ⟨error, sent, rfl⟩ |
      ⟨value, sending, last, reported, rfl, sent, ended⟩
    · rcases emitEvent_runs sent with wrong | ⟨raised, member, cause⟩
      · cases wrong
      · refine .inr ⟨⟨error, rfl⟩, _, raised, rfl, List.mem_append_right _ member, ?_⟩
        rcases cause with uncaught | ⟨time, zoneless, clocked⟩
        · exact .inl uncaught
        · exact .inr ⟨time, zoneless, List.mem_append_right _ clocked⟩
    · cases ended
      exact .inl ⟨_, rfl⟩

/-! ## Executions of a held plan -/

/-- `prepare` of a plan under a held key reads the record, or refuses another plan. -/
theorem HoldsReceipt.prepare {journal : Journal} (holds : HoldsReceipt action receipt journal)
    {plan : SourceActionPlan} (keyed : plan.binding = action.binding) (decisionId : String)
    (now : DateTime) :
    (plan.digested ≠ action.digested ∧ ∃ error,
        journal.reply key (.prepare plan decisionId now) = .error error) ∨
      plan.digested = action.digested ∧ ∃ found,
        journal.reply key (.prepare plan decisionId now) = .ok (some found) ∧
          found.state = .executed ∧ found.receipt = some receipt := by
  obtain ⟨row, found, present, read, own, executed, stored⟩ := holds
  rw [← keyed] at present
  have ran : journal.transact key (.prepare plan decisionId now) =
      (plan.checkDigest found.actionDigest Journal.boundMessage).map fun _ =>
        (some found, journal) := by
    apply (Journal.prepare_of_present present decisionId now).trans
    rw [read]
    rfl
  by_cases same : plan.digested = action.digested
  · rw [SourceActionPlan.checkDigest_eq_ok.mpr (same.trans own)] at ran
    exact .inr ⟨same, found, by rw [Journal.reply, ran]; rfl, executed, stored⟩
  · obtain ⟨error, refused, -⟩ := SourceActionPlan.checkDigest_refused
      (fun bound => same (bound.trans own.symm)) Journal.boundMessage
    rw [refused] at ran
    exact .inl ⟨same, error, by rw [Journal.reply, ran]; rfl⟩

omit [Stdlib] in
/-- A plain call reaches no connector. -/
theorem plain_unconnected (op : GatewayOp) (plain : op.plain = true) : op.connects = false := by
  cases op with
  | invoke => cases plain
  | await => cases plain
  | _ => rfl

/-- An execution of a plan under a held key ends at a gate, is refused, or is a replay. -/
theorem held_runs (holds : HoldsReceipt action receipt before.journal) {plan : SourceActionPlan}
    (keyed : plan.binding = action.binding) {preview : ActionPreview}
    {approval : Option ActionApproval} {outcome : Except ActionError StoredReceipt}
    (ran : Runs ((gateways key kinds).alone owner)
      (DurableActionGateway.execute plan preview identity approval) before events outcome after) :
    after.journal = before.journal ∧
      ((∀ event ∈ events, event.1.writes = false) ∨ plan.digested ≠ action.digested ∨
        ∃ started front middle later, started.aware = true ∧ events = front ++ later ∧
          (∀ event ∈ front, event.1.connects = false) ∧
            Runs ((gateways key kinds).alone owner) (replay plan identity started receipt) middle
              later outcome after) := by
  have plain := passGates_makes (fun _ plain => plain) plan preview identity approval
  rcases execute_runs ran with ⟨error, rfl, gated⟩ |
    ⟨started, decision, passed, prepared, ready, gating, reading, later, rfl, reads, gated,
      transacts, onward⟩
  · exact ⟨journal_of_plain plain gated,
      .inl fun event member => plain_unwriting _ (events_of_makes plain gated event member)⟩
  · have kept := journal_of_plain plain gated
    rw [← kept] at holds ⊢
    rcases holds.prepare keyed decision.decisionId started with ⟨differs, error, refused⟩ |
      ⟨same, found, replied, executed, stored⟩
    · obtain ⟨rfl, still⟩ := transacts.of_raise refused
      obtain ⟨-, -, rfl⟩ := onward
      exact ⟨still, .inr (.inl differs)⟩
    · obtain ⟨rfl, still⟩ := transacts.of_found replied
      have replays : Runs ((gateways key kinds).alone owner) (replay plan identity started receipt)
          ready later outcome after := by
        simpa only [DurableActionGateway.executePrepared, executed, stored] using onward
      have unconnected : ∀ event ∈ gating ++
          ⟨.journal (.prepare plan decision.decisionId started),
            passed.journal.reply key (.prepare plan decision.decisionId started)⟩ :: reading,
          event.1.connects = false := by
        intro event member
        rcases List.mem_append.mp member with member | member
        · exact plain_unconnected _ (events_of_makes plain gated event member)
        · rcases List.mem_cons.mp member with rfl | member
          · rfl
          · obtain ⟨binding, same⟩ := reads event member
            rw [same]
            rfl
      refine ⟨?_, .inr (.inr ⟨started, _, ready, later, passGates_aware gated, ?_, unconnected,
        replays⟩)⟩
      · rw [journal_of_plain (replay_makes (fun _ plain => plain) ..) replays, still]
      · simp

/-- A call for another key leaves the record. -/
theorem find?_of_other {plan : SourceActionPlan} {α : Type} {program : GatewayProgram α}
    {outcome : Except ActionError α} {binding : Binding} (other : plan.binding ≠ binding)
    (makes : program.Makes fun op : GatewayOp => ∀ tx, op = .journal tx → tx.action = plan)
    (ran : Runs ((gateways key kinds).alone owner) program before events outcome after) :
    after.journal.records.find? binding = before.journal.records.find? binding := by
  induction ran with
  | ret => rfl
  | raise => rfl
  | @call op next state middle final event reply later outcome acts _ ih =>
    obtain ⟨-, world, performed⟩ := acts
    have same : perform key owner.gateway world state op = (reply, middle) := performed
    have kept := perform_journal key owner.gateway world state op
    rw [same] at kept
    rw [ih (makes.2 reply), kept]
    cases op with
    | journal tx =>
      have own := makes.1 tx rfl
      rcases Journal.commit_cases key state.journal tx with same | wrote
      · exact congrArg (fun journal => journal.records.find? binding) same
      · obtain ⟨event, written, write⟩ := wrote.write
        rw [write.find?, own, if_neg other]
    | _ => rfl

/-- An execution keeps the record of an executed plan. -/
theorem HoldsReceipt.executed (holds : HoldsReceipt action receipt before.journal)
    {plan : SourceActionPlan} {preview : ActionPreview} {approval : Option ActionApproval}
    {outcome : Except ActionError StoredReceipt}
    (ran : Runs ((gateways key kinds).alone owner)
      (DurableActionGateway.execute plan preview identity approval) before events outcome after) :
    HoldsReceipt action receipt after.journal := by
  by_cases keyed : plan.binding = action.binding
  · rw [(held_runs holds keyed ran).1]
    exact holds
  · have quiet : ∀ op : GatewayOp, op.Quiet → ∀ tx, op = .journal tx → tx.action = plan := by
      rintro op quiet tx rfl
      cases quiet.2
    have makes : (DurableActionGateway.execute plan preview identity approval).Makes
        fun op : GatewayOp => ∀ tx, op = .journal tx → tx.action = plan := by
      apply Makes.bind (passGates_makes (plain_of_quiet quiet) ..)
      intro gated
      exact DurableActionGateway.executeChecked_makes quiet (fun tx other => nomatch other)
        (fun tx own _ other same => by cases same; exact own) ..
    have kept := find?_of_other keyed makes ran
    obtain ⟨row, found, present, rest⟩ := holds
    exact ⟨row, found, by rw [kept, present], rest⟩

end Replay

section Executions

variable [Stdlib] {action : SourceActionPlan} {receipt : StoredReceipt}

/-- A held receipt is read back. -/
theorem HoldsReceipt.get {journal : Journal} (holds : HoldsReceipt action receipt journal) :
    ∃ found, journal.get action.binding = .ok (some found) ∧ found.receipt = some receipt := by
  obtain ⟨row, found, present, read, -, -, stored⟩ := holds
  refine ⟨found, ?_, stored⟩
  rw [Journal.get, present]
  show (record row).map some = _
  rw [read]
  rfl

/-- A step of the executions keeps the record of an executed plan. -/
theorem HoldsReceipt.step {before after : Journal} {call : OpenedCall}
    (holds : HoldsReceipt action receipt before) (step : executions.step before call after) :
    HoldsReceipt action receipt after := by
  obtain ⟨opened, final, ⟨plan, preview, identity, approval, called⟩, performed, rfl⟩ := step
  obtain ⟨key, gateway, made, events, outcome⟩ := call
  obtain rfl : made = _ := called
  obtain ⟨inner, ran, -⟩ := Runs.of_map performed
  exact holds.executed ran

/-- Every run of the executions keeps it. -/
theorem HoldsReceipt.run {start final : Journal} {calls : List OpenedCall}
    (holds : HoldsReceipt action receipt start) (run : executions.Run start calls final) :
    HoldsReceipt action receipt final :=
  run.invariant (fun _ journal => HoldsReceipt action receipt journal) holds
    fun _ _ _ _ _ held step => held.step step

/-- A step that executes the plan past its gates is a replay. -/
theorem HoldsReceipt.replays {before after : Journal} {call : OpenedCall}
    (holds : HoldsReceipt action receipt before) (step : executions.step before call after)
    {preview : ActionPreview} {identity : RequestIdentity} {approval : Option ActionApproval}
    (called : call.activity.call = .execute action preview identity approval)
    (passes : call.activity.PassesGates) : ReplaysReceipt receipt before after call.activity := by
  obtain ⟨opened, final, -, performed, rfl⟩ := step
  obtain ⟨key, gateway, made, events, outcome⟩ := call
  obtain rfl : made = _ := called
  obtain ⟨inner, ran, rfl⟩ := Runs.of_map performed
  obtain ⟨kept, ends⟩ := held_runs holds rfl ran
  rcases ends with refused | differs | ⟨started, front, middle, later, aware, rfl, unconnected,
    replayed⟩
  · obtain ⟨event, member, writes⟩ := passes
    cases (refused event member).symm.trans writes
  · exact absurd rfl differs
  · refine ⟨kept, ?_, ?_⟩
    · intro event member
      rcases List.mem_append.mp member with member | member
      · exact unconnected event member
      · exact plain_unconnected _
          (events_of_makes (replay_makes (fun _ plain => plain) ..) replayed event member)
    · rcases replay_runs aware replayed with ⟨digest, rfl⟩ | ⟨⟨error, rfl⟩, sent, raised, named,
        emitted, cause⟩
      · exact .inl ⟨started, digest, rfl⟩
      · refine .inr ⟨⟨error, rfl⟩, sent, raised, named, List.mem_append_right _ emitted, ?_⟩
        rcases cause with uncaught | ⟨time, zoneless, clocked⟩
        · exact .inl uncaught
        · exact .inr ⟨time, zoneless, List.mem_append_right _ clocked⟩

end Executions

/-! ## Every sequence of executions -/

/-- Completing a plan that the journal knows records its receipt, which is read back in every field.
Whatever executions follow on the journal, it stays there, and every execution of the plan that
passes its gates calls no connector, leaves the journal as it is and returns the receipt with state,
completion and audit digest replaced, unless its report raises. -/
theorem replays_original [Stdlib] {key : IntegrityKey} {start : Journal}
    {action : SourceActionPlan} {prepared : DurableActionRecord}
    (got : start.get action.binding = .ok (some prepared))
    (own : action.digested = .ok prepared.actionDigest) (receipt : Receipt) (now : DateTime) :
    start.reply key (.complete action receipt now) = .ok none ∧
      ∀ calls journal, executions.Run (start.commit key (.complete action receipt now)) calls
          journal →
        (∃ found, journal.get action.binding = .ok (some found) ∧
          found.receipt = some receipt.stored) ∧
        ∀ call after preview identity approval, executions.step journal call after →
          call.activity.call = .execute action preview identity approval →
            call.activity.PassesGates →
              ReplaysReceipt receipt.stored journal after call.activity := by
  obtain ⟨row, present, read⟩ := Journal.row_of_get got
  have digest : action.digested = .ok row.actionDigest := by
    rw [← (reads_of_record read).actionDigest, own]
  obtain ⟨replied, ⟨changed, again, updated, reread, bound, state, stored⟩, -⟩ :=
    @written_of_closing _ key (.complete action receipt now) _ _ rfl _ _ present read digest
  have holds : HoldsReceipt action receipt.stored
      (start.commit key (.complete action receipt now)) :=
    ⟨changed, again, updated, reread, bound, state, stored⟩
  refine ⟨replied, fun calls journal run => ⟨(holds.run run).get, ?_⟩⟩
  intro call after preview identity approval step called passes
  exact (holds.run run).replays step called passes

/-! ## Small replays -/

section Small

variable [Stdlib]

/-- A journal in which a small plan was prepared and completed. -/
def Journal.completed : Journal :=
  (Journal.replay .small .empty [.prepare shared "allow" noon]).commit .small
    (.complete shared shared.smallReceipt noon)

/-- Surroundings whose telemetry refuses the report of a replay, with a clock that tells its time
zone at every other reading. -/
def Surroundings.unreported : Surroundings Bool where
  respond zoneless op :=
    match op with
    | .now => (if zoneless then { noon with utcoffset := none } else noon, !zoneless)
    | .emit event =>
      (if event.name = "data.harness.action.replayed" then .error (.other "telemetry is down")
        else .ok (), zoneless)
    | op => (obliging (.ok successful) op, zoneless)

variable {σ : Type} (surroundings : Surroundings σ) (state : σ)

/-- An execution of the plan on that journal. -/
def replayedExecution : Activity × Shared × σ :=
  surroundings.perform .small 0 .durable (.execute shared shared.smallPreview .small none)
    (⟨.completed, fun _ => .fresh⟩, state)

/-- It is an execution on that journal. -/
theorem replayedExecution_step : executions.step .completed
    ⟨.small, 0, (replayedExecution surroundings state).1⟩
      (replayedExecution surroundings state).2.1.journal :=
  ⟨fun _ => .fresh, _, ⟨_, _, _, _, rfl⟩,
    surroundings.perform_performed .small 0 .durable _ (⟨.completed, fun _ => .fresh⟩, state), rfl⟩

/-- It is the execution of the plan. -/
theorem replayedExecution_call : (replayedExecution surroundings state).1.call =
    .execute shared shared.smallPreview .small none := rfl

variable {surroundings state}

/-- It passes its gates. -/
theorem replayedExecution_passes
    (writes : ((replayedExecution surroundings state).1.events.any fun event => event.1.writes) =
      true) : (replayedExecution surroundings state).1.PassesGates := by
  obtain ⟨event, member, writing⟩ := List.any_eq_true.mp writes
  exact ⟨event, member, writing⟩

end Small

/-- A plan that was executed is executed again: its receipt is returned as already executed. -/
theorem replays_original_small : letI := Stdlib.transparent
    ∃ (activity : Activity) (after : Journal),
      executions.step .completed ⟨.small, 0, activity⟩ after ∧
        activity.call = .execute shared shared.smallPreview .small none ∧ activity.PassesGates ∧
          ReplaysReceipt shared.smallReceipt.stored .completed after activity := by
  let := Stdlib.transparent
  let surroundings := Surroundings.fixed (obliging (.ok successful))
  have passes := @replayedExecution_passes _ _ surroundings () (by decide +kernel)
  have known : ((Journal.replay .small .empty [.prepare shared "allow" noon]).get
      shared.binding).toOption.join.any (·.actionDigest == shared.digest) = true := by
    decide +kernel
  obtain ⟨found, read, same⟩ := (Option.any_eq_true _ _).mp known
  have got : (Journal.replay .small .empty [.prepare shared "allow" noon]).get shared.binding =
      .ok (some found) := by
    cases outcome : (Journal.replay .small .empty [.prepare shared "allow" noon]).get
        shared.binding with
    | error error =>
      rw [outcome] at read
      cases read
    | ok reply =>
      rw [outcome] at read
      exact congrArg Except.ok read
  obtain ⟨digest, taken⟩ := exists_ok (by decide +kernel : shared.digested.toBool = true)
  have own : shared.digested = .ok found.actionDigest := by
    rw [taken, eq_of_beq same, (SourceActionPlan.digested_eq_ok.mp taken).2]
  have replays := @replays_original _ .small _ _ _ got own shared.smallReceipt noon
  exact ⟨_, _, replayedExecution_step surroundings (), replayedExecution_call surroundings (),
    passes, (replays.2 [] .completed .nil).2 _ _ _ _ _ (replayedExecution_step surroundings ())
      (replayedExecution_call surroundings ()) passes⟩

/-- Telemetry is down and the clock then tells no time zone: an execution of an executed plan passes
its gates and raises. -/
theorem replay_unreported : letI := Stdlib.transparent
    ∃ (activity : Activity) (after : Journal),
      executions.step .completed ⟨.small, 0, activity⟩ after ∧
        activity.call = .execute shared shared.smallPreview .small none ∧ activity.PassesGates ∧
          ∃ error, activity.outcome = .error error := by
  let := Stdlib.transparent
  have passes := @replayedExecution_passes _ _ Surroundings.unreported false (by decide +kernel)
  have failed : (replayedExecution Surroundings.unreported false).1.outcome.toBool = false := by
    decide +kernel
  refine ⟨_, _, replayedExecution_step Surroundings.unreported false,
    replayedExecution_call Surroundings.unreported false, passes, ?_⟩
  cases shown : (replayedExecution Surroundings.unreported false).1.outcome with
  | error error => exact ⟨error, rfl⟩
  | ok returned =>
    rw [shown] at failed
    cases failed

end DataHarness
