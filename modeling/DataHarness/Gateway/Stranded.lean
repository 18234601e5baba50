import DataHarness.Gateway.Durable
import DataHarness.Gateway.Crash
import DataHarness.Gateway.Surroundings

/-!
# Keys that are locked without a dispatch

`execute` writes ahead that it is about to dispatch, and only then looks the connector up. A lookup
that fails leaves the record executing although the source was never called; no other exception does
(`unstranded_iff`).
-/

namespace DataHarness

open Effect Program ActionGateway

/-- A connector as the registry has it: the capabilities of its profile, and what a gateway asks of
it. -/
structure RegisteredConnector where
  capabilities : List Capability
  handle : ConnectorHandle

/-- `ConnectorRegistry`, for source actions. -/
structure ActionRegistry where
  connectors : Dict RegisteredConnector

/-- `get(connector_id, capability)`. -/
def ActionRegistry.get (registry : ActionRegistry) (connectorId : String)
    (capability : Capability) : Except ActionError ConnectorHandle :=
  match registry.connectors.entries.lookup connectorId with
  | none => .error (.keyError ("unknown connector: " ++ connectorId))
  | some connector =>
    if capability ∈ connector.capabilities then .ok connector.handle
    else .error (.unsupportedCapability connectorId capability)

/-- Surroundings with a registry and a policy that allows everything or nothing. -/
def ActionRegistry.world (registry : ActionRegistry) (allowed : Bool) : World gatewaySignature
  | .connector sourceId => registry.get sourceId .mutate
  | .evaluate _ => .ok ⟨allowed, "decision", "reason"⟩
  | op => obliging (.ok successful) op

/-- Every lookup of a call is answered by the registry. -/
def Activity.Registered (registry : ActionRegistry) (activity : Activity) : Prop :=
  ∀ sourceId (reply : Except ActionError ConnectorHandle),
    (⟨.connector sourceId, reply⟩ : gatewaySignature.Event) ∈ activity.events →
      reply = registry.get sourceId .mutate

/-- The record under a key is absent, prepared or exactly as it was before. -/
def Unstranded (binding : Binding) (before after : Journal) : Prop :=
  after.records.find? binding = before.records.find? binding ∨
    ∀ row, after.records.find? binding = some row →
      row.state = DurableActionState.prepared.value

/-- The calls wrote that a plan is executing. -/
def Began (action : SourceActionPlan) (events : List gatewaySignature.Event) : Prop :=
  ∃ started, (⟨.journal (.begin action started),
    (.ok none : Except ActionError (Option DurableActionRecord))⟩ : gatewaySignature.Event) ∈ events

/-- Calls that begin nothing did not write that a plan is executing. -/
theorem not_began {action : SourceActionPlan} {events : List gatewaySignature.Event}
    (unbegun : ∀ event ∈ events, event.1.begins = false) : ¬ Began action events := by
  rintro ⟨started, member⟩
  cases unbegun _ member

section Strands

variable [Stdlib] {key : IntegrityKey} {kinds : Nat → GatewayKind} {owner : Owner}
  {before after : Shared} {events : List gatewaySignature.Event} {action : SourceActionPlan}

/-- `prepare` leaves the journal, or writes a prepared record where there was none. -/
theorem Transacts.of_prepare {policyDecisionId : String} {now : DateTime} {start final : Journal}
    {outcome : Except ActionError DurableActionRecord}
    (transacts : Transacts key (.prepare action policyDecisionId now) start outcome final) :
    final = start ∨ start.records.find? action.binding = none ∧
      ∀ row, final.records.find? action.binding = some row →
        row.state = DurableActionState.prepared.value := by
  have written : ∀ journal, Journal.Wrote key start (.prepare action policyDecisionId now) journal →
      start.records.find? action.binding = none ∧
        ∀ row, journal.records.find? action.binding = some row →
          row.state = DurableActionState.prepared.value := by
    intro journal wrote
    cases wrote with
    | prepared _ _ _ missing =>
      refine ⟨missing, fun row present => ?_⟩
      have rows := start.find?_writePrepared key action now policyDecisionId missing action.binding
      dsimp only at rows
      rw [if_pos rfl, present] at rows
      rw [Option.some.inj rows]
      rfl
    | finished _ _ _ closing => cases closing
  cases transacts with
  | raised => exact .inl rfl
  | found => exact .inl rfl
  | wrote replied => exact .inr (written _ (Journal.wrote_of_reply replied))
  | unread replied => exact .inr (written _ (Journal.wrote_of_reply replied))

/-- `begin` leaves the journal, or moves a prepared record to executing and reads it back. -/
theorem Transacts.of_begin {now : DateTime} {start final : Journal}
    {outcome : Except ActionError DurableActionRecord}
    (transacts : Transacts key (.begin action now) start outcome final) :
    (final = start ∧ start.reply key (.begin action now) ≠ .ok none) ∨
      start.reply key (.begin action now) = .ok none ∧ (∃ record, outcome = .ok record) ∧
        ∃ row changed, start.records.find? action.binding = some row ∧
          row.state = DurableActionState.prepared.value ∧
            final.records.find? action.binding = some changed ∧
              changed.state = DurableActionState.executing.value := by
  have written : ∀ journal, Journal.Wrote key start (.begin action now) journal →
      ∃ row changed again, start.records.find? action.binding = some row ∧
        row.state = DurableActionState.prepared.value ∧
          journal.records.find? action.binding = some changed ∧
            changed.state = DurableActionState.executing.value ∧ record changed = .ok again := by
    intro journal wrote
    cases wrote with
    | begun _ _ row found present read same ready =>
      have rows := start.find?_writeExecuting key action now found.attempts action.binding
      dsimp only at rows
      rw [if_pos rfl, present, Option.map_some] at rows
      have reads := reads_of_record read
      obtain ⟨again, reread, -⟩ := @record_of_rewritten _ row
        (Journal.setExecuting now (found.attempts + 1) _ row) found read .executing found.receipt
        now rfl rfl rfl reads.receipt
      refine ⟨row, _, again, present, ?_, rows, rfl, reread⟩
      rw [← reads.state, ready]
    | finished _ _ _ closing => cases closing
  cases transacts with
  | raised replied => exact .inl ⟨rfl, by simp [replied]⟩
  | found replied => exact .inl ⟨rfl, by simp [replied]⟩
  | @wrote record replied =>
    obtain ⟨row, changed, -, present, prepared, updated, executing, -⟩ :=
      written _ (Journal.wrote_of_reply replied)
    exact .inr ⟨replied, ⟨record, rfl⟩, row, changed, present, prepared, updated, executing⟩
  | unread replied unreadable =>
    obtain ⟨-, changed, again, -, -, updated, -, reread⟩ :=
      written _ (Journal.wrote_of_reply replied)
    have gets : (start.commit key (.begin action now)).get action.binding = .ok (some again) := by
      rw [Journal.get, updated]
      show (record changed).map some = _
      rw [reread]
      rfl
    exact absurd gets (unreadable again)

/-- How `execute` can leave the record of its plan. -/
inductive Strands (action : SourceActionPlan) (before after : Journal)
    (events : List gatewaySignature.Event) (outcome : Except ActionError StoredReceipt) : Prop
  | kept (unbegun : ¬ Began action events)
    (ends : (∃ event ∈ events, event.1.dispatches = true) ∨
      Unstranded action.binding before after)
  | dispatched {handle : ConnectorHandle}
    (looked : (⟨.connector action.sourceId, (.ok handle : Except ActionError ConnectorHandle)⟩ :
      gatewaySignature.Event) ∈ events)
    (dispatches : ∃ event ∈ events, event.1.dispatches = true)
  | stranded {error : ActionError} (began : Began action events)
    (looked : (⟨.connector action.sourceId, (.error error : Except ActionError ConnectorHandle)⟩ :
      gatewaySignature.Event) ∈ events)
    (raised : outcome = .error error)
    (undispatched : ∀ event ∈ events, event.1.dispatches = false)
    (locked : ¬ Unstranded action.binding before after)

/-- A call that neither dispatches nor begins. -/
def GatewayOp.Idle (op : GatewayOp) : Prop := op.dispatches = false ∧ op.begins = false

omit [Stdlib] in
/-- What is quiet is idle. -/
theorem GatewayOp.idle_of_quiet {op : GatewayOp} (quiet : op.Quiet) : op.Idle :=
  ⟨quiet.1, quiet_unbegun op quiet⟩

/-- `execute` after `prepare`, from a journal where the record is as before or was just prepared. -/
theorem executePrepared_strands {identity : RequestIdentity} {decision : PolicyDecision}
    {started : DateTime} {record : DurableActionRecord} {start : Journal}
    {outcome : Except ActionError StoredReceipt}
    (ready : before.journal = start ∨ start.records.find? action.binding = none ∧
      ∀ row, before.journal.records.find? action.binding = some row →
        row.state = DurableActionState.prepared.value)
    (ran : Runs ((gateways key kinds).alone owner)
      (DurableActionGateway.executePrepared action identity decision started record) before events
      outcome after) : Strands action start after.journal events outcome := by
  have unstranded : Unstranded action.binding start before.journal := by
    rcases ready with same | ⟨-, prepared⟩
    · exact .inl (by rw [same])
    · exact .inr prepared
  rcases executePrepared_runs ran with ⟨receipt, -, -, replayed⟩ |
    ⟨middle, begun, reading, later, rfl, reads, transacts, onward⟩
  · have plain := events_of_makes (replay_makes (fun _ plain => plain) ..) replayed
    refine .kept (not_began fun event member => plain_unbegun _ (plain event member)) (.inr ?_)
    rw [journal_of_plain (replay_makes (fun _ plain => plain) ..) replayed]
    exact unstranded
  · rcases transacts.of_begin with ⟨same, unwritten⟩ |
      ⟨replied, ⟨record, rfl⟩, row, changed, present, prepared, updated, executing⟩
    · have unbegun : ∀ rest : List gatewaySignature.Event,
          (∀ event ∈ rest, event.1.begins = false) →
            ¬ Began action (⟨.journal (.begin action started),
              before.journal.reply key (.begin action started)⟩ :: (reading ++ rest)) := by
        rintro rest still ⟨time, member⟩
        rcases List.mem_cons.mp member with own | member
        · obtain ⟨ops, replies⟩ := Sigma.mk.inj own
          obtain rfl : time = started := by
            injection ops with txs
            injection txs
          exact unwritten (eq_of_heq replies).symm
        · rcases List.mem_append.mp member with member | member
          · cases quiet_unbegun _ (reads.quiet _ member)
          · cases still _ member
      cases begun with
      | error error =>
        obtain ⟨-, rfl, rfl⟩ := onward
        refine .kept (unbegun [] (by simp)) (.inr ?_)
        rw [same]
        exact unstranded
      | ok record =>
        have still := events_of_makes (DurableActionGateway.dispatch_makes quiet_unbegun
          (fun tx _ _ closing => closing_unbegun closing) rfl ..) onward
        obtain ⟨reply, rest, rfl, ⟨error, rfl, rfl, rfl, kept⟩ |
          ⟨handle, rfl, event, member, sends⟩⟩ := dispatch_runs onward
        · refine .kept (unbegun _ still) (.inr ?_)
          rw [kept, same]
          exact unstranded
        · exact .kept (unbegun _ still) (.inl ⟨event, by simp [member], sends⟩)
    · have locked : ∀ journal, journal.records.find? action.binding = some changed →
          ¬ Unstranded action.binding start journal := by
        rintro journal found (same | prepared)
        · rw [found] at same
          rcases ready with kept | ⟨missing, -⟩
          · rw [← kept, present] at same
            rw [Option.some.inj same, prepared] at executing
            exact absurd executing (by decide)
          · rw [missing] at same
            cases same
        · rw [prepared changed found] at executing
          exact absurd executing (by decide)
      obtain ⟨reply, rest, rfl, ⟨error, rfl, rfl, rfl, kept⟩ |
        ⟨handle, rfl, event, member, sends⟩⟩ := dispatch_runs onward
      · have still : after.journal.records.find? action.binding = some changed := by
          rw [kept, updated]
        refine .stranded ⟨started, by simp [replied]⟩ (by simp) rfl ?_ (locked _ still)
        intro event member
        rcases List.mem_cons.mp member with rfl | member
        · rfl
        · rcases List.mem_append.mp member with member | member
          · exact (reads.quiet _ member).1
          · rw [List.mem_singleton.mp member]
            rfl
      · have looked : (⟨.connector action.sourceId,
            (.ok handle : Except ActionError ConnectorHandle)⟩ : gatewaySignature.Event) ∈
              ⟨.journal (.begin action started),
                before.journal.reply key (.begin action started)⟩ ::
                  (reading ++ ⟨.connector action.sourceId, .ok handle⟩ :: rest) := by simp
        exact .dispatched looked ⟨event, by simp [member], sends⟩

omit [Stdlib] in
/-- Idle calls before the others change nothing of how the record is left. -/
theorem Strands.preceded {start final : Journal} {outcome : Except ActionError StoredReceipt}
    {earlier : List gatewaySignature.Event} (strands : Strands action start final events outcome)
    (idle : ∀ event ∈ earlier, event.1.Idle) :
    Strands action start final (earlier ++ events) outcome := by
  cases strands with
  | kept unbegun ends =>
    refine .kept ?_ (ends.imp_left fun ⟨event, member, sends⟩ => ⟨event, by simp [member], sends⟩)
    rintro ⟨started, member⟩
    rcases List.mem_append.mp member with member | member
    · cases (idle _ member).2
    · exact unbegun ⟨started, member⟩
  | dispatched looked dispatches =>
    obtain ⟨event, member, sends⟩ := dispatches
    exact .dispatched (List.mem_append_right _ looked) ⟨event, by simp [member], sends⟩
  | stranded began looked raised undispatched locked =>
    obtain ⟨started, member⟩ := began
    refine .stranded ⟨started, List.mem_append_right _ member⟩ (List.mem_append_right _ looked)
      raised ?_ locked
    intro event member
    rcases List.mem_append.mp member with member | member
    · exact (idle event member).1
    · exact undispatched event member

/-- How a run of `execute` leaves the record of its plan. -/
theorem execute_strands {preview : ActionPreview} {identity : RequestIdentity}
    {approval : Option ActionApproval} {outcome : Except ActionError StoredReceipt}
    (ran : Runs ((gateways key kinds).alone owner)
      (DurableActionGateway.execute action preview identity approval) before events outcome
      after) : Strands action before.journal after.journal events outcome := by
  have plain := passGates_makes (fun _ plain => plain) action preview identity approval
  rcases execute_runs ran with ⟨error, rfl, gated⟩ |
    ⟨started, decision, passed, prepared, ready, gating, reading, later, rfl, reads, gated,
      transacts, onward⟩
  · refine .kept (not_began fun event member => plain_unbegun _ (events_of_makes plain gated event
      member)) (.inr (.inl ?_))
    rw [journal_of_plain plain gated]
  · have idle : ∀ event ∈ gating ++ ⟨.journal (.prepare action decision.decisionId started),
        passed.journal.reply key (.prepare action decision.decisionId started)⟩ :: reading,
        event.1.Idle := by
      intro event member
      rcases List.mem_append.mp member with member | member
      · exact GatewayOp.idle_of_quiet
          (GatewayOp.quiet_of_plain (events_of_makes plain gated event member))
      · rcases List.mem_cons.mp member with rfl | member
        · exact ⟨rfl, rfl⟩
        · exact GatewayOp.idle_of_quiet (reads.quiet event member)
    have left := transacts.of_prepare
    rw [journal_of_plain plain gated] at left
    have rest : Strands action before.journal after.journal later outcome := by
      cases prepared with
      | error error =>
        obtain ⟨rfl, rfl, rfl⟩ := onward
        refine .kept (not_began (by simp)) (.inr ?_)
        exact left.imp (fun same => by rw [same]) And.right
      | ok record => exact executePrepared_strands left onward
    simpa using rest.preceded idle

end Strands

/-! ## Every call -/

/-- Where every lookup is answered by the registry, a call of `execute` that raises without having
dispatched leaves its record absent, prepared or as it was exactly when the registry has a connector
that can mutate for the source, or the call did not write that the plan is executing. -/
theorem unstranded_iff [Stdlib] {key : IntegrityKey} {gateway : Nat} {activity : Activity}
    {before after : Shared} {action : SourceActionPlan} {preview : ActionPreview}
    {identity : RequestIdentity} {approval : Option ActionApproval} {registry : ActionRegistry}
    (called : activity.call = .execute action preview identity approval)
    (performed : activity.Performed key .durable gateway before after)
    (registered : activity.Registered registry) :
    ((∃ error, activity.outcome = .error error) → ¬ activity.Dispatches →
        Unstranded action.binding before.journal after.journal) ↔
      (∃ handle, registry.get action.sourceId .mutate = .ok handle) ∨
        ¬ Began action activity.events := by
  obtain ⟨call, events, outcome⟩ := activity
  obtain rfl : call = _ := called
  obtain ⟨inner, ran, rfl⟩ := Runs.of_map performed
  cases execute_strands ran with
  | kept unbegun ends =>
    refine iff_of_true (fun _ undispatched => ?_) (.inr unbegun)
    exact ends.resolve_left undispatched
  | dispatched looked dispatches =>
    exact iff_of_true (fun _ undispatched => absurd dispatches undispatched)
      (.inl ⟨_, (registered _ _ looked).symm⟩)
  | stranded began looked raised undispatched locked =>
    have lookup := registered _ _ looked
    apply iff_of_false
    · intro unstranded
      refine locked (unstranded ⟨_, by rw [raised]; rfl⟩ ?_)
      rintro ⟨event, member, sends⟩
      rw [undispatched event member] at sends
      cases sends
    · rintro (⟨handle, found⟩ | unbegun)
      · rw [← lookup] at found
        cases found
      · exact unbegun began

/-! ## Small calls -/

/-- A registry without connectors. -/
def ActionRegistry.none : ActionRegistry := ⟨⟨[], by simp⟩⟩

/-- A registry with one connector, which can mutate. -/
def ActionRegistry.erp : ActionRegistry := ⟨⟨[("erp", ⟨[.mutate], true, true⟩)], by simp⟩⟩

section Small

variable [Stdlib] (registry : ActionRegistry) (allowed : Bool)

/-- The first execution of a plan, with a registry and a policy. -/
def firstExecution : Activity × Shared × Unit :=
  (Surroundings.fixed (registry.world allowed)).perform .small 0 .durable
    (.execute shared shared.smallPreview .small .none) (.initial, ())

/-- It is that call. -/
theorem firstExecution_call : (firstExecution registry allowed).1.call =
    .execute shared shared.smallPreview .small .none := rfl

/-- It is a call of the durable gateway. -/
theorem firstExecution_performed : (firstExecution registry allowed).1.Performed .small .durable 0
    .initial (firstExecution registry allowed).2.1 :=
  (Surroundings.fixed (registry.world allowed)).perform_performed .small 0 .durable _ (.initial, ())

/-- Its lookups are answered by the registry. -/
theorem firstExecution_registered : (firstExecution registry allowed).1.Registered registry := by
  intro sourceId reply member
  obtain ⟨state, op, same⟩ := Program.mem_evaluate member
  obtain ⟨rfl, replies⟩ := Sigma.mk.inj same
  exact eq_of_heq replies

variable {registry allowed}

/-- It raised. -/
theorem firstExecution_raised
    (failed : (firstExecution registry allowed).1.outcome.toBool = false) :
    ∃ error, (firstExecution registry allowed).1.outcome = .error error := by
  cases shown : (firstExecution registry allowed).1.outcome with
  | error error => exact ⟨error, rfl⟩
  | ok returned => rw [shown] at failed; cases failed

/-- It did not call the source. -/
theorem firstExecution_undispatched
    (idle : ((firstExecution registry allowed).1.events.any fun event => event.1.dispatches) =
      false) : ¬ (firstExecution registry allowed).1.Dispatches := by
  rintro ⟨event, member, sends⟩
  exact List.any_eq_false.mp idle event member sends

end Small

/-- A call that the policy denies leaves no record. -/
theorem unstranded_denied : letI := Stdlib.transparent
    ∃ (activity : Activity) (after : Shared),
      activity.call = .execute shared shared.smallPreview .small .none ∧
      activity.Performed .small .durable 0 .initial after ∧ activity.Registered .erp ∧
        (∃ error, activity.outcome = .error error) ∧ ¬ activity.Dispatches ∧
          Unstranded shared.binding Shared.initial.journal after.journal := by
  let := Stdlib.transparent
  have raised := @firstExecution_raised _ .erp false (by decide +kernel)
  have undispatched := @firstExecution_undispatched _ .erp false (by decide +kernel)
  have called := firstExecution_call .erp false
  have performed := firstExecution_performed .erp false
  have registered := firstExecution_registered .erp false
  have found : ActionRegistry.erp.get "erp" .mutate = .ok ⟨true, true⟩ := rfl
  exact ⟨_, _, called, performed, registered, raised, undispatched,
    (unstranded_iff called performed registered).mpr (.inl ⟨_, found⟩) raised undispatched⟩

/-- A source without a connector: the first execution of a plan raises without having dispatched,
and leaves the record executing. -/
theorem stranded_unregistered : letI := Stdlib.transparent
    ∃ (activity : Activity) (after : Shared),
      activity.call = .execute shared shared.smallPreview .small .none ∧
      activity.Performed .small .durable 0 .initial after ∧ activity.Registered .none ∧
        (∃ error, activity.outcome = .error error) ∧ ¬ activity.Dispatches ∧
          ¬ Unstranded shared.binding Shared.initial.journal after.journal := by
  let := Stdlib.transparent
  have raised := @firstExecution_raised _ .none true (by decide +kernel)
  have undispatched := @firstExecution_undispatched _ .none true (by decide +kernel)
  have left : ((firstExecution .none true).2.1.journal.records.find? shared.binding).map
      RecordRow.state = some DurableActionState.executing.value := by
    decide +kernel
  refine ⟨_, _, firstExecution_call .none true, firstExecution_performed .none true,
    firstExecution_registered .none true, raised, undispatched, ?_⟩
  obtain ⟨row, present, executing⟩ := Option.map_eq_some_iff.mp left
  rintro (same | prepared)
  · rw [present] at same
    cases same
  · rw [prepared row present] at executing
    exact absurd executing (by decide)

end DataHarness
