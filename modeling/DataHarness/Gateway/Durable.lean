import DataHarness.Gateway.Sequence

/-!
# Runs of the durable gateway

A run of `DurableActionGateway` taken apart, piece by piece: what each piece leaves of the journal,
and how it can end. Calls that are no write transaction leave the journal alone; a write method
commits at most once (`Transacts`).
-/

namespace DataHarness

open Effect Program ActionGateway

variable [Stdlib]

/-! ## The pieces -/

/-- How a write method of the journal ends: it raised and was rolled back, it found a record and
wrote nothing, or it wrote and could read its record back or not. -/
inductive Transacts (key : IntegrityKey) (tx : JournalTx) (before : Journal) :
    Except ActionError DurableActionRecord → Journal → Prop
  | raised {error : ActionError} :
    before.reply key tx = .error error → Transacts key tx before (.error error) before
  | found {record : DurableActionRecord} :
    before.reply key tx = .ok (some record) → Transacts key tx before (.ok record) before
  | wrote {record : DurableActionRecord} : before.reply key tx = .ok none →
    (before.commit key tx).get tx.action.binding = .ok (some record) →
      Transacts key tx before (.ok record) (before.commit key tx)
  | unread {error : ActionError} : before.reply key tx = .ok none →
    (∀ record, (before.commit key tx).get tx.action.binding ≠ .ok (some record)) →
      Transacts key tx before (.error error) (before.commit key tx)

/-- Reads of the journal. -/
def JournalReads (events : List gatewaySignature.Event) : Prop :=
  ∀ event ∈ events, ∃ binding, event.1 = .get binding

omit [Stdlib] in
/-- Reads are quiet. -/
theorem JournalReads.quiet {events : List gatewaySignature.Event} (reads : JournalReads events) :
    ∀ event ∈ events, event.1.Quiet := by
  intro event member
  obtain ⟨binding, same⟩ := reads event member
  rw [same]
  exact ⟨rfl, rfl⟩

section Transacting

variable {key : IntegrityKey} {tx : JournalTx} {start final : Journal}
  {outcome : Except ActionError DurableActionRecord}

/-- A transaction that raises is rolled back. -/
theorem Transacts.of_raise {error : ActionError} (transacts : Transacts key tx start outcome final)
    (replied : start.reply key tx = .error error) : outcome = .error error ∧ final = start := by
  cases transacts with
  | raised raised =>
    rw [replied] at raised
    cases raised
    exact ⟨rfl, rfl⟩
  | found other => cases replied.symm.trans other
  | wrote other => cases replied.symm.trans other
  | unread other => cases replied.symm.trans other

/-- A transaction that finds a record writes nothing. -/
theorem Transacts.of_found {record : DurableActionRecord}
    (transacts : Transacts key tx start outcome final)
    (replied : start.reply key tx = .ok (some record)) : outcome = .ok record ∧ final = start := by
  cases transacts with
  | raised other => cases replied.symm.trans other
  | found found =>
    rw [replied] at found
    cases found
    exact ⟨rfl, rfl⟩
  | wrote other => cases replied.symm.trans other
  | unread other => cases replied.symm.trans other

/-- Recording an outcome for a plan whose record is there writes it, and the record is read back
with the outcome; the other records stay. -/
theorem written_of_closing {closed : Journal.Outcome} (closing : Journal.outcome? tx = some closed)
    {row : RecordRow} {found : DurableActionRecord}
    (present : start.records.find? tx.action.binding = some row) (read : record row = .ok found)
    (own : tx.action.digested = .ok row.actionDigest) :
    start.reply key tx = .ok none ∧
      (∃ changed again, (start.commit key tx).records.find? tx.action.binding = some changed ∧
        record changed = .ok again ∧ tx.action.digested = .ok again.actionDigest ∧
          again.state = closed.state ∧
            again.receipt = closed.receipt.map SourceMutationReceipt.stored) ∧
        ∀ other ≠ tx.action.binding,
          (start.commit key tx).records.find? other = start.records.find? other := by
  have ran : start.transact key tx = .ok (none, start.writeFinished key tx.action closed.state
      closed.receipt closed.sourceVersion closed.now closed.reason) := by
    rw [Journal.transact_closing closing]
    simp [Journal.finish, present, SourceActionPlan.checkDigest_eq_ok.mpr own]
  have written : start.commit key tx = start.writeFinished key tx.action closed.state
      closed.receipt closed.sourceVersion closed.now closed.reason := by
    rw [Journal.commit, ran]
  have rows := start.find?_writeFinished key tx.action closed.now closed.state closed.receipt
    closed.sourceVersion closed.reason
  rw [← written] at rows
  refine ⟨?_, ?_, ?_⟩
  · rw [Journal.reply, ran]
    rfl
  · have updated := rows tx.action.binding
    dsimp only at updated
    rw [if_pos rfl, present, Option.map_some] at updated
    obtain ⟨again, reread, state, receipt, -⟩ := @record_of_rewritten _ row
      (Journal.setFinished closed.state closed.receipt closed.sourceVersion closed.now _ row) found
      read closed.state _ closed.now rfl rfl rfl (readReceiptColumn_holds closed.receipt)
    exact ⟨_, again, updated, reread, by rw [own, (reads_of_record reread).actionDigest]; rfl,
      state, receipt⟩
  · intro other differs
    exact (rows other).trans (if_neg differs)

/-- A write method that records an outcome returns the record it wrote. -/
theorem Transacts.of_closing {closed : Journal.Outcome}
    (transacts : Transacts key tx start outcome final)
    (closing : Journal.outcome? tx = some closed) {row : RecordRow} {found : DurableActionRecord}
    (present : start.records.find? tx.action.binding = some row) (read : record row = .ok found)
    (own : tx.action.digested = .ok row.actionDigest) :
    ∃ again, outcome = .ok again ∧ final.get tx.action.binding = .ok (some again) ∧
      again.state = closed.state ∧
        again.receipt = closed.receipt.map SourceMutationReceipt.stored ∧
          ∀ other ≠ tx.action.binding,
            final.records.find? other = start.records.find? other := by
  obtain ⟨replied, ⟨changed, again, updated, reread, -, state, receipt⟩, others⟩ :=
    @written_of_closing _ key _ _ _ closing _ _ present read own
  have gets : (start.commit key tx).get tx.action.binding = .ok (some again) := by
    rw [Journal.get, updated]
    show (record changed).map some = _
    rw [reread]
    rfl
  cases transacts with
  | raised raised => cases replied.symm.trans raised
  | found nothing => cases replied.symm.trans nothing
  | wrote _ got =>
    rw [gets] at got
    cases got
    exact ⟨again, rfl, gets, state, receipt, others⟩
  | unread _ unreadable => exact absurd gets (unreadable again)

end Transacting

section Pieces

variable {key : IntegrityKey} {kinds : Nat → GatewayKind} {owner : Owner} {before after : Shared}
  {events : List gatewaySignature.Event} {α : Type}

/-- A run that starts with a call goes on from the state that the call leaves. -/
theorem ask_runs {op : GatewayOp} {rest : op.Reply → GatewayProgram α}
    {outcome : Except ActionError α}
    (ran : Runs ((gateways key kinds).alone owner) ((ask op).bind rest) before events outcome
      after) :
    ∃ world reply middle later, perform key owner.gateway world before op = (reply, middle) ∧
      events = ⟨op, reply⟩ :: later ∧
        Runs ((gateways key kinds).alone owner) (rest reply) middle later outcome after := by
  obtain ⟨event, reply, middle, later, rfl, ⟨rfl, world, performed⟩, onward⟩ :=
    Runs.of_perform ran
  exact ⟨world, reply, middle, later, performed, rfl, onward⟩

/-- A run without write transactions leaves the journal as it was. -/
theorem journal_of_unwriting {program : GatewayProgram α} {outcome : Except ActionError α}
    (makes : program.Makes fun op : GatewayOp => op.writes = false)
    (ran : Runs ((gateways key kinds).alone owner) program before events outcome after) :
    after.journal = before.journal := by
  induction ran with
  | ret => rfl
  | raise => rfl
  | @call op next state middle final event reply later outcome acts _ ih =>
    obtain ⟨-, world, performed⟩ := acts
    have same : perform key owner.gateway world state op = (reply, middle) := performed
    have kept := perform_journal key owner.gateway world state op
    rw [same] at kept
    rw [ih (makes.2 reply), kept]
    have still := makes.1
    cases op with
    | journal tx => cases still
    | _ => rfl

omit [Stdlib] in
/-- A plain call writes nothing. -/
theorem plain_unwriting (op : GatewayOp) (plain : op.plain = true) : op.writes = false :=
  (GatewayOp.quiet_of_plain plain).2

/-- A run of plain calls leaves the journal as it was. -/
theorem journal_of_plain {program : GatewayProgram α} {outcome : Except ActionError α}
    (makes : program.Makes fun op : GatewayOp => op.plain = true)
    (ran : Runs ((gateways key kinds).alone owner) program before events outcome after) :
    after.journal = before.journal :=
  journal_of_unwriting (makes.mono plain_unwriting) ran

/-- The calls a program may make are the calls of its runs. -/
theorem events_of_makes {program : GatewayProgram α} {outcome : Except ActionError α}
    {allowed : GatewayOp → Prop} (makes : program.Makes allowed)
    (ran : Runs ((gateways key kinds).alone owner) program before events outcome after) :
    ∀ event ∈ events, allowed event.1 :=
  makes.trace ran.trace

/-- A write method of the journal. -/
theorem transaction_runs {tx : JournalTx} {outcome : Except ActionError DurableActionRecord}
    (ran : Runs ((gateways key kinds).alone owner) (DurableActionGateway.transaction tx) before
      events outcome after) :
    Transacts key tx before.journal outcome after.journal ∧
      ∃ reading, events = ⟨.journal tx, before.journal.reply key tx⟩ :: reading ∧
        JournalReads reading := by
  obtain ⟨world, reply, middle, later, performed, rfl, ran⟩ := ask_runs ran
  obtain ⟨rfl, rfl⟩ := Prod.mk.inj performed
  cases replied : before.journal.reply key tx with
  | error error =>
    rw [replied] at ran
    cases ran
    rw [Journal.commit_of_raise replied]
    exact ⟨.raised replied, [], rfl, fun _ none => nomatch none⟩
  | ok returned =>
    rw [replied] at ran
    cases returned with
    | some record =>
      cases ran
      rw [(Journal.get_of_reply replied).1]
      exact ⟨.found replied, [], rfl, fun _ none => nomatch none⟩
    | none =>
      obtain ⟨world, reply, middle, later, performed, rfl, ran⟩ := ask_runs ran
      obtain ⟨rfl, rfl⟩ := Prod.mk.inj performed
      have reads : ∀ found : Except ActionError (Option DurableActionRecord),
          JournalReads [(⟨.get tx.action.binding, found⟩ : gatewaySignature.Event)] := by
        intro found event member
        rw [List.mem_singleton.mp member]
        exact ⟨_, rfl⟩
      cases read : (before.journal.commit key tx).get tx.action.binding with
      | error error =>
        rw [read] at ran
        cases ran
        exact ⟨.unread replied (by simp [read]), _, rfl, reads _⟩
      | ok updated =>
        rw [read] at ran
        cases updated with
        | some record =>
          cases ran
          exact ⟨.wrote replied read, _, rfl, reads _⟩
        | none =>
          cases ran
          exact ⟨.unread replied (by simp [read]), _, rfl, reads _⟩

/-! ## The dispatch -/

section Dispatch

variable {action : SourceActionPlan} {identity : RequestIdentity} {decision : PolicyDecision}
  {started : DateTime} {outcome : Except ActionError StoredReceipt}

/-- The dispatch ends with a lookup of the connector that fails, or calls `connector.mutate`. -/
theorem dispatch_runs
    (ran : Runs ((gateways key kinds).alone owner)
      (DurableActionGateway.dispatch action identity decision started) before events outcome
      after) :
    ∃ (reply : Except ActionError ConnectorHandle) (later : List gatewaySignature.Event),
      events = ⟨.connector action.sourceId, reply⟩ :: later ∧
        ((∃ error, reply = .error error ∧ outcome = .error error ∧ later = [] ∧
          after.journal = before.journal) ∨
        ∃ handle, reply = .ok handle ∧ ∃ event ∈ later, event.1.dispatches = true) := by
  obtain ⟨world, reply, middle, later, performed, rfl, onward⟩ := ask_runs ran
  refine ⟨reply, later, rfl, ?_⟩
  have same : reply = world (.connector action.sourceId) ∧ middle = before :=
    ⟨(Prod.mk.inj performed).1.symm, (Prod.mk.inj performed).2.symm⟩
  cases reply with
  | error error =>
    cases onward
    exact .inl ⟨error, rfl, rfl, rfl, congrArg Shared.journal same.2⟩
  | ok handle =>
    cases onward with
    | @call op next state middle final event reply rest outcome acts tail =>
      obtain ⟨rfl, -⟩ := acts
      exact .inr ⟨handle, rfl, _, List.mem_cons_self, rfl⟩

/-- `execute` after `prepare` replays the receipt it found, or begins: it raises there, or goes on
to the dispatch. -/
theorem executePrepared_runs {record : DurableActionRecord}
    (ran : Runs ((gateways key kinds).alone owner)
      (DurableActionGateway.executePrepared action identity decision started record) before events
      outcome after) :
    (∃ receipt, record.state = .executed ∧ record.receipt = some receipt ∧
      Runs ((gateways key kinds).alone owner) (replay action identity started receipt) before
        events outcome after) ∨
    ∃ middle begun reading later,
      events = ⟨.journal (.begin action started),
        before.journal.reply key (.begin action started)⟩ :: (reading ++ later) ∧
      JournalReads reading ∧
      Transacts key (.begin action started) before.journal begun middle.journal ∧
      match begun with
      | .error error => outcome = .error error ∧ later = [] ∧ after = middle
      | .ok _ => Runs ((gateways key kinds).alone owner)
          (DurableActionGateway.dispatch action identity decision started) middle later outcome
          after := by
  unfold DurableActionGateway.executePrepared at ran
  split at ran
  · rename_i receipt executed stored
    exact .inl ⟨receipt, executed, stored, ran⟩
  · rcases Runs.of_bind ran with ⟨error, first, rfl⟩ |
      ⟨found, earlier, later, middle, rfl, first, onward⟩
    · obtain ⟨transacts, reading, rfl, reads⟩ := transaction_runs first
      exact .inr ⟨after, .error error, reading, [], by simp, reads, transacts, rfl, rfl, rfl⟩
    · obtain ⟨transacts, reading, rfl, reads⟩ := transaction_runs first
      exact .inr ⟨middle, .ok found, reading, later, rfl, reads, transacts, onward⟩

/-- `execute` ends at a gate or at `prepare`, or goes on with the record `prepare` returned. -/
theorem execute_runs {preview : ActionPreview} {approval : Option ActionApproval}
    (ran : Runs ((gateways key kinds).alone owner)
      (DurableActionGateway.execute action preview identity approval) before events outcome
      after) :
    (∃ error, outcome = .error error ∧
      Runs ((gateways key kinds).alone owner) (passGates action preview identity approval) before
        events (.error error) after) ∨
    ∃ started decision passed prepared ready gating reading later,
      events = gating ++ ⟨.journal (.prepare action decision.decisionId started),
        passed.journal.reply key (.prepare action decision.decisionId started)⟩ ::
          (reading ++ later) ∧
      JournalReads reading ∧
      Runs ((gateways key kinds).alone owner) (passGates action preview identity approval) before
        gating (.ok (started, decision)) passed ∧
      Transacts key (.prepare action decision.decisionId started) passed.journal prepared
        ready.journal ∧
      match prepared with
      | .error error => outcome = .error error ∧ later = [] ∧ after = ready
      | .ok record => Runs ((gateways key kinds).alone owner)
          (DurableActionGateway.executePrepared action identity decision started record) ready later
          outcome after := by
  rcases Runs.of_bind ran with ⟨error, gated, rfl⟩ |
    ⟨⟨started, decision⟩, gating, rest, passed, rfl, gated, onward⟩
  · exact .inl ⟨error, rfl, gated⟩
  · rcases Runs.of_bind onward with ⟨error, first, rfl⟩ |
      ⟨record, preparing, later, ready, rfl, first, prepared⟩
    · obtain ⟨transacts, reading, rfl, reads⟩ := transaction_runs first
      exact .inr ⟨started, decision, passed, .error error, after, gating, reading, [], by simp,
        reads, gated, transacts, rfl, rfl, rfl⟩
    · obtain ⟨transacts, reading, rfl, reads⟩ := transaction_runs first
      exact .inr ⟨started, decision, passed, .ok record, ready, gating, reading, later, rfl, reads,
        gated, transacts, prepared⟩

end Dispatch

end Pieces

end DataHarness
