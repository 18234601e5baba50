import DataHarness.Gateway.Dispatch

/-!
# One event loop at a time

Durable gateways on one event loop, crashed and restarted at any step. Between the read of a
record in `prepare` and the `begin` that follows, `execute` awaits nothing, so `begin` meets
the record `prepare` returned (`readProtocol`): never an executed one. A binding that was
dispatched and has no outcome is open, and `pending` lists it.
-/

namespace DataHarness

open Effect Program Transition

/-! ## What the running task has read -/

/-- The record a task read last, until it awaits or writes; a task begins a plan only after it
read the plan's record, and not when that record proves an execution. -/
def readProtocol : Protocol gatewaySignature (Option (Binding × DurableActionRecord)) where
  may seen op :=
    match op with
    | .journal (.begin action _) => ∃ found, seen = some (action.binding, found) ∧
        ¬ (found.state = .executed ∧ found.receipt.isSome = true)
    | _ => True
  can _ _ := True
  next seen op reply :=
    match op, reply with
    | .evaluate _, _ => none
    | .emit _, _ => none
    | .await _, _ => none
    | .journal tx, .ok (some found) => some (tx.action.binding, found)
    | .journal _, _ => none
    | .get binding, .ok (some found) => some (binding, found)
    | .get _, _ => none
    | _, _ => seen

/-- Calls other than `begin` are always permitted. -/
theorem read_may {op : GatewayOp} (still : op.begins = false)
    (seen : Option (Binding × DurableActionRecord)) : readProtocol.may seen op := by
  cases op with
  | journal tx =>
    cases tx with
    | «begin» => cases still
    | _ => trivial
  | _ => trivial

/-- The journal still has the record that was read. -/
def Journal.Has [Stdlib] (journal : Journal) (seen : Option (Binding × DurableActionRecord)) : Prop :=
  ∀ binding found, seen = some (binding, found) → journal.get binding = .ok (some found)

section Reads

open ActionGateway DurableActionGateway

/-- Programs that begin nothing follow the protocol from anywhere. -/
theorem reading_follows {α : Type} {program : GatewayProgram α}
    (makes : program.Makes fun op : GatewayOp => op.begins = false)
    (seen : Option (Binding × DurableActionRecord)) :
    program.Follows readProtocol seen fun _ _ => True :=
  makes.follows_any (fun _ still => read_may still) seen

/-- What is quiet begins nothing. -/
theorem quiet_unbegun (op : GatewayOp) (quiet : op.Quiet) : op.begins = false := by
  cases op with
  | journal tx => cases quiet.2
  | _ => rfl

/-- What is plain begins nothing. -/
theorem plain_unbegun : ∀ op : GatewayOp, op.plain = true → op.begins = false :=
  plain_of_quiet quiet_unbegun

/-- Recording an outcome begins nothing. -/
theorem closing_unbegun {tx : JournalTx} (closing : (Journal.outcome? tx).isSome = true) :
    (GatewayOp.journal tx).begins = false := by
  cases tx with
  | «begin» => cases closing
  | _ => rfl

/-- A write transaction ends with the record it has read last. -/
theorem transaction_reads (tx : JournalTx) (seen : Option (Binding × DurableActionRecord))
    (permitted : readProtocol.may seen (.journal tx)) :
    (transaction tx).Follows readProtocol seen fun outcome final =>
      ∀ found, outcome = .ok found → final = some (tx.action.binding, found) := by
  refine ⟨permitted, fun reply _ => ?_⟩
  cases reply with
  | error error => exact fun found same => nomatch same
  | ok returned =>
    cases returned with
    | some record =>
      rintro found ⟨⟩
      rfl
    | none =>
      refine ⟨trivial, fun updated _ => ?_⟩
      cases updated with
      | error error => exact fun found same => nomatch same
      | ok returned =>
        cases returned with
        | none => exact fun found same => nomatch same
        | some record =>
          rintro found ⟨⟩
          rfl

variable [Stdlib]

/-- `execute` begins only what it read as not executed. -/
theorem execute_reads (action : SourceActionPlan) (preview : ActionPreview)
    (identity : RequestIdentity) (approval : Option ActionApproval)
    (seen : Option (Binding × DurableActionRecord)) :
    (DurableActionGateway.execute action preview identity approval).Follows readProtocol seen
      fun _ _ => True := by
  refine (reading_follows (passGates_makes plain_unbegun ..) seen).bind_any ?_
  rintro ⟨started, decision⟩ seen
  simp only [DurableActionGateway.executeChecked]
  refine Follows.bind (transaction_reads (.prepare action decision.decisionId started) seen
    trivial) ?_ (by simp)
  intro record seen read
  obtain rfl := read record rfl
  simp only [executePrepared]
  split
  · exact reading_follows (replay_makes plain_unbegun ..) _
  · rename_i unproven
    have permitted : readProtocol.may (some (action.binding, record))
        (.journal (.begin action started)) := by
      refine ⟨record, rfl, fun both => ?_⟩
      obtain ⟨receipt, proven⟩ := Option.isSome_iff_exists.mp both.2
      exact unproven receipt both.1 proven
    refine Follows.bind (transaction_reads _ _ permitted) ?_ (by simp)
    intro found seen _
    exact reading_follows (dispatch_makes quiet_unbegun
      (fun _ _ _ closing => closing_unbegun closing) rfl identity decision started) seen

/-- Every call of a durable gateway follows the protocol. -/
theorem program_reads (call : GatewayCall) :
    (call.program .durable).Follows readProtocol none fun _ _ => True := by
  cases call with
  | preview action identity ttl =>
    exact reading_follows (Makes.bind (preview_makes plain_unbegun ..) fun _ => makes_ret _) none
  | execute action preview identity approval =>
    exact (execute_reads action preview identity approval none).bind_any fun _ _ => trivial
  | compensate original receipt identity approval =>
    refine Follows.bind_any ?_ fun _ _ => trivial
    simp only [GatewayKind.compensate]
    split
    · trivial
    · refine (reading_follows
        (previewCompensation_makes plain_unbegun ..) none).bind_any fun shown seen => ?_
      refine (execute_reads _ shown identity none seen).bind_any fun compensated seen => ?_
      exact reading_follows (recordCompensation_makes plain_unbegun ..) seen
  | reconcile action identity =>
    exact reading_follows (Makes.bind (reconcile_makes quiet_unbegun
      (fun _ _ _ closing => closing_unbegun closing) identity) fun _ => makes_ret _) none

/-- A call leaves what its task has read in the journal, or makes it forget. -/
theorem perform_reads (key : IntegrityKey) (gateway : Nat) (world : World gatewaySignature)
    (shared : Shared) (op : GatewayOp) (seen : Option (Binding × DurableActionRecord))
    (known : op.suspends = true ∨ shared.journal.Has seen) :
    (perform key gateway world shared op).2.journal.Has
      (readProtocol.next seen op (perform key gateway world shared op).1) := by
  rw [perform_journal]
  cases op with
  | evaluate | emit | await => exact fun _ _ same => nomatch same
  | journal tx =>
    change (shared.journal.commit key tx).Has
      (readProtocol.next seen (.journal tx) (shared.journal.reply key tx))
    cases replied : shared.journal.reply key tx with
    | error error => exact fun _ _ same => nomatch same
    | ok returned =>
      cases returned with
      | none => exact fun _ _ same => nomatch same
      | some record =>
        obtain ⟨kept, read⟩ := Journal.get_of_reply replied
        rw [kept]
        rintro _ _ ⟨⟩
        exact read
  | get binding =>
    change shared.journal.Has (readProtocol.next seen (.get binding) (shared.journal.get binding))
    cases replied : shared.journal.get binding with
    | error error => exact fun _ _ same => nomatch same
    | ok returned =>
      cases returned with
      | none => exact fun _ _ same => nomatch same
      | some record =>
        rintro _ _ ⟨⟩
        exact replied
  | _ => exact known.resolve_left (by simp [GatewayOp.suspends])

variable {key : IntegrityKey} {labels : List (Label gatewaySignature Owner)}
  {label : Label gatewaySignature Owner}
  {loop after : Loop gatewaySignature ActionError Returned Owner Shared}

/-- A record read without a proof of execution has not been executed. -/
theorem unexecuted_of_read {journal : Journal} (shaped : journal.Shaped) {binding : Binding}
    {found : DurableActionRecord} (read : journal.get binding = .ok (some found))
    (unproven : ¬ (found.state = .executed ∧ found.receipt.isSome = true)) :
    journal.executed? binding = false := by
  obtain ⟨row, present, decoded⟩ := Journal.row_of_get read
  obtain ⟨state, receipt, shape⟩ := shaped row (Table.mem_of_find? present)
  obtain ⟨again, reread, same, stored⟩ := shape.read
  obtain rfl := Except.ok.inj (reread.symm.trans decoded)
  simp only [Journal.executed?, present, Option.any_some, beq_eq_false_iff_ne, shape.state]
  intro executed
  obtain rfl := DurableActionState.value_injective executed
  refine unproven ⟨same, ?_⟩
  rw [stored, Option.isSome_map]
  exact shape.proven.mpr (.inl rfl)

/-- On one event loop no `begin` finds an executed record. -/
theorem loop_unexecuted
    (run : (Loop.system (gateways key fun _ => .durable) GatewayOp.suspends).Run
      ⟨⟨.initial, []⟩, none⟩ labels loop)
    (step : Loop.Step (gateways key fun _ => .durable) GatewayOp.suspends loop label after) :
    beginsUnexecuted loop.pool label = true := by
  obtain ⟨tracks, knows⟩ := Loop.run_knows (fun shared seen => shared.journal.Has seen)
    (fun owner => program_reads owner.call) (fun _ _ => trivial) (fun _ _ _ _ same => nomatch same)
    (fun owner world shared op seen known =>
      perform_reads key owner.gateway world shared op seen known) run
  have shaped : loop.pool.shared.journal.Shaped := by
    rw [run_journal (Loop.run_pool run)]
    exact replay_shaped key _
  cases step with
  | perform index owner op next world ready turn =>
    cases op with
    | journal tx =>
      cases tx with
      | «begin» action now =>
        have running := turn.resolve_right (by simp [GatewayOp.suspends])
        obtain ⟨seen, here, record, rfl, unproven⟩ := tracks.permitted ready
        have read := knows index _ running here action.binding record rfl
        simp [beginsUnexecuted, transaction?, unexecuted_of_read shaped read unproven]
      | _ => rfl
    | _ => rfl
  | _ => rfl

/-- A run on one event loop is a run whose `begin`s find no executed record. -/
theorem loop_within
    (run : (Loop.system (gateways key fun _ => .durable) GatewayOp.suspends).Run
      ⟨⟨.initial, []⟩, none⟩ labels loop) :
    ((gateways key fun _ => .durable).within beginsUnexecuted).Run ⟨.initial, []⟩ labels
      loop.pool :=
  Loop.run_restrict run fun _ _ _ _ before step => loop_unexecuted before step

end Reads

/-! ## Keys without an outcome -/

/-- The key whose execution or failure a step committed. -/
def settled? : Label gatewaySignature Owner → Option Binding
  | .perform _ _ (.journal (.complete action _ _)) (.ok _) => some action.binding
  | .perform _ _ (.journal (.fail action _ _)) (.ok _) => some action.binding
  | _ => none

/-- An execution or failure was committed for a key. -/
def Settled (labels : List (Label gatewaySignature Owner)) (binding : Binding) : Prop :=
  ∃ label ∈ labels, settled? label = some binding

section Open

variable [Stdlib] {key : IntegrityKey} {kinds : Nat → GatewayKind}
  {labels : List (Label gatewaySignature Owner)} {label : Label gatewaySignature Owner}
  {pool after : Pool gatewaySignature ActionError Returned Owner Shared}

/-- Every record that is executed or failed belongs to a settled key. -/
def OutcomesSettled (labels : List (Label gatewaySignature Owner)) (journal : Journal) : Prop :=
  ∀ binding row, journal.records.find? binding = some row →
    row.state = DurableActionState.executed.value ∨ row.state = DurableActionState.failed.value →
      Settled labels binding

/-- A record written as executed or failed was written by a settling transaction. -/
theorem Rewritten.settles {journal : Journal} {tx : JournalTx} {written : RecordRow}
    (rewritten : Rewritten journal tx written)
    (outcome : written.state = DurableActionState.executed.value ∨
      written.state = DurableActionState.failed.value) (index : Nat) (owner : Owner) :
    settled? (.perform index owner (.journal tx) (.ok none)) = some tx.action.binding := by
  cases rewritten with
  | prepared => simp [Journal.preparedRow, DurableActionState.value] at outcome
  | begun => simp [Journal.setExecuting, DurableActionState.value] at outcome
  | finished _ closed _ _ closing =>
    cases tx with
    | prepare | «begin» => cases closing
    | complete | fail => rfl
    | requireReconciliation =>
      obtain rfl := Option.some.inj closing
      simp [Journal.setFinished, DurableActionState.value] at outcome

/-- Every step keeps outcomes settled. -/
theorem OutcomesSettled.step (settled : OutcomesSettled labels pool.shared.journal)
    (step : (gateways key kinds).Step pool label after) :
    OutcomesSettled (labels ++ [label]) after.shared.journal := by
  have kept : ∀ last, OutcomesSettled (labels ++ [last]) pool.shared.journal := by
    intro last binding row present outcome
    obtain ⟨settling, member, same⟩ := settled binding row present outcome
    exact ⟨settling, by simp [member], same⟩
  cases step with
  | perform index owner op next world ready =>
    change OutcomesSettled _ (perform key owner.gateway world pool.shared op).2.journal
    rw [perform_journal]
    cases op with
    | journal tx =>
      change OutcomesSettled
        (labels ++ [.perform index owner (.journal tx) (pool.shared.journal.reply key tx)])
        (pool.shared.journal.commit key tx)
      cases replied : pool.shared.journal.reply key tx with
      | error error =>
        rw [Journal.commit_of_raise replied]
        exact kept _
      | ok returned =>
        cases returned with
        | some record =>
          rw [(Journal.get_of_reply replied).1]
          exact kept _
        | none =>
          obtain ⟨event, written, write⟩ := (Journal.wrote_of_reply replied).write
          intro binding row present outcome
          rw [write.find?] at present
          split at present
          · rename_i here
            obtain rfl := Option.some.inj present
            exact ⟨_, by simp, here ▸ write.change.settles outcome index owner⟩
          · exact kept _ binding row present outcome
    | _ => exact kept _
  | _ => exact kept _

/-- After every run, every executed or failed record belongs to a settled key. -/
theorem run_settled (run : (gateways key kinds).system.Run ⟨.initial, []⟩ labels pool) :
    OutcomesSettled labels pool.shared.journal := by
  induction run with
  | nil => exact fun _ _ present => nomatch present
  | snoc _ step ih => exact ih.step step

/-- In every run whose `begin`s find no executed record, a key that was dispatched and is not
settled is pending. -/
theorem pending_of_dispatched
    (run : ((gateways key fun _ => .durable).within beginsUnexecuted).Run ⟨.initial, []⟩ labels
      pool) {binding : Binding} (sent : 0 < dispatches labels binding)
    (unsettled : ¬ Settled labels binding) :
    ∃ records, pool.shared.journal.pending = .ok records ∧
      ∃ found ∈ records, found.binding = binding := by
  have shaped : pool.shared.journal.Shaped := by
    rw [run_journal run.unrestrict]
    exact replay_shaped key _
  have started : ¬ pool.shared.journal.Unstarted binding := by
    intro fresh
    have none := (run_dispatch run).unstarted binding fresh
    omega
  simp only [Journal.Unstarted, not_forall] at started
  obtain ⟨row, present, begun⟩ := started
  have closed := mt (run_settled run.unrestrict binding row present) unsettled
  obtain ⟨state, receipt, shape⟩ := shaped row (Table.mem_of_find? present)
  have selected : Journal.open? row = true := by
    simp only [shape.state, not_or] at begun closed
    simp only [Journal.open?, shape.state]
    cases state <;> simp_all [DurableActionState.value]
  obtain ⟨records, listed, found⟩ := shaped.pending
  obtain ⟨record, member, read⟩ := found row (Table.mem_of_find? present) selected
  have reads := reads_of_record read
  have keyed : row.binding = binding := Table.key_of_find? present
  refine ⟨records, listed, record, member, ?_⟩
  rw [DurableActionRecord.binding, reads.sourceId, reads.idempotencyKey]
  exact keyed

/-- On one event loop, crashed and restarted at any step, every key is dispatched at most once,
and one that was dispatched without a committed outcome is pending and never dispatched
again. -/
theorem crash_safe
    {loop : Loop gatewaySignature ActionError Returned Owner Shared}
    (run : (Loop.system (gateways key fun _ => .durable) GatewayOp.suspends).Run
      ⟨⟨.initial, []⟩, none⟩ labels loop) (binding : Binding) :
    dispatches labels binding ≤ 1 ∧
      (0 < dispatches labels binding → ¬ Settled labels binding →
        (∃ records, loop.pool.shared.journal.pending = .ok records ∧
          ∃ found ∈ records, found.binding = binding) ∧
        ∀ more last, (Loop.system (gateways key fun _ => .durable) GatewayOp.suspends).Run
          loop more last → dispatches more binding = 0) := by
  have once : ∀ labels loop, (Loop.system (gateways key fun _ => .durable)
      GatewayOp.suspends).Run ⟨⟨.initial, []⟩, none⟩ labels loop →
        dispatches labels binding ≤ 1 := by
    intro labels loop run
    have counted := (run_dispatch (loop_within run)).once binding
    omega
  refine ⟨once labels loop run, fun sent unsettled => ⟨?_, fun more last later => ?_⟩⟩
  · exact pending_of_dispatched (loop_within run) sent unsettled
  · have total := once (labels ++ more) last (run.append later)
    have sum : dispatches (labels ++ more) binding =
        dispatches labels binding + dispatches more binding := List.countP_append
    omega

end Open

/-! ## A crash in flight -/

/-- An execution crashes while its `mutate` runs, and the plan is executed again after the
restart. -/
def crashedInFlight [Stdlib] : List (Machine.Choice gatewaySignature Owner) :=
  .spawn (smallExecution 0 shared) :: calls 0 9 (obliging (.ok successful)) ++
    .crash :: .spawn (smallExecution 1 shared) :: calls 1 5 (obliging (.ok successful))

/-- The key that was in flight when the gateway crashed is pending, and not dispatched again. -/
theorem crash_safe_in_flight : letI := Stdlib.transparent
    ∃ labels loop, (Loop.system durableGateways GatewayOp.suspends).Run ⟨⟨.initial, []⟩, none⟩
      labels loop ∧ dispatches labels shared.binding = 1 ∧
        ∃ records, loop.pool.shared.journal.pending = .ok records ∧
          ∃ found ∈ records, found.binding = shared.binding := by
  let := Stdlib.transparent
  have passed : (Loop.play durableGateways GatewayOp.suspends ⟨⟨.initial, []⟩, none⟩
      crashedInFlight).any (fun last => decide (dispatches last.1 shared.binding = 1) &&
        last.1.all fun label => (settled? label).isNone) = true := by
    decide +kernel
  obtain ⟨⟨labels, loop⟩, ran, seen⟩ := (Option.any_eq_true _ _).mp passed
  simp only [Bool.and_eq_true, decide_eq_true_eq, List.all_eq_true, Option.isNone_iff_eq_none] at seen
  have run := Loop.play_run ran
  have unsettled : ¬ Settled labels shared.binding := by
    rintro ⟨label, member, settling⟩
    exact nomatch (seen.2 label member).symm.trans settling
  have safe := crash_safe run shared.binding
  exact ⟨labels, loop, run, seen.1, (safe.2 (by omega) unsettled).1⟩

end DataHarness
