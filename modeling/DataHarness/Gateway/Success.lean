import DataHarness.Gateway.Dispatch

/-!
# A recorded success

`_finish` writes whatever the record has become since its caller read it, so an outcome that
arrives late replaces one already recorded. As long as no outcome is written over an executed
record, such a record stays as it is, because `prepare` and `begin` only read it
(`executed_step`).
-/

namespace DataHarness

open Effect

/-- The transaction does not write an outcome over an executed record. -/
def Journal.sparesExecuted (journal : Journal) (tx : JournalTx) : Bool :=
  (Journal.outcome? tx).isNone || !journal.executed? tx.action.binding

/-- The step does not write an outcome over an executed record. -/
def sparesExecuted (pool : Pool gatewaySignature ActionError Returned Owner Shared)
    (label : Label gatewaySignature Owner) : Bool :=
  (transaction? label).all pool.shared.journal.sparesExecuted

section Success

variable [Stdlib] {key : IntegrityKey} {kinds : Nat → GatewayKind}
  {labels : List (Label gatewaySignature Owner)} {label : Label gatewaySignature Owner}
  {pool after : Pool gatewaySignature ActionError Returned Owner Shared} {journal : Journal}
  {tx : JournalTx} {binding : Binding} {row : RecordRow}

/-- A transaction that spares executed records keeps each one. -/
theorem executed_commit (present : journal.records.find? binding = some row)
    (executed : row.state = DurableActionState.executed.value)
    (spares : journal.sparesExecuted tx = true) :
    (journal.commit key tx).records.find? binding = some row := by
  rcases Journal.commit_cases key journal tx with same | wrote
  · rw [same]
    exact present
  · obtain ⟨event, written, write⟩ := wrote.write
    rw [write.find?]
    split
    · rename_i here
      subst here
      cases write.change with
      | prepared _ _ _ _ missing => cases missing.symm.trans present
      | begun _ _ _ other found there read ready =>
        obtain rfl := Option.some.inj (there.symm.trans present)
        have prepared := (reads_of_record read).state
        rw [ready, executed] at prepared
        exact absurd (DurableActionState.value_injective prepared) (by simp)
      | finished _ _ _ _ closing =>
        simp [Journal.sparesExecuted, closing, Journal.executed?, present, executed] at spares
    · exact present

/-- A step that spares executed records keeps each one. -/
theorem executed_step (step : (gateways key kinds).Step pool label after)
    (spares : sparesExecuted pool label = true)
    (present : pool.shared.journal.records.find? binding = some row)
    (executed : row.state = DurableActionState.executed.value) :
    after.shared.journal.records.find? binding = some row := by
  rw [step_journal step]
  cases shown : transaction? label with
  | none => simpa [transactions, shown, Journal.replay] using present
  | some tx =>
    simp only [sparesExecuted, shown, Option.all_some] at spares
    simpa [transactions, shown, Journal.replay] using executed_commit present executed spares

/-- In a run that writes no outcome over an executed record, such a record keeps its state, its
receipt and every other column. -/
theorem success_kept
    (later : ((gateways key kinds).within sparesExecuted).Run pool labels after)
    (present : pool.shared.journal.records.find? binding = some row)
    (executed : row.state = DurableActionState.executed.value) :
    after.shared.journal.records.find? binding = some row := by
  induction later with
  | nil => exact present
  | snoc _ step ih => exact executed_step step.1 step.2 ih executed

end Success

/-! ## An answer that comes late -/

/-- The source's answer that an action was applied. -/
def applied : PyValue :=
  .mapping [(.str "applied", .bool true), (.str "postconditions_met", .bool true)] "applied"

/-- A call of `reconcile` on a gateway. -/
def smallReconciliation (gateway : Nat) (action : SourceActionPlan) : Owner :=
  ⟨gateway, .reconcile action .small⟩

/-- One gateway dispatches, and another one reconciles the key to its end. -/
def reconciledInFlight [Stdlib] : List (Machine.Choice gatewaySignature Owner) :=
  [.spawn (smallExecution 0 shared), .spawn (smallReconciliation 1 shared)] ++
    calls 0 9 (obliging (.ok successful)) ++ calls 1 11 (obliging (.ok applied))

/-- The binding has one record in a state, with or without a receipt. -/
def Journal.holds (journal : Journal) (binding : Binding) (state : DurableActionState)
    (receipt : Bool) : Bool :=
  (journal.records.find? binding).any fun row =>
    row.state == state.value && row.receipt.isSome == receipt

/-- A second reconciliation of a recorded success only reads it. -/
theorem success_kept_reconciled : letI := Stdlib.transparent
    ∃ labels pool later last row, durableGateways.system.Run ⟨.initial, []⟩ labels pool ∧
      (durableGateways.within sparesExecuted).Run pool later last ∧
        pool.tasks.length < last.tasks.length ∧
        pool.shared.journal.records.find? shared.binding = some row ∧ row.receipt.isSome = true ∧
          last.shared.journal.records.find? shared.binding = some row := by
  let := Stdlib.transparent
  obtain ⟨labels, pool, later, last, before, after, seen⟩ := played_on durableGateways
    sparesExecuted reconciledInFlight
    (.spawn (smallReconciliation 1 shared) :: calls 2 3 (obliging (.ok applied)))
    (fun pool last => pool.shared.journal.holds shared.binding .executed true &&
      decide (pool.tasks.length < last.tasks.length)) (by decide +kernel)
  simp only [Bool.and_eq_true, decide_eq_true_eq, Journal.holds, Option.any_eq_true,
    beq_iff_eq] at seen
  obtain ⟨⟨row, present, executed, proven⟩, grown⟩ := seen
  exact ⟨labels, pool, later, last, row, before, after, grown, present, proven,
    success_kept after present executed⟩

/-- A `mutate` that raises after `reconcile` has recorded a success takes back its state and
its receipt. -/
theorem success_lost : letI := Stdlib.transparent
    ∃ labels pool later last, durableGateways.system.Run ⟨.initial, []⟩ labels pool ∧
      durableGateways.system.Run pool later last ∧
        pool.shared.journal.holds shared.binding .executed true = true ∧
          last.shared.journal.holds shared.binding .reconciliationRequired false = true := by
  let := Stdlib.transparent
  obtain ⟨labels, pool, later, last, before, after, seen⟩ := played_on durableGateways
    (fun _ _ => true) reconciledInFlight (calls 0 3 (obliging (.error (.other "timeout"))))
    (fun pool last => pool.shared.journal.holds shared.binding .executed true &&
      last.shared.journal.holds shared.binding .reconciliationRequired false) (by decide +kernel)
  simp only [Bool.and_eq_true] at seen
  exact ⟨labels, pool, later, last, before, after.unrestrict, seen.1, seen.2⟩

end DataHarness
