import DataHarness.Durability.Soundness
import DataHarness.Library.Relational

/-!
# What does not depend on telemetry

A failed emit adds an entry to the audit ledger. Later entries, and what the receipts tell of them,
are then different ones. Two receipts are alike when they agree in all else; so are two exceptions,
two records, and two journals that were written with such receipts. A transaction does the same to
journals that are alike.
-/

namespace DataHarness

open Effect

/-- Two receipts agree in every field but `receipt_id`, `audit_digest` and `compensation_of`. -/
structure SourceMutationReceipt.Alike {τ : Type} (left right : SourceMutationReceipt τ) : Prop where
  actionId : left.actionId = right.actionId
  actionDigest : left.actionDigest = right.actionDigest
  idempotencyKey : left.idempotencyKey = right.idempotencyKey
  state : left.state = right.state
  startedAt : left.startedAt = right.startedAt
  completedAt : left.completedAt = right.completedAt
  sourceVersion : left.sourceVersion = right.sourceVersion
  policyDecisionId : left.policyDecisionId = right.policyDecisionId

/-- A receipt is like itself. -/
theorem SourceMutationReceipt.Alike.refl {τ : Type} (receipt : SourceMutationReceipt τ) :
    receipt.Alike receipt := ⟨rfl, rfl, rfl, rfl, rfl, rfl, rfl, rfl⟩

/-- Receipts that are alike are so when a caller holds them. -/
theorem SourceMutationReceipt.Alike.stored {left right : Receipt} (alike : left.Alike right) :
    left.stored.Alike right.stored := by
  constructor
  · exact congrArg Json.Value.str alike.actionId
  · exact congrArg Json.Value.str alike.actionDigest
  · exact congrArg Json.Value.str alike.idempotencyKey
  · exact alike.state
  · exact alike.startedAt
  · exact alike.completedAt
  · exact congrArg Json.Value.str alike.sourceVersion
  · exact congrArg Json.Value.str alike.policyDecisionId

/-- Two exceptions are one, or report receipts that are alike. -/
inductive ActionError.Alike : ActionError → ActionError → Prop
  | same (error : ActionError) : Alike error error
  | failed {left right : StoredReceipt} (receipts : left.Alike right) :
    Alike (.actionExecutionFailed left) (.actionExecutionFailed right)

/-- Exceptions that are alike are both an `Exception`, or both not. -/
theorem ActionError.Alike.isException {error thrown : ActionError} (alike : error.Alike thrown) :
    error.isException = thrown.isException := by
  cases alike <;> rfl

/-- Two optional receipts are missing, or alike. -/
abbrev ReceiptsAlike : Option StoredReceipt → Option StoredReceipt → Prop :=
  Option.Rel SourceMutationReceipt.Alike

/-- An optional receipt is like itself. -/
theorem ReceiptsAlike.refl (receipt : Option StoredReceipt) : ReceiptsAlike receipt receipt := by
  cases receipt with
  | none => exact .none
  | some receipt => exact .some (.refl receipt)

/-- Two records agree in all but their receipts, which are alike. -/
structure DurableActionRecord.Alike (left right : DurableActionRecord) : Prop where
  columns : left = { right with receipt := left.receipt }
  receipt : ReceiptsAlike left.receipt right.receipt

variable [Stdlib]

/-- Two rows agree in all but their receipt columns, which are read as receipts that are alike. -/
structure RecordRow.Alike (left right : RecordRow) : Prop where
  columns : left = { right with receipt := left.receipt }
  receipt : Together ReceiptsAlike ActionError.Alike (readReceiptColumn left.receipt)
    (readReceiptColumn right.receipt)

/-- A row is like itself. -/
theorem RecordRow.Alike.refl (row : RecordRow) : row.Alike row :=
  ⟨rfl, .refl ReceiptsAlike.refl .same _⟩

/-- Two journals have the same events, and rows that are alike. -/
structure Journal.Alike (left right : Journal) : Prop where
  events : left.events = right.events
  rows : ∀ binding,
    Option.Rel RecordRow.Alike (left.records.find? binding) (right.records.find? binding)

/-- A journal is like itself. -/
theorem Journal.Alike.refl (journal : Journal) : journal.Alike journal := by
  refine ⟨rfl, fun binding => ?_⟩
  cases journal.records.find? binding with
  | none => exact .none
  | some row => exact .some (.refl row)

/-- Two transactions are one, or record receipts that are alike. -/
inductive JournalTx.Alike : JournalTx → JournalTx → Prop
  | same (tx : JournalTx) : Alike tx tx
  | complete (action : SourceActionPlan) (now : DateTime) {left right : Receipt}
    (receipts : left.Alike right) : Alike (.complete action left now) (.complete action right now)
  | fail (action : SourceActionPlan) (now : DateTime) {left right : Receipt}
    (receipts : left.Alike right) : Alike (.fail action left now) (.fail action right now)

/-! ## Reading -/

/-- Rows that are alike are read as records that are alike. -/
theorem record_alike {left right : RecordRow} (alike : left.Alike right) :
    Together DurableActionRecord.Alike ActionError.Alike (record left) (record right) := by
  obtain ⟨columns, receipt⟩ := alike
  rw [columns] at receipt ⊢
  unfold record
  apply receipt.bind
  intro first second receipts
  dsimp only
  cases DurableActionState.ofValue right.state with
  | none => exact .error (.same _)
  | some state =>
    cases readTime right.startedAt with
    | error error => exact .error (.same _)
    | ok startedAt =>
      cases readTime right.updatedAt with
      | error error => exact .error (.same _)
      | ok updatedAt => exact .ok ⟨rfl, receipts⟩

/-- Journals that are alike read records that are alike. -/
theorem get_alike {left right : Journal} (alike : left.Alike right) (binding : Binding) :
    Together (Option.Rel DurableActionRecord.Alike) ActionError.Alike (left.get binding)
      (right.get binding) := by
  have rows := alike.rows binding
  unfold Journal.get
  revert rows
  generalize left.records.find? binding = first
  generalize right.records.find? binding = second
  intro rows
  cases rows with
  | none => exact .ok .none
  | some rows => exact (record_alike rows).map fun _ _ records => .some records

/-! ## Writing -/

/-- What a transaction returns from inside and the journal it leaves are alike. -/
abbrev TransactAlike : Except ActionError (Option DurableActionRecord × Journal) →
    Except ActionError (Option DurableActionRecord × Journal) → Prop :=
  Together (fun before after => Option.Rel DurableActionRecord.Alike before.1 after.1 ∧
    before.2.Alike after.2) ActionError.Alike

section Transactions

variable {key : IntegrityKey} {left right : Journal}

/-- Records of journals that are alike, or none, are found under a binding. -/
theorem Journal.Alike.found (alike : left.Alike right) (binding : Binding) :
    left.records.find? binding = none ∧ right.records.find? binding = none ∨
      ∃ first second, left.records.find? binding = some first ∧
        right.records.find? binding = some second ∧ first.Alike second := by
  have rows := alike.rows binding
  revert rows
  generalize left.records.find? binding = first
  generalize right.records.find? binding = second
  intro rows
  cases rows with
  | none => exact .inl ⟨rfl, rfl⟩
  | some rows => exact .inr ⟨_, _, rfl, rfl, rows⟩

/-- `prepare` does the same to both journals. -/
theorem prepare_alike (alike : left.Alike right) (action : SourceActionPlan)
    (policyDecisionId : String) (now : DateTime) :
    TransactAlike (left.prepare key action policyDecisionId now)
      (right.prepare key action policyDecisionId now) := by
  rcases alike.found action.binding with ⟨missing, absent⟩ | ⟨row, other, present, there, rows⟩
  · rw [Journal.prepare_of_missing missing, Journal.prepare_of_missing absent]
    cases action.takeDigest with
    | error error => exact .error (.same _)
    | ok digest =>
      have events : (left.writePrepared key action policyDecisionId now missing).events =
          (right.writePrepared key action policyDecisionId now absent).events := by
        simp only [Journal.writePrepared, alike.events]
      refine .ok ⟨.none, events, fun binding => ?_⟩
      rw [Journal.find?_writePrepared, Journal.find?_writePrepared, events]
      by_cases here : action.binding = binding
      · rw [if_pos here, if_pos here]
        exact .some (.refl _)
      · rw [if_neg here, if_neg here]
        exact alike.rows binding
  · rw [Journal.prepare_of_present present, Journal.prepare_of_present there]
    apply (record_alike rows).bind
    intro found read records
    rw [show found.actionDigest = read.actionDigest by rw [records.columns]]
    cases action.checkDigest read.actionDigest Journal.boundMessage with
    | error error => exact .error (.same _)
    | ok _ => exact .ok ⟨.some records, alike⟩

/-- The columns `begin` sets leave rows alike. -/
theorem RecordRow.Alike.setExecuting {first second : RecordRow} (rows : first.Alike second)
    (now : DateTime) (attempts : Int) (journalDigest : String) :
    (Journal.setExecuting now attempts journalDigest first).Alike
      (Journal.setExecuting now attempts journalDigest second) := by
  obtain ⟨columns, receipt⟩ := rows
  rw [columns] at receipt ⊢
  exact ⟨rfl, receipt⟩

/-- The columns `_finish` sets leave rows alike, when the receipts are alike. -/
theorem RecordRow.Alike.setFinished {first second : RecordRow} (rows : first.Alike second)
    {receipt other : Option Receipt} (receipts : Option.Rel SourceMutationReceipt.Alike receipt other)
    (state : DurableActionState) (sourceVersion : Option String) (now : DateTime)
    (journalDigest : String) :
    (Journal.setFinished state receipt sourceVersion now journalDigest first).Alike
      (Journal.setFinished state other sourceVersion now journalDigest second) := by
  obtain ⟨columns, -⟩ := rows
  rw [columns]
  refine ⟨rfl, ?_⟩
  show Together _ _ (readReceiptColumn (receipt.map _)) (readReceiptColumn (other.map _))
  rw [readReceiptColumn_holds, readReceiptColumn_holds]
  cases receipts with
  | none => exact .ok .none
  | some alike => exact .ok (.some alike.stored)

/-- `begin` does the same to both journals. -/
theorem begin_alike (alike : left.Alike right) (action : SourceActionPlan) (now : DateTime) :
    TransactAlike (left.begin key action now) (right.begin key action now) := by
  unfold Journal.begin
  rcases alike.found action.binding with ⟨missing, absent⟩ | ⟨row, other, present, there, rows⟩
  · rw [missing, absent]
    exact .error (.same _)
  · rw [present, there]
    dsimp only
    have read := record_alike rows
    revert read
    generalize record row = first
    generalize record other = second
    intro read
    cases read with
    | error alike => exact .error alike
    | @ok found again records =>
      have columns := records.columns
      dsimp only
      rw [columns]
      cases action.checkDigest again.actionDigest Journal.boundMessage with
      | error error => exact .error (.same _)
      | ok _ =>
        dsimp only
        by_cases executed : again.state = .executed
        · rw [if_pos executed, if_pos executed, ← columns]
          exact .ok ⟨.some records, alike⟩
        · rw [if_neg executed, if_neg executed]
          by_cases prepared : again.state = .prepared
          · rw [if_neg (not_not.mpr prepared), if_neg (not_not.mpr prepared)]
            have events : (left.writeExecuting key action now again.attempts).events =
                (right.writeExecuting key action now again.attempts).events := by
              simp only [Journal.writeExecuting, alike.events]
            refine .ok ⟨.none, events, fun binding => ?_⟩
            rw [Journal.find?_writeExecuting, Journal.find?_writeExecuting, events, present, there]
            by_cases here : binding = action.binding
            · rw [if_pos here, if_pos here]
              exact .some (rows.setExecuting ..)
            · rw [if_neg here, if_neg here]
              exact alike.rows binding
          · rw [if_pos prepared, if_pos prepared]
            exact .error (.same _)

/-- `_finish` does the same to both journals, with receipts that are alike. -/
theorem finish_alike (alike : left.Alike right) (action : SourceActionPlan)
    (state : DurableActionState) {receipt other : Option Receipt}
    (receipts : Option.Rel SourceMutationReceipt.Alike receipt other)
    (sourceVersion : Option String) (now : DateTime) (reason : Option String) :
    TransactAlike (left.finish key action state receipt sourceVersion now reason)
      (right.finish key action state other sourceVersion now reason) := by
  unfold Journal.finish
  rcases alike.found action.binding with ⟨missing, absent⟩ | ⟨row, another, present, there, rows⟩
  · rw [missing, absent]
    exact .error (.same _)
  · rw [present, there]
    dsimp only
    rw [show row.actionDigest = another.actionDigest by rw [rows.columns]]
    cases action.checkDigest another.actionDigest Journal.missingMessage with
    | error error => exact .error (.same _)
    | ok _ =>
      have events : (left.writeFinished key action state receipt sourceVersion now reason).events =
          (right.writeFinished key action state other sourceVersion now reason).events := by
        simp only [Journal.writeFinished, alike.events]
      refine .ok ⟨.none, events, fun binding => ?_⟩
      rw [Journal.find?_writeFinished, Journal.find?_writeFinished, events, present, there]
      by_cases here : binding = action.binding
      · rw [if_pos here, if_pos here]
        exact .some (rows.setFinished receipts ..)
      · rw [if_neg here, if_neg here]
        exact alike.rows binding

/-- A transaction does the same to both journals. -/
theorem transact_alike (alike : left.Alike right) {tx other : JournalTx} (txs : tx.Alike other) :
    TransactAlike (left.transact key tx) (right.transact key other) := by
  have itself : ∀ receipt : Option Receipt,
      Option.Rel SourceMutationReceipt.Alike receipt receipt := by
    intro receipt
    cases receipt with
    | none => exact .none
    | some receipt => exact .some (.refl receipt)
  cases txs with
  | same =>
    cases tx with
    | prepare action policyDecisionId now => exact prepare_alike alike action policyDecisionId now
    | begin action now => exact begin_alike alike action now
    | complete action receipt now => exact finish_alike alike action _ (itself _) _ now _
    | fail action receipt now => exact finish_alike alike action _ (itself _) _ now _
    | requireReconciliation action now reason => exact finish_alike alike action _ .none _ now _
  | complete action now receipts =>
    show TransactAlike (left.finish _ _ _ _ _ _ _) (right.finish _ _ _ _ _ _ _)
    rw [receipts.sourceVersion]
    exact finish_alike alike action _ (.some receipts) _ now _
  | fail action now receipts =>
    show TransactAlike (left.finish _ _ _ _ _ _ _) (right.finish _ _ _ _ _ _ _)
    rw [receipts.sourceVersion]
    exact finish_alike alike action _ (.some receipts) _ now _

/-- The replies to a transaction are alike. -/
theorem reply_alike (alike : left.Alike right) {tx other : JournalTx} (txs : tx.Alike other) :
    Together (Option.Rel DurableActionRecord.Alike) ActionError.Alike (left.reply key tx)
      (right.reply key other) :=
  (transact_alike alike txs).map fun _ _ related => related.1

/-- The journals after a transaction are alike. -/
theorem commit_alike (alike : left.Alike right) {tx other : JournalTx} (txs : tx.Alike other) :
    (left.commit key tx).Alike (right.commit key other) := by
  have transacted : TransactAlike (left.transact key tx) (right.transact key other) :=
    transact_alike alike txs
  unfold Journal.commit
  revert transacted
  generalize left.transact key tx = first
  generalize right.transact key other = second
  intro transacted
  cases transacted with
  | ok related => exact related.2
  | error _ => exact alike

end Transactions

end DataHarness
