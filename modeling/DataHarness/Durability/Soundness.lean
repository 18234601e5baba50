import DataHarness.Durability.History
import DataHarness.Library.Loops

/-!
# What verification says of journals the API produced

Records are read back from a shape every transaction keeps (`RecordRow.Shape`). From it and
the relation of the two tables follows exactly when `verify` accepts a journal the gateway
can produce: no record has failed, and no two bindings share an action id
(`verify_replay_iff`).
-/

namespace DataHarness

/-- The receipt is for this plan. -/
structure SourceMutationReceipt.BoundTo [Stdlib] (receipt : Receipt) (action : SourceActionPlan) :
    Prop where
  actionId : receipt.actionId = action.actionId
  actionDigest : receipt.actionDigest = action.digest
  idempotencyKey : receipt.idempotencyKey = action.idempotencyKey

/-- The receipt a transaction stores. -/
def JournalTx.receipt? (tx : JournalTx) : Option Receipt :=
  (Journal.outcome? tx).bind Journal.Outcome.receipt

/-- The receipt a transaction stores is for its plan. -/
def JournalTx.Bound [Stdlib] (tx : JournalTx) : Prop :=
  ∀ receipt, tx.receipt? = some receipt → receipt.BoundTo tx.action

/-- A receipt is stored with an outcome. -/
theorem outcome_proven {tx : JournalTx} {outcome : Journal.Outcome}
    (closing : Journal.outcome? tx = some outcome) :
    outcome.receipt.isSome = true ↔ outcome.state = .executed ∨ outcome.state = .failed := by
  cases tx <;> simp only [Journal.outcome?, Option.some.injEq, reduceCtorEq] at closing <;>
    subst closing <;> simp

section Replays

variable [Stdlib]

/-! ## Records read back -/

/-- A stored receipt is read back. -/
theorem readReceipt_toContract (receipt : Receipt) :
    readReceipt receipt.toContract = .ok receipt.stored := by
  obtain ⟨receiptId, actionId, actionDigest, idempotencyKey, state, startedAt, completedAt,
    sourceVersion, policyDecisionId, auditDigest, compensationOf⟩ := receipt
  cases compensationOf <;>
    simp [readReceipt, SourceMutationReceipt.toContract, SourceMutationReceipt.stored, member,
      List.lookup_cons, readState, readTimeValue, nullable,
      bind, Except.bind, pure, Except.pure]

/-- The receipt column that `_finish` sets is read back. -/
theorem readReceiptColumn_holds (receipt : Option Receipt) :
    readReceiptColumn (receipt.map fun receipt => .holds receipt.toContract) =
      .ok (receipt.map SourceMutationReceipt.stored) := by
  cases receipt with
  | none => rfl
  | some receipt =>
    have full : truthy receipt.toContract = true := by
      simp [truthy, SourceMutationReceipt.toContract]
    simp [readReceiptColumn, JsonText.loads, full, readReceipt_toContract, bind, Except.bind,
      pure, Except.pure]

/-- The columns of a record every transaction leaves. -/
structure RecordRow.Shape (row : RecordRow) (state : DurableActionState)
    (receipt : Option Receipt) : Prop where
  /-- A receipt is stored with an outcome and with nothing else. -/
  proven : receipt.isSome = true ↔ state = .executed ∨ state = .failed
  state : row.state = state.value
  started : ∃ time, row.startedAt = isoformat time
  updated : ∃ time, row.updatedAt = isoformat time
  receipt : row.receipt = receipt.map fun receipt => .holds receipt.toContract

/-- The receipt column of a record is read back. -/
theorem RecordRow.Shape.readReceipt {row : RecordRow} {state : DurableActionState}
    {receipt : Option Receipt} (shape : row.Shape state receipt) :
    readReceiptColumn row.receipt = .ok (receipt.map SourceMutationReceipt.stored) := by
  rw [shape.receipt]
  exact readReceiptColumn_holds receipt

/-- A record of this shape is read back, with its state and receipt. -/
theorem RecordRow.Shape.read {row : RecordRow} {state : DurableActionState}
    {receipt : Option Receipt} (shape : row.Shape state receipt) :
    ∃ found, record row = .ok found ∧ found.state = state ∧
      found.receipt = receipt.map SourceMutationReceipt.stored := by
  obtain ⟨started, startedAt⟩ := shape.started
  obtain ⟨updated, updatedAt⟩ := shape.updated
  have stated : DurableActionState.ofValue row.state = some state := by
    rw [shape.state, DurableActionState.ofValue_value]
  have begun : readTime row.startedAt = .ok started := by
    rw [startedAt, readTime_isoformat]
  have ended : readTime row.updatedAt = .ok updated := by
    rw [updatedAt, readTime_isoformat]
  exact ⟨_, record_eq_ok.mpr ⟨_, state, started, updated, shape.readReceipt, stated, begun, ended,
    rfl⟩, rfl, rfl⟩

/-- The state and receipt of a shape are the only ones. -/
theorem RecordRow.Shape.unique {row : RecordRow} {state other : DurableActionState}
    {receipt : Option Receipt} {second : Option Receipt} (shape : row.Shape state receipt)
    (again : row.Shape other second) : state = other :=
  DurableActionState.value_injective (shape.state.symm.trans again.state)

/-- Every record has a shape. -/
def Journal.Shaped (journal : Journal) : Prop :=
  ∀ row ∈ journal.records.rows, ∃ state receipt, row.Shape state receipt

variable {key : IntegrityKey} {journal after : Journal} {tx : JournalTx}

/-- The state of a record read back is that of its shape. -/
theorem RecordRow.Shape.state_of_read {row : RecordRow} {state : DurableActionState}
    {receipt : Option Receipt} {found : DurableActionRecord} (shape : row.Shape state receipt)
    (read : record row = .ok found) : found.state = state :=
  DurableActionState.value_injective ((reads_of_record read).state.trans shape.state)

/-- A rewritten record has a shape. -/
theorem Rewritten.shaped {written : RecordRow} (rewritten : Rewritten journal tx written)
    (shaped : journal.Shaped) : ∃ state receipt, written.Shape state receipt := by
  cases rewritten with
  | prepared action policyDecisionId now digest missing =>
    exact ⟨.prepared, none, by simp, rfl, ⟨now, rfl⟩, ⟨now, rfl⟩, rfl⟩
  | begun action now digest row found present read ready =>
    obtain ⟨state, receipt, shape⟩ := shaped row (Table.mem_of_find? present)
    have empty : receipt = none := by
      have prepared := (shape.state_of_read read).symm.trans ready
      have proven := shape.proven
      simpa [prepared] using proven
    subst empty
    exact ⟨.executing, none, by simp, rfl, shape.started, ⟨now, rfl⟩, shape.receipt⟩
  | finished _ outcome digest row closing present =>
    obtain ⟨_, _, shape⟩ := shaped row (Table.mem_of_find? present)
    exact ⟨outcome.state, outcome.receipt, outcome_proven closing, rfl, shape.started, ⟨_, rfl⟩,
      rfl⟩

/-- Every record of a journal the API produced has a shape. -/
theorem replay_shaped (key : IntegrityKey) (txs : List JournalTx) :
    (Journal.replay key .empty txs).Shaped :=
  replay_rows key fun _ _ _ _ rewritten before => rewritten.shaped before

/-- `pending` lists every open record. -/
theorem Journal.Shaped.pending (shaped : journal.Shaped) :
    ∃ records, journal.pending = .ok records ∧ ∀ row ∈ journal.records.rows,
      Journal.open? row = true → ∃ found ∈ records, record row = .ok found := by
  let sorted := (journal.records.rows.filter Journal.open?).insertionSort
    fun left right => Journal.precedes left right = true
  have inside : ∀ row, row ∈ sorted ↔ row ∈ journal.records.rows ∧ Journal.open? row = true := by
    intro row
    rw [List.mem_insertionSort, List.mem_filter]
  have readable : ∀ row ∈ sorted, ∃ found, record row = .ok found := by
    intro row member
    obtain ⟨state, receipt, shape⟩ := shaped row ((inside row).mp member).1
    obtain ⟨found, read, -⟩ := shape.read
    exact ⟨found, read⟩
  obtain ⟨records, listed⟩ := Loops.exists_mapM readable
  refine ⟨records, listed, ?_⟩
  intro row member selected
  exact Loops.exists_result_of_mapM listed ((inside row).mpr ⟨member, selected⟩)

/-! ## Receipts for the right plan -/

/-- Every stored receipt is for the plan its record was bound to. -/
def Journal.ReceiptsBound (journal : Journal) : Prop :=
  ∀ row ∈ journal.records.rows, ∀ state receipt, row.Shape state (some receipt) →
    receipt.actionId = row.actionId ∧ receipt.actionDigest = row.actionDigest ∧
      receipt.idempotencyKey = row.idempotencyKey

/-- A stored text determines the identity of its receipt. -/
theorem toContract_identity {left right : Receipt} (same : left.toContract = right.toContract) :
    left.actionId = right.actionId ∧ left.actionDigest = right.actionDigest ∧
      left.idempotencyKey = right.idempotencyKey := by
  simp only [SourceMutationReceipt.toContract, Json.Value.obj.injEq, List.cons.injEq,
    Prod.mk.injEq, Json.Value.str.injEq] at same
  exact ⟨same.2.2.1.2, same.2.2.2.1.2, same.2.2.2.2.1.2⟩

/-- Every transaction with a bound receipt keeps stored receipts bound. -/
theorem Journal.ReceiptsBound.commit (injective : Sha256Injective) {history : History}
    (identified : Identified history journal) (receipts : journal.ReceiptsBound)
    (bound : tx.Bound) : (journal.commit key tx).ReceiptsBound := by
  rcases Journal.commit_cases key journal tx with same | wrote
  · rw [same]
    exact receipts
  · obtain ⟨event, written, write⟩ := wrote.write
    have identity := write.actionId injective identified
    have digest := write.bound
    have keyed := write.binding
    intro row member state receipt shape
    rcases (write.records row).mp member with rfl | ⟨old, -⟩
    · cases write.change with
      | prepared => cases shape.receipt
      | begun =>
        have executing : DurableActionState.executing = state :=
          DurableActionState.value_injective shape.state
        have proven := shape.proven.mp rfl
        simp [← executing] at proven
      | finished _ outcome _ _ closing =>
        obtain ⟨stored, kept, same⟩ := Option.map_eq_some_iff.mp shape.receipt
        obtain ⟨left, middle, right⟩ := toContract_identity (JsonText.holds.inj same)
        have fits := bound stored (by simp [JournalTx.receipt?, closing, kept])
        refine ⟨?_, ?_, ?_⟩
        · rw [← left, fits.actionId, identity]
        · rw [← middle, fits.actionDigest, digest]
        · rw [← right, fits.idempotencyKey]
          exact (congrArg Prod.snd keyed).symm
    · exact receipts row old state receipt shape

/-- In a journal produced with bound receipts, every stored receipt is for its record. -/
theorem replay_receiptsBound (injective : Sha256Injective) (key : IntegrityKey)
    (txs : List JournalTx) (bound : ∀ tx ∈ txs, tx.Bound) :
    (Journal.replay key .empty txs).ReceiptsBound := by
  induction txs using List.reverseRecOn with
  | nil => intro row member; cases member
  | append_singleton txs tx ih =>
    rw [Journal.replay_snoc]
    exact (ih fun other member => bound other (by simp [member])).commit injective
      (replay_identified injective key txs) (bound tx (by simp))

/-! ## When verification succeeds -/

/-- The receipt rules on a record of a given shape. -/
theorem receiptVerified_of_shape {row : RecordRow} {state : DurableActionState}
    {receipt : Option Receipt} {found : DurableActionRecord} (shape : row.Shape state receipt)
    (read : record row = .ok found) (receipts : ∀ stored, receipt = some stored →
      stored.actionId = row.actionId ∧ stored.actionDigest = row.actionDigest ∧
        stored.idempotencyKey = row.idempotencyKey) :
    receiptVerified found = true ↔ state ≠ .failed := by
  obtain ⟨again, reread, same, stored⟩ := shape.read
  obtain rfl : again = found := Except.ok.inj (reread.symm.trans read)
  have reads := reads_of_record read
  have proven := shape.proven
  cases receipt with
  | none =>
    simp only [Option.map_none] at stored
    simp only [receiptVerified, stored, same]
    cases state <;> simp at proven ⊢
  | some receipt =>
    obtain ⟨left, middle, right⟩ := receipts receipt rfl
    simp only [Option.map_some] at stored
    simp only [receiptVerified, stored, same, SourceMutationReceipt.stored, isText, left, middle,
      right, reads.actionId, reads.actionDigest, reads.idempotencyKey]
    cases state <;> simp at proven ⊢

/-- Action ids name bindings: no two records share one. -/
def Journal.DistinctActions (journal : Journal) : Prop :=
  ∀ left ∈ journal.records.rows, ∀ right ∈ journal.records.rows,
    left.actionId = right.actionId → left.binding = right.binding

instance (journal : Journal) : Decidable journal.DistinctActions := by
  unfold Journal.DistinctActions
  infer_instance

/-- A verified journal has distinct action ids: one prepared event is remembered an action. -/
theorem distinctActions_of_verify (verified : journal.verify key = .ok true) :
    journal.DistinctActions := by
  obtain ⟨-, -, accepted⟩ := verify_iff.mp verified
  intro left first right second same
  obtain ⟨_, members, _, -, -, -, leftBound, leftFields, -⟩ :=
    verifyRecord_eq_true.mp (accepted left first)
  obtain ⟨_, others, _, -, -, -, rightBound, rightFields, -⟩ :=
    verifyRecord_eq_true.mp (accepted right second)
  rw [same, rightBound] at leftBound
  obtain rfl := Json.Value.obj.inj (Option.some.inj leftBound)
  exact preparedMatches_binding leftFields rightFields

/-- In a consistent journal with distinct action ids the prepared event of a record is the one
remembered for its action. -/
theorem Consistent.remembered {history : History} (consistent : Consistent key history journal)
    (distinct : journal.DistinctActions) {row : RecordRow} (member : row ∈ journal.records.rows) :
    (Scan.of journal.events.rows).preparedByAction.lookup row.actionId =
      some (.obj row.preparedAttributes) := by
  obtain ⟨event, inside, kind⟩ := consistent.opened row member
  have here := consistent.preparedBy _ inside kind row member rfl
  have listed : event ∈ journal.events.rows := by
    rw [consistent.events]
    exact List.mem_map.mpr ⟨_, inside, rfl⟩
  have parsed : event.attributes.loads = .ok (.obj row.preparedAttributes) := by
    rw [here.attributes]
    rfl
  obtain ⟨first, found⟩ :=
    exists_prepared listed (by simpa [EventRow.isPrepared] using kind) parsed
  rw [here.action] at found
  obtain ⟨other, among, otherKind, otherAction, loaded⟩ := lookup_prepared found
  rw [consistent.events] at among
  obtain ⟨entry, there, rfl⟩ := List.mem_map.mp among
  obtain ⟨owner, owned, keyed⟩ := consistent.kept entry there
  have prepared := consistent.preparedBy entry there (by simpa [EventRow.isPrepared] using otherKind)
    owner owned keyed
  have sameRow : owner = row :=
    Table.eq_of_key owned member
      (distinct owner owned row member (prepared.action.symm.trans otherAction))
  rw [found, Option.some.injEq]
  rw [prepared.attributes, sameRow] at loaded
  exact (Except.ok.inj loaded).symm

/-- A record that names an event of its action and state, and whose prepared event is the one
remembered, is accepted exactly when it has not failed. -/
theorem verifyRecord_iff {rows : List EventRow} (distinct : (rows.map EventRow.digest).Nodup)
    {row : RecordRow} {event : EventRow} (listed : event ∈ rows)
    (digest : row.journalDigest = event.digest) (identity : event.actionId = row.actionId)
    (state : row.state = event.eventType)
    (prepared : (Scan.of rows).preparedByAction.lookup row.actionId =
      some (.obj row.preparedAttributes)) {decoded : DurableActionState}
    {receipt : Option Receipt} (shape : row.Shape decoded receipt)
    (receipts : ∀ stored, receipt = some stored → stored.actionId = row.actionId ∧
      stored.actionDigest = row.actionDigest ∧ stored.idempotencyKey = row.idempotencyKey) :
    verifyRecord (Scan.of rows) row = .ok true ↔
      row.state ≠ DurableActionState.failed.value := by
  have named := (lookup_event distinct).mpr ⟨listed, digest.symm⟩
  obtain ⟨found, read, -⟩ := shape.read
  have fields : preparedMatches row.preparedAttributes row = true :=
    (preparedMatches_attributes row row).mpr ⟨rfl, rfl, rfl⟩
  have rules := receiptVerified_of_shape shape read receipts
  have states : row.state ≠ DurableActionState.failed.value ↔ decoded ≠ .failed := by
    rw [shape.state]
    exact not_congr ⟨fun same => DurableActionState.value_injective same, congrArg _⟩
  rw [states, ← rules, verifyRecord_eq_true]
  constructor
  · rintro ⟨_, _, other, -, -, -, -, -, again, verified⟩
    obtain rfl : found = other := Except.ok.inj (read.symm.trans again)
    exact verified
  · intro verified
    exact ⟨event, _, found, named, identity, state.symm, prepared, fields, read, verified⟩

/-- A record of a journal with distinct action ids is accepted exactly when it has not
failed. -/
theorem Consistent.accepted_iff (injective : HmacInjective) {history : History}
    (consistent : Consistent key history journal) (identified : Identified history journal)
    (shaped : journal.Shaped) (receipts : journal.ReceiptsBound)
    (distinct : journal.DistinctActions) {row : RecordRow} (member : row ∈ journal.records.rows) :
    verifyRecord (Scan.of journal.events.rows) row = .ok true ↔
      row.state ≠ DurableActionState.failed.value := by
  obtain ⟨event, last, digest, state⟩ := consistent.current row member
  have listed : event ∈ journal.events.rows := by
    rw [consistent.events]
    exact List.mem_map.mpr ⟨_, History.mem_of_last? last, rfl⟩
  obtain ⟨decoded, receipt, shape⟩ := shaped row member
  exact verifyRecord_iff (digests_nodup injective journal.events consistent.signed)
    listed digest (identified.named row member event last) state
    (consistent.remembered distinct member) shape fun stored kept =>
      receipts row member decoded stored (kept ▸ shape)

/-- A journal produced with bound receipts verifies exactly when action ids are distinct and no
record has failed. -/
theorem verify_replay_iff (collisions : Sha256Injective) (injective : HmacInjective)
    (key : IntegrityKey) (txs : List JournalTx) (bound : ∀ tx ∈ txs, tx.Bound) :
    (Journal.replay key .empty txs).verify key = .ok true ↔
      (Journal.replay key .empty txs).DistinctActions ∧
        ∀ row ∈ (Journal.replay key .empty txs).records.rows,
          row.state ≠ DurableActionState.failed.value := by
  have consistent := replay_consistent key txs
  have identified := replay_identified collisions key txs
  have shaped := replay_shaped key txs
  have receipts := replay_receiptsBound collisions key txs bound
  constructor
  · intro verified
    have distinct := distinctActions_of_verify verified
    refine ⟨distinct, fun row member => ?_⟩
    exact (consistent.accepted_iff injective identified shaped receipts distinct member).mp
      ((verify_iff.mp verified).2.2 row member)
  · rintro ⟨distinct, unfailed⟩
    refine verify_iff.mpr ⟨consistent.linked, consistent.signed, fun row member => ?_⟩
    exact (consistent.accepted_iff injective identified shaped receipts distinct member).mpr
      (unfailed row member)

/-- A record of a journal the API produced is decided without an exception. -/
theorem Consistent.decides {history : History}
    (consistent : Consistent key history journal) (shaped : journal.Shaped) {row : RecordRow}
    (member : row ∈ journal.records.rows) :
    ∃ verdict, verifyRecord (Scan.of journal.events.rows) row = .ok verdict := by
  obtain ⟨decoded, receipt, shape⟩ := shaped row member
  obtain ⟨found, read, -⟩ := shape.read
  simp only [verifyRecord, read]
  split
  · exact ⟨_, rfl⟩
  · split
    · exact ⟨_, rfl⟩
    · split
      · exact ⟨_, rfl⟩
      · split
        · exact ⟨_, rfl⟩
        · exact ⟨_, rfl⟩
        · split <;> exact ⟨_, rfl⟩
        · rename_i other unnull unobject named
          obtain ⟨event, among, kind, -, loaded⟩ := lookup_prepared named
          rw [consistent.events] at among
          obtain ⟨entry, there, rfl⟩ := List.mem_map.mp among
          obtain ⟨owner, owned, keyed⟩ := consistent.kept entry there
          have prepared := consistent.preparedBy entry there
            (by simpa [EventRow.isPrepared] using kind) owner owned keyed
          rw [prepared.attributes] at loaded
          exact absurd (Except.ok.inj loaded).symm (unobject _)

/-- Verification of a journal the API produced raises no exception. -/
theorem verify_replay_decides (key : IntegrityKey) (txs : List JournalTx) :
    ∃ verdict, (Journal.replay key .empty txs).verify key = .ok verdict := by
  have consistent := replay_consistent key txs
  have shaped := replay_shaped key txs
  have scanned : scanEvents key .start (Journal.replay key .empty txs).events.rows =
      .ok (some (Scan.of (Journal.replay key .empty txs).events.rows)) :=
    scanEvents_eq_some.mpr ⟨consistent.linked, consistent.signed, by simp [Scan.of, Scan.start]⟩
  have decides : ∀ rows, (∀ row ∈ rows, row ∈ (Journal.replay key .empty txs).records.rows) →
      ∃ verdict, verifyRecords (Scan.of (Journal.replay key .empty txs).events.rows) rows =
        .ok verdict := by
    intro rows
    induction rows with
    | nil => exact fun _ => ⟨true, rfl⟩
    | cons row rows ih =>
      intro inside
      obtain ⟨verdict, decided⟩ :=
        consistent.decides shaped (inside row (by simp))
      cases verdict with
      | false => exact ⟨false, by simp [verifyRecords, decided]⟩
      | true =>
        simp only [verifyRecords, decided]
        exact ih fun other member => inside other (by simp [member])
  simp only [Journal.verify, scanned]
  exact decides _ fun _ member => member

/-- The transaction records an unsuccessful outcome. -/
def JournalTx.fails : JournalTx → Bool
  | .fail _ _ _ => true
  | _ => false

/-- Without an unsuccessful outcome no record is rewritten as failed. -/
theorem Rewritten.unfailed {written : RecordRow} (rewritten : Rewritten journal tx written)
    (succeeds : tx.fails = false) : written.state ≠ DurableActionState.failed.value := by
  cases rewritten with
  | prepared => simp [Journal.preparedRow, DurableActionState.value]
  | begun => simp [Journal.setExecuting, DurableActionState.value]
  | finished _ outcome _ _ closing =>
    cases tx <;> simp only [Journal.outcome?, Option.some.injEq, reduceCtorEq] at closing
    · subst closing
      simp [Journal.setFinished, DurableActionState.value]
    · simp [JournalTx.fails] at succeeds
    · subst closing
      simp [Journal.setFinished, DurableActionState.value]

/-- Without an unsuccessful outcome no record has failed. -/
theorem replay_unfailed (key : IntegrityKey) (txs : List JournalTx)
    (succeed : ∀ tx ∈ txs, tx.fails = false) :
    ∀ row ∈ (Journal.replay key .empty txs).records.rows,
      row.state ≠ DurableActionState.failed.value :=
  replay_rows key fun tx member _ _ rewritten _ => rewritten.unfailed (succeed tx member)

/-! ## Small runs -/

/-- A receipt for a plan. -/
def SourceActionPlan.smallReceipt (action : SourceActionPlan) : Receipt where
  receiptId := "receipt"
  actionId := action.actionId
  actionDigest := action.digest
  idempotencyKey := action.idempotencyKey
  state := .executed
  startedAt := noon
  completedAt := noon
  sourceVersion := "1"
  policyDecisionId := "allow"
  auditDigest := "audit"
  compensationOf := none

/-- The calls of one successful execution. -/
def executed (action : SourceActionPlan) : List JournalTx :=
  [.prepare action "allow" noon, .begin action noon, .complete action action.smallReceipt noon]

/-- Its receipt is for its plan. -/
theorem executed_bound (action : SourceActionPlan) : ∀ tx ∈ executed action, tx.Bound := by
  intro tx member receipt stored
  simp only [executed, List.mem_cons, List.not_mem_nil, or_false] at member
  rcases member with rfl | rfl | rfl
  · cases stored
  · cases stored
  · obtain rfl := Option.some.inj stored
    exact ⟨rfl, rfl, rfl⟩

/-! ## The order of the gateway -/

/-- What the gateway has seen of the journal when it makes a call: any plan is prepared, a
prepared one begun, and an outcome recorded for a dispatched one. -/
def Journal.Admits (journal : Journal) : JournalTx → Prop
  | .prepare _ _ _ => True
  | .begin action _ => (journal.records.find? action.binding).isSome = true
  | .complete action _ _ => (journal.records.find? action.binding).any Journal.open? = true
  | .fail action _ _ => (journal.records.find? action.binding).any Journal.open? = true
  | .requireReconciliation action _ _ =>
    (journal.records.find? action.binding).any Journal.open? = true

instance Journal.decidableAdmits (journal : Journal) : ∀ tx, Decidable (journal.Admits tx)
  | .prepare _ _ _ => isTrue trivial
  | .begin action _ =>
    inferInstanceAs (Decidable ((journal.records.find? action.binding).isSome = true))
  | .complete action _ _ =>
    inferInstanceAs (Decidable ((journal.records.find? action.binding).any Journal.open? = true))
  | .fail action _ _ =>
    inferInstanceAs (Decidable ((journal.records.find? action.binding).any Journal.open? = true))
  | .requireReconciliation action _ _ =>
    inferInstanceAs (Decidable ((journal.records.find? action.binding).any Journal.open? = true))

/-- The calls are made in the gateway's order. -/
def Journal.InOrder (key : IntegrityKey) : Journal → List JournalTx → Prop
  | _, [] => True
  | journal, tx :: txs => journal.Admits tx ∧ InOrder key (journal.commit key tx) txs

instance Journal.decidableInOrder (key : IntegrityKey) :
    ∀ journal txs, Decidable (Journal.InOrder key journal txs)
  | _, [] => isTrue trivial
  | journal, tx :: txs =>
    have := Journal.decidableInOrder key (journal.commit key tx) txs
    inferInstanceAs (Decidable (journal.Admits tx ∧ Journal.InOrder key (journal.commit key tx) txs))

/-- Verification of a journal without unsuccessful outcomes succeeds exactly when different
bindings carry different action ids, whatever the order of the calls. -/
theorem verify_iff_distinctActions (collisions : Sha256Injective) (injective : HmacInjective)
    (key : IntegrityKey) (txs : List JournalTx) (bound : ∀ tx ∈ txs, tx.Bound)
    (succeed : ∀ tx ∈ txs, tx.fails = false) :
    (Journal.replay key .empty txs).verify key = .ok true ↔
      (Journal.replay key .empty txs).DistinctActions := by
  rw [verify_replay_iff collisions injective key txs bound]
  exact and_iff_left (replay_unfailed key txs succeed)

end Replays

/-- One successful execution verifies. -/
theorem verify_executed : letI := Stdlib.transparent
    (Journal.replay .small .empty (executed (.small "action" "first" (by decide)))).verify .small =
      .ok true := by
  let := Stdlib.transparent
  refine (verify_iff_distinctActions Stdlib.transparent_sha256 Stdlib.transparent_hmac .small _
    (executed_bound _) (by decide)).mpr ?_
  decide +kernel

/-- Two executions under one action id. -/
def reused [Stdlib] : List JournalTx :=
  executed .first ++ executed (.small "action" "second" (by decide))

/-- Two bindings that reuse an action id, each prepared, begun and completed in order, make a
journal that fails verification. -/
theorem reused_refused : letI := Stdlib.transparent
    Journal.InOrder .small .empty reused ∧ (∀ tx ∈ reused, tx.Bound) ∧
      (∀ tx ∈ reused, tx.fails = false) ∧
        (Journal.replay .small .empty reused).verify .small = .ok false := by
  let := Stdlib.transparent
  refine ⟨by decide +kernel, ?_, by decide +kernel, ?_⟩
  · intro tx member
    rcases List.mem_append.mp member with first | second
    · exact executed_bound _ tx first
    · exact executed_bound _ tx second
  · obtain ⟨verdict, decided⟩ :=
      verify_replay_decides .small reused
    cases verdict with
    | false => exact decided
    | true =>
      have distinct := distinctActions_of_verify decided
      have shared : ¬ (Journal.replay .small .empty reused).DistinctActions := by
        decide +kernel
      exact absurd distinct shared

end DataHarness
