import DataHarness.Durability.Soundness

/-!
# What every call of the journal keeps

Whatever calls were made, in any order and with any plans, and whichever of them raised: the events
are numbered from one and chained, a record names the last event that was appended for it, and is
executed once at most. Later calls only append events, delete no record and change nothing a record
was prepared with (`journal_invariant`).
-/

namespace DataHarness

namespace Journal

/-- Events are numbered from one, without gaps. -/
def Numbered (rows : List EventRow) : Prop :=
  rows.map EventRow.sequence =
    (List.range rows.length).map fun (position : Nat) => (position : Int) + 1

/-- A record has not been executed more than once, and not at all while it is prepared. -/
def Attempted (row : RecordRow) : Prop :=
  0 ≤ row.attempts ∧ row.attempts ≤ 1 ∧
    (row.state = DurableActionState.prepared.value → row.attempts = 0)

/-- What later calls keep of a record. -/
structure Continues (row later : RecordRow) : Prop where
  sourceId : later.sourceId = row.sourceId
  idempotencyKey : later.idempotencyKey = row.idempotencyKey
  actionId : later.actionId = row.actionId
  actionDigest : later.actionDigest = row.actionDigest
  policyDecisionId : later.policyDecisionId = row.policyDecisionId
  startedAt : later.startedAt = row.startedAt
  /-- A record that is no longer prepared is never prepared again. -/
  left : row.state ≠ DurableActionState.prepared.value →
    later.state ≠ DurableActionState.prepared.value

/-- What later calls keep of a journal. -/
structure Extends (journal later : Journal) : Prop where
  /-- Events are only appended. -/
  events : journal.events.rows <+: later.events.rows
  /-- No record is deleted. -/
  records : ∀ row ∈ journal.records.rows, ∃ other ∈ later.records.rows, Continues row other

/-- A record continues itself. -/
theorem Continues.refl (row : RecordRow) : Continues row row :=
  ⟨rfl, rfl, rfl, rfl, rfl, rfl, id⟩

/-- What continues a continuation continues the record. -/
theorem Continues.trans {first second third : RecordRow} (before : Continues first second)
    (after : Continues second third) : Continues first third where
  sourceId := after.sourceId.trans before.sourceId
  idempotencyKey := after.idempotencyKey.trans before.idempotencyKey
  actionId := after.actionId.trans before.actionId
  actionDigest := after.actionDigest.trans before.actionDigest
  policyDecisionId := after.policyDecisionId.trans before.policyDecisionId
  startedAt := after.startedAt.trans before.startedAt
  left := fun state => after.left (before.left state)

/-- A journal extends itself. -/
theorem Extends.refl (journal : Journal) : Extends journal journal :=
  ⟨List.prefix_refl _, fun row member => ⟨row, member, .refl row⟩⟩

/-- What extends an extension extends the journal. -/
theorem Extends.trans {first second third : Journal} (before : Extends first second)
    (after : Extends second third) : Extends first third := by
  refine ⟨before.events.trans after.events, fun row member => ?_⟩
  obtain ⟨other, inside, continued⟩ := before.records row member
  obtain ⟨last, present, again⟩ := after.records other inside
  exact ⟨last, present, continued.trans again⟩

/-- The next sequence behind numbered events. -/
theorem Numbered.next {rows : List EventRow} (numbered : Numbered rows) :
    nextSequence rows = (rows.length : Int) + 1 := by
  rcases List.eq_nil_or_concat rows with rfl | ⟨front, last, rfl⟩
  · rfl
  · unfold Numbered at numbered
    rw [List.concat_eq_append, List.map_append, List.length_append, List.length_singleton,
      List.range_succ, List.map_append] at numbered
    have own := (List.append_inj' numbered rfl).2
    have sequence : last.sequence = (front.length : Int) + 1 := List.head_eq_of_cons_eq own
    rw [List.concat_eq_append, nextSequence, List.getLast?_append, List.getLast?_singleton,
      List.length_append, List.length_singleton]
    dsimp only [Option.some_or]
    rw [sequence]
    omega

/-- One more event in sequence is numbered. -/
theorem Numbered.snoc {rows : List EventRow} {event : EventRow} (numbered : Numbered rows)
    (next : event.sequence = nextSequence rows) : Numbered (rows ++ [event]) := by
  have own : event.sequence = (rows.length : Int) + 1 := next.trans numbered.next
  unfold Numbered at numbered ⊢
  rw [List.map_append, numbered, List.length_append, List.length_singleton, List.range_succ,
    List.map_append, List.map_singleton, List.map_singleton, own]

variable [Stdlib] {key : IntegrityKey} {journal after : Journal} {tx : JournalTx}

/-! ## One call -/

/-- The event of a writing transaction is the next in sequence. -/
theorem Wrote.sequence (wrote : Wrote key journal tx after) :
    ∃ event, after.events.rows = journal.events.rows ++ [event] ∧
      event.sequence = nextSequence journal.events.rows := by
  cases wrote with
  | prepared => exact ⟨_, rfl, rfl⟩
  | begun => exact ⟨_, rfl, rfl⟩
  | finished => exact ⟨_, rfl, rfl⟩

/-- A call keeps events numbered. -/
theorem Numbered.commit (numbered : Numbered journal.events.rows) (tx : JournalTx) :
    Numbered (journal.commit key tx).events.rows := by
  rcases commit_cases key journal tx with same | wrote
  · rw [same]
    exact numbered
  · obtain ⟨event, events, next⟩ := wrote.sequence
    rw [events]
    exact numbered.snoc next

end Journal

variable [Stdlib] {key : IntegrityKey} {journal after : Journal} {tx : JournalTx}

/-- A rewritten record continues the one that was under its binding. -/
theorem Rewritten.continues {row written : RecordRow} (rewritten : Rewritten journal tx written)
    (present : journal.records.find? tx.action.binding = some row) :
    Journal.Continues row written := by
  cases rewritten with
  | prepared action policyDecisionId now digest missing =>
    have absent : journal.records.find? action.binding = some row := present
    rw [missing] at absent
    cases absent
  | begun action now digest found record there read ready =>
    obtain rfl := Option.some.inj (there.symm.trans present)
    exact ⟨rfl, rfl, rfl, rfl, rfl, rfl, fun _ prepared => by
      have states : DurableActionState.executing = .prepared :=
        DurableActionState.value_injective prepared
      cases states⟩
  | finished _ outcome digest found closing there =>
    obtain rfl := Option.some.inj (there.symm.trans present)
    exact ⟨rfl, rfl, rfl, rfl, rfl, rfl, fun _ prepared =>
      closing_state closing (DurableActionState.value_injective prepared)⟩

/-- A rewritten record has not been executed more than once. -/
theorem Rewritten.attempted {written : RecordRow} (rewritten : Rewritten journal tx written)
    (before : ∀ row ∈ journal.records.rows, Journal.Attempted row) :
    Journal.Attempted written := by
  cases rewritten with
  | prepared action policyDecisionId now digest missing =>
    exact ⟨le_refl 0, zero_le_one, fun _ => rfl⟩
  | begun action now digest row found present read ready =>
    obtain ⟨-, -, unattempted⟩ := before row (Table.mem_of_find? present)
    have prepared : row.state = DurableActionState.prepared.value := by
      rw [← (reads_of_record read).state, ready]
    have none : found.attempts = 0 := by
      obtain ⟨receipt, state, startedAt, updatedAt, -, -, -, -, rfl⟩ := record_eq_ok.mp read
      exact unattempted prepared
    have first : (Journal.setExecuting now (found.attempts + 1) digest row).attempts = 1 := by
      show found.attempts + 1 = 1
      omega
    refine ⟨?_, ?_, fun same => ?_⟩
    · omega
    · omega
    · have states : DurableActionState.executing = .prepared :=
        DurableActionState.value_injective same
      cases states
  | finished _ outcome digest row closing present =>
    obtain ⟨least, most, -⟩ := before row (Table.mem_of_find? present)
    refine ⟨least, most, fun same => ?_⟩
    exact absurd (DurableActionState.value_injective same) (closing_state closing)

namespace Journal

/-- A call extends a journal. -/
theorem extends_commit (key : IntegrityKey) (journal : Journal) (tx : JournalTx) :
    Extends journal (journal.commit key tx) := by
  rcases commit_cases key journal tx with same | wrote
  · rw [same]
    exact .refl journal
  · obtain ⟨event, written, write⟩ := wrote.write
    refine ⟨⟨[event], write.events.symm⟩, fun row member => ?_⟩
    by_cases touched : row.binding = tx.action.binding
    · have present : journal.records.find? tx.action.binding = some row := by
        rw [← touched]
        exact Table.find?_of_mem member
      exact ⟨written, write.member, write.change.continues present⟩
    · exact ⟨row, (write.records row).mpr (.inr ⟨member, touched⟩), .refl row⟩

/-- A transaction whose plan is not the one its key is bound to raises, a conflict if the plan has
a digest. -/
theorem transact_conflict (shaped : journal.Shaped) {row : RecordRow}
    (present : journal.records.find? tx.action.binding = some row)
    (different : tx.action.digested ≠ .ok row.actionDigest) :
    ∃ error, journal.transact key tx = .error error ∧
      ∀ digest, tx.action.digested = .ok digest →
        ∃ message, error = .idempotencyConflict message := by
  obtain ⟨state, receipt, shape⟩ := shaped row (Table.mem_of_find? present)
  obtain ⟨found, read, -⟩ := shape.read
  have bound := (reads_of_record read).actionDigest
  have refused : ∀ message, ∃ error, tx.action.checkDigest row.actionDigest message = .error error ∧
      ∀ digest, tx.action.digested = .ok digest → ∃ message, error = .idempotencyConflict message := by
    intro message
    obtain ⟨error, checked, conflict⟩ := SourceActionPlan.checkDigest_refused different message
    exact ⟨error, checked, fun digest own => ⟨message, conflict digest own⟩⟩
  cases closing : outcome? tx with
  | some outcome =>
    obtain ⟨error, checked, conflict⟩ := refused missingMessage
    refine ⟨error, ?_, conflict⟩
    rw [transact_closing closing]
    unfold finish
    rw [present]
    dsimp only
    rw [checked]
  | none =>
    obtain ⟨error, checked, conflict⟩ := refused boundMessage
    refine ⟨error, ?_, conflict⟩
    rw [← bound] at checked
    cases tx with
    | prepare action policyDecisionId now =>
      have checked : action.checkDigest found.actionDigest boundMessage = .error error := checked
      show journal.prepare key action policyDecisionId now = _
      rw [@prepare_of_present _ key action journal row present policyDecisionId now, read]
      simp only [Except.bind, checked, Except.map]
    | begin action now =>
      have there : journal.records.find? action.binding = some row := present
      have checked : action.checkDigest found.actionDigest boundMessage = .error error := checked
      show journal.begin key action now = _
      unfold begin
      rw [there]
      dsimp only
      rw [read]
      dsimp only
      rw [checked]
    | complete action receipt now => cases closing
    | fail action receipt now => cases closing
    | requireReconciliation action now reason => cases closing

/-- The call raises too, and leaves the tables as they were. -/
theorem commit_conflict (shaped : journal.Shaped) {row : RecordRow}
    (present : journal.records.find? tx.action.binding = some row)
    (different : tx.action.digested ≠ .ok row.actionDigest) :
    (∃ error, journal.reply key tx = .error error ∧
      ∀ digest, tx.action.digested = .ok digest → ∃ message, error = .idempotencyConflict message) ∧
      journal.commit key tx = journal := by
  have refused : ∃ error, journal.transact key tx = .error error ∧
      ∀ digest, tx.action.digested = .ok digest → ∃ message, error = .idempotencyConflict message :=
    transact_conflict shaped present different
  obtain ⟨error, raised, conflict⟩ := refused
  have replied : journal.reply key tx = .error error := by
    unfold reply
    rw [raised]
    rfl
  exact ⟨⟨error, replied, conflict⟩, commit_of_raise replied⟩

/-! ## Every sequence of calls -/

/-- The events of a replay are numbered. -/
theorem replay_numbered (key : IntegrityKey) (txs : List JournalTx) :
    Numbered (replay key .empty txs).events.rows := by
  induction txs using List.reverseRecOn with
  | nil => rfl
  | append_singleton txs tx ih =>
    rw [replay_snoc]
    exact ih.commit tx

/-- More calls extend a journal. -/
theorem extends_replay (key : IntegrityKey) (journal : Journal) (more : List JournalTx) :
    Extends journal (replay key journal more) := by
  induction more using List.reverseRecOn with
  | nil => exact .refl journal
  | append_singleton more tx ih =>
    rw [replay_snoc]
    exact ih.trans (extends_commit key _ tx)

/-- What the two tables satisfy behind the calls that wrote a history. -/
structure Represents (history : History) (journal : Journal) : Prop where
  /-- The events are those of the history. -/
  events : journal.events.rows = history.map Prod.snd
  /-- The sequences are one to the number of events. -/
  numbered : Numbered journal.events.rows
  /-- An event names the digest of the one before it. -/
  linked : Chain.Linked EventRow.previousDigest EventRow.digest genesis journal.events.rows
  /-- A record names the last event that was appended for it, and has its type as state. -/
  current : ∀ row ∈ journal.records.rows, ∃ event, history.last? row.binding = some event ∧
    row.journalDigest = event.digest ∧ row.state = event.eventType
  /-- A record is executed once at most. -/
  attempts : ∀ row ∈ journal.records.rows, row.attempts ≤ 1

/-- After any calls the two tables are consistent, more calls extend them, and a call with another
plan for a key that is bound raises, a conflict if the plan has a digest, and changes nothing. -/
theorem journal_invariant (key : IntegrityKey) (txs : List JournalTx) :
    Represents (history key .empty txs) (replay key .empty txs) ∧
      (∀ more, Extends (replay key .empty txs) (replay key .empty (txs ++ more))) ∧
      ∀ tx row, (replay key .empty txs).records.find? tx.action.binding = some row →
        tx.action.digested ≠ .ok row.actionDigest →
        (∃ error, (replay key .empty txs).reply key tx = .error error ∧
          ∀ digest, tx.action.digested = .ok digest →
            ∃ message, error = .idempotencyConflict message) ∧
          (replay key .empty txs).commit key tx = replay key .empty txs := by
  have consistent := replay_consistent key txs
  have attempted : ∀ row ∈ (replay key .empty txs).records.rows, Attempted row :=
    replay_rows key fun _ _ _ _ rewritten before => rewritten.attempted before
  refine ⟨⟨consistent.events, replay_numbered key txs, consistent.linked, consistent.current, ?_⟩,
    ?_, ?_⟩
  · intro row member
    exact (attempted row member).2.1
  · intro more
    have both : replay key .empty (txs ++ more) = replay key (replay key .empty txs) more :=
      List.foldl_append
    rw [both]
    exact extends_replay key _ more
  · intro tx row present different
    exact commit_conflict (replay_shaped key txs) present different

end Journal

end DataHarness
