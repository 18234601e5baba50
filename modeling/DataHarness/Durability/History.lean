import DataHarness.Durability.Verify
import Mathlib.Data.List.Induction

/-!
# Journals and their histories

A journal the API produced is the replay of a list of transactions. Its history tags every
event with the binding of the transaction that appended it, which the event rows themselves
do not name. `Consistent` relates the two tables through the history; every transaction
keeps it (`Consistent.commit`), so every replay has it (`replay_consistent`).
-/

namespace DataHarness

/-- The events of a journal in order, each with the binding it was appended for. -/
abbrev History : Type := List (Binding × EventRow)

/-- The last event appended for a binding. -/
def History.last? (history : History) (binding : Binding) : Option EventRow :=
  ((history.filter fun entry => entry.1 = binding).getLast?).map Prod.snd

/-- One more entry is the last of its binding and of no other. -/
theorem History.last?_snoc (history : History) (binding other : Binding) (event : EventRow) :
    History.last? (history ++ [(binding, event)]) other =
      if binding = other then some event else history.last? other := by
  by_cases same : binding = other
  · simp [History.last?, same]
  · simp [History.last?, same]

/-- The last event of a binding is in the history under it. -/
theorem History.mem_of_last? {history : History} {binding : Binding} {event : EventRow}
    (last : history.last? binding = some event) : (binding, event) ∈ history := by
  obtain ⟨entry, found, rfl⟩ := Option.map_eq_some_iff.mp last
  have member := List.mem_of_getLast? found
  simp only [List.mem_filter, decide_eq_true_eq] at member
  obtain ⟨inside, rfl⟩ := member
  exact inside

/-- The event type of a prepared event. -/
def EventRow.isPrepared (event : EventRow) : Bool :=
  event.eventType == DurableActionState.prepared.value

/-- The attributes of the prepared event of a record. -/
def RecordRow.preparedAttributes (row : RecordRow) : List (String × Json.Value) :=
  [("source_id", .str row.sourceId), ("idempotency_key", .str row.idempotencyKey),
    ("action_digest", .str row.actionDigest), ("policy_decision_id", .str row.policyDecisionId)]

/-- The four fields of a prepared event are those of a record with the same attributes, and
of no other. -/
theorem preparedMatches_attributes (row other : RecordRow) :
    preparedMatches row.preparedAttributes other = true ↔
      row.binding = other.binding ∧ row.actionDigest = other.actionDigest ∧
        row.policyDecisionId = other.policyDecisionId := by
  simp [preparedMatches, fieldIs, isText, RecordRow.preparedAttributes, RecordRow.binding,
    List.lookup_cons, and_assoc]

/-- The event is the one a record was prepared with. -/
structure RecordRow.PreparedBy (row : RecordRow) (event : EventRow) : Prop where
  action : event.actionId = row.actionId
  attributes : event.attributes = .holds (.obj row.preparedAttributes)

/-- The digest the next event refers to ends the chain so far. -/
theorem lastDigest_eq_tip (rows : List EventRow) :
    lastDigest rows = Chain.tip EventRow.digest genesis rows := by
  rcases List.eq_nil_or_concat rows with rfl | ⟨front, last, rfl⟩
  · rfl
  · simp [lastDigest]

/-- The rows after a change of the row under a key. -/
theorem mem_updated {journal : Journal} {binding : Binding} {row : RecordRow}
    (present : journal.records.find? binding = some row) (change : RecordRow → RecordRow)
    (keeps : ∀ row, (change row).binding = row.binding) (other : RecordRow) :
    other ∈ (journal.records.update binding change keeps).rows ↔
      other = change row ∨ other ∈ journal.records.rows ∧ other.binding ≠ binding := by
  rw [Table.mem_update]
  constructor
  · rintro (⟨found, member, here, rfl⟩ | elsewhere)
    · have same : found = row := Table.eq_of_key member (Table.mem_of_find? present)
        (here.trans (Table.key_of_find? present).symm)
      exact .inl (by rw [same])
    · exact .inr elsewhere
  · rintro (rfl | elsewhere)
    · exact .inl ⟨row, Table.mem_of_find? present, Table.key_of_find? present, rfl⟩
    · exact .inr elsewhere

/-- Records that share what they were prepared with are prepared by one event. -/
theorem RecordRow.PreparedBy.transfer {row other : RecordRow} {event : EventRow}
    (prepared : row.PreparedBy event) (action : other.actionId = row.actionId)
    (attributes : other.preparedAttributes = row.preparedAttributes) : other.PreparedBy event :=
  ⟨prepared.action.trans action.symm, by rw [prepared.attributes, attributes]⟩

/-- A closing transaction leaves no prepared record. -/
theorem closing_state {tx : JournalTx} {outcome : Journal.Outcome}
    (closing : Journal.outcome? tx = some outcome) : outcome.state ≠ .prepared := by
  cases tx <;> simp only [Journal.outcome?, Option.some.injEq, reduceCtorEq] at closing <;>
    subst closing <;> simp

variable [Stdlib]

namespace Journal

/-- The journal after transactions in order. -/
def replay (key : IntegrityKey) : Journal → List JournalTx → Journal :=
  List.foldl (commit key)

/-- One more transaction. -/
@[simp] theorem replay_snoc (key : IntegrityKey) (journal : Journal) (txs : List JournalTx)
    (tx : JournalTx) :
    replay key journal (txs ++ [tx]) = (replay key journal txs).commit key tx := by
  simp [replay]

/-- The events a transaction appends. -/
def appended (key : IntegrityKey) (journal : Journal) (tx : JournalTx) : List EventRow :=
  (journal.commit key tx).events.rows.drop journal.events.rows.length

/-- The history transactions write. -/
def history (key : IntegrityKey) : Journal → List JournalTx → History
  | _, [] => []
  | journal, tx :: txs =>
    (journal.appended key tx).map (fun event => (tx.action.binding, event)) ++
      history key (journal.commit key tx) txs

/-- One more transaction adds its events. -/
theorem history_snoc (key : IntegrityKey) (journal : Journal) (txs : List JournalTx)
    (tx : JournalTx) :
    history key journal (txs ++ [tx]) = history key journal txs ++
      ((replay key journal txs).appended key tx).map fun event => (tx.action.binding, event) := by
  induction txs generalizing journal with
  | nil => simp [history, replay]
  | cons first txs ih => simp [history, replay, ih]

end Journal

/-! ## What a writing transaction does to the two tables -/

/-- The record a writing transaction leaves: a new one, or the one it found with columns set. -/
inductive Rewritten (journal : Journal) : JournalTx → RecordRow → Prop
  | prepared (action : SourceActionPlan) (policyDecisionId : String) (now : DateTime)
    (digest : String) (missing : journal.records.find? action.binding = none) :
    Rewritten journal (.prepare action policyDecisionId now)
      (Journal.preparedRow action policyDecisionId now digest)
  | begun (action : SourceActionPlan) (now : DateTime) (digest : String) (row : RecordRow)
    (found : DurableActionRecord) (present : journal.records.find? action.binding = some row)
    (read : record row = .ok found) (ready : found.state = .prepared) :
    Rewritten journal (.begin action now) (Journal.setExecuting now (found.attempts + 1) digest row)
  | finished (tx : JournalTx) (outcome : Journal.Outcome) (digest : String) (row : RecordRow)
    (closing : Journal.outcome? tx = some outcome)
    (present : journal.records.find? tx.action.binding = some row) :
    Rewritten journal tx (Journal.setFinished outcome.state outcome.receipt outcome.sourceVersion
      outcome.now digest row)

/-- A write: the event it appended and the record it left. -/
structure Write (key : IntegrityKey) (journal after : Journal) (tx : JournalTx)
    (event : EventRow) (written : RecordRow) : Prop where
  /-- The event comes last. -/
  events : after.events.rows = journal.events.rows ++ [event]
  /-- It refers to the last digest. -/
  chained : event.previousDigest = lastDigest journal.events.rows
  /-- It is signed. -/
  signed : ∃ attributes, event.Signed key attributes
  /-- It names the action. -/
  identity : event.actionId = tx.action.actionId
  /-- The record is under the action's binding. -/
  binding : written.binding = tx.action.binding
  /-- The record is bound to the action's digest. -/
  bound : written.actionDigest = tx.action.digest
  /-- The record names the event. -/
  digest : written.journalDigest = event.digest
  /-- The record's state is the event's type. -/
  state : written.state = event.eventType
  /-- Records under other bindings stay as they were. -/
  records : ∀ row, row ∈ after.records.rows ↔
    row = written ∨ row ∈ journal.records.rows ∧ row.binding ≠ tx.action.binding
  /-- The record comes from the one under its binding. -/
  change : Rewritten journal tx written
  /-- The record is new and prepared, or keeps what it was prepared with. -/
  origin : (journal.records.find? tx.action.binding = none ∧ event.isPrepared = true ∧
      written.actionId = tx.action.actionId ∧ written.PreparedBy event) ∨
    ∃ row, journal.records.find? tx.action.binding = some row ∧ event.isPrepared = false ∧
      written.actionId = row.actionId ∧ written.actionDigest = row.actionDigest ∧
        written.preparedAttributes = row.preparedAttributes

/-- The digest of the last of appended events. -/
@[simp] theorem lastDigest_append (log : EventLog) (key : IntegrityKey) (eventType actionId : String)
    (now : DateTime) (attributes : List (String × Json.Value)) :
    lastDigest (log.append key eventType actionId now attributes).rows =
      (nextEvent key log.rows eventType actionId now attributes).digest := by
  simp [lastDigest, EventLog.append]

/-- Every writing transaction is a write. -/
theorem Journal.Wrote.write {key : IntegrityKey} {journal after : Journal} {tx : JournalTx}
    (wrote : Journal.Wrote key journal tx after) :
    ∃ event written, Write key journal after tx event written := by
  cases wrote with
  | prepared action policyDecisionId now missing =>
    let written := preparedRow action policyDecisionId now
      (lastDigest (journal.writePrepared key action policyDecisionId now missing).events.rows)
    refine ⟨_, written, rfl, rfl, ⟨_, rfl, rfl⟩, rfl, rfl, rfl, lastDigest_append .., rfl, ?_,
      .prepared action policyDecisionId now _ missing, .inl ⟨missing, rfl, rfl, rfl, rfl⟩⟩
    intro row
    refine (Table.mem_insert journal.records written missing row).trans ?_
    constructor
    · rintro (old | new)
      · exact .inr ⟨old, Table.absent missing row old⟩
      · exact .inl new
    · rintro (new | ⟨old, -⟩)
      · exact .inr new
      · exact .inl old
  | begun action now row found present read same ready =>
    have reads := reads_of_record read
    have keyed := Table.key_of_find? present
    let change := setExecuting now (found.attempts + 1)
      (lastDigest (journal.writeExecuting key action now found.attempts).events.rows)
    exact ⟨_, change row, rfl, rfl, ⟨_, rfl, rfl⟩, rfl, keyed,
      reads.actionDigest.symm.trans same, lastDigest_append .., rfl,
      mem_updated present change (fun _ => rfl), .begun action now _ row found present read ready,
      .inr ⟨row, present, rfl, rfl, rfl, rfl⟩⟩
  | finished _ outcome row closing present same =>
    have keyed := Table.key_of_find? present
    let change := setFinished outcome.state outcome.receipt outcome.sourceVersion outcome.now
      (lastDigest (journal.writeFinished key tx.action outcome.state outcome.receipt
        outcome.sourceVersion outcome.now outcome.reason).events.rows)
    refine ⟨_, change row, rfl, rfl, ⟨_, rfl, rfl⟩, rfl, keyed, same,
      lastDigest_append .., rfl, mem_updated present change (fun _ => rfl),
      .finished tx outcome _ row closing present, .inr ⟨row, present, ?_, rfl, rfl, rfl⟩⟩
    have other := closing_state closing
    simp only [EventRow.isPrepared, nextEvent, beq_eq_false_iff_ne]
    exact fun prepared => other (DurableActionState.value_injective prepared)

/-! ## The relation of the two tables -/

/-- What holds between a journal and its history. -/
structure Consistent (key : IntegrityKey) (history : History) (journal : Journal) : Prop where
  /-- The events are those of the history. -/
  events : journal.events.rows = history.map Prod.snd
  /-- They are a chain. -/
  linked : Chain.Linked EventRow.previousDigest EventRow.digest genesis journal.events.rows
  /-- They are signed. -/
  signed : AllSigned key journal.events.rows
  /-- Every event is about a binding that has a record. -/
  kept : ∀ entry ∈ history, ∃ row ∈ journal.records.rows, row.binding = entry.1
  /-- A record names the last event of its binding, and has its type as state. -/
  current : ∀ row ∈ journal.records.rows, ∃ event, history.last? row.binding = some event ∧
    row.journalDigest = event.digest ∧ row.state = event.eventType
  /-- A record has a prepared event. -/
  opened : ∀ row ∈ journal.records.rows,
    ∃ event, (row.binding, event) ∈ history ∧ event.isPrepared = true
  /-- A prepared event is the one its record was prepared with. -/
  preparedBy : ∀ entry ∈ history, entry.2.isPrepared = true →
    ∀ row ∈ journal.records.rows, row.binding = entry.1 → row.PreparedBy entry.2
  /-- No binding is prepared twice. -/
  once : ((history.filter fun entry => entry.2.isPrepared).map Prod.fst).Nodup
  /-- The first event is a prepared one. -/
  first : ∀ entry, history.head? = some entry → entry.2.isPrepared = true

/-- What holds besides when SHA-256 has no collision: a record and its last event name the
action of one plan. -/
structure Identified (history : History) (journal : Journal) : Prop where
  /-- A record is bound to a plan. -/
  planned : ∀ row ∈ journal.records.rows,
    ∃ plan : SourceActionPlan, row.actionId = plan.actionId ∧ row.actionDigest = plan.digest
  /-- The last event of its binding names its action. -/
  named : ∀ row ∈ journal.records.rows, ∀ event, history.last? row.binding = some event →
    event.actionId = row.actionId

/-- An empty journal. -/
theorem consistent_empty (key : IntegrityKey) : Consistent key [] Journal.empty := by
  constructor <;> simp [Journal.empty, Table.empty, Chain.Linked, AllSigned]

/-- An empty journal. -/
theorem identified_empty : Identified [] Journal.empty := by
  constructor <;> simp [Journal.empty, Table.empty]

variable {key : IntegrityKey} {history : History} {journal after : Journal}
  {tx : JournalTx} {event : EventRow} {written : RecordRow}

/-- The written record is in the table. -/
theorem Write.member (write : Write key journal after tx event written) :
    written ∈ after.records.rows := (write.records written).mpr (.inl rfl)

/-- The written record is found under the action's binding. -/
theorem Write.present (write : Write key journal after tx event written) :
    after.records.find? tx.action.binding = some written := by
  have found := Table.find?_of_mem write.member
  rwa [write.binding] at found

/-- After a write its binding has the written record, and other bindings what they had. -/
theorem Write.find? (write : Write key journal after tx event written) (binding : Binding) :
    after.records.find? binding =
      if tx.action.binding = binding then some written else journal.records.find? binding := by
  split
  · rename_i here
    rw [← here]
    exact write.present
  · rename_i elsewhere
    cases found : journal.records.find? binding with
    | some row =>
      have keyed := Table.key_of_find? found
      have kept := (write.records row).mpr
        (.inr ⟨Table.mem_of_find? found, by rw [keyed]; exact Ne.symm elsewhere⟩)
      have again := Table.find?_of_mem kept
      rwa [keyed] at again
    | none =>
      cases now : after.records.find? binding with
      | none => rfl
      | some row =>
        have keyed := Table.key_of_find? now
        rcases (write.records row).mp (Table.mem_of_find? now) with rfl | ⟨old, -⟩
        · exact absurd (write.binding.symm.trans keyed) elsewhere
        · exact absurd keyed (Table.absent found row old)

/-- A written record has the action id of the action, when SHA-256 has no collision. -/
theorem Write.actionId (injective : Sha256Injective) (identified : Identified history journal)
    (write : Write key journal after tx event written) :
    written.actionId = tx.action.actionId := by
  rcases write.origin with ⟨-, -, same, -⟩ | ⟨row, present, -, same, bound, -⟩
  · exact same
  · obtain ⟨plan, identity, digest⟩ := identified.planned row (Table.mem_of_find? present)
    have digests : plan.digest = tx.action.digest := by
      rw [← digest, ← bound, write.bound]
    rw [same, identity]
    exact SourceActionPlan.actionId_of_digest injective digests

/-- A write keeps the relation. -/
theorem Consistent.write (consistent : Consistent key history journal)
    (write : Write key journal after tx event written) :
    Consistent key (history ++ [(tx.action.binding, event)]) after where
  events := by rw [write.events, consistent.events]; simp
  linked := by
    rw [write.events]
    exact Chain.linked_snoc consistent.linked (write.chained.trans (lastDigest_eq_tip _))
  signed := by
    rw [write.events]
    intro row member
    rcases List.mem_append.mp member with old | new
    · exact consistent.signed row old
    · obtain rfl := List.mem_singleton.mp new
      exact write.signed
  kept := by
    intro entry member
    rcases List.mem_append.mp member with old | new
    · obtain ⟨row, inside, same⟩ := consistent.kept entry old
      by_cases touched : row.binding = tx.action.binding
      · exact ⟨written, write.member, write.binding.trans (touched.symm.trans same)⟩
      · exact ⟨row, (write.records row).mpr (.inr ⟨inside, touched⟩), same⟩
    · obtain rfl := List.mem_singleton.mp new
      exact ⟨written, write.member, write.binding⟩
  current := by
    intro row member
    rw [History.last?_snoc]
    rcases (write.records row).mp member with rfl | ⟨old, elsewhere⟩
    · rw [if_pos write.binding.symm]
      exact ⟨event, rfl, write.digest, write.state⟩
    · rw [if_neg (Ne.symm elsewhere)]
      exact consistent.current row old
  opened := by
    intro row member
    rcases (write.records row).mp member with rfl | ⟨old, -⟩
    · rw [write.binding]
      rcases write.origin with ⟨-, prepared, -⟩ | ⟨before, present, -⟩
      · exact ⟨event, by simp, prepared⟩
      · obtain ⟨opening, inside, prepared⟩ :=
          consistent.opened before (Table.mem_of_find? present)
        rw [Table.key_of_find? present] at inside
        exact ⟨opening, by simp [inside], prepared⟩
    · obtain ⟨opening, inside, prepared⟩ := consistent.opened row old
      exact ⟨opening, by simp [inside], prepared⟩
  preparedBy := by
    intro entry inside prepared row member same
    rcases List.mem_append.mp inside with old | new
    · rcases (write.records row).mp member with rfl | ⟨before, -⟩
      · rcases write.origin with ⟨missing, -⟩ | ⟨before, present, -, identity, -, attributes⟩
        · -- the history cannot hold an event of a binding without a record
          obtain ⟨other, there, here⟩ := consistent.kept entry old
          exact absurd (here.trans (same.symm.trans write.binding)) (Table.absent missing other there)
        · have earlier := consistent.preparedBy entry old prepared before
            (Table.mem_of_find? present)
            ((Table.key_of_find? present).trans (write.binding.symm.trans same))
          exact earlier.transfer identity attributes
      · exact consistent.preparedBy entry old prepared row before same
    · obtain rfl := List.mem_singleton.mp new
      rcases (write.records row).mp member with rfl | ⟨-, elsewhere⟩
      · rcases write.origin with ⟨-, -, -, by_event⟩ | ⟨-, -, other, -⟩
        · exact by_event
        · simp [other] at prepared
      · exact absurd same elsewhere
  once := by
    rw [List.filter_append, List.map_append, List.nodup_append]
    refine ⟨consistent.once, ?_, ?_⟩
    · cases prepared : event.isPrepared <;> simp [prepared]
    · intro left earlier right later same
      obtain ⟨entry, inside, rfl⟩ := List.mem_map.mp earlier
      obtain ⟨last, here, rfl⟩ := List.mem_map.mp later
      simp only [List.mem_filter, List.mem_singleton] at inside here
      obtain ⟨rfl, prepared⟩ := here
      rcases write.origin with ⟨missing, -⟩ | ⟨-, -, other, -⟩
      · obtain ⟨row, there, keyed⟩ := consistent.kept entry inside.1
        exact Table.absent missing row there (keyed.trans same)
      · simp [other] at prepared
  first := by
    intro entry head
    cases history with
    | cons front rest => exact consistent.first entry (by simpa using head)
    | nil =>
      obtain rfl : (tx.action.binding, event) = entry := by simpa using head
      rcases write.origin with ⟨-, prepared, -⟩ | ⟨row, present, -⟩
      · exact prepared
      · obtain ⟨opening, inside, -⟩ := consistent.opened row (Table.mem_of_find? present)
        cases inside

/-- A write keeps the names. -/
theorem Identified.write (injective : Sha256Injective) (identified : Identified history journal)
    (write : Write key journal after tx event written) :
    Identified (history ++ [(tx.action.binding, event)]) after where
  planned := by
    intro row member
    rcases (write.records row).mp member with rfl | ⟨old, -⟩
    · exact ⟨tx.action, write.actionId injective identified, write.bound⟩
    · exact identified.planned row old
  named := by
    intro row member last found
    rw [History.last?_snoc] at found
    rcases (write.records row).mp member with rfl | ⟨old, elsewhere⟩
    · rw [if_pos write.binding.symm] at found
      obtain rfl := Option.some.inj found
      exact write.identity.trans (write.actionId injective identified).symm
    · rw [if_neg (Ne.symm elsewhere)] at found
      exact identified.named row old last found

/-- A transaction that leaves a journal as it is appends nothing. -/
theorem appended_of_eq (same : journal.commit key tx = journal) :
    journal.appended key tx = [] := by
  simp [Journal.appended, same]

/-- A write appends its event. -/
theorem Write.appended (write : Write key journal (journal.commit key tx) tx event written) :
    journal.appended key tx = [event] := by
  simp [Journal.appended, write.events]

/-- Every transaction keeps the relation. -/
theorem Consistent.commit (consistent : Consistent key history journal) (tx : JournalTx) :
    Consistent key
      (history ++ (journal.appended key tx).map fun event => (tx.action.binding, event))
      (journal.commit key tx) := by
  rcases Journal.commit_cases key journal tx with same | wrote
  · simpa [appended_of_eq same, same] using consistent
  · obtain ⟨event, written, write⟩ := wrote.write
    rw [write.appended]
    exact consistent.write write

/-- Every transaction keeps the names. -/
theorem Identified.commit (injective : Sha256Injective) (identified : Identified history journal)
    (key : IntegrityKey) (tx : JournalTx) :
    Identified (history ++ (journal.appended key tx).map fun event => (tx.action.binding, event))
      (journal.commit key tx) := by
  rcases Journal.commit_cases key journal tx with same | wrote
  · simpa [appended_of_eq same, same] using identified
  · obtain ⟨event, written, write⟩ := wrote.write
    rw [write.appended]
    exact identified.write injective write

/-- What the record of every write has, when all records before it have, every record of a replay
has. -/
theorem replay_rows (key : IntegrityKey) {txs : List JournalTx} {kind : RecordRow → Prop}
    (kept : ∀ tx ∈ txs, ∀ (journal : Journal) (written : RecordRow),
      Rewritten journal tx written → (∀ row ∈ journal.records.rows, kind row) → kind written) :
    ∀ row ∈ (Journal.replay key .empty txs).records.rows, kind row := by
  induction txs using List.reverseRecOn with
  | nil => exact fun row member => absurd member List.not_mem_nil
  | append_singleton txs tx ih =>
    have before := ih fun other member => kept other (List.mem_append_left _ member)
    rw [Journal.replay_snoc]
    rcases Journal.commit_cases key (Journal.replay key .empty txs) tx with same | wrote
    · rw [same]
      exact before
    · obtain ⟨event, written, write⟩ := wrote.write
      intro row member
      rcases (write.records row).mp member with rfl | ⟨old, -⟩
      · exact kept tx (by simp) _ _ write.change before
      · exact before row old

/-- Every journal the API produces is consistent with its history. -/
theorem replay_consistent (key : IntegrityKey) (txs : List JournalTx) :
    Consistent key (Journal.history key .empty txs) (Journal.replay key .empty txs) := by
  induction txs using List.reverseRecOn with
  | nil => exact consistent_empty key
  | append_singleton txs tx ih =>
    rw [Journal.history_snoc, Journal.replay_snoc]
    exact ih.commit tx

/-- Records and events of every journal the API produces name one action, when SHA-256 has no
collision. -/
theorem replay_identified (injective : Sha256Injective) (key : IntegrityKey)
    (txs : List JournalTx) :
    Identified (Journal.history key .empty txs) (Journal.replay key .empty txs) := by
  induction txs using List.reverseRecOn with
  | nil => exact identified_empty
  | append_singleton txs tx ih =>
    rw [Journal.history_snoc, Journal.replay_snoc]
    exact ih.commit injective key tx

end DataHarness
