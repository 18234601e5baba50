import DataHarness.Durability.Soundness

/-!
# What verification detects

Two edits of a journal the API produced, made without the integrity key. When only the event
rows change, verification accepts nothing but the original rows. When only the record rows
change it misses what authentic older data can hide: a deleted record, and a record that names
another event of its action. A whole older record table verifies against the later events
(`rollback_verifies`).
-/

namespace DataHarness

/-- Two event rows agree, their attributes as parsed JSON. -/
structure EventRow.SameAs (row original : EventRow) : Prop where
  sequence : row.sequence = original.sequence
  eventType : row.eventType = original.eventType
  actionId : row.actionId = original.actionId
  occurredAt : row.occurredAt = original.occurredAt
  previousDigest : row.previousDigest = original.previousDigest
  digest : row.digest = original.digest
  attributes : ∃ edited parsed, row.attributes.loads = .ok edited ∧
    original.attributes.loads = .ok parsed ∧ Json.canonical edited = Json.canonical parsed

/-- Attributes that match a record hold its texts. -/
theorem mem_of_preparedMatches {members : List (String × Json.Value)} {row : RecordRow}
    (fields : preparedMatches members row = true) :
    ∀ item ∈ row.preparedAttributes, item ∈ members := by
  have held : ∀ {field text : String}, fieldIs members field text = true →
      (field, Json.Value.str text) ∈ members := by
    intro field text found
    simp only [fieldIs] at found
    split at found
    · rename_i value named
      cases value with
      | str other =>
        obtain rfl : other = text := by simpa [isText] using found
        exact Table.mem_of_lookup named
      | _ => simp [isText] at found
    · cases found
  simp only [preparedMatches, Bool.and_eq_true] at fields
  obtain ⟨⟨⟨source, idempotency⟩, action⟩, decision⟩ := fields
  simp [RecordRow.preparedAttributes, held source, held idempotency, held action, held decision]

/-- Records whose prepared attributes share their texts have one binding. -/
theorem binding_of_preparedAttributes {row other : RecordRow}
    (shared : ∀ item ∈ row.preparedAttributes, item ∈ other.preparedAttributes) :
    row.binding = other.binding := by
  have source := shared ("source_id", .str row.sourceId) (by simp [RecordRow.preparedAttributes])
  have idempotency := shared ("idempotency_key", .str row.idempotencyKey)
    (by simp [RecordRow.preparedAttributes])
  simp only [RecordRow.preparedAttributes, List.mem_cons, Prod.mk.injEq, Json.Value.str.injEq,
    List.not_mem_nil, String.reduceEq, false_and, or_false, true_and, false_or] at source idempotency
  exact Prod.ext source idempotency

/-- A journal is its two tables. -/
theorem Journal.tables (journal : Journal) :
    (⟨journal.records, journal.events⟩ : Journal) = journal := rfl

section Edits

variable [Stdlib]

/-- No signature in the rows is new: what they sign, the events of a journal sign. -/
def Unforged (key : IntegrityKey) (rows originals : List EventRow) : Prop :=
  ∀ row ∈ rows, ∀ attributes, row.Signed key attributes →
    ∃ original ∈ originals, ∃ parsed, original.Signed key parsed ∧
      Json.dumps (row.body attributes) = Json.dumps (original.body parsed)

/-- The original rows are not forged. -/
theorem Unforged.refl (key : IntegrityKey) (rows : List EventRow) : Unforged key rows rows :=
  fun row member attributes signed => ⟨row, member, attributes, signed, rfl⟩

variable {key : IntegrityKey} {history : History} {journal : Journal}

/-- A row that signs what another one signs is the same row. -/
theorem EventRow.SameAs.of_signed {row original : EventRow} {attributes parsed : Json.Value}
    (edited : row.Signed key attributes) (signed : original.Signed key parsed)
    (same : Json.dumps (row.body attributes) = Json.dumps (original.body parsed)) :
    row.SameAs original := by
  obtain ⟨sequence, eventType, actionId, occurredAt, content, previous⟩ :=
    eventBody_canonical (Json.dumps_injective same)
  refine ⟨sequence, eventType, actionId, occurredAt, previous, ?_,
    attributes, parsed, edited.1, signed.1, content⟩
  rw [edited.2, signed.2, keyedDigest, keyedDigest, same]

/-- Every row of a verified log without forged signatures is one of the originals. -/
theorem known_of_unforged {rows originals : List EventRow} (signed : AllSigned key rows)
    (unforged : Unforged key rows originals) :
    ∀ row ∈ rows, ∃ original ∈ originals, row.SameAs original := by
  intro row member
  obtain ⟨attributes, edited⟩ := signed row member
  obtain ⟨original, among, parsed, authentic, same⟩ := unforged row member attributes edited
  exact ⟨original, among, .of_signed edited authentic same⟩

/-! ## Edited events -/

/-- Two prepared events of one binding are one. -/
theorem Consistent.prepared_unique (consistent : Consistent key history journal)
    {left right : Binding × EventRow} (first : left ∈ history) (second : right ∈ history)
    (leftKind : left.2.isPrepared = true) (rightKind : right.2.isPrepared = true)
    (same : left.1 = right.1) : left = right :=
  List.inj_on_of_nodup_map consistent.once (by simp [first, leftKind])
    (by simp [second, rightKind]) same

/-- The last event of a history is named by a record. -/
theorem Consistent.last_named (consistent : Consistent key history journal) {event : EventRow}
    (last : journal.events.rows.getLast? = some event) :
    ∃ row ∈ journal.records.rows, row.journalDigest = event.digest := by
  rw [consistent.events, List.getLast?_map] at last
  obtain ⟨entry, found, rfl⟩ := Option.map_eq_some_iff.mp last
  obtain ⟨row, member, keyed⟩ := consistent.kept entry (List.mem_of_getLast? found)
  obtain ⟨current, latest, digest, -⟩ := consistent.current row member
  refine ⟨row, member, digest.trans ?_⟩
  obtain ⟨front, rfl⟩ := List.getLast?_eq_some_iff.mp found
  rw [History.last?_snoc _ entry.1 row.binding entry.2, if_pos keyed.symm] at latest
  rw [Option.some.inj latest]

/-- Edited events that verify hold the first event of the journal: it is the only prepared
event that matches its record. -/
theorem Consistent.first_kept (consistent : Consistent key history journal) {events : EventLog}
    (unforged : Unforged key events.rows journal.events.rows)
    (verified : (⟨journal.records, events⟩ : Journal).verify key = .ok true) {event : EventRow}
    (first : journal.events.rows.head? = some event) :
    event.digest ∈ events.rows.map EventRow.digest := by
  rw [consistent.events, List.head?_map] at first
  obtain ⟨entry, head, rfl⟩ := Option.map_eq_some_iff.mp first
  have opening := List.mem_of_head? head
  obtain ⟨row, member, keyed⟩ := consistent.kept entry opening
  obtain ⟨-, signed, accepted⟩ := verify_iff.mp verified
  obtain ⟨_, members, _, -, -, -, bound, fields, -⟩ :=
    verifyRecord_eq_true.mp (accepted row member)
  obtain ⟨named, inside, kind, identity, loaded⟩ := lookup_prepared bound
  obtain ⟨original, among, same⟩ := known_of_unforged signed unforged named inside
  rw [consistent.events] at among
  obtain ⟨other, there, rfl⟩ := List.mem_map.mp among
  have otherKind : other.2.isPrepared = true := by simp [EventRow.isPrepared, ← same.eventType, kind]
  obtain ⟨owner, owned, ownerKeyed⟩ := consistent.kept other there
  have prepared := consistent.preparedBy other there otherKind owner owned ownerKeyed
  have shared : ∀ item ∈ row.preparedAttributes, item ∈ owner.preparedAttributes := by
    obtain ⟨edited, parsed, read, kept, canonical⟩ := same.attributes
    obtain rfl := Except.ok.inj (loaded.symm.trans read)
    rw [prepared.attributes] at kept
    obtain rfl := Except.ok.inj kept
    intro item needed
    have text := mem_of_preparedMatches fields item needed
    simp only [RecordRow.preparedAttributes, List.mem_cons, List.not_mem_nil, or_false] at needed
    rcases needed with rfl | rfl | rfl | rfl <;>
      exact Json.str_member_of_canonical canonical text
  have one : other = entry := consistent.prepared_unique there opening otherKind
    (consistent.first entry head)
    (ownerKeyed.symm.trans ((binding_of_preparedAttributes shared).symm.trans keyed))
  rw [← one, ← same.digest]
  exact List.mem_map.mpr ⟨named, inside, rfl⟩

/-- Edited events that verify, without a forged signature, are the events of the journal. -/
theorem events_untampered (injective : HmacInjective) (key : IntegrityKey)
    (txs : List JournalTx) (events : EventLog)
    (unforged : Unforged key events.rows (Journal.replay key .empty txs).events.rows)
    (verified : (⟨(Journal.replay key .empty txs).records, events⟩ : Journal).verify key =
      .ok true) :
    List.Forall₂ EventRow.SameAs events.rows (Journal.replay key .empty txs).events.rows := by
  have consistent := replay_consistent key txs
  obtain ⟨linked, signed, accepted⟩ := verify_iff.mp verified
  have distinct := digests_nodup injective _ consistent.signed
  obtain ⟨front, middle, back, split, matched⟩ := Chain.segment consistent.linked distinct
    (Journal.replay key .empty txs).events.ordered
    (fun row original same => ⟨same.sequence, same.previousDigest, same.digest⟩) linked
    events.ordered (known_of_unforged signed unforged)
  refine Chain.whole distinct (fun row original same => same.digest) split matched
    (fun event first => consistent.first_kept unforged verified first) ?_
  intro event last
  obtain ⟨row, member, digest⟩ := consistent.last_named last
  obtain ⟨named, _, _, found, -⟩ := verifyRecord_eq_true.mp (accepted row member)
  obtain ⟨inside, same⟩ := (lookup_event (digests_nodup injective events signed)).mp found
  rw [← digest, ← same]
  exact List.mem_map.mpr ⟨named, inside, rfl⟩

/-! ## Edited records -/

/-- Every binding with a prepared event has a record, in the state of the last event appended
for it. -/
def RecordsCurrent (history : History) (journal : Journal) : Prop :=
  ∀ entry ∈ history, entry.2.isPrepared = true → ∃ row ∈ journal.records.rows,
    row.binding = entry.1 ∧ (history.last? entry.1).map EventRow.eventType = some row.state

/-- An edit of the records that deletes or renames none of them, and leaves each naming an
event of the type it named before. -/
def KeepsPlace (original edited : Journal) : Prop :=
  ∀ row ∈ original.records.rows, ∃ other ∈ edited.records.rows, other.binding = row.binding ∧
    ∃ before ∈ original.events.rows, ∃ after ∈ original.events.rows,
      row.journalDigest = before.digest ∧ other.journalDigest = after.digest ∧
        after.eventType = before.eventType

/-- A record of a verified journal has the type of the event it names. -/
theorem state_of_verify (injective : HmacInjective) (verified : journal.verify key = .ok true)
    {row : RecordRow} (member : row ∈ journal.records.rows) :
    ∃ event ∈ journal.events.rows, row.journalDigest = event.digest ∧
      row.state = event.eventType := by
  obtain ⟨-, signed, accepted⟩ := verify_iff.mp verified
  obtain ⟨event, _, _, named, -, kind, -⟩ := verifyRecord_eq_true.mp (accepted row member)
  obtain ⟨inside, digest⟩ :=
    (lookup_event (digests_nodup injective journal.events signed)).mp named
  exact ⟨event, inside, digest.symm, kind.symm⟩

/-- The last event of a binding is in the journal. -/
theorem Consistent.last_mem (consistent : Consistent key history journal) {binding : Binding}
    {event : EventRow} (last : history.last? binding = some event) :
    event ∈ journal.events.rows := by
  rw [consistent.events]
  exact List.mem_map.mpr ⟨_, History.mem_of_last? last, rfl⟩

/-- When only the records of a journal were edited and verification still succeeds, every
record is current exactly when the edit kept the place of each. -/
theorem records_current_iff (injective : HmacInjective) (key : IntegrityKey)
    (txs : List JournalTx) (records : Table RecordRow Binding RecordRow.binding)
    (verified : (⟨records, (Journal.replay key .empty txs).events⟩ : Journal).verify key =
      .ok true) :
    RecordsCurrent (Journal.history key .empty txs)
        ⟨records, (Journal.replay key .empty txs).events⟩ ↔
      KeepsPlace (Journal.replay key .empty txs)
        ⟨records, (Journal.replay key .empty txs).events⟩ := by
  have consistent := replay_consistent key txs
  have distinct := digests_nodup injective _ consistent.signed
  constructor
  · intro current row member
    obtain ⟨opening, inside, prepared⟩ := consistent.opened row member
    obtain ⟨other, among, keyed, latest⟩ := current _ inside prepared
    obtain ⟨last, found, digest, state⟩ := consistent.current row member
    obtain ⟨named, listed, names, kind⟩ := state_of_verify injective verified among
    rw [found, Option.map_some, Option.some.injEq] at latest
    exact ⟨other, among, keyed, last, consistent.last_mem found, named, listed, digest, names,
      kind.symm.trans latest.symm⟩
  · intro keeps entry inside prepared
    obtain ⟨row, member, keyed⟩ := consistent.kept entry inside
    obtain ⟨other, among, same, before, first, after, second, was, names, kind⟩ :=
      keeps row member
    obtain ⟨last, found, digest, state⟩ := consistent.current row member
    obtain ⟨named, listed, here, type⟩ := state_of_verify injective verified among
    obtain rfl : before = last := Chain.eq_of_digest distinct first (consistent.last_mem found)
      (was.symm.trans digest)
    obtain rfl : after = named := Chain.eq_of_digest distinct second listed (names.symm.trans here)
    refine ⟨other, among, same.trans keyed, ?_⟩
    rw [← keyed, found, Option.map_some, type, kind]

/-- The history of more transactions goes on from the history so far. -/
theorem history_append (key : IntegrityKey) (txs more : List JournalTx) :
    ∃ later, Journal.history key .empty (txs ++ more) = Journal.history key .empty txs ++ later := by
  induction more using List.reverseRecOn with
  | nil => exact ⟨[], by simp⟩
  | append_singleton more tx ih =>
    obtain ⟨later, same⟩ := ih
    rw [← List.append_assoc, Journal.history_snoc, same]
    exact ⟨_, List.append_assoc _ _ _⟩

/-- An older record table verifies against the events of today: no edit back to an earlier
state of all records is detected. -/
theorem rollback_verifies (collisions : Sha256Injective) (injective : HmacInjective)
    (key : IntegrityKey) (txs more : List JournalTx) (bound : ∀ tx ∈ txs, tx.Bound)
    (unfailed : ∀ row ∈ (Journal.replay key .empty txs).records.rows,
      row.state ≠ DurableActionState.failed.value)
    (actions : (Journal.replay key .empty (txs ++ more)).DistinctActions) :
    (⟨(Journal.replay key .empty txs).records, (Journal.replay key .empty (txs ++ more)).events⟩ :
      Journal).verify key = .ok true := by
  have earlier := replay_consistent key txs
  have later := replay_consistent key (txs ++ more)
  obtain ⟨rest, grown⟩ := history_append key txs more
  refine verify_iff.mpr ⟨later.linked, later.signed, ?_⟩
  intro row member
  obtain ⟨event, last, digest, state⟩ := earlier.current row member
  have listed : event ∈ (Journal.replay key .empty (txs ++ more)).events.rows := by
    rw [later.events, grown]
    exact List.mem_map.mpr ⟨_, List.mem_append_left _ (History.mem_of_last? last), rfl⟩
  obtain ⟨opening, inside, prepared⟩ := earlier.opened row member
  have stays : (row.binding, opening) ∈ Journal.history key .empty (txs ++ more) := by
    rw [grown]
    exact List.mem_append_left _ inside
  obtain ⟨owner, owned, keyed⟩ := later.kept _ stays
  have then_by := earlier.preparedBy _ inside prepared row member rfl
  have now_by := later.preparedBy _ stays prepared owner owned keyed
  have attributes : row.preparedAttributes = owner.preparedAttributes := by
    have same := then_by.attributes.symm.trans now_by.attributes
    exact Json.Value.obj.inj (JsonText.holds.inj same)
  have remembered := later.remembered actions owned
  rw [← now_by.action, then_by.action, ← attributes] at remembered
  obtain ⟨decoded, receipt, shape⟩ := replay_shaped key txs row member
  refine (verifyRecord_iff (digests_nodup injective _ later.signed) listed digest
    ((replay_identified collisions key txs).named row member event last) state remembered shape
    fun stored kept => ?_).mpr (unfailed row member)
  exact replay_receiptsBound collisions key txs bound row member decoded stored (kept ▸ shape)

/-- An execution that was begun and has no outcome. -/
def dispatched : List JournalTx :=
  (executed .first).take 2

/-- Its receipts, of which there are none, are bound. -/
theorem dispatched_bound : ∀ tx ∈ dispatched, tx.Bound :=
  fun tx member => executed_bound _ tx (List.mem_of_mem_take member)

/-- What verification asks of small runs. -/
theorem verify_small (collisions : Sha256Injective) (injective : HmacInjective)
    {txs : List JournalTx} (bound : ∀ tx ∈ txs, tx.Bound) (succeed : ∀ tx ∈ txs, tx.fails = false)
    (actions : (Journal.replay .small .empty txs).DistinctActions) :
    (Journal.replay .small .empty txs).verify .small = .ok true :=
  (verify_replay_iff collisions injective .small txs bound).mpr
    ⟨actions, replay_unfailed .small txs succeed⟩

end Edits

/-- A journal holds no forged events itself. -/
theorem events_untampered_dispatched : letI := Stdlib.transparent
    List.Forall₂ EventRow.SameAs (Journal.replay .small .empty dispatched).events.rows
      (Journal.replay .small .empty dispatched).events.rows := by
  have verified := @verify_small Stdlib.transparent Stdlib.transparent_sha256
    Stdlib.transparent_hmac _ (@dispatched_bound Stdlib.transparent) (by decide)
    (by decide +kernel)
  rw [← Journal.tables (@Journal.replay Stdlib.transparent .small .empty _)] at verified
  exact @events_untampered Stdlib.transparent Stdlib.transparent_hmac .small _ _
    (@Unforged.refl Stdlib.transparent .small _) verified

/-- The records of a journal are set back to what they were before the execution was begun. -/
abbrev rolledBack : letI := Stdlib.transparent; Journal :=
  letI := Stdlib.transparent
  ⟨(Journal.replay .small .empty (dispatched.take 1)).records,
    (Journal.replay .small .empty dispatched).events⟩

/-- The actions of that journal are distinct. -/
theorem dispatched_distinct : letI := Stdlib.transparent
    (Journal.replay .small .empty dispatched).DistinctActions := by decide +kernel

/-- The edit passes verification. -/
theorem rolledBack_verifies : letI := Stdlib.transparent
    rolledBack.verify .small = .ok true := by
  let := Stdlib.transparent
  exact rollback_verifies Stdlib.transparent_sha256 Stdlib.transparent_hmac .small
    (dispatched.take 1) (dispatched.drop 1)
    (fun tx member => dispatched_bound tx (List.mem_of_mem_take member))
    (replay_unfailed .small _ (by decide)) dispatched_distinct

/-- The last event of the binding is executing, and its record is prepared. -/
theorem rolledBack_stale : letI := Stdlib.transparent
    ¬ RecordsCurrent (Journal.history .small .empty dispatched) rolledBack := by
  unfold RecordsCurrent
  decide +kernel

/-- A record that is set back does not keep its place. -/
theorem records_current_dispatched : letI := Stdlib.transparent
    ¬ KeepsPlace (Journal.replay .small .empty dispatched) rolledBack := by
  let := Stdlib.transparent
  intro keeps
  exact rolledBack_stale ((records_current_iff Stdlib.transparent_hmac .small dispatched
    (Journal.replay .small .empty (dispatched.take 1)).records rolledBack_verifies).mpr keeps)

/-- A record set back from executing to prepared, with its older authentic digest, passes
verification although the last event of its binding is executing. -/
theorem rolled_back_accepted : letI := Stdlib.transparent
    (Journal.replay .small .empty dispatched).verify .small = .ok true ∧
      (⟨(Journal.replay .small .empty (dispatched.take 1)).records,
        (Journal.replay .small .empty dispatched).events⟩ : Journal).verify .small = .ok true ∧
      ¬ RecordsCurrent (Journal.history .small .empty dispatched)
        ⟨(Journal.replay .small .empty (dispatched.take 1)).records,
          (Journal.replay .small .empty dispatched).events⟩ := by
  let := Stdlib.transparent
  exact ⟨verify_small Stdlib.transparent_sha256 Stdlib.transparent_hmac dispatched_bound
    (by decide) dispatched_distinct, rolledBack_verifies, rolledBack_stale⟩

end DataHarness
