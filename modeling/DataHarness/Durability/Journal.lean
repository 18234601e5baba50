import DataHarness.Actions
import DataHarness.Library.Table

/-!
# The durable action journal

Two tables: one record a binding, and a chain of events under a keyed digest. A transaction
reads and writes both at once; one that raises leaves them as they were. Text columns the
journal reads back as JSON are kept as what `json.loads` makes of them, so two texts of one
value are not told apart; all other columns are their text.
-/

namespace DataHarness

/-- The state of a durable record. -/
inductive DurableActionState
  | prepared
  | executing
  | executed
  | failed
  | reconciliationRequired
deriving DecidableEq

namespace DurableActionState

/-- The text of a state. -/
def value : DurableActionState → String
  | .prepared => "prepared"
  | .executing => "executing"
  | .executed => "executed"
  | .failed => "failed"
  | .reconciliationRequired => "reconciliation-required"

/-- `DurableActionState(text)`, none where it raises. -/
def ofValue (text : String) : Option DurableActionState :=
  [prepared, executing, executed, failed, reconciliationRequired].find? fun state =>
    state.value == text

/-- Every state is read back from its text. -/
@[simp] theorem ofValue_value (state : DurableActionState) : ofValue state.value = some state := by
  cases state <;> decide

/-- The text a state is read from is its own. -/
theorem value_of_ofValue {text : String} {state : DurableActionState}
    (read : ofValue text = some state) : state.value = text := by
  simpa using List.find?_some read

/-- States with one text are one state. -/
theorem value_injective : Function.Injective value := by
  intro left right same
  have read := ofValue_value left
  rw [same, ofValue_value] at read
  exact (Option.some.inj read).symm

end DurableActionState

/-- A text column as `json.loads` sees it. -/
inductive JsonText
  | empty
  | malformed
  | holds (value : Json.Value)

/-- `json.loads(text)`. -/
def JsonText.loads : JsonText → Except ActionError Json.Value
  | .holds value => .ok value
  | .empty => .error (.valueError "JSONDecodeError")
  | .malformed => .error (.valueError "JSONDecodeError")

/-- A row of `action_events`. -/
structure EventRow where
  sequence : Int
  eventType : String
  actionId : String
  occurredAt : String
  attributes : JsonText
  previousDigest : String
  digest : String

/-- A row of `action_records`. -/
structure RecordRow where
  sourceId : String
  idempotencyKey : String
  actionId : String
  actionDigest : String
  state : String
  policyDecisionId : String
  startedAt : String
  updatedAt : String
  attempts : Int
  sourceVersion : Option String
  receipt : Option JsonText
  journalDigest : String

/-- The primary key of `action_records`. -/
def RecordRow.binding (row : RecordRow) : Binding := (row.sourceId, row.idempotencyKey)

/-- `DurableActionRecord`: a row read back. -/
structure DurableActionRecord where
  sourceId : String
  idempotencyKey : String
  actionId : String
  actionDigest : String
  state : DurableActionState
  policyDecisionId : String
  startedAt : DateTime
  updatedAt : DateTime
  attempts : Int
  sourceVersion : Option String
  receipt : Option StoredReceipt
  journalDigest : String

/-- The binding of a record. -/
def DurableActionRecord.binding (record : DurableActionRecord) : Binding :=
  (record.sourceId, record.idempotencyKey)

/-! ## Events -/

/-- The key of a journal; at least 128 bits are required. -/
structure IntegrityKey where
  /-- The key material. -/
  bytes : List UInt8
  /-- Journal integrity requires at least 128 bits of key material. -/
  enough : 16 ≤ bytes.length

/-- A key of 128 bits. -/
def IntegrityKey.small : IntegrityKey := ⟨List.replicate 16 0, by decide⟩

/-- The digest before the first event. -/
def genesis : String := "hmac-sha256:" ++ String.ofList (List.replicate 64 '0')

/-- What an event's digest is taken over. -/
def eventBody (sequence : Int) (eventType actionId occurredAt : String)
    (attributes : Json.Value) (previous : String) : Json.Value :=
  .obj [("sequence", .int sequence), ("event_type", .str eventType), ("action_id", .str actionId),
    ("occurred_at", .str occurredAt), ("attributes", attributes),
    ("previous_digest", .str previous)]

/-- Event bodies with one canonical form agree in every field, the attributes in their
canonical form. -/
theorem eventBody_canonical {sequence sequence' : Int}
    {eventType actionId occurredAt previous eventType' actionId' occurredAt' previous' : String}
    {attributes attributes' : Json.Value}
    (same : Json.canonical (eventBody sequence eventType actionId occurredAt attributes previous) =
      Json.canonical (eventBody sequence' eventType' actionId' occurredAt' attributes' previous')) :
    sequence = sequence' ∧ eventType = eventType' ∧ actionId = actionId' ∧
      occurredAt = occurredAt' ∧ Json.canonical attributes = Json.canonical attributes' ∧
        previous = previous' := by
  have members := Json.members_of_canonical same
  simp only [Json.canonicalMembers, Json.canonical] at members
  refine ⟨?_, ?_, ?_, ?_, ?_, ?_⟩
  · simpa using members ("sequence", .int sequence)
  · simpa using members ("event_type", .str eventType)
  · simpa using members ("action_id", .str actionId)
  · simpa using members ("occurred_at", .str occurredAt)
  · simpa using members ("attributes", Json.canonical attributes)
  · simpa using members ("previous_digest", .str previous)

/-- `action_events`: the rows by their primary key, which increases. -/
structure EventLog where
  /-- The rows in order of sequence. -/
  rows : List EventRow
  /-- The primary key increases along the rows. -/
  ordered : rows.Pairwise fun left right => left.sequence < right.sequence

/-- The sequence of the next event. -/
def nextSequence (rows : List EventRow) : Int :=
  match rows.getLast? with
  | some row => row.sequence + 1
  | none => 1

/-- The digest the next event refers back to. -/
def lastDigest (rows : List EventRow) : String :=
  match rows.getLast? with
  | some row => row.digest
  | none => genesis

/-- Every row comes before the next sequence. -/
theorem lt_nextSequence (log : EventLog) : ∀ row ∈ log.rows, row.sequence < nextSequence log.rows := by
  intro row member
  obtain ⟨rows, ordered⟩ := log
  simp only at member ⊢
  rcases List.eq_nil_or_concat rows with rfl | ⟨front, last, rfl⟩
  · cases member
  · simp only [List.concat_eq_append, nextSequence, List.getLast?_append, List.getLast?_singleton,
      Option.some_or] at member ordered ⊢
    rcases List.mem_append.mp member with before | here
    · have below := (List.pairwise_append.mp ordered).2.2 row before last (by simp)
      omega
    · obtain rfl := List.mem_singleton.mp here
      omega

section Digests

variable [Stdlib]

/-- The event the next call to `_append_event` writes. -/
def nextEvent (key : IntegrityKey) (rows : List EventRow) (eventType actionId : String)
    (occurredAt : DateTime) (attributes : List (String × Json.Value)) : EventRow where
  sequence := nextSequence rows
  eventType := eventType
  actionId := actionId
  occurredAt := isoformat occurredAt
  attributes := .holds (.obj attributes)
  previousDigest := lastDigest rows
  digest := keyedDigest key.bytes (eventBody (nextSequence rows) eventType actionId
    (isoformat occurredAt) (.obj attributes) (lastDigest rows))

/-- `_append_event`. -/
def EventLog.append (log : EventLog) (key : IntegrityKey) (eventType actionId : String)
    (occurredAt : DateTime) (attributes : List (String × Json.Value)) : EventLog where
  rows := log.rows ++ [nextEvent key log.rows eventType actionId occurredAt attributes]
  ordered := by
    rw [List.pairwise_append]
    refine ⟨log.ordered, by simp, ?_⟩
    intro row member last here
    obtain rfl := List.mem_singleton.mp here
    exact lt_nextSequence log row member

end Digests

/-! ## Reading a record -/

/-- `data[name]`. -/
def member (data : Json.Value) (name : String) : Except ActionError Json.Value :=
  match data with
  | .obj members =>
    match members.lookup name with
    | some value => .ok value
    | none => .error (.keyError name)
  | _ => .error (.typeError "indices must be integers")

/-- `ActionState(value)`. -/
def readState : Json.Value → Except ActionError ActionState
  | .str text =>
    match ActionState.ofValue text with
    | some state => .ok state
    | none => .error (.valueError "not a valid ActionState")
  | _ => .error (.valueError "not a valid ActionState")

/-- The value, or none for a null. -/
def nullable : Json.Value → Option Json.Value
  | .null => none
  | value => some value

section Rows

variable [Stdlib]

/-- `datetime.fromisoformat(text)`. -/
def readTime (text : String) : Except ActionError DateTime :=
  match fromisoformat text with
  | some time => .ok time
  | none => .error (.valueError "Invalid isoformat string")

/-- A written time is read back. -/
@[simp] theorem readTime_isoformat (time : DateTime) : readTime (isoformat time) = .ok time := by
  rw [readTime, Stdlib.fromisoformat_isoformat]

/-- `datetime.fromisoformat(value)`. -/
def readTimeValue : Json.Value → Except ActionError DateTime
  | .str text => readTime text
  | _ => .error (.typeError "fromisoformat: argument must be str")

/-- The receipt stored as JSON. -/
def readReceipt (data : Json.Value) : Except ActionError StoredReceipt := do
  let receiptId ← member data "receiptId"
  let actionId ← member data "actionId"
  let actionDigest ← member data "actionDigest"
  let idempotencyKey ← member data "idempotencyKey"
  let state ← (member data "state").bind readState
  let startedAt ← (member data "startedAt").bind readTimeValue
  let completedAt ← (member data "completedAt").bind readTimeValue
  let sourceVersion ← member data "sourceVersion"
  let policyDecisionId ← member data "policyDecisionId"
  let auditDigest ← member data "auditDigest"
  let compensationOf ← member data "compensationOf"
  return ⟨receiptId, actionId, actionDigest, idempotencyKey, state, startedAt, completedAt,
    sourceVersion, policyDecisionId, auditDigest, nullable compensationOf⟩

/-- The receipt column: no receipt when it is NULL, empty text or a falsy value. -/
def readReceiptColumn : Option JsonText → Except ActionError (Option StoredReceipt)
  | none => .ok none
  | some .empty => .ok none
  | some text => do
    let data ← text.loads
    if truthy data then return some (← readReceipt data) else return none

/-- `_record(row)`. -/
def record (row : RecordRow) : Except ActionError DurableActionRecord := do
  let receipt ← readReceiptColumn row.receipt
  let state ← match DurableActionState.ofValue row.state with
    | some state => Except.ok state
    | none => .error (.valueError "not a valid DurableActionState")
  let startedAt ← readTime row.startedAt
  let updatedAt ← readTime row.updatedAt
  return ⟨row.sourceId, row.idempotencyKey, row.actionId, row.actionDigest, state,
    row.policyDecisionId, startedAt, updatedAt, row.attempts, row.sourceVersion, receipt,
    row.journalDigest⟩

/-- What reading a row back gives: its own columns, its state and its receipt decoded. -/
structure RecordRow.Reads (row : RecordRow) (found : DurableActionRecord) : Prop where
  sourceId : found.sourceId = row.sourceId
  idempotencyKey : found.idempotencyKey = row.idempotencyKey
  actionId : found.actionId = row.actionId
  actionDigest : found.actionDigest = row.actionDigest
  state : found.state.value = row.state
  receipt : readReceiptColumn row.receipt = .ok found.receipt

/-- A row is read back exactly when its receipt, its state and its times are. -/
theorem record_eq_ok {row : RecordRow} {found : DurableActionRecord} :
    record row = .ok found ↔ ∃ receipt state startedAt updatedAt,
      readReceiptColumn row.receipt = .ok receipt ∧
        DurableActionState.ofValue row.state = some state ∧
        readTime row.startedAt = .ok startedAt ∧ readTime row.updatedAt = .ok updatedAt ∧
        found = ⟨row.sourceId, row.idempotencyKey, row.actionId, row.actionDigest, state,
          row.policyDecisionId, startedAt, updatedAt, row.attempts, row.sourceVersion, receipt,
          row.journalDigest⟩ := by
  constructor
  · intro read
    obtain ⟨receipt, column, read⟩ := of_bind_ok read
    cases stated : DurableActionState.ofValue row.state with
    | none => simp [stated, bind, Except.bind] at read
    | some state =>
      rw [stated] at read
      obtain ⟨_, decoded, read⟩ := of_bind_ok read
      obtain rfl := Except.ok.inj decoded
      obtain ⟨startedAt, started, read⟩ := of_bind_ok read
      obtain ⟨updatedAt, updated, same⟩ := of_bind_ok read
      exact ⟨receipt, state, startedAt, updatedAt, column, rfl, started, updated,
        (Except.ok.inj same).symm⟩
  · rintro ⟨receipt, state, startedAt, updatedAt, column, stated, started, updated, rfl⟩
    simp [record, column, stated, started, updated, bind, Except.bind, pure, Except.pure]

/-- A row that decodes is read back with its own columns and its own times. -/
theorem of_record {row : RecordRow} {found : DurableActionRecord} (read : record row = .ok found) :
    row.Reads found ∧ readTime row.startedAt = .ok found.startedAt ∧
      readTime row.updatedAt = .ok found.updatedAt := by
  obtain ⟨receipt, state, startedAt, updatedAt, column, stated, started, updated, rfl⟩ :=
    record_eq_ok.mp read
  have own := DurableActionState.value_of_ofValue stated
  exact ⟨⟨rfl, rfl, rfl, rfl, own, column⟩, started, updated⟩

/-- A row that decodes is read back with its own columns. -/
theorem reads_of_record {row : RecordRow} {found : DurableActionRecord}
    (read : record row = .ok found) : row.Reads found := (of_record read).1

/-- A row rewritten with a state, a time and a receipt that decodes is read back with these, and with
the start of the row before it. -/
theorem record_of_rewritten {row changed : RecordRow} {found : DurableActionRecord}
    (read : record row = .ok found) {state : DurableActionState} {receipt : Option StoredReceipt}
    {now : DateTime} (started : changed.startedAt = row.startedAt)
    (updated : changed.updatedAt = isoformat now) (stated : changed.state = state.value)
    (column : readReceiptColumn changed.receipt = .ok receipt) :
    ∃ again, record changed = .ok again ∧ again.state = state ∧ again.receipt = receipt ∧
      again.startedAt = found.startedAt := by
  have begun : readTime changed.startedAt = .ok found.startedAt := by
    rw [started]
    exact (of_record read).2.1
  have ended : readTime changed.updatedAt = .ok now := by
    rw [updated, readTime_isoformat]
  have own : DurableActionState.ofValue changed.state = some state := by
    rw [stated, DurableActionState.ofValue_value]
  exact ⟨_, record_eq_ok.mpr ⟨receipt, state, _, _, column, own, begun, ended, rfl⟩, rfl, rfl, rfl⟩

end Rows

/-! ## Transactions -/

/-- The journal file. -/
structure Journal where
  /-- `action_records`. -/
  records : Table RecordRow Binding RecordRow.binding
  /-- `action_events`. -/
  events : EventLog

/-- A journal just created. -/
def Journal.empty : Journal := ⟨.empty, ⟨[], .nil⟩⟩

/-- A write transaction of the journal. -/
inductive JournalTx
  | prepare (action : SourceActionPlan) (policyDecisionId : String) (now : DateTime)
  | begin (action : SourceActionPlan) (now : DateTime)
  | complete (action : SourceActionPlan) (receipt : Receipt) (now : DateTime)
  | fail (action : SourceActionPlan) (receipt : Receipt) (now : DateTime)
  | requireReconciliation (action : SourceActionPlan) (now : DateTime) (reason : String)

/-- The plan a transaction is about. -/
def JournalTx.action : JournalTx → SourceActionPlan
  | .prepare action _ _ => action
  | .begin action _ => action
  | .complete action _ _ => action
  | .fail action _ _ => action
  | .requireReconciliation action _ _ => action

namespace Journal

variable [Stdlib]

/-- The row `prepare` inserts. -/
def preparedRow (action : SourceActionPlan) (policyDecisionId : String) (now : DateTime)
    (journalDigest : String) : RecordRow where
  sourceId := action.sourceId
  idempotencyKey := action.idempotencyKey
  actionId := action.actionId
  actionDigest := action.digest
  state := DurableActionState.prepared.value
  policyDecisionId := policyDecisionId
  startedAt := isoformat now
  updatedAt := isoformat now
  attempts := 0
  sourceVersion := none
  receipt := none
  journalDigest := journalDigest

/-- The columns `begin` sets. -/
def setExecuting (now : DateTime) (attempts : Int) (journalDigest : String) (row : RecordRow) :
    RecordRow :=
  { row with
    state := DurableActionState.executing.value
    updatedAt := isoformat now
    attempts := attempts
    journalDigest := journalDigest }

/-- The columns `_finish` sets. -/
def setFinished (state : DurableActionState) (receipt : Option Receipt)
    (sourceVersion : Option String) (now : DateTime) (journalDigest : String) (row : RecordRow) :
    RecordRow :=
  { row with
    state := state.value
    updatedAt := isoformat now
    sourceVersion := sourceVersion
    receipt := receipt.map fun receipt => .holds receipt.toContract
    journalDigest := journalDigest }

/-- What `prepare` writes for an absent binding. -/
def writePrepared (key : IntegrityKey) (action : SourceActionPlan) (policyDecisionId : String)
    (now : DateTime) (journal : Journal) (missing : journal.records.find? action.binding = none) :
    Journal :=
  let events := journal.events.append key DurableActionState.prepared.value action.actionId now
    [("source_id", .str action.sourceId), ("idempotency_key", .str action.idempotencyKey),
      ("action_digest", .str action.digest), ("policy_decision_id", .str policyDecisionId)]
  ⟨journal.records.insert (preparedRow action policyDecisionId now (lastDigest events.rows)) missing,
    events⟩

/-- What `begin` writes for a prepared record. -/
def writeExecuting (key : IntegrityKey) (action : SourceActionPlan) (now : DateTime)
    (attempts : Int) (journal : Journal) : Journal :=
  let events := journal.events.append key DurableActionState.executing.value action.actionId now
    [("source_id", .str action.sourceId), ("attempt", .int (attempts + 1))]
  ⟨journal.records.update action.binding (setExecuting now (attempts + 1) (lastDigest events.rows))
    (fun _ => rfl), events⟩

/-- What `_finish` writes. -/
def writeFinished (key : IntegrityKey) (action : SourceActionPlan) (state : DurableActionState)
    (receipt : Option Receipt) (sourceVersion : Option String) (now : DateTime)
    (reason : Option String) (journal : Journal) : Journal :=
  let events := journal.events.append key state.value action.actionId now
    (("source_id", .str action.sourceId) ::
      ((sourceVersion.map fun version => ("source_version", .str version)).toList ++
        (reason.map fun text => ("reason", .str text)).toList))
  ⟨journal.records.update action.binding
    (setFinished state receipt sourceVersion now (lastDigest events.rows)) (fun _ => rfl), events⟩

/-- The message for a plan whose key is bound to another one. -/
def boundMessage : String := "idempotency key was already bound to another action"

/-- The message for a plan whose key is not bound to it. -/
def missingMessage : String := "durable action binding is missing or mismatched"

/-- The transaction of `prepare`: the record already bound, or a new one written. -/
def prepare (key : IntegrityKey) (action : SourceActionPlan) (policyDecisionId : String)
    (now : DateTime) (journal : Journal) :
    Except ActionError (Option DurableActionRecord × Journal) :=
  match missing : journal.records.find? action.binding with
  | some row =>
    match record row with
    | .error error => .error error
    | .ok found =>
      match action.checkDigest found.actionDigest boundMessage with
      | .error error => .error error
      | .ok _ => .ok (some found, journal)
  | none =>
    match action.takeDigest with
    | .error error => .error error
    | .ok _ => .ok (none, journal.writePrepared key action policyDecisionId now missing)

/-- The transaction of `begin`: the executed record, or the prepared one moved to executing. -/
def begin (key : IntegrityKey) (action : SourceActionPlan) (now : DateTime) (journal : Journal) :
    Except ActionError (Option DurableActionRecord × Journal) :=
  match journal.records.find? action.binding with
  | none => .error (.keyError "action must be prepared before execution")
  | some row =>
    match record row with
    | .error error => .error error
    | .ok found =>
      match action.checkDigest found.actionDigest boundMessage with
      | .error error => .error error
      | .ok _ =>
        if found.state = .executed then .ok (some found, journal)
        else if found.state ≠ .prepared then
          .error (.actionOutcomeUnknown
            ("action state " ++ found.state.value ++ " forbids automatic replay"))
        else .ok (none, journal.writeExecuting key action now found.attempts)

/-- The transaction of `_finish`. -/
def finish (key : IntegrityKey) (action : SourceActionPlan) (state : DurableActionState)
    (receipt : Option Receipt) (sourceVersion : Option String) (now : DateTime)
    (reason : Option String) (journal : Journal) :
    Except ActionError (Option DurableActionRecord × Journal) :=
  match journal.records.find? action.binding with
  | none => .error (.idempotencyConflict missingMessage)
  | some row =>
    match action.checkDigest row.actionDigest missingMessage with
    | .error error => .error error
    | .ok _ => .ok (none, journal.writeFinished key action state receipt sourceVersion now reason)

/-- What a transaction returns from inside and the journal it commits. -/
def transact (key : IntegrityKey) (journal : Journal) :
    JournalTx → Except ActionError (Option DurableActionRecord × Journal)
  | .prepare action policyDecisionId now => journal.prepare key action policyDecisionId now
  | .begin action now => journal.begin key action now
  | .complete action receipt now =>
    journal.finish key action .executed (some receipt) (some receipt.sourceVersion) now none
  | .fail action receipt now =>
    journal.finish key action .failed (some receipt) (some receipt.sourceVersion) now none
  | .requireReconciliation action now reason =>
    journal.finish key action .reconciliationRequired none none now (some reason)

/-- The journal after a transaction; one that raises is rolled back. -/
def commit (key : IntegrityKey) (journal : Journal) (tx : JournalTx) : Journal :=
  match journal.transact key tx with
  | .ok (_, after) => after
  | .error _ => journal

/-- The reply of a transaction. -/
def reply (key : IntegrityKey) (journal : Journal) (tx : JournalTx) :
    Except ActionError (Option DurableActionRecord) :=
  (journal.transact key tx).map Prod.fst

/-- `get`. -/
def get (journal : Journal) (binding : Binding) :
    Except ActionError (Option DurableActionRecord) :=
  match journal.records.find? binding with
  | none => .ok none
  | some row => (record row).map some

/-- The order of `pending`: by source, then by idempotency key. -/
def precedes (left right : RecordRow) : Bool :=
  decide (left.sourceId < right.sourceId ∨
    left.sourceId = right.sourceId ∧ left.idempotencyKey ≤ right.idempotencyKey)

/-- The states `pending` selects. -/
def open? (row : RecordRow) : Bool :=
  row.state == DurableActionState.executing.value ||
    row.state == DurableActionState.reconciliationRequired.value

/-- `pending`. -/
def pending (journal : Journal) : Except ActionError (List DurableActionRecord) :=
  ((journal.records.rows.filter open?).insertionSort fun left right =>
    precedes left right = true).mapM record

/-! ## The rows after a write -/

section Written

variable (key : IntegrityKey) (action : SourceActionPlan) (now : DateTime) (journal : Journal)

/-- The rows after `prepare` has written. -/
theorem find?_writePrepared (policyDecisionId : String)
    (missing : journal.records.find? action.binding = none) (binding : Binding) :
    let after := journal.writePrepared key action policyDecisionId now missing
    after.records.find? binding = if action.binding = binding then
        some (preparedRow action policyDecisionId now (lastDigest after.events.rows))
      else journal.records.find? binding :=
  Table.find?_insert _ _ missing binding

/-- The rows after `begin` has written. -/
theorem find?_writeExecuting (attempts : Int) (binding : Binding) :
    let after := journal.writeExecuting key action now attempts
    after.records.find? binding = if binding = action.binding then
        (journal.records.find? action.binding).map
          (setExecuting now (attempts + 1) (lastDigest after.events.rows))
      else journal.records.find? binding :=
  Table.find?_update _ _ (setExecuting now (attempts + 1) _) (fun _ => rfl) binding

/-- The rows after `_finish` has written. -/
theorem find?_writeFinished (state : DurableActionState) (receipt : Option Receipt)
    (sourceVersion reason : Option String) (binding : Binding) :
    let after := journal.writeFinished key action state receipt sourceVersion now reason
    after.records.find? binding = if binding = action.binding then
        (journal.records.find? action.binding).map
          (setFinished state receipt sourceVersion now (lastDigest after.events.rows))
      else journal.records.find? binding :=
  Table.find?_update _ _ (setFinished state receipt sourceVersion now _) (fun _ => rfl) binding

end Written

/-- `prepare` writes a record for an absent binding, if the plan has a digest. -/
theorem prepare_of_missing {key : IntegrityKey} {action : SourceActionPlan} {journal : Journal}
    (missing : journal.records.find? action.binding = none) (policyDecisionId : String)
    (now : DateTime) : journal.prepare key action policyDecisionId now =
      action.takeDigest.map fun _ =>
        (none, journal.writePrepared key action policyDecisionId now missing) := by
  unfold prepare
  split
  · rename_i found
    rw [missing] at found
    cases found
  · cases action.takeDigest <;> rfl

/-- `prepare` reads the record of a binding that is there. -/
theorem prepare_of_present {key : IntegrityKey} {action : SourceActionPlan} {journal : Journal}
    {row : RecordRow} (present : journal.records.find? action.binding = some row)
    (policyDecisionId : String) (now : DateTime) :
    journal.prepare key action policyDecisionId now = (record row).bind fun found =>
      (action.checkDigest found.actionDigest boundMessage).map fun _ => (some found, journal) := by
  unfold prepare
  split
  · rename_i other found
    have same : row = other := Option.some.inj (present.symm.trans found)
    subst same
    cases record row with
    | error error => rfl
    | ok read =>
      simp only [Except.bind]
      cases action.checkDigest read.actionDigest boundMessage <;> rfl
  · rename_i missing
    rw [present] at missing
    cases missing

/-! ## What a transaction can do -/

/-- The state, receipt, version, time and reason a transaction hands to `_finish`. -/
structure Outcome where
  state : DurableActionState
  receipt : Option Receipt
  sourceVersion : Option String
  now : DateTime
  reason : Option String

/-- The arguments of `_finish` for the transactions that call it. -/
def outcome? : JournalTx → Option Outcome
  | .prepare _ _ _ => none
  | .begin _ _ => none
  | .complete _ receipt now =>
    some ⟨.executed, some receipt, some receipt.sourceVersion, now, none⟩
  | .fail _ receipt now => some ⟨.failed, some receipt, some receipt.sourceVersion, now, none⟩
  | .requireReconciliation _ now reason =>
    some ⟨.reconciliationRequired, none, none, now, some reason⟩

/-- A transaction that wrote, with what it found and the journal it left. -/
inductive Wrote (key : IntegrityKey) (journal : Journal) : JournalTx → Journal → Prop
  | prepared (action : SourceActionPlan) (policyDecisionId : String) (now : DateTime)
    (missing : journal.records.find? action.binding = none) :
    Wrote key journal (.prepare action policyDecisionId now)
      (journal.writePrepared key action policyDecisionId now missing)
  | begun (action : SourceActionPlan) (now : DateTime) (row : RecordRow)
    (found : DurableActionRecord) (present : journal.records.find? action.binding = some row)
    (read : record row = .ok found) (same : found.actionDigest = action.digest)
    (ready : found.state = .prepared) :
    Wrote key journal (.begin action now) (journal.writeExecuting key action now found.attempts)
  | finished (tx : JournalTx) (outcome : Outcome) (row : RecordRow)
    (closing : outcome? tx = some outcome)
    (present : journal.records.find? tx.action.binding = some row)
    (same : row.actionDigest = tx.action.digest) :
    Wrote key journal tx (journal.writeFinished key tx.action outcome.state outcome.receipt
      outcome.sourceVersion outcome.now outcome.reason)

/-- A closing transaction is `_finish` on its outcome. -/
theorem transact_closing {key : IntegrityKey} {journal : Journal} {tx : JournalTx}
    {outcome : Outcome} (closing : outcome? tx = some outcome) :
    journal.transact key tx = journal.finish key tx.action outcome.state outcome.receipt
      outcome.sourceVersion outcome.now outcome.reason := by
  cases tx <;> simp only [outcome?, Option.some.injEq, reduceCtorEq] at closing <;>
    subst closing <;> rfl

/-- The check lets only the plan go on that is bound. -/
theorem of_checkDigest {action : SourceActionPlan} {bound message : String} {value : Unit}
    (checked : action.checkDigest bound message = .ok value) : bound = action.digest :=
  (SourceActionPlan.digested_eq_ok.mp (SourceActionPlan.checkDigest_eq_ok.mp checked)).2.symm

/-- A transaction that ends without an exception either returns a record it read and leaves
the journal as it was, or writes. -/
theorem transact_cases {key : IntegrityKey} {journal after : Journal} {tx : JournalTx}
    {reply : Option DurableActionRecord} (done : journal.transact key tx = .ok (reply, after)) :
    (∃ row found, reply = some found ∧ after = journal ∧
        journal.records.find? tx.action.binding = some row ∧ record row = .ok found ∧
          found.actionDigest = tx.action.digest) ∨
      reply = none ∧ Wrote key journal tx after := by
  cases closing : outcome? tx with
  | some outcome =>
    rw [transact_closing closing] at done
    simp only [finish] at done
    split at done
    · cases done
    · rename_i row present
      split at done
      · cases done
      · rename_i checked
        simp only [Except.ok.injEq, Prod.mk.injEq] at done
        obtain ⟨rfl, rfl⟩ := done
        exact .inr ⟨rfl, .finished tx outcome row closing present (of_checkDigest checked)⟩
  | none =>
    cases tx with
    | prepare action policyDecisionId now =>
      simp only [transact, prepare] at done
      split at done
      · rename_i row present
        split at done
        · cases done
        · rename_i found read
          split at done
          · cases done
          · rename_i checked
            simp only [Except.ok.injEq, Prod.mk.injEq] at done
            obtain ⟨rfl, rfl⟩ := done
            exact .inl ⟨row, found, rfl, rfl, present, read, of_checkDigest checked⟩
      · rename_i missing
        split at done
        · cases done
        · simp only [Except.ok.injEq, Prod.mk.injEq] at done
          obtain ⟨rfl, rfl⟩ := done
          exact .inr ⟨rfl, .prepared action policyDecisionId now missing⟩
    | begin action now =>
      simp only [transact, begin] at done
      split at done
      · cases done
      · rename_i row present
        split at done
        · cases done
        · rename_i found read
          split at done
          · cases done
          · rename_i checked
            split at done
            · simp only [Except.ok.injEq, Prod.mk.injEq] at done
              obtain ⟨rfl, rfl⟩ := done
              exact .inl ⟨row, found, rfl, rfl, present, read, of_checkDigest checked⟩
            · split at done
              · cases done
              · rename_i ready
                simp only [Except.ok.injEq, Prod.mk.injEq] at done
                obtain ⟨rfl, rfl⟩ := done
                exact .inr ⟨rfl, .begun action now row found present read (of_checkDigest checked)
                  (not_not.mp ready)⟩
    | complete action receipt now => simp [outcome?] at closing
    | fail action receipt now => simp [outcome?] at closing
    | requireReconciliation action now reason => simp [outcome?] at closing

/-- A reply is that of a transaction that ended without an exception, and was committed. -/
theorem transact_of_reply {key : IntegrityKey} {journal : Journal} {tx : JournalTx}
    {returned : Option DurableActionRecord} (replied : journal.reply key tx = .ok returned) :
    journal.transact key tx = .ok (returned, journal.commit key tx) := by
  simp only [reply, commit] at replied ⊢
  split
  · rename_i found after done
    rw [done] at replied ⊢
    obtain rfl := Except.ok.inj replied
    rfl
  · rename_i error raised
    rw [raised] at replied
    cases replied

/-- A transaction that raised is rolled back. -/
theorem commit_of_raise {key : IntegrityKey} {journal : Journal} {tx : JournalTx}
    {error : ActionError} (raised : journal.reply key tx = .error error) :
    journal.commit key tx = journal := by
  simp only [reply] at raised
  simp only [commit]
  split
  · rename_i found after done
    simp [done, Except.map] at raised
  · rfl

/-- A transaction that returned no record wrote. -/
theorem wrote_of_reply {key : IntegrityKey} {journal : Journal} {tx : JournalTx}
    (replied : journal.reply key tx = .ok none) :
    Wrote key journal tx (journal.commit key tx) := by
  rcases transact_cases (transact_of_reply replied) with ⟨_, _, nothing, -⟩ | ⟨-, wrote⟩
  · cases nothing
  · exact wrote

/-- A row that is read is what `get` returns of its binding. -/
theorem get_of_row {journal : Journal} {binding : Binding} {row : RecordRow}
    {found : DurableActionRecord} (present : journal.records.find? binding = some row)
    (read : record row = .ok found) : journal.get binding = .ok (some found) := by
  simp [get, present, read, Except.map]

/-- A transaction that returned a record wrote nothing, and the record is still there. -/
theorem get_of_reply {key : IntegrityKey} {journal : Journal} {tx : JournalTx}
    {found : DurableActionRecord} (replied : journal.reply key tx = .ok (some found)) :
    journal.commit key tx = journal ∧ journal.get tx.action.binding = .ok (some found) := by
  rcases transact_cases (transact_of_reply replied) with
    ⟨row, record, same, kept, present, read, -⟩ | ⟨nothing, -⟩
  · obtain rfl := Option.some.inj same
    exact ⟨kept, get_of_row present read⟩
  · cases nothing

/-- `get` reads the row under the binding. -/
theorem row_of_get {journal : Journal} {binding : Binding} {found : DurableActionRecord}
    (read : journal.get binding = .ok (some found)) :
    ∃ row, journal.records.find? binding = some row ∧ record row = .ok found := by
  simp only [get] at read
  split at read
  · cases read
  · rename_i row present
    cases decoded : record row with
    | error error => simp [decoded, Except.map] at read
    | ok again =>
      simp only [decoded, Except.map, Except.ok.injEq, Option.some.injEq] at read
      exact ⟨row, present, by rw [decoded, read]⟩

/-- The record `begin` returns from inside has been executed. -/
theorem executed_of_begin {key : IntegrityKey} {journal : Journal} {action : SourceActionPlan}
    {now : DateTime} {found : DurableActionRecord}
    (replied : journal.reply key (.begin action now) = .ok (some found)) :
    ∃ row, journal.records.find? action.binding = some row ∧ record row = .ok found ∧
      found.state = .executed := by
  have done := transact_of_reply replied
  simp only [transact, begin] at done
  split at done
  · cases done
  · rename_i row present
    split at done
    · cases done
    · rename_i same read
      split at done
      · cases done
      · split at done
        · rename_i executed
          simp only [Except.ok.injEq, Prod.mk.injEq, Option.some.injEq] at done
          obtain ⟨rfl, -⟩ := done
          exact ⟨row, present, read, executed⟩
        · split at done
          · cases done
          · simp at done

/-- A transaction leaves the journal as it was, or writes. -/
theorem commit_cases (key : IntegrityKey) (journal : Journal) (tx : JournalTx) :
    journal.commit key tx = journal ∨ Wrote key journal tx (journal.commit key tx) := by
  simp only [commit]
  split
  · rename_i reply after done
    rcases transact_cases done with ⟨-, -, -, rfl, -⟩ | ⟨-, wrote⟩
    · exact .inl rfl
    · exact .inr wrote
  · exact .inl rfl

end Journal

end DataHarness
