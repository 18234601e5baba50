import DataHarness.Durability.Soundness
import DataHarness.Library.Schema

/-!
# The published contract of durable records

A durable record is published as a JSON object, for which the repository has a schema. The schema
asks for the plain digest of the last event, and the journal keeps a keyed one; all else of a record
conforms as soon as the decision that prepared it has an id.
-/

namespace DataHarness

/-! ## The contract and its schema -/

/-- `to_contract` of a record. -/
def DurableActionRecord.toContract [Stdlib] (record : DurableActionRecord) : Json.Value :=
  .obj [("schemaVersion", .str "data.harness/v1"), ("sourceId", .str record.sourceId),
    ("idempotencyKey", .str record.idempotencyKey), ("actionId", .str record.actionId),
    ("actionDigest", .str record.actionDigest), ("state", .str record.state.value),
    ("policyDecisionId", .str record.policyDecisionId),
    ("startedAt", .str (isoformat record.startedAt)),
    ("updatedAt", .str (isoformat record.updatedAt)), ("attempts", .int record.attempts),
    ("sourceVersion", (record.sourceVersion.map .str).getD .null),
    ("receiptId", (record.receipt.map (·.receiptId)).getD .null),
    ("journalDigest", .str record.journalDigest)]

namespace RecordSchema

open Schema

/-- A text that is not empty. -/
def named : Schema := .leaf [.type [.string], .minLength 1]

/-- A text or null. -/
def optional : Schema := .leaf [.type [.string, .null]]

/-- A timestamp; its format is an annotation. -/
def timestamp : Schema := .leaf [.type [.string]]

/-- Sixty-four hexadecimal digits after the name of a scheme. -/
def hexadecimal (scheme : String) : List Piece :=
  [.literal scheme, .among [('0', '9'), ('a', 'f')] 64]

/-- A digest of a scheme. -/
def digested (scheme : String) : Schema :=
  .leaf [.type [.string], .pattern (hexadecimal scheme)]

/-- The properties of a record, by the scheme of its journal digest. -/
def properties (scheme : String) : List (String × Schema) :=
  [("schemaVersion", .leaf [.const "data.harness/v1"]), ("sourceId", named),
    ("idempotencyKey", named), ("actionId", named), ("actionDigest", digested "sha256:"),
    ("state", .leaf [.enum ["prepared", "executing", "executed", "failed",
      "reconciliation-required"]]), ("policyDecisionId", named), ("startedAt", timestamp),
    ("updatedAt", timestamp), ("attempts", .leaf [.type [.integer], .minimum 0]),
    ("sourceVersion", optional), ("receiptId", optional), ("journalDigest", digested scheme)]

/-- Records whose journal digest is of a scheme; every property is required. -/
def withScheme (scheme : String) : Schema :=
  .object ["schemaVersion", "sourceId", "idempotencyKey", "actionId", "actionDigest", "state",
    "policyDecisionId", "startedAt", "updatedAt", "attempts", "sourceVersion", "receiptId",
    "journalDigest"] (properties scheme)

end RecordSchema

/-- `durable-action-record.schema.json`. -/
def durableActionRecordSchema : Schema := RecordSchema.withScheme "sha256:"

/-! ## Records that the journal hands out -/

section Handed

variable [Stdlib]

/-- A record that a method of a journal returns. -/
inductive Journal.Hands (key : IntegrityKey) (journal : Journal) (record : DurableActionRecord) :
    Prop
  | get (binding : Binding) (read : journal.get binding = .ok (some record))
  | pending (records : List DurableActionRecord) (read : journal.pending = .ok records)
    (listed : record ∈ records)
  | reply (tx : JournalTx) (replied : journal.reply key tx = .ok (some record))

/-- A record that is handed out was read from a row. -/
theorem Journal.Hands.row {key : IntegrityKey} {journal : Journal} {found : DurableActionRecord}
    (hands : journal.Hands key found) : ∃ row ∈ journal.records.rows, record row = .ok found := by
  have gets : ∀ {binding}, journal.get binding = .ok (some found) →
      ∃ row ∈ journal.records.rows, record row = .ok found := by
    intro binding read
    obtain ⟨row, present, decoded⟩ := Journal.row_of_get read
    exact ⟨row, Table.mem_of_find? present, decoded⟩
  cases hands with
  | get binding read => exact gets read
  | pending records read listed =>
    obtain ⟨row, inside, decoded⟩ := Loops.exists_of_mapM read listed
    rw [List.mem_insertionSort, List.mem_filter] at inside
    exact ⟨row, inside.1, decoded⟩
  | reply tx replied => exact gets (Journal.get_of_reply replied).2

/-- A row of a journal the API produced is read back, and handed out. -/
theorem exists_get (key : IntegrityKey) (txs : List JournalTx) {binding : Binding} {row : RecordRow}
    (present : (Journal.replay key .empty txs).records.find? binding = some row) :
    ∃ found, record row = .ok found ∧
      (Journal.replay key .empty txs).get binding = .ok (some found) := by
  obtain ⟨state, receipt, shape⟩ := replay_shaped key txs row (Table.mem_of_find? present)
  obtain ⟨found, decoded, -⟩ := shape.read
  exact ⟨found, decoded, Journal.get_of_row present decoded⟩

/-- A row is read back with its decision, its attempts and its digest. -/
theorem columns_of_record {row : RecordRow} {found : DurableActionRecord}
    (read : record row = .ok found) : found.policyDecisionId = row.policyDecisionId ∧
      found.attempts = row.attempts ∧ found.journalDigest = row.journalDigest := by
  obtain ⟨_, _, _, _, -, -, -, -, rfl⟩ := record_eq_ok.mp read
  exact ⟨rfl, rfl, rfl⟩

/-- The row is that of an action plan, tried some number of times. -/
structure RecordRow.Planned (row : RecordRow) (plan : SourceActionPlan) : Prop where
  binding : row.binding = plan.binding
  actionId : row.actionId = plan.actionId
  actionDigest : row.actionDigest = plan.digest
  attempts : 0 ≤ row.attempts

/-- A rewritten row is that of a plan. -/
theorem Rewritten.planned {journal : Journal} {tx : JournalTx} {written : RecordRow}
    (rewritten : Rewritten journal tx written)
    (before : ∀ row ∈ journal.records.rows, ∃ plan, row.Planned plan) :
    ∃ plan, written.Planned plan := by
  cases rewritten with
  | prepared action policyDecisionId now digest missing =>
    exact ⟨action, rfl, rfl, rfl, by simp [Journal.preparedRow]⟩
  | begun action now digest row found present read ready =>
    obtain ⟨plan, planned⟩ := before row (Table.mem_of_find? present)
    have tried : 0 ≤ found.attempts + 1 := by
      have columns := columns_of_record read
      have earlier := planned.attempts
      omega
    exact ⟨plan, planned.binding, planned.actionId, planned.actionDigest, tried⟩
  | finished _ outcome digest row closing present =>
    obtain ⟨plan, planned⟩ := before row (Table.mem_of_find? present)
    exact ⟨plan, planned.binding, planned.actionId, planned.actionDigest, planned.attempts⟩

/-- Every record of a journal the API produced is that of a plan. -/
theorem replay_planned (key : IntegrityKey) (txs : List JournalTx) :
    ∀ row ∈ (Journal.replay key .empty txs).records.rows, ∃ plan, row.Planned plan :=
  replay_rows key fun _ _ _ _ rewritten before => rewritten.planned before

/-- The journal digest of a record is the keyed digest of an event. -/
theorem journalDigest_keyed {key : IntegrityKey} {txs : List JournalTx} {row : RecordRow}
    (member : row ∈ (Journal.replay key .empty txs).records.rows) :
    ∃ body, row.journalDigest = keyedDigest key.bytes body := by
  have consistent := replay_consistent key txs
  obtain ⟨event, last, digest, _⟩ := consistent.current row member
  have listed : event ∈ (Journal.replay key .empty txs).events.rows := by
    rw [consistent.events]
    exact List.mem_map.mpr ⟨_, History.mem_of_last? last, rfl⟩
  obtain ⟨attributes, signed⟩ := consistent.signed event listed
  exact ⟨_, digest.trans signed.2⟩

end Handed

/-! ## What the contract conforms to -/

section Conformance

open Schema

/-- A text is a digest of a scheme. -/
def Digested (scheme text : String) : Prop :=
  matchesAll (RecordSchema.hexadecimal scheme) text.toList = true

/-- A name is any text but the empty one. -/
@[simp] theorem accepts_named (text : String) :
    accepts ofJson RecordSchema.named (.str text) = true ↔ text ≠ "" := by
  simp [RecordSchema.named, accepts_leaf, Keyword.holds, ofJson, Shape.kind?, Nat.one_le_iff_ne_zero]

/-- A digest is a text that matches the pattern. -/
@[simp] theorem accepts_digested (scheme text : String) :
    accepts ofJson (RecordSchema.digested scheme) (.str text) = true ↔ Digested scheme text := by
  simp [RecordSchema.digested, accepts_leaf, Keyword.holds, ofJson, Shape.kind?, Digested]

/-- Every text is a timestamp, as far as the schema constrains it. -/
@[simp] theorem accepts_timestamp (text : String) :
    accepts ofJson RecordSchema.timestamp (.str text) = true := by
  simp [RecordSchema.timestamp, accepts_leaf, Keyword.holds, ofJson, Shape.kind?]

/-- An optional value is null or a text. -/
theorem accepts_optional (value : Json.Value) :
    accepts ofJson RecordSchema.optional value = true ↔
      value = .null ∨ ∃ text, value = .str text := by
  cases value <;> simp [RecordSchema.optional, accepts_leaf, Keyword.holds, ofJson, Shape.kind?]

/-- The schema names all states. -/
@[simp] theorem accepts_state (state : DurableActionState) :
    accepts ofJson (.leaf [.enum ["prepared", "executing", "executed", "failed",
      "reconciliation-required"]]) (.str state.value) = true := by
  cases state <;> decide

/-- The identifiers of a record are named, its attempts are counted, its receipt has a text as id,
and both digests are of their schemes. -/
structure DurableActionRecord.Conforms (record : DurableActionRecord) (scheme : String) :
    Prop where
  sourceId : record.sourceId ≠ ""
  idempotencyKey : record.idempotencyKey ≠ ""
  actionId : record.actionId ≠ ""
  policyDecisionId : record.policyDecisionId ≠ ""
  attempts : 0 ≤ record.attempts
  receipt : ∀ receipt, record.receipt = some receipt →
    receipt.receiptId = .null ∨ ∃ text, receipt.receiptId = .str text
  actionDigest : Digested "sha256:" record.actionDigest
  journalDigest : Digested scheme record.journalDigest

variable [Stdlib]

/-- The contract of a record is accepted exactly when the record conforms. -/
theorem accepts_contract {scheme : String} {record : DurableActionRecord} :
    (RecordSchema.withScheme scheme).accepts ofJson record.toContract = true ↔
      record.Conforms scheme := by
  have versioned : accepts ofJson RecordSchema.optional
      ((record.sourceVersion.map .str).getD .null) = true := by
    cases record.sourceVersion <;> simp [accepts_optional]
  have received : accepts ofJson RecordSchema.optional
      ((record.receipt.map (·.receiptId)).getD .null) = true ↔ ∀ receipt,
        record.receipt = some receipt →
          receipt.receiptId = .null ∨ ∃ text, receipt.receiptId = .str text := by
    cases record.receipt <;> simp [accepts_optional]
  have counted : accepts ofJson (.leaf [.type [.integer], .minimum 0])
      (.int record.attempts) = true ↔ 0 ≤ record.attempts := by
    simp [accepts_leaf, Keyword.holds, ofJson, Shape.kind?]
  have same : accepts ofJson (.leaf [.const "data.harness/v1"]) (.str "data.harness/v1") = true := by
    decide
  rw [RecordSchema.withScheme, DurableActionRecord.toContract,
    accepts_obj rfl (by simp [RecordSchema.properties])]
  simp [RecordSchema.properties, List.lookup_cons, versioned, received, counted, same]
  constructor
  · rintro ⟨source, key, action, bound, decision, tried, receipt, last⟩
    exact ⟨source, key, action, decision, tried, receipt, bound, last⟩
  · rintro ⟨source, key, action, decision, tried, receipt, bound, last⟩
    exact ⟨source, key, action, bound, decision, tried, receipt, last⟩

omit [Stdlib] in
/-- A keyed digest is not a plain one. -/
theorem not_digested (text : String) : ¬ Digested "sha256:" ("hmac-sha256:" ++ text) := by
  intro plain
  obtain ⟨rest, split, -⟩ := matchesAll_iff.mp plain
  simp at split

/-- No contract of a record that the journal hands out is accepted: its journal digest is keyed. -/
theorem contract_refused (key : IntegrityKey) (txs : List JournalTx) (record : DurableActionRecord)
    (hands : (Journal.replay key .empty txs).Hands key record) :
    durableActionRecordSchema.accepts ofJson record.toContract = false := by
  rw [Bool.eq_false_iff]
  intro accepted
  have plain := (accepts_contract.mp accepted).journalDigest
  obtain ⟨row, member, read⟩ := hands.row
  obtain ⟨body, keyed⟩ := journalDigest_keyed member
  have same := (columns_of_record read).2.2
  rw [same, keyed] at plain
  exact not_digested _ plain

omit [Stdlib] in
/-- The contract of the record of a small plan is refused. -/
theorem contract_refused_small : letI := Stdlib.transparent
    let action := SourceActionPlan.small "action" "key" (by decide)
    let journal := Journal.replay .small .empty [.prepare action "allow" noon]
    ∃ record, journal.get action.binding = .ok (some record) ∧
      durableActionRecordSchema.accepts ofJson record.toContract = false := by
  let := Stdlib.transparent
  intro action journal
  let row := Journal.preparedRow action "allow" noon (lastDigest journal.events.rows)
  have present : journal.records.find? action.binding = some row := rfl
  obtain ⟨found, decoded, read⟩ := exists_get .small [.prepare action "allow" noon] present
  exact ⟨found, read, contract_refused .small [.prepare action "allow" noon] found (.get _ read)⟩

/-- `hexdigest` writes sixty-four hexadecimal digits, with a key and without. -/
structure Hexdigests : Prop where
  plain : ∀ text, (sha256 text).length = 64 ∧
    ∀ c ∈ (sha256 text).toList, within [('0', '9'), ('a', 'f')] c = true
  keyed : ∀ key text, (hmacSha256 key text).length = 64 ∧
    ∀ c ∈ (hmacSha256 key text).toList, within [('0', '9'), ('a', 'f')] c = true

omit [Stdlib] in
/-- Sixty-four hexadecimal digits after the name of a scheme are a digest of it. -/
theorem digested_append {scheme text : String} (length : text.length = 64)
    (inside : ∀ c ∈ text.toList, within [('0', '9'), ('a', 'f')] c = true) :
    Digested scheme (scheme ++ text) := by
  have split : (scheme ++ text).toList = scheme.toList ++ text.toList := String.toList_append
  exact matchesAll_iff.mpr ⟨text.toList, split, String.length_toList.trans length, inside⟩

/-- With the scheme that the journal uses, the contract of a record that it hands out is accepted
exactly when the decision that prepared the record has an id. -/
theorem keyed_contract_iff (hexdigests : Hexdigests) {key : IntegrityKey} {txs : List JournalTx}
    {record : DurableActionRecord} (hands : (Journal.replay key .empty txs).Hands key record) :
    (RecordSchema.withScheme "hmac-sha256:").accepts ofJson record.toContract = true ↔
      record.policyDecisionId ≠ "" := by
  obtain ⟨row, member, read⟩ := hands.row
  have reads := reads_of_record read
  have columns := columns_of_record read
  obtain ⟨plan, planned⟩ := replay_planned key txs row member
  obtain ⟨state, receipt, shape⟩ := replay_shaped key txs row member
  obtain ⟨body, keyed⟩ := journalDigest_keyed member
  obtain ⟨source, idempotency⟩ := Prod.ext_iff.mp planned.binding
  have names : record.sourceId ≠ "" ∧ record.idempotencyKey ≠ "" ∧ record.actionId ≠ "" := by
    have identity := plan.identity
    rw [reads.sourceId, reads.idempotencyKey, reads.actionId, planned.actionId]
    change row.sourceId = plan.sourceId at source
    change row.idempotencyKey = plan.idempotencyKey at idempotency
    rw [source, idempotency]
    exact ⟨identity _ (by simp), identity _ (by simp), identity _ (by simp)⟩
  have tried : 0 ≤ record.attempts := by
    rw [columns.2.1]
    exact planned.attempts
  have received : ∀ stored, record.receipt = some stored →
      stored.receiptId = .null ∨ ∃ text, stored.receiptId = .str text := by
    intro stored present
    have column := shape.readReceipt.symm.trans reads.receipt
    rw [present, Except.ok.injEq, Option.map_eq_some_iff] at column
    obtain ⟨receipt, -, rfl⟩ := column
    exact .inr ⟨receipt.receiptId, rfl⟩
  have bound : Digested "sha256:" record.actionDigest := by
    rw [reads.actionDigest, planned.actionDigest]
    exact digested_append (hexdigests.plain _).1 (hexdigests.plain _).2
  have last : Digested "hmac-sha256:" record.journalDigest := by
    rw [columns.2.2, keyed]
    exact digested_append (hexdigests.keyed _ _).1 (hexdigests.keyed _ _).2
  rw [accepts_contract]
  constructor
  · intro accepted
    exact accepted.policyDecisionId
  · intro decision
    exact ⟨names.1, names.2.1, names.2.2, decision, tried, received, bound, last⟩

omit [Stdlib] in
/-- A library whose digests are all zeros, in the form of `hexdigest`. -/
@[reducible] def Stdlib.zeros : Stdlib :=
  { Stdlib.transparent with
    sha256 := fun _ => String.ofList (List.replicate 64 '0')
    hmacSha256 := fun _ _ => String.ofList (List.replicate 64 '0') }

omit [Stdlib] in
/-- Its digests have the form of `hexdigest`. -/
theorem Stdlib.zeros_hexdigests : @Hexdigests Stdlib.zeros := by
  let := Stdlib.zeros
  have zeros : (String.ofList (List.replicate 64 '0')).length = 64 ∧
      ∀ c ∈ (String.ofList (List.replicate 64 '0')).toList,
        within [('0', '9'), ('a', 'f')] c = true := by
    refine ⟨by decide, ?_⟩
    intro c member
    rw [String.toList_ofList] at member
    rw [List.eq_of_mem_replicate member]
    decide
  exact ⟨fun _ => zeros, fun _ _ => zeros⟩

omit [Stdlib] in
/-- A record just prepared conforms in all but the scheme of its journal digest. -/
theorem prepared_refused : letI := Stdlib.zeros
    let action := SourceActionPlan.small "action" "key" (by decide)
    let journal := Journal.replay .small .empty [.prepare action "allow" noon]
    ∃ record, journal.get action.binding = .ok (some record) ∧
      (RecordSchema.withScheme "hmac-sha256:").accepts ofJson record.toContract = true ∧
        durableActionRecordSchema.accepts ofJson record.toContract = false := by
  let := Stdlib.zeros
  intro action journal
  let row := Journal.preparedRow action "allow" noon (lastDigest journal.events.rows)
  have present : journal.records.find? action.binding = some row := rfl
  obtain ⟨found, decoded, read⟩ := exists_get .small [.prepare action "allow" noon] present
  have columns := columns_of_record decoded
  have decision : found.policyDecisionId ≠ "" := by
    rw [columns.1]
    decide
  have refused : ¬ durableActionRecordSchema.accepts ofJson found.toContract = true := by
    intro accepted
    have plain := (accepts_contract.mp accepted).journalDigest
    rw [columns.2.2] at plain
    exact not_digested _ plain
  have hands : journal.Hands .small found := .get _ read
  exact ⟨found, read, (keyed_contract_iff Stdlib.zeros_hexdigests hands).mpr decision,
    Bool.eq_false_iff.mpr refused⟩

end Conformance

end DataHarness
