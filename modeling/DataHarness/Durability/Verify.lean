import DataHarness.Durability.Journal
import DataHarness.Library.Chain

/-!
# Journal verification

`verify` makes one pass over the events, recomputing each digest, and one over the records,
matching each against the events it remembered. `verify_iff` states what the two loops decide
without the loops: the events are a signed chain from the genesis digest, and every record
matches an event and a prepared event.
-/

namespace DataHarness

/-- What an event's digest is taken over, with its attributes parsed. -/
def EventRow.body (row : EventRow) (attributes : Json.Value) : Json.Value :=
  eventBody row.sequence row.eventType row.actionId row.occurredAt attributes row.previousDigest

/-- What the first loop remembers: the last digest, and two dictionaries whose later entries
replace earlier ones (the newest first). -/
structure Scan where
  previous : String
  eventsByDigest : List (String × EventRow)
  preparedByAction : List (String × Json.Value)

/-- The start of the first loop. -/
def Scan.start : Scan := ⟨genesis, [], []⟩

/-- The entry an event makes in `prepared_by_action`. -/
def preparedEntry (row : EventRow) (attributes : Json.Value) : Option (String × Json.Value) :=
  if row.eventType = DurableActionState.prepared.value then some (row.actionId, attributes)
  else none

/-- The four fields of a record found in the attributes of its prepared event. -/
def preparedMatches (members : List (String × Json.Value)) (row : RecordRow) : Bool :=
  fieldIs members "source_id" row.sourceId
    && fieldIs members "idempotency_key" row.idempotencyKey
    && fieldIs members "action_digest" row.actionDigest
    && fieldIs members "policy_decision_id" row.policyDecisionId

/-- Attributes match records of one binding only. -/
theorem preparedMatches_binding {members : List (String × Json.Value)} {left right : RecordRow}
    (first : preparedMatches members left = true) (second : preparedMatches members right = true) :
    left.binding = right.binding := by
  simp only [preparedMatches, Bool.and_eq_true] at first second
  exact Prod.ext (fieldIs_unique first.1.1.1 second.1.1.1) (fieldIs_unique first.1.1.2 second.1.1.2)

/-- The receipt rules: a receipt only on an executed record and bound to it, and one on every
executed record. -/
def receiptVerified (found : DurableActionRecord) : Bool :=
  match found.receipt with
  | some receipt =>
    found.state == .executed && isText receipt.actionId found.actionId
      && isText receipt.actionDigest found.actionDigest
      && isText receipt.idempotencyKey found.idempotencyKey
  | none => found.state != .executed

section Loops

variable [Stdlib]

/-- One event of the first loop; none where the chain is broken. -/
def scanEvent (key : IntegrityKey) (scan : Scan) (row : EventRow) :
    Except ActionError (Option Scan) :=
  match row.attributes.loads with
  | .error error => .error error
  | .ok attributes =>
    if row.previousDigest ≠ scan.previous ∨ row.digest ≠ keyedDigest key.bytes
        (eventBody row.sequence row.eventType row.actionId row.occurredAt attributes
          scan.previous) then
      .ok none
    else .ok (some ⟨row.digest, (row.digest, row) :: scan.eventsByDigest,
      (preparedEntry row attributes).toList ++ scan.preparedByAction⟩)

/-- The first loop. -/
def scanEvents (key : IntegrityKey) : Scan → List EventRow → Except ActionError (Option Scan)
  | scan, [] => .ok (some scan)
  | scan, row :: rows =>
    match scanEvent key scan row with
    | .error error => .error error
    | .ok none => .ok none
    | .ok (some next) => scanEvents key next rows

/-- The exceptions the second loop answers with `False`. -/
def caught : ActionError → Bool
  | .keyError _ => true
  | .typeError _ => true
  | .valueError _ => true
  | _ => false

/-- One record of the second loop. -/
def verifyRecord (scan : Scan) (row : RecordRow) : Except ActionError Bool :=
  match scan.eventsByDigest.lookup row.journalDigest with
  | none => .ok false
  | some event =>
    if event.actionId ≠ row.actionId then .ok false
    else if event.eventType ≠ row.state then .ok false
    else match scan.preparedByAction.lookup row.actionId with
      | none => .ok false
      | some .null => .ok false
      | some (.obj members) =>
        if ¬ preparedMatches members row then .ok false
        else match record row with
          | .error error => if caught error then .ok false else .error error
          | .ok found => .ok (receiptVerified found)
      | some _ => .error (.other "object has no attribute 'get'")

/-- The second loop. -/
def verifyRecords (scan : Scan) : List RecordRow → Except ActionError Bool
  | [] => .ok true
  | row :: rows =>
    match verifyRecord scan row with
    | .ok true => verifyRecords scan rows
    | other => other

/-- `verify`. -/
def Journal.verify (key : IntegrityKey) (journal : Journal) : Except ActionError Bool :=
  match scanEvents key .start journal.events.rows with
  | .error error => .error error
  | .ok none => .ok false
  | .ok (some scan) => verifyRecords scan journal.records.rows

/-! ## What the loops decide -/

/-- The event parses, and its digest is the keyed digest of its body. -/
def EventRow.Signed (key : IntegrityKey) (row : EventRow) (attributes : Json.Value) : Prop :=
  row.attributes.loads = .ok attributes ∧ row.digest = keyedDigest key.bytes (row.body attributes)

/-- Every event of a list is signed. -/
def AllSigned (key : IntegrityKey) (rows : List EventRow) : Prop :=
  ∀ row ∈ rows, ∃ attributes, row.Signed key attributes

/-- The entry of a prepared event whose attributes parse. -/
def EventRow.prepared? (row : EventRow) : Option (String × Json.Value) :=
  match row.attributes.loads with
  | .ok attributes => preparedEntry row attributes
  | .error _ => none

/-- What the first loop remembers of a list of events, the newest first. -/
def Scan.of (rows : List EventRow) : Scan where
  previous := Chain.tip EventRow.digest genesis rows
  eventsByDigest := (rows.map fun row => (row.digest, row)).reverse
  preparedByAction := (rows.filterMap EventRow.prepared?).reverse

/-- One event passes exactly when it is signed and refers to the last digest. -/
theorem scanEvent_eq_some {key : IntegrityKey} {scan next : Scan} {row : EventRow} :
    scanEvent key scan row = .ok (some next) ↔
      row.previousDigest = scan.previous ∧ ∃ attributes, row.Signed key attributes ∧
        next = ⟨row.digest, (row.digest, row) :: scan.eventsByDigest,
          row.prepared?.toList ++ scan.preparedByAction⟩ := by
  simp only [scanEvent, EventRow.Signed, EventRow.body, EventRow.prepared?]
  cases read : row.attributes.loads with
  | error error => simp
  | ok attributes =>
    simp only [Except.ok.injEq, exists_eq_left', and_assoc]
    constructor
    · intro passed
      split at passed
      · simp at passed
      · rename_i intact
        simp only [not_or, not_not] at intact
        obtain ⟨refers, signed⟩ := intact
        simp only [Except.ok.injEq, Option.some.injEq] at passed
        exact ⟨refers, by rw [refers]; exact signed, passed.symm⟩
    · rintro ⟨refers, signed, rfl⟩
      rw [if_neg]
      simp only [not_or, not_not]
      exact ⟨refers, by rw [← refers]; exact signed⟩

/-- The first loop passes exactly on a signed chain, and remembers its events in reverse. -/
theorem scanEvents_eq_some {key : IntegrityKey} {scan final : Scan} {rows : List EventRow} :
    scanEvents key scan rows = .ok (some final) ↔
      Chain.Linked EventRow.previousDigest EventRow.digest scan.previous rows ∧
        AllSigned key rows ∧
          final = ⟨Chain.tip EventRow.digest scan.previous rows,
            (rows.map fun row => (row.digest, row)).reverse ++ scan.eventsByDigest,
            (rows.filterMap EventRow.prepared?).reverse ++ scan.preparedByAction⟩ := by
  induction rows generalizing scan with
  | nil => simp [scanEvents, Chain.Linked, Chain.tip, AllSigned, eq_comm]
  | cons row rows ih =>
    simp only [scanEvents, Chain.Linked, Chain.tip]
    constructor
    · intro passed
      split at passed
      · cases passed
      · simp at passed
      · rename_i next stepped
        obtain ⟨refers, attributes, signed, rfl⟩ := scanEvent_eq_some.mp stepped
        obtain ⟨linked, later, rfl⟩ := ih.mp passed
        refine ⟨⟨refers, linked⟩, ?_, ?_⟩
        · simpa [AllSigned] using ⟨⟨attributes, signed⟩, later⟩
        · cases kind : row.prepared? <;> simp [kind]
    · rintro ⟨⟨refers, linked⟩, signed, rfl⟩
      obtain ⟨attributes, first⟩ := signed row (by simp)
      rw [scanEvent_eq_some.mpr ⟨refers, attributes, first, rfl⟩]
      refine ih.mpr ⟨linked, fun other member => signed other (by simp [member]), ?_⟩
      cases kind : row.prepared? <;> simp [kind]

/-- A record is accepted exactly when it matches the event its digest names and the prepared
event of its action, decodes, and keeps the receipt rules. -/
theorem verifyRecord_eq_true {scan : Scan} {row : RecordRow} :
    verifyRecord scan row = .ok true ↔
      ∃ event members found, scan.eventsByDigest.lookup row.journalDigest = some event ∧
        event.actionId = row.actionId ∧ event.eventType = row.state ∧
          scan.preparedByAction.lookup row.actionId = some (.obj members) ∧
            preparedMatches members row = true ∧ record row = .ok found ∧
              receiptVerified found = true := by
  constructor
  · intro passed
    simp only [verifyRecord] at passed
    split at passed
    · simp at passed
    · rename_i event named
      split at passed
      · simp at passed
      · rename_i identity
        split at passed
        · simp at passed
        · rename_i kind
          split at passed
          · simp at passed
          · simp at passed
          · rename_i members bound
            split at passed
            · simp at passed
            · rename_i fields
              split at passed
              · split at passed <;> simp at passed
              · rename_i found read
                exact ⟨event, members, found, named, not_not.mp identity, not_not.mp kind, bound,
                  not_not.mp fields, read, by simpa using passed⟩
          · simp at passed
  · rintro ⟨event, members, found, named, identity, kind, bound, fields, read, receipt⟩
    simp [verifyRecord, named, identity, kind, bound, fields, read, receipt]

/-- The second loop passes exactly when it accepts every record. -/
theorem verifyRecords_eq_true {scan : Scan} {rows : List RecordRow} :
    verifyRecords scan rows = .ok true ↔ ∀ row ∈ rows, verifyRecord scan row = .ok true := by
  induction rows with
  | nil => simp [verifyRecords]
  | cons row rows ih =>
    simp only [verifyRecords, List.forall_mem_cons]
    split
    · rename_i accepted
      simp [accepted, ih]
    · rename_i outcome refused
      constructor
      · intro accepted
        exact absurd accepted refused
      · rintro ⟨accepted, -⟩
        exact absurd accepted refused

/-- What verification decides. -/
theorem verify_iff {key : IntegrityKey} {journal : Journal} :
    journal.verify key = .ok true ↔
      Chain.Linked EventRow.previousDigest EventRow.digest genesis journal.events.rows ∧
        AllSigned key journal.events.rows ∧
          ∀ row ∈ journal.records.rows,
            verifyRecord (Scan.of journal.events.rows) row = .ok true := by
  have summary : ∀ final, scanEvents key .start journal.events.rows = .ok (some final) ↔
      Chain.Linked EventRow.previousDigest EventRow.digest genesis journal.events.rows ∧
        AllSigned key journal.events.rows ∧ final = Scan.of journal.events.rows := by
    intro final
    rw [scanEvents_eq_some]
    simp [Scan.start, Scan.of]
  simp only [Journal.verify]
  constructor
  · intro passed
    split at passed
    · cases passed
    · simp at passed
    · rename_i scan scanned
      obtain ⟨linked, signed, rfl⟩ := (summary scan).mp scanned
      exact ⟨linked, signed, verifyRecords_eq_true.mp passed⟩
  · rintro ⟨linked, signed, accepted⟩
    rw [(summary _).mpr ⟨linked, signed, rfl⟩]
    exact verifyRecords_eq_true.mpr accepted

/-! ## What the dictionaries hold -/

/-- The digests of signed events are distinct, when HMAC has no collision. -/
theorem digests_nodup (injective : HmacInjective) (log : EventLog) (signed : AllSigned key log.rows) :
    (log.rows.map EventRow.digest).Nodup := by
  rw [List.Nodup, List.pairwise_map]
  refine log.ordered.imp_of_mem ?_
  intro left right first second below same
  obtain ⟨_, _, leftDigest⟩ := signed left first
  obtain ⟨_, _, rightDigest⟩ := signed right second
  rw [leftDigest, rightDigest] at same
  have sequences := (eventBody_canonical (keyedDigest_injective injective same)).1
  omega

end Loops

/-- Under distinct digests an event is remembered under its own digest. -/
theorem lookup_event {rows : List EventRow} (distinct : (rows.map EventRow.digest).Nodup)
    {digest : String} {event : EventRow} :
    (Scan.of rows).eventsByDigest.lookup digest = some event ↔
      event ∈ rows ∧ event.digest = digest := by
  have keys : ((Scan.of rows).eventsByDigest.map Prod.fst).Nodup := by
    simpa [Scan.of, Function.comp_def] using List.nodup_reverse.mpr distinct
  rw [Table.lookup_iff_mem keys]
  simp only [Scan.of, List.mem_reverse, List.mem_map, Prod.mk.injEq]
  constructor
  · rintro ⟨row, member, same, rfl⟩
    exact ⟨member, same⟩
  · rintro ⟨member, same⟩
    exact ⟨event, member, same, rfl⟩

/-- The entry of a prepared event names its action and its attributes. -/
theorem prepared?_eq_some {event : EventRow} {actionId : String} {attributes : Json.Value} :
    event.prepared? = some (actionId, attributes) ↔
      event.eventType = DurableActionState.prepared.value ∧ event.actionId = actionId ∧
        event.attributes.loads = .ok attributes := by
  simp only [EventRow.prepared?, preparedEntry]
  cases read : event.attributes.loads with
  | error error => simp
  | ok value =>
    by_cases kind : event.eventType = DurableActionState.prepared.value
    · simp [kind]
    · simp [kind]

/-- What is remembered for an action comes from a prepared event of that action. -/
theorem lookup_prepared {rows : List EventRow} {actionId : String} {attributes : Json.Value}
    (found : (Scan.of rows).preparedByAction.lookup actionId = some attributes) :
    ∃ event ∈ rows, event.eventType = DurableActionState.prepared.value ∧
      event.actionId = actionId ∧ event.attributes.loads = .ok attributes := by
  have member := Table.mem_of_lookup found
  simp only [Scan.of, List.mem_reverse, List.mem_filterMap] at member
  obtain ⟨event, inside, entry⟩ := member
  exact ⟨event, inside, prepared?_eq_some.mp entry⟩

/-- A prepared event makes its action remembered. -/
theorem exists_prepared {rows : List EventRow} {event : EventRow} {attributes : Json.Value}
    (inside : event ∈ rows) (kind : event.eventType = DurableActionState.prepared.value)
    (read : event.attributes.loads = .ok attributes) :
    ∃ first, (Scan.of rows).preparedByAction.lookup event.actionId = some first := by
  refine Table.exists_lookup (?_ : (event.actionId, attributes) ∈ _)
  simp only [Scan.of, List.mem_reverse, List.mem_filterMap]
  exact ⟨event, inside, prepared?_eq_some.mpr ⟨kind, rfl, read⟩⟩

end DataHarness
