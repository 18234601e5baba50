import DataHarness.Decode.Decoder
import DataHarness.Query.Runtime

/-!
# Tables

The decoder takes the records of `csv.DictReader` as they are: a row that is longer than the
header has a key `None`, and of columns with one name all cells but the last are lost. Tables
without such rows and names are decoded cell by cell, to a payload the gateway can encode
(`tables_iff`).
-/

namespace DataHarness

open StandardDecoder

/-! ## Records as JSON -/

/-- A cell is finite JSON. -/
theorem finite_cell (cell : Cell) : finite cell.toJson = true := by
  cases cell with
  | text value => rfl
  | none => rfl
  | surplus values =>
    unfold Cell.toJson finite
    induction values with
    | nil => rfl
    | cons value values ih => rw [List.map_cons, finiteItems, ih]; rfl

/-- A cell has no integer. -/
theorem writable_cell (cell : Cell) : writable cell.toJson = true := by
  cases cell with
  | text value => rfl
  | none => rfl
  | surplus values =>
    unfold Cell.toJson writable
    induction values with
    | nil => rfl
    | cons value values ih => rw [List.map_cons, writableItems, ih]; rfl

/-- The members of a record whose keys are texts are finite and can be written. -/
theorem textMembers_of_keys {record : CsvRecord} {names : List String}
    (keys : record.map Prod.fst = names.map some) :
    ∃ members, textMembers record = some members ∧ finiteMembers members = true ∧
      writableMembers members = true := by
  induction record generalizing names with
  | nil => exact ⟨[], rfl, rfl, rfl⟩
  | cons entry record ih =>
    obtain ⟨key, cell⟩ := entry
    cases names with
    | nil => cases keys
    | cons name names =>
      obtain ⟨rfl, rest⟩ := List.cons.inj keys
      obtain ⟨members, written, small, short⟩ := ih rest
      refine ⟨(name, cell.toJson) :: members, ?_, ?_, ?_⟩
      · rw [textMembers, written]
      · rw [finiteMembers, finite_cell, small]
        rfl
      · rw [writableMembers, writable_cell, short]
        rfl

/-- A record that keeps its row is finite JSON that can be written. -/
theorem recordJson_of_keeps {header row : List String} {record : CsvRecord}
    (keeps : Keeps header row record) :
    ∃ value, recordJson record = some value ∧ finite value = true ∧ writable value = true := by
  obtain ⟨members, written, small, short⟩ := textMembers_of_keys keeps.keys
  refine ⟨.obj members, ?_, small, short⟩
  unfold recordJson
  split
  · cases written
  · rw [written]
    rfl

/-- Records that keep their rows are a payload the gateway can encode. -/
theorem encoded_of_keeps {header : List String} {rows : List (List String)}
    {records : List CsvRecord} (kept : List.Forall₂ (Keeps header) rows records) :
    ∃ size, (recordsPayload records).encoded = some size := by
  obtain ⟨values, written, small, short⟩ : ∃ values, records.mapM recordJson = some values ∧
      finiteItems values = true ∧ writableItems values = true := by
    induction kept with
    | nil => exact ⟨[], rfl, rfl, rfl⟩
    | cons own _ ih =>
      obtain ⟨value, first, bounded, told⟩ := recordJson_of_keeps own
      obtain ⟨values, rest, small, short⟩ := ih
      refine ⟨value :: values, ?_, ?_, ?_⟩
      · rw [List.mapM_cons, first, rest]
        rfl
      · rw [finiteItems, bounded, small]
        rfl
      · rw [writableItems, told, short]
        rfl
  unfold recordsPayload
  rw [written]
  exact ⟨_, Payload.encoded_json small short⟩

/-! ## Batches -/

/-- A batch has the records of rows, which keep their cells, and the gateway can encode it. -/
structure KeepsCells (rows : List (List String)) (batch : DataBatch) : Prop where
  payload : batch.payload = recordsPayload (dictRows rows)
  kept : List.Forall₂ (Keeps (headerOf rows)) (dataRows rows) (dictRows rows)
  encodable : ∃ size, HarnessGateway.batchBytes batch = .ok size

/-- A table has no rows but its header, or its columns are named apart and no row is too long. -/
def Regular (rows : List (List String)) : Prop :=
  dataRows rows = [] ∨
    (headerOf rows).Nodup ∧ ∀ row ∈ dataRows rows, row.length ≤ (headerOf rows).length

/-- The records of a table keep its rows exactly when it is regular. -/
theorem regular_iff {rows : List (List String)} :
    Regular rows ↔ List.Forall₂ (Keeps (headerOf rows)) (dataRows rows) (dictRows rows) := by
  unfold Regular dictRows
  rw [List.forall₂_map_right_iff, List.forall₂_same]
  simp only [keeps_iff]
  constructor
  · rintro (empty | ⟨distinct, fits⟩) row member
    · rw [empty] at member
      cases member
    · exact ⟨distinct, fits row member⟩
  · intro each
    cases filled : dataRows rows with
    | nil => exact .inl rfl
    | cons row others =>
      rw [filled] at each
      exact .inr ⟨(each row List.mem_cons_self).1, fun other member => (each other member).2⟩

/-! ## Requests -/

section Tables

variable [Interpreter] [HTMLParser]

/-- A request is answered with records that keep the cells of its payload, or rejected. -/
structure AcceptsTables (limits : DecoderLimits) (request : DecodeRequest) : Prop where
  accepted : ∀ answer, decode limits request = .ok answer →
    ∃ text rows, String.fromUTF8? request.payload = some text ∧ Csv.rows text.toList = .ok rows ∧
      ∀ batch ∈ answer.batches, KeepsCells rows batch
  rejected : ∀ error, decode limits request = .error error → ∃ message, error = .rejected message

/-- A request that is not answered is rejected. -/
theorem acceptsTables_of_error {limits : DecoderLimits} {request : DecodeRequest}
    {error : DecodeError} (raised : decode limits request = .error error) :
    AcceptsTables limits request ↔ ∃ message, error = .rejected message := by
  constructor
  · intro accepts
    exact accepts.rejected error raised
  · intro rejected
    constructor
    · intro answer done
      rw [raised] at done
      cases done
    · intro other again
      rw [← Except.error.inj (raised.symm.trans again)]
      exact rejected

/-- What is made of a table. -/
theorem parse_csv {request : DecodeRequest} {text : String} {rows : List (List String)}
    (format : request.payloadFormat = .csv) (parsed : Csv.rows text.toList = .ok rows) :
    parse request text =
      .ok ⟨recordsPayload (dictRows rows), (dictRows rows).length, .arrow, warnings text⟩ := by
  unfold parse
  rw [format]
  simp only [parsed]

/-- A table that is read and has few enough rows is answered with records that keep its cells
exactly when it is regular. -/
theorem acceptsTables_of_ok {limits : DecoderLimits} {request : DecodeRequest} {text : String}
    {rows : List (List String)} (format : request.payloadFormat = .csv)
    (read : readText limits request = .ok text) (parsed : Csv.rows text.toList = .ok rows)
    (few : (dataRows rows).length ≤ limits.maxRecords) :
    AcceptsTables limits request ↔ Regular rows := by
  have done := parse_csv format parsed
  have count : (dictRows rows).length = (dataRows rows).length := List.length_map _
  have answered := decode_eq_ok.mpr ⟨text, _, read, done, count.trans_le few, rfl⟩
  have valid := (readText_eq_ok.mp read).valid
  constructor
  · intro accepts
    obtain ⟨other, rows', whole, own, kept⟩ := accepts.accepted _ answered
    obtain rfl := Option.some.inj (valid.symm.trans whole)
    obtain rfl := Except.ok.inj (parsed.symm.trans own)
    exact regular_iff.mpr (kept _ List.mem_cons_self).kept
  · intro regular
    have kept := regular_iff.mp regular
    obtain ⟨size, encoded⟩ := encoded_of_keeps kept
    constructor
    · intro answer again
      obtain rfl := Except.ok.inj (answered.symm.trans again)
      refine ⟨text, rows, valid, parsed, fun batch member => ?_⟩
      obtain rfl := List.mem_singleton.mp member
      exact ⟨rfl, kept, _, HarnessGateway.batchBytes_of_encoded encoded⟩
    · intro error raised
      rw [answered] at raised
      cases raised

/-- A request for a table is answered with records that keep its cells and that the gateway can
encode, or rejected, exactly when the table is regular, or is not read, or has too many rows. -/
theorem tables_iff {limits : DecoderLimits} {request : DecodeRequest}
    (format : request.payloadFormat = .csv) :
    AcceptsTables limits request ↔
      ∀ text, Admitted limits request text → ∀ rows, Csv.rows text.toList = .ok rows →
        (dataRows rows).length ≤ limits.maxRecords → Regular rows := by
  cases read : readText limits request with
  | error error =>
    have known : mediaTypes request.payloadFormat = .ok ["text/csv", "application/csv"] := by
      rw [format]
      rfl
    rw [acceptsTables_of_error (decode_unread read)]
    constructor
    · intro _ text admitted
      exact absurd admitted (not_admitted read text)
    · intro _
      exact readText_rejected known read
  | ok text =>
    rw [forall_admitted read]
    cases parsed : Csv.rows text.toList with
    | error error =>
      have failed : parse request text = .error (.rejected "payload is not valid bounded CSV") := by
        unfold parse
        rw [format]
        simp only [parsed]
      rw [acceptsTables_of_error (decode_unparsed read failed)]
      constructor
      · intro _ rows again
        cases again
      · intro _
        exact ⟨_, rfl⟩
    | ok rows =>
      have done := parse_csv format parsed
      have count : (dictRows rows).length = (dataRows rows).length := List.length_map _
      by_cases few : (dataRows rows).length ≤ limits.maxRecords
      · rw [acceptsTables_of_ok format read parsed few]
        constructor
        · intro regular others again _
          rw [← Except.ok.inj again]
          exact regular
        · intro regular
          exact regular rows rfl few
      · have many : limits.maxRecords < (dictRows rows).length := by omega
        rw [acceptsTables_of_error (decode_too_many read done many)]
        constructor
        · intro _ others again small
          rw [← Except.ok.inj again] at small
          exact absurd small few
        · intro _
          exact ⟨_, rfl⟩

end Tables

/-! ## Small tables -/

/-- A row with a cell for each column. -/
theorem tables_small :
    @AcceptsTables .small .plain .standard
      (textRequest "a,b\n1,2\n" .csv "text/csv" (by decide)) := by
  refine (@tables_iff .small .plain .standard
    (textRequest "a,b\n1,2\n" .csv "text/csv" (by decide)) rfl).mpr fun text admitted => ?_
  obtain rfl : text = "a,b\n1,2\n" :=
    (Option.some.inj ((fromUTF8?_toUTF8 "a,b\n1,2\n").symm.trans admitted.valid)).symm
  have parsed : Csv.rows "a,b\n1,2\n".toList = .ok [["a", "b"], ["1", "2"]] := rfl
  intro rows again _
  obtain rfl := Except.ok.inj (parsed.symm.trans again)
  right
  decide

/-- A row with a cell too many is accepted, under a key that is no name. -/
theorem surplus_accepted :
    ¬ @AcceptsTables .small .plain .standard
      (textRequest "a,b\n1,2,3\n" .csv "text/csv" (by decide)) := by
  have read : readText .standard (textRequest "a,b\n1,2,3\n" .csv "text/csv" (by decide)) =
      .ok "a,b\n1,2,3\n" := readText_textRequest (by decide) rfl (by decide) (by decide)
  have parsed : Csv.rows "a,b\n1,2,3\n".toList = .ok [["a", "b"], ["1", "2", "3"]] := rfl
  have done := @parse_csv .small .plain
    (textRequest "a,b\n1,2,3\n" .csv "text/csv" (by decide)) _ _ rfl parsed
  have answered := (@decode_eq_ok .small .plain .standard _ _).mpr
    ⟨_, _, read, done, by decide, rfl⟩
  intro accepts
  obtain ⟨text, rows, valid, own, kept⟩ :=
    @AcceptsTables.accepted .small .plain _ _ accepts _ answered
  obtain rfl := Option.some.inj ((fromUTF8?_toUTF8 "a,b\n1,2,3\n").symm.trans valid)
  obtain rfl := Except.ok.inj (parsed.symm.trans own)
  obtain ⟨-, first, -⟩ := kept _ List.mem_cons_self
  cases first with
  | cons keeps _ => exact absurd (keeps_iff.mp keeps).2 (by decide)

end DataHarness
