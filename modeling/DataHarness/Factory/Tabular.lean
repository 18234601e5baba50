import DataHarness.Decode.Tables
import DataHarness.Factory.Rendering

/-!
# Datasets as tables

`render_csv` writes a table whose columns are the keys of the first record, and the decoder reads a
record for each of its rows: the texts of the values under their keys. A column of nulls is no row
that the decoder passes over, since the writer quotes an empty field that is alone in its row. What
the decoder refuses are cells that are longer than `csv.reader` takes.
-/

namespace DataHarness

open StandardDecoder

namespace MockDatasetGenerator

variable [Stdlib]

/-! ## Rows -/

omit [Stdlib] in
/-- Values looked up under their own keys are the values in order. -/
theorem map_lookup {α β : Type} {entries : List (String × α)}
    (distinct : (entries.map Prod.fst).Nodup) (shown : Option α → β) :
    (entries.map Prod.fst).map (fun key => shown (entries.lookup key)) =
      entries.map fun entry => shown (some entry.2) := by
  rw [List.map_map]
  refine List.map_congr_left fun entry member => ?_
  have found : entries.lookup entry.1 = some entry.2 :=
    (Table.lookup_iff_mem distinct).mpr member
  show shown (entries.lookup entry.1) = _
  rw [found]

/-- The cells of a record. -/
def cells (record : Record) : List String := record.map fun entry => cellText entry.2

/-- A record under its own keys is written as its cells. -/
theorem dictToList_eq_ok {record : Record} (distinct : (record.map Prod.fst).Nodup)
    {row : List String} :
    dictToList (record.map Prod.fst) record = .ok row ↔
      checkDigits (.obj record) = .ok () ∧ row = cells record := by
  have known : ((record.map Prod.fst).filter
      fun key => !decide (key ∈ record.map Prod.fst)) = [] := by
    rw [List.filter_eq_nil_iff]
    intro key member
    simp [member]
  have written : (record.map Prod.fst).map
      (fun name => cellText ((record.lookup name).getD (.str ""))) = cells record :=
    map_lookup distinct fun value => cellText (value.getD (.str ""))
  unfold dictToList
  rw [known, written]
  constructor
  · intro ran
    obtain ⟨-, ran⟩ := of_require ran
    obtain ⟨⟨⟩, short, same⟩ := of_bind_ok ran
    exact ⟨short, (Except.ok.inj same).symm⟩
  · rintro ⟨short, rfl⟩
    refine bind_ok_iff.mpr ⟨(), rfl, ?_⟩
    exact bind_ok_iff.mpr ⟨(), short, rfl⟩

/-- The table of records with some keys. -/
def table (names : List String) (records : List Record) : List (List String) :=
  names :: records.map cells

/-- Records with the same keys are rendered when their integers are, as the table of their cells. -/
theorem renderCsv_eq_ok {records : List Record} {names : List String} (some : records ≠ [])
    (distinct : names.Nodup) (keys : ∀ record ∈ records, record.map Prod.fst = names)
    {payload : ByteArray} :
    renderCsv records = .ok payload ↔
      (∀ record ∈ records, checkDigits (.obj record) = .ok ()) ∧
        payload = (String.ofList (Csv.write (table names records))).toUTF8 := by
  have row : ∀ record ∈ records, ∀ written, dictToList names record = .ok written ↔
      checkDigits (.obj record) = .ok () ∧ written = cells record := by
    intro record member written
    rw [← keys record member]
    exact dictToList_eq_ok (keys record member ▸ distinct)
  have rows : ∀ written, records.mapM (dictToList names) = .ok written ↔
      (∀ record ∈ records, checkDigits (.obj record) = .ok ()) ∧
        written = records.map cells := by
    intro written
    constructor
    · intro ran
      have each := Loops.forall₂_of_mapM ran
      constructor
      · intro record member
        obtain ⟨own, -, rendered⟩ := Loops.exists_of_forall₂ each.flip member
        exact ((row record member own).mp rendered).1
      · clear ran some
        induction each with
        | nil => rfl
        | @cons record own others rest here _ ih =>
          have first := (row record List.mem_cons_self own).mp here
          rw [List.map_cons, ← ih (fun other member => keys other (List.mem_cons_of_mem _ member))
            fun other member => row other (List.mem_cons_of_mem _ member), first.2]
    · rintro ⟨short, rfl⟩
      refine Loops.mapM_of_forall₂ ?_
      rw [List.forall₂_map_right_iff, List.forall₂_same]
      intro record member
      exact (row record member _).mpr ⟨short record member, rfl⟩
  cases records with
  | nil => exact absurd rfl some
  | cons first others =>
    unfold renderCsv table
    dsimp only
    rw [keys first List.mem_cons_self, bind_ok_iff]
    constructor
    · rintro ⟨written, ran, same⟩
      obtain ⟨short, own⟩ := (rows written).mp ran
      rw [own] at same
      exact ⟨short, (Except.ok.inj same).symm⟩
    · rintro ⟨short, same⟩
      exact ⟨_, (rows _).mpr ⟨short, rfl⟩, congrArg Except.ok same.symm⟩

/-! ## Records of rows -/

/-- What the decoder makes of a record that was written: the texts of its values. -/
def tableRecord (record : Record) : Json.Value :=
  .obj (record.map fun entry => (entry.1, .str (cellText entry.2)))

/-- The cells of a record, under its keys. -/
theorem dictRow_cells {record : Record} (distinct : (record.map Prod.fst).Nodup) :
    dictRow (record.map Prod.fst) (cells record) =
      record.map fun entry => (some entry.1, Cell.text (cellText entry.2)) := by
  have lengths : (cells record).length = (record.map Prod.fst).length := by
    unfold cells
    rw [List.length_map, List.length_map]
  have pairs : (record.map Prod.fst).zip (cells record) =
      record.map fun entry => (entry.1, cellText entry.2) := List.zip_map'
  rw [dictRow_eq distinct lengths.le, rowEntries, lengths, List.drop_length, List.map_nil,
    List.append_nil, pairs, List.map_map]
  rfl

/-- They are the members of the record that is decoded. -/
theorem recordJson_cells {record : Record} :
    recordJson (record.map fun entry => (some entry.1, Cell.text (cellText entry.2))) =
      some (tableRecord record) := by
  have members : ∀ entries : Record,
      textMembers (entries.map fun entry => (some entry.1, Cell.text (cellText entry.2))) =
        some (entries.map fun entry => (entry.1, .str (cellText entry.2))) := by
    intro entries
    induction entries with
    | nil => rfl
    | cons entry entries ih =>
      rw [List.map_cons, textMembers, ih]
      rfl
  unfold recordJson tableRecord
  split
  · rename_i alone
    cases record with
    | nil => cases alone
    | cons entry record => cases (Prod.mk.inj (List.cons.inj alone).1).1
  · rw [members]
    rfl

/-- The records of a table that was rendered. -/
theorem dictRows_table {records : List Record} {names : List String} (named : names ≠ [])
    (distinct : names.Nodup) (keys : ∀ record ∈ records, record.map Prod.fst = names) :
    (dictRows (table names records)).length = records.length ∧
      recordsPayload (dictRows (table names records)) = .json (.arr (records.map tableRecord)) := by
  have data : dataRows (table names records) = records.map cells := by
    unfold dataRows table
    rw [List.tail_cons, List.filter_eq_self]
    intro row member
    obtain ⟨record, among, rfl⟩ := List.mem_map.mp member
    rw [decide_eq_true_eq]
    intro none
    apply named
    rw [← keys record among, List.map_eq_nil_iff.mp none]
    rfl
  have rows : dictRows (table names records) = records.map fun record =>
      record.map fun entry => (some entry.1, Cell.text (cellText entry.2)) := by
    unfold dictRows
    rw [data, List.map_map]
    refine List.map_congr_left fun record member => ?_
    have own := keys record member
    show dictRow names (cells record) = _
    rw [← own]
    exact dictRow_cells (own ▸ distinct)
  have values : (dictRows (table names records)).mapM recordJson =
      some (records.map tableRecord) := by
    rw [rows]
    clear rows data keys
    induction records with
    | nil => rfl
    | cons record records ih =>
      rw [List.map_cons, List.mapM_cons, recordJson_cells, ih]
      rfl
  constructor
  · rw [rows, List.length_map]
  · unfold recordsPayload
    rw [values]

/-! ## Decoding -/

variable [Interpreter] [HTMLParser]

/-- A request is decoded to the texts of records, a row for each. -/
def DecodesTable (limits : DecoderLimits) (request : DecodeRequest) (records : List Record) :
    Prop :=
  ∃ answer, decode limits request = .ok answer ∧
    answer.batches.map (fun batch => (batch.payload, batch.rowCount)) =
      [(.json (.arr (records.map tableRecord)), some records.length)]

/-- A generated dataset that was rendered as CSV, within the limits of the decoder, is decoded to the
texts of its values exactly when no key and no text is longer than `csv.reader` takes. -/
theorem table_decoded {streams : RandomStreams} {definition : IndustryPackDefinition}
    {pack : GeneratedPack} (ran : generate streams definition = .ok pack) {id : PyText}
    {records : List Record} (held : pack.lookup id = some records) {payload : ByteArray}
    (rendered : renderCsv records = .ok payload) {limits : DecoderLimits}
    {request : DecodeRequest} (sent : request.payload = payload)
    (format : request.payloadFormat = .csv)
    (typed : lower request.mediaType ∈ ["text/csv", "application/csv"])
    (small : payload.size ≤ limits.maxPayloadBytes ∧
      ∀ text, String.fromUTF8? payload = some text → text.length ≤ limits.maxTextCharacters)
    (few : records.length ≤ limits.maxRecords) :
    DecodesTable limits request records ↔
      ∀ record ∈ records, ∀ entry ∈ record, entry.1.length ≤ Csv.fieldLimit ∧
        (cellText entry.2).length ≤ Csv.fieldLimit := by
  obtain ⟨names, named, distinct, filled, keys⟩ := (built_of_generate ran).keys held
  obtain ⟨-, rfl⟩ := (renderCsv_eq_ok filled distinct keys).mp rendered
  obtain ⟨count, values⟩ := dictRows_table named distinct keys
  have fits : (∀ row ∈ table names records, Csv.Fits row) ↔
      ∀ record ∈ records, ∀ entry ∈ record, entry.1.length ≤ Csv.fieldLimit ∧
        (cellText entry.2).length ≤ Csv.fieldLimit := by
    unfold table
    rw [List.forall_mem_cons, List.forall_mem_map]
    constructor
    · rintro ⟨columns, rows⟩ record member entry inside
      refine ⟨columns entry.1 ?_, rows record member _ (List.mem_map_of_mem inside)⟩
      rw [← keys record member]
      exact List.mem_map_of_mem inside
    · intro each
      obtain ⟨first, others, split⟩ := List.exists_cons_of_ne_nil filled
      have among : first ∈ records := split ▸ List.mem_cons_self
      constructor
      · intro name member
        rw [← keys first among] at member
        obtain ⟨entry, inside, rfl⟩ := List.mem_map.mp member
        exact (each first among entry inside).1
      · intro record member cell inside
        obtain ⟨entry, own, rfl⟩ := List.mem_map.mp inside
        exact (each record member entry own).2
  have valid : String.fromUTF8? request.payload =
      some (String.ofList (Csv.write (table names records))) := by
    rw [sent]
    exact fromUTF8?_toUTF8 _
  have read : readText limits request =
      .ok (String.ofList (Csv.write (table names records))) := by
    have known : mediaTypes request.payloadFormat = .ok ["text/csv", "application/csv"] := by
      rw [format]
      rfl
    exact readText_eq_ok.mpr ⟨sent.symm ▸ small.1, ⟨_, known, typed⟩, valid,
      small.2 _ (sent ▸ valid)⟩
  have parsed := Csv.rows_write (table names records)
  rw [← fits]
  by_cases fit : ∀ row ∈ table names records, Csv.Fits row
  · rw [if_pos fit, ← @String.toList_ofList (Csv.write _)] at parsed
    refine ⟨fun _ => fit, fun _ => ⟨_, decode_eq_ok.mpr ⟨_, _, read, parse_csv format parsed,
      count.trans_le few, rfl⟩, ?_⟩⟩
    show [(recordsPayload (dictRows (table names records)),
      some (dictRows (table names records)).length)] = _
    rw [values, count]
  · rw [if_neg fit, ← @String.toList_ofList (Csv.write _)] at parsed
    refine ⟨?_, fun whole => absurd whole fit⟩
    rintro ⟨answer, decoded, -⟩
    obtain ⟨text, made, again, done, -⟩ := decode_eq_ok.mp decoded
    obtain rfl := Except.ok.inj (read.symm.trans again)
    unfold parse at done
    rw [format] at done
    simp only [parsed] at done
    cases done

/-- The table of the children. -/
def familyTable : letI := Stdlib.transparent; String :=
  letI := Stdlib.transparent
  String.ofList (Csv.write (table ["parent_id"] familyChildren))

omit [Stdlib] [Interpreter] [HTMLParser] in
/-- It is a text, and named by its media type. -/
theorem familyTable_filled : familyTable ≠ "" ∧ "text/csv" ≠ "" := by decide +kernel

omit [Stdlib] [Interpreter] [HTMLParser] in
/-- The children are decoded from their table. -/
theorem table_decoded_family :
    @DecodesTable .transparent .small .plain .standard
      (textRequest familyTable .csv "text/csv" familyTable_filled) familyChildren := by
  let library := Stdlib.transparent
  have short : (familyChildren.all fun record => (checkDigits (.obj record)).toBool) = true := by
    decide +kernel
  have keys : ∀ record ∈ familyChildren, record.map Prod.fst = ["parent_id"] := by decide +kernel
  have rendered : renderCsv familyChildren = .ok familyTable.toUTF8 :=
    (renderCsv_eq_ok (List.cons_ne_nil _ _) (by decide) keys).mpr
      ⟨fun record member => passes (List.all_eq_true.mp short record member), rfl⟩
  have characters : ∀ text, String.fromUTF8? familyTable.toUTF8 = some text →
      text.length ≤ DecoderLimits.standard.maxTextCharacters := by
    intro text read
    obtain rfl : familyTable = text := Option.some.inj ((fromUTF8?_toUTF8 _).symm.trans read)
    decide +kernel
  refine (@table_decoded _ .small .plain _ _ _ generate_family "children" _ rfl _ rendered
    .standard (textRequest familyTable .csv "text/csv" familyTable_filled) rfl rfl (by decide)
    ⟨by decide +kernel, characters⟩ (by decide +kernel)).mpr ?_
  have fits : (familyChildren.all fun record => record.all fun entry =>
      decide (entry.1.length ≤ Csv.fieldLimit ∧ (cellText entry.2).length ≤ Csv.fieldLimit)) =
      true := by decide +kernel
  intro record member entry inside
  have own := List.all_eq_true.mp fits record member
  exact of_decide_eq_true (List.all_eq_true.mp own entry inside)

end MockDatasetGenerator

end DataHarness
