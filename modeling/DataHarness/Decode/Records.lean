import DataHarness.Models

/-!
# `csv.DictReader`

The records of rows: the first row names the columns, and empty rows are passed over. A row that
is too short leaves columns at `None`; one that is too long puts its surplus cells under the key
`None`; and of columns with one name the last one counts.
-/

namespace DataHarness

/-- A value of a record. -/
inductive Cell
  | text (value : String)
  | none
  | surplus (values : List String)
deriving DecidableEq

/-- A record in the order of its keys; the key `None` is `none`. -/
abbrev CsvRecord := List (Option String × Cell)

/-- `record[key] = cell`: a key that is there keeps its place. -/
def setCell (record : CsvRecord) (entry : Option String × Cell) : CsvRecord :=
  if record.any fun other => other.1 = entry.1 then
    record.map fun other => if other.1 = entry.1 then entry else other
  else record ++ [entry]

/-- `DictReader.__next__`, of a row that is not empty. -/
def dictRow (header row : List String) : CsvRecord :=
  let record := ((header.zip row).map fun pair => (some pair.1, Cell.text pair.2)).foldl setCell []
  if header.length < row.length then
    setCell record (Option.none, .surplus (row.drop header.length))
  else ((header.drop row.length).map fun name => (some name, Cell.none)).foldl setCell record

/-- The names of the columns. -/
def headerOf (rows : List (List String)) : List String := rows.head?.getD []

/-- The rows under the header that are not empty. -/
def dataRows (rows : List (List String)) : List (List String) := rows.tail.filter (· ≠ [])

/-- `list(csv.DictReader(…))`. -/
def dictRows (rows : List (List String)) : List CsvRecord :=
  (dataRows rows).map (dictRow (headerOf rows))

/-! ## Records as JSON -/

/-- A cell as JSON. -/
def Cell.toJson : Cell → Json.Value
  | text value => .str value
  | none => .null
  | surplus values => .arr (values.map .str)

/-- The members of a record whose keys are texts. -/
def textMembers : CsvRecord → Option (List (String × Json.Value))
  | [] => some []
  | (some name, cell) :: record =>
    match textMembers record with
    | some members => some ((name, cell.toJson) :: members)
    | Option.none => Option.none
  | (Option.none, _) :: _ => Option.none

/-- `json.dumps(record, sort_keys=True)` goes through: the keys are texts, or `None` is the only
one, which is written as `null`. -/
def recordJson : CsvRecord → Option Json.Value
  | [(Option.none, cell)] => some (.obj [("null", cell.toJson)])
  | record => (textMembers record).map .obj

/-- Records as a payload. -/
def recordsPayload (records : List CsvRecord) : Payload :=
  match records.mapM recordJson with
  | some values => .json (.arr values)
  | Option.none =>
    .unwritable (.typeError "'<' not supported between instances of 'NoneType' and 'str'")
      (some records.length)

/-! ## Records that keep their row -/

/-- A record has the header names as its keys, and the cells of a row under their names. -/
structure Keeps (header row : List String) (record : CsvRecord) : Prop where
  keys : record.map Prod.fst = header.map some
  distinct : header.Nodup
  cells : ∀ (index : Nat) (cell : String), row[index]? = some cell →
    ∃ name, header[index]? = some name ∧ (some name, Cell.text cell) ∈ record

/-- New keys that differ come last, in order. -/
theorem foldl_setCell {record entries : CsvRecord}
    (distinct : ((record ++ entries).map Prod.fst).Nodup) :
    entries.foldl setCell record = record ++ entries := by
  induction entries generalizing record with
  | nil => rw [List.foldl_nil, List.append_nil]
  | cons entry entries ih =>
    have fresh : entry.1 ∉ record.map Prod.fst := by
      rw [List.map_append, List.nodup_append] at distinct
      intro there
      exact distinct.2.2 _ there entry.1 (by simp) rfl
    have none : ¬ (record.any fun other => other.1 = entry.1) = true := by
      intro found
      obtain ⟨other, inside, same⟩ := List.any_eq_true.mp found
      rw [← of_decide_eq_true same] at fresh
      exact fresh (List.mem_map_of_mem inside)
    have set : setCell record entry = record ++ [entry] := if_neg none
    rw [List.foldl_cons, set, ih, List.append_assoc, List.singleton_append]
    rw [List.append_assoc, List.singleton_append]
    exact distinct

/-- The names of the columns a row has cells for. -/
theorem fst_zip (header row : List String) :
    (header.zip row).map Prod.fst = header.take row.length := by
  induction header generalizing row with
  | nil => simp
  | cons name header ih =>
    cases row with
    | nil => rfl
    | cons cell row => simp [ih]

/-- The entries of a row: its cells, and `None` for the columns it has none for. -/
def rowEntries (header row : List String) : CsvRecord :=
  ((header.zip row).map fun pair => (some pair.1, Cell.text pair.2)) ++
    (header.drop row.length).map fun name => (some name, Cell.none)

/-- The entries of a row are under the header names. -/
theorem keys_rowEntries (header row : List String) :
    (rowEntries header row).map Prod.fst = header.map some := by
  have names : ((header.zip row).map fun pair => (some pair.1, Cell.text pair.2)).map Prod.fst =
      (header.take row.length).map some := by
    rw [← fst_zip, List.map_map, List.map_map]
    rfl
  have others : ((header.drop row.length).map fun name => (some name, Cell.none)).map Prod.fst =
      (header.drop row.length).map some := by
    rw [List.map_map]
    rfl
  unfold rowEntries
  rw [List.map_append, names, others, ← List.map_append, List.take_append_drop]

/-- The record of a row that is not too long, under names that differ. -/
theorem dictRow_eq {header row : List String} (distinct : header.Nodup)
    (fits : row.length ≤ header.length) : dictRow header row = rowEntries header row := by
  have apart : ((rowEntries header row).map Prod.fst).Nodup := by
    rw [keys_rowEntries]
    exact distinct.map (Option.some_injective String)
  have first : (((header.zip row).map fun pair => (some pair.1, Cell.text pair.2)).map
      Prod.fst).Nodup := by
    unfold rowEntries at apart
    rw [List.map_append] at apart
    exact (List.nodup_append.mp apart).1
  unfold dictRow
  dsimp only
  rw [if_neg (not_lt.mpr fits), @foldl_setCell [] _ first, List.nil_append, foldl_setCell apart]
  rfl

/-- The record of a row that is too long has the key `None`. -/
theorem mem_dictRow {header row : List String} (long : header.length < row.length) :
    Option.none ∈ (dictRow header row).map Prod.fst := by
  have set : ∀ (record : CsvRecord) (entry : Option String × Cell),
      entry.1 ∈ (setCell record entry).map Prod.fst := by
    intro record entry
    unfold setCell
    split
    · rename_i there
      obtain ⟨other, inside, same⟩ := List.any_eq_true.mp there
      have here : other.1 = entry.1 := of_decide_eq_true same
      exact List.mem_map.mpr ⟨entry, List.mem_map.mpr ⟨other, inside, if_pos here⟩, rfl⟩
    · simp
  unfold dictRow
  dsimp only
  rw [if_pos long]
  exact set _ _

/-- A record keeps its row exactly when the names differ and the row is not too long. -/
theorem keeps_iff {header row : List String} :
    Keeps header row (dictRow header row) ↔ header.Nodup ∧ row.length ≤ header.length := by
  constructor
  · intro keeps
    refine ⟨keeps.distinct, ?_⟩
    by_contra long
    have surplus := mem_dictRow (not_le.mp long)
    rw [keeps.keys] at surplus
    simp at surplus
  · rintro ⟨distinct, fits⟩
    rw [dictRow_eq distinct fits]
    refine ⟨keys_rowEntries header row, distinct, fun index cell here => ?_⟩
    have short : index < header.length :=
      lt_of_lt_of_le (List.getElem?_eq_some_iff.mp here).1 fits
    obtain ⟨name, named⟩ : ∃ name, header[index]? = some name :=
      ⟨header[index], List.getElem?_eq_getElem short⟩
    have pair : (header.zip row)[index]? = some (name, cell) := by
      rw [List.getElem?_zip_eq_some]
      exact ⟨named, here⟩
    refine ⟨name, named, List.mem_append_left _ (List.mem_map.mpr ⟨(name, cell), ?_, rfl⟩)⟩
    exact List.mem_of_getElem? pair

end DataHarness
