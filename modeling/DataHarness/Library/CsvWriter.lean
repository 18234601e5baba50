import DataHarness.Library.CsvReader

/-!
# Writing comma-separated text

The text of rows as the `excel` dialect of `csv.writer` writes them. A reader gives back the rows
that were written, the empty ones and those of one empty field included, unless a field is longer
than it takes (`rows_write`).
-/

namespace Csv

open Machine

/-! ## The writer -/

/-- A field with such a character is quoted. -/
def isSpecial (c : Char) : Bool := c == ',' || c == '"' || isEnd c

/-- A character inside quotes. -/
def spell (c : Char) : List Char := if c = '"' then ['"', '"'] else [c]

/-- `join_append`: a field, in quotes if it needs them. -/
def writeField (field : String) : List Char :=
  if field.toList.any isSpecial then '"' :: (field.toList.flatMap spell ++ ['"'])
  else field.toList

/-- The fields of a row with commas between them. -/
def joinFields : List String → List Char
  | [] => []
  | [field] => writeField field
  | field :: next :: fields => writeField field ++ ',' :: joinFields (next :: fields)

/-- `writerow`: a row of fields that are joined to nothing is written as one quoted field. -/
def writeRow (fields : List String) : List Char :=
  (if fields ≠ [] ∧ joinFields fields = [] then ['"', '"'] else joinFields fields) ++ ['\r', '\n']

/-- `writerows`. -/
def write (table : List (List String)) : List Char := table.flatMap writeRow

/-- A reader takes every field of a row. -/
def Fits (row : List String) : Prop := ∀ field ∈ row, field.toList.length ≤ fieldLimit

instance (row : List String) : Decidable (Fits row) :=
  inferInstanceAs (Decidable (∀ field ∈ row, field.toList.length ≤ fieldLimit))

/-! ## A field -/

/-- A machine with more of a field, and its place behind it. -/
def Machine.added (machine : Machine) (text : List Char) (place : Place) : Except Error Machine :=
  if fieldLimit < machine.field.length + text.length then .error .fieldTooLong
  else .ok { machine with
    field := machine.field ++ text
    place := if text = [] then machine.place else place }

/-- Characters that each add themselves add their text. -/
theorem foldlM_added {shown : Char → List Char} {text : List Char} {place : Place}
    {stands : Place → Prop} (again : stands place)
    (adds : ∀ c ∈ text, ∀ machine : Machine, stands machine.place →
      (shown c).foldlM readText machine = machine.addChar c place)
    {machine : Machine} (here : stands machine.place)
    (room : machine.field.length ≤ fieldLimit) :
    (text.flatMap shown).foldlM readText machine = machine.added text place := by
  induction text generalizing machine with
  | nil =>
    have fits : ¬ fieldLimit < machine.field.length + ([] : List Char).length := by
      rw [List.length_nil]
      omega
    show Except.ok machine = machine.added [] place
    rw [added, if_neg fits, List.append_nil, if_pos rfl]
  | cons c text ih =>
    have later : ∀ d ∈ text, ∀ machine : Machine, stands machine.place →
        (shown d).foldlM readText machine = machine.addChar d place :=
      fun d member => adds d (List.mem_cons_of_mem _ member)
    rw [List.flatMap_cons, List.foldlM_append, adds c List.mem_cons_self machine here, addChar]
    by_cases full : fieldLimit ≤ machine.field.length
    · have long : fieldLimit < machine.field.length + (c :: text).length := by
        rw [List.length_cons]
        omega
      rw [if_pos full, added, if_pos long]
      rfl
    · have longer : (machine.field ++ [c]).length ≤ fieldLimit := by
        rw [List.length_append, List.length_singleton]
        omega
      rw [if_neg full]
      show (text.flatMap shown).foldlM readText
        { machine with field := machine.field ++ [c], place } = _
      rw [ih later again longer, added, added]
      have lengths : (machine.field ++ [c]).length + text.length =
          machine.field.length + (c :: text).length := by
        simp only [List.length_append, List.length_cons, List.length_nil]
        omega
      have places : (if text = [] then place else place) = place := ite_self place
      rw [lengths, List.append_assoc, List.singleton_append, places,
        if_neg (List.cons_ne_nil c text)]

/-- A character that is added, and ends no line or stands inside quotes, is all that is read. -/
theorem readText_of_added {c : Char} {machine : Machine} {place : Place}
    (read : machine.readChar c = machine.addChar c place)
    (goesOn : c ≠ '\n' ∨ place = .inQuotedField) :
    machine.readText c = machine.addChar c place := by
  unfold readText
  rw [read, addChar]
  by_cases full : fieldLimit ≤ machine.field.length
  · rw [if_pos full]
  · rw [if_neg full]
    by_cases feed : c = '\n'
    · obtain rfl := goesOn.resolve_left (not_not.mpr feed)
      exact congrArg Except.ok (if_pos feed)
    · exact congrArg Except.ok (if_neg feed)

/-- A character that is not special adds itself to a field without quotes. -/
theorem readText_plain {c : Char} (plain : isSpecial c = false) {machine : Machine}
    (here : machine.place = .startRecord ∨ machine.place = .startField ∨
      machine.place = .inField) :
    [c].foldlM readText machine = machine.addChar c .inField := by
  simp only [isSpecial, Bool.or_eq_false_iff, beq_eq_false_iff_ne, ne_eq] at plain
  obtain ⟨⟨comma, quote⟩, ends⟩ := plain
  have feed : c ≠ '\n' := by
    rintro rfl
    cases ends
  have read : machine.readChar c = machine.addChar c .inField := by
    rcases here with place | place | place <;>
      simp [readChar, place, readStart, readField, ends, comma, quote]
  rw [List.foldlM_cons, readText_of_added read (.inl feed)]
  exact bind_pure _

/-- A character inside quotes adds itself. -/
theorem readText_spell (c : Char) {machine : Machine} (here : machine.place = .inQuotedField) :
    (spell c).foldlM readText machine = machine.addChar c .inQuotedField := by
  unfold spell
  by_cases quote : c = '"'
  · rw [if_pos quote, quote, List.foldlM_cons]
    have first : machine.readText '"' =
        .ok { machine with place := .quoteInQuotedField } := by
      unfold readText readChar
      rw [here]
      rfl
    have second : ({ machine with place := .quoteInQuotedField } : Machine).readText '"' =
        machine.addChar '"' .inQuotedField := readText_of_added rfl (.inr rfl)
    rw [first]
    show ({ machine with place := .quoteInQuotedField } : Machine).readText '"' >>= pure = _
    rw [second]
    exact bind_pure _
  · have read : machine.readChar c = machine.addChar c .inQuotedField := by
      simp [readChar, here, quote]
    rw [if_neg quote, List.foldlM_cons, readText_of_added read (.inr rfl)]
    exact bind_pure _

/-- The place of a reader behind a field. -/
def placeBehind (place : Place) (field : String) : Place :=
  if field.toList.any isSpecial then .quoteInQuotedField
  else if field.toList = [] then place
  else .inField

/-- A field is read back if it is not too long. -/
theorem foldlM_writeField (field : String) {machine : Machine}
    (here : machine.place = .startRecord ∨ machine.place = .startField)
    (empty : machine.field = []) :
    (writeField field).foldlM readText machine =
      if field.toList.length ≤ fieldLimit then
        .ok { machine with field := field.toList, place := placeBehind machine.place field }
      else .error .fieldTooLong := by
  have room : machine.field.length ≤ fieldLimit := by
    rw [empty]
    exact Nat.zero_le _
  have length : machine.field.length + field.toList.length = field.toList.length := by
    rw [empty, List.length_nil, Nat.zero_add]
  unfold writeField placeBehind
  by_cases special : field.toList.any isSpecial = true
  · have opened : machine.readText '"' = .ok { machine with place := .inQuotedField } := by
      unfold readText readChar
      rcases here with place | place <;> rw [place] <;> rfl
    have inside := @foldlM_added spell field.toList .inQuotedField (· = .inQuotedField) rfl
      (fun c _ _ stands => readText_spell c stands) { machine with place := .inQuotedField } rfl
      room
    rw [if_pos special, if_pos special, List.foldlM_cons, opened]
    show (field.toList.flatMap spell ++ ['"']).foldlM readText
      { machine with place := .inQuotedField } = _
    rw [List.foldlM_append, inside, added]
    dsimp only
    rw [length, empty, List.nil_append, ite_self]
    by_cases fits : field.toList.length ≤ fieldLimit
    · rw [if_neg (Nat.not_lt.mpr fits), if_pos fits]
      rfl
    · rw [if_pos (Nat.lt_of_not_le fits), if_neg fits]
      rfl
  · have plain : ∀ c ∈ field.toList, isSpecial c = false := by simpa using special
    have inside := @foldlM_added (fun c => [c]) field.toList .inField
      (fun place => place = .startRecord ∨ place = .startField ∨ place = .inField)
      (.inr (.inr rfl)) (fun c member _ stands => readText_plain (plain c member) stands)
      machine (here.imp_right .inl) room
    rw [List.flatMap_singleton'] at inside
    rw [if_neg special, if_neg special, inside, added, length, empty, List.nil_append]
    by_cases fits : field.toList.length ≤ fieldLimit
    · rw [if_neg (Nat.not_lt.mpr fits), if_pos fits]
    · rw [if_pos (Nat.lt_of_not_le fits), if_neg fits]

/-! ## A row -/

/-- A comma behind a field starts the next one. -/
theorem readText_comma {machine : Machine}
    (here : machine.place ≠ .inQuotedField ∧ machine.place ≠ .eatCrnl) :
    machine.readText ',' = .ok (machine.saveField .startField) := by
  unfold readText readChar
  cases place : machine.place with
  | inQuotedField => exact absurd place here.1
  | eatCrnl => exact absurd place here.2
  | _ => rfl

/-- The end of a line behind a field gives the row. -/
theorem foldlM_lineEnd {machine : Machine}
    (here : machine.place = .startField ∨ machine.place = .inField ∨
      machine.place = .quoteInQuotedField) :
    ['\r', '\n'].foldlM readText machine =
      .ok ⟨machine.rows ++ [machine.fields ++ [String.ofList machine.field]], [], [],
        .startRecord⟩ := by
  have carriage : machine.readText '\r' = .ok (machine.saveField .eatCrnl) := by
    unfold readText readChar
    rcases here with place | place | place <;> rw [place] <;> rfl
  rw [List.foldlM_cons, carriage]
  rfl

/-- Behind a field a reader is neither inside quotes nor behind a line. -/
theorem placeBehind_ne {place : Place} (here : place = .startRecord ∨ place = .startField)
    (field : String) :
    placeBehind place field ≠ .inQuotedField ∧ placeBehind place field ≠ .eatCrnl := by
  unfold placeBehind
  split
  · exact ⟨Place.noConfusion, Place.noConfusion⟩
  · split
    · rcases here with rfl | rfl <;> exact ⟨Place.noConfusion, Place.noConfusion⟩
    · exact ⟨Place.noConfusion, Place.noConfusion⟩

/-- Behind a field that is not the only one of a row, or not empty, a row can end. -/
theorem placeBehind_ends {place : Place} {field : String}
    (here : place = .startField ∨ place = .startRecord ∧ field ≠ "") :
    placeBehind place field = .startField ∨ placeBehind place field = .inField ∨
      placeBehind place field = .quoteInQuotedField := by
  unfold placeBehind
  split
  · exact .inr (.inr rfl)
  · split
    · rename_i empty
      rcases here with rfl | ⟨-, some⟩
      · exact .inl rfl
      · exact absurd (String.toList_eq_nil_iff.mp empty) some
    · exact .inr (.inl rfl)

/-- Joined fields with the end of a line behind them are read as a row. -/
theorem foldlM_joinFields {fields : List String} (some : fields ≠ []) {machine : Machine}
    (here : machine.place = .startField ∨ machine.place = .startRecord ∧ fields ≠ [""])
    (empty : machine.field = []) :
    (joinFields fields ++ ['\r', '\n']).foldlM readText machine =
      if Fits fields then .ok ⟨machine.rows ++ [machine.fields ++ fields], [], [], .startRecord⟩
      else .error .fieldTooLong := by
  induction fields generalizing machine with
  | nil => exact absurd rfl some
  | cons field fields ih =>
    have starts : machine.place = .startRecord ∨ machine.place = .startField := by
      rcases here with place | ⟨place, -⟩
      · exact .inr place
      · exact .inl place
    have own := foldlM_writeField field starts empty
    cases fields with
    | nil =>
      have ends := placeBehind_ends (here.imp_right fun ⟨place, other⟩ =>
        ⟨place, fun same => other (congrArg (fun text => [text]) same)⟩)
      have alone : Fits [field] ↔ field.toList.length ≤ fieldLimit := by
        simp [Fits]
      rw [joinFields, List.foldlM_append, own]
      by_cases fits : field.toList.length ≤ fieldLimit
      · rw [if_pos fits, if_pos (alone.mpr fits)]
        have line := @foldlM_lineEnd
          { machine with field := field.toList, place := placeBehind machine.place field } ends
        rw [String.ofList_toList] at line
        exact line
      · rw [if_neg fits, if_neg fun whole => fits (alone.mp whole)]
        rfl
    | cons next fields =>
      have both : Fits (field :: next :: fields) ↔
          field.toList.length ≤ fieldLimit ∧ Fits (next :: fields) := List.forall_mem_cons
      rw [joinFields, List.append_assoc, List.cons_append, List.foldlM_append, own]
      by_cases fits : field.toList.length ≤ fieldLimit
      · have comma := @readText_comma
          { machine with field := field.toList, place := placeBehind machine.place field }
          (placeBehind_ne starts field)
        have saved : Machine.saveField
            { machine with field := field.toList, place := placeBehind machine.place field }
            .startField = ⟨machine.rows, machine.fields ++ [field], [], .startField⟩ := by
          rw [saveField, String.ofList_toList]
        have later := @ih (List.cons_ne_nil _ _)
          ⟨machine.rows, machine.fields ++ [field], [], .startField⟩ (.inl rfl) rfl
        rw [if_pos fits]
        show (',' :: (joinFields (next :: fields) ++ ['\r', '\n'])).foldlM readText
          { machine with field := field.toList, place := placeBehind machine.place field } = _
        rw [List.foldlM_cons, comma, saved]
        show (joinFields (next :: fields) ++ ['\r', '\n']).foldlM readText
          ⟨machine.rows, machine.fields ++ [field], [], .startField⟩ = _
        rw [later, List.append_assoc, List.singleton_append]
        by_cases rest : Fits (next :: fields)
        · rw [if_pos rest, if_pos (both.mpr ⟨fits, rest⟩)]
        · rw [if_neg rest, if_neg fun whole => rest (both.mp whole).2]
      · rw [if_neg fits, if_neg fun whole => fits (both.mp whole).1]
        rfl

/-- Fields are joined to nothing when there are none, or one that is empty. -/
theorem joinFields_eq_nil {fields : List String} (some : fields ≠ []) :
    joinFields fields = [] ↔ fields = [""] := by
  cases fields with
  | nil => exact absurd rfl some
  | cons field fields =>
    cases fields with
    | nil =>
      constructor
      · intro nothing
        rw [joinFields, writeField] at nothing
        split at nothing
        · cases nothing
        · rw [String.toList_eq_nil_iff.mp nothing]
      · intro same
        rw [same]
        rfl
    | cons next fields =>
      rw [joinFields]
      simp

/-- The reader between two rows. -/
def Machine.between (table : List (List String)) : Machine := ⟨table, [], [], .startRecord⟩

/-- A row is read back if no field of it is too long. -/
theorem foldlM_writeRow (table : List (List String)) (row : List String) :
    (writeRow row).foldlM readText (between table) =
      if Fits row then .ok (between (table ++ [row])) else .error .fieldTooLong := by
  unfold writeRow
  by_cases none : row = []
  · have fits : Fits row := by
      rw [none]
      exact fun field member => absurd member List.not_mem_nil
    rw [if_neg (fun both => both.1 none), if_pos fits, none]
    rfl
  · by_cases single : row = [""]
    · have fits : Fits row := by
        rw [single]
        intro field member
        rw [List.mem_singleton.mp member]
        exact Nat.zero_le _
      rw [if_pos ⟨none, (joinFields_eq_nil none).mpr single⟩, if_pos fits, single]
      rfl
    · rw [if_neg fun both => single ((joinFields_eq_nil none).mp both.2)]
      exact foldlM_joinFields none (.inr ⟨rfl, single⟩) rfl

/-! ## A table -/

/-- Rows that were written are read back if no field is too long. -/
theorem foldlM_write (before table : List (List String)) :
    (write table).foldlM readText (between before) =
      if ∀ row ∈ table, Fits row then .ok (between (before ++ table))
      else .error .fieldTooLong := by
  induction table generalizing before with
  | nil =>
    rw [if_pos (fun row member => absurd member List.not_mem_nil), List.append_nil]
    rfl
  | cons row table ih =>
    unfold write at ih ⊢
    rw [List.flatMap_cons, List.foldlM_append, foldlM_writeRow]
    by_cases fits : Fits row
    · rw [if_pos fits]
      show (table.flatMap writeRow).foldlM readText (between (before ++ [row])) = _
      rw [ih, List.append_assoc, List.singleton_append]
      by_cases rest : ∀ other ∈ table, Fits other
      · rw [if_pos rest, if_pos (List.forall_mem_cons.mpr ⟨fits, rest⟩)]
      · rw [if_neg rest, if_neg fun whole => rest (List.forall_mem_cons.mp whole).2]
    · rw [if_neg fits, if_neg fun whole => fits (List.forall_mem_cons.mp whole).1]
      rfl

/-- What is written is empty, or ends a line. -/
theorem write_ends (table : List (List String)) :
    write table = [] ∨ (write table).getLast? = some '\n' := by
  rcases List.eq_nil_or_concat table with rfl | ⟨table, row, rfl⟩
  · exact .inl rfl
  · right
    unfold write writeRow
    simp

/-- A table that was written is read back, unless a field of it is too long. -/
theorem rows_write (table : List (List String)) :
    rows (write table) =
      if ∀ row ∈ table, Fits row then .ok table else .error .fieldTooLong := by
  have read := foldlM_write [] table
  unfold rows
  rw [show Machine.initial = between [] from rfl, read]
  by_cases fits : ∀ row ∈ table, Fits row
  · rw [if_pos fits, if_pos fits]
    show (if _ then _ else _) = _
    rw [if_pos (write_ends table)]
    rfl
  · rw [if_neg fits, if_neg fits]
    rfl

/-- An empty row and a row of an empty field differ, and so do a quote and a line end in a field. -/
example : rows (write [["a", "b\"c"], [], [""], ["x,\ny", ""]]) =
    .ok [["a", "b\"c"], [], [""], ["x,\ny", ""]] := by decide

end Csv
