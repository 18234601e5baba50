import Mathlib.Data.List.Basic

/-!
# Reading comma-separated text

The rows of a text as the `excel` dialect of `csv.reader` reads them: a machine that takes the
characters of each line and then its end, and gives a row whenever a line ends outside quotes. A
field that is too long, and a carriage return inside a line, are errors.
-/

namespace Csv

/-- Where the reader stands. -/
inductive Place
  | startRecord
  | startField
  | inField
  | inQuotedField
  | quoteInQuotedField
  | eatCrnl
deriving DecidableEq

/-- The state of a reader: the rows it gave, the fields of the row it reads, and the field. -/
structure Machine where
  rows : List (List String)
  fields : List String
  field : List Char
  place : Place

/-- The greatest length of a field. -/
def fieldLimit : Nat := 131072

/-- `csv.Error`. -/
inductive Error
  | fieldTooLong
  | newLineInField
deriving DecidableEq

namespace Machine

/-- `parse_save_field`. -/
def saveField (machine : Machine) (place : Place) : Machine :=
  { machine with fields := machine.fields ++ [String.ofList machine.field], field := [], place }

/-- `parse_add_char`. -/
def addChar (machine : Machine) (c : Char) (place : Place) : Except Error Machine :=
  if fieldLimit ≤ machine.field.length then .error .fieldTooLong
  else .ok { machine with field := machine.field ++ [c], place }

/-- A line ends. -/
def isEnd (c : Char) : Bool := c == '\n' || c == '\r'

/-- A character of a field that is not quoted, or the first of one. -/
def readField (machine : Machine) (c : Char) : Except Error Machine :=
  if isEnd c then .ok (machine.saveField .eatCrnl)
  else if c = ',' then .ok (machine.saveField .startField)
  else machine.addChar c .inField

/-- A character of a field that starts. -/
def readStart (machine : Machine) (c : Char) : Except Error Machine :=
  if c = '"' then .ok { machine with place := .inQuotedField } else machine.readField c

/-- `parse_process_char` of a character. -/
def readChar (machine : Machine) (c : Char) : Except Error Machine :=
  match machine.place with
  | .startRecord =>
    if isEnd c then .ok { machine with place := .eatCrnl } else machine.readStart c
  | .startField => machine.readStart c
  | .inField => machine.readField c
  | .inQuotedField =>
    if c = '"' then .ok { machine with place := .quoteInQuotedField }
    else machine.addChar c .inQuotedField
  | .quoteInQuotedField =>
    if c = '"' then machine.addChar c .inQuotedField else machine.readField c
  | .eatCrnl => if isEnd c then .ok machine else .error .newLineInField

/-- A row is given, and the next one starts. -/
def giveRow (machine : Machine) : Machine :=
  { rows := machine.rows ++ [machine.fields], fields := [], field := [], place := .startRecord }

/-- `parse_process_char` of the end of a line, which may give a row. -/
def readEnd (machine : Machine) : Machine :=
  match machine.place with
  | .startRecord | .eatCrnl => machine.giveRow
  | .startField | .inField | .quoteInQuotedField => (machine.saveField .startRecord).giveRow
  | .inQuotedField => machine

/-- A character of a text, and the end of its line behind a new-line character. -/
def readText (machine : Machine) (c : Char) : Except Error Machine :=
  match machine.readChar c with
  | .error error => .error error
  | .ok next => .ok (if c = '\n' then next.readEnd else next)

/-- The text ends: a quoted field that was not closed ends with it. -/
def finish (machine : Machine) : List (List String) :=
  if machine.place = .inQuotedField then (machine.saveField .startRecord).giveRow.rows
  else machine.rows

/-- The reader before a text. -/
def initial : Machine := ⟨[], [], [], .startRecord⟩

end Machine

/-- The rows of a text; a last line without a new-line character ends with the text. -/
def rows (text : List Char) : Except Error (List (List String)) := do
  let machine ← text.foldlM Machine.readText .initial
  if text = [] ∨ text.getLast? = some '\n' then return machine.finish
  else return machine.readEnd.finish

end Csv
