import Mathlib.Algebra.Group.Nat.Defs
import Mathlib.Data.List.Basic

/-!
# Reading JSON text

A reader of JSON text as a machine that takes one character at a time: a stack of the containers
that are open, and what is due next. It reads what `json.loads` reads, `NaN` and the infinities
included, and keeps numbers as they are written, in the order it meets them; what they mean, and
which of them are refused, is decided by the caller. Nesting is limited by a number of containers.

A character that JSON uses nowhere but inside strings can be read only there (`step_foreign`), so
a text that is cut in front of one is no JSON (`ending_cut`).
-/

namespace Json

/-! ## What is read -/

/-- A number as it is written. -/
structure Numeral where
  negative : Bool
  whole : List Char
  fraction : Option (List Char)
  /-- Whether the exponent is negative, and its digits. -/
  exponent : Option (Bool × List Char)
deriving DecidableEq

/-- A number with neither fraction nor exponent is an integer. -/
def Numeral.isInteger (numeral : Numeral) : Bool :=
  numeral.fraction.isNone && numeral.exponent.isNone

/-- A digit text as a number. -/
def decimal (digits : List Char) : Nat :=
  digits.foldl (fun number digit => 10 * number + (digit.toNat - 48)) 0

/-- The integer that is written. -/
def Numeral.toInt (numeral : Numeral) : Int :=
  if numeral.negative then -(decimal numeral.whole : Int) else decimal numeral.whole

/-- The power of ten that the digits of a number are scaled by. -/
def Numeral.scale (numeral : Numeral) : Int :=
  let exponent : Int :=
    match numeral.exponent with
    | some (true, digits) => -(decimal digits : Int)
    | some (false, digits) => decimal digits
    | none => 0
  exponent - (numeral.fraction.getD []).length

/-- The least magnitude that rounds to an infinite double: half a unit in the last place above
the greatest finite one. -/
def doubleBound : Nat := 2 ^ 1024 - 2 ^ 970

/-- A number is beyond the range of a double. -/
def Numeral.overflows (numeral : Numeral) : Bool :=
  let digits := decimal (numeral.whole ++ numeral.fraction.getD [])
  match numeral.scale with
  | .ofNat up => decide (doubleBound ≤ digits * 10 ^ up)
  | .negSucc down => decide (doubleBound * 10 ^ (down + 1) ≤ digits)

/-- The exceptional floats. -/
inductive Constant
  | nan
  | infinity
  | minusInfinity
deriving DecidableEq

/-- The name of an exceptional float. -/
def Constant.name : Constant → String
  | nan => "NaN"
  | infinity => "Infinity"
  | minusInfinity => "-Infinity"

/-- A number, or the name of an exceptional float. -/
inductive Literal
  | number (numeral : Numeral)
  | constant (constant : Constant)
deriving DecidableEq

/-- A value as it is written. -/
inductive Tree
  | null
  | bool (flag : Bool)
  | literal (literal : Literal)
  | str (text : String)
  | arr (items : List Tree)
  /-- The keys are code points, unpaired surrogates among them. -/
  | obj (members : List (List Nat × Tree))

/-- `members[key] = tree`: a key that is there keeps its place. -/
def setMember (members : List (List Nat × Tree)) (key : List Nat) (tree : Tree) :
    List (List Nat × Tree) :=
  if key ∈ members.map Prod.fst then
    members.map fun member => if member.1 = key then (key, tree) else member
  else members ++ [(key, tree)]

/-! ## The machine -/

/-- The words of JSON. -/
inductive Keyword
  | null
  | true
  | false
  | nan
  | infinity
  | minusInfinity
deriving DecidableEq

/-- The letters of a word. -/
def Keyword.letters : Keyword → List Char
  | null => ['n', 'u', 'l', 'l']
  | true => ['t', 'r', 'u', 'e']
  | false => ['f', 'a', 'l', 's', 'e']
  | nan => ['N', 'a', 'N']
  | infinity => ['I', 'n', 'f', 'i', 'n', 'i', 't', 'y']
  | minusInfinity => ['-', 'I', 'n', 'f', 'i', 'n', 'i', 't', 'y']

/-- The value of a word. -/
def Keyword.tree : Keyword → Tree
  | null => .null
  | true => .bool Bool.true
  | false => .bool Bool.false
  | nan => .literal (.constant .nan)
  | infinity => .literal (.constant .infinity)
  | minusInfinity => .literal (.constant .minusInfinity)

/-- How far a number was read. -/
inductive Phase
  | sign
  | zero
  | whole
  /-- A point without a digit after it is not part of the number. -/
  | point
  | fraction
  /-- Neither is the mark of an exponent without a digit after it. -/
  | mark
  | marked (negative : Bool)
  | exponent
deriving DecidableEq

/-- What is due next. -/
inductive Mode
  | value
  /-- A value or the end of an array. -/
  | item
  /-- A key or the end of an object. -/
  | member
  | key
  | colon
  /-- A comma or the end of the container. -/
  | after
  | done (tree : Tree)
  /-- More of a string, whose code units were read. -/
  | string (isKey : Bool) (units : List Nat)
  | escape (isKey : Bool) (units : List Nat)
  | hex (isKey : Bool) (units : List Nat) (left code : Nat)
  /-- More of a word, some letters of which were read. -/
  | word (keyword : Keyword) (read : Nat)
  | number (phase : Phase) (numeral : Numeral)

/-- A container that is open, with what was read of it. -/
inductive Frame
  | array (items : List Tree)
  | object (members : List (List Nat × Tree)) (key : List Nat)

/-- The state of a reader. -/
structure Machine where
  stack : List Frame
  mode : Mode
  /-- The numbers and exceptional names that were read. -/
  literals : List Literal

/-- Why reading stops. -/
inductive Failure
  | malformed
  | nested
deriving DecidableEq

/-- A reader that stopped, with the literals it met. -/
structure Stop where
  literals : List Literal
  failure : Failure

/-- JSON white space. -/
def isWhite (c : Char) : Bool := c.toNat ∈ [9, 10, 13, 32]

namespace Machine

/-- The reader stops. -/
def fail (machine : Machine) (failure : Failure) : Except Stop Machine :=
  .error ⟨machine.literals, failure⟩

/-- A value is complete. -/
def complete (machine : Machine) (tree : Tree) : Machine :=
  match machine.stack with
  | [] => { machine with mode := .done tree }
  | .array items :: rest => { machine with stack := .array (items ++ [tree]) :: rest, mode := .after }
  | .object members key :: rest =>
    { machine with stack := .object (setMember members key tree) key :: rest, mode := .after }

/-- A literal is complete. -/
def completeLiteral (machine : Machine) (literal : Literal) : Machine :=
  complete { machine with literals := machine.literals ++ [literal] } (.literal literal)

/-- A word is complete. -/
def completeWord (machine : Machine) (keyword : Keyword) : Machine :=
  match keyword.tree with
  | .literal literal => machine.completeLiteral literal
  | tree => machine.complete tree

/-- A container is complete. -/
def close (machine : Machine) (tree : Tree) : Machine :=
  complete { machine with stack := machine.stack.tail } tree

/-- A container is opened. -/
def enter (machine : Machine) (limit : Nat) (frame : Frame) (mode : Mode) : Except Stop Machine :=
  if limit ≤ machine.stack.length then machine.fail .nested
  else .ok { machine with stack := frame :: machine.stack, mode }

end Machine

/-- The code points of code units, surrogates in pairs. -/
def codePoints : List Nat → List Nat
  | high :: low :: rest =>
    if 0xd800 ≤ high ∧ high ≤ 0xdbff ∧ 0xdc00 ≤ low ∧ low ≤ 0xdfff then
      (0x10000 + (high - 0xd800) * 0x400 + (low - 0xdc00)) :: codePoints rest
    else high :: codePoints (low :: rest)
  | [unit] => [unit]
  | [] => []

/-- The character of a code point; no `Char` is an unpaired surrogate. -/
def pointChar (point : Nat) : Char := if point.isValidChar then Char.ofNat point else '\ufffd'

/-- The text of code points. -/
def textOf (points : List Nat) : String := String.ofList (points.map pointChar)

/-- A string is complete. -/
def Machine.completeString (machine : Machine) (isKey : Bool) (units : List Nat) : Machine :=
  let points := codePoints units
  match isKey, machine.stack with
  | true, .object members _ :: rest =>
    { machine with stack := .object members points :: rest, mode := .colon }
  | _, _ => machine.complete (.str (textOf points))

/-- The code unit of a short escape. -/
def shortEscape (c : Char) : Option Nat :=
  if c = '"' ∨ c = '\\' ∨ c = '/' then some c.toNat
  else if c = 'b' then some 8
  else if c = 'f' then some 12
  else if c = 'n' then some 10
  else if c = 'r' then some 13
  else if c = 't' then some 9
  else none

/-- The value of a hexadecimal digit. -/
def hexadecimal (c : Char) : Option Nat :=
  if c.isDigit then some (c.toNat - 48)
  else if 'a' ≤ c ∧ c ≤ 'f' then some (c.toNat - 87)
  else if 'A' ≤ c ∧ c ≤ 'F' then some (c.toNat - 55)
  else none

/-- A number that goes on with a character. -/
def continueNumber (phase : Phase) (numeral : Numeral) (c : Char) : Option (Phase × Numeral) :=
  let digit := c.isDigit
  let point := c == '.'
  let mark := c == 'e' || c == 'E'
  match phase with
  | .sign =>
    if c = '0' then some (.zero, { numeral with whole := [c] })
    else if digit then some (.whole, { numeral with whole := [c] })
    else none
  | .zero => if point then some (.point, numeral) else if mark then some (.mark, numeral) else none
  | .whole =>
    if digit then some (.whole, { numeral with whole := numeral.whole ++ [c] })
    else if point then some (.point, numeral)
    else if mark then some (.mark, numeral)
    else none
  | .point => if digit then some (.fraction, { numeral with fraction := some [c] }) else none
  | .fraction =>
    if digit then
      some (.fraction, { numeral with fraction := some (numeral.fraction.getD [] ++ [c]) })
    else if mark then some (.mark, numeral)
    else none
  | .mark =>
    if digit then some (.exponent, { numeral with exponent := some (false, [c]) })
    else if c = '+' then some (.marked false, numeral)
    else if c = '-' then some (.marked true, numeral)
    else none
  | .marked negative =>
    if digit then some (.exponent, { numeral with exponent := some (negative, [c]) }) else none
  | .exponent =>
    if digit then
      let (negative, digits) := numeral.exponent.getD (false, [])
      some (.exponent, { numeral with exponent := some (negative, digits ++ [c]) })
    else none

/-- A number may end in a phase. -/
def Phase.complete : Phase → Bool
  | zero | whole | fraction | exponent => Bool.true
  | _ => Bool.false

namespace Machine

/-- A value starts. -/
def start (machine : Machine) (limit : Nat) (c : Char) : Except Stop Machine :=
  if c = '"' then .ok { machine with mode := .string false [] }
  else if c = '[' then machine.enter limit (.array []) .item
  else if c = '{' then machine.enter limit (.object [] []) .member
  else if c = 'n' then .ok { machine with mode := .word .null 1 }
  else if c = 't' then .ok { machine with mode := .word .true 1 }
  else if c = 'f' then .ok { machine with mode := .word .false 1 }
  else if c = 'N' then .ok { machine with mode := .word .nan 1 }
  else if c = 'I' then .ok { machine with mode := .word .infinity 1 }
  else if c = '-' then .ok { machine with mode := .number .sign ⟨true, [], none, none⟩ }
  else
    match continueNumber .sign ⟨false, [], none, none⟩ c with
    | some (phase, numeral) => .ok { machine with mode := .number phase numeral }
    | none => machine.fail .malformed

/-- A character after a value. -/
def follow (machine : Machine) (c : Char) : Except Stop Machine :=
  if isWhite c then .ok machine
  else
    match machine.stack with
    | .array items :: _ =>
      if c = ',' then .ok { machine with mode := .value }
      else if c = ']' then .ok (machine.close (.arr items))
      else machine.fail .malformed
    | .object members _ :: _ =>
      if c = ',' then .ok { machine with mode := .key }
      else if c = '}' then .ok (machine.close (.obj members))
      else machine.fail .malformed
    | [] => machine.fail .malformed

/-- A number ends before a character: what was read of it is a literal. -/
def endNumber (machine : Machine) (phase : Phase) (numeral : Numeral) : Except Stop Machine :=
  if phase = .sign then machine.fail .malformed
  else if phase.complete then .ok (machine.completeLiteral (.number numeral))
  else (machine.completeLiteral (.number numeral)).fail .malformed

/-- A character of a string. -/
def readString (machine : Machine) (isKey : Bool) (units : List Nat) (c : Char) :
    Except Stop Machine :=
  if c = '"' then .ok (machine.completeString isKey units)
  else if c = '\\' then .ok { machine with mode := .escape isKey units }
  else if c.toNat < 32 then machine.fail .malformed
  else .ok { machine with mode := .string isKey (units ++ [c.toNat]) }

/-- A character of an escape. -/
def readEscape (machine : Machine) (isKey : Bool) (units : List Nat) (c : Char) :
    Except Stop Machine :=
  if c = 'u' then .ok { machine with mode := .hex isKey units 4 0 }
  else
    match shortEscape c with
    | some unit => .ok { machine with mode := .string isKey (units ++ [unit]) }
    | none => machine.fail .malformed

/-- A digit of an escape. -/
def readHex (machine : Machine) (isKey : Bool) (units : List Nat) (left code : Nat) (c : Char) :
    Except Stop Machine :=
  match hexadecimal c with
  | some digit =>
    if left ≤ 1 then .ok { machine with mode := .string isKey (units ++ [16 * code + digit]) }
    else .ok { machine with mode := .hex isKey units (left - 1) (16 * code + digit) }
  | none => machine.fail .malformed

/-- A letter of a word. -/
def readWord (machine : Machine) (keyword : Keyword) (read : Nat) (c : Char) :
    Except Stop Machine :=
  if keyword.letters[read]? = some c then
    if read + 1 = keyword.letters.length then .ok (machine.completeWord keyword)
    else .ok { machine with mode := .word keyword (read + 1) }
  else machine.fail .malformed

/-- A character of a number, or after it. -/
def readNumber (machine : Machine) (phase : Phase) (numeral : Numeral) (c : Char) :
    Except Stop Machine :=
  match continueNumber phase numeral c with
  | some (next, longer) => .ok { machine with mode := .number next longer }
  | none =>
    if phase = .sign ∧ c = 'I' then .ok { machine with mode := .word .minusInfinity 2 }
    else
      match machine.endNumber phase numeral with
      | .ok ended => ended.follow c
      | .error stop => .error stop

/-- One character. -/
def step (limit : Nat) (machine : Machine) (c : Char) : Except Stop Machine :=
  match machine.mode with
  | .value => if isWhite c then .ok machine else machine.start limit c
  | .item =>
    if isWhite c then .ok machine
    else if c = ']' then .ok (machine.close (.arr []))
    else machine.start limit c
  | .member =>
    if isWhite c then .ok machine
    else if c = '"' then .ok { machine with mode := .string true [] }
    else if c = '}' then .ok (machine.close (.obj []))
    else machine.fail .malformed
  | .key =>
    if isWhite c then .ok machine
    else if c = '"' then .ok { machine with mode := .string true [] }
    else machine.fail .malformed
  | .colon =>
    if isWhite c then .ok machine
    else if c = ':' then .ok { machine with mode := .value }
    else machine.fail .malformed
  | .after => machine.follow c
  | .done _ => machine.follow c
  | .string isKey units => machine.readString isKey units c
  | .escape isKey units => machine.readEscape isKey units c
  | .hex isKey units left code => machine.readHex isKey units left code c
  | .word keyword read => machine.readWord keyword read c
  | .number phase numeral => machine.readNumber phase numeral c

end Machine

/-- What a text holds: its literals in the order they are met, and its value or why it has none. -/
structure Scan where
  literals : List Literal
  ending : Except Failure Tree

/-- The text ends. -/
def Machine.finish (machine : Machine) : Scan :=
  match machine.mode with
  | .done tree => ⟨machine.literals, .ok tree⟩
  | .number phase numeral =>
    match machine.endNumber phase numeral with
    | .ok ended =>
      match ended.mode with
      | .done tree => ⟨ended.literals, .ok tree⟩
      | _ => ⟨ended.literals, .error .malformed⟩
    | .error stop => ⟨stop.literals, .error stop.failure⟩
  | _ => ⟨machine.literals, .error .malformed⟩

/-- The reader before a text. -/
def Machine.initial : Machine := ⟨[], .value, []⟩

/-- Read a text with containers nested up to a limit. -/
def scan (limit : Nat) (text : List Char) : Scan :=
  match text.foldlM (Machine.step limit) .initial with
  | .ok machine => machine.finish
  | .error stop => ⟨stop.literals, .error stop.failure⟩

/-! ## Characters that only strings hold -/

/-- A character that JSON uses nowhere but inside strings: none of printable ASCII, and no white
space. -/
def isForeign (c : Char) : Bool := (decide (c.toNat < 32) || decide (127 < c.toNat)) && !isWhite c

section Foreign

variable {c : Char} (foreign : isForeign c = true)
include foreign

/-- A foreign character is none of printable ASCII. -/
theorem ne_of_foreign (d : Char) (printable : isForeign d = false) : c ≠ d := by
  intro same
  rw [← same, foreign] at printable
  cases printable

/-- A foreign character is no white space. -/
theorem white_of_foreign : isWhite c = false := by
  unfold isForeign at foreign
  simpa using (Bool.and_eq_true_iff.mp foreign).2

/-- A foreign character is no digit. -/
theorem digit_of_foreign : c.isDigit = false := by
  by_contra digit
  rw [Bool.not_eq_false, Char.isDigit_iff_toNat] at digit
  unfold isForeign at foreign
  simp only [Bool.and_eq_true, Bool.or_eq_true, decide_eq_true_eq] at foreign
  have first : '0'.toNat = 48 := rfl
  have last : '9'.toNat = 57 := rfl
  omega

/-- No number goes on with a foreign character. -/
theorem continueNumber_foreign (phase : Phase) (numeral : Numeral) :
    continueNumber phase numeral c = none := by
  have digit := digit_of_foreign foreign
  have printable := ne_of_foreign foreign
  cases phase <;> simp [continueNumber, digit, printable '0' rfl, printable '.' rfl,
    printable 'e' rfl, printable 'E' rfl, printable '+' rfl, printable '-' rfl]

/-- No value starts with a foreign character. -/
theorem start_foreign (machine : Machine) (limit : Nat) :
    machine.start limit c = machine.fail .malformed := by
  have printable := ne_of_foreign foreign
  unfold Machine.start
  rw [continueNumber_foreign foreign]
  simp only [printable '"' rfl, printable '[' rfl, printable '{' rfl, printable 'n' rfl,
    printable 't' rfl, printable 'f' rfl, printable 'N' rfl, printable 'I' rfl, printable '-' rfl,
    if_false]

/-- No foreign character follows a value. -/
theorem follow_foreign (machine : Machine) : machine.follow c = machine.fail .malformed := by
  have printable := ne_of_foreign foreign
  unfold Machine.follow
  rw [white_of_foreign foreign]
  split
  · rename_i white
    cases white
  · split
    · simp only [printable ',' rfl, printable ']' rfl, if_false]
    · simp only [printable ',' rfl, printable '}' rfl, if_false]
    · rfl

/-- No escape goes on with a foreign character. -/
theorem shortEscape_foreign : shortEscape c = none := by
  have printable := ne_of_foreign foreign
  simp [shortEscape, printable '"' rfl, printable '\\' rfl, printable '/' rfl, printable 'b' rfl,
    printable 'f' rfl, printable 'n' rfl, printable 'r' rfl, printable 't' rfl]

/-- A foreign character is no hexadecimal digit. -/
theorem hexadecimal_foreign : hexadecimal c = none := by
  have digit := digit_of_foreign foreign
  unfold isForeign at foreign
  simp only [Bool.and_eq_true, Bool.or_eq_true, decide_eq_true_eq] at foreign
  have outside : ∀ low high : Char, 32 ≤ low.toNat → high.toNat ≤ 127 → ¬ (low ≤ c ∧ c ≤ high) := by
    intro low high above below between
    have least : low.toNat ≤ c.toNat := between.1
    have most : c.toNat ≤ high.toNat := between.2
    omega
  unfold hexadecimal
  rw [digit, if_neg (outside 'a' 'f' (by decide) (by decide)),
    if_neg (outside 'A' 'F' (by decide) (by decide))]
  rfl

/-- No word has a foreign character. -/
theorem letters_foreign (keyword : Keyword) (read : Nat) :
    keyword.letters[read]? ≠ some c := by
  intro found
  have letter : c ∈ keyword.letters := List.mem_of_getElem? found
  have printable : keyword.letters.all fun d => !isForeign d := by cases keyword <;> decide
  have native := List.all_eq_true.mp printable c letter
  rw [foreign] at native
  cases native

/-- A foreign character is read inside a string only. -/
theorem step_foreign {limit : Nat} {machine next : Machine}
    (read : machine.step limit c = .ok next) : ∃ isKey units, machine.mode = .string isKey units := by
  have white := white_of_foreign foreign
  have printable := ne_of_foreign foreign
  unfold Machine.step at read
  split at read
  · simp [white, start_foreign foreign, Machine.fail] at read
  · simp [white, printable ']' rfl, start_foreign foreign, Machine.fail] at read
  · simp [white, printable '"' rfl, printable '}' rfl, Machine.fail] at read
  · simp [white, printable '"' rfl, Machine.fail] at read
  · simp [white, printable ':' rfl, Machine.fail] at read
  · simp [follow_foreign foreign, Machine.fail] at read
  · simp [follow_foreign foreign, Machine.fail] at read
  · rename_i isKey units mode
    exact ⟨isKey, units, mode⟩
  · simp [Machine.readEscape, printable 'u' rfl, shortEscape_foreign foreign, Machine.fail] at read
  · simp [Machine.readHex, hexadecimal_foreign foreign, Machine.fail] at read
  · simp [Machine.readWord, letters_foreign foreign, Machine.fail] at read
  · rename_i phase numeral _
    unfold Machine.readNumber at read
    rw [continueNumber_foreign foreign] at read
    simp only [printable 'I' rfl, and_false, if_false] at read
    split at read
    · rename_i ended _
      rw [follow_foreign foreign] at read
      cases read
    · cases read

end Foreign

/-- White space and foreign characters before a value leave the reader where it was, if they are
read at all. -/
theorem initial_of_blank {limit : Nat} {text : List Char} {machine : Machine}
    (blank : ∀ c ∈ text, isWhite c = true ∨ isForeign c = true)
    (read : text.foldlM (Machine.step limit) .initial = .ok machine) : machine = .initial := by
  induction text with
  | nil => exact (Except.ok.inj read).symm
  | cons c text ih =>
    rw [List.foldlM_cons] at read
    rcases blank c List.mem_cons_self with white | foreign
    · have stays : Machine.step limit .initial c = .ok .initial := if_pos white
      rw [stays] at read
      exact ih (fun other member => blank other (List.mem_cons_of_mem _ member)) read
    · have stops : Machine.step limit .initial c = Machine.initial.fail .malformed := by
        show (if isWhite c = true then _ else Machine.initial.start limit c) = _
        rw [white_of_foreign foreign, if_neg (by decide), start_foreign foreign]
      rw [stops] at read
      cases read

/-- A text that is blank holds no value. -/
theorem ending_blank {limit : Nat} {text : List Char}
    (blank : ∀ c ∈ text, isWhite c = true ∨ isForeign c = true) (tree : Tree) :
    (scan limit text).ending ≠ .ok tree := by
  intro whole
  unfold scan at whole
  cases read : text.foldlM (Machine.step limit) .initial with
  | error stop =>
    rw [read] at whole
    cases whole
  | ok machine =>
    rw [read, initial_of_blank blank read] at whole
    cases whole

/-- In front of a foreign character a text with a value is not blank. -/
theorem not_blank_cut {limit : Nat} {front back : List Char} {c : Char} {tree : Tree}
    (foreign : isForeign c = true) (whole : (scan limit (front ++ c :: back)).ending = .ok tree) :
    ∃ d ∈ front, isWhite d = false ∧ isForeign d = false := by
  by_contra none
  have blank : ∀ d ∈ front, isWhite d = true ∨ isForeign d = true := by
    intro d member
    by_contra neither
    rw [not_or, Bool.not_eq_true, Bool.not_eq_true] at neither
    exact none ⟨d, member, neither⟩
  unfold scan at whole
  rw [List.foldlM_append] at whole
  cases read : front.foldlM (Machine.step limit) .initial with
  | error stop =>
    rw [read] at whole
    cases whole
  | ok machine =>
    rw [read, initial_of_blank blank read] at whole
    simp only [bind, Except.bind, List.foldlM_cons] at whole
    cases next : Machine.step limit .initial c with
    | error stop =>
      rw [next] at whole
      cases whole
    | ok later =>
      obtain ⟨isKey, units, mode⟩ := step_foreign foreign next
      cases mode

/-- A text that is cut in front of a foreign character is no JSON. -/
theorem ending_cut {limit : Nat} {front back : List Char} {c : Char} {tree : Tree}
    (foreign : isForeign c = true) (whole : (scan limit (front ++ c :: back)).ending = .ok tree) :
    (scan limit front).ending = .error .malformed := by
  unfold scan at whole
  rw [List.foldlM_append] at whole
  unfold scan
  cases reached : front.foldlM (Machine.step limit) .initial with
  | error stop =>
    rw [reached] at whole
    cases whole
  | ok machine =>
    rw [reached] at whole
    simp only [bind, Except.bind, List.foldlM_cons] at whole
    cases read : machine.step limit c with
    | error stop =>
      rw [read] at whole
      cases whole
    | ok next =>
      obtain ⟨isKey, units, mode⟩ := step_foreign foreign read
      simp only [Machine.finish, mode]

end Json
