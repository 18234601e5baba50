import DataHarness.Library.JsonReader
import DataHarness.Python

/-!
# `json.loads`

Reading a text stops at its first literal that is refused, or where the text is no JSON or nests
too deeply. A text that reads to its end has the value it holds; a float beyond the range of a
double is read as an infinity without any hook being called.
-/

namespace DataHarness

/-- What reading JSON depends on of the interpreter it runs in. -/
class Interpreter where
  /-- How deep containers nest before `RecursionError`. -/
  maxNesting : Nat
  /-- `float(text)`, as it is written again. -/
  float : Json.Numeral → Json.FloatText
  /-- A float is infinite when it is written beyond the range of a double, and never NaN. -/
  isFinite_float : ∀ numeral, isFinite (float numeral) = !numeral.overflows

export Interpreter (maxNesting)

/-- What `json.loads` raises. -/
inductive LoadsError
  /-- Whatever `parse_constant` raises. -/
  | constant (constant : Json.Constant)
  /-- The `ValueError` of an integer with too many digits. -/
  | tooManyDigits (digits : Nat)
  | decodeError
  | recursionError
deriving DecidableEq

/-- The text of the `ValueError` of an integer with too many digits. -/
def digitsText (digits : Nat) : String :=
  "Exceeds the limit (4300 digits) for integer string conversion: value has " ++
    toString digits ++ " digits; use sys.set_int_max_str_digits() to increase the limit"

/-- `json.loads` refuses a literal: an integer that is too long, and an exceptional float if
`parse_constant` raises. -/
def refused (hook : Bool) : Json.Literal → Bool
  | .number numeral => numeral.isInteger && decide (maxStrDigits < numeral.whole.length)
  | .constant _ => hook

/-- What refusing a literal raises. -/
def refusal : Json.Literal → LoadsError
  | .number numeral => .tooManyDigits numeral.whole.length
  | .constant constant => .constant constant

/-- The name of an exceptional float is the text of a float. -/
theorem constant_number (constant : Json.Constant) :
    ∀ c ∈ constant.name.toList, Json.isNumberChar c = true := by
  cases constant <;> exact List.all_eq_true.mp (by decide)

/-- It is the text of no integer. -/
theorem constant_marked (constant : Json.Constant) :
    ∃ c ∈ constant.name.toList, Json.isIntegerChar c = false := by
  have marked : constant.name.toList.any fun c => !Json.isIntegerChar c := by
    cases constant <;> decide
  obtain ⟨c, member, odd⟩ := List.any_eq_true.mp marked
  exact ⟨c, member, by simpa using odd⟩

/-- It starts as a float does. -/
theorem constant_head (constant : Json.Constant) :
    ∀ c ∈ constant.name.toList.head?, Json.isFloatHead c = true := by
  cases constant <;> exact (Option.all_eq_true _ _).mp (by decide)

/-- An exceptional float. -/
def constantFloat (constant : Json.Constant) : Json.FloatText :=
  ⟨constant.name, constant_number constant, constant_marked constant, constant_head constant⟩

/-! ## An interpreter to evaluate with -/

/-- The text of a float of small runs holds number characters. -/
theorem oneAndHalf_number : ∀ c ∈ "1.5".toList, Json.isNumberChar c = true :=
  List.all_eq_true.mp (by decide)

/-- It is the text of no integer. -/
theorem oneAndHalf_marked : ∃ c ∈ "1.5".toList, Json.isIntegerChar c = false :=
  ⟨'.', by decide, by decide⟩

/-- It starts as a float does. -/
theorem oneAndHalf_head : ∀ c ∈ "1.5".toList.head?, Json.isFloatHead c = true :=
  (Option.all_eq_true _ _).mp (by decide)

/-- The finite float of small runs. -/
def oneAndHalf : Json.FloatText := ⟨"1.5", oneAndHalf_number, oneAndHalf_marked, oneAndHalf_head⟩

/-- Reading of floats for small runs, which write `1.5` only. -/
def smallFloat (numeral : Json.Numeral) : Json.FloatText :=
  if numeral.overflows then
    constantFloat (if numeral.negative then .minusInfinity else .infinity)
  else oneAndHalf

/-- A float of small runs is finite when it is written within the range of a double. -/
theorem isFinite_smallFloat (numeral : Json.Numeral) :
    isFinite (smallFloat numeral) = !numeral.overflows := by
  unfold smallFloat
  cases numeral.overflows with
  | false =>
    show isFinite oneAndHalf = true
    decide
  | true =>
    cases numeral.negative with
    | false =>
      show isFinite (constantFloat .infinity) = false
      decide
    | true =>
      show isFinite (constantFloat .minusInfinity) = false
      decide

/-- An interpreter for small runs. -/
@[reducible] def Interpreter.small : Interpreter := ⟨100, smallFloat, isFinite_smallFloat⟩

/-! ## Values -/

variable [Interpreter]

/-- The value of a literal. -/
def literalValue : Json.Literal → Json.Value
  | .number numeral =>
    if numeral.isInteger then .int numeral.toInt else .float (Interpreter.float numeral)
  | .constant constant => .float (constantFloat constant)

mutual

/-- The value of a tree. -/
def treeValue : Json.Tree → Json.Value
  | .null => .null
  | .bool flag => .bool flag
  | .literal literal => literalValue literal
  | .str text => .str text
  | .arr items => .arr (treeValues items)
  | .obj members => .obj (memberValues members)

/-- The values of items. -/
def treeValues : List Json.Tree → List Json.Value
  | [] => []
  | item :: items => treeValue item :: treeValues items

/-- The values of members. -/
def memberValues : List (List Nat × Json.Tree) → List (String × Json.Value)
  | [] => []
  | member :: members => (Json.textOf member.1, treeValue member.2) :: memberValues members

end

/-- `json.loads(text)`; with a hook, `parse_constant` raises. -/
def loads (hook : Bool) (text : String) : Except LoadsError Json.Value :=
  let scanned := Json.scan maxNesting text.toList
  match scanned.literals.find? (refused hook) with
  | some literal => .error (refusal literal)
  | none =>
    match scanned.ending with
    | .ok tree => .ok (treeValue tree)
    | .error .malformed => .error .decodeError
    | .error .nested => .error .recursionError

/-- A text is read when it holds a value and no literal of it is refused. -/
theorem loads_eq_ok {hook : Bool} {text : String} {value : Json.Value} :
    loads hook text = .ok value ↔
      (Json.scan maxNesting text.toList).literals.find? (refused hook) = none ∧
        ∃ tree, (Json.scan maxNesting text.toList).ending = .ok tree ∧ value = treeValue tree := by
  unfold loads
  dsimp only
  cases first : (Json.scan maxNesting text.toList).literals.find? (refused hook) with
  | some literal => simp
  | none =>
    cases ended : (Json.scan maxNesting text.toList).ending with
    | ok tree =>
      simp only [Except.ok.injEq, true_and, exists_eq_left']
      exact eq_comm
    | error failure => cases failure <;> simp

/-- Why a text is not read: a literal of it is refused, or it is no JSON, or nests too deeply. -/
theorem loads_eq_error {hook : Bool} {text : String} {error : LoadsError} :
    loads hook text = .error error ↔
      match (Json.scan maxNesting text.toList).literals.find? (refused hook) with
      | some literal => error = refusal literal
      | none => (Json.scan maxNesting text.toList).ending = .error .malformed ∧
            error = .decodeError ∨
          (Json.scan maxNesting text.toList).ending = .error .nested ∧ error = .recursionError := by
  unfold loads
  dsimp only
  cases (Json.scan maxNesting text.toList).literals.find? (refused hook) with
  | some literal =>
    simp only [Except.error.injEq]
    exact eq_comm
  | none =>
    cases (Json.scan maxNesting text.toList).ending with
    | ok tree => simp
    | error failure => cases failure <;> simp [eq_comm]

end DataHarness
