import DataHarness.Library.Json

/-!
# Schemas of JSON values

A schema constrains a value by keywords, or demands an object with certain members and no others.
It is checked against what it sees of a value, its shape, so that values of any representation can
be checked; and it has a document of its own, in which it is published.
-/

namespace Schema

/-- The kinds of values a schema names. -/
inductive Kind
  | null
  | integer
  | string
  | object
deriving DecidableEq

/-- The name of a kind. -/
def Kind.name : Kind → String
  | .null => "null"
  | .integer => "integer"
  | .string => "string"
  | .object => "object"

/-- What a schema sees of a value: its kind and what the keywords read. Of an object these are its
keys and its members; values of the kinds that no schema names are not told apart. -/
inductive Shape (α : Type)
  | null
  | integer (number : Int)
  | string (text : String)
  | object (keys : List String) (member : String → Option α)
  | other

/-- The kind of a shape. -/
def Shape.kind? {α : Type} : Shape α → Option Kind
  | .null => some .null
  | .integer _ => some .integer
  | .string _ => some .string
  | .object _ _ => some .object
  | .other => none

/-- The parts of a pattern: a text, and a number of characters within some ranges. -/
inductive Piece
  | literal (text : String)
  | among (ranges : List (Char × Char)) (count : Nat)

/-- The character is within one of the ranges. -/
def within (ranges : List (Char × Char)) (c : Char) : Bool :=
  ranges.any fun range => range.1 ≤ c && c ≤ range.2

/-- A text is the pieces one after the other. -/
def matchesAll : List Piece → List Char → Bool
  | [], text => text.isEmpty
  | .literal own :: pieces, text =>
    own.toList.isPrefixOf text && matchesAll pieces (text.drop own.toList.length)
  | .among ranges count :: pieces, text =>
    decide (count ≤ text.length) && (text.take count).all (within ranges) &&
      matchesAll pieces (text.drop count)

/-- A piece as it is written. -/
def Piece.written : Piece → String
  | .literal text => text
  | .among ranges count =>
    "[" ++ String.join (ranges.map fun range =>
      String.singleton range.1 ++ "-" ++ String.singleton range.2) ++ "]\x7b" ++
      toString count ++ "\x7d"

/-- What is said of a value that is no object. -/
inductive Keyword
  | type (kinds : List Kind)
  | const (text : String)
  | enum (texts : List String)
  | minLength (bound : Nat)
  | minimum (bound : Int)
  | pattern (pieces : List Piece)

/-- The keyword holds of a value. Bounds and patterns constrain values of their own kind only. -/
def Keyword.holds {α : Type} (keyword : Keyword) (shape : Shape α) : Bool :=
  match keyword, shape with
  | .type kinds, shape => shape.kind?.any (kinds.contains ·)
  | .const text, .string own => own == text
  | .const _, _ => false
  | .enum texts, .string own => texts.contains own
  | .enum _, _ => false
  | .minLength bound, .string own => decide (bound ≤ own.length)
  | .minLength _, _ => true
  | .minimum bound, .integer own => decide (bound ≤ own)
  | .minimum _, _ => true
  | .pattern pieces, .string own => matchesAll pieces own.toList
  | .pattern _, _ => true

/-- The member of a document that a keyword is. -/
def Keyword.document : Keyword → String × Json.Value
  | .type [kind] => ("type", .str kind.name)
  | .type kinds => ("type", .arr (kinds.map fun kind => .str kind.name))
  | .const text => ("const", .str text)
  | .enum texts => ("enum", .arr (texts.map .str))
  | .minLength bound => ("minLength", .int bound)
  | .minimum bound => ("minimum", .int bound)
  | .pattern pieces => ("pattern", .str ("^" ++ String.join (pieces.map Piece.written) ++ "$"))

end Schema

/-- A schema: keywords, or an object with required members, a schema for each member it may have,
and no others. -/
inductive Schema
  | leaf (keywords : List Schema.Keyword)
  | object (required : List String) (properties : List (String × Schema))

namespace Schema

variable {α : Type}

mutual

/-- The schema accepts the value. -/
def accepts (shape : α → Shape α) : Schema → α → Bool
  | .leaf keywords, value => keywords.all fun keyword => keyword.holds (shape value)
  | .object required properties, value =>
    match shape value with
    | .object keys member =>
      required.all (fun key => (member key).isSome) &&
        keys.all (fun key => (properties.map Prod.fst).contains key) &&
          acceptsEach shape properties member
    | _ => false

/-- The schemas of the properties accept the members that are there. -/
def acceptsEach (shape : α → Shape α) : List (String × Schema) → (String → Option α) → Bool
  | [], _ => true
  | property :: properties, member =>
    ((member property.1).all fun value => accepts shape property.2 value) &&
      acceptsEach shape properties member

end

mutual

/-- The document in which a schema is published. -/
def document : Schema → Json.Value
  | .leaf keywords => .obj (keywords.map Keyword.document)
  | .object required properties =>
    .obj [("type", .str "object"), ("additionalProperties", .bool false),
      ("required", .arr (required.map .str)), ("properties", .obj (documents properties))]

/-- The documents of the properties. -/
def documents : List (String × Schema) → List (String × Json.Value)
  | [] => []
  | property :: properties => (property.1, document property.2) :: documents properties

end

/-! ## What is accepted -/

variable {shape : α → Shape α}

/-- Members are accepted exactly when each one with a schema is. -/
theorem acceptsEach_iff {properties : List (String × Schema)} {member : String → Option α} :
    acceptsEach shape properties member = true ↔
      ∀ property ∈ properties, ∀ value, member property.1 = some value →
        accepts shape property.2 value = true := by
  induction properties with
  | nil => simp [acceptsEach]
  | cons property properties ih =>
    rw [acceptsEach, Bool.and_eq_true, ih, List.forall_mem_cons]
    cases member property.1 with
    | none => simp
    | some value => simp

/-- An object schema accepts the objects with the required members, no other keys than those of its
properties, and members that their schemas accept. -/
theorem accepts_object {required : List String} {properties : List (String × Schema)} {value : α} :
    accepts shape (.object required properties) value = true ↔
      ∃ keys member, shape value = .object keys member ∧
        (∀ key ∈ required, (member key).isSome = true) ∧
        (∀ key ∈ keys, key ∈ properties.map Prod.fst) ∧
        ∀ property ∈ properties, ∀ own, member property.1 = some own →
          accepts shape property.2 own = true := by
  rw [accepts]
  cases shape value with
  | object keys member =>
    simp only [Bool.and_eq_true, List.all_eq_true, List.contains_iff_mem, acceptsEach_iff]
    constructor
    · rintro ⟨⟨required, known⟩, each⟩
      exact ⟨keys, member, rfl, required, known, each⟩
    · rintro ⟨_, _, same, required, known, each⟩
      obtain ⟨rfl, rfl⟩ := Shape.object.inj same
      exact ⟨⟨required, known⟩, each⟩
  | _ => simp

/-- Keywords accept a value exactly when each of them holds. -/
theorem accepts_leaf {keywords : List Keyword} {value : α} :
    accepts shape (.leaf keywords) value = true ↔
      ∀ keyword ∈ keywords, keyword.holds (shape value) = true := by
  rw [accepts, List.all_eq_true]

/-- A text and so many characters match a pattern of both, when the characters are within the
ranges. -/
theorem matchesAll_iff {own : String} {ranges : List (Char × Char)} {count : Nat}
    {text : List Char} :
    matchesAll [.literal own, .among ranges count] text = true ↔
      ∃ rest, text = own.toList ++ rest ∧ rest.length = count ∧
        ∀ c ∈ rest, within ranges c = true := by
  simp only [matchesAll, Bool.and_eq_true, List.isPrefixOf_iff_prefix, decide_eq_true_eq,
    List.all_eq_true, List.isEmpty_iff]
  constructor
  · rintro ⟨⟨rest, rfl⟩, ⟨enough, inside⟩, nothing⟩
    rw [List.drop_left] at enough inside nothing
    have short : rest.length ≤ count := List.drop_eq_nil_iff.mp nothing
    rw [List.take_of_length_le short] at inside
    exact ⟨rest, rfl, by omega, inside⟩
  · rintro ⟨rest, rfl, length, inside⟩
    rw [List.drop_left, List.take_of_length_le (by omega)]
    exact ⟨⟨rest, rfl⟩, ⟨by omega, inside⟩, List.drop_eq_nil_iff.mpr (by omega)⟩

/-- What a schema sees of a JSON value. -/
def ofJson : Json.Value → Shape Json.Value
  | .null => .null
  | .int number => .integer number
  | .str text => .string text
  | .obj members => .object (members.map Prod.fst) fun key => members.lookup key
  | _ => .other

/-- An object schema accepts an object with exactly its properties when each is accepted. -/
theorem accepts_obj {required : List String} {properties : List (String × Schema)}
    {members : List (String × Json.Value)} (all : members.map Prod.fst = properties.map Prod.fst)
    (known : ∀ key ∈ required, key ∈ properties.map Prod.fst) :
    accepts ofJson (.object required properties) (.obj members) = true ↔
      ∀ property ∈ properties, ∀ own, members.lookup property.1 = some own →
        accepts ofJson property.2 own = true := by
  rw [accepts_object]
  constructor
  · rintro ⟨_, _, same, _, _, each⟩
    obtain ⟨rfl, rfl⟩ := Shape.object.inj same
    exact each
  · intro each
    refine ⟨_, _, rfl, ?_, ?_, each⟩
    · intro key member
      have here := known key member
      rw [← all] at here
      obtain ⟨item, inside, rfl⟩ := List.mem_map.mp here
      rw [List.lookup_isSome_iff]
      exact ⟨item, inside, by simp⟩
    · rw [all]
      exact fun _ member => member

end Schema
