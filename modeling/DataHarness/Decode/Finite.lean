import DataHarness.Decode.Decoder
import DataHarness.Library.JsonLiterals
import DataHarness.Library.Loops
import DataHarness.Query.Runtime

/-!
# Finite JSON

The hook of `json.loads` refuses the names of the exceptional floats, and no other literal: a
number beyond the range of a double is read as an infinity and accepted. An integer with too many
digits raises a plain `ValueError`, which the decoder does not catch. Both are ruled out by what a
payload has written in it (`finite_iff`).
-/

namespace DataHarness

open StandardDecoder

/-- A number that is no float beyond the range of a double. -/
def inRange : Json.Literal → Bool
  | .number numeral => numeral.isInteger || !numeral.overflows
  | .constant _ => false

/-- The exceptional floats are not finite. -/
theorem isFinite_constantFloat (constant : Json.Constant) :
    isFinite (constantFloat constant) = false := by
  cases constant <;> decide

section Finite

variable [Interpreter]

/-! ## Values -/

/-- A literal is finite when it is in range. -/
theorem finite_literalValue (literal : Json.Literal) :
    finite (literalValue literal) = inRange literal := by
  cases literal with
  | constant constant => exact isFinite_constantFloat constant
  | number numeral =>
    unfold literalValue inRange
    dsimp only
    split
    · rename_i integer
      rw [integer]
      rfl
    · rename_i float
      rw [Bool.eq_false_iff.mpr float, Bool.false_or]
      exact Interpreter.isFinite_float numeral

mutual

/-- A value is finite when its literals are in range. -/
theorem finite_treeValue : ∀ tree : Json.Tree,
    finite (treeValue tree) = tree.literals.all inRange
  | .null => rfl
  | .bool _ => rfl
  | .str _ => rfl
  | .literal literal => by
    rw [treeValue, finite_literalValue]
    simp [Json.Tree.literals]
  | .arr items => by
    rw [treeValue, finite, finite_treeValues items]
    rfl
  | .obj members => by
    rw [treeValue, finite, finite_memberValues members]
    rfl

/-- The same for items. -/
theorem finite_treeValues : ∀ items : List Json.Tree,
    finiteItems (treeValues items) = (Json.itemLiterals items).all inRange
  | [] => rfl
  | item :: items => by
    rw [treeValues, finiteItems, finite_treeValue item, finite_treeValues items,
      Json.itemLiterals, List.all_append]

/-- The same for members. -/
theorem finite_memberValues : ∀ members : List (List Nat × Json.Tree),
    finiteMembers (memberValues members) = (Json.memberLiterals members).all inRange
  | [] => rfl
  | member :: members => by
    rw [memberValues, finiteMembers, finite_treeValue member.2, finite_memberValues members,
      Json.memberLiterals, List.all_append]

end

/-! ## Texts -/

/-- The first literal of a text that is refused, the names of the exceptional floats among them. -/
def firstRefused (text : String) : Option Json.Literal :=
  (Json.scan maxNesting text.toList).literals.find? (refused true)

/-- A text holds a value, and no literal of it is refused. -/
def Holds (text : String) (tree : Json.Tree) : Prop :=
  firstRefused text = none ∧ (Json.scan maxNesting text.toList).ending = .ok tree

/-- A text is read when it holds a value. -/
theorem loads_iff_holds {text : String} {value : Json.Value} :
    loads true text = .ok value ↔ ∃ tree, Holds text tree ∧ value = treeValue tree := by
  rw [loads_eq_ok]
  constructor
  · rintro ⟨none, tree, ended, same⟩
    exact ⟨tree, ⟨none, ended⟩, same⟩
  · rintro ⟨tree, ⟨none, ended⟩, same⟩
    exact ⟨none, tree, ended, same⟩

/-- A text whose first refused literal is an integer is not read. -/
theorem loads_of_integer {text : String} {numeral : Json.Numeral}
    (first : firstRefused text = some (.number numeral)) :
    loads true text = .error (.tooManyDigits numeral.whole.length) := by
  unfold firstRefused at first
  rw [loads_eq_error, first]
  rfl

/-- Reading a text raises what is not caught when the first literal that is refused is an integer. -/
theorem loads_uncaught {text : String} {error : LoadsError} (raised : loads true text = .error error) :
    (∀ message, loadsRejected error ≠ .rejected message) ↔
      ∃ numeral, firstRefused text = some (.number numeral) := by
  have why := loads_eq_error.mp raised
  cases first : firstRefused text with
  | some literal =>
    unfold firstRefused at first
    rw [first] at why
    obtain rfl : error = refusal literal := why
    cases literal with
    | number numeral =>
      refine ⟨fun _ => ⟨numeral, rfl⟩, fun _ message same => ?_⟩
      cases same
    | constant constant =>
      refine ⟨fun uncaught => absurd rfl (uncaught _), ?_⟩
      rintro ⟨numeral, same⟩
      cases same
  | none =>
    unfold firstRefused at first
    rw [first] at why
    refine ⟨fun uncaught => ?_, ?_⟩
    · rcases why with ⟨-, rfl⟩ | ⟨-, rfl⟩
      · exact absurd rfl (uncaught _)
      · exact absurd rfl (uncaught _)
    · rintro ⟨numeral, same⟩
      cases same

/-! ## Payloads -/

/-- The texts of a payload, each read on its own. -/
def payloadTexts (text mediaType : String) : List String :=
  if mediaType ∈ lineMediaTypes then filledLines text else [text]

/-- A payload holds a value: that of its text, or those of its lines as an array. -/
def HoldsPayload (text mediaType : String) (tree : Json.Tree) : Prop :=
  if mediaType ∈ lineMediaTypes then
    ∃ trees, List.Forall₂ Holds (filledLines text) trees ∧ tree = .arr trees
  else Holds text tree

/-- The number of rows of a value. -/
def treeRows : Json.Tree → Nat
  | .arr items => items.length
  | _ => 1

/-- The values of items are one for each. -/
theorem treeValues_eq_map (items : List Json.Tree) : treeValues items = items.map treeValue := by
  induction items with
  | nil => rfl
  | cons item items ih => rw [treeValues, ih, List.map_cons]

/-- A value has its rows. -/
theorem jsonRows_treeValue (tree : Json.Tree) : jsonRows (treeValue tree) = treeRows tree := by
  cases tree with
  | null => rfl
  | bool flag => rfl
  | str text => rfl
  | obj members => rfl
  | literal literal =>
    cases literal with
    | constant constant => rfl
    | number numeral =>
      rw [treeValue, literalValue]
      split <;> rfl
  | arr items =>
    rw [treeValue, treeValues_eq_map]
    exact List.length_map treeValue

/-- Lines are read when each holds a value. -/
theorem mapM_iff_holds {texts : List String} {values : List Json.Value} :
    texts.mapM (loads true) = .ok values ↔
      ∃ trees, List.Forall₂ Holds texts trees ∧ values = trees.map treeValue := by
  constructor
  · intro read
    have each := Loops.forall₂_of_mapM read
    clear read
    induction each with
    | nil => exact ⟨[], .nil, rfl⟩
    | cons own _ ih =>
      obtain ⟨tree, holds, rfl⟩ := loads_iff_holds.mp own
      obtain ⟨trees, rest, rfl⟩ := ih
      exact ⟨tree :: trees, .cons holds rest, rfl⟩
  · rintro ⟨trees, each, rfl⟩
    apply Loops.mapM_of_forall₂
    induction each with
    | nil => exact .nil
    | cons own _ ih => exact .cons (loads_iff_holds.mpr ⟨_, own, rfl⟩) ih

/-- A payload is read when it holds a value. -/
theorem json_iff_holds {text mediaType : String} {value : Json.Value} {rows : Nat} :
    json text mediaType = .ok (value, rows) ↔
      ∃ tree, HoldsPayload text mediaType tree ∧ value = treeValue tree ∧ rows = treeRows tree := by
  unfold HoldsPayload
  by_cases typed : mediaType ∈ lineMediaTypes
  · simp only [if_pos typed]
    rw [json_eq_ok typed]
    constructor
    · rintro ⟨values, read, rfl, rfl⟩
      obtain ⟨trees, each, rfl⟩ := mapM_iff_holds.mp read
      refine ⟨.arr trees, ⟨trees, each, rfl⟩, ?_, List.length_map treeValue⟩
      rw [treeValue, treeValues_eq_map]
    · rintro ⟨tree, ⟨trees, each, rfl⟩, rfl, rfl⟩
      refine ⟨_, mapM_iff_holds.mpr ⟨trees, each, rfl⟩, ?_, (List.length_map treeValue).symm⟩
      rw [treeValue, treeValues_eq_map]
  · simp only [if_neg typed]
    unfold json
    rw [if_neg typed, bind_ok_iff]
    constructor
    · rintro ⟨own, read, same⟩
      obtain ⟨tree, holds, rfl⟩ := loads_iff_holds.mp read
      obtain ⟨first, second⟩ := Prod.mk.inj (Except.ok.inj same)
      exact ⟨tree, holds, first.symm, second.symm.trans (jsonRows_treeValue tree)⟩
    · rintro ⟨tree, holds, rfl, rfl⟩
      refine ⟨_, loads_iff_holds.mpr ⟨tree, holds, rfl⟩, ?_⟩
      rw [jsonRows_treeValue]
      rfl

/-- Reading a payload raises what its first text that holds no value does. -/
theorem json_eq_error {text mediaType : String} {error : LoadsError} :
    json text mediaType = .error error ↔
      ∃ before line after, payloadTexts text mediaType = before ++ line :: after ∧
        (∀ earlier ∈ before, ∃ tree, Holds earlier tree) ∧ loads true line = .error error := by
  have read : json text mediaType = .error error ↔
      (payloadTexts text mediaType).mapM (loads true) = .error error := by
    unfold json payloadTexts
    split
    · cases (filledLines text).mapM (loads true) <;> simp [bind, Except.bind, pure, Except.pure]
    · cases own : loads true text <;> simp [bind, Except.bind, pure, Except.pure, own]
  have holds : ∀ earlier, (∃ result, loads true earlier = .ok result) ↔
      ∃ tree, Holds earlier tree := by
    intro earlier
    constructor
    · rintro ⟨result, own⟩
      obtain ⟨tree, whole, -⟩ := loads_iff_holds.mp own
      exact ⟨tree, whole⟩
    · rintro ⟨tree, whole⟩
      exact ⟨_, loads_iff_holds.mpr ⟨tree, whole, rfl⟩⟩
  rw [read, Loops.mapM_eq_error]
  simp only [holds]

/-- The name of an exceptional float is in no value that a text holds. -/
theorem constant_not_held {text : String} {tree : Json.Tree} (holds : Holds text tree)
    (constant : Json.Constant) : .constant constant ∉ tree.literals := by
  intro inside
  have met := Json.literals_of_ending holds.2 inside
  have fine := List.find?_eq_none.mp holds.1 _ met
  exact fine rfl

/-- Nor is it in the value of a payload. -/
theorem constant_not_in_payload {text mediaType : String} {tree : Json.Tree}
    (holds : HoldsPayload text mediaType tree) (constant : Json.Constant) :
    .constant constant ∉ tree.literals := by
  unfold HoldsPayload at holds
  split at holds
  · obtain ⟨trees, each, rfl⟩ := holds
    intro inside
    obtain ⟨item, member, own⟩ := Json.mem_itemLiterals.mp inside
    obtain ⟨line, -, held⟩ := Loops.exists_of_forall₂ each member
    exact constant_not_held held constant own
  · exact constant_not_held holds constant

/-- The numbers of a payload are harmless: reading it reaches no text whose first refused literal
is an integer with too many digits; and if it holds a value with few enough rows, none of the
numbers left in it is a float beyond the range of a double. -/
structure WithinNumbers (limits : DecoderLimits) (text mediaType : String) : Prop where
  digits : ∀ before line after numeral, payloadTexts text mediaType = before ++ line :: after →
    (∀ earlier ∈ before, ∃ tree, Holds earlier tree) → firstRefused line ≠ some (.number numeral)
  range : ∀ tree numeral, HoldsPayload text mediaType tree → treeRows tree ≤ limits.maxRecords →
    .number numeral ∈ tree.literals → numeral.isInteger = true ∨ numeral.overflows = false

/-- Of a payload that is not read, what is raised is caught when its numbers are harmless. -/
theorem caught_iff {limits : DecoderLimits} {text mediaType : String} {error : LoadsError}
    (raised : json text mediaType = .error error) :
    (∃ message, loadsRejected error = .rejected message) ↔ WithinNumbers limits text mediaType := by
  constructor
  · rintro ⟨message, caught⟩
    constructor
    · intro before line after numeral split fine integer
      have same := json_eq_error.mpr ⟨before, line, after, split, fine, loads_of_integer integer⟩
      rw [raised] at same
      obtain rfl := Except.error.inj same
      cases caught
    · intro tree numeral holds
      have read := json_iff_holds.mpr ⟨tree, holds, rfl, rfl⟩
      rw [raised] at read
      cases read
  · intro within
    obtain ⟨before, line, after, split, fine, thrown⟩ := json_eq_error.mp raised
    by_contra uncaught
    rw [not_exists] at uncaught
    obtain ⟨numeral, integer⟩ := (loads_uncaught thrown).mp uncaught
    exact within.digits before line after numeral split fine integer

/-- A payload that is read is finite, or has too many rows, when its numbers are harmless. -/
theorem finite_payload_iff {limits : DecoderLimits} {text mediaType : String}
    {value : Json.Value} {rows : Nat} (read : json text mediaType = .ok (value, rows)) :
    (rows ≤ limits.maxRecords → finite value = true) ↔ WithinNumbers limits text mediaType := by
  obtain ⟨tree, holds, own, count⟩ := json_iff_holds.mp read
  constructor
  · intro small
    constructor
    · intro before line after numeral split fine integer
      have raised :=
        json_eq_error.mpr ⟨before, line, after, split, fine, loads_of_integer integer⟩
      rw [read] at raised
      cases raised
    · intro other numeral held few inside
      have again := json_iff_holds.mpr ⟨other, held, rfl, rfl⟩
      rw [read] at again
      obtain ⟨values, counts⟩ := Prod.mk.inj (Except.ok.inj again)
      rw [← counts] at few
      have all := small few
      rw [values, finite_treeValue] at all
      have bounded := List.all_eq_true.mp all _ inside
      simpa [inRange] using bounded
  · intro within few
    rw [own, finite_treeValue, List.all_eq_true]
    intro literal inside
    rw [count] at few
    cases literal with
    | constant constant => exact absurd inside (constant_not_in_payload holds constant)
    | number numeral => simpa [inRange] using within.range tree numeral holds few inside

/-! ## Requests -/

variable [HTMLParser]

/-- A request is answered with finite JSON, or rejected. -/
structure AcceptsFinite (limits : DecoderLimits) (request : DecodeRequest) : Prop where
  accepted : ∀ answer, decode limits request = .ok answer → ∀ batch ∈ answer.batches,
    ∃ value, batch.payload = .json value ∧ finite value = true
  rejected : ∀ error, decode limits request = .error error → ∃ message, error = .rejected message

/-- An answer is finite when its batches are. -/
theorem acceptsFinite_of_ok {limits : DecoderLimits} {request : DecodeRequest}
    {answer : DecodeResult} (done : decode limits request = .ok answer) :
    AcceptsFinite limits request ↔
      ∀ batch ∈ answer.batches, ∃ value, batch.payload = .json value ∧ finite value = true := by
  constructor
  · intro accepts
    exact accepts.accepted answer done
  · intro all
    constructor
    · intro other again
      rw [← Except.ok.inj (done.symm.trans again)]
      exact all
    · intro error raised
      rw [done] at raised
      cases raised

/-- A request that is not answered is rejected. -/
theorem acceptsFinite_of_error {limits : DecoderLimits} {request : DecodeRequest}
    {error : DecodeError} (raised : decode limits request = .error error) :
    AcceptsFinite limits request ↔ ∃ message, error = .rejected message := by
  constructor
  · intro accepts
    exact accepts.rejected error raised
  · intro rejected
    constructor
    · intro answer done
      rw [raised] at done
      cases done
    · intro other again
      rw [← Except.error.inj (raised.symm.trans again)]
      exact rejected

/-- A request for JSON is answered with finite JSON, or rejected, exactly when the numbers of its
payload are harmless or the payload is not admitted. -/
theorem finite_iff {limits : DecoderLimits} {request : DecodeRequest}
    (format : request.payloadFormat = .json) :
    AcceptsFinite limits request ↔
      ∀ text, Admitted limits request text → WithinNumbers limits text (lower request.mediaType) := by
  cases read : readText limits request with
  | error error =>
    have known : mediaTypes request.payloadFormat =
        .ok ["application/json", "application/jsonl", "application/x-ndjson"] := by
      rw [format]
      rfl
    rw [acceptsFinite_of_error (decode_unread read)]
    constructor
    · intro _ text admitted
      exact absurd admitted (not_admitted read text)
    · intro _
      exact readText_rejected known read
  | ok text =>
    rw [forall_admitted read]
    cases parsed : json text (lower request.mediaType) with
    | error error =>
      have failed : parse request text = .error (loadsRejected error) := by
        unfold parse
        rw [format]
        simp only [parsed]
      rw [acceptsFinite_of_error (decode_unparsed read failed), caught_iff parsed]
    | ok whole =>
      obtain ⟨value, rows⟩ := whole
      rw [← finite_payload_iff parsed]
      have done : parse request text = .ok ⟨.json value, rows, jsonKind value, warnings text⟩ := by
        unfold parse
        rw [format]
        simp only [parsed]
      by_cases few : rows ≤ limits.maxRecords
      · have answered := decode_eq_ok.mpr ⟨text, _, read, done, few, rfl⟩
        rw [acceptsFinite_of_ok answered]
        constructor
        · intro all _
          obtain ⟨own, same, small⟩ := all _ List.mem_cons_self
          obtain rfl := Payload.json.inj same
          exact small
        · intro small batch member
          obtain rfl := List.mem_singleton.mp member
          exact ⟨value, rfl, small few⟩
      · rw [acceptsFinite_of_error (decode_too_many read done (not_le.mp few))]
        exact ⟨fun _ many => absurd many few, fun _ => ⟨_, rfl⟩⟩

end Finite

/-! ## Small payloads -/

/-- The number `1.5`. -/
def oneFive : Json.Numeral := ⟨false, ['1'], some ['5'], none⟩

/-- An array with the number `1.5` is finite. -/
theorem finite_small :
    @AcceptsFinite .small .plain .standard
      (textRequest "[1.5]" .json "application/json" (by decide)) := by
  refine (@finite_iff .small .plain .standard
    (textRequest "[1.5]" .json "application/json" (by decide)) rfl).mpr fun text admitted => ?_
  obtain rfl : text = "[1.5]" :=
    (Option.some.inj ((fromUTF8?_toUTF8 "[1.5]").symm.trans admitted.valid)).symm
  have held : @Holds .small "[1.5]" (.arr [.literal (.number oneFive)]) := ⟨rfl, rfl⟩
  refine @WithinNumbers.mk .small .standard "[1.5]" "application/json" ?_ ?_
  · intro before line after numeral split fine integer
    have whole : ["[1.5]"] = before ++ line :: after := split
    cases before with
    | nil =>
      obtain ⟨rfl, -⟩ := List.cons.inj whole
      rw [held.1] at integer
      cases integer
    | cons head before => simp at whole
  · intro tree numeral holds few inside
    have own : @Holds .small "[1.5]" tree := holds
    obtain rfl := Except.ok.inj (held.2.symm.trans own.2)
    have same : Json.Literal.number numeral = .number oneFive := by
      simpa [Json.Tree.literals, Json.itemLiterals] using inside
    obtain rfl := Json.Literal.number.inj same
    right
    decide +kernel

/-- The number `1e999`. -/
def tooLarge : Json.Numeral := ⟨false, ['1'], none, some (false, ['9', '9', '9'])⟩

/-- An array with a number beyond the range of a double is accepted, and infinite. -/
theorem infinity_accepted :
    ¬ @AcceptsFinite .small .plain .standard
      (textRequest "[1e999]" .json "application/json" (by decide)) := by
  have read : readText .standard (textRequest "[1e999]" .json "application/json" (by decide)) =
      .ok "[1e999]" := readText_textRequest (by decide) rfl (by decide) (by decide)
  have held : @Holds .small "[1e999]" (.arr [.literal (.number tooLarge)]) := ⟨rfl, rfl⟩
  have parsed := (@json_iff_holds .small "[1e999]" "application/json" _ _).mpr ⟨_, held, rfl, rfl⟩
  have made : @parse .small .plain (textRequest "[1e999]" .json "application/json" (by decide))
      "[1e999]" = .ok ⟨.json (@treeValue .small (.arr [.literal (.number tooLarge)])), 1, .arrow,
        warnings "[1e999]"⟩ := by
    unfold parse
    have media : lower "application/json" = "application/json" := by decide
    simp only [textRequest, media, parsed]
    rfl
  have done := (@decode_eq_ok .small .plain _ _ _).mpr ⟨_, _, read, made, by decide, rfl⟩
  rw [@acceptsFinite_of_ok .small .plain _ _ _ done]
  intro all
  obtain ⟨value, same, small⟩ := all _ List.mem_cons_self
  obtain rfl := Payload.json.inj same
  have bounded := (@finite_treeValue .small _).symm.trans small
  have large : ([.number tooLarge] : List Json.Literal).all inRange = false := by decide +kernel
  exact absurd (bounded.symm.trans large) (by decide)

end DataHarness
