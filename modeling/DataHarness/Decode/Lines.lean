import DataHarness.Decode.Decoder
import DataHarness.Library.Loops

/-!
# JSON Lines

The decoder splits a payload with `str.splitlines`, which ends a line at more characters than the
new-line character. Those that JSON allows inside strings as they are (U+0085, U+2028 and U+2029)
cut a value in two, and neither part is JSON. Texts without such a character are read back.
-/

namespace DataHarness

open StandardDecoder

/-! ## Characters -/

/-- A character that ends a line, and is neither line feed nor carriage return, stands in JSON
inside strings only. -/
theorem foreign_of_lineEnd {c : Char} (ends : isLineEnd c = true)
    (single : c ≠ '\n' ∧ c ≠ '\r') : Json.isForeign c = true := by
  have feed : c.toNat ≠ 10 := fun same => single.1 (Char.toNat_inj.mp same)
  have carriage : c.toNat ≠ 13 := fun same => single.2 (Char.toNat_inj.mp same)
  simp only [isLineEnd, List.mem_cons, List.not_mem_nil, or_false, decide_eq_true_eq] at ends
  simp only [Json.isForeign, Json.isWhite, List.mem_cons, List.not_mem_nil, or_false,
    Bool.and_eq_true, Bool.or_eq_true, decide_eq_true_eq, Bool.not_eq_true', decide_eq_false_iff_not]
  omega

/-- White space of Python is white space of JSON, or stands inside strings only. -/
theorem white_of_space {c : Char} (space : isSpace c = true) :
    Json.isWhite c = true ∨ Json.isForeign c = true := by
  simp only [isSpace, List.mem_cons, List.not_mem_nil, or_false, Bool.and_eq_true,
    Bool.or_eq_true, decide_eq_true_eq] at space
  simp only [Json.isForeign, Json.isWhite, List.mem_cons, List.not_mem_nil, or_false,
    Bool.and_eq_true, Bool.or_eq_true, decide_eq_true_eq, Bool.not_eq_true', decide_eq_false_iff_not]
  omega

/-- The first of the characters that end a line. -/
theorem exists_cut {text : List Char} (ends : ∃ c ∈ text, isLineEnd c = true) :
    ∃ front c back, text = front ++ c :: back ∧ (∀ d ∈ front, isLineEnd d = false) ∧
      isLineEnd c = true := by
  have found : (text.find? isLineEnd).isSome := List.find?_isSome.mpr ends
  obtain ⟨c, first⟩ := Option.isSome_iff_exists.mp found
  obtain ⟨own, front, back, split, free⟩ := List.find?_eq_some_iff_append.mp first
  exact ⟨front, c, back, split, fun d member => by simpa using free d member, own⟩

/-! ## Texts joined by line feeds -/

/-- Texts without a character that ends a line are the lines of their join. -/
theorem splitlines_join {texts : List String} (filled : ∀ text ∈ texts, text ≠ "")
    (free : ∀ text ∈ texts, ∀ c ∈ text.toList, isLineEnd c = false) :
    splitlines ("\n".intercalate texts) = texts := by
  unfold splitlines
  induction texts with
  | nil => rfl
  | cons text texts ih =>
    have own := free text List.mem_cons_self
    cases texts with
    | nil =>
      have characters : text.toList ≠ [] := by
        intro none
        exact filled text List.mem_cons_self (String.toList_eq_nil_iff.mp none)
      rw [String.intercalate_singleton, linesFrom_free own, List.nil_append, if_neg characters]
      simp
    | cons other texts =>
      have rest := ih (fun later member => filled later (List.mem_cons_of_mem _ member))
        fun later member => free later (List.mem_cons_of_mem _ member)
      rw [toList_intercalate, linesFrom_cut own (by decide) (by decide), List.map_cons, rest]
      simp

section Lines

variable [Interpreter]

/-- A text that is read is not blank. -/
theorem not_blank_of_loads {hook : Bool} {text : String} {value : Json.Value}
    (read : loads hook text = .ok value) : isBlank text = false := by
  by_contra blank
  rw [Bool.not_eq_false] at blank
  obtain ⟨-, tree, ended, -⟩ := loads_eq_ok.mp read
  exact Json.ending_blank (fun c member => white_of_space (List.all_eq_true.mp blank c member)) tree
    ended

/-- A text that is read is cut in front of a character that stands in strings only into a line that
is not blank, and not read. -/
theorem cut_not_read {hook other : Bool} {front back : List Char} {c : Char} {text : String}
    {value : Json.Value} (foreign : Json.isForeign c = true) (split : text.toList = front ++ c :: back)
    (read : loads hook text = .ok value) :
    isBlank (String.ofList front) = false ∧
      ∀ result, loads other (String.ofList front) ≠ .ok result := by
  obtain ⟨-, tree, ended, -⟩ := loads_eq_ok.mp read
  rw [split] at ended
  constructor
  · obtain ⟨d, member, white, native⟩ := Json.not_blank_cut foreign ended
    by_contra blank
    rw [Bool.not_eq_false] at blank
    unfold isBlank at blank
    rw [String.toList_ofList] at blank
    rcases white_of_space (List.all_eq_true.mp blank d member) with same | same
    · rw [white] at same
      cases same
    · rw [native] at same
      cases same
  · intro result accepted
    obtain ⟨-, other, whole, -⟩ := loads_eq_ok.mp accepted
    rw [String.toList_ofList, Json.ending_cut foreign ended] at whole
    cases whole

/-- Texts that are read, of which every line that is not blank is read as well, have no character
that ends a line. -/
theorem free_of_lines {texts : List String}
    (read : ∀ text ∈ texts, ∃ value, loads true text = .ok value)
    (single : ∀ text ∈ texts, ∀ c ∈ text.toList, c ≠ '\n' ∧ c ≠ '\r')
    (lines : ∀ line ∈ linesFrom [] ("\n".intercalate texts).toList,
      isBlank (String.ofList line) = false → ∃ value, loads true (String.ofList line) = .ok value) :
    ∀ text ∈ texts, ∀ c ∈ text.toList, isLineEnd c = false := by
  induction texts with
  | nil =>
    intro text member
    cases member
  | cons text texts ih =>
    have own : ∀ c ∈ text.toList, isLineEnd c = false := by
      by_contra ends
      have some : ∃ c ∈ text.toList, isLineEnd c = true := by simpa using ends
      obtain ⟨front, c, back, split, free, cut⟩ := exists_cut some
      have member : c ∈ text.toList := by simp [split]
      have alone := single text List.mem_cons_self c member
      obtain ⟨value, accepted⟩ := read text List.mem_cons_self
      obtain ⟨filled, refused⟩ :=
        @cut_not_read _ true true _ _ _ _ _ (foreign_of_lineEnd cut alone) split accepted
      -- The joined text starts with the part in front of the character.
      obtain ⟨rest, starts⟩ : ∃ rest,
          ("\n".intercalate (text :: texts)).toList = front ++ c :: rest := by
        cases texts with
        | nil =>
          rw [String.intercalate_singleton, split]
          exact ⟨back, rfl⟩
        | cons other texts =>
          rw [toList_intercalate, split, List.append_assoc, List.cons_append]
          exact ⟨_, rfl⟩
      have listed : front ∈ linesFrom [] ("\n".intercalate (text :: texts)).toList := by
        rw [starts, linesFrom_cut free cut alone.2]
        exact List.mem_cons_self
      obtain ⟨result, again⟩ := lines front listed filled
      exact refused result again
    intro later member
    rcases List.mem_cons.mp member with rfl | inside
    · exact own
    · refine ih (fun other among => read other (List.mem_cons_of_mem _ among))
        (fun other among => single other (List.mem_cons_of_mem _ among)) ?_ later inside
      intro line among
      apply lines
      cases texts with
      | nil => cases inside
      | cons other texts =>
        rw [toList_intercalate, linesFrom_cut own (by decide) (by decide)]
        exact List.mem_cons_of_mem _ among

variable [HTMLParser]

/-- A request is decoded to some values, a row for each. -/
def DecodesLines (limits : DecoderLimits) (request : DecodeRequest) (values : List Json.Value) :
    Prop :=
  ∃ answer, decode limits request = .ok answer ∧
    answer.batches.map (fun batch => (batch.payload, batch.rowCount)) =
      [(.json (.arr values), some values.length)]

/-- What is made of lines. -/
def decodedLines (text : String) (values : List Json.Value) : Decoded :=
  ⟨.json (.arr values), values.length, .arrow, warnings text⟩

/-- Lines are decoded when the payload is read, each is read, and they are few enough. -/
theorem decode_lines {limits : DecoderLimits} {request : DecodeRequest} {text : String}
    {answer : DecodeResult} (format : request.payloadFormat = .json)
    (typed : lower request.mediaType ∈ lineMediaTypes)
    (read : readText limits request = .ok text) :
    decode limits request = .ok answer ↔
      ∃ values, (filledLines text).mapM (loads true) = .ok values ∧
        values.length ≤ limits.maxRecords ∧
          answer = result request (decodedLines text values) := by
  have parsed : ∀ decoded, parse request text = .ok decoded ↔
      ∃ values, (filledLines text).mapM (loads true) = .ok values ∧
        decoded = decodedLines text values := by
    intro decoded
    unfold parse
    rw [format]
    dsimp only
    constructor
    · intro done
      split at done
      · cases done
      · rename_i value rows whole
        obtain ⟨values, lines, same, count⟩ := (json_eq_ok typed).mp whole
        rw [same, count] at done
        exact ⟨values, lines, (Except.ok.inj done).symm⟩
    · rintro ⟨values, lines, same⟩
      rw [(json_eq_ok typed).mpr ⟨values, lines, rfl, rfl⟩, same]
      rfl
  rw [decode_eq_ok]
  constructor
  · rintro ⟨other, decoded, again, done, few, same⟩
    obtain rfl : text = other := Except.ok.inj (read.symm.trans again)
    obtain ⟨values, lines, own⟩ := (parsed decoded).mp done
    rw [own] at few same
    exact ⟨values, lines, few, same⟩
  · rintro ⟨values, lines, few, same⟩
    exact ⟨text, _, read, (parsed _).mpr ⟨values, lines, rfl⟩, few, same⟩

/-- JSON texts without line feed and carriage return, joined by line feeds within the limits, are
decoded to their values exactly when none has a character inside that `str.splitlines` ends a line
at. -/
theorem lines_iff {limits : DecoderLimits} {request : DecodeRequest} {texts : List String}
    {values : List Json.Value} (format : request.payloadFormat = .json)
    (joined : request.payload = ("\n".intercalate texts).toUTF8)
    (typed : lower request.mediaType ∈ lineMediaTypes)
    (rendered : List.Forall₂ (fun text value => loads true text = .ok value) texts values)
    (single : ∀ text ∈ texts, ∀ c ∈ text.toList, c ≠ '\n' ∧ c ≠ '\r')
    (small : request.payload.size ≤ limits.maxPayloadBytes)
    (short : ("\n".intercalate texts).length ≤ limits.maxTextCharacters)
    (few : values.length ≤ limits.maxRecords) :
    DecodesLines limits request values ↔
      ∀ text ∈ texts, ∀ c ∈ text.toList, isLineEnd c = false := by
  have accepted : ∀ text ∈ texts, ∃ value, loads true text = .ok value := by
    intro text member
    obtain ⟨value, -, read⟩ := Loops.exists_of_forall₂ rendered.flip member
    exact ⟨value, read⟩
  have filled : ∀ text ∈ texts, text ≠ "" := by
    rintro text member rfl
    obtain ⟨value, read⟩ := accepted "" member
    have blank := not_blank_of_loads read
    cases blank
  have known : mediaTypes request.payloadFormat = .ok ("application/json" :: lineMediaTypes) := by
    rw [format]
    rfl
  have valid : String.fromUTF8? request.payload = some ("\n".intercalate texts) := by
    rw [joined]
    exact fromUTF8?_toUTF8 _
  have read : readText limits request = .ok ("\n".intercalate texts) :=
    readText_eq_ok.mpr ⟨small, ⟨_, known, List.mem_cons_of_mem _ typed⟩, valid, short⟩
  constructor
  · rintro ⟨answer, decoded, -⟩
    obtain ⟨results, lines, -, -⟩ := (decode_lines format typed read).mp decoded
    refine free_of_lines accepted single fun line member some => ?_
    have among : String.ofList line ∈ filledLines ("\n".intercalate texts) := by
      refine List.mem_filter.mpr ⟨List.mem_map_of_mem member, ?_⟩
      rw [some]
      rfl
    obtain ⟨value, -, own⟩ := Loops.exists_result_of_mapM lines among
    exact ⟨value, own⟩
  · intro free
    have whole : filledLines ("\n".intercalate texts) = texts := by
      unfold filledLines
      rw [splitlines_join filled free, List.filter_eq_self]
      intro text member
      obtain ⟨value, own⟩ := accepted text member
      rw [not_blank_of_loads own]
      rfl
    have lines := Loops.mapM_of_forall₂ rendered
    rw [← whole] at lines
    exact ⟨_, (decode_lines format typed read).mpr ⟨values, lines, few, rfl⟩, rfl⟩

end Lines

/-! ## Small payloads -/

/-- An array and a text on two lines. -/
theorem lines_small :
    @DecodesLines .small .plain .standard
      (textRequest "[true]\n\"a\"" .json "application/jsonl" (by decide))
      [.arr [.bool true], .str "a"] := by
  have rendered : List.Forall₂ (fun text value => @loads .small true text = .ok value)
      ["[true]", "\"a\""] [.arr [.bool true], .str "a"] := .cons rfl (.cons rfl .nil)
  refine (@lines_iff .small .plain .standard
    (textRequest "[true]\n\"a\"" .json "application/jsonl" (by decide)) _ _ rfl rfl (by decide)
    rendered ?_ (by decide) (by decide) (by decide)).mpr ?_
  · intro text member c inside
    have others : [("[true]" : String), "\"a\""].all (fun text => text.toList.all
        fun c => decide (c ≠ '\n' ∧ c ≠ '\r')) = true := by decide
    exact of_decide_eq_true (List.all_eq_true.mp (List.all_eq_true.mp others text member) c inside)
  · intro text member c inside
    have others : [("[true]" : String), "\"a\""].all (fun text => text.toList.all
        fun c => decide (isLineEnd c = false)) = true := by decide
    exact of_decide_eq_true (List.all_eq_true.mp (List.all_eq_true.mp others text member) c inside)

/-- A string with a line separator in it is JSON, and is not decoded as a line. -/
theorem separator_cut :
    @loads .small true "\"a\u2028b\"" = .ok (.str "a\u2028b") ∧
      ¬ @DecodesLines .small .plain .standard
        (textRequest "\"a\u2028b\"" .json "application/jsonl" (by decide)) [.str "a\u2028b"] := by
  refine ⟨rfl, ?_⟩
  rintro ⟨answer, decoded, -⟩
  have read : readText .standard
      (textRequest "\"a\u2028b\"" .json "application/jsonl" (by decide)) = .ok "\"a\u2028b\"" :=
    readText_textRequest (by decide) rfl (by decide) (by decide)
  obtain ⟨values, lines, -⟩ := (@decode_lines .small .plain _ _ _ _ rfl (by decide) read).mp decoded
  -- The first line is the text up to the separator, and ends inside its string.
  have cut : filledLines "\"a\u2028b\"" = ["\"a", "b\""] := by decide
  have refused : @loads .small true "\"a" = .error .decodeError := rfl
  rw [cut, List.mapM_cons, refused] at lines
  cases lines

end DataHarness
