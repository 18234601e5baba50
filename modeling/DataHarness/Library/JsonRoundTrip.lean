import DataHarness.Library.Json
import DataHarness.Library.JsonReader

/-!
# Reading what was written

A written value is read back. A reader in front of it, at any depth, comes out behind it with the
value complete and its literals met (`scanFrom_render`), so the text of a value holds that value
and nothing else (`scan_render`). Floats are read back where their texts spell one, and objects
where no key is there twice.
-/

namespace Json

/-! ## Reading on -/

/-- What a reader makes of the text that is left. -/
def scanFrom (limit : Nat) (machine : Machine) (text : List Char) : Scan :=
  match text.foldlM (Machine.step limit) machine with
  | .ok last => last.finish
  | .error stop => ⟨stop.literals, .error stop.failure⟩

/-- A text is read part by part. -/
theorem foldlM_append_ok {limit : Nat} {machine next : Machine} {front : List Char}
    (read : front.foldlM (Machine.step limit) machine = .ok next) (back : List Char) :
    (front ++ back).foldlM (Machine.step limit) machine =
      back.foldlM (Machine.step limit) next := by
  rw [List.foldlM_append, read]
  rfl

/-- Reading goes on behind what was read. -/
theorem scanFrom_append {limit : Nat} {machine next : Machine} {front : List Char}
    (read : front.foldlM (Machine.step limit) machine = .ok next) (rest : List Char) :
    scanFrom limit machine (front ++ rest) = scanFrom limit next rest := by
  unfold scanFrom
  rw [foldlM_append_ok read]

/-- Reading goes on behind a character. -/
theorem scanFrom_cons {limit : Nat} {machine next : Machine} {c : Char}
    (read : machine.step limit c = .ok next) (rest : List Char) :
    scanFrom limit machine (c :: rest) = scanFrom limit next rest := by
  unfold scanFrom
  rw [List.foldlM_cons, read]
  rfl

/-! ## Strings -/

/-- The code units of a character. -/
def unitsOf (c : Char) : List Nat :=
  if c.toNat < 65536 then [c.toNat]
  else [55296 + (c.toNat - 65536) / 1024, 56320 + (c.toNat - 65536) % 1024]

/-- A character is no surrogate and within the planes. -/
theorem char_bounds (c : Char) : c.toNat < 55296 ∨ 57343 < c.toNat ∧ c.toNat < 1114112 := by
  have valid := c.valid
  simp only [UInt32.isValidChar, Nat.isValidChar] at valid
  exact valid

/-- The code points of a text. -/
def pointsOf (text : String) : List Nat := text.toList.map Char.toNat

/-- A unit that is no high surrogate is a code point of its own. -/
theorem codePoints_cons {unit : Nat} (alone : ¬ (0xd800 ≤ unit ∧ unit ≤ 0xdbff))
    (rest : List Nat) : codePoints (unit :: rest) = unit :: codePoints rest := by
  cases rest with
  | nil => rfl
  | cons low rest =>
    rw [codePoints, if_neg]
    rintro ⟨first, second, -⟩
    exact alone ⟨first, second⟩

/-- The units of a character are read as its code point. -/
theorem codePoints_units (c : Char) (rest : List Nat) :
    codePoints (unitsOf c ++ rest) = c.toNat :: codePoints rest := by
  have bounds := char_bounds c
  unfold unitsOf
  by_cases basic : c.toNat < 65536
  · have alone : ¬ (0xd800 ≤ c.toNat ∧ c.toNat ≤ 0xdbff) := by omega
    rw [if_pos basic, List.singleton_append, codePoints_cons alone]
  · have number : 0x10000 + (55296 + (c.toNat - 65536) / 1024 - 0xd800) * 0x400 +
        (56320 + (c.toNat - 65536) % 1024 - 0xdc00) = c.toNat := by omega
    rw [if_neg basic, List.cons_append, List.cons_append, List.nil_append, codePoints,
      if_pos (by omega), number]

/-- The units of a text are read as its code points. -/
theorem codePoints_flatMap (text : String) :
    codePoints (text.toList.flatMap unitsOf) = pointsOf text := by
  unfold pointsOf
  induction text.toList with
  | nil => rfl
  | cons c text ih => rw [List.flatMap_cons, codePoints_units, ih, List.map_cons]

/-- The code points of a text are written as it. -/
theorem textOf_pointsOf (text : String) : textOf (pointsOf text) = text := by
  have own : pointChar ∘ Char.toNat = id := by
    funext c
    have bounds := char_bounds c
    have valid : c.toNat.isValidChar := by
      unfold Nat.isValidChar
      omega
    rw [Function.comp_apply, pointChar, if_pos valid, Char.ofNat_toNat, id]
  rw [textOf, pointsOf, List.map_map, own, List.map_id, String.ofList_toList]

/-- Texts with one list of code points are one text. -/
theorem pointsOf_injective : Function.Injective pointsOf := by
  intro left right same
  rw [← textOf_pointsOf left, same, textOf_pointsOf]

/-- A written hexadecimal digit is read as its value. -/
theorem hexadecimal_hexDigit {n : Nat} (bound : n < 16) : hexadecimal (hexDigit n) = some n := by
  revert n
  decide

section Escapes

variable {limit : Nat} {machine : Machine} {isKey : Bool} {units : List Nat}

/-- A reader within a string. -/
def Machine.within (machine : Machine) (isKey : Bool) (units : List Nat) : Machine :=
  { machine with mode := .string isKey units }

/-- Four digits are read as a code unit. -/
theorem run_unit {n : Nat} (bound : n < 65536) :
    (unit n).foldlM (Machine.step limit) (machine.within isKey units) =
      .ok (machine.within isKey (units ++ [n])) := by
  have first := @hexadecimal_hexDigit (n / 4096 % 16) (by omega)
  have second := @hexadecimal_hexDigit (n / 256 % 16) (by omega)
  have third := @hexadecimal_hexDigit (n / 16 % 16) (by omega)
  have fourth := @hexadecimal_hexDigit (n % 16) (by omega)
  have number : 16 * (16 * (16 * (16 * 0 + n / 4096 % 16) + n / 256 % 16) + n / 16 % 16) + n % 16 =
      n := by omega
  simp [unit, Machine.within, Machine.step, Machine.readString, Machine.readEscape, Machine.readHex,
    first, second, third, fourth, bind, Except.bind, pure, Except.pure]
  omega

/-- An escaped character is read as its units. -/
theorem run_escape (c : Char) :
    (escape c).foldlM (Machine.step limit) (machine.within isKey units) =
      .ok (machine.within isKey (units ++ unitsOf c)) := by
  have bounds := char_bounds c
  unfold escape
  split_ifs with quoted slash newline carriage tab feed back printable basic
  · subst quoted; rfl
  · subst slash; rfl
  · subst newline; rfl
  · subst carriage; rfl
  · subst tab; rfl
  · subst feed; rfl
  · subst back; rfl
  · have control : ¬ c.toNat < 32 := by omega
    have own : unitsOf c = [c.toNat] := if_pos (by omega)
    rw [own, List.foldlM_cons]
    simp [Machine.within, Machine.step, Machine.readString, quoted, slash, control, bind,
      Except.bind, pure, Except.pure]
  · have own : unitsOf c = [c.toNat] := if_pos basic
    rw [own]
    exact run_unit basic
  · have own : unitsOf c = [55296 + (c.toNat - 65536) / 1024, 56320 + (c.toNat - 65536) % 1024] :=
      if_neg basic
    rw [own, foldlM_append_ok (run_unit (by omega)), run_unit (by omega), List.append_assoc]
    rfl

/-- A string is read to its closing quote. -/
theorem run_quoteTail (text : List Char) :
    (quoteTail text).foldlM (Machine.step limit) (machine.within isKey units) =
      .ok ((machine.within isKey units).completeString isKey (units ++ text.flatMap unitsOf)) := by
  induction text generalizing units with
  | nil =>
    rw [List.flatMap_nil, List.append_nil]
    rfl
  | cons c text ih =>
    rw [quoteTail, foldlM_append_ok (run_escape c), List.flatMap_cons, ← List.append_assoc]
    exact ih

end Escapes

/-! ## Numbers -/

/-- A number goes on with a text. -/
def continueText : Phase × Numeral → List Char → Option (Phase × Numeral)
  | state, [] => some state
  | state, c :: text =>
    match continueNumber state.1 state.2 c with
    | some next => continueText next text
    | none => none

/-- The number that was read, if it may end there. -/
def ended : Option (Phase × Numeral) → Option Literal
  | some (phase, numeral) => if phase.complete then some (.number numeral) else none
  | none => none

/-- The literal that a text spells. -/
def spelled : List Char → Option Literal
  | ['N', 'a', 'N'] => some (.constant .nan)
  | ['I', 'n', 'f', 'i', 'n', 'i', 't', 'y'] => some (.constant .infinity)
  | ['-', 'I', 'n', 'f', 'i', 'n', 'i', 't', 'y'] => some (.constant .minusInfinity)
  | '-' :: text => ended (continueText (.sign, ⟨true, [], none, none⟩) text)
  | text => ended (continueText (.sign, ⟨false, [], none, none⟩) text)

/-- A character that ends a number: white space, a comma or a closing bracket. -/
def isStop (c : Char) : Bool := isWhite c || c == ',' || c == ']' || c == '}'

/-- No number goes on with such a character. -/
theorem continueNumber_stop {c : Char} (stop : isStop c = true) (phase : Phase)
    (numeral : Numeral) : continueNumber phase numeral c = none := by
  have digit : c.isDigit = false ∧ c ≠ '.' ∧ c ≠ 'e' ∧ c ≠ 'E' ∧ c ≠ '+' ∧ c ≠ '-' ∧ c ≠ '0' := by
    unfold isStop isWhite at stop
    simp only [Bool.or_eq_true, beq_iff_eq, decide_eq_true_eq, List.mem_cons, List.not_mem_nil,
      or_false] at stop
    rcases stop with ((white | rfl) | rfl) | rfl
    · have small : c.toNat ≤ 32 := by omega
      have apart : ∀ d : Char, 32 < d.toNat → c ≠ d := by
        rintro d large rfl
        omega
      refine ⟨?_, apart _ (by decide), apart _ (by decide), apart _ (by decide),
        apart _ (by decide), apart _ (by decide), apart _ (by decide)⟩
      by_contra digit
      rw [Bool.not_eq_false] at digit
      have range : 48 ≤ c.toNat ∧ c.toNat ≤ 57 := Char.isDigit_iff_toNat.mp digit
      omega
    all_goals decide
  obtain ⟨digit, point, small, large, plus, minus, zero⟩ := digit
  cases phase <;> simp [continueNumber, digit, point, small, large, plus, minus, zero]

/-- Nothing, or such a character, comes first. -/
def Stopped (rest : List Char) : Prop := ∀ c ∈ rest.head?, isStop c = true

/-- Completing a value forgets what was due. -/
theorem Machine.complete_mode (machine : Machine) (mode : Mode) (tree : Tree) :
    ({ machine with mode } : Machine).complete tree = machine.complete tree := by
  unfold Machine.complete
  cases machine.stack with
  | nil => rfl
  | cons frame rest => cases frame <;> rfl

/-- Behind a value its end, a comma or a bracket is due. -/
theorem Machine.complete_due (machine : Machine) (tree : Tree) :
    (machine.complete tree).mode = .after ∨ (machine.complete tree).mode = .done tree := by
  unfold Machine.complete
  cases machine.stack with
  | nil => exact .inr rfl
  | cons frame rest => cases frame <;> exact .inl rfl

/-- A text that ends behind a number ends as behind the value that the number completes. -/
theorem Machine.finish_ended {machine ended : Machine} {phase : Phase} {numeral : Numeral}
    (counting : machine.mode = .number phase numeral)
    (ends : machine.endNumber phase numeral = .ok ended)
    (due : ended.mode = .after ∨ ∃ tree, ended.mode = .done tree) :
    machine.finish = ended.finish := by
  simp only [Machine.finish, counting, ends]
  rcases due with mode | ⟨tree, mode⟩ <;> simp only [mode]

/-- A character behind a value is read as one that follows it. -/
theorem Machine.step_complete {limit : Nat} (machine : Machine) (tree : Tree) (c : Char) :
    (machine.complete tree).step limit c = (machine.complete tree).follow c := by
  unfold Machine.step
  rcases machine.complete_due tree with mode | mode <;> rw [mode]

/-- A reader in front of a value. -/
def Machine.Ready (machine : Machine) : Prop := machine.mode = .value ∨ machine.mode = .item

/-- A character that is no white space and no bracket starts a value. -/
theorem Machine.Ready.step {limit : Nat} {machine : Machine} (ready : machine.Ready) {c : Char}
    (white : isWhite c = false) (bracket : c ≠ ']') :
    machine.step limit c = machine.start limit c := by
  unfold Machine.step
  rcases ready with mode | mode
  · rw [mode]
    simp [white]
  · rw [mode]
    simp [white, bracket]

/-- A reader in front of a word comes out behind it. -/
theorem run_letters {limit : Nat} {machine : Machine} (ready : machine.Ready) (keyword : Keyword) :
    keyword.letters.foldlM (Machine.step limit) machine = .ok (machine.completeWord keyword) := by
  have forgets : ∀ mode, ({ machine with mode } : Machine).completeWord keyword =
      machine.completeWord keyword := by
    intro mode
    unfold Machine.completeWord
    cases keyword.tree with
    | literal literal =>
      exact Machine.complete_mode { machine with literals := machine.literals ++ [literal] } mode _
    | _ => exact Machine.complete_mode machine mode _
  cases keyword with
  | null =>
    rw [Keyword.letters, List.foldlM_cons, ready.step (by decide) (by decide)]
    exact congrArg Except.ok (forgets _)
  | true =>
    rw [Keyword.letters, List.foldlM_cons, ready.step (by decide) (by decide)]
    exact congrArg Except.ok (forgets _)
  | false =>
    rw [Keyword.letters, List.foldlM_cons, ready.step (by decide) (by decide)]
    exact congrArg Except.ok (forgets _)
  | nan =>
    rw [Keyword.letters, List.foldlM_cons, ready.step (by decide) (by decide)]
    exact congrArg Except.ok (forgets _)
  | infinity =>
    rw [Keyword.letters, List.foldlM_cons, ready.step (by decide) (by decide)]
    exact congrArg Except.ok (forgets _)
  | minusInfinity =>
    rw [Keyword.letters, List.foldlM_cons, ready.step (by decide) (by decide)]
    exact congrArg Except.ok (forgets _)

section Numbers

variable {limit : Nat} {machine : Machine}

/-- A reader within a number. -/
def Machine.counting (machine : Machine) (state : Phase × Numeral) : Machine :=
  { machine with mode := .number state.1 state.2 }

/-- A number that goes on with a text is read on over it. -/
theorem run_continueText {state next : Phase × Numeral} {text : List Char}
    (goesOn : continueText state text = some next) :
    text.foldlM (Machine.step limit) (machine.counting state) = .ok (machine.counting next) := by
  induction text generalizing state with
  | nil =>
    rw [continueText] at goesOn
    rw [Option.some.inj goesOn]
    rfl
  | cons c text ih =>
    rw [continueText] at goesOn
    cases read : continueNumber state.1 state.2 c with
    | none =>
      rw [read] at goesOn
      cases goesOn
    | some middle =>
      rw [read] at goesOn
      have step : (machine.counting state).step limit c = .ok (machine.counting middle) := by
        simp [Machine.counting, Machine.step, Machine.readNumber, read]
      rw [List.foldlM_cons, step]
      exact ih goesOn

/-- In front of a stop a number that may end there is a literal. -/
theorem scanFrom_counting {phase : Phase} {numeral : Numeral} (complete : phase.complete = true)
    {rest : List Char} (stopped : Stopped rest) :
    scanFrom limit (machine.counting (phase, numeral)) rest =
      scanFrom limit (machine.completeLiteral (.number numeral)) rest := by
  have signed : phase ≠ .sign := by
    rintro rfl
    cases complete
  have ends : (machine.counting (phase, numeral)).endNumber phase numeral =
      .ok (machine.completeLiteral (.number numeral)) := by
    unfold Machine.endNumber
    rw [if_neg signed, if_pos complete]
    exact congrArg Except.ok (Machine.complete_mode
      { machine with literals := machine.literals ++ [.number numeral] } (.number phase numeral) _)
  cases rest with
  | nil =>
    have due := Machine.complete_due
      { machine with literals := machine.literals ++ [.number numeral] } (.literal (.number numeral))
    exact Machine.finish_ended rfl ends (due.imp_right fun done => ⟨_, done⟩)
  | cons c rest =>
    have stops := continueNumber_stop (stopped c rfl) phase numeral
    have same : (machine.counting (phase, numeral)).step limit c =
        (machine.completeLiteral (.number numeral)).step limit c := by
      have follows : (machine.completeLiteral (.number numeral)).step limit c =
          (machine.completeLiteral (.number numeral)).follow c := Machine.step_complete _ _ _
      rw [follows]
      show (machine.counting (phase, numeral)).readNumber phase numeral c = _
      unfold Machine.readNumber
      rw [stops]
      dsimp only
      rw [if_neg fun both => signed both.1, ends]
    unfold scanFrom
    rw [List.foldlM_cons, List.foldlM_cons, same]

/-- A digit, or a minus, starts a number. -/
theorem start_digit (machine : Machine) {c : Char} {next : Phase × Numeral}
    (digit : continueNumber .sign ⟨false, [], none, none⟩ c = some next) :
    isWhite c = false ∧ c ≠ ']' ∧
      ∀ limit, machine.start limit c = .ok (machine.counting next) := by
  have own : c.isDigit = true := by
    by_contra other
    rw [Bool.not_eq_true] at other
    have zero : c ≠ '0' := by
      rintro rfl
      cases other
    simp [continueNumber, other, zero] at digit
  have range : 48 ≤ c.toNat ∧ c.toNat ≤ 57 := Char.isDigit_iff_toNat.mp own
  have apart : ∀ d : Char, d.isDigit = false → c ≠ d := by
    rintro d foreign rfl
    rw [own] at foreign
    cases foreign
  refine ⟨?_, apart _ (by decide), ?_⟩
  · unfold isWhite
    simp only [List.mem_cons, List.not_mem_nil, or_false, decide_eq_false_iff_not]
    omega
  · intro limit
    unfold Machine.start
    rw [if_neg (apart _ (by decide)), if_neg (apart _ (by decide)), if_neg (apart _ (by decide)),
      if_neg (apart _ (by decide)), if_neg (apart _ (by decide)), if_neg (apart _ (by decide)),
      if_neg (apart _ (by decide)), if_neg (apart _ (by decide)), if_neg (apart _ (by decide)),
      digit]
    rfl

/-- A reader in front of a literal comes out behind it. -/
theorem scanFrom_literal (ready : machine.Ready) {text rest : List Char} {literal : Literal}
    (spells : spelled text = some literal) (stopped : Stopped rest) :
    scanFrom limit machine (text ++ rest) =
      scanFrom limit (machine.completeLiteral literal) rest := by
  have ends : ∀ {state : Option (Phase × Numeral)}, ended state = some literal →
      ∃ phase numeral, state = some (phase, numeral) ∧ phase.complete = true ∧
        literal = .number numeral := by
    intro state whole
    cases state with
    | none => cases whole
    | some next =>
      unfold ended at whole
      dsimp only at whole
      by_cases complete : next.1.complete = true
      · rw [if_pos complete] at whole
        exact ⟨next.1, next.2, rfl, complete, (Option.some.inj whole).symm⟩
      · rw [if_neg complete] at whole
        cases whole
  unfold spelled at spells
  split at spells
  · rw [← Option.some.inj spells]
    exact scanFrom_append (run_letters ready .nan) rest
  · rw [← Option.some.inj spells]
    exact scanFrom_append (run_letters ready .infinity) rest
  · rw [← Option.some.inj spells]
    exact scanFrom_append (run_letters ready .minusInfinity) rest
  · rename_i digits _
    obtain ⟨phase, numeral, goesOn, complete, rfl⟩ := ends spells
    have signed : machine.step limit '-' =
        .ok (machine.counting (.sign, ⟨true, [], none, none⟩)) :=
      ready.step (by decide) (by decide)
    rw [List.cons_append, scanFrom_cons signed, scanFrom_append (run_continueText goesOn)]
    exact scanFrom_counting complete stopped
  · obtain ⟨phase, numeral, goesOn, complete, rfl⟩ := ends spells
    cases text with
    | nil =>
      rw [continueText] at goesOn
      obtain ⟨rfl, -⟩ := Prod.mk.inj (Option.some.inj goesOn)
      cases complete
    | cons c text =>
      rw [continueText] at goesOn
      cases first : continueNumber .sign ⟨false, [], none, none⟩ c with
      | none =>
        rw [first] at goesOn
        cases goesOn
      | some next =>
        rw [first] at goesOn
        obtain ⟨white, bracket, starts⟩ := start_digit machine first
        have step : machine.step limit c = .ok (machine.counting next) :=
          (ready.step white bracket).trans (starts limit)
        rw [List.cons_append, scanFrom_cons step, scanFrom_append (run_continueText goesOn)]
        exact scanFrom_counting complete stopped

/-! ## Integers -/

/-- The numeral of an integer. -/
def numeralOf (n : Int) : Numeral := ⟨decide (n < 0), Nat.toDigits 10 n.natAbs, none, none⟩

/-- Digits are more of a whole number. -/
theorem continueText_digits {digits : List Char} (all : ∀ c ∈ digits, c.isDigit = true)
    (numeral : Numeral) : continueText (.whole, numeral) digits =
      some (.whole, { numeral with whole := numeral.whole ++ digits }) := by
  induction digits generalizing numeral with
  | nil => rw [continueText, List.append_nil]
  | cons c rest ih =>
    have own : continueNumber .whole numeral c =
        some (.whole, { numeral with whole := numeral.whole ++ [c] }) := by
      simp [continueNumber, all c List.mem_cons_self]
    have later : ∀ d ∈ rest, d.isDigit = true := fun d member =>
      all d (List.mem_cons_of_mem _ member)
    rw [continueText, own]
    dsimp only
    rw [ih later, List.append_assoc]
    rfl

/-- A digit that is not zero is not written as zero. -/
theorem digitChar_ne_zero : ∀ n < 10, 0 < n → n.digitChar ≠ '0' := by
  decide

/-- The digits of a number that is not zero do not start with zero. -/
theorem toDigits_positive {n : Nat} (some : 0 < n) :
    ∃ c rest, Nat.toDigits 10 n = c :: rest ∧ c ≠ '0' := by
  induction n using Nat.strongRecOn with
  | ind n ih =>
    by_cases small : n < 10
    · exact ⟨n.digitChar, [], Nat.toDigits_of_lt_base small, digitChar_ne_zero n small some⟩
    · obtain ⟨c, rest, front, nonzero⟩ := ih (n / 10) (by omega) (by omega)
      refine ⟨c, rest ++ [(n % 10).digitChar], ?_, nonzero⟩
      rw [Nat.toDigits_of_base_le (by decide) (by omega), front, List.cons_append]

/-- Behind its sign an integer goes on over its digits. -/
theorem continueText_toDigits (n : Nat) (negative : Bool) :
    ended (continueText (.sign, ⟨negative, [], none, none⟩) (Nat.toDigits 10 n)) =
      some (.number ⟨negative, Nat.toDigits 10 n, none, none⟩) := by
  by_cases zero : n = 0
  · subst zero
    rw [Nat.toDigits_zero]
    rfl
  · obtain ⟨c, rest, digits, nonzero⟩ := toDigits_positive (Nat.pos_of_ne_zero zero)
    have all : ∀ d ∈ c :: rest, d.isDigit = true := by
      rw [← digits]
      exact fun d member => Nat.isDigit_of_mem_toDigits (by decide) (by decide) member
    have first : continueNumber .sign ⟨negative, [], none, none⟩ c =
        some (.whole, ⟨negative, [c], none, none⟩) := by
      simp [continueNumber, nonzero, all c List.mem_cons_self]
    rw [digits, continueText, first]
    dsimp only
    rw [continueText_digits fun d member => all d (List.mem_cons_of_mem _ member)]
    rfl

/-- A written integer spells its numeral. -/
theorem spelled_integer (n : Int) : spelled (integer n) = some (.number (numeralOf n)) := by
  have digit : ∀ c ∈ Nat.toDigits 10 n.natAbs, c.isDigit = true := fun c member =>
    Nat.isDigit_of_mem_toDigits (by decide) (by decide) member
  unfold integer numeralOf
  by_cases negative : n < 0
  · rw [if_pos negative, decide_eq_true negative]
    unfold spelled
    split
    · rename_i same
      cases same
    · rename_i same
      cases same
    · rename_i same
      rw [List.cons.injEq] at same
      have letter := digit 'I' (by rw [same.2]; exact List.mem_cons_self)
      cases letter
    · rename_i text _ same
      rw [← (List.cons.inj same).2]
      exact continueText_toDigits _ _
    · rename_i other
      exact absurd rfl (other _)
  · rw [if_neg negative, decide_eq_false negative]
    unfold spelled
    split
    · rename_i same
      have letter := digit 'N' (by rw [same]; exact List.mem_cons_self)
      cases letter
    · rename_i same
      have letter := digit 'I' (by rw [same]; exact List.mem_cons_self)
      cases letter
    · rename_i same
      have letter := digit '-' (by rw [same]; exact List.mem_cons_self)
      cases letter
    · rename_i text _ same
      have letter := digit '-' (by rw [same]; exact List.mem_cons_self)
      cases letter
    · exact continueText_toDigits _ _

/-- Digits are read as the number they write. -/
theorem decimal_toDigits (n : Nat) : decimal (Nat.toDigits 10 n) = n :=
  Nat.ofDigitChars_ten_toDigits

/-- The numeral of an integer has its value. -/
theorem toInt_numeralOf (n : Int) : (numeralOf n).toInt = n := by
  unfold Numeral.toInt numeralOf
  rw [decimal_toDigits]
  by_cases negative : n < 0
  · rw [if_pos (decide_eq_true negative)]
    omega
  · rw [if_neg (by simpa using negative)]
    omega

end Numbers

/-! ## Values -/

/-- The literal a float is written as. -/
def FloatText.literal (x : FloatText) : Literal := (spelled x.text.toList).getD (.constant .nan)

mutual

/-- What is read of a written value. -/
def treeOf : Value → Tree
  | .null => .null
  | .bool flag => .bool flag
  | .int n => .literal (.number (numeralOf n))
  | .float x => .literal x.literal
  | .str text => .str text
  | .arr items => .arr (itemTrees items)
  | .obj members => .obj (memberTrees members)

/-- What is read of items. -/
def itemTrees : List Value → List Tree
  | [] => []
  | item :: items => treeOf item :: itemTrees items

/-- What is read of members. -/
def memberTrees : List (String × Value) → List (List Nat × Tree)
  | [] => []
  | member :: members => (pointsOf member.1, treeOf member.2) :: memberTrees members

end

mutual

/-- The literals of a value, in the order they are written. -/
def literalsOf : Value → List Literal
  | .int n => [.number (numeralOf n)]
  | .float x => [x.literal]
  | .arr items => literalsOfItems items
  | .obj members => literalsOfMembers members
  | .null => []
  | .bool _ => []
  | .str _ => []

/-- The literals of items. -/
def literalsOfItems : List Value → List Literal
  | [] => []
  | item :: items => literalsOf item ++ literalsOfItems items

/-- The literals of members. -/
def literalsOfMembers : List (String × Value) → List Literal
  | [] => []
  | member :: members => literalsOf member.2 ++ literalsOfMembers members

end

mutual

/-- How many containers of a value are open at once. -/
def depth : Value → Nat
  | .arr items => itemDepth items + 1
  | .obj members => memberDepth members + 1
  | .null => 0
  | .bool _ => 0
  | .int _ => 0
  | .float _ => 0
  | .str _ => 0

/-- How many containers of items are open at once. -/
def itemDepth : List Value → Nat
  | [] => 0
  | item :: items => max (depth item) (itemDepth items)

/-- How many containers of members are open at once. -/
def memberDepth : List (String × Value) → Nat
  | [] => 0
  | member :: members => max (depth member.2) (memberDepth members)

end

mutual

/-- A property of a value and of every value within it. -/
def Each (P : Value → Prop) : Value → Prop
  | .arr items => P (.arr items) ∧ EachItem P items
  | .obj members => P (.obj members) ∧ EachMember P members
  | .null => P .null
  | .bool flag => P (.bool flag)
  | .int n => P (.int n)
  | .float x => P (.float x)
  | .str text => P (.str text)

/-- A property of items and of every value within them. -/
def EachItem (P : Value → Prop) : List Value → Prop
  | [] => True
  | item :: items => Each P item ∧ EachItem P items

/-- A property of the values of members and of every value within them. -/
def EachMember (P : Value → Prop) : List (String × Value) → Prop
  | [] => True
  | member :: members => Each P member.2 ∧ EachMember P members

end

/-- The text of a float spells a literal, and an object holds no key twice. -/
def Spelled : Value → Prop
  | .float x => (spelled x.text.toList).isSome = true
  | .obj members => (members.map Prod.fst).Nodup
  | _ => True

/-- A member with a new key comes last. -/
theorem setMember_fresh {members : List (List Nat × Tree)} {key : List Nat}
    (fresh : key ∉ members.map Prod.fst) (tree : Tree) :
    setMember members key tree = members ++ [(key, tree)] :=
  if_neg fresh

/-- In front of the items after the first one a number ends. -/
theorem stopped_items (items : List Value) (rest : List Char) :
    Stopped (renderItems items ++ rest) := by
  intro c first
  cases items with
  | nil =>
    rw [← Option.some.inj first]
    decide
  | cons item items =>
    rw [← Option.some.inj first]
    decide

/-- In front of the members after the first one a number ends. -/
theorem stopped_members (members : List (String × Value)) (rest : List Char) :
    Stopped (renderMembers members ++ rest) := by
  intro c first
  cases members with
  | nil =>
    rw [← Option.some.inj first]
    decide
  | cons member members =>
    rw [← Option.some.inj first]
    decide

section Values

variable {limit : Nat}

/-- A reader in front of a key comes out in front of its value. -/
theorem scanFrom_key {stack : List Frame} {read : List (List Nat × Tree)} {last : List Nat}
    {literals : List Literal} {mode : Mode} (due : mode = .member ∨ mode = .key) (key : String)
    (rest : List Char) :
    scanFrom limit ⟨.object read last :: stack, mode, literals⟩ (quote key ++ ':' :: rest) =
      scanFrom limit ⟨.object read (pointsOf key) :: stack, .value, literals⟩ rest := by
  have opened : (⟨.object read last :: stack, mode, literals⟩ : Machine).step limit '"' =
      .ok ((⟨.object read last :: stack, mode, literals⟩ : Machine).within true []) := by
    rcases due with rfl | rfl <;> rfl
  have named : (((⟨.object read last :: stack, mode, literals⟩ : Machine).within true
      []).completeString true ([] ++ key.toList.flatMap unitsOf)) =
        ⟨.object read (pointsOf key) :: stack, .colon, literals⟩ := by
    unfold Machine.completeString
    rw [List.nil_append, codePoints_flatMap]
    rfl
  have colon : (⟨.object read (pointsOf key) :: stack, .colon, literals⟩ : Machine).step limit ':' =
      .ok ⟨.object read (pointsOf key) :: stack, .value, literals⟩ := rfl
  rw [quote, List.cons_append, scanFrom_cons opened, scanFrom_append (run_quoteTail key.toList),
    named, scanFrom_cons colon]

/-- A reader in front of a text comes out behind it. -/
theorem scanFrom_quote {machine : Machine} (ready : machine.Ready) (text : String)
    (rest : List Char) :
    scanFrom limit machine (quote text ++ rest) =
      scanFrom limit (machine.complete (.str text)) rest := by
  have opened : machine.step limit '"' = .ok (machine.within false []) :=
    ready.step (by decide) (by decide)
  have closed : (machine.within false []).completeString false ([] ++ text.toList.flatMap unitsOf) =
      machine.complete (.str text) := by
    unfold Machine.completeString
    rw [List.nil_append, codePoints_flatMap]
    dsimp only
    rw [textOf_pointsOf]
    exact Machine.complete_mode machine _ _
  rw [quote, List.cons_append, scanFrom_cons opened, scanFrom_append (run_quoteTail text.toList),
    closed]

mutual

/-- A reader in front of a written value comes out behind it, with the value complete and its
literals met. -/
theorem scanFrom_render (value : Value) {stack : List Frame} {mode : Mode}
    (due : mode = .value ∨ mode = .item) (literals : List Literal) (legible : Each Spelled value)
    (room : stack.length + depth value ≤ limit) {rest : List Char} (stopped : Stopped rest) :
    scanFrom limit ⟨stack, mode, literals⟩ (render value ++ rest) =
      scanFrom limit (Machine.complete ⟨stack, .after, literals ++ literalsOf value⟩ (treeOf value))
        rest := by
  have ready : (⟨stack, mode, literals⟩ : Machine).Ready := due
  have forgets : ∀ found tree, (⟨stack, mode, found⟩ : Machine).complete tree =
      Machine.complete ⟨stack, .after, found⟩ tree := fun found tree =>
    (Machine.complete_mode ⟨stack, mode, found⟩ .after tree).symm
  cases value with
  | null =>
    rw [literalsOf, List.append_nil, ← forgets]
    exact scanFrom_append (run_letters ready .null) rest
  | bool flag =>
    rw [literalsOf, List.append_nil, ← forgets]
    cases flag with
    | true => exact scanFrom_append (run_letters ready .true) rest
    | false => exact scanFrom_append (run_letters ready .false) rest
  | int n =>
    rw [literalsOf, ← forgets]
    exact scanFrom_literal ready (spelled_integer n) stopped
  | float x =>
    obtain ⟨literal, spells⟩ := Option.isSome_iff_exists.mp legible
    have own : x.literal = literal := by rw [FloatText.literal, spells, Option.getD_some]
    rw [literalsOf, treeOf, ← forgets, own]
    exact scanFrom_literal ready spells stopped
  | str text =>
    rw [literalsOf, List.append_nil, ← forgets]
    exact scanFrom_quote ready text rest
  | arr items =>
    have space : ¬ limit ≤ stack.length := by
      rw [depth] at room
      omega
    have opened : (⟨stack, mode, literals⟩ : Machine).step limit '[' =
        .ok ⟨.array [] :: stack, .item, literals⟩ := by
      rw [ready.step (by decide) (by decide)]
      exact if_neg space
    cases items with
    | nil =>
      rw [render, List.cons_append, scanFrom_cons opened, literalsOf, literalsOfItems,
        List.append_nil, treeOf, itemTrees]
      exact scanFrom_cons rfl rest
    | cons item items =>
      rw [depth, itemDepth] at room
      have inside : (Frame.array [] :: stack).length + depth item ≤ limit := by
        rw [List.length_cons]
        omega
      have first := scanFrom_render item (.inr rfl) literals legible.2.1 inside
        (stopped_items items rest)
      have later := scanFrom_items items [treeOf item] stack (literals ++ literalsOf item)
        legible.2.2 (by omega) rest
      rw [render, List.cons_append, scanFrom_cons opened, List.append_assoc, first, literalsOf,
        literalsOfItems, treeOf, itemTrees, ← List.append_assoc]
      exact later
  | obj members =>
    have space : ¬ limit ≤ stack.length := by
      rw [depth] at room
      omega
    have opened : (⟨stack, mode, literals⟩ : Machine).step limit '{' =
        .ok ⟨.object [] [] :: stack, .member, literals⟩ := by
      rw [ready.step (by decide) (by decide)]
      exact if_neg space
    cases members with
    | nil =>
      rw [render, List.cons_append, scanFrom_cons opened, literalsOf, literalsOfMembers,
        List.append_nil, treeOf, memberTrees]
      exact scanFrom_cons rfl rest
    | cons member members =>
      rw [depth, memberDepth] at room
      obtain ⟨distinct, own, others⟩ := legible
      rw [Spelled, List.map_cons, List.nodup_cons] at distinct
      have inside : (Frame.object [] (pointsOf member.1) :: stack).length + depth member.2 ≤ limit := by
        rw [List.length_cons]
        omega
      have first := scanFrom_render member.2 (.inl rfl) literals own inside
        (stopped_members members rest)
      have fresh : ∀ other ∈ members, pointsOf other.1 ∉ ([(pointsOf member.1,
          treeOf member.2)] : List (List Nat × Tree)).map Prod.fst := by
        intro other among same
        rw [List.map_singleton, List.mem_singleton] at same
        exact distinct.1 (pointsOf_injective same ▸ List.mem_map_of_mem among)
      have later := scanFrom_members members [(pointsOf member.1, treeOf member.2)]
        (pointsOf member.1) stack
        (literals ++ literalsOf member.2) others distinct.2 fresh (by omega) rest
      rw [render, List.cons_append, scanFrom_cons opened, List.append_assoc, List.cons_append,
        List.append_assoc, scanFrom_key (.inl rfl), first, literalsOf, literalsOfMembers, treeOf,
        memberTrees, ← List.append_assoc]
      exact later

/-- A reader in front of more items comes out behind the array. -/
theorem scanFrom_items (items : List Value) (read : List Tree) (stack : List Frame)
    (literals : List Literal) (legible : EachItem Spelled items)
    (room : stack.length + 1 + itemDepth items ≤ limit) (rest : List Char) :
    scanFrom limit ⟨.array read :: stack, .after, literals⟩ (renderItems items ++ rest) =
      scanFrom limit (Machine.complete ⟨stack, .after, literals ++ literalsOfItems items⟩
        (.arr (read ++ itemTrees items))) rest := by
  cases items with
  | nil =>
    rw [literalsOfItems, itemTrees, List.append_nil, List.append_nil]
    exact scanFrom_cons rfl rest
  | cons item items =>
    rw [itemDepth] at room
    have comma : (⟨.array read :: stack, .after, literals⟩ : Machine).step limit ',' =
        .ok ⟨.array read :: stack, .value, literals⟩ := rfl
    have inside : (Frame.array read :: stack).length + depth item ≤ limit := by
      rw [List.length_cons]
      omega
    have first := scanFrom_render item (.inl rfl) literals legible.1 inside
      (stopped_items items rest)
    have later := scanFrom_items items (read ++ [treeOf item]) stack (literals ++ literalsOf item)
      legible.2 (by omega) rest
    rw [renderItems, List.cons_append, scanFrom_cons comma, List.append_assoc, first,
      literalsOfItems, itemTrees, ← List.append_assoc, List.append_cons]
    exact later

/-- A reader in front of more members comes out behind the object. -/
theorem scanFrom_members (members : List (String × Value)) (read : List (List Nat × Tree))
    (last : List Nat) (stack : List Frame) (literals : List Literal)
    (legible : EachMember Spelled members) (distinct : (members.map Prod.fst).Nodup)
    (fresh : ∀ member ∈ members, pointsOf member.1 ∉ read.map Prod.fst)
    (room : stack.length + 1 + memberDepth members ≤ limit) (rest : List Char) :
    scanFrom limit ⟨.object read last :: stack, .after, literals⟩ (renderMembers members ++ rest) =
      scanFrom limit (Machine.complete ⟨stack, .after, literals ++ literalsOfMembers members⟩
        (.obj (read ++ memberTrees members))) rest := by
  cases members with
  | nil =>
    rw [literalsOfMembers, memberTrees, List.append_nil, List.append_nil]
    exact scanFrom_cons rfl rest
  | cons member members =>
    rw [memberDepth] at room
    rw [List.map_cons, List.nodup_cons] at distinct
    have new := fresh member List.mem_cons_self
    have comma : (⟨.object read last :: stack, .after, literals⟩ : Machine).step limit ',' =
        .ok ⟨.object read last :: stack, .key, literals⟩ := rfl
    have inside : (Frame.object read (pointsOf member.1) :: stack).length + depth member.2 ≤ limit := by
      rw [List.length_cons]
      omega
    have first := scanFrom_render member.2 (.inl rfl) literals legible.1 inside
      (stopped_members members rest)
    have still : ∀ other ∈ members,
        pointsOf other.1 ∉ (read ++ [(pointsOf member.1, treeOf member.2)]).map Prod.fst := by
      intro other among same
      rw [List.map_append, List.mem_append, List.map_singleton, List.mem_singleton] at same
      rcases same with there | same
      · exact fresh other (List.mem_cons_of_mem _ among) there
      · exact distinct.1 (pointsOf_injective same ▸ List.mem_map_of_mem among)
    have later := scanFrom_members members (read ++ [(pointsOf member.1, treeOf member.2)])
      (pointsOf member.1) stack (literals ++ literalsOf member.2) legible.2 distinct.2 still (by omega) rest
    rw [renderMembers, List.cons_append, scanFrom_cons comma, List.append_assoc, List.cons_append,
      List.append_assoc, scanFrom_key (.inr rfl), first, literalsOfMembers, memberTrees,
      ← List.append_assoc, List.append_cons]
    show scanFrom limit ⟨.object (setMember read (pointsOf member.1) (treeOf member.2))
      (pointsOf member.1) :: stack, .after, literals ++ literalsOf member.2⟩ (renderMembers members ++ rest) = _
    rw [setMember_fresh new]
    exact later

end

/-- Behind a value that no container holds white space is read over. -/
theorem foldlM_blank {tree : Tree} {literals : List Literal} {blank : List Char}
    (white : ∀ c ∈ blank, isWhite c = true) :
    blank.foldlM (Machine.step limit) ⟨[], .done tree, literals⟩ =
      .ok ⟨[], .done tree, literals⟩ := by
  induction blank with
  | nil => rfl
  | cons c blank ih =>
    have stays : Machine.step limit ⟨[], .done tree, literals⟩ c =
        .ok ⟨[], .done tree, literals⟩ := if_pos (white c List.mem_cons_self)
    rw [List.foldlM_cons, stays]
    exact ih fun other member => white other (List.mem_cons_of_mem _ member)

/-- The text of a value, with white space behind it, holds that value and nothing else. -/
theorem scan_render {value : Value} (legible : Each Spelled value) (room : depth value ≤ limit)
    {blank : List Char} (white : ∀ c ∈ blank, isWhite c = true) :
    scan limit (render value ++ blank) = ⟨literalsOf value, .ok (treeOf value)⟩ := by
  have inside : ([] : List Frame).length + depth value ≤ limit := by
    rw [List.length_nil]
    omega
  have ended : Stopped blank := by
    intro c first
    unfold isStop
    rw [white c (List.mem_of_mem_head? first)]
    rfl
  have read : scan limit (render value ++ blank) =
      scanFrom limit ⟨[], .done (treeOf value), literalsOf value⟩ blank :=
    scanFrom_render value (.inl rfl) [] legible inside ended
  rw [read]
  unfold scanFrom
  rw [foldlM_blank white]
  rfl

end Values

/-! ## Properties of values -/

/-- Members have a property as the value of each of them has. -/
theorem eachMember_iff {P : Value → Prop} {members : List (String × Value)} :
    EachMember P members ↔ ∀ member ∈ members, Each P member.2 := by
  induction members with
  | nil => exact ⟨fun _ _ member => (List.not_mem_nil member).elim, fun _ => trivial⟩
  | cons member members ih => rw [EachMember, ih, List.forall_mem_cons]

/-- The literals of a member are among those of the members. -/
theorem mem_literalsOfMembers {members : List (String × Value)} {member : String × Value}
    (inside : member ∈ members) {literal : Literal} (own : literal ∈ literalsOf member.2) :
    literal ∈ literalsOfMembers members := by
  induction members with
  | nil => cases inside
  | cons first members ih =>
    rw [literalsOfMembers, List.mem_append]
    rcases List.mem_cons.mp inside with rfl | later
    · exact .inl own
    · exact .inr (ih later)

variable {P Q : Value → Prop}

mutual

/-- A property that implies another does so within a value. -/
theorem Each.imp (implies : ∀ value, P value → Q value) (value : Value) (each : Each P value) :
    Each Q value := by
  cases value with
  | arr items => exact ⟨implies _ each.1, EachItem.imp implies items each.2⟩
  | obj members => exact ⟨implies _ each.1, EachMember.imp implies members each.2⟩
  | null => exact implies _ each
  | bool flag => exact implies _ each
  | int n => exact implies _ each
  | float x => exact implies _ each
  | str text => exact implies _ each

/-- A property that implies another does so within items. -/
theorem EachItem.imp (implies : ∀ value, P value → Q value) (items : List Value)
    (each : EachItem P items) : EachItem Q items := by
  cases items with
  | nil => trivial
  | cons item items => exact ⟨Each.imp implies item each.1, EachItem.imp implies items each.2⟩

/-- A property that implies another does so within members. -/
theorem EachMember.imp (implies : ∀ value, P value → Q value) (members : List (String × Value))
    (each : EachMember P members) : EachMember Q members := by
  cases members with
  | nil => trivial
  | cons member members =>
    exact ⟨Each.imp implies member.2 each.1, EachMember.imp implies members each.2⟩

end

mutual

/-- A property that sorting keeps is kept within a value. -/
theorem Each.canonical (keeps : ∀ value, P value → Q (canonical value)) (value : Value)
    (each : Each P value) : Each Q (canonical value) := by
  cases value with
  | arr items =>
    rw [Json.canonical]
    have own := keeps _ each.1
    rw [Json.canonical] at own
    exact ⟨own, EachItem.canonical keeps items each.2⟩
  | obj members =>
    have own := keeps _ each.1
    rw [Json.canonical] at own ⊢
    refine ⟨own, eachMember_iff.mpr fun member among => ?_⟩
    exact eachMember_iff.mp (EachMember.canonical keeps members each.2) member
      ((List.perm_insertionSort _ _).mem_iff.mp among)
  | null => exact keeps _ each
  | bool flag => exact keeps _ each
  | int n => exact keeps _ each
  | float x => exact keeps _ each
  | str text => exact keeps _ each

/-- A property that sorting keeps is kept within items. -/
theorem EachItem.canonical (keeps : ∀ value, P value → Q (canonical value)) (items : List Value)
    (each : EachItem P items) : EachItem Q (canonicalItems items) := by
  cases items with
  | nil => trivial
  | cons item items =>
    exact ⟨Each.canonical keeps item each.1, EachItem.canonical keeps items each.2⟩

/-- A property that sorting keeps is kept within members. -/
theorem EachMember.canonical (keeps : ∀ value, P value → Q (canonical value))
    (members : List (String × Value)) (each : EachMember P members) :
    EachMember Q (canonicalMembers members) := by
  cases members with
  | nil => trivial
  | cons member members =>
    exact ⟨Each.canonical keeps member.2 each.1, EachMember.canonical keeps members each.2⟩

end

/-! ## Sorted values -/

/-- Members nest as deep as the deepest of them. -/
theorem memberDepth_le_iff {members : List (String × Value)} {limit : Nat} :
    memberDepth members ≤ limit ↔ ∀ member ∈ members, depth member.2 ≤ limit := by
  induction members with
  | nil => exact ⟨fun _ _ member => (List.not_mem_nil member).elim, fun _ => Nat.zero_le _⟩
  | cons member members ih => rw [memberDepth, Nat.max_le, ih, List.forall_mem_cons]

mutual

/-- Sorting nests nothing deeper. -/
theorem depth_canonical (value : Value) : depth (canonical value) ≤ depth value := by
  cases value with
  | arr items =>
    rw [canonical, depth, depth]
    exact Nat.succ_le_succ (itemDepth_canonical items)
  | obj members =>
    rw [canonical, depth, depth]
    refine Nat.succ_le_succ (memberDepth_le_iff.mpr fun member among => ?_)
    exact memberDepth_le_iff.mp (memberDepth_canonical members) member
      ((List.perm_insertionSort _ _).mem_iff.mp among)
  | null => exact Nat.le_refl 0
  | bool flag => exact Nat.le_refl 0
  | int n => exact Nat.le_refl 0
  | float x => exact Nat.le_refl 0
  | str text => exact Nat.le_refl 0

/-- Sorting nests no items deeper. -/
theorem itemDepth_canonical (items : List Value) :
    itemDepth (canonicalItems items) ≤ itemDepth items := by
  cases items with
  | nil => exact Nat.le_refl 0
  | cons item items =>
    have first := depth_canonical item
    have later := itemDepth_canonical items
    rw [canonicalItems, itemDepth, itemDepth]
    exact max_le_max first later

/-- Sorting nests no members deeper. -/
theorem memberDepth_canonical (members : List (String × Value)) :
    memberDepth (canonicalMembers members) ≤ memberDepth members := by
  cases members with
  | nil => exact Nat.le_refl 0
  | cons member members =>
    have first := depth_canonical member.2
    have later := memberDepth_canonical members
    rw [canonicalMembers, memberDepth, memberDepth]
    exact max_le_max first later

end

/-- The keys of an object stay distinct when it is sorted. -/
theorem nodup_canonical {members : List (String × Value)}
    (distinct : (members.map Prod.fst).Nodup) :
    (((canonicalMembers members).insertionSort fun a b => a.1 ≤ b.1).map Prod.fst).Nodup := by
  have keys : (canonicalMembers members).map Prod.fst = members.map Prod.fst := by
    rw [canonicalMembers_eq_map, List.map_map]
    rfl
  have sorted := (List.perm_insertionSort (fun a b : String × Value => a.1 ≤ b.1)
    (canonicalMembers members)).map Prod.fst
  rw [sorted.nodup_iff, keys]
  exact distinct

/-! ## The characters of a text -/

/-- Printable ASCII. -/
def isPrintable (c : Char) : Bool := decide (32 ≤ c.toNat) && decide (c.toNat ≤ 126)

/-- A hexadecimal digit is printable. -/
theorem isPrintable_hexDigit {n : Nat} (bound : n < 16) : isPrintable (hexDigit n) = true := by
  revert n
  decide

/-- A written code unit is printable. -/
theorem isPrintable_unit (n : Nat) : ∀ c ∈ unit n, isPrintable c = true := by
  have digit : ∀ m, isPrintable (hexDigit (m % 16)) = true := fun m =>
    isPrintable_hexDigit (Nat.mod_lt m (by decide))
  intro c member
  simp only [unit, List.mem_cons, List.not_mem_nil, or_false] at member
  rcases member with rfl | rfl | rfl | rfl | rfl | rfl
  · rfl
  · rfl
  · exact digit _
  · exact digit _
  · exact digit _
  · exact digit _

/-- A written character is printable. -/
theorem isPrintable_escape (c : Char) : ∀ d ∈ escape c, isPrintable d = true := by
  intro d member
  unfold escape at member
  split_ifs at member with quoted slash newline carriage tab feed back printable basic
  · exact List.all_eq_true.mp (show ['\\', '"'].all isPrintable = true by decide) d member
  · exact List.all_eq_true.mp (show ['\\', '\\'].all isPrintable = true by decide) d member
  · exact List.all_eq_true.mp (show ['\\', 'n'].all isPrintable = true by decide) d member
  · exact List.all_eq_true.mp (show ['\\', 'r'].all isPrintable = true by decide) d member
  · exact List.all_eq_true.mp (show ['\\', 't'].all isPrintable = true by decide) d member
  · exact List.all_eq_true.mp (show ['\\', 'f'].all isPrintable = true by decide) d member
  · exact List.all_eq_true.mp (show ['\\', 'b'].all isPrintable = true by decide) d member
  · obtain rfl := List.mem_singleton.mp member
    unfold isPrintable
    rw [decide_eq_true printable.1, decide_eq_true printable.2]
    rfl
  · exact isPrintable_unit _ d member
  · rcases List.mem_append.mp member with high | low
    · exact isPrintable_unit _ d high
    · exact isPrintable_unit _ d low

/-- A written string is printable. -/
theorem isPrintable_quote (text : String) : ∀ c ∈ quote text, isPrintable c = true := by
  have tail : ∀ letters : List Char, ∀ c ∈ quoteTail letters, isPrintable c = true := by
    intro letters
    induction letters with
    | nil =>
      intro c member
      obtain rfl := List.mem_singleton.mp member
      rfl
    | cons letter letters ih =>
      intro c member
      rcases List.mem_append.mp member with first | later
      · exact isPrintable_escape letter c first
      · exact ih c later
  intro c member
  rcases List.mem_cons.mp member with rfl | inside
  · rfl
  · exact tail text.toList c inside

/-- A character of a number is printable. -/
theorem isPrintable_number {c : Char} (number : isNumberChar c = true) : isPrintable c = true := by
  unfold isNumberChar at number
  rcases Bool.or_eq_true_iff.mp number with digit | mark
  · have range : 48 ≤ c.toNat ∧ c.toNat ≤ 57 := Char.isDigit_iff_toNat.mp digit
    unfold isPrintable
    rw [decide_eq_true (by omega), decide_eq_true (by omega)]
    rfl
  · exact List.all_eq_true.mp (show ['-', '+', '.', 'e', 'n', 'a', 'N', 'I', 'f', 'i', 't',
      'y'].all isPrintable = true by decide) c (of_decide_eq_true mark)

mutual

/-- A written value is printable. -/
theorem isPrintable_render (value : Value) : ∀ c ∈ render value, isPrintable c = true := by
  cases value with
  | null => exact List.all_eq_true.mp (by decide)
  | bool flag => cases flag <;> exact List.all_eq_true.mp (by decide)
  | int n =>
    exact fun c member => isPrintable_number (isNumberChar_of_integer (integer_chars n c member))
  | float x => exact fun c member => isPrintable_number (x.number c member)
  | str text => exact isPrintable_quote text
  | arr items =>
    cases items with
    | nil => exact List.all_eq_true.mp (by decide)
    | cons item items =>
      intro c member
      rcases List.mem_cons.mp member with rfl | inside
      · rfl
      · rcases List.mem_append.mp inside with first | later
        · exact isPrintable_render item c first
        · exact isPrintable_items items c later
  | obj members =>
    cases members with
    | nil => exact List.all_eq_true.mp (by decide)
    | cons member members =>
      intro c inside
      rcases List.mem_cons.mp inside with rfl | inside
      · rfl
      · rcases List.mem_append.mp inside with key | inside
        · exact isPrintable_quote member.1 c key
        · rcases List.mem_cons.mp inside with rfl | inside
          · rfl
          · rcases List.mem_append.mp inside with first | later
            · exact isPrintable_render member.2 c first
            · exact isPrintable_members members c later

/-- Written items are printable. -/
theorem isPrintable_items (items : List Value) : ∀ c ∈ renderItems items, isPrintable c = true := by
  cases items with
  | nil => exact List.all_eq_true.mp (by decide)
  | cons item items =>
    intro c member
    rcases List.mem_cons.mp member with rfl | inside
    · rfl
    · rcases List.mem_append.mp inside with first | later
      · exact isPrintable_render item c first
      · exact isPrintable_items items c later

/-- Written members are printable. -/
theorem isPrintable_members (members : List (String × Value)) :
    ∀ c ∈ renderMembers members, isPrintable c = true := by
  cases members with
  | nil => exact List.all_eq_true.mp (by decide)
  | cons member members =>
    intro c inside
    rcases List.mem_cons.mp inside with rfl | inside
    · rfl
    · rcases List.mem_append.mp inside with key | inside
      · exact isPrintable_quote member.1 c key
      · rcases List.mem_cons.mp inside with rfl | inside
        · rfl
        · rcases List.mem_append.mp inside with first | later
          · exact isPrintable_render member.2 c first
          · exact isPrintable_members members c later

end

end Json
