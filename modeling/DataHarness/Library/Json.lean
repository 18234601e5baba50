import Mathlib.Data.List.Sort
import Mathlib.Data.List.Perm.Basic
import Mathlib.Data.String.Basic

/-!
# Canonical JSON text

Compact JSON with sorted keys and escaped non-ASCII characters, the form digests are taken
over. A value is put in canonical form by sorting the members of every object, and written by
`render`. The result proved here is that the text determines the canonical value
(`dumps_injective`): no two values that differ after sorting have one encoding. The proof
reads the text from the front, one token at a time, and never needs a whole parser.
-/

namespace Json

/-- A character that may occur in a written number, the names of the exceptional floats
included. -/
def isNumberChar (c : Char) : Bool :=
  c.isDigit || c ∈ ['-', '+', '.', 'e', 'n', 'a', 'N', 'I', 'f', 'i', 't', 'y']

/-- A character that may occur in a written integer. -/
def isIntegerChar (c : Char) : Bool := c.isDigit || c == '-'

/-- A character that may start a written float. -/
def isFloatHead (c : Char) : Bool := c.isDigit || c ∈ ['-', 'N', 'I']

/-- The text of a float: never the text of an integer, and never empty. -/
structure FloatText where
  /-- The shortest text that reads back as the float, or the name of an exceptional value. -/
  text : String
  /-- Only number characters occur. -/
  number : ∀ c ∈ text.toList, isNumberChar c = true
  /-- Some character marks the text as a float. -/
  marked : ∃ c ∈ text.toList, isIntegerChar c = false
  /-- The first character starts no other kind of value. -/
  head : ∀ c ∈ text.toList.head?, isFloatHead c = true

/-- A JSON value. Objects keep the order of their members, and floats are known by the text
they are written as. -/
inductive Value
  | null
  | bool (flag : Bool)
  | int (number : Int)
  | float (number : FloatText)
  | str (text : String)
  | arr (items : List Value)
  | obj (members : List (String × Value))

/-! ## Written form -/

/-- One lower-case hexadecimal digit. -/
def hexDigit (n : Nat) : Char :=
  if n < 10 then Char.ofNat (48 + n) else Char.ofNat (87 + n)

/-- The four-digit escape of one UTF-16 code unit. -/
def unit (n : Nat) : List Char :=
  ['\\', 'u', hexDigit (n / 4096 % 16), hexDigit (n / 256 % 16), hexDigit (n / 16 % 16),
    hexDigit (n % 16)]

/-- A character inside a string: printable ASCII as itself, the short escapes, and code
units for everything else, in pairs above the basic plane. -/
def escape (c : Char) : List Char :=
  if c = '"' then ['\\', '"']
  else if c = '\\' then ['\\', '\\']
  else if c = '\n' then ['\\', 'n']
  else if c = '\r' then ['\\', 'r']
  else if c = '\t' then ['\\', 't']
  else if c = '\x0c' then ['\\', 'f']
  else if c = '\x08' then ['\\', 'b']
  else if 32 ≤ c.toNat ∧ c.toNat ≤ 126 then [c]
  else if c.toNat < 65536 then unit c.toNat
  else unit (55296 + (c.toNat - 65536) / 1024) ++ unit (56320 + (c.toNat - 65536) % 1024)

/-- The characters of a string and its closing quote. -/
def quoteTail : List Char → List Char
  | [] => ['"']
  | c :: cs => escape c ++ quoteTail cs

/-- A quoted string. -/
def quote (s : String) : List Char := '"' :: quoteTail s.toList

/-- The decimal text of an integer. -/
def integer (n : Int) : List Char :=
  if n < 0 then '-' :: Nat.toDigits 10 n.natAbs else Nat.toDigits 10 n.natAbs

mutual

/-- Compact text of a value, its objects in the order they stand. -/
def render : Value → List Char
  | .null => ['n', 'u', 'l', 'l']
  | .bool true => ['t', 'r', 'u', 'e']
  | .bool false => ['f', 'a', 'l', 's', 'e']
  | .int n => integer n
  | .float x => x.text.toList
  | .str s => quote s
  | .arr [] => ['[', ']']
  | .arr (item :: items) => '[' :: (render item ++ renderItems items)
  | .obj [] => ['{', '}']
  | .obj (member :: members) =>
    '{' :: (quote member.1 ++ ':' :: (render member.2 ++ renderMembers members))

/-- The items after the first one, and the closing bracket. -/
def renderItems : List Value → List Char
  | [] => [']']
  | item :: items => ',' :: (render item ++ renderItems items)

/-- The members after the first one, and the closing brace. -/
def renderMembers : List (String × Value) → List Char
  | [] => ['}']
  | member :: members =>
    ',' :: (quote member.1 ++ ':' :: (render member.2 ++ renderMembers members))

end

mutual

/-- Sort the members of every object by key, at every depth. -/
def canonical : Value → Value
  | .arr items => .arr (canonicalItems items)
  | .obj members => .obj ((canonicalMembers members).insertionSort fun a b => a.1 ≤ b.1)
  | .null => .null
  | .bool flag => .bool flag
  | .int n => .int n
  | .float x => .float x
  | .str s => .str s

/-- Canonical items. -/
def canonicalItems : List Value → List Value
  | [] => []
  | item :: items => canonical item :: canonicalItems items

/-- Canonical member values, keys and order kept. -/
def canonicalMembers : List (String × Value) → List (String × Value)
  | [] => []
  | member :: members => (member.1, canonical member.2) :: canonicalMembers members

end

/-- `json.dumps(value, sort_keys=True, separators=(",", ":"))`. -/
def dumps (value : Value) : String := String.ofList (render (canonical value))

/-! ## Reading one token back -/

/-- The value of a hexadecimal digit. -/
def hexValue (c : Char) : Nat := if c.toNat < 58 then c.toNat - 48 else c.toNat - 87

/-- A written hexadecimal digit reads as its value. -/
theorem hexValue_hexDigit (n : Nat) (bound : n < 16) : hexValue (hexDigit n) = n := by
  revert n
  decide

/-- The code unit four hexadecimal digits name. -/
def unitValue (a b c d : Char) : Nat :=
  4096 * hexValue a + 256 * hexValue b + 16 * hexValue c + hexValue d

/-- Four written digits read as the code unit they were written from. -/
theorem unitValue_unit (n : Nat) (bound : n < 65536) :
    unitValue (hexDigit (n / 4096 % 16)) (hexDigit (n / 256 % 16)) (hexDigit (n / 16 % 16))
      (hexDigit (n % 16)) = n := by
  simp only [unitValue]
  rw [hexValue_hexDigit _ (Nat.mod_lt _ (by decide)), hexValue_hexDigit _ (Nat.mod_lt _ (by decide)),
    hexValue_hexDigit _ (Nat.mod_lt _ (by decide)), hexValue_hexDigit _ (Nat.mod_lt _ (by decide))]
  omega

/-- Read the character a code unit starts, taking the second unit of a pair. -/
def unescapeUnit (n : Nat) (rest : List Char) : Option (Char × List Char) :=
  if 55296 ≤ n ∧ n < 56320 then
    match rest with
    | '\\' :: 'u' :: a :: b :: c :: d :: rest =>
      some (Char.ofNat (65536 + (n - 55296) * 1024 + (unitValue a b c d - 56320)), rest)
    | _ => none
  else some (Char.ofNat n, rest)

/-- Read one character of a string body. -/
def unescape : List Char → Option (Char × List Char)
  | '\\' :: 'u' :: a :: b :: c :: d :: rest => unescapeUnit (unitValue a b c d) rest
  | '\\' :: 'n' :: rest => some ('\n', rest)
  | '\\' :: 'r' :: rest => some ('\r', rest)
  | '\\' :: 't' :: rest => some ('\t', rest)
  | '\\' :: 'f' :: rest => some ('\x0c', rest)
  | '\\' :: 'b' :: rest => some ('\x08', rest)
  | '\\' :: c :: rest => some (c, rest)
  | c :: rest => some (c, rest)
  | [] => none

/-- The first unit of an escaped character outside the surrogates reads as that character. -/
theorem unescape_unit (c : Char) (rest : List Char) (basic : c.toNat < 65536) :
    unescape (unit c.toNat ++ rest) = some (c, rest) := by
  have scalar : ¬ (55296 ≤ c.toNat ∧ c.toNat < 56320) := by
    have valid := c.valid
    simp only [UInt32.isValidChar, Nat.isValidChar] at valid
    change c.toNat < 55296 ∨ 57343 < c.toNat ∧ c.toNat < 1114112 at valid
    omega
  simp only [unit, List.cons_append, List.nil_append]
  rw [unescape, unitValue_unit _ basic, unescapeUnit.eq_def, if_neg scalar, Char.ofNat_toNat]

/-- A surrogate pair reads as the character it was written from. -/
theorem unescape_pair (c : Char) (rest : List Char) (high : 65536 ≤ c.toNat) :
    unescape (unit (55296 + (c.toNat - 65536) / 1024)
      ++ unit (56320 + (c.toNat - 65536) % 1024) ++ rest) = some (c, rest) := by
  have limit : c.toNat < 1114112 := by
    have valid := c.valid
    simp only [UInt32.isValidChar, Nat.isValidChar] at valid
    change c.toNat < 55296 ∨ 57343 < c.toNat ∧ c.toNat < 1114112 at valid
    omega
  simp only [unit, List.cons_append, List.nil_append]
  rw [unescape, unitValue_unit _ (by omega), unescapeUnit, if_pos (by omega)]
  rw [unitValue_unit _ (by omega),
    show 65536 + (55296 + (c.toNat - 65536) / 1024 - 55296) * 1024
      + (56320 + (c.toNat - 65536) % 1024 - 56320) = c.toNat by omega, Char.ofNat_toNat]

/-- Every escaped character reads back. -/
theorem unescape_escape (c : Char) (rest : List Char) :
    unescape (escape c ++ rest) = some (c, rest) := by
  unfold escape
  split_ifs with quoted slash newline carriage tab feed back printable basic
  · subst quoted; rfl
  · subst slash; rfl
  · subst newline; rfl
  · subst carriage; rfl
  · subst tab; rfl
  · subst feed; rfl
  · subst back; rfl
  · simp only [List.cons_append, List.nil_append]
    rw [unescape.eq_def]
    split <;> simp_all
  · exact unescape_unit c rest basic
  · exact unescape_pair c rest (by omega)

/-- An escaped character never starts with the closing quote. -/
theorem escape_head (c : Char) (rest tail : List Char) : escape c ++ rest ≠ '"' :: tail := by
  unfold escape
  split_ifs <;> simp_all [unit]

/-- One escaped character can be cancelled from the front of two equal texts. -/
theorem escape_cancel {c d : Char} {rest tail : List Char}
    (same : escape c ++ rest = escape d ++ tail) : c = d ∧ rest = tail := by
  have read := unescape_escape c rest
  rw [same, unescape_escape d tail] at read
  simp only [Option.some.injEq, Prod.mk.injEq] at read
  exact ⟨read.1.symm, read.2.symm⟩

/-- A quoted body can be cancelled from the front of two equal texts. -/
theorem quoteTail_cancel {cs ds rest tail : List Char}
    (same : quoteTail cs ++ rest = quoteTail ds ++ tail) : cs = ds ∧ rest = tail := by
  induction cs generalizing ds with
  | nil =>
    cases ds with
    | nil => exact ⟨rfl, by simpa [quoteTail] using same⟩
    | cons d ds =>
      simp only [quoteTail, List.append_assoc, List.cons_append, List.nil_append] at same
      exact absurd same.symm (escape_head d _ _)
  | cons c cs ih =>
    cases ds with
    | nil =>
      simp only [quoteTail, List.append_assoc, List.cons_append, List.nil_append] at same
      exact absurd same (escape_head c _ _)
    | cons d ds =>
      simp only [quoteTail, List.append_assoc] at same
      obtain ⟨rfl, later⟩ := escape_cancel same
      obtain ⟨rfl, rfl⟩ := ih later
      exact ⟨rfl, rfl⟩

/-- A quoted string can be cancelled from the front of two equal texts. -/
theorem quote_cancel {s t : String} {rest tail : List Char}
    (same : quote s ++ rest = quote t ++ tail) : s = t ∧ rest = tail := by
  simp only [quote, List.cons_append, List.cons.injEq, true_and] at same
  obtain ⟨body, later⟩ := quoteTail_cancel same
  exact ⟨String.toList_inj.mp body, later⟩

/-! ## Numbers -/

/-- A text no number runs on into. -/
def Stops (rest : List Char) : Prop := ∀ c ∈ rest.head?, isNumberChar c = false

/-- A run of number characters before a stop can be cancelled. -/
theorem number_cancel {a b rest tail : List Char} (left : ∀ c ∈ a, isNumberChar c = true)
    (right : ∀ c ∈ b, isNumberChar c = true) (stop : Stops rest) (halt : Stops tail)
    (same : a ++ rest = b ++ tail) : a = b ∧ rest = tail := by
  induction a generalizing b with
  | nil =>
    cases b with
    | nil => exact ⟨rfl, same⟩
    | cons c b =>
      have head := stop c (by simp [show rest = c :: (b ++ tail) from same])
      simp [right c (by simp)] at head
  | cons c a ih =>
    cases b with
    | nil =>
      have head := halt c (by simp [show tail = c :: (a ++ rest) from same.symm])
      simp [left c (by simp)] at head
    | cons d b =>
      simp only [List.cons_append, List.cons.injEq] at same
      obtain ⟨rfl, later⟩ := same
      obtain ⟨rfl, rfl⟩ := ih (fun x member => left x (List.mem_cons_of_mem _ member))
        (fun x member => right x (List.mem_cons_of_mem _ member)) later
      exact ⟨rfl, rfl⟩

/-- Every character of a written integer is a digit or a sign. -/
theorem integer_chars (n : Int) : ∀ c ∈ integer n, isIntegerChar c = true := by
  intro c member
  unfold integer at member
  split at member
  · rcases List.mem_cons.mp member with rfl | digit
    · rfl
    · simp [isIntegerChar, Nat.isDigit_of_mem_toDigits (by decide) (by decide) digit]
  · simp [isIntegerChar, Nat.isDigit_of_mem_toDigits (by decide) (by decide) member]

/-- Integer characters are number characters. -/
theorem isNumberChar_of_integer {c : Char} (integral : isIntegerChar c = true) :
    isNumberChar c = true := by
  simp only [isIntegerChar, Bool.or_eq_true, beq_iff_eq] at integral
  rcases integral with digit | rfl
  · simp [isNumberChar, digit]
  · rfl

/-- The digits of a natural number determine it. -/
theorem toDigits_injective {m n : Nat} (same : Nat.toDigits 10 m = Nat.toDigits 10 n) :
    m = n := by
  rw [← Nat.ofDigitChars_ten_toDigits (n := m), same, Nat.ofDigitChars_ten_toDigits]

/-- A run of digits starts with no sign. -/
theorem toDigits_head (n : Nat) (rest : List Char) : Nat.toDigits 10 n ≠ '-' :: rest := by
  intro same
  have digit := Nat.isDigit_of_mem_toDigits (b := 10) (n := n) (c := '-') (by decide) (by decide)
    (by simp [same])
  exact absurd digit (by decide)

/-- The text of an integer determines it. -/
theorem integer_injective {m n : Int} (same : integer m = integer n) : m = n := by
  unfold integer at same
  split at same <;> split at same
  · simp only [List.cons.injEq, true_and] at same
    have size := toDigits_injective same
    omega
  · exact absurd same.symm (toDigits_head _ _)
  · exact absurd same (toDigits_head _ _)
  · have size := toDigits_injective same
    omega

/-- No written integer is a written float. -/
theorem integer_ne_float (n : Int) (x : FloatText) : integer n ≠ x.text.toList := by
  intro same
  obtain ⟨c, member, odd⟩ := x.marked
  rw [← same] at member
  rw [integer_chars n c member] at odd
  contradiction

/-! ## Cancelling a whole value -/

/-- The kind of value a first character announces; a closing bracket announces none. -/
def announced (c : Char) : Nat :=
  if c = 'n' then 0 else if c = 't' ∨ c = 'f' then 1 else if c = '"' then 3
  else if c = '[' then 4 else if c = '{' then 5 else if c = ']' then 6 else 2

/-- The kind of a value; both kinds of number are written alike. -/
def kind : Value → Nat
  | .null => 0
  | .bool _ => 1
  | .int _ => 2
  | .float _ => 2
  | .str _ => 3
  | .arr _ => 4
  | .obj _ => 5

/-- A character that may start a number announces one. -/
theorem announced_number {c : Char} (start : isFloatHead c = true) : announced c = 2 := by
  unfold announced
  split_ifs with null flag string array object close
  · subst null; exact absurd start (by decide)
  · rcases flag with rfl | rfl <;> exact absurd start (by decide)
  · subst string; exact absurd start (by decide)
  · subst array; exact absurd start (by decide)
  · subst object; exact absurd start (by decide)
  · subst close; exact absurd start (by decide)
  · rfl

/-- The first character of a written value announces its kind. -/
theorem render_announces (value : Value) :
    ∃ c rest, render value = c :: rest ∧ announced c = kind value := by
  cases value with
  | null => exact ⟨_, _, by rw [render], rfl⟩
  | bool flag => cases flag <;> exact ⟨_, _, by rw [render], rfl⟩
  | int n =>
    rw [render]
    unfold integer
    split
    · exact ⟨_, _, rfl, rfl⟩
    · obtain ⟨c, rest, same⟩ := List.exists_cons_of_ne_nil (Nat.toDigits_ne_nil (b := 10)
        (n := n.natAbs))
      refine ⟨c, rest, same, announced_number ?_⟩
      have digit := Nat.isDigit_of_mem_toDigits (b := 10) (n := n.natAbs) (c := c) (by decide)
        (by decide) (by simp [same])
      simp [isFloatHead, digit]
  | float x =>
    rw [render]
    obtain ⟨c, member, -⟩ := x.marked
    obtain ⟨d, rest, same⟩ := List.exists_cons_of_ne_nil (List.ne_nil_of_mem member)
    exact ⟨d, rest, same, announced_number (x.head d (by simp [same]))⟩
  | str s => exact ⟨_, _, by rw [render, quote], rfl⟩
  | arr items => cases items <;> exact ⟨_, _, by rw [render], rfl⟩
  | obj members => cases members <;> exact ⟨_, _, by rw [render], rfl⟩

/-- Values with equal texts, whatever follows them, are of one kind. -/
theorem kind_of_render {a b : Value} {rest tail : List Char}
    (same : render a ++ rest = render b ++ tail) : kind a = kind b := by
  obtain ⟨c, _, ha, hc⟩ := render_announces a
  obtain ⟨d, _, hb, hd⟩ := render_announces b
  rw [ha, hb, List.cons_append, List.cons_append, List.cons.injEq] at same
  rw [← hc, ← hd, same.1]

/-- No number runs on into the items after it. -/
theorem stops_items (items : List Value) (rest : List Char) :
    Stops (renderItems items ++ rest) := by
  intro c head
  cases items <;> simp [renderItems] at head <;> subst head <;> rfl

/-- No number runs on into the members after it. -/
theorem stops_members (members : List (String × Value)) (rest : List Char) :
    Stops (renderMembers members ++ rest) := by
  intro c head
  cases members <;> simp [renderMembers] at head <;> subst head <;> rfl

mutual

/-- A written value before a stop can be cancelled from the front of two equal texts. -/
theorem render_cancel (a b : Value) (rest tail : List Char) (stop : Stops rest)
    (halt : Stops tail) (same : render a ++ rest = render b ++ tail) :
    a = b ∧ rest = tail := by
  have kinds := kind_of_render same
  cases a with
  | null =>
    cases b <;> simp only [kind] at kinds <;> try contradiction
    exact ⟨rfl, by simpa [render] using same⟩
  | bool flag =>
    cases b <;> simp only [kind] at kinds <;> try contradiction
    rename_i other
    cases flag <;> cases other <;> simp [render] at same <;> exact ⟨rfl, same⟩
  | int n =>
    cases b <;> simp only [kind] at kinds <;> try contradiction
    · simp only [render] at same
      obtain ⟨text, later⟩ := number_cancel
        (fun c member => isNumberChar_of_integer (integer_chars _ c member))
        (fun c member => isNumberChar_of_integer (integer_chars _ c member)) stop halt same
      exact ⟨by rw [integer_injective text], later⟩
    · rename_i x
      simp only [render] at same
      obtain ⟨text, -⟩ := number_cancel
        (fun c member => isNumberChar_of_integer (integer_chars _ c member)) x.number stop halt
        same
      exact absurd text (integer_ne_float n x)
  | float x =>
    cases b <;> simp only [kind] at kinds <;> try contradiction
    · rename_i n
      simp only [render] at same
      obtain ⟨text, -⟩ := number_cancel x.number
        (fun c member => isNumberChar_of_integer (integer_chars _ c member)) stop halt same
      exact absurd text.symm (integer_ne_float n x)
    · rename_i y
      simp only [render] at same
      obtain ⟨text, later⟩ := number_cancel x.number y.number stop halt same
      cases x
      cases y
      cases String.toList_inj.mp text
      exact ⟨rfl, later⟩
  | str s =>
    cases b <;> simp only [kind] at kinds <;> try contradiction
    simp only [render] at same
    obtain ⟨rfl, later⟩ := quote_cancel same
    exact ⟨rfl, later⟩
  | arr items =>
    cases b <;> simp only [kind] at kinds <;> try contradiction
    rename_i others
    cases items with
    | nil =>
      cases others with
      | nil => exact ⟨rfl, by simpa [render] using same⟩
      | cons other others =>
        obtain ⟨c, r, first, announces⟩ := render_announces other
        simp only [render, first, List.cons_append, List.nil_append, List.cons.injEq,
          true_and] at same
        rw [← same.1] at announces
        cases other <;> simp [kind, announced] at announces
    | cons item items =>
      cases others with
      | nil =>
        obtain ⟨c, r, first, announces⟩ := render_announces item
        simp only [render, first, List.cons_append, List.nil_append, List.cons.injEq,
          true_and] at same
        rw [same.1] at announces
        cases item <;> simp [kind, announced] at announces
      | cons other others =>
        simp only [render, List.cons_append, List.append_assoc, List.cons.injEq,
          true_and] at same
        obtain ⟨rfl, later⟩ := render_cancel item other _ _ (stops_items _ _) (stops_items _ _)
          same
        obtain ⟨rfl, final⟩ := renderItems_cancel items others rest tail later
        exact ⟨rfl, final⟩
  | obj members =>
    cases b <;> simp only [kind] at kinds <;> try contradiction
    rename_i others
    cases members with
    | nil =>
      cases others with
      | nil => exact ⟨rfl, by simpa [render] using same⟩
      | cons other others => simp [render, quote] at same
    | cons member members =>
      cases others with
      | nil => simp [render, quote] at same
      | cons other others =>
        simp only [render, List.cons_append, List.append_assoc, List.cons.injEq,
          true_and] at same
        obtain ⟨key, later⟩ := quote_cancel same
        simp only [List.cons.injEq, true_and] at later
        obtain ⟨value, later⟩ := render_cancel member.2 other.2 _ _ (stops_members _ _)
          (stops_members _ _) later
        obtain ⟨rfl, final⟩ := renderMembers_cancel members others rest tail later
        exact ⟨by rw [Prod.ext key value], final⟩

/-- Written items can be cancelled from the front of two equal texts. -/
theorem renderItems_cancel (items others : List Value) (rest tail : List Char)
    (same : renderItems items ++ rest = renderItems others ++ tail) :
    items = others ∧ rest = tail := by
  cases items with
  | nil =>
    cases others with
    | nil => exact ⟨rfl, by simpa [renderItems] using same⟩
    | cons other others => simp [renderItems] at same
  | cons item items =>
    cases others with
    | nil => simp [renderItems] at same
    | cons other others =>
      simp only [renderItems, List.cons_append, List.append_assoc, List.cons.injEq,
        true_and] at same
      obtain ⟨rfl, later⟩ := render_cancel item other _ _ (stops_items _ _) (stops_items _ _)
        same
      obtain ⟨rfl, final⟩ := renderItems_cancel items others rest tail later
      exact ⟨rfl, final⟩

/-- Written members can be cancelled from the front of two equal texts. -/
theorem renderMembers_cancel (members others : List (String × Value)) (rest tail : List Char)
    (same : renderMembers members ++ rest = renderMembers others ++ tail) :
    members = others ∧ rest = tail := by
  cases members with
  | nil =>
    cases others with
    | nil => exact ⟨rfl, by simpa [renderMembers] using same⟩
    | cons other others => simp [renderMembers] at same
  | cons member members =>
    cases others with
    | nil => simp [renderMembers] at same
    | cons other others =>
      simp only [renderMembers, List.cons_append, List.append_assoc, List.cons.injEq,
        true_and] at same
      obtain ⟨key, later⟩ := quote_cancel same
      simp only [List.cons.injEq, true_and] at later
      obtain ⟨value, later⟩ := render_cancel member.2 other.2 _ _ (stops_members _ _)
        (stops_members _ _) later
      obtain ⟨rfl, final⟩ := renderMembers_cancel members others rest tail later
      exact ⟨by rw [Prod.ext key value], final⟩

end

/-- The text of a value determines its canonical form. -/
theorem dumps_injective {a b : Value} (same : dumps a = dumps b) : canonical a = canonical b := by
  have text := String.ofList_injective same
  refine (render_cancel _ _ [] [] ?_ ?_ (by rw [text])).1 <;> simp [Stops]

/-! ## Members of objects with one text -/

/-- Canonical objects with one sorted member list hold the same canonical members. -/
theorem members_of_canonical {left right : List (String × Value)}
    (same : canonical (.obj left) = canonical (.obj right)) (member : String × Value) :
    member ∈ canonicalMembers left ↔ member ∈ canonicalMembers right := by
  simp only [canonical, Value.obj.injEq] at same
  rw [← (List.perm_insertionSort (fun a b => a.1 ≤ b.1) (canonicalMembers left)).mem_iff, same,
    (List.perm_insertionSort (fun a b => a.1 ≤ b.1) (canonicalMembers right)).mem_iff]

/-- Canonical members are the members with canonical values. -/
theorem canonicalMembers_eq_map (members : List (String × Value)) :
    canonicalMembers members = members.map fun member => (member.1, canonical member.2) := by
  induction members with
  | nil => rfl
  | cons member members ih => simp [canonicalMembers, ih]

/-- A value whose canonical form is a text is the text. -/
theorem eq_str_of_canonical {value : Value} {text : String} (same : canonical value = .str text) :
    value = .str text := by
  cases value <;> simp_all [canonical]

/-- Objects with one canonical form have the same text members. -/
theorem str_member_of_canonical {left right : List (String × Value)}
    (same : canonical (.obj left) = canonical (.obj right)) {name text : String}
    (member : (name, Value.str text) ∈ left) : (name, Value.str text) ∈ right := by
  have sorted := members_of_canonical same (name, .str text)
  simp only [canonicalMembers_eq_map, List.mem_map, Prod.mk.injEq] at sorted
  obtain ⟨other, among, rfl, value⟩ := sorted.mp ⟨_, member, rfl, by simp [canonical]⟩
  rw [← eq_str_of_canonical value]
  exact among

/-! ## Encoded size -/

/-- The bytes of a text. -/
def bytes (text : List Char) : Nat := (String.ofList text).utf8ByteSize

/-- The bytes of two texts follow each other. -/
@[simp] theorem bytes_append (left right : List Char) :
    bytes (left ++ right) = bytes left + bytes right := by
  rw [bytes, String.ofList_append, String.utf8ByteSize_append]
  rfl

/-- A character adds its own bytes. -/
theorem bytes_cons (c : Char) (text : List Char) : bytes (c :: text) = bytes [c] + bytes text :=
  bytes_append [c] text

/-- A character has at least one byte. -/
theorem bytes_singleton (c : Char) : 1 ≤ bytes [c] := by
  have size : bytes [c] = c.utf8Size := String.utf8ByteSize_singleton
  rw [size]
  exact c.utf8Size_pos

/-- The size of a written value. -/
theorem utf8ByteSize_dumps (value : Value) :
    (dumps value).utf8ByteSize = bytes (render (canonical value)) := rfl

/-- The items after the first one take at least their closing bracket. -/
theorem one_le_bytes_items (items : List Value) : 1 ≤ bytes (renderItems items) := by
  cases items with
  | nil => exact bytes_singleton ']'
  | cons item items =>
    have comma := bytes_singleton ','
    rw [renderItems, bytes_cons]
    omega

/-- An item after the first one takes a comma, its own bytes and the closing bracket. -/
theorem bytes_le_items {item : Value} {items : List Value} (member : item ∈ items) :
    bytes (render (canonical item)) + 2 ≤ bytes (renderItems (canonicalItems items)) := by
  induction items with
  | nil => cases member
  | cons first items ih =>
    have comma := bytes_singleton ','
    rw [canonicalItems, renderItems, bytes_cons, bytes_append]
    rcases List.mem_cons.mp member with rfl | later
    · have closed := one_le_bytes_items (canonicalItems items)
      omega
    · have inside := ih later
      omega

/-- An array takes at least the bytes of the array of one of its items. -/
theorem size_singleton_le {item : Value} {items : List Value} (member : item ∈ items) :
    (dumps (.arr [item])).utf8ByteSize ≤ (dumps (.arr items)).utf8ByteSize := by
  have bracket : bytes (renderItems []) = 1 := by decide
  rw [utf8ByteSize_dumps, utf8ByteSize_dumps]
  cases items with
  | nil => cases member
  | cons first items =>
    simp only [canonical, canonicalItems, render]
    rw [bytes_cons '[' (render (canonical item) ++ renderItems []),
      bytes_cons '[' (render (canonical first) ++ renderItems (canonicalItems items)),
      bytes_append, bytes_append, bracket]
    rcases List.mem_cons.mp member with rfl | later
    · have closed := one_le_bytes_items (canonicalItems items)
      omega
    · have inside := bytes_le_items later
      omega

/-- An array takes at least two bytes. -/
theorem two_le_size (items : List Value) : 2 ≤ (dumps (.arr items)).utf8ByteSize := by
  rw [utf8ByteSize_dumps]
  cases items with
  | nil => decide
  | cons item items =>
    have bracket := bytes_singleton '['
    have closed := one_le_bytes_items (canonicalItems items)
    simp only [canonical, canonicalItems, render]
    rw [bytes_cons, bytes_append]
    omega

end Json
