import DataHarness.Models

/-!
# Whole numbers written as texts

`int` of a text: decimal digits of any script, with single underscores between them, a sign in front
and spaces around. It reads back what `str` writes (`intOfText_toString`).
-/

namespace DataHarness

/-- The digit zero of each script but for ASCII. -/
def foreignZeros : List Nat :=
  [0x660, 0x6f0, 0x7c0, 0x966, 0x9e6, 0xa66, 0xae6, 0xb66, 0xbe6, 0xc66, 0xce6, 0xd66, 0xde6, 0xe50,
    0xed0, 0xf20, 0x1040, 0x1090, 0x17e0, 0x1810, 0x1946, 0x19d0, 0x1a80, 0x1a90, 0x1b50, 0x1bb0,
    0x1c40, 0x1c50, 0xa620, 0xa8d0, 0xa900, 0xa9d0, 0xa9f0, 0xaa50, 0xabf0, 0xff10, 0x104a0,
    0x10d30, 0x11066, 0x110f0, 0x11136, 0x111d0, 0x112f0, 0x11450, 0x114d0, 0x11650, 0x116c0,
    0x11730, 0x118e0, 0x11950, 0x11c50, 0x11d50, 0x11da0, 0x16a60, 0x16ac0, 0x16b50, 0x1d7ce,
    0x1d7d8, 0x1d7e2, 0x1d7ec, 0x1d7f6, 0x1e140, 0x1e2f0, 0x1e950, 0x1fbf0]

/-- The value of a decimal digit of some script. -/
def digitValue (c : Char) : Option Nat :=
  ((0x30 :: foreignZeros).find? fun first =>
    decide (first ≤ c.toNat) && decide (c.toNat < first + 10)).map fun first => c.toNat - first

/-- Digits behind others, with an underscore between two of them at most. -/
def digitsFrom (value : Nat) : List Char → Option Nat
  | [] => some value
  | '_' :: c :: rest =>
    match digitValue c with
    | some digit => digitsFrom (10 * value + digit) rest
    | none => none
  | c :: rest =>
    match digitValue c with
    | some digit => digitsFrom (10 * value + digit) rest
    | none => none

/-- The number some digits write. -/
def natOf : List Char → Option Nat
  | [] => none
  | c :: rest =>
    match digitValue c with
    | some digit => digitsFrom digit rest
    | none => none

/-- The number some digits write behind a sign. -/
def intOf : List Char → Option Int
  | '-' :: rest => (natOf rest).map fun n => -(n : Int)
  | '+' :: rest => (natOf rest).map fun n => (n : Int)
  | characters => (natOf characters).map fun n => (n : Int)

/-- What `int` takes away around a number: `str.isspace` but for the separators of ASCII. -/
def isNumberSpace (c : Char) : Bool := isSpace c && !(decide (28 ≤ c.toNat) && decide (c.toNat < 32))

/-- `int(text)`, none where it raises a `ValueError`, of a text with no more than 4300 digits. -/
def intOfText (text : String) : Option Int :=
  intOf ((text.toList.dropWhile isNumberSpace).reverse.dropWhile isNumberSpace).reverse

/-- An ASCII digit is a decimal digit. -/
theorem digitValue_digit {c : Char} (digit : c.isDigit = true) :
    digitValue c = some (c.toNat - '0'.toNat) := by
  have range : 48 ≤ c.toNat ∧ c.toNat ≤ 57 := Char.isDigit_iff_toNat.mp digit
  have first : (decide (0x30 ≤ c.toNat) && decide (c.toNat < 0x30 + 10)) = true := by
    rw [Bool.and_eq_true, decide_eq_true_eq, decide_eq_true_eq]
    omega
  unfold digitValue
  rw [List.find?_cons, first]
  rfl

/-- A digit is none of the other characters of a number. -/
theorem ne_of_digit {c other : Char} (digit : c.isDigit = true) (foreign : other.isDigit = false) :
    c ≠ other := by
  intro same
  rw [same, foreign] at digit
  cases digit

/-- No space is a digit. -/
theorem isNumberSpace_digit {c : Char} (digit : c.isDigit = true) : isNumberSpace c = false := by
  have range : 48 ≤ c.toNat ∧ c.toNat ≤ 57 := Char.isDigit_iff_toNat.mp digit
  unfold isNumberSpace isSpace
  simp only [List.mem_cons, List.not_mem_nil, or_false, Bool.and_eq_false_iff]
  left
  rw [Bool.or_eq_false_iff, Bool.and_eq_false_iff]
  simp only [decide_eq_false_iff_not]
  omega

/-- Digits are read as the number they write. -/
theorem digitsFrom_digits {digits : List Char} (all : ∀ c ∈ digits, c.isDigit = true)
    (value : Nat) : digitsFrom value digits = some (Nat.ofDigitChars 10 digits value) := by
  induction digits generalizing value with
  | nil => rw [digitsFrom, Nat.ofDigitChars_nil]
  | cons c rest ih =>
    have own := all c List.mem_cons_self
    have later : ∀ d ∈ rest, d.isDigit = true := fun d member => all d (List.mem_cons_of_mem _ member)
    have separate : c ≠ '_' := ne_of_digit own (by decide)
    rw [digitsFrom.eq_3 value c rest (by simp [separate]), digitValue_digit own, Nat.ofDigitChars_cons]
    exact ih later _

/-- Some digits are read as the number they write. -/
theorem intOf_digits {digits : List Char} (some : digits ≠ [])
    (all : ∀ c ∈ digits, c.isDigit = true) :
    intOf digits = .some (Nat.ofDigitChars 10 digits 0 : Int) := by
  cases digits with
  | nil => exact absurd rfl some
  | cons c rest =>
    have own := all c List.mem_cons_self
    have later : ∀ d ∈ rest, d.isDigit = true := fun d member => all d (List.mem_cons_of_mem _ member)
    have minus : c ≠ '-' := ne_of_digit own (by decide)
    have plus : c ≠ '+' := ne_of_digit own (by decide)
    have number : natOf (c :: rest) = .some (Nat.ofDigitChars 10 (c :: rest) 0) := by
      rw [natOf, digitValue_digit own, Nat.ofDigitChars_cons, Nat.mul_zero, Nat.zero_add]
      exact digitsFrom_digits later _
    rw [intOf.eq_3 _ (by simp [minus]) (by simp [plus]), number]
    rfl

/-- Nothing is taken away at the front of digits. -/
theorem dropWhile_digits {digits : List Char} (all : ∀ c ∈ digits, c.isDigit = true) :
    digits.dropWhile isNumberSpace = digits := by
  cases digits with
  | nil => rfl
  | cons c rest =>
    have own := isNumberSpace_digit (all c List.mem_cons_self)
    rw [List.dropWhile_cons_of_neg (by rw [own]; decide)]

/-- `int(str(n))`. -/
theorem intOfText_toString (n : Nat) : intOfText (toString n) = some (n : Int) := by
  have all : ∀ c ∈ Nat.toDigits 10 n, c.isDigit = true := fun c member =>
    Nat.isDigit_of_mem_toDigits (by decide) (by decide) member
  have reversed : ∀ c ∈ (Nat.toDigits 10 n).reverse, c.isDigit = true := fun c member =>
    all c (List.mem_reverse.mp member)
  unfold intOfText
  rw [Nat.toString_eq_repr, Nat.toList_repr, dropWhile_digits all, dropWhile_digits reversed,
    List.reverse_reverse, intOf_digits Nat.toDigits_ne_nil all, Nat.ofDigitChars_ten_toDigits]

/-- Some digits are read as the natural number they write. -/
theorem natOf_digits {digits : List Char} (some : digits ≠ [])
    (all : ∀ c ∈ digits, c.isDigit = true) :
    natOf digits = .some (Nat.ofDigitChars 10 digits 0) := by
  cases digits with
  | nil => exact absurd rfl some
  | cons c rest =>
    have own := all c List.mem_cons_self
    rw [natOf, digitValue_digit own, Nat.ofDigitChars_cons, Nat.mul_zero, Nat.zero_add]
    exact digitsFrom_digits (fun d member => all d (List.mem_cons_of_mem _ member)) _

/-- Nothing is taken away at the front of characters that are no spaces. -/
theorem dropWhile_spaceless {characters : List Char}
    (spaceless : ∀ c ∈ characters, isNumberSpace c = false) :
    characters.dropWhile isNumberSpace = characters := by
  cases characters with
  | nil => rfl
  | cons c rest =>
    rw [List.dropWhile_cons_of_neg (by rw [spaceless c List.mem_cons_self]; decide)]

/-- `int(str(n))`, with a sign or none. -/
theorem intOfText_toString_int (n : Int) : intOfText (toString n) = some n := by
  cases n with
  | ofNat n => exact intOfText_toString n
  | negSucc n =>
    have all : ∀ c ∈ Nat.toDigits 10 (n + 1), c.isDigit = true := fun c member =>
      Nat.isDigit_of_mem_toDigits (by decide) (by decide) member
    have characters : (toString (Int.negSucc n)).toList = '-' :: Nat.toDigits 10 (n + 1) := by
      show ("-" ++ (n + 1).repr).toList = _
      rw [String.toList_append, Nat.toList_repr]
      rfl
    have spaceless : ∀ c ∈ '-' :: Nat.toDigits 10 (n + 1), isNumberSpace c = false := by
      intro c member
      rcases List.mem_cons.mp member with same | among
      · rw [same]
        decide
      · exact isNumberSpace_digit (all c among)
    have reversed : ∀ c ∈ ('-' :: Nat.toDigits 10 (n + 1)).reverse, isNumberSpace c = false :=
      fun c member => spaceless c (List.mem_reverse.mp member)
    unfold intOfText
    rw [characters, dropWhile_spaceless spaceless, dropWhile_spaceless reversed,
      List.reverse_reverse, intOf, natOf_digits Nat.toDigits_ne_nil all,
      Nat.ofDigitChars_ten_toDigits]
    rfl

example : intOfText " +1_0\n" = some 10 ∧ intOfText "-\u0663" = some (-3) ∧
    intOfText "1__0" = none := by decide

end DataHarness
