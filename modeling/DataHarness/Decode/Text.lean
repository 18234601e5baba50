import DataHarness.Models
import Mathlib.Data.List.Infix

/-!
# Methods of `str`

Lower case, stripping and lines, as the decoder uses them. Letters outside ASCII keep their case,
since no comparison asks about it, except for the two whose lower case is written in ASCII.
-/

namespace DataHarness

/-- The lower case of a character, as far as it has ASCII letters. -/
def lowerChar (c : Char) : List Char :=
  if c = '\u212a' then ['k'] else if c = '\u0130' then ['i', '\u0307'] else [c.toLower]

/-- `text.lower()`. -/
def lower (text : String) : String := String.ofList (text.toList.flatMap lowerChar)

/-- `text.strip()`. -/
def strip (text : String) : String :=
  String.ofList ((text.toList.dropWhile isSpace).reverse.dropWhile isSpace).reverse

/-- `part in text`. -/
def hasPart (part text : String) : Bool := decide (part.toList <:+: text.toList)

/-- The characters `str.splitlines` ends a line at. -/
def isLineEnd (c : Char) : Bool :=
  c.toNat ∈ [10, 11, 12, 13, 28, 29, 30, 0x85, 0x2028, 0x2029]

/-- The lines from a character on, with what was read of the first one. -/
def linesFrom (line : List Char) : List Char → List (List Char)
  | [] => if line = [] then [] else [line]
  | '\r' :: '\n' :: rest => line :: linesFrom [] rest
  | c :: rest => if isLineEnd c then line :: linesFrom [] rest else linesFrom (line ++ [c]) rest

/-- `text.splitlines()`. -/
def splitlines (text : String) : List String := (linesFrom [] text.toList).map String.ofList

/-- A line that ends where the text does. -/
theorem linesFrom_free {line text : List Char} (free : ∀ c ∈ text, isLineEnd c = false) :
    linesFrom line text = if line ++ text = [] then [] else [line ++ text] := by
  induction text generalizing line with
  | nil => simp [linesFrom]
  | cons c text ih =>
    have own := free c List.mem_cons_self
    have rest : ∀ d ∈ text, isLineEnd d = false := fun d member =>
      free d (List.mem_cons_of_mem _ member)
    have returned : c ≠ '\r' := by
      intro same
      rw [same] at own
      cases own
    rw [linesFrom.eq_3 line c text (by simp [returned]), own, if_neg (by simp), ih rest]
    simp

/-- A line ends at the first character that ends one. -/
theorem linesFrom_cut {line front rest : List Char} {c : Char}
    (free : ∀ d ∈ front, isLineEnd d = false) (ends : isLineEnd c = true) (other : c ≠ '\r') :
    linesFrom line (front ++ c :: rest) = (line ++ front) :: linesFrom [] rest := by
  induction front generalizing line with
  | nil => rw [List.nil_append, linesFrom.eq_3 line c rest (by simp [other]), ends]; simp
  | cons d front ih =>
    have own := free d List.mem_cons_self
    have later : ∀ e ∈ front, isLineEnd e = false := fun e member =>
      free e (List.mem_cons_of_mem _ member)
    have returned : d ≠ '\r' := by
      intro same
      rw [same] at own
      cases own
    rw [List.cons_append, linesFrom.eq_3 line d _ (by simp [returned]), own, if_neg (by simp),
      ih later]
    simp

/-! ## Texts joined by line feeds -/

/-- The characters of texts that are joined. -/
theorem toList_intercalate (text other : String) (texts : List String) :
    ("\n".intercalate (text :: other :: texts)).toList =
      text.toList ++ '\n' :: ("\n".intercalate (other :: texts)).toList := by
  rw [String.intercalate_cons_cons, String.toList_append, String.toList_append]
  simp

/-- A joined text shows that more texts follow. -/
theorem intercalate_append {texts more : List String} (filled : ∀ text ∈ more, text ≠ "") :
    "\n".intercalate (texts ++ more) = "\n".intercalate texts ↔ more = [] := by
  constructor
  · intro same
    cases more with
    | nil => rfl
    | cons next more =>
      exfalso
      induction texts with
      | nil =>
        have own := filled next List.mem_cons_self
        cases more with
        | nil =>
          rw [List.nil_append, String.intercalate_singleton] at same
          exact own same
        | cons other more =>
          rw [List.nil_append, String.intercalate_cons_cons] at same
          have empty : next ++ "\n" ++ "\n".intercalate (other :: more) = "" := same
          simp only [String.append_eq_empty_iff] at empty
          exact own empty.1.1
      | cons text texts ih =>
        cases texts with
        | nil =>
          rw [List.singleton_append, String.intercalate_cons_cons,
            String.intercalate_singleton] at same
          have longer := congrArg String.length same
          simp only [String.length_append] at longer
          have newline : "\n".length = 1 := rfl
          omega
        | cons other texts =>
          rw [List.cons_append, List.cons_append, String.intercalate_cons_cons,
            String.intercalate_cons_cons, String.append_right_inj] at same
          exact ih same
  · intro none
    rw [none, List.append_nil]

end DataHarness
