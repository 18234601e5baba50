import Mathlib.Data.List.Basic

/-!
# Texts with a separator

A list split at the last place where a separator stands: `text.rsplit(separator, 1)`. At the first
place, two lists with one text have the same parts.
-/

namespace Separator

variable {α : Type} [DecidableEq α]

/-- What stands before and after the last separator. -/
def rsplit (separator : α) : List α → Option (List α × List α)
  | [] => none
  | c :: rest =>
    match rsplit separator rest with
    | some (front, back) => some (c :: front, back)
    | none => if c = separator then some ([], rest) else none

variable {separator : α}

/-- A list is not split when the separator is not in it. -/
theorem rsplit_eq_none {text : List α} : rsplit separator text = none ↔ separator ∉ text := by
  induction text with
  | nil => simp [rsplit]
  | cons c rest ih =>
    unfold rsplit
    cases found : rsplit separator rest with
    | some parts =>
      have inside : separator ∈ rest := by
        by_contra clean
        rw [ih.mpr clean] at found
        cases found
      simp [inside]
    | none =>
      have clean := ih.mp found
      by_cases here : c = separator
      · simp [here]
      · simp [here, clean, Ne.symm here]

/-- A list is split in front of a part without the separator. -/
theorem rsplit_append (front : List α) {back : List α} (clean : separator ∉ back) :
    rsplit separator (front ++ separator :: back) = some (front, back) := by
  induction front with
  | nil =>
    rw [List.nil_append]
    unfold rsplit
    rw [rsplit_eq_none.mpr clean]
    exact if_pos rfl
  | cons c front ih =>
    rw [List.cons_append]
    unfold rsplit
    rw [ih]

/-- What is split has the separator in front of a part without it. -/
theorem of_rsplit {text front back : List α} (split : rsplit separator text = some (front, back)) :
    text = front ++ separator :: back ∧ separator ∉ back := by
  induction text generalizing front back with
  | nil => cases split
  | cons c rest ih =>
    unfold rsplit at split
    cases found : rsplit separator rest with
    | some parts =>
      obtain ⟨before, after⟩ := parts
      rw [found] at split
      obtain ⟨rfl, rfl⟩ := Prod.mk.inj (Option.some.inj split)
      obtain ⟨same, clean⟩ := ih found
      exact ⟨by rw [same]; rfl, clean⟩
    | none =>
      rw [found] at split
      dsimp only at split
      split at split
      · rename_i here
        obtain ⟨rfl, rfl⟩ := Prod.mk.inj (Option.some.inj split)
        exact ⟨by rw [here]; rfl, rsplit_eq_none.mp found⟩
      · cases split

omit [DecidableEq α] in
/-- Lists that first have the separator in one place have the same parts. -/
theorem append_cancel {front other back rest : List α} (clean : separator ∉ front)
    (also : separator ∉ other) (same : front ++ separator :: back = other ++ separator :: rest) :
    front = other ∧ back = rest := by
  induction front generalizing other with
  | nil =>
    cases other with
    | nil => exact ⟨rfl, (List.cons.inj same).2⟩
    | cons c other =>
      have first : separator = c := (List.cons.inj same).1
      simp [first] at also
  | cons c front ih =>
    cases other with
    | nil =>
      have first : c = separator := (List.cons.inj same).1
      simp [first] at clean
    | cons d other =>
      obtain ⟨first, tail⟩ := List.cons.inj same
      obtain ⟨fronts, backs⟩ := ih (fun member => clean (List.mem_cons_of_mem _ member))
        (fun member => also (List.mem_cons_of_mem _ member)) tail
      exact ⟨by rw [first, fronts], backs⟩

/-! ## Where else a text can be split -/

section Elsewhere

omit [DecidableEq α]

/-- A part with more behind the separator is not all of it but the last. -/
theorem mem_dropLast_append (front : List α) {rest : List α} (filled : rest ≠ []) :
    separator ∈ (front ++ separator :: rest).dropLast := by
  rw [List.dropLast_append_of_ne_nil (List.cons_ne_nil _ _), List.dropLast_cons_of_ne_nil filled]
  exact List.mem_append_right _ List.mem_cons_self

/-- A part with more in front of the separator is not all of it but the first. -/
theorem mem_tail_append {front : List α} (rest : List α) (filled : front ≠ []) :
    separator ∈ (front ++ separator :: rest).tail := by
  rw [List.tail_append_of_ne_nil filled]
  exact List.mem_append_right _ List.mem_cons_self

/-- With no later separator, any other split has the separator earlier. -/
theorem exists_front {front other back rest : List α} (clean : separator ∉ back.dropLast)
    (filled : rest ≠ []) (same : front ++ separator :: back = other ++ separator :: rest) :
    ∃ middle, front = other ++ middle := by
  rcases List.append_eq_append_iff.mp same with ⟨middle, _, later⟩ | ⟨middle, earlier, _⟩
  · cases middle with
    | nil => exact ⟨[], by simp_all⟩
    | cons c middle =>
      have parts : back = middle ++ separator :: rest := (List.cons.inj later).2
      rw [parts] at clean
      exact absurd (mem_dropLast_append middle filled) clean
  · exact ⟨middle, earlier⟩

/-- With no earlier separator, any other split has the separator later. -/
theorem exists_back {front other back rest : List α} (clean : separator ∉ front.tail)
    (filled : other ≠ []) (same : front ++ separator :: back = other ++ separator :: rest) :
    ∃ middle, back = middle ++ rest := by
  rcases List.append_eq_append_iff.mp same with ⟨middle, _, later⟩ | ⟨middle, earlier, later⟩
  · cases middle with
    | nil => exact ⟨[], (List.cons.inj later).2⟩
    | cons c middle =>
      have parts : back = middle ++ separator :: rest := (List.cons.inj later).2
      exact ⟨middle ++ [separator], by rw [parts]; simp⟩
  · cases middle with
    | nil => exact ⟨[], (List.cons.inj later).2.symm⟩
    | cons c middle =>
      have here : c = separator := (List.cons.inj later).1.symm
      rw [earlier, here] at clean
      exact absurd (mem_tail_append middle filled) clean

/-- Two parts with text are the only ones of their text exactly when the separator stands nowhere
else but at its ends. -/
theorem unique_iff {front back : List α} (begins : front ≠ []) (ends : back ≠ []) :
    (∀ other rest, other ≠ [] → rest ≠ [] →
        other ++ separator :: rest = front ++ separator :: back → other = front ∧ rest = back) ↔
      separator ∉ front.tail ∧ separator ∉ back.dropLast := by
  constructor
  · intro unique
    constructor
    · intro inside
      obtain ⟨c, tail, rfl⟩ := List.exists_cons_of_ne_nil begins
      obtain ⟨one, two, parts⟩ := List.append_of_mem inside
      have parts : tail = one ++ separator :: two := parts
      have shorter := (unique (c :: one) (two ++ separator :: back) (List.cons_ne_nil _ _)
        (by simp) (by simp [parts])).1
      have lengths := congrArg List.length shorter
      rw [parts] at lengths
      simp only [List.length_cons, List.length_append] at lengths
      omega
    · intro inside
      obtain ⟨one, two, parts⟩ := List.append_of_mem inside
      have whole : ∃ last, back = one ++ separator :: (two ++ [last]) := by
        refine ⟨back.getLast ends, ?_⟩
        calc
          back = back.dropLast ++ [back.getLast ends] := (List.dropLast_append_getLast ends).symm
          _ = one ++ separator :: (two ++ [back.getLast ends]) := by rw [parts]; simp
      obtain ⟨last, whole⟩ := whole
      have longer := (unique (front ++ separator :: one) (two ++ [last])
        (by simp) (by simp) (by rw [whole]; simp)).1
      have lengths := congrArg List.length longer
      simp only [List.length_cons, List.length_append] at lengths
      omega
  · rintro ⟨first, last⟩ other rest filled also same
    obtain ⟨middle, longer⟩ := exists_front last also same.symm
    obtain ⟨again, shorter⟩ := exists_back first filled same.symm
    have lengths := congrArg List.length same
    have fronts := congrArg List.length longer
    have backs := congrArg List.length shorter
    simp only [List.length_append, List.length_cons] at lengths fronts backs
    have none : middle = [] := List.eq_nil_of_length_eq_zero (by omega)
    have nothing : again = [] := List.eq_nil_of_length_eq_zero (by omega)
    rw [longer, shorter, none, nothing]
    exact ⟨by simp, by simp⟩

/-- Two splits of one text at a pair of letters: at one place, the second later, or the second
earlier. -/
theorem append_pair {first second : α} (differ : first ≠ second) {front other back rest : List α}
    (same : front ++ first :: second :: back = other ++ first :: second :: rest) :
    (front = other ∧ back = rest) ∨
      (∃ middle, other = front ++ first :: second :: middle ∧
        back = middle ++ first :: second :: rest) ∨
      ∃ middle, front = other ++ first :: second :: middle ∧
        rest = middle ++ first :: second :: back := by
  -- The second split is not in the middle of the pair, as its letters differ.
  have after : ∀ {middle one two : List α},
      first :: second :: one = middle ++ first :: second :: two →
        (middle = [] ∧ one = two) ∨ ∃ between, middle = first :: second :: between ∧
          one = between ++ first :: second :: two := by
    intro middle one two later
    match middle with
    | [] => exact .inl ⟨rfl, (List.cons.inj (List.cons.inj later).2).2⟩
    | [c] => exact absurd (List.cons.inj (List.cons.inj later).2).1.symm differ
    | c :: d :: between =>
      obtain ⟨begins, later⟩ := List.cons.inj later
      obtain ⟨follows, later⟩ := List.cons.inj later
      exact .inr ⟨between, by rw [begins, follows], later⟩
  rcases List.append_eq_append_iff.mp same with ⟨middle, longer, later⟩ | ⟨middle, shorter, later⟩
  · rcases after later with ⟨rfl, equal⟩ | ⟨between, rfl, parts⟩
    · exact .inl ⟨by simp [longer], equal⟩
    · exact .inr (.inl ⟨between, longer, parts⟩)
  · rcases after later with ⟨rfl, equal⟩ | ⟨between, rfl, parts⟩
    · exact .inl ⟨by simp [shorter], equal.symm⟩
    · exact .inr (.inr ⟨between, shorter, parts⟩)

end Elsewhere

end Separator
