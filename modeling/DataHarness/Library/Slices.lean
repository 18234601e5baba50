import Mathlib.Algebra.Order.Ring.Int
import Mathlib.Data.List.Basic

/-!
# Slices and windows of a list

A slice is what stands between two indices of a list, where a negative index counts from the end
and an index outside counts as the nearest end. Windows are the slices of one size from a start on.
While they are not empty they are consecutive, wherever they start: the end of one is the place the
next begins at. A window that starts below zero and ends behind it can be empty; one that starts at
zero or above never is.
-/

namespace Slices

variable {α : Type} {items : List α} {start middle stop size : Int}

/-! ## Slices -/

/-- The place of an index among so many items. -/
def place (length : Nat) (index : Int) : Nat :=
  if index < 0 then (index + length).toNat else min index.toNat length

/-- A place is among the items or behind the last one. -/
theorem place_le (length : Nat) (index : Int) : place length index ≤ length := by
  unfold place
  split <;> omega

/-- An index behind the items has the place behind the last one. -/
theorem place_of_le {length : Nat} {index : Int} (behind : (length : Int) ≤ index) :
    place length index = length := by
  unfold place
  split <;> omega

/-- `items[start:stop]`. -/
def slice (items : List α) (start stop : Int) : List α :=
  (items.take (place items.length stop)).drop (place items.length start)

/-- The length of a slice. -/
theorem length_slice : (slice items start stop).length =
    place items.length stop - place items.length start := by
  have within := place_le items.length stop
  unfold slice
  rw [List.length_drop, List.length_take, min_eq_left within]

/-- A slice has items where it ends behind its start. -/
theorem slice_ne_nil_iff : slice items start stop ≠ [] ↔
    place items.length start < place items.length stop := by
  rw [← List.length_pos_iff, length_slice]
  exact Nat.sub_pos_iff_lt

/-- A slice is as long as its bounds are apart, at most. -/
theorem length_slice_le (sized : 0 ≤ size) :
    ((slice items start (start + size)).length : Int) ≤ size := by
  rw [length_slice]
  unfold place
  split <;> split <;> omega

/-- Slices that follow each other are one. -/
theorem slice_append (first : place items.length start ≤ place items.length middle)
    (second : place items.length middle ≤ place items.length stop) :
    slice items start middle ++ slice items middle stop = slice items start stop := by
  have within := place_le items.length stop
  unfold slice
  generalize place items.length start = low at *
  generalize place items.length middle = between at *
  generalize place items.length stop = high at *
  have shorter : items.take between = (items.take high).take between := by
    rw [List.take_take, min_eq_left second]
  have length : low ≤ ((items.take high).take between).length := by
    rw [List.length_take, List.length_take]
    omega
  rw [shorter, ← List.drop_append_of_le_length length, List.take_append_drop]

/-- A slice without its end is empty. -/
theorem slice_self : slice items start start = [] := by
  by_contra some
  exact absurd (slice_ne_nil_iff.mp some) (lt_irrefl _)

/-- A slice of nothing is empty. -/
theorem slice_nil : slice ([] : List α) start stop = [] := by
  unfold slice
  rw [List.take_nil, List.drop_nil]

/-- A slice up to the end is what is left behind its start. -/
theorem slice_of_le (behind : (items.length : Int) ≤ stop) :
    slice items start stop = items.drop (place items.length start) := by
  unfold slice
  rw [place_of_le behind, List.take_length]

/-! ## Steps -/

/-- So many numbers, a step apart. -/
def walk (step : Int) : Nat → Int → List Int
  | 0, _ => []
  | count + 1, start => start :: walk step count (start + step)

/-- `range(start, stop, step)` of a positive step. -/
def steps (start stop step : Int) : List Int :=
  walk step ((stop - start + step - 1) / step).toNat start

/-- There are no steps behind the stop. -/
theorem steps_of_le (sized : 0 < size) (behind : stop ≤ start) : steps start stop size = [] := by
  have none : ((stop - start + size - 1) / size).toNat = 0 := by
    have few : (stop - start + size - 1) / size < 1 := by
      apply Int.ediv_lt_of_lt_mul sized
      omega
    omega
  unfold steps
  rw [none]
  rfl

/-- Before the stop there is a step, and those behind it. -/
theorem steps_of_lt (sized : 0 < size) (before : start < stop) :
    steps start stop size = start :: steps (start + size) stop size := by
  have one : (stop - start + size - 1) / size = (stop - (start + size) + size - 1) / size + 1 := by
    have whole : stop - start + size - 1 = stop - (start + size) + size - 1 + 1 * size := by omega
    rw [whole, Int.add_mul_ediv_right _ _ (ne_of_gt sized)]
  have some : 0 ≤ (stop - (start + size) + size - 1) / size := by
    apply Int.ediv_nonneg
    · omega
    · exact le_of_lt sized
  have count : ((stop - start + size - 1) / size).toNat =
      ((stop - (start + size) + size - 1) / size).toNat + 1 := by omega
  unfold steps
  rw [count]
  rfl

/-- What holds behind the stop, and of a start if it holds a step later, holds of every start. -/
theorem steps_induction {motive : Int → Prop} (stop : Int) (sized : 0 < size)
    (behind : ∀ start, stop ≤ start → motive start)
    (before : ∀ start, start < stop → motive (start + size) → motive start) (start : Int) :
    motive start := by
  generalize left : (stop - start).toNat = distance
  induction distance using Nat.strongRecOn generalizing start with
  | ind distance ih =>
    rcases lt_or_ge start stop with less | reached
    · exact before start less (ih (stop - (start + size)).toNat (by omega) (start + size) rfl)
    · exact behind start reached

/-! ## Windows -/

/-- The slices of a size from a start on. -/
def windows (items : List α) (size start : Int) : List (List α) :=
  (steps start items.length size).map fun index => slice items index (index + size)

/-- Behind the items there are no windows. -/
theorem windows_of_le (sized : 0 < size) (behind : (items.length : Int) ≤ start) :
    windows items size start = [] := by
  unfold windows
  rw [steps_of_le sized behind, List.map_nil]

/-- Before their end there is a window, and those behind it. -/
theorem windows_of_lt (sized : 0 < size) (before : start < items.length) :
    windows items size start =
      slice items start (start + size) :: windows items size (start + size) := by
  unfold windows
  rw [steps_of_lt sized before, List.map_cons]

/-- A window is as long as the size, at most. -/
theorem length_of_mem_windows (sized : 0 < size) {window : List α}
    (member : window ∈ windows items size start) : (window.length : Int) ≤ size := by
  obtain ⟨index, -, slice⟩ := List.mem_map.mp member
  rw [← slice]
  exact length_slice_le (le_of_lt sized)

/-- Some sizes behind a start are a size and the rest of them. -/
theorem start_succ (start size : Int) (count : Nat) :
    start + (count + 1 : Nat) * size = start + size + count * size := by
  rw [Nat.cast_succ, Int.add_mul, Int.one_mul]
  omega

/-- First windows that are not empty are one slice. -/
theorem flatten_take_windows (sized : 0 < size) {count : Nat} {start : Int}
    (few : count ≤ (windows items size start).length)
    (full : ∀ window ∈ (windows items size start).take count, window ≠ []) :
    ((windows items size start).take count).flatten =
        slice items start (start + count * size) ∧
      place items.length start ≤ place items.length (start + count * size) := by
  induction count generalizing start with
  | zero =>
    rw [Nat.cast_zero, Int.zero_mul, Int.add_zero, List.take_zero]
    exact ⟨slice_self.symm, le_refl _⟩
  | succ count ih =>
    rcases lt_or_ge start items.length with before | behind
    · rw [windows_of_lt sized before] at few full ⊢
      rw [List.length_cons] at few
      rw [List.take_succ_cons] at full ⊢
      have first := slice_ne_nil_iff.mp (full _ List.mem_cons_self)
      obtain ⟨rest, ordered⟩ := @ih (start + size) (Nat.le_of_succ_le_succ few)
        fun window member => full window (List.mem_cons_of_mem _ member)
      rw [start_succ]
      refine ⟨?_, (le_of_lt first).trans ordered⟩
      rw [List.flatten_cons, rest, slice_append (le_of_lt first) ordered]
    · rw [windows_of_le sized behind] at few
      cases few

/-- So is a first part of the windows. -/
theorem flatten_of_prefix (sized : 0 < size) {front : List (List α)}
    (first : front <+: windows items size start) (full : ∀ window ∈ front, window ≠ []) :
    front.flatten = slice items start (start + front.length * size) := by
  have same := List.prefix_iff_eq_take.mp first
  have one := (flatten_take_windows sized first.length_le (same ▸ full)).1
  rw [← same] at one
  exact one

/-- Windows that are not empty are all the items behind their start. -/
theorem flatten_windows (sized : 0 < size) (start : Int)
    (full : ∀ window ∈ windows items size start, window ≠ []) :
    (windows items size start).flatten = items.drop (place items.length start) := by
  induction start using steps_induction items.length sized with
  | behind start behind =>
    rw [windows_of_le sized behind, place_of_le behind, List.drop_length]
    rfl
  | before start before ih =>
    rw [windows_of_lt sized before] at full ⊢
    have first := slice_ne_nil_iff.mp (full _ List.mem_cons_self)
    have rest := ih fun window member => full window (List.mem_cons_of_mem _ member)
    have last := place_of_le (le_refl (items.length : Int))
    have within := place_le items.length (start + size)
    rw [List.flatten_cons, rest, ← slice_of_le (le_refl (items.length : Int)),
      ← slice_of_le (le_refl (items.length : Int)),
      slice_append (le_of_lt first) (within.trans (le_of_eq last.symm))]

/-- Windows from zero or above are not empty. -/
theorem windows_ne_nil (sized : 0 < size) (start : Int) (forward : 0 ≤ start) :
    ∀ window ∈ windows items size start, window ≠ [] := by
  induction start using steps_induction items.length sized with
  | behind start behind =>
    rw [windows_of_le sized behind]
    intro window member
    cases member
  | before start before ih =>
    rw [windows_of_lt sized before]
    intro window member
    rcases List.mem_cons.mp member with same | later
    · rw [same, slice_ne_nil_iff]
      unfold place
      rw [if_neg (by omega), if_neg (by omega)]
      omega
    · exact ih (by omega) window later

end Slices
