import Mathlib.Data.Int.Log
import Mathlib.Data.Rat.Floor
import Mathlib.Tactic.Linarith

/-!
# Rounding to binary floating-point numbers

Numbers of the format binary64 are taken as the rationals they are. A result that is none is rounded
to the nearest one, to the even one of two; results beyond the largest number of the format are not
considered. Rounding keeps the order of results, and so does the subtraction that is rounded.
-/

namespace Binary64

/-- The nearest integer, of two the even one. -/
def nearest (x : ℚ) : ℤ :=
  if x - ⌊x⌋ < 1 / 2 ∨ x - ⌊x⌋ = 1 / 2 ∧ ⌊x⌋ % 2 = 0 then ⌊x⌋ else ⌊x⌋ + 1

/-- An integer is nearest to itself. -/
@[simp] theorem nearest_intCast (n : ℤ) : nearest n = n := by
  simp [nearest]

/-- The nearest integer is the one below a number or the one above that. -/
theorem nearest_bounds (x : ℚ) : ⌊x⌋ ≤ nearest x ∧ nearest x ≤ ⌊x⌋ + 1 := by
  unfold nearest
  split <;> omega

/-- A larger number has no smaller nearest integer. -/
theorem nearest_mono {x y : ℚ} (le : x ≤ y) : nearest x ≤ nearest y := by
  rcases (Int.floor_mono le).lt_or_eq with below | same
  · have low := (nearest_bounds x).2
    have high := (nearest_bounds y).1
    omega
  · unfold nearest
    rw [← same]
    split
    · split <;> omega
    · rename_i above
      rw [if_neg]
      rintro (less | ⟨half, even⟩)
      · exact above (.inl (by linarith))
      · rcases (show x - ⌊x⌋ ≤ 1 / 2 by linarith).lt_or_eq with less | equal
        · exact above (.inl less)
        · exact above (.inr ⟨equal, even⟩)

/-- The exponent of the last of the 53 digits of a positive number, or of the smallest number. -/
def lastPlace (x : ℚ) : ℤ := max (Int.log 2 x - 52) (-1074)

/-- A number that is not negative, rounded. -/
def roundAbs (x : ℚ) : ℚ := nearest (x / 2 ^ lastPlace x) * 2 ^ lastPlace x

/-- Rounding does not make a number negative. -/
theorem roundAbs_nonneg {x : ℚ} (nonneg : 0 ≤ x) : 0 ≤ roundAbs x := by
  have unit : (0 : ℚ) < 2 ^ lastPlace x := zpow_pos (by norm_num) _
  have count : (0 : ℤ) ≤ nearest (x / 2 ^ lastPlace x) := by
    have whole := nearest_mono (show ((0 : ℤ) : ℚ) ≤ x / 2 ^ lastPlace x by
      rw [Int.cast_zero]
      positivity)
    rwa [nearest_intCast] at whole
  exact mul_nonneg (Int.cast_nonneg count) unit.le

/-- A power of two is a whole number of smaller ones. -/
theorem exists_multiple {small large : ℤ} (le : small ≤ large) :
    ∃ count : ℤ, (2 : ℚ) ^ large = count * 2 ^ small := by
  obtain ⟨n, more⟩ := Int.le.dest le
  refine ⟨2 ^ n, ?_⟩
  rw [← more, zpow_add₀ (by norm_num), zpow_natCast]
  push_cast
  ring

/-- A number at most a power of two is rounded to at most that, where its last place divides it. -/
theorem roundAbs_le {x : ℚ} {exponent : ℤ} (place : lastPlace x ≤ exponent)
    (le : x ≤ 2 ^ exponent) : roundAbs x ≤ 2 ^ exponent := by
  obtain ⟨count, multiple⟩ := exists_multiple place
  have unit : (0 : ℚ) < 2 ^ lastPlace x := zpow_pos (by norm_num) _
  rw [multiple] at le ⊢
  have whole := nearest_mono ((div_le_iff₀ unit).mpr le)
  rw [nearest_intCast] at whole
  exact mul_le_mul_of_nonneg_right (Int.cast_le.mpr whole) unit.le

/-- A number at least a power of two is rounded to at least that, where its last place divides
it. -/
theorem le_roundAbs {x : ℚ} {exponent : ℤ} (place : lastPlace x ≤ exponent)
    (le : 2 ^ exponent ≤ x) : 2 ^ exponent ≤ roundAbs x := by
  obtain ⟨count, multiple⟩ := exists_multiple place
  have unit : (0 : ℚ) < 2 ^ lastPlace x := zpow_pos (by norm_num) _
  rw [multiple] at le ⊢
  have whole := nearest_mono ((le_div_iff₀ unit).mpr le)
  rw [nearest_intCast] at whole
  exact mul_le_mul_of_nonneg_right (Int.cast_le.mpr whole) unit.le

/-- Rounding keeps the order of the numbers that are not negative. -/
theorem roundAbs_mono {x y : ℚ} (nonneg : 0 ≤ x) (le : x ≤ y) : roundAbs x ≤ roundAbs y := by
  rcases nonneg.eq_or_lt with rfl | positive
  · have zero : roundAbs 0 = 0 := by simp [roundAbs, nearest]
    rw [zero]
    exact roundAbs_nonneg le
  have logs := Int.log_mono_right (b := 2) positive le
  have places : lastPlace x ≤ lastPlace y := max_le_max_right _ (by omega)
  rcases places.eq_or_lt with same | less
  · unfold roundAbs
    rw [← same]
    have unit : (0 : ℚ) < 2 ^ lastPlace x := zpow_pos (by norm_num) _
    have whole := nearest_mono (div_le_div_of_nonneg_right le unit.le)
    exact mul_le_mul_of_nonneg_right (Int.cast_le.mpr whole) unit.le
  -- The power of two at the first digit of the larger number lies between the two.
  · unfold lastPlace at less
    have above : x ≤ 2 ^ Int.log 2 y := by
      have next := (Int.lt_zpow_succ_log_self (b := 2) one_lt_two x).le
      push_cast at next
      exact next.trans (zpow_le_zpow_right₀ one_le_two (by omega))
    have below : (2 : ℚ) ^ Int.log 2 y ≤ y := by
      have own := Int.zpow_log_le_self (b := 2) one_lt_two (positive.trans_le le)
      push_cast at own
      exact own
    exact (roundAbs_le (by unfold lastPlace; omega) above).trans
      (le_roundAbs (by unfold lastPlace; omega) below)

/-- A number, rounded. -/
def round (x : ℚ) : ℚ := if x < 0 then -roundAbs (-x) else roundAbs x

/-- Rounding keeps the order. -/
theorem round_mono : Monotone round := by
  intro x y le
  unfold round
  by_cases negative : y < 0
  · rw [if_pos (le.trans_lt negative), if_pos negative]
    exact neg_le_neg (roundAbs_mono (by linarith) (by linarith))
  · have upper := roundAbs_nonneg (not_lt.mp negative)
    rw [if_neg negative]
    by_cases lower : x < 0
    · rw [if_pos lower]
      have own := roundAbs_nonneg (x := -x) (by linarith)
      linarith
    · rw [if_neg lower]
      exact roundAbs_mono (not_lt.mp lower) le

/-- A number that is not positive is not rounded to a positive one. -/
theorem round_nonpos {x : ℚ} (nonpos : x ≤ 0) : round x ≤ 0 := by
  have zero : round 0 = 0 := by simp [round, roundAbs, nearest]
  rw [← zero]
  exact round_mono nonpos

end Binary64
