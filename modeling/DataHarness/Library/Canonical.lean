import Mathlib.Data.List.Perm.Subperm
import Mathlib.Data.List.Sort

/-!
# Sets written as sorted lists

A list without its repetitions, sorted by a total preorder: what `sorted(set(values), key=…)` is of
a list. A stable sort leaves elements that tie in the order they came, so the list written for a set
depends on the set alone exactly when no two of its elements tie (`canonical_eq_iff`).
-/

namespace Canonical

variable {α : Type} [DecidableEq α] (rank : α → α → Prop) [DecidableRel rank]

/-- The first occurrences, in order of rank. -/
def canonical (values : List α) : List α := values.eraseDups.insertionSort rank

/-- Two lists have the same elements. -/
def SameSet (values others : List α) : Prop := ∀ item, item ∈ others ↔ item ∈ values

/-- No two elements of a list tie. -/
def Untied (values : List α) : Prop :=
  ∀ left ∈ values, ∀ right ∈ values, rank left right → rank right left → left = right

variable {rank} {values others : List α}

/-- The first occurrences are distinct. -/
theorem nodup_eraseDups (values : List α) : values.eraseDups.Nodup := by
  match values with
  | [] => exact List.nodup_nil
  | first :: rest =>
    have shorter : (rest.filter fun item => !item == first).length < (first :: rest).length :=
      Nat.lt_succ_of_le (List.length_filter_le _ _)
    rw [List.eraseDups_cons, List.nodup_cons, List.mem_eraseDups]
    exact ⟨by simp, nodup_eraseDups _⟩
termination_by values.length
decreasing_by exact shorter

/-- The sorted list has the elements of the list. -/
@[simp] theorem mem_canonical {item : α} : item ∈ canonical rank values ↔ item ∈ values := by
  simp [canonical]

/-- The sorted list has no element twice. -/
theorem nodup_canonical : (canonical rank values).Nodup :=
  (List.perm_insertionSort _ _).nodup_iff.mpr (nodup_eraseDups values)

/-- Of a list that starts with two different elements, the first comes first when they tie. -/
theorem sublist_canonical {first second : α} {rest : List α} (different : first ≠ second)
    (before : rank first second) :
    [first, second].Sublist (canonical rank (first :: second :: rest)) := by
  refine List.pair_sublist_insertionSort before ?_
  rw [List.eraseDups_cons]
  refine List.Sublist.cons_cons first (List.singleton_sublist.mpr ?_)
  simp [Ne.symm different]

/-- Two elements do not stand in both orders in a list without repetitions. -/
theorem eq_of_sublists {left right : α} {listed : List α} (once : listed.Nodup)
    (one : [left, right].Sublist listed) (other : [right, left].Sublist listed) : left = right := by
  have count : (listed.filter (· ∈ [left, right])).length ≤ 2 := by
    have inside : listed.filter (· ∈ [left, right]) ⊆ [left, right] := by
      intro item member
      simpa using List.of_mem_filter member
    exact ((once.filter _).subperm inside).length_le
  have first := one.filter (· ∈ [left, right])
  have second := other.filter (· ∈ [left, right])
  simp only [List.mem_cons, List.not_mem_nil, or_false, decide_true, true_or, or_true,
    List.filter_cons_of_pos, List.filter_nil] at first second count
  have same := (first.eq_of_length_le count).trans (second.eq_of_length_le count).symm
  exact (List.cons.inj same).1

variable [Std.Total rank] [IsTrans α rank]

/-- Lists with the same elements, no two of which tie, are sorted alike. -/
theorem canonical_eq (untied : Untied rank values) (same : SameSet values others) :
    canonical rank others = canonical rank values := by
  apply List.Perm.eq_of_pairwise _ (List.pairwise_insertionSort rank _)
    (List.pairwise_insertionSort rank _)
  · apply (List.perm_ext_iff_of_nodup nodup_canonical nodup_canonical).mpr
    intro item
    rw [mem_canonical, mem_canonical, same]
  · intro left right one other before after
    exact untied left ((same left).mp (mem_canonical.mp one)) right (mem_canonical.mp other) before
      after

omit [Std.Total rank] [IsTrans α rank] in
/-- When every list with the same elements is sorted alike, no two elements tie. -/
theorem untied_of_canonical_eq
    (alike : ∀ others, SameSet values others → canonical rank others = canonical rank values) :
    Untied rank values := by
  intro left one right other before after
  by_contra different
  have same : ∀ first ∈ values, ∀ second ∈ values, SameSet values (first :: second :: values) := by
    intro first here second there item
    simp only [List.mem_cons]
    constructor
    · rintro (rfl | rfl | inside)
      · exact here
      · exact there
      · exact inside
    · exact fun inside => .inr (.inr inside)
  have forward := @sublist_canonical _ _ rank _ left right values different before
  have backward := @sublist_canonical _ _ rank _ right left values (Ne.symm different) after
  rw [alike _ (same left one right other)] at forward
  rw [alike _ (same right other left one)] at backward
  exact different (eq_of_sublists nodup_canonical forward backward)

/-- The sorted list depends on the set alone exactly when no two elements tie. -/
theorem canonical_eq_iff :
    (∀ others, SameSet values others → canonical rank others = canonical rank values) ↔
      Untied rank values :=
  ⟨untied_of_canonical_eq, fun untied _ same => canonical_eq untied same⟩

end Canonical
