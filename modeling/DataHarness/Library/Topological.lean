import Mathlib.Data.Fintype.Card
import Mathlib.Data.Set.Finite.List
import Mathlib.Logic.Relation

/-!
# Work in the order of references

Items refer to other items, and some items are known. An item is broken when it reaches an item
that is not known, or one that reaches itself. An item is grounded when it is known and all it
refers to is grounded: what is done only after everything it refers to is grounded. Of finitely
many items that are left, one can be done next unless one of them is broken.
-/

namespace Topological

open Relation

variable {α : Type} {refers : α → α → Prop} {known : α → Prop}

/-- An item reaches an item that is not known or that reaches itself. -/
def Broken (refers : α → α → Prop) (known : α → Prop) (item : α) : Prop :=
  ∃ other, ReflTransGen refers item other ∧ (¬ known other ∨ TransGen refers other other)

/-- An item is known, and so is all it refers to, down to items that refer to nothing. -/
inductive Grounded (refers : α → α → Prop) (known : α → Prop) : α → Prop
  | intro {item : α} (here : known item)
      (below : ∀ other, refers item other → Grounded refers known other) :
      Grounded refers known item

namespace Grounded

/-- A grounded item is known. -/
theorem here {item : α} (grounded : Grounded refers known item) : known item := by
  cases grounded with
  | intro here below => exact here

/-- What a grounded item refers to is grounded. -/
theorem next {item other : α} (grounded : Grounded refers known item)
    (refer : refers item other) : Grounded refers known other := by
  cases grounded with
  | intro here below => exact below other refer

/-- What a grounded item reaches is grounded. -/
theorem reached {item other : α} (grounded : Grounded refers known item)
    (reach : ReflTransGen refers item other) : Grounded refers known other := by
  induction reach with
  | refl => exact grounded
  | tail _ last ih => exact ih.next last

/-- A grounded item does not reach itself. -/
theorem not_cyclic {item : α} (grounded : Grounded refers known item) :
    ¬ TransGen refers item item := by
  induction grounded with
  | intro here below ih =>
    intro cycle
    obtain ⟨later, first, rest⟩ := TransGen.head'_iff.mp cycle
    -- The cycle can be entered one item later.
    exact ih later first (TransGen.tail' rest first)

/-- A grounded item is not broken. -/
theorem not_broken {item : α} (grounded : Grounded refers known item) :
    ¬ Broken refers known item := by
  intro ⟨other, reach, fault⟩
  have there := grounded.reached reach
  cases fault with
  | inl missing => exact missing there.here
  | inr cycle => exact there.not_cyclic cycle

end Grounded

/-- Of the items that are left, one refers only to what is done, unless one of them is broken. -/
theorem exists_ready {pending : List α} {done : α → Prop} (left : pending ≠ [])
    (split : ∀ item, known item → done item ∨ item ∈ pending)
    (whole : ∀ item ∈ pending, ¬ Broken refers known item) :
    ∃ item ∈ pending, ∀ other, refers item other → done other := by
  let Left : Type := { item : α // item ∈ pending }
  let reaches : Left → Left → Prop := fun low high => TransGen refers high.1 low.1
  have finite : Finite Left := (List.finite_toSet pending).to_subtype
  have transitive : IsTrans Left reaches := ⟨fun _ _ _ first second => second.trans first⟩
  have irreflexive : Std.Irrefl reaches :=
    ⟨fun item cycle => whole item.1 item.2 ⟨item.1, .refl, .inr cycle⟩⟩
  have founded : WellFounded reaches := Finite.wellFounded_of_trans_of_irrefl reaches
  obtain ⟨first, among⟩ := List.exists_mem_of_ne_nil pending left
  obtain ⟨item, _, least⟩ := founded.has_min Set.univ ⟨⟨first, among⟩, trivial⟩
  refine ⟨item.1, item.2, ?_⟩
  intro other refer
  by_cases seen : known other
  · apply (split other seen).resolve_right
    intro later
    exact least ⟨other, later⟩ trivial (.single refer)
  · have broken : Broken refers known item.1 := ⟨other, .single refer, .inl seen⟩
    exact absurd broken (whole item.1 item.2)

end Topological
