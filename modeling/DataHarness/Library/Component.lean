import Mathlib.Data.List.Nodup
import Mathlib.Data.List.Perm.Subperm
import Mathlib.Logic.Relation

/-!
# Growing a cluster along edges until nothing changes

A cluster grows by passes over a list of edges; each pass adds both ends of every edge that
touches the cluster. The edges may differ from pass to pass, as they do when they are read
again each time. The loop has enough fuel when the ends of all edges lie in a finite list
(`grow_stable`): its last pass changed nothing, so its result is closed under the edges of
that pass, and whatever is connected by edges among them stays on one side of it
(`closed_connected`).
-/

namespace Component

variable {α : Type}

/-- Both ends of every edge lie on one side of the cluster. -/
def Closed (edges : List (α × α)) (cluster : List α) : Prop :=
  ∀ edge ∈ edges, edge.1 ∈ cluster ↔ edge.2 ∈ cluster

/-- The ends of a path of edges lie on one side of a closed cluster. -/
theorem closed_connected {path : List (α × α)} {cluster : List α} (closed : Closed path cluster)
    {a b : α} (connected : Relation.EqvGen (fun x y => (x, y) ∈ path) a b) :
    a ∈ cluster ↔ b ∈ cluster := by
  induction connected with
  | rel x y edge => exact closed (x, y) edge
  | refl x => exact Iff.rfl
  | symm x y _ ih => exact ih.symm
  | trans x y z _ _ first second => exact first.trans second

/-- A path over one more edge does without it, or crosses it in one direction. -/
theorem connected_insert {related : α → α → Prop} {a b x y : α}
    (connected : Relation.EqvGen (fun x y => related x y ∨ x = a ∧ y = b) x y) :
    Relation.EqvGen related x y ∨
      Relation.EqvGen related x a ∧ Relation.EqvGen related b y ∨
        Relation.EqvGen related x b ∧ Relation.EqvGen related a y := by
  induction connected with
  | rel x y edge =>
    rcases edge with old | ⟨rfl, rfl⟩
    · exact .inl (.rel x y old)
    · exact .inr (.inl ⟨.refl x, .refl y⟩)
  | refl x => exact .inl (.refl x)
  | symm x y _ ih =>
    rcases ih with direct | ⟨left, right⟩ | ⟨left, right⟩
    · exact .inl (direct.symm _ _)
    · exact .inr (.inr ⟨right.symm _ _, left.symm _ _⟩)
    · exact .inr (.inl ⟨right.symm _ _, left.symm _ _⟩)
  | trans x y z _ _ first second =>
    rcases first with direct | ⟨left, right⟩ | ⟨left, right⟩
    · rcases second with later | ⟨before, after⟩ | ⟨before, after⟩
      · exact .inl (direct.trans _ _ _ later)
      · exact .inr (.inl ⟨direct.trans _ _ _ before, after⟩)
      · exact .inr (.inr ⟨direct.trans _ _ _ before, after⟩)
    · rcases second with later | ⟨before, after⟩ | ⟨before, after⟩
      · exact .inr (.inl ⟨left, right.trans _ _ _ later⟩)
      · exact .inr (.inl ⟨left, after⟩)
      · exact .inl (left.trans _ _ _ after)
    · rcases second with later | ⟨before, after⟩ | ⟨before, after⟩
      · exact .inr (.inr ⟨left, right.trans _ _ _ later⟩)
      · exact .inl (left.trans _ _ _ after)
      · exact .inr (.inr ⟨left, after⟩)

variable [DecidableEq α]

/-- Add both ends of an edge that touches the cluster. -/
def extend (cluster : List α) (edge : α × α) : List α :=
  if edge.1 ∈ cluster ∨ edge.2 ∈ cluster then (cluster.insert edge.1).insert edge.2 else cluster

/-- One pass over the edges, the cluster growing on the way. -/
def pass (edges : List (α × α)) (cluster : List α) : List α := edges.foldl extend cluster

/-- Passes until one changes nothing, with the number of the next pass. -/
def grow (edges : Nat → List (α × α)) : Nat → Nat → List α → List α × Nat
  | 0, read, cluster => (cluster, read)
  | fuel + 1, read, cluster =>
    let grown := pass (edges read) cluster
    if grown.length = cluster.length then (grown, read + 1) else grow edges fuel (read + 1) grown

/-! ## One pass -/

/-- An extended cluster has what it had, and the ends of the edge if it touches. -/
theorem mem_extend {cluster : List α} {edge : α × α} {x : α} :
    x ∈ extend cluster edge ↔
      x ∈ cluster ∨ (edge.1 ∈ cluster ∨ edge.2 ∈ cluster) ∧ (x = edge.1 ∨ x = edge.2) := by
  unfold extend
  split
  · rename_i touches
    simp only [List.mem_insert_iff, touches, true_and]
    tauto
  · rename_i apart
    simp only [apart, false_and, or_false]

/-- An extended cluster has no duplicates if the cluster has none. -/
theorem nodup_extend {cluster : List α} (distinct : cluster.Nodup) (edge : α × α) :
    (extend cluster edge).Nodup := by
  unfold extend
  split
  · exact List.Nodup.insert (List.Nodup.insert distinct)
  · exact distinct

/-- Extending never makes a cluster shorter, and leaves it as it is when it is no longer. -/
theorem length_extend (cluster : List α) (edge : α × α) :
    cluster.length < (extend cluster edge).length ∨ extend cluster edge = cluster := by
  unfold extend
  split
  · have first := List.length_le_length_insert (l := cluster) (a := edge.1)
    by_cases left : edge.1 ∈ cluster
    · rw [List.insert_of_mem left]
      by_cases right : edge.2 ∈ cluster
      · rw [List.insert_of_mem right]
        exact .inr rfl
      · rw [List.length_insert_of_not_mem right]
        exact .inl (Nat.lt_succ_self _)
    · apply Or.inl
      have grown := List.length_insert_of_not_mem left
      have second := List.length_le_length_insert (l := cluster.insert edge.1) (a := edge.2)
      omega
  · exact .inr rfl

/-- A pass keeps what the cluster has. -/
theorem subset_pass (edges : List (α × α)) (cluster : List α) : cluster ⊆ pass edges cluster := by
  induction edges generalizing cluster with
  | nil => exact List.Subset.refl _
  | cons edge edges ih =>
    have first : cluster ⊆ extend cluster edge := fun x member => mem_extend.mpr (.inl member)
    exact List.Subset.trans first (ih _)

/-- A pass keeps a cluster without duplicates. -/
theorem nodup_pass (edges : List (α × α)) {cluster : List α} (distinct : cluster.Nodup) :
    (pass edges cluster).Nodup := by
  induction edges generalizing cluster with
  | nil => exact distinct
  | cons edge edges ih => exact ih (nodup_extend distinct edge)

/-- A pass makes a cluster longer or changes nothing. -/
theorem length_pass (edges : List (α × α)) (cluster : List α) :
    cluster.length < (pass edges cluster).length ∨ pass edges cluster = cluster := by
  induction edges generalizing cluster with
  | nil => exact .inr rfl
  | cons edge edges ih =>
    have rest := ih (extend cluster edge)
    change cluster.length < (pass edges (extend cluster edge)).length ∨
      pass edges (extend cluster edge) = cluster
    rcases length_extend cluster edge with longer | same
    · apply Or.inl
      rcases rest with more | still
      · omega
      · rw [still]
        exact longer
    · rw [same] at rest ⊢
      exact rest

/-- A pass adds only ends of edges. -/
theorem mem_pass_within {edges : List (α × α)} {cluster within : List α}
    (inside : cluster ⊆ within) (ends : ∀ edge ∈ edges, edge.1 ∈ within ∧ edge.2 ∈ within) :
    pass edges cluster ⊆ within := by
  induction edges generalizing cluster with
  | nil => exact inside
  | cons edge edges ih =>
    apply ih
    · intro x member
      rcases mem_extend.mp member with old | ⟨-, rfl | rfl⟩
      · exact inside old
      · exact (ends edge (by simp)).1
      · exact (ends edge (by simp)).2
    · exact fun other member => ends other (by simp [member])

/-- What a pass leaves unchanged is closed under its edges. -/
theorem closed_of_pass {edges : List (α × α)} {cluster : List α}
    (same : pass edges cluster = cluster) : Closed edges cluster := by
  induction edges with
  | nil => exact fun _ member => nomatch member
  | cons edge edges ih =>
    change pass edges (extend cluster edge) = cluster at same
    have first : extend cluster edge = cluster := by
      rcases length_extend cluster edge with longer | still
      · rcases length_pass edges (extend cluster edge) with more | still
        · rw [same] at more
          omega
        · rw [still] at same
          exact same
      · exact still
    rw [first] at same
    intro other member
    rcases List.mem_cons.mp member with rfl | rest
    · constructor
      · intro left
        rw [← first]
        exact mem_extend.mpr (.inr ⟨.inl left, .inr rfl⟩)
      · intro right
        rw [← first]
        exact mem_extend.mpr (.inr ⟨.inr right, .inl rfl⟩)
    · exact ih same other rest

/-! ## The loop -/

variable {edges : Nat → List (α × α)}

/-- With enough fuel the loop ends with a pass that changed nothing. -/
theorem grow_stable {within : List α}
    (ends : ∀ read, ∀ edge ∈ edges read, edge.1 ∈ within ∧ edge.2 ∈ within) {fuel : Nat}
    {read : Nat} {cluster : List α} (distinct : cluster.Nodup) (inside : cluster ⊆ within)
    (enough : within.length < fuel + cluster.length) :
    ∃ last, read ≤ last ∧ (grow edges fuel read cluster).2 = last + 1 ∧
      cluster ⊆ (grow edges fuel read cluster).1 ∧
        Closed (edges last) (grow edges fuel read cluster).1 := by
  induction fuel generalizing read cluster with
  | zero =>
    have bound := (List.subperm_of_subset distinct inside).length_le
    omega
  | succ fuel ih =>
    have kept := subset_pass (edges read) cluster
    unfold grow
    simp only
    split
    · rename_i same
      have still : pass (edges read) cluster = cluster := by
        rcases length_pass (edges read) cluster with longer | still
        · omega
        · exact still
      refine ⟨read, Nat.le_refl _, rfl, kept, ?_⟩
      rw [still]
      exact closed_of_pass still
    · rename_i changed
      have longer : cluster.length < (pass (edges read) cluster).length := by
        rcases length_pass (edges read) cluster with longer | still
        · exact longer
        · rw [still] at changed
          exact absurd rfl changed
      obtain ⟨last, later, reads, more, closed⟩ := @ih (read + 1) (pass (edges read) cluster)
        (nodup_pass (edges read) distinct) (mem_pass_within inside (ends read)) (by omega)
      exact ⟨last, by omega, reads, List.Subset.trans kept more, closed⟩

/-- The loop with no bound on its passes: the cluster it ends with, and the number of the next
pass. -/
inductive Ends (edges : Nat → List (α × α)) : Nat → List α → List α × Nat → Prop
  | stop {read : Nat} {cluster : List α} :
    (pass (edges read) cluster).length = cluster.length →
      Ends edges read cluster (pass (edges read) cluster, read + 1)
  | again {read : Nat} {cluster : List α} {result : List α × Nat} :
    (pass (edges read) cluster).length ≠ cluster.length →
      Ends edges (read + 1) (pass (edges read) cluster) result → Ends edges read cluster result

/-- The loop ends in one way. -/
theorem Ends.unique {read : Nat} {cluster : List α} {left right : List α × Nat}
    (first : Ends edges read cluster left) (second : Ends edges read cluster right) :
    left = right := by
  induction first with
  | stop same =>
    cases second with
    | stop => rfl
    | again different => exact absurd same different
  | again different _ ih =>
    cases second with
    | stop same => exact absurd same different
    | again _ rest => exact ih rest

/-- With enough fuel the loop ends as it does without a bound. -/
theorem ends_grow {within : List α}
    (ends : ∀ read, ∀ edge ∈ edges read, edge.1 ∈ within ∧ edge.2 ∈ within) {fuel : Nat}
    {read : Nat} {cluster : List α} (distinct : cluster.Nodup) (inside : cluster ⊆ within)
    (enough : within.length < fuel + cluster.length) :
    Ends edges read cluster (grow edges fuel read cluster) := by
  induction fuel generalizing read cluster with
  | zero =>
    have bound := (List.subperm_of_subset distinct inside).length_le
    omega
  | succ fuel ih =>
    unfold grow
    dsimp only
    by_cases same : (pass (edges read) cluster).length = cluster.length
    · rw [if_pos same]
      exact .stop same
    · rw [if_neg same]
      have longer : cluster.length < (pass (edges read) cluster).length := by
        rcases length_pass (edges read) cluster with longer | still
        · exact longer
        · rw [still] at same
          exact absurd rfl same
      have more : within.length < fuel + (pass (edges read) cluster).length := by omega
      exact .again same
        (ih (nodup_pass (edges read) distinct) (mem_pass_within inside (ends read)) more)

/-! ## What is in a cluster -/

/-- Everything in a cluster is connected to one entity. -/
def Reached (related : α → α → Prop) (origin : α) (cluster : List α) : Prop :=
  ∀ x ∈ cluster, Relation.EqvGen related origin x

/-- A pass over related edges reaches only what is connected. -/
theorem Reached.pass {related : α → α → Prop} {origin : α} {edges : List (α × α)}
    {cluster : List α} (reached : Reached related origin cluster)
    (relates : ∀ edge ∈ edges, related edge.1 edge.2) :
    Reached related origin (pass edges cluster) := by
  induction edges generalizing cluster with
  | nil => exact reached
  | cons edge edges ih =>
    have joined := Relation.EqvGen.rel edge.1 edge.2 (relates edge List.mem_cons_self)
    apply ih
    · intro x member
      rcases mem_extend.mp member with old | ⟨left | right, rfl | rfl⟩
      · exact reached x old
      · exact reached _ left
      · exact (reached _ left).trans _ _ _ joined
      · exact (reached _ right).trans _ _ _ (joined.symm _ _)
      · exact reached _ right
    · exact fun other member => relates other (List.mem_cons_of_mem _ member)

/-- The loop reaches only what is connected. -/
theorem Reached.grow {related : α → α → Prop} {origin : α}
    (relates : ∀ read, ∀ edge ∈ edges read, related edge.1 edge.2) {fuel read : Nat}
    {cluster : List α} (reached : Reached related origin cluster) :
    Reached related origin (grow edges fuel read cluster).1 := by
  induction fuel generalizing read cluster with
  | zero => exact reached
  | succ fuel ih =>
    have grown := reached.pass (relates read)
    unfold Component.grow
    simp only
    split
    · exact grown
    · exact ih grown

end Component
