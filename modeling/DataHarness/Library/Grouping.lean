import Mathlib.Data.List.Dedup
import Mathlib.Data.List.Induction
import Mathlib.Data.List.Nodup
import Mathlib.Data.List.Perm.Basic

/-!
# Values grouped by a key

Groups in the order in which their keys came first, each with its values in the order they came:
what a dictionary of lists holds after `groups.setdefault(key, []).append(value)` for each value.
-/

namespace Grouping

variable {κ α : Type} [DecidableEq κ]

/-- Append a value to the group of a key, which is made when it is new. -/
def append : List (κ × List α) → κ → α → List (κ × List α)
  | [], key, value => [(key, [value])]
  | group :: groups, key, value =>
    if group.1 = key then (group.1, group.2 ++ [value]) :: groups
    else group :: append groups key value

/-- Values grouped one after the other. -/
def collect (key : α → κ) (values : List α) : List (κ × List α) :=
  values.foldl (fun groups value => append groups (key value) value) []

/-- The value that came last is appended last. -/
@[simp] theorem collect_snoc (key : α → κ) (values : List α) (value : α) :
    collect key (values ++ [value]) = append (collect key values) (key value) value := by
  simp [collect]

/-- The keys after a value is appended. -/
theorem mem_keys_append {groups : List (κ × List α)} {key other : κ} {value : α} :
    other ∈ (append groups key value).map Prod.fst ↔
      other = key ∨ other ∈ groups.map Prod.fst := by
  induction groups with
  | nil => simp [append]
  | cons group groups ih =>
    unfold append
    split
    · rename_i here
      simp only [List.map_cons, List.mem_cons, here]
      tauto
    · simp only [List.map_cons, List.mem_cons, ih]
      tauto

/-- Keys stay distinct. -/
theorem nodup_append {groups : List (κ × List α)} (distinct : (groups.map Prod.fst).Nodup)
    (key : κ) (value : α) : ((append groups key value).map Prod.fst).Nodup := by
  induction groups with
  | nil => simp [append]
  | cons group groups ih =>
    have parts := List.nodup_cons.mp distinct
    unfold append
    split
    · exact distinct
    · rename_i other
      refine List.nodup_cons.mpr ⟨?_, ih parts.2⟩
      intro member
      rcases mem_keys_append.mp member with same | inside
      · exact other same
      · exact parts.1 inside

/-- Grouping keeps every value once. -/
theorem perm_append (groups : List (κ × List α)) (key : κ) (value : α) :
    ((append groups key value).flatMap Prod.snd).Perm (groups.flatMap Prod.snd ++ [value]) := by
  induction groups with
  | nil => simp [append]
  | cons group groups ih =>
    unfold append
    split
    · simp only [List.flatMap_cons, List.append_assoc]
      exact List.Perm.append_left _ List.perm_append_comm
    · simp only [List.flatMap_cons, List.append_assoc]
      exact List.Perm.append_left _ ih

/-- A group stays when a value is appended, with all it has. -/
theorem exists_grown {groups : List (κ × List α)} {group : κ × List α} (among : group ∈ groups)
    (key : κ) (value : α) :
    ∃ grown ∈ append groups key value, grown.1 = group.1 ∧ group.2 ⊆ grown.2 := by
  induction groups with
  | nil => cases among
  | cons first groups ih =>
    unfold append
    rcases List.mem_cons.mp among with rfl | later
    · split
      · exact ⟨_, List.mem_cons_self, rfl, List.subset_append_left _ _⟩
      · exact ⟨_, List.mem_cons_self, rfl, List.Subset.refl _⟩
    · split
      · exact ⟨group, List.mem_cons_of_mem _ later, rfl, List.Subset.refl _⟩
      · obtain ⟨grown, inside, same, more⟩ := ih later
        exact ⟨grown, List.mem_cons_of_mem _ inside, same, more⟩

/-- A value that is appended is in the group of its key. -/
theorem exists_appended (groups : List (κ × List α)) (key : κ) (value : α) :
    ∃ group ∈ append groups key value, group.1 = key ∧ value ∈ group.2 := by
  induction groups with
  | nil => exact ⟨_, List.mem_cons_self, rfl, List.mem_cons_self⟩
  | cons first groups ih =>
    unfold append
    split
    · rename_i same
      exact ⟨_, List.mem_cons_self, same, by simp⟩
    · obtain ⟨group, inside, named, held⟩ := ih
      exact ⟨group, List.mem_cons_of_mem _ inside, named, held⟩

/-- Every group has values, and each of them is right for its key. -/
def Every (right : κ → α → Prop) (groups : List (κ × List α)) : Prop :=
  ∀ group ∈ groups, group.2 ≠ [] ∧ ∀ value ∈ group.2, right group.1 value

/-- Groups stay right when a value goes to a key it is right for. -/
theorem Every.append {right : κ → α → Prop} {groups : List (κ × List α)}
    (every : Every right groups) {key : κ} {value : α} (fits : right key value) :
    Every right (append groups key value) := by
  induction groups with
  | nil => simpa [Grouping.append, Every] using fits
  | cons group groups ih =>
    have first := every group List.mem_cons_self
    have rest : Every right groups := fun other member => every other (List.mem_cons_of_mem _ member)
    unfold Grouping.append
    split
    · rename_i here
      intro other member
      rcases List.mem_cons.mp member with rfl | inside
      · refine ⟨by simp, ?_⟩
        intro item among
        rcases List.mem_append.mp among with old | new
        · exact first.2 item old
        · rw [List.mem_singleton.mp new, here]
          exact fits
      · exact rest other inside
    · intro other member
      rcases List.mem_cons.mp member with rfl | inside
      · exact first
      · exact ih rest other inside

/-- Every group is of values with its key, and has some. -/
def Sound (key : α → κ) (groups : List (κ × List α)) : Prop :=
  ∀ group ∈ groups, group.2 ≠ [] ∧ ∀ value ∈ group.2, key value = group.1

/-- Groups stay sound when a value goes to the group of its key. -/
theorem Sound.append {key : α → κ} {groups : List (κ × List α)} (sound : Sound key groups)
    (value : α) : Sound key (append groups (key value) value) := by
  have every : Every (fun name item => key item = name) groups := sound
  exact every.append rfl

section Collected

variable (key : α → κ) (values : List α)

/-- No key has two groups. -/
theorem nodup_collect : ((collect key values).map Prod.fst).Nodup := by
  induction values using List.reverseRecOn with
  | nil => exact List.nodup_nil
  | append_singleton values value ih =>
    rw [collect_snoc]
    exact nodup_append ih _ _

/-- The groups have every value once. -/
theorem perm_collect : ((collect key values).flatMap Prod.snd).Perm values := by
  induction values using List.reverseRecOn with
  | nil => exact .nil
  | append_singleton values value ih =>
    rw [collect_snoc]
    exact (perm_append _ _ _).trans (ih.append_right [value])

/-- Each group is of the values with its key. -/
theorem sound_collect : Sound key (collect key values) := by
  induction values using List.reverseRecOn with
  | nil => exact fun group member => nomatch member
  | append_singleton values value ih =>
    rw [collect_snoc]
    exact ih.append value

/-- A value is in a group of its key. -/
theorem exists_group {value : α} (member : value ∈ values) :
    ∃ group ∈ collect key values, group.1 = key value ∧ value ∈ group.2 := by
  have inside := (perm_collect key values).mem_iff.mpr member
  obtain ⟨group, among, held⟩ := List.mem_flatMap.mp inside
  exact ⟨group, among, ((sound_collect key values group among).2 value held).symm, held⟩

/-- What a group has is a value with its key. -/
theorem mem_of_group {group : κ × List α} (among : group ∈ collect key values) {value : α} :
    value ∈ group.2 ↔ value ∈ values ∧ key value = group.1 := by
  constructor
  · intro held
    have inside : value ∈ (collect key values).flatMap Prod.snd :=
      List.mem_flatMap.mpr ⟨group, among, held⟩
    exact ⟨(perm_collect key values).mem_iff.mp inside,
      (sound_collect key values group among).2 value held⟩
  · rintro ⟨member, same⟩
    obtain ⟨other, listed, named, held⟩ := exists_group key values member
    have equal : other = group :=
      List.inj_on_of_nodup_map (nodup_collect key values) listed among (named.trans same)
    rwa [← equal]

/-- A key has a group exactly when a value has the key. -/
theorem mem_keys_collect {name : κ} :
    name ∈ (collect key values).map Prod.fst ↔ ∃ value ∈ values, key value = name := by
  constructor
  · intro member
    obtain ⟨group, among, rfl⟩ := List.mem_map.mp member
    obtain ⟨value, held⟩ := List.exists_mem_of_ne_nil _ (sound_collect key values group among).1
    have inside := (mem_of_group key values among).mp held
    exact ⟨value, inside.1, inside.2⟩
  · rintro ⟨value, member, rfl⟩
    obtain ⟨group, among, named, -⟩ := exists_group key values member
    exact List.mem_map.mpr ⟨group, among, named⟩

/-- There are as many groups as keys. -/
theorem length_collect : (collect key values).length = (values.map key).dedup.length := by
  have listed : ((collect key values).map Prod.fst).Perm (values.map key).dedup := by
    apply (List.perm_ext_iff_of_nodup (nodup_collect key values) (List.nodup_dedup _)).mpr
    intro name
    rw [mem_keys_collect, List.mem_dedup, List.mem_map]
  have counted := listed.length_eq
  rwa [List.length_map] at counted

/-- There are no more groups than values. -/
theorem length_collect_le : (collect key values).length ≤ values.length := by
  have bound := (values.map key).dedup_sublist.length_le
  rw [length_collect]
  simpa using bound

end Collected

end Grouping
