import Mathlib.Data.List.Basic
import Mathlib.Data.List.Nodup

/-!
# Tables with a primary key

Rows in the order they were inserted, with no key twice: the invariant is a field, so an
insertion needs a proof that its key is absent and an update one that it keeps the key.
-/

/-- Rows with distinct keys. -/
structure Table (ρ κ : Type) (key : ρ → κ) where
  /-- The rows, oldest first. -/
  rows : List ρ
  /-- The primary key. -/
  unique : (rows.map key).Nodup

namespace Table

variable {ρ κ : Type} {key : ρ → κ}

/-- The table without rows. -/
def empty : Table ρ κ key := ⟨[], List.nodup_nil⟩

/-- Rows with one key are one row. -/
theorem eq_of_key {table : Table ρ κ key} {left right : ρ} (first : left ∈ table.rows)
    (second : right ∈ table.rows) (same : key left = key right) : left = right :=
  List.inj_on_of_nodup_map table.unique first second same

variable [DecidableEq κ]

/-- The row under a key. -/
def find? (table : Table ρ κ key) (k : κ) : Option ρ := table.rows.find? fun row => key row = k

/-- A found row has the key it was found under. -/
theorem key_of_find? {table : Table ρ κ key} {k : κ} {row : ρ} (found : table.find? k = some row) :
    key row = k := by
  simpa using List.find?_some found

/-- A found row is in the table. -/
theorem mem_of_find? {table : Table ρ κ key} {k : κ} {row : ρ} (found : table.find? k = some row) :
    row ∈ table.rows := List.mem_of_find?_eq_some found

/-- No row has a key that is not found. -/
theorem absent {table : Table ρ κ key} {k : κ} (missing : table.find? k = none) :
    ∀ row ∈ table.rows, key row ≠ k := by
  simpa [find?] using missing

/-- A row is the one found under its key. -/
theorem find?_of_mem {table : Table ρ κ key} {row : ρ} (member : row ∈ table.rows) :
    table.find? (key row) = some row := by
  cases found : table.find? (key row) with
  | none => exact absurd rfl (absent found row member)
  | some other => rw [eq_of_key (mem_of_find? found) member (key_of_find? found)]

/-- Add a row under an absent key. -/
def insert (table : Table ρ κ key) (row : ρ) (fresh : table.find? (key row) = none) :
    Table ρ κ key where
  rows := table.rows ++ [row]
  unique := by
    rw [List.map_append, List.nodup_append]
    refine ⟨table.unique, by simp, ?_⟩
    intro a member b new same
    obtain ⟨old, inside, rfl⟩ := List.mem_map.mp member
    obtain rfl : b = key row := by simpa using new
    exact absent fresh old inside same

/-- Change the row under a key, which stays as it is. -/
def update (table : Table ρ κ key) (k : κ) (change : ρ → ρ)
    (keeps : ∀ row, key (change row) = key row) : Table ρ κ key where
  rows := table.rows.map fun row => if key row = k then change row else row
  unique := by
    have same : (table.rows.map fun row => if key row = k then change row else row).map key =
        table.rows.map key := by
      rw [List.map_map]
      apply List.map_congr_left
      intro row _
      simp only [Function.comp_apply]
      split
      · exact keeps row
      · rfl
    rw [same]
    exact table.unique

/-- An inserted row is found, and nothing else changes. -/
theorem find?_insert (table : Table ρ κ key) (row : ρ) (fresh : table.find? (key row) = none)
    (k : κ) : (table.insert row fresh).find? k = if key row = k then some row else table.find? k := by
  simp only [find?, insert, List.find?_append]
  split
  · rename_i same
    subst same
    rw [show table.rows.find? (fun r => key r = key row) = none from fresh]
    simp
  · rename_i other
    simp [other]

/-- An updated row is found changed, and nothing else changes. -/
theorem find?_update (table : Table ρ κ key) (k : κ) (change : ρ → ρ)
    (keeps : ∀ row, key (change row) = key row) (other : κ) :
    (table.update k change keeps).find? other =
      if other = k then (table.find? k).map change else table.find? other := by
  simp only [find?, update, List.find?_map, Function.comp_def]
  have keyed : ∀ row, key (if key row = k then change row else row) = key row := by
    intro row
    split
    · exact keeps row
    · rfl
  simp only [keyed]
  split
  · rename_i same
    subst same
    cases found : table.rows.find? (fun row => key row = other) with
    | none => rfl
    | some row => simp [show key row = other by simpa using List.find?_some found]
  · rename_i different
    cases found : table.rows.find? (fun row => key row = other) with
    | none => rfl
    | some row =>
      have here : key row = other := by simpa using List.find?_some found
      simp [here, different]

/-- The rows after an insertion. -/
@[simp] theorem mem_insert (table : Table ρ κ key) (row : ρ)
    (fresh : table.find? (key row) = none) (other : ρ) :
    other ∈ (table.insert row fresh).rows ↔ other ∈ table.rows ∨ other = row := by
  simp [insert]

/-- The rows after an update: the changed one, and those under other keys. -/
theorem mem_update (table : Table ρ κ key) (k : κ) (change : ρ → ρ)
    (keeps : ∀ row, key (change row) = key row) (other : ρ) :
    other ∈ (table.update k change keeps).rows ↔
      (∃ row ∈ table.rows, key row = k ∧ other = change row) ∨
        other ∈ table.rows ∧ key other ≠ k := by
  simp only [update, List.mem_map]
  constructor
  · rintro ⟨row, member, rfl⟩
    split
    · rename_i here
      exact .inl ⟨row, member, here, rfl⟩
    · rename_i elsewhere
      exact .inr ⟨member, elsewhere⟩
  · rintro (⟨row, member, here, rfl⟩ | ⟨member, elsewhere⟩)
    · exact ⟨row, member, by rw [if_pos here]⟩
    · exact ⟨other, member, by rw [if_neg elsewhere]⟩

/-! ## Association lists -/

variable {α : Type}

/-- A value looked up is in the list under its key. -/
theorem mem_of_lookup {pairs : List (κ × α)} {k : κ} {value : α}
    (found : pairs.lookup k = some value) : (k, value) ∈ pairs := by
  obtain ⟨front, back, rfl, -⟩ := List.lookup_eq_some_iff.mp found
  simp

/-- A key in the list is looked up. -/
theorem exists_lookup {pairs : List (κ × α)} {k : κ} {value : α} (member : (k, value) ∈ pairs) :
    ∃ first, pairs.lookup k = some first := by
  cases found : pairs.lookup k with
  | some first => exact ⟨first, rfl⟩
  | none =>
    have different := List.lookup_eq_none_iff.mp found (k, value) member
    simp at different

/-- Under distinct keys a value is looked up exactly when it is in the list. -/
theorem lookup_iff_mem {pairs : List (κ × α)} (distinct : (pairs.map Prod.fst).Nodup) {k : κ}
    {value : α} : pairs.lookup k = some value ↔ (k, value) ∈ pairs := by
  constructor
  · exact mem_of_lookup
  · intro member
    obtain ⟨first, found⟩ := exists_lookup member
    have same := List.inj_on_of_nodup_map distinct member (mem_of_lookup found) rfl
    rw [found, (Prod.mk.inj same).2]

end Table
