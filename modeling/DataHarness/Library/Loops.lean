import Mathlib.Data.List.Forall2

/-!
# Loops that may raise

Rules for a loop over a list in `Except`: what it computes when it runs to its end, and that it
does when no pass raises.
-/

namespace Loops

variable {ε α β σ : Type}

/-- A loop that collects results has one for each value. -/
theorem forall₂_of_mapM {body : α → Except ε β} {values : List α} {results : List β}
    (ran : values.mapM body = .ok results) :
    List.Forall₂ (fun value result => body value = .ok result) values results := by
  induction values generalizing results with
  | nil =>
    have none : [] = results := Except.ok.inj ran
    rw [← none]
    exact .nil
  | cons value values ih =>
    rw [List.mapM_cons] at ran
    cases first : body value with
    | error => simp [first, bind, Except.bind] at ran
    | ok result =>
      cases rest : values.mapM body with
      | error => simp [first, rest, bind, Except.bind] at ran
      | ok others =>
        have same : result :: others = results := by
          simpa [first, rest, bind, Except.bind, pure, Except.pure] using ran
        rw [← same]
        exact .cons first (ih rest)

/-- A loop collects the results that its passes have one by one. -/
theorem mapM_of_forall₂ {body : α → Except ε β} {values : List α} {results : List β}
    (each : List.Forall₂ (fun value result => body value = .ok result) values results) :
    values.mapM body = .ok results := by
  induction each with
  | nil => rfl
  | cons first _ ih =>
    rw [List.mapM_cons, first, ih]
    rfl

/-- Of lists related place by place, what stands in the second is related to a value of the
first. -/
theorem exists_of_forall₂ {related : α → β → Prop} {values : List α} {results : List β}
    (each : List.Forall₂ related values results) {result : β} (member : result ∈ results) :
    ∃ value ∈ values, related value result := by
  induction each with
  | nil => cases member
  | @cons value first _ _ here _ ih =>
    rcases List.mem_cons.mp member with rfl | inside
    · exact ⟨value, List.mem_cons_self, here⟩
    · obtain ⟨other, among, holds⟩ := ih inside
      exact ⟨other, List.mem_cons_of_mem _ among, holds⟩

/-- A result that a loop collects is that of a value. -/
theorem exists_of_mapM {body : α → Except ε β} {values : List α} {results : List β}
    (ran : values.mapM body = .ok results) {result : β} (member : result ∈ results) :
    ∃ value ∈ values, body value = .ok result :=
  exists_of_forall₂ (forall₂_of_mapM ran) member

/-- What a value gives is among the results that a loop collects. -/
theorem exists_result_of_mapM {body : α → Except ε β} {values : List α} {results : List β}
    (ran : values.mapM body = .ok results) {value : α} (member : value ∈ values) :
    ∃ result ∈ results, body value = .ok result :=
  exists_of_forall₂ (forall₂_of_mapM ran).flip member

/-- A loop that collects results runs to its end when no pass raises. -/
theorem exists_mapM {body : α → Except ε β} {values : List α}
    (fine : ∀ value ∈ values, ∃ result, body value = .ok result) :
    ∃ results, values.mapM body = .ok results := by
  induction values with
  | nil => exact ⟨[], rfl⟩
  | cons value values ih =>
    obtain ⟨result, first⟩ := fine value List.mem_cons_self
    obtain ⟨results, rest⟩ := ih fun other member => fine other (List.mem_cons_of_mem _ member)
    exact ⟨result :: results, by simp [first, rest, bind, Except.bind, pure, Except.pure]⟩

/-- A loop that collects results runs to its end exactly when no pass raises. -/
theorem exists_mapM_iff {body : α → Except ε β} {values : List α} :
    (∃ results, values.mapM body = .ok results) ↔
      ∀ value ∈ values, ∃ result, body value = .ok result := by
  constructor
  · rintro ⟨results, ran⟩ value member
    obtain ⟨result, -, own⟩ := exists_result_of_mapM ran member
    exact ⟨result, own⟩
  · intro fine
    exact exists_mapM fine

/-- A loop collects some results when it has some values. -/
theorem mapM_ne_nil {body : α → Except ε β} {values : List α} {results : List β}
    (ran : values.mapM body = .ok results) : results ≠ [] ↔ values ≠ [] := by
  have lengths := (forall₂_of_mapM ran).length_eq
  rw [ne_eq, ne_eq, ← List.length_eq_zero_iff, ← List.length_eq_zero_iff, lengths]

/-- A loop whose passes all return collects what they return. -/
theorem mapM_eq_map {body : α → Except ε β} {result : α → β} {values : List α}
    (each : ∀ value ∈ values, body value = .ok (result value)) :
    values.mapM body = .ok (values.map result) := by
  induction values with
  | nil => rfl
  | cons value values ih =>
    have rest := ih fun other member => each other (List.mem_cons_of_mem _ member)
    rw [List.mapM_cons, each value List.mem_cons_self, rest]
    rfl

/-- A loop with a pass that raises raises what some pass does. -/
theorem error_of_mapM {body : α → Except ε β} {values : List α}
    (raises : ∃ value ∈ values, ∃ error, body value = .error error) :
    ∃ value ∈ values, ∃ error, body value = .error error ∧ values.mapM body = .error error := by
  induction values with
  | nil => simp at raises
  | cons value values ih =>
    cases first : body value with
    | error error =>
      refine ⟨value, List.mem_cons_self, error, first, ?_⟩
      rw [List.mapM_cons, first]
      rfl
    | ok result =>
      obtain ⟨other, member, error, raised⟩ := raises
      have later : other ∈ values := by
        rcases List.mem_cons.mp member with same | inside
        · rw [same, first] at raised
          cases raised
        · exact inside
      obtain ⟨last, inside, thrown, shown, whole⟩ := ih ⟨other, later, error, raised⟩
      refine ⟨last, List.mem_cons_of_mem _ inside, thrown, shown, ?_⟩
      rw [List.mapM_cons, first, whole]
      rfl

/-- A loop raises what its first pass that raises does. -/
theorem mapM_eq_error {body : α → Except ε β} {values : List α} {error : ε} :
    values.mapM body = .error error ↔
      ∃ before value after, values = before ++ value :: after ∧
        (∀ earlier ∈ before, ∃ result, body earlier = .ok result) ∧ body value = .error error := by
  induction values with
  | nil =>
    constructor
    · intro raised
      cases raised
    · rintro ⟨before, value, after, split, -⟩
      simp at split
  | cons first values ih =>
    rw [List.mapM_cons]
    constructor
    · intro raised
      cases own : body first with
      | error thrown =>
        rw [own] at raised
        obtain rfl := Except.error.inj raised
        exact ⟨[], first, values, rfl, by simp, own⟩
      | ok result =>
        have later : values.mapM body = .error error := by
          cases rest : values.mapM body with
          | error thrown =>
            rw [own, rest] at raised
            exact raised
          | ok results =>
            rw [own, rest] at raised
            cases raised
        obtain ⟨before, value, after, split, fine, thrown⟩ := ih.mp later
        refine ⟨first :: before, value, after, by rw [split, List.cons_append], ?_, thrown⟩
        intro earlier member
        rcases List.mem_cons.mp member with rfl | inside
        · exact ⟨result, own⟩
        · exact fine earlier inside
    · rintro ⟨before, value, after, split, fine, thrown⟩
      cases before with
      | nil =>
        obtain ⟨rfl, rfl⟩ := List.cons.inj split
        rw [thrown]
        rfl
      | cons head before =>
        obtain ⟨rfl, rest⟩ := List.cons.inj split
        obtain ⟨result, own⟩ := fine first List.mem_cons_self
        have later := ih.mpr ⟨before, value, after, rest,
          fun earlier inside => fine earlier (List.mem_cons_of_mem _ inside), thrown⟩
        rw [own, later]
        rfl

/-- A loop with a state runs to its end when no pass raises. -/
theorem exists_foldlM {body : σ → α → Except ε σ} {values : List α} (start : σ)
    (fine : ∀ state, ∀ value ∈ values, ∃ next, body state value = .ok next) :
    ∃ final, values.foldlM body start = .ok final := by
  induction values generalizing start with
  | nil => exact ⟨start, rfl⟩
  | cons value values ih =>
    obtain ⟨next, first⟩ := fine start value List.mem_cons_self
    obtain ⟨final, rest⟩ := ih next fun state other member =>
      fine state other (List.mem_cons_of_mem _ member)
    refine ⟨final, ?_⟩
    rw [List.foldlM_cons, first]
    exact rest

/-- What holds before a loop with a state, and is kept by every pass, holds at its end, of the
values passed. -/
theorem foldlM_invariant {body : σ → α → Except ε σ} {invariant : List α → σ → Prop}
    {values : List α} {start final : σ} (initial : invariant [] start)
    (keeps : ∀ {done state value next}, invariant done state → body state value = .ok next →
      invariant (done ++ [value]) next)
    (ran : values.foldlM body start = .ok final) : invariant values final := by
  have from_any : ∀ {values done : List α} {state : σ}, invariant done state →
      values.foldlM body state = .ok final → invariant (done ++ values) final := by
    intro values
    induction values with
    | nil =>
      intro done state held ended
      have same : state = final := Except.ok.inj ended
      rwa [← same, List.append_nil]
    | cons value values ih =>
      intro done state held ended
      rw [List.foldlM_cons] at ended
      cases first : body state value with
      | error => simp [first, bind, Except.bind] at ended
      | ok next =>
        rw [first] at ended
        rw [List.append_cons]
        exact ih (keeps held first) ended
  exact from_any initial ran

end Loops
