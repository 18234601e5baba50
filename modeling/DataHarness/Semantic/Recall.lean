import DataHarness.Semantic.Consistency

/-!
# What was known at an earlier instant

`active` answers for an instant of knowledge by the times its assertions and retractions carry.
`append` and `retract` take these times from their caller and compare neither with the clock, so
an operation changes the answers for earlier instants as well, when its own time is as early. An
answer stays what it was exactly when the operation is later than its instant, or concerns
nothing in it (`recalled_iff`).
-/

namespace DataHarness

namespace AssertionGraph

/-- Keys and ids agree, and only assertions of the graph are retracted. -/
structure Keyed (graph : AssertionGraph) : Prop where
  named : ∀ entry ∈ graph.assertions.entries, entry.2.assertionId = entry.1
  retracted : ∀ key retraction, graph.retractions.get? key = some retraction →
    ∃ item, graph.assertions.get? key = some item

variable {graph after : AssertionGraph} {reading : Reading}

/-- An accepted assertion comes last. -/
theorem append_eq {clock : Nat → Reading} {assertion : SemanticAssertion}
    (accepted : graph.append clock assertion = .ok after) :
    graph.assertions.get? assertion.assertionId = none ∧
      after.assertions.entries =
        graph.assertions.entries ++ [(assertion.assertionId, assertion)] ∧
          after.retractions = graph.retractions := by
  unfold append at accepted
  split at accepted
  · cases accepted
  · rename_i fresh
    split at accepted
    · cases accepted
    · have same := Except.ok.inj accepted
      rw [← same]
      exact ⟨fresh, Dict.entries_set fresh, rfl⟩

/-- An accepted retraction is of an assertion that was not retracted. -/
theorem retract_eq {retraction : AssertionRetraction}
    (accepted : graph.retract retraction = .ok after) :
    ∃ item, graph.assertions.get? retraction.assertionId = some item ∧
      graph.retractions.get? retraction.assertionId = none ∧
        after = { graph with
          retractions := graph.retractions.set retraction.assertionId retraction } := by
  unfold retract at accepted
  split at accepted
  · cases accepted
  · rename_i item present
    split at accepted
    · cases accepted
    · rename_i standing
      split at accepted
      · cases accepted
      · exact ⟨item, present, standing, (Except.ok.inj accepted).symm⟩

/-- The graph of a history is keyed. -/
theorem keyed_after {calls : List GraphCall} (history : graphAfter calls = .ok graph) :
    graph.Keyed := by
  induction calls using List.reverseRecOn generalizing graph with
  | nil =>
    have same := Except.ok.inj history
    rw [← same]
    constructor
    · intro entry member
      cases member
    · intro key retraction found
      cases found
  | append_singleton calls call ih =>
    obtain ⟨before, reached, performed⟩ := of_graphAfter_snoc history
    have holds := ih reached
    cases call with
    | append clock assertion =>
      obtain ⟨-, grown, kept⟩ := append_eq performed
      constructor
      · intro entry member
        rw [grown] at member
        rcases List.mem_append.mp member with old | new
        · exact holds.named entry old
        · rw [List.mem_singleton.mp new]
      · intro key retraction found
        rw [kept] at found
        obtain ⟨item, present⟩ := holds.retracted key retraction found
        have old := Dict.get?_eq_some.mp present
        have inside : (key, item) ∈ graph.assertions.entries := by
          rw [grown]
          exact List.mem_append_left _ old
        exact ⟨item, Dict.get?_eq_some.mpr inside⟩
    | retract retraction =>
      obtain ⟨item, present, -, same⟩ := retract_eq performed
      subst same
      exact ⟨holds.named, Dict.forall_set ⟨item, present⟩ holds.retracted⟩

/-! ## One more operation -/

/-- An assertion is part of the answers for a reading, unless it is retracted by then. -/
def belongs (item : SemanticAssertion) (reading : Reading) : Bool :=
  decide (item.assertedAt.instant ≤ reading.knownAt.instant) && item.validDuring reading.validAt

/-- An assertion that is not retracted is shown in the answers it belongs to. -/
theorem shown_standing {key : String} (standing : graph.retractions.get? key = none)
    (item : SemanticAssertion) :
    (graph.known key item reading.knownAt && item.validDuring reading.validAt) =
      belongs item reading := by
  simp [known, standing, belongs]

/-- An appended assertion joins the answers it belongs to. -/
theorem active_append (keyed : graph.Keyed) {clock : Nat → Reading}
    {assertion : SemanticAssertion} (accepted : graph.append clock assertion = .ok after) :
    after.active reading =
      graph.active reading ++ if belongs assertion reading then [assertion] else [] := by
  obtain ⟨fresh, grown, kept⟩ := append_eq accepted
  have standing : after.retractions.get? assertion.assertionId = none := by
    rw [kept]
    cases found : graph.retractions.get? assertion.assertionId with
    | none => rfl
    | some retraction =>
      obtain ⟨item, present⟩ := keyed.retracted _ retraction found
      rw [fresh] at present
      cases present
  have same : ∀ entry : String × SemanticAssertion,
      after.known entry.1 entry.2 reading.knownAt = graph.known entry.1 entry.2 reading.knownAt := by
    intro entry
    simp [known, kept]
  unfold active
  rw [grown, List.filter_append, List.map_append]
  congr 1
  · simp only [same]
  · rw [List.filter_singleton, shown_standing standing]
    cases belongs assertion reading with
    | true => rfl
    | false => rfl

/-- An appended assertion leaves the answers it does not belong to, and no others. -/
theorem active_append_iff (keyed : graph.Keyed) {clock : Nat → Reading}
    {assertion : SemanticAssertion} (accepted : graph.append clock assertion = .ok after) :
    after.active reading = graph.active reading ↔ belongs assertion reading = false := by
  rw [active_append keyed accepted]
  cases belongs assertion reading with
  | true => simp
  | false => simp

/-- A retraction ends what is known of its assertion, and of no other. -/
theorem known_retract {retraction : AssertionRetraction}
    (accepted : graph.retract retraction = .ok after) (key : String) (item : SemanticAssertion)
    (moment : DateTime) :
    after.known key item moment = (graph.known key item moment &&
      (decide (retraction.assertionId ≠ key) ||
        decide (moment.instant < retraction.retractedAt.instant))) := by
  obtain ⟨-, -, standing, same⟩ := retract_eq accepted
  have found : after.retractions.get? key =
      if retraction.assertionId = key then some retraction else graph.retractions.get? key := by
    rw [same]
    exact Dict.get?_set graph.retractions retraction.assertionId retraction key
  by_cases here : retraction.assertionId = key
  · rw [here] at standing
    simp [known, found, here, standing]
  · simp [known, found, here]

/-- A retraction leaves the answers for instants before it and those its assertion does not
belong to, and no others. -/
theorem active_retract_iff (keyed : graph.Keyed) {retraction : AssertionRetraction}
    (accepted : graph.retract retraction = .ok after) {item : SemanticAssertion}
    (present : graph.assertions.get? retraction.assertionId = some item) :
    after.active reading = graph.active reading ↔
      reading.knownAt.instant < retraction.retractedAt.instant ∨ belongs item reading = false := by
  obtain ⟨-, -, standing, same⟩ := retract_eq accepted
  have member := Dict.get?_eq_some.mp present
  have named := keyed.named _ member
  have entries : after.assertions.entries = graph.assertions.entries := by rw [same]
  constructor
  · intro unchanged
    by_contra changes
    rw [not_or, not_lt, Bool.not_eq_false] at changes
    obtain ⟨early, joined⟩ := changes
    have before : item ∈ graph.active reading := by
      refine List.mem_map.mpr ⟨_, List.mem_filter.mpr ⟨member, ?_⟩, rfl⟩
      exact (shown_standing standing item).trans joined
    rw [← unchanged] at before
    obtain ⟨entry, among, own⟩ := List.mem_map.mp before
    obtain ⟨inside, shown⟩ := List.mem_filter.mp among
    rw [entries] at inside
    have key : retraction.assertionId = entry.1 := by
      rw [← keyed.named entry inside, own]
      exact named.symm
    rw [known_retract accepted, Bool.and_eq_true, Bool.and_eq_true] at shown
    have late : reading.knownAt.instant < retraction.retractedAt.instant := by
      simpa [key] using shown.1.2
    omega
  · intro quiet
    unfold active
    rw [entries]
    congr 1
    refine List.filter_congr fun entry inside => ?_
    rw [known_retract accepted]
    by_cases here : retraction.assertionId = entry.1
    · have own : entry.2 = item := by
        have found : graph.assertions.get? entry.1 = some entry.2 := Dict.get?_eq_some.mpr inside
        rw [← here, present] at found
        exact (Option.some.inj found).symm
      rcases quiet with late | apart
      · simp [late]
      · have hidden := (shown_standing standing item).trans apart
        rw [here, ← own] at hidden
        rw [Bool.and_right_comm, hidden, Bool.false_and]
    · simp [here]

/-! ## Answers that stay -/

/-- An operation is later than an instant of knowledge by its own time, or what it is about
belongs to no answer for the reading. -/
def Later (graph : AssertionGraph) (reading : Reading) : GraphCall → Prop
  | .append _ assertion =>
    reading.knownAt.instant < assertion.assertedAt.instant ∨
      assertion.validDuring reading.validAt = false
  | .retract retraction =>
    reading.knownAt.instant < retraction.retractedAt.instant ∨
      ∀ item, graph.assertions.get? retraction.assertionId = some item →
        reading.knownAt.instant < item.assertedAt.instant ∨
          item.validDuring reading.validAt = false

/-- An assertion belongs to no answer for instants before it, or outside its validity. -/
theorem belongs_eq_false {item : SemanticAssertion} :
    belongs item reading = false ↔ reading.knownAt.instant < item.assertedAt.instant ∨
      item.validDuring reading.validAt = false := by
  unfold belongs
  rw [Bool.and_eq_false_iff, decide_eq_false_iff_not, not_le]

/-- After every history, an operation that is accepted leaves an answer as it was exactly when it
is later than the instant of the answer, or concerns nothing in it. -/
theorem recalled_iff {calls : List GraphCall} (history : graphAfter calls = .ok graph)
    {call : GraphCall} (accepted : call.perform graph = .ok after) (reading : Reading) :
    after.active reading = graph.active reading ↔ Later graph reading call := by
  have keyed := keyed_after history
  cases call with
  | append clock assertion =>
    rw [active_append_iff keyed accepted, belongs_eq_false]
    exact Iff.rfl
  | retract retraction =>
    obtain ⟨item, present, -, -⟩ := retract_eq accepted
    rw [active_retract_iff keyed accepted present, belongs_eq_false]
    constructor
    · rintro (late | apart)
      · exact .inl late
      · refine .inr fun other found => ?_
        rw [Option.some.inj (found.symm.trans present)]
        exact apart
    · rintro (late | apart)
      · exact .inl late
      · exact .inr (apart item present)

/-- One second after noon. -/
def secondPast : DateTime := ⟨1000000, some 0⟩

/-- The second of two assertions of noon is retracted a second later: the answer for noon keeps both
of them, and the answer for the second of the retraction loses one. -/
theorem recalled_iff_small : ∃ graph after,
    graphAfter (appendAt ⟨⟨-2, some 0⟩, noon⟩ [wereSame, thirdDifferent]) = .ok graph ∧
      (GraphCall.retract ⟨"third", secondPast, "wrong", by decide⟩).perform graph = .ok after ∧
      graph.active ⟨⟨-2, some 0⟩, noon⟩ = [wereSame, thirdDifferent] ∧
      after.active ⟨⟨-2, some 0⟩, noon⟩ = [wereSame, thirdDifferent] ∧
      after.active ⟨⟨-2, some 0⟩, secondPast⟩ ≠ graph.active ⟨⟨-2, some 0⟩, secondPast⟩ := by
  let call : GraphCall := .retract ⟨"third", secondPast, "wrong", by decide⟩
  let first : AssertionGraph := ⟨Dict.empty.set "same" wereSame, .empty⟩
  let graph : AssertionGraph := ⟨first.assertions.set "third" thirdDifferent, .empty⟩
  let after : AssertionGraph :=
    ⟨graph.assertions, Dict.empty.set "third" ⟨"third", secondPast, "wrong", by decide⟩⟩
  have history : graphAfter (appendAt ⟨⟨-2, some 0⟩, noon⟩ [wereSame, thirdDifferent]) =
      .ok graph := rfl
  have accepted : call.perform graph = .ok after := rfl
  have before : graph.active ⟨⟨-2, some 0⟩, noon⟩ = [wereSame, thirdDifferent] := rfl
  refine ⟨graph, after, history, accepted, before, ?_, ?_⟩
  · rw [← before]
    exact (recalled_iff history accepted _).mpr (.inl (by decide))
  · intro same
    rcases (recalled_iff history accepted _).mp same with late | apart
    · exact absurd late (by decide)
    · exact absurd (apart thirdDifferent rfl) (by decide)

/-- The operation is made at a moment by the clock, as far as it reads the clock. -/
def MadeAt (moment : DateTime) : GraphCall → Prop
  | .append clock _ => ∀ read, moment.instant ≤ (clock read).knownAt.instant
  | .retract _ => True

/-- Operations that are made after an instant leave the answers for it. -/
def Reproducible : Prop :=
  ∀ calls graph call after reading moment, graphAfter calls = .ok graph →
    call.perform graph = .ok after → MadeAt moment call →
      reading.knownAt.instant < moment.instant → after.active reading = graph.active reading

/-- An assertion that is dated back to noon joins the answer for noon, a second later. -/
theorem not_reproducible : ¬ Reproducible := by
  intro reproducible
  let call : GraphCall := .append (fun _ => ⟨secondPast, secondPast⟩) thirdDifferent
  let graph : AssertionGraph := ⟨Dict.empty.set "third" thirdDifferent, .empty⟩
  have accepted : call.perform .empty = .ok graph := rfl
  have same := reproducible [] .empty call graph ⟨noon, noon⟩ secondPast rfl accepted
    (fun _ => le_refl _) (by decide)
  have joined : graph.active ⟨noon, noon⟩ = [thirdDifferent] := rfl
  rw [joined] at same
  cases same

end AssertionGraph

end DataHarness
