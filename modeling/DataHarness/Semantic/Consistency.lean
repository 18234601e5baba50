import DataHarness.Semantic.Assertions
import Mathlib.Data.List.Induction
import Mathlib.Data.Set.Insert

/-!
# Contradictions at all points of both time axes

`append` looks for a contradiction among the assertions that are active at the instants it reads
from its own clock. Assertions that are active together at another instant were checked against
each other only if they were active together at those readings as well. Where they were, no
identity cluster contradicts an assertion of difference.
-/

namespace DataHarness

/-! ## Histories -/

/-- A call that changes a graph. -/
inductive GraphCall
  | append (clock : Nat → Reading) (assertion : SemanticAssertion)
  | retract (retraction : AssertionRetraction)

/-- The graph a call leaves. -/
def GraphCall.perform (graph : AssertionGraph) : GraphCall → Except SemanticError AssertionGraph
  | .append clock assertion => graph.append clock assertion
  | .retract retraction => graph.retract retraction

/-- The graph that accepted some calls in order. -/
def graphAfter (calls : List GraphCall) : Except SemanticError AssertionGraph :=
  calls.foldlM GraphCall.perform .empty

/-- Two entities are connected by assertions that they are the same. -/
def Connected (items : Set SemanticAssertion) : String → String → Prop :=
  Relation.EqvGen fun left right => ∃ item ∈ items, item.predicate = .sameAs ∧
    left = item.subjectId ∧ right = item.objectId

/-- No assertion of difference is about connected entities. -/
def ContradictionFree (items : Set SemanticAssertion) : Prop :=
  ∀ item ∈ items, item.predicate = .notSameAs → ¬ Connected items item.subjectId item.objectId

/-- Whenever one of some assertions was appended, all of them that were there already were active
at every reading of the clock. -/
def Concurrent (calls : List GraphCall) (items : Set SemanticAssertion) : Prop :=
  ∀ before clock assertion after, calls = before ++ .append clock assertion :: after →
    assertion ∈ items → ∀ graph, graphAfter before = .ok graph →
      ∀ item ∈ items, item ∈ graph.assertions.values → ∀ read, item ∈ graph.active (clock read)

namespace AssertionGraph

variable {graph : AssertionGraph} {items : Set SemanticAssertion}

/-- Active assertions are assertions of the graph. -/
theorem mem_values_of_active {reading : Reading} {item : SemanticAssertion}
    (active : item ∈ graph.active reading) : item ∈ graph.assertions.values := by
  obtain ⟨entry, among, rfl⟩ := List.mem_map.mp active
  exact List.mem_map_of_mem (List.mem_of_mem_filter among)

/-- An entity and those that assertions are about. -/
def entities (graph : AssertionGraph) (entityId : String) : List String :=
  entityId :: graph.assertions.values.flatMap fun item => [item.subjectId, item.objectId]

/-- Assertions are about entities. -/
theorem edge_entities (entityId : String) {reading : Reading} {edge : String × String}
    (member : edge ∈ sameEdges (graph.active reading)) :
    edge.1 ∈ graph.entities entityId ∧ edge.2 ∈ graph.entities entityId := by
  obtain ⟨item, among, rfl⟩ := List.mem_map.mp member
  have inside := mem_values_of_active (List.mem_of_mem_filter among)
  constructor
  · exact List.mem_cons_of_mem _ (List.mem_flatMap.mpr ⟨item, inside, by simp⟩)
  · exact List.mem_cons_of_mem _ (List.mem_flatMap.mpr ⟨item, inside, by simp⟩)

/-- The loop has a round for every entity. -/
theorem entities_lt (graph : AssertionGraph) (entityId : String) :
    (graph.entities entityId).length <
      2 * graph.assertions.entries.length + 1 + [entityId].length := by
  have size : (graph.entities entityId).length = 2 * graph.assertions.entries.length + 1 := by
    simp [entities, Dict.values, List.length_flatMap, Function.comp_def]
    omega
  rw [size, List.length_singleton]
  omega

/-- The loop starts with an entity. -/
theorem origin_entities (graph : AssertionGraph) (entityId : String) :
    [entityId] ⊆ graph.entities entityId := by simp [entities]

/-- A cluster has its entity, and is closed under the assertions of its last round. -/
theorem closed_cluster (graph : AssertionGraph) (clock : Nat → Reading) (read : Nat)
    (entityId : String) : ∃ last, (graph.equivalenceCluster clock read entityId).2 = last + 1 ∧
      entityId ∈ (graph.equivalenceCluster clock read entityId).1 ∧
        Component.Closed (sameEdges (graph.active (clock last)))
          (graph.equivalenceCluster clock read entityId).1 := by
  obtain ⟨last, -, reads, kept, closed⟩ :=
    @Component.grow_stable _ _ (fun round => sameEdges (graph.active (clock round)))
      (graph.entities entityId) (fun _ _ member => edge_entities entityId member) _ read _
      (List.nodup_singleton entityId) (graph.origin_entities entityId) (graph.entities_lt entityId)
  exact ⟨last, reads, kept (by simp), closed⟩

/-- The loop ends, whatever the clock shows in its rounds. -/
theorem cluster_ends (graph : AssertionGraph) (clock : Nat → Reading) (read : Nat)
    (entityId : String) :
    Component.Ends (fun round => sameEdges (graph.active (clock round))) read [entityId]
      (graph.equivalenceCluster clock read entityId) :=
  Component.ends_grow (fun _ _ member => edge_entities entityId member)
    (List.nodup_singleton entityId) (graph.origin_entities entityId) (graph.entities_lt entityId)

/-- What is connected to an entity over assertions that are active at every reading is in its
cluster. -/
theorem mem_cluster {clock : Nat → Reading}
    (active : ∀ item ∈ items, ∀ read, item ∈ graph.active (clock read)) (read : Nat)
    {entityId other : String} (connected : Connected items entityId other) :
    other ∈ (graph.equivalenceCluster clock read entityId).1 := by
  obtain ⟨last, -, own, closed⟩ := graph.closed_cluster clock read entityId
  have path : Relation.EqvGen (fun left right =>
      (left, right) ∈ sameEdges (graph.active (clock last))) entityId other := by
    refine connected.mono fun left right edge => ?_
    obtain ⟨item, among, same, rfl, rfl⟩ := edge
    exact List.mem_map_of_mem (List.mem_filter.mpr ⟨active item among last, by simp [same]⟩)
  exact (Component.closed_connected closed path).mp own

/-- An accepted assertion is new, and passed its check. -/
theorem of_append {clock : Nat → Reading} {assertion : SemanticAssertion} {after : AssertionGraph}
    (accepted : graph.append clock assertion = .ok after) :
    graph.assertions.get? assertion.assertionId = none ∧
      graph.checkIdentity clock assertion = .ok () ∧
        after.assertions = graph.assertions.set assertion.assertionId assertion := by
  unfold append at accepted
  split at accepted
  · cases accepted
  rename_i fresh
  split at accepted
  · cases accepted
  rename_i checked
  obtain rfl := Except.ok.inj accepted
  exact ⟨fresh, checked, rfl⟩

/-- A retraction keeps the assertions. -/
theorem of_retract {retraction : AssertionRetraction} {after : AssertionGraph}
    (accepted : graph.retract retraction = .ok after) : after.assertions = graph.assertions := by
  unfold retract at accepted
  split at accepted
  · cases accepted
  split at accepted
  · cases accepted
  split at accepted
  · cases accepted
  obtain rfl := Except.ok.inj accepted
  rfl

/-! ## One more assertion -/

/-- An accepted assertion of difference is not about connected entities. -/
theorem not_connected_of_check {clock : Nat → Reading} {assertion : SemanticAssertion}
    (checked : graph.checkIdentity clock assertion = .ok ())
    (different : assertion.predicate = .notSameAs)
    (active : ∀ item ∈ items, ∀ read, item ∈ graph.active (clock read)) :
    ¬ Connected items assertion.subjectId assertion.objectId := by
  intro connected
  unfold checkIdentity at checked
  rw [different] at checked
  dsimp only at checked
  rw [if_pos (mem_cluster active 0 connected)] at checked
  cases checked

/-- An accepted assertion that two entities are the same connects no entities that an active
assertion tells apart. -/
theorem not_crossing_of_check {clock : Nat → Reading} {assertion : SemanticAssertion}
    (checked : graph.checkIdentity clock assertion = .ok ())
    (same : assertion.predicate = .sameAs)
    (active : ∀ item ∈ items, ∀ read, item ∈ graph.active (clock read))
    {item : SemanticAssertion} (member : item ∈ items) (different : item.predicate = .notSameAs) :
    ¬ (Connected items assertion.subjectId item.subjectId ∧
        Connected items assertion.objectId item.objectId ∨
      Connected items assertion.objectId item.subjectId ∧
        Connected items assertion.subjectId item.objectId) := by
  intro crossing
  have separated : ∀ read next, separates item
      (graph.equivalenceCluster clock read assertion.subjectId).1
      (graph.equivalenceCluster clock next assertion.objectId).1 = true := by
    intro read next
    have left : ∀ {other}, Connected items assertion.subjectId other →
        other ∈ (graph.equivalenceCluster clock read assertion.subjectId).1 :=
      mem_cluster active read
    have right : ∀ {other}, Connected items assertion.objectId other →
        other ∈ (graph.equivalenceCluster clock next assertion.objectId).1 :=
      mem_cluster active next
    rcases crossing with ⟨subject, object⟩ | ⟨subject, object⟩
    · simp [separates, different, left subject, right object]
    · simp [separates, different, right subject, left object]
  unfold checkIdentity at checked
  rw [same] at checked
  dsimp only at checked
  split at checked
  · cases checked
  · rename_i apart
    exact apart (List.any_eq_true.mpr ⟨item, active item member _, separated _ _⟩)

/-- A new assertion that is not of sameness connects nothing. -/
theorem connected_insert_other {assertion : SemanticAssertion}
    (other : assertion.predicate ≠ .sameAs) {left right : String}
    (connected : Connected (insert assertion items) left right) : Connected items left right := by
  refine connected.mono fun x y edge => ?_
  obtain ⟨item, rfl | member, same, ends⟩ := edge
  · exact absurd same other
  · exact ⟨item, member, same, ends⟩

/-- A new assertion of sameness adds one edge. -/
theorem connected_insert_same {assertion : SemanticAssertion} {left right : String}
    (connected : Connected (insert assertion items) left right) :
    Connected items left right ∨
      Connected items left assertion.subjectId ∧ Connected items assertion.objectId right ∨
        Connected items left assertion.objectId ∧ Connected items assertion.subjectId right := by
  apply Component.connected_insert
  refine connected.mono fun x y edge => ?_
  obtain ⟨item, rfl | member, same, ends⟩ := edge
  · exact .inr ends
  · exact .inl ⟨item, member, same, ends⟩

/-- An accepted assertion contradicts nothing that was active at every reading. -/
theorem contradictionFree_insert {clock : Nat → Reading} {assertion : SemanticAssertion}
    (checked : graph.checkIdentity clock assertion = .ok ())
    (active : ∀ item ∈ items, ∀ read, item ∈ graph.active (clock read))
    (free : ContradictionFree items) : ContradictionFree (insert assertion items) := by
  intro item member different connected
  by_cases same : assertion.predicate = .sameAs
  · rcases member with rfl | inside
    · rw [different] at same
      cases same
    rcases connected_insert_same connected with direct | crossing
    · exact free item inside different direct
    · apply not_crossing_of_check checked same active inside different
      rcases crossing with ⟨left, right⟩ | ⟨left, right⟩
      · exact .inl ⟨left.symm _ _, right⟩
      · exact .inr ⟨left.symm _ _, right⟩
  · have direct := connected_insert_other same connected
    rcases member with rfl | inside
    · exact not_connected_of_check checked different active direct
    · exact free item inside different direct

/-! ## Whole histories -/

/-- The graph after one more accepted call. -/
theorem of_graphAfter_snoc {calls : List GraphCall} {call : GraphCall} {after : AssertionGraph}
    (accepted : graphAfter (calls ++ [call]) = .ok after) :
    ∃ before, graphAfter calls = .ok before ∧ call.perform before = .ok after := by
  unfold graphAfter at accepted
  rw [List.foldlM_append] at accepted
  obtain ⟨before, reached, accepted⟩ := of_bind_ok accepted
  obtain ⟨last, performed, accepted⟩ := of_bind_ok accepted
  obtain rfl := Except.ok.inj accepted
  exact ⟨before, reached, performed⟩

/-- Assertions that were active together whenever one of them was appended leave no contradiction
among those a graph has. -/
theorem contradictionFree_after {calls : List GraphCall} (accepted : graphAfter calls = .ok graph)
    (concurrent : Concurrent calls items) :
    ContradictionFree {item | item ∈ items ∧ item ∈ graph.assertions.values} := by
  induction calls using List.reverseRecOn generalizing graph with
  | nil =>
    obtain rfl := Except.ok.inj accepted
    rintro item ⟨-, none⟩
    cases none
  | append_singleton calls call ih =>
    obtain ⟨before, reached, performed⟩ := of_graphAfter_snoc accepted
    have earlier : Concurrent calls items := by
      rintro front clock assertion back rfl
      exact concurrent front clock assertion (back ++ [call]) (by simp)
    have free := ih reached earlier
    cases call with
    | retract retraction =>
      rw [of_retract performed]
      exact free
    | append clock assertion =>
      obtain ⟨fresh, checked, grown⟩ := of_append performed
      rw [grown]
      by_cases chosen : assertion ∈ items
      · have active : ∀ item ∈ {item | item ∈ items ∧ item ∈ before.assertions.values},
            ∀ read, item ∈ before.active (clock read) := by
          rintro item ⟨member, present⟩
          exact concurrent calls clock assertion [] rfl chosen before reached item member present
        convert contradictionFree_insert checked active free using 1
        ext item
        simp only [Set.mem_ofPred_eq, Dict.mem_values_set fresh, Set.mem_insert_iff]
        constructor
        · rintro ⟨member, old | new⟩
          · exact .inr ⟨member, old⟩
          · exact .inl new
        · rintro (rfl | ⟨member, old⟩)
          · exact ⟨chosen, .inr rfl⟩
          · exact ⟨member, .inl old⟩
      · convert free using 1
        ext item
        simp only [Set.mem_ofPred_eq, Dict.mem_values_set fresh]
        constructor
        · rintro ⟨member, old | rfl⟩
          · exact ⟨member, old⟩
          · exact absurd member chosen
        · rintro ⟨member, old⟩
          exact ⟨member, .inl old⟩

/-- What is active at one point of both time axes holds no contradiction, if its assertions were
active together whenever one of them was appended. -/
theorem contradictionFree_active {calls : List GraphCall} (accepted : graphAfter calls = .ok graph)
    (reading : Reading) (concurrent : Concurrent calls {item | item ∈ graph.active reading}) :
    ContradictionFree {item | item ∈ graph.active reading} := by
  convert contradictionFree_after accepted concurrent using 1
  ext item
  simp only [Set.mem_ofPred_eq]
  exact ⟨fun active => ⟨active, mem_values_of_active active⟩, fun both => both.1⟩

/-- The assertion that two entities are the same has names. -/
theorem same_named : "same" ≠ "" ∧ "a" ≠ "" ∧ "b" ≠ "" ∧ "a" ≠ "b" := by decide

/-- The entities `a` and `b` were the same for a second that ended before noon. -/
def wereSame : SemanticAssertion :=
  .small "same" "a" "b" .sameAs ⟨-2, some 0⟩ (some ⟨-1, some 0⟩) same_named (by decide) (by decide)

/-- The entities `a` and `b` are different, and were in that second. -/
def areDifferent : SemanticAssertion :=
  .small "different" "a" "b" .notSameAs ⟨-2, some 0⟩ none (by decide) (by decide) (by decide)

/-- The entities `b` and `c` are different. -/
def thirdDifferent : SemanticAssertion :=
  .small "third" "b" "c" .notSameAs ⟨-2, some 0⟩ none (by decide) (by decide) (by decide)

/-- Assertions that are appended one after the other at a single instant. -/
def appendAt (reading : Reading) (items : List SemanticAssertion) : List GraphCall :=
  items.map (.append fun _ => reading)

/-- Assertions that are appended while all of them are active stay free of contradiction. -/
theorem contradictionFree_active_valid :
    ∃ graph, graphAfter (appendAt ⟨⟨-2, some 0⟩, noon⟩ [wereSame, thirdDifferent]) = .ok graph ∧
      graph.active ⟨⟨-2, some 0⟩, noon⟩ = [wereSame, thirdDifferent] ∧
        ContradictionFree {item | item ∈ graph.active ⟨⟨-2, some 0⟩, noon⟩} := by
  let reading : Reading := ⟨⟨-2, some 0⟩, noon⟩
  let first : AssertionGraph := ⟨Dict.empty.set "same" wereSame, .empty⟩
  let second : AssertionGraph := ⟨first.assertions.set "third" thirdDifferent, .empty⟩
  have accepted :
      graphAfter (appendAt reading [wereSame, thirdDifferent]) = .ok second := rfl
  refine ⟨second, accepted, rfl, contradictionFree_active accepted reading ?_⟩
  intro before clock assertion after calls chosen graph reached item member present read
  rcases before with _ | ⟨call, _ | ⟨next, rest⟩⟩
  · obtain rfl := Except.ok.inj reached
    cases present
  · obtain ⟨rfl, tail⟩ := List.cons.inj calls
    obtain ⟨same, -⟩ := List.cons.inj tail
    obtain ⟨rfl, -⟩ := GraphCall.append.inj same
    have only : graphAfter [.append (fun _ => reading) wereSame] = .ok first := rfl
    rw [only] at reached
    obtain rfl := Except.ok.inj reached
    exact present
  · simp [appendAt] at calls

/-- An assertion of difference is accepted against what is active at its own instant: it
contradicts assertions that hold together with it at an earlier one. -/
theorem lateDifference_contradicts :
    ∃ graph, graphAfter (appendAt ⟨noon, noon⟩ [wereSame, areDifferent]) = .ok graph ∧
      ¬ ContradictionFree {item | item ∈ graph.active ⟨⟨-2, some 0⟩, noon⟩} := by
  let graph : AssertionGraph :=
    ⟨(Dict.empty.set "same" wereSame).set "different" areDifferent, .empty⟩
  have accepted : graphAfter (appendAt ⟨noon, noon⟩ [wereSame, areDifferent]) = .ok graph := rfl
  have together : graph.active ⟨⟨-2, some 0⟩, noon⟩ = [wereSame, areDifferent] := rfl
  refine ⟨graph, accepted, fun free => ?_⟩
  rw [together] at free
  have connected : Connected {item | item ∈ [wereSame, areDifferent]} "a" "b" :=
    .rel _ _ ⟨wereSame, by simp, rfl, rfl, rfl⟩
  exact free areDifferent (by simp) rfl connected

end AssertionGraph

end DataHarness
