import DataHarness.Semantic.Acceptance
import Mathlib.Data.Setoid.Partition

/-!
# Identity clusters are connected components

While the clock stands still, the cluster of an entity is its connected component under the active
assertions of sameness: the clusters are the classes of an equivalence, and other assertions have no
part in them (`cluster_component`).
-/

namespace DataHarness

namespace AssertionGraph

variable {graph : AssertionGraph} {time : DateTime}

/-- The cluster of an entity while the clock stands still. -/
def clusterAt (graph : AssertionGraph) (time : DateTime) (read : Nat) (entityId : String) :
    Set String :=
  {other | other ∈ (graph.equivalenceCluster (fun _ => ⟨time, time⟩) read entityId).1}

/-- Entities that active assertions connect. -/
def identity (graph : AssertionGraph) (time : DateTime) : Setoid String :=
  Relation.EqvGen.setoid fun left right => ∃ item ∈ graph.activeAt time,
    item.predicate = .sameAs ∧ left = item.subjectId ∧ right = item.objectId

/-- A cluster is a class of the identity. -/
theorem clusterAt_eq (graph : AssertionGraph) (time : DateTime) (read : Nat) (entityId : String) :
    graph.clusterAt time read entityId = {other | graph.identity time other entityId} := by
  ext other
  show other ∈ (graph.equivalenceCluster (fun _ => ⟨time, time⟩) read entityId).1 ↔
    Connected (graph.activeAt time) other entityId
  rw [mem_cluster_iff]
  exact ⟨fun connected => connected.symm _ _, fun connected => connected.symm _ _⟩

/-- The clusters are the classes of the identity. -/
theorem range_clusterAt (graph : AssertionGraph) (time : DateTime) (read : Nat) :
    Set.range (graph.clusterAt time read) = (graph.identity time).classes := by
  ext entities
  constructor
  · rintro ⟨entityId, rfl⟩
    rw [clusterAt_eq]
    exact Setoid.mem_classes _ entityId
  · rintro ⟨entityId, rfl⟩
    exact ⟨entityId, clusterAt_eq graph time read entityId⟩

/-- A graph in which no more entities are declared the same has no larger clusters. -/
theorem clusterAt_subset {other : AssertionGraph}
    (fewer : ∀ item ∈ other.activeAt time, item.predicate = .sameAs → item ∈ graph.activeAt time)
    (read : Nat) (entityId : String) :
    other.clusterAt time read entityId ⊆ graph.clusterAt time read entityId := by
  intro found member
  have connected : Connected (other.activeAt time) entityId found :=
    (mem_cluster_iff read entityId found).mp member
  have still : Connected (graph.activeAt time) entityId found := by
    refine connected.mono fun left right edge => ?_
    obtain ⟨item, active, same, ends⟩ := edge
    exact ⟨item, fewer item active same, same, ends⟩
  exact (mem_cluster_iff read entityId found).mpr still

/-- An accepted assertion leaves the retractions. -/
theorem retractions_of_append {clock : Nat → Reading} {assertion : SemanticAssertion}
    {after : AssertionGraph} (accepted : graph.append clock assertion = .ok after) :
    after.retractions = graph.retractions := by
  unfold append at accepted
  split at accepted
  · cases accepted
  split at accepted
  · cases accepted
  obtain rfl := Except.ok.inj accepted
  rfl

/-- An accepted assertion that is none of sameness declares nothing the same. -/
theorem same_of_append {clock : Nat → Reading} {assertion : SemanticAssertion}
    {after : AssertionGraph} (accepted : graph.append clock assertion = .ok after)
    (different : assertion.predicate ≠ .sameAs) :
    ∀ item ∈ after.activeAt time, item.predicate = .sameAs → item ∈ graph.activeAt time := by
  intro item active same
  obtain ⟨key, present, known, valid⟩ := mem_activeAt.mp active
  have assertions := (of_append accepted).2.2
  have retractions := retractions_of_append accepted
  rw [assertions, Dict.get?_set] at present
  by_cases own : assertion.assertionId = key
  · rw [if_pos own] at present
    rw [← Option.some.inj present] at same
    exact absurd same different
  · rw [if_neg own] at present
    unfold AssertionGraph.known at known
    rw [retractions] at known
    exact mem_activeAt.mpr ⟨key, present, known, valid⟩

/-- While the clock stands still, the loop ends with the connected component of its entity under the
active assertions of sameness. So clusters are symmetric, transitive and partition the entities, and
no other assertion that is appended makes one larger. -/
theorem cluster_component (graph : AssertionGraph) (time : DateTime) (read : Nat) :
    (∀ entityId result,
        Component.Ends (fun _ => sameEdges (graph.active ⟨time, time⟩)) read [entityId] result ↔
          result = graph.equivalenceCluster (fun _ => ⟨time, time⟩) read entityId) ∧
      (∀ entityId other, other ∈ graph.clusterAt time read entityId ↔
        Connected (graph.activeAt time) entityId other) ∧
      (∀ entityId other, other ∈ graph.clusterAt time read entityId →
        entityId ∈ graph.clusterAt time read other) ∧
      (∀ first second third, second ∈ graph.clusterAt time read first →
        third ∈ graph.clusterAt time read second → third ∈ graph.clusterAt time read first) ∧
      Setoid.IsPartition (Set.range (graph.clusterAt time read)) ∧
      ∀ clock assertion after, graph.append clock assertion = .ok after →
        assertion.predicate ≠ .sameAs → ∀ entityId,
          after.clusterAt time read entityId ⊆ graph.clusterAt time read entityId := by
  have reached : ∀ entityId other, other ∈ graph.clusterAt time read entityId ↔
      Connected (graph.activeAt time) entityId other := fun entityId other =>
    mem_cluster_iff read entityId other
  refine ⟨?_, reached, ?_, ?_, ?_, ?_⟩
  · intro entityId result
    have ends := graph.cluster_ends (fun _ => ⟨time, time⟩) read entityId
    constructor
    · intro other
      exact other.unique ends
    · intro same
      rw [same]
      exact ends
  · intro entityId other member
    have connected := (reached entityId other).mp member
    exact (reached other entityId).mpr (connected.symm _ _)
  · intro first second third left right
    have before := (reached first second).mp left
    have after := (reached second third).mp right
    exact (reached first third).mpr (before.trans _ _ _ after)
  · rw [range_clusterAt]
    exact Setoid.isPartition_classes _
  · intro clock assertion after accepted different entityId
    exact clusterAt_subset (same_of_append accepted different) read entityId

end AssertionGraph

end DataHarness
