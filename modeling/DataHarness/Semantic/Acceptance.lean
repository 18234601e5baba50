import DataHarness.Semantic.Consistency

/-!
# Which assertions a graph accepts

While the clock stands still, an identity cluster is exactly what active assertions of sameness
connect, and `append` refuses an assertion exactly when it would contradict what is active.
-/

namespace DataHarness

/-- What is active in a graph while the clock stands still. -/
def AssertionGraph.activeAt (graph : AssertionGraph) (time : DateTime) : Set SemanticAssertion :=
  {item | item ∈ graph.active ⟨time, time⟩}

/-- An assertion is active at an instant once it is in a graph. -/
def AssertionGraph.Admits (graph : AssertionGraph) (time : DateTime)
    (assertion : SemanticAssertion) : Prop :=
  graph.known assertion.assertionId assertion time = true ∧ assertion.validDuring time = true

/-- What a call leaves and raises: one that raises leaves the graph as it was. -/
def GraphCall.settle (graph : AssertionGraph) (call : GraphCall) :
    AssertionGraph × Except SemanticError Unit :=
  match call.perform graph with
  | .ok next => (next, .ok ())
  | .error error => (graph, .error error)

namespace AssertionGraph

variable {graph : AssertionGraph} {time : DateTime} {assertion : SemanticAssertion}

/-- While the clock stands still, a cluster is what active assertions connect. -/
theorem mem_cluster_iff (read : Nat) (entityId other : String) :
    other ∈ (graph.equivalenceCluster (fun _ => ⟨time, time⟩) read entityId).1 ↔
      Connected (graph.activeAt time) entityId other := by
  constructor
  · intro member
    have relates : ∀ _round : Nat, ∀ edge ∈ sameEdges (graph.active ⟨time, time⟩),
        ∃ item ∈ graph.activeAt time, item.predicate = .sameAs ∧
          edge.1 = item.subjectId ∧ edge.2 = item.objectId := by
      intro _ edge member
      obtain ⟨item, among, rfl⟩ := List.mem_map.mp member
      obtain ⟨active, same⟩ := List.mem_filter.mp among
      exact ⟨item, active, by simpa using same, rfl, rfl⟩
    have start : Component.Reached (fun left right => ∃ item ∈ graph.activeAt time,
        item.predicate = .sameAs ∧ left = item.subjectId ∧ right = item.objectId) entityId
        [entityId] := by
      intro x own
      rw [List.mem_singleton.mp own]
      exact .refl entityId
    exact start.grow relates other member
  · exact mem_cluster (fun item active _ => active) read

/-- An assertion connects two entities and tells them from two others. -/
def Crosses (items : Set SemanticAssertion) (assertion item : SemanticAssertion) : Prop :=
  Connected items assertion.subjectId item.subjectId ∧
      Connected items assertion.objectId item.objectId ∨
    Connected items assertion.objectId item.subjectId ∧
      Connected items assertion.subjectId item.objectId

/-- What the search of a check for a crossing finds. -/
theorem any_separates (read next : Nat) :
    ((graph.active ⟨time, time⟩).any fun item => separates item
      (graph.equivalenceCluster (fun _ => ⟨time, time⟩) read assertion.subjectId).1
      (graph.equivalenceCluster (fun _ => ⟨time, time⟩) next assertion.objectId).1) = true ↔
        ∃ item ∈ graph.activeAt time, item.predicate = .notSameAs ∧
          Crosses (graph.activeAt time) assertion item := by
  simp only [List.any_eq_true, separates, Bool.and_eq_true, Bool.or_eq_true, decide_eq_true_eq,
    mem_cluster_iff, Crosses]
  constructor
  · rintro ⟨item, active, different, crossing | ⟨subject, object⟩⟩
    · exact ⟨item, active, different, .inl crossing⟩
    · exact ⟨item, active, different, .inr ⟨subject, object⟩⟩
  · rintro ⟨item, active, different, crossing | ⟨subject, object⟩⟩
    · exact ⟨item, active, different, .inl crossing⟩
    · exact ⟨item, active, different, .inr ⟨subject, object⟩⟩

/-- An assertion contradicts what is active: it tells connected entities apart, or connects
entities that are told apart. -/
def Contradicts (items : Set SemanticAssertion) (assertion : SemanticAssertion) : Prop :=
  assertion.predicate = .notSameAs ∧
      Connected items assertion.subjectId assertion.objectId ∨
    assertion.predicate = .sameAs ∧
      ∃ item ∈ items, item.predicate = .notSameAs ∧ Crosses items assertion item

/-- A check passes or raises a contradiction, by what is active while the clock stands still. -/
theorem checkIdentity_spec :
    ¬ Contradicts (graph.activeAt time) assertion ∧
        graph.checkIdentity (fun _ => ⟨time, time⟩) assertion = .ok () ∨
      Contradicts (graph.activeAt time) assertion ∧ ∃ message,
        graph.checkIdentity (fun _ => ⟨time, time⟩) assertion =
          .error (.semanticContradiction message) := by
  unfold checkIdentity Contradicts
  cases assertion.predicate with
  | mentions => simp
  | notSameAs =>
    dsimp only
    split
    · rename_i member
      exact .inr ⟨.inl ⟨rfl, (mem_cluster_iff 0 _ _).mp member⟩, _, rfl⟩
    · rename_i apart
      refine .inl ⟨?_, rfl⟩
      rintro (⟨-, connected⟩ | ⟨other, -⟩)
      · exact apart ((mem_cluster_iff 0 _ _).mpr connected)
      · cases other
  | sameAs =>
    dsimp only
    split
    · rename_i found
      exact .inr ⟨.inr ⟨rfl, (any_separates _ _).mp found⟩, _, rfl⟩
    · rename_i none
      refine .inl ⟨?_, rfl⟩
      rintro (⟨other, -⟩ | ⟨-, crossing⟩)
      · cases other
      · exact none ((any_separates _ _).mpr crossing)

/-- One more assertion makes a set contradictory exactly when it contradicts it. -/
theorem contradicts_iff {items : Set SemanticAssertion} (free : ContradictionFree items) :
    Contradicts items assertion ↔ ¬ ContradictionFree (insert assertion items) := by
  have grows : ∀ {left right}, Connected items left right →
      Connected (insert assertion items) left right := by
    intro left right connected
    refine connected.mono fun x y edge => ?_
    obtain ⟨item, member, rest⟩ := edge
    exact ⟨item, .inr member, rest⟩
  constructor
  · rintro (⟨different, connected⟩ | ⟨same, item, member, different, crosses⟩) still
    · exact still assertion (.inl rfl) different (grows connected)
    · have edge : Connected (insert assertion items) assertion.subjectId assertion.objectId :=
        .rel _ _ ⟨assertion, .inl rfl, same, rfl, rfl⟩
      apply still item (.inr member) different
      rcases crosses with ⟨subject, object⟩ | ⟨subject, object⟩
      · exact ((grows subject).symm _ _).trans _ _ _ (edge.trans _ _ _ (grows object))
      · exact ((grows subject).symm _ _).trans _ _ _
          ((edge.symm _ _).trans _ _ _ (grows object))
  · intro broken
    by_contra harmless
    apply broken
    intro item member different connected
    by_cases same : assertion.predicate = .sameAs
    · rcases member with rfl | inside
      · rw [different] at same
        cases same
      · rcases connected_insert_same connected with direct | ⟨left, right⟩ | ⟨left, right⟩
        · exact free item inside different direct
        · exact harmless (.inr ⟨same, item, inside, different, .inl ⟨left.symm _ _, right⟩⟩)
        · exact harmless (.inr ⟨same, item, inside, different, .inr ⟨left.symm _ _, right⟩⟩)
    · have direct := connected_insert_other same connected
      rcases member with rfl | inside
      · exact harmless (.inl ⟨different, direct⟩)
      · exact free item inside different direct

/-- An assertion is active when it is in the graph, known and valid. -/
theorem mem_activeAt {item : SemanticAssertion} :
    item ∈ graph.activeAt time ↔ ∃ key, graph.assertions.get? key = some item ∧
      graph.known key item time = true ∧ item.validDuring time = true := by
  unfold activeAt active
  simp only [Set.mem_ofPred_eq, List.mem_map, List.mem_filter, Bool.and_eq_true, Prod.exists,
    Dict.get?_eq_some]
  constructor
  · rintro ⟨key, _, ⟨present, holds⟩, rfl⟩
    exact ⟨key, present, holds⟩
  · rintro ⟨key, present, holds⟩
    exact ⟨key, item, ⟨present, holds⟩, rfl⟩

/-- A fresh assertion that is active once it is in the graph joins what is active. -/
theorem activeAt_set (fresh : graph.assertions.get? assertion.assertionId = none)
    (admitted : graph.Admits time assertion) :
    activeAt { graph with assertions := graph.assertions.set assertion.assertionId assertion }
      time = insert assertion (graph.activeAt time) := by
  ext item
  rw [Set.mem_insert_iff, mem_activeAt, mem_activeAt]
  simp only [Dict.get?_set]
  constructor
  · rintro ⟨key, present, holds⟩
    split at present
    · exact .inl (Option.some.inj present).symm
    · exact .inr ⟨key, present, holds⟩
  · rintro (rfl | ⟨key, present, holds⟩)
    · exact ⟨item.assertionId, if_pos rfl, admitted⟩
    · refine ⟨key, ?_, holds⟩
      rw [if_neg, present]
      intro same
      rw [same, present] at fresh
      cases fresh

/-- While the clock stands still, a fresh assertion is appended or refused by what is active. -/
theorem settle_append (fresh : graph.assertions.get? assertion.assertionId = none) :
    ¬ Contradicts (graph.activeAt time) assertion ∧
        (GraphCall.append (fun _ => ⟨time, time⟩) assertion).settle graph =
          ({ graph with assertions := graph.assertions.set assertion.assertionId assertion },
            .ok ()) ∨
      Contradicts (graph.activeAt time) assertion ∧ ∃ message,
        (GraphCall.append (fun _ => ⟨time, time⟩) assertion).settle graph =
          (graph, .error (.semanticContradiction message)) := by
  have checks := @checkIdentity_spec graph time assertion
  rcases checks with ⟨harmless, checked⟩ | ⟨contradicts, message, checked⟩
  · refine .inl ⟨harmless, ?_⟩
    simp only [GraphCall.settle, GraphCall.perform, append, fresh, checked]
  · refine .inr ⟨contradicts, message, ?_⟩
    simp only [GraphCall.settle, GraphCall.perform, append, fresh, checked]

/-- While the clock stands still and nothing active is contradictory, `append` refuses a fresh
assertion exactly when it would make what is active contradictory, and then changes nothing;
otherwise the assertion joins what is active, which stays free of contradiction. A mention is never
refused. -/
theorem append_exact (free : ContradictionFree (graph.activeAt time))
    (fresh : graph.assertions.get? assertion.assertionId = none)
    (admitted : graph.Admits time assertion) :
    ((∃ message, (GraphCall.append (fun _ => ⟨time, time⟩) assertion).settle graph =
        (graph, .error (.semanticContradiction message))) ↔
      ¬ ContradictionFree (insert assertion (graph.activeAt time))) ∧
    (∀ next error, (GraphCall.append (fun _ => ⟨time, time⟩) assertion).settle graph =
        (next, .error error) → next = graph ∧ ∃ message, error = .semanticContradiction message) ∧
    (∀ next, (GraphCall.append (fun _ => ⟨time, time⟩) assertion).settle graph = (next, .ok ()) →
      next.activeAt time = insert assertion (graph.activeAt time) ∧
        ContradictionFree (next.activeAt time)) ∧
    (assertion.predicate = .mentions → ∃ next,
      (GraphCall.append (fun _ => ⟨time, time⟩) assertion).settle graph = (next, .ok ())) := by
  have joins := activeAt_set fresh admitted
  have settles := @settle_append graph time assertion fresh
  rcases settles with ⟨harmless, settled⟩ | ⟨contradicts, text, settled⟩
  · have still : ContradictionFree (insert assertion (graph.activeAt time)) := by
      by_contra broken
      exact harmless ((contradicts_iff free).mpr broken)
    rw [settled]
    refine ⟨by simp [still], by simp, ?_, fun _ => ⟨_, rfl⟩⟩
    intro next left
    rw [← (Prod.mk.inj left).1, joins]
    exact ⟨rfl, still⟩
  · rw [settled]
    refine ⟨by simp [(contradicts_iff free).mp contradicts], ?_, by simp, ?_⟩
    · intro next error left
      obtain ⟨same, raised⟩ := Prod.mk.inj left
      exact ⟨same.symm, text, (Except.error.inj raised).symm⟩
    · intro mentions
      rcases contradicts with ⟨other, -⟩ | ⟨other, -⟩
      · simp [mentions] at other
      · simp [mentions] at other

/-- The entities `a` and `b` are the same from noon on. -/
def nowSame : SemanticAssertion :=
  .small "same" "a" "b" .sameAs noon none same_named noon_aware noon_lasting

/-- An assertion that tells apart two entities that are the same is refused. -/
theorem append_exact_small :
    ∃ message, (GraphCall.append (fun _ => ⟨noon, noon⟩) areDifferent).settle
        ⟨Dict.empty.set "same" nowSame, .empty⟩ =
      (⟨Dict.empty.set "same" nowSame, .empty⟩, .error (.semanticContradiction message)) := by
  let graph : AssertionGraph := ⟨Dict.empty.set "same" nowSame, .empty⟩
  have active : ∀ item ∈ graph.activeAt noon, item = nowSame := by
    intro item member
    have listed : graph.active ⟨noon, noon⟩ = [nowSame] := rfl
    exact List.mem_singleton.mp (listed ▸ member)
  have free : ContradictionFree (graph.activeAt noon) := by
    intro item member different
    rw [active item member] at different
    cases different
  have same : nowSame ∈ graph.activeAt noon := List.mem_singleton.mpr rfl
  have admitted : graph.Admits noon areDifferent := ⟨by decide, by decide⟩
  apply (append_exact free (show graph.assertions.get? areDifferent.assertionId = none by rfl)
    admitted).1.mpr
  intro still
  apply still areDifferent (.inl rfl) rfl
  exact .rel _ _ ⟨nowSame, .inr same, rfl, rfl, rfl⟩

end AssertionGraph

end DataHarness
