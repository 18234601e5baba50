import DataHarness.Semantic.Consistency
import DataHarness.Semantic.Memory

/-!
# Promotion over three stores

`promote` changes the graph, the table of promoted records and the table of candidates one after
the other, and the first change may raise. The methods are written here statement by statement,
over a state that keeps what was changed before an exception (`Method`). Each of them raises
before its first change or not at all, so the stores agree after every run (`SharedInvariant`).
-/

namespace DataHarness

open Transition

/-! ## The methods, statement by statement -/

/-- A method of a memory. An exception keeps what was changed before it. -/
abbrev Method := EStateM SemanticError GovernedSemanticMemory

namespace Method

/-- Raising keeps the memory. -/
@[simp] theorem run_throw {α : Type} (error : SemanticError) (memory : GovernedSemanticMemory) :
    (throw error : Method α).run memory = .error error memory := rfl

/-- The value under a key, or a `KeyError`. -/
def item {α : Type} (found : Option α) (key : String) : Method α :=
  match found with
  | some value => pure value
  | none => throw (.keyError key)

/-- `assert value is not None`. -/
def assertPresent {α : Type} : Option α → Method α
  | some value => pure value
  | none => throw .assertionError

/-- `self.graph.append(assertion)`. -/
def append (clock : Nat → Reading) (assertion : SemanticAssertion) : Method Unit := do
  let memory ← get
  if (memory.graph.assertions.get? assertion.assertionId).isSome then
    throw (.valueError ("assertion already exists: " ++ assertion.assertionId))
  match memory.graph.checkIdentity clock assertion with
  | .error error => throw error
  | .ok () => set { memory with graph := { memory.graph with
      assertions := memory.graph.assertions.set assertion.assertionId assertion } }

/-- `self._candidates[key] = candidate`. -/
def setCandidate (key : String) (candidate : SemanticMemoryCandidate) : Method Unit :=
  modify fun memory => { memory with candidates := memory.candidates.set key candidate }

/-- `self._promoted[key] = record`. -/
def setPromoted (key : String) (record : PromotedSemanticMemory) : Method Unit :=
  modify fun memory => { memory with promoted := memory.promoted.set key record }

/-- `propose`. -/
def propose (candidate : SemanticMemoryCandidate) : Method Unit := do
  let memory ← get
  if (memory.candidates.get? candidate.candidateId).isSome then
    throw (.valueError ("memory candidate already exists: " ++ candidate.candidateId))
  setCandidate candidate.candidateId candidate

/-- `review`. -/
def review (candidateId reviewerId : String) (reviewedAt : DateTime) (approve : Bool) :
    Method Unit := do
  if isHuman reviewerId = false then
    throw (.permissionError "semantic memory review requires a human steward")
  if reviewedAt.aware = false then
    throw (.valueError "memory review time must be timezone-aware")
  let memory ← get
  let candidate ← item (memory.candidates.get? candidateId) candidateId
  if candidate.status ≠ .proposed then
    throw (.valueError "memory candidate has already been reviewed")
  setCandidate candidateId { candidate with
    status := if approve then .approved else .rejected
    reviewedBy := some reviewerId
    reviewedAt := some reviewedAt }

/-- `promote`. -/
def promote (clock : Nat → Reading) (candidateId : String) : Method Unit := do
  let memory ← get
  let candidate ← item (memory.candidates.get? candidateId) candidateId
  if candidate.status ≠ .approved then
    throw (.permissionError "only an approved semantic memory candidate can be promoted")
  let reviewer ← assertPresent candidate.reviewedBy
  let reviewedAt ← assertPresent candidate.reviewedAt
  append clock candidate.assertion
  setPromoted candidateId (GovernedSemanticMemory.record candidate reviewer reviewedAt)
  setCandidate candidateId { candidate with status := .promoted }

end Method

/-- The method a call runs. -/
def MemoryCall.method : MemoryCall → Method Unit
  | .propose candidate => Method.propose candidate
  | .review candidateId reviewerId reviewedAt approve =>
    Method.review candidateId reviewerId reviewedAt approve
  | .promote clock candidateId => Method.promote clock candidateId

/-- The outcome of a call whose state is known. -/
def outcome (memory : GovernedSemanticMemory) :
    Except SemanticError GovernedSemanticMemory →
      EStateM.Result SemanticError GovernedSemanticMemory Unit
  | .ok after => .ok () after
  | .error error => .error error memory

section Refinement

variable (memory : GovernedSemanticMemory)

/-- `propose` raises before it changes anything. -/
theorem propose_run (candidate : SemanticMemoryCandidate) :
    (Method.propose candidate).run memory = outcome memory (memory.propose candidate) := by
  unfold Method.propose GovernedSemanticMemory.propose
  cases found : memory.candidates.get? candidate.candidateId with
  | some other => simp [outcome, found]
  | none => simp [outcome, found, Method.setCandidate]

/-- `review` raises before it changes anything. -/
theorem review_run (candidateId reviewerId : String) (reviewedAt : DateTime) (approve : Bool) :
    (Method.review candidateId reviewerId reviewedAt approve).run memory =
      outcome memory (memory.review candidateId reviewerId reviewedAt approve) := by
  unfold Method.review GovernedSemanticMemory.review
  by_cases human : isHuman reviewerId = false
  · simp [outcome, human]
  · by_cases naive : reviewedAt.aware = false
    · simp [outcome, human, naive]
    · cases found : memory.candidates.get? candidateId with
      | none => simp [outcome, human, naive, found, Method.item]
      | some candidate =>
        by_cases waiting : candidate.status = .proposed
        · simp [outcome, human, naive, found, waiting, Method.item, Method.setCandidate]
        · simp [outcome, human, naive, found, waiting, Method.item]

/-- `append` raises before it changes anything. -/
theorem append_run (clock : Nat → Reading) (assertion : SemanticAssertion) :
    (Method.append clock assertion).run memory =
      match memory.graph.append clock assertion with
      | .ok graph => .ok () { memory with graph := graph }
      | .error error => .error error memory := by
  unfold Method.append AssertionGraph.append
  cases found : memory.graph.assertions.get? assertion.assertionId with
  | some other => simp [found]
  | none =>
    cases checked : memory.graph.checkIdentity clock assertion with
    | error error => simp [found, checked]
    | ok => simp [found, checked]

/-- `promote` raises before it changes anything: what follows the call of `append` cannot
raise. -/
theorem promote_run (clock : Nat → Reading) (candidateId : String) :
    (Method.promote clock candidateId).run memory =
      outcome memory (memory.promote clock candidateId) := by
  unfold Method.promote GovernedSemanticMemory.promote
  cases found : memory.candidates.get? candidateId with
  | none => simp [outcome, found, Method.item]
  | some candidate =>
    by_cases approved : candidate.status = .approved
    · cases author : candidate.reviewedBy with
      | none => simp [outcome, found, approved, author, Method.item, Method.assertPresent]
      | some reviewer =>
        cases dated : candidate.reviewedAt with
        | none => simp [outcome, found, approved, author, dated, Method.item, Method.assertPresent]
        | some reviewedAt =>
          have appended := append_run memory clock candidate.assertion
          cases graph : memory.graph.append clock candidate.assertion with
          | error error =>
            simp only [graph] at appended
            simp [outcome, found, approved, author, dated, Method.item, Method.assertPresent,
              appended, graph]
          | ok after =>
            simp only [graph] at appended
            simp [outcome, found, approved, author, dated, Method.item, Method.assertPresent,
              appended, graph, Method.setPromoted, Method.setCandidate]
    · simp [outcome, found, approved, Method.item]

/-- Every method does what its call does, or leaves the memory as it was. -/
theorem method_run (call : MemoryCall) :
    call.method.run memory = outcome memory (call.perform memory) := by
  cases call with
  | propose candidate => exact propose_run memory candidate
  | review candidateId reviewerId reviewedAt approve =>
    exact review_run memory candidateId reviewerId reviewedAt approve
  | promote clock candidateId => exact promote_run memory clock candidateId

end Refinement

/-! ## Runs -/

/-- Calls on a memory, statement by statement. -/
def methodSystem : System GovernedSemanticMemory MemoryLabel where
  step memory label after :=
    match label.call.method.run memory with
    | .ok () next => label.returned = true ∧ after = next
    | .error _ next => label.returned = false ∧ after = next

/-- The label of a `promote` of a candidate that returned. -/
def MemoryLabel.promotes (candidateId : String) (label : MemoryLabel) : Bool :=
  match label.call with
  | .promote _ other => label.returned && decide (other = candidateId)
  | _ => false

/-- The three stores agree, after a run. -/
structure SharedInvariant (labels : List MemoryLabel) (memory : GovernedSemanticMemory) :
    Prop where
  /-- A candidate is kept under its id. -/
  keyed : ∀ key candidate, memory.candidates.get? key = some candidate →
    candidate.candidateId = key
  /-- A record is kept under the id of its candidate. -/
  recorded : ∀ key record, memory.promoted.get? key = some record → record.candidateId = key
  /-- The assertion of a record is in the graph under its id. -/
  stored : ∀ key record, memory.promoted.get? key = some record →
    memory.graph.assertions.get? record.assertion.assertionId = some record.assertion
  /-- Two records have two assertions. -/
  distinct : ∀ left right first second, memory.promoted.get? left = some first →
    memory.promoted.get? right = some second →
      first.assertion.assertionId = second.assertion.assertionId → left = right
  /-- A candidate is promoted once. -/
  once : ∀ candidateId, labels.countP (·.promotes candidateId) ≤ 1
  /-- A candidate that was promoted is marked so. -/
  marked : ∀ candidateId, 0 < labels.countP (·.promotes candidateId) →
    ∃ candidate, memory.candidates.get? candidateId = some candidate ∧
      candidate.status = .promoted

section Invariant

variable {labels : List MemoryLabel} {memory after : GovernedSemanticMemory} {label : MemoryLabel}

/-- A step of the methods is a step of the calls. -/
theorem methodSystem_step :
    methodSystem.step memory label after ↔ memorySystem.step memory label after := by
  unfold methodSystem memorySystem
  dsimp only
  rw [method_run]
  cases label.call.perform memory with
  | ok next => exact Iff.rfl
  | error error => exact Iff.rfl

/-- A call that returns is a step. -/
theorem step_of_perform {call : MemoryCall} (done : call.perform memory = .ok after) :
    methodSystem.step memory ⟨call, true⟩ after := by
  unfold methodSystem
  dsimp only
  rw [method_run, done]
  exact ⟨rfl, rfl⟩

/-- A call that raises is a step that changes nothing. -/
theorem step_of_raised {call : MemoryCall} (raised : (call.perform memory).toBool = false) :
    methodSystem.step memory ⟨call, false⟩ memory := by
  unfold methodSystem
  dsimp only
  rw [method_run]
  cases done : call.perform memory with
  | ok after =>
    rw [done] at raised
    cases raised
  | error error => exact ⟨rfl, rfl⟩

/-- What a step adds to the promotions of a candidate. -/
theorem countP_append_label (candidateId : String) :
    (labels ++ [label]).countP (·.promotes candidateId) =
      labels.countP (·.promotes candidateId) + if label.promotes candidateId then 1 else 0 := by
  rw [List.countP_append, List.countP_singleton]

/-- A step that promotes nothing leaves the counts. -/
theorem countP_append_quiet (quiet : ∀ candidateId, label.promotes candidateId = false)
    (candidateId : String) :
    (labels ++ [label]).countP (·.promotes candidateId) =
      labels.countP (·.promotes candidateId) := by
  rw [countP_append_label, quiet]
  rfl

/-- A call that changes nothing and promotes nothing keeps the invariant. -/
theorem SharedInvariant.more (holds : SharedInvariant labels memory)
    (quiet : ∀ candidateId, label.promotes candidateId = false) :
    SharedInvariant (labels ++ [label]) memory where
  keyed := holds.keyed
  recorded := holds.recorded
  stored := holds.stored
  distinct := holds.distinct
  once candidateId := by
    rw [countP_append_quiet quiet]
    exact holds.once candidateId
  marked candidateId promoted := by
    rw [countP_append_quiet quiet] at promoted
    exact holds.marked candidateId promoted

/-- A candidate that is not marked may be replaced. -/
theorem SharedInvariant.setCandidate (holds : SharedInvariant labels memory)
    (quiet : ∀ candidateId, label.promotes candidateId = false) {key : String}
    {candidate : SemanticMemoryCandidate} (named : candidate.candidateId = key)
    (unmarked : ∀ old, memory.candidates.get? key = some old → old.status ≠ .promoted) :
    SharedInvariant (labels ++ [label])
      { memory with candidates := memory.candidates.set key candidate } where
  keyed := Dict.forall_set named holds.keyed
  recorded := holds.recorded
  stored := holds.stored
  distinct := holds.distinct
  once candidateId := by
    rw [countP_append_quiet quiet]
    exact holds.once candidateId
  marked candidateId promoted := by
    rw [countP_append_quiet quiet] at promoted
    obtain ⟨old, present, status⟩ := holds.marked candidateId promoted
    have other : key ≠ candidateId := by
      intro same
      rw [← same] at present
      exact unmarked old present status
    refine ⟨old, ?_, status⟩
    rw [Dict.get?_set, if_neg other]
    exact present

/-- An accepted assertion is new in the graph, and is stored under its id. -/
theorem append_get? {graph next : AssertionGraph} {clock : Nat → Reading}
    {assertion : SemanticAssertion} (appended : graph.append clock assertion = .ok next) :
    graph.assertions.get? assertion.assertionId = none ∧
      ∀ key, next.assertions.get? key =
        if assertion.assertionId = key then some assertion else graph.assertions.get? key := by
  obtain ⟨fresh, -, grown⟩ := AssertionGraph.of_append appended
  refine ⟨fresh, fun key => ?_⟩
  rw [grown]
  exact Dict.get?_set graph.assertions assertion.assertionId assertion key

/-- A promotion that returned is one of its own candidate only. -/
theorem promotes_promote (clock : Nat → Reading) (candidateId other : String) :
    MemoryLabel.promotes other ⟨.promote clock candidateId, true⟩ =
      decide (candidateId = other) := by
  simp [MemoryLabel.promotes]

/-- A promotion keeps the invariant. -/
theorem SharedInvariant.promote (holds : SharedInvariant labels memory) {clock : Nat → Reading}
    {candidateId : String} (done : memory.promote clock candidateId = .ok after) :
    SharedInvariant (labels ++ [⟨.promote clock candidateId, true⟩]) after := by
  obtain ⟨candidate, reviewer, reviewedAt, graph, present, approved, -, -, appended, rfl⟩ :=
    promote_ok done
  obtain ⟨fresh, kept⟩ := append_get? appended
  have named := holds.keyed candidateId candidate present
  -- The assertion is new, so no record stored before has its id.
  have foreign : ∀ key record, memory.promoted.get? key = some record →
      record.assertion.assertionId ≠ candidate.assertion.assertionId := by
    intro key record found same
    have inside := holds.stored key record found
    rw [same, fresh] at inside
    cases inside
  -- It is approved, so it was not promoted before.
  have never : labels.countP (·.promotes candidateId) = 0 := by
    by_contra some
    obtain ⟨old, found, marked⟩ := holds.marked candidateId (Nat.pos_of_ne_zero some)
    have same : candidate = old := Option.some.inj (present.symm.trans found)
    rw [← same, approved] at marked
    cases marked
  refine ⟨Dict.forall_set named holds.keyed, Dict.forall_set named holds.recorded,
    Dict.forall_set ?_ ?_, ?_, ?_, ?_⟩
  · rw [kept]
    exact if_pos rfl
  · intro key record found
    rw [kept, if_neg (foreign key record found).symm]
    exact holds.stored key record found
  · intro left right first second one two same
    rw [Dict.get?_set] at one two
    split at one
    · rename_i here
      obtain rfl := Option.some.inj one
      split at two
      · rename_i there
        exact here.symm.trans there
      · exact absurd same.symm (foreign right second two)
    · split at two
      · obtain rfl := Option.some.inj two
        exact absurd same (foreign left first one)
      · exact holds.distinct left right first second one two same
  · intro other
    rw [countP_append_label, promotes_promote]
    by_cases same : candidateId = other
    · subst same
      rw [never, if_pos (decide_eq_true rfl)]
    · rw [decide_eq_false same]
      exact holds.once other
  · intro other promoted
    rw [countP_append_label, promotes_promote] at promoted
    by_cases same : candidateId = other
    · subst same
      exact ⟨_, by rw [Dict.get?_set, if_pos rfl], rfl⟩
    · rw [decide_eq_false same] at promoted
      obtain ⟨old, found, marked⟩ := holds.marked other promoted
      refine ⟨old, ?_, marked⟩
      rw [Dict.get?_set, if_neg same]
      exact found

/-- Every step keeps the invariant. -/
theorem SharedInvariant.step (holds : SharedInvariant labels memory)
    (step : methodSystem.step memory label after) :
    SharedInvariant (labels ++ [label]) after := by
  have called := methodSystem_step.mp step
  obtain ⟨call, returned⟩ := label
  unfold memorySystem at called
  dsimp only at called
  cases done : call.perform memory with
  | error error =>
    rw [done] at called
    obtain ⟨rfl, rfl⟩ := called
    apply holds.more
    intro candidateId
    cases call <;> rfl
  | ok next =>
    rw [done] at called
    obtain ⟨rfl, rfl⟩ := called
    cases call with
    | propose candidate =>
      obtain ⟨fresh, rfl⟩ := propose_ok done
      refine holds.setCandidate (fun _ => rfl) rfl fun old found => ?_
      rw [fresh] at found
      cases found
    | review candidateId reviewerId reviewedAt approve =>
      obtain ⟨candidate, -, present, waiting, rfl⟩ := review_ok done
      have named := holds.keyed candidateId candidate present
      refine holds.setCandidate (fun _ => rfl) named fun old found marked => ?_
      have same : candidate = old := Option.some.inj (present.symm.trans found)
      rw [← same, waiting] at marked
      cases marked
    | promote clock candidateId => exact holds.promote done

/-- The invariant holds after every run over any graph. -/
theorem run_shared {graph : AssertionGraph}
    (run : methodSystem.Run (.ofGraph graph) labels memory) : SharedInvariant labels memory := by
  induction run with
  | nil =>
    refine ⟨?_, ?_, ?_, ?_, ?_, ?_⟩
    · intro _ _ found
      cases found
    · intro _ _ found
      cases found
    · intro _ _ found
      cases found
    · intro _ _ _ _ found
      cases found
    · intro _
      exact Nat.zero_le 1
    · intro _ some
      cases some
  | snoc _ step ih => exact ih.step step

end Invariant

/-! ## What an identity sees -/

/-- The scope of a record names the organization, the solution and the agent of an identity. -/
def Names (scope : MemoryScope) (identity : RequestIdentity) : Prop :=
  scope.organizationId = identity.organizationId ∧ scope.solutionId = identity.solutionId ∧
    identity.agentId ∈ scope.agentIds

/-- A scope allows an identity exactly when it names it. -/
theorem allows_iff {scope : MemoryScope} {identity : RequestIdentity} :
    scope.allows identity = true ↔ Names scope identity := by
  simp only [MemoryScope.allows, Names, Bool.and_eq_true, beq_iff_eq, List.contains_iff_mem,
    and_assoc]
  constructor
  · rintro ⟨organization, solution, agent⟩
    exact ⟨organization.symm, solution.symm, agent⟩
  · rintro ⟨organization, solution, agent⟩
    exact ⟨organization.symm, solution.symm, agent⟩

/-- The sorted keys of a dictionary rise. -/
theorem sorted_rising {α : Type} (dict : Dict α) : dict.sorted.Pairwise (· < ·) := by
  have ordered : dict.sorted.Pairwise (· ≤ ·) := List.pairwise_insertionSort _ _
  have different : dict.sorted.Nodup :=
    (List.perm_insertionSort _ _).nodup_iff.mpr dict.distinct
  exact ordered.imp₂ (fun _ _ below apart => lt_of_le_of_ne below apart) different

section View

variable {labels : List MemoryLabel} {memory : GovernedSemanticMemory}

/-- A view shows the stored records in scope. -/
theorem mem_view {identity : RequestIdentity} {record : PromotedSemanticMemory} :
    record ∈ memory.view identity ↔
      (∃ key, memory.promoted.get? key = some record) ∧ Names record.scope identity := by
  unfold GovernedSemanticMemory.view
  rw [List.mem_filter, allows_iff, List.mem_filterMap]
  refine and_congr_left fun _ => ?_
  constructor
  · rintro ⟨key, -, found⟩
    exact ⟨key, found⟩
  · rintro ⟨key, found⟩
    have listed : key ∈ memory.promoted.keys := Dict.mem_keys.mpr ⟨record, found⟩
    exact ⟨key, (List.perm_insertionSort _ _).mem_iff.mpr listed, found⟩

/-- A view rises by candidate id. -/
theorem SharedInvariant.view_rising (holds : SharedInvariant labels memory)
    (identity : RequestIdentity) :
    (memory.view identity).Pairwise fun left right => left.candidateId < right.candidateId := by
  apply List.Pairwise.filter
  rw [List.pairwise_filterMap]
  refine (sorted_rising memory.promoted).imp fun below first one second two => ?_
  rw [holds.recorded _ first one, holds.recorded _ second two]
  exact below

end View

/-- What holds of a memory after a run: a promotion that raises changes nothing, the stores agree,
no candidate is promoted twice, and a view shows what is in scope, in order. -/
structure PromotionCoherent (labels : List MemoryLabel) (memory : GovernedSemanticMemory) :
    Prop where
  atomic : ∀ clock candidateId error after,
    (Method.promote clock candidateId).run memory = .error error after → after = memory
  stored : ∀ key record, memory.promoted.get? key = some record →
    memory.graph.assertions.get? record.assertion.assertionId = some record.assertion
  distinct : ∀ left right first second, memory.promoted.get? left = some first →
    memory.promoted.get? right = some second → left ≠ right →
      first.assertion.assertionId ≠ second.assertion.assertionId
  once : ∀ candidateId, labels.countP (·.promotes candidateId) ≤ 1
  viewed : ∀ identity record, record ∈ memory.view identity ↔
    (∃ key, memory.promoted.get? key = some record) ∧ Names record.scope identity
  ordered : ∀ identity,
    (memory.view identity).Pairwise fun left right => left.candidateId < right.candidateId

/-- Over every graph, every run of proposals, reviews and promotions leaves a coherent memory. -/
theorem promotion_coherent {graph : AssertionGraph} {labels : List MemoryLabel}
    {memory : GovernedSemanticMemory}
    (run : methodSystem.Run (.ofGraph graph) labels memory) : PromotionCoherent labels memory := by
  have holds := run_shared run
  refine ⟨?_, holds.stored, ?_, holds.once, fun _ _ => mem_view, holds.view_rising⟩
  · intro clock candidateId error after raised
    rw [promote_run] at raised
    cases done : memory.promote clock candidateId with
    | ok next =>
      rw [done] at raised
      cases raised
    | error other =>
      rw [done] at raised
      cases raised
      rfl
  · intro left right first second one two apart same
    exact apart (holds.distinct left right first second one two same)

/-- A candidate whose assertion is in the graph already. -/
def rivalCandidate : SemanticMemoryCandidate :=
  { selfApproved with candidateId := "rival", required := by decide }

/-- A candidate is proposed and promoted; so is a second one, whose promotion raises. -/
theorem promotion_coherent_small : ∃ labels memory,
    methodSystem.Run (.ofGraph .empty) labels memory ∧ memory.promoted.keys = ["candidate"] ∧
      memory.candidates.keys = ["candidate", "rival"] ∧
      labels.map (·.returned) = [true, true, true, false] ∧ PromotionCoherent labels memory := by
  let clock : Nat → Reading := fun _ => ⟨noon, noon⟩
  let proposed : GovernedSemanticMemory :=
    ⟨.empty, Dict.empty.set "candidate" selfApproved, .empty⟩
  let promoted := (proposed.promote clock "candidate").toOption.getD proposed
  let both : GovernedSemanticMemory :=
    { promoted with candidates := promoted.candidates.set "rival" rivalCandidate }
  have first : methodSystem.step (.ofGraph .empty) ⟨.propose selfApproved, true⟩ proposed :=
    step_of_perform (by rfl)
  have second : methodSystem.step proposed ⟨.promote clock "candidate", true⟩ promoted :=
    step_of_perform (by rfl)
  have third : methodSystem.step promoted ⟨.propose rivalCandidate, true⟩ both := step_of_perform (by rfl)
  have fourth : methodSystem.step both ⟨.promote clock "rival", false⟩ both :=
    step_of_raised (by decide)
  have run := (((System.Run.nil.snoc first).snoc second).snoc third).snoc fourth
  exact ⟨_, both, run, by decide, by decide, rfl, promotion_coherent run⟩

end DataHarness
