import DataHarness.Policy
import DataHarness.Semantic.Assertions
import DataHarness.Library.Transition

/-!
# Governed semantic memory

`GovernedSemanticMemory` as calls on a state: candidates are proposed, reviewed and promoted.
A run keeps its calls with whether each returned. In every run whose proposals are not
approved already, every promoted record was approved by a human before
(`MemoryInvariant`); a proposal that claims an approval of its own needs no review.
-/

namespace DataHarness

open Transition

/-- `MemoryCandidateStatus`. -/
inductive MemoryCandidateStatus
  | proposed
  | approved
  | rejected
  | promoted
deriving DecidableEq

/-- `MemoryScope`. -/
structure MemoryScope where
  organizationId : String
  solutionId : String
  agentIds : List String
  required : organizationId ≠ "" ∧ solutionId ≠ "" ∧ agentIds ≠ []

/-- `MemoryScope.allows`. -/
def MemoryScope.allows (scope : MemoryScope) (identity : RequestIdentity) : Bool :=
  identity.organizationId == scope.organizationId && identity.solutionId == scope.solutionId &&
    scope.agentIds.contains identity.agentId

/-- `SemanticMemoryCandidate`. Nothing ties the status to the review. -/
structure SemanticMemoryCandidate where
  candidateId : String
  assertion : SemanticAssertion
  proposedBy : String
  sourceSchemaDigest : String
  scope : MemoryScope
  status : MemoryCandidateStatus
  reviewedBy : Option String
  reviewedAt : Option DateTime
  required : candidateId ≠ "" ∧ proposedBy ≠ "" ∧ sourceSchemaDigest ≠ ""

/-- `PromotedSemanticMemory`. -/
structure PromotedSemanticMemory where
  candidateId : String
  assertion : SemanticAssertion
  scope : MemoryScope
  promotedBy : String
  promotedAt : DateTime

/-- `GovernedSemanticMemory`. -/
structure GovernedSemanticMemory where
  graph : AssertionGraph
  candidates : Dict SemanticMemoryCandidate
  promoted : Dict PromotedSemanticMemory

/-- The reviewer is a human steward. -/
def isHuman (reviewerId : String) : Bool := reviewerId.startsWith "human:"

namespace GovernedSemanticMemory

/-- `GovernedSemanticMemory(graph)`. -/
def ofGraph (graph : AssertionGraph) : GovernedSemanticMemory := ⟨graph, .empty, .empty⟩

/-- `propose`. -/
def propose (memory : GovernedSemanticMemory) (candidate : SemanticMemoryCandidate) :
    Except SemanticError GovernedSemanticMemory :=
  match memory.candidates.get? candidate.candidateId with
  | some _ => .error (.valueError ("memory candidate already exists: " ++ candidate.candidateId))
  | none => .ok { memory with
      candidates := memory.candidates.set candidate.candidateId candidate }

/-- `review`. -/
def review (memory : GovernedSemanticMemory) (candidateId reviewerId : String)
    (reviewedAt : DateTime) (approve : Bool) : Except SemanticError GovernedSemanticMemory :=
  if isHuman reviewerId = false then
    .error (.permissionError "semantic memory review requires a human steward")
  else if reviewedAt.aware = false then
    .error (.valueError "memory review time must be timezone-aware")
  else
    match memory.candidates.get? candidateId with
    | none => .error (.keyError candidateId)
    | some candidate =>
      if candidate.status ≠ .proposed then
        .error (.valueError "memory candidate has already been reviewed")
      else .ok { memory with
        candidates := memory.candidates.set candidateId { candidate with
          status := if approve then .approved else .rejected
          reviewedBy := some reviewerId
          reviewedAt := some reviewedAt } }

/-- The record `promote` stores for an approved candidate. -/
def record (candidate : SemanticMemoryCandidate) (reviewer : String) (reviewedAt : DateTime) :
    PromotedSemanticMemory :=
  ⟨candidate.candidateId, candidate.assertion, candidate.scope, reviewer, reviewedAt⟩

/-- `promote`, with the readings of the clock that appending the assertion makes. -/
def promote (memory : GovernedSemanticMemory) (clock : Nat → Reading) (candidateId : String) :
    Except SemanticError GovernedSemanticMemory :=
  match memory.candidates.get? candidateId with
  | none => .error (.keyError candidateId)
  | some candidate =>
    if candidate.status ≠ .approved then
      .error (.permissionError "only an approved semantic memory candidate can be promoted")
    else
      match candidate.reviewedBy, candidate.reviewedAt with
      | some reviewer, some reviewedAt =>
        match memory.graph.append clock candidate.assertion with
        | .error error => .error error
        | .ok graph => .ok {
            graph
            candidates := memory.candidates.set candidateId { candidate with status := .promoted }
            promoted := memory.promoted.set candidateId (record candidate reviewer reviewedAt) }
      | _, _ => .error .assertionError

/-- `view`: the records in scope, ordered by candidate id. -/
def view (memory : GovernedSemanticMemory) (identity : RequestIdentity) :
    List PromotedSemanticMemory :=
  (memory.promoted.sorted.filterMap memory.promoted.get?).filter fun record =>
    record.scope.allows identity

end GovernedSemanticMemory

/-! ## What a call that returns does -/

section Returned

variable {memory after : GovernedSemanticMemory}

/-- `propose` stores a new candidate. -/
theorem propose_ok {candidate : SemanticMemoryCandidate}
    (done : memory.propose candidate = .ok after) :
    memory.candidates.get? candidate.candidateId = none ∧
      after = { memory with candidates := memory.candidates.set candidate.candidateId candidate } := by
  unfold GovernedSemanticMemory.propose at done
  split at done
  · cases done
  · rename_i fresh
    exact ⟨fresh, (Except.ok.inj done).symm⟩

/-- `review` moves a proposed candidate, for a human. -/
theorem review_ok {candidateId reviewerId : String} {reviewedAt : DateTime} {approve : Bool}
    (done : memory.review candidateId reviewerId reviewedAt approve = .ok after) :
    ∃ candidate, isHuman reviewerId = true ∧
      memory.candidates.get? candidateId = some candidate ∧ candidate.status = .proposed ∧
        after = { memory with
          candidates := memory.candidates.set candidateId { candidate with
            status := if approve then .approved else .rejected
            reviewedBy := some reviewerId
            reviewedAt := some reviewedAt } } := by
  unfold GovernedSemanticMemory.review at done
  split at done
  · cases done
  · rename_i human
    split at done
    · cases done
    · split at done
      · cases done
      · rename_i candidate found
        split at done
        · cases done
        · rename_i waiting
          have decided : isHuman reviewerId = true := by simpa using human
          exact ⟨candidate, decided, found, not_not.mp waiting, (Except.ok.inj done).symm⟩

/-- `promote` appends the assertion of an approved candidate and stores its record. -/
theorem promote_ok {clock : Nat → Reading} {candidateId : String}
    (done : memory.promote clock candidateId = .ok after) :
    ∃ candidate reviewer reviewedAt graph,
      memory.candidates.get? candidateId = some candidate ∧ candidate.status = .approved ∧
        candidate.reviewedBy = some reviewer ∧ candidate.reviewedAt = some reviewedAt ∧
          memory.graph.append clock candidate.assertion = .ok graph ∧
            after = {
              graph
              candidates := memory.candidates.set candidateId { candidate with status := .promoted }
              promoted := memory.promoted.set candidateId
                (GovernedSemanticMemory.record candidate reviewer reviewedAt) } := by
  unfold GovernedSemanticMemory.promote at done
  split at done
  · cases done
  · rename_i candidate found
    split at done
    · cases done
    · rename_i approved
      split at done
      · rename_i reviewer reviewedAt author dated
        split at done
        · cases done
        · rename_i graph appended
          exact ⟨candidate, reviewer, reviewedAt, graph, found, not_not.mp approved, author, dated,
            appended, (Except.ok.inj done).symm⟩
      · cases done

end Returned

/-! ## Runs -/

/-- A call that may change the memory. -/
inductive MemoryCall
  | propose (candidate : SemanticMemoryCandidate)
  | review (candidateId reviewerId : String) (reviewedAt : DateTime) (approve : Bool)
  | promote (clock : Nat → Reading) (candidateId : String)

/-- The memory a call leaves. -/
def MemoryCall.perform (memory : GovernedSemanticMemory) :
    MemoryCall → Except SemanticError GovernedSemanticMemory
  | .propose candidate => memory.propose candidate
  | .review candidateId reviewerId reviewedAt approve =>
    memory.review candidateId reviewerId reviewedAt approve
  | .promote clock candidateId => memory.promote clock candidateId

/-- A call of a run, and whether it returned. -/
structure MemoryLabel where
  call : MemoryCall
  returned : Bool

/-- Calls on a memory; one that raises leaves it as it was. -/
def memorySystem : System GovernedSemanticMemory MemoryLabel where
  step memory label after :=
    match label.call.perform memory with
    | .ok next => label.returned = true ∧ after = next
    | .error _ => label.returned = false ∧ after = memory

/-- A human approved a candidate in a review that returned. -/
def Approved (labels : List MemoryLabel) (candidateId : String) : Prop :=
  ∃ reviewerId reviewedAt, isHuman reviewerId = true ∧
    ⟨.review candidateId reviewerId reviewedAt true, true⟩ ∈ labels

/-- A record was promoted by a call that returned, after a human's approval. -/
def Reviewed (labels : List MemoryLabel) (record : PromotedSemanticMemory) : Prop :=
  ∃ before after clock, labels = before ++ ⟨.promote clock record.candidateId, true⟩ :: after ∧
    Approved before record.candidateId

/-- Every record that is stored or shown to anyone was reviewed. -/
structure Gated (labels : List MemoryLabel) (memory : GovernedSemanticMemory) : Prop where
  stored : ∀ key record, memory.promoted.get? key = some record → Reviewed labels record
  viewed : ∀ identity, ∀ record ∈ memory.view identity, Reviewed labels record

/-- The candidate claims a review: it is approved, and names a reviewer and a time. -/
def SemanticMemoryCandidate.preapproved (candidate : SemanticMemoryCandidate) : Bool :=
  decide (candidate.status = .approved) && candidate.reviewedBy.isSome &&
    candidate.reviewedAt.isSome

/-- Only candidates of a kind are proposed. -/
def Proposes (offered : SemanticMemoryCandidate → Prop) (_ : GovernedSemanticMemory)
    (label : MemoryLabel) : Prop :=
  ∀ candidate, label.call = .propose candidate → offered candidate

/-- Approved candidates were approved by a human, and records are gated. -/
structure MemoryInvariant (labels : List MemoryLabel) (memory : GovernedSemanticMemory) :
    Prop where
  keyed : ∀ key candidate, memory.candidates.get? key = some candidate →
    candidate.candidateId = key
  approved : ∀ key candidate, memory.candidates.get? key = some candidate →
    candidate.preapproved = true → Approved labels key
  stored : ∀ key record, memory.promoted.get? key = some record → Reviewed labels record

section Invariant

variable {labels : List MemoryLabel} {memory after : GovernedSemanticMemory} {label : MemoryLabel}

/-- An approval stays in a longer run. -/
theorem Approved.more {candidateId : String} (approved : Approved labels candidateId)
    (label : MemoryLabel) : Approved (labels ++ [label]) candidateId := by
  obtain ⟨reviewerId, reviewedAt, human, member⟩ := approved
  exact ⟨reviewerId, reviewedAt, human, List.mem_append_left _ member⟩

/-- A reviewed record stays reviewed in a longer run. -/
theorem Reviewed.more {record : PromotedSemanticMemory} (reviewed : Reviewed labels record)
    (label : MemoryLabel) : Reviewed (labels ++ [label]) record := by
  obtain ⟨before, later, clock, rfl, approved⟩ := reviewed
  exact ⟨before, later ++ [label], clock, by simp, approved⟩

/-- A call that changes nothing keeps the invariant. -/
theorem MemoryInvariant.more (holds : MemoryInvariant labels memory) (label : MemoryLabel) :
    MemoryInvariant (labels ++ [label]) memory where
  keyed := holds.keyed
  approved key candidate found claims := (holds.approved key candidate found claims).more label
  stored key record found := (holds.stored key record found).more label

/-- A step returned, or left the memory as it was. -/
theorem memory_step_cases (step : memorySystem.step memory label after) :
    after = memory ∨ label.returned = true ∧ label.call.perform memory = .ok after := by
  simp only [memorySystem] at step
  split at step
  · rename_i next done
    obtain ⟨returned, rfl⟩ := step
    exact .inr ⟨returned, done⟩
  · exact .inl step.2

/-- Every step that proposes no approved candidate keeps the invariant. -/
theorem MemoryInvariant.step (holds : MemoryInvariant labels memory)
    (step : memorySystem.step memory label after)
    (unreviewed : Proposes (fun candidate => candidate.preapproved = false) memory label) :
    MemoryInvariant (labels ++ [label]) after := by
  rcases memory_step_cases step with rfl | ⟨returned, done⟩
  · exact holds.more label
  · obtain ⟨call, outcome⟩ := label
    obtain rfl : outcome = true := returned
    cases call with
    | propose candidate =>
      obtain ⟨fresh, rfl⟩ := propose_ok done
      have unapproved := unreviewed candidate rfl
      refine ⟨Dict.forall_set rfl holds.keyed, Dict.forall_set ?_ ?_, ?_⟩
      · intro claims
        rw [unapproved] at claims
        cases claims
      · exact fun key other found claims => (holds.approved key other found claims).more _
      · exact fun key record found => (holds.stored key record found).more _
    | review candidateId reviewerId reviewedAt approve =>
      obtain ⟨candidate, human, present, -, rfl⟩ := review_ok done
      have named := holds.keyed candidateId candidate present
      refine ⟨Dict.forall_set named holds.keyed, Dict.forall_set ?_ ?_, ?_⟩
      · intro claims
        cases approve with
        | true => exact ⟨reviewerId, reviewedAt, human, by simp⟩
        | false => simp [SemanticMemoryCandidate.preapproved] at claims
      · exact fun key other found claims => (holds.approved key other found claims).more _
      · exact fun key record found => (holds.stored key record found).more _
    | promote clock candidateId =>
      obtain ⟨candidate, reviewer, reviewedAt, graph, present, status, author, dated, -, rfl⟩ :=
        promote_ok done
      have named := holds.keyed candidateId candidate present
      refine ⟨Dict.forall_set named holds.keyed, Dict.forall_set ?_ ?_, Dict.forall_set ?_ ?_⟩
      · intro claims
        simp [SemanticMemoryCandidate.preapproved] at claims
      · exact fun key other found claims => (holds.approved key other found claims).more _
      · have claims : candidate.preapproved = true := by
          simp [SemanticMemoryCandidate.preapproved, status, author, dated]
        have approved := holds.approved candidateId candidate present claims
        refine ⟨labels, [], clock, ?_, ?_⟩
        · simp [GovernedSemanticMemory.record, named]
        · rw [← named] at approved
          exact approved
      · exact fun key record found => (holds.stored key record found).more _

/-- Every record shown is stored. -/
theorem stored_of_view {identity : RequestIdentity} {record : PromotedSemanticMemory}
    (shown : record ∈ memory.view identity) :
    ∃ key, memory.promoted.get? key = some record := by
  obtain ⟨listed, -⟩ := List.mem_filter.mp shown
  obtain ⟨key, -, found⟩ := List.mem_filterMap.mp listed
  exact ⟨key, found⟩

/-- In every run that proposes no approved candidate, the invariant holds. -/
theorem run_reviewed {graph : AssertionGraph}
    (run : (memorySystem.restrict
      (Proposes fun candidate => candidate.preapproved = false)).Run (.ofGraph graph) labels memory) :
    MemoryInvariant labels memory := by
  induction run with
  | nil =>
    refine ⟨fun _ _ found => ?_, fun _ _ found => ?_, fun _ _ found => ?_⟩
    · cases found
    · cases found
    · cases found
  | snoc _ step ih => exact ih.step step.1 step.2

end Invariant

/-! ## A proposal that claims its approval -/

/-- A graph without assertions accepts every assertion. -/
theorem append_empty (clock : Nat → Reading) (assertion : SemanticAssertion) :
    ∃ graph, AssertionGraph.empty.append clock assertion = .ok graph := by
  have alone : ∀ read entity,
      AssertionGraph.empty.equivalenceCluster clock read entity = ([entity], read + 1) := by
    intro read entity
    rfl
  have accepted : AssertionGraph.empty.checkIdentity clock assertion = .ok () := by
    unfold AssertionGraph.checkIdentity
    split
    · rename_i separate
      rw [alone, if_neg]
      intro member
      have same : assertion.objectId = assertion.subjectId := by simpa using member
      exact assertion.distinct ⟨same.symm, separate⟩
    · rfl
    · rfl
  have fresh : AssertionGraph.empty.assertions.get? assertion.assertionId = none := rfl
  simp only [AssertionGraph.append, fresh, accepted]
  exact ⟨_, rfl⟩

/-- Without a review no record is reviewed. -/
theorem not_reviewed {record : PromotedSemanticMemory} (none : ∀ label ∈ labels,
    ∀ candidateId reviewerId reviewedAt approve,
      label.call ≠ .review candidateId reviewerId reviewedAt approve) :
    ¬ Reviewed labels record := by
  rintro ⟨before, after, clock, same, reviewerId, reviewedAt, human, member⟩
  have inside := List.mem_append_left (⟨.promote clock record.candidateId, true⟩ :: after) member
  rw [← same] at inside
  exact none _ inside record.candidateId reviewerId reviewedAt true rfl

/-- Proposing an approved candidate and promoting it stores a record without a review. -/
theorem preapproved_ungated {candidate : SemanticMemoryCandidate}
    (claims : candidate.preapproved = true) (clock : Nat → Reading) :
    ∃ labels memory,
      (memorySystem.restrict (Proposes fun other => other = candidate)).Run (.ofGraph .empty) labels
        memory ∧ ∃ record, memory.promoted.get? candidate.candidateId = some record ∧
          ¬ Reviewed labels record := by
  simp only [SemanticMemoryCandidate.preapproved, Bool.and_eq_true, decide_eq_true_eq] at claims
  obtain ⟨⟨status, author⟩, dated⟩ := claims
  obtain ⟨reviewer, author⟩ := Option.isSome_iff_exists.mp author
  obtain ⟨reviewedAt, dated⟩ := Option.isSome_iff_exists.mp dated
  obtain ⟨graph, appended⟩ := append_empty clock candidate.assertion
  let proposed : GovernedSemanticMemory :=
    ⟨.empty, Dict.empty.set candidate.candidateId candidate, .empty⟩
  let promoted : GovernedSemanticMemory := {
    graph
    candidates := proposed.candidates.set candidate.candidateId
      { candidate with status := .promoted }
    promoted := Dict.empty.set candidate.candidateId
      (GovernedSemanticMemory.record candidate reviewer reviewedAt) }
  have present : proposed.candidates.get? candidate.candidateId = some candidate := by
    simp [proposed]
  have done : proposed.promote clock candidate.candidateId = .ok promoted := by
    unfold GovernedSemanticMemory.promote
    rw [present]
    simp [status, author, dated, proposed, promoted, appended]
  have first : (memorySystem.restrict (Proposes fun other => other = candidate)).step (.ofGraph .empty)
      ⟨.propose candidate, true⟩ proposed := by
    refine ⟨⟨rfl, rfl⟩, ?_⟩
    rintro _ ⟨⟩
    rfl
  have second : (memorySystem.restrict (Proposes fun other => other = candidate)).step proposed
      ⟨.promote clock candidate.candidateId, true⟩ promoted := by
    refine ⟨?_, ?_⟩
    · simp [memorySystem, MemoryCall.perform, done]
    · rintro _ ⟨⟩
  refine ⟨_, promoted, (System.Run.nil.snoc first).snoc second,
    GovernedSemanticMemory.record candidate reviewer reviewedAt, by simp [promoted], ?_⟩
  apply not_reviewed
  simp

/-- Promoted memory is gated by human review in every run exactly when no candidate that may be
proposed is approved already, with a reviewer and a time. -/
theorem gated_iff (offered : SemanticMemoryCandidate → Prop) :
    (∀ graph labels memory,
      (memorySystem.restrict (Proposes offered)).Run (.ofGraph graph) labels memory →
        Gated labels memory) ↔
      ∀ candidate, offered candidate → candidate.preapproved = false := by
  constructor
  · intro gated candidate allowed
    by_contra claims
    rw [Bool.not_eq_false] at claims
    obtain ⟨labels, memory, run, record, found, unreviewed⟩ :=
      preapproved_ungated claims fun _ => ⟨noon, noon⟩
    have wider := run.widen (Proposes offered) fun _ _ only other proposed => by
      rw [only other proposed]
      exact allowed
    exact unreviewed ((gated _ _ _ wider).stored _ record found)
  · intro unapproved graph labels memory run
    have holds := run_reviewed (run.widen (Proposes fun candidate => candidate.preapproved = false)
      fun _ _ only other proposed => unapproved other (only other proposed))
    refine ⟨holds.stored, fun identity record shown => ?_⟩
    obtain ⟨key, found⟩ := stored_of_view shown
    exact holds.stored key record found

/-- A candidate an agent proposes as approved by itself. -/
def selfApproved : SemanticMemoryCandidate where
  candidateId := "candidate"
  assertion := .small "assertion" "field" "concept" .mentions noon none (by decide) noon_aware
    noon_lasting
  proposedBy := "agent"
  sourceSchemaDigest := "schema"
  scope := ⟨"organization", "solution", ["agent"], by decide⟩
  status := .approved
  reviewedBy := some "agent"
  reviewedAt := some noon
  required := by decide

/-- Proposed as approved by itself, a candidate is promoted although nobody reviewed it. -/
theorem selfApproved_promoted : ∃ labels memory,
    (memorySystem.restrict (Proposes fun other => other = selfApproved)).Run (.ofGraph .empty) labels
      memory ∧ ¬ Gated labels memory := by
  have claims : selfApproved.preapproved = true := by decide
  obtain ⟨labels, memory, run, record, found, unreviewed⟩ :=
    preapproved_ungated claims fun _ => ⟨noon, noon⟩
  exact ⟨labels, memory, run, fun gated => unreviewed (gated.stored _ record found)⟩

end DataHarness
