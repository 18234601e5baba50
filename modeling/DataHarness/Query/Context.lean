import DataHarness.Query.Coverage
import DataHarness.Semantic.Routing

/-!
# Grounded answers

`ContextEnvelope` holds an answer with its route, its coverage and its provenance, or a refusal or
an escalation with its reasons. An answer needs a complete route and a complete coverage of the
same request; which sources they are about is checked of neither against the other.
-/

namespace DataHarness

/-- `ContextOutcome`. -/
inductive ContextOutcome
  | answer
  | refusal
  | escalation
deriving DecidableEq

/-- `RouteDecision.complete`. -/
def RouteDecision.complete (decision : RouteDecision) : Bool :=
  decision.status = .selected && decision.uncoveredConcepts.isEmpty

/-- The route status of a refusal or an escalation. -/
def ContextOutcome.expected (outcome : ContextOutcome) : RouteStatus :=
  if outcome = .escalation then .escalationRequired else .refused

/-- `ContextEnvelope`. -/
structure ContextEnvelope where
  requestId : String
  outcome : ContextOutcome
  content : Option String
  route : RouteDecision
  coverage : CoverageStatement
  lineage : List LineageRef
  reasonCodes : List String
  /-- Context and route request identities match. -/
  routed : requestId ≠ "" ∧ requestId = route.requestId
  /-- Context and coverage request identities match. -/
  covered : requestId = coverage.requestId
  /-- Answers require content, a complete route and complete coverage. -/
  answered : outcome = .answer →
    content.getD "" ≠ "" ∧ route.complete = true ∧ coverage.isComplete = true
  /-- Answers require exact provenance. -/
  provenance : outcome = .answer → lineage ≠ []
  /-- A refusal or an escalation requires reasons and no answer content. -/
  reasoned : outcome ≠ .answer → content = none ∧ reasonCodes ≠ []
  /-- The outcome matches the route status. -/
  matching : outcome ≠ .answer → route.status = outcome.expected

namespace ContextEnvelope

/-- `ContextEnvelope(…)`; an error is the text of its `ValueError`. -/
def make (requestId : String) (outcome : ContextOutcome) (content : Option String)
    (route : RouteDecision) (coverage : CoverageStatement) (lineage : List LineageRef)
    (reasonCodes : List String) : Except String ContextEnvelope :=
  if routed : requestId ≠ "" ∧ requestId = route.requestId then
    if covered : requestId = coverage.requestId then
      if answer : outcome = .answer then
        if answered : content.getD "" ≠ "" ∧ route.complete = true ∧
            coverage.isComplete = true then
          if provenance : lineage ≠ [] then
            .ok ⟨requestId, outcome, content, route, coverage, lineage, reasonCodes, routed,
              covered, fun _ => answered, fun _ => provenance, absurd answer, absurd answer⟩
          else .error "answers require exact provenance"
        else .error "answers require content, a complete route and complete coverage"
      else
        if reasoned : content = none ∧ reasonCodes ≠ [] then
          if matching : route.status = outcome.expected then
            .ok ⟨requestId, outcome, content, route, coverage, lineage, reasonCodes, routed,
              covered, fun same => absurd same answer, fun same => absurd same answer,
              fun _ => reasoned, fun _ => matching⟩
          else .error "context outcome must match route status"
        else .error "refusal/escalation requires reasons and no answer content"
    else .error "context and coverage request identities must match"
  else .error "context and route request identities must match"

/-- Every envelope is made of its own fields. -/
theorem make_self (envelope : ContextEnvelope) :
    make envelope.requestId envelope.outcome envelope.content envelope.route envelope.coverage
      envelope.lineage envelope.reasonCodes = .ok envelope := by
  unfold make
  rw [dif_pos envelope.routed, dif_pos envelope.covered]
  by_cases answer : envelope.outcome = .answer
  · rw [dif_pos answer, dif_pos (envelope.answered answer), dif_pos (envelope.provenance answer)]
  · rw [dif_neg answer, dif_pos (envelope.reasoned answer), dif_pos (envelope.matching answer)]

/-- An envelope that is made holds what it is made of. -/
theorem of_make {requestId : String} {outcome : ContextOutcome} {content : Option String}
    {route : RouteDecision} {coverage : CoverageStatement} {lineage : List LineageRef}
    {reasonCodes : List String} {envelope : ContextEnvelope}
    (made : make requestId outcome content route coverage lineage reasonCodes = .ok envelope) :
    envelope.requestId = requestId ∧ envelope.outcome = outcome ∧ envelope.content = content ∧
      envelope.route = route ∧ envelope.coverage = coverage ∧ envelope.lineage = lineage ∧
      envelope.reasonCodes = reasonCodes := by
  unfold make at made
  split at made
  · split at made
    · split at made
      · split at made
        · split at made
          · obtain rfl := Except.ok.inj made
            exact ⟨rfl, rfl, rfl, rfl, rfl, rfl, rfl⟩
          · cases made
        · cases made
      · split at made
        · split at made
          · obtain rfl := Except.ok.inj made
            exact ⟨rfl, rfl, rfl, rfl, rfl, rfl, rfl⟩
          · cases made
        · cases made
    · cases made
  · cases made

end ContextEnvelope

/-- A coverage statement says something about a source: it includes, excludes or expects it. -/
def CoverageStatement.Mentions (statement : CoverageStatement) (sourceId : String) : Prop :=
  sourceId ∈ statement.included.map SourceCoverage.sourceId ∨
    sourceId ∈ statement.excluded.map CoverageExclusion.sourceId ∨
    sourceId ∈ statement.expectedSources

/-- A complete statement includes a source completely exactly when it mentions it. -/
theorem CoverageStatement.includes_iff_mentions {statement : CoverageStatement}
    (complete : statement.isComplete = true) (sourceId : String) :
    (∃ item ∈ statement.included, item.sourceId = sourceId ∧ item.complete = true) ↔
      statement.Mentions sourceId := by
  have ⟨expected, excluded, included⟩ := of_isComplete complete
  have found : sourceId ∈ statement.included.map SourceCoverage.sourceId →
      ∃ item ∈ statement.included, item.sourceId = sourceId ∧ item.complete = true := by
    intro member
    have ⟨item, inside, same⟩ := List.mem_map.mp member
    exact ⟨item, inside, same, included item inside⟩
  constructor
  · intro ⟨item, inside, same, _⟩
    exact .inl (List.mem_map.mpr ⟨item, inside, same⟩)
  · intro mentioned
    rcases mentioned with member | member | member
    · exact found member
    · rw [excluded] at member
      cases member
    · exact found (expected sourceId member)

/-- An answer that is accepted has its route and its coverage of one request, and a source its
route selects is included completely in its coverage exactly when the coverage mentions it. -/
theorem selected_covered_iff {requestId : String} {content : Option String}
    {route : RouteDecision} {coverage : CoverageStatement} {lineage : List LineageRef}
    {reasonCodes : List String} {envelope : ContextEnvelope}
    (made : ContextEnvelope.make requestId .answer content route coverage lineage reasonCodes =
      .ok envelope) :
    route.requestId = requestId ∧ coverage.requestId = requestId ∧
      ∀ selected ∈ route.routes,
        (∃ item ∈ coverage.included,
          item.sourceId = selected.sourceId ∧ item.complete = true) ↔
          coverage.Mentions selected.sourceId := by
  have ⟨ownId, outcome, _, ownRoute, ownCoverage, _⟩ := ContextEnvelope.of_make made
  have complete := (envelope.answered outcome).2.2
  have routed := envelope.routed.2
  have covered := envelope.covered
  rw [ownId, ownRoute] at routed
  rw [ownId, ownCoverage] at covered
  rw [ownCoverage] at complete
  exact ⟨routed.symm, covered.symm, fun selected _ =>
    CoverageStatement.includes_iff_mentions complete selected.sourceId⟩

/-! ## An answer about another source -/

/-- A route to one source. -/
def RouteDecision.small : RouteDecision where
  requestId := "request"
  status := .selected
  routes := [⟨"erp", "orders", ["error"], ["mapping"], 1, "42", []⟩]
  uncoveredConcepts := []
  reasonCodes := []

/-- A complete coverage of one source. -/
def CoverageStatement.small (sourceId : String) (named : sourceId ≠ "") : CoverageStatement where
  requestId := "request"
  generatedAt := ⟨0, some 0⟩
  included := [⟨sourceId, ["orders"], true, none, ⟨named, by decide⟩, by decide⟩]
  excluded := []
  expectedSources := []
  required := by decide
  aware := by decide
  explicit := .inl (by simp)
  distinct := by simp
  disjoint := by simp
  expected := by simp
  within := .inl rfl

/-- An answer routed to one source. -/
def ContextEnvelope.small (sourceId : String) (named : sourceId ≠ "") : ContextEnvelope where
  requestId := "request"
  outcome := .answer
  content := some "content"
  route := .small
  coverage := .small sourceId named
  lineage := [.orders]
  reasonCodes := []
  routed := by decide
  covered := rfl
  answered := fun _ => ⟨by decide, by decide, by simp [CoverageStatement.isComplete,
    CoverageStatement.small]⟩
  provenance := by simp
  reasoned := by simp
  matching := by simp

/-- The coverage of an answer that is accepted may include another source than its route
selects. -/
theorem selected_uncovered :
    ∃ envelope, ContextEnvelope.make "request" .answer (some "content") .small
        (.small "crm" (by decide)) [⟨"erp", "orders", none, none, by decide⟩] [] = .ok envelope ∧
      ∃ selected ∈ envelope.route.routes,
        ¬ ∃ item ∈ envelope.coverage.included,
          item.sourceId = selected.sourceId ∧ item.complete = true := by
  refine ⟨_, ContextEnvelope.make_self (.small "crm" (by decide)), _,
    List.mem_singleton_self _, ?_⟩
  intro ⟨item, inside, same, _⟩
  rw [List.mem_singleton.mp inside] at same
  exact absurd same (by decide)

/-- A route to a source that is expected, and to one that is not. -/
def RouteDecision.two : RouteDecision where
  requestId := "request"
  status := .selected
  routes := [⟨"erp", "orders", ["error"], ["mapping"], 1, "42", []⟩,
    ⟨"billing", "invoices", ["amount"], ["invoice"], 1, "7", []⟩]
  uncoveredConcepts := []
  reasonCodes := []

/-- A complete coverage of the two sources that are expected. -/
def CoverageStatement.two : CoverageStatement where
  requestId := "request"
  generatedAt := noon
  included := [⟨"erp", ["orders"], true, none, by decide, by decide⟩,
    ⟨"crm", ["accounts"], true, none, by decide, by decide⟩]
  excluded := []
  expectedSources := ["erp", "crm"]
  required := by decide
  aware := by decide
  explicit := .inl (by simp)
  distinct := by simp
  disjoint := by simp
  expected := by decide
  within := by decide

/-- An answer with these. -/
def ContextEnvelope.two : ContextEnvelope where
  requestId := "request"
  outcome := .answer
  content := some "content"
  route := .two
  coverage := .two
  lineage := [.orders]
  reasonCodes := []
  routed := by decide
  covered := rfl
  answered := fun _ => by decide
  provenance := by simp
  reasoned := by simp
  matching := by simp

/-- Where the coverage mentions a source of the route, it includes it, and no other. -/
theorem selected_covered_iff_small :
    (∃ item ∈ CoverageStatement.two.included, item.sourceId = "erp" ∧ item.complete = true) ∧
      ¬ ∃ item ∈ CoverageStatement.two.included,
        item.sourceId = "billing" ∧ item.complete = true := by
  have ⟨_, _, covered⟩ := selected_covered_iff (ContextEnvelope.make_self .two)
  have first := covered ⟨"erp", "orders", ["error"], ["mapping"], 1, "42", []⟩
    List.mem_cons_self
  have second := covered ⟨"billing", "invoices", ["amount"], ["invoice"], 1, "7", []⟩
    (List.mem_cons_of_mem _ List.mem_cons_self)
  refine ⟨first.mpr (.inl List.mem_cons_self), fun held => ?_⟩
  have unmentioned : ¬ CoverageStatement.two.Mentions "billing" := by
    unfold CoverageStatement.Mentions
    decide
  exact unmentioned (second.mp held)

end DataHarness
