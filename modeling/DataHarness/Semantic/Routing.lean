import DataHarness.Library.Binary64
import DataHarness.Library.Grouping
import DataHarness.Library.Loops
import DataHarness.Semantic.Governance
import Mathlib.Tactic.Linarith

/-!
# Routing to sources

`SemanticSourceRouter.route` looks for one approved mapping for each requested concept, on an asset
that was observed recently enough. One loop over the concepts fills seven accumulators; what they
hold at its end decides whether the request is escalated, refused or routed. Confidences are taken
as the rationals they are; what the code computes of them is rounded, so that the results hold for
every arithmetic that keeps the order of differences, the exact one and that of doubles among them.
-/

namespace DataHarness

/-! ## Freshness -/

/-- `FreshnessBreachAction`. -/
inductive FreshnessBreachAction
  | exclude
  | degrade
  | refuse
deriving DecidableEq

/-- `FreshnessSLO`, its age in microseconds. -/
structure FreshnessSLO where
  maxAge : Int
  onBreach : FreshnessBreachAction
  positive : 0 < maxAge

/-- `FreshnessObservation`. -/
structure FreshnessObservation where
  sourceId : String
  assetId : String
  observedAt : DateTime
  sourceEventTime : DateTime
  watermark : String
  required : sourceId ≠ "" ∧ assetId ≠ "" ∧ watermark ≠ ""
  aware : observedAt.aware = true ∧ sourceEventTime.aware = true
  ordered : sourceEventTime.instant ≤ observedAt.instant

/-- The asset an observation is kept under. -/
def FreshnessObservation.key (observation : FreshnessObservation) : String × String :=
  (observation.sourceId, observation.assetId)

/-- `age_at`. -/
def FreshnessObservation.ageAt (observation : FreshnessObservation) (time : DateTime) :
    Except String Int :=
  if time.aware = true then .ok (time.instant - observation.sourceEventTime.instant)
  else .error "evaluation time must be timezone-aware"

/-- `int(age.total_seconds() * 1000)` of an age in microseconds. -/
def milliseconds (age : Int) : Int :=
  let seconds := Binary64.round ((age : ℚ) / 1000000)
  let number := Binary64.round (seconds * 1000)
  if 0 ≤ number then ⌊number⌋ else ⌈number⌉

/-- `FreshnessAssessment`. -/
structure FreshnessAssessment where
  sourceId : String
  assetId : String
  fresh : Bool
  ageMs : Int
  watermark : String
  action : Option FreshnessBreachAction

/-- `FreshnessRegistry`. -/
abbrev FreshnessRegistry := Table FreshnessObservation (String × String) FreshnessObservation.key

namespace FreshnessRegistry

/-- `record`. -/
def record (registry : FreshnessRegistry) (observation : FreshnessObservation) :
    Except String FreshnessRegistry :=
  match fresh : registry.find? observation.key with
  | none => .ok (registry.insert observation fresh)
  | some previous =>
    if observation.observedAt.instant < previous.observedAt.instant then
      .error "freshness observations must be recorded monotonically"
    else .ok (registry.update observation.key
      (fun row => if row.key = observation.key then observation else row) (by
        intro row
        split
        · rename_i same
          exact same.symm
        · rfl))

/-- `assess`. -/
def assess (registry : FreshnessRegistry) (sourceId assetId : String) (slo : FreshnessSLO)
    (time : DateTime) : Except String FreshnessAssessment :=
  match registry.find? (sourceId, assetId) with
  | none => .ok ⟨sourceId, assetId, false, -1, "missing", some slo.onBreach⟩
  | some observation => do
    let age ← observation.ageAt time
    let fresh := decide (0 ≤ age ∧ age ≤ slo.maxAge)
    return ⟨sourceId, assetId, fresh, milliseconds age, observation.watermark,
      if fresh then none else some slo.onBreach⟩

/-- An observation that is recorded is the one of its asset, and others stay as they are. -/
theorem find?_record {registry next : FreshnessRegistry} {observation : FreshnessObservation}
    (recorded : registry.record observation = .ok next) (key : String × String) :
    next.find? key = if key = observation.key then some observation else registry.find? key := by
  unfold record at recorded
  split at recorded
  · obtain rfl := Except.ok.inj recorded
    rw [Table.find?_insert]
    by_cases same : observation.key = key
    · simp [same]
    · rw [if_neg same, if_neg (Ne.symm same)]
  · rename_i previous found
    split at recorded
    · cases recorded
    · obtain rfl := Except.ok.inj recorded
      rw [Table.find?_update]
      by_cases same : key = observation.key
      · rw [if_pos same, if_pos same, found, Option.map_some, if_pos (Table.key_of_find? found)]
      · rw [if_neg same, if_neg same]

/-- The watermark of an asset. -/
def watermark (registry : FreshnessRegistry) (sourceId assetId : String) : String :=
  match registry.find? (sourceId, assetId) with
  | none => "missing"
  | some observation => observation.watermark

/-- An asset was observed, and its last event is not older than an objective allows. -/
def Fresh (registry : FreshnessRegistry) (slo : FreshnessSLO) (time : DateTime)
    (sourceId assetId : String) : Prop :=
  ∃ observation, registry.find? (sourceId, assetId) = some observation ∧
    observation.sourceEventTime.instant ≤ time.instant ∧
      time.instant - observation.sourceEventTime.instant ≤ slo.maxAge

variable {registry : FreshnessRegistry} {slo : FreshnessSLO} {time : DateTime}
  {sourceId assetId : String}

/-- What an assessment says of an asset. -/
theorem assess_ok {assessment : FreshnessAssessment}
    (assessed : registry.assess sourceId assetId slo time = .ok assessment) :
    (assessment.fresh = true ↔ registry.Fresh slo time sourceId assetId) ∧
      assessment.watermark = registry.watermark sourceId assetId ∧
        assessment.action = if assessment.fresh then none else some slo.onBreach := by
  unfold assess at assessed
  unfold Fresh watermark
  split at assessed
  · rename_i missing
    obtain rfl := Except.ok.inj assessed
    simp [missing]
  · rename_i observation found
    obtain ⟨age, aged, made⟩ := of_bind_ok assessed
    unfold FreshnessObservation.ageAt at aged
    split at aged
    · obtain rfl := Except.ok.inj aged
      obtain rfl := Except.ok.inj made
      rw [found]
      refine ⟨?_, rfl, rfl⟩
      simp only [decide_eq_true_eq, Option.some.injEq, exists_eq_left']
      constructor <;> (intro bounds; omega)
    · cases aged

/-- At an aware time every asset is assessed. -/
theorem exists_assess (aware : time.aware = true) :
    ∃ assessment, registry.assess sourceId assetId slo time = .ok assessment := by
  unfold assess FreshnessObservation.ageAt
  split
  · exact ⟨_, rfl⟩
  · rw [if_pos aware]
    exact ⟨_, rfl⟩

end FreshnessRegistry

/-! ## Arithmetic -/

/-- What `-` and the mean make of confidences; both may round. -/
class Arithmetic where
  difference : ℚ → ℚ → ℚ
  mean : List ℚ → ℚ
  /-- A number that is not smaller is not subtracted with a positive difference. -/
  difference_nonpos : ∀ {one other}, one ≤ other → difference one other ≤ 0
  /-- Of two numbers the larger one has no larger difference. -/
  difference_anti : ∀ {one other larger}, other ≤ larger →
    difference one larger ≤ difference one other

namespace Arithmetic

/-- Nothing is rounded. -/
@[reducible] def exact : Arithmetic where
  difference one other := one - other
  mean numbers := numbers.sum / numbers.length
  difference_nonpos := sub_nonpos_of_le
  difference_anti larger := sub_le_sub_left larger _

/-- Doubles, with any mean: from version 3.12 on Python adds floats differently. -/
@[reducible] def ofMean (mean : List ℚ → ℚ) : Arithmetic where
  difference one other := Binary64.round (one - other)
  mean := mean
  difference_nonpos le := Binary64.round_nonpos (sub_nonpos_of_le le)
  difference_anti larger := Binary64.round_mono (sub_le_sub_left larger _)

/-- Doubles that are added one after the other, as up to version 3.11. -/
@[reducible] def doubles : Arithmetic :=
  ofMean fun numbers => Binary64.round
    (numbers.foldl (fun sum number => Binary64.round (sum + number)) 0 / numbers.length)

/-- The difference of the doubles at 1 and 0.3 is rounded down to the double at 0.7. -/
example : doubles.difference 1 (5404319552844595 / 2 ^ 54) = 6305039478318694 / 2 ^ 53 ∧
    6305039478318694 / 2 ^ 53 < exact.difference 1 (5404319552844595 / 2 ^ 54) := by
  decide +kernel

end Arithmetic

/-! ## The router -/

/-- `RouteStatus`. -/
inductive RouteStatus
  | selected
  | refused
  | escalationRequired
deriving DecidableEq

/-- `RouteRequest`; a confidence or a margin is a double, as the rational it is. -/
structure RouteRequest where
  requestId : String
  conceptIds : List String
  maxSources : Int
  minimumConfidence : ℚ
  ambiguityDelta : ℚ
  freshnessSlo : FreshnessSLO
  required : requestId ≠ "" ∧ conceptIds ≠ [] ∧ 0 < maxSources
  bounded : (0 ≤ minimumConfidence ∧ minimumConfidence ≤ 1) ∧
    0 ≤ ambiguityDelta ∧ ambiguityDelta ≤ 1

/-- `SelectedRoute`. -/
structure SelectedRoute where
  sourceId : String
  assetId : String
  conceptIds : List String
  mappingIds : List String
  score : ℚ
  watermark : String
  lineage : List LineageRef

/-- `RouteDecision`. -/
structure RouteDecision where
  requestId : String
  status : RouteStatus
  routes : List SelectedRoute
  uncoveredConcepts : List String
  reasonCodes : List String

/-- The accumulators of `route`. -/
structure Routing where
  selected : List ((String × String) × List SemanticMappingCandidate)
  uncovered : List String
  ambiguous : List String
  stale : List String
  freshnessRefused : List String
  degraded : List String
  degradedCandidates : List String

/-- The accumulators before the loop. -/
def Routing.start : Routing := ⟨[], [], [], [], [], [], []⟩

/-- `SemanticSourceRouter`. -/
structure SemanticSourceRouter where
  mappings : SemanticMappingRegistry
  freshness : FreshnessRegistry

namespace SemanticSourceRouter

section Router

variable [Arithmetic]

/-- The asset of a mapping. -/
def assetOf (candidate : SemanticMappingCandidate) : String × String :=
  (candidate.sourceId, candidate.assetId)

/-- The candidates of a concept. -/
def candidates (router : SemanticSourceRouter) (request : RouteRequest) (conceptId : String) :
    List SemanticMappingCandidate :=
  (router.mappings.approvedFor conceptId).filter fun item =>
    request.minimumConfidence ≤ item.confidence

/-- What the loop over the candidates of a concept notes of an assessment. -/
def note (conceptId : String) (candidate : SemanticMappingCandidate)
    (assessment : FreshnessAssessment) (state : Routing) : Routing :=
  if assessment.fresh then state
  else match assessment.action with
    | some .degrade =>
      { state with degradedCandidates := state.degradedCandidates ++ [candidate.mappingId] }
    | some .refuse => { state with freshnessRefused := state.freshnessRefused ++ [conceptId] }
    | _ => { state with stale := state.stale ++ [conceptId] }

/-- The loop over the candidates of a concept: the eligible ones, and the accumulators. -/
def assessAll (router : SemanticSourceRouter) (request : RouteRequest) (time : DateTime)
    (conceptId : String) : List SemanticMappingCandidate → Routing →
      Except String (List (SemanticMappingCandidate × String) × Routing)
  | [], state => .ok ([], state)
  | candidate :: rest, state => do
    let assessment ← router.freshness.assess candidate.sourceId candidate.assetId
      request.freshnessSlo time
    let (eligible, after) ← assessAll router request time conceptId rest
      (note conceptId candidate assessment state)
    if assessment.fresh || assessment.action == some .degrade then
      return ((candidate, assessment.watermark) :: eligible, after)
    else return (eligible, after)

/-- The order of the eligible mappings: by falling confidence, then by id. -/
def ranks (left right : SemanticMappingCandidate × String) : Prop :=
  right.1.confidence < left.1.confidence ∨
    left.1.confidence = right.1.confidence ∧ left.1.mappingId ≤ right.1.mappingId

instance : DecidableRel ranks := fun _ _ => inferInstanceAs (Decidable (_ ∨ _))

/-- The end of the loop's body, when the eligible mappings are sorted. -/
def conclude (request : RouteRequest) (conceptId : String) (state : Routing) :
    List (SemanticMappingCandidate × String) → Routing
  | [] => { state with uncovered := state.uncovered ++ [conceptId] }
  | first :: rest =>
    if ∃ second ∈ rest.head?,
        Arithmetic.difference first.1.confidence second.1.confidence ≤ request.ambiguityDelta then
      { state with ambiguous := state.ambiguous ++ [conceptId] }
    else
      { state with
        degraded := if first.1.mappingId ∈ state.degradedCandidates then
            state.degraded ++ [conceptId] else state.degraded
        selected := Grouping.append state.selected (assetOf first.1) first.1 }

/-- The loop's body. -/
def consider (router : SemanticSourceRouter) (request : RouteRequest) (time : DateTime)
    (state : Routing) (conceptId : String) : Except String Routing := do
  let (eligible, after) ← router.assessAll request time conceptId
    (router.candidates request conceptId) state
  return conclude request conceptId after (eligible.insertionSort ranks)

/-- The order of the selected assets. -/
def assetOrder (left right : (String × String) × List SemanticMappingCandidate) : Prop :=
  left.1.1 < right.1.1 ∨ left.1.1 = right.1.1 ∧ left.1.2 ≤ right.1.2

instance : DecidableRel assetOrder := fun _ _ => inferInstanceAs (Decidable (_ ∨ _))

/-- The route to a selected asset. -/
def routeTo (router : SemanticSourceRouter) (request : RouteRequest) (time : DateTime)
    (group : (String × String) × List SemanticMappingCandidate) : Except String SelectedRoute := do
  let assessment ← router.freshness.assess group.1.1 group.1.2 request.freshnessSlo time
  return {
    sourceId := group.1.1
    assetId := group.1.2
    conceptIds := sortedTexts (group.2.map (·.conceptId))
    mappingIds := sortedTexts (group.2.map (·.mappingId))
    score := Arithmetic.mean (group.2.map (·.confidence))
    watermark := assessment.watermark
    lineage := group.2.flatMap (·.lineage) }

/-- `route`. -/
def route (router : SemanticSourceRouter) (request : RouteRequest) (time : DateTime) :
    Except String RouteDecision := do
  let state ← request.conceptIds.foldlM (router.consider request time) .start
  if state.ambiguous ≠ [] then
    return {
      requestId := request.requestId
      status := .escalationRequired
      routes := []
      uncoveredConcepts := sortedSet (state.uncovered ++ state.ambiguous)
      reasonCodes := (sortedSet state.ambiguous).map ("ambiguous_mapping:" ++ ·) }
  if state.uncovered ≠ [] ∨ request.maxSources < state.selected.length then
    let reasons := (sortedSet state.uncovered).map ("uncovered:" ++ ·) ++
      (sortedSet state.stale).map ("stale:" ++ ·) ++
      (sortedSet state.freshnessRefused).map ("freshness_refused:" ++ ·) ++
      if request.maxSources < state.selected.length then ["source_bound_exceeded"] else []
    return {
      requestId := request.requestId
      status := .refused
      routes := []
      uncoveredConcepts := sortedSet state.uncovered
      reasonCodes := reasons }
  let routes ← (state.selected.insertionSort assetOrder).mapM (router.routeTo request time)
  return {
    requestId := request.requestId
    status := .selected
    routes := routes
    uncoveredConcepts := []
    reasonCodes := (sortedSet state.degraded).map ("freshness_degraded:" ++ ·) }

end Router

/-! ## What a decision is to say -/

section Specification

variable [Arithmetic] (router : SemanticSourceRouter) (request : RouteRequest) (time : DateTime)
  (conceptId : String)

/-- A mapping was observed recently enough. -/
def Recent (mapping : SemanticMappingCandidate) : Prop :=
  router.freshness.Fresh request.freshnessSlo time mapping.sourceId mapping.assetId

/-- A mapping may be used for a concept: it is approved and not quarantined, confident enough, and
recent unless stale data is accepted. -/
structure Eligible (mapping : SemanticMappingCandidate) : Prop where
  proposed : router.mappings.candidates.get? mapping.mappingId = some mapping
  approved : router.mappings.status mapping.mappingId = .ok .approved
  concept : mapping.conceptId = conceptId
  confident : request.minimumConfidence ≤ mapping.confidence
  recent : router.Recent request time mapping ∨ request.freshnessSlo.onBreach = .degrade

/-- A concept without an eligible mapping. -/
def Uncovered : Prop := ∀ mapping, ¬ router.Eligible request time conceptId mapping

/-- The two eligible mappings with the highest confidence are too close. -/
def Ambiguous : Prop :=
  ∃ first second, router.Eligible request time conceptId first ∧
    router.Eligible request time conceptId second ∧ first ≠ second ∧
      second.confidence ≤ first.confidence ∧
        (∀ other, router.Eligible request time conceptId other → other ≠ first →
          other.confidence ≤ second.confidence) ∧
          Arithmetic.difference first.confidence second.confidence ≤ request.ambiguityDelta

/-- The one eligible mapping with the highest confidence. -/
def Best (mapping : SemanticMappingCandidate) : Prop :=
  router.Eligible request time conceptId mapping ∧
    ∀ other, router.Eligible request time conceptId other → other ≠ mapping →
      other.confidence < mapping.confidence

/-- A route goes to an asset for the concepts whose best mapping is there. -/
structure RoutesTo (route : SelectedRoute) (winners : List SemanticMappingCandidate) : Prop where
  best : ∀ winner ∈ winners, router.Best request time winner.conceptId winner ∧
    winner.sourceId = route.sourceId ∧ winner.assetId = route.assetId
  conceptIds : route.conceptIds = sortedTexts (winners.map (·.conceptId))
  mappingIds : route.mappingIds = sortedTexts (winners.map (·.mappingId))
  score : route.score = Arithmetic.mean (winners.map (·.confidence))
  watermark : route.watermark = router.freshness.watermark route.sourceId route.assetId
  lineage : route.lineage = winners.flatMap (·.lineage)

/-- A decision routes every requested concept once, on routes to different assets. -/
structure Selects (decision : RouteDecision) : Prop where
  once : (decision.routes.flatMap (·.conceptIds)).Perm request.conceptIds
  distinct : (decision.routes.map fun route => (route.sourceId, route.assetId)).Nodup
  routes : ∀ route ∈ decision.routes, ∃ winners, winners ≠ [] ∧
    router.RoutesTo request time route winners
  degraded : ∀ code, code ∈ decision.reasonCodes ↔ ∃ concept ∈ request.conceptIds, ∃ mapping,
    router.Best request time concept mapping ∧ ¬ router.Recent request time mapping ∧
      code = "freshness_degraded:" ++ concept

/-- What a decision is to say of a request. -/
structure Decides (decision : RouteDecision) : Prop where
  escalated : decision.status = .escalationRequired ↔
    ∃ concept ∈ request.conceptIds, router.Ambiguous request time concept
  refused : decision.status = .refused ↔
    (¬ ∃ concept ∈ request.conceptIds, router.Ambiguous request time concept) ∧
      ∃ concept ∈ request.conceptIds, router.Uncovered request time concept
  uncovered : decision.status = .refused → ∀ concept,
    concept ∈ decision.uncoveredConcepts ↔
      concept ∈ request.conceptIds ∧ router.Uncovered request time concept
  selected : decision.status = .selected → router.Selects request time decision

end Specification

section Body

variable {router : SemanticSourceRouter} {request : RouteRequest} {time : DateTime}
  {conceptId : String}

/-- A concept has one best mapping at most. -/
theorem Best.unique {mapping other : SemanticMappingCandidate}
    (best : router.Best request time conceptId mapping)
    (also : router.Best request time conceptId other) : mapping = other := by
  by_contra different
  have less := also.2 mapping best.1 different
  have more := best.2 other also.1 (Ne.symm different)
  linarith

/-- A mapping that is approved has that status. -/
theorem status_approved {registry : SemanticMappingRegistry} {mappingId : String}
    {mapping : SemanticMappingCandidate}
    (proposed : registry.candidates.get? mappingId = some mapping) :
    registry.status mappingId = .ok .approved ↔ registry.isApproved false mappingId = true := by
  rw [SemanticMappingRegistry.isApproved_iff]
  unfold SemanticMappingRegistry.status
  rw [proposed]
  cases quarantined : registry.drift.get? mappingId with
  | some drift => simp
  | none =>
    cases reviewed : registry.reviews.get? mappingId with
    | none => simp
    | some review => simp

/-- The candidates of a concept are its approved and confident mappings. -/
theorem mem_candidates (formed : router.mappings.WellFormed) {mapping : SemanticMappingCandidate} :
    mapping ∈ router.candidates request conceptId ↔
      router.mappings.candidates.get? mapping.mappingId = some mapping ∧
        router.mappings.status mapping.mappingId = .ok .approved ∧
          mapping.conceptId = conceptId ∧ request.minimumConfidence ≤ mapping.confidence := by
  unfold candidates SemanticMappingRegistry.approvedFor
  simp only [List.mem_filter, SemanticMappingRegistry.mem_approved, decide_eq_true_eq, beq_iff_eq]
  constructor
  · rintro ⟨⟨⟨mappingId, proposed, approved⟩, concept⟩, confident⟩
    obtain rfl := formed.own mappingId mapping proposed
    exact ⟨proposed, (status_approved proposed).mpr approved, concept, confident⟩
  · rintro ⟨proposed, approved, concept, confident⟩
    exact ⟨⟨⟨_, proposed, (status_approved proposed).mp approved⟩, concept⟩, confident⟩

/-- An eligible mapping is a candidate that is recent unless stale data is accepted. -/
theorem eligible_iff (formed : router.mappings.WellFormed) {mapping : SemanticMappingCandidate} :
    router.Eligible request time conceptId mapping ↔
      mapping ∈ router.candidates request conceptId ∧
        (router.Recent request time mapping ∨ request.freshnessSlo.onBreach = .degrade) := by
  rw [mem_candidates formed]
  constructor
  · intro eligible
    exact ⟨⟨eligible.proposed, eligible.approved, eligible.concept, eligible.confident⟩,
      eligible.recent⟩
  · rintro ⟨⟨proposed, approved, concept, confident⟩, recent⟩
    exact ⟨proposed, approved, concept, confident, recent⟩

/-- Only what `note` may touch differs. -/
theorem note_spec {candidate : SemanticMappingCandidate} {assessment : FreshnessAssessment}
    {state : Routing} (assessed : router.freshness.assess candidate.sourceId candidate.assetId
      request.freshnessSlo time = .ok assessment) :
    (note conceptId candidate assessment state).selected = state.selected ∧
    (note conceptId candidate assessment state).uncovered = state.uncovered ∧
    (note conceptId candidate assessment state).ambiguous = state.ambiguous ∧
    (note conceptId candidate assessment state).degraded = state.degraded ∧
    ∀ id, id ∈ (note conceptId candidate assessment state).degradedCandidates ↔
      id ∈ state.degradedCandidates ∨ request.freshnessSlo.onBreach = .degrade ∧
        ¬ router.Recent request time candidate ∧ id = candidate.mappingId := by
  obtain ⟨fresh, -, action⟩ := FreshnessRegistry.assess_ok assessed
  change _ ↔ router.Recent request time candidate at fresh
  unfold note
  by_cases recent : assessment.fresh = true
  · simp [recent, fresh.mp recent]
  · have stale : ¬ router.Recent request time candidate := fun is => recent (fresh.mpr is)
    simp only [recent, Bool.false_eq_true, if_false] at action ⊢
    rw [action]
    cases breach : request.freshnessSlo.onBreach <;> simp [stale]

/-- What the loop over some candidates finds: the recent ones, and all of them when stale data is
accepted. -/
structure Assessed (router : SemanticSourceRouter) (request : RouteRequest) (time : DateTime)
    (items : List SemanticMappingCandidate) (eligible : List (SemanticMappingCandidate × String))
    (before after : Routing) : Prop where
  sublist : (eligible.map Prod.fst).Sublist items
  mem : ∀ item, item ∈ eligible.map Prod.fst ↔
    item ∈ items ∧ (router.Recent request time item ∨ request.freshnessSlo.onBreach = .degrade)
  selected : after.selected = before.selected
  uncovered : after.uncovered = before.uncovered
  ambiguous : after.ambiguous = before.ambiguous
  degraded : after.degraded = before.degraded
  noted : ∀ id, id ∈ after.degradedCandidates ↔ id ∈ before.degradedCandidates ∨
    request.freshnessSlo.onBreach = .degrade ∧
      ∃ item ∈ items, ¬ router.Recent request time item ∧ id = item.mappingId

/-- The loop over the candidates of a concept assesses each of them. -/
theorem assessAll_ok {items : List SemanticMappingCandidate} {before : Routing}
    {result : List (SemanticMappingCandidate × String) × Routing}
    (ran : router.assessAll request time conceptId items before = .ok result) :
    Assessed router request time items result.1 before result.2 := by
  induction items generalizing before result with
  | nil =>
    obtain rfl := Except.ok.inj ran
    exact ⟨.slnil, by simp, rfl, rfl, rfl, rfl, by simp⟩
  | cons item items ih =>
    unfold assessAll at ran
    obtain ⟨assessment, assessed, ran⟩ := of_bind_ok ran
    obtain ⟨⟨eligible, after⟩, rest, ran⟩ := of_bind_ok ran
    have ih := ih rest
    obtain ⟨selected, uncovered, ambiguous, degraded, noted⟩ :=
      @note_spec router request time conceptId item assessment before assessed
    obtain ⟨fresh, -, action⟩ := FreshnessRegistry.assess_ok assessed
    change _ ↔ router.Recent request time item at fresh
    have admitted : (assessment.fresh || assessment.action == some .degrade) = true ↔
        router.Recent request time item ∨ request.freshnessSlo.onBreach = .degrade := by
      rw [← fresh, action]
      by_cases recent : assessment.fresh = true <;> simp [recent]
    have marks : ∀ id, id ∈ after.degradedCandidates ↔ id ∈ before.degradedCandidates ∨
        request.freshnessSlo.onBreach = .degrade ∧
          ∃ other ∈ item :: items, ¬ router.Recent request time other ∧ id = other.mappingId := by
      intro id
      rw [ih.noted, noted]
      simp only [List.mem_cons, exists_eq_or_imp]
      tauto
    dsimp only at ran
    split at ran
    · rename_i admits
      obtain rfl := Except.ok.inj ran
      refine ⟨ih.sublist.cons_cons item, ?_, ih.selected.trans selected,
        ih.uncovered.trans uncovered, ih.ambiguous.trans ambiguous, ih.degraded.trans degraded,
        marks⟩
      intro other
      simp only [List.map_cons, List.mem_cons, ih.mem]
      constructor
      · rintro (rfl | ⟨among, admits⟩)
        · exact ⟨.inl rfl, admitted.mp admits⟩
        · exact ⟨.inr among, admits⟩
      · rintro ⟨rfl | among, admits⟩
        · exact .inl rfl
        · exact .inr ⟨among, admits⟩
    · rename_i rejects
      obtain rfl := Except.ok.inj ran
      refine ⟨ih.sublist.cons item, ?_, ih.selected.trans selected,
        ih.uncovered.trans uncovered, ih.ambiguous.trans ambiguous, ih.degraded.trans degraded,
        marks⟩
      intro other
      simp only [List.mem_cons, ih.mem]
      constructor
      · rintro ⟨among, admits⟩
        exact ⟨.inr among, admits⟩
      · rintro ⟨rfl | among, admits⟩
        · exact absurd (admitted.mpr admits) rejects
        · exact ⟨among, admits⟩

/-- At an aware time, candidates can be assessed. -/
theorem exists_assessAll (aware : time.aware = true) (items : List SemanticMappingCandidate)
    (before : Routing) : ∃ result, router.assessAll request time conceptId items before =
      .ok result := by
  induction items generalizing before with
  | nil => exact ⟨_, rfl⟩
  | cons item items ih =>
    obtain ⟨assessment, assessed⟩ := @FreshnessRegistry.exists_assess router.freshness
      request.freshnessSlo time item.sourceId item.assetId aware
    obtain ⟨⟨eligible, after⟩, rest⟩ := ih (note conceptId item assessment before)
    unfold assessAll
    rw [assessed]
    simp only [bind, Except.bind, rest]
    split
    · exact ⟨_, rfl⟩
    · exact ⟨_, rfl⟩

instance : Std.Total ranks where
  total left right := by
    unfold ranks
    rcases lt_trichotomy left.1.confidence right.1.confidence with less | same | more
    · exact .inr (.inl less)
    · rcases le_total left.1.mappingId right.1.mappingId with first | second
      · exact .inl (.inr ⟨same, first⟩)
      · exact .inr (.inr ⟨same.symm, second⟩)
    · exact .inl (.inl more)

instance : IsTrans (SemanticMappingCandidate × String) ranks where
  trans first second third := by
    unfold ranks
    rintro (above | ⟨same, before⟩) (below | ⟨equal, after⟩)
    · exact .inl (below.trans above)
    · exact .inl (by rw [← equal]; exact above)
    · exact .inl (by rw [same]; exact below)
    · exact .inr ⟨same.trans equal, before.trans after⟩

/-- What is ranked first is at least as confident. -/
theorem confidence_le_of_ranks {left right : SemanticMappingCandidate × String}
    (before : ranks left right) : right.1.confidence ≤ left.1.confidence := by
  rcases before with above | ⟨same, -⟩
  · exact above.le
  · exact same.ge

/-- A registry lists a mapping once. -/
theorem nodup_candidates (formed : router.mappings.WellFormed) :
    (router.candidates request conceptId).Nodup := by
  unfold candidates SemanticMappingRegistry.approvedFor SemanticMappingRegistry.approved
  apply List.Nodup.filter
  apply List.Nodup.filter
  rw [(List.perm_insertionSort _ _).nodup_iff]
  have entries := (router.mappings.candidates.distinct.of_map Prod.fst).filter fun item =>
    router.mappings.isApproved false item.1
  apply entries.map_on
  rintro ⟨left, mapping⟩ first ⟨right, other⟩ second same
  have one := formed.own left mapping (Dict.get?_eq_some.mpr (List.mem_of_mem_filter first))
  have two := formed.own right other (Dict.get?_eq_some.mpr (List.mem_of_mem_filter second))
  simp only at same
  subst same
  rw [← one, ← two]

/-- A list of the concepts with a property goes on with a concept that has it. -/
theorem classified_snoc {property : String → Prop} {listed done : List String}
    (classified : ∀ concept, concept ∈ listed ↔ concept ∈ done ∧ property concept)
    (has : property conceptId) (concept : String) :
    concept ∈ listed ++ [conceptId] ↔ concept ∈ done ++ [conceptId] ∧ property concept := by
  simp only [List.mem_append, List.mem_singleton, classified]
  constructor
  · rintro (old | rfl)
    · exact ⟨.inl old.1, old.2⟩
    · exact ⟨.inr rfl, has⟩
  · rintro ⟨old | rfl, holds⟩
    · exact .inl ⟨old, holds⟩
    · exact .inr rfl

/-- A list of the concepts with a property stays as it is for a concept that lacks it. -/
theorem classified_pass {property : String → Prop} {listed done : List String}
    (classified : ∀ concept, concept ∈ listed ↔ concept ∈ done ∧ property concept)
    (lacks : ¬ property conceptId) (concept : String) :
    concept ∈ listed ↔ concept ∈ done ++ [conceptId] ∧ property concept := by
  simp only [List.mem_append, List.mem_singleton, classified]
  constructor
  · rintro ⟨old, holds⟩
    exact ⟨.inl old, holds⟩
  · rintro ⟨old | rfl, holds⟩
    · exact ⟨old, holds⟩
    · exact absurd holds lacks

/-- Some concept is listed exactly when one passed has the property. -/
theorem ne_nil_iff_classified {property : String → Prop} {listed done : List String}
    (classified : ∀ concept, concept ∈ listed ↔ concept ∈ done ∧ property concept) :
    listed ≠ [] ↔ ∃ concept ∈ done, property concept := by
  constructor
  · intro some
    obtain ⟨concept, member⟩ := List.exists_mem_of_ne_nil listed some
    exact ⟨concept, (classified concept).mp member⟩
  · rintro ⟨concept, passed⟩
    exact List.ne_nil_of_mem ((classified concept).mpr passed)

/-- No concept is listed exactly when none passed has the property. -/
theorem eq_nil_iff_classified {property : String → Prop} {listed done : List String}
    (classified : ∀ concept, concept ∈ listed ↔ concept ∈ done ∧ property concept) :
    listed = [] ↔ ∀ concept ∈ done, ¬ property concept := by
  have some := ne_nil_iff_classified classified
  constructor
  · intro nothing concept passed has
    exact some.mpr ⟨concept, passed, has⟩ nothing
  · intro lacks
    by_contra listed
    obtain ⟨concept, passed, has⟩ := some.mp listed
    exact lacks concept passed has

variable [Arithmetic]

/-- A mapping whose confidence is ahead of all others by more than the request's margin. -/
def Clear (router : SemanticSourceRouter) (request : RouteRequest) (time : DateTime)
    (conceptId : String) (mapping : SemanticMappingCandidate) : Prop :=
  router.Eligible request time conceptId mapping ∧
    ∀ other, router.Eligible request time conceptId other → other ≠ mapping →
      request.ambiguityDelta < Arithmetic.difference mapping.confidence other.confidence

/-- A mapping that is ahead by more than the margin is the more confident one. -/
theorem confidence_lt_of_ahead {mapping other : SemanticMappingCandidate}
    (ahead : request.ambiguityDelta <
      Arithmetic.difference mapping.confidence other.confidence) :
    other.confidence < mapping.confidence := by
  by_contra behind
  have margin := request.bounded.2.1
  have closed := Arithmetic.difference_nonpos (not_lt.mp behind)
  linarith

/-- A clear mapping is the best one. -/
theorem Clear.best {mapping : SemanticMappingCandidate}
    (clear : router.Clear request time conceptId mapping) :
    router.Best request time conceptId mapping := by
  refine ⟨clear.1, ?_⟩
  intro other eligible different
  exact confidence_lt_of_ahead (clear.2 other eligible different)

/-- A clear mapping is not ambiguous. -/
theorem Clear.not_ambiguous {mapping : SemanticMappingCandidate}
    (clear : router.Clear request time conceptId mapping) :
    ¬ router.Ambiguous request time conceptId := by
  rintro ⟨first, second, one, two, different, ordered, others, close⟩
  by_cases same : first = mapping
  · have ahead := clear.2 second two (by rw [← same]; exact Ne.symm different)
    rw [same] at close
    linarith
  · have ahead := confidence_lt_of_ahead (clear.2 first one same)
    have behind := others mapping clear.1 (Ne.symm same)
    linarith

/-- What the loop's body makes of a concept, by what is eligible for it. -/
inductive Concludes (router : SemanticSourceRouter) (request : RouteRequest) (time : DateTime)
    (conceptId : String) (before after : Routing) : Prop
  | uncovered : router.Uncovered request time conceptId →
    after.uncovered = before.uncovered ++ [conceptId] → after.ambiguous = before.ambiguous →
      after.selected = before.selected → after.degraded = before.degraded →
        Concludes router request time conceptId before after
  | ambiguous : router.Ambiguous request time conceptId →
    after.uncovered = before.uncovered → after.ambiguous = before.ambiguous ++ [conceptId] →
      after.selected = before.selected → after.degraded = before.degraded →
        Concludes router request time conceptId before after
  | clear (winner : SemanticMappingCandidate) : router.Clear request time conceptId winner →
    after.uncovered = before.uncovered → after.ambiguous = before.ambiguous →
      after.selected = Grouping.append before.selected (assetOf winner) winner →
        after.degraded = (if winner.mappingId ∈ after.degradedCandidates then
          before.degraded ++ [conceptId] else before.degraded) →
          Concludes router request time conceptId before after

/-- The loop's body concludes by the eligible mappings. -/
theorem conclude_spec {state : Routing} {eligible : List (SemanticMappingCandidate × String)}
    (once : (eligible.map Prod.fst).Nodup)
    (mem : ∀ mapping, mapping ∈ eligible.map Prod.fst ↔
      router.Eligible request time conceptId mapping) :
    Concludes router request time conceptId state
      (conclude request conceptId state (eligible.insertionSort ranks)) := by
  have sorted := List.pairwise_insertionSort ranks eligible
  have perm := (List.perm_insertionSort ranks eligible).map Prod.fst
  have distinct := perm.nodup_iff.mpr once
  have listed : ∀ mapping, router.Eligible request time conceptId mapping ↔
      mapping ∈ (eligible.insertionSort ranks).map Prod.fst := fun mapping =>
    (mem mapping).symm.trans perm.mem_iff.symm
  cases ranked : eligible.insertionSort ranks with
  | nil =>
    rw [ranked] at listed
    refine Concludes.uncovered ?_ rfl rfl rfl rfl
    intro mapping is
    simpa using (listed mapping).mp is
  | cons first rest =>
    rw [ranked] at sorted distinct listed
    have ahead := (List.pairwise_cons.mp sorted).1
    have fresh := (List.nodup_cons.mp distinct).1
    have one : router.Eligible request time conceptId first.1 := (listed _).mpr (by simp)
    have others : ∀ other, router.Eligible request time conceptId other → other ≠ first.1 →
        other ∈ rest.map Prod.fst := by
      intro other is different
      rcases List.mem_cons.mp ((listed other).mp is) with same | inside
      · exact absurd same different
      · exact inside
    cases rest with
    | nil =>
      unfold conclude
      dsimp only
      rw [if_neg (by simp)]
      refine Concludes.clear first.1 ⟨one, ?_⟩ rfl rfl rfl rfl
      intro other is different
      exact nomatch others other is different
    | cons second rest =>
      have two : router.Eligible request time conceptId second.1 := (listed _).mpr (by simp)
      have behind : ∀ other, router.Eligible request time conceptId other → other ≠ first.1 →
          other.confidence ≤ second.1.confidence := by
        intro other is different
        rcases List.mem_cons.mp (others other is different) with rfl | inside
        · exact le_rfl
        · obtain ⟨item, among, rfl⟩ := List.mem_map.mp inside
          have tail := (List.pairwise_cons.mp (List.pairwise_cons.mp sorted).2).1
          exact confidence_le_of_ranks (tail item among)
      unfold conclude
      dsimp only
      by_cases close : Arithmetic.difference first.1.confidence second.1.confidence ≤
          request.ambiguityDelta
      · rw [if_pos ⟨second, rfl, close⟩]
        refine Concludes.ambiguous ⟨first.1, second.1, one, two, ?_, ?_, behind, close⟩ rfl rfl rfl
          rfl
        · intro same
          exact fresh (by simp [same])
        · exact confidence_le_of_ranks (ahead second List.mem_cons_self)
      · rw [if_neg (by simpa using close)]
        refine Concludes.clear first.1 ⟨one, ?_⟩ rfl rfl rfl rfl
        intro other is different
        have closer : Arithmetic.difference first.1.confidence second.1.confidence ≤
            Arithmetic.difference first.1.confidence other.confidence :=
          Arithmetic.difference_anti (behind other is different)
        exact (not_le.mp close).trans_le closer

/-- What the accumulators hold after some concepts, of which those with a clear mapping won it. -/
structure Routed (router : SemanticSourceRouter) (request : RouteRequest) (time : DateTime)
    (winners : List SemanticMappingCandidate) (done : List String) (state : Routing) : Prop where
  uncovered : ∀ concept, concept ∈ state.uncovered ↔
    concept ∈ done ∧ router.Uncovered request time concept
  ambiguous : ∀ concept, concept ∈ state.ambiguous ↔
    concept ∈ done ∧ router.Ambiguous request time concept
  selected : state.selected = Grouping.collect assetOf winners
  clear : ∀ winner ∈ winners, router.Clear request time winner.conceptId winner
  whole : state.uncovered = [] → state.ambiguous = [] → winners.map (·.conceptId) = done
  few : winners.length ≤ done.length
  degraded : ∀ concept, concept ∈ state.degraded ↔
    ∃ winner ∈ winners, winner.conceptId = concept ∧ ¬ router.Recent request time winner
  noted : ∀ id ∈ state.degradedCandidates, ∃ mapping,
    router.mappings.candidates.get? id = some mapping ∧ ¬ router.Recent request time mapping

/-- Concluding leaves the degraded candidates as they are. -/
theorem degradedCandidates_conclude (state : Routing)
    (eligible : List (SemanticMappingCandidate × String)) :
    (conclude request conceptId state eligible).degradedCandidates = state.degradedCandidates := by
  cases eligible with
  | nil => rfl
  | cons first rest =>
    unfold conclude
    dsimp only
    split <;> rfl

/-- The loop's body assesses the candidates of a concept and concludes. -/
theorem consider_ok (formed : router.mappings.WellFormed) {before after : Routing}
    (ran : router.consider request time before conceptId = .ok after) :
    Concludes router request time conceptId before after ∧
      ∀ id, id ∈ after.degradedCandidates ↔ id ∈ before.degradedCandidates ∨
        request.freshnessSlo.onBreach = .degrade ∧ ∃ item ∈ router.candidates request conceptId,
          ¬ router.Recent request time item ∧ id = item.mappingId := by
  unfold consider at ran
  obtain ⟨⟨eligible, middle⟩, assessed, ran⟩ := of_bind_ok ran
  have assessed := assessAll_ok assessed
  have result : conclude request conceptId middle (eligible.insertionSort ranks) = after :=
    Except.ok.inj ran
  have mem : ∀ mapping, mapping ∈ eligible.map Prod.fst ↔
      router.Eligible request time conceptId mapping := by
    intro mapping
    rw [assessed.mem, eligible_iff formed]
  have once := assessed.sublist.nodup (nodup_candidates formed)
  have concludes := @conclude_spec router request time conceptId _ middle eligible once mem
  have kept := @degradedCandidates_conclude request conceptId _ middle
    (eligible.insertionSort ranks)
  rw [result] at concludes kept
  constructor
  · cases concludes with
    | uncovered is grown ambiguous selected degraded =>
      rw [assessed.uncovered] at grown
      exact .uncovered is grown (ambiguous.trans assessed.ambiguous)
        (selected.trans assessed.selected) (degraded.trans assessed.degraded)
    | ambiguous is uncovered grown selected degraded =>
      rw [assessed.ambiguous] at grown
      exact .ambiguous is (uncovered.trans assessed.uncovered) grown
        (selected.trans assessed.selected) (degraded.trans assessed.degraded)
    | clear winner is uncovered ambiguous selected degraded =>
      rw [assessed.selected] at selected
      rw [assessed.degraded] at degraded
      exact .clear winner is (uncovered.trans assessed.uncovered)
        (ambiguous.trans assessed.ambiguous) selected degraded
  · rw [kept]
    exact assessed.noted

/-- At an aware time, the loop's body does not raise. -/
theorem exists_consider (aware : time.aware = true) (state : Routing) (conceptId : String) :
    ∃ after, router.consider request time state conceptId = .ok after := by
  obtain ⟨result, assessed⟩ := @exists_assessAll router request time conceptId aware
    (router.candidates request conceptId) state
  unfold consider
  rw [assessed]
  exact ⟨_, rfl⟩

/-- A concept without a winner is uncovered or ambiguous. -/
theorem Routed.pass {winners : List SemanticMappingCandidate} {done : List String}
    {before after : Routing} (routed : Routed router request time winners done before)
    (uncovered : ∀ concept, concept ∈ after.uncovered ↔
      concept ∈ done ++ [conceptId] ∧ router.Uncovered request time concept)
    (ambiguous : ∀ concept, concept ∈ after.ambiguous ↔
      concept ∈ done ++ [conceptId] ∧ router.Ambiguous request time concept)
    (unclear : ¬ (after.uncovered = [] ∧ after.ambiguous = []))
    (selected : after.selected = before.selected) (degraded : after.degraded = before.degraded)
    (marks : ∀ id ∈ after.degradedCandidates, ∃ mapping,
      router.mappings.candidates.get? id = some mapping ∧ ¬ router.Recent request time mapping) :
    Routed router request time winners (done ++ [conceptId]) after := by
  have few := routed.few
  refine ⟨uncovered, ambiguous, selected.trans routed.selected, routed.clear, ?_, ?_, ?_, marks⟩
  · intro none clear
    exact absurd ⟨none, clear⟩ unclear
  · rw [List.length_append]
    omega
  · rw [degraded]
    exact routed.degraded

/-- A concept with a clear mapping has a winner, and is degraded unless the winner is recent. -/
theorem Routed.win {winners : List SemanticMappingCandidate} {done : List String}
    {before after : Routing} {winner : SemanticMappingCandidate}
    (routed : Routed router request time winners done before)
    (is : router.Clear request time conceptId winner)
    (uncovered : after.uncovered = before.uncovered) (ambiguous : after.ambiguous = before.ambiguous)
    (selected : after.selected = Grouping.append before.selected (assetOf winner) winner)
    (degraded : after.degraded = if winner.mappingId ∈ after.degradedCandidates then
      before.degraded ++ [conceptId] else before.degraded)
    (stale : winner.mappingId ∈ after.degradedCandidates ↔ ¬ router.Recent request time winner)
    (marks : ∀ id ∈ after.degradedCandidates, ∃ mapping,
      router.mappings.candidates.get? id = some mapping ∧ ¬ router.Recent request time mapping) :
    Routed router request time (winners ++ [winner]) (done ++ [conceptId]) after := by
  have few := routed.few
  have covered : ¬ router.Uncovered request time conceptId := fun none => none winner is.1
  have named : winner.conceptId = conceptId := is.1.concept
  refine ⟨?_, ?_, ?_, ?_, ?_, ?_, ?_, marks⟩
  · rw [uncovered]
    exact classified_pass routed.uncovered covered
  · rw [ambiguous]
    exact classified_pass routed.ambiguous is.not_ambiguous
  · rw [selected, routed.selected, Grouping.collect_snoc]
  · intro other member
    rcases List.mem_append.mp member with old | new
    · exact routed.clear other old
    · rw [List.mem_singleton.mp new, named]
      exact is
  · intro none clear
    rw [uncovered] at none
    rw [ambiguous] at clear
    rw [List.map_append, routed.whole none clear, List.map_singleton, named]
  · rw [List.length_append, List.length_append]
    simp only [List.length_singleton]
    omega
  · intro concept
    simp only [List.mem_append, List.mem_singleton, or_and_right, exists_or, exists_eq_left,
      ← routed.degraded, named]
    rw [degraded]
    by_cases recent : router.Recent request time winner
    · rw [if_neg fun member => stale.mp member recent]
      simp [recent]
    · rw [if_pos (stale.mpr recent)]
      simp [recent, eq_comm]

/-- One pass of the loop classifies one more concept. -/
theorem Routed.step (formed : router.mappings.WellFormed)
    {winners : List SemanticMappingCandidate} {done : List String} {before after : Routing}
    (routed : Routed router request time winners done before)
    (ran : router.consider request time before conceptId = .ok after) :
    ∃ more, Routed router request time (winners ++ more) (done ++ [conceptId]) after := by
  obtain ⟨concludes, noted⟩ := consider_ok formed ran
  have marks : ∀ id ∈ after.degradedCandidates, ∃ mapping,
      router.mappings.candidates.get? id = some mapping ∧
        ¬ router.Recent request time mapping := by
    intro id member
    rcases (noted id).mp member with old | ⟨-, item, among, stale, rfl⟩
    · exact routed.noted id old
    · exact ⟨item, ((mem_candidates formed).mp among).1, stale⟩
  cases concludes with
  | uncovered is grown ambiguous selected degraded =>
    have clear : ¬ router.Ambiguous request time conceptId := by
      rintro ⟨first, -, eligible, -⟩
      exact is first eligible
    refine ⟨[], ?_⟩
    rw [List.append_nil]
    refine routed.pass ?_ ?_ ?_ selected degraded marks
    · rw [grown]
      exact classified_snoc routed.uncovered is
    · rw [ambiguous]
      exact classified_pass routed.ambiguous clear
    · simp [grown]
  | ambiguous is uncovered grown selected degraded =>
    have covered : ¬ router.Uncovered request time conceptId := by
      obtain ⟨first, -, eligible, -⟩ := is
      exact fun none => none first eligible
    refine ⟨[], ?_⟩
    rw [List.append_nil]
    refine routed.pass ?_ ?_ ?_ selected degraded marks
    · rw [uncovered]
      exact classified_pass routed.uncovered covered
    · rw [grown]
      exact classified_snoc routed.ambiguous is
    · simp [grown]
  | clear winner is uncovered ambiguous selected degraded =>
    have stale : winner.mappingId ∈ after.degradedCandidates ↔
        ¬ router.Recent request time winner := by
      constructor
      · intro member
        obtain ⟨mapping, kept, old⟩ := marks _ member
        rw [is.1.proposed] at kept
        rwa [Option.some.inj kept]
      · intro old
        have accepted := is.1.recent.resolve_left old
        have among := ((eligible_iff formed).mp is.1).1
        exact (noted _).mpr (.inr ⟨accepted, winner, among, old, rfl⟩)
    exact ⟨[winner], routed.win is uncovered ambiguous selected degraded stale marks⟩

/-- What the accumulators hold at the end of the loop. -/
theorem routed_of_foldlM (formed : router.mappings.WellFormed) {state : Routing}
    (ran : request.conceptIds.foldlM (router.consider request time) .start = .ok state) :
    ∃ winners, Routed router request time winners request.conceptIds state := by
  refine @Loops.foldlM_invariant _ _ _ _
    (fun done state => ∃ winners, Routed router request time winners done state) _ _ _ ⟨[], ?_⟩ ?_
    ran
  · exact ⟨by simp [Routing.start], by simp [Routing.start], rfl, by simp, by simp, le_rfl,
      by simp [Routing.start], by simp [Routing.start]⟩
  · rintro done before concept after ⟨winners, routed⟩ considered
    obtain ⟨more, next⟩ := routed.step formed considered
    exact ⟨winners ++ more, next⟩

/-- A route goes where its group goes. -/
theorem routeTo_ok {group : (String × String) × List SemanticMappingCandidate}
    {route : SelectedRoute} (ran : router.routeTo request time group = .ok route)
    (clear : ∀ winner ∈ group.2, router.Clear request time winner.conceptId winner)
    (here : ∀ winner ∈ group.2, assetOf winner = group.1) :
    router.RoutesTo request time route group.2 ∧ (route.sourceId, route.assetId) = group.1 := by
  unfold routeTo at ran
  obtain ⟨assessment, assessed, ran⟩ := of_bind_ok ran
  obtain rfl := Except.ok.inj ran
  obtain ⟨-, watermark, -⟩ := FreshnessRegistry.assess_ok assessed
  refine ⟨⟨?_, rfl, rfl, rfl, watermark, rfl⟩, rfl⟩
  intro winner member
  obtain ⟨source, asset⟩ := Prod.mk.inj (here winner member)
  exact ⟨(clear winner member).best, source, asset⟩

/-- Routes have the concepts of their groups. -/
theorem perm_concepts {groups : List ((String × String) × List SemanticMappingCandidate)}
    {routes : List SelectedRoute} (each : List.Forall₂
      (fun group route => router.routeTo request time group = .ok route) groups routes) :
    (routes.flatMap (·.conceptIds)).Perm ((groups.flatMap Prod.snd).map (·.conceptId)) ∧
      (routes.map fun route => (route.sourceId, route.assetId)) = groups.map Prod.fst := by
  induction each with
  | nil => exact ⟨.nil, rfl⟩
  | @cons group route groups routes ran _ ih =>
    unfold routeTo at ran
    obtain ⟨assessment, assessed, ran⟩ := of_bind_ok ran
    have made := Except.ok.inj ran
    constructor
    · rw [List.flatMap_cons, List.flatMap_cons, List.map_append, ← made]
      exact (List.perm_insertionSort _ _).append ih.1
    · rw [List.map_cons, List.map_cons, ih.2, ← made]

/-- The routes of a loop that left no concept uncovered or ambiguous select the winners. -/
theorem Routed.selects {winners : List SemanticMappingCandidate} {state : Routing}
    {decision : RouteDecision} (routed : Routed router request time winners request.conceptIds state)
    (covered : state.uncovered = []) (clear : state.ambiguous = [])
    (ran : (state.selected.insertionSort assetOrder).mapM (router.routeTo request time) =
      .ok decision.routes)
    (codes : decision.reasonCodes = (sortedSet state.degraded).map ("freshness_degraded:" ++ ·)) :
    router.Selects request time decision := by
  have whole := routed.whole covered clear
  have sound := Grouping.sound_collect assetOf winners
  have perm := Grouping.perm_collect assetOf winners
  have distinct := Grouping.nodup_collect assetOf winners
  rw [← routed.selected] at sound perm distinct
  have order := List.perm_insertionSort assetOrder state.selected
  obtain ⟨concepts, keys⟩ := perm_concepts (Loops.forall₂_of_mapM ran)
  refine ⟨?_, ?_, ?_, ?_⟩
  · have grouped := ((order.flatMap_right Prod.snd).trans perm).map (·.conceptId)
    rw [whole] at grouped
    exact concepts.trans grouped
  · rw [keys]
    exact (order.map Prod.fst).nodup_iff.mpr distinct
  · intro route member
    obtain ⟨group, inside, routes⟩ := Loops.exists_of_mapM ran member
    have among := (List.mem_insertionSort assetOrder).mp inside
    have won : ∀ winner ∈ group.2, winner ∈ winners := by
      intro winner has
      exact perm.mem_iff.mp (List.mem_flatMap.mpr ⟨group, among, has⟩)
    have goes := routeTo_ok routes (fun winner has => routed.clear winner (won winner has))
      (sound group among).2
    exact ⟨group.2, (sound group among).1, goes.1⟩
  · intro code
    rw [codes]
    simp only [sortedSet, sortedTexts, List.mem_map, List.mem_insertionSort, List.mem_dedup,
      routed.degraded]
    constructor
    · rintro ⟨concept, ⟨winner, among, rfl, stale⟩, rfl⟩
      refine ⟨winner.conceptId, ?_, winner, (routed.clear winner among).best, stale, rfl⟩
      rw [← whole]
      exact List.mem_map_of_mem among
    · rintro ⟨concept, requested, mapping, best, stale, rfl⟩
      rw [← whole] at requested
      obtain ⟨winner, among, rfl⟩ := List.mem_map.mp requested
      have same := best.unique (routed.clear winner among).best
      rw [same] at stale
      exact ⟨winner.conceptId, ⟨winner, among, rfl, stale⟩, rfl⟩

/-- The ways `route` ends, by what its loop left. -/
inductive Ends (router : SemanticSourceRouter) (request : RouteRequest) (time : DateTime)
    (state : Routing) (decision : RouteDecision) : Prop
  | escalated : state.ambiguous ≠ [] → decision.status = .escalationRequired →
    Ends router request time state decision
  | refused : state.ambiguous = [] →
    (state.uncovered ≠ [] ∨ request.maxSources < state.selected.length) →
      decision.status = .refused → decision.uncoveredConcepts = sortedSet state.uncovered →
        decision.reasonCodes = (sortedSet state.uncovered).map ("uncovered:" ++ ·) ++
          (sortedSet state.stale).map ("stale:" ++ ·) ++
          (sortedSet state.freshnessRefused).map ("freshness_refused:" ++ ·) ++
          (if request.maxSources < state.selected.length then ["source_bound_exceeded"] else []) →
          Ends router request time state decision
  | selected : state.ambiguous = [] → state.uncovered = [] →
    ¬ request.maxSources < state.selected.length → decision.status = .selected →
      (state.selected.insertionSort assetOrder).mapM (router.routeTo request time) =
        .ok decision.routes →
        decision.reasonCodes = (sortedSet state.degraded).map ("freshness_degraded:" ++ ·) →
          Ends router request time state decision

/-- `route` goes through its loop and ends by what the loop left. -/
theorem route_ends {decision : RouteDecision} (ran : router.route request time = .ok decision) :
    ∃ state, request.conceptIds.foldlM (router.consider request time) .start = .ok state ∧
      Ends router request time state decision := by
  unfold route at ran
  obtain ⟨state, looped, ran⟩ := of_bind_ok ran
  refine ⟨state, looped, ?_⟩
  by_cases escalates : state.ambiguous ≠ []
  · rw [if_pos escalates] at ran
    obtain rfl := Except.ok.inj ran
    exact .escalated escalates rfl
  · have clear := not_not.mp escalates
    rw [if_neg escalates] at ran
    by_cases refuses : state.uncovered ≠ [] ∨ request.maxSources < state.selected.length
    · rw [if_pos refuses] at ran
      obtain rfl := Except.ok.inj ran
      exact .refused clear refuses rfl rfl rfl
    · rw [if_neg refuses] at ran
      obtain ⟨routes, mapped, ran⟩ := of_bind_ok ran
      obtain rfl := Except.ok.inj ran
      obtain ⟨covered, bounded⟩ := not_or.mp refuses
      exact .selected clear (not_not.mp covered) bounded rfl mapped rfl

/-- `route` has routed every concept that it could, and ends by what is left. -/
theorem exists_ends (formed : router.mappings.WellFormed) {decision : RouteDecision}
    (ran : router.route request time = .ok decision) :
    ∃ state winners, Routed router request time winners request.conceptIds state ∧
      Ends router request time state decision := by
  obtain ⟨state, looped, ends⟩ := route_ends ran
  obtain ⟨winners, routed⟩ := routed_of_foldlM formed looped
  exact ⟨state, winners, routed, ends⟩

/-- What `route` decides: it escalates when a concept is ambiguous, else refuses when one has no
eligible mapping, and else routes every concept to its best mapping. -/
theorem route_decides (formed : router.mappings.WellFormed)
    (bound : (request.conceptIds.length : Int) ≤ request.maxSources) {decision : RouteDecision}
    (ran : router.route request time = .ok decision) : router.Decides request time decision := by
  obtain ⟨state, winners, routed, ends⟩ := exists_ends formed ran
  have ambiguous := ne_nil_iff_classified routed.ambiguous
  have uncovered := ne_nil_iff_classified routed.uncovered
  have few : ¬ request.maxSources < state.selected.length := by
    have groups := Grouping.length_collect_le assetOf winners
    rw [← routed.selected] at groups
    have bounded := routed.few
    omega
  cases ends with
  | escalated some status =>
    have some := ambiguous.mp some
    exact ⟨by simp [status, some], by simp [status, some], by simp [status], by simp [status]⟩
  | refused clear lacking status listed codes =>
    have clear := mt ambiguous.mpr (not_not.mpr clear)
    have some := uncovered.mp (lacking.resolve_right few)
    refine ⟨by simp [status, clear], by simp [status, clear, some], ?_, by simp [status]⟩
    intro _ concept
    rw [listed, mem_sortedSet]
    exact routed.uncovered concept
  | selected clear covered bounded status mapped codes =>
    have unambiguous := mt ambiguous.mpr (not_not.mpr clear)
    have full := mt uncovered.mpr (not_not.mpr covered)
    refine ⟨by simp [status, unambiguous], by simp [status, full], by simp [status], ?_⟩
    intro _
    exact routed.selects covered clear mapped codes

/-- At an aware time the router decides. -/
theorem exists_route (aware : time.aware = true) :
    ∃ decision, router.route request time = .ok decision := by
  have body : ∀ state, ∀ concept ∈ request.conceptIds,
      ∃ after, router.consider request time state concept = .ok after :=
    fun state concept _ => exists_consider aware state concept
  obtain ⟨state, looped⟩ := Loops.exists_foldlM .start body
  have routes : ∀ group ∈ state.selected.insertionSort assetOrder,
      ∃ route, router.routeTo request time group = .ok route := by
    intro group _
    obtain ⟨assessment, assessed⟩ := @FreshnessRegistry.exists_assess router.freshness
      request.freshnessSlo time group.1.1 group.1.2 aware
    unfold routeTo
    rw [assessed]
    exact ⟨_, rfl⟩
  obtain ⟨routes, mapped⟩ := Loops.exists_mapM routes
  unfold route
  rw [looped]
  simp only [bind, Except.bind]
  split
  · exact ⟨_, rfl⟩
  · split
    · exact ⟨_, rfl⟩
    · rw [mapped]
      exact ⟨_, rfl⟩

end Body

/-- For every arithmetic, every registry of mappings that calls can reach and every registry of
observations, `route` decides as it is to at an aware time, and so does every decision it returns at
another. -/
theorem route_spec [Arithmetic] (calls : List RegistryCall) (freshness : FreshnessRegistry)
    {request : RouteRequest} (time : DateTime)
    (bound : (request.conceptIds.length : Int) ≤ request.maxSources) :
    (time.aware = true → ∃ decision,
      route ⟨registryAfter calls, freshness⟩ request time = .ok decision) ∧
      ∀ decision, route ⟨registryAfter calls, freshness⟩ request time = .ok decision →
        Decides ⟨registryAfter calls, freshness⟩ request time decision :=
  ⟨exists_route, fun _ ran => route_decides (registryAfter_wellFormed calls) bound ran⟩

end SemanticSourceRouter

/-! ## A small registry -/

/-- An observation of the asset of the small mapping. -/
def FreshnessObservation.small : FreshnessObservation :=
  ⟨"erp", "orders", noon, noon, "42", by decide, by decide, le_rfl⟩

/-- A request for its concept. -/
def RouteRequest.small : RouteRequest :=
  ⟨"request", ["concept"], 1, 1 / 2, 1 / 64, ⟨300000000, .exclude, by decide⟩, by decide,
    by norm_num⟩

/-- A mapping of another concept, to another asset. -/
def SemanticMappingCandidate.stock : SemanticMappingCandidate :=
  { SemanticMappingCandidate.small with
    mappingId := "stock-mapping"
    conceptId := "stock"
    assetId := "parts"
    confidence := 3 / 4
    required := by decide
    bounded := by norm_num }

/-- A mapping that competes with the small one, with less confidence. -/
def SemanticMappingCandidate.rival : SemanticMappingCandidate :=
  { SemanticMappingCandidate.stock with
    mappingId := "rival-mapping"
    conceptId := "concept"
    required := by decide }

/-- A mapping is proposed and approved. -/
def RegistryCall.approve (mapping : SemanticMappingCandidate) : List RegistryCall :=
  [.propose mapping, .review { MappingReview.small with mappingId := mapping.mappingId }]

/-- A request of two concepts. -/
def RouteRequest.pair : RouteRequest :=
  { RouteRequest.small with
    conceptIds := ["concept", "stock"]
    maxSources := 2
    required := by decide }

/-- Each concept of a request is routed to the asset of its best mapping. -/
theorem SemanticSourceRouter.route_spec_small :
    letI := Arithmetic.exact
    let router : SemanticSourceRouter :=
      ⟨registryAfter (RegistryCall.approve .small ++ RegistryCall.approve .rival ++
          RegistryCall.approve .stock),
        (Table.empty.insert .small rfl).insert
          { FreshnessObservation.small with assetId := "parts", required := by decide } (by decide)⟩
    ∃ decision, router.route .pair noon = .ok decision ∧ decision.status = .selected ∧
      decision.routes.map (fun route => (route.assetId, route.conceptIds, route.mappingIds)) =
        [("orders", ["concept"], ["mapping"]), ("parts", ["stock"], ["stock-mapping"])] ∧
        router.Decides .pair noon decision := by
  let := Arithmetic.exact
  intro router
  have spec := route_spec (RegistryCall.approve .small ++ RegistryCall.approve .rival ++
    RegistryCall.approve .stock) router.freshness noon
    (show (RouteRequest.pair.conceptIds.length : Int) ≤ RouteRequest.pair.maxSources by decide)
  obtain ⟨decision, ran⟩ := spec.1 (by decide)
  have computed : (router.route .pair noon).map (fun decision => (decision.status,
      decision.routes.map fun route => (route.assetId, route.conceptIds, route.mappingIds))) =
      .ok (.selected,
        [("orders", ["concept"], ["mapping"]), ("parts", ["stock"], ["stock-mapping"])]) := by
    decide +kernel
  rw [show router.route .pair noon = .ok decision from ran] at computed
  obtain ⟨status, routes⟩ := Prod.mk.inj (Except.ok.inj computed)
  exact ⟨decision, ran, status, routes, spec.2 decision ran⟩

end DataHarness
