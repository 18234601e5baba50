import DataHarness.Semantic.Routing

/-!
# Routes, the source bound and refused staleness

Three questions about a whole decision. A routed decision lists every concept once exactly when the
request does. The bound named for sources counts assets, so it meets its name unless one source has
several of the winning assets. An objective that refuses refuses only what has no other mapping: a
breach next to a fresh winner leaves no trace in the decision.
-/

namespace DataHarness.SemanticSourceRouter

/-! ## The winning mappings -/

section Winners

variable (router : SemanticSourceRouter) (request : RouteRequest) (time : DateTime)

/-- Every requested concept with its best mapping, in the order of the request. -/
def Won (winners : List SemanticMappingCandidate) : Prop :=
  List.Forall₂ (fun concept winner => router.Best request time concept winner) request.conceptIds
    winners

/-- How many sources some mappings come from. -/
def sourceCount (winners : List SemanticMappingCandidate) : Nat :=
  (winners.map (·.sourceId)).dedup.length

/-- How many assets of sources some mappings come from. -/
def assetCount (winners : List SemanticMappingCandidate) : Nat :=
  (winners.map assetOf).dedup.length

end Winners

variable {router : SemanticSourceRouter} {request : RouteRequest} {time : DateTime}
  {winners : List SemanticMappingCandidate} {decision : RouteDecision}

/-- Mappings come from no more sources than assets. -/
theorem sourceCount_le (winners : List SemanticMappingCandidate) :
    sourceCount winners ≤ assetCount winners := by
  have inside : (winners.map (·.sourceId)).dedup ⊆ (winners.map assetOf).dedup.map Prod.fst := by
    intro source member
    obtain ⟨winner, among, rfl⟩ := List.mem_map.mp (List.mem_dedup.mp member)
    exact List.mem_map.mpr ⟨assetOf winner, List.mem_dedup.mpr (List.mem_map_of_mem among), rfl⟩
  have few := ((List.nodup_dedup _).subperm inside).length_le
  rwa [List.length_map] at few

/-- The winning mappings of a request are determined. -/
theorem Won.unique {others : List SemanticMappingCandidate} (won : router.Won request time winners)
    (also : router.Won request time others) : winners = others := by
  have each : Relator.RightUnique fun concept winner => router.Best request time concept winner :=
    fun _ _ _ best other => Best.unique best other
  exact each.forall₂ won also

/-- Winners that are all of one source come from no other. -/
theorem sourceCount_le_of_source {source : String} (won : router.Won request time winners)
    (single : ∀ winner : SemanticMappingCandidate,
      router.mappings.candidates.get? winner.mappingId = some winner → winner.sourceId = source) :
    sourceCount winners ≤ 1 := by
  have inside : (winners.map (·.sourceId)).dedup ⊆ [source] := by
    intro name member
    obtain ⟨winner, among, rfl⟩ := List.mem_map.mp (List.mem_dedup.mp member)
    obtain ⟨concept, -, best⟩ := Loops.exists_of_forall₂ won among
    rw [single winner best.1.proposed]
    exact List.mem_singleton_self _
  exact ((List.nodup_dedup _).subperm inside).length_le

section Decisions

variable [Arithmetic]

/-- What a loop has routed when it left no concept uncovered or ambiguous are the winning
mappings. -/
theorem Routed.won {state : Routing} (routed : Routed router request time winners request.conceptIds
    state) (covered : state.uncovered = []) (clear : state.ambiguous = []) :
    router.Won request time winners := by
  unfold Won
  rw [← routed.whole covered clear, List.forall₂_map_left_iff, List.forall₂_same]
  intro winner member
  exact (routed.clear winner member).best

/-- The groups a loop has filled are as many as the assets of what it routed. -/
theorem Routed.groups {state : Routing} {done : List String}
    (routed : Routed router request time winners done state) :
    state.selected.length = assetCount winners := by
  rw [routed.selected]
  exact Grouping.length_collect assetOf winners

/-! ## When a request is routed -/

/-- A request is routed exactly when every concept has a winner and the winners' assets stay within
the bound. -/
theorem selected_iff (formed : router.mappings.WellFormed)
    (ran : router.route request time = .ok decision) :
    decision.status = .selected ↔
      (∀ concept ∈ request.conceptIds, ¬ router.Ambiguous request time concept) ∧
        (∀ concept ∈ request.conceptIds, ¬ router.Uncovered request time concept) ∧
          ∀ winners, router.Won request time winners →
            (assetCount winners : Int) ≤ request.maxSources := by
  obtain ⟨state, winners, routed, ends⟩ := exists_ends formed ran
  have unambiguous := eq_nil_iff_classified routed.ambiguous
  have served := eq_nil_iff_classified routed.uncovered
  have counted := routed.groups
  cases ends with
  | escalated some status =>
    refine iff_of_false (by simp [status]) ?_
    exact fun all => some (unambiguous.mpr all.1)
  | refused clear lacking status _ _ =>
    refine iff_of_false (by simp [status]) ?_
    rintro ⟨-, covered, bounded⟩
    have full := served.mpr covered
    have exceeded := lacking.resolve_left (not_not.mpr full)
    have within := bounded winners (routed.won full clear)
    omega
  | selected clear covered bounded status _ _ =>
    refine iff_of_true status ⟨unambiguous.mp clear, served.mp covered, ?_⟩
    intro others won
    rw [won.unique (routed.won covered clear)]
    omega

/-- A routed decision selects the winners, whatever its bound is. -/
theorem selects_of_selected (formed : router.mappings.WellFormed)
    (ran : router.route request time = .ok decision) (selected : decision.status = .selected) :
    router.Selects request time decision := by
  obtain ⟨state, winners, routed, ends⟩ := exists_ends formed ran
  cases ends with
  | escalated _ status => simp [status] at selected
  | refused _ _ status _ _ => simp [status] at selected
  | selected clear covered _ _ mapped codes => exact routed.selects covered clear mapped codes

/-! ## Concepts and mappings that are listed once -/

/-- No route lists a concept or a mapping twice. -/
def ListsOnce (decision : RouteDecision) : Prop :=
  ∀ route ∈ decision.routes, route.conceptIds.Nodup ∧ route.mappingIds.Nodup

/-- Routes that share a concept go to one asset. -/
theorem Selects.disjoint (selects : router.Selects request time decision) {left right : SelectedRoute}
    (one : left ∈ decision.routes) (two : right ∈ decision.routes)
    (apart : (left.sourceId, left.assetId) ≠ (right.sourceId, right.assetId)) :
    left.conceptIds.Disjoint right.conceptIds := by
  obtain ⟨firsts, -, first⟩ := selects.routes left one
  obtain ⟨seconds, -, second⟩ := selects.routes right two
  intro concept here there
  rw [first.conceptIds, sortedTexts, List.mem_insertionSort, List.mem_map] at here
  rw [second.conceptIds, sortedTexts, List.mem_insertionSort, List.mem_map] at there
  obtain ⟨winner, among, rfl⟩ := here
  obtain ⟨other, inside, named⟩ := there
  obtain ⟨best, source, asset⟩ := first.best winner among
  obtain ⟨also, origin, place⟩ := second.best other inside
  rw [named] at also
  obtain rfl := best.unique also
  exact apart (by rw [← source, ← asset, ← origin, ← place])

/-- A route whose concepts are listed once lists its mappings once. -/
theorem RoutesTo.nodup_mappingIds {route : SelectedRoute}
    (routes : router.RoutesTo request time route winners) (once : route.conceptIds.Nodup) :
    route.mappingIds.Nodup := by
  rw [routes.conceptIds, sortedTexts, (List.perm_insertionSort _ _).nodup_iff] at once
  rw [routes.mappingIds, sortedTexts, (List.perm_insertionSort _ _).nodup_iff]
  refine List.Nodup.map_on ?_ (once.of_map _)
  intro winner among other inside same
  have proposed := (routes.best winner among).1.1.proposed
  rw [same, (routes.best other inside).1.1.proposed] at proposed
  exact (Option.some.inj proposed).symm

/-- A decision that selects lists every concept and mapping once exactly when the request names
every concept once. -/
theorem Selects.listsOnce_iff (selects : router.Selects request time decision) :
    ListsOnce decision ↔ request.conceptIds.Nodup := by
  rw [← selects.once.nodup_iff, List.nodup_flatMap]
  constructor
  · intro once
    refine ⟨fun route member => (once route member).1, ?_⟩
    have keys := List.pairwise_map.mp selects.distinct
    exact keys.imp_of_mem fun one two apart => selects.disjoint one two apart
  · rintro ⟨once, -⟩ route member
    obtain ⟨winners, -, routes⟩ := selects.routes route member
    exact ⟨once route member, routes.nodup_mappingIds (once route member)⟩

/-- For every arithmetic, every registry that calls can reach and every registry of observations, a
routed decision lists every concept and mapping once exactly when the request names every concept
once. -/
theorem lists_once_iff (calls : List RegistryCall) (freshness : FreshnessRegistry)
    {request : RouteRequest} {time : DateTime} {decision : RouteDecision}
    (ran : route ⟨registryAfter calls, freshness⟩ request time = .ok decision)
    (selected : decision.status = .selected) :
    ListsOnce decision ↔ request.conceptIds.Nodup :=
  (selects_of_selected (registryAfter_wellFormed calls) ran selected).listsOnce_iff

/-! ## The source bound -/

/-- The refusal names the bound exactly when the winners have too many assets. -/
theorem refused_over_iff {state : Routing} (ends : Ends router request time state decision)
    (clear : state.ambiguous = []) (covered : state.uncovered = []) :
    (decision.status = .refused ∧ "source_bound_exceeded" ∈ decision.reasonCodes) ↔
      request.maxSources < state.selected.length := by
  cases ends with
  | escalated some status => exact absurd clear some
  | refused _ lacking status _ codes =>
    have exceeded := lacking.resolve_left (not_not.mpr covered)
    refine iff_of_true ⟨status, ?_⟩ exceeded
    rw [codes, if_pos exceeded]
    simp
  | selected _ _ bounded status _ _ => exact iff_of_false (by simp [status]) bounded

/-- The winners of a request whose concepts are all covered and clear. -/
theorem exists_won (formed : router.mappings.WellFormed)
    (ran : router.route request time = .ok decision)
    (clear : ∀ concept ∈ request.conceptIds, ¬ router.Ambiguous request time concept)
    (covered : ∀ concept ∈ request.conceptIds, ¬ router.Uncovered request time concept) :
    ∃ winners, router.Won request time winners ∧
      ((decision.status = .refused ∧ "source_bound_exceeded" ∈ decision.reasonCodes) ↔
        request.maxSources < assetCount winners) := by
  obtain ⟨state, winners, routed, ends⟩ := exists_ends formed ran
  have unambiguous := (eq_nil_iff_classified routed.ambiguous).mpr clear
  have full := (eq_nil_iff_classified routed.uncovered).mpr covered
  refine ⟨winners, routed.won full unambiguous, ?_⟩
  rw [refused_over_iff ends unambiguous full, routed.groups]

/-- A request that is refused has no ambiguous concept. -/
theorem clear_of_refused (formed : router.mappings.WellFormed)
    (ran : router.route request time = .ok decision) (refused : decision.status = .refused) :
    ∀ concept ∈ request.conceptIds, ¬ router.Ambiguous request time concept := by
  obtain ⟨state, winners, routed, ends⟩ := exists_ends formed ran
  have unambiguous := eq_nil_iff_classified routed.ambiguous
  cases ends with
  | escalated _ status => simp [status] at refused
  | refused clear _ _ _ _ => exact unambiguous.mp clear
  | selected clear _ _ _ _ _ => exact unambiguous.mp clear

/-- A request that is refused without an uncovered concept has none. -/
theorem covered_of_refused (formed : router.mappings.WellFormed)
    (ran : router.route request time = .ok decision) (refused : decision.status = .refused)
    (none : decision.uncoveredConcepts = []) :
    ∀ concept ∈ request.conceptIds, ¬ router.Uncovered request time concept := by
  obtain ⟨state, winners, routed, ends⟩ := exists_ends formed ran
  have full := eq_nil_iff_classified routed.uncovered
  cases ends with
  | escalated _ status => simp [status] at refused
  | refused _ _ _ uncovered _ =>
    rw [uncovered] at none
    by_contra some
    exact sortedSet_ne_nil (mt full.mp some) none
  | selected _ covered _ _ _ _ => exact full.mp covered

/-- For every arithmetic, every registry that calls can reach and every registry of observations, and
a request of which every concept has a winner: the decision refuses over the bound exactly when the
winners come from too many sources, if and only if they do not have too many assets at few enough
sources. -/
theorem bound_counts_sources_iff (calls : List RegistryCall) (freshness : FreshnessRegistry)
    {request : RouteRequest} {time : DateTime} {decision : RouteDecision}
    (ran : route ⟨registryAfter calls, freshness⟩ request time = .ok decision)
    (clear : ∀ concept ∈ request.conceptIds,
      ¬ Ambiguous ⟨registryAfter calls, freshness⟩ request time concept)
    (covered : ∀ concept ∈ request.conceptIds,
      ¬ Uncovered ⟨registryAfter calls, freshness⟩ request time concept) :
    ∃ winners, Won ⟨registryAfter calls, freshness⟩ request time winners ∧
      (((decision.status = .refused ∧ "source_bound_exceeded" ∈ decision.reasonCodes) ↔
          request.maxSources < sourceCount winners) ↔
        (request.maxSources < assetCount winners → request.maxSources < sourceCount winners)) := by
  obtain ⟨winners, won, refuses⟩ :=
    exists_won (registryAfter_wellFormed calls) ran clear covered
  refine ⟨winners, won, ?_⟩
  have fewer := sourceCount_le winners
  rw [refuses]
  constructor
  · exact Iff.mp
  · intro enough
    exact ⟨enough, fun _ => by omega⟩

/-! ## A breach of an objective that refuses -/

section Breach

variable (router : SemanticSourceRouter) (request : RouteRequest) (time : DateTime)

/-- An approved and confident mapping of a concept, not in quarantine, whenever it was observed. -/
structure Offered (conceptId : String) (mapping : SemanticMappingCandidate) : Prop where
  proposed : router.mappings.candidates.get? mapping.mappingId = some mapping
  approved : router.mappings.status mapping.mappingId = .ok .approved
  concept : mapping.conceptId = conceptId
  confident : request.minimumConfidence ≤ mapping.confidence

/-- Some mapping of a requested concept was not observed recently enough: never, too long ago or
in the future. -/
def Breaches : Prop :=
  ∃ concept ∈ request.conceptIds, ∃ mapping, router.Offered request concept mapping ∧
    ¬ router.Recent request time mapping

/-- No mapping of a concept was observed recently enough. -/
def Unserved (conceptId : String) : Prop :=
  ∀ mapping, router.Offered request conceptId mapping → ¬ router.Recent request time mapping

/-- Some concept has no recent mapping or two that are too close, or the winners have too many
assets. -/
def Blocked : Prop :=
  (∃ concept ∈ request.conceptIds, router.Unserved request time concept) ∨
    (∃ concept ∈ request.conceptIds, router.Ambiguous request time concept) ∨
      ∃ winners, router.Won request time winners ∧ request.maxSources < assetCount winners

end Breach

omit [Arithmetic] in
/-- Unless stale data is accepted, a concept without an eligible mapping is one without a recent
one. -/
theorem uncovered_iff_unserved (strict : request.freshnessSlo.onBreach ≠ .degrade)
    {conceptId : String} :
    router.Uncovered request time conceptId ↔ router.Unserved request time conceptId := by
  constructor
  · intro none mapping offered recent
    exact none mapping ⟨offered.proposed, offered.approved, offered.concept, offered.confident,
      .inl recent⟩
  · intro none mapping eligible
    have offered : router.Offered request conceptId mapping :=
      ⟨eligible.proposed, eligible.approved, eligible.concept, eligible.confident⟩
    exact none mapping offered (eligible.recent.resolve_right strict)

/-- Unless stale data is accepted, a request is routed exactly when nothing blocks it. -/
theorem selected_iff_not_blocked (formed : router.mappings.WellFormed)
    (ran : router.route request time = .ok decision)
    (strict : request.freshnessSlo.onBreach ≠ .degrade) :
    decision.status = .selected ↔ ¬ router.Blocked request time := by
  rw [selected_iff formed ran]
  unfold Blocked
  simp only [uncovered_iff_unserved strict]
  push Not
  exact and_left_comm

/-- For every arithmetic, every registry that calls can reach and every registry of observations,
under an objective that refuses: a breach keeps a request from being routed exactly when the recent
mappings alone block it. -/
theorem breach_refuses_iff (calls : List RegistryCall) (freshness : FreshnessRegistry)
    {request : RouteRequest} {time : DateTime} {decision : RouteDecision}
    (ran : route ⟨registryAfter calls, freshness⟩ request time = .ok decision)
    (refuse : request.freshnessSlo.onBreach = .refuse) :
    (Breaches ⟨registryAfter calls, freshness⟩ request time → decision.status ≠ .selected) ↔
      (Breaches ⟨registryAfter calls, freshness⟩ request time →
        Blocked ⟨registryAfter calls, freshness⟩ request time) := by
  have strict : request.freshnessSlo.onBreach ≠ .degrade := by simp [refuse]
  rw [ne_eq, selected_iff_not_blocked (registryAfter_wellFormed calls) ran strict, not_not]

/-! ## Small registries -/

/-- At an aware time a request is decided, with the status that is computed. -/
theorem exists_decision {status : RouteStatus} (aware : time.aware = true)
    (computed : (router.route request time).map (·.status) = .ok status) :
    ∃ decision, router.route request time = .ok decision ∧ decision.status = status := by
  obtain ⟨decision, ran⟩ := @exists_route router request time _ aware
  rw [ran] at computed
  exact ⟨decision, ran, Except.ok.inj computed⟩

end Decisions

/-- The registry of one approved mapping, of an asset observed at noon. -/
def ofOrders : SemanticSourceRouter :=
  ⟨registryAfter [.propose .small, .review .small], Table.empty.insert .small rfl⟩

/-- The mapping is selected. -/
theorem ofOrders_selects :
    letI := Arithmetic.doubles
    ∃ decision, ofOrders.route .small noon = .ok decision ∧ decision.status = .selected :=
  let := Arithmetic.doubles
  exists_decision rfl (by decide +kernel)

/-- The concept of the small request is listed once. -/
theorem lists_once_orders :
    letI := Arithmetic.doubles
    ∃ decision, ofOrders.route .small noon = .ok decision ∧
      (ListsOnce decision ↔ RouteRequest.small.conceptIds.Nodup) := by
  let := Arithmetic.doubles
  obtain ⟨decision, ran, selected⟩ := ofOrders_selects
  exact ⟨decision, ran, lists_once_iff _ _ ran selected⟩

/-- A request that names its concept twice. -/
def repeated : RouteRequest :=
  { RouteRequest.small with conceptIds := ["concept", "concept"], required := by decide }

/-- It is routed, and a route lists the concept twice. -/
theorem repeated_listed_twice :
    letI := Arithmetic.doubles
    ∃ decision, ofOrders.route repeated noon = .ok decision ∧
      decision.status = .selected ∧ ¬ ListsOnce decision := by
  let := Arithmetic.doubles
  obtain ⟨decision, ran, selected⟩ :=
    @exists_decision ofOrders repeated noon _ .selected rfl (by decide +kernel)
  have selects := selects_of_selected (registryAfter_wellFormed _) ran selected
  refine ⟨decision, ran, selected, fun once => ?_⟩
  have distinct := selects.listsOnce_iff.mp once
  revert distinct
  decide

/-- The small request has a winner, on one asset of one source. -/
theorem bound_counts_orders :
    letI := Arithmetic.doubles
    ∃ decision, ofOrders.route .small noon = .ok decision ∧
      ∃ winners, ofOrders.Won .small noon winners ∧
        (((decision.status = .refused ∧ "source_bound_exceeded" ∈ decision.reasonCodes) ↔
            RouteRequest.small.maxSources < sourceCount winners) ↔
          (RouteRequest.small.maxSources < assetCount winners →
            RouteRequest.small.maxSources < sourceCount winners)) := by
  let := Arithmetic.doubles
  obtain ⟨decision, ran, selected⟩ := ofOrders_selects
  obtain ⟨clear, covered, -⟩ := (selected_iff (registryAfter_wellFormed _) ran).mp selected
  exact ⟨decision, ran, bound_counts_sources_iff _ _ ran clear covered⟩

/-- A mapping to another asset of the same source. -/
def toParts (conceptId : String) (confidence : ℚ) (named : conceptId ≠ "")
    (bounded : 0 ≤ confidence ∧ confidence ≤ 1) : SemanticMappingCandidate :=
  { SemanticMappingCandidate.small with
    mappingId := "parts-mapping"
    conceptId := conceptId
    assetId := "parts"
    confidence := confidence
    required := by
      have rest := SemanticMappingCandidate.small.required
      simp only [List.forall_mem_cons] at rest ⊢
      exact ⟨by decide, named, rest.2.2.1, by decide, rest.2.2.2.2⟩
    bounded := bounded }

/-- The mappings to both assets, approved. -/
def withParts (conceptId : String) (confidence : ℚ) (named : conceptId ≠ "")
    (bounded : 0 ≤ confidence ∧ confidence ≤ 1) : SemanticMappingRegistry :=
  registryAfter [.propose .small, .review .small, .propose (toParts conceptId confidence named bounded),
    .review { MappingReview.small with mappingId := "parts-mapping" }]

/-- A request of two concepts, from one source. -/
def twoConcepts : RouteRequest :=
  { RouteRequest.small with conceptIds := ["concept", "stock"], required := by decide }

/-- The mappings of the two concepts, with both assets observed at noon. -/
def ofTwoConcepts : SemanticSourceRouter where
  mappings := withParts "stock" 1 (by decide) certain
  freshness := (Table.empty.insert .small rfl).insert
    { FreshnessObservation.small with assetId := "parts", required := by decide } (by decide)

/-- The request is refused over its bound of one source, and its winners come from one source. -/
theorem one_source_refused :
    letI := Arithmetic.doubles
    ∃ decision, ofTwoConcepts.route twoConcepts noon = .ok decision ∧
      (∀ concept ∈ twoConcepts.conceptIds, ¬ ofTwoConcepts.Ambiguous twoConcepts noon concept) ∧
        (∀ concept ∈ twoConcepts.conceptIds, ¬ ofTwoConcepts.Uncovered twoConcepts noon concept) ∧
          decision.status = .refused ∧ "source_bound_exceeded" ∈ decision.reasonCodes ∧
            ∃ winners, ofTwoConcepts.Won twoConcepts noon winners ∧
              ¬ twoConcepts.maxSources < sourceCount winners := by
  let := Arithmetic.doubles
  have formed : ofTwoConcepts.mappings.WellFormed := registryAfter_wellFormed _
  obtain ⟨decision, ran⟩ := @exists_route ofTwoConcepts twoConcepts noon _ rfl
  have computed : (ofTwoConcepts.route twoConcepts noon).map (fun decision =>
      (decision.status, decision.uncoveredConcepts, decision.reasonCodes)) =
        .ok (.refused, [], ["source_bound_exceeded"]) := by decide +kernel
  rw [ran] at computed
  obtain ⟨status, uncovered, codes⟩ : decision.status = .refused ∧
      decision.uncoveredConcepts = [] ∧ decision.reasonCodes = ["source_bound_exceeded"] := by
    simpa [Except.map] using computed
  have clear := clear_of_refused formed ran status
  have covered := covered_of_refused formed ran status uncovered
  obtain ⟨winners, won, -⟩ := exists_won formed ran clear covered
  refine ⟨decision, ran, clear, covered, status, by simp [codes], winners, won, ?_⟩
  have sources : ∀ item ∈ ofTwoConcepts.mappings.candidates.entries, item.2.sourceId = "erp" := by
    decide +kernel
  have few := sourceCount_le_of_source won fun winner proposed =>
    sources _ (Dict.get?_eq_some.mp proposed)
  have bound : twoConcepts.maxSources = 1 := rfl
  omega

/-- A request of one concept that refuses stale data. -/
def strictly : RouteRequest :=
  { RouteRequest.small with freshnessSlo := { RouteRequest.small.freshnessSlo with onBreach := .refuse } }

/-- The breach condition holds of a request whose mapping was observed. -/
theorem breach_refuses_orders :
    letI := Arithmetic.doubles
    ∃ decision, ofOrders.route strictly noon = .ok decision ∧
      ((ofOrders.Breaches strictly noon → decision.status ≠ .selected) ↔
        (ofOrders.Breaches strictly noon → ofOrders.Blocked strictly noon)) := by
  let := Arithmetic.doubles
  obtain ⟨decision, ran⟩ := @exists_route ofOrders strictly noon _ rfl
  exact ⟨decision, ran, breach_refuses_iff _ _ ran rfl⟩

/-- Two mappings of one concept, of which one has an asset that was never observed. -/
def ofUnobserved : SemanticSourceRouter where
  mappings := withParts "concept" (1 / 2) (by decide) (by norm_num)
  freshness := Table.empty.insert .small rfl

/-- The request is routed although a mapping breaches the objective. -/
theorem breach_unrefused :
    letI := Arithmetic.doubles
    ∃ decision, ofUnobserved.route strictly noon = .ok decision ∧
      strictly.freshnessSlo.onBreach = .refuse ∧ ofUnobserved.Breaches strictly noon ∧
        decision.status = .selected := by
  let := Arithmetic.doubles
  obtain ⟨decision, ran, selected⟩ :=
    @exists_decision ofUnobserved strictly noon _ .selected rfl (by decide +kernel)
  refine ⟨decision, ran, rfl, ?_, selected⟩
  have proposed : ofUnobserved.mappings.candidates.get? "parts-mapping" =
      some (toParts "concept" (1 / 2) (by decide) (by norm_num)) := rfl
  refine ⟨"concept", by decide, toParts "concept" (1 / 2) (by decide) (by norm_num), ?_, ?_⟩
  · exact ⟨proposed, (status_approved proposed).mpr (by decide +kernel), rfl, le_rfl⟩
  · rintro ⟨observation, found, -⟩
    have missing : ofUnobserved.freshness.find? ("erp", "parts") = none := by decide +kernel
    rw [show (toParts _ _ _ _).sourceId = "erp" from rfl] at found
    exact nomatch missing.symm.trans found

end DataHarness.SemanticSourceRouter
