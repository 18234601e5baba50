import DataHarness.Library.Grouping
import DataHarness.Library.Loops
import DataHarness.Query.Coverage

/-!
# Cross-source execution with explicit coverage

A plan has query steps and search steps, each on one source; a source may have several. The
coordinator gathers the outcome of every step, and states which sources its result covers: a source
is included when all of its steps succeeded, and excluded when one of them failed. It states nothing
where a step ends the process, as the task of the step raises again what it ended with, nor where
the exceptions of a source have no name to be excluded with.
-/

namespace DataHarness

/-! ## Plans -/

/-- `QueryStep`. -/
structure QueryStep where
  stepId : String
  request : QueryRequest
  /-- A query step identity is required. -/
  required : stepId ≠ ""

/-- `SearchRequest`. -/
structure SearchRequest where
  sourceId : String
  query : String
  topK : Int
  filters : List (String × Scalar)
  purpose : String
  policyAttributes : List (String × Scalar)
  deadlineMs : Int
  /-- Search source, query, purpose, positive `top_k` and deadline are required. -/
  required : sourceId ≠ "" ∧ isBlank query = false ∧ 0 < topK ∧ purpose ≠ "" ∧ 0 < deadlineMs

/-- `SearchStep`. -/
structure SearchStep where
  stepId : String
  request : SearchRequest
  assetIds : List String
  /-- A search step identity and expected assets are required. -/
  required : stepId ≠ "" ∧ assetIds ≠ [] ∧ ∀ asset ∈ assetIds, asset ≠ ""

/-- A step of either kind. -/
inductive ExecutionStep
  | query (step : QueryStep)
  | search (step : SearchStep)

namespace ExecutionStep

/-- `step.step_id`. -/
def stepId : ExecutionStep → String
  | .query step => step.stepId
  | .search step => step.stepId

/-- `step.request.source_id`. -/
def sourceId : ExecutionStep → String
  | .query step => step.request.sourceId
  | .search step => step.request.sourceId

/-- The assets a result of the step covers. -/
def assetIds : ExecutionStep → List String
  | .query step => step.request.assetIds
  | .search step => step.assetIds

/-- A step has a source and assets. -/
theorem required (step : ExecutionStep) : step.sourceId ≠ "" ∧ step.assetIds ≠ [] := by
  cases step with
  | query step => exact ⟨step.request.scope.1, step.request.scope.2.1⟩
  | search step => exact ⟨step.request.required.1, step.required.2.1⟩

end ExecutionStep

/-- The steps of a plan, query steps first. -/
def executionSteps (querySteps : List QueryStep) (searchSteps : List SearchStep) :
    List ExecutionStep :=
  querySteps.map .query ++ searchSteps.map .search

/-- `SourceExecutionPlan`. -/
structure SourceExecutionPlan where
  requestId : String
  generatedAt : DateTime
  querySteps : List QueryStep
  searchSteps : List SearchStep
  /-- An execution plan requires identity, time and at least one step. -/
  required : requestId ≠ "" ∧ generatedAt.aware = true ∧ executionSteps querySteps searchSteps ≠ []
  /-- Step identities are unique. -/
  distinct : ((executionSteps querySteps searchSteps).map ExecutionStep.stepId).Nodup

/-- The steps of a plan. -/
def SourceExecutionPlan.steps (plan : SourceExecutionPlan) : List ExecutionStep :=
  executionSteps plan.querySteps plan.searchSteps

/-- `expected_sources`. -/
def SourceExecutionPlan.expectedSources (plan : SourceExecutionPlan) : List String :=
  (plan.steps.map ExecutionStep.sourceId).dedup

/-! ## Outcomes -/

/-- `SearchHit`, its scores left out. -/
structure SearchHit where
  sourceId : String
  assetId : String
  recordId : String
  sourceVersion : SourceVersion
  lineage : List LineageRef
  aclDecisionId : Option String
  /-- Search hit source, asset and record identity and lineage are required. -/
  required : sourceId ≠ "" ∧ assetId ≠ "" ∧ recordId ≠ "" ∧ lineage ≠ []

/-- `StepResult`. -/
structure StepResult where
  stepId : String
  sourceId : String
  assetIds : List String
  batches : List DataBatch
  hits : List SearchHit

/-- `StepResult.lineage`. -/
def StepResult.lineage (result : StepResult) : List LineageRef :=
  result.batches.flatMap DataBatch.lineage ++ result.hits.flatMap SearchHit.lineage

/-- What becomes of an exception in a task. -/
inductive ExceptionKind
  /-- `asyncio.CancelledError` cancels the task. -/
  | cancelled
  /-- `SystemExit` and `KeyboardInterrupt` are kept by the task and raised again. -/
  | exit
  /-- Any other exception is kept by the task. -/
  | kept
deriving DecidableEq

/-- An exception that a step raised. -/
structure RaisedException where
  /-- `type(exception).__name__`. -/
  typeName : String
  kind : ExceptionKind

/-- What the gateway answers the steps of a plan. -/
structure GatewayAnswers where
  /-- The batches of `gateway.execute(step.request, identity)`. -/
  execute : QueryStep → Except RaisedException (List DataBatch)
  /-- `await gateway.search(step.request, identity)`. -/
  search : SearchStep → Except RaisedException (List SearchHit)

/-- `_query` and `_search`: the outcome of a step. -/
def GatewayAnswers.outcome (answers : GatewayAnswers) :
    ExecutionStep → Except RaisedException StepResult
  | .query step => (answers.execute step).map fun batches =>
    ⟨step.stepId, step.request.sourceId, step.request.assetIds, batches, []⟩
  | .search step => (answers.search step).map fun hits =>
    ⟨step.stepId, step.request.sourceId, step.assetIds, [], hits⟩

/-- The step succeeds. -/
def GatewayAnswers.Succeeds (answers : GatewayAnswers) (step : ExecutionStep) : Prop :=
  ∃ result, answers.outcome step = .ok result

/-- A result is one of its step. -/
theorem outcome_result {answers : GatewayAnswers} {step : ExecutionStep} {result : StepResult}
    (returned : answers.outcome step = .ok result) :
    result.sourceId = step.sourceId ∧ result.assetIds = step.assetIds := by
  cases step with
  | query step =>
    cases answered : answers.execute step with
    | error raised => simp [GatewayAnswers.outcome, answered, Except.map] at returned
    | ok batches =>
      simp only [GatewayAnswers.outcome, answered, Except.map, Except.ok.injEq] at returned
      rw [← returned]
      exact ⟨rfl, rfl⟩
  | search step =>
    cases answered : answers.search step with
    | error raised => simp [GatewayAnswers.outcome, answered, Except.map] at returned
    | ok hits =>
      simp only [GatewayAnswers.outcome, answered, Except.map, Except.ok.injEq] at returned
      rw [← returned]
      exact ⟨rfl, rfl⟩

/-! ## The coordinator -/

/-- `CoordinationResult`. -/
structure CoordinationResult where
  requestId : String
  steps : List StepResult
  coverage : CoverageStatement
  lineage : List LineageRef

/-- `complete`. -/
def CoordinationResult.complete (result : CoordinationResult) : Bool := result.coverage.isComplete

/-- What `execute` raises. -/
inductive CoordinationError
  | valueError (message : String)
  | raised (raised : RaisedException)
  /-- The event loop ends with what a task raised again, while `execute` waits. -/
  | exited

namespace CrossSourceCoordinator

/-- `tuple(x or "" for x in item)` of the key of a lineage reference. -/
def lineageKey (item : LineageRef) : List String :=
  [item.sourceId, item.assetId, item.recordId.getD "", item.fieldPath.getD ""]

/-- `_unique_lineage`: the key of a reference is the whole of it. -/
def uniqueLineage (values : List LineageRef) : List LineageRef :=
  values.eraseDups.insertionSort fun left right => lineageKey left ≤ lineageKey right

/-- The successful results, and the failures by source. -/
abbrev Tally : Type := List StepResult × List (String × List String)

/-- One pass of the loop over the outcomes. -/
def tallyOutcome (tally : Tally) (entry : String × Except RaisedException StepResult) :
    Except CoordinationError Tally :=
  match entry.2 with
  | .ok result => .ok (tally.1 ++ [result], tally.2)
  | .error raised =>
    if raised.kind = .cancelled then .error (.raised raised)
    else .ok (tally.1, Grouping.append tally.2 entry.1 raised.typeName)

/-- The sources that completed, with the results their assets come from. -/
def completedBySource (successful : List StepResult) : List (String × List StepResult) :=
  Grouping.collect StepResult.sourceId successful

/-- The coverage of the sources without failures. -/
def includeSources (tally : Tally) : Except String (List SourceCoverage) :=
  ((sortedItems (completedBySource tally.1)).filter
    fun group => group.1 ∉ tally.2.map Prod.fst).mapM fun group =>
      SourceCoverage.make group.1 (sortedSet (group.2.flatMap StepResult.assetIds)) true none

/-- The exclusions of the sources with failures. -/
def excludeSources (tally : Tally) : Except String (List CoverageExclusion) :=
  (sortedItems tally.2).mapM fun group =>
    CoverageExclusion.make group.1 "source_execution_failed" (",".intercalate (sortedSet group.2))

/-- A step ends the process. -/
def exits (outcome : Except RaisedException StepResult) : Bool :=
  match outcome with
  | .ok _ => false
  | .error raised => raised.kind = .exit

variable [Stdlib]

/-- The statement about the outcomes of a plan. -/
def coverage (plan : SourceExecutionPlan) (tally : Tally) : Except String CoverageStatement := do
  let included ← includeSources tally
  let excluded ← excludeSources tally
  CoverageStatement.make plan.requestId plan.generatedAt included excluded plan.expectedSources

/-- `execute`. -/
def execute (plan : SourceExecutionPlan) (identity : RequestIdentity) (answers : GatewayAnswers) :
    Except CoordinationError CoordinationResult :=
  if plan.requestId ≠ identity.requestId then
    .error (.valueError "execution plan and request identity must match")
  else if plan.steps.any (fun step => exits (answers.outcome step)) then .error .exited
  else do
    let outcomes := plan.steps.map fun step => (step.sourceId, answers.outcome step)
    let tally ← outcomes.foldlM tallyOutcome ([], [])
    let statement ← (coverage plan tally).mapError .valueError
    let lineage := uniqueLineage (tally.1.flatMap StepResult.lineage)
    return ⟨plan.requestId, tally.1, statement, lineage⟩

end CrossSourceCoordinator

/-! ## What the loop over the outcomes keeps -/

open CrossSourceCoordinator

/-- The outcomes of some steps, each with its source. -/
def GatewayAnswers.outcomes (answers : GatewayAnswers) (steps : List ExecutionStep) :
    List (String × Except RaisedException StepResult) :=
  steps.map fun step => (step.sourceId, answers.outcome step)

/-- No outcome is a cancellation. -/
def Uncancelled (outcomes : List (String × Except RaisedException StepResult)) : Prop :=
  ∀ source raised, (source, .error raised) ∈ outcomes → raised.kind ≠ .cancelled

/-- No outcome is an exit. -/
def Unexited (outcomes : List (String × Except RaisedException StepResult)) : Prop :=
  ∀ source raised, (source, .error raised) ∈ outcomes → raised.kind ≠ .exit

/-- The tally of some outcomes: the results in order, and the names of the exceptions by source. -/
structure Tallied (outcomes : List (String × Except RaisedException StepResult))
    (tally : Tally) : Prop where
  results : ∀ result, result ∈ tally.1 ↔ ∃ source, (source, .ok result) ∈ outcomes
  keys : (tally.2.map Prod.fst).Nodup
  failed : ∀ source, source ∈ tally.2.map Prod.fst ↔ ∃ raised, (source, .error raised) ∈ outcomes
  named : Grouping.Every (fun source name => ∃ raised : RaisedException,
    (source, .error raised) ∈ outcomes ∧ raised.typeName = name) tally.2
  listed : ∀ source raised, (source, .error raised) ∈ outcomes →
    ∃ group ∈ tally.2, group.1 = source ∧ raised.typeName ∈ group.2

/-- One more outcome is tallied. -/
theorem Tallied.step {outcomes : List (String × Except RaisedException StepResult)}
    {tally next : Tally} {entry : String × Except RaisedException StepResult}
    (tallied : Tallied outcomes tally) (passed : tallyOutcome tally entry = .ok next) :
    Tallied (outcomes ++ [entry]) next := by
  have later : Grouping.Every (fun source name => ∃ raised : RaisedException,
      (source, .error raised) ∈ outcomes ++ [entry] ∧ raised.typeName = name) tally.2 := by
    intro group among
    obtain ⟨some, names⟩ := tallied.named group among
    refine ⟨some, fun name member => ?_⟩
    obtain ⟨raised, inside, same⟩ := names name member
    exact ⟨raised, List.mem_append_left _ inside, same⟩
  obtain ⟨source, outcome⟩ := entry
  unfold tallyOutcome at passed
  cases outcome with
  | ok result =>
    cases passed
    refine ⟨fun other => ?_, tallied.keys, fun other => ?_, later, fun other raised member => ?_⟩
    · simp only [List.mem_append, List.mem_singleton, tallied.results, Prod.mk.injEq,
        Except.ok.injEq, exists_or, exists_and_right, exists_eq, true_and]
    · simp [tallied.failed]
    · exact tallied.listed other raised (by simpa using member)
  | error raised =>
    dsimp only at passed
    split at passed
    · cases passed
    · cases passed
      refine ⟨fun other => ?_, Grouping.nodup_append tallied.keys _ _, fun other => ?_, ?_,
        fun other own member => ?_⟩
      · simp [tallied.results]
      · rw [Grouping.mem_keys_append, tallied.failed]
        simp only [List.mem_append, List.mem_singleton, Prod.mk.injEq, Except.error.injEq, exists_or,
          exists_and_left, exists_eq, and_true]
        exact or_comm
      · exact later.append ⟨raised, by simp, rfl⟩
      · rcases List.mem_append.mp member with before | last
        · obtain ⟨group, among, named, held⟩ := tallied.listed other own before
          obtain ⟨grown, inside, same, more⟩ :=
            Grouping.exists_grown among source raised.typeName
          exact ⟨grown, inside, same.trans named, more held⟩
        · obtain ⟨rfl, same⟩ := Prod.mk.inj (List.mem_singleton.mp last)
          rw [Except.error.inj same]
          exact Grouping.exists_appended _ _ _

/-- The loop over outcomes that are no cancellations tallies them. -/
theorem exists_tally {outcomes : List (String × Except RaisedException StepResult)}
    (uncancelled : Uncancelled outcomes) :
    ∃ tally, outcomes.foldlM tallyOutcome ([], []) = .ok tally ∧ Tallied outcomes tally := by
  have fine : ∀ tally : Tally, ∀ entry ∈ outcomes, ∃ next, tallyOutcome tally entry = .ok next := by
    rintro tally ⟨source, outcome⟩ member
    cases outcome with
    | ok result => exact ⟨_, rfl⟩
    | error raised =>
      unfold tallyOutcome
      dsimp only
      rw [if_neg (uncancelled source raised member)]
      exact ⟨_, rfl⟩
  obtain ⟨tally, ran⟩ := Loops.exists_foldlM ([], []) fine
  have start : Tallied [] ([], []) :=
    ⟨by simp, List.nodup_nil, by simp, (fun _ none => nomatch none), by simp⟩
  exact ⟨tally, ran, Loops.foldlM_invariant start (fun tallied passed => tallied.step passed) ran⟩

/-! ## The statement about a tally -/

/-- A coverage that is made holds what it is made of. -/
theorem SourceCoverage.of_make {sourceId : String} {assetIds : List String} {complete : Bool}
    {watermark : Option String} {item : SourceCoverage}
    (made : make sourceId assetIds complete watermark = .ok item) :
    item.sourceId = sourceId ∧ item.assetIds = assetIds ∧ item.complete = complete := by
  unfold make at made
  split at made
  · split at made
    · rw [← Except.ok.inj made]
      exact ⟨rfl, rfl, rfl⟩
    · cases made
  · cases made

/-- An exclusion that is made is of its source. -/
theorem CoverageExclusion.of_make {sourceId reasonCode detail : String} {item : CoverageExclusion}
    (made : make sourceId reasonCode detail = .ok item) : item.sourceId = sourceId := by
  unfold make at made
  split at made
  · rw [← Except.ok.inj made]
  · cases made

/-- What is made one by one has the keys of what it is made of. -/
theorem keys_of_mapM {α β : Type} {body : String × α → Except String β} {key : β → String}
    (keeps : ∀ {item made}, body item = .ok made → key made = item.1) {items : List (String × α)}
    {made : List β} (ran : items.mapM body = .ok made) : made.map key = items.map Prod.fst := by
  have each := Loops.forall₂_of_mapM ran
  clear ran
  induction each with
  | nil => rfl
  | cons first _ ih => rw [List.map_cons, List.map_cons, keeps first, ih]

/-- Texts are joined to an empty one only if there are none, or one that is empty. -/
theorem intercalate_eq_empty {separator : String} (filled : separator ≠ "") {texts : List String} :
    separator.intercalate texts = "" ↔ texts = [] ∨ texts = [""] := by
  match texts with
  | [] => simp
  | [text] => simp
  | text :: other :: others =>
    rw [String.intercalate_cons_cons]
    simp [filled]

/-- The names of a set are joined to an empty text exactly when all of them are empty. -/
theorem joined_eq_empty {names : List String} :
    ",".intercalate (sortedSet names) = "" ↔ ∀ name ∈ names, name = "" := by
  rw [intercalate_eq_empty (by decide)]
  have distinct := nodup_sortedSet names
  have among : ∀ name, name ∈ names ↔ name ∈ sortedSet names := fun _ => mem_sortedSet.symm
  simp only [among]
  generalize sortedSet names = texts at distinct
  constructor
  · rintro (rfl | rfl) <;> simp
  · intro empty
    match texts with
    | [] => exact .inl rfl
    | [text] => exact .inr (by rw [empty text List.mem_cons_self])
    | text :: other :: others =>
      have same := (empty text (by simp)).trans (empty other (by simp)).symm
      simp [same] at distinct

section Statement

variable {plan : SourceExecutionPlan} {answers : GatewayAnswers} {tally : Tally}

/-- A source that has exceptions has one of a type with a name. -/
def Named (outcomes : List (String × Except RaisedException StepResult)) : Prop :=
  ∀ source raised, (source, .error raised) ∈ outcomes →
    ∃ other, (source, .error other) ∈ outcomes ∧ other.typeName ≠ ""

/-- An outcome of a plan is that of one of its steps. -/
theorem mem_outcomes {steps : List ExecutionStep} {source : String}
    {outcome : Except RaisedException StepResult} :
    (source, outcome) ∈ answers.outcomes steps ↔
      ∃ step ∈ steps, step.sourceId = source ∧ answers.outcome step = outcome := by
  simp [GatewayAnswers.outcomes]

/-- A result of a tally is that of a step. -/
theorem mem_results (tallied : Tallied (answers.outcomes plan.steps) tally) {result : StepResult} :
    result ∈ tally.1 ↔ ∃ step ∈ plan.steps, answers.outcome step = .ok result := by
  rw [tallied.results]
  constructor
  · rintro ⟨source, member⟩
    obtain ⟨step, inside, -, returned⟩ := mem_outcomes.mp member
    exact ⟨step, inside, returned⟩
  · rintro ⟨step, inside, returned⟩
    exact ⟨step.sourceId, mem_outcomes.mpr ⟨step, inside, rfl, returned⟩⟩

/-- A source has failed when one of its steps has. -/
theorem mem_failures (tallied : Tallied (answers.outcomes plan.steps) tally) {source : String} :
    source ∈ tally.2.map Prod.fst ↔
      ∃ step ∈ plan.steps, step.sourceId = source ∧ ¬ answers.Succeeds step := by
  rw [tallied.failed]
  constructor
  · rintro ⟨raised, member⟩
    obtain ⟨step, inside, same, failed⟩ := mem_outcomes.mp member
    refine ⟨step, inside, same, ?_⟩
    rintro ⟨result, returned⟩
    rw [failed] at returned
    cases returned
  · rintro ⟨step, inside, same, failed⟩
    cases outcome : answers.outcome step with
    | ok result => exact absurd ⟨result, outcome⟩ failed
    | error raised => exact ⟨raised, mem_outcomes.mpr ⟨step, inside, same, outcome⟩⟩

/-- The assets of a group of results are those of the results of its source. -/
theorem mem_assets_of_group {results : List StepResult} {group : String × List StepResult}
    (among : group ∈ completedBySource results) (asset : String) :
    asset ∈ sortedSet (group.2.flatMap StepResult.assetIds) ↔
      ∃ result ∈ results, result.sourceId = group.1 ∧ asset ∈ result.assetIds := by
  rw [mem_sortedSet, List.mem_flatMap]
  constructor
  · intro ⟨result, held, covered⟩
    obtain ⟨inside, named⟩ := (Grouping.mem_of_group _ _ among).mp held
    exact ⟨result, inside, named, covered⟩
  · intro ⟨result, inside, named, covered⟩
    exact ⟨result, (Grouping.mem_of_group _ _ among).mpr ⟨inside, named⟩, covered⟩

/-- A group of results makes a statement about its source. -/
theorem exists_sourceCoverage (tallied : Tallied (answers.outcomes plan.steps) tally)
    {group : String × List StepResult} (among : group ∈ completedBySource tally.1) :
    ∃ item, SourceCoverage.make group.1 (sortedSet (group.2.flatMap StepResult.assetIds)) true
      none = .ok item := by
  obtain ⟨result, held⟩ := List.exists_mem_of_ne_nil _ (Grouping.sound_collect _ _ group among).1
  obtain ⟨inside, named⟩ := (Grouping.mem_of_group _ _ among).mp held
  obtain ⟨step, _, returned⟩ := (mem_results tallied).mp inside
  obtain ⟨source, covers⟩ := outcome_result returned
  obtain ⟨asset, covered⟩ := List.exists_mem_of_ne_nil _ step.required.2
  rw [← covers] at covered
  have listed := (mem_assets_of_group among asset).mpr ⟨result, inside, named, covered⟩
  have required : group.1 ≠ "" ∧ sortedSet (group.2.flatMap StepResult.assetIds) ≠ [] := by
    refine ⟨?_, List.ne_nil_of_mem listed⟩
    rw [← named, source]
    exact step.required.1
  unfold SourceCoverage.make
  rw [dif_pos required, dif_pos (nodup_sortedSet _)]
  exact ⟨_, rfl⟩

/-- The sources without failures are included, each with the assets of its results. -/
theorem exists_included (tallied : Tallied (answers.outcomes plan.steps) tally) :
    ∃ included, includeSources tally = .ok included ∧
      (included.map SourceCoverage.sourceId).Nodup ∧
      (∀ source, source ∈ included.map SourceCoverage.sourceId ↔
        (∃ result ∈ tally.1, result.sourceId = source) ∧ source ∉ tally.2.map Prod.fst) ∧
      ∀ item ∈ included, item.complete = true ∧ ∀ asset, asset ∈ item.assetIds ↔
        ∃ result ∈ tally.1, result.sourceId = item.sourceId ∧ asset ∈ result.assetIds := by
  have group_of : ∀ {group}, group ∈ (sortedItems (completedBySource tally.1)).filter
      (fun group => group.1 ∉ tally.2.map Prod.fst) → group ∈ completedBySource tally.1 := by
    intro group member
    exact mem_sortedItems.mp (List.mem_of_mem_filter member)
  obtain ⟨included, ran⟩ := Loops.exists_mapM fun group member =>
    exists_sourceCoverage tallied (group_of member)
  have keys : included.map SourceCoverage.sourceId = ((sortedItems (completedBySource
      tally.1)).filter fun group => group.1 ∉ tally.2.map Prod.fst).map Prod.fst :=
    keys_of_mapM (fun made => (SourceCoverage.of_make made).1) ran
  refine ⟨included, ran, ?_, fun source => ?_, fun item member => ?_⟩
  · rw [keys]
    have distinct := (keys_sortedItems (completedBySource tally.1)).nodup_iff.mpr
      (Grouping.nodup_collect _ _)
    exact distinct.sublist (List.filter_sublist.map _)
  · rw [keys, ← Grouping.mem_keys_collect StepResult.sourceId tally.1]
    simp only [List.mem_map, List.mem_filter, decide_eq_true_eq, mem_sortedItems]
    constructor
    · rintro ⟨group, ⟨among, unfailed⟩, rfl⟩
      exact ⟨⟨group, among, rfl⟩, unfailed⟩
    · rintro ⟨⟨group, among, rfl⟩, unfailed⟩
      exact ⟨group, ⟨among, unfailed⟩, rfl⟩
  · obtain ⟨group, among, made⟩ := Loops.exists_of_mapM ran member
    obtain ⟨source, covered, complete⟩ := SourceCoverage.of_make made
    rw [source, covered]
    exact ⟨complete, mem_assets_of_group (group_of among)⟩

/-- The exceptions of a failed source have names to exclude it with. -/
theorem detail_iff (tallied : Tallied (answers.outcomes plan.steps) tally)
    {group : String × List String} (among : group ∈ tally.2) :
    ",".intercalate (sortedSet group.2) ≠ "" ↔ ∃ raised,
      (group.1, .error raised) ∈ answers.outcomes plan.steps ∧ raised.typeName ≠ "" := by
  rw [ne_eq, joined_eq_empty]
  push Not
  constructor
  · rintro ⟨name, held, filled⟩
    obtain ⟨raised, failed, rfl⟩ := (tallied.named group among).2 name held
    exact ⟨raised, failed, filled⟩
  · rintro ⟨raised, failed, filled⟩
    obtain ⟨other, inside, same, held⟩ := tallied.listed _ raised failed
    have one := List.inj_on_of_nodup_map tallied.keys inside among same
    rw [one] at held
    exact ⟨raised.typeName, held, filled⟩

/-- The sources with failures are excluded. -/
theorem exists_excluded (tallied : Tallied (answers.outcomes plan.steps) tally)
    (named : Named (answers.outcomes plan.steps)) :
    ∃ excluded, excludeSources tally = .ok excluded ∧
      (excluded.map CoverageExclusion.sourceId).Perm (tally.2.map Prod.fst) := by
  have fine : ∀ group ∈ sortedItems tally.2, ∃ item, CoverageExclusion.make group.1
      "source_execution_failed" (",".intercalate (sortedSet group.2)) = .ok item := by
    intro group member
    have among : group ∈ tally.2 := mem_sortedItems.mp member
    obtain ⟨step, -, same, -⟩ := (mem_failures tallied).mp (List.mem_map_of_mem among)
    obtain ⟨raised, failed⟩ := (tallied.failed group.1).mp (List.mem_map_of_mem among)
    have detail := (detail_iff tallied among).mpr (named group.1 raised failed)
    have source : group.1 ≠ "" := by
      rw [← same]
      exact step.required.1
    unfold CoverageExclusion.make
    rw [dif_pos ⟨source, by decide, detail⟩]
    exact ⟨_, rfl⟩
  obtain ⟨excluded, ran⟩ := Loops.exists_mapM fine
  refine ⟨excluded, ran, ?_⟩
  have keys : excluded.map CoverageExclusion.sourceId = (sortedItems tally.2).map Prod.fst :=
    keys_of_mapM CoverageExclusion.of_make ran
  rw [keys]
  exact keys_sortedItems _

/-- Sources that are excluded have exceptions with names. -/
theorem named_of_excluded (tallied : Tallied (answers.outcomes plan.steps) tally)
    {excluded : List CoverageExclusion} (excludes : excludeSources tally = .ok excluded) :
    Named (answers.outcomes plan.steps) := by
  intro source raised failed
  obtain ⟨group, among, rfl, -⟩ := tallied.listed source raised failed
  refine (detail_iff tallied among).mp ?_
  obtain ⟨item, -, made⟩ :=
    Loops.exists_result_of_mapM excludes (mem_sortedItems.mpr among)
  unfold CoverageExclusion.make at made
  split at made
  · rename_i required
    exact required.2.2
  · cases made

/-- All steps of a source succeed. -/
def SourceExecutionPlan.Covered (plan : SourceExecutionPlan) (answers : GatewayAnswers)
    (source : String) : Prop :=
  ∀ step ∈ plan.steps, step.sourceId = source → answers.Succeeds step

/-- A statement mentions every expected source of a plan once: included, with the assets of its
steps, when all of its steps succeed, and excluded when one of them fails. -/
structure CoverageStatement.Partitions (statement : CoverageStatement) (plan : SourceExecutionPlan)
    (answers : GatewayAnswers) : Prop where
  once : ∀ source ∈ plan.expectedSources, (statement.included.map SourceCoverage.sourceId ++
    statement.excluded.map CoverageExclusion.sourceId).count source = 1
  included : ∀ source ∈ plan.expectedSources,
    (source ∈ statement.included.map SourceCoverage.sourceId ↔ plan.Covered answers source)
  excluded : ∀ source ∈ plan.expectedSources,
    (source ∈ statement.excluded.map CoverageExclusion.sourceId ↔ ¬ plan.Covered answers source)
  assets : ∀ item ∈ statement.included, item.complete = true ∧
    ∀ asset, asset ∈ item.assetIds ↔
      ∃ step ∈ plan.steps, step.sourceId = item.sourceId ∧ asset ∈ step.assetIds

/-- The expected sources are those of the steps. -/
theorem mem_expectedSources {source : String} :
    source ∈ plan.expectedSources ↔ ∃ step ∈ plan.steps, step.sourceId = source := by
  simp [SourceExecutionPlan.expectedSources]

/-- A source without failures is covered. -/
theorem covered_iff (tallied : Tallied (answers.outcomes plan.steps) tally) {source : String} :
    plan.Covered answers source ↔ source ∉ tally.2.map Prod.fst := by
  rw [mem_failures tallied]
  constructor
  · rintro covered ⟨step, inside, same, failed⟩
    exact failed (covered step inside same)
  · intro unfailed step inside same
    by_contra failed
    exact unfailed ⟨step, inside, same, failed⟩

/-- The assets of the results of a covered source are those of its steps. -/
theorem assets_iff (tallied : Tallied (answers.outcomes plan.steps) tally) {source : String}
    (covered : plan.Covered answers source) {asset : String} :
    (∃ result ∈ tally.1, result.sourceId = source ∧ asset ∈ result.assetIds) ↔
      ∃ step ∈ plan.steps, step.sourceId = source ∧ asset ∈ step.assetIds := by
  constructor
  · rintro ⟨result, inside, same, member⟩
    obtain ⟨step, among, returned⟩ := (mem_results tallied).mp inside
    obtain ⟨named, covers⟩ := outcome_result returned
    rw [named] at same
    rw [covers] at member
    exact ⟨step, among, same, member⟩
  · rintro ⟨step, among, same, member⟩
    obtain ⟨result, returned⟩ := covered step among same
    obtain ⟨named, covers⟩ := outcome_result returned
    exact ⟨result, (mem_results tallied).mpr ⟨step, among, returned⟩, named.trans same,
      covers ▸ member⟩

variable [Stdlib]

/-- The statement about a tally is made, and partitions the expected sources. -/
theorem exists_coverage (tallied : Tallied (answers.outcomes plan.steps) tally)
    (named : Named (answers.outcomes plan.steps)) :
    ∃ statement, coverage plan tally = .ok statement ∧
      statement.expectedSources = plan.expectedSources ∧ statement.Partitions plan answers := by
  obtain ⟨included, includes, distinct, sources, assets⟩ := exists_included tallied
  obtain ⟨excluded, excludes, failures⟩ := exists_excluded tallied named
  have fails : ∀ source, source ∈ excluded.map CoverageExclusion.sourceId ↔
      ¬ plan.Covered answers source := by
    intro source
    rw [failures.mem_iff, covered_iff tallied, not_not]
  have covers : ∀ source, source ∈ included.map SourceCoverage.sourceId ↔
      source ∈ plan.expectedSources ∧ plan.Covered answers source := by
    intro source
    rw [sources, ← covered_iff tallied, mem_expectedSources]
    constructor
    · rintro ⟨⟨result, inside, same⟩, covered⟩
      obtain ⟨step, among, returned⟩ := (mem_results tallied).mp inside
      exact ⟨⟨step, among, (outcome_result returned).1.symm.trans same⟩, covered⟩
    · rintro ⟨⟨step, among, same⟩, covered⟩
      obtain ⟨result, returned⟩ := covered step among same
      exact ⟨⟨result, (mem_results tallied).mpr ⟨step, among, returned⟩,
        (outcome_result returned).1.trans same⟩, covered⟩
  have disjoint : ∀ source ∈ included.map SourceCoverage.sourceId,
      source ∉ excluded.map CoverageExclusion.sourceId := by
    intro source member failed
    exact (fails source).mp failed ((covers source).mp member).2
  have within : ∀ source ∈ included.map SourceCoverage.sourceId ++
      excluded.map CoverageExclusion.sourceId, source ∈ plan.expectedSources := by
    intro source member
    rcases List.mem_append.mp member with first | second
    · exact ((covers source).mp first).1
    · obtain ⟨step, among, same, -⟩ := (mem_failures tallied).mp (failures.mem_iff.mp second)
      exact mem_expectedSources.mpr ⟨step, among, same⟩
  have mentioned : ∀ source ∈ plan.expectedSources, source ∈ included.map SourceCoverage.sourceId ∨
      source ∈ excluded.map CoverageExclusion.sourceId := by
    intro source member
    by_cases covered : plan.Covered answers source
    · exact .inl ((covers source).mpr ⟨member, covered⟩)
    · exact .inr ((fails source).mpr covered)
  have explicit : included ≠ [] ∨ excluded ≠ [] := by
    obtain ⟨step, among⟩ := List.exists_mem_of_ne_nil _ plan.required.2.2
    rcases mentioned step.sourceId (mem_expectedSources.mpr ⟨step, among, rfl⟩) with first | second
    · apply Or.inl
      rintro rfl
      cases first
    · apply Or.inr
      rintro rfl
      cases second
  have expected : ∀ source ∈ plan.expectedSources, source ≠ "" := by
    intro source member
    obtain ⟨step, -, rfl⟩ := mem_expectedSources.mp member
    exact step.required.1
  have whole : (included.map SourceCoverage.sourceId ++
      excluded.map CoverageExclusion.sourceId).Nodup :=
    List.nodup_append.mpr ⟨distinct, failures.nodup_iff.mpr tallied.keys, fun source first other
      second same => disjoint source first (same ▸ second)⟩
  have made : coverage plan tally = .ok ⟨plan.requestId, plan.generatedAt, included, excluded,
      plan.expectedSources, plan.required.1, plan.required.2.1, explicit,
      ⟨distinct, failures.nodup_iff.mpr tallied.keys⟩, disjoint, expected, .inr within⟩ := by
    unfold coverage
    rw [includes, excludes]
    change CoverageStatement.make _ _ _ _ _ = _
    unfold CoverageStatement.make
    rw [dif_pos plan.required.1, dif_pos plan.required.2.1, dif_pos explicit,
      dif_pos ⟨distinct, failures.nodup_iff.mpr tallied.keys⟩, dif_pos disjoint, dif_pos expected,
      dif_pos (.inr within)]
  refine ⟨_, made, rfl, fun source member => ?_, fun source member => ?_, fun source _ =>
    fails source, fun item member => ?_⟩
  · exact List.count_eq_one_of_mem whole (List.mem_append.mpr (mentioned source member))
  · exact (covers source).trans (and_iff_right member)
  · obtain ⟨complete, held⟩ := assets item member
    have covered := ((covers item.sourceId).mp (List.mem_map_of_mem member)).2
    exact ⟨complete, fun asset => (held asset).trans (assets_iff tallied covered)⟩

end Statement

/-! ## The coordinator states what its plan covers -/

section Execution

variable [Stdlib] {plan : SourceExecutionPlan} {identity : RequestIdentity}
  {answers : GatewayAnswers}

omit [Stdlib] in
/-- No step exits exactly when no outcome is an exit. -/
theorem any_exits_iff :
    plan.steps.any (fun step => exits (answers.outcome step)) = true ↔
      ¬ Unexited (answers.outcomes plan.steps) := by
  unfold Unexited
  push Not
  rw [List.any_eq_true]
  constructor
  · rintro ⟨step, among, exit⟩
    cases outcome : answers.outcome step with
    | ok result => simp [outcome, exits] at exit
    | error raised =>
      rw [outcome, exits, decide_eq_true_eq] at exit
      exact ⟨step.sourceId, raised, mem_outcomes.mpr ⟨step, among, rfl, outcome⟩, exit⟩
  · rintro ⟨source, raised, member, exit⟩
    obtain ⟨step, among, -, outcome⟩ := mem_outcomes.mp member
    exact ⟨step, among, by rw [outcome, exits, exit]; rfl⟩

/-- An execution that returns has tallied its outcomes and excluded what failed, for a plan of the
identity's own request without an exit. -/
theorem of_execute {result : CoordinationResult}
    (ran : CrossSourceCoordinator.execute plan identity answers = .ok result)
    (uncancelled : Uncancelled (answers.outcomes plan.steps)) :
    plan.requestId = identity.requestId ∧ Unexited (answers.outcomes plan.steps) ∧
      Named (answers.outcomes plan.steps) := by
  unfold CrossSourceCoordinator.execute at ran
  split at ran
  · cases ran
  rename_i own
  split at ran
  · cases ran
  rename_i unexited
  obtain ⟨tally, folded, ran⟩ := of_bind_ok ran
  obtain ⟨statement, stated, ran⟩ := of_bind_ok ran
  obtain ⟨other, again, tallied⟩ := exists_tally uncancelled
  rw [show (answers.outcomes plan.steps).foldlM tallyOutcome ([], []) = .ok tally from folded]
    at again
  obtain rfl := Except.ok.inj again
  refine ⟨not_not.mp own, not_not.mp (mt any_exits_iff.mpr unexited), ?_⟩
  cases excludes : excludeSources tally with
  | ok excluded => exact named_of_excluded tallied excludes
  | error message =>
    obtain ⟨included, includes, -⟩ := exists_included tallied
    unfold coverage at stated
    rw [includes, excludes] at stated
    cases stated

/-- The coordinator states what a plan covers: it returns a result whose coverage partitions the
expected sources, complete exactly when every step succeeded. -/
def CrossSourceCoordinator.States (plan : SourceExecutionPlan) (identity : RequestIdentity)
    (answers : GatewayAnswers) : Prop :=
  ∃ result, CrossSourceCoordinator.execute plan identity answers = .ok result ∧
    result.coverage.Partitions plan answers ∧
      (result.complete = true ↔ ∀ step ∈ plan.steps, answers.Succeeds step)

/-- For a plan under its own identity it does, when no step exits and every source that fails has an
exception of a type with a name. -/
theorem execute_states (matching : plan.requestId = identity.requestId)
    (uncancelled : Uncancelled (answers.outcomes plan.steps))
    (unexited : Unexited (answers.outcomes plan.steps))
    (named : Named (answers.outcomes plan.steps)) :
    CrossSourceCoordinator.States plan identity answers := by
  obtain ⟨tally, ran, tallied⟩ := exists_tally uncancelled
  obtain ⟨statement, made, expected, partitions⟩ := exists_coverage tallied named
  have executed : CrossSourceCoordinator.execute plan identity answers = .ok ⟨plan.requestId,
      tally.1, statement, uniqueLineage (tally.1.flatMap StepResult.lineage)⟩ := by
    unfold CrossSourceCoordinator.execute
    rw [if_neg (by simp [matching]), if_neg (mt any_exits_iff.mp (not_not.mpr unexited))]
    change (List.foldlM tallyOutcome ([], []) (answers.outcomes plan.steps) >>= _) = _
    rw [ran]
    change ((coverage plan tally).mapError _ >>= _) = _
    rw [made]
    rfl
  refine ⟨_, executed, partitions, ?_⟩
  have some : statement.expectedSources ≠ [] := by
    rw [expected]
    obtain ⟨step, among⟩ := List.exists_mem_of_ne_nil _ plan.required.2.2
    exact List.ne_nil_of_mem (mem_expectedSources.mpr ⟨step, among, rfl⟩)
  unfold CoordinationResult.complete
  rw [statement.isComplete_iff some, expected]
  constructor
  · rintro ⟨covered, -⟩ step among
    have member := mem_expectedSources.mpr ⟨step, among, rfl⟩
    exact (partitions.included _ member).mp (covered _ member) step among rfl
  · intro succeed
    have covered : ∀ source, plan.Covered answers source := fun _ step among _ => succeed step among
    refine ⟨fun source member => (partitions.included source member).mpr (covered source), ?_,
      fun item member => (partitions.assets item member).1⟩
    by_contra excluded
    obtain ⟨item, member⟩ := List.exists_mem_of_ne_nil _ excluded
    have mention : item.sourceId ∈ statement.excluded.map CoverageExclusion.sourceId :=
      List.mem_map_of_mem member
    have inside : item.sourceId ∈ plan.expectedSources := by
      rw [← expected]
      rcases statement.within with none | within
      · exact absurd none some
      · exact within _ (List.mem_append_right _ mention)
    exact (partitions.excluded _ inside).mp mention (covered _)

/-- For every plan, every identity and every outcome of its steps but a cancellation, the
coordinator states what the plan covers exactly when the identity is of the plan's request, no step
raises `SystemExit` or `KeyboardInterrupt`, and every source that fails has an exception of a type
with a name. -/
theorem coverage_partitions_iff (plan : SourceExecutionPlan) (identity : RequestIdentity)
    (answers : GatewayAnswers) (uncancelled : Uncancelled (answers.outcomes plan.steps)) :
    CrossSourceCoordinator.States plan identity answers ↔
      plan.requestId = identity.requestId ∧ Unexited (answers.outcomes plan.steps) ∧
        Named (answers.outcomes plan.steps) := by
  constructor
  · rintro ⟨result, ran, -⟩
    exact of_execute ran uncancelled
  · rintro ⟨matching, unexited, named⟩
    exact execute_states matching uncancelled unexited named

end Execution

/-! ## Small plans -/

/-- A query of one asset of a source. -/
def QueryRequest.small (sourceId : String) (named : sourceId ≠ "") : QueryRequest where
  sourceId := sourceId
  assetIds := ["orders"]
  plan := []
  limit := 10
  deadlineMs := 1000
  purpose := "report"
  policyAttributes := []
  scope := ⟨named, by simp, by simp⟩
  limited := by decide
  timed := second_timed
  purposed := by decide

/-- A query of one source and a search of another. -/
def SourceExecutionPlan.small (requestId : String) (named : requestId ≠ "") :
    SourceExecutionPlan where
  requestId := requestId
  generatedAt := noon
  querySteps := [⟨"query", .small "erp" (by decide), by decide⟩]
  searchSteps := [⟨"search", ⟨"wiki", "orders", 5, [], "retrieval", [], 5000, by decide⟩, ["pages"],
    by decide⟩]
  required := ⟨named, by decide, by simp [executionSteps]⟩
  distinct := by simp [executionSteps, ExecutionStep.stepId]

/-- A gateway whose queries succeed and whose searches raise an exception of a type. -/
def searchesRaise (typeName : String) (kind : ExceptionKind) : GatewayAnswers :=
  ⟨fun _ => .ok [], fun _ => .error ⟨typeName, kind⟩⟩

/-- Such a gateway raises that exception only. -/
theorem searchesRaise_raised {typeName : String} {kind : ExceptionKind}
    {steps : List ExecutionStep} {source : String} {raised : RaisedException}
    (member : (source, .error raised) ∈ (searchesRaise typeName kind).outcomes steps) :
    raised = ⟨typeName, kind⟩ := by
  obtain ⟨step, -, -, failed⟩ := mem_outcomes.mp member
  cases step with
  | query => cases failed
  | search => exact (Except.error.inj failed).symm

/-- A source that answers is covered beside one that times out. -/
theorem coverage_partitions_small : letI := Stdlib.transparent
    let plan := SourceExecutionPlan.small "request" (by decide)
    let answers := searchesRaise "TimeoutError" .kept
    CrossSourceCoordinator.States plan .small answers ∧
      (CrossSourceCoordinator.States plan .small answers ↔
        plan.requestId = RequestIdentity.small.requestId ∧
          Unexited (answers.outcomes plan.steps) ∧ Named (answers.outcomes plan.steps)) := by
  let := Stdlib.transparent
  intro plan answers
  have states := coverage_partitions_iff plan .small answers
    (fun _ _ member => by rw [searchesRaise_raised member]; decide)
  refine ⟨states.mpr ⟨rfl, ?_, ?_⟩, states⟩
  · intro _ _ member
    rw [searchesRaise_raised member]
    decide
  · intro _ _ member
    exact ⟨_, member, by rw [searchesRaise_raised member]; decide⟩

/-- A step that raises `SystemExit` ends the execution, and so does a source whose exceptions have
a type without a name. -/
theorem coverage_escaped : letI := Stdlib.transparent
    let plan := SourceExecutionPlan.small "request" (by decide)
    plan.requestId = RequestIdentity.small.requestId ∧
      Uncancelled ((searchesRaise "SystemExit" .exit).outcomes plan.steps) ∧
      CrossSourceCoordinator.execute plan .small (searchesRaise "SystemExit" .exit) =
        .error .exited ∧
      Uncancelled ((searchesRaise "" .kept).outcomes plan.steps) ∧
      CrossSourceCoordinator.execute plan .small (searchesRaise "" .kept) =
        .error (.valueError "coverage exclusions require source, reason and detail") := by
  let := Stdlib.transparent
  refine ⟨rfl, ?_, rfl, ?_, rfl⟩
  · intro _ _ member
    rw [searchesRaise_raised member]
    decide
  · intro _ _ member
    rw [searchesRaise_raised member]
    decide

end DataHarness
