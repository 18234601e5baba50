import DataHarness.Models

/-!
# Statements about what a result covers

A coverage statement says which sources a result includes and which it excludes. What its
constructors check is a field of the values, so a statement that mentions a source twice, or one
outside the expected universe, cannot be built.
-/

namespace DataHarness

/-- `repr` of a list of strings: what that of the tuple has between its brackets, without the comma
after a single item. -/
def reprList [Stdlib] (items : List String) : String :=
  let inside := ((reprTuple items).toList.drop 1).dropLast
  "[" ++ String.ofList (if items.length = 1 then inside.dropLast else inside) ++ "]"

/-- `CoverageExclusion`. -/
structure CoverageExclusion where
  sourceId : String
  reasonCode : String
  detail : String
  /-- Coverage exclusions require source, reason and detail. -/
  required : sourceId ≠ "" ∧ reasonCode ≠ "" ∧ detail ≠ ""

/-- `CoverageExclusion(…)`; an error is the text of its `ValueError`. -/
def CoverageExclusion.make (sourceId reasonCode detail : String) : Except String CoverageExclusion :=
  if required : sourceId ≠ "" ∧ reasonCode ≠ "" ∧ detail ≠ "" then
    .ok ⟨sourceId, reasonCode, detail, required⟩
  else .error "coverage exclusions require source, reason and detail"

/-- `SourceCoverage`. -/
structure SourceCoverage where
  sourceId : String
  assetIds : List String
  complete : Bool
  watermark : Option String
  /-- Source coverage requires a source and at least one asset. -/
  required : sourceId ≠ "" ∧ assetIds ≠ []
  /-- Covered asset ids are unique. -/
  distinct : assetIds.Nodup

/-- `SourceCoverage(…)`; an error is the text of its `ValueError`. -/
def SourceCoverage.make (sourceId : String) (assetIds : List String) (complete : Bool)
    (watermark : Option String) : Except String SourceCoverage :=
  if required : sourceId ≠ "" ∧ assetIds ≠ [] then
    if distinct : assetIds.Nodup then
      .ok ⟨sourceId, assetIds, complete, watermark, required, distinct⟩
    else .error "covered asset_ids must be unique"
  else .error "source coverage requires a source and at least one asset"

/-- `CoverageStatement`. -/
structure CoverageStatement where
  requestId : String
  generatedAt : DateTime
  included : List SourceCoverage
  excluded : List CoverageExclusion
  expectedSources : List String
  /-- A request id is required. -/
  required : requestId ≠ ""
  /-- `generated_at` is timezone-aware. -/
  aware : generatedAt.aware = true
  /-- Coverage includes or excludes at least one source. -/
  explicit : included ≠ [] ∨ excluded ≠ []
  /-- Coverage mentions each source only once. -/
  distinct : (included.map SourceCoverage.sourceId).Nodup ∧
    (excluded.map CoverageExclusion.sourceId).Nodup
  /-- A source is not both included and excluded. -/
  disjoint : ∀ source ∈ included.map SourceCoverage.sourceId,
    source ∉ excluded.map CoverageExclusion.sourceId
  /-- Expected source identities are not empty. -/
  expected : ∀ source ∈ expectedSources, source ≠ ""
  /-- No source is outside the expected universe. -/
  within : expectedSources = [] ∨ ∀ source ∈ included.map SourceCoverage.sourceId ++
    excluded.map CoverageExclusion.sourceId, source ∈ expectedSources

/-- `CoverageStatement(…)`; an error is the text of its `ValueError`. -/
def CoverageStatement.make [Stdlib] (requestId : String) (generatedAt : DateTime)
    (included : List SourceCoverage) (excluded : List CoverageExclusion)
    (expectedSources : List String) : Except String CoverageStatement :=
  let includedIds := included.map SourceCoverage.sourceId
  let excludedIds := excluded.map CoverageExclusion.sourceId
  if required : requestId ≠ "" then
    if aware : generatedAt.aware = true then
      if explicit : included ≠ [] ∨ excluded ≠ [] then
        if distinct : includedIds.Nodup ∧ excludedIds.Nodup then
          if disjoint : ∀ source ∈ includedIds, source ∉ excludedIds then
            if expected : ∀ source ∈ expectedSources, source ≠ "" then
              if within : expectedSources = [] ∨
                  ∀ source ∈ includedIds ++ excludedIds, source ∈ expectedSources then
                .ok ⟨requestId, generatedAt, included, excluded, expectedSources, required, aware,
                  explicit, distinct, disjoint, expected, within⟩
              else .error "coverage contains a source outside the expected universe"
            else .error "expected source identities must be non-empty"
          else .error ("a source cannot be both included and excluded: " ++
            reprList (sortedSet (includedIds.filter (· ∈ excludedIds))))
        else .error "coverage may mention each source only once"
      else .error "coverage must explicitly include or exclude at least one source"
    else .error "generated_at must be timezone-aware"
  else .error "request_id is required"

/-- `is_complete`. -/
def CoverageStatement.isComplete (statement : CoverageStatement) : Bool :=
  let includedIds := statement.included.map SourceCoverage.sourceId
  let universeComplete := statement.expectedSources.isEmpty ||
    includedIds.all (· ∈ statement.expectedSources) &&
      statement.expectedSources.all (· ∈ includedIds)
  universeComplete && statement.excluded.isEmpty && !statement.included.isEmpty &&
    statement.included.all SourceCoverage.complete

/-- A statement with expected sources is complete exactly when it includes all of them, each
completely, and excludes nothing. -/
theorem CoverageStatement.isComplete_iff (statement : CoverageStatement)
    (some : statement.expectedSources ≠ []) :
    statement.isComplete = true ↔
      (∀ source ∈ statement.expectedSources,
        source ∈ statement.included.map SourceCoverage.sourceId) ∧
        statement.excluded = [] ∧ ∀ item ∈ statement.included, item.complete = true := by
  have within : ∀ source ∈ statement.included.map SourceCoverage.sourceId,
      source ∈ statement.expectedSources := by
    intro source member
    rcases statement.within with none | inside
    · exact absurd none some
    · exact inside source (List.mem_append_left _ member)
  have expected : statement.expectedSources.isEmpty = false := by simpa using some
  have inside : (statement.included.map SourceCoverage.sourceId).all
      (· ∈ statement.expectedSources) = true := by
    rw [List.all_eq_true]
    exact fun source member => decide_eq_true (within source member)
  unfold isComplete
  simp only [expected, inside, Bool.false_or, Bool.true_and, Bool.and_eq_true,
    List.isEmpty_iff, Bool.not_eq_true', List.isEmpty_eq_false_iff, List.all_eq_true,
    decide_eq_true_eq]
  constructor
  · rintro ⟨⟨⟨covered, none⟩, -⟩, complete⟩
    exact ⟨covered, none, complete⟩
  · rintro ⟨covered, none, complete⟩
    refine ⟨⟨⟨covered, none⟩, ?_⟩, complete⟩
    obtain ⟨source, member⟩ := List.exists_mem_of_ne_nil _ some
    intro empty
    have included := covered source member
    rw [empty] at included
    cases included

/-- Everything a complete statement includes is complete, and it includes all it expects and
excludes nothing. -/
theorem CoverageStatement.of_isComplete {statement : CoverageStatement}
    (complete : statement.isComplete = true) :
    (∀ source ∈ statement.expectedSources,
      source ∈ statement.included.map SourceCoverage.sourceId) ∧
      statement.excluded = [] ∧ ∀ item ∈ statement.included, item.complete = true := by
  by_cases some : statement.expectedSources = []
  · unfold isComplete at complete
    simp only [Bool.and_eq_true, List.isEmpty_iff, List.all_eq_true] at complete
    have nothing : ∀ source ∈ statement.expectedSources,
        source ∈ statement.included.map SourceCoverage.sourceId := by
      rw [some]
      intro source member
      cases member
    exact ⟨nothing, complete.1.1.2, complete.2⟩
  · exact (statement.isComplete_iff some).mp complete

end DataHarness
