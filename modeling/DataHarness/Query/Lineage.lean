import DataHarness.Library.Canonical
import DataHarness.Library.Document
import DataHarness.Query.Coordination

/-!
# Merged lineage

The coordinator merges the lineage of its results into a set without repetitions, sorted, and the
bridge to the other planes publishes a digest of it. The order reads an absent part as an empty
text, so two references that differ in that alone tie and keep the order they came in: the digest
depends on the set exactly when it has no such pair.
-/

namespace DataHarness

open CrossSourceCoordinator
open Canonical (SameSet Untied)

/-- The order `_unique_lineage` sorts by. -/
def lineageOrder (left right : LineageRef) : Prop := lineageKey left ≤ lineageKey right

instance : DecidableRel lineageOrder := fun _ _ => inferInstanceAs (Decidable (_ ≤ _))

instance : Std.Total lineageOrder := ⟨fun _ _ => le_total _ _⟩

instance : IsTrans LineageRef lineageOrder := ⟨fun _ _ _ => le_trans⟩

/-- References tie exactly when they have one key. -/
theorem untied_lineage_iff {values : List LineageRef} : Untied lineageOrder values ↔
    ∀ left ∈ values, ∀ right ∈ values, lineageKey left = lineageKey right → left = right := by
  constructor
  · intro untied left one right other same
    exact untied left one right other same.le same.ge
  · intro distinct left one right other before after
    exact distinct left one right other (le_antisymm before after)

/-! ## The evidence bridge -/

/-- An optional part of a reference. -/
def partJson : Option String → Json.Value
  | none => .null
  | some text => .str text

/-- A reference in the evidence. -/
def LineageRef.toEvidence (item : LineageRef) : Json.Value :=
  .obj [("sourceId", .str item.sourceId), ("assetId", .str item.assetId),
    ("recordId", partJson item.recordId), ("fieldPath", partJson item.fieldPath)]

namespace CrossPlaneEvidenceBridge

variable [Stdlib]

/-- The digest of a list of references. -/
def lineageDigest (lineage : List LineageRef) : String :=
  digest (.arr (lineage.map LineageRef.toEvidence))

/-- `_evidence`. -/
def evidence (result : CoordinationResult) (identity : RequestIdentity) : Json.Value :=
  .obj [("schemaVersion", .str "data.harness.cross-plane-execution/v1"),
    ("organizationId", .str identity.organizationId), ("solutionId", .str identity.solutionId),
    ("agentId", .str identity.agentId), ("requestId", .str identity.requestId),
    ("traceId", .str identity.traceId), ("policyDigest", .str identity.policyDigest),
    ("complete", .bool result.complete),
    ("includedSources", .arr ((sortedTexts (result.coverage.included.map (·.sourceId))).map .str)),
    ("excludedSources", .arr ((sortedTexts (result.coverage.excluded.map (·.sourceId))).map .str)),
    ("lineageDigest", .str (lineageDigest result.lineage))]

/-- `publish` up to its two sinks: the evidence it sends them. -/
def published (result : CoordinationResult) (identity : RequestIdentity) :
    Except CoordinationError Json.Value :=
  if result.requestId ≠ identity.requestId then
    .error (.valueError "coordination result and tenant request identity must match")
  else .ok (evidence result identity)

end CrossPlaneEvidenceBridge

open CrossPlaneEvidenceBridge

/-! ## What a coordinator returns -/

variable [Stdlib]

/-- A result is one of an execution. -/
def CoordinationResult.Executed (result : CoordinationResult) : Prop :=
  ∃ plan identity answers, execute plan identity answers = .ok result

/-- The references of the steps of a result, in the order of the steps. -/
def CoordinationResult.references (result : CoordinationResult) : List LineageRef :=
  result.steps.flatMap StepResult.lineage

/-- The lineage of a result merges the references of its steps. -/
theorem CoordinationResult.Executed.lineage {result : CoordinationResult}
    (executed : result.Executed) : result.lineage = uniqueLineage result.references := by
  obtain ⟨plan, identity, answers, ran⟩ := executed
  unfold execute at ran
  split at ran
  · cases ran
  split at ran
  · cases ran
  obtain ⟨tally, -, ran⟩ := of_bind_ok ran
  obtain ⟨statement, -, ran⟩ := of_bind_ok ran
  obtain rfl := Except.ok.inj ran
  rfl

/-- The digest in published evidence is that of the lineage. -/
theorem digest_of_published {result : CoordinationResult} {identity : RequestIdentity}
    {shown : Json.Value} (sent : published result identity = .ok shown) :
    shown.get? "lineageDigest" = some (.str (lineageDigest result.lineage)) := by
  unfold published at sent
  split at sent
  · cases sent
  · obtain rfl := Except.ok.inj sent
    rfl

/-- The merged lineage of some references is a set in canonical form, and the digest published for
executions whose steps carry that set is the same, whatever their steps and identities. -/
structure CanonicalLineage (values : List LineageRef) : Prop where
  lists : ∀ item, item ∈ uniqueLineage values ↔ item ∈ values
  once : (uniqueLineage values).Nodup
  merged : ∀ others, SameSet values others → uniqueLineage others = uniqueLineage values
  published : ∀ {left right : CoordinationResult} {one other : RequestIdentity}
    {first second : Json.Value}, left.Executed → right.Executed →
      SameSet values left.references → SameSet values right.references →
        published left one = .ok first → published right other = .ok second →
          first.get? "lineageDigest" = second.get? "lineageDigest"

/-- The merged lineage is canonical exactly when no two of the references differ only in that a part
is absent from one and empty in the other. -/
theorem lineage_canonical_iff (values : List LineageRef) :
    CanonicalLineage values ↔
      ∀ left ∈ values, ∀ right ∈ values, lineageKey left = lineageKey right → left = right := by
  rw [← untied_lineage_iff]
  constructor
  · intro canonical
    exact Canonical.canonical_eq_iff.mp canonical.merged
  · intro untied
    have merged : ∀ others, SameSet values others → uniqueLineage others = uniqueLineage values :=
      Canonical.canonical_eq_iff.mpr untied
    refine ⟨fun item => Canonical.mem_canonical, Canonical.nodup_canonical, merged, ?_⟩
    intro left right one other first second ran also same equal sent shown
    rw [digest_of_published sent, digest_of_published shown, ran.lineage, also.lineage,
      merged _ same, merged _ equal]

/-! ## An absent part and an empty one -/

/-- A reference to an asset, with a record. -/
def LineageRef.small (recordId : Option String) : LineageRef :=
  { LineageRef.orders with recordId }

omit [Stdlib] in
/-- Two orders of one set of references are merged to different lists with different digests. -/
theorem absent_and_empty_tie : letI := Stdlib.transparent
    let values := [LineageRef.small none, .small (some "")]
    let others := [LineageRef.small (some ""), .small none]
    SameSet values others ∧ uniqueLineage others ≠ uniqueLineage values ∧
      lineageDigest (uniqueLineage others) ≠ lineageDigest (uniqueLineage values) := by
  refine ⟨?_, by decide +kernel, by decide +kernel⟩
  intro item
  simp only [List.mem_cons, List.not_mem_nil, or_false]
  exact or_comm

end DataHarness
