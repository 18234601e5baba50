import DataHarness.Semantic.Assertions
import Mathlib.Data.List.Induction

/-!
# Governed semantic mappings

`SemanticMappingRegistry`: automation proposes a mapping, a human steward reviews it once, and
an observed schema digest that differs quarantines the approved mappings of its asset. An
observation is recorded only on mappings that are approved already, so a mapping approved after
it contradicts the schema that was observed last. That is the only way to reach a contradiction,
besides an observation whose naive time makes `MappingDrift` raise.
-/

namespace DataHarness

/-- `MappingStatus`. -/
inductive MappingStatus
  | proposed
  | approved
  | rejected
  | quarantined
deriving DecidableEq

/-- `SemanticMappingCandidate`. -/
structure SemanticMappingCandidate where
  mappingId : String
  conceptId : String
  sourceId : String
  assetId : String
  fieldPath : String
  confidence : ℚ
  schemaDigest : String
  proposedAt : DateTime
  rationale : String
  lineage : List LineageRef
  required : ∀ value ∈ [mappingId, conceptId, sourceId, assetId, fieldPath, schemaDigest,
    rationale], value ≠ ""
  bounded : 0 ≤ confidence ∧ confidence ≤ 1
  recorded : proposedAt.aware = true ∧ lineage ≠ []

/-- `MappingReview`. -/
structure MappingReview where
  mappingId : String
  status : MappingStatus
  reviewedBy : String
  reviewedAt : DateTime
  reason : String
  /-- A review approves or rejects. -/
  decided : status = .approved ∨ status = .rejected
  /-- The steward is human. -/
  human : "human:".toList.isPrefixOf reviewedBy.toList = true
  recorded : reviewedAt.aware = true ∧ reason ≠ ""

/-- `MappingDrift`. -/
structure MappingDrift where
  mappingId : String
  sourceId : String
  assetId : String
  expectedSchemaDigest : String
  observedSchemaDigest : String
  detectedAt : DateTime
  drifted : expectedSchemaDigest ≠ observedSchemaDigest
  recorded : detectedAt.aware = true

/-- What the registry raises. -/
inductive RegistryError
  | keyError (message : String)
  | valueError (message : String)

/-- `SemanticMappingRegistry`. -/
structure SemanticMappingRegistry where
  candidates : Dict SemanticMappingCandidate
  reviews : Dict MappingReview
  drift : Dict MappingDrift

namespace SemanticMappingRegistry

/-- A registry just created. -/
def empty : SemanticMappingRegistry := ⟨.empty, .empty, .empty⟩

/-- `propose`. -/
def propose (registry : SemanticMappingRegistry) (candidate : SemanticMappingCandidate) :
    Except RegistryError SemanticMappingRegistry :=
  if (registry.candidates.get? candidate.mappingId).isSome then
    .error (.valueError ("mapping already exists: " ++ candidate.mappingId))
  else .ok { registry with
    candidates := registry.candidates.set candidate.mappingId candidate }

/-- `review`. -/
def review (registry : SemanticMappingRegistry) (review : MappingReview) :
    Except RegistryError SemanticMappingRegistry :=
  match registry.candidates.get? review.mappingId with
  | none => .error (.keyError ("unknown mapping: " ++ review.mappingId))
  | some candidate =>
    if (registry.reviews.get? review.mappingId).isSome then
      .error (.valueError ("mapping already reviewed: " ++ review.mappingId))
    else if review.reviewedAt.before? candidate.proposedAt = some true then
      .error (.valueError "mapping review cannot predate its proposal")
    else .ok { registry with reviews := registry.reviews.set review.mappingId review }

/-- The test of `approved` for the mapping kept under an id. -/
def isApproved (registry : SemanticMappingRegistry) (includeQuarantined : Bool)
    (mappingId : String) : Bool :=
  (registry.reviews.get? mappingId).any (fun review => review.status == .approved) &&
    (includeQuarantined || (registry.drift.get? mappingId).isNone)

/-- `approved`. -/
def approved (registry : SemanticMappingRegistry) (includeQuarantined : Bool) :
    List SemanticMappingCandidate :=
  ((registry.candidates.entries.filter fun item =>
    registry.isApproved includeQuarantined item.1).map Prod.snd).insertionSort
      fun left right => left.mappingId ≤ right.mappingId

/-- `approved_for`. -/
def approvedFor (registry : SemanticMappingRegistry) (conceptId : String) :
    List SemanticMappingCandidate :=
  (registry.approved false).filter fun item => item.conceptId == conceptId

/-- `status`. -/
def status (registry : SemanticMappingRegistry) (mappingId : String) :
    Except RegistryError MappingStatus :=
  if (registry.candidates.get? mappingId).isNone then .error (.keyError mappingId)
  else if (registry.drift.get? mappingId).isSome then .ok .quarantined
  else match registry.reviews.get? mappingId with
    | some review => .ok review.status
    | none => .ok .proposed

/-- The loop of `detect_drift`: the quarantine it leaves, and what it found or raised. -/
def detectIn (sourceId assetId observed : String) (detectedAt : DateTime) :
    List SemanticMappingCandidate → Dict MappingDrift →
      Dict MappingDrift × Except RegistryError (List MappingDrift)
  | [], drift => (drift, .ok [])
  | candidate :: rest, drift =>
    if candidate.sourceId = sourceId ∧ candidate.assetId = assetId then
      if drifted : candidate.schemaDigest ≠ observed then
        if recorded : detectedAt.aware = true then
          let found : MappingDrift := ⟨candidate.mappingId, sourceId, assetId,
            candidate.schemaDigest, observed, detectedAt, drifted, recorded⟩
          let (after, outcome) := detectIn sourceId assetId observed detectedAt rest
            (drift.set candidate.mappingId found)
          (after, outcome.map (found :: ·))
        else (drift, .error (.valueError "drift detection time must be timezone-aware"))
      else detectIn sourceId assetId observed detectedAt rest drift
    else detectIn sourceId assetId observed detectedAt rest drift

/-- `detect_drift`. -/
def detectDrift (registry : SemanticMappingRegistry) (sourceId assetId observed : String)
    (detectedAt : DateTime) :
    SemanticMappingRegistry × Except RegistryError (List MappingDrift) :=
  let (drift, outcome) := detectIn sourceId assetId observed detectedAt (registry.approved true)
    registry.drift
  ({ registry with drift := drift }, outcome)

end SemanticMappingRegistry

/-- A call on a registry. -/
inductive RegistryCall
  | propose (candidate : SemanticMappingCandidate)
  | review (review : MappingReview)
  | detectDrift (sourceId assetId observed : String) (detectedAt : DateTime)

/-- The registry after a call; one that raises may have quarantined before. -/
def SemanticMappingRegistry.after (registry : SemanticMappingRegistry) :
    RegistryCall → SemanticMappingRegistry
  | .propose candidate =>
    match registry.propose candidate with
    | .ok next => next
    | .error _ => registry
  | .review review =>
    match registry.review review with
    | .ok next => next
    | .error _ => registry
  | .detectDrift sourceId assetId observed detectedAt =>
    (registry.detectDrift sourceId assetId observed detectedAt).1

/-- The registry after a sequence of calls. -/
def registryAfter (calls : List RegistryCall) : SemanticMappingRegistry :=
  calls.foldl SemanticMappingRegistry.after .empty

/-- The last call is performed on what the others left. -/
@[simp] theorem registryAfter_snoc (calls : List RegistryCall) (call : RegistryCall) :
    registryAfter (calls ++ [call]) = (registryAfter calls).after call := by
  simp [registryAfter]

/-- The schema digest a call observed for an asset. -/
def RegistryCall.observation? (sourceId assetId : String) : RegistryCall → Option String
  | .detectDrift source asset observed _ =>
    if source = sourceId ∧ asset = assetId then some observed else none
  | _ => none

/-- The schema digest observed last for an asset. -/
def latest (calls : List RegistryCall) (sourceId assetId : String) : Option String :=
  calls.reverse.findSome? (RegistryCall.observation? sourceId assetId)

/-- The last call decides, when it observes the asset. -/
@[simp] theorem latest_snoc (calls : List RegistryCall) (call : RegistryCall)
    (sourceId assetId : String) :
    latest (calls ++ [call]) sourceId assetId =
      (call.observation? sourceId assetId).or (latest calls sourceId assetId) := by
  simp only [latest, List.reverse_append, List.reverse_singleton, List.singleton_append,
    List.findSome?_cons]
  cases call.observation? sourceId assetId <;> rfl

/-- No routable mapping contradicts the schema observed last for its asset. -/
def UpToDate (calls : List RegistryCall) : Prop :=
  ∀ mapping ∈ (registryAfter calls).approved false, ∀ observed,
    latest calls mapping.sourceId mapping.assetId = some observed →
      mapping.schemaDigest = observed

/-- A review is accepted for a candidate not reviewed yet that it does not predate. -/
def SemanticMappingRegistry.accepts (registry : SemanticMappingRegistry) (review : MappingReview)
    (candidate : SemanticMappingCandidate) : Prop :=
  registry.candidates.get? review.mappingId = some candidate ∧
    registry.reviews.get? review.mappingId = none ∧
      review.reviewedAt.before? candidate.proposedAt ≠ some true

/-- A call meets the condition after the calls before it: a review does not approve a mapping whose
schema digest differs from the one observed last, and an observation has an aware time or finds no
routable mapping that differs. -/
def Prompt (before : List RegistryCall) : RegistryCall → Prop
  | .propose _ => True
  | .review review => review.status = .approved → ∀ candidate,
      (registryAfter before).accepts review candidate → ∀ observed,
        latest before candidate.sourceId candidate.assetId = some observed →
          candidate.schemaDigest = observed
  | .detectDrift sourceId assetId observed detectedAt => detectedAt.aware = true ∨
      ∀ mapping ∈ (registryAfter before).approved false, mapping.sourceId = sourceId →
        mapping.assetId = assetId → mapping.schemaDigest = observed

/-! ## What the calls keep -/

namespace SemanticMappingRegistry

variable {registry : SemanticMappingRegistry} {mapping : SemanticMappingCandidate}

/-- A mapping is listed as approved when the one under its id passes the test. -/
theorem mem_approved {includeQuarantined : Bool} :
    mapping ∈ registry.approved includeQuarantined ↔ ∃ mappingId,
      registry.candidates.get? mappingId = some mapping ∧
        registry.isApproved includeQuarantined mappingId = true := by
  simp only [approved, List.mem_insertionSort, List.mem_map, List.mem_filter, Prod.exists,
    exists_eq_right, Dict.get?, Table.lookup_iff_mem registry.candidates.distinct]

/-- The test passes for a mapping approved and, unless asked otherwise, not quarantined. -/
theorem isApproved_iff {mappingId : String} :
    registry.isApproved false mappingId = true ↔
      (∃ review, registry.reviews.get? mappingId = some review ∧ review.status = .approved) ∧
        registry.drift.get? mappingId = none := by
  simp [isApproved, Option.any_eq_true]

/-- A candidate is kept under its own id, and only candidates are reviewed, only approved ones
quarantined. -/
structure WellFormed (registry : SemanticMappingRegistry) : Prop where
  own : ∀ mappingId candidate, registry.candidates.get? mappingId = some candidate →
    candidate.mappingId = mappingId
  reviewed : ∀ mappingId, (registry.reviews.get? mappingId).isSome = true →
    (registry.candidates.get? mappingId).isSome = true
  quarantined : ∀ mappingId, (registry.drift.get? mappingId).isSome = true →
    (registry.reviews.get? mappingId).isSome = true

/-- The candidates an observation quarantines. -/
def drifts (sourceId assetId observed : String) (candidate : SemanticMappingCandidate) : Prop :=
  candidate.sourceId = sourceId ∧ candidate.assetId = assetId ∧ candidate.schemaDigest ≠ observed

/-- The loop passes over a candidate that does not differ. -/
theorem detectIn_pass {sourceId assetId observed : String} {detectedAt : DateTime}
    {candidate : SemanticMappingCandidate} (keeps : ¬ drifts sourceId assetId observed candidate)
    (rest : List SemanticMappingCandidate) (drift : Dict MappingDrift) :
    detectIn sourceId assetId observed detectedAt (candidate :: rest) drift =
      detectIn sourceId assetId observed detectedAt rest drift := by
  simp only [detectIn]
  split
  · rename_i here
    rw [dif_neg fun drifted => keeps ⟨here.1, here.2, drifted⟩]
  · rfl

/-- The loop quarantines a candidate that differs, when it has a time to record. -/
theorem detectIn_quarantine {sourceId assetId observed : String} {detectedAt : DateTime}
    {candidate : SemanticMappingCandidate} (aware : detectedAt.aware = true)
    (differs : drifts sourceId assetId observed candidate)
    (rest : List SemanticMappingCandidate) (drift : Dict MappingDrift) :
    ∃ found, (detectIn sourceId assetId observed detectedAt (candidate :: rest) drift).1 =
      (detectIn sourceId assetId observed detectedAt rest
        (drift.set candidate.mappingId found)).1 := by
  simp only [detectIn, if_pos (And.intro differs.1 differs.2.1), dif_pos differs.2.2,
    dif_pos aware]
  exact ⟨_, rfl⟩

/-- With a time to record, the loop quarantines the candidates that differ. -/
theorem detectIn_aware {sourceId assetId observed : String} {detectedAt : DateTime}
    (aware : detectedAt.aware = true) (candidates : List SemanticMappingCandidate)
    (drift : Dict MappingDrift) (mappingId : String) :
    ((detectIn sourceId assetId observed detectedAt candidates drift).1.get? mappingId).isSome =
        true ↔ (drift.get? mappingId).isSome = true ∨
      ∃ candidate ∈ candidates, candidate.mappingId = mappingId ∧
        drifts sourceId assetId observed candidate := by
  induction candidates generalizing drift with
  | nil => simp [detectIn]
  | cons candidate rest ih =>
    simp only [List.mem_cons, exists_eq_or_imp]
    by_cases differs : drifts sourceId assetId observed candidate
    · obtain ⟨found, same⟩ := detectIn_quarantine aware differs rest drift
      rw [same, ih, Dict.get?_set]
      by_cases here : candidate.mappingId = mappingId
      · simp [here, differs]
      · simp [here]
    · rw [detectIn_pass differs, ih]
      simp [differs]

/-- Without one, it changes nothing. -/
theorem detectIn_naive {sourceId assetId observed : String} {detectedAt : DateTime}
    (naive : ¬ detectedAt.aware = true) (candidates : List SemanticMappingCandidate)
    (drift : Dict MappingDrift) :
    (detectIn sourceId assetId observed detectedAt candidates drift).1 = drift := by
  induction candidates with
  | nil => rfl
  | cons candidate rest ih =>
    simp only [detectIn, dif_neg naive]
    split
    · split
      · rfl
      · exact ih
    · exact ih

/-- A review that is accepted is kept, and any other changes nothing. -/
theorem after_review (registry : SemanticMappingRegistry) (review : MappingReview) :
    (∃ candidate, registry.accepts review candidate ∧
      registry.after (.review review) =
        { registry with reviews := registry.reviews.set review.mappingId review }) ∨
      (¬ ∃ candidate, registry.accepts review candidate) ∧
        registry.after (.review review) = registry := by
  simp only [SemanticMappingRegistry.after, SemanticMappingRegistry.review, accepts]
  cases found : registry.candidates.get? review.mappingId with
  | none => simp
  | some candidate =>
    simp only [Option.some.injEq]
    by_cases reviewed : (registry.reviews.get? review.mappingId).isSome = true
    · rw [if_pos reviewed]
      refine .inr ⟨?_, rfl⟩
      rintro ⟨-, -, unreviewed, -⟩
      rw [unreviewed] at reviewed
      cases reviewed
    · rw [if_neg reviewed]
      have unreviewed : registry.reviews.get? review.mappingId = none := by
        simpa using reviewed
      by_cases early : review.reviewedAt.before? candidate.proposedAt = some true
      · rw [if_pos early]
        refine .inr ⟨?_, rfl⟩
        rintro ⟨_, rfl, -, late⟩
        exact late early
      · rw [if_neg early]
        exact .inl ⟨candidate, ⟨rfl, unreviewed, early⟩, rfl⟩

/-- A proposal under a new id is kept, and any other changes nothing. -/
theorem after_propose (registry : SemanticMappingRegistry) (candidate : SemanticMappingCandidate) :
    registry.candidates.get? candidate.mappingId = none ∧
        registry.after (.propose candidate) =
          { registry with candidates := registry.candidates.set candidate.mappingId candidate } ∨
      registry.after (.propose candidate) = registry := by
  simp only [SemanticMappingRegistry.after, propose]
  by_cases known : (registry.candidates.get? candidate.mappingId).isSome = true
  · rw [if_pos known]
    exact .inr rfl
  · rw [if_neg known]
    exact .inl ⟨by simpa using known, rfl⟩

/-- An observation with an aware time quarantines the approved mappings that differ from it. -/
theorem after_detectDrift (formed : registry.WellFormed) (sourceId assetId observed : String)
    {detectedAt : DateTime} (aware : detectedAt.aware = true) :
    ∃ drift, registry.after (.detectDrift sourceId assetId observed detectedAt) =
        { registry with drift := drift } ∧
      ∀ mappingId, drift.get? mappingId = none ↔ registry.drift.get? mappingId = none ∧
        ∀ mapping, registry.candidates.get? mappingId = some mapping →
          registry.isApproved true mappingId = true →
            ¬ drifts sourceId assetId observed mapping := by
  refine ⟨_, rfl, fun mappingId => ?_⟩
  have quarantines : ((detectIn sourceId assetId observed detectedAt (registry.approved true)
      registry.drift).1.get? mappingId).isSome = true ↔ _ :=
    detectIn_aware aware (registry.approved true) registry.drift mappingId
  rw [← Option.not_isSome_iff_eq_none, quarantines, ← Option.not_isSome_iff_eq_none, not_or]
  refine and_congr_right fun _ => ⟨fun kept mapping there approved differs => ?_, ?_⟩
  · exact kept ⟨mapping, mem_approved.mpr ⟨mappingId, there, approved⟩,
      formed.own mappingId mapping there, differs⟩
  · rintro kept ⟨mapping, listed, rfl, differs⟩
    obtain ⟨mappingId, there, approved⟩ := mem_approved.mp listed
    obtain rfl := formed.own mappingId mapping there
    exact kept mapping there approved differs

/-- An observation with a naive time changes nothing. -/
theorem after_naive {sourceId assetId observed : String} {detectedAt : DateTime}
    (naive : ¬ detectedAt.aware = true) :
    registry.after (.detectDrift sourceId assetId observed detectedAt) = registry := by
  simp only [SemanticMappingRegistry.after, detectDrift, detectIn_naive naive]

/-- Every call keeps a registry well formed. -/
theorem WellFormed.after (formed : registry.WellFormed) (call : RegistryCall) :
    (registry.after call).WellFormed := by
  cases call with
  | propose candidate =>
    rcases registry.after_propose candidate with ⟨fresh, same⟩ | same
    · rw [same]
      refine ⟨Dict.forall_set rfl formed.own, fun mappingId there => ?_, formed.quarantined⟩
      · simp only [Dict.get?_set]
        split
        · rfl
        · exact formed.reviewed mappingId there
    · rwa [same]
  | review review =>
    rcases registry.after_review review with ⟨candidate, accepted, same⟩ | ⟨-, same⟩
    · rw [same]
      refine ⟨formed.own, fun mappingId there => ?_, fun mappingId there => ?_⟩
      · simp only [Dict.get?_set] at there
        split at there
        · rename_i here
          rw [← here, accepted.1]
          rfl
        · exact formed.reviewed mappingId there
      · simp only [Dict.get?_set]
        split
        · rfl
        · exact formed.quarantined mappingId there
    · rwa [same]
  | detectDrift sourceId assetId observed detectedAt =>
    by_cases aware : detectedAt.aware = true
    · obtain ⟨drift, same, quarantined⟩ := after_detectDrift formed sourceId assetId observed aware
      rw [same]
      refine ⟨formed.own, formed.reviewed, fun mappingId there => ?_⟩
      by_contra unreviewed
      rw [Option.not_isSome_iff_eq_none] at unreviewed
      have absent : drift.get? mappingId = none := by
        refine (quarantined mappingId).mpr ⟨?_, fun mapping _ approved => ?_⟩
        · by_contra present
          have reviewed := formed.quarantined mappingId (Option.isSome_iff_ne_none.mpr present)
          rw [unreviewed] at reviewed
          cases reviewed
        · simp [isApproved, unreviewed] at approved
      rw [absent] at there
      cases there
    · rwa [after_naive aware]

/-- An accepted review makes its candidate routable, when it approves, and no other mapping. -/
theorem approved_review (formed : registry.WellFormed) {review : MappingReview}
    {candidate : SemanticMappingCandidate} (accepted : registry.accepts review candidate) :
    mapping ∈ approved { registry with reviews := registry.reviews.set review.mappingId review }
        false ↔
      mapping ∈ registry.approved false ∨ review.status = .approved ∧ mapping = candidate := by
  simp only [mem_approved, isApproved_iff, Dict.get?_set]
  constructor
  · rintro ⟨mappingId, there, ⟨decided, kept, approved⟩, undrifted⟩
    split at kept
    · rename_i same
      subst same
      obtain rfl := Option.some.inj kept
      exact .inr ⟨approved, Option.some.inj (there.symm.trans accepted.1)⟩
    · exact .inl ⟨mappingId, there, ⟨decided, kept, approved⟩, undrifted⟩
  · rintro (⟨mappingId, there, ⟨decided, kept, approved⟩, undrifted⟩ | ⟨approved, rfl⟩)
    · refine ⟨mappingId, there, ⟨decided, ?_, approved⟩, undrifted⟩
      rw [if_neg, kept]
      rintro rfl
      exact nomatch kept.symm.trans accepted.2.1
    · refine ⟨review.mappingId, accepted.1, ⟨review, if_pos rfl, approved⟩, ?_⟩
      by_contra present
      have reviewed := formed.quarantined _ (Option.isSome_iff_ne_none.mpr present)
      rw [accepted.2.1] at reviewed
      cases reviewed

/-- A new proposal is not routable. -/
theorem approved_propose (formed : registry.WellFormed) {candidate : SemanticMappingCandidate}
    (fresh : registry.candidates.get? candidate.mappingId = none)
    (routable : mapping ∈ approved { registry with
      candidates := registry.candidates.set candidate.mappingId candidate } false) :
    mapping ∈ registry.approved false := by
  obtain ⟨mappingId, there, approved⟩ := mem_approved.mp routable
  simp only [Dict.get?_set] at there
  split at there
  · rename_i same
    obtain ⟨⟨review, kept, -⟩, -⟩ := isApproved_iff.mp approved
    have known := formed.reviewed mappingId (Option.isSome_iff_exists.mpr ⟨review, kept⟩)
    rw [← same, fresh] at known
    cases known
  · exact mem_approved.mpr ⟨mappingId, there, approved⟩

end SemanticMappingRegistry

/-! ## The condition -/

open SemanticMappingRegistry

/-- Every sequence of calls leaves a well-formed registry. -/
theorem registryAfter_wellFormed (calls : List RegistryCall) : (registryAfter calls).WellFormed := by
  induction calls using List.reverseRecOn with
  | nil => exact ⟨by simp [registryAfter, SemanticMappingRegistry.empty],
      by simp [registryAfter, SemanticMappingRegistry.empty],
      by simp [registryAfter, SemanticMappingRegistry.empty]⟩
  | append_singleton calls call ih =>
    rw [registryAfter_snoc]
    exact ih.after call

/-- A call that observes nothing and makes nothing routable keeps a current registry. -/
theorem upToDate_of_approved {before : List RegistryCall} {call : RegistryCall}
    (current : UpToDate before) (blind : ∀ source asset, call.observation? source asset = none)
    (approved : ∀ mapping ∈ ((registryAfter before).after call).approved false,
      mapping ∈ (registryAfter before).approved false) : UpToDate (before ++ [call]) := by
  intro mapping routable observed
  rw [registryAfter_snoc] at routable
  rw [latest_snoc, blind, Option.none_or]
  exact current mapping (approved mapping routable) observed

/-- A review keeps a registry current exactly when what it approves was last observed as mapped. -/
theorem upToDate_review {before : List RegistryCall} (current : UpToDate before)
    (review : MappingReview) :
    UpToDate (before ++ [.review review]) ↔ Prompt before (.review review) := by
  have formed := registryAfter_wellFormed before
  rcases (registryAfter before).after_review review with
    ⟨candidate, accepted, same⟩ | ⟨refused, same⟩
  · have observes : ∀ mapping : SemanticMappingCandidate,
        latest (before ++ [.review review]) mapping.sourceId mapping.assetId =
          latest before mapping.sourceId mapping.assetId := by
      intro mapping
      rw [latest_snoc]
      rfl
    simp only [UpToDate, registryAfter_snoc, same, observes, approved_review formed accepted]
    constructor
    · intro holds approves other again observed seen
      obtain rfl := Option.some.inj (accepted.1.symm.trans again.1)
      exact holds candidate (.inr ⟨approves, rfl⟩) observed seen
    · rintro prompt mapping (old | ⟨approves, rfl⟩) observed seen
      · exact current mapping old observed seen
      · exact prompt approves mapping accepted observed seen
  · refine iff_of_true (upToDate_of_approved current (fun _ _ => rfl) ?_) ?_
    · intro mapping routable
      rwa [same] at routable
    · intro _ candidate accepted
      exact absurd ⟨candidate, accepted⟩ refused

/-- The schema observed last behind a detection is the one it observed, where it observed one. -/
theorem latest_detectDrift (before : List RegistryCall) (sourceId assetId observed : String)
    (detectedAt : DateTime) (mapping : SemanticMappingCandidate) :
    latest (before ++ [.detectDrift sourceId assetId observed detectedAt]) mapping.sourceId
        mapping.assetId =
      if sourceId = mapping.sourceId ∧ assetId = mapping.assetId then some observed
      else latest before mapping.sourceId mapping.assetId := by
  rw [latest_snoc, RegistryCall.observation?]
  split <;> rfl

/-- A detection that is timed keeps a registry current: it quarantines what it finds changed. -/
theorem upToDate_aware {before : List RegistryCall} (current : UpToDate before)
    (sourceId assetId observed : String) {detectedAt : DateTime}
    (aware : detectedAt.aware = true) :
    UpToDate (before ++ [.detectDrift sourceId assetId observed detectedAt]) := by
  have formed := registryAfter_wellFormed before
  obtain ⟨drift, same, quarantined⟩ := after_detectDrift formed sourceId assetId observed aware
  intro mapping routable seen latestSeen
  rw [registryAfter_snoc, same] at routable
  obtain ⟨mappingId, there, approved⟩ := mem_approved.mp routable
  obtain ⟨reviewed, undrifted⟩ := isApproved_iff.mp approved
  obtain ⟨unquarantined, keeps⟩ := (quarantined mappingId).mp undrifted
  have former : (registryAfter before).isApproved false mappingId = true :=
    isApproved_iff.mpr ⟨reviewed, unquarantined⟩
  rw [latest_detectDrift] at latestSeen
  split at latestSeen
  · rename_i here
    obtain rfl := Option.some.inj latestSeen
    by_contra differs
    refine keeps mapping there ?_ ⟨here.1.symm, here.2.symm, differs⟩
    obtain ⟨review, kept, approves⟩ := reviewed
    simp only [SemanticMappingRegistry.isApproved]
    simp [show (registryAfter _).reviews.get? mappingId = some review from kept, approves]
  · exact current mapping (mem_approved.mpr ⟨mappingId, there, former⟩) seen latestSeen

/-- One more call keeps a registry current exactly when it meets the condition. -/
theorem upToDate_snoc {before : List RegistryCall} (current : UpToDate before)
    (call : RegistryCall) : UpToDate (before ++ [call]) ↔ Prompt before call := by
  have formed := registryAfter_wellFormed before
  cases call with
  | propose candidate =>
    refine iff_of_true (upToDate_of_approved current (fun _ _ => rfl) ?_) trivial
    intro mapping routable
    rcases (registryAfter before).after_propose candidate with ⟨fresh, same⟩ | same
    · rw [same] at routable
      exact approved_propose formed fresh routable
    · rwa [same] at routable
  | review review => exact upToDate_review current review
  | detectDrift sourceId assetId observed detectedAt =>
    by_cases aware : detectedAt.aware = true
    · exact iff_of_true (upToDate_aware current sourceId assetId observed aware) (.inl aware)
    · simp only [UpToDate, registryAfter_snoc, after_naive aware, latest_detectDrift, Prompt, aware,
        Bool.false_eq_true, false_or]
      constructor
      · rintro holds mapping routable rfl rfl
        exact holds mapping routable observed (by simp)
      · intro prompt mapping routable seen latestSeen
        split at latestSeen
        · rename_i here
          obtain rfl := Option.some.inj latestSeen
          exact prompt mapping routable here.1.symm here.2.symm
        · exact current mapping routable seen latestSeen

/-- No routable mapping ever contradicts the schema observed last exactly when every call meets the
condition after the calls before it. -/
theorem upToDate_iff (calls : List RegistryCall) :
    (∀ before, before <+: calls → UpToDate before) ↔
      ∀ before call after, calls = before ++ call :: after → Prompt before call := by
  constructor
  · rintro holds before call after rfl
    refine (upToDate_snoc (holds before (List.prefix_append _ _)) call).mp (holds _ ?_)
    exact ⟨after, by simp⟩
  · intro prompt
    have whole : ∀ before, before <+: calls → UpToDate before := by
      intro before
      induction before using List.reverseRecOn with
      | nil =>
        intro _ mapping routable
        cases routable
      | append_singleton before call ih =>
        rintro ⟨after, rfl⟩
        have earlier := ih ⟨call :: after, by simp⟩
        exact (upToDate_snoc earlier call).mpr (prompt before call after (by simp))
    exact whole

/-! ## An observation before the approval -/

/-- A mapping of one field, for small runs. -/
def SemanticMappingCandidate.small : SemanticMappingCandidate where
  mappingId := "mapping"
  conceptId := "concept"
  sourceId := "erp"
  assetId := "orders"
  fieldPath := "error_code"
  confidence := 1
  schemaDigest := "sha256:old"
  proposedAt := noon
  rationale := "matching values"
  lineage := [.orders]
  required := by decide
  bounded := certain
  recorded := by simp [noon, DateTime.aware]

/-- Its approval by a steward. -/
def MappingReview.small : MappingReview where
  mappingId := "mapping"
  status := .approved
  reviewedBy := "human:steward"
  reviewedAt := noon
  reason := "verified"
  decided := .inl rfl
  human := by decide
  recorded := by decide

/-- The changed schema is observed between the proposal and the approval. -/
def approvedLate : List RegistryCall :=
  [.propose .small, .detectDrift "erp" "orders" "sha256:new" noon, .review .small]

/-- The mapping is routable although the schema observed last is another one. -/
theorem approvedLate_outdated :
    SemanticMappingCandidate.small ∈ (registryAfter approvedLate).approved false ∧
      latest approvedLate "erp" "orders" = some "sha256:new" ∧
        SemanticMappingCandidate.small.schemaDigest ≠ "sha256:new" ∧ ¬ UpToDate approvedLate := by
  have routable : SemanticMappingCandidate.small ∈ (registryAfter approvedLate).approved false := by
    refine mem_approved.mpr ⟨"mapping", ?_, ?_⟩
    · rfl
    · decide +kernel
  have seen : latest approvedLate "erp" "orders" = some "sha256:new" := by decide
  have differs : SemanticMappingCandidate.small.schemaDigest ≠ "sha256:new" := by decide
  exact ⟨routable, seen, differs, fun current => differs (current _ routable _ seen)⟩

/-- Observed after the approval, the same schema quarantines the mapping. -/
example : (registryAfter [.propose .small, .review .small,
    .detectDrift "erp" "orders" "sha256:new" noon]).approved false = [] := by rfl

end DataHarness
