import DataHarness.Release.Packaging
import DataHarness.Release.Promotion

/-!
# Acceptance campaigns

`LiveAcceptanceCampaign` is a ledger of release artifacts, live sources and stage evidence for four
components. What blocks its acceptance is computed from the records. Its contract shows the
records with the computed values, and `from_contract` reads a contract back: it builds the records
again, with every check of their constructors, and compares what the contract declares with what it
computes.

A constructor does not look at the type of every field. Those that may hold any value of a document
are JSON values here. A `datetime` may have any `tzinfo`, and `isoformat` does not tell all of it.
-/

namespace DataHarness

/-- What a constructor of the campaign, or `from_contract`, raises. -/
abbrev ContractError : Type := PackageError

/-- The parts of the standard library that campaigns are checked with. -/
class AcceptanceLibrary extends Stdlib where
  /-- `urlparse(text)` has the scheme `https` and a network location. -/
  isHttpsUrl : String → Bool
  /-- `len(values) == len(set(values))`, of values that a set may have. -/
  unique : List Json.Value → Bool

export AcceptanceLibrary (isHttpsUrl unique)

/-- A library to evaluate with, where an address is told by its first characters. -/
@[reducible] def AcceptanceLibrary.transparent : AcceptanceLibrary :=
  { Stdlib.transparent with
    isHttpsUrl := fun text => "https://".toList.isPrefixOf text.toList && text.length != 8
    unique := fun values => decide (values.map Json.dumps).Nodup }

/-! ## Times -/

/-- A `datetime` by what its `tzinfo` says of it. -/
inductive ZonedTime
  /-- It has no `tzinfo`, or one whose `utcoffset()` is the same for either `fold`. -/
  | settled (time : DateTime)
  /-- `utcoffset()` depends on `fold`, as in an hour that is repeated. Such a time equals no time
  with another `tzinfo`. -/
  | repeated (instant utcoffset : Int)
  /-- It has a `tzinfo` whose `utcoffset()` is `None`. -/
  | unplaced (clock : Int)

namespace ZonedTime

/-- `tzinfo is not None`. -/
def aware : ZonedTime → Bool
  | settled time => time.aware
  | repeated _ _ => true
  | unplaced _ => true

/-- `isoformat`, which does not write the `fold`. -/
def isoformat [Stdlib] : ZonedTime → String
  | settled time => Stdlib.isoformat time
  | repeated instant utcoffset => Stdlib.isoformat ⟨instant, some utcoffset⟩
  | unplaced clock => Stdlib.isoformat ⟨clock, none⟩

/-- `datetime.fromisoformat`, none where it raises. -/
def fromisoformat [Stdlib] (text : String) : Option ZonedTime :=
  (Stdlib.fromisoformat text).map settled

/-- The time has one offset from UTC, or no `tzinfo`. -/
def Settled (time : ZonedTime) : Prop := ∃ own, time = settled own

/-- A time with one offset is read back. -/
theorem fromisoformat_isoformat [Stdlib] {time : ZonedTime} (settled : time.Settled) :
    fromisoformat time.isoformat = some time := by
  obtain ⟨own, rfl⟩ := settled
  unfold fromisoformat isoformat
  rw [Stdlib.fromisoformat_isoformat]
  rfl

/-- No other time is read. -/
theorem settled_of_fromisoformat [Stdlib] {text : String} {time : ZonedTime}
    (read : fromisoformat text = some time) : time.Settled := by
  unfold fromisoformat at read
  obtain ⟨own, -, rfl⟩ := Option.map_eq_some_iff.mp read
  exact ⟨own, rfl⟩

end ZonedTime

/-- `REQUIRED_ACCEPTANCE_COMPONENTS`, sorted. -/
def requiredAcceptanceComponents : List String :=
  ["ADLC", "Python-SDK", "data-source-harness", "model-plane"]

/-- `AcceptanceStage`. -/
inductive AcceptanceStage
  | source
  | prCi
  | exactMainCi
  | publication
  | localImageLoad
  | localStartup
  | runtime
  | fault
  | soak
  | protocolConformance
  | stakeholder
deriving DecidableEq

namespace AcceptanceStage

/-- The stages in the order of the enumeration. -/
def all : List AcceptanceStage :=
  [source, prCi, exactMainCi, publication, localImageLoad, localStartup, runtime, fault, soak,
    protocolConformance, stakeholder]

/-- No stage is left out. -/
@[simp] theorem mem_all (stage : AcceptanceStage) : stage ∈ all := by
  cases stage <;> decide

/-- The text of a stage. -/
def value : AcceptanceStage → String
  | source => "source"
  | prCi => "pr-ci"
  | exactMainCi => "exact-main-ci"
  | publication => "publication"
  | localImageLoad => "local-image-load"
  | localStartup => "local-startup"
  | runtime => "runtime"
  | fault => "fault"
  | soak => "soak"
  | protocolConformance => "protocol-conformance"
  | stakeholder => "stakeholder"

/-- `AcceptanceStage(text)`, none where it raises. -/
def ofValue (text : String) : Option AcceptanceStage := all.find? fun stage => stage.value == text

/-- Every stage is read back from its text. -/
@[simp] theorem ofValue_value (stage : AcceptanceStage) : ofValue stage.value = some stage := by
  cases stage <;> decide

/-- `ARTIFACT_REQUIRED_STAGES`. -/
def artifactRequired : List AcceptanceStage :=
  [publication, localImageLoad, localStartup, runtime, fault, soak, protocolConformance,
    stakeholder]

end AcceptanceStage

/-- `LiveSourceShape`. -/
inductive LiveSourceShape
  | postgresql
  | s3Compatible
  | kafkaCompatible
  | rest
deriving DecidableEq

namespace LiveSourceShape

/-- The shapes in the order of the enumeration. -/
def all : List LiveSourceShape := [postgresql, s3Compatible, kafkaCompatible, rest]

/-- The text of a shape. -/
def value : LiveSourceShape → String
  | postgresql => "postgresql"
  | s3Compatible => "s3-compatible"
  | kafkaCompatible => "kafka-compatible"
  | rest => "rest"

/-- `LiveSourceShape(text)`, none where it raises. -/
def ofValue (text : String) : Option LiveSourceShape := all.find? fun shape => shape.value == text

/-- Every shape is read back from its text. -/
@[simp] theorem ofValue_value (shape : LiveSourceShape) : ofValue shape.value = some shape := by
  cases shape <;> decide

end LiveSourceShape

/-- `EvidenceStatus` of the evidence module, which has one status more than that of promotion. -/
inductive PlaneEvidenceStatus
  | missing
  | passed
  | failed
  | notApplicable
deriving DecidableEq

namespace PlaneEvidenceStatus

/-- The text of a status. -/
def value : PlaneEvidenceStatus → String
  | missing => "missing"
  | passed => "passed"
  | failed => "failed"
  | notApplicable => "not-applicable"

/-- `EvidenceStatus(text)`, none where it raises. -/
def ofValue (text : String) : Option PlaneEvidenceStatus :=
  [missing, passed, failed, notApplicable].find? fun status => status.value == text

/-- Every status is read back from its text. -/
@[simp] theorem ofValue_value (status : PlaneEvidenceStatus) :
    ofValue status.value = some status := by
  cases status <;> decide

end PlaneEvidenceStatus

/-! ## Checks -/

/-- `re.fullmatch(r"sha256:[0-9a-f]{64}", text)`. -/
def exactDigest (text : String) : Bool :=
  "sha256:".toList.isPrefixOf text.toList && (text.toList.drop 7).length == 64 &&
    (text.toList.drop 7).all fun c => c.isDigit || (decide ('a' ≤ c) && decide (c ≤ 'f'))

/-- `_require_digest`. -/
def requireDigest (value : Option String) (label : String) : Except ContractError Unit :=
  require (value.all exactDigest) (label ++ " must be a sha256 digest")

/-- `_require_sha`. -/
def requireSha (value : String) (label : String) : Except ContractError Unit :=
  require (exactRevision value) (label ++ " must be an exact Git SHA")

/-- A set of values is built; one that a set cannot have raises a `TypeError`. -/
def requireHashable (values : List Json.Value) : Except ContractError Unit :=
  if values.all hashable then .ok () else .error .other

section Records

variable [AcceptanceLibrary]

/-- `_require_references`. -/
def requireReferences (references : List Json.Value) : Except ContractError Unit := do
  let message := "observed evidence references must be non-empty and unique"
  require (!references.isEmpty) message
  requireHashable references
  require (unique references && references.all truthy) message

/-! ## Records -/

/-- A text, or `None`, of a contract. -/
def optionalText (value : Option String) : Json.Value := (value.map .str).getD .null

/-- `__post_init__` of a release artifact. -/
def checkArtifact (component repository revision : String) (artifactDigest : Option String) :
    Except ContractError Unit := do
  require (component != "") "release component is required"
  require (isHttpsUrl repository) "release repository must be an HTTPS URL"
  requireSha revision "release revision"
  requireDigest artifactDigest "release artifact"

/-- `ReleaseArtifact`. -/
structure ReleaseArtifact where
  component : String
  repository : String
  revision : String
  artifactDigest : Option String
  checked : checkArtifact component repository revision artifactDigest = .ok ()

/-- `to_contract` of a release artifact. -/
def ReleaseArtifact.toContract (artifact : ReleaseArtifact) : Json.Value :=
  .obj [("component", .str artifact.component), ("repository", .str artifact.repository),
    ("revision", .str artifact.revision),
    ("artifactDigest", optionalText artifact.artifactDigest)]

/-- An endpoint is a credential reference with a name that is no path from the root. -/
def isCredentialReference (endpoint : String) : Bool :=
  let text := "credential-ref://"
  let name := endpoint.toList.drop text.length
  text.toList.isPrefixOf endpoint.toList && !name.isEmpty && name.head? != some '/'

/-- `__post_init__` of a live source. -/
def checkSource (sourceId connectorId : Json.Value) (endpointReference : String)
    (imageDigest : Option String) (liveVerified : Json.Value) (observedAt : Option ZonedTime)
    (references : List Json.Value) : Except ContractError Unit := do
  require (truthy sourceId && truthy connectorId)
    "live source and connector identities are required"
  require (isCredentialReference endpointReference) "live endpoints must use credential references"
  requireDigest imageDigest "source image"
  if truthy liveVerified then
    require (imageDigest.isSome && observedAt.isSome)
      "verified live sources require image digest and observation time"
    require (observedAt.all ZonedTime.aware)
      "live source observation time must be timezone-aware"
    requireReferences references
  else
    require (observedAt.isNone && references.isEmpty)
      "unverified live sources cannot carry observations"

/-- `LiveSourceTarget`. -/
structure LiveSourceTarget where
  sourceId : Json.Value
  shape : LiveSourceShape
  connectorId : Json.Value
  endpointReference : String
  imageDigest : Option String
  liveVerified : Json.Value
  observedAt : Option ZonedTime
  references : List Json.Value
  checked : checkSource sourceId connectorId endpointReference imageDigest liveVerified observedAt
    references = .ok ()

/-- `to_contract` of a live source. -/
def LiveSourceTarget.toContract (source : LiveSourceTarget) : Json.Value :=
  .obj [("sourceId", source.sourceId), ("shape", .str source.shape.value),
    ("connectorId", source.connectorId), ("endpointReference", .str source.endpointReference),
    ("imageDigest", optionalText source.imageDigest), ("liveVerified", source.liveVerified),
    ("observedAt", optionalText (source.observedAt.map ZonedTime.isoformat)),
    ("references", .arr source.references)]

/-- `__post_init__` of stage evidence. -/
def checkEvidence (stage : AcceptanceStage) (status : PlaneEvidenceStatus) (revision : String)
    (artifactDigest : Option String) (observedAt : ZonedTime) (references : List Json.Value) :
    Except ContractError Unit := do
  require (status = .passed || status = .failed)
    "stage evidence must be an observed pass or failure"
  requireSha revision "evidence revision"
  requireDigest artifactDigest "evidence artifact"
  require observedAt.aware "stage evidence time must be timezone-aware"
  requireReferences references
  require (!(stage ∈ AcceptanceStage.artifactRequired && artifactDigest.isNone))
    (stage.value ++ " evidence must bind an artifact digest")

/-- `StageEvidence`. -/
structure StageEvidence where
  component : String
  stage : AcceptanceStage
  status : PlaneEvidenceStatus
  revision : String
  artifactDigest : Option String
  observedAt : ZonedTime
  references : List Json.Value
  checked : checkEvidence stage status revision artifactDigest observedAt references = .ok ()

/-- `to_contract` of stage evidence. -/
def StageEvidence.toContract (item : StageEvidence) : Json.Value :=
  .obj [("component", .str item.component), ("stage", .str item.stage.value),
    ("status", .str item.status.value), ("revision", .str item.revision),
    ("artifactDigest", optionalText item.artifactDigest),
    ("observedAt", .str item.observedAt.isoformat), ("references", .arr item.references)]

omit [AcceptanceLibrary] in
/-- `__post_init__` of a cost boundary; its last loop looks at lists that are empty by then. -/
def checkBoundary (provisioningAuthorized : Json.Value)
    (resourcesCreated externalMutations : List Json.Value) : Except ContractError Unit := do
  require (!truthy provisioningAuthorized)
    "cloud or cluster provisioning is prohibited for local-only campaigns"
  require (resourcesCreated.isEmpty && externalMutations.isEmpty)
    "local-only campaign cannot record external resource mutations"

omit [AcceptanceLibrary] in
/-- `CostBoundary`. -/
structure CostBoundary where
  provisioningAuthorized : Json.Value
  resourcesCreated : List Json.Value
  externalMutations : List Json.Value
  checked : checkBoundary provisioningAuthorized resourcesCreated externalMutations = .ok ()

omit [AcceptanceLibrary] in
/-- `to_contract` of a cost boundary. -/
def CostBoundary.toContract (boundary : CostBoundary) : Json.Value :=
  .obj [("provisioningAuthorized", boundary.provisioningAuthorized),
    ("resourcesCreated", .arr boundary.resourcesCreated),
    ("externalMutations", .arr boundary.externalMutations)]

/-! ## Campaigns -/

omit [AcceptanceLibrary] in
/-- `f"{value}"` of a value that a set may have; the others have no text here. -/
def plainText : Json.Value → Except ContractError String
  | .null => .ok "None"
  | .bool true => .ok "True"
  | .bool false => .ok "False"
  | .int number =>
    if longInteger number then .error (.valueError longIntegerMessage) else .ok (toString number)
  | .float number => .ok (floatText number)
  | .str text => .ok text
  | .arr _ | .obj _ => .error .other

/-- The checks of one evidence item against the artifacts. -/
def checkBinding (artifacts : List ReleaseArtifact) (item : StageEvidence) :
    Except ContractError Unit :=
  match artifacts.find? fun artifact => artifact.component == item.component with
  | none => .error (.valueError "evidence component is outside the release set")
  | some artifact => do
    require (item.revision == artifact.revision)
      "evidence revision does not match the release set"
    require (item.artifactDigest == artifact.artifactDigest)
      "evidence artifact digest does not match the release set"

/-- `__post_init__` of a campaign. -/
def checkCampaign (campaignId releaseSet : Json.Value) (generatedAt : ZonedTime)
    (artifacts : List ReleaseArtifact) (sources : List LiveSourceTarget)
    (evidence : List StageEvidence) : Except ContractError Unit := do
  require (truthy campaignId && truthy releaseSet)
    "campaign and release-set identities are required"
  require generatedAt.aware "campaign generation time must be timezone-aware"
  let components := artifacts.map (·.component)
  require (decide components.Nodup && (components.all (· ∈ requiredAcceptanceComponents) &&
      requiredAcceptanceComponents.all (· ∈ components)))
    "campaign must contain exactly the four laptop-local components"
  let message := "campaign requires four unique representative live source shapes"
  let shapes : List LiveSourceShape := sources.map (·.shape)
  require (decide shapes.Nodup && LiveSourceShape.all.all (· ∈ shapes)) message
  requireHashable (sources.map (·.sourceId))
  require (unique (sources.map (·.sourceId))) message
  requireHashable (sources.map (·.connectorId))
  require (unique (sources.map (·.connectorId))) message
  require (decide (evidence.map fun item => (item.component, item.stage)).Nodup)
    "component/stage evidence must be unique"
  evidence.forM (checkBinding artifacts)

/-- `LiveAcceptanceCampaign`. -/
structure LiveAcceptanceCampaign where
  campaignId : Json.Value
  releaseSet : Json.Value
  generatedAt : ZonedTime
  artifacts : List ReleaseArtifact
  sources : List LiveSourceTarget
  evidence : List StageEvidence
  costBoundary : CostBoundary
  checked : checkCampaign campaignId releaseSet generatedAt artifacts sources evidence = .ok ()

namespace LiveAcceptanceCampaign

/-- `release_set_digest`. -/
def releaseSetDigest (campaign : LiveAcceptanceCampaign) : String :=
  digest (.arr ((campaign.artifacts.insertionSort (·.component ≤ ·.component)).map
    ReleaseArtifact.toContract))

/-- `evidence_by_key.get((component, stage))`: the last item of a key. -/
def evidenceByKey (campaign : LiveAcceptanceCampaign) (component : String)
    (stage : AcceptanceStage) : Option StageEvidence :=
  campaign.evidence.reverse.find? fun item => item.component = component && item.stage = stage

/-- What a stage of a component blocks with. -/
def stageBlocker (campaign : LiveAcceptanceCampaign) (component : String)
    (stage : AcceptanceStage) : Option String :=
  match campaign.evidenceByKey component stage with
  | none => some (component ++ ":" ++ stage.value ++ ":missing")
  | some item =>
    if item.status = .failed then some (component ++ ":" ++ stage.value ++ ":failed") else none

/-- What an artifact blocks with. -/
def artifactBlocker (artifact : ReleaseArtifact) : Option String :=
  if artifact.artifactDigest.isNone then some (artifact.component ++ ":artifact-digest-missing")
  else none

/-- What a source blocks with when something of it is missing. -/
def sourceBlocker (source : LiveSourceTarget) (missing : Bool) (label : String) :
    Except ContractError (List String) := do
  if missing then return [(← plainText source.sourceId) ++ label] else return []

/-- What a source blocks with. -/
def sourceBlockers (source : LiveSourceTarget) : Except ContractError (List String) := do
  let image ← sourceBlocker source source.imageDigest.isNone ":image-digest-missing"
  let verification ← sourceBlocker source (!truthy source.liveVerified)
    ":live-verification-missing"
  return image ++ verification

/-- `blockers`. -/
def blockers (campaign : LiveAcceptanceCampaign) : Except ContractError (List String) := do
  let artifacts := (campaign.artifacts.insertionSort (·.component ≤ ·.component)).filterMap
    artifactBlocker
  let sources ← (campaign.sources.insertionSort (·.shape.value ≤ ·.shape.value)).mapM
    sourceBlockers
  let stages := requiredAcceptanceComponents.flatMap fun component =>
    AcceptanceStage.all.filterMap (campaign.stageBlocker component)
  return artifacts ++ sources.flatten ++ stages

/-- `accepted`. -/
def accepted (campaign : LiveAcceptanceCampaign) : Except ContractError Bool := do
  return (← campaign.blockers).isEmpty

/-- `to_contract`, of the values it computes. -/
def contractOf (campaign : LiveAcceptanceCampaign) (accepted : Bool) (blockers : List String) :
    Json.Value :=
  .obj [("schemaVersion", .str "data.harness/v1"), ("campaignId", campaign.campaignId),
    ("releaseSet", campaign.releaseSet), ("releaseSetDigest", .str campaign.releaseSetDigest),
    ("generatedAt", .str campaign.generatedAt.isoformat),
    ("artifacts", .arr (campaign.artifacts.map ReleaseArtifact.toContract)),
    ("sources", .arr (campaign.sources.map LiveSourceTarget.toContract)),
    ("evidence", .arr (campaign.evidence.map StageEvidence.toContract)),
    ("costBoundary", campaign.costBoundary.toContract), ("accepted", .bool accepted),
    ("blockers", .arr (blockers.map .str))]

/-- `to_contract`. -/
def toContract (campaign : LiveAcceptanceCampaign) : Except ContractError Json.Value := do
  return campaign.contractOf (← campaign.accepted) (← campaign.blockers)

end LiveAcceptanceCampaign

/-! ## Reading contracts -/

omit [AcceptanceLibrary] in
/-- `value[key]`. -/
def readField (value : Json.Value) (key : String) : Except ContractError Json.Value :=
  present (value.get? key)

omit [AcceptanceLibrary] in
/-- A field that is a text: another value makes a check of its record or of the campaign raise. -/
def readText (value : Json.Value) (key : String) : Except ContractError String := do
  match (← readField value key) with
  | .str text => .ok text
  | _ => .error .other

omit [AcceptanceLibrary] in
/-- A field that is a text or `None`, in the same way. -/
def readOptional (value : Json.Value) (key : String) : Except ContractError (Option String) := do
  match (← readField value key) with
  | .null => .ok none
  | .str text => .ok (some text)
  | _ => .error .other

/-- `datetime.fromisoformat(value[key])`. -/
def readDatetime (value : Json.Value) (key : String) : Except ContractError ZonedTime := do
  present (ZonedTime.fromisoformat (← readText value key))

/-- `datetime.fromisoformat(value[key]) if value[key] is not None else None`. -/
def readObserved (value : Json.Value) (key : String) : Except ContractError (Option ZonedTime) := do
  match (← readOptional value key) with
  | some text => (present (ZonedTime.fromisoformat text)).map some
  | none => .ok none

omit [AcceptanceLibrary] in
/-- What iterating over `value[key]` gives. -/
def readItems (value : Json.Value) (key : String) : Except ContractError (List Json.Value) := do
  present (← readField value key).iterate

omit [AcceptanceLibrary] in
/-- A constructor that checks what it is given. -/
def checking {α : Type} (check : Except ContractError Unit) (build : check = .ok () → α) :
    Except ContractError α :=
  match check, build with
  | .ok (), build => .ok (build rfl)
  | .error error, _ => .error error

/-- `ReleaseArtifact` of an item. -/
def ReleaseArtifact.ofContract (item : Json.Value) : Except ContractError ReleaseArtifact := do
  let component ← readText item "component"
  let repository ← readText item "repository"
  let revision ← readText item "revision"
  let artifactDigest ← readOptional item "artifactDigest"
  checking _ fun checked => ⟨component, repository, revision, artifactDigest, checked⟩

/-- `LiveSourceTarget` of an item. -/
def LiveSourceTarget.ofContract (item : Json.Value) : Except ContractError LiveSourceTarget := do
  let sourceId ← readField item "sourceId"
  let shape ← present (LiveSourceShape.ofValue (← readText item "shape"))
  let connectorId ← readField item "connectorId"
  let endpointReference ← readText item "endpointReference"
  let imageDigest ← readOptional item "imageDigest"
  let liveVerified ← readField item "liveVerified"
  let observedAt ← readObserved item "observedAt"
  let references ← readItems item "references"
  checking _ fun checked => ⟨sourceId, shape, connectorId, endpointReference, imageDigest,
    liveVerified, observedAt, references, checked⟩

/-- `StageEvidence` of an item. -/
def StageEvidence.ofContract (item : Json.Value) : Except ContractError StageEvidence := do
  let component ← readText item "component"
  let stage ← present (AcceptanceStage.ofValue (← readText item "stage"))
  let status ← present (PlaneEvidenceStatus.ofValue (← readText item "status"))
  let revision ← readText item "revision"
  let artifactDigest ← readOptional item "artifactDigest"
  let observedAt ← readDatetime item "observedAt"
  let references ← readItems item "references"
  checking _ fun checked => ⟨component, stage, status, revision, artifactDigest, observedAt,
    references, checked⟩

omit [AcceptanceLibrary] in
/-- `CostBoundary` of a boundary. -/
def CostBoundary.ofContract (boundary : Json.Value) : Except ContractError CostBoundary := do
  let provisioningAuthorized ← readField boundary "provisioningAuthorized"
  let resourcesCreated ← readItems boundary "resourcesCreated"
  let externalMutations ← readItems boundary "externalMutations"
  checking _ fun checked => ⟨provisioningAuthorized, resourcesCreated, externalMutations, checked⟩

omit [AcceptanceLibrary] in
/-- `value.get(key) == texts` for a list of texts. -/
def sameTexts : Option Json.Value → List String → Bool
  | some (.arr items), texts => items.length == texts.length &&
      (items.zip texts).all fun pair => pair.1.isStr pair.2
  | _, _ => false

/-- The records of a contract. -/
def readRecords {α : Type} (ofContract : Json.Value → Except ContractError α) (value : Json.Value)
    (key : String) : Except ContractError (List α) := do
  (← readItems value key).mapM ofContract

/-- `from_contract`. -/
def LiveAcceptanceCampaign.fromContract (value : Json.Value) :
    Except ContractError LiveAcceptanceCampaign := do
  let artifacts ← readRecords ReleaseArtifact.ofContract value "artifacts"
  let sources ← readRecords LiveSourceTarget.ofContract value "sources"
  let evidence ← readRecords StageEvidence.ofContract value "evidence"
  let boundary ← readField value "costBoundary"
  let campaignId ← readField value "campaignId"
  let releaseSet ← readField value "releaseSet"
  let generatedAt ← readDatetime value "generatedAt"
  let costBoundary ← CostBoundary.ofContract boundary
  let campaign : LiveAcceptanceCampaign ← checking _ fun checked =>
    ⟨campaignId, releaseSet, generatedAt, artifacts, sources, evidence, costBoundary, checked⟩
  require ((value.get? "schemaVersion").any (·.isStr "data.harness/v1"))
    "unsupported live acceptance schema version"
  require ((value.get? "releaseSetDigest").any (·.isStr campaign.releaseSetDigest))
    "declared release-set digest does not match campaign artifacts"
  let accepted ← campaign.accepted
  require (match value.get? "accepted" with
      | some (.bool declared) => declared == accepted
      | _ => false)
    "declared acceptance does not match observed evidence"
  let blockers ← campaign.blockers
  require (sameTexts (value.get? "blockers") blockers)
    "declared blockers do not match observed evidence"
  return campaign

end Records

end DataHarness
