import DataHarness.Library.Loops
import DataHarness.Release.Campaign

/-!
# Contracts that cannot be forged

A campaign is read back from its contract exactly when each of its times has one offset from UTC.
What a contract that is accepted declares of its digest, its acceptance and its blockers is what its
own records give, and a campaign is accepted exactly when nothing it needs is missing.
-/

namespace DataHarness

variable [AcceptanceLibrary]

/-! ## Round trip -/

omit [AcceptanceLibrary] in
/-- A constructor builds what passes its check. -/
theorem checking_eq {α : Type} {check : Except ContractError Unit} {build : check = .ok () → α}
    (ran : check = .ok ()) : checking check build = .ok (build ran) := by
  subst ran
  rfl

omit [AcceptanceLibrary] in
/-- A constructor that builds a value passes its check. -/
theorem of_checking {α : Type} {check : Except ContractError Unit} {build : check = .ok () → α}
    {value : α} (built : checking check build = .ok value) : ∃ ran, build ran = value := by
  cases check with
  | ok done => exact ⟨rfl, Except.ok.inj built⟩
  | error error => cases built

omit [AcceptanceLibrary] in
/-- An optional text is read back. -/
theorem readOptional_eq {value : Json.Value} {key : String} {text : Option String}
    (found : value.get? key = some (optionalText text)) : readOptional value key = .ok text := by
  unfold readOptional readField
  rw [found]
  cases text with
  | none => rfl
  | some own => rfl

/-- A timestamp with one offset is read back. -/
theorem readDatetime_eq {value : Json.Value} {key : String} {time : ZonedTime}
    (settled : time.Settled) (found : value.get? key = some (.str time.isoformat)) :
    readDatetime value key = .ok time := by
  unfold readDatetime readText readField
  rw [found]
  show present (ZonedTime.fromisoformat time.isoformat) = .ok time
  rw [ZonedTime.fromisoformat_isoformat settled]
  rfl

/-- A timestamp that is read has one offset. -/
theorem settled_of_readDatetime {value : Json.Value} {key : String} {time : ZonedTime}
    (read : readDatetime value key = .ok time) : time.Settled := by
  obtain ⟨text, -, read⟩ := of_bind_ok read
  cases parsed : ZonedTime.fromisoformat text with
  | none =>
    rw [parsed] at read
    cases read
  | some own =>
    rw [parsed] at read
    rw [← Except.ok.inj read]
    exact ZonedTime.settled_of_fromisoformat parsed

/-- An optional timestamp with one offset is read back. -/
theorem readObserved_eq {value : Json.Value} {key : String} {observed : Option ZonedTime}
    (settled : ∀ time ∈ observed, time.Settled)
    (found : value.get? key = some (optionalText (observed.map ZonedTime.isoformat))) :
    readObserved value key = .ok observed := by
  unfold readObserved
  rw [readOptional_eq found]
  cases observed with
  | none => rfl
  | some time =>
    show (present (ZonedTime.fromisoformat time.isoformat)).map some = .ok (some time)
    rw [ZonedTime.fromisoformat_isoformat (settled time rfl)]
    rfl

/-- An optional timestamp that is read has one offset. -/
theorem settled_of_readObserved {value : Json.Value} {key : String} {observed : Option ZonedTime}
    (read : readObserved value key = .ok observed) : ∀ time ∈ observed, time.Settled := by
  obtain ⟨text, -, read⟩ := of_bind_ok read
  cases text with
  | none =>
    rw [← Except.ok.inj read]
    exact nofun
  | some text =>
    cases parsed : ZonedTime.fromisoformat text with
    | none =>
      simp only [parsed] at read
      cases read
    | some own =>
      simp only [parsed] at read
      rw [← Except.ok.inj read]
      rintro time ⟨⟩
      exact ZonedTime.settled_of_fromisoformat parsed

/-- A release artifact is read back from its contract. -/
theorem ReleaseArtifact.ofContract_toContract (artifact : ReleaseArtifact) :
    ofContract artifact.toContract = .ok artifact := by
  have component : readText artifact.toContract "component" = .ok artifact.component := rfl
  have repository : readText artifact.toContract "repository" = .ok artifact.repository := rfl
  have revision : readText artifact.toContract "revision" = .ok artifact.revision := rfl
  have digest : readOptional artifact.toContract "artifactDigest" = .ok artifact.artifactDigest :=
    readOptional_eq rfl
  unfold ofContract
  simp only [component, repository, revision, digest, bind, Except.bind]
  exact checking_eq artifact.checked

/-- A live source is read back from its contract if its time is. -/
theorem LiveSourceTarget.ofContract_toContract (source : LiveSourceTarget)
    (settled : ∀ time ∈ source.observedAt, time.Settled) :
    ofContract source.toContract = .ok source := by
  have sourceId : readField source.toContract "sourceId" = .ok source.sourceId := rfl
  have shape : readText source.toContract "shape" = .ok source.shape.value := rfl
  have connectorId : readField source.toContract "connectorId" = .ok source.connectorId := rfl
  have endpoint : readText source.toContract "endpointReference" = .ok source.endpointReference :=
    rfl
  have image : readOptional source.toContract "imageDigest" = .ok source.imageDigest :=
    readOptional_eq rfl
  have verified : readField source.toContract "liveVerified" = .ok source.liveVerified := rfl
  have observed : readObserved source.toContract "observedAt" = .ok source.observedAt :=
    readObserved_eq settled rfl
  have references : readItems source.toContract "references" = .ok source.references := rfl
  unfold ofContract
  simp only [sourceId, shape, connectorId, endpoint, image, verified, observed, references,
    LiveSourceShape.ofValue_value, present, bind, Except.bind]
  exact checking_eq source.checked

/-- A live source that is read has a time with one offset, or none. -/
theorem LiveSourceTarget.settled_of_ofContract {value : Json.Value} {source : LiveSourceTarget}
    (read : ofContract value = .ok source) : ∀ time ∈ source.observedAt, time.Settled := by
  obtain ⟨_, _, read⟩ := of_bind_ok read
  obtain ⟨_, _, read⟩ := of_bind_ok read
  obtain ⟨_, _, read⟩ := of_bind_ok read
  obtain ⟨_, _, read⟩ := of_bind_ok read
  obtain ⟨_, _, read⟩ := of_bind_ok read
  obtain ⟨_, _, read⟩ := of_bind_ok read
  obtain ⟨_, _, read⟩ := of_bind_ok read
  obtain ⟨_, observed, read⟩ := of_bind_ok read
  obtain ⟨_, _, read⟩ := of_bind_ok read
  obtain ⟨_, rfl⟩ := of_checking read
  exact settled_of_readObserved observed

/-- Stage evidence is read back from its contract if its time is. -/
theorem StageEvidence.ofContract_toContract (item : StageEvidence)
    (settled : item.observedAt.Settled) : ofContract item.toContract = .ok item := by
  have component : readText item.toContract "component" = .ok item.component := rfl
  have stage : readText item.toContract "stage" = .ok item.stage.value := rfl
  have status : readText item.toContract "status" = .ok item.status.value := rfl
  have revision : readText item.toContract "revision" = .ok item.revision := rfl
  have digest : readOptional item.toContract "artifactDigest" = .ok item.artifactDigest :=
    readOptional_eq rfl
  have observed : readDatetime item.toContract "observedAt" = .ok item.observedAt :=
    readDatetime_eq settled rfl
  have references : readItems item.toContract "references" = .ok item.references := rfl
  unfold ofContract
  simp only [component, stage, status, revision, digest, observed, references,
    AcceptanceStage.ofValue_value, PlaneEvidenceStatus.ofValue_value, present, bind, Except.bind]
  exact checking_eq item.checked

/-- Stage evidence that is read has a time with one offset. -/
theorem StageEvidence.settled_of_ofContract {value : Json.Value} {item : StageEvidence}
    (read : ofContract value = .ok item) : item.observedAt.Settled := by
  obtain ⟨_, _, read⟩ := of_bind_ok read
  obtain ⟨_, _, read⟩ := of_bind_ok read
  obtain ⟨_, _, read⟩ := of_bind_ok read
  obtain ⟨_, _, read⟩ := of_bind_ok read
  obtain ⟨_, _, read⟩ := of_bind_ok read
  obtain ⟨_, _, read⟩ := of_bind_ok read
  obtain ⟨_, _, read⟩ := of_bind_ok read
  obtain ⟨_, observed, read⟩ := of_bind_ok read
  obtain ⟨_, _, read⟩ := of_bind_ok read
  obtain ⟨_, rfl⟩ := of_checking read
  exact settled_of_readDatetime observed

omit [AcceptanceLibrary] in
/-- A cost boundary is read back from its contract. -/
theorem CostBoundary.ofContract_toContract (boundary : CostBoundary) :
    ofContract boundary.toContract = .ok boundary := by
  have authorized : readField boundary.toContract "provisioningAuthorized" =
      .ok boundary.provisioningAuthorized := rfl
  have created : readItems boundary.toContract "resourcesCreated" =
      .ok boundary.resourcesCreated := rfl
  have mutations : readItems boundary.toContract "externalMutations" =
      .ok boundary.externalMutations := rfl
  unfold ofContract
  simp only [authorized, created, mutations, bind, Except.bind]
  exact checking_eq boundary.checked

omit [AcceptanceLibrary] in
/-- Records that are each read back are read back together. -/
theorem readRecords_eq {α : Type} {ofContract : Json.Value → Except ContractError α}
    {toContract : α → Json.Value} {value : Json.Value} {key : String} {records : List α}
    (each : ∀ record ∈ records, ofContract (toContract record) = .ok record)
    (found : value.get? key = some (.arr (records.map toContract))) :
    readRecords ofContract value key = .ok records := by
  have whole : (records.map toContract).mapM ofContract = .ok records := by
    clear found
    induction records with
    | nil => rfl
    | cons record records ih =>
      rw [List.map_cons, List.mapM_cons, each record List.mem_cons_self,
        ih fun other member => each other (List.mem_cons_of_mem _ member)]
      rfl
  unfold readRecords readItems readField
  rw [found]
  exact whole

omit [AcceptanceLibrary] in
/-- Each record that is read is read from an item. -/
theorem ofContract_of_readRecords {α : Type} {ofContract : Json.Value → Except ContractError α}
    {value : Json.Value} {key : String} {records : List α}
    (read : readRecords ofContract value key = .ok records) :
    ∀ record ∈ records, ∃ item, ofContract item = .ok record := by
  obtain ⟨items, -, mapped⟩ := of_bind_ok read
  clear read
  induction items generalizing records with
  | nil =>
    rw [← Except.ok.inj mapped]
    exact nofun
  | cons item items ih =>
    rw [List.mapM_cons] at mapped
    obtain ⟨first, made, mapped⟩ := of_bind_ok mapped
    obtain ⟨rest, later, mapped⟩ := of_bind_ok mapped
    rw [← Except.ok.inj mapped]
    intro record member
    cases List.mem_cons.mp member with
    | inl same =>
      rw [same]
      exact ⟨item, made⟩
    | inr among => exact ih later record among

omit [AcceptanceLibrary] in
/-- A list of texts is the list of the same texts. -/
theorem sameTexts_self (texts : List String) :
    sameTexts (some (.arr (texts.map .str))) texts = true := by
  unfold sameTexts
  induction texts with
  | nil => rfl
  | cons text texts ih => simpa [Json.Value.isStr] using ih

omit [AcceptanceLibrary] in
/-- A value that equals a list of texts is that list. -/
theorem eq_of_sameTexts {value : Option Json.Value} {texts : List String}
    (same : sameTexts value texts = true) : value = some (.arr (texts.map .str)) := by
  unfold sameTexts at same
  split at same
  · rename_i items
    induction items generalizing texts with
    | nil =>
      cases texts with
      | nil => rfl
      | cons text texts => simp at same
    | cons item items ih =>
      cases texts with
      | nil => simp at same
      | cons text texts =>
        simp only [List.length_cons, List.zip_cons_cons, List.all_cons, Bool.and_eq_true,
          Json.isStr_iff, beq_iff_eq, Nat.add_right_cancel_iff] at same
        have later : some (Json.Value.arr items) = some (.arr (texts.map .str)) := by
          apply ih
          rw [Bool.and_eq_true, beq_iff_eq]
          exact ⟨same.1, same.2.2⟩
        rw [List.map_cons, same.2.1, Json.Value.arr.inj (Option.some.inj later)]
  · cases same

namespace LiveAcceptanceCampaign

/-- Each time of a campaign has one offset from UTC. -/
structure Settled (campaign : LiveAcceptanceCampaign) : Prop where
  generated : campaign.generatedAt.Settled
  sources : ∀ source ∈ campaign.sources, ∀ time ∈ source.observedAt, time.Settled
  evidence : ∀ item ∈ campaign.evidence, item.observedAt.Settled

/-- What `to_contract` shows are the values the campaign computes. -/
theorem of_toContract {campaign : LiveAcceptanceCampaign} {value : Json.Value}
    (written : campaign.toContract = .ok value) :
    ∃ accepted blockers, campaign.accepted = .ok accepted ∧ campaign.blockers = .ok blockers ∧
      value = campaign.contractOf accepted blockers := by
  obtain ⟨accepted, first, written⟩ := of_bind_ok written
  obtain ⟨blockers, second, written⟩ := of_bind_ok written
  exact ⟨accepted, blockers, first, second, (Except.ok.inj written).symm⟩

/-- A campaign whose times have one offset is read back from its contract. -/
theorem fromContract_toContract {campaign : LiveAcceptanceCampaign} {value : Json.Value}
    (settled : campaign.Settled) (written : campaign.toContract = .ok value) :
    fromContract value = .ok campaign := by
  obtain ⟨own, texts, acceptance, blocking, rfl⟩ := of_toContract written
  generalize shown : campaign.contractOf own texts = value
  have artifacts : readRecords ReleaseArtifact.ofContract value "artifacts" =
      .ok campaign.artifacts := by
    subst shown
    exact readRecords_eq (fun artifact _ => artifact.ofContract_toContract) rfl
  have sources : readRecords LiveSourceTarget.ofContract value "sources" =
      .ok campaign.sources := by
    subst shown
    exact readRecords_eq
      (fun source member => source.ofContract_toContract (settled.sources source member)) rfl
  have evidence : readRecords StageEvidence.ofContract value "evidence" =
      .ok campaign.evidence := by
    subst shown
    exact readRecords_eq
      (fun item member => item.ofContract_toContract (settled.evidence item member)) rfl
  have boundary : readField value "costBoundary" = .ok campaign.costBoundary.toContract := by
    subst shown
    rfl
  have campaignId : readField value "campaignId" = .ok campaign.campaignId := by
    subst shown
    rfl
  have releaseSet : readField value "releaseSet" = .ok campaign.releaseSet := by
    subst shown
    rfl
  have generatedAt : readDatetime value "generatedAt" = .ok campaign.generatedAt := by
    subst shown
    exact readDatetime_eq settled.generated rfl
  have digest : value.get? "releaseSetDigest" = some (.str campaign.releaseSetDigest) := by
    subst shown
    rfl
  have accepted : value.get? "accepted" = some (.bool own) := by
    subst shown
    rfl
  have blockers : value.get? "blockers" = some (.arr (texts.map .str)) := by
    subst shown
    rfl
  have version : value.get? "schemaVersion" = some (.str "data.harness/v1") := by
    subst shown
    rfl
  unfold fromContract
  simp only [artifacts, sources, evidence, boundary, campaignId, releaseSet, generatedAt,
    CostBoundary.ofContract_toContract, bind, Except.bind]
  rw [checking_eq campaign.checked]
  simp only [version, digest, accepted, blockers, acceptance, blocking, sameTexts_self, require,
    Option.any_some, Json.Value.isStr, beq_self_eq_true, if_true]
  rfl

/-- What a contract that is accepted declares is what its own records give. -/
structure Declares (value : Json.Value) (campaign : LiveAcceptanceCampaign) : Prop where
  artifacts : readRecords ReleaseArtifact.ofContract value "artifacts" = .ok campaign.artifacts
  sources : readRecords LiveSourceTarget.ofContract value "sources" = .ok campaign.sources
  evidence : readRecords StageEvidence.ofContract value "evidence" = .ok campaign.evidence
  releaseSetDigest : value.get? "releaseSetDigest" = some (.str campaign.releaseSetDigest)
  accepted : ∃ own, campaign.accepted = .ok own ∧ value.get? "accepted" = some (.bool own)
  blockers : ∃ own, campaign.blockers = .ok own ∧
    value.get? "blockers" = some (.arr (own.map .str))

/-- The campaign of an accepted contract is declared by it. -/
theorem declares_of_fromContract {value : Json.Value} {campaign : LiveAcceptanceCampaign}
    (read : fromContract value = .ok campaign) : Declares value campaign := by
  obtain ⟨artifacts, first, read⟩ := of_bind_ok read
  obtain ⟨sources, second, read⟩ := of_bind_ok read
  obtain ⟨evidence, third, read⟩ := of_bind_ok read
  obtain ⟨boundary, _, read⟩ := of_bind_ok read
  obtain ⟨campaignId, _, read⟩ := of_bind_ok read
  obtain ⟨releaseSet, _, read⟩ := of_bind_ok read
  obtain ⟨generatedAt, _, read⟩ := of_bind_ok read
  obtain ⟨costBoundary, _, read⟩ := of_bind_ok read
  obtain ⟨built, made, read⟩ := of_bind_ok read
  obtain ⟨checked, own⟩ := of_checking made
  obtain ⟨_, read⟩ := of_require read
  obtain ⟨digest, read⟩ := of_require read
  obtain ⟨accepted, acceptance, read⟩ := of_bind_ok read
  obtain ⟨declared, read⟩ := of_require read
  obtain ⟨blockers, blocking, read⟩ := of_bind_ok read
  obtain ⟨blocked, read⟩ := of_require read
  have same : built = campaign := Except.ok.inj read
  rw [same] at own digest acceptance blocking
  have artifactsOf : artifacts = campaign.artifacts := by rw [← own]
  have sourcesOf : sources = campaign.sources := by rw [← own]
  have evidenceOf : evidence = campaign.evidence := by rw [← own]
  refine ⟨?_, ?_, ?_, ?_, ?_, ?_⟩
  · rw [first, artifactsOf]
  · rw [second, sourcesOf]
  · rw [third, evidenceOf]
  · cases found : value.get? "releaseSetDigest" with
    | none =>
      rw [found] at digest
      cases digest
    | some text =>
      rw [found, Option.any_some, Json.isStr_iff] at digest
      rw [digest]
  · refine ⟨accepted, acceptance, ?_⟩
    cases found : value.get? "accepted" with
    | none =>
      rw [found] at declared
      cases declared
    | some flag =>
      rw [found] at declared
      cases flag with
      | bool own => rw [beq_iff_eq.mp declared]
      | _ => cases declared
  · exact ⟨blockers, blocking, eq_of_sameTexts blocked⟩

/-- The times of a campaign that is read have one offset each. -/
theorem settled_of_fromContract {value : Json.Value} {campaign : LiveAcceptanceCampaign}
    (read : fromContract value = .ok campaign) : campaign.Settled := by
  have declares := declares_of_fromContract read
  constructor
  · obtain ⟨_, _, read⟩ := of_bind_ok read
    obtain ⟨_, _, read⟩ := of_bind_ok read
    obtain ⟨_, _, read⟩ := of_bind_ok read
    obtain ⟨_, _, read⟩ := of_bind_ok read
    obtain ⟨_, _, read⟩ := of_bind_ok read
    obtain ⟨_, _, read⟩ := of_bind_ok read
    obtain ⟨generatedAt, generated, read⟩ := of_bind_ok read
    obtain ⟨_, _, read⟩ := of_bind_ok read
    obtain ⟨built, made, read⟩ := of_bind_ok read
    obtain ⟨_, rfl⟩ := of_checking made
    obtain ⟨_, read⟩ := of_require read
    obtain ⟨_, read⟩ := of_require read
    obtain ⟨_, _, read⟩ := of_bind_ok read
    obtain ⟨_, read⟩ := of_require read
    obtain ⟨_, _, read⟩ := of_bind_ok read
    obtain ⟨_, read⟩ := of_require read
    rw [← Except.ok.inj read]
    exact settled_of_readDatetime generated
  · intro source member
    obtain ⟨item, own⟩ := ofContract_of_readRecords declares.sources source member
    exact LiveSourceTarget.settled_of_ofContract own
  · intro item member
    obtain ⟨shown, own⟩ := ofContract_of_readRecords declares.evidence item member
    exact StageEvidence.settled_of_ofContract own

/-! ## Acceptance -/

/-- An evidence item is bound to the artifact of its component. -/
def Binds (artifact : ReleaseArtifact) (item : StageEvidence) : Prop :=
  item.component = artifact.component ∧ item.revision = artifact.revision ∧
    item.artifactDigest = artifact.artifactDigest

/-- A stage of a component was passed by what the campaign releases. -/
def Passed (campaign : LiveAcceptanceCampaign) (component : String) (stage : AcceptanceStage) :
    Prop :=
  ∃ item ∈ campaign.evidence, item.component = component ∧ item.stage = stage ∧
    item.status = .passed ∧ ∃ artifact ∈ campaign.artifacts, Binds artifact item

/-- Nothing that a release needs is missing. -/
structure Complete (campaign : LiveAcceptanceCampaign) : Prop where
  released : ∀ artifact ∈ campaign.artifacts, artifact.artifactDigest ≠ none
  verified : ∀ source ∈ campaign.sources,
    source.imageDigest ≠ none ∧ truthy source.liveVerified = true
  passed : ∀ component ∈ requiredAcceptanceComponents, ∀ stage, Passed campaign component stage

omit [AcceptanceLibrary] in
/-- Checks of all items that pass have each passed. -/
theorem of_forM {α : Type} {check : α → Except ContractError Unit} {items : List α}
    (ran : items.forM check = .ok ()) : ∀ item ∈ items, check item = .ok () := by
  induction items with
  | nil => simp
  | cons first rest ih =>
    have steps : (check first >>= fun _ => rest.forM check) = .ok () := ran
    obtain ⟨done, passed, later⟩ := of_bind_ok steps
    intro item member
    cases List.mem_cons.mp member with
    | inl same =>
      rw [same]
      exact passed
    | inr among => exact ih later item among

/-- An item that passes the check of its binding is bound to one of the artifacts. -/
theorem binds_of_checkBinding {artifacts : List ReleaseArtifact} {item : StageEvidence}
    (ran : checkBinding artifacts item = .ok ()) : ∃ artifact ∈ artifacts, Binds artifact item := by
  unfold checkBinding at ran
  cases found : artifacts.find? fun artifact => artifact.component == item.component with
  | none =>
    rw [found] at ran
    cases ran
  | some artifact =>
    rw [found] at ran
    obtain ⟨revision, ran⟩ := of_require ran
    have digest := require_eq_ok.mp ran
    have component := List.find?_some found
    refine ⟨artifact, List.mem_of_find?_eq_some found, ?_, ?_, ?_⟩
    · exact (beq_iff_eq.mp component).symm
    · exact beq_iff_eq.mp revision
    · exact beq_iff_eq.mp digest

/-- What the constructor of a campaign leaves of its evidence. -/
theorem evidence_checked (campaign : LiveAcceptanceCampaign) :
    (campaign.evidence.map fun item => (item.component, item.stage)).Nodup ∧
      ∀ item ∈ campaign.evidence, ∃ artifact ∈ campaign.artifacts, Binds artifact item := by
  obtain ⟨_, ran⟩ := of_require campaign.checked
  obtain ⟨_, ran⟩ := of_require ran
  obtain ⟨_, ran⟩ := of_require ran
  obtain ⟨_, ran⟩ := of_require ran
  obtain ⟨_, _, ran⟩ := of_bind_ok ran
  obtain ⟨_, ran⟩ := of_require ran
  obtain ⟨_, _, ran⟩ := of_bind_ok ran
  obtain ⟨_, ran⟩ := of_require ran
  obtain ⟨distinct, ran⟩ := of_require ran
  constructor
  · exact of_decide_eq_true distinct
  · intro item member
    exact binds_of_checkBinding (of_forM ran item member)

/-- Stage evidence is a pass or a failure. -/
theorem passed_or_failed (item : StageEvidence) : item.status = .passed ∨ item.status = .failed := by
  obtain ⟨observed, _⟩ := of_require item.checked
  simpa using observed

/-- The item of a key is the only one of that key. -/
theorem evidenceByKey_eq_some {campaign : LiveAcceptanceCampaign} {component : String}
    {stage : AcceptanceStage} {item : StageEvidence} :
    campaign.evidenceByKey component stage = some item ↔
      item ∈ campaign.evidence ∧ item.component = component ∧ item.stage = stage := by
  constructor
  · intro found
    have key := List.find?_some found
    have member := List.mem_of_find?_eq_some found
    exact ⟨List.mem_reverse.mp member, by simpa using key⟩
  · intro ⟨member, own, at_stage⟩
    unfold evidenceByKey
    cases found : campaign.evidence.reverse.find? fun item =>
        item.component = component && item.stage = stage with
    | none =>
      have absent := List.find?_eq_none.mp found item (List.mem_reverse.mpr member)
      simp [own, at_stage] at absent
    | some other =>
      have key := List.find?_some found
      have among := List.mem_reverse.mp (List.mem_of_find?_eq_some found)
      simp only [Bool.and_eq_true, decide_eq_true_eq] at key
      have same := List.inj_on_of_nodup_map campaign.evidence_checked.1 among member
        (by rw [key.1, key.2, own, at_stage])
      rw [same]

/-- A stage that does not block was passed. -/
theorem stageBlocker_eq_none {campaign : LiveAcceptanceCampaign} {component : String}
    {stage : AcceptanceStage} :
    campaign.stageBlocker component stage = none ↔ Passed campaign component stage := by
  unfold stageBlocker
  constructor
  · intro clear
    cases found : campaign.evidenceByKey component stage with
    | none =>
      rw [found] at clear
      cases clear
    | some item =>
      rw [found] at clear
      obtain ⟨member, own, at_stage⟩ := evidenceByKey_eq_some.mp found
      refine ⟨item, member, own, at_stage, ?_, campaign.evidence_checked.2 item member⟩
      apply (passed_or_failed item).resolve_right
      intro failed
      simp [failed] at clear
  · intro ⟨item, member, own, at_stage, passed, _⟩
    rw [evidenceByKey_eq_some.mpr ⟨member, own, at_stage⟩]
    simp [passed]

/-- A source blocks with nothing exactly when its image is known and it is verified. -/
theorem sourceBlockers_eq_nil {source : LiveSourceTarget} :
    sourceBlockers source = .ok [] ↔
      source.imageDigest ≠ none ∧ truthy source.liveVerified = true := by
  have labelled : ∀ missing label, (∃ texts, sourceBlocker source missing label = .ok texts ∧
      texts = []) ↔ missing = false := by
    intro missing label
    unfold sourceBlocker
    cases missing with
    | false => exact ⟨fun _ => rfl, fun _ => ⟨[], rfl, rfl⟩⟩
    | true =>
      refine ⟨?_, nofun⟩
      rintro ⟨texts, ran, rfl⟩
      obtain ⟨name, -, ran⟩ := of_bind_ok ran
      cases ran
  have both : sourceBlockers source = .ok [] ↔
      source.imageDigest.isNone = false ∧ (!truthy source.liveVerified) = false := by
    rw [← labelled source.imageDigest.isNone ":image-digest-missing",
      ← labelled (!truthy source.liveVerified) ":live-verification-missing"]
    constructor
    · intro ran
      obtain ⟨image, first, ran⟩ := of_bind_ok ran
      obtain ⟨verification, second, ran⟩ := of_bind_ok ran
      obtain ⟨rfl, rfl⟩ := List.append_eq_nil_iff.mp (Except.ok.inj ran)
      exact ⟨⟨[], first, rfl⟩, [], second, rfl⟩
    · rintro ⟨⟨image, first, rfl⟩, verification, second, rfl⟩
      unfold sourceBlockers
      rw [first, second]
      rfl
  rw [both]
  simp [Option.isNone_eq_false_iff, Option.isSome_iff_ne_none]

/-- Sources block with nothing exactly when none of them blocks. -/
theorem mapM_sourceBlockers {sources : List LiveSourceTarget} :
    (∃ lists, sources.mapM sourceBlockers = .ok lists ∧ lists.flatten = []) ↔
      ∀ source ∈ sources, sourceBlockers source = .ok [] := by
  induction sources with
  | nil => exact ⟨nofun, fun _ => ⟨[], rfl, rfl⟩⟩
  | cons source sources ih =>
    rw [List.forall_mem_cons, ← ih, List.mapM_cons]
    constructor
    · rintro ⟨lists, ran, empty⟩
      obtain ⟨first, own, ran⟩ := of_bind_ok ran
      obtain ⟨rest, later, ran⟩ := of_bind_ok ran
      rw [← Except.ok.inj ran, List.flatten_cons, List.append_eq_nil_iff] at empty
      rw [empty.1] at own
      exact ⟨own, rest, later, empty.2⟩
    · rintro ⟨own, rest, later, empty⟩
      refine ⟨[] :: rest, ?_, empty⟩
      rw [own, later]
      rfl

/-- A campaign is accepted exactly when nothing that a release needs is missing. -/
theorem accepted_iff (campaign : LiveAcceptanceCampaign) :
    campaign.accepted = .ok true ↔ Complete campaign := by
  have artifacts : (campaign.artifacts.insertionSort (·.component ≤ ·.component)).filterMap
      artifactBlocker = [] ↔ ∀ artifact ∈ campaign.artifacts, artifact.artifactDigest ≠ none := by
    simp only [List.filterMap_eq_nil_iff, List.mem_insertionSort, artifactBlocker]
    simp
  have sources : (∃ lists, (campaign.sources.insertionSort
      (·.shape.value ≤ ·.shape.value)).mapM sourceBlockers = .ok lists ∧ lists.flatten = []) ↔
        ∀ source ∈ campaign.sources,
          source.imageDigest ≠ none ∧ truthy source.liveVerified = true := by
    simp only [mapM_sourceBlockers, List.mem_insertionSort, sourceBlockers_eq_nil]
  have stages : (requiredAcceptanceComponents.flatMap fun component =>
      AcceptanceStage.all.filterMap (campaign.stageBlocker component)) = [] ↔
        ∀ component ∈ requiredAcceptanceComponents, ∀ stage, Passed campaign component stage := by
    simp only [List.flatMap_eq_nil_iff, List.filterMap_eq_nil_iff, AcceptanceStage.mem_all,
      forall_const, stageBlocker_eq_none]
  constructor
  · intro ran
    obtain ⟨texts, ran, empty⟩ := of_bind_ok ran
    obtain ⟨lists, own, ran⟩ := of_bind_ok ran
    have nothing := List.isEmpty_iff.mp (Except.ok.inj empty)
    rw [← Except.ok.inj ran, List.append_eq_nil_iff, List.append_eq_nil_iff] at nothing
    exact ⟨artifacts.mp nothing.1.1, sources.mp ⟨lists, own, nothing.1.2⟩, stages.mp nothing.2⟩
  · intro complete
    obtain ⟨lists, own, empty⟩ := sources.mpr complete.verified
    unfold accepted blockers
    rw [own]
    simp only [bind, Except.bind, pure, Except.pure]
    rw [artifacts.mpr complete.released, empty, stages.mpr complete.passed]
    rfl

/-- A contract that can be written is read back as its campaign exactly when each time of the
campaign has one offset; contracts declare only what their own records give, and a campaign is
accepted exactly when nothing that a release needs is missing. -/
theorem contract_unforged :
    (∀ (campaign : LiveAcceptanceCampaign) (value : Json.Value),
      campaign.toContract = .ok value →
        (fromContract value = .ok campaign ↔ campaign.Settled)) ∧
      (∀ value campaign, fromContract value = .ok campaign → Declares value campaign) ∧
      ∀ campaign : LiveAcceptanceCampaign, campaign.accepted = .ok true ↔ Complete campaign :=
  ⟨fun _ _ written => ⟨settled_of_fromContract, fun settled =>
      fromContract_toContract settled written⟩,
    fun _ _ read => declares_of_fromContract read, accepted_iff⟩

/-! ## A campaign before any evidence -/

omit [AcceptanceLibrary] in
/-- The four components and the four shapes, with nothing observed. -/
def planned : letI := AcceptanceLibrary.transparent; LiveAcceptanceCampaign :=
  letI := AcceptanceLibrary.transparent
  let revision := "0123456789abcdef0123456789abcdef01234567"
  let artifact (component : String)
      (ran : (checkArtifact component "https://git.local" revision none).toBool = true) :
      ReleaseArtifact := ⟨component, "https://git.local", revision, none, passes ran⟩
  let source (name : String) (shape : LiveSourceShape)
      (ran : (checkSource (.str name) (.str name) "credential-ref://local" none (.bool false) none
        []).toBool = true) : LiveSourceTarget :=
    ⟨.str name, shape, .str name, "credential-ref://local", none, .bool false, none, [],
      passes ran⟩
  { campaignId := .str "laptop"
    releaseSet := .str "planned"
    generatedAt := .settled noon
    artifacts :=
      [artifact "ADLC" (by decide +kernel), artifact "Python-SDK" (by decide +kernel),
        artifact "data-source-harness" (by decide +kernel),
        artifact "model-plane" (by decide +kernel)]
    sources :=
      [source "tables" .postgresql (by decide +kernel),
        source "files" .s3Compatible (by decide +kernel),
        source "events" .kafkaCompatible (by decide +kernel),
        source "calls" .rest (by decide +kernel)]
    evidence := []
    costBoundary := ⟨.bool false, [], [], rfl⟩
    checked := passes (by decide +kernel) }

omit [AcceptanceLibrary] in
/-- Its contract can be written. -/
theorem planned_written :
    letI := AcceptanceLibrary.transparent
    ∃ value, planned.toContract = .ok value := by
  let library := AcceptanceLibrary.transparent
  have ran : planned.blockers.toBool = true := by decide +kernel
  unfold toContract accepted
  cases blocked : planned.blockers with
  | error error =>
    rw [blocked] at ran
    cases ran
  | ok texts => exact ⟨_, rfl⟩

omit [AcceptanceLibrary] in
/-- Its times have one offset. -/
theorem planned_settled :
    letI := AcceptanceLibrary.transparent
    planned.Settled := by
  let library := AcceptanceLibrary.transparent
  refine ⟨⟨noon, rfl⟩, fun source member time observed => ?_, nofun⟩
  simp only [planned, List.mem_cons, List.not_mem_nil, or_false] at member
  rcases member with rfl | rfl | rfl | rfl <;> cases observed

omit [AcceptanceLibrary] in
/-- The contract of a campaign without evidence is read back, and it is not accepted. -/
theorem contract_unforged_planned :
    letI := AcceptanceLibrary.transparent
    ∃ value, planned.toContract = .ok value ∧ fromContract value = .ok planned ∧
      planned.accepted = .ok false ∧ ¬ Complete planned := by
  let library := AcceptanceLibrary.transparent
  have unforged := @contract_unforged library
  have blocked : planned.accepted = .ok false := by
    have told : planned.accepted.toOption = some false := by decide +kernel
    cases own : planned.accepted with
    | error error =>
      rw [own] at told
      cases told
    | ok flag =>
      rw [own] at told
      rw [Option.some.inj told]
  obtain ⟨value, written⟩ := planned_written
  refine ⟨value, written, (unforged.1 planned value written).mpr planned_settled, blocked, ?_⟩
  intro complete
  have done := (unforged.2.2 planned).mpr complete
  rw [blocked] at done
  cases done

omit [AcceptanceLibrary] in
/-- The same campaign, generated at 02:30 in Berlin on the day of 2024 its clocks went back. -/
def repeatedHour : letI := AcceptanceLibrary.transparent; LiveAcceptanceCampaign :=
  letI := AcceptanceLibrary.transparent
  { planned with
    generatedAt := .repeated 1729989000000000 7200000000
    checked := planned.checked }

omit [AcceptanceLibrary] in
/-- That campaign is read back with another time of generation, so that it is not itself. -/
theorem contract_repeated_hour :
    letI := AcceptanceLibrary.transparent
    ∃ value read, repeatedHour.toContract = .ok value ∧ fromContract value = .ok read ∧
      read.generatedAt = .settled ⟨1729989000000000, some 7200000000⟩ ∧ read ≠ repeatedHour := by
  let library := AcceptanceLibrary.transparent
  let read : LiveAcceptanceCampaign :=
    { planned with
      generatedAt := .settled ⟨1729989000000000, some 7200000000⟩
      checked := planned.checked }
  have written : ∃ value, read.toContract = .ok value := by
    obtain ⟨value, shown⟩ := planned_written
    obtain ⟨accepted, blockers, first, second, -⟩ := of_toContract shown
    refine ⟨read.contractOf accepted blockers, ?_⟩
    unfold toContract
    rw [show read.accepted = .ok accepted from first, show read.blockers = .ok blockers from second]
    rfl
  obtain ⟨value, written⟩ := written
  have settled : read.Settled :=
    ⟨⟨_, rfl⟩, planned_settled.sources, planned_settled.evidence⟩
  refine ⟨value, read, written, fromContract_toContract settled written, rfl, fun same => ?_⟩
  have times : read.generatedAt = repeatedHour.generatedAt := by rw [same]
  cases times

end LiveAcceptanceCampaign

end DataHarness
