import DataHarness.Release.RoundTrip

/-!
# What is verified is authentic

Somebody who cannot forge a signature presents an archive. When it is verified, the text that its
documents were signed as is that of an earlier build, so the documents are those of the build up to
the order of their keys: they list the same digests, and the entries have them.
-/

namespace DataHarness

variable [PackageLibrary]

/-- The signature that an archive carries verifies for no documents but those of a build. -/
def UnforgedArchive (content : Bytes) (signer : ArtifactSigner) (calls : List PackageRequest) : Prop :=
  ∀ infos manifest sbom signature value, readZip content = some infos →
    readDocument infos manifestPath = .ok manifest → readDocument infos sbomPath = .ok sbom →
      readDocument infos signaturePath = .ok signature → signature.get? "value" = some value →
        signer.verify (signedText manifest sbom) value = some true →
          ∃ call ∈ calls, call.Accepted ∧ call.signedText = signedText manifest sbom

/-- What a manifest lists under a path. -/
def listedDigest (manifest : Json.Value) (path : String) : Option Json.Value :=
  (manifest.get? "files").bind fun files => files.get? path

/-- What a bill of materials lists under a path. -/
def componentDigest (sbom : Json.Value) (path : String) : Option Json.Value :=
  (sbomFiles sbom).bind fun files => lastNamed files path

omit [PackageLibrary] in
/-- What is found under a name by a test is one of the texts. -/
theorem listed_of_sameFiles {found : List (Json.Value × Json.Value)}
    {digests : List (String × String)} (covered : sameFiles found digests = true)
    {file : String × String} (member : file ∈ digests) :
    lastNamed found file.1 = some (.str file.2) := by
  unfold sameFiles at covered
  rw [Bool.and_eq_true, List.all_eq_true, List.all_eq_true] at covered
  obtain ⟨value, last, equal⟩ := (Option.any_eq_true _ _).mp (covered.2 file member)
  rw [last, Json.isStr_iff.mp equal]

namespace PackageReading.Verified

variable {reading : PackageReading} {content : Bytes} {signer : ArtifactSigner}
  {limits : ArchiveLimits}

/-- Every listed file is read, and has the digest that is listed for it. -/
theorem file (verified : reading.Verified content signer limits) {path : String}
    {listed : Json.Value} (member : (path, listed) ∈ reading.files) :
    ∃ payload, readEntry reading.infos path = .ok payload ∧
      listed = .str (sha256Bytes payload) ∧ (path, sha256Bytes payload) ∈ reading.digests := by
  have each := Loops.forall₂_of_mapM verified.digests
  obtain ⟨index, bound, same⟩ := List.getElem_of_mem member
  have inside : index < reading.digests.length := each.length_eq ▸ bound
  have checked := (List.forall₂_iff_get.mp each).2 index bound inside
  rw [List.get_eq_getElem, same, checkFile_iff] at checked
  obtain ⟨payload, read, digest, pair⟩ := checked
  refine ⟨payload, read, digest, ?_⟩
  rw [← pair]
  exact List.get_mem _ _

/-- An entry that is no metadata is listed with its digest, in both documents. -/
theorem entry (verified : reading.Verified content signer limits) {item : ZipInfo}
    (member : item ∈ reading.infos) (plain : item.filename ∉ metadataPaths) :
    ∃ payload, item.content = some payload ∧
      (item.filename, .str (sha256Bytes payload)) ∈ reading.files ∧
        listedDigest reading.manifest item.filename = some (.str (sha256Bytes payload)) ∧
          componentDigest reading.sbom item.filename = some (.str (sha256Bytes payload)) := by
  have named := (verified.names item.filename).mp (List.mem_map.mpr ⟨item, member, rfl⟩)
  obtain ⟨file, inside, same⟩ := List.mem_map.mp (named.resolve_right plain)
  obtain ⟨object, field, members⟩ := Option.bind_eq_some_iff.mp verified.files
  have object_eq : object = .obj reading.files := by
    cases object with
    | obj own => exact congrArg _ (Option.some.inj members)
    | _ => cases members
  obtain ⟨first, looked⟩ : ∃ value, reading.files.lookup item.filename = some value :=
    Table.exists_lookup (same ▸ inside : (item.filename, file.2) ∈ reading.files)
  obtain ⟨payload, read, digest, checked⟩ := verified.file (Table.mem_of_lookup looked)
  obtain ⟨other, among, name, own⟩ := (readEntry_iff verified.distinct).mp read
  have equal : other = item := List.inj_on_of_nodup_map verified.distinct among member name
  have manifest : listedDigest reading.manifest item.filename =
      some (.str (sha256Bytes payload)) := by
    unfold listedDigest
    rw [field, object_eq, Option.bind_some]
    exact looked.trans (congrArg some digest)
  have sbom : componentDigest reading.sbom item.filename = some (.str (sha256Bytes payload)) := by
    unfold componentDigest
    rw [verified.found, Option.bind_some]
    exact listed_of_sameFiles verified.covered checked
  exact ⟨payload, equal ▸ own, digest ▸ Table.mem_of_lookup looked, manifest, sbom⟩

/-- The documents of an archive that is not forged are those of a build: its files have the digests
that the archive lists. -/
theorem exists_build (verified : reading.Verified content signer limits)
    {calls : List PackageRequest} (unforged : UnforgedArchive content signer calls) :
    ∃ call ∈ calls, call.Accepted ∧ ∀ path digest,
      (path, Json.Value.str digest) ∈ reading.files ↔ (path, digest) ∈ call.fileDigests := by
  obtain ⟨call, made, accepted, text⟩ := unforged _ _ _ _ _ verified.archive verified.manifest
    verified.sbom verified.signature verified.value verified.valid
  obtain ⟨manifest, -⟩ := Json.lines_injective text
  obtain ⟨object, field, members⟩ := Option.bind_eq_some_iff.mp verified.files
  have object_eq : object = .obj reading.files := by
    cases object with
    | obj own => exact congrArg _ (Option.some.inj members)
    | _ => cases members
  obtain ⟨other, listed, same⟩ := Json.member_of_canonical manifest.symm field
  have other_eq : other = .obj (call.fileDigests.map fun file => (file.1, .str file.2)) := by
    simpa [PackageRequest.manifest] using listed
  rw [object_eq, other_eq] at same
  refine ⟨call, made, accepted, fun path digest => ?_⟩
  rw [Json.str_members_iff same, List.mem_map]
  constructor
  · rintro ⟨file, inside, equal⟩
    obtain ⟨rfl, value⟩ := Prod.mk.inj equal
    rwa [← Json.Value.str.inj value]
  · intro inside
    exact ⟨(path, digest), inside, rfl⟩

end PackageReading.Verified

/-- An archive that is verified, and whose signature is not forged, has no name twice and is within
the limits. It carries every file of an earlier build with the same signer, and its entries that are
no metadata are files of that build; each is listed in both documents with its own digest. -/
theorem verified_authentic (content : Bytes) (signer : ArtifactSigner) (limits : ArchiveLimits)
    (calls : List PackageRequest) {digest : String} (injective : Sha256BytesInjective)
    (unforged : UnforgedArchive content signer calls)
    (accepted : verifySignedPackage content signer limits = .ok digest) :
    ∃ infos manifest sbom, readZip content = some infos ∧
      readDocument infos manifestPath = .ok manifest ∧ readDocument infos sbomPath = .ok sbom ∧
      (infos.map ZipInfo.filename).Nodup ∧ WithinLimits limits infos ∧
      (∀ item ∈ infos, item.filename ∉ metadataPaths → ∃ payload, item.content = some payload ∧
        listedDigest manifest item.filename = some (.str (sha256Bytes payload)) ∧
          componentDigest sbom item.filename = some (.str (sha256Bytes payload))) ∧
      ∃ call ∈ calls, call.Accepted ∧
        (∀ path payload, call.files.get? path = some payload →
          ∃ item ∈ infos, item.filename = path ∧ item.content = some payload) ∧
        ∀ item ∈ infos, item.filename ∉ metadataPaths →
          ∃ payload, item.content = some payload ∧
            call.files.get? item.filename = some payload := by
  obtain ⟨-, reading, verified⟩ := verifySignedPackage_iff.mp accepted
  obtain ⟨call, made, fine, digests⟩ := verified.exists_build unforged
  refine ⟨_, _, _, verified.archive, verified.manifest, verified.sbom, verified.distinct,
    verified.within, ?_, call, made, fine, ?_, ?_⟩
  · intro item member plain
    obtain ⟨payload, own, -, manifest, sbom⟩ := verified.entry member plain
    exact ⟨payload, own, manifest, sbom⟩
  · intro path payload given
    have listed := (digests path _).mpr (call.mem_fileDigests.mpr ⟨payload, given, rfl⟩)
    obtain ⟨other, read, same, -⟩ := verified.file listed
    rw [injective (Json.Value.str.inj same)]
    exact (readEntry_iff verified.distinct).mp read
  · intro item member plain
    obtain ⟨payload, own, listed, -⟩ := verified.entry member plain
    obtain ⟨other, given, same⟩ := call.mem_fileDigests.mp ((digests _ _).mp listed)
    exact ⟨payload, own, injective same ▸ given⟩

omit [PackageLibrary] in
/-- A package of two files that was built is verified, and carries these files. -/
theorem verified_authentic_small : letI := PackageLibrary.transparent
    ∃ content digest limits,
      verifySignedPackage content .transparent limits = .ok digest ∧
      ∃ infos, readZip content = some infos ∧
        (∃ item ∈ infos, item.filename = "connector.py" ∧ item.content = some [1, 2]) ∧
        ∃ item ∈ infos, item.filename = "policy.py" ∧ item.content = some [3] := by
  let := PackageLibrary.transparent
  obtain ⟨content, digest, infos, built, shipped, within⟩ :=
    transparent_build plainFiles (by decide) .transparent
  have plain : ∀ path ∈ metadataPaths, path ∉ plainFiles.files.keys := by decide
  have verified := shipped.verified (Shipped.undisturbed_of_plain plain)
    (ArtifactSigner.transparent_correct _) within
  have accepted := verifySignedPackage_iff.mpr ⟨rfl, _, verified⟩
  have unforged : UnforgedArchive content .transparent [plainFiles] := by
    intro others manifest sbom signature value archive first second _ _ _
    obtain rfl : infos = others := Option.some.inj (shipped.archive.symm.trans archive)
    obtain rfl := Except.ok.inj (shipped.manifest.symm.trans first)
    obtain rfl := Except.ok.inj (shipped.sbom.symm.trans second)
    refine ⟨_, List.mem_singleton_self _, by decide, ?_⟩
    rw [signedText, Json.dumps_canonical, Json.dumps_canonical]
    rfl
  obtain ⟨others, manifest, sbom, archive, -, -, -, -, -, call, made, -, files, -⟩ :=
    verified_authentic content .transparent _ _ PackageLibrary.transparent_sha256 unforged accepted
  obtain rfl := List.mem_singleton.mp made
  exact ⟨content, _, _, accepted, others, archive, files "connector.py" [1, 2] rfl,
    files "policy.py" [3] rfl⟩

omit [PackageLibrary] in
/-- A signer that keeps the texts it signed, and verifies one value for them. -/
def ArtifactSigner.registry (texts : List String) : ArtifactSigner where
  keyId := "k"
  algorithm := "registry"
  sign _ := "signed"
  verify text value := some (value.isStr "signed" && texts.contains text)

/-- A package of one file, which is the signature document that the registry writes. -/
def ownSignature : PackageRequest where
  files := ⟨[(signaturePath, dumpsIndented ((ArtifactSigner.registry []).document ""))], by simp⟩
  componentName := "lab"
  componentVersion := "1.0.0"
  dependencies := none

omit [PackageLibrary] in
/-- The registry writes one document for every text. -/
theorem ArtifactSigner.document_registry (texts : List String) (text : String) :
    (ArtifactSigner.registry texts).document text = (ArtifactSigner.registry []).document "" :=
  rfl

omit [PackageLibrary] in
/-- A verified archive need not have the files of an earlier build as its entries that are no
metadata: a file of the build may be the very entry that the builder puts under its name. -/
theorem verified_own_signature : letI := PackageLibrary.transparent
    ∃ content digest infos limits,
      let signer := ArtifactSigner.registry [ownSignature.signedText]
      (∀ text value, signer.verify text value = some true →
        ∃ call ∈ [ownSignature], call.Accepted ∧ call.signedText = text) ∧
      verifySignedPackage content signer limits = .ok digest ∧ readZip content = some infos ∧
      ∀ call ∈ [ownSignature], ¬ ∀ path payload, call.files.get? path = some payload ↔
        path ∉ metadataPaths ∧ readEntry infos path = .ok payload := by
  let := PackageLibrary.transparent
  have relative : (ownSignature).Accepted := by
    refine ⟨List.cons_ne_nil _ _, ?_⟩
    intro path member
    obtain rfl : path = signaturePath := by simpa [ownSignature, Dict.keys] using member
    decide
  obtain ⟨content, digest, infos, built, shipped, within⟩ :=
    transparent_build ownSignature relative (.registry [ownSignature.signedText])
  have undisturbed : Shipped.Undisturbed ownSignature (.registry [ownSignature.signedText]) := by
    intro path payload entry given put
    obtain ⟨rfl, rfl⟩ : path = signaturePath ∧
        payload = dumpsIndented ((ArtifactSigner.registry []).document "") := by
      simpa [ownSignature] using Dict.get?_eq_some.mp given
    rw [packageEntries, Dict.get?_set, if_pos rfl, ArtifactSigner.document_registry] at put
    rw [Option.some.inj put]
  have verified := shipped.verified undisturbed (by simp [ArtifactSigner.registry]) within
  refine ⟨content, _, infos, _, ?_, verifySignedPackage_iff.mpr ⟨rfl, _, verified⟩,
    shipped.archive, ?_⟩
  · intro text value valid
    have registered : text = (ownSignature).signedText := by
      have both : value.isStr "signed" = true ∧ text = (ownSignature).signedText := by
        simpa [ArtifactSigner.registry] using valid
      exact both.2
    exact ⟨_, List.mem_singleton_self _, relative, registered.symm⟩
  · intro call made same
    obtain rfl := List.mem_singleton.mp made
    have given : (ownSignature).files.get? signaturePath =
        some (dumpsIndented ((ArtifactSigner.registry []).document "")) :=
      Dict.get?_eq_some.mpr (List.mem_singleton_self _)
    exact ((same _ _).mp given).1 (by decide)

end DataHarness
