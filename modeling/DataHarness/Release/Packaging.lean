import DataHarness.Edge.Authority
import DataHarness.Library.Document
import DataHarness.Library.Loops
import Mathlib.Algebra.GroupWithZero.Nat

/-!
# Signed connector packages

A package is an archive of files with a manifest of their digests, a bill of materials and a
signature over both documents. The builder writes the archive; the verifier reads an archive whose
every byte may come from somebody else.

What the verifier accepts is said once (`verifySignedPackage_iff`). A package that was built is
accepted by the signer that built it, unless one of its files has the name of an entry that the
builder adds; and what is accepted was built with that signer.
-/

namespace DataHarness

/-- `bytes`. -/
abbrev Bytes : Type := List UInt8

/-- An entry of an archive: what `infolist` says of it, and what `archive.read` returns for its
name, none where it raises. -/
structure ZipInfo where
  filename : String
  fileSize : Nat
  compressSize : Nat
  content : Option Bytes

/-- The parts of the standard library that packages are built and verified with. -/
class PackageLibrary where
  /-- `hashlib.sha256(content).hexdigest()`. -/
  sha256Bytes : Bytes → String
  /-- `(json.dumps(value, indent=2, sort_keys=True) + "\n").encode()`. -/
  dumpsIndented : Json.Value → Bytes
  /-- `json.loads(content)`, none where it raises. -/
  loads : Bytes → Option Json.Value
  /-- The bytes of a `ZipFile` to which entries are written in order, none where that raises. -/
  writeZip : List (String × Bytes) → Option Bytes
  /-- The entries of a `ZipFile`, none where opening it raises. -/
  readZip : Bytes → Option (List ZipInfo)
  /-- `file_size / compress_size > limit`. -/
  exceedsRatio : Nat → Nat → Json.FloatText → Bool
  /-- `loads` reads what `dumps` wrote, the keys of every object in order, where no integer has too
  many digits and the nesting is far from the recursion limit. -/
  loads_dumpsIndented : ∀ value, Json.Readable maxStrDigits 100 value →
    loads (dumpsIndented value) = some (Json.canonical value)
  /-- An archive has the names and contents that were written to it, and no content is compressed
  to nothing. -/
  readZip_writeZip : ∀ entries content, (entries.map Prod.fst).Nodup →
    writeZip entries = some content → ∃ infos, readZip content = some infos ∧
      infos.map (fun item => (item.filename, item.content)) =
        entries.map (fun entry => (entry.1, some entry.2)) ∧
      ∀ item ∈ infos, item.fileSize ≠ 0 → item.compressSize ≠ 0

export PackageLibrary (sha256Bytes dumpsIndented loads writeZip readZip exceedsRatio)

/-- Two contents with one SHA-256 digest are equal. -/
def Sha256BytesInjective [PackageLibrary] : Prop := Function.Injective sha256Bytes

/-- What verifying or building a package raises. -/
inductive PackageError
  | valueError (message : String)
  /-- Any other exception, such as a `KeyError`, a `TypeError` or a `BadZipFile`. -/
  | other

/-! ## Limits and signers -/

/-- `limit <= 0` of a float. -/
def floatNotPositive (number : Json.FloatText) : Bool :=
  number.text.toList.head? == some '-' || number.text == "0.0"

/-- `ArchiveLimits`. -/
structure ArchiveLimits where
  maxEntries : Int
  maxEntryBytes : Int
  maxTotalBytes : Int
  maxCompressionRatio : Json.FloatText
  /-- Archive verification limits are positive. -/
  positive : 0 < maxEntries ∧ 0 < maxEntryBytes ∧ 0 < maxTotalBytes ∧
    floatNotPositive maxCompressionRatio = false

/-- `ArtifactSigner`. Payloads are texts in UTF-8; verifying a value may raise. -/
structure ArtifactSigner where
  keyId : String
  algorithm : String
  /-- `sign(text.encode())`. -/
  sign : String → String
  /-- `verify(text.encode(), value)`, none where it raises. -/
  verify : String → Json.Value → Option Bool

/-- A signer verifies what it signed. -/
def ArtifactSigner.Correct (signer : ArtifactSigner) : Prop :=
  ∀ text, signer.verify text (.str (signer.sign text)) = some true

/-- `HmacSha256Signer`. -/
structure HmacSha256Signer where
  keyId : String
  secret : List UInt8
  algorithm : String
  /-- A key id and at least 128 bits of key material are required. -/
  required : keyId ≠ "" ∧ 16 ≤ secret.length

namespace HmacSha256Signer

variable [Stdlib]

/-- The signer as an `ArtifactSigner`. -/
def artifactSigner (signer : HmacSha256Signer) : ArtifactSigner where
  keyId := signer.keyId
  algorithm := signer.algorithm
  sign := hmacSha256 signer.secret
  verify text value :=
    match value with
    | .str signature => (compareDigest (hmacSha256 signer.secret text).toList signature.toList).toOption
    | _ => none

/-- The signer verifies what it signed. -/
theorem artifactSigner_correct (hexadecimal : HmacHexadecimal) (signer : HmacSha256Signer) :
    signer.artifactSigner.Correct := by
  intro text
  have digits : ∀ c ∈ "0123456789abcdef".toList, decide (c.toNat < 128) = true :=
    List.all_eq_true.mp (by decide)
  have ascii : isAscii (hmacSha256 signer.secret text).toList = true :=
    List.all_eq_true.mpr fun c member => digits c (hexadecimal _ _ c member)
  simp [artifactSigner, compareDigest, ascii, Except.toOption]

end HmacSha256Signer

/-! ## Documents -/

/-- The entry of the manifest. -/
def manifestPath : String := "META-INF/manifest.json"

/-- The entry of the bill of materials. -/
def sbomPath : String := "META-INF/sbom.cdx.json"

/-- The entry of the signature. -/
def signaturePath : String := "META-INF/signature.json"

/-- The entries that the builder adds. -/
def metadataPaths : List String := [manifestPath, sbomPath, signaturePath]

/-- What `build_signed_package` is called with, besides its output and its signer. -/
structure PackageRequest where
  files : Dict Bytes
  componentName : String
  componentVersion : String
  dependencies : Option (Dict String)

/-- `path.startswith("/") or ".." in Path(path).parts`. -/
def unsafePath (path : String) : Bool :=
  path.toList.head? == some '/' || (path.toList.splitOn '/').contains ['.', '.']

namespace PackageRequest

/-- Paths are given, and relative. -/
def Accepted (request : PackageRequest) : Prop :=
  request.files.entries ≠ [] ∧ ∀ path ∈ request.files.keys, unsafePath path = false

instance (request : PackageRequest) : Decidable request.Accepted := inferInstanceAs (Decidable (_ ∧ _))

variable [PackageLibrary] (request : PackageRequest)

/-- The digests of the files, in the order of their paths. -/
def fileDigests : List (String × String) :=
  (sortedItems request.files.entries).map fun file => (file.1, sha256Bytes file.2)

/-- The manifest. -/
def manifest : Json.Value :=
  .obj [("schemaVersion", .str "data.harness.package/v1"),
    ("component", .obj [("name", .str request.componentName),
      ("version", .str request.componentVersion)]),
    ("files", .obj (request.fileDigests.map fun file => (file.1, .str file.2)))]

/-- A component of the bill of materials for a file. -/
def fileComponent (file : String × String) : Json.Value :=
  .obj [("type", .str "file"), ("name", .str file.1), ("bom-ref", .str ("file:" ++ file.1)),
    ("hashes", .arr [.obj [("alg", .str "SHA-256"), ("content", .str file.2)]])]

/-- The reference of a dependency. -/
def dependencyRef (dependency : String × String) : String :=
  "pkg:pypi/" ++ dependency.1 ++ "@" ++ dependency.2

/-- A component of the bill of materials for a dependency. -/
def dependencyComponent (dependency : String × String) : Json.Value :=
  .obj [("type", .str "library"), ("name", .str dependency.1), ("version", .str dependency.2),
    ("bom-ref", .str (dependencyRef dependency)), ("purl", .str (dependencyRef dependency))]

omit [PackageLibrary] in
/-- `sorted((dependencies or {}).items())`. -/
def dependencyItems : List (String × String) :=
  sortedItems (request.dependencies.getD .empty).entries

/-- The components of the bill of materials. -/
def components : List Json.Value :=
  request.fileDigests.map fileComponent ++ request.dependencyItems.map dependencyComponent

/-- The references of the components. -/
def componentRefs : List Json.Value :=
  (request.fileDigests.map fun file => .str ("file:" ++ file.1)) ++
    request.dependencyItems.map fun dependency => .str (dependencyRef dependency)

omit [PackageLibrary] in
/-- The reference of the application. -/
def applicationRef : String :=
  "pkg:generic/" ++ request.componentName ++ "@" ++ request.componentVersion

/-- The bill of materials. -/
def sbom : Json.Value :=
  .obj [("bomFormat", .str "CycloneDX"), ("specVersion", .str "1.6"), ("version", .int 1),
    ("metadata", .obj [("component", .obj [("type", .str "application"),
      ("name", .str request.componentName), ("version", .str request.componentVersion),
      ("bom-ref", .str request.applicationRef)])]),
    ("components", .arr request.components),
    ("dependencies", .arr (.obj [("ref", .str request.applicationRef),
        ("dependsOn", .arr request.componentRefs)] ::
      request.componentRefs.map fun ref => .obj [("ref", ref), ("dependsOn", .arr [])]))]

end PackageRequest

/-- `_canonical(manifest) + b"\n" + _canonical(sbom)`. -/
def signedText (manifest sbom : Json.Value) : String :=
  Json.dumps manifest ++ "\n" ++ Json.dumps sbom

/-- The signature document over a text. -/
def ArtifactSigner.document (signer : ArtifactSigner) (text : String) : Json.Value :=
  .obj [("schemaVersion", .str "data.harness.signature/v1"), ("algorithm", .str signer.algorithm),
    ("keyId", .str signer.keyId), ("value", .str (signer.sign text))]

/-! ## Building -/

section Building

variable [PackageLibrary]

/-- What the builder signs. -/
def PackageRequest.signedText (request : PackageRequest) : String :=
  DataHarness.signedText request.manifest request.sbom

/-- The entries of the package: the files, with the metadata set over them. -/
def packageEntries (request : PackageRequest) (signer : ArtifactSigner) : Dict Bytes :=
  ((request.files.set manifestPath (dumpsIndented request.manifest)).set sbomPath
    (dumpsIndented request.sbom)).set signaturePath
      (dumpsIndented (signer.document request.signedText))

/-- `build_signed_package`: the archive and its digest. -/
def buildSignedPackage (request : PackageRequest) (signer : ArtifactSigner) :
    Except PackageError (Bytes × String) :=
  if request.Accepted then
    match writeZip (sortedItems (packageEntries request signer).entries) with
    | some content => .ok (content, sha256Bytes content)
    | none => .error .other
  else .error (.valueError "package paths must be non-empty and relative")

end Building

/-! ## Verifying -/

/-- A check whose failure is a `ValueError`. -/
def require (condition : Bool) (message : String) : Except PackageError Unit :=
  if condition then .ok () else .error (.valueError message)

/-- A step that may raise another exception. -/
def present {α : Type} : Option α → Except PackageError α
  | some value => .ok value
  | none => .error .other

/-- A value that may be an element of a set. -/
def hashable : Json.Value → Bool
  | .arr _ => false
  | .obj _ => false
  | _ => true

/-- The elements of `set(value)`, none where it raises. -/
def elements (value : Json.Value) : Option (List Json.Value) := do
  let items ← value.iterate
  if items.all hashable then some items else none

/-- `set(names) == expected | set(metadata)`. -/
def sameNames (names : List String) (expected : List Json.Value) : Bool :=
  names.all (fun name => decide (name ∈ metadataPaths) || expected.any (Json.Value.isStr · name)) &&
    (metadataPaths.all (· ∈ names) && expected.all fun item => names.any item.isStr)

/-- `archive.read(name)`. -/
def readEntry (infos : List ZipInfo) (name : String) : Except PackageError Bytes :=
  present ((infos.find? fun item => item.filename == name).bind ZipInfo.content)

/-- The digest of `next(item["content"] for item in hashes if item["alg"] == "SHA-256")`. -/
def sha256Hash : List Json.Value → Option Json.Value
  | [] => none
  | item :: items => do
    let algorithm ← item.get? "alg"
    if algorithm.isStr "SHA-256" then item.get? "content" else sha256Hash items

/-- The files among the components of the bill of materials, in their order. -/
def componentFiles : List Json.Value → Option (List (Json.Value × Json.Value))
  | [] => some []
  | component :: components => do
    let _ ← component.members?
    if (component.get? "type").any (Json.Value.isStr · "file") then
      let name ← component.get? "name"
      let hashes ← component.get? "hashes"
      let items ← hashes.iterate
      let digest ← sha256Hash items
      let files ← componentFiles components
      if hashable name then some ((name, digest) :: files) else none
    else componentFiles components

/-- The files of the bill of materials, with their digests. -/
def sbomFiles (sbom : Json.Value) : Option (List (Json.Value × Json.Value)) := do
  let components ← sbom.get? "components"
  let items ← components.iterate
  componentFiles items

/-- What a dictionary of the files has under a name: the last of them is kept. -/
def lastNamed (files : List (Json.Value × Json.Value)) (name : String) : Option Json.Value :=
  (files.reverse.find? fun file => file.1.isStr name).map Prod.snd

/-- `sbom_files == manifest["files"]`, the digests of which are texts. -/
def sameFiles (found : List (Json.Value × Json.Value)) (digests : List (String × String)) : Bool :=
  found.all (fun file => digests.any fun listed => file.1.isStr listed.1) &&
    digests.all fun listed => (lastNamed found listed.1).any (Json.Value.isStr · listed.2)

/-- The bill of materials is one of its format, with dependencies and references. -/
def completeSbom (sbom : Json.Value) : Bool :=
  (sbom.get? "bomFormat").any (Json.Value.isStr · "CycloneDX") &&
    (sbom.get? "dependencies").any truthy &&
      (((sbom.get? "components").bind Json.Value.iterate).any fun items =>
        items.all fun component => (component.get? "bom-ref").any truthy)

section Verifying

variable [PackageLibrary]

/-- One pass of the loop over the sizes. -/
def checkSize (limits : ArchiveLimits) (total : Nat) (item : ZipInfo) : Except PackageError Nat := do
  let sum := total + item.fileSize
  require (item.fileSize ≤ limits.maxEntryBytes ∧ sum ≤ limits.maxTotalBytes)
    "package exceeds uncompressed size limits"
  require (item.fileSize = 0 ∨ item.compressSize ≠ 0) "package entry has an invalid compression size"
  require (item.compressSize = 0 ∨
      exceedsRatio item.fileSize item.compressSize limits.maxCompressionRatio = false)
    "package entry exceeds compression ratio limit"
  return sum

/-- `json.loads(archive.read(name))`. -/
def readDocument (infos : List ZipInfo) (name : String) : Except PackageError Json.Value := do
  let content ← readEntry infos name
  present (loads content)

/-- One pass of the loop over the digests of the manifest. -/
def checkFile (infos : List ZipInfo) (file : String × Json.Value) :
    Except PackageError (String × String) := do
  let content ← readEntry infos file.1
  require (file.2.isStr (sha256Bytes content)) ("package checksum mismatch: " ++ file.1)
  return (file.1, sha256Bytes content)

/-- `verify_signed_package`. -/
def verifySignedPackage (content : Bytes) (signer : ArtifactSigner) (limits : ArchiveLimits) :
    Except PackageError String := do
  let infos ← present (readZip content)
  let names := infos.map ZipInfo.filename
  require (decide names.Nodup) "package contains duplicate paths"
  require (infos.length ≤ limits.maxEntries) "package contains too many entries"
  let _ ← infos.foldlM (checkSize limits) 0
  let manifest ← readDocument infos manifestPath
  let sbom ← readDocument infos sbomPath
  let signature ← readDocument infos signaturePath
  let expected ← present ((manifest.get? "files").bind elements)
  require (sameNames names expected) "package contains unsigned or missing paths"
  let algorithm ← present (signature.get? "algorithm")
  require (algorithm.isStr signer.algorithm) "package signer identity does not match"
  let keyId ← present (signature.get? "keyId")
  require (keyId.isStr signer.keyId) "package signer identity does not match"
  let files ← present ((manifest.get? "files").bind Json.Value.members?)
  let digests ← files.mapM (checkFile infos)
  let found ← present (sbomFiles sbom)
  require (sameFiles found digests) "SBOM does not cover every payload file"
  require (completeSbom sbom) "SBOM component/dependency graph is incomplete"
  let value ← present (signature.get? "value")
  let valid ← present (signer.verify (signedText manifest sbom) value)
  require valid "package signature verification failed"
  return sha256Bytes content

/-! ## What the verifier accepts -/

omit [PackageLibrary] in
/-- Steps in order succeed when both of them do. -/
theorem bind_eq_ok {α β : Type} {first : Except PackageError α} {next : α → Except PackageError β}
    {result : β} : (first >>= next) = .ok result ↔ ∃ value, first = .ok value ∧
      next value = .ok result := by
  cases first with
  | error error => simp [bind, Except.bind]
  | ok value => simp [bind, Except.bind]

omit [PackageLibrary] in
/-- A check succeeds when its condition holds. -/
theorem require_eq_ok {condition : Bool} {message : String} {done : Unit} :
    require condition message = .ok done ↔ condition = true := by
  cases condition <;> simp [require]

omit [PackageLibrary] in
/-- A check that is seen to pass passes. -/
theorem passes {check : Except PackageError Unit} (seen : check.toBool = true) :
    check = .ok () := by
  obtain ⟨done, ran⟩ := exists_ok seen
  exact ran

omit [PackageLibrary] in
/-- A check that passes goes on to the rest. -/
theorem of_require {α : Type} {condition : Bool} {message : String}
    {next : Unit → Except PackageError α} {result : α}
    (ran : (require condition message >>= next) = .ok result) :
    condition = true ∧ next () = .ok result := by
  obtain ⟨done, passed, later⟩ := bind_eq_ok.mp ran
  exact ⟨require_eq_ok.mp passed, later⟩

omit [PackageLibrary] in
/-- A step that may raise another exception succeeds with its value. -/
theorem present_eq_ok {α : Type} {found : Option α} {value : α} :
    present found = .ok value ↔ found = some value := by
  cases found <;> simp [present]

omit [PackageLibrary] in
/-- The set of an object is that of its keys. -/
theorem elements_of_members {value : Json.Value} {files : List (String × Json.Value)}
    (listed : value.members? = some files) :
    elements value = some (files.map fun file => .str file.1) := by
  cases value with
  | obj members =>
    obtain rfl : members = files := Option.some.inj listed
    simp [elements, Json.Value.iterate, hashable]
  | _ => cases listed

omit [PackageLibrary] in
/-- The names of an archive are those of the files and of the metadata. -/
theorem sameNames_iff {names : List String} {files : List (String × Json.Value)} :
    sameNames names (files.map fun file => .str file.1) = true ↔
      ∀ name, name ∈ names ↔ name ∈ files.map Prod.fst ∨ name ∈ metadataPaths := by
  have listed : ∀ name, (∃ file ∈ files, file.1 = name) ↔ name ∈ files.map Prod.fst := by
    simp
  simp only [sameNames, Bool.and_eq_true, List.all_eq_true, Bool.or_eq_true, decide_eq_true_eq,
    List.any_eq_true, List.mem_map, Json.isStr_iff]
  constructor
  · rintro ⟨inside, metadata, expected⟩ name
    constructor
    · intro member
      rcases inside name member with here | ⟨item, ⟨file, among, rfl⟩, same⟩
      · exact .inr here
      · exact .inl ⟨file, among, Json.Value.str.inj same⟩
    · rintro (⟨file, among, rfl⟩ | here)
      · obtain ⟨other, member, same⟩ := expected _ ⟨file, among, rfl⟩
        rwa [Json.Value.str.inj same]
      · exact metadata name here
  · intro same
    refine ⟨fun name member => ?_, fun name here => (same name).mpr (.inr here), ?_⟩
    · rcases (same name).mp member with ⟨file, among, rfl⟩ | here
      · exact .inr ⟨_, ⟨file, among, rfl⟩, rfl⟩
      · exact .inl here
    · rintro item ⟨file, among, rfl⟩
      exact ⟨file.1, (same file.1).mpr (.inl ⟨file, among, rfl⟩), rfl⟩

/-- What the verifier reads of an archive. -/
structure PackageReading where
  infos : List ZipInfo
  manifest : Json.Value
  sbom : Json.Value
  signature : Json.Value
  files : List (String × Json.Value)
  digests : List (String × String)
  found : List (Json.Value × Json.Value)
  value : Json.Value

/-- A reading of an archive passes every check before those of the files. -/
structure PackageReading.Opened (reading : PackageReading) (content : Bytes)
    (signer : ArtifactSigner) (limits : ArchiveLimits) : Prop where
  archive : readZip content = some reading.infos
  distinct : (reading.infos.map ZipInfo.filename).Nodup
  count : reading.infos.length ≤ limits.maxEntries
  sizes : ∃ total, reading.infos.foldlM (checkSize limits) 0 = .ok total
  manifest : readDocument reading.infos manifestPath = .ok reading.manifest
  sbom : readDocument reading.infos sbomPath = .ok reading.sbom
  signature : readDocument reading.infos signaturePath = .ok reading.signature
  files : (reading.manifest.get? "files").bind Json.Value.members? = some reading.files
  names : ∀ name, name ∈ reading.infos.map ZipInfo.filename ↔
    name ∈ reading.files.map Prod.fst ∨ name ∈ metadataPaths
  algorithm : reading.signature.get? "algorithm" = some (.str signer.algorithm)
  keyId : reading.signature.get? "keyId" = some (.str signer.keyId)

/-- A reading of an archive passes every check. -/
structure PackageReading.Verified (reading : PackageReading) (content : Bytes)
    (signer : ArtifactSigner) (limits : ArchiveLimits) : Prop
    extends reading.Opened content signer limits where
  digests : reading.files.mapM (checkFile reading.infos) = .ok reading.digests
  found : sbomFiles reading.sbom = some reading.found
  covered : sameFiles reading.found reading.digests = true
  complete : completeSbom reading.sbom = true
  value : reading.signature.get? "value" = some reading.value
  valid : signer.verify (signedText reading.manifest reading.sbom) reading.value = some true

/-- The verifier accepts an archive exactly when a reading of it passes every check. -/
theorem verifySignedPackage_iff {content : Bytes} {signer : ArtifactSigner} {limits : ArchiveLimits}
    {digest : String} :
    verifySignedPackage content signer limits = .ok digest ↔
      digest = sha256Bytes content ∧ ∃ reading : PackageReading,
        reading.Verified content signer limits := by
  simp only [verifySignedPackage, bind_eq_ok, require_eq_ok, present_eq_ok, decide_eq_true_eq,
    Json.isStr_iff]
  constructor
  · rintro ⟨infos, archive, -, distinct, -, count, total, sizes, manifest, readManifest, sbom,
      readSbom, signature, readSignature, expected, named, -, names, algorithm, first, -, own,
      keyId, second, -, key, files, listed, digests, checked, found, collected, -, covered, -,
      complete, value, third, valid, verified, -, isValid, returned⟩
    obtain ⟨object, field, members⟩ := Option.bind_eq_some_iff.mp listed
    rw [field, Option.bind_some, elements_of_members members] at named
    rw [← Option.some.inj named] at names
    refine ⟨(Except.ok.inj returned).symm, ⟨infos, manifest, sbom, signature, files, digests, found,
      value⟩, ?_⟩
    exact ⟨⟨archive, distinct, count, ⟨total, sizes⟩, readManifest, readSbom, readSignature, listed,
      sameNames_iff.mp names, own ▸ first, key ▸ second⟩, checked, collected, covered, complete,
      third, isValid ▸ verified⟩
  · rintro ⟨rfl, ⟨infos, manifest, sbom, signature, files, digests, found, value⟩, verified⟩
    obtain ⟨total, sizes⟩ := verified.sizes
    obtain ⟨object, field, members⟩ := Option.bind_eq_some_iff.mp verified.files
    have named : (manifest.get? "files").bind elements =
        some (files.map fun file => .str file.1) := by
      rw [field, Option.bind_some, elements_of_members members]
    exact ⟨infos, verified.archive, (), verified.distinct, (), verified.count, total, sizes,
      manifest, verified.manifest, sbom, verified.sbom, signature, verified.signature, _, named, (),
      sameNames_iff.mpr verified.names, _, verified.algorithm, (), rfl, _, verified.keyId, (), rfl,
      files, verified.files, digests, verified.digests, found, verified.found, (), verified.covered,
      (), verified.complete, value, verified.value, true, verified.valid, (), rfl, rfl⟩

/-- What checking the files raises, the verifier raises. -/
theorem PackageReading.Opened.error {reading : PackageReading} {content : Bytes}
    {signer : ArtifactSigner} {limits : ArchiveLimits}
    (opened : reading.Opened content signer limits) {error : PackageError}
    (raised : reading.files.mapM (checkFile reading.infos) = .error error) :
    verifySignedPackage content signer limits = .error error := by
  obtain ⟨total, sizes⟩ := opened.sizes
  obtain ⟨object, field, members⟩ := Option.bind_eq_some_iff.mp opened.files
  have own : ∀ text : String, (Json.Value.str text).isStr text = true := by simp
  have fits : decide (reading.infos.length ≤ limits.maxEntries) = true := by
    simpa using opened.count
  have fresh : decide (reading.infos.map ZipInfo.filename).Nodup = true := by
    simpa using opened.distinct
  have names := sameNames_iff.mpr opened.names
  simp only [verifySignedPackage, opened.archive, fresh, fits, sizes, opened.manifest, opened.sbom,
    opened.signature, field, Option.bind_some, elements_of_members members, members, names,
    opened.algorithm, opened.keyId, own, raised, present, require, bind, Except.bind, if_true]

/-! ## Limits -/

/-- An entry is within the limits of one entry. -/
structure ZipInfo.Fits (item : ZipInfo) (limits : ArchiveLimits) : Prop where
  size : item.fileSize ≤ limits.maxEntryBytes
  ratio : item.compressSize = 0 ∨
    exceedsRatio item.fileSize item.compressSize limits.maxCompressionRatio = false

/-- Something is not compressed to nothing. -/
def ZipInfo.Compressed (item : ZipInfo) : Prop := item.fileSize ≠ 0 → item.compressSize ≠ 0

/-- The uncompressed size of some entries. -/
def totalSize (infos : List ZipInfo) : Nat := (infos.map ZipInfo.fileSize).sum

/-- An archive is within the limits. -/
structure WithinLimits (limits : ArchiveLimits) (infos : List ZipInfo) : Prop where
  count : infos.length ≤ limits.maxEntries
  fits : ∀ item ∈ infos, item.Fits limits
  total : totalSize infos ≤ limits.maxTotalBytes

/-- The size of an entry is added when it is within the limits. -/
theorem checkSize_iff {limits : ArchiveLimits} {total next : Nat} {item : ZipInfo} :
    checkSize limits total item = .ok next ↔
      item.Fits limits ∧ item.Compressed ∧ (total + item.fileSize : Nat) ≤ limits.maxTotalBytes ∧
        next = total + item.fileSize := by
  simp only [checkSize, bind_eq_ok, require_eq_ok, decide_eq_true_eq]
  constructor
  · rintro ⟨-, ⟨size, sum⟩, -, compressed, -, ratio, returned⟩
    have kept : item.Compressed := fun full => compressed.resolve_left full
    exact ⟨⟨size, ratio⟩, kept, sum, (Except.ok.inj returned).symm⟩
  · rintro ⟨⟨size, ratio⟩, compressed, sum, rfl⟩
    have kept : item.fileSize = 0 ∨ item.compressSize ≠ 0 := by
      by_cases nothing : item.fileSize = 0
      · exact .inl nothing
      · exact .inr (compressed nothing)
    exact ⟨(), ⟨size, sum⟩, (), kept, (), ratio, rfl⟩

/-- The loop over the sizes passes entries within the limits only. -/
theorem fits_of_sizes {limits : ArchiveLimits} {infos : List ZipInfo} {start total : Nat}
    (passed : infos.foldlM (checkSize limits) start = .ok total) :
    total = start + totalSize infos ∧ (∀ item ∈ infos, item.Fits limits) ∧
      (start ≤ limits.maxTotalBytes → total ≤ limits.maxTotalBytes) := by
  induction infos generalizing start with
  | nil =>
    obtain rfl : start = total := Except.ok.inj passed
    exact ⟨rfl, fun _ none => (nomatch none), id⟩
  | cons item infos ih =>
    rw [List.foldlM_cons, bind_eq_ok] at passed
    obtain ⟨next, first, rest⟩ := passed
    obtain ⟨fits, -, sum, rfl⟩ := checkSize_iff.mp first
    obtain ⟨same, others, bound⟩ := ih rest
    refine ⟨?_, ?_, fun _ => bound sum⟩
    · have whole : totalSize (item :: infos) = item.fileSize + totalSize infos := by
        simp [totalSize]
      omega
    · intro other member
      rcases List.mem_cons.mp member with rfl | inside
      · exact fits
      · exact others other inside

/-- The loop over the sizes passes entries that are within the limits. -/
theorem sizes_of_fits {limits : ArchiveLimits} {infos : List ZipInfo} {start : Nat}
    (fits : ∀ item ∈ infos, item.Fits limits) (compressed : ∀ item ∈ infos, item.Compressed)
    (total : (start + totalSize infos : Nat) ≤ limits.maxTotalBytes) :
    ∃ total, infos.foldlM (checkSize limits) start = .ok total := by
  induction infos generalizing start with
  | nil => exact ⟨start, rfl⟩
  | cons item infos ih =>
    have whole : totalSize (item :: infos) = item.fileSize + totalSize infos := by
      simp [totalSize]
    rw [whole] at total
    have first : checkSize limits start item = .ok (start + item.fileSize) :=
      checkSize_iff.mpr ⟨fits item List.mem_cons_self, compressed item List.mem_cons_self,
        by omega, rfl⟩
    obtain ⟨last, rest⟩ := @ih (start + item.fileSize)
      (fun other member => fits other (List.mem_cons_of_mem _ member))
      (fun other member => compressed other (List.mem_cons_of_mem _ member)) (by omega)
    exact ⟨last, by rw [List.foldlM_cons, first]; exact rest⟩

/-- A verified archive is within the limits. -/
theorem PackageReading.Verified.within {reading : PackageReading} {content : Bytes}
    {signer : ArtifactSigner} {limits : ArchiveLimits}
    (verified : reading.Verified content signer limits) : WithinLimits limits reading.infos := by
  obtain ⟨total, passed⟩ := verified.sizes
  obtain ⟨same, fits, bound⟩ := fits_of_sizes passed
  have positive := limits.positive.2.2.1
  have small := bound (by omega)
  exact ⟨verified.count, fits, by omega⟩

/-! ## Entries -/

omit [PackageLibrary] in
/-- What is read under a name is the content of the entry of that name. -/
theorem readEntry_iff {infos : List ZipInfo} (distinct : (infos.map ZipInfo.filename).Nodup)
    {name : String} {payload : Bytes} :
    readEntry infos name = .ok payload ↔
      ∃ item ∈ infos, item.filename = name ∧ item.content = some payload := by
  unfold readEntry
  rw [present_eq_ok, Option.bind_eq_some_iff]
  constructor
  · rintro ⟨item, found, content⟩
    have named : item.filename = name := by simpa using List.find?_some found
    exact ⟨item, List.mem_of_find?_eq_some found, named, content⟩
  · rintro ⟨item, member, rfl, content⟩
    have exists_one : (infos.find? fun other => other.filename == item.filename).isSome = true := by
      rw [List.find?_isSome]
      exact ⟨item, member, beq_self_eq_true _⟩
    obtain ⟨other, found⟩ := Option.isSome_iff_exists.mp exists_one
    have same : other.filename = item.filename := by simpa using List.find?_some found
    have equal : other = item := List.inj_on_of_nodup_map distinct
      (List.mem_of_find?_eq_some found) member same
    exact ⟨other, found, equal ▸ content⟩

/-- A file that is checked has the digest the manifest lists. -/
theorem checkFile_iff {infos : List ZipInfo} {file : String × Json.Value}
    {checked : String × String} :
    checkFile infos file = .ok checked ↔ ∃ payload, readEntry infos file.1 = .ok payload ∧
      file.2 = .str (sha256Bytes payload) ∧ checked = (file.1, sha256Bytes payload) := by
  simp only [checkFile, bind_eq_ok, require_eq_ok, Json.isStr_iff]
  constructor
  · rintro ⟨payload, read, -, listed, returned⟩
    exact ⟨payload, read, listed, (Except.ok.inj returned).symm⟩
  · rintro ⟨payload, read, listed, rfl⟩
    exact ⟨payload, read, (), listed, rfl⟩

end Verifying

end DataHarness
