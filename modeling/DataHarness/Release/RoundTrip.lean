import DataHarness.Release.Packaging
import Mathlib.Algebra.Order.BigOperators.Group.List

/-!
# What is built is verified

The documents of a package are read back as they were written, and the entries with them: under a
metadata name the document that the builder put there, under any other name the file. So a package
is accepted by its signer as long as no file has a metadata name; a file that has one is replaced
after its digest was listed, and the verifier finds the digest of something else.
-/

namespace DataHarness

variable [PackageLibrary]

namespace PackageRequest

variable (request : PackageRequest)

/-! ## Digests -/

/-- The digests are listed under the paths in order. -/
theorem keys_fileDigests : request.fileDigests.map Prod.fst =
    (sortedItems request.files.entries).map Prod.fst := by
  rw [fileDigests, List.map_map]
  rfl

/-- No path is listed twice. -/
theorem nodup_fileDigests : (request.fileDigests.map Prod.fst).Nodup := by
  rw [keys_fileDigests, (keys_sortedItems _).nodup_iff]
  exact request.files.distinct

/-- A digest is listed for a path exactly when it is that of its file. -/
theorem mem_fileDigests {path digest : String} : (path, digest) ∈ request.fileDigests ↔
    ∃ payload, request.files.get? path = some payload ∧ digest = sha256Bytes payload := by
  simp only [fileDigests, List.mem_map, mem_sortedItems, Dict.get?_eq_some]
  constructor
  · rintro ⟨file, inside, same⟩
    obtain ⟨rfl, rfl⟩ := Prod.mk.inj same
    exact ⟨file.2, inside, rfl⟩
  · rintro ⟨payload, inside, rfl⟩
    exact ⟨(path, payload), inside, rfl⟩

/-- The listed paths are those of the files. -/
theorem mem_keys_fileDigests {path : String} :
    path ∈ request.fileDigests.map Prod.fst ↔ path ∈ request.files.keys := by
  rw [keys_fileDigests, (keys_sortedItems _).mem_iff]
  rfl

/-- The digests as members of an object are in canonical form. -/
theorem canonical_files : Json.canonical (.obj (request.fileDigests.map fun file =>
    (file.1, .str file.2))) = .obj (request.fileDigests.map fun file => (file.1, .str file.2)) := by
  have plain : Json.canonicalMembers (request.fileDigests.map fun file => (file.1, .str file.2)) =
      request.fileDigests.map fun file => (file.1, .str file.2) := by
    rw [Json.canonicalMembers_eq_map, List.map_map]
    simp [Json.canonical]
  have sorted : (sortedItems request.files.entries).Pairwise fun left right => left.1 ≤ right.1 :=
    List.pairwise_insertionSort _ _
  rw [Json.canonical_obj, plain, Json.sortMembers]
  apply congrArg
  apply List.Pairwise.insertionSort_eq
  rw [fileDigests, List.map_map, List.pairwise_map]
  exact sorted

/-! ## Documents -/

/-- The manifest is read as it is written. -/
theorem readable_manifest : Json.Readable maxStrDigits 100 request.manifest := by
  have files : Json.Readable maxStrDigits 99
      (.obj (request.fileDigests.map fun file => (file.1, .str file.2))) := by
    apply Json.Readable.obj
    · rw [List.map_map]
      exact request.nodup_fileDigests
    · intro member inside
      obtain ⟨file, -, rfl⟩ := List.mem_map.mp inside
      exact .str _
  have component : Json.Readable maxStrDigits 99 (.obj [("name", .str request.componentName),
      ("version", .str request.componentVersion)]) := by
    apply Json.Readable.obj (by simp)
    simp [Json.Readable.str]
  apply Json.Readable.obj (by simp)
  simp [Json.Readable.str, files, component]

omit [PackageLibrary] in
/-- A component for a file is read as it is written. -/
theorem readable_fileComponent (file : String × String) :
    Json.Readable maxStrDigits 98 (fileComponent file) := by
  have hash : Json.Readable maxStrDigits 96
      (.obj [("alg", .str "SHA-256"), ("content", .str file.2)]) := by
    apply Json.Readable.obj (by simp)
    simp [Json.Readable.str]
  have hashes : Json.Readable maxStrDigits 97
      (.arr [.obj [("alg", .str "SHA-256"), ("content", .str file.2)]]) := by
    apply Json.Readable.arr
    simp [hash]
  apply Json.Readable.obj (by simp)
  simp [Json.Readable.str, hashes]

omit [PackageLibrary] in
/-- A component for a dependency is read as it is written. -/
theorem readable_dependencyComponent (dependency : String × String) :
    Json.Readable maxStrDigits 98 (dependencyComponent dependency) := by
  apply Json.Readable.obj (by simp)
  simp [Json.Readable.str]

/-- A reference is a text. -/
theorem readable_ref {levels : Nat} {ref : Json.Value} (member : ref ∈ request.componentRefs) :
    Json.Readable maxStrDigits levels ref := by
  rcases List.mem_append.mp member with inside | inside
  · obtain ⟨file, -, rfl⟩ := List.mem_map.mp inside
    exact .str _
  · obtain ⟨dependency, -, rfl⟩ := List.mem_map.mp inside
    exact .str _

/-- The bill of materials is read as it is written. -/
theorem readable_sbom : Json.Readable maxStrDigits 100 request.sbom := by
  have application : Json.Readable maxStrDigits 98 (.obj [("type", .str "application"),
      ("name", .str request.componentName), ("version", .str request.componentVersion),
      ("bom-ref", .str request.applicationRef)]) := by
    apply Json.Readable.obj (by simp)
    simp [Json.Readable.str]
  have metadata : Json.Readable maxStrDigits 99 (.obj [("component", .obj [
      ("type", .str "application"), ("name", .str request.componentName),
      ("version", .str request.componentVersion), ("bom-ref", .str request.applicationRef)])]) := by
    apply Json.Readable.obj (by simp)
    simp [application]
  have components : Json.Readable maxStrDigits 99 (.arr request.components) := by
    apply Json.Readable.arr
    intro component member
    rcases List.mem_append.mp member with inside | inside
    · obtain ⟨file, -, rfl⟩ := List.mem_map.mp inside
      exact readable_fileComponent file
    · obtain ⟨dependency, -, rfl⟩ := List.mem_map.mp inside
      exact readable_dependencyComponent dependency
  have refs : Json.Readable maxStrDigits 97 (.arr request.componentRefs) :=
    .arr fun ref member => request.readable_ref member
  have dependencies : Json.Readable maxStrDigits 99 (.arr (.obj [
      ("ref", .str request.applicationRef), ("dependsOn", .arr request.componentRefs)] ::
      request.componentRefs.map fun ref => .obj [("ref", ref), ("dependsOn", .arr [])])) := by
    apply Json.Readable.arr
    intro item member
    rcases List.mem_cons.mp member with rfl | inside
    · apply Json.Readable.obj (by simp)
      simp [Json.Readable.str, refs]
    · obtain ⟨ref, listed, rfl⟩ := List.mem_map.mp inside
      have empty : Json.Readable maxStrDigits 97 (.arr []) := .arr fun _ none => nomatch none
      apply Json.Readable.obj (by simp)
      simp [request.readable_ref listed, empty]
  have version : Json.Readable maxStrDigits 99 (.int 1) := .int (by decide)
  apply Json.Readable.obj (by simp)
  simp [Json.Readable.str, version, metadata, components, dependencies]

end PackageRequest

omit [PackageLibrary] in
/-- A signature document is read as it is written. -/
theorem ArtifactSigner.readable_document (signer : ArtifactSigner) (text : String) :
    Json.Readable maxStrDigits 100 (signer.document text) := by
  apply Json.Readable.obj (by simp)
  simp [Json.Readable.str]

/-! ## The bill of materials as it is read -/

namespace PackageRequest

omit [PackageLibrary] in
/-- The component of a file is read as the file with its digest. -/
theorem componentFiles_file (file : String × String) (components : List Json.Value) :
    componentFiles (Json.canonical (fileComponent file) :: components) =
      (componentFiles components).map fun files => (.str file.1, .str file.2) :: files := by
  have members : ∃ own, (Json.canonical (fileComponent file)).members? = some own := by
    rw [fileComponent, Json.canonical_obj]
    exact ⟨_, rfl⟩
  obtain ⟨own, object⟩ := members
  have type : (Json.canonical (fileComponent file)).get? "type" = some (.str "file") := by
    rw [fileComponent, Json.get?_canonical (by simp)]
    simp [Json.canonical]
  have name : (Json.canonical (fileComponent file)).get? "name" = some (.str file.1) := by
    rw [fileComponent, Json.get?_canonical (by simp)]
    simp [List.lookup_cons, Json.canonical]
  have hashes : (Json.canonical (fileComponent file)).get? "hashes" = some (.arr
      [Json.canonical (.obj [("alg", .str "SHA-256"), ("content", .str file.2)])]) := by
    rw [fileComponent, Json.get?_canonical (by simp)]
    simp [List.lookup_cons, Json.canonical, Json.canonicalItems]
  have algorithm : (Json.canonical (.obj [("alg", .str "SHA-256"),
      ("content", .str file.2)])).get? "alg" = some (.str "SHA-256") := by
    rw [Json.get?_canonical (by simp)]
    simp [Json.canonical]
  have content : (Json.canonical (.obj [("alg", .str "SHA-256"),
      ("content", .str file.2)])).get? "content" = some (.str file.2) := by
    rw [Json.get?_canonical (by simp)]
    simp [List.lookup_cons, Json.canonical]
  have own_hash : ∀ text : String, (Json.Value.str text).isStr text = true := by simp
  rw [componentFiles]
  simp only [object, type, name, hashes, Json.Value.iterate, sha256Hash, algorithm, content,
    own_hash, Option.any_some, if_true, hashable, Option.bind_eq_bind, Option.bind_some]
  cases componentFiles components <;> rfl

omit [PackageLibrary] in
/-- The component of a dependency is no file. -/
theorem componentFiles_dependency (dependency : String × String) (components : List Json.Value) :
    componentFiles (Json.canonical (dependencyComponent dependency) :: components) =
      componentFiles components := by
  have members : ∃ own, (Json.canonical (dependencyComponent dependency)).members? = some own := by
    rw [dependencyComponent, Json.canonical_obj]
    exact ⟨_, rfl⟩
  obtain ⟨own, object⟩ := members
  have type : (Json.canonical (dependencyComponent dependency)).get? "type" =
      some (.str "library") := by
    rw [dependencyComponent, Json.get?_canonical (by simp)]
    simp [Json.canonical]
  have other : (Json.Value.str "library").isStr "file" = false := by decide
  rw [componentFiles]
  simp only [object, type, other, Option.any_some, Bool.false_eq_true, if_false,
    Option.bind_eq_bind, Option.bind_some]

variable (request : PackageRequest)

/-- The files of the bill of materials are those of the package. -/
theorem sbomFiles_canonical : sbomFiles (Json.canonical request.sbom) =
    some (request.fileDigests.map fun file => (.str file.1, .str file.2)) := by
  have dependencies : ∀ items : List (String × String), componentFiles
      ((items.map dependencyComponent).map Json.canonical) = some [] := by
    intro items
    induction items with
    | nil => rfl
    | cons item items ih => simpa only [List.map_cons, componentFiles_dependency] using ih
  have files : ∀ digests : List (String × String), componentFiles
      ((digests.map fileComponent ++ request.dependencyItems.map dependencyComponent).map
        Json.canonical) = some (digests.map fun file => (.str file.1, .str file.2)) := by
    intro digests
    induction digests with
    | nil => exact dependencies _
    | cons file digests ih =>
      rw [List.map_cons, List.cons_append, List.map_cons, componentFiles_file, ih]
      rfl
  have listed : (Json.canonical request.sbom).get? "components" =
      some (.arr (request.components.map Json.canonical)) := by
    rw [sbom, Json.get?_canonical (by simp)]
    simp [List.lookup_cons, Json.canonical, Json.canonicalItems_eq_map]
  unfold sbomFiles
  rw [listed]
  exact files request.fileDigests

/-- The bill of materials is complete. -/
theorem completeSbom_canonical : completeSbom (Json.canonical request.sbom) = true := by
  have format : (Json.canonical request.sbom).get? "bomFormat" = some (.str "CycloneDX") := by
    rw [sbom, Json.get?_canonical (by simp)]
    simp [Json.canonical]
  have listed : (Json.canonical request.sbom).get? "components" =
      some (.arr (request.components.map Json.canonical)) := by
    rw [sbom, Json.get?_canonical (by simp)]
    simp [List.lookup_cons, Json.canonical, Json.canonicalItems_eq_map]
  have dependencies : ((Json.canonical request.sbom).get? "dependencies").any truthy = true := by
    rw [sbom, Json.get?_canonical (by simp)]
    simp [List.lookup_cons, Json.canonical, Json.canonicalItems, truthy]
  have refs : ∀ component ∈ request.components,
      ((Json.canonical component).get? "bom-ref").any truthy = true := by
    intro component member
    rcases List.mem_append.mp member with inside | inside
    · obtain ⟨file, -, rfl⟩ := List.mem_map.mp inside
      rw [fileComponent, Json.get?_canonical (by simp)]
      simp [List.lookup_cons, Json.canonical, truthy]
    · obtain ⟨dependency, -, rfl⟩ := List.mem_map.mp inside
      rw [dependencyComponent, Json.get?_canonical (by simp)]
      simp [List.lookup_cons, Json.canonical, truthy, dependencyRef]
  have all : (request.components.map Json.canonical).all
      (fun component => (component.get? "bom-ref").any truthy) = true := by
    simpa [List.all_eq_true] using refs
  unfold completeSbom
  rw [format, listed]
  simp [Json.Value.iterate, dependencies, all]

end PackageRequest

/-! ## The archive as it is read -/

omit [PackageLibrary] in
/-- What is read of an archive under a name is what was written under it. -/
theorem readEntry_written {infos : List ZipInfo} {entries : List (String × Bytes)}
    (written : infos.map (fun item => (item.filename, item.content)) =
      entries.map fun entry => (entry.1, some entry.2)) (name : String) :
    readEntry infos name = present (entries.lookup name) := by
  induction infos generalizing entries with
  | nil =>
    cases entries with
    | nil => rfl
    | cons => cases written
  | cons item infos ih =>
    cases entries with
    | nil => cases written
    | cons entry entries =>
      obtain ⟨head, rest⟩ := List.cons.inj written
      obtain ⟨named, content⟩ := Prod.mk.inj head
      have after := ih rest
      unfold readEntry at after ⊢
      rw [List.find?_cons, List.lookup_cons, named]
      by_cases here : entry.1 = name
      · have left : (entry.1 == name) = true := by simpa using here
        have right : (name == entry.1) = true := by simpa using here.symm
        rw [left, right]
        simp [content]
      · have left : (entry.1 == name) = false := by simpa using here
        have right : (name == entry.1) = false := by simpa using Ne.symm here
        rw [left, right]
        exact after

/-- An archive with the entries of a package. -/
structure Shipped (request : PackageRequest) (signer : ArtifactSigner) (content : Bytes)
    (infos : List ZipInfo) : Prop where
  archive : readZip content = some infos
  distinct : (infos.map ZipInfo.filename).Nodup
  names : ∀ name, name ∈ infos.map ZipInfo.filename ↔ name ∈ (packageEntries request signer).keys
  read : ∀ name, readEntry infos name = present ((packageEntries request signer).get? name)
  compressed : ∀ item ∈ infos, item.Compressed

/-- What the builder writes is an archive with the entries of the package, and what it returns the
digest of the archive. -/
theorem shipped_of_build {request : PackageRequest} {signer : ArtifactSigner} {content : Bytes}
    {digest : String} (built : buildSignedPackage request signer = .ok (content, digest)) :
    digest = sha256Bytes content ∧ ∃ infos, Shipped request signer content infos := by
  unfold buildSignedPackage at built
  by_cases accepted : request.Accepted
  · rw [if_pos accepted] at built
    cases zipped : writeZip (sortedItems (packageEntries request signer).entries) with
    | none => simp [zipped] at built
    | some written =>
      rw [zipped] at built
      obtain ⟨rfl, rfl⟩ := Prod.mk.inj (Except.ok.inj built)
      have keys : ((sortedItems (packageEntries request signer).entries).map Prod.fst).Nodup := by
        rw [(keys_sortedItems _).nodup_iff]
        exact (packageEntries request signer).distinct
      obtain ⟨infos, archive, entries, compressed⟩ :=
        PackageLibrary.readZip_writeZip _ _ keys zipped
      have named : infos.map ZipInfo.filename =
          (sortedItems (packageEntries request signer).entries).map Prod.fst := by
        have first := congrArg (List.map Prod.fst) entries
        simpa [List.map_map, Function.comp_def] using first
      have looked : ∀ name, (sortedItems (packageEntries request signer).entries).lookup name =
          (packageEntries request signer).get? name := by
        intro name
        apply Option.ext
        intro payload
        rw [Table.lookup_iff_mem keys, mem_sortedItems, Dict.get?_eq_some]
      refine ⟨rfl, infos, archive, named ▸ keys, fun name => ?_, fun name => ?_, compressed⟩
      · rw [named, (keys_sortedItems _).mem_iff]
        rfl
      · rw [readEntry_written entries, looked]
  · rw [if_neg accepted] at built
    cases built

namespace Shipped

variable {request : PackageRequest} {signer : ArtifactSigner} {content : Bytes}
  {infos : List ZipInfo}

/-- The manifest is read in canonical form. -/
theorem manifest (shipped : Shipped request signer content infos) :
    readDocument infos manifestPath = .ok (Json.canonical request.manifest) := by
  have entry : (packageEntries request signer).get? manifestPath =
      some (dumpsIndented request.manifest) := by
    simp [packageEntries, manifestPath, sbomPath, signaturePath]
  unfold readDocument
  rw [shipped.read, entry]
  simp [present, PackageLibrary.loads_dumpsIndented _ request.readable_manifest, bind, Except.bind]

/-- The bill of materials is read in canonical form. -/
theorem sbom (shipped : Shipped request signer content infos) :
    readDocument infos sbomPath = .ok (Json.canonical request.sbom) := by
  have entry : (packageEntries request signer).get? sbomPath =
      some (dumpsIndented request.sbom) := by
    simp [packageEntries, sbomPath, signaturePath]
  unfold readDocument
  rw [shipped.read, entry]
  simp [present, PackageLibrary.loads_dumpsIndented _ request.readable_sbom, bind, Except.bind]

/-- The signature is read in canonical form. -/
theorem signature (shipped : Shipped request signer content infos) :
    readDocument infos signaturePath =
      .ok (Json.canonical (signer.document request.signedText)) := by
  have entry : (packageEntries request signer).get? signaturePath =
      some (dumpsIndented (signer.document request.signedText)) := by
    simp [packageEntries, signaturePath]
  unfold readDocument
  rw [shipped.read, entry]
  simp [present, PackageLibrary.loads_dumpsIndented _ (signer.readable_document _), bind,
    Except.bind]

/-- The names are those of the files and of the metadata. -/
theorem names_iff (shipped : Shipped request signer content infos) (name : String) :
    name ∈ infos.map ZipInfo.filename ↔
      name ∈ request.fileDigests.map Prod.fst ∨ name ∈ metadataPaths := by
  rw [shipped.names, request.mem_keys_fileDigests, Dict.mem_keys, Dict.mem_keys]
  simp only [packageEntries, Dict.get?_set, metadataPaths, List.mem_cons, List.not_mem_nil,
    or_false]
  by_cases first : signaturePath = name
  · simp [first]
  by_cases second : sbomPath = name
  · simp [first, second]
  by_cases third : manifestPath = name
  · simp [first, second, third]
  simp [first, second, third, Ne.symm first, Ne.symm second, Ne.symm third]

/-- A file that has no metadata name is read as it was given. -/
theorem file (shipped : Shipped request signer content infos) {name : String}
    (plain : name ∉ metadataPaths) :
    readEntry infos name = present (request.files.get? name) := by
  simp only [metadataPaths, List.mem_cons, List.not_mem_nil, or_false, not_or] at plain
  rw [shipped.read]
  simp [packageEntries, Ne.symm plain.1, Ne.symm plain.2.1, Ne.symm plain.2.2]

/-- The files of the manifest are read with their digests. -/
theorem manifest_files : ((Json.canonical request.manifest).get? "files").bind
    Json.Value.members? = some (request.fileDigests.map fun file => (file.1, .str file.2)) := by
  have listed : (Json.canonical request.manifest).get? "files" =
      some (.obj (request.fileDigests.map fun file => (file.1, .str file.2))) := by
    rw [PackageRequest.manifest, Json.get?_canonical (by simp), ← request.canonical_files]
    simp [List.lookup_cons, Json.canonical_canonical]
  rw [listed]
  rfl

/-- A listed file is read. -/
theorem exists_read (shipped : Shipped request signer content infos) {name : String}
    (listed : name ∈ request.fileDigests.map Prod.fst) :
    ∃ payload, (packageEntries request signer).get? name = some payload ∧
      readEntry infos name = .ok payload := by
  have inside := (shipped.names name).mp ((shipped.names_iff name).mpr (.inl listed))
  obtain ⟨payload, found⟩ := Dict.mem_keys.mp inside
  refine ⟨payload, found, ?_⟩
  rw [shipped.read, found]
  rfl

/-- A listed file passes its check when what is read under its name has its digest, and raises a
mismatch when it has not. -/
theorem checkFile_eq (shipped : Shipped request signer content infos)
    {file : String × String} (listed : file ∈ request.fileDigests) :
    ∃ payload, (packageEntries request signer).get? file.1 = some payload ∧
      checkFile infos (file.1, .str file.2) =
        if file.2 = sha256Bytes payload then .ok file
        else .error (.valueError ("package checksum mismatch: " ++ file.1)) := by
  obtain ⟨payload, found, read⟩ := shipped.exists_read (List.mem_map.mpr ⟨file, listed, rfl⟩)
  refine ⟨payload, found, ?_⟩
  unfold checkFile
  rw [read]
  by_cases same : file.2 = sha256Bytes payload
  · have equal : (Json.Value.str file.2).isStr (sha256Bytes payload) = true := by
      rw [Json.isStr_iff, same]
    rw [if_pos same]
    simp [bind, Except.bind, require, pure, Except.pure, ← same]
  · have differs : (Json.Value.str file.2).isStr (sha256Bytes payload) = false := by
      rw [Bool.eq_false_iff, ne_eq, Json.isStr_iff]
      exact fun equal => same (Json.Value.str.inj equal)
    rw [if_neg same]
    simp [bind, Except.bind, require, differs]

/-- No file is replaced by an entry with another digest. -/
def Undisturbed (request : PackageRequest) (signer : ArtifactSigner) : Prop :=
  ∀ path payload entry, request.files.get? path = some payload →
    (packageEntries request signer).get? path = some entry → sha256Bytes payload = sha256Bytes entry

/-- Files without metadata names are not replaced. -/
theorem undisturbed_of_plain (plain : ∀ path ∈ metadataPaths, path ∉ request.files.keys) :
    Undisturbed request signer := by
  intro path payload entry given shipped
  have other : path ∉ metadataPaths := fun inside =>
    plain path inside (Dict.mem_keys.mpr ⟨payload, given⟩)
  simp only [metadataPaths, List.mem_cons, List.not_mem_nil, or_false, not_or] at other
  simp only [packageEntries, Dict.get?_set, if_neg (Ne.symm other.1), if_neg (Ne.symm other.2.1),
    if_neg (Ne.symm other.2.2), given] at shipped
  rw [Option.some.inj shipped]

/-- When no file is replaced, every file passes its check. -/
theorem checks_of_undisturbed (shipped : Shipped request signer content infos)
    (undisturbed : Undisturbed request signer) :
    (request.fileDigests.map fun file => (file.1, Json.Value.str file.2)).mapM (checkFile infos) =
      .ok request.fileDigests := by
  have each : ∀ file ∈ request.fileDigests,
      (checkFile infos ∘ fun file => (file.1, Json.Value.str file.2)) file = .ok file := by
    intro file listed
    obtain ⟨entry, found, checked⟩ := shipped.checkFile_eq listed
    obtain ⟨payload, given, digest⟩ := request.mem_fileDigests.mp listed
    rw [Function.comp_apply, checked, if_pos (digest.trans (undisturbed _ _ _ given found))]
  rw [List.mapM_map, Loops.mapM_eq_map each, List.map_id']

omit [PackageLibrary] in
/-- The last file of a name among files of different names. -/
theorem lastNamed_of_mem {files : List (String × String)} (distinct : (files.map Prod.fst).Nodup)
    {file : String × String} (member : file ∈ files) :
    lastNamed (files.map fun file => (.str file.1, .str file.2)) file.1 = some (.str file.2) := by
  have exists_one : ((files.map fun file => (Json.Value.str file.1, Json.Value.str file.2)).reverse
      |>.find? fun other => other.1.isStr file.1).isSome = true := by
    rw [List.find?_isSome]
    refine ⟨(.str file.1, .str file.2), ?_, by simp⟩
    rw [List.mem_reverse]
    exact List.mem_map.mpr ⟨file, member, rfl⟩
  obtain ⟨other, found⟩ := Option.isSome_iff_exists.mp exists_one
  have inside := List.mem_reverse.mp (List.mem_of_find?_eq_some found)
  obtain ⟨last, listed, rfl⟩ := List.mem_map.mp inside
  have named : last.1 = file.1 := by
    simpa using List.find?_some found
  have same : last = file := List.inj_on_of_nodup_map distinct listed member named
  unfold lastNamed
  rw [found, same]
  rfl

omit [PackageLibrary] in
/-- The bill of materials covers the files of the package. -/
theorem sameFiles_self {files : List (String × String)} (distinct : (files.map Prod.fst).Nodup) :
    sameFiles (files.map fun file => (.str file.1, .str file.2)) files = true := by
  unfold sameFiles
  rw [Bool.and_eq_true, List.all_eq_true, List.all_eq_true]
  constructor
  · intro item member
    obtain ⟨file, listed, rfl⟩ := List.mem_map.mp member
    rw [List.any_eq_true]
    exact ⟨file, listed, by simp⟩
  · intro file member
    rw [lastNamed_of_mem distinct member]
    simp

/-- What the verifier reads of a package that was built. -/
def reading (request : PackageRequest) (signer : ArtifactSigner) (infos : List ZipInfo) :
    PackageReading where
  infos := infos
  manifest := Json.canonical request.manifest
  sbom := Json.canonical request.sbom
  signature := Json.canonical (signer.document request.signedText)
  files := request.fileDigests.map fun file => (file.1, .str file.2)
  digests := request.fileDigests
  found := request.fileDigests.map fun file => (.str file.1, .str file.2)
  value := .str (signer.sign request.signedText)

/-- A package passes every check before those of its files, within the limits. -/
theorem opened (shipped : Shipped request signer content infos) {limits : ArchiveLimits}
    (within : WithinLimits limits infos) :
    (reading request signer infos).Opened content signer limits where
  archive := shipped.archive
  distinct := shipped.distinct
  count := within.count
  sizes := sizes_of_fits within.fits shipped.compressed (by
    rw [Nat.zero_add]
    exact within.total)
  manifest := shipped.manifest
  sbom := shipped.sbom
  signature := shipped.signature
  files := manifest_files
  names := by
    intro name
    rw [reading, List.map_map]
    exact shipped.names_iff name
  algorithm := by
    rw [reading, ArtifactSigner.document, Json.get?_canonical (by simp)]
    simp [List.lookup_cons, Json.canonical]
  keyId := by
    rw [reading, ArtifactSigner.document, Json.get?_canonical (by simp)]
    simp [List.lookup_cons, Json.canonical]

/-- A package no file of which is replaced passes every check. -/
theorem verified (shipped : Shipped request signer content infos)
    (undisturbed : Undisturbed request signer)
    (correct : signer.verify request.signedText (.str (signer.sign request.signedText)) = some true)
    {limits : ArchiveLimits} (within : WithinLimits limits infos) :
    (reading request signer infos).Verified content signer limits where
  toOpened := shipped.opened within
  digests := shipped.checks_of_undisturbed undisturbed
  found := request.sbomFiles_canonical
  covered := sameFiles_self request.nodup_fileDigests
  complete := request.completeSbom_canonical
  value := by
    rw [reading, ArtifactSigner.document, Json.get?_canonical (by simp)]
    simp [List.lookup_cons, Json.canonical]
  valid := by
    rw [reading, signedText, Json.dumps_canonical, Json.dumps_canonical]
    exact correct

/-- A package a file of which is replaced by an entry with another digest raises a mismatch, under
the name of an entry of the metadata. -/
theorem mismatch (shipped : Shipped request signer content infos)
    (disturbed : ¬ Undisturbed request signer) {limits : ArchiveLimits}
    (within : WithinLimits limits infos) :
    ∃ name ∈ metadataPaths, verifySignedPackage content signer limits =
      .error (.valueError ("package checksum mismatch: " ++ name)) := by
  have raises : ∃ item ∈ request.fileDigests.map fun file => (file.1, Json.Value.str file.2),
      ∃ error, checkFile infos item = .error error := by
    unfold Undisturbed at disturbed
    push Not at disturbed
    obtain ⟨path, payload, entry, given, put, differs⟩ := disturbed
    have listed := request.mem_fileDigests.mpr ⟨payload, given, rfl⟩
    obtain ⟨own, found, checked⟩ := shipped.checkFile_eq listed
    obtain rfl : entry = own := Option.some.inj (put.symm.trans found)
    rw [if_neg differs] at checked
    exact ⟨_, List.mem_map.mpr ⟨_, listed, rfl⟩, _, checked⟩
  obtain ⟨item, member, error, raised, whole⟩ := Loops.error_of_mapM raises
  obtain ⟨file, listed, rfl⟩ := List.mem_map.mp member
  obtain ⟨entry, found, checked⟩ := shipped.checkFile_eq listed
  by_cases same : file.2 = sha256Bytes entry
  · rw [checked, if_pos same] at raised
    cases raised
  rw [checked, if_neg same] at raised
  have metadata : file.1 ∈ metadataPaths := by
    by_contra plain
    obtain ⟨payload, given, digest⟩ := request.mem_fileDigests.mp listed
    have read := shipped.file plain
    rw [shipped.read, found, given] at read
    exact same (digest.trans (congrArg sha256Bytes (Except.ok.inj read).symm))
  have thrown := Except.error.inj raised
  rw [← thrown] at whole
  exact ⟨file.1, metadata, (shipped.opened within).error whole⟩

end Shipped

/-! ## A library to evaluate with

Digests and archives are texts of JSON, so that no two of them are the same; reading inverts
writing. -/

section Evaluation

omit [PackageLibrary]

/-- `text.encode()`. -/
def encodeText (text : String) : Bytes := text.toByteArray.data.toList

/-- Two texts with the same bytes are the same. -/
theorem encodeText_injective {left right : String} (same : encodeText left = encodeText right) :
    left = right := by
  have arrays : left.toByteArray.data = right.toByteArray.data := Array.toList_inj.mp same
  exact String.toByteArray_inj.mp (ByteArray.ext arrays)

/-- A content as JSON. -/
def bytesJson (content : Bytes) : Json.Value := .arr (content.map fun byte => .int byte.toNat)

/-- The entries of an archive as JSON. -/
def entriesJson (entries : List (String × Bytes)) : Json.Value :=
  .arr (entries.map fun entry => .arr [.str entry.1, bytesJson entry.2])

/-- A content as JSON is in canonical form. -/
theorem canonical_bytesJson (content : Bytes) :
    Json.canonical (bytesJson content) = bytesJson content := by
  simp [bytesJson, Json.canonical, Json.canonicalItems_eq_map]

/-- Two contents that are the same JSON are the same. -/
theorem bytesJson_injective : Function.Injective bytesJson := by
  intro left right same
  have numbers : Function.Injective fun byte : UInt8 => Json.Value.int byte.toNat := by
    intro first second equal
    exact UInt8.toNat_inj.mp (Int.ofNat.inj (Json.Value.int.inj equal))
  exact List.map_injective_iff.mpr numbers (Json.Value.arr.inj same)

/-- Two lists of entries with one text are the same. -/
theorem entriesJson_injective {left right : List (String × Bytes)}
    (same : Json.dumps (entriesJson left) = Json.dumps (entriesJson right)) : left = right := by
  have fixed : ∀ entries, Json.canonical (entriesJson entries) = entriesJson entries := by
    intro entries
    simp [entriesJson, Json.canonical, Json.canonicalItems_eq_map, canonical_bytesJson]
  have values := Json.dumps_injective same
  rw [fixed, fixed] at values
  have each : Function.Injective fun entry : String × Bytes =>
      Json.Value.arr [.str entry.1, bytesJson entry.2] := by
    intro first second equal
    obtain ⟨name, rest⟩ := List.cons.inj (Json.Value.arr.inj equal)
    exact Prod.ext (Json.Value.str.inj name) (bytesJson_injective (List.cons.inj rest).1)
  exact List.map_injective_iff.mpr each (Json.Value.arr.inj values)

open Classical in
/-- A library that writes JSON and reads what it wrote. -/
@[reducible] noncomputable def PackageLibrary.transparent : PackageLibrary where
  sha256Bytes content := Json.dumps (bytesJson content)
  dumpsIndented value := encodeText (Json.dumps value)
  loads content :=
    if written : ∃ value, encodeText (Json.dumps value) = content then
      some (Json.canonical written.choose)
    else none
  writeZip entries := some (encodeText (Json.dumps (entriesJson entries)))
  readZip content :=
    if written : ∃ entries, encodeText (Json.dumps (entriesJson entries)) = content then
      some (written.choose.map fun entry =>
        ⟨entry.1, entry.2.length, entry.2.length, some entry.2⟩)
    else none
  exceedsRatio _ _ _ := false
  loads_dumpsIndented value _ := by
    have written : ∃ other, encodeText (Json.dumps other) = encodeText (Json.dumps value) :=
      ⟨value, rfl⟩
    rw [dif_pos written]
    exact congrArg some (Json.dumps_injective (encodeText_injective written.choose_spec))
  readZip_writeZip entries content _ zipped := by
    obtain rfl := Option.some.inj zipped
    have written : ∃ others, encodeText (Json.dumps (entriesJson others)) =
        encodeText (Json.dumps (entriesJson entries)) := ⟨entries, rfl⟩
    have same : written.choose = entries :=
      entriesJson_injective (encodeText_injective written.choose_spec)
    rw [dif_pos written, same]
    refine ⟨_, rfl, ?_, ?_⟩
    · rw [List.map_map]
      rfl
    · intro item member
      obtain ⟨entry, -, rfl⟩ := List.mem_map.mp member
      exact id

/-- Its digests have no collision. -/
theorem PackageLibrary.transparent_sha256 :
    @Sha256BytesInjective PackageLibrary.transparent := by
  intro left right same
  have values := Json.dumps_injective (show Json.dumps (bytesJson left) =
    Json.dumps (bytesJson right) from same)
  rw [canonical_bytesJson, canonical_bytesJson] at values
  exact bytesJson_injective values

/-- A signer whose signatures are the texts. -/
def ArtifactSigner.transparent : ArtifactSigner where
  keyId := "k"
  algorithm := "plain"
  sign text := text
  verify text value := some (value.isStr text)

/-- The signer verifies what it signed. -/
theorem ArtifactSigner.transparent_correct : ArtifactSigner.transparent.Correct := by
  intro text
  simp [ArtifactSigner.transparent]

/-- The ratio that archives are verified with by default. -/
def ratioLimit : Json.FloatText where
  text := "1000.0"
  number := List.all_eq_true.mp (by decide)
  marked := ⟨'.', by decide, by decide⟩
  head := by
    have first : "1000.0".toList.head? = some '1' := by decide
    intro c member
    rw [first] at member
    cases member
    decide

/-- Limits that some entries do not exceed. -/
def limitsOf (infos : List ZipInfo) : ArchiveLimits where
  maxEntries := infos.length + 1
  maxEntryBytes := totalSize infos + 1
  maxTotalBytes := totalSize infos + 1
  maxCompressionRatio := ratioLimit
  positive := ⟨by omega, by omega, by omega, by decide⟩

/-- With this library every accepted request is built into an archive that is read, and within
some limits. -/
theorem transparent_build (request : PackageRequest) (accepted : request.Accepted)
    (signer : ArtifactSigner) : letI := PackageLibrary.transparent
    ∃ content digest infos, buildSignedPackage request signer = .ok (content, digest) ∧
      Shipped request signer content infos ∧ WithinLimits (limitsOf infos) infos := by
  let := PackageLibrary.transparent
  have built : buildSignedPackage request signer = .ok
      (encodeText (Json.dumps (entriesJson (sortedItems (packageEntries request signer).entries))),
        sha256Bytes (encodeText (Json.dumps (entriesJson
          (sortedItems (packageEntries request signer).entries))))) := by
    unfold buildSignedPackage
    rw [if_pos accepted]
    rfl
  obtain ⟨-, infos, shipped⟩ := shipped_of_build built
  refine ⟨_, _, infos, built, shipped, ?_, ?_, ?_⟩
  · show (infos.length : Int) ≤ infos.length + 1
    omega
  · intro item member
    have part : item.fileSize ≤ totalSize infos :=
      List.single_le_sum (by simp) _ (List.mem_map.mpr ⟨item, member, rfl⟩)
    refine ⟨?_, .inr rfl⟩
    show (item.fileSize : Int) ≤ totalSize infos + 1
    omega
  · show (totalSize infos : Int) ≤ totalSize infos + 1
    omega

end Evaluation

/-! ## What the builder promises -/

/-- A package whose files have other names than the metadata is verified, with the digest that was
returned for it. A file with the name of an entry of the metadata is replaced after it was listed,
and unless the entry has its digest the package is refused. -/
theorem verify_built (request : PackageRequest) (signer : ArtifactSigner) (limits : ArchiveLimits)
    {content : Bytes} {digest : String} {infos : List ZipInfo} (correct : signer.Correct)
    (built : buildSignedPackage request signer = .ok (content, digest))
    (archive : readZip content = some infos) (within : WithinLimits limits infos) :
    ((∀ path ∈ metadataPaths, path ∉ request.files.keys) →
      verifySignedPackage content signer limits = .ok digest) ∧
    ((∃ path ∈ metadataPaths, ∃ payload entry, request.files.get? path = some payload ∧
        (packageEntries request signer).get? path = some entry ∧
          sha256Bytes payload ≠ sha256Bytes entry) →
      ∃ name ∈ metadataPaths, verifySignedPackage content signer limits =
        .error (.valueError ("package checksum mismatch: " ++ name))) := by
  obtain ⟨rfl, others, shipped⟩ := shipped_of_build built
  obtain rfl : others = infos := Option.some.inj (shipped.archive.symm.trans archive)
  constructor
  · intro plain
    have undisturbed : Shipped.Undisturbed request signer := Shipped.undisturbed_of_plain plain
    exact verifySignedPackage_iff.mpr ⟨rfl, _, shipped.verified undisturbed (correct _) within⟩
  · rintro ⟨path, -, payload, entry, given, put, differs⟩
    apply shipped.mismatch _ within
    intro undisturbed
    exact differs (undisturbed path payload entry given put)

omit [PackageLibrary]

/-- A package of two files. -/
def twoFiles (name : String) (different : name ≠ "policy.py") : PackageRequest :=
  ⟨⟨[(name, [1, 2]), ("policy.py", [3])], by simpa using different⟩, "lab", "1.0.0", none⟩

/-- The connector is not the policy. -/
theorem connector_named : "connector.py" ≠ "policy.py" := by decide

/-- Nor is the manifest. -/
theorem manifest_named : manifestPath ≠ "policy.py" := by decide

/-- A package with a connector. -/
abbrev plainFiles : PackageRequest := twoFiles "connector.py" connector_named

/-- A package with a file of the name of the manifest. -/
abbrev manifestFiles : PackageRequest := twoFiles manifestPath manifest_named

/-- A file with the name of the manifest is replaced by it. -/
theorem replaced_manifest : letI := PackageLibrary.transparent
    manifestFiles.files.get? manifestPath = some [1, 2] ∧
      ∃ entry, (packageEntries manifestFiles .transparent).get? manifestPath =
        some entry ∧ sha256Bytes [1, 2] ≠ sha256Bytes entry := by
  let := PackageLibrary.transparent
  refine ⟨rfl, dumpsIndented manifestFiles.manifest, ?_, ?_⟩
  · simp [packageEntries, manifestPath, sbomPath, signaturePath]
  · have other : dumpsIndented manifestFiles.manifest ≠ [1, 2] := by decide +kernel
    intro same
    exact other (PackageLibrary.transparent_sha256 same).symm

/-- A package of files with names of their own is verified; one of a file with the name of the
manifest is refused. -/
theorem verify_built_small : letI := PackageLibrary.transparent
    (∃ content digest limits,
      buildSignedPackage plainFiles .transparent = .ok (content, digest) ∧
        verifySignedPackage content .transparent limits = .ok digest) ∧
    ∃ content digest limits,
      buildSignedPackage manifestFiles .transparent = .ok (content, digest) ∧
        ∃ name ∈ metadataPaths, verifySignedPackage content .transparent limits =
          .error (.valueError ("package checksum mismatch: " ++ name)) := by
  let := PackageLibrary.transparent
  constructor
  · obtain ⟨content, digest, infos, built, shipped, within⟩ :=
      transparent_build plainFiles (by decide) .transparent
    exact ⟨content, digest, _, built, (verify_built _ _ _ ArtifactSigner.transparent_correct built
      shipped.archive within).1 (by decide)⟩
  · obtain ⟨content, digest, infos, built, shipped, within⟩ :=
      transparent_build manifestFiles (by decide) .transparent
    obtain ⟨given, entry, put, differs⟩ := replaced_manifest
    exact ⟨content, digest, _, built, (verify_built _ _ _ ArtifactSigner.transparent_correct built
      shipped.archive within).2 ⟨manifestPath, by decide, [1, 2], entry, given, put, differs⟩⟩

/-- A package that was built with a file of the name of the manifest is not verified, within limits
that its archive does not exceed. -/
theorem built_refused : letI := PackageLibrary.transparent
    ∃ content digest infos limits, ArtifactSigner.transparent.Correct ∧
      buildSignedPackage manifestFiles .transparent = .ok (content, digest) ∧
        readZip content = some infos ∧ WithinLimits limits infos ∧
          verifySignedPackage content .transparent limits ≠ .ok digest := by
  let := PackageLibrary.transparent
  obtain ⟨content, digest, infos, built, shipped, within⟩ :=
    transparent_build manifestFiles (by decide) .transparent
  obtain ⟨given, entry, put, differs⟩ := replaced_manifest
  refine ⟨content, digest, infos, _, ArtifactSigner.transparent_correct, built, shipped.archive,
    within, ?_⟩
  have disturbed : ¬ Shipped.Undisturbed manifestFiles .transparent :=
    fun undisturbed => differs (undisturbed _ _ _ given put)
  obtain ⟨name, -, refused⟩ := shipped.mismatch disturbed within
  rw [refused]
  exact fun same => nomatch same

end DataHarness
