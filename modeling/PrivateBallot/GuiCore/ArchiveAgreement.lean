import PrivateBallot.GuiCore.ArchiveWriter

/-!
# The archive writer and the archive verifier

Library `GuiCore`. What `archive_writer.rs` writes is what `verifier.rs` reads: the files on disk
are those of the catalog, the submissions come back in intake order, and their replay is the
session. The two disagree on the sizes of packages and documents and on a document that is
missing.
-/

namespace PrivateBallot.GuiCore

open PrivateBallot.Base PrivateBallot.Protocol PrivateBallot.Ballot PrivateBallot.Registry
open PrivateBallot.Crypto PrivateBallot.Verifier PrivateBallot.Archive PrivateBallot.Tally

/-! ### Submission paths -/

/-- Decimal digits, with zeros in front up to the width. -/
def padded (width n : Nat) : List Char :=
  List.replicate (width - (Nat.toDigits 10 n).length) '0' ++ Nat.toDigits 10 n

private theorem padded_succ (width n : Nat) (hwidth : 0 < width) :
    padded (width + 1) n = padded width (n / 10) ++ [Nat.digitChar (n % 10)] := by
  unfold padded
  by_cases hn : n < 10
  · obtain ⟨width, rfl⟩ := Nat.exists_eq_add_of_lt hwidth
    rw [Nat.toDigits_of_lt_base hn, Nat.div_eq_of_lt hn, Nat.mod_eq_of_lt hn, Nat.toDigits_zero]
    simp only [List.length_singleton, Nat.add_sub_cancel, List.append_assoc, Nat.zero_add]
    rw [List.replicate_succ', List.append_assoc]
  · rw [Nat.toDigits_of_base_le (by decide) (Nat.le_of_not_lt hn), List.length_append,
      List.length_singleton, Nat.add_sub_add_right, List.append_assoc]

theorem encode_append (a b : List Char) :
    Utf8.encode (a ++ b) = Utf8.encode a ++ Utf8.encode b := List.flatMap_append

private theorem encode_digit (d : Nat) (h : d < 10) :
    Utf8.encode [Nat.digitChar d] = [UInt8.ofNat (0x30 + d)] := by
  have hall : ∀ v : Fin 10, Utf8.encode [Nat.digitChar v] = [UInt8.ofNat (0x30 + v)] := by decide
  exact hall ⟨d, h⟩

/-- The last digit stands last. -/
theorem encode_padded_succ (width n : Nat) (hwidth : 0 < width) :
    Utf8.encode (padded (width + 1) n) =
      Utf8.encode (padded width (n / 10)) ++ [UInt8.ofNat (0x30 + n % 10)] := by
  rw [padded_succ width n hwidth, encode_append, encode_digit _ (Nat.mod_lt n (by decide))]

theorem encode_padded_one {n : Nat} (h : n < 10) :
    Utf8.encode (padded 1 n) = [UInt8.ofNat (0x30 + n)] := by
  rw [padded, Nat.toDigits_of_lt_base h]
  exact encode_digit n h

/-- As many bytes as the width. -/
theorem length_encode_padded {width n : Nat} (h : n < 10 ^ (width + 1)) :
    (Utf8.encode (padded (width + 1) n)).length = width + 1 := by
  induction width generalizing n with
  | zero =>
    rw [encode_padded_one (by simpa using h)]
    rfl
  | succ width ih =>
    rw [encode_padded_succ _ _ (Nat.succ_pos width), List.length_append,
      ih (by rw [Nat.pow_succ] at h; omega)]
    rfl

private theorem digit_lt {a b : Nat} (h : a < b) (hb : b < 10) :
    UInt8.ofNat (0x30 + a) < UInt8.ofNat (0x30 + b) := by
  rw [UInt8.lt_iff_toNat_lt, UInt8.toNat_ofNat', UInt8.toNat_ofNat']
  omega

-- The quotients are in order, or they are equal and the last digits are.
private theorem encode_padded_lt {width a b : Nat} (hlt : a < b) (hb : b < 10 ^ (width + 1)) :
    Utf8.encode (padded (width + 1) a) < Utf8.encode (padded (width + 1) b) := by
  induction width generalizing a b with
  | zero =>
    have hten : b < 10 := by simpa using hb
    rw [encode_padded_one (by omega), encode_padded_one hten, List.cons_lt_cons_iff]
    exact Or.inl (digit_lt hlt hten)
  | succ width ih =>
    have hpow : 10 ^ (width + 1 + 1) = 10 ^ (width + 1) * 10 := Nat.pow_succ 10 (width + 1)
    rw [encode_padded_succ _ _ (Nat.succ_pos width), encode_padded_succ _ _ (Nat.succ_pos width)]
    by_cases hquotient : a / 10 < b / 10
    · apply append_lt_append (ih hquotient (by omega))
      rw [length_encode_padded (by omega), length_encode_padded (by omega)]
    · have hsame : a / 10 = b / 10 := by omega
      rw [hsame]
      apply List.append_left_lt
      rw [List.cons_lt_cons_iff]
      exact Or.inl (digit_lt (by omega) (by omega))

theorem toBytes_submissionArchivePath (index : Nat) :
    (submissionArchivePath index).toBytes =
      submissionsArchivePrefix.toBytes ++ (Utf8.encode (padded 8 index) ++
        Utf8.encode ".cbor".toList) := by
  show Utf8.encode ("submissions/".toList ++ padded 8 index ++ ".cbor".toList) = _
  rw [encode_append, encode_append, List.append_assoc]
  rfl

/-- The paths of submissions are in the order of their indices, up to eight digits. -/
theorem submissionArchivePath_lt {a b : Nat} (hlt : a < b) (hb : b < 10 ^ 8) :
    (submissionArchivePath a).toBytes < (submissionArchivePath b).toBytes := by
  rw [toBytes_submissionArchivePath, toBytes_submissionArchivePath]
  apply List.append_left_lt
  apply append_lt_append (encode_padded_lt hlt hb)
  rw [length_encode_padded (by omega), length_encode_padded hb]

/-- A path of a submission is under `submissions/`. -/
theorem startsWith_submissionArchivePath (index : Nat) :
    startsWith (submissionArchivePath index) submissionsArchivePrefix = true := by
  rw [startsWith, List.isPrefixOf_iff_prefix, toBytes_submissionArchivePath]
  exact List.prefix_append _ _

/-! ### What a successful write leaves -/

section

variable {prims : Primitives} {fails : List Bytes → Bool} {session : GuiElectionSessionV1}
  {document : Option Bytes} {binding : Option TransportArchiveBindingV1}
  {finality : ArchiveFinalityMode}

/-- What a successful write leaves: the manifest over the files in path order, and a directory
that holds these files and the manifest's. -/
structure IsWritten (prims : Primitives) (session : GuiElectionSessionV1) (document : Option Bytes)
    (binding : Option TransportArchiveBindingV1) (finality : ArchiveFinalityMode)
    (result : GuiArchiveWriteResultV1) (entries : List ArchiveEntry)
    (contents : List (Text × Bytes)) (manifest : ArchiveManifestV1) (archiveHash : ArchiveHashV1)
    (manifestBytes : Bytes) : Prop where
  collected : contentFiles prims session document binding = .ok contents
  gate : checkDocument prims session document = .ok ()
  built : archiveManifestOf prims session (sortBytes pathKey contents) finality = .ok manifest
  hashed : manifest.canonicalHash prims.provider = .ok archiveHash
  encoded : manifest.toCanonicalCbor = .ok manifestBytes
  reported : result.archiveHashHex = toLowerHex archiveHash.toBytes
  names : NamesAreSound entries
  files : ∀ path bytes, FileAt entries path bytes ↔
    ∃ file ∈ contents ++ [(archiveManifestCanonicalPath, manifestBytes)],
      file.1.toBytes = path ∧ file.2 = bytes

theorem mem_sortBytes {α : Type} (key : α → Bytes) (xs : List α) (x : α) :
    x ∈ sortBytes key xs ↔ x ∈ xs := List.mem_insertionSort _

private theorem entries_of_prepare {target : ArchiveTarget} {entries : List ArchiveEntry}
    (h : prepareTargetDirectory fails target = .ok entries) : entries = [] := by
  cases target with
  | absent =>
    simp only [prepareTargetDirectory] at h
    split at h
    · cases h
    · cases h
      rfl
  | notDirectory => cases h
  | directory found =>
    simp only [prepareTargetDirectory] at h
    split at h
    · cases h
    · split at h
      · cases h
        rfl
      · cases h

/-! ### The catalog of the files -/

private theorem mapM_entries {files : List (Text × Bytes)} {entries : List ArchiveFileEntryV1}
    (h : (files.mapM fun (path, bytes) ↦ do
      let archivePath ← ArchivePathV1.new path
      pure (ArchiveFileEntryV1.forBytes archivePath prims.provider bytes) :
        Result (List ArchiveFileEntryV1)) = .ok entries) :
    entries.map (fun entry ↦ (entry.path.value, entry.digest)) =
      files.map fun file ↦ (file.1, archiveFileDigest prims.provider file.2) := by
  induction files generalizing entries with
  | nil =>
    cases h
    rfl
  | cons file rest ih =>
    rw [List.mapM_cons] at h
    obtain ⟨entry, hentry, htail⟩ := bind_eq_ok.mp h
    obtain ⟨others, hothers, hentries⟩ := bind_eq_ok.mp htail
    cases hentries
    obtain ⟨path, hpath, hpure⟩ := bind_eq_ok.mp hentry
    cases hpure
    have hvalue : path.value = file.1 := by
      unfold ArchivePathV1.new at hpath
      split at hpath
      · cases hpath
        rfl
      · cases hpath
    rw [List.map_cons, List.map_cons, ih hothers, ← hvalue]
    rfl

/-- The catalog lists the files in path order, each with its digest. -/
theorem entries_of_archiveCatalog {contents : List (Text × Bytes)} {catalog : ArchiveFileCatalogV1}
    (h : archiveCatalog prims (sortBytes pathKey contents) = .ok catalog) :
    catalog.entries.map (fun entry ↦ (entry.path.value, entry.digest)) =
      (sortBytes pathKey contents).map fun file ↦
        (file.1, archiveFileDigest prims.provider file.2) := by
  obtain ⟨entries, hentries, hnew⟩ := bind_eq_ok.mp h
  have hmapped := mapM_entries hentries
  have hsorted : sortBytes ArchiveFileEntryV1.key entries = entries := by
    apply List.Pairwise.insertionSort_eq
    have hpairs := pairwise_sortBytes pathKey contents
    have hkeys : ((sortBytes pathKey contents).map fun file ↦
        (file.1, archiveFileDigest prims.provider file.2)).Pairwise
          fun a b ↦ a.1.toBytes ≤ b.1.toBytes := List.pairwise_map.mpr hpairs
    rw [← hmapped] at hkeys
    have hentries := List.pairwise_map.mp hkeys
    exact hentries
  rw [ArchiveFileCatalogV1.entries_of_new hnew, hsorted, hmapped]

/-- The manifest of a write. -/
theorem manifest_of_archiveManifestOf {contents : List (Text × Bytes)}
    {manifest : ArchiveManifestV1}
    (h : archiveManifestOf prims session (sortBytes pathKey contents) finality = .ok manifest) :
    manifest.electionManifestHash = session.artifacts.manifestHash ∧
      manifest.isFinalizedArchiveManifest = decide (finality = .finalized) ∧
      manifest.files.entries.map (fun entry ↦ (entry.path.value, entry.digest)) =
        (sortBytes pathKey contents).map fun file ↦
          (file.1, archiveFileDigest prims.provider file.2) := by
  simp only [archiveManifestOf, bind_eq_ok, ofProtocol_eq_ok] at h
  obtain ⟨catalog, hcatalog, hmanifest⟩ := h
  have hentries := entries_of_archiveCatalog hcatalog
  cases finality with
  | legacy =>
    have hfields := ArchiveManifestV1.toArchiveManifestFields_of_newWithLifecycle hmanifest
    rw [ArchiveManifestV1.isFinalizedArchiveManifest, hfields]
    exact ⟨rfl, rfl, hentries⟩
  | finalized =>
    have hfields := ArchiveManifestV1.toArchiveManifestFields_of_newWithLifecycle hmanifest
    rw [ArchiveManifestV1.isFinalizedArchiveManifest, hfields]
    exact ⟨rfl, rfl, hentries⟩

/-- A successful write leaves the files and the manifest, and nothing else. -/
theorem isWritten_of_write {target : ArchiveTarget} {result : GuiArchiveWriteResultV1}
    {entries : List ArchiveEntry}
    (h : writeArchiveDirectoryV1WithOptionalBinding prims fails session target document binding
      finality = .ok (result, entries)) :
    ∃ contents manifest archiveHash manifestBytes, IsWritten prims session document binding
      finality result entries contents manifest archiveHash manifestBytes := by
  simp only [writeArchiveDirectoryV1WithOptionalBinding, bind_eq_ok, ofProtocol_eq_ok] at h
  obtain ⟨_, _, prepared, hprepared, contents, hcontents, _, hdocument, manifest, hmanifest,
    archiveHash, hhash, manifestBytes, hbytes, directories, hdirectories, written, hwritten,
    hresult⟩ := h
  cases hresult
  rw [entries_of_prepare hprepared] at hdirectories
  obtain ⟨hsound, hempty⟩ := createDirectories_spec namesAreSound_nil hdirectories
  have hpaths : ∀ file ∈ sortBytes pathKey contents ++
      [(archiveManifestCanonicalPath, manifestBytes)],
      ∀ name ∈ file.1.toBytes.splitOn slash, IsFileName name := by
    intro file hfile
    rcases List.mem_append.mp hfile with hfile | hfile
    · obtain ⟨-, -, hentries⟩ := manifest_of_archiveManifestOf hmanifest
      have hlisted := List.mem_map_of_mem (f := fun file : Text × Bytes ↦
        (file.1, archiveFileDigest prims.provider file.2)) hfile
      rw [← hentries] at hlisted
      obtain ⟨entry, -, hentry⟩ := List.mem_map.mp hlisted
      have hvalue : entry.path.value = file.1 := congrArg Prod.fst hentry
      rw [← hvalue]
      exact isFileName_of_archivePath entry.path
    · rw [List.mem_singleton.mp hfile]
      have hmanifestPath : ∀ name ∈ archiveManifestCanonicalPath.toBytes.splitOn slash,
          IsFileName name := by decide +kernel
      exact hmanifestPath
  obtain ⟨hsound', hfiles⟩ := writeFiles_spec hsound hpaths hwritten
  refine ⟨contents, manifest, archiveHash, manifestBytes, hcontents, hdocument, hmanifest, hhash,
    hbytes, rfl, hsound', ?_⟩
  intro path bytes
  rw [fileAt_iff hsound', hfiles, hempty]
  constructor
  · rintro (hold | ⟨file, hfile, hpath, rfl⟩)
    · exact absurd hold (not_hasFile_nil _ _)
    · refine ⟨file, ?_, ?_, rfl⟩
      · simpa only [List.mem_append, mem_sortBytes] using hfile
      · have hjoined := congrArg joinPath hpath
        simp only [joinPath, List.intercalate_splitOn] at hjoined
        exact hjoined.symm
  · rintro ⟨file, hfile, rfl, rfl⟩
    right
    refine ⟨file, ?_, rfl, rfl⟩
    simpa only [List.mem_append, mem_sortBytes] using hfile

/-! ### The identity is established -/

variable {result : GuiArchiveWriteResultV1} {entries : List ArchiveEntry}
  {contents : List (Text × Bytes)} {manifest : ArchiveManifestV1} {archiveHash : ArchiveHashV1}
  {manifestBytes : Bytes}

/-- The paths of the catalog are those of the files. -/
theorem IsWritten.mem_catalogPaths (h : IsWritten prims session document binding finality result
    entries contents manifest archiveHash manifestBytes) (path : Text) :
    path ∈ catalogPaths manifest ↔ ∃ bytes, (path, bytes) ∈ contents := by
  obtain ⟨-, -, hentries⟩ := manifest_of_archiveManifestOf h.built
  have hpaths := congrArg (List.map Prod.fst) hentries
  rw [List.map_map, List.map_map] at hpaths
  have hcatalog : catalogPaths manifest = (sortBytes pathKey contents).map Prod.fst := hpaths
  rw [hcatalog, List.mem_map]
  constructor
  · rintro ⟨file, hfile, rfl⟩
    exact ⟨file.2, (mem_sortBytes _ _ _).mp hfile⟩
  · rintro ⟨bytes, hfile⟩
    exact ⟨(path, bytes), (mem_sortBytes _ _ _).mpr hfile, rfl⟩

/-- Every entry of the catalog is a file with its digest. -/
theorem IsWritten.exists_file (h : IsWritten prims session document binding finality result
    entries contents manifest archiveHash manifestBytes) {entry : ArchiveFileEntryV1}
    (hentry : entry ∈ manifest.files.entries) :
    ∃ bytes, (entry.path.value, bytes) ∈ contents ∧
      archiveFileDigest prims.provider bytes = entry.digest := by
  obtain ⟨-, -, hentries⟩ := manifest_of_archiveManifestOf h.built
  have hlisted := List.mem_map_of_mem (f := fun entry : ArchiveFileEntryV1 ↦
    (entry.path.value, entry.digest)) hentry
  rw [hentries] at hlisted
  obtain ⟨file, hfile, hsame⟩ := List.mem_map.mp hlisted
  have hpath : file.1 = entry.path.value := congrArg Prod.fst hsame
  refine ⟨file.2, ?_, congrArg Prod.snd hsame⟩
  rw [← hpath]
  exact (mem_sortBytes _ _ _).mp hfile

/-- A file is at its path. -/
theorem IsWritten.fileAt (h : IsWritten prims session document binding finality result
    entries contents manifest archiveHash manifestBytes) {path : Text} {bytes : Bytes}
    (hfile : (path, bytes) ∈ contents) : FileAt entries path.toBytes bytes :=
  (h.files _ _).mpr ⟨(path, bytes), List.mem_append_left _ hfile, rfl, rfl⟩

/-- Every path of the catalog is a content path. -/
theorem isContentPath_of_mem_catalogPaths {manifest : ArchiveManifestV1} {path : Text}
    (h : path ∈ catalogPaths manifest) : isContentPath path.toBytes = true := by
  obtain ⟨entry, hentry, rfl⟩ := List.mem_map.mp h
  have hvalid := manifest.valid
  simp only [ArchiveManifestFields.validate, bind_eq_ok] at hvalid
  obtain ⟨_, _, _, _, hscope⟩ := hvalid
  have hentry' := forM_eq_ok.mp hscope entry hentry
  simp only [validateCatalogScope, bind_eq_ok, refuseIf_eq_ok, decide_eq_false_iff_not] at hentry'
  obtain ⟨_, hmanifest, hsignature⟩ := hentry'
  have hne : entry.path.value.toBytes ≠ archiveManifestCanonicalPath.toBytes := by
    intro heq
    exact hmanifest (Text.ext heq)
  rw [startsWith] at hsignature
  rw [isContentPath, hsignature, decide_eq_true hne]
  rfl

/-- The established identity of a written archive. -/
def establishedOf (entries : List ArchiveEntry) (manifest : ArchiveManifestV1)
    (archiveHash : ArchiveHashV1) : EstablishedIdentityV1 where
  archiveHash := archiveHash
  archiveManifest := manifest
  files := contentsOf (.ofEntries entries) manifest.files.entries
  result := { identityReport manifest archiveHash with
    files := manifest.files.entries.map passedCheck }

/-- A file within its limit is read. -/
theorem IsWritten.read (h : IsWritten prims session document binding finality result
    entries contents manifest archiveHash manifestBytes) {path : Text} {bytes : Bytes}
    (hfile : (path, bytes) ∈ contents) (hsize : bytes.length ≤ archiveFileLimit path) :
    (ArchiveReads.ofEntries entries).file path = .ok bytes :=
  (readWithin_eq_ok h.names path _ bytes).mpr ⟨h.fileAt hfile, hsize⟩

/-- The catalog is what is found on disk. -/
theorem IsWritten.mem_diskFiles (h : IsWritten prims session document binding finality result
    entries contents manifest archiveHash manifestBytes) (path : Bytes) :
    path ∈ enumerateDiskFiles entries ↔ path ∈ (catalogPaths manifest).map Text.toBytes := by
  rw [mem_enumerateDiskFiles, List.mem_map]
  constructor
  · rintro ⟨⟨bytes, hfile⟩, hcontent⟩
    obtain ⟨file, hmem, rfl, rfl⟩ := (h.files _ _).mp hfile
    rcases List.mem_append.mp hmem with hmem | hmem
    · exact ⟨file.1, (h.mem_catalogPaths _).mpr ⟨file.2, hmem⟩, rfl⟩
    · rw [List.mem_singleton.mp hmem] at hcontent
      simp [isContentPath] at hcontent
  · rintro ⟨path, hpath, rfl⟩
    obtain ⟨bytes, hfile⟩ := (h.mem_catalogPaths path).mp hpath
    exact ⟨⟨bytes, h.fileAt hfile⟩, isContentPath_of_mem_catalogPaths hpath⟩

/-- Files within their limits establish the identity of what was written. -/
theorem IsWritten.isEstablished (h : IsWritten prims session document binding finality result
    entries contents manifest archiveHash manifestBytes)
    (hsizes : ∀ file ∈ contents, file.2.length ≤ archiveFileLimit file.1) :
    IsEstablished prims.provider (.ofEntries entries)
      (establishedOf entries manifest archiveHash) := by
  have hbytes : manifestBytes.length ≤ maxCanonicalObjectBytes := length_le_of_limited h.encoded
  refine ⟨⟨manifestBytes, ?_, ArchiveManifestV1.fromCanonicalCbor_toCanonicalCbor h.encoded⟩,
    h.hashed, ⟨_, rfl, h.mem_diskFiles⟩, rfl, ?_, rfl⟩
  · apply (readWithin_eq_ok h.names _ _ _).mpr
    refine ⟨(h.files _ _).mpr ⟨(archiveManifestCanonicalPath, manifestBytes), ?_, rfl, rfl⟩,
      hbytes⟩
    exact List.mem_append_right _ List.mem_cons_self
  · intro entry hentry
    obtain ⟨bytes, hfile, hdigest⟩ := h.exists_file hentry
    have hread := h.read hfile (hsizes _ hfile)
    have hcontent : contentOf (.ofEntries entries) entry = bytes := by
      rw [contentOf, hread]
      rfl
    rw [hcontent]
    exact ⟨hread, hdigest⟩

/-- The bytes that are looked up for a file. -/
theorem IsWritten.fileBytes (h : IsWritten prims session document binding finality result
    entries contents manifest archiveHash manifestBytes)
    {path : Text} {bytes : Bytes} (hfile : (path, bytes) ∈ contents)
    (hsize : bytes.length ≤ archiveFileLimit path) :
    (establishedOf entries manifest archiveHash).files.lookup path = some bytes := by
  have hpath := (h.mem_catalogPaths path).mpr ⟨bytes, hfile⟩
  show (contentsOf (.ofEntries entries) manifest.files.entries).lookup path = some bytes
  rw [lookup_contentsOf _ hpath, h.read hfile hsize]
  rfl

/-! ### Which files there are, and their sizes -/

/-- The encodings that are archived, and the files made of them. -/
structure IsCollected (prims : Primitives) (session : GuiElectionSessionV1)
    (document : Option Bytes) (binding : Option TransportArchiveBindingV1)
    (contents : List (Text × Bytes)) (manifestBytes candidateBytes registryBytes : Bytes)
    (bound : List (Text × Bytes)) : Prop where
  manifest : session.artifacts.manifest.toCanonicalCbor = .ok manifestBytes
  candidates : session.artifacts.candidates.toCanonicalCbor = .ok candidateBytes
  registry : session.artifacts.registry.toCanonicalCbor = .ok registryBytes
  belongs : bindingFile prims session.artifacts binding = .ok bound
  listed : contents = [(electionManifestArchivePath, manifestBytes),
    (candidateSetArchivePath, candidateBytes), (voterRegistryArchivePath, registryBytes)] ++
    submissionFiles session.packages ++
    document.toList.map (fun bytes ↦ (governanceDocumentArchivePath, bytes)) ++ bound

theorem isCollected_of_contentFiles
    (h : contentFiles prims session document binding = .ok contents) :
    ∃ manifestBytes candidateBytes registryBytes bound, IsCollected prims session document binding
      contents manifestBytes candidateBytes registryBytes bound := by
  simp only [contentFiles, bind_eq_ok, ofProtocol_eq_ok] at h
  obtain ⟨manifestBytes, hmanifest, candidateBytes, hcandidates, registryBytes, hregistry, bound,
    hbound, hcontents⟩ := h
  cases hcontents
  exact ⟨manifestBytes, candidateBytes, registryBytes, bound, hmanifest, hcandidates, hregistry,
    hbound, rfl⟩

theorem mem_submissionFiles {packages : List Bytes} {path : Text} {bytes : Bytes} :
    (path, bytes) ∈ submissionFiles packages ↔
      ∃ index, packages[index]? = some bytes ∧ path = submissionArchivePath index := by
  rw [submissionFiles, List.mem_mapIdx]
  constructor
  · rintro ⟨index, hindex, hfile⟩
    cases hfile
    exact ⟨index, List.getElem?_eq_getElem hindex, rfl⟩
  · rintro ⟨index, hbytes, rfl⟩
    obtain ⟨hindex, rfl⟩ := List.getElem?_eq_some_iff.mp hbytes
    exact ⟨index, hindex, rfl⟩

/-- A binding's file is the encoding of the binding, which belongs to the election. -/
theorem bindingFile_eq_ok {artifacts : GuiElectionArtifactsV1} {bound : List (Text × Bytes)}
    (h : bindingFile prims artifacts binding = .ok bound) :
    (binding = none ∧ bound = []) ∨ ∃ given bytes, binding = some given ∧
      bound = [(transportArchiveBindingPathV1, bytes)] ∧
      given.manifestHash = artifacts.manifestHash ∧
      given.electionId = artifacts.manifest.fields.electionId.toBytes ∧
      given.toCanonicalCbor prims.provider = .ok bytes := by
  cases binding with
  | none =>
    cases h
    exact Or.inl ⟨rfl, rfl⟩
  | some given =>
    simp only [bindingFile] at h
    split at h
    · cases h
    · next hmatches =>
      simp only [not_or, ne_eq, not_not] at hmatches
      simp only [bind_eq_ok, ofProtocol_eq_ok] at h
      obtain ⟨bytes, hbytes, hbound⟩ := h
      cases hbound
      exact Or.inr ⟨given, bytes, rfl, rfl, hmatches.1, hmatches.2, hbytes⟩

/-- The packages and the document are within the limits of the verifier. -/
def SizesFit (session : GuiElectionSessionV1) (document : Option Bytes) : Prop :=
  (∀ packageBytes ∈ session.packages, packageBytes.length ≤ maxCanonicalObjectBytes) ∧
    ∀ bytes, document = some bytes → bytes.length ≤ maxGovernanceDocumentBytes

private theorem archiveFileLimit_of_ne {path : Text} (h : path ≠ governanceDocumentArchivePath) :
    archiveFileLimit path = maxCanonicalObjectBytes := if_neg h

theorem submissionArchivePath_ne (index : Nat) {path : Text}
    (h : startsWith path submissionsArchivePrefix = false) :
    submissionArchivePath index ≠ path := by
  intro heq
  have hstarts := startsWith_submissionArchivePath index
  rw [heq, h] at hstarts
  cases hstarts

/-- Every file is within its limit exactly when the packages and the document are. -/
theorem IsCollected.sizes_iff {candidateBytes registryBytes : Bytes} {bound : List (Text × Bytes)}
    (h : IsCollected prims session document binding contents manifestBytes candidateBytes
      registryBytes bound) :
    (∀ file ∈ contents, file.2.length ≤ archiveFileLimit file.1) ↔
      SizesFit session document := by
  have hmanifest : manifestBytes.length ≤ maxCanonicalObjectBytes :=
    ElectionManifest.length_le_of_toCanonicalCbor h.manifest
  have hcandidates : candidateBytes.length ≤ maxCanonicalObjectBytes :=
    CandidateSet.length_le_of_toCanonicalCbor h.candidates
  have hregistry : registryBytes.length ≤ maxCanonicalObjectBytes :=
    RegistrySnapshot.length_le_of_toCanonicalCbor h.registry
  have hgovernance : startsWith governanceDocumentArchivePath submissionsArchivePrefix = false := by
    decide +kernel
  rw [h.listed]
  constructor
  · intro hsizes
    constructor
    · intro packageBytes hpackage
      obtain ⟨index, hindex⟩ := List.mem_iff_getElem?.mp hpackage
      have hfile : (submissionArchivePath index, packageBytes) ∈
          submissionFiles session.packages := mem_submissionFiles.mpr ⟨index, hindex, rfl⟩
      have hsize := hsizes _ (List.mem_append_left _ (List.mem_append_left _
        (List.mem_append_right _ hfile)))
      rwa [archiveFileLimit_of_ne (submissionArchivePath_ne index hgovernance)] at hsize
    · intro bytes hbytes
      have hfile : (governanceDocumentArchivePath, bytes) ∈ document.toList.map
          (fun bytes ↦ (governanceDocumentArchivePath, bytes)) := by
        rw [hbytes]
        exact List.mem_cons_self
      have hsize := hsizes _ (List.mem_append_left _ (List.mem_append_right _ hfile))
      rwa [archiveFileLimit, if_pos rfl] at hsize
  · rintro ⟨hpackages, hdocument⟩ ⟨path, bytes⟩ hfile
    show bytes.length ≤ archiveFileLimit path
    rcases List.mem_append.mp hfile with hfile | hfile
    · rcases List.mem_append.mp hfile with hfile | hfile
      · rcases List.mem_append.mp hfile with hfile | hfile
        · simp only [List.mem_cons, Prod.mk.injEq, List.not_mem_nil, or_false] at hfile
          rcases hfile with ⟨rfl, rfl⟩ | ⟨rfl, rfl⟩ | ⟨rfl, rfl⟩
          · rw [archiveFileLimit_of_ne (by decide +kernel)]
            exact hmanifest
          · rw [archiveFileLimit_of_ne (by decide +kernel)]
            exact hcandidates
          · rw [archiveFileLimit_of_ne (by decide +kernel)]
            exact hregistry
        · obtain ⟨index, hindex, rfl⟩ := mem_submissionFiles.mp hfile
          rw [archiveFileLimit_of_ne (submissionArchivePath_ne index hgovernance)]
          exact hpackages bytes (List.mem_of_getElem? hindex)
      · obtain ⟨given, hgiven, hsame⟩ := List.mem_map.mp hfile
        cases hsame
        rw [archiveFileLimit, if_pos rfl]
        exact hdocument bytes (Option.mem_toList.mp hgiven)
    · rcases bindingFile_eq_ok h.belongs with ⟨-, rfl⟩ | ⟨given, encoded, -, rfl, -, -, hencoded⟩
      · cases hfile
      · cases List.mem_singleton.mp hfile
        rw [archiveFileLimit_of_ne (by decide +kernel)]
        exact TransportArchiveBindingV1.length_le_of_toCanonicalCbor hencoded

/-! ### Submissions come back in intake order -/

variable {candidateBytes registryBytes electionBytes : Bytes} {bound : List (Text × Bytes)}

private theorem startsWith_of_mem_contents
    (h : IsCollected prims session document binding contents electionBytes candidateBytes
      registryBytes bound) {path : Text} {bytes : Bytes} (hfile : (path, bytes) ∈ contents) :
    startsWith path submissionsArchivePrefix = true ↔
      (path, bytes) ∈ submissionFiles session.packages := by
  constructor
  · intro hstarts
    have hother : ∀ other : Text, startsWith other submissionsArchivePrefix = false →
        path = other → False := by
      rintro other hnot rfl
      rw [hnot] at hstarts
      cases hstarts
    rw [h.listed] at hfile
    rcases List.mem_append.mp hfile with hfile | hfile
    · rcases List.mem_append.mp hfile with hfile | hfile
      · rcases List.mem_append.mp hfile with hfile | hfile
        · simp only [List.mem_cons, Prod.mk.injEq, List.not_mem_nil, or_false] at hfile
          rcases hfile with ⟨hpath, -⟩ | ⟨hpath, -⟩ | ⟨hpath, -⟩
          · exact (hother _ (by decide +kernel) hpath).elim
          · exact (hother _ (by decide +kernel) hpath).elim
          · exact (hother _ (by decide +kernel) hpath).elim
        · exact hfile
      · obtain ⟨given, -, hsame⟩ := List.mem_map.mp hfile
        exact (hother governanceDocumentArchivePath (by decide +kernel)
          (congrArg Prod.fst hsame).symm).elim
    · rcases bindingFile_eq_ok h.belongs with ⟨-, rfl⟩ | ⟨given, encoded, -, rfl, -, -, -⟩
      · cases hfile
      · exact (hother transportArchiveBindingPathV1 (by decide +kernel)
          (congrArg Prod.fst (List.mem_singleton.mp hfile))).elim
  · intro hsubmission
    obtain ⟨index, -, rfl⟩ := mem_submissionFiles.mp hsubmission
    exact startsWith_submissionArchivePath index

/-- There are fewer packages than eight digits count. -/
theorem IsWritten.packages_length (h : IsWritten prims session document binding finality result
    entries contents manifest archiveHash manifestBytes)
    (hcollected : IsCollected prims session document binding contents electionBytes candidateBytes
      registryBytes bound) : session.packages.length ≤ maxArchiveFiles := by
  obtain ⟨-, -, hentries⟩ := manifest_of_archiveManifestOf h.built
  have hlength := congrArg List.length hentries
  rw [List.length_map, List.length_map, length_sortBytes, hcollected.listed] at hlength
  simp only [List.length_append, submissionFiles, List.length_mapIdx] at hlength
  have hlimit := manifest.files.length_le
  omega

private theorem submissionPaths_eq (h : IsWritten prims session document binding finality result
    entries contents manifest archiveHash manifestBytes)
    (hcollected : IsCollected prims session document binding contents electionBytes candidateBytes
      registryBytes bound) :
    submissionPaths manifest = (List.range session.packages.length).map submissionArchivePath := by
  have hirrefl : Std.Irrefl fun a b : Text ↦ a.toBytes < b.toBytes :=
    ⟨fun a ↦ List.lt_irrefl a.toBytes⟩
  have hantisymm : Std.Antisymm fun a b : Text ↦ a.toBytes < b.toBytes :=
    ⟨fun a b hlt hgt ↦ absurd hgt (List.lt_asymm hlt)⟩
  have hlength := h.packages_length hcollected
  have hread : (submissionPaths manifest).Pairwise fun a b ↦ a.toBytes < b.toBytes := by
    apply List.Pairwise.filter
    exact List.pairwise_map.mpr manifest.files.ascending
  have hwritten : ((List.range session.packages.length).map submissionArchivePath).Pairwise
      fun a b ↦ a.toBytes < b.toBytes := by
    apply List.pairwise_map.mpr
    apply List.pairwise_lt_range.imp_of_mem
    intro a b _ hb hlt
    apply submissionArchivePath_lt hlt
    have hrange := List.mem_range.mp hb
    have hdigits : maxArchiveFiles < 10 ^ 8 := by decide
    omega
  apply List.Pairwise.eq_of_mem_iff hread hwritten
  intro path
  simp only [submissionPaths, List.mem_filter, h.mem_catalogPaths, List.mem_map, List.mem_range]
  constructor
  · rintro ⟨⟨bytes, hfile⟩, hstarts⟩
    have hsubmission := (startsWith_of_mem_contents hcollected hfile).mp hstarts
    obtain ⟨index, hindex, rfl⟩ := mem_submissionFiles.mp hsubmission
    obtain ⟨hlt, -⟩ := List.getElem?_eq_some_iff.mp hindex
    exact ⟨index, hlt, rfl⟩
  · rintro ⟨index, hindex, rfl⟩
    refine ⟨⟨session.packages[index], ?_⟩, startsWith_submissionArchivePath index⟩
    have hfile : (submissionArchivePath index, session.packages[index]) ∈
        submissionFiles session.packages :=
      mem_submissionFiles.mpr ⟨index, List.getElem?_eq_getElem hindex, rfl⟩
    rw [hcollected.listed]
    exact List.mem_append_left _ (List.mem_append_left _ (List.mem_append_right _ hfile))

/-- The submissions are the packages, in order. -/
theorem IsWritten.submissions_eq (h : IsWritten prims session document binding finality result
    entries contents manifest archiveHash manifestBytes)
    (hcollected : IsCollected prims session document binding contents electionBytes candidateBytes
      registryBytes bound)
    (hsizes : ∀ file ∈ contents, file.2.length ≤ archiveFileLimit file.1) :
    (submissionPaths manifest).map
        (Archive.fileBytes (establishedOf entries manifest archiveHash).files) =
      session.packages := by
  rw [submissionPaths_eq h hcollected, List.map_map]
  apply List.ext_getElem
  · rw [List.length_map, List.length_range]
  · intro index hleft hright
    have hfile : (submissionArchivePath index, session.packages[index]) ∈ contents := by
      rw [hcollected.listed]
      apply List.mem_append_left
      apply List.mem_append_left
      apply List.mem_append_right
      exact mem_submissionFiles.mpr ⟨index, List.getElem?_eq_getElem hright, rfl⟩
    have hlookup := h.fileBytes hfile (hsizes _ hfile)
    simp only [List.getElem_map, List.getElem_range, Function.comp_apply, Archive.fileBytes,
      hlookup, Option.getD_some]

end

/-! ### The replay is the session -/

namespace GuiElectionSessionV1

variable {prims : Primitives}

/-- What the verifier keeps of the artifacts. -/
def archived (artifacts : GuiElectionArtifactsV1) : ArchiveElectionArtifactsV1 :=
  ⟨artifacts.manifest, artifacts.registry, artifacts.candidates, artifacts.manifestHash,
    artifacts.registryCommitment⟩

/-- What a replay keeps of a session. -/
def toReplay (self : GuiElectionSessionV1) : ArchiveReplaySessionV1 :=
  ⟨archived self.artifacts, self.verifier, self.lifecycle, self.ledger, self.transcript⟩

/-- The verifier loads the artifacts that the session was loaded from. -/
theorem archived_of_fromBytes {manifestBytes registryBytes candidateBytes : Bytes}
    {artifacts : GuiElectionArtifactsV1}
    (h : GuiElectionArtifactsV1.fromBytes prims manifestBytes registryBytes candidateBytes =
      .ok artifacts) :
    ArchiveElectionArtifactsV1.fromBytes prims.nfc prims.provider manifestBytes registryBytes
      candidateBytes = .ok (archived artifacts) := by
  simp only [GuiElectionArtifactsV1.fromBytes, bind_eq_ok, ofProtocol_eq_ok] at h
  obtain ⟨manifest, hmanifest, registry, hregistry, candidates, hcandidates, hbind⟩ := h
  simp only [ArchiveElectionArtifactsV1.fromBytes, bind_eq_ok, codeStr_eq_ok]
  refine ⟨manifest, hmanifest, registry, hregistry, candidates, hcandidates, ?_⟩
  simp only [GuiElectionArtifactsV1.bindDecoded, bind_eq_ok, ofProtocol_eq_ok] at hbind
  obtain ⟨registryCommitment, hregistryCommitment, hbind⟩ := hbind
  refine ⟨registryCommitment, hregistryCommitment, ?_⟩
  split at hbind
  · cases hbind
  · next hsame =>
    rw [if_neg hsame]
    simp only [bind_eq_ok, ofProtocol_eq_ok, codeStr_eq_ok] at hbind ⊢
    obtain ⟨candidateCommitment, hcandidateCommitment, hbind⟩ := hbind
    refine ⟨candidateCommitment, hcandidateCommitment, ?_⟩
    split at hbind
    · cases hbind
    · next hsame' =>
      rw [if_neg hsame']
      simp only [bind_eq_ok, ofProtocol_eq_ok, codeStr_eq_ok] at hbind ⊢
      obtain ⟨manifestHash, hmanifestHash, u, hpolicy, hartifacts⟩ := hbind
      cases hartifacts
      exact ⟨manifestHash, hmanifestHash, u, hpolicy, rfl⟩

/-- The verifier's serial replay is what the session records. -/
theorem replaySerial_toReplay (prims : Primitives) {session : GuiElectionSessionV1}
    (h : session.IsComplete)
    (packages : List Bytes) :
    session.toReplay.replaySerial prims.crate prims.provider packages =
      (.ok (), (session.recordedAll prims packages).toReplay) := by
  induction packages generalizing session with
  | nil => rfl
  | cons packageBytes rest ih =>
    have hintake : session.toReplay.intakeBallot prims.crate prims.provider packageBytes =
        (.ok (), (session.recorded prims packageBytes).toReplay) := by
      have hrecord := session.transcript.recordDecision_recordSubmission
        (packageDigest prims.provider packageBytes) true
        (.ofResult (session.ingestOf prims packageBytes).1) h
      unfold ArchiveReplaySessionV1.intakeBallot ArchiveReplaySessionV1.recordIngest
      simp only [ingestOf, context] at hrecord
      simp only [toReplay, ArchiveReplaySessionV1.context, archived, hrecord]
      rfl
    rw [ArchiveReplaySessionV1.replaySerial, hintake]
    exact ih (h.recorded packageBytes)

/-- A new session is opened by the verifier as it is by the organizer. -/
theorem replay_of_new {artifacts : GuiElectionArtifactsV1} {fresh : GuiElectionSessionV1}
    (h : GuiElectionSessionV1.new prims artifacts = .ok fresh) :
    ArchiveReplaySessionV1.new prims.crate prims.provider (archived artifacts) =
        .ok fresh.toReplay ∧
      fresh.toReplay.openVoting = .ok (fresh.inState .opened ∅).toReplay := by
  simp only [GuiElectionSessionV1.new, bind_eq_ok, ofProtocol_eq_ok] at h
  obtain ⟨verifier, hverifier, lifecycle, hlifecycle, hfresh⟩ := h
  cases hlifecycle
  cases hfresh
  constructor
  · simp only [ArchiveReplaySessionV1.new, bind_eq_ok, codeStr_eq_ok]
    exact ⟨verifier, hverifier, _, rfl, rfl⟩
  · rfl

/-- Every accepted ballot selects candidates of the election. -/
theorem mem_candidates_of_accepted {session : GuiElectionSessionV1}
    (h : Bookkeeping prims session) :
    ∀ ballot ∈ session.ledger.acceptedBallots, ∀ id ∈ ballot.payload.selections,
      session.artifacts.candidates.contains id = true := by
  intro ballot hballot
  have hlisted := List.mem_map_of_mem (f := some) hballot
  rw [h.accepted] at hlisted
  obtain ⟨packageBytes, -, hentry⟩ := List.mem_map.mp hlisted
  unfold verifiedEntry at hentry
  split at hentry
  · next verified hverify =>
    cases hentry
    exact mem_candidates_of_verify hverify
  · cases hentry

/-- The session has a tally, as long as its packages can be counted. -/
theorem exists_directTally {session : GuiElectionSessionV1} (h : Bookkeeping prims session)
    (hlength : session.packages.length < 2 ^ 64) :
    ∃ tally, ApprovalTally.fromBallots session.artifacts.candidates
      (session.ledger.acceptedBallots.map (·.payload)) = .ok tally := by
  have haccepted : session.ledger.acceptedBallots.length ≤ session.packages.length := by
    have hcount := congrArg List.length h.accepted
    simp only [List.length_map, acceptedPackages] at hcount
    rw [hcount]
    apply (List.length_filter_le _ _).trans
    rw [List.length_zip]
    exact Nat.min_le_left _ _
  apply ApprovalTally.exists_fromBallots
  · rw [List.length_map]
    omega
  · intro payload hpayload
    obtain ⟨ballot, hballot, rfl⟩ := List.mem_map.mp hpayload
    exact mem_candidates_of_accepted h ballot hballot

/-- A replayed session: the verifier's replay of its packages has its ledger and transcript. -/
theorem IsReplayed.replay {session : GuiElectionSessionV1} (h : IsReplayed prims session) :
    ∃ created opened replayed,
      ArchiveReplaySessionV1.new prims.crate prims.provider (archived session.artifacts) =
        .ok created ∧ created.openVoting = .ok opened ∧
      opened.replaySerial prims.crate prims.provider session.packages = (.ok (), replayed) ∧
      replayed.artifacts = archived session.artifacts ∧ replayed.ledger = session.ledger ∧
      replayed.transcript = session.transcript ∧
      session.transcript.acceptedCount = session.acceptedCount := by
  obtain ⟨fresh, hnew, hsession⟩ := h.replayed
  obtain ⟨hcreated, hopened⟩ := replay_of_new hnew
  have hcomplete : (fresh.inState .opened ∅).IsComplete := (new_eq_ok hnew).2.2.2.2
  have hreplay := replaySerial_toReplay prims hcomplete session.packages
  have hfields : ((fresh.inState .opened ∅).recordedAll prims session.packages).artifacts =
        session.artifacts ∧
      ((fresh.inState .opened ∅).recordedAll prims session.packages).ledger = session.ledger ∧
      ((fresh.inState .opened ∅).recordedAll prims session.packages).transcript =
        session.transcript := by
    exact ⟨(congrArg GuiElectionSessionV1.artifacts hsession).symm,
      (congrArg GuiElectionSessionV1.ledger hsession).symm,
      (congrArg GuiElectionSessionV1.transcript hsession).symm⟩
  obtain ⟨hartifacts, hledger, htranscript⟩ := hfields
  have hbalanced : (fresh.inState .opened ∅).toReplay.IsBalanced := by
    simp only [GuiElectionSessionV1.new, bind_eq_ok, ofProtocol_eq_ok] at hnew
    obtain ⟨verifier, -, lifecycle, -, hfresh⟩ := hnew
    cases hfresh
    exact ⟨rfl, rfl⟩
  obtain ⟨again, hagain, -, hstill, -⟩ :=
    ArchiveReplaySessionV1.replaySerial_eq prims.crate prims.provider hbalanced session.packages
  rw [hreplay] at hagain
  cases hagain
  refine ⟨fresh.toReplay, _, _, hcreated, hopened, hreplay, ?_, hledger, htranscript, ?_⟩
  · show archived _ = _
    rw [hartifacts]
  · have hcount := hstill.2
    simp only [toReplay, hledger, htranscript] at hcount
    exact hcount

end GuiElectionSessionV1

/-! ### Agreement -/

/-- The verifier finds what the session is and what the writer reported. -/
def Agrees (session : GuiElectionSessionV1) (finality : ArchiveFinalityMode)
    (result : GuiArchiveWriteResultV1)
    (verification : Except ArchiveVerifierError ArchiveDirectoryVerificationV1) : Prop :=
  ∃ report tally, verification = .ok report ∧ report.verified = true ∧
    report.archiveHashHex = some result.archiveHashHex ∧
    report.acceptedCount = session.acceptedCount ∧
    report.rejectedCount = session.transcript.rejectedCount ∧
    session.directTally = .ok tally ∧
    report.tally = some (summarizeTally tally session.artifacts.candidates) ∧
    report.finalized = decide (finality = .finalized)

/-- What the verifier asks for and the writer does not check: sizes within the limits, and a
document where the manifest pins one by its digest. -/
def MeetsVerifierRules (session : GuiElectionSessionV1) (document : Option Bytes) : Prop :=
  SizesFit session document ∧
    ((validateGovernanceSourcePin
      session.artifacts.manifest.fields.governanceSourceRevision).isContentDigest = true →
        document ≠ none)

section

variable {prims : Primitives} {fails : List Bytes → Bool} {session : GuiElectionSessionV1}
  {document : Option Bytes} {binding : Option TransportArchiveBindingV1}
  {finality : ArchiveFinalityMode} {result : GuiArchiveWriteResultV1}
  {entries : List ArchiveEntry} {contents : List (Text × Bytes)} {manifest : ArchiveManifestV1}
  {archiveHash : ArchiveHashV1} {manifestBytes electionBytes candidateBytes registryBytes : Bytes}
  {bound : List (Text × Bytes)}

private theorem mem_contents_artifact
    (h : IsCollected prims session document binding contents electionBytes candidateBytes
      registryBytes bound) {file : Text × Bytes}
    (hfile : file ∈ [(electionManifestArchivePath, electionBytes),
      (candidateSetArchivePath, candidateBytes), (voterRegistryArchivePath, registryBytes)]) :
    file ∈ contents := by
  rw [h.listed]
  exact List.mem_append_left _ (List.mem_append_left _ (List.mem_append_left _ hfile))

private theorem mem_contents_document
    (h : IsCollected prims session document binding contents electionBytes candidateBytes
      registryBytes bound) (bytes : Bytes) :
    (governanceDocumentArchivePath, bytes) ∈ contents ↔ document = some bytes := by
  rw [h.listed]
  constructor
  · intro hfile
    rcases List.mem_append.mp hfile with hfile | hfile
    · rcases List.mem_append.mp hfile with hfile | hfile
      · rcases List.mem_append.mp hfile with hfile | hfile
        · have hnone : ∀ path ∈ [electionManifestArchivePath, candidateSetArchivePath,
              voterRegistryArchivePath], path ≠ governanceDocumentArchivePath := by decide +kernel
          have hpath := List.mem_map_of_mem (f := Prod.fst) hfile
          exact absurd rfl (hnone _ hpath)
        · obtain ⟨index, -, hpath⟩ := mem_submissionFiles.mp hfile
          exact absurd hpath.symm (submissionArchivePath_ne index (by decide +kernel))
      · obtain ⟨given, hgiven, hsame⟩ := List.mem_map.mp hfile
        cases hsame
        exact Option.mem_toList.mp hgiven
    · rcases bindingFile_eq_ok h.belongs with ⟨-, rfl⟩ | ⟨given, encoded, -, rfl, -, -, -⟩
      · cases hfile
      · have hpath := congrArg Prod.fst (List.mem_singleton.mp hfile)
        have hne : governanceDocumentArchivePath ≠ transportArchiveBindingPathV1 := by
          decide +kernel
        exact absurd hpath hne
  · rintro rfl
    exact List.mem_append_left _ (List.mem_append_right _ List.mem_cons_self)

private theorem mem_contents_binding
    (h : IsCollected prims session document binding contents electionBytes candidateBytes
      registryBytes bound) {bytes : Bytes}
    (hfile : (transportArchiveBindingPathV1, bytes) ∈ contents) :
    (transportArchiveBindingPathV1, bytes) ∈ bound := by
  rw [h.listed] at hfile
  rcases List.mem_append.mp hfile with hfile | hfile
  · rcases List.mem_append.mp hfile with hfile | hfile
    · rcases List.mem_append.mp hfile with hfile | hfile
      · have hnone : ∀ path ∈ [electionManifestArchivePath, candidateSetArchivePath,
            voterRegistryArchivePath], path ≠ transportArchiveBindingPathV1 := by decide +kernel
        have hpath := List.mem_map_of_mem (f := Prod.fst) hfile
        exact absurd rfl (hnone _ hpath)
      · obtain ⟨index, -, hpath⟩ := mem_submissionFiles.mp hfile
        exact absurd hpath.symm (submissionArchivePath_ne index (by decide +kernel))
    · obtain ⟨given, -, hsame⟩ := List.mem_map.mp hfile
      have hpath := congrArg Prod.fst hsame
      have hne : governanceDocumentArchivePath ≠ transportArchiveBindingPathV1 := by
        decide +kernel
      exact absurd hpath hne
  · exact hfile

/-- The artifacts that the verifier decodes are the session's. -/
theorem IsWritten.decoded (h : IsWritten prims session document binding finality result
    entries contents manifest archiveHash manifestBytes)
    (hcollected : IsCollected prims session document binding contents electionBytes candidateBytes
      registryBytes bound)
    (hsizes : ∀ file ∈ contents, file.2.length ≤ archiveFileLimit file.1)
    (hreplayed : GuiElectionSessionV1.IsReplayed prims session) :
    ArchiveElectionArtifactsV1.fromBytes prims.nfc prims.provider
      (Archive.fileBytes (establishedOf entries manifest archiveHash).files
        electionManifestArchivePath)
      (Archive.fileBytes (establishedOf entries manifest archiveHash).files
        voterRegistryArchivePath)
      (Archive.fileBytes (establishedOf entries manifest archiveHash).files
        candidateSetArchivePath) = .ok (GuiElectionSessionV1.archived session.artifacts) := by
  obtain ⟨_, _, _, hloaded⟩ := hreplayed.loaded
  obtain ⟨m, r, c, hm, hr, hc, hagain⟩ := GuiElectionArtifactsV1.exists_fromBytes_encoded hloaded
  rw [hcollected.manifest] at hm
  rw [hcollected.registry] at hr
  rw [hcollected.candidates] at hc
  cases hm
  cases hr
  cases hc
  have hlookup : ∀ file ∈ [(electionManifestArchivePath, electionBytes),
      (candidateSetArchivePath, candidateBytes), (voterRegistryArchivePath, registryBytes)],
      Archive.fileBytes (establishedOf entries manifest archiveHash).files file.1 = file.2 := by
    intro file hfile
    have hmem := mem_contents_artifact hcollected hfile
    rw [Archive.fileBytes, h.fileBytes hmem (hsizes _ hmem), Option.getD_some]
  have hmanifest := hlookup (electionManifestArchivePath, electionBytes) (by simp)
  have hregistry := hlookup (voterRegistryArchivePath, registryBytes) (by simp)
  have hcandidates := hlookup (candidateSetArchivePath, candidateBytes) (by simp)
  dsimp only at hmanifest hregistry hcandidates
  rw [hmanifest, hregistry, hcandidates]
  exact GuiElectionSessionV1.archived_of_fromBytes hagain

/-- A binding that is read back is one of the election. -/
theorem IsWritten.bindingFound (h : IsWritten prims session document binding finality result
    entries contents manifest archiveHash manifestBytes)
    (hcollected : IsCollected prims session document binding contents electionBytes candidateBytes
      registryBytes bound)
    (hsizes : ∀ file ∈ contents, file.2.length ≤ archiveFileLimit file.1) {bytes : Bytes}
    (hlookup : (establishedOf entries manifest archiveHash).files.lookup
      transportArchiveBindingPathV1 = some bytes) :
    ∃ found, TransportArchiveBindingV1.fromCanonicalCbor prims.provider bytes = .ok found ∧
      found.manifestHash = session.artifacts.manifestHash ∧
      found.electionId = session.artifacts.manifest.fields.electionId.toBytes := by
  have hpath : transportArchiveBindingPathV1 ∈ catalogPaths manifest := by
    by_contra hmissing
    have hnone : (establishedOf entries manifest archiveHash).files.lookup
        transportArchiveBindingPathV1 = none := by
      apply List.lookup_eq_none_iff.mpr
      rintro file hfile
      obtain ⟨entry, hentry, rfl⟩ := List.mem_map.mp hfile
      apply bne_iff_ne.mpr
      intro hsame
      apply hmissing
      rw [hsame]
      exact List.mem_map_of_mem hentry
    rw [hnone] at hlookup
    cases hlookup
  obtain ⟨written, hfile⟩ := (h.mem_catalogPaths _).mp hpath
  rw [h.fileBytes hfile (hsizes _ hfile)] at hlookup
  cases hlookup
  have hbound := mem_contents_binding hcollected hfile
  rcases bindingFile_eq_ok hcollected.belongs with ⟨-, rfl⟩ | ⟨given, encoded, -, rfl, hhash, hid,
    hencoded⟩
  · cases hbound
  · cases List.mem_singleton.mp hbound
    exact ⟨given, TransportArchiveBindingV1.fromCanonicalCbor_toCanonicalCbor hencoded, hhash, hid⟩

/-- A document that passed the gate of the writer is the one that is pinned. -/
theorem IsWritten.pinned (h : IsWritten prims session document binding finality result
    entries contents manifest archiveHash manifestBytes)
    (hcollected : IsCollected prims session document binding contents electionBytes candidateBytes
      registryBytes bound)
    (hgiven : (validateGovernanceSourcePin
      session.artifacts.manifest.fields.governanceSourceRevision).isContentDigest = true →
        document ≠ none) {digestHex : Bytes}
    (hpin : Archive.validateGovernanceSourcePin
      session.artifacts.manifest.fields.governanceSourceRevision = .blake3Digest digestHex) :
    ∃ entry, manifest.files.entries.find? (fun entry ↦
        decide (entry.path.value = governanceDocumentArchivePath)) = some entry ∧
      toLowerHexSlice entry.digest.toBytes = digestHex := by
  rcases validateGovernanceSourcePin_cases
    session.artifacts.manifest.fields.governanceSourceRevision with ⟨known, hours, htheirs⟩ |
      ⟨-, hnone⟩
  · rw [hpin] at htheirs
    cases htheirs
    obtain ⟨bytes, rfl⟩ : ∃ bytes, document = some bytes :=
      Option.ne_none_iff_exists'.mp (hgiven (by rw [hours]; rfl))
    have hmatches : toLowerHex (archiveFileDigest prims.provider bytes).toBytes = digestHex := by
      have hgate := h.gate
      simp only [checkDocument, hours] at hgate
      split at hgate
      · cases hgate
      · next hpasses =>
        by_contra hne
        apply hpasses
        simp [GuiGovernanceSourcePinV1.isContentDigest, hne]
    have hfile := (mem_contents_document hcollected bytes).mpr rfl
    obtain ⟨listed, hlisted, hpath⟩ :=
      List.mem_map.mp ((h.mem_catalogPaths governanceDocumentArchivePath).mpr ⟨bytes, hfile⟩)
    have hfound : (manifest.files.entries.find? fun entry ↦
        decide (entry.path.value = governanceDocumentArchivePath)).isSome = true := by
      rw [List.find?_isSome]
      exact ⟨listed, hlisted, decide_eq_true hpath⟩
    obtain ⟨entry, hentry⟩ := Option.isSome_iff_exists.mp hfound
    have hvalue : entry.path.value = governanceDocumentArchivePath := by
      simpa using List.find?_some hentry
    obtain ⟨content, hcontent, hdigest⟩ := h.exists_file (List.mem_of_find?_eq_some hentry)
    rw [hvalue] at hcontent
    cases (mem_contents_document hcollected content).mp hcontent
    refine ⟨entry, hentry, ?_⟩
    rw [← hdigest]
    exact hmatches
  · exact absurd hpin (hnone digestHex)

/-- An archive that meets the rules of the verifier is found to be what the session is. -/
theorem IsWritten.agrees (laws : TriptychBatchLaws prims.crate)
    (h : IsWritten prims session document binding finality result entries contents manifest
      archiveHash manifestBytes)
    (hcollected : IsCollected prims session document binding contents electionBytes candidateBytes
      registryBytes bound)
    (hreplayed : GuiElectionSessionV1.IsReplayed prims session)
    (hrules : MeetsVerifierRules session document) :
    Agrees session finality result
      (verifyArchiveDirectoryV1 prims.crate prims.provider prims.nfc entries) := by
  obtain ⟨hfit, hgiven⟩ := hrules
  have hsizes := hcollected.sizes_iff.mpr hfit
  have hestablished := h.isEstablished hsizes
  obtain ⟨helection, hfinal, -⟩ := manifest_of_archiveManifestOf h.built
  obtain ⟨created, opened, replayed, hcreated, hopened, hreplay, hartifacts, hledger, htranscript,
    hcount⟩ := hreplayed.replay
  have hbooks := hreplayed.bookkeeping
  have hlength := h.packages_length hcollected
  obtain ⟨tally, htally⟩ := GuiElectionSessionV1.exists_directTally hbooks (by
    have hsmall : maxArchiveFiles < 2 ^ 64 := by decide
    omega)
  have hreplays : Replays prims.crate prims.provider prims.nfc
      (establishedOf entries manifest archiveHash)
      (GuiElectionSessionV1.archived session.artifacts) replayed tally := by
    refine ⟨?_, h.decoded hcollected hsizes hreplayed,
      fun bytes hlookup ↦ h.bindingFound hcollected hsizes hlookup,
      fun digestHex hpin ↦ h.pinned hcollected hgiven hpin,
      ⟨created, opened, hcreated, hopened, ?_⟩, ?_, ?_, ?_⟩
    · intro path hpath
      have hartifact : ∃ bytes, (path, bytes) ∈ [(electionManifestArchivePath, electionBytes),
          (candidateSetArchivePath, candidateBytes),
          (voterRegistryArchivePath, registryBytes)] := by
        simp only [List.mem_cons, List.not_mem_nil, or_false] at hpath
        rcases hpath with rfl | rfl | rfl
        · exact ⟨electionBytes, by simp⟩
        · exact ⟨registryBytes, by simp⟩
        · exact ⟨candidateBytes, by simp⟩
      obtain ⟨bytes, hfile⟩ := hartifact
      exact (h.mem_catalogPaths path).mpr ⟨bytes, mem_contents_artifact hcollected hfile⟩
    · rw [show (establishedOf entries manifest archiveHash).archiveManifest = manifest from rfl,
        h.submissions_eq hcollected hsizes]
      exact hreplay
    · rw [htranscript]
      exact hbooks.validateComplete
    · rw [ArchiveReplaySessionV1.directTally, hartifacts, hledger, codeStr_eq_ok]
      exact htally
    · rw [hartifacts]
      exact helection.symm
  obtain ⟨report, hreport, hverified, hfinalized, hhash, haccepted, hrejected, hcounts⟩ :=
    finishStages_of_replays laws hestablished hreplays
  refine ⟨report, tally, ?_, hverified, ?_, ?_, ?_, ?_, ?_, ?_⟩
  · rw [verifyArchiveDirectoryV1, verifyReads, establish_of_isEstablished rfl hestablished]
    show returned (finishStages _ _ _ _) = _
    rw [hreport]
    rfl
  · rw [hhash, h.reported]
    rfl
  · rw [haccepted, htranscript, hcount]
  · rw [hrejected, htranscript]
  · rw [GuiElectionSessionV1.directTally, ofProtocol_eq_ok]
    exact htally
  · rw [hcounts, hartifacts]
    rfl
  · rw [hfinalized]
    exact hfinal

/-- An archive that is verified meets the rules of the verifier. -/
theorem IsWritten.meetsVerifierRules
    (h : IsWritten prims session document binding finality result entries contents manifest
      archiveHash manifestBytes)
    (hcollected : IsCollected prims session document binding contents electionBytes candidateBytes
      registryBytes bound)
    (hreplayed : GuiElectionSessionV1.IsReplayed prims session)
    {report : ArchiveDirectoryVerificationV1}
    (hreport : verifyArchiveDirectoryV1 prims.crate prims.provider prims.nfc entries = .ok report)
    (hverified : report.verified = true) : MeetsVerifierRules session document := by
  obtain ⟨established, hestablish, hfinish⟩ := stages_of_verified hreport hverified
  have hfound := isEstablished_of_establish hestablish
  obtain ⟨read, hread, hdecoded⟩ := hfound.manifest
  obtain ⟨hreadAt, -⟩ := (readWithin_eq_ok h.names _ _ _).mp hread
  have hmanifestAt : FileAt entries archiveManifestCanonicalPath.toBytes manifestBytes :=
    (h.files _ _).mpr ⟨(archiveManifestCanonicalPath, manifestBytes),
      List.mem_append_right _ List.mem_cons_self, rfl, rfl⟩
  have hbytes := hreadAt.unique h.names hmanifestAt
  rw [hbytes, ArchiveManifestV1.fromCanonicalCbor_toCanonicalCbor h.encoded] at hdecoded
  have hmanifest : manifest = established.archiveManifest := Except.ok.inj hdecoded
  have hsizes : ∀ file ∈ contents, file.2.length ≤ archiveFileLimit file.1 := by
    rintro ⟨path, bytes⟩ hfile
    obtain ⟨entry, hentry, hpath⟩ :=
      List.mem_map.mp ((h.mem_catalogPaths path).mpr ⟨bytes, hfile⟩)
    rw [hmanifest] at hentry
    obtain ⟨hcontent, -⟩ := hfound.read entry hentry
    rw [hpath] at hcontent
    obtain ⟨hcontentAt, hlimit⟩ := (readWithin_eq_ok h.names _ _ _).mp hcontent
    rwa [hcontentAt.unique h.names (h.fileAt hfile)] at hlimit
  have hsame : established = establishedOf entries manifest archiveHash := by
    have hhash := hfound.archiveHash
    rw [← hmanifest, h.hashed] at hhash
    have hfiles := hfound.files
    have hresult := hfound.result
    rw [← hmanifest, ← Except.ok.inj hhash] at hresult
    rw [← hmanifest] at hfiles
    cases established
    simp only at hmanifest hhash hfiles hresult
    rw [establishedOf, hfiles, hresult, hmanifest, Except.ok.inj hhash]
  refine ⟨hcollected.sizes_iff.mp hsizes, ?_⟩
  intro hdigest hmissing
  obtain ⟨artifacts, hartifacts, hrest⟩ := bind_eq_ok.mp hfinish
  obtain ⟨boundReport, -, hrest⟩ := bind_eq_ok.mp hrest
  obtain ⟨pinnedReport, hpin, -⟩ := bind_eq_ok.mp hrest
  have hsessions : artifacts = GuiElectionSessionV1.archived session.artifacts := by
    unfold decodeArtifacts at hartifacts
    split at hartifacts
    · cases hartifacts
    · rw [orFail_eq_ok, hsame, h.decoded hcollected hsizes hreplayed] at hartifacts
      exact (Except.ok.inj hartifacts).symm
  rcases validateGovernanceSourcePin_cases
    session.artifacts.manifest.fields.governanceSourceRevision with ⟨known, -, htheirs⟩ |
      ⟨hnot, -⟩
  · have hrevision : Archive.validateGovernanceSourcePin
        artifacts.manifest.fields.governanceSourceRevision = .blake3Digest known := by
      rw [hsessions]
      exact htheirs
    simp only [checkGovernancePin, hrevision] at hpin
    split at hpin
    · cases hpin
    · next entry hentry =>
      have hvalue : entry.path.value = governanceDocumentArchivePath := by
        simpa using List.find?_some hentry
      rw [← hmanifest] at hentry
      obtain ⟨content, hcontent, -⟩ := h.exists_file (List.mem_of_find?_eq_some hentry)
      rw [hvalue] at hcontent
      rw [(mem_contents_document hcollected content).mp hcontent] at hmissing
      cases hmissing
  · rw [hnot] at hdigest
    cases hdigest

end

/-- The writer and the verifier agree exactly when the packages and the document are within the
verifier's limits and a document that is pinned by its digest was given: for every reachable
session, document, binding, mode and target, a write that succeeds is verified, with the archive
hash of the writer and the counts, tally and finality of the session, if and only if the rules
that only the verifier checks are met. -/
theorem writeArchiveDirectory_agrees_iff {prims : Primitives}
    (laws : TriptychBatchLaws prims.crate) (fails : List Bytes → Bool)
    {session : GuiElectionSessionV1} (hreachable : GuiElectionSessionV1.Reachable prims session)
    (target : ArchiveTarget) (document : Option Bytes)
    (binding : Option TransportArchiveBindingV1) (finality : ArchiveFinalityMode)
    {result : GuiArchiveWriteResultV1} {entries : List ArchiveEntry}
    (hwrite : writeArchiveDirectoryV1WithOptionalBinding prims fails session target document
      binding finality = .ok (result, entries)) :
    Agrees session finality result
        (verifyArchiveDirectoryV1 prims.crate prims.provider prims.nfc entries) ↔
      MeetsVerifierRules session document := by
  have hreplayed := hreachable.isReplayed laws
  obtain ⟨contents, manifest, archiveHash, manifestBytes, hwritten⟩ := isWritten_of_write hwrite
  obtain ⟨electionBytes, candidateBytes, registryBytes, bound, hcollected⟩ :=
    isCollected_of_contentFiles hwritten.collected
  constructor
  · rintro ⟨report, tally, hreport, hverified, -⟩
    exact hwritten.meetsVerifierRules hcollected hreplayed hreport hverified
  · intro hrules
    exact hwritten.agrees laws hcollected hreplayed hrules

namespace Sample

/-- The legacy archive of the drained session, without a document or a binding. -/
def drainedArchive : GuiResult (GuiArchiveWriteResultV1 × List ArchiveEntry) := do
  let session ← drainedSession
  writeArchiveDirectoryV1WithOptionalBinding prims (fun _ ↦ false) session .absent none none
    .legacy

/-- The sample election with a governance document pinned by its digest. -/
def pinnedManifest : ElectionManifest := .v1
  { Verifier.Sample.manifest.fields with
    governanceSourceRevision := .ofChars ("blake3:".toList ++ List.replicate 64 '0')
    valid := by decide +kernel }

/-- A new session of that election. -/
def pinnedSession : GuiResult GuiElectionSessionV1 := do
  let artifacts ← GuiElectionArtifactsV1.fromBytes prims
    ((pinnedManifest.toCanonicalCbor).toOption.getD []) registryBytes candidateBytes
  GuiElectionSessionV1.new prims artifacts

/-- Its archive, written without the document. -/
def pinnedArchive : GuiResult (GuiArchiveWriteResultV1 × List ArchiveEntry) := do
  let session ← pinnedSession
  writeArchiveDirectoryV1WithOptionalBinding prims (fun _ ↦ false) session .absent none none
    .legacy

/-- What the two sessions and their archives come to, in one evaluation. -/
theorem archives_evaluated :
    drainedArchive.toOption.isSome = true ∧
      drainedSession.toOption.all (fun session ↦
        session.packages.all (fun package ↦ package.length ≤ maxCanonicalObjectBytes) &&
        !(validateGovernanceSourcePin
          session.artifacts.manifest.fields.governanceSourceRevision).isContentDigest) = true ∧
      pinnedArchive.toOption.isSome = true ∧
      pinnedSession.toOption.all (fun session ↦ (validateGovernanceSourcePin
        session.artifacts.manifest.fields.governanceSourceRevision).isContentDigest) = true := by
  decide +kernel

end Sample

/-- The archive of the drained sample session is verified, with its two accepted ballots. -/
theorem writeArchiveDirectory_agrees_iff_sample :
    ∃ session result entries, Sample.drainedSession = .ok session ∧
      Sample.drainedArchive = .ok (result, entries) ∧
      Agrees session .legacy result (verifyArchiveDirectoryV1 Sample.prims.crate
        Sample.prims.provider Sample.prims.nfc entries) := by
  obtain ⟨hwritten, hrules, -⟩ := Sample.archives_evaluated
  cases hwrite : Sample.drainedArchive with
  | error e =>
    rw [hwrite] at hwritten
    cases hwritten
  | ok written =>
    obtain ⟨session, hsession, harchive⟩ := bind_eq_ok.mp hwrite
    simp only [hsession, Except.toOption, Option.all_some, Bool.and_eq_true, List.all_eq_true,
      decide_eq_true_eq, Bool.not_eq_true'] at hrules
    refine ⟨session, written.1, written.2, hsession, rfl, ?_⟩
    apply (writeArchiveDirectory_agrees_iff (triptychBatchLaws_idealCrate _) (fun _ ↦ false)
      (Sample.reachable_drainedSession hsession) .absent none none .legacy harchive).mpr
    refine ⟨⟨hrules.1, nofun⟩, ?_⟩
    intro hdigest
    rw [hrules.2] at hdigest
    cases hdigest

/-- An election whose governance document is pinned by its digest is archived without the
document, and the archive is not verified. -/
theorem not_agrees_of_missing_document :
    ∃ session result entries, GuiElectionSessionV1.Reachable Sample.prims session ∧
      writeArchiveDirectoryV1WithOptionalBinding Sample.prims (fun _ ↦ false) session .absent none
        none .legacy = .ok (result, entries) ∧
      ¬ Agrees session .legacy result (verifyArchiveDirectoryV1 Sample.prims.crate
        Sample.prims.provider Sample.prims.nfc entries) := by
  obtain ⟨-, -, hwritten, hpin⟩ := Sample.archives_evaluated
  cases hwrite : Sample.pinnedArchive with
  | error e =>
    rw [hwrite] at hwritten
    cases hwritten
  | ok written =>
    obtain ⟨session, hsession, harchive⟩ := bind_eq_ok.mp hwrite
    simp only [hsession, Except.toOption, Option.all_some] at hpin
    obtain ⟨artifacts, hartifacts, hnew⟩ := bind_eq_ok.mp hsession
    have hreachable := GuiElectionSessionV1.Reachable.new hartifacts hnew
    refine ⟨session, written.1, written.2, hreachable, harchive, ?_⟩
    rintro ⟨report, tally, hreport, hverified, -⟩
    have hreplayed := hreachable.isReplayed (triptychBatchLaws_idealCrate _)
    obtain ⟨contents, manifest, archiveHash, manifestBytes, hlayout⟩ := isWritten_of_write harchive
    obtain ⟨electionBytes, candidateBytes, registryBytes, bound, hcollected⟩ :=
      isCollected_of_contentFiles hlayout.collected
    have hrules := hlayout.meetsVerifierRules hcollected hreplayed hreport hverified
    exact hrules.2 hpin rfl

end PrivateBallot.GuiCore
