import PrivateBallot.Archive.VerifierCompleteness
import PrivateBallot.GuiCore.SessionBookkeeping

/-!
# The archive writer

Library `GuiCore`. `crates/gui-core/src/archive_writer.rs` and the pins of `governance.rs`: the
artifacts, packages, governance document and transport binding of a session are written to a new
directory, and the archive manifest last. A file operation that the system refuses is one of
`fails`; a temporary file is renamed before anything else is written, so it is not modelled.
-/

namespace PrivateBallot.GuiCore

open PrivateBallot.Base PrivateBallot.Protocol PrivateBallot.Ballot
open PrivateBallot.Crypto PrivateBallot.Verifier PrivateBallot.Archive PrivateBallot.Tally

/-! ### Governance pins -/

/-- The values of `GuiGovernanceSourcePinV1::kind`. -/
inductive GovernancePinKind where
  | blake3Digest
  | gitCommit
  | unrecognized
deriving DecidableEq, Repr

/-- `GuiGovernanceSourcePinV1`, without its texts for display. -/
structure GuiGovernanceSourcePinV1 where
  kind : GovernancePinKind
  formatValid : Bool
  digestHex : Option Bytes
  gitShaHex : Option Bytes
deriving DecidableEq

namespace GuiGovernanceSourcePinV1

/-- A pin that is not recognised. -/
def unrecognized : GuiGovernanceSourcePinV1 := ⟨.unrecognized, false, none, none⟩

/-- `is_content_digest` -/
def isContentDigest (self : GuiGovernanceSourcePinV1) : Bool :=
  decide (self.kind = .blake3Digest) && self.formatValid

end GuiGovernanceSourcePinV1

/-- `classify_blake3` -/
def classifyBlake3 (hexPart : Bytes) : GuiGovernanceSourcePinV1 :=
  if hexPart.length = 64 && isLowercaseHex (toAsciiLowercase hexPart) then
    ⟨.blake3Digest, true, some (toAsciiLowercase hexPart), none⟩
  else .unrecognized

/-- `classify_git` -/
def classifyGit (hexPart : Bytes) : GuiGovernanceSourcePinV1 :=
  if hexPart.length = 40 && isLowercaseHex (toAsciiLowercase hexPart) then
    ⟨.gitCommit, true, none, some (toAsciiLowercase hexPart)⟩
  else .unrecognized

/-- `validate_governance_source_pin`; `crates/gui-core/src/governance.rs:312`. -/
def validateGovernanceSourcePin (revision : Text) : GuiGovernanceSourcePinV1 :=
  if maxGovernanceRevisionBytes < revision.len then .unrecognized
  else match stripStart revision.toBytes (Text.lit "blake3:").toBytes with
  | some hexPart => classifyBlake3 hexPart
  | none => match stripStart revision.toBytes (Text.lit "git:").toBytes with
    | some hexPart => classifyGit hexPart
    | none => .unrecognized

/-- The writer and the verifier know the same content digests. -/
theorem validateGovernanceSourcePin_cases (revision : Text) :
    (∃ digestHex,
      validateGovernanceSourcePin revision = ⟨.blake3Digest, true, some digestHex, none⟩ ∧
      Archive.validateGovernanceSourcePin revision = .blake3Digest digestHex) ∨
    ((validateGovernanceSourcePin revision).isContentDigest = false ∧
      ∀ digestHex, Archive.validateGovernanceSourcePin revision ≠ .blake3Digest digestHex) := by
  unfold validateGovernanceSourcePin Archive.validateGovernanceSourcePin
  by_cases hlong : maxGovernanceRevisionBytes < revision.len
  · right
    simp only [hlong, if_true]
    exact ⟨rfl, fun _ h ↦ by cases h⟩
  · simp only [hlong, if_false]
    cases stripStart revision.toBytes (Text.lit "blake3:").toBytes with
    | some hexPart =>
      simp only [classifyBlake3]
      by_cases hformat : (hexPart.length = 64 && isLowercaseHex (toAsciiLowercase hexPart)) = true
      · left
        simp only [hformat, if_true]
        exact ⟨_, rfl, rfl⟩
      · right
        simp only [hformat]
        exact ⟨rfl, fun _ h ↦ by cases h⟩
    | none =>
      right
      cases stripStart revision.toBytes (Text.lit "git:").toBytes with
      | none => exact ⟨rfl, fun _ h ↦ by cases h⟩
      | some hexPart =>
        simp only [classifyGit]
        by_cases hformat :
            (hexPart.length = 40 && isLowercaseHex (toAsciiLowercase hexPart)) = true
        · simp only [hformat, if_true]
          exact ⟨rfl, fun _ h ↦ by cases h⟩
        · simp only [hformat]
          exact ⟨rfl, fun _ h ↦ by cases h⟩

/-! ### Paths and errors -/

/-- `{index:08}` -/
def paddedIndex (index : Nat) : List Char :=
  List.replicate (8 - (Nat.toDigits 10 index).length) '0' ++ Nat.toDigits 10 index

/-- `submission_archive_path` -/
def submissionArchivePath (index : Nat) : Text :=
  .ofChars ("submissions/".toList ++ paddedIndex index ++ ".cbor".toList)

namespace GuiCoreError

/-- `GuiCoreError::archive_not_finalized` -/
def archiveNotFinalized : GuiCoreError :=
  ⟨"GUI_ARCHIVE_NOT_FINALIZED", .invalidLifecycleTransition, some "archive-finality",
    "a finalized archive can only be written from a FINALIZED election"⟩

/-- `GuiCoreError::archive_target_invalid` -/
def archiveTargetInvalid : GuiCoreError :=
  ⟨"GUI_ARCHIVE_TARGET_INVALID", .fileIo, some "archive-directory",
    "the archive target path exists and is not a directory"⟩

/-- `GuiCoreError::archive_target_not_empty` -/
def archiveTargetNotEmpty : GuiCoreError :=
  ⟨"GUI_ARCHIVE_TARGET_NOT_EMPTY", .fileIo, some "archive-directory",
    "the archive target directory already contains files"⟩

/-- `GuiCoreError::governance_digest_mismatch` -/
def governanceDigestMismatch : GuiCoreError :=
  ⟨"GUI_GOVERNANCE_DIGEST_MISMATCH", .bindingMismatch, some "governance-document",
    "the governance source revision digest does not match the selected document"⟩

/-- The refusal of a binding of another election. -/
def transportArchiveBindingMismatch : GuiCoreError :=
  ⟨"GUI_TRANSPORT_ARCHIVE_BINDING_MISMATCH", .invalidInput, some "transport-archive-binding",
    "transport binding does not belong to the active election"⟩

end GuiCoreError

/-! ### The target directory -/

/-- What `symlink_metadata` finds at the target path. -/
inductive ArchiveTarget where
  | absent
  | notDirectory
  | directory (entries : List ArchiveEntry)

section

variable (fails : List Bytes → Bool)

/-- `prepare_target_directory` -/
def prepareTargetDirectory : ArchiveTarget → GuiResult (List ArchiveEntry)
  | .absent => if fails [] then .error (.ioFailure "archive-directory") else .ok []
  | .notDirectory => .error .archiveTargetInvalid
  | .directory entries =>
    if fails [] then .error (.ioFailure "archive-directory")
    else if entries.isEmpty then .ok [] else .error .archiveTargetNotEmpty

/-- `create_dir` of a directory in the target. -/
def createDir (name : Bytes) (entries : List ArchiveEntry) : GuiResult (List ArchiveEntry) :=
  if fails [name] || entries.any (fun entry ↦ decide (entry.name = name)) then
    .error (.ioFailure "archive-directory")
  else .ok (entries ++ [ArchiveEntry.directory name []])

/-- The entries with one directory changed; none if there is no directory of that name. -/
def changeDirectory (name : Bytes)
    (change : List ArchiveEntry → Option (List ArchiveEntry)) :
    List ArchiveEntry → Option (List ArchiveEntry)
  | [] => none
  | .directory found children :: rest =>
    if found = name then (change children).map fun children ↦ .directory found children :: rest
    else (changeDirectory name change rest).map (.directory found children :: ·)
  | entry :: rest => (changeDirectory name change rest).map (entry :: ·)

/-- The entries with one file more; none if its directory does not exist. -/
def placeFile : List Bytes → Bytes → List ArchiveEntry → Option (List ArchiveEntry)
  | [], _, _ => none
  | [name], bytes, entries => some (entries ++ [ArchiveEntry.file name bytes])
  | name :: next :: rest, bytes, entries =>
    changeDirectory name (placeFile (next :: rest) bytes) entries

/-- `write_file_atomic` -/
def writeFileAtomic (path : Text) (bytes : Bytes) (entries : List ArchiveEntry) :
    GuiResult (List ArchiveEntry) :=
  let names := path.toBytes.splitOn slash
  if (findEntry entries names).isOk then .error .archiveTargetNotEmpty
  else if fails names then .error (.ioFailure "archive-file")
  else match placeFile names bytes entries with
    | some entries => .ok entries
    | none => .error (.ioFailure "archive-file")

/-- The files are written in path order. -/
def writeFiles : List (Text × Bytes) → List ArchiveEntry → GuiResult (List ArchiveEntry)
  | [], entries => .ok entries
  | (path, bytes) :: rest, entries => do
    let entries ← writeFileAtomic fails path bytes entries
    writeFiles rest entries

/-- A directory that is created where it is needed. -/
def createDirIf (needed : Bool) (name : Bytes) (entries : List ArchiveEntry) :
    GuiResult (List ArchiveEntry) :=
  if needed then createDir fails name entries else .ok entries

/-- The subdirectories that the files need. -/
def createDirectories (session : GuiElectionSessionV1) (document : Option Bytes)
    (binding : Option TransportArchiveBindingV1) (entries : List ArchiveEntry) :
    GuiResult (List ArchiveEntry) := do
  let entries ← createDirIf fails (!session.packages.isEmpty) (Text.lit "submissions").toBytes
    entries
  let entries ← createDirIf fails document.isSome (Text.lit "governance").toBytes entries
  createDirIf fails binding.isSome (Text.lit "transport").toBytes entries

end

/-! ### The archive -/

/-- `ArchiveFinalityMode` -/
inductive ArchiveFinalityMode where
  | legacy
  | finalized
deriving DecidableEq, Repr

/-- `GuiArchiveFileSummaryV1` -/
structure GuiArchiveFileSummaryV1 where
  path : Text
  digestHex : Bytes
  bytes : Nat
deriving DecidableEq

/-- `GuiArchiveWriteResultV1`, without the target's own path. -/
structure GuiArchiveWriteResultV1 where
  archiveHashHex : Bytes
  electionManifestHashHex : Bytes
  files : List GuiArchiveFileSummaryV1
  archiveManifestPath : Text
deriving DecidableEq

namespace GuiElectionSessionV1

/-- `accepted_count` -/
def acceptedCount (self : GuiElectionSessionV1) : Nat := self.ledger.acceptedBallots.length

/-- `direct_tally` -/
def directTally (self : GuiElectionSessionV1) : GuiResult ApprovalTally :=
  ofProtocol "tally" (ApprovalTally.fromBallots self.artifacts.candidates
    (self.ledger.acceptedBallots.map (·.payload)))

end GuiElectionSessionV1

/-- The gate on the lifecycle of a finalized archive. -/
def checkFinality (session : GuiElectionSessionV1) (finality : ArchiveFinalityMode) :
    GuiResult Unit :=
  if finality = .finalized ∧ session.lifecycle.state ≠ .finalized then
    .error .archiveNotFinalized
  else .ok ()

/-- The packages with the paths they are archived at. -/
def submissionFiles (packages : List Bytes) : List (Text × Bytes) :=
  packages.mapIdx fun index packageBytes ↦ (submissionArchivePath index, packageBytes)

section

variable (prims : Primitives) (fails : List Bytes → Bool)

/-- The file of a transport binding that belongs to the election. -/
def bindingFile (artifacts : GuiElectionArtifactsV1) :
    Option TransportArchiveBindingV1 → GuiResult (List (Text × Bytes))
  | none => .ok []
  | some binding =>
    if binding.manifestHash ≠ artifacts.manifestHash ∨
        binding.electionId ≠ artifacts.manifest.fields.electionId.toBytes then
      .error .transportArchiveBindingMismatch
    else do
      let bytes ←
        ofProtocol "transport-archive-binding" (binding.toCanonicalCbor prims.provider)
      pure [(transportArchiveBindingPathV1, bytes)]

/-- What is inserted into the map of files, in this order. -/
def contentFiles (session : GuiElectionSessionV1) (document : Option Bytes)
    (binding : Option TransportArchiveBindingV1) : GuiResult (List (Text × Bytes)) := do
  let manifestBytes ← ofProtocol "manifest" session.artifacts.manifest.toCanonicalCbor
  let candidateBytes ← ofProtocol "candidates" session.artifacts.candidates.toCanonicalCbor
  let registryBytes ← ofProtocol "registry" session.artifacts.registry.toCanonicalCbor
  let bindingFile ← bindingFile prims session.artifacts binding
  pure ([(electionManifestArchivePath, manifestBytes), (candidateSetArchivePath, candidateBytes),
    (voterRegistryArchivePath, registryBytes)] ++ submissionFiles session.packages ++
    document.toList.map (fun bytes ↦ (governanceDocumentArchivePath, bytes)) ++ bindingFile)

/-- A file's path in bytes, by which the map is ordered. -/
def pathKey (file : Text × Bytes) : Bytes := file.1.toBytes

/-- The gate on a governance document that is archived under a content digest. -/
def checkDocument (session : GuiElectionSessionV1) : Option Bytes → GuiResult Unit
  | none => .ok ()
  | some bytes =>
    let pin := validateGovernanceSourcePin
      session.artifacts.manifest.fields.governanceSourceRevision
    if pin.isContentDigest && decide (pin.digestHex.any fun pinHex ↦
        decide (toLowerHex (archiveFileDigest prims.provider bytes).toBytes ≠ pinHex)) then
      .error .governanceDigestMismatch
    else .ok ()

/-- The catalog of the files. -/
def archiveCatalog (files : List (Text × Bytes)) : Result ArchiveFileCatalogV1 := do
  let entries ← files.mapM fun (path, bytes) ↦ do
    let archivePath ← ArchivePathV1.new path
    pure (ArchiveFileEntryV1.forBytes archivePath prims.provider bytes)
  ArchiveFileCatalogV1.new entries

/-- The archive manifest of the mode. -/
def archiveManifestOf (session : GuiElectionSessionV1) (files : List (Text × Bytes))
    (finality : ArchiveFinalityMode) : GuiResult ArchiveManifestV1 := do
  let catalog ← ofProtocol "archive-catalog" (archiveCatalog prims files)
  ofProtocol "archive-manifest" (match finality with
    | .legacy =>
      ArchiveManifestV1.forProvider session.artifacts.manifestHash catalog prims.provider
    | .finalized =>
      ArchiveManifestV1.finalizedForProvider session.artifacts.manifestHash catalog prims.provider)

/-- The summaries of the catalog's files. -/
def fileSummaries (files : List (Text × Bytes)) (manifest : ArchiveManifestV1) :
    List GuiArchiveFileSummaryV1 :=
  manifest.files.entries.map fun entry ↦
    ⟨entry.path.value, toLowerHex entry.digest.toBytes,
      ((files.lookup entry.path.value).map List.length).getD 0⟩

-- No path is inserted twice, so the map is the sorted list of what is inserted.
/-- `write_archive_directory_v1_with_optional_binding`, with the directory it leaves;
`crates/gui-core/src/archive_writer.rs:224`. -/
def writeArchiveDirectoryV1WithOptionalBinding (session : GuiElectionSessionV1)
    (target : ArchiveTarget) (document : Option Bytes)
    (binding : Option TransportArchiveBindingV1) (finality : ArchiveFinalityMode) :
    GuiResult (GuiArchiveWriteResultV1 × List ArchiveEntry) := do
  checkFinality session finality
  let entries ← prepareTargetDirectory fails target
  let contents ← contentFiles prims session document binding
  let files := sortBytes pathKey contents
  checkDocument prims session document
  let archiveManifest ← archiveManifestOf prims session files finality
  let archiveHash ← ofProtocol "archive-manifest" (archiveManifest.canonicalHash prims.provider)
  let archiveManifestBytes ← ofProtocol "archive-manifest" archiveManifest.toCanonicalCbor
  let entries ← createDirectories fails session document binding entries
  let entries ← writeFiles fails (files ++ [(archiveManifestCanonicalPath, archiveManifestBytes)])
    entries
  pure (⟨toLowerHex archiveHash.toBytes, toLowerHex session.artifacts.manifestHash.toBytes,
    fileSummaries files archiveManifest, archiveManifestCanonicalPath⟩, entries)

end

/-! ### What a directory holds after a write -/

/-- An empty directory. -/
theorem namesAreSound_nil : NamesAreSound [] := .intro List.nodup_nil nofun nofun

/-- An empty directory has no file. -/
theorem not_hasFile_nil (path : List Bytes) (bytes : Bytes) : ¬ HasFile [] path bytes := by
  intro h
  cases h with
  | file hmem => cases hmem
  | nested hmem hbelow => cases hmem

private theorem hasFile_append (a b : List ArchiveEntry) (path : List Bytes) (bytes : Bytes) :
    HasFile (a ++ b) path bytes ↔ HasFile a path bytes ∨ HasFile b path bytes := by
  constructor
  · intro h
    cases h with
    | file hmem =>
      rcases List.mem_append.mp hmem with hmem | hmem
      · exact Or.inl (.file hmem)
      · exact Or.inr (.file hmem)
    | nested hmem hbelow =>
      rcases List.mem_append.mp hmem with hmem | hmem
      · exact Or.inl (.nested hmem hbelow)
      · exact Or.inr (.nested hmem hbelow)
  · rintro (h | h)
    · cases h with
      | file hmem => exact .file (List.mem_append_left _ hmem)
      | nested hmem hbelow => exact .nested (List.mem_append_left _ hmem) hbelow
    · cases h with
      | file hmem => exact .file (List.mem_append_right _ hmem)
      | nested hmem hbelow => exact .nested (List.mem_append_right _ hmem) hbelow

private theorem hasFile_file (name content : Bytes) (path : List Bytes) (bytes : Bytes) :
    HasFile [.file name content] path bytes ↔ path = [name] ∧ bytes = content := by
  constructor
  · intro h
    cases h with
    | file hmem =>
      cases List.mem_singleton.mp hmem
      exact ⟨rfl, rfl⟩
    | nested hmem hbelow => cases List.mem_singleton.mp hmem
  · rintro ⟨rfl, rfl⟩
    exact .file List.mem_cons_self

private theorem hasFile_directory (name : Bytes) (children : List ArchiveEntry)
    (path : List Bytes) (bytes : Bytes) :
    HasFile [.directory name children] path bytes ↔
      ∃ below, path = name :: below ∧ HasFile children below bytes := by
  constructor
  · intro h
    cases h with
    | file hmem => cases List.mem_singleton.mp hmem
    | nested hmem hbelow =>
      cases List.mem_singleton.mp hmem
      exact ⟨_, rfl, hbelow⟩
  · rintro ⟨below, rfl, hbelow⟩
    exact .nested List.mem_cons_self hbelow

/-- What is changed is one directory of that name. -/
theorem changeDirectory_eq_some {name : Bytes}
    {change : List ArchiveEntry → Option (List ArchiveEntry)} {entries entries' : List ArchiveEntry}
    (h : changeDirectory name change entries = some entries') :
    ∃ before children children' after,
      entries = before ++ [ArchiveEntry.directory name children] ++ after ∧
      change children = some children' ∧
      entries' = before ++ [ArchiveEntry.directory name children'] ++ after := by
  induction entries generalizing entries' with
  | nil => cases h
  | cons entry rest ih =>
    have hrest : ∀ changed, changeDirectory name change rest = some changed →
        entries' = entry :: changed → ∃ before children children' after,
          entry :: rest = before ++ [ArchiveEntry.directory name children] ++ after ∧
          change children = some children' ∧
          entries' = before ++ [ArchiveEntry.directory name children'] ++ after := by
      intro changed hchanged hentries
      obtain ⟨before, children, children', after, hbefore, hchange, hafter⟩ := ih hchanged
      exact ⟨entry :: before, children, children', after, by rw [hbefore]; rfl, hchange,
        by rw [hentries, hafter]; rfl⟩
    cases entry with
    | directory found children =>
      rw [changeDirectory] at h
      split at h
      · next hname =>
        subst hname
        obtain ⟨children', hchange, hentries⟩ := Option.map_eq_some_iff.mp h
        exact ⟨[], children, children', rest, rfl, hchange, hentries.symm⟩
      · obtain ⟨changed, hchanged, hentries⟩ := Option.map_eq_some_iff.mp h
        exact hrest changed hchanged hentries.symm
    | file found bytes =>
      obtain ⟨changed, hchanged, hentries⟩ := Option.map_eq_some_iff.mp h
      exact hrest changed hchanged hentries.symm
    | special found =>
      obtain ⟨changed, hchanged, hentries⟩ := Option.map_eq_some_iff.mp h
      exact hrest changed hchanged hentries.symm

/-- A name a directory entry can have. -/
def IsFileName (name : Bytes) : Prop := name ≠ [] ∧ slash ∉ name

instance (name : Bytes) : Decidable (IsFileName name) :=
  inferInstanceAs (Decidable (_ ∧ _))

private theorem namesAreSound_append_singleton {entries : List ArchiveEntry} {entry : ArchiveEntry}
    (h : NamesAreSound entries) (hname : IsFileName entry.name)
    (hfree : ∀ other ∈ entries, other.name ≠ entry.name)
    (hchildren : ∀ name children, entry = .directory name children → NamesAreSound children) :
    NamesAreSound (entries ++ [entry]) := by
  obtain ⟨hdistinct, hnames, hnested⟩ := h
  refine .intro ?_ ?_ ?_
  · rw [List.map_append, List.map_singleton, List.nodup_append]
    refine ⟨hdistinct, List.nodup_singleton _, ?_⟩
    intro a ha b hb
    obtain ⟨other, hother, rfl⟩ := List.mem_map.mp ha
    rw [List.mem_singleton.mp hb]
    exact hfree other hother
  · intro other hother
    rcases List.mem_append.mp hother with hother | hother
    · exact hnames other hother
    · rw [List.mem_singleton.mp hother]
      exact hname
  · intro name children hmem
    rcases List.mem_append.mp hmem with hmem | hmem
    · exact hnested name children hmem
    · exact hchildren name children (List.mem_singleton.mp hmem).symm

/-- A file that is placed where there was nothing is one file more. -/
theorem placeFile_spec {names : List Bytes} {bytes : Bytes} {entries entries' : List ArchiveEntry}
    (hsound : NamesAreSound entries) (hnames : ∀ name ∈ names, IsFileName name)
    (hfree : (findEntry entries names).isOk = false)
    (h : placeFile names bytes entries = some entries') :
    NamesAreSound entries' ∧ ∀ path content,
      HasFile entries' path content ↔
        HasFile entries path content ∨ path = names ∧ content = bytes := by
  induction names generalizing entries entries' with
  | nil => cases h
  | cons name rest ih =>
    cases rest with
    | nil =>
      cases h
      constructor
      · have hname : IsFileName (ArchiveEntry.file name bytes).name :=
          hnames name List.mem_cons_self
        apply namesAreSound_append_singleton hsound hname
        · intro other hother hname
          have hfound : entries.find? (fun entry ↦ entry.name = name) ≠ none := by
            rw [ne_eq, List.find?_eq_none]
            intro hnone
            exact hnone other hother (decide_eq_true hname)
          obtain ⟨entry, hentry⟩ := Option.ne_none_iff_exists'.mp hfound
          simp only [findEntry, hentry] at hfree
          cases hfree
        · intro name children hentry
          cases hentry
      · intro path content
        rw [hasFile_append, hasFile_file]
    | cons next rest =>
      obtain ⟨before, children, children', after, rfl, hchange, rfl⟩ := changeDirectory_eq_some h
      obtain ⟨hdistinct, hentries, hnested⟩ := hsound
      have hmem : ArchiveEntry.directory name children ∈
          before ++ [ArchiveEntry.directory name children] ++ after := by simp
      have hfind := find?_of_mem hdistinct hmem
      rw [show (ArchiveEntry.directory name children).name = name from rfl] at hfind
      have hbelow : (findEntry children (next :: rest)).isOk = false := by
        simp only [findEntry, hfind] at hfree
        exact hfree
      obtain ⟨hsound', hfiles⟩ := ih (hnested _ _ hmem)
        (fun name hname ↦ hnames name (List.mem_cons_of_mem _ hname)) hbelow hchange
      constructor
      · refine .intro ?_ ?_ ?_
        · simpa [ArchiveEntry.name] using hdistinct
        · intro entry hentry
          simp only [List.append_assoc, List.singleton_append, List.mem_append, List.mem_cons]
            at hentry
          rcases hentry with hentry | rfl | hentry
          · exact hentries entry (by simp [hentry])
          · have hkept := hentries _ hmem
            exact hkept
          · exact hentries entry (by simp [hentry])
        · intro found below hdirectory
          simp only [List.append_assoc, List.singleton_append, List.mem_append, List.mem_cons]
            at hdirectory
          rcases hdirectory with hdirectory | hdirectory | hdirectory
          · exact hnested found below (by simp [hdirectory])
          · cases hdirectory
            exact hsound'
          · exact hnested found below (by simp [hdirectory])
      · intro path content
        simp only [hasFile_append, hasFile_directory, hfiles]
        constructor
        · rintro ((hfile | ⟨below, rfl, hfile | ⟨rfl, rfl⟩⟩) | hfile)
          · exact Or.inl (Or.inl (Or.inl hfile))
          · exact Or.inl (Or.inl (Or.inr ⟨below, rfl, hfile⟩))
          · exact Or.inr ⟨rfl, rfl⟩
          · exact Or.inl (Or.inr hfile)
        · rintro (((hfile | ⟨below, rfl, hfile⟩) | hfile) | ⟨rfl, rfl⟩)
          · exact Or.inl (Or.inl hfile)
          · exact Or.inl (Or.inr ⟨below, rfl, Or.inl hfile⟩)
          · exact Or.inr hfile
          · exact Or.inl (Or.inr ⟨next :: rest, rfl, Or.inr ⟨rfl, rfl⟩⟩)

private theorem createDir_spec {fails : List Bytes → Bool} {name : Bytes}
    {entries entries' : List ArchiveEntry} (hsound : NamesAreSound entries)
    (hname : IsFileName name) (h : createDir fails name entries = .ok entries') :
    NamesAreSound entries' ∧ ∀ path content,
      HasFile entries' path content ↔ HasFile entries path content := by
  unfold createDir at h
  split at h
  · cases h
  · next hfree =>
    cases h
    simp only [Bool.or_eq_true, not_or, Bool.not_eq_true, List.any_eq_false,
      decide_eq_true_eq] at hfree
    constructor
    · have hentry : IsFileName (ArchiveEntry.directory name []).name := hname
      apply namesAreSound_append_singleton hsound hentry hfree.2
      intro found children hentry
      cases hentry
      exact namesAreSound_nil
    · intro path content
      rw [hasFile_append, hasFile_directory]
      constructor
      · rintro (hfile | ⟨below, -, hfile⟩)
        · exact hfile
        · exact absurd hfile (not_hasFile_nil below content)
      · exact Or.inl

/-- The subdirectories hold no file. -/
theorem createDirectories_spec {fails : List Bytes → Bool} {session : GuiElectionSessionV1}
    {document : Option Bytes} {binding : Option TransportArchiveBindingV1}
    {entries entries' : List ArchiveEntry} (hsound : NamesAreSound entries)
    (h : createDirectories fails session document binding entries = .ok entries') :
    NamesAreSound entries' ∧ ∀ path content,
      HasFile entries' path content ↔ HasFile entries path content := by
  have hstep : ∀ (needed : Bool) (name : Bytes) (before after : List ArchiveEntry),
      IsFileName name → NamesAreSound before → createDirIf fails needed name before = .ok after →
      NamesAreSound after ∧ ∀ path content,
        HasFile after path content ↔ HasFile before path content := by
    intro needed name before after hname hbefore hafter
    cases needed with
    | true => exact createDir_spec hbefore hname hafter
    | false =>
      cases hafter
      exact ⟨hbefore, fun _ _ ↦ Iff.rfl⟩
  simp only [createDirectories, bind_eq_ok] at h
  obtain ⟨first, hfirst, second, hsecond, hlast⟩ := h
  obtain ⟨hsound₁, hfiles₁⟩ := hstep _ _ _ _ (by decide +kernel) hsound hfirst
  obtain ⟨hsound₂, hfiles₂⟩ := hstep _ _ _ _ (by decide +kernel) hsound₁ hsecond
  obtain ⟨hsound₃, hfiles₃⟩ := hstep _ _ _ _ (by decide +kernel) hsound₂ hlast
  refine ⟨hsound₃, fun path content ↦ ?_⟩
  rw [hfiles₃, hfiles₂, hfiles₁]

/-- The files that are written are added to those that are there. -/
theorem writeFiles_spec {fails : List Bytes → Bool} {files : List (Text × Bytes)}
    {entries entries' : List ArchiveEntry} (hsound : NamesAreSound entries)
    (hnames : ∀ file ∈ files, ∀ name ∈ file.1.toBytes.splitOn slash, IsFileName name)
    (h : writeFiles fails files entries = .ok entries') :
    NamesAreSound entries' ∧ ∀ path content,
      HasFile entries' path content ↔ HasFile entries path content ∨
        ∃ file ∈ files, path = file.1.toBytes.splitOn slash ∧ content = file.2 := by
  induction files generalizing entries with
  | nil =>
    cases h
    refine ⟨hsound, fun path content ↦ ?_⟩
    simp
  | cons file rest ih =>
    obtain ⟨written, hwritten, hrest⟩ := bind_eq_ok.mp h
    have hplaced : (findEntry entries (file.1.toBytes.splitOn slash)).isOk = false ∧
        placeFile (file.1.toBytes.splitOn slash) file.2 entries = some written := by
      unfold writeFileAtomic at hwritten
      simp only at hwritten
      split at hwritten
      · cases hwritten
      · next hfree =>
        split at hwritten
        · cases hwritten
        · split at hwritten
          · next hplace =>
            cases hwritten
            exact ⟨Bool.eq_false_iff.mpr hfree, hplace⟩
          · cases hwritten
    obtain ⟨hsound', hfiles⟩ := placeFile_spec hsound (hnames file List.mem_cons_self) hplaced.1
      hplaced.2
    obtain ⟨hsound'', hall⟩ := ih hsound'
      (fun other hother ↦ hnames other (List.mem_cons_of_mem _ hother)) hrest
    refine ⟨hsound'', fun path content ↦ ?_⟩
    rw [hall, hfiles]
    constructor
    · rintro ((hold | ⟨hpath, hcontent⟩) | ⟨other, hother, hsame⟩)
      · exact Or.inl hold
      · exact Or.inr ⟨file, List.mem_cons_self, hpath, hcontent⟩
      · exact Or.inr ⟨other, List.mem_cons_of_mem _ hother, hsame⟩
    · rintro (hold | ⟨other, hother, hsame⟩)
      · exact Or.inl (Or.inl hold)
      · rcases List.mem_cons.mp hother with rfl | hother
        · exact Or.inl (Or.inr hsame)
        · exact Or.inr ⟨other, hother, hsame⟩

/-- No segment of a path has a separator in it. -/
theorem slash_notMem_of_mem_splitOn {bytes segment : Bytes} (h : segment ∈ bytes.splitOn slash) :
    slash ∉ segment := by
  induction bytes generalizing segment with
  | nil =>
    rw [List.splitOn_nil, List.mem_singleton] at h
    subst h
    exact List.not_mem_nil
  | cons b rest ih =>
    rw [List.splitOn_cons_eq_if_modifyHead] at h
    split at h
    · rcases List.mem_cons.mp h with rfl | h
      · exact List.not_mem_nil
      · exact ih h
    · next hb =>
      cases hsplit : rest.splitOn slash with
      | nil =>
        rw [hsplit] at h
        cases h
      | cons first others =>
        rw [hsplit] at h ih
        rcases List.mem_cons.mp h with rfl | h
        · rw [List.mem_cons, not_or]
          refine ⟨?_, ih List.mem_cons_self⟩
          intro heq
          exact hb (by simp [heq])
        · exact ih (List.mem_cons_of_mem _ h)

/-- The segments of an archive path are file names. -/
theorem isFileName_of_archivePath (path : ArchivePathV1) :
    ∀ name ∈ path.value.toBytes.splitOn slash, IsFileName name := by
  intro name hname
  exact ⟨(path.isPortableName name hname).nonempty, slash_notMem_of_mem_splitOn hname⟩

end PrivateBallot.GuiCore
