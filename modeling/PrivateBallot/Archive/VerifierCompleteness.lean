import PrivateBallot.Archive.VerifierSoundness

/-!
# Completeness of offline archive verification

Library `Archive`. The converse of `VerifierSoundness`, stage by stage: reads that make up an
identity establish it, a manifest is rebuilt from the files it covers, and stages that find what
they look for return a verified report.
-/

namespace PrivateBallot.Archive

open PrivateBallot.Base
open PrivateBallot.Protocol
open PrivateBallot.Ballot
open PrivateBallot.Crypto
open PrivateBallot.Tally

variable {crate : TriptychCrate} {provider : HashProvider} {nfc : List Char → List Char}

/-! ### Identity and catalog -/

private theorem isOk_verifyBytes {entry : ArchiveFileEntryV1} {bytes : Bytes}
    (h : archiveFileDigest provider bytes = entry.digest) :
    (entry.verifyBytes provider bytes).isOk = true := by
  rw [ArchiveFileEntryV1.verifyBytes, h, refuseIf]
  simp only [ne_eq, not_true_eq_false, decide_false, Bool.false_eq_true, if_false]
  rfl

private theorem readCatalog_of_read {reads : ArchiveReads} {entries : List ArchiveFileEntryV1}
    (hread : ∀ entry ∈ entries, reads.file entry.path.value = .ok (contentOf reads entry) ∧
      archiveFileDigest provider (contentOf reads entry) = entry.digest)
    (files : List (Text × Bytes)) (report : ArchiveDirectoryVerificationV1) :
    readCatalog provider reads.file entries files report =
      .ok (files ++ contentsOf reads entries,
        { report with files := report.files ++ entries.map passedCheck }) := by
  induction entries generalizing files report with
  | nil => simp [readCatalog, contentsOf]
  | cons entry rest ih =>
    obtain ⟨hfile, hdigest⟩ := hread entry List.mem_cons_self
    have hok := isOk_verifyBytes hdigest
    have hrest := ih fun other hother ↦ hread other (List.mem_cons_of_mem _ hother)
    rw [readCatalog, hfile]
    simp only [orStop, bind, Except.bind, hok, if_true, hrest]
    simp only [contentsOf, List.map_cons, List.append_assoc]
    rfl

private theorem compareCatalog_of_mem_iff {manifest : ArchiveManifestV1} {diskFiles : List Bytes}
    (h : ∀ path, path ∈ diskFiles ↔ path ∈ (catalogPaths manifest).map Text.toBytes)
    (report :
        ArchiveDirectoryVerificationV1) : compareCatalog manifest diskFiles report = .ok () := by
  have hmissing : ((catalogPaths manifest).any fun path ↦ !diskFiles.contains path.toBytes) =
      false := by
    simp only [List.any_eq_false, Bool.not_eq_true', Bool.not_eq_false, List.contains_iff_mem]
    intro path hpath
    exact (h path.toBytes).mpr (List.mem_map_of_mem hpath)
  have hunexpected : (diskFiles.any fun path ↦
      !((catalogPaths manifest).map Text.toBytes).contains path) = false := by
    simp only [List.any_eq_false, Bool.not_eq_true', Bool.not_eq_false, List.contains_iff_mem]
    intro path hpath
    exact (h path).mp hpath
  rw [compareCatalog, hmissing, hunexpected]
  rfl

/-- Reads that make up an identity establish it. -/
theorem establish_of_isEstablished {reads : ArchiveReads} {established : EstablishedIdentityV1}
    (hmetadata : reads.metadata = .ok ()) (h : IsEstablished provider reads established) :
    establishIdentityAndCatalog provider reads = .ok established := by
  obtain ⟨bytes, hbytes, hdecoded⟩ := h.manifest
  obtain ⟨diskFiles, hdisk, hcatalog⟩ := h.catalog
  have hprovider : established.archiveManifest.validateHashProvider provider = .ok () := by
    have hhash := h.archiveHash
    simp only [ArchiveManifestV1.canonicalHash, bind_eq_ok] at hhash
    obtain ⟨u, hprovider, -⟩ := hhash
    exact hprovider
  have hmanifest : readArchiveManifest provider reads =
      .ok (established.archiveManifest, established.archiveHash) := by
    simp only [readArchiveManifest, bind_eq_ok, orStop_eq_ok, orFail_eq_ok, orIoFailure_eq_ok,
      codeStr_eq_ok]
    refine ⟨(), hmetadata, bytes, ?_, established.archiveManifest, hdecoded, (), hprovider,
      established.archiveHash, h.archiveHash, rfl⟩
    rw [readManifestBytes, hbytes]
  have hread := readCatalog_of_read h.read [] (identityReport established.archiveManifest
    established.archiveHash)
  simp only [establishIdentityAndCatalog, bind_eq_ok, orStop_eq_ok]
  refine ⟨_, hmanifest, diskFiles, hdisk, (), compareCatalog_of_mem_iff hcatalog _, _, hread, ?_⟩
  have hfiles := h.files
  have hresult := h.result
  cases established
  simp only at hfiles hresult
  rw [hfiles, hresult]
  rfl

/-! ### The manifest is rebuilt -/

private theorem rebuildCatalog_of_read {reads : ArchiveReads} (catalog : ArchiveFileCatalogV1)
    (hread : ∀ entry ∈ catalog.entries,
      archiveFileDigest provider (contentOf reads entry) = entry.digest) :
    rebuildCatalog provider (contentsOf reads catalog.entries) = .ok catalog := by
  have hentries : ∀ entries : List ArchiveFileEntryV1, (∀ entry ∈ entries,
      archiveFileDigest provider (contentOf reads entry) = entry.digest) →
      ((contentsOf reads entries).mapM fun file ↦ do
        let archivePath ← ArchivePathV1.new file.1
        pure (ArchiveFileEntryV1.forBytes archivePath provider file.2) :
          Result (List ArchiveFileEntryV1)) = .ok entries := by
    intro entries hdigests
    induction entries with
    | nil => rfl
    | cons entry rest ih =>
      have hrest := ih fun other hother ↦ hdigests other (List.mem_cons_of_mem _ hother)
      have hentry : ArchiveFileEntryV1.forBytes entry.path provider (contentOf reads entry) =
          entry := by
        rw [ArchiveFileEntryV1.forBytes, hdigests entry List.mem_cons_self]
      rw [contentsOf] at hrest ⊢
      rw [List.map_cons, List.mapM_cons, hrest]
      simp only [bind, Except.bind, entry.path.new_value, pure, Except.pure, hentry]
  simp only [rebuildCatalog, bind_eq_ok]
  exact ⟨catalog.entries, hentries catalog.entries hread, catalog.new_entries⟩

/-- The rebuilt manifest of an established archive is the archive's. -/
theorem rebuildManifest_of_isEstablished {reads : ArchiveReads}
    {established : EstablishedIdentityV1} (h : IsEstablished provider reads established) :
    rebuildManifest provider established.archiveManifest
      established.archiveManifest.electionManifestHash established.files =
        .ok established.archiveManifest := by
  have halgorithm : provider.algorithmId = established.archiveManifest.hashAlgorithmId := by
    have hhash := h.archiveHash
    simp only [ArchiveManifestV1.canonicalHash, bind_eq_ok,
      ArchiveManifestV1.validateHashProvider, refuseIf_eq_ok] at hhash
    obtain ⟨-, hsame, -⟩ := hhash
    exact not_not.mp (of_decide_eq_false hsame)
  have hcatalog := rebuildCatalog_of_read established.archiveManifest.files fun entry hentry ↦
    (h.read entry hentry).2
  have hsame := established.archiveManifest.newWithLifecycle_toArchiveManifestFields
  rw [rebuildManifest, h.files, hcatalog]
  simp only [bind, Except.bind]
  rcases established.archiveManifest.version_cases with ⟨hversion, hstate⟩ | ⟨hversion, hstate⟩
  · have hlegacy : established.archiveManifest.isFinalizedArchiveManifest = false := by
      rw [ArchiveManifestV1.isFinalizedArchiveManifest, hversion]
      rfl
    rw [hlegacy, if_neg Bool.false_ne_true, ArchiveManifestV1.forProvider, halgorithm, ← hversion,
      ← hstate]
    exact hsame
  · have hfinal : established.archiveManifest.isFinalizedArchiveManifest = true := by
      rw [ArchiveManifestV1.isFinalizedArchiveManifest, hversion, hstate]
      rfl
    rw [hfinal, if_pos rfl, ArchiveManifestV1.finalizedForProvider, halgorithm, ← hversion,
      ← hstate]
    exact hsame

/-! ### The later stages -/

/-- What the later stages look for. -/
structure Replays (crate : TriptychCrate) (provider : HashProvider) (nfc : List Char → List Char)
    (established : EstablishedIdentityV1) (artifacts : ArchiveElectionArtifactsV1)
    (replayed : ArchiveReplaySessionV1) (tally : ApprovalTally) : Prop where
  present : ∀ path ∈ [electionManifestArchivePath, voterRegistryArchivePath,
    candidateSetArchivePath], path ∈ catalogPaths established.archiveManifest
  decoded : ArchiveElectionArtifactsV1.fromBytes nfc provider
    (fileBytes established.files electionManifestArchivePath)
    (fileBytes established.files voterRegistryArchivePath)
    (fileBytes established.files candidateSetArchivePath) = .ok artifacts
  binding : ∀ bytes, established.files.lookup transportArchiveBindingPathV1 = some bytes →
    ∃ binding, TransportArchiveBindingV1.fromCanonicalCbor provider bytes = .ok binding ∧
      binding.manifestHash = artifacts.manifestHash ∧
      binding.electionId = artifacts.manifest.fields.electionId.toBytes
  pin : ∀ digestHex,
    validateGovernanceSourcePin artifacts.manifest.fields.governanceSourceRevision =
      .blake3Digest digestHex →
    ∃ entry, established.archiveManifest.files.entries.find? (fun entry ↦
      decide (entry.path.value = governanceDocumentArchivePath)) = some entry ∧
      toLowerHexSlice entry.digest.toBytes = digestHex
  replays : ∃ created opened, ArchiveReplaySessionV1.new crate provider artifacts = .ok created ∧
    created.openVoting = .ok opened ∧
    opened.replaySerial crate provider ((submissionPaths established.archiveManifest).map
      (fileBytes established.files)) = (.ok (), replayed)
  complete : replayed.transcript.validateComplete = .ok ()
  tally : replayed.directTally = .ok tally
  election : replayed.artifacts.manifestHash = established.archiveManifest.electionManifestHash

private theorem exists_checkTransportBinding {artifacts : ArchiveElectionArtifactsV1}
    {files : List (Text × Bytes)}
    (h : ∀ bytes, files.lookup transportArchiveBindingPathV1 = some bytes →
      ∃ binding, TransportArchiveBindingV1.fromCanonicalCbor provider bytes = .ok binding ∧
        binding.manifestHash = artifacts.manifestHash ∧
        binding.electionId = artifacts.manifest.fields.electionId.toBytes)
    (report : ArchiveDirectoryVerificationV1) :
    ∃ bound, checkTransportBinding provider artifacts files report = .ok bound ∧
      bound.archiveHashHex = report.archiveHashHex := by
  unfold checkTransportBinding
  cases hlookup : files.lookup transportArchiveBindingPathV1 with
  | none => exact ⟨report, rfl, rfl⟩
  | some bytes =>
    obtain ⟨binding, hdecoded, hhash, hid⟩ := h bytes hlookup
    have hmatches : ¬ (binding.manifestHash ≠ artifacts.manifestHash ∨
        binding.electionId ≠ artifacts.manifest.fields.electionId.toBytes) := by
      rintro (hne | hne)
      · exact hne hhash
      · exact hne hid
    have hcode : codeStr (TransportArchiveBindingV1.fromCanonicalCbor provider bytes) =
        .ok binding := by
      rw [hdecoded]
      rfl
    simp only [hcode, orFail, bind, Except.bind, hmatches, if_false]
    exact ⟨_, rfl, rfl⟩

private theorem exists_checkGovernancePin {manifest : ArchiveManifestV1}
    {artifacts : ArchiveElectionArtifactsV1}
    (h : ∀ digestHex, validateGovernanceSourcePin
        artifacts.manifest.fields.governanceSourceRevision = .blake3Digest digestHex →
      ∃ entry, manifest.files.entries.find? (fun entry ↦
        decide (entry.path.value = governanceDocumentArchivePath)) = some entry ∧
        toLowerHexSlice entry.digest.toBytes = digestHex)
    (report : ArchiveDirectoryVerificationV1) :
    ∃ pinned, checkGovernancePin manifest artifacts report = .ok pinned ∧
      pinned.archiveHashHex = report.archiveHashHex := by
  unfold checkGovernancePin
  cases hpin : validateGovernanceSourcePin artifacts.manifest.fields.governanceSourceRevision with
  | gitCommit => exact ⟨_, rfl, rfl⟩
  | unrecognized => exact ⟨_, rfl, rfl⟩
  | blake3Digest digestHex =>
    obtain ⟨entry, hfind, hdigest⟩ := h digestHex hpin
    simp only [hfind, hdigest, if_true]
    exact ⟨_, rfl, rfl⟩

/-- An archive that replays is verified, with the counts and the tally of the replayed session. -/
theorem finishStages_of_replays (laws : TriptychBatchLaws crate) {reads : ArchiveReads}
    {established : EstablishedIdentityV1} (hestablished : IsEstablished provider reads established)
    {artifacts : ArchiveElectionArtifactsV1} {replayed : ArchiveReplaySessionV1}
    {tally : ApprovalTally}
    (h : Replays crate provider nfc established artifacts replayed tally) :
    ∃ report, finishStages crate provider nfc established = .ok report ∧
      report.verified = true ∧
      report.finalized = established.archiveManifest.isFinalizedArchiveManifest ∧
      report.archiveHashHex = some (toLowerHexSlice established.archiveHash.toBytes) ∧
      report.acceptedCount = replayed.transcript.acceptedCount ∧
      report.rejectedCount = replayed.transcript.rejectedCount ∧
      report.tally = some (summarizeTally tally replayed.artifacts.candidates) := by
  have hartifacts : decodeArtifacts provider nfc established.archiveManifest established.files
      established.result = .ok artifacts := by
    have hpresent : [electionManifestArchivePath, voterRegistryArchivePath,
        candidateSetArchivePath].any (fun path ↦
          !(catalogPaths established.archiveManifest).contains path) = false := by
      simp only [List.any_eq_false, Bool.not_eq_true', Bool.not_eq_false, List.contains_iff_mem]
      exact h.present
    rw [decodeArtifacts, hpresent, if_neg Bool.false_ne_true, orFail_eq_ok]
    exact h.decoded
  obtain ⟨bound, hbound, hboundHash⟩ := exists_checkTransportBinding h.binding
    (describeElection artifacts established.result)
  obtain ⟨pinned, hpinned, hpinnedHash⟩ := exists_checkGovernancePin h.pin bound
  obtain ⟨created, opened, hcreated, hopened, hserial⟩ := h.replays
  have hbatched : opened.replayBatched crate provider
      ((submissionPaths established.archiveManifest).map (fileBytes established.files)) =
        (.ok (), replayed) := by
    rw [← hserial]
    exact ArchiveReplaySessionV1.replayBatches_eq_replaySerial crate provider laws opened _ _
      (flatten_chunks archiveReplayBatchSizeV1 (by decide) _)
  have hcomplete : codeStr replayed.transcript.validateComplete = .ok () := by
    rw [h.complete]
    rfl
  have hrebuilt := rebuildManifest_of_isEstablished hestablished
  rw [← h.election] at hrebuilt
  simp only [finishStages, hartifacts, hbound, hpinned, bind, Except.bind, replaySubmissions,
    hcreated, hopened, hbatched, hcomplete, h.tally, orFail, pure, Except.pure, checkArchiveHash,
    hrebuilt, hestablished.archiveHash, orIoFailure, and_self, decide_true, if_true]
  refine ⟨_, rfl, rfl, rfl, ?_, rfl, rfl, rfl⟩
  show pinned.archiveHashHex = _
  rw [hpinnedHash, hboundHash]
  show established.result.archiveHashHex = _
  rw [hestablished.result]
  rfl

end PrivateBallot.Archive
