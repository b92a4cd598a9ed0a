import PrivateBallot.Archive.Directory
import PrivateBallot.Archive.Replay
import PrivateBallot.Archive.TransportBinding

/-!
# Offline archive verification

Library `Archive`. `crates/archive/src/verifier.rs:364-775`: the identity of an archive and its
catalog are established from the files as they are read, then the election is replayed and the
manifest rebuilt. Every stage can end the verification, with the report as it stands; the ballots
are replayed by `ArchiveReplaySessionV1`.
-/

namespace PrivateBallot.Archive

open PrivateBallot.Base
open PrivateBallot.Protocol
open PrivateBallot.Ballot
open PrivateBallot.Crypto
open PrivateBallot.Tally

/-- `ELECTION_MANIFEST_ARCHIVE_PATH` -/
def electionManifestArchivePath : Text := .lit "election-manifest.cbor"

/-- `CANDIDATE_SET_ARCHIVE_PATH` -/
def candidateSetArchivePath : Text := .lit "candidate-set.cbor"

/-- `VOTER_REGISTRY_ARCHIVE_PATH` -/
def voterRegistryArchivePath : Text := .lit "voter-registry.cbor"

/-- `SUBMISSIONS_ARCHIVE_DIR`, with the separator. -/
def submissionsArchivePrefix : Text := .lit "submissions/"

/-- The stages a verification can fail in. -/
inductive ArchiveStage where
  | archiveManifest
  | catalogFiles
  | electionArtifacts
  | governancePin
  | ballotReplay
  | archiveHash
  | transportBinding
deriving DecidableEq, Repr

/-! ### The report -/

/-- `ArchiveDirectoryFileCheckV1` -/
structure ArchiveDirectoryFileCheckV1 where
  path : Text
  present : Bool
  digestOk : Bool
deriving DecidableEq

/-- `ArchiveGovernancePinFactV1` -/
inductive ArchiveGovernancePinFactV1 where
  | matched
  | mismatch
  | missing
  | operatorAttested
  | notApplicable
deriving DecidableEq, Repr

/-- `ArchiveTallyCountV1` -/
structure ArchiveTallyCountV1 where
  candidateIdHex : Bytes
  candidateIdText : Option Text
  displayName : Text
  approvals : Nat
deriving DecidableEq

/-- `ArchiveLeadingResultV1` -/
inductive ArchiveLeadingResultV1 where
  | noApprovals
  | singleLeader (candidateIdHex : Bytes) (displayName : Text) (approvals : Nat)
  | tie (candidateIdsHex : List Bytes) (approvals : Nat)
deriving DecidableEq

/-- `ArchiveTallySummaryV1` -/
structure ArchiveTallySummaryV1 where
  acceptedBallots : Nat
  abstentions : Nat
  counts : List ArchiveTallyCountV1
  leading : ArchiveLeadingResultV1
deriving DecidableEq

/-- `ArchiveDirectoryVerificationV1`; its defaults are those of `empty`. -/
structure ArchiveDirectoryVerificationV1 where
  verified : Bool := false
  finalized : Bool := false
  failureStage : Option ArchiveStage := none
  failureCode : Option String := none
  fileCount : Nat := 0
  files : List ArchiveDirectoryFileCheckV1 := []
  ballotPackageCount : Nat := 0
  acceptedCount : Nat := 0
  rejectedCount : Nat := 0
  transcriptComplete : Bool := false
  tally : Option ArchiveTallySummaryV1 := none
  archiveHashHex : Option Bytes := none
  recomputedArchiveHashHex : Option Bytes := none
  archiveHashConsistent : Bool := false
  electionManifestHashHex : Option Bytes := none
  electionManifestSchemaVersion : Option Nat := none
  proposalQuestion : Option Text := none
  electionIdHex : Option Bytes := none
  ballotKindId : Option Text := none
  ballotConfidentialityId : Option Text := none
  proofSuiteId : Option Text := none
  registryCommitmentHex : Option Bytes := none
  optionSetCommitmentHex : Option Bytes := none
  eligibleVoterCount : Option Nat := none
  governanceSourceMatchesPin : ArchiveGovernancePinFactV1 := .notApplicable
  transportBindingPresent : Bool := false
  transportBindingVerified : Bool := false
  transportBatchSetCommitmentHex : Option Bytes := none
  transportAcceptedCount : Option UInt64 := none
  transportReducedAnonymity : Option Bool := none
deriving DecidableEq

namespace ArchiveDirectoryVerificationV1

/-- `ArchiveDirectoryVerificationV1::empty` -/
def empty : ArchiveDirectoryVerificationV1 := {}

/-- `fail` -/
def fail (self : ArchiveDirectoryVerificationV1) (stage : ArchiveStage) (code : String) :
    ArchiveDirectoryVerificationV1 :=
  { self with verified := false, failureStage := some stage, failureCode := some code }

end ArchiveDirectoryVerificationV1

/-- An early return: `Ok(result.fail(..))` or an error. -/
inductive Stop where
  | failed (report : ArchiveDirectoryVerificationV1)
  | error (error : ArchiveVerifierError)

/-- A stage of the verification. -/
abbrev Stage (α : Type) := Except Stop α

/-- `return Ok(result.fail(stage, code))` -/
def failWith {α : Type} (report : ArchiveDirectoryVerificationV1) (stage : ArchiveStage)
    (code : String) : Stage α :=
  .error (.failed (report.fail stage code))

/-- `.map_err(|code| ..)` into a failed stage. -/
def orFail {α : Type} (report : ArchiveDirectoryVerificationV1) (stage : ArchiveStage) :
    Except String α → Stage α
  | .ok a => .ok a
  | .error code => failWith report stage code

/-- `?` on an `ArchiveVerifierError`. -/
def orStop {α : Type} : Except ArchiveVerifierError α → Stage α
  | .ok a => .ok a
  | .error e => .error (.error e)

/-- `.map_err(|_| ArchiveVerifierError::IoFailure)?` -/
def orIoFailure {α : Type} : Result α → Stage α
  | .ok a => .ok a
  | .error _ => .error (.error .ioFailure)

/-- What a verification returns. -/
def returned : Stage ArchiveDirectoryVerificationV1 →
    Except ArchiveVerifierError ArchiveDirectoryVerificationV1
  | .ok report => .ok report
  | .error (.failed report) => .ok report
  | .error (.error e) => .error e

private def lowerHexDigit (v : Nat) : UInt8 :=
  if v < 10 then UInt8.ofNat (0x30 + v) else UInt8.ofNat (0x57 + v)

/-- `to_lower_hex_slice` -/
def toLowerHexSlice (bytes : Bytes) : Bytes :=
  bytes.flatMap fun b ↦ [lowerHexDigit (b.toNat / 16), lowerHexDigit (b.toNat % 16)]

/-! ### Identity and catalog -/

/-- What one call reads: the directory itself, the manifest, the names of the regular files, and
each content file. The directory may change between any two of these. -/
structure ArchiveReads where
  metadata : Except ArchiveVerifierError Unit
  manifest : Except ArchiveVerifierError Bytes
  diskFiles : Except ArchiveVerifierError (List Bytes)
  file : Text → Except ArchiveVerifierError Bytes

/-- The reads of a directory that does not change. -/
def ArchiveReads.ofEntries (entries : List ArchiveEntry) : ArchiveReads where
  metadata := .ok ()
  manifest := readBounded entries archiveManifestCanonicalPath
  diskFiles := .ok (enumerateDiskFiles entries)
  file := readBoundedArchiveFile entries

/-- `EstablishedIdentityV1`; the map of files is the list of its entries, in path order. -/
structure EstablishedIdentityV1 where
  archiveHash : ArchiveHashV1
  archiveManifest : ArchiveManifestV1
  files : List (Text × Bytes)
  result : ArchiveDirectoryVerificationV1
deriving DecidableEq

/-- `catalog_paths` -/
def catalogPaths (manifest : ArchiveManifestV1) : List Text :=
  manifest.files.entries.map (·.path.value)

section

variable (provider : HashProvider)

/-- The loop that reads and digests the content files in catalog order. -/
def readCatalog (file : Text → Except ArchiveVerifierError Bytes) :
    List ArchiveFileEntryV1 → List (Text × Bytes) → ArchiveDirectoryVerificationV1 →
    Stage (List (Text × Bytes) × ArchiveDirectoryVerificationV1)
  | [], files, report => .ok (files, report)
  | entry :: rest, files, report => do
    let bytes ← orStop (file entry.path.value)
    let digestOk := (entry.verifyBytes provider bytes).isOk
    let report := { report with files := report.files ++ [⟨entry.path.value, true, digestOk⟩] }
    if digestOk then readCatalog file rest (files ++ [(entry.path.value, bytes)]) report
    else failWith report .catalogFiles "ARCHIVE_FILE_DIGEST_MISMATCH"

/-- The two differences between the catalog and the files on disk. -/
def compareCatalog (manifest : ArchiveManifestV1) (diskFiles : List Bytes)
    (report : ArchiveDirectoryVerificationV1) : Stage Unit :=
  if (catalogPaths manifest).any fun path ↦ !diskFiles.contains path.toBytes then
    failWith { report with
      files := report.files ++ (catalogPaths manifest).map fun path ↦
        ⟨path, diskFiles.contains path.toBytes, false⟩ } .catalogFiles "GUI_ARCHIVE_MISSING_FILE"
  else if diskFiles.any fun path ↦ !((catalogPaths manifest).map Text.toBytes).contains path then
    failWith report .catalogFiles "GUI_ARCHIVE_UNEXPECTED_FILE"
  else .ok ()

/-- The bytes of the archive manifest. -/
def readManifestBytes (reads : ArchiveReads) : Stage Bytes :=
  match reads.manifest with
  | .ok bytes => .ok bytes
  | .error .fileNotFound => failWith .empty .archiveManifest "GUI_ARCHIVE_MISSING_FILE"
  | .error e => failWith .empty .archiveManifest e.code

/-- The stage of the archive manifest: read, decoded and hashed. -/
def readArchiveManifest (reads : ArchiveReads) : Stage (ArchiveManifestV1 × ArchiveHashV1) := do
  orStop reads.metadata
  let manifestBytes ← readManifestBytes reads
  let archiveManifest ← orFail .empty .archiveManifest
    (codeStr (ArchiveManifestV1.fromCanonicalCbor manifestBytes))
  orFail .empty .archiveManifest (codeStr (archiveManifest.validateHashProvider provider))
  let archiveHash ← orIoFailure (archiveManifest.canonicalHash provider)
  pure (archiveManifest, archiveHash)

/-- The report once the manifest is known. -/
def identityReport (manifest : ArchiveManifestV1) (archiveHash : ArchiveHashV1) :
    ArchiveDirectoryVerificationV1 :=
  { ArchiveDirectoryVerificationV1.empty with
    archiveHashHex := some (toLowerHexSlice archiveHash.toBytes)
    fileCount := manifest.files.entries.length }

/-- `establish_identity_and_catalog`; `crates/archive/src/verifier.rs:364`. -/
def establishIdentityAndCatalog (reads : ArchiveReads) : Stage EstablishedIdentityV1 := do
  let (archiveManifest, archiveHash) ← readArchiveManifest provider reads
  let diskFiles ← orStop reads.diskFiles
  compareCatalog archiveManifest diskFiles (identityReport archiveManifest archiveHash)
  let (files, result) ← readCatalog provider reads.file archiveManifest.files.entries []
    (identityReport archiveManifest archiveHash)
  pure ⟨archiveHash, archiveManifest, files, result⟩

end

/-! ### Governance pins -/

/-- `GovernanceSourcePinV1`, by its kind. -/
inductive GovernanceSourcePinV1 where
  | blake3Digest (digestHex : Bytes)
  | gitCommit
  | unrecognized
deriving DecidableEq

/-- `text.strip_prefix(start)` -/
def stripStart (text start : Bytes) : Option Bytes :=
  if start.isPrefixOf text then some (text.drop start.length) else none

/-- `is_lowercase_hex` -/
def isLowercaseHex (value : Bytes) : Bool :=
  value.all fun byte ↦ (0x30 ≤ byte && byte ≤ 0x39) || (0x61 ≤ byte && byte ≤ 0x66)

/-- `validate_governance_source_pin` -/
def validateGovernanceSourcePin (revision : Text) : GovernanceSourcePinV1 :=
  if maxGovernanceRevisionBytes < revision.len then .unrecognized
  else match stripStart revision.toBytes (Text.lit "blake3:").toBytes with
  | some hexPart =>
    if hexPart.length = 64 && isLowercaseHex (toAsciiLowercase hexPart) then
      .blake3Digest (toAsciiLowercase hexPart)
    else .unrecognized
  | none => match stripStart revision.toBytes (Text.lit "git:").toBytes with
    | some hexPart =>
      if hexPart.length = 40 && isLowercaseHex (toAsciiLowercase hexPart) then .gitCommit
      else .unrecognized
    | none => .unrecognized

/-! ### The tally in a report -/

private def displayNameOf (candidates : CandidateSet) (idBytes : Bytes) : Text :=
  match candidates.candidates.find? fun candidate ↦ candidate.id.toBytes = idBytes with
  | some candidate => candidate.displayName
  | none => default

/-- `summarize_tally` -/
def summarizeTally (tally : ApprovalTally) (candidates : CandidateSet) : ArchiveTallySummaryV1 where
  acceptedBallots := tally.acceptedBallots
  abstentions := tally.abstentions
  counts := tally.counts.map fun count ↦
    ⟨toLowerHexSlice count.candidateId.toBytes, Text.ofBytes? count.candidateId.toBytes,
      displayNameOf candidates count.candidateId.toBytes, count.approvals⟩
  leading := match tally.leadingResult with
    | .noApprovals => .noApprovals
    | .singleLeader candidateId approvals =>
      .singleLeader (toLowerHexSlice candidateId.toBytes)
        (displayNameOf candidates candidateId.toBytes) approvals
    | .tie candidateIds approvals =>
      .tie (candidateIds.map fun id ↦ toLowerHexSlice id.toBytes) approvals

/-! ### Replay and rebuild -/

-- A path that was looked for in the catalog has been read.
/-- `files[path]` -/
def fileBytes (files : List (Text × Bytes)) (path : Text) : Bytes := (files.lookup path).getD []

/-- The paths under `submissions/`, in path order. -/
def submissionPaths (manifest : ArchiveManifestV1) : List Text :=
  (catalogPaths manifest).filter (startsWith · submissionsArchivePrefix)

section

variable (crate : TriptychCrate) (provider : HashProvider) (nfc : List Char → List Char)

/-- The stage of the election artifacts. -/
def decodeArtifacts (manifest : ArchiveManifestV1) (files : List (Text × Bytes))
    (report : ArchiveDirectoryVerificationV1) : Stage ArchiveElectionArtifactsV1 :=
  if [electionManifestArchivePath, voterRegistryArchivePath, candidateSetArchivePath].any
      fun path ↦ !(catalogPaths manifest).contains path then
    failWith report .electionArtifacts "GUI_ARCHIVE_MISSING_ARTIFACT"
  else orFail report .electionArtifacts
    (ArchiveElectionArtifactsV1.fromBytes nfc provider (fileBytes files electionManifestArchivePath)
      (fileBytes files voterRegistryArchivePath) (fileBytes files candidateSetArchivePath))

/-- The report with the public fields of the election. -/
def describeElection (artifacts : ArchiveElectionArtifactsV1)
    (report : ArchiveDirectoryVerificationV1) : ArchiveDirectoryVerificationV1 :=
  { report with
    electionManifestHashHex := some (toLowerHexSlice artifacts.manifestHash.toBytes)
    electionManifestSchemaVersion := some artifacts.manifest.manifestSchemaVersion
    proposalQuestion := artifacts.manifest.proposalQuestion
    electionIdHex := some (toLowerHexSlice artifacts.manifest.fields.electionId.toBytes)
    ballotKindId := some artifacts.manifest.fields.ballotKind.asStr
    ballotConfidentialityId := some artifacts.manifest.fields.ballotConfidentiality.asStr
    proofSuiteId := some artifacts.manifest.fields.proofSuiteId
    registryCommitmentHex :=
      some (toLowerHexSlice artifacts.manifest.fields.registryCommitment.toBytes)
    optionSetCommitmentHex :=
      some (toLowerHexSlice artifacts.manifest.fields.candidateSetCommitment.toBytes)
    eligibleVoterCount := some artifacts.registry.entries.length }

-- The counts are added as `u64`; in a release build the sum wraps around.
/-- The report with the facts of a transport binding. -/
def describeBinding (binding : TransportArchiveBindingV1)
    (report : ArchiveDirectoryVerificationV1) : ArchiveDirectoryVerificationV1 :=
  { report with
    transportBindingVerified := true
    transportBatchSetCommitmentHex := some (toLowerHexSlice binding.finalBatchSetCommitment.toBytes)
    transportAcceptedCount :=
      some (binding.batches.foldl (fun sum batch ↦ sum + batch.acceptedUniqueCount) 0)
    transportReducedAnonymity := some (binding.batches.any (·.reducedAnonymity)) }

/-- The stage of the transport binding, for archives that have one. -/
def checkTransportBinding (artifacts : ArchiveElectionArtifactsV1) (files : List (Text × Bytes))
    (report : ArchiveDirectoryVerificationV1) : Stage ArchiveDirectoryVerificationV1 :=
  match files.lookup transportArchiveBindingPathV1 with
  | none => .ok report
  | some bytes => do
    let report := { report with transportBindingPresent := true }
    let binding ← orFail report .transportBinding
      (codeStr (TransportArchiveBindingV1.fromCanonicalCbor provider bytes))
    if binding.manifestHash ≠ artifacts.manifestHash ∨
        binding.electionId ≠ artifacts.manifest.fields.electionId.toBytes then
      failWith report .transportBinding "GUI_TRANSPORT_ARCHIVE_BINDING_MISMATCH"
    else pure (describeBinding binding report)

/-- The stage of the governance pin. -/
def checkGovernancePin (manifest : ArchiveManifestV1) (artifacts : ArchiveElectionArtifactsV1)
    (report : ArchiveDirectoryVerificationV1) : Stage ArchiveDirectoryVerificationV1 :=
  match validateGovernanceSourcePin artifacts.manifest.fields.governanceSourceRevision with
  | .gitCommit => .ok { report with governanceSourceMatchesPin := .operatorAttested }
  | .unrecognized => .ok { report with governanceSourceMatchesPin := .notApplicable }
  | .blake3Digest pinHex =>
    match manifest.files.entries.find? fun entry ↦
        entry.path.value = governanceDocumentArchivePath with
    | none => failWith { report with governanceSourceMatchesPin := .missing } .governancePin
        "GUI_GOVERNANCE_ARCHIVE_DOCUMENT_MISSING"
    | some entry =>
      if toLowerHexSlice entry.digest.toBytes = pinHex then
        .ok { report with governanceSourceMatchesPin := .matched }
      else failWith { report with governanceSourceMatchesPin := .mismatch } .governancePin
        "GUI_GOVERNANCE_ARCHIVE_PIN_MISMATCH"

/-- The stage of the ballots: a new session, opened, with every submission replayed in order. -/
def replaySubmissions (artifacts : ArchiveElectionArtifactsV1) (packages : List Bytes)
    (report : ArchiveDirectoryVerificationV1) :
    Stage (ArchiveReplaySessionV1 × ArchiveDirectoryVerificationV1) := do
  let report := { report with ballotPackageCount := packages.length }
  let session ← orFail report .ballotReplay
    (ArchiveReplaySessionV1.new crate provider artifacts)
  let session ← orFail report .ballotReplay session.openVoting
  let (result, session) := session.replayBatched crate provider packages
  orFail report .ballotReplay result
  orFail report .ballotReplay (codeStr session.transcript.validateComplete)
  let report := { report with
    transcriptComplete := true
    acceptedCount := session.transcript.acceptedCount
    rejectedCount := session.transcript.rejectedCount }
  let tally ← orFail report .ballotReplay session.directTally
  pure (session,
    { report with tally := some (summarizeTally tally session.artifacts.candidates) })

/-- The catalog of the files that were read. -/
def rebuildCatalog (files : List (Text × Bytes)) : Result ArchiveFileCatalogV1 := do
  let entries ← files.mapM fun (path, bytes) ↦ do
    let archivePath ← ArchivePathV1.new path
    pure (ArchiveFileEntryV1.forBytes archivePath provider bytes)
  ArchiveFileCatalogV1.new entries

/-- The manifest of the files that were read, of the same version. -/
def rebuildManifest (manifest : ArchiveManifestV1) (manifestHash : ManifestHash)
    (files : List (Text × Bytes)) : Result ArchiveManifestV1 := do
  let catalog ← rebuildCatalog provider files
  if manifest.isFinalizedArchiveManifest then
    ArchiveManifestV1.finalizedForProvider manifestHash catalog provider
  else ArchiveManifestV1.forProvider manifestHash catalog provider

/-- The stage of the archive hash. -/
def checkArchiveHash (manifest : ArchiveManifestV1) (archiveHash : ArchiveHashV1)
    (manifestHash : ManifestHash) (files : List (Text × Bytes))
    (report : ArchiveDirectoryVerificationV1) : Stage ArchiveDirectoryVerificationV1 := do
  let rebuilt ← orIoFailure (rebuildManifest provider manifest manifestHash files)
  let recomputedHash ← orIoFailure (rebuilt.canonicalHash provider)
  let report := { report with
    recomputedArchiveHashHex := some (toLowerHexSlice recomputedHash.toBytes)
    archiveHashConsistent := decide (rebuilt = manifest ∧ recomputedHash = archiveHash) }
  if report.archiveHashConsistent then
    pure { report with verified := true, finalized := manifest.isFinalizedArchiveManifest }
  else failWith report .archiveHash "ARCHIVE_MANIFEST_HASH_MISMATCH"

/-- `finish_verification_replaying` with the batched replay;
`crates/archive/src/verifier.rs:500`. -/
def finishStages (established : EstablishedIdentityV1) : Stage ArchiveDirectoryVerificationV1 := do
  let artifacts ← decodeArtifacts provider nfc established.archiveManifest established.files
    established.result
  let report := describeElection artifacts established.result
  let report ← checkTransportBinding provider artifacts established.files report
  let report ← checkGovernancePin established.archiveManifest artifacts report
  let packages := (submissionPaths established.archiveManifest).map (fileBytes established.files)
  let (session, report) ← replaySubmissions crate provider artifacts packages report
  checkArchiveHash provider established.archiveManifest established.archiveHash
    session.artifacts.manifestHash established.files report

/-- `finish_verification` -/
def finishVerification (established : EstablishedIdentityV1) :
    Except ArchiveVerifierError ArchiveDirectoryVerificationV1 :=
  returned (finishStages crate provider nfc established)

/-- `verify_archive_directory_v1`, by what it reads. -/
def verifyReads (reads : ArchiveReads) :
    Except ArchiveVerifierError ArchiveDirectoryVerificationV1 :=
  match establishIdentityAndCatalog provider reads with
  | .ok established => finishVerification crate provider nfc established
  | .error stop => returned (.error stop)

/-- `verify_archive_directory_v1`; `crates/archive/src/verifier.rs`. -/
def verifyArchiveDirectoryV1 (entries : List ArchiveEntry) :
    Except ArchiveVerifierError ArchiveDirectoryVerificationV1 :=
  verifyReads crate provider nfc (.ofEntries entries)

end

end PrivateBallot.Archive
