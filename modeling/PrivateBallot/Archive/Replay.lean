import PrivateBallot.Verifier.Ledger
import PrivateBallot.Tally.Approval
import PrivateBallot.Archive.Transcript

/-!
# Archive replay

Library `Archive`. `crates/archive/src/verifier.rs:700-947`: replay of archived submissions in
batches, and the serial ingest it has to agree with. A session method takes `&mut self`, so it
returns its result with the session it leaves, also when it fails.
-/

namespace PrivateBallot.Archive

open PrivateBallot.Base
open PrivateBallot.Protocol
open PrivateBallot.Ballot
open PrivateBallot.Registry
open PrivateBallot.Crypto
open PrivateBallot.Verifier
open PrivateBallot.Tally

/-- `ARCHIVE_REPLAY_BATCH_SIZE_V1` -/
def archiveReplayBatchSizeV1 : Nat := 16

/-- `map_err(|error| error.code().as_str())` -/
def codeStr {α : Type} (result : Result α) : Except String α :=
  result.mapError fun e ↦ e.code.asStr

/-- `ArchiveElectionArtifactsV1` -/
structure ArchiveElectionArtifactsV1 where
  manifest : ElectionManifest
  registry : RegistrySnapshot
  candidates : CandidateSet
  manifestHash : ManifestHash
  registryCommitment : RegistryCommitment
deriving DecidableEq

/-- `ArchiveElectionArtifactsV1::from_bytes` -/
def ArchiveElectionArtifactsV1.fromBytes (nfc : List Char → List Char)
    (provider : HashProvider) (manifestBytes registryBytes candidateBytes : Bytes) :
    Except String ArchiveElectionArtifactsV1 := do
  let manifest ← codeStr (ElectionManifest.fromCanonicalCbor nfc manifestBytes)
  let registry ← codeStr (RegistrySnapshot.fromCanonicalCbor registryBytes)
  let candidates ← codeStr (CandidateSet.fromCanonicalCbor candidateBytes)
  let registryCommitment ← codeStr (registry.canonicalCommitment provider)
  if registryCommitment ≠ manifest.fields.registryCommitment then
    Except.error "GUI_REGISTRY_COMMITMENT_MISMATCH"
  let candidateSetCommitment ← codeStr (candidates.canonicalCommitment provider)
  if candidateSetCommitment ≠ manifest.fields.candidateSetCommitment then
    Except.error ValidationCode.candidateSetCommitmentMismatch.asStr
  let manifestHash ← codeStr (manifest.canonicalHash provider)
  codeStr (productionProofSuitePolicyV1 manifest.fields.proofSuiteId)
  pure ⟨manifest, registry, candidates, manifestHash, registryCommitment⟩

/-- `ArchiveReplaySessionV1` -/
structure ArchiveReplaySessionV1 where
  artifacts : ArchiveElectionArtifactsV1
  verifier : TariTriptychPrototypeVerifierV1
  lifecycle : ElectionLifecycleV1
  ledger : BallotAcceptanceLedger
  transcript : VerificationTranscriptV1
deriving DecidableEq

namespace ArchiveReplaySessionV1

section

variable (crate : TriptychCrate) (provider : HashProvider)

/-- `ArchiveReplaySessionV1::new` -/
def new (artifacts : ArchiveElectionArtifactsV1) : Except String ArchiveReplaySessionV1 := do
  let verifier ← codeStr
    (buildTariTriptychVerifierFromRegistryV1 crate artifacts.registry provider)
  let lifecycle ← codeStr
    (ElectionLifecycleV1.new.freeze artifacts.manifestHash artifacts.registryCommitment)
  pure ⟨artifacts, verifier, lifecycle, .new, .new artifacts.manifestHash⟩

/-- `ArchiveReplaySessionV1::open` -/
def openVoting (self : ArchiveReplaySessionV1) : Except String ArchiveReplaySessionV1 := do
  let lifecycle ← codeStr self.lifecycle.openVoting
  pure { self with lifecycle }

/-- What verification of this session's packages reads. -/
def context (self : ArchiveReplaySessionV1) : VerificationContext where
  manifest := self.artifacts.manifest
  candidates := self.artifacts.candidates
  provider := provider
  proofVerifier := self.verifier.toProofVerifier crate

/-- Records the submission, runs the ingest step on the ledger and records its decision. -/
def recordIngest (self : ArchiveReplaySessionV1) (packageBytes : Bytes)
    (ingest : BallotAcceptanceLedger → Result Unit × BallotAcceptanceLedger) :
    Except String Unit × ArchiveReplaySessionV1 :=
  let digest := packageDigest provider packageBytes
  let (sequence, transcript) := self.transcript.recordSubmission digest true
  let (result, ledger) := ingest self.ledger
  match transcript.recordDecision sequence digest (.ofResult result) with
  | .ok transcript => (.ok (), { self with ledger, transcript })
  | .error e => (.error e.code.asStr, { self with ledger, transcript })

/-- `apply_verified`: a result computed earlier is applied to the ledger. -/
def applyVerified (self : ArchiveReplaySessionV1) (packageBytes : Bytes)
    (verification : Result VerifiedApprovalBallotV1) :
    Except String Unit × ArchiveReplaySessionV1 :=
  self.recordIngest provider packageBytes fun ledger ↦ match verification with
    | .ok ballot => ledger.acceptVerified self.lifecycle ballot
    | .error e => (.error e, ledger)

/-- `intake_ballot`: the retained serial ingest of one package. -/
def intakeBallot (self : ArchiveReplaySessionV1) (packageBytes : Bytes) :
    Except String Unit × ArchiveReplaySessionV1 :=
  self.recordIngest provider packageBytes fun ledger ↦
    ingestApprovalBallotPackageV1 (self.context crate provider) self.lifecycle ledger
      packageBytes

/-- `replay_serial_for_test`: one package after the other, stopping at a session error. -/
def replaySerial (self : ArchiveReplaySessionV1) :
    List Bytes → Except String Unit × ArchiveReplaySessionV1
  | [] => (.ok (), self)
  | packageBytes :: rest =>
    match self.intakeBallot crate provider packageBytes with
    | (.ok (), session) => session.replaySerial rest
    | (.error e, session) => (.error e, session)

/-- The loop of `replay_batched` that applies the results in submission order. -/
def applyAll (self : ArchiveReplaySessionV1) :
    List (Bytes × Result VerifiedApprovalBallotV1) →
    Except String Unit × ArchiveReplaySessionV1
  | [] => (.ok (), self)
  | (packageBytes, verification) :: rest =>
    match self.applyVerified provider packageBytes verification with
    | (.ok (), session) => session.applyAll rest
    | (.error e, session) => (.error e, session)

/-- `replay_batched` over given batches of the packages. -/
def replayBatches (self : ArchiveReplaySessionV1) (batches : List (List Bytes))
    (packages : List Bytes) : Except String Unit × ArchiveReplaySessionV1 :=
  let results := batches.flatMap
    (verifyApprovalBallotPackagesBatchV1 (self.context crate provider))
  if results.length ≠ packages.length then (.error ValidationCode.invalidData.asStr, self)
  else self.applyAll provider (packages.zip results)

/-- `replay_batched`; `crates/archive/src/verifier.rs:827`. -/
def replayBatched (self : ArchiveReplaySessionV1) (packages : List Bytes) :
    Except String Unit × ArchiveReplaySessionV1 :=
  self.replayBatches crate provider (chunks archiveReplayBatchSizeV1 packages) packages

/-- `direct_tally` -/
def directTally (self : ArchiveReplaySessionV1) : Except String ApprovalTally :=
  codeStr (ApprovalTally.fromBallots self.artifacts.candidates
    (self.ledger.acceptedBallots.map (·.payload)))

/-- A recorded ingest changes the ledger and the transcript only. -/
theorem recordIngest_frame (self : ArchiveReplaySessionV1) (packageBytes : Bytes)
    (ingest : BallotAcceptanceLedger → Result Unit × BallotAcceptanceLedger) :
    (self.recordIngest provider packageBytes ingest).2.artifacts = self.artifacts ∧
      (self.recordIngest provider packageBytes ingest).2.verifier = self.verifier ∧
      (self.recordIngest provider packageBytes ingest).2.lifecycle = self.lifecycle := by
  unfold recordIngest
  simp only
  split <;> exact ⟨rfl, rfl, rfl⟩

private theorem applyVerified_verify (self : ArchiveReplaySessionV1) (packageBytes : Bytes) :
    self.applyVerified provider packageBytes
        (verifyApprovalBallotPackageV1 (self.context crate provider) packageBytes) =
      self.intakeBallot crate provider packageBytes := by
  unfold applyVerified intakeBallot ingestApprovalBallotPackageV1
  congr 1
  funext ledger
  cases verifyApprovalBallotPackageV1 (self.context crate provider) packageBytes <;> rfl

-- Verification reads only the artifacts and the verifier, which no step changes.
private theorem applyAll_eq_replaySerial (self : ArchiveReplaySessionV1)
    (reads : VerificationContext) (hreads : self.context crate provider = reads)
    (packages : List Bytes) :
    self.applyAll provider
        (packages.zip (packages.map (verifyApprovalBallotPackageV1 reads))) =
      self.replaySerial crate provider packages := by
  induction packages generalizing self with
  | nil => rfl
  | cons packageBytes rest ih =>
    have hstep := self.applyVerified_verify crate provider packageBytes
    rw [hreads] at hstep
    rw [List.map_cons, List.zip_cons_cons, applyAll, replaySerial, hstep]
    cases hintake : self.intakeBallot crate provider packageBytes with
    | mk result session =>
      cases result with
      | error e => rfl
      | ok u =>
        obtain ⟨hartifacts, hverifier, _⟩ := self.recordIngest_frame provider packageBytes
          fun ledger ↦ ingestApprovalBallotPackageV1 (self.context crate provider)
            self.lifecycle ledger packageBytes
        rw [← intakeBallot, hintake] at hartifacts hverifier
        apply ih
        rw [← hreads, context, context, hartifacts, hverifier]

/-- The verifier of a session answers batches of one election pointwise. -/
theorem batchPointwise_toProofVerifier (laws : TriptychBatchLaws crate)
    (verifier : TariTriptychPrototypeVerifierV1) :
    BatchPointwise (verifier.toProofVerifier crate) :=
  fun inputs key hkey ↦ verifier.verifyBatchV1_eq_map_verify laws inputs key hkey

/-- Batches that make up the packages replay them one after the other. -/
theorem replayBatches_eq_replaySerial (laws : TriptychBatchLaws crate)
    (self : ArchiveReplaySessionV1) (batches : List (List Bytes)) (packages : List Bytes)
    (hbatches : batches.flatten = packages) :
    self.replayBatches crate provider batches packages =
      self.replaySerial crate provider packages := by
  have hresults : batches.flatMap
      (verifyApprovalBallotPackagesBatchV1 (self.context crate provider)) =
      packages.map (verifyApprovalBallotPackageV1 (self.context crate provider)) := by
    have hpoint : verifyApprovalBallotPackagesBatchV1 (self.context crate provider) =
        List.map (verifyApprovalBallotPackageV1 (self.context crate provider)) := by
      funext batch
      exact verifyApprovalBallotPackagesBatchV1_eq_map _
        (batchPointwise_toProofVerifier crate laws self.verifier) batch
    rw [hpoint, List.flatMap_def, ← List.map_flatten, hbatches]
  unfold replayBatches
  simp only [hresults, List.length_map, ne_eq, not_true_eq_false, if_false]
  exact self.applyAll_eq_replaySerial crate provider _ rfl packages

/-- Replay in batches is serial replay: for every session and every list of package bytes, the
code's sixteen-package chunks, and any other division into consecutive batches, leave the same
session (transcript, ledger and all), the same result and so the same tally. -/
theorem replayBatched_eq_replaySerial (laws : TriptychBatchLaws crate)
    (session : ArchiveReplaySessionV1) (packages : List Bytes) :
    session.replayBatched crate provider packages =
        session.replaySerial crate provider packages ∧
      (∀ batches : List (List Bytes), batches.flatten = packages →
        session.replayBatches crate provider batches packages =
          session.replaySerial crate provider packages) ∧
      (session.replayBatched crate provider packages).2.directTally =
        (session.replaySerial crate provider packages).2.directTally := by
  have hchunks : session.replayBatched crate provider packages =
      session.replaySerial crate provider packages :=
    replayBatches_eq_replaySerial crate provider laws session _ packages
      (flatten_chunks archiveReplayBatchSizeV1 (by decide) packages)
  refine ⟨hchunks, ?_, by rw [hchunks]⟩
  intro batches hbatches
  exact replayBatches_eq_replaySerial crate provider laws session batches packages hbatches

end

/-- An open replay session over the sample election. -/
def sample : ArchiveReplaySessionV1 where
  artifacts := ⟨Sample.manifest, Sample.registry, Sample.candidates, Sample.manifestHash,
    Sample.registryCommitment⟩
  verifier := Verifier.Sample.verifier
  lifecycle := ⟨.opened, some Sample.manifestHash, some Sample.registryCommitment⟩
  ledger := .new
  transcript := .new Sample.manifestHash

/-- On the sample session: a ballot, its duplicate, an invalid proof and bytes that do not
decode; one ballot is accepted, and batched and serial replay agree. -/
theorem replayBatched_eq_replaySerial_sample :
    let packages := [Sample.package 1 9 [1], Sample.package 2 9 [1], Sample.package 1 8 [0], [0]]
    (sample.replaySerial Sample.crate Sample.provider packages).2.ledger.acceptedBallots.length
        = 1 ∧
      sample.replayBatched Sample.crate Sample.provider packages =
        sample.replaySerial Sample.crate Sample.provider packages := by
  intro packages
  exact ⟨by decide +kernel, (replayBatched_eq_replaySerial Sample.crate Sample.provider
    (triptychBatchLaws_idealCrate _) sample packages).1⟩

end ArchiveReplaySessionV1

end PrivateBallot.Archive
