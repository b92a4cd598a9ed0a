import PrivateBallot.Base.WorkerPool
import PrivateBallot.Archive.Transcript
import PrivateBallot.Archive.Replay
import PrivateBallot.GuiCore.WorkspaceNames
import PrivateBallot.GuiCore.WorkspaceRecord
import Mathlib.Data.List.AList

/-!
# Election sessions

Library `GuiCore`. `crates/gui-core/src/artifacts.rs`, `session.rs` and `historical_replay.rs`:
the artifacts of an election, the session that ingests its ballots, and the durable snapshot a
session is rebuilt from. A method that takes `&mut self` returns the session it leaves, also
when it fails. Everything of a session but its validation cache is determined by its artifacts,
lifecycle state and packages: `fromDurableSnapshot_of_reachable`.
-/

namespace PrivateBallot.GuiCore

open PrivateBallot.Base PrivateBallot.Protocol PrivateBallot.Ballot PrivateBallot.Registry
open PrivateBallot.Crypto PrivateBallot.Verifier PrivateBallot.Archive

/-- The third-party code a session calls: the proof crate, the hash function and the Unicode
normalisation. -/
structure Primitives where
  crate : TriptychCrate
  provider : HashProvider
  nfc : List Char → List Char

/-! ### Artifacts -/

/-- `GuiElectionArtifactsV1` -/
structure GuiElectionArtifactsV1 where
  manifest : ElectionManifest
  registry : RegistrySnapshot
  candidates : CandidateSet
  manifestHash : ManifestHash
  registryCommitment : RegistryCommitment
  candidateSetCommitment : CandidateSetCommitment
deriving DecidableEq

namespace GuiElectionArtifactsV1

variable {prims : Primitives} {artifacts : GuiElectionArtifactsV1}
  {manifestBytes registryBytes candidateBytes : Bytes}

/-- The cross-binding of decoded artifacts: the rest of `from_bytes`. -/
def bindDecoded (prims : Primitives) (manifest : ElectionManifest) (registry : RegistrySnapshot)
    (candidates : CandidateSet) : GuiResult GuiElectionArtifactsV1 := do
  let registryCommitment ← ofProtocol "registry" (registry.canonicalCommitment prims.provider)
  if registryCommitment ≠ manifest.fields.registryCommitment then
    Except.error GuiCoreError.registryCommitmentMismatch
  let candidateSetCommitment ←
    ofProtocol "candidates" (candidates.canonicalCommitment prims.provider)
  if candidateSetCommitment ≠ manifest.fields.candidateSetCommitment then
    ofProtocol "candidates" (fail .candidateSetCommitmentMismatch
      "the candidate-set commitment does not match the election manifest")
  let manifestHash ← ofProtocol "manifest" (manifest.canonicalHash prims.provider)
  ofProtocol "manifest" (productionProofSuitePolicyV1 manifest.fields.proofSuiteId)
  pure ⟨manifest, registry, candidates, manifestHash, registryCommitment, candidateSetCommitment⟩

/-- `GuiElectionArtifactsV1::from_bytes`; `crates/gui-core/src/artifacts.rs:41`. -/
def fromBytes (prims : Primitives) (manifestBytes registryBytes candidateBytes : Bytes) :
    GuiResult GuiElectionArtifactsV1 := do
  let manifest ←
    ofProtocol "manifest" (ElectionManifest.fromCanonicalCbor prims.nfc manifestBytes)
  let registry ← ofProtocol "registry" (RegistrySnapshot.fromCanonicalCbor registryBytes)
  let candidates ← ofProtocol "candidates" (CandidateSet.fromCanonicalCbor candidateBytes)
  bindDecoded prims manifest registry candidates

end GuiElectionArtifactsV1

/-! ### The session -/

/-- `GuiIntakeCategory` -/
inductive GuiIntakeCategory where
  | accepted
  | duplicate
  | wrongElection
  | malformedProof
  | unsupportedSuite
  | invalid
deriving DecidableEq, Repr

/-- `GuiIntakeCategory::from_validation` -/
def GuiIntakeCategory.fromValidation : ValidationCode → GuiIntakeCategory
  | .duplicateNullifier => .duplicate
  | .wrongManifestHash | .lifecycleCommitmentMismatch | .candidateSetCommitmentMismatch =>
    .wrongElection
  | .malformedProof => .malformedProof
  | .unsupportedProofSuite => .unsupportedSuite
  | _ => .invalid

/-- `GuiBallotIntakeResultV1` -/
structure GuiBallotIntakeResultV1 where
  accepted : Bool
  code : String
  category : GuiIntakeCategory
  packageDigestHex : Bytes
deriving DecidableEq

/-- `TranscriptDecisionIndexEntryV1` -/
structure TranscriptDecisionIndexEntryV1 where
  sequence : Nat
  outcome : BallotDecisionOutcomeV1
deriving DecidableEq

/-- `PrivateInboxFileValidationV1`; a modification time is a number here. -/
structure PrivateInboxFileValidationV1 where
  byteLen : Nat
  modified : Nat
deriving DecidableEq

/-- `GuiElectionSessionV1`; `crates/gui-core/src/session.rs:71`. -/
structure GuiElectionSessionV1 where
  artifacts : GuiElectionArtifactsV1
  verifier : TariTriptychPrototypeVerifierV1
  lifecycle : ElectionLifecycleV1
  ledger : BallotAcceptanceLedger
  transcript : VerificationTranscriptV1
  packages : List Bytes
  privateIntakeDigestIndex : AList fun _ : BallotPackageDigestV1 ↦ TranscriptDecisionIndexEntryV1
  privateInboxValidationCache : AList fun _ : BallotPackageDigestV1 ↦ PrivateInboxFileValidationV1
deriving DecidableEq

/-- `HistoricalReplayConfigV1` -/
structure HistoricalReplayConfigV1 where
  workerCount : Option Nat
  batchSize : Nat
  parallelThreshold : Nat

namespace HistoricalReplayConfigV1

/-- `HistoricalReplayConfigV1::default` -/
def default : HistoricalReplayConfigV1 := ⟨none, 16, 24⟩

/-- `uses_parallel_path` -/
def usesParallelPath (self : HistoricalReplayConfigV1) (packageCount : Nat) : Bool :=
  decide (max self.parallelThreshold 1 ≤ packageCount) &&
    decide ((match self.workerCount with
      | some count => max count 1
      | none => 2) ≠ 1)

/-- `resolve_workers`, with the number of workers the global budget grants. -/
def resolveWorkers (self : HistoricalReplayConfigV1) (batchCount granted : Nat) : Nat :=
  match self.workerCount with
  | some forced => min (max forced 1) (max batchCount 1)
  | none => max (min (max granted 1) (max batchCount 1)) 1

end HistoricalReplayConfigV1

private def batchRangesFrom (packageCount batchSize : Nat) : Nat → Nat → List (Nat × Nat)
  | 0, _ => []
  | fuel + 1, start =>
    if start < packageCount then
      (start, min (start + batchSize) packageCount) ::
        batchRangesFrom packageCount batchSize fuel (min (start + batchSize) packageCount)
    else []

-- Every round moves the start forward, so `packageCount` rounds are enough.
/-- `batch_ranges` -/
def batchRanges (packageCount batchSize : Nat) : List (Nat × Nat) :=
  batchRangesFrom packageCount (max batchSize 1) packageCount 0

/-- `packages[start..end]` -/
def sliceOf {α : Type} (packages : List α) (range : Nat × Nat) : List α :=
  (packages.take range.2).drop range.1

private theorem flatMap_batchRangesFrom {α : Type} (packages : List α) (batchSize : Nat)
    (hsize : 0 < batchSize) (fuel start : Nat) (hfuel : packages.length ≤ start + fuel) :
    (batchRangesFrom packages.length batchSize fuel start).flatMap (sliceOf packages) =
      packages.drop start := by
  induction fuel generalizing start with
  | zero =>
    rw [batchRangesFrom, List.flatMap_nil, List.drop_eq_nil_of_le (by omega)]
  | succ fuel ih =>
    unfold batchRangesFrom
    split
    · next hstart =>
      rw [List.flatMap_cons, ih _ (by omega), sliceOf]
      dsimp only
      by_cases hend : start + batchSize ≤ packages.length
      · rw [Nat.min_eq_left hend, List.drop_take, Nat.add_sub_cancel_left, ← List.drop_drop,
          List.take_append_drop]
      · rw [Nat.min_eq_right (by omega), List.take_length, List.drop_length, List.append_nil]
    · next hstart =>
      rw [List.flatMap_nil, List.drop_eq_nil_of_le (by omega)]

/-- The ranges cover the packages, in order. -/
theorem flatMap_batchRanges {α : Type} (packages : List α) (batchSize : Nat) :
    (batchRanges packages.length batchSize).flatMap (sliceOf packages) = packages := by
  have h := flatMap_batchRangesFrom packages (max batchSize 1) (by omega) packages.length 0
    (by omega)
  rwa [List.drop_zero] at h

/-- What the executor contributes: the workers the budget grants, and the order in which they
claim and finish batches. -/
structure Executor where
  granted : Nat
  schedule : List Nat

private def executorUnavailable : GuiCoreError :=
  ⟨"GUI_HISTORICAL_REPLAY_EXECUTOR_UNAVAILABLE", .unavailable, some "historical-replay",
    "the bounded historical-verification executor failed; reconstruction fails closed"⟩

/-- `run_bounded`; `crates/gui-core/src/historical_replay.rs`. -/
def runBounded {T : Type} (work : Nat → T) (unitCount workers : Nat) (schedule : List Nat) :
    GuiResult (List T) :=
  let workers := min (max workers 1) (max unitCount 1)
  let slots :=
    if workers ≤ 1 then (List.range unitCount).map fun index ↦ some (work index)
    else ((Pool.start unitCount workers).run work schedule).slots
  slots.mapM fun slot ↦ match slot with
    | some value => Except.ok value
    | none => Except.error executorUnavailable

/-- The scope of the worker threads ends: all of them have finished. -/
def joins (unitCount workers : Nat) (schedule : List Nat) : Bool :=
  let workers := min (max workers 1) (max unitCount 1)
  decide (workers ≤ 1) ||
    ((Pool.start unitCount workers : Pool Unit).run (fun _ ↦ ()) schedule).isFinished

private theorem mapM_some {T : Type} (values : List T) :
    ((values.map some).mapM fun slot ↦ match slot with
      | some value => Except.ok value
      | none => Except.error executorUnavailable) = (Except.ok values : GuiResult (List T)) := by
  induction values with
  | nil => rfl
  | cons value values ih =>
    rw [List.map_cons, List.mapM_cons, ih]
    rfl

/-- Whatever the order, the results are those of the units in order. -/
theorem runBounded_eq_ok {T : Type} (work : Nat → T) {unitCount workers : Nat}
    {schedule : List Nat} (h : joins unitCount workers schedule = true) :
    runBounded work unitCount workers schedule = .ok ((List.range unitCount).map work) := by
  have hslots : (if min (max workers 1) (max unitCount 1) ≤ 1 then
      (List.range unitCount).map fun index ↦ some (work index)
      else ((Pool.start unitCount (min (max workers 1) (max unitCount 1))).run work
        schedule).slots) = ((List.range unitCount).map work).map some := by
    rw [List.map_map]
    split
    · rfl
    · next hmany =>
      apply Pool.slots_of_isFinished (by omega)
      rw [Pool.isFinished_run_forget, Pool.forget_start]
      rw [joins, decide_eq_false hmany, Bool.false_or] at h
      exact h
  unfold runBounded
  simp only [hslots]
  exact mapM_some _

private def workspaceInvalidState (message : String) : GuiCoreError :=
  ⟨"GUI_WORKSPACE_INVALID_STATE", .archiveIntegrity, some "election-workspace", message⟩

private def electionNotOpen (message : String) : GuiCoreError :=
  ⟨ValidationCode.electionNotOpen.asStr, .invalidLifecycleTransition, some "lifecycle", message⟩

private def privateIntakeDigestIndexInconsistent (message : String) : GuiCoreError :=
  ⟨"GUI_PRIVATE_INTAKE_DIGEST_INDEX_INCONSISTENT", .archiveIntegrity,
    some "private-intake-inbox", message⟩

/-- `intake_result` -/
def intakeResult (digest : BallotPackageDigestV1) :
    BallotDecisionOutcomeV1 → GuiBallotIntakeResultV1
  | .accepted => ⟨true, "ACCEPTED", .accepted, toLowerHex digest.toBytes⟩
  | .rejected code =>
    ⟨false, if code = .duplicateNullifier then "DUPLICATE_BALLOT" else code.asStr,
      .fromValidation code, toLowerHex digest.toBytes⟩

namespace GuiElectionSessionV1

section

variable (prims : Primitives)

/-- `GuiElectionSessionV1::new` -/
def new (artifacts : GuiElectionArtifactsV1) : GuiResult GuiElectionSessionV1 := do
  let verifier ← ofProtocol "registry"
    (buildTariTriptychVerifierFromRegistryV1 prims.crate artifacts.registry prims.provider)
  let lifecycle ← ofProtocol "lifecycle"
    (ElectionLifecycleV1.new.freeze artifacts.manifestHash artifacts.registryCommitment)
  pure ⟨artifacts, verifier, lifecycle, .new, .new artifacts.manifestHash, [], ∅, ∅⟩

/-- A lifecycle method: on success the lifecycle moves, on failure nothing does. -/
def withLifecycle (self : GuiElectionSessionV1) (result : Result ElectionLifecycleV1) :
    GuiResult GuiElectionSessionV1 := do
  let lifecycle ← ofProtocol "lifecycle" result
  pure { self with lifecycle }

/-- `open` -/
def openVoting (self : GuiElectionSessionV1) : GuiResult GuiElectionSessionV1 :=
  self.withLifecycle self.lifecycle.openVoting

/-- `close` -/
def close (self : GuiElectionSessionV1) : GuiResult GuiElectionSessionV1 :=
  self.withLifecycle self.lifecycle.close

/-- `mark_verified` -/
def markVerified (self : GuiElectionSessionV1) : GuiResult GuiElectionSessionV1 :=
  self.withLifecycle self.lifecycle.markVerified

/-- `finalize` -/
def finalize (self : GuiElectionSessionV1) : GuiResult GuiElectionSessionV1 :=
  self.withLifecycle self.lifecycle.finalize

/-- What verification of this session's packages reads. -/
def context (self : GuiElectionSessionV1) : VerificationContext where
  manifest := self.artifacts.manifest
  candidates := self.artifacts.candidates
  provider := prims.provider
  proofVerifier := self.verifier.toProofVerifier prims.crate

/-- `.entry(digest).or_insert(entry)` of `record_private_intake_digest_index_entry` -/
def indexFirst (index : AList fun _ : BallotPackageDigestV1 ↦ TranscriptDecisionIndexEntryV1)
    (digest : BallotPackageDigestV1) (entry : TranscriptDecisionIndexEntryV1) :
    AList fun _ : BallotPackageDigestV1 ↦ TranscriptDecisionIndexEntryV1 :=
  if digest ∈ index then index else index.insert digest entry

/-- One submission, the ingest on the ledger and its decision: the common part of
`process_intake_package_with_digest` and of the loop of `apply_verified_packages_in_order`. -/
def recordIntake (self : GuiElectionSessionV1) (packageBytes : Bytes)
    (digest : BallotPackageDigestV1)
    (ingest : BallotAcceptanceLedger → Result Unit × BallotAcceptanceLedger) :
    GuiResult GuiBallotIntakeResultV1 × GuiElectionSessionV1 :=
  let (sequence, transcript) := self.transcript.recordSubmission digest true
  let (result, ledger) := ingest self.ledger
  let outcome := BallotDecisionOutcomeV1.ofResult result
  match transcript.recordDecision sequence digest outcome with
  | .error e => (.error (.fromProtocol e "transcript"), { self with transcript, ledger })
  | .ok transcript =>
    (.ok (intakeResult digest outcome),
      { self with
        transcript
        ledger
        privateIntakeDigestIndex :=
          indexFirst self.privateIntakeDigestIndex digest ⟨sequence, outcome⟩
        packages := self.packages ++ [packageBytes] })

/-- `process_intake_package_with_digest`; `crates/gui-core/src/session.rs:617`. -/
def processIntakePackageWithDigest (self : GuiElectionSessionV1) (packageBytes : Bytes)
    (digest : BallotPackageDigestV1) :
    GuiResult GuiBallotIntakeResultV1 × GuiElectionSessionV1 :=
  self.recordIntake packageBytes digest fun ledger ↦
    ingestApprovalBallotPackageV1 (self.context prims) self.lifecycle ledger packageBytes

/-- `process_intake_package` -/
def processIntakePackage (self : GuiElectionSessionV1) (packageBytes : Bytes) :
    GuiResult GuiBallotIntakeResultV1 × GuiElectionSessionV1 :=
  self.processIntakePackageWithDigest prims packageBytes (packageDigest prims.provider packageBytes)

/-- `intake_ballot_package_bytes` -/
def intakeBallotPackageBytes (self : GuiElectionSessionV1) (packageBytes : Bytes) :
    GuiResult GuiBallotIntakeResultV1 × GuiElectionSessionV1 :=
  if self.lifecycle.state ≠ .opened then
    (.error (electionNotOpen "ballots are ingested only while the election is open"), self)
  else self.processIntakePackage prims packageBytes

/-- `ensure_inbox_reconciliation_lifecycle` -/
def ensureInboxReconciliationLifecycle (self : GuiElectionSessionV1) : GuiResult Unit :=
  match self.lifecycle.state with
  | .draft | .frozen | .verified | .finalized =>
    .error (electionNotOpen ("inbox reconciliation is permitted only while voting is open " ++
      "or during the post-close drain"))
  | .opened | .closed => .ok ()

/-- `indexed_inbox_reconciliation_result` -/
def indexedInboxReconciliationResult (self : GuiElectionSessionV1)
    (digest : BallotPackageDigestV1) : GuiResult (Option GuiBallotIntakeResultV1) :=
  match self.privateIntakeDigestIndex.lookup digest with
  | none => .ok none
  | some entry => match self.transcript.decisions[entry.sequence]? with
    | none =>
      .error (privateIntakeDigestIndexInconsistent "the indexed transcript decision is missing")
    | some authoritative =>
      if authoritative.sequence ≠ entry.sequence ∨ authoritative.packageDigest ≠ digest ∨
          authoritative.outcome ≠ entry.outcome then
        .error (privateIntakeDigestIndexInconsistent
          "the derived digest index disagrees with the authoritative transcript")
      else .ok (some (intakeResult digest (match entry.outcome with
        | .accepted => .rejected .duplicateNullifier
        | .rejected code => .rejected code)))

/-- `reconcile_accepted_package_bytes_from_inbox` -/
def reconcileAcceptedPackageBytesFromInbox (self : GuiElectionSessionV1) (packageBytes : Bytes) :
    GuiResult GuiBallotIntakeResultV1 × GuiElectionSessionV1 :=
  match self.ensureInboxReconciliationLifecycle with
  | .error e => (.error e, self)
  | .ok () =>
    let digest := packageDigest prims.provider packageBytes
    match self.indexedInboxReconciliationResult digest with
    | .error e => (.error e, self)
    | .ok (some result) => (.ok result, self)
    | .ok none => self.processIntakePackageWithDigest prims packageBytes digest

/-- `remember_validated_inbox_file` -/
def rememberValidatedInboxFile (self : GuiElectionSessionV1) (digest : BallotPackageDigestV1)
    (byteLen modified : Nat) : GuiElectionSessionV1 :=
  { self with
    privateInboxValidationCache :=
      self.privateInboxValidationCache.insert digest ⟨byteLen, modified⟩ }

/-- `to_durable_snapshot` -/
def toDurableSnapshot (self : GuiElectionSessionV1) : GuiResult GuiElectionSessionSnapshotV1 := do
  let manifestBytes ← ofProtocol "manifest" self.artifacts.manifest.toCanonicalCbor
  let registryBytes ← ofProtocol "registry" self.artifacts.registry.toCanonicalCbor
  let candidateBytes ← ofProtocol "candidates" self.artifacts.candidates.toCanonicalCbor
  pure ⟨self.lifecycle.state, manifestBytes, registryBytes, candidateBytes, self.packages⟩

/-! ### Reconstruction -/

/-- The serial replay loop of `from_durable_snapshot_inner`. -/
def replayPackages (self : GuiElectionSessionV1) : List Bytes → GuiResult GuiElectionSessionV1
  | [] => .ok self
  | packageBytes :: rest =>
    match self.intakeBallotPackageBytes prims packageBytes with
    | (.ok _, session) => session.replayPackages rest
    | (.error e, _) => .error e

/-- One round of `apply_verified_packages_in_order`. -/
def applyVerifiedPackage (self : GuiElectionSessionV1) (packageBytes : Bytes)
    (verification : Result VerifiedApprovalBallotV1) :
    GuiResult GuiBallotIntakeResultV1 × GuiElectionSessionV1 :=
  self.recordIntake packageBytes (packageDigest prims.provider packageBytes) fun ledger ↦
    match verification with
    | .ok ballot => ledger.acceptVerified self.lifecycle ballot
    | .error e => (.error e, ledger)

/-- The loop of `apply_verified_packages_in_order`. -/
def applyVerifiedPackagesInOrder (self : GuiElectionSessionV1) :
    List (Bytes × Result VerifiedApprovalBallotV1) → GuiResult GuiElectionSessionV1
  | [] => .ok self
  | (packageBytes, verification) :: rest =>
    match self.applyVerifiedPackage prims packageBytes verification with
    | (.ok _, session) => session.applyVerifiedPackagesInOrder rest
    | (.error e, _) => .error e

/-- The closure `verify_batch`. -/
def verifyBatch (self : GuiElectionSessionV1) (packages : List Bytes) (batches : List (Nat × Nat))
    (index : Nat) : List (Result VerifiedApprovalBallotV1) :=
  match batches[index]? with
  | some range =>
    verifyApprovalBallotPackagesBatchV1 (self.context prims) (sliceOf packages range)
  | none => []

/-- `parallel_verify_packages` -/
def parallelVerifyPackages (self : GuiElectionSessionV1) (packages : List Bytes)
    (config : HistoricalReplayConfigV1) (executor : Executor) :
    GuiResult (List (Result VerifiedApprovalBallotV1)) :=
  let batches := batchRanges packages.length config.batchSize
  if batches.isEmpty then .ok []
  else do
    let workers := config.resolveWorkers batches.length executor.granted
    let perBatch ← runBounded (self.verifyBatch prims packages batches) batches.length workers
      executor.schedule
    pure perBatch.flatten

/-- `replay_packages_parallel` -/
def replayPackagesParallel (self : GuiElectionSessionV1) (packages : List Bytes)
    (config : HistoricalReplayConfigV1) (executor : Executor) :
    GuiResult GuiElectionSessionV1 := do
  let verifyResults ← self.parallelVerifyPackages prims packages config executor
  if verifyResults.length ≠ packages.length then
    Except.error ⟨"GUI_HISTORICAL_REPLAY_RESULT_MISMATCH", .unavailable, some "historical-replay",
      "bounded historical verification returned an unexpected result count"⟩
  else self.applyVerifiedPackagesInOrder prims (packages.zip verifyResults)

/-- `apply_terminal_lifecycle` -/
def applyTerminalLifecycle (self : GuiElectionSessionV1) :
    ElectionLifecycleStateV1 → GuiResult GuiElectionSessionV1
  | .opened => .ok self
  | .closed => self.close
  | .verified => do
    let session ← self.close
    session.markVerified
  | .finalized => do
    let session ← self.close
    let session ← session.markVerified
    session.finalize
  | .draft | .frozen =>
    .error (workspaceInvalidState "durable workspace lifecycle state is inconsistent")

/-- The reconstruction both entry points share, around the replay of the packages. -/
def reconstruct (replay : GuiElectionSessionV1 → List Bytes → GuiResult GuiElectionSessionV1)
    (snapshot : GuiElectionSessionSnapshotV1) : GuiResult GuiElectionSessionV1 := do
  if snapshot.lifecycleState = .draft then
    Except.error
      (workspaceInvalidState "durable session snapshot cannot use draft lifecycle state")
  let artifacts ← GuiElectionArtifactsV1.fromBytes prims snapshot.manifestBytes
    snapshot.registryBytes snapshot.candidateBytes
  let session ← new prims artifacts
  if snapshot.lifecycleState = .frozen then
    if snapshot.packages ≠ [] then
      Except.error
        (workspaceInvalidState "frozen durable workspace cannot contain ballot packages")
    else pure session
  else
    let session ← session.openVoting
    let session ← replay session snapshot.packages
    session.applyTerminalLifecycle snapshot.lifecycleState

/-- `from_durable_snapshot`; `crates/gui-core/src/session.rs:141`. -/
def fromDurableSnapshot (snapshot : GuiElectionSessionSnapshotV1) :
    GuiResult GuiElectionSessionV1 :=
  reconstruct prims (replayPackages prims) snapshot

/-- `from_durable_snapshot_parallel`; `crates/gui-core/src/session.rs:238`. -/
def fromDurableSnapshotParallel (snapshot : GuiElectionSessionSnapshotV1)
    (config : HistoricalReplayConfigV1) (executor : Executor) : GuiResult GuiElectionSessionV1 :=
  reconstruct prims (fun session packages ↦
    if config.usesParallelPath packages.length then
      session.replayPackagesParallel prims packages config executor
    else session.replayPackages prims packages) snapshot

/-- The executor brings the verification of this many packages to its end. -/
def joinsFor (config : HistoricalReplayConfigV1) (executor : Executor)
    (packageCount : Nat) : Bool :=
  let batches := batchRanges packageCount config.batchSize
  joins batches.length (config.resolveWorkers batches.length executor.granted) executor.schedule

end

end GuiElectionSessionV1

end PrivateBallot.GuiCore
