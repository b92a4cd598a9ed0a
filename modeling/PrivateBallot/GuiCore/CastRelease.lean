import PrivateBallot.GuiCore.CastWorld
import PrivateBallot.GuiCore.EnvelopeSealing
import PrivateBallot.GuiCore.TransportDescriptor
import PrivateBallot.GuiCore.TransportReceipt
import PrivateBallot.GuiCore.VoterWorkflow
import PrivateBallot.TransportNetwork.Http

/-!
# Releasing a ballot

Library `GuiCore`. `crates/gui-core/src/voter_session.rs:1043-1593` and
`crates/gui-core/src/voter_cast_lock.rs:345-1178`: the calls with which a prepared ballot leaves the
device, as a file or through the private transport, the retry of an uncertain delivery, and the two
resolvers that find out after a restart how far an earlier call has come. Each is a program whose
steps a crash can cut off.
-/

namespace PrivateBallot.GuiCore

open PrivateBallot.Base PrivateBallot.Protocol PrivateBallot.Ballot PrivateBallot.Registry
open PrivateBallot.Crypto PrivateBallot.Verifier

/-- What the releasing code takes from other crates. -/
structure ReleaseCrates where
  provider : HashProvider
  ed : SignatureCrate
  sender : HpkeSender

/-- A program that may fail. -/
abbrev ReleaseTask (α : Type) := ExceptT GuiCoreError ReleaseProgram α

/-- One step. -/
def step (op : ReleaseOp) : ReleaseProgram op.Response := Program.call op

/-- One step of a program that may fail. -/
def ask {ε : Type} (op : ReleaseOp) : ExceptT ε ReleaseProgram op.Response :=
  .mk (.act op fun response ↦ .done (.ok response))

/-- A write to a record or to one of the other files that are written like it. -/
def recordAt (path : Bytes) (task : ExceptT GuiCoreError CastProgram Unit) : ReleaseTask Unit :=
  .mk (task.run.via (ReleaseOp.record path) fun _ (worked : Bool) ↦ worked)

/-! ### Digests -/

def stagedEnvelopeDigestDomainV1 : Bytes :=
  (Text.lit "tari-cc-private-ballot/voter-release/staged-envelope-digest/v1").toBytes

def fingerprintDomainV1 : Bytes :=
  (Text.lit "tari-cc-private-ballot/voter-cast-lock/public-credential-fingerprint/v1").toBytes

/-- `staged_release_envelope_digest_hex_v1` -/
def stagedReleaseEnvelopeDigestHexV1 (provider : HashProvider) (envelopeBytes : Bytes) : Text :=
  Hex.text (provider.hash (stagedEnvelopeDigestDomainV1 ++ envelopeBytes)).toBytes

/-- `public_credential_fingerprint_hex_v1` -/
def publicCredentialFingerprintHexV1 (provider : HashProvider) (publicKeyHex : Bytes) :
    Option Text :=
  match fromHex publicKeyHex with
  | none => none
  | some bytes =>
    if bytes = [] then none
    else some (Hex.text (provider.hash (fingerprintDomainV1 ++ bytes)).toBytes)

/-- The digest of canonical package bytes, in hexadecimal. -/
def packageDigestHex (provider : HashProvider) (canonicalBytes : Bytes) : Text :=
  Hex.text (hashDomainSeparated provider .ballotPackageV1 canonicalBytes).toBytes

/-- What `package_digest_hex_of_file` makes of the bytes it has read. -/
def packageDigestHexOfBytes (provider : HashProvider) (artifacts : GuiElectionArtifactsV1)
    (bytes : Bytes) : Option Text :=
  let digest : Result Bytes32 := do
    let package ← BallotPackageV1.fromCanonicalCbor bytes artifacts.candidates
      artifacts.manifest.fields.approvalLimits
    refuseIf (decide (package.manifestHash ≠ artifacts.manifestHash)) .wrongManifestHash
      "ballot package is bound to a different election manifest"
    refuseIf (decide (package.proofSuiteId ≠ artifacts.manifest.fields.proofSuiteId))
      .unsupportedProofSuite "ballot proof suite differs from the election manifest"
    ballotPackageHash package provider
  digest.toOption.map fun digest ↦ Hex.text digest.toBytes

/-! ### Files -/

/-- `cast_record_exists_v1` -/
def castRecordExistsV1 (path : Bytes) : ReleaseTask Bool := do
  let present : Option Bool ← ask (.recordPresent path)
  match present with
  | some present => pure present
  | none => throw (.ioFailure "cast-lock")

/-- `stage_release_envelope_v1` -/
def stageReleaseEnvelopeV1 (stagedEnvelopePath envelopeBytes : Bytes) : ReleaseTask Unit :=
  if envelopeBytes = [] ∨
      TransportNetwork.maxStagedReleaseEnvelopeBytes < envelopeBytes.length then
    throw ⟨"GUI_RELEASE_ENVELOPE_INVALID", .invalidInput, some "private-release",
      "the staged submission envelope is empty or exceeds the bounded size"⟩
  else recordAt stagedEnvelopePath (writeRecordBytesAtomic envelopeBytes)

/-- `missing_staged_envelope` -/
def missingStagedEnvelope : GuiCoreError :=
  ⟨"GUI_RELEASE_ENVELOPE_UNAVAILABLE", .fileIo, some "private-release",
    "the staged submission could not be read; your ballot remains cast-pending and can be retried"⟩

/-- `tampered_staged_envelope` -/
def tamperedStagedEnvelope : GuiCoreError :=
  ⟨"GUI_RELEASE_ENVELOPE_TAMPERED", .bindingMismatch, some "private-release",
    "the staged submission no longer matches the pending release; it will not be sent and your " ++
      "ballot remains cast-pending"⟩

/-- `read_staged_release_envelope_v1` -/
def readStagedReleaseEnvelopeV1 (stagedEnvelopePath : Bytes) : ReleaseTask Bytes := do
  let found : Option Bytes ← ask (.readRegular stagedEnvelopePath)
  match found with
  | none => throw missingStagedEnvelope
  | some bytes =>
    if bytes = [] ∨ TransportNetwork.maxStagedReleaseEnvelopeBytes < bytes.length then
      throw missingStagedEnvelope
    else pure bytes

/-- `read_and_verify_staged_release_envelope_v1`; `voter_cast_lock.rs:627`. -/
def readAndVerifyStagedReleaseEnvelopeV1 (crates : ReleaseCrates) (stagedEnvelopePath : Bytes)
    (expectedStagedEnvelopeDigestHex : Text) (descriptor : TransportDescriptorV1) :
    ReleaseTask Bytes := do
  let bytes ← readStagedReleaseEnvelopeV1 stagedEnvelopePath
  if stagedReleaseEnvelopeDigestHexV1 crates.provider bytes ≠ expectedStagedEnvelopeDigestHex then
    throw tamperedStagedEnvelope
  else match PrivateBallotEnvelopeV1.fromCanonicalCbor bytes with
    | .error _ => throw tamperedStagedEnvelope
    | .ok envelope => match envelope.receiverOpeningMaterial crates.provider descriptor with
      | .error _ => throw tamperedStagedEnvelope
      | .ok _ => pure bytes

/-- `persist_release_receipt_evidence_v1` -/
def persistReleaseReceiptEvidenceV1 (receiptEvidencePath receiptBytes : Bytes) :
    ReleaseTask Unit :=
  if receiptBytes = [] ∨ maxCastRecordBytesV1 < receiptBytes.length then
    throw ⟨"GUI_RELEASE_RECEIPT_INVALID", .invalidInput, some "private-release",
      "the authenticated receipt is empty or exceeds the bounded size"⟩
  else recordAt receiptEvidencePath (writeRecordBytesAtomic receiptBytes)

/-- `read_release_receipt_evidence` -/
def readReleaseReceiptEvidence (receiptEvidencePath : Bytes) :
    ReleaseProgram (Option Bytes) := do
  let found : Option Bytes ← step (.readRegular receiptEvidencePath)
  pure (found.filter fun bytes ↦ !bytes.isEmpty && decide (bytes.length ≤ maxCastRecordBytesV1))

/-- `package_digest_hex_of_file` -/
def packageDigestHexOfFile (provider : HashProvider) (artifacts : GuiElectionArtifactsV1)
    (path : Bytes) : ReleaseProgram (Option Text) := do
  let found : Option Bytes ← step (.readRegular path)
  pure ((found.filter fun bytes ↦ decide (bytes.length ≤ maxBallotPackageBytesV1)).bind
    (packageDigestHexOfBytes provider artifacts))

/-- `promote_cast_record_to_cast_v1` -/
def promoteCastRecordToCastV1 (path : Bytes) : ReleaseTask Unit := do
  let found : CastRecordRead ← ask (.readRecord path)
  match found with
  | .validOffline record =>
    recordAt path (writeRecordBytesAtomic { record with isCast := true }.encode)
  | .validOnline record =>
    recordAt path (writeRecordBytesAtomic { record with isCast := true }.encode)
  | .absent | .malformed => throw ⟨"GUI_CAST_LOCK_MISSING", .fileIo, some "cast-lock",
      "no readable cast record was found to promote"⟩

/-- `finalize_verified_cast_temp_without_overwrite` -/
def finalizeVerifiedCastTempWithoutOverwrite (tempPath finalPath : Bytes) : ReleaseTask Unit := do
  let answer : LinkAnswer ← ask (.hardLink tempPath finalPath)
  match answer with
  | .linked =>
    let _ ← ask (.sync finalPath)
    let _ ← ask (.remove tempPath)
    pure ()
  | .alreadyExists => throw ⟨"GUI_BALLOT_EXPORT_COLLISION", .fileIo, some "export-ballot",
      "For safety, ballot exports never overwrite an existing file. The existing file was left " ++
        "unchanged; your ballot remains locked and cast-pending."⟩
  | .failed => throw ⟨"GUI_BALLOT_EXPORT_FINALIZE_FAILED", .fileIo, some "export-ballot",
      "the ballot could not be finalized to the chosen location; it remains cast-pending"⟩

/-! ### The probe -/

def castExportDestinationUnsupported : GuiCoreError :=
  ⟨"GUI_BALLOT_EXPORT_DESTINATION_UNSUPPORTED", .fileIo, some "export-ballot",
    "This location does not support the safe ballot finalization required by Private Ballot. " ++
      "Choose another location, such as a local NTFS folder."⟩

def castExportDestinationProbeFailed : GuiCoreError :=
  ⟨"GUI_BALLOT_EXPORT_PROBE_FAILED", .fileIo, some "export-ballot",
    "Private Ballot could not verify the chosen location supports safe ballot finalization. " ++
      "Choose another location, such as a local NTFS folder."⟩

/-- `classify_cast_destination_probe_failure_v1` -/
def classifyCastDestinationProbeFailureV1 : IoErrorKind → GuiCoreError
  | .unsupported | .permissionDenied => castExportDestinationUnsupported
  | .notFound => .fileNotFound "export-ballot"
  | .alreadyExists | .other => castExportDestinationProbeFailed

/-- `classify_cast_destination_probe_phase_a_v1` -/
def classifyCastDestinationProbePhaseAV1 : IoAnswer → GuiResult Unit
  | .ok () => .ok ()
  | .error .alreadyExists => .error castExportDestinationProbeFailed
  | .error kind => .error (classifyCastDestinationProbeFailureV1 kind)

/-- `classify_cast_destination_probe_phase_b_v1` -/
def classifyCastDestinationProbePhaseBV1 : IoAnswer → GuiResult Unit
  | .error .alreadyExists => .ok ()
  | .ok () => .error castExportDestinationUnsupported
  | .error kind => .error (classifyCastDestinationProbeFailureV1 kind)

/-- `probe_cast_export_destination_supports_no_overwrite_v1`, given the answers to its steps, of a
path that has a directory. -/
def probeCastExportDestinationSupportsNoOverwriteV1 (answers : ProbeAnswers) : GuiResult Unit := do
  answers.source.mapError classifyCastDestinationProbeFailureV1
  answers.placeholder.mapError classifyCastDestinationProbeFailureV1
  classifyCastDestinationProbePhaseAV1 answers.phaseA
  answers.existing.mapError classifyCastDestinationProbeFailureV1
  classifyCastDestinationProbePhaseBV1 answers.phaseB

/-! ### Receipts and descriptors -/

/-- `verify_for_descriptor`; `crates/gui-core/src/transport.rs:954`. -/
def AuthenticatedTransportReceiptV1.verifyForDescriptor (crates : ReleaseCrates)
    (self : AuthenticatedTransportReceiptV1) (descriptor : TransportDescriptorV1) :
    TransportResult Unit := do
  let fingerprint ← descriptor.fingerprint crates.provider
  refuseTransport (decide (self.descriptorFingerprint ≠ fingerprint)) .wrongDescriptor
  let message := message self.receipt self.descriptorFingerprint self.packageDigest self.batchRoot
    self.keyId
  if descriptor.receiptVerificationKeys.any fun key ↦
      crates.ed.isVerifyingKey key && crates.ed.verifyStrict key message self.signature.val then
    pure ()
  else Except.error .cryptoFailure

/-- `DescriptorConsistencyStoreV1` -/
abbrev DescriptorConsistencyStoreV1 := AList fun _ : Bytes × UInt64 ↦ Bytes32

/-- `TransportDescriptorV1::verify`; `crates/gui-core/src/transport.rs:426`. -/
def TransportDescriptorV1.verify (crates : ReleaseCrates) (self : TransportDescriptorV1)
    (root : TransportAuthorityRootV1) (expectedManifest : ManifestHash) : TransportResult Unit := do
  self.validateFields
  refuseTransport (decide (self.manifestHash ≠ expectedManifest) ||
    decide (self.rootKeyId ≠ root.keyId)) .wrongElection
  let key ← TransportAuthorityRootSetV1.verifyingKey crates.ed root
  let message ← self.signingMessage
  if crates.ed.verifyStrict key message self.signature.val then pure ()
  else Except.error .untrustedRoot

/-- `DescriptorConsistencyStoreV1::accept`, with the store it leaves. -/
def acceptDescriptor (crates : ReleaseCrates) (store : DescriptorConsistencyStoreV1)
    (descriptor : TransportDescriptorV1) (root : TransportAuthorityRootV1)
    (manifest : ManifestHash) : TransportResult (Bytes32 × DescriptorConsistencyStoreV1) := do
  descriptor.verify crates root manifest
  let fingerprint ← descriptor.fingerprint crates.provider
  match store.lookup (descriptor.electionId, descriptor.generation) with
  | some existing =>
    if existing ≠ fingerprint then Except.error .descriptorConflict else pure (fingerprint, store)
  | none =>
    pure (fingerprint, store.insert (descriptor.electionId, descriptor.generation) fingerprint)

/-- `verify_and_accept_descriptor`; `crates/gui-core/src/transport.rs:197`. -/
def verifyAndAcceptDescriptor (crates : ReleaseCrates) (roots : TransportAuthorityRootSetV1)
    (descriptor : TransportDescriptorV1) (expectedManifest : ManifestHash)
    (store : DescriptorConsistencyStoreV1) :
    TransportResult (Bytes32 × DescriptorConsistencyStoreV1) := do
  let root ← roots.lookupRoot descriptor.rootKeyId
  descriptor.verify crates root expectedManifest
  acceptDescriptor crates store descriptor root expectedManifest

/-- `map_descriptor_release_error` -/
def mapDescriptorReleaseError (error : TransportError) : GuiCoreError :=
  let (code, message) := match error with
    | .untrustedRoot => ("GUI_RELEASE_DESCRIPTOR_UNTRUSTED",
        "the ballot-office connection is not signed by a trusted authority; re-obtain the " ++
          "connection file")
    | .descriptorConflict => ("GUI_RELEASE_DESCRIPTOR_CONFLICT",
        "a different ballot-office connection was already pinned for this election; the " ++
          "connection file is inconsistent")
    | .wrongElection => ("GUI_RELEASE_DESCRIPTOR_WRONG_ELECTION",
        "the ballot-office connection is bound to a different election")
    | .invalidDescriptor => ("GUI_RELEASE_DESCRIPTOR_INVALID",
        "the ballot-office connection file is malformed")
    | _ => ("GUI_RELEASE_DESCRIPTOR_UNVERIFIED",
        "the ballot-office connection could not be verified for this election")
  ⟨code, .bindingMismatch, some "release-descriptor-auth", message⟩

/-- `map_envelope_seal_error` -/
def mapEnvelopeSealError (error : TransportError) : GuiCoreError :=
  let (code, message) := match error with
    | .oversizedPayload => ("GUI_RELEASE_BALLOT_OVERSIZED",
        "the prepared ballot exceeds the configured transport padding size")
    | _ => ("GUI_RELEASE_ENVELOPE_SEAL_FAILED",
        "the anonymous ballot envelope could not be sealed for private transport")
  ⟨code, .invalidInput, some "release-envelope-seal", message⟩

/-- `verify_release_descriptor`, of the store that the caller has. -/
def verifyReleaseDescriptor (crates : ReleaseCrates) (artifacts : GuiElectionArtifactsV1)
    (descriptor : TransportDescriptorV1) (roots : TransportAuthorityRootSetV1)
    (consistency : DescriptorConsistencyStoreV1) : GuiResult Text := do
  let _ ← (verifyAndAcceptDescriptor crates roots descriptor artifacts.manifestHash
    consistency).mapError mapDescriptorReleaseError
  if descriptor.electionId ≠ artifacts.manifest.fields.electionId.toBytes then
    Except.error ⟨"GUI_RELEASE_WRONG_ELECTION", .bindingMismatch, some "private-release",
      "the transport descriptor is bound to a different election"⟩
  if descriptor.route = .offlineOnly then
    Except.error ⟨"GUI_RELEASE_ROUTE_UNSUPPORTED", .invalidInput, some "private-release",
      "the transport descriptor does not permit an online route"⟩
  let fingerprint ← (descriptor.fingerprint crates.provider).mapError mapDescriptorReleaseError
  pure (Hex.text fingerprint.toBytes)

/-! ### Calls -/

/-- The text of a hexadecimal value that a session holds as its bytes. -/
def hexText (hex : Bytes) : Text := .ofBytesLossy hex

/-- `GuiPreparedBallotExportV1` -/
structure GuiPreparedBallotExportV1 where
  canonicalPackageBytes : Nat
  packageDigestHex : Text

/-- `GuiPrivateReleaseResultV1` -/
structure GuiPrivateReleaseResultV1 where
  castLockState : GuiVoterCastLockStateV1
  receiptState : String
  released : Bool
  packageDigestHex : Text
  diagnosticStage : Option String

/-- `receipt_state_str` -/
def receiptStateStr : VoterReceiptStateV1 → String
  | .received => "RECEIVED"
  | .accepted => "ACCEPTED"
  | .rejected => "REJECTED"

/-- `PendingReleaseRetryHandleV1` -/
structure PendingReleaseRetryHandleV1 where
  stagedEnvelopePath : Bytes
  stagedEnvelopeDigestHex : Text
  descriptorFingerprintHex : Text
  packageDigestHex : Text
  receiptEvidencePath : Bytes

/-- `load_pending_release_retry_handle_v1` -/
def loadPendingReleaseRetryHandleV1 (path : Bytes)
    (manifestHashHex credentialFingerprintHex : Text) :
    ReleaseProgram (Option PendingReleaseRetryHandleV1) := do
  let found : CastRecordRead ← step (.readRecord path)
  match found with
  | .validOnline record =>
    if record.isCast ∨ record.electionManifestHashHex ≠ manifestHashHex ∨
        record.credentialFingerprintHex ≠ credentialFingerprintHex then
      pure none
    else pure (some ⟨record.stagedEnvelopePath.toBytes, record.stagedEnvelopeDigestHex,
      record.descriptorFingerprintHex, record.packageDigestHex, record.receiptEvidencePath.toBytes⟩)
  | _ => pure none

/-- `promote_record_in_place` and `write_online_record_atomic` of a promoted record: whether the
write works. -/
def promoteInPlace (path encoded : Bytes) : ReleaseProgram Bool := do
  let written ← (recordAt path (writeRecordBytesAtomic encoded)).run
  pure written.isOk

/-- `recover_pending_record`; `voter_cast_lock.rs:1135`. -/
def recoverPendingRecord (provider : HashProvider) (path : Bytes) (record : VoterCastRecordV1)
    (artifacts : GuiElectionArtifactsV1) : ReleaseProgram GuiVoterCastLockStateV1 := do
  let finalPath := record.finalPath.toBytes
  let tempPath := record.tempPath.toBytes
  let promoted := { record with isCast := true }.encode
  let finalExists : Bool ← step (.pathExists finalPath)
  if finalExists then
    let found ← packageDigestHexOfFile provider artifacts finalPath
    if found = some record.packageDigestHex then
      let written ← promoteInPlace path promoted
      if written then
        let _ ← step (.remove tempPath)
        pure .cast
      else pure .castPending
    else pure .castPending
  else
    let tempExists : Bool ← step (.pathExists tempPath)
    if tempExists then
      let found ← packageDigestHexOfFile provider artifacts tempPath
      if found = some record.packageDigestHex then
        let finalized ← (finalizeVerifiedCastTempWithoutOverwrite tempPath finalPath).run
        if finalized.isOk then
          let written ← promoteInPlace path promoted
          pure (if written then .cast else .castPending)
        else pure .castPending
      else pure .castPending
    else pure .castPending

/-- `resolve_and_recover_cast_lock_state_v1`; `voter_cast_lock.rs:1080`. -/
def resolveAndRecoverCastLockStateV1 (provider : HashProvider) (path : Bytes)
    (manifestHashHex credentialFingerprintHex : Text) (artifacts : GuiElectionArtifactsV1) :
    ReleaseProgram GuiVoterCastLockStateV1 := do
  let found : CastRecordRead ← step (.readRecord path)
  match found with
  | .absent => pure .notCast
  | .malformed => pure .castPending
  | .validOffline record =>
    if record.electionManifestHashHex ≠ manifestHashHex ∨
        record.credentialFingerprintHex ≠ credentialFingerprintHex then
      pure .castPending
    else if record.isCast then pure .cast
    else recoverPendingRecord provider path record artifacts
  | .validOnline record =>
    if record.electionManifestHashHex ≠ manifestHashHex ∨
        record.credentialFingerprintHex ≠ credentialFingerprintHex then
      pure .castPending
    else pure (if record.isCast then .cast else .castPending)

/-- `authenticated_receipt_promotes_release`, of the receipt bytes that were read. -/
def authenticatedReceiptPromotesRelease (crates : ReleaseCrates) (record : OnlineReleaseRecordV3)
    (descriptor : TransportDescriptorV1) (receiptBytes : Bytes) : Bool :=
  match descriptor.fingerprint crates.provider,
    AuthenticatedTransportReceiptV1.fromCanonicalCbor receiptBytes with
  | .ok fingerprint, .ok receipt =>
    decide (Hex.text fingerprint.toBytes = record.descriptorFingerprintHex) &&
      decide (Hex.text receipt.descriptorFingerprint.toBytes = record.descriptorFingerprintHex) &&
      (receipt.verifyForDescriptor crates descriptor).isOk &&
      decide (Hex.text receipt.packageDigest.toBytes = record.packageDigestHex) &&
      decide (receipt.receipt.state ≠ .rejected)
  | _, _ => false

/-- `resolve_and_recover_private_transport_cast_lock_state_v1`; `voter_cast_lock.rs:672`. -/
def resolveAndRecoverPrivateTransportCastLockStateV1 (crates : ReleaseCrates) (path : Bytes)
    (manifestHashHex credentialFingerprintHex : Text) (descriptor : TransportDescriptorV1) :
    ReleaseProgram GuiVoterCastLockStateV1 := do
  let found : CastRecordRead ← step (.readRecord path)
  match found with
  | .absent => pure .notCast
  | .malformed | .validOffline _ => pure .castPending
  | .validOnline record =>
    if record.electionManifestHashHex ≠ manifestHashHex ∨
        record.credentialFingerprintHex ≠ credentialFingerprintHex then
      pure .castPending
    else if record.isCast then pure .cast
    else
      let evidence ← readReleaseReceiptEvidence record.receiptEvidencePath.toBytes
      if evidence.any (authenticatedReceiptPromotesRelease crates record descriptor) then
        let written ← promoteInPlace path { record with isCast := true }.encode
        pure (if written then .cast else .castPending)
      else pure .castPending

section

variable {crate : TriptychCrate} {Scalar : Type} [Field Scalar] [DecidableEq Scalar]
  [AddCommGroup crate.dalekV4.Point] [Module Scalar crate.dalekV4.Point]
  {prover : TriptychProverCrate crate Scalar}

/-- A call on a session: an error comes with the session it leaves. -/
abbrev Releasing (prover : TriptychProverCrate crate Scalar) (α : Type) :=
  ExceptT (GuiCoreError × GuiVoterSessionV1 prover) ReleaseProgram α

/-- A part of a call whose error leaves this session. -/
def leaving {α : Type} (self : GuiVoterSessionV1 prover) (task : ReleaseTask α) :
    Releasing prover α :=
  ExceptT.adapt (fun error ↦ (error, self)) task

/-- The same for a check that touches nothing. -/
def checking {α : Type} (self : GuiVoterSessionV1 prover) (result : GuiResult α) :
    Releasing prover α :=
  .mk (.done (result.mapError fun error ↦ (error, self)))

/-- `readback_verification_failed` -/
def readbackVerificationFailed : GuiCoreError :=
  ⟨"GUI_BALLOT_EXPORT_READBACK_FAILED", .proofFailure, some "export-ballot",
    "ballot package read-back verification failed"⟩

/-- What `write_and_verify_ballot_package_to_path` checks of the bytes it has read back. -/
def verifyReadBack (crate : TriptychCrate) (provider : HashProvider)
    (artifacts : GuiElectionArtifactsV1) (readBack : Bytes) : GuiResult Nat :=
  let verified : Result Unit := do
    let verifier ← buildTariTriptychVerifierFromRegistryV1 crate artifacts.registry provider
    let package ← BallotPackageV1.fromCanonicalCbor readBack artifacts.candidates
      artifacts.manifest.fields.approvalLimits
    let _ ← verifyApprovalProof artifacts.manifest package.payload package.proof provider
      (verifier.toProofVerifier crate)
  match verified with
  | .ok () => .ok readBack.length
  | .error _ => .error readbackVerificationFailed

/-- `write_and_verify_ballot_package_to_path`; `voter_session.rs:1905`. -/
def writeAndVerifyBallotPackageToPath (crate : TriptychCrate) (provider : HashProvider)
    (canonicalBytes : Bytes) (artifacts : GuiElectionArtifactsV1) (path : Bytes) :
    ReleaseTask Nat := do
  let answer : CreateAnswer ← ask (.createNew path)
  match answer with
  | .alreadyExists => throw ⟨"GUI_BALLOT_EXPORT_COLLISION", .fileIo, some "export-ballot",
      "For safety, ballot exports never overwrite an existing file. Choose a new filename."⟩
  | .failed => throw (.ioFailure "export-ballot")
  | .created =>
    let written : Bool ← ask (.write path canonicalBytes)
    if !written then throw (.ioFailure "export-ballot")
    else
      let synced : Bool ← ask (.sync path)
      if !synced then throw (.ioFailure "export-ballot")
      else
        let readBack : Option Bytes ← ask (.read path)
        match readBack with
        | none => throw (.ioFailure "export-ballot")
        | some readBack =>
          if readBack ≠ canonicalBytes then
            throw ⟨"GUI_BALLOT_EXPORT_READBACK_FAILED", .fileIo, some "export-ballot",
              "ballot package read-back did not match the prepared bytes"⟩
          else .mk (.done (verifyReadBack crate provider artifacts readBack))

namespace GuiVoterSessionV1

/-- `credential_fingerprint` -/
def credentialFingerprint (provider : HashProvider) (self : GuiVoterSessionV1 prover) :
    GuiResult Text :=
  match self.credentialPublicKeyHex with
  | none => .error ⟨"GUI_NO_VOTER_CREDENTIAL", .invalidInput, some "export-ballot",
      "a voter credential is required to cast a ballot"⟩
  | some publicKeyHex => match publicCredentialFingerprintHexV1 provider publicKeyHex with
    | none => .error ⟨"GUI_CAST_LOCK_FINGERPRINT_FAILED", .invalidInput, some "voter-cast-lock",
        "the credential public key could not be fingerprinted"⟩
    | some fingerprint => .ok fingerprint

/-- The session of a voter who is locked out. -/
def locked (self : GuiVoterSessionV1 prover) : GuiVoterSessionV1 prover :=
  self.applyCastLockState .castPending

/-- `GUI_BALLOT_ALREADY_CAST` of a record that is there. -/
def alreadyCast : GuiCoreError :=
  ⟨"GUI_BALLOT_ALREADY_CAST", .invalidLifecycleTransition, some "voter-cast-lock",
    "a ballot has already been cast for this election with this credential"⟩

/-- The checks in front of an export or a release: the bytes, their digest, the fingerprint and the
manifest hash. -/
def readyToRelease (provider : HashProvider) (self : GuiVoterSessionV1 prover)
    (artifacts : GuiElectionArtifactsV1) (lifecycleState : ElectionLifecycleStateV1)
    (notOpen notPrepared : GuiCoreError) : GuiResult (Bytes × Text × Text × Text) := do
  self.ensureBound artifacts
  self.ensureNotCastLocked
  if lifecycleState ≠ .opened then Except.error notOpen
  match self.preparedBallot with
  | .ready canonicalBytes summary =>
    let fingerprint ← self.credentialFingerprint provider
    pure (canonicalBytes, hexText summary.packageDigestHex, fingerprint,
      hexText self.electionBinding.manifestHashHex)
  | _ => Except.error notPrepared

/-- `export_and_cast_prepared_ballot`; `voter_session.rs:1074`. -/
def exportAndCastPreparedBallot (provider : HashProvider) (self : GuiVoterSessionV1 prover)
    (artifacts : GuiElectionArtifactsV1) (lifecycleState : ElectionLifecycleStateV1)
    (finalPath castLocksDir : Bytes) :
    Releasing prover (GuiPreparedBallotExportV1 × GuiVoterSessionV1 prover) := do
  let (canonicalBytes, packageDigestHex, fingerprint, manifestHashHex) ← checking self
    (self.readyToRelease provider artifacts lifecycleState
      ⟨"GUI_PREPARED_BALLOT_NOT_EXPORTABLE", .invalidLifecycleTransition, some "export-ballot",
        "a prepared ballot can be exported only while the election is open"⟩
      ⟨"GUI_NO_PREPARED_BALLOT", .invalidInput, some "export-ballot",
        "no locally verified ballot package is available"⟩)
  let path := castRecordPath castLocksDir fingerprint manifestHashHex
  let recorded ← leaving self (castRecordExistsV1 path)
  if recorded then throw (alreadyCast, self.locked)
  else
    let occupied : Bool ← ask (.pathExists finalPath)
    if occupied then
      throw (⟨"GUI_BALLOT_EXPORT_COLLISION", .fileIo, some "export-ballot",
        "For safety, ballot exports never overwrite an existing file. Choose a new filename."⟩,
        self)
    else
      let answers : ProbeAnswers ← ask (.probe finalPath)
      checking self (probeCastExportDestinationSupportsNoOverwriteV1 answers)
      let tempPath := castTempPath finalPath
      let _ ← ask (.remove tempPath)
      let written ← leaving self
        (writeAndVerifyBallotPackageToPath crate provider canonicalBytes artifacts tempPath)
      leaving self (recordAt path
        (writeCastRecordPendingV1 manifestHashHex fingerprint packageDigestHex finalPath tempPath))
      leaving self.locked (finalizeVerifiedCastTempWithoutOverwrite tempPath finalPath)
      ExceptT.adapt (fun _ ↦ (.ioFailure "export-ballot", self.locked))
        (promoteCastRecordToCastV1 path)
      pure (⟨written, packageDigestHex⟩, self.markCast packageDigestHex.toBytes)

/-- `pending_release_result` -/
def pendingReleaseResult (packageDigestHex : Text) (stage : String) : GuiPrivateReleaseResultV1 :=
  ⟨.castPending, "PENDING", false, packageDigestHex, some stage⟩

/-- `deliver_and_finalize_release`; `voter_session.rs:1432`. -/
def deliverAndFinalizeRelease (crates : ReleaseCrates) (self : GuiVoterSessionV1 prover)
    (descriptor : TransportDescriptorV1) (path : Bytes)
    (packageDigestHex descriptorFingerprintHex : Text) (receiptEvidencePath envelope : Bytes) :
    Releasing prover (GuiPrivateReleaseResultV1 × GuiVoterSessionV1 prover) := do
  let pending := fun stage ↦ (pendingReleaseResult packageDigestHex stage, self.locked)
  let delivered : Option Bytes ← ask (.deliver envelope)
  match delivered with
  | none => pure (pending "PRIVATE_TRANSPORT_UNAVAILABLE")
  | some receiptBytes => match AuthenticatedTransportReceiptV1.fromCanonicalCbor receiptBytes with
    | .error _ => pure (pending "RECEIPT_PARSE_FAILED")
    | .ok receipt =>
      if (receipt.verifyForDescriptor crates descriptor).isOk = false then
        pure (pending "RECEIPT_SIGNATURE_INVALID")
      else if Hex.text receipt.descriptorFingerprint.toBytes ≠ descriptorFingerprintHex then
        pure (pending "RECEIPT_DESCRIPTOR_MISMATCH")
      else if Hex.text receipt.packageDigest.toBytes ≠ packageDigestHex then
        pure (pending "RECEIPT_PACKAGE_MISMATCH")
      else if receipt.receipt.state = .rejected then
        pure (⟨.castPending, receiptStateStr receipt.receipt.state, false, packageDigestHex,
          some "RECEIPT_REJECTED_BY_ORGANIZER"⟩, self.locked)
      else
        let persisted : Except GuiCoreError Unit ←
          ExceptT.lift (persistReleaseReceiptEvidenceV1 receiptEvidencePath receiptBytes).run
        match persisted with
        | .error _ => pure (pending "RECEIPT_PERSIST_FAILED")
        | .ok () =>
          let promoted : Except GuiCoreError Unit ←
            ExceptT.lift (promoteCastRecordToCastV1 path).run
          match promoted with
          | .error _ => pure (pending "CAST_PROMOTION_FAILED")
          | .ok () => pure (⟨.cast, receiptStateStr receipt.receipt.state, true, packageDigestHex,
              none⟩, self.markCast packageDigestHex.toBytes)

/-- `verify_staged_then_deliver_release` -/
def verifyStagedThenDeliverRelease (crates : ReleaseCrates) (self : GuiVoterSessionV1 prover)
    (descriptor : TransportDescriptorV1) (path : Bytes) (packageDigestHex : Text)
    (stagedEnvelopePath : Bytes) (stagedEnvelopeDigestHex descriptorFingerprintHex : Text)
    (receiptEvidencePath : Bytes) :
    Releasing prover (GuiPrivateReleaseResultV1 × GuiVoterSessionV1 prover) := do
  let envelope ← leaving self.locked (readAndVerifyStagedReleaseEnvelopeV1 crates
    stagedEnvelopePath stagedEnvelopeDigestHex descriptor)
  self.deliverAndFinalizeRelease crates descriptor path packageDigestHex descriptorFingerprintHex
    receiptEvidencePath envelope

/-- `release_prepared_ballot_via_private_transport`; `voter_session.rs:1205`. -/
def releasePreparedBallotViaPrivateTransport (crates : ReleaseCrates)
    (self : GuiVoterSessionV1 prover) (artifacts : GuiElectionArtifactsV1)
    (lifecycleState : ElectionLifecycleStateV1) (descriptor : TransportDescriptorV1)
    (roots : TransportAuthorityRootSetV1) (consistency : DescriptorConsistencyStoreV1)
    (ephemeral castLocksDir stagingDir : Bytes) :
    Releasing prover (GuiPrivateReleaseResultV1 × GuiVoterSessionV1 prover) := do
  let (canonicalBytes, packageDigestHex, fingerprint, manifestHashHex) ← checking self
    (self.readyToRelease crates.provider artifacts lifecycleState
      ⟨"GUI_PREPARED_BALLOT_NOT_SUBMITTABLE", .invalidLifecycleTransition, some "private-release",
        "a prepared ballot can be released only while the election is open"⟩
      ⟨"GUI_NO_PREPARED_BALLOT", .invalidInput, some "private-release",
        "no locally verified ballot package is available"⟩)
  let path := castRecordPath castLocksDir fingerprint manifestHashHex
  let recorded ← leaving self (castRecordExistsV1 path)
  if recorded then throw (alreadyCast, self.locked)
  else
    let descriptorFingerprintHex ← checking self
      (verifyReleaseDescriptor crates artifacts descriptor roots consistency)
    let sealed ← checking self ((PrivateBallotEnvelopeV1.sealEnvelope crates.provider
      crates.sender ephemeral descriptor canonicalBytes).mapError mapEnvelopeSealError)
    let envelope := sealed.toCanonicalCbor
    let stagedEnvelopeDigestHex := stagedReleaseEnvelopeDigestHexV1 crates.provider envelope
    let stagedEnvelopePath := stagedReleaseEnvelopePathV1 stagingDir manifestHashHex fingerprint
    let receiptEvidencePath := releaseReceiptEvidencePathV1 stagingDir manifestHashHex fingerprint
    leaving self (stageReleaseEnvelopeV1 stagedEnvelopePath envelope)
    leaving self (recordAt path (writeCastRecordPendingPrivateTransportV1 manifestHashHex
      fingerprint packageDigestHex stagedEnvelopePath stagedEnvelopeDigestHex
      descriptorFingerprintHex receiptEvidencePath))
    self.locked.verifyStagedThenDeliverRelease crates descriptor path packageDigestHex
      stagedEnvelopePath stagedEnvelopeDigestHex descriptorFingerprintHex receiptEvidencePath

/-- `retry_pending_private_transport_release`; `voter_session.rs:1329`. -/
def retryPendingPrivateTransportRelease (crates : ReleaseCrates)
    (self : GuiVoterSessionV1 prover) (artifacts : GuiElectionArtifactsV1)
    (descriptor : TransportDescriptorV1) (roots : TransportAuthorityRootSetV1)
    (consistency : DescriptorConsistencyStoreV1) (castLocksDir : Bytes) :
    Releasing prover (GuiPrivateReleaseResultV1 × GuiVoterSessionV1 prover) := do
  checking self (self.ensureBound artifacts)
  let fingerprint ← checking self (self.credentialFingerprint crates.provider)
  let manifestHashHex := hexText self.electionBinding.manifestHashHex
  let path := castRecordPath castLocksDir fingerprint manifestHashHex
  let handle ← ExceptT.lift (loadPendingReleaseRetryHandleV1 path manifestHashHex fingerprint)
  match handle with
  | none => throw (⟨"GUI_NO_PENDING_RELEASE", .invalidLifecycleTransition, some "private-release",
      "there is no pending private-transport release to retry"⟩, self)
  | some handle =>
    let descriptorFingerprintHex ← checking self.locked
      (verifyReleaseDescriptor crates artifacts descriptor roots consistency)
    if descriptorFingerprintHex ≠ handle.descriptorFingerprintHex then
      throw (⟨"GUI_RELEASE_DESCRIPTOR_CHANGED", .bindingMismatch, some "private-release",
        "the transport descriptor changed; the pending ballot remains cast-pending"⟩, self.locked)
    else
      self.locked.verifyStagedThenDeliverRelease crates descriptor path handle.packageDigestHex
        handle.stagedEnvelopePath handle.stagedEnvelopeDigestHex descriptorFingerprintHex
        handle.receiptEvidencePath

end GuiVoterSessionV1

end

end PrivateBallot.GuiCore
