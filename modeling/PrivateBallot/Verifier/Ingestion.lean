import PrivateBallot.Ballot.Package
import PrivateBallot.Ballot.Manifest
import PrivateBallot.Ballot.Lifecycle
import PrivateBallot.Registry.Snapshot
import PrivateBallot.Crypto.TriptychVerifier
import Mathlib.Data.Finset.Insert

/-!
# Ballot verification and the acceptance ledger

Library `Verifier`. `crates/verifier/src`: a package is decoded, bound to the manifest,
interpreted against the candidate set and turned into a proof statement (`prepare`); the
proof is verified; and the ledger accepts the first valid ballot of each nullifier.
-/

namespace PrivateBallot.Verifier

open PrivateBallot.Base
open PrivateBallot.Protocol
open PrivateBallot.Ballot
open PrivateBallot.Registry
open PrivateBallot.Crypto

/-- `build_tari_triptych_verifier_from_registry_v1`; `crates/verifier/src/triptych_registry.rs`. -/
def buildTariTriptychVerifierFromRegistryV1 (crate : TriptychCrate)
    (registry : RegistrySnapshot) (provider : HashProvider) :
    Result TariTriptychPrototypeVerifierV1 := do
  let registryCommitment ← registry.canonicalCommitment provider
  let registryKeys ← registry.entries.mapM fun entry ↦
    match Bytes32.ofBytes? entry.governanceKey.toBytes with
    | some key => Except.ok key
    | none => fail .invalidData "Triptych governance public key must be exactly 32 bytes"
  TariTriptychPrototypeVerifierV1.new crate registryCommitment registryKeys

/-- `ProductionProofSuitePolicyV1::validate` -/
def productionProofSuitePolicyV1 (proofSuiteId : Text) : Result Unit :=
  refuseIf (decide (proofSuiteId ≠ tariTriptychProofSuiteIdV1)) .unsupportedProofSuite
    "proof suite is not permitted by the production verification policy"

/-- `reconstruct_approval_proof_statement`; `crates/verifier/src/proof_statement.rs:12`. -/
def reconstructApprovalProofStatement (manifest : ElectionManifest)
    (payload : ApprovalBallotPayload) (provider : HashProvider) : Result ProofStatementV1 := do
  let manifestHash ← manifest.canonicalHash provider
  let electionScope ← manifest.canonicalScope provider
  let ballotPayloadHash ← payload.canonicalHash provider
  ProofStatementV1.new {
    protocolVersion := manifest.fields.protocolVersion
    proofSuiteId := manifest.fields.proofSuiteId
    manifestHash
    electionScope
    registryCommitment := manifest.fields.registryCommitment
    ballotPayloadHash
    ballotKindId := manifest.fields.ballotKind.asStr
    ballotConfidentialityId := manifest.fields.ballotConfidentiality.asStr }

/-- `reconstruct_verification_statement`; `crates/verifier/src/proof_verification.rs:59`. -/
def reconstructVerificationStatement (manifest : ElectionManifest)
    (payload : ApprovalBallotPayload) (proofBytes : Bytes) (provider : HashProvider)
    (proofVerifier : ProofVerifierV1) : Result ProofStatementV1 := do
  refuseIf proofBytes.isEmpty .invalidData "proof bytes must not be empty"
  refuseIf (decide (maxProofBytes < proofBytes.length)) .protocolLimitExceeded
    "proof bytes exceed the protocol size limit"
  refuseIf (decide (manifest.fields.proofSuiteId ≠ proofVerifier.proofSuiteId)) .invalidData
    "manifest proof suite does not match the selected verifier"
  reconstructApprovalProofStatement manifest payload provider

/-- A verified proof with the payload it is about. -/
structure VerifiedApprovalBallotV1 where
  proof : VerifiedProofV1
  payload : ApprovalBallotPayload
deriving DecidableEq

/-- `bind_verified_statement` -/
def bindVerifiedStatement (statement : ProofStatementV1) (payload : ApprovalBallotPayload)
    (verified : VerifiedProofV1) : Result VerifiedApprovalBallotV1 :=
  if verified.statement ≠ statement then
    fail .invalidData "proof verifier returned a result for a different statement"
  else .ok ⟨verified, payload⟩

/-- `PreparedApprovalBallotV1` -/
structure PreparedApprovalBallotV1 where
  statement : ProofStatementV1
  payload : ApprovalBallotPayload
  proofBytes : Bytes
deriving DecidableEq

/-- What the verification of every package of one election reads. -/
structure VerificationContext where
  manifest : ElectionManifest
  candidates : CandidateSet
  provider : HashProvider
  proofVerifier : ProofVerifierV1

/-- `prepare_approval_ballot_package_v1`; `crates/verifier/src/approval_ingestion.rs:52`. -/
def prepareApprovalBallotPackageV1 (context : VerificationContext) (packageBytes : Bytes) :
    Result PreparedApprovalBallotV1 := do
  let envelope ← BallotPackageEnvelopeV1.fromCanonicalCbor packageBytes
  let manifestHash ← context.manifest.canonicalHash context.provider
  envelope.validateManifestBinding manifestHash context.manifest.fields.proofSuiteId
  productionProofSuitePolicyV1 context.manifest.fields.proofSuiteId
  let commitment ← context.candidates.canonicalCommitment context.provider
  refuseIf (decide (commitment ≠ context.manifest.fields.candidateSetCommitment))
    .candidateSetCommitmentMismatch
    "authoritative candidate set does not match the election manifest"
  let package ← envelope.intoBallotPackage context.candidates
    context.manifest.fields.approvalLimits
  let statement ← reconstructVerificationStatement context.manifest package.payload
    package.proof context.provider context.proofVerifier
  pure ⟨statement, package.payload, package.proof⟩

/-- Verifies a prepared ballot's proof and binds the result to its payload. -/
def verifyPreparedBallot (context : VerificationContext) (prepared : PreparedApprovalBallotV1) :
    Result VerifiedApprovalBallotV1 := do
  let verified ← context.proofVerifier.verify prepared.statement prepared.proofBytes
  bindVerifiedStatement prepared.statement prepared.payload verified

/-- The part of ingest that does not depend on lifecycle or ledger: prepare, verify, bind. -/
def verifyApprovalBallotPackageV1 (context : VerificationContext) (packageBytes : Bytes) :
    Result VerifiedApprovalBallotV1 := do
  let prepared ← prepareApprovalBallotPackageV1 context packageBytes
  verifyPreparedBallot context prepared

/-- A ballot that verifies selects candidates of its election. -/
theorem mem_candidates_of_verify {context : VerificationContext} {packageBytes : Bytes}
    {ballot : VerifiedApprovalBallotV1}
    (h : verifyApprovalBallotPackageV1 context packageBytes = .ok ballot) :
    ∀ id ∈ ballot.payload.selections, context.candidates.contains id = true := by
  simp only [verifyApprovalBallotPackageV1, prepareApprovalBallotPackageV1, bind_eq_ok] at h
  obtain ⟨prepared, ⟨envelope, _, _, _, _, _, _, _, _, _, _, _, package, hpackage, statement, _,
    hprepared⟩, hverify⟩ := h
  cases hprepared
  simp only [verifyPreparedBallot, bind_eq_ok] at hverify
  obtain ⟨verified, _, hbound⟩ := hverify
  unfold bindVerifiedStatement at hbound
  split at hbound
  · cases hbound
  · cases hbound
    simp only [BallotPackageEnvelopeV1.intoBallotPackage, bind_eq_ok] at hpackage
    obtain ⟨payload, hpayload, _, _, _, _, hnew⟩ := hpackage
    have hsame : package.payload = payload := by
      unfold BallotPackageV1.new at hnew
      split at hnew
      · cases hnew
        rfl
      · cases hnew
    show ∀ id ∈ package.payload.selections, _
    rw [hsame]
    exact ApprovalBallotPayload.mem_candidates_of_fromCanonicalCbor hpayload

/-! ### Acceptance ledger (`crates/verifier/src/lib.rs`) -/

/-- `AcceptedBallot` -/
structure AcceptedBallot where
  verifiedProof : VerifiedProofV1
  payload : ApprovalBallotPayload
deriving DecidableEq

/-- The nullifier of an accepted ballot. -/
def AcceptedBallot.nullifier (ballot : AcceptedBallot) : VerifiedNullifier :=
  ballot.verifiedProof.nullifier

/-- `BallotAcceptanceLedger` -/
structure BallotAcceptanceLedger where
  seenNullifiers : Finset VerifiedNullifier
  acceptedBallots : List AcceptedBallot
deriving DecidableEq

namespace BallotAcceptanceLedger

/-- `BallotAcceptanceLedger::new` -/
def new : BallotAcceptanceLedger := ⟨∅, []⟩

private def duplicateNullifier : ProtocolError :=
  ⟨.duplicateNullifier, "the first valid ballot for this nullifier already counts"⟩

/-- `accept_verified`: the lifecycle check, then the nullifier, then the push. -/
def acceptVerified (self : BallotAcceptanceLedger) (lifecycle : ElectionLifecycleV1)
    (ballot : VerifiedApprovalBallotV1) : Result Unit × BallotAcceptanceLedger :=
  match lifecycle.validateBallotStatement ballot.proof.statement with
  | .error e => (.error e, self)
  | .ok () =>
    let nullifier := ballot.proof.nullifier
    if nullifier ∈ self.seenNullifiers then (.error duplicateNullifier, self)
    else (.ok (), ⟨insert nullifier self.seenNullifiers,
      self.acceptedBallots ++ [⟨ballot.proof, ballot.payload⟩]⟩)

end BallotAcceptanceLedger

/-- `ingest_approval_ballot_package_v1`; `crates/verifier/src/approval_ingestion.rs:99`. -/
def ingestApprovalBallotPackageV1 (context : VerificationContext)
    (lifecycle : ElectionLifecycleV1) (ledger : BallotAcceptanceLedger) (packageBytes : Bytes) :
    Result Unit × BallotAcceptanceLedger :=
  match verifyApprovalBallotPackageV1 context packageBytes with
  | .error e => (.error e, ledger)
  | .ok ballot => ledger.acceptVerified lifecycle ballot

/-- What one ingest can do: refuse the package and keep the ledger, or add one ballot. -/
theorem ingest_cases (context : VerificationContext) (lifecycle : ElectionLifecycleV1)
    (ledger : BallotAcceptanceLedger) (packageBytes : Bytes) :
    (∃ e, ingestApprovalBallotPackageV1 context lifecycle ledger packageBytes =
      (.error e, ledger)) ∨
    ∃ ballot, ingestApprovalBallotPackageV1 context lifecycle ledger packageBytes =
      (.ok (), ⟨insert ballot.proof.nullifier ledger.seenNullifiers,
        ledger.acceptedBallots ++ [⟨ballot.proof, ballot.payload⟩]⟩) ∧
      verifyApprovalBallotPackageV1 context packageBytes = .ok ballot := by
  unfold ingestApprovalBallotPackageV1
  cases verifyApprovalBallotPackageV1 context packageBytes with
  | error e => exact .inl ⟨e, rfl⟩
  | ok ballot =>
    dsimp only
    unfold BallotAcceptanceLedger.acceptVerified
    split
    · next e _ => exact .inl ⟨e, rfl⟩
    · dsimp only
      split
      · exact .inl ⟨_, rfl⟩
      · exact .inr ⟨ballot, rfl, rfl⟩

/-! ### Batch verification -/

private def missingBatchResult : ProtocolError :=
  ⟨.invalidData, "batch verification did not return a result for a prepared ballot"⟩

-- `crypto_results.next()` for every prepared item, in order.
private def bindResults : List (Result PreparedApprovalBallotV1) →
    List (Result VerifiedProofV1) → List (Result VerifiedApprovalBallotV1)
  | [], _ => []
  | .error e :: rest, results => .error e :: bindResults rest results
  | .ok _ :: rest, [] => .error missingBatchResult :: bindResults rest []
  | .ok prepared :: rest, result :: results =>
    (do
      let verified ← result
      bindVerifiedStatement prepared.statement prepared.payload verified) ::
      bindResults rest results

private def okPart : Result PreparedApprovalBallotV1 → Option ProofBatchInputV1
  | .ok prepared => some ⟨prepared.statement, prepared.proofBytes⟩
  | .error _ => none

/-- `verify_approval_ballot_packages_batch_v1`; `crates/verifier/src/approval_ingestion.rs`. -/
def verifyApprovalBallotPackagesBatchV1 (context : VerificationContext)
    (packages : List Bytes) : List (Result VerifiedApprovalBallotV1) :=
  let prepared := packages.map (prepareApprovalBallotPackageV1 context)
  bindResults prepared (context.proofVerifier.verifyBatchV1 (prepared.filterMap okPart))

/-- A verifier whose batches over one election context are pointwise. -/
def BatchPointwise (proofVerifier : ProofVerifierV1) : Prop :=
  ∀ (inputs : List ProofBatchInputV1) (key : ElectionContextKey),
    (∀ input ∈ inputs, ElectionContextKey.ofStatement input.statement = key) →
    proofVerifier.verifyBatchV1 inputs =
      inputs.map fun input ↦ proofVerifier.verify input.statement input.proofBytes

/-- All statements rebuilt for one manifest share one context key. -/
theorem contextKey_of_prepare (context : VerificationContext) (packageBytes : Bytes)
    (prepared : PreparedApprovalBallotV1) (scope : ElectionScope)
    (hscope : context.manifest.canonicalScope context.provider = .ok scope)
    (h : prepareApprovalBallotPackageV1 context packageBytes = .ok prepared) :
    ElectionContextKey.ofStatement prepared.statement =
      ⟨context.manifest.fields.protocolVersion, context.manifest.fields.proofSuiteId,
        scope.toBytes⟩ := by
  simp only [prepareApprovalBallotPackageV1, bind_eq_ok] at h
  obtain ⟨_, _, _, _, _, _, _, _, _, _, _, _, package, _, statement, hstatement, hprepared⟩ := h
  cases hprepared
  simp only [reconstructVerificationStatement, reconstructApprovalProofStatement,
    bind_eq_ok, hscope] at hstatement
  obtain ⟨_, _, _, _, _, _, _, _, scope', hscope', _, _, hnew⟩ := hstatement
  cases hscope'
  have hinput := ProofStatementV1.toInput_of_new hnew
  simp only [ElectionContextKey.ofStatement, hinput]

private theorem bindResults_map_verify (context : VerificationContext)
    (prepared : List (Result PreparedApprovalBallotV1)) :
    bindResults prepared ((prepared.filterMap okPart).map fun input ↦
        context.proofVerifier.verify input.statement input.proofBytes) =
      prepared.map fun item ↦ item >>= verifyPreparedBallot context := by
  induction prepared with
  | nil => rfl
  | cons item rest ih =>
    cases item with
    | error e =>
      simp only [List.filterMap_cons, okPart, bindResults, List.map_cons, ih]
      rfl
    | ok item =>
      simp only [List.filterMap_cons, okPart, List.map_cons, bindResults, ih]
      rfl

/-- Batch verification of packages is package-by-package verification, in order. -/
theorem verifyApprovalBallotPackagesBatchV1_eq_map (context : VerificationContext)
    (hbatch : BatchPointwise context.proofVerifier) (packages : List Bytes) :
    verifyApprovalBallotPackagesBatchV1 context packages =
      packages.map (verifyApprovalBallotPackageV1 context) := by
  have hpointwise : context.proofVerifier.verifyBatchV1
      ((packages.map (prepareApprovalBallotPackageV1 context)).filterMap okPart) =
      ((packages.map (prepareApprovalBallotPackageV1 context)).filterMap okPart).map
        fun input ↦ context.proofVerifier.verify input.statement input.proofBytes := by
    have hmember : ∀ input ∈ (packages.map (prepareApprovalBallotPackageV1 context)).filterMap
        okPart, ∃ packageBytes prepared,
          prepareApprovalBallotPackageV1 context packageBytes = .ok prepared ∧
            input.statement = prepared.statement := by
      intro input hmem
      obtain ⟨result, hresult, hpart⟩ := List.mem_filterMap.mp hmem
      obtain ⟨packageBytes, _, rfl⟩ := List.mem_map.mp hresult
      cases hprepare : prepareApprovalBallotPackageV1 context packageBytes with
      | error e => rw [hprepare] at hpart; cases hpart
      | ok prepared =>
        rw [hprepare] at hpart
        cases hpart
        exact ⟨packageBytes, prepared, hprepare, rfl⟩
    cases hscope : context.manifest.canonicalScope context.provider with
    | ok scope =>
      apply hbatch _ ⟨context.manifest.fields.protocolVersion,
        context.manifest.fields.proofSuiteId, scope.toBytes⟩
      intro input hmem
      obtain ⟨packageBytes, prepared, hprepare, hstatement⟩ := hmember input hmem
      rw [hstatement]
      exact contextKey_of_prepare context packageBytes prepared scope hscope hprepare
    | error e =>
      -- Without a scope no package can be prepared, so the batch is empty.
      apply hbatch _ ⟨0, default, []⟩
      intro input hmem
      obtain ⟨packageBytes, prepared, hprepare, _⟩ := hmember input hmem
      simp only [prepareApprovalBallotPackageV1, bind_eq_ok] at hprepare
      obtain ⟨_, _, _, _, _, _, _, _, _, _, _, _, package, _, statement, hstatement, _⟩ := hprepare
      simp only [reconstructVerificationStatement, reconstructApprovalProofStatement,
        bind_eq_ok, hscope] at hstatement
      obtain ⟨_, _, _, _, _, _, _, _, scope', hscope', _⟩ := hstatement
      cases hscope'
  unfold verifyApprovalBallotPackagesBatchV1
  simp only [hpointwise, bindResults_map_verify, List.map_map]
  rfl

end PrivateBallot.Verifier
