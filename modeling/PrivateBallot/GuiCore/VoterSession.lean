import PrivateBallot.Crypto.TriptychProver
import PrivateBallot.GuiCore.SessionReplay
import Mathlib.Algebra.Field.ZMod

/-!
# Voter sessions

Library `GuiCore`. `crates/gui-core/src/voter_session.rs` and the eligibility check of
`voter_credential.rs`: a voter's credential and selection for one loaded election, and
`prepare_ballot`, which proves, packs, unpacks and verifies one ballot before it is offered for
export. A registered voter's ballot is prepared and counts, once.
-/

namespace PrivateBallot.GuiCore

open PrivateBallot.Base PrivateBallot.Protocol PrivateBallot.Ballot PrivateBallot.Registry
open PrivateBallot.Crypto PrivateBallot.Verifier PrivateBallot.Archive

/-- `GuiVoterElectionBindingV1` -/
structure GuiVoterElectionBindingV1 where
  electionIdHex : Bytes
  manifestHashHex : Bytes
  registryCommitmentHex : Bytes
  candidateSetCommitmentHex : Bytes
deriving DecidableEq

/-- `GuiVoterElectionBindingV1::from_artifacts` -/
def GuiVoterElectionBindingV1.fromArtifacts (artifacts : GuiElectionArtifactsV1) :
    GuiVoterElectionBindingV1 where
  electionIdHex := toLowerHex artifacts.manifest.fields.electionId.toBytes
  manifestHashHex := toLowerHex artifacts.manifestHash.toBytes
  registryCommitmentHex := toLowerHex artifacts.registryCommitment.toBytes
  candidateSetCommitmentHex := toLowerHex artifacts.candidateSetCommitment.toBytes

/-- `GuiVoterEligibilityV1` -/
inductive GuiVoterEligibilityV1 where
  | notChecked
  | eligible
  | notEligible
deriving DecidableEq, Repr

/-- `GuiVoterCredentialOriginV1` -/
inductive GuiVoterCredentialOriginV1 where
  | generated
  | durableCreated
  | unlockedSaved
  | importedSession
  | importedSaved
  | memoryOnly
deriving DecidableEq, Repr

/-- `eligibility_for_public_key` -/
def eligibilityForPublicKey (registry : RegistrySnapshot) (publicKey : Bytes32) :
    GuiVoterEligibilityV1 :=
  if registry.entries.any fun entry ↦ decide (entry.governanceKey.toBytes = publicKey.toBytes)
  then .eligible else .notEligible

/-- `GuiVoterCastLockStateV1` -/
inductive GuiVoterCastLockStateV1 where
  | notCast
  | castPending
  | cast
deriving DecidableEq, Repr

/-- `is_locked` -/
def GuiVoterCastLockStateV1.isLocked : GuiVoterCastLockStateV1 → Bool
  | notCast => false
  | castPending | cast => true

/-- `GuiPreparedBallotSummaryV1` -/
structure GuiPreparedBallotSummaryV1 where
  electionIdHex : Bytes
  manifestHashHex : Bytes
  selectedOptionIdsHex : List Bytes
  selectedDisplayLabels : List Text
  abstaining : Bool
  proofSuiteId : Text
  canonicalPackageBytes : Nat
  packageDigestHex : Bytes
  locallyVerified : Bool
  readyToExport : Bool
deriving DecidableEq

/-- `PreparedBallotStateV1` -/
inductive PreparedBallotStateV1 where
  | none
  | preparing (operationId : UInt64)
  | invalidated (reason : String)
  | ready (canonicalBytes : Bytes) (summary : GuiPreparedBallotSummaryV1)
  | cast (packageDigestHex : Option Bytes)
deriving DecidableEq

/-- `GuiPreparedBallotStatusV1` -/
structure GuiPreparedBallotStatusV1 where
  state : String
  operationId : Option UInt64
  readyToExport : Bool
  summary : Option GuiPreparedBallotSummaryV1
  message : String
deriving DecidableEq

/-- `PreparedBallotStateV1::status` -/
def PreparedBallotStateV1.status (self : PreparedBallotStateV1)
    (lifecycleState : ElectionLifecycleStateV1) : GuiPreparedBallotStatusV1 :=
  match self with
  | .none => ⟨"None", Option.none, false, Option.none, "No ballot has been prepared."⟩
  | .preparing operationId => ⟨"Preparing", some operationId, false, Option.none,
      "A future proof preparation operation is in progress."⟩
  | .invalidated reason => ⟨"Invalidated", Option.none, false, Option.none, reason⟩
  | .ready _ summary =>
    let isOpen := decide (lifecycleState = .opened)
    ⟨"Ready", Option.none, isOpen, some { summary with readyToExport := isOpen },
      if isOpen then "Canonical ballot package is locally verified and ready to export."
      else "Election is no longer open; this prepared ballot is not exportable."⟩
  | .cast _ => ⟨"Cast", Option.none, false, Option.none,
      "This ballot was exported and cast on this device for this election."⟩

section

variable {crate : TriptychCrate} {Scalar : Type} [Field Scalar] [DecidableEq Scalar]
  [AddCommGroup crate.dalekV4.Point] [Module Scalar crate.dalekV4.Point]

/-- `GuiVoterCredentialSessionV1` -/
structure GuiVoterCredentialSessionV1 (prover : TriptychProverCrate crate Scalar) where
  secretKey : TariTriptychSecretKeyV1 prover
  origin : GuiVoterCredentialOriginV1
  publicKey : Bytes32
  eligibility : GuiVoterEligibilityV1

/-- `GuiVoterPreparationTokenV1` -/
structure GuiVoterPreparationTokenV1 where
  operationId : UInt64
  electionBinding : GuiVoterElectionBindingV1
  credentialGeneration : UInt64
  selectionRevision : UInt64
deriving DecidableEq

/-- `GuiVoterSessionV1` -/
structure GuiVoterSessionV1 (prover : TriptychProverCrate crate Scalar) where
  electionBinding : GuiVoterElectionBindingV1
  credential : Option (GuiVoterCredentialSessionV1 prover)
  selection : Option ApprovalBallotPayload
  credentialGeneration : UInt64
  selectionRevision : UInt64
  preparationGeneration : UInt64
  preparedBallot : PreparedBallotStateV1
  castLock : GuiVoterCastLockStateV1

namespace GuiVoterSessionV1

variable {prover : TriptychProverCrate crate Scalar}

/-- `ensure_bound` -/
def ensureBound (self : GuiVoterSessionV1 prover) (artifacts : GuiElectionArtifactsV1) :
    GuiResult Unit :=
  if self.electionBinding = .fromArtifacts artifacts then .ok ()
  else .error ⟨"GUI_VOTER_SESSION_ELECTION_MISMATCH", .bindingMismatch, some "voter-session",
    "voter session belongs to a different loaded election"⟩

/-- `ensure_not_cast_locked` -/
def ensureNotCastLocked (self : GuiVoterSessionV1 prover) : GuiResult Unit :=
  if self.castLock.isLocked then
    .error ⟨"GUI_BALLOT_ALREADY_CAST", .invalidLifecycleTransition, some "voter-cast-lock",
      "this ballot was already exported and cast for this election; it cannot be changed"⟩
  else .ok ()

/-- The eligibility of `credential_status`. -/
def eligibility (self : GuiVoterSessionV1 prover) : GuiVoterEligibilityV1 :=
  match self.credential with
  | some credential => credential.eligibility
  | none => .notChecked

/-- `can_prepare_ballot` -/
def canPrepareBallot (self : GuiVoterSessionV1 prover)
    (lifecycleState : ElectionLifecycleStateV1) : Bool :=
  decide (lifecycleState = .opened) && decide (self.eligibility = .eligible) &&
    self.selection.isSome

/-- `matches_token` -/
def matchesToken (self : GuiVoterSessionV1 prover) (lifecycleState : ElectionLifecycleStateV1)
    (token : GuiVoterPreparationTokenV1) : Bool :=
  decide (lifecycleState = .opened) &&
    decide (self.preparedBallot = .preparing token.operationId) &&
    decide (self.electionBinding = token.electionBinding) &&
    decide (self.credentialGeneration = token.credentialGeneration) &&
    decide (self.selectionRevision = token.selectionRevision) &&
    decide (self.preparationGeneration = token.operationId)

/-- `invalidate_prepared` -/
def invalidatePrepared (self : GuiVoterSessionV1 prover) (reason : String) :
    GuiVoterSessionV1 prover :=
  { self with
    preparationGeneration := saturatingSucc self.preparationGeneration
    preparedBallot := .invalidated reason }

/-- `begin_preparation_operation`, with the session it leaves. -/
def beginPreparationOperation (self : GuiVoterSessionV1 prover)
    (lifecycleState : ElectionLifecycleStateV1) :
    GuiResult (GuiVoterPreparationTokenV1 × GuiVoterSessionV1 prover) := do
  self.ensureNotCastLocked
  if !self.canPrepareBallot lifecycleState then
    Except.error ⟨ValidationCode.electionNotOpen.asStr, .invalidLifecycleTransition,
      some "prepare-ballot",
      "ballot preparation requires an open election, eligible credential, and valid selection"⟩
  let operationId := saturatingSucc self.preparationGeneration
  pure (⟨operationId, self.electionBinding, self.credentialGeneration, self.selectionRevision⟩,
    { self with preparationGeneration := operationId, preparedBallot := .preparing operationId })

end GuiVoterSessionV1

/-- `verify_approval_proof`; `crates/verifier/src/proof_verification.rs:122`. -/
def verifyApprovalProof (manifest : ElectionManifest) (payload : ApprovalBallotPayload)
    (proofBytes : Bytes) (provider : HashProvider) (proofVerifier : ProofVerifierV1) :
    Result VerifiedApprovalBallotV1 := do
  let statement ← reconstructVerificationStatement manifest payload proofBytes provider
    proofVerifier
  let verified ← proofVerifier.verify statement proofBytes
  bindVerifiedStatement statement payload verified

/-- `BallotPackageV1::canonical_hash` -/
def ballotPackageHash (package : BallotPackageV1) (provider : HashProvider) : Result Bytes32 := do
  let encoded ← package.toCanonicalCbor
  pure (hashDomainSeparated provider .ballotPackageV1 encoded)

/-- The selected display names, in the order of the selection. -/
def selectedDisplayLabels (artifacts : GuiElectionArtifactsV1) (payload : ApprovalBallotPayload) :
    List Text :=
  payload.selections.filterMap fun id ↦
    (artifacts.candidates.candidates.find? fun candidate ↦ decide (candidate.id = id)).map
      (·.displayName)

namespace GuiVoterSessionV1

variable {prover : TriptychProverCrate crate Scalar}

/-- The proof work of `prepare_ballot` for a credential and a selection: the package bytes and
their digest. -/
def proveAndVerify (provider : HashProvider) (artifacts : GuiElectionArtifactsV1)
    (secretKey : TariTriptychSecretKeyV1 prover) (payload : ApprovalBallotPayload)
    (randomness : prover.Randomness) : GuiResult (Bytes × Bytes32) := do
  let verifier ← ofProtocol "registry"
    (buildTariTriptychVerifierFromRegistryV1 crate artifacts.registry provider)
  let statement ← ofProtocol "proof-statement"
    (reconstructApprovalProofStatement artifacts.manifest payload provider)
  let proof ← ofProtocol "proof"
    (proveTariTriptychPrototypeV1 prover statement verifier secretKey randomness)
  let package ← ofProtocol "ballot-package" (BallotPackageV1.new {
    protocolVersion := protocolVersionV1
    manifestHash := artifacts.manifestHash
    proofSuiteId := artifacts.manifest.fields.proofSuiteId
    proof
    payload })
  let canonicalBytes ← ofProtocol "ballot-package" package.toCanonicalCbor
  let decoded ← ofProtocol "ballot-package" (BallotPackageV1.fromCanonicalCbor canonicalBytes
    artifacts.candidates artifacts.manifest.fields.approvalLimits)
  ofProtocol "ballot-package" (do
    refuseIf (decide (decoded.manifestHash ≠ artifacts.manifestHash)) .wrongManifestHash
      "ballot package is bound to a different election manifest"
    refuseIf (decide (decoded.proofSuiteId ≠ artifacts.manifest.fields.proofSuiteId))
      .unsupportedProofSuite "ballot proof suite differs from the election manifest")
  let _ ← ofProtocol "proof" (verifyApprovalProof artifacts.manifest decoded.payload
    decoded.proof provider (verifier.toProofVerifier crate))
  let digest ← ofProtocol "ballot-package" (ballotPackageHash decoded provider)
  pure (canonicalBytes, digest)

/-- The summary shown for a package that was built. -/
def summaryOf (self : GuiVoterSessionV1 prover) (artifacts : GuiElectionArtifactsV1)
    (payload : ApprovalBallotPayload) (canonicalBytes : Bytes) (digest : Bytes32) :
    GuiPreparedBallotSummaryV1 where
  electionIdHex := self.electionBinding.electionIdHex
  manifestHashHex := self.electionBinding.manifestHashHex
  selectedOptionIdsHex := payload.selections.map fun id ↦ toLowerHex id.toBytes
  selectedDisplayLabels := selectedDisplayLabels artifacts payload
  abstaining := payload.isAbstention
  proofSuiteId := artifacts.manifest.fields.proofSuiteId
  canonicalPackageBytes := canonicalBytes.length
  packageDigestHex := toLowerHex digest.toBytes
  locallyVerified := true
  readyToExport := true

/-- The work between the token and its check: what is read is the session's own state. -/
def prepareWork (self : GuiVoterSessionV1 prover) (provider : HashProvider)
    (artifacts : GuiElectionArtifactsV1) (randomness : prover.Randomness) :
    GuiResult (Bytes × GuiPreparedBallotSummaryV1) :=
  match self.credential with
  | none => .error ⟨"GUI_NO_VOTER_CREDENTIAL", .invalidInput, some "prepare-ballot",
      "a voter credential is required before preparing a ballot"⟩
  | some credential => match self.selection with
    | none => .error ⟨"GUI_NO_BALLOT_SELECTION", .invalidInput, some "prepare-ballot",
        "a valid ballot selection is required before preparing a ballot"⟩
    | some payload => do
      let (canonicalBytes, digest) ←
        proveAndVerify provider artifacts credential.secretKey payload randomness
      pure (canonicalBytes, self.summaryOf artifacts payload canonicalBytes digest)

/-- The work as `catch_unwind` answers it: with the randomness that the prover draws, or a caught
panic where there is none. -/
def caughtWork (self : GuiVoterSessionV1 prover) (provider : HashProvider)
    (artifacts : GuiElectionArtifactsV1) :
    Option prover.Randomness → GuiResult (Bytes × GuiPreparedBallotSummaryV1)
  | some randomness => self.prepareWork provider artifacts randomness
  | none => .error ⟨"GUI_PREPARATION_TASK_FAILED", .proofFailure, some "prepare-ballot",
      "the proof generation task failed unexpectedly; no ballot was prepared and you may try again"⟩

/-- `prepare_ballot`, with the session it leaves; `crates/gui-core/src/voter_session.rs:824`. The
proof work draws randomness or panics. -/
def prepareBallot (self : GuiVoterSessionV1 prover) (provider : HashProvider)
    (artifacts : GuiElectionArtifactsV1) (lifecycleState : ElectionLifecycleStateV1)
    (draws : Option prover.Randomness) :
    GuiResult GuiPreparedBallotStatusV1 × GuiVoterSessionV1 prover :=
  match self.ensureBound artifacts with
  | .error e => (.error e, self)
  | .ok () => match self.beginPreparationOperation lifecycleState with
    | .error e => (.error e, self)
    | .ok (token, started) => match started.caughtWork provider artifacts draws with
      | .error e => (.error e, started.invalidatePrepared
          "Ballot preparation failed; no prepared ballot is available.")
      | .ok (canonicalBytes, summary) =>
        if started.matchesToken lifecycleState token then
          let finished := { started with preparedBallot := .ready canonicalBytes summary }
          (.ok (finished.preparedBallot.status lifecycleState), finished)
        else
          (.error ⟨"GUI_STALE_PREPARATION", .invalidLifecycleTransition, some "prepare-ballot",
            "the ballot preparation result is no longer current"⟩,
           started.invalidatePrepared
            "Prepared ballot became stale before it could be installed.")

end GuiVoterSessionV1

end

/-! ### Proof settings of a loaded election -/

/-- What the binding of decoded artifacts has compared. -/
theorem GuiElectionArtifactsV1.commitments_of_bindDecoded {prims : Primitives}
    {manifest : ElectionManifest} {registry : RegistrySnapshot} {candidates : CandidateSet}
    {artifacts : GuiElectionArtifactsV1}
    (h : bindDecoded prims manifest registry candidates = .ok artifacts) :
    artifacts.registryCommitment = manifest.fields.registryCommitment ∧
      artifacts.candidateSetCommitment = manifest.fields.candidateSetCommitment ∧
      manifest.fields.proofSuiteId = tariTriptychProofSuiteIdV1 := by
  simp only [bindDecoded, bind_eq_ok, ofProtocol_eq_ok] at h
  obtain ⟨registryCommitment, -, h⟩ := h
  split at h
  · simp [bind, Except.bind] at h
  · next hregistry =>
    simp only [bind_eq_ok, ofProtocol_eq_ok] at h
    obtain ⟨candidateSetCommitment, -, h⟩ := h
    split at h
    · simp [bind, Except.bind, ofProtocol, fail, Except.mapError] at h
    · next hcandidates =>
      simp only [bind_eq_ok, ofProtocol_eq_ok, productionProofSuitePolicyV1, refuseIf_eq_ok,
        decide_eq_false_iff_not, not_not] at h
      obtain ⟨manifestHash, -, -, hsuite, h⟩ := h
      cases h
      exact ⟨not_not.mp hregistry, not_not.mp hcandidates, hsuite⟩

/-- Every key of the registry encodes a point other than the identity. -/
def HasValidKeys (crate : TriptychCrate) (registry : RegistrySnapshot) : Prop :=
  ∀ entry ∈ registry.entries, ∃ point, crate.dalekV4.isIdentity point = false ∧
    (crate.dalekV4.compress point).toBytes = entry.governanceKey.toBytes

private theorem exists_points {crate : TriptychCrate} {entries : List RegistryEntry}
    (h : ∀ entry ∈ entries, ∃ point, crate.dalekV4.isIdentity point = false ∧
      (crate.dalekV4.compress point).toBytes = entry.governanceKey.toBytes) :
    ∃ points : List crate.dalekV4.Point,
      (∀ point ∈ points, crate.dalekV4.isIdentity point = false) ∧
      (points.map crate.dalekV4.compress).map Bytes32.toBytes = entries.map RegistryEntry.key ∧
      (entries.mapM fun entry ↦ match Bytes32.ofBytes? entry.governanceKey.toBytes with
        | some key => Except.ok key
        | none => fail .invalidData
          "Triptych governance public key must be exactly 32 bytes") =
        .ok (points.map crate.dalekV4.compress) := by
  induction entries with
  | nil => exact ⟨[], by simp, rfl, rfl⟩
  | cons entry rest ih =>
    obtain ⟨point, hpoint, hbytes⟩ := h entry List.mem_cons_self
    obtain ⟨points, hpoints, hkeys, hmap⟩ :=
      ih fun other hother ↦ h other (List.mem_cons_of_mem entry hother)
    refine ⟨point :: points, ?_, ?_, ?_⟩
    · intro other hother
      rcases List.mem_cons.mp hother with rfl | hother
      · exact hpoint
      · exact hpoints other hother
    · rw [List.map_cons, List.map_cons, List.map_cons, hkeys, hbytes]
      rfl
    · rw [List.mapM_cons, hmap, ← hbytes, Bytes32.ofBytes?_toBytes]
      rfl

section

variable {crate : TriptychCrate} {Scalar : Type} [Field Scalar]
  [AddCommGroup crate.dalekV4.Point] [Module Scalar crate.dalekV4.Point]
  {prover : TriptychProverCrate crate Scalar}

-- Ascending entries are ascending keys.
private theorem exists_verifier (laws : TriptychProverLaws prover) {provider : HashProvider}
    {registry : RegistrySnapshot} {commitment : RegistryCommitment}
    (hcommitment : registry.canonicalCommitment provider = .ok commitment)
    (hkeys : HasValidKeys crate registry) :
    ∃ verifier points,
      buildTariTriptychVerifierFromRegistryV1 crate registry provider = .ok verifier ∧
      verifier.registryCommitment = commitment ∧
      UsableKeys crate verifier.registryKeys points ∧
      verifier.registryKeys.map Bytes32.toBytes = registry.entries.map RegistryEntry.key := by
  obtain ⟨points, hpoints, hbytes, hmap⟩ := exists_points hkeys
  have hlength : points.length = registry.entries.length := by
    have hlen := congrArg List.length hbytes
    simpa only [List.length_map] using hlen
  have husable : UsableKeys crate (points.map crate.dalekV4.compress) points := by
    refine ⟨rfl, hpoints, ?_, ?_, ?_⟩
    · rintro rfl
      exact registry.nonempty (List.length_eq_zero_iff.mp hlength.symm)
    · have hle := registry.length_le
      have hmax : maxRegistryMembers = 4096 := rfl
      omega
    · have hascending : (registry.entries.map RegistryEntry.key).Pairwise (· < ·) :=
        List.pairwise_map.mpr registry.ascending
      rw [← hbytes] at hascending
      exact List.pairwise_map.mp hascending
  refine ⟨⟨commitment, points.map crate.dalekV4.compress⟩, points, ?_, rfl, husable, hbytes⟩
  simp only [buildTariTriptychVerifierFromRegistryV1, bind_eq_ok]
  exact ⟨commitment, hcommitment, _, hmap,
    TariTriptychPrototypeVerifierV1.new_of_usable laws commitment husable⟩

/-- A loaded election with usable keys: the artifacts were bound to each other, every registry
key is a point, and the scope has its generator. -/
structure LoadedElection (prover : TriptychProverCrate crate Scalar) (provider : HashProvider)
    (artifacts : GuiElectionArtifactsV1) (scopeGenerator : crate.dalekV4.Point) : Prop where
  laws : TriptychProverLaws prover
  bound : ∃ nfc, GuiElectionArtifactsV1.bindDecoded ⟨crate, provider, nfc⟩ artifacts.manifest
    artifacts.registry artifacts.candidates = .ok artifacts
  keys : HasValidKeys crate artifacts.registry
  generator : deriveScopeGeneratorV1 crate artifacts.manifest.fields.protocolVersion
    artifacts.manifest.fields.proofSuiteId
    (deriveElectionScope provider artifacts.manifestHash).toBytes = .ok scopeGenerator

namespace LoadedElection

variable {provider : HashProvider} {artifacts : GuiElectionArtifactsV1}
  {scopeGenerator : crate.dalekV4.Point}

/-- The proof suite of a loaded election. -/
theorem suite (election : LoadedElection prover provider artifacts scopeGenerator) :
    artifacts.manifest.fields.proofSuiteId = tariTriptychProofSuiteIdV1 := by
  obtain ⟨nfc, hbound⟩ := election.bound
  exact (GuiElectionArtifactsV1.commitments_of_bindDecoded hbound).2.2

/-- The manifest of a loaded election hashes to the loaded hash. -/
theorem canonicalHash (election : LoadedElection prover provider artifacts scopeGenerator) :
    artifacts.manifest.canonicalHash provider = .ok artifacts.manifestHash := by
  obtain ⟨nfc, hbound⟩ := election.bound
  exact (GuiElectionArtifactsV1.bindDecoded_eq_ok hbound).2.2.2.2.2

/-- The scope generator of a loaded election is not the identity. -/
theorem generator_ne_zero (election : LoadedElection prover provider artifacts scopeGenerator) :
    scopeGenerator ≠ 0 :=
  scopeGenerator_ne_zero election.laws election.generator

private theorem protocolVersion_eq (manifest : ElectionManifest) :
    manifest.fields.protocolVersion = protocolVersionV1 := by
  cases manifest with
  | v1 manifest => exact ElectionManifestFields.protocolVersion_of_validate manifest.valid
  | v2 manifest => exact ElectionManifestFields.protocolVersion_of_validate manifest.valid

private theorem tariTriptychProofSuiteIdV1_text :
    tariTriptychProofSuiteIdV1.trimIsEmpty = false ∧
      tariTriptychProofSuiteIdV1.len ≤ maxProofSuiteIdBytes :=
  ⟨by decide +kernel, by decide +kernel⟩

/-- A payload that fits has its statement: that of this election and this payload. -/
theorem exists_statement (election : LoadedElection prover provider artifacts scopeGenerator)
    {payload : ApprovalBallotPayload}
    (hfits : ApprovalBallotPayload.Fits artifacts.candidates
      artifacts.manifest.fields.approvalLimits payload.selections) :
    ∃ statement, reconstructApprovalProofStatement artifacts.manifest payload provider =
        .ok statement ∧
      statement.protocolVersion = artifacts.manifest.fields.protocolVersion ∧
      statement.proofSuiteId = artifacts.manifest.fields.proofSuiteId ∧
      statement.manifestHash = artifacts.manifestHash ∧
      statement.electionScope = deriveElectionScope provider artifacts.manifestHash ∧
      statement.registryCommitment = artifacts.manifest.fields.registryCommitment := by
  have hhash := election.canonicalHash
  have hscope : artifacts.manifest.canonicalScope provider =
      .ok (deriveElectionScope provider artifacts.manifestHash) := by
    simp only [ElectionManifest.canonicalScope, bind_eq_ok]
    exact ⟨_, hhash, rfl⟩
  obtain ⟨payloadHash, hpayload⟩ : ∃ payloadHash,
      payload.canonicalHash provider = .ok payloadHash := by
    simp only [ApprovalBallotPayload.canonicalHash, bind_eq_ok]
    exact ⟨_, _, ApprovalBallotPayload.toCanonicalCbor_of_fits hfits, rfl⟩
  have hversion := protocolVersion_eq artifacts.manifest
  have hkind : ∀ kind : BallotKindV1, kind.asStr.trimIsEmpty = false ∧
      kind.asStr.len ≤ maxBallotKindIdBytes := by
    intro kind
    cases kind
    exact ⟨by decide +kernel, by decide +kernel⟩
  have hconfidentiality : ∀ confidentiality : BallotConfidentialityV1,
      confidentiality.asStr.trimIsEmpty = false ∧
        confidentiality.asStr.len ≤ maxBallotConfidentialityIdBytes := by
    intro confidentiality
    cases confidentiality
    exact ⟨by decide +kernel, by decide +kernel⟩
  obtain ⟨hkindBlank, hkindLen⟩ := hkind artifacts.manifest.fields.ballotKind
  obtain ⟨hconfBlank, hconfLen⟩ :=
    hconfidentiality artifacts.manifest.fields.ballotConfidentiality
  have hvalid : ProofStatementV1Input.validate {
      protocolVersion := artifacts.manifest.fields.protocolVersion
      proofSuiteId := artifacts.manifest.fields.proofSuiteId
      manifestHash := artifacts.manifestHash
      electionScope := deriveElectionScope provider artifacts.manifestHash
      registryCommitment := artifacts.manifest.fields.registryCommitment
      ballotPayloadHash := payloadHash
      ballotKindId := artifacts.manifest.fields.ballotKind.asStr
      ballotConfidentialityId := artifacts.manifest.fields.ballotConfidentiality.asStr } =
        .ok () := by
    simp only [ProofStatementV1Input.validate, validateIdentifier, bind_eq_ok, refuseIf_eq_ok,
      decide_eq_false_iff_not, not_not, Nat.not_lt, exists_const, election.suite]
    exact ⟨hversion, tariTriptychProofSuiteIdV1_text, ⟨hkindBlank, hkindLen⟩, hconfBlank, hconfLen⟩
  refine ⟨⟨_, hvalid⟩, ?_, rfl, rfl, rfl, rfl, rfl⟩
  simp only [reconstructApprovalProofStatement, bind_eq_ok]
  exact ⟨_, hhash, _, hscope, _, hpayload, ProofStatementV1.new_of_validate hvalid⟩

end LoadedElection

variable [DecidableEq Scalar]

/-- The secret key's public key is an entry of the registry. -/
def IsRegistered (registry : RegistrySnapshot) (secretKey : TariTriptychSecretKeyV1 prover) :
    Prop :=
  ∃ entry ∈ registry.entries, ∃ key, secretKey.governancePublicKey = .ok key ∧
    entry.governanceKey.toBytes = key.toBytes

private theorem isRegistered_iff {registry : RegistrySnapshot} {keys : List Bytes32}
    (hkeys : keys.map Bytes32.toBytes = registry.entries.map RegistryEntry.key)
    (secretKey : TariTriptychSecretKeyV1 prover) :
    IsRegistered registry secretKey ↔
      ∃ key ∈ keys, secretKey.governancePublicKey = .ok key := by
  constructor
  · rintro ⟨entry, hentry, key, hkey, hbytes⟩
    have hmem : RegistryEntry.key entry ∈ keys.map Bytes32.toBytes := by
      rw [hkeys]
      exact List.mem_map_of_mem hentry
    obtain ⟨same, hsame, hsameBytes⟩ := List.mem_map.mp hmem
    have heq : same = key := Bytes32.ext (hsameBytes.trans hbytes)
    exact ⟨key, heq ▸ hsame, hkey⟩
  · rintro ⟨key, hmem, hkey⟩
    have hbytes : key.toBytes ∈ registry.entries.map RegistryEntry.key := by
      rw [← hkeys]
      exact List.mem_map_of_mem hmem
    obtain ⟨entry, hentry, hsame⟩ := List.mem_map.mp hbytes
    exact ⟨entry, hentry, key, hkey, hsame⟩

/-! ### A registered voter's ballot counts -/

/-- Package bytes that count in an election: they decode to the payload, verify with this
nullifier, and are accepted in OPEN by every ledger that has not seen the nullifier. -/
structure BallotCounts (crate : TriptychCrate) (provider : HashProvider)
    (artifacts : GuiElectionArtifactsV1) (verifier : TariTriptychPrototypeVerifierV1)
    (canonicalBytes : Bytes) (payload : ApprovalBallotPayload) (nullifier : VerifiedNullifier) :
    Prop where
  decodes : ∃ package, BallotPackageV1.fromCanonicalCbor canonicalBytes artifacts.candidates
    artifacts.manifest.fields.approvalLimits = .ok package ∧ package.payload = payload
  verifies : ∃ proof, verifyApprovalBallotPackageV1 ⟨artifacts.manifest, artifacts.candidates,
      provider, verifier.toProofVerifier crate⟩ canonicalBytes = .ok ⟨proof, payload⟩ ∧
    proof.nullifier = nullifier
  accepted : ∀ (lifecycle : ElectionLifecycleV1) (ledger : BallotAcceptanceLedger),
    lifecycle.state = .opened → lifecycle.frozenManifestHash = some artifacts.manifestHash →
    lifecycle.frozenRegistryCommitment = some artifacts.registryCommitment →
    nullifier ∉ ledger.seenNullifiers →
    ∃ ballot, ingestApprovalBallotPackageV1 ⟨artifacts.manifest, artifacts.candidates, provider,
        verifier.toProofVerifier crate⟩ lifecycle ledger canonicalBytes =
      (.ok (), ⟨insert nullifier ledger.seenNullifiers, ledger.acceptedBallots ++ [ballot]⟩) ∧
      ballot.payload = payload ∧ ballot.nullifier = nullifier

/-- The nullifier of a secret key in the election of a scope generator. -/
def nullifierOf (scopeGenerator : crate.dalekV4.Point)
    (secretKey : TariTriptychSecretKeyV1 prover) : VerifiedNullifier :=
  match secretKey.scalar with
  | .ok scalar => linkingNullifier scopeGenerator scalar
  | .error _ => linkingNullifier scopeGenerator (1 : Scalar)

namespace LoadedElection

variable {provider : HashProvider} {artifacts : GuiElectionArtifactsV1}
  {scopeGenerator : crate.dalekV4.Point}

omit [DecidableEq Scalar] in
-- The verified statement is the statement of this election, whatever the payload.
private theorem ballotCounts_of_verify
    (election : LoadedElection prover provider artifacts scopeGenerator)
    {verifier : TariTriptychPrototypeVerifierV1} {payload : ApprovalBallotPayload}
    (hfits : ApprovalBallotPayload.Fits artifacts.candidates
      artifacts.manifest.fields.approvalLimits payload.selections)
    {statement : ProofStatementV1}
    (hstatement : reconstructApprovalProofStatement artifacts.manifest payload provider =
      .ok statement)
    (hmanifestHash : statement.manifestHash = artifacts.manifestHash)
    (hregistry : statement.registryCommitment = artifacts.manifest.fields.registryCommitment)
    {proofBytes : Bytes} (hnonempty : proofBytes ≠ []) (hlen : proofBytes.length ≤ maxProofBytes)
    {nullifier : VerifiedNullifier}
    (hverify : verifier.verify crate statement proofBytes = .ok ⟨statement, nullifier⟩) :
    BallotCounts crate provider artifacts verifier
      (packageBytes artifacts.manifestHash artifacts.manifest.fields.proofSuiteId
        payload.selections proofBytes) payload nullifier := by
  obtain ⟨nfc, hbound⟩ := election.bound
  obtain ⟨-, -, -, -, hcandidates, -⟩ := GuiElectionArtifactsV1.bindDecoded_eq_ok hbound
  obtain ⟨hsame, hset, hsuite⟩ := GuiElectionArtifactsV1.commitments_of_bindDecoded hbound
  have hvalid : BallotPackageV1Input.validate ⟨protocolVersionV1, artifacts.manifestHash,
      artifacts.manifest.fields.proofSuiteId, proofBytes, payload⟩ = .ok () := by
    rw [BallotPackageV1Input.validate_eq_ok, hsuite]
    exact ⟨rfl, tariTriptychProofSuiteIdV1_text.1, tariTriptychProofSuiteIdV1_text.2, hlen⟩
  have hdecode := (BallotPackageV1.fromCanonicalCbor_of_fits ⟨_, hvalid⟩ hfits).2
  have hprepared : prepareApprovalBallotPackageV1 ⟨artifacts.manifest, artifacts.candidates,
      provider, verifier.toProofVerifier crate⟩ (packageBytes artifacts.manifestHash
        artifacts.manifest.fields.proofSuiteId payload.selections proofBytes) =
      .ok ⟨statement, payload, proofBytes⟩ := by
    have hdecoded := hdecode
    simp only [BallotPackageV1.fromCanonicalCbor, bind_eq_ok] at hdecoded
    obtain ⟨envelope, henvelope, hpackage⟩ := hdecoded
    have hfields := hpackage
    simp only [BallotPackageEnvelopeV1.intoBallotPackage, bind_eq_ok] at hfields
    obtain ⟨_, _, _, _, _, _, hnew⟩ := hfields
    have hinput := BallotPackageV1.toInput_of_new hnew
    simp only [BallotPackageV1Input.mk.injEq] at hinput
    obtain ⟨-, hhash, hsuiteId, -, -⟩ := hinput
    simp only [prepareApprovalBallotPackageV1, bind_eq_ok]
    refine ⟨envelope, henvelope, _, election.canonicalHash, (), ?_, (), ?_, _, hcandidates, (),
      ?_, _, hpackage, statement, ?_, rfl⟩
    · simp only [BallotPackageEnvelopeV1.validateManifestBinding, bind_eq_ok, refuseIf_eq_ok,
        decide_eq_false_iff_not, not_not]
      exact ⟨(), hhash.symm, hsuiteId.symm⟩
    · simp only [productionProofSuitePolicyV1, refuseIf_eq_ok, decide_eq_false_iff_not, not_not]
      exact hsuite
    · simp only [refuseIf_eq_ok, decide_eq_false_iff_not, not_not]
      exact hset
    · simp only [reconstructVerificationStatement, bind_eq_ok, refuseIf_eq_ok,
        decide_eq_false_iff_not, not_not, Nat.not_lt]
      refine ⟨(), ?_, (), hlen, (), hsuite, hstatement⟩
      cases proofBytes with
      | nil => exact absurd rfl hnonempty
      | cons first rest => rfl
  have hverified : verifyApprovalBallotPackageV1 ⟨artifacts.manifest, artifacts.candidates,
      provider, verifier.toProofVerifier crate⟩ (packageBytes artifacts.manifestHash
        artifacts.manifest.fields.proofSuiteId payload.selections proofBytes) =
      .ok ⟨⟨statement, nullifier⟩, payload⟩ := by
    simp only [verifyApprovalBallotPackageV1, bind_eq_ok, verifyPreparedBallot]
    refine ⟨_, hprepared, _, hverify, ?_⟩
    simp only [bindVerifiedStatement, ne_eq, not_true_eq_false, if_false]
  refine ⟨⟨_, hdecode, rfl⟩, ⟨_, hverified, rfl⟩, ?_⟩
  intro lifecycle ledger hopen hfrozen hfrozenRegistry hnew
  have hstage : lifecycle.validateBallotStatement statement = .ok () := by
    rw [ElectionLifecycleV1.validateBallotStatement_eq_ok, hmanifestHash, hregistry, ← hsame]
    refine ⟨?_, hfrozen, hfrozenRegistry⟩
    rw [ElectionLifecycleV1.admitsBallots, hopen]
    rfl
  refine ⟨⟨⟨statement, nullifier⟩, payload⟩, ?_, rfl, rfl⟩
  simp only [ingestApprovalBallotPackageV1, hverified, BallotAcceptanceLedger.acceptVerified,
    hstage, hnew, if_false]

omit [DecidableEq Scalar] in
/-- The verifier of a loaded election, and the setting of every proof in it. -/
private theorem exists_settings
    (election : LoadedElection prover provider artifacts scopeGenerator) :
    ∃ verifier points,
      buildTariTriptychVerifierFromRegistryV1 crate artifacts.registry provider = .ok verifier ∧
      verifier.registryKeys.map Bytes32.toBytes =
        artifacts.registry.entries.map RegistryEntry.key ∧
      ∀ payload : ApprovalBallotPayload, ApprovalBallotPayload.Fits artifacts.candidates
          artifacts.manifest.fields.approvalLimits payload.selections →
        ∃ statement, reconstructApprovalProofStatement artifacts.manifest payload provider =
            .ok statement ∧
          statement.manifestHash = artifacts.manifestHash ∧
          statement.registryCommitment = artifacts.manifest.fields.registryCommitment ∧
          ProofSetting prover statement verifier points scopeGenerator := by
  obtain ⟨nfc, hbound⟩ := election.bound
  obtain ⟨-, -, -, hcommitment, -, -⟩ := GuiElectionArtifactsV1.bindDecoded_eq_ok hbound
  have hsame := (GuiElectionArtifactsV1.commitments_of_bindDecoded hbound).1
  obtain ⟨verifier, points, hbuild, hregistry, husable, hkeys⟩ :=
    exists_verifier election.laws hcommitment election.keys
  refine ⟨verifier, points, hbuild, hkeys, ?_⟩
  intro payload hfits
  obtain ⟨statement, hstatement, hversion, hsuite, hmanifestHash, hscope, hstatementRegistry⟩ :=
    election.exists_statement hfits
  refine ⟨statement, hstatement, hmanifestHash, hstatementRegistry, election.laws, husable, ?_,
    ?_, ?_⟩
  · rw [hsuite]
    exact election.suite
  · rw [hstatementRegistry, hregistry, hsame]
  · rw [hversion, hsuite, hscope]
    exact election.generator

private theorem registered_key {keys : List Bytes32} {secretKey : TariTriptychSecretKeyV1 prover}
    {scalar : Scalar} (hscalar : secretKey.scalar = .ok scalar)
    (h : ∃ key ∈ keys, secretKey.governancePublicKey = .ok key) :
    crate.dalekV4.compress (scalar • crate.basepoint) ∈ keys := by
  obtain ⟨key, hmem, hkey⟩ := h
  simp only [TariTriptychSecretKeyV1.governancePublicKey, hscalar, bind_eq_ok] at hkey
  obtain ⟨_, hsame, hpure⟩ := hkey
  cases hsame
  cases hpure
  exact hmem

-- One registered key, one payload: the whole path from the proof to the package.
private theorem exists_proveAndVerify
    (election : LoadedElection prover provider artifacts scopeGenerator)
    {verifier : TariTriptychPrototypeVerifierV1} {points : List crate.dalekV4.Point}
    (hbuild : buildTariTriptychVerifierFromRegistryV1 crate artifacts.registry provider =
      .ok verifier)
    {payload : ApprovalBallotPayload}
    (hfits : ApprovalBallotPayload.Fits artifacts.candidates
      artifacts.manifest.fields.approvalLimits payload.selections)
    {statement : ProofStatementV1}
    (hstatement : reconstructApprovalProofStatement artifacts.manifest payload provider =
      .ok statement)
    (hmanifestHash : statement.manifestHash = artifacts.manifestHash)
    (hregistry : statement.registryCommitment = artifacts.manifest.fields.registryCommitment)
    (setting : ProofSetting prover statement verifier points scopeGenerator)
    {secretKey : TariTriptychSecretKeyV1 prover}
    (hregistered : ∃ key ∈ verifier.registryKeys, secretKey.governancePublicKey = .ok key)
    (randomness : prover.Randomness) :
    ∃ canonicalBytes digest, GuiVoterSessionV1.proveAndVerify provider artifacts secretKey
        payload randomness = .ok (canonicalBytes, digest) ∧
      BallotCounts crate provider artifacts verifier canonicalBytes payload
        (nullifierOf scopeGenerator secretKey) := by
  obtain ⟨scalar, hscalar, -⟩ := secretKey.exists_scalar
  obtain ⟨proofBytes, hprove, hnonempty, hlen, hverify⟩ :=
    setting.exists_prove hscalar (registered_key hscalar hregistered) randomness
  have hnullifier : nullifierOf scopeGenerator secretKey =
      linkingNullifier scopeGenerator scalar := by
    rw [nullifierOf, hscalar]
  have hcounts := election.ballotCounts_of_verify hfits hstatement hmanifestHash hregistry
    hnonempty hlen hverify
  have hsuite := election.suite
  have hvalid : BallotPackageV1Input.validate ⟨protocolVersionV1, artifacts.manifestHash,
      artifacts.manifest.fields.proofSuiteId, proofBytes, payload⟩ = .ok () := by
    rw [BallotPackageV1Input.validate_eq_ok, hsuite]
    exact ⟨rfl, tariTriptychProofSuiteIdV1_text.1, tariTriptychProofSuiteIdV1_text.2, hlen⟩
  have hnew := BallotPackageV1.new_toInput ⟨_, hvalid⟩
  obtain ⟨hencode, hdecode⟩ := BallotPackageV1.fromCanonicalCbor_of_fits ⟨_, hvalid⟩ hfits
  have hproof : verifyApprovalProof artifacts.manifest payload proofBytes provider
      (verifier.toProofVerifier crate) =
        .ok ⟨⟨statement, linkingNullifier scopeGenerator scalar⟩, payload⟩ := by
    simp only [verifyApprovalProof, reconstructVerificationStatement, bind_eq_ok,
      refuseIf_eq_ok, decide_eq_false_iff_not, not_not, Nat.not_lt]
    refine ⟨statement, ⟨(), ?_, (), hlen, (), hsuite, hstatement⟩, _, hverify, ?_⟩
    · cases proofBytes with
      | nil => exact absurd rfl hnonempty
      | cons first rest => rfl
    · simp only [bindVerifiedStatement, ne_eq, not_true_eq_false, if_false]
  rw [hnullifier]
  refine ⟨_, hashDomainSeparated provider .ballotPackageV1 (packageBytes artifacts.manifestHash
    artifacts.manifest.fields.proofSuiteId payload.selections proofBytes), ?_, hcounts⟩
  · simp only [GuiVoterSessionV1.proveAndVerify, bind_eq_ok, ofProtocol_eq_ok]
    refine ⟨verifier, hbuild, statement, hstatement, proofBytes, hprove, _, hnew, _, hencode, _,
      hdecode, (), ?_, _, hproof, _, ?_, rfl⟩
    · simp [refuseIf_eq_ok]
    · simp only [ballotPackageHash, bind_eq_ok]
      exact ⟨_, hencode, rfl⟩

-- The proof work succeeds only for a registered key.
private theorem registered_of_proveAndVerify
    {verifier : TariTriptychPrototypeVerifierV1} {points : List crate.dalekV4.Point}
    (hbuild : buildTariTriptychVerifierFromRegistryV1 crate artifacts.registry provider =
      .ok verifier)
    {payload : ApprovalBallotPayload} {statement : ProofStatementV1}
    (hstatement : reconstructApprovalProofStatement artifacts.manifest payload provider =
      .ok statement)
    (setting : ProofSetting prover statement verifier points scopeGenerator)
    {secretKey : TariTriptychSecretKeyV1 prover} {randomness : prover.Randomness}
    {built : Bytes × Bytes32}
    (h : GuiVoterSessionV1.proveAndVerify provider artifacts secretKey payload randomness =
      .ok built) :
    ∃ key ∈ verifier.registryKeys, secretKey.governancePublicKey = .ok key := by
  simp only [GuiVoterSessionV1.proveAndVerify, bind_eq_ok, ofProtocol_eq_ok] at h
  obtain ⟨sameVerifier, hsameVerifier, sameStatement, hsameStatement, proof, hprove, -⟩ := h
  rw [hbuild] at hsameVerifier
  rw [hstatement] at hsameStatement
  cases hsameVerifier
  cases hsameStatement
  exact setting.registered_of_prove hprove

end LoadedElection

namespace GuiVoterSessionV1

/-- A session that `prepare_ballot` may work on. -/
structure CanPrepare (session : GuiVoterSessionV1 prover) (artifacts : GuiElectionArtifactsV1)
    (credential : GuiVoterCredentialSessionV1 prover) (payload : ApprovalBallotPayload) :
    Prop where
  bound : session.electionBinding = .fromArtifacts artifacts
  unlocked : session.castLock.isLocked = false
  hasCredential : session.credential = some credential
  isEligible : credential.eligibility = .eligible
  hasSelection : session.selection = some payload

omit [DecidableEq Scalar] [AddCommGroup crate.dalekV4.Point]
  [Module Scalar crate.dalekV4.Point] in
theorem ensureBound_eq_ok {self : GuiVoterSessionV1 prover} {artifacts : GuiElectionArtifactsV1} :
    self.ensureBound artifacts = .ok () ↔ self.electionBinding = .fromArtifacts artifacts := by
  unfold ensureBound
  split
  · next hbound => exact iff_of_true rfl hbound
  · next hbound => exact iff_of_false (fun h ↦ (by cases h)) hbound

omit [DecidableEq Scalar] [AddCommGroup crate.dalekV4.Point]
  [Module Scalar crate.dalekV4.Point] in
/-- The operation begins exactly in an open election, for a session that may prepare. -/
theorem beginPreparationOperation_eq_ok {session : GuiVoterSessionV1 prover}
    {lifecycleState : ElectionLifecycleStateV1}
    {begun : GuiVoterPreparationTokenV1 × GuiVoterSessionV1 prover} :
    session.beginPreparationOperation lifecycleState = .ok begun ↔
      session.castLock.isLocked = false ∧ lifecycleState = .opened ∧
      session.eligibility = .eligible ∧ session.selection.isSome = true ∧
      begun = (⟨saturatingSucc session.preparationGeneration, session.electionBinding,
          session.credentialGeneration, session.selectionRevision⟩,
        { session with
          preparationGeneration := saturatingSucc session.preparationGeneration
          preparedBallot := .preparing (saturatingSucc session.preparationGeneration) }) := by
  unfold beginPreparationOperation ensureNotCastLocked
  cases hlocked : session.castLock.isLocked with
  | true => simp [bind, Except.bind]
  | false =>
    cases hcan : session.canPrepareBallot lifecycleState with
    | false =>
      simp only [canPrepareBallot, Bool.and_eq_false_iff, decide_eq_false_iff_not] at hcan
      simp only [bind, Except.bind, Bool.not_false, if_true, Bool.false_eq_true, if_false,
        reduceCtorEq, true_and, false_iff]
      rintro ⟨hopened, heligible, hselected, -⟩
      rcases hcan with (hcan | hcan) | hcan
      · exact hcan hopened
      · exact hcan heligible
      · rw [hselected] at hcan
        cases hcan
    | true =>
      simp only [canPrepareBallot, Bool.and_eq_true, decide_eq_true_eq] at hcan
      obtain ⟨⟨hopened, heligible⟩, hselected⟩ := hcan
      simp only [bind, Except.bind, pure, Except.pure, Bool.not_true, Bool.false_eq_true,
        if_false, Except.ok.injEq, hopened, heligible, hselected, true_and]
      exact eq_comm

/-- Work that comes to an end is the proof work for the session's credential and selection. -/
theorem of_caughtWork {self : GuiVoterSessionV1 prover} {provider : HashProvider}
    {artifacts : GuiElectionArtifactsV1} {draws : Option prover.Randomness}
    {canonicalBytes : Bytes} {summary : GuiPreparedBallotSummaryV1}
    (h : self.caughtWork provider artifacts draws = .ok (canonicalBytes, summary)) :
    ∃ randomness credential payload digest, draws = some randomness ∧
      self.credential = some credential ∧ self.selection = some payload ∧
      proveAndVerify provider artifacts credential.secretKey payload randomness =
        .ok (canonicalBytes, digest) ∧
      summary = self.summaryOf artifacts payload canonicalBytes digest := by
  cases draws with
  | none => cases h
  | some randomness =>
    simp only [caughtWork, prepareWork] at h
    split at h
    · cases h
    next credential hcredential =>
    split at h
    · cases h
    next payload hselection =>
    simp only [bind_eq_ok] at h
    obtain ⟨⟨bytes, digest⟩, hproved, hpure⟩ := h
    cases hpure
    exact ⟨randomness, credential, payload, digest, rfl, hcredential, hselection, hproved, rfl⟩

/-- What a successful `prepare_ballot` has done: the proof work for the session's credential and
selection, whose bytes are now ready. -/
theorem of_prepareBallot {session finished : GuiVoterSessionV1 prover} {provider : HashProvider}
    {artifacts : GuiElectionArtifactsV1} {lifecycleState : ElectionLifecycleStateV1}
    {draws : Option prover.Randomness} {status : GuiPreparedBallotStatusV1}
    (h : session.prepareBallot provider artifacts lifecycleState draws =
      (.ok status, finished)) :
    ∃ randomness credential payload canonicalBytes digest summary,
      session.CanPrepare artifacts credential payload ∧
      proveAndVerify provider artifacts credential.secretKey payload randomness =
        .ok (canonicalBytes, digest) ∧
      finished.preparedBallot = .ready canonicalBytes summary := by
  unfold prepareBallot at h
  split at h
  · cases h
  next hbound =>
  split at h
  · cases h
  next token started hbegin =>
  split at h
  · cases h
  next canonicalBytes summary hwork =>
  split at h
  · obtain ⟨hunlocked, -, heligible, -, hbegun⟩ := beginPreparationOperation_eq_ok.mp hbegin
    cases hbegun
    cases h
    obtain ⟨randomness, credential, payload, digest, -, hcredential, hselection, hproved, -⟩ :=
      of_caughtWork hwork
    replace hcredential : session.credential = some credential := hcredential
    refine ⟨randomness, credential, payload, canonicalBytes, digest, summary,
      ⟨ensureBound_eq_ok.mp hbound, hunlocked, hcredential, ?_, hselection⟩, hproved, rfl⟩
    simpa only [eligibility, hcredential] using heligible
  · cases h

/-- In an open election the proof work is all that `prepare_ballot` can fail on. -/
theorem exists_prepareBallot {session : GuiVoterSessionV1 prover} {provider : HashProvider}
    {artifacts : GuiElectionArtifactsV1} {credential : GuiVoterCredentialSessionV1 prover}
    {payload : ApprovalBallotPayload} (hcan : session.CanPrepare artifacts credential payload)
    {randomness : prover.Randomness} {canonicalBytes : Bytes} {digest : Bytes32}
    (hproved : proveAndVerify provider artifacts credential.secretKey payload randomness =
      .ok (canonicalBytes, digest)) :
    ∃ status finished, session.prepareBallot provider artifacts .opened (some randomness) =
      (.ok status, finished) := by
  have hbound : session.ensureBound artifacts = .ok () := ensureBound_eq_ok.mpr hcan.bound
  have heligible : session.eligibility = .eligible := by
    simp only [eligibility, hcan.hasCredential, hcan.isEligible]
  have hbegin := beginPreparationOperation_eq_ok.mpr ⟨hcan.unlocked, rfl, heligible,
    by rw [hcan.hasSelection]; rfl, rfl⟩
  simp only [prepareBallot, hbound, hbegin, caughtWork, prepareWork, hcan.hasCredential,
    hcan.hasSelection,
    hproved, matchesToken, decide_true, Bool.and_self, if_true, bind, Except.bind, pure,
    Except.pure]
  exact ⟨_, _, rfl⟩

end GuiVoterSessionV1

namespace LoadedElection

variable {provider : HashProvider} {artifacts : GuiElectionArtifactsV1}
  {scopeGenerator : crate.dalekV4.Point}

/-- Every registered voter's ballot counts, once. In a loaded election whose registry keys are
points: a proof is made exactly for a registered secret key, whatever the payload and the
randomness; a session with a registered, eligible credential prepares its ballot; whatever
`prepare_ballot` makes ready counts; and the nullifier it counts under is the secret key's own,
another for every other public key. -/
theorem registered_ballot_counts_once
    (election : LoadedElection prover provider artifacts scopeGenerator) :
    ∃ verifier,
      buildTariTriptychVerifierFromRegistryV1 crate artifacts.registry provider = .ok verifier ∧
      (∀ payload : ApprovalBallotPayload, ApprovalBallotPayload.Fits artifacts.candidates
          artifacts.manifest.fields.approvalLimits payload.selections →
        (∃ statement, reconstructApprovalProofStatement artifacts.manifest payload provider =
            .ok statement ∧
          ∀ (secretKey : TariTriptychSecretKeyV1 prover) (randomness : prover.Randomness),
            (∃ proof, proveTariTriptychPrototypeV1 prover statement verifier secretKey
              randomness = .ok proof) ↔ IsRegistered artifacts.registry secretKey) ∧
        (∀ (session : GuiVoterSessionV1 prover) (credential : GuiVoterCredentialSessionV1 prover)
            (randomness : prover.Randomness),
          session.CanPrepare artifacts credential payload →
          IsRegistered artifacts.registry credential.secretKey →
          ∃ status finished, session.prepareBallot provider artifacts .opened
            (some randomness) = (.ok status, finished)) ∧
        (∀ (session finished : GuiVoterSessionV1 prover)
            (lifecycleState : ElectionLifecycleStateV1) (draws : Option prover.Randomness)
            (status : GuiPreparedBallotStatusV1),
          session.selection = some payload →
          session.prepareBallot provider artifacts lifecycleState draws =
            (.ok status, finished) →
          ∃ credential canonicalBytes summary, session.credential = some credential ∧
            IsRegistered artifacts.registry credential.secretKey ∧
            finished.preparedBallot = .ready canonicalBytes summary ∧
            BallotCounts crate provider artifacts verifier canonicalBytes payload
              (nullifierOf scopeGenerator credential.secretKey))) ∧
      ∀ secretKey other : TariTriptychSecretKeyV1 prover,
        secretKey.governancePublicKey ≠ other.governancePublicKey →
        nullifierOf scopeGenerator secretKey ≠ nullifierOf scopeGenerator other := by
  obtain ⟨verifier, points, hbuild, hkeys, hsettings⟩ := election.exists_settings
  refine ⟨verifier, hbuild, ?_, ?_⟩
  · intro payload hfits
    obtain ⟨statement, hstatement, hmanifestHash, hregistry, setting⟩ := hsettings payload hfits
    refine ⟨⟨statement, hstatement, ?_⟩, ?_, ?_⟩
    · intro secretKey randomness
      rw [isRegistered_iff hkeys]
      constructor
      · rintro ⟨proof, hproof⟩
        exact setting.registered_of_prove hproof
      · intro hregistered
        obtain ⟨scalar, hscalar, -⟩ := secretKey.exists_scalar
        obtain ⟨proof, hproof, -⟩ :=
          setting.exists_prove hscalar (registered_key hscalar hregistered) randomness
        exact ⟨proof, hproof⟩
    · intro session credential randomness hcan hregistered
      obtain ⟨canonicalBytes, digest, hproved, -⟩ :=
        election.exists_proveAndVerify hbuild hfits hstatement hmanifestHash hregistry setting
          ((isRegistered_iff hkeys _).mp hregistered) randomness
      exact GuiVoterSessionV1.exists_prepareBallot hcan hproved
    · intro session finished lifecycleState draws status hselection hprepared
      obtain ⟨randomness, credential, same, canonicalBytes, digest, summary, hcan,
        hproved, hready⟩ :=
        GuiVoterSessionV1.of_prepareBallot hprepared
      have hsame := hcan.hasSelection
      rw [hselection] at hsame
      cases hsame
      have hregistered := registered_of_proveAndVerify hbuild hstatement setting hproved
      obtain ⟨bytes, _, hproved', hcounts⟩ :=
        election.exists_proveAndVerify hbuild hfits hstatement hmanifestHash hregistry setting
          hregistered randomness
      rw [hproved] at hproved'
      cases hproved'
      exact ⟨credential, canonicalBytes, summary, hcan.hasCredential,
        (isRegistered_iff hkeys _).mpr hregistered, hready, hcounts⟩
  · intro secretKey other hne hsame
    obtain ⟨scalar, hscalar, -⟩ := secretKey.exists_scalar
    obtain ⟨otherScalar, hother, -⟩ := other.exists_scalar
    simp only [nullifierOf, hscalar, hother] at hsame
    have heq := linkingNullifier_injective election.laws election.generator_ne_zero hsame
    apply hne
    simp only [TariTriptychSecretKeyV1.governancePublicKey, hscalar, hother, heq]

end LoadedElection

end

/-! ### A sample voter

An election over the integers modulo seven: points and scalars are residues, a point is encoded by
thirty-two times its residue, and a proof is the residue of the secret. Three keys are registered,
so that the ring is padded to four. -/

namespace VoterSample

open Registry
open Verifier.Sample (provider candidates candidateId)

/-- Residues modulo seven. -/
abbrev Residue : Type := ZMod 7

instance fact_prime_seven : Fact (Nat.Prime 7) := ⟨by decide⟩

/-- The encoding of a residue. -/
def compress (residue : Residue) : Bytes32 := Bytes32.replicate (UInt8.ofNat residue.val)

/-- The residue of an encoding. -/
def decompress (encoded : Bytes32) : Option Residue :=
  (List.finRange 7).find? fun residue : Residue ↦ decide (compress residue = encoded)

/-- The group of residues. -/
def group : RistrettoGroup := ⟨Residue, decompress, compress, fun residue ↦ decide (residue = 0)⟩

/-- Parameters are the size of the ring and the two generators. -/
structure Parameters where
  size : Nat
  generator : Residue
  scopeGenerator : Residue

/-- A statement has parameters, ring and linking tag. -/
structure Statement where
  parameters : Parameters
  ring : List Residue
  linkingTag : Residue

/-- Pads the keys with the last one. -/
def pad (keys : List Residue) (parameters : Parameters) : Option (List Residue) :=
  match keys.getLast? with
  | none => none
  | some last =>
    if keys.length ≤ parameters.size then
      some (keys ++ List.replicate (parameters.size - keys.length) last)
    else none

/-- A proof is accepted when its residue is a secret of the ring with the linking tag. -/
def verify (statement : Statement) (secret : Residue) : Bool :=
  decide (secret⁻¹ * statement.parameters.scopeGenerator = statement.linkingTag) &&
    decide (secret * statement.parameters.generator ∈ statement.ring)

/-- The crate over residues. -/
def crate : TriptychCrate where
  dalek := group
  dalekV4 := group
  basepoint := (1 : Residue)
  isBasepoint := fun residue : Residue ↦ decide (residue = 1)
  hashToPoint _ := (3 : Residue)
  Parameters := Parameters
  InputSet := List Residue
  Statement := Statement
  Proof := Residue
  Transcript := Unit
  newParameters base exponent generator scopeGenerator :=
    some ⟨base ^ exponent, generator, scopeGenerator⟩
  newInputSet := pad
  newStatement parameters ring tag :=
    if ring.length = parameters.size ∧ (0 : Residue) ∉ ring then some ⟨parameters, ring, tag⟩
    else none
  proofFromBytes bytes := bytes.head?.bind fun byte ↦ decompress (Bytes32.replicate byte)
  proofToBytes := fun residue : Residue ↦ [UInt8.ofNat residue.val]
  newTranscript _ _ _ := ()
  verify statement proof _ := verify statement proof
  verifyBatch statements proofs _ :=
    (statements.zip proofs).all fun item ↦ verify item.1 item.2
  verifyBatchWithFullBlame statements proofs _ :=
    if (statements.zip proofs).all fun item ↦ verify item.1 item.2 then .ok ()
    else .error .other

instance : AddCommGroup crate.dalekV4.Point := inferInstanceAs (AddCommGroup Residue)
instance : Module Residue crate.dalekV4.Point := inferInstanceAs (Module Residue Residue)

/-- The prover over residues gives away the secret. -/
def prover : TriptychProverCrate crate Residue where
  Randomness := Unit
  scalarFromCanonicalBytes := decompress
  getN parameters := parameters.size
  getG parameters := parameters.generator
  getU parameters := parameters.scopeGenerator
  getKeys ring := ring
  getParams statement := statement.parameters
  proveWithRng witness _ _ _ := some witness.secret

private theorem decompress_compress : ∀ residue : Residue,
    decompress (compress residue) = some residue := by
  decide +kernel

private theorem proofFromBytes_proofToBytes : ∀ residue : Residue,
    crate.proofFromBytes (crate.proofToBytes residue) = some residue :=
  decompress_compress

private theorem isIdentity_iff (residue : Residue) :
    group.isIdentity residue = true ↔ residue = 0 :=
  decide_eq_true_iff

private theorem dalek_agrees (residue : Residue) (h : residue ≠ 0) :
    ∃ same, group.decompress (group.compress residue) = some same ∧
      group.isIdentity same = false ∧ group.compress same = group.compress residue :=
  ⟨residue, decompress_compress residue, decide_eq_false h, rfl⟩

private theorem pad_eq {keys : List Residue} {last : Residue} {parameters : Parameters}
    (hlast : keys.getLast? = some last) (hlength : keys.length ≤ parameters.size) :
    pad keys parameters =
      some (keys ++ List.replicate (parameters.size - keys.length) last) := by
  simp only [pad, hlast, hlength, if_true]

private theorem verify_of_witness {witness : TriptychWitness crate Residue} {ring : List Residue}
    {tag : Residue} {statement : Statement}
    (hmade : crate.newStatement witness.parameters ring tag = some statement)
    (hkey : ring[witness.index]? = some (witness.computeVerificationKey prover))
    (htag : tag = witness.computeLinkingTag prover) :
    verify statement witness.secret = true := by
  obtain ⟨-, hstatement⟩ := Option.ite_none_right_eq_some.mp hmade
  cases hstatement
  rw [verify, Bool.and_eq_true, decide_eq_true_iff, decide_eq_true_iff]
  exact ⟨htag.symm, List.mem_of_getElem? hkey⟩

theorem laws : TriptychProverLaws prover where
  isIdentity_iff := isIdentity_iff
  decompress_compress := decompress_compress
  dalek_agrees := dalek_agrees
  newParameters _ _ _ _ _ _ _ := ⟨_, rfl, rfl, rfl, rfl⟩
  newInputSet _ _ _ hlast hlength := ⟨_, pad_eq hlast hlength, rfl⟩
  newStatement _ _ _ hlength hzero := ⟨_, if_pos ⟨hlength, hzero⟩, rfl⟩
  prove _ _ _ _ _ _ hmade hkey htag := ⟨_, rfl, verify_of_witness hmade hkey htag⟩
  proofBytes _ _ _ _ _ _ _ proof _ _ :=
    ⟨proofFromBytes_proofToBytes proof, List.cons_ne_nil _ _, Nat.le_of_ble_eq_true rfl⟩

/-- A registered residue. -/
def registryEntry (residue : Residue) : RegistryEntry :=
  ⟨⟨(compress residue).toBytes, List.ne_nil_of_length_eq_add_one (compress residue).length_eq,
    (compress residue).length_eq.trans_le (by decide)⟩⟩

/-- The registry of three keys. -/
def registry : RegistrySnapshot where
  entries := [registryEntry 2, registryEntry 5, registryEntry 6]
  nonempty := List.cons_ne_nil _ _
  length_le := by decide
  ascending := by
    unfold Ascending
    decide +kernel

/-- Commitment to the registry. -/
def registryCommitment : RegistryCommitment :=
  (registry.canonicalCommitment provider).toOption.getD default

/-- One approval, no abstention. -/
def manifest : ElectionManifest := .v1
  { Verifier.Sample.manifest.fields with
    registryCommitment := registryCommitment
    valid := by decide +kernel }

/-- Hash of the manifest. -/
def manifestHash : ManifestHash := (manifest.canonicalHash provider).toOption.getD default

/-- The election, as it is loaded. -/
def artifacts : GuiElectionArtifactsV1 where
  manifest := manifest
  registry := registry
  candidates := candidates
  manifestHash := manifestHash
  registryCommitment := registryCommitment
  candidateSetCommitment := manifest.fields.candidateSetCommitment

/-- The registered secret key. -/
def secretKey : TariTriptychSecretKeyV1 prover where
  bytes := compress 5
  valid := ⟨5, decompress_compress 5, by decide⟩

/-- A vote for the second candidate. -/
def payload : ApprovalBallotPayload := ⟨[candidateId 2], List.pairwise_singleton _ _⟩

/-- An eligible voter who has chosen. -/
def session : GuiVoterSessionV1 prover where
  electionBinding := .fromArtifacts artifacts
  credential := some ⟨secretKey, .generated, compress 5, .eligible⟩
  selection := some payload
  credentialGeneration := 1
  selectionRevision := 1
  preparationGeneration := 0
  preparedBallot := .none
  castLock := .notCast

private theorem bound : GuiElectionArtifactsV1.bindDecoded ⟨crate, provider, id⟩
    artifacts.manifest artifacts.registry artifacts.candidates = .ok artifacts := by
  decide +kernel

/-- The generator of every scope. -/
def scopeGenerator : crate.dalekV4.Point := (3 : Residue)

theorem election : LoadedElection prover provider artifacts scopeGenerator where
  laws := laws
  bound := ⟨id, bound⟩
  keys := by
    have hentries : artifacts.registry.entries = [(2 : Residue), 5, 6].map registryEntry := rfl
    intro entry hentry
    rw [hentries] at hentry
    obtain ⟨residue, hresidue, rfl⟩ := List.mem_map.mp hentry
    have hnonzero : ∀ residue ∈ [(2 : Residue), 5, 6], residue ≠ 0 := by decide
    exact ⟨residue, decide_eq_false (hnonzero residue hresidue), rfl⟩
  generator := by
    obtain ⟨preimage, hpreimage⟩ : ∃ preimage, scopeGeneratorPreimageV1
        artifacts.manifest.fields.protocolVersion artifacts.manifest.fields.proofSuiteId
        (deriveElectionScope provider artifacts.manifestHash).toBytes = .ok preimage := by
      simp only [scopeGeneratorPreimageV1, bind_eq_ok, refuseIf_eq_ok]
      exact ⟨_, (), by decide +kernel, (), by decide +kernel, rfl⟩
    rw [deriveScopeGeneratorV1, hpreimage]
    rfl

private theorem fits : ApprovalBallotPayload.Fits artifacts.candidates
    artifacts.manifest.fields.approvalLimits payload.selections where
  maximum_le := by decide +kernel
  ascending := List.pairwise_singleton _ _
  known := by decide +kernel
  abstention := by decide +kernel
  count := by decide +kernel

private theorem registered : IsRegistered artifacts.registry secretKey :=
  ⟨registryEntry 5, List.mem_cons_of_mem _ List.mem_cons_self, compress 5, rfl, rfl⟩

end VoterSample

/-- The sample voter's ballot is prepared and counts. -/
theorem registered_ballot_counts_once_sample :
    ∃ verifier status finished canonicalBytes summary,
      VoterSample.session.prepareBallot Verifier.Sample.provider VoterSample.artifacts .opened
        (some ()) = (.ok status, finished) ∧
      finished.preparedBallot = .ready canonicalBytes summary ∧
      BallotCounts VoterSample.crate Verifier.Sample.provider VoterSample.artifacts verifier
        canonicalBytes VoterSample.payload
        (nullifierOf VoterSample.scopeGenerator VoterSample.secretKey) := by
  obtain ⟨verifier, -, hpayload, -⟩ := VoterSample.election.registered_ballot_counts_once
  obtain ⟨-, hprepare, hcounts⟩ := hpayload VoterSample.payload VoterSample.fits
  obtain ⟨status, finished, hprepared⟩ := hprepare VoterSample.session _ ()
    ⟨rfl, rfl, rfl, rfl, rfl⟩ VoterSample.registered
  obtain ⟨credential, canonicalBytes, summary, hcredential, -, hready, hcounted⟩ :=
    hcounts VoterSample.session finished .opened (some ()) status rfl hprepared
  cases hcredential
  exact ⟨verifier, status, finished, canonicalBytes, summary, hprepared, hready, hcounted⟩

end PrivateBallot.GuiCore
