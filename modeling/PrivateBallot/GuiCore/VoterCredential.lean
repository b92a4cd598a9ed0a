import PrivateBallot.GuiCore.VoterSession

/-!
# Voter credentials

Library `GuiCore`. `crates/gui-core/src/voter_credential.rs` and
`crates/gui-core/src/voter_session.rs:485-625,705-715`: a credential, its public status, and how it
moves into a voter session and out of it again. What the random number generator and the credential
files yield is an argument.
-/

namespace PrivateBallot.GuiCore

open PrivateBallot.Base PrivateBallot.Protocol PrivateBallot.Ballot PrivateBallot.Registry
open PrivateBallot.Crypto PrivateBallot.Verifier

/-! ### Errors -/

def credentialPublicKeyMismatch : GuiCoreError :=
  ⟨"GUI_CREDENTIAL_PUBLIC_KEY_MISMATCH", .bindingMismatch, some "credential-container",
    "the decrypted credential does not match the credential file public key"⟩

def credentialNotLoaded : GuiCoreError :=
  ⟨"GUI_CREDENTIAL_NOT_LOADED", .invalidLifecycleTransition, some "credential",
    "no voter credential is currently loaded"⟩

def credentialAlreadyLoaded : GuiCoreError :=
  ⟨"GUI_CREDENTIAL_ALREADY_LOADED", .invalidLifecycleTransition, some "credential",
    "a different voter credential is already loaded; clear it before switching"⟩

/-! ### Status -/

/-- `session_only` -/
def GuiVoterCredentialOriginV1.sessionOnly : GuiVoterCredentialOriginV1 → Bool
  | generated | importedSession | memoryOnly => true
  | durableCreated | unlockedSaved | importedSaved => false

/-- `saved_locally` -/
def GuiVoterCredentialOriginV1.savedLocally : GuiVoterCredentialOriginV1 → Bool
  | durableCreated | unlockedSaved | importedSaved => true
  | generated | importedSession | memoryOnly => false

/-- `permits_next_stage` -/
def GuiVoterEligibilityV1.permitsNextStage : GuiVoterEligibilityV1 → Bool
  | eligible => true
  | notChecked | notEligible => false

/-- `GuiVoterCredentialStatusV1` without its fixed texts and abbreviations. -/
structure GuiVoterCredentialStatusV1 where
  credentialLoaded : Bool
  credentialOrigin : Option GuiVoterCredentialOriginV1
  publicGovernanceKeyHex : Option Bytes
  eligibility : GuiVoterEligibilityV1
  canContinue : Bool
  sessionOnly : Bool
  savedLocally : Bool
deriving DecidableEq

/-- `GuiVoterCredentialStatusV1::unloaded` -/
def GuiVoterCredentialStatusV1.unloaded : GuiVoterCredentialStatusV1 :=
  ⟨false, none, none, .notChecked, false, true, false⟩

section

variable {crate : TriptychCrate} {Scalar : Type} [Field Scalar] [DecidableEq Scalar]
  [AddCommGroup crate.dalekV4.Point] [Module Scalar crate.dalekV4.Point]
  {prover : TriptychProverCrate crate Scalar}

/-- `VoterGovernanceCredentialV1` -/
abbrev VoterGovernanceCredentialV1 (prover : TriptychProverCrate crate Scalar) :=
  TariTriptychSecretKeyV1 prover

namespace VoterGovernanceCredentialV1

/-- `generate`, given what the generator of the operating system yields. -/
def generate (drawn : Result (TariTriptychSecretKeyV1 prover)) :
    GuiResult (VoterGovernanceCredentialV1 prover) :=
  ofProtocol "voter-credential" drawn

/-- `public_key_bytes` -/
def publicKeyBytes (self : VoterGovernanceCredentialV1 prover) : GuiResult Bytes32 :=
  ofProtocol "voter-credential" self.governancePublicKey

/-- `pending_status_with_origin` -/
def pendingStatusWithOrigin (self : VoterGovernanceCredentialV1 prover)
    (origin : GuiVoterCredentialOriginV1) : GuiResult GuiVoterCredentialStatusV1 := do
  let publicKey ← publicKeyBytes self
  pure ⟨true, some origin, some (toLowerHex publicKey.toBytes), .notChecked, false,
    origin.sessionOnly, origin.savedLocally⟩

/-- Every credential has a public key. -/
theorem exists_publicKeyBytes (self : VoterGovernanceCredentialV1 prover) :
    ∃ publicKey, publicKeyBytes self = .ok publicKey := by
  obtain ⟨scalar, hscalar, -⟩ := TariTriptychSecretKeyV1.exists_scalar self
  refine ⟨crate.dalekV4.compress (scalar • crate.basepoint), ?_⟩
  unfold publicKeyBytes TariTriptychSecretKeyV1.governancePublicKey
  rw [hscalar]
  rfl

end VoterGovernanceCredentialV1

namespace GuiVoterCredentialSessionV1

/-- `from_credential` -/
def fromCredential (credential : VoterGovernanceCredentialV1 prover)
    (origin : GuiVoterCredentialOriginV1) (registry : RegistrySnapshot) :
    GuiResult (GuiVoterCredentialSessionV1 prover) := do
  let publicKey ← VoterGovernanceCredentialV1.publicKeyBytes credential
  pure ⟨credential, origin, publicKey, eligibilityForPublicKey registry publicKey⟩

/-- `generate_for` -/
def generateFor (drawn : Result (TariTriptychSecretKeyV1 prover))
    (artifacts : GuiElectionArtifactsV1) : GuiResult (GuiVoterCredentialSessionV1 prover) := do
  let credential ← VoterGovernanceCredentialV1.generate drawn
  fromCredential credential .generated artifacts.registry

/-- `status` -/
def status (self : GuiVoterCredentialSessionV1 prover) : GuiVoterCredentialStatusV1 :=
  ⟨true, some self.origin, some (toLowerHex self.publicKey.toBytes), self.eligibility,
    self.eligibility.permitsNextStage, self.origin.sessionOnly, self.origin.savedLocally⟩

theorem exists_fromCredential (credential : VoterGovernanceCredentialV1 prover)
    (origin : GuiVoterCredentialOriginV1) (registry : RegistrySnapshot) :
    ∃ session, fromCredential credential origin registry = .ok session ∧
      session.secretKey = credential := by
  obtain ⟨publicKey, hkey⟩ := VoterGovernanceCredentialV1.exists_publicKeyBytes credential
  refine ⟨⟨credential, origin, publicKey, eligibilityForPublicKey registry publicKey⟩, ?_, rfl⟩
  unfold fromCredential
  rw [hkey]
  rfl

end GuiVoterCredentialSessionV1

namespace GuiVoterSessionV1

/-- `new` -/
def new (prover : TriptychProverCrate crate Scalar) (artifacts : GuiElectionArtifactsV1) :
    GuiVoterSessionV1 prover where
  electionBinding := .fromArtifacts artifacts
  credential := none
  selection := none
  credentialGeneration := 0
  selectionRevision := 0
  preparationGeneration := 0
  preparedBallot := .none
  castLock := .notCast

/-- `credential_status` -/
def credentialStatus (self : GuiVoterSessionV1 prover) : GuiVoterCredentialStatusV1 :=
  match self.credential with
  | some credential => credential.status
  | none => .unloaded

/-- `credential_public_key_hex` -/
def credentialPublicKeyHex (self : GuiVoterSessionV1 prover) : Option Bytes :=
  self.credentialStatus.publicGovernanceKeyHex

/-- A session whose credential has changed. -/
def withCredential (self : GuiVoterSessionV1 prover)
    (credential : Option (GuiVoterCredentialSessionV1 prover)) (reason : String) :
    GuiVoterSessionV1 prover :=
  { self with
    credential := credential
    credentialGeneration := saturatingSucc self.credentialGeneration }.invalidatePrepared reason

/-- `install_credential_with_origin`, with the session it leaves. -/
def installCredentialWithOrigin (self : GuiVoterSessionV1 prover)
    (credential : VoterGovernanceCredentialV1 prover) (origin : GuiVoterCredentialOriginV1)
    (artifacts : GuiElectionArtifactsV1) :
    GuiResult (GuiVoterCredentialStatusV1 × GuiVoterSessionV1 prover) := do
  self.ensureBound artifacts
  let credential ← GuiVoterCredentialSessionV1.fromCredential credential origin artifacts.registry
  pure (credential.status, self.withCredential (some credential)
    "Credential changed; prepared ballot state was cleared.")

/-- `generate_credential`, with the session it leaves. -/
def generateCredential (self : GuiVoterSessionV1 prover)
    (drawn : Result (TariTriptychSecretKeyV1 prover)) (artifacts : GuiElectionArtifactsV1) :
    GuiResult (GuiVoterCredentialStatusV1 × GuiVoterSessionV1 prover) := do
  self.ensureBound artifacts
  let credential ← GuiVoterCredentialSessionV1.generateFor drawn artifacts
  pure (credential.status, self.withCredential (some credential)
    "Credential changed; prepared ballot state was cleared.")

/-- `take_credential_with_origin`, with the session it leaves. -/
def takeCredentialWithOrigin (self : GuiVoterSessionV1 prover) :
    Option (VoterGovernanceCredentialV1 prover × GuiVoterCredentialOriginV1) ×
      GuiVoterSessionV1 prover :=
  match self.credential with
  | none => (none, self)
  | some credential => (some (credential.secretKey, credential.origin),
      self.withCredential none "Election changed; prepared ballot state was cleared.")

/-- `set_credential_origin`, with the session it leaves. -/
def setCredentialOrigin (self : GuiVoterSessionV1 prover) (origin : GuiVoterCredentialOriginV1) :
    GuiVoterCredentialStatusV1 × GuiVoterSessionV1 prover :=
  match self.credential with
  | none => (.unloaded, self)
  | some credential =>
    let changed := { credential with origin := origin }
    (changed.status, { self with credential := some changed })

end GuiVoterSessionV1

end

/-! ### The secret that a session holds -/

namespace GuiVoterSessionV1

section

variable {crate : TriptychCrate} {Scalar : Type} [Field Scalar]
  {prover : TriptychProverCrate crate Scalar}

/-- The secret key of the loaded credential. For statements. -/
def secret (self : GuiVoterSessionV1 prover) : Option (VoterGovernanceCredentialV1 prover) :=
  self.credential.map (·.secretKey)

theorem credentialPublicKeyHex_eq_none {self : GuiVoterSessionV1 prover} :
    self.credentialPublicKeyHex = none ↔ self.secret = none := by
  unfold credentialPublicKeyHex credentialStatus secret
  cases self.credential with
  | none => exact ⟨fun _ ↦ rfl, fun _ ↦ rfl⟩
  | some credential => exact ⟨fun h ↦ (by cases h), fun h ↦ (by cases h)⟩

@[simp] theorem secret_withCredential (self : GuiVoterSessionV1 prover)
    (credential : Option (GuiVoterCredentialSessionV1 prover)) (reason : String) :
    (self.withCredential credential reason).secret = credential.map (·.secretKey) := rfl

@[simp] theorem secret_setCredentialOrigin (self : GuiVoterSessionV1 prover)
    (origin : GuiVoterCredentialOriginV1) :
    (self.setCredentialOrigin origin).2.secret = self.secret := by
  unfold setCredentialOrigin secret
  cases hcredential : self.credential with
  | none =>
    dsimp only
    rw [hcredential]
  | some credential => rfl

/-- What is taken is what was held, and nothing is left. -/
theorem takeCredentialWithOrigin_spec (self : GuiVoterSessionV1 prover) :
    self.takeCredentialWithOrigin.1.map Prod.fst = self.secret ∧
      self.takeCredentialWithOrigin.2.secret = none := by
  unfold takeCredentialWithOrigin secret
  cases hcredential : self.credential with
  | none =>
    dsimp only
    rw [hcredential]
    exact ⟨rfl, rfl⟩
  | some credential => exact ⟨rfl, rfl⟩

end

section

variable {crate : TriptychCrate} {Scalar : Type} [Field Scalar] [DecidableEq Scalar]
  [AddCommGroup crate.dalekV4.Point] [Module Scalar crate.dalekV4.Point]
  {prover : TriptychProverCrate crate Scalar}

/-- What is installed is what the session then holds. -/
theorem secret_of_install {self installed : GuiVoterSessionV1 prover}
    {credential : VoterGovernanceCredentialV1 prover} {origin : GuiVoterCredentialOriginV1}
    {artifacts : GuiElectionArtifactsV1} {status : GuiVoterCredentialStatusV1}
    (h : self.installCredentialWithOrigin credential origin artifacts = .ok (status, installed)) :
    installed.secret = some credential := by
  obtain ⟨_, -, h⟩ := bind_eq_ok.mp h
  obtain ⟨session, hsession, h⟩ := bind_eq_ok.mp h
  cases h
  obtain ⟨same, hsame, hsecret⟩ := GuiVoterCredentialSessionV1.exists_fromCredential credential
    origin artifacts.registry
  rw [hsession] at hsame
  cases hsame
  rw [secret_withCredential, Option.map_some, hsecret]

/-- A credential is always installed in a new session of the same election. -/
theorem exists_install_new (credential : VoterGovernanceCredentialV1 prover)
    (origin : GuiVoterCredentialOriginV1) (artifacts : GuiElectionArtifactsV1) :
    ∃ status installed, (new prover artifacts).installCredentialWithOrigin credential origin
      artifacts = .ok (status, installed) := by
  obtain ⟨session, hsession, -⟩ := GuiVoterCredentialSessionV1.exists_fromCredential credential
    origin artifacts.registry
  refine ⟨_, _, bind_eq_ok.mpr ⟨(), if_pos rfl, bind_eq_ok.mpr ⟨session, hsession, rfl⟩⟩⟩

/-- A credential that is drawn is always generated in a session of the same election. -/
theorem exists_generate {self : GuiVoterSessionV1 prover} {artifacts : GuiElectionArtifactsV1}
    (hbound : self.electionBinding = .fromArtifacts artifacts)
    (credential : VoterGovernanceCredentialV1 prover) :
    ∃ status generated, self.generateCredential (.ok credential) artifacts =
      .ok (status, generated) ∧ generated.electionBinding = self.electionBinding := by
  obtain ⟨session, hsession, -⟩ := GuiVoterCredentialSessionV1.exists_fromCredential credential
    .generated artifacts.registry
  exact ⟨_, _, bind_eq_ok.mpr ⟨(), if_pos hbound, bind_eq_ok.mpr
    ⟨session, bind_eq_ok.mpr ⟨credential, rfl, hsession⟩, rfl⟩⟩, rfl⟩

/-- What is generated is what the session then holds. -/
theorem secret_of_generate {self generated : GuiVoterSessionV1 prover}
    {drawn : Result (TariTriptychSecretKeyV1 prover)} {artifacts : GuiElectionArtifactsV1}
    {status : GuiVoterCredentialStatusV1}
    (h : self.generateCredential drawn artifacts = .ok (status, generated)) :
    ∃ credential, drawn = .ok credential ∧ generated.secret = some credential := by
  obtain ⟨_, -, h⟩ := bind_eq_ok.mp h
  obtain ⟨session, hsession, h⟩ := bind_eq_ok.mp h
  cases h
  obtain ⟨credential, hdrawn, hsession⟩ := bind_eq_ok.mp hsession
  obtain ⟨same, hsame, hsecret⟩ := GuiVoterCredentialSessionV1.exists_fromCredential credential
    .generated artifacts.registry
  rw [hsession] at hsame
  cases hsame
  refine ⟨credential, (ofProtocol_eq_ok _ _ _).mp hdrawn, ?_⟩
  rw [secret_withCredential, Option.map_some, hsecret]

end

end GuiVoterSessionV1

end PrivateBallot.GuiCore
