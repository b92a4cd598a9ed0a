import PrivateBallot.GuiCore.VoterCredential
import PrivateBallot.Shell.ElectionStatusCommands

/-!
# Commands that move a voter's credential

Library `Shell`. `gui/src-tauri/src/lib.rs:366-412,575-893,1217-1438,1520-1606,3164-3194,3313-3380,
3548-3616,3697-3727`: the active election, the voter session and the pending credential of the
shell, and the commands that generate, create, unlock or import a credential and that load, resume,
freeze or unload an election. What comes from files, passphrases and the random number generator is
an argument of a command.
-/

namespace PrivateBallot.Shell

open PrivateBallot.Base PrivateBallot.Protocol PrivateBallot.GuiCore PrivateBallot.Crypto

/-! ### Errors -/

/-- `CommandError::no_draft` -/
def noDraft : GuiCoreError :=
  ⟨"GUI_NO_ACTIVE_DRAFT", .invalidInput, none, "no election draft is active; start one first"⟩

/-- `CommandError::no_voter_session` -/
def noVoterSession : GuiCoreError :=
  ⟨"GUI_NO_VOTER_SESSION", .invalidLifecycleTransition, none,
    "no voter workflow session is active in this shell"⟩

/-- `CommandError::pending_credential_exists` -/
def pendingCredentialExists : GuiCoreError :=
  ⟨"GUI_PENDING_CREDENTIAL_EXISTS", .invalidLifecycleTransition, none,
    "a local pilot credential already exists; clear it before generating a new one"⟩

/-- `SessionAuthorityV1` -/
inductive SessionAuthorityV1 where
  | organizer
  | importedVoter
deriving DecidableEq

/-- `ActiveElectionSessionV1` -/
structure ActiveElectionSessionV1 where
  session : GuiElectionSessionV1
  authority : SessionAuthorityV1

/-- `LoadedElectionWorkspaceV1`, of which a session carries `organizer_workspace`. -/
inductive LoadedWorkspace (Draft : Type) where
  | draft (draft : Draft)
  | session (session : GuiElectionSessionV1) (organizerWorkspace : Bool)

variable {crate : TriptychCrate} {Scalar : Type} [Field Scalar] [DecidableEq Scalar]
  [AddCommGroup crate.dalekV4.Point] [Module Scalar crate.dalekV4.Point]
  {prover : TriptychProverCrate crate Scalar} {Draft : Type}

/-- `PendingVoterCredentialV1` -/
structure PendingVoterCredentialV1 (prover : TriptychProverCrate crate Scalar) where
  credential : VoterGovernanceCredentialV1 prover
  origin : GuiVoterCredentialOriginV1

/-- `PendingVoterCredentialV1::status` -/
def PendingVoterCredentialV1.status (self : PendingVoterCredentialV1 prover) :
    GuiResult GuiVoterCredentialStatusV1 :=
  VoterGovernanceCredentialV1.pendingStatusWithOrigin self.credential self.origin

/-- `PendingVoterCredentialV1::public_key_hex` -/
def PendingVoterCredentialV1.publicKeyHex (self : PendingVoterCredentialV1 prover) :
    GuiResult Bytes := do
  let status ← self.status
  match status.publicGovernanceKeyHex with
  | some publicKeyHex => pure publicKeyHex
  | none => .error credentialNotLoaded

/-- `AppState`: the parts that the commands below read or write. -/
structure AppState (prover : TriptychProverCrate crate Scalar) (Draft : Type) where
  session : Option ActiveElectionSessionV1
  draft : Option Draft
  sessionWorkspaceId : Option Text
  draftWorkspaceId : Option Text
  voter : Option (GuiVoterSessionV1 prover)
  pendingVoterCredential : Option (PendingVoterCredentialV1 prover)

/-- `AppState::default` -/
def AppState.initial (prover : TriptychProverCrate crate Scalar) (Draft : Type) :
    AppState prover Draft :=
  ⟨none, none, none, none, none, none⟩

/-- What a command returns, and the state it leaves. -/
abbrev Commanded (prover : TriptychProverCrate crate Scalar) (Draft α : Type) :=
  GuiResult α × AppState prover Draft

namespace AppState

/-- `voter_credential_status` -/
def voterCredentialStatus (self : AppState prover Draft) : GuiResult GuiVoterCredentialStatusV1 :=
  match self.voter with
  | some voter => .ok voter.credentialStatus
  | none => match self.pendingVoterCredential with
    | some pending => pending.status
    | none => .ok .unloaded

/-- `generate_pending_credential` -/
def generatePendingCredential (self : AppState prover Draft)
    (drawn : Result (TariTriptychSecretKeyV1 prover)) :
    Commanded prover Draft GuiVoterCredentialStatusV1 :=
  match self.pendingVoterCredential with
  | some _ => (.error pendingCredentialExists, self)
  | none => match VoterGovernanceCredentialV1.generate drawn with
    | .error e => (.error e, self)
    | .ok credential =>
      let pending : PendingVoterCredentialV1 prover := ⟨credential, .generated⟩
      match pending.status with
      | .error e => (.error e, self)
      | .ok status => (.ok status, { self with pendingVoterCredential := some pending })

/-- `active_public_key_hex` -/
def activePublicKeyHex (self : AppState prover Draft) : GuiResult (Option Bytes) :=
  match self.voter.bind (·.credentialPublicKeyHex) with
  | some publicKeyHex => .ok (some publicKeyHex)
  | none => match self.pendingVoterCredential with
    | none => .ok none
    | some pending => pending.publicKeyHex.map some

/-- `ensure_no_loaded_credential_for_create` -/
def ensureNoLoadedCredentialForCreate (self : AppState prover Draft) : GuiResult Unit := do
  match ← self.activePublicKeyHex with
  | some _ => .error credentialAlreadyLoaded
  | none => .ok ()

/-- `ensure_identity_can_load`: whether it is loaded already. -/
def ensureIdentityCanLoad (self : AppState prover Draft) (publicKeyHex : Bytes) :
    GuiResult Bool := do
  match ← self.activePublicKeyHex with
  | some loaded => if loaded = publicKeyHex then .ok true else .error credentialAlreadyLoaded
  | none => .ok false

/-- `install_credential` -/
def installCredential (self : AppState prover Draft)
    (credential : VoterGovernanceCredentialV1 prover) (origin : GuiVoterCredentialOriginV1) :
    Commanded prover Draft GuiVoterCredentialStatusV1 :=
  match self.session with
  | some active => match self.voter with
    | none => (.error noVoterSession, self)
    | some voter =>
      match voter.installCredentialWithOrigin credential origin active.session.artifacts with
      | .error e => (.error e, self)
      | .ok (status, voter) =>
        (.ok status, { self with voter := some voter, pendingVoterCredential := none })
  | none =>
    let pending : PendingVoterCredentialV1 prover := ⟨credential, origin⟩
    match pending.status with
    | .error e => (.error e, self)
    | .ok status => (.ok status, { self with pendingVoterCredential := some pending })

/-- `update_loaded_origin_if_same` -/
def updateLoadedOriginIfSame (self : AppState prover Draft) (publicKeyHex : Bytes)
    (origin : GuiVoterCredentialOriginV1) : Commanded prover Draft GuiVoterCredentialStatusV1 :=
  match self.voter.filter (fun voter ↦ voter.credentialPublicKeyHex = some publicKeyHex) with
  | some voter =>
    let (status, voter) := voter.setCredentialOrigin origin
    (.ok status, { self with voter := some voter })
  | none => match self.pendingVoterCredential with
    | none => (.error credentialNotLoaded, self)
    | some pending => match pending.publicKeyHex with
      | .error e => (.error e, self)
      | .ok pendingKeyHex =>
        if pendingKeyHex = publicKeyHex then
          let pending := { pending with origin := origin }
          (pending.status, { self with pendingVoterCredential := some pending })
        else (.error credentialNotLoaded, self)

/-- The end of the commands that find a credential: it is loaded already, or installed. -/
def loadIdentity (self : AppState prover Draft) (alreadyLoaded : Bool) (publicKeyHex : Bytes)
    (credential : VoterGovernanceCredentialV1 prover) (origin : GuiVoterCredentialOriginV1) :
    Commanded prover Draft GuiVoterCredentialStatusV1 :=
  if alreadyLoaded then self.updateLoadedOriginIfSame publicKeyHex origin
  else self.installCredential credential origin

/-- `create_durable_credential_in_dir`, given what is drawn and how the file is written. -/
def createDurableCredentialInDir (self : AppState prover Draft)
    (drawn : Result (TariTriptychSecretKeyV1 prover)) (written : GuiResult Unit) :
    Commanded prover Draft GuiVoterCredentialStatusV1 :=
  let checked : GuiResult (VoterGovernanceCredentialV1 prover × Bytes × Bool) := do
    self.ensureNoLoadedCredentialForCreate
    let credential ← VoterGovernanceCredentialV1.generate drawn
    let publicKey ← VoterGovernanceCredentialV1.publicKeyBytes credential
    written
    let publicKeyHex := toLowerHex publicKey.toBytes
    let alreadyLoaded ← self.ensureIdentityCanLoad publicKeyHex
    pure (credential, publicKeyHex, alreadyLoaded)
  match checked with
  | .error e => (.error e, self)
  | .ok (credential, publicKeyHex, alreadyLoaded) =>
    self.loadIdentity alreadyLoaded publicKeyHex credential .durableCreated

/-- `unlock_saved_credential_in_dir`, given what the file is decrypted to. -/
def unlockSavedCredentialInDir (self : AppState prover Draft) (publicKey : Bytes32)
    (decrypted : GuiResult (VoterGovernanceCredentialV1 prover)) :
    Commanded prover Draft GuiVoterCredentialStatusV1 :=
  let publicKeyHex := toLowerHex publicKey.toBytes
  let checked : GuiResult (VoterGovernanceCredentialV1 prover × Bool) := do
    let alreadyLoaded ← self.ensureIdentityCanLoad publicKeyHex
    let credential ← decrypted
    let found ← VoterGovernanceCredentialV1.publicKeyBytes credential
    if found ≠ publicKey then .error credentialPublicKeyMismatch
    else pure (credential, alreadyLoaded)
  match checked with
  | .error e => (.error e, self)
  | .ok (credential, alreadyLoaded) =>
    self.loadIdentity alreadyLoaded publicKeyHex credential .unlockedSaved

/-- `import_credential_from_path`, given the key of the container, what it is decrypted to, and,
where it is to be kept, how it is copied. -/
def importCredentialFromPath (self : AppState prover Draft) (containerKey : Bytes32)
    (decrypted : GuiResult (VoterGovernanceCredentialV1 prover))
    (copied : Option (GuiResult Unit)) : Commanded prover Draft GuiVoterCredentialStatusV1 :=
  let checked : GuiResult (VoterGovernanceCredentialV1 prover × Bytes × Bool) := do
    let credential ← decrypted
    let publicKey ← VoterGovernanceCredentialV1.publicKeyBytes credential
    if publicKey ≠ containerKey then .error credentialPublicKeyMismatch
    else
      let publicKeyHex := toLowerHex publicKey.toBytes
      let alreadyLoaded ← self.ensureIdentityCanLoad publicKeyHex
      copied.getD (.ok ())
      pure (credential, publicKeyHex, alreadyLoaded)
  match checked with
  | .error e => (.error e, self)
  | .ok (credential, publicKeyHex, alreadyLoaded) =>
    match copied with
    | some _ => self.loadIdentity alreadyLoaded publicKeyHex credential .importedSaved
    | none =>
      if alreadyLoaded then (self.voterCredentialStatus, self)
      else self.installCredential credential .importedSession

/-- The credential that is carried over to the next voter session, and the state without it: the
pending one, or else the one of the voter session. -/
def takeCarriedCredential (self : AppState prover Draft) :
    Option (PendingVoterCredentialV1 prover) × AppState prover Draft :=
  let carried := (self.voter.bind (·.takeCredentialWithOrigin.1)).map fun taken ↦
    (⟨taken.1, taken.2⟩ : PendingVoterCredentialV1 prover)
  (self.pendingVoterCredential.or carried,
    { self with
      voter := self.voter.map (·.takeCredentialWithOrigin.2)
      pendingVoterCredential := none })

/-- A new voter session with the credential that is carried over. -/
def carryInto (prover : TriptychProverCrate crate Scalar) (artifacts : GuiElectionArtifactsV1)
    (carried : Option (PendingVoterCredentialV1 prover)) : GuiResult (GuiVoterSessionV1 prover) :=
  match carried with
  | none => .ok (.new prover artifacts)
  | some pending => ((GuiVoterSessionV1.new prover artifacts).installCredentialWithOrigin
      pending.credential pending.origin artifacts).map Prod.snd

/-- `install_frozen_session` -/
def installFrozenSession (self : AppState prover Draft) (session : GuiElectionSessionV1)
    (authority : SessionAuthorityV1) : Commanded prover Draft Unit :=
  let (carried, taken) := self.takeCarriedCredential
  match carryInto prover session.artifacts carried with
  | .error e => (.error e, taken)
  | .ok voter => (.ok (), { taken with session := some ⟨session, authority⟩, voter := some voter })

/-- `install_imported_election_session` -/
def installImportedElectionSession (self : AppState prover Draft)
    (session : GuiElectionSessionV1) : Commanded prover Draft Unit :=
  let (carried, taken) := self.takeCarriedCredential
  match carryInto prover session.artifacts carried with
  | .error e => (.error e, taken)
  | .ok voter => (.ok (), { taken with
      session := some ⟨session, .importedVoter⟩
      voter := some voter
      sessionWorkspaceId := none })

/-- `preserve_credential_and_clear_session` -/
def preserveCredentialAndClearSession (self : AppState prover Draft) : AppState prover Draft :=
  let credential := (self.voter.bind (·.takeCredentialWithOrigin.1)).map fun taken ↦
    (⟨taken.1, taken.2⟩ : PendingVoterCredentialV1 prover)
  { self with
    session := none
    voter := none
    pendingVoterCredential := credential.or self.pendingVoterCredential
    sessionWorkspaceId := none }

/-! ### The commands -/

/-- `generate_voter_governance_credential` -/
def generateVoterGovernanceCredential (self : AppState prover Draft)
    (drawn : Result (TariTriptychSecretKeyV1 prover)) :
    Commanded prover Draft GuiVoterCredentialStatusV1 :=
  match self.session with
  | none => self.generatePendingCredential drawn
  | some active => match self.voter with
    | none => (.error noVoterSession, self)
    | some voter => match voter.generateCredential drawn active.session.artifacts with
      | .error e => (.error e, self)
      | .ok (status, voter) => (.ok status, { self with voter := some voter })

/-- `load_election` and `load_election_folder`, given what the files are loaded as. -/
def loadElection (self : AppState prover Draft) (loaded : GuiResult GuiElectionSessionV1) :
    Commanded prover Draft Unit :=
  match loaded with
  | .error e => (.error e, self)
  | .ok session => self.installImportedElectionSession session

/-- `unload_election` -/
def unloadElection (self : AppState prover Draft) : Commanded prover Draft Unit :=
  (.ok (), self.preserveCredentialAndClearSession)

/-- `resume_election_workspace`, given what the workspace is loaded as. -/
def resumeElectionWorkspace (self : AppState prover Draft) (workspaceId : Text)
    (loaded : GuiResult (LoadedWorkspace Draft)) : Commanded prover Draft Unit :=
  match loaded with
  | .error e => (.error e, self)
  | .ok (.draft draft) => (.ok (), { self.preserveCredentialAndClearSession with
      draft := some draft
      draftWorkspaceId := some workspaceId })
  | .ok (.session session organizerWorkspace) =>
    let authority := if organizerWorkspace then .organizer else .importedVoter
    match self.installFrozenSession session authority with
    | (.error e, state) => (.error e, state)
    | (.ok (), state) => (.ok (), { state with
        sessionWorkspaceId := some workspaceId
        draftWorkspaceId := none })

/-- `freeze_election`, given what becomes of a draft and of its workspace. -/
def freezeElection (self : AppState prover Draft)
    (frozen : Draft → GuiResult (Draft × GuiElectionSessionV1 × Text)) :
    Commanded prover Draft Unit :=
  match self.draft with
  | none => (.error noDraft, self)
  | some draft => match frozen draft with
    | .error e => (.error e, self)
    | .ok (draft, session, workspaceId) =>
      match { self with draft := some draft }.installFrozenSession session .organizer with
      | (.error e, state) => (.error e, state)
      | (.ok (), state) => (.ok (), { state with
          sessionWorkspaceId := some workspaceId
          draftWorkspaceId := none })

end AppState

/-- The commands. Where something is prepared before the state is looked at (arguments parsed,
directories found), it is given how that ends. -/
inductive CredentialCommand (prover : TriptychProverCrate crate Scalar) (Draft : Type) where
  | generate (drawn : Result (TariTriptychSecretKeyV1 prover))
  | generatePending (drawn : Result (TariTriptychSecretKeyV1 prover))
  | create (prepared : GuiResult Unit) (drawn : Result (TariTriptychSecretKeyV1 prover))
      (written : GuiResult Unit)
  | unlock (prepared : GuiResult Bytes32)
      (decrypted : GuiResult (VoterGovernanceCredentialV1 prover))
  | importFrom (prepared : GuiResult Bytes32)
      (decrypted : GuiResult (VoterGovernanceCredentialV1 prover))
      (copied : Option (GuiResult Unit))
  | load (loaded : GuiResult GuiElectionSessionV1)
  | resume (workspaceId : Text) (loaded : GuiResult (LoadedWorkspace Draft))
  | freeze (prepared : GuiResult Unit)
      (frozen : Draft → GuiResult (Draft × GuiElectionSessionV1 × Text))
  | unload

namespace AppState

/-- A command that starts with something else than the state. -/
def after {α β : Type} (self : AppState prover Draft) (prepared : GuiResult α)
    (command : α → Commanded prover Draft β) : Commanded prover Draft β :=
  match prepared with
  | .error e => (.error e, self)
  | .ok value => command value

/-- A command, with the status of the credential where it returns one. -/
def execute (self : AppState prover Draft) :
    CredentialCommand prover Draft → Commanded prover Draft (Option GuiVoterCredentialStatusV1)
  | .generate drawn => shown (self.generateVoterGovernanceCredential drawn)
  | .generatePending drawn => shown (self.generatePendingCredential drawn)
  | .create prepared drawn written =>
    shown (self.after prepared fun () ↦ self.createDurableCredentialInDir drawn written)
  | .unlock prepared decrypted => shown
    (self.after prepared fun publicKey ↦ self.unlockSavedCredentialInDir publicKey decrypted)
  | .importFrom prepared decrypted copied => shown (self.after prepared fun containerKey ↦
    self.importCredentialFromPath containerKey decrypted copied)
  | .load loaded => silent (self.loadElection loaded)
  | .resume workspaceId loaded => silent (self.resumeElectionWorkspace workspaceId loaded)
  | .freeze prepared frozen => silent (self.after prepared fun () ↦ self.freezeElection frozen)
  | .unload => silent self.unloadElection
where
  shown (result : Commanded prover Draft GuiVoterCredentialStatusV1) :
      Commanded prover Draft (Option GuiVoterCredentialStatusV1) :=
    (result.1.map some, result.2)
  silent (result : Commanded prover Draft Unit) :
      Commanded prover Draft (Option GuiVoterCredentialStatusV1) :=
    (result.1.map fun _ ↦ none, result.2)

end AppState

end PrivateBallot.Shell
