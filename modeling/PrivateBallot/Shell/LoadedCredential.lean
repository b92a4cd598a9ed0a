import Mathlib.Logic.Relation
import PrivateBallot.Shell.CredentialCommands

/-!
# The loaded credential stays loaded

Library `Shell`. `gui/src-tauri/src/lib.rs:575-893,1353-1438,3164-3194`. The shell holds a
credential in the voter session or in the pending slot. Each command is shown to hand over what both
slots hold, and a run of commands then keeps it.
-/

namespace PrivateBallot.Shell

open PrivateBallot.Base PrivateBallot.Protocol PrivateBallot.GuiCore PrivateBallot.Crypto

namespace AppState

/-! ### What is held -/

section

variable {crate : TriptychCrate} {Scalar : Type} [Field Scalar]
  {prover : TriptychProverCrate crate Scalar} {Draft : Type}

/-- The credential of the voter session. -/
def voterSecret (self : AppState prover Draft) : Option (VoterGovernanceCredentialV1 prover) :=
  self.voter.bind (·.secret)

/-- The credential of the pending slot. -/
def pendingSecret (self : AppState prover Draft) : Option (VoterGovernanceCredentialV1 prover) :=
  self.pendingVoterCredential.map (·.credential)

/-- The credentials in memory. -/
def secrets (self : AppState prover Draft) : List (VoterGovernanceCredentialV1 prover) :=
  self.voterSecret.toList ++ self.pendingSecret.toList

/-- At most one credential is in memory, and there is no voter session without an election. -/
structure HoldsOne (state : AppState prover Draft) : Prop where
  atMostOne : state.secrets.length ≤ 1
  bound : state.session = none → state.voter = none

/-- A command leaves at most one credential, and a credential that was there. -/
structure Keeps (state result : AppState prover Draft) : Prop extends HoldsOne result where
  kept : ∀ credential, state.secrets = [credential] → result.secrets = [credential]

theorem Keeps.of_eq {self result : AppState prover Draft} (h : self.HoldsOne)
    (hsecrets : result.secrets = self.secrets)
    (hbound : result.session = none → result.voter = none) : Keeps self result where
  atMostOne := by
    rw [hsecrets]
    exact h.atMostOne
  bound := hbound
  kept := fun credential heq ↦ hsecrets.trans heq

theorem Keeps.refl {self : AppState prover Draft} (h : self.HoldsOne) : Keeps self self :=
  .of_eq h rfl h.bound

/-- Where nothing was held, one credential may be added. -/
theorem Keeps.of_nil {self result : AppState prover Draft} (hnil : self.secrets = [])
    (hresult : result.HoldsOne) : Keeps self result where
  atMostOne := hresult.atMostOne
  bound := hresult.bound
  kept := by
    intro credential heq
    rw [hnil] at heq
    cases heq

theorem secrets_eq_nil {self : AppState prover Draft} :
    self.secrets = [] ↔ self.voterSecret = none ∧ self.pendingSecret = none := by
  unfold secrets
  rw [List.append_eq_nil_iff, Option.toList_eq_nil_iff, Option.toList_eq_nil_iff]

/-- Where at most one is held, one slot is empty. -/
theorem HoldsOne.cases {self : AppState prover Draft} (h : self.HoldsOne) :
    self.voterSecret = none ∨ self.pendingSecret = none := by
  have hlength := h.atMostOne
  unfold secrets at hlength
  cases hvoter : self.voterSecret with
  | none => exact Or.inl rfl
  | some credential =>
    cases hpending : self.pendingSecret with
    | none => exact Or.inr rfl
    | some other =>
      rw [hvoter, hpending] at hlength
      exact absurd hlength (Nat.not_succ_le_self 1)

/-- What is carried over is what was held, the pending credential first. -/
theorem secret_takeCarriedCredential (self : AppState prover Draft) :
    self.takeCarriedCredential.1.map (·.credential) = self.pendingSecret.or self.voterSecret := by
  unfold takeCarriedCredential pendingSecret voterSecret
  dsimp only
  cases self.pendingVoterCredential with
  | some pending => rfl
  | none =>
    cases self.voter with
    | none => rfl
    | some voter =>
      show (voter.takeCredentialWithOrigin.1.map _).map _ = voter.secret
      rw [Option.map_map, ← (GuiVoterSessionV1.takeCredentialWithOrigin_spec voter).1]
      rfl

/-- Where one slot is empty, the other one is all. -/
theorem toList_or {self : AppState prover Draft} (h : self.HoldsOne) :
    (self.pendingSecret.or self.voterSecret).toList = self.secrets ∧
      (self.voterSecret.or self.pendingSecret).toList = self.secrets := by
  unfold secrets
  rcases h.cases with hvoter | hpending
  · rw [hvoter, Option.or_none, Option.none_or]
    exact ⟨rfl, rfl⟩
  · rw [hpending, Option.or_none, Option.none_or, Option.toList_none, List.append_nil]
    exact ⟨rfl, rfl⟩

/-- An election is dropped, and the credential is pending. -/
theorem secrets_preserveCredentialAndClearSession {self : AppState prover Draft}
    (h : self.HoldsOne) : self.preserveCredentialAndClearSession.secrets = self.secrets := by
  have hpending : self.preserveCredentialAndClearSession.pendingSecret =
      self.voterSecret.or self.pendingSecret := by
    unfold preserveCredentialAndClearSession pendingSecret voterSecret
    dsimp only
    cases self.voter with
    | none => rfl
    | some voter =>
      show ((voter.takeCredentialWithOrigin.1.map _).or _).map _ = _
      rw [Option.map_or, Option.map_map]
      show Option.or (voter.takeCredentialWithOrigin.1.map Prod.fst) _ = voter.secret.or _
      rw [(GuiVoterSessionV1.takeCredentialWithOrigin_spec voter).1]
  show [] ++ self.preserveCredentialAndClearSession.pendingSecret.toList = self.secrets
  rw [List.nil_append, hpending, (toList_or h).2]

theorem keeps_unloadElection {self : AppState prover Draft} (h : self.HoldsOne) :
    Keeps self self.unloadElection.2 :=
  .of_eq h (secrets_preserveCredentialAndClearSession h) fun _ ↦ rfl

theorem holdsOne_initial : (AppState.initial prover Draft).HoldsOne :=
  ⟨Nat.zero_le 1, fun _ ↦ rfl⟩

end

/-! ### The checks for a loaded credential -/

variable {crate : TriptychCrate} {Scalar : Type} [Field Scalar] [DecidableEq Scalar]
  [AddCommGroup crate.dalekV4.Point] [Module Scalar crate.dalekV4.Point]
  {prover : TriptychProverCrate crate Scalar} {Draft : Type}

theorem publicKeyHex_ne_none (pending : PendingVoterCredentialV1 prover) :
    pending.publicKeyHex.map some ≠ .ok none := by
  intro h
  cases hkey : pending.publicKeyHex with
  | error e =>
    rw [hkey] at h
    cases h
  | ok key =>
    rw [hkey] at h
    cases h

/-- The check finds nothing only where nothing is held. -/
theorem secrets_of_activePublicKeyHex {self : AppState prover Draft}
    (h : self.activePublicKeyHex = .ok none) : self.secrets = [] := by
  unfold activePublicKeyHex at h
  cases hvoter : self.voter.bind (·.credentialPublicKeyHex) with
  | some key =>
    rw [hvoter] at h
    cases h
  | none =>
    rw [hvoter] at h
    cases hpending : self.pendingVoterCredential with
    | some pending =>
      rw [hpending] at h
      exact absurd h (publicKeyHex_ne_none pending)
    | none =>
      refine secrets_eq_nil.mpr ⟨?_, ?_⟩
      · unfold voterSecret
        cases hsession : self.voter with
        | none => rfl
        | some voter =>
          rw [hsession] at hvoter
          exact GuiVoterSessionV1.credentialPublicKeyHex_eq_none.mp hvoter
      · unfold pendingSecret
        rw [hpending]
        rfl

theorem secrets_of_ensureIdentity {self : AppState prover Draft} {publicKeyHex : Bytes}
    (h : self.ensureIdentityCanLoad publicKeyHex = .ok false) : self.secrets = [] := by
  obtain ⟨found, hfound, h⟩ := bind_eq_ok.mp h
  cases found with
  | some loaded =>
    dsimp only at h
    split at h
    · cases h
    · cases h
  | none => exact secrets_of_activePublicKeyHex hfound

/-! ### Generating and installing -/

theorem keeps_generatePendingCredential {self : AppState prover Draft} (h : self.HoldsOne)
    (hvoter : self.voterSecret = none) (drawn : Result (TariTriptychSecretKeyV1 prover)) :
    Keeps self (self.generatePendingCredential drawn).2 := by
  unfold generatePendingCredential
  cases hpending : self.pendingVoterCredential with
  | some pending => exact .refl h
  | none =>
    dsimp only
    cases VoterGovernanceCredentialV1.generate drawn with
    | error e => exact .refl h
    | ok credential =>
    dsimp only
    split
    · exact .refl h
    -- both slots were empty
    have hnil : self.secrets = [] := by
      refine secrets_eq_nil.mpr ⟨hvoter, ?_⟩
      unfold pendingSecret
      rw [hpending]
      rfl
    refine .of_nil hnil ⟨?_, h.bound⟩
    show (self.voterSecret.toList ++ [credential]).length ≤ 1
    rw [hvoter]
    exact Nat.le_refl 1

/-- A pending credential that is drawn is held. -/
theorem secrets_generatePendingCredential {self : AppState prover Draft}
    (hpending : self.pendingVoterCredential = none)
    (credential : VoterGovernanceCredentialV1 prover) :
    (self.generatePendingCredential (.ok credential)).2.secrets =
      self.voterSecret.toList ++ [credential] := by
  obtain ⟨publicKey, hkey⟩ := VoterGovernanceCredentialV1.exists_publicKeyBytes credential
  have hstatus : ∃ status, (⟨credential, .generated⟩ : PendingVoterCredentialV1 prover).status =
      .ok status := ⟨_, bind_eq_ok.mpr ⟨publicKey, hkey, rfl⟩⟩
  obtain ⟨status, hstatus⟩ := hstatus
  have hdrawn : VoterGovernanceCredentialV1.generate (.ok credential) = .ok credential := rfl
  simp only [generatePendingCredential, hpending, hdrawn, hstatus]
  rfl

/-- A credential is installed where none is held. -/
theorem keeps_installCredential {self : AppState prover Draft} (h : self.HoldsOne)
    (hnil : self.secrets = []) (credential : VoterGovernanceCredentialV1 prover)
    (origin : GuiVoterCredentialOriginV1) :
    Keeps self (self.installCredential credential origin).2 := by
  obtain ⟨hvoter, -⟩ := secrets_eq_nil.mp hnil
  unfold installCredential
  cases hsession : self.session with
  | some active =>
    dsimp only
    split
    · exact .refl h
    split
    · exact .refl h
    next voter status installed hinstalled =>
    refine .of_nil hnil ⟨?_, fun hnone ↦ by cases hnone⟩
    show (installed.secret.toList ++ []).length ≤ 1
    rw [List.append_nil]
    exact Option.length_toList_le
  | none =>
    dsimp only
    split
    · exact .refl h
    refine .of_nil hnil ⟨?_, fun _ ↦ h.bound hsession⟩
    show (self.voterSecret.toList ++ [credential]).length ≤ 1
    rw [hvoter]
    exact Nat.le_refl 1

/-- A changed origin changes no credential. -/
theorem keeps_updateLoadedOriginIfSame {self : AppState prover Draft} (h : self.HoldsOne)
    (publicKeyHex : Bytes) (origin : GuiVoterCredentialOriginV1) :
    Keeps self (self.updateLoadedOriginIfSame publicKeyHex origin).2 := by
  unfold updateLoadedOriginIfSame
  split
  · next voter hfound =>
    have hvoter : self.voter = some voter := (Option.filter_eq_some_iff.mp hfound).1
    refine .of_eq h ?_ fun hnone ↦ ?_
    · show ((voter.setCredentialOrigin origin).2.secret).toList ++ self.pendingSecret.toList =
        self.secrets
      rw [GuiVoterSessionV1.secret_setCredentialOrigin]
      unfold secrets voterSecret
      rw [hvoter]
      rfl
    · rw [h.bound hnone] at hvoter
      cases hvoter
  · split
    · exact .refl h
    split
    · exact .refl h
    split
    · next pending hpending _ _ _ _ =>
      refine .of_eq h ?_ h.bound
      show self.voterSecret.toList ++ [pending.credential] = self.secrets
      unfold secrets pendingSecret
      rw [hpending]
      rfl
    · exact .refl h

theorem keeps_loadIdentity {self : AppState prover Draft} (h : self.HoldsOne)
    {publicKeyHex : Bytes} {alreadyLoaded : Bool}
    (hloaded : self.ensureIdentityCanLoad publicKeyHex = .ok alreadyLoaded)
    (credential : VoterGovernanceCredentialV1 prover) (origin : GuiVoterCredentialOriginV1) :
    Keeps self (self.loadIdentity alreadyLoaded publicKeyHex credential origin).2 := by
  unfold loadIdentity
  cases alreadyLoaded with
  | true => exact keeps_updateLoadedOriginIfSame h publicKeyHex origin
  | false => exact keeps_installCredential h (secrets_of_ensureIdentity hloaded) credential origin

theorem keeps_createDurableCredentialInDir {self : AppState prover Draft} (h : self.HoldsOne)
    (drawn : Result (TariTriptychSecretKeyV1 prover)) (written : GuiResult Unit) :
    Keeps self (self.createDurableCredentialInDir drawn written).2 := by
  unfold createDurableCredentialInDir
  dsimp only
  split
  · exact .refl h
  next credential publicKeyHex alreadyLoaded hchecked =>
  obtain ⟨_, -, hchecked⟩ := bind_eq_ok.mp hchecked
  obtain ⟨_, -, hchecked⟩ := bind_eq_ok.mp hchecked
  obtain ⟨_, -, hchecked⟩ := bind_eq_ok.mp hchecked
  obtain ⟨_, -, hchecked⟩ := bind_eq_ok.mp hchecked
  obtain ⟨_, hloaded, hchecked⟩ := bind_eq_ok.mp hchecked
  cases hchecked
  exact keeps_loadIdentity h hloaded credential .durableCreated

theorem keeps_unlockSavedCredentialInDir {self : AppState prover Draft} (h : self.HoldsOne)
    (publicKey : Bytes32) (decrypted : GuiResult (VoterGovernanceCredentialV1 prover)) :
    Keeps self (self.unlockSavedCredentialInDir publicKey decrypted).2 := by
  unfold unlockSavedCredentialInDir
  dsimp only
  split
  · exact .refl h
  next credential alreadyLoaded hchecked =>
  obtain ⟨_, hloaded, hchecked⟩ := bind_eq_ok.mp hchecked
  obtain ⟨_, -, hchecked⟩ := bind_eq_ok.mp hchecked
  obtain ⟨_, -, hchecked⟩ := bind_eq_ok.mp hchecked
  split at hchecked
  · cases hchecked
  · cases hchecked
    exact keeps_loadIdentity h hloaded credential .unlockedSaved

theorem keeps_importCredentialFromPath {self : AppState prover Draft} (h : self.HoldsOne)
    (containerKey : Bytes32) (decrypted : GuiResult (VoterGovernanceCredentialV1 prover))
    (copied : Option (GuiResult Unit)) :
    Keeps self (self.importCredentialFromPath containerKey decrypted copied).2 := by
  unfold importCredentialFromPath
  dsimp only
  split
  · exact .refl h
  next credential publicKeyHex alreadyLoaded hchecked =>
  obtain ⟨_, -, hchecked⟩ := bind_eq_ok.mp hchecked
  obtain ⟨_, -, hchecked⟩ := bind_eq_ok.mp hchecked
  split at hchecked
  · cases hchecked
  obtain ⟨_, hloaded, hchecked⟩ := bind_eq_ok.mp hchecked
  obtain ⟨_, -, hchecked⟩ := bind_eq_ok.mp hchecked
  cases hchecked
  cases copied with
  | some copied => exact keeps_loadIdentity h hloaded credential .importedSaved
  | none =>
    cases alreadyLoaded with
    | true => exact .refl h
    | false =>
      exact keeps_installCredential h (secrets_of_ensureIdentity hloaded) credential
        .importedSession

/-! ### Carrying over -/

/-- A new voter session always takes the credential that is carried over. -/
theorem exists_carryInto (artifacts : GuiElectionArtifactsV1)
    (carried : Option (PendingVoterCredentialV1 prover)) :
    ∃ voter, carryInto prover artifacts carried = .ok voter ∧
      voter.secret = carried.map (·.credential) := by
  cases carried with
  | none => exact ⟨.new prover artifacts, rfl, rfl⟩
  | some pending =>
    obtain ⟨status, voter, hvoter⟩ :=
      GuiVoterSessionV1.exists_install_new pending.credential pending.origin artifacts
    refine ⟨voter, ?_, GuiVoterSessionV1.secret_of_install hvoter⟩
    unfold carryInto
    dsimp only
    rw [hvoter]
    rfl

/-- An election is installed, and the credential is carried over. -/
theorem exists_installFrozenSession {self : AppState prover Draft} (h : self.HoldsOne)
    (session : GuiElectionSessionV1) (authority : SessionAuthorityV1) :
    ∃ state, self.installFrozenSession session authority = (.ok (), state) ∧
      state.secrets = self.secrets ∧ state.session = some ⟨session, authority⟩ := by
  obtain ⟨voter, hvoter, hsecret⟩ :=
    exists_carryInto session.artifacts self.takeCarriedCredential.1
  rw [secret_takeCarriedCredential] at hsecret
  unfold installFrozenSession
  dsimp only
  rw [hvoter]
  refine ⟨_, rfl, ?_, rfl⟩
  show voter.secret.toList ++ [] = self.secrets
  rw [List.append_nil, hsecret, (toList_or h).1]

theorem exists_installImportedElectionSession {self : AppState prover Draft} (h : self.HoldsOne)
    (session : GuiElectionSessionV1) :
    ∃ state, self.installImportedElectionSession session = (.ok (), state) ∧
      state.secrets = self.secrets ∧ state.session = some ⟨session, .importedVoter⟩ := by
  obtain ⟨voter, hvoter, hsecret⟩ :=
    exists_carryInto session.artifacts self.takeCarriedCredential.1
  rw [secret_takeCarriedCredential] at hsecret
  unfold installImportedElectionSession
  dsimp only
  rw [hvoter]
  refine ⟨_, rfl, ?_, rfl⟩
  show voter.secret.toList ++ [] = self.secrets
  rw [List.append_nil, hsecret, (toList_or h).1]

theorem keeps_loadElection {self : AppState prover Draft} (h : self.HoldsOne)
    (loaded : GuiResult GuiElectionSessionV1) : Keeps self (self.loadElection loaded).2 := by
  cases loaded with
  | error e => exact .refl h
  | ok session =>
    obtain ⟨state, hstate, hsecrets, hsession⟩ := exists_installImportedElectionSession h session
    show Keeps self (self.installImportedElectionSession session).2
    rw [hstate]
    refine .of_eq h hsecrets fun hnone ↦ ?_
    rw [hsession] at hnone
    cases hnone

theorem keeps_resumeElectionWorkspace {self : AppState prover Draft} (h : self.HoldsOne)
    (workspaceId : Text) (loaded : GuiResult (LoadedWorkspace Draft)) :
    Keeps self (self.resumeElectionWorkspace workspaceId loaded).2 := by
  rcases loaded with e | loaded
  · exact .refl h
  cases loaded with
  | draft draft => exact .of_eq h (secrets_preserveCredentialAndClearSession h) fun _ ↦ rfl
  | session session organizerWorkspace =>
    obtain ⟨state, hstate, hsecrets, hsession⟩ := exists_installFrozenSession h session
      (if organizerWorkspace then .organizer else .importedVoter)
    unfold resumeElectionWorkspace
    dsimp only
    rw [hstate]
    refine .of_eq h hsecrets fun hnone ↦ ?_
    rw [show state.session = none from hnone] at hsession
    cases hsession

theorem keeps_freezeElection {self : AppState prover Draft} (h : self.HoldsOne)
    (frozen : Draft → GuiResult (Draft × GuiElectionSessionV1 × Text)) :
    Keeps self (self.freezeElection frozen).2 := by
  unfold freezeElection
  split
  · exact .refl h
  split
  · exact .refl h
  next draft session workspaceId _ =>
  have hdraft : HoldsOne { self with draft := some draft } := ⟨h.atMostOne, h.bound⟩
  obtain ⟨state, hstate, hsecrets, hsession⟩ :=
    exists_installFrozenSession hdraft session .organizer
  rw [hstate]
  refine .of_eq h hsecrets fun hnone ↦ ?_
  rw [show state.session = none from hnone] at hsession
  cases hsession

/-- A credential generated for the active election: an error changes nothing, else it is the new
one that is held. -/
theorem generate_bound {self : AppState prover Draft} (h : self.HoldsOne)
    {active : ActiveElectionSessionV1} (hsession : self.session = some active)
    (hpending : self.pendingVoterCredential = none)
    (drawn : Result (TariTriptychSecretKeyV1 prover)) :
    (self.generateVoterGovernanceCredential drawn).2.HoldsOne ∧
      (∀ e, (self.generateVoterGovernanceCredential drawn).1 = .error e →
        (self.generateVoterGovernanceCredential drawn).2 = self) ∧
      ∀ status, (self.generateVoterGovernanceCredential drawn).1 = .ok status →
        ∃ credential, drawn = .ok credential ∧
          (self.generateVoterGovernanceCredential drawn).2.secrets = [credential] := by
  unfold generateVoterGovernanceCredential
  rw [hsession]
  dsimp only
  split
  · exact ⟨h, fun _ _ ↦ rfl, fun _ hok ↦ by cases hok⟩
  split
  · exact ⟨h, fun _ _ ↦ rfl, fun _ hok ↦ by cases hok⟩
  next voter _ status generated hgenerated =>
  obtain ⟨credential, hdrawn, hsecret⟩ := GuiVoterSessionV1.secret_of_generate hgenerated
  have hsecrets : secrets { self with voter := some generated } = [credential] := by
    show generated.secret.toList ++ self.pendingSecret.toList = [credential]
    unfold pendingSecret
    rw [hsecret, hpending]
    rfl
  refine ⟨⟨?_, fun hnone ↦ ?_⟩, fun e herror ↦ (by cases herror),
    fun _ _ ↦ ⟨credential, hdrawn, ?_⟩⟩
  · show (secrets { self with voter := some generated }).length ≤ 1
    rw [hsecrets]
    exact Nat.le_refl 1
  · cases hnone
  · exact hsecrets

theorem execute_generate {self : AppState prover Draft} {active : ActiveElectionSessionV1}
    {voter generated : GuiVoterSessionV1 prover} {status : GuiVoterCredentialStatusV1}
    {drawn : Result (TariTriptychSecretKeyV1 prover)} (hsession : self.session = some active)
    (hvoter : self.voter = some voter)
    (hgenerated : voter.generateCredential drawn active.session.artifacts =
      .ok (status, generated)) :
    (self.execute (.generate drawn)).2 = { self with voter := some generated } := by
  show (self.generateVoterGovernanceCredential drawn).2 = _
  unfold generateVoterGovernanceCredential
  rw [hsession, hvoter]
  dsimp only
  rw [hgenerated]

/-! ### Runs -/

/-- A credential is generated by a command that looks at the other slot only. -/
def Overlooks (state : AppState prover Draft) : CredentialCommand prover Draft → Prop
  | .generate _ => state.session.isSome = true ∧ state.pendingVoterCredential.isSome = true
  | .generatePending _ => state.voterSecret.isSome = true
  | _ => False

/-- A credential is generated for the active election. -/
def Regenerates (state : AppState prover Draft) : CredentialCommand prover Draft → Prop
  | .generate _ => state.session.isSome = true
  | _ => False

/-- One command that is permitted. -/
def Commands (Permits : AppState prover Draft → CredentialCommand prover Draft → Prop)
    (state result : AppState prover Draft) : Prop :=
  ∃ command, Permits state command ∧ result = (state.execute command).2

/-- What one command keeps. -/
theorem keeps_execute {self : AppState prover Draft} (h : self.HoldsOne)
    {command : CredentialCommand prover Draft} (hoverlooks : ¬ self.Overlooks command)
    (hregenerates : ¬ self.Regenerates command) : Keeps self (self.execute command).2 := by
  have hafter : ∀ {α β : Type} (prepared : GuiResult α) (k : α → Commanded prover Draft β),
      (∀ value, Keeps self (k value).2) → Keeps self (self.after prepared k).2 := by
    intro α β prepared k hk
    cases prepared with
    | error e => exact .refl h
    | ok value => exact hk value
  cases command with
  | generate drawn =>
    have hsession : self.session = none :=
      Option.not_isSome_iff_eq_none.mp hregenerates
    have hvoter : self.voterSecret = none := by
      unfold voterSecret
      rw [h.bound hsession]
      rfl
    show Keeps self (self.generateVoterGovernanceCredential drawn).2
    unfold generateVoterGovernanceCredential
    rw [hsession]
    exact keeps_generatePendingCredential h hvoter drawn
  | generatePending drawn =>
    exact keeps_generatePendingCredential h (Option.not_isSome_iff_eq_none.mp hoverlooks) drawn
  | create prepared drawn written =>
    exact hafter prepared _ fun _ ↦ keeps_createDurableCredentialInDir h drawn written
  | unlock prepared decrypted =>
    exact hafter prepared _ fun publicKey ↦ keeps_unlockSavedCredentialInDir h publicKey decrypted
  | importFrom prepared decrypted copied =>
    exact hafter prepared _ fun key ↦ keeps_importCredentialFromPath h key decrypted copied
  | load loaded => exact keeps_loadElection h loaded
  | resume workspaceId loaded => exact keeps_resumeElectionWorkspace h workspaceId loaded
  | freeze prepared frozen => exact hafter prepared _ fun _ ↦ keeps_freezeElection h frozen
  | unload => exact keeps_unloadElection h

/-- Every command that does not overlook a slot leaves at most one credential. -/
theorem holdsOne_execute {self : AppState prover Draft} (h : self.HoldsOne)
    {command : CredentialCommand prover Draft} (hoverlooks : ¬ self.Overlooks command) :
    (self.execute command).2.HoldsOne := by
  by_cases hregenerates : self.Regenerates command
  · cases command with
    | generate drawn =>
      obtain ⟨active, hsession⟩ := Option.isSome_iff_exists.mp hregenerates
      have hpending : self.pendingVoterCredential = none :=
        Option.not_isSome_iff_eq_none.mp fun hsome ↦ hoverlooks ⟨hregenerates, hsome⟩
      exact (generate_bound h hsession hpending drawn).1
    | _ => exact absurd hregenerates id
  · exact (keeps_execute h hoverlooks hregenerates).toHoldsOne

theorem holdsOne_of_reached {self result : AppState prover Draft} (h : self.HoldsOne)
    (run : Relation.ReflTransGen (Commands fun state command ↦ ¬ state.Overlooks command)
      self result) : result.HoldsOne := by
  induction run with
  | refl => exact h
  | tail _ step ih =>
    obtain ⟨command, hpermits, rfl⟩ := step
    exact holdsOne_execute ih hpermits

/-- A run in which nothing is generated for the active election keeps the credential. -/
theorem keeps_of_reached {self result : AppState prover Draft} (h : self.HoldsOne)
    (run : Relation.ReflTransGen (Commands fun state command ↦
      ¬ state.Overlooks command ∧ ¬ state.Regenerates command) self result) :
    Keeps self result := by
  induction run with
  | refl => exact .refl h
  | tail _ step ih =>
    obtain ⟨command, ⟨hoverlooks, hregenerates⟩, rfl⟩ := step
    have hstep := keeps_execute ih.toHoldsOne hoverlooks hregenerates
    exact ⟨hstep.toHoldsOne, fun credential heq ↦ hstep.kept credential (ih.kept credential heq)⟩

/-- **A loaded credential stays loaded.** At most one credential is in memory in every run of
commands that overlook no slot; it is still the one that is loaded after every later command, but
for a credential that is generated for the active election, which replaces it, unless it fails. -/
theorem loadedCredential_kept {state : AppState prover Draft}
    (run : Relation.ReflTransGen (Commands fun state command ↦ ¬ state.Overlooks command)
      (.initial prover Draft) state) :
    state.secrets.length ≤ 1 ∧
    (∀ credential later, state.secrets = [credential] →
      Relation.ReflTransGen (Commands fun state command ↦
        ¬ state.Overlooks command ∧ ¬ state.Regenerates command) state later →
      later.secrets = [credential]) ∧
    ∀ drawn, state.Regenerates (.generate drawn) → ¬ state.Overlooks (.generate drawn) →
      (∀ e, (state.execute (.generate drawn)).1 = .error e →
        (state.execute (.generate drawn)).2 = state) ∧
      ∀ status, (state.execute (.generate drawn)).1 = .ok status →
        ∃ credential, drawn = .ok credential ∧
          (state.execute (.generate drawn)).2.secrets = [credential] := by
  have hholds := holdsOne_of_reached holdsOne_initial run
  refine ⟨hholds.atMostOne, fun credential later heq hlater ↦ ?_, ?_⟩
  · exact (keeps_of_reached hholds hlater).kept credential heq
  · intro drawn hregenerates hoverlooks
    obtain ⟨active, hsession⟩ := Option.isSome_iff_exists.mp hregenerates
    have hpending : state.pendingVoterCredential = none :=
      Option.not_isSome_iff_eq_none.mp fun hsome ↦ hoverlooks ⟨hregenerates, hsome⟩
    obtain ⟨-, hfails, hworks⟩ := generate_bound hholds hsession hpending drawn
    constructor
    · intro e herror
      cases hresult : (state.generateVoterGovernanceCredential drawn).1 with
      | error found => exact hfails found hresult
      | ok status =>
        have hshown : (state.generateVoterGovernanceCredential drawn).1.map some = .error e :=
          herror
        rw [hresult] at hshown
        cases hshown
    · intro status hok
      cases hresult : (state.generateVoterGovernanceCredential drawn).1 with
      | ok found => exact hworks found hresult
      | error e =>
        have hshown : (state.generateVoterGovernanceCredential drawn).1.map some = .ok status :=
          hok
        rw [hresult] at hshown
        cases hshown

/-- An election is loaded, then one credential is generated, then another. -/
theorem exists_replaced (Draft : Type) (session : GuiElectionSessionV1)
    (one other : TariTriptychSecretKeyV1 prover) :
    ∃ state later : AppState prover Draft,
      Relation.ReflTransGen (Commands fun _ _ ↦ True) (.initial prover Draft) state ∧
      state.secrets = [one] ∧ Commands (fun _ _ ↦ True) state later ∧ later.secrets = [other] := by
  let loaded : AppState prover Draft :=
    ((AppState.initial prover Draft).execute (.load (.ok session))).2
  have hsession : loaded.session = some ⟨session, .importedVoter⟩ := rfl
  have hvoter : loaded.voter = some (.new prover session.artifacts) := rfl
  obtain ⟨status, first, hfirst, hbound⟩ := GuiVoterSessionV1.exists_generate
    (rfl : (GuiVoterSessionV1.new prover session.artifacts).electionBinding =
      .fromArtifacts session.artifacts) one
  obtain ⟨status', second, hsecond, -⟩ := GuiVoterSessionV1.exists_generate hbound other
  obtain ⟨_, hkey, hsecret⟩ := GuiVoterSessionV1.secret_of_generate hfirst
  cases hkey
  obtain ⟨_, hkey, hsecret'⟩ := GuiVoterSessionV1.secret_of_generate hsecond
  cases hkey
  have hsecrets : ∀ voter : GuiVoterSessionV1 prover,
      secrets { loaded with voter := some voter } = voter.secret.toList ++ [] := fun _ ↦ rfl
  let once : AppState prover Draft := { loaded with voter := some first }
  have honce : once.session = some ⟨session, .importedVoter⟩ := rfl
  have hvoter' : once.voter = some first := rfl
  refine ⟨once, { loaded with voter := some second }, ?_, ?_, ?_, ?_⟩
  · exact .tail (.single ⟨.load (.ok session), trivial, rfl⟩)
      ⟨.generate (.ok one), trivial, (execute_generate hsession hvoter hfirst).symm⟩
  · show secrets { loaded with voter := some first } = [one]
    rw [hsecrets, hsecret]
    rfl
  · exact ⟨.generate (.ok other), trivial, (execute_generate honce hvoter' hsecond).symm⟩
  · rw [hsecrets, hsecret']
    rfl

end AppState

/-! ### A sample of the shell -/

namespace CredentialSample

open GuiCore.VoterSample (prover secretKey compress)

def otherKey : TariTriptychSecretKeyV1 prover where
  bytes := compress 4
  valid := ⟨4, by decide +kernel, by decide⟩

/-- An election that is loaded. -/
def session : GuiElectionSessionV1 := GuiCore.Sample.openSession.toOption.get
  GuiCore.Sample.isSome_openSession

def started : AppState prover Unit := .initial prover Unit

/-- A credential is generated before an election is loaded. -/
def pending : AppState prover Unit := (started.execute (.generatePending (.ok secretKey))).2

end CredentialSample

open AppState CredentialSample in
/-- The credential is carried over when the election is loaded. -/
theorem loadedCredential_kept_pending :
    (pending.execute (.load (.ok session))).2.secrets = [GuiCore.VoterSample.secretKey] := by
  have hsecrets : pending.secrets = [GuiCore.VoterSample.secretKey] :=
    secrets_generatePendingCredential rfl _
  have hrun : Relation.ReflTransGen (Commands fun state command ↦ ¬ state.Overlooks command)
      started pending :=
    .single ⟨.generatePending (.ok GuiCore.VoterSample.secretKey), fun h ↦ (by cases h), rfl⟩
  exact (loadedCredential_kept hrun).2.1 _ _ hsecrets
    (.single ⟨.load (.ok session), ⟨id, id⟩, rfl⟩)

open AppState CredentialSample in
/-- A credential that is generated for the active election replaces the one that is loaded. -/
theorem loadedCredential_replaced :
    ¬ ∀ (state later : AppState GuiCore.VoterSample.prover Unit) credential,
      Relation.ReflTransGen (Commands fun _ _ ↦ True) started state →
      state.secrets = [credential] → Relation.ReflTransGen (Commands fun _ _ ↦ True) state later →
      later.secrets = [credential] := by
  intro hkept
  obtain ⟨state, later, hstate, hsecrets, hlater, hreplaced⟩ :=
    exists_replaced Unit session GuiCore.VoterSample.secretKey otherKey
  have hsame := hkept state later _ hstate hsecrets (.single hlater)
  rw [hreplaced] at hsame
  have hbytes : otherKey.bytes = GuiCore.VoterSample.secretKey.bytes :=
    congrArg TariTriptychSecretKeyV1.bytes (List.cons.inj hsame).1
  exact absurd hbytes (by decide +kernel)

end PrivateBallot.Shell
