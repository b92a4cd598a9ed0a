import PrivateBallot.Base.Hex
import PrivateBallot.GuiCore.VoterCredential

/-!
# The voter workflow

Library `GuiCore`. `crates/gui-core/src/voter_session.rs:395-1009,1592-1793`: every call that
changes a voter session between the loading of an election and the release of a ballot, and what the
workflow status says of it. A ballot that is ready is the ballot of the credential and the
selection the session holds, and a preparation token stands for nothing but its own operation.
-/

namespace PrivateBallot.GuiCore

open PrivateBallot.Base PrivateBallot.Protocol PrivateBallot.Ballot PrivateBallot.Registry
open PrivateBallot.Crypto PrivateBallot.Verifier

/-! ### Hexadecimal input -/

/-- `hex_nibble`; `crates/gui-core/src/hex.rs:41`. -/
def hexNibble (byte : UInt8) : Option Nat :=
  let v := byte.toNat
  if 0x30 ≤ v ∧ v ≤ 0x39 then some (v - 0x30)
  else if 0x61 ≤ v ∧ v ≤ 0x66 then some (v - 0x61 + 10)
  else if 0x41 ≤ v ∧ v ≤ 0x46 then some (v - 0x41 + 10)
  else none

/-- `from_hex`; `crates/gui-core/src/hex.rs:25`. Digits in upper case are read, too. -/
def fromHex : Bytes → Option Bytes
  | [] => some []
  | [_] => none
  | high :: low :: rest =>
    match hexNibble high, hexNibble low, fromHex rest with
    | some high, some low, some bytes => some (UInt8.ofNat (high * 16 + low) :: bytes)
    | _, _, _ => none

theorem hexNibble_digit {v : Nat} (h : v < 16) : hexNibble (Hex.digit v) = some v := by
  have hall : ∀ d : Fin 16, hexNibble (Hex.digit d) = some d.val := by decide
  exact hall ⟨v, h⟩

/-- What `to_lower_hex` writes is read back. -/
theorem fromHex_toLowerHex (bytes : Bytes) : fromHex (toLowerHex bytes) = some bytes := by
  induction bytes with
  | nil => rfl
  | cons b bytes ih =>
    have hb := b.toNat_lt
    have hsum : b.toNat / 16 * 16 + b.toNat % 16 = b.toNat := by omega
    have hcons : toLowerHex (b :: bytes) =
        Hex.digit (b.toNat / 16) :: Hex.digit (b.toNat % 16) :: toLowerHex bytes := rfl
    rw [hcons, fromHex, hexNibble_digit (by omega), hexNibble_digit (by omega), ih]
    simp only [hsum, UInt8.ofNat_toNat]

/-- `malformed_hex_input` -/
def malformedHexInput : GuiCoreError :=
  ⟨"GUI_MALFORMED_HEX", .invalidInput, some "voters", "a hex value is not valid hexadecimal"⟩

/-! ### Status -/

/-- `GuiVoterWorkflowStateV1` -/
inductive GuiVoterWorkflowStateV1 where
  | reviewRequired
  | credentialMissing
  | credentialNotEligible
  | electionNotOpen
  | selectionIncomplete
  | selectionReady
  | preparingProof
  | preparedBallotReady
  | ballotCast
  | castPending
deriving DecidableEq, Repr

/-- `GuiVoterSelectionStatusV1` -/
structure GuiVoterSelectionStatusV1 where
  selectionLoaded : Bool
  selectedOptionIdsHex : List Bytes
  selectedDisplayLabels : List Text
  selectedCount : Nat
  approvalMin : UInt64
  approvalMax : UInt64
  abstentionAllowed : Bool
  abstaining : Bool
  valid : Bool
  lifecycleState : String
  canPrepareBallot : Bool
  selectionRevision : UInt64
  message : String
deriving DecidableEq

/-- `ensure_selection_lifecycle_open`; `voter_session.rs:1818`. -/
def ensureSelectionLifecycleOpen (lifecycleState : ElectionLifecycleStateV1) : GuiResult Unit :=
  if lifecycleState = .opened then .ok ()
  else .error ⟨ValidationCode.electionNotOpen.asStr, .invalidLifecycleTransition, some "selection",
    if lifecycleState = .frozen then
      "voting has not opened yet; responses can be chosen only while voting is open"
    else "voting has closed; responses can no longer be chosen or changed"⟩

theorem ensureSelectionLifecycleOpen_eq_ok {lifecycleState : ElectionLifecycleStateV1} :
    ensureSelectionLifecycleOpen lifecycleState = .ok () ↔ lifecycleState = .opened := by
  unfold ensureSelectionLifecycleOpen
  split
  · next hopened => exact ⟨fun _ ↦ hopened, fun _ ↦ rfl⟩
  · next hnot => exact ⟨fun h ↦ (by cases h), fun h ↦ absurd h hnot⟩

/-- One option as `set_selection` reads it. -/
def selectedOption (hex : Text) : GuiResult CandidateId :=
  match fromHex hex.toBytes with
  | none => .error malformedHexInput
  | some bytes => ofProtocol "selection" (CandidateId.new bytes)

section

variable {crate : TriptychCrate} {Scalar : Type} [Field Scalar]
  {prover : TriptychProverCrate crate Scalar}

namespace GuiVoterSessionV1

/-- `selection_status` -/
def selectionStatus (self : GuiVoterSessionV1 prover) (artifacts : GuiElectionArtifactsV1)
    (lifecycleState : ElectionLifecycleStateV1) : GuiVoterSelectionStatusV1 :=
  let limits := artifacts.manifest.fields.approvalLimits
  let payload := self.selection
  { selectionLoaded := payload.isSome
    selectedOptionIdsHex := payload.elim [] fun payload ↦
      payload.selections.map fun id ↦ toLowerHex id.toBytes
    selectedDisplayLabels := payload.elim [] (selectedDisplayLabels artifacts)
    selectedCount := payload.elim 0 (·.selections.length)
    approvalMin := limits.minimum
    approvalMax := limits.maximum
    abstentionAllowed := limits.allowAbstention
    abstaining := payload.elim false (·.isAbstention)
    valid := payload.isSome
    lifecycleState := lifecycleState.asStr
    canPrepareBallot := self.canPrepareBallot lifecycleState
    selectionRevision := self.selectionRevision
    message :=
      if lifecycleState = .opened then
        if payload.isSome then "Selection is valid." else "No ballot selection is loaded."
      else if lifecycleState = .frozen then
        "Voting has not opened yet; responses can be chosen only while voting is open."
      else "Voting has closed; responses can no longer be chosen or changed." }

/-- `workflow_state` -/
def workflowState (self : GuiVoterSessionV1 prover) (reviewConfirmed : Bool)
    (lifecycleState : ElectionLifecycleStateV1) : GuiVoterWorkflowStateV1 :=
  if !reviewConfirmed then .reviewRequired
  else match self.castLock with
    | .cast => .ballotCast
    | .castPending => .castPending
    | .notCast =>
      if lifecycleState ≠ .opened then .electionNotOpen
      else match self.eligibility with
        | .notChecked => .credentialMissing
        | .notEligible => .credentialNotEligible
        | .eligible =>
          if self.selection.isNone then .selectionIncomplete
          else match self.preparedBallot with
            | .preparing _ => .preparingProof
            | .ready _ _ => .preparedBallotReady
            | _ =>
              if self.canPrepareBallot lifecycleState then .selectionReady else .selectionIncomplete

/-! ### Calls -/

/-- `reset_credential`, with the session it leaves. -/
def resetCredential (self : GuiVoterSessionV1 prover) :
    GuiVoterCredentialStatusV1 × GuiVoterSessionV1 prover :=
  (.unloaded, self.withCredential none "Credential reset; prepared ballot state was cleared.")

/-- A session whose selection has changed. -/
def withSelection (self : GuiVoterSessionV1 prover) (selection : Option ApprovalBallotPayload)
    (reason : String) : GuiVoterSessionV1 prover :=
  { self with
    selection := selection
    selectionRevision := saturatingSucc self.selectionRevision }.invalidatePrepared reason

/-- `reset_workflow` -/
def resetWorkflow (self : GuiVoterSessionV1 prover) : GuiVoterSessionV1 prover :=
  { self with
    credential := none
    selection := none
    credentialGeneration := saturatingSucc self.credentialGeneration
    selectionRevision := saturatingSucc self.selectionRevision }.invalidatePrepared
      "Voter workflow reset; prepared ballot state was cleared."

/-- `set_selection`, with the session it leaves; `voter_session.rs:649`. -/
def setSelection (self : GuiVoterSessionV1 prover) (artifacts : GuiElectionArtifactsV1)
    (lifecycleState : ElectionLifecycleStateV1) (selectedOptionIdsHex : List Text)
    (abstain : Bool) : GuiResult (GuiVoterSelectionStatusV1 × GuiVoterSessionV1 prover) := do
  self.ensureBound artifacts
  self.ensureNotCastLocked
  ensureSelectionLifecycleOpen lifecycleState
  if abstain && !selectedOptionIdsHex.isEmpty then
    Except.error ⟨"GUI_ABSTENTION_WITH_SELECTIONS", .invalidInput, some "selection",
      "abstention cannot be combined with selected options"⟩
  let selected ← selectedOptionIdsHex.mapM selectedOption
  let payload ← ofProtocol "selection" (ApprovalBallotPayload.new selected artifacts.candidates
    artifacts.manifest.fields.approvalLimits)
  let chosen := self.withSelection (some payload)
    "Selection changed; prepared ballot state was cleared."
  pure (chosen.selectionStatus artifacts lifecycleState, chosen)

/-- `clear_selection`, with the session it leaves; `voter_session.rs:696`. -/
def clearSelection (self : GuiVoterSessionV1 prover) (artifacts : GuiElectionArtifactsV1)
    (lifecycleState : ElectionLifecycleStateV1) :
    GuiResult (GuiVoterSelectionStatusV1 × GuiVoterSessionV1 prover) := do
  self.ensureBound artifacts
  self.ensureNotCastLocked
  ensureSelectionLifecycleOpen lifecycleState
  let cleared := self.withSelection none "Selection cleared; prepared ballot state was cleared."
  pure (cleared.selectionStatus artifacts lifecycleState, cleared)

/-- `is_preparing` of the prepared state. -/
def isPreparing (self : GuiVoterSessionV1 prover) : Bool :=
  match self.preparedBallot with
  | .preparing _ => true
  | _ => false

/-- `invalidate_for_lifecycle_change` -/
def invalidateForLifecycleChange (self : GuiVoterSessionV1 prover)
    (lifecycleState : ElectionLifecycleStateV1) : GuiVoterSessionV1 prover :=
  if lifecycleState ≠ .opened ∧ self.isPreparing = true then
    self.invalidatePrepared "Lifecycle changed; prepared ballot state was cleared."
  else self

/-- `fail_abandoned_preparation`, with the session it leaves. -/
def failAbandonedPreparation (self : GuiVoterSessionV1 prover) :
    Bool × GuiVoterSessionV1 prover :=
  if self.isPreparing then
    (true, self.invalidatePrepared
      "A previous proof attempt was interrupted before it finished; you may safely try again.")
  else (false, self)

/-- `fail_preparation_operation`, with the session it leaves. -/
def failPreparationOperation (self : GuiVoterSessionV1 prover)
    (token : GuiVoterPreparationTokenV1) : Bool × GuiVoterSessionV1 prover :=
  if self.matchesToken .opened token then
    (true, self.invalidatePrepared
      "The proof attempt did not complete; no prepared ballot is available.")
  else (false, self)

/-- `discard_prepared_ballot`, with the session it leaves; `voter_session.rs:1597`. -/
def discardPreparedBallot (self : GuiVoterSessionV1 prover) (artifacts : GuiElectionArtifactsV1)
    (lifecycleState : ElectionLifecycleStateV1) :
    GuiResult (GuiPreparedBallotStatusV1 × GuiVoterSessionV1 prover) := do
  self.ensureBound artifacts
  self.ensureNotCastLocked
  let discarded := self.invalidatePrepared
    "Ballot discarded so you can change your choice; prepare a new ballot when ready."
  pure (discarded.preparedBallot.status lifecycleState, discarded)

/-- `apply_cast_lock_state` -/
def applyCastLockState (self : GuiVoterSessionV1 prover) (state : GuiVoterCastLockStateV1) :
    GuiVoterSessionV1 prover :=
  { self with castLock := state }

/-- The session of a ballot that has been released: what an export or a release assigns at its
end. -/
def markCast (self : GuiVoterSessionV1 prover) (packageDigestHex : Bytes) :
    GuiVoterSessionV1 prover :=
  { self with castLock := .cast, preparedBallot := .cast (some packageDigestHex) }

/-- `prepared_canonical_ballot_bytes`; `voter_session.rs:1639`. -/
def preparedCanonicalBallotBytes (self : GuiVoterSessionV1 prover)
    (artifacts : GuiElectionArtifactsV1) (lifecycleState : ElectionLifecycleStateV1) :
    GuiResult Bytes := do
  self.ensureBound artifacts
  if lifecycleState ≠ .opened then
    Except.error ⟨"GUI_PREPARED_BALLOT_NOT_SUBMITTABLE", .invalidLifecycleTransition,
      some "submit-ballot", "a prepared ballot can be submitted only while the election is open"⟩
  match self.preparedBallot with
  | .ready canonicalBytes _ => pure canonicalBytes
  | _ => Except.error ⟨"GUI_NO_PREPARED_BALLOT", .invalidInput, some "submit-ballot",
      "no locally verified ballot package is available"⟩

end GuiVoterSessionV1

/-- The calls on a voter session, with their arguments. -/
inductive VoterCall (prover : TriptychProverCrate crate Scalar) where
  | install (credential : VoterGovernanceCredentialV1 prover)
      (origin : GuiVoterCredentialOriginV1) (artifacts : GuiElectionArtifactsV1)
  | generate (drawn : Result (TariTriptychSecretKeyV1 prover))
      (artifacts : GuiElectionArtifactsV1)
  | take
  | setOrigin (origin : GuiVoterCredentialOriginV1)
  | resetCredential
  | resetWorkflow
  | setSelection (artifacts : GuiElectionArtifactsV1) (lifecycleState : ElectionLifecycleStateV1)
      (selectedOptionIdsHex : List Text) (abstain : Bool)
  | clearSelection (artifacts : GuiElectionArtifactsV1)
      (lifecycleState : ElectionLifecycleStateV1)
  | begin (lifecycleState : ElectionLifecycleStateV1)
  | lifecycleChange (lifecycleState : ElectionLifecycleStateV1)
  | prepare (artifacts : GuiElectionArtifactsV1) (lifecycleState : ElectionLifecycleStateV1)
      (draws : Option prover.Randomness)
  | failAbandoned
  | failOperation (token : GuiVoterPreparationTokenV1)
  | discard (artifacts : GuiElectionArtifactsV1) (lifecycleState : ElectionLifecycleStateV1)
  | applyCastLock (state : GuiVoterCastLockStateV1)
  | markCast (packageDigestHex : Bytes)

namespace GuiVoterSessionV1

/-- The session behind a call that leaves it as it was when it is refused. -/
def after {α : Type} (self : GuiVoterSessionV1 prover)
    (result : GuiResult (α × GuiVoterSessionV1 prover)) : GuiVoterSessionV1 prover :=
  match result with
  | .ok (_, next) => next
  | .error _ => self

variable [DecidableEq Scalar] [AddCommGroup crate.dalekV4.Point]
  [Module Scalar crate.dalekV4.Point]

/-- The session behind a call. -/
def call (provider : HashProvider) (self : GuiVoterSessionV1 prover) :
    VoterCall prover → GuiVoterSessionV1 prover
  | .install credential origin artifacts =>
    self.after (self.installCredentialWithOrigin credential origin artifacts)
  | .generate drawn artifacts => self.after (self.generateCredential drawn artifacts)
  | .take => self.takeCredentialWithOrigin.2
  | .setOrigin origin => (self.setCredentialOrigin origin).2
  | .resetCredential => self.resetCredential.2
  | .resetWorkflow => self.resetWorkflow
  | .setSelection artifacts lifecycleState selectedOptionIdsHex abstain =>
    self.after (self.setSelection artifacts lifecycleState selectedOptionIdsHex abstain)
  | .clearSelection artifacts lifecycleState =>
    self.after (self.clearSelection artifacts lifecycleState)
  | .begin lifecycleState => self.after (self.beginPreparationOperation lifecycleState)
  | .lifecycleChange lifecycleState => self.invalidateForLifecycleChange lifecycleState
  | .prepare artifacts lifecycleState draws =>
    (self.prepareBallot provider artifacts lifecycleState draws).2
  | .failAbandoned => self.failAbandonedPreparation.2
  | .failOperation token => (self.failPreparationOperation token).2
  | .discard artifacts lifecycleState =>
    self.after (self.discardPreparedBallot artifacts lifecycleState)
  | .applyCastLock state => self.applyCastLockState state
  | .markCast packageDigestHex => self.markCast packageDigestHex

/-- The session behind a run of calls, successful or refused. -/
def run (provider : HashProvider) (self : GuiVoterSessionV1 prover)
    (calls : List (VoterCall prover)) : GuiVoterSessionV1 prover :=
  calls.foldl (call provider) self

end GuiVoterSessionV1

end

/-! ### What one call can do -/

namespace GuiVoterSessionV1

section

variable {crate : TriptychCrate} {Scalar : Type} [Field Scalar]
  {prover : TriptychProverCrate crate Scalar}

/-- What a preparation depends on: everything but the origin of the credential and the lock. -/
structure Agrees (session next : GuiVoterSessionV1 prover) : Prop where
  binding : next.electionBinding = session.electionBinding
  secret : next.secret = session.secret
  eligibility : next.eligibility = session.eligibility
  selection : next.selection = session.selection
  credentialGeneration : next.credentialGeneration = session.credentialGeneration
  selectionRevision : next.selectionRevision = session.selectionRevision
  preparationGeneration : next.preparationGeneration = session.preparationGeneration
  prepared : next.preparedBallot = session.preparedBallot

theorem Agrees.refl (self : GuiVoterSessionV1 prover) : self.Agrees self :=
  ⟨rfl, rfl, rfl, rfl, rfl, rfl, rfl, rfl⟩

theorem Agrees.trans {first second third : GuiVoterSessionV1 prover} (h : first.Agrees second)
    (h' : second.Agrees third) : first.Agrees third where
  binding := h'.binding.trans h.binding
  secret := h'.secret.trans h.secret
  eligibility := h'.eligibility.trans h.eligibility
  selection := h'.selection.trans h.selection
  credentialGeneration := h'.credentialGeneration.trans h.credentialGeneration
  selectionRevision := h'.selectionRevision.trans h.selectionRevision
  preparationGeneration := h'.preparationGeneration.trans h.preparationGeneration
  prepared := h'.prepared.trans h.prepared

/-- The prepared state has been dropped, and with it every operation that was under way. -/
structure Drops (session next : GuiVoterSessionV1 prover) : Prop where
  binding : next.electionBinding = session.electionBinding
  notReady : ∀ canonicalBytes summary, next.preparedBallot ≠ .ready canonicalBytes summary
  notPreparing : ∀ operationId, next.preparedBallot ≠ .preparing operationId
  generation : session.preparationGeneration.toNat ≤ next.preparationGeneration.toNat

theorem le_saturatingSucc (n : UInt64) : n.toNat ≤ (saturatingSucc n).toNat := by
  have hlt := n.toNat_lt
  rw [toNat_saturatingSucc]
  omega

/-- Whatever else has changed, invalidation drops the prepared state. -/
theorem drops_invalidatePrepared {self changed : GuiVoterSessionV1 prover}
    (hbinding : changed.electionBinding = self.electionBinding)
    (hgeneration : self.preparationGeneration.toNat ≤ changed.preparationGeneration.toNat)
    {reason : String} : self.Drops (changed.invalidatePrepared reason) where
  binding := hbinding
  notReady _ _ h := by cases h
  notPreparing _ h := by cases h
  generation := hgeneration.trans (le_saturatingSucc _)

theorem drops_withCredential (self : GuiVoterSessionV1 prover)
    (credential : Option (GuiVoterCredentialSessionV1 prover)) (reason : String) :
    self.Drops (self.withCredential credential reason) := by
  apply drops_invalidatePrepared
  · rfl
  · exact Nat.le_refl _

theorem drops_withSelection (self : GuiVoterSessionV1 prover)
    (selection : Option ApprovalBallotPayload) (reason : String) :
    self.Drops (self.withSelection selection reason) := by
  apply drops_invalidatePrepared
  · rfl
  · exact Nat.le_refl _

theorem agrees_setCredentialOrigin (self : GuiVoterSessionV1 prover)
    (origin : GuiVoterCredentialOriginV1) : self.Agrees (self.setCredentialOrigin origin).2 := by
  have hsecret := self.secret_setCredentialOrigin origin
  unfold setCredentialOrigin at hsecret ⊢
  cases hcredential : self.credential with
  | none => exact Agrees.refl self
  | some credential =>
    rw [hcredential] at hsecret
    refine ⟨rfl, hsecret, ?_, rfl, rfl, rfl, rfl, rfl⟩
    unfold eligibility
    rw [hcredential]

/-- A refused call changes nothing. -/
theorem after_cases {α : Type} (self : GuiVoterSessionV1 prover)
    (result : GuiResult (α × GuiVoterSessionV1 prover)) :
    self.after result = self ∨ ∃ answer, result = .ok (answer, self.after result) := by
  cases result with
  | error e => exact .inl rfl
  | ok pair => exact .inr ⟨pair.1, rfl⟩

/-- A call that can be refused changes nothing then. -/
theorem agrees_or_drops_after {α : Type} {self : GuiVoterSessionV1 prover}
    {result : GuiResult (α × GuiVoterSessionV1 prover)}
    (hdrops : ∀ {answer next}, result = .ok (answer, next) → self.Drops next) :
    self.Agrees (self.after result) ∨ self.Drops (self.after result) := by
  rcases self.after_cases result with hsame | ⟨answer, hok⟩
  · left
    rw [hsame]
    exact Agrees.refl self
  · exact .inr (hdrops hok)

theorem agrees_or_drops_takeCredentialWithOrigin (self : GuiVoterSessionV1 prover) :
    self.Agrees self.takeCredentialWithOrigin.2 ∨ self.Drops self.takeCredentialWithOrigin.2 := by
  unfold takeCredentialWithOrigin
  cases self.credential with
  | none => exact .inl (Agrees.refl self)
  | some credential => exact .inr (self.drops_withCredential _ _)

theorem agrees_or_drops_invalidateForLifecycleChange (self : GuiVoterSessionV1 prover)
    (lifecycleState : ElectionLifecycleStateV1) :
    self.Agrees (self.invalidateForLifecycleChange lifecycleState) ∨
      self.Drops (self.invalidateForLifecycleChange lifecycleState) := by
  unfold invalidateForLifecycleChange
  split
  · exact .inr (drops_invalidatePrepared rfl (Nat.le_refl _))
  · exact .inl (Agrees.refl self)

theorem agrees_or_drops_failAbandonedPreparation (self : GuiVoterSessionV1 prover) :
    self.Agrees self.failAbandonedPreparation.2 ∨ self.Drops self.failAbandonedPreparation.2 := by
  unfold failAbandonedPreparation
  split
  · exact .inr (drops_invalidatePrepared rfl (Nat.le_refl _))
  · exact .inl (Agrees.refl self)

theorem agrees_or_drops_failPreparationOperation (self : GuiVoterSessionV1 prover)
    (token : GuiVoterPreparationTokenV1) :
    self.Agrees (self.failPreparationOperation token).2 ∨
      self.Drops (self.failPreparationOperation token).2 := by
  unfold failPreparationOperation
  split
  · exact .inr (drops_invalidatePrepared rfl (Nat.le_refl _))
  · exact .inl (Agrees.refl self)

theorem drops_of_setSelection {self chosen : GuiVoterSessionV1 prover}
    {artifacts : GuiElectionArtifactsV1} {lifecycleState : ElectionLifecycleStateV1}
    {selectedOptionIdsHex : List Text} {abstain : Bool} {status : GuiVoterSelectionStatusV1}
    (h : self.setSelection artifacts lifecycleState selectedOptionIdsHex abstain =
      .ok (status, chosen)) :
    self.Drops chosen := by
  simp only [setSelection, bind_eq_ok] at h
  obtain ⟨-, -, -, -, ids, -, h⟩ := h
  split at h
  · simp [bind, Except.bind] at h
  · simp only [bind_eq_ok] at h
    obtain ⟨-, -, payload, -, h⟩ := h
    cases h
    exact self.drops_withSelection _ _

theorem drops_of_clearSelection {self cleared : GuiVoterSessionV1 prover}
    {artifacts : GuiElectionArtifactsV1} {lifecycleState : ElectionLifecycleStateV1}
    {status : GuiVoterSelectionStatusV1}
    (h : self.clearSelection artifacts lifecycleState = .ok (status, cleared)) :
    self.Drops cleared := by
  simp only [clearSelection, bind_eq_ok] at h
  obtain ⟨-, -, -, -, -, -, h⟩ := h
  cases h
  exact self.drops_withSelection _ _

theorem drops_of_discardPreparedBallot {self discarded : GuiVoterSessionV1 prover}
    {artifacts : GuiElectionArtifactsV1} {lifecycleState : ElectionLifecycleStateV1}
    {status : GuiPreparedBallotStatusV1}
    (h : self.discardPreparedBallot artifacts lifecycleState = .ok (status, discarded)) :
    self.Drops discarded := by
  simp only [discardPreparedBallot, bind_eq_ok] at h
  obtain ⟨-, -, -, -, h⟩ := h
  cases h
  exact drops_invalidatePrepared rfl (Nat.le_refl _)

end

section

variable {crate : TriptychCrate} {Scalar : Type} [Field Scalar] [DecidableEq Scalar]
  [AddCommGroup crate.dalekV4.Point] [Module Scalar crate.dalekV4.Point]
  {prover : TriptychProverCrate crate Scalar} {provider : HashProvider}

/-- The bytes of a prepared ballot, and what they were made from. -/
structure PreparedFrom (provider : HashProvider) (session : GuiVoterSessionV1 prover)
    (canonicalBytes : Bytes) (summary : GuiPreparedBallotSummaryV1)
    (artifacts : GuiElectionArtifactsV1) (secretKey : TariTriptychSecretKeyV1 prover)
    (payload : ApprovalBallotPayload) : Prop where
  bound : session.electionBinding = .fromArtifacts artifacts
  hasSecret : session.secret = some secretKey
  isEligible : session.eligibility = .eligible
  hasSelection : session.selection = some payload
  proved : ∃ randomness digest, proveAndVerify provider artifacts secretKey payload randomness =
      .ok (canonicalBytes, digest) ∧
    summary = session.summaryOf artifacts payload canonicalBytes digest

theorem PreparedFrom.of_agrees {self next : GuiVoterSessionV1 prover} {canonicalBytes : Bytes}
    {summary : GuiPreparedBallotSummaryV1} {artifacts : GuiElectionArtifactsV1}
    {secretKey : TariTriptychSecretKeyV1 prover} {payload : ApprovalBallotPayload}
    (h : self.PreparedFrom provider canonicalBytes summary artifacts secretKey payload)
    (hagrees : self.Agrees next) :
    next.PreparedFrom provider canonicalBytes summary artifacts secretKey payload where
  bound := hagrees.binding.trans h.bound
  hasSecret := hagrees.secret.trans h.hasSecret
  isEligible := hagrees.eligibility.trans h.isEligible
  hasSelection := hagrees.selection.trans h.hasSelection
  proved := by
    obtain ⟨randomness, digest, hproved, hsummary⟩ := h.proved
    refine ⟨randomness, digest, hproved, ?_⟩
    rw [hsummary, summaryOf, summaryOf, hagrees.binding]

theorem drops_of_installCredentialWithOrigin {self installed : GuiVoterSessionV1 prover}
    {credential : VoterGovernanceCredentialV1 prover} {origin : GuiVoterCredentialOriginV1}
    {artifacts : GuiElectionArtifactsV1} {status : GuiVoterCredentialStatusV1}
    (h : self.installCredentialWithOrigin credential origin artifacts =
      .ok (status, installed)) :
    self.Drops installed := by
  obtain ⟨_, -, h⟩ := bind_eq_ok.mp h
  obtain ⟨session, -, h⟩ := bind_eq_ok.mp h
  cases h
  exact self.drops_withCredential _ _

theorem drops_of_generateCredential {self generated : GuiVoterSessionV1 prover}
    {drawn : Result (TariTriptychSecretKeyV1 prover)} {artifacts : GuiElectionArtifactsV1}
    {status : GuiVoterCredentialStatusV1}
    (h : self.generateCredential drawn artifacts = .ok (status, generated)) :
    self.Drops generated := by
  obtain ⟨_, -, h⟩ := bind_eq_ok.mp h
  obtain ⟨session, -, h⟩ := bind_eq_ok.mp h
  cases h
  exact self.drops_withCredential _ _

/-- The proof work leaves the session as it was, drops what was prepared, or makes the ballot of
the session ready. -/
theorem prepareBallot_cases (provider : HashProvider) (self : GuiVoterSessionV1 prover)
    (artifacts : GuiElectionArtifactsV1) (lifecycleState : ElectionLifecycleStateV1)
    (draws : Option prover.Randomness) :
    (self.prepareBallot provider artifacts lifecycleState draws).2 = self ∨
      self.Drops (self.prepareBallot provider artifacts lifecycleState draws).2 ∨
      ∃ randomness credential payload canonicalBytes digest,
        self.CanPrepare artifacts credential payload ∧
        proveAndVerify provider artifacts credential.secretKey payload randomness =
          .ok (canonicalBytes, digest) ∧
        (self.prepareBallot provider artifacts lifecycleState draws).2 =
          { self with
            preparationGeneration := saturatingSucc self.preparationGeneration
            preparedBallot :=
              .ready canonicalBytes (self.summaryOf artifacts payload canonicalBytes digest) } := by
  unfold prepareBallot
  cases hbound : self.ensureBound artifacts with
  | error e => exact .inl rfl
  | ok _ =>
  cases hbegin : self.beginPreparationOperation lifecycleState with
  | error e => exact .inl rfl
  | ok begun =>
  obtain ⟨hunlocked, -, heligible, -, hbegun⟩ := beginPreparationOperation_eq_ok.mp hbegin
  subst hbegun
  dsimp only
  right
  split
  · left
    apply drops_invalidatePrepared
    · rfl
    · exact le_saturatingSucc _
  next canonicalBytes summary hwork =>
  split
  · right
    obtain ⟨randomness, credential, payload, digest, -, hcredential, hselection, hproved,
      hsummary⟩ := of_caughtWork hwork
    replace hcredential : self.credential = some credential := hcredential
    subst hsummary
    refine ⟨randomness, credential, payload, canonicalBytes, digest,
      ⟨ensureBound_eq_ok.mp hbound, hunlocked, hcredential, ?_, hselection⟩, hproved, rfl⟩
    simpa only [eligibility, hcredential] using heligible
  · left
    apply drops_invalidatePrepared
    · rfl
    · exact le_saturatingSucc _

/-- Everything one call can do to a session. -/
theorem call_cases (provider : HashProvider) (self : GuiVoterSessionV1 prover)
    (c : VoterCall prover) :
    self.Agrees (self.call provider c) ∨ self.Drops (self.call provider c) ∨
      (∃ lifecycleState token, self.beginPreparationOperation lifecycleState =
        .ok (token, self.call provider c)) ∨
      ∃ artifacts credential payload randomness canonicalBytes digest,
        self.CanPrepare artifacts credential payload ∧
        proveAndVerify provider artifacts credential.secretKey payload randomness =
          .ok (canonicalBytes, digest) ∧
        self.call provider c =
          { self with
            preparationGeneration := saturatingSucc self.preparationGeneration
            preparedBallot :=
              .ready canonicalBytes (self.summaryOf artifacts payload canonicalBytes digest) } := by
  cases c with
  | install credential origin artifacts =>
    exact (agrees_or_drops_after drops_of_installCredentialWithOrigin).imp_right .inl
  | generate drawn artifacts =>
    exact (agrees_or_drops_after drops_of_generateCredential).imp_right .inl
  | take => exact self.agrees_or_drops_takeCredentialWithOrigin.imp_right .inl
  | setOrigin origin => exact .inl (self.agrees_setCredentialOrigin origin)
  | resetCredential => exact .inr (.inl (self.drops_withCredential _ _))
  | resetWorkflow =>
    right
    left
    apply drops_invalidatePrepared
    · rfl
    · exact Nat.le_refl _
  | setSelection artifacts lifecycleState selectedOptionIdsHex abstain =>
    exact (agrees_or_drops_after drops_of_setSelection).imp_right .inl
  | clearSelection artifacts lifecycleState =>
    exact (agrees_or_drops_after drops_of_clearSelection).imp_right .inl
  | begin lifecycleState =>
    rcases self.after_cases (self.beginPreparationOperation lifecycleState) with hsame | ⟨token, h⟩
    · left
      show self.Agrees (self.after (self.beginPreparationOperation lifecycleState))
      rw [hsame]
      exact Agrees.refl self
    · exact .inr (.inr (.inl ⟨lifecycleState, token, h⟩))
  | lifecycleChange lifecycleState =>
    exact (self.agrees_or_drops_invalidateForLifecycleChange lifecycleState).imp_right .inl
  | prepare artifacts lifecycleState draws =>
    rcases self.prepareBallot_cases provider artifacts lifecycleState draws with
      hsame | hdrops |
      ⟨randomness, credential, payload, canonicalBytes, digest, hcan, hproved, hnext⟩
    · left
      show self.Agrees (self.prepareBallot provider artifacts lifecycleState draws).2
      rw [hsame]
      exact Agrees.refl self
    · exact .inr (.inl hdrops)
    · exact .inr (.inr (.inr ⟨artifacts, credential, payload, randomness, canonicalBytes, digest,
        hcan, hproved, hnext⟩))
  | failAbandoned => exact self.agrees_or_drops_failAbandonedPreparation.imp_right .inl
  | failOperation token =>
    exact (self.agrees_or_drops_failPreparationOperation token).imp_right .inl
  | discard artifacts lifecycleState =>
    exact (agrees_or_drops_after drops_of_discardPreparedBallot).imp_right .inl
  | applyCastLock state => exact .inl ⟨rfl, rfl, rfl, rfl, rfl, rfl, rfl, rfl⟩
  | markCast packageDigestHex =>
    exact .inr (.inl ⟨rfl, fun _ _ h ↦ (by cases h), fun _ h ↦ (by cases h), Nat.le_refl _⟩)

/-! ### What holds in every run -/

/-- The prepared state stands for the credential and the selection that the session holds. -/
structure Consistent (provider : HashProvider) (session : GuiVoterSessionV1 prover) : Prop where
  ready : ∀ canonicalBytes summary, session.preparedBallot = .ready canonicalBytes summary →
    ∃ artifacts secretKey payload,
      session.PreparedFrom provider canonicalBytes summary artifacts secretKey payload
  preparing : ∀ operationId, session.preparedBallot = .preparing operationId →
    operationId = session.preparationGeneration ∧ session.eligibility = .eligible ∧
      session.selection.isSome = true

theorem consistent_new (provider : HashProvider) (prover : TriptychProverCrate crate Scalar)
    (artifacts : GuiElectionArtifactsV1) : (new prover artifacts).Consistent provider where
  ready _ _ h := by cases h
  preparing _ h := by cases h

/-- One call keeps the prepared state consistent. -/
theorem Consistent.call {self : GuiVoterSessionV1 prover} (h : self.Consistent provider)
    (c : VoterCall prover) : (self.call provider c).Consistent provider := by
  rcases self.call_cases provider c with hagrees | hdrops | ⟨lifecycleState, token, hbegin⟩ |
    ⟨artifacts, credential, payload, randomness, canonicalBytes, digest, hcan, hproved, hnext⟩
  · constructor
    · intro canonicalBytes summary hready
      rw [hagrees.prepared] at hready
      obtain ⟨artifacts, secretKey, payload, hprepared⟩ := h.ready _ _ hready
      exact ⟨artifacts, secretKey, payload, hprepared.of_agrees hagrees⟩
    · intro operationId hpreparing
      rw [hagrees.prepared] at hpreparing
      rw [hagrees.preparationGeneration, hagrees.eligibility, hagrees.selection]
      exact h.preparing _ hpreparing
  · exact ⟨fun _ _ hready ↦ absurd hready (hdrops.notReady _ _),
      fun _ hpreparing ↦ absurd hpreparing (hdrops.notPreparing _)⟩
  · obtain ⟨-, -, heligible, hselected, hbegun⟩ := beginPreparationOperation_eq_ok.mp hbegin
    rw [(Prod.mk.inj hbegun).2]
    constructor
    · intro _ _ hready
      cases hready
    · intro operationId hpreparing
      cases hpreparing
      exact ⟨rfl, heligible, hselected⟩
  · rw [hnext]
    constructor
    · intro bytes summary hready
      cases hready
      refine ⟨artifacts, credential.secretKey, payload, hcan.bound, ?_, ?_, hcan.hasSelection,
        randomness, digest, hproved, rfl⟩
      · show self.secret = _
        rw [secret, hcan.hasCredential, Option.map_some]
      · show self.eligibility = _
        simp only [eligibility, hcan.hasCredential, hcan.isEligible]
    · intro _ hpreparing
      cases hpreparing

/-- So does every run of calls. -/
theorem Consistent.run {self : GuiVoterSessionV1 prover} (h : self.Consistent provider)
    (calls : List (VoterCall prover)) : (self.run provider calls).Consistent provider := by
  induction calls generalizing self with
  | nil => exact h
  | cons c calls ih => exact ih (h.call c)

/-- The election of a session is that it was made for. -/
theorem electionBinding_run (provider : HashProvider) (self : GuiVoterSessionV1 prover)
    (calls : List (VoterCall prover)) :
    (self.run provider calls).electionBinding = self.electionBinding := by
  induction calls generalizing self with
  | nil => rfl
  | cons c calls ih =>
    refine (ih (self.call provider c)).trans ?_
    rcases self.call_cases provider c with hagrees | hdrops | ⟨lifecycleState, token, hbegin⟩ |
      ⟨artifacts, credential, payload, randomness, canonicalBytes, digest, -, -, hnext⟩
    · exact hagrees.binding
    · exact hdrops.binding
    · obtain ⟨-, -, -, -, hbegun⟩ := beginPreparationOperation_eq_ok.mp hbegin
      rw [(Prod.mk.inj hbegun).2]
    · rw [hnext]

/-! ### The ballot that is ready -/

/-- The canonical bytes of a payload's package for an election, with a proof of the secret key
that verifies in what they decode to. -/
structure IsBallotOf (provider : HashProvider) (artifacts : GuiElectionArtifactsV1)
    (secretKey : TariTriptychSecretKeyV1 prover) (payload : ApprovalBallotPayload)
    (canonicalBytes : Bytes) : Prop where
  made : ∃ verifier statement randomness, ∃ package : BallotPackageV1,
    buildTariTriptychVerifierFromRegistryV1 crate artifacts.registry provider = .ok verifier ∧
    reconstructApprovalProofStatement artifacts.manifest payload provider = .ok statement ∧
    proveTariTriptychPrototypeV1 prover statement verifier secretKey randomness =
      .ok package.proof ∧
    package.toBallotPackageV1Input = ⟨protocolVersionV1, artifacts.manifestHash,
      artifacts.manifest.fields.proofSuiteId, package.proof, payload⟩ ∧
    package.toCanonicalCbor = .ok canonicalBytes
  verifies : ∃ verifier decoded verified,
    buildTariTriptychVerifierFromRegistryV1 crate artifacts.registry provider = .ok verifier ∧
    BallotPackageV1.fromCanonicalCbor canonicalBytes artifacts.candidates
      artifacts.manifest.fields.approvalLimits = .ok decoded ∧
    decoded.manifestHash = artifacts.manifestHash ∧
    verifyApprovalProof artifacts.manifest decoded.payload decoded.proof provider
      (verifier.toProofVerifier crate) = .ok verified

/-- What the proof work yields is a ballot, and its digest is that of the bytes. -/
theorem isBallotOf_of_proveAndVerify {artifacts : GuiElectionArtifactsV1}
    {secretKey : TariTriptychSecretKeyV1 prover} {payload : ApprovalBallotPayload}
    {randomness : prover.Randomness} {canonicalBytes : Bytes} {digest : Bytes32}
    (h : proveAndVerify provider artifacts secretKey payload randomness =
      .ok (canonicalBytes, digest)) :
    IsBallotOf provider artifacts secretKey payload canonicalBytes ∧
      digest = hashDomainSeparated provider .ballotPackageV1 canonicalBytes := by
  simp only [proveAndVerify, bind_eq_ok, ofProtocol_eq_ok, refuseIf_eq_ok,
    decide_eq_false_iff_not, not_not] at h
  obtain ⟨verifier, hverifier, statement, hstatement, proof, hproof, package, hpackage, bytes,
    hbytes, decoded, hdecoded, -, ⟨-, hmanifestHash, -⟩, verified, hverified, found, hdigest,
    hpure⟩ := h
  cases hpure
  have hinput := BallotPackageV1.toInput_of_new hpackage
  have hpackageProof : package.proof = proof := congrArg BallotPackageV1Input.proof hinput
  refine ⟨⟨⟨verifier, statement, randomness, package, hverifier, hstatement, ?_, ?_, hbytes⟩,
    ⟨verifier, decoded, verified, hverifier, hdecoded, hmanifestHash, hverified⟩⟩, ?_⟩
  · rw [hpackageProof]
    exact hproof
  · rw [hpackageProof]
    exact hinput
  · obtain ⟨encoded, hencoded, hpure⟩ := bind_eq_ok.mp hdigest
    rw [(BallotPackageV1.toCanonicalCbor_of_fromCanonicalCbor hdecoded).2] at hencoded
    cases hencoded
    cases hpure
    rfl

/-- A ballot that is ready in a consistent session is that of its selection and credential. -/
theorem Consistent.current {session : GuiVoterSessionV1 prover} (h : session.Consistent provider)
    {artifacts₀ : GuiElectionArtifactsV1}
    (hbound : session.electionBinding = .fromArtifacts artifacts₀)
    {canonicalBytes : Bytes} {summary : GuiPreparedBallotSummaryV1}
    (hready : session.preparedBallot = .ready canonicalBytes summary) :
    ∃ artifacts secretKey payload,
      GuiVoterElectionBindingV1.fromArtifacts artifacts = .fromArtifacts artifacts₀ ∧
      session.secret = some secretKey ∧ session.eligibility = .eligible ∧
      session.selection = some payload ∧
      IsBallotOf provider artifacts secretKey payload canonicalBytes ∧
      summary = session.summaryOf artifacts payload canonicalBytes
        (hashDomainSeparated provider .ballotPackageV1 canonicalBytes) := by
  obtain ⟨artifacts, secretKey, payload, hprepared⟩ := h.ready _ _ hready
  obtain ⟨randomness, digest, hproved, hsummary⟩ := hprepared.proved
  obtain ⟨hballot, hdigest⟩ := isBallotOf_of_proveAndVerify hproved
  refine ⟨artifacts, secretKey, payload, hprepared.bound.symm.trans hbound, hprepared.hasSecret,
    hprepared.isEligible, hprepared.hasSelection, hballot, ?_⟩
  rw [← hdigest]
  exact hsummary

/-- A ballot that is ready is the current one. Whatever calls a session has seen since it was made
for an election, refused ones among them: where its prepared state is ready, the bytes are the
canonical package of the selection the session holds now, proved with the secret key it holds now,
they decode and verify for this election, and the summary describes this selection and these
bytes. -/
theorem ready_isCurrent (artifacts₀ : GuiElectionArtifactsV1) (calls : List (VoterCall prover))
    {canonicalBytes : Bytes} {summary : GuiPreparedBallotSummaryV1}
    (h : ((new prover artifacts₀).run provider calls).preparedBallot =
      .ready canonicalBytes summary) :
    ∃ artifacts secretKey payload,
      GuiVoterElectionBindingV1.fromArtifacts artifacts = .fromArtifacts artifacts₀ ∧
      ((new prover artifacts₀).run provider calls).secret = some secretKey ∧
      ((new prover artifacts₀).run provider calls).eligibility = .eligible ∧
      ((new prover artifacts₀).run provider calls).selection = some payload ∧
      IsBallotOf provider artifacts secretKey payload canonicalBytes ∧
      summary = ((new prover artifacts₀).run provider calls).summaryOf artifacts payload
        canonicalBytes (hashDomainSeparated provider .ballotPackageV1 canonicalBytes) := by
  have hconsistent := (consistent_new provider prover artifacts₀).run calls
  have hbinding := (new prover artifacts₀).electionBinding_run provider calls
  exact hconsistent.current (hbinding.trans rfl) h

/-! ### Tokens -/

omit [DecidableEq Scalar] [AddCommGroup crate.dalekV4.Point]
  [Module Scalar crate.dalekV4.Point] in
theorem matchesToken_eq_true {self : GuiVoterSessionV1 prover}
    {lifecycleState : ElectionLifecycleStateV1} {token : GuiVoterPreparationTokenV1} :
    self.matchesToken lifecycleState token = true ↔
      lifecycleState = .opened ∧ self.preparedBallot = .preparing token.operationId ∧
      self.electionBinding = token.electionBinding ∧
      self.credentialGeneration = token.credentialGeneration ∧
      self.selectionRevision = token.selectionRevision ∧
      self.preparationGeneration = token.operationId := by
  simp only [matchesToken, Bool.and_eq_true, decide_eq_true_eq, and_assoc]

/-- The operation of a token is still the one under way, or a later one is, or none. -/
structure Follows (started : GuiVoterSessionV1 prover) (operationId : UInt64)
    (session : GuiVoterSessionV1 prover) : Prop where
  generation : operationId.toNat ≤ session.preparationGeneration.toNat
  same : session.preparedBallot = .preparing operationId → started.Agrees session

/-- One call keeps it so, unless the generations have run out. -/
theorem Follows.call {started self : GuiVoterSessionV1 prover} {operationId : UInt64}
    (h : started.Follows operationId self) (hlt : operationId.toNat < 2 ^ 64 - 1)
    (c : VoterCall prover) : started.Follows operationId (self.call provider c) := by
  have hle := h.generation
  rcases self.call_cases provider c with hagrees | hdrops | ⟨lifecycleState, token, hbegin⟩ |
    ⟨artifacts, credential, payload, randomness, canonicalBytes, digest, -, -, hnext⟩
  · constructor
    · rw [hagrees.preparationGeneration]
      exact hle
    · intro hpreparing
      rw [hagrees.prepared] at hpreparing
      exact (h.same hpreparing).trans hagrees
  · exact ⟨hle.trans hdrops.generation,
      fun hpreparing ↦ absurd hpreparing (hdrops.notPreparing _)⟩
  · obtain ⟨-, -, -, -, hbegun⟩ := beginPreparationOperation_eq_ok.mp hbegin
    rw [(Prod.mk.inj hbegun).2]
    constructor
    · exact hle.trans (le_saturatingSucc _)
    · intro hpreparing
      -- The new operation has the next number.
      have hsame : saturatingSucc self.preparationGeneration = operationId :=
        PreparedBallotStateV1.preparing.inj hpreparing
      have hnat := congrArg UInt64.toNat hsame
      rw [toNat_saturatingSucc] at hnat
      omega
  · rw [hnext]
    constructor
    · exact hle.trans (le_saturatingSucc _)
    · intro hpreparing
      cases hpreparing

theorem Follows.run {started self : GuiVoterSessionV1 prover} {operationId : UInt64}
    (h : started.Follows operationId self) (hlt : operationId.toNat < 2 ^ 64 - 1)
    (calls : List (VoterCall prover)) :
    started.Follows operationId (self.run provider calls) := by
  induction calls generalizing self with
  | nil => exact h
  | cons c calls ih => exact ih (h.call hlt c)

omit [DecidableEq Scalar] [AddCommGroup crate.dalekV4.Point]
  [Module Scalar crate.dalekV4.Point] in
/-- A session is where its own operation stands. -/
theorem follows_self {self : GuiVoterSessionV1 prover} {operationId : UInt64}
    (hle : operationId.toNat ≤ self.preparationGeneration.toNat) :
    self.Follows operationId self :=
  ⟨hle, fun _ ↦ Agrees.refl self⟩

omit [DecidableEq Scalar] [AddCommGroup crate.dalekV4.Point]
  [Module Scalar crate.dalekV4.Point] in
/-- The session that a token was issued in has its operation under way. -/
theorem follows_of_beginPreparationOperation {self started : GuiVoterSessionV1 prover}
    {lifecycleState : ElectionLifecycleStateV1} {token : GuiVoterPreparationTokenV1}
    (h : self.beginPreparationOperation lifecycleState = .ok (token, started)) :
    started.Follows token.operationId started := by
  obtain ⟨-, -, -, -, hbegun⟩ := beginPreparationOperation_eq_ok.mp h
  obtain ⟨rfl, rfl⟩ := Prod.mk.inj hbegun
  exact follows_self (Nat.le_refl _)

/-- An operation that one call has changed anything under is over for good. -/
theorem Follows.over {started self : GuiVoterSessionV1 prover} {operationId : UInt64}
    (h : started.Follows operationId self) (hlt : operationId.toNat < 2 ^ 64 - 1)
    {c : VoterCall prover} (hchange : ¬ self.Agrees (self.call provider c))
    (calls : List (VoterCall prover)) :
    ((self.call provider c).run provider calls).preparedBallot ≠ .preparing operationId := by
  intro hpreparing
  have hcalled : self.Follows operationId (self.call provider c) :=
    (follows_self h.generation).call hlt c
  have hrun :
      (self.call provider c).Follows operationId ((self.call provider c).run provider calls) :=
    (follows_self hcalled.generation).run hlt calls
  -- Were it under way again, then it was already behind the call.
  have hunder : (self.call provider c).preparedBallot = .preparing operationId :=
    (hrun.same hpreparing).prepared.symm.trans hpreparing
  exact hchange (hcalled.same hunder)

/-- A token stands for its own operation alone. After any calls behind the one that issued it, the
token matches exactly if the election is open and the session still agrees with the one that it was
issued for, in the prepared state, the credential, the selection and all generations.
`fail_preparation_operation` does not ask for the lifecycle: it clears the preparation exactly if
the session still agrees, and changes nothing otherwise. Only an operation with the greatest number
of all is not told from the next one. -/
theorem matchesToken_iff_agrees (provider : HashProvider) (self started : GuiVoterSessionV1 prover)
    (lifecycleState : ElectionLifecycleStateV1) (token : GuiVoterPreparationTokenV1)
    (hbegin : self.beginPreparationOperation lifecycleState = .ok (token, started))
    (hlt : token.operationId.toNat < 2 ^ 64 - 1) (calls : List (VoterCall prover))
    (now : ElectionLifecycleStateV1) :
    ((started.run provider calls).matchesToken now token = true ↔
      now = .opened ∧ started.Agrees (started.run provider calls)) ∧
    (((started.run provider calls).failPreparationOperation token).1 = true ↔
      started.Agrees (started.run provider calls)) ∧
    (¬ started.Agrees (started.run provider calls) →
      (started.run provider calls).failPreparationOperation token =
        (false, started.run provider calls)) := by
  have hfollows := follows_of_beginPreparationOperation hbegin
  obtain ⟨-, -, -, -, hbegun⟩ := beginPreparationOperation_eq_ok.mp hbegin
  obtain ⟨htoken, hstarted⟩ := Prod.mk.inj hbegun
  have hmatches : ∀ state, (started.run provider calls).matchesToken state token = true ↔
      state = .opened ∧ started.Agrees (started.run provider calls) := by
    intro state
    rw [matchesToken_eq_true]
    constructor
    · rintro ⟨hopened, hpreparing, -⟩
      exact ⟨hopened, (hfollows.run hlt calls).same hpreparing⟩
    · rintro ⟨hopened, hagrees⟩
      rw [hagrees.prepared, hagrees.binding, hagrees.credentialGeneration,
        hagrees.selectionRevision, hagrees.preparationGeneration, htoken, hstarted]
      exact ⟨hopened, rfl, rfl, rfl, rfl, rfl⟩
  have hopen : (started.run provider calls).matchesToken .opened token = true ↔
      started.Agrees (started.run provider calls) :=
    (hmatches .opened).trans (and_iff_right rfl)
  refine ⟨hmatches now, ?_, ?_⟩
  · unfold failPreparationOperation
    split
    · next hmatch => exact iff_of_true rfl (hopen.mp hmatch)
    · next hno => exact iff_of_false (fun h ↦ by cases h) (fun h ↦ hno (hopen.mpr h))
  · intro hnot
    unfold failPreparationOperation
    rw [if_neg fun h ↦ hnot (hopen.mp h)]

/-! ### Behind a preparation -/

omit [DecidableEq Scalar] [AddCommGroup crate.dalekV4.Point]
  [Module Scalar crate.dalekV4.Point] in
theorem ensureNotCastLocked_eq_ok {self : GuiVoterSessionV1 prover} :
    self.ensureNotCastLocked = .ok () ↔ self.castLock = .notCast := by
  unfold ensureNotCastLocked
  cases hlock : self.castLock with
  | notCast => exact ⟨fun _ ↦ rfl, fun _ ↦ rfl⟩
  | castPending => exact ⟨fun h ↦ (by cases h), fun h ↦ (by cases h)⟩
  | cast => exact ⟨fun h ↦ (by cases h), fun h ↦ (by cases h)⟩

omit [DecidableEq Scalar] [AddCommGroup crate.dalekV4.Point]
  [Module Scalar crate.dalekV4.Point] in
theorem isLocked_eq_false {state : GuiVoterCastLockStateV1} :
    state.isLocked = false ↔ state = .notCast := by
  cases state <;> simp [GuiVoterCastLockStateV1.isLocked]

theorem Consistent.of_isPreparing {self : GuiVoterSessionV1 prover} (h : self.Consistent provider)
    (hpreparing : self.isPreparing = true) :
    self.eligibility = .eligible ∧ self.selection.isSome = true := by
  unfold isPreparing at hpreparing
  split at hpreparing
  · next operationId hprepared => exact (h.preparing operationId hprepared).2
  · cases hpreparing

/-- Behind `prepare_ballot` a preparation is under way only if one was before and the call was
refused before its own began. -/
theorem isPreparing_prepareBallot {self : GuiVoterSessionV1 prover}
    (h : self.Consistent provider) (artifacts : GuiElectionArtifactsV1)
    (lifecycleState : ElectionLifecycleStateV1) (draws : Option prover.Randomness) :
    (self.prepareBallot provider artifacts lifecycleState draws).2.isPreparing = false ↔
      (self.isPreparing = true → self.electionBinding = .fromArtifacts artifacts ∧
        self.castLock = .notCast ∧ lifecycleState = .opened) := by
  -- A call that is refused early leaves what was under way.
  have hkept {P : Prop} (hrefused : self.isPreparing = true → ¬ P) :
      self.isPreparing = false ↔ (self.isPreparing = true → P) := by
    cases hpreparing : self.isPreparing with
    | false => exact iff_of_true rfl fun h ↦ (by cases h)
    | true => exact iff_of_false (fun h ↦ (by cases h)) fun h ↦ hrefused hpreparing (h rfl)
  unfold prepareBallot
  cases hbound : self.ensureBound artifacts with
  | error e =>
    refine hkept fun _ hpermitted ↦ ?_
    rw [ensureBound_eq_ok.mpr hpermitted.1] at hbound
    cases hbound
  | ok _ =>
  cases hbegin : self.beginPreparationOperation lifecycleState with
  | error e =>
    refine hkept fun hpreparing hpermitted ↦ ?_
    obtain ⟨heligible, hselected⟩ := h.of_isPreparing hpreparing
    have hbegun := beginPreparationOperation_eq_ok.mpr ⟨isLocked_eq_false.mpr hpermitted.2.1,
      hpermitted.2.2, heligible, hselected, rfl⟩
    rw [hbegin] at hbegun
    cases hbegun
  | ok begun =>
    obtain ⟨hunlocked, hopened, -⟩ := beginPreparationOperation_eq_ok.mp hbegin
    refine iff_of_true ?_ fun _ ↦
      ⟨ensureBound_eq_ok.mp hbound, isLocked_eq_false.mp hunlocked, hopened⟩
    dsimp only
    split
    · rfl
    · split <;> rfl

/-- The preparation of a ballot, in every session that any calls lead to. A ballot that is ready is
the current one; `prepare_ballot`, whether it succeeds, is refused or panics, leaves no preparation
under way exactly if none was, or else it is called for the election of the session, which is open
and without a cast lock; and once any call has changed credential, selection or preparation, a
token of before neither passes the test behind which a ballot is installed nor clears anything. -/
theorem preparation_isCurrent (provider : HashProvider) (artifacts₀ : GuiElectionArtifactsV1)
    (calls : List (VoterCall prover)) :
    let session := (new prover artifacts₀).run provider calls
    (∀ canonicalBytes summary, session.preparedBallot = .ready canonicalBytes summary →
      ∃ artifacts secretKey payload,
        GuiVoterElectionBindingV1.fromArtifacts artifacts = .fromArtifacts artifacts₀ ∧
        session.secret = some secretKey ∧ session.eligibility = .eligible ∧
        session.selection = some payload ∧
        IsBallotOf provider artifacts secretKey payload canonicalBytes ∧
        summary = session.summaryOf artifacts payload canonicalBytes
          (hashDomainSeparated provider .ballotPackageV1 canonicalBytes)) ∧
    (∀ artifacts lifecycleState draws,
      (session.prepareBallot provider artifacts lifecycleState draws).2.isPreparing = false ↔
        (session.isPreparing = true → session.electionBinding = .fromArtifacts artifacts ∧
          session.castLock = .notCast ∧ lifecycleState = .opened)) ∧
    ∀ lifecycleState token started,
      session.beginPreparationOperation lifecycleState = .ok (token, started) →
      token.operationId.toNat < 2 ^ 64 - 1 → ∀ (before : List (VoterCall prover))
        (change : VoterCall prover) (after : List (VoterCall prover)),
        ¬ (started.run provider before).Agrees
            ((started.run provider before).call provider change) →
        let current := ((started.run provider before).call provider change).run provider after
        (∀ now, current.matchesToken now token = false) ∧
          current.failPreparationOperation token = (false, current) := by
  intro session
  have hconsistent : session.Consistent provider :=
    (consistent_new provider prover artifacts₀).run calls
  have hbound : session.electionBinding = .fromArtifacts artifacts₀ :=
    (new prover artifacts₀).electionBinding_run provider calls
  refine ⟨fun _ _ hready ↦ hconsistent.current hbound hready,
    isPreparing_prepareBallot hconsistent, ?_⟩
  intro lifecycleState token started hbegin hlt before change after hchange current
  have hover : current.preparedBallot ≠ .preparing token.operationId :=
    ((follows_of_beginPreparationOperation hbegin).run hlt before).over hlt hchange after
  have hstale : ∀ now, current.matchesToken now token = false := by
    intro now
    rw [← Bool.not_eq_true, matchesToken_eq_true]
    exact fun h ↦ hover h.2.1
  refine ⟨hstale, ?_⟩
  unfold failPreparationOperation
  rw [if_neg (Bool.eq_false_iff.mp (hstale .opened))]

/-! ### What the status says -/

omit [DecidableEq Scalar] [AddCommGroup crate.dalekV4.Point]
  [Module Scalar crate.dalekV4.Point] in
theorem exists_clearSelection_iff {self : GuiVoterSessionV1 prover}
    {artifacts : GuiElectionArtifactsV1} {lifecycleState : ElectionLifecycleStateV1} :
    (∃ cleared, self.clearSelection artifacts lifecycleState = .ok cleared) ↔
      self.electionBinding = .fromArtifacts artifacts ∧ self.castLock = .notCast ∧
        lifecycleState = .opened := by
  simp only [clearSelection, bind_eq_ok]
  constructor
  · rintro ⟨cleared, _, hbound, _, hunlocked, _, hopened, -⟩
    exact ⟨ensureBound_eq_ok.mp hbound, ensureNotCastLocked_eq_ok.mp hunlocked,
      ensureSelectionLifecycleOpen_eq_ok.mp hopened⟩
  · rintro ⟨hbound, hunlocked, hopened⟩
    exact ⟨_, (), ensureBound_eq_ok.mpr hbound, (), ensureNotCastLocked_eq_ok.mpr hunlocked, (),
      ensureSelectionLifecycleOpen_eq_ok.mpr hopened, rfl⟩

/-- Without an eligible credential or without a selection, nothing is prepared. -/
theorem Consistent.idle {self : GuiVoterSessionV1 prover} (h : self.Consistent provider)
    (hmissing : self.eligibility ≠ .eligible ∨ self.selection = none) :
    self.isPreparing = false ∧
      ∀ canonicalBytes summary, self.preparedBallot ≠ .ready canonicalBytes summary := by
  constructor
  · by_contra hpreparing
    obtain ⟨heligible, hselected⟩ := h.of_isPreparing (Bool.eq_true_of_not_eq_false hpreparing)
    rcases hmissing with hnot | hnone
    · exact absurd heligible hnot
    · rw [hnone] at hselected
      cases hselected
  · intro canonicalBytes summary hready
    obtain ⟨_, _, _, hprepared⟩ := h.ready _ _ hready
    rcases hmissing with hnot | hnone
    · exact hnot hprepared.isEligible
    · exact absurd (hprepared.hasSelection.symm.trans hnone) (by simp)

omit [DecidableEq Scalar] [AddCommGroup crate.dalekV4.Point]
  [Module Scalar crate.dalekV4.Point] in
/-- There are bytes to submit exactly if a ballot is ready in an open election. -/
theorem exists_preparedCanonicalBallotBytes_iff {self : GuiVoterSessionV1 prover}
    {artifacts : GuiElectionArtifactsV1} (hbound : self.electionBinding = .fromArtifacts artifacts)
    (lifecycleState : ElectionLifecycleStateV1) :
    (∃ canonicalBytes, self.preparedCanonicalBallotBytes artifacts lifecycleState =
      .ok canonicalBytes) ↔ lifecycleState = .opened ∧
        ∃ canonicalBytes summary, self.preparedBallot = .ready canonicalBytes summary := by
  unfold preparedCanonicalBallotBytes ensureBound
  rw [if_pos hbound]
  by_cases hopened : lifecycleState = .opened
  · cases hprepared : self.preparedBallot <;>
      simp [hopened, bind, Except.bind, pure, Except.pure]
  · simp [hopened, bind, Except.bind]

/-- The workflow state promises what the calls then do, once the election has been reviewed (before
that the state shown is always the one that asks for the review). In every session that any calls
lead to: the selection can be cleared exactly if neither a cast lock nor the lifecycle is shown; a
proof can be started exactly if a selection, a proof under way or a prepared ballot is shown; a
proof under way is shown exactly if one is; and a prepared ballot is shown exactly if there is one
to submit and no cast lock. -/
theorem workflowState_promises (artifacts₀ : GuiElectionArtifactsV1)
    (calls : List (VoterCall prover)) (lifecycleState : ElectionLifecycleStateV1) :
    let session := (new prover artifacts₀).run provider calls
    ((∃ cleared, session.clearSelection artifacts₀ lifecycleState = .ok cleared) ↔
      session.workflowState true lifecycleState ≠ .ballotCast ∧
      session.workflowState true lifecycleState ≠ .castPending ∧
      session.workflowState true lifecycleState ≠ .electionNotOpen) ∧
    ((∃ begun, session.beginPreparationOperation lifecycleState = .ok begun) ↔
      session.workflowState true lifecycleState = .selectionReady ∨
      session.workflowState true lifecycleState = .preparingProof ∨
      session.workflowState true lifecycleState = .preparedBallotReady) ∧
    (session.workflowState true lifecycleState = .preparingProof ↔
      session.castLock = .notCast ∧ lifecycleState = .opened ∧ session.isPreparing = true) ∧
    (session.workflowState true lifecycleState = .preparedBallotReady ↔
      session.castLock = .notCast ∧ ∃ canonicalBytes,
        session.preparedCanonicalBallotBytes artifacts₀ lifecycleState = .ok canonicalBytes) := by
  intro session
  have hconsistent : session.Consistent provider :=
    (consistent_new provider prover artifacts₀).run calls
  have hbound : session.electionBinding = .fromArtifacts artifacts₀ :=
    (new prover artifacts₀).electionBinding_run provider calls
  clear_value session
  rw [exists_clearSelection_iff, exists_preparedCanonicalBallotBytes_iff hbound]
  simp only [beginPreparationOperation_eq_ok, isLocked_eq_false]
  unfold workflowState canPrepareBallot
  cases hlock : session.castLock with
  | cast => simp
  | castPending => simp
  | notCast =>
  by_cases hopened : lifecycleState = .opened
  · by_cases hmissing : session.eligibility ≠ .eligible ∨ session.selection = none
    · obtain ⟨hnotPreparing, hnotReady⟩ := hconsistent.idle hmissing
      cases heligible : session.eligibility <;> cases hselection : session.selection <;>
        simp_all
    · obtain ⟨heligible, hselected⟩ := not_or.mp hmissing
      obtain ⟨payload, hselection⟩ := Option.ne_none_iff_exists'.mp hselected
      unfold isPreparing
      cases hprepared : session.preparedBallot <;> simp_all
  · simp [hopened]

end

end GuiVoterSessionV1

/-! ### A voter who prepares a ballot -/

namespace VoterSample

/-- The credential, the choice of the second candidate, and the proof. -/
def calls : List (VoterCall prover) :=
  [.install secretKey .generated artifacts, .setSelection artifacts .opened [.lit "02"] false,
    .prepare artifacts .opened (some ())]

/-- The session behind them. -/
def prepared : GuiVoterSessionV1 prover :=
  (GuiVoterSessionV1.new prover artifacts).run Verifier.Sample.provider calls

/-- The same credential and choice, and a preparation that is only begun. -/
def begun : List (VoterCall prover) :=
  [.install secretKey .generated artifacts, .setSelection artifacts .opened [.lit "02"] false,
    .begin .opened]

theorem exists_ready : ∃ canonicalBytes summary,
    prepared.preparedBallot = .ready canonicalBytes summary := by
  have hbytes : (prepared.preparedCanonicalBallotBytes artifacts .opened).isOk = true := by
    decide +kernel
  have hbound : prepared.electionBinding = .fromArtifacts artifacts :=
    (GuiVoterSessionV1.new prover artifacts).electionBinding_run Verifier.Sample.provider calls
  cases hresult : prepared.preparedCanonicalBallotBytes artifacts .opened with
  | error e =>
    rw [hresult] at hbytes
    cases hbytes
  | ok canonicalBytes =>
    exact ((GuiVoterSessionV1.exists_preparedCanonicalBallotBytes_iff hbound .opened).mp
      ⟨canonicalBytes, hresult⟩).2

end VoterSample

/-- The ballot behind these calls is ready. -/
theorem ready_isCurrent_sample : ∃ canonicalBytes artifacts secretKey payload,
    VoterSample.prepared.secret = some secretKey ∧
      VoterSample.prepared.selection = some payload ∧
      GuiVoterSessionV1.IsBallotOf Verifier.Sample.provider artifacts secretKey payload
        canonicalBytes := by
  obtain ⟨canonicalBytes, summary, hready⟩ := VoterSample.exists_ready
  obtain ⟨artifacts, secretKey, payload, -, hsecret, -, hselection, hballot, -⟩ :=
    GuiVoterSessionV1.ready_isCurrent VoterSample.artifacts VoterSample.calls hready
  exact ⟨canonicalBytes, artifacts, secretKey, payload, hsecret, hselection, hballot⟩

/-- The token of a preparation that is begun again matches no more. -/
theorem matchesToken_iff_agrees_sample : ∃ token started,
    VoterSample.session.beginPreparationOperation .opened = .ok (token, started) ∧
    (started.run Verifier.Sample.provider []).matchesToken .opened token = true ∧
    (started.run Verifier.Sample.provider [.begin .opened]).matchesToken .opened token = false := by
  refine ⟨_, _, rfl, ?_, ?_⟩
  · have h := GuiVoterSessionV1.matchesToken_iff_agrees Verifier.Sample.provider
      VoterSample.session _ .opened _ rfl (by decide) [] .opened
    exact h.1.mpr ⟨rfl, GuiVoterSessionV1.Agrees.refl _⟩
  · have h := GuiVoterSessionV1.matchesToken_iff_agrees Verifier.Sample.provider
      VoterSample.session _ .opened _ rfl (by decide) [.begin .opened] .opened
    rw [← Bool.not_eq_true, h.1]
    rintro ⟨-, hagrees⟩
    exact absurd hagrees.preparationGeneration (by decide)

/-- Behind a caught panic no preparation is under way, not even the one begun before. -/
theorem preparation_isCurrent_sample :
    (((GuiVoterSessionV1.new VoterSample.prover VoterSample.artifacts).run Verifier.Sample.provider
      VoterSample.begun).prepareBallot Verifier.Sample.provider VoterSample.artifacts .opened
        none).2.isPreparing = false := by
  obtain ⟨-, hprepared, -⟩ := GuiVoterSessionV1.preparation_isCurrent Verifier.Sample.provider
    VoterSample.artifacts VoterSample.begun
  have hunlocked : ((GuiVoterSessionV1.new VoterSample.prover VoterSample.artifacts).run
      Verifier.Sample.provider VoterSample.begun).castLock = .notCast := by
    decide +kernel
  exact (hprepared VoterSample.artifacts .opened none).mpr fun _ ↦
    ⟨GuiVoterSessionV1.electionBinding_run _ _ _, hunlocked, rfl⟩

/-- A preparation that was begun is still under way behind a `prepare_ballot` that finds the
election closed. -/
theorem not_preparation_isCurrent : ¬ ∀ (artifacts₀ artifacts : GuiElectionArtifactsV1)
    (calls : List (VoterCall VoterSample.prover)) (lifecycleState : ElectionLifecycleStateV1)
    (draws : Option VoterSample.prover.Randomness),
    (((GuiVoterSessionV1.new VoterSample.prover artifacts₀).run Verifier.Sample.provider
      calls).prepareBallot Verifier.Sample.provider artifacts lifecycleState
        draws).2.isPreparing = false := by
  intro h
  have hbegun : (((GuiVoterSessionV1.new VoterSample.prover VoterSample.artifacts).run
      Verifier.Sample.provider VoterSample.begun).prepareBallot Verifier.Sample.provider
        VoterSample.artifacts .closed (some ())).2.isPreparing = true := by
    decide +kernel
  rw [h] at hbegun
  cases hbegun

end PrivateBallot.GuiCore
