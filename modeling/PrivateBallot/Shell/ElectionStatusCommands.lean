import PrivateBallot.GuiCore.ElectionStatusKnowledge
import PrivateBallot.GuiCore.WorkspaceRecovery

/-!
# Status commands of the shell

Library `Shell`. `gui/src-tauri/src/election_status_commands.rs:293-388` and `lib.rs:1286-1313,
1522-1602`: a statement is applied to the active session and recorded, and the record is applied
again when a workspace is resumed. A command error carries the fields of a `GuiCoreError`.
-/

namespace PrivateBallot.Shell

open PrivateBallot.Base
open PrivateBallot.Protocol
open PrivateBallot.Ballot
open PrivateBallot.Crypto
open PrivateBallot.GuiCore

/-- `AnchorMaterial` -/
structure AnchorMaterial where
  rootKeyId : Text
  rootPublicKey : Bytes32
deriving DecidableEq

/-- `single_root_set` -/
def singleRootSet (material : AnchorMaterial) : TransportAuthorityRootSetV1 :=
  .new (.pinned material.rootKeyId material.rootPublicKey)

/-- `CommandError::no_session` -/
def noSession : GuiCoreError :=
  ⟨"GUI_NO_ACTIVE_ELECTION", .invalidLifecycleTransition, none,
    "no election session is active in this shell"⟩

/-- The refusal of a statement no authority is known for. -/
def noTrustedAuthority : GuiCoreError :=
  ⟨"GUI_ELECTION_STATUS_NO_TRUSTED_AUTHORITY", .unavailable, none,
    "configure the ballot-office transport bundle first; election status must be authenticated " ++
      "by its pinned authority"⟩

/-- The file a session's status record is in. -/
def statusFileOf (artifacts : GuiElectionArtifactsV1) : Bytes :=
  statusRecordName (toLowerHex artifacts.manifestHash.toBytes)

/-- `load_persisted_election_status_v1` for the election of a session. -/
def loadStatusOf (ed : SignatureCrate) (directory : StatusDirectory)
    (artifacts : GuiElectionArtifactsV1) : GuiResult (Option PersistedElectionStatusRecordV1) :=
  loadPersistedElectionStatusV1 ed directory (toLowerHex artifacts.manifestHash.toBytes)
    artifacts.manifest.fields.electionId.toBytes artifacts.manifestHash
    artifacts.registryCommitment

/-- The trust anchor: the configured one first, else that of the record. -/
def resolveAnchor (configuredAnchor : Option AnchorMaterial)
    (persisted : Option PersistedElectionStatusRecordV1) : GuiResult AnchorMaterial :=
  match configuredAnchor, persisted with
  | some material, _ => .ok material
  | none, some record => .ok ⟨record.rootKeyId, record.rootPublicKey⟩
  | none, none => .error noTrustedAuthority

/-- The knowledge a record carries. -/
def knowledgeOf : Option PersistedElectionStatusRecordV1 → ElectionStatusKnowledgeV1
  | none => .new
  | some record => .fromAccepted record.statement.state record.statement.generation

/-- What the record, the anchor and the knowledge are before a statement is applied. -/
def prepareStatus (ed : SignatureCrate) (configuredAnchor : Option AnchorMaterial)
    (directory : StatusDirectory) (artifacts : GuiElectionArtifactsV1) :
    GuiResult (AnchorMaterial × ElectionStatusKnowledgeV1) := do
  let persisted ← loadStatusOf ed directory artifacts
  let anchor ← resolveAnchor configuredAnchor persisted
  pure (anchor, knowledgeOf persisted)

/-- The record of a statement that was accepted under an anchor, stored. -/
def storeAccepted (directory : StatusDirectory) (artifacts : GuiElectionArtifactsV1)
    (anchor : AnchorMaterial) (statementBytes : Bytes) (stores : Bool) :
    GuiResult StatusDirectory := do
  let accepted ←
    ofStatus (AuthenticatedElectionStatusStatementV1.fromCanonicalCbor statementBytes)
  persistElectionStatusRecordV1 directory (toLowerHex artifacts.manifestHash.toBytes)
    ⟨anchor.rootKeyId, anchor.rootPublicKey, accepted⟩ stores

/-- The active session and the status directory. -/
structure StatusState where
  session : Option GuiElectionSessionV1
  directory : StatusDirectory

/-- `apply_election_status_bytes_in_state`, with whether the record can be stored. The session lock
is held from the first read of the session to the end. -/
def applyElectionStatusBytesInState (ed : SignatureCrate)
    (configuredAnchor : Option AnchorMaterial) (stores : Bool) (state : StatusState)
    (statementBytes : Bytes) : GuiResult AppliedElectionStatusV1 × StatusState :=
  match state.session with
  | none => (.error noSession, state)
  | some session =>
    match prepareStatus ed configuredAnchor state.directory session.artifacts with
    | .error e => (.error e, state)
    | .ok (anchor, knowledge) =>
      match verifyAndApplyElectionStatusStatementV1 ed statementBytes (singleRootSet anchor)
          knowledge session with
      | (.error e, _, session) => (.error e.toGuiCoreError, { state with session := some session })
      | (.ok applied, _, session) =>
        match storeAccepted state.directory session.artifacts anchor statementBytes stores with
        | .error e => (.error e, { state with session := some session })
        | .ok directory => (.ok applied, ⟨some session, directory⟩)

/-- `reapply_persisted_election_status_from_dir` -/
def reapplyPersistedElectionStatusFromDir (ed : SignatureCrate) (directory : StatusDirectory)
    (session : GuiElectionSessionV1) :
    GuiResult (Option AppliedElectionStatusV1) × GuiElectionSessionV1 :=
  match loadStatusOf ed directory session.artifacts with
  | .error e => (.error e, session)
  | .ok none => (.ok none, session)
  | .ok (some record) =>
    match record.statement.toCanonicalCbor with
    | .error e => (.error e.toGuiCoreError, session)
    | .ok bytes =>
      match verifyAndApplyElectionStatusStatementV1 ed bytes
          (singleRootSet ⟨record.rootKeyId, record.rootPublicKey⟩) (knowledgeOf (some record))
          session with
      | (.error e, _, session) => (.error e.toGuiCoreError, session)
      | (.ok applied, _, session) => (.ok (some applied), session)

/-! ### Resuming a session workspace -/

/-- No committed revision. -/
def workspaceNotFound : GuiCoreError :=
  ⟨"GUI_WORKSPACE_NOT_FOUND", .fileIo, some "election-workspace",
    "no valid election workspace revision was found"⟩

/-- The verified session of a head: what the cache holds for it, or the reconstruction. -/
def verifiedSessionOf (prims : Primitives) (executor : Executor)
    (cached : Option GuiElectionSessionV1) (snapshot : GuiElectionSessionSnapshotV1) :
    GuiResult GuiElectionSessionV1 :=
  match cached with
  | some session => .ok session
  | none =>
    GuiElectionSessionV1.fromDurableSnapshotParallel prims snapshot .default executor

/-- What a resumed workspace is: a draft, here as its snapshot, or a session to install. -/
inductive ResumedWorkspace where
  | draft (snapshot : GuiElectionDraftSnapshotV1)
  | session (session : GuiElectionSessionV1)

/-- A session head: its verified session, with the persisted status applied to it again. -/
def resumeSession (ed : SignatureCrate) (prims : Primitives) (directory : StatusDirectory)
    (cached : Option GuiElectionSessionV1) (executor : Executor)
    (snapshot : GuiElectionSessionSnapshotV1) : GuiResult GuiElectionSessionV1 := do
  let session ← verifiedSessionOf prims executor cached snapshot
  -- The summary of the workspace decodes the artifacts once more.
  let _ ← GuiElectionArtifactsV1.fromBytes prims snapshot.manifestBytes snapshot.registryBytes
    snapshot.candidateBytes
  match reapplyPersistedElectionStatusFromDir ed directory session with
  | (.error e, _) => Except.error e
  | (.ok _, session) => pure session

-- The disk does not change during the call, so the head read again at the end is the first one.
/-- `resume_election_workspace`, up to what it installs. -/
def resumeElectionWorkspace (ed : SignatureCrate) (prims : Primitives) (platform : Platform)
    (disk : Disk) (workspaceId : Text) (directory : StatusDirectory)
    (cached : Option GuiElectionSessionV1) (executor : Executor) : GuiResult ResumedWorkspace := do
  let newest ← loadNewestCommittedWorkspace platform disk workspaceId
  match newest with
  | none => Except.error workspaceNotFound
  | some committed =>
    match committed.record.body with
    | .draft snapshot => pure (.draft snapshot)
    | .session snapshot =>
      let session ← resumeSession ed prims directory cached executor snapshot
      pure (.session session)

/-! ### Records that were accepted -/

section

variable {ed : SignatureCrate}

/-- A statement that verifies under one pinned root names that root, and the root is a key. -/
theorem verify_singleRootSet {statement : AuthenticatedElectionStatusStatementV1}
    {anchor : AnchorMaterial} {electionId : Bytes} {manifestHash : ManifestHash}
    {registryCommitment : RegistryCommitment}
    (h : statement.verify ed (singleRootSet anchor) electionId manifestHash registryCommitment =
      .ok ()) :
    statement.validateFields = .ok () ∧ statement.rootKeyId = anchor.rootKeyId ∧
      ed.isVerifyingKey anchor.rootPublicKey = true := by
  obtain ⟨hvalid, -, -, -, message, -, htransport⟩ :=
    AuthenticatedElectionStatusStatementV1.verify_eq_ok.mp h
  obtain ⟨keyId, publicKey, -, hroot, hkey, -⟩ :=
    TransportAuthorityRootSetV1.verifyByRootId_eq_ok.mp htransport
  have hroot' : (if statement.rootKeyId = anchor.rootKeyId then
      (.ok (.pinned anchor.rootKeyId anchor.rootPublicKey) :
        Except TransportError TransportAuthorityRootV1)
      else .error .untrustedRoot) = .ok (.pinned keyId publicKey) := hroot
  split at hroot'
  · next hid =>
    cases hroot'
    exact ⟨hvalid, hid, hkey⟩
  · cases hroot'

/-- What the status directory holds for an election: nothing, or the record that an earlier run
of the command stored when it accepted a statement, with the state it asserts. -/
inductive PersistedStatus (ed : SignatureCrate) (artifacts : GuiElectionArtifactsV1)
    (directory : StatusDirectory) : Option ElectionLifecycleStateV1 → Prop
  | absent (h : directory (statusFileOf artifacts) = none) :
      PersistedStatus ed artifacts directory none
  | accepted {configuredAnchor : Option AnchorMaterial} {earlier : GuiElectionSessionV1}
      {before : StatusDirectory} {statementBytes : Bytes} {applied : AppliedElectionStatusV1}
      {after : StatusState} (hdraft : earlier.lifecycle.state ≠ .draft)
      (hartifacts : earlier.artifacts = artifacts)
      (hrun : applyElectionStatusBytesInState ed configuredAnchor true ⟨some earlier, before⟩
        statementBytes = (.ok applied, after))
      (h : directory (statusFileOf artifacts) = after.directory (statusFileOf artifacts)) :
      PersistedStatus ed artifacts directory (some applied.assertedState)

/-- A record stored for an accepted statement is loaded as it was accepted. -/
theorem loadStatusOf_of_accepted {configuredAnchor : Option AnchorMaterial}
    {earlier : GuiElectionSessionV1} {before : StatusDirectory} {statementBytes : Bytes}
    {applied : AppliedElectionStatusV1} {after : StatusState} {directory : StatusDirectory}
    (hdraft : earlier.lifecycle.state ≠ .draft)
    (hrun : applyElectionStatusBytesInState ed configuredAnchor true ⟨some earlier, before⟩
      statementBytes = (.ok applied, after))
    (h : directory (statusFileOf earlier.artifacts) =
      after.directory (statusFileOf earlier.artifacts)) :
    ∃ record, loadStatusOf ed directory earlier.artifacts = .ok (some record) ∧
      record.statement.state = applied.assertedState ∧
      record.statement.validateFields = .ok () ∧
      record.statement.verify ed (singleRootSet ⟨record.rootKeyId, record.rootPublicKey⟩)
        earlier.artifacts.manifest.fields.electionId.toBytes earlier.artifacts.manifestHash
        earlier.artifacts.registryCommitment = .ok () := by
  simp only [applyElectionStatusBytesInState] at hrun
  cases hprepare : prepareStatus ed configuredAnchor before earlier.artifacts with
  | error e => simp [hprepare] at hrun
  | ok prepared =>
    obtain ⟨anchor, knowledge⟩ := prepared
    simp only [hprepare] at hrun
    obtain ⟨⟨e, herror⟩, -⟩ | ⟨statement, haccepted, happly⟩ :=
      verifyAndApply_cases ed statementBytes (singleRootSet anchor) knowledge hdraft
    · simp [herror] at hrun
    · have hverify := haccepted.verifies
      obtain ⟨hvalid, hid, hkey⟩ := verify_singleRootSet hverify
      obtain ⟨⟨-, -, -, hlen, -⟩, code, hcode⟩ :=
        AuthenticatedElectionStatusStatementV1.validateFields_eq_ok.mp hvalid
      obtain ⟨encoded, hencoded⟩ : ∃ encoded, statement.toCanonicalCbor = .ok encoded := by
        simp only [AuthenticatedElectionStatusStatementV1.toCanonicalCbor, hvalid, hcode, bind,
          Except.bind]
        exact ⟨_, rfl⟩
      have hstored : storeAccepted before earlier.artifacts anchor statementBytes true =
          .ok (Function.update before (statusFileOf earlier.artifacts)
            (some (encodeStatusRecord ⟨anchor.rootKeyId, anchor.rootPublicKey, statement⟩
              encoded))) := by
        simp only [storeAccepted, persistElectionStatusRecordV1, haccepted.decodes, hencoded,
          validateManifestHashHex_toLowerHex, bind, Except.bind, ofStatus, Except.mapError]
        rfl
      have hafter : applied.assertedState = statement.state ∧
          after.directory = Function.update before (statusFileOf earlier.artifacts)
            (some (encodeStatusRecord ⟨anchor.rootKeyId, anchor.rootPublicKey, statement⟩
              encoded)) := by
        have hsame : (earlier.inState statement.state
            earlier.privateInboxValidationCache).artifacts = earlier.artifacts := rfl
        simp only [happly, hsame, hstored] at hrun
        cases hrun
        exact ⟨rfl, rfl⟩
      have hfile : directory (statusFileOf earlier.artifacts) = some (encodeStatusRecord
          ⟨anchor.rootKeyId, anchor.rootPublicKey, statement⟩ encoded) := by
        rw [h, hafter.2, Function.update_self]
      have hdecode := decodeStatusRecord_encodeStatusRecord
        ⟨anchor.rootKeyId, anchor.rootPublicKey, statement⟩
        (AuthenticatedElectionStatusStatementV1.length_toCanonicalCbor hencoded) (hid ▸ hlen)
      have hrecord : verifyStatusRecord ed (encodeStatusRecord
          ⟨anchor.rootKeyId, anchor.rootPublicKey, statement⟩ encoded)
          earlier.artifacts.manifest.fields.electionId.toBytes earlier.artifacts.manifestHash
          earlier.artifacts.registryCommitment =
            .ok ⟨anchor.rootKeyId, anchor.rootPublicKey, statement⟩ := by
        have hagain := AuthenticatedElectionStatusStatementV1.fromCanonicalCbor_toCanonicalCbor
          hencoded
        have hanchor : anchorRootSet ed anchor.rootPublicKey anchor.rootKeyId =
            .ok (singleRootSet anchor) := by
          rw [anchorRootSet, if_pos hkey]
          rfl
        simp only [verifyStatusRecord, bind_eq_ok, ofStatus_eq_ok]
        exact ⟨_, hdecode, statement, hagain, _, hanchor, (), hverify, rfl⟩
      refine ⟨⟨anchor.rootKeyId, anchor.rootPublicKey, statement⟩, ?_, hafter.1.symm, hvalid,
        hverify⟩
      unfold loadStatusOf loadPersistedElectionStatusV1
      rw [show statusRecordName (toLowerHex earlier.artifacts.manifestHash.toBytes) =
        statusFileOf earlier.artifacts from rfl, hfile]
      simp only [validateManifestHashHex_toLowerHex, hrecord, bind, Except.bind]
      rfl

/-- Applying a record again: it moves a session that is not past the record's state to that state,
and is refused as a rollback for any other. -/
theorem reapply_of_loaded {directory : StatusDirectory} {session : GuiElectionSessionV1}
    {record : PersistedElectionStatusRecordV1} (hdraft : session.lifecycle.state ≠ .draft)
    (hload : loadStatusOf ed directory session.artifacts = .ok (some record))
    (hvalid : record.statement.validateFields = .ok ())
    (hverify : record.statement.verify ed (singleRootSet ⟨record.rootKeyId, record.rootPublicKey⟩)
      session.artifacts.manifest.fields.electionId.toBytes session.artifacts.manifestHash
      session.artifacts.registryCommitment = .ok ()) :
    if session.lifecycle.state.rank ≤ record.statement.state.rank then
      ∃ applied, reapplyPersistedElectionStatusFromDir ed directory session =
        (.ok (some applied),
          session.inState record.statement.state session.privateInboxValidationCache)
    else ∃ e, reapplyPersistedElectionStatusFromDir ed directory session = (.error e, session) := by
  obtain ⟨-, code, hcode⟩ := AuthenticatedElectionStatusStatementV1.validateFields_eq_ok.mp hvalid
  obtain ⟨encoded, hencoded⟩ : ∃ encoded, record.statement.toCanonicalCbor = .ok encoded := by
    simp only [AuthenticatedElectionStatusStatementV1.toCanonicalCbor, hvalid, hcode, bind,
      Except.bind]
    exact ⟨_, rfl⟩
  have hagain := AuthenticatedElectionStatusStatementV1.fromCanonicalCbor_toCanonicalCbor hencoded
  have hadmits : (knowledgeOf (some record)).Admits record.statement.state
      record.statement.generation := by
    intro previous hprevious
    cases hprevious
    exact ⟨UInt64.le_refl _, fun _ ↦ rfl⟩
  simp only [reapplyPersistedElectionStatusFromDir, hload, hencoded]
  obtain ⟨⟨e, herror⟩, hrefused⟩ | ⟨statement, haccepted, happly⟩ :=
    verifyAndApply_cases ed encoded (singleRootSet ⟨record.rootKeyId, record.rootPublicKey⟩)
      (knowledgeOf (some record)) hdraft
  · have hbackward : ¬ session.lifecycle.state.rank ≤ record.statement.state.rank := by
      intro hforward
      exact hrefused ⟨record.statement, hagain, hverify, hforward, hadmits⟩
    rw [if_neg hbackward]
    exact ⟨e.toGuiCoreError, by simp [herror]⟩
  · have hsame : statement = record.statement := by
      have hdecodes := haccepted.decodes
      rw [hagain] at hdecodes
      cases hdecodes
      rfl
    subst hsame
    rw [if_pos haccepted.forward, happly]
    exact ⟨_, rfl⟩

end

/-! ### Resume with a persisted status -/

/-- The later of the head's state and the recorded one. -/
def laterState (head : ElectionLifecycleStateV1) :
    Option ElectionLifecycleStateV1 → ElectionLifecycleStateV1
  | none => head
  | some recorded => if head.rank ≤ recorded.rank then recorded else head

/-- The resume succeeds with a session in this state, with the artifacts, packages, ledger and
transcript of the head. -/
def ResumesAt (result : GuiResult ResumedWorkspace) (head : GuiElectionSessionV1)
    (state : ElectionLifecycleStateV1) : Prop :=
  ∃ session, result = .ok (.session session) ∧ session.lifecycle.state = state ∧
    session.artifacts = head.artifacts ∧ session.packages = head.packages ∧
    session.ledger = head.ledger ∧ session.transcript = head.transcript

section

variable {ed : SignatureCrate} {prims : Primitives} {platform : Platform} {disk : Disk}
  {workspaceId : Text} {directory : StatusDirectory} {cached : Option GuiElectionSessionV1}
  {executor : Executor} {committed : CommittedRevision} {snapshot : GuiElectionSessionSnapshotV1}
  {head : GuiElectionSessionV1} {recorded : Option ElectionLifecycleStateV1}

private theorem verifiedSessionOf_eq (laws : TriptychBatchLaws prims.crate)
    (hhead : GuiElectionSessionV1.fromDurableSnapshot prims snapshot = .ok head)
    (hcached : ∀ session, cached = some session → session.withoutCache = head)
    (hjoins : GuiElectionSessionV1.joinsFor .default executor snapshot.packages.length = true) :
    ∃ session, verifiedSessionOf prims executor cached snapshot = .ok session ∧
      session.withoutCache = head.withoutCache := by
  cases cached with
  | some session =>
    refine ⟨session, rfl, ?_⟩
    rw [← hcached session rfl]
    rfl
  | none =>
    refine ⟨head, ?_, rfl⟩
    rw [← hhead]
    show GuiElectionSessionV1.fromDurableSnapshotParallel prims snapshot .default executor = _
    apply GuiElectionSessionV1.reconstruct_congr
    intro session hcomplete hopen
    exact GuiElectionSessionV1.replayEither_eq laws hjoins hcomplete hopen

/-- Accepted status knowledge and resume: for a workspace whose committed head is a session, and
whatever an earlier run accepted as its status, the resume succeeds with the later of the two
states, and all else as in the head, exactly when the record does not lag behind the head. -/
theorem resumeElectionWorkspace_resumesAt_iff (laws : TriptychBatchLaws prims.crate)
    (hload : loadNewestCommittedWorkspace platform disk workspaceId = .ok (some committed))
    (hbody : committed.record.body = .session snapshot)
    (hhead : GuiElectionSessionV1.fromDurableSnapshot prims snapshot = .ok head)
    (hcached : ∀ session, cached = some session → session.withoutCache = head)
    (hjoins : GuiElectionSessionV1.joinsFor .default executor snapshot.packages.length = true)
    (hstatus : PersistedStatus ed head.artifacts directory recorded) :
    ResumesAt (resumeElectionWorkspace ed prims platform disk workspaceId directory cached executor)
        head (laterState head.lifecycle.state recorded) ↔
      ∀ state, recorded = some state → head.lifecycle.state.rank ≤ state.rank := by
  obtain ⟨session, hsession, hsame⟩ := verifiedSessionOf_eq laws hhead hcached hjoins
  obtain ⟨hartifacts, hlifecycle, hledger, htranscript, hpackages⟩ :=
    GuiElectionSessionV1.fields_of_withoutCache hsame
  have hdraft : session.lifecycle.state ≠ .draft := by
    rw [hlifecycle]
    exact (GuiElectionSessionV1.isReplayed_of_fromDurableSnapshot hhead).notDraft
  obtain ⟨-, -, artifacts, -, hfromBytes, -⟩ := (GuiElectionSessionV1.reconstruct_eq_ok
    GuiElectionSessionV1.replayPackages_records snapshot head).mp hhead
  have hresume : resumeElectionWorkspace ed prims platform disk workspaceId directory cached
      executor = (match reapplyPersistedElectionStatusFromDir ed directory session with
        | (.error e, _) => Except.error e
        | (.ok _, session) => .ok (.session session)) := by
    simp only [resumeElectionWorkspace, hload, hbody, resumeSession, hsession, hfromBytes, bind,
      Except.bind]
    cases reapplyPersistedElectionStatusFromDir ed directory session with
    | mk result installed =>
      cases result with
      | error e => rfl
      | ok again => rfl
  rw [hresume]
  cases hstatus with
  | absent hfile =>
    have hreapply : reapplyPersistedElectionStatusFromDir ed directory session =
        (.ok none, session) := by
      have hnone : loadStatusOf ed directory session.artifacts = .ok none := by
        unfold loadStatusOf loadPersistedElectionStatusV1
        rw [hartifacts, validateManifestHashHex_toLowerHex, show statusRecordName
          (toLowerHex head.artifacts.manifestHash.toBytes) = statusFileOf head.artifacts from rfl,
          hfile]
        rfl
      simp only [reapplyPersistedElectionStatusFromDir, hnone]
    rw [hreapply]
    constructor
    · intro _ state hnone
      cases hnone
    · intro _
      exact ⟨session, rfl, by rw [hlifecycle]; rfl, hartifacts, hpackages, hledger, htranscript⟩
  | accepted hearlier hsameArtifacts hrun hfile =>
    next configuredAnchor earlier before statementBytes applied after =>
    rw [← hsameArtifacts] at hfile
    obtain ⟨record, hrecord, hstate, hvalid, hverify⟩ :=
      loadStatusOf_of_accepted hearlier hrun hfile
    rw [hsameArtifacts, ← hartifacts] at hrecord hverify
    have hreapply := reapply_of_loaded hdraft hrecord hvalid hverify
    rw [hlifecycle, hstate] at hreapply
    by_cases hforward : head.lifecycle.state.rank ≤ applied.assertedState.rank
    · rw [if_pos hforward] at hreapply
      obtain ⟨again, hagain⟩ := hreapply
      rw [hagain]
      constructor
      · intro _ state hsome
        cases hsome
        exact hforward
      · intro _
        refine ⟨_, rfl, ?_, hartifacts, hpackages, hledger, htranscript⟩
        rw [laterState, if_pos hforward]
        rfl
    · rw [if_neg hforward] at hreapply
      obtain ⟨e, herror⟩ := hreapply
      rw [herror]
      constructor
      · rintro ⟨installed, hok, -⟩
        cases hok
      · intro hall
        exact absurd (hall _ rfl) hforward

end

/-! ### A record behind its head -/

namespace Sample

open PrivateBallot.GuiCore.Sample

/-- The configured anchor. -/
def anchor : AnchorMaterial := ⟨.lit "root", Bytes32.replicate 3⟩

/-- The sample election with one ballot, closed. -/
def closedSnapshot : GuiElectionSessionSnapshotV1 :=
  ⟨.closed, manifestBytes, registryBytes, candidateBytes, [Verifier.Sample.package 1 9 [1]]⟩

/-- The disk after that head was committed. -/
def disk : Disk :=
  ((⟨.session closedSnapshot, (List.range 14).map signal, 8⟩ : AppendCall).after platform
    workspaceId ⟨∅, .new 7⟩).disk

/-- A run that accepts the statement on a fresh session. -/
def acceptedRun (state : ElectionLifecycleStateV1) :
    GuiResult AppliedElectionStatusV1 × StatusState :=
  applyElectionStatusBytesInState ed (some anchor) true ⟨freshSession.toOption, fun _ ↦ none⟩
    (statementBytes state 1)

/-- The closed head, reconstructed. -/
def headSession : GuiResult GuiElectionSessionV1 :=
  GuiElectionSessionV1.fromDurableSnapshot prims closedSnapshot

/-- One worker. -/
def executor : Executor := ⟨1, []⟩

/-- What the runs of the sample election compute, in one evaluation. -/
theorem evaluated :
    ((loadNewestCommittedWorkspace platform disk workspaceId).toOption.bind id).map
        (·.record.body) = some (.session closedSnapshot) ∧
      headSession.toOption.map (fun head ↦ decide (head.lifecycle.state = .closed ∧
        freshSession.toOption.map (·.artifacts) = some head.artifacts)) = some true ∧
      freshSession.toOption.map (fun session ↦ decide (session.lifecycle.state ≠ .draft)) =
        some true ∧
      (∀ state ∈ [ElectionLifecycleStateV1.verified, .opened],
        (acceptedRun state).1.toOption.map (·.assertedState) = some state) ∧
      GuiElectionSessionV1.joinsFor .default executor closedSnapshot.packages.length = true ∧
      (resumeElectionWorkspace ed prims platform disk workspaceId (acceptedRun .opened).2.directory
        none executor).isOk = false := by
  decide +kernel

/-- The head that is loaded and the session it is reconstructed to. -/
theorem exists_head : ∃ committed head,
    loadNewestCommittedWorkspace platform disk workspaceId = .ok (some committed) ∧
      committed.record.body = .session closedSnapshot ∧ headSession = .ok head ∧
      head.lifecycle.state = .closed ∧
      freshSession.toOption.map (·.artifacts) = some head.artifacts := by
  obtain ⟨hload, hhead, -⟩ := evaluated
  cases hresult : loadNewestCommittedWorkspace platform disk workspaceId with
  | error e =>
    rw [hresult] at hload
    cases hload
  | ok newest =>
    rw [hresult] at hload
    obtain ⟨committed, hnewest, hbody⟩ := Option.map_eq_some_iff.mp hload
    cases hsession : headSession with
    | error e =>
      rw [hsession] at hhead
      cases hhead
    | ok head =>
      rw [hsession] at hhead
      obtain ⟨hclosed, hsame⟩ := of_decide_eq_true (Option.some.inj hhead)
      refine ⟨committed, head, ?_, hbody, rfl, hclosed, hsame⟩
      rw [show newest = some committed from hnewest]

/-- The record of a run that accepted a statement. -/
theorem persistedStatus_acceptedRun (state : ElectionLifecycleStateV1)
    {head : GuiElectionSessionV1}
    (hfresh : freshSession.toOption.map (·.artifacts) = some head.artifacts)
    (hasserted : state ∈ [ElectionLifecycleStateV1.verified, .opened]) :
    PersistedStatus ed head.artifacts (acceptedRun state).2.directory (some state) := by
  obtain ⟨-, -, hstate, hruns, -⟩ := evaluated
  have hrun := hruns state hasserted
  obtain ⟨earlier, hearlier, hartifacts⟩ := Option.map_eq_some_iff.mp hfresh
  rw [hearlier] at hstate
  have hdraft := of_decide_eq_true (Option.some.inj hstate)
  cases hresult : acceptedRun state with
  | mk result after =>
    rw [hresult] at hrun
    cases result with
    | error e => cases hrun
    | ok applied =>
      cases Option.some.inj hrun
      have happly : applyElectionStatusBytesInState ed (some anchor) true
          ⟨some earlier, fun _ ↦ none⟩ (statementBytes applied.assertedState 1) =
            (.ok applied, after) := by
        rw [← hresult, acceptedRun, hearlier]
      exact .accepted hdraft hartifacts happly rfl

end Sample

/-- A closed head and a record that asserts VERIFIED: the session is resumed in that state. -/
theorem resumeElectionWorkspace_resumesAt_iff_sample :
    ∃ head, Sample.headSession = .ok head ∧ head.lifecycle.state = .closed ∧
      ResumesAt (resumeElectionWorkspace GuiCore.Sample.ed GuiCore.Sample.prims
        GuiCore.Sample.platform
        Sample.disk GuiCore.Sample.workspaceId (Sample.acceptedRun .verified).2.directory none
        Sample.executor) head .verified := by
  obtain ⟨committed, head, hload, hbody, hhead, hclosed, hfresh⟩ := Sample.exists_head
  refine ⟨head, hhead, hclosed, ?_⟩
  obtain ⟨-, -, -, -, hjoins, -⟩ := Sample.evaluated
  have hcached : ∀ session, (none : Option GuiElectionSessionV1) = some session →
      session.withoutCache = head := fun _ h ↦ by cases h
  have hstatus := Sample.persistedStatus_acceptedRun .verified hfresh (by decide)
  have hresumes := (resumeElectionWorkspace_resumesAt_iff (triptychBatchLaws_idealCrate _) hload
    hbody hhead hcached hjoins hstatus).mpr (by
      intro state hstate
      cases hstate
      rw [hclosed]
      decide)
  rw [hclosed] at hresumes
  exact hresumes

/-- A closed head and a record that still asserts OPEN: the resume is refused. -/
theorem not_resumesAt_of_every_record :
    ¬ ∀ (ed : SignatureCrate) (prims : Primitives) (platform : Platform) (disk : Disk)
      (workspaceId : Text) (directory : StatusDirectory) (executor : Executor)
      (committed : CommittedRevision) (snapshot : GuiElectionSessionSnapshotV1)
      (head : GuiElectionSessionV1) (recorded : Option ElectionLifecycleStateV1),
      TriptychBatchLaws prims.crate →
      loadNewestCommittedWorkspace platform disk workspaceId = .ok (some committed) →
      committed.record.body = .session snapshot →
      GuiElectionSessionV1.fromDurableSnapshot prims snapshot = .ok head →
      GuiElectionSessionV1.joinsFor .default executor snapshot.packages.length = true →
      PersistedStatus ed head.artifacts directory recorded →
      ResumesAt
        (resumeElectionWorkspace ed prims platform disk workspaceId directory none executor) head
        (laterState head.lifecycle.state recorded) := by
  intro h
  obtain ⟨committed, head, hload, hbody, hhead, -, hfresh⟩ := Sample.exists_head
  obtain ⟨-, -, -, -, hjoins, hrefused⟩ := Sample.evaluated
  have hstatus := Sample.persistedStatus_acceptedRun .opened hfresh (by decide)
  obtain ⟨session, hsession, -⟩ := h GuiCore.Sample.ed GuiCore.Sample.prims GuiCore.Sample.platform
    Sample.disk GuiCore.Sample.workspaceId _ Sample.executor committed _ head _
    (triptychBatchLaws_idealCrate _) hload hbody hhead hjoins hstatus
  rw [hsession] at hrefused
  cases hrefused

end PrivateBallot.Shell
