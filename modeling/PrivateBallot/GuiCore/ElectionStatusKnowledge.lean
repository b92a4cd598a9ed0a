import PrivateBallot.GuiCore.ElectionStatus
import PrivateBallot.GuiCore.SessionReplay

/-!
# Knowledge of an election's status

Library `GuiCore`. `crates/gui-core/src/election_status.rs:489-880`: the knowledge a voter keeps of
the statements accepted so far, the application of a statement to a session, and the record of the
last accepted statement that survives a restart.
-/

namespace PrivateBallot.GuiCore

open PrivateBallot.Base
open PrivateBallot.Protocol
open PrivateBallot.Ballot

/-! ### Knowledge -/

/-- `ElectionStatusKnowledgeV1` -/
structure ElectionStatusKnowledgeV1 where
  acceptedGeneration : Option UInt64
  acceptedState : Option ElectionLifecycleStateV1
deriving DecidableEq

namespace ElectionStatusKnowledgeV1

/-- `ElectionStatusKnowledgeV1::new` -/
def new : ElectionStatusKnowledgeV1 := ⟨none, none⟩

/-- `from_accepted` -/
def fromAccepted (state : ElectionLifecycleStateV1) (generation : UInt64) :
    ElectionStatusKnowledgeV1 :=
  ⟨some generation, some state⟩

/-- `plan` -/
def plan (self : ElectionStatusKnowledgeV1) (statementState : ElectionLifecycleStateV1)
    (statementGeneration : UInt64) (currentSessionState : ElectionLifecycleStateV1) :
    StatusResult ElectionLifecycleStateV1 :=
  if statementState.rank < currentSessionState.rank then .error .lifecycleRollbackRejected
  else match self.acceptedGeneration with
    | none => .ok statementState
    | some previousGeneration =>
      if statementGeneration < previousGeneration then .error .staleGeneration
      else if statementGeneration = previousGeneration ∧
          self.acceptedState ≠ some statementState then .error .conflictingGeneration
      else .ok statementState

/-- `record` -/
def record (_self : ElectionStatusKnowledgeV1) (state : ElectionLifecycleStateV1)
    (generation : UInt64) : ElectionStatusKnowledgeV1 :=
  ⟨some generation, some state⟩

end ElectionStatusKnowledgeV1

/-! ### Applying a statement -/

/-- One round of the loop: the transition out of the state, if there is one. -/
def nextTransition (session : GuiElectionSessionV1) : Option (GuiResult GuiElectionSessionV1) :=
  match session.lifecycle.state with
  | .frozen => some session.openVoting
  | .opened => some session.close
  | .closed => some session.markVerified
  | .verified => some session.finalize
  | .draft | .finalized => none

/-- The loop, with the number of rounds it may still take. -/
def advanceWithin : Nat → GuiElectionSessionV1 → ElectionLifecycleStateV1 →
    StatusResult Unit × GuiElectionSessionV1
  | 0, session, _ => (.ok (), session)
  | rounds + 1, session, target =>
    if session.lifecycle.state.rank < target.rank then
      match nextTransition session with
      | some (.ok next) => advanceWithin rounds next target
      | some (.error _) => (.error .lifecycleRollbackRejected, session)
      | none => (.error .lifecycleRollbackRejected, session)
    else (.ok (), session)

-- Every round that succeeds adds one to the rank, so `target.rank` rounds are enough.
/-- `advance_session_lifecycle_to_state_v1` -/
def advanceSessionLifecycleToStateV1 (session : GuiElectionSessionV1)
    (target : ElectionLifecycleStateV1) : StatusResult Unit × GuiElectionSessionV1 :=
  advanceWithin target.rank session target

/-- `AppliedElectionStatusV1` -/
structure AppliedElectionStatusV1 where
  effectiveState : ElectionLifecycleStateV1
  advanced : Bool
  generation : UInt64
  assertedState : ElectionLifecycleStateV1
deriving DecidableEq, Repr

/-- The checks of a statement before anything changes: the statement and the state planned. -/
def planStatement (ed : SignatureCrate) (statementBytes : Bytes)
    (roots : TransportAuthorityRootSetV1) (knowledge : ElectionStatusKnowledgeV1)
    (session : GuiElectionSessionV1) :
    StatusResult (AuthenticatedElectionStatusStatementV1 × ElectionLifecycleStateV1) := do
  let statement ← AuthenticatedElectionStatusStatementV1.fromCanonicalCbor statementBytes
  statement.verify ed roots session.artifacts.manifest.fields.electionId.toBytes
    session.artifacts.manifestHash session.artifacts.registryCommitment
  let target ← knowledge.plan statement.state statement.generation session.lifecycle.state
  pure (statement, target)

/-- `verify_and_apply_election_status_statement_v1`;
`crates/gui-core/src/election_status.rs:665`. -/
def verifyAndApplyElectionStatusStatementV1 (ed : SignatureCrate) (statementBytes : Bytes)
    (roots : TransportAuthorityRootSetV1) (knowledge : ElectionStatusKnowledgeV1)
    (session : GuiElectionSessionV1) :
    StatusResult AppliedElectionStatusV1 × ElectionStatusKnowledgeV1 × GuiElectionSessionV1 :=
  match planStatement ed statementBytes roots knowledge session with
  | .error e => (.error e, knowledge, session)
  | .ok (statement, target) =>
    let current := session.lifecycle.state
    let (result, session) :=
      if current.rank < target.rank then advanceSessionLifecycleToStateV1 session target
      else (.ok (), session)
    match result with
    | .error e => (.error e, knowledge, session)
    | .ok () =>
      (.ok ⟨session.lifecycle.state, decide (current.rank < target.rank), statement.generation,
        statement.state⟩, knowledge.record statement.state statement.generation, session)

/-! ### Records -/

/-- `PersistedElectionStatusRecordV1` -/
structure PersistedElectionStatusRecordV1 where
  rootKeyId : Text
  rootPublicKey : Bytes32
  statement : AuthenticatedElectionStatusStatementV1
deriving DecidableEq

/-- `RECORD_VERSION` -/
def statusRecordVersion : Nat := 1

/-- `RECORD_TYPE_ID` -/
def statusRecordTypeId : Text := .lit "TARI_CC_PRIVATE_BALLOT_VOTER_ELECTION_STATUS_RECORD_V1"

/-- `status_io_error` -/
def statusIoError : GuiCoreError :=
  ⟨"GUI_ELECTION_STATUS_IO", .fileIo, some "election-status",
    "an election-status storage operation failed"⟩

/-- `status_malformed` -/
def statusMalformed : GuiCoreError :=
  ⟨"GUI_ELECTION_STATUS_MALFORMED_RECORD", .archiveIntegrity, some "election-status",
    "the persisted election-status record is malformed or fails verification"⟩

/-- `validate_manifest_hash_hex` -/
def validateManifestHashHex (manifestHashHex : Bytes) : GuiResult Unit :=
  if !digestHexIsCanonical manifestHashHex then
    .error ⟨"GUI_ELECTION_STATUS_INVALID_ELECTION", .invalidInput, some "election-status",
      "the election manifest hash is not a canonical lowercase hex digest"⟩
  else .ok ()

/-- The app-owned directory: the regular files in it, by name. -/
abbrev StatusDirectory := Bytes → Option Bytes

/-- The file name of `voter_election_status_record_path_v1`. -/
def statusRecordName (manifestHashHex : Bytes) : Bytes :=
  (Text.lit "status-").toBytes ++ manifestHashHex ++ (Text.lit ".cbor").toBytes

/-- The written items of a record, around the bytes of its statement. -/
def encodeStatusRecord (record : PersistedElectionStatusRecordV1)
    (statementBytes : Bytes) : Bytes :=
  writeArrayLen 5 ++ writeUnsigned statusRecordVersion ++ writeTextString statusRecordTypeId ++
    writeByteString record.rootPublicKey.toBytes ++ writeTextString record.rootKeyId ++
    writeByteString statementBytes

-- The record is written to a temporary file that replaces the old one by a rename, so a failing
-- file operation leaves the directory's records as they were.
/-- `persist_election_status_record_v1`, with whether its file operations succeed. -/
def persistElectionStatusRecordV1 (directory : StatusDirectory) (manifestHashHex : Bytes)
    (record : PersistedElectionStatusRecordV1) (stores : Bool) : GuiResult StatusDirectory := do
  validateManifestHashHex manifestHashHex
  let statementBytes ← ofStatus record.statement.toCanonicalCbor
  if stores then
    pure (Function.update directory (statusRecordName manifestHashHex)
      (some (encodeStatusRecord record statementBytes)))
  else Except.error statusIoError

/-- A reader whose errors are those of a malformed record. -/
abbrev RecordRead := StateT CanonicalCborReader (Except GuiCoreError)

/-- The items of a record: the anchor and the bytes of the statement. -/
def readStatusRecord : RecordRead (Text × Bytes32 × Bytes) := do
  let arrayLen ← orError statusMalformed readArrayLen
  if arrayLen ≠ 5 then (Except.error statusMalformed : GuiResult Unit)
  let version ← orError statusMalformed readUnsigned
  if version ≠ statusRecordVersion then (Except.error statusMalformed : GuiResult Unit)
  let typeId ← orError statusMalformed readTextString
  if typeId ≠ statusRecordTypeId then (Except.error statusMalformed : GuiResult Unit)
  let rootPublicKey ← orError statusMalformed
    (readBytes32 ⟨.invalidCbor, "root public key must contain exactly 32 bytes"⟩)
  let rootKeyId ← orError statusMalformed readTextString
  let statementBytes ← orError statusMalformed readByteString
  pure (rootKeyId, rootPublicKey, statementBytes)

/-- The record in a file, before its statement is checked. -/
def decodeStatusRecord (bytes : Bytes) : GuiResult (Text × Bytes32 × Bytes) :=
  if maxElectionStatusStatementBytes < bytes.length then .error statusMalformed
  else do
    let (fields, reader) ← readStatusRecord (.new bytes)
    reader.finish.mapError fun _ ↦ statusMalformed
    pure fields

/-- `anchor_root_set` -/
def anchorRootSet (ed : SignatureCrate) (publicKey : Bytes32) (keyId : Text) :
    GuiResult TransportAuthorityRootSetV1 :=
  if ed.isVerifyingKey publicKey then .ok (.new (.pinned keyId publicKey))
  else .error statusMalformed

/-- A record that is there, decoded and verified for the election. -/
def verifyStatusRecord (ed : SignatureCrate) (bytes expectedElectionId : Bytes)
    (expectedManifestHash : ManifestHash) (expectedRegistryCommitment : RegistryCommitment) :
    GuiResult PersistedElectionStatusRecordV1 := do
  let (rootKeyId, rootPublicKey, statementBytes) ← decodeStatusRecord bytes
  let statement ←
    ofStatus (AuthenticatedElectionStatusStatementV1.fromCanonicalCbor statementBytes)
  let anchorRoots ← anchorRootSet ed rootPublicKey rootKeyId
  ofStatus (statement.verify ed anchorRoots expectedElectionId expectedManifestHash
    expectedRegistryCommitment)
  pure ⟨rootKeyId, rootPublicKey, statement⟩

/-- `load_persisted_election_status_v1` -/
def loadPersistedElectionStatusV1 (ed : SignatureCrate) (directory : StatusDirectory)
    (manifestHashHex expectedElectionId : Bytes) (expectedManifestHash : ManifestHash)
    (expectedRegistryCommitment : RegistryCommitment) :
    GuiResult (Option PersistedElectionStatusRecordV1) := do
  validateManifestHashHex manifestHashHex
  match directory (statusRecordName manifestHashHex) with
  | none => pure none
  | some bytes =>
    let record ← verifyStatusRecord ed bytes expectedElectionId expectedManifestHash
      expectedRegistryCommitment
    pure (some record)

/-- The hex digits of a manifest hash pass their check. -/
theorem validateManifestHashHex_toLowerHex (manifestHash : ManifestHash) :
    validateManifestHashHex (toLowerHex manifestHash.toBytes) = .ok () := by
  rw [validateManifestHashHex, digestHexIsCanonical_toLowerHex]
  rfl

private theorem reads_readStatusRecord (record : PersistedElectionStatusRecordV1)
    (statementBytes : Bytes) :
    Reads readStatusRecord (encodeStatusRecord record statementBytes)
      (record.rootKeyId, record.rootPublicKey, statementBytes) := by
  unfold encodeStatusRecord
  simp only [List.append_assoc]
  apply (reads_orError _ (reads_readArrayLen (by decide))).bind
  apply (reads_orError _ (reads_readUnsigned (by decide))).bind
  apply (reads_orError _ (reads_readTextString _)).bind
  simp only [ne_eq, not_true_eq_false, if_false]
  apply (reads_orError _ (reads_readBytes32 _ _)).bind
  apply (reads_orError _ (reads_readTextString _)).bind
  exact (reads_orError _ (reads_readByteString _)).bind_nil (Reads.pure _)

/-- A record that fits is decoded to its fields. -/
theorem decodeStatusRecord_of_length_le (record : PersistedElectionStatusRecordV1)
    {statementBytes : Bytes}
    (hsize : (encodeStatusRecord record statementBytes).length ≤ maxElectionStatusStatementBytes) :
    decodeStatusRecord (encodeStatusRecord record statementBytes) =
      .ok (record.rootKeyId, record.rootPublicKey, statementBytes) := by
  have hread : readStatusRecord (.new (encodeStatusRecord record statementBytes)) =
      .ok ((record.rootKeyId, record.rootPublicKey, statementBytes),
        ⟨[], (encodeStatusRecord record statementBytes).length⟩) := by
    apply reads_readStatusRecord record statementBytes
    refine ⟨(List.append_nil _).symm, (Nat.zero_add _).symm, ?_⟩
    exact Nat.lt_of_le_of_lt hsize (by decide)
  rw [decodeStatusRecord, if_neg (Nat.not_lt.mpr hsize), bind_eq_ok]
  exact ⟨_, hread, rfl⟩

/-- A record of a short statement is decoded to its fields. -/
theorem decodeStatusRecord_encodeStatusRecord (record : PersistedElectionStatusRecordV1)
    {statementBytes : Bytes} (hstatement : statementBytes.length ≤ 768)
    (hroot : record.rootKeyId.len ≤ maxStatusRootKeyIdBytes) :
    decodeStatusRecord (encodeStatusRecord record statementBytes) =
      .ok (record.rootKeyId, record.rootPublicKey, statementBytes) := by
  apply decodeStatusRecord_of_length_le
  have harray := length_writeArrayLen_le 5
  have hversion := length_writeUnsigned_le statusRecordVersion
  have htype := length_writeTextString_le statusRecordTypeId
  have htypeLen : statusRecordTypeId.len = 54 := by decide +kernel
  have hkey := length_writeByteString_le record.rootPublicKey.toBytes
  have hid := length_writeTextString_le record.rootKeyId
  have hbytes := length_writeByteString_le statementBytes
  rw [record.rootPublicKey.length_eq] at hkey
  rw [maxStatusRootKeyIdBytes] at hroot
  simp only [encodeStatusRecord, List.length_append, maxElectionStatusStatementBytes]
  omega

/-- Whatever is loaded from the file of a record has the statement of that record. -/
theorem statement_of_verifyStatusRecord {ed : SignatureCrate}
    {record loaded : PersistedElectionStatusRecordV1} {statementBytes electionId : Bytes}
    {manifestHash : ManifestHash} {registryCommitment : RegistryCommitment}
    (hstatement : record.statement.toCanonicalCbor = .ok statementBytes)
    (h : verifyStatusRecord ed (encodeStatusRecord record statementBytes) electionId manifestHash
      registryCommitment = .ok loaded) : loaded.statement = record.statement := by
  simp only [verifyStatusRecord, bind_eq_ok, ofStatus_eq_ok] at h
  obtain ⟨fields, hdecode, statement, hdecodes, _, -, _, -, hloaded⟩ := h
  cases hloaded
  have hsize : (encodeStatusRecord record statementBytes).length ≤
      maxElectionStatusStatementBytes := by
    by_contra hlong
    rw [decodeStatusRecord, if_pos (Nat.not_le.mp hlong)] at hdecode
    cases hdecode
  rw [decodeStatusRecord_of_length_le record hsize] at hdecode
  cases hdecode
  rw [AuthenticatedElectionStatusStatementV1.fromCanonicalCbor_toCanonicalCbor hstatement]
    at hdecodes
  exact (Except.ok.inj hdecodes).symm

/-! ### What an application does -/

private theorem nextTransition_eq {session : GuiElectionSessionV1}
    {target : ElectionLifecycleStateV1} (hdraft : session.lifecycle.state ≠ .draft)
    (hbelow : session.lifecycle.state.rank < target.rank) :
    ∃ next : ElectionLifecycleStateV1, next.rank = session.lifecycle.state.rank + 1 ∧
      nextTransition session =
        some (.ok (session.inState next session.privateInboxValidationCache)) := by
  unfold nextTransition
  cases hstate : session.lifecycle.state with
  | draft => exact absurd hstate hdraft
  | frozen =>
    refine ⟨.opened, rfl, ?_⟩
    exact congrArg some (GuiElectionSessionV1.withLifecycle_of_state hstate)
  | opened =>
    refine ⟨.closed, rfl, ?_⟩
    exact congrArg some (GuiElectionSessionV1.withLifecycle_of_state hstate)
  | closed =>
    refine ⟨.verified, rfl, ?_⟩
    exact congrArg some (GuiElectionSessionV1.withLifecycle_of_state hstate)
  | verified =>
    refine ⟨.finalized, rfl, ?_⟩
    exact congrArg some (GuiElectionSessionV1.withLifecycle_of_state hstate)
  | finalized =>
    rw [hstate] at hbelow
    cases target with
    | draft | frozen | opened | closed | verified | finalized =>
      simp [ElectionLifecycleStateV1.rank] at hbelow

private theorem advanceWithin_eq {rounds : Nat} {session : GuiElectionSessionV1}
    {target : ElectionLifecycleStateV1} (hdraft : session.lifecycle.state ≠ .draft)
    (hle : session.lifecycle.state.rank ≤ target.rank)
    (hrounds : target.rank ≤ session.lifecycle.state.rank + rounds) :
    advanceWithin rounds session target =
      (.ok (), session.inState target session.privateInboxValidationCache) := by
  have hsame : session.lifecycle.state.rank = target.rank →
      session = session.inState target session.privateInboxValidationCache := by
    intro hrank
    rw [← ElectionLifecycleStateV1.rank_injective hrank]
    rfl
  induction rounds generalizing session with
  | zero =>
    rw [advanceWithin, ← hsame (by omega)]
  | succ rounds ih =>
    rw [advanceWithin]
    split
    · next hbelow =>
      obtain ⟨next, hrank, hnext⟩ := nextTransition_eq hdraft hbelow
      have hnextState : (session.inState next session.privateInboxValidationCache).lifecycle.state =
        next := rfl
      simp only [hnext]
      rw [ih]
      · rfl
      · rw [hnextState]
        rintro rfl
        cases hrank
      · rw [hnextState]
        omega
      · rw [hnextState]
        omega
      · intro heq
        rw [hnextState] at heq
        rw [ElectionLifecycleStateV1.rank_injective heq]
        rfl
    · next hreached =>
      rw [← hsame (by omega)]

/-- The loop reaches its target. -/
theorem advanceSessionLifecycleToStateV1_eq {session : GuiElectionSessionV1}
    {target : ElectionLifecycleStateV1} (hdraft : session.lifecycle.state ≠ .draft)
    (hle : session.lifecycle.state.rank ≤ target.rank) :
    advanceSessionLifecycleToStateV1 session target =
      (.ok (), session.inState target session.privateInboxValidationCache) :=
  advanceWithin_eq hdraft hle (by omega)

namespace ElectionStatusKnowledgeV1

/-- What may be accepted next: not an older generation, and at the same one the same state. -/
def Admits (self : ElectionStatusKnowledgeV1) (state : ElectionLifecycleStateV1)
    (generation : UInt64) : Prop :=
  ∀ previous, self.acceptedGeneration = some previous →
    previous ≤ generation ∧ (generation = previous → self.acceptedState = some state)

/-- A plan is the statement's own state, where it is neither a rollback nor stale nor in
conflict. -/
theorem plan_eq_ok {self : ElectionStatusKnowledgeV1} {state target : ElectionLifecycleStateV1}
    {generation : UInt64} {current : ElectionLifecycleStateV1} :
    self.plan state generation current = .ok target ↔
      target = state ∧ current.rank ≤ state.rank ∧ self.Admits state generation := by
  unfold plan Admits
  split
  · next hrollback =>
    constructor
    · intro h
      cases h
    · rintro ⟨-, hle, -⟩
      omega
  · next hforward =>
    cases hprevious : self.acceptedGeneration with
    | none =>
      constructor
      · intro h
        cases h
        exact ⟨rfl, by omega, by simp⟩
      · rintro ⟨rfl, -, -⟩
        rfl
    | some previous =>
      dsimp only
      by_cases hstale : generation < previous
      · simp only [hstale, if_true]
        constructor
        · intro h
          cases h
        · rintro ⟨-, -, hadmits⟩
          exact absurd (hadmits previous rfl).1 (UInt64.not_le.mpr hstale)
      · simp only [hstale, if_false]
        split
        · next hconflict =>
          constructor
          · intro h
            cases h
          · rintro ⟨-, -, hadmits⟩
            exact absurd ((hadmits previous rfl).2 hconflict.1) hconflict.2
        · next hagrees =>
          constructor
          · intro h
            cases h
            refine ⟨rfl, by omega, ?_⟩
            intro other hother
            cases hother
            refine ⟨UInt64.not_lt.mp hstale, ?_⟩
            intro hsame
            by_contra hne
            exact hagrees ⟨hsame, hne⟩
          · rintro ⟨rfl, -, -⟩
            rfl

end ElectionStatusKnowledgeV1

/-- A statement that decodes is not about a draft. -/
theorem AuthenticatedElectionStatusStatementV1.state_ne_draft_of_fromCanonicalCbor {bytes : Bytes}
    {statement : AuthenticatedElectionStatusStatementV1}
    (h : fromCanonicalCbor bytes = .ok statement) : statement.state ≠ .draft := by
  simp only [fromCanonicalCbor, bind_eq_ok] at h
  obtain ⟨_, _, ⟨decoded, reader⟩, _, _, _, _, hvalid, _, _, _, _, hstatement⟩ := h
  cases hstatement
  obtain ⟨-, code, hcode⟩ := validateFields_eq_ok.mp hvalid
  intro hdraft
  rw [hdraft] at hcode
  cases hcode

/-- What an accepted statement has passed. -/
structure IsAcceptedStatement (ed : SignatureCrate) (statementBytes : Bytes)
    (roots : TransportAuthorityRootSetV1) (knowledge : ElectionStatusKnowledgeV1)
    (session : GuiElectionSessionV1) (statement : AuthenticatedElectionStatusStatementV1) :
    Prop where
  decodes : AuthenticatedElectionStatusStatementV1.fromCanonicalCbor statementBytes = .ok statement
  verifies : statement.verify ed roots session.artifacts.manifest.fields.electionId.toBytes
    session.artifacts.manifestHash session.artifacts.registryCommitment = .ok ()
  forward : session.lifecycle.state.rank ≤ statement.state.rank
  admitted : knowledge.Admits statement.state statement.generation

/-- What one application does: refuse and change nothing, or move the session to the statement's
state and remember the statement. -/
theorem verifyAndApply_cases (ed : SignatureCrate) (statementBytes : Bytes)
    (roots : TransportAuthorityRootSetV1) (knowledge : ElectionStatusKnowledgeV1)
    {session : GuiElectionSessionV1} (hdraft : session.lifecycle.state ≠ .draft) :
    (∃ e, verifyAndApplyElectionStatusStatementV1 ed statementBytes roots knowledge session =
        (.error e, knowledge, session)) ∧
      (¬ ∃ statement, IsAcceptedStatement ed statementBytes roots knowledge session statement) ∨
    ∃ statement, IsAcceptedStatement ed statementBytes roots knowledge session statement ∧
      verifyAndApplyElectionStatusStatementV1 ed statementBytes roots knowledge session =
        (.ok ⟨statement.state, decide (session.lifecycle.state.rank < statement.state.rank),
            statement.generation, statement.state⟩,
          .fromAccepted statement.state statement.generation,
          session.inState statement.state session.privateInboxValidationCache) := by
  unfold verifyAndApplyElectionStatusStatementV1
  cases hplan : planStatement ed statementBytes roots knowledge session with
  | error e =>
    left
    refine ⟨⟨e, rfl⟩, ?_⟩
    rintro ⟨statement, haccepted⟩
    have htarget := ElectionStatusKnowledgeV1.plan_eq_ok.mpr
      ⟨rfl, haccepted.forward, haccepted.admitted⟩
    simp only [planStatement, haccepted.decodes, haccepted.verifies, htarget, bind,
      Except.bind] at hplan
    cases hplan
  | ok planned =>
    right
    simp only [planStatement, bind_eq_ok] at hplan
    obtain ⟨statement, hdecodes, _, hverifies, target, htarget, hplanned⟩ := hplan
    cases hplanned
    obtain ⟨rfl, hforward, hadmits⟩ := ElectionStatusKnowledgeV1.plan_eq_ok.mp htarget
    refine ⟨statement, ⟨hdecodes, hverifies, hforward, hadmits⟩, ?_⟩
    by_cases hbelow : session.lifecycle.state.rank < statement.state.rank
    · simp only [hbelow, if_true, advanceSessionLifecycleToStateV1_eq hdraft hforward]
      rfl
    · have hsame : statement.state = session.lifecycle.state :=
        ElectionLifecycleStateV1.rank_injective (by omega)
      simp only [hsame, Nat.lt_irrefl, if_false]
      rfl

/-! ### A fresh session and statements for it -/

namespace Sample

/-- Every key is one, and every signature verifies. -/
def ed : SignatureCrate := ⟨fun _ ↦ true, fun _ _ _ ↦ true⟩

/-- A fresh session of the sample election. -/
def freshSession : GuiResult GuiElectionSessionV1 := do
  let artifacts ← GuiElectionArtifactsV1.fromBytes prims manifestBytes registryBytes candidateBytes
  GuiElectionSessionV1.new prims artifacts

/-- The signed statement that asserts a state in a generation. -/
def statementBytes (state : ElectionLifecycleStateV1) (generation : UInt64) : Bytes :=
  (AuthenticatedElectionStatusStatementV1.toCanonicalCbor
    ⟨Verifier.Sample.manifest.fields.electionId.toBytes, Verifier.Sample.manifestHash,
      Verifier.Sample.registryCommitment, state, generation, .lit "root",
      ⟨List.replicate 64 1, by simp⟩⟩).toOption.getD []

theorem exists_freshSession : ∃ artifacts fresh,
    GuiElectionSessionV1.new prims artifacts = .ok fresh ∧ freshSession = .ok fresh := by
  have hok : freshSession.isOk = true := by decide +kernel
  cases hfresh : freshSession with
  | error e =>
    rw [hfresh] at hok
    cases hok
  | ok fresh =>
    obtain ⟨artifacts, -, hnew⟩ := bind_eq_ok.mp hfresh
    exact ⟨artifacts, fresh, hnew, rfl⟩

end Sample

end PrivateBallot.GuiCore
