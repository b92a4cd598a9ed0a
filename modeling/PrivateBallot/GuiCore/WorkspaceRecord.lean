import PrivateBallot.Base.Codec
import PrivateBallot.Ballot.Lifecycle
import PrivateBallot.GuiCore.Error

/-!
# Durable workspace records and their binary format

Library `GuiCore`. `crates/gui-core/src/workspace.rs:36-250,1838-2057,2378-2610`: the record one
revision file holds, the commit marker that names it, and the length-prefixed big-endian
format of both. A digest in lowercase hex is held as its ASCII bytes. A `BinaryReader` is the
bytes it has not read yet: an offset that would overflow and one past the end give the same
error.
-/

namespace PrivateBallot.GuiCore

open PrivateBallot.Base PrivateBallot.Protocol PrivateBallot.Ballot

/-! ### Limits -/

def maxBallotPackageBytesV1 : Nat := maxCanonicalObjectBytes
def maxWorkspacePackageCountV1 : Nat := maxRegistryMembers * 2
def maxWorkspaceRevisionBytesV1 : Nat := 512 * 1024 * 1024
def maxWorkspaceRevisionsV1 : Nat := 10000
def maxWorkspaceIdBytes : Nat := 96
def digestHexBytes : Nat := 64
def maxLifecycleStateBytes : Nat := 16
def maxPresentationBytes : Nat := 32
def maxStringFieldBytes : Nat := 1024
def maxGovernanceDocumentBytes : Nat := 50 * 1024 * 1024
def maxWorkspaceCommitBytesV1 : Nat := 1024

def workspaceMagicV1 : Bytes :=
  (Text.lit "TARI_PRIVATE_BALLOT_DURABLE_ELECTION_WORKSPACE_V1").toBytes
def commitMagicV1 : Bytes :=
  (Text.lit "TARI_PRIVATE_BALLOT_DURABLE_ELECTION_WORKSPACE_COMMIT_V1").toBytes
def formatVersionV1 : Nat := 1
def kindDraft : UInt8 := 1
def kindSession : UInt8 := 2
def predecessorGenesis : UInt8 := 0
def predecessorRevision : UInt8 := 1

/-! ### Errors -/

private def archiveError (code message : String) : GuiCoreError :=
  ⟨code, .archiveIntegrity, some "election-workspace", message⟩

def corruptWorkspace : GuiCoreError :=
  archiveError "GUI_WORKSPACE_CORRUPT" "durable election workspace failed validation"

def conflictingWorkspace : GuiCoreError :=
  archiveError "GUI_WORKSPACE_CONFLICT"
    "durable election workspace has conflicting revision history"

def unsupportedWorkspaceVersion : GuiCoreError :=
  ⟨"GUI_WORKSPACE_UNSUPPORTED_VERSION", .unsupportedFormat, some "election-workspace",
    "durable election workspace version is not supported"⟩

private def sizeLimitExceeded (message : String) : GuiCoreError :=
  ⟨"GUI_WORKSPACE_SIZE_LIMIT_EXCEEDED", .invalidInput, some "election-workspace", message⟩

def invalidWorkspaceId : GuiCoreError :=
  ⟨"GUI_WORKSPACE_INVALID_ID", .invalidInput, some "election-workspace",
    "workspace id is not a valid backend-issued identifier"⟩

def unknownPresentation : GuiCoreError :=
  ⟨"GUI_UNKNOWN_PRESENTATION", .invalidInput, some "draft", "unknown ballot presentation type"⟩

/-! ### Data -/

/-- `GuiBallotPresentationType`; `crates/gui-core/src/creation.rs:75`. -/
inductive GuiBallotPresentationType where
  | candidate
  | governanceProposal
  | ballotMeasure
deriving DecidableEq, Repr

namespace GuiBallotPresentationType

/-- `GuiBallotPresentationType::as_str` -/
def asStr : GuiBallotPresentationType → Text
  | candidate => .lit "CANDIDATE"
  | governanceProposal => .lit "GOVERNANCE_PROPOSAL"
  | ballotMeasure => .lit "BALLOT_MEASURE"

/-- `GuiBallotPresentationType::from_identifier` -/
def fromIdentifier (value : Text) : GuiResult GuiBallotPresentationType :=
  if value = .lit "CANDIDATE" ∨ value = .lit "candidate" then .ok candidate
  else if value = .lit "GOVERNANCE_PROPOSAL" ∨ value = .lit "governance-proposal" then
    .ok governanceProposal
  else if value = .lit "BALLOT_MEASURE" ∨ value = .lit "ballot-measure" then .ok ballotMeasure
  else .error unknownPresentation

/-- The stable identifier is one of those that are parsed. -/
theorem fromIdentifier_asStr (p : GuiBallotPresentationType) : fromIdentifier p.asStr = .ok p := by
  cases p <;> decide +kernel

end GuiBallotPresentationType

/-- `GuiElectionDraftSnapshotV1`; `crates/gui-core/src/creation.rs:239`. A `usize` is 64 bits
wide. -/
structure GuiElectionDraftSnapshotV1 where
  electionId : Option Bytes
  proposalQuestion : Option Text
  governanceSourceRevision : Option Text
  approvalMin : Option UInt64
  approvalMax : Option UInt64
  allowAbstention : Bool
  voters : List Bytes
  options : List (Bytes × Text)
  presentation : GuiBallotPresentationType
  governanceDocumentBytes : Option Bytes
deriving DecidableEq

/-- `GuiElectionSessionSnapshotV1`; `crates/gui-core/src/session.rs:90`. -/
structure GuiElectionSessionSnapshotV1 where
  lifecycleState : ElectionLifecycleStateV1
  manifestBytes : Bytes
  registryBytes : Bytes
  candidateBytes : Bytes
  packages : List Bytes
deriving DecidableEq

/-- `DurableElectionWorkspaceBodyV1` -/
inductive DurableElectionWorkspaceBodyV1 where
  | draft (snapshot : GuiElectionDraftSnapshotV1)
  | session (snapshot : GuiElectionSessionSnapshotV1)
deriving DecidableEq

/-- `RevisionPredecessorV1` -/
inductive RevisionPredecessorV1 where
  | genesis
  | previous (revision : Nat) (digestHex : Bytes)
deriving DecidableEq

/-- `DurableElectionWorkspaceV1` -/
structure DurableElectionWorkspaceV1 where
  workspaceId : Text
  revision : Nat
  predecessor : RevisionPredecessorV1
  updatedAtUnixSecs : Option UInt64
  body : DurableElectionWorkspaceBodyV1
deriving DecidableEq

/-- `DurableWorkspaceCommitV1` -/
structure DurableWorkspaceCommitV1 where
  workspaceId : Text
  revision : Nat
  revisionDigestHex : Bytes
deriving DecidableEq

private def isAsciiDigit (b : UInt8) : Bool := 0x30 ≤ b && b ≤ 0x39

private def isAsciiAlphanumeric (b : UInt8) : Bool :=
  isAsciiDigit b || (0x41 ≤ b && b ≤ 0x5a) || (0x61 ≤ b && b ≤ 0x7a)

/-- The bytes a workspace id may hold: letters, digits, `-` and `_`. -/
def workspaceIdIsValid (workspaceId : Text) : Bool :=
  !workspaceId.toBytes.isEmpty && workspaceId.len ≤ maxWorkspaceIdBytes &&
    workspaceId.toBytes.all fun b ↦ isAsciiAlphanumeric b || b == 0x2d || b == 0x5f

/-- `validate_workspace_id_v1`; `crates/gui-core/src/workspace.rs:509`. -/
def validateWorkspaceIdV1 (workspaceId : Text) : GuiResult Unit :=
  if workspaceIdIsValid workspaceId then .ok () else .error invalidWorkspaceId

/-- `byte.is_ascii_digit() || (b'a'..=b'f').contains(&byte)` -/
def isLowerHexByte (b : UInt8) : Bool := isAsciiDigit b || (0x61 ≤ b && b ≤ 0x66)

/-- `digest_hex_is_canonical` -/
def digestHexIsCanonical (value : Bytes) : Bool :=
  value.length = digestHexBytes && value.all isLowerHexByte

theorem length_of_workspaceIdIsValid {workspaceId : Text} (h : workspaceIdIsValid workspaceId) :
    workspaceId.toBytes.length ≤ maxWorkspaceIdBytes := by
  simp only [workspaceIdIsValid, Bool.and_eq_true, decide_eq_true_eq] at h
  exact h.1.2

theorem length_of_digestHexIsCanonical {value : Bytes} (h : digestHexIsCanonical value = true) :
    value.length = digestHexBytes := by
  simp only [digestHexIsCanonical, Bool.and_eq_true, decide_eq_true_eq] at h
  exact h.1

/-! ### Writer -/

/-- An action on a `BinaryWriter`: it appends to the bytes written so far. -/
abbrev BinaryWriter := StateT Bytes (Except GuiCoreError) Unit

namespace BinaryWriter

def bytes (value : Bytes) : BinaryWriter := fun out ↦ .ok ((), out ++ value)

def u8 (value : UInt8) : BinaryWriter := bytes [value]

def bool (value : Bool) : BinaryWriter := u8 (if value then 1 else 0)

def u32 (value : Nat) : BinaryWriter := bytes (beBytes 4 value)

def u64 (value : Nat) : BinaryWriter := bytes (beBytes 8 value)

/-- `self.u32(usize_to_u32(value)?)` -/
def u32OfUsize (value : Nat) : BinaryWriter :=
  if 2 ^ 32 ≤ value then
    throw (sizeLimitExceeded
      "workspace field exceeds the durable election workspace size limit")
  else u32 value

def lenBytes (value : Bytes) (maxBytes : Nat) : BinaryWriter :=
  if maxBytes < value.length then
    throw (sizeLimitExceeded
      "workspace field exceeds the durable election workspace size limit")
  else do
    u32OfUsize value.length
    bytes value

def string (value : Text) (maxBytes : Nat) : BinaryWriter := lenBytes value.toBytes maxBytes

def digestHex (value : Bytes) : BinaryWriter :=
  if digestHexIsCanonical value then lenBytes value digestHexBytes else throw corruptWorkspace

/-- The shape of the `optional_*` methods: a presence flag, then the value. -/
def optional {α : Type} (write : α → BinaryWriter) : Option α → BinaryWriter
  | some value => do
    bool true
    write value
  | none => bool false

def optionalUsize (value : Option UInt64) : BinaryWriter := optional (u64 ·.toNat) value

def optionalString (value : Option Text) (maxBytes : Nat) : BinaryWriter :=
  optional (string · maxBytes) value

def optionalBytes (value : Option Bytes) (maxBytes : Nat) : BinaryWriter :=
  optional (lenBytes · maxBytes) value

def vecOfBytes (values : List Bytes) (maxCount maxBytes : Nat) : BinaryWriter :=
  if maxCount < values.length then
    throw (sizeLimitExceeded
      "workspace vector exceeds the durable election workspace count limit")
  else do
    u32OfUsize values.length
    values.forM (lenBytes · maxBytes)

end BinaryWriter

/-! ### Reader -/

/-- A method of `BinaryReader`: it takes from the bytes not read yet. -/
abbrev BinaryReader (α : Type) := StateT Bytes (Except GuiCoreError) α

namespace BinaryReader

def take (len : Nat) : BinaryReader Bytes := fun rest ↦
  if rest.length < len then .error corruptWorkspace
  else .ok (rest.take len, rest.drop len)

def expectBytes (expected : Bytes) : BinaryReader Unit := do
  let actual ← take expected.length
  if actual = expected then pure () else throw corruptWorkspace

def u8 : BinaryReader UInt8 := do
  let bytes ← take 1
  pure (bytes.headD 0)

def bool : BinaryReader Bool := do
  let byte ← u8
  if byte = 0 then pure false
  else if byte = 1 then pure true
  else throw corruptWorkspace

def u32 : BinaryReader Nat := do
  let bytes ← take 4
  pure (ofBeBytes bytes)

def u64 : BinaryReader Nat := do
  let bytes ← take 8
  pure (ofBeBytes bytes)

def count (maxCount : Nat) : BinaryReader Nat := do
  let count ← u32
  if maxCount < count then throw corruptWorkspace else pure count

def lenBytes (maxBytes : Nat) : BinaryReader Bytes := do
  let len ← count maxBytes
  take len

def string (maxBytes : Nat) : BinaryReader Text := do
  let bytes ← lenBytes maxBytes
  match Text.ofBytes? bytes with
  | some text => pure text
  | none => throw corruptWorkspace

def digestHex : BinaryReader Bytes := do
  let value ← lenBytes digestHexBytes
  if digestHexIsCanonical value then pure value else throw corruptWorkspace

/-- The shape of the `optional_*` methods: a presence flag, then the value. -/
def optional {α : Type} (read : BinaryReader α) : BinaryReader (Option α) := do
  let present ← bool
  if present then
    let value ← read
    pure (some value)
  else pure none

def optionalUsize : BinaryReader (Option UInt64) := optional (do
  let value ← u64
  pure (UInt64.ofNat value))

def optionalString (maxBytes : Nat) : BinaryReader (Option Text) := optional (string maxBytes)

def optionalBytes (maxBytes : Nat) : BinaryReader (Option Bytes) := optional (lenBytes maxBytes)

def vecOfBytes (maxCount maxBytes : Nat) : BinaryReader (List Bytes) := do
  let count ← count maxCount
  readMany (lenBytes maxBytes) count

/-- Runs a decoder over a whole byte string; `finish` requires that all of it was read. -/
def readAll {α : Type} (decoder : BinaryReader α) (input : Bytes) : GuiResult α := do
  let (value, rest) ← decoder input
  if rest.isEmpty then .ok value else .error corruptWorkspace

end BinaryReader

/-! ### Formats -/

/-- `encode_predecessor` -/
def encodePredecessor : RevisionPredecessorV1 → BinaryWriter
  | .genesis => BinaryWriter.u8 predecessorGenesis
  | .previous revision digestHex => do
    BinaryWriter.u8 predecessorRevision
    BinaryWriter.u64 revision
    BinaryWriter.digestHex digestHex

/-- `decode_predecessor` -/
def decodePredecessor : BinaryReader RevisionPredecessorV1 := do
  let tag ← BinaryReader.u8
  if tag = predecessorGenesis then pure .genesis
  else if tag = predecessorRevision then
    let revision ← BinaryReader.u64
    let digestHex ← BinaryReader.digestHex
    pure (.previous revision digestHex)
  else throw corruptWorkspace

private def encodeOption (option : Bytes × Text) : BinaryWriter := do
  BinaryWriter.lenBytes option.1 maxCandidateIdBytes
  BinaryWriter.string option.2 maxCandidateDisplayNameBytes

private def decodeOption : BinaryReader (Bytes × Text) := do
  let id ← BinaryReader.lenBytes maxCandidateIdBytes
  let display ← BinaryReader.string maxCandidateDisplayNameBytes
  pure (id, display)

/-- `encode_draft`; `crates/gui-core/src/workspace.rs:1953`. The number of options is written
without a limit of its own. -/
def encodeDraft (snapshot : GuiElectionDraftSnapshotV1) : BinaryWriter := do
  BinaryWriter.optionalBytes snapshot.electionId maxStringFieldBytes
  BinaryWriter.optionalString snapshot.proposalQuestion maxStringFieldBytes
  BinaryWriter.optionalString snapshot.governanceSourceRevision maxStringFieldBytes
  BinaryWriter.optionalUsize snapshot.approvalMin
  BinaryWriter.optionalUsize snapshot.approvalMax
  BinaryWriter.bool snapshot.allowAbstention
  BinaryWriter.string snapshot.presentation.asStr maxPresentationBytes
  BinaryWriter.vecOfBytes snapshot.voters maxRegistryMembers maxGovernanceKeyBytes
  BinaryWriter.u32OfUsize snapshot.options.length
  snapshot.options.forM encodeOption
  BinaryWriter.optionalBytes snapshot.governanceDocumentBytes maxGovernanceDocumentBytes

private def decodePresentation : BinaryReader GuiBallotPresentationType := do
  let value ← BinaryReader.string maxPresentationBytes
  liftM (GuiBallotPresentationType.fromIdentifier value)

/-- `decode_draft`; `crates/gui-core/src/workspace.rs:1993`. -/
def decodeDraft : BinaryReader GuiElectionDraftSnapshotV1 := do
  let electionId ← BinaryReader.optionalBytes maxStringFieldBytes
  let proposalQuestion ← BinaryReader.optionalString maxStringFieldBytes
  let governanceSourceRevision ← BinaryReader.optionalString maxStringFieldBytes
  let approvalMin ← BinaryReader.optionalUsize
  let approvalMax ← BinaryReader.optionalUsize
  let allowAbstention ← BinaryReader.bool
  let presentation ← decodePresentation
  let voters ← BinaryReader.vecOfBytes maxRegistryMembers maxGovernanceKeyBytes
  let optionCount ← BinaryReader.count maxCandidates
  let options ← readMany decodeOption optionCount
  let governanceDocumentBytes ← BinaryReader.optionalBytes maxGovernanceDocumentBytes
  pure { electionId, proposalQuestion, governanceSourceRevision, approvalMin, approvalMax,
         allowAbstention, voters, options, presentation, governanceDocumentBytes }

/-- `ElectionLifecycleStateV1::as_str`, as text. -/
def lifecycleStateText (state : ElectionLifecycleStateV1) : Text := .lit state.asStr

/-- `parse_lifecycle_state` -/
def parseLifecycleState (value : Text) : GuiResult ElectionLifecycleStateV1 :=
  if value = .lit "DRAFT" then .ok .draft
  else if value = .lit "FROZEN" then .ok .frozen
  else if value = .lit "OPEN" then .ok .opened
  else if value = .lit "CLOSED" then .ok .closed
  else if value = .lit "VERIFIED" then .ok .verified
  else if value = .lit "FINALIZED" then .ok .finalized
  else .error corruptWorkspace

/-- Every lifecycle state is parsed from its name. -/
theorem parseLifecycleState_text (state : ElectionLifecycleStateV1) :
    parseLifecycleState (lifecycleStateText state) = .ok state := by
  cases state <;> decide +kernel

/-- `encode_session`; `crates/gui-core/src/workspace.rs:2025`. -/
def encodeSession (snapshot : GuiElectionSessionSnapshotV1) : BinaryWriter := do
  BinaryWriter.string (lifecycleStateText snapshot.lifecycleState) maxLifecycleStateBytes
  BinaryWriter.lenBytes snapshot.manifestBytes maxCanonicalObjectBytes
  BinaryWriter.lenBytes snapshot.registryBytes maxCanonicalObjectBytes
  BinaryWriter.lenBytes snapshot.candidateBytes maxCanonicalObjectBytes
  BinaryWriter.vecOfBytes snapshot.packages maxWorkspacePackageCountV1 maxBallotPackageBytesV1

private def decodeLifecycleState : BinaryReader ElectionLifecycleStateV1 := do
  let value ← BinaryReader.string maxLifecycleStateBytes
  liftM (parseLifecycleState value)

/-- `decode_session`; `crates/gui-core/src/workspace.rs:2041`. -/
def decodeSession : BinaryReader GuiElectionSessionSnapshotV1 := do
  let lifecycleState ← decodeLifecycleState
  let manifestBytes ← BinaryReader.lenBytes maxCanonicalObjectBytes
  let registryBytes ← BinaryReader.lenBytes maxCanonicalObjectBytes
  let candidateBytes ← BinaryReader.lenBytes maxCanonicalObjectBytes
  let packages ← BinaryReader.vecOfBytes maxWorkspacePackageCountV1 maxBallotPackageBytesV1
  pure { lifecycleState, manifestBytes, registryBytes, candidateBytes, packages }

/-- The kind of the body and the body itself. -/
def encodeBody : DurableElectionWorkspaceBodyV1 → BinaryWriter
  | .draft snapshot => do
    BinaryWriter.u8 kindDraft
    encodeDraft snapshot
  | .session snapshot => do
    BinaryWriter.u8 kindSession
    encodeSession snapshot

private def decodeBody : BinaryReader DurableElectionWorkspaceBodyV1 := do
  let kind ← BinaryReader.u8
  if kind = kindDraft then
    let snapshot ← decodeDraft
    pure (.draft snapshot)
  else if kind = kindSession then
    let snapshot ← decodeSession
    pure (.session snapshot)
  else throw corruptWorkspace

private def encodeRecord (record : DurableElectionWorkspaceV1) : BinaryWriter := do
  BinaryWriter.bytes workspaceMagicV1
  BinaryWriter.u32 formatVersionV1
  BinaryWriter.u64 record.revision
  encodePredecessor record.predecessor
  BinaryWriter.u64 (record.updatedAtUnixSecs.getD 0).toNat
  BinaryWriter.string record.workspaceId maxWorkspaceIdBytes
  encodeBody record.body

/-- `if version != FORMAT_VERSION_V1 { return Err(..) }` -/
private def expectVersion : BinaryReader Unit := do
  let version ← BinaryReader.u32
  if version = formatVersionV1 then pure () else throw unsupportedWorkspaceVersion

private def decodeUpdatedAt : BinaryReader (Option UInt64) := do
  let value ← BinaryReader.u64
  if value = 0 then pure none else pure (some (UInt64.ofNat value))

private def decodeWorkspaceId : BinaryReader Text := do
  let workspaceId ← BinaryReader.string maxWorkspaceIdBytes
  if workspaceIdIsValid workspaceId then pure workspaceId else throw invalidWorkspaceId

private def decodeRecord : BinaryReader DurableElectionWorkspaceV1 := do
  BinaryReader.expectBytes workspaceMagicV1
  expectVersion
  let revision ← BinaryReader.u64
  let predecessor ← decodePredecessor
  let updatedAtUnixSecs ← decodeUpdatedAt
  let workspaceId ← decodeWorkspaceId
  let body ← decodeBody
  pure { workspaceId, revision, predecessor, updatedAtUnixSecs, body }

/-- The bytes a writer produces from an empty buffer. -/
def BinaryWriter.output (writer : BinaryWriter) : GuiResult Bytes := do
  let ((), out) ← writer []
  pure out

/-- `encode_workspace`; `crates/gui-core/src/workspace.rs:1838`. -/
def encodeWorkspace (record : DurableElectionWorkspaceV1) : GuiResult Bytes :=
  (encodeRecord record).output

/-- `decode_workspace`; `crates/gui-core/src/workspace.rs:1888`. -/
def decodeWorkspace (bytes : Bytes) : GuiResult DurableElectionWorkspaceV1 :=
  BinaryReader.readAll decodeRecord bytes

private def encodeCommit (commit : DurableWorkspaceCommitV1) : BinaryWriter := do
  BinaryWriter.bytes commitMagicV1
  BinaryWriter.u32 formatVersionV1
  BinaryWriter.u64 commit.revision
  BinaryWriter.string commit.workspaceId maxWorkspaceIdBytes
  BinaryWriter.digestHex commit.revisionDigestHex

private def decodeCommit : BinaryReader DurableWorkspaceCommitV1 := do
  BinaryReader.expectBytes commitMagicV1
  expectVersion
  let revision ← BinaryReader.u64
  let workspaceId ← decodeWorkspaceId
  let revisionDigestHex ← BinaryReader.digestHex
  pure { workspaceId, revision, revisionDigestHex }

/-- `encode_commit_marker` -/
def encodeCommitMarker (commit : DurableWorkspaceCommitV1) : GuiResult Bytes :=
  (encodeCommit commit).output

/-- `decode_commit_marker` -/
def decodeCommitMarker (bytes : Bytes) : GuiResult DurableWorkspaceCommitV1 :=
  BinaryReader.readAll decodeCommit bytes

/-! ### Fields are read back -/

private theorem reads_take (b : Bytes) : Reads (BinaryReader.take b.length) b b := by
  intro s t h
  have hs : s = b ++ t := h
  simp [BinaryReader.take, hs]

private theorem writes_bytes {α : Type} {d : BinaryReader α} {b : Bytes} {a : α}
    (h : Reads d b a) : Writes (BinaryWriter.bytes b) d a := by
  intro out result hw
  cases hw
  exact ⟨b, rfl, h⟩

private theorem writes_throw {α : Type} {d : BinaryReader α} {a : α} (e : GuiCoreError) :
    Writes (throw e) d a := by
  intro out result hw
  cases hw

private theorem writes_expectBytes (b : Bytes) :
    Writes (BinaryWriter.bytes b) (BinaryReader.expectBytes b) () := by
  apply writes_bytes
  apply (reads_take b).bind_nil
  rw [if_pos rfl]
  exact Reads.pure ()

private theorem reads_u8 (v : UInt8) : Reads BinaryReader.u8 [v] v :=
  (reads_take [v]).bind_nil (Reads.pure v)

private theorem writes_u8 (v : UInt8) : Writes (BinaryWriter.u8 v) BinaryReader.u8 v :=
  writes_bytes (reads_u8 v)

private theorem writes_bool (v : Bool) : Writes (BinaryWriter.bool v) BinaryReader.bool v := by
  apply writes_bytes
  apply (reads_u8 _).bind_nil
  cases v
  · exact Reads.pure false
  · exact Reads.pure true

private theorem reads_fixed (width n : Nat) (h : n < 256 ^ width) :
    Reads (do let bytes ← BinaryReader.take width; pure (ofBeBytes bytes)) (beBytes width n) n := by
  have htake : Reads (BinaryReader.take width) (beBytes width n) (beBytes width n) := by
    have := reads_take (beBytes width n)
    rwa [length_beBytes] at this
  apply htake.bind_nil
  rw [ofBeBytes_beBytes width n h]
  exact Reads.pure n

private theorem reads_u32 (n : Nat) (h : n < 2 ^ 32) :
    Reads BinaryReader.u32 (beBytes 4 n) n := reads_fixed 4 n h

private theorem writes_u64 (n : Nat) (h : n < 2 ^ 64) :
    Writes (BinaryWriter.u64 n) BinaryReader.u64 n := writes_bytes (reads_fixed 8 n h)

private theorem reads_count (n maxCount : Nat) (h : n < 2 ^ 32) (hmax : n ≤ maxCount) :
    Reads (BinaryReader.count maxCount) (beBytes 4 n) n := by
  apply (reads_u32 n h).bind_nil
  rw [if_neg (Nat.not_lt.mpr hmax)]
  exact Reads.pure n

private theorem writes_count (n maxCount : Nat) (hmax : n ≤ maxCount) :
    Writes (BinaryWriter.u32OfUsize n) (BinaryReader.count maxCount) n := by
  unfold BinaryWriter.u32OfUsize
  split
  · exact writes_throw _
  · next h => exact writes_bytes (reads_count n maxCount (Nat.not_le.mp h) hmax)

private theorem writes_lenBytes (value : Bytes) (maxBytes : Nat) :
    Writes (BinaryWriter.lenBytes value maxBytes) (BinaryReader.lenBytes maxBytes) value := by
  unfold BinaryWriter.lenBytes
  split
  · exact writes_throw _
  · next h =>
    apply (writes_count value.length maxBytes (Nat.not_lt.mp h)).bind
    exact writes_bytes (reads_take value)

private theorem writes_string (value : Text) (maxBytes : Nat) :
    Writes (BinaryWriter.string value maxBytes) (BinaryReader.string maxBytes) value := by
  apply (writes_lenBytes value.toBytes maxBytes).bind_nil
  rw [Text.ofBytes?_toBytes]
  exact Reads.pure value

private theorem writes_digestHex (value : Bytes) :
    Writes (BinaryWriter.digestHex value) BinaryReader.digestHex value := by
  unfold BinaryWriter.digestHex
  split
  · next h =>
    apply (writes_lenBytes value digestHexBytes).bind_nil
    rw [if_pos h]
    exact Reads.pure value
  · exact writes_throw _

private theorem writes_optional {α : Type} {write : α → BinaryWriter} {read : BinaryReader α}
    (h : ∀ v, Writes (write v) read v) (value : Option α) :
    Writes (BinaryWriter.optional write value) (BinaryReader.optional read) value := by
  cases value with
  | none => exact (writes_bool false).bind_nil (Reads.pure none)
  | some v => exact (writes_bool true).bind ((h v).bind_nil (Reads.pure (some v)))

private theorem writes_optionalUsize (value : Option UInt64) :
    Writes (BinaryWriter.optionalUsize value) BinaryReader.optionalUsize value := by
  apply writes_optional
  intro v
  apply (writes_u64 v.toNat v.toNat_lt).bind_nil
  rw [UInt64.ofNat_toNat]
  exact Reads.pure v

private theorem writes_vecOfBytes (values : List Bytes) (maxCount maxBytes : Nat) :
    Writes (BinaryWriter.vecOfBytes values maxCount maxBytes)
      (BinaryReader.vecOfBytes maxCount maxBytes) values := by
  unfold BinaryWriter.vecOfBytes
  split
  · exact writes_throw _
  · next h =>
    apply (writes_count values.length maxCount (Nat.not_lt.mp h)).bind
    apply Writes.forM
    intro v _
    exact writes_lenBytes v maxBytes

private theorem reads_liftM {α : Type} (x : GuiResult α) (a : α) (h : x = .ok a) :
    Reads (liftM x : BinaryReader α) [] a := by
  rw [h]
  exact Reads.pure a

/-! ### Records are read back -/

private theorem writes_predecessor (predecessor : RevisionPredecessorV1)
    (h : ∀ revision digestHex, predecessor = .previous revision digestHex → revision < 2 ^ 64) :
    Writes (encodePredecessor predecessor) decodePredecessor predecessor := by
  cases predecessor with
  | genesis => exact (writes_u8 predecessorGenesis).bind_nil (Reads.pure _)
  | previous revision digestHex =>
    apply (writes_u8 predecessorRevision).bind
    apply (writes_u64 revision (h revision digestHex rfl)).bind
    exact (writes_digestHex digestHex).bind_nil (Reads.pure _)

private theorem writes_option (option : Bytes × Text) :
    Writes (encodeOption option) decodeOption option := by
  apply (writes_lenBytes option.1 maxCandidateIdBytes).bind
  exact (writes_string option.2 maxCandidateDisplayNameBytes).bind_nil (Reads.pure option)

private theorem writes_presentation (p : GuiBallotPresentationType) :
    Writes (BinaryWriter.string p.asStr maxPresentationBytes) decodePresentation p :=
  (writes_string p.asStr maxPresentationBytes).bind_nil
    (reads_liftM _ p (GuiBallotPresentationType.fromIdentifier_asStr p))

/-- A draft with no more options than the reader takes is read back. -/
private theorem writes_draft (snapshot : GuiElectionDraftSnapshotV1)
    (h : snapshot.options.length ≤ maxCandidates) :
    Writes (encodeDraft snapshot) decodeDraft snapshot := by
  apply (writes_optional (fun v ↦ writes_lenBytes v _) snapshot.electionId).bind
  apply (writes_optional (fun v ↦ writes_string v _) snapshot.proposalQuestion).bind
  apply (writes_optional (fun v ↦ writes_string v _) snapshot.governanceSourceRevision).bind
  apply (writes_optionalUsize snapshot.approvalMin).bind
  apply (writes_optionalUsize snapshot.approvalMax).bind
  apply (writes_bool snapshot.allowAbstention).bind
  apply (writes_presentation snapshot.presentation).bind
  apply (writes_vecOfBytes snapshot.voters _ _).bind
  apply (writes_count snapshot.options.length maxCandidates h).bind
  apply (Writes.forM snapshot.options fun option _ ↦ writes_option option).bind
  exact (writes_optional (fun v ↦ writes_lenBytes v _)
    snapshot.governanceDocumentBytes).bind_nil (Reads.pure snapshot)

private theorem writes_session (snapshot : GuiElectionSessionSnapshotV1) :
    Writes (encodeSession snapshot) decodeSession snapshot := by
  have hstate : Writes
      (BinaryWriter.string (lifecycleStateText snapshot.lifecycleState) maxLifecycleStateBytes)
      decodeLifecycleState snapshot.lifecycleState :=
    (writes_string _ _).bind_nil (reads_liftM _ _ (parseLifecycleState_text _))
  apply hstate.bind
  apply (writes_lenBytes snapshot.manifestBytes _).bind
  apply (writes_lenBytes snapshot.registryBytes _).bind
  apply (writes_lenBytes snapshot.candidateBytes _).bind
  exact (writes_vecOfBytes snapshot.packages _ _).bind_nil (Reads.pure snapshot)

private theorem refused_count (n maxCount : Nat) (hmax : maxCount < n) :
    Refused (BinaryWriter.u32OfUsize n) (BinaryReader.count maxCount) := by
  unfold BinaryWriter.u32OfUsize
  split
  · intro out result hw
    cases hw
  · next h =>
    intro out result hw
    cases hw
    refine ⟨beBytes 4 n, rfl, ?_⟩
    rw [← List.append_nil (beBytes 4 n)]
    apply (reads_u32 n (Nat.not_le.mp h)).bind_rejects
    rw [if_pos hmax]
    intro s t _
    exact ⟨corruptWorkspace, rfl⟩

/-- A draft with more options than the reader takes is written and then refused. -/
private theorem refused_draft (snapshot : GuiElectionDraftSnapshotV1)
    (h : maxCandidates < snapshot.options.length) :
    Refused (encodeDraft snapshot) decodeDraft := by
  apply (writes_optional (fun v ↦ writes_lenBytes v _) snapshot.electionId).bind_refused
  apply (writes_optional (fun v ↦ writes_string v _) snapshot.proposalQuestion).bind_refused
  apply (writes_optional (fun v ↦ writes_string v _)
    snapshot.governanceSourceRevision).bind_refused
  apply (writes_optionalUsize snapshot.approvalMin).bind_refused
  apply (writes_optionalUsize snapshot.approvalMax).bind_refused
  apply (writes_bool snapshot.allowAbstention).bind_refused
  apply (writes_presentation snapshot.presentation).bind_refused
  apply (writes_vecOfBytes snapshot.voters _ _).bind_refused
  have hoptions := Writes.forM snapshot.options fun option _ ↦ writes_option option
  have hdocument := writes_optional (fun v ↦ writes_lenBytes v maxGovernanceDocumentBytes)
    snapshot.governanceDocumentBytes
  apply (refused_count snapshot.options.length maxCandidates h).bind
  exact hoptions.bind (f := fun _ ↦ _) hdocument

/-- The bodies the reader takes back: a draft has no more options than a candidate set. -/
def DurableElectionWorkspaceBodyV1.isReadable : DurableElectionWorkspaceBodyV1 → Bool
  | .draft snapshot => snapshot.options.length ≤ maxCandidates
  | .session _ => true

private theorem writes_body (body : DurableElectionWorkspaceBodyV1) (h : body.isReadable = true) :
    Writes (encodeBody body) decodeBody body := by
  cases body with
  | draft snapshot =>
    apply (writes_u8 kindDraft).bind
    exact (writes_draft snapshot (of_decide_eq_true h)).bind_nil (Reads.pure _)
  | session snapshot =>
    apply (writes_u8 kindSession).bind
    exact (writes_session snapshot).bind_nil (Reads.pure _)

private theorem refused_body (body : DurableElectionWorkspaceBodyV1)
    (h : body.isReadable = false) : Refused (encodeBody body) decodeBody := by
  cases body with
  | draft snapshot =>
    apply (writes_u8 kindDraft).bind_refused
    have hmany : maxCandidates < snapshot.options.length :=
      Nat.not_le.mp (of_decide_eq_false h)
    intro out result hw
    obtain ⟨b, rfl, hb⟩ := refused_draft snapshot hmany out result hw
    refine ⟨b, rfl, ?_⟩
    rw [← List.append_nil b]
    exact hb.bind
  | session snapshot => cases h

private theorem writes_version :
    Writes (BinaryWriter.u32 formatVersionV1) expectVersion () := by
  apply writes_bytes
  apply (reads_u32 formatVersionV1 (by decide)).bind_nil
  rw [if_pos rfl]
  exact Reads.pure ()

private theorem writes_workspaceId (workspaceId : Text) (h : workspaceIdIsValid workspaceId) :
    Writes (BinaryWriter.string workspaceId maxWorkspaceIdBytes) decodeWorkspaceId workspaceId := by
  apply (writes_string workspaceId maxWorkspaceIdBytes).bind_nil
  rw [if_pos h]
  exact Reads.pure workspaceId

/-- A time of zero is read back as no time. -/
def storedUpdatedAt (updatedAtUnixSecs : Option UInt64) : Option UInt64 :=
  updatedAtUnixSecs.filter (· ≠ 0)

private theorem writes_updatedAt (updatedAt : Option UInt64) :
    Writes (BinaryWriter.u64 (updatedAt.getD 0).toNat) decodeUpdatedAt
      (storedUpdatedAt updatedAt) := by
  apply (writes_u64 _ (updatedAt.getD 0).toNat_lt).bind_nil
  cases updatedAt with
  | none => exact Reads.pure none
  | some v =>
    rw [Option.getD_some, UInt64.ofNat_toNat]
    by_cases hv : v = 0
    · subst hv
      exact Reads.pure none
    · have hnat : ¬ v.toNat = 0 := by
        intro h
        exact hv (UInt64.toNat_inj.mp h)
      rw [if_neg hnat, storedUpdatedAt, Option.filter_some, if_pos (by simpa using hv)]
      exact Reads.pure (some v)

/-- The numbers of a record fit their fields and its id is a valid one. -/
structure DurableElectionWorkspaceV1.IsRepresentable (record : DurableElectionWorkspaceV1) :
    Prop where
  workspaceId : workspaceIdIsValid record.workspaceId
  revision : record.revision < 2 ^ 64
  predecessor : ∀ revision digestHex, record.predecessor = .previous revision digestHex →
    revision < 2 ^ 64

private theorem writes_record (record : DurableElectionWorkspaceV1) (h : record.IsRepresentable)
    (hbody : record.body.isReadable = true) :
    Writes (encodeRecord record) decodeRecord
      { record with updatedAtUnixSecs := storedUpdatedAt record.updatedAtUnixSecs } := by
  apply (writes_expectBytes workspaceMagicV1).bind
  apply writes_version.bind
  apply (writes_u64 record.revision h.revision).bind
  apply (writes_predecessor record.predecessor h.predecessor).bind
  apply (writes_updatedAt record.updatedAtUnixSecs).bind
  apply (writes_workspaceId record.workspaceId h.workspaceId).bind
  exact (writes_body record.body hbody).bind_nil (Reads.pure _)

private theorem refused_record (record : DurableElectionWorkspaceV1) (h : record.IsRepresentable)
    (hbody : record.body.isReadable = false) : Refused (encodeRecord record) decodeRecord := by
  apply (writes_expectBytes workspaceMagicV1).bind_refused
  apply writes_version.bind_refused
  apply (writes_u64 record.revision h.revision).bind_refused
  apply (writes_predecessor record.predecessor h.predecessor).bind_refused
  apply (writes_updatedAt record.updatedAtUnixSecs).bind_refused
  apply (writes_workspaceId record.workspaceId h.workspaceId).bind_refused
  intro out result hw
  obtain ⟨b, rfl, hb⟩ := refused_body record.body hbody out result hw
  refine ⟨b, rfl, ?_⟩
  rw [← List.append_nil b]
  exact hb.bind

private theorem output_eq_ok {w : BinaryWriter} {b : Bytes} (h : w.output = .ok b) :
    w [] = .ok ((), b) := by
  unfold BinaryWriter.output at h
  cases hw : w [] with
  | error e => simp [hw, bind, Except.bind] at h
  | ok pair =>
    obtain ⟨⟨⟩, out⟩ := pair
    simp only [hw, bind, Except.bind, pure, Except.pure, Except.ok.injEq] at h
    rw [h]

private theorem readAll_of_writes {α : Type} {w : BinaryWriter} {d : BinaryReader α} {a : α}
    (h : Writes w d a) {b : Bytes} (hw : w.output = .ok b) : d.readAll b = .ok a := by
  obtain ⟨b', hb', hreads⟩ := h [] b (output_eq_ok hw)
  have hconsumes : b = b' ++ [] := by simpa using hb'
  have hd : d b = .ok (a, []) := hreads b [] hconsumes
  simp [BinaryReader.readAll, hd, bind, Except.bind]

/-- Every payload the encoder produces for a readable body is decoded to the record it was made
from. -/
theorem decodeWorkspace_encodeWorkspace {record : DurableElectionWorkspaceV1} {payload : Bytes}
    (hrep : record.IsRepresentable) (hbody : record.body.isReadable = true)
    (h : encodeWorkspace record = .ok payload) :
    decodeWorkspace payload =
      .ok { record with updatedAtUnixSecs := storedUpdatedAt record.updatedAtUnixSecs } :=
  readAll_of_writes (writes_record record hrep hbody) h

/-- What the decoder takes of a payload the encoder produced is the record it was made from. -/
theorem eq_of_decodeWorkspace_encodeWorkspace {record decoded : DurableElectionWorkspaceV1}
    {payload : Bytes} (hrep : record.IsRepresentable) (h : encodeWorkspace record = .ok payload)
    (hd : decodeWorkspace payload = .ok decoded) :
    record.body.isReadable = true ∧
      decoded = { record with updatedAtUnixSecs := storedUpdatedAt record.updatedAtUnixSecs } := by
  cases hbody : record.body.isReadable with
  | true =>
    rw [decodeWorkspace_encodeWorkspace hrep hbody h] at hd
    cases hd
    exact ⟨rfl, rfl⟩
  | false =>
    obtain ⟨b, hb, hrejects⟩ := refused_record record hrep hbody [] payload (output_eq_ok h)
    have hconsumes : payload = b ++ [] := by simpa using hb
    obtain ⟨e, he⟩ := hrejects payload [] hconsumes
    unfold decodeWorkspace BinaryReader.readAll at hd
    simp [he, bind, Except.bind] at hd

/-- Every commit marker the encoder produces is decoded to the marker it was made from. -/
theorem decodeCommitMarker_encodeCommitMarker {commit : DurableWorkspaceCommitV1}
    {payload : Bytes} (hid : workspaceIdIsValid commit.workspaceId)
    (hrevision : commit.revision < 2 ^ 64) (h : encodeCommitMarker commit = .ok payload) :
    decodeCommitMarker payload = .ok commit := by
  have hw : Writes (encodeCommit commit) decodeCommit commit := by
    apply (writes_expectBytes commitMagicV1).bind
    apply writes_version.bind
    apply (writes_u64 commit.revision hrevision).bind
    apply (writes_workspaceId commit.workspaceId hid).bind
    exact (writes_digestHex commit.revisionDigestHex).bind_nil (Reads.pure commit)
  exact readAll_of_writes hw h

/-! ### What can be written -/

theorem emits_bytes (b : Bytes) : Emits (BinaryWriter.bytes b) b := fun _ ↦ rfl

theorem emits_u32OfUsize {value : Nat} (h : value < 2 ^ 32) :
    Emits (BinaryWriter.u32OfUsize value) (beBytes 4 value) := by
  unfold BinaryWriter.u32OfUsize
  rw [if_neg (Nat.not_le.mpr h)]
  exact emits_bytes _

theorem emits_lenBytes (value : Bytes) {maxBytes : Nat} (hmax : value.length ≤ maxBytes)
    (h32 : maxBytes < 2 ^ 32) :
    Emits (BinaryWriter.lenBytes value maxBytes) (beBytes 4 value.length ++ value) := by
  unfold BinaryWriter.lenBytes
  rw [if_neg (Nat.not_lt.mpr hmax)]
  exact (emits_u32OfUsize (by omega)).bind (emits_bytes value)

theorem emits_vecOfBytes (values : List Bytes) {maxCount maxBytes : Nat}
    (hcount : values.length ≤ maxCount) (hcount32 : maxCount < 2 ^ 32)
    (hmax : ∀ value ∈ values, value.length ≤ maxBytes) (h32 : maxBytes < 2 ^ 32) :
    Emits (BinaryWriter.vecOfBytes values maxCount maxBytes) (beBytes 4 values.length ++
      values.flatMap fun value ↦ beBytes 4 value.length ++ value) := by
  unfold BinaryWriter.vecOfBytes
  rw [if_neg (Nat.not_lt.mpr hcount)]
  refine (emits_u32OfUsize (by omega)).bind (Emits.forM values ?_)
  intro value hvalue
  exact emits_lenBytes value (hmax value hvalue) h32

private theorem emits_digestHex {value : Bytes} (h : digestHexIsCanonical value = true) :
    Emits (BinaryWriter.digestHex value) (beBytes 4 value.length ++ value) := by
  unfold BinaryWriter.digestHex
  rw [if_pos h]
  exact emits_lenBytes value (Nat.le_of_eq (length_of_digestHexIsCanonical h)) (by decide)

private theorem emits_workspaceId {workspaceId : Text} (h : workspaceIdIsValid workspaceId) :
    Emits (BinaryWriter.string workspaceId maxWorkspaceIdBytes)
      (beBytes 4 workspaceId.toBytes.length ++ workspaceId.toBytes) :=
  emits_lenBytes _ (length_of_workspaceIdIsValid h) (by decide)

private theorem output_of_emits {w : BinaryWriter} {b : Bytes} (h : Emits w b) :
    w.output = .ok b := by
  simp [BinaryWriter.output, h [], bind, Except.bind, pure, Except.pure]

/-- The marker of a canonical digest can be written, and the reader takes it. -/
theorem exists_encodeCommitMarker {workspaceId : Text} {revision : Nat} {digestHex : Bytes}
    (hid : workspaceIdIsValid workspaceId) (hdigest : digestHexIsCanonical digestHex = true)
    (hrevision : revision < 2 ^ 64) :
    ∃ marker, encodeCommitMarker ⟨workspaceId, revision, digestHex⟩ = .ok marker ∧
      marker.length ≤ maxWorkspaceCommitBytesV1 ∧
        decodeCommitMarker marker = .ok ⟨workspaceId, revision, digestHex⟩ := by
  have hidlen := length_of_workspaceIdIsValid hid
  have hdigestlen := length_of_digestHexIsCanonical hdigest
  have hemits : Emits (encodeCommit ⟨workspaceId, revision, digestHex⟩) _ :=
    (emits_bytes commitMagicV1).bind <| (emits_bytes (beBytes 4 formatVersionV1)).bind <|
      (emits_bytes (beBytes 8 revision)).bind <| (emits_workspaceId hid).bind <|
      emits_digestHex hdigest
  have hencode := output_of_emits hemits
  refine ⟨_, hencode, ?_, decodeCommitMarker_encodeCommitMarker hid hrevision hencode⟩
  have hmagic : commitMagicV1.length = 56 := by decide +kernel
  have hsum : 56 + 4 + 8 + (4 + maxWorkspaceIdBytes) + (4 + digestHexBytes) ≤
      maxWorkspaceCommitBytesV1 := by decide
  simp only [List.length_append, length_beBytes, hmagic, hdigestlen]
  omega

/-- The bytes a record adds to those of its body. -/
def maxRecordHeaderBytes : Nat := 512

private theorem exists_emits_predecessor (predecessor : RevisionPredecessorV1)
    (h : ∀ revision digestHex, predecessor = .previous revision digestHex →
      digestHexIsCanonical digestHex = true) :
    ∃ b, Emits (encodePredecessor predecessor) b ∧ b.length ≤ 9 + (4 + digestHexBytes) := by
  cases predecessor with
  | genesis => exact ⟨[predecessorGenesis], emits_bytes _, by decide⟩
  | previous revision digestHex =>
    have hdigest := h revision digestHex rfl
    have hlength := length_of_digestHexIsCanonical hdigest
    refine ⟨_, (emits_bytes [predecessorRevision]).bind <|
      (emits_bytes (beBytes 8 revision)).bind <| emits_digestHex hdigest, ?_⟩
    simp only [List.length_append, length_beBytes, hlength, List.length_singleton]
    omega

/-- A record whose body can be written can be written, at the length of its body and a header. -/
theorem exists_encodeWorkspace {record : DurableElectionWorkspaceV1} {b : Bytes}
    (hid : workspaceIdIsValid record.workspaceId)
    (hpredecessor : ∀ revision digestHex, record.predecessor = .previous revision digestHex →
      digestHexIsCanonical digestHex = true)
    (hbody : Emits (encodeBody record.body) b) :
    ∃ payload, encodeWorkspace record = .ok payload ∧ b.length ≤ payload.length ∧
      payload.length ≤ maxRecordHeaderBytes + b.length := by
  have hidlen := length_of_workspaceIdIsValid hid
  obtain ⟨p, hp, hplen⟩ := exists_emits_predecessor record.predecessor hpredecessor
  have hemits : Emits (encodeRecord record) _ :=
    (emits_bytes workspaceMagicV1).bind <| (emits_bytes (beBytes 4 formatVersionV1)).bind <|
      (emits_bytes (beBytes 8 record.revision)).bind <| hp.bind <|
      (emits_bytes (beBytes 8 (record.updatedAtUnixSecs.getD 0).toNat)).bind <|
      (emits_workspaceId hid).bind hbody
  have hmagic : workspaceMagicV1.length ≤ 64 := by decide +kernel
  have hsum : 64 + 4 + 8 + (9 + (4 + digestHexBytes)) + 8 + (4 + maxWorkspaceIdBytes) ≤
      maxRecordHeaderBytes := by decide
  refine ⟨_, output_of_emits hemits, ?_, ?_⟩
  · simp only [List.length_append]
    omega
  · simp only [List.length_append, length_beBytes]
    omega

end PrivateBallot.GuiCore
