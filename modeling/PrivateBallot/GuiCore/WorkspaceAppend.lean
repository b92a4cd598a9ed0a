import PrivateBallot.Base.Program
import PrivateBallot.GuiCore.WorkspaceMemory

/-!
# Appending a workspace revision

Library `GuiCore`. `crates/gui-core/src/workspace.rs:1017-1314,1708-1746`: resolving the head an
append chains onto, the guard on what may follow it, and the append itself as a program over
file operations. Every file creation, removal and read is one operation, so that a call can fail
at it or be cut off before it. A file is created whole or not at all: a failed creation removes
what it wrote.
-/

namespace PrivateBallot.GuiCore

open PrivateBallot.Base PrivateBallot.Protocol PrivateBallot.Ballot

/-- `AppendHead` -/
structure AppendHead where
  revision : Nat
  digestHex : Bytes
  body : DurableElectionWorkspaceBodyV1
deriving DecidableEq

/-- `estimate_workspace_body_bytes` -/
def estimateWorkspaceBodyBytes : DurableElectionWorkspaceBodyV1 → Nat
  | .session snapshot =>
    snapshot.manifestBytes.length + snapshot.registryBytes.length +
      snapshot.candidateBytes.length + (snapshot.packages.map List.length).sum
  | .draft _ => 4096

/-! ### Resolving the head -/

/-- `read_head_payload_verified` -/
def readHeadPayloadVerified (platform : Platform) (revisions : Directory) (name : Bytes)
    (expectedDigestHex : Bytes) : GuiResult Bytes :=
  match revisions.lookup name with
  | none => .error workspaceIoFailure
  | some payload =>
    if maxWorkspaceRevisionBytesV1 < payload.length then .error corruptWorkspace
    else if revisionDigestHex platform payload ≠ expectedDigestHex then .error corruptWorkspace
    else .ok payload

/-- The reads of `fast_path_append_head`: the payload of the head file if the committed head on
disk is the trusted one, nothing if it has drifted. -/
def confirmAppendHead (platform : Platform) (disk : Disk) (workspaceId : Text)
    (trustedRevision : Nat) (trustedDigest : Bytes) : GuiResult (Option Bytes) := do
  validateWorkspaceIdV1 workspaceId
  match (directoryOf disk workspaceId).commits with
  | none => .ok none
  | some commits =>
    let committedDigests ← loadCommitMarkers platform commits workspaceId
    match committedDigests.keys.getLast? with
    | none => .ok none
    | some headRevision =>
      if headRevision ≠ trustedRevision ∨ committedDigests[headRevision]? ≠ some trustedDigest then
        .ok none
      else match (directoryOf disk workspaceId).revisions with
      | none => .ok none
      | some revisions =>
        let payload ← readHeadPayloadVerified platform revisions
          (revisionFilename trustedRevision trustedDigest) trustedDigest
        .ok (some payload)

/-- `fast_path_append_head`; `crates/gui-core/src/workspace.rs:1211`. -/
def fastPathAppendHead (platform : Platform) (disk : Disk) (workspaceId : Text)
    (trustedRevision : Nat) (trustedDigest : Bytes) (cache : WarmHeadBodyCacheV1) :
    GuiResult (Option AppendHead) × WarmHeadBodyCacheV1 :=
  match confirmAppendHead platform disk workspaceId trustedRevision trustedDigest with
  | .error e => (.error e, cache)
  | .ok none => (.ok none, cache)
  | .ok (some payload) =>
    match cache.get workspaceId trustedRevision trustedDigest with
    | (some body, cache) => (.ok (some ⟨trustedRevision, trustedDigest, body⟩), cache)
    | (none, cache) => match decodeWorkspace payload with
      | .error e => (.error e, cache)
      | .ok record =>
        if record.revision ≠ trustedRevision ∨ record.workspaceId ≠ workspaceId then
          (.error corruptWorkspace, cache)
        else
          (.ok (some ⟨trustedRevision, trustedDigest, record.body⟩),
            cache.put workspaceId ⟨trustedRevision, trustedDigest, record.body, payload.length⟩)

/-- The full walk of `load_head_for_append`, which establishes trust in the head it finds. -/
def resolveHeadByWalk (platform : Platform) (disk : Disk) (workspaceId : Text)
    (memory : ProcessMemory) : GuiResult (Option AppendHead) × ProcessMemory :=
  match loadCommittedHistory platform disk workspaceId with
  | .error e => (.error e, memory)
  | .ok committed => match committed.getLast? with
    | some head =>
      let memory := memory.setTrustedAppendHead workspaceId head.revision head.digestHex
      (.ok (some ⟨head.revision, head.digestHex, head.record.body⟩),
        { memory with
          cache := memory.cache.put workspaceId
            ⟨head.revision, head.digestHex, head.record.body,
              estimateWorkspaceBodyBytes head.record.body⟩ })
    | none => (.ok none, memory.clearTrustedAppendHead workspaceId)

/-- `load_head_for_append`; `crates/gui-core/src/workspace.rs:1135`. With `fastPathReads` false a
read of the fast path fails. -/
def loadHeadForAppend (platform : Platform) (disk : Disk) (workspaceId : Text)
    (fastPathReads : Bool) (memory : ProcessMemory) :
    GuiResult (Option AppendHead) × ProcessMemory :=
  match memory.trusted.lookup workspaceId with
  | none => resolveHeadByWalk platform disk workspaceId memory
  | some (trustedRevision, trustedDigest) =>
    if !fastPathReads then
      resolveHeadByWalk platform disk workspaceId (memory.clearTrustedAppendHead workspaceId)
    else match fastPathAppendHead platform disk workspaceId trustedRevision trustedDigest
        memory.cache with
    | (.ok (some head), cache) => (.ok (some head), { memory with cache })
    | (_, cache) =>
      let memory := ProcessMemory.clearTrustedAppendHead { memory with cache } workspaceId
      resolveHeadByWalk platform disk workspaceId memory

/-! ### What may be appended -/

def finalizedWorkspaceTerminal : GuiCoreError :=
  ⟨"GUI_WORKSPACE_FINALIZED", .invalidLifecycleTransition, some "election-workspace",
    "a finalized durable election workspace is terminal and cannot be appended"⟩

def existingWorkspaceMustBeResumed : GuiCoreError :=
  ⟨"GUI_WORKSPACE_RESUME_REQUIRED", .invalidLifecycleTransition, some "election-workspace",
    "an existing durable election workspace is later in its lifecycle and must be resumed"⟩

def workspaceRevisionOverflow : GuiCoreError :=
  ⟨"GUI_WORKSPACE_REVISION_OVERFLOW", .archiveIntegrity, some "election-workspace",
    "workspace revision number overflowed"⟩

def workspaceDeleteError : GuiCoreError :=
  ⟨"GUI_WORKSPACE_DELETE_FAILED", .fileIo, some "election-workspace",
    "the local election workspace could not be deleted"⟩

/-- `lifecycle_rank` -/
def lifecycleRank : ElectionLifecycleStateV1 → GuiResult Nat
  | .draft => .error corruptWorkspace
  | .frozen => .ok 0
  | .opened => .ok 1
  | .closed => .ok 2
  | .verified => .ok 3
  | .finalized => .ok 4

/-- `enforce_session_lifecycle_append` -/
def enforceSessionLifecycleAppend (current next : ElectionLifecycleStateV1) : GuiResult Unit :=
  if current = .finalized then .error finalizedWorkspaceTerminal
  else do
    let nextRank ← lifecycleRank next
    let currentRank ← lifecycleRank current
    if nextRank < currentRank then .error existingWorkspaceMustBeResumed else .ok ()

/-- `enforce_workspace_append_allowed` -/
def enforceWorkspaceAppendAllowed :
    DurableElectionWorkspaceBodyV1 → DurableElectionWorkspaceBodyV1 → GuiResult Unit
  | .session current, .session next =>
    enforceSessionLifecycleAppend current.lifecycleState next.lifecycleState
  | .draft _, .draft _ => .ok ()
  | _, _ => .error conflictingWorkspace

/-! ### File operations -/

/-- The directories `ensure_workspace_dirs` creates. -/
inductive WorkspacePlace where
  | workspace
  | revisions
  | commits
deriving DecidableEq, Repr

/-- A revision that is about to be stored. -/
structure PendingRevision where
  record : DurableElectionWorkspaceV1
  payload : Bytes
  digestHex : Bytes
deriving DecidableEq

/-- The operations of an append and of a deletion, in terms of what they read and write. -/
inductive WorkspaceOp where
  | ensureDirectory (workspaceId : Text) (place : WorkspacePlace)
  | acquireAppendLock (workspaceId : Text)
  | loadHeadForAppend (workspaceId : Text)
  | nowUnixSecs
  | nowNanos
  | processId
  | createTemporary (pending : PendingRevision) (name : Bytes)
  | createRevision (pending : PendingRevision)
  | removeTemporary (pending : PendingRevision) (name : Bytes)
  | createCommit (pending : PendingRevision) (marker : Bytes)
  | rememberHead (pending : PendingRevision) (body : DurableElectionWorkspaceBodyV1)
  | releaseAppendLock (workspaceId : Text)
  | clearTrustedAppendHead (workspaceId : Text)
  | removePart (workspaceId : Text)
  | removeWorkspace (workspaceId : Text)

/-- What each operation answers. -/
def WorkspaceOp.Response : WorkspaceOp → Type
  | ensureDirectory _ _ | createTemporary _ _ | createRevision _ | createCommit _ _
  | removeWorkspace _ => GuiResult Unit
  | loadHeadForAppend _ => GuiResult (Option AppendHead)
  | nowUnixSecs => GuiResult UInt64
  | nowNanos => GuiResult Nat
  | processId => Nat
  | acquireAppendLock _ | removeTemporary _ _ | rememberHead _ _ | releaseAppendLock _
  | clearTrustedAppendHead _ | removePart _ => Unit

/-- What a removal that is not finished has left of the two directories: each is gone or holds
these of its files. -/
structure WorkspaceRemains where
  revisions : Option (List Bytes)
  commits : Option (List Bytes)
deriving DecidableEq

/-- What the environment contributes to one operation: whether the operating system lets it
succeed, whether the reads of the fast path do, the clock, and what an unfinished removal
leaves. -/
structure Signal where
  succeeds : Bool
  fastPathReads : Bool
  unixSecs : UInt64
  nanos : Nat
  left : WorkspaceRemains
deriving DecidableEq

/-- What one process works on: the shared disk and its own memory. -/
structure World where
  disk : Disk
  memory : ProcessMemory

namespace World

/-- `ensure_direct_directory` -/
def ensureDirectory (disk : Disk) (workspaceId : Text) (place : WorkspacePlace) : Disk :=
  let current := directoryOf disk workspaceId
  disk.insert workspaceId <| match place with
    | .workspace => current
    | .revisions => { current with revisions := some (current.revisions.getD ∅) }
    | .commits => { current with commits := some (current.commits.getD ∅) }

/-- `write_create_new_sync`: only where the directory exists and has no such file. -/
def createNew (files : Option Directory) (name bytes : Bytes) : Option Directory :=
  files.bind fun d ↦ if name ∈ d then none else some (d.insert name bytes)

/-- Creates a file among the revisions of a workspace. -/
def createRevisionFile (disk : Disk) (workspaceId : Text) (name bytes : Bytes) : Option Disk :=
  (disk.lookup workspaceId).bind fun current ↦
    (createNew current.revisions name bytes).map fun d ↦
      disk.insert workspaceId { current with revisions := some d }

/-- Creates a file among the commit markers of a workspace. -/
def createCommitFile (disk : Disk) (workspaceId : Text) (name bytes : Bytes) : Option Disk :=
  (disk.lookup workspaceId).bind fun current ↦
    (createNew current.commits name bytes).map fun d ↦
      disk.insert workspaceId { current with commits := some d }

/-- `fs::remove_file` among the revisions of a workspace. -/
def removeRevisionFile (disk : Disk) (workspaceId : Text) (name : Bytes) : Disk :=
  match disk.lookup workspaceId with
  | none => disk
  | some current =>
    disk.insert workspaceId { current with revisions := current.revisions.map (·.erase name) }

/-- The files of a directory that a removal has left. -/
def leaveOnly (files : Option Directory) (left : Option (List Bytes)) : Option Directory :=
  files.bind fun d ↦ left.map fun names ↦
    (d.keys.filter (· ∉ names)).foldl (fun d name ↦ d.erase name) d

/-- `fs::remove_dir_all` before it has removed everything. -/
def removePart (disk : Disk) (workspaceId : Text) (left : WorkspaceRemains) : Disk :=
  match disk.lookup workspaceId with
  | none => disk
  | some current =>
    disk.insert workspaceId
      ⟨leaveOnly current.revisions left.revisions, leaveOnly current.commits left.commits⟩

end World

namespace WorkspaceOp

/-- A file creation: it fails where the operating system refuses it or the file exists. -/
def create (signal : Signal) (world : World) (result : Option Disk) :
    GuiResult Unit × World :=
  match signal.succeeds, result with
  | true, some disk => (.ok (), { world with disk })
  | _, _ => (.error workspaceIoFailure, world)

/-- A creation stores the file, or fails and changes nothing. -/
theorem create_cases (signal : Signal) (world : World) (result : Option Disk) :
    (∃ disk, result = some disk ∧ create signal world result = (.ok (), { world with disk })) ∨
      ((signal.succeeds = true → result = none) ∧
        create signal world result = (.error workspaceIoFailure, world)) := by
  unfold create
  cases hs : signal.succeeds with
  | false => exact Or.inr ⟨nofun, rfl⟩
  | true =>
    cases result with
    | none => exact Or.inr ⟨fun _ ↦ rfl, rfl⟩
    | some disk => exact Or.inl ⟨disk, rfl, rfl⟩

/-- What each operation answers and does. -/
def exec (platform : Platform) : Program.Handler Response Signal World
  | ensureDirectory workspaceId place, signal, world =>
    if signal.succeeds then
      (.ok (), { world with disk := World.ensureDirectory world.disk workspaceId place })
    else (.error workspaceIoFailure, world)
  | acquireAppendLock workspaceId, _, world =>
    ((), { world with
      memory := { world.memory with appendLocks := workspaceId :: world.memory.appendLocks } })
  | loadHeadForAppend workspaceId, signal, world =>
    if signal.succeeds then
      let (result, memory) := GuiCore.loadHeadForAppend platform world.disk workspaceId
        signal.fastPathReads world.memory
      (result, { world with memory })
    else
      (.error workspaceIoFailure,
        { world with memory := world.memory.clearTrustedAppendHead workspaceId })
  | nowUnixSecs, signal, world =>
    (if signal.succeeds then .ok signal.unixSecs else .error workspaceIoFailure, world)
  | nowNanos, signal, world =>
    (if signal.succeeds then .ok signal.nanos else .error workspaceIoFailure, world)
  | processId, _, world => (world.memory.pid, world)
  | createTemporary pending name, signal, world =>
    create signal world (World.createRevisionFile world.disk pending.record.workspaceId name
      pending.payload)
  | createRevision pending, signal, world =>
    create signal world (World.createRevisionFile world.disk pending.record.workspaceId
      (revisionFilename pending.record.revision pending.digestHex) pending.payload)
  | removeTemporary pending name, signal, world =>
    ((), if signal.succeeds then
      { world with
        disk := World.removeRevisionFile world.disk pending.record.workspaceId name }
      else world)
  | createCommit pending marker, signal, world =>
    create signal world (World.createCommitFile world.disk pending.record.workspaceId
      (commitFilename pending.record.revision pending.digestHex) marker)
  | rememberHead pending body, _, world =>
    let memory := world.memory.setTrustedAppendHead pending.record.workspaceId
      pending.record.revision pending.digestHex
    ((), { world with
      memory := { memory with
        cache := memory.cache.put pending.record.workspaceId
          ⟨pending.record.revision, pending.digestHex, body, pending.payload.length⟩ } })
  | releaseAppendLock workspaceId, _, world =>
    ((), { world with
      memory := { world.memory with
        appendLocks := world.memory.appendLocks.erase workspaceId } })
  | clearTrustedAppendHead workspaceId, _, world =>
    ((), { world with memory := world.memory.clearTrustedAppendHead workspaceId })
  | removePart workspaceId, signal, world =>
    ((), { world with disk := World.removePart world.disk workspaceId signal.left })
  | removeWorkspace workspaceId, signal, world =>
    if signal.succeeds then (.ok (), { world with disk := world.disk.erase workspaceId })
    else
      (.error workspaceDeleteError,
        { world with disk := World.removePart world.disk workspaceId signal.left })

end WorkspaceOp

/-! ### The append -/

/-- A program of the workspace code. -/
abbrev WorkspaceProgram (α : Type) := ExceptT GuiCoreError (Program WorkspaceOp.Response) α

namespace WorkspaceProgram

def ensureDirectory (workspaceId : Text) (place : WorkspacePlace) : WorkspaceProgram Unit :=
  ExceptT.mk (Program.call (WorkspaceOp.ensureDirectory workspaceId place))

def loadHeadForAppend (workspaceId : Text) : WorkspaceProgram (Option AppendHead) :=
  ExceptT.mk (Program.call (WorkspaceOp.loadHeadForAppend workspaceId))

def nowUnixSecs : WorkspaceProgram UInt64 := ExceptT.mk (Program.call WorkspaceOp.nowUnixSecs)

def nowNanos : WorkspaceProgram Nat := ExceptT.mk (Program.call WorkspaceOp.nowNanos)

def processId : WorkspaceProgram Nat := ExceptT.lift (Program.call WorkspaceOp.processId)

def createTemporary (pending : PendingRevision) (name : Bytes) : WorkspaceProgram Unit :=
  ExceptT.mk (Program.call (WorkspaceOp.createTemporary pending name))

def createRevision (pending : PendingRevision) : WorkspaceProgram Unit :=
  ExceptT.mk (Program.call (WorkspaceOp.createRevision pending))

def removeTemporary (pending : PendingRevision) (name : Bytes) : WorkspaceProgram Unit :=
  ExceptT.lift (Program.call (WorkspaceOp.removeTemporary pending name))

def createCommit (pending : PendingRevision) (marker : Bytes) : WorkspaceProgram Unit :=
  ExceptT.mk (Program.call (WorkspaceOp.createCommit pending marker))

def rememberHead (pending : PendingRevision) (body : DurableElectionWorkspaceBodyV1) :
    WorkspaceProgram Unit :=
  ExceptT.lift (Program.call (WorkspaceOp.rememberHead pending body))

/-- A step that touches neither disk nor memory. -/
def compute {α : Type} (result : GuiResult α) : WorkspaceProgram α := ExceptT.mk (.done result)

end WorkspaceProgram

open WorkspaceProgram in
/-- The file steps of `write_workspace_revision`, from the temporary file on;
`crates/gui-core/src/workspace.rs:1082`. -/
def storePendingRevision (pending : PendingRevision)
    (temporary : Bytes) : WorkspaceProgram Nat := do
  createTemporary pending temporary
  let decoded ← compute (decodeWorkspace pending.payload)
  if decoded.revision ≠ pending.record.revision ∨
      decoded.workspaceId ≠ pending.record.workspaceId then do
    removeTemporary pending temporary
    throw corruptWorkspace
  else do
    createRevision pending
    removeTemporary pending temporary
    let marker ← compute (encodeCommitMarker
      ⟨pending.record.workspaceId, pending.record.revision, pending.digestHex⟩)
    createCommit pending marker
    rememberHead pending decoded.body
    return pending.record.revision

open WorkspaceProgram in
/-- The rest of `write_workspace_revision` once the predecessor is known: the record is stamped,
encoded and named. -/
def appendAfter (platform : Platform) (workspaceId : Text) (body : DurableElectionWorkspaceBodyV1)
    (currentRevision : Nat) (predecessor : RevisionPredecessorV1) : WorkspaceProgram Nat :=
  if 2 ^ 64 ≤ currentRevision + 1 then throw workspaceRevisionOverflow
  else do
    let updatedAt ← nowUnixSecs
    let record : DurableElectionWorkspaceV1 :=
      ⟨workspaceId, currentRevision + 1, predecessor, some updatedAt, body⟩
    let payload ← compute (encodeWorkspace record)
    let stamp ← nowNanos
    let pid ← processId
    storePendingRevision ⟨record, payload, revisionDigestHex platform payload⟩
      (tempRevisionFilename (currentRevision + 1) stamp pid)

open WorkspaceProgram in
/-- The critical section of `write_workspace_revision`, under the append lock. -/
def appendToHead (platform : Platform) (workspaceId : Text)
    (body : DurableElectionWorkspaceBodyV1) : WorkspaceProgram Nat := do
  match ← WorkspaceProgram.loadHeadForAppend workspaceId with
  | some head =>
    if head.body = body then return head.revision
    else do
      compute (enforceWorkspaceAppendAllowed head.body body)
      appendAfter platform workspaceId body head.revision
        (.previous head.revision head.digestHex)
  | none => appendAfter platform workspaceId body 0 .genesis

/-- `ensure_workspace_dirs`; the root exists. -/
def ensureWorkspaceDirs (workspaceId : Text) : WorkspaceProgram Unit := do
  WorkspaceProgram.compute (validateWorkspaceIdV1 workspaceId)
  WorkspaceProgram.ensureDirectory workspaceId .workspace
  WorkspaceProgram.ensureDirectory workspaceId .revisions
  WorkspaceProgram.ensureDirectory workspaceId .commits

/-- Runs a section under the append lock of the workspace. -/
def withAppendLock {α : Type} (workspaceId : Text) (critical : WorkspaceProgram α) :
    WorkspaceProgram α :=
  ExceptT.mk (do
    let () ← (Program.call (WorkspaceOp.acquireAppendLock workspaceId) :
      Program WorkspaceOp.Response Unit)
    let result ← critical.run
    let () ← (Program.call (WorkspaceOp.releaseAppendLock workspaceId) :
      Program WorkspaceOp.Response Unit)
    pure result)

/-- `write_workspace_revision`; `crates/gui-core/src/workspace.rs:1017`. -/
def writeWorkspaceRevision (platform : Platform) (workspaceId : Text)
    (body : DurableElectionWorkspaceBodyV1) : WorkspaceProgram Nat := do
  ensureWorkspaceDirs workspaceId
  withAppendLock workspaceId (appendToHead platform workspaceId body)

/-- `delete_election_workspace_v1`; `crates/gui-core/src/workspace.rs:709`. The append lock is not
taken, and the directory goes in several passes, between which others see what is left. -/
def deleteElectionWorkspaceV1 (workspaceId : Text) (passes : Nat) : WorkspaceProgram Unit := do
  WorkspaceProgram.compute (validateWorkspaceIdV1 workspaceId)
  ExceptT.lift (Program.call (WorkspaceOp.clearTrustedAppendHead workspaceId))
  (List.range passes).forM fun _ ↦
    ExceptT.lift (Program.call (WorkspaceOp.removePart workspaceId))
  ExceptT.mk (Program.call (WorkspaceOp.removeWorkspace workspaceId))

end PrivateBallot.GuiCore
