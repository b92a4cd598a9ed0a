import PrivateBallot.Base.FlightCache
import PrivateBallot.Base.Interleaving
import PrivateBallot.GuiCore.SessionReplay
import PrivateBallot.GuiCore.WorkspaceRecovery

/-!
# The verified-session cache

Library `GuiCore`. `crates/gui-core/src/verified_session_cache.rs` and `workspace.rs:620-694,
1333-1436`: sessions that were reconstructed from a committed head, or advanced by a commit, are
kept for the head's workspace, revision and digest. A resume reads the head before the lookup
and again before it returns. Calls are interleaved at the steps that take the lock of the cache
or of a flight and at the loads of a head. What a load sees is left to the environment: appends,
deletions and other processes change the disk between any two loads. The permits that bound the
number of reconstructions only delay them and are left out, with instrumentation and poisoned
locks.
-/

namespace PrivateBallot.GuiCore

open PrivateBallot.Base
open PrivateBallot.Protocol
open PrivateBallot.Ballot
open PrivateBallot.Crypto

/-- `VERIFIED_SESSION_CACHE_EPOCH_V1` -/
def verifiedSessionCacheEpochV1 : Nat := 1

/-- `DEFAULT_VERIFIED_SESSION_CACHE_CAPACITY_V1` -/
def defaultVerifiedSessionCacheCapacityV1 : Nat := 4

/-- `VerifiedSessionKeyV1` -/
structure VerifiedSessionKeyV1 where
  workspaceId : Text
  headRevision : Nat
  headRevisionDigestHex : Bytes
  verifierEpoch : Nat
deriving DecidableEq

/-- `VerifiedSessionKeyV1::new` -/
def VerifiedSessionKeyV1.new (workspaceId : Text) (headRevision : Nat)
    (headRevisionDigestHex : Bytes) : VerifiedSessionKeyV1 :=
  ⟨workspaceId, headRevision, headRevisionDigestHex, verifiedSessionCacheEpochV1⟩

/-- `CacheStateV1`, with the flights its waiters hold on to. A `VerifiedElectionSessionV1` is the
session it wraps. -/
abbrev CacheStateV1 :=
  FlightCache VerifiedSessionKeyV1 GuiElectionSessionV1 (GuiResult GuiElectionSessionV1)

namespace CacheStateV1

/-- The locked section of `get_or_reconstruct`. -/
def getOrJoin (self : CacheStateV1) (key : VerifiedSessionKeyV1) :
    FlightCache.Found GuiElectionSessionV1 × CacheStateV1 :=
  match self.entries.lookup key with
  | some entry => (.hit entry, self.touch key)
  | none => self.join key

/-- The locked section of `publish_completion`. -/
def complete (self : CacheStateV1) (capacity : Nat) (key : VerifiedSessionKeyV1) :
    GuiResult GuiElectionSessionV1 → CacheStateV1
  | .ok session => (self.leave key).insert capacity key session
  | .error _ => self.leave key

/-- `install_advanced`: older heads of the workspace go. -/
def installAdvanced (self : CacheStateV1) (capacity : Nat) (workspaceId : Text)
    (key : VerifiedSessionKeyV1) (session : GuiElectionSessionV1) : CacheStateV1 :=
  (self.retain fun existing ↦ existing.workspaceId ≠ workspaceId || existing = key).insert capacity
    key session

/-- `invalidate_workspace`: the queue is only looked at when an entry went. -/
def invalidateWorkspace (self : CacheStateV1) (workspaceId : Text) : CacheStateV1 :=
  let kept := self.retain (·.workspaceId ≠ workspaceId)
  if kept.entries.keys.length ≠ self.entries.keys.length then kept
  else { kept with recency := self.recency }

end CacheStateV1

/-! ### Calls -/

/-- The steps of a call. -/
inductive CacheOp where
  | loadHead (workspaceId : Text)
  | draftSupersedingSession (workspaceId : Text)
  | getOrJoin (key : VerifiedSessionKeyV1)
  | reconstruct (snapshot : GuiElectionSessionSnapshotV1)
  | complete (key : VerifiedSessionKeyV1) (result : GuiResult GuiElectionSessionV1)
  | settle (flight : Nat) (result : GuiResult GuiElectionSessionV1)
  | wait (flight : Nat)
  | installAdvanced (workspaceId : Text) (key : VerifiedSessionKeyV1)
      (session : GuiElectionSessionV1)
  | invalidateWorkspace (workspaceId : Text)

/-- What a step answers: a load answers with the disk as it was seen. -/
def CacheOp.Response : CacheOp → Type
  | loadHead _ => GuiResult Disk
  | draftSupersedingSession _ => Option Text
  | getOrJoin _ => FlightCache.Found GuiElectionSessionV1
  | reconstruct _ => GuiResult GuiElectionSessionV1
  | complete _ _ => Unit
  | settle _ _ => Unit
  | wait _ => GuiResult GuiElectionSessionV1
  | installAdvanced _ _ _ => Unit
  | invalidateWorkspace _ => Unit

/-- What the environment contributes to a step: what the file system shows, the marker of a
superseded draft, and the executor of a reconstruction, none if it panics. -/
structure CacheSignal where
  disk : GuiResult Disk
  successor : Option Text
  executor : Option Executor

/-- `reconstruction_panicked` -/
def reconstructionPanicked : GuiCoreError :=
  ⟨"GUI_VERIFIED_SESSION_RECONSTRUCTION_PANICKED", .unavailable, some "verified-session-cache",
    "verified election reconstruction did not complete"⟩

/-- `cache_state_poisoned`, also for an outcome that is not there. -/
def cacheStatePoisoned : GuiCoreError :=
  ⟨"GUI_VERIFIED_SESSION_CACHE_UNAVAILABLE", .unavailable, some "verified-session-cache",
    "the verified-session cache is unavailable"⟩

/-- `workspace_identity_changed` -/
def workspaceIdentityChanged : GuiCoreError :=
  ⟨"GUI_WORKSPACE_IDENTITY_CHANGED", .archiveIntegrity, some "election-workspace",
    "durable election workspace changed during verified-session reconstruction"⟩

/-- No committed revision. -/
def noCommittedWorkspace : GuiCoreError :=
  ⟨"GUI_WORKSPACE_NOT_FOUND", .fileIo, some "election-workspace",
    "no valid election workspace revision was found"⟩

/-- A draft with a successor. -/
def workspaceSuperseded : GuiCoreError :=
  ⟨"GUI_WORKSPACE_SUPERSEDED", .invalidLifecycleTransition, some "election-workspace",
    "this draft was superseded by a frozen election workspace; resume the successor election " ++
      "instead"⟩

/-- `LoadedElectionWorkspaceV1`: the head that was read last stands for the summary made from it,
and a draft for itself. -/
inductive LoadedElectionWorkspaceV1 where
  | draft (workspace : CommittedRevision)
  | session (workspace : CommittedRevision) (session : GuiElectionSessionV1)

/-- What a call returns. -/
inductive CacheReturn where
  | resumed (result : GuiResult LoadedElectionWorkspaceV1)
  | advanced (result : Bool)
  | invalidated

/-- The key of a head, whatever its body. -/
def keyOf (committed : CommittedRevision) : VerifiedSessionKeyV1 :=
  .new committed.record.workspaceId committed.revision committed.digestHex

/-- `verified_session_key_for_committed` -/
def verifiedSessionKeyForCommitted (committed : CommittedRevision) :
    GuiResult VerifiedSessionKeyV1 :=
  match committed.record.body with
  | .session _ => .ok (keyOf committed)
  | .draft _ => .error workspaceIdentityChanged

section

variable (prims : Primitives) (platform : Platform)

/-- `load_newest_committed_workspace` on the disk as it was seen. -/
def newestIn (workspaceId : Text) (disk : GuiResult Disk) :
    GuiResult (Option CommittedRevision) := do
  let disk ← disk
  loadNewestCommittedWorkspace platform disk workspaceId

/-- The head read again: its key has to be the expected one. -/
def observe (workspaceId : Text) (expectedKey : VerifiedSessionKeyV1) (disk : GuiResult Disk) :
    GuiResult CommittedRevision := do
  let newest ← newestIn platform workspaceId disk
  match newest with
  | none => Except.error workspaceIdentityChanged
  | some observed =>
    let key ← verifiedSessionKeyForCommitted observed
    if key ≠ expectedKey then Except.error workspaceIdentityChanged
    else pure observed

/-- `publish_completion` -/
def publishSession (key : VerifiedSessionKeyV1) (flight : Nat)
    (result : GuiResult GuiElectionSessionV1) :
    Program CacheOp.Response (GuiResult GuiElectionSessionV1) :=
  .act (.complete key result) fun _ ↦ .act (.settle flight result) fun _ ↦ .done result

/-- The closure of a resume behind its reconstruction: verify-after, then the result is
published. -/
def recheckAndPublish (workspaceId : Text) (key : VerifiedSessionKeyV1) (flight : Nat) :
    GuiResult GuiElectionSessionV1 →
    Program CacheOp.Response (GuiResult GuiElectionSessionV1)
  | .error e => publishSession key flight (.error e)
  | .ok session => .act (.loadHead workspaceId) fun disk ↦
      publishSession key flight ((observe platform workspaceId key disk).map fun _ ↦ session)

/-- `get_or_reconstruct` behind its locked section. -/
def goOnToReconstruct (workspaceId : Text) (key : VerifiedSessionKeyV1)
    (snapshot : GuiElectionSessionSnapshotV1) :
    FlightCache.Found GuiElectionSessionV1 →
    Program CacheOp.Response (GuiResult GuiElectionSessionV1)
  | .hit session => .done (.ok session)
  | .wait flight => .act (.wait flight) .done
  | .own flight => .act (.reconstruct snapshot) (recheckAndPublish platform workspaceId key flight)

/-- `get_or_reconstruct` -/
def getOrReconstruct (workspaceId : Text) (key : VerifiedSessionKeyV1)
    (snapshot : GuiElectionSessionSnapshotV1) :
    Program CacheOp.Response (GuiResult GuiElectionSessionV1) :=
  .act (.getOrJoin key) (goOnToReconstruct platform workspaceId key snapshot)

/-- The end of a resume: verify-after, for hits too, and the summary, which decodes the
artifacts. -/
def finishResume (workspaceId : Text) (key : VerifiedSessionKeyV1)
    (session : GuiElectionSessionV1) (disk : GuiResult Disk) :
    GuiResult LoadedElectionWorkspaceV1 := do
  let observed ← observe platform workspaceId key disk
  match observed.record.body with
  | .draft _ => Except.error workspaceIdentityChanged
  | .session snapshot =>
    let _ ← GuiElectionArtifactsV1.fromBytes prims snapshot.manifestBytes snapshot.registryBytes
      snapshot.candidateBytes
    pure (.session observed session)

/-- A resume behind the lookup. -/
def resumeVerified (workspaceId : Text) (key : VerifiedSessionKeyV1) :
    GuiResult GuiElectionSessionV1 → Program CacheOp.Response CacheReturn
  | .error e => .done (.resumed (.error e))
  | .ok session => .act (.loadHead workspaceId) fun disk ↦
      .done (.resumed (finishResume prims platform workspaceId key session disk))

/-- A resume behind its first load. -/
def resumeHead (workspaceId : Text) (initial : CommittedRevision) :
    Program CacheOp.Response CacheReturn :=
  match initial.record.body with
  | .draft _ => .act (.draftSupersedingSession workspaceId) fun successor ↦
      if successor.isSome then .done (.resumed (.error workspaceSuperseded))
      else .done (.resumed (.ok (.draft initial)))
  | .session snapshot =>
    getOrReconstruct platform workspaceId (keyOf initial) snapshot >>=
      resumeVerified prims platform workspaceId (keyOf initial)

/-- `resume_election_workspace_with_verified_session_cache_v1` -/
def resumeWithVerifiedSessionCache (workspaceId : Text) : Program CacheOp.Response CacheReturn :=
  .act (.loadHead workspaceId) fun disk ↦ match newestIn platform workspaceId disk with
    | .error e => .done (.resumed (.error e))
    | .ok none => .done (.resumed (.error noCommittedWorkspace))
    | .ok (some initial) => resumeHead prims platform workspaceId initial

/-- `advance_fallback` -/
def advanceFallback (workspaceId : Text) : Program CacheOp.Response CacheReturn :=
  .act (.invalidateWorkspace workspaceId) fun _ ↦ .done (.advanced false)

/-- The head that an advance may install the session for. -/
def confirmAdvance (workspaceId : Text) (expectedNewRevision : Nat)
    (expectedSnapshot : GuiElectionSessionSnapshotV1) (disk : GuiResult Disk) :
    Option CommittedRevision :=
  match newestIn platform workspaceId disk with
  | .ok (some head) =>
    if head.record.body = .session expectedSnapshot ∧ head.revision = expectedNewRevision then
      some head
    else none
  | _ => none

/-- An advance behind its load. -/
def installOrFallBack (workspaceId : Text) (session : GuiElectionSessionV1) :
    Option CommittedRevision → Program CacheOp.Response CacheReturn
  | some head => .act (.installAdvanced workspaceId (keyOf head) session) fun _ ↦
      .done (.advanced true)
  | none => advanceFallback workspaceId

/-- `advance_verified_session_after_commit_v1` -/
def advanceVerifiedSessionAfterCommit (workspaceId : Text) (expectedNewRevision : Nat)
    (advancedSession : GuiElectionSessionV1) : Program CacheOp.Response CacheReturn :=
  match advancedSession.toDurableSnapshot with
  | .error _ => advanceFallback workspaceId
  | .ok expectedSnapshot => .act (.loadHead workspaceId) fun disk ↦
      installOrFallBack workspaceId advancedSession
        (confirmAdvance platform workspaceId expectedNewRevision expectedSnapshot disk)

/-- `invalidate_workspace` as a call of its own, after an append or a deletion. -/
def invalidateCall (workspaceId : Text) : Program CacheOp.Response CacheReturn :=
  .act (.invalidateWorkspace workspaceId) fun _ ↦ .done .invalidated

-- A session has no public constructor but those of `Reachable`, and an applied status only moves
-- its lifecycle state.
/-- The calls of the cache. An advanced session is one that operations on sessions lead to, see
`Reachable.isReplayed` and `IsReplayed.inState`. -/
inductive IsCacheCall : Nat → Program CacheOp.Response CacheReturn → Prop
  | resume (tag : Nat) (workspaceId : Text) :
      IsCacheCall tag (resumeWithVerifiedSessionCache prims platform workspaceId)
  | advance (tag : Nat) (workspaceId : Text) (expectedNewRevision : Nat)
      {session : GuiElectionSessionV1} (h : GuiElectionSessionV1.IsReplayed prims session) :
      IsCacheCall tag
        (advanceVerifiedSessionAfterCommit platform workspaceId expectedNewRevision session)
  | invalidate (tag : Nat) (workspaceId : Text) : IsCacheCall tag (invalidateCall workspaceId)

/-- The reconstruction under `catch_unwind`. -/
def reconstructCaught (snapshot : GuiElectionSessionSnapshotV1) :
    Option Executor → GuiResult GuiElectionSessionV1
  | none => .error reconstructionPanicked
  | some executor =>
    GuiElectionSessionV1.fromDurableSnapshotParallel prims snapshot .default executor

/-- One cache of this capacity and its callers. A waiter goes on when its flight is settled. -/
def cacheSystem (capacity : Nat) : System CacheOp.Response CacheSignal Unit Nat CacheStateV1 where
  exec _
    | .loadHead _, signal, cache => (signal.disk, cache)
    | .draftSupersedingSession _, signal, cache => (signal.successor, cache)
    | .getOrJoin key, _, cache => cache.getOrJoin key
    | .reconstruct snapshot, signal, cache =>
      (reconstructCaught prims snapshot signal.executor, cache)
    | .complete key result, _, cache => ((), cache.complete capacity key result)
    | .settle flight result, _, cache => ((), cache.settle flight result)
    | .wait flight, _, cache => ((cache.outcome flight).getD (.error cacheStatePoisoned), cache)
    | .installAdvanced workspaceId key session, _, cache =>
      ((), cache.installAdvanced capacity workspaceId key session)
    | .invalidateWorkspace workspaceId, _, cache => ((), cache.invalidateWorkspace workspaceId)
  ready _
    | .wait flight, cache => (cache.outcome flight).isSome
    | _, _ => true
  restart _ _ cache := cache

end

/-- The scope of the worker threads of a reconstruction ends when all of them have finished. -/
def isJoined (_tag : Nat) (op : CacheOp) (signal : CacheSignal) (_cache : CacheStateV1) : Bool :=
  match op, signal.executor with
  | .reconstruct snapshot, some executor =>
    GuiElectionSessionV1.joinsFor .default executor snapshot.packages.length
  | _, _ => true

/-- The capacity of `VerifiedElectionSessionCacheV1::new`. -/
def verifiedSessionCacheCapacity (capacity : Nat) : Nat := max capacity 1

end PrivateBallot.GuiCore
