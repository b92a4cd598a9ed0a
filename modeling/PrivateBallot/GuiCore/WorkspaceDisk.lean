import Mathlib.Data.List.AList
import Std.Data.ExtTreeMap
import PrivateBallot.GuiCore.WorkspaceNames

/-!
# Workspace directories and the committed-history loader

Library `GuiCore`. `crates/gui-core/src/workspace.rs:1447-1706,2145-2190`: the files of one
workspace and the walk that accepts a committed history. A directory maps file names to
contents; names that are not UTF-8 are skipped by every reader and are not part of the model,
and neither are symbolic links.
-/

namespace PrivateBallot.GuiCore

open PrivateBallot.Base PrivateBallot.Protocol PrivateBallot.Ballot

/-- A directory of regular files. -/
abbrev Directory := AList fun _ : Bytes ↦ Bytes

/-- One workspace directory with its `revisions` and `commits` subdirectories. -/
structure WorkspaceDirectory where
  revisions : Option Directory
  commits : Option Directory
deriving DecidableEq

/-- The workspaces root: a directory for each workspace id that has one. -/
abbrev Disk := AList fun _ : Text ↦ WorkspaceDirectory

/-- The directory of a workspace. A missing one is read as one without subdirectories. -/
def directoryOf (disk : Disk) (workspaceId : Text) : WorkspaceDirectory :=
  (disk.lookup workspaceId).getD ⟨none, none⟩

/-! ### Errors -/

def tooManyRevisions : GuiCoreError :=
  ⟨"GUI_WORKSPACE_REVISION_LIMIT_EXCEEDED", .invalidInput, some "election-workspace",
    "too many workspace revisions were present for one bounded discovery pass"⟩

def workspaceIoFailure : GuiCoreError := .ioFailure "election-workspace"

/-! ### Directory scans -/

/-- The entry loop that `load_commit_markers` and `load_committed_revision_files` share: names
with the suffix are counted, parsed and read, and a number read twice must have one digest.
`read` returns nothing where the loop goes on to the next entry. -/
def scanNumberedFiles {α : Type} (suffix : Bytes)
    (read : Bytes → Nat → Bytes → GuiResult (Option α)) (digestOf : α → Bytes) :
    List Bytes → Nat → Std.ExtTreeMap Nat α → GuiResult (Std.ExtTreeMap Nat α)
  | [], _, found => .ok found
  | name :: names, inspected, found =>
    if !suffix.isSuffixOf name then scanNumberedFiles suffix read digestOf names inspected found
    else if maxWorkspaceRevisionsV1 < inspected + 1 then .error tooManyRevisions
    else match parseNumberDigestFilename name suffix with
    | none => .error corruptWorkspace
    | some (revision, expectedDigest) => do
      match ← read name revision expectedDigest with
      | none => scanNumberedFiles suffix read digestOf names (inspected + 1) found
      | some value =>
        if found[revision]?.any (digestOf · ≠ digestOf value) then .error conflictingWorkspace
        else
          scanNumberedFiles suffix read digestOf names (inspected + 1)
            (found.insert revision value)

/-! ### Commit markers -/

/-- `read_commit_marker` -/
def readCommitMarker (commits : Directory) (name : Bytes) (revision : Nat)
    (expectedDigestHex : Bytes) (workspaceId : Text) : GuiResult DurableWorkspaceCommitV1 :=
  match commits.lookup name with
  | none => .error workspaceIoFailure
  | some payload =>
    if maxWorkspaceCommitBytesV1 < payload.length then .error corruptWorkspace
    else do
      let commit ← decodeCommitMarker payload
      if commit.revision ≠ revision ∨ commit.workspaceId ≠ workspaceId ∨
          commit.revisionDigestHex ≠ expectedDigestHex then .error corruptWorkspace
      else .ok commit

/-- What one entry of `load_commit_markers` contributes: the digest its marker names. -/
def readCommittedDigest (commits : Directory) (workspaceId : Text) (name : Bytes)
    (revision : Nat) (expectedDigestHex : Bytes) : GuiResult (Option Bytes) := do
  let commit ← readCommitMarker commits name revision expectedDigestHex workspaceId
  pure (some commit.revisionDigestHex)

/-- The revisions must be `expected`, `expected + 1`, and so on. -/
def areContiguousFrom (expected : Nat) : List Nat → Bool
  | [] => true
  | revision :: revisions => revision = expected && areContiguousFrom (expected + 1) revisions

/-- `load_commit_markers`; `crates/gui-core/src/workspace.rs:1538`. -/
def loadCommitMarkers (platform : Platform) (commits : Directory) (workspaceId : Text) :
    GuiResult (Std.ExtTreeMap Nat Bytes) := do
  let committedDigests ← scanNumberedFiles commitFileSuffix
    (readCommittedDigest commits workspaceId) id (platform.readDir commits.keys) 0 ∅
  if areContiguousFrom 1 committedDigests.keys then .ok committedDigests
  else .error corruptWorkspace

/-! ### Revision files -/

/-- `ValidRevision` -/
structure ValidRevision where
  revision : Nat
  digestHex : Bytes
  payload : Bytes
deriving DecidableEq

/-- `CommittedRevision` -/
structure CommittedRevision where
  revision : Nat
  digestHex : Bytes
  record : DurableElectionWorkspaceV1
deriving DecidableEq

/-- `read_valid_revision_file` -/
def readValidRevisionFile (platform : Platform) (revisions : Directory) (name : Bytes)
    (revision : Nat) (expectedDigestHex : Bytes) (workspaceId : Text) :
    GuiResult ValidRevision :=
  match revisions.lookup name with
  | none => .error workspaceIoFailure
  | some payload =>
    if maxWorkspaceRevisionBytesV1 < payload.length then .error corruptWorkspace
    else if revisionDigestHex platform payload ≠ expectedDigestHex then .error corruptWorkspace
    else do
      let record ← decodeWorkspace payload
      if record.revision ≠ revision ∨ record.workspaceId ≠ workspaceId then
        .error corruptWorkspace
      else .ok ⟨revision, revisionDigestHex platform payload, payload⟩

/-- What one entry of `load_committed_revision_files` contributes: nothing above the committed
head, else its valid revision. -/
def readCommittedRevision (platform : Platform) (revisions : Directory) (workspaceId : Text)
    (committedHeadRevision : Nat) (name : Bytes) (revision : Nat) (expectedDigestHex : Bytes) :
    GuiResult (Option ValidRevision) :=
  if committedHeadRevision < revision then .ok none
  else do
    let valid ← readValidRevisionFile platform revisions name revision expectedDigestHex workspaceId
    pure (some valid)

/-- `load_committed_revision_files`; `crates/gui-core/src/workspace.rs:1582`. -/
def loadCommittedRevisionFiles (platform : Platform) (revisions : Directory) (workspaceId : Text)
    (committedHeadRevision : Nat) : GuiResult (Std.ExtTreeMap Nat ValidRevision) :=
  scanNumberedFiles revisionFileSuffix
    (readCommittedRevision platform revisions workspaceId committedHeadRevision)
    ValidRevision.digestHex (platform.readDir revisions.keys) 0 ∅

/-- `has_revision_files` -/
def hasRevisionFiles (revisions : Directory) : Bool :=
  revisions.keys.any revisionFileSuffix.isSuffixOf

/-! ### The walk -/

/-- `validate_predecessor` -/
def validatePredecessor (record : DurableElectionWorkspaceV1) (expectedRevision : Nat)
    (previousDigestHex : Option Bytes) : GuiResult Unit :=
  if record.revision ≠ expectedRevision then .error corruptWorkspace
  else match record.predecessor, previousDigestHex with
  | .genesis, none => if expectedRevision = 1 then .ok () else .error corruptWorkspace
  | .previous revision digestHex, some previous =>
    if revision + 1 = expectedRevision ∧ digestHex = previous then .ok ()
    else .error corruptWorkspace
  | _, _ => .error corruptWorkspace

/-- The revision loop of `load_committed_history`. -/
def walkCommittedHistory (committedDigests : Std.ExtTreeMap Nat Bytes)
    (observedRevisions : Std.ExtTreeMap Nat ValidRevision) :
    List Nat → Option Bytes → GuiResult (List CommittedRevision)
  | [], _ => .ok []
  | expectedRevision :: revisions, previousDigestHex =>
    match committedDigests[expectedRevision]?, observedRevisions[expectedRevision]? with
    | some expectedDigestHex, some valid =>
      if valid.digestHex ≠ expectedDigestHex then .error corruptWorkspace
      else do
        let record ← decodeWorkspace valid.payload
        validatePredecessor record expectedRevision previousDigestHex
        let history ← walkCommittedHistory committedDigests observedRevisions revisions
          (some valid.digestHex)
        .ok (⟨expectedRevision, valid.digestHex, record⟩ :: history)
    | _, _ => .error corruptWorkspace

/-- `load_committed_history` on existing `revisions` and `commits` directories. -/
def loadHistoryFrom (platform : Platform) (revisions commits : Directory) (workspaceId : Text) :
    GuiResult (List CommittedRevision) := do
  let committedDigests ← loadCommitMarkers platform commits workspaceId
  match committedDigests.keys.getLast? with
  | none => if hasRevisionFiles revisions then .error corruptWorkspace else .ok []
  | some headRevision =>
    let observedRevisions ← loadCommittedRevisionFiles platform revisions workspaceId headRevision
    walkCommittedHistory committedDigests observedRevisions (List.range' 1 headRevision) none

/-- `load_committed_history`; `crates/gui-core/src/workspace.rs:1447`. Without a `commits`
directory the workspace is empty unless there are revision files. -/
def loadCommittedHistory (platform : Platform) (disk : Disk) (workspaceId : Text) :
    GuiResult (List CommittedRevision) := do
  validateWorkspaceIdV1 workspaceId
  match (directoryOf disk workspaceId).revisions with
  | none => .ok []
  | some revisions => match (directoryOf disk workspaceId).commits with
    | none => if hasRevisionFiles revisions then .error corruptWorkspace else .ok []
    | some commits => loadHistoryFrom platform revisions commits workspaceId

/-- `load_newest_committed_workspace` -/
def loadNewestCommittedWorkspace (platform : Platform) (disk : Disk) (workspaceId : Text) :
    GuiResult (Option CommittedRevision) := do
  let history ← loadCommittedHistory platform disk workspaceId
  pure history.getLast?

end PrivateBallot.GuiCore
