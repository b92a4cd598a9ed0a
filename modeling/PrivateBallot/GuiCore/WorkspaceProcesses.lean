import PrivateBallot.Base.Interleaving
import PrivateBallot.GuiCore.WorkspaceRecovery

/-!
# Appends and deletions of several processes

Library `GuiCore`. Processes that share the disk and have a memory of their own, with calls of
`write_workspace_revision` and `delete_election_workspace_v1` interleaved at every file operation
and cut off at any of them. The head that the fast path confirms is compared with the full walk on
the same disk.
-/

namespace PrivateBallot.GuiCore

open PrivateBallot.Base PrivateBallot.Protocol PrivateBallot.Ballot

/-! ### What a call hands to its operations -/

/-- A revision about to be stored: its payload decodes to the record, is named by its digest, and
is numbered after the predecessor. -/
structure PendingRevision.IsSound (platform : Platform) (pending : PendingRevision) : Prop where
  validId : workspaceIdIsValid pending.record.workspaceId
  digestHex : pending.digestHex = revisionDigestHex platform pending.payload
  decodes : ∃ updatedAt, decodeWorkspace pending.payload =
    .ok { pending.record with updatedAtUnixSecs := updatedAt }
  numbered : (pending.record.predecessor = .genesis ∧ pending.record.revision = 1) ∨
    ∃ revision digestHex, pending.record.predecessor = .previous revision digestHex ∧
      pending.record.revision = revision + 1

/-- What the code guarantees of the operations it issues. -/
def WorkspaceOp.IsSound (platform : Platform) : WorkspaceOp → Prop
  | createTemporary _ name | removeTemporary _ name => revisionFileSuffix.isSuffixOf name = false
  | createRevision pending => pending.IsSound platform
  | createCommit pending marker => pending.IsSound platform ∧ encodeCommitMarker
      ⟨pending.record.workspaceId, pending.record.revision, pending.digestHex⟩ = .ok marker
  | rememberHead pending body => pending.IsSound platform ∧ body = pending.record.body
  | _ => True

section Issues

variable {platform : Platform} {workspaceId : Text}

private theorem issues_compute {α β : Type} {P : WorkspaceOp → Prop} {x : GuiResult α}
    {k : α → WorkspaceProgram β} (hk : ∀ a, x = .ok a → (k a).run.Issues P) :
    (WorkspaceProgram.compute x >>= k).run.Issues P := by
  cases x with
  | error e => trivial
  | ok a => exact hk a rfl

private theorem issues_store {record : DurableElectionWorkspaceV1} {payload temporary : Bytes}
    (hrecord : record.IsRepresentable) (hencode : encodeWorkspace record = .ok payload)
    (hnumbered : (record.predecessor = .genesis ∧ record.revision = 1) ∨
      ∃ revision digestHex, record.predecessor = .previous revision digestHex ∧
        record.revision = revision + 1)
    (htemporary : revisionFileSuffix.isSuffixOf temporary = false) :
    (storePendingRevision ⟨record, payload, revisionDigestHex platform payload⟩
      temporary).run.Issues (WorkspaceOp.IsSound platform) := by
  refine Program.Issues.bindExcept ⟨htemporary, fun _ ↦ trivial⟩ fun _ ↦ ?_
  apply issues_compute
  intro decoded hdecode
  obtain ⟨-, hdecoded⟩ := eq_of_decodeWorkspace_encodeWorkspace hrecord hencode hdecode
  have hsound : PendingRevision.IsSound platform
      ⟨record, payload, revisionDigestHex platform payload⟩ := by
    refine ⟨hrecord.workspaceId, rfl, ⟨storedUpdatedAt record.updatedAtUnixSecs, ?_⟩, hnumbered⟩
    rw [← hdecoded]
    exact hdecode
  split
  · exact ⟨htemporary, fun _ ↦ trivial⟩
  · refine Program.Issues.bindExcept ⟨hsound, fun _ ↦ trivial⟩ fun _ ↦ ?_
    refine Program.Issues.bindExcept ⟨htemporary, fun _ ↦ trivial⟩ fun _ ↦ ?_
    apply issues_compute
    intro marker hmarker
    refine Program.Issues.bindExcept ⟨⟨hsound, hmarker⟩, fun _ ↦ trivial⟩ fun _ ↦ ?_
    refine Program.Issues.bindExcept ⟨⟨hsound, ?_⟩, fun _ ↦ trivial⟩ fun _ ↦ trivial
    rw [hdecoded]

private theorem issues_appendAfter {body : DurableElectionWorkspaceBodyV1} {currentRevision : Nat}
    {predecessor : RevisionPredecessorV1} (hid : workspaceIdIsValid workspaceId)
    (hpredecessor : (predecessor = .genesis ∧ currentRevision = 0) ∨
      ∃ digestHex, predecessor = .previous currentRevision digestHex) :
    (appendAfter platform workspaceId body currentRevision predecessor).run.Issues
      (WorkspaceOp.IsSound platform) := by
  unfold appendAfter
  split
  · trivial
  · next hbound =>
    refine Program.Issues.bindExcept ⟨trivial, fun _ ↦ trivial⟩ fun updatedAt ↦ ?_
    apply issues_compute
    intro payload hpayload
    refine Program.Issues.bindExcept ⟨trivial, fun _ ↦ trivial⟩ fun stamp ↦ ?_
    refine Program.Issues.bindExcept ⟨trivial, fun _ ↦ trivial⟩ fun pid ↦ ?_
    refine issues_store ⟨hid, by dsimp only; omega, ?_⟩ hpayload ?_
      (isSuffixOf_tempRevisionFilename _ _ _)
    · intro revision digestHex hprevious
      rcases hpredecessor with ⟨rfl, -⟩ | ⟨d, rfl⟩
      · cases hprevious
      · cases hprevious
        omega
    · rcases hpredecessor with ⟨rfl, rfl⟩ | ⟨d, rfl⟩
      · exact Or.inl ⟨rfl, rfl⟩
      · exact Or.inr ⟨currentRevision, d, rfl, rfl⟩

/-- Every operation of an append is sound. -/
theorem issues_writeWorkspaceRevision (platform : Platform) (workspaceId : Text)
    (body : DurableElectionWorkspaceBodyV1) :
    (writeWorkspaceRevision platform workspaceId body).run.Issues
      (WorkspaceOp.IsSound platform) := by
  unfold writeWorkspaceRevision ensureWorkspaceDirs
  cases hid : validateWorkspaceIdV1 workspaceId with
  | error e => trivial
  | ok u =>
    have hvalid : workspaceIdIsValid workspaceId := by
      unfold validateWorkspaceIdV1 at hid
      split at hid
      · assumption
      · cases hid
    refine Program.Issues.bindExcept ?_ fun _ ↦ ?_
    · refine Program.Issues.bindExcept trivial fun _ ↦ ?_
      refine Program.Issues.bindExcept ⟨trivial, fun _ ↦ trivial⟩ fun _ ↦ ?_
      refine Program.Issues.bindExcept ⟨trivial, fun _ ↦ trivial⟩ fun _ ↦ ?_
      exact ⟨trivial, fun _ ↦ trivial⟩
    · refine Program.Issues.bind ⟨trivial, fun _ ↦ trivial⟩ fun _ ↦ ?_
      refine Program.Issues.bind ?_ fun _ ↦ ⟨trivial, fun _ ↦ trivial⟩
      refine Program.Issues.bindExcept ⟨trivial, fun _ ↦ trivial⟩ fun head ↦ ?_
      cases head with
      | none => exact issues_appendAfter hvalid (Or.inl ⟨rfl, rfl⟩)
      | some head =>
        dsimp only
        split
        · trivial
        · apply issues_compute
          intro _ _
          exact issues_appendAfter hvalid (Or.inr ⟨head.digestHex, rfl⟩)

/-- Every operation of a deletion is sound. -/
theorem issues_deleteElectionWorkspaceV1 (platform : Platform) (workspaceId : Text) (passes : Nat) :
    (deleteElectionWorkspaceV1 workspaceId passes).run.Issues (WorkspaceOp.IsSound platform) := by
  unfold deleteElectionWorkspaceV1
  apply issues_compute
  intro _ _
  refine Program.Issues.bindExcept ⟨trivial, fun _ ↦ trivial⟩ fun _ ↦ ?_
  refine Program.Issues.bindExcept ?_ fun _ ↦ ⟨trivial, fun _ ↦ trivial⟩
  induction List.range passes with
  | nil => trivial
  | cons n ns ih => exact Program.Issues.bindExcept ⟨trivial, fun _ ↦ trivial⟩ fun _ ↦ ih

end Issues

/-! ### What resolving a head leaves in the cache -/

section Cache

variable {platform : Platform} {workspaceId : Text} {disk : Disk}

/-- What the fast path has read: the file named by the trusted digest, within the size limit. -/
theorem of_confirmAppendHead {trustedRevision : Nat} {trustedDigest payload : Bytes}
    (h : confirmAppendHead platform disk workspaceId trustedRevision trustedDigest =
      .ok (some payload)) :
    workspaceIdIsValid workspaceId ∧ payload.length ≤ maxWorkspaceRevisionBytesV1 ∧
      revisionDigestHex platform payload = trustedDigest ∧
      (World.revisionFiles disk workspaceId).lookup
        (revisionFilename trustedRevision trustedDigest) =
        some payload := by
  unfold confirmAppendHead validateWorkspaceIdV1 at h
  split at h
  · next hid =>
    simp only [bind, Except.bind] at h
    split at h
    · cases h
    · split at h
      · cases h
      · split at h
        · cases h
        · split at h
          · cases h
          · split at h
            · cases h
            · next revisions hrevisions =>
              split at h
              · cases h
              · next hread =>
                cases h
                unfold readHeadPayloadVerified at hread
                split at hread
                · cases hread
                · next hlookup =>
                  split at hread
                  · cases hread
                  · next hsize =>
                    split at hread
                    · cases hread
                    · next hdigest =>
                      cases hread
                      refine ⟨hid, Nat.le_of_not_lt hsize, not_not.mp hdigest, ?_⟩
                      rw [World.revisionFiles, hrevisions, Option.getD_some]
                      exact hlookup
  · cases h

/-- A cached body that was decoded from a stored revision. -/
def WarmHeadBodyEntryV1.IsStored (platform : Platform) (revisions : Directory)
    (entry : WarmHeadBodyEntryV1) : Prop :=
  ∃ record, StoredAs platform revisions entry.digestHex record ∧ record.body = entry.body

private theorem lookup_fastPath {trustedRevision : Nat} {trustedDigest : Bytes}
    {cache : WarmHeadBodyCacheV1} {id : Text} {entry : WarmHeadBodyEntryV1}
    (h : (fastPathAppendHead platform disk workspaceId trustedRevision trustedDigest
      cache).2.entries.lookup id = some entry) :
    cache.entries.lookup id = some entry ∨ (id = workspaceId ∧
      entry.IsStored platform (World.revisionFiles disk workspaceId)) := by
  unfold fastPathAppendHead at h
  split at h
  · exact Or.inl h
  · exact Or.inl h
  · next payload hconfirm =>
    have hentries := WarmHeadBodyCacheV1.entries_get cache workspaceId trustedRevision trustedDigest
    obtain ⟨-, -, hdigest, hlookup⟩ := of_confirmAppendHead hconfirm
    generalize cache.get workspaceId trustedRevision trustedDigest = result at h hentries
    obtain ⟨hit, cache'⟩ := result
    dsimp only at hentries
    cases hit with
    | some body =>
      simp only [hentries] at h
      exact Or.inl h
    | none =>
      dsimp only at h
      split at h
      · rw [hentries] at h
        exact Or.inl h
      · next record hdecode =>
        split at h
        · rw [hentries] at h
          exact Or.inl h
        · rcases WarmHeadBodyCacheV1.lookup_put h with ⟨rfl, rfl⟩ | hold
          · exact Or.inr ⟨rfl, record, ⟨_, payload, hlookup, hdigest, hdecode⟩, rfl⟩
          · rw [hentries] at hold
            exact Or.inl hold

private theorem isAccounted_fastPath {trustedRevision : Nat} {trustedDigest : Bytes}
    {cache : WarmHeadBodyCacheV1} (h : cache.IsAccounted) :
    (fastPathAppendHead platform disk workspaceId trustedRevision trustedDigest
      cache).2.IsAccounted := by
  unfold fastPathAppendHead
  have hget := h.get workspaceId trustedRevision trustedDigest
  generalize cache.get workspaceId trustedRevision trustedDigest = result at hget
  obtain ⟨hit, cache'⟩ := result
  split
  · exact h
  · exact h
  · cases hit with
    | some body => exact hget
    | none =>
      dsimp only
      split
      · exact hget
      · split
        · exact hget
        · exact hget.put workspaceId _

private theorem lookup_walk {memory : ProcessMemory} {id : Text} {entry : WarmHeadBodyEntryV1}
    (h : (resolveHeadByWalk platform disk workspaceId memory).2.cache.entries.lookup id =
      some entry) :
    memory.cache.entries.lookup id = some entry ∨ (id = workspaceId ∧
      entry.IsStored platform (World.revisionFiles disk workspaceId)) := by
  unfold resolveHeadByWalk at h
  split at h
  · exact Or.inl h
  · next committed hload =>
    split at h
    · next head hhead =>
      rcases WarmHeadBodyCacheV1.lookup_put h with ⟨rfl, rfl⟩ | hold
      · have hstored := storedAs_of_loadCommittedHistory hload head (List.mem_of_getLast? hhead)
        exact Or.inr ⟨rfl, head.record, hstored, rfl⟩
      · exact Or.inl hold
    · exact Or.inl (WarmHeadBodyCacheV1.lookup_remove h).2

private theorem isAccounted_walk {memory : ProcessMemory} (h : memory.cache.IsAccounted) :
    (resolveHeadByWalk platform disk workspaceId memory).2.cache.IsAccounted := by
  unfold resolveHeadByWalk
  split
  · exact h
  · split
    · exact h.put workspaceId _
    · exact h.remove workspaceId

/-- What resolving a head leaves in the cache was there before or was decoded from a stored
revision. -/
theorem lookup_loadHeadForAppend {fastPathReads : Bool} {memory : ProcessMemory} {id : Text}
    {entry : WarmHeadBodyEntryV1}
    (h : (loadHeadForAppend platform disk workspaceId fastPathReads
      memory).2.cache.entries.lookup id = some entry) :
    memory.cache.entries.lookup id = some entry ∨ (id = workspaceId ∧
      entry.IsStored platform (World.revisionFiles disk workspaceId)) := by
  unfold loadHeadForAppend at h
  split at h
  · exact lookup_walk h
  · next trustedRevision trustedDigest _ =>
    split at h
    · rcases lookup_walk h with hold | hnew
      · exact Or.inl (WarmHeadBodyCacheV1.lookup_remove hold).2
      · exact Or.inr hnew
    · have hfast := @lookup_fastPath platform workspaceId disk trustedRevision trustedDigest
        memory.cache id entry
      generalize fastPathAppendHead platform disk workspaceId trustedRevision trustedDigest
        memory.cache = result at h hfast
      obtain ⟨outcome, cache⟩ := result
      split at h
      · next hpair =>
        cases hpair
        exact hfast h
      · next hpair =>
        cases hpair
        rcases lookup_walk h with hold | hnew
        · exact hfast (WarmHeadBodyCacheV1.lookup_remove hold).2
        · exact Or.inr hnew

/-- Resolving a head keeps the cache accounted. -/
theorem isAccounted_loadHeadForAppend {fastPathReads : Bool} {memory : ProcessMemory}
    (h : memory.cache.IsAccounted) :
    (loadHeadForAppend platform disk workspaceId fastPathReads memory).2.cache.IsAccounted := by
  unfold loadHeadForAppend
  split
  · exact isAccounted_walk h
  · next trustedRevision trustedDigest _ =>
    split
    · exact isAccounted_walk (h.remove workspaceId)
    · have hfast := @isAccounted_fastPath platform workspaceId disk trustedRevision trustedDigest
        memory.cache h
      generalize fastPathAppendHead platform disk workspaceId trustedRevision trustedDigest
        memory.cache = result at hfast
      obtain ⟨outcome, cache⟩ := result
      split
      · next hpair =>
        cases hpair
        exact hfast
      · next hpair =>
        cases hpair
        exact isAccounted_walk (hfast.remove workspaceId)

end Cache

/-! ### Processes -/

/-- The shared disk and the memory of each process. -/
structure Cluster where
  disk : Disk
  memory : Nat → ProcessMemory

/-- Processes at work: an operation acts on the disk and the memory of its own process, an append
lock has to be free, and a process that is cut off starts again with an empty memory. -/
def workspaceSystem (platform : Platform) : System WorkspaceOp.Response Signal Nat Nat Cluster where
  exec process op signal cluster :=
    let result := WorkspaceOp.exec platform op signal ⟨cluster.disk, cluster.memory process⟩
    (result.1, ⟨result.2.disk, Function.update cluster.memory process result.2.memory⟩)
  ready process op cluster := match op with
    | .acquireAppendLock workspaceId => workspaceId ∉ (cluster.memory process).appendLocks
    | _ => true
  restart process pid cluster :=
    { cluster with memory := Function.update cluster.memory process (.new pid) }

/-- The calls: appends of any body to any workspace, and deletions. -/
inductive IsWorkspaceCall (platform : Platform) :
    Nat → Program WorkspaceOp.Response (GuiResult Nat) → Prop
  | append (process : Nat) (workspaceId : Text) (body : DurableElectionWorkspaceBodyV1) :
      IsWorkspaceCall platform process (writeWorkspaceRevision platform workspaceId body).run
  | delete (process : Nat) (workspaceId : Text) (passes : Nat) :
      IsWorkspaceCall platform process
        (do deleteElectionWorkspaceV1 workspaceId passes; return 0 : WorkspaceProgram Nat).run

/-- The committed head is the one the record was chained onto. -/
def isHeadOf (platform : Platform) (disk : Disk) (record : DurableElectionWorkspaceV1) : Bool :=
  match record.predecessor with
  | .genesis => (World.commitFiles disk record.workspaceId).keys.all fun name ↦
      !commitFileSuffix.isSuffixOf name
  | .previous revision digestHex =>
    match confirmAppendHead platform disk record.workspaceId revision digestHex with
    | .ok (some _) => true
    | _ => false

/-- No file among the revisions has this number and another digest. -/
def isOnlyRevision (revisions : Directory) (revision : Nat) (digestHex : Bytes) : Bool :=
  revisions.keys.all fun name ↦ match parseNumberDigestFilename name revisionFileSuffix with
    | some (number, digest) => number ≠ revision || digest = digestHex
    | none => true

/-- A revision file and a commit marker are created while the head they were chained onto is
still the committed one, the file while there are fewer than the loader's limit, the marker
while its file is the only one with its number; and no removal is seen half done. -/
def isUncontended (platform : Platform) (_process : Nat) (op : WorkspaceOp) (signal : Signal)
    (cluster : Cluster) : Bool :=
  match op with
  | .createRevision pending => isHeadOf platform cluster.disk pending.record &&
      (World.revisionFiles cluster.disk pending.record.workspaceId).keys.countP
        revisionFileSuffix.isSuffixOf < maxWorkspaceRevisionsV1
  | .createCommit pending _ => isHeadOf platform cluster.disk pending.record &&
      ((World.revisionFiles cluster.disk pending.record.workspaceId).lookup
        (revisionFilename pending.record.revision pending.digestHex) = some pending.payload &&
      isOnlyRevision (World.revisionFiles cluster.disk pending.record.workspaceId)
        pending.record.revision pending.digestHex)
  | .removePart workspaceId =>
    World.removePart cluster.disk workspaceId signal.left = cluster.disk
  | .removeWorkspace workspaceId => signal.succeeds ||
      World.removePart cluster.disk workspaceId signal.left = cluster.disk
  | _ => true

/-- The payload an operation carries. -/
def WorkspaceOp.payload? : WorkspaceOp → Option Bytes
  | createTemporary pending _ | createRevision pending | removeTemporary pending _
  | createCommit pending _ | rememberHead pending _ => some pending.payload
  | _ => none

abbrev WorkspaceLog := List (Event WorkspaceOp.Response (GuiResult Nat) Nat)

/-- The payloads that occur in a log. -/
def payloadsOf (log : WorkspaceLog) : List Bytes :=
  log.filterMap fun event ↦ match event with
    | .performed _ operation => operation.1.payload?
    | .returned _ _ => none

/-- The payloads of a run have digests of their own. -/
def IsCollisionFree (platform : Platform) (log : WorkspaceLog) : Prop :=
  ∀ p ∈ payloadsOf log, ∀ q ∈ payloadsOf log,
    revisionDigestHex platform p = revisionDigestHex platform q → p = q

instance (platform : Platform) (log : WorkspaceLog) : Decidable (IsCollisionFree platform log) :=
  inferInstanceAs (Decidable (∀ p ∈ payloadsOf log, ∀ q ∈ payloadsOf log, _))

private theorem mem_payloadsOf_append {payload : Bytes} {log : WorkspaceLog}
    (h : payload ∈ payloadsOf log) (events : WorkspaceLog) :
    payload ∈ payloadsOf (log ++ events) := by
  rw [payloadsOf, List.filterMap_append]
  exact List.mem_append_left _ h

private theorem mem_payloadsOf_concat {payload : Bytes} {process : Nat} {op : WorkspaceOp}
    (response : op.Response) (log : WorkspaceLog) (h : op.payload? = some payload) :
    payload ∈ payloadsOf (log ++ [Event.performed process ⟨op, response⟩]) := by
  rw [payloadsOf, List.filterMap_append]
  apply List.mem_append_right
  simp [h]

/-! ### The invariant -/

/-- The disk holds a history of the workspace of which all but the last revision can be read, and
everything stored occurs in the log. -/
structure DiskKept (platform : Platform) (workspaceId : Text) (disk : Disk) (log : WorkspaceLog) :
    Prop where
  history : ∃ history, HoldsHistory platform workspaceId disk history ∧
    history.length ≤ maxWorkspaceRevisionsV1 ∧
    ∀ s ∈ history.dropLast, s.payload.length ≤ maxWorkspaceRevisionBytesV1
  count : (World.revisionFiles disk workspaceId).keys.countP revisionFileSuffix.isSuffixOf ≤
    maxWorkspaceRevisionsV1
  stored : ∀ name payload, (World.revisionFiles disk workspaceId).lookup name = some payload →
    payload ∈ payloadsOf log

/-- Every cached body was decoded from a payload of the log, and the cache is accounted. -/
structure MemoryKept (platform : Platform) (workspaceId : Text) (memory : ProcessMemory)
    (log : WorkspaceLog) : Prop where
  cached : ∀ entry, memory.cache.entries.lookup workspaceId = some entry → ∃ payload record,
    payload ∈ payloadsOf log ∧ revisionDigestHex platform payload = entry.digestHex ∧
      decodeWorkspace payload = .ok record ∧ record.body = entry.body
  accounted : memory.cache.IsAccounted

section Count

variable {d : Directory} {name bytes : Bytes} {p : Bytes → Bool}

private theorem countP_keys_insert (hnew : name ∉ d) :
    (d.insert name bytes).keys.countP p = d.keys.countP p + if p name then 1 else 0 := by
  have hkeys : (d.insert name bytes).keys = name :: d.keys := by
    rw [AList.keys, AList.entries_insert_of_notMem hnew]
    rfl
  rw [hkeys, List.countP_cons]

private theorem countP_keys_erase_le : (d.erase name).keys.countP p ≤ d.keys.countP p := by
  have hkeys : (d.erase name).keys.Sublist d.keys :=
    (List.kerase_sublist name d.entries).map Sigma.fst
  exact hkeys.countP_le

private theorem lookup_insert_cases {other value : Bytes}
    (h : (d.insert name bytes).lookup other = some value) :
    (other = name ∧ value = bytes) ∨ d.lookup other = some value := by
  by_cases hname : other = name
  · rw [hname, AList.lookup_insert] at h
    cases h
    exact Or.inl ⟨hname, rfl⟩
  · rw [AList.lookup_insert_ne hname] at h
    exact Or.inr h

private theorem lookup_of_erase {other value : Bytes}
    (h : (d.erase name).lookup other = some value) : d.lookup other = some value := by
  by_cases hname : other = name
  · rw [hname, AList.lookup_erase] at h
    cases h
  · rw [AList.lookup_erase_ne hname] at h
    exact h

end Count

section Kept

variable {platform : Platform} {workspaceId : Text} {disk disk' : Disk} {memory : ProcessMemory}
  {log : WorkspaceLog}

/-- What is cached was cached before or was decoded from a payload of the log. -/
theorem MemoryKept.of_cache {memory' : ProcessMemory} {events : WorkspaceLog}
    (h : MemoryKept platform workspaceId memory log)
    (hcached : ∀ entry, memory'.cache.entries.lookup workspaceId = some entry →
      memory.cache.entries.lookup workspaceId = some entry ∨ ∃ payload record,
        payload ∈ payloadsOf (log ++ events) ∧
          revisionDigestHex platform payload = entry.digestHex ∧
          decodeWorkspace payload = .ok record ∧ record.body = entry.body)
    (haccounted : memory'.cache.IsAccounted) :
    MemoryKept platform workspaceId memory' (log ++ events) := by
  refine ⟨?_, haccounted⟩
  intro entry hentry
  rcases hcached entry hentry with hold | hnew
  · obtain ⟨payload, record, hoccurs, hrest⟩ := h.cached entry hold
    exact ⟨payload, record, mem_payloadsOf_append hoccurs events, hrest⟩
  · exact hnew

theorem MemoryKept.append (h : MemoryKept platform workspaceId memory log)
    (events : WorkspaceLog) : MemoryKept platform workspaceId memory (log ++ events) :=
  h.of_cache (fun _ hentry ↦ Or.inl hentry) h.accounted

theorem memoryKept_new (pid : Nat) (log : WorkspaceLog) :
    MemoryKept platform workspaceId (.new pid) log := by
  refine ⟨?_, WarmHeadBodyCacheV1.isAccounted_new⟩
  intro entry hentry
  cases hentry

theorem DiskKept.of_files (h : DiskKept platform workspaceId disk log) (events : WorkspaceLog)
    (hrevisions : World.revisionFiles disk' workspaceId = World.revisionFiles disk workspaceId)
    (hcommits : World.commitFiles disk' workspaceId = World.commitFiles disk workspaceId) :
    DiskKept platform workspaceId disk' (log ++ events) := by
  obtain ⟨history, hholds, hrest⟩ := h.history
  refine ⟨⟨history, hholds.of_files hrevisions hcommits, hrest⟩, ?_, ?_⟩
  · rw [hrevisions]
    exact h.count
  · rw [hrevisions]
    intro name payload hlookup
    exact mem_payloadsOf_append (h.stored name payload hlookup) events

/-- A directory that another workspace keeps. -/
theorem DiskKept.of_directory (h : DiskKept platform workspaceId disk log) (events : WorkspaceLog)
    (hdirectory : directoryOf disk' workspaceId = directoryOf disk workspaceId) :
    DiskKept platform workspaceId disk' (log ++ events) := by
  apply h.of_files events
  · rw [World.revisionFiles, World.revisionFiles, hdirectory]
  · rw [World.commitFiles, World.commitFiles, hdirectory]

theorem diskKept_nil (hnone : disk.lookup workspaceId = none) (log : WorkspaceLog) :
    DiskKept platform workspaceId disk log := by
  have hfiles : World.revisionFiles disk workspaceId = ∅ := by
    rw [World.revisionFiles, directoryOf, hnone]
    rfl
  refine ⟨⟨[], holdsHistory_nil platform hnone, Nat.zero_le _, by simp⟩, ?_, ?_⟩
  · rw [hfiles]
    exact Nat.zero_le _
  · rw [hfiles]
    intro name payload hlookup
    rw [AList.lookup_empty] at hlookup
    cases hlookup

/-- A file creation adds its payload to what is stored. -/
private theorem DiskKept.stored_create (h : DiskKept platform workspaceId disk log)
    {name payload : Bytes} {events : WorkspaceLog}
    (hoccurs : payload ∈ payloadsOf (log ++ events)) :
    ∀ other value, ((World.revisionFiles disk workspaceId).insert name payload).lookup other =
      some value → value ∈ payloadsOf (log ++ events) := by
  intro other value hlookup
  rcases lookup_insert_cases hlookup with ⟨-, rfl⟩ | hold
  · exact hoccurs
  · exact mem_payloadsOf_append (h.stored other value hold) events

/-- A temporary file counts for nothing but its payload. -/
theorem DiskKept.createTemporary (h : DiskKept platform workspaceId disk log)
    {name payload : Bytes} (hname : revisionFileSuffix.isSuffixOf name = false)
    (hcreate : World.createRevisionFile disk workspaceId name payload = some disk')
    {events : WorkspaceLog} (hoccurs : payload ∈ payloadsOf (log ++ events)) :
    DiskKept platform workspaceId disk' (log ++ events) := by
  obtain ⟨history, hholds, hrest⟩ := h.history
  obtain ⟨hnew, hrevisions, hcommits, -⟩ := World.files_createRevisionFile hcreate
  refine ⟨⟨history, ⟨hholds.chain, ?_, ?_⟩, hrest⟩, ?_, ?_⟩
  · rw [hcommits]
    exact hholds.commits
  · rw [hrevisions]
    exact hholds.revisions.insert_other hname
  · rw [hrevisions, countP_keys_insert hnew, hname]
    exact h.count
  · rw [hrevisions]
    exact h.stored_create hoccurs

/-- So does its removal. -/
theorem DiskKept.removeTemporary (h : DiskKept platform workspaceId disk log) {name : Bytes}
    (hname : revisionFileSuffix.isSuffixOf name = false) (events : WorkspaceLog) :
    DiskKept platform workspaceId (World.removeRevisionFile disk workspaceId name)
      (log ++ events) := by
  obtain ⟨history, hholds, hrest⟩ := h.history
  obtain ⟨hrevisions, hcommits, -⟩ := World.files_removeRevisionFile disk workspaceId name
  refine ⟨⟨history, ⟨hholds.chain, ?_, ?_⟩, hrest⟩, ?_, ?_⟩
  · rw [hcommits]
    exact hholds.commits
  · rw [hrevisions]
    exact hholds.revisions.erase_other hname
  · rw [hrevisions]
    exact Nat.le_trans countP_keys_erase_le h.count
  · rw [hrevisions]
    intro other payload hlookup
    exact mem_payloadsOf_append (h.stored other payload (lookup_of_erase hlookup)) events

/-- The committed head that a sound revision was chained onto is the last of the history. -/
private theorem predecessor_of_isHeadOf {pending : PendingRevision} {history : List StoredRevision}
    (hholds : HoldsHistory platform pending.record.workspaceId disk history)
    (hlength : history.length ≤ maxWorkspaceRevisionsV1) (hsound : pending.IsSound platform)
    (hhead : isHeadOf platform disk pending.record = true) :
    pending.record.revision = history.length + 1 ∧
      pending.record.predecessor = predecessorAt platform history history.length ∧
      ∀ s, history.getLast? = some s → s.payload.length ≤ maxWorkspaceRevisionBytesV1 := by
  unfold isHeadOf at hhead
  rcases hsound.numbered with ⟨hgenesis, hone⟩ | ⟨revision, digestHex, hprevious, hnumber⟩
  · rw [hgenesis] at hhead
    have hnil : history = [] := by
      cases hget : history[0]? with
      | none =>
        rw [List.getElem?_eq_none_iff] at hget
        exact List.length_eq_zero_iff.mp (by omega)
      | some s =>
        obtain ⟨marker, -, hlookup⟩ := hholds.commits.present 0 s hget
        have hmem := AList.lookup_isSome.mp (Option.isSome_of_mem hlookup)
        have hsuffix := List.all_eq_true.mp hhead _ (AList.mem_keys.mp hmem)
        rw [commitFilename, isSuffixOf_numberDigestFilename] at hsuffix
        cases hsuffix
    subst hnil
    exact ⟨hone, hgenesis, by simp⟩
  · rw [hprevious] at hhead
    dsimp only at hhead
    split at hhead
    case h_2 => cases hhead
    rename_i payload hconfirm
    obtain ⟨-, hsize, -, -⟩ := of_confirmAppendHead hconfirm
    obtain ⟨s, hlast, rfl, rfl, rfl⟩ := hholds.confirmAppendHead_eq_some hsound.validId hlength
      hconfirm
    refine ⟨hnumber, ?_, ?_⟩
    · rcases List.eq_nil_or_concat' history with rfl | ⟨init, t, rfl⟩
      · cases hlast
      · rw [List.getLast?_concat] at hlast
        cases hlast
        rw [hprevious, List.length_append, List.length_singleton, predecessorAt,
          List.getElem?_concat_length]
    · intro t ht
      rw [hlast] at ht
      cases ht
      exact hsize

/-- A revision file chained onto the committed head lies above it. -/
theorem DiskKept.createRevision {pending : PendingRevision}
    (h : DiskKept platform pending.record.workspaceId disk log)
    (hsound : pending.IsSound platform) (hhead : isHeadOf platform disk pending.record = true)
    (hcount : (World.revisionFiles disk pending.record.workspaceId).keys.countP
      revisionFileSuffix.isSuffixOf < maxWorkspaceRevisionsV1)
    (hcreate : World.createRevisionFile disk pending.record.workspaceId
      (revisionFilename pending.record.revision pending.digestHex) pending.payload = some disk')
    {events : WorkspaceLog} (hoccurs : pending.payload ∈ payloadsOf (log ++ events)) :
    DiskKept platform pending.record.workspaceId disk' (log ++ events) := by
  obtain ⟨history, hholds, hlength, hsizes⟩ := h.history
  obtain ⟨hnew, hrevisions, hcommits, -⟩ := World.files_createRevisionFile hcreate
  obtain ⟨hnumber, -, -⟩ := predecessor_of_isHeadOf hholds hlength hsound hhead
  have hmax : maxWorkspaceRevisionsV1 + 1 < 10 ^ 10 := by decide
  have hcanonical : digestHexIsCanonical pending.digestHex = true := by
    rw [hsound.digestHex]
    exact digestHexIsCanonical_revisionDigestHex platform pending.payload
  refine ⟨⟨history, ⟨hholds.chain, ?_, ?_⟩, hlength, hsizes⟩, ?_, ?_⟩
  · rw [hcommits]
    exact hholds.commits
  · rw [hrevisions]
    exact hholds.revisions.insert_above (by omega) (by omega) hcanonical hnew
  · rw [hrevisions, countP_keys_insert hnew]
    split <;> omega
  · rw [hrevisions]
    exact h.stored_create hoccurs

/-- With a further file above the head there are more revision files than revisions. -/
private theorem length_lt_countP {history : List StoredRevision}
    (hholds : HoldsHistory platform workspaceId disk history)
    (hlength : history.length ≤ maxWorkspaceRevisionsV1) {digestHex : Bytes}
    (hdigest : digestHexIsCanonical digestHex = true)
    (hmem : revisionFilename (history.length + 1) digestHex ∈
      World.revisionFiles disk workspaceId) :
    history.length < (World.revisionFiles disk workspaceId).keys.countP
      revisionFileSuffix.isSuffixOf := by
  have hmax : maxWorkspaceRevisionsV1 + 1 < 10 ^ 10 := by decide
  -- the file of each number up to the one after the head
  let digestAt (i : Nat) : Bytes := (history[i]?.map (·.digestHex platform)).getD digestHex
  have hcanonical : ∀ i, digestHexIsCanonical (digestAt i) = true := by
    intro i
    cases hget : history[i]? with
    | none => simp only [digestAt, hget, Option.map_none, Option.getD_none, hdigest]
    | some s =>
      simp only [digestAt, hget, Option.map_some, Option.getD_some]
      exact digestHexIsCanonical_digestHex platform s
  let names := (List.range (history.length + 1)).map fun i ↦ revisionFilename (i + 1) (digestAt i)
  have hnodup : names.Nodup := by
    apply List.Nodup.map_on _ List.nodup_range
    intro i hi j hj heq
    rw [List.mem_range] at hi hj
    have hnumber := (numberDigestFilename_inj (by omega) (hcanonical i) (by omega) (hcanonical j)
      heq).1
    omega
  have hsubset : names ⊆
      (World.revisionFiles disk workspaceId).keys.filter revisionFileSuffix.isSuffixOf := by
    intro name hname
    obtain ⟨i, hi, rfl⟩ := List.mem_map.mp hname
    rw [List.mem_range] at hi
    refine List.mem_filter.mpr ⟨AList.mem_keys.mp ?_, isSuffixOf_numberDigestFilename _ _ _⟩
    cases hget : history[i]? with
    | none =>
      have hi' : i = history.length := by
        rw [List.getElem?_eq_none_iff] at hget
        omega
      rw [hi'] at hget ⊢
      simp only [digestAt, hget, Option.map_none, Option.getD_none]
      exact hmem
    | some s =>
      simp only [digestAt, hget, Option.map_some, Option.getD_some]
      exact AList.lookup_isSome.mp (Option.isSome_of_mem (hholds.revisions.present i s hget))
  have hle := (List.subperm_of_subset hnodup hsubset).length_le
  rw [List.length_map, List.length_range, ← List.countP_eq_length_filter] at hle
  omega

private theorem eq_of_isOnlyRevision {revisions : Directory} {revision : Nat}
    {digestHex other : Bytes} (h : isOnlyRevision revisions revision digestHex = true)
    (hdigits : revision < 10 ^ 10) (hcanonical : digestHexIsCanonical other = true)
    (hmem : revisionFilename revision other ∈ revisions) : other = digestHex := by
  have hname := List.all_eq_true.mp h _ (AList.mem_keys.mp hmem)
  rw [revisionFilename, parseNumberDigestFilename_numberDigestFilename revision other _
    hdigits hcanonical] at hname
  simpa using hname

/-- The commit marker makes the revision the head. -/
theorem DiskKept.createCommit {pending : PendingRevision} {marker : Bytes}
    (h : DiskKept platform pending.record.workspaceId disk log)
    (hsound : pending.IsSound platform) (hmarker : encodeCommitMarker
      ⟨pending.record.workspaceId, pending.record.revision, pending.digestHex⟩ = .ok marker)
    (hhead : isHeadOf platform disk pending.record = true)
    (hstored : (World.revisionFiles disk pending.record.workspaceId).lookup
      (revisionFilename pending.record.revision pending.digestHex) = some pending.payload)
    (honly : isOnlyRevision (World.revisionFiles disk pending.record.workspaceId)
      pending.record.revision pending.digestHex = true)
    (hcreate : World.createCommitFile disk pending.record.workspaceId
      (commitFilename pending.record.revision pending.digestHex) marker = some disk')
    (events : WorkspaceLog) :
    DiskKept platform pending.record.workspaceId disk' (log ++ events) := by
  obtain ⟨history, hholds, hlength, hsizes⟩ := h.history
  obtain ⟨hnew, hcommits, hrevisions, -⟩ := World.files_createCommitFile hcreate
  obtain ⟨hnumber, hpredecessor, hlast⟩ := predecessor_of_isHeadOf hholds hlength hsound hhead
  obtain ⟨updatedAt, hdecode⟩ := hsound.decodes
  let s : StoredRevision :=
    ⟨pending.payload, { pending.record with updatedAtUnixSecs := updatedAt }⟩
  have hdigest : pending.digestHex = s.digestHex platform := hsound.digestHex
  have hmax : maxWorkspaceRevisionsV1 + 1 < 10 ^ 10 := by decide
  rw [hnumber, hdigest] at hmarker hstored honly hnew hcommits
  have hroom := Nat.lt_of_lt_of_le (length_lt_countP hholds hlength
    (digestHexIsCanonical_digestHex platform s)
    (AList.lookup_isSome.mp (Option.isSome_of_mem hstored))) h.count
  refine ⟨⟨history ++ [s], ⟨?_, ?_, ?_⟩, ?_, ?_⟩, ?_, ?_⟩
  · exact hholds.chain.concat hdecode rfl hnumber hpredecessor
  · rw [hcommits]
    exact hholds.commits.concat hmarker hnew
  · rw [hrevisions]
    refine hholds.revisions.concat hstored ?_
    intro digestHex hcanonical hmem
    exact eq_of_isOnlyRevision honly (by omega) hcanonical hmem
  · rw [List.length_append, List.length_singleton]
    omega
  · rw [List.dropLast_concat]
    intro t ht
    rcases List.eq_nil_or_concat' history with rfl | ⟨init, last, rfl⟩
    · cases ht
    · rcases List.mem_append.mp ht with hinit | hlast'
      · exact hsizes t (by rw [List.dropLast_concat]; exact hinit)
      · rw [List.mem_singleton.mp hlast']
        exact hlast last List.getLast?_concat
  · rw [hrevisions]
    exact h.count
  · rw [hrevisions]
    intro name payload hlookup
    exact mem_payloadsOf_append (h.stored name payload hlookup) events

end Kept

/-! ### Every operation keeps it -/

section Step

variable {platform : Platform} {workspaceId : Text}

/-- A file creation that left this workspace alone, or one among its own files. -/
private theorem DiskKept.of_create {disk : Disk} {log events : WorkspaceLog} {signal : Signal}
    {memory : ProcessMemory} {result : Option Disk}
    (h : DiskKept platform workspaceId disk log)
    (hcreate : ∀ disk', result = some disk' →
      DiskKept platform workspaceId disk' (log ++ events)) :
    DiskKept platform workspaceId (WorkspaceOp.create signal ⟨disk, memory⟩ result).2.disk
      (log ++ events) := by
  rcases WorkspaceOp.create_cases signal ⟨disk, memory⟩ result with
    ⟨disk', hresult, hexec⟩ | ⟨-, hexec⟩
  · rw [hexec]
    exact hcreate disk' hresult
  · rw [hexec]
    exact h.of_files events rfl rfl

/-- What an operation of a process does to the disk. -/
theorem diskKept_exec {process : Nat} {op : WorkspaceOp} {signal : Signal} {cluster : Cluster}
    {log : WorkspaceLog} (hsound : op.IsSound platform)
    (huncontended : isUncontended platform process op signal cluster = true)
    (h : DiskKept platform workspaceId cluster.disk log) :
    DiskKept platform workspaceId
      (WorkspaceOp.exec platform op signal ⟨cluster.disk, cluster.memory process⟩).2.disk
      (log ++ [Event.performed process ⟨op, (WorkspaceOp.exec platform op signal
        ⟨cluster.disk, cluster.memory process⟩).1⟩]) := by
  cases op with
  | ensureDirectory id place =>
    obtain ⟨hrevisions, hcommits⟩ :=
      World.files_ensureDirectory cluster.disk id workspaceId place
    simp only [WorkspaceOp.exec]
    split
    · exact h.of_files _ hrevisions hcommits
    · exact h.of_files _ rfl rfl
  | createTemporary pending name =>
    refine h.of_create ?_
    intro disk' hcreate
    by_cases hid : workspaceId = pending.record.workspaceId
    · subst hid
      exact h.createTemporary hsound hcreate (mem_payloadsOf_concat _ log rfl)
    · exact h.of_directory _ ((World.files_createRevisionFile hcreate).2.2.2 workspaceId hid)
  | createRevision pending =>
    refine h.of_create ?_
    intro disk' hcreate
    simp only [isUncontended, Bool.and_eq_true, decide_eq_true_eq] at huncontended
    by_cases hid : workspaceId = pending.record.workspaceId
    · subst hid
      exact h.createRevision hsound huncontended.1 huncontended.2 hcreate
        (mem_payloadsOf_concat _ log rfl)
    · exact h.of_directory _ ((World.files_createRevisionFile hcreate).2.2.2 workspaceId hid)
  | removeTemporary pending name =>
    simp only [WorkspaceOp.exec]
    split
    · by_cases hid : workspaceId = pending.record.workspaceId
      · subst hid
        exact h.removeTemporary hsound _
      · exact h.of_directory _ ((World.files_removeRevisionFile cluster.disk
          pending.record.workspaceId name).2.2 workspaceId hid)
    · exact h.of_files _ rfl rfl
  | createCommit pending marker =>
    refine h.of_create ?_
    intro disk' hcreate
    simp only [isUncontended, Bool.and_eq_true, decide_eq_true_eq] at huncontended
    obtain ⟨hhead, hstored, honly⟩ := huncontended
    by_cases hid : workspaceId = pending.record.workspaceId
    · subst hid
      exact h.createCommit hsound.1 hsound.2 hhead hstored honly hcreate _
    · exact h.of_directory _ ((World.files_createCommitFile hcreate).2.2.2 workspaceId hid)
  | removePart id =>
    have hsame : World.removePart cluster.disk id signal.left = cluster.disk :=
      of_decide_eq_true huncontended
    simp only [WorkspaceOp.exec, hsame]
    exact h.of_files _ rfl rfl
  | removeWorkspace id =>
    cases hs : signal.succeeds with
    | false =>
      have hsame : World.removePart cluster.disk id signal.left = cluster.disk := by
        simpa [isUncontended, hs] using huncontended
      simp only [WorkspaceOp.exec, hs, hsame]
      exact h.of_files _ rfl rfl
    | true =>
      simp only [WorkspaceOp.exec, hs, if_true]
      by_cases hid : workspaceId = id
      · subst hid
        exact diskKept_nil (AList.lookup_erase workspaceId cluster.disk) _
      · apply h.of_directory
        rw [directoryOf, directoryOf, AList.lookup_erase_ne hid]
  | loadHeadForAppend id =>
    simp only [WorkspaceOp.exec]
    split <;> exact h.of_files _ rfl rfl
  | acquireAppendLock _ | nowUnixSecs | nowNanos | processId | rememberHead _ _
  | releaseAppendLock _ | clearTrustedAppendHead _ => exact h.of_files _ rfl rfl

private theorem MemoryKept.of_create {world : World} {log events : WorkspaceLog}
    {signal : Signal} {result : Option Disk}
    (h : MemoryKept platform workspaceId world.memory log) :
    MemoryKept platform workspaceId (WorkspaceOp.create signal world result).2.memory
      (log ++ events) := by
  rcases WorkspaceOp.create_cases signal world result with ⟨disk', -, hexec⟩ | ⟨-, hexec⟩
  · rw [hexec]
    exact h.append events
  · rw [hexec]
    exact h.append events

/-- What an operation of a process does to its memory. -/
theorem memoryKept_exec (process : Nat) {op : WorkspaceOp} (signal : Signal) (world : World)
    {log : WorkspaceLog} (hsound : op.IsSound platform)
    (hdisk : DiskKept platform workspaceId world.disk log)
    (h : MemoryKept platform workspaceId world.memory log) :
    MemoryKept platform workspaceId (WorkspaceOp.exec platform op signal world).2.memory
      (log ++ [Event.performed process ⟨op, (WorkspaceOp.exec platform op signal world).1⟩]) := by
  cases op with
  | ensureDirectory id place =>
    simp only [WorkspaceOp.exec]
    split <;> exact h.append _
  | createTemporary pending name => exact h.of_create
  | createRevision pending => exact h.of_create
  | createCommit pending marker => exact h.of_create
  | removeTemporary pending name =>
    simp only [WorkspaceOp.exec]
    split <;> exact h.append _
  | removeWorkspace id =>
    simp only [WorkspaceOp.exec]
    split <;> exact h.append _
  | loadHeadForAppend id =>
    simp only [WorkspaceOp.exec]
    split
    · refine h.of_cache ?_ (isAccounted_loadHeadForAppend h.accounted)
      intro entry hentry
      rcases lookup_loadHeadForAppend hentry with hold | ⟨rfl, record, hstored, hbody⟩
      · exact Or.inl hold
      · obtain ⟨name, payload, hlookup, hdigest, hdecode⟩ := hstored
        exact Or.inr ⟨payload, record, mem_payloadsOf_append (hdisk.stored name payload hlookup) _,
          hdigest,
          hdecode, hbody⟩
    · refine h.of_cache ?_ (h.accounted.remove id)
      intro entry hentry
      exact Or.inl (WarmHeadBodyCacheV1.lookup_remove hentry).2
  | rememberHead pending body =>
    obtain ⟨hpending, rfl⟩ := hsound
    obtain ⟨updatedAt, hdecode⟩ := hpending.decodes
    refine h.of_cache ?_ (h.accounted.put _ _)
    intro entry hentry
    rcases WarmHeadBodyCacheV1.lookup_put hentry with ⟨-, rfl⟩ | hold
    · exact Or.inr ⟨pending.payload, _, mem_payloadsOf_concat _ log rfl, hpending.digestHex.symm,
        hdecode, rfl⟩
    · exact Or.inl hold
  | clearTrustedAppendHead id =>
    refine h.of_cache ?_ (h.accounted.remove id)
    intro entry hentry
    exact Or.inl (WarmHeadBodyCacheV1.lookup_remove hentry).2
  | removePart _ | acquireAppendLock _ | nowUnixSecs | nowNanos | processId
  | releaseAppendLock _ => exact h.of_cache (fun _ hentry ↦ Or.inl hentry) h.accounted

/-- The invariant of a run: the disk and every memory are kept. -/
structure IsKept (platform : Platform) (workspaceId : Text) (cluster : Cluster)
    (log : WorkspaceLog) : Prop where
  disk : DiskKept platform workspaceId cluster.disk log
  memory : ∀ process, MemoryKept platform workspaceId (cluster.memory process) log

/-- Every configuration that uncontended steps reach is kept. -/
theorem isKept_of_run {pids : Nat → Nat} {config : Config _ _ _ _}
    (run : (workspaceSystem platform).Run (IsWorkspaceCall platform)
      (fun process op signal cluster ↦ isUncontended platform process op signal cluster = true)
      ⟨∅, fun process ↦ .new (pids process)⟩ config) :
    IsKept platform workspaceId config.state config.log := by
  refine run.invariant (P := fun _ op ↦ op.IsSound platform) ?_ ?_ ?_ ?_ ?_
  · intro process program hcall
    cases hcall with
    | append workspaceId body => exact issues_writeWorkspaceRevision platform workspaceId body
    | delete workspaceId passes =>
      exact Program.Issues.bindExcept
        (issues_deleteElectionWorkspaceV1 platform workspaceId passes) fun _ ↦ trivial
  · exact ⟨diskKept_nil rfl _, fun process ↦ memoryKept_new (pids process) _⟩
  · intro process op signal cluster log hsound huncontended _ h
    refine ⟨diskKept_exec hsound huncontended h.disk, ?_⟩
    intro other
    by_cases hother : other = process
    · subst hother
      have hkept := memoryKept_exec other signal ⟨cluster.disk, cluster.memory other⟩ hsound
        h.disk (h.memory other)
      simpa [workspaceSystem] using hkept
    · have hkept := (h.memory other).append [Event.performed process ⟨op,
        ((workspaceSystem platform).exec process op signal cluster).1⟩]
      simpa [workspaceSystem, Function.update_of_ne hother] using hkept
  · intro process value cluster log h
    exact ⟨h.disk.of_files _ rfl rfl, fun other ↦ (h.memory other).append _⟩
  · intro process pid cluster log h
    refine ⟨h.disk, ?_⟩
    intro other
    by_cases hother : other = process
    · subst hother
      simpa [workspaceSystem] using memoryKept_new pid log
    · simpa [workspaceSystem, Function.update_of_ne hother] using h.memory other

end Step

/-! ### The fast path against the full walk -/

/-- Whatever head the fast path of a process confirms is the last revision of the full walk; the
caches are accounted; and a body they return is the decoding of any stored payload with the
digest asked for. -/
structure FastPathAgrees (platform : Platform) (workspaceId : Text) (cluster : Cluster) :
    Prop where
  head : ∀ process trustedRevision trustedDigest head,
    (fastPathAppendHead platform cluster.disk workspaceId trustedRevision trustedDigest
      (cluster.memory process).cache).1 = .ok (some head) →
    ∃ history last, loadCommittedHistory platform cluster.disk workspaceId = .ok history ∧
      history.getLast? = some last ∧ last.revision = head.revision ∧
      last.digestHex = head.digestHex ∧ last.record.body = head.body
  accounted : ∀ process, (cluster.memory process).cache.IsAccounted
  cached : ∀ process revision digestHex body,
    ((cluster.memory process).cache.get workspaceId revision digestHex).1 = some body →
    ∀ name payload, (World.revisionFiles cluster.disk workspaceId).lookup name = some payload →
      revisionDigestHex platform payload = digestHex →
      ∃ record, decodeWorkspace payload = .ok record ∧ record.body = body

section Agreement

variable {platform : Platform} {workspaceId : Text} {cluster : Cluster} {log : WorkspaceLog}

/-- A cached body is the decoding of what is stored under its digest. -/
private theorem IsKept.cached (h : IsKept platform workspaceId cluster log)
    (hfree : IsCollisionFree platform log) {process : Nat} {entry : WarmHeadBodyEntryV1}
    (hentry : (cluster.memory process).cache.entries.lookup workspaceId = some entry)
    {name payload : Bytes}
    (hlookup : (World.revisionFiles cluster.disk workspaceId).lookup name = some payload)
    (hdigest : revisionDigestHex platform payload = entry.digestHex) :
    ∃ record, decodeWorkspace payload = .ok record ∧ record.body = entry.body := by
  obtain ⟨cached, record, hoccurs, hcached, hdecode, hbody⟩ :=
    (h.memory process).cached entry hentry
  have hsame : cached = payload := hfree cached hoccurs payload
    (h.disk.stored name payload hlookup) (by rw [hcached, hdigest])
  subst hsame
  exact ⟨record, hdecode, hbody⟩

/-- What is kept agrees. -/
theorem IsKept.fastPathAgrees (h : IsKept platform workspaceId cluster log)
    (hfree : IsCollisionFree platform log) : FastPathAgrees platform workspaceId cluster := by
  refine ⟨?_, fun process ↦ (h.memory process).accounted, ?_⟩
  · intro process trustedRevision trustedDigest head hfast
    obtain ⟨history, hholds, hlength, hsizes⟩ := h.disk.history
    have hconfirmed : ∃ payload, confirmAppendHead platform cluster.disk workspaceId trustedRevision
        trustedDigest = .ok (some payload) := by
      unfold fastPathAppendHead at hfast
      split at hfast
      · cases hfast
      · cases hfast
      · next payload hconfirm => exact ⟨payload, hconfirm⟩
    obtain ⟨payload, hconfirm⟩ := hconfirmed
    obtain ⟨hid, hsize, -, -⟩ := of_confirmAppendHead hconfirm
    obtain ⟨s, hlast, -, -, rfl⟩ := hholds.confirmAppendHead_eq_some hid hlength hconfirm
    have hcached : ∀ entry t, (cluster.memory process).cache.entries.lookup workspaceId =
        some entry → history.getLast? = some t → entry.revision = history.length →
          entry.digestHex = t.digestHex platform → entry.body = t.record.body := by
      intro entry t hentry ht _ hdigest
      obtain ⟨i, hi, -⟩ := getElem?_of_getLast? ht
      obtain ⟨record, hdecode, hbody⟩ := h.cached hfree hentry
        (hholds.revisions.present i t hi) hdigest.symm
      rw [hholds.chain.decodes t (List.mem_of_getElem? hi)] at hdecode
      cases hdecode
      exact hbody.symm
    have hload : IsLoadable workspaceId cluster.disk history := by
      refine ⟨hid, hlength, ?_, h.disk.count, ?_⟩
      · intro t ht
        rcases List.eq_nil_or_concat' history with rfl | ⟨init, last, rfl⟩
        · cases ht
        · rw [List.dropLast_concat] at hsizes
          rw [List.getLast?_concat] at hlast
          cases hlast
          rcases List.mem_append.mp ht with hinit | hend
          · exact hsizes t hinit
          · rw [List.mem_singleton.mp hend]
            exact hsize
      · intro hnil
        rw [hnil] at hlast
        cases hlast
    have hhead := hholds.fastPathAppendHead_eq_some hid hlength hcached hfast
    rw [appendHeadOf, hlast] at hhead
    cases hhead
    refine ⟨_, ⟨history.length, s.digestHex platform, s.record⟩,
      hholds.loadCommittedHistory_eq_ok hload, ?_, rfl, rfl, rfl⟩
    rw [getLast?_committedRevisions, hlast]
    rfl
  · intro process revision digestHex body hget name payload hlookup hdigest
    obtain ⟨entry, hentry, -, hmatch, rfl⟩ := WarmHeadBodyCacheV1.get_eq_some hget
    exact h.cached hfree hentry hlookup (by rw [hdigest, hmatch])

/-- In every run of uncontended steps without digest collisions, the fast path agrees with the
full walk in every state. -/
theorem fastPathAgrees_of_run {pids : Nat → Nat} {config : Config _ _ _ _}
    (run : (workspaceSystem platform).Run (IsWorkspaceCall platform)
      (fun process op signal cluster ↦ isUncontended platform process op signal cluster = true)
      ⟨∅, fun process ↦ .new (pids process)⟩ config)
    (hfree : IsCollisionFree platform config.log) (workspaceId : Text) :
    FastPathAgrees platform workspaceId config.state :=
  (isKept_of_run run).fastPathAgrees hfree

end Agreement

/-! ### Contention -/

namespace Sample

/-- A draft with a proposal question. -/
def draftAsking (question : String) : GuiElectionDraftSnapshotV1 :=
  { draft with proposalQuestion := some (.lit question) }

abbrev WorkspaceChoice := Choice WorkspaceOp.Response (GuiResult Nat) Signal Nat Nat

/-- The first operations of an append at this time, by the call that is in this place. -/
def operationsAt (thread : Nat) (unixSecs : UInt64) (operations : Nat) : List WorkspaceChoice :=
  (List.range operations).map fun n ↦ Choice.advance thread { signal n with unixSecs }

/-- An append of a draft that asks this question. -/
def startAppend (process : Nat) (question : String) : WorkspaceChoice :=
  Choice.start process (writeWorkspaceRevision platform workspaceId
    (.draft (draftAsking question))).run

/-- The first operations of an append by process `0` at this time. -/
def appendAt (unixSecs : UInt64) (question : String) (operations : Nat) : List WorkspaceChoice :=
  startAppend 0 question :: operationsAt 0 unixSecs operations

/-- Process `1` has read the head of process `0` when process `0` appends again; its own append
then fails at its temporary file. It deletes the workspace, and process `0`, which still trusts its
second revision, starts over. -/
def twoProcesses : List WorkspaceChoice :=
  appendAt 5 "first" 15 ++ startAppend 1 "second" :: operationsAt 0 6 8 ++
    startAppend 0 "third" :: operationsAt 1 7 15 ++
    [Choice.advance 0 { signal 8 with succeeds := false }] ++ operationsAt 0 8 2 ++
    Choice.start 1 (do deleteElectionWorkspaceV1 workspaceId 0; return 0 :
      WorkspaceProgram Nat).run ::
      operationsAt 0 9 3 ++
    appendAt 10 "fourth" 15

/-- A second append that is cut off after it created its revision file, then a third. -/
def appendAfterCutOff : List WorkspaceChoice :=
  appendAt 5 "first" 15 ++ appendAt 6 "second" 10 ++ [Choice.crash 0 8] ++ appendAt 7 "third" 15

def initial : Cluster := ⟨∅, fun _ ↦ .new 7⟩

/-- The head that the fast path confirms to process `0`, which asks for the one it trusts. -/
def confirmed (config : Config WorkspaceOp.Response (GuiResult Nat) Nat Cluster) :
    Option AppendHead :=
  let memory := config.state.memory 0
  let trusted := (memory.trusted.lookup workspaceId).getD (0, [])
  match (fastPathAppendHead platform config.state.disk workspaceId trusted.1 trusted.2
      memory.cache).1 with
    | .ok head => head
    | .error _ => none

theorem fastPathAppendHead_of_confirmed
    {config : Config WorkspaceOp.Response (GuiResult Nat) Nat Cluster} {head : AppendHead}
    (h : confirmed config = some head) :
    (fastPathAppendHead platform config.state.disk workspaceId
      (((config.state.memory 0).trusted.lookup workspaceId).getD (0, [])).1
      (((config.state.memory 0).trusted.lookup workspaceId).getD (0, [])).2
      (config.state.memory 0).cache).1 = .ok (some head) := by
  simp only [confirmed] at h
  split at h
  · next found hfound =>
    rw [hfound, h]
  · cases h

/-- No payloads collide, the fast path confirms the head that process `0` trusts, and the full
walk refuses the history. -/
def disagrees (config : Config WorkspaceOp.Response (GuiResult Nat) Nat Cluster) : Bool :=
  decide (IsCollisionFree platform config.log) && (confirmed config).isSome &&
    loadCommittedHistory platform config.state.disk workspaceId = .error conflictingWorkspace

/-- The programs that are started are calls. -/
def StartsCalls (choices : List WorkspaceChoice) : Prop :=
  ∀ process program, .start process program ∈ choices → IsWorkspaceCall platform process program

theorem StartsCalls.append {choices choices' : List WorkspaceChoice} (h : StartsCalls choices)
    (h' : StartsCalls choices') : StartsCalls (choices ++ choices') :=
  fun process program hmem ↦ (List.mem_append.mp hmem).elim (h process program) (h' process program)

theorem StartsCalls.cons {process : Nat} {program} {choices : List WorkspaceChoice}
    (hcall : IsWorkspaceCall platform process program) (h : StartsCalls choices) :
    StartsCalls (.start process program :: choices) := by
  intro process' program' hmem
  rcases List.mem_cons.mp hmem with heq | hmem
  · cases heq
    exact hcall
  · exact h process' program' hmem

theorem startsCalls_operationsAt (thread : Nat) (unixSecs : UInt64) (operations : Nat) :
    StartsCalls (operationsAt thread unixSecs operations) := by
  intro process program hmem
  obtain ⟨n, -, heq⟩ := List.mem_map.mp hmem
  cases heq

theorem startsCalls_appendAt (unixSecs : UInt64) (question : String) (operations : Nat) :
    StartsCalls (appendAt unixSecs question operations) :=
  .cons (.append 0 workspaceId _) (startsCalls_operationsAt _ _ _)

theorem startsCalls_twoProcesses : StartsCalls twoProcesses := by
  have hfirst := startsCalls_appendAt 5 "first" 15
  have hsecond : StartsCalls (startAppend 1 "second" :: operationsAt 0 6 8) :=
    .cons (.append 1 workspaceId _) (startsCalls_operationsAt _ _ _)
  have hthird : StartsCalls (startAppend 0 "third" :: operationsAt 1 7 15) :=
    .cons (.append 0 workspaceId _) (startsCalls_operationsAt _ _ _)
  have hdelete := StartsCalls.cons (.delete 1 workspaceId 0) (startsCalls_operationsAt 0 9 3)
  refine (((((hfirst.append hsecond).append hthird).append ?_).append
    (startsCalls_operationsAt 0 8 2)).append hdelete).append (startsCalls_appendAt 10 "fourth" 15)
  intro process program hmem
  cases List.mem_singleton.mp hmem

theorem startsCalls_appendAfterCutOff : StartsCalls appendAfterCutOff := by
  refine (((startsCalls_appendAt _ _ _).append (startsCalls_appendAt _ _ _)).append ?_).append
    (startsCalls_appendAt _ _ _)
  intro process program hmem
  cases List.mem_singleton.mp hmem

end Sample

/-- Two processes with an append that fails and a deletion: the fast path of the one that starts
over confirms its new draft, and so the full walk ends in it. -/
theorem fastPathAgrees_of_run_sample :
    ∃ config, (workspaceSystem Sample.platform).steps
        (isUncontended Sample.platform) ⟨Sample.initial, [], []⟩ Sample.twoProcesses =
          some config ∧
      FastPathAgrees Sample.platform Sample.workspaceId config.state ∧
      ∃ history last, loadCommittedHistory Sample.platform config.state.disk Sample.workspaceId =
        .ok history ∧ history.getLast? = some last ∧
          last.record.body = .draft (Sample.draftAsking "fourth") := by
  have hcheck : ((workspaceSystem Sample.platform).steps (isUncontended Sample.platform)
      ⟨Sample.initial, [], []⟩ Sample.twoProcesses).map
        (fun config ↦ (decide (IsCollisionFree Sample.platform config.log),
          (Sample.confirmed config).map (·.body))) =
            some (true, some (.draft (Sample.draftAsking "fourth"))) := by
    decide +kernel
  obtain ⟨config, hsteps, hfacts⟩ := Option.map_eq_some_iff.mp hcheck
  obtain ⟨hfree, hconfirmed⟩ := Prod.mk.inj hfacts
  have run : (workspaceSystem Sample.platform).Run (IsWorkspaceCall Sample.platform)
      (fun process op signal cluster ↦
        isUncontended Sample.platform process op signal cluster = true) Sample.initial config :=
    System.Run.initial.steps Sample.startsCalls_twoProcesses (fun _ _ _ _ h ↦ h) hsteps
  have hagrees := fastPathAgrees_of_run run (of_decide_eq_true hfree) Sample.workspaceId
  obtain ⟨head, hhead, hbody⟩ := Option.map_eq_some_iff.mp hconfirmed
  obtain ⟨history, last, hload, hlast, -, -, hsame⟩ :=
    hagrees.head 0 _ _ head (Sample.fastPathAppendHead_of_confirmed hhead)
  exact ⟨config, hsteps, hagrees, history, last, hload, hlast, hsame.trans hbody⟩

/-- After an append was cut off behind its revision file, a later one commits a second file with
the same number: the fast path confirms it, the full walk refuses the history. -/
theorem not_fastPathAgrees_of_every_run :
    ¬ ∀ (platform : Platform) (pids : Nat → Nat) (config : Config _ _ _ _),
      (workspaceSystem platform).Run (IsWorkspaceCall platform) (fun _ _ _ _ ↦ True)
        ⟨∅, fun process ↦ .new (pids process)⟩ config →
      IsCollisionFree platform config.log →
      ∀ workspaceId, FastPathAgrees platform workspaceId config.state := by
  intro h
  have hcheck : ((workspaceSystem Sample.platform).steps (fun _ _ _ _ ↦ true)
      ⟨Sample.initial, [], []⟩ Sample.appendAfterCutOff).map Sample.disagrees = some true := by
    decide +kernel
  obtain ⟨config, hsteps, hdisagrees⟩ := Option.map_eq_some_iff.mp hcheck
  have hrun : (workspaceSystem Sample.platform).Run (IsWorkspaceCall Sample.platform)
      (fun _ _ _ _ ↦ True) Sample.initial config :=
    System.Run.initial.steps Sample.startsCalls_appendAfterCutOff (fun _ _ _ _ _ ↦ trivial) hsteps
  simp only [Sample.disagrees, Bool.and_eq_true, decide_eq_true_eq] at hdisagrees
  obtain ⟨⟨hfree, hfast⟩, hload⟩ := hdisagrees
  have hagrees := h Sample.platform (fun _ ↦ 7) config hrun hfree Sample.workspaceId
  obtain ⟨head, hhead⟩ := Option.isSome_iff_exists.mp hfast
  obtain ⟨history, last, hok, -⟩ :=
    hagrees.head 0 _ _ head (Sample.fastPathAppendHead_of_confirmed hhead)
  rw [hok] at hload
  cases hload

end PrivateBallot.GuiCore
