import PrivateBallot.GuiCore.WorkspaceHead
import PrivateBallot.Verifier.Ledger

/-!
# Crash recovery of a workspace

Library `GuiCore`. Runs of `write_workspace_revision` in which every call may fail at any of its
file operations or be cut off between them, and restarts. A call that stops after its revision
file was created and before its commit marker was leaves a file that no later call removes; runs
without such a stop keep the workspace loadable and appendable.
-/

namespace PrivateBallot.GuiCore

open PrivateBallot.Base PrivateBallot.Protocol PrivateBallot.Ballot

/-! ### Runs -/

/-- The operation created a revision file. -/
def createsRevision : Sigma WorkspaceOp.Response → Bool
  | ⟨.createRevision _, response⟩ => Except.toBool (show GuiResult Unit from response)
  | _ => false

/-- The operation created a commit marker. -/
def createsCommit : Sigma WorkspaceOp.Response → Bool
  | ⟨.createCommit _ _, response⟩ => Except.toBool (show GuiResult Unit from response)
  | _ => false

/-- One call of `write_workspace_revision`: the body, what the environment contributes to each of
its operations in turn, and the id of the process that follows if the call is cut off. -/
structure AppendCall where
  body : DurableElectionWorkspaceBodyV1
  signals : List Signal
  nextPid : Nat

namespace AppendCall

variable (platform : Platform) (workspaceId : Text) (call : AppendCall) (world : World)

/-- The operations the call performs. -/
def operations : List (Sigma WorkspaceOp.Response) :=
  (writeWorkspaceRevision platform workspaceId call.body).run.trace (WorkspaceOp.exec platform)
    call.signals world

/-- The world after the call. A call that was cut off took the process with it. -/
def after : World :=
  match (writeWorkspaceRevision platform workspaceId call.body).run.resume
      (WorkspaceOp.exec platform) call.signals world with
  | (some _, after) => after
  | (none, after) => { after with memory := .new call.nextPid }

/-- The call wrote its commit marker. -/
def commits : Bool := (call.operations platform workspaceId world).any createsCommit

/-- The call stopped after its revision file was created and before its commit marker was. -/
def stopsUncommitted : Bool :=
  (call.operations platform workspaceId world).any createsRevision &&
    !call.commits platform workspaceId world

end AppendCall

/-- A body that the encoder and the reader take, within the size limit. -/
def BodyFits (workspaceId : Text) (body : DurableElectionWorkspaceBodyV1) : Prop :=
  body.isReadable = true ∧ ∀ record : DurableElectionWorkspaceV1,
    record.workspaceId = workspaceId → record.body = body →
    (∀ revision digestHex, record.predecessor = .previous revision digestHex →
      digestHexIsCanonical digestHex = true) →
    ∃ payload, encodeWorkspace record = .ok payload ∧
      payload.length ≤ maxWorkspaceRevisionBytesV1

/-- The body may be appended to what is committed: it fits, there is room for one more revision,
and it equals the head's body or may follow it. -/
structure IsAllowed (platform : Platform) (workspaceId : Text) (disk : Disk)
    (body : DurableElectionWorkspaceBodyV1) : Prop where
  fits : BodyFits workspaceId body
  follows : ∀ history, loadCommittedHistory platform disk workspaceId = .ok history →
    history.length < maxWorkspaceRevisionsV1 ∧
      ∀ head, history.getLast? = some head → head.record.body = body ∨
        enforceWorkspaceAppendAllowed head.record.body body = .ok ()

/-- Runs from an empty directory: calls with allowed bodies that meet a further condition, and
restarts. The list holds the bodies whose commit marker was written. -/
inductive WorkspaceRun (platform : Platform) (workspaceId : Text)
    (Permits : AppendCall → World → Prop) : World → List DurableElectionWorkspaceBodyV1 → Prop
  | start (pid : Nat) : WorkspaceRun platform workspaceId Permits ⟨∅, .new pid⟩ []
  | restart {world bodies} (pid : Nat)
      (run : WorkspaceRun platform workspaceId Permits world bodies) :
      WorkspaceRun platform workspaceId Permits { world with memory := .new pid } bodies
  | append {world bodies} (call : AppendCall)
      (run : WorkspaceRun platform workspaceId Permits world bodies)
      (hallowed : IsAllowed platform workspaceId world.disk call.body)
      (hpermits : Permits call world) :
      WorkspaceRun platform workspaceId Permits (call.after platform workspaceId world)
        (bodies ++ if call.commits platform workspaceId world then [call.body] else [])

/-- An uninterrupted call under which no operation fails and whose temporary file name is not
one that was left behind. -/
def IsUndisturbed (workspaceId : Text) (world : World) (signals : Nat → Signal) : Prop :=
  ∀ n, (signals n).succeeds = true ∧
    ∀ revision, tempRevisionFilename revision (signals n).nanos world.memory.pid ∉
      World.revisionFiles world.disk workspaceId

/-- The workspace can be loaded and its last record carries the last committed body; a further
undisturbed call with any allowed body succeeds and is then the loaded head. -/
def IsRecovered (platform : Platform) (workspaceId : Text) (world : World)
    (bodies : List DurableElectionWorkspaceBodyV1) : Prop :=
  (∃ history, loadCommittedHistory platform world.disk workspaceId = .ok history ∧
    history.getLast?.map (·.record.body) = bodies.getLast?) ∧
  ∀ body signals, IsAllowed platform workspaceId world.disk body →
    IsUndisturbed workspaceId world signals →
    ∃ revision after, (writeWorkspaceRevision platform workspaceId body).run.perform
        (WorkspaceOp.exec platform) signals world = (.ok revision, after) ∧
      ∃ head, loadNewestCommittedWorkspace platform after.disk workspaceId = .ok (some head) ∧
        head.revision = revision ∧ head.record.body = body

/-! ### What every operation keeps -/

/-- The world holds this history and no other revision file, within the loader's limits. -/
structure Recoverable (platform : Platform) (workspaceId : Text) (history : List StoredRevision)
    (world : World) : Prop where
  holds : HoldsHistory platform workspaceId world.disk history
  only : ∀ name ∈ World.revisionFiles world.disk workspaceId,
    revisionFileSuffix.isSuffixOf name = true →
      ∃ i s, history[i]? = some s ∧ name = revisionFilename (i + 1) (s.digestHex platform)
  validId : workspaceIdIsValid workspaceId
  length : history.length ≤ maxWorkspaceRevisionsV1
  size : ∀ s ∈ history, s.payload.length ≤ maxWorkspaceRevisionBytesV1
  cache : CacheAgrees platform workspaceId history world.memory.cache

/-- A revision that may come next in the history. -/
structure IsNext (platform : Platform) (workspaceId : Text) (history : List StoredRevision)
    (s : StoredRevision) : Prop where
  decodes : decodeWorkspace s.payload = .ok s.record
  workspaceId : s.record.workspaceId = workspaceId
  revision : s.record.revision = history.length + 1
  predecessor : s.record.predecessor = predecessorAt platform history history.length
  room : history.length < maxWorkspaceRevisionsV1
  size : s.payload.length ≤ maxWorkspaceRevisionBytesV1

/-- The record an append after this history writes, at the given time. -/
def recordAfter (platform : Platform) (workspaceId : Text) (history : List StoredRevision)
    (body : DurableElectionWorkspaceBodyV1) (updatedAt : UInt64) : DurableElectionWorkspaceV1 :=
  ⟨workspaceId, history.length + 1, predecessorAt platform history history.length, some updatedAt,
    body⟩

/-- The body is the head's, or one more revision with it is within what the reader takes: the
number of revisions and the size of each. -/
def WithinLimits (platform : Platform) (workspaceId : Text) (history : List StoredRevision)
    (body : DurableElectionWorkspaceBodyV1) : Prop :=
  history.getLast?.map (·.record.body) ≠ some body →
    history.length < maxWorkspaceRevisionsV1 ∧ ∀ updatedAt payload,
      encodeWorkspace (recordAfter platform workspaceId history body updatedAt) = .ok payload →
        payload.length ≤ maxWorkspaceRevisionBytesV1

/-- What is about to be stored is the next revision of the history. -/
structure PendingRevision.Stores (platform : Platform) (workspaceId : Text)
    (history : List StoredRevision) (s : StoredRevision) (pending : PendingRevision) : Prop where
  workspaceId : pending.record.workspaceId = workspaceId
  revision : pending.record.revision = history.length + 1
  payload : pending.payload = s.payload
  digestHex : pending.digestHex = s.digestHex platform

section Operations

variable {platform : Platform} {workspaceId : Text} {history : List StoredRevision}
  {world world' : World}

theorem Recoverable.isLoadable (h : Recoverable platform workspaceId history world) :
    IsLoadable workspaceId world.disk history := by
  refine ⟨h.validId, h.length, h.size, ?_, ?_⟩
  · exact Nat.le_trans (countP_keys_le h.only) h.length
  · intro hnil
    apply Bool.eq_false_iff.mpr
    intro hany
    obtain ⟨name, hname, hsuffix⟩ := List.any_eq_true.mp hany
    obtain ⟨i, s, hi, -⟩ := h.only name (AList.mem_keys.mpr hname) hsuffix
    rw [hnil] at hi
    cases hi

/-- Operations that create and remove no file keep a recoverable world recoverable. -/
theorem Recoverable.of_files (h : Recoverable platform workspaceId history world)
    (hrevisions : World.revisionFiles world'.disk workspaceId =
      World.revisionFiles world.disk workspaceId)
    (hcommits : World.commitFiles world'.disk workspaceId =
      World.commitFiles world.disk workspaceId)
    (hcache : CacheAgrees platform workspaceId history world'.memory.cache) :
    Recoverable platform workspaceId history world' := by
  refine ⟨h.holds.of_files hrevisions hcommits, ?_, h.validId, h.length, h.size, hcache⟩
  rw [hrevisions]
  exact h.only

/-- So does the creation of a temporary file. -/
theorem Recoverable.createTemporary (h : Recoverable platform workspaceId history world)
    {name bytes : Bytes} {disk : Disk} (hname : revisionFileSuffix.isSuffixOf name = false)
    (hcreate : World.createRevisionFile world.disk workspaceId name bytes = some disk) :
    Recoverable platform workspaceId history { world with disk } := by
  obtain ⟨-, hrevisions, hcommits, -⟩ := World.files_createRevisionFile hcreate
  refine ⟨⟨h.holds.chain, ?_, ?_⟩, ?_, h.validId, h.length, h.size, h.cache⟩
  · rw [hcommits]
    exact h.holds.commits
  · rw [hrevisions]
    exact h.holds.revisions.insert_other hname
  · rw [hrevisions]
    intro n hn hsuffix
    rcases (AList.mem_insert _).mp hn with rfl | hn
    · rw [hname] at hsuffix
      cases hsuffix
    · exact h.only n hn hsuffix

/-- The state between the two creations: besides the history, the file of the next revision. -/
structure Uncommitted (platform : Platform) (workspaceId : Text) (history : List StoredRevision)
    (s : StoredRevision) (world : World) : Prop where
  holds : HoldsHistory platform workspaceId world.disk history
  stored : (World.revisionFiles world.disk workspaceId).lookup
    (revisionFilename (history.length + 1) (s.digestHex platform)) = some s.payload
  only : ∀ name ∈ World.revisionFiles world.disk workspaceId,
    revisionFileSuffix.isSuffixOf name = true →
      name = revisionFilename (history.length + 1) (s.digestHex platform) ∨
        ∃ i t, history[i]? = some t ∧ name = revisionFilename (i + 1) (t.digestHex platform)
  validId : workspaceIdIsValid workspaceId
  size : ∀ t ∈ history, t.payload.length ≤ maxWorkspaceRevisionBytesV1
  cache : CacheAgrees platform workspaceId history world.memory.cache

/-- Creating the file of the next revision. -/
theorem Recoverable.createRevision (h : Recoverable platform workspaceId history world)
    {s : StoredRevision} (hnext : IsNext platform workspaceId history s) {disk : Disk}
    (hcreate : World.createRevisionFile world.disk workspaceId
      (revisionFilename (history.length + 1) (s.digestHex platform)) s.payload = some disk) :
    Uncommitted platform workspaceId history s { world with disk } := by
  obtain ⟨hnew, hrevisions, hcommits, -⟩ := World.files_createRevisionFile hcreate
  have hdigits : history.length + 1 < 10 ^ 10 := by
    have hmax : maxWorkspaceRevisionsV1 < 10 ^ 10 := by decide
    have hroom := hnext.room
    omega
  refine ⟨⟨h.holds.chain, ?_, ?_⟩, ?_, ?_, h.validId, h.size, h.cache⟩
  · rw [hcommits]
    exact h.holds.commits
  · rw [hrevisions]
    exact h.holds.revisions.insert_above (Nat.lt_succ_self _) hdigits
      (digestHexIsCanonical_digestHex platform s) hnew
  · rw [hrevisions, AList.lookup_insert]
  · rw [hrevisions]
    intro n hn hsuffix
    rcases (AList.mem_insert _).mp hn with rfl | hn
    · exact Or.inl rfl
    · exact Or.inr (h.only n hn hsuffix)

/-- The name of the next revision is free. -/
theorem Recoverable.revisionFilename_not_mem (h : Recoverable platform workspaceId history world)
    (hroom : history.length < maxWorkspaceRevisionsV1) (s : StoredRevision) :
    revisionFilename (history.length + 1) (s.digestHex platform) ∉
      World.revisionFiles world.disk workspaceId := by
  intro hmem
  have hmax : maxWorkspaceRevisionsV1 < 10 ^ 10 := by decide
  have hsuffix : revisionFileSuffix.isSuffixOf
      (revisionFilename (history.length + 1) (s.digestHex platform)) = true :=
    isSuffixOf_numberDigestFilename _ _ _
  obtain ⟨i, t, hi, heq⟩ := h.only _ hmem hsuffix
  have hlt : i < history.length := (List.getElem?_eq_some_iff.mp hi).1
  have hnumber := (numberDigestFilename_inj (by omega) (digestHexIsCanonical_digestHex platform s)
    (by omega) (digestHexIsCanonical_digestHex platform t) heq).1
  omega

/-- So is the name of its commit marker. -/
theorem HoldsHistory.commitFilename_not_mem {disk : Disk}
    (h : HoldsHistory platform workspaceId disk history)
    (hroom : history.length < maxWorkspaceRevisionsV1) (s : StoredRevision) :
    commitFilename (history.length + 1) (s.digestHex platform) ∉
      World.commitFiles disk workspaceId := by
  intro hmem
  have hmax : maxWorkspaceRevisionsV1 < 10 ^ 10 := by decide
  have hsuffix : commitFileSuffix.isSuffixOf
      (commitFilename (history.length + 1) (s.digestHex platform)) = true :=
    isSuffixOf_numberDigestFilename _ _ _
  obtain ⟨i, t, hi, heq⟩ := h.commits.only _ hmem hsuffix
  have hlt : i < history.length := (List.getElem?_eq_some_iff.mp hi).1
  have hnumber := (numberDigestFilename_inj (by omega) (digestHexIsCanonical_digestHex platform s)
    (by omega) (digestHexIsCanonical_digestHex platform t) heq).1
  omega

/-- Removing the temporary file between the two creations. -/
theorem Uncommitted.removeTemporary {s : StoredRevision}
    (h : Uncommitted platform workspaceId history s world) {name : Bytes}
    (hname : revisionFileSuffix.isSuffixOf name = false) :
    Uncommitted platform workspaceId history s
      { world with disk := World.removeRevisionFile world.disk workspaceId name } := by
  obtain ⟨hrevisions, hcommits, -⟩ := World.files_removeRevisionFile world.disk workspaceId name
  have hne : revisionFilename (history.length + 1) (s.digestHex platform) ≠ name := by
    rintro rfl
    rw [revisionFilename, isSuffixOf_numberDigestFilename] at hname
    cases hname
  refine ⟨⟨h.holds.chain, ?_, ?_⟩, ?_, ?_, h.validId, h.size, h.cache⟩
  · rw [hcommits]
    exact h.holds.commits
  · rw [hrevisions]
    exact h.holds.revisions.erase_other hname
  · rw [hrevisions, AList.lookup_erase_ne hne]
    exact h.stored
  · rw [hrevisions]
    intro n hn hsuffix
    exact h.only n (AList.mem_erase.mp hn).2 hsuffix

/-- Creating the commit marker makes the next revision part of the history. -/
theorem Uncommitted.createCommit {s : StoredRevision}
    (h : Uncommitted platform workspaceId history s world)
    (hnext : IsNext platform workspaceId history s) {marker : Bytes}
    (hmarker : encodeCommitMarker
      ⟨workspaceId, history.length + 1, s.digestHex platform⟩ = .ok marker) {disk : Disk}
    (hcreate : World.createCommitFile world.disk workspaceId
      (commitFilename (history.length + 1) (s.digestHex platform)) marker = some disk) :
    Recoverable platform workspaceId (history ++ [s]) { world with disk } := by
  obtain ⟨hnew, hcommits, hrevisions, -⟩ := World.files_createCommitFile hcreate
  have hroom := hnext.room
  have hdigits : history.length + 1 < 10 ^ 10 := by
    have hmax : maxWorkspaceRevisionsV1 < 10 ^ 10 := by decide
    omega
  have honly : ∀ digestHex, digestHexIsCanonical digestHex = true →
      revisionFilename (history.length + 1) digestHex ∈
        World.revisionFiles world.disk workspaceId → digestHex = s.digestHex platform := by
    intro digestHex hdigest hmem
    have hsuffix : revisionFileSuffix.isSuffixOf
        (revisionFilename (history.length + 1) digestHex) = true :=
      isSuffixOf_numberDigestFilename _ _ _
    rcases h.only _ hmem hsuffix with heq | ⟨i, t, hi, heq⟩
    · exact (numberDigestFilename_inj hdigits hdigest hdigits
        (digestHexIsCanonical_digestHex platform s) heq).2
    · have hlt : i < history.length := (List.getElem?_eq_some_iff.mp hi).1
      have hnumber := (numberDigestFilename_inj hdigits hdigest (by omega)
        (digestHexIsCanonical_digestHex platform t) heq).1
      omega
  refine ⟨⟨?_, ?_, ?_⟩, ?_, h.validId, ?_, ?_, ?_⟩
  · exact h.holds.chain.concat hnext.decodes hnext.workspaceId hnext.revision hnext.predecessor
  · rw [hcommits]
    exact h.holds.commits.concat hmarker hnew
  · rw [hrevisions]
    exact h.holds.revisions.concat h.stored honly
  · rw [hrevisions]
    intro name hname hsuffix
    rcases h.only name hname hsuffix with rfl | ⟨i, t, hi, rfl⟩
    · exact ⟨history.length, s, List.getElem?_concat_length, rfl⟩
    · exact ⟨i, t, getElem?_concat_of_some hi, rfl⟩
  · rw [List.length_append, List.length_singleton]
    omega
  · intro t ht
    rcases List.mem_append.mp ht with ht | ht
    · exact h.size t ht
    · rw [List.mem_singleton.mp ht]
      exact hnext.size
  · intro entry hentry
    obtain ⟨i, t, hi, hrest⟩ := h.cache entry hentry
    exact ⟨i, t, getElem?_concat_of_some hi, hrest⟩

/-- Remembering the revision just committed puts its body in the cache. -/
theorem Recoverable.rememberHead {s : StoredRevision} {pending : PendingRevision}
    (h : Recoverable platform workspaceId (history ++ [s]) world)
    (hpending : pending.Stores platform workspaceId history s) (input : Signal) :
    Recoverable platform workspaceId (history ++ [s])
      (WorkspaceOp.exec platform (.rememberHead pending s.record.body) input world).2 := by
  refine h.of_files rfl rfl (h.cache.of_lookup ?_)
  intro entry hentry
  rcases WarmHeadBodyCacheV1.lookup_put hentry with ⟨-, rfl⟩ | hold
  · refine Or.inr ⟨s, List.getLast?_concat, ?_, hpending.digestHex, rfl⟩
    rw [List.length_append, List.length_singleton]
    exact hpending.revision
  · exact Or.inl hold

end Operations

/-! ### What a call can leave behind -/

/-- The outcomes of storing the next revision `s`: nothing was stored, or the file alone, or the
whole revision. With `clean` no error is returned. -/
structure StoreOutcome (platform : Platform) (workspaceId : Text) (history : List StoredRevision)
    (s : StoredRevision) (clean : Prop) (performed : List (Sigma WorkspaceOp.Response))
    (result : Option (GuiResult Nat)) (world : World) : Prop where
  unchanged : performed.any createsRevision = false →
    Recoverable platform workspaceId history world
  committed : performed.any createsCommit = true →
    performed.any createsRevision = true ∧
      Recoverable platform workspaceId (history ++ [s]) world
  returned : ∀ revision, result = some (.ok revision) →
    performed.any createsCommit = true ∧ revision = history.length + 1
  succeeds : clean → ∀ e, result ≠ some (.error e)

section Calls

variable {platform : Platform} {workspaceId : Text} {history : List StoredRevision}
  {world : World} {performed : List (Sigma WorkspaceOp.Response)} {J : Signal → Prop}

private theorem outcome_unchanged {s : StoredRevision} {clean : Prop}
    {result : Option (GuiResult Nat)} (h : Recoverable platform workspaceId history world)
    (hcommit : performed.any createsCommit = false)
    (hresult : ∀ revision, result ≠ some (.ok revision))
    (hclean : clean → ∀ e, result ≠ some (.error e)) :
    StoreOutcome platform workspaceId history s clean performed result world := by
  refine ⟨fun _ ↦ h, ?_, ?_, hclean⟩
  · intro h
    rw [hcommit] at h
    cases h
  · intro revision h
    exact absurd h (hresult revision)

private theorem outcome_uncommitted {s : StoredRevision} {clean : Prop}
    {result : Option (GuiResult Nat)} (hrevision : performed.any createsRevision = true)
    (hcommit : performed.any createsCommit = false)
    (hresult : ∀ revision, result ≠ some (.ok revision))
    (hclean : clean → ∀ e, result ≠ some (.error e)) :
    StoreOutcome platform workspaceId history s clean performed result world := by
  refine ⟨?_, ?_, ?_, hclean⟩
  · intro h
    rw [hrevision] at h
    cases h
  · intro h
    rw [hcommit] at h
    cases h
  · intro revision h
    exact absurd h (hresult revision)

private theorem outcome_committed {s : StoredRevision} {clean : Prop}
    {result : Option (GuiResult Nat)} (h : Recoverable platform workspaceId (history ++ [s]) world)
    (hrevision : performed.any createsRevision = true)
    (hcommit : performed.any createsCommit = true)
    (hresult : ∀ revision, result = some (.ok revision) → revision = history.length + 1)
    (hclean : clean → ∀ e, result ≠ some (.error e)) :
    StoreOutcome platform workspaceId history s clean performed result world := by
  refine ⟨?_, fun _ ↦ ⟨hrevision, h⟩, fun revision h ↦ ⟨hcommit, hresult revision h⟩, hclean⟩
  intro h
  rw [hrevision] at h
  cases h

private theorem compute_ok_bind {α β : Type} (a : α) (k : α → WorkspaceProgram β) :
    (WorkspaceProgram.compute (.ok a) >>= k) = k a := rfl

open WorkspaceProgram in
/-- With a payload that decodes to the record, storing it is a straight line of operations. -/
private theorem storePendingRevision_eq {pending : PendingRevision} (temporary : Bytes)
    {decoded : DurableElectionWorkspaceV1} {marker : Bytes}
    (hdecode : decodeWorkspace pending.payload = .ok decoded)
    (hrevision : decoded.revision = pending.record.revision)
    (hid : decoded.workspaceId = pending.record.workspaceId)
    (hmarker : encodeCommitMarker
      ⟨pending.record.workspaceId, pending.record.revision, pending.digestHex⟩ = .ok marker) :
    storePendingRevision pending temporary = (do
      createTemporary pending temporary
      createRevision pending
      removeTemporary pending temporary
      createCommit pending marker
      rememberHead pending decoded.body
      return pending.record.revision) := by
  unfold storePendingRevision
  simp only [hdecode, hmarker, compute_ok_bind, hrevision, hid, ne_eq, not_true_eq_false, or_self,
    if_false]

section Store

variable {pending : PendingRevision} {marker temporary : Bytes} {s : StoredRevision} {clean : Prop}

/-- The commit marker and what the process remembers, from between the two creations on. -/
private theorem createCommit_ensures (h : Uncommitted platform workspaceId history s world)
    (hnext : IsNext platform workspaceId history s)
    (hpending : pending.Stores platform workspaceId history s)
    (hmarker : encodeCommitMarker ⟨workspaceId, history.length + 1, s.digestHex platform⟩ =
      .ok marker)
    (hclean : clean → (∀ signal, J signal → signal.succeeds = true) ∧
      World.HasDirectories world.disk workspaceId)
    (hrevision : performed.any createsRevision = true)
    (hnocommit : performed.any createsCommit = false) :
    (do WorkspaceProgram.createCommit pending marker
        WorkspaceProgram.rememberHead pending s.record.body
        return pending.record.revision : WorkspaceProgram Nat).run.Ensures
      (WorkspaceOp.exec platform) J (StoreOutcome platform workspaceId history s clean)
      performed world := by
  have hname : World.createCommitFile world.disk pending.record.workspaceId
      (commitFilename pending.record.revision pending.digestHex) marker =
        World.createCommitFile world.disk workspaceId
          (commitFilename (history.length + 1) (s.digestHex platform)) marker := by
    rw [hpending.workspaceId, hpending.revision, hpending.digestHex]
  refine ⟨outcome_uncommitted hrevision hnocommit (by simp) (by simp), fun input hinput ↦ ?_⟩
  rcases WorkspaceOp.create_cases input world (World.createCommitFile world.disk
      pending.record.workspaceId (commitFilename pending.record.revision pending.digestHex)
      marker) with ⟨disk, hcreate, hexec⟩ | ⟨hfailed, hexec⟩
  · have hx : WorkspaceOp.exec platform (.createCommit pending marker) input world =
      (.ok (), { world with disk }) := hexec
    rw [hname] at hcreate
    have hafter := h.createCommit hnext hmarker hcreate
    have hcommitted : (performed ++ [(⟨.createCommit pending marker, .ok ()⟩ :
        Sigma WorkspaceOp.Response)]).any createsCommit = true := by
      rw [List.any_append, hnocommit]
      rfl
    have hrevision' : (performed ++ [(⟨.createCommit pending marker, .ok ()⟩ :
        Sigma WorkspaceOp.Response)]).any createsRevision = true := by
      rw [List.any_append, hrevision]
      rfl
    rw [hx]
    refine ⟨outcome_committed hafter hrevision' hcommitted (by simp) (by simp),
      fun input _ ↦ ?_⟩
    apply outcome_committed
    · exact hafter.rememberHead hpending input
    · rw [List.any_append, hrevision']
      rfl
    · rw [List.any_append, hcommitted]
      rfl
    · intro revision hresult
      cases hresult
      exact hpending.revision
    · intro _ e hresult
      cases hresult
  · have hx : WorkspaceOp.exec platform (.createCommit pending marker) input world =
      (.error workspaceIoFailure, world) := hexec
    rw [hx]
    refine outcome_uncommitted ?_ ?_ (by simp) ?_
    · rw [List.any_append, hrevision]
      rfl
    · rw [List.any_append, hnocommit]
      rfl
    · intro hc
      obtain ⟨hsucceeds, hdirectories⟩ := hclean hc
      obtain ⟨disk, hcreate⟩ := World.exists_createCommitFile hdirectories
        (h.holds.commitFilename_not_mem hnext.room s) marker
      rw [← hname, hfailed (hsucceeds input hinput)] at hcreate
      cases hcreate

/-- The revision file and what follows it. -/
private theorem createRevision_ensures (h : Recoverable platform workspaceId history world)
    (hnext : IsNext platform workspaceId history s)
    (hpending : pending.Stores platform workspaceId history s)
    (hmarker : encodeCommitMarker ⟨workspaceId, history.length + 1, s.digestHex platform⟩ =
      .ok marker)
    (htemporary : revisionFileSuffix.isSuffixOf temporary = false)
    (hclean : clean → (∀ signal, J signal → signal.succeeds = true) ∧
      World.HasDirectories world.disk workspaceId)
    (hnorevision : performed.any createsRevision = false)
    (hnocommit : performed.any createsCommit = false) :
    (do WorkspaceProgram.createRevision pending
        WorkspaceProgram.removeTemporary pending temporary
        WorkspaceProgram.createCommit pending marker
        WorkspaceProgram.rememberHead pending s.record.body
        return pending.record.revision : WorkspaceProgram Nat).run.Ensures
      (WorkspaceOp.exec platform) J (StoreOutcome platform workspaceId history s clean)
      performed world := by
  have hname : World.createRevisionFile world.disk pending.record.workspaceId
      (revisionFilename pending.record.revision pending.digestHex) pending.payload =
        World.createRevisionFile world.disk workspaceId
          (revisionFilename (history.length + 1) (s.digestHex platform)) s.payload := by
    rw [hpending.workspaceId, hpending.revision, hpending.digestHex, hpending.payload]
  have hfresh := h.revisionFilename_not_mem hnext.room s
  refine ⟨outcome_unchanged h hnocommit (by simp) (by simp), fun input hinput ↦ ?_⟩
  rcases WorkspaceOp.create_cases input world (World.createRevisionFile world.disk
      pending.record.workspaceId (revisionFilename pending.record.revision pending.digestHex)
      pending.payload) with ⟨disk, hcreate, hexec⟩ | ⟨hfailed, hexec⟩
  · have hx : WorkspaceOp.exec platform (.createRevision pending) input world =
      (.ok (), { world with disk }) := hexec
    rw [hname] at hcreate
    have hafter := h.createRevision hnext hcreate
    have hcreated : (performed ++ [(⟨.createRevision pending, .ok ()⟩ :
        Sigma WorkspaceOp.Response)]).any createsRevision = true := by
      rw [List.any_append, hnorevision]
      rfl
    have hnocommit' : (performed ++ [(⟨.createRevision pending, .ok ()⟩ :
        Sigma WorkspaceOp.Response)]).any createsCommit = false := by
      rw [List.any_append, hnocommit]
      rfl
    have hclean' : clean → (∀ signal, J signal → signal.succeeds = true) ∧
        World.HasDirectories disk workspaceId := by
      intro hc
      obtain ⟨hsucceeds, hdirectories⟩ := hclean hc
      exact ⟨hsucceeds, hdirectories.createRevisionFile hcreate⟩
    rw [hx]
    refine ⟨outcome_uncommitted hcreated hnocommit' (by simp) (by simp), fun input _ ↦ ?_⟩
    have hremoved : WorkspaceOp.exec platform (.removeTemporary pending temporary) input
        { world with disk } = ((), if input.succeeds then
          { world with disk := World.removeRevisionFile disk workspaceId temporary }
          else { world with disk }) := by
      rw [← hpending.workspaceId]
      rfl
    -- the temporary file is removed or stays
    apply createCommit_ensures ?_ hnext hpending hmarker ?_ ?_ ?_
    · dsimp only
      rw [hremoved]
      split
      · exact hafter.removeTemporary htemporary
      · exact hafter
    · intro hc
      obtain ⟨hsucceeds, hdirectories⟩ := hclean' hc
      refine ⟨hsucceeds, ?_⟩
      dsimp only
      rw [hremoved]
      split
      · exact hdirectories.removeRevisionFile temporary
      · exact hdirectories
    · rw [List.any_append, hcreated]
      rfl
    · rw [List.any_append, hnocommit']
      rfl
  · have hx : WorkspaceOp.exec platform (.createRevision pending) input world =
      (.error workspaceIoFailure, world) := hexec
    rw [hx]
    refine outcome_unchanged h ?_ (by simp) ?_
    · rw [List.any_append, hnocommit]
      rfl
    · intro hc
      obtain ⟨hsucceeds, hdirectories⟩ := hclean hc
      obtain ⟨disk, hcreate, -⟩ := World.exists_createRevisionFile hdirectories hfresh s.payload
      rw [← hname, hfailed (hsucceeds input hinput)] at hcreate
      cases hcreate

/-- Storing the next revision, wherever it stops. -/
theorem storePendingRevision_ensures (clean : Prop)
    (h : Recoverable platform workspaceId history world)
    (hnext : IsNext platform workspaceId history s)
    (hpending : pending.Stores platform workspaceId history s)
    (htemporary : revisionFileSuffix.isSuffixOf temporary = false)
    (hclean : clean → (∀ signal, J signal → signal.succeeds = true) ∧
      World.HasDirectories world.disk workspaceId ∧
        temporary ∉ World.revisionFiles world.disk workspaceId)
    (hnorevision : performed.any createsRevision = false)
    (hnocommit : performed.any createsCommit = false) :
    (storePendingRevision pending temporary).run.Ensures (WorkspaceOp.exec platform) J
      (StoreOutcome platform workspaceId history s clean) performed world := by
  have hroom := hnext.room
  have hmax : maxWorkspaceRevisionsV1 < 2 ^ 64 := by decide
  obtain ⟨marker, hmarker, -, -⟩ := exists_encodeCommitMarker h.validId
    (digestHexIsCanonical_digestHex platform s) (show history.length + 1 < 2 ^ 64 by omega)
  rw [storePendingRevision_eq temporary (by rw [hpending.payload, hnext.decodes])
    (by rw [hnext.revision, hpending.revision]) (by rw [hnext.workspaceId, hpending.workspaceId])
    (by rw [hpending.workspaceId, hpending.revision, hpending.digestHex, hmarker])]
  refine ⟨outcome_unchanged h hnocommit (by simp) (by simp), fun input hinput ↦ ?_⟩
  rcases WorkspaceOp.create_cases input world (World.createRevisionFile world.disk
      pending.record.workspaceId temporary pending.payload) with
    ⟨disk, hcreate, hexec⟩ | ⟨hfailed, hexec⟩
  · have hx : WorkspaceOp.exec platform (.createTemporary pending temporary) input world =
      (.ok (), { world with disk }) := hexec
    rw [hpending.workspaceId] at hcreate
    rw [hx]
    apply createRevision_ensures (h.createTemporary htemporary hcreate) hnext hpending hmarker
      htemporary
    · intro hc
      obtain ⟨hsucceeds, hdirectories, -⟩ := hclean hc
      exact ⟨hsucceeds, hdirectories.createRevisionFile hcreate⟩
    · rw [List.any_append, hnorevision]
      rfl
    · rw [List.any_append, hnocommit]
      rfl
  · have hx : WorkspaceOp.exec platform (.createTemporary pending temporary) input world =
      (.error workspaceIoFailure, world) := hexec
    rw [hpending.workspaceId] at hfailed
    rw [hx]
    refine outcome_unchanged h ?_ (by simp) ?_
    · rw [List.any_append, hnocommit]
      rfl
    · intro hc
      obtain ⟨hsucceeds, hdirectories, hnew⟩ := hclean hc
      obtain ⟨disk, hcreate, -⟩ := World.exists_createRevisionFile hdirectories hnew pending.payload
      rw [hfailed (hsucceeds input hinput)] at hcreate
      cases hcreate

end Store

/-- The outcomes of a whole call with the body `body`. -/
structure CallOutcome (platform : Platform) (workspaceId : Text) (history : List StoredRevision)
    (body : DurableElectionWorkspaceBodyV1) (clean : Prop)
    (performed : List (Sigma WorkspaceOp.Response)) (result : Option (GuiResult Nat))
    (world : World) : Prop where
  unchanged : performed.any createsRevision = false →
    Recoverable platform workspaceId history world
  committed : performed.any createsCommit = true → performed.any createsRevision = true ∧
    ∃ s, s.record.body = body ∧ Recoverable platform workspaceId (history ++ [s]) world
  returned : ∀ revision, result = some (.ok revision) →
    (performed.any createsCommit = true ∧ revision = history.length + 1) ∨
      (performed.any createsRevision = false ∧ revision = history.length ∧
        ∃ s, history.getLast? = some s ∧ s.record.body = body)
  succeeds : clean → ∀ e, result ≠ some (.error e)

/-- Resolving the head leaves the process what it is. -/
private theorem pid_loadHeadForAppend (platform : Platform) (disk : Disk) (workspaceId : Text)
    (fastPathReads : Bool) (memory : ProcessMemory) :
    (loadHeadForAppend platform disk workspaceId fastPathReads memory).2.pid = memory.pid := by
  have hwalk : ∀ memory : ProcessMemory,
      (resolveHeadByWalk platform disk workspaceId memory).2.pid = memory.pid := by
    intro memory
    unfold resolveHeadByWalk
    split
    · rfl
    · split <;> rfl
  unfold loadHeadForAppend
  split
  · exact hwalk memory
  · split
    · exact hwalk _
    · split
      · rfl
      · exact hwalk _

section Append

variable {body : DurableElectionWorkspaceBodyV1} {clean : Prop}

private theorem StoreOutcome.toCallOutcome {s : StoredRevision} {result : Option (GuiResult Nat)}
    (h : StoreOutcome platform workspaceId history s clean performed result world)
    (hbody : s.record.body = body) :
    CallOutcome platform workspaceId history body clean performed result world := by
  refine ⟨h.unchanged, ?_, ?_, h.succeeds⟩
  · intro hcommit
    obtain ⟨hrevision, hrecoverable⟩ := h.committed hcommit
    exact ⟨hrevision, s, hbody, hrecoverable⟩
  · intro revision hresult
    exact Or.inl (h.returned revision hresult)

private theorem callOutcome_unchanged {result : Option (GuiResult Nat)}
    (h : Recoverable platform workspaceId history world)
    (hcommit : performed.any createsCommit = false)
    (hresult : ∀ revision, result ≠ some (.ok revision))
    (hclean : clean → ∀ e, result ≠ some (.error e)) :
    CallOutcome platform workspaceId history body clean performed result world := by
  refine ⟨fun _ ↦ h, ?_, ?_, hclean⟩
  · intro h
    rw [hcommit] at h
    cases h
  · intro revision h
    exact absurd h (hresult revision)

/-- Neither the creation of a revision file nor that of a commit marker was performed. -/
private def Quiet (performed : List (Sigma WorkspaceOp.Response)) : Prop :=
  performed.any createsRevision = false ∧ performed.any createsCommit = false

private theorem Quiet.concat (h : Quiet performed) (operation : Sigma WorkspaceOp.Response)
    (hrevision : createsRevision operation = false) (hcommit : createsCommit operation = false) :
    Quiet (performed ++ [operation]) := by
  unfold Quiet at *
  simp [List.any_append, h.1, h.2, hrevision, hcommit]

private theorem isRepresentable_recordAfter (h : Recoverable platform workspaceId history world)
    (hroom : history.length < maxWorkspaceRevisionsV1) (body : DurableElectionWorkspaceBodyV1)
    (updatedAt : UInt64) :
    (recordAfter platform workspaceId history body updatedAt).IsRepresentable ∧
      ∀ revision digestHex,
        predecessorAt platform history history.length = .previous revision digestHex →
          digestHexIsCanonical digestHex = true := by
  have hmax : maxWorkspaceRevisionsV1 + 1 < 2 ^ 64 := by decide
  have hpredecessor : ∀ revision digestHex,
      predecessorAt platform history history.length = .previous revision digestHex →
        revision < 2 ^ 64 ∧ digestHexIsCanonical digestHex = true := by
    intro revision digestHex hprevious
    unfold predecessorAt at hprevious
    split at hprevious
    · cases hprevious
    · next i hi =>
      split at hprevious
      · cases hprevious
        exact ⟨by omega, digestHexIsCanonical_digestHex platform _⟩
      · cases hprevious
  refine ⟨⟨h.validId, ?_, ?_⟩, ?_⟩
  · show history.length + 1 < 2 ^ 64
    omega
  · exact fun revision digestHex hprevious ↦ (hpredecessor revision digestHex hprevious).1
  · exact fun revision digestHex hprevious ↦ (hpredecessor revision digestHex hprevious).2

/-- A payload that decodes is the next revision. -/
private theorem exists_isNext (h : Recoverable platform workspaceId history world)
    (hroom : history.length < maxWorkspaceRevisionsV1) {updatedAt : UInt64} {payload : Bytes}
    {decoded : DurableElectionWorkspaceV1}
    (hpayload : encodeWorkspace (recordAfter platform workspaceId history body updatedAt) =
      .ok payload)
    (hdecode : decodeWorkspace payload = .ok decoded)
    (hsize : payload.length ≤ maxWorkspaceRevisionBytesV1) :
    ∃ s, s.payload = payload ∧ s.record.body = body ∧ IsNext platform workspaceId history s := by
  obtain ⟨-, rfl⟩ := eq_of_decodeWorkspace_encodeWorkspace
    (isRepresentable_recordAfter h hroom body updatedAt).1 hpayload hdecode
  exact ⟨⟨payload, _⟩, rfl, rfl, hdecode, rfl, rfl, rfl, hroom, hsize⟩

/-- A payload that does not decode is refused after the temporary file was created. -/
private theorem storeUnreadable_ensures {pending : PendingRevision} {temporary : Bytes}
    {e : GuiCoreError} (h : Recoverable platform workspaceId history world)
    (hid : pending.record.workspaceId = workspaceId)
    (htemporary : revisionFileSuffix.isSuffixOf temporary = false)
    (hdecode : decodeWorkspace pending.payload = .error e) (hclean : ¬ clean)
    (hquiet : Quiet performed) :
    (storePendingRevision pending temporary).run.Ensures (WorkspaceOp.exec platform) J
      (CallOutcome platform workspaceId history body clean) performed world := by
  have hstep : storePendingRevision pending temporary = (do
      WorkspaceProgram.createTemporary pending temporary
      throw e) := by
    unfold storePendingRevision
    rw [hdecode]
    rfl
  rw [hstep]
  apply Program.Ensures.bindExcept
  refine ⟨callOutcome_unchanged h hquiet.2 (by simp) (by simp), fun input _ ↦ ?_⟩
  have hquiet₁ := hquiet.concat ⟨.createTemporary pending temporary,
    (WorkspaceOp.exec platform (.createTemporary pending temporary) input world).1⟩ rfl rfl
  rcases WorkspaceOp.create_cases input world (World.createRevisionFile world.disk
      pending.record.workspaceId temporary pending.payload) with
    ⟨disk, hcreate, hexec⟩ | ⟨-, hexec⟩
  · have hx : WorkspaceOp.exec platform (.createTemporary pending temporary) input world =
      (.ok (), { world with disk }) := hexec
    rw [hid] at hcreate
    rw [hx] at hquiet₁ ⊢
    exact callOutcome_unchanged (h.createTemporary htemporary hcreate) hquiet₁.2 (by simp)
      fun hc ↦ absurd hc hclean
  · have hx : WorkspaceOp.exec platform (.createTemporary pending temporary) input world =
      (.error workspaceIoFailure, world) := hexec
    rw [hx] at hquiet₁ ⊢
    exact callOutcome_unchanged h hquiet₁.2 (by simp) fun hc ↦ absurd hc hclean

/-- Stamping, encoding, naming and storing the record, wherever it stops. -/
private theorem appendAfter_ensures (h : Recoverable platform workspaceId history world)
    (hroom : history.length < maxWorkspaceRevisionsV1)
    (hsize : ∀ updatedAt payload,
      encodeWorkspace (recordAfter platform workspaceId history body updatedAt) = .ok payload →
        payload.length ≤ maxWorkspaceRevisionBytesV1)
    (hclean : clean → BodyFits workspaceId body ∧ World.HasDirectories world.disk workspaceId ∧
      ∀ signal, J signal → signal.succeeds = true ∧ ∀ revision,
        tempRevisionFilename revision signal.nanos world.memory.pid ∉
          World.revisionFiles world.disk workspaceId)
    (hquiet : Quiet performed) :
    (appendAfter platform workspaceId body history.length
      (predecessorAt platform history history.length)).run.Ensures (WorkspaceOp.exec platform) J
      (CallOutcome platform workspaceId history body clean) performed world := by
  have hmax : maxWorkspaceRevisionsV1 + 1 < 2 ^ 64 := by decide
  have hstuck : clean → ∀ input, J input → ¬ input.succeeds = false := by
    intro hc input hinput hfails
    rw [((hclean hc).2.2 input hinput).1] at hfails
    cases hfails
  unfold appendAfter
  rw [if_neg (by omega)]
  apply Program.Ensures.bindExcept
  refine ⟨callOutcome_unchanged h hquiet.2 (by simp) (by simp), fun clock hclock ↦ ?_⟩
  have hquiet₁ := hquiet.concat ⟨.nowUnixSecs,
    (WorkspaceOp.exec platform .nowUnixSecs clock world).1⟩ rfl rfl
  cases hs : clock.succeeds with
  | false =>
    have hx : WorkspaceOp.exec platform .nowUnixSecs clock world =
        (.error workspaceIoFailure, world) := by
      simp [WorkspaceOp.exec, hs]
    rw [hx] at hquiet₁ ⊢
    exact callOutcome_unchanged h hquiet₁.2 (by simp) fun hc ↦ absurd hs (hstuck hc clock hclock)
  | true =>
    have hx : WorkspaceOp.exec platform .nowUnixSecs clock world = (.ok clock.unixSecs, world) := by
      simp [WorkspaceOp.exec, hs]
    obtain ⟨hrepresentable, hcanonical⟩ := isRepresentable_recordAfter h hroom body clock.unixSecs
    rw [hx] at hquiet₁ ⊢
    simp only [Program.Ensures, Program.ContinuesExcept]
    cases hpayload : encodeWorkspace (recordAfter platform workspaceId history body
      clock.unixSecs) with
    | error e =>
      simp only [recordAfter] at hpayload
      rw [hpayload]
      refine callOutcome_unchanged h hquiet₁.2 (by simp) fun hc ↦ ?_
      obtain ⟨payload, hencodes, -⟩ := (hclean hc).1.2
        (recordAfter platform workspaceId history body clock.unixSecs) rfl rfl hcanonical
      simp only [recordAfter] at hencodes
      rw [hpayload] at hencodes
      cases hencodes
    | ok payload =>
    have hwithin := hsize _ _ hpayload
    have hfits : clean → ∃ decoded, decodeWorkspace payload = .ok decoded := fun hc ↦
      ⟨_, decodeWorkspace_encodeWorkspace hrepresentable (hclean hc).1.1 hpayload⟩
    have hnext : ∀ decoded, decodeWorkspace payload = .ok decoded → ∃ s, s.payload = payload ∧
        s.record.body = body ∧ IsNext platform workspaceId history s :=
      fun _ hdecode ↦ exists_isNext h hroom hpayload hdecode hwithin
    simp only [recordAfter] at hpayload
    rw [hpayload, compute_ok_bind]
    refine ⟨callOutcome_unchanged h hquiet₁.2 (by simp) (by simp), fun stamp hstamp ↦ ?_⟩
    have hquiet₂ := hquiet₁.concat ⟨.nowNanos,
      (WorkspaceOp.exec platform .nowNanos stamp world).1⟩ rfl rfl
    cases hn : stamp.succeeds with
    | false =>
      have hx : WorkspaceOp.exec platform .nowNanos stamp world =
          (.error workspaceIoFailure, world) := by
        simp [WorkspaceOp.exec, hn]
      dsimp only
      rw [hx] at hquiet₂ ⊢
      exact callOutcome_unchanged h hquiet₂.2 (by simp) fun hc ↦ absurd hn (hstuck hc stamp hstamp)
    | true =>
      have hx : WorkspaceOp.exec platform .nowNanos stamp world = (.ok stamp.nanos, world) := by
        simp [WorkspaceOp.exec, hn]
      dsimp only
      rw [hx] at hquiet₂ ⊢
      refine ⟨callOutcome_unchanged h hquiet₂.2 (by simp) (by simp), fun input _ ↦ ?_⟩
      have hquiet₃ := hquiet₂.concat ⟨.processId, world.memory.pid⟩ rfl rfl
      cases hdecode : decodeWorkspace payload with
      | error e =>
        refine storeUnreadable_ensures h rfl (isSuffixOf_tempRevisionFilename _ _ _) hdecode ?_
          hquiet₃
        intro hc
        obtain ⟨decoded, hdecoded⟩ := hfits hc
        rw [hdecode] at hdecoded
        cases hdecoded
      | ok decoded =>
        obtain ⟨s, rfl, hbody, hnext⟩ := hnext decoded hdecode
        refine (storePendingRevision_ensures clean h hnext ⟨rfl, rfl, rfl, rfl⟩
          (isSuffixOf_tempRevisionFilename _ _ _) ?_ hquiet₃.1 hquiet₃.2).mono ?_
        · intro hc
          obtain ⟨-, hdirectories, hsignals⟩ := hclean hc
          exact ⟨fun signal hsignal ↦ (hsignals signal hsignal).1, hdirectories,
            (hsignals stamp hstamp).2 _⟩
        · intro performed result world houtcome
          exact houtcome.toCallOutcome hbody

/-- The body may come after the history. -/
private def MayFollow (history : List StoredRevision) (body : DurableElectionWorkspaceBodyV1) :
    Prop :=
  ∀ s, history.getLast? = some s → s.record.body = body ∨
    enforceWorkspaceAppendAllowed s.record.body body = .ok ()

private theorem Recoverable.mayFollow (h : Recoverable platform workspaceId history world)
    (hallowed : IsAllowed platform workspaceId world.disk body) :
    history.length < maxWorkspaceRevisionsV1 ∧ MayFollow history body := by
  obtain ⟨hroom, hfollows⟩ := hallowed.follows _
    (h.holds.loadCommittedHistory_eq_ok h.isLoadable)
  refine ⟨by simpa [committedRevisions] using hroom, ?_⟩
  intro s hlast
  exact hfollows ⟨history.length, s.digestHex platform, s.record⟩
    (by rw [getLast?_committedRevisions, hlast]; rfl)

/-- The critical section, wherever it stops. -/
private theorem appendToHead_ensures (h : Recoverable platform workspaceId history world)
    (hlimits : WithinLimits platform workspaceId history body)
    (hclean : clean → (BodyFits workspaceId body ∧ MayFollow history body) ∧
      World.HasDirectories world.disk workspaceId ∧ ∀ signal, J signal →
        signal.succeeds = true ∧ ∀ revision, tempRevisionFilename revision signal.nanos
          world.memory.pid ∉ World.revisionFiles world.disk workspaceId)
    (hquiet : Quiet performed) :
    (appendToHead platform workspaceId body).run.Ensures (WorkspaceOp.exec platform) J
      (CallOutcome platform workspaceId history body clean) performed world := by
  apply Program.Ensures.bindExcept
  refine ⟨callOutcome_unchanged h hquiet.2 (by simp) (by simp), fun input hinput ↦ ?_⟩
  have hquiet₁ := hquiet.concat ⟨.loadHeadForAppend workspaceId,
    (WorkspaceOp.exec platform (.loadHeadForAppend workspaceId) input world).1⟩ rfl rfl
  generalize performed ++ [(⟨.loadHeadForAppend workspaceId,
    (WorkspaceOp.exec platform (.loadHeadForAppend workspaceId) input world).1⟩ :
      Sigma WorkspaceOp.Response)] = performed₁ at hquiet₁ ⊢
  cases hs : input.succeeds with
  | false =>
    have hx : WorkspaceOp.exec platform (.loadHeadForAppend workspaceId) input world =
        (.error workspaceIoFailure,
          { world with memory := world.memory.clearTrustedAppendHead workspaceId }) := by
      simp [WorkspaceOp.exec, hs]
    rw [hx]
    refine callOutcome_unchanged ?_ hquiet₁.2 (by simp) ?_
    · exact h.of_files rfl rfl (h.cache.remove workspaceId)
    · intro hc
      rw [((hclean hc).2.2 input hinput).1] at hs
      cases hs
  | true =>
    obtain ⟨hhead, hcache⟩ := h.holds.loadHeadForAppend_spec h.isLoadable h.cache
      input.fastPathReads
    have hpid := pid_loadHeadForAppend platform world.disk workspaceId input.fastPathReads
      world.memory
    have hx : WorkspaceOp.exec platform (.loadHeadForAppend workspaceId) input world =
        (.ok (appendHeadOf platform history), { world with
          memory := (loadHeadForAppend platform world.disk workspaceId input.fastPathReads
            world.memory).2 }) := by
      simp [WorkspaceOp.exec, hs, ← hhead]
    rw [hx]
    generalize (loadHeadForAppend platform world.disk workspaceId input.fastPathReads
      world.memory).2 = memory at hcache hpid
    have hafter : Recoverable platform workspaceId history { world with memory } :=
      h.of_files rfl rfl hcache
    have hclean' : clean → BodyFits workspaceId body ∧
        World.HasDirectories world.disk workspaceId ∧ ∀ signal, J signal →
          signal.succeeds = true ∧ ∀ revision, tempRevisionFilename revision signal.nanos
            memory.pid ∉ World.revisionFiles world.disk workspaceId := by
      rw [hpid]
      exact fun hc ↦ ⟨(hclean hc).1.1, (hclean hc).2⟩
    have happend : history.getLast?.map (·.record.body) ≠ some body →
        (appendAfter platform workspaceId body history.length
          (predecessorAt platform history history.length)).run.Ensures (WorkspaceOp.exec platform)
          J (CallOutcome platform workspaceId history body clean) performed₁
          { world with memory } := by
      intro hnew
      obtain ⟨hroom, hsize⟩ := hlimits hnew
      exact appendAfter_ensures hafter hroom hsize hclean' hquiet₁
    simp only [Program.Ensures, Program.ContinuesExcept]
    rcases List.eq_nil_or_concat' history with rfl | ⟨init, s, rfl⟩
    · exact happend (by simp)
    · have hlast : (init ++ [s]).getLast? = some s := List.getLast?_concat
      have hpredecessor : predecessorAt platform (init ++ [s]) (init ++ [s]).length =
          .previous (init ++ [s]).length (s.digestHex platform) := by
        rw [List.length_append, List.length_singleton, predecessorAt,
          List.getElem?_concat_length]
      rw [hpredecessor] at happend
      simp only [appendHeadOf, hlast, Option.map_some]
      by_cases hbody : s.record.body = body
      · rw [if_pos hbody]
        refine ⟨fun _ ↦ hafter, ?_, ?_, ?_⟩
        · intro hcommit
          rw [hquiet₁.2] at hcommit
          cases hcommit
        · intro revision hresult
          cases hresult
          exact Or.inr ⟨hquiet₁.1, rfl, s, hlast, hbody⟩
        · intro _ e hresult
          cases hresult
      · rw [if_neg hbody]
        cases hallowed : enforceWorkspaceAppendAllowed s.record.body body with
        | error e =>
          refine callOutcome_unchanged hafter hquiet₁.2 (by simp) fun hc ↦ ?_
          rcases (hclean hc).1.2 s hlast with hsame | hmay
          · exact absurd hsame hbody
          · rw [hallowed] at hmay
            cases hmay
        | ok u =>
          rw [compute_ok_bind]
          apply happend
          rw [hlast]
          simpa using hbody

/-- Results and worlds that differ from a call's only in what no outcome speaks about. -/
private theorem CallOutcome.of_quiet {result result' : Option (GuiResult Nat)} {world' : World}
    {performed' : List (Sigma WorkspaceOp.Response)}
    (h : CallOutcome platform workspaceId history body clean performed result world)
    (hrevision : performed'.any createsRevision = performed.any createsRevision)
    (hcommit : performed'.any createsCommit = performed.any createsCommit)
    (hresult : result' = none ∨ result' = result) (hdisk : world'.disk = world.disk)
    (hcache : world'.memory.cache = world.memory.cache) :
    CallOutcome platform workspaceId history body clean performed' result' world' := by
  have hkeep : ∀ history, Recoverable platform workspaceId history world →
      Recoverable platform workspaceId history world' := by
    intro history hrecoverable
    refine hrecoverable.of_files (by rw [hdisk]) (by rw [hdisk]) ?_
    rw [hcache]
    exact hrecoverable.cache
  refine ⟨?_, ?_, ?_, ?_⟩
  · intro hnone
    rw [hrevision] at hnone
    exact hkeep _ (h.unchanged hnone)
  · intro hsome
    rw [hcommit] at hsome
    obtain ⟨hcreated, s, hbody, hrecoverable⟩ := h.committed hsome
    rw [hrevision]
    exact ⟨hcreated, s, hbody, hkeep _ hrecoverable⟩
  · rw [hrevision, hcommit]
    rcases hresult with rfl | rfl
    · intro revision hnone
      cases hnone
    · exact h.returned
  · rcases hresult with rfl | rfl
    · simp
    · exact h.succeeds

/-- Taking and releasing the append lock around the critical section. -/
private theorem withAppendLock_ensures (h : Recoverable platform workspaceId history world)
    (hlimits : WithinLimits platform workspaceId history body)
    (hclean : clean → (BodyFits workspaceId body ∧ MayFollow history body) ∧
      World.HasDirectories world.disk workspaceId ∧ ∀ signal, J signal →
        signal.succeeds = true ∧ ∀ revision, tempRevisionFilename revision signal.nanos
          world.memory.pid ∉ World.revisionFiles world.disk workspaceId)
    (hquiet : Quiet performed) :
    (withAppendLock workspaceId (appendToHead platform workspaceId body)).run.Ensures
      (WorkspaceOp.exec platform) J (CallOutcome platform workspaceId history body clean)
      performed world := by
  refine ⟨callOutcome_unchanged h hquiet.2 (by simp) (by simp), fun input hinput ↦ ?_⟩
  have hlocked : Recoverable platform workspaceId history
      (WorkspaceOp.exec platform (.acquireAppendLock workspaceId) input world).2 :=
    h.of_files rfl rfl h.cache
  apply Program.Ensures.bind (p := (appendToHead platform workspaceId body).run)
  apply (appendToHead_ensures hlocked hlimits hclean
    (hquiet.concat ⟨.acquireAppendLock workspaceId, ()⟩ rfl rfl)).mono
  intro performed result world houtcome
  cases result with
  | none => exact houtcome
  | some result =>
    refine ⟨houtcome.of_quiet rfl rfl (Or.inl rfl) rfl rfl, fun _ _ ↦ ?_⟩
    refine houtcome.of_quiet ?_ ?_ (Or.inr rfl) rfl rfl
    · simp [List.any_append, createsRevision]
    · simp [List.any_append, createsCommit]

/-- Creating one missing directory. -/
private theorem ensureDirectory_ensures {place : WorkspacePlace}
    {Q : List (Sigma WorkspaceOp.Response) → Option (GuiResult Unit) → World → Prop}
    (hclean : clean → ∀ signal, J signal → signal.succeeds = true) (hquiet : Quiet performed)
    (hcut : ∀ performed, Quiet performed → Q performed none world)
    (hfail : ∀ performed e, Quiet performed → ¬ clean → Q performed (some (.error e)) world)
    (hdone : ∀ performed, Quiet performed → Q performed (some (.ok ()))
      { world with disk := World.ensureDirectory world.disk workspaceId place }) :
    (WorkspaceProgram.ensureDirectory workspaceId place).run.Ensures (WorkspaceOp.exec platform) J
      Q performed world := by
  refine ⟨hcut performed hquiet, fun input hinput ↦ ?_⟩
  have hquiet₁ := hquiet.concat ⟨.ensureDirectory workspaceId place,
    (WorkspaceOp.exec platform (.ensureDirectory workspaceId place) input world).1⟩ rfl rfl
  cases hs : input.succeeds with
  | true =>
    have hx : WorkspaceOp.exec platform (.ensureDirectory workspaceId place) input world =
        (.ok (), { world with
          disk := World.ensureDirectory world.disk workspaceId place }) := by
      simp [WorkspaceOp.exec, hs]
    rw [hx] at hquiet₁ ⊢
    exact hdone _ hquiet₁
  | false =>
    have hx : WorkspaceOp.exec platform (.ensureDirectory workspaceId place) input world =
        (.error workspaceIoFailure, world) := by
      simp [WorkspaceOp.exec, hs]
    rw [hx] at hquiet₁ ⊢
    refine hfail _ _ hquiet₁ ?_
    intro hc
    rw [hclean hc input hinput] at hs
    cases hs

/-- A whole call, wherever it stops. -/
theorem writeWorkspaceRevision_ensures (clean : Prop)
    (h : Recoverable platform workspaceId history world)
    (hlimits : WithinLimits platform workspaceId history body)
    (hclean : clean → IsAllowed platform workspaceId world.disk body ∧ ∀ signal, J signal →
      signal.succeeds = true ∧ ∀ revision,
        tempRevisionFilename revision signal.nanos world.memory.pid ∉
          World.revisionFiles world.disk workspaceId) :
    (writeWorkspaceRevision platform workspaceId body).run.Ensures (WorkspaceOp.exec platform) J
      (CallOutcome platform workspaceId history body clean) [] world := by
  have hvalid : validateWorkspaceIdV1 workspaceId = .ok () := by
    rw [validateWorkspaceIdV1, if_pos h.validId]
  have hsucceeds : clean → ∀ signal, J signal → signal.succeeds = true :=
    fun hc signal hsignal ↦ ((hclean hc).2 signal hsignal).1
  have hstep : ∀ {world : World} (place : WorkspacePlace),
      Recoverable platform workspaceId history world → Recoverable platform workspaceId history
        { world with disk := World.ensureDirectory world.disk workspaceId place } := by
    intro world place hworld
    obtain ⟨hrevisions, hcommits⟩ :=
      World.files_ensureDirectory world.disk workspaceId workspaceId place
    exact hworld.of_files hrevisions hcommits hworld.cache
  have hstop : ∀ {world : World} (performed : List (Sigma WorkspaceOp.Response)) result,
      Recoverable platform workspaceId history world → Quiet performed →
      (∀ revision, result ≠ some (.ok revision)) → (clean → ∀ e, result ≠ some (.error e)) →
        CallOutcome platform workspaceId history body clean performed result world :=
    fun performed result hworld hquiet ↦ callOutcome_unchanged hworld hquiet.2
  unfold writeWorkspaceRevision ensureWorkspaceDirs
  rw [hvalid, compute_ok_bind]
  apply Program.Ensures.bindExcept
  apply Program.Ensures.bindExcept
  have h₁ := hstep .workspace h
  apply ensureDirectory_ensures hsucceeds ⟨rfl, rfl⟩
  · intro performed hquiet
    exact hstop performed none h hquiet (by simp) (by simp)
  · intro performed e hquiet hc
    exact hstop performed (some (.error e)) h hquiet (by simp) (fun h ↦ absurd h hc)
  intro performed hquiet
  apply Program.Ensures.bindExcept
  have h₂ := hstep .revisions h₁
  apply ensureDirectory_ensures hsucceeds hquiet
  · intro performed hquiet
    exact hstop performed none h₁ hquiet (by simp) (by simp)
  · intro performed e hquiet hc
    exact hstop performed (some (.error e)) h₁ hquiet (by simp) (fun h ↦ absurd h hc)
  intro performed hquiet
  have h₃ := hstep .commits h₂
  apply ensureDirectory_ensures hsucceeds hquiet
  · intro performed hquiet
    exact hstop performed none h₂ hquiet (by simp) (by simp)
  · intro performed e hquiet hc
    exact hstop performed (some (.error e)) h₂ hquiet (by simp) (fun h ↦ absurd h hc)
  intro performed hquiet
  apply withAppendLock_ensures h₃ hlimits ?_ hquiet
  intro hc
  obtain ⟨hallowed, hsignals⟩ := hclean hc
  refine ⟨⟨hallowed.fits, (h.mayFollow hallowed).2⟩, World.hasDirectories_ensureDirectory _ _, ?_⟩
  intro signal hsignal
  simp only [World.files_ensureDirectory]
  exact hsignals signal hsignal

end Append

end Calls

/-! ### Runs without a stop between the two creations -/

section Runs

variable {platform : Platform} {workspaceId : Text} {history : List StoredRevision}
  {world : World} {bodies : List DurableElectionWorkspaceBodyV1}

/-- A restart leaves nothing in the cache that could disagree. -/
theorem Recoverable.restart (h : Recoverable platform workspaceId history world) (pid : Nat) :
    Recoverable platform workspaceId history { world with memory := .new pid } := by
  refine h.of_files rfl rfl ?_
  intro entry hentry
  cases hentry

theorem recoverable_start (hid : workspaceIdIsValid workspaceId) (pid : Nat) :
    Recoverable platform workspaceId [] ⟨∅, .new pid⟩ := by
  refine ⟨holdsHistory_nil platform rfl, ?_, hid, Nat.zero_le _, ?_, ?_⟩
  · intro name hname
    exact absurd hname (AList.notMem_empty name)
  · intro s hs
    cases hs
  · intro entry hentry
    cases hentry

/-- An allowed body is within the reader's limits. -/
theorem Recoverable.withinLimits (h : Recoverable platform workspaceId history world)
    {body : DurableElectionWorkspaceBodyV1}
    (hallowed : IsAllowed platform workspaceId world.disk body) :
    WithinLimits platform workspaceId history body := by
  intro _
  obtain ⟨hroom, -⟩ := h.mayFollow hallowed
  refine ⟨hroom, ?_⟩
  intro updatedAt payload hpayload
  obtain ⟨payload', hpayload', hsize⟩ := hallowed.fits.2
    (recordAfter platform workspaceId history body updatedAt) rfl rfl
    (isRepresentable_recordAfter h hroom body updatedAt).2
  rw [hpayload] at hpayload'
  cases hpayload'
  exact hsize

/-- One call: what it leaves is recoverable, with the body at the end if it was committed. -/
theorem AppendCall.recoverable_after {call : AppendCall}
    (h : Recoverable platform workspaceId history world)
    (hallowed : IsAllowed platform workspaceId world.disk call.body)
    (hstop : call.stopsUncommitted platform workspaceId world = false) :
    ∃ history', Recoverable platform workspaceId history' (call.after platform workspaceId world) ∧
      history'.map (·.record.body) = history.map (·.record.body) ++
        if call.commits platform workspaceId world then [call.body] else [] := by
  have houtcome := (writeWorkspaceRevision_ensures (J := fun _ ↦ True) False h
    (h.withinLimits hallowed) (fun hc ↦ hc.elim)).resume call.signals (fun _ _ ↦ trivial)
  rw [List.nil_append] at houtcome
  have hafter : ∀ history', Recoverable platform workspaceId history'
      ((writeWorkspaceRevision platform workspaceId call.body).run.resume
        (WorkspaceOp.exec platform) call.signals world).2 →
      Recoverable platform workspaceId history' (call.after platform workspaceId world) := by
    intro history' hrecoverable
    unfold AppendCall.after
    split
    · next hresume =>
      rw [hresume] at hrecoverable
      exact hrecoverable
    · next hresume =>
      rw [hresume] at hrecoverable
      exact hrecoverable.restart call.nextPid
  cases hcommits : call.commits platform workspaceId world with
  | true =>
    obtain ⟨-, s, hbody, hrecoverable⟩ := houtcome.committed hcommits
    refine ⟨history ++ [s], hafter _ hrecoverable, ?_⟩
    rw [List.map_append, List.map_singleton, hbody, if_pos rfl]
  | false =>
    rw [AppendCall.stopsUncommitted, hcommits, Bool.not_false, Bool.and_true] at hstop
    refine ⟨history, hafter _ (houtcome.unchanged hstop), ?_⟩
    rw [if_neg Bool.false_ne_true, List.append_nil]

/-- Every world of a run without a stop between the two creations is recoverable. -/
theorem recoverable_of_run (hid : workspaceIdIsValid workspaceId)
    (run : WorkspaceRun platform workspaceId
      (fun call world ↦ call.stopsUncommitted platform workspaceId world = false) world bodies) :
    ∃ history, Recoverable platform workspaceId history world ∧
      history.map (·.record.body) = bodies := by
  induction run with
  | start pid => exact ⟨[], recoverable_start hid pid, rfl⟩
  | restart pid run ih =>
    obtain ⟨history, h, hbodies⟩ := ih
    exact ⟨history, h.restart pid, hbodies⟩
  | append call run hallowed hpermits ih =>
    obtain ⟨history, h, rfl⟩ := ih
    exact AppendCall.recoverable_after h hallowed hpermits

theorem Recoverable.loadNewestCommittedWorkspace_eq_ok
    (h : Recoverable platform workspaceId history world) {s : StoredRevision}
    (hlast : history.getLast? = some s) :
    loadNewestCommittedWorkspace platform world.disk workspaceId =
      .ok (some ⟨history.length, s.digestHex platform, s.record⟩) := by
  rw [loadNewestCommittedWorkspace, h.holds.loadCommittedHistory_eq_ok h.isLoadable]
  simp [bind, Except.bind, pure, Except.pure, getLast?_committedRevisions, hlast]

/-- From a recoverable world the history loads and an undisturbed call succeeds. -/
theorem Recoverable.isRecovered (h : Recoverable platform workspaceId history world) :
    IsRecovered platform workspaceId world (history.map (·.record.body)) := by
  refine ⟨⟨_, h.holds.loadCommittedHistory_eq_ok h.isLoadable, ?_⟩, ?_⟩
  · rw [getLast?_committedRevisions, List.getLast?_map, Option.map_map]
    rfl
  · intro body signals hallowed hundisturbed
    obtain ⟨trace, houtcome⟩ := (writeWorkspaceRevision_ensures
      (J := fun signal ↦ signal.succeeds = true ∧ ∀ revision,
        tempRevisionFilename revision signal.nanos world.memory.pid ∉
          World.revisionFiles world.disk workspaceId)
      True h (h.withinLimits hallowed) (fun _ ↦ ⟨hallowed, fun _ hsignal ↦ hsignal⟩)).perform
      signals hundisturbed
    generalize (writeWorkspaceRevision platform workspaceId body).run.perform
      (WorkspaceOp.exec platform) signals world = result at houtcome
    obtain ⟨outcome, after⟩ := result
    cases outcome with
    | error e => exact absurd rfl (houtcome.succeeds trivial e)
    | ok revision =>
      refine ⟨revision, after, rfl, ?_⟩
      rcases houtcome.returned revision rfl with
        ⟨hcommitted, rfl⟩ | ⟨hnone, rfl, s, hlast, rfl⟩
      · obtain ⟨-, s, rfl, hafter⟩ := houtcome.committed hcommitted
        exact ⟨_, hafter.loadNewestCommittedWorkspace_eq_ok List.getLast?_concat,
          by simp, rfl⟩
      · exact ⟨_, (houtcome.unchanged hnone).loadNewestCommittedWorkspace_eq_ok hlast, rfl, rfl⟩

/-- Every workspace reached by calls of which none stops between the creation of its revision
file and that of its commit marker can be loaded and appended to. -/
theorem isRecovered_of_run (hid : workspaceIdIsValid workspaceId)
    (run : WorkspaceRun platform workspaceId
      (fun call world ↦ call.stopsUncommitted platform workspaceId world = false) world bodies) :
    IsRecovered platform workspaceId world bodies := by
  obtain ⟨history, h, rfl⟩ := recoverable_of_run hid run
  exact h.isRecovered

end Runs

/-! ### A stop between the two creations -/

namespace Sample

def platform : Platform := ⟨Verifier.Sample.provider, id, fun _ ↦ List.Perm.refl _⟩

def workspaceId : Text := .lit "w"

/-- The snapshot of a draft nothing was entered in. -/
def draft : GuiElectionDraftSnapshotV1 where
  electionId := none
  proposalQuestion := none
  governanceSourceRevision := none
  approvalMin := none
  approvalMax := none
  allowAbstention := false
  voters := []
  options := []
  presentation := .ballotMeasure
  governanceDocumentBytes := none

def signal (nanos : Nat) : Signal := ⟨true, true, 5, nanos, ⟨none, none⟩⟩

/-- The first call, cut off after this many operations. -/
def firstCall (operations : Nat) : AppendCall :=
  ⟨.draft draft, (List.range operations).map signal, 8⟩

/-- The same draft with abstention allowed. -/
def amendedDraft : GuiElectionDraftSnapshotV1 := { draft with allowAbstention := true }

theorem bodyFits_draft (allows : Bool) :
    BodyFits workspaceId (.draft { draft with allowAbstention := allows }) := by
  refine ⟨rfl, ?_⟩
  intro record hid hbody hpredecessor
  have hpresentation : (GuiBallotPresentationType.asStr .ballotMeasure).toBytes.length ≤
      maxPresentationBytes := by decide +kernel
  have hemits : Emits (encodeBody (.draft { draft with allowAbstention := allows })) _ :=
    (emits_bytes [kindDraft]).bind <| (emits_bytes [0]).bind <| (emits_bytes [0]).bind <|
      (emits_bytes [0]).bind <| (emits_bytes [0]).bind <| (emits_bytes [0]).bind <|
      (emits_bytes [if allows then 1 else 0]).bind <|
      (emits_lenBytes _ hpresentation (by decide)).bind <|
      (emits_vecOfBytes [] (by decide) (by decide) (by simp) (by decide)).bind <|
      (emits_u32OfUsize (Nat.two_pow_pos 32)).bind <|
      (Emits.forM (f := fun _ ↦ []) [] (by simp)).bind <|
      emits_bytes [0]
  rw [← hbody] at hemits
  obtain ⟨payload, hpayload, -, hsize⟩ := exists_encodeWorkspace (by rw [hid]; decide)
    hpredecessor hemits
  refine ⟨payload, hpayload, Nat.le_trans hsize ?_⟩
  cases allows with
  | false => decide +kernel
  | true => decide +kernel

/-- A draft may be appended where nothing is committed. -/
theorem isAllowed_of_empty {disk : Disk}
    (hempty : loadCommittedHistory platform disk workspaceId = .ok []) :
    IsAllowed platform workspaceId disk (.draft draft) := by
  refine ⟨bodyFits_draft false, ?_⟩
  intro history hload
  rw [hempty] at hload
  cases hload
  exact ⟨by decide, by simp⟩

theorem isAllowed_draft : IsAllowed platform workspaceId ∅ (.draft draft) := isAllowed_of_empty rfl

/-- The amended draft may follow the first. -/
theorem isAllowed_amended {disk : Disk}
    (hload : (loadCommittedHistory platform disk workspaceId).map (·.map (·.record.body)) =
      .ok [.draft draft]) : IsAllowed platform workspaceId disk (.draft amendedDraft) := by
  refine ⟨bodyFits_draft true, ?_⟩
  intro history hhistory
  rw [hhistory] at hload
  have hbodies : history.map (·.record.body) = [.draft draft] := Except.ok.inj hload
  obtain ⟨head, rfl, hbody⟩ := List.map_eq_singleton_iff.mp hbodies
  constructor
  · show 1 < maxWorkspaceRevisionsV1
    decide
  · intro last hlast
    have hsame : head = last := Option.some.inj hlast
    right
    rw [← hsame, hbody]
    rfl

/-- The world after the first call was cut off before its revision file and the process was started
again. -/
def restarted : World :=
  { (firstCall 9).after platform workspaceId ⟨∅, .new 7⟩ with memory := .new 9 }

/-- The world after the call was made again. -/
def appended : World := (firstCall 14).after platform workspaceId restarted

/-- The call that commits the amended draft. -/
def amendingCall : AppendCall := ⟨.draft amendedDraft, (List.range 14).map signal, 10⟩

/-- What the calls of the run do, in one evaluation. -/
theorem evaluatedRun :
    ((firstCall 9).stopsUncommitted platform workspaceId ⟨∅, .new 7⟩ = false ∧
      (firstCall 9).commits platform workspaceId ⟨∅, .new 7⟩ = false ∧
      (World.revisionFiles restarted.disk workspaceId).keys.length = 1) ∧
    (loadCommittedHistory platform restarted.disk workspaceId = .ok [] ∧
      (firstCall 14).stopsUncommitted platform workspaceId restarted = false ∧
      (firstCall 14).commits platform workspaceId restarted = true) ∧
    (loadCommittedHistory platform appended.disk workspaceId).map (·.map (·.record.body)) =
        .ok [.draft draft] ∧
      amendingCall.stopsUncommitted platform workspaceId appended = false ∧
      amendingCall.commits platform workspaceId appended = true := by
  decide +kernel

end Sample

/-- A first call that is cut off with its temporary file written, a restart, and two calls that
commit. -/
theorem isRecovered_of_run_sample :
    (World.revisionFiles Sample.restarted.disk Sample.workspaceId).keys.length = 1 ∧
      IsRecovered Sample.platform Sample.workspaceId
        (Sample.amendingCall.after Sample.platform Sample.workspaceId Sample.appended)
        [.draft Sample.draft, .draft Sample.amendedDraft] := by
  obtain ⟨⟨hcut, hnone, hleft⟩, ⟨hempty, hfirst, hcommits⟩, hload, hsecond, hcommitsTwice⟩ :=
    Sample.evaluatedRun
  have cutOff : WorkspaceRun Sample.platform Sample.workspaceId (fun call world ↦
      call.stopsUncommitted Sample.platform Sample.workspaceId world = false) _ _ :=
    .append (Sample.firstCall 9) (.start 7) Sample.isAllowed_draft hcut
  rw [hnone] at cutOff
  have hrestarted : WorkspaceRun Sample.platform Sample.workspaceId (fun call world ↦
      call.stopsUncommitted Sample.platform Sample.workspaceId world = false) Sample.restarted [] :=
    cutOff.restart 9
  have happended := hrestarted.append (Sample.firstCall 14)
    (Sample.isAllowed_of_empty hempty) hfirst
  rw [hcommits] at happended
  have happended' : WorkspaceRun Sample.platform Sample.workspaceId (fun call world ↦
      call.stopsUncommitted Sample.platform Sample.workspaceId world = false) Sample.appended
        [.draft Sample.draft] := happended
  have run := happended'.append Sample.amendingCall (Sample.isAllowed_amended hload) hsecond
  rw [hcommitsTwice] at run
  exact ⟨hleft, isRecovered_of_run (by decide) run⟩

/-- A first call that is cut off after its revision file was created leaves a workspace that
cannot be loaded. -/
theorem not_isRecovered_of_every_run :
    ¬ ∀ platform workspaceId world bodies, workspaceIdIsValid workspaceId →
      WorkspaceRun platform workspaceId (fun _ _ ↦ True) world bodies →
      IsRecovered platform workspaceId world bodies := by
  intro h
  have run : WorkspaceRun Sample.platform Sample.workspaceId (fun _ _ ↦ True) _ _ :=
    .append (Sample.firstCall 10) (.start 7) Sample.isAllowed_draft trivial
  obtain ⟨⟨history, hload, -⟩, -⟩ := h Sample.platform Sample.workspaceId _ _ (by decide) run
  have hcorrupt : loadCommittedHistory Sample.platform ((Sample.firstCall 10).after Sample.platform
      Sample.workspaceId ⟨∅, .new 7⟩).disk Sample.workspaceId = .error corruptWorkspace := by
    decide +kernel
  rw [hcorrupt] at hload
  cases hload

end PrivateBallot.GuiCore
