import PrivateBallot.GuiCore.WorkspaceAppend

/-!
# The disk against the history it holds

Library `GuiCore`. `HoldsHistory` connects the directories of one workspace with its abstract
history. Under it the full walk returns the history, and a head that the fast path confirms is
its last revision.
-/

namespace PrivateBallot.GuiCore

open PrivateBallot.Base PrivateBallot.Protocol PrivateBallot.Ballot

namespace World

/-- The files of a `revisions` directory, none if it is missing. -/
def revisionFiles (disk : Disk) (workspaceId : Text) : Directory :=
  (directoryOf disk workspaceId).revisions.getD ∅

/-- The files of a `commits` directory, none if it is missing. -/
def commitFiles (disk : Disk) (workspaceId : Text) : Directory :=
  (directoryOf disk workspaceId).commits.getD ∅

/-- Storing one workspace directory leaves the others alone. -/
theorem directoryOf_insert (disk : Disk) (workspaceId id : Text) (d : WorkspaceDirectory) :
    directoryOf (disk.insert workspaceId d) id =
      if id = workspaceId then d else directoryOf disk id := by
  by_cases h : id = workspaceId
  · subst h
    simp [directoryOf]
  · simp [directoryOf, AList.lookup_insert_ne h, h]

/-- Creating missing directories creates no file. -/
theorem files_ensureDirectory (disk : Disk) (workspaceId id : Text) (place : WorkspacePlace) :
    revisionFiles (ensureDirectory disk workspaceId place) id = revisionFiles disk id ∧
      commitFiles (ensureDirectory disk workspaceId place) id = commitFiles disk id := by
  unfold revisionFiles commitFiles ensureDirectory
  rw [directoryOf_insert]
  by_cases h : id = workspaceId
  · subst h
    cases place <;> simp
  · simp [h]

/-- What creating a file among the revisions changes. -/
theorem files_createRevisionFile {disk disk' : Disk} {workspaceId : Text} {name bytes : Bytes}
    (h : createRevisionFile disk workspaceId name bytes = some disk') :
    name ∉ revisionFiles disk workspaceId ∧
      revisionFiles disk' workspaceId = (revisionFiles disk workspaceId).insert name bytes ∧
      commitFiles disk' workspaceId = commitFiles disk workspaceId ∧
      ∀ id, id ≠ workspaceId → directoryOf disk' id = directoryOf disk id := by
  unfold createRevisionFile createNew at h
  obtain ⟨current, hlookup, h⟩ := Option.bind_eq_some_iff.mp h
  obtain ⟨d, hd, rfl⟩ := Option.map_eq_some_iff.mp h
  obtain ⟨files, hfiles, hd⟩ := Option.bind_eq_some_iff.mp hd
  have hdirectory : directoryOf disk workspaceId = current := by rw [directoryOf, hlookup]; rfl
  split at hd
  · cases hd
  · next hnew =>
    cases hd
    unfold revisionFiles commitFiles
    rw [directoryOf_insert, hdirectory, hfiles]
    refine ⟨hnew, by simp, by simp, ?_⟩
    intro id hid
    rw [directoryOf_insert, if_neg hid]

/-- What creating a file among the commit markers changes. -/
theorem files_createCommitFile {disk disk' : Disk} {workspaceId : Text} {name bytes : Bytes}
    (h : createCommitFile disk workspaceId name bytes = some disk') :
    name ∉ commitFiles disk workspaceId ∧
      commitFiles disk' workspaceId = (commitFiles disk workspaceId).insert name bytes ∧
      revisionFiles disk' workspaceId = revisionFiles disk workspaceId ∧
      ∀ id, id ≠ workspaceId → directoryOf disk' id = directoryOf disk id := by
  unfold createCommitFile createNew at h
  obtain ⟨current, hlookup, h⟩ := Option.bind_eq_some_iff.mp h
  obtain ⟨d, hd, rfl⟩ := Option.map_eq_some_iff.mp h
  obtain ⟨files, hfiles, hd⟩ := Option.bind_eq_some_iff.mp hd
  have hdirectory : directoryOf disk workspaceId = current := by rw [directoryOf, hlookup]; rfl
  split at hd
  · cases hd
  · next hnew =>
    cases hd
    unfold revisionFiles commitFiles
    rw [directoryOf_insert, hdirectory, hfiles]
    refine ⟨hnew, by simp, by simp, ?_⟩
    intro id hid
    rw [directoryOf_insert, if_neg hid]

/-- What removing a file among the revisions changes. -/
theorem files_removeRevisionFile (disk : Disk) (workspaceId : Text) (name : Bytes) :
    revisionFiles (removeRevisionFile disk workspaceId name) workspaceId =
        (revisionFiles disk workspaceId).erase name ∧
      commitFiles (removeRevisionFile disk workspaceId name) workspaceId =
        commitFiles disk workspaceId ∧
      ∀ id, id ≠ workspaceId →
        directoryOf (removeRevisionFile disk workspaceId name) id = directoryOf disk id := by
  unfold removeRevisionFile
  cases hlookup : disk.lookup workspaceId with
  | none =>
    have hdirectory : directoryOf disk workspaceId = ⟨none, none⟩ := by
      rw [directoryOf, hlookup]
      rfl
    refine ⟨?_, rfl, fun _ _ ↦ rfl⟩
    unfold revisionFiles
    rw [hdirectory]
    rfl
  | some current =>
    have hdirectory : directoryOf disk workspaceId = current := by rw [directoryOf, hlookup]; rfl
    unfold revisionFiles commitFiles
    dsimp only
    rw [directoryOf_insert, hdirectory]
    refine ⟨?_, by simp, ?_⟩
    · cases hrevisions : current.revisions with
      | none =>
        simp
        rfl
      | some d => simp
    · intro id hid
      rw [directoryOf_insert, if_neg hid]

/-- The directories that `ensure_workspace_dirs` creates are there. -/
def HasDirectories (disk : Disk) (workspaceId : Text) : Prop :=
  (directoryOf disk workspaceId).revisions.isSome = true ∧
    (directoryOf disk workspaceId).commits.isSome = true

theorem hasDirectories_ensureDirectory (disk : Disk) (workspaceId : Text) :
    HasDirectories (ensureDirectory (ensureDirectory disk workspaceId .revisions) workspaceId
      .commits) workspaceId := by
  unfold HasDirectories ensureDirectory
  simp [directoryOf_insert]

private theorem lookup_of_hasDirectories {disk : Disk} {workspaceId : Text}
    (h : HasDirectories disk workspaceId) :
    ∃ current revisions commits, disk.lookup workspaceId = some current ∧
      current.revisions = some revisions ∧ current.commits = some commits := by
  unfold HasDirectories directoryOf at h
  cases hlookup : disk.lookup workspaceId with
  | none => simp [hlookup] at h
  | some current =>
    rw [hlookup, Option.getD_some] at h
    obtain ⟨revisions, hr⟩ := Option.isSome_iff_exists.mp h.1
    obtain ⟨commits, hc⟩ := Option.isSome_iff_exists.mp h.2
    exact ⟨current, revisions, commits, rfl, hr, hc⟩

/-- A new name can be created among the revisions. -/
theorem exists_createRevisionFile {disk : Disk} {workspaceId : Text} {name : Bytes}
    (h : HasDirectories disk workspaceId) (hnew : name ∉ revisionFiles disk workspaceId)
    (bytes : Bytes) : ∃ disk', createRevisionFile disk workspaceId name bytes = some disk' ∧
      HasDirectories disk' workspaceId := by
  obtain ⟨current, revisions, commits, hlookup, hr, hc⟩ := lookup_of_hasDirectories h
  have hfiles : revisionFiles disk workspaceId = revisions := by
    rw [revisionFiles, directoryOf, hlookup, Option.getD_some, hr, Option.getD_some]
  rw [hfiles] at hnew
  refine ⟨disk.insert workspaceId { current with revisions := some (revisions.insert name bytes) },
    ?_, ?_⟩
  · rw [createRevisionFile, hlookup, Option.bind_some, createNew, hr, Option.bind_some,
      if_neg hnew]
    rfl
  · rw [HasDirectories, directoryOf_insert, if_pos rfl, hc]
    exact ⟨rfl, rfl⟩

/-- Creating a file removes no directory. -/
theorem HasDirectories.createRevisionFile {disk disk' : Disk} {workspaceId : Text}
    {name bytes : Bytes} (h : HasDirectories disk workspaceId)
    (hcreate : World.createRevisionFile disk workspaceId name bytes = some disk') :
    HasDirectories disk' workspaceId := by
  obtain ⟨disk'', hdisk, hdirectories⟩ :=
    exists_createRevisionFile h (files_createRevisionFile hcreate).1 bytes
  rw [hcreate] at hdisk
  cases hdisk
  exact hdirectories

/-- A new name can be created among the commit markers. -/
theorem exists_createCommitFile {disk : Disk} {workspaceId : Text} {name : Bytes}
    (h : HasDirectories disk workspaceId) (hnew : name ∉ commitFiles disk workspaceId)
    (bytes : Bytes) : ∃ disk', createCommitFile disk workspaceId name bytes = some disk' := by
  obtain ⟨current, revisions, commits, hlookup, hr, hc⟩ := lookup_of_hasDirectories h
  have hfiles : commitFiles disk workspaceId = commits := by
    rw [commitFiles, directoryOf, hlookup, Option.getD_some, hc, Option.getD_some]
  rw [hfiles] at hnew
  refine ⟨disk.insert workspaceId { current with commits := some (commits.insert name bytes) }, ?_⟩
  rw [createCommitFile, hlookup, Option.bind_some, createNew, hc, Option.bind_some, if_neg hnew]
  rfl

/-- Removing a file removes no directory. -/
theorem HasDirectories.removeRevisionFile {disk : Disk} {workspaceId : Text}
    (h : HasDirectories disk workspaceId) (name : Bytes) :
    HasDirectories (removeRevisionFile disk workspaceId name) workspaceId := by
  obtain ⟨current, revisions, commits, hlookup, hr, hc⟩ := lookup_of_hasDirectories h
  rw [World.removeRevisionFile, hlookup, HasDirectories]
  dsimp only
  rw [directoryOf_insert, if_pos rfl, hr, hc]
  exact ⟨rfl, rfl⟩

end World

/-- The disk holds this history of a workspace, and besides it only revision files above the
head. -/
structure HoldsHistory (platform : Platform) (workspaceId : Text) (disk : Disk)
    (history : List StoredRevision) : Prop where
  chain : IsChain platform workspaceId history
  commits : IsCommitDirectory platform workspaceId history (World.commitFiles disk workspaceId)
  revisions : IsRevisionDirectory platform history (World.revisionFiles disk workspaceId)

/-- Only the files matter. -/
theorem HoldsHistory.of_files {platform : Platform} {workspaceId : Text} {disk disk' : Disk}
    {history : List StoredRevision} (h : HoldsHistory platform workspaceId disk history)
    (hrevisions : World.revisionFiles disk' workspaceId = World.revisionFiles disk workspaceId)
    (hcommits : World.commitFiles disk' workspaceId = World.commitFiles disk workspaceId) :
    HoldsHistory platform workspaceId disk' history := by
  refine ⟨h.chain, ?_, ?_⟩
  · rw [hcommits]
    exact h.commits
  · rw [hrevisions]
    exact h.revisions

/-- A workspace without a directory holds the empty history. -/
theorem holdsHistory_nil (platform : Platform) {workspaceId : Text} {disk : Disk}
    (h : disk.lookup workspaceId = none) : HoldsHistory platform workspaceId disk [] := by
  have hdirectory : directoryOf disk workspaceId = ⟨none, none⟩ := by
    rw [directoryOf, h]
    rfl
  have hnone : ∀ name : Bytes, ¬ name ∈ (∅ : Directory) := fun name ↦ AList.notMem_empty name
  refine ⟨⟨?_, ?_, ?_, ?_⟩, ⟨?_, ?_⟩, ⟨?_, ?_⟩⟩
  · intro s hs
    cases hs
  · intro s hs
    cases hs
  · intro i s hs
    cases hs
  · intro i s hs
    cases hs
  · intro i s hs
    cases hs
  · intro name hname
    rw [World.commitFiles, hdirectory] at hname
    exact absurd hname (hnone name)
  · intro i s hs
    cases hs
  · intro name hname
    rw [World.revisionFiles, hdirectory] at hname
    exact absurd hname (hnone name)

/-- The limits that the loader puts on what it reads. -/
structure IsLoadable (workspaceId : Text) (disk : Disk) (history : List StoredRevision) :
    Prop where
  validId : workspaceIdIsValid workspaceId
  length : history.length ≤ maxWorkspaceRevisionsV1
  size : ∀ s ∈ history, s.payload.length ≤ maxWorkspaceRevisionBytesV1
  count : (World.revisionFiles disk workspaceId).keys.countP revisionFileSuffix.isSuffixOf ≤
    maxWorkspaceRevisionsV1
  empty : history = [] → hasRevisionFiles (World.revisionFiles disk workspaceId) = false

/-- The head an append chains onto: the last revision of the history. -/
def appendHeadOf (platform : Platform) (history : List StoredRevision) : Option AppendHead :=
  history.getLast?.map fun s ↦ ⟨history.length, s.digestHex platform, s.record.body⟩

section Loading

variable {platform : Platform} {workspaceId : Text} {disk : Disk} {history : List StoredRevision}

private theorem eq_nil_of_commitFiles (h : HoldsHistory platform workspaceId disk history)
    (hempty : World.commitFiles disk workspaceId = ∅) : history = [] := by
  cases hget : history[0]? with
  | none =>
    rw [List.getElem?_eq_none_iff] at hget
    exact List.length_eq_zero_iff.mp (by omega)
  | some s =>
    obtain ⟨marker, -, hlookup⟩ := h.commits.present 0 s hget
    rw [hempty, AList.lookup_empty] at hlookup
    cases hlookup

private theorem eq_nil_of_revisionFiles (h : HoldsHistory platform workspaceId disk history)
    (hempty : World.revisionFiles disk workspaceId = ∅) : history = [] := by
  cases hget : history[0]? with
  | none =>
    rw [List.getElem?_eq_none_iff] at hget
    exact List.length_eq_zero_iff.mp (by omega)
  | some s =>
    have hlookup := h.revisions.present 0 s hget
    rw [hempty, AList.lookup_empty] at hlookup
    cases hlookup

/-- The full walk returns the history that the disk holds. -/
theorem HoldsHistory.loadCommittedHistory_eq_ok
    (h : HoldsHistory platform workspaceId disk history)
    (hload : IsLoadable workspaceId disk history) :
    loadCommittedHistory platform disk workspaceId = .ok (committedRevisions platform history) := by
  have hcommits := h.commits
  have hrevisions := h.revisions
  have hcount := hload.count
  have hempty := hload.empty
  have hnilc := eq_nil_of_commitFiles h
  have hnilr := eq_nil_of_revisionFiles h
  have hvalid : validateWorkspaceIdV1 workspaceId = .ok () := by
    rw [validateWorkspaceIdV1, if_pos hload.validId]
  unfold World.commitFiles World.revisionFiles at *
  rw [loadCommittedHistory, hvalid]
  simp only [bind, Except.bind]
  cases hr : (directoryOf disk workspaceId).revisions with
  | none =>
    have hnil : history = [] := hnilr (by rw [hr]; rfl)
    rw [hnil]
    rfl
  | some revisions =>
    rw [hr, Option.getD_some] at hrevisions hcount hempty
    cases hc : (directoryOf disk workspaceId).commits with
    | none =>
      have hnil : history = [] := hnilc (by rw [hc]; rfl)
      simp [hempty hnil, hnil, committedRevisions]
    | some commits =>
      rw [hc, Option.getD_some] at hcommits
      exact loadHistoryFrom_eq_ok hload.validId h.chain hcommits hrevisions hload.length
        hload.size hcount hempty

/-- A head that the fast path confirms is the last revision of the history, and the payload it
has read is that revision's. -/
theorem HoldsHistory.confirmAppendHead_eq_some
    (h : HoldsHistory platform workspaceId disk history)
    (hid : workspaceIdIsValid workspaceId) (hlength : history.length ≤ maxWorkspaceRevisionsV1)
    {trustedRevision : Nat} {trustedDigest payload : Bytes}
    (hconfirm : confirmAppendHead platform disk workspaceId trustedRevision trustedDigest =
      .ok (some payload)) :
    ∃ s, history.getLast? = some s ∧ trustedRevision = history.length ∧
      trustedDigest = s.digestHex platform ∧ payload = s.payload := by
  have hcommits := h.commits
  have hrevisions := h.revisions
  have hvalid : validateWorkspaceIdV1 workspaceId = .ok () := by
    rw [validateWorkspaceIdV1, if_pos hid]
  unfold World.commitFiles World.revisionFiles at *
  rw [confirmAppendHead, hvalid] at hconfirm
  simp only [bind, Except.bind] at hconfirm
  cases hc : (directoryOf disk workspaceId).commits with
  | none => simp [hc] at hconfirm
  | some commits =>
    rw [hc, Option.getD_some] at hcommits
    obtain ⟨m, hm, hget, hkeys⟩ := loadCommitMarkers_eq_ok hid hcommits hlength
    simp only [hc, hm, hkeys, getLast?_range'] at hconfirm
    rcases List.eq_nil_or_concat' history with rfl | ⟨init, s, rfl⟩
    · simp at hconfirm
    · have hlast : (init ++ [s])[init.length]? = some s := List.getElem?_concat_length
      have hlengths : (init ++ [s]).length = init.length + 1 := by simp
      have hdigest : m[init.length + 1]? = some (s.digestHex platform) := by
        rw [hget (init.length + 1)]
        simp [digestAt, revisionAt]
      have hpos : ¬ init.length + 1 = 0 := Nat.succ_ne_zero _
      simp only [hlengths, hpos, if_false, hdigest] at hconfirm
      split at hconfirm
      · cases hconfirm
      · next hmatch =>
        rw [not_or, not_not, not_not] at hmatch
        obtain ⟨rfl, hsome⟩ := hmatch
        obtain rfl : s.digestHex platform = trustedDigest := Option.some.inj hsome
        cases hr : (directoryOf disk workspaceId).revisions with
        | none => simp [hr] at hconfirm
        | some revisions =>
          rw [hr, Option.getD_some] at hrevisions
          have hpresent := hrevisions.present _ _ hlast
          refine ⟨s, List.getLast?_concat, hlengths.symm, rfl, ?_⟩
          simp only [hr, readHeadPayloadVerified, hpresent] at hconfirm
          split at hconfirm
          · cases hconfirm
          · next hok =>
            split at hok
            · cases hok
            · split at hok
              · cases hok
              · cases hok
                cases hconfirm
                rfl

/-- A head that the fast path returns is the last revision of the history, if what is cached
under that revision and digest is its body. -/
theorem HoldsHistory.fastPathAppendHead_eq_some
    (h : HoldsHistory platform workspaceId disk history)
    (hid : workspaceIdIsValid workspaceId) (hlength : history.length ≤ maxWorkspaceRevisionsV1)
    {cache : WarmHeadBodyCacheV1}
    (hcache : ∀ entry s, cache.entries.lookup workspaceId = some entry →
      history.getLast? = some s → entry.revision = history.length →
        entry.digestHex = s.digestHex platform → entry.body = s.record.body)
    {trustedRevision : Nat} {trustedDigest : Bytes} {head : AppendHead}
    (hfast : (fastPathAppendHead platform disk workspaceId trustedRevision trustedDigest cache).1 =
      .ok (some head)) : appendHeadOf platform history = some head := by
  unfold fastPathAppendHead at hfast
  cases hconfirm : confirmAppendHead platform disk workspaceId trustedRevision trustedDigest with
  | error e => simp [hconfirm] at hfast
  | ok confirmed =>
    cases confirmed with
    | none => simp [hconfirm] at hfast
    | some payload =>
      obtain ⟨s, hlast, rfl, rfl, rfl⟩ := h.confirmAppendHead_eq_some hid hlength hconfirm
      simp only [hconfirm] at hfast
      have hdecode := h.chain.decodes s (List.mem_of_getLast? hlast)
      cases hget : (cache.get workspaceId history.length (s.digestHex platform)).1 with
      | some body =>
        obtain ⟨entry, hlookup, hrevision, hdigest, rfl⟩ := WarmHeadBodyCacheV1.get_eq_some hget
        rw [← Prod.eta (cache.get _ _ _), hget] at hfast
        cases hfast
        rw [appendHeadOf, hlast, hcache entry s hlookup hlast hrevision hdigest]
        rfl
      | none =>
        rw [← Prod.eta (cache.get _ _ _), hget] at hfast
        simp only [hdecode] at hfast
        split at hfast
        · cases hfast
        · cases hfast
          rw [appendHeadOf, hlast]
          rfl

/-- What the fast path leaves in the cache was there before, or is the body of the last
revision. -/
theorem HoldsHistory.lookup_fastPathAppendHead
    (h : HoldsHistory platform workspaceId disk history)
    (hid : workspaceIdIsValid workspaceId) (hlength : history.length ≤ maxWorkspaceRevisionsV1)
    {cache : WarmHeadBodyCacheV1} {trustedRevision : Nat} {trustedDigest : Bytes} {id : Text}
    {entry : WarmHeadBodyEntryV1}
    (hentry : (fastPathAppendHead platform disk workspaceId trustedRevision trustedDigest
      cache).2.entries.lookup id = some entry) :
    cache.entries.lookup id = some entry ∨
      (id = workspaceId ∧ ∃ s, history.getLast? = some s ∧ entry.revision = history.length ∧
        entry.digestHex = s.digestHex platform ∧ entry.body = s.record.body) := by
  unfold fastPathAppendHead at hentry
  cases hconfirm : confirmAppendHead platform disk workspaceId trustedRevision trustedDigest with
  | error e =>
    simp only [hconfirm] at hentry
    exact Or.inl hentry
  | ok confirmed =>
    cases confirmed with
    | none =>
      simp only [hconfirm] at hentry
      exact Or.inl hentry
    | some payload =>
      obtain ⟨s, hlast, rfl, rfl, rfl⟩ := h.confirmAppendHead_eq_some hid hlength hconfirm
      simp only [hconfirm] at hentry
      have hdecode := h.chain.decodes s (List.mem_of_getLast? hlast)
      have hentries := WarmHeadBodyCacheV1.entries_get cache workspaceId history.length
        (s.digestHex platform)
      cases hget : (cache.get workspaceId history.length (s.digestHex platform)).1 with
      | some body =>
        rw [← Prod.eta (cache.get _ _ _), hget] at hentry
        rw [hentries] at hentry
        exact Or.inl hentry
      | none =>
        rw [← Prod.eta (cache.get _ _ _), hget] at hentry
        simp only [hdecode] at hentry
        split at hentry
        · rw [hentries] at hentry
          exact Or.inl hentry
        · rcases WarmHeadBodyCacheV1.lookup_put hentry with ⟨rfl, rfl⟩ | hold
          · exact Or.inr ⟨rfl, s, hlast, rfl, rfl, rfl⟩
          · rw [hentries] at hold
            exact Or.inl hold

/-- Every cached head body of the workspace is the body of the revision it is filed under. -/
def CacheAgrees (platform : Platform) (workspaceId : Text) (history : List StoredRevision)
    (cache : WarmHeadBodyCacheV1) : Prop :=
  ∀ entry, cache.entries.lookup workspaceId = some entry → ∃ i s, history[i]? = some s ∧
    entry.revision = i + 1 ∧ entry.digestHex = s.digestHex platform ∧ entry.body = s.record.body

theorem getElem?_of_getLast? {s : StoredRevision} (h : history.getLast? = some s) :
    ∃ i, history[i]? = some s ∧ history.length = i + 1 := by
  rcases List.eq_nil_or_concat' history with rfl | ⟨init, t, rfl⟩
  · cases h
  · rw [List.getLast?_concat] at h
    cases h
    exact ⟨init.length, List.getElem?_concat_length, by simp⟩

theorem CacheAgrees.of_lookup {cache cache' : WarmHeadBodyCacheV1}
    (h : CacheAgrees platform workspaceId history cache)
    (hlookup : ∀ entry, cache'.entries.lookup workspaceId = some entry →
      cache.entries.lookup workspaceId = some entry ∨
        ∃ s, history.getLast? = some s ∧ entry.revision = history.length ∧
          entry.digestHex = s.digestHex platform ∧ entry.body = s.record.body) :
    CacheAgrees platform workspaceId history cache' := by
  intro entry hentry
  rcases hlookup entry hentry with hold | ⟨s, hlast, hrevision, hdigest, hbody⟩
  · exact h entry hold
  · obtain ⟨i, hi, hlength⟩ := getElem?_of_getLast? hlast
    exact ⟨i, s, hi, by rw [hrevision, hlength], hdigest, hbody⟩

theorem CacheAgrees.remove {cache : WarmHeadBodyCacheV1}
    (h : CacheAgrees platform workspaceId history cache) (id : Text) :
    CacheAgrees platform workspaceId history (cache.remove id) := by
  intro entry hentry
  exact h entry (WarmHeadBodyCacheV1.lookup_remove hentry).2

/-- The last of the loaded revisions is the last one of the history. -/
theorem getLast?_committedRevisions :
    (committedRevisions platform history).getLast? =
      history.getLast?.map fun s ↦ ⟨history.length, s.digestHex platform, s.record⟩ := by
  rcases List.eq_nil_or_concat' history with rfl | ⟨init, s, rfl⟩
  · rfl
  · simp [committedRevisions, List.mapIdx_append]

private theorem resolveHeadByWalk_spec (h : HoldsHistory platform workspaceId disk history)
    (hload : IsLoadable workspaceId disk history) {memory : ProcessMemory}
    (hcache : CacheAgrees platform workspaceId history memory.cache) :
    (resolveHeadByWalk platform disk workspaceId memory).1 = .ok (appendHeadOf platform history) ∧
      CacheAgrees platform workspaceId history
        (resolveHeadByWalk platform disk workspaceId memory).2.cache := by
  unfold resolveHeadByWalk
  rw [h.loadCommittedHistory_eq_ok hload]
  simp only [getLast?_committedRevisions, appendHeadOf]
  cases hlast : history.getLast? with
  | none => exact ⟨rfl, hcache.remove workspaceId⟩
  | some s =>
    refine ⟨rfl, hcache.of_lookup ?_⟩
    intro entry hentry
    rcases WarmHeadBodyCacheV1.lookup_put hentry with ⟨-, rfl⟩ | hold
    · exact Or.inr ⟨s, hlast, rfl, rfl, rfl⟩
    · exact Or.inl hold

/-- Resolving the head finds the last revision of the history, on the fast path and by the full
walk alike. -/
theorem HoldsHistory.loadHeadForAppend_spec (h : HoldsHistory platform workspaceId disk history)
    (hload : IsLoadable workspaceId disk history) {memory : ProcessMemory}
    (hcache : CacheAgrees platform workspaceId history memory.cache) (fastPathReads : Bool) :
    (loadHeadForAppend platform disk workspaceId fastPathReads memory).1 =
        .ok (appendHeadOf platform history) ∧
      CacheAgrees platform workspaceId history
        (loadHeadForAppend platform disk workspaceId fastPathReads memory).2.cache := by
  have hmatch : ∀ entry s, memory.cache.entries.lookup workspaceId = some entry →
      history.getLast? = some s → entry.revision = history.length →
        entry.digestHex = s.digestHex platform → entry.body = s.record.body := by
    intro entry s hentry hlast hrevision _
    obtain ⟨i, t, hi, hnumber, -, hbody⟩ := hcache entry hentry
    obtain ⟨j, hj, hlength⟩ := getElem?_of_getLast? hlast
    have hij : i = j := by omega
    rw [hij, hj] at hi
    cases hi
    exact hbody
  unfold loadHeadForAppend
  cases htrusted : memory.trusted.lookup workspaceId with
  | none => exact resolveHeadByWalk_spec h hload hcache
  | some trusted =>
    obtain ⟨trustedRevision, trustedDigest⟩ := trusted
    dsimp only
    cases fastPathReads with
    | false => exact resolveHeadByWalk_spec h hload (hcache.remove workspaceId)
    | true =>
      have hafter : CacheAgrees platform workspaceId history
          (fastPathAppendHead platform disk workspaceId trustedRevision trustedDigest
            memory.cache).2 := by
        apply hcache.of_lookup
        intro entry hentry
        rcases h.lookup_fastPathAppendHead hload.validId hload.length hentry with hold | ⟨-, hnew⟩
        · exact Or.inl hold
        · exact Or.inr hnew
      have hfast := @HoldsHistory.fastPathAppendHead_eq_some _ _ _ _ h hload.validId hload.length
        memory.cache hmatch trustedRevision trustedDigest
      generalize fastPathAppendHead platform disk workspaceId trustedRevision trustedDigest
        memory.cache = result at hfast hafter ⊢
      obtain ⟨outcome, cache⟩ := result
      simp only [Bool.not_true, Bool.false_eq_true, if_false]
      split
      · next head _ hpair =>
        cases hpair
        exact ⟨by rw [hfast rfl], hafter⟩
      · next hpair =>
        cases hpair
        exact resolveHeadByWalk_spec h hload (hafter.remove workspaceId)

end Loading

/-! ### What was loaded was stored -/

section Stored

variable {platform : Platform} {workspaceId : Text}

private theorem scanNumberedFiles_forall {α : Type} {suffix : Bytes}
    {read : Bytes → Nat → Bytes → GuiResult (Option α)} {digestOf : α → Bytes} {P : α → Prop}
    (hread : ∀ name revision digestHex value, read name revision digestHex = .ok (some value) →
      P value) :
    ∀ (names : List Bytes) (inspected : Nat) (found result : Std.ExtTreeMap Nat α),
      (∀ (revision : Nat) (value : α), found[revision]? = some value → P value) →
      scanNumberedFiles suffix read digestOf names inspected found = .ok result →
      ∀ (revision : Nat) (value : α), result[revision]? = some value → P value := by
  intro names
  induction names with
  | nil =>
    intro inspected found result hfound h
    cases h
    exact hfound
  | cons name names ih =>
    intro inspected found result hfound h
    simp only [scanNumberedFiles] at h
    split at h
    · exact ih inspected found result hfound h
    · split at h
      · cases h
      · split at h
        · cases h
        · next number expectedDigest _ =>
          cases hvalue : read name number expectedDigest with
          | error e => simp [hvalue, bind, Except.bind] at h
          | ok entry =>
            cases entry with
            | none =>
              simp only [hvalue, bind, Except.bind] at h
              exact ih _ found result hfound h
            | some value =>
              simp only [hvalue, bind, Except.bind] at h
              split at h
              · cases h
              · refine ih _ _ result ?_ h
                intro revision v hv
                rw [Std.ExtTreeMap.getElem?_insert] at hv
                split at hv
                · cases hv
                  exact hread name number expectedDigest value hvalue
                · exact hfound revision v hv

/-- A file among the revisions whose payload has this digest and decodes to this record. -/
def StoredAs (platform : Platform) (revisions : Directory) (digestHex : Bytes)
    (record : DurableElectionWorkspaceV1) : Prop :=
  ∃ name payload, revisions.lookup name = some payload ∧
    revisionDigestHex platform payload = digestHex ∧ decodeWorkspace payload = .ok record

private theorem of_readCommittedRevision {revisions : Directory} {head revision : Nat}
    {name digestHex : Bytes} {valid : ValidRevision}
    (h : readCommittedRevision platform revisions workspaceId head name revision digestHex =
      .ok (some valid)) :
    ∃ name, revisions.lookup name = some valid.payload ∧
      revisionDigestHex platform valid.payload = valid.digestHex := by
  unfold readCommittedRevision at h
  split at h
  · cases h
  · unfold readValidRevisionFile at h
    cases hlookup : revisions.lookup name with
    | none => simp [hlookup, bind, Except.bind] at h
    | some payload =>
      simp only [hlookup, bind, Except.bind] at h
      split at h
      · cases h
      · next hvalid =>
        split at hvalid
        · cases hvalid
        · split at hvalid
          · cases hvalid
          · split at hvalid
            · cases hvalid
            · split at hvalid
              · cases hvalid
              · cases hvalid
                cases h
                exact ⟨name, hlookup, rfl⟩

private theorem storedAs_of_walk {revisions : Directory}
    {committedDigests : Std.ExtTreeMap Nat Bytes}
    {observedRevisions : Std.ExtTreeMap Nat ValidRevision}
    (hobserved : ∀ (revision : Nat) (valid : ValidRevision),
      observedRevisions[revision]? = some valid → ∃ name,
        revisions.lookup name = some valid.payload ∧
          revisionDigestHex platform valid.payload = valid.digestHex) :
    ∀ (numbers : List Nat) (previous : Option Bytes) (committed : List CommittedRevision),
      walkCommittedHistory committedDigests observedRevisions numbers previous = .ok committed →
      ∀ c ∈ committed, StoredAs platform revisions c.digestHex c.record := by
  intro numbers
  induction numbers with
  | nil =>
    intro previous committed h c hc
    cases h
    cases hc
  | cons number numbers ih =>
    intro previous committed h c hc
    simp only [walkCommittedHistory] at h
    split at h
    · next digestHex valid hdigest hvalid =>
      split at h
      · cases h
      · cases hrecord : decodeWorkspace valid.payload with
        | error e => simp [hrecord, bind, Except.bind] at h
        | ok record =>
          simp only [hrecord, bind, Except.bind] at h
          split at h
          · cases h
          · split at h
            · cases h
            · next rest hrest =>
              cases h
              rcases List.mem_cons.mp hc with rfl | hc
              · obtain ⟨name, hlookup, hhash⟩ := hobserved number valid hvalid
                exact ⟨name, valid.payload, hlookup, hhash, hrecord⟩
              · exact ih _ rest hrest c hc
    · cases h

/-- Every revision that the full walk returns is stored in a file with its digest. -/
theorem storedAs_of_loadCommittedHistory {disk : Disk} {committed : List CommittedRevision}
    (h : loadCommittedHistory platform disk workspaceId = .ok committed) :
    ∀ c ∈ committed, StoredAs platform (World.revisionFiles disk workspaceId) c.digestHex
      c.record := by
  unfold loadCommittedHistory at h
  cases hid : validateWorkspaceIdV1 workspaceId with
  | error e => simp [hid, bind, Except.bind] at h
  | ok u =>
    simp only [hid, bind, Except.bind] at h
    unfold World.revisionFiles
    cases hr : (directoryOf disk workspaceId).revisions with
    | none =>
      simp only [hr] at h
      cases h
      simp
    | some revisions =>
      simp only [hr] at h
      split at h
      · split at h
        · cases h
        · cases h
          simp
      · next commits _ =>
        unfold loadHistoryFrom at h
        cases hm : loadCommitMarkers platform commits workspaceId with
        | error e => simp [hm, bind, Except.bind] at h
        | ok markers =>
          simp only [hm, bind, Except.bind] at h
          split at h
          · split at h
            · cases h
            · cases h
              simp
          · next head _ =>
            cases ho : loadCommittedRevisionFiles platform revisions workspaceId head with
            | error e => simp [ho] at h
            | ok observed =>
              simp only [ho] at h
              refine storedAs_of_walk ?_ _ none committed h
              refine scanNumberedFiles_forall ?_ _ 0 ∅ observed ?_ ho
              · intro name revision digestHex valid hread
                exact of_readCommittedRevision hread
              · intro revision value hvalue
                simp at hvalue

end Stored
end PrivateBallot.GuiCore
