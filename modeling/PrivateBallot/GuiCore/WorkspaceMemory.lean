import PrivateBallot.GuiCore.WorkspaceHistory

/-!
# Process-local append state

Library `GuiCore`. `crates/gui-core/src/workspace.rs:200-446`: the validated append heads and the
byte-bounded cache of decoded head bodies that one process keeps. Both are empty after a
restart. The byte cap is fixed: only tests override it.
-/

namespace PrivateBallot.GuiCore

open PrivateBallot.Base PrivateBallot.Protocol PrivateBallot.Ballot

def durableHeadBodyCacheMaxBytesV1 : Nat := 16 * 1024 * 1024

/-- `WarmHeadBodyEntryV1` -/
structure WarmHeadBodyEntryV1 where
  revision : Nat
  digestHex : Bytes
  body : DurableElectionWorkspaceBodyV1
  bytes : Nat

/-- `WarmHeadBodyCacheV1`: entries, their order of use (oldest first) and their total size. -/
structure WarmHeadBodyCacheV1 where
  entries : AList fun _ : Text ↦ WarmHeadBodyEntryV1
  recency : List Text
  totalBytes : Nat
  maxBytes : Nat

namespace WarmHeadBodyCacheV1

/-- `WarmHeadBodyCacheV1::new` -/
def new : WarmHeadBodyCacheV1 := ⟨∅, [], 0, durableHeadBodyCacheMaxBytesV1⟩

/-- `touch`: the id becomes the most recently used one. -/
def touch (self : WarmHeadBodyCacheV1) (workspaceId : Text) : WarmHeadBodyCacheV1 :=
  { self with recency := self.recency.filter (· != workspaceId) ++ [workspaceId] }

/-- `remove`; also `warm_head_body_cache_clear`. -/
def remove (self : WarmHeadBodyCacheV1) (workspaceId : Text) : WarmHeadBodyCacheV1 :=
  { self with
    entries := self.entries.erase workspaceId
    recency := self.recency.filter (· != workspaceId)
    totalBytes := self.totalBytes - ((self.entries.lookup workspaceId).map (·.bytes)).getD 0 }

/-- `warm_head_body_cache_get`: a hit needs the exact revision and digest and counts as a use. -/
def get (self : WarmHeadBodyCacheV1) (workspaceId : Text) (revision : Nat) (digestHex : Bytes) :
    Option DurableElectionWorkspaceBodyV1 × WarmHeadBodyCacheV1 :=
  match self.entries.lookup workspaceId with
  | some entry =>
    if entry.revision = revision ∧ entry.digestHex = digestHex then
      (some entry.body, self.touch workspaceId)
    else (none, self)
  | none => (none, self)

/-- The eviction loop of `warm_head_body_cache_put`: from the oldest id on, while the total is
above the cap. -/
def evict (maxBytes : Nat) : List Text → (AList fun _ : Text ↦ WarmHeadBodyEntryV1) → Nat →
    WarmHeadBodyCacheV1
  | [], entries, totalBytes => ⟨entries, [], totalBytes, maxBytes⟩
  | evicted :: recency, entries, totalBytes =>
    if maxBytes < totalBytes then
      evict maxBytes recency (entries.erase evicted)
        (totalBytes - ((entries.lookup evicted).map (·.bytes)).getD 0)
    else ⟨entries, evicted :: recency, totalBytes, maxBytes⟩

/-- `warm_head_body_cache_put`. The sums stay far below `usize::MAX`, so saturation plays no
part. -/
def put (self : WarmHeadBodyCacheV1) (workspaceId : Text) (entry : WarmHeadBodyEntryV1) :
    WarmHeadBodyCacheV1 :=
  let cache := self.remove workspaceId
  if cache.maxBytes < entry.bytes then cache
  else
    evict cache.maxBytes (cache.recency.filter (· != workspaceId) ++ [workspaceId])
      (cache.entries.insert workspaceId entry) (cache.totalBytes + entry.bytes)

/-! ### Accounting -/

/-- The sizes of the cached bodies. -/
def entryBytes (entries : AList fun _ : Text ↦ WarmHeadBodyEntryV1) : Nat :=
  (entries.entries.map (·.2.bytes)).sum

/-- The total is the sum of the entry sizes and within the cap, and the recency queue lists
each cached workspace exactly once. -/
structure IsAccounted (cache : WarmHeadBodyCacheV1) : Prop where
  totalBytes_eq : cache.totalBytes = entryBytes cache.entries
  totalBytes_le : cache.totalBytes ≤ cache.maxBytes
  recency_perm : cache.recency.Perm cache.entries.keys

/-- The size of the cached body of a workspace, zero where there is none. -/
def bytesOf (entries : AList fun _ : Text ↦ WarmHeadBodyEntryV1) (workspaceId : Text) : Nat :=
  ((entries.lookup workspaceId).map (·.bytes)).getD 0

private theorem entryBytes_erase (entries : AList fun _ : Text ↦ WarmHeadBodyEntryV1)
    (workspaceId : Text) :
    entryBytes (entries.erase workspaceId) + bytesOf entries workspaceId = entryBytes entries := by
  by_cases h : workspaceId ∈ entries.keys
  · obtain ⟨entry, before, after, hbefore, hsplit, herase⟩ := List.exists_of_kerase h
    have hlookup : entries.lookup workspaceId = some entry := by
      apply AList.mem_lookup_iff.mpr
      rw [hsplit]
      exact List.mem_append_right before List.mem_cons_self
    have herased : (entries.erase workspaceId).entries = before ++ after := herase
    rw [bytesOf, hlookup, entryBytes, herased, entryBytes, hsplit]
    simp only [List.map_append, List.sum_append, List.map_cons, List.sum_cons, Option.map_some,
      Option.getD_some]
    omega
  · have hnone : entries.lookup workspaceId = none := AList.lookup_eq_none.mpr h
    have herase : (entries.erase workspaceId).entries = entries.entries :=
      List.kerase_of_notMem_keys h
    rw [bytesOf, hnone, entryBytes, herase, entryBytes]
    rfl

theorem isAccounted_new : new.IsAccounted := by
  constructor
  · rfl
  · exact Nat.zero_le _
  · exact List.Perm.refl []

private theorem filter_perm_erase {recency keys : List Text} (h : recency.Perm keys)
    (hkeys : keys.Nodup) (workspaceId : Text) :
    (recency.filter (· != workspaceId)).Perm (keys.erase workspaceId) := by
  have hnodup : recency.Nodup := h.nodup_iff.mpr hkeys
  rw [← hnodup.erase_eq_filter]
  exact h.erase workspaceId

/-- Using an entry keeps the accounting. -/
theorem IsAccounted.touch {self : WarmHeadBodyCacheV1} (h : self.IsAccounted) {workspaceId : Text}
    (hmem : workspaceId ∈ self.entries) : (self.touch workspaceId).IsAccounted := by
  refine ⟨h.totalBytes_eq, h.totalBytes_le, ?_⟩
  have hfilter := filter_perm_erase h.recency_perm self.entries.keys_nodup workspaceId
  have hback := (List.perm_cons_erase (AList.mem_keys.mp hmem)).symm
  exact (List.perm_append_comm.trans (hfilter.cons workspaceId)).trans hback

/-- Removing an entry keeps the accounting. -/
theorem IsAccounted.remove {self : WarmHeadBodyCacheV1} (h : self.IsAccounted)
    (workspaceId : Text) : (self.remove workspaceId).IsAccounted := by
  have hbytes := entryBytes_erase self.entries workspaceId
  have htotal := h.totalBytes_eq
  have hcap := h.totalBytes_le
  constructor
  · show self.totalBytes - bytesOf self.entries workspaceId = _
    rw [htotal, ← hbytes, Nat.add_sub_cancel]
    rfl
  · show self.totalBytes - bytesOf self.entries workspaceId ≤ self.maxBytes
    omega
  · show (self.recency.filter (· != workspaceId)).Perm (self.entries.erase workspaceId).keys
    rw [AList.keys_erase]
    exact filter_perm_erase h.recency_perm self.entries.keys_nodup workspaceId

/-- Looking an entry up keeps the accounting. -/
theorem IsAccounted.get {self : WarmHeadBodyCacheV1} (h : self.IsAccounted) (workspaceId : Text)
    (revision : Nat) (digestHex : Bytes) :
    (self.get workspaceId revision digestHex).2.IsAccounted := by
  unfold WarmHeadBodyCacheV1.get
  cases hlookup : self.entries.lookup workspaceId with
  | none => exact h
  | some entry =>
    have hmem : workspaceId ∈ self.entries := by
      rw [← AList.lookup_isSome, hlookup]
      rfl
    dsimp only
    split
    · exact h.touch hmem
    · exact h

-- By induction on the queue. Each round removes one id from queue and entries alike; with an
-- empty queue nothing is cached and the total is zero.
private theorem isAccounted_evict (maxBytes : Nat) (recency : List Text)
    (entries : AList fun _ : Text ↦ WarmHeadBodyEntryV1) (totalBytes : Nat)
    (htotal : totalBytes = entryBytes entries) (hperm : recency.Perm entries.keys) :
    (evict maxBytes recency entries totalBytes).IsAccounted := by
  induction recency generalizing entries totalBytes with
  | nil =>
    have hkeys : entries.keys = [] := List.nil_perm.mp hperm
    have hentries : entries.entries = [] := List.map_eq_nil_iff.mp hkeys
    have hzero : totalBytes = 0 := by
      rw [htotal, entryBytes, hentries]
      rfl
    exact ⟨htotal, by rw [evict, hzero]; exact Nat.zero_le _, hperm⟩
  | cons evicted recency ih =>
    unfold evict
    split
    · apply ih
      · have hbytes := entryBytes_erase entries evicted
        show totalBytes - bytesOf entries evicted = _
        omega
      · rw [AList.keys_erase]
        have herase := hperm.erase evicted
        rwa [List.erase_cons_head] at herase
    · next hcap => exact ⟨htotal, Nat.not_lt.mp hcap, hperm⟩

/-- Storing an entry keeps the accounting, whatever has to be evicted for it. -/
theorem IsAccounted.put {self : WarmHeadBodyCacheV1} (h : self.IsAccounted) (workspaceId : Text)
    (entry : WarmHeadBodyEntryV1) : (self.put workspaceId entry).IsAccounted := by
  have hremoved := h.remove workspaceId
  have hnotMem : workspaceId ∉ (self.remove workspaceId).entries := by
    show workspaceId ∉ self.entries.erase workspaceId
    rw [AList.mem_erase]
    simp
  unfold WarmHeadBodyCacheV1.put
  dsimp only
  split
  · exact hremoved
  · apply isAccounted_evict
    · rw [hremoved.totalBytes_eq, entryBytes, entryBytes, AList.entries_insert_of_notMem hnotMem,
        List.map_cons, List.sum_cons, Nat.add_comm]
    · rw [AList.keys_insert]
      have hfilter := filter_perm_erase hremoved.recency_perm
        (self.remove workspaceId).entries.keys_nodup workspaceId
      exact List.perm_append_comm.trans (hfilter.cons workspaceId)

/-! ### What is cached -/

private theorem lookup_evict {maxBytes : Nat} {recency : List Text}
    {entries : AList fun _ : Text ↦ WarmHeadBodyEntryV1} {totalBytes : Nat} {id : Text}
    {entry : WarmHeadBodyEntryV1}
    (h : (evict maxBytes recency entries totalBytes).entries.lookup id = some entry) :
    entries.lookup id = some entry := by
  induction recency generalizing entries totalBytes with
  | nil => exact h
  | cons evicted recency ih =>
    unfold evict at h
    split at h
    · have herased := ih h
      by_cases hid : id = evicted
      · rw [hid, AList.lookup_erase] at herased
        cases herased
      · rwa [AList.lookup_erase_ne hid] at herased
    · exact h

/-- What a cache holds after removing an entry was held before, for another workspace. -/
theorem lookup_remove {self : WarmHeadBodyCacheV1} {workspaceId id : Text}
    {entry : WarmHeadBodyEntryV1}
    (h : (self.remove workspaceId).entries.lookup id = some entry) :
    id ≠ workspaceId ∧ self.entries.lookup id = some entry := by
  have herased : (self.entries.erase workspaceId).lookup id = some entry := h
  by_cases hid : id = workspaceId
  · rw [hid, AList.lookup_erase] at herased
    cases herased
  · rw [AList.lookup_erase_ne hid] at herased
    exact ⟨hid, herased⟩

/-- What a cache holds after storing an entry is that entry or was held before. -/
theorem lookup_put {self : WarmHeadBodyCacheV1} {workspaceId id : Text}
    {stored entry : WarmHeadBodyEntryV1}
    (h : (self.put workspaceId stored).entries.lookup id = some entry) :
    (id = workspaceId ∧ entry = stored) ∨ self.entries.lookup id = some entry := by
  unfold WarmHeadBodyCacheV1.put at h
  dsimp only at h
  split at h
  · exact Or.inr (lookup_remove h).2
  · have hinsert := lookup_evict h
    by_cases hid : id = workspaceId
    · rw [hid, AList.lookup_insert] at hinsert
      exact Or.inl ⟨hid, (Option.some.inj hinsert).symm⟩
    · rw [AList.lookup_insert_ne hid] at hinsert
      exact Or.inr (lookup_remove hinsert).2

/-- Looking an entry up changes no entry. -/
@[simp] theorem entries_get (self : WarmHeadBodyCacheV1) (workspaceId : Text) (revision : Nat)
    (digestHex : Bytes) : (self.get workspaceId revision digestHex).2.entries = self.entries := by
  unfold WarmHeadBodyCacheV1.get
  cases self.entries.lookup workspaceId with
  | none => rfl
  | some entry =>
    dsimp only
    split <;> rfl

/-- A hit returns the body of an entry with the requested revision and digest. -/
theorem get_eq_some {self : WarmHeadBodyCacheV1} {workspaceId : Text} {revision : Nat}
    {digestHex : Bytes} {body : DurableElectionWorkspaceBodyV1}
    (h : (self.get workspaceId revision digestHex).1 = some body) :
    ∃ entry, self.entries.lookup workspaceId = some entry ∧ entry.revision = revision ∧
      entry.digestHex = digestHex ∧ entry.body = body := by
  unfold WarmHeadBodyCacheV1.get at h
  cases hlookup : self.entries.lookup workspaceId with
  | none => simp [hlookup] at h
  | some entry =>
    simp only [hlookup] at h
    split at h
    · next hmatch =>
      exact ⟨entry, rfl, hmatch.1, hmatch.2, Option.some.inj h⟩
    · cases h

end WarmHeadBodyCacheV1

/-! ### One process -/

/-- What one process keeps in memory: its id, `VALIDATED_APPEND_HEADS`, `WARM_HEAD_BODY_CACHE`
and the held locks of `WORKSPACE_APPEND_LOCKS`. -/
structure ProcessMemory where
  pid : Nat
  trusted : AList fun _ : Text ↦ Nat × Bytes
  cache : WarmHeadBodyCacheV1
  appendLocks : List Text

namespace ProcessMemory

/-- A process that has just started. -/
def new (pid : Nat) : ProcessMemory := ⟨pid, ∅, .new, []⟩

/-- `set_trusted_append_head` -/
def setTrustedAppendHead (self : ProcessMemory) (workspaceId : Text) (revision : Nat)
    (digestHex : Bytes) : ProcessMemory :=
  { self with trusted := self.trusted.insert workspaceId (revision, digestHex) }

/-- `clear_trusted_append_head`: the cached body goes with the head. -/
def clearTrustedAppendHead (self : ProcessMemory) (workspaceId : Text) : ProcessMemory :=
  { self with
    trusted := self.trusted.erase workspaceId
    cache := self.cache.remove workspaceId }

end ProcessMemory

end PrivateBallot.GuiCore
