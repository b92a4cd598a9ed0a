import Mathlib.Data.List.Perm.Subperm
import Mathlib.Data.List.Sort
import PrivateBallot.GuiCore.WorkspaceDisk

/-!
# Committed histories and the directories that hold them

Library `GuiCore`. The abstract view of a workspace is the list of its stored revisions, each
naming the digest of the one before. `IsCommitDirectory` and `IsRevisionDirectory` say which
files represent it; from them the loader of `workspace.rs` returns exactly that list.
-/

namespace PrivateBallot.GuiCore

open PrivateBallot.Base PrivateBallot.Protocol PrivateBallot.Ballot

/-- A stored revision: the payload of its file and the record it decodes to. -/
structure StoredRevision where
  payload : Bytes
  record : DurableElectionWorkspaceV1
deriving DecidableEq

/-- The digest that names the revision. -/
def StoredRevision.digestHex (platform : Platform) (s : StoredRevision) : Bytes :=
  revisionDigestHex platform s.payload

/-- The predecessor that the revision after the first `i` ones has to name. -/
def predecessorAt (platform : Platform) (history : List StoredRevision) :
    Nat → RevisionPredecessorV1
  | 0 => .genesis
  | i + 1 => match history[i]? with
    | some s => .previous (i + 1) (s.digestHex platform)
    | none => .genesis

/-- The revisions of one workspace, numbered from one, each chained to the one before. -/
structure IsChain (platform : Platform) (workspaceId : Text) (history : List StoredRevision) :
    Prop where
  decodes : ∀ s ∈ history, decodeWorkspace s.payload = .ok s.record
  workspaceId : ∀ s ∈ history, s.record.workspaceId = workspaceId
  revision : ∀ i s, history[i]? = some s → s.record.revision = i + 1
  predecessor : ∀ i s, history[i]? = some s →
    s.record.predecessor = predecessorAt platform history i

/-- What the loader returns for a history. -/
def committedRevisions (platform : Platform) (history : List StoredRevision) :
    List CommittedRevision :=
  history.mapIdx fun i s ↦ ⟨i + 1, s.digestHex platform, s.record⟩

/-- The commit markers of the directory are those of the history. -/
structure IsCommitDirectory (platform : Platform) (workspaceId : Text)
    (history : List StoredRevision) (commits : Directory) : Prop where
  present : ∀ i s, history[i]? = some s → ∃ marker,
    encodeCommitMarker ⟨workspaceId, i + 1, s.digestHex platform⟩ = .ok marker ∧
      commits.lookup (commitFilename (i + 1) (s.digestHex platform)) = some marker
  only : ∀ name ∈ commits, commitFileSuffix.isSuffixOf name = true →
    ∃ i s, history[i]? = some s ∧ name = commitFilename (i + 1) (s.digestHex platform)

/-- The revision files at or below the head are those of the history; the others are numbered
above it. -/
structure IsRevisionDirectory (platform : Platform) (history : List StoredRevision)
    (revisions : Directory) : Prop where
  present : ∀ i s, history[i]? = some s →
    revisions.lookup (revisionFilename (i + 1) (s.digestHex platform)) = some s.payload
  only : ∀ name ∈ revisions, revisionFileSuffix.isSuffixOf name = true →
    (∃ i s, history[i]? = some s ∧ name = revisionFilename (i + 1) (s.digestHex platform)) ∨
      ∃ revision digestHex, history.length < revision ∧ revision < 10 ^ 10 ∧
        digestHexIsCanonical digestHex = true ∧ name = revisionFilename revision digestHex

@[simp] theorem digestHexIsCanonical_digestHex (platform : Platform) (s : StoredRevision) :
    digestHexIsCanonical (s.digestHex platform) = true :=
  digestHexIsCanonical_revisionDigestHex platform s.payload

/-! ### Scans -/

section Scan

variable {α : Type} {suffix : Bytes} {read : Bytes → Nat → Bytes → GuiResult (Option α)}
  {digestOf : α → Bytes}

/-- The name carries this number, and reading its file gives this value. -/
def Finds (suffix : Bytes) (read : Bytes → Nat → Bytes → GuiResult (Option α)) (name : Bytes)
    (revision : Nat) (v : α) : Prop :=
  suffix.isSuffixOf name = true ∧ ∃ digestHex,
    parseNumberDigestFilename name suffix = some (revision, digestHex) ∧
      read name revision digestHex = .ok (some v)

/-- The scan can go on over the name: it is not one of those it reads, it is passed over, or it
is read to the value its number stands for. -/
def Admits (suffix : Bytes) (read : Bytes → Nat → Bytes → GuiResult (Option α))
    (target : Nat → Option α) (name : Bytes) : Prop :=
  suffix.isSuffixOf name = true → ∃ revision digestHex,
    parseNumberDigestFilename name suffix = some (revision, digestHex) ∧
      (read name revision digestHex = .ok none ∨
        ∃ v, read name revision digestHex = .ok (some v) ∧ target revision = some v)

private theorem scan_skip {name : Bytes} (names : List Bytes) (inspected : Nat)
    (found : Std.ExtTreeMap Nat α) (h : suffix.isSuffixOf name = false) :
    scanNumberedFiles suffix read digestOf (name :: names) inspected found =
      scanNumberedFiles suffix read digestOf names inspected found := by
  rw [scanNumberedFiles, h]
  rfl

private theorem scan_pass {name : Bytes} (names : List Bytes) (inspected : Nat)
    (found : Std.ExtTreeMap Nat α) {revision : Nat} {digestHex : Bytes}
    (h : suffix.isSuffixOf name = true) (hi : inspected < maxWorkspaceRevisionsV1)
    (hparse : parseNumberDigestFilename name suffix = some (revision, digestHex))
    (hread : read name revision digestHex = .ok none) :
    scanNumberedFiles suffix read digestOf (name :: names) inspected found =
      scanNumberedFiles suffix read digestOf names (inspected + 1) found := by
  have hi' : ¬ maxWorkspaceRevisionsV1 < inspected + 1 := by omega
  rw [scanNumberedFiles, h]
  simp [hi', hparse, hread, bind, Except.bind]

private theorem scan_insert {name : Bytes} (names : List Bytes) (inspected : Nat)
    (found : Std.ExtTreeMap Nat α) {revision : Nat} {digestHex : Bytes} {v : α}
    (h : suffix.isSuffixOf name = true) (hi : inspected < maxWorkspaceRevisionsV1)
    (hparse : parseNumberDigestFilename name suffix = some (revision, digestHex))
    (hread : read name revision digestHex = .ok (some v))
    (hprior : ∀ w, found[revision]? = some w → w = v) :
    scanNumberedFiles suffix read digestOf (name :: names) inspected found =
      scanNumberedFiles suffix read digestOf names (inspected + 1) (found.insert revision v) := by
  have hi' : ¬ maxWorkspaceRevisionsV1 < inspected + 1 := by omega
  have hsame : found[revision]?.any (fun w ↦ !decide (digestOf w = digestOf v)) = false := by
    cases hw : found[revision]? with
    | none => rfl
    | some w => simp [hprior w hw]
  rw [scanNumberedFiles, h]
  simp [hi', hparse, hread, bind, Except.bind, hsame]

private theorem getElem?_insert_eq_some (found : Std.ExtTreeMap Nat α) (revision r : Nat)
    (v w : α) : (found.insert revision v)[r]? = some w ↔
      (r = revision ∧ w = v) ∨ (r ≠ revision ∧ found[r]? = some w) := by
  rw [Std.ExtTreeMap.getElem?_insert]
  by_cases hr : r = revision
  · simp [hr, eq_comm]
  · have hcmp : ¬ compare revision r = .eq := by
      intro h
      exact hr (Std.LawfulEqCmp.eq_of_compare h).symm
    simp [hcmp, hr]

private theorem scan_eq_ok (target : Nat → Option α) (names : List Bytes)
    (hnames : ∀ name ∈ names, Admits suffix read target name) (inspected : Nat)
    (found : Std.ExtTreeMap Nat α)
    (hfound : ∀ revision v, found[revision]? = some v → target revision = some v)
    (hcount : inspected + names.countP suffix.isSuffixOf ≤ maxWorkspaceRevisionsV1) :
    ∃ m, scanNumberedFiles suffix read digestOf names inspected found = .ok m ∧
      ∀ revision v, m[revision]? = some v ↔ found[revision]? = some v ∨
        ∃ name ∈ names, Finds suffix read name revision v := by
  induction names generalizing inspected found with
  | nil => exact ⟨found, rfl, by simp⟩
  | cons name names ih =>
    have hrest : ∀ n ∈ names, Admits suffix read target n := by
      intro n hn
      exact hnames n (List.mem_cons_of_mem name hn)
    cases hsuffix : suffix.isSuffixOf name with
    | false =>
      rw [List.countP_cons_of_neg (by simp [hsuffix])] at hcount
      obtain ⟨m, hm, hmem⟩ := ih hrest inspected found hfound hcount
      have hnot : ∀ r w, ¬ Finds suffix read name r w := by
        rintro r w ⟨h, -⟩
        rw [hsuffix] at h
        cases h
      refine ⟨m, by rw [scan_skip names inspected found hsuffix, hm], ?_⟩
      intro r w
      simp [hmem r w, hnot]
    | true =>
      rw [List.countP_cons_of_pos (by simp [hsuffix])] at hcount
      obtain ⟨revision, digestHex, hparse, hnone | ⟨v, hsome, htarget⟩⟩ :=
        hnames name List.mem_cons_self hsuffix
      · obtain ⟨m, hm, hmem⟩ := ih hrest (inspected + 1) found hfound (by omega)
        have hnot : ∀ r w, ¬ Finds suffix read name r w := by
          rintro r w ⟨-, d, hd, hr⟩
          rw [hparse] at hd
          cases hd
          rw [hnone] at hr
          cases hr
        refine ⟨m, by rw [scan_pass names inspected found hsuffix (by omega) hparse hnone, hm], ?_⟩
        intro r w
        simp [hmem r w, hnot]
      · have hprior : ∀ w, found[revision]? = some w → w = v := by
          intro w hw
          have hw' := hfound revision w hw
          rw [htarget] at hw'
          exact (Option.some.inj hw').symm
        have hinsert : ∀ r w, (found.insert revision v)[r]? = some w → target r = some w := by
          intro r w hw
          rcases (getElem?_insert_eq_some found revision r v w).mp hw with ⟨rfl, rfl⟩ | ⟨-, hw⟩
          · exact htarget
          · exact hfound r w hw
        have hfinds : ∀ r w, Finds suffix read name r w ↔ r = revision ∧ w = v := by
          intro r w
          constructor
          · rintro ⟨-, d, hd, hr⟩
            rw [hparse] at hd
            cases hd
            rw [hsome] at hr
            cases hr
            exact ⟨rfl, rfl⟩
          · rintro ⟨rfl, rfl⟩
            exact ⟨hsuffix, digestHex, hparse, hsome⟩
        obtain ⟨m, hm, hmem⟩ :=
          ih hrest (inspected + 1) (found.insert revision v) hinsert (by omega)
        refine ⟨m, ?_, ?_⟩
        · rw [scan_insert names inspected found hsuffix (by omega) hparse hsome hprior, hm]
        · intro r w
          rw [hmem r w, getElem?_insert_eq_some]
          simp only [List.mem_cons, exists_eq_or_imp, hfinds]
          by_cases hr : r = revision
          · subst hr
            have hw : found[r]? = some w → w = v := hprior w
            grind
          · grind

/-- A scan over names that all agree with one assignment of values to numbers, and among which
every value is found, returns that assignment. -/
theorem scanNumberedFiles_eq_ok (digestOf : α → Bytes) (target : Nat → Option α)
    (names : List Bytes)
    (hnames : ∀ name ∈ names, Admits suffix read target name)
    (htarget : ∀ revision v, target revision = some v →
      ∃ name ∈ names, Finds suffix read name revision v)
    (hcount : names.countP suffix.isSuffixOf ≤ maxWorkspaceRevisionsV1) :
    ∃ m, scanNumberedFiles suffix read digestOf names 0 ∅ = .ok m ∧
      ∀ revision, m[revision]? = target revision := by
  obtain ⟨m, hm, hmem⟩ := scan_eq_ok target names hnames 0 ∅ (by simp) (by omega)
  refine ⟨m, hm, ?_⟩
  intro revision
  apply Option.ext
  intro v
  rw [hmem revision v]
  constructor
  · rintro (h | ⟨name, hname, hsuffix, digestHex, hparse, hread⟩)
    · simp at h
    · obtain ⟨r, d, hparse', hcase⟩ := hnames name hname hsuffix
      rw [hparse] at hparse'
      cases hparse'
      rcases hcase with hnone | ⟨w, hsome, hw⟩
      · rw [hread] at hnone
        cases hnone
      · rw [hread] at hsome
        cases hsome
        exact hw
  · intro h
    exact Or.inr (htarget revision v h)

end Scan

/-! ### Commit markers -/

section Loading

variable {platform : Platform} {workspaceId : Text} {history : List StoredRevision}

/-- A revision number of the history has at most ten digits. -/
private theorem revision_lt {i : Nat} {s : StoredRevision} (hi : history[i]? = some s)
    (hlength : history.length ≤ maxWorkspaceRevisionsV1) : i + 1 < 10 ^ 10 := by
  have hlt : i < history.length := (List.getElem?_eq_some_iff.mp hi).1
  have hmax : maxWorkspaceRevisionsV1 < 10 ^ 10 := by decide
  omega

/-- The names of one kind are no more than the revisions they stand for. -/
theorem countP_keys_le {d : Directory} {suffix : Bytes}
    {nameAt : Nat → StoredRevision → Bytes}
    (honly : ∀ name ∈ d, suffix.isSuffixOf name = true →
      ∃ i s, history[i]? = some s ∧ name = nameAt i s) :
    d.keys.countP suffix.isSuffixOf ≤ history.length := by
  have hsubset : d.keys.filter suffix.isSuffixOf ⊆ history.mapIdx nameAt := by
    intro name hname
    rw [List.mem_filter] at hname
    obtain ⟨i, s, hi, rfl⟩ := honly name (AList.mem_keys.mpr hname.1) hname.2
    rw [List.mem_mapIdx]
    obtain ⟨hlt, hget⟩ := List.getElem?_eq_some_iff.mp hi
    exact ⟨i, hlt, by rw [hget]⟩
  have hnodup : (d.keys.filter suffix.isSuffixOf).Nodup := d.keys_nodup.filter _
  have hle := (List.subperm_of_subset hnodup hsubset).length_le
  rw [List.length_mapIdx] at hle
  rwa [List.countP_eq_length_filter]

/-- Sorted keys with the right members are the numbers from one to the length. -/
private theorem keys_eq_range' {α : Type} {m : Std.ExtTreeMap Nat α} (n : Nat)
    (h : ∀ revision, revision ∈ m ↔ 1 ≤ revision ∧ revision ≤ n) :
    m.keys = List.range' 1 n := by
  have hperm : m.keys.Perm (List.range' 1 n) := by
    rw [List.perm_ext_iff_of_nodup m.nodup_keys List.nodup_range']
    intro revision
    rw [Std.ExtTreeMap.mem_keys, h revision, List.mem_range'_1]
    omega
  have hkeys : m.keys.Pairwise (· < ·) := by
    refine m.ordered_keys.imp ?_
    intro a b hab
    exact Nat.compare_eq_lt.mp hab
  exact hperm.eq_of_pairwise (fun a b _ _ hab hba ↦ absurd (Nat.lt_trans hab hba) (Nat.lt_irrefl a))
    hkeys List.pairwise_lt_range'

private theorem areContiguousFrom_range' (start n : Nat) :
    areContiguousFrom start (List.range' start n) = true := by
  induction n generalizing start with
  | zero => rfl
  | succ n ih =>
    rw [List.range'_succ, areContiguousFrom, ih]
    simp

/-- The revision that a number stands for. -/
def revisionAt (history : List StoredRevision) : Nat → Option StoredRevision
  | 0 => none
  | revision + 1 => history[revision]?

theorem revisionAt_eq_some {revision : Nat} {s : StoredRevision} :
    revisionAt history revision = some s ↔ ∃ i, history[i]? = some s ∧ revision = i + 1 := by
  cases revision with
  | zero => simp [revisionAt]
  | succ i =>
    simp only [revisionAt, Nat.add_right_cancel_iff]
    constructor
    · intro h
      exact ⟨i, h, rfl⟩
    · rintro ⟨j, h, rfl⟩
      exact h

private theorem readCommitMarker_eq_ok {commits : Directory} {i : Nat} {s : StoredRevision}
    (hid : workspaceIdIsValid workspaceId)
    (hcommits : IsCommitDirectory platform workspaceId history commits)
    (hlength : history.length ≤ maxWorkspaceRevisionsV1) (hi : history[i]? = some s) :
    readCommitMarker commits (commitFilename (i + 1) (s.digestHex platform)) (i + 1)
      (s.digestHex platform) workspaceId = .ok ⟨workspaceId, i + 1, s.digestHex platform⟩ := by
  obtain ⟨marker, hencode, hlookup⟩ := hcommits.present i s hi
  have hrevision : i + 1 < 2 ^ 64 := Nat.lt_trans (revision_lt hi hlength) (by decide)
  obtain ⟨marker', hencode', hsize, hdecode⟩ :=
    exists_encodeCommitMarker hid (digestHexIsCanonical_digestHex platform s) hrevision
  rw [hencode] at hencode'
  cases hencode'
  rw [readCommitMarker, hlookup]
  simp [Nat.not_lt.mpr hsize, hdecode, bind, Except.bind]

private theorem readCommittedDigest_eq_ok {commits : Directory} {i : Nat} {s : StoredRevision}
    (hid : workspaceIdIsValid workspaceId)
    (hcommits : IsCommitDirectory platform workspaceId history commits)
    (hlength : history.length ≤ maxWorkspaceRevisionsV1) (hi : history[i]? = some s) :
    readCommittedDigest commits workspaceId (commitFilename (i + 1) (s.digestHex platform)) (i + 1)
      (s.digestHex platform) = .ok (some (s.digestHex platform)) := by
  rw [readCommittedDigest, readCommitMarker_eq_ok hid hcommits hlength hi]
  rfl

/-- The digests that the numbers of a history stand for. -/
def digestAt (platform : Platform) (history : List StoredRevision) (revision : Nat) :
    Option Bytes :=
  (revisionAt history revision).map (·.digestHex platform)

/-- The markers of a history are loaded as the map from its numbers to its digests. -/
theorem loadCommitMarkers_eq_ok {commits : Directory} (hid : workspaceIdIsValid workspaceId)
    (hcommits : IsCommitDirectory platform workspaceId history commits)
    (hlength : history.length ≤ maxWorkspaceRevisionsV1) :
    ∃ m, loadCommitMarkers platform commits workspaceId = .ok m ∧
      (∀ revision, m[revision]? = digestAt platform history revision) ∧
      m.keys = List.range' 1 history.length := by
  have hperm := platform.readDir_perm commits.keys
  have hadmits : ∀ name ∈ platform.readDir commits.keys, Admits commitFileSuffix
      (readCommittedDigest commits workspaceId) (digestAt platform history) name := by
    intro name hname hsuffix
    have hmem : name ∈ commits := AList.mem_keys.mpr (hperm.mem_iff.mp hname)
    obtain ⟨i, s, hi, rfl⟩ := hcommits.only name hmem hsuffix
    refine ⟨i + 1, s.digestHex platform, ?_, Or.inr ⟨s.digestHex platform, ?_, ?_⟩⟩
    · exact parseNumberDigestFilename_numberDigestFilename _ _ _ (revision_lt hi hlength)
        (digestHexIsCanonical_digestHex platform s)
    · exact readCommittedDigest_eq_ok hid hcommits hlength hi
    · simp [digestAt, revisionAt, hi]
  have hfinds : ∀ revision digestHex, digestAt platform history revision = some digestHex →
      ∃ name ∈ platform.readDir commits.keys, Finds commitFileSuffix
        (readCommittedDigest commits workspaceId) name revision digestHex := by
    intro revision digestHex h
    obtain ⟨s, hs, rfl⟩ := Option.map_eq_some_iff.mp h
    obtain ⟨i, hi, rfl⟩ := revisionAt_eq_some.mp hs
    obtain ⟨marker, -, hlookup⟩ := hcommits.present i s hi
    refine ⟨commitFilename (i + 1) (s.digestHex platform), ?_, ?_, s.digestHex platform, ?_, ?_⟩
    · rw [hperm.mem_iff, ← AList.mem_keys, ← AList.lookup_isSome, hlookup]
      rfl
    · exact isSuffixOf_numberDigestFilename _ _ _
    · exact parseNumberDigestFilename_numberDigestFilename _ _ _ (revision_lt hi hlength)
        (digestHexIsCanonical_digestHex platform s)
    · exact readCommittedDigest_eq_ok hid hcommits hlength hi
  have hcount : (platform.readDir commits.keys).countP commitFileSuffix.isSuffixOf ≤
      maxWorkspaceRevisionsV1 := by
    rw [hperm.countP_eq]
    exact Nat.le_trans (countP_keys_le hcommits.only) hlength
  obtain ⟨m, hm, hget⟩ := scanNumberedFiles_eq_ok id (digestAt platform history)
    (platform.readDir commits.keys) hadmits hfinds hcount
  have hkeys : m.keys = List.range' 1 history.length := by
    apply keys_eq_range'
    intro revision
    rw [Std.ExtTreeMap.mem_iff_isSome_getElem?, hget revision]
    cases revision with
    | zero => simp [digestAt, revisionAt]
    | succ i =>
      have hsome : (digestAt platform history (i + 1)).isSome ↔ i < history.length := by
        simp [digestAt, revisionAt]
      rw [hsome]
      omega
  refine ⟨m, ?_, hget, hkeys⟩
  rw [loadCommitMarkers, hm]
  simp [bind, Except.bind, hkeys, areContiguousFrom_range']

/-! ### Revision files -/

private theorem readValidRevisionFile_eq_ok {revisions : Directory} {i : Nat} {s : StoredRevision}
    (hchain : IsChain platform workspaceId history)
    (hrevisions : IsRevisionDirectory platform history revisions)
    (hsize : s.payload.length ≤ maxWorkspaceRevisionBytesV1) (hi : history[i]? = some s) :
    readValidRevisionFile platform revisions (revisionFilename (i + 1) (s.digestHex platform))
      (i + 1) (s.digestHex platform) workspaceId =
        .ok ⟨i + 1, s.digestHex platform, s.payload⟩ := by
  have hmem : s ∈ history := List.mem_of_getElem? hi
  have hdigest : revisionDigestHex platform s.payload = s.digestHex platform := rfl
  rw [readValidRevisionFile, hrevisions.present i s hi]
  simp [Nat.not_lt.mpr hsize, hdigest, hchain.decodes s hmem, hchain.revision i s hi,
    hchain.workspaceId s hmem, bind, Except.bind]

/-- The valid revisions that the numbers of a history stand for. -/
def validAt (platform : Platform) (history : List StoredRevision) (revision : Nat) :
    Option ValidRevision :=
  (revisionAt history revision).map fun s ↦ ⟨revision, s.digestHex platform, s.payload⟩

/-- The files of a history are loaded as the map from its numbers to its revisions. -/
theorem loadCommittedRevisionFiles_eq_ok {revisions : Directory}
    (hchain : IsChain platform workspaceId history)
    (hrevisions : IsRevisionDirectory platform history revisions)
    (hlength : history.length ≤ maxWorkspaceRevisionsV1)
    (hsize : ∀ s ∈ history, s.payload.length ≤ maxWorkspaceRevisionBytesV1)
    (hcount : revisions.keys.countP revisionFileSuffix.isSuffixOf ≤ maxWorkspaceRevisionsV1) :
    ∃ m, loadCommittedRevisionFiles platform revisions workspaceId history.length = .ok m ∧
      ∀ revision, m[revision]? = validAt platform history revision := by
  have hperm := platform.readDir_perm revisions.keys
  have hread : ∀ i s, history[i]? = some s →
      readCommittedRevision platform revisions workspaceId history.length
        (revisionFilename (i + 1) (s.digestHex platform)) (i + 1) (s.digestHex platform) =
          .ok (some ⟨i + 1, s.digestHex platform, s.payload⟩) := by
    intro i s hi
    have hlt : i < history.length := (List.getElem?_eq_some_iff.mp hi).1
    rw [readCommittedRevision, if_neg (by omega), readValidRevisionFile_eq_ok hchain hrevisions
      (hsize s (List.mem_of_getElem? hi)) hi]
    rfl
  apply scanNumberedFiles_eq_ok
  · intro name hname hsuffix
    have hmem : name ∈ revisions := AList.mem_keys.mpr (hperm.mem_iff.mp hname)
    rcases hrevisions.only name hmem hsuffix with
      ⟨i, s, hi, rfl⟩ | ⟨revision, digestHex, habove, hdigits, hdigest, rfl⟩
    · refine ⟨i + 1, s.digestHex platform, ?_, Or.inr ⟨_, hread i s hi, ?_⟩⟩
      · exact parseNumberDigestFilename_numberDigestFilename _ _ _ (revision_lt hi hlength)
          (digestHexIsCanonical_digestHex platform s)
      · simp [validAt, revisionAt, hi]
    · refine ⟨revision, digestHex, ?_, Or.inl ?_⟩
      · exact parseNumberDigestFilename_numberDigestFilename _ _ _ hdigits hdigest
      · rw [readCommittedRevision, if_pos habove]
  · intro revision valid h
    obtain ⟨s, hs, rfl⟩ := Option.map_eq_some_iff.mp h
    obtain ⟨i, hi, rfl⟩ := revisionAt_eq_some.mp hs
    refine ⟨revisionFilename (i + 1) (s.digestHex platform), ?_, ?_, s.digestHex platform, ?_,
      hread i s hi⟩
    · rw [hperm.mem_iff, ← AList.mem_keys, ← AList.lookup_isSome, hrevisions.present i s hi]
      rfl
    · exact isSuffixOf_numberDigestFilename _ _ _
    · exact parseNumberDigestFilename_numberDigestFilename _ _ _ (revision_lt hi hlength)
        (digestHexIsCanonical_digestHex platform s)
  · rw [hperm.countP_eq]
    exact hcount

/-! ### The walk -/

private theorem validatePredecessor_eq_ok (hchain : IsChain platform workspaceId history) {i : Nat}
    {s : StoredRevision} (hi : history[i]? = some s) :
    validatePredecessor s.record (i + 1) (digestAt platform history i) = .ok () := by
  have hpredecessor := hchain.predecessor i s hi
  have hlt : i < history.length := (List.getElem?_eq_some_iff.mp hi).1
  have hrevision : ¬ s.record.revision ≠ i + 1 := not_not.mpr (hchain.revision i s hi)
  unfold validatePredecessor
  rw [if_neg hrevision, hpredecessor]
  cases i with
  | zero => rfl
  | succ j =>
    have hlt' : j < history.length := by omega
    have hj : history[j]? = some history[j] := List.getElem?_eq_getElem hlt'
    simp [predecessorAt, digestAt, revisionAt, hj]

-- By induction on the number of revisions still to come; the digest carried along is that of
-- the last one passed.
private theorem walk_eq_ok (hchain : IsChain platform workspaceId history)
    {committed : Std.ExtTreeMap Nat Bytes} {observed : Std.ExtTreeMap Nat ValidRevision}
    (hcommitted : ∀ revision, committed[revision]? = digestAt platform history revision)
    (hobserved : ∀ revision, observed[revision]? = validAt platform history revision)
    (remaining i : Nat)
    (hi : i + remaining = history.length) :
    walkCommittedHistory committed observed (List.range' (i + 1) remaining)
      (digestAt platform history i) = .ok ((committedRevisions platform history).drop i) := by
  induction remaining generalizing i with
  | zero =>
    have hdrop : (committedRevisions platform history).drop i = [] := by
      apply List.drop_eq_nil_of_le
      rw [committedRevisions, List.length_mapIdx]
      omega
    rw [hdrop]
    rfl
  | succ remaining ih =>
    have hlt : i < history.length := by omega
    have hget : history[i]? = some history[i] := List.getElem?_eq_getElem hlt
    have hdigest : digestAt platform history (i + 1) = some (history[i].digestHex platform) := by
      simp [digestAt, revisionAt, hget]
    have hvalid : observed[i + 1]? =
        some ⟨i + 1, history[i].digestHex platform, history[i].payload⟩ := by
      simp [hobserved, validAt, revisionAt, hget]
    have hdecode := hchain.decodes history[i] (List.getElem_mem hlt)
    have hdrop : (committedRevisions platform history).drop i =
        ⟨i + 1, history[i].digestHex platform, history[i].record⟩ ::
          (committedRevisions platform history).drop (i + 1) := by
      have hlt' : i < (committedRevisions platform history).length := by
        rwa [committedRevisions, List.length_mapIdx]
      rw [List.drop_eq_getElem_cons hlt']
      simp [committedRevisions]
    have hrest := ih (i + 1) (by omega)
    rw [hdigest] at hrest
    rw [List.range'_succ, walkCommittedHistory, hcommitted, hdigest, hvalid, hdrop]
    simp [hdecode, validatePredecessor_eq_ok hchain hget, hrest, bind, Except.bind]

/-- The last of the numbers from one on. -/
theorem getLast?_range' (n : Nat) :
    (List.range' 1 n).getLast? = if n = 0 then none else some n := by
  cases n with
  | zero => rfl
  | succ n =>
    rw [List.range'_concat, List.getLast?_append]
    simp [Nat.add_comm]

/-- The directories of a history are loaded as that history. -/
theorem loadHistoryFrom_eq_ok {revisions commits : Directory}
    (hid : workspaceIdIsValid workspaceId) (hchain : IsChain platform workspaceId history)
    (hcommits : IsCommitDirectory platform workspaceId history commits)
    (hrevisions : IsRevisionDirectory platform history revisions)
    (hlength : history.length ≤ maxWorkspaceRevisionsV1)
    (hsize : ∀ s ∈ history, s.payload.length ≤ maxWorkspaceRevisionBytesV1)
    (hcount : revisions.keys.countP revisionFileSuffix.isSuffixOf ≤ maxWorkspaceRevisionsV1)
    (hempty : history = [] → hasRevisionFiles revisions = false) :
    loadHistoryFrom platform revisions commits workspaceId =
      .ok (committedRevisions platform history) := by
  obtain ⟨committed, hload, hcommitted, hkeys⟩ :=
    loadCommitMarkers_eq_ok hid hcommits hlength
  rw [loadHistoryFrom, hload]
  simp only [bind, Except.bind, hkeys, getLast?_range']
  by_cases hnil : history.length = 0
  · have hnil' : history = [] := List.length_eq_zero_iff.mp hnil
    simp [hempty hnil', hnil', committedRevisions]
  · obtain ⟨observed, hobserve, hobserved⟩ :=
      loadCommittedRevisionFiles_eq_ok hchain hrevisions hlength hsize hcount
    have hwalk := walk_eq_ok hchain hcommitted hobserved history.length 0 (by omega)
    simp only [hnil, if_false, hobserve]
    exact hwalk

end Loading

/-! ### Growing a history -/

section Growing

variable {platform : Platform} {workspaceId : Text} {history : List StoredRevision}

private theorem predecessorAt_concat (s : StoredRevision) (i : Nat) (hi : i ≤ history.length) :
    predecessorAt platform (history ++ [s]) i = predecessorAt platform history i := by
  cases i with
  | zero => rfl
  | succ j => rw [predecessorAt, predecessorAt, List.getElem?_append_left (by omega)]

private theorem getElem?_concat {s t : StoredRevision} {i : Nat}
    (h : (history ++ [s])[i]? = some t) :
    history[i]? = some t ∨ (i = history.length ∧ t = s) := by
  rcases Nat.lt_trichotomy i history.length with hlt | heq | hgt
  · rw [List.getElem?_append_left hlt] at h
    exact Or.inl h
  · rw [heq, List.getElem?_concat_length] at h
    exact Or.inr ⟨heq, (Option.some.inj h).symm⟩
  · rw [List.getElem?_eq_none (by simp; omega)] at h
    cases h

theorem getElem?_concat_of_some {s t : StoredRevision} {i : Nat}
    (h : history[i]? = some t) : (history ++ [s])[i]? = some t := by
  rw [List.getElem?_append_left (List.getElem?_eq_some_iff.mp h).1]
  exact h

/-- A chain grows by a revision that carries the next number and names the last one. -/
theorem IsChain.concat (h : IsChain platform workspaceId history) {s : StoredRevision}
    (hdecode : decodeWorkspace s.payload = .ok s.record)
    (hid : s.record.workspaceId = workspaceId) (hrevision : s.record.revision = history.length + 1)
    (hpredecessor : s.record.predecessor = predecessorAt platform history history.length) :
    IsChain platform workspaceId (history ++ [s]) := by
  constructor
  · intro t ht
    rcases List.mem_append.mp ht with ht | ht
    · exact h.decodes t ht
    · rw [List.mem_singleton.mp ht]
      exact hdecode
  · intro t ht
    rcases List.mem_append.mp ht with ht | ht
    · exact h.workspaceId t ht
    · rw [List.mem_singleton.mp ht]
      exact hid
  · intro i t hi
    rcases getElem?_concat hi with hi | ⟨rfl, rfl⟩
    · exact h.revision i t hi
    · exact hrevision
  · intro i t hi
    rcases getElem?_concat hi with hi | ⟨rfl, rfl⟩
    · have hle : i ≤ history.length := Nat.le_of_lt (List.getElem?_eq_some_iff.mp hi).1
      rw [predecessorAt_concat s i hle]
      exact h.predecessor i t hi
    · rw [predecessorAt_concat t _ (Nat.le_refl _)]
      exact hpredecessor

/-- The marker of the next revision extends the commit directory. -/
theorem IsCommitDirectory.concat {commits : Directory} {s : StoredRevision} {marker : Bytes}
    (h : IsCommitDirectory platform workspaceId history commits)
    (hmarker : encodeCommitMarker
      ⟨workspaceId, history.length + 1, s.digestHex platform⟩ = .ok marker)
    (hnew : commitFilename (history.length + 1) (s.digestHex platform) ∉ commits) :
    IsCommitDirectory platform workspaceId (history ++ [s])
      (commits.insert (commitFilename (history.length + 1) (s.digestHex platform)) marker) := by
  constructor
  · intro i t hi
    rcases getElem?_concat hi with hi | ⟨rfl, rfl⟩
    · obtain ⟨m, hm, hlookup⟩ := h.present i t hi
      refine ⟨m, hm, ?_⟩
      have hmem : commitFilename (i + 1) (t.digestHex platform) ∈ commits := by
        rw [← AList.lookup_isSome, hlookup]
        rfl
      have hne : commitFilename (i + 1) (t.digestHex platform) ≠
          commitFilename (history.length + 1) (s.digestHex platform) := by
        intro heq
        rw [heq] at hmem
        exact hnew hmem
      rw [AList.lookup_insert_ne hne]
      exact hlookup
    · exact ⟨marker, hmarker, AList.lookup_insert commits⟩
  · intro name hname hsuffix
    rcases (AList.mem_insert commits).mp hname with rfl | hname
    · exact ⟨history.length, s, List.getElem?_concat_length, rfl⟩
    · obtain ⟨i, t, hi, rfl⟩ := h.only name hname hsuffix
      exact ⟨i, t, getElem?_concat_of_some hi, rfl⟩

/-- A file that no reader takes for a revision changes nothing. -/
theorem IsRevisionDirectory.insert_other {revisions : Directory}
    (h : IsRevisionDirectory platform history revisions) {name bytes : Bytes}
    (hname : revisionFileSuffix.isSuffixOf name = false) :
    IsRevisionDirectory platform history (revisions.insert name bytes) := by
  constructor
  · intro i s hi
    have hne : revisionFilename (i + 1) (s.digestHex platform) ≠ name := by
      rintro rfl
      rw [revisionFilename, isSuffixOf_numberDigestFilename] at hname
      cases hname
    rw [AList.lookup_insert_ne hne]
    exact h.present i s hi
  · intro n hn hsuffix
    rcases (AList.mem_insert revisions).mp hn with rfl | hn
    · rw [hname] at hsuffix
      cases hsuffix
    · exact h.only n hn hsuffix

/-- Neither does its removal. -/
theorem IsRevisionDirectory.erase_other {revisions : Directory}
    (h : IsRevisionDirectory platform history revisions) {name : Bytes}
    (hname : revisionFileSuffix.isSuffixOf name = false) :
    IsRevisionDirectory platform history (revisions.erase name) := by
  constructor
  · intro i s hi
    have hne : revisionFilename (i + 1) (s.digestHex platform) ≠ name := by
      rintro rfl
      rw [revisionFilename, isSuffixOf_numberDigestFilename] at hname
      cases hname
    rw [AList.lookup_erase_ne hne]
    exact h.present i s hi
  · intro n hn hsuffix
    exact h.only n (AList.mem_erase.mp hn).2 hsuffix

/-- A revision file above the head changes nothing below it. -/
theorem IsRevisionDirectory.insert_above {revisions : Directory}
    (h : IsRevisionDirectory platform history revisions) {revision : Nat}
    {digestHex bytes : Bytes} (habove : history.length < revision) (hdigits : revision < 10 ^ 10)
    (hdigest : digestHexIsCanonical digestHex = true)
    (hnew : revisionFilename revision digestHex ∉ revisions) :
    IsRevisionDirectory platform history
      (revisions.insert (revisionFilename revision digestHex) bytes) := by
  constructor
  · intro i s hi
    have hmem : revisionFilename (i + 1) (s.digestHex platform) ∈ revisions := by
      rw [← AList.lookup_isSome, h.present i s hi]
      rfl
    have hne : revisionFilename (i + 1) (s.digestHex platform) ≠
        revisionFilename revision digestHex := by
      intro heq
      rw [heq] at hmem
      exact hnew hmem
    rw [AList.lookup_insert_ne hne]
    exact h.present i s hi
  · intro n hn hsuffix
    rcases (AList.mem_insert revisions).mp hn with rfl | hn
    · exact Or.inr ⟨revision, digestHex, habove, hdigits, hdigest, rfl⟩
    · exact h.only n hn hsuffix

/-- The next revision joins the history if its file is the only one with its number. -/
theorem IsRevisionDirectory.concat {revisions : Directory} {s : StoredRevision}
    (h : IsRevisionDirectory platform history revisions)
    (hstored : revisions.lookup (revisionFilename (history.length + 1) (s.digestHex platform)) =
      some s.payload)
    (honly : ∀ digestHex, digestHexIsCanonical digestHex = true →
      revisionFilename (history.length + 1) digestHex ∈ revisions →
        digestHex = s.digestHex platform) :
    IsRevisionDirectory platform (history ++ [s]) revisions := by
  constructor
  · intro i t hi
    rcases getElem?_concat hi with hi | ⟨rfl, rfl⟩
    · exact h.present i t hi
    · exact hstored
  · intro name hname hsuffix
    rcases h.only name hname hsuffix with
      ⟨i, t, hi, rfl⟩ | ⟨revision, digestHex, habove, hdigits, hdigest, rfl⟩
    · exact Or.inl ⟨i, t, getElem?_concat_of_some hi, rfl⟩
    · by_cases hnext : revision = history.length + 1
      · subst hnext
        rw [honly digestHex hdigest hname]
        exact Or.inl ⟨history.length, s, List.getElem?_concat_length, rfl⟩
      · refine Or.inr ⟨revision, digestHex, ?_, hdigits, hdigest, rfl⟩
        rw [List.length_append, List.length_singleton]
        omega

end Growing

end PrivateBallot.GuiCore
