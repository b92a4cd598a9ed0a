import PrivateBallot.Archive.Manifest

/-!
# Archive directories

Library `Archive`. `crates/archive/src/verifier.rs:1070-1157`: what a directory holds, the file a
relative path names, and the walk that collects the regular files. Names are byte strings; one
that is not UTF-8 reaches the source as its lossy text, which like its bytes equals no catalog path.
-/

namespace PrivateBallot.Archive

open PrivateBallot.Base
open PrivateBallot.Protocol

/-- `ArchiveVerifierError` -/
inductive ArchiveVerifierError where
  | fileNotFound
  | ioFailure
  | protocolLimitExceeded
deriving DecidableEq, Repr

/-- `ArchiveVerifierError::code` -/
def ArchiveVerifierError.code : ArchiveVerifierError → String
  | .fileNotFound => "GUI_FILE_NOT_FOUND"
  | .ioFailure => "GUI_IO_ERROR"
  | .protocolLimitExceeded => "PROTOCOL_LIMIT_EXCEEDED"

/-- One entry of a directory; a special one is neither a regular file nor a directory. -/
inductive ArchiveEntry where
  | file (name : Bytes) (bytes : Bytes)
  | special (name : Bytes)
  | directory (name : Bytes) (entries : List ArchiveEntry)

namespace ArchiveEntry

/-- `file_name` -/
def name : ArchiveEntry → Bytes
  | file name _ => name
  | special name => name
  | directory name _ => name

end ArchiveEntry

/-- A path names a regular file with these bytes below a directory. -/
inductive HasFile : List ArchiveEntry → List Bytes → Bytes → Prop
  | file {entries : List ArchiveEntry} {name bytes : Bytes} (h : .file name bytes ∈ entries) :
      HasFile entries [name] bytes
  | nested {entries children : List ArchiveEntry} {name bytes : Bytes} {path : List Bytes}
      (h : .directory name children ∈ entries) (hfile : HasFile children path bytes) :
      HasFile entries (name :: path) bytes

/-- What file systems guarantee: the names in a directory are distinct, and none is empty or has
a separator in it. -/
inductive NamesAreSound : List ArchiveEntry → Prop
  | intro {entries : List ArchiveEntry} (hdistinct : (entries.map ArchiveEntry.name).Nodup)
      (hnames : ∀ entry ∈ entries, entry.name ≠ [] ∧ slash ∉ entry.name)
      (hnested : ∀ name children, .directory name children ∈ entries → NamesAreSound children) :
      NamesAreSound entries

/-- The path as the source writes it, with `/` between the names. -/
def joinPath (path : List Bytes) : Bytes := [slash].intercalate path

/-- The directory holds these bytes at this path. -/
def FileAt (entries : List ArchiveEntry) (path bytes : Bytes) : Prop :=
  ∃ names, HasFile entries names bytes ∧ joinPath names = path

/-! ### Reading a file -/

/-- The entry that a path names. An intermediate name has to be a directory. -/
def findEntry (entries : List ArchiveEntry) : List Bytes → Except ArchiveVerifierError ArchiveEntry
  | [] => .error .ioFailure
  | [name] => match entries.find? fun entry ↦ entry.name = name with
    | none => .error .fileNotFound
    | some entry => .ok entry
  | name :: next :: rest => match entries.find? fun entry ↦ entry.name = name with
    | none => .error .fileNotFound
    | some (.directory _ children) => findEntry children (next :: rest)
    | some _ => .error .ioFailure

/-- `MAX_GOVERNANCE_DOCUMENT_BYTES` -/
def maxGovernanceDocumentBytes : Nat := 50 * 1024 * 1024

/-- `GOVERNANCE_DOCUMENT_ARCHIVE_PATH` -/
def governanceDocumentArchivePath : Text := .lit "governance/source.bin"

/-- `read_bounded` and `read_bounded_archive_file` with their limits. -/
def readWithin (entries : List ArchiveEntry) (path : Text) (limit : Nat) :
    Except ArchiveVerifierError Bytes :=
  match findEntry entries (path.toBytes.splitOn slash) with
  | .error e => .error e
  | .ok (.file _ bytes) =>
    if limit < bytes.length then .error .protocolLimitExceeded else .ok bytes
  | .ok _ => .error .ioFailure

/-- `read_bounded` -/
def readBounded (entries : List ArchiveEntry) (path : Text) : Except ArchiveVerifierError Bytes :=
  readWithin entries path maxCanonicalObjectBytes

/-- The size limit of a content file. -/
def archiveFileLimit (relative : Text) : Nat :=
  if relative = governanceDocumentArchivePath then maxGovernanceDocumentBytes
  else maxCanonicalObjectBytes

/-- `read_bounded_archive_file` -/
def readBoundedArchiveFile (entries : List ArchiveEntry) (relative : Text) :
    Except ArchiveVerifierError Bytes :=
  readWithin entries relative (archiveFileLimit relative)

/-! ### The walk -/

/-- The regular files directly in a directory. -/
def filesIn (path : List Bytes) (entries : List ArchiveEntry) : List (List Bytes) :=
  entries.filterMap fun entry ↦ match entry with
    | .file name _ => some (path ++ [name])
    | _ => none

/-- The subdirectories that are pushed on the stack. -/
def subdirectoriesIn (path : List Bytes) (entries : List ArchiveEntry) :
    List (List Bytes × List ArchiveEntry) :=
  entries.filterMap fun entry ↦ match entry with
    | .directory name children => some (path ++ [name], children)
    | _ => none

mutual

/-- The number of directories in an entry. -/
def ArchiveEntry.directoryCount : ArchiveEntry → Nat
  | .file _ _ => 0
  | .special _ => 0
  | .directory _ children => 1 + directoryCountAll children

/-- The number of directories below a directory. -/
def directoryCountAll : List ArchiveEntry → Nat
  | [] => 0
  | entry :: rest => entry.directoryCount + directoryCountAll rest

end

/-- The loop of `enumerate_disk_files`, the top of the stack first. -/
def walk : Nat → List (List Bytes × List ArchiveEntry) → List (List Bytes)
  | 0, _ => []
  | _, [] => []
  | fuel + 1, (path, entries) :: stack =>
    filesIn path entries ++ walk fuel ((subdirectoriesIn path entries).reverse ++ stack)

/-- Neither the manifest nor a detached signature. -/
def isContentPath (path : Bytes) : Bool :=
  decide (path ≠ archiveManifestCanonicalPath.toBytes) &&
    !archiveSignaturePathPrefix.toBytes.isPrefixOf path

-- Every round takes one directory off the stack, so as many rounds as directories are enough.
/-- `enumerate_disk_files` -/
def enumerateDiskFiles (entries : List ArchiveEntry) : List Bytes :=
  ((walk (1 + directoryCountAll entries) [([], entries)]).map joinPath).filter isContentPath

/-! ### What the walk finds -/

private def stackCount (stack : List (List Bytes × List ArchiveEntry)) : Nat :=
  (stack.map fun pending ↦ 1 + directoryCountAll pending.2).sum

private theorem stackCount_subdirectoriesIn (path : List Bytes) (entries : List ArchiveEntry) :
    stackCount (subdirectoriesIn path entries) = directoryCountAll entries := by
  induction entries with
  | nil => rfl
  | cons entry rest ih =>
    cases entry with
    | directory name children =>
      rw [directoryCountAll, ← ih]
      rfl
    | file name bytes =>
      rw [directoryCountAll, ← ih, ArchiveEntry.directoryCount, Nat.zero_add]
      rfl
    | special name =>
      rw [directoryCountAll, ← ih, ArchiveEntry.directoryCount, Nat.zero_add]
      rfl

private theorem stackCount_append (a b : List (List Bytes × List ArchiveEntry)) :
    stackCount (a.reverse ++ b) = stackCount a + stackCount b := by
  simp only [stackCount, List.map_append, List.map_reverse, List.sum_append, List.sum_reverse]

-- A file below the top of the stack is in the directory itself or below a subdirectory.
private theorem hasFile_cases {entries : List ArchiveEntry} {path rest : List Bytes} :
    (∃ bytes, HasFile entries rest bytes) ↔
      path ++ rest ∈ filesIn path entries ∨
        ∃ pending ∈ subdirectoriesIn path entries, ∃ below bytes,
          HasFile pending.2 below bytes ∧ path ++ rest = pending.1 ++ below := by
  constructor
  · rintro ⟨bytes, hfile⟩
    cases hfile with
    | file h =>
      left
      exact List.mem_filterMap.mpr ⟨_, h, rfl⟩
    | @nested _ children name _ below h hbelow =>
      right
      refine ⟨(path ++ [name], children), List.mem_filterMap.mpr ⟨_, h, rfl⟩, below, bytes,
        hbelow, ?_⟩
      simp only [List.append_assoc, List.singleton_append]
  · rintro (hfile | ⟨pending, hpending, below, bytes, hbelow, heq⟩)
    · obtain ⟨entry, hentry, hname⟩ := List.mem_filterMap.mp hfile
      cases entry with
      | file name bytes =>
        have hrest : rest = [name] := by simpa using hname.symm
        subst hrest
        exact ⟨bytes, .file hentry⟩
      | special name => cases hname
      | directory name children => cases hname
    · obtain ⟨entry, hentry, hname⟩ := List.mem_filterMap.mp hpending
      cases entry with
      | file name bytes => cases hname
      | special name => cases hname
      | directory name children =>
        cases hname
        have hrest : rest = name :: below := by simpa using heq
        subst hrest
        exact ⟨bytes, .nested hentry hbelow⟩

private theorem mem_walk {fuel : Nat} {stack : List (List Bytes × List ArchiveEntry)}
    (hfuel : stackCount stack ≤ fuel) (target : List Bytes) :
    target ∈ walk fuel stack ↔ ∃ pending ∈ stack, ∃ rest bytes,
      HasFile pending.2 rest bytes ∧ target = pending.1 ++ rest := by
  induction fuel generalizing stack with
  | zero =>
    cases stack with
    | nil => simp [walk]
    | cons pending stack =>
      simp only [stackCount, List.map_cons, List.sum_cons] at hfuel
      omega
  | succ fuel ih =>
    cases stack with
    | nil => simp [walk]
    | cons pending stack =>
      obtain ⟨path, entries⟩ := pending
      have hcount : stackCount ((subdirectoriesIn path entries).reverse ++ stack) ≤ fuel := by
        rw [stackCount_append, stackCount_subdirectoriesIn]
        simp only [stackCount, List.map_cons, List.sum_cons] at hfuel ⊢
        omega
      rw [walk, List.mem_append, ih hcount]
      constructor
      · rintro (hfile | ⟨pending, hpending, rest, bytes, hbelow, rfl⟩)
        · obtain ⟨entry, hentry, hname⟩ := List.mem_filterMap.mp hfile
          cases entry with
          | file name bytes =>
            cases hname
            exact ⟨(path, entries), List.mem_cons_self, [name], bytes, .file hentry, rfl⟩
          | special name => cases hname
          | directory name children => cases hname
        · rcases List.mem_append.mp hpending with hsub | hold
          · have hsub := List.mem_reverse.mp hsub
            obtain ⟨entry, hentry, hname⟩ := List.mem_filterMap.mp hsub
            cases entry with
            | file name bytes => cases hname
            | special name => cases hname
            | directory name children =>
              cases hname
              refine ⟨(path, entries), List.mem_cons_self, name :: rest, bytes,
                .nested hentry hbelow, ?_⟩
              simp only [List.append_assoc, List.singleton_append]
          · exact ⟨pending, List.mem_cons_of_mem _ hold, rest, bytes, hbelow, rfl⟩
      · rintro ⟨pending, hpending, rest, bytes, hfile, rfl⟩
        rcases List.mem_cons.mp hpending with rfl | hold
        · rcases hasFile_cases.mp ⟨bytes, hfile⟩ with
            hdirect | ⟨sub, hsub, below, found, hbelow, heq⟩
          · exact Or.inl hdirect
          · right
            exact ⟨sub, List.mem_append_left _ (List.mem_reverse.mpr hsub), below, found, hbelow,
              heq⟩
        · right
          exact ⟨pending, List.mem_append_right _ hold, rest, bytes, hfile, rfl⟩

/-- The walk finds exactly the regular files, less the manifest and detached signatures. -/
theorem mem_enumerateDiskFiles (entries : List ArchiveEntry) (path : Bytes) :
    path ∈ enumerateDiskFiles entries ↔
      (∃ bytes, FileAt entries path bytes) ∧ isContentPath path = true := by
  have hfuel : stackCount [([], entries)] ≤ 1 + directoryCountAll entries := by
    simp [stackCount]
  rw [enumerateDiskFiles, List.mem_filter, List.mem_map]
  constructor
  · rintro ⟨⟨names, hwalk, rfl⟩, hcontent⟩
    obtain ⟨pending, hpending, rest, bytes, hfile, rfl⟩ := (mem_walk hfuel names).mp hwalk
    rw [List.mem_singleton.mp hpending] at hfile hcontent ⊢
    exact ⟨⟨bytes, rest, hfile, rfl⟩, hcontent⟩
  · rintro ⟨⟨bytes, names, hfile, rfl⟩, hcontent⟩
    have hwalk := (mem_walk hfuel names).mpr
      ⟨([], entries), List.mem_singleton_self _, names, bytes, hfile, rfl⟩
    exact ⟨⟨names, hwalk, rfl⟩, hcontent⟩

/-! ### What a path names -/

/-- An entry is found by its name. -/
theorem find?_of_mem {entries : List ArchiveEntry} {entry : ArchiveEntry}
    (hdistinct : (entries.map ArchiveEntry.name).Nodup) (h : entry ∈ entries) :
    entries.find? (fun candidate ↦ candidate.name = entry.name) = some entry := by
  induction entries with
  | nil => cases h
  | cons first rest ih =>
    rw [List.map_cons, List.nodup_cons] at hdistinct
    rcases List.mem_cons.mp h with rfl | hrest
    · simp
    · have hne : first.name ≠ entry.name := by
        intro heq
        exact hdistinct.1 (heq ▸ List.mem_map_of_mem hrest)
      rw [List.find?_cons_of_neg (by simpa using hne)]
      exact ih hdistinct.2 hrest

/-- A path finds a file exactly when it names one. -/
theorem findEntry_eq_file {entries : List ArchiveEntry} (h : NamesAreSound entries)
    (path : List Bytes) (bytes : Bytes) :
    (∃ name, findEntry entries path = .ok (.file name bytes)) ↔ HasFile entries path bytes := by
  induction path generalizing entries with
  | nil =>
    constructor
    · rintro ⟨name, hfind⟩
      cases hfind
    · intro hfile
      cases hfile
  | cons name rest ih =>
    obtain ⟨hdistinct, hnames, hnested⟩ := h
    cases rest with
    | nil =>
      constructor
      · rintro ⟨found, hfind⟩
        unfold findEntry at hfind
        split at hfind
        · cases hfind
        · next entry hentry =>
          cases hfind
          have hmatches := List.find?_some hentry
          have hname : found = name := of_decide_eq_true hmatches
          subst hname
          exact .file (List.mem_of_find?_eq_some hentry)
      · intro hfile
        cases hfile with
        | file hmem =>
          have hfind := find?_of_mem hdistinct hmem
          refine ⟨name, ?_⟩
          simp only [findEntry]
          rw [show (ArchiveEntry.file name bytes).name = name from rfl] at hfind
          rw [hfind]
        | nested hmem hbelow => cases hbelow
    | cons next rest =>
      constructor
      · rintro ⟨found, hfind⟩
        unfold findEntry at hfind
        split at hfind
        · cases hfind
        · next dirName children hentry =>
          have hmatches := List.find?_some hentry
          have hname : dirName = name := of_decide_eq_true hmatches
          subst hname
          have hmem := List.mem_of_find?_eq_some hentry
          exact .nested hmem ((ih (hnested _ _ hmem)).mp ⟨found, hfind⟩)
        · cases hfind
      · intro hfile
        cases hfile with
        | @nested _ children _ _ _ hmem hbelow =>
          have hfind := find?_of_mem hdistinct hmem
          rw [show (ArchiveEntry.directory name children).name = name from rfl] at hfind
          obtain ⟨found, hfound⟩ := (ih (hnested _ _ hmem)).mpr hbelow
          refine ⟨found, ?_⟩
          simp only [findEntry, hfind]
          exact hfound

/-- No name on the way to a file has a separator in it. -/
theorem splitOn_joinPath {entries : List ArchiveEntry} (h : NamesAreSound entries)
    {path : List Bytes} {bytes : Bytes} (hfile : HasFile entries path bytes) :
    (joinPath path).splitOn slash = path := by
  have hnames : ∀ name ∈ path, slash ∉ name := by
    induction hfile with
    | file hmem =>
      obtain ⟨-, hnames, -⟩ := h
      intro name hname
      rw [List.mem_singleton.mp hname]
      exact (hnames _ hmem).2
    | nested hmem hbelow ih =>
      obtain ⟨-, hnames, hnested⟩ := h
      intro name hname
      rcases List.mem_cons.mp hname with rfl | hrest
      · exact (hnames _ hmem).2
      · exact ih (hnested _ _ hmem) name hrest
  have hpath : path ≠ [] := by
    cases hfile with
    | file hmem => exact List.cons_ne_nil _ _
    | nested hmem hbelow => exact List.cons_ne_nil _ _
  exact List.splitOn_intercalate slash hnames hpath

/-- The file at a path is found name by name. -/
theorem fileAt_iff {entries : List ArchiveEntry} (h : NamesAreSound entries) (path bytes : Bytes) :
    FileAt entries path bytes ↔ HasFile entries (path.splitOn slash) bytes := by
  constructor
  · rintro ⟨names, hfile, rfl⟩
    rwa [splitOn_joinPath h hfile]
  · intro hfile
    exact ⟨_, hfile, List.intercalate_splitOn slash⟩

/-- A path has the bytes of one file. -/
theorem FileAt.unique {entries : List ArchiveEntry} (h : NamesAreSound entries)
    {path bytes bytes' : Bytes} (hfile : FileAt entries path bytes)
    (hfile' : FileAt entries path bytes') : bytes = bytes' := by
  rw [fileAt_iff h, ← findEntry_eq_file h] at hfile hfile'
  obtain ⟨name, hfind⟩ := hfile
  obtain ⟨name', hfind'⟩ := hfile'
  rw [hfind] at hfind'
  cases hfind'
  rfl

/-- What is read is the regular file that the path names, within the limit. -/
theorem readWithin_eq_ok {entries : List ArchiveEntry} (h : NamesAreSound entries) (path : Text)
    (limit : Nat) (bytes : Bytes) :
    readWithin entries path limit = .ok bytes ↔
      FileAt entries path.toBytes bytes ∧ bytes.length ≤ limit := by
  rw [fileAt_iff h, ← findEntry_eq_file h]
  unfold readWithin
  cases hfind : findEntry entries (path.toBytes.splitOn slash) with
  | error e => simp
  | ok entry =>
    cases entry with
    | file name content =>
      by_cases hlimit : limit < content.length
      · simp only [hlimit, if_true]
        constructor
        · intro hok
          cases hok
        · rintro ⟨⟨found, hsame⟩, hle⟩
          cases hsame
          omega
      · simp only [hlimit, if_false]
        constructor
        · intro hok
          cases hok
          exact ⟨⟨name, rfl⟩, Nat.le_of_not_lt hlimit⟩
        · rintro ⟨⟨found, hsame⟩, hle⟩
          cases hsame
          rfl
    | special name => simp
    | directory name children => simp

end PrivateBallot.Archive
