import PrivateBallot.GuiCore.ArchiveWriter

/-!
# Writing where there is room

Library `GuiCore`. Without a file operation that fails, the writer of `archive_writer.rs` puts a
file wherever its directory is there and its name is free. What is written leaves the directories
in place and the other names free.
-/

namespace PrivateBallot.GuiCore

open PrivateBallot.Base PrivateBallot.Protocol PrivateBallot.Archive

/-- The directories of a path are there. -/
def HasPlace : List ArchiveEntry → List Bytes → Prop
  | _, [] => False
  | _, [_] => True
  | entries, name :: next :: rest =>
    ∃ children, .directory name children ∈ entries ∧ HasPlace children (next :: rest)

/-- The file operation that never fails. -/
def noFault (_ : List Bytes) : Bool := false

/-! ### One file -/

section

variable {name : Bytes} {names : List Bytes} {bytes : Bytes} {entries entries' : List ArchiveEntry}

private theorem exists_changeDirectory {change : List ArchiveEntry → Option (List ArchiveEntry)}
    {children : List ArchiveEntry} (hmem : .directory name children ∈ entries)
    (hchange : ∀ children, .directory name children ∈ entries → (change children).isSome = true) :
    ∃ entries', changeDirectory name change entries = some entries' := by
  induction entries with
  | nil => cases hmem
  | cons entry rest ih =>
    have hrest : entry ≠ .directory name children →
        ∃ changed, changeDirectory name change rest = some changed := by
      intro hne
      apply ih
      · rcases List.mem_cons.mp hmem with heq | hmem
        · exact absurd heq.symm hne
        · exact hmem
      · intro children hchildren
        exact hchange children (List.mem_cons_of_mem _ hchildren)
    cases entry with
    | file found content =>
      obtain ⟨changed, hchanged⟩ := hrest (by simp)
      exact ⟨_, Option.map_eq_some_iff.mpr ⟨changed, hchanged, rfl⟩⟩
    | special found =>
      obtain ⟨changed, hchanged⟩ := hrest (by simp)
      exact ⟨_, Option.map_eq_some_iff.mpr ⟨changed, hchanged, rfl⟩⟩
    | directory found below =>
      by_cases hname : found = name
      · subst hname
        obtain ⟨changed, hchanged⟩ :=
          Option.isSome_iff_exists.mp (hchange below List.mem_cons_self)
        exact ⟨_, by rw [changeDirectory, if_pos rfl, hchanged]; rfl⟩
      · obtain ⟨changed, hchanged⟩ := hrest (fun heq ↦ hname (by injection heq))
        exact ⟨_, by rw [changeDirectory, if_neg hname, hchanged]; rfl⟩

private theorem directory_unique {children other : List ArchiveEntry}
    (hsound : NamesAreSound entries) (hchildren : .directory name children ∈ entries)
    (hother : .directory name other ∈ entries) : children = other := by
  obtain ⟨hdistinct, -, -⟩ := hsound
  have hfound := find?_of_mem hdistinct hchildren
  have hsame := find?_of_mem hdistinct hother
  rw [show (ArchiveEntry.directory name children).name = name from rfl] at hfound
  rw [show (ArchiveEntry.directory name other).name = name from rfl, hfound] at hsame
  injection hsame with hsame
  injection hsame

/-- A file can be placed where its directories are. -/
theorem HasPlace.exists_placeFile (h : HasPlace entries names) (hsound : NamesAreSound entries)
    (bytes : Bytes) : ∃ entries', placeFile names bytes entries = some entries' := by
  induction names generalizing entries with
  | nil => exact h.elim
  | cons name rest ih =>
    cases rest with
    | nil => exact ⟨_, rfl⟩
    | cons next rest =>
      obtain ⟨children, hmem, hbelow⟩ := h
      apply exists_changeDirectory hmem
      intro other hother
      rw [← directory_unique hsound hmem hother]
      obtain ⟨_, _, hnested⟩ := hsound
      exact Option.isSome_iff_exists.mpr (ih hbelow (hnested _ _ hmem))

/-- Placing a file leaves every directory in its place. -/
theorem HasPlace.placeFile {path : List Bytes} (h : HasPlace entries path)
    (hplaced : placeFile names bytes entries = some entries') : HasPlace entries' path := by
  induction names generalizing entries entries' path with
  | nil => cases hplaced
  | cons name rest ih =>
    cases path with
    | nil => exact h.elim
    | cons first below =>
      cases below with
      | nil => trivial
      | cons second below =>
        obtain ⟨children, hmem, hbelow⟩ := h
        cases rest with
        | nil =>
          cases hplaced
          exact ⟨children, List.mem_append_left _ hmem, hbelow⟩
        | cons next rest =>
          obtain ⟨before, old, new, after, rfl, hchange, rfl⟩ := changeDirectory_eq_some hplaced
          simp only [List.append_assoc, List.singleton_append, List.mem_append, List.mem_cons]
            at hmem
          rcases hmem with hmem | heq | hmem
          · exact ⟨children, by simp [hmem], hbelow⟩
          · injection heq with hname hchildren
            subst hname hchildren
            exact ⟨new, by simp, ih hbelow hchange⟩
          · exact ⟨children, by simp [hmem], hbelow⟩

-- Only the path itself is taken; a name that the last directory has twice would be the new file's.
/-- Placing a file takes no other path. -/
theorem isOk_findEntry_of_placeFile {path : List Bytes} (hsound : NamesAreSound entries)
    (hplaced : placeFile names bytes entries = some entries') (hne : path ≠ names)
    (hfound : (findEntry entries' path).isOk = true) :
    (findEntry entries path).isOk = true := by
  induction names generalizing entries entries' path with
  | nil => cases hplaced
  | cons name rest ih =>
    cases path with
    | nil => cases hfound
    | cons first below =>
      cases rest with
      | nil =>
        cases hplaced
        cases below with
        | nil =>
          have hname : ¬ name = first := fun heq ↦ hne (by rw [heq])
          simp only [findEntry, List.find?_append, List.find?_cons, List.find?_nil,
            ArchiveEntry.name, hname, decide_false] at hfound ⊢
          simpa using hfound
        | cons second below =>
          cases hfind : entries.find? fun entry ↦ entry.name = first with
          | some entry =>
            simp only [findEntry, List.find?_append, hfind, Option.some_or] at hfound ⊢
            exact hfound
          | none =>
            simp only [findEntry, List.find?_append, hfind, Option.none_or, List.find?_singleton]
              at hfound
            by_cases hname : name = first
            · simp only [ArchiveEntry.name, hname, decide_true, if_true] at hfound
              cases hfound
            · simp only [ArchiveEntry.name, hname, decide_false, Bool.false_eq_true, if_false]
                at hfound
              cases hfound
      | cons next rest =>
        obtain ⟨before, old, new, after, rfl, hchange, rfl⟩ := changeDirectory_eq_some hplaced
        obtain ⟨hdistinct, -, hnested⟩ := hsound
        have hmem : ArchiveEntry.directory name old ∈
            before ++ [ArchiveEntry.directory name old] ++ after := by
          simp
        by_cases hname : name = first
        · subst hname
          have hold := find?_of_mem hdistinct hmem
          have hnew : (before ++ [ArchiveEntry.directory name new] ++ after).find?
              (fun entry ↦ entry.name = name) = some (.directory name new) := by
            have hnames : ((before ++ [ArchiveEntry.directory name new] ++ after).map
                ArchiveEntry.name).Nodup := by simpa [ArchiveEntry.name] using hdistinct
            have hplace : ArchiveEntry.directory name new ∈
                before ++ [ArchiveEntry.directory name new] ++ after := by simp
            exact find?_of_mem hnames hplace
          rw [show (ArchiveEntry.directory name old).name = name from rfl] at hold
          cases below with
          | nil =>
            simp only [findEntry, hold]
            rfl
          | cons second below =>
            simp only [findEntry, hold, hnew] at hfound ⊢
            apply ih (hnested _ _ hmem) hchange _ hfound
            intro heq
            exact hne (by rw [heq])
        · have hfind : ∀ children, (before ++ [ArchiveEntry.directory name children] ++ after).find?
              (fun entry ↦ entry.name = first) =
              (before ++ after).find? fun entry ↦ entry.name = first := by
            intro children
            simp [List.find?_append, ArchiveEntry.name, hname]
          cases below with
          | nil =>
            simp only [findEntry, hfind] at hfound ⊢
            exact hfound
          | cons second below =>
            simp only [findEntry, hfind] at hfound ⊢
            exact hfound

end

/-! ### All files -/

/-- Files with places of their own are all written. -/
theorem exists_writeFiles {files : List (Text × Bytes)} {entries : List ArchiveEntry}
    (hsound : NamesAreSound entries)
    (hnames : ∀ file ∈ files, ∀ name ∈ file.1.toBytes.splitOn slash, IsFileName name)
    (hplace : ∀ file ∈ files, HasPlace entries (file.1.toBytes.splitOn slash))
    (hfree : ∀ file ∈ files, (findEntry entries (file.1.toBytes.splitOn slash)).isOk = false)
    (hdistinct : (files.map fun file ↦ file.1.toBytes.splitOn slash).Nodup) :
    ∃ entries', writeFiles noFault files entries = .ok entries' := by
  induction files generalizing entries with
  | nil => exact ⟨entries, rfl⟩
  | cons file rest ih =>
    have hfile : file ∈ file :: rest := List.mem_cons_self
    have hrest : ∀ other ∈ rest, other ∈ file :: rest := fun _ h ↦ List.mem_cons_of_mem _ h
    obtain ⟨placed, hplaced⟩ := (hplace file hfile).exists_placeFile hsound file.2
    have hwritten : writeFileAtomic noFault file.1 file.2 entries = .ok placed := by
      simp only [writeFileAtomic, hfree file hfile, noFault, hplaced, Bool.false_eq_true, if_false]
    obtain ⟨hsound', -⟩ := placeFile_spec hsound (hnames file hfile) (hfree file hfile) hplaced
    rw [List.map_cons, List.nodup_cons] at hdistinct
    obtain ⟨entries', hentries'⟩ := ih hsound' (fun other h ↦ hnames other (hrest other h))
      (fun other h ↦ (hplace other (hrest other h)).placeFile hplaced) (by
        intro other hother
        rw [Bool.eq_false_iff]
        intro hfound
        have hne : other.1.toBytes.splitOn slash ≠ file.1.toBytes.splitOn slash := by
          intro heq
          apply hdistinct.1
          rw [← heq]
          exact List.mem_map_of_mem hother
        have hbefore := isOk_findEntry_of_placeFile hsound hplaced hne hfound
        rw [hfree other (hrest other hother)] at hbefore
        cases hbefore) hdistinct.2
    exact ⟨entries', bind_eq_ok.mpr ⟨placed, hwritten, hentries'⟩⟩

/-! ### Empty directories -/

/-- A path has room in empty directories: it is a new name beside them or below one of them. -/
def HasRoom (dirs : List Bytes) : List Bytes → Prop
  | [name] => name ∉ dirs
  | [dir, _] => dir ∈ dirs
  | _ => False

instance (dirs : List Bytes) : (path : List Bytes) → Decidable (HasRoom dirs path)
  | [] => inferInstanceAs (Decidable False)
  | [name] => inferInstanceAs (Decidable (name ∉ dirs))
  | [dir, _] => inferInstanceAs (Decidable (dir ∈ dirs))
  | _ :: _ :: _ :: _ => inferInstanceAs (Decidable False)

/-- The empty directories of these names. -/
def emptyDirectories (dirs : List Bytes) : List ArchiveEntry :=
  dirs.map fun dir ↦ .directory dir []

section

variable {dirs path : List Bytes}

theorem HasRoom.hasPlace (h : HasRoom dirs path) : HasPlace (emptyDirectories dirs) path := by
  match path, h with
  | [_], _ => trivial
  | [dir, _], h => exact ⟨[], List.mem_map_of_mem h, trivial⟩

theorem HasRoom.isFree (h : HasRoom dirs path) :
    (findEntry (emptyDirectories dirs) path).isOk = false := by
  have hfind : ∀ name entry, (emptyDirectories dirs).find? (fun entry ↦ entry.name = name) =
      some entry → name ∈ dirs ∧ entry = .directory name [] := by
    intro name entry hentry
    obtain ⟨dir, hdir, rfl⟩ := List.mem_map.mp (List.mem_of_find?_eq_some hentry)
    have hfound := List.find?_some hentry
    have hname : dir = name := of_decide_eq_true hfound
    subst hname
    exact ⟨hdir, rfl⟩
  match path, h with
  | [name], hname =>
    cases hentry : (emptyDirectories dirs).find? fun entry ↦ entry.name = name with
    | none =>
      simp only [findEntry, hentry]
      rfl
    | some entry => exact absurd (hfind name entry hentry).1 hname
  | [dir, name], _ =>
    cases hentry : (emptyDirectories dirs).find? fun entry ↦ entry.name = dir with
    | none =>
      simp only [findEntry, hentry]
      rfl
    | some entry =>
      rw [(hfind dir entry hentry).2] at hentry
      simp only [findEntry, hentry, List.find?_nil]
      rfl

end

end PrivateBallot.GuiCore
