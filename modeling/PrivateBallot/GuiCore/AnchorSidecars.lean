import Mathlib.Data.Set.Operations
import PrivateBallot.Base.Program
import PrivateBallot.Base.Text

/-!
# Sidecar files of an archive

Library `GuiCore`. `crates/gui-core/src/live_anchor_v2_lifecycle.rs:144-238` and `:906-1210`: where
the snapshot, the evidence and the failure record of an archive's live anchor are kept, and what a
step of the live anchor does to these files. A path is the list of its components below the root.
-/

namespace PrivateBallot.GuiCore

open PrivateBallot.Base

/-! ### Paths -/

/-- The three sidecar files. -/
inductive SidecarKind where
  | lifecycle
  | evidence
  | failure
deriving DecidableEq, Repr

/-- The suffix of the file. -/
def SidecarKind.suffix : SidecarKind → List Char
  | lifecycle => "v2-anchor-lifecycle.json".toList
  | evidence => "v2-anchor-evidence.json".toList
  | failure => "v2-anchor-failure.json".toList

/-- The components of a path. -/
abbrev SidecarPath := List (List Char)

/-- `join`; a component `.` is none. -/
def SidecarPath.join (path : SidecarPath) (component : List Char) : SidecarPath :=
  if component = ['.'] then path else path ++ [component]

/-- A character of a sidecar key. -/
def sanitizeSidecarChar (c : Char) : Char :=
  if c.isAlphanum then c else if c = '-' ∨ c = '_' ∨ c = '.' then c else '_'

/-- `sanitize_sidecar_component`; the loop ends with the 120th character, and all of them are
ASCII. -/
def sanitizeSidecarComponent (raw : Text) : List Char :=
  let out := (raw.chars.map sanitizeSidecarChar).take 120
  if out = [] then "archive".toList else out

/-- `app_owned_sidecar_path`, below the sidecar root; `none` is the path error. -/
def appOwnedSidecarPath (archiveDirectory : Text) (kind : SidecarKind) : Option SidecarPath :=
  if archiveDirectory.trimIsEmpty then none
  else
    let key := sanitizeSidecarComponent archiveDirectory
    some (SidecarPath.join (SidecarPath.join [] key) (key ++ '.' :: kind.suffix))

/-! ### Files -/

/-- What a step does to a sidecar of its archive: `exists`, `fs::read`,
`write_bytes_atomic_replace` and `write_bytes_create_new_sync`. -/
inductive SidecarOp where
  | present (kind : SidecarKind)
  | read (kind : SidecarKind)
  | replace (kind : SidecarKind) (bytes : Bytes)
  | createNew (kind : SidecarKind) (bytes : Bytes)

/-- What it is answered. -/
def SidecarOp.Response : SidecarOp → Type
  | present _ => Bool
  | read _ => Option Bytes
  | replace _ _ => Bool
  | createNew _ _ => Bool

/-- A step of the live anchor, given what wallet and indexer answer it, or any part of a step. -/
abbrev SidecarStep (α : Type) := Program SidecarOp.Response α

/-- What is found at a path. -/
inductive SidecarNode where
  | directory
  | file (bytes : Bytes)
deriving DecidableEq

/-- What is below the sidecar root. -/
abbrev SidecarFiles := SidecarPath → Option SidecarNode

/-- How the file system lets an operation end: it works, it does nothing, or it breaks off behind
the directory and leaves a new file with a part of its bytes or none. -/
inductive SidecarOutcome where
  | works
  | fails
  | tears (written : Option Bytes)
deriving DecidableEq

namespace SidecarFiles

/-- This is at the path. -/
def put (files : SidecarFiles) (path : SidecarPath) (node : SidecarNode) : SidecarFiles :=
  fun other ↦ if other = path then some node else files other

/-- `create_dir_all`, of the root or of a directory directly below it. -/
def createDirAll (files : SidecarFiles) (directory : SidecarPath) : Bool × SidecarFiles :=
  if directory = [] then (true, files)
  else match files directory with
  | some .directory => (true, files)
  | some (.file _) => (false, files)
  | none => (true, files.put directory .directory)

/-- What is done to a path after `create_dir_all` of its parent. -/
def belowParent (files : SidecarFiles) (path : SidecarPath)
    (act : SidecarFiles → Bool × SidecarFiles) : Bool × SidecarFiles :=
  match files.createDirAll path.dropLast with
  | (true, files) => act files
  | (false, files) => (false, files)

/-- `write_bytes_atomic_replace`; the temporary file beside the path is left out. -/
def replace (files : SidecarFiles) (path : SidecarPath) (bytes : Bytes)
    (outcome : SidecarOutcome) : Bool × SidecarFiles :=
  if outcome = .fails then (false, files)
  else files.belowParent path fun files ↦
    if outcome = .works ∧ files path ≠ some .directory then (true, files.put path (.file bytes))
    else (false, files)

/-- `write_bytes_create_new_sync` -/
def createNew (files : SidecarFiles) (path : SidecarPath) (bytes : Bytes)
    (outcome : SidecarOutcome) : Bool × SidecarFiles :=
  if outcome = .fails then (false, files)
  else files.belowParent path fun files ↦
    if (files path).isSome then (false, files)
    else match outcome with
    | .works => (true, files.put path (.file bytes))
    | .tears (some written) => (false, files.put path (.file written))
    | _ => (false, files)

/-- `fs::read` -/
def read (files : SidecarFiles) (path : SidecarPath) : Option Bytes :=
  match files path with
  | some (.file bytes) => some bytes
  | _ => none

end SidecarFiles

/-- An operation on the sidecars of an archive with these paths. -/
def sidecarExec (paths : SidecarKind → SidecarPath) :
    Program.Handler SidecarOp.Response SidecarOutcome SidecarFiles
  | .present kind, _, files => ((files (paths kind)).isSome, files)
  | .read kind, outcome, files => match outcome with
    | .works => (files.read (paths kind), files)
    | _ => (none, files)
  | .replace kind bytes, outcome, files => files.replace (paths kind) bytes outcome
  | .createNew kind bytes, outcome, files => files.createNew (paths kind) bytes outcome

/-! ### What a step touches -/

/-- The files at these paths and the directories above them, without the root. -/
def ownedPaths (paths : SidecarKind → SidecarPath) : Set SidecarPath :=
  {path | path ≠ [] ∧ ∃ kind, path <+: paths kind}

namespace SidecarFiles

variable {files files' : SidecarFiles} {path other : SidecarPath} {owned : Set SidecarPath}

theorem put_of_ne {node : SidecarNode} (h : other ≠ path) :
    files.put path node other = files other := if_neg h

/-- The same at a path keeps stores the same. -/
theorem put_eqOn (h : Set.EqOn files files' owned) (path : SidecarPath) (node : SidecarNode) :
    Set.EqOn (files.put path node) (files'.put path node) owned := by
  intro other hother
  rw [put, put, h hother]

theorem createDirAll_of_ne {directory : SidecarPath} (h : directory ≠ [] → other ≠ directory) :
    (files.createDirAll directory).2 other = files other := by
  unfold createDirAll
  split
  · rfl
  · next hroot => split <;> first | rfl | exact put_of_ne (h hroot)

theorem createDirAll_eqOn {directory : SidecarPath}
    (hdirectory : directory ≠ [] → directory ∈ owned) (h : Set.EqOn files files' owned) :
    (files.createDirAll directory).1 = (files'.createDirAll directory).1 ∧
      Set.EqOn (files.createDirAll directory).2 (files'.createDirAll directory).2 owned := by
  unfold createDirAll
  split
  · exact ⟨rfl, h⟩
  · next hroot =>
    rw [← h (hdirectory hroot)]
    split
    · exact ⟨rfl, h⟩
    · exact ⟨rfl, h⟩
    · exact ⟨rfl, put_eqOn h _ _⟩

theorem belowParent_frame {act : SidecarFiles → Bool × SidecarFiles}
    (hparent : path.dropLast ≠ [] → other ≠ path.dropLast)
    (hact : ∀ files, (act files).2 other = files other) :
    (files.belowParent path act).2 other = files other := by
  have hmade : (files.createDirAll path.dropLast).2 other = files other :=
    createDirAll_of_ne hparent
  unfold belowParent
  generalize files.createDirAll path.dropLast = made at hmade ⊢
  obtain ⟨works, made⟩ := made
  cases works with
  | false => exact hmade
  | true => exact (hact made).trans hmade

theorem belowParent_eqOn {act : SidecarFiles → Bool × SidecarFiles}
    (hparent : path.dropLast ≠ [] → path.dropLast ∈ owned)
    (hact : ∀ files files' : SidecarFiles, Set.EqOn files files' owned →
      (act files).1 = (act files').1 ∧ Set.EqOn (act files).2 (act files').2 owned)
    (h : Set.EqOn files files' owned) :
    (files.belowParent path act).1 = (files'.belowParent path act).1 ∧
      Set.EqOn (files.belowParent path act).2 (files'.belowParent path act).2 owned := by
  obtain ⟨hworks, hmade⟩ := createDirAll_eqOn hparent h
  unfold belowParent
  generalize files.createDirAll path.dropLast = made at hworks hmade ⊢
  generalize files'.createDirAll path.dropLast = made' at hworks hmade ⊢
  obtain ⟨works, made⟩ := made
  obtain ⟨works', made'⟩ := made'
  cases hworks
  cases works with
  | false => exact ⟨rfl, hmade⟩
  | true => exact hact made made' hmade

end SidecarFiles

section Touches

variable {paths : SidecarKind → SidecarPath}

theorem mem_ownedPaths_self {kind : SidecarKind} (h : paths kind ≠ []) :
    paths kind ∈ ownedPaths paths := ⟨h, kind, List.prefix_rfl⟩

theorem mem_ownedPaths_parent {kind : SidecarKind} (h : (paths kind).dropLast ≠ []) :
    (paths kind).dropLast ∈ ownedPaths paths := ⟨h, kind, List.dropLast_prefix _⟩

/-- What a step does not own is kept. -/
theorem sidecarExec_frame {path : SidecarPath} (hroot : path ≠ []) (h : path ∉ ownedPaths paths)
    (op : SidecarOp) (outcome : SidecarOutcome) (files : SidecarFiles) :
    (sidecarExec paths op outcome files).2 path = files path := by
  have hself : ∀ kind, path ≠ paths kind := by
    rintro kind rfl
    exact h (mem_ownedPaths_self hroot)
  have hparent : ∀ kind, (paths kind).dropLast ≠ [] → path ≠ (paths kind).dropLast := by
    rintro kind hne rfl
    exact h (mem_ownedPaths_parent hne)
  cases op with
  | present kind => rfl
  | read kind => cases outcome <;> rfl
  | replace kind bytes =>
    show (files.replace (paths kind) bytes outcome).2 path = files path
    unfold SidecarFiles.replace
    split
    · rfl
    refine SidecarFiles.belowParent_frame (hparent kind) fun files ↦ ?_
    split
    · exact SidecarFiles.put_of_ne (hself kind)
    · rfl
  | createNew kind bytes =>
    show (files.createNew (paths kind) bytes outcome).2 path = files path
    unfold SidecarFiles.createNew
    split
    · rfl
    refine SidecarFiles.belowParent_frame (hparent kind) fun files ↦ ?_
    split
    · rfl
    · split
      · exact SidecarFiles.put_of_ne (hself kind)
      · exact SidecarFiles.put_of_ne (hself kind)
      · rfl

/-- A file that is created in an empty root, and the directory that is made for it. -/
theorem createNew_empty {path : SidecarPath} (hpath : path ≠ []) (bytes : Bytes) :
    (SidecarFiles.createNew (fun _ ↦ none) path bytes .works).2 path = some (.file bytes) ∧
      (path.dropLast ≠ [] → (SidecarFiles.createNew (fun _ ↦ none) path bytes .works).2
        path.dropLast = some .directory) := by
  have hparent : path ≠ path.dropLast := by
    intro h
    have hlength := congrArg List.length h
    rw [List.length_dropLast] at hlength
    have := List.length_pos_iff.mpr hpath
    omega
  unfold SidecarFiles.createNew SidecarFiles.belowParent SidecarFiles.createDirAll
  by_cases hroot : path.dropLast = []
  · simp [hroot, SidecarFiles.put]
  · simp [hroot, SidecarFiles.put, hparent, hparent.symm]

/-- Stores that are the same where a step owns them answer the same and stay so. -/
theorem sidecarExec_eqOn (hpaths : ∀ kind, paths kind ≠ []) (op : SidecarOp)
    (outcome : SidecarOutcome) (files files' : SidecarFiles)
    (h : Set.EqOn files files' (ownedPaths paths)) :
    (sidecarExec paths op outcome files).1 = (sidecarExec paths op outcome files').1 ∧
      Set.EqOn (sidecarExec paths op outcome files).2 (sidecarExec paths op outcome files').2
        (ownedPaths paths) := by
  have hself : ∀ {files files' : SidecarFiles}, Set.EqOn files files' (ownedPaths paths) →
      ∀ kind, files (paths kind) = files' (paths kind) :=
    fun h kind ↦ h (mem_ownedPaths_self (hpaths kind))
  cases op with
  | present kind => exact ⟨congrArg Option.isSome (hself h kind), h⟩
  | read kind =>
    cases outcome with
    | works =>
      refine ⟨?_, h⟩
      show files.read (paths kind) = files'.read (paths kind)
      rw [SidecarFiles.read, SidecarFiles.read, hself h kind]
    | fails => exact ⟨rfl, h⟩
    | tears written => exact ⟨rfl, h⟩
  | replace kind bytes =>
    simp only [sidecarExec, SidecarFiles.replace]
    split
    · exact ⟨rfl, h⟩
    refine SidecarFiles.belowParent_eqOn mem_ownedPaths_parent (fun files files' h ↦ ?_) h
    rw [hself h kind]
    split
    · exact ⟨rfl, SidecarFiles.put_eqOn h _ _⟩
    · exact ⟨rfl, h⟩
  | createNew kind bytes =>
    simp only [sidecarExec, SidecarFiles.createNew]
    split
    · exact ⟨rfl, h⟩
    refine SidecarFiles.belowParent_eqOn mem_ownedPaths_parent (fun files files' h ↦ ?_) h
    rw [hself h kind]
    split
    · exact ⟨rfl, h⟩
    · split
      · exact ⟨rfl, SidecarFiles.put_eqOn h _ _⟩
      · exact ⟨rfl, SidecarFiles.put_eqOn h _ _⟩
      · exact ⟨rfl, h⟩

end Touches

/-! ### Which archives share their sidecars -/

/-- Some position ahead of the 120th tells the two apart: only one of them is that long, or they
differ there also when all but letters, digits, `-`, `_` and `.` are read as `_`. -/
def DiffersAhead (a b : Text) : Prop :=
  ∃ i < 120, (a.chars.map sanitizeSidecarChar)[i]? ≠ (b.chars.map sanitizeSidecarChar)[i]?

/-- The first archive is `.`, whose files are in the root, and the directory of the second one has
the name of such a file. -/
def IsInTheWay (a b : Text) : Prop :=
  a.chars = ['.'] ∧ ∃ kind : SidecarKind, b.chars = '.' :: '.' :: kind.suffix

theorem ne_nil_of_trimIsEmpty {t : Text} (h : ¬ t.trimIsEmpty = true) : t.chars ≠ [] := by
  intro hnil
  exact h (by rw [Text.trimIsEmpty, hnil]; rfl)

theorem sanitizeSidecarComponent_of_ne_nil {t : Text} (h : t.chars ≠ []) :
    sanitizeSidecarComponent t = (t.chars.map sanitizeSidecarChar).take 120 := by
  refine if_neg ?_
  rw [List.take_eq_nil_iff, List.map_eq_nil_iff]
  rintro (hzero | hnil)
  · cases hzero
  · exact h hnil

/-- The keys differ exactly where the directories do ahead of the 120th character. -/
theorem sanitizeSidecarComponent_eq_iff {a b : Text} (ha : a.chars ≠ []) (hb : b.chars ≠ []) :
    sanitizeSidecarComponent a = sanitizeSidecarComponent b ↔ ¬ DiffersAhead a b := by
  rw [sanitizeSidecarComponent_of_ne_nil ha, sanitizeSidecarComponent_of_ne_nil hb]
  constructor
  · rintro h ⟨i, hi, hne⟩
    have hget := congrArg (·[i]?) h
    simp only [List.getElem?_take_of_lt hi] at hget
    exact hne hget
  · intro h
    apply List.ext_getElem?
    intro i
    by_cases hi : i < 120
    · rw [List.getElem?_take_of_lt hi, List.getElem?_take_of_lt hi]
      by_contra hne
      exact h ⟨i, hi, hne⟩
    · rw [List.getElem?_eq_none (by rw [List.length_take]; omega),
        List.getElem?_eq_none (by rw [List.length_take]; omega)]

theorem sanitizeSidecarChar_eq_iff {c d : Char} (hd : d ≠ '_') (hkept : sanitizeSidecarChar d = d) :
    sanitizeSidecarChar c = d ↔ c = d := by
  constructor
  · intro h
    unfold sanitizeSidecarChar at h
    split at h
    · exact h
    · split at h
      · exact h
      · exact absurd h.symm hd
  · rintro rfl
    exact hkept

theorem map_sanitizeSidecarChar_eq_iff {cs key : List Char}
    (hkept : ∀ d ∈ key, d ≠ '_' ∧ sanitizeSidecarChar d = d) :
    cs.map sanitizeSidecarChar = key ↔ cs = key := by
  induction cs generalizing key with
  | nil => rfl
  | cons c cs ih =>
    cases key with
    | nil => exact ⟨fun h ↦ (by cases h), fun h ↦ (by cases h)⟩
    | cons d ds =>
      obtain ⟨hd, hds⟩ := List.forall_mem_cons.mp hkept
      rw [List.map_cons, List.cons.injEq, List.cons.injEq, ih hds,
        sanitizeSidecarChar_eq_iff hd.1 hd.2]

/-- A short key of characters that are kept tells the directory. -/
theorem sanitizeSidecarComponent_eq_iff_chars {t : Text} {key : List Char} (ht : t.chars ≠ [])
    (hlength : key.length < 120)
    (hkept : (key.all fun d ↦ d ≠ '_' ∧ sanitizeSidecarChar d = d) = true) :
    sanitizeSidecarComponent t = key ↔ t.chars = key := by
  have hmap : t.chars.map sanitizeSidecarChar = key ↔ t.chars = key :=
    map_sanitizeSidecarChar_eq_iff fun d hd ↦ of_decide_eq_true (List.all_eq_true.mp hkept d hd)
  rw [sanitizeSidecarComponent_of_ne_nil ht, ← hmap]
  constructor
  · intro h
    have hshort := congrArg List.length h
    rw [List.length_take] at hshort
    rwa [List.take_of_length_le (by omega)] at h
  · intro h
    rw [h, List.take_of_length_le (by omega)]

theorem sanitizeSidecarComponent_eq_dot {t : Text} (ht : t.chars ≠ []) :
    sanitizeSidecarComponent t = ['.'] ↔ t.chars = ['.'] :=
  sanitizeSidecarComponent_eq_iff_chars ht (by decide) (by decide)

theorem sanitizeSidecarComponent_eq_fileOfDot {t : Text} (ht : t.chars ≠ []) (kind : SidecarKind) :
    sanitizeSidecarComponent t = '.' :: '.' :: kind.suffix ↔
      t.chars = '.' :: '.' :: kind.suffix := by
  refine sanitizeSidecarComponent_eq_iff_chars ht ?_ ?_
  · cases kind <;> decide
  · cases kind <;> decide

/-- The path below the key. -/
theorem appOwnedSidecarPath_eq_some {t : Text} {kind : SidecarKind} {path : SidecarPath}
    (h : appOwnedSidecarPath t kind = some path) :
    t.chars ≠ [] ∧ path = SidecarPath.join [] (sanitizeSidecarComponent t) ++
      [sanitizeSidecarComponent t ++ '.' :: kind.suffix] := by
  obtain ⟨hblank, h⟩ := Option.ite_none_left_eq_some.mp h
  refine ⟨ne_nil_of_trimIsEmpty hblank, ?_⟩
  cases h
  refine if_neg fun hdot ↦ ?_
  have hlength := congrArg List.length hdot
  rw [List.length_append, List.length_cons, List.length_singleton] at hlength
  have hsuffix : kind.suffix ≠ [] := by cases kind <;> decide
  have := List.length_pos_iff.mpr hsuffix
  omega

/-- A path tells its key and its file. -/
theorem appOwnedSidecarPath_inj {a b : Text} {kind kind' : SidecarKind} {path : SidecarPath}
    (ha : appOwnedSidecarPath a kind = some path) (hb : appOwnedSidecarPath b kind' = some path) :
    sanitizeSidecarComponent a = sanitizeSidecarComponent b ∧ kind = kind' := by
  have hpath := (appOwnedSidecarPath_eq_some ha).2.symm.trans (appOwnedSidecarPath_eq_some hb).2
  obtain ⟨hdirectory, hfile⟩ := List.append_inj' hpath rfl
  have hkey : sanitizeSidecarComponent a = sanitizeSidecarComponent b := by
    unfold SidecarPath.join at hdirectory
    split at hdirectory
    · next hadot =>
      split at hdirectory
      · next hbdot => rw [hadot, hbdot]
      · cases hdirectory
    · split at hdirectory
      · cases hdirectory
      · exact List.singleton_injective hdirectory
  rw [hkey] at hfile
  have hsuffix := (List.cons.inj (List.append_cancel_left (List.singleton_injective hfile))).2
  refine ⟨hkey, ?_⟩
  cases kind <;> cases kind' <;> first | rfl | exact absurd hsuffix (by decide)

/-- A file directly below the root is one of the archive `.`. -/
theorem dot_of_singleton_eq {t : Text} {kind : SidecarKind} {path : SidecarPath} {name : List Char}
    (h : appOwnedSidecarPath t kind = some path) (hname : [name] = path) :
    sanitizeSidecarComponent t = ['.'] ∧ name = '.' :: '.' :: kind.suffix := by
  obtain ⟨-, hpath⟩ := appOwnedSidecarPath_eq_some h
  rw [← hname] at hpath
  unfold SidecarPath.join at hpath
  split at hpath
  · next hdot =>
    refine ⟨hdot, ?_⟩
    rw [List.singleton_injective hpath, hdot]
    rfl
  · cases hpath

/-- The three paths of an archive. -/
def SidecarPathsOf (t : Text) (paths : SidecarKind → SidecarPath) : Prop :=
  ∀ kind, appOwnedSidecarPath t kind = some (paths kind)

theorem SidecarPathsOf.ne_nil {t : Text} {paths : SidecarKind → SidecarPath}
    (h : SidecarPathsOf t paths) (kind : SidecarKind) : paths kind ≠ [] := by
  rw [(appOwnedSidecarPath_eq_some (h kind)).2]
  exact List.concat_ne_nil _ _

/-- Besides its files an archive owns the directory of its key, if it has one. -/
theorem SidecarPathsOf.mem_ownedPaths {t : Text} {paths : SidecarKind → SidecarPath}
    (h : SidecarPathsOf t paths) {path : SidecarPath} (hmem : path ∈ ownedPaths paths) :
    (sanitizeSidecarComponent t ≠ ['.'] ∧ path = [sanitizeSidecarComponent t]) ∨
      ∃ kind, path = paths kind := by
  obtain ⟨hroot, kind, hprefix⟩ := hmem
  obtain ⟨-, hpath⟩ := appOwnedSidecarPath_eq_some (h kind)
  rw [hpath, List.prefix_concat_iff, ← hpath] at hprefix
  rcases hprefix with hself | hparent
  · exact Or.inr ⟨kind, hself⟩
  · unfold SidecarPath.join at hparent
    split at hparent
    · exact absurd (List.prefix_nil.mp hparent) hroot
    · next hdot =>
      refine Or.inl ⟨hdot, ?_⟩
      have hlength := hparent.length_le
      rw [List.length_append, List.length_nil, List.length_singleton] at hlength
      exact hparent.eq_of_length_le (by
        have := List.length_pos_iff.mpr hroot
        rw [List.length_append, List.length_nil, List.length_singleton]
        omega)

/-- The sidecars of two archives have nothing to do with each other: the paths are pairwise
distinct, and a step on the first archive leaves the files of the second one and their directory
and goes the same way whatever they are. -/
structure SidecarsSeparate (a b : Text) : Prop where
  own : ∀ paths, SidecarPathsOf a paths → Function.Injective paths
  distinct : ∀ paths paths', SidecarPathsOf a paths → SidecarPathsOf b paths' →
    ∀ kind kind', paths kind ≠ paths' kind'
  frame : ∀ paths paths', SidecarPathsOf a paths → SidecarPathsOf b paths' →
    ∀ (α : Type) (step : SidecarStep α) (outcomes : List SidecarOutcome) (files : SidecarFiles),
      ∀ path ∈ ownedPaths paths',
        (step.resume (sidecarExec paths) outcomes files).2 path = files path
  blind : ∀ paths paths', SidecarPathsOf a paths → SidecarPathsOf b paths' →
    ∀ (α : Type) (step : SidecarStep α) (outcomes : List SidecarOutcome)
      (files files' : SidecarFiles), (∀ path ∉ ownedPaths paths', files path = files' path) →
        (step.resume (sidecarExec paths) outcomes files).1 =
          (step.resume (sidecarExec paths) outcomes files').1

/-- Archives that differ ahead of the 120th character, with no file of the one where the directory
of the other has to be, own nothing in common. -/
theorem ownedPaths_disjoint {a b : Text} {paths paths' : SidecarKind → SidecarPath}
    (ha : SidecarPathsOf a paths) (hb : SidecarPathsOf b paths') (hdiffer : DiffersAhead a b)
    (hab : ¬ IsInTheWay a b) (hba : ¬ IsInTheWay b a) {path : SidecarPath}
    (hmem : path ∈ ownedPaths paths) : path ∉ ownedPaths paths' := by
  intro hmem'
  obtain ⟨hneA, -⟩ := appOwnedSidecarPath_eq_some (ha .lifecycle)
  obtain ⟨hneB, -⟩ := appOwnedSidecarPath_eq_some (hb .lifecycle)
  have hkeys : sanitizeSidecarComponent a ≠ sanitizeSidecarComponent b :=
    fun h ↦ (sanitizeSidecarComponent_eq_iff hneA hneB).mp h hdiffer
  rcases ha.mem_ownedPaths hmem with ⟨hdotA, rfl⟩ | ⟨kind, rfl⟩
  · rcases hb.mem_ownedPaths hmem' with ⟨-, hsame⟩ | ⟨kind', hsame⟩
    · exact hkeys (List.singleton_injective hsame)
    · -- the directory of `a` is a file of `b`
      obtain ⟨hdot, hfile⟩ := dot_of_singleton_eq (hb kind') hsame
      refine hba ⟨(sanitizeSidecarComponent_eq_dot hneB).mp hdot, kind', ?_⟩
      exact (sanitizeSidecarComponent_eq_fileOfDot hneA kind').mp hfile
  · rcases hb.mem_ownedPaths hmem' with ⟨-, hsame⟩ | ⟨kind', hsame⟩
    · obtain ⟨hdot, hfile⟩ := dot_of_singleton_eq (ha kind) hsame.symm
      refine hab ⟨(sanitizeSidecarComponent_eq_dot hneA).mp hdot, kind, ?_⟩
      exact (sanitizeSidecarComponent_eq_fileOfDot hneB kind).mp hfile
    · have hpath : appOwnedSidecarPath b kind' = some (paths kind) := by rw [hsame, hb kind']
      exact hkeys (appOwnedSidecarPath_inj (ha kind) hpath).1

/-- A file of the first archive in the way of the second one makes steps on either touch what the
other owns. -/
theorem IsInTheWay.shared {a b : Text} {paths paths' : SidecarKind → SidecarPath}
    (ha : SidecarPathsOf a paths) (hb : SidecarPathsOf b paths') (h : IsInTheWay a b) :
    ∃ kind, paths kind = [sanitizeSidecarComponent b] ∧
      (paths' .lifecycle).dropLast = [sanitizeSidecarComponent b] := by
  obtain ⟨hdot, kind, hfile⟩ := h
  obtain ⟨hneA, hpathA⟩ := appOwnedSidecarPath_eq_some (ha kind)
  obtain ⟨hneB, hpathB⟩ := appOwnedSidecarPath_eq_some (hb .lifecycle)
  have hkeyA := (sanitizeSidecarComponent_eq_dot hneA).mpr hdot
  have hkeyB := (sanitizeSidecarComponent_eq_fileOfDot hneB kind).mpr hfile
  refine ⟨kind, ?_, ?_⟩
  · rw [hpathA, hkeyA, hkeyB]
    rfl
  · rw [hpathB, List.dropLast_concat, hkeyB]
    rfl

/-- Where sidecars are separate, the directories differ ahead of the 120th character. -/
theorem SidecarsSeparate.differsAhead {a b : Text} (h : SidecarsSeparate a b)
    {paths paths' : SidecarKind → SidecarPath} (ha : SidecarPathsOf a paths)
    (hb : SidecarPathsOf b paths') : DiffersAhead a b := by
  obtain ⟨hneA, hpathA⟩ := appOwnedSidecarPath_eq_some (ha .lifecycle)
  obtain ⟨hneB, hpathB⟩ := appOwnedSidecarPath_eq_some (hb .lifecycle)
  by_contra hsame
  have hkey := (sanitizeSidecarComponent_eq_iff hneA hneB).mpr hsame
  refine h.distinct _ _ ha hb .lifecycle .lifecycle ?_
  rw [hpathA, hpathB, hkey]

/-- Otherwise a step on the first archive creates a file where the directory of the second one has
to be. -/
theorem SidecarsSeparate.not_isInTheWay {a b : Text} (h : SidecarsSeparate a b)
    {paths paths' : SidecarKind → SidecarPath} (ha : SidecarPathsOf a paths)
    (hb : SidecarPathsOf b paths') : ¬ IsInTheWay a b := by
  intro hway
  obtain ⟨kind, hfile, hdirectory⟩ := hway.shared ha hb
  have howned : (paths' .lifecycle).dropLast ∈ ownedPaths paths' :=
    mem_ownedPaths_parent (by rw [hdirectory]; exact List.cons_ne_nil _ _)
  have hkept := h.frame _ _ ha hb Bool (.call (SidecarOp.createNew kind [])) [.works]
    (fun _ ↦ none) _ howned
  have hcreated := (createNew_empty (ha.ne_nil kind) []).1
  rw [hdirectory, ← hfile] at hkept
  cases hcreated.symm.trans hkept

/-- Otherwise a step on the first archive makes its directory where a file of the second one has to
be. -/
theorem SidecarsSeparate.not_isInTheWay_symm {a b : Text} (h : SidecarsSeparate a b)
    {paths paths' : SidecarKind → SidecarPath} (ha : SidecarPathsOf a paths)
    (hb : SidecarPathsOf b paths') : ¬ IsInTheWay b a := by
  intro hway
  obtain ⟨kind, hfile, hdirectory⟩ := hway.shared hb ha
  have hkept := h.frame _ _ ha hb Bool (.call (SidecarOp.createNew .lifecycle []))
    [.works] (fun _ ↦ none) _ (mem_ownedPaths_self (hb.ne_nil kind))
  have hmade := (createNew_empty (ha.ne_nil .lifecycle) []).2
    (by rw [hdirectory]; exact List.cons_ne_nil _ _)
  rw [hfile, ← hdirectory] at hkept
  cases hmade.symm.trans hkept

/-- Sidecars are separate exactly if one of the archives gets none, or their directories differ
ahead of the 120th character and neither has a file where the other has to have its directory. -/
theorem sidecars_exact (a b : Text) :
    SidecarsSeparate a b ↔
      a.trimIsEmpty = true ∨ b.trimIsEmpty = true ∨
        DiffersAhead a b ∧ ¬ IsInTheWay a b ∧ ¬ IsInTheWay b a := by
  constructor
  · intro h
    by_cases ha : a.trimIsEmpty = true
    · exact Or.inl ha
    by_cases hb : b.trimIsEmpty = true
    · exact Or.inr (Or.inl hb)
    obtain ⟨paths, hpathsA⟩ : ∃ paths, SidecarPathsOf a paths := ⟨_, fun kind ↦ if_neg ha⟩
    obtain ⟨paths', hpathsB⟩ : ∃ paths', SidecarPathsOf b paths' := ⟨_, fun kind ↦ if_neg hb⟩
    exact Or.inr (Or.inr ⟨h.differsAhead hpathsA hpathsB, h.not_isInTheWay hpathsA hpathsB,
      h.not_isInTheWay_symm hpathsA hpathsB⟩)
  · intro h
    have hdisjoint : ∀ paths paths', SidecarPathsOf a paths → SidecarPathsOf b paths' →
        ∀ path ∈ ownedPaths paths, path ∉ ownedPaths paths' := by
      intro paths paths' ha hb path hmem
      rcases h with h | h | ⟨hdiffer, hab, hba⟩
      · exact absurd (ha .lifecycle) (by rw [appOwnedSidecarPath, if_pos h]; nofun)
      · exact absurd (hb .lifecycle) (by rw [appOwnedSidecarPath, if_pos h]; nofun)
      · exact ownedPaths_disjoint ha hb hdiffer hab hba hmem
    constructor
    · intro paths ha kind kind' heq
      exact (appOwnedSidecarPath_inj (ha kind) (heq ▸ ha kind')).2
    · intro paths paths' ha hb kind kind' heq
      refine hdisjoint _ _ ha hb _ (mem_ownedPaths_self (ha.ne_nil kind)) ?_
      rw [heq]
      exact mem_ownedPaths_self (hb.ne_nil kind')
    · intro paths paths' ha hb α step outcomes files path hmem
      have hfree : path ∉ ownedPaths paths := fun h ↦ hdisjoint _ _ ha hb path h hmem
      exact Program.resume_invariant (I := fun now ↦ now path = files path)
        (fun op outcome now hnow ↦ (sidecarExec_frame hmem.1 hfree op outcome now).trans hnow)
        step outcomes rfl
    · intro paths paths' ha hb α step outcomes files files' hfiles
      exact (Program.resume_related
        (R := fun now now' ↦ Set.EqOn now now' (ownedPaths paths))
        (sidecarExec_eqOn ha.ne_nil) step outcomes
        fun path hmem ↦ hfiles path (hdisjoint _ _ ha hb path hmem)).1

/-- `/a b` and `/a_b` share their sidecars. -/
theorem sidecars_collide : ¬ SidecarsSeparate (.ofChars ['/', 'a', ' ', 'b'])
    (.ofChars ['/', 'a', '_', 'b']) := by
  intro h
  have hpaths : SidecarPathsOf (.ofChars ['/', 'a', ' ', 'b']) fun kind ↦
      [['_', 'a', '_', 'b'], ['_', 'a', '_', 'b'] ++ '.' :: kind.suffix] := by
    intro kind
    simp only [appOwnedSidecarPath, Text.trimIsEmpty, sanitizeSidecarComponent, Text.chars_ofChars]
    cases kind <;> decide
  have hpaths' : SidecarPathsOf (.ofChars ['/', 'a', '_', 'b']) fun kind ↦
      [['_', 'a', '_', 'b'], ['_', 'a', '_', 'b'] ++ '.' :: kind.suffix] := by
    intro kind
    simp only [appOwnedSidecarPath, Text.trimIsEmpty, sanitizeSidecarComponent, Text.chars_ofChars]
    cases kind <;> decide
  exact h.distinct _ _ hpaths hpaths' .lifecycle .lifecycle rfl

end PrivateBallot.GuiCore
