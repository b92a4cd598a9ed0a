import PrivateBallot.Base.FileSystem
import PrivateBallot.Base.Text

/-!
# The guard of the archive directory

Library `OotleAnchor`. `crates/ootle-anchor-app/src/path_guard.rs`: whether an output path leads
into the archive, on a system whose paths have no prefixes and whose names are case-sensitive texts.
The guard asks the file system about the deepest part of a path that exists; what the path leads to
is a matter of all of it.
-/

namespace PrivateBallot.OotleAnchor

open PrivateBallot.Base

/-! ### Paths and their components -/

/-- A file name: no dots alone, no separators, no NUL. -/
structure PathName where
  text : Text
  ne_nil : text.toBytes ≠ []
  ne_dot : text ≠ .lit "."
  ne_dotdot : text ≠ .lit ".."
  notMem : 0x2f ∉ text.toBytes ∧ 0 ∉ text.toBytes
deriving DecidableEq

/-- `Component`, without prefixes -/
inductive Component where
  | rootDir
  | curDir
  | parentDir
  | normal (part : PathName)
deriving DecidableEq

/-- What stands for the root. -/
def rootSentinel : Text := .lit "\x00root"

/-- `fold_case`, off Windows -/
def foldCase (text : Text) : Text := text

/-- One component less, unless the last one is the root. -/
def popComponent (components : List Text) : List Text :=
  if components.getLast?.any (· ≠ rootSentinel) then components.dropLast else components

/-- `normalize_components` -/
def normalizeComponents (components : List Component) : List Text :=
  components.foldl (fun out component ↦ match component with
    | .rootDir => out ++ [rootSentinel]
    | .normal part => out ++ [foldCase part.text]
    | .curDir => out
    | .parentDir => popComponent out) []

/-- `apply_lexical_component` -/
def applyLexicalComponent (components : List Text) (raw : Text) : List Text :=
  if raw.toBytes = [] ∨ raw = .lit "." then components
  else if raw = .lit ".." then popComponent components
  else components ++ [foldCase raw]

/-- `components_contains_or_equals` -/
def componentsContainsOrEquals (base cand : List Text) : Bool :=
  if base.isEmpty || cand.length < base.length then false
  else (base.zip cand).all fun (b, c) ↦ b = c

/-! ### The guard -/

section Guard

variable (fs : FileSystem PathName)

/-- `fs::canonicalize` -/
def canonicalize (path : Path PathName) : Option (List Component) :=
  (fs.resolve path).map fun place ↦ .rootDir :: place.map .normal

/-- The loop of `split_at_deepest_existing`. -/
def splitLoop (current : Path PathName) (tail : List Text) : Option (Path PathName) × List Text :=
  if (fs.resolve current).isSome then (some current, tail.reverse)
  else match current.fileName with
    | none => (none, tail.reverse)
    | some fileName =>
      match _h : current.pop with
      | none => (none, (tail ++ [fileName.text]).reverse)
      | some parent => splitLoop parent (tail ++ [fileName.text])
termination_by current.segments.length
decreasing_by exact Path.length_of_pop (by assumption)

/-- `split_at_deepest_existing` -/
def splitAtDeepestExisting (path : Path PathName) : Option (Path PathName) × List Text :=
  splitLoop fs path []

/-- `resolve_for_containment` -/
def resolveForContainment (path : Path PathName) : Option (List Text) :=
  let (existing, tail) := splitAtDeepestExisting fs path
  let baseComponents := match existing with
    | some existing => (canonicalize fs existing).map normalizeComponents
    | none => some []
  baseComponents.map fun components ↦ tail.foldl applyLexicalComponent components

/-- `path_is_within_archive`; `crates/ootle-anchor-app/src/path_guard.rs:36`. -/
def pathIsWithinArchive (candidate archiveDir : Path PathName) : Bool :=
  match resolveForContainment fs archiveDir, resolveForContainment fs candidate with
  | some base, some cand => componentsContainsOrEquals base cand
  | _, _ => true

end Guard

/-! ### What the guard compares -/

/-- The components of a place. -/
def componentsOf (place : Location PathName) : List Text :=
  rootSentinel :: place.map PathName.text

theorem PathName.text_injective : Function.Injective PathName.text := by
  rintro ⟨a, _, _, _, _⟩ ⟨b, _, _, _, _⟩ h
  cases h
  rfl

theorem PathName.text_ne_rootSentinel (name : PathName) : name.text ≠ rootSentinel := by
  intro h
  have hnul : 0 ∈ rootSentinel.toBytes := by decide
  exact name.notMem.2 (h ▸ hnul)

theorem componentsOf_isPrefix_iff {place other : Location PathName} :
    componentsOf place <+: componentsOf other ↔ place <+: other := by
  rw [componentsOf, componentsOf, List.cons_prefix_cons]
  constructor
  · rintro ⟨-, h⟩
    obtain ⟨front, hfront, hmap⟩ := List.prefix_map_iff.mp h
    rwa [List.map_injective_iff.mpr PathName.text_injective hmap]
  · exact fun h ↦ ⟨rfl, h.map PathName.text⟩

theorem componentsContainsOrEquals_iff {base cand : List Text} :
    componentsContainsOrEquals base cand = true ↔ base ≠ [] ∧ base <+: cand := by
  have hzip : ∀ base cand : List Text, base.length ≤ cand.length →
      (((base.zip cand).all fun (b, c) ↦ decide (b = c)) = true ↔ base <+: cand) := by
    intro base
    induction base with
    | nil => exact fun cand _ ↦ iff_of_true rfl List.nil_prefix
    | cons b base ih =>
      intro cand hlength
      cases cand with
      | nil => cases hlength
      | cons c cand =>
        rw [List.zip_cons_cons, List.all_cons, Bool.and_eq_true, decide_eq_true_eq,
          List.cons_prefix_cons, ih cand (Nat.le_of_succ_le_succ hlength)]
  unfold componentsContainsOrEquals
  constructor
  · intro h
    split at h
    · cases h
    next hbounds =>
    rw [Bool.or_eq_true, List.isEmpty_iff, decide_eq_true_eq, not_or, Nat.not_lt] at hbounds
    exact ⟨hbounds.1, (hzip base cand hbounds.2).mp h⟩
  · rintro ⟨hne, hprefix⟩
    rw [if_neg]
    · exact (hzip base cand hprefix.length_le).mpr hprefix
    · rw [Bool.or_eq_true, List.isEmpty_iff, decide_eq_true_eq, not_or, Nat.not_lt]
      exact ⟨hne, hprefix.length_le⟩

theorem normalizeComponents_canonical (place : Location PathName) :
    normalizeComponents (.rootDir :: place.map .normal) = componentsOf place := by
  have hfold : ∀ (place : Location PathName) (out : List Text),
      (place.map Component.normal).foldl (fun out component ↦ match component with
        | .rootDir => out ++ [rootSentinel]
        | .normal part => out ++ [foldCase part.text]
        | .curDir => out
        | .parentDir => popComponent out) out = out ++ place.map PathName.text := by
    intro place
    induction place with
    | nil => exact fun out ↦ (List.append_nil out).symm
    | cons name place ih =>
      intro out
      rw [List.map_cons, List.foldl_cons, ih, List.append_assoc]
      rfl
  rw [normalizeComponents, List.foldl_cons, hfold]
  rfl

/-- A name is appended as it is. -/
theorem applyLexicalComponent_name (components : List Text) (name : PathName) :
    applyLexicalComponent components name.text = components ++ [name.text] := by
  rw [applyLexicalComponent, if_neg (not_or.mpr ⟨name.ne_nil, name.ne_dot⟩), if_neg name.ne_dotdot,
    foldCase]

section Resolution

variable {fs : FileSystem PathName} {path : Path PathName}

private theorem splitLoop_of_resolve {place : Location PathName}
    (h : fs.resolve path = some place) (tail : List Text) :
    splitLoop fs path tail = (some path, tail.reverse) := by
  rw [splitLoop, h]
  rfl

private theorem splitLoop_of_name {front : List (Segment PathName)} {name : PathName}
    (hsegments : path.segments = front ++ [Segment.name name]) (hmissing : fs.resolve path = none)
    (tail : List Text) : splitLoop fs path tail =
      splitLoop fs (Path.trim { path with segments := front }) (tail ++ [name.text]) := by
  rw [splitLoop, if_neg (by rw [hmissing]; exact Bool.false_ne_true),
    Path.fileName_of_name hsegments]
  dsimp only
  split
  · next hpop =>
    rw [Path.pop_of_name hsegments] at hpop
    cases hpop
  · next parent hpop =>
    rw [Path.pop_of_name hsegments] at hpop
    cases hpop
    rfl

/-- A path that exists is compared by its place. -/
theorem resolveForContainment_of_resolve {place : Location PathName}
    (h : fs.resolve path = some place) :
    resolveForContainment fs path = some (componentsOf place) := by
  rw [resolveForContainment, splitAtDeepestExisting, splitLoop_of_resolve h]
  dsimp only
  rw [canonicalize, h, Option.map_some, Option.map_some, Option.map_some,
    normalizeComponents_canonical]
  rfl

variable {front : List (Segment PathName)} {name : PathName}

/-- A missing path is compared by the place of its directory and its name. -/
theorem resolveForContainment_of_parent {directory : Location PathName}
    (hsegments : path.segments = front ++ [Segment.name name]) (hmissing : fs.resolve path = none)
    (hparent : fs.resolve (Path.trim { path with segments := front }) = some directory) :
    resolveForContainment fs path = some (componentsOf (directory ++ [name])) := by
  rw [resolveForContainment, splitAtDeepestExisting, splitLoop_of_name hsegments hmissing,
    splitLoop_of_resolve hparent]
  dsimp only
  rw [canonicalize, hparent, Option.map_some, Option.map_some, Option.map_some,
    normalizeComponents_canonical, List.nil_append, List.reverse_singleton, List.foldl_cons,
    List.foldl_nil, applyLexicalComponent_name, componentsOf, componentsOf, List.map_append]
  rfl

/-- A missing path that is a name alone is compared by this name alone. -/
theorem resolveForContainment_of_bare (hrelative : path.absolute = false)
    (hsegments : path.segments = [Segment.name name]) (hmissing : fs.resolve path = none) :
    resolveForContainment fs path = some [name.text] := by
  have hfront : path.segments = [] ++ [Segment.name name] := hsegments
  have hempty : fs.resolve (Path.trim { path with segments := [] }) = none := by
    rw [hrelative]
    rfl
  have hlast : splitLoop fs (Path.trim { path with segments := [] }) ([] ++ [name.text]) =
      (none, [name.text]) := by
    rw [splitLoop, if_neg (by rw [hempty]; exact Bool.false_ne_true), hrelative]
    rfl
  rw [resolveForContainment, splitAtDeepestExisting, splitLoop_of_name hfront hmissing, hlast]
  dsimp only
  rw [Option.map_some, List.foldl_cons, List.foldl_nil, applyLexicalComponent_name]
  rfl

end Resolution

/-! ### When the guard is right -/

section Exact

variable (fs : FileSystem PathName)

/-- A name alone, without a directory. -/
def IsBare (path : Path PathName) : Prop := path.absolute = false ∧ path.segments.length = 1

/-- The directory in which the last name of a path stands. -/
def directoryOf (path : Path PathName) : Option (Location PathName) := path.pop.bind fs.resolve

/-- What has to be so of a candidate that leads to this location, for an archive at this place: it
exists; or it is a name alone and leads outside; or it has a directory, which is inside exactly if
the location is. The last two differ from the truth for a name alone in a working directory that is
inside, and for a link to a missing file across the border. -/
def GuardSees (archive location : Location PathName) (candidate : Path PathName) : Prop :=
  (fs.resolve candidate).isSome = true ∨
    IsBare candidate ∧ ¬ archive <+: location ∨
    ¬ IsBare candidate ∧ ∃ directory, directoryOf fs candidate = some directory ∧
      (archive <+: directory ↔ archive <+: location)

end Exact

namespace PathSample

def archiveName : PathName := ⟨.lit "a", by decide, by decide, by decide, by decide⟩
def outName : PathName := ⟨.lit "o", by decide, by decide, by decide, by decide⟩
def linkName : PathName := ⟨.lit "l", by decide, by decide, by decide, by decide⟩
def newName : PathName := ⟨.lit "n", by decide, by decide, by decide, by decide⟩

/-- `/a/n` -/
def inArchive : Path PathName := ⟨true, [.name archiveName, .name newName]⟩

/-- Directories `/a` and `/o`, and a link `/o/l` to the missing `/a/n`. -/
def node (place : Location PathName) : Option (DirectoryNode (Leaf PathName)) :=
  if place = [] ∨ place = [archiveName] ∨ place = [outName] then some .directory
  else if place = [outName, linkName] then some (.file (.link inArchive))
  else none

def tree : DirectoryTree PathName (Leaf PathName) where
  node := node
  root := if_pos (Or.inl rfl)
  parent := by
    intro path name h
    have hlast : ∀ {front : Location PathName} {last : PathName},
        path ++ [name] = front ++ [last] → path = front :=
      fun heq ↦ (List.append_inj' heq rfl).1
    have hpath : path = [] ∨ path = [outName] := by
      unfold node at h
      split at h
      · next hplace =>
        rcases hplace with hplace | hplace | hplace
        · exact absurd hplace (List.concat_ne_nil name path)
        · exact Or.inl (hlast (hplace.trans (List.nil_append _).symm))
        · exact Or.inl (hlast (hplace.trans (List.nil_append _).symm))
      · split at h
        · next hplace => exact Or.inr (hlast (hplace.trans (List.singleton_append).symm))
        · exact absurd rfl h
    rcases hpath with rfl | rfl
    · exact if_pos (Or.inl rfl)
    · exact if_pos (Or.inr (Or.inr rfl))

/-- The process works in `/a`. -/
def fileSystem : FileSystem PathName := ⟨tree, [archiveName], by decide, 40⟩

/-- `n` -/
def bare : Path PathName := ⟨false, [.name newName]⟩

/-- `./n` -/
def dotted : Path PathName := ⟨false, [.dot, .name newName]⟩

/-- `/o/l` -/
def linked : Path PathName := ⟨true, [.name outName, .name linkName]⟩

/-- `/a` -/
def archive : Path PathName := ⟨true, [.name archiveName]⟩

end PathSample

end PrivateBallot.OotleAnchor
