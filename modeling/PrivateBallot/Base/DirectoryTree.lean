import Mathlib.Algebra.Ring.Nat
import Mathlib.Data.List.Infix
import Mathlib.Data.List.Induction
import Mathlib.Data.List.Pairwise

/-!
# Directory trees

Library `Base`. What a file system holds at each path, as names from its root, and which lists of
paths can be the files of one tree: those of which no path goes through another.
-/

namespace PrivateBallot.Base

/-- What stands at a path. -/
inductive DirectoryNode (ι : Type) where
  | directory
  | file (content : ι)
deriving DecidableEq, Repr

/-- A tree of directories and files; only directories have anything below them. -/
structure DirectoryTree (Name ι : Type) where
  node : List Name → Option (DirectoryNode ι)
  root : node [] = some .directory
  parent : ∀ path name, node (path ++ [name]) ≠ none → node path = some .directory

/-- Neither path goes through the other. -/
def Apart {Name : Type} (path other : List Name) : Prop := ¬ path <+: other ∧ ¬ other <+: path

instance {Name : Type} : Std.Symm (@Apart Name) := ⟨fun _ _ h ↦ ⟨h.2, h.1⟩⟩

namespace DirectoryTree

section

variable {Name : Type}

/-- Each path of the list names a file of its own: the one with its number. -/
def LaysOut (self : DirectoryTree Name ℕ) (paths : List (List Name)) : Prop :=
  ∀ i path, paths[i]? = some path → self.node path = some (.file i)

/-- Whatever has something below it is a directory. -/
theorem node_of_append {ι : Type} (self : DirectoryTree Name ι) {path rest : List Name}
    (hrest : rest ≠ []) (h : self.node (path ++ rest) ≠ none) :
    self.node path = some .directory := by
  induction rest using List.reverseRecOn with
  | nil => exact absurd rfl hrest
  | append_singleton rest name ih =>
    rw [← List.append_assoc] at h
    have hparent := self.parent (path ++ rest) name h
    by_cases hnil : rest = []
    · rwa [hnil, List.append_nil] at hparent
    · apply ih hnil
      rw [hparent]
      exact Option.some_ne_none _

/-- A file is at no path that goes through another file's. -/
theorem LaysOut.not_isPrefix {self : DirectoryTree Name ℕ} {paths : List (List Name)}
    (h : self.LaysOut paths) {i j : ℕ} {path other : List Name} (hi : paths[i]? = some path)
    (hj : paths[j]? = some other) (hne : i ≠ j) : ¬ path <+: other := by
  rintro ⟨rest, hrest⟩
  have hpath := h i path hi
  have hother := h j other hj
  by_cases hnil : rest = []
  · rw [hnil, List.append_nil] at hrest
    rw [← hrest, hpath] at hother
    cases hother
    exact hne rfl
  · have hdirectory : self.node path = some .directory := by
      apply self.node_of_append hnil
      rw [hrest, hother]
      exact Option.some_ne_none _
    rw [hpath] at hdirectory
    cases hdirectory

/-- The paths of the files of a tree keep apart. -/
theorem LaysOut.pairwise {self : DirectoryTree Name ℕ} {paths : List (List Name)}
    (h : self.LaysOut paths) : paths.Pairwise Apart := by
  rw [List.pairwise_iff_getElem]
  intro i j hi hj hlt
  have hpath := List.getElem?_eq_getElem hi
  have hother := List.getElem?_eq_getElem hj
  exact ⟨h.not_isPrefix hpath hother (by omega), h.not_isPrefix hother hpath (by omega)⟩

variable [DecidableEq Name]

/-- The node that a list of files puts at a path: a file, or a directory on the way to one. -/
def nodeOf (paths : List (List Name)) (path : List Name) : Option (DirectoryNode ℕ) :=
  if path ∈ paths then some (.file (paths.idxOf path))
  else if path = [] ∨ ∃ file ∈ paths, path <+: file then some .directory
  else none

/-- Files whose paths keep apart are the files of one tree. -/
theorem exists_laysOut {paths : List (List Name)} (hnil : [] ∉ paths)
    (h : paths.Pairwise Apart) : ∃ tree : DirectoryTree Name ℕ, tree.LaysOut paths := by
  have hdistinct : paths.Nodup := by
    apply h.imp
    rintro path other hapart rfl
    exact hapart.1 List.prefix_rfl
  have hparent : ∀ path name, nodeOf paths (path ++ [name]) ≠ none →
      nodeOf paths path = some .directory := by
    intro path name hnode
    obtain ⟨file, hfile, hbelow⟩ : ∃ file ∈ paths, path ++ [name] <+: file := by
      by_cases hmem : path ++ [name] ∈ paths
      · exact ⟨_, hmem, List.prefix_rfl⟩
      · by_contra hnone
        apply hnode
        rw [nodeOf, if_neg hmem, if_neg]
        rintro (hempty | hsome)
        · simp at hempty
        · exact hnone hsome
    have hway : path <+: file := (List.prefix_append path [name]).trans hbelow
    -- a file here would be on the way to another
    have hnotFile : path ∉ paths := by
      intro hmem
      have hne : path ≠ file := by
        rintro rfl
        have hlength := hbelow.length_le
        rw [List.length_append, List.length_singleton] at hlength
        omega
      exact (h.forall hmem hfile hne).1 hway
    rw [nodeOf, if_neg hnotFile, if_pos (.inr ⟨file, hfile, hway⟩)]
  have hroot : nodeOf paths [] = some .directory := by
    rw [nodeOf, if_neg hnil, if_pos (.inl rfl)]
  refine ⟨⟨nodeOf paths, hroot, hparent⟩, fun i path hi ↦ ?_⟩
  have hmem : path ∈ paths := List.mem_of_getElem? hi
  show nodeOf paths path = _
  rw [nodeOf, if_pos hmem]
  congr 2
  obtain ⟨hlt, hget⟩ := List.getElem?_eq_some_iff.mp hi
  rw [← hget]
  exact hdistinct.idxOf_getElem i hlt

end

end DirectoryTree

/-! ### Names written with a separator -/

section

variable {α : Type} {separator : α}

theorem intercalate_append {first : List (List α)} (rest : List (List α)) (hfirst : first ≠ [])
    (hrest : rest ≠ []) : [separator].intercalate (first ++ rest) =
      [separator].intercalate first ++ separator :: [separator].intercalate rest := by
  induction first with
  | nil => exact absurd rfl hfirst
  | cons name names ih =>
    rw [List.cons_append]
    by_cases hnames : names = []
    · subst hnames
      rw [List.nil_append, List.intercalate_cons_of_ne_nil hrest, List.intercalate_singleton]
      simp
    · have happend : names ++ rest ≠ [] := by simp [hnames]
      rw [List.intercalate_cons_of_ne_nil happend, List.intercalate_cons_of_ne_nil hnames,
        ih hnames]
      simp

variable [DecidableEq α]

/-- One path goes through another when the other continues it, behind a separator. -/
theorem splitOn_isPrefix_iff {path other : List α} :
    path.splitOn separator <+: other.splitOn separator ↔
      path = other ∨ path ++ [separator] <+: other := by
  constructor
  · rintro ⟨rest, hrest⟩
    have hjoined := congrArg [separator].intercalate hrest
    rw [List.intercalate_splitOn] at hjoined
    by_cases hnil : rest = []
    · left
      rwa [hnil, List.append_nil, List.intercalate_splitOn] at hjoined
    · right
      rw [intercalate_append rest (List.splitOn_ne_nil _ _) hnil,
        List.intercalate_splitOn] at hjoined
      exact ⟨[separator].intercalate rest, by rw [← hjoined]; simp⟩
  · rintro (rfl | ⟨rest, rfl⟩)
    · exact List.prefix_rfl
    · rw [List.append_assoc, List.singleton_append, List.splitOn_append_cons_self]
      exact List.prefix_append _ _

/-- Names are read the same before and after a change of letters that spares the separator. -/
theorem splitOn_map {f : α → α} (hf : ∀ x, f x = separator ↔ x = separator) (path : List α) :
    (path.map f).splitOn separator = (path.splitOn separator).map (List.map f) := by
  induction path with
  | nil => rfl
  | cons x rest ih =>
    rw [List.map_cons, List.splitOn_cons_eq_if_modifyHead, List.splitOn_cons_eq_if_modifyHead, ih]
    by_cases hx : x = separator
    · simp [hx, (hf separator).mpr rfl]
    · have hfx : f x ≠ separator := fun h ↦ hx ((hf x).mp h)
      cases hsplit : rest.splitOn separator with
      | nil => exact absurd hsplit (List.splitOn_ne_nil _ _)
      | cons name names => simp [hx, hfx]

end

end PrivateBallot.Base
