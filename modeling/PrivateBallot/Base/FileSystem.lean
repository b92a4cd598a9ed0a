import Mathlib.Data.List.DropRight
import PrivateBallot.Base.DirectoryTree

/-!
# Paths and links

Library `Base`. A file system as one process sees it: a tree in which some of the files are symbolic
links, and a working directory. A walk along a path follows the links on its way, of which there
may be so many; a walk that may create ends at a last name that is missing, too.
-/

namespace PrivateBallot.Base

/-- A part of a path, as it is written between separators. -/
inductive Segment (Name : Type) where
  | dot
  | dotdot
  | name (name : Name)
deriving DecidableEq

/-- A path as it is written. A separator at its end is written as a dot behind it. -/
structure Path (Name : Type) where
  absolute : Bool
  segments : List (Segment Name)
deriving DecidableEq

namespace Path

variable {Name : Type} [DecidableEq Name]

/-- The path without dots at its end; a relative path that begins with a dot keeps that one. -/
def trim (path : Path Name) : Path Name where
  absolute := path.absolute
  segments := match path.absolute, path.segments with
    | false, .dot :: rest => .dot :: rest.rdropWhile (· = .dot)
    | _, segments => segments.rdropWhile (· = .dot)

/-- `Path::file_name` -/
def fileName (path : Path Name) : Option Name :=
  match path.trim.segments.getLast? with
  | some (.name name) => some name
  | _ => none

/-- `PathBuf::pop`, if it has something to remove. -/
def pop (path : Path Name) : Option (Path Name) :=
  if path.trim.segments.isEmpty then none
  else some (trim { path with segments := path.trim.segments.dropLast })

variable {path : Path Name} {front : List (Segment Name)} {name : Name}

theorem length_trim_le (path : Path Name) : path.trim.segments.length ≤ path.segments.length := by
  have hdrop : ∀ segments : List (Segment Name),
      (segments.rdropWhile (· = .dot)).length ≤ segments.length :=
    fun segments ↦ (List.rdropWhile_prefix _ segments).length_le
  unfold trim
  split
  · next rest _ hsegments =>
    rw [hsegments]
    exact Nat.succ_le_succ (hdrop rest)
  · exact hdrop _

/-- What is popped is shorter. -/
theorem length_of_pop {parent : Path Name} (h : path.pop = some parent) :
    parent.segments.length < path.segments.length := by
  obtain ⟨hne, hparent⟩ := Option.ite_none_left_eq_some.mp h
  cases hparent
  have hpos : 0 < path.trim.segments.length := List.length_pos_iff.mpr fun hnil ↦
    hne (List.isEmpty_iff.mpr hnil)
  have hle := length_trim_le { path with segments := path.trim.segments.dropLast }
  have htrim := length_trim_le path
  rw [List.length_dropLast] at hle
  omega

/-- Of a relative path something is left. -/
theorem trim_ne_nil (hrelative : path.absolute = false) (h : path.segments ≠ []) :
    path.trim.segments ≠ [] := by
  unfold trim
  dsimp only
  split
  · exact List.cons_ne_nil _ _
  · next hnot =>
    intro hnil
    obtain ⟨first, rest, hsegments⟩ := List.exists_cons_of_ne_nil h
    have hdot := List.rdropWhile_eq_nil_iff.mp hnil first (hsegments ▸ List.mem_cons_self)
    rw [decide_eq_true_eq] at hdot
    exact hnot rest hrelative (hdot ▸ hsegments)

/-- A path that ends with a name is trimmed already. -/
theorem trim_of_name (h : path.segments = front ++ [Segment.name name]) : path.trim = path := by
  have hdrop : ∀ s : List (Segment Name),
      (s ++ [Segment.name name]).rdropWhile (· = .dot) = s ++ [Segment.name name] :=
    fun s ↦ List.rdropWhile_concat_neg _ _ _ (by simp)
  obtain ⟨absolute, segments⟩ := path
  dsimp only at h
  subst h
  unfold trim
  dsimp only
  congr 1
  split
  · next rest _ hsegments =>
    cases front with
    | nil => cases hsegments
    | cons first front =>
      cases hsegments
      exact congrArg (Segment.dot :: ·) (hdrop front)
  · exact hdrop front

theorem fileName_of_name (h : path.segments = front ++ [Segment.name name]) :
    path.fileName = some name := by
  rw [fileName, trim_of_name h, h, List.getLast?_concat]

theorem pop_of_name (h : path.segments = front ++ [Segment.name name]) :
    path.pop = some (trim { path with segments := front }) := by
  rw [pop, trim_of_name h, h, List.dropLast_concat, if_neg]
  rw [List.isEmpty_iff]
  exact List.append_ne_nil_of_right_ne_nil front (List.cons_ne_nil _ _)

end Path

/-- What a file is. -/
inductive Leaf (Name : Type) where
  | regular
  | link (target : Path Name)
deriving DecidableEq

/-- The names from the root to a place that no link is on the way to. -/
abbrev Location (Name : Type) := List Name

/-- A tree with links, and a working directory in it. -/
structure FileSystem (Name : Type) where
  tree : DirectoryTree Name (Leaf Name)
  cwd : Location Name
  cwd_directory : tree.node cwd = some .directory
  /-- How many links one walk follows at most. -/
  maxLinks : Nat

namespace FileSystem

variable {Name : Type} (fs : FileSystem Name)

/-- Whether a place is a directory. -/
def isDirectory (place : Location Name) : Bool :=
  match fs.tree.node place with
  | some .directory => true
  | _ => false

/-- Where a walk along a path begins, if the path stands in this directory. -/
def startFrom (directory : Location Name) (path : Path Name) : Location Name :=
  if path.absolute then [] else directory

/-- A walk, given what becomes of a link: in which directory it stands, its target, and the rest of
the way. -/
def walkWith {α : Type} (create : Bool)
    (follow : Location Name → Path Name → List (Segment Name) → Option α)
    (arrive : Location Name → α) : Location Name → List (Segment Name) → Option α
  | place, [] => some (arrive place)
  | place, segment :: rest =>
    if fs.isDirectory place then
      match segment with
      | .dot => walkWith create follow arrive place rest
      | .dotdot => walkWith create follow arrive place.dropLast rest
      | .name name =>
        match fs.tree.node (place ++ [name]) with
        | none => if create && rest.isEmpty then some (arrive (place ++ [name])) else none
        | some (.file (.link target)) => follow place target rest
        | some _ => walkWith create follow arrive (place ++ [name]) rest
    else none

/-- A walk that may follow so many links: where it ends, and how many links it may follow then. -/
def walk (create : Bool) : Nat → Location Name → List (Segment Name) →
    Option (Location Name × Nat)
  | 0 => fs.walkWith create (fun _ _ _ ↦ none) fun place ↦ (place, 0)
  | links + 1 => fs.walkWith create
      (fun directory target rest ↦
        walk create links (startFrom directory target) (target.segments ++ rest))
      fun place ↦ (place, links + 1)

/-- Where a path leads, if all of it exists; the empty path leads nowhere. -/
def resolve (path : Path Name) : Option (Location Name) :=
  if path.absolute = false ∧ path.segments.isEmpty then none
  else (fs.walk false fs.maxLinks (startFrom fs.cwd path) path.segments).map Prod.fst

/-- Where a path leads, if all of it exists except perhaps for its last name: the file that opening
the path for writing opens or creates, or a directory. -/
def locate (path : Path Name) : Option (Location Name) :=
  if path.absolute = false ∧ path.segments.isEmpty then none
  else (fs.walk true fs.maxLinks (startFrom fs.cwd path) path.segments).map Prod.fst

variable {fs} {links : Nat} {place : Location Name} {segments rest : List (Segment Name)}

/-! ### Steps of a walk -/

@[simp] theorem walk_nil (create : Bool) (links : Nat) (place : Location Name) :
    fs.walk create links place [] = some (place, links) := by
  cases links with
  | zero => rfl
  | succ links => rfl

theorem walk_dot (create : Bool) (hplace : fs.isDirectory place = true) :
    fs.walk create links place (.dot :: rest) = fs.walk create links place rest := by
  cases links with
  | zero => exact if_pos hplace
  | succ links => exact if_pos hplace

theorem walk_dotdot (create : Bool) (hplace : fs.isDirectory place = true) :
    fs.walk create links place (.dotdot :: rest) = fs.walk create links place.dropLast rest := by
  cases links with
  | zero => exact if_pos hplace
  | succ links => exact if_pos hplace

theorem walk_of_not_directory (create : Bool) {segment : Segment Name}
    (hplace : ¬ fs.isDirectory place = true) :
    fs.walk create links place (segment :: rest) = none := by
  cases links with
  | zero => exact if_neg hplace
  | succ links => exact if_neg hplace

section Names

variable {name : Name} (hplace : fs.isDirectory place = true)
include hplace

theorem walk_missing (create : Bool) (hnode : fs.tree.node (place ++ [name]) = none) :
    fs.walk create links place (.name name :: rest) =
      if create && rest.isEmpty then some (place ++ [name], links) else none := by
  cases links with
  | zero =>
    refine (if_pos hplace).trans ?_
    dsimp only
    rw [hnode]
  | succ links =>
    refine (if_pos hplace).trans ?_
    dsimp only
    rw [hnode]

theorem walk_link_zero (create : Bool) {target : Path Name}
    (hnode : fs.tree.node (place ++ [name]) = some (.file (.link target))) :
    fs.walk create 0 place (.name name :: rest) = none := by
  refine (if_pos hplace).trans ?_
  dsimp only
  rw [hnode]

theorem walk_link_succ (create : Bool) {target : Path Name}
    (hnode : fs.tree.node (place ++ [name]) = some (.file (.link target))) :
    fs.walk create (links + 1) place (.name name :: rest) =
      fs.walk create links (startFrom place target) (target.segments ++ rest) := by
  refine (if_pos hplace).trans ?_
  dsimp only
  rw [hnode]

theorem walk_name (create : Bool) {node : DirectoryNode (Leaf Name)}
    (hnode : fs.tree.node (place ++ [name]) = some node)
    (hlink : ∀ target, node ≠ .file (.link target)) :
    fs.walk create links place (.name name :: rest) =
      fs.walk create links (place ++ [name]) rest := by
  have hstep : ∀ {α : Type} {follow : Location Name → Path Name → List (Segment Name) → Option α}
      {arrive : Location Name → α},
      fs.walkWith create follow arrive place (.name name :: rest) =
        fs.walkWith create follow arrive (place ++ [name]) rest := by
    intro α follow arrive
    refine (if_pos hplace).trans ?_
    dsimp only
    rw [hnode]
    cases node with
    | directory => rfl
    | file leaf =>
      cases leaf with
      | regular => rfl
      | link target => exact absurd rfl (hlink target)
  cases links with
  | zero => exact hstep
  | succ links => exact hstep

end Names

/-! ### Walks in two parts -/

/-- A walk passes through where its first part ends. -/
theorem walk_append {create : Bool} (h : create = false ∨ rest ≠ []) :
    fs.walk create links place (segments ++ rest) =
      (fs.walk false links place segments).bind fun stop ↦ fs.walk create stop.2 stop.1 rest := by
  have hpart : ∀ {links : Nat},
      (∀ {place name target} (front : List (Segment Name)), fs.isDirectory place = true →
        fs.tree.node (place ++ [name]) = some (.file (.link target)) →
        fs.walk create links place (.name name :: (front ++ rest)) =
          (fs.walk false links place (.name name :: front)).bind fun stop ↦
            fs.walk create stop.2 stop.1 rest) →
      ∀ (place : Location Name) (segments : List (Segment Name)),
        fs.walk create links place (segments ++ rest) =
          (fs.walk false links place segments).bind fun stop ↦
            fs.walk create stop.2 stop.1 rest := by
    intro links hlink place segments
    induction segments generalizing place with
    | nil => rw [List.nil_append, walk_nil, Option.bind_some]
    | cons segment front ih =>
      rw [List.cons_append]
      by_cases hplace : fs.isDirectory place = true
      · cases segment with
        | dot => rw [walk_dot create hplace, walk_dot false hplace, ih]
        | dotdot => rw [walk_dotdot create hplace, walk_dotdot false hplace, ih]
        | name name =>
          cases hnode : fs.tree.node (place ++ [name]) with
          | none =>
            rw [walk_missing hplace create hnode, walk_missing hplace false hnode, if_neg, if_neg]
            · rfl
            · exact Bool.false_ne_true
            · rintro hboth
              rw [Bool.and_eq_true, List.isEmpty_iff, List.append_eq_nil_iff] at hboth
              rcases h with rfl | hrest
              · cases hboth.1
              · exact hrest hboth.2.2
          | some node =>
            by_cases hleaf : ∃ target, node = .file (.link target)
            · obtain ⟨target, rfl⟩ := hleaf
              exact hlink front hplace hnode
            · have hname : ∀ target, node ≠ .file (.link target) :=
                fun target htarget ↦ hleaf ⟨target, htarget⟩
              rw [walk_name hplace create hnode hname, walk_name hplace false hnode hname, ih]
      · rw [walk_of_not_directory create hplace, walk_of_not_directory false hplace]
        rfl
  induction links generalizing place segments with
  | zero =>
    refine hpart (fun front hplace hnode ↦ ?_) place segments
    rw [walk_link_zero hplace create hnode, walk_link_zero hplace false hnode]
    rfl
  | succ links ih =>
    refine hpart (fun front hplace hnode ↦ ?_) place segments
    rw [walk_link_succ hplace create hnode, walk_link_succ hplace false hnode, ← List.append_assoc,
      ih]

/-- Dots at the end of a path change nothing about where it leads. -/
theorem walk_rdropWhile [DecidableEq Name] {stop : Location Name × Nat}
    (h : fs.walk false links place segments = some stop) :
    fs.walk false links place (segments.rdropWhile (· = .dot)) = some stop := by
  induction segments using List.reverseRecOn with
  | nil => exact h
  | append_singleton segments segment ih =>
    by_cases hdot : segment = .dot
    · rw [List.rdropWhile_concat_pos _ _ _ (by simpa using hdot)]
      apply ih
      rw [walk_append (Or.inl rfl), Option.bind_eq_some_iff] at h
      obtain ⟨⟨place', links'⟩, hfront, hlast⟩ := h
      rw [hfront, ← hlast, hdot]
      by_cases hplace : fs.isDirectory place' = true
      · rw [walk_dot false hplace, walk_nil]
      · rw [hdot, walk_of_not_directory false hplace] at hlast
        cases hlast
    · rwa [List.rdropWhile_concat_neg _ _ _ (by simpa using hdot)]

/-- So a trimmed path leads to the same place. -/
theorem walk_trim [DecidableEq Name] {path : Path Name} {stop : Location Name × Nat}
    (h : fs.walk false links place path.segments = some stop) :
    fs.walk false links place path.trim.segments = some stop := by
  unfold Path.trim
  dsimp only
  split
  · next rest _ hsegments =>
    rw [hsegments] at h
    by_cases hplace : fs.isDirectory place = true
    · rw [walk_dot false hplace] at h ⊢
      exact walk_rdropWhile h
    · rw [walk_of_not_directory false hplace] at h
      cases h
  · exact walk_rdropWhile h

theorem resolve_trim [DecidableEq Name] {path : Path Name} {stop : Location Name × Nat}
    (hne : path.absolute = true ∨ path.segments ≠ [])
    (h : fs.walk false fs.maxLinks (startFrom fs.cwd path) path.segments = some stop) :
    fs.resolve path.trim = some stop.1 := by
  have hnot : ¬ (path.trim.absolute = false ∧ path.trim.segments.isEmpty = true) := by
    rintro ⟨hrelative, hempty⟩
    have hrelative : path.absolute = false := hrelative
    rcases hne with habsolute | hne
    · rw [hrelative] at habsolute
      cases habsolute
    · exact Path.trim_ne_nil hrelative hne (List.isEmpty_iff.mp hempty)
  rw [resolve, if_neg hnot]
  exact congrArg (Option.map Prod.fst) (walk_trim h)

/-- Where a path leads of which only the last name may be missing: to that name in the directory in
front of it, unless there is a link that leads on. -/
theorem exists_parent_of_locate {path : Path Name} {location : Location Name}
    (hlocate : fs.locate path = some location) (hresolve : fs.resolve path = none) :
    ∃ front name directory left, path.segments = front ++ [Segment.name name] ∧
      fs.walk false fs.maxLinks (startFrom fs.cwd path) front = some (directory, left) ∧
      fs.isDirectory directory = true ∧
      (fs.tree.node (directory ++ [name]) = none ∧ location = directory ++ [name] ∨
        ∃ target, fs.tree.node (directory ++ [name]) = some (.file (.link target))) := by
  obtain ⟨hne, hlocate⟩ := Option.ite_none_left_eq_some.mp hlocate
  rw [resolve, if_neg hne, Option.map_eq_none_iff] at hresolve
  obtain ⟨⟨_, left⟩, hwalk, rfl⟩ := Option.map_eq_some_iff.mp hlocate
  rcases List.eq_nil_or_concat path.segments with hnil | ⟨front, last, hsegments⟩
  · rw [hnil, walk_nil] at hresolve
    cases hresolve
  rw [List.concat_eq_append] at hsegments
  rw [hsegments, walk_append (Or.inr (List.cons_ne_nil _ _)), Option.bind_eq_some_iff] at hwalk
  obtain ⟨⟨directory, links⟩, hfront, hlast⟩ := hwalk
  rw [hsegments, walk_append (Or.inl rfl), hfront, Option.bind_some] at hresolve
  dsimp only at hlast hresolve
  have hdirectory : fs.isDirectory directory = true := by
    by_contra hnot
    rw [walk_of_not_directory true hnot] at hlast
    cases hlast
  cases last with
  | dot =>
    rw [walk_dot false hdirectory, walk_nil] at hresolve
    cases hresolve
  | dotdot =>
    rw [walk_dotdot false hdirectory, walk_nil] at hresolve
    cases hresolve
  | name name =>
    refine ⟨front, name, directory, links, hsegments, hfront, hdirectory, ?_⟩
    cases hnode : fs.tree.node (directory ++ [name]) with
    | none =>
      rw [walk_missing hdirectory true hnode] at hlast
      cases hlast
      exact Or.inl ⟨rfl, rfl⟩
    | some node =>
      by_cases hleaf : ∃ target, node = .file (.link target)
      · obtain ⟨target, rfl⟩ := hleaf
        exact Or.inr ⟨target, rfl⟩
      · have hname : ∀ target, node ≠ .file (.link target) :=
          fun target htarget ↦ hleaf ⟨target, htarget⟩
        rw [walk_name hdirectory false hnode hname, walk_nil] at hresolve
        cases hresolve

/-- A walk that ends somewhere as it is ends there also if it may create. -/
theorem walk_create {stop : Location Name × Nat}
    (h : fs.walk false links place segments = some stop) :
    fs.walk true links place segments = some stop := by
  have hpart : ∀ {links : Nat},
      (∀ {place name target} (rest : List (Segment Name)), fs.isDirectory place = true →
        fs.tree.node (place ++ [name]) = some (.file (.link target)) →
        fs.walk false links place (.name name :: rest) = some stop →
        fs.walk true links place (.name name :: rest) = some stop) →
      ∀ (place : Location Name) (segments : List (Segment Name)),
        fs.walk false links place segments = some stop →
        fs.walk true links place segments = some stop := by
    intro links hlink place segments h
    induction segments generalizing place with
    | nil => rwa [walk_nil] at h ⊢
    | cons segment rest ih =>
      by_cases hplace : fs.isDirectory place = true
      · cases segment with
        | dot =>
          rw [walk_dot _ hplace] at h ⊢
          exact ih place h
        | dotdot =>
          rw [walk_dotdot _ hplace] at h ⊢
          exact ih place.dropLast h
        | name name =>
          cases hnode : fs.tree.node (place ++ [name]) with
          | none =>
            rw [walk_missing hplace false hnode, Bool.false_and, if_neg Bool.false_ne_true] at h
            cases h
          | some node =>
            by_cases hleaf : ∃ target, node = .file (.link target)
            · obtain ⟨target, rfl⟩ := hleaf
              exact hlink rest hplace hnode h
            · have hname : ∀ target, node ≠ .file (.link target) :=
                fun target htarget ↦ hleaf ⟨target, htarget⟩
              rw [walk_name hplace _ hnode hname] at h ⊢
              exact ih (place ++ [name]) h
      · rw [walk_of_not_directory false hplace] at h
        cases h
  induction links generalizing place segments with
  | zero =>
    refine hpart (fun rest hplace hnode h ↦ ?_) place segments h
    rw [walk_link_zero hplace false hnode] at h
    cases h
  | succ links ih =>
    refine hpart (fun rest hplace hnode h ↦ ?_) place segments h
    rw [walk_link_succ hplace _ hnode] at h ⊢
    exact ih h

/-- So a path that exists leads where it leads if it may create. -/
theorem locate_of_resolve {path : Path Name} {location : Location Name}
    (h : fs.resolve path = some location) : fs.locate path = some location := by
  obtain ⟨hne, hwalk⟩ := Option.ite_none_left_eq_some.mp h
  obtain ⟨stop, hstop, rfl⟩ := Option.map_eq_some_iff.mp hwalk
  rw [locate, if_neg hne, walk_create hstop, Option.map_some]

end FileSystem

end PrivateBallot.Base
