import Mathlib.Algebra.Ring.Nat
import Mathlib.Data.List.Basic
import Mathlib.Data.List.Induction

/-!
# Merkle trees

Library `Base`. Trees over a list of leaves, built layer by layer from a function that combines two
nodes. A last node without a partner is paired with itself. A path from a leaf lists the nodes next
to it, each with the side it is on. Nothing is assumed of the combining function; what a proof needs
of it is a hypothesis about the pairs that were combined.
-/

namespace PrivateBallot.Base.MerkleTree

variable {α : Type}

/-- `layer.chunks(2)`, with the missing right node of the last chunk. -/
def pairUp : List α → List (α × α)
  | left :: right :: rest => (left, right) :: pairUp rest
  | [last] => [(last, last)]
  | [] => []

/-- Where the partner of a node is: to its right when the position is even, or the node itself when
there is none. -/
def partner (length cursor : Nat) : Nat :=
  if cursor % 2 = 0 then min (cursor + 1) (length - 1) else cursor - 1

theorem length_pairUp (layer : List α) : (pairUp layer).length = (layer.length + 1) / 2 := by
  fun_induction pairUp layer with
  | case1 left right rest ih =>
    rw [List.length_cons, ih, List.length_cons, List.length_cons]
    omega
  | case2 last => simp
  | case3 => simp

/-- Pairs are of nodes of the layer. -/
theorem mem_of_mem_pairUp {layer : List α} {pair : α × α} (h : pair ∈ pairUp layer) :
    pair.1 ∈ layer ∧ pair.2 ∈ layer := by
  fun_induction pairUp layer with
  | case1 left right rest ih =>
    rcases List.mem_cons.mp h with rfl | hrest
    · simp
    · have hboth := ih hrest
      exact ⟨by simp [hboth.1], by simp [hboth.2]⟩
  | case2 last =>
    rw [List.mem_singleton] at h
    subst h
    simp
  | case3 => cases h

/-- A node and its partner, on their sides. -/
def sided (current : α) (step : α × Bool) : α × α :=
  if step.2 then (step.1, current) else (current, step.1)

theorem mem_sided (current : α) (step : α × Bool) :
    current = (sided current step).1 ∨ current = (sided current step).2 := by
  unfold sided
  split
  · exact Or.inr rfl
  · exact Or.inl rfl

/-- Every node of a layer is in the pair at half its position. -/
theorem getElem?_pairUp {layer : List α} {cursor : Nat} {node : α}
    (h : layer[cursor]? = some node) :
    ∃ sibling, layer[partner layer.length cursor]? = some sibling ∧
      (pairUp layer)[cursor / 2]? =
        some (sided node (sibling, decide (partner layer.length cursor < cursor))) := by
  fun_induction pairUp layer generalizing cursor with
  | case1 left right rest ih =>
    match cursor with
    | 0 =>
      cases h
      refine ⟨right, ?_, ?_⟩
      · simp [partner]
      · simp [partner, sided]
    | 1 =>
      cases h
      exact ⟨left, rfl, rfl⟩
    | cursor + 2 =>
      simp only [List.getElem?_cons_succ] at h
      obtain ⟨sibling, hsibling, hpair⟩ := ih h
      have hlt : cursor < rest.length := (List.getElem?_eq_some_iff.mp h).1
      have hpartner : partner (rest.length + 2) (cursor + 2) = partner rest.length cursor + 2 := by
        unfold partner
        split <;> split <;> omega
      have hhalf : (cursor + 2) / 2 = cursor / 2 + 1 := by omega
      refine ⟨sibling, ?_, ?_⟩
      · simp only [List.length_cons, hpartner]
        exact hsibling
      · simp only [List.length_cons, hpartner, hhalf, List.getElem?_cons_succ, hpair,
          Nat.add_lt_add_iff_right]
  | case2 last =>
    match cursor with
    | 0 =>
      exact ⟨node, h, by simp [partner, sided, Option.some_inj.mp h]⟩
    | cursor + 1 => cases h
  | case3 => cases h

section

variable (combine : α → α → α)

/-- One layer up. -/
def nextLayer (layer : List α) : List α := (pairUp layer).map fun pair ↦ combine pair.1 pair.2

/-- The last node that is left; as many rounds as there are leaves are enough. -/
def rootFrom : Nat → List α → Option α
  | 0, layer => layer.head?
  | fuel + 1, layer =>
    if 1 < layer.length then rootFrom fuel (nextLayer combine layer) else layer.head?

/-- The pairs that are combined on the way to the root. -/
def pairsFrom : Nat → List α → List (α × α)
  | 0, _ => []
  | fuel + 1, layer =>
    if 1 < layer.length then pairUp layer ++ pairsFrom fuel (nextLayer combine layer) else []

-- A position in a layer is below its length, and so is its partner's.
/-- The partners on the way from a position to the root, each with whether it is on the left. -/
def siblingsFrom : Nat → List α → Nat → List (α × Bool)
  | 0, _, _ => []
  | fuel + 1, layer, cursor =>
    if 1 < layer.length then
      match layer[partner layer.length cursor]? with
      | some sibling => (sibling, decide (partner layer.length cursor < cursor)) ::
          siblingsFrom fuel (nextLayer combine layer) (cursor / 2)
      | none => []
    else []

/-- One step towards the root. -/
def step (current : α) (sibling : α × Bool) : α :=
  combine (sided current sibling).1 (sided current sibling).2

/-- The node a path leads to. -/
def climb (leaf : α) (path : List (α × Bool)) : α := path.foldl (step combine) leaf

/-- The pairs that are combined on a path. -/
def pathPairs (leaf : α) : List (α × Bool) → List (α × α)
  | [] => []
  | sibling :: path => sided leaf sibling :: pathPairs (step combine leaf sibling) path

end

variable {combine : α → α → α}

theorem length_nextLayer (layer : List α) :
    (nextLayer combine layer).length = (layer.length + 1) / 2 := by
  rw [nextLayer, List.length_map, length_pairUp]

/-- The path from a leaf leads to the root, and combines pairs of the tree only. -/
theorem climb_siblingsFrom {fuel : Nat} {layer : List α} {cursor : Nat} {leaf : α}
    (hfuel : layer.length ≤ fuel) (h : layer[cursor]? = some leaf) :
    rootFrom combine fuel layer =
        some (climb combine leaf (siblingsFrom combine fuel layer cursor)) ∧
      ∀ pair ∈ pathPairs combine leaf (siblingsFrom combine fuel layer cursor),
        pair ∈ pairsFrom combine fuel layer := by
  induction fuel generalizing layer cursor leaf with
  | zero =>
    have hlt : cursor < layer.length := (List.getElem?_eq_some_iff.mp h).1
    omega
  | succ fuel ih =>
    by_cases hmany : 1 < layer.length
    · obtain ⟨sibling, hsibling, hpair⟩ := getElem?_pairUp h
      have hnext : (nextLayer combine layer)[cursor / 2]? = some (step combine leaf
          (sibling, decide (partner layer.length cursor < cursor))) := by
        rw [nextLayer, List.getElem?_map, hpair]
        rfl
      have hshort : (nextLayer combine layer).length ≤ fuel := by
        rw [length_nextLayer]
        omega
      obtain ⟨hroot, hpairs⟩ := ih hshort hnext
      simp only [rootFrom, siblingsFrom, pairsFrom, if_pos hmany, hsibling]
      refine ⟨hroot, ?_⟩
      intro pair hmem
      rw [List.mem_append]
      rcases List.mem_cons.mp hmem with rfl | hmem
      · exact Or.inl (List.mem_of_getElem? hpair)
      · exact Or.inr (hpairs pair hmem)
    · have hlt : cursor < layer.length := (List.getElem?_eq_some_iff.mp h).1
      have hzero : cursor = 0 := by omega
      subst hzero
      simp only [rootFrom, siblingsFrom, pairsFrom, if_neg hmany]
      refine ⟨?_, nofun⟩
      rw [List.head?_eq_getElem?, h]
      rfl

theorem climb_append_singleton (leaf : α) (path : List (α × Bool)) (sibling : α × Bool) :
    climb combine leaf (path ++ [sibling]) = step combine (climb combine leaf path) sibling := by
  rw [climb, List.foldl_append]
  rfl

/-- The last pair of a path. -/
theorem sided_mem_pathPairs (combine : α → α → α) (leaf : α) (path : List (α × Bool))
    (sibling : α × Bool) (rest : List (α × Bool)) :
    sided (climb combine leaf path) sibling ∈
      pathPairs combine leaf (path ++ sibling :: rest) := by
  induction path generalizing leaf with
  | nil => exact List.mem_cons_self
  | cons first path ih => exact List.mem_cons_of_mem _ (ih (step combine leaf first))

-- Peeled from the root: where the path's node is combined from two nodes of a layer, the node
-- before it is one of them.
/-- A path to the root passes through every layer above the one its leaf is in. -/
theorem exists_climb_mem {fuel : Nat} {layer : List α} {leaf root : α} {path : List (α × Bool)}
    (hinjective : ∀ p ∈ pairsFrom combine fuel layer, ∀ q ∈ pathPairs combine leaf path,
      combine p.1 p.2 = combine q.1 q.2 → p = q)
    (hroot : rootFrom combine fuel layer = some root) (hclimb : climb combine leaf path = root) :
    (∃ front back, path = front ++ back ∧ climb combine leaf front ∈ layer) ∨
      ∃ p ∈ pairsFrom combine fuel layer, leaf = combine p.1 p.2 := by
  induction fuel generalizing layer with
  | zero =>
    refine Or.inl ⟨path, [], (List.append_nil path).symm, ?_⟩
    rw [hclimb]
    exact List.mem_of_mem_head? hroot
  | succ fuel ih =>
    by_cases hmany : 1 < layer.length
    · simp only [rootFrom, pairsFrom, if_pos hmany] at hroot hinjective ⊢
      have habove := ih (fun p hp ↦ hinjective p (List.mem_append_right _ hp)) hroot
      rcases habove with ⟨front, back, hpath, hmem⟩ | ⟨p, hp, hleaf⟩
      · obtain ⟨p, hp, hcombined⟩ := List.mem_map.mp hmem
        cases front using List.reverseRecOn with
        | nil => exact Or.inr ⟨p, List.mem_append_left _ hp, hcombined.symm⟩
        | append_singleton front sibling =>
          left
          rw [List.append_assoc, List.singleton_append] at hpath
          refine ⟨front, sibling :: back, hpath, ?_⟩
          have hlast := sided_mem_pathPairs combine leaf front sibling back
          rw [← hpath] at hlast
          rw [climb_append_singleton] at hcombined
          have hsame := hinjective p (List.mem_append_left _ hp) _ hlast hcombined
          have hboth := mem_of_mem_pairUp hp
          rcases mem_sided (climb combine leaf front) sibling with heq | heq
          · rw [heq, ← hsame]
            exact hboth.1
          · rw [heq, ← hsame]
            exact hboth.2
      · exact Or.inr ⟨p, List.mem_append_right _ hp, hleaf⟩
    · simp only [rootFrom, if_neg hmany] at hroot
      refine Or.inl ⟨path, [], (List.append_nil path).symm, ?_⟩
      rw [hclimb]
      exact List.mem_of_mem_head? hroot

/-- Soundness: a path to the root starts at a leaf of the tree, where combining is injective on the
pairs of the tree and of the path, and no leaf is a combination. -/
theorem mem_of_climb {fuel : Nat} {leaves : List α} {leaf root : α} {path : List (α × Bool)}
    (hinjective : ∀ p ∈ pairsFrom combine fuel leaves, ∀ q ∈ pathPairs combine leaf path,
      combine p.1 p.2 = combine q.1 q.2 → p = q)
    (hleaf : ∀ p ∈ pairsFrom combine fuel leaves, leaf ≠ combine p.1 p.2)
    (hleaves : ∀ l ∈ leaves, ∀ q ∈ pathPairs combine leaf path, l ≠ combine q.1 q.2)
    (hroot : rootFrom combine fuel leaves = some root) (hclimb : climb combine leaf path = root) :
    leaf ∈ leaves := by
  rcases exists_climb_mem hinjective hroot hclimb with ⟨front, back, hpath, hmem⟩ | ⟨p, hp, heq⟩
  · cases front using List.reverseRecOn with
    | nil => exact hmem
    | append_singleton front sibling =>
      rw [List.append_assoc, List.singleton_append] at hpath
      have hlast := sided_mem_pathPairs combine leaf front sibling back
      rw [← hpath] at hlast
      rw [climb_append_singleton] at hmem
      exact absurd rfl (hleaves _ hmem _ hlast)
  · exact absurd heq (hleaf p hp)

end PrivateBallot.Base.MerkleTree
