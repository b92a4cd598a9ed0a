import Mathlib.Algebra.Ring.Nat
import Mathlib.Data.List.Sort
import Mathlib.Data.List.Basic

/-!
# Byte strings, fixed 32-byte arrays and fixed-width integers

Library `Base`. A Rust `Vec<u8>` or `&[u8]` is the list of its bytes; its order is the
lexicographic order of lists, a proper prefix first. `[u8; 32]` is a byte string that
carries its length, so that a digest of another size cannot be built.
Fixed-width integers are written least significant byte first and reversed for the
big-endian forms.
-/

namespace PrivateBallot.Base

/-- A byte string: the contents of a `Vec<u8>`, a `&[u8]` or a file. -/
abbrev Bytes := List UInt8

/-- A `[u8; 32]` value. -/
structure Bytes32 where
  /-- The bytes, in order. -/
  toBytes : Bytes
  /-- There are exactly 32 of them. -/
  length_eq : toBytes.length = 32
deriving DecidableEq

namespace Bytes32

/-- Two arrays with the same bytes are the same array. -/
@[ext] theorem ext {a b : Bytes32} (h : a.toBytes = b.toBytes) : a = b := by
  cases a
  cases b
  cases h
  rfl

/-- `<[u8; 32]>::try_from(bytes)`: succeeds on exactly 32 bytes. -/
def ofBytes? (b : Bytes) : Option Bytes32 :=
  if h : b.length = 32 then some ⟨b, h⟩ else none

/-- The bytes of an array are read back as that array. -/
@[simp] theorem ofBytes?_toBytes (a : Bytes32) : ofBytes? a.toBytes = some a := by
  simp [ofBytes?, a.length_eq]

/-- A successful conversion keeps the bytes. -/
theorem toBytes_of_ofBytes? {b : Bytes} {a : Bytes32} (h : ofBytes? b = some a) :
    a.toBytes = b := by
  unfold ofBytes? at h
  split at h
  · next hl =>
    cases h
    rfl
  · cases h

/-- The array whose 32 bytes are all `x`. -/
def replicate (x : UInt8) : Bytes32 := ⟨List.replicate 32 x, List.length_replicate⟩

instance : Inhabited Bytes32 := ⟨replicate 0⟩

end Bytes32

/-! ### Fixed-width integers -/

/-- `n.to_le_bytes()` for an integer type of `width` bytes. -/
def leBytes : Nat → Nat → Bytes
  | 0, _ => []
  | width + 1, n => UInt8.ofNat n :: leBytes width (n / 256)

/-- The integer whose little-endian bytes are given: `from_le_bytes`. -/
def ofLeBytes : Bytes → Nat
  | [] => 0
  | b :: bs => b.toNat + 256 * ofLeBytes bs

/-- `n.to_be_bytes()` for an integer type of `width` bytes. -/
def beBytes (width n : Nat) : Bytes := (leBytes width n).reverse

/-- The integer whose big-endian bytes are given: `from_be_bytes`. -/
def ofBeBytes (b : Bytes) : Nat := ofLeBytes b.reverse

/-- A fixed-width encoding has its width. -/
@[simp] theorem length_leBytes (width n : Nat) : (leBytes width n).length = width := by
  induction width generalizing n with
  | zero => rfl
  | succ width ih => rw [leBytes, List.length_cons, ih]

/-- A big-endian encoding has its width. -/
@[simp] theorem length_beBytes (width n : Nat) : (beBytes width n).length = width := by
  rw [beBytes, List.length_reverse, length_leBytes]

/-- Reading a fixed-width encoding back gives the integer, if it fits. -/
theorem ofLeBytes_leBytes (width n : Nat) (h : n < 256 ^ width) :
    ofLeBytes (leBytes width n) = n := by
  induction width generalizing n with
  | zero => 
    simp only [Nat.pow_zero, Nat.lt_one_iff] at h
    subst h
    rfl
  | succ width ih =>
    have hdiv : n / 256 < 256 ^ width := by
      apply Nat.div_lt_of_lt_mul
      rw [Nat.pow_succ, Nat.mul_comm] at h
      exact h
    rw [leBytes, ofLeBytes, ih _ hdiv, UInt8.toNat_ofNat']
    omega

/-- The big-endian form of `ofLeBytes_leBytes`. -/
theorem ofBeBytes_beBytes (width n : Nat) (h : n < 256 ^ width) :
    ofBeBytes (beBytes width n) = n := by
  rw [ofBeBytes, beBytes, List.reverse_reverse, ofLeBytes_leBytes width n h]

/-- The value of `k` bytes is below `256 ^ k`. -/
theorem ofLeBytes_lt (b : Bytes) : ofLeBytes b < 256 ^ b.length := by
  induction b with
  | nil => simp [ofLeBytes]
  | cons x xs ih =>
    have hx : x.toNat < 256 := x.toNat_lt
    rw [ofLeBytes, List.length_cons, Nat.pow_succ]
    omega

/-- Bytes are the fixed-width encoding of the value they hold. -/
theorem leBytes_ofLeBytes (b : Bytes) : leBytes b.length (ofLeBytes b) = b := by
  induction b with
  | nil => rfl
  | cons x xs ih =>
    have hx : x.toNat < 256 := x.toNat_lt
    have hdiv : (x.toNat + 256 * ofLeBytes xs) / 256 = ofLeBytes xs := by omega
    have hmod : UInt8.ofNat (x.toNat + 256 * ofLeBytes xs) = x := by
      apply UInt8.toNat_inj.mp
      rw [UInt8.toNat_ofNat']
      omega
    rw [List.length_cons, ofLeBytes, leBytes, hdiv, ih, hmod]

/-- The big-endian form of `leBytes_ofLeBytes`. -/
theorem beBytes_ofBeBytes (b : Bytes) : beBytes b.length (ofBeBytes b) = b := by
  have h := leBytes_ofLeBytes b.reverse
  rw [List.length_reverse] at h
  rw [beBytes, ofBeBytes, h, List.reverse_reverse]

/-- The big-endian form of `ofLeBytes_lt`. -/
theorem ofBeBytes_lt (b : Bytes) : ofBeBytes b < 256 ^ b.length := by
  have h := ofLeBytes_lt b.reverse
  rwa [List.length_reverse] at h

/-! ### Slices -/

private def chunksFrom {α : Type} (size : Nat) : Nat → List α → List (List α)
  | 0, _ => []
  | fuel + 1, xs => if xs.isEmpty then [] else xs.take size :: chunksFrom size fuel (xs.drop size)

/-- `slice.chunks(size)`: consecutive pieces of `size` elements, the last one shorter. -/
def chunks {α : Type} (size : Nat) (xs : List α) : List (List α) := chunksFrom size xs.length xs

private theorem flatten_chunksFrom {α : Type} (size : Nat) (hsize : 0 < size) (fuel : Nat)
    (xs : List α) (hfuel : xs.length ≤ fuel) : (chunksFrom size fuel xs).flatten = xs := by
  induction fuel generalizing xs with
  | zero =>
    have hnil : xs = [] := List.length_eq_zero_iff.mp (Nat.le_zero.mp hfuel)
    simp [hnil, chunksFrom]
  | succ fuel ih =>
    unfold chunksFrom
    cases xs with
    | nil => rfl
    | cons x rest =>
      have hrest : ((x :: rest).drop size).length ≤ fuel := by
        simp only [List.length_drop, List.length_cons] at hfuel ⊢
        omega
      simp only [List.isEmpty_cons, Bool.false_eq_true, if_false, List.flatten_cons,
        ih _ hrest, List.take_append_drop]

/-- The pieces, joined, are the whole. -/
theorem flatten_chunks {α : Type} (size : Nat) (hsize : 0 < size) (xs : List α) :
    (chunks size xs).flatten = xs :=
  flatten_chunksFrom size hsize xs.length xs (Nat.le_refl _)

/-! ### Order -/

/-- Pieces of bounded length make a list of bounded length. -/
theorem length_flatMap_le {α β : Type} {f : α → List β} {bound : Nat} (xs : List α)
    (h : ∀ x ∈ xs, (f x).length ≤ bound) : (xs.flatMap f).length ≤ xs.length * bound := by
  induction xs with
  | nil => simp
  | cons x rest ih =>
    have hfirst := h x List.mem_cons_self
    have hrest := ih fun y hy ↦ h y (List.mem_cons_of_mem x hy)
    rw [List.flatMap_cons, List.length_append, List.length_cons, Nat.succ_mul]
    omega

/-- `slice.sort()`: stable, by the lexicographic order of byte strings. -/
def sortBytes {α : Type} (key : α → Bytes) (xs : List α) : List α :=
  xs.insertionSort (fun a b ↦ key a ≤ key b)

/-- `slice.windows(2).any(p)`. -/
def anyAdjacent {α : Type} (p : α → α → Bool) : List α → Bool
  | a :: b :: rest => p a b || anyAdjacent p (b :: rest)
  | _ => false

/-- Strictly ascending keys: sorted, with no key twice. -/
def Ascending {α : Type} (key : α → Bytes) (xs : List α) : Prop :=
  xs.Pairwise fun a b ↦ key a < key b

/-- No two neighbours satisfy the test. -/
theorem anyAdjacent_eq_false {α : Type} {p : α → α → Bool} {xs : List α} :
    anyAdjacent p xs = false ↔ xs.IsChain fun a b ↦ p a b = false := by
  induction xs with
  | nil => simp [anyAdjacent]
  | cons a rest ih =>
    cases rest with
    | nil => simp [anyAdjacent]
    | cons b rest => rw [anyAdjacent, Bool.or_eq_false_iff, ih, List.isChain_cons_cons]

/-- What follows byte strings of one length does not change their order. -/
theorem append_lt_append {a b : Bytes} (h : a < b) (hlen : a.length = b.length) (x y : Bytes) :
    a ++ x < b ++ y := by
  induction a generalizing b with
  | nil =>
    rw [List.length_nil] at hlen
    rw [List.length_eq_zero_iff.mp hlen.symm] at h
    exact absurd h (List.lt_irrefl _)
  | cons first rest ih =>
    cases b with
    | nil => cases hlen
    | cons first' rest' =>
      simp only [List.length_cons, Nat.add_right_cancel_iff] at hlen
      rw [List.cons_lt_cons_iff] at h
      rw [List.cons_append, List.cons_append, List.cons_lt_cons_iff]
      rcases h with hlt | ⟨heq, hlt⟩
      · exact Or.inl hlt
      · exact Or.inr ⟨heq, ih hlt hlen⟩

/-- Sorting leaves the keys in order. -/
theorem pairwise_sortBytes {α : Type} (key : α → Bytes) (xs : List α) :
    (sortBytes key xs).Pairwise fun a b ↦ key a ≤ key b := by
  have : Std.Total fun a b : α ↦ key a ≤ key b := ⟨fun a b ↦ List.le_total (key a) (key b)⟩
  have : IsTrans α fun a b : α ↦ key a ≤ key b := ⟨fun _ _ _ hab hbc ↦ List.le_trans hab hbc⟩
  exact List.pairwise_insertionSort _ xs

/-- Sorted keys of which no two neighbours are equal are strictly ascending. -/
theorem ascending_of_anyAdjacent {α : Type} {key : α → Bytes} {xs : List α}
    (hs : xs.Pairwise fun a b ↦ key a ≤ key b)
    (h : anyAdjacent (fun a b ↦ decide (key a = key b)) xs = false) : Ascending key xs := by
  induction xs with
  | nil => exact List.Pairwise.nil
  | cons a rest ih =>
    rw [List.pairwise_cons] at hs
    cases rest with
    | nil => exact List.pairwise_singleton _ a
    | cons b rest =>
      simp only [anyAdjacent, Bool.or_eq_false_iff, decide_eq_false_iff_not] at h
      have hab : key a < key b := Std.lt_of_le_of_ne (hs.1 b List.mem_cons_self) h.1
      refine List.pairwise_cons.mpr ⟨?_, ih hs.2 h.2⟩
      intro c hc
      rcases List.mem_cons.mp hc with rfl | hc
      · exact hab
      · exact Std.lt_of_lt_of_le hab ((List.pairwise_cons.mp hs.2).1 c hc)

/-- Sorting and finding no equal neighbours leaves strictly ascending keys. -/
theorem ascending_sortBytes {α : Type} {key : α → Bytes} {xs : List α}
    (h : anyAdjacent (fun a b ↦ decide (key a = key b)) (sortBytes key xs) = false) :
    Ascending key (sortBytes key xs) :=
  ascending_of_anyAdjacent (pairwise_sortBytes key xs) h

/-- Sorting keeps the number of elements. -/
@[simp] theorem length_sortBytes {α : Type} (key : α → Bytes) (xs : List α) :
    (sortBytes key xs).length = xs.length := List.length_insertionSort _ xs

/-- Sorting twice is sorting once. -/
theorem sortBytes_sortBytes {α : Type} (key : α → Bytes) (xs : List α) :
    sortBytes key (sortBytes key xs) = sortBytes key xs :=
  List.Pairwise.insertionSort_eq (pairwise_sortBytes key xs)

/-- Strictly ascending keys are sorted already. -/
theorem sortBytes_of_ascending {α : Type} {key : α → Bytes} {xs : List α}
    (h : Ascending key xs) : sortBytes key xs = xs := by
  apply List.Pairwise.insertionSort_eq
  exact h.imp List.le_of_lt

/-- Keys of which no neighbour is below the one before are sorted already. -/
theorem sortBytes_of_anyAdjacent {α : Type} {key : α → Bytes} {xs : List α}
    (h : anyAdjacent (fun a b ↦ decide (key b < key a)) xs = false) : sortBytes key xs = xs := by
  have htrans : IsTrans α fun a b : α ↦ key a ≤ key b := ⟨fun _ _ _ hab hbc ↦ List.le_trans hab hbc⟩
  apply List.Pairwise.insertionSort_eq
  apply List.isChain_iff_pairwise.mp
  apply (anyAdjacent_eq_false.mp h).imp
  intro a b hnlt
  exact List.not_lt.mp (of_decide_eq_false hnlt)

/-- Strictly ascending keys have no equal neighbours. -/
theorem anyAdjacent_of_ascending {α : Type} {key : α → Bytes} {xs : List α}
    (h : Ascending key xs) : anyAdjacent (fun a b ↦ decide (key a = key b)) xs = false := by
  induction xs with
  | nil => rfl
  | cons a rest ih =>
    obtain ⟨hfirst, hrest⟩ := List.pairwise_cons.mp h
    cases rest with
    | nil => rfl
    | cons b rest =>
      have hlt : key a < key b := hfirst b List.mem_cons_self
      have hne : key a ≠ key b := fun heq ↦ absurd hlt (heq ▸ List.lt_irrefl (key b))
      rw [anyAdjacent, ih hrest, decide_eq_false hne, Bool.or_false]

/-- Sorting rearranges. -/
theorem perm_sortBytes {α : Type} (key : α → Bytes) (xs : List α) :
    (sortBytes key xs).Perm xs := List.perm_insertionSort _ xs

/-- Strictly ascending keys are different. -/
theorem Ascending.nodup_keys {α : Type} {key : α → Bytes} {xs : List α} (h : Ascending key xs) :
    (xs.map key).Nodup := by
  apply List.pairwise_map.mpr
  apply h.imp
  intro a b hlt heq
  rw [heq] at hlt
  exact List.lt_irrefl _ hlt

/-- The sorted list has equal neighbours exactly when some key occurs twice. -/
theorem anyAdjacent_sortBytes_eq_false {α : Type} {key : α → Bytes} {xs : List α} :
    anyAdjacent (fun a b ↦ decide (key a = key b)) (sortBytes key xs) = false ↔
      (xs.map key).Nodup := by
  have hperm := (perm_sortBytes key xs).map key
  constructor
  · intro h
    exact hperm.nodup_iff.mp (ascending_sortBytes h).nodup_keys
  · intro h
    rw [anyAdjacent_eq_false]
    apply List.Pairwise.isChain
    have hsorted := List.pairwise_map.mp (hperm.nodup_iff.mpr h)
    exact hsorted.imp fun hne ↦ decide_eq_false hne

/-- Different keys are sorted in one way only. -/
theorem sortBytes_eq_of_perm {α : Type} {key : α → Bytes} {xs ys : List α} (h : xs.Perm ys)
    (hnodup : (xs.map key).Nodup) : sortBytes key xs = sortBytes key ys := by
  have hxs := ascending_sortBytes (anyAdjacent_sortBytes_eq_false.mpr hnodup)
  have hys := ascending_sortBytes
    (anyAdjacent_sortBytes_eq_false.mpr ((h.map key).nodup_iff.mp hnodup))
  have hperm := (perm_sortBytes key xs).trans (h.trans (perm_sortBytes key ys).symm)
  apply hperm.eq_of_pairwise _ hxs hys
  intro a b _ _ hab hba
  exact absurd hab (List.lt_asymm hba)

/-- Strictly ascending keys have no descending neighbours. -/
theorem anyAdjacent_lt_of_ascending {α : Type} {key : α → Bytes} {xs : List α}
    (h : Ascending key xs) : anyAdjacent (fun a b ↦ decide (key b < key a)) xs = false := by
  induction xs with
  | nil => rfl
  | cons a rest ih =>
    obtain ⟨hfirst, hrest⟩ := List.pairwise_cons.mp h
    cases rest with
    | nil => rfl
    | cons b rest =>
      have hlt : key a < key b := hfirst b List.mem_cons_self
      have hnlt : ¬ key b < key a := List.lt_asymm hlt
      rw [anyAdjacent, ih hrest, decide_eq_false hnlt, Bool.or_false]

/-! ### Counters -/

/-- `saturating_add(1)` on a `u64`. -/
def saturatingSucc (n : UInt64) : UInt64 := if n.toNat = 2 ^ 64 - 1 then n else n + 1

theorem toNat_saturatingSucc (n : UInt64) :
    (saturatingSucc n).toNat = min (n.toNat + 1) (2 ^ 64 - 1) := by
  have hlt := n.toNat_lt
  unfold saturatingSucc
  split
  · omega
  · rw [UInt64.toNat_add]
    have hone : (1 : UInt64).toNat = 1 := rfl
    omega

end PrivateBallot.Base
