import PrivateBallot.Base.Bytes

/-!
# Binary search

Library `Base`. `slice::binary_search` on elements sorted by their byte keys: the window is
halved around its middle element. On strictly ascending keys it finds the position of the target
exactly when the target occurs.
-/

namespace PrivateBallot.Base

variable {α : Type}

-- The window `lo..hi` shrinks in every round, so as many rounds as elements suffice.
private def searchWindow (key : α → Bytes) (target : Bytes) (xs : List α) :
    Nat → Nat → Nat → Option Nat
  | 0, _, _ => none
  | rounds + 1, lo, hi =>
    if hi ≤ lo then none
    else match xs[lo + (hi - lo) / 2]? with
      | none => none
      | some x =>
        if key x = target then some (lo + (hi - lo) / 2)
        else if key x < target then
          searchWindow key target xs rounds (lo + (hi - lo) / 2 + 1) hi
        else searchWindow key target xs rounds lo (lo + (hi - lo) / 2)

/-- `slice.binary_search_by_key(target, key)`, with the insertion point of a miss left out. -/
def binarySearch (key : α → Bytes) (target : Bytes) (xs : List α) : Option Nat :=
  searchWindow key target xs xs.length 0 xs.length

private theorem searchWindow_sound {key : α → Bytes} {target : Bytes} {xs : List α}
    {rounds lo hi i : Nat} (h : searchWindow key target xs rounds lo hi = some i) :
    ∃ x, xs[i]? = some x ∧ key x = target := by
  induction rounds generalizing lo hi with
  | zero => cases h
  | succ rounds ih =>
    unfold searchWindow at h
    split at h
    · cases h
    · split at h
      · cases h
      · next x hx =>
        split at h
        · next hkey =>
          cases h
          exact ⟨x, hx, hkey⟩
        · split at h
          · exact ih h
          · exact ih h

private theorem key_lt_of_lt {key : α → Bytes} {xs : List α} (hxs : Ascending key xs)
    {i j : Nat} {x y : α} (hi : xs[i]? = some x) (hj : xs[j]? = some y) (hij : i < j) :
    key x < key y := by
  obtain ⟨hilt, rfl⟩ := List.getElem?_eq_some_iff.mp hi
  obtain ⟨hjlt, rfl⟩ := List.getElem?_eq_some_iff.mp hj
  exact List.pairwise_iff_getElem.mp hxs i j hilt hjlt hij

-- The target's position stays inside the window.
private theorem searchWindow_complete {key : α → Bytes} {target : Bytes} {xs : List α}
    (hxs : Ascending key xs) {i : Nat} {x : α} (hi : xs[i]? = some x) (hkey : key x = target)
    {rounds lo hi' : Nat} (hlo : lo ≤ i) (hhi : i < hi') (hlen : hi' ≤ xs.length)
    (hrounds : hi' - lo ≤ rounds) : searchWindow key target xs rounds lo hi' = some i := by
  induction rounds generalizing lo hi' with
  | zero => omega
  | succ rounds ih =>
    have hmid : lo + (hi' - lo) / 2 < xs.length := by omega
    have hget : xs[lo + (hi' - lo) / 2]? = some xs[lo + (hi' - lo) / 2] :=
      List.getElem?_eq_getElem hmid
    have hopen : ¬ hi' ≤ lo := by omega
    unfold searchWindow
    rw [if_neg hopen, hget]
    dsimp only
    split
    · next heq =>
      -- Equal keys are at equal positions.
      by_contra hne
      rcases Nat.lt_trichotomy (lo + (hi' - lo) / 2) i with hlt | hsame | hgt
      · have hless := key_lt_of_lt hxs hget hi hlt
        rw [heq, hkey] at hless
        exact List.lt_irrefl _ hless
      · exact hne (congrArg some hsame)
      · have hless := key_lt_of_lt hxs hi hget hgt
        rw [heq, hkey] at hless
        exact List.lt_irrefl _ hless
    · next hne =>
      split
      · next hless =>
        apply ih
        · by_contra hbefore
          have hle : i ≤ lo + (hi' - lo) / 2 := by omega
          rcases Nat.lt_or_eq_of_le hle with hlt | hsame
          · have hgreater := key_lt_of_lt hxs hi hget hlt
            rw [hkey] at hgreater
            exact List.lt_asymm hless hgreater
          · subst hsame
            rw [hget] at hi
            cases hi
            exact hne hkey
        · exact hhi
        · exact hlen
        · omega
      · next hnless =>
        apply ih
        · exact hlo
        · by_contra hafter
          have hle : lo + (hi' - lo) / 2 ≤ i := by omega
          rcases Nat.lt_or_eq_of_le hle with hlt | hsame
          · have hless := key_lt_of_lt hxs hget hi hlt
            rw [hkey] at hless
            exact hnless hless
          · subst hsame
            rw [hget] at hi
            cases hi
            exact hne hkey
        · omega
        · omega

/-- What the search finds is the target. -/
theorem key_of_binarySearch {key : α → Bytes} {target : Bytes} {xs : List α} {i : Nat}
    (h : binarySearch key target xs = some i) : ∃ x, xs[i]? = some x ∧ key x = target :=
  searchWindow_sound h

/-- A target that occurs among strictly ascending keys is found. -/
theorem exists_binarySearch {key : α → Bytes} {xs : List α} (hxs : Ascending key xs) {x : α}
    (hx : x ∈ xs) : ∃ i, binarySearch key (key x) xs = some i := by
  obtain ⟨i, hlt, hget⟩ := List.getElem_of_mem hx
  have hi : xs[i]? = some x := by rw [List.getElem?_eq_getElem hlt, hget]
  exact ⟨i, searchWindow_complete hxs hi rfl (Nat.zero_le i) hlt (Nat.le_refl _) (Nat.le_refl _)⟩

end PrivateBallot.Base
