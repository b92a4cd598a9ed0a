import Mathlib.Algebra.Ring.Nat
import Mathlib.Data.List.Forall2
import Mathlib.Data.List.Perm.Subperm

/-!
# The one that stands alone

Library `Base`. A list in which one element has a property while no other element has even a wider
one. Order plays no part in it, and filtering by the wider property finds the element.
-/

namespace PrivateBallot.Base

variable {α β : Type}

/-- One element has `P`, and none of the others has `Q`. -/
def Alone (P Q : α → Prop) (xs : List α) : Prop :=
  ∃ before x after, xs = before ++ x :: after ∧ P x ∧ ∀ y ∈ before ++ after, ¬ Q y

variable {P Q : α → Prop} {xs ys : List α}

theorem Alone.perm (h : Alone P Q xs) (hperm : xs.Perm ys) : Alone P Q ys := by
  obtain ⟨before, x, after, rfl, hx, hothers⟩ := h
  have hmem : x ∈ ys := hperm.subset (by simp)
  obtain ⟨before', after', rfl⟩ := List.append_of_mem hmem
  refine ⟨before', x, after', rfl, hx, ?_⟩
  have hrest : (before ++ after).Perm (before' ++ after') := by
    apply List.Perm.cons_inv
    exact (List.perm_middle.symm.trans hperm).trans List.perm_middle
  intro y hy
  exact hothers y (hrest.symm.subset hy)

theorem alone_congr_perm (hperm : xs.Perm ys) : Alone P Q xs ↔ Alone P Q ys :=
  ⟨fun h ↦ h.perm hperm, fun h ↦ h.perm hperm.symm⟩

/-- Elements may be replaced by others with the same properties. -/
theorem Alone.replace {R : α → β → Prop} {P' Q' : β → Prop} {ys : List β}
    (hP : ∀ x y, R x y → P x → P' y) (hQ : ∀ x y, R x y → Q' y → Q x) (h : Alone P Q xs)
    (hrel : List.Forall₂ R xs ys) : Alone P' Q' ys := by
  obtain ⟨before, x, after, rfl, hx, hothers⟩ := h
  have hbefore := List.forall₂_take_append ys before (x :: after) hrel.flip
  have hafter := List.forall₂_drop_append ys before (x :: after) hrel.flip
  have hsplit := List.take_append_drop before.length ys
  obtain ⟨y, rest, hxy, hrest, hdrop⟩ := List.forall₂_cons_right_iff.mp hafter
  rw [hdrop] at hsplit
  refine ⟨ys.take before.length, y, rest, hsplit.symm, hP x y hxy hx, ?_⟩
  intro z hz hQz
  have hall : List.Forall₂ (flip R) (ys.take before.length ++ rest) (before ++ after) :=
    List.rel_append hbefore hrest
  obtain ⟨w, hw, hzw⟩ : ∃ w ∈ before ++ after, R w z := by
    obtain ⟨i, hi, hget⟩ := List.getElem_of_mem hz
    have hlen : i < (before ++ after).length := by
      rw [← hall.length_eq]
      exact hi
    refine ⟨(before ++ after)[i], List.getElem_mem hlen, ?_⟩
    rw [← hget]
    exact hall.get hi hlen
  exact hothers w hw (hQ w z hzw hQz)

/-- What filtering finds. -/
theorem alone_iff_filter [DecidablePred Q] (hPQ : ∀ x, P x → Q x) :
    Alone P Q xs ↔ ∃ x, xs.filter (fun y ↦ decide (Q y)) = [x] ∧ P x := by
  constructor
  · rintro ⟨before, x, after, rfl, hx, hothers⟩
    have hnone : ∀ zs : List α, (∀ y ∈ zs, ¬ Q y) → zs.filter (fun y ↦ decide (Q y)) = [] := by
      intro zs hzs
      rw [List.filter_eq_nil_iff]
      intro y hy
      rw [decide_eq_true_eq]
      exact hzs y hy
    refine ⟨x, ?_, hx⟩
    rw [List.filter_append, hnone before fun y hy ↦ hothers y (List.mem_append_left _ hy),
      List.filter_cons_of_pos (by rw [decide_eq_true_eq]; exact hPQ x hx),
      hnone after fun y hy ↦ hothers y (List.mem_append_right _ hy), List.nil_append]
  · rintro ⟨x, hfilter, hx⟩
    have hmem : x ∈ xs := by
      have hin : x ∈ xs.filter (fun y ↦ decide (Q y)) := by
        rw [hfilter]
        exact List.mem_singleton_self x
      exact List.mem_of_mem_filter hin
    obtain ⟨before, after, rfl⟩ := List.append_of_mem hmem
    refine ⟨before, x, after, rfl, hx, ?_⟩
    rw [List.filter_append, List.filter_cons_of_pos (by rw [decide_eq_true_eq]; exact hPQ x hx)]
      at hfilter
    have hlen := congrArg List.length hfilter
    simp only [List.length_append, List.length_cons, List.length_nil] at hlen
    have hbefore : before.filter (fun y ↦ decide (Q y)) = [] :=
      List.length_eq_zero_iff.mp (by omega)
    have hafter : after.filter (fun y ↦ decide (Q y)) = [] :=
      List.length_eq_zero_iff.mp (by omega)
    intro y hy
    rw [List.filter_eq_nil_iff] at hbefore hafter
    rcases List.mem_append.mp hy with hy | hy
    · simpa using hbefore y hy
    · simpa using hafter y hy

/-- Among pairs with distinct keys there is one for each key. -/
theorem filter_key_eq_singleton [DecidableEq α] {entries : List (α × β)}
    (hnodup : (entries.map Prod.fst).Nodup) {entry : α × β} (hmem : entry ∈ entries) :
    entries.filter (fun other ↦ decide (other.1 = entry.1)) = [entry] := by
  induction entries with
  | nil => cases hmem
  | cons first entries ih =>
    obtain ⟨hfirst, hrest⟩ := List.nodup_cons.mp hnodup
    rcases List.mem_cons.mp hmem with rfl | hmem
    · rw [List.filter_cons_of_pos (by simp)]
      congr 1
      rw [List.filter_eq_nil_iff]
      intro other hother
      rw [decide_eq_true_eq]
      intro heq
      exact hfirst (heq ▸ List.mem_map_of_mem hother)
    · rw [List.filter_cons_of_neg, ih hrest hmem]
      rw [decide_eq_true_eq]
      intro heq
      exact hfirst (heq ▸ List.mem_map_of_mem hmem)

end PrivateBallot.Base
