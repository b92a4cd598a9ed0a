import Mathlib.Algebra.Ring.Nat
import Mathlib.Data.Finset.Insert
import Mathlib.Data.Finset.Dedup
import Mathlib.Data.List.Nodup

/-!
# First occurrences in a sequence

Library `Base`. `firstOfEach key xs` keeps, in order, the elements of `xs` whose key has not
been kept before. It is the abstract content of every "the first one counts" rule.
-/

namespace PrivateBallot.Base

variable {α κ : Type} [DecidableEq κ]

/-- The elements, in order, whose key does not occur among those kept before them. -/
def firstOfEach (key : α → κ) (xs : List α) : List α :=
  xs.foldl (fun kept x ↦ if key x ∈ kept.map key then kept else kept ++ [x]) []

/-- Appending an element keeps it exactly when its key is new. -/
theorem firstOfEach_append_singleton (key : α → κ) (xs : List α) (x : α) :
    firstOfEach key (xs ++ [x]) =
      if key x ∈ (firstOfEach key xs).map key then firstOfEach key xs
      else firstOfEach key xs ++ [x] := by
  rw [firstOfEach, List.foldl_append]
  rfl

/-- Kept keys are pairwise distinct. -/
theorem nodup_map_firstOfEach (key : α → κ) (xs : List α) :
    ((firstOfEach key xs).map key).Nodup := by
  induction xs using List.reverseRecOn with
  | nil => exact List.nodup_nil
  | append_singleton xs x ih =>
    rw [firstOfEach_append_singleton]
    split
    · exact ih
    · next hnew =>
      rw [List.map_append, List.map_singleton, List.nodup_append]
      refine ⟨ih, List.nodup_singleton _, ?_⟩
      intro a ha b hb hab
      rw [List.mem_singleton] at hb
      subst hb hab
      exact hnew ha

end PrivateBallot.Base
