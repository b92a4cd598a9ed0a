import Mathlib.Algebra.Ring.Nat
import Mathlib.Data.List.Basic

/-!
# Worker pools over numbered units

Library `Base`. Workers claim units by fetching and incrementing one shared cursor, work on what
they claimed and store the result in the unit's slot, in any order. Once all workers have
finished, every slot holds the result of its unit, whatever the order was.
-/

namespace PrivateBallot.Base

/-- What one worker is doing. -/
inductive Worker where
  | idle
  | working (index : Nat)
  | finished
deriving DecidableEq, Repr

/-- The cursor, the slots of the units and the workers. -/
structure Pool (T : Type) where
  cursor : Nat
  slots : List (Option T)
  workers : List Worker

namespace Pool

variable {T : Type}

/-- Nothing claimed and nothing stored. -/
def start (units workers : Nat) : Pool T :=
  ⟨0, List.replicate units none, List.replicate workers .idle⟩

/-- One step of one worker: it claims the next unit, or finds that there is none, or stores the
result of the unit it holds. -/
def advance (work : Nat → T) (pool : Pool T) (worker : Nat) : Pool T :=
  match pool.workers[worker]? with
  | some .idle =>
    if pool.slots.length ≤ pool.cursor then
      ⟨pool.cursor + 1, pool.slots, pool.workers.set worker .finished⟩
    else ⟨pool.cursor + 1, pool.slots, pool.workers.set worker (.working pool.cursor)⟩
  | some (.working index) =>
    ⟨pool.cursor, pool.slots.set index (some (work index)), pool.workers.set worker .idle⟩
  | some .finished | none => pool

/-- The workers take their steps in the given order. -/
def run (work : Nat → T) (pool : Pool T) (schedule : List Nat) : Pool T :=
  schedule.foldl (advance work) pool

/-- All workers have finished. -/
def isFinished (pool : Pool T) : Bool := pool.workers.all (· == .finished)

/-- Every slot is empty or holds its unit's result; a unit below the cursor with an empty slot is
in some worker's hands; and a worker only finishes when the cursor is past all units. -/
structure IsSound (work : Nat → T) (units : Nat) (pool : Pool T) : Prop where
  length : pool.slots.length = units
  stored : ∀ index value, pool.slots[index]? = some (some value) → value = work index
  claimed : ∀ index, index < pool.cursor → pool.slots[index]? = some none →
    Worker.working index ∈ pool.workers
  working : ∀ index, Worker.working index ∈ pool.workers → index < units
  finished : Worker.finished ∈ pool.workers → units ≤ pool.cursor

variable {work : Nat → T} {units : Nat} {pool : Pool T}

theorem isSound_start (work : Nat → T) (units workers : Nat) :
    IsSound work units (start units workers) := by
  have hidle : ∀ worker ∈ (start units workers : Pool T).workers, worker = .idle :=
    fun worker hmem ↦ List.eq_of_mem_replicate hmem
  refine ⟨List.length_replicate, ?_, ?_, ?_, ?_⟩
  · intro index value hslot
    have hmem := List.mem_of_getElem? hslot
    cases List.eq_of_mem_replicate hmem
  · intro index hindex
    exact absurd hindex (Nat.not_lt_zero index)
  · intro index hmem
    cases hidle _ hmem
  · intro hmem
    cases hidle _ hmem

private theorem mem_set_of_mem {l : List Worker} {i : Nat} {a b c : Worker} (hmem : a ∈ l)
    (hi : l[i]? = some b) (hne : b ≠ a) : a ∈ l.set i c := by
  obtain ⟨j, hj⟩ := List.mem_iff_getElem?.mp hmem
  have hij : i ≠ j := by
    rintro rfl
    rw [hi] at hj
    cases hj
    exact hne rfl
  apply List.mem_iff_getElem?.mpr
  exact ⟨j, by rw [List.getElem?_set_ne hij, hj]⟩

/-- One step keeps a pool sound. -/
theorem IsSound.advance (h : IsSound work units pool) (worker : Nat) :
    IsSound work units (pool.advance work worker) := by
  unfold Pool.advance
  split
  · next hidle =>
    split
    · next hpast =>
      -- nothing left to claim
      rw [h.length] at hpast
      refine ⟨h.length, h.stored, ?_, ?_, fun _ ↦ Nat.le_succ_of_le hpast⟩
      · intro index hindex hslot
        have hlt : index < units := by
          rw [← h.length]
          exact (List.getElem?_eq_some_iff.mp hslot).1
        exact mem_set_of_mem (h.claimed index (by omega) hslot) hidle nofun
      · intro index hmem
        rcases List.mem_or_eq_of_mem_set hmem with hmem | heq
        · exact h.working index hmem
        · cases heq
    · next hnext =>
      -- the unit at the cursor is claimed
      rw [h.length] at hnext
      refine ⟨h.length, h.stored, ?_, ?_, ?_⟩
      · intro index hindex hslot
        by_cases hat : index = pool.cursor
        · rw [hat]
          apply List.mem_iff_getElem?.mpr
          refine ⟨worker, List.getElem?_set_self ?_⟩
          exact (List.getElem?_eq_some_iff.mp hidle).1
        · have hbelow : index < pool.cursor := by
            dsimp only at hindex
            omega
          exact mem_set_of_mem (h.claimed index hbelow hslot) hidle nofun
      · intro index hmem
        rcases List.mem_or_eq_of_mem_set hmem with hmem | heq
        · exact h.working index hmem
        · cases heq
          exact Nat.not_le.mp hnext
      · intro hmem
        rcases List.mem_or_eq_of_mem_set hmem with hmem | heq
        · exact Nat.le_succ_of_le (h.finished hmem)
        · cases heq
  · next unit hworking =>
    have hunit : unit < pool.slots.length := by
      rw [h.length]
      exact h.working unit (List.mem_of_getElem? hworking)
    refine ⟨by rw [List.length_set, h.length], ?_, ?_, ?_, ?_⟩
    · intro index value hslot
      by_cases hat : unit = index
      · subst hat
        rw [List.getElem?_set_self hunit] at hslot
        cases hslot
        rfl
      · rw [List.getElem?_set_ne hat] at hslot
        exact h.stored index value hslot
    · intro index hindex hslot
      by_cases hat : unit = index
      · subst hat
        rw [List.getElem?_set_self hunit] at hslot
        cases hslot
      · rw [List.getElem?_set_ne hat] at hslot
        refine mem_set_of_mem (h.claimed index hindex hslot) hworking ?_
        intro heq
        cases heq
        exact hat rfl
    · intro index hmem
      rcases List.mem_or_eq_of_mem_set hmem with hmem | heq
      · exact h.working index hmem
      · cases heq
    · intro hmem
      rcases List.mem_or_eq_of_mem_set hmem with hmem | heq
      · exact h.finished hmem
      · cases heq
  · exact h
  · exact h

theorem IsSound.run (h : IsSound work units pool) (schedule : List Nat) :
    IsSound work units (pool.run work schedule) := by
  induction schedule generalizing pool with
  | nil => exact h
  | cons worker rest ih => exact ih (h.advance worker)

theorem length_workers_advance (work : Nat → T) (pool : Pool T) (worker : Nat) :
    (pool.advance work worker).workers.length = pool.workers.length := by
  unfold Pool.advance
  split
  · split
    · exact List.length_set
    · exact List.length_set
  · exact List.length_set
  · rfl
  · rfl

theorem length_workers_run (work : Nat → T) (pool : Pool T) (schedule : List Nat) :
    (pool.run work schedule).workers.length = pool.workers.length := by
  induction schedule generalizing pool with
  | nil => rfl
  | cons worker rest ih =>
    rw [Pool.run, List.foldl_cons, ← Pool.run, ih, length_workers_advance]

/-- When all workers have finished, every slot holds the result of its unit. -/
theorem slots_of_isFinished {workers : Nat} (hworkers : 0 < workers) (schedule : List Nat)
    (h : ((start units workers : Pool T).run work schedule).isFinished = true) :
    ((start units workers : Pool T).run work schedule).slots =
      (List.range units).map fun index ↦ some (work index) := by
  have hsound := (isSound_start work units workers).run schedule
  have hcount := length_workers_run work (start units workers) schedule
  generalize (start units workers : Pool T).run work schedule = pool at h hsound hcount
  have hall : ∀ worker ∈ pool.workers, worker = .finished := by
    intro worker hmem
    exact eq_of_beq (List.all_eq_true.mp h worker hmem)
  have hpast : units ≤ pool.cursor := by
    cases hlist : pool.workers with
    | nil =>
      rw [hlist] at hcount
      simp only [start, List.length_replicate, List.length_nil] at hcount
      omega
    | cons worker rest =>
      apply hsound.finished
      rw [← hall worker (by rw [hlist]; exact List.mem_cons_self), hlist]
      exact List.mem_cons_self
  apply List.ext_getElem?
  intro index
  by_cases hindex : index < units
  · rw [List.getElem?_map, List.getElem?_range hindex, Option.map_some]
    have hlt : index < pool.slots.length := by rwa [hsound.length]
    obtain ⟨slot, hslot⟩ : ∃ slot, pool.slots[index]? = some slot :=
      ⟨_, List.getElem?_eq_getElem hlt⟩
    cases slot with
    | none =>
      have hmem := hsound.claimed index (by omega) hslot
      cases hall _ hmem
    | some value => rw [hslot, hsound.stored index value hslot]
  · rw [List.getElem?_eq_none (by rw [hsound.length]; omega),
      List.getElem?_eq_none (by rw [List.length_map, List.length_range]; omega)]

/-- The pool without the results. -/
def forget (pool : Pool T) : Pool Unit :=
  ⟨pool.cursor, pool.slots.map fun slot ↦ slot.map fun _ ↦ (), pool.workers⟩

theorem forget_advance (work : Nat → T) (pool : Pool T) (worker : Nat) :
    (pool.advance work worker).forget = pool.forget.advance (fun _ ↦ ()) worker := by
  unfold Pool.advance forget
  dsimp only
  cases pool.workers[worker]? with
  | none => rfl
  | some state =>
    cases state with
    | idle =>
      dsimp only
      rw [List.length_map]
      split
      · rfl
      · rfl
    | working index =>
      dsimp only
      rw [List.map_set]
      rfl
    | finished => rfl

/-- Whether the workers finish does not depend on the results. -/
theorem isFinished_run_forget (work : Nat → T) (pool : Pool T) (schedule : List Nat) :
    (pool.run work schedule).isFinished = (pool.forget.run (fun _ ↦ ()) schedule).isFinished := by
  induction schedule generalizing pool with
  | nil => rfl
  | cons worker rest ih =>
    rw [Pool.run, List.foldl_cons, ← Pool.run, ih, forget_advance]
    rfl

theorem forget_start (units workers : Nat) :
    (start units workers : Pool T).forget = start units workers := by
  simp [forget, start]

end Pool

end PrivateBallot.Base
