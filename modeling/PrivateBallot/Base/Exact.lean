import PrivateBallot.Base.Bytes

/-!
# Readers that undo a writer

Library `Base`. A reader takes bytes from the front of what is left, or fails. It is exact for a
writer where it takes what the writer writes of the values that fit, and nothing else: then reading
undoes writing, and what has been read can only be written in one way.
-/

namespace PrivateBallot.Base

/-- A reader: from what is left, a value and what is left then. -/
abbrev Reader (α : Type) := StateT Bytes Option α

namespace Reader

variable {α β : Type}

/-- Runs a reader that must take everything. -/
def exhaust (d : Reader α) (bytes : Bytes) : Option α :=
  match d bytes with
  | some (a, []) => some a
  | _ => none

/-- Takes these bytes. -/
def expectBytes (expected : Bytes) : Reader Unit := fun rest ↦
  if expected <+: rest then some ((), rest.drop expected.length) else none

/-- Takes so many bytes. -/
def take (len : Nat) : Reader Bytes := fun rest ↦
  if len ≤ rest.length then some (rest.take len, rest.drop len) else none

theorem bind_eq_some {d : Reader α} {f : α → Reader β} {s t : Bytes} {b : β} :
    (d >>= f) s = some (b, t) ↔ ∃ a m, d s = some (a, m) ∧ f a m = some (b, t) := by
  show (d s).bind (fun pair ↦ f pair.1 pair.2) = some (b, t) ↔ _
  rw [Option.bind_eq_some_iff]
  constructor
  · rintro ⟨⟨a, m⟩, hd, hf⟩
    exact ⟨a, m, hd, hf⟩
  · rintro ⟨a, m, hd, hf⟩
    exact ⟨(a, m), hd, hf⟩

/-- The reader takes what is written of a value that fits, whatever is behind it, and nothing
else. -/
def Exact (d : Reader α) (write : α → Bytes) (fits : α → Prop) : Prop :=
  ∀ s a t, d s = some (a, t) ↔ fits a ∧ s = write a ++ t

namespace Exact

variable {d : Reader α} {f : α → Reader β} {write : α → Bytes} {fits : α → Prop}
  {write' : α → β → Bytes} {fits' : α → β → Prop}

theorem pure (a : α) : Exact (Pure.pure a) (fun _ ↦ []) (· = a) := by
  intro s b t
  show some (a, s) = some (b, t) ↔ _
  rw [Option.some.injEq, Prod.mk.injEq, List.nil_append, eq_comm]

/-- One reader after the other. The value of the first is a part of that of the second. -/
theorem bind (part : β → α) (hd : Exact d write fits) (hf : ∀ a, Exact (f a) (write' a) (fits' a))
    (hpart : ∀ a b, fits a → fits' a b → part b = a) :
    Exact (d >>= f) (fun b ↦ write (part b) ++ write' (part b) b)
      fun b ↦ fits (part b) ∧ fits' (part b) b := by
  intro s b t
  rw [bind_eq_some]
  constructor
  · rintro ⟨a, m, hfirst, hsecond⟩
    obtain ⟨ha, rfl⟩ := (hd _ _ _).mp hfirst
    obtain ⟨hb, rfl⟩ := (hf a _ _ _).mp hsecond
    obtain rfl := hpart a b ha hb
    exact ⟨⟨ha, hb⟩, (List.append_assoc _ _ _).symm⟩
  · rintro ⟨⟨ha, hb⟩, rfl⟩
    exact ⟨part b, write' (part b) b ++ t, (hd _ _ _).mpr ⟨ha, List.append_assoc _ _ _⟩,
      (hf _ _ _ _).mpr ⟨hb, rfl⟩⟩

/-- The same values and the same bytes, said differently. -/
theorem congr {write₂ : α → Bytes} {fits₂ : α → Prop} (hd : Exact d write fits)
    (hfits : ∀ a, fits a ↔ fits₂ a) (hwrite : ∀ a, fits₂ a → write a = write₂ a) :
    Exact d write₂ fits₂ := by
  intro s a t
  rw [hd, hfits]
  constructor
  · rintro ⟨ha, rfl⟩
    exact ⟨ha, by rw [hwrite a ha]⟩
  · rintro ⟨ha, rfl⟩
    exact ⟨ha, by rw [hwrite a ha]⟩

theorem failure (hno : ∀ a, ¬ fits a) : Exact (Alternative.failure : Reader α) write fits := by
  intro s a t
  exact iff_of_false (fun h ↦ by cases h) fun h ↦ hno a h.1

/-- A value that depends on nothing that is left. -/
theorem lift (x : Option α) : Exact (liftM x : Reader α) (fun _ ↦ []) fun a ↦ x = some a := by
  intro s a t
  cases x with
  | none => exact iff_of_false (fun h ↦ by cases h) fun h ↦ by cases h.1
  | some b =>
    show some (b, s) = some (a, t) ↔ some b = some a ∧ s = [] ++ t
    rw [Option.some.injEq, Option.some.injEq, Prod.mk.injEq, List.nil_append]

theorem expectBytes (expected : Bytes) :
    Exact (Reader.expectBytes expected) (fun _ ↦ expected) fun _ ↦ True := by
  intro s a t
  unfold Reader.expectBytes
  split
  · next hprefix =>
    obtain ⟨rest, rfl⟩ := hprefix
    rw [List.drop_left, Option.some.injEq, Prod.mk.injEq, List.append_cancel_left_eq]
    exact ⟨fun h ↦ ⟨trivial, h.2⟩, fun h ↦ ⟨rfl, h.2⟩⟩
  · next hno =>
    exact iff_of_false (fun h ↦ by cases h) fun h ↦ hno ⟨t, h.2.symm⟩

/-- Bytes that are taken whole. -/
theorem take (len : Nat) : Exact (Reader.take len) id fun b ↦ b.length = len := by
  intro s b t
  unfold Reader.take
  split
  · next hle =>
    rw [Option.some.injEq, Prod.mk.injEq]
    constructor
    · rintro ⟨rfl, rfl⟩
      exact ⟨List.length_take_of_le hle, (List.take_append_drop len s).symm⟩
    · rintro ⟨rfl, rfl⟩
      exact ⟨List.take_left, List.drop_left⟩
  · next hlt =>
    refine iff_of_false (fun h ↦ by cases h) ?_
    rintro ⟨rfl, rfl⟩
    rw [List.length_append] at hlt
    exact hlt (Nat.le_add_right _ _)

theorem exhaust_eq_some_iff (hd : Exact d write fits) {bytes : Bytes} {a : α} :
    exhaust d bytes = some a ↔ fits a ∧ bytes = write a := by
  have hall : exhaust d bytes = some a ↔ d bytes = some (a, []) := by
    unfold exhaust
    split
    · next b hb =>
      rw [hb, Option.some.injEq, Option.some.injEq, Prod.mk.injEq]
      exact ⟨fun h ↦ ⟨h, rfl⟩, fun h ↦ h.1⟩
    · next hno => exact iff_of_false (fun h ↦ by cases h) (hno a)
  rw [hall, hd, List.append_nil]

end Exact

end Reader

end PrivateBallot.Base
