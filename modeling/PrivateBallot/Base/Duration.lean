import Mathlib.Algebra.Ring.Nat
import Mathlib.Data.Nat.Basic
import Mathlib.Order.Lattice

/-!
# Durations

Library `Base`. `core::time::Duration`: whole seconds of 64 bits and fewer than a thousand million
nanoseconds. Its order and its saturating sum are those of the nanoseconds in all.
-/

namespace PrivateBallot.Base

/-- `core::time::Duration` -/
structure Duration where
  asSecs : UInt64
  subsecNanos : UInt32
  subsecNanos_lt : subsecNanos.toNat < 1000000000
deriving DecidableEq

namespace Duration

/-- `Duration::ZERO` -/
def zero : Duration := ⟨0, 0, by decide⟩

/-- `Duration::MAX` -/
def maxValue : Duration := ⟨18446744073709551615, 999999999, by decide⟩

/-- `Duration::new(secs, nanos)` with fewer nanoseconds than a second has. -/
def ofParts? (secs nanos : Nat) : Option Duration :=
  if h : secs < 2 ^ 64 ∧ nanos < 1000000000 then
    some ⟨UInt64.ofNat secs, UInt32.ofNat nanos, by
      rw [UInt32.toNat_ofNat_of_lt' (Nat.lt_trans h.2 (by decide))]
      exact h.2⟩
  else none

/-- `is_zero` -/
def isZero (a : Duration) : Bool := a.asSecs == 0 && a.subsecNanos == 0

/-- `a < b`, as derived: the seconds first. -/
def lt (a b : Duration) : Bool :=
  decide (a.asSecs < b.asSecs ∨ a.asSecs = b.asSecs ∧ a.subsecNanos < b.subsecNanos)

/-- `std::cmp::min(a, b)` -/
def cmpMin (a b : Duration) : Duration := if b.lt a then b else a

/-- `checked_add`: the nanoseconds carry into the seconds. -/
def checkedAdd (a b : Duration) : Option Duration :=
  let secs := a.asSecs.toNat + b.asSecs.toNat
  let nanos := a.subsecNanos.toNat + b.subsecNanos.toNat
  if nanos < 1000000000 then ofParts? secs nanos else ofParts? (secs + 1) (nanos - 1000000000)

/-- `saturating_add` -/
def saturatingAdd (a b : Duration) : Duration := (a.checkedAdd b).getD maxValue

/-- All nanoseconds. -/
def toNanos (a : Duration) : Nat := a.asSecs.toNat * 1000000000 + a.subsecNanos.toNat

theorem toNanos_zero : zero.toNanos = 0 := rfl

theorem toNanos_inj {a b : Duration} (h : a.toNanos = b.toNanos) : a = b := by
  obtain ⟨secs, nanos, hnanos⟩ := a
  obtain ⟨secs', nanos', hnanos'⟩ := b
  simp only [toNanos] at h
  have hsecs : secs = secs' := UInt64.toNat_inj.mp (by omega)
  have hsub : nanos = nanos' := UInt32.toNat_inj.mp (by omega)
  subst hsecs
  subst hsub
  rfl

theorem toNanos_le_max (a : Duration) : a.toNanos ≤ maxValue.toNanos := by
  have hsecs := a.asSecs.toNat_lt
  have hnanos := a.subsecNanos_lt
  have hmax : maxValue.toNanos = 18446744073709551615 * 1000000000 + 999999999 := rfl
  rw [hmax, toNanos]
  omega

/-- The derived order is the order of the nanoseconds. -/
theorem lt_iff {a b : Duration} : a.lt b = true ↔ a.toNanos < b.toNanos := by
  have ha := a.subsecNanos_lt
  have hb := b.subsecNanos_lt
  rw [lt, decide_eq_true_iff, UInt64.lt_iff_toNat_lt, UInt32.lt_iff_toNat_lt,
    ← UInt64.toNat_inj, toNanos, toNanos]
  omega

theorem isZero_iff {a : Duration} : a.isZero = true ↔ a.toNanos = 0 := by
  rw [isZero, Bool.and_eq_true, beq_iff_eq, beq_iff_eq, ← UInt64.toNat_inj, ← UInt32.toNat_inj,
    toNanos]
  have hsecs : (0 : UInt64).toNat = 0 := rfl
  have hnanos : (0 : UInt32).toNat = 0 := rfl
  omega

theorem toNanos_cmpMin (a b : Duration) : (a.cmpMin b).toNanos = min a.toNanos b.toNanos := by
  rw [cmpMin]
  by_cases h : b.lt a = true
  · rw [if_pos h, Nat.min_eq_right (Nat.le_of_lt (lt_iff.mp h))]
  · rw [if_neg h, Nat.min_eq_left (Nat.le_of_not_lt fun hlt ↦ h (lt_iff.mpr hlt))]

private theorem toNanos_ofParts (secs nanos : Nat) (h : nanos < 1000000000) :
    ((ofParts? secs nanos).getD maxValue).toNanos =
      min maxValue.toNanos (secs * 1000000000 + nanos) := by
  have hmax : maxValue.toNanos = 18446744073709551615 * 1000000000 + 999999999 := rfl
  by_cases hsecs : secs < 2 ^ 64
  · rw [ofParts?, dif_pos ⟨hsecs, h⟩, Option.getD_some, toNanos, hmax,
      UInt64.toNat_ofNat_of_lt' hsecs, UInt32.toNat_ofNat_of_lt' (Nat.lt_trans h (by decide))]
    omega
  · rw [ofParts?, dif_neg fun hparts ↦ hsecs hparts.1, Option.getD_none, hmax]
    omega

/-- The sum, as far as there are durations. -/
theorem toNanos_saturatingAdd (a b : Duration) :
    (a.saturatingAdd b).toNanos = min maxValue.toNanos (a.toNanos + b.toNanos) := by
  have ha := a.subsecNanos_lt
  have hb := b.subsecNanos_lt
  rw [saturatingAdd, checkedAdd]
  by_cases hcarry : a.subsecNanos.toNat + b.subsecNanos.toNat < 1000000000
  · have hsum : (a.asSecs.toNat + b.asSecs.toNat) * 1000000000 +
        (a.subsecNanos.toNat + b.subsecNanos.toNat) = a.toNanos + b.toNanos := by
      rw [toNanos, toNanos]
      omega
    rw [if_pos hcarry, toNanos_ofParts _ _ hcarry, hsum]
  · have hsum : (a.asSecs.toNat + b.asSecs.toNat + 1) * 1000000000 +
        (a.subsecNanos.toNat + b.subsecNanos.toNat - 1000000000) = a.toNanos + b.toNanos := by
      rw [toNanos, toNanos]
      omega
    rw [if_neg hcarry, toNanos_ofParts _ _ (by omega), hsum]

end Duration

end PrivateBallot.Base
