import PrivateBallot.Base.Duration
import PrivateBallot.Base.Text

/-!
# The polling backoff

Library `OotleAnchor`. `crates/ootle-anchor-app/src/backoff.rs`. The delay is doubled one step at a
time, each step saturating at the longest duration and none taken once the cap is reached. In whole
nanoseconds a run of the loop is the product of the formula, cut at the cap. The number of steps is
cut as well, at 64.
-/

namespace PrivateBallot.OotleAnchor

open PrivateBallot.Base

/-- `BackoffError`; `backoff.rs:20`. -/
inductive BackoffError where
  | zeroBase
  | capBelowBase
deriving DecidableEq

/-- A base delay that is not zero and a cap that is not below it; `backoff.rs:54`. -/
structure WallClockBackoff where
  base : Duration
  cap : Duration
  base_ne_zero : base.isZero = false
  base_le_cap : cap.lt base = false
deriving DecidableEq

namespace WallClockBackoff

/-- `WallClockBackoff::new`; `backoff.rs:67`. -/
def new (base cap : Duration) : Except BackoffError WallClockBackoff :=
  if hzero : base.isZero then .error .zeroBase
  else if hcap : cap.lt base then .error .capBelowBase
  else .ok ⟨base, cap, Bool.eq_false_iff.mpr hzero, Bool.eq_false_iff.mpr hcap⟩

/-- The `for` loop of `delay_for` from `product`, and the `min` behind it; `backoff.rs:98`. -/
def doubled (cap : Duration) : Nat → Duration → Duration
  | 0, product => product.cmpMin cap
  | doublings + 1, product =>
    if product.lt cap then doubled cap doublings (product.saturatingAdd product) else cap

/-- `WallClockBackoff::delay_for`; `backoff.rs:88`. -/
def delayFor (backoff : WallClockBackoff) (attemptIndex : UInt32) : Duration :=
  if attemptIndex = 0 then Duration.zero
  else doubled backoff.cap (min (attemptIndex.toNat - 1) 64) backoff.base

/-- The formula of the module's documentation, without bounds. -/
def formula (backoff : WallClockBackoff) (attemptIndex : UInt32) : Nat :=
  min backoff.cap.toNanos (backoff.base.toNanos * 2 ^ (attemptIndex.toNat - 1))

theorem new_eq_ok {base cap : Duration} {backoff : WallClockBackoff}
    (h : new base cap = .ok backoff) : backoff.base = base ∧ backoff.cap = cap := by
  unfold new at h
  split at h
  · cases h
  split at h
  · cases h
  · cases h
    exact ⟨rfl, rfl⟩

theorem base_pos (backoff : WallClockBackoff) : 0 < backoff.base.toNanos := by
  have h := backoff.base_ne_zero
  rw [Bool.eq_false_iff, ne_eq, Duration.isZero_iff] at h
  omega

/-- The loop is the product, cut at the cap. The saturation of a step is not seen, for a product
that saturates is beyond every cap. -/
theorem toNanos_doubled (cap : Duration) (doublings : Nat) (product : Duration) :
    (doubled cap doublings product).toNanos =
      min cap.toNanos (product.toNanos * 2 ^ doublings) := by
  have hmax := cap.toNanos_le_max
  induction doublings generalizing product with
  | zero =>
    rw [doubled, Duration.toNanos_cmpMin, Nat.pow_zero, Nat.mul_one]
    exact Nat.min_comm _ _
  | succ doublings ih =>
    have hpow : 0 < 2 ^ doublings := Nat.pow_pos (by decide)
    have hsucc : product.toNanos * 2 ^ (doublings + 1) =
        (product.toNanos + product.toNanos) * 2 ^ doublings := by
      rw [Nat.pow_succ, ← Nat.mul_assoc, Nat.mul_two, ← Nat.add_mul]
    rw [doubled, hsucc]
    by_cases hlt : product.lt cap = true
    · rw [if_pos hlt, ih, Duration.toNanos_saturatingAdd]
      by_cases hsat : product.toNanos + product.toNanos ≤ Duration.maxValue.toNanos
      · rw [Nat.min_eq_right hsat]
      · have hcap : cap.toNanos ≤ product.toNanos + product.toNanos := by omega
        rw [Nat.min_eq_left (Nat.le_of_not_le hsat),
          Nat.min_eq_left (Nat.le_trans hmax (Nat.le_mul_of_pos_right _ hpow)),
          Nat.min_eq_left (Nat.le_trans hcap (Nat.le_mul_of_pos_right _ hpow))]
    · have hle : cap.toNanos ≤ product.toNanos :=
        Nat.le_of_not_lt fun h ↦ hlt (Duration.lt_iff.mpr h)
      rw [if_neg hlt, Nat.min_eq_left]
      exact Nat.le_trans (by omega) (Nat.le_mul_of_pos_right _ hpow)

/-- From the first attempt on the delay is the formula with at most 64 doublings. -/
theorem toNanos_delayFor (backoff : WallClockBackoff) {attemptIndex : UInt32}
    (h : attemptIndex ≠ 0) :
    (backoff.delayFor attemptIndex).toNanos =
      min backoff.cap.toNanos (backoff.base.toNanos * 2 ^ min (attemptIndex.toNat - 1) 64) := by
  rw [delayFor, if_neg h, toNanos_doubled]

theorem delayFor_zero (backoff : WallClockBackoff) : backoff.delayFor 0 = Duration.zero :=
  if_pos rfl

theorem toNanos_delayFor_le_cap (backoff : WallClockBackoff) (attemptIndex : UInt32) :
    (backoff.delayFor attemptIndex).toNanos ≤ backoff.cap.toNanos := by
  by_cases h : attemptIndex = 0
  · rw [h, delayFor_zero, Duration.toNanos_zero]
    exact Nat.zero_le _
  · rw [backoff.toNanos_delayFor h]
    exact Nat.min_le_left _ _

theorem toNanos_delayFor_mono (backoff : WallClockBackoff) {first second : UInt32}
    (h : first.toNat ≤ second.toNat) :
    (backoff.delayFor first).toNanos ≤ (backoff.delayFor second).toNanos := by
  by_cases hfirst : first = 0
  · rw [hfirst, delayFor_zero, Duration.toNanos_zero]
    exact Nat.zero_le _
  · have hsecond : second ≠ 0 := by
      rintro rfl
      exact hfirst (UInt32.toNat_inj.mp (Nat.le_zero.mp h))
    have hdoublings : min (first.toNat - 1) 64 ≤ min (second.toNat - 1) 64 := by omega
    have hproduct := Nat.mul_le_mul_left backoff.base.toNanos
      (Nat.pow_le_pow_right (show 0 < 2 by decide) hdoublings)
    rw [backoff.toNanos_delayFor hfirst, backoff.toNanos_delayFor hsecond]
    omega

/-- The delay is the formula's unless more than 64 doublings are asked for and 64 of them do not
reach the cap. -/
theorem toNanos_delayFor_eq_formula_iff (backoff : WallClockBackoff) {attemptIndex : UInt32}
    (h : attemptIndex ≠ 0) :
    (backoff.delayFor attemptIndex).toNanos = backoff.formula attemptIndex ↔
      attemptIndex.toNat ≤ 65 ∨ backoff.cap.toNanos ≤ backoff.base.toNanos * 2 ^ 64 := by
  rw [backoff.toNanos_delayFor h, formula]
  by_cases hindex : attemptIndex.toNat ≤ 65
  · rw [Nat.min_eq_left (show attemptIndex.toNat - 1 ≤ 64 by omega)]
    exact iff_of_true rfl (Or.inl hindex)
  · have hbase := backoff.base_pos
    -- one more doubling at least is part of the formula
    have hmore : backoff.base.toNanos * 2 ^ 64 * 2 ≤
        backoff.base.toNanos * 2 ^ (attemptIndex.toNat - 1) := by
      rw [Nat.mul_assoc, ← Nat.pow_succ]
      exact Nat.mul_le_mul_left _ (Nat.pow_le_pow_right (by decide) (by omega))
    rw [Nat.min_eq_right (show 64 ≤ attemptIndex.toNat - 1 by omega)]
    constructor
    · intro heq
      exact Or.inr (by omega)
    · rintro (hle | hcap)
      · exact absurd hle hindex
      · omega

/-- Some attempt from which on the delay is the cap. -/
def ReachesCap (backoff : WallClockBackoff) : Prop :=
  ∃ start : UInt32, ∀ attemptIndex : UInt32, start.toNat ≤ attemptIndex.toNat →
    backoff.delayFor attemptIndex = backoff.cap

theorem reachesCap_iff (backoff : WallClockBackoff) :
    backoff.ReachesCap ↔ backoff.cap.toNanos ≤ backoff.base.toNanos * 2 ^ 64 := by
  have hlast : ∀ {attemptIndex : UInt32}, 65 ≤ attemptIndex.toNat →
      (backoff.delayFor attemptIndex).toNanos =
        min backoff.cap.toNanos (backoff.base.toNanos * 2 ^ 64) := by
    intro attemptIndex hle
    have hne : attemptIndex ≠ 0 := by
      rintro rfl
      exact absurd hle (by decide)
    rw [backoff.toNanos_delayFor hne,
      Nat.min_eq_right (show 64 ≤ attemptIndex.toNat - 1 by omega)]
  constructor
  · rintro ⟨start, hstart⟩
    have hcap := hstart 4294967295 (Nat.le_of_lt_succ start.toNat_lt)
    have hdelay := hlast (show 65 ≤ (4294967295 : UInt32).toNat by decide)
    rw [hcap] at hdelay
    omega
  · intro hcap
    refine ⟨65, fun attemptIndex hle ↦ Duration.toNanos_inj ?_⟩
    rw [hlast hle, Nat.min_eq_left hcap]

/-- A base and a cap that are accepted give the formula at every attempt exactly as far as 64
doublings reach the cap, or no more are asked for. At every magnitude the delay stays within the cap
and does not decrease. -/
theorem delayFor_follows_formula_iff {base cap : Duration} {backoff : WallClockBackoff}
    (h : new base cap = .ok backoff) :
    (∀ attemptIndex : UInt32, 1 ≤ attemptIndex.toNat →
      ((backoff.delayFor attemptIndex).toNanos =
          min cap.toNanos (base.toNanos * 2 ^ (attemptIndex.toNat - 1)) ↔
        attemptIndex.toNat ≤ 65 ∨ cap.toNanos ≤ base.toNanos * 2 ^ 64)) ∧
    (∀ attemptIndex : UInt32, (backoff.delayFor attemptIndex).toNanos ≤ cap.toNanos) ∧
    (∀ first second : UInt32, first.toNat ≤ second.toNat →
      (backoff.delayFor first).toNanos ≤ (backoff.delayFor second).toNanos) ∧
    ((∃ start : UInt32, ∀ attemptIndex : UInt32, start.toNat ≤ attemptIndex.toNat →
        backoff.delayFor attemptIndex = cap) ↔
      cap.toNanos ≤ base.toNanos * 2 ^ 64) := by
  obtain ⟨rfl, rfl⟩ := new_eq_ok h
  refine ⟨fun attemptIndex hpos ↦ ?_, backoff.toNanos_delayFor_le_cap,
    fun first second ↦ backoff.toNanos_delayFor_mono, backoff.reachesCap_iff⟩
  have hne : attemptIndex ≠ 0 := by
    rintro rfl
    exact absurd hpos (by decide)
  exact backoff.toNanos_delayFor_eq_formula_iff hne

/-- One nanosecond doubled up to the longest duration. -/
def sampleBackoff : WallClockBackoff :=
  ⟨⟨0, 1, by decide⟩, Duration.maxValue, by decide, by decide⟩

/-- At attempt 66 the sample waits half of what the formula says. -/
theorem delayFor_stops_doubling :
    new ⟨0, 1, by decide⟩ Duration.maxValue = .ok sampleBackoff ∧
    (sampleBackoff.delayFor 66).toNanos = 2 ^ 64 ∧
    (sampleBackoff.delayFor 66).toNanos ≠
      min Duration.maxValue.toNanos (1 * 2 ^ ((66 : UInt32).toNat - 1)) ∧
    ¬ sampleBackoff.ReachesCap := by
  have hdelay : (sampleBackoff.delayFor 66).toNanos = 2 ^ 64 := by
    rw [sampleBackoff.toNanos_delayFor (by decide)]
    decide
  refine ⟨by decide, hdelay, ?_, ?_⟩
  · rw [hdelay]
    decide
  · rw [reachesCap_iff]
    decide

/-- The theorem at the sample. -/
theorem delayFor_follows_formula_iff_sample :
    ¬ ∃ start : UInt32, ∀ attemptIndex : UInt32, start.toNat ≤ attemptIndex.toNat →
      sampleBackoff.delayFor attemptIndex = Duration.maxValue := by
  have hnew : new ⟨0, 1, by decide⟩ Duration.maxValue = .ok sampleBackoff := by decide
  intro hreaches
  have hcap := (delayFor_follows_formula_iff hnew).2.2.2.mp hreaches
  exact absurd hcap (by decide)

end WallClockBackoff

end PrivateBallot.OotleAnchor
