import PrivateBallot.Base.Text

/-!
# Text of bytes that need not be text

Library `Base`. `String::from_utf8_lossy`: what is well-formed UTF-8 is copied, and U+FFFD stands
for each maximal part of something ill-formed.
-/

namespace PrivateBallot.Base

namespace Utf8

/-- U+FFFD -/
def replacement : Bytes := [0xef, 0xbf, 0xbd]

/-- Whether `b1` can be the second byte of a character whose first byte is `b0`, of which there are
two at least. -/
def fitsBehind (b0 b1 : UInt8) : Bool :=
  let lead := b0.toNat
  if lead < 0xc2 then false
  else if lead = 0xe0 then 0xa0 ≤ b1.toNat && b1.toNat < 0xc0
  else if lead = 0xed then 0x80 ≤ b1.toNat && b1.toNat < 0xa0
  else if lead = 0xf0 then 0x90 ≤ b1.toNat && b1.toNat < 0xc0
  else if lead < 0xf4 then isTail b1
  else if lead = 0xf4 then 0x80 ≤ b1.toNat && b1.toNat < 0x90
  else false

/-- The bytes of `String::from_utf8_lossy`. -/
def lossy : Bytes → Bytes
  | [] => []
  | b0 :: rest0 =>
    if b0.toNat < 0x80 then b0 :: lossy rest0
    else match rest0 with
    | [] => replacement
    | b1 :: rest1 =>
      if !fitsBehind b0 b1 then replacement ++ lossy (b1 :: rest1)
      else if b0.toNat < 0xe0 then b0 :: b1 :: lossy rest1
      else match rest1 with
      | [] => replacement
      | b2 :: rest2 =>
        if !isTail b2 then replacement ++ lossy (b2 :: rest2)
        else if b0.toNat < 0xf0 then b0 :: b1 :: b2 :: lossy rest2
        else match rest2 with
        | [] => replacement
        | b3 :: rest3 =>
          if !isTail b3 then replacement ++ lossy (b3 :: rest3)
          else b0 :: b1 :: b2 :: b3 :: lossy rest3

private theorem isTail_iff {b : UInt8} : isTail b = true ↔ 0x80 ≤ b.toNat ∧ b.toNat < 0xc0 := by
  rw [isTail, Bool.and_eq_true, decide_eq_true_iff, decide_eq_true_iff]

private theorem isSome_scalar_iff {least v : Nat} :
    (scalar? least v).isSome ↔ least ≤ v ∧ (v < 0xd800 ∨ 0xdfff < v ∧ v < 0x110000) := by
  rw [scalar?]
  by_cases h : least ≤ v ∧ v.isValidChar
  · rw [if_pos h]
    exact iff_of_true rfl h
  · rw [if_neg h]
    exact iff_of_false Bool.false_ne_true h

/-- Of two bytes, the range of the second is what makes the value one that needs two. -/
private theorem fitsBehind_two {b0 b1 : UInt8} (hlead : b0.toNat < 0xe0) :
    fitsBehind b0 b1 = true ↔ isTail b1 = true ∧ 0xc0 ≤ b0.toNat ∧
      (scalar? 0x80 (b0.toNat % 32 * 64 + tailBits b1)).isSome := by
  have hb1 := b1.toNat_lt
  rw [isSome_scalar_iff, isTail_iff, tailBits]
  unfold fitsBehind
  dsimp only
  split
  · constructor
    · intro h
      cases h
    · omega
  · rw [if_neg (by omega), if_neg (by omega), if_neg (by omega), if_pos (by omega), isTail_iff]
    omega

private theorem fitsBehind_three {b0 b1 : UInt8} (b2 : UInt8) (hle : 0xe0 ≤ b0.toNat)
    (hlt : b0.toNat < 0xf0) :
    fitsBehind b0 b1 = true ↔ isTail b1 = true ∧
      (scalar? 0x800 (b0.toNat % 16 * 4096 + tailBits b1 * 64 + tailBits b2)).isSome := by
  rw [isSome_scalar_iff, isTail_iff, tailBits, tailBits]
  unfold fitsBehind
  dsimp only
  rw [if_neg (by omega)]
  split
  · rw [Bool.and_eq_true, decide_eq_true_iff, decide_eq_true_iff]
    omega
  split
  · rw [Bool.and_eq_true, decide_eq_true_iff, decide_eq_true_iff]
    omega
  · rw [if_neg (by omega), if_pos (by omega), isTail_iff]
    omega

private theorem fitsBehind_four {b0 b1 : UInt8} (b2 b3 : UInt8) (hle : 0xf0 ≤ b0.toNat) :
    fitsBehind b0 b1 = true ↔ isTail b1 = true ∧ b0.toNat < 0xf8 ∧
      (scalar? 0x10000 (b0.toNat % 8 * 262144 + tailBits b1 * 4096 + tailBits b2 * 64 +
        tailBits b3)).isSome := by
  rw [isSome_scalar_iff, isTail_iff, tailBits, tailBits, tailBits]
  unfold fitsBehind
  dsimp only
  rw [if_neg (by omega), if_neg (by omega), if_neg (by omega)]
  split
  · rw [Bool.and_eq_true, decide_eq_true_iff, decide_eq_true_iff]
    omega
  split
  · rw [isTail_iff]
    omega
  split
  · rw [Bool.and_eq_true, decide_eq_true_iff, decide_eq_true_iff]
    omega
  · constructor
    · intro h
      cases h
    · omega

/-- What is well-formed is copied. -/
theorem lossy_of_decode {b : Bytes} (h : (decode b).isSome) : lossy b = b := by
  have hfirst : ∀ {o : Option Char} {p : Option (List Char)},
      (o.bind fun c ↦ p.map (c :: ·)).isSome → o.isSome ∧ p.isSome := by
    intro o p hsome
    cases o with
    | none => cases hsome
    | some c => exact ⟨rfl, by simpa using hsome⟩
  fun_induction decode b with
  | case1 => rfl
  | case2 b0 rest0 hb0 ih =>
    rw [Option.isSome_map] at h
    rw [lossy.eq_def]
    simp only [if_pos hb0, ih h]
  | case5 b0 hb0 b1 rest1 hok hb0' ih =>
    simp only [Bool.or_eq_true, Bool.not_eq_true', decide_eq_true_eq, not_or, Bool.not_eq_false]
      at hok
    obtain ⟨hvalue, hrest⟩ := hfirst h
    have hfits := (fitsBehind_two hb0').mpr ⟨hok.1, by omega, hvalue⟩
    rw [lossy.eq_def]
    simp [hb0, hfits, hb0', ih hrest]
  | case8 b0 hb0 b1 hok hb0' b2 rest2 hb2 hb0'' ih =>
    simp only [Bool.or_eq_true, Bool.not_eq_true', decide_eq_true_eq, not_or, Bool.not_eq_false]
      at hok hb2
    obtain ⟨hvalue, hrest⟩ := hfirst h
    have hfits := (fitsBehind_three b2 (by omega) hb0'').mpr ⟨hok.1, hvalue⟩
    rw [lossy.eq_def]
    simp [hb0, hfits, hb0', hb2, hb0'', ih hrest]
  | case11 b0 hb0 b1 hok hb0' b2 hb2 hb0'' b3 rest3 hb3 ih =>
    simp only [Bool.or_eq_true, Bool.not_eq_true', decide_eq_true_eq, not_or, Bool.not_eq_false]
      at hok hb2 hb3
    obtain ⟨hvalue, hrest⟩ := hfirst h
    have hfits := (fitsBehind_four b2 b3 (by omega)).mpr ⟨hok.1, by omega, hvalue⟩
    rw [lossy.eq_def]
    simp [hb0, hfits, hb0', hb2, hb0'', hb3.1, ih hrest]
  | _ => cases h

/-- What is read is always text. -/
theorem isSome_decode_lossy (b : Bytes) : (decode (lossy b)).isSome := by
  have hreplacement : (decode replacement).isSome := by decide
  fun_induction lossy b with
  | case1 => rfl
  | case2 b0 rest0 hb0 ih =>
    refine isSome_decode_append (x := [b0]) ?_ ih
    simp [decode, hb0]
  | case3 => exact hreplacement
  | case4 b0 _ b1 rest1 _ ih => exact isSome_decode_append hreplacement ih
  | case5 b0 hb0 b1 rest1 hfits hb0' ih =>
    rw [Bool.not_eq_true', Bool.not_eq_false] at hfits
    obtain ⟨htail, hle, hvalue⟩ := (fitsBehind_two hb0').mp hfits
    refine isSome_decode_append (x := [b0, b1]) ?_ ih
    obtain ⟨c, hc⟩ := Option.isSome_iff_exists.mp hvalue
    simp [decode, hb0, htail, Nat.not_lt_of_le hle, hb0', hc]
  | case6 => exact hreplacement
  | case7 b0 _ b1 _ _ b2 rest2 _ ih => exact isSome_decode_append hreplacement ih
  | case8 b0 hb0 b1 hfits hb0' b2 rest2 htail' hb0'' ih =>
    rw [Bool.not_eq_true', Bool.not_eq_false] at hfits htail'
    obtain ⟨htail, hvalue⟩ := (fitsBehind_three b2 (by omega) hb0'').mp hfits
    refine isSome_decode_append (x := [b0, b1, b2]) ?_ ih
    obtain ⟨c, hc⟩ := Option.isSome_iff_exists.mp hvalue
    simp [decode, hb0, htail, htail', show ¬ b0.toNat < 0xc0 by omega, hb0', hb0'', hc]
  | case9 => exact hreplacement
  | case10 b0 _ b1 _ _ b2 _ _ b3 rest3 _ ih => exact isSome_decode_append hreplacement ih
  | case11 b0 hb0 b1 hfits hb0' b2 htail' hb0'' b3 rest3 htail'' ih =>
    rw [Bool.not_eq_true', Bool.not_eq_false] at hfits htail' htail''
    obtain ⟨htail, hlt, hvalue⟩ := (fitsBehind_four b2 b3 (by omega)).mp hfits
    refine isSome_decode_append (x := [b0, b1, b2, b3]) ?_ ih
    obtain ⟨c, hc⟩ := Option.isSome_iff_exists.mp hvalue
    simp [decode, hb0, htail, htail', htail'', show ¬ b0.toNat < 0xc0 by omega, hb0', hb0'',
      Nat.not_le_of_lt hlt, hc]

end Utf8

/-- `String::from_utf8_lossy` -/
def Text.ofBytesLossy (b : Bytes) : Text := ⟨Utf8.lossy b, Utf8.isSome_decode_lossy b⟩

/-- The bytes survive exactly if they are text. -/
theorem Text.toBytes_ofBytesLossy_iff {b : Bytes} :
    (Text.ofBytesLossy b).toBytes = b ↔ (Utf8.decode b).isSome := by
  constructor
  · intro h
    rw [← h]
    exact (Text.ofBytesLossy b).valid
  · exact Utf8.lossy_of_decode

end PrivateBallot.Base
