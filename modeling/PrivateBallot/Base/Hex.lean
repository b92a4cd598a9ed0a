import PrivateBallot.Base.Ascii

/-!
# Lowercase hexadecimal

Library `Base`. Two digits for each byte, the high one first, and a reader that takes lowercase
digits only. What is written is read back, and only what is written is read.
-/

namespace PrivateBallot.Base.Hex

/-- The digit of a value below sixteen. -/
def digit (v : Nat) : UInt8 := if v < 10 then UInt8.ofNat (0x30 + v) else UInt8.ofNat (0x57 + v)

/-- The value of a digit. -/
def value (b : UInt8) : Option Nat :=
  if 0x30 ≤ b ∧ b ≤ 0x39 then some (b.toNat - 0x30)
  else if 0x61 ≤ b ∧ b ≤ 0x66 then some (b.toNat - 0x57)
  else none

/-- The digits of bytes. -/
def encode (bytes : Bytes) : Bytes :=
  bytes.flatMap fun b ↦ [digit (b.toNat / 16), digit (b.toNat % 16)]

/-- The bytes that pairs of digits stand for. -/
def decode : Bytes → Option Bytes
  | [] => some []
  | [_] => none
  | high :: low :: rest =>
    match value high, value low, decode rest with
    | some high, some low, some bytes => some (UInt8.ofNat (high * 16 + low) :: bytes)
    | _, _, _ => none

theorem value_digit {v : Nat} (h : v < 16) : value (digit v) = some v := by
  have hall : ∀ d : Fin 16, value (digit d) = some d.val := by decide
  exact hall ⟨v, h⟩

theorem digit_of_value {b : UInt8} {v : Nat} (h : value b = some v) : digit v = b ∧ v < 16 := by
  unfold value at h
  by_cases hdecimal : 0x30 ≤ b ∧ b ≤ 0x39
  · rw [if_pos hdecimal] at h
    cases h
    obtain ⟨hlow, hhigh⟩ := hdecimal
    rw [UInt8.le_iff_toNat_le] at hlow hhigh
    have hlow : 0x30 ≤ b.toNat := hlow
    have hhigh : b.toNat ≤ 0x39 := hhigh
    have hsum : 0x30 + (b.toNat - 0x30) = b.toNat := by omega
    refine ⟨?_, by omega⟩
    rw [digit, if_pos (by omega), hsum, UInt8.ofNat_toNat]
  · rw [if_neg hdecimal] at h
    by_cases hletter : 0x61 ≤ b ∧ b ≤ 0x66
    · rw [if_pos hletter] at h
      cases h
      obtain ⟨hlow, hhigh⟩ := hletter
      rw [UInt8.le_iff_toNat_le] at hlow hhigh
      have hlow : 0x61 ≤ b.toNat := hlow
      have hhigh : b.toNat ≤ 0x66 := hhigh
      have hsum : 0x57 + (b.toNat - 0x57) = b.toNat := by omega
      refine ⟨?_, by omega⟩
      rw [digit, if_neg (by omega), hsum, UInt8.ofNat_toNat]
    · rw [if_neg hletter] at h
      cases h

@[simp] theorem length_encode (bytes : Bytes) : (encode bytes).length = 2 * bytes.length := by
  induction bytes with
  | nil => rfl
  | cons b bytes ih =>
    simp only [encode, List.flatMap_cons, List.length_append, List.length_cons,
      List.length_nil] at ih ⊢
    omega

/-- What is written is read back. -/
theorem decode_encode (bytes : Bytes) : decode (encode bytes) = some bytes := by
  induction bytes with
  | nil => rfl
  | cons b bytes ih =>
    have hb := b.toNat_lt
    have hsum : b.toNat / 16 * 16 + b.toNat % 16 = b.toNat := by omega
    have hcons : encode (b :: bytes) =
        digit (b.toNat / 16) :: digit (b.toNat % 16) :: encode bytes := rfl
    rw [hcons, decode, value_digit (by omega), value_digit (by omega), ih]
    simp only [hsum, UInt8.ofNat_toNat]

/-- Only what is written is read. -/
theorem encode_of_decode {digits bytes : Bytes} (h : decode digits = some bytes) :
    encode bytes = digits := by
  fun_induction decode digits generalizing bytes with
  | case1 =>
    cases h
    rfl
  | case2 => cases h
  | case3 high low rest v w read hrest hlow hhigh ih =>
    cases h
    obtain ⟨hv, hvlt⟩ := digit_of_value hhigh
    obtain ⟨hw, hwlt⟩ := digit_of_value hlow
    have hbyte : (UInt8.ofNat (v * 16 + w)).toNat = v * 16 + w := by
      rw [UInt8.toNat_ofNat', Nat.mod_eq_of_lt (by omega)]
    have hquot : (v * 16 + w) / 16 = v := by omega
    have hrem : (v * 16 + w) % 16 = w := by omega
    show digit ((UInt8.ofNat (v * 16 + w)).toNat / 16) ::
      digit ((UInt8.ofNat (v * 16 + w)).toNat % 16) :: encode read = _
    rw [hbyte, hquot, hrem, hv, hw, ih hrest]
  | case4 => cases h

private theorem digit_lt (v : Nat) (h : v < 16) : digit v < 0x80 := by
  have hall : ∀ d : Fin 16, digit d < 0x80 := by decide
  exact hall ⟨v, h⟩

/-- The digits are ASCII. -/
theorem lt_of_mem_encode {bytes : Bytes} {b : UInt8} (h : b ∈ encode bytes) : b < 0x80 := by
  obtain ⟨a, -, hmem⟩ := List.mem_flatMap.mp h
  have ha := a.toNat_lt
  simp only [List.mem_cons, List.not_mem_nil, or_false] at hmem
  rcases hmem with rfl | rfl
  · exact digit_lt _ (by omega)
  · exact digit_lt _ (by omega)

/-- The digits as a text. -/
def text (bytes : Bytes) : Text where
  toBytes := encode bytes
  valid := Ascii.isSome_decode fun _ hb ↦ lt_of_mem_encode hb

end PrivateBallot.Base.Hex
