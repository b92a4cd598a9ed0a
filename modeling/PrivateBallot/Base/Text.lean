import PrivateBallot.Base.Bytes

/-!
# UTF-8 text

Library `Base`. A Rust `str` is a byte string that is well-formed UTF-8, and `len`, `==` and
`cmp` on it are those of its bytes; `chars` reads the Unicode scalar values back.
`Utf8.decode` follows `core::str::from_utf8`: shortest forms only, no surrogates, nothing
above U+10FFFF.
-/

namespace PrivateBallot.Base

namespace Utf8

/-- A continuation byte `10xxxxxx`. -/
def isTail (b : UInt8) : Bool := 0x80 ≤ b.toNat && b.toNat < 0xc0

/-- The low six bits a continuation byte contributes. -/
def tailBits (b : UInt8) : Nat := b.toNat % 64

/-- The scalar value `v`, if it is one and needs at least the length it was written with. -/
def scalar? (least v : Nat) : Option Char :=
  if least ≤ v ∧ v.isValidChar then some (Char.ofNat v) else none

/-- The characters of a well-formed UTF-8 byte string. -/
def decode : Bytes → Option (List Char)
  | [] => some []
  | b0 :: rest0 =>
    if b0.toNat < 0x80 then (decode rest0).map (Char.ofNat b0.toNat :: ·)
    else match rest0 with
    | [] => none
    | b1 :: rest1 =>
      if !isTail b1 || b0.toNat < 0xc0 then none
      else if b0.toNat < 0xe0 then
        (scalar? 0x80 (b0.toNat % 32 * 64 + tailBits b1)).bind fun c ↦
          (decode rest1).map (c :: ·)
      else match rest1 with
      | [] => none
      | b2 :: rest2 =>
        if !isTail b2 then none
        else if b0.toNat < 0xf0 then
          (scalar? 0x800 (b0.toNat % 16 * 4096 + tailBits b1 * 64 + tailBits b2)).bind fun c ↦
            (decode rest2).map (c :: ·)
        else match rest2 with
        | [] => none
        | b3 :: rest3 =>
          if !isTail b3 || 0xf8 ≤ b0.toNat then none
          else
            (scalar? 0x10000 (b0.toNat % 8 * 262144 + tailBits b1 * 4096 + tailBits b2 * 64 +
              tailBits b3)).bind fun c ↦ (decode rest3).map (c :: ·)

/-- The UTF-8 bytes of a list of characters. -/
def encode (cs : List Char) : Bytes := cs.flatMap String.utf8EncodeChar

private theorem scalar?_toNat (c : Char) (least : Nat) (h : least ≤ c.toNat) :
    scalar? least c.toNat = some c := by
  have hv : c.toNat.isValidChar := c.valid
  simp only [scalar?, h, hv, and_self, if_true, Char.ofNat_toNat]

private theorem isTail_ofNat (n : Nat) : isTail (UInt8.ofNat (n % 64 + 0x80)) = true := by
  have h : (n % 64 + 0x80) % 256 = n % 64 + 0x80 := by omega
  simp only [isTail, UInt8.toNat_ofNat', h, Bool.and_eq_true, decide_eq_true_eq]
  omega

private theorem tailBits_ofNat (n : Nat) : tailBits (UInt8.ofNat (n % 64 + 0x80)) = n % 64 := by
  rw [tailBits, UInt8.toNat_ofNat']
  omega

private theorem decode_one (b0 : UInt8) (rest : Bytes) (h : b0.toNat < 0x80) :
    decode (b0 :: rest) = (decode rest).map (Char.ofNat b0.toNat :: ·) := by
  rw [decode.eq_def]
  simp only [h, if_true]

private theorem decode_two (b0 b1 : UInt8) (rest : Bytes) (hl : 0xc0 ≤ b0.toNat)
    (hu : b0.toNat < 0xe0) (h1 : isTail b1 = true) :
    decode (b0 :: b1 :: rest) =
      (scalar? 0x80 (b0.toNat % 32 * 64 + tailBits b1)).bind fun c ↦
        (decode rest).map (c :: ·) := by
  rw [decode.eq_def]
  simp [show ¬ b0.toNat < 0x80 by omega, show ¬ b0.toNat < 0xc0 by omega, h1, hu]

private theorem decode_three (b0 b1 b2 : UInt8) (rest : Bytes) (hl : 0xe0 ≤ b0.toNat)
    (hu : b0.toNat < 0xf0) (h1 : isTail b1 = true) (h2 : isTail b2 = true) :
    decode (b0 :: b1 :: b2 :: rest) =
      (scalar? 0x800 (b0.toNat % 16 * 4096 + tailBits b1 * 64 + tailBits b2)).bind fun c ↦
        (decode rest).map (c :: ·) := by
  rw [decode.eq_def]
  simp [show ¬ b0.toNat < 0x80 by omega, show ¬ b0.toNat < 0xc0 by omega,
    show ¬ b0.toNat < 0xe0 by omega, h1, h2, hu]

private theorem decode_four (b0 b1 b2 b3 : UInt8) (rest : Bytes) (hl : 0xf0 ≤ b0.toNat)
    (hu : b0.toNat < 0xf8) (h1 : isTail b1 = true) (h2 : isTail b2 = true)
    (h3 : isTail b3 = true) :
    decode (b0 :: b1 :: b2 :: b3 :: rest) =
      (scalar? 0x10000 (b0.toNat % 8 * 262144 + tailBits b1 * 4096 + tailBits b2 * 64 +
        tailBits b3)).bind fun c ↦ (decode rest).map (c :: ·) := by
  rw [decode.eq_def]
  simp [show ¬ b0.toNat < 0x80 by omega, show ¬ b0.toNat < 0xc0 by omega,
    show ¬ b0.toNat < 0xe0 by omega, show ¬ b0.toNat < 0xf0 by omega,
    show ¬ 0xf8 ≤ b0.toNat by omega, h1, h2, h3]

-- One case for each encoded length; in each the lead byte and the tails give the value back.
private theorem decode_encodeChar_append (c : Char) (rest : Bytes) :
    decode (String.utf8EncodeChar c ++ rest) = (decode rest).map (c :: ·) := by
  have hlt : c.toNat < 0x110000 := by
    have hv : c.toNat.isValidChar := c.valid
    simp only [Nat.isValidChar] at hv
    omega
  have hval : c.val.toNat = c.toNat := rfl
  unfold String.utf8EncodeChar
  simp only [hval]
  split
  · next h1 =>
    have hb : (UInt8.ofNat c.toNat).toNat = c.toNat := by
      rw [UInt8.toNat_ofNat']
      omega
    rw [List.cons_append, List.nil_append, decode_one _ _ (by omega), hb, Char.ofNat_toNat]
  · next h1 =>
    split
    · next h2 =>
      have hb : (UInt8.ofNat (c.toNat / 64 % 32 + 0xc0)).toNat = c.toNat / 64 + 0xc0 := by
        rw [UInt8.toNat_ofNat']
        omega
      have hsum : (c.toNat / 64 + 0xc0) % 32 * 64 + c.toNat % 64 = c.toNat := by omega
      rw [List.cons_append, List.cons_append, List.nil_append,
        decode_two _ _ _ (by omega) (by omega) (isTail_ofNat _), tailBits_ofNat, hb, hsum,
        scalar?_toNat c _ (by omega), Option.bind_some]
    · next h2 =>
      split
      · next h3 =>
        have hb : (UInt8.ofNat (c.toNat / 4096 % 16 + 0xe0)).toNat = c.toNat / 4096 + 0xe0 := by
          rw [UInt8.toNat_ofNat']
          omega
        have hsum : (c.toNat / 4096 + 0xe0) % 16 * 4096 + c.toNat / 64 % 64 * 64 +
            c.toNat % 64 = c.toNat := by omega
        rw [List.cons_append, List.cons_append, List.cons_append, List.nil_append,
          decode_three _ _ _ _ (by omega) (by omega) (isTail_ofNat _) (isTail_ofNat _),
          tailBits_ofNat, tailBits_ofNat, hb, hsum, scalar?_toNat c _ (by omega),
          Option.bind_some]
      · next h3 =>
        have hb : (UInt8.ofNat (c.toNat / 262144 % 8 + 0xf0)).toNat =
            c.toNat / 262144 + 0xf0 := by
          rw [UInt8.toNat_ofNat']
          omega
        have hsum : (c.toNat / 262144 + 0xf0) % 8 * 262144 + c.toNat / 4096 % 64 * 4096 +
            c.toNat / 64 % 64 * 64 + c.toNat % 64 = c.toNat := by omega
        rw [List.cons_append, List.cons_append, List.cons_append, List.cons_append,
          List.nil_append, decode_four _ _ _ _ _ (by omega) (by omega) (isTail_ofNat _)
          (isTail_ofNat _) (isTail_ofNat _), tailBits_ofNat, tailBits_ofNat, tailBits_ofNat, hb,
          hsum, scalar?_toNat c _ (by omega), Option.bind_some]

/-- Characters are read back from their encoding. -/
theorem decode_encode (cs : List Char) : decode (encode cs) = some cs := by
  induction cs with
  | nil => rfl
  | cons c cs ih =>
    rw [encode, List.flatMap_cons, decode_encodeChar_append, ← encode, ih, Option.map_some]

private theorem isSome_bind_map {o : Option Char} {p q : Option (List Char)}
    (h : (o.bind fun c ↦ p.map (c :: ·)).isSome) (hq : p.isSome → q.isSome) :
    (o.bind fun c ↦ q.map (c :: ·)).isSome := by
  cases o with
  | none => exact h
  | some c =>
    simp only [Option.bind_some, Option.isSome_map] at h ⊢
    exact hq h

private theorem isSome_decode_ascii {z w : Bytes} (hz : ∀ b ∈ z, b < 0x80)
    (hw : (decode w).isSome) : (decode (z ++ w)).isSome := by
  induction z with
  | nil => exact hw
  | cons b z ih =>
    rw [List.forall_mem_cons] at hz
    rw [List.cons_append, decode_one b _ (UInt8.lt_iff_toNat_lt.mp hz.1), Option.isSome_map]
    exact ih hz.2

/-- Where each ASCII byte is replaced by ASCII and the other bytes stay, well-formed text stays
well-formed. -/
theorem isSome_decode_flatMap {f : UInt8 → Bytes} (hascii : ∀ b < 0x80, ∀ c ∈ f b, c < 0x80)
    (hhigh : ∀ b, 0x80 ≤ b → f b = [b]) {x y : Bytes} (hx : (decode x).isSome)
    (hy : (decode y).isSome) : (decode (x.flatMap f ++ y)).isSome := by
  have htail : ∀ b, isTail b = true → f b = [b] := by
    intro b hb
    simp only [isTail, Bool.and_eq_true, decide_eq_true_eq] at hb
    exact hhigh b (UInt8.le_iff_toNat_le.mpr hb.1)
  have hlead : ∀ b : UInt8, ¬ b.toNat < 0x80 → f b = [b] := fun b hb ↦
    hhigh b (UInt8.le_iff_toNat_le.mpr (Nat.le_of_not_lt hb))
  fun_induction decode x with
  | case1 => exact hy
  | case2 b0 rest0 hb0 ih =>
    rw [Option.isSome_map] at hx
    rw [List.flatMap_cons, List.append_assoc]
    exact isSome_decode_ascii (hascii b0 (UInt8.lt_iff_toNat_lt.mpr hb0)) (ih hx)
  | case5 b0 hb0 b1 rest1 hok hb0' ih =>
    simp only [Bool.or_eq_true, Bool.not_eq_true', decide_eq_true_eq, not_or, Bool.not_eq_false]
      at hok
    rw [List.flatMap_cons, List.flatMap_cons, hlead b0 hb0, htail b1 hok.1, List.append_assoc,
      List.append_assoc, List.singleton_append, List.singleton_append,
      decode_two b0 b1 _ (by omega) hb0' hok.1]
    exact isSome_bind_map hx ih
  | case8 b0 hb0 b1 hok hb0' b2 rest2 hb2 hb0'' ih =>
    simp only [Bool.or_eq_true, Bool.not_eq_true', decide_eq_true_eq, not_or, Bool.not_eq_false]
      at hok hb2
    rw [List.flatMap_cons, List.flatMap_cons, List.flatMap_cons, hlead b0 hb0, htail b1 hok.1,
      htail b2 hb2, List.append_assoc, List.append_assoc, List.append_assoc,
      List.singleton_append, List.singleton_append, List.singleton_append,
      decode_three b0 b1 b2 _ (by omega) hb0'' hok.1 hb2]
    exact isSome_bind_map hx ih
  | case11 b0 hb0 b1 hok hb0' b2 hb2 hb0'' b3 rest3 hb3 ih =>
    simp only [Bool.or_eq_true, Bool.not_eq_true', decide_eq_true_eq, not_or, Bool.not_eq_false]
      at hok hb2 hb3
    rw [List.flatMap_cons, List.flatMap_cons, List.flatMap_cons, List.flatMap_cons, hlead b0 hb0,
      htail b1 hok.1, htail b2 hb2, htail b3 hb3.1, List.append_assoc, List.append_assoc,
      List.append_assoc, List.append_assoc, List.singleton_append, List.singleton_append,
      List.singleton_append, List.singleton_append,
      decode_four b0 b1 b2 b3 _ (by omega) (by omega) hok.1 hb2 hb3.1]
    exact isSome_bind_map hx ih
  | _ => cases hx

/-- Well-formed text behind well-formed text. -/
theorem isSome_decode_append {x y : Bytes} (hx : (decode x).isSome) (hy : (decode y).isSome) :
    (decode (x ++ y)).isSome := by
  have hcopy : x.flatMap (fun b ↦ [b]) = x := List.flatMap_singleton' x
  rw [← hcopy]
  exact isSome_decode_flatMap (fun b hb c hc ↦ List.mem_singleton.mp hc ▸ hb) (fun _ _ ↦ rfl) hx hy

end Utf8

/-- A Rust `str`: a well-formed UTF-8 byte string. -/
structure Text where
  /-- `as_bytes` -/
  toBytes : Bytes
  /-- The bytes are well-formed UTF-8. -/
  valid : (Utf8.decode toBytes).isSome
deriving DecidableEq

namespace Text

/-- Texts with the same bytes are the same text. -/
@[ext] theorem ext {a b : Text} (h : a.toBytes = b.toBytes) : a = b := by
  cases a
  cases b
  cases h
  rfl

/-- `core::str::from_utf8`. -/
def ofBytes? (b : Bytes) : Option Text :=
  if h : (Utf8.decode b).isSome then some ⟨b, h⟩ else none

/-- The bytes of a text are read back as that text. -/
@[simp] theorem ofBytes?_toBytes (t : Text) : ofBytes? t.toBytes = some t := by
  simp [ofBytes?, t.valid]

/-- A successful conversion keeps the bytes. -/
theorem toBytes_of_ofBytes? {b : Bytes} {t : Text} (h : ofBytes? b = some t) :
    t.toBytes = b := by
  unfold ofBytes? at h
  split at h
  · cases h
    rfl
  · cases h

/-- The text with the given characters. -/
def ofChars (cs : List Char) : Text :=
  ⟨Utf8.encode cs, by rw [Utf8.decode_encode]; rfl⟩

private theorem toList_toByteArray (s : String) :
    s.toByteArray.data.toList = Utf8.encode s.toList := by
  rw [← String.utf8Encode_toList, List.utf8Encode, List.data_toByteArray]
  rfl

/-- A string literal of the source. Its bytes are taken as they are, and not from the characters
they would have to be decoded to. -/
def lit (s : String) : Text :=
  ⟨s.toByteArray.data.toList, by rw [toList_toByteArray, Utf8.decode_encode]; rfl⟩

theorem lit_eq (s : String) : lit s = ofChars s.toList := ext (toList_toByteArray s)

instance : Inhabited Text := ⟨ofChars []⟩

/-- `str::chars` -/
def chars (t : Text) : List Char := (Utf8.decode t.toBytes).get t.valid

/-- `str::len`, in bytes. -/
def len (t : Text) : Nat := t.toBytes.length

/-- `char::is_whitespace`: the Unicode `White_Space` property. -/
def isWhitespace (c : Char) : Bool :=
  let v := c.toNat
  (0x09 ≤ v && v ≤ 0x0d) || v = 0x20 || v = 0x85 || v = 0xa0 || v = 0x1680 ||
    (0x2000 ≤ v && v ≤ 0x200a) || v = 0x2028 || v = 0x2029 || v = 0x202f || v = 0x205f ||
    v = 0x3000

/-- `value.trim().is_empty()` -/
def trimIsEmpty (t : Text) : Bool := t.chars.all isWhitespace

/-- The characters of a literal. -/
@[simp] theorem chars_ofChars (cs : List Char) : (ofChars cs).chars = cs := by
  simp only [chars, ofChars, Utf8.decode_encode, Option.get_some]

end Text

end PrivateBallot.Base
