import PrivateBallot.Base.Codec
import PrivateBallot.Protocol.Error

/-!
# Canonical CBOR subset

Library `Protocol`. `crates/protocol/src/cbor.rs`: a writer that only appends shortest-form
items and a strict reader over one byte string. A reader is the bytes it has not read yet
together with its offset; `Read` threads it as `&mut self` does, and a failed read ends the
decoding. `usize` is 64 bits wide, so `usize::try_from` of a `u64` never fails.
-/

namespace PrivateBallot.Protocol

open PrivateBallot.Base

private def invalidCbor {α : Type} (message : String) : Result α := fail .invalidCbor message

private def noncanonicalCbor {α : Type} (message : String) : Result α :=
  fail .nonCanonicalCbor message

private def unexpectedType {α : Type} (message : String) : Result α :=
  fail .unexpectedCborType message

def majorUnsigned : Nat := 0
def majorByteString : Nat := 2
def majorTextString : Nat := 3
def majorArray : Nat := 4
def majorMap : Nat := 5

/-- Shortest encoding of a major type with its argument; `crates/protocol/src/cbor.rs:27`. -/
def encodeArgument (major value : Nat) : Bytes :=
  if value ≤ 23 then [UInt8.ofNat (major * 32 + value)]
  else if value < 2 ^ 8 then UInt8.ofNat (major * 32 + 24) :: beBytes 1 value
  else if value < 2 ^ 16 then UInt8.ofNat (major * 32 + 25) :: beBytes 2 value
  else if value < 2 ^ 32 then UInt8.ofNat (major * 32 + 26) :: beBytes 4 value
  else UInt8.ofNat (major * 32 + 27) :: beBytes 8 value

/-! ### Writer items: the bytes each `write_*` call appends -/

/-- `write_unsigned` -/
def writeUnsigned (value : Nat) : Bytes := encodeArgument majorUnsigned value

/-- `write_byte_string` -/
def writeByteString (value : Bytes) : Bytes :=
  encodeArgument majorByteString value.length ++ value

/-- `write_text_string` -/
def writeTextString (value : Text) : Bytes :=
  encodeArgument majorTextString value.len ++ value.toBytes

/-- `write_array_len` -/
def writeArrayLen (length : Nat) : Bytes := encodeArgument majorArray length

/-- `write_map_len` -/
def writeMapLen (length : Nat) : Bytes := encodeArgument majorMap length

/-- `write_bool` -/
def writeBool (value : Bool) : Bytes := [if value then 0xf5 else 0xf4]

/-- The length of a major type with its argument. -/
def argumentLength (value : Nat) : Nat :=
  if value ≤ 23 then 1 else if value < 2 ^ 8 then 2 else if value < 2 ^ 16 then 3
  else if value < 2 ^ 32 then 5 else 9

theorem length_encodeArgument (major value : Nat) :
    (encodeArgument major value).length = argumentLength value := by
  unfold encodeArgument argumentLength
  split
  · simp
  · split
    · simp
    · split
      · simp
      · split
        · simp
        · simp

theorem argumentLength_le (value : Nat) : argumentLength value ≤ 9 := by
  unfold argumentLength
  split_ifs <;> omega

/-- The length of a byte or text string of this length. -/
def stringLength (length : Nat) : Nat := argumentLength length + length

theorem length_writeByteString (value : Bytes) :
    (writeByteString value).length = stringLength value.length := by
  rw [writeByteString, List.length_append, length_encodeArgument, stringLength]

theorem length_writeTextString (value : Text) :
    (writeTextString value).length = stringLength value.len := by
  rw [writeTextString, List.length_append, length_encodeArgument, stringLength, Text.len]

private theorem length_encodeArgument_le (major value : Nat) :
    (encodeArgument major value).length ≤ 9 := by
  rw [length_encodeArgument]
  exact argumentLength_le value

theorem length_writeUnsigned_le (value : Nat) : (writeUnsigned value).length ≤ 9 :=
  length_encodeArgument_le _ _

theorem length_writeArrayLen_le (length : Nat) : (writeArrayLen length).length ≤ 9 :=
  length_encodeArgument_le _ _

theorem length_writeByteString_le (value : Bytes) :
    (writeByteString value).length ≤ 9 + value.length := by
  have h := length_encodeArgument_le majorByteString value.length
  rw [writeByteString, List.length_append]
  omega

theorem length_writeTextString_le (value : Text) :
    (writeTextString value).length ≤ 9 + value.len := by
  have h := length_encodeArgument_le majorTextString value.len
  rw [writeTextString, List.length_append, Text.len] at *
  omega

/-! ### Reader -/

/-- Strict reader: the unread input and how much was read; `crates/protocol/src/cbor.rs:124`. -/
structure CanonicalCborReader where
  rest : Bytes
  offset : Nat
deriving DecidableEq

/-- A reader action: `&mut self` methods of `CanonicalCborReader`. -/
abbrev Read := StateT CanonicalCborReader (Except ProtocolError)

namespace CanonicalCborReader

/-- `CanonicalCborReader::new` -/
def new (input : Bytes) : CanonicalCborReader := ⟨input, 0⟩

/-- Requires all input bytes to have been consumed. -/
def finish (reader : CanonicalCborReader) : Result Unit :=
  refuseIf (!reader.rest.isEmpty) .trailingCborData
    "trailing bytes remain after the decoded CBOR value"

end CanonicalCborReader

/-- `read_byte` -/
def readByte : Read UInt8 := fun reader ↦
  match reader.rest with
  | [] => invalidCbor "truncated CBOR input"
  | b :: rest => .ok (b, ⟨rest, reader.offset + 1⟩)

/-- `take` and `read_exact`: the next `length` bytes. -/
def take (length : Nat) : Read Bytes := fun reader ↦
  if 2 ^ 64 ≤ reader.offset + length then invalidCbor "CBOR offset overflow"
  else if reader.rest.length < length then invalidCbor "truncated CBOR input"
  else .ok (reader.rest.take length, ⟨reader.rest.drop length, reader.offset + length⟩)

/-- The check that an argument uses its shortest encoding. -/
def shortest (least value : Nat) : Read Nat :=
  if value < least then
    noncanonicalCbor "CBOR argument does not use its shortest encoding"
  else pure value

/-- `read_argument`; `crates/protocol/src/cbor.rs:205`. -/
def readArgument (expectedMajor : Nat) : Read Nat := do
  let initial ← readByte
  let major := initial.toNat / 32
  let additional := initial.toNat % 32
  if major ≠ expectedMajor then
    unexpectedType "unexpected CBOR major type"
  else if additional ≤ 23 then pure additional
  else if additional = 24 then
    let value ← readByte
    shortest 24 value.toNat
  else if additional = 25 then
    let bytes ← take 2
    shortest (2 ^ 8) (ofBeBytes bytes)
  else if additional = 26 then
    let bytes ← take 4
    shortest (2 ^ 16) (ofBeBytes bytes)
  else if additional = 27 then
    let bytes ← take 8
    shortest (2 ^ 32) (ofBeBytes bytes)
  else if additional = 31 then
    noncanonicalCbor "indefinite-length CBOR items are not permitted"
  else invalidCbor "reserved CBOR additional information"

/-- `read_unsigned` -/
def readUnsigned : Read Nat := readArgument majorUnsigned

/-- `read_byte_string` -/
def readByteString : Read Bytes := do
  let length ← readArgument majorByteString
  take length

/-- `read_text_string` -/
def readTextString : Read Text := do
  let length ← readArgument majorTextString
  let bytes ← take length
  match Text.ofBytes? bytes with
  | some text => pure text
  | none => invalidCbor "CBOR text string is not valid UTF-8"

/-- `read_array_len` -/
def readArrayLen : Read Nat := readArgument majorArray

/-- `read_map_len` -/
def readMapLen : Read Nat := readArgument majorMap

/-- `read_bool` -/
def readBool : Read Bool := do
  let initial ← readByte
  if initial = 0xf4 then pure false
  else if initial = 0xf5 then pure true
  else unexpectedType "expected a CBOR boolean"

/-- A byte string of exactly 32 bytes, with the error for another length. -/
def readBytes32 (error : ProtocolError) : Read Bytes32 := do
  let bytes ← readByteString
  match Bytes32.ofBytes? bytes with
  | some digest => pure digest
  | none => (.error error : Result Bytes32)

/-- `.map_err(|_| error)` on a read. -/
def orError {ε α : Type} (error : ε) (read : Read α) : StateT CanonicalCborReader (Except ε) α :=
  fun reader ↦ (read reader).mapError fun _ ↦ error

/-- Runs a decoder over a whole byte string and requires that it reads all of it. -/
def readAll {α : Type} (decoder : Read α) (input : Bytes) : Result α := do
  let (value, reader) ← decoder (CanonicalCborReader.new input)
  reader.finish
  pure value

/-- `for pair in items.windows(2)` with one error for equal and one for descending keys. -/
def requireAscending {α : Type} (key : α → Bytes) (duplicate unordered : ProtocolError) :
    List α → Result Unit
  | a :: b :: rest =>
    if key a = key b then .error duplicate
    else if key b < key a then .error unordered
    else requireAscending key duplicate unordered (b :: rest)
  | _ => .ok ()

/-! ### What was written is read back -/

/-- The reader's input, with the offset below the `usize` limit. -/
instance : ByteSource CanonicalCborReader where
  Consumes s b t := s.rest = b ++ t.rest ∧ t.offset = s.offset + b.length ∧ t.offset < 2 ^ 64
  eq_of_nil := by
    rintro ⟨rest, offset⟩ ⟨rest', offset'⟩ ⟨hrest, hoffset, -⟩
    simp only [List.nil_append, List.length_nil, Nat.add_zero] at hrest hoffset
    rw [hrest, hoffset]
  split := by
    rintro s b c t ⟨hrest, hoffset, hlimit⟩
    rw [List.length_append] at hoffset
    refine ⟨⟨c ++ t.rest, s.offset + b.length⟩, ⟨?_, rfl, ?_⟩, rfl, ?_, hlimit⟩
    · rw [hrest, List.append_assoc]
    · dsimp only
      omega
    · dsimp only
      omega

/-- What is read stays below the offset limit. -/
theorem reads_of_length {α : Type} {d : Read α} {b : Bytes} {a : α}
    (h : b.length < 2 ^ 64 → Reads d b a) : Reads d b a := by
  intro s t hconsumes
  have ⟨_, hoffset, hlimit⟩ := hconsumes
  exact h (by omega) s t hconsumes

/-- A check that reads nothing. -/
theorem reads_lift {ε α : Type} {x : Except ε α} {a : α} (h : x = .ok a) :
    Reads (liftM x : StateT CanonicalCborReader (Except ε) α) [] a := by
  intro s t hconsumes
  rw [h, ByteSource.eq_of_nil hconsumes]
  rfl

theorem reads_readByte (b : UInt8) : Reads readByte [b] b := by
  rintro s t ⟨hrest, hoffset, -⟩
  simp only [readByte, hrest, List.cons_append, List.nil_append]
  rw [show s.offset + 1 = t.offset from hoffset.symm]

theorem reads_take (b : Bytes) : Reads (take b.length) b b := by
  rintro s t ⟨hrest, hoffset, hlimit⟩
  have hlen : ¬ s.rest.length < b.length := by
    rw [hrest, List.length_append]
    omega
  have hoff : ¬ 2 ^ 64 ≤ s.offset + b.length := by omega
  simp only [take, hoff, hlen, if_false]
  rw [hrest, List.take_left, List.drop_left, ← hoffset]

private theorem reads_shortest {least value : Nat} (h : least ≤ value) :
    Reads (shortest least value) [] value := by
  have hnot : ¬ value < least := by omega
  rw [shortest, if_neg hnot]
  exact Reads.pure value

-- The initial byte of an item: its major type and its additional information.
private theorem initial_byte {major additional : Nat} (hmajor : major < 8)
    (hadditional : additional < 32) :
    (UInt8.ofNat (major * 32 + additional)).toNat / 32 = major ∧
      (UInt8.ofNat (major * 32 + additional)).toNat % 32 = additional := by
  rw [UInt8.toNat_ofNat']
  omega

-- One case for each width of the argument.
/-- An argument is read back in its shortest form. -/
theorem reads_readArgument {major value : Nat} (hmajor : major < 8) (hvalue : value < 2 ^ 64) :
    Reads (readArgument major) (encodeArgument major value) value := by
  have htake : ∀ width, Reads (take width) (beBytes width value) (beBytes width value) := by
    intro width
    have h := reads_take (beBytes width value)
    rwa [length_beBytes] at h
  have hwide : ∀ width least : Nat, value < 256 ^ width → least ≤ value → Reads (do
        let bytes ← take width
        shortest least (ofBeBytes bytes)) (beBytes width value) value := by
    intro width least hfits hleast
    apply Reads.bind_nil (htake width)
    rw [ofBeBytes_beBytes width value hfits]
    exact reads_shortest hleast
  unfold encodeArgument readArgument
  by_cases h23 : value ≤ 23
  · obtain ⟨hdiv, hmod⟩ := initial_byte hmajor (show value < 32 by omega)
    rw [if_pos h23]
    apply (reads_readByte _).bind_nil
    simp only [hdiv, hmod, ne_eq, not_true_eq_false, if_false, h23, if_true]
    exact Reads.pure value
  · rw [if_neg h23]
    by_cases h8 : value < 2 ^ 8
    · obtain ⟨hdiv, hmod⟩ := initial_byte hmajor (show 24 < 32 by omega)
      rw [if_pos h8]
      apply Reads.bind (b := [UInt8.ofNat (major * 32 + 24)]) (c := beBytes 1 value)
        (reads_readByte _)
      simp only [hdiv, hmod, ne_eq, not_true_eq_false, if_false, if_true,
        show ¬ 24 ≤ 23 by omega]
      have hbyte : beBytes 1 value = [UInt8.ofNat value] := rfl
      have hvalue : (UInt8.ofNat value).toNat = value := by
        rw [UInt8.toNat_ofNat']
        omega
      rw [hbyte]
      apply (reads_readByte _).bind_nil
      rw [hvalue]
      exact reads_shortest (by omega)
    · rw [if_neg h8]
      by_cases h16 : value < 2 ^ 16
      · obtain ⟨hdiv, hmod⟩ := initial_byte hmajor (show 25 < 32 by omega)
        rw [if_pos h16]
        apply Reads.bind (b := [UInt8.ofNat (major * 32 + 25)]) (c := beBytes 2 value)
          (reads_readByte _)
        simp only [hdiv, hmod, ne_eq, not_true_eq_false, if_false, if_true,
          show ¬ 25 ≤ 23 by omega, show ¬ 25 = 24 by omega]
        exact hwide 2 (2 ^ 8) h16 (by omega)
      · rw [if_neg h16]
        by_cases h32 : value < 2 ^ 32
        · obtain ⟨hdiv, hmod⟩ := initial_byte hmajor (show 26 < 32 by omega)
          rw [if_pos h32]
          apply Reads.bind (b := [UInt8.ofNat (major * 32 + 26)]) (c := beBytes 4 value)
            (reads_readByte _)
          simp only [hdiv, hmod, ne_eq, not_true_eq_false, if_false, if_true,
            show ¬ 26 ≤ 23 by omega, show ¬ 26 = 24 by omega, show ¬ 26 = 25 by omega]
          exact hwide 4 (2 ^ 16) h32 (by omega)
        · obtain ⟨hdiv, hmod⟩ := initial_byte hmajor (show 27 < 32 by omega)
          rw [if_neg h32]
          apply Reads.bind (b := [UInt8.ofNat (major * 32 + 27)]) (c := beBytes 8 value)
            (reads_readByte _)
          simp only [hdiv, hmod, ne_eq, not_true_eq_false, if_false, if_true,
            show ¬ 27 ≤ 23 by omega, show ¬ 27 = 24 by omega, show ¬ 27 = 25 by omega,
            show ¬ 27 = 26 by omega]
          exact hwide 8 (2 ^ 32) (by omega) (by omega)

theorem reads_readUnsigned {value : Nat} (h : value < 2 ^ 64) :
    Reads readUnsigned (writeUnsigned value) value :=
  reads_readArgument (by decide) h

theorem reads_readArrayLen {length : Nat} (h : length < 2 ^ 64) :
    Reads readArrayLen (writeArrayLen length) length :=
  reads_readArgument (by decide) h

theorem reads_readByteString (value : Bytes) :
    Reads readByteString (writeByteString value) value := by
  apply reads_of_length
  intro hlen
  rw [writeByteString, List.length_append] at hlen
  exact (reads_readArgument (by decide) (by omega)).bind (reads_take value)

theorem reads_readTextString (value : Text) :
    Reads readTextString (writeTextString value) value := by
  apply reads_of_length
  intro hlen
  rw [writeTextString, List.length_append] at hlen
  apply (reads_readArgument (by decide) (by rw [Text.len]; omega)).bind
  apply (reads_take value.toBytes).bind_nil
  simp only [Text.ofBytes?_toBytes]
  exact Reads.pure value

theorem reads_readBool (value : Bool) : Reads readBool (writeBool value) value := by
  apply (reads_readByte _).bind_nil
  cases value with
  | false => exact Reads.pure false
  | true => exact Reads.pure true

theorem reads_readBytes32 (error : ProtocolError) (value : Bytes32) :
    Reads (readBytes32 error) (writeByteString value.toBytes) value := by
  apply (reads_readByteString _).bind_nil
  simp only [Bytes32.ofBytes?_toBytes]
  exact Reads.pure value

theorem reads_orError {ε α : Type} (error : ε) {d : Read α} {b : Bytes} {a : α}
    (h : Reads d b a) : Reads (orError error d) b a := by
  intro s t hconsumes
  rw [orError, h s t hconsumes]
  rfl

/-- A reader that takes a whole byte string leaves nothing of it. -/
theorem run_of_reads {ε α : Type} {d : StateT CanonicalCborReader (Except ε) α} {input : Bytes}
    {a : α} (h : Reads d input a) (hlen : input.length < 2 ^ 64) :
    d (CanonicalCborReader.new input) = .ok (a, ⟨[], input.length⟩) := by
  apply h
  refine ⟨(List.append_nil input).symm, ?_, hlen⟩
  simp only [CanonicalCborReader.new, Nat.zero_add]

/-- Bytes are read as one value only. -/
theorem eq_of_reads {ε α : Type} {d : StateT CanonicalCborReader (Except ε) α} {input : Bytes}
    {a b : α} (h : Reads d input a) (h' : Reads d input b) (hlen : input.length < 2 ^ 64) :
    a = b := by
  have hsame := (run_of_reads h hlen).symm.trans (run_of_reads h' hlen)
  rw [Except.ok.injEq, Prod.mk.injEq] at hsame
  exact hsame.1

/-- A decoder that reads a whole byte string. -/
theorem readAll_of_reads {α : Type} {decoder : Read α} {input : Bytes} {a : α}
    (h : Reads decoder input a) (hlen : input.length < 2 ^ 64) :
    readAll decoder input = .ok a := by
  simp only [readAll, run_of_reads h hlen, bind, Except.bind]
  rfl

/-- Strictly ascending items pass the order check. -/
theorem requireAscending_of_ascending {α : Type} {key : α → Bytes}
    {duplicate unordered : ProtocolError} {items : List α} (h : Ascending key items) :
    requireAscending key duplicate unordered items = .ok () := by
  induction items with
  | nil => rfl
  | cons a rest ih =>
    obtain ⟨hfirst, hrest⟩ := List.pairwise_cons.mp h
    cases rest with
    | nil => rfl
    | cons b rest =>
      have hlt : key a < key b := hfirst b List.mem_cons_self
      have hne : key a ≠ key b := fun heq ↦ absurd hlt (heq ▸ List.lt_irrefl (key b))
      have hnlt : ¬ key b < key a := List.lt_asymm hlt
      rw [requireAscending, if_neg hne, if_neg hnlt]
      exact ih hrest

/-- Items that pass the order check are strictly ascending. -/
theorem ascending_of_requireAscending {α : Type} {key : α → Bytes}
    {duplicate unordered : ProtocolError} {items : List α}
    (h : requireAscending key duplicate unordered items = .ok ()) : Ascending key items := by
  have htrans : IsTrans α fun a b ↦ key a < key b := ⟨fun _ _ _ ↦ List.lt_trans⟩
  apply List.isChain_iff_pairwise.mp
  induction items with
  | nil => exact .nil
  | cons a rest ih =>
    cases rest with
    | nil => exact .singleton a
    | cons b rest =>
      unfold requireAscending at h
      split at h
      · cases h
      next hne =>
      split at h
      · cases h
      next hnlt =>
      refine List.isChain_cons_cons.mpr ⟨?_, ih h⟩
      exact Std.lt_of_le_of_ne (List.not_lt.mp hnlt) hne

end PrivateBallot.Protocol
