import PrivateBallot.Protocol.Cbor

/-!
# Sequences of canonical CBOR items

Library `Protocol`. `crates/protocol/src/cbor.rs:27-304`: any sequence of writer calls against the
matching sequence of reader calls. Values and bytes determine each other, and a reader never
leaves its input.
-/

namespace PrivateBallot.Protocol

open PrivateBallot.Base

/-- The writer and reader operations. -/
inductive CborKind where
  | unsigned
  | byteString
  | textString
  | arrayLen
  | mapLen
  | bool
deriving DecidableEq, Repr

/-- A writer call with its argument, which is also what the matching reader call returns;
`u64` and `usize` are 64 bits wide. -/
inductive CborItem where
  | unsigned (value : UInt64)
  | byteString (value : Bytes)
  | textString (value : Text)
  | arrayLen (length : UInt64)
  | mapLen (length : UInt64)
  | bool (value : Bool)
deriving DecidableEq

namespace CborItem

/-- The operation an item belongs to. -/
def kind : CborItem → CborKind
  | unsigned _ => .unsigned
  | byteString _ => .byteString
  | textString _ => .textString
  | arrayLen _ => .arrayLen
  | mapLen _ => .mapLen
  | bool _ => .bool

/-- The bytes the writer call appends. -/
def write : CborItem → Bytes
  | unsigned value => writeUnsigned value.toNat
  | byteString value => writeByteString value
  | textString value => writeTextString value
  | arrayLen length => writeArrayLen length.toNat
  | mapLen length => writeMapLen length.toNat
  | bool value => writeBool value

/-- The reader call. -/
def read : CborKind → Read CborItem
  | .unsigned => do
    let value ← readUnsigned
    pure (unsigned (UInt64.ofNat value))
  | .byteString => do
    let value ← readByteString
    pure (byteString value)
  | .textString => do
    let value ← readTextString
    pure (textString value)
  | .arrayLen => do
    let length ← readArrayLen
    pure (arrayLen (UInt64.ofNat length))
  | .mapLen => do
    let length ← readMapLen
    pure (mapLen (UInt64.ofNat length))
  | .bool => do
    let value ← readBool
    pure (bool value)

/-- What a sequence of writer calls on a new writer leaves. -/
def writeAll (items : List CborItem) : Bytes := items.flatMap write

/-- A sequence of reader calls. -/
def readEach : List CborKind → Read (List CborItem)
  | [] => pure []
  | kind :: kinds => do
    let item ← read kind
    let items ← readEach kinds
    pure (item :: items)

end CborItem

/-- Every state a reader over `input` passes through: the two primitives that touch the input,
in any order. A call that fails has run some of them. -/
inductive ReaderRun (input : Bytes) : CanonicalCborReader → Prop
  | new : ReaderRun input (.new input)
  | readByte {reader next : CanonicalCborReader} {b : UInt8} (run : ReaderRun input reader)
      (h : Protocol.readByte reader = .ok (b, next)) : ReaderRun input next
  | take {reader next : CanonicalCborReader} {length : Nat} {b : Bytes}
      (run : ReaderRun input reader) (h : Protocol.take length reader = .ok (b, next)) :
      ReaderRun input next

/-! ### Inversion of the reader -/

section Inversion

variable {reader next : CanonicalCborReader}

/-- A successful sequence of two reader steps. -/
theorem read_bind_eq_ok {α β : Type} {d : Read α} {f : α → Read β} {v : β} :
    (d >>= f) reader = .ok (v, next) ↔
      ∃ a middle, d reader = .ok (a, middle) ∧ f a middle = .ok (v, next) :=
  run_bind_eq_ok

theorem readByte_eq_ok {b : UInt8} (h : readByte reader = .ok (b, next)) :
    reader.rest = b :: next.rest ∧ next.offset = reader.offset + 1 := by
  unfold readByte at h
  split at h
  · cases h
  · next hrest =>
    cases h
    exact ⟨hrest, rfl⟩

theorem take_eq_ok {length : Nat} {b : Bytes} (h : take length reader = .ok (b, next)) :
    reader.rest = b ++ next.rest ∧ b.length = length ∧
      next.offset = reader.offset + length ∧ next.offset < 2 ^ 64 := by
  unfold take at h
  split at h
  · cases h
  · next hoffset =>
    split at h
    · cases h
    · next hlength =>
      cases h
      refine ⟨(List.take_append_drop length reader.rest).symm, ?_, rfl, ?_⟩
      · rw [List.length_take]
        omega
      · exact Nat.not_le.mp hoffset

theorem shortest_eq_ok {least value result : Nat}
    (h : shortest least value reader = .ok (result, next)) :
    least ≤ value ∧ result = value ∧ next = reader := by
  unfold shortest at h
  split at h
  · cases h
  · next hleast =>
    cases h
    exact ⟨Nat.not_lt.mp hleast, rfl, rfl⟩

-- The bytes after the initial one, for one of the three wide forms.
private theorem wideArgument_eq_ok {width least value : Nat}
    (h : (do
      let bytes ← take width
      shortest least (ofBeBytes bytes) : Read Nat) reader = .ok (value, next)) :
    reader.rest = beBytes width value ++ next.rest ∧ least ≤ value ∧ value < 256 ^ width := by
  obtain ⟨bytes, middle, htake, hshortest⟩ := read_bind_eq_ok.mp h
  obtain ⟨hrest, rfl, -, -⟩ := take_eq_ok htake
  obtain ⟨hleast, rfl, rfl⟩ := shortest_eq_ok hshortest
  refine ⟨?_, hleast, ofBeBytes_lt bytes⟩
  rw [beBytes_ofBeBytes]
  exact hrest

-- The initial byte is determined by its two parts.
private theorem initial_eq {initial : UInt8} {major additional : Nat}
    (hmajor : initial.toNat / 32 = major) (hadditional : initial.toNat % 32 = additional) :
    initial = UInt8.ofNat (major * 32 + additional) := by
  apply UInt8.toNat_inj.mp
  have hlt := initial.toNat_lt
  rw [UInt8.toNat_ofNat']
  omega

-- One case for each form; the least value of a form is the limit of the one before it.
/-- An argument that was read is there in its shortest form. -/
theorem readArgument_eq_ok {major value : Nat}
    (h : readArgument major reader = .ok (value, next)) :
    reader.rest = encodeArgument major value ++ next.rest ∧ value < 2 ^ 64 := by
  obtain ⟨initial, middle, hinitial, h⟩ := read_bind_eq_ok.mp h
  obtain ⟨hrest, -⟩ := readByte_eq_ok hinitial
  by_cases hmajor : initial.toNat / 32 ≠ major
  · rw [if_pos hmajor] at h
    cases h
  rw [if_neg hmajor] at h
  have hmajor := not_not.mp hmajor
  by_cases h23 : initial.toNat % 32 ≤ 23
  · rw [if_pos h23] at h
    cases h
    have hbyte := initial_eq hmajor rfl
    refine ⟨?_, by omega⟩
    rw [encodeArgument, if_pos h23, List.singleton_append, hrest, ← hbyte]
  rw [if_neg h23] at h
  by_cases h24 : initial.toNat % 32 = 24
  · rw [if_pos h24] at h
    obtain ⟨b, final, hb, hshortest⟩ := read_bind_eq_ok.mp h
    obtain ⟨hrest', -⟩ := readByte_eq_ok hb
    obtain ⟨hleast, rfl, rfl⟩ := shortest_eq_ok hshortest
    have hlt := b.toNat_lt
    have hbyte := initial_eq hmajor h24
    have hvalue : beBytes 1 b.toNat = [b] := by
      show [UInt8.ofNat b.toNat] = [b]
      rw [UInt8.ofNat_toNat]
    refine ⟨?_, by omega⟩
    rw [encodeArgument, if_neg (by omega), if_pos (by omega), hvalue, hrest, hrest', hbyte]
    rfl
  rw [if_neg h24] at h
  by_cases h25 : initial.toNat % 32 = 25
  · rw [if_pos h25] at h
    obtain ⟨hrest', hleast, hlt⟩ := wideArgument_eq_ok h
    have hbyte := initial_eq hmajor h25
    refine ⟨?_, by omega⟩
    rw [encodeArgument, if_neg (by omega), if_neg (by omega), if_pos (by omega), hrest, hrest',
      hbyte]
    rfl
  rw [if_neg h25] at h
  by_cases h26 : initial.toNat % 32 = 26
  · rw [if_pos h26] at h
    obtain ⟨hrest', hleast, hlt⟩ := wideArgument_eq_ok h
    have hbyte := initial_eq hmajor h26
    refine ⟨?_, by omega⟩
    rw [encodeArgument, if_neg (by omega), if_neg (by omega), if_neg (by omega),
      if_pos (by omega), hrest, hrest', hbyte]
    rfl
  rw [if_neg h26] at h
  by_cases h27 : initial.toNat % 32 = 27
  · rw [if_pos h27] at h
    obtain ⟨hrest', hleast, hlt⟩ := wideArgument_eq_ok h
    have hbyte := initial_eq hmajor h27
    refine ⟨?_, by omega⟩
    rw [encodeArgument, if_neg (by omega), if_neg (by omega), if_neg (by omega),
      if_neg (by omega), hrest, hrest', hbyte]
    rfl
  rw [if_neg h27] at h
  by_cases h31 : initial.toNat % 32 = 31
  · rw [if_pos h31] at h
    cases h
  · rw [if_neg h31] at h
    cases h

theorem readByteString_eq_ok {value : Bytes} (h : readByteString reader = .ok (value, next)) :
    reader.rest = writeByteString value ++ next.rest := by
  obtain ⟨length, start, hlength, htake⟩ := read_bind_eq_ok.mp h
  obtain ⟨hrest, -⟩ := readArgument_eq_ok hlength
  obtain ⟨hrest', rfl, -, -⟩ := take_eq_ok htake
  rw [hrest, hrest', ← List.append_assoc]
  rfl

theorem readTextString_eq_ok {value : Text} (h : readTextString reader = .ok (value, next)) :
    reader.rest = writeTextString value ++ next.rest := by
  obtain ⟨length, start, hlength, hread⟩ := read_bind_eq_ok.mp h
  obtain ⟨bytes, final, htake, htext⟩ := read_bind_eq_ok.mp hread
  obtain ⟨hrest, -⟩ := readArgument_eq_ok hlength
  obtain ⟨hrest', rfl, -, -⟩ := take_eq_ok htake
  cases hvalid : Text.ofBytes? bytes with
  | none =>
    rw [hvalid] at htext
    cases htext
  | some text =>
    rw [hvalid] at htext
    cases htext
    have hbytes := Text.toBytes_of_ofBytes? hvalid
    rw [hrest, hrest', ← List.append_assoc, ← hbytes]
    rfl

theorem readBool_eq_ok {value : Bool} (h : readBool reader = .ok (value, next)) :
    reader.rest = writeBool value ++ next.rest := by
  obtain ⟨initial, start, hinitial, hread⟩ := read_bind_eq_ok.mp h
  obtain ⟨hrest, -⟩ := readByte_eq_ok hinitial
  split at hread
  · next hfalse =>
    cases hread
    rw [hrest, hfalse]
    rfl
  · split at hread
    · next htrue =>
      cases hread
      rw [hrest, htrue]
      rfl
    · cases hread

/-- A check in the middle of a reader that succeeded held, and it read nothing. -/
theorem lift_eq_ok {α : Type} {x : Result α} {a : α}
    (h : (liftM x : Read α) reader = .ok (a, next)) : x = .ok a ∧ next = reader := by
  cases x with
  | error e => cases h
  | ok b =>
    cases h
    exact ⟨rfl, rfl⟩

/-- A counted loop read its items one after the other. -/
theorem rest_of_readMany {α : Type} {item : Read α} {write : α → Bytes}
    (hitem : ∀ {reader next : CanonicalCborReader} {value : α},
      item reader = .ok (value, next) → reader.rest = write value ++ next.rest)
    {count : Nat} {values : List α} (h : readMany item count reader = .ok (values, next)) :
    reader.rest = values.flatMap write ++ next.rest := by
  induction count generalizing reader values with
  | zero =>
    cases h
    rfl
  | succ count ih =>
    obtain ⟨first, middle, hfirst, hothers⟩ := read_bind_eq_ok.mp h
    obtain ⟨others, last, hothers, hvalues⟩ := read_bind_eq_ok.mp hothers
    cases hvalues
    rw [hitem hfirst, ih hothers, List.flatMap_cons, List.append_assoc]

/-- A decoder that read a whole byte string left nothing of it. -/
theorem readAll_eq_ok {α : Type} {decoder : Read α} {input : Bytes} {a : α}
    (h : readAll decoder input = .ok a) :
    ∃ next, decoder (CanonicalCborReader.new input) = .ok (a, next) ∧ next.rest = [] := by
  simp only [readAll, bind_eq_ok] at h
  obtain ⟨⟨value, last⟩, hread, _, hfinish, hvalue⟩ := h
  cases hvalue
  refine ⟨last, hread, ?_⟩
  simpa [CanonicalCborReader.finish] using hfinish

end Inversion

namespace CborItem

variable {reader next : CanonicalCborReader}

/-- A written item is read back. -/
theorem reads_read (item : CborItem) : Reads (read item.kind) item.write item := by
  cases item with
  | unsigned value =>
    apply (reads_readUnsigned value.toNat_lt).bind_nil
    rw [UInt64.ofNat_toNat]
    exact Reads.pure _
  | byteString value => exact (reads_readByteString value).bind_nil (Reads.pure _)
  | textString value => exact (reads_readTextString value).bind_nil (Reads.pure _)
  | arrayLen length =>
    apply (reads_readArrayLen length.toNat_lt).bind_nil
    rw [UInt64.ofNat_toNat]
    exact Reads.pure _
  | mapLen length =>
    apply (reads_readArgument (by decide) length.toNat_lt).bind_nil
    rw [UInt64.ofNat_toNat]
    exact Reads.pure _
  | bool value => exact (reads_readBool value).bind_nil (Reads.pure _)

theorem reads_readEach (items : List CborItem) :
    Reads (readEach (items.map kind)) (writeAll items) items := by
  induction items with
  | nil => exact Reads.pure []
  | cons item items ih =>
    rw [writeAll, List.flatMap_cons]
    apply (reads_read item).bind
    exact ih.bind_nil (Reads.pure _)

private theorem readArgument_ofNat {major value : Nat}
    (h : readArgument major reader = .ok (value, next)) :
    reader.rest = encodeArgument major (UInt64.ofNat value).toNat ++ next.rest := by
  obtain ⟨hrest, hlt⟩ := readArgument_eq_ok h
  rw [UInt64.toNat_ofNat', Nat.mod_eq_of_lt hlt]
  exact hrest

/-- What was read is what the writer writes for it. -/
theorem read_eq_ok {kind : CborKind} {item : CborItem}
    (h : read kind reader = .ok (item, next)) :
    item.kind = kind ∧ reader.rest = item.write ++ next.rest := by
  cases kind with
  | unsigned =>
    obtain ⟨value, middle, hread, hitem⟩ := read_bind_eq_ok.mp h
    cases hitem
    exact ⟨rfl, readArgument_ofNat hread⟩
  | byteString =>
    obtain ⟨value, middle, hread, hitem⟩ := read_bind_eq_ok.mp h
    cases hitem
    exact ⟨rfl, readByteString_eq_ok hread⟩
  | textString =>
    obtain ⟨value, middle, hread, hitem⟩ := read_bind_eq_ok.mp h
    cases hitem
    exact ⟨rfl, readTextString_eq_ok hread⟩
  | arrayLen =>
    obtain ⟨value, middle, hread, hitem⟩ := read_bind_eq_ok.mp h
    cases hitem
    exact ⟨rfl, readArgument_ofNat hread⟩
  | mapLen =>
    obtain ⟨value, middle, hread, hitem⟩ := read_bind_eq_ok.mp h
    cases hitem
    exact ⟨rfl, readArgument_ofNat hread⟩
  | bool =>
    obtain ⟨value, middle, hread, hitem⟩ := read_bind_eq_ok.mp h
    cases hitem
    exact ⟨rfl, readBool_eq_ok hread⟩

theorem readEach_eq_ok {kinds : List CborKind} {items : List CborItem}
    (h : readEach kinds reader = .ok (items, next)) :
    items.map kind = kinds ∧ reader.rest = writeAll items ++ next.rest := by
  induction kinds generalizing reader items with
  | nil =>
    cases h
    exact ⟨rfl, rfl⟩
  | cons first kinds ih =>
    obtain ⟨item, middle, hitem, h⟩ := read_bind_eq_ok.mp h
    obtain ⟨rest, final, hitems, hlast⟩ := read_bind_eq_ok.mp h
    cases hlast
    obtain ⟨rfl, hrest⟩ := read_eq_ok hitem
    obtain ⟨rfl, hrest'⟩ := ih hitems
    refine ⟨rfl, ?_⟩
    rw [hrest, hrest']
    simp only [writeAll, List.flatMap_cons, List.append_assoc]

end CborItem

/-! ### Staying inside the input -/

/-- The reader is at its offset in the input. -/
theorem ReaderRun.inside {input : Bytes} {reader : CanonicalCborReader}
    (run : ReaderRun input reader) :
    reader.rest = input.drop reader.offset ∧ reader.offset ≤ input.length := by
  induction run with
  | new => exact ⟨rfl, Nat.zero_le _⟩
  | readByte run h ih =>
    obtain ⟨hrest, hoffset⟩ := readByte_eq_ok h
    obtain ⟨hdrop, hle⟩ := ih
    rw [hrest] at hdrop
    rw [hoffset]
    constructor
    · rw [← List.drop_drop, ← hdrop]
      rfl
    · have hlen := congrArg List.length hdrop
      rw [List.length_cons, List.length_drop] at hlen
      omega
  | take run h ih =>
    obtain ⟨hrest, hlength, hoffset, -⟩ := take_eq_ok h
    obtain ⟨hdrop, hle⟩ := ih
    rw [hrest] at hdrop
    rw [hoffset]
    constructor
    · rw [← List.drop_drop, ← hdrop, ← hlength, List.drop_left]
    · have hlen := congrArg List.length hdrop
      rw [List.length_append, List.length_drop] at hlen
      omega

/-- The reader step is made of the two primitives. -/
def Passes {α : Type} (d : Read α) : Prop :=
  ∀ input reader a next, ReaderRun input reader → d reader = .ok (a, next) → ReaderRun input next

theorem Passes.bind {α β : Type} {d : Read α} {f : α → Read β} (hd : Passes d)
    (hf : ∀ a, Passes (f a)) : Passes (d >>= f) := by
  intro input reader v next run h
  obtain ⟨a, middle, hfirst, hsecond⟩ := read_bind_eq_ok.mp h
  exact hf a input middle v next (hd input reader a middle run hfirst) hsecond

theorem passes_pure {α : Type} (a : α) : Passes (pure a : Read α) := by
  intro input reader v next run h
  cases h
  exact run

theorem passes_error {α : Type} (e : ProtocolError) :
    Passes (liftM (Except.error e : Result α) : Read α) := by
  intro input reader v next run h
  cases h

theorem passes_readByte : Passes readByte := fun _ _ _ _ run h ↦ run.readByte h

theorem passes_take (length : Nat) : Passes (take length) := fun _ _ _ _ run h ↦ run.take h

theorem passes_shortest (least value : Nat) : Passes (shortest least value) := by
  intro input reader v next run h
  obtain ⟨-, -, rfl⟩ := shortest_eq_ok h
  exact run

theorem Passes.ite {α : Type} {c : Prop} [Decidable c] {d e : Read α} (hd : Passes d)
    (he : Passes e) : Passes (if c then d else e) := by
  by_cases h : c
  · rw [if_pos h]
    exact hd
  · rw [if_neg h]
    exact he

theorem passes_readArgument (major : Nat) : Passes (readArgument major) := by
  have hwide : ∀ width least, Passes (do
      let bytes ← take width
      shortest least (ofBeBytes bytes) : Read Nat) :=
    fun width least ↦ (passes_take width).bind fun _ ↦ passes_shortest _ _
  apply passes_readByte.bind
  intro initial
  apply (passes_error _).ite
  apply (passes_pure _).ite
  apply (passes_readByte.bind fun _ ↦ passes_shortest _ _).ite
  apply (hwide 2 _).ite
  apply (hwide 4 _).ite
  apply (hwide 8 _).ite
  exact (passes_error _).ite (passes_error _)

/-- Every reader call is made of the two primitives. -/
theorem CborItem.passes_read (kind : CborKind) : Passes (CborItem.read kind) := by
  cases kind with
  | unsigned => exact (passes_readArgument _).bind fun _ ↦ passes_pure _
  | byteString =>
    exact ((passes_readArgument _).bind fun _ ↦ passes_take _).bind fun _ ↦ passes_pure _
  | textString =>
    refine ((passes_readArgument _).bind fun _ ↦ (passes_take _).bind fun bytes ↦ ?_).bind
      fun _ ↦ passes_pure _
    split
    · exact passes_pure _
    · exact passes_error _
  | arrayLen => exact (passes_readArgument _).bind fun _ ↦ passes_pure _
  | mapLen => exact (passes_readArgument _).bind fun _ ↦ passes_pure _
  | bool =>
    refine (passes_readByte.bind fun initial ↦ ?_).bind fun _ ↦ passes_pure _
    split
    · exact passes_pure _
    · split
      · exact passes_pure _
      · exact passes_error _

theorem CborItem.passes_readEach (kinds : List CborKind) : Passes (CborItem.readEach kinds) := by
  induction kinds with
  | nil => exact passes_pure []
  | cons kind kinds ih =>
    exact (CborItem.passes_read kind).bind fun _ ↦ ih.bind fun _ ↦ passes_pure _

/-- The subset is a bijection between sequences of values and the byte strings the reader accepts
to their end. What any sequence of writer calls produced, the matching reader calls return, and
they consume all of it; what any sequence of reader calls accepted to the end is what the writer
produces for the returned values; and no reader is ever outside its input or past the `usize`
range. A Rust byte slice has fewer than `2 ^ 63` bytes. -/
theorem canonicalCbor_bijective (items : List CborItem) (kinds : List CborKind) (input : Bytes)
    (hwritten : (CborItem.writeAll items).length < 2 ^ 63) (hinput : input.length < 2 ^ 63) :
    readAll (CborItem.readEach (items.map CborItem.kind)) (CborItem.writeAll items) = .ok items ∧
      (∀ returned, readAll (CborItem.readEach kinds) input = .ok returned →
        returned.map CborItem.kind = kinds ∧ CborItem.writeAll returned = input) ∧
      (∀ reader, ReaderRun input reader →
        reader.rest = input.drop reader.offset ∧ reader.offset ≤ input.length ∧
          reader.offset + 1 < 2 ^ 64 ∧
          ∀ returned next, CborItem.readEach kinds reader = .ok (returned, next) →
            ReaderRun input next) := by
  refine ⟨?_, ?_, ?_⟩
  · exact readAll_of_reads (CborItem.reads_readEach items) (by omega)
  · intro returned h
    obtain ⟨next, hread, hend⟩ := readAll_eq_ok h
    obtain ⟨hkinds, hrest⟩ := CborItem.readEach_eq_ok hread
    rw [hend, List.append_nil] at hrest
    exact ⟨hkinds, hrest.symm⟩
  · intro reader run
    obtain ⟨hrest, hle⟩ := run.inside
    refine ⟨hrest, hle, by omega, ?_⟩
    intro returned next h
    exact CborItem.passes_readEach kinds input reader returned next run h

/-- Two items with the four widths around their limits are written and read back, and the bytes
determine them. -/
theorem canonicalCbor_bijective_sample :
    let items : List CborItem := [.arrayLen 24, .unsigned 65536, .textString (.lit "ab"),
      .byteString [1, 2], .bool true]
    CborItem.writeAll items =
        [0x98, 0x18, 0x1a, 0, 1, 0, 0, 0x62, 0x61, 0x62, 0x42, 1, 2, 0xf5] ∧
      readAll (CborItem.readEach (items.map CborItem.kind)) (CborItem.writeAll items) =
        .ok items := by
  intro items
  refine ⟨by decide +kernel, ?_⟩
  exact (canonicalCbor_bijective items [] [] (by decide +kernel) (by decide)).1

end PrivateBallot.Protocol
