import PrivateBallot.OotleAnchor.CanonicalJson

/-!
# The text of canonical JSON

Library `OotleAnchor`. What the writer appends for a string, a member, an object and an array, and
that the parser takes each of them back (`Takes`) and never faults (`Safe`).
-/

namespace PrivateBallot.OotleAnchor

open PrivateBallot.Base PrivateBallot.Protocol

namespace CanonicalJsonWriter

/-- A string in quotes. -/
def quoted (value : Text) : Bytes := [0x22] ++ (value.toBytes.flatMap escape ++ [0x22])

/-- A key with its colon. -/
def keyed (key : Text) : Bytes := quoted key ++ [0x3a]

/-- Members or elements between two brackets. -/
def bracketed (opening closing : UInt8) (xs : List Bytes) : Bytes :=
  [opening] ++ ([0x2c].intercalate xs ++ [closing])

/-- One more member or element. -/
def add (writer : CanonicalJsonWriter) (x : Bytes) : CanonicalJsonWriter :=
  { writer with
    bytes := writer.bytes ++ ((if writer.needsComma then [0x2c] else []) ++ x)
    needsComma := true }

theorem writeKey_eq (writer : CanonicalJsonWriter) (key : Text) :
    writer.writeKey key = writer.add (keyed key) := by
  cases hcomma : writer.needsComma <;>
    simp [writeKey, pushSeparator, writeString, push, add, keyed, quoted, hcomma]

theorem push_add (writer : CanonicalJsonWriter) (x y : Bytes) :
    (writer.add x).push y = writer.add (x ++ y) := by
  simp only [push, add, List.append_assoc]

/-- `"key":"value"` -/
def stringMember (key value : Text) : Bytes := keyed key ++ quoted value

theorem fieldString_eq (writer : CanonicalJsonWriter) (key value : Text) :
    writer.fieldString key value = writer.add (stringMember key value) := by
  rw [stringMember, fieldString, writeKey_eq, writeString, push_add, push_add, push_add, quoted,
    List.append_assoc, List.append_assoc]

/-- `"key":value` -/
def numberMember (key : Text) (value : UInt64) : Bytes := keyed key ++ Ascii.decimal value.toNat

theorem fieldU64_eq (writer : CanonicalJsonWriter) (key : Text) (value : UInt64) :
    writer.fieldU64 key value = writer.add (numberMember key value) := by
  rw [numberMember, fieldU64, writeKey_eq, writeU64, push_add]

/-- The word for a truth value. -/
def boolWord (value : Bool) : Bytes :=
  if value then (Text.lit "true").toBytes else (Text.lit "false").toBytes

theorem fieldBool_eq (writer : CanonicalJsonWriter) (key : Text) (value : Bool) :
    writer.fieldBool key value = writer.add (keyed key ++ boolWord value) := by
  rw [fieldBool, writeKey_eq, push_add, boolWord]

/-- The digits of a number, or the word for none. -/
def optWord : Option UInt64 → Bytes
  | some number => Ascii.decimal number.toNat
  | none => (Text.lit "null").toBytes

theorem fieldOptU64_eq (writer : CanonicalJsonWriter) (key : Text) (value : Option UInt64) :
    writer.fieldOptU64 key value = writer.add (keyed key ++ optWord value) := by
  cases value with
  | none => rw [fieldOptU64, writeKey_eq, push_add, optWord]
  | some number => rw [fieldOptU64, writeKey_eq, writeU64, push_add, optWord]

private theorem escape_of_plain {b : UInt8} (h : 0x20 ≤ b ∧ b ≠ 0x22 ∧ b ≠ 0x5c) :
    escape b = [b] := by
  obtain ⟨hctl, hquote, hslash⟩ := h
  have hne : ∀ c : UInt8, c < 0x20 → b ≠ c := fun c hc hbc ↦
    UInt8.not_lt.mpr hctl (hbc ▸ hc)
  rw [escape, if_neg hquote, if_neg hslash, if_neg (hne 0x0a (by decide)),
    if_neg (hne 0x0d (by decide)), if_neg (hne 0x09 (by decide)), if_neg (hne 0x08 (by decide)),
    if_neg (hne 0x0c (by decide)), if_neg (UInt8.not_lt.mpr hctl)]

/-- The forms of an escaped byte: a short escape, a control byte as two digits, or the byte. -/
theorem escape_cases (b : UInt8) :
    (∃ c, (0x20 ≤ c ∧ c < 0x80) ∧ escape b = [0x5c, c]) ∨
    (escape b = [0x5c, 0x75, 0x30, 0x30, Hex.digit (b.toNat / 16), Hex.digit (b.toNat % 16)]) ∨
    (0x20 ≤ b ∧ escape b = [b]) := by
  by_cases h1 : b = 0x22
  · exact .inl ⟨0x22, by decide, by rw [escape, if_pos h1]⟩
  by_cases h2 : b = 0x5c
  · exact .inl ⟨0x5c, by decide, by rw [escape, if_neg h1, if_pos h2]⟩
  by_cases h3 : b = 0x0a
  · exact .inl ⟨0x6e, by decide, by rw [escape, if_neg h1, if_neg h2, if_pos h3]⟩
  by_cases h4 : b = 0x0d
  · exact .inl ⟨0x72, by decide, by rw [escape, if_neg h1, if_neg h2, if_neg h3, if_pos h4]⟩
  by_cases h5 : b = 0x09
  · exact .inl ⟨0x74, by decide, by
      rw [escape, if_neg h1, if_neg h2, if_neg h3, if_neg h4, if_pos h5]⟩
  by_cases h6 : b = 0x08
  · exact .inl ⟨0x62, by decide, by
      rw [escape, if_neg h1, if_neg h2, if_neg h3, if_neg h4, if_neg h5, if_pos h6]⟩
  by_cases h7 : b = 0x0c
  · exact .inl ⟨0x66, by decide, by
      rw [escape, if_neg h1, if_neg h2, if_neg h3, if_neg h4, if_neg h5, if_neg h6, if_pos h7]⟩
  right
  by_cases h8 : b < 0x20
  · left
    rw [escape, if_neg h1, if_neg h2, if_neg h3, if_neg h4, if_neg h5, if_neg h6, if_neg h7,
      if_pos h8]
  · right
    refine ⟨UInt8.not_lt.mp h8, ?_⟩
    rw [escape, if_neg h1, if_neg h2, if_neg h3, if_neg h4, if_neg h5, if_neg h6, if_neg h7,
      if_neg h8]

theorem escape_ne_nil (b : UInt8) : escape b ≠ [] := by
  rcases escape_cases b with ⟨c, -, h⟩ | h | ⟨-, h⟩
  · rw [h]
    exact List.cons_ne_nil _ _
  · rw [h]
    exact List.cons_ne_nil _ _
  · rw [h]
    exact List.cons_ne_nil _ _

/-- Text without quotes, backslashes and control bytes is written as it is. -/
theorem flatMap_escape {bytes : Bytes} (h : ∀ b ∈ bytes, 0x20 ≤ b ∧ b ≠ 0x22 ∧ b ≠ 0x5c) :
    bytes.flatMap escape = bytes := by
  induction bytes with
  | nil => rfl
  | cons b bytes ih =>
    rw [List.forall_mem_cons] at h
    rw [List.flatMap_cons, escape_of_plain h.1, ih h.2]
    rfl

private theorem plain_of_mem_encode {bytes : Bytes} :
    ∀ b ∈ Hex.encode bytes, 0x20 ≤ b ∧ b ≠ 0x22 ∧ b ≠ 0x5c := by
  have hall : ∀ d : Fin 16, 0x20 ≤ Hex.digit d ∧ Hex.digit d ≠ 0x22 ∧ Hex.digit d ≠ 0x5c := by
    decide
  intro b hb
  obtain ⟨a, -, hmem⟩ := List.mem_flatMap.mp hb
  have ha := a.toNat_lt
  simp only [List.mem_cons, List.not_mem_nil, or_false] at hmem
  rcases hmem with rfl | rfl
  · exact hall ⟨a.toNat / 16, by omega⟩
  · exact hall ⟨a.toNat % 16, by omega⟩

/-- Digits need no escape. -/
theorem fieldLowerHex_eq (writer : CanonicalJsonWriter) (key : Text) (bytes : Bytes) :
    writer.fieldLowerHex key bytes = writer.add (stringMember key (Hex.text bytes)) := by
  rw [stringMember, fieldLowerHex, writeKey_eq, push_add, push_add, push_add, quoted, Hex.text,
    flatMap_escape plain_of_mem_encode, List.append_assoc, List.append_assoc]

/-- Members one after the other. -/
def addAll (writer : CanonicalJsonWriter) (xs : List Bytes) : CanonicalJsonWriter :=
  xs.foldl add writer

private theorem addAll_of_comma (xs : List Bytes) :
    ∀ writer : CanonicalJsonWriter, writer.needsComma = true → addAll writer xs =
      { writer with bytes := writer.bytes ++ xs.flatMap fun x ↦ [0x2c] ++ x } := by
  induction xs with
  | nil =>
    intro writer hcomma
    simp [addAll]
  | cons x xs ih =>
    intro writer hcomma
    rw [addAll, List.foldl_cons, ← addAll, ih _ rfl]
    simp [add, hcomma]

/-- A comma before each but the first. -/
theorem intercalate_cons (x : Bytes) (xs : List Bytes) :
    [0x2c].intercalate (x :: xs) = x ++ xs.flatMap fun y ↦ [0x2c] ++ y := by
  induction xs generalizing x with
  | nil => simp [List.intercalate_singleton]
  | cons y xs ih =>
    rw [List.intercalate_cons_cons, ih y, List.flatMap_cons]
    simp

/-- Separators stand between members only. -/
theorem addAll_of_open {writer : CanonicalJsonWriter} (hcomma : writer.needsComma = false)
    (xs : List Bytes) : (addAll writer xs).bytes = writer.bytes ++ [0x2c].intercalate xs ∧
      (addAll writer xs).stack = writer.stack := by
  cases xs with
  | nil => simp [addAll]
  | cons x xs =>
    have hadd : addAll writer (x :: xs) = addAll (writer.add x) xs := rfl
    rw [hadd, addAll_of_comma xs _ rfl, intercalate_cons]
    simp [add, hcomma]

/-- An object in an array or at the top. -/
theorem endObject_addAll (writer : CanonicalJsonWriter) (xs : List Bytes) :
    (addAll writer.beginObject xs).endObject = writer.add (bracketed 0x7b 0x7d xs) := by
  obtain ⟨hbytes, hstack⟩ := addAll_of_open (show writer.beginObject.needsComma = false from rfl) xs
  rw [endObject, push, hbytes, hstack]
  cases hcomma : writer.needsComma <;>
    simp [beginObject, pushSeparator, push, add, bracketed, hcomma]

/-- An array under a key. -/
theorem endArray_addAll (writer : CanonicalJsonWriter) (key : Text) (xs : List Bytes) :
    (addAll (writer.beginArrayField key) xs).endArray =
      writer.add (keyed key ++ bracketed 0x5b 0x5d xs) := by
  obtain ⟨hbytes, hstack⟩ := addAll_of_open
    (show (writer.beginArrayField key).needsComma = false from rfl) xs
  rw [endArray, push, hbytes, hstack, beginArrayField, writeKey_eq, push_add]
  simp [add, bracketed]

end CanonicalJsonWriter

namespace CanonicalJsonParser

open Cursor CanonicalJsonWriter

/-! ### Bytes and keys -/

variable {P : Bytes → Prop}

private theorem getElem?_behind (before rest : Bytes) (b : UInt8) :
    (before ++ ([b] ++ rest))[before.length]? = some b := by
  rw [List.getElem?_append_right (Nat.le_refl _), Nat.sub_self]
  rfl

private theorem peekByte_apply {bytes : Bytes} {pos : Nat} {b : UInt8}
    (h : bytes[pos]? = some b) : peekByte bytes pos = .ok (b, pos) := by
  rw [peekByte, bind_of_ok (p := peek) rfl]
  simp only [h]
  rfl

private theorem peekByte_of_none {bytes : Bytes} {pos : Nat} (h : bytes[pos]? = none) :
    peekByte bytes pos =
      .error (.refused (invalidJson "V2 public payload ended unexpectedly")) := by
  rw [peekByte, bind_of_ok (p := peek) rfl]
  simp only [h]
  rfl

theorem takes_takeByte (b : UInt8) : Takes P takeByte [b] b := by
  intro before rest hbytes hrest
  have hlen : before.length < 2 ^ 63 := by
    rw [List.length_append] at hbytes
    omega
  rw [takeByte, bind_of_ok (peekByte_apply (getElem?_behind before rest b)),
    bind_of_ok (advance_apply (by omega) _), List.length_append, List.length_singleton]
  rfl

theorem takes_consumeByte (b : UInt8) : Takes P (consumeByte b) [b] () := by
  intro before rest hbytes hrest
  have hlen : before.length < 2 ^ 63 := by
    rw [List.length_append] at hbytes
    omega
  rw [consumeByte, bind_of_ok (peekByte_apply (getElem?_behind before rest b)),
    if_neg (not_not_intro rfl), advance_apply (by omega), List.length_append,
    List.length_singleton]

theorem safe_peekByte : Safe peekByte := by
  intro bytes pos hbytes hpos
  cases h : bytes[pos]? with
  | none => exact .inl ⟨_, peekByte_of_none h⟩
  | some b => exact .inr ⟨b, pos, peekByte_apply h, Nat.le_refl pos, hpos⟩

/-- A byte that is taken was there. -/
theorem advances_takeByte : Advances (fun _ ↦ 1) takeByte := by
  intro bytes pos hbytes hpos
  cases h : bytes[pos]? with
  | none => exact .inl ⟨_, bind_of_error (peekByte_of_none h)⟩
  | some b =>
    have hlt : pos < bytes.length := (List.getElem?_eq_some_iff.mp h).1
    refine .inr ⟨b, pos + 1, ?_, Nat.le_refl _, hlt⟩
    rw [takeByte, bind_of_ok (peekByte_apply h), bind_of_ok (advance_apply (by omega) _)]
    rfl

theorem advances_consumeByte (expected : UInt8) : Advances (fun _ ↦ 1) (consumeByte expected) := by
  intro bytes pos hbytes hpos
  cases h : bytes[pos]? with
  | none => exact .inl ⟨_, bind_of_error (peekByte_of_none h)⟩
  | some b =>
    have hlt : pos < bytes.length := (List.getElem?_eq_some_iff.mp h).1
    rw [consumeByte, bind_of_ok (peekByte_apply h)]
    by_cases hb : b ≠ expected
    · rw [if_pos hb]
      exact .inl ⟨_, rfl⟩
    · rw [if_neg hb]
      exact .inr ⟨(), pos + 1, advance_apply (by omega) _, Nat.le_refl _, hlt⟩

private theorem index_apply {α : Type} {xs : List α} {i : Nat} {x : α} (h : xs[i]? = some x)
    (bytes : Bytes) (pos : Nat) :
    (index xs i : CanonicalJsonParser α) bytes pos = .ok (x, pos) := by
  rw [index, h]

/-- The key is compared where it stands, with its closing quote. -/
theorem keyMismatch_apply {key bytes : Bytes} {pos : Nat} (hbytes : bytes.length < 2 ^ 63)
    (hkey : key.length < 2 ^ 63) (hpos : pos ≤ bytes.length) :
    keyMismatch key bytes pos = .ok (decide ¬ key ++ [0x22] <+: bytes.drop pos, pos) := by
  rw [keyMismatch, bind_of_ok (p := input) rfl, bind_of_ok (p := position) rfl,
    bind_of_ok (usizeAdd_apply (by omega) bytes pos),
    bind_of_ok (usizeAdd_apply (by omega) bytes pos)]
  by_cases hshort : bytes.length < pos + key.length + 1
  · have hno : ¬ key ++ [0x22] <+: bytes.drop pos := fun h ↦ by
      have hle := h.length_le
      rw [List.length_append, List.length_singleton, List.length_drop] at hle
      omega
    rw [if_pos hshort, decide_eq_true hno]
    rfl
  · rw [if_neg hshort, bind_of_ok (slice_apply (by omega) bytes pos)]
    by_cases hfound : (bytes.drop pos).take key.length ≠ key
    · have hno : ¬ key ++ [0x22] <+: bytes.drop pos := fun h ↦
        hfound (List.prefix_iff_eq_take.mp ((List.prefix_append key [0x22]).trans h)).symm
      rw [if_pos hfound, decide_eq_true hno]
      rfl
    · have hlt : pos + key.length < bytes.length := by omega
      have hclosing : bytes[pos + key.length]? = some bytes[pos + key.length] :=
        List.getElem?_eq_getElem hlt
      have hdrop : bytes.drop pos =
          key ++ (bytes[pos + key.length] :: bytes.drop (pos + key.length + 1)) := by
        rw [List.getElem_cons_drop, ← List.drop_drop]
        exact (not_not.mp hfound ▸ List.take_append_drop key.length (bytes.drop pos)).symm
      have hprefix : key ++ [0x22] <+: bytes.drop pos ↔ bytes[pos + key.length] = 0x22 := by
        rw [hdrop, List.prefix_append_right_inj, List.cons_prefix_cons, eq_comm]
        exact and_iff_left List.nil_prefix
      have hne : (bytes[pos + key.length] != 0x22) = decide ¬ key ++ [0x22] <+: bytes.drop pos := by
        rw [Bool.eq_iff_iff, bne_iff_ne, decide_eq_true_iff, hprefix]
      rw [if_neg hfound, bind_of_ok (index_apply hclosing bytes pos), pure_apply, hne]

theorem takes_expectKey {key : Text} (hkey : key.len < 2 ^ 63)
    (hplain : key.toBytes.flatMap escape = key.toBytes) :
    Takes P (expectKey key) (keyed key) () := by
  have hkeyed : keyed key = [0x22] ++ ((key.toBytes ++ [0x22]) ++ [0x3a]) := by
    rw [keyed, quoted, hplain]
    rfl
  rw [hkeyed]
  refine Takes.andThen (takes_consumeByte 0x22) ?_
  intro before rest hbytes hrest
  have hlen : before.length + (key.len + 1) < 2 ^ 64 := by
    rw [List.length_append] at hbytes
    omega
  have hassoc : before ++ (((key.toBytes ++ [0x22]) ++ [0x3a]) ++ rest) =
      (before ++ (key.toBytes ++ [0x22])) ++ ([0x3a] ++ rest) := by
    simp only [List.append_assoc]
  have hnext : before.length + (key.len + 1) = (before ++ (key.toBytes ++ [0x22])).length := by
    rw [List.length_append, List.length_append]
    rfl
  rw [bind_of_ok (keyMismatch_apply hbytes hkey (by rw [List.length_append]; omega)),
    if_neg (by simp), bind_of_ok (usizeAdd_apply (by omega) _ _),
    bind_of_ok (advance_apply hlen _), hassoc, hnext, takes_consumeByte 0x3a _ rest
      (hassoc ▸ hbytes) hrest, List.append_assoc]

/-- A word that is there may be stepped over. -/
private theorem advance_within {word bytes : Bytes} {pos : Nat} (hbytes : bytes.length < 2 ^ 63)
    (h : word <+: bytes.drop pos) (hpos : pos ≤ bytes.length) :
    (advance word.length : CanonicalJsonParser Unit) bytes pos = .ok ((), pos + word.length) ∧
      pos + word.length ≤ bytes.length := by
  have hle := h.length_le
  rw [List.length_drop] at hle
  exact ⟨advance_apply (by omega) bytes, by omega⟩

theorem safe_expectKey {key : Text} (hkey : key.len < 2 ^ 63) : Safe (expectKey key) := by
  refine Advances.bind ((advances_consumeByte 0x22).safe) fun _ ↦ ?_
  intro bytes pos hbytes hpos
  rw [bind_of_ok (keyMismatch_apply hbytes hkey hpos)]
  by_cases hmatch : key.toBytes ++ [0x22] <+: bytes.drop pos
  · obtain ⟨hadvance, hle⟩ := advance_within hbytes hmatch hpos
    rw [List.length_append, List.length_singleton] at hadvance hle
    have hsum : key.toBytes.length = key.len := rfl
    rw [hsum] at hadvance hle
    rw [if_neg (by simpa using hmatch), bind_of_ok (usizeAdd_apply (by omega) _ _),
      bind_of_ok hadvance]
    rcases (advances_consumeByte 0x3a).safe bytes _ hbytes hle with
      he | ⟨a, next, ha, hge, hnext⟩
    · exact .inl he
    · exact .inr ⟨a, next, ha, by omega, hnext⟩
  · rw [if_pos (by simpa using hmatch)]
    exact .inl ⟨_, rfl⟩

/-! ### Strings -/

private theorem parseLowerHexDigit_digit {v : Nat} (h : v < 16) :
    parseLowerHexDigit (Hex.digit v) = .ok v := by
  rw [parseLowerHexDigit, Hex.value_digit h]

private theorem takes_control {b : UInt8} (hb : b < 0x20) : Takes P readEscape
    [0x75, 0x30, 0x30, Hex.digit (b.toNat / 16), Hex.digit (b.toNat % 16)] b := by
  have hlt := b.toNat_lt
  have hsum : b.toNat / 16 * 16 + b.toNat % 16 = b.toNat := by omega
  refine Takes.andThen (y := [_, _, _, _]) (takes_takeByte 0x75) ?_
  refine Takes.andThen (y := [_, _, _]) (takes_takeByte 0x30) ?_
  refine Takes.andThen (y := [_, _]) (takes_takeByte 0x30) ?_
  refine Takes.andThen (y := [_]) (takes_takeByte _) ?_
  refine Takes.andThen (y := []) (takes_takeByte _) ?_
  refine Takes.andThen (x := []) (Takes.lift (parseLowerHexDigit_digit (by omega))) ?_
  refine Takes.andThen (x := []) (Takes.lift (parseLowerHexDigit_digit (by omega))) ?_
  rw [hsum, UInt8.ofNat_toNat]
  simp only [if_neg (UInt8.not_le.mpr hb)]
  exact Takes.pure b

/-- A letter behind the backslash stands for one byte. -/
private theorem takes_escaped (out : Bytes) {b : UInt8} {spelling : Bytes}
    (h : Takes P readEscape spelling b) :
    Takes P (stringTurn out) ([0x5c] ++ spelling) (.inl (out ++ [b])) :=
  Takes.andThen (takes_takeByte 0x5c)
    (spelling.append_nil ▸ Takes.bind h (Takes.pure _) fun _ hrest ↦ hrest)

/-- Each byte is taken back from its spelling. -/
theorem takes_stringTurn (out : Bytes) (b : UInt8) :
    Takes P (stringTurn out) (escape b) (.inl (out ++ [b])) := by
  by_cases hquote : b = 0x22
  · rw [hquote]
    exact takes_escaped out (Takes.andThen (takes_takeByte 0x22) (Takes.pure 0x22))
  by_cases hslash : b = 0x5c
  · rw [hslash]
    exact takes_escaped out (Takes.andThen (takes_takeByte 0x5c) (Takes.pure 0x5c))
  by_cases hnewline : b = 0x0a
  · rw [hnewline]
    exact takes_escaped out (Takes.andThen (takes_takeByte 0x6e) (Takes.pure 0x0a))
  by_cases hreturn : b = 0x0d
  · rw [hreturn]
    exact takes_escaped out (Takes.andThen (takes_takeByte 0x72) (Takes.pure 0x0d))
  by_cases htab : b = 0x09
  · rw [htab]
    exact takes_escaped out (Takes.andThen (takes_takeByte 0x74) (Takes.pure 0x09))
  by_cases hback : b = 0x08
  · rw [hback]
    exact takes_escaped out (Takes.andThen (takes_takeByte 0x62) (Takes.pure 0x08))
  by_cases hfeed : b = 0x0c
  · rw [hfeed]
    exact takes_escaped out (Takes.andThen (takes_takeByte 0x66) (Takes.pure 0x0c))
  by_cases hcontrol : b < 0x20
  · rw [escape, if_neg hquote, if_neg hslash, if_neg hnewline, if_neg hreturn, if_neg htab,
      if_neg hback, if_neg hfeed, if_pos hcontrol]
    exact takes_escaped out (takes_control hcontrol)
  · rw [escape_of_plain ⟨UInt8.not_lt.mp hcontrol, hquote, hslash⟩]
    refine Takes.andThen (y := []) (takes_takeByte b) ?_
    simp only [if_neg hquote, if_neg hslash, if_neg hcontrol]
    exact Takes.pure _

/-- The loop collects the bytes up to the closing quote. -/
private theorem takes_stringLoop (bytes : Bytes) : ∀ out : Bytes,
    Takes P (repeatUntil stringTurn out) (bytes.flatMap escape ++ [0x22]) (out ++ bytes) := by
  induction bytes with
  | nil =>
    intro out
    rw [List.append_nil]
    exact Takes.stop (Takes.andThen (y := []) (takes_takeByte 0x22) (Takes.pure _))
  | cons b bytes ih =>
    intro out
    have hrest := ih (out ++ [b])
    rw [List.append_assoc] at hrest
    rw [List.flatMap_cons, List.append_assoc]
    exact Takes.turn (Q := fun _ ↦ True) (takes_stringTurn out b) (escape_ne_nil b) hrest
      fun _ _ ↦ trivial

/-- A string is taken back from its quoted form. -/
theorem takes_readJsonString (text : Text) : Takes P readJsonString (quoted text) text := by
  refine Takes.andThen (takes_consumeByte 0x22) ?_
  rw [← List.append_nil (_ ++ [0x22])]
  refine Takes.andThen (takes_stringLoop text.toBytes []) ?_
  rw [List.nil_append, Text.ofBytes?_toBytes]
  exact Takes.pure text

theorem safe_readEscape : Safe readEscape := by
  refine Advances.bind advances_takeByte.safe fun escaped ↦ ?_
  by_cases hunicode : escaped = 0x75
  · rw [hunicode]
    refine Advances.bind advances_takeByte.safe fun d0 ↦ ?_
    refine Advances.bind advances_takeByte.safe fun d1 ↦ ?_
    refine Advances.bind advances_takeByte.safe fun d2 ↦ ?_
    refine Advances.bind advances_takeByte.safe fun d3 ↦ ?_
    by_cases hform : d0 ≠ 0x30 ∨ d1 ≠ 0x30
    · rw [if_pos hform]
      exact Advances.refuse _
    · rw [if_neg hform]
      refine Advances.bind (Advances.lift _) fun hi ↦ Advances.bind (Advances.lift _) fun lo ↦ ?_
      by_cases hvalue : 0x20 ≤ UInt8.ofNat (hi * 16 + lo)
      · simp only [if_pos hvalue]
        exact Advances.refuse _
      · simp only [if_neg hvalue]
        exact Advances.pure rfl
  · simp only [if_neg hunicode]
    split_ifs
    all_goals first | exact Advances.pure rfl | exact Advances.refuse _

/-- Each turn takes a byte. -/
theorem advances_stringTurn (out : Bytes) :
    Advances (Sum.elim (fun _ ↦ 1) fun _ ↦ 0) (stringTurn out) := by
  refine Advances.bind_of_moves advances_takeByte (fun byte ↦ ?_) fun r ↦ by cases r <;> simp
  by_cases hquote : byte = 0x22
  · rw [if_pos hquote]
    exact Advances.pure rfl
  by_cases hslash : byte = 0x5c
  · rw [if_neg hquote, if_pos hslash]
    exact Advances.bind safe_readEscape fun _ ↦ Advances.pure rfl
  by_cases hcontrol : byte < 0x20
  · rw [if_neg hquote, if_neg hslash, if_pos hcontrol]
    exact Advances.refuse _
  · rw [if_neg hquote, if_neg hslash, if_neg hcontrol]
    exact Advances.pure rfl

theorem safe_readJsonString : Safe readJsonString := by
  refine Advances.bind (advances_consumeByte 0x22).safe fun _ ↦ ?_
  refine Advances.bind (Advances.repeatUntil advances_stringTurn []) fun out ↦ ?_
  cases Text.ofBytes? out with
  | none => exact Advances.refuse _
  | some text => exact Advances.pure rfl

/-! ### Numbers -/

/-- What stands behind a number starts with no digit. -/
def EndsNumber (rest : Bytes) : Prop := ∀ b ∈ rest.head?, Ascii.isDigit b = false

private theorem takeWhile_digits {digits rest : Bytes} (h : ∀ b ∈ digits, Ascii.isDigit b = true)
    (hrest : EndsNumber rest) : (digits ++ rest).takeWhile Ascii.isDigit = digits := by
  rw [List.takeWhile_append_of_pos h]
  cases rest with
  | nil => rw [List.takeWhile_nil, List.append_nil]
  | cons b rest =>
    have hb : Ascii.isDigit b = false := hrest b rfl
    rw [List.takeWhile_cons, hb, if_neg Bool.false_ne_true, List.append_nil]

/-- Only zero starts with a zero. -/
private theorem head_decimal {n : Nat} (h : 0 < n) : (Ascii.decimal n).head? ≠ some 0x30 := by
  have hdigit : ∀ d : Fin 10, 0 < d.val → UInt8.ofNat (0x30 + d) ≠ 0x30 := by decide
  induction n using Nat.strongRecOn with
  | ind n ih =>
    by_cases hn : n < 10
    · rw [Ascii.decimal_of_lt hn]
      exact fun heq ↦ hdigit ⟨n, hn⟩ h (Option.some.inj heq)
    · rw [Ascii.decimal_of_le (Nat.le_of_not_lt hn),
        List.head?_append_of_ne_nil _ (Ascii.decimal_ne_nil _)]
      exact ih (n / 10) (by omega) (by omega)

private theorem hasLeadingZero_apply (text bytes : Bytes) (pos : Nat) :
    hasLeadingZero text bytes pos =
      .ok (decide (1 < text.length ∧ text.head? = some 0x30), pos) := by
  cases text with
  | nil => rfl
  | cons b text =>
    by_cases hlong : 1 < (b :: text).length
    · have hfirst : (b == 0x30) =
          decide (1 < (b :: text).length ∧ (b :: text).head? = some 0x30) := by
        rw [Bool.eq_iff_iff, beq_iff_eq, decide_eq_true_iff]
        exact ⟨fun h ↦ ⟨hlong, congrArg some h⟩, fun h ↦ Option.some.inj h.2⟩
      rw [hasLeadingZero, if_pos hlong, bind_of_ok (index_apply (x := b) rfl bytes pos),
        pure_apply, hfirst]
    · rw [hasLeadingZero, if_neg hlong, pure_apply, decide_eq_false fun h ↦ hlong h.1]

private theorem parseU64_decimal (v : UInt64) :
    parseU64 (Ascii.decimal v.toNat) = .ok v := by
  have hascii : ∀ b ∈ Ascii.decimal v.toNat, b < 0x80 := by
    intro b hb
    have hdigit := Ascii.isDigit_of_mem_decimal b hb
    simp only [Ascii.isDigit, Bool.and_eq_true, decide_eq_true_eq] at hdigit
    exact Nat.lt_of_le_of_lt (UInt8.le_iff_toNat_le.mp hdigit.2) (by decide)
  have htext : Text.ofBytes? (Ascii.decimal v.toNat) =
      some ⟨Ascii.decimal v.toNat, Ascii.isSome_decode hascii⟩ :=
    Text.ofBytes?_toBytes ⟨Ascii.decimal v.toNat, Ascii.isSome_decode hascii⟩
  rw [parseU64, htext]
  simp only [Ascii.ofDecimal_decimal, if_pos v.toNat_lt, UInt64.ofNat_toNat]

/-- The digits the parser steps over are those of the number. -/
theorem takes_readJsonU64 (v : UInt64) :
    Takes EndsNumber readJsonU64 (Ascii.decimal v.toNat) v := by
  intro before rest hbytes hrest
  have hpos : before.length ≤ (before ++ (Ascii.decimal v.toNat ++ rest)).length := by
    rw [List.length_append]
    exact Nat.le_add_right _ _
  have hdigits := takeWhile_digits (Ascii.isDigit_of_mem_decimal (n := v.toNat)) hrest
  have hlong := List.length_pos_iff.mpr (Ascii.decimal_ne_nil v.toNat)
  have hzero : ¬ (1 < (Ascii.decimal v.toNat).length ∧
      (Ascii.decimal v.toNat).head? = some 0x30) := by
    rintro ⟨hlen, hhead⟩
    refine head_decimal (Nat.pos_of_ne_zero fun hv ↦ ?_) hhead
    rw [hv, Ascii.decimal_of_lt (by decide)] at hlen
    exact absurd hlen (by decide)
  rw [readJsonU64, bind_of_ok (p := position) rfl, bind_of_ok (skipWhile_apply hbytes hpos),
    bind_of_ok (p := position) rfl, List.drop_left, hdigits, if_neg (by omega),
    bind_of_ok (p := input) rfl,
    bind_of_ok (slice_apply (by simp only [List.length_append]; omega) _ _), List.drop_left,
    List.take_left, bind_of_ok (hasLeadingZero_apply _ _ _), if_neg (by simpa using hzero),
    Cursor.lift, parseU64_decimal, List.length_append]
  rfl

theorem safe_readJsonU64 : Safe readJsonU64 := by
  intro bytes pos hbytes hpos
  have hle := (List.takeWhile_prefix Ascii.isDigit (l := bytes.drop pos)).length_le
  rw [List.length_drop] at hle
  rw [readJsonU64, bind_of_ok (p := position) rfl, bind_of_ok (skipWhile_apply hbytes hpos),
    bind_of_ok (p := position) rfl]
  split_ifs
  · exact .inl ⟨_, rfl⟩
  rw [bind_of_ok (p := input) rfl, bind_of_ok (slice_apply (by omega) _ _),
    bind_of_ok (hasLeadingZero_apply _ _ _)]
  split_ifs
  · exact .inl ⟨_, rfl⟩
  rcases Advances.lift (parseU64 _) bytes (pos + ((bytes.drop pos).takeWhile Ascii.isDigit).length)
    hbytes (by omega) with he | ⟨a, next, ha, hge, hnext⟩
  · exact .inl he
  · exact .inr ⟨a, next, ha, by omega, hnext⟩

/-! ### Words -/

private theorem skipWord_apply {word : Text} {bytes : Bytes} {pos : Nat}
    (hword : word.len < 2 ^ 63) (hbytes : bytes.length < 2 ^ 63) (hpos : pos ≤ bytes.length) :
    skipWord word bytes pos =
      .ok (if word.toBytes <+: bytes.drop pos then (true, pos + word.len) else (false, pos)) := by
  rw [skipWord, bind_of_ok (lookingAt_apply hbytes hword hpos)]
  by_cases hfound : word.toBytes <+: bytes.drop pos
  · rw [if_pos hfound, if_pos (decide_eq_true hfound)]
    exact bind_of_ok (advance_within hbytes hfound hpos).1
  · rw [if_neg hfound, if_neg (by simpa using hfound)]
    rfl

private theorem takes_skipWord {word : Text} (hword : word.len < 2 ^ 63) :
    Takes P (skipWord word) word.toBytes true := by
  intro before rest hbytes hrest
  have hfound : word.toBytes <+: (before ++ (word.toBytes ++ rest)).drop before.length := by
    rw [List.drop_left]
    exact List.prefix_append _ _
  rw [skipWord_apply hword hbytes (by rw [List.length_append]; omega), if_pos hfound,
    List.length_append]
  rfl

/-- Where another byte stands, the reader stays. -/
private theorem takes_skipWord_other {word : Text} (hword : word.len < 2 ^ 63) {first : UInt8}
    (hfirst : word.toBytes.head? = some first)
    (hother : ∀ rest, P rest → ∃ b, rest.head? = some b ∧ b ≠ first) :
    Takes P (skipWord word) [] false := by
  intro before rest hbytes hrest
  obtain ⟨b, hb, hne⟩ := hother rest hrest
  have hno : ¬ word.toBytes <+: (before ++ ([] ++ rest)).drop before.length := by
    rw [List.drop_left]
    rintro ⟨behind, hbehind⟩
    have hhead := congrArg List.head? hbehind
    rw [List.head?_append, hfirst, List.nil_append, hb] at hhead
    exact hne (Option.some.inj hhead).symm
  rw [skipWord_apply hword hbytes (by rw [List.length_append]; omega), if_neg hno,
    List.append_nil]

theorem safe_skipWord {word : Text} (hword : word.len < 2 ^ 63) : Safe (skipWord word) := by
  intro bytes pos hbytes hpos
  by_cases hfound : word.toBytes <+: bytes.drop pos
  · refine .inr ⟨true, pos + word.len, ?_, Nat.le_add_right pos _,
      (advance_within hbytes hfound hpos).2⟩
    rw [skipWord_apply hword hbytes hpos, if_pos hfound]
  · refine .inr ⟨false, pos, ?_, Nat.le_refl pos, hpos⟩
    rw [skipWord_apply hword hbytes hpos, if_neg hfound]

/-! ### Fields -/

/-- A key of the schema: short, and written as it is. -/
structure IsKey (key : Text) : Prop where
  short : key.len < 2 ^ 63
  plain : key.toBytes.flatMap escape = key.toBytes

instance (key : Text) : Decidable (IsKey key) :=
  decidable_of_iff (key.len < 2 ^ 63 ∧ key.toBytes.flatMap escape = key.toBytes)
    ⟨fun h ↦ ⟨h.1, h.2⟩, fun h ↦ ⟨h.1, h.2⟩⟩

variable {key : Text}

theorem takes_expectStringField (value : Text) (hkey : IsKey key := by decide) :
    Takes P (expectStringField key) (stringMember key value) value :=
  Takes.andThen (takes_expectKey hkey.short hkey.plain) (takes_readJsonString value)

theorem takes_expectU64Field (value : UInt64) (hkey : IsKey key := by decide) :
    Takes EndsNumber (expectU64Field key) (numberMember key value) value :=
  Takes.andThen (takes_expectKey hkey.short hkey.plain) (takes_readJsonU64 value)

theorem takes_expectBoolField (value : Bool) (hkey : IsKey key := by decide) :
    Takes P (expectBoolField key) (keyed key ++ boolWord value) value := by
  refine Takes.andThen (takes_expectKey hkey.short hkey.plain) ?_
  cases value with
  | true =>
    rw [← List.append_nil (boolWord true)]
    exact Takes.andThen (takes_skipWord (by decide)) (Takes.pure true)
  | false =>
    have hword : Takes P (do
        if ← skipWord (.lit "false") then Pure.pure false
        else refuse (invalidJson "V2 public payload boolean is not canonical"))
        (boolWord false ++ []) false :=
      Takes.andThen (takes_skipWord (by decide)) (Takes.pure false)
    have hhead : (boolWord false).head? = some 0x66 := by decide
    rw [List.append_nil] at hword
    refine Takes.bind (x := []) (y := boolWord false) (Q := fun rest ↦ rest.head? = some 0x66)
      (takes_skipWord_other (by decide)
        (show (Text.lit "true").toBytes.head? = some 0x74 by decide) ?_) hword ?_
    · exact fun rest h ↦ ⟨0x66, h, by decide⟩
    · intro rest hrest
      rw [List.head?_append, hhead]
      rfl

/-- A number does not start as `null` does. -/
theorem takes_expectOptU64Field (value : Option UInt64) (hkey : IsKey key := by decide) :
    Takes EndsNumber (expectOptU64Field key) (keyed key ++ optWord value) value := by
  refine Takes.andThen (takes_expectKey hkey.short hkey.plain) ?_
  cases value with
  | none =>
    rw [← List.append_nil (optWord none)]
    exact Takes.andThen (takes_skipWord (by decide)) (Takes.pure none)
  | some number =>
    have hnumber : Takes EndsNumber (do
        let number ← readJsonU64
        Pure.pure (some number)) (optWord (some number) ++ []) (some number) :=
      Takes.bind (takes_readJsonU64 number) (Takes.pure (some number)) fun _ hrest ↦ hrest
    obtain ⟨digit, digits, hdigits⟩ :=
      List.exists_cons_of_ne_nil (Ascii.decimal_ne_nil number.toNat)
    have hdigit : Ascii.isDigit digit = true :=
      Ascii.isDigit_of_mem_decimal digit (hdigits ▸ List.mem_cons_self)
    have hne : digit ≠ 0x6e := fun h ↦ absurd (h ▸ hdigit) (by decide)
    rw [List.append_nil] at hnumber
    refine Takes.bind (x := []) (y := optWord (some number))
      (Q := fun rest ↦ rest.head? = some digit)
      (takes_skipWord_other (by decide)
        (show (Text.lit "null").toBytes.head? = some 0x6e by decide) ?_) hnumber ?_
    · exact fun rest h ↦ ⟨digit, h, hne⟩
    · intro rest hrest
      show (Ascii.decimal number.toNat ++ rest).head? = some digit
      rw [hdigits]
      rfl

theorem safe_expectStringField (hkey : IsKey key := by decide) : Safe (expectStringField key) :=
  Advances.bind (safe_expectKey hkey.short) fun _ ↦ safe_readJsonString

theorem safe_expectU64Field (hkey : IsKey key := by decide) : Safe (expectU64Field key) :=
  Advances.bind (safe_expectKey hkey.short) fun _ ↦ safe_readJsonU64

theorem safe_expectBoolField (hkey : IsKey key := by decide) : Safe (expectBoolField key) := by
  refine Advances.bind (safe_expectKey hkey.short) fun _ ↦ ?_
  refine Advances.bind (safe_skipWord (by decide)) fun isTrue ↦ ?_
  split_ifs
  · exact Advances.pure rfl
  refine Advances.bind (safe_skipWord (by decide)) fun isFalse ↦ ?_
  split_ifs
  · exact Advances.pure rfl
  · exact Advances.refuse _

theorem safe_expectOptU64Field (hkey : IsKey key := by decide) : Safe (expectOptU64Field key) := by
  refine Advances.bind (safe_expectKey hkey.short) fun _ ↦ ?_
  refine Advances.bind (safe_skipWord (by decide)) fun isNull ↦ ?_
  split_ifs
  · exact Advances.pure rfl
  · exact Advances.bind safe_readJsonU64 fun _ ↦ Advances.pure rfl

theorem takes_peekByte (b : UInt8) : Takes (·.head? = some b) peekByte [] b := by
  intro before rest hbytes hrest
  have hpeek : (before ++ ([] ++ rest))[before.length]? = some b := by
    rw [List.getElem?_append_right (Nat.le_refl _), Nat.sub_self, List.nil_append,
      ← List.head?_eq_getElem?, hrest]
  rw [peekByte_apply hpeek, List.append_nil]

/-- A member, a comma and the members behind it. -/
theorem takes_comma {α β : Type} {p : CanonicalJsonParser α} {f : α → CanonicalJsonParser β}
    {x y tail : Bytes} {members : List Bytes} {a : α} {b : β} (hp : Takes EndsNumber p x a)
    (hf : Takes P (f a) ([0x2c].intercalate (y :: members) ++ tail) b) :
    Takes P (do
      let a ← p
      expectFieldComma
      f a) ([0x2c].intercalate (x :: y :: members) ++ tail) b := by
  rw [List.intercalate_cons_cons, List.append_assoc, List.append_assoc]
  refine Takes.bind hp (Takes.andThen (takes_consumeByte 0x2c) hf) fun rest _ c hc ↦ ?_
  rw [← Option.some.inj hc]
  rfl

/-- The same where the value is checked before the comma. -/
theorem takes_checked_comma {α β γ : Type} {p : CanonicalJsonParser α} {check : α → Result γ}
    {f : γ → CanonicalJsonParser β} {x y tail : Bytes} {members : List Bytes} {a : α} {b : β}
    {c : γ} (hp : Takes EndsNumber p x a) (hcheck : check a = .ok c)
    (hf : Takes P (f c) ([0x2c].intercalate (y :: members) ++ tail) b) :
    Takes P (do
      let a ← p
      let c ← Cursor.lift (check a)
      expectFieldComma
      f c) ([0x2c].intercalate (x :: y :: members) ++ tail) b := by
  rw [List.intercalate_cons_cons, List.append_assoc, List.append_assoc]
  refine Takes.bind hp (Takes.andThen (x := []) (Takes.lift hcheck)
    (Takes.andThen (takes_consumeByte 0x2c) hf)) fun rest _ c hc ↦ ?_
  rw [← Option.some.inj hc]
  rfl

/-- An array under a key, a comma and the members behind it. -/
theorem takes_array {α β : Type} {elements : CanonicalJsonParser α} {f : α → CanonicalJsonParser β}
    {y tail : Bytes} {xs members : List Bytes} {a : α} {b : β}
    (helements : Takes (·.head? = some 0x5d) elements ([0x2c].intercalate xs) a)
    (hf : Takes P (f a) ([0x2c].intercalate (y :: members) ++ tail) b)
    (hkey : IsKey key := by decide) : Takes P (do
      expectKey key
      consumeByte 0x5b
      let a ← elements
      consumeByte 0x5d
      expectFieldComma
      f a)
      ([0x2c].intercalate ((keyed key ++ bracketed 0x5b 0x5d xs) :: y :: members) ++ tail) b := by
  have htext : [0x2c].intercalate ((keyed key ++ bracketed 0x5b 0x5d xs) :: y :: members) ++ tail =
      keyed key ++ ([0x5b] ++ ([0x2c].intercalate xs ++ ([0x5d] ++ ([0x2c] ++
        ([0x2c].intercalate (y :: members) ++ tail))))) := by
    rw [List.intercalate_cons_cons, bracketed]
    simp only [List.append_assoc]
  rw [htext]
  refine Takes.andThen (takes_expectKey hkey.short hkey.plain)
    (Takes.andThen (takes_consumeByte 0x5b) (Takes.bind helements ?_ fun _ _ ↦ rfl))
  exact Takes.andThen (takes_consumeByte 0x5d) (Takes.andThen (takes_consumeByte 0x2c) hf)

/-- The last member, in front of the closing brace. -/
theorem takes_last {α β : Type} {p : CanonicalJsonParser α} {f : α → CanonicalJsonParser β}
    {x : Bytes} {a : α} {b : β} (hp : Takes EndsNumber p x a) (hf : Takes P (f a) [0x7d] b) :
    Takes P (p >>= f) ([0x2c].intercalate [x] ++ [0x7d]) b := by
  rw [List.intercalate_singleton]
  refine Takes.bind hp hf fun rest _ c hc ↦ ?_
  rw [← Option.some.inj hc]
  rfl

theorem safe_comma {α β : Type} {p : CanonicalJsonParser α} {f : α → CanonicalJsonParser β}
    (hp : Safe p) (hf : ∀ a, Safe (f a)) : Safe (do
      let a ← p
      expectFieldComma
      f a) :=
  Advances.bind hp fun a ↦ Advances.bind (advances_consumeByte 0x2c).safe fun _ ↦ hf a

theorem safe_checked_comma {α β γ : Type} {p : CanonicalJsonParser α} {check : α → Result γ}
    {f : γ → CanonicalJsonParser β} (hp : Safe p) (hf : ∀ c, Safe (f c)) : Safe (do
      let a ← p
      let c ← Cursor.lift (check a)
      expectFieldComma
      f c) :=
  Advances.bind hp fun _ ↦ Advances.bind (Advances.lift _) fun c ↦
    Advances.bind (advances_consumeByte 0x2c).safe fun _ ↦ hf c

theorem takes_expectEof : Takes (· = []) expectEof [] () := by
  rintro before rest hbytes rfl
  simp only [List.append_nil]
  rw [expectEof, bind_of_ok (p := input) rfl, bind_of_ok (p := position) rfl,
    if_neg (not_not_intro rfl)]
  rfl

theorem safe_expectEof : Safe expectEof := by
  intro bytes pos hbytes hpos
  rw [expectEof, bind_of_ok (p := input) rfl, bind_of_ok (p := position) rfl]
  split_ifs
  · exact .inl ⟨_, rfl⟩
  · exact .inr ⟨(), pos, rfl, Nat.le_refl pos, hpos⟩

end CanonicalJsonParser

end PrivateBallot.OotleAnchor
