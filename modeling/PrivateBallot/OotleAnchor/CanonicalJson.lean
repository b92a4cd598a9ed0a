import PrivateBallot.Base.Cursor
import PrivateBallot.Base.Hex
import PrivateBallot.Protocol.Error

/-!
# Canonical JSON

Library `OotleAnchor`. `crates/anchor/src/public_payload_v2.rs:348-489` (the writer, with its
separator stack) and `:625-825` (the parser, which reads at a position and refuses every spelling
the writer does not use). The writer appends one member after the other; the parser takes back
what the writer wrote and does not fault on anything else.
-/

namespace PrivateBallot.OotleAnchor

open PrivateBallot.Base PrivateBallot.Protocol

/-- `invalid_json`; `crates/anchor/src/public_payload_v2.rs:59`. -/
def invalidJson (message : String) : ProtocolError := ⟨.invalidCbor, message⟩

/-! ### Writer -/

/-- `crates/anchor/src/public_payload_v2.rs:348` -/
structure CanonicalJsonWriter where
  bytes : Bytes
  needsComma : Bool
  stack : List Bool

namespace CanonicalJsonWriter

def new : CanonicalJsonWriter := ⟨[], false, []⟩

/-- `self.bytes.extend_from_slice(x)` -/
def push (writer : CanonicalJsonWriter) (x : Bytes) : CanonicalJsonWriter :=
  { writer with bytes := writer.bytes ++ x }

def pushSeparator (writer : CanonicalJsonWriter) : CanonicalJsonWriter :=
  if writer.needsComma then writer.push [0x2c] else { writer with needsComma := true }

/-- What `write_string` writes for one byte; `crates/anchor/src/public_payload_v2.rs:381-399`. -/
def escape (b : UInt8) : Bytes :=
  if b = 0x22 then [0x5c, 0x22]
  else if b = 0x5c then [0x5c, 0x5c]
  else if b = 0x0a then [0x5c, 0x6e]
  else if b = 0x0d then [0x5c, 0x72]
  else if b = 0x09 then [0x5c, 0x74]
  else if b = 0x08 then [0x5c, 0x62]
  else if b = 0x0c then [0x5c, 0x66]
  else if b < 0x20 then
    [0x5c, 0x75, 0x30, 0x30, Hex.digit (b.toNat / 16), Hex.digit (b.toNat % 16)]
  else [b]

def writeString (writer : CanonicalJsonWriter) (value : Text) : CanonicalJsonWriter :=
  ((writer.push [0x22]).push (value.toBytes.flatMap escape)).push [0x22]

def writeKey (writer : CanonicalJsonWriter) (key : Text) : CanonicalJsonWriter :=
  (writer.pushSeparator.writeString key).push [0x3a]

def beginObject (writer : CanonicalJsonWriter) : CanonicalJsonWriter :=
  let opened := writer.pushSeparator.push [0x7b]
  { opened with stack := opened.needsComma :: opened.stack, needsComma := false }

def endObject (writer : CanonicalJsonWriter) : CanonicalJsonWriter :=
  { writer.push [0x7d] with needsComma := writer.stack.headD true, stack := writer.stack.tail }

def beginObjectElement (writer : CanonicalJsonWriter) : CanonicalJsonWriter := writer.beginObject

def beginArrayField (writer : CanonicalJsonWriter) (key : Text) : CanonicalJsonWriter :=
  let opened := (writer.writeKey key).push [0x5b]
  { opened with stack := true :: opened.stack, needsComma := false }

def endArray (writer : CanonicalJsonWriter) : CanonicalJsonWriter :=
  { writer.push [0x5d] with needsComma := writer.stack.headD true, stack := writer.stack.tail }

def writeU64 (writer : CanonicalJsonWriter) (value : UInt64) : CanonicalJsonWriter :=
  writer.push (Ascii.decimal value.toNat)

def fieldString (writer : CanonicalJsonWriter) (key value : Text) : CanonicalJsonWriter :=
  (writer.writeKey key).writeString value

def fieldU64 (writer : CanonicalJsonWriter) (key : Text) (value : UInt64) : CanonicalJsonWriter :=
  (writer.writeKey key).writeU64 value

def fieldBool (writer : CanonicalJsonWriter) (key : Text) (value : Bool) : CanonicalJsonWriter :=
  (writer.writeKey key).push
    (if value then (Text.lit "true").toBytes else (Text.lit "false").toBytes)

def fieldOptU64 (writer : CanonicalJsonWriter) (key : Text) (value : Option UInt64) :
    CanonicalJsonWriter :=
  match value with
  | some number => (writer.writeKey key).writeU64 number
  | none => (writer.writeKey key).push (Text.lit "null").toBytes

def fieldLowerHex (writer : CanonicalJsonWriter) (key : Text) (bytes : Bytes) :
    CanonicalJsonWriter :=
  (((writer.writeKey key).push [0x22]).push (Hex.encode bytes)).push [0x22]

end CanonicalJsonWriter

/-! ### Parser -/

/-- `crates/anchor/src/public_payload_v2.rs:625` -/
abbrev CanonicalJsonParser (α : Type) : Type := Cursor ProtocolError α

namespace CanonicalJsonParser

open Cursor

def peekByte : CanonicalJsonParser UInt8 := do
  match ← peek with
  | some b => pure b
  | none => refuse (invalidJson "V2 public payload ended unexpectedly")

/-- `let byte = self.peek_byte()?; self.pos += 1;` -/
def takeByte : CanonicalJsonParser UInt8 := do
  let byte ← peekByte
  advance 1
  pure byte

def consumeByte (expected : UInt8) : CanonicalJsonParser Unit := do
  let actual ← peekByte
  if actual ≠ expected then refuse (invalidJson "V2 public payload has unexpected structure")
  else advance 1

def expectEof : CanonicalJsonParser Unit := do
  let bytes ← input
  let pos ← position
  if pos ≠ bytes.length then
    refuse (invalidJson "V2 public payload has trailing bytes after the closing object")
  else pure ()

/-- The condition of `expect_key`; `crates/anchor/src/public_payload_v2.rs:663-665`. -/
def keyMismatch (key : Bytes) : CanonicalJsonParser Bool := do
  let bytes ← input
  let pos ← position
  let stop ← usizeAdd pos key.length
  let needed ← usizeAdd stop 1
  if bytes.length < needed then pure true
  else
    let found ← slice bytes pos stop
    if found ≠ key then pure true
    else
      let closing ← index bytes stop
      pure (closing != 0x22)

def expectKey (key : Text) : CanonicalJsonParser Unit := do
  consumeByte 0x22
  if ← keyMismatch key.toBytes then refuse (invalidJson "V2 public payload key mismatch")
  else
    let width ← usizeAdd key.len 1
    advance width
    consumeByte 0x3a

def expectFieldComma : CanonicalJsonParser Unit := consumeByte 0x2c

/-- `crates/anchor/src/public_payload_v2.rs:818` -/
def parseLowerHexDigit (byte : UInt8) : Result Nat :=
  match Hex.value byte with
  | some v => .ok v
  | none => .error (invalidJson "V2 public payload hex must be lowercase")

/-- What a backslash starts; `crates/anchor/src/public_payload_v2.rs:719-761`. -/
def readEscape : CanonicalJsonParser UInt8 := do
  let escaped ← takeByte
  if escaped = 0x22 then pure 0x22
  else if escaped = 0x5c then pure 0x5c
  else if escaped = 0x6e then pure 0x0a
  else if escaped = 0x72 then pure 0x0d
  else if escaped = 0x74 then pure 0x09
  else if escaped = 0x62 then pure 0x08
  else if escaped = 0x66 then pure 0x0c
  else if escaped = 0x75 then
    let d0 ← takeByte
    let d1 ← takeByte
    let d2 ← takeByte
    let d3 ← takeByte
    if d0 ≠ 0x30 ∨ d1 ≠ 0x30 then
      refuse (invalidJson "V2 public payload uses a non-canonical unicode escape")
    else
      let hi ← lift (parseLowerHexDigit d2)
      let lo ← lift (parseLowerHexDigit d3)
      let value := UInt8.ofNat (hi * 16 + lo)
      if 0x20 ≤ value then
        refuse (invalidJson "V2 public payload uses an unnecessary unicode escape")
      else pure value
  else refuse (invalidJson "V2 public payload uses a non-canonical string escape")

/-- One turn of `read_json_string`; `crates/anchor/src/public_payload_v2.rs:713-770`. -/
def stringTurn (out : Bytes) : CanonicalJsonParser (Bytes ⊕ Bytes) := do
  let byte ← takeByte
  if byte = 0x22 then pure (.inr out)
  else if byte = 0x5c then
    let b ← readEscape
    pure (.inl (out ++ [b]))
  else if byte < 0x20 then
    refuse (invalidJson "V2 public payload string contains a raw control byte")
  else pure (.inl (out ++ [byte]))

def readJsonString : CanonicalJsonParser Text := do
  consumeByte 0x22
  let out ← repeatUntil stringTurn []
  match Text.ofBytes? out with
  | some text => pure text
  | none => refuse (invalidJson "V2 public payload string is not valid UTF-8")

/-- `s.parse::<u64>()` of digits -/
def parseU64 (text : Bytes) : Result UInt64 :=
  match Text.ofBytes? text with
  | none => .error (invalidJson "V2 public payload integer field is not ASCII")
  | some s =>
    if Ascii.ofDecimal s.toBytes < 2 ^ 64 then .ok (UInt64.ofNat (Ascii.ofDecimal s.toBytes))
    else .error (invalidJson "V2 public payload integer field overflows u64")

/-- `text.len() > 1 && text[0] == b'0'` -/
def hasLeadingZero (text : Bytes) : CanonicalJsonParser Bool :=
  if 1 < text.length then do
    let first ← index text 0
    pure (first == 0x30)
  else pure false

def readJsonU64 : CanonicalJsonParser UInt64 := do
  let start ← position
  skipWhile Ascii.isDigit
  let stop ← position
  if stop = start then refuse (invalidJson "V2 public payload integer field is empty")
  else
    let bytes ← input
    let text ← slice bytes start stop
    if ← hasLeadingZero text then
      refuse (invalidJson "V2 public payload integer has non-canonical leading zeros")
    else lift (parseU64 text)

def expectStringField (key : Text) : CanonicalJsonParser Text := do
  expectKey key
  readJsonString

def expectU64Field (key : Text) : CanonicalJsonParser UInt64 := do
  expectKey key
  readJsonU64

/-- `if self.pos + n <= self.bytes.len() && &self.bytes[self.pos..self.pos + n] == word
{ self.pos += n; .. }` -/
def skipWord (word : Text) : CanonicalJsonParser Bool := do
  if ← lookingAt word.toBytes then
    advance word.len
    pure true
  else pure false

def expectOptU64Field (key : Text) : CanonicalJsonParser (Option UInt64) := do
  expectKey key
  if ← skipWord (.lit "null") then pure none
  else
    let number ← readJsonU64
    pure (some number)

def expectBoolField (key : Text) : CanonicalJsonParser Bool := do
  expectKey key
  if ← skipWord (.lit "true") then pure true
  else if ← skipWord (.lit "false") then pure false
  else refuse (invalidJson "V2 public payload boolean is not canonical")

end CanonicalJsonParser

end PrivateBallot.OotleAnchor
