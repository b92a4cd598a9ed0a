import PrivateBallot.Base.Exact
import PrivateBallot.Base.LossyText
import PrivateBallot.Base.Program
import PrivateBallot.GuiCore.Error

/-!
# Cast records

Library `GuiCore`. `crates/gui-core/src/voter_cast_lock.rs:36-70,116-302,379-408,529-563,1212-1290`:
the two kinds of local records that lock a voter, their length-prefixed little-endian format, and
how they are written and read. A `Cursor` is the bytes it has not read yet: an offset that would
overflow and one past the end give the same answer. A path is its bytes.
-/

namespace PrivateBallot.GuiCore

open PrivateBallot.Base

def castRecordMagicV1 : Bytes := (Text.lit "TARI_PRIVATE_BALLOT_VOTER_CAST_LOCK_V1").toBytes
def castRecordVersionV1 : Nat := 1
def releaseRecordMagicV3 : Bytes := (Text.lit "TARI_PRIVATE_BALLOT_VOTER_RELEASE_LOCK_V3").toBytes
def releaseRecordVersionV3 : Nat := 3
def maxCastRecordBytesV1 : Nat := 16 * 1024
def maxCastRecordFieldBytes : Nat := 8 * 1024

/-! ### Data -/

/-- `VoterCastRecordV1` -/
structure VoterCastRecordV1 where
  electionManifestHashHex : Text
  credentialFingerprintHex : Text
  packageDigestHex : Text
  finalPath : Text
  tempPath : Text
  isCast : Bool
deriving DecidableEq

/-- `OnlineReleaseRecordV3` -/
structure OnlineReleaseRecordV3 where
  electionManifestHashHex : Text
  credentialFingerprintHex : Text
  packageDigestHex : Text
  stagedEnvelopePath : Text
  stagedEnvelopeDigestHex : Text
  descriptorFingerprintHex : Text
  receiptEvidencePath : Text
  isCast : Bool
deriving DecidableEq

/-! ### The format -/

/-- `encode_field`; `voter_cast_lock.rs:247`. The length is cut to 32 bits. -/
def encodeField (value : Text) : Bytes := leBytes 4 (value.len % 2 ^ 32) ++ value.toBytes

/-- `u8::from` of the flag that ends a record. -/
def encodeFlag (isCast : Bool) : Bytes := [if isCast then 1 else 0]

/-- `VoterCastRecordV1::encode` -/
def VoterCastRecordV1.encode (record : VoterCastRecordV1) : Bytes :=
  castRecordMagicV1 ++ (leBytes 4 castRecordVersionV1 ++
    (encodeField record.electionManifestHashHex ++ (encodeField record.credentialFingerprintHex ++
      (encodeField record.packageDigestHex ++ (encodeField record.finalPath ++
        (encodeField record.tempPath ++ encodeFlag record.isCast))))))

/-- `OnlineReleaseRecordV3::encode` -/
def OnlineReleaseRecordV3.encode (record : OnlineReleaseRecordV3) : Bytes :=
  releaseRecordMagicV3 ++ (leBytes 4 releaseRecordVersionV3 ++
    (encodeField record.electionManifestHashHex ++ (encodeField record.credentialFingerprintHex ++
      (encodeField record.packageDigestHex ++ (encodeField record.stagedEnvelopePath ++
        (encodeField record.stagedEnvelopeDigestHex ++
          (encodeField record.descriptorFingerprintHex ++
            (encodeField record.receiptEvidencePath ++ encodeFlag record.isCast))))))))

/-- `Cursor`, with `expect_bytes` and `is_exhausted` those of the library. -/
abbrev CastCursor := Reader

namespace CastCursor

/-- `Cursor::read_u32` -/
def readU32 : CastCursor Nat := do
  let slice ← Reader.take 4
  pure (ofLeBytes slice)

/-- `Cursor::read_u8` -/
def readU8 : CastCursor UInt8
  | [] => none
  | b :: rest => some (b, rest)

/-- `Cursor::read_field` -/
def readField : CastCursor Text := do
  let len ← readU32
  if maxCastRecordFieldBytes < len then failure
  else
    let slice ← Reader.take len
    liftM (Text.ofBytes? slice)

/-- A version other than this one is refused. -/
def expectVersion (version : Nat) : CastCursor Unit := do
  let found ← readU32
  if found ≠ version then failure

/-- `match cursor.read_u8()?` of the flag that ends a record. -/
def readFlag : CastCursor Bool := do
  let byte ← readU8
  if byte = 0 then pure false else if byte = 1 then pure true else failure

end CastCursor

open Reader CastCursor

/-- `VoterCastRecordV1::decode` -/
def VoterCastRecordV1.decode : Bytes → Option VoterCastRecordV1 := exhaust do
  expectBytes castRecordMagicV1
  expectVersion castRecordVersionV1
  let electionManifestHashHex ← readField
  let credentialFingerprintHex ← readField
  let packageDigestHex ← readField
  let finalPath ← readField
  let tempPath ← readField
  let isCast ← readFlag
  pure { electionManifestHashHex, credentialFingerprintHex, packageDigestHex, finalPath, tempPath,
         isCast }

/-- `OnlineReleaseRecordV3::decode` -/
def OnlineReleaseRecordV3.decode : Bytes → Option OnlineReleaseRecordV3 := exhaust do
  expectBytes releaseRecordMagicV3
  expectVersion releaseRecordVersionV3
  let electionManifestHashHex ← readField
  let credentialFingerprintHex ← readField
  let packageDigestHex ← readField
  let stagedEnvelopePath ← readField
  let stagedEnvelopeDigestHex ← readField
  let descriptorFingerprintHex ← readField
  let receiptEvidencePath ← readField
  let isCast ← readFlag
  pure { electionManifestHashHex, credentialFingerprintHex, packageDigestHex, stagedEnvelopePath,
         stagedEnvelopeDigestHex, descriptorFingerprintHex, receiptEvidencePath, isCast }

/-! ### The file -/

/-- What is at a path. -/
inductive CastNode where
  | absent
  | file (bytes : Bytes)
  | link
  | directory
deriving DecidableEq

/-- The record of a pair and the file `.castlock-tmp` beside it. -/
structure CastFiles where
  record : CastNode
  temporary : CastNode
deriving DecidableEq

/-- The steps of a write. -/
inductive CastOp where
  | removeTemporary
  | createTemporary
  | writeTemporary (bytes : Bytes)
  | flush
  | syncTemporary
  | rename
  | syncDirectory

/-- Whether a step worked. -/
def CastOp.Response (_ : CastOp) : Type := Bool

abbrev CastProgram := Program CastOp.Response

/-- How the file system lets a step end; a write may break off behind a part of the bytes. -/
inductive CastOutcome where
  | works
  | fails (written : Bytes)
deriving DecidableEq

/-- One step. What has been opened is a file. -/
def castExec : Program.Handler CastOp.Response CastOutcome CastFiles
  | .removeTemporary, .works, files =>
    match files.temporary with
    | .file _ | .link => (true, { files with temporary := .absent })
    | _ => (false, files)
  | .createTemporary, .works, files =>
    match files.temporary with
    | .absent => (true, { files with temporary := .file [] })
    | _ => (false, files)
  | .writeTemporary bytes, .works, files => (true, { files with temporary := .file bytes })
  | .writeTemporary _, .fails written, files => (false, { files with temporary := .file written })
  | .rename, .works, files =>
    match files.record with
    | .directory => (false, files)
    | _ => (true, { record := files.temporary, temporary := .absent })
  | _, .works, files => (true, files)
  | _, .fails _, files => (false, files)

/-- Goes on if the step works. -/
def castStep (op : CastOp) : ExceptT GuiCoreError CastProgram Unit :=
  .mk (.act op fun (worked : Bool) ↦
    .done (if worked then .ok () else .error (.ioFailure "cast-lock")))

/-- A step whose answer is not looked at. -/
def castAttempt (op : CastOp) : ExceptT GuiCoreError CastProgram Unit :=
  .mk (.act op fun _ ↦ .done (.ok ()))

/-- `write_record_bytes_atomic`; `voter_cast_lock.rs:1264`. -/
def writeRecordBytesAtomic (bytes : Bytes) : ExceptT GuiCoreError CastProgram Unit := do
  castAttempt .removeTemporary
  castStep .createTemporary
  castStep (.writeTemporary bytes)
  castStep .flush
  castStep .syncTemporary
  ExceptT.mk (.act .rename fun (renamed : Bool) ↦
    if renamed then (castAttempt .syncDirectory).run
    else .act .removeTemporary fun _ ↦ .done (.error (.ioFailure "cast-lock")))

/-- The record that `write_cast_record_pending_v1` writes. -/
def pendingCastRecord (manifestHashHex credentialFingerprintHex packageDigestHex : Text)
    (finalPath tempPath : Bytes) : VoterCastRecordV1 where
  electionManifestHashHex := manifestHashHex
  credentialFingerprintHex := credentialFingerprintHex
  packageDigestHex := packageDigestHex
  finalPath := .ofBytesLossy finalPath
  tempPath := .ofBytesLossy tempPath
  isCast := false

/-- `write_cast_record_pending_v1`; `voter_cast_lock.rs:386`. -/
def writeCastRecordPendingV1 (manifestHashHex credentialFingerprintHex packageDigestHex : Text)
    (finalPath tempPath : Bytes) : ExceptT GuiCoreError CastProgram Unit :=
  writeRecordBytesAtomic (pendingCastRecord manifestHashHex credentialFingerprintHex
    packageDigestHex finalPath tempPath).encode

/-- The record that `write_cast_record_pending_private_transport_v1` writes. -/
def pendingReleaseRecord (manifestHashHex credentialFingerprintHex packageDigestHex : Text)
    (stagedEnvelopePath : Bytes) (stagedEnvelopeDigestHex descriptorFingerprintHex : Text)
    (receiptEvidencePath : Bytes) : OnlineReleaseRecordV3 where
  electionManifestHashHex := manifestHashHex
  credentialFingerprintHex := credentialFingerprintHex
  packageDigestHex := packageDigestHex
  stagedEnvelopePath := .ofBytesLossy stagedEnvelopePath
  stagedEnvelopeDigestHex := stagedEnvelopeDigestHex
  descriptorFingerprintHex := descriptorFingerprintHex
  receiptEvidencePath := .ofBytesLossy receiptEvidencePath
  isCast := false

/-- `write_cast_record_pending_private_transport_v1`; `voter_cast_lock.rs:537`. -/
def writeCastRecordPendingPrivateTransportV1
    (manifestHashHex credentialFingerprintHex packageDigestHex : Text)
    (stagedEnvelopePath : Bytes) (stagedEnvelopeDigestHex descriptorFingerprintHex : Text)
    (receiptEvidencePath : Bytes) : ExceptT GuiCoreError CastProgram Unit :=
  writeRecordBytesAtomic (pendingReleaseRecord manifestHashHex credentialFingerprintHex
    packageDigestHex stagedEnvelopePath stagedEnvelopeDigestHex descriptorFingerprintHex
    receiptEvidencePath).encode

/-- `RecordRead`; `voter_cast_lock.rs:1219`. -/
inductive CastRecordRead where
  | absent
  | malformed
  | validOffline (record : VoterCastRecordV1)
  | validOnline (record : OnlineReleaseRecordV3)
deriving DecidableEq

/-- What `read_cast_record` makes of the bytes it has read. -/
def decodeCastRecord (bytes : Bytes) : CastRecordRead :=
  match VoterCastRecordV1.decode bytes with
  | some record => .validOffline record
  | none => match OnlineReleaseRecordV3.decode bytes with
    | some record => .validOnline record
    | none => .malformed

/-- `read_cast_record`; `voter_cast_lock.rs:1226`. The operating system may refuse to say what is at
the path, or to read it. -/
def readCastRecord (metadata read : Bool) (node : CastNode) : CastRecordRead :=
  if metadata then
    match node with
    | .absent => .absent
    | .file bytes =>
      if maxCastRecordBytesV1 < bytes.length then .malformed
      else if read then decodeCastRecord bytes else .malformed
    | .link | .directory => .malformed
  else .malformed

end PrivateBallot.GuiCore
