import PrivateBallot.Base.ProgramParts
import PrivateBallot.GuiCore.CastRecordCodec
import Mathlib.Data.List.DropRight
import Mathlib.Logic.Function.Basic

/-!
# The files around a released ballot

Library `GuiCore`. The steps in which `voter_cast_lock.rs` and the releasing calls of
`voter_session.rs` touch the disk and the network, and what each does. Besides the disk the world
holds what has left for good: what has appeared under a final name, and the envelopes that the
carrier was given. A path is its bytes, and two paths are two places.
-/

namespace PrivateBallot.GuiCore

open PrivateBallot.Base

/-! ### Paths -/

/-- `Path::join` of a directory and a plain name. -/
def joinFile (directory name : Bytes) : Bytes := directory ++ 0x2f :: name

/-- `Path::with_extension` of a path whose last name does not begin with a dot. -/
def withExtension (path extension : Bytes) : Bytes :=
  let before := path.rdropWhile fun b ↦ b.toNat ≠ 0x2e && b.toNat ≠ 0x2f
  let stem := if before.getLast? = some 0x2e then before.dropLast else path
  stem ++ 0x2e :: extension

def castRecordFileSuffix : Bytes := (Text.lit ".castlock").toBytes
def stagedEnvelopeFileSuffix : Bytes := (Text.lit ".release-envelope").toBytes
def releaseReceiptFileSuffix : Bytes := (Text.lit ".release-receipt").toBytes
def castTemporaryExtension : Bytes := (Text.lit "castlock-tmp").toBytes
def castPartSuffix : Bytes := (Text.lit ".castpart").toBytes

/-- The name of a file that belongs to a pair of a credential and an election. -/
def pairFileName (credentialFingerprintHex manifestHashHex : Text) (suffix : Bytes) : Bytes :=
  credentialFingerprintHex.toBytes ++ 0x2d :: manifestHashHex.toBytes ++ suffix

/-- `cast_record_path`; `voter_cast_lock.rs:1209`. -/
def castRecordPath (castLocksDir : Bytes) (credentialFingerprintHex manifestHashHex : Text) :
    Bytes :=
  joinFile castLocksDir (pairFileName credentialFingerprintHex manifestHashHex castRecordFileSuffix)

/-- `staged_release_envelope_path_v1` -/
def stagedReleaseEnvelopePathV1 (stagingDir : Bytes)
    (manifestHashHex credentialFingerprintHex : Text) : Bytes :=
  joinFile stagingDir
    (pairFileName credentialFingerprintHex manifestHashHex stagedEnvelopeFileSuffix)

/-- `release_receipt_evidence_path_v1` -/
def releaseReceiptEvidencePathV1 (stagingDir : Bytes)
    (manifestHashHex credentialFingerprintHex : Text) : Bytes :=
  joinFile stagingDir
    (pairFileName credentialFingerprintHex manifestHashHex releaseReceiptFileSuffix)

/-- `cast_temp_path`; `voter_session.rs:1972`. -/
def castTempPath (finalPath : Bytes) : Bytes := finalPath ++ castPartSuffix

/-- The sibling file of `write_record_bytes_atomic`. -/
def castTemporaryPath (path : Bytes) : Bytes := withExtension path castTemporaryExtension

/-! ### Steps -/

/-- `ErrorKind`, as far as the probe tells kinds apart. -/
inductive IoErrorKind where
  | unsupported
  | permissionDenied
  | notFound
  | alreadyExists
  | other
deriving DecidableEq, Repr

/-- `io::Result<()>` -/
abbrev IoAnswer := Except IoErrorKind Unit

/-- How the operating system answers the steps of a probe, which touches nothing but files of its
own with fresh names. -/
structure ProbeAnswers where
  source : IoAnswer
  placeholder : IoAnswer
  phaseA : IoAnswer
  existing : IoAnswer
  phaseB : IoAnswer

/-- How `create_new` ends. -/
inductive CreateAnswer where
  | created
  | alreadyExists
  | failed
deriving DecidableEq

/-- How `hard_link` ends. -/
inductive LinkAnswer where
  | linked
  | alreadyExists
  | failed
deriving DecidableEq

/-- The steps. -/
inductive ReleaseOp where
  | recordPresent (path : Bytes)
  | readRecord (path : Bytes)
  | readRegular (path : Bytes)
  | read (path : Bytes)
  | pathExists (path : Bytes)
  | remove (path : Bytes)
  | createNew (path : Bytes)
  | write (path bytes : Bytes)
  | sync (path : Bytes)
  | record (path : Bytes) (op : CastOp)
  | hardLink (source target : Bytes)
  | probe (finalPath : Bytes)
  | deliver (envelope : Bytes)

/-- What a step answers. -/
def ReleaseOp.Response : ReleaseOp → Type
  | .recordPresent _ => Option Bool
  | .readRecord _ => CastRecordRead
  | .readRegular _ | .read _ | .deliver _ => Option Bytes
  | .pathExists _ | .remove _ | .write _ _ | .sync _ | .record _ _ => Bool
  | .createNew _ => CreateAnswer
  | .hardLink _ _ => LinkAnswer
  | .probe _ => ProbeAnswers

abbrev ReleaseProgram := Program ReleaseOp.Response

/-- What the environment puts into one step: whether the operating system says what is at the path
and whether the step itself works, the bytes that arrive or that were written when it broke off,
and the answers to a probe. -/
structure ReleaseInput where
  metadata : Bool
  works : Bool
  bytes : Bytes
  probe : ProbeAnswers

/-- The disk, and what has left. -/
structure CastWorld where
  disk : Bytes → CastNode
  exposed : List CastNode
  delivered : List Bytes

namespace CastWorld

/-- The world with another file at a path. -/
def put (world : CastWorld) (path : Bytes) (node : CastNode) : CastWorld :=
  { world with disk := Function.update world.disk path node }

/-- The record at a path and the file beside it. -/
def files (world : CastWorld) (path : Bytes) : CastFiles :=
  ⟨world.disk path, world.disk (castTemporaryPath path)⟩

/-- The world with another record at a path, and another file beside it. -/
def putFiles (world : CastWorld) (path : Bytes) (files : CastFiles) : CastWorld :=
  (world.put (castTemporaryPath path) files.temporary).put path files.record

/-- `remove_file` -/
def removeFile (world : CastWorld) (path : Bytes) (works : Bool) : Bool × CastWorld :=
  match world.disk path with
  | .file _ | .link => if works then (true, world.put path .absent) else (false, world)
  | _ => (false, world)

/-- `OpenOptions::create_new` -/
def createNew (world : CastWorld) (path : Bytes) (works : Bool) : CreateAnswer × CastWorld :=
  if !works then (.failed, world)
  else match world.disk path with
    | .absent => (.created, world.put path (.file []))
    | _ => (.alreadyExists, world)

/-- `hard_link`, made whole or not at all. -/
def hardLink (world : CastWorld) (source target : Bytes) (works : Bool) : LinkAnswer × CastWorld :=
  if !works then (.failed, world)
  else match world.disk source, world.disk target with
    | .absent, _ | .directory, _ => (.failed, world)
    | node, .absent =>
      (.linked, { world.put target node with exposed := world.exposed ++ [node] })
    | _, _ => (.alreadyExists, world)

end CastWorld

/-- The outcome that a step of a record's write has. -/
def ReleaseInput.outcome (input : ReleaseInput) : CastOutcome :=
  if input.works then .works else .fails input.bytes

/-- One step. An envelope counts as delivered as soon as the carrier has it. -/
def releaseExec : Program.Handler ReleaseOp.Response ReleaseInput CastWorld
  | .recordPresent path, input, world =>
    (if input.metadata then some (decide (world.disk path ≠ .absent)) else none, world)
  | .readRecord path, input, world =>
    (readCastRecord input.metadata input.works (world.disk path), world)
  | .readRegular path, input, world =>
    (match world.disk path with
      | .file bytes => if input.metadata && input.works then some bytes else none
      | _ => none, world)
  | .read path, input, world =>
    (match world.disk path with
      | .file bytes => if input.works then some bytes else none
      | .link => if input.works then some input.bytes else none
      | _ => none, world)
  | .pathExists path, input, world =>
    (input.metadata && decide (world.disk path ≠ .absent), world)
  | .remove path, input, world => world.removeFile path input.works
  | .createNew path, input, world => world.createNew path input.works
  | .write path bytes, input, world =>
    (input.works, world.put path (.file (if input.works then bytes else input.bytes)))
  | .sync _, input, world => (input.works, world)
  | .record path op, input, world =>
    ((castExec op input.outcome (world.files path)).1,
      world.putFiles path (castExec op input.outcome (world.files path)).2)
  | .hardLink source target, input, world => world.hardLink source target input.works
  | .probe _, input, world => (input.probe, world)
  | .deliver envelope, input, world =>
    (if input.works then some input.bytes else none,
      { world with delivered := world.delivered ++ [envelope] })

end PrivateBallot.GuiCore
