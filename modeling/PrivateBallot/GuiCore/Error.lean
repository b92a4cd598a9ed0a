import PrivateBallot.Protocol.Error

/-!
# GUI errors

Library `GuiCore`. `crates/gui-core/src/error.rs`: every error of the GUI boundary has a
stable machine code, a category, the artifact or stage it names and a fixed message.
-/

namespace PrivateBallot.GuiCore

open PrivateBallot.Protocol

/-- `GuiErrorCategory` -/
inductive GuiErrorCategory where
  | invalidInput
  | unsupportedFormat
  | bindingMismatch
  | proofFailure
  | duplicateBallot
  | invalidLifecycleTransition
  | archiveIntegrity
  | fileIo
  | anchorArtifactIntegrity
  | unavailable
deriving DecidableEq, Repr

/-- `GuiCoreError` -/
structure GuiCoreError where
  code : String
  category : GuiErrorCategory
  context : Option String
  message : String
deriving DecidableEq, Repr

/-- `Result<α, GuiCoreError>` -/
abbrev GuiResult (α : Type) := Except GuiCoreError α

/-- `category_for_validation`; `crates/gui-core/src/error.rs:844`. -/
def categoryForValidation : ValidationCode → GuiErrorCategory
  | .duplicateNullifier => .duplicateBallot
  | .malformedProof => .proofFailure
  | .wrongManifestHash | .candidateSetCommitmentMismatch | .lifecycleCommitmentMismatch
  | .ballotDecisionDigestMismatch => .bindingMismatch
  | .invalidLifecycleTransition | .electionNotOpen => .invalidLifecycleTransition
  | .unsupportedProtocolVersion | .unsupportedHashAlgorithm | .unsupportedProofSuite =>
    .unsupportedFormat
  | .archiveFileDigestMismatch | .archiveManifestHashMismatch | .invalidArchiveManifest
  | .emptyArchiveFileSet | .emptyArchivePath | .invalidArchivePath | .duplicateArchivePath
  | .invalidIngestSequence | .duplicateBallotDecision | .incompleteVerificationTranscript =>
    .archiveIntegrity
  | _ => .invalidInput

namespace GuiCoreError

/-- `GuiCoreError::from_protocol` -/
def fromProtocol (error : ProtocolError) (context : String) : GuiCoreError :=
  ⟨error.code.asStr, categoryForValidation error.code, some context, error.message⟩

/-- `GuiCoreError::file_not_found` -/
def fileNotFound (context : String) : GuiCoreError :=
  ⟨"GUI_FILE_NOT_FOUND", .fileIo, some context, "a required file was not found"⟩

/-- `GuiCoreError::io_failure` -/
def ioFailure (context : String) : GuiCoreError :=
  ⟨"GUI_IO_ERROR", .fileIo, some context, "a filesystem operation failed"⟩

/-- `GuiCoreError::registry_commitment_mismatch` -/
def registryCommitmentMismatch : GuiCoreError :=
  ⟨"GUI_REGISTRY_COMMITMENT_MISMATCH", .bindingMismatch, some "registry",
    "the voter registry commitment does not match the election manifest"⟩

end GuiCoreError

/-- `.map_err(|e| GuiCoreError::from_protocol(&e, context))` -/
def ofProtocol {α : Type} (context : String) (x : Result α) : GuiResult α :=
  x.mapError (GuiCoreError.fromProtocol · context)

/-- Renaming the error keeps success. -/
@[simp] theorem ofProtocol_eq_ok {α : Type} (context : String) (x : Result α) (a : α) :
    ofProtocol context x = .ok a ↔ x = .ok a := by
  cases x with
  | error e => simp [ofProtocol, Except.mapError]
  | ok b => simp [ofProtocol, Except.mapError]

end PrivateBallot.GuiCore
