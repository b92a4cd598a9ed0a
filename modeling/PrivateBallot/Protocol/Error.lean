import Mathlib.Data.List.Forall2
import PrivateBallot.Base.Text

/-!
# Validation codes, protocol errors and resource limits

Library `Protocol`. `crates/protocol/src/lib.rs:42-195` (stable rejection codes and the error
that carries one) and `crates/protocol/src/limits.rs` (the conservative limits every decoder
and constructor checks). A fallible function of the source returns `Result α`.
-/

namespace PrivateBallot.Protocol

open PrivateBallot.Base

/-- Stable protocol validation categories; `crates/protocol/src/lib.rs:42`. -/
inductive ValidationCode where
  | unsupportedProtocolVersion
  | wrongManifestHash
  | unsupportedProofSuite
  | malformedProof
  | emptyNullifier
  | duplicateNullifier
  | invalidData
  | protocolLimitExceeded
  | invalidCbor
  | nonCanonicalCbor
  | unexpectedCborType
  | trailingCborData
  | emptyElectionId
  | emptyProposalQuestion
  | invalidProposalQuestion
  | nonNfcProposalQuestion
  | emptyProofSuiteId
  | emptyGovernanceSourceRevision
  | emptyRegistry
  | emptyGovernanceKey
  | duplicateGovernanceKey
  | emptyCandidateSet
  | emptyCandidateId
  | emptyCandidateDisplayName
  | duplicateCandidateId
  | candidateSetCommitmentMismatch
  | invalidSelectionLimits
  | selectionCountOutOfRange
  | duplicateSelection
  | unknownCandidateId
  | invalidLifecycleTransition
  | electionNotOpen
  | lifecycleCommitmentMismatch
  | invalidIngestSequence
  | duplicateBallotDecision
  | ballotDecisionDigestMismatch
  | incompleteVerificationTranscript
  | emptyArchiveFileSet
  | emptyArchivePath
  | invalidArchivePath
  | duplicateArchivePath
  | archiveFileDigestMismatch
  | emptyHashAlgorithmId
  | unsupportedHashAlgorithm
  | invalidArchiveManifest
  | archiveManifestHashMismatch
deriving DecidableEq, Repr

/-- The stable machine-readable rejection code; `crates/protocol/src/lib.rs:94`. -/
def ValidationCode.asStr : ValidationCode → String
  | .unsupportedProtocolVersion => "UNSUPPORTED_PROTOCOL_VERSION"
  | .wrongManifestHash => "WRONG_MANIFEST_HASH"
  | .unsupportedProofSuite => "UNSUPPORTED_PROOF_SUITE"
  | .malformedProof => "MALFORMED_PROOF"
  | .emptyNullifier => "EMPTY_NULLIFIER"
  | .duplicateNullifier => "DUPLICATE_NULLIFIER"
  | .invalidData => "INVALID_DATA"
  | .protocolLimitExceeded => "PROTOCOL_LIMIT_EXCEEDED"
  | .invalidCbor => "INVALID_CBOR"
  | .nonCanonicalCbor => "NON_CANONICAL_CBOR"
  | .unexpectedCborType => "UNEXPECTED_CBOR_TYPE"
  | .trailingCborData => "TRAILING_CBOR_DATA"
  | .emptyElectionId => "EMPTY_ELECTION_ID"
  | .emptyProposalQuestion => "EMPTY_PROPOSAL_QUESTION"
  | .invalidProposalQuestion => "INVALID_PROPOSAL_QUESTION"
  | .nonNfcProposalQuestion => "NON_NFC_PROPOSAL_QUESTION"
  | .emptyProofSuiteId => "EMPTY_PROOF_SUITE_ID"
  | .emptyGovernanceSourceRevision => "EMPTY_GOVERNANCE_SOURCE_REVISION"
  | .emptyRegistry => "EMPTY_REGISTRY"
  | .emptyGovernanceKey => "EMPTY_GOVERNANCE_KEY"
  | .duplicateGovernanceKey => "DUPLICATE_GOVERNANCE_KEY"
  | .emptyCandidateSet => "EMPTY_CANDIDATE_SET"
  | .emptyCandidateId => "EMPTY_CANDIDATE_ID"
  | .emptyCandidateDisplayName => "EMPTY_CANDIDATE_DISPLAY_NAME"
  | .duplicateCandidateId => "DUPLICATE_CANDIDATE_ID"
  | .candidateSetCommitmentMismatch => "CANDIDATE_SET_COMMITMENT_MISMATCH"
  | .invalidSelectionLimits => "INVALID_SELECTION_LIMITS"
  | .selectionCountOutOfRange => "SELECTION_COUNT_OUT_OF_RANGE"
  | .duplicateSelection => "DUPLICATE_SELECTION"
  | .unknownCandidateId => "UNKNOWN_CANDIDATE_ID"
  | .invalidLifecycleTransition => "INVALID_LIFECYCLE_TRANSITION"
  | .electionNotOpen => "ELECTION_NOT_OPEN"
  | .lifecycleCommitmentMismatch => "LIFECYCLE_COMMITMENT_MISMATCH"
  | .invalidIngestSequence => "INVALID_INGEST_SEQUENCE"
  | .duplicateBallotDecision => "DUPLICATE_BALLOT_DECISION"
  | .ballotDecisionDigestMismatch => "BALLOT_DECISION_DIGEST_MISMATCH"
  | .incompleteVerificationTranscript => "INCOMPLETE_VERIFICATION_TRANSCRIPT"
  | .emptyArchiveFileSet => "EMPTY_ARCHIVE_FILE_SET"
  | .emptyArchivePath => "EMPTY_ARCHIVE_PATH"
  | .invalidArchivePath => "INVALID_ARCHIVE_PATH"
  | .duplicateArchivePath => "DUPLICATE_ARCHIVE_PATH"
  | .archiveFileDigestMismatch => "ARCHIVE_FILE_DIGEST_MISMATCH"
  | .emptyHashAlgorithmId => "EMPTY_HASH_ALGORITHM_ID"
  | .unsupportedHashAlgorithm => "UNSUPPORTED_HASH_ALGORITHM"
  | .invalidArchiveManifest => "INVALID_ARCHIVE_MANIFEST"
  | .archiveManifestHashMismatch => "ARCHIVE_MANIFEST_HASH_MISMATCH"

/-- Deterministic protocol validation failure; `crates/protocol/src/lib.rs:148`. -/
structure ProtocolError where
  code : ValidationCode
  message : String
deriving DecidableEq, Repr

/-- `Result<α, ProtocolError>` -/
abbrev Result (α : Type) := Except ProtocolError α

/-- `Err(ProtocolError::new(code, message))` -/
def fail {α : Type} (code : ValidationCode) (message : String) : Result α :=
  .error ⟨code, message⟩

/-- The recurring guard `if refused { return Err(..) }`. -/
def refuseIf (refused : Bool) (code : ValidationCode) (message : String) : Result Unit :=
  if refused then fail code message else .ok ()

/-- First protocol version implemented by the workspace. -/
def protocolVersionV1 : Nat := 1

/-! ### Limits (`crates/protocol/src/limits.rs`) -/

def maxCanonicalObjectBytes : Nat := 1048576
def maxArchivePathBytes : Nat := 1024
def maxArchiveFiles : Nat := 65536
def maxHashAlgorithmIdBytes : Nat := 128
def maxRegistryMembers : Nat := 4096
def maxGovernanceKeyBytes : Nat := 128
def maxCandidates : Nat := 256
def maxCandidateIdBytes : Nat := 128
def maxCandidateDisplayNameBytes : Nat := 512
def maxElectionIdBytes : Nat := 128
def maxProposalQuestionBytes : Nat := 512
def maxProofSuiteIdBytes : Nat := 128
def maxGovernanceRevisionBytes : Nat := 256
def maxProofStatementBytes : Nat := 4096
def maxBallotKindIdBytes : Nat := 64
def maxBallotConfidentialityIdBytes : Nat := 64
def maxProofBytes : Nat := 65536
def maxNullifierBytes : Nat := 128

/-- `refuseIf` succeeds exactly when its condition is false. -/
@[simp] theorem refuseIf_eq_ok (refused : Bool) (code : ValidationCode) (message : String)
    (u : Unit) : refuseIf refused code message = .ok u ↔ refused = false := by
  cases refused <;> simp [refuseIf, fail]

/-- A sequence of two fallible steps succeeds exactly when both do. -/
theorem bind_eq_ok {ε α β : Type} {x : Except ε α} {f : α → Except ε β} {b : β} :
    (x >>= f) = .ok b ↔ ∃ a, x = .ok a ∧ f a = .ok b := by
  cases x with
  | error e => simp [bind, Except.bind]
  | ok a => simp [bind, Except.bind]

/-- A mapped fallible step succeeds exactly when the step does. -/
theorem map_eq_ok {ε α β : Type} {x : Except ε α} {f : α → β} {b : β} :
    f <$> x = .ok b ↔ ∃ a, x = .ok a ∧ f a = b := by
  cases x with
  | error e => simp [Functor.map, Except.map]
  | ok a => simp [Functor.map, Except.map]

/-- A fallible map succeeds exactly when it does at every member. -/
theorem mapM_eq_ok {ε α β : Type} {f : α → Except ε β} {xs : List α} {ys : List β} :
    xs.mapM f = .ok ys ↔ List.Forall₂ (fun x y ↦ f x = .ok y) xs ys := by
  induction xs generalizing ys with
  | nil =>
    rw [List.mapM_nil, List.forall₂_nil_left_iff]
    exact ⟨fun h ↦ (Except.ok.inj h).symm, fun h ↦ congrArg Except.ok h.symm⟩
  | cons x xs ih =>
    rw [List.mapM_cons, bind_eq_ok, List.forall₂_cons_left_iff]
    constructor
    · rintro ⟨y, hy, h⟩
      obtain ⟨rest, hrest, hys⟩ := bind_eq_ok.mp h
      exact ⟨y, rest, hy, ih.mp hrest, (Except.ok.inj hys).symm⟩
    · rintro ⟨y, rest, hy, hrest, rfl⟩
      exact ⟨y, hy, bind_eq_ok.mpr ⟨rest, ih.mpr hrest, rfl⟩⟩

/-- A check of every member succeeds exactly when the check of each does. -/
theorem forM_eq_ok {ε α : Type} {f : α → Except ε Unit} {xs : List α} :
    xs.forM f = .ok () ↔ ∀ x ∈ xs, f x = .ok () := by
  induction xs with
  | nil => exact ⟨fun _ x h ↦ absurd h List.not_mem_nil, fun _ ↦ rfl⟩
  | cons x xs ih =>
    show (f x >>= fun _ ↦ xs.forM f) = .ok () ↔ _
    rw [bind_eq_ok, List.forall_mem_cons, ← ih]
    exact ⟨fun ⟨_, hx, hxs⟩ ↦ ⟨hx, hxs⟩, fun ⟨hx, hxs⟩ ↦ ⟨(), hx, hxs⟩⟩

/-- What an encoder with a size limit returns is within the limit. -/
theorem length_le_of_limited {α : Type} {encoded result : List α} {limit : Nat}
    {code : ValidationCode} {message : String}
    (h : (do
      refuseIf (decide (limit < encoded.length)) code message
      pure encoded : Result (List α)) = .ok result) : result.length ≤ limit := by
  obtain ⟨u, hlimit, hresult⟩ := bind_eq_ok.mp h
  rw [refuseIf_eq_ok, decide_eq_false_iff_not] at hlimit
  cases hresult
  exact Nat.le_of_not_lt hlimit

end PrivateBallot.Protocol
