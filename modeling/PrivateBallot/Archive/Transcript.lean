import PrivateBallot.Protocol.Hashing

/-!
# Verification transcript

Library `Archive`. `crates/archive/src/replay.rs`: every submission in ingest order and one
decision for each, bound to it by sequence number and package digest.
-/

namespace PrivateBallot.Archive

open PrivateBallot.Base
open PrivateBallot.Protocol

/-- `BallotPackageDigestV1` -/
abbrev BallotPackageDigestV1 := Bytes32

/-- The digest of a package's bytes. -/
def packageDigest (provider : HashProvider) (packageBytes : Bytes) : BallotPackageDigestV1 :=
  hashDomainSeparated provider .ballotPackageV1 packageBytes

/-- `SubmissionRecordV1` -/
structure SubmissionRecordV1 where
  sequence : Nat
  packageDigest : BallotPackageDigestV1
  receivedBeforeClose : Bool
deriving DecidableEq

/-- `BallotDecisionOutcomeV1` -/
inductive BallotDecisionOutcomeV1 where
  | accepted
  | rejected (code : ValidationCode)
deriving DecidableEq, Repr

/-- The decision an ingest result is recorded as. -/
def BallotDecisionOutcomeV1.ofResult : Result Unit → BallotDecisionOutcomeV1
  | .ok () => .accepted
  | .error e => .rejected e.code

/-- `BallotDecisionV1` -/
structure BallotDecisionV1 where
  sequence : Nat
  packageDigest : BallotPackageDigestV1
  outcome : BallotDecisionOutcomeV1
deriving DecidableEq

/-- `VerificationTranscriptV1` -/
structure VerificationTranscriptV1 where
  manifestHash : ManifestHash
  submissions : List SubmissionRecordV1
  decisions : List BallotDecisionV1
deriving DecidableEq

namespace VerificationTranscriptV1

/-- `VerificationTranscriptV1::new` -/
def new (manifestHash : ManifestHash) : VerificationTranscriptV1 := ⟨manifestHash, [], []⟩

/-- `record_submission`: the next sequence number; a `usize` index always fits a `u64`. -/
def recordSubmission (self : VerificationTranscriptV1) (digest : BallotPackageDigestV1)
    (receivedBeforeClose : Bool) : Nat × VerificationTranscriptV1 :=
  (self.submissions.length,
    { self with submissions := self.submissions ++
        [⟨self.submissions.length, digest, receivedBeforeClose⟩] })

/-- `record_decision`; `crates/archive/src/replay.rs:179`. -/
def recordDecision (self : VerificationTranscriptV1) (sequence : Nat)
    (digest : BallotPackageDigestV1) (outcome : BallotDecisionOutcomeV1) :
    Result VerificationTranscriptV1 :=
  if sequence < self.decisions.length then
    fail .duplicateBallotDecision "a decision already exists for this ingest sequence"
  else if self.decisions.length < sequence then
    fail .invalidIngestSequence "ballot decisions must follow contiguous ingest order"
  else match self.submissions[sequence]? with
  | none =>
    fail .invalidIngestSequence "ballot decision does not reference an archived submission"
  | some submission =>
    if submission.packageDigest ≠ digest then
      fail .ballotDecisionDigestMismatch
        "ballot decision digest differs from the archived submission"
    else .ok { self with decisions := self.decisions ++ [⟨sequence, digest, outcome⟩] }

/-- One submission with its decision, when every earlier one is decided. -/
theorem recordDecision_recordSubmission (self : VerificationTranscriptV1)
    (digest : BallotPackageDigestV1) (receivedBeforeClose : Bool)
    (outcome : BallotDecisionOutcomeV1)
    (h : self.decisions.length = self.submissions.length) :
    (self.recordSubmission digest receivedBeforeClose).2.recordDecision
        (self.recordSubmission digest receivedBeforeClose).1 digest outcome =
      .ok ⟨self.manifestHash,
        self.submissions ++ [⟨self.submissions.length, digest, receivedBeforeClose⟩],
        self.decisions ++ [⟨self.submissions.length, digest, outcome⟩]⟩ := by
  simp [recordDecision, recordSubmission, h]

/-- `accepted_count` -/
def acceptedCount (self : VerificationTranscriptV1) : Nat :=
  (self.decisions.filter (·.outcome = .accepted)).length

/-- `rejected_count` -/
def rejectedCount (self : VerificationTranscriptV1) : Nat :=
  self.decisions.length - self.acceptedCount

/-- `validate_complete` -/
def validateComplete (self : VerificationTranscriptV1) : Result Unit :=
  if self.submissions.length ≠ self.decisions.length then
    fail .incompleteVerificationTranscript
      "verification transcript does not decide every submission"
  else (self.submissions.zip self.decisions).forM fun (submission, decision) ↦ do
    refuseIf (decide (submission.sequence ≠ decision.sequence)) .invalidIngestSequence
      "submission and decision sequence numbers differ"
    refuseIf (decide (submission.packageDigest ≠ decision.packageDigest))
      .ballotDecisionDigestMismatch "submission and decision package digests differ"

end VerificationTranscriptV1

end PrivateBallot.Archive
