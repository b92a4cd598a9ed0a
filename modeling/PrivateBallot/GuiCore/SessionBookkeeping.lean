import PrivateBallot.GuiCore.SessionReplay

/-!
# Session bookkeeping

Library `GuiCore`. `crates/gui-core/src/session.rs:350-388,564-733`: the packages, submissions,
decisions, accepted ballots and the digest index of a session stay in step on every path that
records a package.
-/

namespace PrivateBallot.GuiCore

open PrivateBallot.Base PrivateBallot.Protocol PrivateBallot.Ballot
open PrivateBallot.Crypto PrivateBallot.Verifier PrivateBallot.Archive

namespace GuiElectionSessionV1

/-- `decisions().iter().find(|d| d.package_digest() == digest)`: the linear search the index
stands for. -/
def firstDecision (self : GuiElectionSessionV1) (digest : BallotPackageDigestV1) :
    Option BallotDecisionV1 :=
  self.transcript.decisions.find? fun decision ↦ decide (decision.packageDigest = digest)

/-- The packages whose decision is an acceptance, in order. -/
def acceptedPackages (self : GuiElectionSessionV1) : List Bytes :=
  ((self.packages.zip self.transcript.decisions).filter fun entry ↦
    decide (entry.2.outcome = .accepted)).map Prod.fst

/-- The ledger entry a package verifies to. -/
def verifiedEntry (prims : Primitives) (self : GuiElectionSessionV1) (packageBytes : Bytes) :
    Option AcceptedBallot :=
  match verifyApprovalBallotPackageV1 (self.context prims) packageBytes with
  | .ok ballot => some ballot.toAccepted
  | .error _ => none

/-- The five sequences are in step. -/
structure Bookkeeping (prims : Primitives) (session : GuiElectionSessionV1) : Prop where
  submissions : session.transcript.submissions = session.packages.mapIdx fun i packageBytes ↦
    ⟨i, packageDigest prims.provider packageBytes, true⟩
  decisions : session.transcript.decisions.map (fun d ↦ (d.sequence, d.packageDigest)) =
    session.packages.mapIdx fun i packageBytes ↦ (i, packageDigest prims.provider packageBytes)
  accepted : session.ledger.acceptedBallots.map some =
    session.acceptedPackages.map (session.verifiedEntry prims)
  index : ∀ digest, session.privateIntakeDigestIndex.lookup digest =
    (session.firstDecision digest).map fun d ↦ ⟨d.sequence, d.outcome⟩

variable {prims : Primitives} {session : GuiElectionSessionV1}

theorem Bookkeeping.length_submissions (h : Bookkeeping prims session) :
    session.transcript.submissions.length = session.packages.length := by
  rw [h.submissions, List.length_mapIdx]

theorem Bookkeeping.length_decisions (h : Bookkeeping prims session) :
    session.transcript.decisions.length = session.packages.length := by
  have hlen := congrArg List.length h.decisions
  rwa [List.length_map, List.length_mapIdx] at hlen

theorem bookkeeping_of_new {artifacts : GuiElectionArtifactsV1}
    (h : GuiElectionSessionV1.new prims artifacts = .ok session) : Bookkeeping prims session := by
  simp only [GuiElectionSessionV1.new, bind_eq_ok, ofProtocol_eq_ok] at h
  obtain ⟨verifier, -, lifecycle, -, hsession⟩ := h
  cases hsession
  exact ⟨rfl, rfl, rfl, fun _ ↦ rfl⟩

/-- What the ledger does with a package: it appends the verified entry of an accepted one. -/
theorem ingestOf_cases (session : GuiElectionSessionV1) (prims : Primitives)
    (packageBytes : Bytes) :
    (∃ ballot, (session.ingestOf prims packageBytes).1 = .ok () ∧
      session.verifiedEntry prims packageBytes = some ballot ∧
      (session.ingestOf prims packageBytes).2.acceptedBallots =
        session.ledger.acceptedBallots ++ [ballot]) ∨
    (∃ e, (session.ingestOf prims packageBytes).1 = .error e ∧
      (session.ingestOf prims packageBytes).2 = session.ledger) := by
  unfold ingestOf verifiedEntry ingestApprovalBallotPackageV1
  cases verifyApprovalBallotPackageV1 (session.context prims) packageBytes with
  | error e => exact Or.inr ⟨e, rfl, rfl⟩
  | ok ballot =>
    simp only [BallotAcceptanceLedger.acceptVerified]
    cases session.lifecycle.validateBallotStatement ballot.proof.statement with
    | error e => exact Or.inr ⟨e, rfl, rfl⟩
    | ok u =>
      by_cases hseen : ballot.proof.nullifier ∈ session.ledger.seenNullifiers
      · right
        rw [if_pos hseen]
        exact ⟨_, rfl, rfl⟩
      · left
        rw [if_neg hseen]
        exact ⟨_, rfl, rfl, rfl⟩

/-- The first decision after one more was recorded. -/
private theorem firstDecision_recorded (packageBytes : Bytes) (digest : BallotPackageDigestV1) :
    (session.recorded prims packageBytes).firstDecision digest =
      (session.firstDecision digest).or
        (if packageDigest prims.provider packageBytes = digest then
          some ⟨session.transcript.submissions.length, packageDigest prims.provider packageBytes,
            .ofResult (session.ingestOf prims packageBytes).1⟩
        else none) := by
  unfold firstDecision recorded
  rw [List.find?_append]
  congr 1
  by_cases heq : packageDigest prims.provider packageBytes = digest
  · simp [heq]
  · simp [heq]

private theorem lookup_indexFirst
    (index : AList fun _ : BallotPackageDigestV1 ↦ TranscriptDecisionIndexEntryV1)
    (key digest : BallotPackageDigestV1) (entry : TranscriptDecisionIndexEntryV1) :
    (indexFirst index key entry).lookup digest =
      (index.lookup digest).or (if key = digest then some entry else none) := by
  unfold indexFirst
  split
  · next hmem =>
    by_cases heq : key = digest
    · subst heq
      obtain ⟨found, hfound⟩ := Option.isSome_iff_exists.mp (AList.lookup_isSome.mpr hmem)
      rw [hfound, Option.some_or]
    · rw [if_neg heq, Option.or_none]
  · next hmem =>
    by_cases heq : key = digest
    · subst heq
      rw [AList.lookup_insert, AList.lookup_eq_none.mpr hmem, if_pos rfl, Option.none_or]
    · rw [AList.lookup_insert_ne (Ne.symm heq), if_neg heq, Option.or_none]

/-- Whether one more package is accepted is decided by its ingest. -/
theorem Bookkeeping.acceptedPackages_recorded (h : Bookkeeping prims session)
    (packageBytes : Bytes) :
    (session.recorded prims packageBytes).acceptedPackages = session.acceptedPackages ++
      if BallotDecisionOutcomeV1.ofResult (session.ingestOf prims packageBytes).1 = .accepted
      then [packageBytes] else [] := by
  have hdecisions := h.length_decisions
  unfold acceptedPackages GuiElectionSessionV1.recorded
  rw [List.zip_append hdecisions.symm, List.filter_append, List.map_append]
  congr 1
  by_cases hout : BallotDecisionOutcomeV1.ofResult (session.ingestOf prims packageBytes).1 =
      .accepted
  · simp [hout]
  · simp [hout]

/-- Recording a package keeps the five sequences in step. -/
theorem Bookkeeping.recorded (h : Bookkeeping prims session) (packageBytes : Bytes) :
    Bookkeeping prims (session.recorded prims packageBytes) := by
  have hsubmissions := h.length_submissions
  have hdecisions := h.length_decisions
  refine ⟨?_, ?_, ?_, ?_⟩
  · show session.transcript.submissions ++ [_] = (session.packages ++ [packageBytes]).mapIdx _
    rw [List.mapIdx_concat, ← h.submissions, hsubmissions]
  · show (session.transcript.decisions ++ [_]).map _ =
      (session.packages ++ [packageBytes]).mapIdx _
    rw [List.mapIdx_concat, List.map_append, h.decisions, List.map_singleton, hsubmissions]
  · have hpackages := h.acceptedPackages_recorded packageBytes
    have hentry : (session.recorded prims packageBytes).verifiedEntry prims =
        session.verifiedEntry prims := rfl
    have hledger : (session.recorded prims packageBytes).ledger =
        (session.ingestOf prims packageBytes).2 := rfl
    rw [hpackages, hentry, hledger, List.map_append, ← h.accepted]
    rcases session.ingestOf_cases prims packageBytes with
      ⟨ballot, hresult, hverified, happended⟩ | ⟨e, hresult, hsame⟩
    · rw [happended, hresult, List.map_append]
      simp [BallotDecisionOutcomeV1.ofResult, hverified]
    · rw [hsame, hresult]
      simp [BallotDecisionOutcomeV1.ofResult]
  · intro digest
    show (indexFirst session.privateIntakeDigestIndex _ _).lookup digest = _
    rw [lookup_indexFirst, firstDecision_recorded, h.index digest]
    cases session.firstDecision digest with
    | some decision => rfl
    | none =>
      rw [Option.map_none, Option.none_or, Option.none_or]
      split
      · rfl
      · rfl

theorem Bookkeeping.recordedAll (h : Bookkeeping prims session) (packages : List Bytes) :
    Bookkeeping prims (session.recordedAll prims packages) := by
  induction packages using List.reverseRecOn with
  | nil => exact h
  | append_singleton packages packageBytes ih =>
    rw [recordedAll_append_singleton]
    exact ih.recorded packageBytes

/-- Neither the lifecycle state nor the cache takes part. -/
theorem Bookkeeping.inState (h : Bookkeeping prims session) (state : ElectionLifecycleStateV1)
    (cache : AList fun _ : BallotPackageDigestV1 ↦ PrivateInboxFileValidationV1) :
    Bookkeeping prims (session.inState state cache) :=
  ⟨h.submissions, h.decisions, h.accepted, h.index⟩

theorem IsReplayed.bookkeeping (h : IsReplayed prims session) : Bookkeeping prims session := by
  obtain ⟨fresh, hnew, hsession⟩ := h.replayed
  rw [hsession]
  exact (((bookkeeping_of_new hnew).inState .opened ∅).recordedAll session.packages).inState _ _

/-! ### What follows -/

theorem Bookkeeping.at_index (h : Bookkeeping prims session) {i : Nat} {packageBytes : Bytes}
    (hi : session.packages[i]? = some packageBytes) :
    session.transcript.submissions[i]? =
        some ⟨i, packageDigest prims.provider packageBytes, true⟩ ∧
      ∃ outcome, session.transcript.decisions[i]? =
        some ⟨i, packageDigest prims.provider packageBytes, outcome⟩ := by
  constructor
  · rw [h.submissions, List.getElem?_mapIdx, hi]
    rfl
  · have hmap := congrArg (fun l ↦ l[i]?) h.decisions
    simp only [List.getElem?_map, List.getElem?_mapIdx, hi, Option.map_some] at hmap
    obtain ⟨⟨sequence, digest, outcome⟩, hdecision, heq⟩ := Option.map_eq_some_iff.mp hmap
    cases heq
    exact ⟨outcome, hdecision⟩

/-- The transcript decides every submission. -/
theorem Bookkeeping.validateComplete (h : Bookkeeping prims session) :
    session.transcript.validateComplete = .ok () := by
  have hlength : session.transcript.submissions.length = session.transcript.decisions.length := by
    rw [h.length_submissions, h.length_decisions]
  unfold VerificationTranscriptV1.validateComplete
  rw [if_neg (not_not.mpr hlength)]
  apply forM_eq_ok.mpr
  rintro ⟨submission, decision⟩ hmem
  obtain ⟨i, hi⟩ := List.mem_iff_getElem?.mp hmem
  obtain ⟨hsubmission, hdecision⟩ := List.getElem?_zip_eq_some.mp hi
  have hlt : i < session.packages.length := by
    rw [← h.length_submissions]
    exact (List.getElem?_eq_some_iff.mp hsubmission).1
  obtain ⟨hs, outcome, hd⟩ := h.at_index (List.getElem?_eq_getElem hlt)
  rw [hsubmission] at hs
  rw [hdecision] at hd
  cases hs
  cases hd
  simp [refuseIf]
  rfl

/-- A decision found by the linear search is at its own sequence number. -/
theorem Bookkeeping.firstDecision_eq_some (h : Bookkeeping prims session)
    {digest : BallotPackageDigestV1} {decision : BallotDecisionV1}
    (hfirst : session.firstDecision digest = some decision) :
    decision.packageDigest = digest ∧
      session.transcript.decisions[decision.sequence]? = some decision := by
  have hdigest := List.find?_some hfirst
  obtain ⟨i, hi⟩ := List.mem_iff_getElem?.mp (List.mem_of_find?_eq_some hfirst)
  have hlt : i < session.packages.length := by
    rw [← h.length_decisions]
    exact (List.getElem?_eq_some_iff.mp hi).1
  obtain ⟨-, outcome, hd⟩ := h.at_index (List.getElem?_eq_getElem hlt)
  rw [hi] at hd
  cases hd
  exact ⟨of_decide_eq_true hdigest, hi⟩

/-- The answer for a digest that is in the transcript already: a retry of an accepted package is
a duplicate. -/
def retryOutcome : BallotDecisionOutcomeV1 → BallotDecisionOutcomeV1
  | .accepted => .rejected .duplicateNullifier
  | .rejected code => .rejected code

/-- The index answers as the linear search would, and never reports an inconsistency. -/
theorem Bookkeeping.indexedInboxReconciliationResult_eq (h : Bookkeeping prims session)
    (digest : BallotPackageDigestV1) :
    session.indexedInboxReconciliationResult digest =
      .ok ((session.firstDecision digest).map fun decision ↦
        intakeResult digest (retryOutcome decision.outcome)) := by
  unfold indexedInboxReconciliationResult
  rw [h.index digest]
  cases hfirst : session.firstDecision digest with
  | none => rfl
  | some decision =>
    obtain ⟨hdigest, hat⟩ := h.firstDecision_eq_some hfirst
    simp only [Option.map_some, hat, hdigest, ne_eq, not_true_eq_false, or_self, if_false]
    cases decision.outcome <;> rfl

/-- Session bookkeeping: in every reachable session the packages, submissions and decisions
correspond position by position, every submission is decided, the accepted ballots are, in order,
those the accepted packages verify to, and the digest index is the earliest decision of each
digest, so that a lookup never reports an inconsistency and is the linear search. -/
theorem bookkeeping_of_reachable (laws : TriptychBatchLaws prims.crate)
    (h : Reachable prims session) :
    (session.packages.length = session.transcript.submissions.length ∧
      session.packages.length = session.transcript.decisions.length) ∧
    (∀ (i : Nat) (packageBytes : Bytes), session.packages[i]? = some packageBytes →
      session.transcript.submissions[i]? =
          some ⟨i, packageDigest prims.provider packageBytes, true⟩ ∧
        ∃ outcome, session.transcript.decisions[i]? =
          some ⟨i, packageDigest prims.provider packageBytes, outcome⟩) ∧
    session.transcript.validateComplete = .ok () ∧
    session.ledger.acceptedBallots.map some =
      session.acceptedPackages.map (session.verifiedEntry prims) ∧
    (∀ digest, session.privateIntakeDigestIndex.lookup digest =
      (session.firstDecision digest).map fun d ↦ ⟨d.sequence, d.outcome⟩) ∧
    (∀ digest, session.indexedInboxReconciliationResult digest =
      .ok ((session.firstDecision digest).map fun decision ↦
        intakeResult digest (retryOutcome decision.outcome))) := by
  have hbook := (h.isReplayed laws).bookkeeping
  refine ⟨⟨hbook.length_submissions.symm, hbook.length_decisions.symm⟩, ?_,
    hbook.validateComplete, hbook.accepted, hbook.index,
    hbook.indexedInboxReconciliationResult_eq⟩
  intro i packageBytes hi
  exact hbook.at_index hi

/-- In the drained sample session two of three packages are accepted, and both accepted ballots
are what their packages verify to. -/
theorem bookkeeping_of_reachable_sample :
    ∃ session, Sample.drainedSession = .ok session ∧
      session.ledger.acceptedBallots.length = 2 ∧
      session.ledger.acceptedBallots.map some =
        session.acceptedPackages.map (session.verifiedEntry Sample.prims) := by
  have haccepted := Sample.accepted_drainedSession
  cases h : Sample.drainedSession with
  | error e =>
    rw [h] at haccepted
    cases haccepted
  | ok session =>
    rw [h] at haccepted
    refine ⟨session, rfl, Option.some.inj haccepted, ?_⟩
    exact (bookkeeping_of_reachable (triptychBatchLaws_idealCrate _)
      (Sample.reachable_drainedSession h)).2.2.2.1

end GuiElectionSessionV1

end PrivateBallot.GuiCore
