import PrivateBallot.Base.Sequence
import PrivateBallot.Verifier.Ingestion

/-!
# Runs of the acceptance ledger

Library `Verifier`. `crates/verifier/src/lib.rs` and `crates/ballot/src/lifecycle.rs` together:
lifecycle operations and ingest calls on one ledger, in any order, successful or refused. The
ledger of every run is determined by the ballots that were eligible when they arrived.
-/

namespace PrivateBallot.Verifier

open PrivateBallot.Base
open PrivateBallot.Protocol
open PrivateBallot.Ballot
open PrivateBallot.Crypto

/-- One call on the lifecycle or on the ledger. -/
inductive LedgerOperation where
  | freeze (manifestHash : ManifestHash) (registryCommitment : RegistryCommitment)
  | openVoting
  | close
  | markVerified
  | finalize
  | ingest (context : VerificationContext) (packageBytes : Bytes)

/-- One lifecycle and one ledger. -/
structure LedgerState where
  lifecycle : ElectionLifecycleV1
  ledger : BallotAcceptanceLedger
deriving DecidableEq

namespace LedgerState

/-- A new lifecycle and an empty ledger. -/
def initial : LedgerState := ⟨.new, .new⟩

private def withLifecycle (self : LedgerState) (result : Result ElectionLifecycleV1) :
    Result Unit × LedgerState :=
  match result with
  | .ok lifecycle => (.ok (), { self with lifecycle })
  | .error e => (.error e, self)

/-- The call's result and the state it leaves. -/
def step (self : LedgerState) : LedgerOperation → Result Unit × LedgerState
  | .freeze manifestHash registryCommitment =>
    self.withLifecycle (self.lifecycle.freeze manifestHash registryCommitment)
  | .openVoting => self.withLifecycle self.lifecycle.openVoting
  | .close => self.withLifecycle self.lifecycle.close
  | .markVerified => self.withLifecycle self.lifecycle.markVerified
  | .finalize => self.withLifecycle self.lifecycle.finalize
  | .ingest context packageBytes =>
    let (result, ledger) :=
      ingestApprovalBallotPackageV1 context self.lifecycle self.ledger packageBytes
    (result, { self with ledger })

/-- The state after a sequence of calls. -/
def run (self : LedgerState) (operations : List LedgerOperation) : LedgerState :=
  operations.foldl (fun state operation ↦ (state.step operation).2) self

/-- A run is a shorter run followed by one call. -/
theorem run_append_singleton (self : LedgerState) (operations : List LedgerOperation)
    (operation : LedgerOperation) :
    self.run (operations ++ [operation]) = ((self.run operations).step operation).2 := by
  simp only [run, List.foldl_append, List.foldl_cons, List.foldl_nil]

end LedgerState

/-! ### What the ledger is for -/

/-- A verified ballot counts at a lifecycle if ballots are admitted there and its statement is
about the frozen manifest and registry. -/
def Eligible (lifecycle : ElectionLifecycleV1)
    (ballot : VerifiedApprovalBallotV1) : Prop :=
  lifecycle.admitsBallots = true ∧
    lifecycle.frozenManifestHash = some ballot.proof.statement.manifestHash ∧
    lifecycle.frozenRegistryCommitment = some ballot.proof.statement.registryCommitment

instance (lifecycle : ElectionLifecycleV1) (ballot : VerifiedApprovalBallotV1) :
    Decidable (Eligible lifecycle ballot) :=
  inferInstanceAs (Decidable (_ ∧ _ ∧ _))

/-- The ballot a call submits, if its package verifies and is eligible then. -/
def eligibleBallot (lifecycle : ElectionLifecycleV1) :
    LedgerOperation → Option VerifiedApprovalBallotV1
  | .ingest context packageBytes =>
    match verifyApprovalBallotPackageV1 context packageBytes with
    | .ok ballot => if Eligible lifecycle ballot then some ballot else none
    | .error _ => none
  | _ => none

/-- The ballots submitted in a run that verify and are eligible when they arrive, in order. -/
def eligibleBallots (state : LedgerState) : List LedgerOperation → List VerifiedApprovalBallotV1
  | [] => []
  | operation :: rest =>
    (eligibleBallot state.lifecycle operation).toList ++
      eligibleBallots (state.step operation).2 rest

/-- The ledger entry of a verified ballot. -/
def VerifiedApprovalBallotV1.toAccepted (ballot : VerifiedApprovalBallotV1) : AcceptedBallot :=
  ⟨ballot.proof, ballot.payload⟩

/-! ### One call -/

/-- What one call can do: change the lifecycle only, or try to add the submitted ballot. -/
theorem step_cases (state : LedgerState) (operation : LedgerOperation) :
    (state.step operation).2.ledger =
        (match eligibleBallot state.lifecycle operation with
          | none => state.ledger
          | some ballot =>
            if ballot.proof.nullifier ∈ state.ledger.seenNullifiers then state.ledger
            else ⟨insert ballot.proof.nullifier state.ledger.seenNullifiers,
              state.ledger.acceptedBallots ++ [ballot.toAccepted]⟩) ∧
      (∀ e, (state.step operation).1 = .error e →
        (state.step operation).2 = state) := by
  have hlifecycle : ∀ result : Result ElectionLifecycleV1,
      (state.withLifecycle result).2.ledger = state.ledger ∧
        ∀ e, (state.withLifecycle result).1 = .error e →
          (state.withLifecycle result).2 = state := by
    intro result
    cases result with
    | ok lifecycle => exact ⟨rfl, fun e h ↦ by cases h⟩
    | error e => exact ⟨rfl, fun _ _ ↦ rfl⟩
  cases operation with
  | freeze manifestHash registryCommitment => exact hlifecycle _
  | openVoting => exact hlifecycle _
  | close => exact hlifecycle _
  | markVerified => exact hlifecycle _
  | finalize => exact hlifecycle _
  | ingest context packageBytes =>
    simp only [LedgerState.step, ingestApprovalBallotPackageV1, eligibleBallot]
    cases verifyApprovalBallotPackageV1 context packageBytes with
    | error e => exact ⟨rfl, fun _ _ ↦ rfl⟩
    | ok ballot =>
      simp only [BallotAcceptanceLedger.acceptVerified]
      by_cases heligible : Eligible state.lifecycle ballot
      · have hvalid := (state.lifecycle.validateBallotStatement_eq_ok
          ballot.proof.statement).mpr heligible
        simp only [hvalid, heligible, if_true]
        by_cases hseen : ballot.proof.nullifier ∈ state.ledger.seenNullifiers
        · simp [hseen]
        · simp only [hseen, if_false]
          exact ⟨rfl, fun e h ↦ by cases h⟩
      · cases hvalid : state.lifecycle.validateBallotStatement ballot.proof.statement with
        | ok u =>
          exact absurd ((state.lifecycle.validateBallotStatement_eq_ok
            ballot.proof.statement).mp hvalid) heligible
        | error e =>
          simp [heligible]

/-- No call changes commitments that are frozen. -/
theorem frozen_step (state : LedgerState) (operation : LedgerOperation)
    (hdraft : state.lifecycle.state ≠ .draft) :
    (state.step operation).2.lifecycle.frozenManifestHash = state.lifecycle.frozenManifestHash ∧
      (state.step operation).2.lifecycle.frozenRegistryCommitment =
        state.lifecycle.frozenRegistryCommitment ∧
      (state.step operation).2.lifecycle.state ≠ .draft := by
  have htransition : ∀ expected next : ElectionLifecycleStateV1, next ≠ .draft →
      let after := (state.withLifecycle (state.lifecycle.transition expected next)).2
      after.lifecycle.frozenManifestHash = state.lifecycle.frozenManifestHash ∧
        after.lifecycle.frozenRegistryCommitment = state.lifecycle.frozenRegistryCommitment ∧
        after.lifecycle.state ≠ .draft := by
    intro expected next hnext
    simp only [ElectionLifecycleV1.transition, LedgerState.withLifecycle]
    by_cases hstate : state.lifecycle.state = expected
    · simp [hstate, hnext]
    · simp [hstate, hdraft]
  cases operation with
  | freeze manifestHash registryCommitment =>
    simp [LedgerState.step, ElectionLifecycleV1.freeze, LedgerState.withLifecycle, hdraft]
  | openVoting => exact htransition _ _ (by decide)
  | close => exact htransition _ _ (by decide)
  | markVerified => exact htransition _ _ (by decide)
  | finalize => exact htransition _ _ (by decide)
  | ingest context packageBytes => exact ⟨rfl, rfl, hdraft⟩

/-! ### Whole runs -/

private theorem eligibleBallots_append_singleton (state : LedgerState)
    (operations : List LedgerOperation) (operation : LedgerOperation) :
    eligibleBallots state (operations ++ [operation]) =
      eligibleBallots state operations ++
        (eligibleBallot (state.run operations).lifecycle operation).toList := by
  induction operations generalizing state with
  | nil => simp [eligibleBallots, LedgerState.run]
  | cons first rest ih =>
    rw [List.cons_append, eligibleBallots, ih, eligibleBallots, List.append_assoc]
    rfl

/-- The ledger after a run: the first eligible ballot of each nullifier, in order, and the set
of their nullifiers. -/
theorem ledger_run (operations : List LedgerOperation) :
    let kept := firstOfEach (fun ballot : VerifiedApprovalBallotV1 ↦ ballot.proof.nullifier)
      (eligibleBallots .initial operations)
    (LedgerState.initial.run operations).ledger.acceptedBallots =
        kept.map VerifiedApprovalBallotV1.toAccepted ∧
      (LedgerState.initial.run operations).ledger.seenNullifiers =
        (kept.map fun ballot ↦ ballot.proof.nullifier).toFinset := by
  induction operations using List.reverseRecOn with
  | nil => exact ⟨rfl, rfl⟩
  | append_singleton operations operation ih =>
    obtain ⟨haccepted, hseen⟩ := ih
    have hstep := (step_cases (LedgerState.initial.run operations) operation).1
    simp only [LedgerState.run_append_singleton, eligibleBallots_append_singleton]
    rw [hstep]
    cases eligibleBallot (LedgerState.initial.run operations).lifecycle operation with
    | none =>
      simp only [Option.toList_none, List.append_nil]
      exact ⟨haccepted, hseen⟩
    | some ballot =>
      simp only [Option.toList_some, firstOfEach_append_singleton]
      by_cases hold : ballot.proof.nullifier ∈
          (firstOfEach (fun ballot : VerifiedApprovalBallotV1 ↦ ballot.proof.nullifier)
            (eligibleBallots .initial operations)).map fun ballot ↦ ballot.proof.nullifier
      · rw [if_pos (by rw [hseen]; exact List.mem_toFinset.mpr hold), if_pos hold]
        exact ⟨haccepted, hseen⟩
      · rw [if_neg (by rw [hseen]; exact fun h ↦ hold (List.mem_toFinset.mp h)), if_neg hold]
        refine ⟨by simp [haccepted], ?_⟩
        ext nullifier
        simp only [hseen, Finset.mem_insert, List.mem_toFinset, List.map_append,
          List.mem_append, List.map_cons, List.map_nil, List.mem_singleton]
        exact or_comm

/-- Commitments fixed in the course of a run keep their values in every longer run. -/
theorem frozen_run (state : LedgerState) (hdraft : state.lifecycle.state ≠ .draft)
    (operations : List LedgerOperation) :
    (state.run operations).lifecycle.frozenManifestHash = state.lifecycle.frozenManifestHash ∧
      (state.run operations).lifecycle.frozenRegistryCommitment =
        state.lifecycle.frozenRegistryCommitment := by
  induction operations generalizing state with
  | nil => exact ⟨rfl, rfl⟩
  | cons operation rest ih =>
    obtain ⟨hmanifest, hregistry, hnext⟩ := frozen_step state operation hdraft
    obtain ⟨hm, hr⟩ := ih (state.step operation).2 hnext
    exact ⟨hm.trans hmanifest, hr.trans hregistry⟩

private theorem draft_step (state : LedgerState) (operation : LedgerOperation)
    (h : state.lifecycle.state = .draft → state.lifecycle = .new)
    (hdraft : (state.step operation).2.lifecycle.state = .draft) :
    (state.step operation).2.lifecycle = .new := by
  by_cases hbefore : state.lifecycle.state = .draft
  · have hnew := h hbefore
    cases operation with
    | freeze manifestHash registryCommitment =>
      simp [LedgerState.step, ElectionLifecycleV1.freeze, LedgerState.withLifecycle,
        hbefore] at hdraft
    | ingest context packageBytes => exact hnew
    | openVoting | close | markVerified | finalize =>
      simp [LedgerState.step, ElectionLifecycleV1.openVoting, ElectionLifecycleV1.close,
        ElectionLifecycleV1.markVerified, ElectionLifecycleV1.finalize,
        ElectionLifecycleV1.transition, LedgerState.withLifecycle, hnew, ElectionLifecycleV1.new]
  · exact absurd hdraft (frozen_step state operation hbefore).2.2

private theorem draft_run (operations : List LedgerOperation) :
    (LedgerState.initial.run operations).lifecycle.state = .draft →
      (LedgerState.initial.run operations).lifecycle = .new := by
  induction operations using List.reverseRecOn with
  | nil => exact fun _ ↦ rfl
  | append_singleton operations operation ih =>
    rw [LedgerState.run_append_singleton]
    exact draft_step _ operation ih

/-- The first valid ballot counts, over whole runs: accepted nullifiers are distinct and are
exactly the seen ones; the accepted ballots are, in order, the submitted ones that verify, are
about the frozen commitments, arrive in OPEN or CLOSED and are the first of their nullifier;
a refused call leaves the ledger unchanged; and commitments, once frozen, never change. -/
theorem firstValidBallotCounts (operations : List LedgerOperation) :
    let state := LedgerState.initial.run operations
    ((state.ledger.acceptedBallots.map AcceptedBallot.nullifier).Nodup ∧
      state.ledger.seenNullifiers =
        (state.ledger.acceptedBallots.map AcceptedBallot.nullifier).toFinset) ∧
    state.ledger.acceptedBallots =
      (firstOfEach (fun ballot ↦ ballot.proof.nullifier)
        (eligibleBallots .initial operations)).map VerifiedApprovalBallotV1.toAccepted ∧
    (∀ operation e, (state.step operation).1 = .error e →
      (state.step operation).2.ledger = state.ledger) ∧
    (∀ manifestHash registryCommitment,
      state.lifecycle.frozenManifestHash = some manifestHash →
      state.lifecycle.frozenRegistryCommitment = some registryCommitment →
      ∀ further, (LedgerState.initial.run (operations ++ further)).lifecycle.frozenManifestHash =
          some manifestHash ∧
        (LedgerState.initial.run (operations ++ further)).lifecycle.frozenRegistryCommitment =
          some registryCommitment) := by
  intro state
  obtain ⟨haccepted, hseen⟩ := ledger_run operations
  have hnullifiers : state.ledger.acceptedBallots.map AcceptedBallot.nullifier =
      (firstOfEach (fun ballot ↦ ballot.proof.nullifier)
        (eligibleBallots .initial operations)).map fun ballot ↦ ballot.proof.nullifier := by
    rw [show state.ledger.acceptedBallots = _ from haccepted, List.map_map]
    rfl
  refine ⟨⟨?_, ?_⟩, haccepted, ?_, ?_⟩
  · rw [hnullifiers]
    exact nodup_map_firstOfEach _ _
  · rw [hnullifiers]
    exact hseen
  · intro operation e herror
    rw [(step_cases state operation).2 e herror]
  · intro manifestHash registryCommitment hmanifest hregistry further
    have hdraft : state.lifecycle.state ≠ .draft := by
      intro hdraft
      rw [show state.lifecycle = .new from draft_run operations hdraft] at hmanifest
      cases hmanifest
    have hrun : LedgerState.initial.run (operations ++ further) = state.run further := by
      simp only [LedgerState.run, List.foldl_append, state]
    obtain ⟨hm, hr⟩ := frozen_run state hdraft further
    rw [hrun, hm, hr]
    exact ⟨hmanifest, hregistry⟩

/-! ### A sample election

Two candidates, one registered key and a hash that is easy to compute; proofs other than the
byte `0` verify. -/

namespace Sample

open PrivateBallot.Registry

/-- A polynomial digest. -/
def provider : HashProvider where
  algorithmId := blake3256HashAlgorithmIdV1
  hash bytes :=
    ⟨leBytes 32 (bytes.foldl (fun acc b ↦ (acc * 257 + b.toNat + 1) % 2 ^ 256) 7),
      length_leBytes _ _⟩

/-- Every proof but `[0]` verifies. -/
def crate : TriptychCrate := idealCrate fun _ proof _ ↦ decide (proof ≠ [0])

/-- A one-byte candidate identifier. -/
def candidateId (b : UInt8) : CandidateId := ⟨[b], by simp, by simp [maxCandidateIdBytes]⟩

/-- The candidates `1` and `2`. -/
def candidates : CandidateSet where
  candidates := [⟨candidateId 1, .lit "Yes", by decide, by decide⟩,
    ⟨candidateId 2, .lit "No", by decide, by decide⟩]
  nonempty := by simp
  length_le := by decide
  ascending := by
    refine List.pairwise_cons.mpr ⟨?_, List.pairwise_singleton _ _⟩
    intro candidate hmem
    rw [List.mem_singleton] at hmem
    subst hmem
    decide

/-- The one registered key. -/
def registryKey : Bytes32 := Bytes32.replicate 5

/-- The registry of that key. -/
def registry : RegistrySnapshot where
  entries := [⟨⟨registryKey.toBytes, by decide, by decide⟩⟩]
  nonempty := by simp
  length_le := by decide
  ascending := List.pairwise_singleton _ _

/-- Commitment to the registry. -/
def registryCommitment : RegistryCommitment :=
  (registry.canonicalCommitment provider).toOption.getD default

/-- One approval, no abstention. -/
def manifest : ElectionManifest := .v1
  { protocolVersion := 1
    electionId := ⟨[1], by simp, by decide⟩
    ballotKind := .nonBindingApprovalPilot
    ballotConfidentiality := .isPublic
    registryCommitment := registryCommitment
    candidateSetCommitment := (candidates.canonicalCommitment provider).toOption.getD default
    proofSuiteId := tariTriptychProofSuiteIdV1
    approvalLimits := ⟨1, 1, false, by decide⟩
    governanceSourceRevision := .lit "r1"
    valid := by decide +kernel }

/-- Hash of the manifest. -/
def manifestHash : ManifestHash := (manifest.canonicalHash provider).toOption.getD default

/-- The verifier over the registered key. -/
def verifier : TariTriptychPrototypeVerifierV1 := ⟨registryCommitment, [registryKey]⟩

/-- Verification against the sample artifacts. -/
def context : VerificationContext :=
  ⟨manifest, candidates, provider, verifier.toProofVerifier crate⟩

/-- A package that approves one candidate with the given linking tag and inner proof. -/
def package (choice tag : UInt8) (proof : Bytes) : Bytes :=
  (do
    let package ← BallotPackageV1.new ⟨1, manifestHash, tariTriptychProofSuiteIdV1,
      leBytes 2 1 ++ List.replicate 32 tag ++ proof,
      ⟨[candidateId choice], List.pairwise_singleton _ _⟩⟩
    package.toCanonicalCbor).toOption.getD []

/-- Freeze, open, a ballot, a second one of the same credential, close, a late one of another. -/
def operations : List LedgerOperation :=
  [.freeze manifestHash registryCommitment, .openVoting, .ingest context (package 1 9 [1]),
    .ingest context (package 2 9 [1]), .close, .ingest context (package 2 8 [1])]

end Sample

/-- On the sample run two ballots are accepted and the general result applies. -/
theorem firstValidBallotCounts_sample :
    (LedgerState.initial.run Sample.operations).ledger.acceptedBallots.length = 2 ∧
      (∀ operation e,
        ((LedgerState.initial.run Sample.operations).step operation).1 = .error e →
        ((LedgerState.initial.run Sample.operations).step operation).2.ledger =
          (LedgerState.initial.run Sample.operations).ledger) :=
  ⟨by decide +kernel, (firstValidBallotCounts Sample.operations).2.2.1⟩

end PrivateBallot.Verifier
