import PrivateBallot.GuiCore.Session

/-!
# Sessions and their durable snapshots

Library `GuiCore`. `crates/gui-core/src/session.rs`: every session the public methods can reach
is rebuilt from its own snapshot, up to the process-local validation cache, by the serial and by
the parallel reconstruction.
-/

namespace PrivateBallot.GuiCore

open PrivateBallot.Base PrivateBallot.Protocol PrivateBallot.Ballot PrivateBallot.Registry
open PrivateBallot.Crypto PrivateBallot.Verifier PrivateBallot.Archive

namespace GuiElectionArtifactsV1

variable {prims : Primitives} {artifacts : GuiElectionArtifactsV1}
  {manifestBytes registryBytes candidateBytes : Bytes}

/-- What the binding of decoded artifacts has checked and keeps. -/
theorem bindDecoded_eq_ok {manifest : ElectionManifest} {registry : RegistrySnapshot}
    {candidates : CandidateSet}
    (h : bindDecoded prims manifest registry candidates = .ok artifacts) :
    artifacts.manifest = manifest ∧ artifacts.registry = registry ∧
      artifacts.candidates = candidates ∧
      registry.canonicalCommitment prims.provider = .ok artifacts.registryCommitment ∧
      candidates.canonicalCommitment prims.provider = .ok artifacts.candidateSetCommitment ∧
      manifest.canonicalHash prims.provider = .ok artifacts.manifestHash := by
  simp only [bindDecoded, bind_eq_ok, ofProtocol_eq_ok] at h
  obtain ⟨registryCommitment, hregistry, h⟩ := h
  split at h
  · simp [bind, Except.bind] at h
  · simp only [bind_eq_ok, ofProtocol_eq_ok] at h
    obtain ⟨candidateSetCommitment, hcandidates, h⟩ := h
    split at h
    · simp [bind, Except.bind, ofProtocol, fail, Except.mapError] at h
    · simp only [bind_eq_ok, ofProtocol_eq_ok] at h
      obtain ⟨manifestHash, hmanifest, -, -, h⟩ := h
      cases h
      exact ⟨rfl, rfl, rfl, hregistry, hcandidates, hmanifest⟩

/-- Loaded artifacts can be encoded, and are loaded again from their encodings. -/
theorem exists_fromBytes_encoded
    (h : fromBytes prims manifestBytes registryBytes candidateBytes = .ok artifacts) :
    ∃ manifest registry candidates, artifacts.manifest.toCanonicalCbor = .ok manifest ∧
      artifacts.registry.toCanonicalCbor = .ok registry ∧
      artifacts.candidates.toCanonicalCbor = .ok candidates ∧
      fromBytes prims manifest registry candidates = .ok artifacts := by
  simp only [fromBytes, bind_eq_ok, ofProtocol_eq_ok] at h
  obtain ⟨manifest, hmanifest, registry, hregistry, candidates, hcandidates, hbind⟩ := h
  obtain ⟨rfl, rfl, rfl, hcommitment, hset, hhash⟩ := bindDecoded_eq_ok hbind
  simp only [RegistrySnapshot.canonicalCommitment, CandidateSet.canonicalCommitment,
    ElectionManifest.canonicalHash, bind_eq_ok] at hcommitment hset hhash
  obtain ⟨registryEncoded, hregistryEncoded, -⟩ := hcommitment
  obtain ⟨candidatesEncoded, hcandidatesEncoded, -⟩ := hset
  obtain ⟨manifestEncoded, hmanifestEncoded, -⟩ := hhash
  refine ⟨manifestEncoded, registryEncoded, candidatesEncoded, hmanifestEncoded,
    hregistryEncoded, hcandidatesEncoded, ?_⟩
  have hchecked := ElectionManifest.isChecked_of_fromCanonicalCbor hmanifest
  simp only [fromBytes, bind_eq_ok, ofProtocol_eq_ok]
  exact ⟨_, ElectionManifest.fromCanonicalCbor_toCanonicalCbor hchecked hmanifestEncoded, _,
    RegistrySnapshot.fromCanonicalCbor_toCanonicalCbor hregistryEncoded, _,
    CandidateSet.fromCanonicalCbor_toCanonicalCbor hcandidatesEncoded, hbind⟩

end GuiElectionArtifactsV1

namespace GuiElectionSessionV1

variable {prims : Primitives} {session session' : GuiElectionSessionV1}

/-- The session in another lifecycle state and with another validation cache. -/
def inState (self : GuiElectionSessionV1) (state : ElectionLifecycleStateV1)
    (cache : AList fun _ : BallotPackageDigestV1 ↦ PrivateInboxFileValidationV1) :
    GuiElectionSessionV1 :=
  { self with
    lifecycle := { self.lifecycle with state }
    privateInboxValidationCache := cache }

/-- The session without its process-local validation cache: all that is authoritative. -/
def withoutCache (self : GuiElectionSessionV1) : GuiElectionSessionV1 :=
  { self with privateInboxValidationCache := ∅ }

/-- Sessions that differ in their caches only. -/
theorem fields_of_withoutCache {a b : GuiElectionSessionV1}
    (h : a.withoutCache = b.withoutCache) :
    a.artifacts = b.artifacts ∧ a.lifecycle = b.lifecycle ∧ a.ledger = b.ledger ∧
      a.transcript = b.transcript ∧ a.packages = b.packages := by
  simp only [withoutCache, GuiElectionSessionV1.mk.injEq] at h
  obtain ⟨hartifacts, -, hlifecycle, hledger, htranscript, hpackages, -⟩ := h
  exact ⟨hartifacts, hlifecycle, hledger, htranscript, hpackages⟩

/-- Every submission is decided. -/
def IsComplete (self : GuiElectionSessionV1) : Prop :=
  self.transcript.decisions.length = self.transcript.submissions.length

/-! ### One package -/

/-- The outcome of ingesting a package, and the ledger it leaves. -/
def ingestOf (prims : Primitives) (self : GuiElectionSessionV1) (packageBytes : Bytes) :
    Result Unit × BallotAcceptanceLedger :=
  ingestApprovalBallotPackageV1 (self.context prims) self.lifecycle self.ledger packageBytes

/-- The session after a package was recorded. -/
def recorded (prims : Primitives) (self : GuiElectionSessionV1) (packageBytes : Bytes) :
    GuiElectionSessionV1 :=
  let digest := packageDigest prims.provider packageBytes
  let sequence := self.transcript.submissions.length
  let outcome := BallotDecisionOutcomeV1.ofResult (self.ingestOf prims packageBytes).1
  { self with
    transcript := ⟨self.transcript.manifestHash,
      self.transcript.submissions ++ [⟨sequence, digest, true⟩],
      self.transcript.decisions ++ [⟨sequence, digest, outcome⟩]⟩
    ledger := (self.ingestOf prims packageBytes).2
    privateIntakeDigestIndex := indexFirst self.privateIntakeDigestIndex digest ⟨sequence, outcome⟩
    packages := self.packages ++ [packageBytes] }

/-- A complete session records every package it is given and never fails at it. -/
theorem processIntakePackage_eq (h : session.IsComplete) (packageBytes : Bytes) :
    session.processIntakePackage prims packageBytes =
      (.ok (intakeResult (packageDigest prims.provider packageBytes)
        (.ofResult (session.ingestOf prims packageBytes).1)),
        session.recorded prims packageBytes) := by
  unfold processIntakePackage processIntakePackageWithDigest recordIntake
  have hrecord := session.transcript.recordDecision_recordSubmission
    (packageDigest prims.provider packageBytes) true
    (.ofResult (session.ingestOf prims packageBytes).1) h
  simp only [ingestOf] at hrecord
  simp only [hrecord]
  rfl

theorem IsComplete.recorded (h : session.IsComplete) (packageBytes : Bytes) :
    (session.recorded prims packageBytes).IsComplete := by
  simp only [IsComplete, GuiElectionSessionV1.recorded, List.length_append, List.length_cons]
  have hlen : session.transcript.decisions.length = session.transcript.submissions.length := h
  omega

/-- Ingesting asks the lifecycle only whether ballots are admitted and for the frozen
commitments. -/
theorem ingestOf_inState (packageBytes : Bytes) (state : ElectionLifecycleStateV1)
    (cache : AList fun _ : BallotPackageDigestV1 ↦ PrivateInboxFileValidationV1)
    (h : (session.inState state cache).lifecycle.admitsBallots =
      session.lifecycle.admitsBallots) :
    (session.inState state cache).ingestOf prims packageBytes =
      session.ingestOf prims packageBytes := by
  have hcontext : (session.inState state cache).context prims = session.context prims := rfl
  have hstatement : ∀ statement,
      (session.inState state cache).lifecycle.validateBallotStatement statement =
        session.lifecycle.validateBallotStatement statement := by
    intro statement
    unfold ElectionLifecycleV1.validateBallotStatement
    rw [h]
    rfl
  unfold ingestOf ingestApprovalBallotPackageV1
  rw [hcontext]
  cases verifyApprovalBallotPackageV1 (session.context prims) packageBytes with
  | error e => rfl
  | ok ballot =>
    simp only [BallotAcceptanceLedger.acceptVerified, hstatement]
    rfl

/-- Recording a package commutes with a change of state that keeps admitting ballots. -/
theorem recorded_inState (packageBytes : Bytes) (state : ElectionLifecycleStateV1)
    (cache : AList fun _ : BallotPackageDigestV1 ↦ PrivateInboxFileValidationV1)
    (h : (session.inState state cache).lifecycle.admitsBallots =
      session.lifecycle.admitsBallots) :
    (session.inState state cache).recorded prims packageBytes =
      (session.recorded prims packageBytes).inState state cache := by
  unfold recorded
  rw [ingestOf_inState packageBytes state cache h]
  rfl

/-! ### Replay -/

/-- The packages recorded one after the other. -/
def recordedAll (prims : Primitives) (self : GuiElectionSessionV1) (packages : List Bytes) :
    GuiElectionSessionV1 :=
  packages.foldl (fun session packageBytes ↦ session.recorded prims packageBytes) self

theorem recordedAll_append_singleton (packages : List Bytes) (packageBytes : Bytes) :
    session.recordedAll prims (packages ++ [packageBytes]) =
      (session.recordedAll prims packages).recorded prims packageBytes := by
  simp only [recordedAll, List.foldl_append, List.foldl_cons, List.foldl_nil]

/-- Recording packages keeps the artifacts, the verifier, the lifecycle and the cache. -/
theorem recordedAll_frame (session : GuiElectionSessionV1) (prims : Primitives)
    (packages : List Bytes) :
    (session.recordedAll prims packages).artifacts = session.artifacts ∧
      (session.recordedAll prims packages).verifier = session.verifier ∧
      (session.recordedAll prims packages).lifecycle = session.lifecycle ∧
      (session.recordedAll prims packages).privateInboxValidationCache =
        session.privateInboxValidationCache ∧
      (session.recordedAll prims packages).packages = session.packages ++ packages := by
  induction packages using List.reverseRecOn with
  | nil => exact ⟨rfl, rfl, rfl, rfl, (List.append_nil _).symm⟩
  | append_singleton packages packageBytes ih =>
    obtain ⟨hartifacts, hverifier, hlifecycle, hcache, hpackages⟩ := ih
    rw [recordedAll_append_singleton]
    refine ⟨hartifacts, hverifier, hlifecycle, hcache, ?_⟩
    rw [← List.append_assoc, ← hpackages]
    rfl

theorem IsComplete.recordedAll (h : session.IsComplete) (packages : List Bytes) :
    (session.recordedAll prims packages).IsComplete := by
  induction packages using List.reverseRecOn with
  | nil => exact h
  | append_singleton packages packageBytes ih =>
    rw [recordedAll_append_singleton]
    exact ih.recorded packageBytes

/-- The serial replay of an open session records every package. -/
theorem replayPackages_eq (h : session.IsComplete) (hopen : session.lifecycle.state = .opened)
    (packages : List Bytes) :
    session.replayPackages prims packages = .ok (session.recordedAll prims packages) := by
  induction packages generalizing session with
  | nil => rfl
  | cons packageBytes rest ih =>
    have hintake : session.intakeBallotPackageBytes prims packageBytes =
        session.processIntakePackage prims packageBytes := by
      simp only [intakeBallotPackageBytes, hopen, ne_eq, not_true_eq_false, if_false]
    rw [replayPackages, hintake, processIntakePackage_eq h]
    exact ih (h.recorded packageBytes) hopen

private theorem applyVerifiedPackagesInOrder_eq (h : session.IsComplete)
    (reads : VerificationContext) (hreads : session.context prims = reads)
    (packages : List Bytes) :
    session.applyVerifiedPackagesInOrder prims
        (packages.zip (packages.map (verifyApprovalBallotPackageV1 reads))) =
      .ok (session.recordedAll prims packages) := by
  induction packages generalizing session with
  | nil => rfl
  | cons packageBytes rest ih =>
    have hstep : session.applyVerifiedPackage prims packageBytes
        (verifyApprovalBallotPackageV1 reads packageBytes) =
          session.processIntakePackage prims packageBytes := by
      unfold applyVerifiedPackage processIntakePackage processIntakePackageWithDigest
        ingestApprovalBallotPackageV1
      rw [hreads]
      congr 1
      funext ledger
      cases verifyApprovalBallotPackageV1 reads packageBytes <;> rfl
    rw [List.map_cons, List.zip_cons_cons, applyVerifiedPackagesInOrder, hstep,
      processIntakePackage_eq h]
    exact ih (h.recorded packageBytes) hreads

private theorem map_verifyBatch (session : GuiElectionSessionV1) (prims : Primitives)
    (packages : List Bytes) (batches : List (Nat × Nat)) :
    (List.range batches.length).map (session.verifyBatch prims packages batches) =
      batches.map fun range ↦
        verifyApprovalBallotPackagesBatchV1 (session.context prims) (sliceOf packages range) := by
  apply List.ext_getElem
  · simp
  · intro index hleft hright
    simp only [List.length_map, List.length_range] at hleft
    simp [verifyBatch, hleft]

/-- The parallel verification gives the individual results, in order, whatever the order in
which the workers took the batches. -/
theorem parallelVerifyPackages_eq (laws : TriptychBatchLaws prims.crate)
    (packages : List Bytes) (config : HistoricalReplayConfigV1) (executor : Executor)
    (hjoins : joinsFor config executor packages.length = true) :
    session.parallelVerifyPackages prims packages config executor =
      .ok (packages.map (verifyApprovalBallotPackageV1 (session.context prims))) := by
  have hpoint : verifyApprovalBallotPackagesBatchV1 (session.context prims) =
      List.map (verifyApprovalBallotPackageV1 (session.context prims)) := by
    funext batch
    exact verifyApprovalBallotPackagesBatchV1_eq_map _
      (ArchiveReplaySessionV1.batchPointwise_toProofVerifier prims.crate laws
        session.verifier) batch
  have hcover := flatMap_batchRanges packages config.batchSize
  unfold parallelVerifyPackages
  dsimp only
  split
  · next hempty =>
    rw [List.isEmpty_iff.mp hempty, List.flatMap_nil] at hcover
    rw [← hcover]
    rfl
  · rw [runBounded_eq_ok _ hjoins]
    simp only [bind, Except.bind, pure, Except.pure]
    rw [map_verifyBatch, hpoint, ← List.flatMap_def, ← List.map_flatMap, hcover]

/-- The parallel replay records what the serial one does. -/
theorem replayPackagesParallel_eq (laws : TriptychBatchLaws prims.crate) (h : session.IsComplete)
    (packages : List Bytes) (config : HistoricalReplayConfigV1) (executor : Executor)
    (hjoins : joinsFor config executor packages.length = true) :
    session.replayPackagesParallel prims packages config executor =
      .ok (session.recordedAll prims packages) := by
  unfold replayPackagesParallel
  rw [parallelVerifyPackages_eq laws packages config executor hjoins]
  simp only [bind, Except.bind, List.length_map, ne_eq, not_true_eq_false, if_false]
  exact applyVerifiedPackagesInOrder_eq h _ rfl packages

/-! ### Reachable sessions -/

/-- The sessions the public methods build: from loaded artifacts, by any sequence of method
calls that succeed or fail, and by reconstruction. -/
inductive Reachable (prims : Primitives) : GuiElectionSessionV1 → Prop
  | new {manifestBytes registryBytes candidateBytes : Bytes} {artifacts : GuiElectionArtifactsV1}
      {session : GuiElectionSessionV1}
      (hartifacts : GuiElectionArtifactsV1.fromBytes prims manifestBytes registryBytes
        candidateBytes = .ok artifacts)
      (hnew : GuiElectionSessionV1.new prims artifacts = .ok session) : Reachable prims session
  | openVoting {session next : GuiElectionSessionV1} (h : Reachable prims session)
      (hnext : session.openVoting = .ok next) : Reachable prims next
  | close {session next : GuiElectionSessionV1} (h : Reachable prims session)
      (hnext : session.close = .ok next) : Reachable prims next
  | markVerified {session next : GuiElectionSessionV1} (h : Reachable prims session)
      (hnext : session.markVerified = .ok next) : Reachable prims next
  | finalize {session next : GuiElectionSessionV1} (h : Reachable prims session)
      (hnext : session.finalize = .ok next) : Reachable prims next
  | intake {session : GuiElectionSessionV1} (h : Reachable prims session) (packageBytes : Bytes) :
      Reachable prims (session.intakeBallotPackageBytes prims packageBytes).2
  | reconcile {session : GuiElectionSessionV1} (h : Reachable prims session)
      (packageBytes : Bytes) :
      Reachable prims (session.reconcileAcceptedPackageBytesFromInbox prims packageBytes).2
  | remember {session : GuiElectionSessionV1} (h : Reachable prims session)
      (digest : BallotPackageDigestV1) (byteLen modified : Nat) :
      Reachable prims (session.rememberValidatedInboxFile digest byteLen modified)
  | reconstructed {session : GuiElectionSessionV1} {snapshot : GuiElectionSessionSnapshotV1}
      (h : GuiElectionSessionV1.fromDurableSnapshot prims snapshot = .ok session) :
      Reachable prims session
  | reconstructedParallel {session : GuiElectionSessionV1}
      {snapshot : GuiElectionSessionSnapshotV1} {config : HistoricalReplayConfigV1}
      {executor : Executor}
      (hjoins : joinsFor config executor snapshot.packages.length = true)
      (h : GuiElectionSessionV1.fromDurableSnapshotParallel prims snapshot config executor =
        .ok session) : Reachable prims session

/-- A session is its artifacts' fresh session with its packages recorded, in its lifecycle
state. -/
structure IsReplayed (prims : Primitives) (session : GuiElectionSessionV1) : Prop where
  loaded : ∃ manifestBytes registryBytes candidateBytes,
    GuiElectionArtifactsV1.fromBytes prims manifestBytes registryBytes candidateBytes =
      .ok session.artifacts
  notDraft : session.lifecycle.state ≠ .draft
  noPackages : session.lifecycle.state = .frozen → session.packages = []
  replayed : ∃ fresh, GuiElectionSessionV1.new prims session.artifacts = .ok fresh ∧
    session = ((fresh.inState .opened ∅).recordedAll prims session.packages).inState
      session.lifecycle.state session.privateInboxValidationCache

/-- A fresh session is frozen and empty. -/
theorem new_eq_ok {artifacts : GuiElectionArtifactsV1}
    (h : GuiElectionSessionV1.new prims artifacts = .ok session) :
    session.artifacts = artifacts ∧ session.lifecycle.state = .frozen ∧ session.packages = [] ∧
      session.privateInboxValidationCache = ∅ ∧ session.IsComplete := by
  simp only [GuiElectionSessionV1.new, bind_eq_ok, ofProtocol_eq_ok] at h
  obtain ⟨verifier, -, lifecycle, hfreeze, hsession⟩ := h
  cases hfreeze
  cases hsession
  exact ⟨rfl, rfl, rfl, rfl, rfl⟩

theorem withLifecycle_transition {expected next : ElectionLifecycleStateV1}
    (h : session.withLifecycle (session.lifecycle.transition expected next) = .ok session') :
    session.lifecycle.state = expected ∧
      session' = session.inState next session.privateInboxValidationCache := by
  simp only [withLifecycle, bind_eq_ok, ofProtocol_eq_ok, ElectionLifecycleV1.transition] at h
  obtain ⟨lifecycle, hlifecycle, hsession⟩ := h
  split at hlifecycle
  · cases hlifecycle
  · next hstate =>
    cases hlifecycle
    cases hsession
    exact ⟨not_not.mp hstate, rfl⟩

theorem withLifecycle_of_state {expected next : ElectionLifecycleStateV1}
    (h : session.lifecycle.state = expected) :
    session.withLifecycle (session.lifecycle.transition expected next) =
      .ok (session.inState next session.privateInboxValidationCache) := by
  simp only [withLifecycle, ElectionLifecycleV1.transition, h, ne_eq, not_true_eq_false, if_false]
  rfl

/-- Moving on from OPEN to a later state. -/
theorem applyTerminalLifecycle_eq (hopen : session.lifecycle.state = .opened)
    {state : ElectionLifecycleStateV1} (hdraft : state ≠ .draft) (hfrozen : state ≠ .frozen) :
    session.applyTerminalLifecycle state =
      .ok (session.inState state session.privateInboxValidationCache) := by
  have hclose : session.withLifecycle (session.lifecycle.transition .opened .closed) =
      .ok (session.inState .closed session.privateInboxValidationCache) :=
    withLifecycle_of_state hopen
  have hverify : ∀ cache, (session.inState .closed cache).markVerified =
      .ok (session.inState .verified cache) := fun _ ↦ withLifecycle_of_state rfl
  have hfinalize : ∀ cache, (session.inState .verified cache).finalize =
      .ok (session.inState .finalized cache) := fun _ ↦ withLifecycle_of_state rfl
  have hsame : session.inState .opened session.privateInboxValidationCache = session := by
    rw [← hopen]
    rfl
  cases state with
  | draft => exact absurd rfl hdraft
  | frozen => exact absurd rfl hfrozen
  | opened => rw [hsame]; rfl
  | closed => exact hclose
  | verified =>
    simp only [applyTerminalLifecycle, close, ElectionLifecycleV1.close, hclose, bind, Except.bind]
    exact hverify _
  | finalized =>
    simp only [applyTerminalLifecycle, close, ElectionLifecycleV1.close, hclose, bind, Except.bind,
      hverify]
    exact hfinalize _

/-- What a reconstruction returns, whichever way it replays the packages. -/
theorem reconstruct_eq_ok
    {replay : GuiElectionSessionV1 → List Bytes → GuiResult GuiElectionSessionV1}
    (hreplay : ∀ session : GuiElectionSessionV1, ∀ packages, session.IsComplete →
      session.lifecycle.state = .opened →
      replay session packages = .ok (session.recordedAll prims packages))
    (snapshot : GuiElectionSessionSnapshotV1) (session : GuiElectionSessionV1) :
    reconstruct prims replay snapshot = .ok session ↔
      snapshot.lifecycleState ≠ .draft ∧
        (snapshot.lifecycleState = .frozen → snapshot.packages = []) ∧
        ∃ artifacts fresh, GuiElectionArtifactsV1.fromBytes prims snapshot.manifestBytes
            snapshot.registryBytes snapshot.candidateBytes = .ok artifacts ∧
          GuiElectionSessionV1.new prims artifacts = .ok fresh ∧
          session = ((fresh.inState .opened ∅).recordedAll prims snapshot.packages).inState
            snapshot.lifecycleState ∅ := by
  unfold reconstruct
  by_cases hdraft : snapshot.lifecycleState = .draft
  · simp [hdraft, bind, Except.bind]
  simp only [hdraft, if_false, not_false_eq_true, ne_eq, true_and]
  cases hartifacts : GuiElectionArtifactsV1.fromBytes prims snapshot.manifestBytes
    snapshot.registryBytes snapshot.candidateBytes with
  | error e => simp [bind, Except.bind]
  | ok artifacts =>
    cases hnew : GuiElectionSessionV1.new prims artifacts with
    | error e => simp [bind, Except.bind, hnew]
    | ok fresh =>
      obtain ⟨-, hstate, -, hcache, hcomplete⟩ := new_eq_ok hnew
      simp only [bind, Except.bind, hnew]
      by_cases hfrozen : snapshot.lifecycleState = .frozen
      · have hsame : (fresh.inState .opened ∅).inState .frozen ∅ = fresh := by
          rw [← hstate, ← hcache]
          rfl
        by_cases hpackages : snapshot.packages = []
        · simp [hfrozen, hpackages, recordedAll, hsame, hnew, pure, Except.pure, eq_comm]
        · simp [hfrozen, hpackages]
      · have hopened : fresh.openVoting = .ok (fresh.inState .opened ∅) := by
          rw [← hcache]
          exact withLifecycle_of_state hstate
        have hreplayed := hreplay (fresh.inState .opened ∅) snapshot.packages hcomplete rfl
        obtain ⟨-, -, hlifecycle, hkept, -⟩ :=
          (fresh.inState .opened ∅).recordedAll_frame prims snapshot.packages
        have hstill :
            ((fresh.inState .opened ∅).recordedAll prims snapshot.packages).lifecycle.state
            = .opened := by
          rw [hlifecycle]
          rfl
        have hterminal := applyTerminalLifecycle_eq hstill hdraft hfrozen
        rw [hkept] at hterminal
        simp only [hfrozen, if_false, hopened, hreplayed, hterminal, Except.ok.injEq,
          false_implies, true_and]
        constructor
        · rintro rfl
          exact ⟨artifacts, fresh, rfl, hnew, rfl⟩
        · rintro ⟨artifacts', fresh', hartifacts', hnew', hsession⟩
          cases hartifacts'
          rw [hnew] at hnew'
          cases hnew'
          exact hsession.symm

theorem replayPackages_records : ∀ session : GuiElectionSessionV1, ∀ packages,
    session.IsComplete → session.lifecycle.state = .opened →
    session.replayPackages prims packages = .ok (session.recordedAll prims packages) :=
  fun _ packages hcomplete hopen ↦ replayPackages_eq hcomplete hopen packages

/-- A reconstruction depends on its replay only through what the replay returns for a fresh open
session. -/
theorem reconstruct_congr
    {replay replay' : GuiElectionSessionV1 → List Bytes → GuiResult GuiElectionSessionV1}
    {snapshot : GuiElectionSessionSnapshotV1}
    (h : ∀ session : GuiElectionSessionV1, session.IsComplete →
      session.lifecycle.state = .opened →
      replay session snapshot.packages = replay' session snapshot.packages) :
    reconstruct prims replay snapshot = reconstruct prims replay' snapshot := by
  unfold reconstruct
  by_cases hdraft : snapshot.lifecycleState = .draft
  · simp [hdraft, bind, Except.bind]
  simp only [hdraft, if_false]
  cases GuiElectionArtifactsV1.fromBytes prims snapshot.manifestBytes snapshot.registryBytes
    snapshot.candidateBytes with
  | error e => rfl
  | ok artifacts =>
    cases hnew : GuiElectionSessionV1.new prims artifacts with
    | error e => simp [bind, Except.bind, hnew]
    | ok fresh =>
      obtain ⟨-, hstate, -, -, hcomplete⟩ := new_eq_ok hnew
      have hopened : fresh.openVoting =
          .ok (fresh.inState .opened fresh.privateInboxValidationCache) :=
        withLifecycle_of_state hstate
      have hsame := h (fresh.inState .opened fresh.privateInboxValidationCache) hcomplete rfl
      simp only [bind, Except.bind, hnew, hopened, hsame]

/-- Whichever path the configuration takes, the replay is the serial one. -/
theorem replayEither_eq (laws : TriptychBatchLaws prims.crate) {config : HistoricalReplayConfigV1}
    {executor : Executor} {packages : List Bytes}
    (hjoins : joinsFor config executor packages.length = true) (h : session.IsComplete)
    (hopen : session.lifecycle.state = .opened) :
    (if config.usesParallelPath packages.length then
      session.replayPackagesParallel prims packages config executor
      else session.replayPackages prims packages) = session.replayPackages prims packages := by
  split
  · rw [replayPackagesParallel_eq laws h _ config executor hjoins, replayPackages_eq h hopen]
  · rfl

/-- Parallel historical replay is serial replay: for every snapshot, every configuration and
every order in which the worker threads claim and finish batches, both reconstructions return
the same session or the same error. -/
theorem fromDurableSnapshotParallel_eq_fromDurableSnapshot
    (laws : TriptychBatchLaws prims.crate) (snapshot : GuiElectionSessionSnapshotV1)
    (config : HistoricalReplayConfigV1) (executor : Executor)
    (hjoins : joinsFor config executor snapshot.packages.length = true) :
    fromDurableSnapshotParallel prims snapshot config executor =
      fromDurableSnapshot prims snapshot := by
  apply reconstruct_congr
  intro session hcomplete hopen
  exact replayEither_eq laws hjoins hcomplete hopen

/-- A session that was reconstructed in parallel is the one reconstructed serially. -/
theorem fromDurableSnapshot_of_parallel (laws : TriptychBatchLaws prims.crate)
    {snapshot : GuiElectionSessionSnapshotV1} {config : HistoricalReplayConfigV1}
    {executor : Executor} (hjoins : joinsFor config executor snapshot.packages.length = true)
    (h : fromDurableSnapshotParallel prims snapshot config executor = .ok session) :
    fromDurableSnapshot prims snapshot = .ok session := by
  rw [← h]
  apply reconstruct_congr
  intro session hcomplete hopen
  exact (replayEither_eq laws hjoins hcomplete hopen).symm

/-- A reconstructed session has no validated inbox files. -/
theorem withoutCache_of_fromDurableSnapshot {snapshot : GuiElectionSessionSnapshotV1}
    (h : fromDurableSnapshot prims snapshot = .ok session) : session.withoutCache = session := by
  obtain ⟨-, -, artifacts, fresh, -, -, rfl⟩ := (reconstruct_eq_ok replayPackages_records _ _).mp h
  rfl

/-! ### Every reachable session is replayed -/

theorem IsReplayed.isComplete (h : IsReplayed prims session) : session.IsComplete := by
  obtain ⟨fresh, hnew, hsession⟩ := h.replayed
  have hfresh : (fresh.inState .opened ∅).IsComplete := (new_eq_ok hnew).2.2.2.2
  rw [hsession]
  exact hfresh.recordedAll session.packages

/-- A later state and another cache. -/
theorem IsReplayed.inState (h : IsReplayed prims session) (state : ElectionLifecycleStateV1)
    (hdraft : state ≠ .draft) (hfrozen : state = .frozen → session.packages = [])
    (cache : AList fun _ : BallotPackageDigestV1 ↦ PrivateInboxFileValidationV1) :
    IsReplayed prims (session.inState state cache) := by
  obtain ⟨fresh, hnew, hsession⟩ := h.replayed
  exact ⟨h.loaded, hdraft, hfrozen, fresh, hnew,
    congrArg (fun replayed ↦ replayed.inState state cache) hsession⟩

/-- A package recorded while ballots are admitted. -/
theorem IsReplayed.recorded (h : IsReplayed prims session)
    (hadmits : session.lifecycle.admitsBallots = true) (packageBytes : Bytes) :
    IsReplayed prims (session.recorded prims packageBytes) := by
  obtain ⟨fresh, hnew, hsession⟩ := h.replayed
  obtain ⟨-, -, hlifecycle, -, -⟩ :=
    (fresh.inState .opened ∅).recordedAll_frame prims session.packages
  refine ⟨h.loaded, h.notDraft, ?_, fresh, hnew, ?_⟩
  · intro hfrozen
    have hstate : session.lifecycle.state = .frozen := hfrozen
    simp [ElectionLifecycleV1.admitsBallots, hstate] at hadmits
  · have hsame : (((fresh.inState .opened ∅).recordedAll prims session.packages).inState
        session.lifecycle.state session.privateInboxValidationCache).lifecycle.admitsBallots =
        ((fresh.inState .opened ∅).recordedAll prims session.packages).lifecycle.admitsBallots := by
      rw [← hsession, hadmits, hlifecycle]
      rfl
    have hcommutes : GuiElectionSessionV1.recorded prims _ packageBytes = _ :=
      recorded_inState packageBytes _ _ hsame
    rw [← hsession, ← recordedAll_append_singleton] at hcommutes
    exact hcommutes

/-- Intake of a package, whether it is let in or not. -/
theorem IsReplayed.intakeBallotPackageBytes (h : IsReplayed prims session)
    (packageBytes : Bytes) :
    IsReplayed prims (session.intakeBallotPackageBytes prims packageBytes).2 := by
  unfold GuiElectionSessionV1.intakeBallotPackageBytes
  split
  · exact h
  · next hopen =>
    rw [processIntakePackage_eq h.isComplete]
    apply h.recorded
    simp [ElectionLifecycleV1.admitsBallots, not_not.mp hopen]

/-- Reconciliation of a package from the inbox. -/
theorem IsReplayed.reconcile (h : IsReplayed prims session) (packageBytes : Bytes) :
    IsReplayed prims (session.reconcileAcceptedPackageBytesFromInbox prims packageBytes).2 := by
  unfold reconcileAcceptedPackageBytesFromInbox
  split
  · exact h
  · next hensure =>
    have hadmits : session.lifecycle.admitsBallots = true := by
      unfold ensureInboxReconciliationLifecycle at hensure
      cases hstate : session.lifecycle.state <;>
        simp [hstate, ElectionLifecycleV1.admitsBallots] at hensure ⊢
    simp only
    split
    · exact h
    · exact h
    · show IsReplayed prims (session.processIntakePackage prims packageBytes).2
      rw [processIntakePackage_eq h.isComplete]
      exact h.recorded hadmits packageBytes

/-- A reconstructed session is replayed. -/
theorem isReplayed_of_fromDurableSnapshot {snapshot : GuiElectionSessionSnapshotV1}
    (h : fromDurableSnapshot prims snapshot = .ok session) : IsReplayed prims session := by
  obtain ⟨hdraft, hfrozen, artifacts, fresh, hartifacts, hnew, rfl⟩ :=
    (reconstruct_eq_ok replayPackages_records _ _).mp h
  obtain ⟨hloaded, -, hpackages, -, -⟩ := new_eq_ok hnew
  obtain ⟨hkept, -, -, -, hrecorded⟩ :=
    (fresh.inState .opened ∅).recordedAll_frame prims snapshot.packages
  have hall : ((fresh.inState .opened ∅).recordedAll prims snapshot.packages).packages =
      snapshot.packages := by
    rw [hrecorded]
    show fresh.packages ++ snapshot.packages = _
    rw [hpackages, List.nil_append]
  have hartifacts' : ((fresh.inState .opened ∅).recordedAll prims snapshot.packages).artifacts =
      artifacts := hkept.trans hloaded
  refine ⟨⟨_, _, _, hartifacts' ▸ hartifacts⟩, hdraft, ?_, fresh, hartifacts' ▸ hnew, ?_⟩
  · intro hstate
    show ((fresh.inState .opened ∅).recordedAll prims snapshot.packages).packages = []
    rw [hall]
    exact hfrozen hstate
  · show _ = ((fresh.inState .opened ∅).recordedAll prims
      ((fresh.inState .opened ∅).recordedAll prims snapshot.packages).packages).inState _ ∅
    rw [hall]
    rfl

/-- Every reachable session is replayed. -/
theorem Reachable.isReplayed (laws : TriptychBatchLaws prims.crate)
    (h : Reachable prims session) : IsReplayed prims session := by
  induction h with
  | new hartifacts hnew =>
    next session =>
    obtain ⟨rfl, hstate, hpackages, hcache, -⟩ := new_eq_ok hnew
    refine ⟨⟨_, _, _, hartifacts⟩, by rw [hstate]; decide, fun _ ↦ hpackages, session, hnew, ?_⟩
    rw [hpackages, hstate, hcache, recordedAll, List.foldl_nil]
    show session = session.inState .frozen ∅
    rw [← hstate, ← hcache]
    rfl
  | openVoting h hnext ih =>
    obtain ⟨-, rfl⟩ := withLifecycle_transition hnext
    exact ih.inState .opened (by decide) nofun _
  | close h hnext ih =>
    obtain ⟨-, rfl⟩ := withLifecycle_transition hnext
    exact ih.inState .closed (by decide) nofun _
  | markVerified h hnext ih =>
    obtain ⟨-, rfl⟩ := withLifecycle_transition hnext
    exact ih.inState .verified (by decide) nofun _
  | finalize h hnext ih =>
    obtain ⟨-, rfl⟩ := withLifecycle_transition hnext
    exact ih.inState .finalized (by decide) nofun _
  | intake h packageBytes ih => exact ih.intakeBallotPackageBytes packageBytes
  | reconcile h packageBytes ih => exact ih.reconcile packageBytes
  | remember h digest byteLen modified ih =>
    exact ih.inState _ ih.notDraft ih.noPackages _
  | reconstructed h => exact isReplayed_of_fromDurableSnapshot h
  | reconstructedParallel hjoins h =>
    exact isReplayed_of_fromDurableSnapshot (fromDurableSnapshot_of_parallel laws hjoins h)

/-- A replayed session has a durable snapshot, and the snapshot is reconstructed to that
session, without the validation cache. -/
theorem fromDurableSnapshot_of_isReplayed (h : IsReplayed prims session) :
    ∃ snapshot, session.toDurableSnapshot = .ok snapshot ∧
      snapshot.lifecycleState = session.lifecycle.state ∧
      snapshot.packages = session.packages ∧
      fromDurableSnapshot prims snapshot = .ok session.withoutCache := by
  obtain ⟨_, _, _, hloaded⟩ := h.loaded
  obtain ⟨manifest, registry, candidates, hmanifest, hregistry, hcandidates, hagain⟩ :=
    GuiElectionArtifactsV1.exists_fromBytes_encoded hloaded
  obtain ⟨fresh, hnew, hsession⟩ := h.replayed
  refine ⟨⟨session.lifecycle.state, manifest, registry, candidates, session.packages⟩, ?_, rfl,
    rfl, ?_⟩
  · simp only [toDurableSnapshot, bind_eq_ok, ofProtocol_eq_ok]
    exact ⟨manifest, hmanifest, registry, hregistry, candidates, hcandidates, rfl⟩
  · rw [fromDurableSnapshot, reconstruct_eq_ok replayPackages_records]
    refine ⟨h.notDraft, h.noPackages, session.artifacts, fresh, hagain, hnew, ?_⟩
    show session.withoutCache = _
    rw [withoutCache]
    conv_lhs => rw [hsession]
    rfl

/-- The durable round trip of a live session: every reachable session has a snapshot, and its
reconstruction succeeds with the same lifecycle, artifacts, ledger, transcript, packages and
digest index; only the process-local validation cache starts empty. -/
theorem durableRoundTrip (laws : TriptychBatchLaws prims.crate) (h : Reachable prims session) :
    ∃ snapshot rebuilt, session.toDurableSnapshot = .ok snapshot ∧
      fromDurableSnapshot prims snapshot = .ok rebuilt ∧
      rebuilt.lifecycle = session.lifecycle ∧ rebuilt.artifacts = session.artifacts ∧
      rebuilt.verifier = session.verifier ∧ rebuilt.ledger = session.ledger ∧
      rebuilt.transcript = session.transcript ∧ rebuilt.packages = session.packages ∧
      rebuilt.privateIntakeDigestIndex = session.privateIntakeDigestIndex ∧
      rebuilt.privateInboxValidationCache = ∅ := by
  obtain ⟨snapshot, hsnapshot, -, -, hrebuilt⟩ :=
    fromDurableSnapshot_of_isReplayed (h.isReplayed laws)
  exact ⟨snapshot, session.withoutCache, hsnapshot, hrebuilt, rfl, rfl, rfl, rfl, rfl, rfl, rfl,
    rfl⟩

end GuiElectionSessionV1

/-! ### A sample session

A ballot and a second one of the same credential while voting is open, and a third from the
inbox after the close. -/

namespace Sample

open GuiElectionSessionV1

/-- The sample election's third-party code. -/
def prims : Primitives := ⟨Verifier.Sample.crate, Verifier.Sample.provider, id⟩

/-- The artifacts' encodings. -/
def manifestBytes : Bytes := (Verifier.Sample.manifest.toCanonicalCbor).toOption.getD []
def registryBytes : Bytes := (Verifier.Sample.registry.toCanonicalCbor).toOption.getD []
def candidateBytes : Bytes := (Verifier.Sample.candidates.toCanonicalCbor).toOption.getD []

/-- Freeze and open. -/
def openSession : GuiResult GuiElectionSessionV1 := do
  let artifacts ← GuiElectionArtifactsV1.fromBytes prims manifestBytes registryBytes candidateBytes
  let session ← GuiElectionSessionV1.new prims artifacts
  session.openVoting

theorem isSome_openSession : openSession.toOption.isSome = true := by decide +kernel

/-- Two ballots of one credential, the close, and a ballot from the inbox. -/
def drainedSession : GuiResult GuiElectionSessionV1 := do
  let session ← openSession
  let first := (session.intakeBallotPackageBytes prims (Verifier.Sample.package 1 9 [1])).2
  let second := (first.intakeBallotPackageBytes prims (Verifier.Sample.package 2 9 [1])).2
  let closed ← second.close
  pure (closed.reconcileAcceptedPackageBytesFromInbox prims (Verifier.Sample.package 2 8 [1])).2

theorem reachable_openSession {session : GuiElectionSessionV1} (h : openSession = .ok session) :
    Reachable prims session := by
  simp only [openSession, bind_eq_ok] at h
  obtain ⟨artifacts, hartifacts, fresh, hnew, hopen⟩ := h
  exact (Reachable.new hartifacts hnew).openVoting hopen

theorem reachable_drainedSession {session : GuiElectionSessionV1}
    (h : drainedSession = .ok session) : Reachable prims session := by
  simp only [drainedSession, bind_eq_ok] at h
  obtain ⟨opened, hopened, closed, hclosed, hsession⟩ := h
  cases hsession
  exact ((((reachable_openSession hopened).intake _).intake _).close hclosed).reconcile _

/-- Two packages of the drained session are accepted. -/
theorem accepted_drainedSession :
    drainedSession.toOption.map (·.ledger.acceptedBallots.length) = some 2 := by decide +kernel

end Sample

/-- The drained sample session is rebuilt from its snapshot. -/
theorem GuiElectionSessionV1.durableRoundTrip_sample :
    ∃ session, Sample.drainedSession = .ok session ∧
      ∃ snapshot rebuilt, session.toDurableSnapshot = .ok snapshot ∧
        GuiElectionSessionV1.fromDurableSnapshot Sample.prims snapshot = .ok rebuilt ∧
        rebuilt.ledger = session.ledger := by
  cases h : Sample.drainedSession with
  | error e =>
    have haccepted := Sample.accepted_drainedSession
    rw [h] at haccepted
    cases haccepted
  | ok session =>
    obtain ⟨snapshot, rebuilt, hsnapshot, hrebuilt, -, -, -, hledger, -⟩ :=
      GuiElectionSessionV1.durableRoundTrip (triptychBatchLaws_idealCrate _)
        (Sample.reachable_drainedSession h)
    exact ⟨session, rfl, snapshot, rebuilt, hsnapshot, hrebuilt, hledger⟩

/-- With one package a batch, a threshold of zero and two workers that take turns, the parallel
reconstruction of the drained sample session is the serial one. -/
theorem GuiElectionSessionV1.fromDurableSnapshotParallel_eq_fromDurableSnapshot_sample :
    let snapshot : GuiElectionSessionSnapshotV1 := ⟨.closed, Sample.manifestBytes,
      Sample.registryBytes, Sample.candidateBytes, [Verifier.Sample.package 1 9 [1],
        Verifier.Sample.package 2 9 [1], Verifier.Sample.package 2 8 [1]]⟩
    let config : HistoricalReplayConfigV1 := ⟨some 2, 1, 0⟩
    let executor : Executor := ⟨0, [0, 1, 1, 1, 1, 0, 0, 1]⟩
    config.usesParallelPath snapshot.packages.length = true ∧
      GuiElectionSessionV1.fromDurableSnapshotParallel Sample.prims snapshot config executor =
        GuiElectionSessionV1.fromDurableSnapshot Sample.prims snapshot := by
  intro snapshot config executor
  exact ⟨by decide, fromDurableSnapshotParallel_eq_fromDurableSnapshot
    (triptychBatchLaws_idealCrate _) snapshot config executor (by decide)⟩

end PrivateBallot.GuiCore
