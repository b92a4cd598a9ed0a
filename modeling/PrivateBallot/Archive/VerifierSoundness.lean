import PrivateBallot.Archive.Verifier

/-!
# Soundness of archive verification

Library `Archive`. What a report with `verified = true` says about the directory: the stages of
`verify_archive_directory_v1` are inverted one by one, and the replayed session is compared with
the first valid ballot of each nullifier.
-/

namespace PrivateBallot.Archive

open PrivateBallot.Base
open PrivateBallot.Protocol
open PrivateBallot.Ballot
open PrivateBallot.Registry
open PrivateBallot.Crypto
open PrivateBallot.Verifier
open PrivateBallot.Tally

/-! ### Stages that end early are not verified -/

/-- An early return carries a report that is not verified. -/
def FailsUnverified {α : Type} (stage : Stage α) : Prop :=
  ∀ report, stage = .error (.failed report) → report.verified = false

section

variable {α β : Type}

private theorem failsUnverified_ok (a : α) : FailsUnverified (.ok a) := by
  intro report h
  cases h

private theorem failsUnverified_failWith (report : ArchiveDirectoryVerificationV1)
    (stage : ArchiveStage) (code : String) :
    FailsUnverified (failWith report stage code : Stage α) := by
  intro report' h
  cases h
  rfl

private theorem failsUnverified_orFail (report : ArchiveDirectoryVerificationV1)
    (stage : ArchiveStage) (x : Except String α) : FailsUnverified (orFail report stage x) := by
  cases x with
  | ok a => exact failsUnverified_ok a
  | error code => exact failsUnverified_failWith report stage code

private theorem failsUnverified_orStop (x : Except ArchiveVerifierError α) :
    FailsUnverified (orStop x) := by
  intro report h
  cases x with
  | ok a => cases h
  | error e => cases h

private theorem failsUnverified_orIoFailure (x : Result α) : FailsUnverified (orIoFailure x) := by
  intro report h
  cases x with
  | ok a => cases h
  | error e => cases h

private theorem FailsUnverified.bind {x : Stage α} {f : α → Stage β} (hx : FailsUnverified x)
    (hf : ∀ a, FailsUnverified (f a)) : FailsUnverified (x >>= f) := by
  intro report h
  cases x with
  | ok a => exact hf a report h
  | error stop =>
    apply hx report
    simp only [Bind.bind, Except.bind, Except.error.injEq] at h
    rw [h]

end

section

variable {crate : TriptychCrate} {provider : HashProvider} {nfc : List Char → List Char}

private theorem failsUnverified_readCatalog (file : Text → Except ArchiveVerifierError Bytes)
    (entries : List ArchiveFileEntryV1) (files : List (Text × Bytes))
    (report : ArchiveDirectoryVerificationV1) :
    FailsUnverified (readCatalog provider file entries files report) := by
  induction entries generalizing files report with
  | nil => exact failsUnverified_ok _
  | cons entry rest ih =>
    apply (failsUnverified_orStop _).bind
    intro bytes
    dsimp only
    split
    · exact ih _ _
    · exact failsUnverified_failWith _ _ _

private theorem failsUnverified_compareCatalog (manifest : ArchiveManifestV1)
    (diskFiles : List Bytes) (report : ArchiveDirectoryVerificationV1) :
    FailsUnverified (compareCatalog manifest diskFiles report) := by
  unfold compareCatalog
  split
  · exact failsUnverified_failWith _ _ _
  · split
    · exact failsUnverified_failWith _ _ _
    · exact failsUnverified_ok _

private theorem failsUnverified_readArchiveManifest (reads : ArchiveReads) :
    FailsUnverified (readArchiveManifest provider reads) := by
  apply (failsUnverified_orStop _).bind
  intro _
  have hbytes : FailsUnverified (readManifestBytes reads) := by
    unfold readManifestBytes
    split
    · exact failsUnverified_ok _
    · exact failsUnverified_failWith _ _ _
    · exact failsUnverified_failWith _ _ _
  apply hbytes.bind
  intro manifestBytes
  apply (failsUnverified_orFail _ _ _).bind
  intro manifest
  apply (failsUnverified_orFail _ _ _).bind
  intro _
  apply (failsUnverified_orIoFailure _).bind
  intro archiveHash
  exact failsUnverified_ok _

/-- Establishing the identity fails with a report that is not verified. -/
theorem failsUnverified_establishIdentityAndCatalog (reads : ArchiveReads) :
    FailsUnverified (establishIdentityAndCatalog provider reads) := by
  apply (failsUnverified_readArchiveManifest reads).bind
  rintro ⟨manifest, archiveHash⟩
  apply (failsUnverified_orStop _).bind
  intro diskFiles
  apply (failsUnverified_compareCatalog _ _ _).bind
  intro _
  apply (failsUnverified_readCatalog _ _ _ _).bind
  rintro ⟨files, result⟩
  exact failsUnverified_ok _

private theorem failsUnverified_decodeArtifacts (manifest : ArchiveManifestV1)
    (files : List (Text × Bytes)) (report : ArchiveDirectoryVerificationV1) :
    FailsUnverified (decodeArtifacts provider nfc manifest files report) := by
  unfold decodeArtifacts
  split
  · exact failsUnverified_failWith _ _ _
  · exact failsUnverified_orFail _ _ _

private theorem failsUnverified_checkTransportBinding (artifacts : ArchiveElectionArtifactsV1)
    (files : List (Text × Bytes)) (report : ArchiveDirectoryVerificationV1) :
    FailsUnverified (checkTransportBinding provider artifacts files report) := by
  unfold checkTransportBinding
  split
  · exact failsUnverified_ok _
  · apply (failsUnverified_orFail _ _ _).bind
    intro binding
    split
    · exact failsUnverified_failWith _ _ _
    · exact failsUnverified_ok _

private theorem failsUnverified_checkGovernancePin (manifest : ArchiveManifestV1)
    (artifacts : ArchiveElectionArtifactsV1) (report : ArchiveDirectoryVerificationV1) :
    FailsUnverified (checkGovernancePin manifest artifacts report) := by
  unfold checkGovernancePin
  split
  · exact failsUnverified_ok _
  · exact failsUnverified_ok _
  · split
    · exact failsUnverified_failWith _ _ _
    · split
      · exact failsUnverified_ok _
      · exact failsUnverified_failWith _ _ _

private theorem failsUnverified_replaySubmissions (artifacts : ArchiveElectionArtifactsV1)
    (packages : List Bytes) (report : ArchiveDirectoryVerificationV1) :
    FailsUnverified (replaySubmissions crate provider artifacts packages report) := by
  apply (failsUnverified_orFail _ _ _).bind
  intro session
  apply (failsUnverified_orFail _ _ _).bind
  intro session
  dsimp only
  apply (failsUnverified_orFail _ _ _).bind
  intro _
  apply (failsUnverified_orFail _ _ _).bind
  intro _
  apply (failsUnverified_orFail _ _ _).bind
  intro tally
  exact failsUnverified_ok _

private theorem failsUnverified_checkArchiveHash (manifest : ArchiveManifestV1)
    (archiveHash : ArchiveHashV1) (manifestHash : ManifestHash) (files : List (Text × Bytes))
    (report : ArchiveDirectoryVerificationV1) :
    FailsUnverified (checkArchiveHash provider manifest archiveHash manifestHash files report) := by
  apply (failsUnverified_orIoFailure _).bind
  intro rebuilt
  apply (failsUnverified_orIoFailure _).bind
  intro recomputed
  dsimp only
  split
  · exact failsUnverified_ok _
  · exact failsUnverified_failWith _ _ _

/-- The later stages fail with a report that is not verified. -/
theorem failsUnverified_finishStages (established : EstablishedIdentityV1) :
    FailsUnverified (finishStages crate provider nfc established) := by
  apply (failsUnverified_decodeArtifacts _ _ _).bind
  intro artifacts
  apply (failsUnverified_checkTransportBinding _ _ _).bind
  intro report
  apply (failsUnverified_checkGovernancePin _ _ _).bind
  intro report
  apply (failsUnverified_replaySubmissions _ _ _).bind
  rintro ⟨session, report⟩
  exact failsUnverified_checkArchiveHash _ _ _ _ _

/-- A verified report comes from stages that all passed. -/
theorem stages_of_verified {reads : ArchiveReads} {report : ArchiveDirectoryVerificationV1}
    (h : verifyReads crate provider nfc reads = .ok report) (hverified : report.verified = true) :
    ∃ established, establishIdentityAndCatalog provider reads = .ok established ∧
      finishStages crate provider nfc established = .ok report := by
  have hreturned : ∀ stage : Stage ArchiveDirectoryVerificationV1, FailsUnverified stage →
      returned stage = .ok report → stage = .ok report := by
    intro stage hfails hreturn
    cases stage with
    | ok passed =>
      cases hreturn
      rfl
    | error stop =>
      cases stop with
      | error e => cases hreturn
      | failed failed =>
        cases hreturn
        rw [hfails _ rfl] at hverified
        cases hverified
  unfold verifyReads at h
  cases hestablish : establishIdentityAndCatalog provider reads with
  | ok established =>
    rw [hestablish] at h
    exact ⟨established, rfl, hreturned _ (failsUnverified_finishStages established) h⟩
  | error stop =>
    rw [hestablish] at h
    have hfails : FailsUnverified (.error stop : Stage ArchiveDirectoryVerificationV1) := by
      intro failed hstop
      cases hstop
      exact failsUnverified_establishIdentityAndCatalog reads failed hestablish
    cases hreturned _ hfails h

end

/-! ### What each stage has found -/

section

variable {α : Type}

@[simp] theorem orStop_eq_ok (x : Except ArchiveVerifierError α) (a : α) :
    orStop x = .ok a ↔ x = .ok a := by
  cases x with
  | ok b => simp [orStop]
  | error e => simp [orStop]

@[simp] theorem orFail_eq_ok (report : ArchiveDirectoryVerificationV1) (stage : ArchiveStage)
    (x : Except String α) (a : α) : orFail report stage x = .ok a ↔ x = .ok a := by
  cases x with
  | ok b => simp [orFail]
  | error e => simp [orFail, failWith]

@[simp] theorem orIoFailure_eq_ok (x : Result α) (a : α) : orIoFailure x = .ok a ↔ x = .ok a := by
  cases x with
  | ok b => simp [orIoFailure]
  | error e => simp [orIoFailure]

@[simp] theorem codeStr_eq_ok (x : Result α) (a : α) : codeStr x = .ok a ↔ x = .ok a := by
  cases x with
  | ok b => simp [codeStr, Except.mapError]
  | error e => simp [codeStr, Except.mapError]

@[simp] theorem failWith_ne_ok (report : ArchiveDirectoryVerificationV1) (stage : ArchiveStage)
    (code : String) (a : α) : failWith report stage code ≠ .ok a := by
  intro h
  cases h

end

section

variable {crate : TriptychCrate} {provider : HashProvider} {nfc : List Char → List Char}

/-- The bytes read for a catalog entry. -/
def contentOf (reads : ArchiveReads) (entry : ArchiveFileEntryV1) : Bytes :=
  (reads.file entry.path.value).toOption.getD []

/-- The files of a catalog with the bytes read for them. -/
def contentsOf (reads : ArchiveReads) (entries : List ArchiveFileEntryV1) : List (Text × Bytes) :=
  entries.map fun entry ↦ (entry.path.value, contentOf reads entry)

/-- The check of a file that is there and has its digest. -/
def passedCheck (entry : ArchiveFileEntryV1) : ArchiveDirectoryFileCheckV1 :=
  ⟨entry.path.value, true, true⟩

private theorem readCatalog_eq_ok {reads : ArchiveReads} {entries : List ArchiveFileEntryV1}
    {files files' : List (Text × Bytes)} {report report' : ArchiveDirectoryVerificationV1}
    (h : readCatalog provider reads.file entries files report = .ok (files', report')) :
    files' = files ++ contentsOf reads entries ∧
      report' = { report with files := report.files ++ entries.map passedCheck } ∧
      ∀ entry ∈ entries, reads.file entry.path.value = .ok (contentOf reads entry) ∧
        archiveFileDigest provider (contentOf reads entry) = entry.digest := by
  induction entries generalizing files report with
  | nil =>
    cases h
    simp [contentsOf]
  | cons entry rest ih =>
    rw [readCatalog] at h
    obtain ⟨bytes, hbytes, hrest⟩ := bind_eq_ok.mp h
    rw [orStop_eq_ok] at hbytes
    have hcontent : contentOf reads entry = bytes := by
      rw [contentOf, hbytes]
      rfl
    cases hdigest : (entry.verifyBytes provider bytes).isOk with
    | false => simp [hdigest] at hrest
    | true =>
      simp only [hdigest, if_true] at hrest
      obtain ⟨hfiles, hreport, hall⟩ := ih hrest
      refine ⟨?_, ?_, ?_⟩
      · rw [hfiles, contentsOf, contentsOf, List.map_cons, hcontent, List.append_assoc]
        rfl
      · rw [hreport]
        simp only [List.map_cons, List.append_assoc]
        rfl
      · intro other hother
        rcases List.mem_cons.mp hother with rfl | hmem
        · refine ⟨by rw [hcontent, hbytes], ?_⟩
          unfold ArchiveFileEntryV1.verifyBytes refuseIf at hdigest
          split at hdigest
          · cases hdigest
          · next hsame =>
            rw [hcontent]
            simpa using hsame
        · exact hall other hmem

/-- What an established identity is: the decoded manifest with its hash, a catalog that agrees
with the files on disk, and the bytes of every file, with the digest of the catalog. -/
structure IsEstablished (provider : HashProvider) (reads : ArchiveReads)
    (established : EstablishedIdentityV1) : Prop where
  manifest : ∃ bytes, reads.manifest = .ok bytes ∧
    ArchiveManifestV1.fromCanonicalCbor bytes = .ok established.archiveManifest
  archiveHash : established.archiveManifest.canonicalHash provider = .ok established.archiveHash
  catalog : ∃ diskFiles, reads.diskFiles = .ok diskFiles ∧ ∀ path,
    path ∈ diskFiles ↔ path ∈ (catalogPaths established.archiveManifest).map Text.toBytes
  files : established.files = contentsOf reads established.archiveManifest.files.entries
  read : ∀ entry ∈ established.archiveManifest.files.entries,
    reads.file entry.path.value = .ok (contentOf reads entry) ∧
      archiveFileDigest provider (contentOf reads entry) = entry.digest
  result : established.result =
    { identityReport established.archiveManifest established.archiveHash with
      files := established.archiveManifest.files.entries.map passedCheck }

private theorem compareCatalog_eq_ok {manifest : ArchiveManifestV1} {diskFiles : List Bytes}
    {report : ArchiveDirectoryVerificationV1}
    (h : compareCatalog manifest diskFiles report = .ok ())
    (path : Bytes) : path ∈ diskFiles ↔ path ∈ (catalogPaths manifest).map Text.toBytes := by
  unfold compareCatalog at h
  split at h
  · cases h
  · next hmissing =>
    split at h
    · cases h
    · next hunexpected =>
      simp only [List.any_eq_true, not_exists, not_and, Bool.not_eq_true', Bool.not_eq_false,
        List.contains_iff_mem] at hmissing hunexpected
      constructor
      · exact hunexpected path
      · intro hpath
        obtain ⟨text, htext, rfl⟩ := List.mem_map.mp hpath
        exact hmissing text htext

/-- The identity is established only by files that make it up. -/
theorem isEstablished_of_establish {reads : ArchiveReads} {established : EstablishedIdentityV1}
    (h : establishIdentityAndCatalog provider reads = .ok established) :
    IsEstablished provider reads established := by
  obtain ⟨⟨manifest, archiveHash⟩, hmanifest, hrest⟩ := bind_eq_ok.mp h
  obtain ⟨diskFiles, hdisk, hrest⟩ := bind_eq_ok.mp hrest
  obtain ⟨u, hcompare, hrest⟩ := bind_eq_ok.mp hrest
  obtain ⟨⟨files, result⟩, hcatalog, hresult⟩ := bind_eq_ok.mp hrest
  cases hresult
  obtain ⟨hfiles, hreport, hread⟩ := readCatalog_eq_ok hcatalog
  simp only [readArchiveManifest, bind_eq_ok, orFail_eq_ok, orIoFailure_eq_ok, codeStr_eq_ok]
    at hmanifest
  obtain ⟨_, _, bytes, hbytes, decoded, hdecoded, _, _, hash, hhash, hpair⟩ := hmanifest
  cases hpair
  refine ⟨⟨bytes, ?_, hdecoded⟩, hhash, ⟨diskFiles, ?_, compareCatalog_eq_ok hcompare⟩,
    ?_, hread, ?_⟩
  · unfold readManifestBytes at hbytes
    split at hbytes
    · next read hread =>
      cases hbytes
      exact hread
    · cases hbytes
    · cases hbytes
  · rwa [orStop_eq_ok] at hdisk
  · rw [hfiles, List.nil_append]
  · rw [hreport]
    rfl

end

/-! ### Replay is the first valid ballot of each nullifier -/

/-- The valid ballots of the packages, of each nullifier the first, in order. -/
def keptBallots (context : VerificationContext) (lifecycle : ElectionLifecycleV1)
    (packages : List Bytes) : List VerifiedApprovalBallotV1 :=
  firstOfEach (fun ballot ↦ ballot.proof.nullifier)
    (packages.filterMap fun packageBytes ↦
      eligibleBallot lifecycle (.ingest context packageBytes))

namespace ArchiveReplaySessionV1

section

variable {crate : TriptychCrate} {provider : HashProvider}

/-- The lifecycle and the ledger of a session. -/
def ledgerState (self : ArchiveReplaySessionV1) : LedgerState := ⟨self.lifecycle, self.ledger⟩

/-- Every submission is decided, and every accepted decision is a ballot on the ledger. -/
def IsBalanced (self : ArchiveReplaySessionV1) : Prop :=
  self.transcript.decisions.length = self.transcript.submissions.length ∧
    self.transcript.acceptedCount = self.ledger.acceptedBallots.length

private theorem length_acceptedBallots_ingest (context : VerificationContext)
    (lifecycle : ElectionLifecycleV1) (ledger : BallotAcceptanceLedger) (packageBytes : Bytes) :
    (ingestApprovalBallotPackageV1 context lifecycle ledger packageBytes).2.acceptedBallots.length =
      ledger.acceptedBallots.length +
        if BallotDecisionOutcomeV1.ofResult
          (ingestApprovalBallotPackageV1 context lifecycle ledger packageBytes).1 = .accepted
        then 1 else 0 := by
  obtain ⟨e, h⟩ | ⟨ballot, h, -⟩ := ingest_cases context lifecycle ledger packageBytes
  · rw [h]
    rfl
  · rw [h, List.length_append]
    rfl

/-- The session with one more package recorded. -/
def recorded (self : ArchiveReplaySessionV1) (crate : TriptychCrate) (provider : HashProvider)
    (packageBytes : Bytes) : ArchiveReplaySessionV1 :=
  let ingested := ingestApprovalBallotPackageV1 (self.context crate provider) self.lifecycle
    self.ledger packageBytes
  let digest := packageDigest provider packageBytes
  { self with
    ledger := ingested.2
    transcript := ⟨self.transcript.manifestHash,
      self.transcript.submissions ++ [⟨self.transcript.submissions.length, digest, true⟩],
      self.transcript.decisions ++
        [⟨self.transcript.submissions.length, digest, .ofResult ingested.1⟩]⟩ }

private theorem intakeBallot_eq {self : ArchiveReplaySessionV1} (h : self.IsBalanced)
    (packageBytes : Bytes) : self.intakeBallot crate provider packageBytes =
      (.ok (), self.recorded crate provider packageBytes) := by
  unfold intakeBallot recordIngest
  simp only [self.transcript.recordDecision_recordSubmission _ true _ h.1]
  rfl

private theorem IsBalanced.recorded {self : ArchiveReplaySessionV1} (h : self.IsBalanced)
    (packageBytes : Bytes) : (self.recorded crate provider packageBytes).IsBalanced := by
  obtain ⟨hlengths, hcount⟩ := h
  constructor
  · simp only [ArchiveReplaySessionV1.recorded, List.length_append, hlengths]
    rfl
  · have hledger := length_acceptedBallots_ingest (self.context crate provider) self.lifecycle
      self.ledger packageBytes
    rw [VerificationTranscriptV1.acceptedCount] at hcount ⊢
    simp only [ArchiveReplaySessionV1.recorded, List.filter_append, List.length_append, hledger,
      hcount]
    congr 1
    by_cases haccepted : BallotDecisionOutcomeV1.ofResult (ingestApprovalBallotPackageV1
        (self.context crate provider) self.lifecycle self.ledger packageBytes).1 = .accepted
    · simp [haccepted]
    · simp [haccepted]

/-- Every package is recorded, the ledger takes the steps, and the session stays balanced. -/
theorem replaySerial_eq (crate : TriptychCrate) (provider : HashProvider)
    {self : ArchiveReplaySessionV1} (h : self.IsBalanced) (packages : List Bytes) :
    ∃ session, self.replaySerial crate provider packages = (.ok (), session) ∧
      session.artifacts = self.artifacts ∧ session.IsBalanced ∧
      session.ledgerState = self.ledgerState.run
        (packages.map (.ingest (self.context crate provider))) ∧
      session.transcript.decisions.length =
        self.transcript.decisions.length + packages.length := by
  induction packages generalizing self with
  | nil => exact ⟨self, rfl, rfl, h, rfl, rfl⟩
  | cons packageBytes rest ih =>
    obtain ⟨session, hreplay, hartifacts, hbalanced, hledger, hlength⟩ :=
      ih (h.recorded packageBytes)
    refine ⟨session, ?_, hartifacts, hbalanced, hledger, ?_⟩
    · rw [replaySerial, intakeBallot_eq h]
      exact hreplay
    · rw [hlength]
      simp only [ArchiveReplaySessionV1.recorded, List.length_append, List.length_cons,
        List.length_nil]
      omega

private theorem eligibleBallots_ingest (context : VerificationContext) (state : LedgerState)
    (packages : List Bytes) :
    eligibleBallots state (packages.map (.ingest context)) =
      packages.filterMap fun packageBytes ↦
        eligibleBallot state.lifecycle (.ingest context packageBytes) := by
  induction packages generalizing state with
  | nil => rfl
  | cons packageBytes rest ih =>
    rw [List.map_cons, eligibleBallots, ih, List.filterMap_cons]
    have hsame : (state.step (.ingest context packageBytes)).2.lifecycle = state.lifecycle := rfl
    rw [hsame]
    cases eligibleBallot state.lifecycle (.ingest context packageBytes) with
    | none => rfl
    | some ballot => rfl

/-- The lifecycle of an election that is open. -/
def openLifecycle (artifacts : ArchiveElectionArtifactsV1) : ElectionLifecycleV1 :=
  ⟨.opened, some artifacts.manifestHash, some artifacts.registryCommitment⟩

/-- A replayed session: it was built for the artifacts, and its ledger holds the kept ballots. -/
theorem replayed_of_new {artifacts : ArchiveElectionArtifactsV1}
    {session opened : ArchiveReplaySessionV1} (hnew : new crate provider artifacts = .ok session)
    (hopen : session.openVoting = .ok opened) (packages : List Bytes) :
    ∃ verifier replayed,
      buildTariTriptychVerifierFromRegistryV1 crate artifacts.registry provider = .ok verifier ∧
      opened.replaySerial crate provider packages = (.ok (), replayed) ∧
      replayed.artifacts = artifacts ∧ replayed.IsBalanced ∧
      replayed.transcript.decisions.length = packages.length ∧
      replayed.ledger.acceptedBallots = (keptBallots
        ⟨artifacts.manifest, artifacts.candidates, provider, verifier.toProofVerifier crate⟩
        (openLifecycle artifacts) packages).map VerifiedApprovalBallotV1.toAccepted := by
  simp only [new, bind_eq_ok, codeStr_eq_ok] at hnew
  obtain ⟨verifier, hverifier, lifecycle, hfreeze, hsession⟩ := hnew
  cases hsession
  cases hfreeze
  simp only [openVoting, bind_eq_ok, codeStr_eq_ok] at hopen
  obtain ⟨lifecycle, hlifecycle, hopened⟩ := hopen
  cases hlifecycle
  cases hopened
  have hbalanced : IsBalanced ⟨artifacts, verifier, openLifecycle artifacts, .new,
      .new artifacts.manifestHash⟩ := ⟨rfl, rfl⟩
  obtain ⟨replayed, hreplay, hartifacts, hstill, hledger, hlength⟩ :=
    replaySerial_eq crate provider hbalanced packages
  refine ⟨verifier, replayed, hverifier, hreplay, hartifacts, hstill, ?_, ?_⟩
  · rw [hlength]
    exact Nat.zero_add _
  · -- The run starts with the freeze and the opening of a new lifecycle.
    have hrun := (ledger_run ([LedgerOperation.freeze artifacts.manifestHash
      artifacts.registryCommitment, .openVoting] ++ packages.map (LedgerOperation.ingest
        ⟨artifacts.manifest, artifacts.candidates, provider, verifier.toProofVerifier crate⟩))).1
    have hstart : replayed.ledger = (LedgerState.initial.run
        ([LedgerOperation.freeze artifacts.manifestHash artifacts.registryCommitment,
          .openVoting] ++ packages.map (LedgerOperation.ingest ⟨artifacts.manifest,
            artifacts.candidates, provider, verifier.toProofVerifier crate⟩))).ledger := by
      rw [show replayed.ledger = replayed.ledgerState.ledger from rfl, hledger]
      rfl
    rw [hstart, hrun]
    congr 2
    exact eligibleBallots_ingest _ ⟨openLifecycle artifacts, .new⟩ packages

end

end ArchiveReplaySessionV1

/-! ### What the later stages have found -/

section

variable {crate : TriptychCrate} {provider : HashProvider} {nfc : List Char → List Char}

/-- A file of the catalog is looked up with the bytes read for it. -/
theorem lookup_contentsOf (reads : ArchiveReads) {entries : List ArchiveFileEntryV1}
    {path : Text} (h : path ∈ entries.map (·.path.value)) :
    (contentsOf reads entries).lookup path = some ((reads.file path).toOption.getD []) := by
  induction entries with
  | nil => cases h
  | cons entry rest ih =>
    rw [contentsOf, List.map_cons, List.lookup_cons]
    by_cases hpath : path = entry.path.value
    · subst hpath
      simp only [beq_self_eq_true]
      rfl
    · have hrest : path ∈ rest.map (·.path.value) := by
        rcases List.mem_cons.mp h with heq | hmem
        · exact absurd heq hpath
        · exact hmem
      rw [beq_eq_false_iff_ne.mpr hpath]
      exact ih hrest

/-- What the later stages of a verification have found: the artifacts decode and commit to each
other, the archive manifest is about that election, and the counts and the tally are those of the
kept ballots. -/
structure IsReplayed (crate : TriptychCrate) (provider : HashProvider)
    (nfc : List Char → List Char) (established : EstablishedIdentityV1)
    (report : ArchiveDirectoryVerificationV1) (artifacts : ArchiveElectionArtifactsV1)
    (kept : List VerifiedApprovalBallotV1) : Prop where
  present : ∀ path ∈ [electionManifestArchivePath, voterRegistryArchivePath,
    candidateSetArchivePath], path ∈ catalogPaths established.archiveManifest
  decoded : ArchiveElectionArtifactsV1.fromBytes nfc provider
    (fileBytes established.files electionManifestArchivePath)
    (fileBytes established.files voterRegistryArchivePath)
    (fileBytes established.files candidateSetArchivePath) = .ok artifacts
  electionHash : established.archiveManifest.electionManifestHash = artifacts.manifestHash
  replayed : ∃ verifier,
    buildTariTriptychVerifierFromRegistryV1 crate artifacts.registry provider = .ok verifier ∧
    kept = keptBallots
      ⟨artifacts.manifest, artifacts.candidates, provider, verifier.toProofVerifier crate⟩
      (ArchiveReplaySessionV1.openLifecycle artifacts)
      ((submissionPaths established.archiveManifest).map (fileBytes established.files))
  acceptedCount : report.acceptedCount = kept.length
  rejectedCount : report.rejectedCount =
    (submissionPaths established.archiveManifest).length - kept.length
  tally : report.tally = some (summarizeTally
    (approvalTallyOf artifacts.candidates (kept.map (·.payload))) artifacts.candidates)
  finalized : report.finalized = established.archiveManifest.isFinalizedArchiveManifest

private theorem electionManifestHash_of_rebuild {manifest rebuilt : ArchiveManifestV1}
    {manifestHash : ManifestHash} {files : List (Text × Bytes)}
    (h : rebuildManifest provider manifest manifestHash files = .ok rebuilt) :
    rebuilt.electionManifestHash = manifestHash := by
  obtain ⟨catalog, -, hmanifest⟩ := bind_eq_ok.mp h
  split at hmanifest
  · rw [ArchiveManifestV1.toArchiveManifestFields_of_newWithLifecycle hmanifest]
  · rw [ArchiveManifestV1.toArchiveManifestFields_of_newWithLifecycle hmanifest]

private theorem checkArchiveHash_eq_ok {manifest : ArchiveManifestV1} {archiveHash : ArchiveHashV1}
    {manifestHash : ManifestHash} {files : List (Text × Bytes)}
    {before report : ArchiveDirectoryVerificationV1}
    (h : checkArchiveHash provider manifest archiveHash manifestHash files before = .ok report) :
    manifest.electionManifestHash = manifestHash ∧
      report.finalized = manifest.isFinalizedArchiveManifest ∧
      report.acceptedCount = before.acceptedCount ∧
      report.rejectedCount = before.rejectedCount ∧ report.tally = before.tally := by
  obtain ⟨rebuilt, hrebuilt, hrest⟩ := bind_eq_ok.mp h
  obtain ⟨recomputed, hrecomputed, hreport⟩ := bind_eq_ok.mp hrest
  rw [orIoFailure_eq_ok] at hrebuilt
  dsimp only at hreport
  split at hreport
  · next hconsistent =>
    have hsame := (of_decide_eq_true hconsistent).1
    cases hreport
    refine ⟨?_, rfl, rfl, rfl, rfl⟩
    rw [← hsame]
    exact electionManifestHash_of_rebuild hrebuilt
  · cases hreport

private theorem replaySubmissions_eq_ok (laws : TriptychBatchLaws crate)
    {artifacts : ArchiveElectionArtifactsV1} {packages : List Bytes}
    {before report : ArchiveDirectoryVerificationV1} {session : ArchiveReplaySessionV1}
    (h : replaySubmissions crate provider artifacts packages before = .ok (session, report)) :
    session.artifacts = artifacts ∧ ∃ verifier kept,
      buildTariTriptychVerifierFromRegistryV1 crate artifacts.registry provider = .ok verifier ∧
      kept = keptBallots
        ⟨artifacts.manifest, artifacts.candidates, provider, verifier.toProofVerifier crate⟩
        (ArchiveReplaySessionV1.openLifecycle artifacts) packages ∧
      report.acceptedCount = kept.length ∧ report.rejectedCount = packages.length - kept.length ∧
      report.tally = some (summarizeTally
        (approvalTallyOf artifacts.candidates (kept.map (·.payload))) artifacts.candidates) := by
  simp only [replaySubmissions, bind_eq_ok, orFail_eq_ok] at h
  obtain ⟨created, hcreated, opened, hopened, u, hreplay, v, hcomplete, tally, htally, hpair⟩ := h
  obtain ⟨verifier, replayed, hverifier, hserial, hartifacts, hbalanced, hlength, hledger⟩ :=
    ArchiveReplaySessionV1.replayed_of_new hcreated hopened packages
  have hbatched : opened.replayBatched crate provider packages = (.ok (), replayed) := by
    rw [← hserial]
    exact ArchiveReplaySessionV1.replayBatches_eq_replaySerial crate provider laws opened _ packages
      (flatten_chunks archiveReplayBatchSizeV1 (by decide) packages)
  rw [hbatched] at htally hpair
  cases hpair
  have hcount := hbalanced.2
  rw [hledger, List.length_map] at hcount
  refine ⟨hartifacts, verifier, _, hverifier, rfl, hcount, ?_, ?_⟩
  · show replayed.transcript.rejectedCount = _
    rw [VerificationTranscriptV1.rejectedCount, hcount, hlength]
  · rw [ArchiveReplaySessionV1.directTally, codeStr_eq_ok, hartifacts, hledger] at htally
    show some (summarizeTally tally replayed.artifacts.candidates) = _
    rw [ApprovalTally.eq_of_fromBallots htally, hartifacts, List.map_map]
    rfl

/-- Stages that all passed have found what they look for. -/
theorem isReplayed_of_finishStages (laws : TriptychBatchLaws crate)
    {established : EstablishedIdentityV1} {report : ArchiveDirectoryVerificationV1}
    (h : finishStages crate provider nfc established = .ok report) :
    ∃ artifacts kept, IsReplayed crate provider nfc established report artifacts kept := by
  obtain ⟨artifacts, hartifacts, hrest⟩ := bind_eq_ok.mp h
  obtain ⟨bound, hbound, hrest⟩ := bind_eq_ok.mp hrest
  obtain ⟨pinned, hpinned, hrest⟩ := bind_eq_ok.mp hrest
  obtain ⟨⟨session, counted⟩, hreplay, hhash⟩ := bind_eq_ok.mp hrest
  obtain ⟨hsame, verifier, kept, hverifier, hkept, haccepted, hrejected, htally⟩ :=
    replaySubmissions_eq_ok laws hreplay
  obtain ⟨helection, hfinalized, haccepted', hrejected', htally'⟩ := checkArchiveHash_eq_ok hhash
  rw [List.length_map] at hrejected
  unfold decodeArtifacts at hartifacts
  split at hartifacts
  · cases hartifacts
  · next hpresent =>
    rw [orFail_eq_ok] at hartifacts
    simp only [List.any_eq_true, not_exists, not_and, Bool.not_eq_true', Bool.not_eq_false,
      List.contains_iff_mem] at hpresent
    refine ⟨artifacts, kept, hpresent, hartifacts, ?_, ⟨verifier, hverifier, hkept⟩,
      haccepted'.trans haccepted, hrejected'.trans hrejected, htally'.trans htally, hfinalized⟩
    rw [helection, hsame]

end

/-! ### Soundness -/

section

variable {crate : TriptychCrate} {provider : HashProvider} {nfc : List Char → List Char}

/-- What a directory holds whose archive is verified: a manifest that decodes; a catalog that is
the content files, each with its digest; artifacts that decode, commit to each other and are the
election of the manifest; and submissions, in path order, whose kept ballots are the counts and
the tally of the report. -/
structure IsVerifiedArchive (crate : TriptychCrate) (provider : HashProvider)
    (nfc : List Char → List Char) (entries : List ArchiveEntry)
    (report : ArchiveDirectoryVerificationV1) (manifest : ArchiveManifestV1)
    (artifacts : ArchiveElectionArtifactsV1) (submissions : List (Bytes × Bytes))
    (kept : List VerifiedApprovalBallotV1) : Prop where
  manifestDecodes : ∃ bytes, FileAt entries archiveManifestCanonicalPath.toBytes bytes ∧
    ArchiveManifestV1.fromCanonicalCbor bytes = .ok manifest
  catalog : ∀ path, (∃ entry ∈ manifest.files.entries, entry.path.value.toBytes = path) ↔
    (∃ bytes, FileAt entries path bytes) ∧ isContentPath path = true
  digests : ∀ entry ∈ manifest.files.entries, ∀ bytes,
    FileAt entries entry.path.value.toBytes bytes → archiveFileDigest provider bytes = entry.digest
  electionManifest : ∃ bytes, FileAt entries electionManifestArchivePath.toBytes bytes ∧
    ElectionManifest.fromCanonicalCbor nfc bytes = .ok artifacts.manifest
  registry : ∃ bytes, FileAt entries voterRegistryArchivePath.toBytes bytes ∧
    RegistrySnapshot.fromCanonicalCbor bytes = .ok artifacts.registry
  candidates : ∃ bytes, FileAt entries candidateSetArchivePath.toBytes bytes ∧
    CandidateSet.fromCanonicalCbor bytes = .ok artifacts.candidates
  registryCommitment : artifacts.registry.canonicalCommitment provider =
    .ok artifacts.manifest.fields.registryCommitment
  candidateSetCommitment : artifacts.candidates.canonicalCommitment provider =
    .ok artifacts.manifest.fields.candidateSetCommitment
  electionHash : artifacts.manifest.canonicalHash provider = .ok manifest.electionManifestHash
  frozen : artifacts.manifestHash = manifest.electionManifestHash ∧
    artifacts.registryCommitment = artifacts.manifest.fields.registryCommitment
  submissionOrder : submissions.Pairwise fun a b ↦ a.1 < b.1
  mem_submissions : ∀ path bytes, (path, bytes) ∈ submissions ↔
    FileAt entries path bytes ∧ submissionsArchivePrefix.toBytes <+: path
  kept_eq : ∃ verifier,
    buildTariTriptychVerifierFromRegistryV1 crate artifacts.registry provider = .ok verifier ∧
    kept = keptBallots
      ⟨artifacts.manifest, artifacts.candidates, provider, verifier.toProofVerifier crate⟩
      (ArchiveReplaySessionV1.openLifecycle artifacts) (submissions.map (·.2))
  acceptedCount : report.acceptedCount = kept.length
  rejectedCount : report.rejectedCount = submissions.length - kept.length
  tally : report.tally = some (summarizeTally
    (approvalTallyOf artifacts.candidates (kept.map (·.payload))) artifacts.candidates)
  finalized : report.finalized = true →
    manifest.archiveManifestVersion = archiveManifestVersionV2 ∧
      manifest.finalLifecycleState = some archiveFinalLifecycleStateFinalizedV1

private theorem fromBytes_eq_ok {manifestBytes registryBytes candidateBytes : Bytes}
    {artifacts : ArchiveElectionArtifactsV1}
    (h : ArchiveElectionArtifactsV1.fromBytes nfc provider manifestBytes registryBytes
      candidateBytes = .ok artifacts) :
    ElectionManifest.fromCanonicalCbor nfc manifestBytes = .ok artifacts.manifest ∧
      RegistrySnapshot.fromCanonicalCbor registryBytes = .ok artifacts.registry ∧
      CandidateSet.fromCanonicalCbor candidateBytes = .ok artifacts.candidates ∧
      artifacts.registry.canonicalCommitment provider = .ok artifacts.registryCommitment ∧
      artifacts.registryCommitment = artifacts.manifest.fields.registryCommitment ∧
      artifacts.candidates.canonicalCommitment provider =
        .ok artifacts.manifest.fields.candidateSetCommitment ∧
      artifacts.manifest.canonicalHash provider = .ok artifacts.manifestHash := by
  obtain ⟨manifest, hmanifest, h⟩ := bind_eq_ok.mp h
  obtain ⟨registry, hregistry, h⟩ := bind_eq_ok.mp h
  obtain ⟨candidates, hcandidates, h⟩ := bind_eq_ok.mp h
  obtain ⟨registryCommitment, hcommitment, h⟩ := bind_eq_ok.mp h
  rw [codeStr_eq_ok] at hmanifest hregistry hcandidates hcommitment
  split at h
  · obtain ⟨_, herror, _⟩ := bind_eq_ok.mp h
    cases herror
  · next hsame =>
    obtain ⟨candidateSetCommitment, hcandidateCommitment, h⟩ := bind_eq_ok.mp h
    rw [codeStr_eq_ok] at hcandidateCommitment
    dsimp only at h
    split at h
    · obtain ⟨_, herror, _⟩ := bind_eq_ok.mp h
      cases herror
    · next hcandidateSame =>
      obtain ⟨manifestHash, hhash, h⟩ := bind_eq_ok.mp h
      obtain ⟨_, _, h⟩ := bind_eq_ok.mp h
      cases h
      rw [codeStr_eq_ok] at hhash
      rw [ne_eq, not_not] at hsame hcandidateSame
      exact ⟨hmanifest, hregistry, hcandidates, hcommitment, hsame,
        hcandidateSame ▸ hcandidateCommitment, hhash⟩

private theorem isContentPath_of_submission {path : Bytes}
    (h : submissionsArchivePrefix.toBytes <+: path) : isContentPath path = true := by
  obtain ⟨rest, rfl⟩ := h
  rfl

/-- A file of the catalog is the file at its path. -/
private theorem fileAt_fileBytes {entries : List ArchiveEntry} (hnames : NamesAreSound entries)
    {established : EstablishedIdentityV1}
    (h : IsEstablished provider (.ofEntries entries) established) {path : Text}
    (hpath : path ∈ catalogPaths established.archiveManifest) :
    FileAt entries path.toBytes (fileBytes established.files path) := by
  obtain ⟨entry, hentry, hvalue⟩ := List.mem_map.mp hpath
  have hlookup := lookup_contentsOf (.ofEntries entries) hpath
  have hread := (h.read entry hentry).1
  rw [contentOf, hvalue] at hread
  rw [fileBytes, h.files, hlookup, Option.getD_some]
  exact ((readWithin_eq_ok hnames _ _ _).mp hread).1

/-- The submissions of an established archive, each with its bytes. -/
private def submissionsOf (established : EstablishedIdentityV1) : List (Bytes × Bytes) :=
  (submissionPaths established.archiveManifest).map fun path ↦
    (path.toBytes, fileBytes established.files path)

private theorem ascending_submissionsOf (established : EstablishedIdentityV1) :
    (submissionsOf established).Pairwise fun a b ↦ a.1 < b.1 := by
  apply List.pairwise_map.mpr
  apply List.Pairwise.filter
  exact List.pairwise_map.mpr established.archiveManifest.files.ascending

private theorem catalog_iff {entries : List ArchiveEntry} {established : EstablishedIdentityV1}
    (h : IsEstablished provider (.ofEntries entries) established) (path : Bytes) :
    (∃ entry ∈ established.archiveManifest.files.entries, entry.path.value.toBytes = path) ↔
      (∃ bytes, FileAt entries path bytes) ∧ isContentPath path = true := by
  obtain ⟨diskFiles, hdisk, hcatalog⟩ := h.catalog
  cases hdisk
  rw [← mem_enumerateDiskFiles, hcatalog, catalogPaths, List.map_map, List.mem_map]
  rfl

private theorem mem_submissionsOf {entries : List ArchiveEntry} (hnames : NamesAreSound entries)
    {established : EstablishedIdentityV1}
    (h : IsEstablished provider (.ofEntries entries) established) (path bytes : Bytes) :
    (path, bytes) ∈ submissionsOf established ↔
      FileAt entries path bytes ∧ submissionsArchivePrefix.toBytes <+: path := by
  simp only [submissionsOf, submissionPaths, List.mem_map, List.mem_filter, Prod.mk.injEq,
    startsWith, List.isPrefixOf_iff_prefix]
  constructor
  · rintro ⟨text, ⟨hcatalog, hstart⟩, rfl, rfl⟩
    exact ⟨fileAt_fileBytes hnames h hcatalog, hstart⟩
  · rintro ⟨hfile, hstart⟩
    obtain ⟨entry, hentry, rfl⟩ :=
      (catalog_iff h path).mpr ⟨⟨bytes, hfile⟩, isContentPath_of_submission hstart⟩
    have hcatalog : entry.path.value ∈ catalogPaths established.archiveManifest :=
      List.mem_map_of_mem hentry
    exact ⟨_, ⟨hcatalog, hstart⟩, rfl, (fileAt_fileBytes hnames h hcatalog).unique hnames hfile⟩

end

/-! ### A sample archive -/

namespace Sample

/-- The content files of the sample election: its artifacts, a ballot and its duplicate. -/
def files : List (Text × Bytes) :=
  [(candidateSetArchivePath, Verifier.Sample.candidates.toCanonicalCbor.toOption.getD []),
    (electionManifestArchivePath, Verifier.Sample.manifest.toCanonicalCbor.toOption.getD []),
    (.lit "submissions/00000000.cbor", Verifier.Sample.package 1 9 [1]),
    (.lit "submissions/00000001.cbor", Verifier.Sample.package 2 9 [1]),
    (voterRegistryArchivePath, Verifier.Sample.registry.toCanonicalCbor.toOption.getD [])]

/-- The bytes of their finalized manifest. -/
def manifestBytes : Bytes :=
  (do
    let catalog ← rebuildCatalog Verifier.Sample.provider files
    let manifest ← ArchiveManifestV1.finalizedForProvider Verifier.Sample.manifestHash catalog
      Verifier.Sample.provider
    manifest.toCanonicalCbor).toOption.getD []

/-- The directory they are in. -/
def entries : List ArchiveEntry :=
  [.file archiveManifestCanonicalPath.toBytes manifestBytes,
    .file candidateSetArchivePath.toBytes (fileBytes files candidateSetArchivePath),
    .file electionManifestArchivePath.toBytes (fileBytes files electionManifestArchivePath),
    .directory (Text.lit "submissions").toBytes
      [.file (Text.lit "00000000.cbor").toBytes (Verifier.Sample.package 1 9 [1]),
        .file (Text.lit "00000001.cbor").toBytes (Verifier.Sample.package 2 9 [1])],
    .file voterRegistryArchivePath.toBytes (fileBytes files voterRegistryArchivePath)]

private theorem namesAreSound_entries : NamesAreSound entries := by
  have hflat : ∀ files : List ArchiveEntry, (files.map ArchiveEntry.name).Nodup →
      (∀ entry ∈ files, entry.name ≠ [] ∧ slash ∉ entry.name) →
      (∀ name children, .directory name children ∉ files) → NamesAreSound files :=
    fun files hdistinct hnames hflat ↦ .intro hdistinct hnames
      fun name children h ↦ absurd h (hflat name children)
  apply NamesAreSound.intro (by decide +kernel) (by decide +kernel)
  intro name children h
  simp only [entries, List.mem_cons, reduceCtorEq, ArchiveEntry.directory.injEq, false_or,
    List.not_mem_nil, or_false] at h
  rw [h.2]
  exact hflat _ (by decide +kernel) (by decide +kernel) (by simp)

end Sample
end PrivateBallot.Archive
