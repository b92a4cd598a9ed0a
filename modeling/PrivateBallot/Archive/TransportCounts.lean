import PrivateBallot.Archive.VerifierSoundness

/-!
# Transport bindings in a report

Library `Archive`. The codec of `crates/archive/src/transport_binding.rs`, and the count that
`crates/archive/src/verifier.rs:555-585` reports for a binding. The counts of the batches are any
`u64`, and no check bounds them before `.sum()` adds them.
-/

namespace PrivateBallot.Archive

open PrivateBallot.Base
open PrivateBallot.Protocol
open PrivateBallot.Ballot
open PrivateBallot.Crypto

/-! ### Sums of `u64` -/

section

variable {α : Type}

private theorem toNat_foldl_add (count : α → UInt64) (xs : List α) (start : UInt64) :
    (xs.foldl (fun sum x ↦ sum + count x) start).toNat =
      (start.toNat + (xs.map fun x ↦ (count x).toNat).sum) % 2 ^ 64 := by
  induction xs generalizing start with
  | nil => simp [Nat.mod_eq_of_lt start.toNat_lt]
  | cons x rest ih =>
    rw [List.foldl_cons, ih, UInt64.toNat_add, List.map_cons, List.sum_cons, Nat.mod_add_mod,
      Nat.add_assoc]

/-- The sum of `u64` counts is the exact one if that fits, and only then. -/
theorem toNat_foldl_add_eq_iff (count : α → UInt64) (xs : List α) :
    (xs.foldl (fun sum x ↦ sum + count x) 0).toNat = (xs.map fun x ↦ (count x).toNat).sum ↔
      (xs.map fun x ↦ (count x).toNat).sum < 2 ^ 64 := by
  rw [toNat_foldl_add, UInt64.toNat_zero, Nat.zero_add]
  constructor
  · intro h
    rw [← h]
    exact Nat.mod_lt _ (by decide)
  · exact Nat.mod_eq_of_lt

end

/-! ### What the reports of a verification say -/

/-- A stage that passes gives a result with `P`; one that returns early, a report with `Q`. -/
def Ends {α : Type} (P : α → Prop) (Q : ArchiveDirectoryVerificationV1 → Prop) : Stage α → Prop
  | .ok a => P a
  | .error (.failed report) => Q report
  | .error (.error _) => True

section

variable {α β : Type} {P : α → Prop} {R : β → Prop} {Q : ArchiveDirectoryVerificationV1 → Prop}

private theorem ends_orFail {report : ArchiveDirectoryVerificationV1} {stage : ArchiveStage}
    {x : Except String α} (hok : ∀ a, x = .ok a → P a)
    (hfail : ∀ code, Q (report.fail stage code)) : Ends P Q (orFail report stage x) := by
  cases x with
  | ok a => exact hok a rfl
  | error code => exact hfail code

private theorem ends_orStop {x : Except ArchiveVerifierError α} (hok : ∀ a, P a) :
    Ends P Q (orStop x) := by
  cases x with
  | ok a => exact hok a
  | error e => trivial

private theorem ends_orIoFailure {x : Result α} (hok : ∀ a, P a) : Ends P Q (orIoFailure x) := by
  cases x with
  | ok a => exact hok a
  | error e => trivial

private theorem Ends.bind {x : Stage α} {f : α → Stage β} (hx : Ends P Q x)
    (hf : ∀ a, P a → Ends R Q (f a)) : Ends R Q (x >>= f) := by
  cases x with
  | ok a => exact hf a hx
  | error stop =>
    cases stop with
    | failed report => exact hx
    | error e => trivial

end

section

variable {crate : TriptychCrate} {provider : HashProvider} {nfc : List Char → List Char}

private def Unbound (report : ArchiveDirectoryVerificationV1) : Prop :=
  report.transportBindingVerified = false

private theorem ends_readCatalog (file : Text → Except ArchiveVerifierError Bytes)
    (entries : List ArchiveFileEntryV1) (files : List (Text × Bytes))
    {report : ArchiveDirectoryVerificationV1} (h : Unbound report) :
    Ends (fun read ↦ Unbound read.2) Unbound (readCatalog provider file entries files report) := by
  induction entries generalizing files report with
  | nil => exact h
  | cons entry rest ih =>
    refine Ends.bind (P := fun _ ↦ True) (ends_orStop fun _ ↦ trivial) ?_
    intro bytes _
    dsimp only
    split
    · exact ih _ h
    · exact h

private theorem ends_compareCatalog (manifest : ArchiveManifestV1) (diskFiles : List Bytes)
    {report : ArchiveDirectoryVerificationV1} (h : Unbound report) :
    Ends (fun _ ↦ True) Unbound (compareCatalog manifest diskFiles report) := by
  unfold compareCatalog
  split
  · exact h
  · split
    · exact h
    · trivial

private theorem ends_readArchiveManifest (reads : ArchiveReads) :
    Ends (fun _ ↦ True) Unbound (readArchiveManifest provider reads) := by
  have hbytes : Ends (fun _ ↦ True) Unbound (readManifestBytes reads) := by
    unfold readManifestBytes
    split
    · trivial
    · rfl
    · rfl
  refine Ends.bind (P := fun _ ↦ True) (ends_orStop fun _ ↦ trivial) fun _ _ ↦ ?_
  refine hbytes.bind fun manifestBytes _ ↦ ?_
  refine Ends.bind (P := fun _ ↦ True) (ends_orFail (fun _ _ ↦ trivial) fun _ ↦ rfl) ?_
  intro manifest _
  refine Ends.bind (P := fun _ ↦ True) (ends_orFail (fun _ _ ↦ trivial) fun _ ↦ rfl) ?_
  intro _ _
  refine Ends.bind (P := fun _ ↦ True) (ends_orIoFailure fun _ ↦ trivial) fun archiveHash _ ↦ ?_
  trivial

/-- No report says that a binding is verified before the identity is established. -/
private theorem ends_establishIdentityAndCatalog (reads : ArchiveReads) :
    Ends (fun established ↦ Unbound established.result) Unbound
      (establishIdentityAndCatalog provider reads) := by
  refine (ends_readArchiveManifest reads).bind ?_
  rintro ⟨manifest, archiveHash⟩ _
  have hidentity : Unbound (identityReport manifest archiveHash) := rfl
  refine Ends.bind (P := fun _ ↦ True) (ends_orStop fun _ ↦ trivial) fun diskFiles _ ↦ ?_
  refine (ends_compareCatalog manifest diskFiles hidentity).bind fun _ _ ↦ ?_
  refine (ends_readCatalog reads.file _ _ hidentity).bind ?_
  rintro ⟨files, result⟩ h
  exact h

/-- A report that says so describes the binding among the files. -/
private def Describes (provider : HashProvider) (files : List (Text × Bytes))
    (report : ArchiveDirectoryVerificationV1) : Prop :=
  report.transportBindingVerified = true → ∃ bytes binding,
    files.lookup transportArchiveBindingPathV1 = some bytes ∧
    TransportArchiveBindingV1.fromCanonicalCbor provider bytes = .ok binding ∧
    report.transportAcceptedCount =
      some (binding.batches.foldl (fun sum batch ↦ sum + batch.acceptedUniqueCount) 0)

private theorem Unbound.describes {files : List (Text × Bytes)}
    {report : ArchiveDirectoryVerificationV1} (h : Unbound report) :
    Describes provider files report := by
  intro hverified
  rw [Unbound, hverified] at h
  cases h

private theorem ends_checkTransportBinding (artifacts : ArchiveElectionArtifactsV1)
    (files : List (Text × Bytes)) {report : ArchiveDirectoryVerificationV1} (h : Unbound report) :
    Ends (Describes provider files) (Describes provider files)
      (checkTransportBinding provider artifacts files report) := by
  unfold checkTransportBinding
  split
  · exact h.describes
  · next bytes hlookup =>
    refine Ends.bind (P := fun binding ↦
      TransportArchiveBindingV1.fromCanonicalCbor provider bytes = .ok binding) ?_ ?_
    · refine ends_orFail (fun binding hdecoded ↦ (codeStr_eq_ok _ _).mp hdecoded) fun code ↦ ?_
      exact Unbound.describes h
    · intro binding hdecoded
      split
      · exact Unbound.describes h
      · intro _
        exact ⟨bytes, binding, hlookup, hdecoded, rfl⟩

-- The later stages write other fields of the report.
private theorem ends_checkGovernancePin {files : List (Text × Bytes)}
    (manifest : ArchiveManifestV1) (artifacts : ArchiveElectionArtifactsV1)
    {report : ArchiveDirectoryVerificationV1} (h : Describes provider files report) :
    Ends (Describes provider files) (Describes provider files)
      (checkGovernancePin manifest artifacts report) := by
  unfold checkGovernancePin
  split
  · exact h
  · exact h
  · split
    · exact h
    · split
      · exact h
      · exact h

private theorem ends_replaySubmissions {files : List (Text × Bytes)}
    (artifacts : ArchiveElectionArtifactsV1) (packages : List Bytes)
    {report : ArchiveDirectoryVerificationV1} (h : Describes provider files report) :
    Ends (fun replayed ↦ Describes provider files replayed.2) (Describes provider files)
      (replaySubmissions crate provider artifacts packages report) := by
  refine Ends.bind (P := fun _ ↦ True) (ends_orFail (fun _ _ ↦ trivial) fun _ ↦ h) ?_
  intro session _
  refine Ends.bind (P := fun _ ↦ True) (ends_orFail (fun _ _ ↦ trivial) fun _ ↦ h) ?_
  intro session _
  dsimp only
  refine Ends.bind (P := fun _ ↦ True) (ends_orFail (fun _ _ ↦ trivial) fun _ ↦ h) ?_
  intro _ _
  refine Ends.bind (P := fun _ ↦ True) (ends_orFail (fun _ _ ↦ trivial) fun _ ↦ h) ?_
  intro _ _
  refine Ends.bind (P := fun _ ↦ True) (ends_orFail (fun _ _ ↦ trivial) fun _ ↦ h) ?_
  intro tally _
  exact h

private theorem ends_checkArchiveHash (manifest : ArchiveManifestV1) (archiveHash : ArchiveHashV1)
    (manifestHash : ManifestHash) (files : List (Text × Bytes))
    {report : ArchiveDirectoryVerificationV1} (h : Describes provider files report) :
    Ends (Describes provider files) (Describes provider files)
      (checkArchiveHash provider manifest archiveHash manifestHash files report) := by
  refine Ends.bind (P := fun _ ↦ True) (ends_orIoFailure fun _ ↦ trivial) fun rebuilt _ ↦ ?_
  refine Ends.bind (P := fun _ ↦ True) (ends_orIoFailure fun _ ↦ trivial) fun recomputed _ ↦ ?_
  dsimp only
  split
  · exact h
  · exact h

private theorem ends_finishStages {established : EstablishedIdentityV1}
    (h : Unbound established.result) :
    Ends (Describes provider established.files) (Describes provider established.files)
      (finishStages crate provider nfc established) := by
  refine Ends.bind (P := fun _ ↦ True) ?_ fun artifacts _ ↦ ?_
  · unfold decodeArtifacts
    split
    · exact Unbound.describes h
    · exact ends_orFail (fun _ _ ↦ trivial) fun _ ↦ Unbound.describes h
  · have hdescribed : Unbound (describeElection artifacts established.result) := h
    dsimp only
    refine (ends_checkTransportBinding artifacts _ hdescribed).bind fun bound hbound ↦ ?_
    refine (ends_checkGovernancePin _ artifacts hbound).bind fun pinned hpinned ↦ ?_
    refine (ends_replaySubmissions artifacts _ hpinned).bind ?_
    rintro ⟨session, counted⟩ hcounted
    exact ends_checkArchiveHash _ _ _ _ hcounted

/-- A report with a verified binding describes the one that its archive holds. -/
private theorem describes_of_verifyReads {reads : ArchiveReads}
    {report : ArchiveDirectoryVerificationV1}
    (h : verifyReads crate provider nfc reads = .ok report)
    (hverified : report.transportBindingVerified = true) :
    ∃ established, establishIdentityAndCatalog provider reads = .ok established ∧
      Describes provider established.files report := by
  have hestablish : Ends (fun established ↦ Unbound established.result) Unbound
      (establishIdentityAndCatalog provider reads) := ends_establishIdentityAndCatalog reads
  unfold verifyReads at h
  cases hcase : establishIdentityAndCatalog provider reads with
  | ok established =>
    rw [hcase] at h hestablish
    have hfinish :
        Ends (Describes provider established.files) (Describes provider established.files)
        (finishStages crate provider nfc established) := ends_finishStages hestablish
    refine ⟨established, rfl, ?_⟩
    dsimp only [finishVerification] at h
    cases hstages : finishStages crate provider nfc established with
    | ok passed =>
      rw [hstages] at h hfinish
      cases h
      exact hfinish
    | error stop =>
      rw [hstages] at h hfinish
      cases stop with
      | failed failed =>
        cases h
        exact hfinish
      | error e => cases h
  | error stop =>
    rw [hcase] at h hestablish
    cases stop with
    | failed failed =>
      cases h
      have hunbound : Unbound report := hestablish
      rw [Unbound, hverified] at hunbound
      cases hunbound
    | error e => cases h

end

/-! ### The binding and its count -/

namespace TransportArchiveBindingV1

/-- The sum of the accepted counts of the batches. -/
def acceptedTotal (self : TransportArchiveBindingV1) : Nat :=
  (self.batches.map fun batch ↦ batch.acceptedUniqueCount.toNat).sum

/-- The batches are in the order of their identities, and the commitment is the hash of their
roots in byte order. -/
structure IsOrdered (self : TransportArchiveBindingV1) (provider : HashProvider) : Prop where
  ascending : self.batches.Pairwise fun a b ↦ a.batchId < b.batchId
  commitment : ∃ roots : List Bytes32, roots.Perm (self.batches.map (·.root)) ∧
    (roots.Pairwise fun a b ↦ a.toBytes ≤ b.toBytes) ∧
    self.finalBatchSetCommitment =
      hashDomainSeparated provider .transportBatchSetV1 (roots.flatMap Bytes32.toBytes)

theorem isOrdered_of_new {provider : HashProvider} {electionId : Bytes}
    {manifestHash : ManifestHash} {descriptorFingerprint : Bytes32} {descriptorGeneration : UInt64}
    {batches : List TransportArchiveBatchV1} {self : TransportArchiveBindingV1}
    (h : new provider electionId manifestHash descriptorFingerprint descriptorGeneration batches =
      .ok self) : self.IsOrdered provider := by
  obtain ⟨-, hascending, hcommitment⟩ := batches_of_new h
  refine ⟨hascending, sortBytes Bytes32.toBytes (self.batches.map (·.root)), ?_, ?_, ?_⟩
  · exact perm_sortBytes _ _
  · exact pairwise_sortBytes _ _
  · exact hcommitment

end TransportArchiveBindingV1

/-- A binding that was made is ordered and decodes from its encoding; what decodes is ordered and
encodes to what was decoded; and the count in a report with a verified binding is the sum over the
batches exactly when that sum is a `u64`. -/
theorem transportBinding_exact (crate : TriptychCrate) (provider : HashProvider)
    (nfc : List Char → List Char) :
    (∀ electionId manifestHash descriptorFingerprint descriptorGeneration batches binding,
      TransportArchiveBindingV1.new provider electionId manifestHash descriptorFingerprint
        descriptorGeneration batches = .ok binding →
      binding.IsOrdered provider ∧ ∃ bytes, binding.toCanonicalCbor provider = .ok bytes ∧
        TransportArchiveBindingV1.fromCanonicalCbor provider bytes = .ok binding) ∧
    (∀ bytes binding, TransportArchiveBindingV1.fromCanonicalCbor provider bytes = .ok binding →
      binding.IsOrdered provider ∧ binding.toCanonicalCbor provider = .ok bytes) ∧
    ∀ reads report, verifyReads crate provider nfc reads = .ok report →
      report.transportBindingVerified = true →
      ∃ established bytes binding count,
        establishIdentityAndCatalog provider reads = .ok established ∧
        established.files.lookup transportArchiveBindingPathV1 = some bytes ∧
        TransportArchiveBindingV1.fromCanonicalCbor provider bytes = .ok binding ∧
        report.transportAcceptedCount = some count ∧
        (count.toNat = binding.acceptedTotal ↔ binding.acceptedTotal < 2 ^ 64) := by
  refine ⟨?_, ?_, ?_⟩
  · intro electionId manifestHash descriptorFingerprint descriptorGeneration batches binding h
    obtain ⟨bytes, hbytes⟩ := TransportArchiveBindingV1.exists_toCanonicalCbor_of_new h
    exact ⟨TransportArchiveBindingV1.isOrdered_of_new h, bytes, hbytes,
      TransportArchiveBindingV1.fromCanonicalCbor_toCanonicalCbor hbytes⟩
  · intro bytes binding h
    have hencoded := TransportArchiveBindingV1.toCanonicalCbor_of_fromCanonicalCbor h
    have hnew := TransportArchiveBindingV1.new_of_toCanonicalCbor hencoded
    exact ⟨TransportArchiveBindingV1.isOrdered_of_new hnew, hencoded⟩
  · intro reads report h hverified
    obtain ⟨established, hestablish, hdescribes⟩ := describes_of_verifyReads h hverified
    obtain ⟨bytes, binding, hlookup, hdecoded, hcount⟩ := hdescribes hverified
    exact ⟨established, bytes, binding, _, hestablish, hlookup, hdecoded, hcount,
      toNat_foldl_add_eq_iff _ binding.batches⟩

namespace Sample

/-- A binding of the sample election with two batches, which together have `2 ^ 64` ballots. -/
def binding : TransportArchiveBindingV1 :=
  (TransportArchiveBindingV1.new Verifier.Sample.provider [1] Verifier.Sample.manifestHash
    (Bytes32.replicate 7) 1
    [⟨2, Bytes32.replicate 3, 0x8000000000000000, false⟩,
      ⟨1, Bytes32.replicate 4, 0x8000000000000000, true⟩]).toOption.getD
    ⟨[], default, default, 0, [], default⟩

def bindingBytes : Bytes :=
  (binding.toCanonicalCbor Verifier.Sample.provider).toOption.getD []

/-- The content files of a sample election that has this binding, and no ballot. -/
def boundFiles : List (Text × Bytes) :=
  [(candidateSetArchivePath, Verifier.Sample.candidates.toCanonicalCbor.toOption.getD []),
    (electionManifestArchivePath, Verifier.Sample.manifest.toCanonicalCbor.toOption.getD []),
    (transportArchiveBindingPathV1, bindingBytes),
    (voterRegistryArchivePath, Verifier.Sample.registry.toCanonicalCbor.toOption.getD [])]

def boundManifestBytes : Bytes :=
  (do
    let catalog ← rebuildCatalog Verifier.Sample.provider boundFiles
    let manifest ← ArchiveManifestV1.finalizedForProvider Verifier.Sample.manifestHash catalog
      Verifier.Sample.provider
    manifest.toCanonicalCbor).toOption.getD []

/-- The directory they are in. -/
def boundEntries : List ArchiveEntry :=
  [.file archiveManifestCanonicalPath.toBytes boundManifestBytes,
    .file candidateSetArchivePath.toBytes (fileBytes boundFiles candidateSetArchivePath),
    .file electionManifestArchivePath.toBytes (fileBytes boundFiles electionManifestArchivePath),
    .directory (Text.lit "transport").toBytes
      [.file (Text.lit "archive-binding-v1.cbor").toBytes bindingBytes],
    .file voterRegistryArchivePath.toBytes (fileBytes boundFiles voterRegistryArchivePath)]

private theorem exists_report_boundEntries :
    ∃ report, verifyArchiveDirectoryV1 Verifier.Sample.crate Verifier.Sample.provider id
        boundEntries = .ok report ∧ report.verified = true ∧
      report.transportBindingVerified = true ∧ report.transportAcceptedCount = some 0 := by
  have hreport : (verifyArchiveDirectoryV1 Verifier.Sample.crate Verifier.Sample.provider id
      boundEntries).toOption.map (fun report ↦ (report.verified, report.transportBindingVerified,
        report.transportAcceptedCount)) = some (true, true, some 0) := by
    decide +kernel
  cases h : verifyArchiveDirectoryV1 Verifier.Sample.crate Verifier.Sample.provider id
      boundEntries with
  | error e =>
    rw [h] at hreport
    cases hreport
  | ok report =>
    rw [h] at hreport
    have hfacts : (report.verified, report.transportBindingVerified,
        report.transportAcceptedCount) = (true, true, some 0) := Option.some.inj hreport
    simp only [Prod.mk.injEq] at hfacts
    exact ⟨report, rfl, hfacts⟩

end Sample

/-- The general result applies to the archive of a binding with `2 ^ 64` ballots. -/
theorem transportBinding_exact_sample :
    ∃ report, ∃ established : EstablishedIdentityV1, ∃ bytes binding count,
      verifyArchiveDirectoryV1 Verifier.Sample.crate Verifier.Sample.provider id
        Sample.boundEntries = .ok report ∧ report.transportAcceptedCount = some count ∧
      established.files.lookup transportArchiveBindingPathV1 = some bytes ∧
      TransportArchiveBindingV1.fromCanonicalCbor Verifier.Sample.provider bytes = .ok binding ∧
      (count.toNat = binding.acceptedTotal ↔ binding.acceptedTotal < 2 ^ 64) := by
  obtain ⟨report, hreport, -, hverified, -⟩ := Sample.exists_report_boundEntries
  obtain ⟨established, bytes, binding, count, -, hlookup, hdecoded, hcount, hexact⟩ :=
    (transportBinding_exact Verifier.Sample.crate Verifier.Sample.provider id).2.2 _ report hreport
      hverified
  exact ⟨report, established, bytes, binding, count, hreport, hcount, hlookup, hdecoded, hexact⟩

/-- Two batches of `2 ^ 63` ballots each are accepted, and reported as none. -/
theorem transportAcceptedCount_wraps :
    ∃ report, verifyArchiveDirectoryV1 Verifier.Sample.crate Verifier.Sample.provider id
        Sample.boundEntries = .ok report ∧ report.verified = true ∧
      report.transportBindingVerified = true ∧ report.transportAcceptedCount = some 0 ∧
      Sample.boundFiles.lookup transportArchiveBindingPathV1 = some Sample.bindingBytes ∧
      TransportArchiveBindingV1.fromCanonicalCbor Verifier.Sample.provider Sample.bindingBytes =
        .ok Sample.binding ∧ Sample.binding.acceptedTotal = 2 ^ 64 := by
  obtain ⟨report, hreport, hverified, hbound, hcount⟩ := Sample.exists_report_boundEntries
  refine ⟨report, hreport, hverified, hbound, hcount, ?_, ?_, ?_⟩
  · decide +kernel
  · decide +kernel
  · decide +kernel

end PrivateBallot.Archive
