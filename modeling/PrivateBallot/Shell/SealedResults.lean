import PrivateBallot.Base.Observation
import PrivateBallot.GuiCore.ArchiveCapacity
import PrivateBallot.GuiCore.Participation

/-!
# What commands tell before the close

Library `Shell`. The commands of `gui/src-tauri/src/lib.rs:2035-2240` that tell something about the
result: `current_tally`, `participation_summary`, `write_archive`, `write_finalized_archive` and
`verify_archive`. A directory is named by what its path resolves to; no target lies in another.
The memo of verifications, which answers as the verification does, is left out.
-/

namespace PrivateBallot.Shell

open PrivateBallot.Base PrivateBallot.Protocol PrivateBallot.Ballot PrivateBallot.Crypto
open PrivateBallot.Archive PrivateBallot.GuiCore

/-! ### Commands -/

/-- The commands that tell something about the result. -/
inductive ResultCommand where
  | currentTally
  | participationSummary
  | writeArchive (targetDir : Text)
  | writeFinalizedArchive (targetDir : Text)
  | verifyArchive (directory : Text)
deriving DecidableEq

/-- What a command returns. -/
inductive CommandAnswer where
  | tally (result : GuiResult GuiTallySummaryV1)
  | participation (result : GuiParticipationSummaryV1)
  | archive (result : GuiResult GuiArchiveWriteResultV1)
  | verification (result : Except ArchiveVerifierError ArchiveDirectoryVerificationV1)

/-- The figures of a result: approvals per candidate, accepted ballots and participation. -/
structure ResultFigures where
  approvals : Option (List ArchiveTallyCountV1) := none
  acceptedBallots : Option Nat := none
  participationBasisPoints : Option Nat := none
  remainingEligibleCapacity : Option Nat := none
  coarseBucket : Option CoarseParticipationBucket := none
deriving DecidableEq

/-- The figures in an answer. -/
def CommandAnswer.figures : CommandAnswer → ResultFigures
  | tally (.ok summary) =>
    { approvals := some summary.counts, acceptedBallots := some summary.acceptedBallots }
  | tally (.error _) => {}
  | participation summary => ⟨none, summary.acceptedBallots, summary.participationBasisPoints,
      summary.remainingEligibleCapacity, summary.coarseBucket⟩
  | archive _ => {}
  | verification (.ok report) =>
    { approvals := report.tally.map (·.counts), acceptedBallots := some report.acceptedCount }
  | verification (.error _) => {}

/-- What the commands meet outside of the session: the authority of the session, the file
operations that fail during each command and what a failed write leaves, and the document and
binding that are found for a finalized archive. -/
structure CommandEnvironment where
  organizer : Bool
  fails : Nat → List Bytes → Bool
  left : Nat → List ArchiveEntry
  gathered : Nat → GuiElectionSessionV1 →
    GuiResult (Option Bytes × Option TransportArchiveBindingV1)

/-- The directories that commands write and read, and how many commands there were. -/
structure OfficeState where
  directories : Text → ArchiveTarget
  calls : Nat

/-- `CommandError::organizer_authority_required` -/
def organizerAuthorityRequired : GuiCoreError :=
  ⟨"GUI_ORGANIZER_AUTHORITY_REQUIRED", .invalidLifecycleTransition, none,
    "this command requires an organizer-owned election; the loaded election was imported from public artifacts, so this computer is a voter for it, not the ballot office"⟩

/-- What one verification reads of a path. -/
def readsOf : ArchiveTarget → ArchiveReads
  | .absent => ⟨.error .fileNotFound, .error .fileNotFound, .error .fileNotFound,
      fun _ ↦ .error .fileNotFound⟩
  | .notDirectory => ⟨.error .ioFailure, .error .ioFailure, .error .ioFailure,
      fun _ ↦ .error .ioFailure⟩
  | .directory entries => .ofEntries entries

section

variable (prims : Primitives) (env : CommandEnvironment) (session : GuiElectionSessionV1)

/-- `ensure_organizer_authority` -/
def ensureOrganizerAuthority : GuiResult Unit :=
  if env.organizer then .ok () else .error organizerAuthorityRequired

-- A target that was prepared is a directory, whatever fails behind that.
/-- A write, with what it makes of its target. -/
def writeTo (calls : Nat) (target : ArchiveTarget) (document : Option Bytes)
    (binding : Option TransportArchiveBindingV1) (finality : ArchiveFinalityMode) :
    GuiResult GuiArchiveWriteResultV1 × ArchiveTarget :=
  match writeArchiveDirectoryV1WithOptionalBinding prims (env.fails calls) session target document
      binding finality with
  | .ok (result, entries) => (.ok result, .directory entries)
  | .error e =>
    match checkFinality session finality >>= fun _ ↦
        prepareTargetDirectory (env.fails calls) target with
    | .ok _ => (.error e, .directory (env.left calls))
    | .error _ => (.error e, target)

/-- One command. -/
def runCommand (state : OfficeState) : ResultCommand → CommandAnswer × OfficeState
  | .currentTally =>
    (.tally (ensureOrganizerAuthority env >>= fun _ ↦ session.tally),
      ⟨state.directories, state.calls + 1⟩)
  | .participationSummary =>
    (.participation session.participationSummary, ⟨state.directories, state.calls + 1⟩)
  | .writeArchive targetDir =>
    match ensureOrganizerAuthority env with
    | .error e => (.archive (.error e), ⟨state.directories, state.calls + 1⟩)
    | .ok () =>
      let (result, target) := writeTo prims env session state.calls (state.directories targetDir)
        none none .legacy
      (.archive result, ⟨Function.update state.directories targetDir target, state.calls + 1⟩)
  | .writeFinalizedArchive targetDir =>
    match ensureOrganizerAuthority env >>= fun _ ↦ env.gathered state.calls session with
    | .error e => (.archive (.error e), ⟨state.directories, state.calls + 1⟩)
    | .ok (document, binding) =>
      let (result, target) := writeTo prims env session state.calls (state.directories targetDir)
        document binding .finalized
      (.archive result, ⟨Function.update state.directories targetDir target, state.calls + 1⟩)
  | .verifyArchive directory =>
    (.verification (verifyReads prims.crate prims.provider prims.nfc
      (readsOf (state.directories directory))), ⟨state.directories, state.calls + 1⟩)

/-- The commands on one session. -/
def office : Mealy OfficeState ResultCommand CommandAnswer := ⟨runCommand prims env session⟩

/-- The figures that a sequence of commands returns. -/
def returnedFigures (directories : Text → ArchiveTarget) (commands : List ResultCommand) :
    List ResultFigures :=
  ((office prims env session).outputs ⟨directories, 0⟩ commands).map CommandAnswer.figures

end

/-- Some verification is of a directory that `write_archive` was given before, when nothing was
there. -/
def VerifiesWritten (directories : Text → ArchiveTarget) (commands : List ResultCommand) : Prop :=
  ∃ before directory rest, commands = before ++ .verifyArchive directory :: rest ∧
    .writeArchive directory ∈ before ∧ (directories directory).IsVacant

/-- Sessions that differ in nothing but the ballots they recorded. -/
structure DifferInBallots (session other : GuiElectionSessionV1) : Prop where
  artifacts : session.artifacts = other.artifacts
  lifecycle : session.lifecycle = other.lifecycle

/-! ### What a command does to the directories -/

section

variable {prims : Primitives} {env : CommandEnvironment} {session : GuiElectionSessionV1}

private theorem prepare_of_not_vacant (fails : List Bytes → Bool) {target : ArchiveTarget}
    (h : ¬ target.IsVacant) : ∃ e, prepareTargetDirectory fails target = .error e := by
  cases target with
  | absent => exact absurd trivial h
  | notDirectory => exact ⟨_, rfl⟩
  | directory entries =>
    have hentries : entries ≠ [] := h
    have hnonempty : entries.isEmpty = false := List.isEmpty_eq_false_iff.mpr hentries
    by_cases hfails : fails [] = true
    · exact ⟨_, by simp only [prepareTargetDirectory, hfails, if_true]; rfl⟩
    · exact ⟨_, by simp only [prepareTargetDirectory, hfails, hnonempty]; rfl⟩

/-- A write refused at its first checks leaves the target as it is. -/
private theorem writeTo_of_refused {calls : Nat} {target : ArchiveTarget} {document : Option Bytes}
    {binding : Option TransportArchiveBindingV1} {finality : ArchiveFinalityMode} {e : GuiCoreError}
    (h : (checkFinality session finality >>= fun _ ↦
      prepareTargetDirectory (env.fails calls) target) = .error e) :
    writeTo prims env session calls target document binding finality = (.error e, target) := by
  have hwrite : writeArchiveDirectoryV1WithOptionalBinding prims (env.fails calls) session target
      document binding finality = .error e := by
    unfold writeArchiveDirectoryV1WithOptionalBinding
    cases hfinality : checkFinality session finality with
    | error e' =>
      rw [hfinality] at h
      cases h
      rfl
    | ok u =>
      rw [hfinality] at h
      have hprepare : prepareTargetDirectory (env.fails calls) target = .error e := h
      simp only [bind, Except.bind, hprepare]
  rw [writeTo, hwrite, h]

private theorem checkFinality_of_beforeClose (h : session.BeforeClose) :
    checkFinality session .finalized = .error .archiveNotFinalized := by
  have hstate : session.lifecycle.state ≠ .finalized := by
    rcases h with h | h <;> rw [h] <;> decide
  rw [checkFinality, if_pos ⟨rfl, hstate⟩]

/-- Before the close a command changes no directory but the vacant one that `write_archive` is
given. -/
theorem directories_runCommand (h : session.BeforeClose) (state : OfficeState)
    (command : ResultCommand) (directory : Text)
    (hother : ¬ (command = .writeArchive directory ∧ (state.directories directory).IsVacant)) :
    (runCommand prims env session state command).2.directories directory =
      state.directories directory := by
  cases command with
  | currentTally => rfl
  | participationSummary => rfl
  | verifyArchive path => rfl
  | writeArchive targetDir =>
    simp only [runCommand]
    split
    · rfl
    · show Function.update _ _ _ _ = _
      by_cases hsame : directory = targetDir
      · subst hsame
        have hvacant : ¬ (state.directories directory).IsVacant := fun hv ↦ hother ⟨rfl, hv⟩
        obtain ⟨e, hprepare⟩ := prepare_of_not_vacant (env.fails state.calls) hvacant
        have hrefused : (checkFinality session .legacy >>= fun _ ↦ prepareTargetDirectory
            (env.fails state.calls) (state.directories directory)) = .error e := by
          rw [checkFinality, if_neg (fun hf ↦ by cases hf.1)]
          exact hprepare
        rw [writeTo_of_refused hrefused, Function.update_self]
      · rw [Function.update_of_ne hsame]
  | writeFinalizedArchive targetDir =>
    simp only [runCommand]
    split
    · rfl
    · next document binding hgathered =>
      show Function.update _ _ _ _ = _
      have hrefused : (checkFinality session .finalized >>= fun _ ↦ prepareTargetDirectory
          (env.fails state.calls) (state.directories targetDir)) =
            .error .archiveNotFinalized := by
        rw [checkFinality_of_beforeClose h]
        rfl
      rw [writeTo_of_refused hrefused]
      by_cases hsame : directory = targetDir
      · rw [hsame, Function.update_self]
      · rw [Function.update_of_ne hsame]

/-- Before the close only a verification returns figures of what was counted. -/
theorem figures_runCommand {other : GuiElectionSessionV1} (h : session.BeforeClose)
    (hdiffer : DifferInBallots session other) {state state' : OfficeState}
    (command : ResultCommand)
    (hread : ∀ directory, command = .verifyArchive directory →
      state.directories directory = state'.directories directory) :
    (runCommand prims env session state command).1.figures =
      (runCommand prims env other state' command).1.figures := by
  have hstate : session.lifecycle.state = other.lifecycle.state := by rw [hdiffer.lifecycle]
  have hother : other.BeforeClose := by
    rw [GuiElectionSessionV1.BeforeClose, ← hstate]
    exact h
  have harchive : ∀ (session : GuiElectionSessionV1) state targetDir,
      (runCommand prims env session state (.writeArchive targetDir)).1.figures = {} ∧
      (runCommand prims env session state (.writeFinalizedArchive targetDir)).1.figures = {} := by
    intro session state targetDir
    constructor
    · simp only [runCommand]
      split <;> rfl
    · simp only [runCommand]
      split <;> rfl
  cases command with
  | currentTally =>
    simp only [runCommand, GuiElectionSessionV1.tally_of_beforeClose h,
      GuiElectionSessionV1.tally_of_beforeClose hother]
  | participationSummary =>
    simp only [runCommand, GuiElectionSessionV1.participationSummary_congr h hstate
      hdiffer.artifacts]
  | writeArchive targetDir =>
    rw [(harchive session state targetDir).1, (harchive other state' targetDir).1]
  | writeFinalizedArchive targetDir =>
    rw [(harchive session state targetDir).2, (harchive other state' targetDir).2]
  | verifyArchive directory => simp only [runCommand, hread directory rfl]

/-- Sealed as long as no directory is verified that `write_archive` was given when it was
vacant. -/
theorem returnedFigures_eq {other : GuiElectionSessionV1} (h : session.BeforeClose)
    (hdiffer : DifferInBallots session other) {directories : Text → ArchiveTarget}
    {commands : List ResultCommand} (hsealed : ¬ VerifiesWritten directories commands) :
    returnedFigures prims env session directories commands =
      returnedFigures prims env other directories commands := by
  have hother : other.BeforeClose := by
    rw [GuiElectionSessionV1.BeforeClose, ← hdiffer.lifecycle]
    exact h
  -- A directory that was not written is in both runs what it was at the start.
  let Kept (before : List ResultCommand) (state : OfficeState) : Prop :=
    ∀ directory, ¬ (.writeArchive directory ∈ before ∧ (directories directory).IsVacant) →
      state.directories directory = directories directory
  have hkept : ∀ (session : GuiElectionSessionV1), session.BeforeClose → ∀ before command state,
      Kept before state →
      Kept (before ++ [command]) (runCommand prims env session state command).2 := by
    intro session hclose before command state hstate directory hunwritten
    have hbefore : ¬ (.writeArchive directory ∈ before ∧ (directories directory).IsVacant) :=
      fun hwritten ↦ hunwritten ⟨List.mem_append_left _ hwritten.1, hwritten.2⟩
    rw [directories_runCommand hclose, hstate directory hbefore]
    rintro ⟨rfl, hvacant⟩
    rw [hstate directory hbefore] at hvacant
    exact hunwritten ⟨List.mem_append_right _ List.mem_cons_self, hvacant⟩
  apply Mealy.observed_eq (R := fun before a b ↦ Kept before a ∧ Kept before b)
  · exact ⟨fun _ _ ↦ rfl, fun _ _ ↦ rfl⟩
  · rintro before command rest a b hcommands ⟨ha, hb⟩
    refine ⟨?_, hkept session h before command a ha, hkept other hother before command b hb⟩
    apply figures_runCommand h hdiffer
    rintro directory rfl
    have hunwritten : ¬ (.writeArchive directory ∈ before ∧ (directories directory).IsVacant) :=
      fun hwritten ↦ hsealed ⟨before, directory, rest, hcommands, hwritten⟩
    rw [ha directory hunwritten, hb directory hunwritten]

end

/-! ### What leaks -/

/-- An organizer's commands without a file operation that fails. -/
def faultless : CommandEnvironment :=
  ⟨true, fun _ ↦ noFault, fun _ ↦ [], fun _ _ ↦ .ok (none, none)⟩

section

variable {prims : Primitives} {session : GuiElectionSessionV1} {result : GuiArchiveWriteResultV1}
  {entries : List ArchiveEntry}

private theorem write_of_isVacant {target : ArchiveTarget} (h : target.IsVacant)
    (hwrite : writeArchiveDirectoryV1WithOptionalBinding prims noFault session .absent none none
      .legacy = .ok (result, entries)) :
    writeArchiveDirectoryV1WithOptionalBinding prims noFault session target none none .legacy =
      .ok (result, entries) := by
  rw [← hwrite]
  cases target with
  | absent => rfl
  | notDirectory => exact h.elim
  | directory found =>
    have hempty : found = [] := h
    rw [hempty]
    rfl

private theorem ne_nil_of_isWritten {contents : List (Text × Bytes)} {manifest : ArchiveManifestV1}
    {archiveHash : ArchiveHashV1} {manifestBytes : Bytes}
    (h : IsWritten prims session none none .legacy result entries contents manifest archiveHash
      manifestBytes) : entries ≠ [] := by
  rintro rfl
  have hfile : FileAt [] archiveManifestCanonicalPath.toBytes manifestBytes :=
    (h.files _ _).mpr ⟨(archiveManifestCanonicalPath, manifestBytes),
      List.mem_append_right _ List.mem_cons_self, rfl, rfl⟩
  obtain ⟨names, hnames, -⟩ := hfile
  exact not_hasFile_nil _ _ hnames

/-- A vacant directory that `write_archive` was given holds the archive from then on. -/
private theorem directories_of_written (hclose : session.BeforeClose)
    (hwrite : writeArchiveDirectoryV1WithOptionalBinding prims noFault session .absent none none
      .legacy = .ok (result, entries)) {directories : Text → ArchiveTarget} {directory : Text}
    (hvacant : (directories directory).IsVacant) (commands : List ResultCommand) :
    (.writeArchive directory ∈ commands →
      ((office prims faultless session).after ⟨directories, 0⟩ commands).directories directory =
        .directory entries) ∧
    (.writeArchive directory ∉ commands →
      ((office prims faultless session).after ⟨directories, 0⟩ commands).directories directory =
        directories directory) := by
  obtain ⟨_, _, _, _, hwritten⟩ := isWritten_of_write hwrite
  have hnonempty := ne_nil_of_isWritten hwritten
  let Held (before : List ResultCommand) (state : OfficeState) : Prop :=
    (.writeArchive directory ∈ before → state.directories directory = .directory entries) ∧
      (.writeArchive directory ∉ before → state.directories directory = directories directory)
  apply (office prims faultless session).after_induct (P := Held)
  · exact ⟨nofun, fun _ ↦ rfl⟩
  · rintro before command state ⟨hin, hout⟩
    show (_ → (runCommand prims faultless session state command).2.directories directory = _) ∧
      (_ → (runCommand prims faultless session state command).2.directories directory = _)
    by_cases hbefore : .writeArchive directory ∈ before
    · have hkept : (runCommand prims faultless session state command).2.directories directory =
          state.directories directory := by
        apply directories_runCommand hclose
        rintro ⟨-, hfound⟩
        rw [hin hbefore] at hfound
        exact hnonempty hfound
      rw [hkept]
      exact ⟨fun _ ↦ hin hbefore, fun hnot ↦ absurd (List.mem_append_left _ hbefore) hnot⟩
    · by_cases hcommand : command = .writeArchive directory
      · subst hcommand
        have hfound : (state.directories directory).IsVacant := by
          rw [hout hbefore]
          exact hvacant
        have hmade : writeTo prims faultless session state.calls (state.directories directory)
            none none .legacy = (.ok result, .directory entries) := by
          have hsame : writeArchiveDirectoryV1WithOptionalBinding prims
              (faultless.fails state.calls) session (state.directories directory) none none
              .legacy = .ok (result, entries) := write_of_isVacant hfound hwrite
          rw [writeTo, hsame]
        refine ⟨fun _ ↦ ?_, fun hnot ↦ absurd (List.mem_append_right _ List.mem_cons_self) hnot⟩
        show (Function.update state.directories directory (writeTo prims faultless session
          state.calls (state.directories directory) none none .legacy).2) directory = _
        rw [hmade, Function.update_self]
      · have hkept : (runCommand prims faultless session state command).2.directories directory =
            state.directories directory :=
          directories_runCommand hclose state command directory fun h ↦ hcommand h.1
        have hnew : .writeArchive directory ∉ before ++ [command] := by
          rw [List.mem_append, List.mem_singleton]
          rintro (hmem | hsame)
          · exact hbefore hmem
          · exact hcommand hsame.symm
        rw [hkept]
        exact ⟨fun hmem ↦ absurd hmem hnew, fun _ ↦ hout hbefore⟩

/-- Verifying it returns the number of accepted ballots. -/
private theorem acceptedBallots_of_verified (hclose : session.BeforeClose)
    (hwrite : writeArchiveDirectoryV1WithOptionalBinding prims noFault session .absent none none
      .legacy = .ok (result, entries))
    (hagrees : Agrees session .legacy result
      (verifyArchiveDirectoryV1 prims.crate prims.provider prims.nfc entries))
    {directories : Text → ArchiveTarget} {directory : Text}
    (hvacant : (directories directory).IsVacant) {before : List ResultCommand}
    (hmem : .writeArchive directory ∈ before) :
    ((office prims faultless session).step
      ((office prims faultless session).after ⟨directories, 0⟩ before)
      (.verifyArchive directory)).1.figures.acceptedBallots = some session.acceptedCount := by
  have hheld := (directories_of_written hclose hwrite hvacant before).1 hmem
  obtain ⟨report, tally, hreport, -, -, hcount, -⟩ := hagrees
  show (CommandAnswer.verification (verifyReads prims.crate prims.provider prims.nfc (readsOf
    (((office prims faultless session).after ⟨directories, 0⟩ before).directories
      directory)))).figures.acceptedBallots = _
  have hread : verifyReads prims.crate prims.provider prims.nfc (readsOf (.directory entries)) =
      .ok report := hreport
  rw [hheld, hread]
  show some report.acceptedCount = _
  rw [hcount]

end

/-! ### Two sessions of one election -/

namespace Sample

open GuiElectionSessionV1

/-- The sample election, open, with one ballot and with none. -/
def oneBallot : GuiResult GuiElectionSessionV1 := do
  let session ← GuiCore.Sample.openSession
  pure (session.intakeBallotPackageBytes GuiCore.Sample.prims (Verifier.Sample.package 1 9 [1])).2

/-- What the two sessions are, in one evaluation. -/
private theorem sessions_evaluated :
    GuiCore.Sample.openSession.toOption.any (fun session ↦
      decide (session.lifecycle.state = .opened ∧ session.packages = [] ∧
        session.acceptedCount = 0 ∧ (GuiCore.validateGovernanceSourcePin
          session.artifacts.manifest.fields.governanceSourceRevision).isContentDigest = false)) =
      true ∧
    oneBallot.toOption.any (fun session ↦ decide (session.acceptedCount = 1 ∧
      (Verifier.Sample.package 1 9 [1]).length ≤ maxCanonicalObjectBytes)) = true := by
  decide +kernel

/-- An archive of few packages is written and verified. -/
private theorem exists_agreeing {session : GuiElectionSessionV1}
    (hreachable : Reachable GuiCore.Sample.prims session) (hfew : session.packages.length ≤ 1)
    (hsizes : ∀ package ∈ session.packages, package.length ≤ maxCanonicalObjectBytes)
    (hpin : (GuiCore.validateGovernanceSourcePin
      session.artifacts.manifest.fields.governanceSourceRevision).isContentDigest = false) :
    ∃ result entries, writeArchiveDirectoryV1WithOptionalBinding GuiCore.Sample.prims noFault
        session .absent none none .legacy = .ok (result, entries) ∧
      Agrees session .legacy result (verifyArchiveDirectoryV1 GuiCore.Sample.prims.crate
        GuiCore.Sample.prims.provider GuiCore.Sample.prims.nfc entries) := by
  have laws : TriptychBatchLaws GuiCore.Sample.prims.crate := triptychBatchLaws_idealCrate _
  have hreplayed : IsReplayed GuiCore.Sample.prims session := hreachable.isReplayed laws
  have hbinding : IsBindingOf GuiCore.Sample.prims session none := trivial
  have hdocument : MatchesPin GuiCore.Sample.prims session none := fun _ _ h ↦ by cases h
  have htarget : ArchiveTarget.absent.IsVacant := trivial
  obtain ⟨contents, _, _, _, _, hcontents, hcollected⟩ :=
    exists_contentFiles hreplayed hbinding none
  have hfinality : checkFinality session .legacy = .ok () := if_neg (fun h ↦ by cases h.1)
  have hfits : FitsManifest .legacy session.packages.length false false := by
    have hlimit : maxCanonicalObjectBytes = 1048576 := rfl
    simp only [FitsManifest, manifestBase, Bool.false_eq_true, if_false, hlimit]
    omega
  obtain ⟨result, entries, hwrite⟩ := (exists_write_iff rfl hcollected hcontents htarget
    hdocument.checkDocument hfinality).mpr hfits
  obtain ⟨files, _, _, _, hwritten⟩ := isWritten_of_write hwrite
  obtain ⟨_, _, _, _, hfiles⟩ := isCollected_of_contentFiles hwritten.collected
  refine ⟨result, entries, hwrite,
    hwritten.agrees laws hfiles hreplayed ⟨⟨hsizes, fun _ h ↦ by cases h⟩, ?_⟩⟩
  intro hdigest
  rw [hpin] at hdigest
  cases hdigest

-- Stated for every package, so that nothing is evaluated to see it.
private theorem differInBallots_recorded (prims : Primitives) (session : GuiElectionSessionV1)
    (packageBytes : Bytes) : DifferInBallots session (session.recorded prims packageBytes) ∧
      (session.recorded prims packageBytes).packages = session.packages ++ [packageBytes] :=
  ⟨⟨rfl, rfl⟩, rfl⟩

/-- Two sessions of the sample election that differ in one ballot, and their archives. -/
theorem exists_sessions : ∃ none one : GuiElectionSessionV1,
    Reachable GuiCore.Sample.prims none ∧ Reachable GuiCore.Sample.prims one ∧
    none.BeforeClose ∧ DifferInBallots none one ∧ none.acceptedCount = 0 ∧ one.acceptedCount = 1 ∧
    ∀ session ∈ [none, one], ∃ result entries,
      writeArchiveDirectoryV1WithOptionalBinding GuiCore.Sample.prims noFault session .absent
        .none .none .legacy = .ok (result, entries) ∧
      Agrees session .legacy result (verifyArchiveDirectoryV1 GuiCore.Sample.prims.crate
        GuiCore.Sample.prims.provider GuiCore.Sample.prims.nfc entries) := by
  obtain ⟨hnone, hone⟩ := sessions_evaluated
  cases hsession : GuiCore.Sample.openSession with
  | error e =>
    rw [hsession] at hnone
    cases hnone
  | ok session =>
    simp only [hsession, Except.toOption, Option.any_some, decide_eq_true_eq] at hnone
    obtain ⟨hopen, hpackages, hcount, hpin⟩ := hnone
    have hreachable := GuiCore.Sample.reachable_openSession hsession
    have hcomplete := (hreachable.isReplayed (triptychBatchLaws_idealCrate _)).isComplete
    have hrecorded : (session.intakeBallotPackageBytes GuiCore.Sample.prims
        (Verifier.Sample.package 1 9 [1])).2 =
          session.recorded GuiCore.Sample.prims (Verifier.Sample.package 1 9 [1]) := by
      rw [intakeBallotPackageBytes, if_neg (fun hne ↦ hne hopen),
        processIntakePackage_eq hcomplete]
    have honeBallot : oneBallot = .ok (session.recorded GuiCore.Sample.prims
        (Verifier.Sample.package 1 9 [1])) := by
      simp only [oneBallot, hsession, bind, Except.bind, pure, Except.pure, hrecorded]
    simp only [honeBallot, Except.toOption, Option.any_some, decide_eq_true_eq] at hone
    have hreachable' := hreachable.intake (Verifier.Sample.package 1 9 [1])
    rw [hrecorded] at hreachable'
    obtain ⟨hdiffer, hadded⟩ := differInBallots_recorded GuiCore.Sample.prims session
      (Verifier.Sample.package 1 9 [1])
    rw [hpackages, List.nil_append] at hadded
    refine ⟨session, _, hreachable, hreachable', Or.inr hopen, hdiffer, hcount, hone.1, ?_⟩
    intro other hother
    rcases List.mem_cons.mp hother with rfl | hother
    · apply exists_agreeing hreachable
      · rw [hpackages]
        exact Nat.zero_le _
      · rw [hpackages]
        exact fun _ h ↦ absurd h List.not_mem_nil
      · exact hpin
    · rw [List.mem_singleton.mp hother]
      apply exists_agreeing hreachable'
      · rw [hadded, List.length_singleton]
      · rw [hadded]
        intro package hpackage
        rw [List.mem_singleton.mp hpackage]
        exact hone.2
      · rw [← hdiffer.artifacts]
        exact hpin

/-- Whoever verifies what `write_archive` wrote tells the two sessions apart. -/
theorem exists_told_apart {directories : Text → ArchiveTarget} {commands : List ResultCommand}
    (h : VerifiesWritten directories commands) : ∃ session other : GuiElectionSessionV1,
      Reachable GuiCore.Sample.prims session ∧ Reachable GuiCore.Sample.prims other ∧
      session.BeforeClose ∧ DifferInBallots session other ∧
      returnedFigures GuiCore.Sample.prims faultless session directories commands ≠
        returnedFigures GuiCore.Sample.prims faultless other directories commands := by
  obtain ⟨before, directory, rest, rfl, hmem, hvacant⟩ := h
  obtain ⟨none, one, hnone, hone, hclose, hdiffer, hzero, hcount, harchived⟩ := exists_sessions
  have hclose' : one.BeforeClose := by
    rw [BeforeClose, ← hdiffer.lifecycle]
    exact hclose
  obtain ⟨_, _, hwrite, hagrees⟩ := harchived none List.mem_cons_self
  obtain ⟨_, _, hwrite', hagrees'⟩ := harchived one (List.mem_cons_of_mem _ List.mem_cons_self)
  refine ⟨none, one, hnone, hone, hclose, hdiffer, fun hsame ↦ ?_⟩
  have hstep := congrArg ResultFigures.acceptedBallots (Mealy.observed_step_eq hsame)
  rw [acceptedBallots_of_verified hclose hwrite hagrees hvacant hmem,
    acceptedBallots_of_verified hclose' hwrite' hagrees' hvacant hmem, hzero, hcount] at hstep
  cases hstep

end Sample

/-! ### The seal -/

/-- Results are sealed from these commands: in any two runs of them on sessions of one election
that differ in the ballots they recorded, before the close, they return the same figures. -/
def ResultsSealed (directories : Text → ArchiveTarget) (commands : List ResultCommand) : Prop :=
  ∀ (prims : Primitives) (env : CommandEnvironment) (session other : GuiElectionSessionV1),
    TriptychBatchLaws prims.crate → GuiElectionSessionV1.Reachable prims session →
    GuiElectionSessionV1.Reachable prims other → session.BeforeClose →
    DifferInBallots session other →
    returnedFigures prims env session directories commands =
      returnedFigures prims env other directories commands

/-- Results are sealed from exactly the sequences of commands in which no directory is verified
that `write_archive` was given before, when nothing was there. -/
theorem resultsSealed_iff (directories : Text → ArchiveTarget) (commands : List ResultCommand) :
    ResultsSealed directories commands ↔ ¬ VerifiesWritten directories commands := by
  constructor
  · intro hsealed hverifies
    obtain ⟨session, other, hsession, hother, hclose, hdiffer, hne⟩ :=
      Sample.exists_told_apart hverifies
    exact hne (hsealed _ _ _ _ (triptychBatchLaws_idealCrate _) hsession hother hclose hdiffer)
  · intro hunverified prims env session other _ _ _ hclose hdiffer
    exact returnedFigures_eq hclose hdiffer hunverified

/-- Voting is open; an archive is written where nothing was, and verified: the number of accepted
ballots is returned. -/
theorem not_resultsSealed :
    ¬ ResultsSealed (fun _ ↦ .absent) [.writeArchive (.lit "archive"),
      .verifyArchive (.lit "archive")] := by
  intro hsealed
  have hverifies : VerifiesWritten (fun _ ↦ .absent) [.writeArchive (.lit "archive"),
      .verifyArchive (.lit "archive")] :=
    ⟨[.writeArchive (.lit "archive")], .lit "archive", [], rfl, List.mem_cons_self, trivial⟩
  obtain ⟨session, other, hsession, hother, hclose, hdiffer, hne⟩ :=
    Sample.exists_told_apart hverifies
  exact hne (hsealed _ _ _ _ (triptychBatchLaws_idealCrate _) hsession hother hclose hdiffer)

end PrivateBallot.Shell
