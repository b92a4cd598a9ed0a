import PrivateBallot.GuiCore.SessionBookkeeping

/-!
# Accepted packages

Library `GuiCore`. `crates/gui-core/src/session.rs:533-659`: what one intake does to the set of
accepted packages. A package is accepted at most once, and one that was accepted is a duplicate
from then on.
-/

namespace PrivateBallot.GuiCore

open PrivateBallot.Base PrivateBallot.Protocol PrivateBallot.Ballot
open PrivateBallot.Crypto PrivateBallot.Verifier PrivateBallot.Archive

namespace GuiElectionSessionV1

variable {prims : Primitives} {session : GuiElectionSessionV1}

/-- Every accepted package verifies, is about the frozen election and has its nullifier in the
ledger; none was accepted twice. -/
structure AcceptedOnce (prims : Primitives) (session : GuiElectionSessionV1) : Prop where
  spent : ∀ packageBytes ∈ session.acceptedPackages, ∃ ballot,
    verifyApprovalBallotPackageV1 (session.context prims) packageBytes = .ok ballot ∧
      session.lifecycle.frozenManifestHash = some ballot.proof.statement.manifestHash ∧
      session.lifecycle.frozenRegistryCommitment =
        some ballot.proof.statement.registryCommitment ∧
      ballot.proof.nullifier ∈ session.ledger.seenNullifiers
  nodup : session.acceptedPackages.Nodup

/-- An accepted package verifies, its nullifier was new, and it is in the ledger afterwards. -/
theorem of_ingestOf_ok {packageBytes : Bytes}
    (h : (session.ingestOf prims packageBytes).1 = .ok ()) : ∃ ballot,
    verifyApprovalBallotPackageV1 (session.context prims) packageBytes = .ok ballot ∧
      session.lifecycle.validateBallotStatement ballot.proof.statement = .ok () ∧
      ballot.proof.nullifier ∉ session.ledger.seenNullifiers ∧
      (session.ingestOf prims packageBytes).2.seenNullifiers =
        insert ballot.proof.nullifier session.ledger.seenNullifiers := by
  unfold ingestOf ingestApprovalBallotPackageV1 at h ⊢
  cases hverify : verifyApprovalBallotPackageV1 (session.context prims) packageBytes with
  | error e =>
    rw [hverify] at h
    cases h
  | ok ballot =>
    rw [hverify] at h
    simp only [BallotAcceptanceLedger.acceptVerified] at h ⊢
    cases hvalid : session.lifecycle.validateBallotStatement ballot.proof.statement with
    | error e =>
      rw [hvalid] at h
      cases h
    | ok u =>
      rw [hvalid] at h
      by_cases hseen : ballot.proof.nullifier ∈ session.ledger.seenNullifiers
      · simp only [hseen, if_true] at h
        cases h
      · refine ⟨ballot, rfl, hvalid, hseen, ?_⟩
        rw [if_neg hseen]

/-- Nullifiers are never taken out of the ledger. -/
theorem seenNullifiers_subset_ingestOf (packageBytes : Bytes) :
    session.ledger.seenNullifiers ⊆ (session.ingestOf prims packageBytes).2.seenNullifiers := by
  rcases session.ingestOf_cases prims packageBytes with ⟨-, hok, -⟩ | ⟨e, -, hsame⟩
  · obtain ⟨ballot, -, -, -, hseen⟩ := of_ingestOf_ok hok
    rw [hseen]
    exact Finset.subset_insert _ _
  · rw [hsame]

/-- A package that this session does not accept. -/
def Refuses (prims : Primitives) (session : GuiElectionSessionV1) (packageBytes : Bytes) : Prop :=
  (session.ingestOf prims packageBytes).1 ≠ .ok ()

-- Beyond the package itself only the lifecycle and the ledger decide.
private theorem Refuses.of_le {later : GuiElectionSessionV1} {packageBytes : Bytes}
    (h : session.Refuses prims packageBytes)
    (hcontext : later.context prims = session.context prims)
    (hlifecycle : ∀ statement, later.lifecycle.validateBallotStatement statement = .ok () →
      session.lifecycle.validateBallotStatement statement = .ok ())
    (hseen : session.ledger.seenNullifiers ⊆ later.ledger.seenNullifiers) :
    later.Refuses prims packageBytes := by
  intro hok
  obtain ⟨ballot, hverify, hvalid, hnew, -⟩ := of_ingestOf_ok hok
  apply h
  rw [hcontext] at hverify
  unfold ingestOf ingestApprovalBallotPackageV1
  simp only [hverify, BallotAcceptanceLedger.acceptVerified, hlifecycle _ hvalid]
  rw [if_neg fun hmem ↦ hnew (hseen hmem)]

/-- A refused package stays refused whatever is recorded after it. -/
theorem Refuses.recorded {packageBytes : Bytes} (h : session.Refuses prims packageBytes)
    (other : Bytes) : (session.recorded prims other).Refuses prims packageBytes := by
  apply Refuses.of_le h
  · rfl
  · intro statement hvalid
    exact hvalid
  · exact seenNullifiers_subset_ingestOf other

/-- And after the election was closed. -/
theorem Refuses.close {later : GuiElectionSessionV1} {packageBytes : Bytes}
    (h : session.Refuses prims packageBytes) (hclose : session.close = .ok later) :
    later.Refuses prims packageBytes := by
  obtain ⟨hopen, rfl⟩ := withLifecycle_transition hclose
  apply Refuses.of_le h
  · rfl
  · intro statement hvalid
    obtain ⟨-, hfrozen⟩ := (ElectionLifecycleV1.validateBallotStatement_eq_ok _ _).mp hvalid
    have hadmits : session.lifecycle.admitsBallots = true := by
      simp [ElectionLifecycleV1.admitsBallots, hopen]
    exact (ElectionLifecycleV1.validateBallotStatement_eq_ok _ _).mpr ⟨hadmits, hfrozen⟩
  · exact fun _ hmem ↦ hmem

/-- A package that was accepted is refused as a duplicate while ballots are admitted. -/
theorem AcceptedOnce.ingestOf_of_mem (h : AcceptedOnce prims session)
    (hadmits : session.lifecycle.admitsBallots = true) {packageBytes : Bytes}
    (hmem : packageBytes ∈ session.acceptedPackages) :
    ∃ e, (session.ingestOf prims packageBytes).1 = .error e ∧ e.code = .duplicateNullifier := by
  obtain ⟨ballot, hverify, hmanifest, hregistry, hseen⟩ := h.spent packageBytes hmem
  have hvalid : session.lifecycle.validateBallotStatement ballot.proof.statement = .ok () :=
    (session.lifecycle.validateBallotStatement_eq_ok _).mpr ⟨hadmits, hmanifest, hregistry⟩
  unfold ingestOf ingestApprovalBallotPackageV1
  simp only [hverify, BallotAcceptanceLedger.acceptVerified, hvalid, hseen, if_true]
  exact ⟨_, rfl, rfl⟩

theorem AcceptedOnce.recorded (hbook : Bookkeeping prims session) (h : AcceptedOnce prims session)
    (packageBytes : Bytes) : AcceptedOnce prims (session.recorded prims packageBytes) := by
  have hpackages := hbook.acceptedPackages_recorded packageBytes
  have hgrow : session.ledger.seenNullifiers ⊆
      (session.ingestOf prims packageBytes).2.seenNullifiers :=
    seenNullifiers_subset_ingestOf packageBytes
  by_cases hok : (session.ingestOf prims packageBytes).1 = .ok ()
  · obtain ⟨ballot, hverify, hvalid, hnew, hseen⟩ := of_ingestOf_ok hok
    obtain ⟨hadmits, hmanifest, hregistry⟩ :=
      (session.lifecycle.validateBallotStatement_eq_ok _).mp hvalid
    have hout : BallotDecisionOutcomeV1.ofResult (.ok ()) = .accepted := rfl
    rw [hok, if_pos hout] at hpackages
    have hfresh : packageBytes ∉ session.acceptedPackages := by
      intro hmem
      obtain ⟨e, herror, -⟩ := h.ingestOf_of_mem hadmits hmem
      rw [hok] at herror
      cases herror
    constructor
    · intro other hother
      rw [hpackages, List.mem_append, List.mem_singleton] at hother
      rcases hother with hother | rfl
      · obtain ⟨ballot', hverify', hmanifest', hregistry', hseen'⟩ := h.spent other hother
        exact ⟨ballot', hverify', hmanifest', hregistry', hgrow hseen'⟩
      · refine ⟨ballot, hverify, hmanifest, hregistry, ?_⟩
        show ballot.proof.nullifier ∈ (session.ingestOf prims other).2.seenNullifiers
        rw [hseen]
        exact Finset.mem_insert_self _ _
    · rw [hpackages]
      apply List.Nodup.append h.nodup (List.nodup_singleton _)
      rw [List.disjoint_singleton]
      exact hfresh
  · have hreject : BallotDecisionOutcomeV1.ofResult (session.ingestOf prims packageBytes).1 ≠
        .accepted := by
      cases hresult : (session.ingestOf prims packageBytes).1 with
      | ok u => exact absurd hresult hok
      | error e => simp [BallotDecisionOutcomeV1.ofResult]
    rw [if_neg hreject, List.append_nil] at hpackages
    constructor
    · intro other hother
      rw [hpackages] at hother
      obtain ⟨ballot, hverify, hmanifest, hregistry, hseen⟩ := h.spent other hother
      exact ⟨ballot, hverify, hmanifest, hregistry, hgrow hseen⟩
    · rw [hpackages]
      exact h.nodup

theorem AcceptedOnce.recordedAll (hbook : Bookkeeping prims session)
    (h : AcceptedOnce prims session) (packages : List Bytes) :
    AcceptedOnce prims (session.recordedAll prims packages) := by
  induction packages using List.reverseRecOn with
  | nil => exact h
  | append_singleton packages packageBytes ih =>
    rw [recordedAll_append_singleton]
    exact ih.recorded (hbook.recordedAll packages) packageBytes

/-- A replayed session has accepted every package at most once. -/
theorem IsReplayed.acceptedOnce (h : IsReplayed prims session) : AcceptedOnce prims session := by
  obtain ⟨fresh, hnew, hsession⟩ := h.replayed
  have hempty : AcceptedOnce prims (fresh.inState .opened ∅) := by
    have hpackages : (fresh.inState .opened ∅).acceptedPackages = [] := by
      unfold acceptedPackages
      rw [show (fresh.inState .opened ∅).packages = [] from (new_eq_ok hnew).2.2.1]
      rfl
    constructor
    · intro packageBytes hmem
      rw [hpackages] at hmem
      cases hmem
    · rw [hpackages]
      exact List.nodup_nil
  have hall := hempty.recordedAll ((bookkeeping_of_new hnew).inState .opened ∅) session.packages
  rw [hsession]
  exact ⟨hall.spent, hall.nodup⟩

/-- What an intake of an open session does: it records the package, answers with its decision,
and either adds it to the accepted packages, where it was not, or leaves these as they are. -/
theorem IsReplayed.intake_cases (h : IsReplayed prims session)
    (hopen : session.lifecycle.state = .opened) (packageBytes : Bytes) :
    ∃ result, session.intakeBallotPackageBytes prims packageBytes =
        (.ok result, session.recorded prims packageBytes) ∧
      ((result.accepted = true ∧ ¬ session.Refuses prims packageBytes ∧
          packageBytes ∉ session.acceptedPackages ∧
          (session.recorded prims packageBytes).acceptedPackages =
            session.acceptedPackages ++ [packageBytes]) ∨
        (result.accepted = false ∧ session.Refuses prims packageBytes ∧
          (session.recorded prims packageBytes).acceptedPackages = session.acceptedPackages ∧
          (packageBytes ∈ session.acceptedPackages → result.category = .duplicate))) := by
  have hadmits : session.lifecycle.admitsBallots = true := by
    simp [ElectionLifecycleV1.admitsBallots, hopen]
  have hpackages := h.bookkeeping.acceptedPackages_recorded packageBytes
  have hintake : session.intakeBallotPackageBytes prims packageBytes =
      session.processIntakePackage prims packageBytes := by
    unfold GuiElectionSessionV1.intakeBallotPackageBytes
    rw [if_neg (not_not.mpr hopen)]
  rw [hintake, processIntakePackage_eq h.isComplete]
  refine ⟨_, rfl, ?_⟩
  cases hresult : (session.ingestOf prims packageBytes).1 with
  | ok u =>
    left
    rw [hresult] at hpackages
    refine ⟨rfl, not_not.mpr hresult, ?_, hpackages⟩
    intro hmem
    obtain ⟨e, herror, -⟩ := h.acceptedOnce.ingestOf_of_mem hadmits hmem
    rw [hresult] at herror
    cases herror
  | error e =>
    right
    rw [hresult] at hpackages
    have hsame : (session.recorded prims packageBytes).acceptedPackages =
        session.acceptedPackages := by
      rw [hpackages]
      simp [BallotDecisionOutcomeV1.ofResult]
    have hrefuses : session.Refuses prims packageBytes := by
      intro hok
      rw [hresult] at hok
      cases hok
    refine ⟨rfl, hrefuses, hsame, ?_⟩
    intro hmem
    obtain ⟨e', herror, hcode⟩ := h.acceptedOnce.ingestOf_of_mem hadmits hmem
    rw [hresult] at herror
    cases herror
    show GuiIntakeCategory.fromValidation e.code = .duplicate
    rw [hcode]
    rfl

end GuiElectionSessionV1

end PrivateBallot.GuiCore
