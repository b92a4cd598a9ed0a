import PrivateBallot.Archive.Verifier
import PrivateBallot.GuiCore.ArchiveWriter

/-!
# Sealed results

Library `GuiCore`. `crates/gui-core/src/participation.rs` and `session.rs:790-872`: what a session
tells about its result. Tally and participation are sealed until voting is closed. The tally
summary of the facade has the fields of the archive verifier's.
-/

namespace PrivateBallot.GuiCore

open PrivateBallot.Base PrivateBallot.Protocol PrivateBallot.Ballot PrivateBallot.Archive
open PrivateBallot.Tally

/-- `SMALL_ELECTORATE_THRESHOLD` -/
def smallElectorateThreshold : Nat := 25

/-- `ParticipationVisibility` -/
inductive ParticipationVisibility where
  | live
  | coarse
  | sealedUntilClose
deriving DecidableEq, Repr

/-- `ResultVisibility` -/
inductive ResultVisibility where
  | sealed
  | disclosed
deriving DecidableEq, Repr

/-- `CoarseParticipationBucket` -/
inductive CoarseParticipationBucket where
  | zeroToTwentyFour
  | twentyFiveToFortyNine
  | fiftyToSeventyFour
  | seventyFiveToNinetyNine
  | oneHundred
deriving DecidableEq, Repr

/-- `CoarseParticipationBucket::from_basis_points` -/
def CoarseParticipationBucket.fromBasisPoints (bps : Nat) : CoarseParticipationBucket :=
  if 10000 ≤ bps then .oneHundred
  else if 7500 ≤ bps then .seventyFiveToNinetyNine
  else if 5000 ≤ bps then .fiftyToSeventyFour
  else if 2500 ≤ bps then .twentyFiveToFortyNine
  else .zeroToTwentyFour

/-- `GuiParticipationSummaryV1` -/
structure GuiParticipationSummaryV1 where
  lifecycleState : ElectionLifecycleStateV1
  participationVisibility : ParticipationVisibility
  resultVisibility : ResultVisibility
  eligibleVoters : Nat
  acceptedBallots : Option Nat
  participationBasisPoints : Option Nat
  remainingEligibleCapacity : Option Nat
  coarseBucket : Option CoarseParticipationBucket
  smallElectorate : Bool
deriving DecidableEq

/-- `GuiTallySummaryV1` -/
abbrev GuiTallySummaryV1 := ArchiveTallySummaryV1

/-- `participation_basis_points`, with `u64` saturation. -/
def participationBasisPoints (accepted eligible : Nat) : Nat :=
  if eligible = 0 then 0
  else if eligible ≤ accepted then 10000
  else
    let bps := min (accepted * 10000) (2 ^ 64 - 1) / eligible
    if 10000 < bps then 10000 else bps

/-- `participation_visibility_for` -/
def participationVisibilityFor : ElectionLifecycleStateV1 → ParticipationVisibility
  | .closed | .verified | .finalized => .live
  | .draft | .frozen | .opened => .sealedUntilClose

/-- `result_visibility_for` -/
def resultVisibilityFor : ElectionLifecycleStateV1 → ResultVisibility
  | .closed | .verified | .finalized => .disclosed
  | .draft | .frozen | .opened => .sealed

namespace GuiCoreError

/-- `GuiCoreError::tally_not_available_before_close` -/
def tallyNotAvailableBeforeClose : GuiCoreError :=
  ⟨"GUI_TALLY_NOT_AVAILABLE_BEFORE_CLOSE", .invalidLifecycleTransition, some "tally",
    "Tally results are not available until voting is closed."⟩

end GuiCoreError

namespace GuiElectionSessionV1

/-- `GuiElectionSessionV1::tally`; `crates/gui-core/src/session.rs:807`. -/
def tally (self : GuiElectionSessionV1) : GuiResult GuiTallySummaryV1 :=
  match self.lifecycle.state with
  | .closed | .verified | .finalized => do
    let tally ← self.directTally
    pure (summarizeTally tally self.artifacts.candidates)
  | .draft | .frozen | .opened => .error .tallyNotAvailableBeforeClose

/-- `GuiElectionSessionV1::participation_summary` -/
def participationSummary (self : GuiElectionSessionV1) : GuiParticipationSummaryV1 :=
  let state := self.lifecycle.state
  let eligible := self.artifacts.registry.entries.length
  let bps := participationBasisPoints self.acceptedCount eligible
  let sealed : GuiParticipationSummaryV1 := ⟨state, participationVisibilityFor state,
    resultVisibilityFor state, eligible, none, none, none, none,
    decide (eligible < smallElectorateThreshold)⟩
  match participationVisibilityFor state with
  | .live => { sealed with
      acceptedBallots := some self.acceptedCount
      participationBasisPoints := some bps
      remainingEligibleCapacity := some (eligible - self.acceptedCount) }
  | .coarse => { sealed with coarseBucket := some (.fromBasisPoints bps) }
  | .sealedUntilClose => sealed

/-- Voting has not closed. -/
def BeforeClose (self : GuiElectionSessionV1) : Prop :=
  self.lifecycle.state = .frozen ∨ self.lifecycle.state = .opened

/-- The tally is refused before the close, whatever was counted. -/
theorem tally_of_beforeClose {session : GuiElectionSessionV1} (h : session.BeforeClose) :
    session.tally = .error .tallyNotAvailableBeforeClose := by
  rcases h with h | h
  · simp only [tally, h]
  · simp only [tally, h]

/-- Before the close the summary tells what the election is, not what was counted. -/
theorem participationSummary_congr {session other : GuiElectionSessionV1}
    (h : session.BeforeClose) (hstate : session.lifecycle.state = other.lifecycle.state)
    (hartifacts : session.artifacts = other.artifacts) :
    session.participationSummary = other.participationSummary := by
  rcases h with h | h
  · simp only [participationSummary, ← hstate, ← hartifacts, h, participationVisibilityFor]
  · simp only [participationSummary, ← hstate, ← hartifacts, h, participationVisibilityFor]

end GuiElectionSessionV1

/-- Participation never exceeds the whole electorate. -/
theorem participationBasisPoints_le (accepted eligible : Nat) :
    participationBasisPoints accepted eligible ≤ 10000 := by
  unfold participationBasisPoints
  dsimp only
  split_ifs <;> omega

end PrivateBallot.GuiCore
