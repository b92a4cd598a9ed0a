import PrivateBallot.Archive.Transcript
import PrivateBallot.Base.Digests
import PrivateBallot.GuiCore.WorkspaceRecord

/-!
# Private intake inbox

Library `GuiCore`. `crates/gui-core/src/private_intake_inbox.rs:142-228`: accepted packages in
files that are named by their digests. The model of a directory is the map from the digest in a
file's name to the file's bytes. Every operation of the file system may fail.
-/

namespace PrivateBallot.GuiCore

open PrivateBallot.Base PrivateBallot.Protocol PrivateBallot.Archive

/-- The package files of an election inbox. -/
abbrev PrivateIntakeInbox := DigestMap Bytes

/-- Which operations of one append fail, and how. -/
structure InboxFaults where
  directory : Option GuiCoreError
  inspect : Option GuiCoreError
  write : Bool
  rename : Bool
  readBack : Option GuiCoreError
deriving DecidableEq

/-- No failure. -/
def InboxFaults.none : InboxFaults := ⟨.none, .none, false, false, .none⟩

private def inboxError (code : String) (category : GuiErrorCategory) (message : String) :
    GuiCoreError :=
  ⟨code, category, some "private-intake-inbox", message⟩

/-- `verify_existing_inbox_package` -/
def verifyExistingInboxPackage (readBack : Option GuiCoreError) (existing expected : Bytes) :
    GuiResult Unit :=
  match readBack with
  | some e => .error e
  | none =>
    if existing ≠ expected then
      .error (inboxError "GUI_PRIVATE_INTAKE_INBOX_EXISTING_PACKAGE_MISMATCH" .archiveIntegrity
        "an existing private-intake package file does not match the accepted ballot package")
    else .ok ()

-- A rename that finds the file of another writer is left out: a collector is the only writer.
/-- `append_accepted_ballot_package_to_inbox_v1`: the answer, and the files it leaves. -/
def appendAcceptedBallotPackageToInboxV1 (provider : HashProvider) (faults : InboxFaults)
    (inbox : PrivateIntakeInbox) (packageBytes : Bytes) : GuiResult Bool × PrivateIntakeInbox :=
  if maxBallotPackageBytesV1 < packageBytes.length then
    (.error (inboxError "GUI_PRIVATE_INTAKE_INBOX_PACKAGE_TOO_LARGE" .invalidInput
      "the accepted ballot package exceeds the canonical size limit"), inbox)
  else match faults.directory with
    | some e => (.error e, inbox)
    | none => match faults.inspect with
      | some e => (.error e, inbox)
      | none => match inbox.lookup (packageDigest provider packageBytes) with
        | some existing =>
          ((verifyExistingInboxPackage faults.readBack existing packageBytes).map fun _ ↦ false,
            inbox)
        | none =>
          if faults.write || faults.rename then
            (.error (.ioFailure "private-intake-inbox"), inbox)
          else
            ((verifyExistingInboxPackage faults.readBack packageBytes packageBytes).map
              fun _ ↦ true,
              inbox.insert (packageDigest provider packageBytes) packageBytes)

/-- What an append can do: nothing, and then it may have found exactly this package; or it puts
the package where there was no file. -/
theorem appendAcceptedBallotPackageToInboxV1_cases (provider : HashProvider) (faults : InboxFaults)
    (inbox : PrivateIntakeInbox) (packageBytes : Bytes) :
    ((appendAcceptedBallotPackageToInboxV1 provider faults inbox packageBytes).2 = inbox ∧
      ((∃ e, (appendAcceptedBallotPackageToInboxV1 provider faults inbox packageBytes).1 =
          .error e) ∨
        inbox.lookup (packageDigest provider packageBytes) = some packageBytes)) ∨
    (inbox.lookup (packageDigest provider packageBytes) = none ∧
      (appendAcceptedBallotPackageToInboxV1 provider faults inbox packageBytes).2 =
        inbox.insert (packageDigest provider packageBytes) packageBytes) := by
  unfold appendAcceptedBallotPackageToInboxV1
  split
  · exact .inl ⟨rfl, .inl ⟨_, rfl⟩⟩
  · split
    · exact .inl ⟨rfl, .inl ⟨_, rfl⟩⟩
    · split
      · exact .inl ⟨rfl, .inl ⟨_, rfl⟩⟩
      · split
        · next existing hexisting =>
          left
          refine ⟨rfl, ?_⟩
          unfold verifyExistingInboxPackage
          split
          · exact .inl ⟨_, rfl⟩
          · by_cases hsame : existing = packageBytes
            · right
              rw [hexisting, hsame]
            · left
              rw [if_pos hsame]
              exact ⟨_, rfl⟩
        · next habsent =>
          split
          · exact .inl ⟨rfl, .inl ⟨_, rfl⟩⟩
          · exact .inr ⟨habsent, rfl⟩

/-- After an append that succeeded the package is there. -/
theorem lookup_of_append_ok {provider : HashProvider} {faults : InboxFaults}
    {inbox : PrivateIntakeInbox} {packageBytes : Bytes} {added : Bool}
    (h : (appendAcceptedBallotPackageToInboxV1 provider faults inbox packageBytes).1 = .ok added) :
    (appendAcceptedBallotPackageToInboxV1 provider faults inbox packageBytes).2.lookup
      (packageDigest provider packageBytes) = some packageBytes := by
  rcases appendAcceptedBallotPackageToInboxV1_cases provider faults inbox packageBytes with
    ⟨hsame, ⟨e, herror⟩ | hfound⟩ | ⟨habsent, hinserted⟩
  · rw [h] at herror
    cases herror
  · rw [hsame]
    exact hfound
  · rw [hinserted, DigestMap.lookup_insert_of_absent habsent, if_pos rfl]

/-- An append adds at most this package, under its digest, and changes no file. -/
theorem lookup_append {provider : HashProvider} {faults : InboxFaults} {inbox : PrivateIntakeInbox}
    {packageBytes : Bytes} (digest : Bytes32) (found : Bytes) :
    (inbox.lookup digest = some found →
      (appendAcceptedBallotPackageToInboxV1 provider faults inbox packageBytes).2.lookup digest =
        some found) ∧
    ((appendAcceptedBallotPackageToInboxV1 provider faults inbox packageBytes).2.lookup digest =
        some found →
      inbox.lookup digest = some found ∨
        inbox.lookup digest = none ∧ digest = packageDigest provider packageBytes ∧
          found = packageBytes) := by
  rcases appendAcceptedBallotPackageToInboxV1_cases provider faults inbox packageBytes with
    ⟨hsame, -⟩ | ⟨habsent, hinserted⟩
  · rw [hsame]
    exact ⟨id, .inl⟩
  · rw [hinserted, DigestMap.lookup_insert_of_absent habsent]
    constructor
    · intro hfound
      rw [if_neg]
      · exact hfound
      · intro heq
        rw [heq, habsent] at hfound
        cases hfound
    · intro hfound
      split at hfound
      · next heq =>
        right
        rw [heq]
        exact ⟨habsent, rfl, (Option.some.inj hfound).symm⟩
      · exact .inl hfound

end PrivateBallot.GuiCore
