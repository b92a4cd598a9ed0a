import PrivateBallot.Protocol.ProofStatement

/-!
# Election lifecycle

Library `Ballot`. `crates/ballot/src/lifecycle.rs`: one forward path from DRAFT to FINALIZED,
with the manifest hash and registry commitment fixed when the election is frozen. A refused
operation returns the error and leaves the lifecycle as it was.
-/

namespace PrivateBallot.Ballot

open PrivateBallot.Protocol

/-- `ElectionLifecycleStateV1` -/
inductive ElectionLifecycleStateV1 where
  | draft
  | frozen
  | opened
  | closed
  | verified
  | finalized
deriving DecidableEq, Repr

namespace ElectionLifecycleStateV1

/-- `ElectionLifecycleStateV1::as_str` -/
def asStr : ElectionLifecycleStateV1 → String
  | draft => "DRAFT"
  | frozen => "FROZEN"
  | opened => "OPEN"
  | closed => "CLOSED"
  | verified => "VERIFIED"
  | finalized => "FINALIZED"

/-- Position in the declaration order, which is the derived `Ord`. -/
def rank : ElectionLifecycleStateV1 → Nat
  | draft => 0
  | frozen => 1
  | opened => 2
  | closed => 3
  | verified => 4
  | finalized => 5

/-- The rank determines the state. -/
theorem rank_injective : Function.Injective rank := by
  intro a b h
  cases a <;> cases b <;> first | rfl | cases h

end ElectionLifecycleStateV1

/-- `ElectionLifecycleV1` -/
structure ElectionLifecycleV1 where
  state : ElectionLifecycleStateV1
  frozenManifestHash : Option ManifestHash
  frozenRegistryCommitment : Option RegistryCommitment
deriving DecidableEq

namespace ElectionLifecycleV1

/-- `ElectionLifecycleV1::new` -/
def new : ElectionLifecycleV1 := ⟨.draft, none, none⟩

private def invalidTransition : ProtocolError :=
  ⟨.invalidLifecycleTransition, "election lifecycle transition is not permitted"⟩

/-- `freeze`: fixes both commitments, from DRAFT only. -/
def freeze (self : ElectionLifecycleV1) (manifestHash : ManifestHash)
    (registryCommitment : RegistryCommitment) : Result ElectionLifecycleV1 :=
  if self.state ≠ .draft then .error invalidTransition
  else .ok ⟨.frozen, some manifestHash, some registryCommitment⟩

/-- `transition` -/
def transition (self : ElectionLifecycleV1) (expected next : ElectionLifecycleStateV1) :
    Result ElectionLifecycleV1 :=
  if self.state ≠ expected then .error invalidTransition
  else .ok { self with state := next }

/-- `open` -/
def openVoting (self : ElectionLifecycleV1) : Result ElectionLifecycleV1 :=
  self.transition .frozen .opened

/-- `close` -/
def close (self : ElectionLifecycleV1) : Result ElectionLifecycleV1 :=
  self.transition .opened .closed

/-- `mark_verified` -/
def markVerified (self : ElectionLifecycleV1) : Result ElectionLifecycleV1 :=
  self.transition .closed .verified

/-- `finalize` -/
def finalize (self : ElectionLifecycleV1) : Result ElectionLifecycleV1 :=
  self.transition .verified .finalized

/-- Ballots are admitted in OPEN and during the documented post-close drain. -/
def admitsBallots (self : ElectionLifecycleV1) : Bool :=
  self.state = .opened || self.state = .closed

/-- `validate_ballot_statement`; `crates/ballot/src/lifecycle.rs`. -/
def validateBallotStatement (self : ElectionLifecycleV1) (statement : ProofStatementV1) :
    Result Unit :=
  if !self.admitsBallots then
    fail .electionNotOpen ("ballots are accepted only while the election is open " ++
      "(or during the documented post-close drain)")
  else match self.frozenManifestHash with
  | none =>
    fail .invalidLifecycleTransition "open election is missing its frozen manifest hash"
  | some manifestHash => match self.frozenRegistryCommitment with
    | none =>
      fail .invalidLifecycleTransition
        "open election is missing its frozen registry commitment"
    | some registryCommitment =>
      if statement.manifestHash ≠ manifestHash then
        fail .wrongManifestHash "verified ballot belongs to a different frozen manifest"
      else if statement.registryCommitment ≠ registryCommitment then
        fail .lifecycleCommitmentMismatch
          "verified ballot uses a different frozen registry commitment"
      else .ok ()

/-- A statement passes exactly when ballots are admitted and both commitments are the
frozen ones. -/
theorem validateBallotStatement_eq_ok (self : ElectionLifecycleV1)
    (statement : ProofStatementV1) :
    self.validateBallotStatement statement = .ok () ↔
      self.admitsBallots = true ∧ self.frozenManifestHash = some statement.manifestHash ∧
        self.frozenRegistryCommitment = some statement.registryCommitment := by
  unfold validateBallotStatement
  cases hadmits : self.admitsBallots with
  | false => simp [fail]
  | true =>
    cases hmanifest : self.frozenManifestHash with
    | none => simp [fail]
    | some manifestHash =>
      cases hregistry : self.frozenRegistryCommitment with
      | none => simp [fail]
      | some registryCommitment =>
        by_cases hm : statement.manifestHash = manifestHash
        · by_cases hr : statement.registryCommitment = registryCommitment
          · simp [hm, hr]
          · simp [fail, hm, hr, Ne.symm hr]
        · simp [fail, hm, Ne.symm hm]

end ElectionLifecycleV1

end PrivateBallot.Ballot
