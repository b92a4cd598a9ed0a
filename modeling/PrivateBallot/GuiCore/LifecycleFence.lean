import PrivateBallot.GuiCore.ElectionStatus

/-!
# Lifecycle fence

Library `GuiCore`. `crates/gui-core/src/election_status.rs:229-260,1018-1097`: the cell in which the
organizer publishes the authoritative lifecycle, with a generation, for the private intake, and
the signing of status statements. All methods of the fence take its lock for one access.
-/

namespace PrivateBallot.GuiCore

open PrivateBallot.Base PrivateBallot.Protocol PrivateBallot.Ballot

/-- `AuthoritativeLifecycleFenceV1` -/
structure AuthoritativeLifecycleFenceV1 where
  state : ElectionLifecycleStateV1
  generation : UInt64
deriving DecidableEq

namespace AuthoritativeLifecycleFenceV1

/-- `AuthoritativeLifecycleFenceV1::new` -/
def new (state : ElectionLifecycleStateV1) (initialGeneration : UInt64) :
    AuthoritativeLifecycleFenceV1 :=
  ⟨state, max initialGeneration statusGenerationMinimum⟩

/-- `AuthoritativeLifecycleFenceV1::observe`: an unchanged state keeps the generation, a reserved
one is taken if it is larger, and without one the counter goes on by itself. -/
def observe (self : AuthoritativeLifecycleFenceV1) (state : ElectionLifecycleStateV1)
    (explicitGeneration : Option UInt64) : AuthoritativeLifecycleFenceV1 :=
  if self.state = state then self
  else match explicitGeneration with
    | some generation =>
      if self.generation < generation then ⟨state, generation⟩ else ⟨state, self.generation⟩
    | none => ⟨state, saturatingSucc self.generation⟩

/-- `AuthoritativeLifecycleFenceV1::is_open` -/
def isOpen (self : AuthoritativeLifecycleFenceV1) : Bool := self.state = .opened

variable (self : AuthoritativeLifecycleFenceV1) (published : ElectionLifecycleStateV1)
  (explicitGeneration : Option UInt64)

/-- The state that is published is the one the fence shows. -/
@[simp] theorem state_observe : (self.observe published explicitGeneration).state = published := by
  unfold observe
  by_cases hsame : self.state = published
  · rw [if_pos hsame]
    exact hsame
  · rw [if_neg hsame]
    cases explicitGeneration with
    | none => rfl
    | some generation =>
      by_cases hlt : self.generation < generation
      · simp only [if_pos hlt]
      · simp only [if_neg hlt]

/-- A generation that is larger than the fence's is taken. -/
theorem observe_of_lt {self : AuthoritativeLifecycleFenceV1} {published : ElectionLifecycleStateV1}
    {generation : UInt64} (hstate : self.state ≠ published)
    (hgeneration : self.generation < generation) :
    self.observe published (some generation) = ⟨published, generation⟩ := by
  unfold observe
  rw [if_neg hstate]
  exact if_pos hgeneration

/-- Without a reservation the next generation is taken. -/
theorem observe_none {self : AuthoritativeLifecycleFenceV1} {published : ElectionLifecycleStateV1}
    (hstate : self.state ≠ published) (hgeneration : self.generation.toNat + 1 ≠ 2 ^ 64) :
    self.observe published none = ⟨published, self.generation + 1⟩ := by
  have hnext : saturatingSucc self.generation = self.generation + 1 := by
    unfold saturatingSucc
    rw [if_neg]
    omega
  unfold observe
  rw [if_neg hstate, ← hnext]

/-- Publishing what the fence shows changes nothing. -/
theorem observe_of_eq {self : AuthoritativeLifecycleFenceV1} {published : ElectionLifecycleStateV1}
    (hstate : self.state = published) (explicitGeneration : Option UInt64) :
    self.observe published explicitGeneration = self := by
  unfold observe
  exact if_pos hstate

end AuthoritativeLifecycleFenceV1

/-! ### Signing -/

/-- What the organizer signs statements with: the election they are about and the root key. -/
structure StatusSigner where
  electionId : Bytes
  manifestHash : ManifestHash
  registryCommitment : RegistryCommitment
  rootKeyId : Text
  sign : Bytes → SignatureBytes

/-- `AuthenticatedElectionStatusStatementV1::sign_for_test_or_ceremony` -/
def AuthenticatedElectionStatusStatementV1.signForTestOrCeremony (signer : StatusSigner)
    (state : ElectionLifecycleStateV1) (generation : UInt64) :
    StatusResult AuthenticatedElectionStatusStatementV1 := do
  let statement : AuthenticatedElectionStatusStatementV1 :=
    ⟨signer.electionId, signer.manifestHash, signer.registryCommitment, state, generation,
      signer.rootKeyId, ⟨List.replicate 64 0, length_zeros64⟩⟩
  statement.validateFields
  let message ← statement.signingMessage
  pure { statement with signature := signer.sign message }

/-- A statement that was signed says what it was signed for. -/
theorem AuthenticatedElectionStatusStatementV1.of_signForTestOrCeremony {signer : StatusSigner}
    {state : ElectionLifecycleStateV1} {generation : UInt64}
    {statement : AuthenticatedElectionStatusStatementV1}
    (h : signForTestOrCeremony signer state generation = .ok statement) :
    statement.state = state ∧ statement.generation = generation := by
  unfold signForTestOrCeremony at h
  obtain ⟨u, -, hrest⟩ := bind_eq_ok.mp h
  obtain ⟨message, -, hsigned⟩ := bind_eq_ok.mp hrest
  cases hsigned
  exact ⟨rfl, rfl⟩

end PrivateBallot.GuiCore
