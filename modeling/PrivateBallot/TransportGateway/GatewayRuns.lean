import PrivateBallot.TransportGateway.Gateway

/-!
# Runs of the gateway

Library `TransportGateway`. `crates/transport-gateway/src/lib.rs:995-1245`: deliveries, seals, the
close transition and changes of retention on one gateway and one session, in any order. The
digests of the packages that were accepted are in exactly one place, pending or sealed, and every
answer agrees with them.
-/

namespace PrivateBallot.TransportGateway

open PrivateBallot.Base PrivateBallot.Protocol PrivateBallot.Ballot PrivateBallot.Archive
open PrivateBallot.Crypto PrivateBallot.GuiCore

/-- A call on the gateway. `deliver` and `deliver_and_digest` do the same. -/
inductive GatewayOperation where
  | deliver (encoded : Bytes) (retryCapability : Bytes32)
  | sealBatch (floor : UInt64) (finalCloseBatch : Bool)
  | beginClose
  | expireCloseDrain
  | beginRetryVerificationGrace
  | expireRetryRetention
deriving DecidableEq

/-- One gateway and one session. -/
structure GatewayState where
  gateway : TransportGatewaySimulatorV1
  session : GuiElectionSessionV1
deriving DecidableEq

section

variable (env : GatewayEnvironment)

/-- The state a call leaves. -/
def GatewayState.step (state : GatewayState) : GatewayOperation → GatewayState
  | .deliver encoded retryCapability =>
    let (_, gateway, session) :=
      state.gateway.deliverAndDigest env encoded retryCapability state.session
    ⟨gateway, session⟩
  | .sealBatch floor finalCloseBatch =>
    ⟨(state.gateway.sealPendingBatch env.prims.provider floor finalCloseBatch).2, state.session⟩
  | .beginClose =>
    let (_, gateway, session) := state.gateway.beginClose state.session
    ⟨gateway, session⟩
  | .expireCloseDrain =>
    let (_, gateway, session) := state.gateway.expireCloseDrain state.session
    ⟨gateway, session⟩
  | .beginRetryVerificationGrace =>
      { state with gateway := state.gateway.beginRetryVerificationGrace }
  | .expireRetryRetention => { state with gateway := state.gateway.expireRetryRetention }

/-- The state after a sequence of calls on a new gateway. -/
def gatewayRun (session : GuiElectionSessionV1) (operations : List GatewayOperation) :
    GatewayState :=
  operations.foldl (fun state operation ↦ state.step env operation) ⟨.default, session⟩

/-- The package of a delivery that can be opened. -/
def deliveredPackage : GatewayOperation → Option Bytes
  | .deliver encoded _ => (openedPackage env encoded).toOption
  | _ => none

/-- No two different packages among these have one digest. -/
def DigestsDiffer (packages : List Bytes) : Prop :=
  ∀ a ∈ packages, ∀ b ∈ packages,
    packageDigest env.prims.provider a = packageDigest env.prims.provider b → a = b

instance (packages : List Bytes) : Decidable (DigestsDiffer env packages) :=
  inferInstanceAs (Decidable (∀ a ∈ packages, ∀ b ∈ packages, _ → a = b))

end

variable {env : GatewayEnvironment}

theorem gatewayRun_append_singleton (session : GuiElectionSessionV1)
    (operations : List GatewayOperation) (operation : GatewayOperation) :
    gatewayRun env session (operations ++ [operation]) =
      (gatewayRun env session operations).step env operation := by
  simp only [gatewayRun, List.foldl_append, List.foldl_cons, List.foldl_nil]

/-! ### One delivery -/

namespace TransportGatewaySimulatorV1

/-- The gateway after an envelope was received. -/
def received (self : TransportGatewaySimulatorV1) : TransportGatewaySimulatorV1 :=
  { self with receivedCount := saturatingSucc self.receivedCount }

/-- The gateway after a package was verified. -/
def verified (self : TransportGatewaySimulatorV1) : TransportGatewaySimulatorV1 :=
  { self with verifiedCount := saturatingSucc self.verifiedCount }

variable {self : TransportGatewaySimulatorV1} {session : GuiElectionSessionV1}

/-- The admission gate of a gateway that is at work on a request. -/
def withAdmission (self : TransportGatewaySimulatorV1) (admission : TransportAdmissionGateV1) :
    TransportGatewaySimulatorV1 :=
  { self with admission }

theorem settleIntake_withAdmission (admission : TransportAdmissionGateV1)
    (result : GuiBallotIntakeResultV1) (digest : Bytes32) :
    (self.withAdmission admission).settleIntake result digest =
      ((self.settleIntake result digest).1,
        (self.settleIntake result digest).2.withAdmission admission) := by
  unfold settleIntake withAdmission
  by_cases haccepted : result.accepted = true
  · simp only [haccepted, if_true]
  · by_cases hduplicate : result.category = .duplicate
    · by_cases hpending : digest ∈ self.pendingDigests
      · simp only [haccepted, hduplicate, hpending, if_true, if_false, Bool.false_eq_true]
      · simp only [haccepted, hduplicate, hpending, if_true, if_false, Bool.false_eq_true]
    · simp only [haccepted, hduplicate, if_false, Bool.false_eq_true]

theorem rememberRetry_withAdmission (admission : TransportAdmissionGateV1)
    (commitment digest : Bytes32) (receipt : VoterTransportReceiptV1) :
    (self.withAdmission admission).rememberRetry commitment digest receipt =
      (self.rememberRetry commitment digest receipt).withAdmission admission := by
  unfold rememberRetry withAdmission
  by_cases hretention : self.retryRetention ≠ .expired
  · simp only [hretention, if_true, ne_eq, not_false_eq_true]
  · simp only [hretention, if_false]

/-- A request is admitted by an open gate to an open election. -/
theorem admitOne_eq (hadmitted : self.admission.admitted = 0) :
    self.admission.admitOne session =
      if self.admission.state = .opened ∧ session.lifecycle.state = .opened then
        .ok (self.admission.drainGeneration, { self.admission with admitted := 1 })
      else .error .unavailable := by
  unfold TransportAdmissionGateV1.admitOne
  by_cases hopen : self.admission.state = .opened ∧ session.lifecycle.state = .opened
  · have hnot : ¬ (self.admission.state ≠ .opened ∨ session.lifecycle.state ≠ .opened) := by tauto
    rw [if_neg hnot, if_pos hopen, hadmitted]
    rfl
  · have hor : self.admission.state ≠ .opened ∨ session.lifecycle.state ≠ .opened := by tauto
    rw [if_pos hor, if_neg hopen]

/-- The request that was admitted is done, and nothing is closed. -/
theorem finishAdmitted_eq {admission : TransportAdmissionGateV1}
    (hadmitted : admission.admitted = 0) (hopen : admission.state = .opened)
    (later : GuiElectionSessionV1) :
    TransportAdmissionGateV1.finishAdmitted { admission with admitted := 1 } later
      admission.drainGeneration = (.ok (), admission, later) := by
  obtain ⟨state, admitted, generation⟩ := admission
  simp only at hadmitted hopen
  subst hadmitted hopen
  simp [TransportAdmissionGateV1.finishAdmitted, TransportAdmissionGateV1.closeIfDrained]

/-- What a delivery answers and leaves once it was let in. -/
def delivered (env : GatewayEnvironment) (self : TransportGatewaySimulatorV1) (encoded : Bytes)
    (retryCapability : Bytes32) (session : GuiElectionSessionV1) :
    TransportResult (VoterTransportReceiptV1 × Bytes32) × TransportGatewaySimulatorV1 ×
      GuiElectionSessionV1 :=
  match openedPackage env encoded with
  | .error e => (.error e, self.received, session)
  | .ok bytes =>
    let digest := packageDigest env.prims.provider bytes
    let commitment := capabilityCommitment env retryCapability
    match self.retries.lookup commitment with
    | some prior => (.ok (priorReceipt prior digest, digest), self.received, session)
    | none => match session.intakeBallotPackageBytes env.prims bytes with
      | (.error _, later) => (.error .unavailable, self.received.verified, later)
      | (.ok result, later) =>
        let settled := self.received.verified.settleIntake result digest
        (.ok (settled.1, digest), settled.2.rememberRetry commitment digest settled.1, later)

theorem deliverAdmitted_eq {encoded : Bytes} {retryCapability : Bytes32} {generation : UInt64} :
    deliverAdmitted env self encoded retryCapability session generation =
      match openedPackage env encoded with
      | .error e => (.error e, self.received, session)
      | .ok bytes => self.received.deliverOpened env bytes retryCapability session generation := by
  unfold deliverAdmitted openedPackage collect
  cases PrivateBallotEnvelopeV1.fromCanonicalCbor encoded with
  | error e => rfl
  | ok envelope =>
    simp only [bind, Except.bind]
    cases openEnvelopeBytesV1 env envelope with
    | error e => rfl
    | ok bytes => rfl

/-- Only the admission gate is different while a request is admitted. -/
theorem deliverAdmitted_withAdmission {admission : TransportAdmissionGateV1} {encoded : Bytes}
    {retryCapability : Bytes32} (hopen : admission.state = .opened) :
    deliverAdmitted env (self.withAdmission admission) encoded retryCapability session
        admission.drainGeneration =
      ((self.delivered env encoded retryCapability session).1,
        (self.delivered env encoded retryCapability session).2.1.withAdmission admission,
        (self.delivered env encoded retryCapability session).2.2) := by
  rw [deliverAdmitted_eq]
  unfold delivered
  cases openedPackage env encoded with
  | error e => rfl
  | ok bytes =>
    have hadmit : ¬ ((self.received.withAdmission admission).admission.state = .closed ∨
        admission.drainGeneration ≠
          (self.received.withAdmission admission).admission.drainGeneration) := by
      simp [withAdmission, hopen]
    show deliverOpened env (self.received.withAdmission admission) bytes retryCapability session
      admission.drainGeneration = _
    unfold deliverOpened
    have hretries : (self.received.withAdmission admission).retries = self.retries := rfl
    simp only [hretries, if_neg hadmit]
    cases self.retries.lookup (capabilityCommitment env retryCapability) with
    | some prior => rfl
    | none =>
      cases session.intakeBallotPackageBytes env.prims bytes with
      | mk answer later =>
        cases answer with
        | error e => rfl
        | ok result =>
          show (Except.ok (((self.received.verified.withAdmission admission).settleIntake result
              (packageDigest env.prims.provider bytes)).1, packageDigest env.prims.provider bytes),
            ((self.received.verified.withAdmission admission).settleIntake result
              (packageDigest env.prims.provider bytes)).2.rememberRetry
              (capabilityCommitment env retryCapability) (packageDigest env.prims.provider bytes)
              ((self.received.verified.withAdmission admission).settleIntake result
              (packageDigest env.prims.provider bytes)).1, later) = _
          rw [settleIntake_withAdmission]
          dsimp only
          rw [rememberRetry_withAdmission]

theorem admission_settleIntake (result : GuiBallotIntakeResultV1) (digest : Bytes32) :
    (self.settleIntake result digest).2.admission = self.admission := by
  unfold settleIntake
  by_cases haccepted : result.accepted = true
  · rw [if_pos haccepted]
  · rw [if_neg haccepted]
    by_cases hduplicate : result.category = .duplicate
    · rw [if_pos hduplicate]
      split
      · rfl
      · rfl
    · rw [if_neg hduplicate]

theorem admission_rememberRetry (commitment digest : Bytes32) (receipt : VoterTransportReceiptV1) :
    (self.rememberRetry commitment digest receipt).admission = self.admission := by
  unfold rememberRetry
  split
  · rfl
  · rfl

theorem admission_delivered (encoded : Bytes) (retryCapability : Bytes32) :
    (self.delivered env encoded retryCapability session).2.1.admission = self.admission := by
  unfold delivered
  cases openedPackage env encoded with
  | error e => rfl
  | ok bytes =>
    dsimp only
    cases self.retries.lookup (capabilityCommitment env retryCapability) with
    | some prior => rfl
    | none =>
      cases session.intakeBallotPackageBytes env.prims bytes with
      | mk answer later =>
        cases answer with
        | error e => rfl
        | ok result =>
          dsimp only
          rw [admission_rememberRetry, admission_settleIntake]
          rfl

/-- A delivery is turned away at the gate, or let in and out again. -/
theorem deliverAndDigest_eq (hadmitted : self.admission.admitted = 0) (encoded : Bytes)
    (retryCapability : Bytes32) :
    self.deliverAndDigest env encoded retryCapability session =
      if self.admission.state = .opened ∧ session.lifecycle.state = .opened then
        self.delivered env encoded retryCapability session
      else (.error .unavailable, self, session) := by
  unfold deliverAndDigest
  rw [admitOne_eq hadmitted]
  by_cases hopen : self.admission.state = .opened ∧ session.lifecycle.state = .opened
  · rw [if_pos hopen, if_pos hopen]
    have hdelivered : deliverAdmitted env
        (self.withAdmission { self.admission with admitted := 1 }) encoded retryCapability session
        self.admission.drainGeneration = _ := deliverAdmitted_withAdmission hopen.1
    have hsame : (self.delivered env encoded retryCapability session).2.1.withAdmission
        self.admission = (self.delivered env encoded retryCapability session).2.1 := by
      rw [← admission_delivered encoded retryCapability]
      rfl
    unfold withAdmission at hdelivered
    simp only [hdelivered, finishAdmitted_eq hadmitted hopen.1]
    exact Prod.ext rfl (Prod.ext hsame rfl)
  · rw [if_neg hopen, if_neg hopen]

/-- The gateway after a package was accepted. -/
def tookIn (self : TransportGatewaySimulatorV1) (digest : Bytes32) : TransportGatewaySimulatorV1 :=
  { self with
    acceptedUniqueCount := saturatingSucc self.acceptedUniqueCount
    pendingDigests := self.pendingDigests ++ [digest] }

/-- Everything one delivery can answer and leave. -/
inductive Delivery (env : GatewayEnvironment) (self : TransportGatewaySimulatorV1) (encoded : Bytes)
    (retryCapability : Bytes32) (session : GuiElectionSessionV1) :
    TransportResult (VoterTransportReceiptV1 × Bytes32) → TransportGatewaySimulatorV1 →
      GuiElectionSessionV1 → Prop
  | turnedAway
      (hclosed : ¬ (self.admission.state = .opened ∧ session.lifecycle.state = .opened)) :
      Delivery env self encoded retryCapability session (.error .unavailable) self session
  | unopened (e : TransportError) (hopened : openedPackage env encoded = .error e) :
      Delivery env self encoded retryCapability session (.error e) self.received session
  | replayed (bytes : Bytes) (prior : RetryRecordV1)
      (hopened : openedPackage env encoded = .ok bytes)
      (hprior : self.retries.lookup (capabilityCommitment env retryCapability) = some prior) :
      Delivery env self encoded retryCapability session
        (.ok (priorReceipt prior (packageDigest env.prims.provider bytes),
          packageDigest env.prims.provider bytes)) self.received session
  | accepted (bytes : Bytes) (hopen : session.lifecycle.state = .opened)
      (hopened : openedPackage env encoded = .ok bytes)
      (hprior : self.retries.lookup (capabilityCommitment env retryCapability) = none)
      (hadmits : ¬ session.Refuses env.prims bytes)
      (hnew : bytes ∉ session.acceptedPackages)
      (hpackages : (session.recorded env.prims bytes).acceptedPackages =
        session.acceptedPackages ++ [bytes]) :
      Delivery env self encoded retryCapability session
        (.ok (⟨.accepted, .newDelivery⟩, packageDigest env.prims.provider bytes))
        ((self.received.verified.tookIn (packageDigest env.prims.provider bytes)).rememberRetry
          (capabilityCommitment env retryCapability) (packageDigest env.prims.provider bytes)
          ⟨.accepted, .newDelivery⟩)
        (session.recorded env.prims bytes)
  | duplicate (bytes : Bytes) (hopen : session.lifecycle.state = .opened)
      (hopened : openedPackage env encoded = .ok bytes)
      (hprior : self.retries.lookup (capabilityCommitment env retryCapability) = none)
      (hpackages : (session.recorded env.prims bytes).acceptedPackages = session.acceptedPackages)
      (hpending : packageDigest env.prims.provider bytes ∈ self.pendingDigests) :
      Delivery env self encoded retryCapability session
        (.ok (⟨.accepted, .previousDeliveryAccepted⟩, packageDigest env.prims.provider bytes))
        (self.received.verified.rememberRetry (capabilityCommitment env retryCapability)
          (packageDigest env.prims.provider bytes) ⟨.accepted, .previousDeliveryAccepted⟩)
        (session.recorded env.prims bytes)
  | rejected (bytes : Bytes) (retryStatus : RetryStatusV1)
      (hopen : session.lifecycle.state = .opened)
      (hopened : openedPackage env encoded = .ok bytes)
      (hprior : self.retries.lookup (capabilityCommitment env retryCapability) = none)
      (hrefuses : session.Refuses env.prims bytes)
      (hpackages : (session.recorded env.prims bytes).acceptedPackages = session.acceptedPackages)
      (hpending : bytes ∈ session.acceptedPackages →
        packageDigest env.prims.provider bytes ∉ self.pendingDigests) :
      Delivery env self encoded retryCapability session
        (.ok (⟨.rejected, retryStatus⟩, packageDigest env.prims.provider bytes))
        (self.received.verified.rememberRetry (capabilityCommitment env retryCapability)
          (packageDigest env.prims.provider bytes) ⟨.rejected, retryStatus⟩)
        (session.recorded env.prims bytes)

/-- What was answered was opened. -/
theorem Delivery.exists_openedPackage {encoded : Bytes} {retryCapability : Bytes32}
    {answer : VoterTransportReceiptV1 × Bytes32} {gateway : TransportGatewaySimulatorV1}
    {later : GuiElectionSessionV1}
    (h : Delivery env self encoded retryCapability session (.ok answer) gateway later) :
    ∃ bytes, openedPackage env encoded = .ok bytes := by
  cases h with
  | replayed bytes _ hopened => exact ⟨bytes, hopened⟩
  | accepted bytes _ hopened => exact ⟨bytes, hopened⟩
  | duplicate bytes _ hopened => exact ⟨bytes, hopened⟩
  | rejected bytes _ _ hopened => exact ⟨bytes, hopened⟩

/-- A delivery to a session that can be replayed is one of these. -/
theorem deliverAndDigest_cases (h : GuiElectionSessionV1.IsReplayed env.prims session)
    (hadmitted : self.admission.admitted = 0) (encoded : Bytes) (retryCapability : Bytes32) :
    Delivery env self encoded retryCapability session
      (self.deliverAndDigest env encoded retryCapability session).1
      (self.deliverAndDigest env encoded retryCapability session).2.1
      (self.deliverAndDigest env encoded retryCapability session).2.2 := by
  rw [deliverAndDigest_eq hadmitted]
  by_cases hopen : self.admission.state = .opened ∧ session.lifecycle.state = .opened
  · rw [if_pos hopen]
    unfold delivered
    cases hopened : openedPackage env encoded with
    | error e => exact .unopened e hopened
    | ok bytes =>
      dsimp only
      cases hprior : self.retries.lookup (capabilityCommitment env retryCapability) with
      | some prior => exact .replayed bytes prior hopened hprior
      | none =>
        obtain ⟨result, hintake, hresult⟩ := h.intake_cases hopen.2 bytes
        rw [hintake]
        dsimp only
        rcases hresult with ⟨haccepted, hadmits, hnew, hpackages⟩ |
          ⟨haccepted, hrefuses, hpackages, hduplicate⟩
        · have hsettled : self.received.verified.settleIntake result
              (packageDigest env.prims.provider bytes) = (⟨.accepted, .newDelivery⟩,
                self.received.verified.tookIn (packageDigest env.prims.provider bytes)) := by
            rw [settleIntake, if_pos haccepted]
            rfl
          rw [hsettled]
          exact .accepted bytes hopen.2 hopened hprior hadmits hnew hpackages
        · have hnot : ¬ result.accepted = true := by simp [haccepted]
          by_cases hpending : result.category = .duplicate ∧
              packageDigest env.prims.provider bytes ∈ self.pendingDigests
          · have hsettled : self.received.verified.settleIntake result
                (packageDigest env.prims.provider bytes) =
                  (⟨.accepted, .previousDeliveryAccepted⟩, self.received.verified) := by
              rw [settleIntake, if_neg hnot, if_pos hpending.1]
              exact if_pos hpending.2
            rw [hsettled]
            exact .duplicate bytes hopen.2 hopened hprior hpackages hpending.2
          · obtain ⟨retryStatus, hsettled⟩ : ∃ retryStatus,
                self.received.verified.settleIntake result
                  (packageDigest env.prims.provider bytes) =
                    (⟨.rejected, retryStatus⟩, self.received.verified) := by
              rw [settleIntake, if_neg hnot]
              by_cases hcategory : result.category = .duplicate
              · have habsent : packageDigest env.prims.provider bytes ∉
                    self.received.verified.pendingDigests := fun hmem ↦ hpending ⟨hcategory, hmem⟩
                rw [if_pos hcategory, if_neg habsent]
                exact ⟨_, rfl⟩
              · rw [if_neg hcategory]
                exact ⟨_, rfl⟩
            rw [hsettled]
            apply Delivery.rejected bytes retryStatus hopen.2 hopened hprior hrefuses hpackages
            intro hmem hdigest
            exact hpending ⟨hduplicate hmem, hdigest⟩
  · rw [if_neg hopen]
    exact .turnedAway hopen

/-- The digests the gateway holds, pending or sealed. -/
def placedDigests (self : TransportGatewaySimulatorV1) : List Bytes32 :=
  self.pendingDigests ++ self.sealedBatches.flatMap SealedTransportBatchV1.digests

@[simp] theorem pendingDigests_rememberRetry (commitment digest : Bytes32)
    (receipt : VoterTransportReceiptV1) :
    (self.rememberRetry commitment digest receipt).pendingDigests = self.pendingDigests := by
  unfold rememberRetry
  split
  · rfl
  · rfl

@[simp] theorem placedDigests_rememberRetry (commitment digest : Bytes32)
    (receipt : VoterTransportReceiptV1) :
    (self.rememberRetry commitment digest receipt).placedDigests = self.placedDigests := by
  unfold rememberRetry
  split
  · rfl
  · rfl

@[simp] theorem acceptedUniqueCount_rememberRetry (commitment digest : Bytes32)
    (receipt : VoterTransportReceiptV1) :
    (self.rememberRetry commitment digest receipt).acceptedUniqueCount =
      self.acceptedUniqueCount := by
  unfold rememberRetry
  split
  · rfl
  · rfl

/-- A delivery seals nothing. -/
theorem Delivery.sealedBatches_eq {encoded : Bytes} {retryCapability : Bytes32}
    {result : TransportResult (VoterTransportReceiptV1 × Bytes32)}
    {gateway : TransportGatewaySimulatorV1} {later : GuiElectionSessionV1}
    (h : Delivery env self encoded retryCapability session result gateway later) :
    gateway.sealedBatches = self.sealedBatches ∧ gateway.nextBatchId = self.nextBatchId := by
  have hremember : ∀ (gateway : TransportGatewaySimulatorV1) commitment digest receipt,
      (gateway.rememberRetry commitment digest receipt).sealedBatches = gateway.sealedBatches ∧
        (gateway.rememberRetry commitment digest receipt).nextBatchId = gateway.nextBatchId := by
    intro gateway commitment digest receipt
    unfold rememberRetry
    split
    · exact ⟨rfl, rfl⟩
    · exact ⟨rfl, rfl⟩
  induction h with
  | turnedAway hclosed => exact ⟨rfl, rfl⟩
  | unopened e hopened => exact ⟨rfl, rfl⟩
  | replayed bytes prior hopened hprior => exact ⟨rfl, rfl⟩
  | accepted bytes hopen hopened hprior hadmits hnew hpackages => exact hremember _ _ _ _
  | duplicate bytes hopen hopened hprior hpackages hpending => exact hremember _ _ _ _
  | rejected bytes retryStatus hopen hopened hprior hrefuses hpackages hpending =>
    exact hremember _ _ _ _

/-- The records are those there were and perhaps the new one. -/
theorem lookup_rememberRetry {commitment digest : Bytes32} {receipt : VoterTransportReceiptV1}
    (h : self.retries.lookup commitment = none) {other : Bytes32} {record : RetryRecordV1}
    (hrecord : (self.rememberRetry commitment digest receipt).retries.lookup other = some record) :
    record = ⟨digest, receipt⟩ ∨ self.retries.lookup other = some record := by
  unfold rememberRetry at hrecord
  split at hrecord
  · rw [DigestMap.lookup_insert_of_absent h] at hrecord
    split at hrecord
    · left
      exact (Option.some.inj hrecord).symm
    · right
      exact hrecord
  · right
    exact hrecord

/-- A batch takes all pending digests, or nothing is sealed. -/
theorem sealPendingBatch_cases (provider : HashProvider) (floor : UInt64) (finalCloseBatch : Bool) :
    self.sealPendingBatch provider floor finalCloseBatch = (none, self) ∨
    self.pendingDigests ≠ [] ∧ ∃ root,
      batchRoot provider (sortDedup self.pendingDigests) = some root ∧
      self.sealPendingBatch provider floor finalCloseBatch =
        (some ⟨self.nextBatchId, root, UInt64.ofNat (sortDedup self.pendingDigests).length,
            decide ((sortDedup self.pendingDigests).length < floor.toNat),
            sortDedup self.pendingDigests⟩,
          { self with
            pendingDigests := []
            nextBatchId := saturatingSucc self.nextBatchId
            sealedBatches := self.sealedBatches ++ [⟨self.nextBatchId, root,
              UInt64.ofNat (sortDedup self.pendingDigests).length,
              decide ((sortDedup self.pendingDigests).length < floor.toNat),
              sortDedup self.pendingDigests⟩] }) := by
  unfold sealPendingBatch
  split
  · exact .inl rfl
  · next hseal =>
    have hpending : self.pendingDigests ≠ [] := fun hempty ↦ hseal (.inl hempty)
    have hleaves : (sortDedup self.pendingDigests).map (batchLeaf provider) ≠ [] := by
      rw [Ne, List.map_eq_nil_iff, sortDedup_eq_nil]
      exact hpending
    obtain ⟨root, hroot⟩ := exists_merkleRoot provider hleaves
    have hbatch : batchRoot provider (sortDedup self.pendingDigests) = some root := hroot
    right
    refine ⟨hpending, root, hbatch, ?_⟩
    simp only [hbatch]

end TransportGatewaySimulatorV1

/-! ### Closing -/

/-- A drained gate closes the election or leaves it as it is. -/
theorem TransportAdmissionGateV1.closeIfDrained_cases (self : TransportAdmissionGateV1)
    (session : GuiElectionSessionV1) :
    (self.closeIfDrained session).2.1.admitted = self.admitted ∧
      ((self.closeIfDrained session).2.2 = session ∨
        session.close = .ok (self.closeIfDrained session).2.2) := by
  unfold closeIfDrained
  split
  · cases hclose : session.close with
    | error e => exact ⟨rfl, .inl rfl⟩
    | ok later => exact ⟨rfl, .inr rfl⟩
  · exact ⟨rfl, .inl rfl⟩

/-! ### The books of a run -/

section Books

variable (env : GatewayEnvironment) (packages : List Bytes)

/-- What a remembered answer says about the package it is about: an accepted one was accepted in
this run, a rejected one is refused for ever and is not pending. -/
def RecordSound (news : List Bytes) (state : GatewayState) (record : RetryRecordV1) : Prop :=
  match record.receipt.state with
  | .received => False
  | .accepted => ∃ bytes ∈ news, packageDigest env.prims.provider bytes = record.packageDigest
  | .rejected => record.packageDigest ∉ state.gateway.pendingDigests ∧ ∃ bytes ∈ packages,
      packageDigest env.prims.provider bytes = record.packageDigest ∧
        state.session.Refuses env.prims bytes

/-- The state after a run that delivered some of `packages` to a session that had accepted
`before`, and in which `news` were accepted. -/
structure Sound (before news : List Bytes) (state : GatewayState) : Prop where
  replayed : GuiElectionSessionV1.IsReplayed env.prims state.session
  idle : state.gateway.admission.admitted = 0
  accepted : state.session.acceptedPackages = before ++ news
  known : ∀ bytes ∈ news, bytes ∈ packages
  placed : state.gateway.placedDigests.Perm (news.map (packageDigest env.prims.provider))
  counted : state.gateway.acceptedUniqueCount.toNat = min news.length (2 ^ 64 - 1)
  records : ∀ commitment record, state.gateway.retries.lookup commitment = some record →
    RecordSound env packages news state record

end Books

variable {packages before news : List Bytes} {state : GatewayState}

theorem Sound.nodup (h : Sound env packages before news state) : news.Nodup := by
  have haccepted := h.replayed.acceptedOnce.nodup
  rw [h.accepted] at haccepted
  exact (List.nodup_append.mp haccepted).2.1

/-- No digest is in two places. -/
theorem Sound.nodup_placedDigests (h : Sound env packages before news state)
    (hdiffer : DigestsDiffer env packages) : state.gateway.placedDigests.Nodup := by
  apply h.placed.nodup_iff.mpr
  apply h.nodup.map_on
  intro a ha b hb hdigest
  exact hdiffer a (h.known a ha) b (h.known b hb) hdigest

/-- A package whose digest is in one of the places was accepted. -/
theorem Sound.mem_of_placed (h : Sound env packages before news state)
    (hdiffer : DigestsDiffer env packages) {bytes : Bytes} (hbytes : bytes ∈ packages)
    (hplaced : packageDigest env.prims.provider bytes ∈ state.gateway.placedDigests) :
    bytes ∈ news := by
  obtain ⟨other, hother, hdigest⟩ := List.mem_map.mp (h.placed.mem_iff.mp hplaced)
  rwa [← hdiffer other (h.known other hother) bytes hbytes hdigest]

/-- A change of the gateway and the session that leaves what records speak of. -/
theorem RecordSound.mono {later : GatewayState} {more : List Bytes} {record : RetryRecordV1}
    (h : RecordSound env packages news state record) (hnews : news ⊆ more)
    (hpending : record.packageDigest ∈ later.gateway.pendingDigests →
      record.packageDigest ∈ state.gateway.pendingDigests ∨
        ∀ bytes ∈ packages, packageDigest env.prims.provider bytes = record.packageDigest →
          ¬ state.session.Refuses env.prims bytes)
    (hrefuses : ∀ bytes, state.session.Refuses env.prims bytes →
      later.session.Refuses env.prims bytes) :
    RecordSound env packages more later record := by
  unfold RecordSound at h ⊢
  cases hstate : record.receipt.state with
  | received => simp only [hstate] at h
  | accepted =>
    simp only [hstate] at h ⊢
    obtain ⟨bytes, hbytes, hdigest⟩ := h
    exact ⟨bytes, hnews hbytes, hdigest⟩
  | rejected =>
    simp only [hstate] at h ⊢
    obtain ⟨hnot, bytes, hbytes, hdigest, hrefused⟩ := h
    refine ⟨?_, bytes, hbytes, hdigest, hrefuses bytes hrefused⟩
    intro hmem
    rcases hpending hmem with hold | hadmits
    · exact hnot hold
    · exact hadmits bytes hbytes hdigest hrefused

namespace Sound

/-- Books stay in order when the records, the digests and the count stay. -/
theorem sameBooks (h : Sound env packages before news state) {later : GatewayState}
    (hsession : later.session = state.session)
    (hidle : later.gateway.admission.admitted = 0)
    (hpending : later.gateway.pendingDigests = state.gateway.pendingDigests)
    (hbatches : later.gateway.sealedBatches = state.gateway.sealedBatches)
    (hcounted : later.gateway.acceptedUniqueCount = state.gateway.acceptedUniqueCount)
    (hrecords : ∀ commitment record, later.gateway.retries.lookup commitment = some record →
      state.gateway.retries.lookup commitment = some record) :
    Sound env packages before news later := by
  constructor
  · rw [hsession]
    exact h.replayed
  · exact hidle
  · rw [hsession]
    exact h.accepted
  · exact h.known
  · unfold TransportGatewaySimulatorV1.placedDigests
    rw [hpending, hbatches]
    exact h.placed
  · rw [hcounted]
    exact h.counted
  · intro commitment record hrecord
    apply (h.records commitment record (hrecords commitment record hrecord)).mono (fun _ ↦ id)
    · rw [hpending]
      exact .inl
    · rw [hsession]
      exact fun _ ↦ id

/-- The books after a package went through the intake and its answer was remembered. -/
theorem recorded (h : Sound env packages before news state)
    (hopen : state.session.lifecycle.state = .opened) {bytes : Bytes} {added : List Bytes}
    {gateway : TransportGatewaySimulatorV1} {commitment : Bytes32}
    {receipt : VoterTransportReceiptV1}
    (hprior : state.gateway.retries.lookup commitment = none)
    (hretries : gateway.retries = state.gateway.retries)
    (hidle : gateway.admission = state.gateway.admission)
    (haccepted : (state.session.recorded env.prims bytes).acceptedPackages =
      state.session.acceptedPackages ++ added)
    (hknown : ∀ other ∈ added, other ∈ packages)
    (hplaced : gateway.placedDigests.Perm
      (state.gateway.placedDigests ++ added.map (packageDigest env.prims.provider)))
    (hcounted : gateway.acceptedUniqueCount.toNat = min (news ++ added).length (2 ^ 64 - 1))
    (hpending : ∀ digest ∈ gateway.pendingDigests, digest ∈ state.gateway.pendingDigests ∨
      ∀ other ∈ packages, packageDigest env.prims.provider other = digest →
        ¬ state.session.Refuses env.prims other)
    (hnew : RecordSound env packages (news ++ added)
      ⟨gateway, state.session.recorded env.prims bytes⟩
      ⟨packageDigest env.prims.provider bytes, receipt⟩) :
    Sound env packages before (news ++ added)
      ⟨gateway.rememberRetry commitment (packageDigest env.prims.provider bytes) receipt,
        state.session.recorded env.prims bytes⟩ := by
  have hadmits : state.session.lifecycle.admitsBallots = true := by
    simp [ElectionLifecycleV1.admitsBallots, hopen]
  constructor
  · exact h.replayed.recorded hadmits bytes
  · dsimp only
    rw [TransportGatewaySimulatorV1.admission_rememberRetry, hidle]
    exact h.idle
  · dsimp only
    rw [haccepted, h.accepted, List.append_assoc]
  · intro other hother
    rcases List.mem_append.mp hother with hold | hadded
    · exact h.known other hold
    · exact hknown other hadded
  · dsimp only
    rw [TransportGatewaySimulatorV1.placedDigests_rememberRetry, List.map_append]
    exact hplaced.trans (h.placed.append_right _)
  · dsimp only
    rw [TransportGatewaySimulatorV1.acceptedUniqueCount_rememberRetry]
    exact hcounted
  · intro other record hrecord
    have hsame : ∀ record, RecordSound env packages (news ++ added)
        ⟨gateway, state.session.recorded env.prims bytes⟩ record →
        RecordSound env packages (news ++ added)
          ⟨gateway.rememberRetry commitment (packageDigest env.prims.provider bytes) receipt,
            state.session.recorded env.prims bytes⟩ record := by
      intro record hsound
      apply hsound.mono (fun _ ↦ id)
      · rw [TransportGatewaySimulatorV1.pendingDigests_rememberRetry]
        exact .inl
      · exact fun _ ↦ id
    rw [← hretries] at hprior
    rcases TransportGatewaySimulatorV1.lookup_rememberRetry hprior hrecord with rfl | hold
    · exact hsame _ hnew
    · rw [hretries] at hold
      apply hsame
      apply (h.records other record hold).mono
      · exact fun _ hmem ↦ List.mem_append_left added hmem
      · exact hpending record.packageDigest
      · exact fun _ hrefuses ↦ hrefuses.recorded bytes

theorem addNothing (h : Sound env packages before news state) :
    ∃ added, Sound env packages before (news ++ added) state :=
  ⟨[], by rwa [List.append_nil]⟩

/-- The books after a delivery. A package that was accepted before is not accepted again. -/
theorem deliver (h : Sound env packages before news state) (hdiffer : DigestsDiffer env packages)
    {encoded : Bytes} {retryCapability : Bytes32}
    {result : TransportResult (VoterTransportReceiptV1 × Bytes32)}
    {gateway : TransportGatewaySimulatorV1} {session : GuiElectionSessionV1}
    (hpackages : ∀ bytes, openedPackage env encoded = .ok bytes → bytes ∈ packages)
    (hdelivery : TransportGatewaySimulatorV1.Delivery env state.gateway encoded retryCapability
      state.session result gateway session) :
    ∃ added, Sound env packages before (news ++ added) ⟨gateway, session⟩ := by
  cases hdelivery with
  | turnedAway hclosed => exact h.addNothing
  | unopened e hopened =>
    apply addNothing
    exact h.sameBooks rfl h.idle rfl rfl rfl fun _ _ ↦ id
  | replayed bytes prior hopened hprior =>
    apply addNothing
    exact h.sameBooks rfl h.idle rfl rfl rfl fun _ _ ↦ id
  | accepted bytes hopen hopened hprior hadmits hnew haccepted =>
    have hbytes := hpackages bytes hopened
    refine ⟨[bytes], h.recorded hopen hprior rfl rfl haccepted ?_ ?_ ?_ ?_ ?_⟩
    · simpa using hbytes
    · unfold TransportGatewaySimulatorV1.placedDigests TransportGatewaySimulatorV1.tookIn
      simp only [List.map_cons, List.map_nil, List.append_assoc]
      exact List.Perm.append_left _ List.perm_append_comm
    · show (saturatingSucc state.gateway.acceptedUniqueCount).toNat = _
      rw [toNat_saturatingSucc, h.counted, List.length_append, List.length_singleton]
      omega
    · intro digest hdigest
      rcases List.mem_append.mp hdigest with hold | hlast
      · exact .inl hold
      · right
        intro other hother hsame
        rw [List.mem_singleton.mp hlast] at hsame
        rwa [hdiffer other hother bytes hbytes hsame]
    · exact ⟨bytes, List.mem_append_right _ (List.mem_singleton.mpr rfl), rfl⟩
  | duplicate bytes hopen hopened hprior haccepted hpending =>
    have hmem : bytes ∈ news :=
      h.mem_of_placed hdiffer (hpackages bytes hopened) (List.mem_append_left _ hpending)
    refine ⟨[], h.recorded hopen hprior rfl rfl ?_ ?_ ?_ ?_ ?_ ?_⟩
    · rw [haccepted, List.append_nil]
    · simp
    · rw [List.map_nil, List.append_nil]
      exact List.Perm.refl _
    · rw [List.append_nil]
      exact h.counted
    · exact fun _ ↦ .inl
    · exact ⟨bytes, List.mem_append_left _ hmem, rfl⟩
  | rejected bytes retryStatus hopen hopened hprior hrefuses haccepted hpending =>
    have hbytes := hpackages bytes hopened
    refine ⟨[], h.recorded hopen hprior rfl rfl ?_ ?_ ?_ ?_ ?_ ?_⟩
    · rw [haccepted, List.append_nil]
    · simp
    · rw [List.map_nil, List.append_nil]
      exact List.Perm.refl _
    · rw [List.append_nil]
      exact h.counted
    · exact fun _ ↦ .inl
    · refine ⟨?_, bytes, hbytes, rfl, hrefuses.recorded bytes⟩
      intro hmem
      have hnews := h.mem_of_placed hdiffer hbytes (List.mem_append_left _ hmem)
      apply hpending _ hmem
      rw [h.accepted]
      exact List.mem_append_right _ hnews

/-- Sealing moves the pending digests into a batch. -/
theorem sealPendingBatch (h : Sound env packages before news state)
    (hdiffer : DigestsDiffer env packages) (floor : UInt64) (finalCloseBatch : Bool) :
    Sound env packages before news
      ⟨(state.gateway.sealPendingBatch env.prims.provider floor finalCloseBatch).2,
        state.session⟩ := by
  rcases state.gateway.sealPendingBatch_cases env.prims.provider floor finalCloseBatch with
    hsame | ⟨-, root, -, hsealed⟩
  · rw [hsame]
    exact h
  · have hnodup : state.gateway.pendingDigests.Nodup :=
      (List.nodup_append.mp (h.nodup_placedDigests hdiffer)).1
    rw [hsealed]
    refine ⟨h.replayed, h.idle, h.accepted, h.known, ?_, h.counted, ?_⟩
    · refine List.Perm.trans ?_ h.placed
      unfold TransportGatewaySimulatorV1.placedDigests
      simp only [List.flatMap_append, List.flatMap_singleton, List.nil_append]
      exact (List.Perm.append_left _ (perm_sortDedup hnodup)).trans List.perm_append_comm
    · intro commitment record hrecord
      apply (h.records commitment record hrecord).mono (fun _ ↦ id)
      · intro hmem
        cases hmem
      · exact fun _ ↦ id

/-- Closing the election leaves the books as they are. -/
theorem closed (h : Sound env packages before news state) {admission : TransportAdmissionGateV1}
    {session : GuiElectionSessionV1} (hidle : admission.admitted = 0)
    (hsession : session = state.session ∨ state.session.close = .ok session) :
    Sound env packages before news ⟨{ state.gateway with admission }, session⟩ := by
  rcases hsession with rfl | hclose
  · exact h.sameBooks rfl hidle rfl rfl rfl fun _ _ ↦ id
  · have hrefuses : ∀ bytes, state.session.Refuses env.prims bytes →
        session.Refuses env.prims bytes := fun bytes hbytes ↦ hbytes.close hclose
    obtain ⟨-, rfl⟩ := GuiElectionSessionV1.withLifecycle_transition hclose
    refine ⟨?_, hidle, h.accepted, h.known, h.placed, h.counted, ?_⟩
    · apply h.replayed.inState
      · decide
      · intro hfrozen
        cases hfrozen
    · intro commitment record hrecord
      exact (h.records commitment record hrecord).mono (fun _ ↦ id) .inl hrefuses

/-- One call. -/
theorem step (h : Sound env packages before news state) (hdiffer : DigestsDiffer env packages)
    (operation : GatewayOperation)
    (hpackages : ∀ bytes, deliveredPackage env operation = some bytes → bytes ∈ packages) :
    ∃ added, Sound env packages before (news ++ added) (state.step env operation) := by
  cases operation with
  | deliver encoded retryCapability =>
    have hdelivery := TransportGatewaySimulatorV1.deliverAndDigest_cases h.replayed h.idle encoded
      retryCapability
    apply h.deliver hdiffer _ hdelivery
    intro bytes hopened
    apply hpackages
    rw [deliveredPackage, hopened]
    rfl
  | sealBatch floor finalCloseBatch =>
    apply addNothing
    exact h.sealPendingBatch hdiffer floor finalCloseBatch
  | beginClose =>
    apply addNothing
    by_cases hopen : state.gateway.admission.state ≠ .opened
    · have hsame : state.step env .beginClose = state := by
        simp [GatewayState.step, TransportGatewaySimulatorV1.beginClose,
          TransportAdmissionGateV1.beginClose, hopen]
      rw [hsame]
      exact h
    · obtain ⟨hidle, hsession⟩ := TransportAdmissionGateV1.closeIfDrained_cases
        { state.gateway.admission with state := .closing } state.session
      have hstep : state.step env .beginClose = ⟨{ state.gateway with
          admission := (TransportAdmissionGateV1.closeIfDrained
            { state.gateway.admission with state := .closing } state.session).2.1 },
          (TransportAdmissionGateV1.closeIfDrained
            { state.gateway.admission with state := .closing } state.session).2.2⟩ := by
        simp only [GatewayState.step, TransportGatewaySimulatorV1.beginClose,
          TransportAdmissionGateV1.beginClose, if_neg hopen]
      rw [hstep]
      exact h.closed (hidle.trans h.idle) hsession
  | expireCloseDrain =>
    apply addNothing
    obtain ⟨hidle, hsession⟩ := TransportAdmissionGateV1.closeIfDrained_cases
      { state.gateway.admission with
        drainGeneration := state.gateway.admission.drainGeneration + 1
        admitted := 0 } state.session
    exact h.closed hidle hsession
  | beginRetryVerificationGrace =>
    apply addNothing
    show Sound env packages before news
      ⟨state.gateway.beginRetryVerificationGrace, state.session⟩
    unfold TransportGatewaySimulatorV1.beginRetryVerificationGrace
    split
    · exact h.sameBooks rfl h.idle rfl rfl rfl fun _ _ ↦ id
    · exact h
  | expireRetryRetention =>
    apply addNothing
    show Sound env packages before news ⟨state.gateway.expireRetryRetention, state.session⟩
    refine h.sameBooks rfl h.idle rfl rfl rfl ?_
    intro commitment record hrecord
    cases hrecord

/-- The books of a new gateway. -/
theorem start (env : GatewayEnvironment) (packages : List Bytes) {session : GuiElectionSessionV1}
    (hsession : GuiElectionSessionV1.IsReplayed env.prims session) :
    Sound env packages session.acceptedPackages [] ⟨.default, session⟩ := by
  refine ⟨hsession, rfl, ?_, ?_, ?_, rfl, ?_⟩
  · exact (List.append_nil _).symm
  · intro bytes hmem
    cases hmem
  · exact List.Perm.refl _
  · intro commitment record hrecord
    cases hrecord

/-- A whole run on a new gateway. -/
theorem run {session : GuiElectionSessionV1}
    (hsession : GuiElectionSessionV1.IsReplayed env.prims session)
    (hdiffer : DigestsDiffer env packages) (operations : List GatewayOperation)
    (hpackages : ∀ bytes ∈ operations.filterMap (deliveredPackage env), bytes ∈ packages) :
    ∃ news, Sound env packages session.acceptedPackages news
      (gatewayRun env session operations) := by
  induction operations using List.reverseRecOn with
  | nil => exact ⟨[], start env packages hsession⟩
  | append_singleton operations operation ih =>
    rw [List.filterMap_append] at hpackages
    obtain ⟨news, hsound⟩ := ih fun bytes hmem ↦ hpackages bytes (List.mem_append_left _ hmem)
    rw [gatewayRun_append_singleton]
    obtain ⟨added, hadded⟩ := hsound.step hdiffer operation (by
      intro bytes hbytes
      apply hpackages
      apply List.mem_append_right
      simp [hbytes])
    exact ⟨news ++ added, hadded⟩

end Sound

/-! ### Answers -/

/-- The gateway can tell that it accepted this package: its digest is pending and the capability
was not used for another package, or an acceptance of it is remembered under the capability. -/
def Recalls (env : GatewayEnvironment) (self : TransportGatewaySimulatorV1) (bytes : Bytes)
    (retryCapability : Bytes32) : Prop :=
  let digest := packageDigest env.prims.provider bytes
  let found := self.retries.lookup
    (TransportGatewaySimulatorV1.capabilityCommitment env retryCapability)
  (digest ∈ self.pendingDigests ∧ ∀ record, found = some record → record.packageDigest = digest) ∨
    ∃ record, found = some record ∧ record.packageDigest = digest ∧
      record.receipt.state = .accepted

theorem TransportGatewaySimulatorV1.state_priorReceipt (prior : RetryRecordV1) (digest : Bytes32) :
    (priorReceipt prior digest).state = .accepted ↔
      prior.packageDigest = digest ∧ prior.receipt.state = .accepted := by
  unfold priorReceipt
  by_cases hdigest : prior.packageDigest = digest
  · rw [if_neg (not_not.mpr hdigest)]
    simp only [hdigest, true_and]
  · rw [if_pos hdigest]
    simp only [hdigest, false_and, reduceCtorEq]

/-- A package that was accepted before changes nothing that counts acceptances. -/
theorem Sound.frame_of_mem (h : Sound env packages before news state) {encoded : Bytes}
    {retryCapability : Bytes32} {result : TransportResult (VoterTransportReceiptV1 × Bytes32)}
    {gateway : TransportGatewaySimulatorV1} {session : GuiElectionSessionV1}
    (hdelivery : TransportGatewaySimulatorV1.Delivery env state.gateway encoded retryCapability
      state.session result gateway session)
    {bytes : Bytes} (hopened : openedPackage env encoded = .ok bytes) (hmem : bytes ∈ news) :
    session.acceptedPackages = state.session.acceptedPackages ∧
      gateway.acceptedUniqueCount = state.gateway.acceptedUniqueCount ∧
      gateway.pendingDigests = state.gateway.pendingDigests ∧
      gateway.placedDigests = state.gateway.placedDigests := by
  cases hdelivery with
  | turnedAway hclosed => exact ⟨rfl, rfl, rfl, rfl⟩
  | unopened e hopened' => exact ⟨rfl, rfl, rfl, rfl⟩
  | replayed other prior hopened' hprior => exact ⟨rfl, rfl, rfl, rfl⟩
  | accepted other hopen hopened' hprior hadmits hnew haccepted =>
    cases hopened.symm.trans hopened'
    rw [h.accepted] at hnew
    exact absurd (List.mem_append_right _ hmem) hnew
  | duplicate other hopen hopened' hprior haccepted hpending =>
    refine ⟨haccepted, ?_, ?_, ?_⟩
    · exact TransportGatewaySimulatorV1.acceptedUniqueCount_rememberRetry _ _ _
    · exact TransportGatewaySimulatorV1.pendingDigests_rememberRetry _ _ _
    · exact TransportGatewaySimulatorV1.placedDigests_rememberRetry _ _ _
  | rejected other retryStatus hopen hopened' hprior hrefuses haccepted hpending =>
    refine ⟨haccepted, ?_, ?_, ?_⟩
    · exact TransportGatewaySimulatorV1.acceptedUniqueCount_rememberRetry _ _ _
    · exact TransportGatewaySimulatorV1.pendingDigests_rememberRetry _ _ _
    · exact TransportGatewaySimulatorV1.placedDigests_rememberRetry _ _ _

/-- A package that was accepted and is recalled is answered with an acceptance. -/
theorem Sound.state_of_recalls (h : Sound env packages before news state) {encoded : Bytes}
    {retryCapability : Bytes32} {receipt : VoterTransportReceiptV1} {digest : Bytes32}
    {gateway : TransportGatewaySimulatorV1} {session : GuiElectionSessionV1}
    (hdelivery : TransportGatewaySimulatorV1.Delivery env state.gateway encoded retryCapability
      state.session (.ok (receipt, digest)) gateway session)
    {bytes : Bytes} (hopened : openedPackage env encoded = .ok bytes) (hmem : bytes ∈ news)
    (hrecalls : Recalls env state.gateway bytes retryCapability) : receipt.state = .accepted := by
  cases hdelivery with
  | replayed other prior hopened' hprior =>
    cases hopened.symm.trans hopened'
    rw [TransportGatewaySimulatorV1.state_priorReceipt]
    rcases hrecalls with ⟨hpending, hsame⟩ | ⟨record, hrecord, hdigest, haccepted⟩
    · have hdigest := hsame prior hprior
      have hsound := h.records _ prior hprior
      unfold RecordSound at hsound
      refine ⟨hdigest, ?_⟩
      cases hstate : prior.receipt.state with
      | received => simp only [hstate] at hsound
      | accepted => rfl
      | rejected =>
        simp only [hstate] at hsound
        rw [hdigest] at hsound
        exact absurd hpending hsound.1
    · cases hprior.symm.trans hrecord
      exact ⟨hdigest, haccepted⟩
  | accepted other hopen hopened' hprior hadmits hnew haccepted => rfl
  | duplicate other hopen hopened' hprior haccepted hpending => rfl
  | rejected other retryStatus hopen hopened' hprior hrefuses haccepted hpending =>
    cases hopened.symm.trans hopened'
    rcases hrecalls with ⟨hmempending, -⟩ | ⟨record, hrecord, -, -⟩
    · have haccepted' : bytes ∈ state.session.acceptedPackages := by
        rw [h.accepted]
        exact List.mem_append_right _ hmem
      exact absurd hmempending (hpending haccepted')
    · cases hprior.symm.trans hrecord

/-- An acceptance is only answered for a package that was accepted, now or before. -/
theorem Sound.mem_of_state (h : Sound env packages before news state)
    (hdiffer : DigestsDiffer env packages) {encoded : Bytes} {retryCapability : Bytes32}
    {receipt : VoterTransportReceiptV1} {digest : Bytes32}
    {gateway : TransportGatewaySimulatorV1} {session : GuiElectionSessionV1}
    (hdelivery : TransportGatewaySimulatorV1.Delivery env state.gateway encoded retryCapability
      state.session (.ok (receipt, digest)) gateway session)
    {bytes : Bytes} (hopened : openedPackage env encoded = .ok bytes) (hbytes : bytes ∈ packages)
    {added : List Bytes} (hadded : session.acceptedPackages = before ++ (news ++ added))
    (hstate : receipt.state = .accepted) : bytes ∈ news ++ added := by
  cases hdelivery with
  | replayed other prior hopened' hprior =>
    cases hopened.symm.trans hopened'
    obtain ⟨hdigest, haccepted⟩ :=
      (TransportGatewaySimulatorV1.state_priorReceipt _ _).mp hstate
    have hsound := h.records _ prior hprior
    simp only [RecordSound, haccepted] at hsound
    obtain ⟨recorded, hrecorded, hsame⟩ := hsound
    have heq := hdiffer recorded (h.known recorded hrecorded) bytes hbytes (hsame.trans hdigest)
    subst heq
    exact List.mem_append_left _ hrecorded
  | accepted other hopen hopened' hprior hadmits hnew haccepted =>
    cases hopened.symm.trans hopened'
    rw [hadded, h.accepted, List.append_assoc] at haccepted
    rw [List.append_cancel_left haccepted]
    exact List.mem_append_right _ (List.mem_singleton.mpr rfl)
  | duplicate other hopen hopened' hprior haccepted hpending =>
    cases hopened.symm.trans hopened'
    exact List.mem_append_left _
      (h.mem_of_placed hdiffer hbytes (List.mem_append_left _ hpending))
  | rejected other retryStatus hopen hopened' hprior hrefuses haccepted hpending => cases hstate

/-- The packages that the session accepted in a run. -/
def acceptedIn (env : GatewayEnvironment) (session : GuiElectionSessionV1)
    (operations : List GatewayOperation) : List Bytes :=
  (gatewayRun env session operations).session.acceptedPackages.drop
    session.acceptedPackages.length

theorem Sound.acceptedIn_eq {session : GuiElectionSessionV1} {operations : List GatewayOperation}
    (h : Sound env packages session.acceptedPackages news (gatewayRun env session operations)) :
    acceptedIn env session operations = news := by
  rw [acceptedIn, h.accepted]
  exact List.drop_left

/-- Acceptance over whole runs: every accepted package is counted once and its digest is in one
place; a later delivery of it changes no book and is answered with an acceptance when the gateway
can recall it; and no other package is answered with one. -/
theorem retrySafe_gatewayRun (laws : TriptychBatchLaws env.prims.crate)
    {session : GuiElectionSessionV1}
    (hsession : GuiElectionSessionV1.Reachable env.prims session)
    (operations : List GatewayOperation)
    (hdiffer : DigestsDiffer env (operations.filterMap (deliveredPackage env))) :
    (acceptedIn env session operations).Nodup ∧
    (gatewayRun env session operations).gateway.acceptedUniqueCount.toNat =
      min (acceptedIn env session operations).length (2 ^ 64 - 1) ∧
    (gatewayRun env session operations).gateway.placedDigests.Perm
      ((acceptedIn env session operations).map (packageDigest env.prims.provider)) ∧
    (gatewayRun env session operations).gateway.placedDigests.Nodup ∧
    ∀ past encoded retryCapability later,
      operations = past ++ .deliver encoded retryCapability :: later →
      ∀ receipt digest, ((gatewayRun env session past).gateway.deliverAndDigest env encoded
        retryCapability (gatewayRun env session past).session).1 = .ok (receipt, digest) →
      ∃ bytes, openedPackage env encoded = .ok bytes ∧
        (bytes ∈ acceptedIn env session past →
          (acceptedIn env session (past ++ [.deliver encoded retryCapability]) =
              acceptedIn env session past ∧
            (gatewayRun env session
                (past ++ [.deliver encoded retryCapability])).gateway.acceptedUniqueCount =
              (gatewayRun env session past).gateway.acceptedUniqueCount ∧
            (gatewayRun env session
                (past ++ [.deliver encoded retryCapability])).gateway.pendingDigests =
              (gatewayRun env session past).gateway.pendingDigests ∧
            (gatewayRun env session
                (past ++ [.deliver encoded retryCapability])).gateway.placedDigests =
              (gatewayRun env session past).gateway.placedDigests) ∧
          (Recalls env (gatewayRun env session past).gateway bytes retryCapability →
            receipt.state = .accepted)) ∧
        (receipt.state = .accepted →
          bytes ∈ acceptedIn env session (past ++ [.deliver encoded retryCapability])) := by
  have hreplayed := hsession.isReplayed laws
  obtain ⟨news, hsound⟩ := Sound.run hreplayed hdiffer operations fun _ ↦ id
  rw [hsound.acceptedIn_eq]
  refine ⟨hsound.nodup, hsound.counted, hsound.placed, hsound.nodup_placedDigests hdiffer, ?_⟩
  intro past encoded retryCapability later hoperations receipt digest hreceipt
  have hpackages : ∀ bytes ∈ past.filterMap (deliveredPackage env),
      bytes ∈ operations.filterMap (deliveredPackage env) := by
    intro bytes hmem
    rw [hoperations, List.filterMap_append]
    exact List.mem_append_left _ hmem
  obtain ⟨earlier, hearlier⟩ := Sound.run hreplayed hdiffer past hpackages
  have hdelivery := TransportGatewaySimulatorV1.deliverAndDigest_cases hearlier.replayed
    hearlier.idle encoded retryCapability
  rw [hreceipt] at hdelivery
  obtain ⟨bytes, hopened⟩ := hdelivery.exists_openedPackage
  have hbytes : bytes ∈ operations.filterMap (deliveredPackage env) := by
    rw [hoperations, List.filterMap_append]
    apply List.mem_append_right
    rw [List.mem_filterMap]
    refine ⟨_, List.mem_cons_self, ?_⟩
    rw [deliveredPackage, hopened]
    rfl
  obtain ⟨added, hadded⟩ := hearlier.step hdiffer (.deliver encoded retryCapability) (by
    intro other hother
    rw [deliveredPackage, hopened] at hother
    cases hother
    exact hbytes)
  have hafter := hadded
  rw [← gatewayRun_append_singleton] at hafter
  rw [hearlier.acceptedIn_eq, hafter.acceptedIn_eq]
  refine ⟨bytes, hopened, ?_, ?_⟩
  · intro hmem
    obtain ⟨haccepted, hcount, hpending, hplaced⟩ := hearlier.frame_of_mem hdelivery hopened hmem
    rw [gatewayRun_append_singleton]
    refine ⟨⟨?_, hcount, hpending, hplaced⟩, hearlier.state_of_recalls hdelivery hopened hmem⟩
    exact List.append_cancel_left
      (hadded.accepted.symm.trans (haccepted.trans hearlier.accepted))
  · exact hearlier.mem_of_state hdiffer hdelivery hopened hbytes hadded.accepted

namespace Sample

/-- Two ballots of different credentials, and the voters' capabilities. -/
def first : Bytes := Verifier.Sample.package 1 9 [1]
def second : Bytes := Verifier.Sample.package 2 8 [1]
def capability (b : UInt8) : Bytes32 := Bytes32.replicate b

end Sample

/-- A voter who lost the receipt retries before the batch is sealed under another capability, and
after it under the same one. -/
theorem retrySafe_gatewayRun_sample :
    let operations : List GatewayOperation :=
      [.deliver (Sample.envelope Sample.first) (Sample.capability 1),
        .deliver (Sample.envelope Sample.first) (Sample.capability 2), .sealBatch 1 true,
        .deliver (Sample.envelope Sample.first) (Sample.capability 1)]
    acceptedIn Sample.env Sample.session operations = [Sample.first] ∧
      (gatewayRun Sample.env Sample.session operations).gateway.acceptedUniqueCount.toNat = 1 := by
  intro operations
  obtain ⟨haccepted, hdiffer⟩ :
      acceptedIn Sample.env Sample.session operations = [Sample.first] ∧
        DigestsDiffer Sample.env (operations.filterMap (deliveredPackage Sample.env)) := by
    decide +kernel
  obtain ⟨-, hcount, -⟩ := retrySafe_gatewayRun (triptychBatchLaws_idealCrate _)
    Sample.reachable_session operations hdiffer
  rw [haccepted] at hcount
  exact ⟨haccepted, hcount⟩

/-- A package that was accepted is answered with a rejection once it is sealed and the capability
is a fresh one, and when the capability was used for another package. -/
theorem not_retrySafe_gatewayRun :
    (let past : List GatewayOperation :=
        [.deliver (Sample.envelope Sample.first) (Sample.capability 1), .sealBatch 1 true]
      let state := gatewayRun Sample.env Sample.session past
      Sample.first ∈ acceptedIn Sample.env Sample.session past ∧
        (state.gateway.deliver Sample.env (Sample.envelope Sample.first) (Sample.capability 2)
          state.session).1.toOption = some ⟨.rejected, .genericDuplicate⟩) ∧
    (let past : List GatewayOperation :=
        [.deliver (Sample.envelope Sample.first) (Sample.capability 1),
          .deliver (Sample.envelope Sample.second) (Sample.capability 2)]
      let state := gatewayRun Sample.env Sample.session past
      DigestsDiffer Sample.env [Sample.first, Sample.second] ∧
        Sample.first ∈ acceptedIn Sample.env Sample.session past ∧
        (state.gateway.deliver Sample.env (Sample.envelope Sample.first) (Sample.capability 2)
          state.session).1.toOption = some ⟨.rejected, .genericDuplicate⟩) := by
  decide +kernel

end PrivateBallot.TransportGateway
