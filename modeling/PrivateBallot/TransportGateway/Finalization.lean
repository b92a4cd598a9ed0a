import PrivateBallot.TransportGateway.Collector

/-!
# Finalized transport bindings

Library `TransportGateway`. `crates/transport-gateway/src/service_loop.rs:330-343` and
`crates/transport-gateway/src/lib.rs:1327-1360`: the binding that the running collector returns
against the one that is rebuilt from the accepted packages alone.
-/

namespace PrivateBallot.TransportGateway

open PrivateBallot.Base PrivateBallot.Protocol PrivateBallot.Ballot PrivateBallot.Archive
open PrivateBallot.Crypto PrivateBallot.GuiCore

/-- A call on the running collector. -/
inductive CollectorOperation where
  | handle (request : CollectorRequest)
  | finalize
deriving DecidableEq

section Run

variable (env : CollectorEnvironment)

/-- `finalize_transport_archive_binding` -/
def finalizeTransportArchiveBinding (gateway : TransportGatewaySimulatorV1) :
    TransportResult (Option TransportArchiveBindingV1) × TransportGatewaySimulatorV1 :=
  let (_, gateway) := gateway.sealPendingBatch env.prims.provider
    env.descriptor.batch.acceptedUniqueFloor true
  (gateway.transportArchiveBinding env.prims.provider env.descriptor, gateway)

/-- The state a call leaves. -/
def CollectorState.perform (state : CollectorState) : CollectorOperation → CollectorState
  | .handle request => (state.handleOpaqueEnvelope env request).2
  | .finalize =>
    { state with gateway := (finalizeTransportArchiveBinding env state.gateway).2 }

/-- The state after a sequence of calls. -/
def collectorOperations (start : CollectorState) (operations : List CollectorOperation) :
    CollectorState :=
  operations.foldl (CollectorState.perform env) start

/-- The packages that the session accepted in a run of the collector. -/
def acceptedBy (start : CollectorState) (operations : List CollectorOperation) : List Bytes :=
  (collectorOperations env start operations).session.acceptedPackages.drop
    start.session.acceptedPackages.length

/-- The package of an envelope that can be opened. -/
def handledPackage : CollectorOperation → Option Bytes
  | .handle request => (openedPackage env.toGatewayEnvironment request.envelope).toOption
  | .finalize => none

end Run

variable {env : CollectorEnvironment}

theorem collectorOperations_append_singleton (start : CollectorState)
    (operations : List CollectorOperation) (operation : CollectorOperation) :
    collectorOperations env start (operations ++ [operation]) =
      (collectorOperations env start operations).perform env operation := by
  simp only [collectorOperations, List.foldl_append, List.foldl_cons, List.foldl_nil]

/-! ### One batch -/

/-- The batch that a first and final seal makes of these digests. -/
def wholeBatch (provider : HashProvider) (floor : UInt64) (digests : List Bytes32) :
    Option SealedTransportBatchV1 :=
  (batchRoot provider (sortDedup digests)).map fun root ↦
    ⟨0, root, UInt64.ofNat (sortDedup digests).length,
      decide ((sortDedup digests).length < floor.toNat), sortDedup digests⟩

/-- It depends on the set of digests. -/
theorem wholeBatch_congr {provider : HashProvider} {floor : UInt64} {xs ys : List Bytes32}
    (h : ∀ digest, digest ∈ xs ↔ digest ∈ ys) :
    wholeBatch provider floor xs = wholeBatch provider floor ys := by
  rw [wholeBatch, wholeBatch, sortDedup_congr h]

/-- A final batch leaves nothing pending. -/
theorem pendingDigests_finalBatch (self : TransportGatewaySimulatorV1) (provider : HashProvider)
    (floor : UInt64) : (self.sealPendingBatch provider floor true).2.pendingDigests = [] := by
  unfold TransportGatewaySimulatorV1.sealPendingBatch
  by_cases hpending : self.pendingDigests = []
  · rw [if_pos (.inl hpending)]
    exact hpending
  · have hseal : ¬ (self.pendingDigests = [] ∨
        (true = false ∧ self.pendingDigests.length < floor.toNat)) := by simp [hpending]
    rw [if_neg hseal]
    cases hroot : batchRoot provider (sortDedup self.pendingDigests) with
    | none => simp only [hroot]
    | some root => simp only [hroot]

/-- With nothing pending nothing is sealed. -/
theorem sealPendingBatch_of_pending_nil {self : TransportGatewaySimulatorV1}
    (hpending : self.pendingDigests = []) (provider : HashProvider) (floor : UInt64)
    (finalCloseBatch : Bool) :
    self.sealPendingBatch provider floor finalCloseBatch = (none, self) := by
  unfold TransportGatewaySimulatorV1.sealPendingBatch
  rw [if_pos (.inl hpending)]

/-- A gateway that has sealed nothing seals all it has. -/
theorem sealPendingBatch_of_unsealed {self : TransportGatewaySimulatorV1}
    (hsealed : self.sealedBatches = []) (hnext : self.nextBatchId = 0)
    (hpending : self.pendingDigests ≠ []) (provider : HashProvider) (floor : UInt64) :
    (self.sealPendingBatch provider floor true).2.sealedBatches.map some =
      [wholeBatch provider floor self.pendingDigests] := by
  rcases self.sealPendingBatch_cases provider floor true with hsame | ⟨-, root, hroot, hcases⟩
  · have hempty := pendingDigests_finalBatch self provider floor
    rw [hsame] at hempty
    exact absurd hempty hpending
  · rw [hcases]
    simp only [wholeBatch, hroot, hsealed, hnext, List.nil_append, List.map_cons, List.map_nil,
      Option.map_some]

/-- A binding is made of the batches. -/
theorem transportArchiveBinding_congr {provider : HashProvider}
    {a b : TransportGatewaySimulatorV1} {descriptor : TransportDescriptorV1}
    (h : a.sealedBatches = b.sealedBatches) :
    a.transportArchiveBinding provider descriptor =
      b.transportArchiveBinding provider descriptor := by
  unfold TransportGatewaySimulatorV1.transportArchiveBinding
  rw [h]

theorem sealedBatches_ext {a b : TransportGatewaySimulatorV1}
    {batch : Option SealedTransportBatchV1} (ha : a.sealedBatches.map some = [batch])
    (hb : b.sealedBatches.map some = [batch]) : a.sealedBatches = b.sealedBatches :=
  List.map_injective_iff.mpr (Option.some_injective _) (ha.trans hb.symm)

/-- The rebuilt binding is that of one batch with all digests. -/
theorem recovered_eq {provider : HashProvider} {descriptor : TransportDescriptorV1}
    {digests : List Bytes32} (hne : digests ≠ []) (hlen : digests.length ≤ maxDurablePending) :
    ∃ gateway : TransportGatewaySimulatorV1,
      gateway.sealedBatches.map some =
          [wholeBatch provider descriptor.batch.acceptedUniqueFloor digests] ∧
        finalizedTransportArchiveBindingFromAcceptedDigestsV1 provider descriptor digests =
          gateway.transportArchiveBinding provider descriptor := by
  let seeded := TransportGatewaySimulatorV1.default.seedPendingDigestsForRecovery digests
  have hpending : seeded.pendingDigests ≠ [] := hne
  have hsealed := sealPendingBatch_of_unsealed rfl rfl hpending provider
    descriptor.batch.acceptedUniqueFloor
  refine ⟨_, hsealed, ?_⟩
  rw [finalizedTransportArchiveBindingFromAcceptedDigestsV1, if_neg hne,
    if_neg (Nat.not_lt.mpr hlen)]

/-- Too many digests are refused. -/
theorem recovered_of_lt {provider : HashProvider} {descriptor : TransportDescriptorV1}
    {digests : List Bytes32} (h : maxDurablePending < digests.length) :
    finalizedTransportArchiveBindingFromAcceptedDigestsV1 provider descriptor digests =
      .error .unavailable := by
  have hne : digests ≠ [] := List.ne_nil_of_length_pos (Nat.zero_lt_of_lt h)
  rw [finalizedTransportArchiveBindingFromAcceptedDigestsV1, if_neg hne, if_pos h]

/-- It depends on the set of digests while there are not too many. -/
theorem recovered_congr {provider : HashProvider} {descriptor : TransportDescriptorV1}
    {xs ys : List Bytes32} (h : ∀ digest, digest ∈ xs ↔ digest ∈ ys)
    (hxs : xs.length ≤ maxDurablePending) (hys : ys.length ≤ maxDurablePending) :
    finalizedTransportArchiveBindingFromAcceptedDigestsV1 provider descriptor xs =
      finalizedTransportArchiveBindingFromAcceptedDigestsV1 provider descriptor ys := by
  by_cases hempty : xs = []
  · have hys' : ys = [] := by
      rw [List.eq_nil_iff_forall_not_mem]
      intro digest hmem
      rw [← h, hempty] at hmem
      cases hmem
    rw [hempty, hys']
  · have hys' : ys ≠ [] := by
      obtain ⟨digest, hmem⟩ := List.exists_mem_of_ne_nil xs hempty
      exact List.ne_nil_of_mem ((h digest).mp hmem)
    obtain ⟨first, hfirst, hrecovered⟩ := recovered_eq hempty hxs
    obtain ⟨second, hsecond, hrecovered'⟩ := recovered_eq hys' hys
    rw [hrecovered, hrecovered']
    rw [wholeBatch_congr h] at hfirst
    exact transportArchiveBinding_congr (sealedBatches_ext hfirst hsecond)

/-! ### Runs of the collector -/

section Runs

variable {packages before news : List Bytes} {state : CollectorState}

/-- A request leaves gateway and session, or it is a delivery. -/
theorem handle_eq_step (env : CollectorEnvironment) (state : CollectorState)
    (request : CollectorRequest) :
    (⟨(state.handleOpaqueEnvelope env request).2.gateway,
        (state.handleOpaqueEnvelope env request).2.session⟩ : GatewayState) =
        ⟨state.gateway, state.session⟩ ∨
      (⟨(state.handleOpaqueEnvelope env request).2.gateway,
        (state.handleOpaqueEnvelope env request).2.session⟩ : GatewayState) =
        GatewayState.step env.toGatewayEnvironment ⟨state.gateway, state.session⟩
          (.deliver request.envelope request.retryCapability) := by
  cases hdelivery : request.delivery env state with
  | mk result next =>
    obtain ⟨gateway, session⟩ := next
    cases result with
    | error e =>
      left
      obtain ⟨rejection, hhandle⟩ := handle_of_delivery_error (congrArg Prod.fst hdelivery)
      rw [hhandle]
    | ok answer =>
      obtain ⟨voterReceipt, digest⟩ := answer
      cases hhand : (request.handOff env state voterReceipt session).1 with
      | error rejection =>
        left
        rw [handle_of_handOff_error hdelivery hhand]
      | ok u =>
        right
        rw [handle_of_handOff_ok hdelivery hhand]
        have hstep : state.gateway.deliverAndDigest env.toGatewayEnvironment request.envelope
            request.retryCapability state.session = _ := hdelivery
        simp only [GatewayState.step, hstep]

/-- The books after a call. -/
theorem Sound.perform
    (h : Sound env.toGatewayEnvironment packages before news ⟨state.gateway, state.session⟩)
    (hdiffer : DigestsDiffer env.toGatewayEnvironment packages) (operation : CollectorOperation)
    (hpackages : ∀ bytes, handledPackage env operation = some bytes → bytes ∈ packages) :
    ∃ added, Sound env.toGatewayEnvironment packages before (news ++ added)
      ⟨(state.perform env operation).gateway, (state.perform env operation).session⟩ := by
  cases operation with
  | handle request =>
    rcases handle_eq_step env state request with hsame | hstep
    · unfold CollectorState.perform
      rw [hsame]
      exact h.addNothing
    · unfold CollectorState.perform
      rw [hstep]
      exact h.step hdiffer _ hpackages
  | finalize =>
    apply addNothing
    exact h.sealPendingBatch hdiffer _ true

/-- The books of a run. -/
theorem Sound.operations (start : CollectorState)
    (hstart : Sound env.toGatewayEnvironment packages start.session.acceptedPackages []
      ⟨start.gateway, start.session⟩)
    (hdiffer : DigestsDiffer env.toGatewayEnvironment packages)
    (operations : List CollectorOperation)
    (hpackages : ∀ bytes ∈ operations.filterMap (handledPackage env), bytes ∈ packages) :
    Sound env.toGatewayEnvironment packages start.session.acceptedPackages
      (acceptedBy env start operations)
      ⟨(collectorOperations env start operations).gateway,
        (collectorOperations env start operations).session⟩ := by
  obtain ⟨news, hnews⟩ : ∃ news, Sound env.toGatewayEnvironment packages
      start.session.acceptedPackages news ⟨(collectorOperations env start operations).gateway,
        (collectorOperations env start operations).session⟩ := by
    induction operations using List.reverseRecOn with
    | nil => exact ⟨[], hstart⟩
    | append_singleton operations operation ih =>
      rw [List.filterMap_append] at hpackages
      obtain ⟨news, hsound⟩ := ih fun bytes hmem ↦ hpackages bytes (List.mem_append_left _ hmem)
      rw [collectorOperations_append_singleton]
      obtain ⟨added, hadded⟩ := hsound.perform hdiffer operation (by
        intro bytes hbytes
        apply hpackages
        apply List.mem_append_right
        simp [hbytes])
      exact ⟨news ++ added, hadded⟩
  have haccepted : acceptedBy env start operations = news := by
    rw [acceptedBy, hnews.accepted]
    exact List.drop_left
  rw [haccepted]
  exact hnews

/-- Nothing accepted is lost. -/
theorem acceptedBy_prefix {start : CollectorState}
    (hstart : Sound env.toGatewayEnvironment packages start.session.acceptedPackages []
      ⟨start.gateway, start.session⟩)
    (hdiffer : DigestsDiffer env.toGatewayEnvironment packages)
    (operations more : List CollectorOperation)
    (hpackages : ∀ bytes ∈ (operations ++ more).filterMap (handledPackage env),
      bytes ∈ packages) :
    acceptedBy env start operations <+: acceptedBy env start (operations ++ more) := by
  induction more using List.reverseRecOn with
  | nil => rw [List.append_nil]
  | append_singleton more operation ih =>
    rw [← List.append_assoc] at hpackages ⊢
    have hpast : ∀ bytes ∈ (operations ++ more).filterMap (handledPackage env),
        bytes ∈ packages := by
      intro bytes hmem
      apply hpackages
      rw [List.filterMap_append]
      exact List.mem_append_left _ hmem
    have hsound := Sound.operations _ hstart hdiffer _ hpast
    obtain ⟨added, hadded⟩ := hsound.perform hdiffer operation (by
      intro bytes hbytes
      apply hpackages
      rw [List.filterMap_append]
      apply List.mem_append_right
      simp [hbytes])
    have hlater := Sound.operations _ hstart hdiffer _ hpackages
    rw [← collectorOperations_append_singleton] at hadded
    have hsame := List.append_cancel_left (hlater.accepted.symm.trans hadded.accepted)
    rw [hsame]
    exact (ih hpast).trans (List.prefix_append _ _)

/-- Nothing is accepted after a finalization that had something to seal. -/
def Quiet (env : CollectorEnvironment) (start : CollectorState)
    (operations : List CollectorOperation) : Prop :=
  ∀ earlier later, operations = earlier ++ CollectorOperation.finalize :: later →
    acceptedBy env start earlier ≠ [] →
      acceptedBy env start operations = acceptedBy env start earlier

/-- A run is quiet when it is so at each of its finalizations. -/
theorem quiet_of_take {start : CollectorState} {operations : List CollectorOperation}
    (h : ∀ n < operations.length, operations[n]? = some .finalize →
      acceptedBy env start (operations.take n) ≠ [] →
        acceptedBy env start operations = acceptedBy env start (operations.take n)) :
    Quiet env start operations := by
  intro earlier later hoperations hne
  have htake : operations.take earlier.length = earlier := by
    rw [hoperations]
    exact List.take_left
  have hlen : earlier.length < operations.length := by
    rw [hoperations, List.length_append, List.length_cons]
    omega
  have hget : operations[earlier.length]? = some .finalize := by
    rw [hoperations]
    simp
  have hsame := h earlier.length hlen hget
  rw [htake] at hsame
  exact hsame hne

theorem Quiet.of_append {start : CollectorState}
    (hstart : Sound env.toGatewayEnvironment packages start.session.acceptedPackages []
      ⟨start.gateway, start.session⟩)
    (hdiffer : DigestsDiffer env.toGatewayEnvironment packages)
    {operations more : List CollectorOperation}
    (hpackages : ∀ bytes ∈ (operations ++ more).filterMap (handledPackage env), bytes ∈ packages)
    (h : Quiet env start (operations ++ more)) : Quiet env start operations := by
  intro earlier later hoperations hne
  have hwhole : operations ++ more = earlier ++ CollectorOperation.finalize :: (later ++ more) := by
    rw [hoperations, List.append_assoc, List.cons_append]
  have hsame := h earlier (later ++ more) hwhole hne
  have hlast := acceptedBy_prefix hstart hdiffer operations more hpackages
  have hfirst : acceptedBy env start earlier <+: acceptedBy env start operations := by
    rw [hoperations]
    apply acceptedBy_prefix hstart hdiffer
    intro bytes hmem
    apply hpackages
    rw [← hoperations] at hmem
    rw [List.filterMap_append]
    exact List.mem_append_left _ hmem
  apply (hfirst.eq_of_length _).symm
  have hle := hfirst.length_le
  have hle' := hlast.length_le
  rw [hsame] at hle'
  omega

/-- Nothing sealed yet, or one batch that holds everything. -/
def OneBatch (env : CollectorEnvironment) (start : CollectorState)
    (operations : List CollectorOperation) : Prop :=
  let gateway := (collectorOperations env start operations).gateway
  (gateway.sealedBatches = [] ∧ gateway.nextBatchId = 0) ∨
  (gateway.pendingDigests = [] ∧
    gateway.sealedBatches.map some = [wholeBatch env.prims.provider
      env.descriptor.batch.acceptedUniqueFloor
      ((acceptedBy env start operations).map (packageDigest env.prims.provider))] ∧
    ∃ earlier later, operations = earlier ++ CollectorOperation.finalize :: later ∧
      acceptedBy env start earlier ≠ [])

/-- A request seals nothing. -/
theorem sealedBatches_handle
    (h : Sound env.toGatewayEnvironment packages before news ⟨state.gateway, state.session⟩)
    (request : CollectorRequest) :
    (state.handleOpaqueEnvelope env request).2.gateway.sealedBatches =
        state.gateway.sealedBatches ∧
      (state.handleOpaqueEnvelope env request).2.gateway.nextBatchId =
        state.gateway.nextBatchId := by
  rcases handle_eq_step env state request with hsame | hstep
  · have hgateway := congrArg GatewayState.gateway hsame
    dsimp only at hgateway
    rw [hgateway]
    exact ⟨rfl, rfl⟩
  · have hgateway := congrArg GatewayState.gateway hstep
    dsimp only at hgateway
    rw [hgateway]
    have hcases := TransportGatewaySimulatorV1.deliverAndDigest_cases h.replayed h.idle
      request.envelope request.retryCapability
    exact hcases.sealedBatches_eq

/-- A finalization accepts nothing. -/
theorem acceptedBy_finalize (start : CollectorState) (operations : List CollectorOperation) :
    acceptedBy env start (operations ++ [CollectorOperation.finalize]) =
      acceptedBy env start operations := by
  unfold acceptedBy
  rw [collectorOperations_append_singleton]
  rfl

/-- The batch stays the only one while nothing more is accepted. -/
theorem OneBatch.handle {start : CollectorState} {operations : List CollectorOperation}
    {request : CollectorRequest}
    (hsound : Sound env.toGatewayEnvironment packages before (acceptedBy env start operations)
      ⟨(collectorOperations env start operations).gateway,
        (collectorOperations env start operations).session⟩)
    (hlater : Sound env.toGatewayEnvironment packages before
      (acceptedBy env start (operations ++ [CollectorOperation.handle request]))
      ⟨(collectorOperations env start
          (operations ++ [CollectorOperation.handle request])).gateway,
        (collectorOperations env start
          (operations ++ [CollectorOperation.handle request])).session⟩)
    (hquiet : Quiet env start operations)
    (hquiet' : Quiet env start (operations ++ [CollectorOperation.handle request]))
    (h : OneBatch env start operations) :
    OneBatch env start (operations ++ [CollectorOperation.handle request]) := by
  obtain ⟨hsealed, hnext⟩ := sealedBatches_handle hsound request
  have hplaced := hlater.placed
  unfold OneBatch
  rw [collectorOperations_append_singleton] at hplaced ⊢
  rcases h with ⟨hempty, hzero⟩ | ⟨hpending, hwhole, earlier, later, hoperations, hne⟩
  · left
    exact ⟨hsealed.trans hempty, hnext.trans hzero⟩
  · right
    have hoperations' : operations ++ [CollectorOperation.handle request] =
        earlier ++ CollectorOperation.finalize ::
          (later ++ [CollectorOperation.handle request]) := by
      rw [hoperations, List.append_assoc, List.cons_append]
    have hsame : acceptedBy env start (operations ++ [CollectorOperation.handle request]) =
        acceptedBy env start operations :=
      (hquiet' _ _ hoperations' hne).trans (hquiet _ _ hoperations hne).symm
    refine ⟨?_, ?_, earlier, later ++ [CollectorOperation.handle request], hoperations', hne⟩
    · -- As many digests are sealed as packages were accepted.
      have hbefore := hsound.placed.length_eq
      have hafter := hplaced.length_eq
      rw [hsame, ← hbefore] at hafter
      simp only [TransportGatewaySimulatorV1.placedDigests, List.length_append, hpending,
        List.length_nil] at hafter
      rw [show ((collectorOperations env start operations).perform env
        (.handle request)).gateway.sealedBatches = _ from hsealed] at hafter
      apply List.eq_nil_of_length_eq_zero
      omega
    · rw [hsame, ← hwhole]
      exact congrArg (List.map some) hsealed

/-- The first finalization that finds something pending seals it all. -/
theorem OneBatch.finalize {start : CollectorState} {operations : List CollectorOperation}
    (hsound : Sound env.toGatewayEnvironment packages before (acceptedBy env start operations)
      ⟨(collectorOperations env start operations).gateway,
        (collectorOperations env start operations).session⟩)
    (h : OneBatch env start operations) :
    OneBatch env start (operations ++ [CollectorOperation.finalize]) := by
  have hgateway :
      (collectorOperations env start (operations ++ [CollectorOperation.finalize])).gateway =
      ((collectorOperations env start operations).gateway.sealPendingBatch env.prims.provider
        env.descriptor.batch.acceptedUniqueFloor true).2 := by
    rw [collectorOperations_append_singleton]
    rfl
  unfold OneBatch
  rw [hgateway, acceptedBy_finalize]
  by_cases hpending : (collectorOperations env start operations).gateway.pendingDigests = []
  · rw [sealPendingBatch_of_pending_nil hpending]
    rcases h with hunsealed | ⟨-, hwhole, earlier, later, hoperations, hne⟩
    · exact .inl hunsealed
    · right
      refine ⟨hpending, hwhole, earlier, later ++ [CollectorOperation.finalize], ?_, hne⟩
      rw [hoperations, List.append_assoc, List.cons_append]
  · rcases h with ⟨hempty, hzero⟩ | ⟨hnone, -⟩
    · right
      have hplaced := hsound.placed
      simp only [TransportGatewaySimulatorV1.placedDigests, hempty, List.flatMap_nil,
        List.append_nil] at hplaced
      refine ⟨pendingDigests_finalBatch _ _ _, ?_, operations, [], rfl, ?_⟩
      · rw [sealPendingBatch_of_unsealed hempty hzero hpending, wholeBatch_congr]
        intro digest
        exact hplaced.mem_iff
      · intro hnothing
        rw [hnothing] at hplaced
        exact hpending hplaced.eq_nil
    · exact absurd hnone hpending

/-- A run in which nothing is accepted after a seal has one batch. -/
theorem oneBatch_of_quiet {session : GuiElectionSessionV1} {inbox : PrivateIntakeInbox}
    (hstart : Sound env.toGatewayEnvironment packages session.acceptedPackages []
      ⟨.default, session⟩)
    (hdiffer : DigestsDiffer env.toGatewayEnvironment packages)
    (operations : List CollectorOperation)
    (hpackages : ∀ bytes ∈ operations.filterMap (handledPackage env), bytes ∈ packages)
    (hquiet : Quiet env ⟨.default, session, inbox⟩ operations) :
    OneBatch env ⟨.default, session, inbox⟩ operations := by
  induction operations using List.reverseRecOn with
  | nil => exact .inl ⟨rfl, rfl⟩
  | append_singleton operations operation ih =>
    have hpast : ∀ bytes ∈ operations.filterMap (handledPackage env), bytes ∈ packages := by
      intro bytes hmem
      apply hpackages
      rw [List.filterMap_append]
      exact List.mem_append_left _ hmem
    have hearlier : Quiet env ⟨.default, session, inbox⟩ operations :=
      Quiet.of_append hstart hdiffer hpackages hquiet
    have hsound := Sound.operations ⟨.default, session, inbox⟩ hstart hdiffer _ hpast
    cases operation with
    | handle request =>
      have hlater := Sound.operations ⟨.default, session, inbox⟩ hstart hdiffer _ hpackages
      exact (ih hpast hearlier).handle hsound hlater hearlier hquiet
    | finalize => exact (ih hpast hearlier).finalize hsound

/-- The binding that a finalization returns after a run with one batch. -/
theorem OneBatch.binding_eq {start : CollectorState} {past : List CollectorOperation}
    (hsound : Sound env.toGatewayEnvironment packages before
      (acceptedBy env start (past ++ [CollectorOperation.finalize]))
      ⟨(collectorOperations env start (past ++ [CollectorOperation.finalize])).gateway,
        (collectorOperations env start (past ++ [CollectorOperation.finalize])).session⟩)
    (h : OneBatch env start (past ++ [CollectorOperation.finalize])) {enumeration : List Bytes32}
    (henumeration : ∀ digest, digest ∈ enumeration ↔
      digest ∈ (acceptedBy env start past).map (packageDigest env.prims.provider))
    (hlen : enumeration.length ≤ maxDurablePending) :
    (finalizeTransportArchiveBinding env (collectorOperations env start past).gateway).1 =
      finalizedTransportArchiveBindingFromAcceptedDigestsV1 env.prims.provider env.descriptor
        enumeration := by
  have hgateway : (collectorOperations env start (past ++ [CollectorOperation.finalize])).gateway =
      (finalizeTransportArchiveBinding env (collectorOperations env start past).gateway).2 := by
    rw [collectorOperations_append_singleton]
    rfl
  have hbinding :
      (finalizeTransportArchiveBinding env (collectorOperations env start past).gateway).1 =
        (collectorOperations env start
            (past ++ [CollectorOperation.finalize])).gateway.transportArchiveBinding
          env.prims.provider env.descriptor := by
    rw [hgateway]
    rfl
  have hplaced := hsound.placed
  unfold OneBatch at h
  rw [acceptedBy_finalize] at h hplaced
  rw [hbinding]
  rcases h with ⟨hempty, -⟩ | ⟨-, hwhole, -⟩
  · -- Nothing is sealed and nothing is left pending, so nothing was accepted.
    have hpending : (collectorOperations env start
        (past ++ [CollectorOperation.finalize])).gateway.pendingDigests =
        [] := by
      rw [hgateway]
      exact pendingDigests_finalBatch _ _ _
    simp only [TransportGatewaySimulatorV1.placedDigests, hempty, hpending, List.flatMap_nil,
      List.append_nil, List.nil_perm] at hplaced
    have hnone : enumeration = [] := by
      rw [List.eq_nil_iff_forall_not_mem]
      intro digest hmem
      rw [henumeration, hplaced] at hmem
      cases hmem
    rw [TransportGatewaySimulatorV1.transportArchiveBinding, if_pos hempty, hnone]
    rfl
  · have hne : enumeration ≠ [] := by
      intro hnone
      have hnothing : (acceptedBy env start past).map (packageDigest env.prims.provider) = [] := by
        rw [List.eq_nil_iff_forall_not_mem]
        intro digest hmem
        rw [← henumeration, hnone] at hmem
        cases hmem
      rw [hnothing] at hwhole
      cases hsealed : (collectorOperations env start
        (past ++ [CollectorOperation.finalize])).gateway.sealedBatches with
      | nil =>
        rw [hsealed] at hwhole
        cases hwhole
      | cons batch others =>
        rw [hsealed] at hwhole
        cases hwhole
    obtain ⟨gateway, hrecovered, heq⟩ := recovered_eq hne hlen
    rw [heq]
    rw [wholeBatch_congr henumeration] at hrecovered
    exact transportArchiveBinding_congr (sealedBatches_ext hwhole hrecovered)

end Runs

/-- Live and rebuilt bindings agree. When nothing was accepted after a finalization that sealed,
nor after this last one, its binding is the one rebuilt from the digests of all accepted packages,
in any order and with repetitions; and the rebuilt binding depends on the set of digests only, for
lists that the rebuilding takes. -/
theorem liveBinding_eq_recovered (laws : TriptychBatchLaws env.prims.crate)
    {session : GuiElectionSessionV1}
    (hsession : GuiElectionSessionV1.Reachable env.prims session) (inbox : PrivateIntakeInbox)
    (past rest : List CollectorOperation)
    (hdiffer : DigestsDiffer env.toGatewayEnvironment
      ((past ++ .finalize :: rest).filterMap (handledPackage env)))
    (hquiet : Quiet env ⟨.default, session, inbox⟩ (past ++ .finalize :: rest))
    (hlast : acceptedBy env ⟨.default, session, inbox⟩ (past ++ .finalize :: rest) =
      acceptedBy env ⟨.default, session, inbox⟩ past) :
    (∀ enumeration : List Bytes32, enumeration.length ≤ maxDurablePending →
      (∀ digest, digest ∈ enumeration ↔
        digest ∈ (acceptedBy env ⟨.default, session, inbox⟩ (past ++ .finalize :: rest)).map
          (packageDigest env.prims.provider)) →
      (finalizeTransportArchiveBinding env
          (collectorOperations env ⟨.default, session, inbox⟩ past).gateway).1 =
        finalizedTransportArchiveBindingFromAcceptedDigestsV1 env.prims.provider env.descriptor
          enumeration) ∧
    ∀ xs ys : List Bytes32, xs.length ≤ maxDurablePending → ys.length ≤ maxDurablePending →
      (∀ digest, digest ∈ xs ↔ digest ∈ ys) →
      finalizedTransportArchiveBindingFromAcceptedDigestsV1 env.prims.provider env.descriptor xs =
        finalizedTransportArchiveBindingFromAcceptedDigestsV1 env.prims.provider env.descriptor
          ys := by
  constructor
  · intro enumeration hlen henumeration
    rw [hlast] at henumeration
    have hsplit : past ++ CollectorOperation.finalize :: rest = (past ++ [.finalize]) ++ rest := by
      rw [List.append_assoc, List.singleton_append]
    have hstart := Sound.start env.toGatewayEnvironment
      ((past ++ CollectorOperation.finalize :: rest).filterMap (handledPackage env))
      (hsession.isReplayed laws)
    have hpast : ∀ bytes ∈ (past ++ [CollectorOperation.finalize]).filterMap (handledPackage env),
        bytes ∈ (past ++ CollectorOperation.finalize :: rest).filterMap (handledPackage env) := by
      intro bytes hmem
      rw [hsplit, List.filterMap_append]
      exact List.mem_append_left _ hmem
    have hquiet' : Quiet env ⟨.default, session, inbox⟩ (past ++ [.finalize]) := by
      rw [hsplit] at hquiet
      apply Quiet.of_append hstart hdiffer _ hquiet
      intro bytes hmem
      rwa [← hsplit] at hmem
    have hone := oneBatch_of_quiet hstart hdiffer _ hpast hquiet'
    have hsound := Sound.operations ⟨.default, session, inbox⟩ hstart hdiffer _ hpast
    exact hone.binding_eq hsound henumeration hlen
  · intro xs ys hxs hys hsame
    exact recovered_congr hsame hxs hys

namespace Sample

/-- An envelope of the sample election for the collector. -/
def request (package : Bytes) (b : UInt8) : CollectorOperation :=
  .handle ⟨Sample.envelope package, Sample.capability b, InboxFaults.none⟩

/-- The sample collector before its first request. -/
def collectorStart : CollectorState := ⟨.default, Sample.session, .empty⟩

end Sample

/-- A finalization before the first ballot, two ballots, and two finalizations. -/
theorem liveBinding_eq_recovered_sample :
    let past : List CollectorOperation := [.finalize, Sample.request Sample.first 1,
      Sample.request Sample.second 2, .finalize]
    let digests := [Sample.second, Sample.first, Sample.second].map
      (packageDigest Sample.collector.prims.provider)
    acceptedBy Sample.collector Sample.collectorStart (past ++ [.finalize]) =
        [Sample.first, Sample.second] ∧
      (finalizeTransportArchiveBinding Sample.collector
          (collectorOperations Sample.collector Sample.collectorStart past).gateway).1 =
        finalizedTransportArchiveBindingFromAcceptedDigestsV1 Sample.collector.prims.provider
          Sample.collector.descriptor digests := by
  intro past digests
  -- one evaluation of the run for all that is read off it
  obtain ⟨haccepted, htaken, hdiffer, hlast⟩ :
      acceptedBy Sample.collector Sample.collectorStart (past ++ [.finalize]) =
          [Sample.first, Sample.second] ∧
        (∀ n < (past ++ [CollectorOperation.finalize]).length,
          (past ++ [CollectorOperation.finalize])[n]? = some .finalize →
          acceptedBy Sample.collector Sample.collectorStart
              ((past ++ [CollectorOperation.finalize]).take n) ≠ [] →
            acceptedBy Sample.collector Sample.collectorStart (past ++ [.finalize]) =
              acceptedBy Sample.collector Sample.collectorStart
                ((past ++ [CollectorOperation.finalize]).take n)) ∧
        DigestsDiffer Sample.collector.toGatewayEnvironment
          ((past ++ [CollectorOperation.finalize]).filterMap (handledPackage Sample.collector)) ∧
        acceptedBy Sample.collector Sample.collectorStart (past ++ [.finalize]) =
          acceptedBy Sample.collector Sample.collectorStart past := by
    decide +kernel
  refine ⟨haccepted, ?_⟩
  have hquiet : Quiet Sample.collector Sample.collectorStart (past ++ [.finalize]) :=
    quiet_of_take htaken
  have hrun := liveBinding_eq_recovered (triptychBatchLaws_idealCrate _) Sample.reachable_session
    .empty past [] hdiffer hquiet hlast
  apply hrun.1 digests (by decide)
  intro digest
  rw [show acceptedBy Sample.collector ⟨.default, Sample.session, .empty⟩
    (past ++ [.finalize]) = _ from haccepted]
  simp only [digests, List.map_cons, List.map_nil, List.mem_cons, List.not_mem_nil, or_false]
  rw [or_comm, or_assoc, or_self]

/-- A ballot that is accepted between two finalizations gets a batch of its own, which a rebuilt
binding does not have; and one digest, repeated too often, is not taken at all. -/
theorem not_liveBinding_eq_recovered :
    let past : List CollectorOperation :=
      [Sample.request Sample.first 1, .finalize, Sample.request Sample.second 2]
    let digest := packageDigest Sample.collector.prims.provider
    let recovered := finalizedTransportArchiveBindingFromAcceptedDigestsV1
      Sample.collector.prims.provider Sample.collector.descriptor
    acceptedBy Sample.collector Sample.collectorStart (past ++ [.finalize]) =
        [Sample.first, Sample.second] ∧
      (finalizeTransportArchiveBinding Sample.collector
          (collectorOperations Sample.collector Sample.collectorStart past).gateway).1 ≠
        recovered [digest Sample.first, digest Sample.second] ∧
      recovered (List.replicate 65537 (digest Sample.first)) ≠
        recovered [digest Sample.first] := by
  intro past digest recovered
  obtain ⟨haccepted, hbinding, hone⟩ :
      acceptedBy Sample.collector Sample.collectorStart (past ++ [.finalize]) =
          [Sample.first, Sample.second] ∧
        (finalizeTransportArchiveBinding Sample.collector
            (collectorOperations Sample.collector Sample.collectorStart past).gateway).1 ≠
          recovered [digest Sample.first, digest Sample.second] ∧
        recovered [digest Sample.first] ≠ .error .unavailable := by
    decide +kernel
  refine ⟨haccepted, hbinding, ?_⟩
  have hlen : maxDurablePending < (List.replicate 65537 (digest Sample.first)).length := by
    rw [List.length_replicate]
    decide
  have hrefused : recovered (List.replicate 65537 (digest Sample.first)) = .error .unavailable :=
    recovered_of_lt hlen
  intro hsame
  exact hone (hsame.symm.trans hrefused)

end PrivateBallot.TransportGateway
