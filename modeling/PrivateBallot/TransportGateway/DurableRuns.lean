import PrivateBallot.TransportGateway.DurableState
import PrivateBallot.TransportGateway.GatewayRuns

/-!
# Snapshots of reachable gateways

Library `TransportGateway`. `crates/transport-gateway/src/lib.rs:652-976`: which states of a
running gateway survive being saved and loaded. The live operations keep every relation between
counters and batches that the decoder checks, but none of its size limits.
-/

namespace PrivateBallot.TransportGateway

open PrivateBallot.Base PrivateBallot.Protocol PrivateBallot.Ballot PrivateBallot.Archive
open PrivateBallot.Crypto PrivateBallot.GuiCore

/-! ### Counters and batches of a run -/

/-- What the operations keep in order without the session. -/
structure Kept (provider : HashProvider) (gateway : TransportGatewaySimulatorV1) : Prop where
  accepted_le : gateway.acceptedUniqueCount.toNat ≤ gateway.verifiedCount.toNat
  verified_le : gateway.verifiedCount.toNat ≤ gateway.receivedCount.toNat
  expired : gateway.retryRetention = .expired → gateway.retries.entries = []
  batches : ∀ batch ∈ gateway.sealedBatches, batch.digests ≠ [] ∧
    AscendingDigests batch.digests ∧
    batch.acceptedUniqueCount = UInt64.ofNat batch.digests.length ∧
    batchRoot provider batch.digests = some batch.root
  ids : gateway.sealedBatches.map (fun batch ↦ batch.batchId.toNat) =
    (List.range gateway.sealedBatches.length).map fun i ↦ min i (2 ^ 64 - 1)
  next : gateway.nextBatchId.toNat = min gateway.sealedBatches.length (2 ^ 64 - 1)

variable {env : GatewayEnvironment} {provider : HashProvider}
  {self : TransportGatewaySimulatorV1}

namespace Kept

theorem default : Kept provider .default := by
  refine ⟨Nat.le_refl _, Nat.le_refl _, ?_, ?_, rfl, rfl⟩
  · intro hexpired
    cases hexpired
  · intro batch hbatch
    cases hbatch

theorem received (h : Kept provider self) : Kept provider self.received := by
  refine ⟨h.accepted_le, ?_, h.expired, h.batches, h.ids, h.next⟩
  show self.verifiedCount.toNat ≤ (saturatingSucc self.receivedCount).toNat
  have hlt := self.receivedCount.toNat_lt
  have hle := h.verified_le
  rw [toNat_saturatingSucc]
  omega

/-- An envelope was received and verified. -/
theorem verified (h : Kept provider self) : Kept provider self.received.verified := by
  have hverified : self.verifiedCount.toNat ≤ self.receivedCount.toNat := h.verified_le
  have haccepted : self.acceptedUniqueCount.toNat ≤ self.verifiedCount.toNat := h.accepted_le
  have hlt := self.verifiedCount.toNat_lt
  refine ⟨?_, ?_, h.expired, h.batches, h.ids, h.next⟩
  · show self.acceptedUniqueCount.toNat ≤ (saturatingSucc self.verifiedCount).toNat
    rw [toNat_saturatingSucc]
    omega
  · show (saturatingSucc self.verifiedCount).toNat ≤ (saturatingSucc self.receivedCount).toNat
    rw [toNat_saturatingSucc, toNat_saturatingSucc]
    omega

/-- And accepted. -/
theorem tookIn (h : Kept provider self) (digest : Bytes32) :
    Kept provider (self.received.verified.tookIn digest) := by
  have haccepted : self.acceptedUniqueCount.toNat ≤ self.verifiedCount.toNat := h.accepted_le
  refine ⟨?_, h.verified.verified_le, h.expired, h.batches, h.ids, h.next⟩
  show (saturatingSucc self.acceptedUniqueCount).toNat ≤ (saturatingSucc self.verifiedCount).toNat
  rw [toNat_saturatingSucc, toNat_saturatingSucc]
  omega

theorem rememberRetry (h : Kept provider self) (commitment digest : Bytes32)
    (receipt : VoterTransportReceiptV1) :
    Kept provider (self.rememberRetry commitment digest receipt) := by
  unfold TransportGatewaySimulatorV1.rememberRetry
  split
  · next hretention =>
    refine ⟨h.accepted_le, h.verified_le, ?_, h.batches, h.ids, h.next⟩
    intro hexpired
    exact absurd hexpired hretention
  · exact h

theorem withAdmission (h : Kept provider self) (admission : TransportAdmissionGateV1) :
    Kept provider { self with admission } :=
  ⟨h.accepted_le, h.verified_le, h.expired, h.batches, h.ids, h.next⟩

theorem deliver {encoded : Bytes} {retryCapability : Bytes32}
    {result : TransportResult (VoterTransportReceiptV1 × Bytes32)}
    {gateway : TransportGatewaySimulatorV1} {session later : GuiElectionSessionV1}
    (h : Kept provider self)
    (hdelivery : TransportGatewaySimulatorV1.Delivery env self encoded retryCapability session
      result gateway later) : Kept provider gateway := by
  cases hdelivery with
  | turnedAway hclosed => exact h
  | unopened e hopened => exact h.received
  | replayed bytes prior hopened hprior => exact h.received
  | accepted bytes hopen hopened hprior hadmits hnew hpackages =>
    exact (h.tookIn _).rememberRetry _ _ _
  | duplicate bytes hopen hopened hprior hpackages hpending =>
    exact h.verified.rememberRetry _ _ _
  | rejected bytes retryStatus hopen hopened hprior hrefuses hpackages hpending =>
    exact h.verified.rememberRetry _ _ _

theorem sealPendingBatch (h : Kept provider self) (floor : UInt64) (finalCloseBatch : Bool) :
    Kept provider (self.sealPendingBatch provider floor finalCloseBatch).2 := by
  rcases self.sealPendingBatch_cases provider floor finalCloseBatch with
    hsame | ⟨hpending, root, hroot, hsealed⟩
  · rw [hsame]
    exact h
  · rw [hsealed]
    have hnext := h.next
    refine ⟨h.accepted_le, h.verified_le, h.expired, ?_, ?_, ?_⟩
    · intro batch hbatch
      rcases List.mem_append.mp hbatch with hold | hnew
      · exact h.batches batch hold
      · rw [List.mem_singleton.mp hnew]
        refine ⟨?_, ascending_sortDedup _, rfl, hroot⟩
        rw [Ne, sortDedup_eq_nil]
        exact hpending
    · simp only [List.map_append, List.map_cons, List.map_nil, List.length_append,
        List.length_singleton, List.range_succ, h.ids, hnext]
    · show (saturatingSucc self.nextBatchId).toNat = _
      rw [toNat_saturatingSucc, hnext, List.length_append, List.length_singleton]
      omega

/-- One call on a gateway with sound books. -/
theorem step {packages before news : List Bytes} {state : GatewayState}
    (hsound : Sound env packages before news state) (h : Kept env.prims.provider state.gateway)
    (operation : GatewayOperation) :
    Kept env.prims.provider (state.step env operation).gateway := by
  cases operation with
  | deliver encoded retryCapability =>
    exact h.deliver (TransportGatewaySimulatorV1.deliverAndDigest_cases hsound.replayed hsound.idle
      encoded retryCapability)
  | sealBatch floor finalCloseBatch => exact h.sealPendingBatch floor finalCloseBatch
  | beginClose => exact h.withAdmission _
  | expireCloseDrain => exact h.withAdmission _
  | beginRetryVerificationGrace =>
    show Kept _ state.gateway.beginRetryVerificationGrace
    unfold TransportGatewaySimulatorV1.beginRetryVerificationGrace
    split
    · refine ⟨h.accepted_le, h.verified_le, ?_, h.batches, h.ids, h.next⟩
      intro hexpired
      cases hexpired
    · exact h
  | expireRetryRetention =>
    exact ⟨h.accepted_le, h.verified_le, fun _ ↦ rfl, h.batches, h.ids, h.next⟩

/-- A whole run. -/
theorem run {session : GuiElectionSessionV1}
    (hsession : GuiElectionSessionV1.IsReplayed env.prims session)
    (operations : List GatewayOperation)
    (hdiffer : DigestsDiffer env (operations.filterMap (deliveredPackage env))) :
    Kept env.prims.provider (gatewayRun env session operations).gateway := by
  induction operations using List.reverseRecOn with
  | nil => exact default
  | append_singleton operations operation ih =>
    have hpast : ∀ bytes ∈ operations.filterMap (deliveredPackage env),
        bytes ∈ (operations ++ [operation]).filterMap (deliveredPackage env) := by
      intro bytes hmem
      rw [List.filterMap_append]
      exact List.mem_append_left _ hmem
    obtain ⟨news, hsound⟩ := Sound.run hsession hdiffer operations hpast
    rw [gatewayRun_append_singleton]
    apply step hsound
    apply ih
    intro a ha b hb
    exact hdiffer a (hpast a ha) b (hpast b hb)

end Kept

/-! ### Surviving a restart -/

/-- The size limits of the decoder. -/
def WithinLimits (self : TransportGatewaySimulatorV1) : Prop :=
  self.retries.entries.length ≤ maxDurableRetries ∧
    self.pendingDigests.length ≤ maxDurablePending ∧
    self.sealedBatches.length ≤ maxDurableBatches ∧
    ∀ batch ∈ self.sealedBatches, batch.digests.length ≤ maxDurablePending

/-- Two gateways with the same counters, answers, pending set and batches. -/
def SameDurableState (a b : TransportGatewaySimulatorV1) : Prop :=
  a.receivedCount = b.receivedCount ∧ a.verifiedCount = b.verifiedCount ∧
    a.acceptedUniqueCount = b.acceptedUniqueCount ∧
    a.retries.entries.map (fun entry ↦
        (entry.1, entry.2.packageDigest, entry.2.receipt.state)) =
      b.retries.entries.map (fun entry ↦
        (entry.1, entry.2.packageDigest, entry.2.receipt.state)) ∧
    (∀ digest, digest ∈ a.pendingDigests ↔ digest ∈ b.pendingDigests) ∧
    a.sealedBatches = b.sealedBatches ∧ a.nextBatchId = b.nextBatchId ∧
    a.retryRetention = b.retryRetention

/-- The snapshot of a gateway is decoded to the same durable state and encoded to the same bytes
again. -/
def Survives (provider : HashProvider) (descriptor : TransportDescriptorV1)
    (self : TransportGatewaySimulatorV1) : Prop :=
  ∃ bytes loaded, self.durableState provider descriptor = .ok bytes ∧
    decodeDurableState provider descriptor bytes = .ok loaded ∧ SameDurableState loaded self ∧
    loaded.durableState provider descriptor = .ok bytes

/-- What was decoded is within the limits, so what survives is. -/
theorem withinLimits_of_survives {descriptor : TransportDescriptorV1}
    (hnodup : self.pendingDigests.Nodup) (h : Survives provider descriptor self) :
    WithinLimits self := by
  obtain ⟨bytes, loaded, -, hdecode, ⟨-, -, -, hretries, hpending, hbatches, -, -⟩, -⟩ := h
  have hloaded := isDurable_of_decode hdecode
  have hlen := congrArg List.length hretries
  rw [List.length_map, List.length_map] at hlen
  refine ⟨?_, ?_, ?_, ?_⟩
  · rw [← hlen]
    exact hloaded.retries_le
  · have hperm := (List.perm_ext_iff_of_nodup hloaded.nodup hnodup).mpr hpending
    rw [← hperm.length_eq]
    exact hloaded.pending_le
  · rw [← hbatches]
    exact hloaded.batches_le
  · intro batch hbatch
    rw [← hbatches] at hbatch
    exact (hloaded.isSealed batch hbatch).length_le

/-- A gateway that the decoder admits survives. -/
theorem IsDurable.survives (h : IsDurable provider self) (descriptor : TransportDescriptorV1) :
    Survives provider descriptor self := by
  obtain ⟨bytes, hencoded, hdecoded, hagain⟩ := h.decode_durableState descriptor
  refine ⟨bytes, self.reloaded, hencoded, hdecoded, ⟨rfl, rfl, rfl, ?_, ?_, rfl, rfl, rfl⟩, hagain⟩
  · show (self.retries.entries.map _).map _ = _
    rw [List.map_map]
    rfl
  · intro digest
    exact mem_sortDedup self.pendingDigests digest

/-- Batch identities are the positions while there are few batches. -/
theorem Kept.batchId_eq (h : Kept provider self)
    (hfew : self.sealedBatches.length ≤ maxDurableBatches) {i : Nat}
    {batch : SealedTransportBatchV1} (hbatch : self.sealedBatches[i]? = some batch) :
    batch.batchId.toNat = i := by
  have hids := congrArg (fun ids ↦ ids[i]?) h.ids
  have hi : i < self.sealedBatches.length := by
    rw [List.getElem?_eq_some_iff] at hbatch
    exact hbatch.1
  have hfew' : self.sealedBatches.length ≤ 4096 := hfew
  simp only [List.getElem?_map, hbatch, Option.map_some, List.getElem?_range hi,
    Option.some.injEq] at hids
  omega

/-- The number of digests in batches that are counted right. -/
private theorem sum_counts {batches : List SealedTransportBatchV1}
    (h : ∀ batch ∈ batches, batch.acceptedUniqueCount.toNat = batch.digests.length) :
    (batches.map fun batch ↦ batch.acceptedUniqueCount.toNat).sum =
      (batches.flatMap SealedTransportBatchV1.digests).length := by
  rw [List.length_flatMap]
  exact congrArg List.sum (List.map_congr_left h)

/-- A reachable gateway within the limits is one that the decoder admits. -/
theorem isDurable_of_withinLimits {packages before news : List Bytes} {state : GatewayState}
    (hsound : Sound env packages before news state) (hdiffer : DigestsDiffer env packages)
    (hkept : Kept env.prims.provider state.gateway) (h : WithinLimits state.gateway) :
    IsDurable env.prims.provider state.gateway := by
  obtain ⟨hretries, hpending, hfew, hsizes⟩ := h
  have hnodup := hsound.nodup_placedDigests hdiffer
  have hcounted : ∀ batch ∈ state.gateway.sealedBatches,
      batch.acceptedUniqueCount.toNat = batch.digests.length := by
    intro batch hbatch
    have hsize : batch.digests.length ≤ 65536 := hsizes batch hbatch
    rw [(hkept.batches batch hbatch).2.2.1, UInt64.toNat_ofNat', Nat.mod_eq_of_lt (by omega)]
  refine ⟨hretries, ?_, hkept.expired, hpending, (List.nodup_append.mp hnodup).1, hfew, ?_, ?_, ?_,
    ?_, hkept.accepted_le, hkept.verified_le⟩
  · rintro ⟨commitment, record⟩ hentry hreceived
    have hlookup := (state.gateway.retries.lookup_eq_some_iff commitment record).mpr hentry
    have hrecord := hsound.records commitment record hlookup
    have hstate : record.receipt.state = .received := hreceived
    simp only [RecordSound, hstate] at hrecord
  · intro batch hbatch
    obtain ⟨hne, hascending, -, hroot⟩ := hkept.batches batch hbatch
    exact ⟨hne, hsizes batch hbatch, hascending, hcounted batch hbatch, hroot⟩
  · rw [List.pairwise_iff_getElem]
    intro i j hi hj hij
    have hfirst := hkept.batchId_eq hfew (List.getElem?_eq_getElem hi)
    have hsecond := hkept.batchId_eq hfew (List.getElem?_eq_getElem hj)
    rw [UInt64.lt_iff_toNat_lt, hfirst, hsecond]
    exact hij
  · intro batch hbatch
    obtain ⟨i, hi, rfl⟩ := List.getElem_of_mem hbatch
    have hid := hkept.batchId_eq hfew (List.getElem?_eq_getElem hi)
    have hfew' : state.gateway.sealedBatches.length ≤ 4096 := hfew
    rw [UInt64.lt_iff_toNat_lt, hid, hkept.next]
    omega
  · have hplaced := hsound.placed.length_eq
    have hsum := sum_counts hcounted
    have hmany : (state.gateway.sealedBatches.flatMap SealedTransportBatchV1.digests).length ≤
        state.gateway.sealedBatches.length * 65536 := length_flatMap_le _ hsizes
    have hpending' : state.gateway.pendingDigests.length ≤ 65536 := hpending
    have hfew' : state.gateway.sealedBatches.length ≤ 4096 := hfew
    rw [TransportGatewaySimulatorV1.placedDigests, List.length_append, List.length_map] at hplaced
    rw [hsound.counted, knownAccepted, hsum, ← hplaced]
    omega

/-- A reachable gateway survives being saved and loaded exactly when it is within the size limits
of the decoder; and whatever is loaded has counters and batches that agree. -/
theorem survives_gatewayRun_iff (laws : TriptychBatchLaws env.prims.crate)
    {session : GuiElectionSessionV1}
    (hsession : GuiElectionSessionV1.Reachable env.prims session)
    (operations : List GatewayOperation)
    (hdiffer : DigestsDiffer env (operations.filterMap (deliveredPackage env)))
    (descriptor : TransportDescriptorV1) :
    (Survives env.prims.provider descriptor (gatewayRun env session operations).gateway ↔
      WithinLimits (gatewayRun env session operations).gateway) ∧
    ∀ bytes loaded, loadDurableState env.prims.provider descriptor bytes = .ok loaded →
      loaded.acceptedUniqueCount.toNat = loaded.pendingDigests.length +
          (loaded.sealedBatches.map fun batch ↦ batch.acceptedUniqueCount.toNat).sum ∧
        loaded.acceptedUniqueCount ≤ loaded.verifiedCount ∧
        loaded.verifiedCount ≤ loaded.receivedCount ∧
        (loaded.sealedBatches.Pairwise fun a b ↦ a.batchId < b.batchId) ∧
        (∀ batch ∈ loaded.sealedBatches, batch.batchId < loaded.nextBatchId) ∧
        ∀ batch ∈ loaded.sealedBatches,
          batchRoot env.prims.provider batch.digests = some batch.root := by
  have hreplayed := hsession.isReplayed laws
  obtain ⟨news, hsound⟩ := Sound.run hreplayed hdiffer operations fun _ ↦ id
  have hkept := Kept.run hreplayed operations hdiffer
  refine ⟨⟨?_, ?_⟩, ?_⟩
  · exact withinLimits_of_survives (List.nodup_append.mp (hsound.nodup_placedDigests hdiffer)).1
  · intro hlimits
    exact (isDurable_of_withinLimits hsound hdiffer hkept hlimits).survives descriptor
  · intro bytes loaded hload
    simp only [loadDurableState, bind_eq_ok] at hload
    obtain ⟨state, hdecode, _, -, _, -, hloaded⟩ := hload
    cases hloaded
    have hdurable := isDurable_of_decode hdecode
    exact ⟨hdurable.counted, hdurable.accepted_le, hdurable.verified_le, hdurable.increasing,
      hdurable.below, fun batch hbatch ↦ (hdurable.isSealed batch hbatch).root⟩

/-! ### More answers than the decoder admits -/

/-- An open gateway and session after deliveries under these capabilities. -/
structure Answered (env : GatewayEnvironment) (capabilities : List Bytes32) (state : GatewayState) :
    Prop where
  replayed : GuiElectionSessionV1.IsReplayed env.prims state.session
  opened : state.session.lifecycle.state = .opened
  admits : state.gateway.admission = .default
  retained : state.gateway.retryRetention ≠ .expired
  length_eq : state.gateway.retries.entries.length = capabilities.length
  known : ∀ commitment record, state.gateway.retries.lookup commitment = some record →
    commitment ∈ capabilities.map (TransportGatewaySimulatorV1.capabilityCommitment env)

/-- A remembered answer is one more. -/
theorem Answered.remembered {capabilities : List Bytes32} {state : GatewayState}
    (h : Answered env capabilities state) {gateway : TransportGatewaySimulatorV1}
    {capability digest : Bytes32} {receipt : VoterTransportReceiptV1} (bytes : Bytes)
    (hprior : state.gateway.retries.lookup
      (TransportGatewaySimulatorV1.capabilityCommitment env capability) = none)
    (hadmission : gateway.admission = state.gateway.admission)
    (hretention : gateway.retryRetention = state.gateway.retryRetention)
    (hretries : gateway.retries = state.gateway.retries) :
    Answered env (capabilities ++ [capability])
      ⟨gateway.rememberRetry (TransportGatewaySimulatorV1.capabilityCommitment env capability)
        digest receipt, state.session.recorded env.prims bytes⟩ := by
  have hretained : gateway.retryRetention ≠ .expired := by
    rw [hretention]
    exact h.retained
  have hadmits : state.session.lifecycle.admitsBallots = true := by
    simp [ElectionLifecycleV1.admitsBallots, h.opened]
  rw [← hretries] at hprior
  have hinserted : gateway.rememberRetry
      (TransportGatewaySimulatorV1.capabilityCommitment env capability) digest receipt =
      { gateway with
        retries := gateway.retries.insert
          (TransportGatewaySimulatorV1.capabilityCommitment env capability)
            ⟨digest, receipt⟩ } := by
    rw [TransportGatewaySimulatorV1.rememberRetry, if_pos hretained]
  rw [hinserted]
  refine ⟨h.replayed.recorded hadmits bytes, h.opened, hadmission.trans h.admits, hretained, ?_, ?_⟩
  · dsimp only
    rw [(DigestMap.perm_insert_of_absent hprior).length_eq, List.length_cons, hretries,
      h.length_eq, List.length_append, List.length_singleton]
  · intro commitment record hrecord
    dsimp only at hrecord
    rw [DigestMap.lookup_insert_of_absent hprior] at hrecord
    rw [List.map_append, List.mem_append]
    split at hrecord
    · next hsame =>
      right
      rw [hsame]
      exact List.mem_singleton.mpr rfl
    · left
      rw [hretries] at hrecord
      exact h.known commitment record hrecord

/-- Every capability with a commitment of its own leaves an answer. -/
theorem answered_of_deliveries {session : GuiElectionSessionV1}
    (hreplayed : GuiElectionSessionV1.IsReplayed env.prims session)
    (hopen : session.lifecycle.state = .opened) {encoded bytes : Bytes}
    (hopened : openedPackage env encoded = .ok bytes) (capabilities : List Bytes32)
    (hfresh : (capabilities.map (TransportGatewaySimulatorV1.capabilityCommitment env)).Nodup) :
    Answered env capabilities
      (gatewayRun env session (capabilities.map (.deliver encoded ·))) := by
  induction capabilities using List.reverseRecOn with
  | nil =>
    refine ⟨hreplayed, hopen, rfl, ?_, rfl, ?_⟩
    · intro hexpired
      cases hexpired
    · intro commitment record hrecord
      cases hrecord
  | append_singleton capabilities capability ih =>
    rw [List.map_append, List.nodup_append] at hfresh
    have hstate := ih hfresh.1
    rw [List.map_append, List.map_cons, List.map_nil, gatewayRun_append_singleton]
    have hidle : (gatewayRun env session
        (capabilities.map (.deliver encoded ·))).gateway.admission.admitted = 0 := by
      rw [hstate.admits]
      rfl
    have hdelivery := TransportGatewaySimulatorV1.deliverAndDigest_cases hstate.replayed hidle
      encoded capability
    generalize gatewayRun env session (capabilities.map (.deliver encoded ·)) = state at *
    have hprior : state.gateway.retries.lookup
        (TransportGatewaySimulatorV1.capabilityCommitment env capability) = none := by
      rw [Option.eq_none_iff_forall_ne_some]
      intro record hrecord
      exact hfresh.2.2 _ (hstate.known _ _ hrecord) _ (List.mem_singleton.mpr rfl) rfl
    show Answered env _ ⟨(state.gateway.deliverAndDigest env encoded capability state.session).2.1,
      (state.gateway.deliverAndDigest env encoded capability state.session).2.2⟩
    generalize (state.gateway.deliverAndDigest env encoded capability state.session).2.1 = gateway
      at *
    generalize (state.gateway.deliverAndDigest
      env encoded capability state.session).2.2 = later at *
    generalize (state.gateway.deliverAndDigest env encoded capability state.session).1 = result at *
    cases hdelivery with
    | turnedAway hclosed =>
      rw [hstate.admits] at hclosed
      exact absurd ⟨rfl, hstate.opened⟩ hclosed
    | unopened e herror => cases hopened.symm.trans herror
    | replayed other prior hopened' hfound => cases hprior.symm.trans hfound
    | accepted other hopen' hopened' hprior' hadmits hnew hpackages =>
      exact hstate.remembered other hprior rfl rfl rfl
    | duplicate other hopen' hopened' hprior' hpackages hpending =>
      exact hstate.remembered other hprior rfl rfl rfl
    | rejected other retryStatus hopen' hopened' hprior' hrefuses hpackages hpending =>
      exact hstate.remembered other hprior rfl rfl rfl

namespace Sample

/-- A numbered capability. -/
def numbered (n : Nat) : Bytes32 := ⟨List.replicate 29 0 ++ beBytes 3 n, by simp⟩

-- One more byte is one more digit.
private theorem digit_mod (value k : Nat) :
    (value % 2 ^ 256 * 257 + k + 1) % 2 ^ 256 = (value * 257 + k + 1) % 2 ^ 256 := by
  omega

-- The last three bytes are the last three digits of the polynomial digest.
private theorem digits_eq {start a b c x y z : Nat} (ha : a < 256) (hb : b < 256) (hc : c < 256)
    (hx : x < 256) (hy : y < 256) (hz : z < 256)
    (h : (((start * 257 + a + 1) % 2 ^ 256 * 257 + b + 1) % 2 ^ 256 * 257 + c + 1) % 2 ^ 256 =
      (((start * 257 + x + 1) % 2 ^ 256 * 257 + y + 1) % 2 ^ 256 * 257 + z + 1) % 2 ^ 256) :
    a = x ∧ b = y ∧ c = z := by
  simp only [digit_mod] at h
  have hdigits : a * 66049 + b * 257 + c = x * 66049 + y * 257 + z := by omega
  omega

private def foldByte (acc : Nat) (b : UInt8) : Nat := (acc * 257 + b.toNat + 1) % 2 ^ 256

private theorem toBytes_commitment : ∃ start, ∀ n,
    (TransportGatewaySimulatorV1.capabilityCommitment Sample.env (numbered n)).toBytes =
      leBytes 32 (foldByte (foldByte (foldByte start (UInt8.ofNat (n / 256 / 256)))
        (UInt8.ofNat (n / 256))) (UInt8.ofNat n)) := by
  refine ⟨(hashFramePrefix.toBytes ++ [0] ++ HashDomain.transportRetryCapabilityV1.label.toBytes ++
    [0] ++ List.replicate 29 0).foldl foldByte 7, ?_⟩
  intro n
  show leBytes 32 ((hashFramePrefix.toBytes ++ [0] ++
    HashDomain.transportRetryCapabilityV1.label.toBytes ++ [0] ++
      (List.replicate 29 0 ++ beBytes 3 n)).foldl foldByte 7) = _
  rw [← List.append_assoc, List.foldl_append]
  rfl

/-- Numbered capabilities have different commitments. -/
theorem commitment_numbered_injective {n m : Nat} (hn : n < 2 ^ 24) (hm : m < 2 ^ 24)
    (h : TransportGatewaySimulatorV1.capabilityCommitment Sample.env (numbered n) =
      TransportGatewaySimulatorV1.capabilityCommitment Sample.env (numbered m)) : n = m := by
  obtain ⟨start, hstart⟩ := toBytes_commitment
  have hbytes := congrArg (fun digest ↦ ofLeBytes digest.toBytes) h
  have hlt : ∀ acc b, foldByte acc b < 256 ^ 32 := fun acc b ↦ Nat.mod_lt _ (by decide)
  simp only [hstart, ofLeBytes_leBytes _ _ (hlt _ _)] at hbytes
  obtain ⟨hhigh, hmiddle, hlow⟩ := digits_eq (UInt8.toNat_lt _) (UInt8.toNat_lt _)
    (UInt8.toNat_lt _) (UInt8.toNat_lt _) (UInt8.toNat_lt _) (UInt8.toNat_lt _) hbytes
  rw [UInt8.toNat_ofNat', UInt8.toNat_ofNat'] at hhigh hmiddle hlow
  omega

/-- One more capability than there may be durable answers. -/
def manyCapabilities : List Bytes32 := (List.range 65537).map numbered

end Sample

/-- One package is delivered under 65,537 capabilities, and the organizer restarts: the snapshot
cannot be decoded. -/
theorem not_survives_gatewayRun :
    DigestsDiffer Sample.env ((Sample.manyCapabilities.map
      (GatewayOperation.deliver (Sample.envelope Sample.first) ·)).filterMap
        (deliveredPackage Sample.env)) ∧
    ¬ Survives Sample.env.prims.provider Sample.descriptor (gatewayRun Sample.env Sample.session
      (Sample.manyCapabilities.map
        (.deliver (Sample.envelope Sample.first) ·))).gateway := by
  obtain ⟨hopened, hstate⟩ :
      openedPackage Sample.env (Sample.envelope Sample.first) = .ok Sample.first ∧
        Sample.session.lifecycle.state = .opened := by
    decide +kernel
  have hdiffer : DigestsDiffer Sample.env ((Sample.manyCapabilities.map
      (GatewayOperation.deliver (Sample.envelope Sample.first) ·)).filterMap
        (deliveredPackage Sample.env)) := by
    have honly : ∀ bytes ∈ (Sample.manyCapabilities.map
        (GatewayOperation.deliver (Sample.envelope Sample.first) ·)).filterMap
          (deliveredPackage Sample.env), bytes = Sample.first := by
      intro bytes hmem
      obtain ⟨operation, hoperation, hbytes⟩ := List.mem_filterMap.mp hmem
      obtain ⟨capability, -, rfl⟩ := List.mem_map.mp hoperation
      rw [deliveredPackage, hopened] at hbytes
      exact (Option.some.inj hbytes).symm
    intro a ha b hb _
    rw [honly a ha, honly b hb]
  refine ⟨hdiffer, ?_⟩
  have hreplayed := Sample.reachable_session.isReplayed (triptychBatchLaws_idealCrate _)
  obtain ⟨news, hsound⟩ := Sound.run hreplayed hdiffer _ fun _ ↦ id
  intro hsurvives
  have hlimits := withinLimits_of_survives
    (List.nodup_append.mp (hsound.nodup_placedDigests hdiffer)).1 hsurvives
  have hfresh : (Sample.manyCapabilities.map
      (TransportGatewaySimulatorV1.capabilityCommitment Sample.env)).Nodup := by
    unfold Sample.manyCapabilities
    rw [List.map_map]
    apply List.Nodup.map_on _ List.nodup_range
    intro n hn m hm hsame
    rw [List.mem_range] at hn hm
    exact Sample.commitment_numbered_injective (by omega) (by omega) hsame
  have hanswered := answered_of_deliveries hreplayed hstate hopened
    Sample.manyCapabilities hfresh
  have hlen : Sample.manyCapabilities.length = 65537 := by
    rw [Sample.manyCapabilities, List.length_map, List.length_range]
  have hretries : (65537 : Nat) ≤ 65536 := by
    rw [← hlen, ← hanswered.length_eq]
    exact hlimits.1
  omega

/-- The gateway after an accepted package and a sealed batch survives. -/
theorem survives_gatewayRun_iff_sample :
    Survives Sample.env.prims.provider Sample.descriptor (gatewayRun Sample.env Sample.session
      [.deliver (Sample.envelope Sample.first) (Sample.capability 1), .sealBatch 1 true,
        .deliver (Sample.envelope Sample.second) (Sample.capability 2)]).gateway := by
  let operations : List GatewayOperation :=
    [.deliver (Sample.envelope Sample.first) (Sample.capability 1), .sealBatch 1 true,
      .deliver (Sample.envelope Sample.second) (Sample.capability 2)]
  have hevaluated :
      DigestsDiffer Sample.env (operations.filterMap (deliveredPackage Sample.env)) ∧
        WithinLimits (gatewayRun Sample.env Sample.session operations).gateway := by
    unfold WithinLimits
    decide +kernel
  exact ((survives_gatewayRun_iff (triptychBatchLaws_idealCrate _) Sample.reachable_session
    operations hevaluated.1 Sample.descriptor).1).mpr hevaluated.2

end PrivateBallot.TransportGateway
