import PrivateBallot.Archive.TransportBinding
import PrivateBallot.Base.Digests
import PrivateBallot.GuiCore.SessionAcceptance
import PrivateBallot.GuiCore.Transport

/-!
# Transport gateway

Library `TransportGateway`. `crates/transport-gateway/src/lib.rs`: the receiver of sealed
envelopes. It opens them, hands the packages to an election session, remembers its answers under
the commitments of the voters' retry capabilities, and seals the digests of accepted packages into
batches. A method that takes `&mut self` returns the state it leaves, also when it fails.
-/

namespace PrivateBallot.TransportGateway

open PrivateBallot.Base PrivateBallot.Protocol PrivateBallot.Ballot PrivateBallot.Archive
open PrivateBallot.GuiCore

/-! ### Opening envelopes -/

/-- The HPKE crate: which bytes are an encapsulated key, and what a ciphertext opens to under a
receiver secret. -/
structure HpkeCrate where
  isEncappedKey : Bytes32 → Bool
  openCiphertext : Bytes32 → Bytes32 → Bytes → Bytes → Bytes → Option Bytes

/-- What a gateway serves with: third-party code, the election's descriptor and the receiver
secret, which was checked when it was loaded. -/
structure GatewayEnvironment where
  prims : Primitives
  hpke : HpkeCrate
  descriptor : TransportDescriptorV1
  receiverSecret : Bytes32

/-- `HPKE_INFO` -/
def hpkeInfo : Bytes := (Text.lit "tari-cc-private-ballot/private-ballot-envelope/v1").toBytes

/-- `unpad_authenticated_payload` -/
def unpadAuthenticatedPayload (padded : Bytes) (expected : Nat) : TransportResult Bytes :=
  if padded.length ≠ expected ∨ padded.length < 4 then .error .invalidEnvelope
  else
    let length := ofBeBytes (padded.take 4)
    if padded.length < length + 4 ∨ ((padded.drop (4 + length)).any fun b ↦ b != 0) = true then
      .error .invalidEnvelope
    else .ok ((padded.drop 4).take length)

/-- `open_envelope_bytes_v1` -/
def openEnvelopeBytesV1 (env : GatewayEnvironment) (envelope : PrivateBallotEnvelopeV1) :
    TransportResult Bytes := do
  let material ← envelope.receiverOpeningMaterial env.prims.provider env.descriptor
  refuseTransport (!env.hpke.isEncappedKey material.encapsulatedKey) .invalidEnvelope
  match env.hpke.openCiphertext env.receiverSecret material.encapsulatedKey hpkeInfo
      material.ciphertext material.aad with
  | none => Except.error .cryptoFailure
  | some padded => unpadAuthenticatedPayload padded material.paddedBytes

/-- The package an envelope carries, if it can be opened. -/
def openedPackage (env : GatewayEnvironment) (encoded : Bytes) : TransportResult Bytes := do
  let envelope ← PrivateBallotEnvelopeV1.fromCanonicalCbor encoded
  openEnvelopeBytesV1 env envelope

/-! ### Admission -/

/-- `TransportAdmissionStateV1` -/
inductive TransportAdmissionStateV1 where
  | opened
  | closing
  | closed
deriving DecidableEq, Repr

/-- `TransportAdmissionGateV1`; `admitted` is a `u32`. -/
structure TransportAdmissionGateV1 where
  state : TransportAdmissionStateV1
  admitted : Nat
  drainGeneration : UInt64
deriving DecidableEq

namespace TransportAdmissionGateV1

/-- `TransportAdmissionGateV1::default` -/
def default : TransportAdmissionGateV1 := ⟨.opened, 0, 0⟩

/-- `admit` -/
def admitOne (self : TransportAdmissionGateV1) (session : GuiElectionSessionV1) :
    TransportResult (UInt64 × TransportAdmissionGateV1) :=
  if self.state ≠ .opened ∨ session.lifecycle.state ≠ .opened then .error .unavailable
  else .ok (self.drainGeneration,
    { self with admitted := min (self.admitted + 1) (2 ^ 32 - 1) })

/-- `close_if_drained` -/
def closeIfDrained (self : TransportAdmissionGateV1) (session : GuiElectionSessionV1) :
    TransportResult Unit × TransportAdmissionGateV1 × GuiElectionSessionV1 :=
  if self.state = .closing ∧ self.admitted = 0 then
    match session.close with
    | .error _ => (.error .unavailable, self, session)
    | .ok session => (.ok (), { self with state := .closed }, session)
  else (.ok (), self, session)

/-- `begin_close` -/
def beginClose (self : TransportAdmissionGateV1) (session : GuiElectionSessionV1) :
    TransportResult Unit × TransportAdmissionGateV1 × GuiElectionSessionV1 :=
  if self.state ≠ .opened then (.error .unavailable, self, session)
  else closeIfDrained { self with state := .closing } session

/-- `finish_admitted` -/
def finishAdmitted (self : TransportAdmissionGateV1) (session : GuiElectionSessionV1)
    (admissionGeneration : UInt64) :
    TransportResult Unit × TransportAdmissionGateV1 × GuiElectionSessionV1 :=
  if self.state = .closed ∨ admissionGeneration ≠ self.drainGeneration then
    (.error .unavailable, self, session)
  else match self.admitted with
    | 0 => (.error .unavailable, self, session)
    | admitted + 1 => closeIfDrained { self with admitted } session

/-- `expire_drain`; the generation wraps around. -/
def expireDrain (self : TransportAdmissionGateV1) (session : GuiElectionSessionV1) :
    TransportResult Unit × TransportAdmissionGateV1 × GuiElectionSessionV1 :=
  closeIfDrained { self with drainGeneration := self.drainGeneration + 1, admitted := 0 } session

end TransportAdmissionGateV1

/-! ### Merkle trees of batches -/

section Merkle

variable (provider : HashProvider)

/-- The leaf of a package digest. -/
def batchLeaf (digest : Bytes32) : Bytes32 :=
  hashDomainSeparated provider .transportBatchLeafV1 digest.toBytes

/-- The node of two nodes. -/
def batchNode (left right : Bytes32) : Bytes32 :=
  hashDomainSeparated provider .transportBatchNodeV1 (left.toBytes ++ right.toBytes)

/-- `next_merkle_layer`: a last node without a partner is paired with itself. -/
def nextMerkleLayer : List Bytes32 → List Bytes32
  | left :: right :: rest => batchNode provider left right :: nextMerkleLayer rest
  | [last] => [batchNode provider last last]
  | [] => []

private def merkleRootFrom : Nat → List Bytes32 → Option Bytes32
  | 0, layer => layer.head?
  | fuel + 1, layer =>
    if 1 < layer.length then merkleRootFrom fuel (nextMerkleLayer provider layer) else layer.head?

-- Every round halves the layer, so as many rounds as there are leaves are enough.
/-- `merkle_root` -/
def merkleRoot (leaves : List Bytes32) : Option Bytes32 :=
  merkleRootFrom provider leaves.length leaves

theorem length_nextMerkleLayer (layer : List Bytes32) :
    (nextMerkleLayer provider layer).length = (layer.length + 1) / 2 := by
  fun_induction nextMerkleLayer provider layer with
  | case1 left right rest ih =>
    rw [List.length_cons, ih, List.length_cons, List.length_cons]
    omega
  | case2 last => simp
  | case3 => rfl

private theorem merkleRootFrom_eq {fuel more : Nat} {layer : List Bytes32}
    (hfuel : layer.length ≤ fuel) (hmore : fuel ≤ more) :
    merkleRootFrom provider more layer = merkleRootFrom provider fuel layer := by
  induction fuel generalizing more layer with
  | zero =>
    have hempty : layer = [] := List.length_eq_zero_iff.mp (Nat.le_zero.mp hfuel)
    subst hempty
    cases more with
    | zero => rfl
    | succ more => rfl
  | succ fuel ih =>
    obtain ⟨more, rfl⟩ : ∃ n, more = n + 1 := ⟨more - 1, by omega⟩
    unfold merkleRootFrom
    split
    · apply ih _ (by omega)
      rw [length_nextMerkleLayer]
      omega
    · rfl

/-- The loop goes on while there is more than one node. -/
theorem merkleRoot_of_one_lt {layer : List Bytes32} (h : 1 < layer.length) :
    merkleRoot provider layer = merkleRoot provider (nextMerkleLayer provider layer) := by
  obtain ⟨n, hn⟩ : ∃ n, layer.length = n + 1 := ⟨layer.length - 1, by omega⟩
  have hnext := length_nextMerkleLayer provider layer
  rw [merkleRoot, merkleRoot, hn, merkleRootFrom, if_pos h]
  exact merkleRootFrom_eq provider (Nat.le_refl _) (by omega)

/-- And ends with the node that is left. -/
theorem merkleRoot_of_le_one {layer : List Bytes32} (h : layer.length ≤ 1) :
    merkleRoot provider layer = layer.head? := by
  rw [merkleRoot]
  cases hlen : layer.length with
  | zero => rfl
  | succ n => rw [merkleRootFrom, if_neg (by omega)]

/-- There is a root unless there are no leaves. -/
theorem exists_merkleRoot {leaves : List Bytes32} (h : leaves ≠ []) :
    ∃ root, merkleRoot provider leaves = some root := by
  induction hlen : leaves.length using Nat.strong_induction_on generalizing leaves with
  | _ n ih =>
    have hpos := List.length_pos_iff.mpr h
    by_cases hone : 1 < leaves.length
    · have hnext := length_nextMerkleLayer provider leaves
      rw [merkleRoot_of_one_lt provider hone]
      apply ih _ _ _ hnext
      · omega
      · rw [← List.length_pos_iff]
        omega
    · rw [merkleRoot_of_le_one provider (Nat.le_of_not_lt hone)]
      obtain ⟨root, rest, rfl⟩ := List.exists_cons_of_ne_nil h
      exact ⟨root, rfl⟩

/-- The commitment to a set of digests. -/
def batchRoot (digests : List Bytes32) : Option Bytes32 :=
  merkleRoot provider (digests.map (batchLeaf provider))

end Merkle

/-! ### The gateway -/

/-- `SealedTransportBatchV1` -/
structure SealedTransportBatchV1 where
  batchId : UInt64
  root : Bytes32
  acceptedUniqueCount : UInt64
  reducedAnonymity : Bool
  digests : List Bytes32
deriving DecidableEq

/-- `RetryRecordV1` -/
structure RetryRecordV1 where
  packageDigest : Bytes32
  receipt : VoterTransportReceiptV1
deriving DecidableEq

/-- `RetryRetentionV1` -/
inductive RetryRetentionV1 where
  | activeElection
  | verificationGrace
  | expired
deriving DecidableEq, Repr

/-- `TransportGatewaySimulatorV1`; `crates/transport-gateway/src/lib.rs:553`. -/
structure TransportGatewaySimulatorV1 where
  receivedCount : UInt64
  verifiedCount : UInt64
  acceptedUniqueCount : UInt64
  retries : DigestMap RetryRecordV1
  admission : TransportAdmissionGateV1
  pendingDigests : List Bytes32
  sealedBatches : List SealedTransportBatchV1
  nextBatchId : UInt64
  retryRetention : RetryRetentionV1
deriving DecidableEq

namespace TransportGatewaySimulatorV1

/-- `TransportGatewaySimulatorV1::default` -/
def default : TransportGatewaySimulatorV1 :=
  ⟨0, 0, 0, .empty, .default, [], [], 0, .activeElection⟩

/-- `begin_retry_verification_grace` -/
def beginRetryVerificationGrace (self : TransportGatewaySimulatorV1) :
    TransportGatewaySimulatorV1 :=
  if self.retryRetention = .activeElection then
    { self with retryRetention := .verificationGrace }
  else self

/-- `expire_retry_retention` -/
def expireRetryRetention (self : TransportGatewaySimulatorV1) : TransportGatewaySimulatorV1 :=
  { self with retries := .empty, retryRetention := .expired }

/-- `begin_close` -/
def beginClose (self : TransportGatewaySimulatorV1) (session : GuiElectionSessionV1) :
    TransportResult Unit × TransportGatewaySimulatorV1 × GuiElectionSessionV1 :=
  let (result, admission, session) := self.admission.beginClose session
  (result, { self with admission }, session)

/-- `expire_close_drain` -/
def expireCloseDrain (self : TransportGatewaySimulatorV1) (session : GuiElectionSessionV1) :
    TransportResult Unit × TransportGatewaySimulatorV1 × GuiElectionSessionV1 :=
  let (result, admission, session) := self.admission.expireDrain session
  (result, { self with admission }, session)

/-- `seal_pending_batch`; `crates/transport-gateway/src/lib.rs:995`. -/
def sealPendingBatch (provider : HashProvider) (self : TransportGatewaySimulatorV1)
    (floor : UInt64) (finalCloseBatch : Bool) :
    Option SealedTransportBatchV1 × TransportGatewaySimulatorV1 :=
  if self.pendingDigests = [] ∨
      (finalCloseBatch = false ∧ self.pendingDigests.length < floor.toNat) then
    (none, self)
  else
    let digests := sortDedup self.pendingDigests
    match batchRoot provider digests with
    | none => (none, { self with pendingDigests := [] })
    | some root =>
      let batch : SealedTransportBatchV1 := ⟨self.nextBatchId, root,
        UInt64.ofNat digests.length, decide (digests.length < floor.toNat), digests⟩
      (some batch, { self with
        pendingDigests := []
        nextBatchId := saturatingSucc self.nextBatchId
        sealedBatches := self.sealedBatches ++ [batch] })

/-- `seed_pending_digests_for_recovery` -/
def seedPendingDigestsForRecovery (self : TransportGatewaySimulatorV1)
    (digests : List Bytes32) : TransportGatewaySimulatorV1 :=
  { self with pendingDigests := digests }

/-- `transport_archive_binding` -/
def transportArchiveBinding (provider : HashProvider) (self : TransportGatewaySimulatorV1)
    (descriptor : TransportDescriptorV1) :
    TransportResult (Option TransportArchiveBindingV1) :=
  if self.sealedBatches = [] then .ok none
  else do
    let descriptorFingerprint ← descriptor.fingerprint provider
    match TransportArchiveBindingV1.new provider descriptor.electionId descriptor.manifestHash
        descriptorFingerprint descriptor.generation (self.sealedBatches.map fun batch ↦
          ⟨batch.batchId, batch.root, batch.acceptedUniqueCount, batch.reducedAnonymity⟩) with
    | .ok binding => pure (some binding)
    | .error _ => Except.error .invalidDescriptor

/-- `collect` -/
def collect (self : TransportGatewaySimulatorV1) (encoded : Bytes) :
    TransportResult PrivateBallotEnvelopeV1 × TransportGatewaySimulatorV1 :=
  (PrivateBallotEnvelopeV1.fromCanonicalCbor encoded,
    { self with receivedCount := saturatingSucc self.receivedCount })

/-- The answer to a capability that is remembered: a replay of its receipt for the same package,
and a refusal for another one. -/
def priorReceipt (prior : RetryRecordV1) (packageDigest : Bytes32) : VoterTransportReceiptV1 :=
  if prior.packageDigest ≠ packageDigest then ⟨.rejected, .genericDuplicate⟩
  else ⟨prior.receipt.state, match prior.receipt.state with
    | .accepted => .previousDeliveryAccepted
    | _ => .previousDeliveryRejected⟩

/-- The answer to a new intake. A duplicate nullifier is an acceptance only for a package whose
digest is still pending. -/
def settleIntake (self : TransportGatewaySimulatorV1) (result : GuiBallotIntakeResultV1)
    (packageDigest : Bytes32) : VoterTransportReceiptV1 × TransportGatewaySimulatorV1 :=
  if result.accepted then
    (⟨.accepted, .newDelivery⟩, { self with
      acceptedUniqueCount := saturatingSucc self.acceptedUniqueCount
      pendingDigests := self.pendingDigests ++ [packageDigest] })
  else if result.category = .duplicate then
    if packageDigest ∈ self.pendingDigests then
      (⟨.accepted, .previousDeliveryAccepted⟩, self)
    else (⟨.rejected, .genericDuplicate⟩, self)
  else (⟨.rejected, .newDelivery⟩, self)

/-- The record of an answer, unless retention is over. -/
def rememberRetry (self : TransportGatewaySimulatorV1) (commitment packageDigest : Bytes32)
    (receipt : VoterTransportReceiptV1) : TransportGatewaySimulatorV1 :=
  if self.retryRetention ≠ .expired then
    { self with retries := self.retries.insert commitment ⟨packageDigest, receipt⟩ }
  else self

section Deliver

variable (env : GatewayEnvironment)

/-- The commitment a retry capability is remembered under. -/
def capabilityCommitment (retryCapability : Bytes32) : Bytes32 :=
  hashDomainSeparated env.prims.provider .transportRetryCapabilityV1 retryCapability.toBytes

/-- `deliver_admitted` from the opened package on. -/
def deliverOpened (self : TransportGatewaySimulatorV1) (bytes : Bytes) (retryCapability : Bytes32)
    (session : GuiElectionSessionV1) (admissionGeneration : UInt64) :
    TransportResult (VoterTransportReceiptV1 × Bytes32) × TransportGatewaySimulatorV1 ×
      GuiElectionSessionV1 :=
  let digest := packageDigest env.prims.provider bytes
  let commitment := capabilityCommitment env retryCapability
  match self.retries.lookup commitment with
  | some prior => (.ok (priorReceipt prior digest, digest), self, session)
  | none =>
    if self.admission.state = .closed ∨ admissionGeneration ≠ self.admission.drainGeneration then
      (.error .unavailable, self, session)
    else
      let self := { self with verifiedCount := saturatingSucc self.verifiedCount }
      match session.intakeBallotPackageBytes env.prims bytes with
      | (.error _, session) => (.error .unavailable, self, session)
      | (.ok result, session) =>
        let (receipt, self) := self.settleIntake result digest
        (.ok (receipt, digest), self.rememberRetry commitment digest receipt, session)

/-- `deliver_admitted`; `crates/transport-gateway/src/lib.rs:1143`. -/
def deliverAdmitted (self : TransportGatewaySimulatorV1) (encoded : Bytes)
    (retryCapability : Bytes32) (session : GuiElectionSessionV1) (admissionGeneration : UInt64) :
    TransportResult (VoterTransportReceiptV1 × Bytes32) × TransportGatewaySimulatorV1 ×
      GuiElectionSessionV1 :=
  match self.collect encoded with
  | (.error e, self) => (.error e, self, session)
  | (.ok envelope, self) => match openEnvelopeBytesV1 env envelope with
    | .error e => (.error e, self, session)
    | .ok bytes => self.deliverOpened env bytes retryCapability session admissionGeneration

/-- `deliver_and_digest`; completion is booked even when the delivery failed. -/
def deliverAndDigest (self : TransportGatewaySimulatorV1) (encoded : Bytes)
    (retryCapability : Bytes32) (session : GuiElectionSessionV1) :
    TransportResult (VoterTransportReceiptV1 × Bytes32) × TransportGatewaySimulatorV1 ×
      GuiElectionSessionV1 :=
  match self.admission.admitOne session with
  | .error e => (.error e, self, session)
  | .ok (admissionGeneration, admission) =>
    let (result, self, session) := deliverAdmitted env { self with admission } encoded
      retryCapability session admissionGeneration
    match self.admission.finishAdmitted session admissionGeneration with
    | (.error e, admission, session) => (.error e, { self with admission }, session)
    | (.ok (), admission, session) => (result, { self with admission }, session)

/-- `deliver` -/
def deliver (self : TransportGatewaySimulatorV1) (encoded : Bytes) (retryCapability : Bytes32)
    (session : GuiElectionSessionV1) :
    TransportResult VoterTransportReceiptV1 × TransportGatewaySimulatorV1 ×
      GuiElectionSessionV1 :=
  let (result, self, session) := self.deliverAndDigest env encoded retryCapability session
  (result.map Prod.fst, self, session)

end Deliver

end TransportGatewaySimulatorV1

/-- `MAX_DURABLE_PENDING` -/
def maxDurablePending : Nat := 65536

/-- `finalized_transport_archive_binding_from_accepted_digests_v1` -/
def finalizedTransportArchiveBindingFromAcceptedDigestsV1 (provider : HashProvider)
    (descriptor : TransportDescriptorV1) (acceptedDigests : List Bytes32) :
    TransportResult (Option TransportArchiveBindingV1) :=
  if acceptedDigests = [] then .ok none
  else if maxDurablePending < acceptedDigests.length then .error .unavailable
  else
    let gateway := TransportGatewaySimulatorV1.default.seedPendingDigestsForRecovery acceptedDigests
    let (_, gateway) := gateway.sealPendingBatch provider descriptor.batch.acceptedUniqueFloor true
    gateway.transportArchiveBinding provider descriptor

/-! ### A sample gateway -/

namespace Sample

/-- Every key is an encapsulated one, and a ciphertext is its plaintext and sixteen bytes. -/
def hpke : HpkeCrate where
  isEncappedKey _ := true
  openCiphertext _ _ _ ciphertext _ := some (ciphertext.take (ciphertext.length - 16))

/-- The transport of the sample election, with payloads of 128 bytes and batches of two. -/
def descriptor : TransportDescriptorV1 where
  electionId := [1]
  manifestHash := Verifier.Sample.manifestHash
  generation := 1
  route := .offlineOnly
  onionEndpoints := []
  relayEndpoints := []
  gatewayPublicKey := Bytes32.replicate 3
  gatewayKeyId := .lit "gateway"
  receiptVerificationKeys := [Bytes32.replicate 5]
  padding := ⟨.lit "padding", 128⟩
  batch := ⟨.lit "batch", 2⟩
  validityEndEpoch := none
  rootKeyId := .lit "root"
  signature := ⟨List.replicate 64 0, length_zeros64⟩
  valid := by decide +kernel

/-- The gateway of the sample election. -/
def env : GatewayEnvironment := ⟨GuiCore.Sample.prims, hpke, descriptor, Bytes32.replicate 4⟩

/-- A sealed package. -/
def envelope (packageBytes : Bytes) : Bytes :=
  PrivateBallotEnvelopeV1.toCanonicalCbor
    { manifestHash := descriptor.manifestHash
      descriptorFingerprint := (descriptor.fingerprint env.prims.provider).toOption.getD default
      gatewayKeyId := descriptor.gatewayKeyId
      paddingPolicyId := descriptor.padding.id
      encapsulatedKey := Bytes32.replicate 6
      ciphertext := beBytes 4 packageBytes.length ++ packageBytes ++
        List.replicate (124 - packageBytes.length) 0 ++ List.replicate 16 0 }

/-- The sample election, open. -/
def session : GuiElectionSessionV1 := GuiCore.Sample.openSession.toOption.get
  GuiCore.Sample.isSome_openSession

private theorem eq_ok_get {ε α : Type} {result : Except ε α} (h : result.toOption.isSome = true) :
    result = .ok (result.toOption.get h) := by
  cases result with
  | error e => cases h
  | ok value => rfl

theorem reachable_session : GuiElectionSessionV1.Reachable env.prims session :=
  GuiCore.Sample.reachable_openSession (eq_ok_get _)

end Sample

end PrivateBallot.TransportGateway
