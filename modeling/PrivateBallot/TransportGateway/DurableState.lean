import PrivateBallot.TransportGateway.Gateway

/-!
# Durable state of the gateway

Library `TransportGateway`. `crates/transport-gateway/src/lib.rs:652-976`: the canonical snapshot
of a gateway that is bound to its descriptor, and the decoder, which checks the counters, the
batches and the size limits against each other. Reading and writing the file is left out.
-/

namespace PrivateBallot.TransportGateway

open PrivateBallot.Base PrivateBallot.Protocol PrivateBallot.GuiCore

def durableStateVersion : Nat := 1
def durableStateTypeId : Text := .lit "TARI_CC_PRIVATE_BALLOT_TRANSPORT_GATEWAY_STATE_V1"
def maxDurableRetries : Nat := 65536
def maxDurableBatches : Nat := 4096

namespace RetryRetentionV1

/-- `RetryRetentionV1::code` -/
def code : RetryRetentionV1 → Nat
  | .activeElection => 0
  | .verificationGrace => 1
  | .expired => 2

/-- `RetryRetentionV1::from_code` -/
def fromCode : Nat → TransportResult RetryRetentionV1
  | 0 => .ok .activeElection
  | 1 => .ok .verificationGrace
  | 2 => .ok .expired
  | _ => .error .invalidDescriptor

theorem fromCode_code (retention : RetryRetentionV1) : fromCode retention.code = .ok retention := by
  cases retention with
  | activeElection => rfl
  | verificationGrace => rfl
  | expired => rfl

end RetryRetentionV1

/-- `receipt_state_code` -/
def receiptStateCode : VoterReceiptStateV1 → Nat
  | .accepted => 1
  | .rejected => 2
  | .received => 0

/-- `receipt_state_from_code`: only a terminal result is durable. -/
def receiptStateFromCode : Nat → TransportResult VoterReceiptStateV1
  | 1 => .ok .accepted
  | 2 => .ok .rejected
  | _ => .error .invalidDescriptor

theorem receiptStateFromCode_eq_ok {code : Nat} {state : VoterReceiptStateV1} :
    receiptStateFromCode code = .ok state ↔
      code = receiptStateCode state ∧ state ≠ .received := by
  unfold receiptStateFromCode
  split
  · cases state <;> simp [receiptStateCode]
  · cases state <;> simp [receiptStateCode]
  · next hone htwo =>
    cases state with
    | received => simp
    | accepted => simpa [receiptStateCode] using hone
    | rejected => simpa [receiptStateCode] using htwo

/-! ### Encoding -/

section Encoding

variable (provider : HashProvider) (descriptor : TransportDescriptorV1)

private def encodeFixed (digest : Bytes32) : Bytes := writeByteString digest.toBytes

private def encodeDigests (digests : List Bytes32) : Bytes :=
  writeArrayLen digests.length ++ digests.flatMap encodeFixed

private def encodeRetry (entry : Bytes32 × RetryRecordV1) : Bytes :=
  writeArrayLen 3 ++ encodeFixed entry.1 ++ encodeFixed entry.2.packageDigest ++
    writeUnsigned (receiptStateCode entry.2.receipt.state)

private def encodeBatch (batch : SealedTransportBatchV1) : Bytes :=
  writeArrayLen 5 ++ writeUnsigned batch.batchId.toNat ++ encodeFixed batch.root ++
    writeUnsigned batch.acceptedUniqueCount.toNat ++ writeBool batch.reducedAnonymity ++
    encodeDigests batch.digests

private def encodeHeader : Bytes :=
  writeArrayLen 14 ++ writeUnsigned durableStateVersion ++ writeTextString durableStateTypeId

private def encodeBinding (fingerprint : Bytes32) : Bytes :=
  writeByteString descriptor.electionId ++ encodeFixed descriptor.manifestHash ++
    encodeFixed fingerprint ++ writeUnsigned descriptor.generation.toNat

private def encodeRetries (retries : DigestMap RetryRecordV1) : Bytes :=
  writeArrayLen retries.entries.length ++ retries.entries.flatMap encodeRetry

private def encodeBatches (batches : List SealedTransportBatchV1) : Bytes :=
  writeArrayLen batches.length ++ batches.flatMap encodeBatch

private def encodeState (fingerprint : Bytes32) (self : TransportGatewaySimulatorV1) : Bytes :=
  encodeHeader ++ encodeBinding descriptor fingerprint ++ writeUnsigned self.receivedCount.toNat ++
    writeUnsigned self.verifiedCount.toNat ++ writeUnsigned self.acceptedUniqueCount.toNat ++
    writeUnsigned self.nextBatchId.toNat ++ writeUnsigned self.retryRetention.code ++
    encodeRetries self.retries ++ encodeDigests (sortDedup self.pendingDigests) ++
    encodeBatches self.sealedBatches

/-- `durable_state` -/
def TransportGatewaySimulatorV1.durableState (self : TransportGatewaySimulatorV1) :
    TransportResult Bytes := do
  let fingerprint ← descriptor.fingerprint provider
  pure (encodeState descriptor fingerprint self)

end Encoding

/-! ### Decoding -/

section Decoding

variable (provider : HashProvider) (descriptor : TransportDescriptorV1)

private def invalid {α : Type} (read : Read α) : TransportRead α :=
  orError TransportError.invalidDescriptor read

/-- `read_fixed` -/
def readFixed : TransportRead Bytes32 :=
  invalid (readBytes32 ⟨.invalidData, "digest length is invalid"⟩)

private def readHeader : TransportRead Unit := do
  let fields ← invalid readArrayLen
  refuseTransport (decide (fields ≠ 14)) .invalidDescriptor
  let version ← invalid readUnsigned
  refuseTransport (decide (version ≠ durableStateVersion)) .invalidDescriptor
  let typeId ← invalid readTextString
  refuseTransport (decide (typeId ≠ durableStateTypeId)) .invalidDescriptor

private def readBinding : TransportRead Unit := do
  let electionId ← invalid readByteString
  let manifestHash ← readFixed
  let fingerprint ← readFixed
  let generation ← invalid readUnsigned
  let expected ← descriptor.fingerprint provider
  refuseTransport (decide (electionId ≠ descriptor.electionId ∨
    manifestHash ≠ descriptor.manifestHash ∨ fingerprint ≠ expected ∨
    generation ≠ descriptor.generation.toNat)) .wrongDescriptor

private def readCount : TransportRead UInt64 := do
  let value ← invalid readUnsigned
  pure (UInt64.ofNat value)

private def readRetention : TransportRead RetryRetentionV1 := do
  let code ← invalid readUnsigned
  RetryRetentionV1.fromCode code

private def readRetry : TransportRead (Bytes32 × RetryRecordV1) := do
  let fields ← invalid readArrayLen
  refuseTransport (decide (fields ≠ 3)) .invalidDescriptor
  let commitment ← readFixed
  let packageDigest ← readFixed
  let code ← invalid readUnsigned
  let state ← receiptStateFromCode code
  pure (commitment, ⟨packageDigest, ⟨state, .newDelivery⟩⟩)

-- The source inserts while it reads. Every failure of either is the same error.
private def retriesOf (entries : List (Bytes32 × RetryRecordV1)) :
    TransportResult (DigestMap RetryRecordV1) :=
  match DigestMap.empty.insertAll entries with
  | none => .error .invalidDescriptor
  | some retries => .ok retries

private def readRetries (retention : RetryRetentionV1) :
    TransportRead (DigestMap RetryRecordV1) := do
  let count ← invalid readArrayLen
  refuseTransport (decide (maxDurableRetries < count)) .invalidDescriptor
  let entries ← readMany readRetry count
  let retries ← retriesOf entries
  refuseTransport (decide (retention = .expired ∧ retries.entries ≠ [])) .invalidDescriptor
  pure retries

private def readPending : TransportRead (List Bytes32) := do
  let count ← invalid readArrayLen
  refuseTransport (decide (maxDurablePending < count)) .invalidDescriptor
  let digests ← readMany readFixed count
  let digests := sortBytes Bytes32.toBytes digests
  refuseTransport (anyAdjacent (fun a b ↦ decide (a = b)) digests) .invalidDescriptor
  pure digests

private def readBatch : TransportRead SealedTransportBatchV1 := do
  let fields ← invalid readArrayLen
  refuseTransport (decide (fields ≠ 5)) .invalidDescriptor
  let batchId ← readCount
  let root ← readFixed
  let acceptedUniqueCount ← readCount
  let reducedAnonymity ← invalid readBool
  let count ← invalid readArrayLen
  refuseTransport (decide (count = 0 ∨ maxDurablePending < count)) .invalidDescriptor
  let digests ← readMany readFixed count
  refuseTransport (anyAdjacent (fun a b ↦ decide (b.toBytes ≤ a.toBytes)) digests ||
    decide (acceptedUniqueCount.toNat ≠ digests.length)) .invalidDescriptor
  refuseTransport (decide (batchRoot provider digests ≠ some root)) .invalidDescriptor
  pure ⟨batchId, root, acceptedUniqueCount, reducedAnonymity, digests⟩

private def readBatches : TransportRead (List SealedTransportBatchV1) := do
  let count ← invalid readArrayLen
  refuseTransport (decide (maxDurableBatches < count)) .invalidDescriptor
  readMany (readBatch provider) count

private def readState : TransportRead TransportGatewaySimulatorV1 := do
  readHeader
  readBinding provider descriptor
  let receivedCount ← readCount
  let verifiedCount ← readCount
  let acceptedUniqueCount ← readCount
  let nextBatchId ← readCount
  let retryRetention ← readRetention
  let retries ← readRetries retryRetention
  let pendingDigests ← readPending
  let sealedBatches ← readBatches provider
  pure ⟨receivedCount, verifiedCount, acceptedUniqueCount, retries, .default, pendingDigests,
    sealedBatches, nextBatchId, retryRetention⟩

/-- `known_accepted` -/
def knownAccepted (self : TransportGatewaySimulatorV1) : Nat :=
  self.pendingDigests.length +
    (self.sealedBatches.map fun batch ↦ batch.acceptedUniqueCount.toNat).sum

/-- `decode_durable_state` -/
def decodeDurableState (bytes : Bytes) : TransportResult TransportGatewaySimulatorV1 := do
  let (state, reader) ← readState provider descriptor (CanonicalCborReader.new bytes)
  refuseTransport (!reader.rest.isEmpty) .invalidDescriptor
  refuseTransport (anyAdjacent (fun a b ↦ decide (b.batchId ≤ a.batchId)) state.sealedBatches ||
    state.sealedBatches.getLast?.any fun batch ↦ decide (state.nextBatchId ≤ batch.batchId))
    .invalidDescriptor
  refuseTransport (decide (state.acceptedUniqueCount.toNat ≠ knownAccepted state ∨
    state.verifiedCount < state.acceptedUniqueCount ∨
    state.receivedCount < state.verifiedCount)) .invalidDescriptor
  pure state

/-- `load_durable_state`, from the file's bytes on. -/
def loadDurableState (bytes : Bytes) : TransportResult TransportGatewaySimulatorV1 := do
  let state ← decodeDurableState provider descriptor bytes
  let encoded ← state.durableState provider descriptor
  refuseTransport (decide (encoded ≠ bytes)) .invalidDescriptor
  pure state

end Decoding

/-! ### What the decoder checks -/

section Sound

variable (provider : HashProvider)

/-- A batch commits to its digests. -/
structure IsSealed (batch : SealedTransportBatchV1) : Prop where
  nonempty : batch.digests ≠ []
  length_le : batch.digests.length ≤ maxDurablePending
  ascending : AscendingDigests batch.digests
  counted : batch.acceptedUniqueCount.toNat = batch.digests.length
  root : batchRoot provider batch.digests = some batch.root

/-- A gateway that the decoder admits. -/
structure IsDurable (gateway : TransportGatewaySimulatorV1) : Prop where
  retries_le : gateway.retries.entries.length ≤ maxDurableRetries
  terminal : ∀ entry ∈ gateway.retries.entries, entry.2.receipt.state ≠ .received
  expired : gateway.retryRetention = .expired → gateway.retries.entries = []
  pending_le : gateway.pendingDigests.length ≤ maxDurablePending
  nodup : gateway.pendingDigests.Nodup
  batches_le : gateway.sealedBatches.length ≤ maxDurableBatches
  isSealed : ∀ batch ∈ gateway.sealedBatches, IsSealed provider batch
  increasing : gateway.sealedBatches.Pairwise fun a b ↦ a.batchId < b.batchId
  below : ∀ batch ∈ gateway.sealedBatches, batch.batchId < gateway.nextBatchId
  counted : gateway.acceptedUniqueCount.toNat = knownAccepted gateway
  accepted_le : gateway.acceptedUniqueCount ≤ gateway.verifiedCount
  verified_le : gateway.verifiedCount ≤ gateway.receivedCount

end Sound

/-- What is left of a gateway when it is loaded again: the answers without their delivery status,
the pending digests in order, and an open gate. -/
def TransportGatewaySimulatorV1.reloaded (self : TransportGatewaySimulatorV1) :
    TransportGatewaySimulatorV1 :=
  { self with
    retries := self.retries.mapValues fun record ↦
      ⟨record.packageDigest, ⟨record.receipt.state, .newDelivery⟩⟩
    admission := .default
    pendingDigests := sortDedup self.pendingDigests }

variable {provider : HashProvider} {descriptor : TransportDescriptorV1}

/-! ### What was encoded is decoded -/

private theorem reads_invalid {α : Type} {d : Read α} {b : Bytes} {a : α} (h : Reads d b a) :
    Reads (invalid d) b a :=
  reads_orError _ h

private theorem reads_refuse {refused : Bool} {error : TransportError} (h : refused = false) :
    Reads (liftM (refuseTransport refused error) : TransportRead Unit) [] () :=
  reads_lift ((refuseTransport_eq_ok refused error ()).mpr h)

private theorem reads_readFixed (digest : Bytes32) : Reads readFixed (encodeFixed digest) digest :=
  reads_invalid (reads_readBytes32 _ digest)

private theorem reads_readHeader : Reads readHeader encodeHeader () := by
  unfold encodeHeader
  simp only [List.append_assoc]
  apply (reads_invalid (reads_readArrayLen (by decide))).bind
  apply (reads_refuse rfl).nil_bind
  apply (reads_invalid (reads_readUnsigned (by decide))).bind
  apply (reads_refuse rfl).nil_bind
  apply (reads_invalid (reads_readTextString _)).bind_nil
  exact reads_refuse (decide_eq_false (fun hne ↦ hne rfl))

private theorem reads_readBinding {fingerprint : Bytes32}
    (h : descriptor.fingerprint provider = .ok fingerprint) :
    Reads (readBinding provider descriptor) (encodeBinding descriptor fingerprint) () := by
  unfold encodeBinding
  simp only [List.append_assoc]
  apply (reads_invalid (reads_readByteString _)).bind
  apply (reads_readFixed _).bind
  apply (reads_readFixed _).bind
  apply (reads_invalid (reads_readUnsigned descriptor.generation.toNat_lt)).bind_nil
  apply (reads_lift h).nil_bind
  apply reads_refuse
  simp

private theorem reads_readCount (value : UInt64) :
    Reads readCount (writeUnsigned value.toNat) value := by
  apply (reads_invalid (reads_readUnsigned value.toNat_lt)).bind_nil
  rw [UInt64.ofNat_toNat]
  exact Reads.pure value

private theorem reads_readRetention (retention : RetryRetentionV1) :
    Reads readRetention (writeUnsigned retention.code) retention := by
  have hcode : retention.code < 2 ^ 64 := by cases retention <;> decide
  apply (reads_invalid (reads_readUnsigned hcode)).bind_nil
  exact reads_lift retention.fromCode_code

private theorem reads_readRetry {commitment digest : Bytes32} {state : VoterReceiptStateV1}
    (h : state ≠ .received) :
    Reads readRetry (encodeRetry (commitment, ⟨digest, ⟨state, .newDelivery⟩⟩))
      (commitment, ⟨digest, ⟨state, .newDelivery⟩⟩) := by
  have hcode : receiptStateCode state < 2 ^ 64 := by cases state <;> decide
  unfold encodeRetry
  simp only [List.append_assoc]
  apply (reads_invalid (reads_readArrayLen (by decide))).bind
  apply (reads_refuse rfl).nil_bind
  apply (reads_readFixed _).bind
  apply (reads_readFixed _).bind
  apply (reads_invalid (reads_readUnsigned hcode)).bind_nil
  apply (reads_lift (receiptStateFromCode_eq_ok.mpr ⟨rfl, h⟩)).nil_bind
  exact Reads.pure _

private theorem reads_readRetries {self : TransportGatewaySimulatorV1}
    (h : IsDurable provider self) :
    Reads (readRetries self.retryRetention) (encodeRetries self.retries) self.reloaded.retries := by
  have hlen : self.reloaded.retries.entries.length = self.retries.entries.length :=
    List.length_map _
  have hencoded : encodeRetries self.retries = writeArrayLen self.reloaded.retries.entries.length ++
      self.reloaded.retries.entries.flatMap encodeRetry := by
    rw [hlen]
    show _ = _ ++ (self.retries.entries.map _).flatMap encodeRetry
    rw [List.flatMap_map]
    rfl
  have hle := h.retries_le
  rw [← hlen] at hle
  rw [hencoded]
  apply (reads_invalid (reads_readArrayLen (Nat.lt_of_le_of_lt hle (by decide)))).bind
  apply (reads_refuse (decide_eq_false (Nat.not_lt.mpr hle))).nil_bind
  have hmany : Reads (readMany readRetry self.reloaded.retries.entries.length)
      (self.reloaded.retries.entries.flatMap encodeRetry) self.reloaded.retries.entries := by
    apply Reads.many
    intro entry hentry
    obtain ⟨old, hold, rfl⟩ := List.mem_map.mp hentry
    exact reads_readRetry (h.terminal old hold)
  apply hmany.bind_nil
  have hretries : retriesOf self.reloaded.retries.entries = .ok self.reloaded.retries := by
    rw [retriesOf, DigestMap.insertAll_entries]
  apply (reads_lift hretries).nil_bind
  have hexpired : decide (self.retryRetention = .expired ∧ self.reloaded.retries.entries ≠ []) =
      false := by
    apply decide_eq_false
    rintro ⟨hretention, hne⟩
    apply hne
    rw [← List.length_eq_zero_iff, hlen, h.expired hretention]
    rfl
  apply (reads_refuse hexpired).nil_bind
  exact Reads.pure _

private theorem reads_readMany_digests (digests : List Bytes32) :
    Reads (readMany readFixed digests.length) (digests.flatMap encodeFixed) digests :=
  Reads.many digests fun digest _ ↦ reads_readFixed digest

private theorem reads_readPending {self : TransportGatewaySimulatorV1}
    (h : IsDurable provider self) :
    Reads readPending (encodeDigests (sortDedup self.pendingDigests))
      (sortDedup self.pendingDigests) := by
  have hascending := ascending_sortDedup self.pendingDigests
  have hle := h.pending_le
  rw [← length_sortDedup h.nodup] at hle
  apply (reads_invalid (reads_readArrayLen (Nat.lt_of_le_of_lt hle (by decide)))).bind
  apply (reads_refuse (decide_eq_false (Nat.not_lt.mpr hle))).nil_bind
  apply (reads_readMany_digests _).bind_nil
  have hsorted : sortBytes Bytes32.toBytes (sortDedup self.pendingDigests) =
      sortDedup self.pendingDigests := sortBytes_of_ascending hascending
  have hdistinct : anyAdjacent (fun a b ↦ decide (a = b)) (sortDedup self.pendingDigests) =
      false := by
    rw [anyAdjacent_eq_false]
    apply hascending.nodup.isChain.imp
    intro a b hne
    exact decide_eq_false hne
  rw [hsorted]
  apply (reads_refuse hdistinct).nil_bind
  exact Reads.pure _

private theorem reads_readBatch {batch : SealedTransportBatchV1} (h : IsSealed provider batch) :
    Reads (readBatch provider) (encodeBatch batch) batch := by
  have hnonempty : ¬ (batch.digests.length = 0 ∨ maxDurablePending < batch.digests.length) := by
    rw [List.length_eq_zero_iff, not_or, Nat.not_lt]
    exact ⟨h.nonempty, h.length_le⟩
  have hordered : (anyAdjacent (fun a b ↦ decide (b.toBytes ≤ a.toBytes)) batch.digests ||
      decide (batch.acceptedUniqueCount.toNat ≠ batch.digests.length)) = false := by
    rw [Bool.or_eq_false_iff, anyAdjacent_eq_false]
    constructor
    · apply (List.Pairwise.isChain h.ascending).imp
      intro a b hlt
      exact decide_eq_false (List.not_le.mpr hlt)
    · exact decide_eq_false (not_not.mpr h.counted)
  unfold encodeBatch encodeDigests
  simp only [List.append_assoc]
  apply (reads_invalid (reads_readArrayLen (by decide))).bind
  apply (reads_refuse rfl).nil_bind
  apply (reads_readCount _).bind
  apply (reads_readFixed _).bind
  apply (reads_readCount _).bind
  apply (reads_invalid (reads_readBool _)).bind
  apply (reads_invalid (reads_readArrayLen (Nat.lt_of_le_of_lt h.length_le (by decide)))).bind
  apply (reads_refuse (decide_eq_false hnonempty)).nil_bind
  apply (reads_readMany_digests _).bind_nil
  apply (reads_refuse hordered).nil_bind
  apply (reads_refuse (decide_eq_false (not_not.mpr h.root))).nil_bind
  exact Reads.pure batch

private theorem reads_readBatches {self : TransportGatewaySimulatorV1}
    (h : IsDurable provider self) :
    Reads (readBatches provider) (encodeBatches self.sealedBatches) self.sealedBatches := by
  have hle := h.batches_le
  apply (reads_invalid (reads_readArrayLen (Nat.lt_of_le_of_lt hle (by decide)))).bind
  apply (reads_refuse (decide_eq_false (Nat.not_lt.mpr hle))).nil_bind
  exact Reads.many _ fun batch hbatch ↦ reads_readBatch (h.isSealed batch hbatch)

private theorem reads_readState {self : TransportGatewaySimulatorV1} {fingerprint : Bytes32}
    (hfingerprint : descriptor.fingerprint provider = .ok fingerprint)
    (h : IsDurable provider self) :
    Reads (readState provider descriptor) (encodeState descriptor fingerprint self)
      self.reloaded := by
  unfold encodeState
  simp only [List.append_assoc]
  apply reads_readHeader.bind
  apply (reads_readBinding hfingerprint).bind
  apply (reads_readCount _).bind
  apply (reads_readCount _).bind
  apply (reads_readCount _).bind
  apply (reads_readCount _).bind
  apply (reads_readRetention _).bind
  apply (reads_readRetries h).bind
  apply (reads_readPending h).bind
  apply (reads_readBatches h).bind_nil
  exact Reads.pure _

/-! ### The size of a snapshot -/

private theorem length_encodeFixed_le (digest : Bytes32) : (encodeFixed digest).length ≤ 41 := by
  have h := length_writeByteString_le digest.toBytes
  rw [digest.length_eq] at h
  exact h

private theorem length_encodeDigests_le {digests : List Bytes32}
    (h : digests.length ≤ maxDurablePending) : (encodeDigests digests).length ≤ 2 ^ 22 := by
  have hlen := length_writeArrayLen_le digests.length
  have hmany := length_flatMap_le digests fun digest _ ↦ length_encodeFixed_le digest
  have hmax : maxDurablePending = 65536 := rfl
  rw [encodeDigests, List.length_append]
  omega

private theorem length_encodeRetry_le (entry : Bytes32 × RetryRecordV1) :
    (encodeRetry entry).length ≤ 100 := by
  have hlen := length_writeArrayLen_le 3
  have hcommitment := length_encodeFixed_le entry.1
  have hdigest := length_encodeFixed_le entry.2.packageDigest
  have hcode := length_writeUnsigned_le (receiptStateCode entry.2.receipt.state)
  simp only [encodeRetry, List.length_append]
  omega

private theorem length_encodeBatch_le {batch : SealedTransportBatchV1}
    (h : batch.digests.length ≤ maxDurablePending) : (encodeBatch batch).length ≤ 2 ^ 23 := by
  have hlen := length_writeArrayLen_le 5
  have hid := length_writeUnsigned_le batch.batchId.toNat
  have hroot := length_encodeFixed_le batch.root
  have hcount := length_writeUnsigned_le batch.acceptedUniqueCount.toNat
  have hbool : (writeBool batch.reducedAnonymity).length = 1 := rfl
  have hdigests := length_encodeDigests_le h
  simp only [encodeBatch, List.length_append]
  omega

private theorem length_encodeState_lt {self : TransportGatewaySimulatorV1} (fingerprint : Bytes32)
    (h : IsDurable provider self) : (encodeState descriptor fingerprint self).length < 2 ^ 64 := by
  have hheader : encodeHeader.length ≤ 100 := by decide +kernel
  have helection := length_writeByteString_le descriptor.electionId
  have hid := descriptor.electionId_bounds.2
  have hmanifest := length_encodeFixed_le descriptor.manifestHash
  have hfingerprint := length_encodeFixed_le fingerprint
  have hgeneration := length_writeUnsigned_le descriptor.generation.toNat
  have hreceived := length_writeUnsigned_le self.receivedCount.toNat
  have hverified := length_writeUnsigned_le self.verifiedCount.toNat
  have haccepted := length_writeUnsigned_le self.acceptedUniqueCount.toNat
  have hnext := length_writeUnsigned_le self.nextBatchId.toNat
  have hretention := length_writeUnsigned_le self.retryRetention.code
  have hretriesLen := length_writeArrayLen_le self.retries.entries.length
  have hretries := length_flatMap_le self.retries.entries fun entry _ ↦ length_encodeRetry_le entry
  have hpending : (encodeDigests (sortDedup self.pendingDigests)).length ≤ 2 ^ 22 := by
    apply length_encodeDigests_le
    rw [length_sortDedup h.nodup]
    exact h.pending_le
  have hbatchesLen := length_writeArrayLen_le self.sealedBatches.length
  have hbatches : (self.sealedBatches.flatMap encodeBatch).length ≤
      self.sealedBatches.length * 2 ^ 23 :=
    length_flatMap_le self.sealedBatches fun batch hbatch ↦
      length_encodeBatch_le (h.isSealed batch hbatch).length_le
  have hretriesLe : self.retries.entries.length ≤ 65536 := h.retries_le
  have hbatchesLe : self.sealedBatches.length ≤ 4096 := h.batches_le
  simp only [encodeState, encodeBinding, encodeRetries, encodeBatches, List.length_append]
  omega

/-! ### Save and load -/

/-- A gateway that the decoder admits is decoded from its snapshot, and the result has the same
snapshot. -/
theorem IsDurable.decode_durableState {self : TransportGatewaySimulatorV1}
    (h : IsDurable provider self) (descriptor : TransportDescriptorV1) : ∃ bytes,
    self.durableState provider descriptor = .ok bytes ∧
      decodeDurableState provider descriptor bytes = .ok self.reloaded ∧
      self.reloaded.durableState provider descriptor = .ok bytes := by
  obtain ⟨fingerprint, hfingerprint⟩ := descriptor.exists_fingerprint provider
  refine ⟨encodeState descriptor fingerprint self, ?_, ?_, ?_⟩
  · rw [TransportGatewaySimulatorV1.durableState, hfingerprint]
    rfl
  · have hread : readState provider descriptor
        (CanonicalCborReader.new (encodeState descriptor fingerprint self)) =
          .ok (self.reloaded, ⟨[], (encodeState descriptor fingerprint self).length⟩) := by
      apply reads_readState hfingerprint h
      refine ⟨(List.append_nil _).symm, ?_, length_encodeState_lt fingerprint h⟩
      simp only [CanonicalCborReader.new, Nat.zero_add]
    have hordered : (anyAdjacent (fun a b ↦ decide (b.batchId ≤ a.batchId))
        self.reloaded.sealedBatches || self.reloaded.sealedBatches.getLast?.any fun batch ↦
          decide (self.reloaded.nextBatchId ≤ batch.batchId)) = false := by
      rw [Bool.or_eq_false_iff, anyAdjacent_eq_false]
      constructor
      · apply (List.Pairwise.isChain h.increasing).imp
        intro a b hlt
        exact decide_eq_false (UInt64.not_le.mpr hlt)
      · rw [Option.any_eq_false]
        intro batch hlast
        exact decide_eq_false (UInt64.not_le.mpr (h.below batch (List.mem_of_getLast? hlast)))
    have hcounts : decide (self.reloaded.acceptedUniqueCount.toNat ≠ knownAccepted self.reloaded ∨
        self.reloaded.verifiedCount < self.reloaded.acceptedUniqueCount ∨
        self.reloaded.receivedCount < self.reloaded.verifiedCount) = false := by
      have hknown : knownAccepted self.reloaded = knownAccepted self := by
        show (sortDedup self.pendingDigests).length + _ = _
        rw [length_sortDedup h.nodup]
        rfl
      apply decide_eq_false
      rw [hknown, not_or, not_or, not_not]
      exact ⟨h.counted, UInt64.not_lt.mpr h.accepted_le, UInt64.not_lt.mpr h.verified_le⟩
    unfold decodeDurableState
    simp only [bind_eq_ok, refuseTransport_eq_ok]
    exact ⟨_, hread, (), rfl, (), hordered, (), hcounts, rfl⟩
  · rw [TransportGatewaySimulatorV1.durableState, hfingerprint]
    have hpending : sortDedup self.reloaded.pendingDigests = sortDedup self.pendingDigests :=
      sortDedup_of_ascending (ascending_sortDedup self.pendingDigests)
    have hretries : encodeRetries self.reloaded.retries = encodeRetries self.retries := by
      show writeArrayLen (self.retries.entries.map _).length ++
        (self.retries.entries.map _).flatMap encodeRetry = _
      rw [List.length_map, List.flatMap_map]
      rfl
    show Except.ok (encodeState descriptor fingerprint self.reloaded) = _
    unfold encodeState
    rw [hpending, hretries]
    rfl

/-! ### What is decoded -/

private theorem run_refuse_eq_ok {refused : Bool} {error : TransportError}
    {reader next : CanonicalCborReader} {u : Unit}
    (h : (liftM (refuseTransport refused error) : TransportRead Unit) reader = .ok (u, next)) :
    refused = false ∧ next = reader := by
  obtain ⟨hrefused, hnext⟩ := run_lift_eq_ok.mp h
  exact ⟨(refuseTransport_eq_ok refused error u).mp hrefused, hnext⟩

variable {reader next : CanonicalCborReader}

private theorem readRetry_eq_ok {entry : Bytes32 × RetryRecordV1}
    (h : readRetry reader = .ok (entry, next)) : entry.2.receipt.state ≠ .received := by
  obtain ⟨_, _, -, h⟩ := run_bind_eq_ok.mp h
  obtain ⟨_, _, -, h⟩ := run_bind_eq_ok.mp h
  obtain ⟨_, _, -, h⟩ := run_bind_eq_ok.mp h
  obtain ⟨_, _, -, h⟩ := run_bind_eq_ok.mp h
  obtain ⟨_, _, -, h⟩ := run_bind_eq_ok.mp h
  obtain ⟨state, _, hstate, h⟩ := run_bind_eq_ok.mp h
  cases h
  exact (receiptStateFromCode_eq_ok.mp (run_lift_eq_ok.mp hstate).1).2

private theorem readRetries_eq_ok {retention : RetryRetentionV1} {retries : DigestMap RetryRecordV1}
    (h : readRetries retention reader = .ok (retries, next)) :
    retries.entries.length ≤ maxDurableRetries ∧
      (∀ entry ∈ retries.entries, entry.2.receipt.state ≠ .received) ∧
      (retention = .expired → retries.entries = []) := by
  obtain ⟨count, _, -, h⟩ := run_bind_eq_ok.mp h
  obtain ⟨_, _, hlimit, h⟩ := run_bind_eq_ok.mp h
  obtain ⟨entries, _, hentries, h⟩ := run_bind_eq_ok.mp h
  obtain ⟨found, _, hfound, h⟩ := run_bind_eq_ok.mp h
  obtain ⟨_, _, hexpired, h⟩ := run_bind_eq_ok.mp h
  cases h
  obtain ⟨hlen, hmem⟩ := readMany_eq_ok hentries
  have hperm : retries.entries.Perm entries := by
    have hinsert := (run_lift_eq_ok.mp hfound).1
    unfold retriesOf at hinsert
    split at hinsert
    · cases hinsert
    · next hsome =>
      cases hinsert
      have hperm := DigestMap.insertAll_eq_some hsome
      rwa [show (DigestMap.empty : DigestMap RetryRecordV1).entries = [] from rfl,
        List.append_nil] at hperm
  refine ⟨?_, ?_, ?_⟩
  · rw [hperm.length_eq, hlen]
    exact Nat.not_lt.mp (of_decide_eq_false (run_refuse_eq_ok hlimit).1)
  · intro entry hentry
    obtain ⟨_, _, hread⟩ := hmem entry (hperm.mem_iff.mp hentry)
    exact readRetry_eq_ok hread
  · intro hretention
    have hnot := of_decide_eq_false (run_refuse_eq_ok hexpired).1
    exact not_not.mp fun hne ↦ hnot ⟨hretention, hne⟩

private theorem readPending_eq_ok {digests : List Bytes32}
    (h : readPending reader = .ok (digests, next)) :
    digests.length ≤ maxDurablePending ∧ AscendingDigests digests := by
  obtain ⟨count, _, -, h⟩ := run_bind_eq_ok.mp h
  obtain ⟨_, _, hlimit, h⟩ := run_bind_eq_ok.mp h
  obtain ⟨found, _, hfound, h⟩ := run_bind_eq_ok.mp h
  obtain ⟨_, _, hdistinct, h⟩ := run_bind_eq_ok.mp h
  cases h
  constructor
  · rw [length_sortBytes, (readMany_eq_ok hfound).1]
    exact Nat.not_lt.mp (of_decide_eq_false (run_refuse_eq_ok hlimit).1)
  · apply ascending_sortBytes
    have hkeys : (fun a b : Bytes32 ↦ decide (a.toBytes = b.toBytes)) =
        fun a b ↦ decide (a = b) := by
      funext a b
      exact decide_eq_decide.mpr Bytes32.ext_iff.symm
    rw [hkeys]
    exact (run_refuse_eq_ok hdistinct).1

private theorem readBatch_eq_ok {batch : SealedTransportBatchV1}
    (h : readBatch provider reader = .ok (batch, next)) : IsSealed provider batch := by
  obtain ⟨_, _, -, h⟩ := run_bind_eq_ok.mp h
  obtain ⟨_, _, -, h⟩ := run_bind_eq_ok.mp h
  obtain ⟨batchId, _, -, h⟩ := run_bind_eq_ok.mp h
  obtain ⟨root, _, -, h⟩ := run_bind_eq_ok.mp h
  obtain ⟨acceptedUniqueCount, _, -, h⟩ := run_bind_eq_ok.mp h
  obtain ⟨reducedAnonymity, _, -, h⟩ := run_bind_eq_ok.mp h
  obtain ⟨count, _, -, h⟩ := run_bind_eq_ok.mp h
  obtain ⟨_, _, hlimit, h⟩ := run_bind_eq_ok.mp h
  obtain ⟨digests, _, hdigests, h⟩ := run_bind_eq_ok.mp h
  obtain ⟨_, _, hordered, h⟩ := run_bind_eq_ok.mp h
  obtain ⟨_, _, hroot, h⟩ := run_bind_eq_ok.mp h
  cases h
  have hlimit := of_decide_eq_false (run_refuse_eq_ok hlimit).1
  rw [← (readMany_eq_ok hdigests).1, List.length_eq_zero_iff, not_or, Nat.not_lt] at hlimit
  obtain ⟨hascending, hcounted⟩ := Bool.or_eq_false_iff.mp (run_refuse_eq_ok hordered).1
  refine ⟨hlimit.1, hlimit.2, ?_, not_not.mp (of_decide_eq_false hcounted),
    not_not.mp (of_decide_eq_false (run_refuse_eq_ok hroot).1)⟩
  have : IsTrans Bytes32 fun a b ↦ a.toBytes < b.toBytes :=
    ⟨fun _ _ _ hab hbc ↦ List.lt_trans hab hbc⟩
  apply List.isChain_iff_pairwise.mp
  apply (anyAdjacent_eq_false.mp hascending).imp
  intro a b hle
  exact List.not_le.mp (of_decide_eq_false hle)

-- The batch identities increase, so the last one bounds them all.
private theorem below_of_last {batches : List SealedTransportBatchV1} {nextBatchId : UInt64}
    (hincreasing : batches.Pairwise fun a b ↦ a.batchId < b.batchId)
    (hlast : (batches.getLast?.any fun batch ↦ decide (nextBatchId ≤ batch.batchId)) = false)
    {batch : SealedTransportBatchV1} (hbatch : batch ∈ batches) : batch.batchId < nextBatchId := by
  induction batches using List.reverseRecOn with
  | nil => cases hbatch
  | append_singleton batches last _ =>
    rw [List.getLast?_concat, Option.any_some] at hlast
    have hbelow : last.batchId < nextBatchId := UInt64.not_le.mp (of_decide_eq_false hlast)
    rcases List.mem_append.mp hbatch with hbefore | hsame
    · have hlt := (List.pairwise_append.mp hincreasing).2.2 batch hbefore last
        (List.mem_singleton.mpr rfl)
      exact UInt64.lt_trans hlt hbelow
    · rw [List.mem_singleton.mp hsame]
      exact hbelow

/-- A gateway that was decoded is one that the decoder admits. -/
theorem isDurable_of_decode {bytes : Bytes} {self : TransportGatewaySimulatorV1}
    (h : decodeDurableState provider descriptor bytes = .ok self) : IsDurable provider self := by
  simp only [decodeDurableState, bind_eq_ok, refuseTransport_eq_ok] at h
  obtain ⟨⟨state, last⟩, hread, -, -, -, hordered, -, hcounts, hself⟩ := h
  cases hself
  obtain ⟨hincreasing, hlast⟩ := Bool.or_eq_false_iff.mp hordered
  have hcounts := of_decide_eq_false hcounts
  rw [not_or, not_or, not_not] at hcounts
  unfold readState at hread
  obtain ⟨_, _, -, hread⟩ := run_bind_eq_ok.mp hread
  obtain ⟨_, _, -, hread⟩ := run_bind_eq_ok.mp hread
  obtain ⟨receivedCount, _, -, hread⟩ := run_bind_eq_ok.mp hread
  obtain ⟨verifiedCount, _, -, hread⟩ := run_bind_eq_ok.mp hread
  obtain ⟨acceptedUniqueCount, _, -, hread⟩ := run_bind_eq_ok.mp hread
  obtain ⟨nextBatchId, _, -, hread⟩ := run_bind_eq_ok.mp hread
  obtain ⟨retryRetention, _, -, hread⟩ := run_bind_eq_ok.mp hread
  obtain ⟨retries, _, hretries, hread⟩ := run_bind_eq_ok.mp hread
  obtain ⟨pendingDigests, _, hpending, hread⟩ := run_bind_eq_ok.mp hread
  obtain ⟨sealedBatches, _, hbatches, hread⟩ := run_bind_eq_ok.mp hread
  cases hread
  obtain ⟨hretriesLe, hterminal, hexpired⟩ := readRetries_eq_ok hretries
  obtain ⟨hpendingLe, hascending⟩ := readPending_eq_ok hpending
  obtain ⟨count, _, -, hbatches⟩ := run_bind_eq_ok.mp hbatches
  obtain ⟨_, _, hlimit, hbatches⟩ := run_bind_eq_ok.mp hbatches
  obtain ⟨hbatchesLen, hbatchesMem⟩ := readMany_eq_ok hbatches
  have : IsTrans SealedTransportBatchV1 fun a b ↦ a.batchId < b.batchId :=
    ⟨fun _ _ _ hab hbc ↦ UInt64.lt_trans hab hbc⟩
  have hpairwise : sealedBatches.Pairwise fun a b ↦ a.batchId < b.batchId := by
    apply List.isChain_iff_pairwise.mp
    apply (anyAdjacent_eq_false.mp hincreasing).imp
    intro a b hle
    exact UInt64.not_le.mp (of_decide_eq_false hle)
  refine ⟨hretriesLe, hterminal, hexpired, hpendingLe, hascending.nodup, ?_, ?_, hpairwise, ?_,
    hcounts.1, UInt64.not_lt.mp hcounts.2.1, UInt64.not_lt.mp hcounts.2.2⟩
  · show sealedBatches.length ≤ _
    rw [hbatchesLen]
    exact Nat.not_lt.mp (of_decide_eq_false (run_refuse_eq_ok hlimit).1)
  · intro batch hbatch
    obtain ⟨_, _, hread⟩ := hbatchesMem batch hbatch
    exact readBatch_eq_ok hread
  · intro batch hbatch
    exact below_of_last hpairwise hlast hbatch

end PrivateBallot.TransportGateway
