import Mathlib.Data.List.Chain
import PrivateBallot.Protocol.Cbor
import PrivateBallot.Protocol.Hashing

/-!
# Transport bindings

Library `Archive`. `crates/archive/src/transport_binding.rs`: the batches of the private transport
that an archive covers, in the order of their identities, with a commitment to the set of their
roots. Counts and identities are `u64`.
-/

namespace PrivateBallot.Archive

open PrivateBallot.Base
open PrivateBallot.Protocol

/-- `TRANSPORT_ARCHIVE_BINDING_PATH_V1` -/
def transportArchiveBindingPathV1 : Text := .lit "transport/archive-binding-v1.cbor"

/-- `TRANSPORT_ARCHIVE_BINDING_TYPE_ID_V1` -/
def transportArchiveBindingTypeIdV1 : Text :=
  .lit "TARI_CC_PRIVATE_BALLOT_TRANSPORT_ARCHIVE_BINDING_V1"

/-- `TRANSPORT_BATCH_SET_ALGORITHM_ID_V1` -/
def transportBatchSetAlgorithmIdV1 : Text := .lit "TARI_CC_PRIVATE_BALLOT_TRANSPORT_BATCH_SET_V1"

private def maxBatches : Nat := 4096

private def invalid {α : Type} (message : String) : Result α := fail .invalidData message

/-- `TransportArchiveBatchV1` -/
structure TransportArchiveBatchV1 where
  batchId : UInt64
  root : Bytes32
  acceptedUniqueCount : UInt64
  reducedAnonymity : Bool
deriving DecidableEq

/-- `batch_set_commitment`: over the roots in byte order. -/
def batchSetCommitment (provider : HashProvider) (batches : List TransportArchiveBatchV1) :
    Bytes32 :=
  hashDomainSeparated provider .transportBatchSetV1
    ((sortBytes Bytes32.toBytes (batches.map (·.root))).flatMap Bytes32.toBytes)

/-- `batches.sort_by_key(batch_id)` -/
def sortBatches (batches : List TransportArchiveBatchV1) : List TransportArchiveBatchV1 :=
  batches.insertionSort fun a b ↦ a.batchId ≤ b.batchId

/-- `TransportArchiveBindingV1` -/
structure TransportArchiveBindingV1 where
  electionId : Bytes
  manifestHash : ManifestHash
  descriptorFingerprint : Bytes32
  descriptorGeneration : UInt64
  batches : List TransportArchiveBatchV1
  finalBatchSetCommitment : Bytes32
deriving DecidableEq

namespace TransportArchiveBindingV1

section

variable (provider : HashProvider)

/-- `TransportArchiveBindingV1::new` -/
def new (electionId : Bytes) (manifestHash : ManifestHash) (descriptorFingerprint : Bytes32)
    (descriptorGeneration : UInt64) (batches : List TransportArchiveBatchV1) :
    Result TransportArchiveBindingV1 :=
  if electionId = [] ∨ 128 < electionId.length then
    invalid "transport binding election identity is invalid"
  else if batches = [] ∨ maxBatches < batches.length then
    invalid "transport binding must contain a bounded non-empty batch set"
  else if anyAdjacent (fun a b ↦ decide (a.batchId = b.batchId)) (sortBatches batches) then
    invalid "transport binding batch identities must be unique"
  else .ok ⟨electionId, manifestHash, descriptorFingerprint, descriptorGeneration,
    sortBatches batches, batchSetCommitment provider (sortBatches batches)⟩

/-- `verify_commitment` -/
def verifyCommitment (self : TransportArchiveBindingV1) : Result Unit := do
  let rebuilt ← new provider self.electionId self.manifestHash self.descriptorFingerprint
    self.descriptorGeneration self.batches
  refuseIf (decide (rebuilt.batches ≠ self.batches ∨
      rebuilt.finalBatchSetCommitment ≠ self.finalBatchSetCommitment)) .invalidData
    "transport binding batch set does not match its final commitment"

private def encodeBatch (batch : TransportArchiveBatchV1) : Bytes :=
  writeArrayLen 4 ++ writeUnsigned batch.batchId.toNat ++ writeByteString batch.root.toBytes ++
    writeUnsigned batch.acceptedUniqueCount.toNat ++ writeBool batch.reducedAnonymity

/-- The written items of a binding, in order. -/
private def encode (self : TransportArchiveBindingV1) : Bytes :=
  writeArrayLen 9 ++ writeUnsigned 1 ++ writeTextString transportArchiveBindingTypeIdV1 ++
    writeByteString self.electionId ++ writeByteString self.manifestHash.toBytes ++
    writeByteString self.descriptorFingerprint.toBytes ++
    writeUnsigned self.descriptorGeneration.toNat ++
    writeTextString transportBatchSetAlgorithmIdV1 ++ writeArrayLen self.batches.length ++
    self.batches.flatMap encodeBatch ++ writeByteString self.finalBatchSetCommitment.toBytes

/-- `TransportArchiveBindingV1::to_canonical_cbor` -/
def toCanonicalCbor (self : TransportArchiveBindingV1) : Result Bytes := do
  self.verifyCommitment provider
  refuseIf (decide (maxCanonicalObjectBytes < self.encode.length)) .protocolLimitExceeded
    "transport archive binding exceeds the canonical object limit"
  pure self.encode

private def readFixed : Read Bytes32 :=
  readBytes32 ⟨.invalidData, "transport binding digest length is invalid"⟩

private def readBatch : Read TransportArchiveBatchV1 := do
  let fields ← readArrayLen
  if fields ≠ 4 then
    invalid "transport binding batch has an invalid field count"
  let batchId ← readUnsigned
  let root ← readFixed
  let acceptedUniqueCount ← readUnsigned
  let reducedAnonymity ← readBool
  pure ⟨UInt64.ofNat batchId, root, UInt64.ofNat acceptedUniqueCount, reducedAnonymity⟩

private def readBatches : Read (List TransportArchiveBatchV1) := do
  let count ← readArrayLen
  if count = 0 ∨ maxBatches < count then
    invalid "transport binding batch count is invalid"
  readMany readBatch count

private def invalidHeader {α : Type} : Result α :=
  invalid "invalid transport archive binding header"

-- The three tests of the header are one `||`, so each item is read only if the one before it fits.
private def readHeader : Read Unit := do
  let fields ← readArrayLen
  if fields ≠ 9 then
    invalidHeader
  let version ← readUnsigned
  if version ≠ 1 then
    invalidHeader
  let typeId ← readTextString
  if typeId ≠ transportArchiveBindingTypeIdV1 then
    invalidHeader

private def readAlgorithm : Read Unit := do
  let algorithm ← readTextString
  if algorithm ≠ transportBatchSetAlgorithmIdV1 then
    invalid "unsupported transport batch-set algorithm"

private def readBinding : Read TransportArchiveBindingV1 := do
  readHeader
  let electionId ← readByteString
  let manifestHash ← readFixed
  let descriptorFingerprint ← readFixed
  let descriptorGeneration ← readUnsigned
  readAlgorithm
  let batches ← readBatches
  let finalBatchSetCommitment ← readFixed
  pure ⟨electionId, manifestHash, descriptorFingerprint, UInt64.ofNat descriptorGeneration,
    batches, finalBatchSetCommitment⟩

/-- `TransportArchiveBindingV1::from_canonical_cbor`;
`crates/archive/src/transport_binding.rs:218`. -/
def fromCanonicalCbor (bytes : Bytes) : Result TransportArchiveBindingV1 := do
  refuseIf (decide (maxCanonicalObjectBytes < bytes.length)) .protocolLimitExceeded
    "transport archive binding exceeds the canonical object limit"
  let read ← readAll readBinding bytes
  let output ← new provider read.electionId read.manifestHash read.descriptorFingerprint
    read.descriptorGeneration read.batches
  if output.finalBatchSetCommitment ≠ read.finalBatchSetCommitment then
    fail .nonCanonicalCbor
      "transport archive binding is not canonical or its commitment is invalid"
  let encoded ← output.toCanonicalCbor provider
  refuseIf (decide (encoded ≠ bytes)) .nonCanonicalCbor
    "transport archive binding is not canonical or its commitment is invalid"
  pure output

end

variable {provider : HashProvider}

private theorem reads_readBatch (batch : TransportArchiveBatchV1) :
    Reads readBatch (encodeBatch batch) batch := by
  unfold encodeBatch
  simp only [List.append_assoc]
  apply (reads_readArrayLen (by decide)).bind
  simp only [ne_eq, not_true_eq_false, if_false]
  apply (reads_readUnsigned batch.batchId.toNat_lt).bind
  apply (reads_readBytes32 _ _).bind
  apply (reads_readUnsigned batch.acceptedUniqueCount.toNat_lt).bind
  apply (reads_readBool _).bind_nil
  simp only [UInt64.ofNat_toNat]
  exact Reads.pure batch

private theorem reads_readBatches {batches : List TransportArchiveBatchV1} (hempty : batches ≠ [])
    (hlen : batches.length ≤ maxBatches) :
    Reads readBatches (writeArrayLen batches.length ++ batches.flatMap encodeBatch) batches := by
  have hcount : batches.length < 2 ^ 64 := Nat.lt_of_le_of_lt hlen (by decide)
  have hnot : ¬ (batches.length = 0 ∨ maxBatches < batches.length) := by
    rw [List.length_eq_zero_iff]
    rintro (hzero | hmany)
    · exact hempty hzero
    · omega
  apply (reads_readArrayLen hcount).bind
  simp only [hnot, if_false]
  exact Reads.many batches fun batch _ ↦ reads_readBatch batch

private theorem reads_readHeader :
    Reads readHeader (writeArrayLen 9 ++ (writeUnsigned 1 ++
      writeTextString transportArchiveBindingTypeIdV1)) () := by
  apply (reads_readArrayLen (by decide)).bind
  apply (reads_readUnsigned (by decide)).bind
  exact (reads_readTextString _).bind_nil (Reads.pure ())

private theorem reads_readBinding (self : TransportArchiveBindingV1) (hempty : self.batches ≠ [])
    (hlen : self.batches.length ≤ maxBatches) : Reads readBinding self.encode self := by
  have halgorithm : Reads readAlgorithm (writeTextString transportBatchSetAlgorithmIdV1) () :=
    (reads_readTextString _).bind_nil (Reads.pure ())
  have hwhole : Reads readBinding
      ((writeArrayLen 9 ++ (writeUnsigned 1 ++ writeTextString transportArchiveBindingTypeIdV1)) ++
        (writeByteString self.electionId ++ (writeByteString self.manifestHash.toBytes ++
          (writeByteString self.descriptorFingerprint.toBytes ++
            (writeUnsigned self.descriptorGeneration.toNat ++
              (writeTextString transportBatchSetAlgorithmIdV1 ++
                ((writeArrayLen self.batches.length ++ self.batches.flatMap encodeBatch) ++
                  writeByteString self.finalBatchSetCommitment.toBytes))))))) self := by
    apply reads_readHeader.bind
    apply (reads_readByteString _).bind
    apply (reads_readBytes32 _ _).bind
    apply (reads_readBytes32 _ _).bind
    apply (reads_readUnsigned self.descriptorGeneration.toNat_lt).bind
    apply halgorithm.bind
    apply (reads_readBatches hempty hlen).bind
    apply (reads_readBytes32 _ _).bind_nil
    simp only [UInt64.ofNat_toNat]
    exact Reads.pure self
  simpa only [encode, List.append_assoc] using hwhole

/-- The encoding of a binding is within the object limit. -/
theorem length_le_of_toCanonicalCbor {self : TransportArchiveBindingV1} {bytes : Bytes}
    (h : self.toCanonicalCbor provider = .ok bytes) : bytes.length ≤ maxCanonicalObjectBytes := by
  obtain ⟨u, -, hlimited⟩ := bind_eq_ok.mp h
  exact length_le_of_limited hlimited

private theorem length_encodeBatch_le (batch : TransportArchiveBatchV1) :
    (encodeBatch batch).length ≤ 69 := by
  have hfields := length_writeArrayLen_le 4
  have hid := length_writeUnsigned_le batch.batchId.toNat
  have hroot := length_writeByteString_le batch.root.toBytes
  have hcount := length_writeUnsigned_le batch.acceptedUniqueCount.toNat
  have hflag : (writeBool batch.reducedAnonymity).length = 1 := rfl
  rw [Bytes32.length_eq] at hroot
  simp only [encodeBatch, List.length_append]
  omega

-- The limit on the number of batches keeps every binding within the object limit.
private theorem length_encode_le {self : TransportArchiveBindingV1}
    (hid : self.electionId.length ≤ 128) (hbatches : self.batches.length ≤ maxBatches) :
    self.encode.length ≤ maxCanonicalObjectBytes := by
  have hfields := length_writeArrayLen_le 9
  have hversion := length_writeUnsigned_le 1
  have htype := length_writeTextString_le transportArchiveBindingTypeIdV1
  have helection := length_writeByteString_le self.electionId
  have hmanifest := length_writeByteString_le self.manifestHash.toBytes
  have hfingerprint := length_writeByteString_le self.descriptorFingerprint.toBytes
  have hgeneration := length_writeUnsigned_le self.descriptorGeneration.toNat
  have halgorithm := length_writeTextString_le transportBatchSetAlgorithmIdV1
  have hcount := length_writeArrayLen_le self.batches.length
  have hitems := length_flatMap_le self.batches fun batch _ ↦ length_encodeBatch_le batch
  have hcommitment := length_writeByteString_le self.finalBatchSetCommitment.toBytes
  have htypeLength : transportArchiveBindingTypeIdV1.len = 51 := by decide +kernel
  have halgorithmLength : transportBatchSetAlgorithmIdV1.len = 45 := by decide +kernel
  have hmaximum : maxBatches = 4096 := rfl
  have hlimit : maxCanonicalObjectBytes = 1048576 := rfl
  rw [Bytes32.length_eq] at hmanifest hfingerprint hcommitment
  rw [htypeLength] at htype
  rw [halgorithmLength] at halgorithm
  simp only [encode, List.length_append]
  omega

/-- A binding that was made can be encoded. -/
theorem exists_toCanonicalCbor_of_new {electionId : Bytes} {manifestHash : ManifestHash}
    {descriptorFingerprint : Bytes32} {descriptorGeneration : UInt64}
    {batches : List TransportArchiveBatchV1} {self : TransportArchiveBindingV1}
    (h : new provider electionId manifestHash descriptorFingerprint descriptorGeneration batches =
      .ok self) : ∃ bytes, self.toCanonicalCbor provider = .ok bytes := by
  unfold new at h
  split at h
  · cases h
  next hid =>
  split at h
  · cases h
  next hbatches =>
  split at h
  · cases h
  next hunique =>
  cases h
  have hsorted : sortBatches (sortBatches batches) = sortBatches batches := by
    apply List.Pairwise.insertionSort_eq
    exact List.pairwise_insertionSort _ _
  have hlength : (sortBatches batches).length = batches.length := List.length_insertionSort _ _
  simp only [not_or, Nat.not_lt] at hid hbatches
  have hagain : new provider electionId manifestHash descriptorFingerprint descriptorGeneration
      (sortBatches batches) = .ok ⟨electionId, manifestHash, descriptorFingerprint,
        descriptorGeneration, sortBatches batches,
        batchSetCommitment provider (sortBatches batches)⟩ := by
    have hnonempty : sortBatches batches ≠ [] := by
      rw [← List.length_pos_iff, hlength, List.length_pos_iff]
      exact hbatches.1
    have hfits : ¬ (sortBatches batches = [] ∨ maxBatches < (sortBatches batches).length) := by
      rw [not_or, Nat.not_lt, hlength]
      exact ⟨hnonempty, hbatches.2⟩
    have hvalid : ¬ (electionId = [] ∨ 128 < electionId.length) := by
      rw [not_or, Nat.not_lt]
      exact hid
    rw [new, if_neg hvalid, if_neg hfits, hsorted, if_neg hunique]
  refine ⟨_, bind_eq_ok.mpr ⟨(), ?_, bind_eq_ok.mpr ⟨(), ?_, rfl⟩⟩⟩
  · rw [verifyCommitment, hagain]
    simp [bind, Except.bind, refuseIf]
  · rw [refuseIf_eq_ok, decide_eq_false_iff_not, Nat.not_lt]
    apply length_encode_le hid.2
    show (sortBatches batches).length ≤ maxBatches
    rw [hlength]
    exact hbatches.2

/-- A binding that can be encoded is rebuilt from its own fields. -/
theorem new_of_toCanonicalCbor {self : TransportArchiveBindingV1} {bytes : Bytes}
    (h : self.toCanonicalCbor provider = .ok bytes) :
    new provider self.electionId self.manifestHash self.descriptorFingerprint
      self.descriptorGeneration self.batches = .ok self := by
  simp only [toCanonicalCbor, verifyCommitment, bind_eq_ok, refuseIf_eq_ok] at h
  obtain ⟨-, ⟨rebuilt, hnew, hsame⟩, -⟩ := h
  rw [decide_eq_false_iff_not, not_or, ne_eq, ne_eq, not_not, not_not] at hsame
  obtain ⟨hbatches, hcommitment⟩ := hsame
  rw [hnew]
  unfold new at hnew
  split at hnew
  · cases hnew
  · split at hnew
    · cases hnew
    · split at hnew
      · cases hnew
      · cases hnew
        dsimp only at hbatches hcommitment
        rw [hbatches] at hcommitment ⊢
        rw [hcommitment]

/-- A binding that can be encoded is decoded to itself. -/
theorem fromCanonicalCbor_toCanonicalCbor {self : TransportArchiveBindingV1} {bytes : Bytes}
    (h : self.toCanonicalCbor provider = .ok bytes) :
    fromCanonicalCbor provider bytes = .ok self := by
  have hnew := new_of_toCanonicalCbor h
  have hshape : self.batches ≠ [] ∧ self.batches.length ≤ maxBatches := by
    unfold new at hnew
    split at hnew
    · cases hnew
    · split at hnew
      · cases hnew
      · next hbounds =>
        rw [not_or, Nat.not_lt] at hbounds
        exact hbounds
  have hencoded := h
  simp only [toCanonicalCbor, bind_eq_ok, refuseIf_eq_ok] at hencoded
  obtain ⟨-, -, -, hsize, hbytes⟩ := hencoded
  cases hbytes
  have hlen := of_decide_eq_false hsize
  rw [Nat.not_lt] at hlen
  have hlimit := Nat.lt_of_le_of_lt hlen (show maxCanonicalObjectBytes < 2 ^ 64 by decide)
  have hread := readAll_of_reads (self.reads_readBinding hshape.1 hshape.2) hlimit
  simp only [fromCanonicalCbor, bind_eq_ok, refuseIf_eq_ok]
  refine ⟨(), hsize, self, hread, self, hnew, ?_⟩
  have hsame : decide (self.encode ≠ self.encode) = false := decide_eq_false (fun hne ↦ hne rfl)
  simp only [ne_eq, not_true_eq_false, if_false]
  refine bind_eq_ok.mpr ⟨self.encode, h, bind_eq_ok.mpr ⟨(), ?_, rfl⟩⟩
  rw [refuseIf_eq_ok]
  exact hsame

/-- A binding is decoded only from its own encoding. -/
theorem toCanonicalCbor_of_fromCanonicalCbor {self : TransportArchiveBindingV1} {bytes : Bytes}
    (h : fromCanonicalCbor provider bytes = .ok self) :
    self.toCanonicalCbor provider = .ok bytes := by
  simp only [fromCanonicalCbor, bind_eq_ok] at h
  obtain ⟨u, -, read, -, output, -, h⟩ := h
  split at h
  · obtain ⟨_, hfail, -⟩ := bind_eq_ok.mp h
    cases hfail
  · obtain ⟨encoded, hencoded, h⟩ := bind_eq_ok.mp h
    obtain ⟨_, hsame, houtput⟩ := bind_eq_ok.mp h
    rw [refuseIf_eq_ok, decide_eq_false_iff_not, ne_eq, not_not] at hsame
    cases houtput
    rw [hencoded, hsame]

/-- The batches of a binding that was made have ascending identities, whatever order they were
given in, and its commitment is the one to their roots. -/
theorem batches_of_new {electionId : Bytes} {manifestHash : ManifestHash}
    {descriptorFingerprint : Bytes32} {descriptorGeneration : UInt64}
    {batches : List TransportArchiveBatchV1} {self : TransportArchiveBindingV1}
    (h : new provider electionId manifestHash descriptorFingerprint descriptorGeneration batches =
      .ok self) :
    self.batches.Perm batches ∧ (self.batches.Pairwise fun a b ↦ a.batchId < b.batchId) ∧
      self.finalBatchSetCommitment = batchSetCommitment provider self.batches := by
  unfold new at h
  split at h
  · cases h
  split at h
  · cases h
  split at h
  · cases h
  next hunique =>
  cases h
  refine ⟨List.perm_insertionSort _ _, ?_, rfl⟩
  have hsorted : (sortBatches batches).Pairwise fun a b ↦ a.batchId ≤ b.batchId := by
    have : Std.Total fun a b : TransportArchiveBatchV1 ↦ a.batchId ≤ b.batchId :=
      ⟨fun a b ↦ UInt64.le_total a.batchId b.batchId⟩
    have : IsTrans TransportArchiveBatchV1 fun a b ↦ a.batchId ≤ b.batchId :=
      ⟨fun _ _ _ ↦ UInt64.le_trans⟩
    exact List.pairwise_insertionSort _ batches
  rw [Bool.not_eq_true, anyAdjacent_eq_false] at hunique
  have hchain : (sortBatches batches).IsChain fun a b ↦ a.batchId < b.batchId := by
    rw [List.isChain_iff_forall_rel_of_append_cons_cons] at hunique ⊢
    intro a b before after hsplit
    have hle := List.isChain_iff_forall_rel_of_append_cons_cons.mp hsorted.isChain hsplit
    exact UInt64.lt_of_le_of_ne hle (of_decide_eq_false (hunique hsplit))
  have : IsTrans TransportArchiveBatchV1 fun a b ↦ a.batchId < b.batchId :=
    ⟨fun _ _ _ ↦ UInt64.lt_trans⟩
  exact hchain.pairwise

end TransportArchiveBindingV1

end PrivateBallot.Archive
