import PrivateBallot.GuiCore.Transport

/-!
# Receipts on the wire

Library `GuiCore`. `crates/gui-core/src/transport.rs:864-1110`: how a voter reads the bytes of an
authenticated receipt. Every receipt that can be encoded is far below the size limit, and is read
back.
-/

namespace PrivateBallot.GuiCore

open PrivateBallot.Base PrivateBallot.Protocol

/-- `MAX_AUTHENTICATED_RECEIPT_BYTES` -/
def maxAuthenticatedReceiptBytes : Nat := 4 * 1024

/-- `receipt_state_from_code` -/
def VoterReceiptStateV1.fromCode : Nat → TransportResult VoterReceiptStateV1
  | 0 => .ok .received
  | 1 => .ok .accepted
  | 2 => .ok .rejected
  | _ => .error .invalidEnvelope

/-- `retry_status_from_code` -/
def RetryStatusV1.fromCode : Nat → TransportResult RetryStatusV1
  | 0 => .ok .newDelivery
  | 1 => .ok .previousDeliveryAccepted
  | 2 => .ok .previousDeliveryRejected
  | 3 => .ok .genericDuplicate
  | _ => .error .invalidEnvelope

@[simp] theorem VoterReceiptStateV1.fromCode_code (state : VoterReceiptStateV1) :
    fromCode state.code = .ok state := by
  cases state <;> rfl

@[simp] theorem RetryStatusV1.fromCode_code (status : RetryStatusV1) :
    fromCode status.code = .ok status := by
  cases status <;> rfl

/-- `.map_err(|_| TransportError::InvalidEnvelope)` -/
def orInvalidEnvelope {α : Type} (read : Read α) : TransportRead α := orError .invalidEnvelope read

/-- `read_fixed::<32>` -/
def readFixedDigest : TransportRead Bytes32 := do
  let bytes ← orError TransportError.invalidDescriptor readByteString
  match Bytes32.ofBytes? bytes with
  | some digest => pure digest
  | none => (.error .invalidDescriptor : TransportResult Bytes32)

/-- `read_fixed::<64>` -/
def readFixedReceiptSignature : TransportRead SignatureBytes := do
  let bytes ← orError TransportError.invalidDescriptor readByteString
  if h : bytes.length = 64 then pure ⟨bytes, h⟩
  else (.error .invalidDescriptor : TransportResult SignatureBytes)

/-- An empty byte string is no batch root. -/
def batchRootOf (bytes : Bytes) : TransportResult (Option Bytes32) :=
  if bytes.length = 0 then .ok none
  else match Bytes32.ofBytes? bytes with
    | some root => .ok (some root)
    | none => .error .invalidEnvelope

namespace AuthenticatedTransportReceiptV1

/-- The items of `from_canonical_cbor`, in order. -/
def readReceipt : TransportRead AuthenticatedTransportReceiptV1 := do
  let fields ← orInvalidEnvelope readArrayLen
  refuseTransport (decide (fields ≠ 8)) .invalidEnvelope
  let version ← orInvalidEnvelope readUnsigned
  refuseTransport (decide (version ≠ authenticatedReceiptVersion)) .invalidEnvelope
  let stateCode ← orInvalidEnvelope readUnsigned
  let state ← VoterReceiptStateV1.fromCode stateCode
  let retryCode ← orInvalidEnvelope readUnsigned
  let retryStatus ← RetryStatusV1.fromCode retryCode
  let descriptorFingerprint ← readFixedDigest
  let packageDigest ← readFixedDigest
  let batchRootBytes ← orInvalidEnvelope readByteString
  let batchRoot ← batchRootOf batchRootBytes
  let keyId ← orInvalidEnvelope readTextString
  let signature ← readFixedReceiptSignature
  pure ⟨⟨state, retryStatus⟩, descriptorFingerprint, packageDigest, batchRoot, keyId, signature⟩

/-- `from_canonical_cbor`; `crates/gui-core/src/transport.rs:1014`. -/
def fromCanonicalCbor (bytes : Bytes) : TransportResult AuthenticatedTransportReceiptV1 := do
  refuseTransport (decide (maxAuthenticatedReceiptBytes < bytes.length)) .oversizedPayload
  let (output, reader) ← readReceipt (.new bytes)
  refuseTransport (!reader.rest.isEmpty) .invalidEnvelope
  refuseTransport (decide (output.keyId.len = 0) ||
    decide (maxReceiptKeyIdBytes < output.keyId.len)) .invalidEnvelope
  let encoded ← output.toCanonicalCbor
  refuseTransport (decide (encoded ≠ bytes)) .invalidEnvelope
  pure output

variable {self : AuthenticatedTransportReceiptV1} {bytes : Bytes}

/-- The items of a receipt. -/
def encoded (self : AuthenticatedTransportReceiptV1) : Bytes :=
  writeArrayLen 8 ++ writeUnsigned authenticatedReceiptVersion ++
    writeUnsigned self.receipt.state.code ++ writeUnsigned self.receipt.retryStatus.code ++
    writeByteString self.descriptorFingerprint.toBytes ++
    writeByteString self.packageDigest.toBytes ++
    writeByteString (self.batchRoot.elim [] Bytes32.toBytes) ++ writeTextString self.keyId ++
    writeByteString self.signature.val

/-- A receipt is encoded if its key identifier is neither empty nor too long. -/
theorem toCanonicalCbor_eq_ok : self.toCanonicalCbor = .ok bytes ↔
    self.keyId.len ≠ 0 ∧ self.keyId.len ≤ maxReceiptKeyIdBytes ∧ bytes = self.encoded := by
  unfold toCanonicalCbor
  by_cases hkey : self.keyId.len = 0 ∨ maxReceiptKeyIdBytes < self.keyId.len
  · rw [if_pos hkey]
    constructor
    · nofun
    · rintro ⟨hne, hle, -⟩
      omega
  · rw [if_neg hkey]
    rw [not_or, Nat.not_lt] at hkey
    constructor
    · intro h
      cases h
      exact ⟨hkey.1, hkey.2, rfl⟩
    · rintro ⟨-, -, rfl⟩
      rfl

/-- The largest receipt is far below the size limit. -/
theorem length_le_of_toCanonicalCbor (h : self.toCanonicalCbor = .ok bytes) :
    bytes.length ≤ maxAuthenticatedReceiptBytes := by
  obtain ⟨-, hkey, rfl⟩ := toCanonicalCbor_eq_ok.mp h
  have harray := length_writeArrayLen_le 8
  have hversion := length_writeUnsigned_le authenticatedReceiptVersion
  have hstate := length_writeUnsigned_le self.receipt.state.code
  have hretry := length_writeUnsigned_le self.receipt.retryStatus.code
  have hdescriptor := length_writeByteString_le self.descriptorFingerprint.toBytes
  have hpackage := length_writeByteString_le self.packageDigest.toBytes
  have hroot := length_writeByteString_le (self.batchRoot.elim [] Bytes32.toBytes)
  have hrootLength : (self.batchRoot.elim [] Bytes32.toBytes).length ≤ 32 := by
    cases self.batchRoot with
    | none => exact Nat.zero_le 32
    | some root => exact Nat.le_of_eq root.length_eq
  have htext := length_writeTextString_le self.keyId
  have hsignature := length_writeByteString_le self.signature.val
  rw [self.descriptorFingerprint.length_eq] at hdescriptor
  rw [self.packageDigest.length_eq] at hpackage
  rw [self.signature.property] at hsignature
  rw [maxReceiptKeyIdBytes] at hkey
  simp only [encoded, List.length_append, maxAuthenticatedReceiptBytes]
  omega

theorem reads_readFixedDigest (value : Bytes32) :
    Reads readFixedDigest (writeByteString value.toBytes) value := by
  apply (reads_orError _ (reads_readByteString _)).bind_nil
  simp only [Bytes32.ofBytes?_toBytes]
  exact Reads.pure value

theorem reads_readFixedReceiptSignature (value : SignatureBytes) :
    Reads readFixedReceiptSignature (writeByteString value.val) value := by
  apply (reads_orError _ (reads_readByteString _)).bind_nil
  simp only [value.property, dite_true]
  exact Reads.pure value

private theorem batchRootOf_elim (root : Option Bytes32) :
    batchRootOf (root.elim [] Bytes32.toBytes) = .ok root := by
  cases root with
  | none => rfl
  | some root =>
    have hlen : ¬ root.toBytes.length = 0 := by rw [root.length_eq]; decide
    rw [batchRootOf, Option.elim_some, if_neg hlen, Bytes32.ofBytes?_toBytes]

private theorem reads_readReceipt (self : AuthenticatedTransportReceiptV1) :
    Reads readReceipt self.encoded self := by
  have hstate : self.receipt.state.code < 2 ^ 64 := by cases self.receipt.state <;> decide
  have hretry : self.receipt.retryStatus.code < 2 ^ 64 := by
    cases self.receipt.retryStatus <;> decide
  unfold encoded
  simp only [List.append_assoc]
  apply (reads_orError _ (reads_readArrayLen (by decide))).bind
  apply Reads.nil_bind (reads_lift ((refuseTransport_eq_ok _ _ ()).mpr (by decide)))
  apply (reads_orError _ (reads_readUnsigned (by decide))).bind
  apply Reads.nil_bind (reads_lift ((refuseTransport_eq_ok _ _ ()).mpr (by decide)))
  apply (reads_orError _ (reads_readUnsigned hstate)).bind
  apply Reads.nil_bind (reads_lift (VoterReceiptStateV1.fromCode_code _))
  apply (reads_orError _ (reads_readUnsigned hretry)).bind
  apply Reads.nil_bind (reads_lift (RetryStatusV1.fromCode_code _))
  apply (reads_readFixedDigest _).bind
  apply (reads_readFixedDigest _).bind
  apply (reads_orError _ (reads_readByteString _)).bind
  apply Reads.nil_bind (reads_lift (batchRootOf_elim _))
  apply (reads_orError _ (reads_readTextString _)).bind
  exact (reads_readFixedReceiptSignature _).bind_nil (Reads.pure self)

/-- A receipt that can be encoded is read back. -/
theorem fromCanonicalCbor_toCanonicalCbor (h : self.toCanonicalCbor = .ok bytes) :
    fromCanonicalCbor bytes = .ok self := by
  have hlen := length_le_of_toCanonicalCbor h
  obtain ⟨hne, hkey, rfl⟩ := toCanonicalCbor_eq_ok.mp h
  have hlimit : maxAuthenticatedReceiptBytes < 2 ^ 64 := by decide
  have hread := run_of_reads (reads_readReceipt self) (Nat.lt_of_le_of_lt hlen hlimit)
  have hsize : refuseTransport (decide (maxAuthenticatedReceiptBytes < self.encoded.length))
      .oversizedPayload = .ok () := by
    rw [refuseTransport_eq_ok, decide_eq_false_iff_not]
    omega
  have hid : refuseTransport (decide (self.keyId.len = 0) ||
      decide (maxReceiptKeyIdBytes < self.keyId.len)) .invalidEnvelope = .ok () := by
    rw [refuseTransport_eq_ok, Bool.or_eq_false_iff, decide_eq_false_iff_not,
      decide_eq_false_iff_not]
    exact ⟨hne, Nat.not_lt.mpr hkey⟩
  unfold fromCanonicalCbor
  simp only [hsize, hread, hid, h, bind, Except.bind]
  simp [refuseTransport]
  rfl

end AuthenticatedTransportReceiptV1

end PrivateBallot.GuiCore
