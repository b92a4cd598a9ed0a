import PrivateBallot.GuiCore.ElectionStatus
import PrivateBallot.Protocol.CborItems

/-!
# Private transport

Library `GuiCore`. `crates/gui-core/src/transport.rs`: the descriptor of an election's transport,
the sealed envelope that carries one ballot package, and the receipts. HPKE and Ed25519 are
third-party code and are parameters. A text of the source that is only looked at for its length
is a `Text` here.
-/

namespace PrivateBallot.GuiCore

open PrivateBallot.Base
open PrivateBallot.Protocol
open PrivateBallot.Ballot

/-- `Result<α, TransportError>` -/
abbrev TransportResult (α : Type) := Except TransportError α

/-- The recurring guard of the transport code. -/
def refuseTransport (refused : Bool) (error : TransportError) : TransportResult Unit :=
  if refused then .error error else .ok ()

@[simp] theorem refuseTransport_eq_ok (refused : Bool) (error : TransportError) (u : Unit) :
    refuseTransport refused error = .ok u ↔ refused = false := by
  cases refused <;> simp [refuseTransport]

/-! ### Descriptors -/

/-- `TransportRoutePolicyV1` -/
inductive TransportRoutePolicyV1 where
  | offlineOnly
  | managedTorOrOffline
  | relayOrOffline
deriving DecidableEq, Repr

/-- `TransportRoutePolicyV1::code` -/
def TransportRoutePolicyV1.code : TransportRoutePolicyV1 → Nat
  | .offlineOnly => 0
  | .managedTorOrOffline => 1
  | .relayOrOffline => 2

/-- `PaddingPolicyV1` -/
structure PaddingPolicyV1 where
  id : Text
  paddedBytes : Nat
deriving DecidableEq

/-- `BatchPolicyV1` -/
structure BatchPolicyV1 where
  id : Text
  acceptedUniqueFloor : UInt64
deriving DecidableEq

def descriptorVersion : Nat := 1
def envelopeVersion : Nat := 1
def transportProtocolId : Text := .lit "tari-cc-private-ballot/private-transport/v1"
def hpkeSuiteId : Text := .lit "DHKEM(X25519,HKDF-SHA256)/HKDF-SHA256/ChaCha20Poly1305"
def maxEndpoints : Nat := 8
def maxEndpointBytes : Nat := 512
def maxKeyIdBytes : Nat := 128
def maxEnvelopeBytes : Nat := 1048576

/-- The fields of `TransportDescriptorV1`. -/
structure TransportDescriptorFields where
  electionId : Bytes
  manifestHash : ManifestHash
  generation : UInt64
  route : TransportRoutePolicyV1
  onionEndpoints : List Text
  relayEndpoints : List Text
  gatewayPublicKey : Bytes32
  gatewayKeyId : Text
  receiptVerificationKeys : List Bytes32
  padding : PaddingPolicyV1
  batch : BatchPolicyV1
  validityEndEpoch : Option UInt64
  rootKeyId : Text
  signature : SignatureBytes
deriving DecidableEq

namespace TransportDescriptorFields

/-- `validate_fields`; `crates/gui-core/src/transport.rs:625`. -/
def validateFields (self : TransportDescriptorFields) : TransportResult Unit :=
  if self.electionId = [] ∨ 128 < self.electionId.length ∨ self.gatewayKeyId.len = 0 ∨
      maxKeyIdBytes < self.gatewayKeyId.len ∨ self.rootKeyId.len = 0 ∨
      maxKeyIdBytes < self.rootKeyId.len ∨ self.padding.id.len = 0 ∨ self.batch.id.len = 0 ∨
      self.padding.paddedBytes < 4 ∨ maxEnvelopeBytes < self.padding.paddedBytes ∨
      maxEndpoints < self.receiptVerificationKeys.length then
    .error .invalidDescriptor
  else if maxEndpoints < self.onionEndpoints.length ∨
      maxEndpoints < self.relayEndpoints.length ∨
      ((self.onionEndpoints ++ self.relayEndpoints).any fun endpoint ↦
        decide (endpoint.len = 0) || decide (maxEndpointBytes < endpoint.len)) = true then
    .error .invalidDescriptor
  else .ok ()

/-- `write_text_vec` -/
def writeTextVec (values : List Text) : Bytes :=
  writeArrayLen values.length ++ values.flatMap writeTextString

/-- `to_canonical_cbor`: the sixteen fields and the signature. -/
def toCanonicalCbor (self : TransportDescriptorFields) : TransportResult Bytes := do
  self.validateFields
  pure (writeArrayLen 17 ++ writeUnsigned descriptorVersion ++
    writeTextString transportProtocolId ++ writeByteString self.electionId ++
    writeByteString self.manifestHash.toBytes ++ writeUnsigned self.generation.toNat ++
    writeUnsigned self.route.code ++ writeTextVec self.onionEndpoints ++
    writeTextVec self.relayEndpoints ++ writeByteString self.gatewayPublicKey.toBytes ++
    writeTextString self.gatewayKeyId ++ writeArrayLen self.receiptVerificationKeys.length ++
    (self.receiptVerificationKeys.flatMap fun key ↦ writeByteString key.toBytes) ++
    writeTextString self.padding.id ++ writeUnsigned self.padding.paddedBytes ++
    writeTextString self.batch.id ++ writeUnsigned self.batch.acceptedUniqueFloor.toNat ++
    writeUnsigned (self.validityEndEpoch.getD 0).toNat ++ writeTextString hpkeSuiteId ++
    writeTextString self.rootKeyId ++ writeByteString self.signature.val)

end TransportDescriptorFields

/-- `TransportDescriptorV1`: every constructor checks the fields. -/
structure TransportDescriptorV1 extends TransportDescriptorFields where
  valid : toTransportDescriptorFields.validateFields = .ok ()
deriving DecidableEq

namespace TransportDescriptorV1

/-- `fingerprint` -/
def fingerprint (provider : HashProvider) (self : TransportDescriptorV1) :
    TransportResult Bytes32 := do
  let encoded ← self.toTransportDescriptorFields.toCanonicalCbor
  pure (hashDomainSeparated provider .transportDescriptorV1 encoded)

/-- A descriptor has a fingerprint. -/
theorem exists_fingerprint (provider : HashProvider) (self : TransportDescriptorV1) :
    ∃ digest, self.fingerprint provider = .ok digest := by
  unfold fingerprint TransportDescriptorFields.toCanonicalCbor
  rw [self.valid]
  exact ⟨_, rfl⟩

/-- The election identity of a descriptor is not empty and at most 128 bytes long. -/
theorem electionId_bounds (self : TransportDescriptorV1) :
    self.electionId ≠ [] ∧ self.electionId.length ≤ 128 := by
  have h := self.valid
  unfold TransportDescriptorFields.validateFields at h
  split at h
  · cases h
  · next hfirst =>
    simp only [not_or, Nat.not_lt] at hfirst
    exact ⟨hfirst.1, hfirst.2.1⟩

end TransportDescriptorV1

/-! ### Envelopes -/

/-- `PrivateBallotEnvelopeV1` -/
structure PrivateBallotEnvelopeV1 where
  manifestHash : ManifestHash
  descriptorFingerprint : Bytes32
  gatewayKeyId : Text
  paddingPolicyId : Text
  encapsulatedKey : Bytes32
  ciphertext : Bytes
deriving DecidableEq

/-- `EnvelopeOpeningMaterialV1` -/
structure EnvelopeOpeningMaterialV1 where
  encapsulatedKey : Bytes32
  ciphertext : Bytes
  aad : Bytes
  paddedBytes : Nat
deriving DecidableEq

/-- `envelope_aad` -/
def envelopeAad (manifest : ManifestHash) (fingerprint : Bytes32) (keyId policy : Text) : Bytes :=
  writeArrayLen 6 ++ writeUnsigned envelopeVersion ++ writeTextString transportProtocolId ++
    writeByteString manifest.toBytes ++ writeByteString fingerprint.toBytes ++
    writeTextString keyId ++ writeTextString policy

/-- Readers of the transport code. -/
abbrev TransportRead := StateT CanonicalCborReader (Except TransportError)

namespace PrivateBallotEnvelopeV1

/-- `to_canonical_cbor` -/
def toCanonicalCbor (self : PrivateBallotEnvelopeV1) : Bytes :=
  writeArrayLen 7 ++ writeUnsigned envelopeVersion ++ writeByteString self.manifestHash.toBytes ++
    writeByteString self.descriptorFingerprint.toBytes ++ writeTextString self.gatewayKeyId ++
    writeTextString self.paddingPolicyId ++ writeByteString self.encapsulatedKey.toBytes ++
    writeByteString self.ciphertext

private def readEnvelopeFixed : TransportRead Bytes32 := do
  let bytes ← orError TransportError.invalidDescriptor readByteString
  match Bytes32.ofBytes? bytes with
  | some digest => pure digest
  | none => (.error .invalidDescriptor : TransportResult Bytes32)

private def readEnvelope : TransportRead PrivateBallotEnvelopeV1 := do
  let fields ← orError TransportError.invalidEnvelope readArrayLen
  refuseTransport (decide (fields ≠ 7)) .invalidEnvelope
  let version ← orError TransportError.invalidEnvelope readUnsigned
  refuseTransport (decide (version ≠ envelopeVersion)) .invalidEnvelope
  let manifestHash ← readEnvelopeFixed
  let descriptorFingerprint ← readEnvelopeFixed
  let gatewayKeyId ← orError TransportError.invalidEnvelope readTextString
  let paddingPolicyId ← orError TransportError.invalidEnvelope readTextString
  let encapsulatedKey ← readEnvelopeFixed
  let ciphertext ← orError TransportError.invalidEnvelope readByteString
  pure ⟨manifestHash, descriptorFingerprint, gatewayKeyId, paddingPolicyId, encapsulatedKey,
    ciphertext⟩

/-- `from_canonical_cbor`; `crates/gui-core/src/transport.rs:784`. -/
def fromCanonicalCbor (bytes : Bytes) : TransportResult PrivateBallotEnvelopeV1 := do
  refuseTransport (decide (maxEnvelopeBytes < bytes.length)) .oversizedPayload
  let (output, reader) ← readEnvelope (CanonicalCborReader.new bytes)
  refuseTransport (!reader.rest.isEmpty) .invalidEnvelope
  refuseTransport (decide (output.gatewayKeyId.len = 0) || decide (output.paddingPolicyId.len = 0)
    || decide (output.toCanonicalCbor ≠ bytes)) .invalidEnvelope
  pure output

private theorem reads_readEnvelopeFixed (value : Bytes32) :
    Reads readEnvelopeFixed (writeByteString value.toBytes) value := by
  apply (reads_orError _ (reads_readByteString _)).bind_nil
  simp only [Bytes32.ofBytes?_toBytes]
  exact Reads.pure value

private theorem reads_readEnvelope (self : PrivateBallotEnvelopeV1) :
    Reads readEnvelope self.toCanonicalCbor self := by
  unfold toCanonicalCbor
  simp only [List.append_assoc]
  apply (reads_orError _ (reads_readArrayLen (by decide))).bind
  apply Reads.nil_bind (reads_lift ((refuseTransport_eq_ok _ _ ()).mpr (by decide)))
  apply (reads_orError _ (reads_readUnsigned (by decide))).bind
  apply Reads.nil_bind (reads_lift ((refuseTransport_eq_ok _ _ ()).mpr (by decide)))
  apply (reads_readEnvelopeFixed _).bind
  apply (reads_readEnvelopeFixed _).bind
  apply (reads_orError _ (reads_readTextString _)).bind
  apply (reads_orError _ (reads_readTextString _)).bind
  apply (reads_readEnvelopeFixed _).bind
  exact (reads_orError _ (reads_readByteString _)).bind_nil (Reads.pure self)

/-- An envelope with both identifiers is read back from its encoding, unless that is too long. -/
theorem fromCanonicalCbor_toCanonicalCbor {self : PrivateBallotEnvelopeV1}
    (hkey : self.gatewayKeyId.len ≠ 0) (hpolicy : self.paddingPolicyId.len ≠ 0) :
    fromCanonicalCbor self.toCanonicalCbor =
      if maxEnvelopeBytes < self.toCanonicalCbor.length then .error .oversizedPayload
      else .ok self := by
  unfold fromCanonicalCbor
  by_cases hlong : maxEnvelopeBytes < self.toCanonicalCbor.length
  · rw [if_pos hlong, decide_eq_true hlong]
    rfl
  · have hsize : self.toCanonicalCbor.length < 2 ^ 64 := by
      have : maxEnvelopeBytes < 2 ^ 64 := by decide
      omega
    have hread := run_of_reads self.reads_readEnvelope hsize
    rw [if_neg hlong]
    simp [refuseTransport, hread, hlong, hkey, hpolicy, bind, Except.bind, pure, Except.pure]

/-- An envelope is decoded only from its own encoding, which is within the limit. -/
theorem fromCanonicalCbor_eq_ok {self : PrivateBallotEnvelopeV1} {bytes : Bytes}
    (h : fromCanonicalCbor bytes = .ok self) :
    self.toCanonicalCbor = bytes ∧ bytes.length ≤ maxEnvelopeBytes := by
  unfold fromCanonicalCbor at h
  obtain ⟨_, hsize, h⟩ := bind_eq_ok.mp h
  obtain ⟨⟨output, reader⟩, -, h⟩ := bind_eq_ok.mp h
  obtain ⟨_, -, h⟩ := bind_eq_ok.mp h
  obtain ⟨_, hsame, h⟩ := bind_eq_ok.mp h
  cases h
  rw [refuseTransport_eq_ok, decide_eq_false_iff_not, Nat.not_lt] at hsize
  rw [refuseTransport_eq_ok, Bool.or_eq_false_iff, decide_eq_false_iff_not, ne_eq, not_not] at hsame
  exact ⟨hsame.2, hsize⟩

/-- `receiver_opening_material` -/
def receiverOpeningMaterial (provider : HashProvider) (self : PrivateBallotEnvelopeV1)
    (descriptor : TransportDescriptorV1) : TransportResult EnvelopeOpeningMaterialV1 := do
  refuseTransport (decide (self.manifestHash ≠ descriptor.manifestHash)) .wrongElection
  let fingerprint ← descriptor.fingerprint provider
  refuseTransport (decide (self.descriptorFingerprint ≠ fingerprint) ||
    decide (self.gatewayKeyId ≠ descriptor.gatewayKeyId) ||
    decide (self.paddingPolicyId ≠ descriptor.padding.id)) .wrongDescriptor
  refuseTransport (decide (self.ciphertext.length ≠ descriptor.padding.paddedBytes + 16))
    .invalidEnvelope
  pure ⟨self.encapsulatedKey, self.ciphertext,
    envelopeAad self.manifestHash self.descriptorFingerprint self.gatewayKeyId
      self.paddingPolicyId, descriptor.padding.paddedBytes⟩

end PrivateBallotEnvelopeV1

/-! ### Receipts -/

/-- `VoterReceiptStateV1` -/
inductive VoterReceiptStateV1 where
  | received
  | accepted
  | rejected
deriving DecidableEq, Repr

/-- `RetryStatusV1` -/
inductive RetryStatusV1 where
  | newDelivery
  | previousDeliveryAccepted
  | previousDeliveryRejected
  | genericDuplicate
deriving DecidableEq, Repr

/-- `VoterTransportReceiptV1` -/
structure VoterTransportReceiptV1 where
  state : VoterReceiptStateV1
  retryStatus : RetryStatusV1
deriving DecidableEq, Repr

namespace VoterReceiptStateV1

/-- `receipt_state_code`, which is also the discriminant. -/
def code : VoterReceiptStateV1 → Nat
  | received => 0
  | accepted => 1
  | rejected => 2

end VoterReceiptStateV1

/-- `retry_status_code`, which is also the discriminant. -/
def RetryStatusV1.code : RetryStatusV1 → Nat
  | newDelivery => 0
  | previousDeliveryAccepted => 1
  | previousDeliveryRejected => 2
  | genericDuplicate => 3

def authenticatedReceiptVersion : Nat := 2
def maxReceiptKeyIdBytes : Nat := 128

/-- `AuthenticatedTransportReceiptV1` -/
structure AuthenticatedTransportReceiptV1 where
  receipt : VoterTransportReceiptV1
  descriptorFingerprint : Bytes32
  packageDigest : Bytes32
  batchRoot : Option Bytes32
  keyId : Text
  signature : SignatureBytes
deriving DecidableEq

namespace AuthenticatedTransportReceiptV1

/-- `message`: the bytes that are signed. -/
def message (receipt : VoterTransportReceiptV1) (descriptorFingerprint packageDigest : Bytes32)
    (batchRoot : Option Bytes32) (keyId : Text) : Bytes :=
  (Text.lit "tari-cc-private-ballot/transport-receipt/v2").toBytes ++ [0] ++
    [UInt8.ofNat receipt.state.code, UInt8.ofNat receipt.retryStatus.code] ++
    descriptorFingerprint.toBytes ++ packageDigest.toBytes ++
    (match batchRoot with
      | some root => 1 :: root.toBytes
      | none => [0]) ++ keyId.toBytes

/-- `sign_for_test_or_ceremony`, with the signature function of the key. -/
def signForTestOrCeremony (receipt : VoterTransportReceiptV1)
    (descriptorFingerprint packageDigest : Bytes32) (batchRoot : Option Bytes32) (keyId : Text)
    (sign : Bytes → SignatureBytes) : AuthenticatedTransportReceiptV1 :=
  ⟨receipt, descriptorFingerprint, packageDigest, batchRoot, keyId,
    sign (message receipt descriptorFingerprint packageDigest batchRoot keyId)⟩

/-- `to_canonical_cbor`; `crates/gui-core/src/transport.rs:991`. -/
def toCanonicalCbor (self : AuthenticatedTransportReceiptV1) : TransportResult Bytes :=
  if self.keyId.len = 0 ∨ maxReceiptKeyIdBytes < self.keyId.len then .error .invalidEnvelope
  else .ok (writeArrayLen 8 ++ writeUnsigned authenticatedReceiptVersion ++
    writeUnsigned self.receipt.state.code ++ writeUnsigned self.receipt.retryStatus.code ++
    writeByteString self.descriptorFingerprint.toBytes ++
    writeByteString self.packageDigest.toBytes ++
    writeByteString (self.batchRoot.elim [] Bytes32.toBytes) ++ writeTextString self.keyId ++
    writeByteString self.signature.val)

end AuthenticatedTransportReceiptV1

end PrivateBallot.GuiCore
