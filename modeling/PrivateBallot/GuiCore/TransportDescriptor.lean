import PrivateBallot.GuiCore.TransportReceipt
import PrivateBallot.Protocol.Framing

/-!
# Descriptors on the wire

Library `GuiCore`. `crates/gui-core/src/transport.rs:322-360` and `:449-624`: how a descriptor is
signed, and how its bytes are read. The wire has no place for an optional epoch, and writes zero
for none.
-/

namespace PrivateBallot.GuiCore

open PrivateBallot.Base PrivateBallot.Protocol

/-- `TransportRoutePolicyV1::from_code` -/
def TransportRoutePolicyV1.fromCode : Nat → TransportResult TransportRoutePolicyV1
  | 0 => .ok .offlineOnly
  | 1 => .ok .managedTorOrOffline
  | 2 => .ok .relayOrOffline
  | _ => .error .invalidDescriptor

@[simp] theorem TransportRoutePolicyV1.fromCode_code (route : TransportRoutePolicyV1) :
    fromCode route.code = .ok route := by
  cases route <;> rfl

/-- `.map_err(|_| TransportError::InvalidDescriptor)` -/
def orInvalidDescriptor {α : Type} (read : Read α) : TransportRead α :=
  orError .invalidDescriptor read

/-- The loop of `read_text_vec` and of `read_key_vec`. -/
def readVec {α : Type} (item : TransportRead α) : TransportRead (List α) := do
  let len ← orInvalidDescriptor readArrayLen
  refuseTransport (decide (maxEndpoints < len)) .invalidDescriptor
  readMany item len

/-- `read_text_vec` -/
def readTextVec : TransportRead (List Text) := readVec (orInvalidDescriptor readTextString)

/-- `read_key_vec` -/
def readKeyVec : TransportRead (List Bytes32) := readVec readFixedDigest

/-- `(validity != 0).then_some(validity)` -/
def validityOf (validity : UInt64) : Option UInt64 := if validity ≠ 0 then some validity else none

/-- The signature of a descriptor that is not signed yet. -/
def noSignature : SignatureBytes := ⟨List.replicate 64 0, length_zeros64⟩

namespace TransportDescriptorFields

/-- The sixteen items of `write` that are signed. -/
def encodeFields (self : TransportDescriptorFields) : Bytes :=
  writeUnsigned descriptorVersion ++ writeTextString transportProtocolId ++
    writeByteString self.electionId ++ writeByteString self.manifestHash.toBytes ++
    writeUnsigned self.generation.toNat ++ writeUnsigned self.route.code ++
    writeTextVec self.onionEndpoints ++ writeTextVec self.relayEndpoints ++
    writeByteString self.gatewayPublicKey.toBytes ++ writeTextString self.gatewayKeyId ++
    (writeArrayLen self.receiptVerificationKeys.length ++
      self.receiptVerificationKeys.flatMap fun key ↦ writeByteString key.toBytes) ++
    writeTextString self.padding.id ++ writeUnsigned self.padding.paddedBytes ++
    writeTextString self.batch.id ++ writeUnsigned self.batch.acceptedUniqueFloor.toNat ++
    writeUnsigned (self.validityEndEpoch.getD 0).toNat ++ writeTextString hpkeSuiteId ++
    writeTextString self.rootKeyId

/-- `unsigned_canonical_cbor` -/
def unsignedCanonicalCbor (self : TransportDescriptorFields) : TransportResult Bytes := do
  self.validateFields
  pure (writeArrayLen 16 ++ self.encodeFields)

/-- `signing_message` -/
def signingMessage (self : TransportDescriptorFields) : TransportResult Bytes := do
  let unsigned ← self.unsignedCanonicalCbor
  pure (domainSeparatedInput .transportDescriptorV1 unsigned)

/-- The items between the array header and the signature, in order. -/
def readFields : TransportRead TransportDescriptorFields := do
  let version ← orInvalidDescriptor readUnsigned
  let protocol ← orInvalidDescriptor readTextString
  refuseTransport (decide (version ≠ descriptorVersion) || decide (protocol ≠ transportProtocolId))
    .invalidDescriptor
  let electionId ← orInvalidDescriptor readByteString
  let manifestHash ← readFixedDigest
  let generation ← orInvalidDescriptor readUnsigned
  let routeCode ← orInvalidDescriptor readUnsigned
  let route ← TransportRoutePolicyV1.fromCode routeCode
  let onionEndpoints ← readTextVec
  let relayEndpoints ← readTextVec
  let gatewayPublicKey ← readFixedDigest
  let gatewayKeyId ← orInvalidDescriptor readTextString
  let receiptVerificationKeys ← readKeyVec
  let paddingId ← orInvalidDescriptor readTextString
  let paddedBytes ← orInvalidDescriptor readUnsigned
  let batchId ← orInvalidDescriptor readTextString
  let acceptedUniqueFloor ← orInvalidDescriptor readUnsigned
  let validity ← orInvalidDescriptor readUnsigned
  let suite ← orInvalidDescriptor readTextString
  refuseTransport (decide (suite ≠ hpkeSuiteId)) .invalidDescriptor
  let rootKeyId ← orInvalidDescriptor readTextString
  pure ⟨electionId, manifestHash, UInt64.ofNat generation, route, onionEndpoints, relayEndpoints,
    gatewayPublicKey, gatewayKeyId, receiptVerificationKeys, ⟨paddingId, paddedBytes⟩,
    ⟨batchId, UInt64.ofNat acceptedUniqueFloor⟩, validityOf (UInt64.ofNat validity), rootKeyId,
    noSignature⟩

/-- The items of `from_canonical_cbor`, in order. -/
def readDescriptor : TransportRead TransportDescriptorFields := do
  let fields ← orInvalidDescriptor readArrayLen
  refuseTransport (decide (fields ≠ 17)) .invalidDescriptor
  let unsigned ← readFields
  let signature ← readFixedReceiptSignature
  pure { unsigned with signature := signature }

end TransportDescriptorFields

namespace TransportDescriptorV1

/-- `validate_fields()?` -/
def ofFields (fields : TransportDescriptorFields) : TransportResult TransportDescriptorV1 :=
  if h : fields.validateFields = .ok () then .ok ⟨fields, h⟩ else .error .invalidDescriptor

/-- `sign_for_test_or_ceremony`: the arguments are the fields but the signature, which is not
looked at. -/
def signForTestOrCeremony (fields : TransportDescriptorFields) (sign : Bytes → SignatureBytes) :
    TransportResult TransportDescriptorV1 := do
  let message ← TransportDescriptorFields.signingMessage fields
  ofFields { fields with signature := sign message }

/-- `from_canonical_cbor`; `crates/gui-core/src/transport.rs:455`. -/
def fromCanonicalCbor (bytes : Bytes) : TransportResult TransportDescriptorV1 := do
  let (fields, reader) ← TransportDescriptorFields.readDescriptor (.new bytes)
  refuseTransport (!reader.rest.isEmpty) .invalidDescriptor
  let descriptor ← ofFields fields
  let encoded ← descriptor.toTransportDescriptorFields.toCanonicalCbor
  refuseTransport (decide (encoded ≠ bytes)) .invalidDescriptor
  pure descriptor

end TransportDescriptorV1

/-! ### Descriptors are read back -/

private theorem reads_readVec {α : Type} {item : TransportRead α} {write : α → Bytes}
    {values : List α} (hlen : values.length ≤ maxEndpoints)
    (hitem : ∀ value ∈ values, Reads item (write value) value) :
    Reads (readVec item) (writeArrayLen values.length ++ values.flatMap write) values := by
  have hlimit : maxEndpoints < 2 ^ 64 := by decide
  apply (reads_orError _ (reads_readArrayLen (by omega))).bind
  apply Reads.nil_bind (reads_lift ((refuseTransport_eq_ok _ _ ()).mpr (by simpa using hlen)))
  exact Reads.many values hitem

private theorem reads_readTextVec {values : List Text} (hlen : values.length ≤ maxEndpoints) :
    Reads readTextVec (TransportDescriptorFields.writeTextVec values) values :=
  reads_readVec hlen fun _ _ ↦ reads_orError _ (reads_readTextString _)

private theorem reads_readKeyVec {values : List Bytes32} (hlen : values.length ≤ maxEndpoints) :
    Reads readKeyVec (writeArrayLen values.length ++
      values.flatMap fun key ↦ writeByteString key.toBytes) values :=
  reads_readVec hlen fun _ _ ↦ AuthenticatedTransportReceiptV1.reads_readFixedDigest _

namespace TransportDescriptorFields

/-- The fields as the wire has them: a validity of zero is none. -/
def onWire (self : TransportDescriptorFields) : TransportDescriptorFields :=
  { self with validityEndEpoch := validityOf (self.validityEndEpoch.getD 0) }

/-- The fields that a signature is about. -/
def signed (self : TransportDescriptorFields) : TransportDescriptorFields :=
  { self with signature := noSignature }

variable {self other : TransportDescriptorFields}

theorem onWire_eq_self : self.onWire = self ↔ self.validityEndEpoch ≠ some 0 := by
  have hvalidity : validityOf (self.validityEndEpoch.getD 0) = self.validityEndEpoch ↔
      self.validityEndEpoch ≠ some 0 := by
    cases self.validityEndEpoch with
    | none => simp [validityOf]
    | some epoch =>
      by_cases hepoch : epoch = 0
      · simp [validityOf, hepoch]
      · simp [validityOf, hepoch]
  rw [← hvalidity]
  constructor
  · intro h
    exact congrArg validityEndEpoch h
  · intro h
    rw [onWire, h]

/-- The bounds that the checks of the fields give. -/
theorem bounds_of_validateFields (h : self.validateFields = .ok ()) :
    self.padding.paddedBytes ≤ maxEnvelopeBytes ∧
      self.receiptVerificationKeys.length ≤ maxEndpoints ∧
      self.onionEndpoints.length ≤ maxEndpoints ∧ self.relayEndpoints.length ≤ maxEndpoints := by
  unfold validateFields at h
  split at h
  · cases h
  · next hfields =>
    split at h
    · cases h
    · next hendpoints =>
      simp only [not_or, Nat.not_lt] at hfields hendpoints
      obtain ⟨-, -, -, -, -, -, -, -, -, hpadded, hkeys⟩ := hfields
      exact ⟨hpadded, hkeys, hendpoints.1, hendpoints.2.1⟩

private theorem reads_readFields (h : self.validateFields = .ok ()) :
    Reads readFields self.encodeFields self.onWire.signed := by
  obtain ⟨hpadded, hkeys, honion, hrelay⟩ := bounds_of_validateFields h
  have hpaddedLimit : self.padding.paddedBytes < 2 ^ 64 := by
    have : maxEnvelopeBytes < 2 ^ 64 := by decide
    omega
  have hroute : self.route.code < 2 ^ 64 := by cases self.route <;> decide
  unfold encodeFields
  simp only [List.append_assoc]
  apply (reads_orError _ (reads_readUnsigned (by decide))).bind
  apply (reads_orError _ (reads_readTextString _)).bind
  apply Reads.nil_bind (reads_lift ((refuseTransport_eq_ok _ _ ()).mpr (by simp)))
  apply (reads_orError _ (reads_readByteString _)).bind
  apply (AuthenticatedTransportReceiptV1.reads_readFixedDigest _).bind
  apply (reads_orError _ (reads_readUnsigned self.generation.toNat_lt)).bind
  apply (reads_orError _ (reads_readUnsigned hroute)).bind
  apply Reads.nil_bind (reads_lift (TransportRoutePolicyV1.fromCode_code _))
  apply (reads_readTextVec honion).bind
  apply (reads_readTextVec hrelay).bind
  apply (AuthenticatedTransportReceiptV1.reads_readFixedDigest _).bind
  apply (reads_orError _ (reads_readTextString _)).bind
  rw [← List.append_assoc (writeArrayLen self.receiptVerificationKeys.length)]
  apply (reads_readKeyVec hkeys).bind
  apply (reads_orError _ (reads_readTextString _)).bind
  apply (reads_orError _ (reads_readUnsigned hpaddedLimit)).bind
  apply (reads_orError _ (reads_readTextString _)).bind
  apply (reads_orError _ (reads_readUnsigned self.batch.acceptedUniqueFloor.toNat_lt)).bind
  apply (reads_orError _ (reads_readUnsigned (UInt64.toNat_lt _))).bind
  apply (reads_orError _ (reads_readTextString _)).bind
  apply Reads.nil_bind (reads_lift ((refuseTransport_eq_ok _ _ ()).mpr (by simp)))
  apply (reads_orError _ (reads_readTextString _)).bind_nil
  simp only [UInt64.ofNat_toNat]
  exact Reads.pure _

/-- Checked fields are encoded as an array of the signed items and the signature. -/
theorem toCanonicalCbor_of_validateFields (h : self.validateFields = .ok ()) :
    self.toCanonicalCbor =
      .ok (writeArrayLen 17 ++ self.encodeFields ++ writeByteString self.signature.val) := by
  unfold toCanonicalCbor
  delta encodeFields
  rw [h]
  simp only [List.append_assoc]
  rfl

private theorem reads_readDescriptor (h : self.validateFields = .ok ()) :
    Reads readDescriptor
      (writeArrayLen 17 ++ self.encodeFields ++ writeByteString self.signature.val)
      self.onWire := by
  rw [List.append_assoc]
  apply (reads_orError _ (reads_readArrayLen (by decide))).bind
  apply Reads.nil_bind (reads_lift ((refuseTransport_eq_ok _ _ ()).mpr (by decide)))
  apply (reads_readFields h).bind
  exact (AuthenticatedTransportReceiptV1.reads_readFixedReceiptSignature _).bind_nil (Reads.pure _)

private theorem getD_validityOf (validity : UInt64) : (validityOf validity).getD 0 = validity := by
  by_cases h : validity = 0
  · simp [validityOf, h]
  · simp [validityOf, h]

theorem toCanonicalCbor_onWire (self : TransportDescriptorFields) :
    self.onWire.toCanonicalCbor = self.toCanonicalCbor := by
  unfold toCanonicalCbor onWire
  dsimp only
  rw [getD_validityOf]
  rfl

/-- A message of checked fields frames an array of the signed items. -/
theorem signingMessage_eq_ok {message : Bytes} :
    self.signingMessage = .ok message ↔ self.validateFields = .ok () ∧
      message = domainSeparatedInput .transportDescriptorV1
        (writeArrayLen 16 ++ self.encodeFields) := by
  unfold signingMessage unsignedCanonicalCbor
  cases hvalid : self.validateFields with
  | error e => simp [bind, Except.bind]
  | ok u =>
    simp only [bind, Except.bind, pure, Except.pure, Except.ok.injEq, true_and]
    exact eq_comm

/-- The message determines the signed fields as the wire has them. -/
theorem signed_onWire_of_signingMessage {message : Bytes} (h : self.signingMessage = .ok message)
    (h' : other.signingMessage = .ok message) (hlen : message.length < 2 ^ 64) :
    self.onWire.signed = other.onWire.signed := by
  obtain ⟨hvalid, hmessage⟩ := signingMessage_eq_ok.mp h
  obtain ⟨hvalid', hmessage'⟩ := signingMessage_eq_ok.mp h'
  rw [hmessage'] at hmessage
  obtain ⟨-, hobject⟩ := domainSeparatedInput_inj.mp hmessage
  have hbytes : self.encodeFields = other.encodeFields := (List.append_cancel_left hobject).symm
  have hshort : self.encodeFields.length < 2 ^ 64 := by
    rw [hbytes]
    have hlonger := congrArg List.length hmessage'
    simp only [domainSeparatedInput, List.length_append] at hlonger
    omega
  have hread' := reads_readFields hvalid'
  rw [← hbytes] at hread'
  exact eq_of_reads (reads_readFields hvalid) hread' hshort

/-- Of two descriptors with one message, the signed fields are the same unless one of them has the
validity zero and the other one has none. -/
theorem signed_eq_iff {message : Bytes} (h : self.signingMessage = .ok message)
    (h' : other.signingMessage = .ok message) (hlen : message.length < 2 ^ 64) :
    self.signed = other.signed ↔
      (self.validityEndEpoch = some 0 ↔ other.validityEndEpoch = some 0) := by
  have hwire := signed_onWire_of_signingMessage h h' hlen
  constructor
  · intro heq
    have hvalidity : self.validityEndEpoch = other.validityEndEpoch :=
      show self.signed.validityEndEpoch = other.signed.validityEndEpoch by rw [heq]
    rw [hvalidity]
  · intro hzero
    have hvalidity : self.validityEndEpoch = other.validityEndEpoch := by
      by_cases hself : self.validityEndEpoch = some 0
      · rw [hself, hzero.mp hself]
      · have hother : other.validityEndEpoch ≠ some 0 := fun heq ↦ hself (hzero.mpr heq)
        have hepoch := congrArg validityEndEpoch hwire
        rw [onWire_eq_self.mpr hself, onWire_eq_self.mpr hother] at hepoch
        exact hepoch
    have hall : ({ self.onWire.signed with validityEndEpoch := self.validityEndEpoch } :
        TransportDescriptorFields) =
        { other.onWire.signed with validityEndEpoch := other.validityEndEpoch } := by
      rw [hwire, hvalidity]
    exact hall

end TransportDescriptorFields

namespace TransportDescriptorV1

theorem ofFields_eq_ok {fields : TransportDescriptorFields} {descriptor : TransportDescriptorV1} :
    ofFields fields = .ok descriptor ↔ descriptor.toTransportDescriptorFields = fields := by
  unfold ofFields
  constructor
  · intro h
    split at h
    · cases h
      rfl
    · cases h
  · rintro rfl
    rw [dif_pos descriptor.valid]

/-- What is signed has the given fields. -/
theorem signed_of_signForTestOrCeremony {fields : TransportDescriptorFields}
    {sign : Bytes → SignatureBytes} {descriptor : TransportDescriptorV1}
    (h : signForTestOrCeremony fields sign = .ok descriptor) :
    descriptor.toTransportDescriptorFields.signed = fields.signed := by
  obtain ⟨message, -, hdescriptor⟩ := bind_eq_ok.mp h
  rw [ofFields_eq_ok] at hdescriptor
  rw [hdescriptor]
  rfl

/-- A descriptor has an encoding. -/
theorem exists_toCanonicalCbor (self : TransportDescriptorV1) :
    ∃ bytes, self.toTransportDescriptorFields.toCanonicalCbor = .ok bytes :=
  ⟨_, TransportDescriptorFields.toCanonicalCbor_of_validateFields self.valid⟩

/-- The encoding of a descriptor is read as the descriptor that the wire has. -/
theorem exists_fromCanonicalCbor {self : TransportDescriptorV1} {bytes : Bytes}
    (h : self.toTransportDescriptorFields.toCanonicalCbor = .ok bytes)
    (hlen : bytes.length < 2 ^ 64) :
    ∃ descriptor, fromCanonicalCbor bytes = .ok descriptor ∧
      descriptor.toTransportDescriptorFields = self.toTransportDescriptorFields.onWire := by
  have hbytes := TransportDescriptorFields.toCanonicalCbor_of_validateFields self.valid
  rw [h, Except.ok.injEq] at hbytes
  have hreads := TransportDescriptorFields.reads_readDescriptor self.valid
  rw [← hbytes] at hreads
  have hread := run_of_reads hreads hlen
  have hvalid : self.toTransportDescriptorFields.onWire.validateFields = .ok () := self.valid
  refine ⟨⟨_, hvalid⟩, ?_, rfl⟩
  have hencoded : self.toTransportDescriptorFields.onWire.toCanonicalCbor = .ok bytes := by
    rw [TransportDescriptorFields.toCanonicalCbor_onWire, h]
  have hfields : ofFields self.toTransportDescriptorFields.onWire = .ok ⟨_, hvalid⟩ :=
    ofFields_eq_ok.mpr rfl
  unfold fromCanonicalCbor
  simp only [hread, hfields, hencoded, bind, Except.bind]
  simp [refuseTransport]
  rfl

/-- A descriptor is decoded only from its own encoding. -/
theorem toCanonicalCbor_of_fromCanonicalCbor {self : TransportDescriptorV1} {bytes : Bytes}
    (h : fromCanonicalCbor bytes = .ok self) :
    self.toTransportDescriptorFields.toCanonicalCbor = .ok bytes := by
  obtain ⟨⟨fields, reader⟩, -, h⟩ := bind_eq_ok.mp h
  obtain ⟨_, -, h⟩ := bind_eq_ok.mp h
  obtain ⟨descriptor, -, h⟩ := bind_eq_ok.mp h
  obtain ⟨encoded, hencoded, h⟩ := bind_eq_ok.mp h
  obtain ⟨_, hsame, h⟩ := bind_eq_ok.mp h
  cases h
  rw [refuseTransport_eq_ok, decide_eq_false_iff_not, ne_eq, not_not] at hsame
  rw [hencoded, hsame]

/-- A descriptor is read back exactly if its validity is not zero. -/
theorem fromCanonicalCbor_toCanonicalCbor_iff {self : TransportDescriptorV1} {bytes : Bytes}
    (h : self.toTransportDescriptorFields.toCanonicalCbor = .ok bytes)
    (hlen : bytes.length < 2 ^ 64) :
    fromCanonicalCbor bytes = .ok self ↔ self.validityEndEpoch ≠ some 0 := by
  obtain ⟨descriptor, hdecoded, hfields⟩ := exists_fromCanonicalCbor h hlen
  rw [hdecoded, Except.ok.injEq, ← TransportDescriptorFields.onWire_eq_self, ← hfields]
  constructor
  · rintro rfl
    rfl
  · intro hsame
    cases descriptor
    cases self
    cases hsame
    rfl

end TransportDescriptorV1

end PrivateBallot.GuiCore
