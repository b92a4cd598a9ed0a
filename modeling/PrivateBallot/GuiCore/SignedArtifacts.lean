import PrivateBallot.GuiCore.LifecycleFence
import PrivateBallot.GuiCore.TransportDescriptor

/-!
# What signatures are about

Library `GuiCore`. The three signed artifacts of `crates/gui-core/src/transport.rs` and
`crates/gui-core/src/election_status.rs`: their bytes against their values, and the messages that
are signed. Descriptors and statements are signed in a frame of their own domain; a receipt's
message is put together by hand.
-/

namespace PrivateBallot.GuiCore

open PrivateBallot.Base PrivateBallot.Protocol PrivateBallot.Ballot

/-! ### Statements -/

namespace AuthenticatedElectionStatusStatementV1

/-- The fields that a signature is about. -/
def signed (self : AuthenticatedElectionStatusStatementV1) :
    AuthenticatedElectionStatusStatementV1 :=
  { self with signature := noSignature }

variable {self other : AuthenticatedElectionStatusStatementV1} {bytes message : Bytes}

/-- A statement that was signed has passed the checks of its fields. -/
theorem validateFields_of_signForTestOrCeremony {signer : StatusSigner}
    {state : ElectionLifecycleStateV1} {generation : UInt64}
    (h : signForTestOrCeremony signer state generation = .ok self) :
    self.validateFields = .ok () := by
  obtain ⟨u, hvalid, hrest⟩ := bind_eq_ok.mp h
  obtain ⟨message, -, hsigned⟩ := bind_eq_ok.mp hrest
  cases hsigned
  exact hvalid

private theorem toCanonicalCbor_of_stateCode {code : Nat} (hvalid : self.validateFields = .ok ())
    (hcode : stateCode self.state = .ok code) : self.toCanonicalCbor =
      .ok (writeArrayLen 9 ++ self.encodeFields code ++ writeByteString self.signature.val) := by
  unfold toCanonicalCbor
  rw [hvalid, hcode]
  rfl

/-- Checked fields are encoded and read back. -/
theorem exists_toCanonicalCbor (hvalid : self.validateFields = .ok ()) :
    ∃ bytes, self.toCanonicalCbor = .ok bytes ∧ fromCanonicalCbor bytes = .ok self := by
  obtain ⟨-, code, hcode⟩ := validateFields_eq_ok.mp hvalid
  have hencoded := toCanonicalCbor_of_stateCode hvalid hcode
  exact ⟨_, hencoded, fromCanonicalCbor_toCanonicalCbor hencoded⟩

/-- A statement is decoded only from its own encoding. -/
theorem toCanonicalCbor_of_fromCanonicalCbor (h : fromCanonicalCbor bytes = .ok self) :
    self.toCanonicalCbor = .ok bytes := by
  obtain ⟨_, -, h⟩ := bind_eq_ok.mp h
  obtain ⟨⟨statement, reader⟩, -, h⟩ := bind_eq_ok.mp h
  obtain ⟨_, -, h⟩ := bind_eq_ok.mp h
  obtain ⟨_, -, h⟩ := bind_eq_ok.mp h
  obtain ⟨encoded, hencoded, h⟩ := bind_eq_ok.mp h
  obtain ⟨_, hsame, h⟩ := bind_eq_ok.mp h
  cases h
  rw [refuseStatus_eq_ok, decide_eq_false_iff_not, ne_eq, not_not] at hsame
  rw [hencoded, hsame]

/-- A message frames an array of the signed items. -/
theorem signingMessage_eq_ok : self.signingMessage = .ok message ↔
    ∃ code, stateCode self.state = .ok code ∧
      message = domainSeparatedInput .electionStatusStatementV1
        (writeArrayLen 8 ++ self.encodeFields code) := by
  unfold signingMessage unsignedCanonicalCbor
  cases hcode : stateCode self.state with
  | error e => simp [bind, Except.bind]
  | ok code =>
    simp only [bind, Except.bind, pure, Except.pure, Except.ok.injEq, exists_eq_left']
    exact eq_comm

/-- Checked fields have a message. -/
theorem exists_signingMessage (hvalid : self.validateFields = .ok ()) :
    ∃ message, self.signingMessage = .ok message := by
  obtain ⟨-, code, hcode⟩ := validateFields_eq_ok.mp hvalid
  exact ⟨_, signingMessage_eq_ok.mpr ⟨code, hcode, rfl⟩⟩

-- The signed items with any signature are an encoding, which is read back as one statement.
/-- The message determines the signed fields. -/
theorem signed_eq_of_signingMessage (hvalid : self.validateFields = .ok ())
    (hvalid' : other.validateFields = .ok ()) (h : self.signingMessage = .ok message)
    (h' : other.signingMessage = .ok message) : self.signed = other.signed := by
  obtain ⟨code, hcode, hmessage⟩ := signingMessage_eq_ok.mp h
  obtain ⟨code', hcode', hmessage'⟩ := signingMessage_eq_ok.mp h'
  rw [hmessage'] at hmessage
  obtain ⟨-, hobject⟩ := domainSeparatedInput_inj.mp hmessage
  have hitems : other.encodeFields code' = self.encodeFields code :=
    List.append_cancel_left hobject
  have hsigned : self.signed.toCanonicalCbor = .ok (writeArrayLen 9 ++ self.encodeFields code ++
      writeByteString noSignature.val) := toCanonicalCbor_of_stateCode hvalid hcode
  have hsigned' : other.signed.toCanonicalCbor = .ok (writeArrayLen 9 ++
      other.encodeFields code' ++ writeByteString noSignature.val) :=
    toCanonicalCbor_of_stateCode hvalid' hcode'
  rw [hitems] at hsigned'
  have hread := fromCanonicalCbor_toCanonicalCbor hsigned
  rw [fromCanonicalCbor_toCanonicalCbor hsigned'] at hread
  exact (Except.ok.inj hread).symm

end AuthenticatedElectionStatusStatementV1

/-! ### Receipts -/

namespace AuthenticatedTransportReceiptV1

/-- The fields that a signature is about. -/
def signed (self : AuthenticatedTransportReceiptV1) : AuthenticatedTransportReceiptV1 :=
  { self with signature := noSignature }

/-- `message`, of the fields of a receipt. -/
def signingMessage (self : AuthenticatedTransportReceiptV1) : Bytes :=
  message self.receipt self.descriptorFingerprint self.packageDigest self.batchRoot self.keyId

variable {self other : AuthenticatedTransportReceiptV1} {bytes : Bytes}

/-- A receipt is decoded only from its own encoding. -/
theorem toCanonicalCbor_of_fromCanonicalCbor (h : fromCanonicalCbor bytes = .ok self) :
    self.toCanonicalCbor = .ok bytes := by
  obtain ⟨_, -, h⟩ := bind_eq_ok.mp h
  obtain ⟨⟨output, reader⟩, -, h⟩ := bind_eq_ok.mp h
  obtain ⟨_, -, h⟩ := bind_eq_ok.mp h
  obtain ⟨_, -, h⟩ := bind_eq_ok.mp h
  obtain ⟨encoded, hencoded, h⟩ := bind_eq_ok.mp h
  obtain ⟨_, hsame, h⟩ := bind_eq_ok.mp h
  cases h
  rw [refuseTransport_eq_ok, decide_eq_false_iff_not, ne_eq, not_not] at hsame
  rw [hencoded, hsame]

private theorem receiptState_inj {a b : VoterReceiptStateV1}
    (h : UInt8.ofNat a.code = UInt8.ofNat b.code) : a = b := by
  cases a <;> cases b <;> first | rfl | exact absurd h (by decide)

private theorem retryStatus_inj {a b : RetryStatusV1}
    (h : UInt8.ofNat a.code = UInt8.ofNat b.code) : a = b := by
  cases a <;> cases b <;> first | rfl | exact absurd h (by decide)

-- The byte before the root says whether there is one, so the key identifier starts after it.
private theorem batchRoot_inj {root root' : Option Bytes32} {rest rest' : Bytes}
    (h : (match root with
      | some root => 1 :: root.toBytes
      | none => [0]) ++ rest = (match root' with
      | some root => 1 :: root.toBytes
      | none => [0]) ++ rest') : root = root' ∧ rest = rest' := by
  cases root with
  | none =>
    cases root' with
    | none => exact ⟨rfl, List.append_cancel_left h⟩
    | some root' => exact absurd (List.cons.inj h).1 (by decide)
  | some root =>
    cases root' with
    | none => exact absurd (List.cons.inj h).1 (by decide)
    | some root' =>
      obtain ⟨hroot, hrest⟩ := List.append_inj (List.cons.inj h).2
        (by rw [root.length_eq, root'.length_eq])
      exact ⟨congrArg some (Bytes32.ext hroot), hrest⟩

/-- The message determines the signed fields. -/
theorem signed_eq_of_signingMessage (h : self.signingMessage = other.signingMessage) :
    self.signed = other.signed := by
  simp only [signingMessage, message, List.append_assoc] at h
  have hcodes := List.append_cancel_left h
  simp only [List.cons_append, List.nil_append, List.cons.injEq, true_and] at hcodes
  obtain ⟨hstate, hretry, hfields⟩ := hcodes
  obtain ⟨hfingerprint, hfields⟩ := List.append_inj hfields
    (by rw [Bytes32.length_eq, Bytes32.length_eq])
  obtain ⟨hdigest, hfields⟩ := List.append_inj hfields
    (by rw [Bytes32.length_eq, Bytes32.length_eq])
  obtain ⟨hroot, hkey⟩ := batchRoot_inj hfields
  obtain ⟨⟨state, retryStatus⟩, descriptorFingerprint, packageDigest,
    batchRoot, keyId, signature⟩ :=
    self
  obtain ⟨⟨state', retryStatus'⟩, descriptorFingerprint', packageDigest', batchRoot', keyId',
    signature'⟩ := other
  dsimp only at hstate hretry hfingerprint hdigest hroot hkey
  rw [signed, signed, receiptState_inj hstate, retryStatus_inj hretry, Bytes32.ext hfingerprint,
    Bytes32.ext hdigest, hroot, Text.ext hkey]

/-- No frame is the message of a receipt: they start with different letters. -/
theorem signingMessage_ne_domainSeparatedInput (self : AuthenticatedTransportReceiptV1)
    (domain : HashDomain) (object : Bytes) :
    self.signingMessage ≠ domainSeparatedInput domain object := by
  intro h
  have hfirst := congrArg List.head? h
  have hreceipt : self.signingMessage.head? = some 0x74 := rfl
  have hframe : (domainSeparatedInput domain object).head? = some 0x54 := rfl
  rw [hreceipt, hframe] at hfirst
  exact absurd hfirst (by decide)

end AuthenticatedTransportReceiptV1

/-! ### Codecs and messages -/

-- A `Vec` has at most `isize::MAX` bytes, which bounds the two policy identifiers.
/-- Signed descriptors are encoded, and read back exactly if their validity is not zero; messages
determine the signed descriptor up to a validity of zero for none. Statements and receipts are read
back, and their messages determine them. What is decoded is the encoding of what it is decoded to,
and no message is one of two types. -/
theorem signedArtifacts_faithful (bytes : Bytes) :
    (∀ fields sign descriptor,
      TransportDescriptorV1.signForTestOrCeremony fields sign = .ok descriptor →
      ∃ bytes, descriptor.toCanonicalCbor = .ok bytes ∧ (bytes.length < 2 ^ 63 →
        (TransportDescriptorV1.fromCanonicalCbor bytes = .ok descriptor ↔
          fields.validityEndEpoch ≠ some 0))) ∧
    (∀ (descriptor other : TransportDescriptorV1) message, message.length < 2 ^ 63 →
      descriptor.signingMessage = .ok message → other.signingMessage = .ok message →
      (descriptor.signed = other.signed ↔
        (descriptor.validityEndEpoch = some 0 ↔ other.validityEndEpoch = some 0))) ∧
    (∀ signer state generation statement,
      AuthenticatedElectionStatusStatementV1.signForTestOrCeremony signer state generation =
        .ok statement →
      ∃ bytes, statement.toCanonicalCbor = .ok bytes ∧
        AuthenticatedElectionStatusStatementV1.fromCanonicalCbor bytes = .ok statement) ∧
    (∀ statement other : AuthenticatedElectionStatusStatementV1, ∀ message,
      statement.validateFields = .ok () → other.validateFields = .ok () →
      statement.signingMessage = .ok message → other.signingMessage = .ok message →
      statement.signed = other.signed) ∧
    (∀ receipt : AuthenticatedTransportReceiptV1,
      receipt.keyId.len ≠ 0 → receipt.keyId.len ≤ maxReceiptKeyIdBytes →
      ∃ bytes, receipt.toCanonicalCbor = .ok bytes ∧
        AuthenticatedTransportReceiptV1.fromCanonicalCbor bytes = .ok receipt) ∧
    (∀ receipt other : AuthenticatedTransportReceiptV1,
      receipt.signingMessage = other.signingMessage → receipt.signed = other.signed) ∧
    ((∀ descriptor, TransportDescriptorV1.fromCanonicalCbor bytes = .ok descriptor →
        descriptor.toCanonicalCbor = .ok bytes) ∧
      (∀ statement, AuthenticatedElectionStatusStatementV1.fromCanonicalCbor bytes =
        .ok statement → statement.toCanonicalCbor = .ok bytes) ∧
      ∀ receipt, AuthenticatedTransportReceiptV1.fromCanonicalCbor bytes = .ok receipt →
        receipt.toCanonicalCbor = .ok bytes) ∧
    ∀ (descriptor : TransportDescriptorFields)
      (statement : AuthenticatedElectionStatusStatementV1)
      (receipt : AuthenticatedTransportReceiptV1) message,
      ¬ (descriptor.signingMessage = .ok message ∧ statement.signingMessage = .ok message) ∧
      ¬ (descriptor.signingMessage = .ok message ∧ receipt.signingMessage = message) ∧
      ¬ (statement.signingMessage = .ok message ∧ receipt.signingMessage = message) := by
  have hbounded : ∀ bytes : Bytes, bytes.length < 2 ^ 63 → bytes.length < 2 ^ 64 := by
    intro bytes h
    omega
  refine ⟨?_, ?_, ?_, ?_, ?_, ?_, ?_, ?_⟩
  · intro fields sign descriptor h
    obtain ⟨bytes, hbytes⟩ := descriptor.exists_toCanonicalCbor
    have hvalidity : descriptor.validityEndEpoch = fields.validityEndEpoch := by
      show descriptor.signed.validityEndEpoch = fields.signed.validityEndEpoch
      rw [TransportDescriptorV1.signed_of_signForTestOrCeremony h]
    refine ⟨bytes, hbytes, fun hlen ↦ ?_⟩
    rw [← hvalidity]
    exact TransportDescriptorV1.fromCanonicalCbor_toCanonicalCbor_iff hbytes (hbounded bytes hlen)
  · intro descriptor other message hlen h h'
    exact TransportDescriptorFields.signed_eq_iff h h' (hbounded message hlen)
  · intro signer state generation statement h
    exact AuthenticatedElectionStatusStatementV1.exists_toCanonicalCbor
      (AuthenticatedElectionStatusStatementV1.validateFields_of_signForTestOrCeremony h)
  · intro statement other message hvalid hvalid' h h'
    exact AuthenticatedElectionStatusStatementV1.signed_eq_of_signingMessage hvalid hvalid' h h'
  · intro receipt hne hle
    have hencoded := AuthenticatedTransportReceiptV1.toCanonicalCbor_eq_ok.mpr ⟨hne, hle, rfl⟩
    exact ⟨_, hencoded,
      AuthenticatedTransportReceiptV1.fromCanonicalCbor_toCanonicalCbor hencoded⟩
  · intro receipt other h
    exact AuthenticatedTransportReceiptV1.signed_eq_of_signingMessage h
  · exact ⟨fun _ ↦ TransportDescriptorV1.toCanonicalCbor_of_fromCanonicalCbor,
      fun _ ↦ AuthenticatedElectionStatusStatementV1.toCanonicalCbor_of_fromCanonicalCbor,
      fun _ ↦ AuthenticatedTransportReceiptV1.toCanonicalCbor_of_fromCanonicalCbor⟩
  · intro descriptor statement receipt message
    refine ⟨?_, ?_, ?_⟩
    · rintro ⟨hdescriptor, hstatement⟩
      obtain ⟨-, hframe⟩ := TransportDescriptorFields.signingMessage_eq_ok.mp hdescriptor
      obtain ⟨code, -, hframe'⟩ :=
        AuthenticatedElectionStatusStatementV1.signingMessage_eq_ok.mp hstatement
      rw [hframe'] at hframe
      exact absurd (domainSeparatedInput_inj.mp hframe).1 (by decide)
    · rintro ⟨hdescriptor, hreceipt⟩
      obtain ⟨-, hframe⟩ := TransportDescriptorFields.signingMessage_eq_ok.mp hdescriptor
      exact receipt.signingMessage_ne_domainSeparatedInput _ _ (hreceipt.trans hframe)
    · rintro ⟨hstatement, hreceipt⟩
      obtain ⟨code, -, hframe⟩ :=
        AuthenticatedElectionStatusStatementV1.signingMessage_eq_ok.mp hstatement
      exact receipt.signingMessage_ne_domainSeparatedInput _ _ (hreceipt.trans hframe)

namespace Sample

/-- The fields of a descriptor with this end of its validity. -/
def descriptorFields (validityEndEpoch : Option UInt64) : TransportDescriptorFields where
  electionId := [1]
  manifestHash := Bytes32.replicate 2
  generation := 1
  route := .managedTorOrOffline
  onionEndpoints := [.lit "gateway.onion"]
  relayEndpoints := []
  gatewayPublicKey := Bytes32.replicate 3
  gatewayKeyId := .lit "gateway"
  receiptVerificationKeys := [Bytes32.replicate 5]
  padding := ⟨.lit "padding", 2048⟩
  batch := ⟨.lit "batch", 2⟩
  validityEndEpoch := validityEndEpoch
  rootKeyId := .lit "root"
  signature := noSignature

/-- A signature that is the same for every message. -/
def sign (_ : Bytes) : SignatureBytes := ⟨List.replicate 64 7, List.length_replicate⟩

theorem exists_signForTestOrCeremony (validityEndEpoch : Option UInt64) :
    ∃ descriptor, TransportDescriptorV1.signForTestOrCeremony (descriptorFields validityEndEpoch)
      sign = .ok descriptor ∧ descriptor.toTransportDescriptorFields =
        { descriptorFields validityEndEpoch with signature := sign [] } := by
  have hvalid : (descriptorFields validityEndEpoch).validateFields = .ok () :=
    show (descriptorFields none).validateFields = .ok () by decide +kernel
  refine ⟨⟨{ descriptorFields validityEndEpoch with signature := sign [] }, hvalid⟩, ?_, rfl⟩
  apply bind_eq_ok.mpr
  refine ⟨_, TransportDescriptorFields.signingMessage_eq_ok.mpr ⟨hvalid, rfl⟩, ?_⟩
  exact TransportDescriptorV1.ofFields_eq_ok.mpr rfl

/-- Two descriptors that differ in the end of their validity. -/
theorem exists_signedDescriptors : ∃ descriptor lasting message,
    TransportDescriptorV1.signForTestOrCeremony (descriptorFields none) sign = .ok descriptor ∧
    TransportDescriptorV1.signForTestOrCeremony (descriptorFields (some 7)) sign = .ok lasting ∧
    descriptor.validityEndEpoch = none ∧ lasting.validityEndEpoch = some 7 ∧
    descriptor.signingMessage = .ok message ∧ message.length < 2 ^ 63 ∧
    ∀ bytes, descriptor.toCanonicalCbor = .ok bytes → bytes.length < 2 ^ 63 := by
  obtain ⟨descriptor, hsigned, hfields⟩ := exists_signForTestOrCeremony none
  obtain ⟨lasting, hsigned', hfields'⟩ := exists_signForTestOrCeremony (some 7)
  have hmessage := TransportDescriptorFields.signingMessage_eq_ok.mpr ⟨descriptor.valid, rfl⟩
  refine ⟨descriptor, lasting, _, hsigned, hsigned', by rw [hfields]; rfl, by rw [hfields']; rfl,
    hmessage, ?_, ?_⟩
  · have hshort : (({ descriptorFields none with signature := sign [] } :
        TransportDescriptorFields).signingMessage.toOption.getD []).length < 2 ^ 63 := by
      decide +kernel
    rwa [← hfields, hmessage] at hshort
  · intro bytes hbytes
    have hshort : (({ descriptorFields none with signature := sign [] } :
        TransportDescriptorFields).toCanonicalCbor.toOption.getD []).length < 2 ^ 63 := by
      decide +kernel
    rwa [← hfields, hbytes] at hshort

/-- Who signs statements. -/
def signer : StatusSigner := ⟨[1], Bytes32.replicate 2, Bytes32.replicate 4, .lit "root", sign⟩

theorem exists_statement :
    ∃ opened closed, AuthenticatedElectionStatusStatementV1.signForTestOrCeremony signer .opened 1 =
      .ok opened ∧
      AuthenticatedElectionStatusStatementV1.signForTestOrCeremony signer .closed 2 = .ok closed :=
  ⟨_, _, rfl, rfl⟩

/-- A receipt in this state. -/
def receipt (state : VoterReceiptStateV1) : AuthenticatedTransportReceiptV1 :=
  .signForTestOrCeremony ⟨state, .newDelivery⟩ (Bytes32.replicate 6) (Bytes32.replicate 8) none
    (.lit "gateway") sign

end Sample

/-- A descriptor without an end of its validity is read back; one with an end has another message,
which no receipt has. Statements of two states and receipts of two outcomes are read back and have
messages of their own. -/
theorem signedArtifacts_faithful_sample :
    (∃ descriptor lasting bytes,
      TransportDescriptorV1.signForTestOrCeremony (Sample.descriptorFields none) Sample.sign =
        .ok descriptor ∧
      TransportDescriptorV1.signForTestOrCeremony (Sample.descriptorFields (some 7)) Sample.sign =
        .ok lasting ∧
      descriptor.toCanonicalCbor = .ok bytes ∧
      TransportDescriptorV1.fromCanonicalCbor bytes = .ok descriptor ∧
      descriptor.signingMessage ≠ lasting.signingMessage ∧
      descriptor.signingMessage ≠ .ok (Sample.receipt .accepted).signingMessage) ∧
    (∃ opened closed bytes,
      AuthenticatedElectionStatusStatementV1.signForTestOrCeremony Sample.signer .opened 1 =
        .ok opened ∧
      AuthenticatedElectionStatusStatementV1.signForTestOrCeremony Sample.signer .closed 2 =
        .ok closed ∧
      opened.toCanonicalCbor = .ok bytes ∧
      AuthenticatedElectionStatusStatementV1.fromCanonicalCbor bytes = .ok opened ∧
      opened.signingMessage ≠ closed.signingMessage) ∧
    ∃ bytes, (Sample.receipt .accepted).toCanonicalCbor = .ok bytes ∧
      AuthenticatedTransportReceiptV1.fromCanonicalCbor bytes = .ok (Sample.receipt .accepted) ∧
      (Sample.receipt .accepted).signingMessage ≠ (Sample.receipt .rejected).signingMessage := by
  obtain ⟨hdescriptors, hmessages, hstatements, hmessages', hreceipts, hmessages'', -, happart⟩ :=
    signedArtifacts_faithful []
  obtain ⟨opened, closed, hopened, hclosed⟩ := Sample.exists_statement
  refine ⟨?_, ?_, ?_⟩
  · obtain ⟨descriptor, lasting, message, hsigned, hsigned', hvalidity, hvalidity', hmessage,
      hshort, hlen⟩ := Sample.exists_signedDescriptors
    obtain ⟨bytes, hbytes, hread⟩ := hdescriptors _ _ _ hsigned
    refine ⟨descriptor, lasting, bytes, hsigned, hsigned', hbytes,
      (hread (hlen bytes hbytes)).mpr (by decide), ?_, ?_⟩
    · intro hsame
      have hsigned := (hmessages descriptor lasting _ hshort hmessage
        (hsame.symm.trans hmessage)).mpr (by rw [hvalidity, hvalidity']; decide)
      have hequal : descriptor.signed.validityEndEpoch = lasting.signed.validityEndEpoch := by
        rw [hsigned]
      have hepochs : descriptor.validityEndEpoch = lasting.validityEndEpoch := hequal
      rw [hvalidity, hvalidity'] at hepochs
      cases hepochs
    · intro hsame
      exact (happart _ opened _ _).2.1
        ⟨hmessage, Except.ok.inj (hsame.symm.trans hmessage)⟩
  · obtain ⟨bytes, hbytes, hread⟩ := hstatements _ _ _ _ hopened
    refine ⟨opened, closed, bytes, hopened, hclosed, hbytes, hread, ?_⟩
    intro hsame
    have hvalid :=
      AuthenticatedElectionStatusStatementV1.validateFields_of_signForTestOrCeremony hopened
    have hvalid' :=
      AuthenticatedElectionStatusStatementV1.validateFields_of_signForTestOrCeremony hclosed
    obtain ⟨message, hmessage⟩ :=
      AuthenticatedElectionStatusStatementV1.exists_signingMessage hvalid
    have hfields := hmessages' opened closed message hvalid hvalid' hmessage
      (hsame.symm.trans hmessage)
    have hequal : opened.signed.state = closed.signed.state := by rw [hfields]
    have hstates : opened.state = closed.state := hequal
    rw [(AuthenticatedElectionStatusStatementV1.of_signForTestOrCeremony hopened).1,
      (AuthenticatedElectionStatusStatementV1.of_signForTestOrCeremony hclosed).1] at hstates
    cases hstates
  · obtain ⟨bytes, hbytes, hread⟩ := hreceipts (Sample.receipt .accepted) (by decide) (by decide)
    refine ⟨bytes, hbytes, hread, ?_⟩
    intro hsame
    have hfields := hmessages'' _ _ hsame
    exact absurd (congrArg AuthenticatedTransportReceiptV1.receipt hfields) (by decide)

/-- A descriptor whose validity ends with the epoch zero is decoded as one without an end, and has
the message of that one. -/
theorem signedArtifacts_zero_validity :
    ∃ descriptor other bytes message,
      TransportDescriptorV1.signForTestOrCeremony (Sample.descriptorFields (some 0)) Sample.sign =
        .ok descriptor ∧
      descriptor.toCanonicalCbor = .ok bytes ∧
      TransportDescriptorV1.fromCanonicalCbor bytes = .ok other ∧ other ≠ descriptor ∧
      descriptor.signingMessage = .ok message ∧ other.signingMessage = .ok message ∧
      descriptor.signed ≠ other.signed := by
  obtain ⟨descriptor, hsigned, hfields⟩ := Sample.exists_signForTestOrCeremony (some 0)
  obtain ⟨bytes, hbytes⟩ := descriptor.exists_toCanonicalCbor
  have hlen : bytes.length < 2 ^ 64 := by
    have hshort : (({ Sample.descriptorFields (some 0) with signature := Sample.sign [] } :
        TransportDescriptorFields).toCanonicalCbor.toOption.getD []).length < 2 ^ 64 := by
      decide +kernel
    rw [← hfields, hbytes] at hshort
    exact hshort
  obtain ⟨decoded, hdecoded, hwire⟩ := TransportDescriptorV1.exists_fromCanonicalCbor hbytes hlen
  have hnone : decoded.validityEndEpoch = none := by rw [hwire, hfields]; rfl
  have hzero : descriptor.validityEndEpoch = some 0 := by rw [hfields]; rfl
  refine ⟨descriptor, decoded, bytes, _, hsigned, hbytes, hdecoded, ?_,
    TransportDescriptorFields.signingMessage_eq_ok.mpr ⟨descriptor.valid, rfl⟩, ?_, ?_⟩
  · rintro rfl
    rw [hnone] at hzero
    cases hzero
  · apply TransportDescriptorFields.signingMessage_eq_ok.mpr
    refine ⟨decoded.valid, ?_⟩
    rw [hwire, hfields]
    rfl
  · intro hsame
    have hvalidity : descriptor.signed.validityEndEpoch = decoded.signed.validityEndEpoch := by
      rw [hsame]
    have hepochs : descriptor.validityEndEpoch = decoded.validityEndEpoch := hvalidity
    rw [hnone, hzero] at hepochs
    cases hepochs

end PrivateBallot.GuiCore
