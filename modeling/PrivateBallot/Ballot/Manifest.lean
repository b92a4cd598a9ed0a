import PrivateBallot.Ballot.Candidate
import PrivateBallot.Protocol.CborItems

/-!
# Election manifests

Library `Ballot`. `crates/ballot/src/manifest.rs`, `manifest_canonical.rs` and
`manifest_scope.rs`: versions one and two share nine fields and their checks; version two adds
the proposal question. Normalisation to NFC is the `unicode_normalization` crate's and is the
parameter `nfc`.
-/

namespace PrivateBallot.Ballot

open PrivateBallot.Base
open PrivateBallot.Protocol

/-- Election identifier; `crates/ballot/src/manifest.rs`. -/
@[ext] structure ElectionId where
  toBytes : Bytes
  nonempty : toBytes ≠ []
  length_le : toBytes.length ≤ maxElectionIdBytes

instance : DecidableEq ElectionId := fun a b ↦
  decidable_of_iff (a.toBytes = b.toBytes) ElectionId.ext_iff.symm

/-- `ElectionId::new` -/
def ElectionId.new (bytes : Bytes) : Result ElectionId :=
  if hempty : bytes = [] then
    fail .emptyElectionId "election identifier must not be empty"
  else if hlen : maxElectionIdBytes < bytes.length then
    fail .protocolLimitExceeded "election identifier exceeds the protocol size limit"
  else .ok ⟨bytes, hempty, Nat.le_of_not_lt hlen⟩

theorem ElectionId.toBytes_of_new {bytes : Bytes} {id : ElectionId}
    (h : ElectionId.new bytes = .ok id) : id.toBytes = bytes := by
  unfold ElectionId.new at h
  split at h
  · cases h
  · split at h
    · cases h
    · cases h
      rfl

/-- An identifier is accepted by its own check. -/
theorem ElectionId.new_toBytes (id : ElectionId) : ElectionId.new id.toBytes = .ok id := by
  have hlen : ¬ maxElectionIdBytes < id.toBytes.length := Nat.not_lt.mpr id.length_le
  simp only [ElectionId.new, id.nonempty, hlen, dite_false]

/-- The question a version-two election asks. -/
structure ProposalQuestion where
  value : Text
deriving DecidableEq

/-- `is_forbidden_control`: C0, DEL and C1 controls. -/
def isForbiddenControl (character : Char) : Bool :=
  character.toNat ≤ 0x1f || (0x7f ≤ character.toNat && character.toNat ≤ 0x9f)

/-- `ProposalQuestion::new`, with the normalisation the source imports. -/
def ProposalQuestion.new (nfc : List Char → List Char) (value : Text) :
    Result ProposalQuestion := do
  refuseIf value.trimIsEmpty .emptyProposalQuestion "proposal question must not be empty"
  refuseIf (decide (maxProposalQuestionBytes < value.len)) .protocolLimitExceeded
    "proposal question exceeds the protocol size limit"
  refuseIf (value.chars.head?.any Text.isWhitespace) .invalidProposalQuestion
    "proposal question must not start with whitespace"
  refuseIf (value.chars.getLast?.any Text.isWhitespace) .invalidProposalQuestion
    "proposal question must not end with whitespace"
  refuseIf (value.chars.any fun c ↦ c == '\n' || c == '\r') .invalidProposalQuestion
    "proposal question must not contain embedded newlines"
  refuseIf (value.chars.any isForbiddenControl) .invalidProposalQuestion
    "proposal question must not contain C0, DEL, or C1 controls"
  refuseIf (decide (nfc value.chars ≠ value.chars)) .nonNfcProposalQuestion
    "proposal question must already be NFC"
  pure ⟨value⟩

namespace ProposalQuestion

theorem value_of_new {nfc : List Char → List Char} {value : Text} {question : ProposalQuestion}
    (h : ProposalQuestion.new nfc value = .ok question) : question.value = value := by
  simp only [ProposalQuestion.new, bind_eq_ok] at h
  obtain ⟨-, -, -, -, -, -, -, -, -, -, -, -, -, -, hlast⟩ := h
  cases hlast
  rfl

theorem len_le_of_new {nfc : List Char → List Char} {value : Text} {question : ProposalQuestion}
    (h : ProposalQuestion.new nfc value = .ok question) :
    value.len ≤ maxProposalQuestionBytes := by
  simp only [ProposalQuestion.new, bind_eq_ok, refuseIf_eq_ok] at h
  obtain ⟨-, -, -, hlen, -⟩ := h
  rwa [decide_eq_false_iff_not, Nat.not_lt] at hlen

end ProposalQuestion

/-- The only ballot kind of version one. -/
inductive BallotKindV1 where
  | nonBindingApprovalPilot
deriving DecidableEq, Repr

namespace BallotKindV1

/-- `BallotKindV1::as_str` -/
def asStr : BallotKindV1 → Text
  | .nonBindingApprovalPilot => .lit "NON_BINDING_APPROVAL_PILOT"

/-- `BallotKindV1::from_identifier` -/
def fromIdentifier (value : Text) : Result BallotKindV1 :=
  if value = asStr .nonBindingApprovalPilot then .ok .nonBindingApprovalPilot
  else fail .invalidData "unsupported ballot-kind identifier"

theorem asStr_of_fromIdentifier {value : Text} {kind : BallotKindV1}
    (h : fromIdentifier value = .ok kind) : kind.asStr = value := by
  unfold fromIdentifier at h
  split at h
  · next heq =>
    cases h
    exact heq.symm
  · cases h

end BallotKindV1

/-- The only confidentiality of version one. -/
inductive BallotConfidentialityV1 where
  | isPublic
deriving DecidableEq, Repr

namespace BallotConfidentialityV1

/-- `BallotConfidentialityV1::as_str` -/
def asStr : BallotConfidentialityV1 → Text
  | .isPublic => .lit "PUBLIC"

/-- `BallotConfidentialityV1::from_identifier` -/
def fromIdentifier (value : Text) : Result BallotConfidentialityV1 :=
  if value = asStr .isPublic then .ok .isPublic
  else fail .invalidData "unsupported ballot confidentiality identifier"

theorem asStr_of_fromIdentifier {value : Text} {confidentiality : BallotConfidentialityV1}
    (h : fromIdentifier value = .ok confidentiality) : confidentiality.asStr = value := by
  unfold fromIdentifier at h
  split at h
  · next heq =>
    cases h
    exact heq.symm
  · cases h

end BallotConfidentialityV1

/-- The nine fields both manifest versions share. -/
structure ElectionManifestFields where
  protocolVersion : Nat
  electionId : ElectionId
  ballotKind : BallotKindV1
  ballotConfidentiality : BallotConfidentialityV1
  registryCommitment : RegistryCommitment
  candidateSetCommitment : CandidateSetCommitment
  proofSuiteId : Text
  approvalLimits : ApprovalLimits
  governanceSourceRevision : Text
deriving DecidableEq

namespace ElectionManifestFields

/-- The checks both constructors make, with the message of their version check. -/
def validate (fields : ElectionManifestFields) (versionMessage : String) : Result Unit := do
  refuseIf (decide (fields.protocolVersion ≠ protocolVersionV1)) .unsupportedProtocolVersion
    versionMessage
  refuseIf fields.proofSuiteId.trimIsEmpty .emptyProofSuiteId
    "proof suite identifier must not be empty"
  refuseIf (decide (maxProofSuiteIdBytes < fields.proofSuiteId.len)) .protocolLimitExceeded
    "proof suite identifier exceeds the protocol size limit"
  refuseIf fields.governanceSourceRevision.trimIsEmpty .emptyGovernanceSourceRevision
    "governance source revision must not be empty"
  refuseIf (decide (maxGovernanceRevisionBytes < fields.governanceSourceRevision.len))
    .protocolLimitExceeded "governance revision exceeds the protocol size limit"

/-- The bytes of the shared fields, in order; `crates/ballot/src/manifest_canonical.rs:32`. -/
def encode (fields : ElectionManifestFields) : Bytes :=
  writeUnsigned fields.protocolVersion ++ writeByteString fields.electionId.toBytes ++
    writeTextString fields.ballotKind.asStr ++
    writeTextString fields.ballotConfidentiality.asStr ++
    writeByteString fields.registryCommitment.toBytes ++
    writeByteString fields.candidateSetCommitment.toBytes ++
    writeTextString fields.proofSuiteId ++ writeArrayLen 3 ++
    writeUnsigned fields.approvalLimits.minimum.toNat ++
    writeUnsigned fields.approvalLimits.maximum.toNat ++
    writeBool fields.approvalLimits.allowAbstention ++
    writeTextString fields.governanceSourceRevision

private def readCommitment (message : String) : Read Bytes32 := do
  let bytes ← readByteString
  match Bytes32.ofBytes? bytes with
  | some commitment => pure commitment
  | none => fail .invalidCbor message

private def readApprovalLimits : Read ApprovalLimits := do
  let fields ← readArrayLen
  if fields ≠ 3 then
    fail .invalidCbor "approval limits must contain exactly three fields"
  let minimumSelections ← readUnsigned
  let maximumSelections ← readUnsigned
  let allowAbstention ← readBool
  ApprovalLimits.new (UInt64.ofNat minimumSelections) (UInt64.ofNat maximumSelections)
    allowAbstention

/-- Reads the shared fields, in order. -/
def read : Read ElectionManifestFields := do
  let protocolVersion ← readUnsigned
  if 2 ^ 16 ≤ protocolVersion then
    fail .invalidCbor "protocol version does not fit in u16"
  let electionIdBytes ← readByteString
  let electionId ← ElectionId.new electionIdBytes
  let kindId ← readTextString
  let ballotKind ← BallotKindV1.fromIdentifier kindId
  let confidentialityId ← readTextString
  let ballotConfidentiality ← BallotConfidentialityV1.fromIdentifier confidentialityId
  let registryCommitment ← readCommitment "registry commitment must contain exactly 32 bytes"
  let candidateSetCommitment ←
    readCommitment "candidate-set commitment must contain exactly 32 bytes"
  let proofSuiteId ← readTextString
  let approvalLimits ← readApprovalLimits
  let governanceSourceRevision ← readTextString
  pure { protocolVersion, electionId, ballotKind, ballotConfidentiality, registryCommitment,
         candidateSetCommitment, proofSuiteId, approvalLimits, governanceSourceRevision }

private theorem reads_readCommitment (message : String) (commitment : Bytes32) :
    Reads (readCommitment message) (writeByteString commitment.toBytes) commitment := by
  apply (reads_readByteString _).bind_nil
  simp only [Bytes32.ofBytes?_toBytes]
  exact Reads.pure commitment

private theorem reads_readApprovalLimits (limits : ApprovalLimits) :
    Reads readApprovalLimits (writeArrayLen 3 ++ (writeUnsigned limits.minimum.toNat ++
      (writeUnsigned limits.maximum.toNat ++ writeBool limits.allowAbstention))) limits := by
  apply (reads_readArrayLen (by decide)).bind
  simp only [ne_eq, not_true_eq_false, if_false]
  apply (reads_readUnsigned limits.minimum.toNat_lt).bind
  apply (reads_readUnsigned limits.maximum.toNat_lt).bind
  apply (reads_readBool _).bind_nil
  apply reads_lift
  simp only [ApprovalLimits.new, UInt64.ofNat_toNat, limits.minimum_le, dite_true]

/-- The shared fields are read back. -/
theorem reads_read (fields : ElectionManifestFields) (h : fields.protocolVersion < 2 ^ 16) :
    Reads read fields.encode fields := by
  have hversion : ¬ 2 ^ 16 ≤ fields.protocolVersion := Nat.not_le.mpr h
  unfold encode
  simp only [List.append_assoc]
  apply (reads_readUnsigned (show fields.protocolVersion < 2 ^ 64 by omega)).bind
  simp only [hversion, if_false]
  apply (reads_readByteString _).bind
  apply Reads.nil_bind (reads_lift fields.electionId.new_toBytes)
  apply (reads_readTextString _).bind
  apply Reads.nil_bind (reads_lift (a := fields.ballotKind) rfl)
  apply (reads_readTextString _).bind
  apply Reads.nil_bind (reads_lift (a := fields.ballotConfidentiality) rfl)
  apply (reads_readCommitment _ fields.registryCommitment).bind
  apply (reads_readCommitment _ fields.candidateSetCommitment).bind
  apply (reads_readTextString _).bind
  have hlimits := (reads_readApprovalLimits fields.approvalLimits).bind
    (f := fun limits ↦ (do
      let governanceSourceRevision ← readTextString
      pure { fields with approvalLimits := limits, governanceSourceRevision } :
        Read ElectionManifestFields))
    ((reads_readTextString fields.governanceSourceRevision).bind_nil (Reads.pure fields))
  simpa only [List.append_assoc] using hlimits

section Inversion

variable {reader next : CanonicalCborReader}

private theorem readCommitment_eq_ok {message : String} {commitment : Bytes32}
    (h : readCommitment message reader = .ok (commitment, next)) :
    reader.rest = writeByteString commitment.toBytes ++ next.rest := by
  obtain ⟨bytes, middle, hbytes, h⟩ := read_bind_eq_ok.mp h
  have hrest := readByteString_eq_ok hbytes
  cases hsome : Bytes32.ofBytes? bytes with
  | none =>
    rw [hsome] at h
    cases h
  | some digest =>
    rw [hsome] at h
    cases h
    rw [hrest, Bytes32.toBytes_of_ofBytes? hsome]

private theorem readApprovalLimits_eq_ok {limits : ApprovalLimits}
    (h : readApprovalLimits reader = .ok (limits, next)) :
    reader.rest = writeArrayLen 3 ++ (writeUnsigned limits.minimum.toNat ++
      (writeUnsigned limits.maximum.toNat ++ (writeBool limits.allowAbstention ++ next.rest))) := by
  obtain ⟨count, r1, hcount, h⟩ := read_bind_eq_ok.mp h
  split at h
  · cases h
  next hthree =>
  obtain ⟨minimum, r2, hminimum, h⟩ := read_bind_eq_ok.mp h
  obtain ⟨maximum, r3, hmaximum, h⟩ := read_bind_eq_ok.mp h
  obtain ⟨abstention, r4, habstention, h⟩ := read_bind_eq_ok.mp h
  obtain ⟨hnew, rfl⟩ := lift_eq_ok h
  obtain ⟨hrest1, -⟩ := readArgument_eq_ok hcount
  obtain ⟨hrest2, hlt2⟩ := readArgument_eq_ok hminimum
  obtain ⟨hrest3, hlt3⟩ := readArgument_eq_ok hmaximum
  have hrest4 := readBool_eq_ok habstention
  obtain ⟨hmin, hmax, habs⟩ := ApprovalLimits.eq_of_new hnew
  rw [not_not.mp hthree] at hrest1
  simp only [hmin, hmax, habs, UInt64.toNat_ofNat', Nat.mod_eq_of_lt hlt2, Nat.mod_eq_of_lt hlt3]
  rw [hrest1, hrest2, hrest3, hrest4]
  rfl

/-- Fields that were read are there in their canonical form. -/
theorem read_eq_ok {fields : ElectionManifestFields} (h : read reader = .ok (fields, next)) :
    reader.rest = fields.encode ++ next.rest := by
  obtain ⟨version, r1, hversion, h⟩ := read_bind_eq_ok.mp h
  split at h
  · cases h
  obtain ⟨idBytes, r2, hidBytes, h⟩ := read_bind_eq_ok.mp h
  obtain ⟨id, r3, hid, h⟩ := read_bind_eq_ok.mp h
  obtain ⟨kindText, r4, hkindText, h⟩ := read_bind_eq_ok.mp h
  obtain ⟨kind, r5, hkind, h⟩ := read_bind_eq_ok.mp h
  obtain ⟨modeText, r6, hmodeText, h⟩ := read_bind_eq_ok.mp h
  obtain ⟨mode, r7, hmode, h⟩ := read_bind_eq_ok.mp h
  obtain ⟨registry, r8, hregistry, h⟩ := read_bind_eq_ok.mp h
  obtain ⟨candidates, r9, hcandidates, h⟩ := read_bind_eq_ok.mp h
  obtain ⟨suite, r10, hsuite, h⟩ := read_bind_eq_ok.mp h
  obtain ⟨limits, r11, hlimits, h⟩ := read_bind_eq_ok.mp h
  obtain ⟨revision, r12, hrevision, h⟩ := read_bind_eq_ok.mp h
  cases h
  obtain ⟨hidNew, rfl⟩ := lift_eq_ok hid
  obtain ⟨hkindNew, rfl⟩ := lift_eq_ok hkind
  obtain ⟨hmodeNew, rfl⟩ := lift_eq_ok hmode
  have hunsigned := (readArgument_eq_ok hversion).1
  simp only [encode, ElectionId.toBytes_of_new hidNew,
    BallotKindV1.asStr_of_fromIdentifier hkindNew,
    BallotConfidentialityV1.asStr_of_fromIdentifier hmodeNew, List.append_assoc]
  rw [hunsigned, readByteString_eq_ok hidBytes, readTextString_eq_ok hkindText,
    readTextString_eq_ok hmodeText, readCommitment_eq_ok hregistry,
    readCommitment_eq_ok hcandidates, readTextString_eq_ok hsuite,
    readApprovalLimits_eq_ok hlimits, readTextString_eq_ok hrevision]
  rfl

end Inversion

private theorem length_asStr_le (fields : ElectionManifestFields) :
    fields.ballotKind.asStr.len ≤ 26 ∧ fields.ballotConfidentiality.asStr.len ≤ 26 := by
  constructor
  · cases fields.ballotKind
    decide +kernel
  · cases fields.ballotConfidentiality
    decide +kernel

/-- Fields that pass a constructor's checks are short. -/
theorem length_encode_le {fields : ElectionManifestFields} {versionMessage : String}
    (h : fields.validate versionMessage = .ok ()) : fields.encode.length ≤ 1024 := by
  simp only [validate, bind_eq_ok, refuseIf_eq_ok, decide_eq_false_iff_not, Nat.not_lt,
    exists_const] at h
  obtain ⟨-, -, hsuite, -, hrevision⟩ := h
  obtain ⟨hkind, hmode⟩ := length_asStr_le fields
  have hid := fields.electionId.length_le
  have hregistry := fields.registryCommitment.length_eq
  have hcandidates := fields.candidateSetCommitment.length_eq
  have h1 := length_writeUnsigned_le fields.protocolVersion
  have h2 := length_writeByteString_le fields.electionId.toBytes
  have h3 := length_writeTextString_le fields.ballotKind.asStr
  have h4 := length_writeTextString_le fields.ballotConfidentiality.asStr
  have h5 := length_writeByteString_le fields.registryCommitment.toBytes
  have h6 := length_writeByteString_le fields.candidateSetCommitment.toBytes
  have h7 := length_writeTextString_le fields.proofSuiteId
  have h8 := length_writeArrayLen_le 3
  have h9 := length_writeUnsigned_le fields.approvalLimits.minimum.toNat
  have h10 := length_writeUnsigned_le fields.approvalLimits.maximum.toNat
  have h11 : (writeBool fields.approvalLimits.allowAbstention).length = 1 := rfl
  have h12 := length_writeTextString_le fields.governanceSourceRevision
  have hlimits : maxElectionIdBytes = 128 ∧ maxProofSuiteIdBytes = 128 ∧
    maxGovernanceRevisionBytes = 256 := ⟨rfl, rfl, rfl⟩
  simp only [encode, List.length_append]
  omega

/-- Fields that pass a constructor's checks carry protocol version one. -/
theorem protocolVersion_of_validate {fields : ElectionManifestFields} {versionMessage : String}
    (h : fields.validate versionMessage = .ok ()) :
    fields.protocolVersion = protocolVersionV1 := by
  simp only [validate, bind_eq_ok, refuseIf_eq_ok] at h
  obtain ⟨-, hversion, -⟩ := h
  simpa using hversion

end ElectionManifestFields

/-- Message of the version-one constructor's version check. -/
def manifestV1VersionMessage : String := "election manifest does not use protocol version one"

/-- Message of the version-two constructor's version check. -/
def manifestV2VersionMessage : String :=
  "election manifest does not use proof protocol version one"

/-- Version-one manifest: the nine shared fields. -/
structure ElectionManifestV1 extends ElectionManifestFields where
  valid : toElectionManifestFields.validate manifestV1VersionMessage = .ok ()
deriving DecidableEq

/-- Version-two manifest: the shared fields and the proposal question. -/
structure ElectionManifestV2 extends ElectionManifestFields where
  valid : toElectionManifestFields.validate manifestV2VersionMessage = .ok ()
  proposalQuestion : ProposalQuestion
deriving DecidableEq

namespace ElectionManifestV1

/-- `ElectionManifestV1::new` -/
def new (input : ElectionManifestFields) : Result ElectionManifestV1 :=
  match h : input.validate manifestV1VersionMessage with
  | .ok () => .ok ⟨input, h⟩
  | .error e => .error e

/-- `ElectionManifestV1::to_canonical_cbor` -/
def toCanonicalCbor (self : ElectionManifestV1) : Result Bytes := do
  let encoded := writeArrayLen 9 ++ self.toElectionManifestFields.encode
  refuseIf (decide (maxCanonicalObjectBytes < encoded.length)) .protocolLimitExceeded
    "canonical manifest exceeds the protocol object limit"
  pure encoded

private def readFields : Read ElectionManifestFields := do
  let count ← readArrayLen
  if count ≠ 9 then
    fail .invalidCbor "version-one manifest must contain exactly nine fields"
  ElectionManifestFields.read

/-- `ElectionManifestV1::from_canonical_cbor` -/
def fromCanonicalCbor (encoded : Bytes) : Result ElectionManifestV1 := do
  refuseIf (decide (maxCanonicalObjectBytes < encoded.length)) .protocolLimitExceeded
    "encoded manifest exceeds the protocol object limit"
  let input ← readAll readFields encoded
  ElectionManifestV1.new input

theorem new_toFields (self : ElectionManifestV1) :
    ElectionManifestV1.new self.toElectionManifestFields = .ok self := by
  unfold ElectionManifestV1.new
  split
  · rfl
  · next herror =>
    rw [self.valid] at herror
    cases herror

theorem toFields_of_new {input : ElectionManifestFields} {self : ElectionManifestV1}
    (h : ElectionManifestV1.new input = .ok self) : self.toElectionManifestFields = input := by
  unfold ElectionManifestV1.new at h
  split at h
  · cases h
    rfl
  · cases h

/-- Every version-one manifest can be encoded. -/
theorem toCanonicalCbor_eq (self : ElectionManifestV1) :
    self.toCanonicalCbor = .ok (writeArrayLen 9 ++ self.toElectionManifestFields.encode) := by
  have hfields := ElectionManifestFields.length_encode_le self.valid
  have harray := length_writeArrayLen_le 9
  have hmax : maxCanonicalObjectBytes = 1048576 := rfl
  simp only [toCanonicalCbor, bind_eq_ok, refuseIf_eq_ok, decide_eq_false_iff_not,
    List.length_append]
  exact ⟨(), by omega, rfl⟩

/-- What the decoder accepts starts with nine and is the manifest's encoding. -/
theorem of_fromCanonicalCbor {encoded : Bytes} {self : ElectionManifestV1}
    (h : fromCanonicalCbor encoded = .ok self) :
    (∃ next, readArrayLen (CanonicalCborReader.new encoded) = .ok (9, next)) ∧
      encoded = writeArrayLen 9 ++ self.toElectionManifestFields.encode := by
  simp only [fromCanonicalCbor, bind_eq_ok] at h
  obtain ⟨-, -, input, hread, hnew⟩ := h
  obtain ⟨next, hread, hend⟩ := readAll_eq_ok hread
  obtain ⟨count, middle, hcount, hread⟩ := read_bind_eq_ok.mp hread
  split at hread
  · cases hread
  next hnine =>
  rw [not_not.mp hnine] at hcount
  have hrest : encoded = writeArrayLen 9 ++ middle.rest := (readArgument_eq_ok hcount).1
  have hfields := ElectionManifestFields.read_eq_ok hread
  rw [hend, List.append_nil] at hfields
  rw [toFields_of_new hnew, ← hfields]
  exact ⟨⟨middle, hcount⟩, hrest⟩

end ElectionManifestV1

namespace ElectionManifestV2

/-- `ElectionManifestV2::new`: the question is checked after the shared fields. -/
def new (nfc : List Char → List Char) (input : ElectionManifestFields)
    (proposalQuestion : Text) : Result ElectionManifestV2 :=
  match h : input.validate manifestV2VersionMessage with
  | .ok () => do
    let question ← ProposalQuestion.new nfc proposalQuestion
    pure ⟨input, h, question⟩
  | .error e => .error e

/-- `ElectionManifestV2::to_canonical_cbor` -/
def toCanonicalCbor (self : ElectionManifestV2) : Result Bytes := do
  let encoded := writeArrayLen 10 ++ self.toElectionManifestFields.encode ++
    writeTextString self.proposalQuestion.value
  refuseIf (decide (maxCanonicalObjectBytes < encoded.length)) .protocolLimitExceeded
    "canonical manifest exceeds the protocol object limit"
  pure encoded

private def readFields : Read (ElectionManifestFields × Text) := do
  let count ← readArrayLen
  if count ≠ 10 then
    fail .invalidCbor "version-two manifest must contain exactly ten fields"
  let fields ← ElectionManifestFields.read
  let question ← readTextString
  pure (fields, question)

/-- `ElectionManifestV2::from_canonical_cbor` -/
def fromCanonicalCbor (nfc : List Char → List Char) (encoded : Bytes) :
    Result ElectionManifestV2 := do
  refuseIf (decide (maxCanonicalObjectBytes < encoded.length)) .protocolLimitExceeded
    "encoded manifest exceeds the protocol object limit"
  let (input, question) ← readAll readFields encoded
  ElectionManifestV2.new nfc input question

theorem new_toFields {nfc : List Char → List Char} {self : ElectionManifestV2}
    (h : ProposalQuestion.new nfc self.proposalQuestion.value = .ok self.proposalQuestion) :
    ElectionManifestV2.new nfc self.toElectionManifestFields self.proposalQuestion.value =
      .ok self := by
  unfold ElectionManifestV2.new
  split
  · rw [h]
    rfl
  · next herror =>
    rw [self.valid] at herror
    cases herror

theorem toFields_of_new {nfc : List Char → List Char} {input : ElectionManifestFields}
    {question : Text} {self : ElectionManifestV2}
    (h : ElectionManifestV2.new nfc input question = .ok self) :
    self.toElectionManifestFields = input ∧ self.proposalQuestion.value = question ∧
      ProposalQuestion.new nfc question = .ok self.proposalQuestion := by
  unfold ElectionManifestV2.new at h
  split at h
  · obtain ⟨checked, hchecked, hself⟩ := bind_eq_ok.mp h
    cases hself
    exact ⟨rfl, ProposalQuestion.value_of_new hchecked, hchecked⟩
  · cases h

/-- Every version-two manifest whose question passed its checks can be encoded. -/
theorem toCanonicalCbor_eq {nfc : List Char → List Char} {self : ElectionManifestV2}
    (h : ProposalQuestion.new nfc self.proposalQuestion.value = .ok self.proposalQuestion) :
    self.toCanonicalCbor = .ok (writeArrayLen 10 ++ self.toElectionManifestFields.encode ++
      writeTextString self.proposalQuestion.value) := by
  have hfields := ElectionManifestFields.length_encode_le self.valid
  have harray := length_writeArrayLen_le 10
  have hquestion := length_writeTextString_le self.proposalQuestion.value
  have hlen := ProposalQuestion.len_le_of_new h
  have hmax : maxCanonicalObjectBytes = 1048576 ∧ maxProposalQuestionBytes = 512 := ⟨rfl, rfl⟩
  simp only [toCanonicalCbor, bind_eq_ok, refuseIf_eq_ok, decide_eq_false_iff_not,
    List.length_append]
  exact ⟨(), by omega, rfl⟩

/-- What the decoder accepts starts with ten and is the manifest's encoding. -/
theorem of_fromCanonicalCbor {nfc : List Char → List Char} {encoded : Bytes}
    {self : ElectionManifestV2} (h : fromCanonicalCbor nfc encoded = .ok self) :
    (∃ next, readArrayLen (CanonicalCborReader.new encoded) = .ok (10, next)) ∧
      encoded = writeArrayLen 10 ++ self.toElectionManifestFields.encode ++
        writeTextString self.proposalQuestion.value ∧
      ProposalQuestion.new nfc self.proposalQuestion.value = .ok self.proposalQuestion := by
  simp only [fromCanonicalCbor, bind_eq_ok] at h
  obtain ⟨-, -, ⟨input, question⟩, hread, hnew⟩ := h
  obtain ⟨next, hread, hend⟩ := readAll_eq_ok hread
  obtain ⟨count, r1, hcount, hread⟩ := read_bind_eq_ok.mp hread
  split at hread
  · cases hread
  next hten =>
  obtain ⟨fields, r2, hfields, hread⟩ := read_bind_eq_ok.mp hread
  obtain ⟨text, r3, htext, hread⟩ := read_bind_eq_ok.mp hread
  cases hread
  rw [not_not.mp hten] at hcount
  have hrest : encoded = writeArrayLen 10 ++ r1.rest := (readArgument_eq_ok hcount).1
  have hrest' := ElectionManifestFields.read_eq_ok hfields
  have hrest'' := readTextString_eq_ok htext
  rw [hend, List.append_nil] at hrest''
  obtain ⟨hinput, hvalue, hchecked⟩ := toFields_of_new hnew
  rw [hinput, hvalue, List.append_assoc, ← hrest'', ← hrest']
  exact ⟨⟨r1, hcount⟩, hrest, hchecked⟩

end ElectionManifestV2

/-- A manifest of either version; `crates/ballot/src/manifest.rs:270`. -/
inductive ElectionManifest where
  | v1 (manifest : ElectionManifestV1)
  | v2 (manifest : ElectionManifestV2)
deriving DecidableEq

namespace ElectionManifest

/-- The shared fields, whichever version: the accessors of `ElectionManifestModel`. -/
def fields : ElectionManifest → ElectionManifestFields
  | v1 manifest => manifest.toElectionManifestFields
  | v2 manifest => manifest.toElectionManifestFields

/-- `manifest_schema_version` -/
def manifestSchemaVersion : ElectionManifest → Nat
  | v1 _ => 1
  | v2 _ => 2

/-- `proposal_question` -/
def proposalQuestion : ElectionManifest → Option Text
  | v1 _ => none
  | v2 manifest => some manifest.proposalQuestion.value

/-- `ElectionManifest::to_canonical_cbor` -/
def toCanonicalCbor : ElectionManifest → Result Bytes
  | v1 manifest => manifest.toCanonicalCbor
  | v2 manifest => manifest.toCanonicalCbor

/-- `ElectionManifest::from_canonical_cbor`: dispatches on the number of fields. -/
def fromCanonicalCbor (nfc : List Char → List Char) (encoded : Bytes) :
    Result ElectionManifest := do
  refuseIf (decide (maxCanonicalObjectBytes < encoded.length)) .protocolLimitExceeded
    "encoded manifest exceeds the protocol object limit"
  let (count, _) ← readArrayLen (CanonicalCborReader.new encoded)
  if count = 9 then v1 <$> ElectionManifestV1.fromCanonicalCbor encoded
  else if count = 10 then v2 <$> ElectionManifestV2.fromCanonicalCbor nfc encoded
  else fail .invalidCbor "manifest must contain exactly nine or ten fields"

/-- The proposal question, if there is one, passes its own check. -/
def IsChecked (nfc : List Char → List Char) : ElectionManifest → Prop
  | v1 _ => True
  | v2 manifest =>
    ProposalQuestion.new nfc manifest.proposalQuestion.value = .ok manifest.proposalQuestion

/-- The encoding of a manifest is within the object limit. -/
theorem length_le_of_toCanonicalCbor {self : ElectionManifest} {encoded : Bytes}
    (h : self.toCanonicalCbor = .ok encoded) : encoded.length ≤ maxCanonicalObjectBytes := by
  cases self with
  | v1 manifest => exact length_le_of_limited h
  | v2 manifest => exact length_le_of_limited h

/-- A manifest that can be encoded is decoded to itself. -/
theorem fromCanonicalCbor_toCanonicalCbor {nfc : List Char → List Char}
    {self : ElectionManifest} {encoded : Bytes} (hchecked : self.IsChecked nfc)
    (h : self.toCanonicalCbor = .ok encoded) : fromCanonicalCbor nfc encoded = .ok self := by
  have hsize := length_le_of_toCanonicalCbor h
  have hlimit := Nat.lt_of_le_of_lt hsize (show maxCanonicalObjectBytes < 2 ^ 64 by decide)
  have hcheck : decide (maxCanonicalObjectBytes < encoded.length) = false := by
    rw [decide_eq_false_iff_not, Nat.not_lt]
    exact hsize
  -- The number of fields comes first and decides the version.
  have hcount : ∀ count rest, count < 2 ^ 64 → encoded = writeArrayLen count ++ rest →
      ∃ reader, readArrayLen (CanonicalCborReader.new encoded) = .ok (count, reader) := by
    intro count rest hsmall hencoded
    refine ⟨⟨rest, (writeArrayLen count).length⟩, reads_readArrayLen hsmall _ _ ⟨hencoded, ?_, ?_⟩⟩
    · simp only [CanonicalCborReader.new, Nat.zero_add]
    · rw [hencoded, List.length_append] at hlimit
      dsimp only
      omega
  have hversion : self.fields.protocolVersion < 2 ^ 16 := by
    have hone : self.fields.protocolVersion = protocolVersionV1 := by
      cases self with
      | v1 manifest => exact ElectionManifestFields.protocolVersion_of_validate manifest.valid
      | v2 manifest => exact ElectionManifestFields.protocolVersion_of_validate manifest.valid
    rw [hone]
    decide
  cases self with
  | v1 manifest =>
    have hencoded : encoded = writeArrayLen 9 ++ manifest.toElectionManifestFields.encode := by
      simp only [toCanonicalCbor, ElectionManifestV1.toCanonicalCbor, bind_eq_ok] at h
      obtain ⟨-, -, hencoded⟩ := h
      cases hencoded
      rfl
    obtain ⟨reader, hreader⟩ := hcount 9 _ (by decide) hencoded
    have hreads : Reads ElectionManifestV1.readFields encoded
        manifest.toElectionManifestFields := by
      rw [hencoded]
      apply (reads_readArrayLen (by decide)).bind
      simp only [ne_eq, not_true_eq_false, if_false]
      exact ElectionManifestFields.reads_read _ hversion
    have hnew := manifest.new_toFields
    simp only [fromCanonicalCbor, bind_eq_ok, refuseIf_eq_ok]
    refine ⟨(), hcheck, (9, reader), hreader, ?_⟩
    simp only [if_true, ElectionManifestV1.fromCanonicalCbor, hcheck, refuseIf,
      readAll_of_reads hreads hlimit]
    simp [bind, Except.bind, hnew, Functor.map, Except.map]
  | v2 manifest =>
    have hencoded : encoded = writeArrayLen 10 ++ (manifest.toElectionManifestFields.encode ++
        writeTextString manifest.proposalQuestion.value) := by
      simp only [toCanonicalCbor, ElectionManifestV2.toCanonicalCbor, bind_eq_ok] at h
      obtain ⟨-, -, hencoded⟩ := h
      cases hencoded
      rw [List.append_assoc]
    obtain ⟨reader, hreader⟩ := hcount 10 _ (by decide) hencoded
    have hreads : Reads ElectionManifestV2.readFields encoded
        (manifest.toElectionManifestFields, manifest.proposalQuestion.value) := by
      rw [hencoded]
      apply (reads_readArrayLen (by decide)).bind
      simp only [ne_eq, not_true_eq_false, if_false]
      apply (ElectionManifestFields.reads_read _ hversion).bind
      exact (reads_readTextString _).bind_nil (Reads.pure _)
    have hnew := ElectionManifestV2.new_toFields hchecked
    simp only [fromCanonicalCbor, bind_eq_ok, refuseIf_eq_ok]
    refine ⟨(), hcheck, (10, reader), hreader, ?_⟩
    simp only [show ¬ 10 = 9 by omega, if_false, if_true, ElectionManifestV2.fromCanonicalCbor,
      hcheck, refuseIf, readAll_of_reads hreads hlimit]
    simp [bind, Except.bind, hnew, Functor.map, Except.map]

section Dispatch

variable {nfc : List Char → List Char} {encoded : Bytes}

/-- The dispatcher returns a version-one manifest exactly when its decoder does. -/
theorem fromCanonicalCbor_v1_iff {manifest : ElectionManifestV1} :
    fromCanonicalCbor nfc encoded = .ok (v1 manifest) ↔
      ElectionManifestV1.fromCanonicalCbor encoded = .ok manifest := by
  constructor
  · intro h
    simp only [fromCanonicalCbor, bind_eq_ok] at h
    obtain ⟨-, -, ⟨count, reader⟩, -, h⟩ := h
    split at h
    · obtain ⟨first, hfirst, heq⟩ := map_eq_ok.mp h
      cases heq
      exact hfirst
    · split at h
      · obtain ⟨second, hsecond, heq⟩ := map_eq_ok.mp h
        cases heq
      · cases h
  · intro h
    obtain ⟨⟨reader, hcount⟩, -⟩ := ElectionManifestV1.of_fromCanonicalCbor h
    have hsize := h
    simp only [ElectionManifestV1.fromCanonicalCbor, bind_eq_ok] at hsize
    obtain ⟨⟨⟩, hsize, -⟩ := hsize
    simp only [fromCanonicalCbor, bind_eq_ok]
    refine ⟨(), ?_, (9, reader), hcount, map_eq_ok.mpr ⟨manifest, h, rfl⟩⟩
    exact hsize

/-- The dispatcher returns a version-two manifest exactly when its decoder does. -/
theorem fromCanonicalCbor_v2_iff {manifest : ElectionManifestV2} :
    fromCanonicalCbor nfc encoded = .ok (v2 manifest) ↔
      ElectionManifestV2.fromCanonicalCbor nfc encoded = .ok manifest := by
  constructor
  · intro h
    simp only [fromCanonicalCbor, bind_eq_ok] at h
    obtain ⟨-, -, ⟨count, reader⟩, -, h⟩ := h
    split at h
    · obtain ⟨first, hfirst, heq⟩ := map_eq_ok.mp h
      cases heq
    · split at h
      · obtain ⟨second, hsecond, heq⟩ := map_eq_ok.mp h
        cases heq
        exact hsecond
      · cases h
  · intro h
    obtain ⟨⟨reader, hcount⟩, -⟩ := ElectionManifestV2.of_fromCanonicalCbor h
    have hsize := h
    simp only [ElectionManifestV2.fromCanonicalCbor, bind_eq_ok] at hsize
    obtain ⟨⟨⟩, hsize, -⟩ := hsize
    simp only [fromCanonicalCbor, bind_eq_ok]
    refine ⟨(), ?_, (10, reader), hcount, map_eq_ok.mpr ⟨manifest, h, rfl⟩⟩
    exact hsize

/-- A decoded manifest has passed the checks. -/
theorem isChecked_of_fromCanonicalCbor {self : ElectionManifest}
    (h : fromCanonicalCbor nfc encoded = .ok self) : self.IsChecked nfc := by
  cases self with
  | v1 manifest => trivial
  | v2 manifest =>
    exact (ElectionManifestV2.of_fromCanonicalCbor (fromCanonicalCbor_v2_iff.mp h)).2.2

/-- A manifest that passed the checks can be encoded. -/
theorem exists_toCanonicalCbor {self : ElectionManifest} (h : self.IsChecked nfc) :
    ∃ encoded, self.toCanonicalCbor = .ok encoded := by
  cases self with
  | v1 manifest => exact ⟨_, manifest.toCanonicalCbor_eq⟩
  | v2 manifest => exact ⟨_, ElectionManifestV2.toCanonicalCbor_eq h⟩

/-- A decoded manifest is encoded to the bytes it came from. -/
theorem toCanonicalCbor_of_fromCanonicalCbor {self : ElectionManifest}
    (h : fromCanonicalCbor nfc encoded = .ok self) : self.toCanonicalCbor = .ok encoded := by
  have hchecked := isChecked_of_fromCanonicalCbor h
  cases self with
  | v1 manifest =>
    have hencoded := (ElectionManifestV1.of_fromCanonicalCbor (fromCanonicalCbor_v1_iff.mp h)).2
    rw [hencoded]
    exact manifest.toCanonicalCbor_eq
  | v2 manifest =>
    have hencoded :=
      (ElectionManifestV2.of_fromCanonicalCbor (fromCanonicalCbor_v2_iff.mp h)).2.1
    rw [hencoded]
    exact ElectionManifestV2.toCanonicalCbor_eq hchecked

end Dispatch

/-- Hash domain of the manifest's version. -/
def hashDomain : ElectionManifest → HashDomain
  | v1 _ => .electionManifestV1
  | v2 _ => .electionManifestV2

/-- `canonical_hash` -/
def canonicalHash (self : ElectionManifest) (provider : HashProvider) :
    Result ManifestHash := do
  let encoded ← self.toCanonicalCbor
  pure (hashDomainSeparated provider self.hashDomain encoded)

/-- The bytes `canonical_hash` hands to the hash function. -/
def framedHashInput (self : ElectionManifest) : Result Bytes := do
  let encoded ← self.toCanonicalCbor
  pure (domainSeparatedInput self.hashDomain encoded)

theorem canonicalHash_eq (self : ElectionManifest) (provider : HashProvider) :
    self.canonicalHash provider = provider.hash <$> self.framedHashInput := by
  unfold canonicalHash framedHashInput
  cases self.toCanonicalCbor with
  | error e => rfl
  | ok encoded => rfl

-- The two labels differ in their last byte, so a version-one input is never a version-two one.
/-- A framed input determines the domain of the version and the encoding. -/
theorem domainSeparatedInput_inj {self other : ElectionManifest} {encoded encoded' : Bytes}
    (h : domainSeparatedInput self.hashDomain encoded =
      domainSeparatedInput other.hashDomain encoded') : encoded = encoded' := by
  have hlen : ∀ manifest : ElectionManifest, manifest.hashDomain.label.toBytes.length = 43 := by
    intro manifest
    cases manifest with
    | v1 manifest =>
      show HashDomain.electionManifestV1.label.toBytes.length = 43
      decide +kernel
    | v2 manifest =>
      show HashDomain.electionManifestV2.label.toBytes.length = 43
      decide +kernel
  simp only [domainSeparatedInput, List.append_assoc, List.append_cancel_left_eq] at h
  obtain ⟨-, htail⟩ := List.append_inj h (by rw [hlen, hlen])
  simpa using htail

/-- The framed inputs of two manifests are the same only if the manifests are. -/
theorem eq_of_framedHashInput {nfc : List Char → List Char} {self other : ElectionManifest}
    {input : Bytes} (hself : self.IsChecked nfc) (hother : other.IsChecked nfc)
    (h : self.framedHashInput = .ok input) (h' : other.framedHashInput = .ok input) :
    self = other := by
  obtain ⟨encoded, hencoded, hinput⟩ := bind_eq_ok.mp h
  obtain ⟨encoded', hencoded', hinput'⟩ := bind_eq_ok.mp h'
  cases hinput
  have heq : encoded' = encoded := domainSeparatedInput_inj (Except.ok.inj hinput')
  subst heq
  have hread := fromCanonicalCbor_toCanonicalCbor hself hencoded
  rw [fromCanonicalCbor_toCanonicalCbor hother hencoded'] at hread
  exact (Except.ok.inj hread).symm

/-- The codec with version dispatch. Valid manifests are encoded and decoded to themselves, with
their version; accepted bytes are what their manifest is encoded to; no bytes are accepted by
both decoders, and the dispatcher returns what the one that accepts returns; and two manifests are
never hashed from the same bytes. -/
theorem canonicalCbor_dispatch (nfc : List Char → List Char) :
    (∀ self : ElectionManifest, self.IsChecked nfc →
      ∃ encoded, self.toCanonicalCbor = .ok encoded ∧
        ∃ decoded, fromCanonicalCbor nfc encoded = .ok decoded ∧ decoded = self ∧
          decoded.manifestSchemaVersion = self.manifestSchemaVersion) ∧
      (∀ encoded self, fromCanonicalCbor nfc encoded = .ok self →
        self.toCanonicalCbor = .ok encoded) ∧
      (∀ encoded first second, ElectionManifestV1.fromCanonicalCbor encoded = .ok first →
        ElectionManifestV2.fromCanonicalCbor nfc encoded ≠ .ok second) ∧
      (∀ encoded self, fromCanonicalCbor nfc encoded = .ok self ↔
        (∃ first, ElectionManifestV1.fromCanonicalCbor encoded = .ok first ∧ self = v1 first) ∨
        ∃ second, ElectionManifestV2.fromCanonicalCbor nfc encoded = .ok second ∧
          self = v2 second) ∧
      (∀ self other : ElectionManifest, self.IsChecked nfc → other.IsChecked nfc →
        self ≠ other → ∃ input input', self.framedHashInput = .ok input ∧
          other.framedHashInput = .ok input' ∧ input ≠ input') := by
  refine ⟨?_, ?_, ?_, ?_, ?_⟩
  · intro self hchecked
    obtain ⟨encoded, hencoded⟩ := exists_toCanonicalCbor hchecked
    exact ⟨encoded, hencoded, self, fromCanonicalCbor_toCanonicalCbor hchecked hencoded, rfl, rfl⟩
  · intro encoded self h
    exact toCanonicalCbor_of_fromCanonicalCbor h
  · intro encoded first second hfirst hsecond
    have hv1 : fromCanonicalCbor nfc encoded = .ok (v1 first) :=
      fromCanonicalCbor_v1_iff.mpr hfirst
    rw [fromCanonicalCbor_v2_iff.mpr hsecond] at hv1
    cases hv1
  · intro encoded self
    constructor
    · intro h
      cases self with
      | v1 first => exact .inl ⟨first, fromCanonicalCbor_v1_iff.mp h, rfl⟩
      | v2 second => exact .inr ⟨second, fromCanonicalCbor_v2_iff.mp h, rfl⟩
    · rintro (⟨first, h, rfl⟩ | ⟨second, h, rfl⟩)
      · exact fromCanonicalCbor_v1_iff.mpr h
      · exact fromCanonicalCbor_v2_iff.mpr h
  · intro self other hself hother hne
    obtain ⟨encoded, hencoded⟩ := exists_toCanonicalCbor hself
    obtain ⟨encoded', hencoded'⟩ := exists_toCanonicalCbor hother
    have hinput : self.framedHashInput = .ok (domainSeparatedInput self.hashDomain encoded) :=
      bind_eq_ok.mpr ⟨encoded, hencoded, rfl⟩
    have hinput' : other.framedHashInput =
        .ok (domainSeparatedInput other.hashDomain encoded') :=
      bind_eq_ok.mpr ⟨encoded', hencoded', rfl⟩
    refine ⟨_, _, hinput, hinput', ?_⟩
    intro heq
    rw [← heq] at hinput'
    exact hne (eq_of_framedHashInput hself hother hinput hinput')

/-- `canonical_scope`; `crates/ballot/src/manifest_scope.rs`. -/
def canonicalScope (self : ElectionManifest) (provider : HashProvider) :
    Result ElectionScope := do
  let manifestHash ← self.canonicalHash provider
  pure (deriveElectionScope provider manifestHash)

end ElectionManifest

end PrivateBallot.Ballot
