import PrivateBallot.Ballot.Lifecycle
import PrivateBallot.GuiCore.Error
import PrivateBallot.Protocol.Cbor
import Mathlib.Data.List.AList

/-!
# Election status statements

Library `GuiCore`. `crates/gui-core/src/election_status.rs` and the authority roots of
`transport.rs`: a signed statement about the lifecycle of one election, checked against the
election and the pinned roots. Ed25519 is a `SignatureCrate`.
-/

namespace PrivateBallot.GuiCore

open PrivateBallot.Base
open PrivateBallot.Protocol
open PrivateBallot.Ballot

/-- The signature crate: which bytes are a verification key, and which signatures verify. -/
structure SignatureCrate where
  isVerifyingKey : Bytes32 → Bool
  verifyStrict : Bytes32 → Bytes → Bytes → Bool

/-! ### Authority roots -/

/-- `TransportError` -/
inductive TransportError where
  | invalidDescriptor
  | untrustedRoot
  | productionAuthorityNotProvisioned
  | descriptorConflict
  | unsupportedRoute
  | invalidEnvelope
  | wrongElection
  | wrongDescriptor
  | wrongGatewayKey
  | cryptoFailure
  | oversizedPayload
  | unavailable
deriving DecidableEq, Repr

/-- `TransportAuthorityRootV1` -/
inductive TransportAuthorityRootV1 where
  | productionNotProvisioned (keyId : Text)
  | pinned (keyId : Text) (publicKey : Bytes32)
deriving DecidableEq

/-- `key_id` -/
def TransportAuthorityRootV1.keyId : TransportAuthorityRootV1 → Text
  | .productionNotProvisioned keyId => keyId
  | .pinned keyId _ => keyId

/-- `TransportAuthorityRootSetV1` -/
structure TransportAuthorityRootSetV1 where
  current : TransportAuthorityRootV1
  historical : AList fun _ : Text ↦ TransportAuthorityRootV1
  revoked : List Text
deriving DecidableEq

namespace TransportAuthorityRootSetV1

/-- `TransportAuthorityRootSetV1::new` -/
def new (current : TransportAuthorityRootV1) : TransportAuthorityRootSetV1 := ⟨current, ∅, []⟩

/-- `lookup_root` -/
def lookupRoot (self : TransportAuthorityRootSetV1) (rootKeyId : Text) :
    Except TransportError TransportAuthorityRootV1 :=
  if rootKeyId ∈ self.revoked then .error .untrustedRoot
  else if rootKeyId = self.current.keyId then .ok self.current
  else match self.historical.lookup rootKeyId with
    | some root => .ok root
    | none => .error .untrustedRoot

/-- `verifying_key` -/
def verifyingKey (ed : SignatureCrate) : TransportAuthorityRootV1 → Except TransportError Bytes32
  | .productionNotProvisioned _ => .error .productionAuthorityNotProvisioned
  | .pinned _ publicKey =>
    if ed.isVerifyingKey publicKey then .ok publicKey else .error .untrustedRoot

/-- `verify_by_root_id` -/
def verifyByRootId (ed : SignatureCrate) (self : TransportAuthorityRootSetV1) (rootKeyId : Text)
    (message signature : Bytes) : Except TransportError Unit := do
  let root ← self.lookupRoot rootKeyId
  let key ← verifyingKey ed root
  if ed.verifyStrict key message signature then pure () else Except.error .cryptoFailure

end TransportAuthorityRootSetV1

/-- A signature verifies under the pinned key of a root that is not revoked. -/
theorem TransportAuthorityRootSetV1.verifyByRootId_eq_ok {ed : SignatureCrate}
    {self : TransportAuthorityRootSetV1} {rootKeyId : Text} {message signature : Bytes} :
    self.verifyByRootId ed rootKeyId message signature = .ok () ↔
      ∃ keyId publicKey, rootKeyId ∉ self.revoked ∧
        self.lookupRoot rootKeyId = .ok (.pinned keyId publicKey) ∧
        ed.isVerifyingKey publicKey = true ∧
        ed.verifyStrict publicKey message signature = true := by
  unfold verifyByRootId
  rw [bind_eq_ok]
  constructor
  · rintro ⟨root, hroot, hrest⟩
    obtain ⟨key, hkey, hverify⟩ := bind_eq_ok.mp hrest
    have hrevoked : rootKeyId ∉ self.revoked := by
      intro hmem
      rw [lookupRoot, if_pos hmem] at hroot
      cases hroot
    cases root with
    | productionNotProvisioned keyId => cases hkey
    | pinned keyId publicKey =>
      rw [verifyingKey] at hkey
      split at hkey
      · next hverifying =>
        cases hkey
        refine ⟨keyId, key, hrevoked, hroot, hverifying, ?_⟩
        by_contra hbad
        rw [if_neg hbad] at hverify
        cases hverify
      · cases hkey
  · rintro ⟨keyId, publicKey, -, hroot, hkey, hverify⟩
    refine ⟨_, hroot, ?_⟩
    rw [verifyingKey, if_pos hkey, bind_eq_ok]
    refine ⟨_, rfl, ?_⟩
    rw [if_pos hverify]
    rfl

/-! ### Statements -/

/-- `ElectionStatusErrorV1` -/
inductive ElectionStatusErrorV1 where
  | malformedStatement
  | unsupportedVersion
  | oversizedStatement
  | draftNotSignable
  | untrustedRoot
  | invalidSignature
  | wrongElection
  | wrongManifestHash
  | wrongRegistryCommitment
  | staleGeneration
  | conflictingGeneration
  | lifecycleRollbackRejected
deriving DecidableEq, Repr

namespace ElectionStatusErrorV1

/-- `ElectionStatusErrorV1::message` -/
def message : ElectionStatusErrorV1 → String
  | malformedStatement => "the election status artifact is not a canonical statement"
  | unsupportedVersion => "the election status artifact uses an unsupported version"
  | oversizedStatement => "the election status artifact exceeds the size limit"
  | draftNotSignable => "a draft election cannot be published as election status"
  | untrustedRoot => "the election status signer is not a trusted authority"
  | invalidSignature => "the election status signature is invalid"
  | wrongElection => "the election status artifact is for a different election"
  | wrongManifestHash => "the election status artifact is bound to a different frozen manifest"
  | wrongRegistryCommitment =>
    "the election status artifact is bound to a different frozen registry"
  | staleGeneration => "the election status artifact is older than accepted status"
  | conflictingGeneration => "conflicting election status at the same generation was rejected"
  | lifecycleRollbackRejected => "the election status artifact would move the election backward"

/-- `From<ElectionStatusErrorV1> for GuiCoreError` -/
def toGuiCoreError (error : ElectionStatusErrorV1) : GuiCoreError :=
  let category := match error with
    | wrongElection | wrongManifestHash | wrongRegistryCommitment => .bindingMismatch
    | lifecycleRollbackRejected | conflictingGeneration => .invalidLifecycleTransition
    | _ => .invalidInput
  ⟨"GUI_ELECTION_STATUS_REJECTED", category, some "election-status", error.message⟩

end ElectionStatusErrorV1

/-- `Result<α, ElectionStatusErrorV1>` -/
abbrev StatusResult (α : Type) := Except ElectionStatusErrorV1 α

/-- `.map_err(GuiCoreError::from)` -/
def ofStatus {α : Type} (x : StatusResult α) : GuiResult α :=
  x.mapError ElectionStatusErrorV1.toGuiCoreError

@[simp] theorem ofStatus_eq_ok {α : Type} (x : StatusResult α) (a : α) :
    ofStatus x = .ok a ↔ x = .ok a := by
  cases x with
  | error e => simp [ofStatus, Except.mapError]
  | ok b => simp [ofStatus, Except.mapError]

/-- `ELECTION_STATUS_STATEMENT_VERSION_V1` -/
def electionStatusStatementVersionV1 : Nat := 1

/-- `ELECTION_STATUS_PROTOCOL_ID` -/
def electionStatusProtocolId : Text := .lit "tari-cc-private-ballot/election-status/v1"

/-- `MAX_ELECTION_STATUS_STATEMENT_BYTES` -/
def maxElectionStatusStatementBytes : Nat := 4 * 1024

/-- `MAX_STATUS_ELECTION_ID_BYTES` -/
def maxStatusElectionIdBytes : Nat := 128

/-- `MAX_STATUS_ROOT_KEY_ID_BYTES` -/
def maxStatusRootKeyIdBytes : Nat := 256

/-- `STATUS_GENERATION_MINIMUM` -/
def statusGenerationMinimum : UInt64 := 1

/-- `state_code` -/
def stateCode : ElectionLifecycleStateV1 → StatusResult Nat
  | .frozen => .ok 1
  | .opened => .ok 2
  | .closed => .ok 3
  | .verified => .ok 4
  | .finalized => .ok 5
  | .draft => .error .draftNotSignable

/-- `state_from_code` -/
def stateFromCode : Nat → StatusResult ElectionLifecycleStateV1
  | 1 => .ok .frozen
  | 2 => .ok .opened
  | 3 => .ok .closed
  | 4 => .ok .verified
  | 5 => .ok .finalized
  | _ => .error .malformedStatement

/-- An Ed25519 signature: 64 bytes. -/
abbrev SignatureBytes := { bytes : Bytes // bytes.length = 64 }

theorem length_zeros64 : (List.replicate 64 (0 : UInt8)).length = 64 := List.length_replicate

/-- `AuthenticatedElectionStatusStatementV1` -/
structure AuthenticatedElectionStatusStatementV1 where
  electionId : Bytes
  manifestHash : ManifestHash
  registryCommitment : RegistryCommitment
  state : ElectionLifecycleStateV1
  generation : UInt64
  rootKeyId : Text
  signature : SignatureBytes
deriving DecidableEq

namespace AuthenticatedElectionStatusStatementV1

/-- `validate_fields` -/
def validateFields (self : AuthenticatedElectionStatusStatementV1) : StatusResult Unit :=
  if self.electionId = [] ∨ maxStatusElectionIdBytes < self.electionId.length ∨
      self.rootKeyId.len = 0 ∨ maxStatusRootKeyIdBytes < self.rootKeyId.len ∨
      self.generation < statusGenerationMinimum then
    .error .malformedStatement
  else do
    let _ ← stateCode self.state
    pure ()

/-- The items of a statement up to the signature. -/
def encodeFields (self : AuthenticatedElectionStatusStatementV1) (code : Nat) : Bytes :=
  writeUnsigned electionStatusStatementVersionV1 ++ writeTextString electionStatusProtocolId ++
    writeByteString self.electionId ++ writeByteString self.manifestHash.toBytes ++
    writeByteString self.registryCommitment.toBytes ++ writeUnsigned code ++
    writeUnsigned self.generation.toNat ++ writeTextString self.rootKeyId

/-- `unsigned_canonical_cbor` -/
def unsignedCanonicalCbor (self : AuthenticatedElectionStatusStatementV1) : StatusResult Bytes := do
  let code ← stateCode self.state
  pure (writeArrayLen 8 ++ self.encodeFields code)

/-- `signing_message` -/
def signingMessage (self : AuthenticatedElectionStatusStatementV1) : StatusResult Bytes := do
  let unsigned ← self.unsignedCanonicalCbor
  pure (domainSeparatedInput .electionStatusStatementV1 unsigned)

/-- The refusal a failed signature check is reported as. -/
def ofTransport : Except TransportError Unit → StatusResult Unit
  | .ok () => .ok ()
  | .error .cryptoFailure => .error .invalidSignature
  | .error _ => .error .untrustedRoot

/-- `AuthenticatedElectionStatusStatementV1::verify` -/
def verify (ed : SignatureCrate) (self : AuthenticatedElectionStatusStatementV1)
    (roots : TransportAuthorityRootSetV1) (expectedElectionId : Bytes)
    (expectedManifestHash : ManifestHash) (expectedRegistryCommitment : RegistryCommitment) :
    StatusResult Unit := do
  self.validateFields
  if self.electionId ≠ expectedElectionId then Except.error .wrongElection
  else if self.manifestHash ≠ expectedManifestHash then Except.error .wrongManifestHash
  else if self.registryCommitment ≠ expectedRegistryCommitment then
    Except.error .wrongRegistryCommitment
  else
    let message ← self.signingMessage
    ofTransport (roots.verifyByRootId ed self.rootKeyId message self.signature.val)

/-- `to_canonical_cbor` -/
def toCanonicalCbor (self : AuthenticatedElectionStatusStatementV1) : StatusResult Bytes := do
  self.validateFields
  let code ← stateCode self.state
  pure (writeArrayLen 9 ++ self.encodeFields code ++ writeByteString self.signature.val)

end AuthenticatedElectionStatusStatementV1

/-! ### Decoding -/

/-- A reader whose errors are refusals of a statement. -/
abbrev StatusRead := StateT CanonicalCborReader (Except ElectionStatusErrorV1)

/-- `.map_err(|_| ElectionStatusErrorV1::MalformedStatement)` -/
def orMalformed {α : Type} (read : Read α) : StatusRead α := orError .malformedStatement read

/-- `read_fixed_32` -/
def readFixed32 : StatusRead Bytes32 := do
  let bytes ← orMalformed readByteString
  match Bytes32.ofBytes? bytes with
  | some value => pure value
  | none => (Except.error .malformedStatement : StatusResult Bytes32)

/-- `read_fixed_signature` -/
def readFixedSignature : StatusRead SignatureBytes := do
  let bytes ← orMalformed readByteString
  if h : bytes.length = 64 then pure ⟨bytes, h⟩
  else (Except.error .malformedStatement : StatusResult SignatureBytes)

/-- Refuses the statement. -/
def refuseStatus (condition : Bool) (error : ElectionStatusErrorV1) : StatusResult Unit :=
  if condition then .error error else .ok ()

namespace AuthenticatedElectionStatusStatementV1

/-- The items of `from_canonical_cbor`, in order. -/
def readStatement : StatusRead AuthenticatedElectionStatusStatementV1 := do
  let arrayLen ← orMalformed readArrayLen
  refuseStatus (decide (arrayLen ≠ 9)) .malformedStatement
  let version ← orMalformed readUnsigned
  refuseStatus (decide (version ≠ electionStatusStatementVersionV1)) .unsupportedVersion
  let protocol ← orMalformed readTextString
  refuseStatus (decide (protocol ≠ electionStatusProtocolId)) .malformedStatement
  let electionId ← orMalformed readByteString
  let manifestHash ← readFixed32
  let registryCommitment ← readFixed32
  let code ← orMalformed readUnsigned
  let state ← stateFromCode code
  let generation ← orMalformed readUnsigned
  let rootKeyId ← orMalformed readTextString
  let signature ← readFixedSignature
  pure ⟨electionId, manifestHash, registryCommitment, state, UInt64.ofNat generation, rootKeyId,
    signature⟩

/-- `reader.finish()` -/
def finishStatus (reader : CanonicalCborReader) : StatusResult Unit :=
  reader.finish.mapError fun _ ↦ .malformedStatement

/-- `from_canonical_cbor` -/
def fromCanonicalCbor (bytes : Bytes) : StatusResult AuthenticatedElectionStatusStatementV1 := do
  refuseStatus (decide (maxElectionStatusStatementBytes < bytes.length)) .oversizedStatement
  let (statement, reader) ← readStatement (.new bytes)
  finishStatus reader
  statement.validateFields
  let encoded ← statement.toCanonicalCbor
  refuseStatus (decide (encoded ≠ bytes)) .malformedStatement
  pure statement

end AuthenticatedElectionStatusStatementV1

/-! ### Statements are read back -/

@[simp] theorem refuseStatus_eq_ok (condition : Bool) (error : ElectionStatusErrorV1) (u : Unit) :
    refuseStatus condition error = .ok u ↔ condition = false := by
  cases condition with
  | false => simp [refuseStatus]
  | true => simp [refuseStatus]

private theorem reads_readFixed32 (value : Bytes32) :
    Reads readFixed32 (writeByteString value.toBytes) value := by
  apply (reads_orError _ (reads_readByteString _)).bind_nil
  simp only [Bytes32.ofBytes?_toBytes]
  exact Reads.pure value

private theorem reads_readFixedSignature (value : SignatureBytes) :
    Reads readFixedSignature (writeByteString value.val) value := by
  apply (reads_orError _ (reads_readByteString _)).bind_nil
  simp only [value.property, dite_true]
  exact Reads.pure value

theorem stateFromCode_stateCode {state : ElectionLifecycleStateV1} {code : Nat}
    (h : stateCode state = .ok code) : stateFromCode code = .ok state ∧ code < 2 ^ 64 := by
  cases state with
  | draft => cases h
  | frozen | opened | closed | verified | finalized =>
    cases h
    exact ⟨rfl, by decide⟩

namespace AuthenticatedElectionStatusStatementV1

variable {self : AuthenticatedElectionStatusStatementV1} {ed : SignatureCrate}

/-- What the checks of the fields say. -/
theorem validateFields_eq_ok : self.validateFields = .ok () ↔
    (self.electionId ≠ [] ∧ self.electionId.length ≤ maxStatusElectionIdBytes ∧
      self.rootKeyId.len ≠ 0 ∧ self.rootKeyId.len ≤ maxStatusRootKeyIdBytes ∧
      statusGenerationMinimum ≤ self.generation) ∧ ∃ code, stateCode self.state = .ok code := by
  unfold validateFields
  split
  · next hbad =>
    constructor
    · intro h
      cases h
    · rintro ⟨⟨hid, hlen, hroot, hrootLen, hgeneration⟩, -⟩
      rcases hbad with h | h | h | h | h
      · exact absurd h hid
      · omega
      · exact absurd h hroot
      · omega
      · exact absurd hgeneration (UInt64.not_le.mpr h)
  · next hgood =>
    simp only [not_or, Nat.not_lt, UInt64.not_lt] at hgood
    simp only [hgood, bind_eq_ok, ne_eq, not_false_eq_true, true_and]
    constructor
    · rintro ⟨code, hcode, -⟩
      exact ⟨code, hcode⟩
    · rintro ⟨code, hcode⟩
      exact ⟨code, hcode, rfl⟩

/-- What a statement that verifies has passed. -/
theorem verify_eq_ok {roots : TransportAuthorityRootSetV1} {electionId : Bytes}
    {manifestHash : ManifestHash} {registryCommitment : RegistryCommitment} :
    self.verify ed roots electionId manifestHash registryCommitment = .ok () ↔
      self.validateFields = .ok () ∧ self.electionId = electionId ∧
        self.manifestHash = manifestHash ∧ self.registryCommitment = registryCommitment ∧
        ∃ message, self.signingMessage = .ok message ∧
          roots.verifyByRootId ed self.rootKeyId message self.signature.val = .ok () := by
  have htransport : ∀ result : Except TransportError Unit,
      ofTransport result = .ok () ↔ result = .ok () := by
    intro result
    unfold ofTransport
    split
    · simp
    · simp
    · next e _ => simp
  unfold verify
  rw [bind_eq_ok]
  by_cases helection : self.electionId = electionId
  · by_cases hmanifest : self.manifestHash = manifestHash
    · by_cases hregistry : self.registryCommitment = registryCommitment
      · simp only [helection, hmanifest, hregistry, ne_eq, not_true_eq_false, if_false, true_and,
          bind_eq_ok, htransport]
        exact ⟨fun ⟨_, hvalid, hsigned⟩ ↦ ⟨hvalid, hsigned⟩, fun h ↦ ⟨(), h⟩⟩
      · simp [helection, hmanifest, hregistry]
    · simp [helection, hmanifest]
  · simp [helection]

private theorem reads_readStatement {code : Nat} (hcode : stateCode self.state = .ok code) :
    Reads readStatement
      (writeArrayLen 9 ++ self.encodeFields code ++ writeByteString self.signature.val) self := by
  obtain ⟨hstate, hlt⟩ := stateFromCode_stateCode hcode
  unfold encodeFields
  simp only [List.append_assoc]
  apply (reads_orError _ (reads_readArrayLen (by decide))).bind
  apply Reads.nil_bind (reads_lift ((refuseStatus_eq_ok _ _ ()).mpr (by decide)))
  apply (reads_orError _ (reads_readUnsigned (by decide))).bind
  apply Reads.nil_bind (reads_lift ((refuseStatus_eq_ok _ _ ()).mpr (by decide)))
  apply (reads_orError _ (reads_readTextString _)).bind
  apply Reads.nil_bind (reads_lift ((refuseStatus_eq_ok _ _ ()).mpr (by simp)))
  apply (reads_orError _ (reads_readByteString _)).bind
  apply (reads_readFixed32 _).bind
  apply (reads_readFixed32 _).bind
  apply (reads_orError _ (reads_readUnsigned hlt)).bind
  apply Reads.nil_bind (reads_lift hstate)
  apply (reads_orError _ (reads_readUnsigned self.generation.toNat_lt)).bind
  apply (reads_orError _ (reads_readTextString _)).bind
  apply (reads_readFixedSignature _).bind_nil
  rw [UInt64.ofNat_toNat]
  exact Reads.pure self

/-- The largest statement is far below the size limit. -/
theorem length_toCanonicalCbor {bytes : Bytes} (h : self.toCanonicalCbor = .ok bytes) :
    bytes.length ≤ 768 := by
  simp only [toCanonicalCbor, bind_eq_ok] at h
  obtain ⟨_, hvalid, code, -, hbytes⟩ := h
  cases hbytes
  obtain ⟨⟨-, hid, -, hroot, -⟩, -⟩ := validateFields_eq_ok.mp hvalid
  have hprotocol := length_writeTextString_le electionStatusProtocolId
  have hprotocolLen : electionStatusProtocolId.len = 41 := by decide +kernel
  have hversion := length_writeUnsigned_le electionStatusStatementVersionV1
  have harray := length_writeArrayLen_le 9
  have helection := length_writeByteString_le self.electionId
  have hmanifest := length_writeByteString_le self.manifestHash.toBytes
  have hregistry := length_writeByteString_le self.registryCommitment.toBytes
  have hcode := length_writeUnsigned_le code
  have hgeneration := length_writeUnsigned_le self.generation.toNat
  have hkey := length_writeTextString_le self.rootKeyId
  have hsignature := length_writeByteString_le self.signature.val
  rw [self.manifestHash.length_eq] at hmanifest
  rw [self.registryCommitment.length_eq] at hregistry
  rw [self.signature.property] at hsignature
  rw [maxStatusElectionIdBytes] at hid
  rw [maxStatusRootKeyIdBytes] at hroot
  simp only [encodeFields, List.length_append]
  omega

/-- A statement that can be encoded is decoded to itself. -/
theorem fromCanonicalCbor_toCanonicalCbor {bytes : Bytes} (h : self.toCanonicalCbor = .ok bytes) :
    fromCanonicalCbor bytes = .ok self := by
  have hlen := length_toCanonicalCbor h
  have hencoded := h
  simp only [toCanonicalCbor, bind_eq_ok] at h
  obtain ⟨_, hvalid, code, hcode, hbytes⟩ := h
  cases hbytes
  have hread := run_of_reads (reads_readStatement hcode) (Nat.lt_of_le_of_lt hlen (by decide))
  have hsize : refuseStatus (decide (maxElectionStatusStatementBytes <
      (writeArrayLen 9 ++ self.encodeFields code ++
        writeByteString self.signature.val).length)) .oversizedStatement = .ok () := by
    rw [refuseStatus_eq_ok, decide_eq_false_iff_not, maxElectionStatusStatementBytes]
    omega
  unfold fromCanonicalCbor
  simp only [hsize, hread, hvalid, hencoded, bind, Except.bind]
  simp [finishStatus, CanonicalCborReader.finish, refuseIf, Except.mapError, refuseStatus]
  rfl

end AuthenticatedElectionStatusStatementV1

end PrivateBallot.GuiCore
