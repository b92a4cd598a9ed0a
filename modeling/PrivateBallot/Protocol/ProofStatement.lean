import PrivateBallot.Protocol.Cbor
import PrivateBallot.Protocol.Hashing

/-!
# Canonical proof statements

Library `Protocol`. `crates/protocol/src/proof_statement.rs`: the election facts a proof is
about. The fields are private in the source and only `ProofStatementV1::new` builds a
statement, so the checks it makes are fields here.
-/

namespace PrivateBallot.Protocol

open PrivateBallot.Base

/-- The nine-field statement array starts with this version. -/
def proofStatementVersionV1 : Nat := 1

/-- Facts a statement is built from. -/
structure ProofStatementV1Input where
  protocolVersion : Nat
  proofSuiteId : Text
  manifestHash : ManifestHash
  electionScope : ElectionScope
  registryCommitment : RegistryCommitment
  ballotPayloadHash : BallotPayloadHash
  ballotKindId : Text
  ballotConfidentialityId : Text
deriving DecidableEq

/-- `validate_identifier` -/
def validateIdentifier (value : Text) (maximumBytes : Nat) (emptyCode : ValidationCode)
    (emptyMessage oversizedMessage : String) : Result Unit := do
  refuseIf value.trimIsEmpty emptyCode emptyMessage
  refuseIf (decide (maximumBytes < value.len)) .protocolLimitExceeded oversizedMessage

/-- The checks of `ProofStatementV1::new`; `crates/protocol/src/proof_statement.rs:41`. -/
def ProofStatementV1Input.validate (input : ProofStatementV1Input) : Result Unit := do
  refuseIf (decide (input.protocolVersion ≠ protocolVersionV1)) .unsupportedProtocolVersion
    "proof statement does not use protocol version one"
  validateIdentifier input.proofSuiteId maxProofSuiteIdBytes .emptyProofSuiteId
    "proof suite identifier must not be empty"
    "proof suite identifier exceeds the protocol size limit"
  validateIdentifier input.ballotKindId maxBallotKindIdBytes .invalidData
    "ballot-kind identifier must not be empty"
    "ballot-kind identifier exceeds the protocol size limit"
  validateIdentifier input.ballotConfidentialityId maxBallotConfidentialityIdBytes .invalidData
    "ballot confidentiality identifier must not be empty"
    "ballot confidentiality identifier exceeds the protocol size limit"

/-- A statement whose facts passed every check. -/
structure ProofStatementV1 extends ProofStatementV1Input where
  valid : toProofStatementV1Input.validate = .ok ()
deriving DecidableEq

namespace ProofStatementV1

/-- `ProofStatementV1::new` -/
def new (input : ProofStatementV1Input) : Result ProofStatementV1 :=
  match h : input.validate with
  | .ok () => .ok ⟨input, h⟩
  | .error e => .error e

/-- A statement is built from exactly the facts it was given. -/
theorem toInput_of_new {input : ProofStatementV1Input} {statement : ProofStatementV1}
    (h : new input = .ok statement) : statement.toProofStatementV1Input = input := by
  unfold new at h
  split at h
  · cases h
    rfl
  · cases h

/-- Facts that pass every check make a statement. -/
theorem new_of_validate {input : ProofStatementV1Input} (h : input.validate = .ok ()) :
    new input = .ok ⟨input, h⟩ := by
  unfold new
  split
  · rfl
  · next e he =>
    rw [h] at he
    cases he

/-- `to_canonical_cbor`; `crates/protocol/src/proof_statement.rs`. -/
def toCanonicalCbor (self : ProofStatementV1) : Result Bytes := do
  let encoded := writeArrayLen 9 ++ writeUnsigned proofStatementVersionV1 ++
    writeUnsigned self.protocolVersion ++ writeTextString self.proofSuiteId ++
    writeByteString self.manifestHash.toBytes ++ writeByteString self.electionScope.toBytes ++
    writeByteString self.registryCommitment.toBytes ++
    writeByteString self.ballotPayloadHash.toBytes ++ writeTextString self.ballotKindId ++
    writeTextString self.ballotConfidentialityId
  refuseIf (decide (maxProofStatementBytes < encoded.length)) .protocolLimitExceeded
    "canonical proof statement exceeds the protocol size limit"
  pure encoded

/-- `transcript_bytes`: the canonical statement framed for the proof transcript. -/
def transcriptBytes (self : ProofStatementV1) : Result Bytes := do
  let canonical ← self.toCanonicalCbor
  pure (domainSeparatedInput .proofStatementV1 canonical)

private theorem len_le_of_validateIdentifier {value : Text} {maximumBytes : Nat}
    {emptyCode : ValidationCode} {emptyMessage oversizedMessage : String} {u : Unit}
    (h : validateIdentifier value maximumBytes emptyCode emptyMessage oversizedMessage = .ok u) :
    value.len ≤ maximumBytes := by
  simp only [validateIdentifier, bind_eq_ok, refuseIf_eq_ok, decide_eq_false_iff_not,
    Nat.not_lt] at h
  obtain ⟨-, -, hlen⟩ := h
  exact hlen

-- Three identifiers of bounded length, four hashes and twelve item heads.
/-- Every statement fits its size limit, so it always has transcript bytes. -/
theorem exists_transcriptBytes (self : ProofStatementV1) :
    ∃ bytes, self.transcriptBytes = .ok bytes := by
  have hvalid := self.valid
  simp only [ProofStatementV1Input.validate, bind_eq_ok] at hvalid
  obtain ⟨_, _, _, hsuite, _, hkind, hconfidentiality⟩ := hvalid
  have hsuite := len_le_of_validateIdentifier hsuite
  have hkind := len_le_of_validateIdentifier hkind
  have hconfidentiality := len_le_of_validateIdentifier hconfidentiality
  simp only [transcriptBytes, toCanonicalCbor, bind_eq_ok, refuseIf_eq_ok,
    decide_eq_false_iff_not, Nat.not_lt]
  refine ⟨_, _, ⟨(), ?_, rfl⟩, rfl⟩
  have hfields := length_writeArrayLen_le 9
  have hversion := length_writeUnsigned_le proofStatementVersionV1
  have hprotocol := length_writeUnsigned_le self.protocolVersion
  have hsuiteText := length_writeTextString_le self.proofSuiteId
  have hmanifest := length_writeByteString_le self.manifestHash.toBytes
  have hscope := length_writeByteString_le self.electionScope.toBytes
  have hregistry := length_writeByteString_le self.registryCommitment.toBytes
  have hpayload := length_writeByteString_le self.ballotPayloadHash.toBytes
  have hkindText := length_writeTextString_le self.ballotKindId
  have hconfidentialityText := length_writeTextString_le self.ballotConfidentialityId
  have hmanifestLen := self.manifestHash.length_eq
  have hscopeLen := self.electionScope.length_eq
  have hregistryLen := self.registryCommitment.length_eq
  have hpayloadLen := self.ballotPayloadHash.length_eq
  have hlimits : maxProofSuiteIdBytes = 128 ∧ maxBallotKindIdBytes = 64 ∧
    maxBallotConfidentialityIdBytes = 64 ∧ maxProofStatementBytes = 4096 := ⟨rfl, rfl, rfl, rfl⟩
  simp only [List.length_append]
  omega

end ProofStatementV1

end PrivateBallot.Protocol
