import PrivateBallot.OotleAnchor.CanonicalJson
import PrivateBallot.OotleAnchor.EventBindings
import PrivateBallot.Protocol.Hashing

/-!
# The public election summary

Library `OotleAnchor`. `crates/anchor/src/record.rs:24-80` (the bounded network identifier) and
`crates/anchor/src/public_payload_v2.rs:24-341`, `:491-623` and `:799-816`: the payload, its limits,
the canonical encoder and the strict decoder, and the digest over the encoded bytes.
-/

namespace PrivateBallot.OotleAnchor

open PrivateBallot.Base PrivateBallot.Protocol

/-- `crates/anchor/src/record.rs:24` -/
def maxOotleNetworkIdBytes : Nat := 32

/-- The checks of `OotleNetworkIdV1::new`; `crates/anchor/src/record.rs:47-72`. -/
def OotleNetworkIdV1.check (value : Text) : Result Unit := do
  refuseIf (decide (value.len = 0)) .invalidData "ootle network identifier must not be empty"
  refuseIf (decide (maxOotleNetworkIdBytes < value.len)) .protocolLimitExceeded
    "ootle network identifier exceeds the anchor size limit"
  refuseIf (!value.toBytes.all fun b ↦ isAlphanumericByte b || b = 0x2d || b = 0x5f) .invalidData
    "ootle network identifier contains an unsupported character"

/-- `crates/anchor/src/record.rs:43` -/
structure OotleNetworkIdV1 where
  asStr : Text
  checked : OotleNetworkIdV1.check asStr = .ok ()
deriving DecidableEq

/-- `crates/anchor/src/record.rs:47` -/
def OotleNetworkIdV1.new (value : Text) : Result OotleNetworkIdV1 :=
  match h : check value with
  | .ok () => .ok ⟨value, h⟩
  | .error e => .error e

def ootleAnchorPublicPayloadTypeIdV2 : Text :=
  .lit "TARI_CC_PRIVATE_BALLOT_OOTLE_ANCHOR_PUBLIC_V2"
def ootleAnchorPublicPayloadSchemaVersionV2 : UInt64 := 2
def ootleAnchorPublicPayloadFramePrefixV2 : Text :=
  .lit "TARI_CC_PRIVATE_BALLOT_OOTLE_ANCHOR_PUBLIC_FRAME_V2"
def ootleAnchorPublicPayloadDomainLabelV2 : Text :=
  .lit "tari-cc-private-ballot/ootle-anchor-public-payload/v2"
def maxOotleAnchorPublicPayloadBytesV2 : Nat := 256 * 1024
def maxBallotQuestionBytesV2 : Nat := 8 * 1024
def maxOptionLabelBytesV2 : Nat := 1024
def maxEnumStringBytesV2 : Nat := 64
def maxElectionIdBytesV2 : Nat := 128
def maxMachineIdBytesV2 : Nat := 64
def maxTallyEntriesV2 : Nat := 65536

/-- `crates/anchor/src/public_payload_v2.rs:65` -/
structure OotleAnchorTallyEntryV2 where
  displayLabel : Text
  machineId : Bytes
  count : UInt64
deriving DecidableEq

def OotleAnchorTallyEntryV2.validate (entry : OotleAnchorTallyEntryV2) : Result Unit := do
  refuseIf (decide (maxOptionLabelBytesV2 < entry.displayLabel.len)) .invalidData
    "tally option label exceeds the public payload limit"
  refuseIf (entry.machineId.isEmpty || decide (maxMachineIdBytesV2 < entry.machineId.length))
    .invalidData "tally option machine id is empty or too long"

/-- `crates/anchor/src/public_payload_v2.rs:90` -/
structure OotleAnchorTemplateBindingV2 where
  templateAddress : Text
  templateModule : Text
  templateFunction : Text
  eventTopic : Text
  artifactDigest : Bytes32
deriving DecidableEq

/-- `if value.is_empty() || value.len() > limit` -/
def refuseLength (limit : Nat) (value : Text) (message : String) : Result Unit :=
  refuseIf (decide (value.len = 0 ∨ limit < value.len)) .invalidData message

def OotleAnchorTemplateBindingV2.validate (template : OotleAnchorTemplateBindingV2) :
    Result Unit := do
  refuseLength 512 template.templateAddress "V2 template address is empty or too long"
  refuseLength 512 template.templateModule "V2 template module is empty or too long"
  refuseLength 512 template.templateFunction "V2 template function is empty or too long"
  refuseLength 512 template.eventTopic "V2 event topic is empty or too long"

/-- `crates/anchor/src/public_payload_v2.rs:121` -/
structure OotleAnchorPublicPayloadV2 where
  network : OotleNetworkIdV1
  electionId : Bytes
  ballotQuestion : Text
  ballotKind : Text
  confidentialityMode : Text
  proofSuite : Text
  manifestHash : Bytes32
  archiveHash : Bytes32
  registryCommitment : Bytes32
  optionSetCommitment : Bytes32
  eligibleVoterCount : UInt64
  acceptedBallotCount : UInt64
  rejectedBallotCount : UInt64
  tally : List OotleAnchorTallyEntryV2
  archiveFinalized : Bool
  finalizedTimestampUnixSecs : Option UInt64
  template : OotleAnchorTemplateBindingV2
deriving DecidableEq

namespace OotleAnchorPublicPayloadV2

/-- `crates/anchor/src/public_payload_v2.rs:146` -/
def validate (payload : OotleAnchorPublicPayloadV2) : Result Unit := do
  refuseIf (payload.electionId.isEmpty || decide (maxElectionIdBytesV2 < payload.electionId.length))
    .invalidData "election id is empty or exceeds the public payload limit"
  match Text.ofBytes? payload.electionId with
  | none => fail .invalidData "election id must be valid UTF-8"
  | some electionIdStr =>
    refuseIf (electionIdStr.toBytes.any (decide <| · < 0x20)) .invalidData
      "election id must not contain raw control characters"
    refuseIf (decide (maxBallotQuestionBytesV2 < payload.ballotQuestion.len)) .invalidData
      "ballot question exceeds the public payload limit"
    refuseLength maxEnumStringBytesV2 payload.ballotKind "ballot kind is empty or too long"
    refuseLength maxEnumStringBytesV2 payload.confidentialityMode
      "confidentiality mode is empty or too long"
    refuseLength maxEnumStringBytesV2 payload.proofSuite "proof suite is empty or too long"
    refuseIf (decide (maxTallyEntriesV2 < payload.tally.length)) .invalidData
      "tally exceeds the public payload entry limit"
    payload.tally.forM OotleAnchorTallyEntryV2.validate
    payload.template.validate

open CanonicalJsonWriter in
/-- The body of the results loop; `crates/anchor/src/public_payload_v2.rs:217-221`. -/
def writeEntry (writer : CanonicalJsonWriter) (entry : OotleAnchorTallyEntryV2) :
    CanonicalJsonWriter :=
  (((writer.beginObjectElement.fieldString (.lit "label") entry.displayLabel).fieldLowerHex
    (.lit "machine_id") entry.machineId).fieldU64 (.lit "votes") entry.count).endObject

/-- `crates/anchor/src/public_payload_v2.rs:200-243`; the election identifier as text. -/
def write (payload : OotleAnchorPublicPayloadV2) (electionIdStr : Text) : CanonicalJsonWriter :=
  let writer := CanonicalJsonWriter.new.beginObject
  let writer := writer.fieldString (.lit "schema") ootleAnchorPublicPayloadTypeIdV2
  let writer := writer.fieldU64 (.lit "version") ootleAnchorPublicPayloadSchemaVersionV2
  let writer := writer.fieldString (.lit "network") payload.network.asStr
  let writer := writer.fieldString (.lit "election_id") electionIdStr
  let writer := writer.fieldString (.lit "question") payload.ballotQuestion
  let writer := writer.fieldU64 (.lit "eligible_voters") payload.eligibleVoterCount
  let writer := writer.fieldU64 (.lit "accepted_ballots") payload.acceptedBallotCount
  let writer := writer.fieldU64 (.lit "rejected_ballots") payload.rejectedBallotCount
  let writer := writer.beginArrayField (.lit "results")
  let writer := payload.tally.foldl writeEntry writer
  let writer := writer.endArray
  let writer := writer.fieldString (.lit "ballot_kind") payload.ballotKind
  let writer := writer.fieldString (.lit "confidentiality_mode") payload.confidentialityMode
  let writer := writer.fieldString (.lit "proof_suite") payload.proofSuite
  let writer := writer.fieldLowerHex (.lit "manifest_hash") payload.manifestHash.toBytes
  let writer := writer.fieldLowerHex (.lit "archive_hash") payload.archiveHash.toBytes
  let writer := writer.fieldLowerHex (.lit "voter_registry_commitment")
    payload.registryCommitment.toBytes
  let writer := writer.fieldLowerHex (.lit "ballot_option_commitment")
    payload.optionSetCommitment.toBytes
  let writer := writer.fieldBool (.lit "archive_finalized") payload.archiveFinalized
  let writer := writer.fieldOptU64 (.lit "finalized_timestamp_unix_secs")
    payload.finalizedTimestampUnixSecs
  let writer := writer.fieldString (.lit "template_address") payload.template.templateAddress
  let writer := writer.fieldString (.lit "template_module") payload.template.templateModule
  let writer := writer.fieldString (.lit "template_function") payload.template.templateFunction
  let writer := writer.fieldString (.lit "template_event_topic") payload.template.eventTopic
  let writer := writer.fieldLowerHex (.lit "template_artifact_digest")
    payload.template.artifactDigest.toBytes
  writer.endObject

/-- `crates/anchor/src/public_payload_v2.rs:194` -/
def toCanonicalJsonBytes (payload : OotleAnchorPublicPayloadV2) :
    Except (Fault ProtocolError) Bytes := do
  orRefuse payload.validate
  match Text.ofBytes? payload.electionId with
  | none => .error .panicked
  | some electionIdStr =>
    let encoded := (payload.write electionIdStr).bytes
    orRefuse (refuseIf (decide (maxOotleAnchorPublicPayloadBytesV2 < encoded.length))
      .protocolLimitExceeded "canonical V2 public payload exceeds the size limit")
    pure encoded

end OotleAnchorPublicPayloadV2

/-! ### Decoder -/

/-- `crates/anchor/src/public_payload_v2.rs:799` -/
def decodeLowerHex (hex : Text) : Result Bytes :=
  if hex.len % 2 ≠ 0 then .error (invalidJson "V2 public payload hex field has odd length")
  else match Hex.decode hex.toBytes with
    | some bytes => .ok bytes
    | none => .error (invalidJson "V2 public payload hex must be lowercase")

/-- `crates/anchor/src/public_payload_v2.rs:812` -/
def decodeLowerHex32 (hex : Text) : Result Bytes32 := do
  match Bytes32.ofBytes? (← decodeLowerHex hex) with
  | some bytes => pure bytes
  | none => .error (invalidJson "a V2 payload hash field must contain exactly 32 bytes")

open Cursor CanonicalJsonParser

/-- `if !first { parser.consume_byte(b',')?; }` -/
def consumeSeparator (first : Bool) : CanonicalJsonParser Unit :=
  if first then pure () else consumeByte 0x2c

/-- One turn of the results loop; `crates/anchor/src/public_payload_v2.rs:538-558`. -/
def resultsTurn (state : List OotleAnchorTallyEntryV2 × Bool) :
    CanonicalJsonParser
      ((List OotleAnchorTallyEntryV2 × Bool) ⊕ List OotleAnchorTallyEntryV2) := do
  let (tally, first) := state
  if (← peekByte) = 0x5d then pure (.inr tally)
  else
    consumeSeparator first
    consumeByte 0x7b
    let label ← expectStringField (.lit "label")
    expectFieldComma
    let machineIdHex ← expectStringField (.lit "machine_id")
    expectFieldComma
    let votes ← expectU64Field (.lit "votes")
    consumeByte 0x7d
    let machineId ← lift (decodeLowerHex machineIdHex)
    let tally := tally ++ [⟨label, machineId, votes⟩]
    if maxTallyEntriesV2 < tally.length then
      refuse (invalidJson "V2 tally exceeds the entry limit")
    else pure (.inl (tally, false))

/-- `crates/anchor/src/public_payload_v2.rs:495` -/
def parsePayload : CanonicalJsonParser OotleAnchorPublicPayloadV2 := do
  consumeByte 0x7b
  let schema ← expectStringField (.lit "schema")
  lift (refuseIf (schema != ootleAnchorPublicPayloadTypeIdV2) .unsupportedProtocolVersion
    "unsupported V2 public payload type or version")
  expectFieldComma
  let version ← expectU64Field (.lit "version")
  lift (refuseIf (version != ootleAnchorPublicPayloadSchemaVersionV2) .unsupportedProtocolVersion
    "unsupported V2 public payload version number")
  expectFieldComma
  let networkStr ← expectStringField (.lit "network")
  let network ← lift (OotleNetworkIdV1.new networkStr)
  expectFieldComma
  let electionIdStr ← expectStringField (.lit "election_id")
  expectFieldComma
  let ballotQuestion ← expectStringField (.lit "question")
  expectFieldComma
  let eligibleVoterCount ← expectU64Field (.lit "eligible_voters")
  expectFieldComma
  let acceptedBallotCount ← expectU64Field (.lit "accepted_ballots")
  expectFieldComma
  let rejectedBallotCount ← expectU64Field (.lit "rejected_ballots")
  expectFieldComma
  expectKey (.lit "results")
  consumeByte 0x5b
  let tally ← repeatUntil resultsTurn ([], true)
  consumeByte 0x5d
  expectFieldComma
  let ballotKind ← expectStringField (.lit "ballot_kind")
  expectFieldComma
  let confidentialityMode ← expectStringField (.lit "confidentiality_mode")
  expectFieldComma
  let proofSuite ← expectStringField (.lit "proof_suite")
  expectFieldComma
  let manifestHashHex ← expectStringField (.lit "manifest_hash")
  let manifestHash ← lift (decodeLowerHex32 manifestHashHex)
  expectFieldComma
  let archiveHashHex ← expectStringField (.lit "archive_hash")
  let archiveHash ← lift (decodeLowerHex32 archiveHashHex)
  expectFieldComma
  let registryHex ← expectStringField (.lit "voter_registry_commitment")
  let registryCommitment ← lift (decodeLowerHex32 registryHex)
  expectFieldComma
  let optionSetHex ← expectStringField (.lit "ballot_option_commitment")
  let optionSetCommitment ← lift (decodeLowerHex32 optionSetHex)
  expectFieldComma
  let archiveFinalized ← expectBoolField (.lit "archive_finalized")
  expectFieldComma
  let finalizedTimestampUnixSecs ← expectOptU64Field (.lit "finalized_timestamp_unix_secs")
  expectFieldComma
  let templateAddress ← expectStringField (.lit "template_address")
  expectFieldComma
  let templateModule ← expectStringField (.lit "template_module")
  expectFieldComma
  let templateFunction ← expectStringField (.lit "template_function")
  expectFieldComma
  let templateEventTopic ← expectStringField (.lit "template_event_topic")
  expectFieldComma
  let artifactDigestHex ← expectStringField (.lit "template_artifact_digest")
  let artifactDigest ← lift (decodeLowerHex32 artifactDigestHex)
  consumeByte 0x7d
  expectEof
  pure {
    network, electionId := electionIdStr.toBytes, ballotQuestion, ballotKind, confidentialityMode
    proofSuite, manifestHash, archiveHash, registryCommitment, optionSetCommitment
    eligibleVoterCount, acceptedBallotCount, rejectedBallotCount, tally, archiveFinalized
    finalizedTimestampUnixSecs
    template := {
      templateAddress, templateModule, templateFunction, eventTopic := templateEventTopic
      artifactDigest } }

/-- `crates/anchor/src/public_payload_v2.rs:495` -/
def parseCanonicalJsonBytes (encoded : Bytes) :
    Except (Fault ProtocolError) OotleAnchorPublicPayloadV2 :=
  (parsePayload encoded 0).map Prod.fst

namespace OotleAnchorPublicPayloadV2

/-- `crates/anchor/src/public_payload_v2.rs:263` -/
def fromCanonicalJsonBytes (encoded : Bytes) :
    Except (Fault ProtocolError) OotleAnchorPublicPayloadV2 := do
  orRefuse (refuseIf (decide (maxOotleAnchorPublicPayloadBytesV2 < encoded.length))
    .protocolLimitExceeded "encoded V2 public payload exceeds the size limit")
  let payload ← parseCanonicalJsonBytes encoded
  orRefuse payload.validate
  let reEncoded ← payload.toCanonicalJsonBytes
  if reEncoded ≠ encoded then
    .error (.refused (invalidJson
      "V2 public payload bytes are not the canonical JSON encoding of their content"))
  else pure payload

end OotleAnchorPublicPayloadV2

/-- `crates/anchor/src/public_payload_v2.rs:318` -/
def v2DomainInput (canonicalBytes : Bytes) : Bytes :=
  ootleAnchorPublicPayloadFramePrefixV2.toBytes ++ 0 ::
    (ootleAnchorPublicPayloadDomainLabelV2.toBytes ++ 0 :: canonicalBytes)

namespace OotleAnchorPublicPayloadV2

/-- `crates/anchor/src/public_payload_v2.rs:287` -/
def canonicalDigest (provider : HashProvider) (payload : OotleAnchorPublicPayloadV2) :
    Except (Fault ProtocolError) Bytes32 := do
  orRefuse (refuseIf (provider.algorithmId != blake3256HashAlgorithmIdV1) .unsupportedHashAlgorithm
    "V2 public payload hashing requires the production hash provider")
  let encoded ← payload.toCanonicalJsonBytes
  pure (provider.hash (v2DomainInput encoded))

end OotleAnchorPublicPayloadV2

end PrivateBallot.OotleAnchor
