import PrivateBallot.Base.Hex

/-!
# Receipts of anchor transactions

Library `OotleAnchor`. `crates/anchor-transport/src/payload.rs`, `event.rs` and `model.rs`: the log
line and the event that carry the digest of an anchored election, and the receipt in which an
observer finds them. Logs, events and the metadata of an event are lists as the ledger reports them.
-/

namespace PrivateBallot.OotleAnchor

open PrivateBallot.Base

/-! ### The log line -/

/-- `AnchorLogPayloadError`; `crates/anchor-transport/src/errors.rs`. -/
inductive AnchorLogPayloadError where
  | empty
  | wrongPrefix
  | missingSeparator
  | digestLength
  | nonLowercaseHexDigit
deriving DecidableEq, Repr

/-- `OOTLE_ANCHOR_RECORD_TYPE_ID_V1` -/
def anchorLogPayloadPrefixV1 : Text := .lit "TARI_CC_PRIVATE_BALLOT_OOTLE_ANCHOR_V1"

/-- `ANCHOR_LOG_PAYLOAD_CANDIDATE_PREFIX_V1` -/
def anchorLogPayloadCandidatePrefixV1 : Text := .lit "TARI_CC_PRIVATE_BALLOT_OOTLE_ANCHOR_V1:"

/-- `ANCHOR_LOG_PAYLOAD_DIGEST_HEX_LEN` -/
def anchorLogPayloadDigestHexLen : Nat := 64

/-- `AnchorLogPayloadV1` -/
structure AnchorLogPayloadV1 where
  digest : Bytes32
deriving DecidableEq

namespace AnchorLogPayloadV1

/-- The bytes of `to_encoded_string`. -/
def encoded (self : AnchorLogPayloadV1) : Bytes :=
  anchorLogPayloadPrefixV1.toBytes ++ [0x3a] ++ Hex.encode self.digest.toBytes

/-- `parse`; `crates/anchor-transport/src/payload.rs:103`. -/
def parse (input : Text) : Except AnchorLogPayloadError AnchorLogPayloadV1 :=
  if input.toBytes = [] then .error .empty
  else match input.toBytes.dropPrefix? anchorLogPayloadPrefixV1.toBytes with
  | none => .error .wrongPrefix
  | some afterPrefix => match List.dropPrefix? afterPrefix [0x3a] with
    | none => .error .missingSeparator
    | some hex =>
      if hex.length ≠ anchorLogPayloadDigestHexLen then .error .digestLength
      else match (Hex.decode hex).bind Bytes32.ofBytes? with
        | none => .error .nonLowercaseHexDigit
        | some digest => .ok ⟨digest⟩

end AnchorLogPayloadV1

/-! ### The event -/

def anchorEventTopicSuffixV1 : Text := .lit "TARI_CC_PRIVATE_BALLOT_OOTLE_ANCHOR_V1"
def anchorEventDigestKeyV1 : Text := .lit "anchor_digest"

/-- `canonical_receipt_event_topic` -/
def canonicalReceiptEventTopicV2 : Text :=
  .lit "TariPrivateBallotAnchorV2.TARI_CC_PRIVATE_BALLOT_OOTLE_ANCHOR_V2"

def anchorEventDigestKeyV2 : Text := .lit "anchor_digest_v2"
def anchorEventNetworkKeyV2 : Text := .lit "network"
def anchorEventElectionIdKeyV2 : Text := .lit "election_id"
def anchorEventPublicSummaryKeyV2 : Text := .lit "public_summary"

/-- `AnchorEventPayloadV2` -/
structure AnchorEventPayloadV2 where
  digest : Bytes32
deriving DecidableEq

/-- `digest_hex` -/
def AnchorEventPayloadV2.digestHex (self : AnchorEventPayloadV2) : Text :=
  Hex.text self.digest.toBytes

/-- `AnchorEventPayloadV3`; `crates/anchor-transport/src/event.rs:215`. -/
structure AnchorEventPayloadV3 where
  digest : Bytes32
  network : Text
  electionId : Text
  publicSummary : Text
deriving DecidableEq

/-- `digest_hex` -/
def AnchorEventPayloadV3.digestHex (self : AnchorEventPayloadV3) : Text :=
  Hex.text self.digest.toBytes

/-- `AnchorEventProofV2`; `event_index` is a `u16`. -/
structure AnchorEventProofV2 where
  templateAddress : Text
  topic : Text
  metadata : List (Text × Text)
  eventIndex : UInt16
  receiptEpoch : UInt64
  intentCommitment : Bytes32
deriving DecidableEq

/-- What a receipt is checked against: `AnchorTemplateBindingV1` with its full event topic. -/
structure AnchorTemplateBindingV1 where
  templateAddress : Text
  fullEventTopic : Text
deriving DecidableEq

/-- `AnchorTemplateBindingV2`; the topic of its events is the canonical one. -/
structure AnchorTemplateBindingV2 where
  templateAddress : Text
deriving DecidableEq

/-! ### The receipt -/

/-- `AnchorFinalStatusV1` -/
inductive AnchorFinalStatusV1 where
  | accepted
  | feeOnlyAccepted
  | rejected
deriving DecidableEq, Repr

/-- `AnchorLogLevelV1` -/
inductive AnchorLogLevelV1 where
  | error
  | warn
  | info
  | debug
deriving DecidableEq, Repr

/-- `AnchorLogEntryV1` -/
structure AnchorLogEntryV1 where
  level : AnchorLogLevelV1
  message : Text
deriving DecidableEq

/-- `AnchorReceiptSourceKindV1` -/
inductive AnchorReceiptSourceKindV1 where
  | walletd
  | independentIndexer
deriving DecidableEq, Repr

/-- `AnchorReceiptV1`; the identifiers are validated texts. -/
structure AnchorReceiptV1 where
  transactionId : Text
  network : Text
  finalStatus : AnchorFinalStatusV1
  logs : List AnchorLogEntryV1
  rejectionReason : Option Text
  ledgerPosition : Option UInt64
  source : AnchorReceiptSourceKindV1
  eventProofsV2 : List AnchorEventProofV2
deriving DecidableEq

/-- `AnchorQueryOutcomeV1` -/
inductive AnchorQueryOutcomeV1 where
  | notFound
  | notFinalized
  | finalized (receipt : AnchorReceiptV1)
  | unknown
deriving DecidableEq

/-! ### Verification -/

/-- `AnchorReceiptVerificationError` -/
inductive AnchorReceiptVerificationError where
  | wrongTransaction
  | wrongNetwork
  | notFinalized
  | feeOnlyAcceptance
  | rejectedTransaction
  | missingAnchorLog
  | malformedAnchorLog
  | wrongAnchorDigest
  | duplicateAnchorLogs
  | conflictingAnchorLogs
  | missingAnchorEvent
  | wrongEventTemplate
  | wrongEventTopic
  | malformedAnchorEvent
  | unexpectedEventMetadata
  | duplicateAnchorEvents
deriving DecidableEq, Repr

/-- `AnchorReceiptVerificationError::as_str` -/
def AnchorReceiptVerificationError.asStr : AnchorReceiptVerificationError → Text
  | wrongTransaction => .lit "ANCHOR_RECEIPT_WRONG_TRANSACTION"
  | wrongNetwork => .lit "ANCHOR_RECEIPT_WRONG_NETWORK"
  | notFinalized => .lit "ANCHOR_RECEIPT_NOT_FINALIZED"
  | feeOnlyAcceptance => .lit "ANCHOR_RECEIPT_FEE_ONLY_ACCEPTANCE"
  | rejectedTransaction => .lit "ANCHOR_RECEIPT_REJECTED_TRANSACTION"
  | missingAnchorLog => .lit "ANCHOR_RECEIPT_MISSING_ANCHOR_LOG"
  | malformedAnchorLog => .lit "ANCHOR_RECEIPT_MALFORMED_ANCHOR_LOG"
  | wrongAnchorDigest => .lit "ANCHOR_RECEIPT_WRONG_ANCHOR_DIGEST"
  | duplicateAnchorLogs => .lit "ANCHOR_RECEIPT_DUPLICATE_ANCHOR_LOGS"
  | conflictingAnchorLogs => .lit "ANCHOR_RECEIPT_CONFLICTING_ANCHOR_LOGS"
  | missingAnchorEvent => .lit "ANCHOR_RECEIPT_MISSING_ANCHOR_EVENT"
  | wrongEventTemplate => .lit "ANCHOR_RECEIPT_WRONG_EVENT_TEMPLATE"
  | wrongEventTopic => .lit "ANCHOR_RECEIPT_WRONG_EVENT_TOPIC"
  | malformedAnchorEvent => .lit "ANCHOR_RECEIPT_MALFORMED_ANCHOR_EVENT"
  | unexpectedEventMetadata => .lit "ANCHOR_RECEIPT_UNEXPECTED_EVENT_METADATA"
  | duplicateAnchorEvents => .lit "ANCHOR_RECEIPT_DUPLICATE_ANCHOR_EVENTS"

/-- The result of a check of a receipt. -/
abbrev ReceiptResult := Except AnchorReceiptVerificationError

/-- `VerifiedAnchorEvidenceV1` and, with the same fields, `VerifiedAnchorEvidenceV2`. -/
structure VerifiedAnchorEvidence where
  transactionId : Text
  network : Text
  anchorDigest : Bytes32
  ledgerPosition : Option UInt64
  source : AnchorReceiptSourceKindV1
deriving DecidableEq

/-- The evidence that a receipt gives for a digest. -/
def AnchorReceiptV1.evidence (self : AnchorReceiptV1) (anchorDigest : Bytes32) :
    VerifiedAnchorEvidence :=
  ⟨self.transactionId, self.network, anchorDigest, self.ledgerPosition, self.source⟩

/-- The checks every verification starts with. -/
def checkFinalAcceptance (expectedTransaction expectedNetwork : Text) (receipt : AnchorReceiptV1) :
    ReceiptResult Unit :=
  if receipt.transactionId ≠ expectedTransaction then .error .wrongTransaction
  else if receipt.network ≠ expectedNetwork then .error .wrongNetwork
  else match receipt.finalStatus with
    | .accepted => .ok ()
    | .feeOnlyAccepted => .error .feeOnlyAcceptance
    | .rejected => .error .rejectedTransaction

/-- Whether a log line is one of the project's. -/
def AnchorLogEntryV1.isCandidate (self : AnchorLogEntryV1) : Bool :=
  anchorLogPayloadCandidatePrefixV1.toBytes.isPrefixOf self.message.toBytes

/-- `parse_project_anchor_logs` -/
def parseProjectAnchorLogs : List AnchorLogEntryV1 → ReceiptResult (List AnchorLogPayloadV1)
  | [] => .ok []
  | entry :: logs =>
    if entry.isCandidate then
      match AnchorLogPayloadV1.parse entry.message with
      | .error _ => .error .malformedAnchorLog
      | .ok payload => (parseProjectAnchorLogs logs).map (payload :: ·)
    else parseProjectAnchorLogs logs

/-- `verify_anchor_receipt`; `crates/anchor-transport/src/verification.rs:109`. -/
def verifyAnchorReceipt (expectedTransaction expectedNetwork : Text)
    (expectedPayload : AnchorLogPayloadV1) (receipt : AnchorReceiptV1) :
    ReceiptResult VerifiedAnchorEvidence := do
  checkFinalAcceptance expectedTransaction expectedNetwork receipt
  let parsed ← parseProjectAnchorLogs receipt.logs
  match parsed with
  | [] => Except.error .missingAnchorLog
  | [single] =>
    if single.digest ≠ expectedPayload.digest then Except.error .wrongAnchorDigest
    else pure (receipt.evidence single.digest)
  | first :: rest =>
    if rest.all fun payload ↦ payload = first then Except.error .duplicateAnchorLogs
    else Except.error .conflictingAnchorLogs

/-- `verify_query_outcome` -/
def verifyQueryOutcome (expectedTransaction expectedNetwork : Text)
    (expectedPayload : AnchorLogPayloadV1) :
    AnchorQueryOutcomeV1 → ReceiptResult VerifiedAnchorEvidence
  | .finalized receipt =>
    verifyAnchorReceipt expectedTransaction expectedNetwork expectedPayload receipt
  | .notFound | .notFinalized | .unknown => .error .notFinalized

/-- Whether an event has a metadata entry with this key. -/
def AnchorEventProofV2.hasKey (self : AnchorEventProofV2) (key : Text) : Bool :=
  self.metadata.any fun entry ↦ entry.1 = key

/-- The loop over the events of a receipt: an event with the template and another topic, or the
topic and another template, ends it. -/
def collectCandidates (templateAddress topic digestKey : Text) :
    List AnchorEventProofV2 → ReceiptResult (List AnchorEventProofV2)
  | [] => .ok []
  | event :: events =>
    if event.templateAddress = templateAddress ∧ event.topic ≠ topic then .error .wrongEventTopic
    else if event.topic = topic ∧ event.templateAddress ≠ templateAddress then
      .error .wrongEventTemplate
    else
      let candidates := collectCandidates templateAddress topic digestKey events
      if event.topic = topic ∨ event.hasKey digestKey = true then candidates.map (event :: ·)
      else candidates

/-- What the two event verifications share: one candidate event, with the metadata that
`checkMetadata` asks for. -/
def verifyEventReceipt (templateAddress topic digestKey : Text)
    (checkMetadata : List (Text × Text) → ReceiptResult Unit) (anchorDigest : Bytes32)
    (expectedTransaction expectedNetwork : Text) (receipt : AnchorReceiptV1) :
    ReceiptResult VerifiedAnchorEvidence := do
  checkFinalAcceptance expectedTransaction expectedNetwork receipt
  let candidates ← collectCandidates templateAddress topic digestKey receipt.eventProofsV2
  match candidates with
  | [] => Except.error .missingAnchorEvent
  | [event] =>
    if event.templateAddress ≠ templateAddress then Except.error .wrongEventTemplate
    else if event.topic ≠ topic then Except.error .wrongEventTopic
    else do
      checkMetadata event.metadata
      pure (receipt.evidence anchorDigest)
  | _ :: _ :: _ => Except.error .duplicateAnchorEvents

/-- The metadata of a version-one event: the digest alone. -/
def checkMetadataV39 (expectedPayload : AnchorEventPayloadV2) :
    List (Text × Text) → ReceiptResult Unit
  | [(key, digest)] =>
    if key ≠ anchorEventDigestKeyV1 then .error .malformedAnchorEvent
    else if digest ≠ expectedPayload.digestHex then .error .wrongAnchorDigest
    else .ok ()
  | _ => .error .unexpectedEventMetadata

/-- `verify_v39_event_receipt`; `crates/anchor-transport/src/verification.rs:192`. -/
def verifyV39EventReceipt (expectedTransaction expectedNetwork : Text)
    (expectedTemplate : AnchorTemplateBindingV1) (expectedPayload : AnchorEventPayloadV2)
    (receipt : AnchorReceiptV1) : ReceiptResult VerifiedAnchorEvidence :=
  verifyEventReceipt expectedTemplate.templateAddress expectedTemplate.fullEventTopic
    anchorEventDigestKeyV1 (checkMetadataV39 expectedPayload) expectedPayload.digest
    expectedTransaction expectedNetwork receipt

/-- The entries of a version-two event. -/
def expectedMetadataV2 (expectedPayload : AnchorEventPayloadV3) : List (Text × Text) :=
  [(anchorEventDigestKeyV2, expectedPayload.digestHex),
    (anchorEventNetworkKeyV2, expectedPayload.network),
    (anchorEventElectionIdKeyV2, expectedPayload.electionId),
    (anchorEventPublicSummaryKeyV2, expectedPayload.publicSummary)]

/-- One expected entry: its key occurs once, and its entry is there. -/
def checkEntryV2 (metadata : List (Text × Text)) (expected : Text × Text) : ReceiptResult Unit :=
  if (metadata.filter fun entry ↦ entry.1 = expected.1).length ≠ 1 then
    .error .malformedAnchorEvent
  else if !(metadata.any fun entry ↦ entry.1 = expected.1 && entry.2 = expected.2) then
    if expected.1 = anchorEventDigestKeyV2 then .error .wrongAnchorDigest
    else .error .malformedAnchorEvent
  else .ok ()

/-- The metadata of a version-two event: four entries, one for each key. -/
def checkMetadataV2 (expectedPayload : AnchorEventPayloadV3) (metadata : List (Text × Text)) :
    ReceiptResult Unit :=
  if metadata.length ≠ 4 then .error .unexpectedEventMetadata
  else (expectedMetadataV2 expectedPayload).forM (checkEntryV2 metadata)

/-- `verify_v2_event_receipt`; `crates/anchor-transport/src/verification.rs:263`. -/
def verifyV2EventReceipt (expectedTransaction expectedNetwork : Text)
    (expectedTemplate : AnchorTemplateBindingV2) (expectedPayload : AnchorEventPayloadV3)
    (receipt : AnchorReceiptV1) : ReceiptResult VerifiedAnchorEvidence :=
  verifyEventReceipt expectedTemplate.templateAddress canonicalReceiptEventTopicV2
    anchorEventDigestKeyV2 (checkMetadataV2 expectedPayload) expectedPayload.digest
    expectedTransaction expectedNetwork receipt

/-! ### The report of a finalized receipt -/

/-- `AnchorReceiptQueryStateV1`; `crates/ootle-receipt-anchor-adapter/src/state.rs:29`. -/
inductive AnchorReceiptQueryStateV1 where
  | submittedNotQueried
  | receiptNotFound
  | receiptPending
  | receiptUnknown
  | receiptFinalizedAccept
  | receiptFinalizedFeeOnly
  | receiptFinalizedReject
  | receiptVerificationFailed
deriving DecidableEq, Repr

/-- `AnchorReceiptAddressEvidenceV1` -/
structure AnchorReceiptAddressEvidenceV1 where
  projectTransactionId : Text
  ootleTransactionIdHex : Text
  receiptAddressDisplay : Text
  receiptObjectKeyHex : Text
  network : Text
deriving DecidableEq

/-- The part of `AnchorReceiptQueryV1` that a report reads. -/
structure AnchorReceiptQueryV1 where
  transactionId : Text
  network : Text
  anchorDigest : Bytes32
  payload : AnchorLogPayloadV1
  templateBinding : Option AnchorTemplateBindingV1
deriving DecidableEq

/-- `VerifiedIndexerAnchorV1` -/
structure VerifiedIndexerAnchorV1 where
  evidence : VerifiedAnchorEvidence
  payload : AnchorLogPayloadV1
  addressEvidence : AnchorReceiptAddressEvidenceV1
  finalStatus : AnchorFinalStatusV1
  eventProof : Option AnchorEventProofV2
deriving DecidableEq

/-- `AnchorReceiptQueryReportV1` -/
structure AnchorReceiptQueryReportV1 where
  state : AnchorReceiptQueryStateV1
  outcome : AnchorQueryOutcomeV1
  addressEvidence : AnchorReceiptAddressEvidenceV1
  receipt : Option AnchorReceiptV1
  verified : Option VerifiedIndexerAnchorV1
  finalStatus : Option AnchorFinalStatusV1
  diagnostic : Option Text
deriving DecidableEq

/-- `AnchorReceiptCoordinator::finalized_report`;
`crates/ootle-receipt-anchor-adapter/src/retrieve.rs:380`. -/
def finalizedReport (query : AnchorReceiptQueryV1)
    (addressEvidence : AnchorReceiptAddressEvidenceV1) (receipt : AnchorReceiptV1) :
    AnchorReceiptQueryReportV1 :=
  let outcome : AnchorQueryOutcomeV1 := .finalized receipt
  let verification := match query.templateBinding with
    | some template => verifyV39EventReceipt query.transactionId query.network template
        ⟨query.anchorDigest⟩ receipt
    | none => verifyQueryOutcome query.transactionId query.network query.payload outcome
  let report (state : AnchorReceiptQueryStateV1) (verified : Option VerifiedIndexerAnchorV1)
      (diagnostic : Option Text) : AnchorReceiptQueryReportV1 :=
    ⟨state, outcome, addressEvidence, some receipt, verified, some receipt.finalStatus, diagnostic⟩
  match verification with
  | .ok evidence =>
    let eventProof := query.templateBinding.bind fun template ↦
      receipt.eventProofsV2.find? fun event ↦
        event.templateAddress = template.templateAddress && event.topic = template.fullEventTopic
    report .receiptFinalizedAccept
      (some ⟨evidence, query.payload, addressEvidence, .accepted, eventProof⟩) none
  | .error .feeOnlyAcceptance => report .receiptFinalizedFeeOnly none none
  | .error .rejectedTransaction => report .receiptFinalizedReject none none
  | .error other => report .receiptVerificationFailed none (some other.asStr)

end PrivateBallot.OotleAnchor
