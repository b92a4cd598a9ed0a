import PrivateBallot.OotleAnchor.Receipt

/-!
# Constructors of events and bindings

Library `OotleAnchor`. `crates/anchor-transport/src/event.rs:117-420`: what the constructors of
events, payloads and template bindings require.
-/

namespace PrivateBallot.OotleAnchor

open PrivateBallot.Base

/-- `AnchorEventBindingError` -/
inductive AnchorEventBindingError where
  | invalidTemplateAddress
  | invalidModule
  | invalidFunction
  | invalidEventTopic
  | invalidEpochWindow
deriving DecidableEq, Repr

/-- The result of a constructor. -/
abbrev BindingResult := Except AnchorEventBindingError

/-! ### Bytes -/

/-- `u8::is_ascii_alphanumeric` -/
def isAlphanumericByte (b : UInt8) : Bool :=
  (0x30 ≤ b && b ≤ 0x39) || (0x41 ≤ b && b ≤ 0x5a) || (0x61 ≤ b && b ≤ 0x7a)

/-- `u8::is_ascii_whitespace` -/
def isWhitespaceByte (b : UInt8) : Bool :=
  b = 0x20 || b = 0x09 || b = 0x0a || b = 0x0c || b = 0x0d

/-! ### Events -/

/-- `MAX_ANCHOR_EVENT_METADATA_FIELDS_V2` -/
def maxAnchorEventMetadataFieldsV2 : Nat := 8

/-- `MAX_ANCHOR_EVENT_METADATA_BYTES_V2` -/
def maxAnchorEventMetadataBytesV2 : Nat := 256 * 1024

/-- `AnchorEventProofV2::new`; `crates/anchor-transport/src/event.rs:119`. -/
def AnchorEventProofV2.new (templateAddress topic : Text) (metadata : List (Text × Text))
    (eventIndex : UInt16) (receiptEpoch : UInt64) (intentCommitment : Bytes32) :
    BindingResult AnchorEventProofV2 :=
  if templateAddress.toBytes = [] ∨ topic.toBytes = [] ∨
      maxAnchorEventMetadataFieldsV2 < metadata.length ∨
      metadata.any (fun entry ↦ entry.1.toBytes = [] ||
        maxAnchorEventMetadataBytesV2 < entry.1.len ||
        maxAnchorEventMetadataBytesV2 < entry.2.len) then
    .error .invalidEventTopic
  else .ok ⟨templateAddress, topic, metadata, eventIndex, receiptEpoch, intentCommitment⟩

/-- `AnchorEventPayloadV3::new`; `crates/anchor-transport/src/event.rs:222`. -/
def AnchorEventPayloadV3.new (digest : Bytes32) (network electionId publicSummary : Text) :
    BindingResult AnchorEventPayloadV3 :=
  if network.toBytes = [] ∨ 32 < network.len ∨
      ¬ network.toBytes.all (fun b ↦ isAlphanumericByte b || b = 0x2d || b = 0x5f) then
    .error .invalidEventTopic
  else if electionId.toBytes = [] ∨ 128 < electionId.len ∨
      electionId.toBytes.any (· < 0x20) then
    .error .invalidEventTopic
  else if publicSummary.toBytes = [] ∨ maxAnchorEventMetadataBytesV2 < publicSummary.len ∨
      publicSummary.toBytes.any (fun b ↦ b < 0x20 && b ≠ 0x0a) then
    .error .invalidEventTopic
  else .ok ⟨digest, network, electionId, publicSummary⟩

/-! ### Template bindings -/

/-- The check of the address that both bindings begin with. -/
def isTemplateAddress (templateAddress : Text) : Bool :=
  9 ≤ templateAddress.len && templateAddress.len ≤ 128 &&
    (Text.lit "template_").toBytes.isPrefixOf templateAddress.toBytes &&
    !templateAddress.toBytes.any isWhitespaceByte

/-- `ANCHOR_EVENT_FUNCTION_V1` -/
def anchorEventFunctionV1 : Text := .lit "publish_anchor"

/-- `ANCHOR_TEMPLATE_MODULE_V2` -/
def anchorTemplateModuleV2 : Text := .lit "tari_private_ballot_anchor_v2"

/-- `ANCHOR_EVENT_FUNCTION_V2` -/
def anchorEventFunctionV2 : Text := .lit "publish_anchor_v2"

/-- `ANCHOR_EVENT_TOPIC_SUFFIX_V2` -/
def anchorEventTopicSuffixV2 : Text := .lit "TARI_CC_PRIVATE_BALLOT_OOTLE_ANCHOR_V2"

/-- `AnchorTemplateBindingV2::full_event_topic` -/
def fullEventTopicV2 : Text :=
  .lit "tari_private_ballot_anchor_v2.TARI_CC_PRIVATE_BALLOT_OOTLE_ANCHOR_V2"

/-- The bytes of `{module}.{suffix}`. -/
def topicOf (module suffix : Text) : Bytes := module.toBytes ++ 0x2e :: suffix.toBytes

/-- `AnchorTemplateBindingV1::new`; `crates/anchor-transport/src/event.rs:302`. -/
def AnchorTemplateBindingV1.new (templateAddress module function fullEventTopic : Text) :
    BindingResult AnchorTemplateBindingV1 :=
  if ¬ isTemplateAddress templateAddress then .error .invalidTemplateAddress
  else if module.toBytes = [] ∨ 128 < module.len ∨
      ¬ module.toBytes.all (fun b ↦ isAlphanumericByte b || b = 0x5f) then
    .error .invalidModule
  else if function ≠ anchorEventFunctionV1 then .error .invalidFunction
  else if fullEventTopic.toBytes ≠ topicOf module anchorEventTopicSuffixV1 ∨
      255 < fullEventTopic.len then
    .error .invalidEventTopic
  else .ok ⟨templateAddress, fullEventTopic⟩

/-- `AnchorTemplateBindingV2::new`; `crates/anchor-transport/src/event.rs:376`. -/
def AnchorTemplateBindingV2.new (templateAddress module function fullEventTopic : Text) :
    BindingResult AnchorTemplateBindingV2 :=
  if ¬ isTemplateAddress templateAddress then .error .invalidTemplateAddress
  else if module ≠ anchorTemplateModuleV2 then .error .invalidModule
  else if function ≠ anchorEventFunctionV2 then .error .invalidFunction
  else if fullEventTopic.toBytes ≠ topicOf anchorTemplateModuleV2 anchorEventTopicSuffixV2 then
    .error .invalidEventTopic
  else .ok ⟨templateAddress⟩

/-! ### What they return -/

theorem AnchorEventProofV2.new_eq_ok_iff {templateAddress topic : Text}
    {metadata : List (Text × Text)} {eventIndex : UInt16} {receiptEpoch : UInt64}
    {intentCommitment : Bytes32} {event : AnchorEventProofV2} :
    AnchorEventProofV2.new templateAddress topic metadata eventIndex receiptEpoch
        intentCommitment = .ok event ↔
      event = ⟨templateAddress, topic, metadata, eventIndex, receiptEpoch, intentCommitment⟩ ∧
        templateAddress.toBytes ≠ [] ∧ topic.toBytes ≠ [] ∧
        metadata.length ≤ maxAnchorEventMetadataFieldsV2 ∧
        ∀ entry ∈ metadata, entry.1.toBytes ≠ [] ∧ entry.1.len ≤ maxAnchorEventMetadataBytesV2 ∧
          entry.2.len ≤ maxAnchorEventMetadataBytesV2 := by
  have hentries : (¬ metadata.any (fun entry ↦ entry.1.toBytes = [] ||
        maxAnchorEventMetadataBytesV2 < entry.1.len ||
        maxAnchorEventMetadataBytesV2 < entry.2.len) = true) ↔
      ∀ entry ∈ metadata, entry.1.toBytes ≠ [] ∧ entry.1.len ≤ maxAnchorEventMetadataBytesV2 ∧
        entry.2.len ≤ maxAnchorEventMetadataBytesV2 := by
    rw [Bool.not_eq_true, List.any_eq_false]
    refine forall₂_congr fun entry _ ↦ ?_
    simp only [Bool.or_eq_true, decide_eq_true_eq, not_or, not_lt, and_assoc, ne_eq]
  unfold AnchorEventProofV2.new
  constructor
  · intro h
    split at h
    · cases h
    next hbounds =>
    cases h
    rw [not_or, not_or, not_or, hentries, Nat.not_lt] at hbounds
    exact ⟨rfl, hbounds⟩
  · rintro ⟨rfl, hbounds⟩
    rw [if_neg]
    rw [not_or, not_or, not_or, hentries, Nat.not_lt]
    exact hbounds

theorem AnchorEventPayloadV3.of_new {digest : Bytes32} {network electionId publicSummary : Text}
    {payload : AnchorEventPayloadV3}
    (h : AnchorEventPayloadV3.new digest network electionId publicSummary = .ok payload) :
    payload = ⟨digest, network, electionId, publicSummary⟩ := by
  unfold AnchorEventPayloadV3.new at h
  split at h
  · cases h
  split at h
  · cases h
  split at h
  · cases h
  cases h
  rfl

theorem AnchorTemplateBindingV1.of_new {templateAddress module function fullEventTopic : Text}
    {binding : AnchorTemplateBindingV1}
    (h : AnchorTemplateBindingV1.new templateAddress module function fullEventTopic =
      .ok binding) :
    binding = ⟨templateAddress, fullEventTopic⟩ ∧ function = anchorEventFunctionV1 ∧
      fullEventTopic.toBytes = topicOf module anchorEventTopicSuffixV1 := by
  unfold AnchorTemplateBindingV1.new at h
  split at h
  · cases h
  split at h
  · cases h
  split at h
  · cases h
  next hfunction =>
  split at h
  · cases h
  next htopic =>
  cases h
  rw [not_or] at htopic
  exact ⟨rfl, of_not_not hfunction, of_not_not htopic.1⟩

/-- A payload of an event as its constructor admits it. -/
def AnchorEventPayloadV3.IsChecked (payload : AnchorEventPayloadV3) : Prop :=
  AnchorEventPayloadV3.new payload.digest payload.network payload.electionId
    payload.publicSummary = .ok payload

instance (payload : AnchorEventPayloadV3) : Decidable payload.IsChecked :=
  decEq _ _

/-- The texts of a checked payload are bounded. -/
theorem AnchorEventPayloadV3.IsChecked.len_le {payload : AnchorEventPayloadV3}
    (h : payload.IsChecked) : payload.network.len ≤ 32 ∧ payload.electionId.len ≤ 128 ∧
      payload.publicSummary.len ≤ maxAnchorEventMetadataBytesV2 := by
  unfold AnchorEventPayloadV3.IsChecked AnchorEventPayloadV3.new at h
  split at h
  · cases h
  next hnetwork =>
  split at h
  · cases h
  next helection =>
  split at h
  · cases h
  next hsummary =>
  simp only [not_or, not_lt] at hnetwork helection hsummary
  exact ⟨hnetwork.2.1, helection.2.1, hsummary.2.1⟩

/-- A binding as its constructor admits it. -/
def AnchorTemplateBindingV1.IsChecked (binding : AnchorTemplateBindingV1) : Prop :=
  ∃ module function, AnchorTemplateBindingV1.new binding.templateAddress module function
    binding.fullEventTopic = .ok binding

def AnchorTemplateBindingV2.IsChecked (binding : AnchorTemplateBindingV2) : Prop :=
  ∃ module function fullEventTopic, AnchorTemplateBindingV2.new binding.templateAddress module
    function fullEventTopic = .ok binding

theorem AnchorTemplateBindingV2.isChecked_iff {binding : AnchorTemplateBindingV2} :
    binding.IsChecked ↔ isTemplateAddress binding.templateAddress = true := by
  constructor
  · rintro ⟨module, function, fullEventTopic, h⟩
    unfold AnchorTemplateBindingV2.new at h
    split at h
    · cases h
    next haddress => exact of_not_not haddress
  · intro h
    have htopic : fullEventTopicV2.toBytes =
        topicOf anchorTemplateModuleV2 anchorEventTopicSuffixV2 := by decide
    refine ⟨anchorTemplateModuleV2, anchorEventFunctionV2, fullEventTopicV2, ?_⟩
    rw [AnchorTemplateBindingV2.new, if_neg (not_not_intro h), if_neg (not_not_intro rfl),
      if_neg (not_not_intro rfl), if_neg (not_not_intro htopic)]

end PrivateBallot.OotleAnchor
