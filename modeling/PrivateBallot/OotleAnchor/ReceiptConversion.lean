import PrivateBallot.OotleAnchor.EventBindings
import PrivateBallot.OotleAnchor.ReceiptVerification

/-!
# From the ledger's receipt to the verdict

Library `OotleAnchor`. `crates/ootle-receipt-anchor-adapter/src/convert.rs:113-206`: how a receipt
of the ledger becomes the one that is verified. Every event is copied, and the bounds on a copy are
those of the project's own event.
-/

namespace PrivateBallot.OotleAnchor

open PrivateBallot.Base

/-! ### The ledger's receipt -/

/-- `FinalizeOutcome` -/
inductive FinalizeOutcome where
  | commit
  | feeIntentCommit
deriving DecidableEq, Repr

/-- `Metadata`: a map from keys to raw CBOR values. -/
structure Metadata where
  entries : List (Text × Bytes)
  /-- Keys are distinct. -/
  nodup : (entries.map Prod.fst).Nodup

/-- `Event`; its address is a bare hash. -/
structure Event where
  templateAddress : Bytes32
  topic : Text
  payload : Metadata

/-- The part of `TransactionReceipt` that is converted. -/
structure TransactionReceipt where
  outcome : FinalizeOutcome
  events : List Event
  epoch : UInt64
  intentCommitment : Bytes32

/-- `ReceiptConversionError` -/
inductive ReceiptConversionError where
  | tooManyLogs
  | diagnosticTooLong
deriving DecidableEq, Repr

/-! ### Conversion -/

/-- `MAX_RECEIPT_LOG_ENTRIES` -/
def maxReceiptLogEntries : Nat := 256

/-- `map_finalize_outcome` -/
def mapFinalizeOutcome : FinalizeOutcome → AnchorFinalStatusV1
  | .commit => .accepted
  | .feeIntentCommit => .feeOnlyAccepted

/-- `template_` and the digits of the address. -/
def Event.templateAddressText (event : Event) : Text where
  toBytes := (Text.lit "template_").toBytes ++ Hex.encode event.templateAddress.toBytes
  valid := by
    apply Ascii.isSome_decode
    intro b hb
    rcases List.mem_append.mp hb with hstart | hdigit
    · have hascii : (Text.lit "template_").toBytes.all (· < 0x80) = true := by decide
      exact of_decide_eq_true (List.all_eq_true.mp hascii b hstart)
    · exact Hex.lt_of_mem_encode hdigit

section Conversion

-- The text that a raw value is in CBOR.
variable (textOfCbor : Bytes → Option Text)

/-- `Metadata::get_str` -/
def Metadata.getStr (metadata : Metadata) (key : Text) : Option Text :=
  (metadata.entries.find? fun entry ↦ entry.1 = key).bind fun entry ↦ textOfCbor entry.2

/-- The metadata of the copy: a value that is no text is copied as the digits of its bytes. -/
def Event.copiedMetadata (event : Event) : List (Text × Text) :=
  event.payload.entries.map fun (key, raw) ↦
    (key, (event.payload.getStr textOfCbor key).getD (Hex.text raw))

/-- The copy of the event at an index. -/
def copyEvent (receipt : TransactionReceipt) (event : Event) (index : Nat) :
    Except ReceiptConversionError AnchorEventProofV2 :=
  if index < UInt16.size then
    (AnchorEventProofV2.new event.templateAddressText event.topic
      (event.copiedMetadata textOfCbor) (UInt16.ofNat index) receipt.epoch
      receipt.intentCommitment).mapError fun _ ↦ .diagnosticTooLong
  else .error .tooManyLogs

/-- `convert_transaction_receipt`; `crates/ootle-receipt-anchor-adapter/src/convert.rs:138`. -/
def convertTransactionReceipt (receipt : TransactionReceipt) (transactionId network : Text) :
    Except ReceiptConversionError AnchorReceiptV1 :=
  if maxReceiptLogEntries < receipt.events.length then .error .tooManyLogs
  else do
    let eventProofs ← receipt.events.zipIdx.mapM fun (event, index) ↦
      copyEvent textOfCbor receipt event index
    pure ⟨transactionId, network, mapFinalizeOutcome receipt.outcome, [], none,
      some receipt.epoch, .independentIndexer, eventProofs⟩

/-- The conversion and the verification of what it returns both succeed. -/
def LedgerReceiptVerified (receipt : TransactionReceipt) (transactionId network : Text)
    (template : AnchorTemplateBindingV2) (payload : AnchorEventPayloadV3) : Prop :=
  ∃ converted evidence,
    convertTransactionReceipt textOfCbor receipt transactionId network = .ok converted ∧
      verifyV2EventReceipt transactionId network template payload converted = .ok evidence

/-! ### What the copies are -/

/-- An event whose copy keeps the bounds. -/
structure Event.Copyable (event : Event) : Prop where
  topic : event.topic.toBytes ≠ []
  length : event.payload.entries.length ≤ maxAnchorEventMetadataFieldsV2
  entries : ∀ entry ∈ event.copiedMetadata textOfCbor, entry.1.toBytes ≠ [] ∧
    entry.1.len ≤ maxAnchorEventMetadataBytesV2 ∧ entry.2.len ≤ maxAnchorEventMetadataBytesV2

/-- A proof that copies an event, at whatever index. -/
structure Copies (event : Event) (proof : AnchorEventProofV2) : Prop where
  templateAddress : proof.templateAddress = event.templateAddressText
  topic : proof.topic = event.topic
  metadata : proof.metadata = event.copiedMetadata textOfCbor

variable {textOfCbor} {receipt : TransactionReceipt} {event : Event}

theorem Metadata.getStr_of_mem {metadata : Metadata} {entry : Text × Bytes}
    (h : entry ∈ metadata.entries) : metadata.getStr textOfCbor entry.1 = textOfCbor entry.2 := by
  rw [getStr, ← List.head?_filter, filter_key_eq_singleton metadata.nodup h]
  rfl

/-- Each entry is copied from its own value. -/
theorem Event.copiedMetadata_eq : event.copiedMetadata textOfCbor =
    event.payload.entries.map fun entry ↦
      (entry.1, (textOfCbor entry.2).getD (Hex.text entry.2)) := by
  apply List.map_congr_left
  rintro ⟨key, raw⟩ hentry
  exact congrArg (fun text ↦ (key, text.getD (Hex.text raw))) (Metadata.getStr_of_mem hentry)

theorem Event.keys_copiedMetadata (textOfCbor : Bytes → Option Text) (event : Event) :
    (event.copiedMetadata textOfCbor).map Prod.fst = event.payload.entries.map Prod.fst := by
  rw [copiedMetadata_eq, List.map_map]
  rfl

theorem copyEvent_eq_ok_iff {index : Nat} {proof : AnchorEventProofV2}
    (hindex : index < UInt16.size) : copyEvent textOfCbor receipt event index = .ok proof ↔
      proof = ⟨event.templateAddressText, event.topic, event.copiedMetadata textOfCbor,
        UInt16.ofNat index, receipt.epoch, receipt.intentCommitment⟩ ∧
        event.Copyable textOfCbor := by
  have haddress : event.templateAddressText.toBytes ≠ [] :=
    List.append_ne_nil_of_left_ne_nil (by decide) _
  have hlength : (event.copiedMetadata textOfCbor).length = event.payload.entries.length :=
    List.length_map _
  rw [copyEvent, if_pos hindex]
  constructor
  · intro h
    cases hresult : AnchorEventProofV2.new event.templateAddressText event.topic
        (event.copiedMetadata textOfCbor) (UInt16.ofNat index) receipt.epoch
        receipt.intentCommitment with
    | error e =>
      rw [hresult] at h
      cases h
    | ok made =>
      rw [hresult] at h
      cases h
      obtain ⟨hproof, -, htopic, hfields, hentries⟩ :=
        AnchorEventProofV2.new_eq_ok_iff.mp hresult
      exact ⟨hproof, htopic, hlength ▸ hfields, hentries⟩
  · rintro ⟨hproof, hcopyable⟩
    rw [AnchorEventProofV2.new_eq_ok_iff.mpr ⟨hproof, haddress, hcopyable.topic,
      hlength.symm ▸ hcopyable.length, hcopyable.entries⟩]
    rfl

/-- The receipt that a conversion returns. -/
structure Converts (textOfCbor : Bytes → Option Text) (receipt : TransactionReceipt)
    (transactionId network : Text) (converted : AnchorReceiptV1) : Prop where
  transactionId : converted.transactionId = transactionId
  network : converted.network = network
  finalStatus : converted.finalStatus = mapFinalizeOutcome receipt.outcome
  events : List.Forall₂ (Copies textOfCbor) receipt.events converted.eventProofsV2

variable {transactionId network : Text}

private theorem index_lt (h : ¬ maxReceiptLogEntries < receipt.events.length) :
    ∀ entry ∈ receipt.events.zipIdx, entry.2 < UInt16.size := by
  rintro ⟨event, index⟩ hentry
  have hindex : index < receipt.events.length := by
    have := List.snd_lt_of_mem_zipIdx hentry
    omega
  have hmax : maxReceiptLogEntries < UInt16.size := by decide
  show index < UInt16.size
  omega

theorem converts_of_eq_ok {converted : AnchorReceiptV1}
    (h : convertTransactionReceipt textOfCbor receipt transactionId network = .ok converted) :
    Converts textOfCbor receipt transactionId network converted := by
  unfold convertTransactionReceipt at h
  split at h
  · cases h
  next hlength =>
  obtain ⟨proofs, hproofs, h⟩ := Protocol.bind_eq_ok.mp h
  cases h
  have hboth := (List.forall₂_and_left _ _).mpr ⟨index_lt hlength, Protocol.mapM_eq_ok.mp hproofs⟩
  have hcopies : List.Forall₂ (fun entry proof ↦ Copies textOfCbor entry.1 proof)
      receipt.events.zipIdx proofs := by
    refine hboth.imp ?_
    rintro ⟨event, index⟩ proof ⟨hindex, hcopy⟩
    obtain ⟨rfl, -⟩ := (copyEvent_eq_ok_iff hindex).mp hcopy
    exact ⟨rfl, rfl, rfl⟩
  refine ⟨rfl, rfl, rfl, ?_⟩
  have hmapped := List.forall₂_map_left_iff.mpr hcopies
  rwa [List.zipIdx_map_fst] at hmapped

/-- A receipt of few events with small copies is converted. -/
theorem exists_convertTransactionReceipt (hlength : receipt.events.length ≤ maxReceiptLogEntries)
    (hevents : ∀ event ∈ receipt.events, event.Copyable textOfCbor) : ∃ converted,
      convertTransactionReceipt textOfCbor receipt transactionId network = .ok converted := by
  have hlength := Nat.not_lt.mpr hlength
  have hmapM : receipt.events.zipIdx.mapM (fun (event, index) ↦
      copyEvent textOfCbor receipt event index) =
      .ok (receipt.events.zipIdx.map fun entry ↦ ⟨entry.1.templateAddressText, entry.1.topic,
        entry.1.copiedMetadata textOfCbor, UInt16.ofNat entry.2, receipt.epoch,
        receipt.intentCommitment⟩) := by
    rw [Protocol.mapM_eq_ok, List.forall₂_map_right_iff, List.forall₂_same]
    rintro ⟨event, index⟩ hentry
    have hevent : event ∈ receipt.events := by
      rw [← List.zipIdx_map_fst 0 receipt.events]
      exact List.mem_map_of_mem hentry
    exact (copyEvent_eq_ok_iff (index_lt hlength _ hentry)).mpr ⟨rfl, hevents event hevent⟩
  rw [convertTransactionReceipt, if_neg hlength, hmapM]
  exact ⟨_, rfl⟩

end Conversion

/-! ### What the verdict says of the ledger's events -/

section Verdict

variable (textOfCbor : Bytes → Option Text) (template : AnchorTemplateBindingV2)
  (payload : AnchorEventPayloadV3)

/-- The anchor event of a payload: its metadata are the payload's, as CBOR text. -/
structure Event.IsAnchor (event : Event) : Prop where
  templateAddress : event.templateAddressText = template.templateAddress
  topic : event.topic = canonicalReceiptEventTopicV2
  metadata : (event.payload.entries.map fun entry ↦ (entry.1, textOfCbor entry.2)).Perm
    ((expectedMetadataV2 payload).map fun entry ↦ (entry.1, some entry.2))

/-- An event with the template, the topic and the keys of a payload whose texts are those of the
payload. -/
structure Event.Agrees (event : Event) : Prop where
  templateAddress : event.templateAddressText = template.templateAddress
  topic : event.topic = canonicalReceiptEventTopicV2
  keys : (event.payload.entries.map Prod.fst).Perm ((expectedMetadataV2 payload).map Prod.fst)
  texts : ∀ entry ∈ event.payload.entries, ∀ text, textOfCbor entry.2 = some text →
    (entry.1, text) ∈ expectedMetadataV2 payload

/-- An event with the template, the topic or the digest key. -/
def Event.Concerns (event : Event) : Prop :=
  event.templateAddressText = template.templateAddress ∨
    event.topic = canonicalReceiptEventTopicV2 ∨
    anchorEventDigestKeyV2 ∈ event.payload.entries.map Prod.fst

variable {textOfCbor template payload} {event : Event} {proof : AnchorEventProofV2}

theorem Copies.concerns_iff (h : Copies textOfCbor event proof) :
    OotleAnchor.Concerns template.templateAddress canonicalReceiptEventTopicV2
      anchorEventDigestKeyV2 proof ↔ event.Concerns template := by
  have hkey : proof.hasKey anchorEventDigestKeyV2 = true ↔
      anchorEventDigestKeyV2 ∈ event.payload.entries.map Prod.fst := by
    rw [AnchorEventProofV2.hasKey, List.any_eq_true, h.metadata,
      ← event.keys_copiedMetadata textOfCbor, List.mem_map]
    simp only [decide_eq_true_eq]
  rw [OotleAnchor.Concerns, Event.Concerns, h.templateAddress, h.topic, hkey]

/-- The copy of an anchor event has the payload's metadata. -/
theorem Event.IsAnchor.copiedMetadata_perm (h : event.IsAnchor textOfCbor template payload) :
    (event.copiedMetadata textOfCbor).Perm (expectedMetadataV2 payload) := by
  have hperm := h.metadata.map fun entry ↦ (entry.1, entry.2.getD default)
  rw [List.map_map, List.map_map] at hperm
  rw [Event.copiedMetadata_eq]
  have hright : (expectedMetadataV2 payload).map
      ((fun entry : Text × Option Text ↦ (entry.1, entry.2.getD default)) ∘
        fun entry ↦ (entry.1, some entry.2)) = expectedMetadataV2 payload :=
    List.map_id _
  rw [hright] at hperm
  have hleft : event.payload.entries.map
      (fun entry ↦ (entry.1, (textOfCbor entry.2).getD (Hex.text entry.2))) =
      event.payload.entries.map ((fun entry : Text × Option Text ↦
        (entry.1, entry.2.getD default)) ∘ fun entry ↦ (entry.1, textOfCbor entry.2)) := by
    apply List.map_congr_left
    intro entry hentry
    have hmem := h.metadata.subset
      (List.mem_map_of_mem (f := fun entry ↦ (entry.1, textOfCbor entry.2)) hentry)
    obtain ⟨expected, -, hexpected⟩ := List.mem_map.mp hmem
    have htext : some expected.2 = textOfCbor entry.2 := congrArg Prod.snd hexpected
    simp only [Function.comp, ← htext, Option.getD_some]
  rw [hleft]
  exact hperm

theorem Event.IsAnchor.fitsTemplate (h : event.IsAnchor textOfCbor template payload)
    (hcopies : Copies textOfCbor event proof) :
    FitsTemplate template.templateAddress canonicalReceiptEventTopicV2
      (expectedMetadataV2 payload) proof := by
  refine ⟨hcopies.templateAddress.trans h.templateAddress, hcopies.topic.trans h.topic, ?_⟩
  rw [hcopies.metadata]
  exact h.copiedMetadata_perm

theorem Copies.agrees (h : Copies textOfCbor event proof)
    (hfits : FitsTemplate template.templateAddress canonicalReceiptEventTopicV2
      (expectedMetadataV2 payload) proof) : event.Agrees textOfCbor template payload := by
  obtain ⟨htemplate, htopic, hmetadata⟩ := hfits
  rw [h.metadata] at hmetadata
  refine ⟨h.templateAddress.symm.trans htemplate, h.topic.symm.trans htopic, ?_, ?_⟩
  · rw [← event.keys_copiedMetadata textOfCbor]
    exact hmetadata.map Prod.fst
  · intro entry hentry text htext
    apply hmetadata.subset
    rw [Event.copiedMetadata_eq, List.mem_map]
    exact ⟨entry, hentry, by rw [htext, Option.getD_some]⟩

/-- Every entry of a checked payload keeps the bounds on a copy. -/
theorem AnchorEventPayloadV3.IsChecked.entry_le (h : payload.IsChecked) :
    ∀ entry ∈ expectedMetadataV2 payload, entry.1.toBytes ≠ [] ∧
      entry.1.len ≤ maxAnchorEventMetadataBytesV2 ∧
      entry.2.len ≤ maxAnchorEventMetadataBytesV2 := by
  have hdigest : payload.digestHex.len = 64 := by
    show (Hex.encode payload.digest.toBytes).length = 64
    rw [Hex.length_encode, payload.digest.length_eq]
  obtain ⟨hnetwork, helection, hsummary⟩ := h.len_le
  have hmax : maxAnchorEventMetadataBytesV2 = 262144 := rfl
  have hkeys : ∀ key ∈ [anchorEventDigestKeyV2, anchorEventNetworkKeyV2,
      anchorEventElectionIdKeyV2, anchorEventPublicSummaryKeyV2],
      key.toBytes ≠ [] ∧ key.len ≤ 262144 := by decide
  have hvalues : ∀ value ∈ [payload.digestHex, payload.network, payload.electionId,
      payload.publicSummary], value.len ≤ 262144 := by
    intro value hvalue
    simp only [List.mem_cons, List.not_mem_nil, or_false] at hvalue
    rcases hvalue with rfl | rfl | rfl | rfl <;> omega
  rw [hmax]
  intro entry hentry
  obtain ⟨hnonempty, hkey⟩ := hkeys entry.1 (List.mem_map_of_mem (f := Prod.fst) hentry)
  exact ⟨hnonempty, hkey, hvalues entry.2 (List.mem_map_of_mem (f := Prod.snd) hentry)⟩

/-- An anchor event of a checked payload is copied. -/
theorem Event.IsAnchor.copyable (h : event.IsAnchor textOfCbor template payload)
    (hchecked : payload.IsChecked) : event.Copyable textOfCbor := by
  have hlength := h.metadata.length_eq
  rw [List.length_map, List.length_map] at hlength
  constructor
  · rw [h.topic]
    decide
  · rw [hlength]
    show 4 ≤ 8
    decide
  · intro entry hentry
    exact hchecked.entry_le entry (h.copiedMetadata_perm.subset hentry)

end Verdict

/-- A receipt of the ledger is verified only if it is of a full commit and exactly one of its events
has the template or the topic, and that one has the payload's keys and no text but the payload's.
It is verified if it is of a full commit, has no more events than are copied, and one of them is the
anchor event of the payload while every other one has another template, another topic and no digest
key, and keeps the bounds on a copy. -/
theorem ledgerReceipt_verified (textOfCbor : Bytes → Option Text) (receipt : TransactionReceipt)
    (transactionId network : Text) (template : AnchorTemplateBindingV2)
    (payload : AnchorEventPayloadV3) (hchecked : payload.IsChecked) :
    (LedgerReceiptVerified textOfCbor receipt transactionId network template payload →
      receipt.outcome = .commit ∧ Alone (Event.Agrees textOfCbor template payload)
        (Event.Concerns template) receipt.events) ∧
      (receipt.outcome = .commit → receipt.events.length ≤ maxReceiptLogEntries →
        Alone (Event.IsAnchor textOfCbor template payload)
          (fun event ↦ event.Concerns template ∨ ¬ event.Copyable textOfCbor) receipt.events →
        LedgerReceiptVerified textOfCbor receipt transactionId network template payload) := by
  constructor
  · rintro ⟨converted, evidence, hconvert, hverify⟩
    have hconverts := converts_of_eq_ok hconvert
    obtain ⟨-, haccepted, halone⟩ := verifyV2EventReceipt_eq_ok_iff.mp hverify
    constructor
    · have hstatus := haccepted.status
      rw [hconverts.finalStatus] at hstatus
      cases houtcome : receipt.outcome with
      | commit => rfl
      | feeIntentCommit =>
        rw [houtcome] at hstatus
        cases hstatus
    · apply halone.replace (R := flip (Copies textOfCbor)) _ _ hconverts.events.flip
      · exact fun proof event hcopies hfits ↦ Copies.agrees hcopies hfits
      · exact fun proof event hcopies hconcerns ↦ (Copies.concerns_iff hcopies).mpr hconcerns
  · intro houtcome hlength halone
    have hcopyable : ∀ event ∈ receipt.events, event.Copyable textOfCbor := by
      obtain ⟨before, anchor, after, hevents, hanchor, hothers⟩ := halone
      intro event hevent
      rw [hevents, List.mem_append, List.mem_cons] at hevent
      rcases hevent with hbefore | rfl | hafter
      · exact of_not_not (not_or.mp (hothers event (List.mem_append_left _ hbefore))).2
      · exact hanchor.copyable hchecked
      · exact of_not_not (not_or.mp (hothers event (List.mem_append_right _ hafter))).2
    obtain ⟨converted, hconvert⟩ : ∃ converted, convertTransactionReceipt textOfCbor receipt
        transactionId network = .ok converted :=
      exists_convertTransactionReceipt hlength hcopyable
    have hconverts := converts_of_eq_ok hconvert
    refine ⟨converted, converted.evidence payload.digest, hconvert, ?_⟩
    rw [verifyV2EventReceipt_eq_ok_iff]
    refine ⟨rfl, ⟨hconverts.transactionId, hconverts.network, ?_⟩, ?_⟩
    · rw [hconverts.finalStatus, houtcome]
      rfl
    · apply halone.replace _ _ hconverts.events
      · exact fun event proof hcopies hanchor ↦ hanchor.fitsTemplate hcopies
      · exact fun event proof hcopies hconcerns ↦ Or.inl (hcopies.concerns_iff.mp hconcerns)

namespace ConversionSample

/-- CBOR text of less than 256 bytes. -/
def cborText : Bytes → Option Text
  | [] => none
  | head :: rest =>
    if 0x60 ≤ head ∧ head < 0x78 ∧ rest.length + 0x60 = head.toNat then Text.ofBytes? rest
    else if head = 0x78 ∧ rest.head?.map UInt8.toNat = some (rest.length - 1) then
      Text.ofBytes? rest.tail
    else none

/-- The CBOR of a text. -/
def cborOf (text : Text) : Bytes :=
  if text.len < 24 then UInt8.ofNat (0x60 + text.len) :: text.toBytes
  else 0x78 :: UInt8.ofNat text.len :: text.toBytes

/-- The metadata of a payload, with this value of the digest. -/
def metadata (digest : Bytes) : Metadata where
  entries := [(anchorEventDigestKeyV2, digest), (anchorEventNetworkKeyV2, cborOf (.lit "net")),
    (anchorEventElectionIdKeyV2, cborOf (.lit "election")),
    (anchorEventPublicSummaryKeyV2, cborOf (.lit "summary"))]
  nodup := by
    show [anchorEventDigestKeyV2, anchorEventNetworkKeyV2, anchorEventElectionIdKeyV2,
      anchorEventPublicSummaryKeyV2].Nodup
    decide

def payloadOf (digest : Bytes32) : AnchorEventPayloadV3 :=
  ⟨digest, .lit "net", .lit "election", .lit "summary"⟩

/-- An event of the template. -/
def eventOf (digest : Bytes) : Event :=
  ⟨Bytes32.replicate 1, canonicalReceiptEventTopicV2, metadata digest⟩

def template : AnchorTemplateBindingV2 := ⟨(eventOf []).templateAddressText⟩

/-- An event of another template with an integer in its metadata. -/
def feeEvent : Event where
  templateAddress := Bytes32.replicate 2
  topic := .lit "fee.paid"
  payload := ⟨[(.lit "amount", [0x01])], by decide⟩

/-- An event of another template with nine entries. -/
def crowdedEvent : Event where
  templateAddress := Bytes32.replicate 2
  topic := .lit "fee.paid"
  payload := ⟨[(.lit "1", []), (.lit "2", []), (.lit "3", []), (.lit "4", []), (.lit "5", []),
    (.lit "6", []), (.lit "7", []), (.lit "8", []), (.lit "9", [])], by decide⟩

def receiptOf (events : List Event) : TransactionReceipt := ⟨.commit, events, 9, default⟩

/-- The anchor event of the digest `7…7`. -/
def anchorEvent : Event := eventOf (cborOf (Hex.text (Bytes32.replicate 7).toBytes))

/-- A digest whose bytes are the CBOR of thirty bytes. -/
def cborDigest : Bytes32 := ⟨0x58 :: 0x1e :: List.replicate 30 0, rfl⟩

theorem cborText_cborOf {text : Text} (h : text.len < 256) :
    cborText (cborOf text) = some text := by
  have hlen : text.toBytes.length = text.len := rfl
  by_cases hshort : text.len < 24
  · have hhead : (UInt8.ofNat (0x60 + text.len)).toNat = 0x60 + text.len := by
      rw [UInt8.toNat_ofNat', Nat.mod_eq_of_lt (by omega)]
    rw [cborOf, if_pos hshort, cborText, if_pos, Text.ofBytes?_toBytes]
    rw [UInt8.le_iff_toNat_le, UInt8.lt_iff_toNat_lt, hhead, hlen]
    exact ⟨Nat.le_add_right _ _, Nat.add_lt_add_left hshort 0x60, Nat.add_comm _ _⟩
  · have hhead : (UInt8.ofNat text.len).toNat = text.len := by
      rw [UInt8.toNat_ofNat', Nat.mod_eq_of_lt (by omega)]
    rw [cborOf, if_neg hshort, cborText, if_neg (fun hand ↦ absurd hand.2.1 (by decide)), if_pos,
      List.tail_cons, Text.ofBytes?_toBytes]
    rw [List.head?_cons, Option.map_some, hhead, List.length_cons, hlen, Nat.add_sub_cancel]
    exact ⟨rfl, rfl⟩

theorem cborText_literals : cborText (cborOf (.lit "net")) = some (.lit "net") ∧
    cborText (cborOf (.lit "election")) = some (.lit "election") ∧
    cborText (cborOf (.lit "summary")) = some (.lit "summary") :=
  ⟨cborText_cborOf (by decide), cborText_cborOf (by decide), cborText_cborOf (by decide)⟩

theorem isAnchor_anchorEvent :
    anchorEvent.IsAnchor cborText template (payloadOf (Bytes32.replicate 7)) := by
  refine ⟨rfl, rfl, ?_⟩
  obtain ⟨hnetwork, helection, hsummary⟩ := cborText_literals
  have hdigest : cborText (cborOf (Hex.text (Bytes32.replicate 7).toBytes)) =
      some (Hex.text (Bytes32.replicate 7).toBytes) := cborText_cborOf (by decide)
  simp only [anchorEvent, eventOf, metadata, List.map_cons, List.map_nil, hdigest, hnetwork,
    helection, hsummary]
  exact .refl _

/-- The digest that is no text is copied as the payload's. -/
theorem copiedMetadata_eventOf : (eventOf cborDigest.toBytes).copiedMetadata cborText =
    expectedMetadataV2 (payloadOf cborDigest) := by
  obtain ⟨hnetwork, helection, hsummary⟩ := cborText_literals
  have hdigest : cborText cborDigest.toBytes = none := by decide
  rw [Event.copiedMetadata_eq]
  simp only [eventOf, metadata, List.map_cons, List.map_nil, hdigest, hnetwork, helection,
    hsummary, Option.getD_none, Option.getD_some]
  rfl

theorem not_concerns {event : Event} (htemplate : event.templateAddress = Bytes32.replicate 2)
    (htopic : event.topic = .lit "fee.paid")
    (hkeys : anchorEventDigestKeyV2 ∉ event.payload.entries.map Prod.fst) :
    ¬ event.Concerns template := by
  rintro (h | h | h)
  · have hbytes := congrArg Text.toBytes h
    simp only [Event.templateAddressText, template, htemplate, eventOf] at hbytes
    exact absurd hbytes (by decide)
  · rw [htopic] at h
    exact absurd h (by decide)
  · exact hkeys h

end ConversionSample

open ConversionSample in
/-- A receipt with a fee event besides the anchor event is verified. -/
theorem ledgerReceipt_verified_sample : (payloadOf (Bytes32.replicate 7)).IsChecked ∧
    LedgerReceiptVerified cborText (receiptOf [feeEvent, anchorEvent]) (.lit "tx") (.lit "net")
      template (payloadOf (Bytes32.replicate 7)) := by
  have hchecked : (payloadOf (Bytes32.replicate 7)).IsChecked := by decide
  refine ⟨hchecked, (ledgerReceipt_verified cborText (receiptOf [feeEvent, anchorEvent]) (.lit "tx")
    (.lit "net") template (payloadOf (Bytes32.replicate 7)) hchecked).2 rfl (by decide) ?_⟩
  refine ⟨[feeEvent], anchorEvent, [], rfl, isAnchor_anchorEvent, ?_⟩
  intro other hother
  obtain rfl := List.mem_singleton.mp hother
  rw [not_or, not_not]
  refine ⟨not_concerns rfl rfl (by decide), ?_⟩
  exact ⟨by decide, by decide, by decide⟩

open ConversionSample in
/-- A foreign event with nine entries is refused together with the anchor event beside it, and a
digest that is no text but the bytes of the payload's digest is taken for it. -/
theorem ledgerReceipt_refuses_foreign :
    ((payloadOf (Bytes32.replicate 7)).IsChecked ∧
      Alone (Event.IsAnchor cborText template (payloadOf (Bytes32.replicate 7)))
        (Event.Concerns template) (receiptOf [crowdedEvent, anchorEvent]).events ∧
      ¬ LedgerReceiptVerified cborText (receiptOf [crowdedEvent, anchorEvent]) (.lit "tx")
        (.lit "net") template (payloadOf (Bytes32.replicate 7))) ∧
      (payloadOf cborDigest).IsChecked ∧
      LedgerReceiptVerified cborText (receiptOf [eventOf cborDigest.toBytes]) (.lit "tx")
        (.lit "net") template (payloadOf cborDigest) ∧
      ¬ Event.IsAnchor cborText template (payloadOf cborDigest) (eventOf cborDigest.toBytes) := by
  have hchecked : (payloadOf cborDigest).IsChecked := by decide
  refine ⟨⟨by decide, ?_, ?_⟩, hchecked, ?_, ?_⟩
  · refine ⟨[crowdedEvent], anchorEvent, [], rfl, isAnchor_anchorEvent, ?_⟩
    intro other hother
    obtain rfl := List.mem_singleton.mp hother
    exact not_concerns rfl rfl (by decide)
  · rintro ⟨converted, evidence, hconvert, -⟩
    have herror : convertTransactionReceipt cborText (receiptOf [crowdedEvent, anchorEvent])
        (.lit "tx") (.lit "net") = .error .diagnosticTooLong := by decide
    rw [herror] at hconvert
    cases hconvert
  · have hcopyable : (eventOf cborDigest.toBytes).Copyable cborText := by
      refine ⟨by decide, by decide, ?_⟩
      rw [copiedMetadata_eventOf]
      exact hchecked.entry_le
    obtain ⟨converted, hconvert⟩ : ∃ converted, convertTransactionReceipt cborText
        (receiptOf [eventOf cborDigest.toBytes]) (.lit "tx") (.lit "net") = .ok converted :=
      exists_convertTransactionReceipt (by decide) (List.forall_mem_singleton.mpr hcopyable)
    have hconverts := converts_of_eq_ok hconvert
    refine ⟨converted, converted.evidence cborDigest, hconvert, ?_⟩
    rw [verifyV2EventReceipt_eq_ok_iff]
    refine ⟨rfl, ⟨hconverts.transactionId, hconverts.network, hconverts.finalStatus⟩, ?_⟩
    obtain ⟨proof, rest, hcopies, hrest, hproofs⟩ :=
      List.forall₂_cons_left_iff.mp hconverts.events
    cases hrest
    refine ⟨[], proof, [], hproofs, ⟨hcopies.templateAddress, hcopies.topic, ?_⟩, nofun⟩
    rw [hcopies.metadata, copiedMetadata_eventOf]
  · intro h
    have hmem := h.metadata.subset List.mem_cons_self
    obtain ⟨entry, -, hentry⟩ := List.mem_map.mp hmem
    have hdigest : cborText cborDigest.toBytes = none := by decide
    have hsome : some entry.2 = cborText cborDigest.toBytes := congrArg Prod.snd hentry
    rw [hdigest] at hsome
    cases hsome

end PrivateBallot.OotleAnchor
