import PrivateBallot.OotleAnchor.EventBindings
import PrivateBallot.OotleAnchor.ReceiptVerification

/-!
# Agreement of two observers

Library `OotleAnchor`. `crates/anchor-transport/src/agreement.rs:25-85` and
`crates/ootle-receipt-anchor-adapter/src/retrieve.rs:232`: how the receipt of the wallet daemon is
compared with the one of an independent indexer. The comparison reads the log lines; the verdict on
an event receipt also depends on the events.
-/

namespace PrivateBallot.OotleAnchor

open PrivateBallot.Base

/-! ### The comparison -/

/-- `AnchorObservationAgreementError` -/
inductive AnchorObservationAgreementError where
  | transactionIdMismatch
  | networkMismatch
  | finalStatusMismatch
  | feeOnlyVersusFullMismatch
  | anchorLogPresenceMismatch
  | anchorDigestMismatch
  | logSequenceMismatch
  | malformedAnchorLog
deriving DecidableEq, Repr

/-- `final_status_disagreement` -/
def finalStatusDisagreement :
    AnchorFinalStatusV1 → AnchorFinalStatusV1 → AnchorObservationAgreementError
  | .accepted, .feeOnlyAccepted | .feeOnlyAccepted, .accepted => .feeOnlyVersusFullMismatch
  | _, _ => .finalStatusMismatch

/-- `collect_project_anchor_logs` -/
def collectProjectAnchorLogs (receipt : AnchorReceiptV1) :
    Except AnchorObservationAgreementError (List AnchorLogPayloadV1) :=
  (parseProjectAnchorLogs receipt.logs).mapError fun _ ↦ .malformedAnchorLog

/-- `compare_receipt_observations`; `crates/anchor-transport/src/agreement.rs:25`. -/
def compareReceiptObservations (walletd indexer : AnchorReceiptV1) :
    Except AnchorObservationAgreementError Unit :=
  if walletd.transactionId ≠ indexer.transactionId then .error .transactionIdMismatch
  else if walletd.network ≠ indexer.network then .error .networkMismatch
  else if walletd.finalStatus ≠ indexer.finalStatus then
    .error (finalStatusDisagreement walletd.finalStatus indexer.finalStatus)
  else do
    let walletdLogs ← collectProjectAnchorLogs walletd
    let indexerLogs ← collectProjectAnchorLogs indexer
    if walletdLogs.isEmpty ≠ indexerLogs.isEmpty then .error .anchorLogPresenceMismatch
    else if walletdLogs ≠ indexerLogs then .error .anchorDigestMismatch
    else if walletd.logs ≠ indexer.logs then .error .logSequenceMismatch
    else .ok ()

/-- `AnchorReceiptAgreementError` -/
inductive AnchorReceiptAgreementError where
  | wrongWalletdSource
  | wrongIndexerSource
  | expectedTransactionMismatch
  | expectedNetworkMismatch
  | observation (error : AnchorObservationAgreementError)
deriving DecidableEq, Repr

/-- `compare_walletd_and_indexer`; `crates/ootle-receipt-anchor-adapter/src/retrieve.rs:232`. -/
def compareWalletdAndIndexer (expectedTransaction expectedNetwork : Text)
    (walletd indexer : AnchorReceiptV1) : Except AnchorReceiptAgreementError Unit :=
  if walletd.source ≠ .walletd then .error .wrongWalletdSource
  else if indexer.source ≠ .independentIndexer then .error .wrongIndexerSource
  else if walletd.transactionId ≠ expectedTransaction ∨
      indexer.transactionId ≠ expectedTransaction then
    .error .expectedTransactionMismatch
  else if walletd.network ≠ expectedNetwork ∨ indexer.network ≠ expectedNetwork then
    .error .expectedNetworkMismatch
  else (compareReceiptObservations walletd indexer).mapError .observation

/-- What the two receipts have in common if the comparison is content. -/
structure Observed (walletd indexer : AnchorReceiptV1) : Prop where
  transactionId : walletd.transactionId = indexer.transactionId
  network : walletd.network = indexer.network
  finalStatus : walletd.finalStatus = indexer.finalStatus
  logs : walletd.logs = indexer.logs

theorem observed_of_compareReceiptObservations {walletd indexer : AnchorReceiptV1}
    (h : compareReceiptObservations walletd indexer = .ok ()) : Observed walletd indexer := by
  unfold compareReceiptObservations at h
  split at h
  · cases h
  next htransaction =>
  split at h
  · cases h
  next hnetwork =>
  split at h
  · cases h
  next hstatus =>
  cases hwalletd : collectProjectAnchorLogs walletd with
  | error e =>
    rw [hwalletd] at h
    cases h
  | ok walletdLogs =>
    cases hindexer : collectProjectAnchorLogs indexer with
    | error e =>
      rw [hwalletd, hindexer] at h
      cases h
    | ok indexerLogs =>
      rw [hwalletd, hindexer] at h
      simp only [bind, Except.bind] at h
      split at h
      · cases h
      split at h
      · cases h
      split at h
      · cases h
      next hlogs =>
      exact ⟨of_not_not htransaction, of_not_not hnetwork, of_not_not hstatus, of_not_not hlogs⟩

theorem observed_of_compareWalletdAndIndexer {expectedTransaction expectedNetwork : Text}
    {walletd indexer : AnchorReceiptV1}
    (h : compareWalletdAndIndexer expectedTransaction expectedNetwork walletd indexer = .ok ()) :
    Observed walletd indexer := by
  unfold compareWalletdAndIndexer at h
  split at h
  · cases h
  split at h
  · cases h
  split at h
  · cases h
  split at h
  · cases h
  cases hcompare : compareReceiptObservations walletd indexer with
  | error e =>
    rw [hcompare] at h
    cases h
  | ok u => exact observed_of_compareReceiptObservations hcompare

/-! ### The anchor among the events -/

instance (templateAddress topic digestKey : Text) :
    DecidablePred (Concerns templateAddress topic digestKey) :=
  fun _ ↦ inferInstanceAs (Decidable (_ ∨ _))

/-- What `read` makes of the one event with the digest key, if no other event has its template or
its topic. -/
def soleAnchor {α : Type} (digestKey : Text) (read : AnchorEventProofV2 → Option α)
    (events : List AnchorEventProofV2) : Option α :=
  (events.find? fun event ↦ event.hasKey digestKey).bind fun event ↦
    let concerned := events.filter fun other ↦
      decide (Concerns event.templateAddress event.topic digestKey other)
    if concerned.length = 1 then read event else none

/-- The digest that a text of hexadecimal digits is. -/
def digestOfHex (value : Text) : Option Bytes32 :=
  (Hex.decode value.toBytes).bind Bytes32.ofBytes?

/-- The binding for the address and the topic of an event. -/
def bindingOfEventV1 (event : AnchorEventProofV2) : Option AnchorTemplateBindingV1 :=
  let module := event.topic.toBytes.take (event.topic.len - (anchorEventTopicSuffixV1.len + 1))
  (Text.ofBytes? module).bind fun module ↦
    (AnchorTemplateBindingV1.new event.templateAddress module anchorEventFunctionV1
      event.topic).toOption

/-- The binding and the payload that a version-one event fits. -/
def readAnchorV1 (event : AnchorEventProofV2) :
    Option (AnchorTemplateBindingV1 × AnchorEventPayloadV2) :=
  (bindingOfEventV1 event).bind fun binding ↦
    match event.metadata with
    | [(key, value)] =>
      if key = anchorEventDigestKeyV1 then (digestOfHex value).map fun digest ↦ (binding, ⟨digest⟩)
      else none
    | _ => none

/-- The value of a key. -/
def metadataValue (metadata : List (Text × Text)) (key : Text) : Option Text :=
  (metadata.find? fun entry ↦ entry.1 = key).map Prod.snd

/-- The payload that metadata are, in any order. -/
def payloadOfMetadata (metadata : List (Text × Text)) : Option AnchorEventPayloadV3 := do
  let digest ← (metadataValue metadata anchorEventDigestKeyV2).bind digestOfHex
  let network ← metadataValue metadata anchorEventNetworkKeyV2
  let electionId ← metadataValue metadata anchorEventElectionIdKeyV2
  let publicSummary ← metadataValue metadata anchorEventPublicSummaryKeyV2
  let payload ← (AnchorEventPayloadV3.new digest network electionId publicSummary).toOption
  if metadata.Perm (expectedMetadataV2 payload) then some payload else none

/-- The binding and the payload that a version-two event fits. -/
def readAnchorV2 (event : AnchorEventProofV2) :
    Option (AnchorTemplateBindingV2 × AnchorEventPayloadV3) :=
  if event.topic = canonicalReceiptEventTopicV2 ∧ isTemplateAddress event.templateAddress then
    (payloadOfMetadata event.metadata).map fun payload ↦ (⟨event.templateAddress⟩, payload)
  else none

/-! ### What the readings find -/

/-- The sole anchor is read from an event that stands alone. -/
theorem soleAnchor_eq_some_iff {α : Type} {digestKey : Text} {read : AnchorEventProofV2 → Option α}
    {events : List AnchorEventProofV2} {value : α}
    (hkey : ∀ event, read event = some value → event.hasKey digestKey = true) :
    soleAnchor digestKey read events = some value ↔ ∃ templateAddress topic,
      Alone (fun event ↦ event.templateAddress = templateAddress ∧ event.topic = topic ∧
          read event = some value)
        (Concerns templateAddress topic digestKey) events := by
  constructor
  · intro h
    obtain ⟨event, hfind, h⟩ := Option.bind_eq_some_iff.mp h
    obtain ⟨hlength, hread⟩ := Option.ite_none_right_eq_some.mp h
    obtain ⟨only, honly⟩ := List.length_eq_one_iff.mp hlength
    have hevent : event ∈ [only] := by
      rw [← honly, List.mem_filter, decide_eq_true_eq]
      exact ⟨List.mem_of_find?_eq_some hfind, Or.inl rfl⟩
    rw [← List.mem_singleton.mp hevent] at honly
    refine ⟨event.templateAddress, event.topic, ?_⟩
    exact (alone_iff_filter fun _ hother ↦ Or.inl hother.1).mpr ⟨event, honly, rfl, rfl, hread⟩
  · rintro ⟨templateAddress, topic, halone⟩
    obtain ⟨before, event, after, rfl, ⟨rfl, rfl, hread⟩, hothers⟩ := id halone
    have hbefore : before.find? (fun other ↦ other.hasKey digestKey) = none := by
      rw [List.find?_eq_none]
      exact fun other hother hhas ↦
        hothers other (List.mem_append_left after hother) (Or.inr (Or.inr hhas))
    have hfind : (before ++ event :: after).find? (fun other ↦ other.hasKey digestKey) =
        some event := by
      rw [List.find?_append, hbefore, Option.none_or]
      exact List.find?_cons_of_pos (hkey event hread)
    obtain ⟨only, honly, -⟩ := (alone_iff_filter fun _ hother ↦ Or.inl hother.1).mp halone
    rw [soleAnchor, hfind, Option.bind_some]
    refine (if_pos ?_).trans hread
    exact congrArg List.length honly

theorem digestOfHex_eq_some_iff {value : Text} {digest : Bytes32} :
    digestOfHex value = some digest ↔ value = Hex.text digest.toBytes := by
  constructor
  · intro h
    obtain ⟨bytes, hdecode, hbytes⟩ := Option.bind_eq_some_iff.mp h
    apply Text.ext
    rw [← Hex.encode_of_decode hdecode, ← Bytes32.toBytes_of_ofBytes? hbytes]
    rfl
  · rintro rfl
    show (Hex.decode (Hex.encode digest.toBytes)).bind Bytes32.ofBytes? = some digest
    rw [Hex.decode_encode, Option.bind_some, Bytes32.ofBytes?_toBytes]

theorem toOption_eq_some_iff {ε α : Type} {x : Except ε α} {a : α} :
    x.toOption = some a ↔ x = .ok a := by
  cases x with
  | error e => exact iff_of_false nofun nofun
  | ok b =>
    constructor
    · intro h
      cases h
      rfl
    · intro h
      cases h
      rfl

theorem bindingOfEventV1_eq_some_iff {event : AnchorEventProofV2}
    {binding : AnchorTemplateBindingV1} :
    bindingOfEventV1 event = some binding ↔ binding.IsChecked ∧
      event.templateAddress = binding.templateAddress ∧ event.topic = binding.fullEventTopic := by
  constructor
  · intro h
    obtain ⟨module, -, h⟩ := Option.bind_eq_some_iff.mp h
    have hnew := toOption_eq_some_iff.mp h
    obtain ⟨rfl, -, -⟩ := AnchorTemplateBindingV1.of_new hnew
    exact ⟨⟨module, _, hnew⟩, rfl, rfl⟩
  · rintro ⟨⟨module, function, hnew⟩, haddress, htopic⟩
    obtain ⟨-, rfl, hbytes⟩ := AnchorTemplateBindingV1.of_new hnew
    have hmodule : event.topic.toBytes.take
        (event.topic.len - (anchorEventTopicSuffixV1.len + 1)) = module.toBytes := by
      rw [Text.len, htopic, hbytes, topicOf]
      apply List.take_left'
      rw [List.length_append, List.length_cons, Text.len]
      omega
    rw [bindingOfEventV1, hmodule, Text.ofBytes?_toBytes, Option.bind_some, haddress, htopic]
    exact toOption_eq_some_iff.mpr hnew

theorem readAnchorV1_eq_some_iff {event : AnchorEventProofV2} {binding : AnchorTemplateBindingV1}
    {payload : AnchorEventPayloadV2} :
    readAnchorV1 event = some (binding, payload) ↔ binding.IsChecked ∧
      FitsTemplate binding.templateAddress binding.fullEventTopic
        [(anchorEventDigestKeyV1, payload.digestHex)] event := by
  constructor
  · intro h
    obtain ⟨b, hbinding, h⟩ := Option.bind_eq_some_iff.mp h
    split at h
    · next key value hmetadata =>
      obtain ⟨rfl, h⟩ := Option.ite_none_right_eq_some.mp h
      obtain ⟨digest, hdigest, hpair⟩ := Option.map_eq_some_iff.mp h
      cases hpair
      obtain ⟨hchecked, haddress, htopic⟩ := bindingOfEventV1_eq_some_iff.mp hbinding
      refine ⟨hchecked, haddress, htopic, ?_⟩
      rw [hmetadata, digestOfHex_eq_some_iff.mp hdigest]
      exact List.Perm.refl _
    · cases h
  · rintro ⟨hchecked, haddress, htopic, hmetadata⟩
    have hbinding := bindingOfEventV1_eq_some_iff.mpr ⟨hchecked, haddress, htopic⟩
    rw [readAnchorV1, hbinding, Option.bind_some, List.perm_singleton.mp hmetadata]
    dsimp only
    rw [if_pos rfl, AnchorEventPayloadV2.digestHex, digestOfHex_eq_some_iff.mpr rfl]
    rfl

/-- The value of a key among the entries of a payload, in whatever order. -/
private theorem metadataValue_of_perm {metadata : List (Text × Text)}
    {payload : AnchorEventPayloadV3} (h : metadata.Perm (expectedMetadataV2 payload))
    {entry : Text × Text} (hentry : entry ∈ expectedMetadataV2 payload) :
    metadataValue metadata entry.1 = some entry.2 := by
  have hfilter := h.filter fun other ↦ decide (other.1 = entry.1)
  rw [filter_key_eq_singleton (nodup_keys_expectedMetadataV2 payload) hentry] at hfilter
  rw [metadataValue, ← List.head?_filter, List.perm_singleton.mp hfilter]
  rfl

theorem payloadOfMetadata_eq_some_iff {metadata : List (Text × Text)}
    {payload : AnchorEventPayloadV3} :
    payloadOfMetadata metadata = some payload ↔
      payload.IsChecked ∧ metadata.Perm (expectedMetadataV2 payload) := by
  constructor
  · intro h
    obtain ⟨digest, -, h⟩ := Option.bind_eq_some_iff.mp h
    obtain ⟨network, -, h⟩ := Option.bind_eq_some_iff.mp h
    obtain ⟨electionId, -, h⟩ := Option.bind_eq_some_iff.mp h
    obtain ⟨publicSummary, -, h⟩ := Option.bind_eq_some_iff.mp h
    obtain ⟨made, hnew, h⟩ := Option.bind_eq_some_iff.mp h
    obtain ⟨hperm, hmade⟩ := Option.ite_none_right_eq_some.mp h
    cases hmade
    have hnew := toOption_eq_some_iff.mp hnew
    obtain rfl := AnchorEventPayloadV3.of_new hnew
    exact ⟨hnew, hperm⟩
  · rintro ⟨hchecked, hperm⟩
    have hvalue : ∀ entry : Text × Text, entry ∈ expectedMetadataV2 payload →
        metadataValue metadata entry.1 = some entry.2 :=
      fun _ hentry ↦ metadataValue_of_perm hperm hentry
    have hdigest :=
      hvalue (anchorEventDigestKeyV2, payload.digestHex) (by simp [expectedMetadataV2])
    have hnetwork :=
      hvalue (anchorEventNetworkKeyV2, payload.network) (by simp [expectedMetadataV2])
    have helection := hvalue (anchorEventElectionIdKeyV2, payload.electionId)
      (by simp [expectedMetadataV2])
    have hsummary := hvalue (anchorEventPublicSummaryKeyV2, payload.publicSummary)
      (by simp [expectedMetadataV2])
    have hhex : digestOfHex payload.digestHex = some payload.digest :=
      digestOfHex_eq_some_iff.mpr rfl
    rw [payloadOfMetadata, hdigest, hnetwork, helection, hsummary]
    simp only [Option.bind_eq_bind, Option.bind_some, hhex, toOption_eq_some_iff.mpr hchecked,
      if_pos hperm]

theorem readAnchorV2_eq_some_iff {event : AnchorEventProofV2} {binding : AnchorTemplateBindingV2}
    {payload : AnchorEventPayloadV3} :
    readAnchorV2 event = some (binding, payload) ↔ (binding.IsChecked ∧ payload.IsChecked) ∧
      FitsTemplate binding.templateAddress canonicalReceiptEventTopicV2
        (expectedMetadataV2 payload) event := by
  rw [AnchorTemplateBindingV2.isChecked_iff]
  constructor
  · intro h
    obtain ⟨⟨htopic, haddress⟩, h⟩ := Option.ite_none_right_eq_some.mp h
    obtain ⟨made, hpayload, hpair⟩ := Option.map_eq_some_iff.mp h
    cases hpair
    obtain ⟨hchecked, hperm⟩ := payloadOfMetadata_eq_some_iff.mp hpayload
    exact ⟨⟨haddress, hchecked⟩, rfl, htopic, hperm⟩
  · rintro ⟨⟨haddress, hchecked⟩, htemplate, htopic, hperm⟩
    rw [readAnchorV2, htemplate, if_pos ⟨htopic, haddress⟩,
      payloadOfMetadata_eq_some_iff.mpr ⟨hchecked, hperm⟩]
    rfl

/-- One event is read as the value and fits, and no other concerns its template. -/
private theorem soleAnchor_eq_some_iff_of_fits {α : Type} {digestKey : Text}
    {read : AnchorEventProofV2 → Option α} {events : List AnchorEventProofV2} {value : α}
    {templateAddress topic : Text} {expected : List (Text × Text)} {checked : Prop}
    (hdigest : ∃ entry ∈ expected, entry.1 = digestKey)
    (hread : ∀ event, read event = some value ↔
      checked ∧ FitsTemplate templateAddress topic expected event) :
    soleAnchor digestKey read events = some value ↔ checked ∧
      Alone (FitsTemplate templateAddress topic expected)
        (Concerns templateAddress topic digestKey) events := by
  have hkey : ∀ event, read event = some value → event.hasKey digestKey = true := by
    intro event hevent
    obtain ⟨entry, hentry, hname⟩ := hdigest
    rw [AnchorEventProofV2.hasKey, List.any_eq_true]
    refine ⟨entry, ?_, decide_eq_true hname⟩
    exact ((hread event).mp hevent).2.2.2.symm.subset hentry
  rw [soleAnchor_eq_some_iff hkey]
  constructor
  · rintro ⟨templateAddress', topic', before, event, after, rfl, ⟨rfl, rfl, hevent⟩, hothers⟩
    obtain ⟨hchecked, hfits⟩ := (hread event).mp hevent
    refine ⟨hchecked, before, event, after, rfl, hfits, ?_⟩
    rw [← hfits.1, ← hfits.2.1]
    exact hothers
  · rintro ⟨hchecked, before, event, after, rfl, hfits, hothers⟩
    exact ⟨templateAddress, topic, before, event, after, rfl,
      ⟨hfits.1, hfits.2.1, (hread event).mpr ⟨hchecked, hfits⟩⟩, hothers⟩

theorem soleAnchorV1_eq_some_iff {events : List AnchorEventProofV2}
    {template : AnchorTemplateBindingV1} {payload : AnchorEventPayloadV2} :
    soleAnchor anchorEventDigestKeyV1 readAnchorV1 events = some (template, payload) ↔
      template.IsChecked ∧ Alone (FitsTemplate template.templateAddress template.fullEventTopic
          [(anchorEventDigestKeyV1, payload.digestHex)])
        (Concerns template.templateAddress template.fullEventTopic anchorEventDigestKeyV1)
        events :=
  soleAnchor_eq_some_iff_of_fits ⟨_, List.mem_singleton_self _, rfl⟩
    fun _ ↦ readAnchorV1_eq_some_iff

theorem soleAnchorV2_eq_some_iff {events : List AnchorEventProofV2}
    {template : AnchorTemplateBindingV2} {payload : AnchorEventPayloadV3} :
    soleAnchor anchorEventDigestKeyV2 readAnchorV2 events = some (template, payload) ↔
      (template.IsChecked ∧ payload.IsChecked) ∧
        Alone (FitsTemplate template.templateAddress canonicalReceiptEventTopicV2
            (expectedMetadataV2 payload))
          (Concerns template.templateAddress canonicalReceiptEventTopicV2 anchorEventDigestKeyV2)
          events :=
  soleAnchor_eq_some_iff_of_fits ⟨_, List.mem_cons_self, rfl⟩ fun _ ↦ readAnchorV2_eq_some_iff

/-! ### One verdict -/

/-- What a verification has verified. The ledger position and the source are the observer's own:
the one is opaque, and the comparison asks for two different ones of the other. -/
def VerifiedAnchorEvidence.facts (evidence : VerifiedAnchorEvidence) : Text × Text × Bytes32 :=
  (evidence.transactionId, evidence.network, evidence.anchorDigest)

/-- Both verifications succeed with the same facts, or neither succeeds. -/
def SameVerdict (walletd indexer : ReceiptResult VerifiedAnchorEvidence) : Prop :=
  walletd.toOption.map VerifiedAnchorEvidence.facts =
    indexer.toOption.map VerifiedAnchorEvidence.facts

/-- Two receipts get the same verdict under every expected binding. -/
structure SameVerdicts (walletd indexer : AnchorReceiptV1) : Prop where
  log : ∀ transaction network payload,
    SameVerdict (verifyAnchorReceipt transaction network payload walletd)
      (verifyAnchorReceipt transaction network payload indexer)
  v39 : ∀ transaction network template payload, template.IsChecked →
    SameVerdict (verifyV39EventReceipt transaction network template payload walletd)
      (verifyV39EventReceipt transaction network template payload indexer)
  v2 : ∀ transaction network template payload, template.IsChecked → payload.IsChecked →
    SameVerdict (verifyV2EventReceipt transaction network template payload walletd)
      (verifyV2EventReceipt transaction network template payload indexer)

section Verdicts

variable {walletd indexer : AnchorReceiptV1} {transaction network : Text}

/-- Verdicts under equal conditions are equal. -/
private theorem sameVerdict_iff (h : Observed walletd indexer) {digest : Bytes32} {P Q : Prop}
    {result result' : ReceiptResult VerifiedAnchorEvidence}
    (hwalletd : ∀ evidence, result = .ok evidence ↔ evidence = walletd.evidence digest ∧ P)
    (hindexer : ∀ evidence, result' = .ok evidence ↔ evidence = indexer.evidence digest ∧ Q) :
    SameVerdict result result' ↔ (P ↔ Q) := by
  have hfacts : (walletd.evidence digest).facts = (indexer.evidence digest).facts := by
    simp only [AnchorReceiptV1.evidence, VerifiedAnchorEvidence.facts, h.transactionId, h.network]
  have hside : ∀ {r : ReceiptResult VerifiedAnchorEvidence} {e : VerifiedAnchorEvidence} {R : Prop},
      (∀ evidence, r = .ok evidence ↔ evidence = e ∧ R) →
        (R → r.toOption.map VerifiedAnchorEvidence.facts = some e.facts) ∧
          (¬ R → r.toOption.map VerifiedAnchorEvidence.facts = none) := by
    intro r e R hr
    constructor
    · intro hR
      rw [(hr e).mpr ⟨rfl, hR⟩]
      rfl
    · intro hR
      cases r with
      | error _ => rfl
      | ok evidence => exact absurd ((hr evidence).mp rfl).2 hR
  obtain ⟨hP, hnotP⟩ := hside hwalletd
  obtain ⟨hQ, hnotQ⟩ := hside hindexer
  unfold SameVerdict
  by_cases hp : P
  · by_cases hq : Q
    · rw [hP hp, hQ hq, hfacts]
      exact iff_of_true rfl (iff_of_true hp hq)
    · rw [hP hp, hnotQ hq]
      exact iff_of_false nofun fun hiff ↦ hq (hiff.mp hp)
  · by_cases hq : Q
    · rw [hnotP hp, hQ hq]
      exact iff_of_false nofun fun hiff ↦ hp (hiff.mpr hq)
    · rw [hnotP hp, hnotQ hq]
      exact iff_of_true rfl (iff_of_false hp hq)

theorem Observed.fullyAccepted_iff (h : Observed walletd indexer) :
    FullyAccepted transaction network walletd ↔ FullyAccepted transaction network indexer := by
  constructor
  · rintro ⟨htransaction, hnetwork, hstatus⟩
    exact ⟨h.transactionId ▸ htransaction, h.network ▸ hnetwork, h.finalStatus ▸ hstatus⟩
  · rintro ⟨htransaction, hnetwork, hstatus⟩
    exact ⟨h.transactionId ▸ htransaction, h.network ▸ hnetwork, h.finalStatus ▸ hstatus⟩

end Verdicts

/-- Receipts on which the comparison is content get the same verdict under every binding exactly if
their transaction was not fully accepted, or their events show the same anchor in each version. -/
theorem agreement_exact (expectedTransaction expectedNetwork : Text)
    (walletd indexer : AnchorReceiptV1)
    (h : compareWalletdAndIndexer expectedTransaction expectedNetwork walletd indexer = .ok ()) :
    SameVerdicts walletd indexer ↔ walletd.finalStatus ≠ .accepted ∨
      soleAnchor anchorEventDigestKeyV1 readAnchorV1 walletd.eventProofsV2 =
          soleAnchor anchorEventDigestKeyV1 readAnchorV1 indexer.eventProofsV2 ∧
        soleAnchor anchorEventDigestKeyV2 readAnchorV2 walletd.eventProofsV2 =
          soleAnchor anchorEventDigestKeyV2 readAnchorV2 indexer.eventProofsV2 := by
  have hobserved := observed_of_compareWalletdAndIndexer h
  have haccepted : ∀ {transaction network : Text}, walletd.finalStatus ≠ .accepted →
      ¬ FullyAccepted transaction network walletd := fun hstatus hfull ↦ hstatus hfull.status
  constructor
  · intro hsame
    by_contra hnot
    rw [not_or, not_not] at hnot
    obtain ⟨hstatus, hanchors⟩ := hnot
    have hfull : FullyAccepted walletd.transactionId walletd.network walletd := ⟨rfl, rfl, hstatus⟩
    have hfull' := hobserved.fullyAccepted_iff.mp hfull
    refine hanchors ⟨?_, ?_⟩
    · apply Option.ext
      rintro ⟨template, payload⟩
      rw [soleAnchorV1_eq_some_iff, soleAnchorV1_eq_some_iff]
      refine and_congr_right fun hchecked ↦ ?_
      have hverdict := (sameVerdict_iff hobserved (fun _ ↦ verifyV39EventReceipt_eq_ok_iff)
        fun _ ↦ verifyV39EventReceipt_eq_ok_iff).mp
          (hsame.v39 walletd.transactionId walletd.network template payload hchecked)
      rwa [and_iff_right hfull, and_iff_right hfull'] at hverdict
    · apply Option.ext
      rintro ⟨template, payload⟩
      rw [soleAnchorV2_eq_some_iff, soleAnchorV2_eq_some_iff]
      refine and_congr_right fun hchecked ↦ ?_
      have hverdict := (sameVerdict_iff hobserved (fun _ ↦ verifyV2EventReceipt_eq_ok_iff)
        fun _ ↦ verifyV2EventReceipt_eq_ok_iff).mp
          (hsame.v2 walletd.transactionId walletd.network template payload hchecked.1 hchecked.2)
      rwa [and_iff_right hfull, and_iff_right hfull'] at hverdict
  · intro hcases
    constructor
    · intro transaction network payload
      refine (sameVerdict_iff hobserved (fun _ ↦ verifyAnchorReceipt_eq_ok_iff)
        fun _ ↦ verifyAnchorReceipt_eq_ok_iff).mpr ?_
      rw [hobserved.fullyAccepted_iff, hobserved.logs]
    · intro transaction network template payload hchecked
      refine (sameVerdict_iff hobserved (fun _ ↦ verifyV39EventReceipt_eq_ok_iff)
        fun _ ↦ verifyV39EventReceipt_eq_ok_iff).mpr ?_
      rcases hcases with hstatus | ⟨hanchor, -⟩
      · rw [← hobserved.fullyAccepted_iff]
        exact iff_of_false (fun hP ↦ haccepted hstatus hP.1) fun hQ ↦ haccepted hstatus hQ.1
      · have hiff := @soleAnchorV1_eq_some_iff walletd.eventProofsV2 template payload
        rw [hanchor, soleAnchorV1_eq_some_iff, and_congr_right_iff] at hiff
        rw [hobserved.fullyAccepted_iff, hiff hchecked]
    · intro transaction network template payload hchecked hpayload
      refine (sameVerdict_iff hobserved (fun _ ↦ verifyV2EventReceipt_eq_ok_iff)
        fun _ ↦ verifyV2EventReceipt_eq_ok_iff).mpr ?_
      rcases hcases with hstatus | ⟨-, hanchor⟩
      · rw [← hobserved.fullyAccepted_iff]
        exact iff_of_false (fun hP ↦ haccepted hstatus hP.1) fun hQ ↦ haccepted hstatus hQ.1
      · have hiff := @soleAnchorV2_eq_some_iff walletd.eventProofsV2 template payload
        rw [hanchor, soleAnchorV2_eq_some_iff, and_congr_right_iff] at hiff
        rw [hobserved.fullyAccepted_iff, hiff ⟨hchecked, hpayload⟩]

namespace AgreementSample

def template : AnchorTemplateBindingV2 := ⟨.lit "template_1"⟩

def payload : AnchorEventPayloadV3 :=
  ⟨Bytes32.replicate 7, .lit "net", .lit "election", .lit "summary"⟩

/-- The anchor event of the payload. -/
def anchorEvent : AnchorEventProofV2 where
  templateAddress := template.templateAddress
  topic := canonicalReceiptEventTopicV2
  metadata := expectedMetadataV2 payload
  eventIndex := 0
  receiptEpoch := 9
  intentCommitment := default

/-- What an observer reports of the accepted transaction. -/
def receipt (source : AnchorReceiptSourceKindV1) (events : List AnchorEventProofV2) :
    AnchorReceiptV1 :=
  ⟨.lit "tx", .lit "net", .accepted, [], none, none, source, events⟩

end AgreementSample

/-- The same event in both receipts, and both get the same verdict. -/
theorem agreement_exact_sample :
    compareWalletdAndIndexer (.lit "tx") (.lit "net")
        (AgreementSample.receipt .walletd [AgreementSample.anchorEvent])
        (AgreementSample.receipt .independentIndexer [AgreementSample.anchorEvent]) = .ok () ∧
      SameVerdicts (AgreementSample.receipt .walletd [AgreementSample.anchorEvent])
        (AgreementSample.receipt .independentIndexer [AgreementSample.anchorEvent]) := by
  have hcompare : compareWalletdAndIndexer (.lit "tx") (.lit "net")
      (AgreementSample.receipt .walletd [AgreementSample.anchorEvent])
      (AgreementSample.receipt .independentIndexer [AgreementSample.anchorEvent]) = .ok () := by
    decide
  exact ⟨hcompare, (agreement_exact _ _ _ _ hcompare).mpr (Or.inr ⟨rfl, rfl⟩)⟩

/-- The comparison is content with two receipts of which only the indexer's has the event. -/
theorem agreement_misses_events :
    compareWalletdAndIndexer (.lit "tx") (.lit "net") (AgreementSample.receipt .walletd [])
        (AgreementSample.receipt .independentIndexer [AgreementSample.anchorEvent]) = .ok () ∧
      ¬ SameVerdicts (AgreementSample.receipt .walletd [])
        (AgreementSample.receipt .independentIndexer [AgreementSample.anchorEvent]) := by
  refine ⟨by decide, fun hsame ↦ ?_⟩
  have htemplate : AgreementSample.template.IsChecked :=
    AnchorTemplateBindingV2.isChecked_iff.mpr (by decide)
  have hverdict := hsame.v2 (.lit "tx") (.lit "net") AgreementSample.template
    AgreementSample.payload htemplate (by decide)
  exact absurd hverdict (by unfold SameVerdict; decide)

end PrivateBallot.OotleAnchor
