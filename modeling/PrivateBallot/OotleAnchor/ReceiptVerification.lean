import PrivateBallot.Base.Selection
import PrivateBallot.OotleAnchor.Receipt
import PrivateBallot.Protocol.Error

/-!
# What receipt verification accepts

Library `OotleAnchor`. `crates/anchor-transport/src/verification.rs:109-367` and
`crates/ootle-receipt-anchor-adapter/src/retrieve.rs:380`. Every verification walks a list and stops
at the first item it objects to. What it accepts is nevertheless a matter of which items there are:
one that fits, and no other that is like it in any way.
-/

namespace PrivateBallot.OotleAnchor

open PrivateBallot.Base

/-! ### The log line -/

/-- The strict parser takes the encoding of a payload and nothing else. -/
theorem AnchorLogPayloadV1.parse_eq_ok_iff {input : Text} {payload : AnchorLogPayloadV1} :
    parse input = .ok payload ↔ input.toBytes = payload.encoded := by
  constructor
  · intro h
    unfold parse at h
    split at h
    · cases h
    split at h
    · cases h
    next afterPrefix hprefix =>
    split at h
    · cases h
    next hex hseparator =>
    split at h
    · cases h
    split at h
    · cases h
    next digest hdigest =>
    cases h
    obtain ⟨p, hinput, hp⟩ := List.dropPrefix?_eq_some_iff.mp hprefix
    obtain ⟨s, hafter, hs⟩ := List.dropPrefix?_eq_some_iff.mp hseparator
    obtain ⟨bytes, hdecode, hbytes⟩ := Option.bind_eq_some_iff.mp hdigest
    rw [eq_of_beq hp] at hinput
    rw [eq_of_beq hs] at hafter
    rw [hinput, hafter, encoded, Bytes32.toBytes_of_ofBytes? hbytes, Hex.encode_of_decode hdecode,
      List.append_assoc]
  · intro h
    have hlen : (Hex.encode payload.digest.toBytes).length = anchorLogPayloadDigestHexLen := by
      rw [Hex.length_encode, payload.digest.length_eq]
      rfl
    have hprefix : input.toBytes.dropPrefix? anchorLogPayloadPrefixV1.toBytes =
        some ([0x3a] ++ Hex.encode payload.digest.toBytes) := by
      rw [h, encoded, List.append_assoc]
      exact List.dropPrefix?_append_of_beq _ (beq_self_eq_true _)
    have hseparator : List.dropPrefix? ([0x3a] ++ Hex.encode payload.digest.toBytes) [0x3a] =
        some (Hex.encode payload.digest.toBytes) :=
      List.dropPrefix?_append_of_beq _ (beq_self_eq_true _)
    have hnonempty : input.toBytes ≠ [] := by
      rw [h, encoded]
      simp
    rw [parse, if_neg hnonempty, hprefix]
    dsimp only
    rw [hseparator]
    dsimp only
    rw [if_neg (not_not_intro hlen), Hex.decode_encode, Option.bind_some, Bytes32.ofBytes?_toBytes]

/-- The log lines that are parsed are the candidates, and all of them have to be well formed. -/
theorem parseProjectAnchorLogs_eq_ok_iff {logs : List AnchorLogEntryV1}
    {payloads : List AnchorLogPayloadV1} :
    parseProjectAnchorLogs logs = .ok payloads ↔
      List.Forall₂ (fun entry payload ↦ AnchorLogPayloadV1.parse entry.message = .ok payload)
        (logs.filter AnchorLogEntryV1.isCandidate) payloads := by
  induction logs generalizing payloads with
  | nil =>
    rw [parseProjectAnchorLogs, List.filter_nil, List.forall₂_nil_left_iff]
    constructor
    · intro h
      cases h
      rfl
    · rintro rfl
      rfl
  | cons entry logs ih =>
    rw [parseProjectAnchorLogs]
    by_cases hcandidate : entry.isCandidate = true
    · rw [if_pos hcandidate, List.filter_cons_of_pos hcandidate, List.forall₂_cons_left_iff]
      cases hparse : AnchorLogPayloadV1.parse entry.message with
      | error e =>
        constructor
        · nofun
        · rintro ⟨payload, rest, h, -⟩
          cases h
      | ok payload =>
        dsimp only
        constructor
        · intro h
          cases hrest : parseProjectAnchorLogs logs with
          | error e =>
            rw [hrest] at h
            cases h
          | ok rest =>
            rw [hrest] at h
            cases h
            exact ⟨payload, rest, rfl, ih.mp hrest, rfl⟩
        · rintro ⟨payload', rest, hpayload, hrest, rfl⟩
          cases hpayload
          rw [ih.mpr hrest]
          rfl
    · rw [if_neg hcandidate, List.filter_cons_of_neg hcandidate]
      exact ih

/-! ### Acceptance -/

/-- The receipt is of the transaction on the network, which was fully accepted. -/
structure FullyAccepted (expectedTransaction expectedNetwork : Text) (receipt : AnchorReceiptV1) :
    Prop where
  transaction : receipt.transactionId = expectedTransaction
  network : receipt.network = expectedNetwork
  status : receipt.finalStatus = .accepted

variable {transaction network : Text} {receipt : AnchorReceiptV1}

theorem checkFinalAcceptance_eq_ok_iff {u : Unit} :
    checkFinalAcceptance transaction network receipt = .ok u ↔
      FullyAccepted transaction network receipt := by
  unfold checkFinalAcceptance
  constructor
  · intro h
    split at h
    · cases h
    next htransaction =>
    split at h
    · cases h
    next hnetwork =>
    split at h
    · next hstatus => exact ⟨of_not_not htransaction, of_not_not hnetwork, hstatus⟩
    · cases h
    · cases h
  · rintro ⟨rfl, rfl, hstatus⟩
    rw [if_neg (not_not_intro rfl), if_neg (not_not_intro rfl), hstatus]

/-- A log line with the expected payload. -/
def CarriesPayload (payload : AnchorLogPayloadV1) (entry : AnchorLogEntryV1) : Prop :=
  entry.isCandidate = true ∧ AnchorLogPayloadV1.parse entry.message = .ok payload

/-- A log receipt is accepted exactly when it is of the fully accepted transaction and one of its
log lines carries the payload while no other begins like one. -/
theorem verifyAnchorReceipt_eq_ok_iff {payload : AnchorLogPayloadV1}
    {evidence : VerifiedAnchorEvidence} :
    verifyAnchorReceipt transaction network payload receipt = .ok evidence ↔
      evidence = receipt.evidence payload.digest ∧ FullyAccepted transaction network receipt ∧
        Alone (CarriesPayload payload) (fun entry ↦ entry.isCandidate = true) receipt.logs := by
  rw [alone_iff_filter fun _ h ↦ h.1]
  simp only [Bool.decide_eq_true]
  constructor
  · intro h
    cases hfinal : checkFinalAcceptance transaction network receipt with
    | error e =>
      rw [verifyAnchorReceipt, hfinal] at h
      cases h
    | ok u =>
      cases hlogs : parseProjectAnchorLogs receipt.logs with
      | error e =>
        rw [verifyAnchorReceipt, hfinal, hlogs] at h
        cases h
      | ok parsed =>
        rw [verifyAnchorReceipt, hfinal, hlogs] at h
        simp only [bind, Except.bind] at h
        split at h
        · cases h
        · next single =>
          split at h
          · cases h
          next hdigest =>
          cases h
          obtain ⟨entry, rest, hparse, hrest, hfilter⟩ :=
            List.forall₂_cons_right_iff.mp (parseProjectAnchorLogs_eq_ok_iff.mp hlogs)
          cases hrest
          have hsingle : single = payload := by
            cases single
            cases payload
            cases of_not_not hdigest
            rfl
          subst hsingle
          have hcandidate : entry ∈ receipt.logs.filter AnchorLogEntryV1.isCandidate := by
            rw [hfilter]
            exact List.mem_singleton_self entry
          exact ⟨rfl, checkFinalAcceptance_eq_ok_iff.mp hfinal, entry, hfilter,
            (List.mem_filter.mp hcandidate).2, hparse⟩
        · split at h
          · cases h
          · cases h
  · rintro ⟨rfl, hfinal, entry, hfilter, hcandidate, hparse⟩
    have hlogs : parseProjectAnchorLogs receipt.logs = .ok [payload] := by
      rw [parseProjectAnchorLogs_eq_ok_iff, hfilter]
      exact List.Forall₂.cons hparse .nil
    have hcheck : checkFinalAcceptance transaction network receipt = .ok () :=
      checkFinalAcceptance_eq_ok_iff.mpr hfinal
    rw [verifyAnchorReceipt, hcheck, hlogs]
    simp [bind, Except.bind, pure, Except.pure]

/-! ### Events -/

section Events

variable {templateAddress topic digestKey : Text} {events : List AnchorEventProofV2}

/-- An event of the template, with its topic or with the digest key. -/
def Concerns (templateAddress topic digestKey : Text) (event : AnchorEventProofV2) : Prop :=
  event.templateAddress = templateAddress ∨ event.topic = topic ∨ event.hasKey digestKey = true

/-- The loop ends where the template and the topic of an event do not agree; otherwise it collects
the events with the topic or the digest key. -/
theorem collectCandidates_eq_ok_iff {candidates : List AnchorEventProofV2} :
    collectCandidates templateAddress topic digestKey events = .ok candidates ↔
      (∀ event ∈ events, event.templateAddress = templateAddress ↔ event.topic = topic) ∧
        candidates = events.filter fun event ↦
          decide (event.topic = topic ∨ event.hasKey digestKey = true) := by
  induction events generalizing candidates with
  | nil =>
    rw [collectCandidates, List.filter_nil]
    constructor
    · intro h
      cases h
      exact ⟨nofun, rfl⟩
    · rintro ⟨-, rfl⟩
      rfl
  | cons event events ih =>
    rw [collectCandidates]
    by_cases htopic : event.templateAddress = templateAddress ∧ event.topic ≠ topic
    · rw [if_pos htopic]
      constructor
      · nofun
      · rintro ⟨hagree, -⟩
        exact absurd ((hagree event List.mem_cons_self).mp htopic.1) htopic.2
    rw [if_neg htopic]
    by_cases htemplate : event.topic = topic ∧ event.templateAddress ≠ templateAddress
    · rw [if_pos htemplate]
      constructor
      · nofun
      · rintro ⟨hagree, -⟩
        exact absurd ((hagree event List.mem_cons_self).mpr htemplate.1) htemplate.2
    rw [if_neg htemplate]
    have hevent : event.templateAddress = templateAddress ↔ event.topic = topic := by tauto
    have hall : (∀ other ∈ event :: events, other.templateAddress = templateAddress ↔
        other.topic = topic) ↔
        ∀ other ∈ events, other.templateAddress = templateAddress ↔ other.topic = topic := by
      rw [List.forall_mem_cons]
      exact and_iff_right hevent
    rw [hall]
    dsimp only
    by_cases hcandidate : event.topic = topic ∨ event.hasKey digestKey = true
    · have hfilter : (event :: events).filter (fun event ↦
          decide (event.topic = topic ∨ event.hasKey digestKey = true)) =
          event :: events.filter fun event ↦
            decide (event.topic = topic ∨ event.hasKey digestKey = true) :=
        List.filter_cons_of_pos (by rw [decide_eq_true_eq]; exact hcandidate)
      rw [if_pos hcandidate, hfilter]
      constructor
      · intro h
        cases hrest : collectCandidates templateAddress topic digestKey events with
        | error e =>
          rw [hrest] at h
          cases h
        | ok rest =>
          rw [hrest] at h
          cases h
          obtain ⟨hagree, rfl⟩ := ih.mp hrest
          exact ⟨hagree, rfl⟩
      · rintro ⟨hagree, rfl⟩
        rw [ih.mpr ⟨hagree, rfl⟩]
        rfl
    · rw [if_neg hcandidate, List.filter_cons_of_neg (by rw [decide_eq_true_eq]; exact hcandidate)]
      exact ih

/-- An event of the template with the topic and with exactly the expected metadata, in any order. -/
def FitsTemplate (templateAddress topic : Text) (expected : List (Text × Text))
    (event : AnchorEventProofV2) : Prop :=
  event.templateAddress = templateAddress ∧ event.topic = topic ∧ event.metadata.Perm expected

-- The loop refuses an event that has the template or the topic alone, so among the events that it
-- lets pass the candidates are those that concern the template at all.
/-- An event receipt is accepted exactly when it is of the fully accepted transaction and one of
its events fits while no other concerns the template. -/
theorem verifyEventReceipt_eq_ok_iff {checkMetadata : List (Text × Text) → ReceiptResult Unit}
    {expected : List (Text × Text)} {anchorDigest : Bytes32} {evidence : VerifiedAnchorEvidence}
    (hcheck : ∀ metadata, checkMetadata metadata = .ok () ↔ metadata.Perm expected) :
    verifyEventReceipt templateAddress topic digestKey checkMetadata anchorDigest transaction
        network receipt = .ok evidence ↔
      evidence = receipt.evidence anchorDigest ∧ FullyAccepted transaction network receipt ∧
        Alone (FitsTemplate templateAddress topic expected)
          (Concerns templateAddress topic digestKey) receipt.eventProofsV2 := by
  constructor
  · intro h
    cases hfinal : checkFinalAcceptance transaction network receipt with
    | error e =>
      rw [verifyEventReceipt, hfinal] at h
      cases h
    | ok u =>
      cases hloop : collectCandidates templateAddress topic digestKey receipt.eventProofsV2 with
      | error e =>
        rw [verifyEventReceipt, hfinal, hloop] at h
        cases h
      | ok candidates =>
        rw [verifyEventReceipt, hfinal, hloop] at h
        simp only [bind, Except.bind] at h
        obtain ⟨hagree, hcandidates⟩ := collectCandidates_eq_ok_iff.mp hloop
        split at h
        · cases h
        · next event =>
          split at h
          · cases h
          next htemplate =>
          split at h
          · cases h
          next htopic =>
          cases hmetadata : checkMetadata event.metadata with
          | error e =>
            rw [hmetadata] at h
            cases h
          | ok u =>
            rw [hmetadata] at h
            cases h
            refine ⟨rfl, checkFinalAcceptance_eq_ok_iff.mp hfinal, ?_⟩
            have halone : Alone (FitsTemplate templateAddress topic expected)
                (fun event ↦ event.topic = topic ∨ event.hasKey digestKey = true)
                receipt.eventProofsV2 := by
              rw [alone_iff_filter fun event hfits ↦ Or.inl hfits.2.1]
              exact ⟨event, hcandidates.symm, of_not_not htemplate, of_not_not htopic,
                (hcheck _).mp hmetadata⟩
            obtain ⟨before, x, after, hevents, hx, hothers⟩ := halone
            refine ⟨before, x, after, hevents, hx, ?_⟩
            intro other hother hconcerns
            apply hothers other hother
            have hmem : other ∈ receipt.eventProofsV2 := by
              rw [hevents, List.mem_append, List.mem_cons]
              rcases List.mem_append.mp hother with hother | hother
              · exact Or.inl hother
              · exact Or.inr (Or.inr hother)
            rcases hconcerns with hother | hother
            · exact Or.inl ((hagree other hmem).mp hother)
            · exact hother
        · cases h
  · rintro ⟨rfl, hfinal, halone⟩
    have haccepted : checkFinalAcceptance transaction network receipt = .ok () :=
      checkFinalAcceptance_eq_ok_iff.mpr hfinal
    obtain ⟨before, x, after, hevents, hx, hothers⟩ := halone
    have hcandidates : Alone (FitsTemplate templateAddress topic expected)
        (fun event ↦ event.topic = topic ∨ event.hasKey digestKey = true)
        receipt.eventProofsV2 :=
      ⟨before, x, after, hevents, hx, fun other hother h ↦ hothers other hother (Or.inr h)⟩
    rw [alone_iff_filter fun event hfits ↦ Or.inl hfits.2.1] at hcandidates
    obtain ⟨event, hfilter, htemplate, htopic, hmetadata⟩ := hcandidates
    have hagree : ∀ other ∈ receipt.eventProofsV2,
        other.templateAddress = templateAddress ↔ other.topic = topic := by
      intro other hother
      rw [hevents, List.mem_append, List.mem_cons] at hother
      have hcases : other = x ∨ other ∈ before ++ after := by
        rw [List.mem_append]
        tauto
      rcases hcases with rfl | hother
      · exact iff_of_true hx.1 hx.2.1
      · exact iff_of_false (fun h ↦ hothers other hother (Or.inl h))
          fun h ↦ hothers other hother (Or.inr (Or.inl h))
    have hloop : collectCandidates templateAddress topic digestKey receipt.eventProofsV2 =
        .ok [event] := collectCandidates_eq_ok_iff.mpr ⟨hagree, hfilter.symm⟩
    rw [verifyEventReceipt, haccepted, hloop]
    simp [bind, Except.bind, pure, Except.pure, htemplate, htopic,
      (hcheck _).mpr hmetadata]

end Events

/-! ### Metadata -/

/-- A version-one event has the digest and nothing else. -/
theorem checkMetadataV39_eq_ok_iff {payload : AnchorEventPayloadV2}
    {metadata : List (Text × Text)} :
    checkMetadataV39 payload metadata = .ok () ↔
      metadata.Perm [(anchorEventDigestKeyV1, payload.digestHex)] := by
  rw [List.perm_singleton]
  constructor
  · intro h
    unfold checkMetadataV39 at h
    split at h
    · next key digest =>
      split at h
      · cases h
      next hkey =>
      split at h
      · cases h
      next hdigest =>
      rw [of_not_not hkey, of_not_not hdigest]
    · cases h
  · rintro rfl
    rw [checkMetadataV39, if_neg (not_not_intro rfl), if_neg (not_not_intro rfl)]

private theorem checkEntryV2_eq_ok_iff {metadata : List (Text × Text)} {expected : Text × Text} :
    checkEntryV2 metadata expected = .ok () ↔
      metadata.filter (fun entry ↦ decide (entry.1 = expected.1)) = [expected] := by
  unfold checkEntryV2
  by_cases honce : (metadata.filter fun entry ↦ decide (entry.1 = expected.1)).length = 1
  · obtain ⟨entry, hentry⟩ := List.length_eq_one_iff.mp honce
    have hany : (metadata.any fun entry ↦ decide (entry.1 = expected.1) &&
        decide (entry.2 = expected.2)) = true ↔ expected ∈ metadata := by
      simp only [List.any_eq_true, Bool.and_eq_true, decide_eq_true_eq]
      constructor
      · rintro ⟨entry, hmem, hkey, hvalue⟩
        rwa [← Prod.ext hkey hvalue]
      · intro hmem
        exact ⟨expected, hmem, rfl, rfl⟩
    have hmem : expected ∈ metadata ↔ expected = entry := by
      rw [← List.mem_singleton, ← hentry, List.mem_filter, decide_eq_true_eq]
      exact (and_iff_left rfl).symm
    rw [if_neg (not_not_intro honce), hentry]
    cases hfound : metadata.any fun entry ↦ decide (entry.1 = expected.1) &&
        decide (entry.2 = expected.2) with
    | false =>
      have hne : entry ≠ expected := by
        intro heq
        rw [hany.mpr (hmem.mpr heq.symm)] at hfound
        cases hfound
      rw [if_pos (by rfl)]
      constructor
      · intro h
        split at h
        · cases h
        · cases h
      · intro h
        exact absurd (List.singleton_inj.mp h) hne
    | true =>
      rw [if_neg (by decide), hmem.mp (hany.mp hfound)]
      exact iff_of_true rfl rfl
  · rw [if_pos honce]
    constructor
    · nofun
    · intro h
      rw [h] at honce
      exact absurd rfl honce

theorem nodup_keys_expectedMetadataV2 (payload : AnchorEventPayloadV3) :
    ((expectedMetadataV2 payload).map Prod.fst).Nodup := by
  show [anchorEventDigestKeyV2, anchorEventNetworkKeyV2, anchorEventElectionIdKeyV2,
    anchorEventPublicSummaryKeyV2].Nodup
  decide

/-- A version-two event has the four entries in any order and nothing else. -/
theorem checkMetadataV2_eq_ok_iff {payload : AnchorEventPayloadV3}
    {metadata : List (Text × Text)} :
    checkMetadataV2 payload metadata = .ok () ↔ metadata.Perm (expectedMetadataV2 payload) := by
  have hkeys := nodup_keys_expectedMetadataV2 payload
  have hlen : (expectedMetadataV2 payload).length = 4 := rfl
  unfold checkMetadataV2
  constructor
  · intro h
    split at h
    · cases h
    next hfour =>
    rw [Protocol.forM_eq_ok] at h
    have hsubset : expectedMetadataV2 payload ⊆ metadata := by
      intro entry hentry
      have hin : entry ∈ metadata.filter fun other ↦ decide (other.1 = entry.1) := by
        rw [checkEntryV2_eq_ok_iff.mp (h entry hentry)]
        exact List.mem_singleton_self entry
      exact List.mem_of_mem_filter hin
    have hsubperm := hkeys.of_map.subperm hsubset
    exact (hsubperm.perm_of_length_le (by omega)).symm
  · intro hperm
    rw [if_neg (not_not_intro (hperm.length_eq.trans hlen)), Protocol.forM_eq_ok]
    intro entry hentry
    rw [checkEntryV2_eq_ok_iff]
    have hfilter := hperm.filter fun other ↦ decide (other.1 = entry.1)
    rw [filter_key_eq_singleton hkeys hentry] at hfilter
    exact List.perm_singleton.mp hfilter

/-! ### The three verifications -/

section Verifications

theorem verifyV39EventReceipt_eq_ok_iff {template : AnchorTemplateBindingV1}
    {payload : AnchorEventPayloadV2} {evidence : VerifiedAnchorEvidence} :
    verifyV39EventReceipt transaction network template payload receipt = .ok evidence ↔
      evidence = receipt.evidence payload.digest ∧ FullyAccepted transaction network receipt ∧
        Alone (FitsTemplate template.templateAddress template.fullEventTopic
            [(anchorEventDigestKeyV1, payload.digestHex)])
          (Concerns template.templateAddress template.fullEventTopic anchorEventDigestKeyV1)
          receipt.eventProofsV2 :=
  verifyEventReceipt_eq_ok_iff fun _ ↦ checkMetadataV39_eq_ok_iff

theorem verifyV2EventReceipt_eq_ok_iff {template : AnchorTemplateBindingV2}
    {payload : AnchorEventPayloadV3} {evidence : VerifiedAnchorEvidence} :
    verifyV2EventReceipt transaction network template payload receipt = .ok evidence ↔
      evidence = receipt.evidence payload.digest ∧ FullyAccepted transaction network receipt ∧
        Alone (FitsTemplate template.templateAddress canonicalReceiptEventTopicV2
            (expectedMetadataV2 payload))
          (Concerns template.templateAddress canonicalReceiptEventTopicV2 anchorEventDigestKeyV2)
          receipt.eventProofsV2 :=
  verifyEventReceipt_eq_ok_iff fun _ ↦ checkMetadataV2_eq_ok_iff

/-- A verification that gives the receipt's own evidence succeeds exactly under its condition. -/
private theorem isOk_iff {result : ReceiptResult VerifiedAnchorEvidence}
    {expected : VerifiedAnchorEvidence} {condition : Prop}
    (h : ∀ evidence, result = .ok evidence ↔ evidence = expected ∧ condition) :
    result.isOk = true ↔ condition := by
  constructor
  · intro hok
    cases result with
    | error e => cases hok
    | ok evidence => exact ((h evidence).mp rfl).2
  · intro hcondition
    rw [(h expected).mpr ⟨rfl, hcondition⟩]
    rfl

end Verifications

/-! ### Order -/

/-- The same event with its metadata in another order. -/
def SameEvent (event other : AnchorEventProofV2) : Prop :=
  ∃ metadata, event.metadata.Perm metadata ∧ other = { event with metadata }

/-- The same receipt with its logs, its events and their metadata in another order. -/
structure Rearranged (receipt other : AnchorReceiptV1) : Prop where
  transactionId : receipt.transactionId = other.transactionId
  network : receipt.network = other.network
  finalStatus : receipt.finalStatus = other.finalStatus
  logs : receipt.logs.Perm other.logs
  events : ∃ events, receipt.eventProofsV2.Perm events ∧
    List.Forall₂ SameEvent events other.eventProofsV2

theorem SameEvent.symm {event other : AnchorEventProofV2} (h : SameEvent event other) :
    SameEvent other event := by
  obtain ⟨metadata, hperm, rfl⟩ := h
  exact ⟨event.metadata, hperm.symm, rfl⟩

variable {other : AnchorReceiptV1}

theorem Rearranged.fullyAccepted_iff (h : Rearranged receipt other) :
    FullyAccepted transaction network receipt ↔ FullyAccepted transaction network other := by
  constructor
  · rintro ⟨htransaction, hnetwork, hstatus⟩
    exact ⟨h.transactionId ▸ htransaction, h.network ▸ hnetwork, h.finalStatus ▸ hstatus⟩
  · rintro ⟨htransaction, hnetwork, hstatus⟩
    exact ⟨h.transactionId ▸ htransaction, h.network ▸ hnetwork, h.finalStatus ▸ hstatus⟩

/-- Whether one event fits and no other concerns the template does not depend on any order. -/
theorem Rearranged.alone_iff (h : Rearranged receipt other) {templateAddress topic digestKey : Text}
    {expected : List (Text × Text)} :
    Alone (FitsTemplate templateAddress topic expected)
        (Concerns templateAddress topic digestKey) receipt.eventProofsV2 ↔
      Alone (FitsTemplate templateAddress topic expected)
        (Concerns templateAddress topic digestKey) other.eventProofsV2 := by
  have hfits : ∀ event event' : AnchorEventProofV2, SameEvent event event' →
      FitsTemplate templateAddress topic expected event →
      FitsTemplate templateAddress topic expected event' := by
    rintro event _ ⟨metadata, hperm, rfl⟩ ⟨htemplate, htopic, hmetadata⟩
    exact ⟨htemplate, htopic, hperm.symm.trans hmetadata⟩
  have hconcerns : ∀ event event' : AnchorEventProofV2, SameEvent event event' →
      Concerns templateAddress topic digestKey event' →
      Concerns templateAddress topic digestKey event := by
    rintro event _ ⟨metadata, hperm, rfl⟩ (htemplate | htopic | hkey)
    · exact Or.inl htemplate
    · exact Or.inr (Or.inl htopic)
    · refine Or.inr (Or.inr ?_)
      rw [AnchorEventProofV2.hasKey, List.any_eq_true] at hkey ⊢
      obtain ⟨entry, hentry, heq⟩ := hkey
      exact ⟨entry, hperm.symm.subset hentry, heq⟩
  obtain ⟨events, hperm, hsame⟩ := h.events
  rw [alone_congr_perm hperm]
  constructor
  · intro halone
    exact halone.replace hfits hconcerns hsame
  · intro halone
    apply halone.replace (R := flip SameEvent) _ _ hsame.flip
    · exact fun event event' hrel ↦ hfits event event' hrel.symm
    · exact fun event event' hrel ↦ hconcerns event event' hrel.symm

/-! ### The report -/

/-- The event that a report stores is the one that fits. -/
theorem eventProof_of_verified {query : AnchorReceiptQueryV1}
    {addressEvidence : AnchorReceiptAddressEvidenceV1} {template : AnchorTemplateBindingV1}
    {verified : VerifiedIndexerAnchorV1} (htemplate : query.templateBinding = some template)
    (h : (finalizedReport query addressEvidence receipt).verified = some verified) :
    ∃ before event after, receipt.eventProofsV2 = before ++ event :: after ∧
      verified.eventProof = some event ∧
      FitsTemplate template.templateAddress template.fullEventTopic
        [(anchorEventDigestKeyV1, Hex.text query.anchorDigest.toBytes)] event ∧
      ∀ other ∈ before ++ after, ¬ Concerns template.templateAddress template.fullEventTopic
        anchorEventDigestKeyV1 other := by
  unfold finalizedReport at h
  rw [htemplate] at h
  dsimp only at h
  cases hresult : verifyV39EventReceipt query.transactionId query.network template
    ⟨query.anchorDigest⟩ receipt with
  | error e =>
    rw [hresult] at h
    cases e <;> cases h
  | ok evidence =>
    rw [hresult] at h
    cases h
    obtain ⟨-, -, before, event, after, hevents, hfits, hothers⟩ :=
      verifyV39EventReceipt_eq_ok_iff.mp hresult
    refine ⟨before, event, after, hevents, ?_, hfits, hothers⟩
    have hbefore : before.find? (fun event ↦
        decide (event.templateAddress = template.templateAddress) &&
          decide (event.topic = template.fullEventTopic)) = none := by
      rw [List.find?_eq_none]
      intro other hother hmatch
      rw [Bool.and_eq_true, decide_eq_true_eq] at hmatch
      exact hothers other (List.mem_append_left _ hother) (Or.inl hmatch.1)
    have hevent : (decide (event.templateAddress = template.templateAddress) &&
        decide (event.topic = template.fullEventTopic)) = true := by
      rw [Bool.and_eq_true, decide_eq_true_eq, decide_eq_true_eq]
      exact ⟨hfits.1, hfits.2.1⟩
    rw [Option.bind_some, hevents, List.find?_append, hbefore, Option.none_or]
    show (event :: after).find? (fun event ↦
      decide (event.templateAddress = template.templateAddress) &&
        decide (event.topic = template.fullEventTopic)) = some event
    exact List.find?_cons_of_pos hevent

/-- Receipt verification is exact and order-free. The log verification accepts exactly the fully
accepted receipts in which one log line is a candidate, parses and carries the expected digest,
while no other is a candidate; the parser takes nothing but the encoding of a payload. Each event
verification accepts exactly the fully accepted receipts in which one event has the template, the
topic and the expected metadata, while no other has the template, the topic or the digest key. None
of these verdicts depends on the order of logs, events or metadata, and the event stored in the
report of an accepted receipt is the one that fits. -/
theorem receiptVerification_exact :
    (∀ transaction network payload receipt,
      (verifyAnchorReceipt transaction network payload receipt).isOk = true ↔
        FullyAccepted transaction network receipt ∧ Alone (CarriesPayload payload)
          (fun entry ↦ entry.isCandidate = true) receipt.logs) ∧
      (∀ input payload,
        AnchorLogPayloadV1.parse input = .ok payload ↔ input.toBytes = payload.encoded) ∧
      (∀ transaction network (template : AnchorTemplateBindingV1) payload receipt,
        (verifyV39EventReceipt transaction network template payload receipt).isOk = true ↔
          FullyAccepted transaction network receipt ∧
            Alone (FitsTemplate template.templateAddress template.fullEventTopic
                [(anchorEventDigestKeyV1, payload.digestHex)])
              (Concerns template.templateAddress template.fullEventTopic anchorEventDigestKeyV1)
              receipt.eventProofsV2) ∧
      (∀ transaction network (template : AnchorTemplateBindingV2) payload receipt,
        (verifyV2EventReceipt transaction network template payload receipt).isOk = true ↔
          FullyAccepted transaction network receipt ∧
            Alone (FitsTemplate template.templateAddress canonicalReceiptEventTopicV2
                (expectedMetadataV2 payload))
              (Concerns template.templateAddress canonicalReceiptEventTopicV2
                anchorEventDigestKeyV2)
              receipt.eventProofsV2) ∧
      (∀ receipt other, Rearranged receipt other → ∀ transaction network,
        (∀ payload, (verifyAnchorReceipt transaction network payload receipt).isOk =
          (verifyAnchorReceipt transaction network payload other).isOk) ∧
        (∀ template payload,
          (verifyV39EventReceipt transaction network template payload receipt).isOk =
            (verifyV39EventReceipt transaction network template payload other).isOk) ∧
        ∀ template payload,
          (verifyV2EventReceipt transaction network template payload receipt).isOk =
            (verifyV2EventReceipt transaction network template payload other).isOk) ∧
      (∀ query addressEvidence receipt template verified,
        query.templateBinding = some template →
        (finalizedReport query addressEvidence receipt).verified = some verified →
        ∃ before event after, receipt.eventProofsV2 = before ++ event :: after ∧
          verified.eventProof = some event ∧
          FitsTemplate template.templateAddress template.fullEventTopic
            [(anchorEventDigestKeyV1, Hex.text query.anchorDigest.toBytes)] event ∧
          ∀ other ∈ before ++ after, ¬ Concerns template.templateAddress template.fullEventTopic
            anchorEventDigestKeyV1 other) := by
  have hlog : ∀ transaction network payload receipt,
      (verifyAnchorReceipt transaction network payload receipt).isOk = true ↔
        FullyAccepted transaction network receipt ∧ Alone (CarriesPayload payload)
          (fun entry ↦ entry.isCandidate = true) receipt.logs :=
    fun _ _ _ _ ↦ isOk_iff fun _ ↦ verifyAnchorReceipt_eq_ok_iff
  refine ⟨hlog, fun _ _ ↦ AnchorLogPayloadV1.parse_eq_ok_iff, ?_, ?_, ?_, ?_⟩
  · intro transaction network template payload receipt
    exact isOk_iff fun _ ↦ verifyV39EventReceipt_eq_ok_iff
  · intro transaction network template payload receipt
    exact isOk_iff fun _ ↦ verifyV2EventReceipt_eq_ok_iff
  · intro receipt other h transaction network
    refine ⟨?_, ?_, ?_⟩
    · intro payload
      rw [Bool.eq_iff_iff, hlog, hlog, h.fullyAccepted_iff, alone_congr_perm h.logs]
    · intro template payload
      rw [Bool.eq_iff_iff, isOk_iff fun _ ↦ verifyV39EventReceipt_eq_ok_iff,
        isOk_iff fun _ ↦ verifyV39EventReceipt_eq_ok_iff, h.fullyAccepted_iff, h.alone_iff]
    · intro template payload
      rw [Bool.eq_iff_iff, isOk_iff fun _ ↦ verifyV2EventReceipt_eq_ok_iff,
        isOk_iff fun _ ↦ verifyV2EventReceipt_eq_ok_iff, h.fullyAccepted_iff, h.alone_iff]
  · intro query addressEvidence receipt template verified htemplate h
    exact eventProof_of_verified htemplate h

namespace Sample

def template : AnchorTemplateBindingV1 :=
  ⟨.lit "template_1", .lit "ballot.TARI_CC_PRIVATE_BALLOT_OOTLE_ANCHOR_V1"⟩

/-- The anchor event of the digest `7…7`. -/
def anchorEvent : AnchorEventProofV2 where
  templateAddress := template.templateAddress
  topic := template.fullEventTopic
  metadata := [(anchorEventDigestKeyV1, Hex.text (Bytes32.replicate 7).toBytes)]
  eventIndex := 1
  receiptEpoch := 9
  intentCommitment := default

/-- An event of another template. -/
def feeEvent : AnchorEventProofV2 where
  templateAddress := .lit "template_2"
  topic := .lit "fee.paid"
  metadata := [(.lit "amount", .lit "1"), (.lit "payer", .lit "a")]
  eventIndex := 0
  receiptEpoch := 9
  intentCommitment := default

/-- A fully accepted receipt with both events. -/
def acceptedReceipt : AnchorReceiptV1 where
  transactionId := .lit "tx"
  network := .lit "net"
  finalStatus := .accepted
  logs := []
  rejectionReason := none
  ledgerPosition := none
  source := .independentIndexer
  eventProofsV2 := [feeEvent, anchorEvent]

/-- The same receipt with the events and the metadata of one of them the other way round. -/
def rearranged : AnchorReceiptV1 := { acceptedReceipt with
  eventProofsV2 := [anchorEvent, { feeEvent with metadata := feeEvent.metadata.reverse }] }

def query : AnchorReceiptQueryV1 :=
  ⟨.lit "tx", .lit "net", Bytes32.replicate 7, ⟨Bytes32.replicate 7⟩, some template⟩

def addressEvidence : AnchorReceiptAddressEvidenceV1 :=
  ⟨default, default, default, default, default⟩

end Sample

/-- The sample receipt is accepted in both orders, and its report has the anchor event. -/
theorem receiptVerification_exact_sample :
    (verifyV39EventReceipt (.lit "tx") (.lit "net") Sample.template ⟨Bytes32.replicate 7⟩
        Sample.rearranged).isOk = true ∧
      (finalizedReport Sample.query Sample.addressEvidence Sample.acceptedReceipt).verified.bind
        VerifiedIndexerAnchorV1.eventProof = some Sample.anchorEvent := by
  have hrearranged : Rearranged Sample.acceptedReceipt Sample.rearranged :=
    { transactionId := rfl
      network := rfl
      finalStatus := rfl
      logs := .nil
      events := by
        refine ⟨[Sample.anchorEvent, Sample.feeEvent], .swap _ _ _, ?_⟩
        have hfee := (List.reverse_perm Sample.feeEvent.metadata).symm
        exact .cons ⟨_, .refl _, rfl⟩ (.cons ⟨_, hfee, rfl⟩ .nil) }
  have hok : (verifyV39EventReceipt (.lit "tx") (.lit "net") Sample.template
      ⟨Bytes32.replicate 7⟩ Sample.acceptedReceipt).isOk = true := by decide
  have hsome : (finalizedReport Sample.query Sample.addressEvidence
      Sample.acceptedReceipt).verified.isSome = true := by decide
  obtain ⟨verified, hverified⟩ := Option.isSome_iff_exists.mp hsome
  have hsame := (receiptVerification_exact.2.2.2.2.1 _ _ hrearranged (.lit "tx") (.lit "net")).2.1
    Sample.template ⟨Bytes32.replicate 7⟩
  obtain ⟨before, event, after, hevents, hproof, hfits, -⟩ :=
    receiptVerification_exact.2.2.2.2.2 Sample.query Sample.addressEvidence Sample.acceptedReceipt
      Sample.template verified rfl hverified
  refine ⟨hsame ▸ hok, ?_⟩
  have hmem : event ∈ [Sample.feeEvent, Sample.anchorEvent] := by
    show event ∈ Sample.acceptedReceipt.eventProofsV2
    rw [hevents]
    exact List.mem_append_right _ List.mem_cons_self
  have hevent : event = Sample.anchorEvent := by
    rcases List.mem_cons.mp hmem with rfl | hmem
    · exact absurd hfits.1 (by decide)
    · exact List.mem_singleton.mp hmem
  rw [hverified, Option.bind_some, hproof, hevent]

end PrivateBallot.OotleAnchor
