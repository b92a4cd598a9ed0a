import PrivateBallot.OotleAnchor.CanonicalJsonText
import PrivateBallot.OotleAnchor.PublicPayload

/-!
# One text for one summary

Library `OotleAnchor`. The encoder writes one object with a fixed list of members; the decoder
takes it back field by field, and never faults.
-/

namespace PrivateBallot.OotleAnchor

open PrivateBallot.Base PrivateBallot.Protocol Cursor CanonicalJsonWriter CanonicalJsonParser

/-! ### The text of a payload -/

/-- One element of `results`. -/
def entryMembers (entry : OotleAnchorTallyEntryV2) : List Bytes :=
  [stringMember (.lit "label") entry.displayLabel,
    stringMember (.lit "machine_id") (Hex.text entry.machineId),
    numberMember (.lit "votes") entry.count]

def entryText (entry : OotleAnchorTallyEntryV2) : Bytes := bracketed 0x7b 0x7d (entryMembers entry)

namespace OotleAnchorPublicPayloadV2

theorem writeEntry_eq (writer : CanonicalJsonWriter) (entry : OotleAnchorTallyEntryV2) :
    writeEntry writer entry = writer.add (entryText entry) := by
  rw [writeEntry, beginObjectElement, fieldString_eq, fieldLowerHex_eq, fieldU64_eq]
  exact endObject_addAll writer (entryMembers entry)

/-- The members, in the order of the source. -/
def members (payload : OotleAnchorPublicPayloadV2) (electionIdStr : Text) : List Bytes :=
  [stringMember (.lit "schema") ootleAnchorPublicPayloadTypeIdV2,
    numberMember (.lit "version") ootleAnchorPublicPayloadSchemaVersionV2,
    stringMember (.lit "network") payload.network.asStr,
    stringMember (.lit "election_id") electionIdStr,
    stringMember (.lit "question") payload.ballotQuestion,
    numberMember (.lit "eligible_voters") payload.eligibleVoterCount,
    numberMember (.lit "accepted_ballots") payload.acceptedBallotCount,
    numberMember (.lit "rejected_ballots") payload.rejectedBallotCount,
    keyed (.lit "results") ++ bracketed 0x5b 0x5d (payload.tally.map entryText),
    stringMember (.lit "ballot_kind") payload.ballotKind,
    stringMember (.lit "confidentiality_mode") payload.confidentialityMode,
    stringMember (.lit "proof_suite") payload.proofSuite,
    stringMember (.lit "manifest_hash") (Hex.text payload.manifestHash.toBytes),
    stringMember (.lit "archive_hash") (Hex.text payload.archiveHash.toBytes),
    stringMember (.lit "voter_registry_commitment") (Hex.text payload.registryCommitment.toBytes),
    stringMember (.lit "ballot_option_commitment") (Hex.text payload.optionSetCommitment.toBytes),
    keyed (.lit "archive_finalized") ++ boolWord payload.archiveFinalized,
    keyed (.lit "finalized_timestamp_unix_secs") ++ optWord payload.finalizedTimestampUnixSecs,
    stringMember (.lit "template_address") payload.template.templateAddress,
    stringMember (.lit "template_module") payload.template.templateModule,
    stringMember (.lit "template_function") payload.template.templateFunction,
    stringMember (.lit "template_event_topic") payload.template.eventTopic,
    stringMember (.lit "template_artifact_digest")
      (Hex.text payload.template.artifactDigest.toBytes)]

private theorem foldl_writeEntry (writer : CanonicalJsonWriter)
    (tally : List OotleAnchorTallyEntryV2) :
    tally.foldl writeEntry writer = addAll writer (tally.map entryText) := by
  have hentry : writeEntry = fun writer entry ↦ writer.add (entryText entry) := by
    funext writer entry
    exact writeEntry_eq writer entry
  rw [hentry, addAll, List.foldl_map]

/-- The writer's bytes are one object. -/
theorem bytes_write (payload : OotleAnchorPublicPayloadV2) (electionIdStr : Text) :
    (payload.write electionIdStr).bytes =
      bracketed 0x7b 0x7d (payload.members electionIdStr) := by
  have hwrite : payload.write electionIdStr =
      (addAll CanonicalJsonWriter.new.beginObject (payload.members electionIdStr)).endObject := by
    simp only [write, fieldString_eq, fieldU64_eq, fieldLowerHex_eq, fieldBool_eq, fieldOptU64_eq,
      foldl_writeEntry, endArray_addAll]
    rfl
  rw [hwrite, endObject_addAll]
  rfl

end OotleAnchorPublicPayloadV2

/-! ### The parser on this text -/

variable {P : Bytes → Prop}

/-- Digits are read back. -/
theorem decodeLowerHex_text (bytes : Bytes) : decodeLowerHex (Hex.text bytes) = .ok bytes := by
  have hlen : (Hex.text bytes).len = 2 * bytes.length := Hex.length_encode bytes
  rw [decodeLowerHex, hlen, if_neg (by omega)]
  simp only [Hex.text, Hex.decode_encode]

theorem decodeLowerHex32_text (bytes : Bytes32) :
    decodeLowerHex32 (Hex.text bytes.toBytes) = .ok bytes := by
  simp only [decodeLowerHex32, decodeLowerHex_text, bind, Except.bind, Bytes32.ofBytes?_toBytes]
  rfl

/-- The comma in front of an element that is not the first. -/
private def separated (first : Bool) (x : Bytes) : Bytes := (if first then [] else [0x2c]) ++ x

private theorem takes_separator (first : Bool) :
    Takes P (consumeSeparator first) (separated first []) () := by
  cases first with
  | true => exact Takes.pure ()
  | false => exact takes_consumeByte 0x2c

/-- One element is taken back. -/
private theorem takes_resultsTurn {tally : List OotleAnchorTallyEntryV2}
    (hlen : tally.length < maxTallyEntriesV2) (first : Bool) (entry : OotleAnchorTallyEntryV2) :
    Takes P (resultsTurn (tally, first)) (separated first (entryText entry))
      (.inl (tally ++ [entry], false)) := by
  have hopening : ∃ b, b ≠ 0x5d ∧ ∀ rest : Bytes,
      (separated first (entryText entry) ++ rest).head? = some b := by
    cases first with
    | true => exact ⟨0x7b, by decide, fun _ ↦ rfl⟩
    | false => exact ⟨0x2c, by decide, fun _ ↦ rfl⟩
  obtain ⟨b, hb, hhead⟩ := hopening
  have hmax : ¬ maxTallyEntriesV2 < (tally ++ [entry]).length := by
    rw [List.length_append, List.length_singleton]
    omega
  have htext : separated first (entryText entry) = separated first [] ++ ([0x7b] ++
      ([0x2c].intercalate (entryMembers entry) ++ [0x7d])) := by
    rw [separated, separated, List.append_nil]
    rfl
  refine Takes.bind (x := []) (y := separated first (entryText entry)) (takes_peekByte b) ?_
    fun rest _ ↦ hhead rest
  rw [if_neg hb, htext]
  refine Takes.andThen (takes_separator first) (Takes.andThen (takes_consumeByte 0x7b) ?_)
  refine takes_comma (takes_expectStringField _) ?_
  refine takes_comma (takes_expectStringField _) ?_
  refine takes_last (takes_expectU64Field _) (Takes.andThen (y := []) (takes_consumeByte 0x7d) ?_)
  refine Takes.andThen (x := []) (Takes.lift (decodeLowerHex_text _)) ?_
  simp only [if_neg hmax]
  exact Takes.pure _

/-- The elements of the results up to the closing bracket, which stays. -/
private theorem takes_resultsLoop (entries : List OotleAnchorTallyEntryV2) :
    ∀ tally : List OotleAnchorTallyEntryV2,
      tally.length + entries.length ≤ maxTallyEntriesV2 → ∀ first : Bool,
        Takes (·.head? = some 0x5d) (repeatUntil resultsTurn (tally, first))
          (if first then [0x2c].intercalate (entries.map entryText)
            else (entries.map entryText).flatMap fun x ↦ [0x2c] ++ x) (tally ++ entries) := by
  induction entries with
  | nil =>
    intro tally _ first
    have hstop : Takes (·.head? = some 0x5d) (repeatUntil resultsTurn (tally, first)) [] tally :=
      Takes.stop (Takes.bind (x := []) (y := []) (takes_peekByte 0x5d)
        (Takes.pure (Sum.inr tally)) fun _ hrest ↦ hrest)
    rw [List.append_nil]
    cases first <;> exact hstop
  | cons entry entries ih =>
    intro tally hlen first
    rw [List.length_cons] at hlen
    have hlength : (tally ++ [entry]).length + entries.length ≤ maxTallyEntriesV2 := by
      rw [List.length_append, List.length_singleton]
      omega
    have hrest := ih (tally ++ [entry]) hlength false
    rw [if_neg Bool.false_ne_true, List.append_assoc, List.singleton_append] at hrest
    have htext : (if first then [0x2c].intercalate ((entry :: entries).map entryText)
        else ((entry :: entries).map entryText).flatMap fun x ↦ [0x2c] ++ x) =
        separated first (entryText entry) ++
          (entries.map entryText).flatMap fun x ↦ [0x2c] ++ x := by
      cases first with
      | true => exact intercalate_cons _ _
      | false => rfl
    rw [htext]
    refine Takes.turn (Q := fun _ ↦ True) (takes_resultsTurn (by omega) first entry) ?_ hrest
      fun _ _ ↦ trivial
    cases first <;> exact List.cons_ne_nil _ _

theorem takes_results {entries : List OotleAnchorTallyEntryV2}
    (hlen : entries.length ≤ maxTallyEntriesV2) :
    Takes (·.head? = some 0x5d) (repeatUntil resultsTurn ([], true))
      ([0x2c].intercalate (entries.map entryText)) entries :=
  takes_resultsLoop entries [] (by rw [List.length_nil]; omega) true

theorem OotleNetworkIdV1.new_asStr (network : OotleNetworkIdV1) :
    OotleNetworkIdV1.new network.asStr = .ok network := by
  have hchecked := network.checked
  rw [OotleNetworkIdV1.new]
  split
  · rfl
  · next e he => rw [hchecked] at he; cases he

/-- The parser takes the whole text of a payload back. -/
theorem takes_parsePayload {payload : OotleAnchorPublicPayloadV2} {electionIdStr : Text}
    (helection : electionIdStr.toBytes = payload.electionId)
    (htally : payload.tally.length ≤ maxTallyEntriesV2) :
    Takes (· = []) parsePayload (bracketed 0x7b 0x7d (payload.members electionIdStr)) payload := by
  refine Takes.andThen (takes_consumeByte 0x7b) ?_
  refine takes_checked_comma (takes_expectStringField _) (c := ()) rfl ?_
  refine takes_checked_comma (takes_expectU64Field _) (c := ()) rfl ?_
  refine takes_checked_comma (takes_expectStringField _) payload.network.new_asStr ?_
  refine takes_comma (takes_expectStringField _) ?_
  refine takes_comma (takes_expectStringField _) ?_
  refine takes_comma (takes_expectU64Field _) ?_
  refine takes_comma (takes_expectU64Field _) ?_
  refine takes_comma (takes_expectU64Field _) ?_
  refine takes_array (takes_results htally) ?_
  refine takes_comma (takes_expectStringField _) ?_
  refine takes_comma (takes_expectStringField _) ?_
  refine takes_comma (takes_expectStringField _) ?_
  refine takes_checked_comma (takes_expectStringField _) (decodeLowerHex32_text _) ?_
  refine takes_checked_comma (takes_expectStringField _) (decodeLowerHex32_text _) ?_
  refine takes_checked_comma (takes_expectStringField _) (decodeLowerHex32_text _) ?_
  refine takes_checked_comma (takes_expectStringField _) (decodeLowerHex32_text _) ?_
  refine takes_comma (takes_expectBoolField _) ?_
  refine takes_comma (takes_expectOptU64Field _) ?_
  refine takes_comma (takes_expectStringField _) ?_
  refine takes_comma (takes_expectStringField _) ?_
  refine takes_comma (takes_expectStringField _) ?_
  refine takes_comma (takes_expectStringField _) ?_
  refine takes_last (takes_expectStringField _) ?_
  refine Takes.andThen (x := []) (y := [0x7d]) (Takes.lift (decodeLowerHex32_text _)) ?_
  refine Takes.andThen (y := []) (takes_consumeByte 0x7d) ?_
  refine Takes.bind (x := []) (y := []) takes_expectEof ?_ fun _ hrest ↦ hrest
  rw [helection]
  exact Takes.pure payload

/-- A turn that goes on has taken an element. -/
private theorem advances_resultsTurn (state : List OotleAnchorTallyEntryV2 × Bool) :
    Advances (Sum.elim (fun _ ↦ 1) fun _ ↦ 0) (resultsTurn state) := by
  obtain ⟨tally, first⟩ := state
  refine Advances.bind safe_peekByte fun next ↦ ?_
  split_ifs
  · exact Advances.pure rfl
  have hseparator : Safe (consumeSeparator first) := by
    cases first with
    | true => exact Advances.pure rfl
    | false => exact (advances_consumeByte 0x2c).safe
  refine Advances.bind hseparator fun _ ↦ ?_
  refine Advances.bind_of_moves (advances_consumeByte 0x7b) (fun _ ↦ ?_) fun r ↦ by
    cases r <;> simp
  refine safe_comma safe_expectStringField fun label ↦ ?_
  refine safe_comma safe_expectStringField fun machineIdHex ↦ ?_
  refine Advances.bind safe_expectU64Field fun votes ↦ ?_
  refine Advances.bind (advances_consumeByte 0x7d).safe fun _ ↦ ?_
  refine Advances.bind (Advances.lift _) fun machineId ↦ ?_
  simp only
  split_ifs
  · exact Advances.refuse _
  · exact Advances.pure rfl

/-- The parser ends on all bytes and does not fault. -/
theorem safe_parsePayload : Safe parsePayload := by
  have hresults : IsKey (.lit "results") := by decide
  refine Advances.bind (advances_consumeByte 0x7b).safe fun _ ↦ ?_
  refine safe_checked_comma safe_expectStringField fun _ ↦ ?_
  refine safe_checked_comma safe_expectU64Field fun _ ↦ ?_
  refine safe_checked_comma safe_expectStringField fun network ↦ ?_
  refine safe_comma safe_expectStringField fun electionIdStr ↦ ?_
  refine safe_comma safe_expectStringField fun ballotQuestion ↦ ?_
  refine safe_comma safe_expectU64Field fun eligible ↦ ?_
  refine safe_comma safe_expectU64Field fun accepted ↦ ?_
  refine safe_comma safe_expectU64Field fun rejected ↦ ?_
  refine Advances.bind (safe_expectKey hresults.short) fun _ ↦ ?_
  refine Advances.bind (advances_consumeByte 0x5b).safe fun _ ↦ ?_
  refine Advances.bind (Advances.repeatUntil advances_resultsTurn _) fun tally ↦ ?_
  refine safe_comma (advances_consumeByte 0x5d).safe fun _ ↦ ?_
  refine safe_comma safe_expectStringField fun ballotKind ↦ ?_
  refine safe_comma safe_expectStringField fun confidentialityMode ↦ ?_
  refine safe_comma safe_expectStringField fun proofSuite ↦ ?_
  refine safe_checked_comma safe_expectStringField fun manifestHash ↦ ?_
  refine safe_checked_comma safe_expectStringField fun archiveHash ↦ ?_
  refine safe_checked_comma safe_expectStringField fun registryCommitment ↦ ?_
  refine safe_checked_comma safe_expectStringField fun optionSetCommitment ↦ ?_
  refine safe_comma safe_expectBoolField fun archiveFinalized ↦ ?_
  refine safe_comma safe_expectOptU64Field fun timestamp ↦ ?_
  refine safe_comma safe_expectStringField fun templateAddress ↦ ?_
  refine safe_comma safe_expectStringField fun templateModule ↦ ?_
  refine safe_comma safe_expectStringField fun templateFunction ↦ ?_
  refine safe_comma safe_expectStringField fun templateEventTopic ↦ ?_
  refine Advances.bind safe_expectStringField fun artifactDigestHex ↦ ?_
  refine Advances.bind (Advances.lift _) fun artifactDigest ↦ ?_
  refine Advances.bind (advances_consumeByte 0x7d).safe fun _ ↦ ?_
  exact Advances.bind safe_expectEof fun _ ↦ Advances.pure rfl

/-! ### Encoder and decoder -/

namespace OotleAnchorPublicPayloadV2

private theorem orRefuse_eq_ok {ε α : Type} {x : Except ε α} {a : α} :
    orRefuse x = .ok a ↔ x = .ok a := by
  cases x with
  | error e => exact ⟨nofun, nofun⟩
  | ok b => exact ⟨fun h ↦ congrArg Except.ok (Except.ok.inj h), fun h ↦ by rw [h]; rfl⟩

/-- What the encoder returns, and when. -/
theorem toCanonicalJsonBytes_eq_ok {payload : OotleAnchorPublicPayloadV2} {encoded : Bytes} :
    payload.toCanonicalJsonBytes = .ok encoded ↔
      payload.validate = .ok () ∧ ∃ electionIdStr : Text,
        electionIdStr.toBytes = payload.electionId ∧
          encoded = bracketed 0x7b 0x7d (payload.members electionIdStr) ∧
            encoded.length ≤ maxOotleAnchorPublicPayloadBytesV2 := by
  unfold toCanonicalJsonBytes
  rw [bind_eq_ok]
  constructor
  · rintro ⟨_, hvalid, h⟩
    refine ⟨orRefuse_eq_ok.mp hvalid, ?_⟩
    cases htext : Text.ofBytes? payload.electionId with
    | none =>
      rw [htext] at h
      cases h
    | some electionIdStr =>
      simp only [htext] at h
      obtain ⟨_, hlimit, h⟩ := bind_eq_ok.mp h
      rw [orRefuse_eq_ok, refuseIf_eq_ok, decide_eq_false_iff_not] at hlimit
      cases h
      exact ⟨electionIdStr, Text.toBytes_of_ofBytes? htext, bytes_write payload electionIdStr,
        Nat.le_of_not_lt hlimit⟩
  · rintro ⟨hvalid, electionIdStr, helection, rfl, hlimit⟩
    refine ⟨(), orRefuse_eq_ok.mpr hvalid, ?_⟩
    have htext : Text.ofBytes? payload.electionId = some electionIdStr := by
      rw [← helection, Text.ofBytes?_toBytes]
    simp only [htext, bytes_write]
    refine bind_eq_ok.mpr ⟨(), ?_, rfl⟩
    rw [orRefuse_eq_ok, refuseIf_eq_ok, decide_eq_false_iff_not]
    exact Nat.not_lt.mpr hlimit

/-- The checks a valid payload passes on the number of rows. -/
theorem length_tally_le {payload : OotleAnchorPublicPayloadV2} (h : payload.validate = .ok ()) :
    payload.tally.length ≤ maxTallyEntriesV2 := by
  unfold validate at h
  obtain ⟨_, -, h⟩ := bind_eq_ok.mp h
  split at h
  · cases h
  obtain ⟨_, -, h⟩ := bind_eq_ok.mp h
  obtain ⟨_, -, h⟩ := bind_eq_ok.mp h
  obtain ⟨_, -, h⟩ := bind_eq_ok.mp h
  obtain ⟨_, -, h⟩ := bind_eq_ok.mp h
  obtain ⟨_, -, h⟩ := bind_eq_ok.mp h
  obtain ⟨_, htally, -⟩ := bind_eq_ok.mp h
  rw [refuseIf_eq_ok, decide_eq_false_iff_not] at htally
  exact Nat.le_of_not_lt htally

/-- The decoder takes back what the encoder returns. -/
theorem fromCanonicalJsonBytes_of_encoded {payload : OotleAnchorPublicPayloadV2} {encoded : Bytes}
    (h : payload.toCanonicalJsonBytes = .ok encoded) :
    fromCanonicalJsonBytes encoded = .ok payload := by
  obtain ⟨hvalid, electionIdStr, helection, htext, hlimit⟩ := toCanonicalJsonBytes_eq_ok.mp h
  have hparse : parseCanonicalJsonBytes encoded = .ok payload := by
    have htakes := takes_parsePayload helection (length_tally_le hvalid) [] []
    simp only [List.nil_append, List.append_nil, ← htext] at htakes
    have hshort : encoded.length < 2 ^ 63 := Nat.lt_of_le_of_lt hlimit (by decide)
    rw [parseCanonicalJsonBytes]
    exact congrArg (Except.map Prod.fst) (htakes hshort trivial)
  unfold fromCanonicalJsonBytes
  refine bind_eq_ok.mpr ⟨(), ?_, ?_⟩
  · rw [orRefuse_eq_ok, refuseIf_eq_ok, decide_eq_false_iff_not]
    exact Nat.not_lt.mpr hlimit
  refine bind_eq_ok.mpr ⟨payload, hparse, bind_eq_ok.mpr ⟨(), orRefuse_eq_ok.mpr hvalid, ?_⟩⟩
  refine bind_eq_ok.mpr ⟨encoded, h, ?_⟩
  rw [if_neg (not_not_intro rfl)]
  rfl

/-- Accepted bytes are the encoding of what they decode to. -/
theorem toCanonicalJsonBytes_of_decoded {payload : OotleAnchorPublicPayloadV2} {encoded : Bytes}
    (h : fromCanonicalJsonBytes encoded = .ok payload) :
    payload.toCanonicalJsonBytes = .ok encoded := by
  unfold fromCanonicalJsonBytes at h
  obtain ⟨_, -, h⟩ := bind_eq_ok.mp h
  obtain ⟨parsed, -, h⟩ := bind_eq_ok.mp h
  obtain ⟨_, -, h⟩ := bind_eq_ok.mp h
  obtain ⟨reEncoded, hre, h⟩ := bind_eq_ok.mp h
  by_cases hsame : reEncoded ≠ encoded
  · rw [if_pos hsame] at h
    cases h
  · rw [if_neg hsame] at h
    cases h
    rw [hre, not_not.mp hsame]

/-- No two payloads have the same encoding. -/
theorem eq_of_encoded {p q : OotleAnchorPublicPayloadV2} {encoded : Bytes}
    (hp : p.toCanonicalJsonBytes = .ok encoded) (hq : q.toCanonicalJsonBytes = .ok encoded) :
    p = q := by
  have h := (fromCanonicalJsonBytes_of_encoded hp).symm.trans (fromCanonicalJsonBytes_of_encoded hq)
  exact Except.ok.inj h

theorem canonicalDigest_eq_ok {provider : HashProvider} {payload : OotleAnchorPublicPayloadV2}
    {digest : Bytes32} (h : payload.canonicalDigest provider = .ok digest) :
    ∃ encoded, payload.toCanonicalJsonBytes = .ok encoded ∧
      provider.hash (v2DomainInput encoded) = digest := by
  unfold canonicalDigest at h
  obtain ⟨_, -, h⟩ := bind_eq_ok.mp h
  obtain ⟨encoded, hencoded, h⟩ := bind_eq_ok.mp h
  exact ⟨encoded, hencoded, Except.ok.inj h⟩

/-- The frame does not hide the bytes. -/
theorem v2DomainInput_inj {a b : Bytes} (h : v2DomainInput a = v2DomainInput b) : a = b := by
  unfold v2DomainInput at h
  have hframe := (List.cons.inj (List.append_cancel_left h)).2
  exact (List.cons.inj (List.append_cancel_left hframe)).2

/-- A result or an error, but no fault. -/
private def Ends {ε α : Type} (x : Except (Fault ε) α) : Prop :=
  (∃ a, x = .ok a) ∨ ∃ e, x = .error (.refused e)

private theorem ends_orRefuse {ε α : Type} (x : Except ε α) : Ends (orRefuse x) := by
  cases x with
  | error e => exact .inr ⟨e, rfl⟩
  | ok a => exact .inl ⟨a, rfl⟩

private theorem ends_bind {ε α β : Type} {x : Except (Fault ε) α} {f : α → Except (Fault ε) β}
    (hx : Ends x) (hf : ∀ a, x = .ok a → Ends (f a)) : Ends (x >>= f) := by
  rcases hx with ⟨a, ha⟩ | ⟨e, he⟩
  · rw [ha]
    exact hf a ha
  · rw [he]
    exact .inr ⟨e, rfl⟩

/-- The `expect` of the encoder does not fail: the check in front of it has read the same bytes. -/
private theorem ends_toCanonicalJsonBytes (payload : OotleAnchorPublicPayloadV2) :
    Ends payload.toCanonicalJsonBytes := by
  unfold toCanonicalJsonBytes
  refine ends_bind (ends_orRefuse _) fun _ hvalid ↦ ?_
  cases htext : Text.ofBytes? payload.electionId with
  | some electionIdStr => exact ends_bind (ends_orRefuse _) fun _ _ ↦ .inl ⟨_, rfl⟩
  | none =>
    have h := orRefuse_eq_ok.mp hvalid
    unfold validate at h
    obtain ⟨_, -, h⟩ := bind_eq_ok.mp h
    rw [htext] at h
    cases h

/-- The decoder returns or refuses. -/
theorem fromCanonicalJsonBytes_total (encoded : Bytes) :
    (∃ payload, fromCanonicalJsonBytes encoded = .ok payload) ∨
      ∃ e, fromCanonicalJsonBytes encoded = .error (.refused e) := by
  show Ends (fromCanonicalJsonBytes encoded)
  unfold fromCanonicalJsonBytes
  refine ends_bind (ends_orRefuse _) fun _ hlimit ↦ ?_
  rw [orRefuse_eq_ok, refuseIf_eq_ok, decide_eq_false_iff_not] at hlimit
  have hshort : encoded.length < 2 ^ 63 :=
    Nat.lt_of_le_of_lt (Nat.le_of_not_lt hlimit) (by decide)
  have hparse : Ends (parseCanonicalJsonBytes encoded) := by
    rw [parseCanonicalJsonBytes]
    rcases safe_parsePayload encoded 0 hshort (Nat.zero_le _) with
      ⟨e, he⟩ | ⟨payload, next, hpayload, -⟩
    · rw [he]
      exact .inr ⟨e, rfl⟩
    · rw [hpayload]
      exact .inl ⟨payload, rfl⟩
  refine ends_bind hparse fun payload _ ↦ ends_bind (ends_orRefuse _) fun _ _ ↦
    ends_bind (ends_toCanonicalJsonBytes payload) fun reEncoded _ ↦ ?_
  by_cases hsame : reEncoded ≠ encoded
  · rw [if_pos hsame]
    exact .inr ⟨_, rfl⟩
  · rw [if_neg hsame]
    exact .inl ⟨payload, rfl⟩

end OotleAnchorPublicPayloadV2

/-! ### Plain text -/

/-- Well-formed UTF-8 without control bytes. -/
structure IsPlain (x : Bytes) : Prop where
  noControl : ∀ b ∈ x, 0x20 ≤ b
  wellFormed : (Utf8.decode x).isSome

namespace IsPlain

theorem append {x y : Bytes} (hx : IsPlain x) (hy : IsPlain y) : IsPlain (x ++ y) where
  noControl b hb := (List.mem_append.mp hb).elim (hx.noControl b) (hy.noControl b)
  wellFormed := Utf8.isSome_decode_append hx.wellFormed hy.wellFormed

theorem of_ascii {x : Bytes} (h : ∀ b ∈ x, 0x20 ≤ b ∧ b < 0x80) : IsPlain x where
  noControl b hb := (h b hb).1
  wellFormed := Ascii.isSome_decode fun b hb ↦ (h b hb).2

/-- The same for bytes that are given. -/
theorem of_all {x : Bytes} (h : x.all (fun b ↦ decide (0x20 ≤ b ∧ b < 0x80)) = true) : IsPlain x :=
  of_ascii fun b hb ↦ of_decide_eq_true (List.all_eq_true.mp h b hb)

private theorem escape_bounds (b : UInt8) :
    (∀ c ∈ escape b, 0x20 ≤ c) ∧ (b < 0x80 → ∀ c ∈ escape b, c < 0x80) := by
  have hdigit : ∀ d : Fin 16, 0x20 ≤ Hex.digit d ∧ Hex.digit d < 0x80 := by decide
  have hlt := b.toNat_lt
  have hhigh : 0x20 ≤ Hex.digit (b.toNat / 16) ∧ Hex.digit (b.toNat / 16) < 0x80 :=
    hdigit ⟨b.toNat / 16, by omega⟩
  have hlow : 0x20 ≤ Hex.digit (b.toNat % 16) ∧ Hex.digit (b.toNat % 16) < 0x80 :=
    hdigit ⟨b.toNat % 16, by omega⟩
  have hfixed : ∀ c ∈ [(0x5c : UInt8), 0x75, 0x30, 0x30], 0x20 ≤ c ∧ c < 0x80 := by
    intro c hc
    exact of_decide_eq_true (List.all_eq_true.mp (by decide :
      [(0x5c : UInt8), 0x75, 0x30, 0x30].all (fun c ↦ decide (0x20 ≤ c ∧ c < 0x80)) = true) c hc)
  have hbounds : ∀ c ∈ escape b, (0x20 ≤ c ∧ c < 0x80) ∨ (0x20 ≤ c ∧ c = b) := by
    intro c hc
    rcases escape_cases b with ⟨d, hd, h⟩ | h | ⟨hb, h⟩
    · rw [h, List.mem_cons, List.mem_singleton] at hc
      rcases hc with rfl | rfl
      · exact Or.inl (hfixed _ List.mem_cons_self)
      · exact Or.inl hd
    · have hsplit : c ∈ [(0x5c : UInt8), 0x75, 0x30, 0x30] ∨
          c ∈ [Hex.digit (b.toNat / 16), Hex.digit (b.toNat % 16)] := by
        rw [← List.mem_append]
        rw [h] at hc
        exact hc
      rcases hsplit with hc | hc
      · exact Or.inl (hfixed c hc)
      · rw [List.mem_cons, List.mem_singleton] at hc
        rcases hc with rfl | rfl
        · exact Or.inl hhigh
        · exact Or.inl hlow
    · rw [h, List.mem_singleton] at hc
      rw [hc]
      exact Or.inr ⟨hb, rfl⟩
  constructor
  · intro c hc
    rcases hbounds c hc with h | h
    · exact h.1
    · exact h.1
  · intro hb c hc
    rcases hbounds c hc with h | h
    · exact h.2
    · rw [h.2]
      exact hb

private theorem escape_of_high {b : UInt8} (h : 0x80 ≤ b) : escape b = [b] := by
  have hne : ∀ c : UInt8, c < 0x80 → b ≠ c := fun c hc hbc ↦ UInt8.not_lt.mpr h (hbc ▸ hc)
  have hcontrol : ¬ b < 0x20 := fun hlt ↦
    UInt8.not_lt.mpr h (UInt8.lt_trans hlt (by decide))
  rw [escape, if_neg (hne _ (by decide)), if_neg (hne _ (by decide)), if_neg (hne _ (by decide)),
    if_neg (hne _ (by decide)), if_neg (hne _ (by decide)), if_neg (hne _ (by decide)),
    if_neg (hne _ (by decide)), if_neg hcontrol]

/-- Escaping leaves no control byte, and breaks no character. -/
theorem quoted (value : Text) : IsPlain (quoted value) := by
  have hquote : IsPlain [0x22] := of_all (by decide)
  refine hquote.append ⟨?_, ?_⟩
  · intro c hc
    rcases List.mem_append.mp hc with hc | hc
    · obtain ⟨b, -, hb⟩ := List.mem_flatMap.mp hc
      exact (escape_bounds b).1 c hb
    · exact hquote.noControl c hc
  · exact Utf8.isSome_decode_flatMap (fun b hb ↦ (escape_bounds b).2 hb)
      (fun b hb ↦ escape_of_high hb) value.valid hquote.wellFormed

theorem decimal (n : Nat) : IsPlain (Ascii.decimal n) := by
  refine of_ascii fun b hb ↦ ?_
  have hdigit := Ascii.isDigit_of_mem_decimal b hb
  simp only [Ascii.isDigit, Bool.and_eq_true, decide_eq_true_eq] at hdigit
  exact ⟨UInt8.le_trans (by decide) hdigit.1, Nat.lt_of_le_of_lt
    (UInt8.le_iff_toNat_le.mp hdigit.2) (by decide)⟩

theorem keyed (key : Text) : IsPlain (keyed key) :=
  (IsPlain.quoted key).append (of_all (by decide))

theorem stringMember (key value : Text) : IsPlain (stringMember key value) :=
  (IsPlain.keyed key).append (IsPlain.quoted value)

theorem numberMember (key : Text) (value : UInt64) : IsPlain (numberMember key value) :=
  (IsPlain.keyed key).append (IsPlain.decimal value.toNat)

theorem boolWord (value : Bool) : IsPlain (boolWord value) := by
  cases value
  · exact of_all (by decide)
  · exact of_all (by decide)

theorem optWord (value : Option UInt64) : IsPlain (optWord value) := by
  cases value with
  | none => exact of_all (by decide)
  | some number => exact IsPlain.decimal number.toNat

private theorem flatMap {xs : List Bytes} (h : ∀ x ∈ xs, IsPlain x) :
    IsPlain (xs.flatMap fun x ↦ [0x2c] ++ x) := by
  induction xs with
  | nil => exact ⟨nofun, rfl⟩
  | cons x xs ih =>
    rw [List.forall_mem_cons] at h
    have hcomma : IsPlain [0x2c] := of_all (by decide)
    exact (hcomma.append h.1).append (ih h.2)

theorem bracketed {opening closing : UInt8} {xs : List Bytes}
    (hopening : 0x20 ≤ opening ∧ opening < 0x80) (hclosing : 0x20 ≤ closing ∧ closing < 0x80)
    (h : ∀ x ∈ xs, IsPlain x) : IsPlain (bracketed opening closing xs) := by
  have hinner : IsPlain ([0x2c].intercalate xs) := by
    cases xs with
    | nil => exact ⟨nofun, rfl⟩
    | cons x xs =>
      rw [List.forall_mem_cons] at h
      rw [intercalate_cons]
      exact h.1.append (flatMap h.2)
  exact (of_ascii fun b hb ↦ List.mem_singleton.mp hb ▸ hopening).append
    (hinner.append (of_ascii fun b hb ↦ List.mem_singleton.mp hb ▸ hclosing))

end IsPlain

/-- Every member of a payload is plain text. -/
theorem OotleAnchorPublicPayloadV2.isPlain_members (payload : OotleAnchorPublicPayloadV2)
    (electionIdStr : Text) : ∀ x ∈ payload.members electionIdStr, IsPlain x := by
  have hentry : ∀ x ∈ payload.tally.map entryText, IsPlain x := by
    intro x hx
    obtain ⟨entry, -, rfl⟩ := List.mem_map.mp hx
    refine IsPlain.bracketed (by decide) (by decide) fun y hy ↦ ?_
    simp only [entryMembers, List.mem_cons, List.not_mem_nil, or_false] at hy
    rcases hy with rfl | rfl | rfl
    · exact IsPlain.stringMember _ _
    · exact IsPlain.stringMember _ _
    · exact IsPlain.numberMember _ _
  have hresults : IsPlain (bracketed 0x5b 0x5d (payload.tally.map entryText)) :=
    IsPlain.bracketed (by decide) (by decide) hentry
  simp only [members, List.forall_mem_cons, List.not_mem_nil, false_implies, implies_true, and_true,
    IsPlain.stringMember, IsPlain.numberMember, true_and]
  exact ⟨(IsPlain.keyed _).append hresults, (IsPlain.keyed _).append (IsPlain.boolWord _),
    (IsPlain.keyed _).append (IsPlain.optWord _)⟩

/-- What the encoder returns is plain text. -/
theorem OotleAnchorPublicPayloadV2.isPlain_of_encoded {payload : OotleAnchorPublicPayloadV2}
    {encoded : Bytes} (h : payload.toCanonicalJsonBytes = .ok encoded) : IsPlain encoded := by
  obtain ⟨-, electionIdStr, -, htext, -⟩ := toCanonicalJsonBytes_eq_ok.mp h
  rw [htext]
  exact IsPlain.bracketed (by decide) (by decide) (payload.isPlain_members electionIdStr)

/-- A payload has one canonical text: it is read back, only canonical texts are read, different
payloads have different texts, and where they have one digest the hash collides on their frames, the
text has no control byte and is UTF-8, and the parser ends on all bytes without a fault. -/
theorem publicPayload_canonical :
    (∀ payload encoded, payload.toCanonicalJsonBytes = .ok encoded →
      OotleAnchorPublicPayloadV2.fromCanonicalJsonBytes encoded = .ok payload ∧
        (∀ b ∈ encoded, 0x20 ≤ b) ∧ (Utf8.decode encoded).isSome) ∧
    (∀ encoded payload, OotleAnchorPublicPayloadV2.fromCanonicalJsonBytes encoded = .ok payload →
      payload.toCanonicalJsonBytes = .ok encoded) ∧
    (∀ (p q : OotleAnchorPublicPayloadV2) (encoded : Bytes),
      p.toCanonicalJsonBytes = .ok encoded → q.toCanonicalJsonBytes = .ok encoded → p = q) ∧
    (∀ (provider : HashProvider) (p q : OotleAnchorPublicPayloadV2) (digest : Bytes32),
      p.canonicalDigest provider = .ok digest → q.canonicalDigest provider = .ok digest → p ≠ q →
        ∃ a b, p.toCanonicalJsonBytes = .ok a ∧ q.toCanonicalJsonBytes = .ok b ∧
          v2DomainInput a ≠ v2DomainInput b ∧
          provider.hash (v2DomainInput a) = provider.hash (v2DomainInput b)) ∧
    ∀ encoded,
      (∃ payload, OotleAnchorPublicPayloadV2.fromCanonicalJsonBytes encoded = .ok payload) ∨
        ∃ e, OotleAnchorPublicPayloadV2.fromCanonicalJsonBytes encoded = .error (.refused e) := by
  refine ⟨fun payload encoded h ↦ ?_, fun _ _ ↦
    OotleAnchorPublicPayloadV2.toCanonicalJsonBytes_of_decoded, fun _ _ _ ↦
    OotleAnchorPublicPayloadV2.eq_of_encoded, ?_,
    OotleAnchorPublicPayloadV2.fromCanonicalJsonBytes_total⟩
  · have hplain := OotleAnchorPublicPayloadV2.isPlain_of_encoded h
    exact ⟨OotleAnchorPublicPayloadV2.fromCanonicalJsonBytes_of_encoded h, hplain.noControl,
      hplain.wellFormed⟩
  · intro provider p q digest hp hq hne
    obtain ⟨a, ha, hdigestA⟩ := OotleAnchorPublicPayloadV2.canonicalDigest_eq_ok hp
    obtain ⟨b, hb, hdigestB⟩ := OotleAnchorPublicPayloadV2.canonicalDigest_eq_ok hq
    refine ⟨a, b, ha, hb, fun hab ↦ hne ?_, hdigestA.trans hdigestB.symm⟩
    rw [← OotleAnchorPublicPayloadV2.v2DomainInput_inj hab] at hb
    exact OotleAnchorPublicPayloadV2.eq_of_encoded ha hb

namespace PayloadSample

/-- Quotes, a backslash, a line break and letters outside ASCII in the texts, and the largest
number. -/
def payload (question : String) : OotleAnchorPublicPayloadV2 where
  network := ⟨.lit "esmeralda", by decide +kernel⟩
  electionId := (Text.lit "wahl-\"ä\"").toBytes
  ballotQuestion := .lit question
  ballotKind := .lit "single-choice"
  confidentialityMode := .lit "open"
  proofSuite := .lit "triptych"
  manifestHash := .replicate 1
  archiveHash := .replicate 2
  registryCommitment := .replicate 3
  optionSetCommitment := .replicate 4
  eligibleVoterCount := 18446744073709551615
  acceptedBallotCount := 2
  rejectedBallotCount := 0
  tally := [⟨.lit "Ja \\ é", [1, 0xff], 2⟩, ⟨.lit "", [2], 0⟩]
  archiveFinalized := true
  finalizedTimestampUnixSecs := none
  template := ⟨.lit "template", .lit "module", .lit "function", .lit "topic", .replicate 5⟩

/-- A hash that tells nothing apart. -/
def constant : HashProvider := ⟨blake3256HashAlgorithmIdV1, fun _ ↦ .replicate 0⟩

/-- The text of a valid payload is not evaluated, but for its length. -/
theorem digests (question : String) (hvalid : (payload question).validate = .ok ())
    (hlimit : (CanonicalJsonWriter.bracketed 0x7b 0x7d ((payload question).members
      (.lit "wahl-\"ä\""))).length ≤ maxOotleAnchorPublicPayloadBytesV2) :
    (payload question).canonicalDigest constant = .ok (.replicate 0) := by
  have hencoded := OotleAnchorPublicPayloadV2.toCanonicalJsonBytes_eq_ok.mpr
    ⟨hvalid, .lit "wahl-\"ä\"", rfl, rfl, hlimit⟩
  exact bind_eq_ok.mpr ⟨(), rfl, bind_eq_ok.mpr ⟨_, hencoded, rfl⟩⟩

end PayloadSample

/-- Two payloads that are written and read back, and the frames on which a hash collides that gives
both the same digest. -/
theorem publicPayload_canonical_sample :
    ∃ a b, (PayloadSample.payload "Was\nnun?").toCanonicalJsonBytes = .ok a ∧
      (PayloadSample.payload "Und?").toCanonicalJsonBytes = .ok b ∧
      OotleAnchorPublicPayloadV2.fromCanonicalJsonBytes a =
        .ok (PayloadSample.payload "Was\nnun?") ∧
      OotleAnchorPublicPayloadV2.fromCanonicalJsonBytes b = .ok (PayloadSample.payload "Und?") ∧
      (∀ byte ∈ a, 0x20 ≤ byte) ∧ v2DomainInput a ≠ v2DomainInput b := by
  obtain ⟨hreads, -, -, hcollides, -⟩ := publicPayload_canonical
  obtain ⟨a, b, ha, hb, hframes, -⟩ := hcollides PayloadSample.constant _ _ _
    (PayloadSample.digests "Was\nnun?" (by decide +kernel) (by decide +kernel))
    (PayloadSample.digests "Und?" (by decide +kernel) (by decide +kernel)) (by decide +kernel)
  exact ⟨a, b, ha, hb, (hreads _ a ha).1, (hreads _ b hb).1, (hreads _ a ha).2.1, hframes⟩

end PrivateBallot.OotleAnchor
