import PrivateBallot.Ballot.Candidate

/-!
# Ballot packages

Library `Ballot`. `crates/ballot/src/package.rs`: the five-field package a voter sends, and
the envelope that a decoder can read before it knows the election's candidate set.
-/

namespace PrivateBallot.Ballot

open PrivateBallot.Base
open PrivateBallot.Protocol

/-- Fields of the package array. -/
def ballotPackageV1FieldCount : Nat := 5

/-- Facts a package is built from. -/
structure BallotPackageV1Input where
  protocolVersion : Nat
  manifestHash : ManifestHash
  proofSuiteId : Text
  proof : Bytes
  payload : ApprovalBallotPayload
deriving DecidableEq

/-- The checks of `BallotPackageV1::new`; `crates/ballot/src/package.rs:64`. -/
def BallotPackageV1Input.validate (input : BallotPackageV1Input) : Result Unit := do
  refuseIf (decide (input.protocolVersion ≠ protocolVersionV1)) .unsupportedProtocolVersion
    "ballot package does not use protocol version one"
  refuseIf input.proofSuiteId.trimIsEmpty .emptyProofSuiteId
    "proof suite identifier must not be empty"
  refuseIf (decide (maxProofSuiteIdBytes < input.proofSuiteId.len)) .protocolLimitExceeded
    "proof suite identifier exceeds the protocol limit"
  refuseIf (decide (maxProofBytes < input.proof.length)) .protocolLimitExceeded
    "proof bytes exceed the protocol limit"

/-- A package whose facts passed every check. -/
structure BallotPackageV1 extends BallotPackageV1Input where
  valid : toBallotPackageV1Input.validate = .ok ()
deriving DecidableEq

/-- `BallotPackageV1::new` -/
def BallotPackageV1.new (input : BallotPackageV1Input) : Result BallotPackageV1 :=
  match h : input.validate with
  | .ok () => .ok ⟨input, h⟩
  | .error e => .error e

private def encodePackage (protocolVersion : Nat) (manifestHash : ManifestHash)
    (proofSuiteId : Text) (payloadBytes proof : Bytes) : Result Bytes := do
  let encoded := writeArrayLen ballotPackageV1FieldCount ++ writeUnsigned protocolVersion ++
    writeByteString manifestHash.toBytes ++ writeTextString proofSuiteId ++
    writeByteString payloadBytes ++ writeByteString proof
  refuseIf (decide (maxCanonicalObjectBytes < encoded.length)) .protocolLimitExceeded
    "canonical ballot package exceeds the protocol object limit"
  pure encoded

/-- `BallotPackageV1::to_canonical_cbor` -/
def BallotPackageV1.toCanonicalCbor (self : BallotPackageV1) : Result Bytes := do
  let payloadBytes ← self.payload.toCanonicalCbor
  encodePackage self.protocolVersion self.manifestHash self.proofSuiteId payloadBytes self.proof

/-- A package whose payload bytes are not interpreted yet; `crates/ballot/src/package.rs`. -/
structure BallotPackageEnvelopeV1 where
  protocolVersion : Nat
  manifestHash : ManifestHash
  proofSuiteId : Text
  proof : Bytes
  payloadBytes : Bytes
deriving DecidableEq

namespace BallotPackageEnvelopeV1

private def toCanonicalCbor (self : BallotPackageEnvelopeV1) : Result Bytes :=
  encodePackage self.protocolVersion self.manifestHash self.proofSuiteId self.payloadBytes
    self.proof

-- The size checks of the source stand after the last field and before `finish`.
private def readFields : Read BallotPackageEnvelopeV1 := do
  let fields ← readArrayLen
  if fields ≠ ballotPackageV1FieldCount then
    fail .invalidCbor "ballot package must contain exactly five fields"
  let protocolVersion ← readUnsigned
  if 2 ^ 16 ≤ protocolVersion then
    fail .invalidCbor "ballot package protocol version exceeds the u16 range"
  let manifestHashBytes ← readByteString
  match Bytes32.ofBytes? manifestHashBytes with
  | none => fail .invalidData "ballot package manifest hash must contain exactly 32 bytes"
  | some manifestHash =>
    let proofSuiteId ← readTextString
    let payloadBytes ← readByteString
    let proofBytes ← readByteString
    refuseIf proofSuiteId.trimIsEmpty .emptyProofSuiteId
      "proof suite identifier must not be empty"
    refuseIf (decide (maxProofSuiteIdBytes < proofSuiteId.len)) .protocolLimitExceeded
      "proof suite identifier exceeds the protocol limit"
    refuseIf (decide (maxProofBytes < proofBytes.length)) .protocolLimitExceeded
      "proof bytes exceed the protocol limit"
    pure ⟨protocolVersion, manifestHash, proofSuiteId, proofBytes, payloadBytes⟩

/-- `BallotPackageEnvelopeV1::from_canonical_cbor`; decodes and requires canonical bytes. -/
def fromCanonicalCbor (encoded : Bytes) : Result BallotPackageEnvelopeV1 := do
  refuseIf (decide (maxCanonicalObjectBytes < encoded.length)) .protocolLimitExceeded
    "encoded ballot package exceeds the protocol object limit"
  let envelope ← readAll readFields encoded
  refuseIf (decide (envelope.protocolVersion ≠ protocolVersionV1)) .unsupportedProtocolVersion
    "ballot package does not use protocol version one"
  let reencoded ← envelope.toCanonicalCbor
  refuseIf (decide (reencoded ≠ encoded)) .nonCanonicalCbor
    "ballot package bytes are not the canonical encoding"
  pure envelope

/-- `validate_manifest_binding` -/
def validateManifestBinding (self : BallotPackageEnvelopeV1)
    (expectedManifestHash : ManifestHash) (expectedProofSuiteId : Text) : Result Unit := do
  refuseIf (decide (self.manifestHash ≠ expectedManifestHash)) .wrongManifestHash
    "ballot package is bound to a different election manifest"
  refuseIf (decide (self.proofSuiteId ≠ expectedProofSuiteId)) .unsupportedProofSuite
    "ballot proof suite differs from the election manifest"

/-- `into_ballot_package`: interprets the payload in the election's context. -/
def intoBallotPackage (self : BallotPackageEnvelopeV1) (candidates : CandidateSet)
    (limits : ApprovalLimits) : Result BallotPackageV1 := do
  let payload ← ApprovalBallotPayload.fromCanonicalCbor self.payloadBytes candidates limits
  let payloadBytes ← payload.toCanonicalCbor
  refuseIf (decide (payloadBytes ≠ self.payloadBytes)) .nonCanonicalCbor
    "ballot payload bytes are not the canonical encoding"
  BallotPackageV1.new ⟨self.protocolVersion, self.manifestHash, self.proofSuiteId, self.proof,
    payload⟩

end BallotPackageEnvelopeV1

/-- `BallotPackageV1::from_canonical_cbor` -/
def BallotPackageV1.fromCanonicalCbor (encoded : Bytes) (candidates : CandidateSet)
    (limits : ApprovalLimits) : Result BallotPackageV1 := do
  let envelope ← BallotPackageEnvelopeV1.fromCanonicalCbor encoded
  envelope.intoBallotPackage candidates limits

/-! ### The encodings that are accepted -/

/-- The five fields of a package, each in its canonical form. -/
def packageBytes (manifestHash : ManifestHash) (proofSuiteId : Text)
    (selections : List CandidateId) (proof : Bytes) : Bytes :=
  writeArrayLen 5 ++ writeUnsigned 1 ++ writeByteString manifestHash.toBytes ++
    writeTextString proofSuiteId ++
    writeByteString (ApprovalBallotPayload.encodeSelections selections) ++ writeByteString proof

/-- A byte string that spells a package whose selections are of this kind. -/
inductive IsPackageEncoding (takes : List CandidateId → Prop) : Bytes → Prop
  | intro (manifestHash : ManifestHash) (proofSuiteId : Text) (selections : List CandidateId)
      (proof : Bytes) (nonblank : proofSuiteId.trimIsEmpty = false)
      (suite_len : proofSuiteId.len ≤ maxProofSuiteIdBytes)
      (proof_len : proof.length ≤ maxProofBytes) (selected : takes selections) :
      IsPackageEncoding takes (packageBytes manifestHash proofSuiteId selections proof)

/-- The four checks of a package, as one statement. -/
theorem BallotPackageV1Input.validate_eq_ok {input : BallotPackageV1Input} :
    input.validate = .ok () ↔ input.protocolVersion = protocolVersionV1 ∧
      input.proofSuiteId.trimIsEmpty = false ∧ input.proofSuiteId.len ≤ maxProofSuiteIdBytes ∧
      input.proof.length ≤ maxProofBytes := by
  simp only [validate, bind_eq_ok, refuseIf_eq_ok, decide_eq_false_iff_not, not_not,
    Nat.not_lt, exists_const]

/-- A package is accepted by its own check. -/
theorem BallotPackageV1.new_toInput (self : BallotPackageV1) :
    BallotPackageV1.new self.toBallotPackageV1Input = .ok self := by
  unfold BallotPackageV1.new
  split
  · rfl
  · next h =>
    rw [self.valid] at h
    cases h

theorem BallotPackageV1.toInput_of_new {input : BallotPackageV1Input} {package : BallotPackageV1}
    (h : BallotPackageV1.new input = .ok package) : package.toBallotPackageV1Input = input := by
  unfold BallotPackageV1.new at h
  split at h
  · cases h
    rfl
  · cases h

-- Two fields of bounded size, 256 identifiers of at most 137 bytes and five headers.
private theorem length_packageBytes_le (manifestHash : ManifestHash) {proofSuiteId : Text}
    {selections : List CandidateId} {proof : Bytes}
    (hsuite : proofSuiteId.len ≤ maxProofSuiteIdBytes) (hproof : proof.length ≤ maxProofBytes)
    (hcount : selections.length ≤ maxCandidates) :
    (packageBytes manifestHash proofSuiteId selections proof).length ≤
      maxCanonicalObjectBytes := by
  have harray := length_writeArrayLen_le 5
  have hversion := length_writeUnsigned_le 1
  have hhash := length_writeByteString_le manifestHash.toBytes
  have hhash32 := manifestHash.length_eq
  have htext := length_writeTextString_le proofSuiteId
  have hpayload := length_writeByteString_le (ApprovalBallotPayload.encodeSelections selections)
  have hselections := ApprovalBallotPayload.length_encodeSelections_le hcount
  have hbytes := length_writeByteString_le proof
  have hlimits : maxProofSuiteIdBytes = 128 ∧ maxProofBytes = 65536 ∧
    maxCanonicalObjectBytes = 1048576 := ⟨rfl, rfl, rfl⟩
  simp only [packageBytes, List.length_append]
  omega

private theorem encodePackage_eq {manifestHash : ManifestHash} {proofSuiteId : Text}
    {selections : List CandidateId} {proof : Bytes}
    (hlen : (packageBytes manifestHash proofSuiteId selections proof).length ≤
      maxCanonicalObjectBytes) :
    encodePackage protocolVersionV1 manifestHash proofSuiteId
        (ApprovalBallotPayload.encodeSelections selections) proof =
      .ok (packageBytes manifestHash proofSuiteId selections proof) := by
  simp only [encodePackage, bind_eq_ok, refuseIf_eq_ok]
  exact ⟨(), decide_eq_false (Nat.not_lt.mpr hlen), rfl⟩

private theorem BallotPackageEnvelopeV1.reads_readFields (manifestHash : ManifestHash)
    {proofSuiteId : Text} (payloadBytes : Bytes) {proof : Bytes}
    (hblank : proofSuiteId.trimIsEmpty = false)
    (hsuite : proofSuiteId.len ≤ maxProofSuiteIdBytes) (hproof : proof.length ≤ maxProofBytes) :
    Reads readFields (writeArrayLen 5 ++ writeUnsigned 1 ++
        writeByteString manifestHash.toBytes ++ writeTextString proofSuiteId ++
        writeByteString payloadBytes ++ writeByteString proof)
      ⟨protocolVersionV1, manifestHash, proofSuiteId, proof, payloadBytes⟩ := by
  simp only [List.append_assoc]
  apply (reads_readArrayLen (by decide)).bind
  simp only [ballotPackageV1FieldCount, ne_eq, not_true_eq_false, if_false]
  apply (reads_readUnsigned (by decide)).bind
  simp only [show ¬ 2 ^ 16 ≤ 1 by decide, if_false]
  apply (reads_readByteString _).bind
  simp only [Bytes32.ofBytes?_toBytes]
  apply (reads_readTextString _).bind
  apply (reads_readByteString _).bind
  apply (reads_readByteString _).bind_nil
  apply Reads.nil_bind (reads_lift ((refuseIf_eq_ok _ _ _ ()).mpr hblank))
  apply Reads.nil_bind
    (reads_lift ((refuseIf_eq_ok _ _ _ ()).mpr (decide_eq_false (Nat.not_lt.mpr hsuite))))
  apply Reads.nil_bind
    (reads_lift ((refuseIf_eq_ok _ _ _ ()).mpr (decide_eq_false (Nat.not_lt.mpr hproof))))
  exact Reads.pure _

namespace BallotPackageV1

variable {candidates : CandidateSet} {limits : ApprovalLimits}

/-- A package whose payload fits the election is encoded, and decoded to itself. -/
theorem fromCanonicalCbor_of_fits (self : BallotPackageV1)
    (h : ApprovalBallotPayload.Fits candidates limits self.payload.selections) :
    self.toCanonicalCbor = .ok (packageBytes self.manifestHash self.proofSuiteId
        self.payload.selections self.proof) ∧
      fromCanonicalCbor (packageBytes self.manifestHash self.proofSuiteId
        self.payload.selections self.proof) candidates limits = .ok self := by
  obtain ⟨hversion, hblank, hsuite, hproof⟩ :=
    BallotPackageV1Input.validate_eq_ok.mp self.valid
  have hpayload := ApprovalBallotPayload.toCanonicalCbor_of_fits h
  have hlen := length_packageBytes_le self.manifestHash hsuite hproof h.length_le
  have hencode := encodePackage_eq hlen
  have hlimit : maxCanonicalObjectBytes < 2 ^ 64 := by decide
  have hread := readAll_of_reads (BallotPackageEnvelopeV1.reads_readFields self.manifestHash
    (ApprovalBallotPayload.encodeSelections self.payload.selections) hblank hsuite hproof)
    (Nat.lt_of_le_of_lt hlen hlimit)
  constructor
  · simp only [toCanonicalCbor, bind_eq_ok]
    rw [hversion]
    exact ⟨_, hpayload, hencode⟩
  · simp only [fromCanonicalCbor, BallotPackageEnvelopeV1.fromCanonicalCbor,
      BallotPackageEnvelopeV1.intoBallotPackage, bind_eq_ok, refuseIf_eq_ok]
    refine ⟨⟨protocolVersionV1, self.manifestHash, self.proofSuiteId, self.proof,
        ApprovalBallotPayload.encodeSelections self.payload.selections⟩,
      ⟨(), decide_eq_false (Nat.not_lt.mpr hlen), _, hread, (), by simp, _, hencode, (),
        by simp, rfl⟩, _, ApprovalBallotPayload.fromCanonicalCbor_of_fits h, _, hpayload, (),
      by simp, ?_⟩
    rw [← hversion]
    exact self.new_toInput

-- Both decoders compare with the bytes they read, so the fields need not be traced.
/-- A decoded package fits its election and is encoded to the bytes it came from. -/
theorem toCanonicalCbor_of_fromCanonicalCbor {encoded : Bytes} {package : BallotPackageV1}
    (h : fromCanonicalCbor encoded candidates limits = .ok package) :
    ApprovalBallotPayload.Fits candidates limits package.payload.selections ∧
      package.toCanonicalCbor = .ok encoded := by
  simp only [fromCanonicalCbor, BallotPackageEnvelopeV1.fromCanonicalCbor,
    BallotPackageEnvelopeV1.intoBallotPackage, bind_eq_ok, refuseIf_eq_ok,
    decide_eq_false_iff_not, not_not] at h
  obtain ⟨envelope, ⟨_, _, envelope', _, _, _, reencoded, hencode, _, rfl, henvelope⟩, payload,
    hdecode, payloadBytes, hpayload, _, rfl, hnew⟩ := h
  cases henvelope
  have hinput := toInput_of_new hnew
  obtain ⟨input, hvalid⟩ := package
  subst hinput
  constructor
  · exact ApprovalBallotPayload.fits_of_fromCanonicalCbor hdecode
  · simp only [toCanonicalCbor, bind_eq_ok]
    exact ⟨_, hpayload, hencode⟩

/-- The bytes a decoded package came from are the five fields of the package. -/
theorem isPackageEncoding_of_fromCanonicalCbor {encoded : Bytes} {package : BallotPackageV1}
    (h : fromCanonicalCbor encoded candidates limits = .ok package) :
    IsPackageEncoding (ApprovalBallotPayload.Fits candidates limits) encoded := by
  obtain ⟨hfits, hencode⟩ := toCanonicalCbor_of_fromCanonicalCbor h
  obtain ⟨-, hblank, hsuite, hproof⟩ := BallotPackageV1Input.validate_eq_ok.mp package.valid
  have hbytes := (fromCanonicalCbor_of_fits package hfits).1
  rw [hencode] at hbytes
  cases hbytes
  exact .intro _ _ _ _ hblank hsuite hproof hfits

/-- The five fields of a package with selections that fit are decoded. -/
theorem exists_of_isPackageEncoding {encoded : Bytes}
    (h : IsPackageEncoding (ApprovalBallotPayload.Fits candidates limits) encoded) :
    ∃ package, fromCanonicalCbor encoded candidates limits = .ok package := by
  obtain ⟨manifestHash, proofSuiteId, selections, proof, hblank, hsuite, hproof, hfits⟩ := h
  have hvalid : (⟨protocolVersionV1, manifestHash, proofSuiteId, proof,
      ⟨selections, hfits.ascending⟩⟩ : BallotPackageV1Input).validate = .ok () :=
    BallotPackageV1Input.validate_eq_ok.mpr ⟨rfl, hblank, hsuite, hproof⟩
  exact ⟨⟨_, hvalid⟩, (fromCanonicalCbor_of_fits ⟨_, hvalid⟩ hfits).2⟩

/-- The codec under an election context. A package whose payload was built for the election is
encoded and decoded to itself; accepted bytes are what their package is encoded to; they are the
canonical five fields with selections that fit the election, and nothing else; and a package has
no second spelling. -/
theorem canonicalCbor_iff (candidates : CandidateSet) (limits : ApprovalLimits) :
    (∀ (package : BallotPackageV1) selections,
      ApprovalBallotPayload.new selections candidates limits = .ok package.payload →
        ∃ encoded, package.toCanonicalCbor = .ok encoded ∧
          fromCanonicalCbor encoded candidates limits = .ok package) ∧
      (∀ encoded package, fromCanonicalCbor encoded candidates limits = .ok package →
        package.toCanonicalCbor = .ok encoded) ∧
      (∀ encoded, (∃ package, fromCanonicalCbor encoded candidates limits = .ok package) ↔
        IsPackageEncoding (ApprovalBallotPayload.Fits candidates limits) encoded) ∧
      (∀ encoded encoded' package, fromCanonicalCbor encoded candidates limits = .ok package →
        fromCanonicalCbor encoded' candidates limits = .ok package → encoded = encoded') := by
  refine ⟨?_, ?_, ?_, ?_⟩
  · intro package selections h
    exact ⟨_, package.fromCanonicalCbor_of_fits (ApprovalBallotPayload.fits_of_new h)⟩
  · intro encoded package h
    exact (toCanonicalCbor_of_fromCanonicalCbor h).2
  · intro encoded
    constructor
    · rintro ⟨package, h⟩
      exact isPackageEncoding_of_fromCanonicalCbor h
    · exact exists_of_isPackageEncoding
  · intro encoded encoded' package h h'
    have hencode := (toCanonicalCbor_of_fromCanonicalCbor h).2
    rw [(toCanonicalCbor_of_fromCanonicalCbor h').2] at hencode
    cases hencode
    rfl

end BallotPackageV1

/-! ### Selections within the counts of the limits are not all taken -/

namespace Sample

/-- Candidates `1` and `2`. -/
def pair : CandidateSet where
  candidates := [⟨⟨[1], by decide, by decide⟩, .lit "A", by decide +kernel, by decide +kernel⟩,
    ⟨⟨[2], by decide, by decide⟩, .lit "B", by decide +kernel, by decide +kernel⟩]
  nonempty := by decide
  length_le := by decide
  ascending := by
    unfold Ascending
    decide +kernel

/-- A package of suite `s` with an empty proof. -/
def spelled (selections : List CandidateId) : Bytes :=
  packageBytes (.replicate 0) (.lit "s") selections []

end Sample

/-- Known candidates in ascending order, and a count within the limits or none with abstention
allowed. -/
def WithinCounts (candidates : CandidateSet) (limits : ApprovalLimits)
    (selections : List CandidateId) : Prop :=
  Ascending CandidateId.toBytes selections ∧ (∀ id ∈ selections, candidates.contains id = true) ∧
    (limits.minimum.toNat ≤ selections.length ∧ selections.length ≤ limits.maximum.toNat ∨
      selections = [] ∧ limits.allowAbstention = true)

/-- A count within the limits is not enough: with at most one selection of two candidates and
abstention off, the empty selection is refused although the minimum is zero; and with a maximum of
three for two candidates, one selection is refused. -/
theorem not_canonicalCbor_iff_withinCounts :
    (IsPackageEncoding (WithinCounts Sample.pair ⟨0, 1, false, by decide⟩) (Sample.spelled []) ∧
      ¬ ∃ package, BallotPackageV1.fromCanonicalCbor (Sample.spelled []) Sample.pair
        ⟨0, 1, false, by decide⟩ = .ok package) ∧
    IsPackageEncoding (WithinCounts Sample.pair ⟨0, 3, true, by decide⟩)
        (Sample.spelled [⟨[1], by decide, by decide⟩]) ∧
      ¬ ∃ package, BallotPackageV1.fromCanonicalCbor
        (Sample.spelled [⟨[1], by decide, by decide⟩]) Sample.pair ⟨0, 3, true, by decide⟩ =
          .ok package := by
  have hblank : (Text.lit "s").trimIsEmpty = false := by decide +kernel
  have hsuite : (Text.lit "s").len ≤ maxProofSuiteIdBytes := by decide +kernel
  have hproof : ([] : Bytes).length ≤ maxProofBytes := by decide
  refine ⟨⟨?_, ?_⟩, ?_, ?_⟩
  · apply IsPackageEncoding.intro _ _ _ _ hblank hsuite hproof
    exact ⟨List.Pairwise.nil, by simp, .inl (by decide)⟩
  · rintro ⟨package, h⟩
    have hrefused : (BallotPackageV1.fromCanonicalCbor (Sample.spelled []) Sample.pair
        ⟨0, 1, false, by decide⟩).isOk = false := by decide +kernel
    rw [h] at hrefused
    cases hrefused
  · apply IsPackageEncoding.intro _ _ _ _ hblank hsuite hproof
    exact ⟨List.pairwise_singleton _ _, by decide +kernel, .inl (by decide)⟩
  · rintro ⟨package, h⟩
    have hrefused : (BallotPackageV1.fromCanonicalCbor
        (Sample.spelled [⟨[1], by decide, by decide⟩]) Sample.pair ⟨0, 3, true, by decide⟩).isOk =
          false := by decide +kernel
    rw [h] at hrefused
    cases hrefused

end PrivateBallot.Ballot
