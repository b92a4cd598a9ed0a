import PrivateBallot.Protocol.Framing
import PrivateBallot.Verifier.Ledger

/-!
# What a proof statement binds

Library `Verifier`. `crates/verifier/src/proof_statement.rs:12`: a statement is rebuilt from the
manifest and the payload, and a proof is about its transcript bytes. The bytes determine the nine
fields of the statement; two of the fields are hashes, which determine the encodings that were
hashed as long as no two of them collide.
-/

namespace PrivateBallot.Protocol.ProofStatementV1

open PrivateBallot.Base

/-- The ten items of a statement's encoding. -/
private def items (self : ProofStatementV1) : List CborItem :=
  [.arrayLen 9, .unsigned (UInt64.ofNat proofStatementVersionV1),
    .unsigned (UInt64.ofNat self.protocolVersion), .textString self.proofSuiteId,
    .byteString self.manifestHash.toBytes, .byteString self.electionScope.toBytes,
    .byteString self.registryCommitment.toBytes, .byteString self.ballotPayloadHash.toBytes,
    .textString self.ballotKindId, .textString self.ballotConfidentialityId]

private theorem protocolVersion_eq (self : ProofStatementV1) :
    self.protocolVersion = protocolVersionV1 := by
  have hvalid := self.valid
  simp only [ProofStatementV1Input.validate, bind_eq_ok, refuseIf_eq_ok, decide_eq_false_iff_not,
    Decidable.not_not] at hvalid
  obtain ⟨-, hversion, -⟩ := hvalid
  exact hversion

private theorem eq_writeAll {self : ProofStatementV1} {encoded : Bytes}
    (h : self.toCanonicalCbor = .ok encoded) :
    encoded = CborItem.writeAll self.items ∧ encoded.length ≤ maxProofStatementBytes := by
  simp only [toCanonicalCbor, bind_eq_ok, refuseIf_eq_ok, decide_eq_false_iff_not,
    Nat.not_lt] at h
  obtain ⟨-, hlen, hencoded⟩ := h
  cases hencoded
  have hversion : (UInt64.ofNat self.protocolVersion).toNat = self.protocolVersion := by
    rw [self.protocolVersion_eq]
    rfl
  refine ⟨?_, hlen⟩
  simp only [CborItem.writeAll, items, List.flatMap_cons, List.flatMap_nil, CborItem.write,
    hversion, List.append_nil, List.append_assoc]
  rfl

/-- Statements with one encoding are the same. -/
theorem eq_of_toCanonicalCbor {self other : ProofStatementV1} {encoded : Bytes}
    (h : self.toCanonicalCbor = .ok encoded) (h' : other.toCanonicalCbor = .ok encoded) :
    self = other := by
  obtain ⟨hitems, hlen⟩ := eq_writeAll h
  obtain ⟨hitems', -⟩ := eq_writeAll h'
  have hlimit : maxProofStatementBytes = 4096 := rfl
  have hwritten : CborItem.writeAll self.items = CborItem.writeAll other.items :=
    hitems.symm.trans hitems'
  have heq : self.items = other.items :=
    CborItem.writeAll_inj rfl (by rw [← hitems]; omega) hwritten
  have hversion := self.protocolVersion_eq.trans other.protocolVersion_eq.symm
  simp only [items, List.cons.injEq, CborItem.textString.injEq, CborItem.byteString.injEq,
    and_true, true_and] at heq
  obtain ⟨-, hsuite, hmanifest, hscope, hregistry, hpayload, hkind, hconfidentiality⟩ := heq
  replace hmanifest := Bytes32.ext hmanifest
  replace hscope := Bytes32.ext hscope
  replace hregistry := Bytes32.ext hregistry
  replace hpayload := Bytes32.ext hpayload
  obtain ⟨input, hvalid⟩ := self
  obtain ⟨other, hvalid'⟩ := other
  cases input
  cases other
  subst hsuite hmanifest hscope hregistry hpayload hkind hconfidentiality hversion
  rfl

/-- Statements with the same transcript bytes are the same. -/
theorem eq_of_transcriptBytes {self other : ProofStatementV1} {transcript : Bytes}
    (h : self.transcriptBytes = .ok transcript) (h' : other.transcriptBytes = .ok transcript) :
    self = other := by
  obtain ⟨encoded, hencoded, hframe⟩ := bind_eq_ok.mp h
  obtain ⟨encoded', hencoded', hframe'⟩ := bind_eq_ok.mp h'
  cases hframe
  have heq := (domainSeparatedInput_inj.mp (Except.ok.inj hframe')).2
  subst heq
  exact eq_of_toCanonicalCbor hencoded hencoded'

end PrivateBallot.Protocol.ProofStatementV1

namespace PrivateBallot.Crypto

open PrivateBallot.Base PrivateBallot.Protocol

-- Every variable part comes after its length, and the lengths have a fixed width.
/-- The preimage of a scope generator determines what it was made from. -/
theorem scopeGeneratorPreimageV1_inj {version version' : Nat} {suite suite' : Text}
    {scope scope' preimage : Bytes} (hversion : version < 2 ^ 16) (hversion' : version' < 2 ^ 16)
    (h : scopeGeneratorPreimageV1 version suite scope = .ok preimage)
    (h' : scopeGeneratorPreimageV1 version' suite' scope' = .ok preimage) :
    version = version' ∧ suite = suite' ∧ scope = scope' := by
  simp only [scopeGeneratorPreimageV1, bind_eq_ok, refuseIf_eq_ok, decide_eq_false_iff_not,
    Nat.not_le] at h h'
  obtain ⟨-, hsuite, -, -, hpreimage⟩ := h
  obtain ⟨-, hsuite', -, -, hpreimage'⟩ := h'
  cases hpreimage
  have heq := Except.ok.inj hpreimage'
  simp only [List.append_assoc, List.append_cancel_left_eq] at heq
  obtain ⟨hversions, heq⟩ := List.append_inj heq (by rw [length_leBytes, length_leBytes])
  obtain ⟨hlengths, heq⟩ := List.append_inj heq (by rw [length_leBytes, length_leBytes])
  have hlen : suite'.len = suite.len := by
    have hread := congrArg ofLeBytes hlengths
    rwa [ofLeBytes_leBytes 4 _ (by omega), ofLeBytes_leBytes 4 _ (by omega)] at hread
  obtain ⟨hsuites, heq⟩ := List.append_inj heq hlen
  obtain ⟨-, hscopes⟩ := List.append_inj heq (by rw [length_leBytes, length_leBytes])
  have hread := congrArg ofLeBytes hversions
  rw [ofLeBytes_leBytes 8 _ (by omega), ofLeBytes_leBytes 8 _ (by omega)] at hread
  exact ⟨hread.symm, (Text.ext hsuites).symm, hscopes.symm⟩

end PrivateBallot.Crypto

namespace PrivateBallot.Verifier

open PrivateBallot.Base PrivateBallot.Protocol PrivateBallot.Ballot PrivateBallot.Crypto

/-- The framed encodings that are hashed for a statement's manifest hash and payload hash. -/
def hashedObjects (manifest : ElectionManifest) (payload : ApprovalBallotPayload) : List Bytes :=
  (manifest.toCanonicalCbor.toOption.toList.map (domainSeparatedInput manifest.hashDomain)) ++
    payload.toCanonicalCbor.toOption.toList.map (domainSeparatedInput .approvalBallotPayloadV1)

/-- A rebuilt statement holds the hashes of its manifest and of its payload. -/
theorem hashes_of_reconstruct {manifest : ElectionManifest} {payload : ApprovalBallotPayload}
    {provider : HashProvider} {statement : ProofStatementV1}
    (h : reconstructApprovalProofStatement manifest payload provider = .ok statement) :
    ∃ encodedManifest encodedPayload, manifest.toCanonicalCbor = .ok encodedManifest ∧
      payload.toCanonicalCbor = .ok encodedPayload ∧
      hashedObjects manifest payload =
        [domainSeparatedInput manifest.hashDomain encodedManifest,
          domainSeparatedInput .approvalBallotPayloadV1 encodedPayload] ∧
      statement.manifestHash =
        hashDomainSeparated provider manifest.hashDomain encodedManifest ∧
      statement.ballotPayloadHash =
        hashDomainSeparated provider .approvalBallotPayloadV1 encodedPayload := by
  simp only [reconstructApprovalProofStatement, bind_eq_ok] at h
  obtain ⟨manifestHash, hmanifest, scope, -, payloadHash, hpayload, hnew⟩ := h
  obtain ⟨encodedManifest, hencodedManifest, hmanifestHash⟩ := bind_eq_ok.mp hmanifest
  obtain ⟨encodedPayload, hencodedPayload, hpayloadHash⟩ := bind_eq_ok.mp hpayload
  have hinput := ProofStatementV1.toInput_of_new hnew
  refine ⟨encodedManifest, encodedPayload, hencodedManifest, hencodedPayload, ?_, ?_, ?_⟩
  · rw [hashedObjects, hencodedManifest, hencodedPayload]
    rfl
  · rw [hinput]
    exact (Except.ok.inj hmanifestHash).symm
  · rw [hinput]
    exact (Except.ok.inj hpayloadHash).symm

private theorem manifestSchemaVersion_of_hashDomain {manifest manifest' : ElectionManifest}
    (h : manifest.hashDomain = manifest'.hashDomain) :
    manifest.manifestSchemaVersion = manifest'.manifestSchemaVersion := by
  cases manifest <;> cases manifest' <;> first | rfl | cases h

/-- A proof statement binds every election fact. Statements that were rebuilt from a manifest and
a payload and have the same transcript bytes come from manifests of one version and one canonical
encoding and from one payload, where the encodings that were hashed do not collide. Frames of
different domains are never the same bytes, whatever the objects are, and the preimage of a scope
generator determines the protocol version, the suite and the scope. -/
theorem transcriptBytes_binds :
    (∀ (provider : HashProvider) (manifest manifest' : ElectionManifest)
      (payload payload' : ApprovalBallotPayload) (statement statement' : ProofStatementV1)
      (transcript : Bytes),
      provider.CollisionFree (hashedObjects manifest payload ++ hashedObjects manifest' payload') →
      reconstructApprovalProofStatement manifest payload provider = .ok statement →
      reconstructApprovalProofStatement manifest' payload' provider = .ok statement' →
      statement.transcriptBytes = .ok transcript → statement'.transcriptBytes = .ok transcript →
      manifest.toCanonicalCbor = manifest'.toCanonicalCbor ∧
        manifest.manifestSchemaVersion = manifest'.manifestSchemaVersion ∧ payload = payload') ∧
      (∀ (domain domain' : HashDomain) (object object' : Bytes), domain ≠ domain' →
        domainSeparatedInput domain object ≠ domainSeparatedInput domain' object') ∧
      (∀ (version version' : Nat) (suite suite' : Text) (scope scope' preimage : Bytes),
        version < 2 ^ 16 → version' < 2 ^ 16 →
        scopeGeneratorPreimageV1 version suite scope = .ok preimage →
        scopeGeneratorPreimageV1 version' suite' scope' = .ok preimage →
        version = version' ∧ suite = suite' ∧ scope = scope') := by
  refine ⟨?_, ?_, ?_⟩
  · intro provider manifest manifest' payload payload' statement statement' transcript hfree
      hstatement hstatement' htranscript htranscript'
    have hsame := ProofStatementV1.eq_of_transcriptBytes htranscript htranscript'
    subst hsame
    obtain ⟨encoded, encodedPayload, hencoded, hencodedPayload, hobjects, hhash, hpayloadHash⟩ :=
      hashes_of_reconstruct hstatement
    obtain ⟨encoded', encodedPayload', hencoded', hencodedPayload', hobjects', hhash',
      hpayloadHash'⟩ := hashes_of_reconstruct hstatement'
    rw [hobjects, hobjects'] at hfree
    obtain ⟨hdomain, rfl⟩ := hfree.inj (by simp) (by simp) (hhash.symm.trans hhash')
    obtain ⟨-, rfl⟩ := hfree.inj (by simp) (by simp) (hpayloadHash.symm.trans hpayloadHash')
    refine ⟨hencoded.trans hencoded'.symm, manifestSchemaVersion_of_hashDomain hdomain, ?_⟩
    obtain ⟨hselections, hlen⟩ := ApprovalBallotPayload.eq_encodeSelections hencodedPayload
    obtain ⟨hselections', -⟩ := ApprovalBallotPayload.eq_encodeSelections hencodedPayload'
    have hlimit : maxCanonicalObjectBytes = 1048576 := rfl
    have hids := ApprovalBallotPayload.encodeSelections_inj (by rw [← hselections]; omega)
      (hselections.symm.trans hselections')
    cases payload
    cases payload'
    cases hids
    rfl
  · intro domain domain' object object' hne h
    exact hne (domainSeparatedInput_inj.mp h).1
  · intro version version' suite suite' scope scope' preimage hversion hversion' h h'
    exact scopeGeneratorPreimageV1_inj hversion hversion' h h'

namespace Sample

/-- The approval of the first candidate. -/
def payload : ApprovalBallotPayload := ⟨[candidateId 1], List.pairwise_singleton _ _⟩

/-- A suite identifier with a zero byte. -/
def suiteWithZero : Text := .ofChars ['a', '\x00', 'b']

end Sample

/-- Two rebuilds from the sample manifest and payload, two domains whose labels share most of
their bytes, and a preimage over an identifier with a zero byte. -/
theorem transcriptBytes_binds_sample :
    (∃ statement transcript,
      reconstructApprovalProofStatement Sample.manifest Sample.payload Sample.provider =
          .ok statement ∧
        statement.transcriptBytes = .ok transcript ∧
        Sample.manifest.toCanonicalCbor = Sample.manifest.toCanonicalCbor ∧
        Sample.manifest.manifestSchemaVersion = Sample.manifest.manifestSchemaVersion ∧
        Sample.payload = Sample.payload) ∧
      domainSeparatedInput .transportBatchLeafV1 [0] ≠
        domainSeparatedInput .transportBatchNodeV1 [0] ∧
      (∃ preimage, scopeGeneratorPreimageV1 1 Sample.suiteWithZero [0, 1] = .ok preimage ∧
        (1 : Nat) = 1 ∧ Sample.suiteWithZero = Sample.suiteWithZero ∧
          [0, 1] = ([0, 1] : Bytes)) := by
  refine ⟨?_, ?_, ?_⟩
  · obtain ⟨statement, hstatement⟩ : ∃ statement, reconstructApprovalProofStatement
        Sample.manifest Sample.payload Sample.provider = .ok statement := by
      have hok : (reconstructApprovalProofStatement Sample.manifest Sample.payload
          Sample.provider).isOk = true := by decide +kernel
      cases hresult : reconstructApprovalProofStatement Sample.manifest Sample.payload
        Sample.provider with
      | ok statement => exact ⟨statement, rfl⟩
      | error e =>
        rw [hresult] at hok
        cases hok
    obtain ⟨transcript, htranscript⟩ := statement.exists_transcriptBytes
    have hfree : Sample.provider.CollisionFree (hashedObjects Sample.manifest Sample.payload ++
        hashedObjects Sample.manifest Sample.payload) := by decide +kernel
    exact ⟨statement, transcript, hstatement, htranscript,
      transcriptBytes_binds.1 _ _ _ _ _ _ _ _ hfree hstatement hstatement htranscript htranscript⟩
  · exact transcriptBytes_binds.2.1 _ _ _ _ (by decide)
  · obtain ⟨preimage, hpreimage⟩ : ∃ preimage,
        scopeGeneratorPreimageV1 1 Sample.suiteWithZero [0, 1] = .ok preimage := ⟨_, rfl⟩
    exact ⟨preimage, hpreimage, transcriptBytes_binds.2.2 _ _ _ _ _ _ _ (by decide) (by decide)
      hpreimage hpreimage⟩

end PrivateBallot.Verifier
