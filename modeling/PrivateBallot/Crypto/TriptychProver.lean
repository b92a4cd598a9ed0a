import PrivateBallot.Base.Search
import PrivateBallot.Crypto.TriptychVerifier
import Mathlib.Algebra.Module.Torsion.Field

/-!
# Triptych prover

Library `Crypto`. `crates/crypto/src/triptych_prover.rs` and the parts of
`third_party/tari-triptych` it calls. Prover and verifier build parameters, input set, statement
and transcript separately; `verify_of_prove` says that what one makes the other accepts, with the
linking tag of the secret scalar as nullifier.
-/

namespace PrivateBallot.Crypto

open PrivateBallot.Base
open PrivateBallot.Protocol

/-- `TriptychWitness`: parameters, index `l` and signing key `r`. -/
structure TriptychWitness (crate : TriptychCrate) (Scalar : Type) where
  parameters : crate.Parameters
  index : Nat
  secret : Scalar

/-- The third-party code only the prover calls: scalars of `curve25519_dalek_v4`, the accessors of
`triptych` and its proof construction with the draws of one random number generator. -/
structure TriptychProverCrate (crate : TriptychCrate) (Scalar : Type) where
  Randomness : Type
  /-- `Scalar::from_canonical_bytes` -/
  scalarFromCanonicalBytes : Bytes32 → Option Scalar
  /-- `TriptychParameters::get_N` -/
  getN : crate.Parameters → Nat
  /-- `TriptychParameters::get_G` -/
  getG : crate.Parameters → crate.dalekV4.Point
  /-- `TriptychParameters::get_U` -/
  getU : crate.Parameters → crate.dalekV4.Point
  /-- `TriptychInputSet::get_keys` -/
  getKeys : crate.InputSet → List crate.dalekV4.Point
  /-- `TriptychStatement::get_params` -/
  getParams : crate.Statement → crate.Parameters
  /-- `TriptychProof::prove_with_rng` -/
  proveWithRng : TriptychWitness crate Scalar → crate.Statement → Randomness →
    crate.Transcript → Option crate.Proof

private def invalidSecret {α : Type} (message : String) : Result α := fail .invalidData message

section

variable {crate : TriptychCrate} {Scalar : Type} [Field Scalar] [DecidableEq Scalar]
  [AddCommGroup crate.dalekV4.Point] [Module Scalar crate.dalekV4.Point]

namespace TriptychWitness

/-- `TriptychWitness::new`; `third_party/tari-triptych/src/witness.rs:42`. -/
def new (prover : TriptychProverCrate crate Scalar) (parameters : crate.Parameters)
    (index : Nat) (secret : Scalar) : Option (TriptychWitness crate Scalar) :=
  if secret = 0 then none
  else if prover.getN parameters ≤ index then none
  else some ⟨parameters, index, secret⟩

/-- `compute_linking_tag` -/
def computeLinkingTag (prover : TriptychProverCrate crate Scalar)
    (witness : TriptychWitness crate Scalar) : crate.dalekV4.Point :=
  witness.secret⁻¹ • prover.getU witness.parameters

/-- `compute_verification_key` -/
def computeVerificationKey (prover : TriptychProverCrate crate Scalar)
    (witness : TriptychWitness crate Scalar) : crate.dalekV4.Point :=
  witness.secret • prover.getG witness.parameters

end TriptychWitness

/-- `TariTriptychSecretKeyV1`: the canonical bytes of a nonzero scalar. -/
structure TariTriptychSecretKeyV1 (prover : TriptychProverCrate crate Scalar) where
  bytes : Bytes32
  valid : ∃ scalar, prover.scalarFromCanonicalBytes bytes = some scalar ∧ scalar ≠ 0

namespace TariTriptychSecretKeyV1

variable {prover : TriptychProverCrate crate Scalar}

/-- `scalar`: the stored bytes are parsed and checked again. -/
def scalar (self : TariTriptychSecretKeyV1 prover) : Result Scalar :=
  match prover.scalarFromCanonicalBytes self.bytes with
  | none => invalidSecret "stored Triptych secret key is not canonical"
  | some scalar =>
    if scalar = 0 then invalidSecret "stored Triptych secret key must be nonzero"
    else .ok scalar

/-- The encoded public key of `governance_public_key`, before it is parsed again. -/
def governancePublicKey (self : TariTriptychSecretKeyV1 prover) : Result Bytes32 := do
  let scalar ← self.scalar
  pure (crate.dalekV4.compress (scalar • crate.basepoint))

omit [AddCommGroup crate.dalekV4.Point] [Module Scalar crate.dalekV4.Point] in
/-- A secret key always yields its scalar. -/
theorem exists_scalar (self : TariTriptychSecretKeyV1 prover) :
    ∃ scalar, self.scalar = .ok scalar ∧ scalar ≠ 0 := by
  obtain ⟨scalar, hparse, hzero⟩ := self.valid
  refine ⟨scalar, ?_, hzero⟩
  simp only [TariTriptychSecretKeyV1.scalar, hparse, hzero, if_false]

end TariTriptychSecretKeyV1

/-- `to_bytes` of the proof envelope: version, linking tag, proof. -/
def TariTriptychProofEnvelopeV1.toBytes (self : TariTriptychProofEnvelopeV1) : Bytes :=
  leBytes 2 tariTriptychProofEnvelopeVersionV1 ++ self.linkingTag.toBytes ++ self.triptychProof

variable (prover : TriptychProverCrate crate Scalar)

-- The key, the linking tag and the position of the signer.
private def locateSigner (registryKeys : List Bytes32) (parameters : crate.Parameters)
    (secret : Scalar) : Result (Nat × Bytes32) :=
  match TriptychWitness.new prover parameters 0 secret with
  | none => invalidSecret "Triptych secret key cannot construct a witness"
  | some seedWitness =>
    let signerKey := crate.dalekV4.compress (seedWitness.computeVerificationKey prover)
    let linkingTag := crate.dalekV4.compress (seedWitness.computeLinkingTag prover)
    match binarySearch Bytes32.toBytes signerKey.toBytes registryKeys with
    | none => invalidSecret "Triptych secret key does not match any frozen registry member"
    | some signerIndex =>
      if 2 ^ 32 ≤ signerIndex then
        fail .invalidData "Triptych signer index exceeds the supported range"
      else .ok (signerIndex, linkingTag)

-- The proof itself, once the statement has its linking tag.
private def signStatement (triptychStatement : crate.Statement) (signerIndex : Nat)
    (secret : Scalar) (randomness : prover.Randomness) (transcript : Result crate.Transcript) :
    Result crate.Proof :=
  match TriptychWitness.new prover (prover.getParams triptychStatement) signerIndex secret with
  | none => invalidSecret "Triptych witness construction failed"
  | some witness => do
    let transcript ← transcript
    orMalformed (prover.proveWithRng witness triptychStatement randomness transcript)
      "Triptych proof construction failed"

/-- `prove_tari_triptych_prototype_v1`; `crates/crypto/src/triptych_prover.rs:128`. -/
def proveTariTriptychPrototypeV1 (statement : ProofStatementV1)
    (verifier : TariTriptychPrototypeVerifierV1) (secretKey : TariTriptychSecretKeyV1 prover)
    (randomness : prover.Randomness) : Result Bytes := do
  refuseIf (decide (statement.proofSuiteId ≠ tariTriptychProofSuiteIdV1)) .invalidData
    "Triptych prototype prover received a different proof suite"
  refuseIf (decide (statement.registryCommitment ≠ verifier.registryCommitment)) .invalidData
    "Triptych prover registry commitment does not match the proof statement"
  match verifier.registryKeys.head? with
  | none => fail .invalidData "Triptych prover registry configuration is empty"
  | some placeholderLinkingTag =>
    let seedStatement ← buildTriptychStatementV1 crate statement.protocolVersion
      statement.proofSuiteId statement.electionScope.toBytes verifier.registryKeys
      placeholderLinkingTag
    let secretScalar ← secretKey.scalar
    let signer ← locateSigner prover verifier.registryKeys (prover.getParams seedStatement)
      secretScalar
    let triptychStatement ← buildTriptychStatementV1 crate statement.protocolVersion
      statement.proofSuiteId statement.electionScope.toBytes verifier.registryKeys signer.2
    let proof ← signStatement prover triptychStatement signer.1 secretScalar randomness
      (triptychTranscriptV1 crate statement)
    let envelope ← TariTriptychProofEnvelopeV1.new crate signer.2 (crate.proofToBytes proof)
    pure envelope.toBytes

/-! ### What the prover relies on -/

/-- What prover and verifier rely on in the third-party code: Ristretto points are encoded
uniquely, by both versions alike; parameters of any ring that fits in 32 bits are made; a shorter
list of keys is padded with its last key; a statement over a full list without the identity is
made; and the proof of a witness whose key stands at its index and whose linking tag is the
statement's is made, verifies, and has short bytes that are read back. -/
structure TriptychProverLaws : Prop where
  isIdentity_iff : ∀ point, crate.dalekV4.isIdentity point = true ↔ point = 0
  decompress_compress : ∀ point,
    crate.dalekV4.decompress (crate.dalekV4.compress point) = some point
  dalek_agrees : ∀ point, point ≠ 0 → ∃ same,
    crate.dalek.decompress (crate.dalekV4.compress point) = some same ∧
      crate.dalek.isIdentity same = false ∧
      crate.dalek.compress same = crate.dalekV4.compress point
  newParameters : ∀ n m generator scopeGenerator, 2 ≤ n → 2 ≤ m → n ^ m < 2 ^ 32 →
    ∃ parameters, crate.newParameters n m generator scopeGenerator = some parameters ∧
      prover.getN parameters = n ^ m ∧ prover.getG parameters = generator ∧
      prover.getU parameters = scopeGenerator
  newInputSet : ∀ keys last parameters, keys.getLast? = some last →
    keys.length ≤ prover.getN parameters →
    ∃ inputSet, crate.newInputSet keys parameters = some inputSet ∧
      prover.getKeys inputSet =
        keys ++ List.replicate (prover.getN parameters - keys.length) last
  newStatement : ∀ parameters inputSet tag,
    (prover.getKeys inputSet).length = prover.getN parameters →
    (0 : crate.dalekV4.Point) ∉ prover.getKeys inputSet →
    ∃ statement, crate.newStatement parameters inputSet tag = some statement ∧
      prover.getParams statement = parameters
  prove : ∀ (witness : TriptychWitness crate Scalar) inputSet tag statement randomness transcript,
    crate.newStatement witness.parameters inputSet tag = some statement →
    (prover.getKeys inputSet)[witness.index]? =
      some (witness.computeVerificationKey prover) →
    tag = witness.computeLinkingTag prover →
    ∃ proof, prover.proveWithRng witness statement randomness transcript = some proof ∧
      crate.verify statement proof transcript = true
  proofBytes : ∀ (witness : TriptychWitness crate Scalar) exponent generator scopeGenerator
      statement randomness transcript proof,
    crate.newParameters triptychRingBaseV1 exponent generator scopeGenerator =
      some witness.parameters →
    prover.proveWithRng witness statement randomness transcript = some proof →
    crate.proofFromBytes (crate.proofToBytes proof) = some proof ∧
      crate.proofToBytes proof ≠ [] ∧
      tariTriptychProofEnvelopeHeaderBytes + (crate.proofToBytes proof).length ≤ maxProofBytes

end

/-! ### Statements over a usable registry -/

/-- Registry keys the suite can use: the encodings of points other than the identity, strictly
ascending, at least one and no more than a ring holds. -/
structure UsableKeys (crate : TriptychCrate) (keys : List Bytes32)
    (points : List crate.dalekV4.Point) : Prop where
  encoded : keys = points.map crate.dalekV4.compress
  nonidentity : ∀ point ∈ points, crate.dalekV4.isIdentity point = false
  nonempty : points ≠ []
  length_le : points.length ≤ 2 ^ 31
  ascending : Ascending Bytes32.toBytes keys

theorem UsableKeys.length_eq {crate : TriptychCrate} {keys : List Bytes32}
    {points : List crate.dalekV4.Point} (husable : UsableKeys crate keys points) :
    keys.length = points.length := by
  rw [husable.encoded, List.length_map]

/-- Usable keys have a ring that holds them. -/
theorem UsableKeys.exists_ringExponent {crate : TriptychCrate} {keys : List Bytes32}
    {points : List crate.dalekV4.Point} (husable : UsableKeys crate keys points) :
    ∃ exponent, ringExponentV1 keys.length = .ok exponent ∧ 2 ≤ exponent ∧
      triptychRingBaseV1 ^ exponent < 2 ^ 32 ∧ keys.length ≤ triptychRingBaseV1 ^ exponent := by
  apply exists_ringExponentV1
  · rw [husable.length_eq]
    exact fun h ↦ husable.nonempty (List.length_eq_zero_iff.mp h)
  · rw [husable.length_eq]
    exact husable.length_le

section

variable {crate : TriptychCrate} {Scalar : Type} [Field Scalar]
  [AddCommGroup crate.dalekV4.Point] [Module Scalar crate.dalekV4.Point]
  {prover : TriptychProverCrate crate Scalar}

private theorem decodeNonIdentityV4_compress (laws : TriptychProverLaws prover)
    {point : crate.dalekV4.Point} (hpoint : crate.dalekV4.isIdentity point = false)
    (message : String) :
    decodeNonIdentityV4 crate (crate.dalekV4.compress point) message = .ok point := by
  simp only [decodeNonIdentityV4, laws.decompress_compress, orMalformed, bind_eq_ok,
    refuseIf_eq_ok]
  refine ⟨point, rfl, (), ?_, rfl⟩
  simp only [hpoint, ne_eq, not_true_eq_false, decide_false, Bool.or_false]

private theorem parseSortedRegistryKeysV1_eq (laws : TriptychProverLaws prover)
    {keys : List Bytes32} {points : List crate.dalekV4.Point}
    (husable : UsableKeys crate keys points) :
    parseSortedRegistryKeysV1 crate keys = .ok points := by
  have hsorted : anyAdjacent (fun a b : Bytes32 ↦ decide (b.toBytes ≤ a.toBytes)) keys = false := by
    rw [anyAdjacent_eq_false]
    apply List.Pairwise.isChain
    refine husable.ascending.imp fun {a b} hlt ↦ ?_
    exact decide_eq_false (List.not_le.mpr hlt)
  have hmap : ∀ points : List crate.dalekV4.Point,
      (∀ point ∈ points, crate.dalekV4.isIdentity point = false) →
      (points.map crate.dalekV4.compress).mapM (fun encoded ↦ decodeNonIdentityV4 crate encoded
        "Triptych registry key is not a canonical non-identity Ristretto point") =
          .ok points := by
    intro points hpoints
    induction points with
    | nil => rfl
    | cons point rest ih =>
      rw [List.map_cons, List.mapM_cons,
        decodeNonIdentityV4_compress laws (hpoints point List.mem_cons_self),
        ih fun other hother ↦ hpoints other (List.mem_cons_of_mem point hother)]
      rfl
  simp only [parseSortedRegistryKeysV1, bind_eq_ok, refuseIf_eq_ok]
  refine ⟨(), hsorted, ?_⟩
  rw [husable.encoded]
  exact hmap points husable.nonidentity

private theorem validateTriptychRegistryKeysV1_eq (laws : TriptychProverLaws prover)
    {keys : List Bytes32} {points : List crate.dalekV4.Point}
    (husable : UsableKeys crate keys points) :
    validateTriptychRegistryKeysV1 crate keys = .ok () := by
  obtain ⟨exponent, hexponent, -⟩ := husable.exists_ringExponent
  simp only [validateTriptychRegistryKeysV1, bind_eq_ok]
  exact ⟨exponent, hexponent, points, parseSortedRegistryKeysV1_eq laws husable, rfl⟩

/-- A verifier over usable keys can be made. -/
theorem TariTriptychPrototypeVerifierV1.new_of_usable (laws : TriptychProverLaws prover)
    (registryCommitment : RegistryCommitment) {keys : List Bytes32}
    {points : List crate.dalekV4.Point} (husable : UsableKeys crate keys points) :
    TariTriptychPrototypeVerifierV1.new crate registryCommitment keys =
      .ok ⟨registryCommitment, keys⟩ := by
  simp only [TariTriptychPrototypeVerifierV1.new, bind_eq_ok]
  exact ⟨(), validateTriptychRegistryKeysV1_eq laws husable, rfl⟩

/-- The context of an election over usable keys: the two generators, a ring that holds the
registry, and every key at its own index. -/
structure ElectionContextOk (prover : TriptychProverCrate crate Scalar)
    (points : List crate.dalekV4.Point) (scopeGenerator : crate.dalekV4.Point)
    (context : TriptychElectionContextV1 crate) : Prop where
  made : ∃ exponent, crate.newParameters triptychRingBaseV1 exponent crate.basepoint
    scopeGenerator = some context.parameters
  getG : prover.getG context.parameters = crate.basepoint
  getU : prover.getU context.parameters = scopeGenerator
  holds : points.length ≤ prover.getN context.parameters
  size : prover.getN context.parameters < 2 ^ 32
  length : (prover.getKeys context.inputSet).length = prover.getN context.parameters
  nonidentity : (0 : crate.dalekV4.Point) ∉ prover.getKeys context.inputSet
  key : ∀ (index : Nat) point, points[index]? = some point →
    (prover.getKeys context.inputSet)[index]? = some point

private theorem ne_zero_of_isIdentity (laws : TriptychProverLaws prover)
    {point : crate.dalekV4.Point} (h : crate.dalekV4.isIdentity point = false) : point ≠ 0 := by
  rintro rfl
  rw [(laws.isIdentity_iff 0).mpr rfl] at h
  cases h

private theorem isIdentity_of_ne_zero (laws : TriptychProverLaws prover)
    {point : crate.dalekV4.Point} (h : point ≠ 0) : crate.dalekV4.isIdentity point = false := by
  cases hidentity : crate.dalekV4.isIdentity point with
  | false => rfl
  | true => exact absurd ((laws.isIdentity_iff point).mp hidentity) h

/-- Every election over usable keys and a valid scope generator has its context. -/
theorem exists_buildTriptychElectionContextV1 (laws : TriptychProverLaws prover)
    {keys : List Bytes32} {points : List crate.dalekV4.Point}
    (husable : UsableKeys crate keys points) {protocolVersion : Nat} {proofSuiteId : Text}
    {electionScope : Bytes} {scopeGenerator : crate.dalekV4.Point}
    (hgenerator : deriveScopeGeneratorV1 crate protocolVersion proofSuiteId electionScope =
      .ok scopeGenerator) :
    ∃ context, buildTriptychElectionContextV1 crate protocolVersion proofSuiteId electionScope
        keys = .ok context ∧ ElectionContextOk prover points scopeGenerator context := by
  have hlen := husable.length_eq
  obtain ⟨exponent, hexponent, hmin, hfits, hcapacity⟩ := husable.exists_ringExponent
  obtain ⟨parameters, hparameters, hN, hG, hU⟩ := laws.newParameters triptychRingBaseV1 exponent
    crate.basepoint scopeGenerator (Nat.le_refl 2) hmin hfits
  have hholds : points.length ≤ prover.getN parameters := by
    rw [hN, ← hlen]
    exact hcapacity
  have hlast := List.getLast?_eq_some_getLast husable.nonempty
  obtain ⟨inputSet, hinputSet, hpadded⟩ :=
    laws.newInputSet points _ parameters hlast hholds
  refine ⟨⟨parameters, inputSet⟩, ?_, ?_⟩
  · simp only [buildTriptychElectionContextV1, bind_eq_ok]
    refine ⟨exponent, hexponent, scopeGenerator, hgenerator, parameters, ?_, points,
      parseSortedRegistryKeysV1_eq laws husable, inputSet, ?_, rfl⟩
    · rw [hparameters]
      rfl
    · rw [hinputSet]
      rfl
  · refine ⟨⟨exponent, hparameters⟩, hG, hU, hholds, by rw [hN]; exact hfits, ?_, ?_, ?_⟩
    · show (prover.getKeys inputSet).length = prover.getN parameters
      rw [hpadded, List.length_append, List.length_replicate]
      omega
    · show (0 : crate.dalekV4.Point) ∉ prover.getKeys inputSet
      rw [hpadded, List.mem_append, List.mem_replicate]
      rintro (hmem | ⟨-, hzero⟩)
      · exact ne_zero_of_isIdentity laws (husable.nonidentity 0 hmem) rfl
      · have hmem := List.getLast_mem husable.nonempty
        rw [← hzero] at hmem
        exact ne_zero_of_isIdentity laws (husable.nonidentity 0 hmem) rfl
    · intro index point hpoint
      show (prover.getKeys inputSet)[index]? = some point
      obtain ⟨hlt, -⟩ := List.getElem?_eq_some_iff.mp hpoint
      rw [hpadded, List.getElem?_append_left hlt, hpoint]

/-- Over such a context a statement is made for every tag that is not the identity. -/
theorem exists_finishTriptychStatementV1 (laws : TriptychProverLaws prover)
    {points : List crate.dalekV4.Point} {scopeGenerator : crate.dalekV4.Point}
    {context : TriptychElectionContextV1 crate}
    (hcontext : ElectionContextOk prover points scopeGenerator context)
    {tag : crate.dalekV4.Point} (htag : crate.dalekV4.isIdentity tag = false) :
    ∃ statement, finishTriptychStatementV1 crate context (crate.dalekV4.compress tag) =
        .ok statement ∧
      crate.newStatement context.parameters context.inputSet tag = some statement ∧
      prover.getParams statement = context.parameters := by
  obtain ⟨statement, hstatement, hparams⟩ := laws.newStatement context.parameters
    context.inputSet tag hcontext.length hcontext.nonidentity
  refine ⟨statement, ?_, hstatement, hparams⟩
  simp only [finishTriptychStatementV1, bind_eq_ok]
  refine ⟨tag, decodeNonIdentityV4_compress laws htag _, ?_⟩
  rw [hstatement]
  rfl

end

/-! ### What is proved is verified -/

section

variable {crate : TriptychCrate}

/-- The envelope that was built is read back from its bytes. -/
theorem TariTriptychProofEnvelopeV1.fromBytes_toBytes {linkingTag : Bytes32}
    {triptychProof : Bytes} {envelope : TariTriptychProofEnvelopeV1}
    (h : TariTriptychProofEnvelopeV1.new crate linkingTag triptychProof = .ok envelope) :
    envelope = ⟨linkingTag, triptychProof⟩ ∧
      TariTriptychProofEnvelopeV1.fromBytes crate envelope.toBytes = .ok envelope := by
  have hnew := h
  simp only [TariTriptychProofEnvelopeV1.new, bind_eq_ok, refuseIf_eq_ok,
    decide_eq_false_iff_not, Nat.not_lt, Nat.not_le] at h
  obtain ⟨-, -, -, hempty, -, -, -, hlen, henvelope⟩ := h
  cases henvelope
  refine ⟨rfl, ?_⟩
  have htag := linkingTag.length_eq
  have hpos : 0 < triptychProof.length := by
    cases triptychProof with
    | nil => cases hempty
    | cons first rest => exact Nat.succ_pos _
  have hbytes : TariTriptychProofEnvelopeV1.toBytes ⟨linkingTag, triptychProof⟩ =
      leBytes 2 tariTriptychProofEnvelopeVersionV1 ++ (linkingTag.toBytes ++ triptychProof) := by
    rw [TariTriptychProofEnvelopeV1.toBytes, List.append_assoc]
  have hlength : (TariTriptychProofEnvelopeV1.toBytes ⟨linkingTag, triptychProof⟩).length =
      tariTriptychProofEnvelopeHeaderBytes + triptychProof.length := by
    rw [hbytes, List.length_append, List.length_append, length_leBytes, htag]
    simp only [tariTriptychProofEnvelopeHeaderBytes]
    omega
  have hversion : (TariTriptychProofEnvelopeV1.toBytes ⟨linkingTag, triptychProof⟩).take 2 =
      leBytes 2 tariTriptychProofEnvelopeVersionV1 := by
    rw [hbytes]
    exact List.take_left' (length_leBytes 2 _)
  have hrest : (TariTriptychProofEnvelopeV1.toBytes ⟨linkingTag, triptychProof⟩).drop 2 =
      linkingTag.toBytes ++ triptychProof := by
    rw [hbytes]
    exact List.drop_left' (length_leBytes 2 _)
  have hproof : (TariTriptychProofEnvelopeV1.toBytes ⟨linkingTag, triptychProof⟩).drop
      tariTriptychProofEnvelopeHeaderBytes = triptychProof := by
    rw [tariTriptychProofEnvelopeHeaderBytes, ← List.drop_drop, hrest]
    exact List.drop_left' htag
  unfold TariTriptychProofEnvelopeV1.fromBytes
  rw [if_neg (by rw [hlength]; omega), dif_neg (by rw [hlength]; omega), hversion,
    ofLeBytes_leBytes 2 _ (by decide), if_neg (by simp)]
  have hsame : (⟨((TariTriptychProofEnvelopeV1.toBytes ⟨linkingTag, triptychProof⟩).drop 2).take 32,
      by rw [hrest, List.take_left' htag]; exact htag⟩ : Bytes32) = linkingTag := by
    apply Bytes32.ext
    show ((TariTriptychProofEnvelopeV1.toBytes ⟨linkingTag, triptychProof⟩).drop 2).take 32 = _
    rw [hrest]
    exact List.take_left' htag
  rw [hsame, hproof]
  exact hnew

variable {Scalar : Type} [Field Scalar]
  [AddCommGroup crate.dalekV4.Point] [Module Scalar crate.dalekV4.Point]
  {prover : TriptychProverCrate crate Scalar}

private theorem exists_envelope (laws : TriptychProverLaws prover)
    {tag : crate.dalekV4.Point} (htag : tag ≠ 0) {triptychProof : Bytes}
    (hempty : triptychProof ≠ [])
    (hlen : tariTriptychProofEnvelopeHeaderBytes + triptychProof.length ≤ maxProofBytes) :
    TariTriptychProofEnvelopeV1.new crate (crate.dalekV4.compress tag) triptychProof =
      .ok ⟨crate.dalekV4.compress tag, triptychProof⟩ := by
  obtain ⟨same, hsame, hidentity, hcompress⟩ := laws.dalek_agrees tag htag
  have hvalid : validateLinkingTag crate (crate.dalekV4.compress tag) = .ok () := by
    simp only [validateLinkingTag, hsame, hidentity, hcompress, ne_eq, not_true_eq_false,
      Bool.false_eq_true, if_false]
  have hmax : maxProofBytes = 65536 := rfl
  simp only [TariTriptychProofEnvelopeV1.new, bind_eq_ok, refuseIf_eq_ok,
    decide_eq_false_iff_not, Nat.not_lt, Nat.not_le]
  refine ⟨(), hvalid, (), ?_, (), by omega, (), hlen, rfl⟩
  cases triptychProof with
  | nil => exact absurd rfl hempty
  | cons first rest => rfl

/-- A nullifier is accepted by its own check. -/
theorem VerifiedNullifier.new_toBytes (nullifier : VerifiedNullifier) :
    VerifiedNullifier.new nullifier.toBytes = .ok nullifier := by
  have hlen : ¬ maxNullifierBytes < nullifier.toBytes.length := Nat.not_lt.mpr nullifier.length_le
  simp only [VerifiedNullifier.new, nullifier.nonempty, hlen, dite_false]

/-- The nullifier of a secret scalar in one election: its linking tag. -/
def linkingNullifier (scopeGenerator : crate.dalekV4.Point) (scalar : Scalar) :
    VerifiedNullifier where
  toBytes := (crate.dalekV4.compress (scalar⁻¹ • scopeGenerator)).toBytes
  nonempty h := by
    have hlen := (crate.dalekV4.compress (scalar⁻¹ • scopeGenerator)).length_eq
    rw [h] at hlen
    cases hlen
  length_le := by
    rw [(crate.dalekV4.compress (scalar⁻¹ • scopeGenerator)).length_eq]
    decide

/-- In one election, scalars of different public keys have different nullifiers. -/
theorem linkingNullifier_injective (laws : TriptychProverLaws prover)
    {scopeGenerator : crate.dalekV4.Point} (hgenerator : scopeGenerator ≠ 0)
    {scalar other : Scalar}
    (h : linkingNullifier scopeGenerator scalar = linkingNullifier scopeGenerator other) :
    scalar = other := by
  have hbytes : (crate.dalekV4.compress (scalar⁻¹ • scopeGenerator)).toBytes =
      (crate.dalekV4.compress (other⁻¹ • scopeGenerator)).toBytes :=
    congrArg VerifiedNullifier.toBytes h
  have hpoints := laws.decompress_compress (scalar⁻¹ • scopeGenerator)
  rw [Bytes32.ext hbytes, laws.decompress_compress] at hpoints
  have hsame := smul_left_injective Scalar hgenerator (Option.some.inj hpoints)
  exact (inv_injective hsame).symm

/-- A scope generator that was derived is not the identity. -/
theorem scopeGenerator_ne_zero (laws : TriptychProverLaws prover) {protocolVersion : ℕ}
    {proofSuiteId : Text} {electionScope : Bytes} {scopeGenerator : crate.dalekV4.Point}
    (h : deriveScopeGeneratorV1 crate protocolVersion proofSuiteId electionScope =
      .ok scopeGenerator) : scopeGenerator ≠ 0 := by
  simp only [deriveScopeGeneratorV1, bind_eq_ok, refuseIf_eq_ok, Bool.or_eq_false_iff] at h
  obtain ⟨_, _, _, ⟨hidentity, -⟩, hpure⟩ := h
  cases hpure
  exact ne_zero_of_isIdentity laws hidentity

/-- The setting of a proof: a statement of the suite and its registry, over usable keys. -/
structure ProofSetting (prover : TriptychProverCrate crate Scalar)
    (statement : ProofStatementV1) (verifier : TariTriptychPrototypeVerifierV1)
    (points : List crate.dalekV4.Point) (scopeGenerator : crate.dalekV4.Point) : Prop where
  laws : TriptychProverLaws prover
  usable : UsableKeys crate verifier.registryKeys points
  suite : statement.proofSuiteId = tariTriptychProofSuiteIdV1
  commitment : statement.registryCommitment = verifier.registryCommitment
  generator : deriveScopeGeneratorV1 crate statement.protocolVersion statement.proofSuiteId
    statement.electionScope.toBytes = .ok scopeGenerator

namespace ProofSetting

variable {statement : ProofStatementV1} {verifier : TariTriptychPrototypeVerifierV1}
  {points : List crate.dalekV4.Point} {scopeGenerator : crate.dalekV4.Point}

/-- The scope generator of a setting is not the identity. -/
theorem generator_ne_zero (setting : ProofSetting prover statement verifier points
    scopeGenerator) : scopeGenerator ≠ 0 :=
  scopeGenerator_ne_zero setting.laws setting.generator

/-- The first steps of the prover: the placeholder statement, over the election's context. -/
private theorem exists_seedStatement
    (setting : ProofSetting prover statement verifier points scopeGenerator) :
    ∃ context placeholder seedStatement,
      buildTriptychElectionContextV1 crate statement.protocolVersion statement.proofSuiteId
        statement.electionScope.toBytes verifier.registryKeys = .ok context ∧
      ElectionContextOk prover points scopeGenerator context ∧
      verifier.registryKeys.head? = some placeholder ∧
      buildTriptychStatementV1 crate statement.protocolVersion statement.proofSuiteId
        statement.electionScope.toBytes verifier.registryKeys placeholder =
          .ok seedStatement ∧
      prover.getParams seedStatement = context.parameters := by
  obtain ⟨context, hbuild, hcontext⟩ :=
    exists_buildTriptychElectionContextV1 setting.laws setting.usable setting.generator
  cases hpoints : points with
  | nil => exact absurd hpoints setting.usable.nonempty
  | cons first rest =>
    have hfirst : crate.dalekV4.isIdentity first = false :=
      setting.usable.nonidentity first (by rw [hpoints]; exact List.mem_cons_self)
    obtain ⟨seedStatement, hfinish, -, hparams⟩ :=
      exists_finishTriptychStatementV1 setting.laws hcontext hfirst
    refine ⟨context, crate.dalekV4.compress first, seedStatement, hbuild, hpoints ▸ hcontext,
      ?_, ?_, hparams⟩
    · rw [setting.usable.encoded, hpoints]
      rfl
    · simp only [buildTriptychStatementV1, bind_eq_ok]
      exact ⟨context, hbuild, hfinish⟩

private theorem getN_pos (setting : ProofSetting prover statement verifier points scopeGenerator)
    {context : TriptychElectionContextV1 crate}
    (hcontext : ElectionContextOk prover points scopeGenerator context) :
    0 < prover.getN context.parameters :=
  Nat.lt_of_lt_of_le (List.length_pos_iff.mpr setting.usable.nonempty) hcontext.holds

-- The signer's position in the sorted list is the position of its key in the padded ring.
private theorem key_at_signer
    (setting : ProofSetting prover statement verifier points scopeGenerator)
    {context : TriptychElectionContextV1 crate}
    (hcontext : ElectionContextOk prover points scopeGenerator context)
    {signerIndex : Nat} {key : Bytes32} (hkey : verifier.registryKeys[signerIndex]? = some key)
    {point : crate.dalekV4.Point} (hpoint : key = crate.dalekV4.compress point) :
    (prover.getKeys context.inputSet)[signerIndex]? = some point ∧
      signerIndex < points.length := by
  rw [setting.usable.encoded, List.getElem?_map, Option.map_eq_some_iff] at hkey
  obtain ⟨registered, hregistered, hcompress⟩ := hkey
  have hsame := setting.laws.decompress_compress registered
  rw [hcompress, hpoint, setting.laws.decompress_compress] at hsame
  rw [Option.some.inj hsame]
  exact ⟨hcontext.key signerIndex registered hregistered,
    (List.getElem?_eq_some_iff.mp hregistered).1⟩

end ProofSetting

variable [DecidableEq Scalar]

namespace ProofSetting

variable {statement : ProofStatementV1} {verifier : TariTriptychPrototypeVerifierV1}
  {points : List crate.dalekV4.Point} {scopeGenerator : crate.dalekV4.Point}
  {secretKey : TariTriptychSecretKeyV1 prover} {scalar : Scalar}

private theorem locateSigner_eq
    {context : TriptychElectionContextV1 crate}
    (hcontext : ElectionContextOk prover points scopeGenerator context)
    (hpos : 0 < prover.getN context.parameters) (hzero : scalar ≠ 0) :
    locateSigner prover verifier.registryKeys context.parameters scalar =
      match binarySearch Bytes32.toBytes
          (crate.dalekV4.compress (scalar • crate.basepoint)).toBytes verifier.registryKeys with
      | none => invalidSecret "Triptych secret key does not match any frozen registry member"
      | some signerIndex =>
        if 2 ^ 32 ≤ signerIndex then
          fail .invalidData "Triptych signer index exceeds the supported range"
        else .ok (signerIndex, crate.dalekV4.compress (scalar⁻¹ • scopeGenerator)) := by
  have hseed : TriptychWitness.new prover context.parameters 0 scalar =
      some ⟨context.parameters, 0, scalar⟩ := by
    rw [TriptychWitness.new, if_neg hzero, if_neg (Nat.not_le.mpr hpos)]
  simp only [locateSigner, hseed, TriptychWitness.computeVerificationKey,
    TriptychWitness.computeLinkingTag, hcontext.getG, hcontext.getU]

/-- A proof is made only for a secret key whose public key is registered. -/
theorem registered_of_prove
    (setting : ProofSetting prover statement verifier points scopeGenerator)
    {randomness : prover.Randomness} {proofBytes : Bytes}
    (h : proveTariTriptychPrototypeV1 prover statement verifier secretKey randomness =
      .ok proofBytes) :
    ∃ key ∈ verifier.registryKeys, secretKey.governancePublicKey = .ok key := by
  obtain ⟨context, placeholder, seedStatement, -, hcontext, hhead, hseed, hparams⟩ :=
    setting.exists_seedStatement
  obtain ⟨scalar, hscalar, hzero⟩ := secretKey.exists_scalar
  simp only [proveTariTriptychPrototypeV1, bind_eq_ok, hhead, hseed, hscalar, hparams,
    Except.ok.injEq, exists_eq_left'] at h
  obtain ⟨_, _, _, _, signer, hsigner, _⟩ := h
  rw [locateSigner_eq hcontext (setting.getN_pos hcontext) hzero] at hsigner
  split at hsigner
  · cases hsigner
  · next signerIndex hfound =>
    obtain ⟨key, hkey, hbytes⟩ := key_of_binarySearch hfound
    refine ⟨key, List.mem_of_getElem? hkey, ?_⟩
    rw [Bytes32.ext hbytes]
    simp only [TariTriptychSecretKeyV1.governancePublicKey, hscalar]
    rfl

/-- For a registered secret key the proof is made, whatever the randomness, and the verifier
returns the statement with the nullifier of the scalar. -/
theorem exists_prove
    (setting : ProofSetting prover statement verifier points scopeGenerator)
    (hscalar : secretKey.scalar = .ok scalar)
    (hregistered : crate.dalekV4.compress (scalar • crate.basepoint) ∈ verifier.registryKeys)
    (randomness : prover.Randomness) :
    ∃ proofBytes,
      proveTariTriptychPrototypeV1 prover statement verifier secretKey randomness =
        .ok proofBytes ∧
      proofBytes ≠ [] ∧ proofBytes.length ≤ maxProofBytes ∧
      verifier.verify crate statement proofBytes =
        .ok ⟨statement, linkingNullifier scopeGenerator scalar⟩ := by
  have laws := setting.laws
  obtain ⟨context, placeholder, seedStatement, hbuild, hcontext, hhead, hseed, hparams⟩ :=
    setting.exists_seedStatement
  have hzero : scalar ≠ 0 := by
    obtain ⟨same, hsame, hne⟩ := secretKey.exists_scalar
    rw [hscalar] at hsame
    cases hsame
    exact hne
  have htag : scalar⁻¹ • scopeGenerator ≠ 0 :=
    smul_ne_zero (inv_ne_zero hzero) setting.generator_ne_zero
  -- The signer's index.
  obtain ⟨signerIndex, hfound⟩ := exists_binarySearch setting.usable.ascending hregistered
  obtain ⟨key, hkey, hbytes⟩ := key_of_binarySearch hfound
  obtain ⟨hmember, hindex⟩ := setting.key_at_signer hcontext hkey (Bytes32.ext hbytes)
  have hrange : ¬ 2 ^ 32 ≤ signerIndex := by
    have hle := setting.usable.length_le
    omega
  have hsigner : locateSigner prover verifier.registryKeys (prover.getParams seedStatement)
      scalar = .ok (signerIndex, crate.dalekV4.compress (scalar⁻¹ • scopeGenerator)) := by
    rw [hparams, locateSigner_eq hcontext (setting.getN_pos hcontext) hzero, hfound]
    simp only [hrange, if_false]
  -- The statement with the linking tag, and the witness for it.
  obtain ⟨triptychStatement, hfinish, hmade, hsameParams⟩ :=
    exists_finishTriptychStatementV1 laws hcontext (isIdentity_of_ne_zero laws htag)
  have hstatement : buildTriptychStatementV1 crate statement.protocolVersion
      statement.proofSuiteId statement.electionScope.toBytes verifier.registryKeys
      (crate.dalekV4.compress (scalar⁻¹ • scopeGenerator)) = .ok triptychStatement := by
    simp only [buildTriptychStatementV1, bind_eq_ok]
    exact ⟨context, hbuild, hfinish⟩
  have hwitness : TriptychWitness.new prover (prover.getParams triptychStatement) signerIndex
      scalar = some ⟨context.parameters, signerIndex, scalar⟩ := by
    have hin : ¬ prover.getN context.parameters ≤ signerIndex :=
      Nat.not_le.mpr (Nat.lt_of_lt_of_le hindex hcontext.holds)
    rw [hsameParams, TriptychWitness.new, if_neg hzero, if_neg hin]
  obtain ⟨transcriptBytes, htranscriptBytes⟩ := statement.exists_transcriptBytes
  obtain ⟨transcript, htranscript⟩ : ∃ transcript,
      triptychTranscriptV1 crate statement = .ok transcript := by
    simp only [triptychTranscriptV1, bind_eq_ok]
    exact ⟨_, transcriptBytes, htranscriptBytes, rfl⟩
  obtain ⟨proof, hproof, hverified⟩ := laws.prove ⟨context.parameters, signerIndex, scalar⟩
    context.inputSet (scalar⁻¹ • scopeGenerator) triptychStatement randomness transcript hmade
    (by rw [TriptychWitness.computeVerificationKey, hcontext.getG]; exact hmember)
    (by rw [TriptychWitness.computeLinkingTag, hcontext.getU])
  obtain ⟨exponent, hexponent⟩ := hcontext.made
  obtain ⟨hreads, hnonempty, hshort⟩ := laws.proofBytes ⟨context.parameters, signerIndex, scalar⟩
    exponent crate.basepoint scopeGenerator triptychStatement randomness transcript proof
    hexponent hproof
  have henvelope := exists_envelope laws htag hnonempty hshort
  have hlength : (TariTriptychProofEnvelopeV1.toBytes
      ⟨crate.dalekV4.compress (scalar⁻¹ • scopeGenerator), crate.proofToBytes proof⟩).length =
        tariTriptychProofEnvelopeHeaderBytes + (crate.proofToBytes proof).length := by
    simp only [TariTriptychProofEnvelopeV1.toBytes, List.length_append, length_leBytes,
      Bytes32.length_eq, tariTriptychProofEnvelopeHeaderBytes]
  refine ⟨TariTriptychProofEnvelopeV1.toBytes
    ⟨crate.dalekV4.compress (scalar⁻¹ • scopeGenerator), crate.proofToBytes proof⟩, ?_, ?_, ?_, ?_⟩
  · simp only [proveTariTriptychPrototypeV1, bind_eq_ok, refuseIf_eq_ok, hhead]
    refine ⟨(), by simp [setting.suite], (), by simp [setting.commitment], seedStatement, hseed,
      scalar, hscalar, _, hsigner, triptychStatement, hstatement, proof, ?_, _, henvelope, rfl⟩
    simp only [signStatement, hwitness, htranscript, bind_eq_ok]
    refine ⟨transcript, rfl, ?_⟩
    rw [hproof]
    rfl
  · intro hnil
    rw [hnil, List.length_nil] at hlength
    simp only [tariTriptychProofEnvelopeHeaderBytes] at hlength
    omega
  · rw [hlength]
    exact hshort
  · have hparsed := (TariTriptychProofEnvelopeV1.fromBytes_toBytes henvelope).2
    have hcanonical : parseCanonicalTriptychProofV1 crate (crate.proofToBytes proof) =
        .ok proof := by
      simp only [parseCanonicalTriptychProofV1, hreads, orMalformed, bind_eq_ok, refuseIf_eq_ok]
      exact ⟨proof, rfl, (), by simp, rfl⟩
    simp only [TariTriptychPrototypeVerifierV1.verify, bind_eq_ok, refuseIf_eq_ok]
    refine ⟨(), ?_, _, hparsed, triptychStatement, hstatement, proof, hcanonical, transcript,
      htranscript, (), ?_, _, ?_, rfl⟩
    · simp only [TariTriptychPrototypeVerifierV1.checkStatement, bind_eq_ok, refuseIf_eq_ok]
      exact ⟨(), by simp [setting.suite], by simp [setting.commitment]⟩
    · rw [hverified]
      rfl
    · exact VerifiedNullifier.new_toBytes (linkingNullifier scopeGenerator scalar)

end ProofSetting

end

end PrivateBallot.Crypto
