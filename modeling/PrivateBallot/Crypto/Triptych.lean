import PrivateBallot.Crypto.Verification

/-!
# Triptych election context and proof envelope

Library `Crypto`. `crates/crypto/src/triptych_prototype.rs`, `triptych_adapter.rs` and
`ristretto.rs`. The vendored Triptych crate, the two Ristretto implementations and the
transcript are the parameter `TriptychCrate`; everything the repository does around them is
defined here.
-/

namespace PrivateBallot.Crypto

open PrivateBallot.Base
open PrivateBallot.Protocol

/-- A Ristretto implementation: compressed points and the identity test. -/
structure RistrettoGroup where
  Point : Type
  decompress : Bytes32 → Option Point
  compress : Point → Bytes32
  isIdentity : Point → Bool

/-- Why a full-blame batch verification failed. -/
inductive BatchBlame where
  /-- `FailedBatchVerificationWithFullBlame { indexes }` -/
  | indexes (failing : List Nat)
  /-- Any other `ProofError`. -/
  | other
deriving DecidableEq

/-- The third-party code the verifier calls: `curve25519_dalek`, its version four, BLAKE3
with `from_uniform_bytes`, `merlin` and `triptych`. -/
structure TriptychCrate where
  /-- `curve25519_dalek`, used for the envelope's linking tag. -/
  dalek : RistrettoGroup
  /-- `curve25519_dalek_v4`, used by Triptych. -/
  dalekV4 : RistrettoGroup
  /-- `RISTRETTO_BASEPOINT_POINT` -/
  basepoint : dalekV4.Point
  /-- Whether a point is the basepoint. -/
  isBasepoint : dalekV4.Point → Bool
  /-- `RistrettoPoint::from_uniform_bytes` of the 64-byte BLAKE3 output of the input. -/
  hashToPoint : Bytes → dalekV4.Point
  Parameters : Type
  InputSet : Type
  Statement : Type
  Proof : Type
  Transcript : Type
  /-- `TriptychParameters::new_with_generators` -/
  newParameters : Nat → Nat → dalekV4.Point → dalekV4.Point → Option Parameters
  /-- `TriptychInputSet::new_with_padding` -/
  newInputSet : List dalekV4.Point → Parameters → Option InputSet
  /-- `TriptychStatement::new` -/
  newStatement : Parameters → InputSet → dalekV4.Point → Option Statement
  /-- `TriptychProof::from_bytes` -/
  proofFromBytes : Bytes → Option Proof
  /-- `TriptychProof::to_bytes` -/
  proofToBytes : Proof → Bytes
  /-- `Transcript::new(label)` then `append_message(label, bytes)`. -/
  newTranscript : Text → Text → Bytes → Transcript
  /-- `TriptychProof::verify` returns `Ok`. -/
  verify : Statement → Proof → Transcript → Bool
  /-- `TriptychProof::verify_batch` returns `Ok`. -/
  verifyBatch : List Statement → List Proof → List Transcript → Bool
  /-- `TriptychProof::verify_batch_with_full_blame` -/
  verifyBatchWithFullBlame : List Statement → List Proof → List Transcript →
    Except BatchBlame Unit

def scopeGeneratorDomainV1 : Text := .lit "tari-cc-private-ballot-triptych-scope-generator-v1"
def triptychRingBaseV1 : Nat := 2
def triptychMinimumExponentV1 : Nat := 2

private def malformedProof {α : Type} (message : String) : Result α :=
  fail .malformedProof message

private def protocolLimit {α : Type} (message : String) : Result α :=
  fail .protocolLimitExceeded message

/-- `map_err(|_| malformed_proof(message))` on an optional third-party result. -/
def orMalformed {α : Type} (value : Option α) (message : String) : Result α :=
  match value with
  | some a => .ok a
  | none => malformedProof message

-- `checked_pow` refuses the first capacity that does not fit in 32 bits, so 32 rounds suffice.
private def growRing (registrySize : Nat) : Nat → Nat → Result Nat
  | 0, _ => protocolLimit "Triptych ring capacity overflowed"
  | rounds + 1, exponent =>
    if 2 ^ 32 ≤ triptychRingBaseV1 ^ exponent then
      protocolLimit "Triptych ring capacity overflowed"
    else if triptychRingBaseV1 ^ exponent < registrySize then
      growRing registrySize rounds (exponent + 1)
    else .ok exponent

/-- `ring_exponent_v1`: the least exponent from two on whose ring holds the registry. -/
def ringExponentV1 (registrySize : Nat) : Result Nat :=
  if registrySize = 0 then
    malformedProof "Triptych registry must contain at least one verification key"
  else if 2 ^ 32 ≤ registrySize then
    protocolLimit "Triptych registry exceeds the supported ring size"
  else growRing registrySize 32 triptychMinimumExponentV1

-- From an exponent whose ring is at most the next power above the registry's size.
private theorem exists_growRing {registrySize : Nat} (hsize : registrySize ≤ 2 ^ 31)
    (rounds exponent : Nat) (hexponent : exponent ≤ 31) (hrounds : 32 - exponent ≤ rounds) :
    ∃ final, growRing registrySize rounds exponent = .ok final ∧ exponent ≤ final ∧
      final ≤ 31 ∧ registrySize ≤ triptychRingBaseV1 ^ final := by
  induction rounds generalizing exponent with
  | zero => omega
  | succ rounds ih =>
    have hfits : ¬ 2 ^ 32 ≤ triptychRingBaseV1 ^ exponent := by
      rw [Nat.not_le]
      exact Nat.pow_lt_pow_right (by decide) (by omega)
    unfold growRing
    rw [if_neg hfits]
    split
    · next hsmall =>
      have hnext : exponent ≠ 31 := by
        rintro rfl
        exact absurd hsmall (Nat.not_lt.mpr hsize)
      obtain ⟨final, hfinal, hle, hbound, hcapacity⟩ :=
        ih (exponent + 1) (by omega) (by omega)
      exact ⟨final, hfinal, by omega, hbound, hcapacity⟩
    · next hlarge => exact ⟨exponent, rfl, Nat.le_refl _, hexponent, Nat.le_of_not_lt hlarge⟩

/-- Every registry of up to `2 ^ 31` keys gets a ring that holds it and fits in 32 bits. -/
theorem exists_ringExponentV1 {registrySize : Nat} (hpos : registrySize ≠ 0)
    (hsize : registrySize ≤ 2 ^ 31) :
    ∃ exponent, ringExponentV1 registrySize = .ok exponent ∧ 2 ≤ exponent ∧
      triptychRingBaseV1 ^ exponent < 2 ^ 32 ∧ registrySize ≤ triptychRingBaseV1 ^ exponent := by
  have hfits : ¬ 2 ^ 32 ≤ registrySize := by omega
  obtain ⟨exponent, hgrow, hmin, hmax, hcapacity⟩ :=
    exists_growRing hsize 32 triptychMinimumExponentV1 (by decide) (by decide)
  refine ⟨exponent, ?_, hmin, Nat.pow_lt_pow_right (by decide) (by omega), hcapacity⟩
  rw [ringExponentV1, if_neg hpos, if_neg hfits]
  exact hgrow

/-- `scope_generator_preimage_v1` -/
def scopeGeneratorPreimageV1 (protocolVersion : Nat) (proofSuiteId : Text)
    (electionScope : Bytes) : Result Bytes := do
  refuseIf (decide (2 ^ 32 ≤ proofSuiteId.len)) .protocolLimitExceeded
    "Triptych proof-suite identifier exceeds the framing limit"
  refuseIf (decide (2 ^ 32 ≤ electionScope.length)) .protocolLimitExceeded
    "election scope exceeds the Triptych framing limit"
  pure (scopeGeneratorDomainV1.toBytes ++ leBytes 8 protocolVersion ++
    leBytes 4 proofSuiteId.len ++ proofSuiteId.toBytes ++ leBytes 4 electionScope.length ++
    electionScope)

section

variable (crate : TriptychCrate)

/-- `derive_scope_generator_v1` -/
def deriveScopeGeneratorV1 (protocolVersion : Nat) (proofSuiteId : Text)
    (electionScope : Bytes) : Result crate.dalekV4.Point := do
  let preimage ← scopeGeneratorPreimageV1 protocolVersion proofSuiteId electionScope
  let generator := crate.hashToPoint preimage
  refuseIf (crate.dalekV4.isIdentity generator || crate.isBasepoint generator)
    .malformedProof "election-scoped Triptych generator is invalid"
  pure generator

/-- `decode_non_identity_v4` -/
def decodeNonIdentityV4 (encoded : Bytes32) (message : String) :
    Result crate.dalekV4.Point := do
  let point ← orMalformed (crate.dalekV4.decompress encoded) message
  refuseIf (crate.dalekV4.isIdentity point || decide (crate.dalekV4.compress point ≠ encoded))
    .malformedProof message
  pure point

/-- `parse_sorted_registry_keys_v1` -/
def parseSortedRegistryKeysV1 (registryKeys : List Bytes32) :
    Result (List crate.dalekV4.Point) := do
  refuseIf (anyAdjacent (fun a b ↦ decide (b.toBytes ≤ a.toBytes)) registryKeys)
    .malformedProof "Triptych registry keys must be strictly sorted and unique"
  registryKeys.mapM fun encoded ↦ decodeNonIdentityV4 crate encoded
    "Triptych registry key is not a canonical non-identity Ristretto point"

/-- `validate_triptych_registry_keys_v1` -/
def validateTriptychRegistryKeysV1 (registryKeys : List Bytes32) : Result Unit := do
  let _ ← ringExponentV1 registryKeys.length
  let _ ← parseSortedRegistryKeysV1 crate registryKeys
  pure ()

/-- `TriptychElectionContextV1`: what all proofs of one election share. -/
structure TriptychElectionContextV1 where
  parameters : crate.Parameters
  inputSet : crate.InputSet

/-- `build_triptych_election_context_v1` -/
def buildTriptychElectionContextV1 (protocolVersion : Nat) (proofSuiteId : Text)
    (electionScope : Bytes) (registryKeys : List Bytes32) :
    Result (TriptychElectionContextV1 crate) := do
  let exponent ← ringExponentV1 registryKeys.length
  let scopeGenerator ← deriveScopeGeneratorV1 crate protocolVersion proofSuiteId electionScope
  let parameters ← orMalformed
    (crate.newParameters triptychRingBaseV1 exponent crate.basepoint scopeGenerator)
    "Triptych parameters rejected the prototype ring configuration"
  let verificationKeys ← parseSortedRegistryKeysV1 crate registryKeys
  let inputSet ← orMalformed (crate.newInputSet verificationKeys parameters)
    "Triptych rejected the prototype registry input set"
  pure ⟨parameters, inputSet⟩

/-- `finish_triptych_statement_v1` -/
def finishTriptychStatementV1 (context : TriptychElectionContextV1 crate)
    (linkingTag : Bytes32) : Result crate.Statement := do
  let point ← decodeNonIdentityV4 crate linkingTag
    "Triptych linking tag is not a canonical non-identity Ristretto point"
  orMalformed (crate.newStatement context.parameters context.inputSet point)
    "Triptych rejected the prototype proof statement"

/-- `build_triptych_statement_v1` -/
def buildTriptychStatementV1 (protocolVersion : Nat) (proofSuiteId : Text)
    (electionScope : Bytes) (registryKeys : List Bytes32) (linkingTag : Bytes32) :
    Result crate.Statement := do
  let context ← buildTriptychElectionContextV1 crate protocolVersion proofSuiteId electionScope
    registryKeys
  finishTriptychStatementV1 crate context linkingTag

/-- `parse_canonical_triptych_proof_v1` -/
def parseCanonicalTriptychProofV1 (proofBytes : Bytes) : Result crate.Proof := do
  let proof ← orMalformed (crate.proofFromBytes proofBytes)
    "Triptych proof bytes are malformed or non-canonical"
  refuseIf (decide (crate.proofToBytes proof ≠ proofBytes)) .malformedProof
    "Triptych proof bytes do not round-trip canonically"
  pure proof

end

/-! ### Proof envelope (`crates/crypto/src/triptych_adapter.rs`) -/

def tariTriptychProofEnvelopeVersionV1 : Nat := 1
def tariTriptychProofEnvelopeHeaderBytes : Nat := 2 + 32

/-- Linking tag and inner proof bytes. -/
structure TariTriptychProofEnvelopeV1 where
  linkingTag : Bytes32
  triptychProof : Bytes
deriving DecidableEq

/-- `validate_linking_tag`: the point's own decoding error is replaced. -/
def validateLinkingTag (crate : TriptychCrate) (encoded : Bytes32) : Result Unit :=
  match crate.dalek.decompress encoded with
  | none => malformedProof "Triptych linking tag is not a valid nonidentity Ristretto point"
  | some point =>
    if crate.dalek.isIdentity point then
      malformedProof "Triptych linking tag is not a valid nonidentity Ristretto point"
    else if crate.dalek.compress point ≠ encoded then
      malformedProof "Triptych linking tag is not canonically encoded"
    else .ok ()

namespace TariTriptychProofEnvelopeV1

/-- `TariTriptychProofEnvelopeV1::new` -/
def new (crate : TriptychCrate) (linkingTag : Bytes32) (triptychProof : Bytes) :
    Result TariTriptychProofEnvelopeV1 := do
  validateLinkingTag crate linkingTag
  refuseIf triptychProof.isEmpty .malformedProof "Triptych proof bytes must not be empty"
  refuseIf (decide (2 ^ 64 ≤ tariTriptychProofEnvelopeHeaderBytes + triptychProof.length))
    .protocolLimitExceeded "Triptych proof envelope length overflowed"
  refuseIf (decide (maxProofBytes < tariTriptychProofEnvelopeHeaderBytes + triptychProof.length))
    .protocolLimitExceeded "Triptych proof envelope exceeds the protocol proof limit"
  pure ⟨linkingTag, triptychProof⟩

/-- `TariTriptychProofEnvelopeV1::from_bytes` -/
def fromBytes (crate : TriptychCrate) (encoded : Bytes) : Result TariTriptychProofEnvelopeV1 :=
  if maxProofBytes < encoded.length then
    protocolLimit "Triptych proof envelope exceeds the protocol proof limit"
  else if h : encoded.length ≤ tariTriptychProofEnvelopeHeaderBytes then
    malformedProof "Triptych proof envelope is truncated"
  else if ofLeBytes (encoded.take 2) ≠ tariTriptychProofEnvelopeVersionV1 then
    malformedProof "Triptych proof envelope version is unsupported"
  else
    new crate ⟨(encoded.drop 2).take 32, by
        simp only [tariTriptychProofEnvelopeHeaderBytes] at h
        simp only [List.length_take, List.length_drop]
        omega⟩
      (encoded.drop tariTriptychProofEnvelopeHeaderBytes)

end TariTriptychProofEnvelopeV1

end PrivateBallot.Crypto
