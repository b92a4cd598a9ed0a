import PrivateBallot.GuiCore.Transport

/-!
# Sealing a ballot

Library `GuiCore`. `crates/gui-core/src/transport.rs:690-735`: the voter's side of an envelope. The
package is padded to the length of the descriptor's policy and sealed by the HPKE crate, which draws
an ephemeral key and adds a tag to the ciphertext.
-/

namespace PrivateBallot.GuiCore

open PrivateBallot.Base
open PrivateBallot.Protocol

/-- The sender's side of the HPKE crate: which bytes are a public key, and the encapsulated key and
the ciphertext that `setup_sender` and `seal` give with an ephemeral secret. -/
structure HpkeSender where
  isPublicKey : Bytes32 → Bool
  sealCiphertext : Bytes → Bytes32 → Bytes → Bytes → Bytes → Option (Bytes32 × Bytes)

/-- `HPKE_INFO` -/
def hpkeInfo : Bytes := (Text.lit "tari-cc-private-ballot/private-ballot-envelope/v1").toBytes

/-- The payload of a package: its length, its bytes, and zeros up to the padded length. -/
def paddedPayload (paddedBytes : Nat) (ballotBytes : Bytes) : Bytes :=
  beBytes 4 ballotBytes.length ++ ballotBytes ++
    List.replicate (paddedBytes - (4 + ballotBytes.length)) 0

theorem length_paddedPayload {paddedBytes : Nat} {ballotBytes : Bytes}
    (h : ballotBytes.length + 4 ≤ paddedBytes) :
    (paddedPayload paddedBytes ballotBytes).length = paddedBytes := by
  simp only [paddedPayload, List.length_append, length_beBytes, List.length_replicate]
  omega

namespace PrivateBallotEnvelopeV1

/-- `seal`, a keyword here; `crates/gui-core/src/transport.rs:691`. -/
def sealEnvelope (provider : HashProvider) (sender : HpkeSender) (ephemeral : Bytes)
    (descriptor : TransportDescriptorV1) (ballotBytes : Bytes) :
    TransportResult PrivateBallotEnvelopeV1 := do
  refuseTransport (decide (descriptor.padding.paddedBytes < ballotBytes.length + 4))
    .oversizedPayload
  let padded := paddedPayload descriptor.padding.paddedBytes ballotBytes
  refuseTransport (!sender.isPublicKey descriptor.gatewayPublicKey) .invalidDescriptor
  let fingerprint ← descriptor.fingerprint provider
  let aad := envelopeAad descriptor.manifestHash fingerprint descriptor.gatewayKeyId
    descriptor.padding.id
  match sender.sealCiphertext ephemeral descriptor.gatewayPublicKey hpkeInfo padded aad with
  | none => Except.error .cryptoFailure
  | some (encapsulatedKey, ciphertext) =>
    refuseTransport (decide (maxEnvelopeBytes < ciphertext.length)) .oversizedPayload
    pure ⟨descriptor.manifestHash, fingerprint, descriptor.gatewayKeyId, descriptor.padding.id,
      encapsulatedKey, ciphertext⟩

section

variable {provider : HashProvider} {sender : HpkeSender} {ephemeral ballotBytes : Bytes}
  {descriptor : TransportDescriptorV1} {self : PrivateBallotEnvelopeV1}

/-- A sealed package fits the policy, and its ciphertext the limit; the envelope names the
descriptor. -/
theorem sealEnvelope_eq_ok :
    sealEnvelope provider sender ephemeral descriptor ballotBytes = .ok self ↔
      ballotBytes.length + 4 ≤ descriptor.padding.paddedBytes ∧
      sender.isPublicKey descriptor.gatewayPublicKey = true ∧
      descriptor.fingerprint provider = .ok self.descriptorFingerprint ∧
      self.manifestHash = descriptor.manifestHash ∧
      self.gatewayKeyId = descriptor.gatewayKeyId ∧
      self.paddingPolicyId = descriptor.padding.id ∧
      self.ciphertext.length ≤ maxEnvelopeBytes ∧
      sender.sealCiphertext ephemeral descriptor.gatewayPublicKey hpkeInfo
        (paddedPayload descriptor.padding.paddedBytes ballotBytes)
        (envelopeAad descriptor.manifestHash self.descriptorFingerprint descriptor.gatewayKeyId
          descriptor.padding.id) = some (self.encapsulatedKey, self.ciphertext) := by
  obtain ⟨fingerprint, hfingerprint⟩ := descriptor.exists_fingerprint provider
  constructor
  · intro h
    obtain ⟨_, hfits, h⟩ := bind_eq_ok.mp h
    obtain ⟨_, hkey, h⟩ := bind_eq_ok.mp h
    obtain ⟨digest, hdigest, h⟩ := bind_eq_ok.mp h
    rw [refuseTransport_eq_ok, decide_eq_false_iff_not, Nat.not_lt] at hfits
    rw [refuseTransport_eq_ok, Bool.not_eq_false'] at hkey
    dsimp only at h
    split at h
    · cases h
    · next encapsulatedKey ciphertext hsealed =>
      obtain ⟨_, hsize, h⟩ := bind_eq_ok.mp h
      rw [refuseTransport_eq_ok, decide_eq_false_iff_not, Nat.not_lt] at hsize
      cases h
      exact ⟨hfits, hkey, hdigest, rfl, rfl, rfl, hsize, hsealed⟩
  · rintro ⟨hfits, hkey, hdigest, hmanifest, hkeyId, hpolicy, hsize, hsealed⟩
    obtain ⟨manifestHash, descriptorFingerprint, gatewayKeyId, paddingPolicyId, encapsulatedKey,
      ciphertext⟩ := self
    dsimp only at hmanifest hkeyId hpolicy hdigest hsealed hsize
    subst hmanifest hkeyId hpolicy
    refine bind_eq_ok.mpr ⟨(), ?_, bind_eq_ok.mpr ⟨(), ?_, bind_eq_ok.mpr ⟨_, hdigest, ?_⟩⟩⟩
    · rw [refuseTransport_eq_ok, decide_eq_false_iff_not, Nat.not_lt]
      exact hfits
    · rw [refuseTransport_eq_ok, Bool.not_eq_false']
      exact hkey
    · dsimp only
      rw [hsealed]
      refine bind_eq_ok.mpr ⟨(), ?_, rfl⟩
      rw [refuseTransport_eq_ok, decide_eq_false_iff_not, Nat.not_lt]
      exact hsize

end

end PrivateBallotEnvelopeV1

/-- The length of the encoded envelopes of a descriptor, with the tag of the ciphertext. -/
def TransportDescriptorFields.envelopeLength (self : TransportDescriptorFields) : Nat :=
  104 + stringLength self.gatewayKeyId.len + stringLength self.padding.id.len +
    stringLength (self.padding.paddedBytes + 16)

/-- The length of an encoded envelope. -/
theorem PrivateBallotEnvelopeV1.length_toCanonicalCbor (self : PrivateBallotEnvelopeV1) :
    self.toCanonicalCbor.length = 104 + stringLength self.gatewayKeyId.len +
      stringLength self.paddingPolicyId.len + stringLength self.ciphertext.length := by
  have hdigest : ∀ value : Bytes32, (writeByteString value.toBytes).length = 34 := by
    intro value
    rw [length_writeByteString, value.length_eq]
    decide
  have hfields : (writeArrayLen 7).length = 1 := rfl
  have hversion : (writeUnsigned envelopeVersion).length = 1 := rfl
  simp only [toCanonicalCbor, List.length_append, hdigest, length_writeTextString,
    length_writeByteString, hfields, hversion]
  omega

end PrivateBallot.GuiCore
