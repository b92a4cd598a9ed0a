import PrivateBallot.GuiCore.EnvelopeSealing
import PrivateBallot.TransportGateway.Gateway

/-!
# Sealed envelopes open to their ballots

Library `TransportGateway`. The voter's `seal`, the codec of the envelope and the gateway's
`open_envelope_bytes_v1` (`crates/gui-core/src/transport.rs:690-830`,
`crates/transport-gateway/src/lib.rs:520-543`, `:1310-1325`) with a correct HPKE. The same constant
bounds the payload, the ciphertext and the encoded envelope, each longer than the one before.
-/

namespace PrivateBallot.TransportGateway

open PrivateBallot.Base PrivateBallot.Protocol PrivateBallot.GuiCore

/-- A correct HPKE: a public key of a pair can be sealed to, the ciphertext has a tag of sixteen
bytes, and the secret of the pair opens it to the plaintext. -/
structure HpkeLaws (sender : HpkeSender) (hpke : HpkeCrate) (IsKeyPair : Bytes32 → Bytes32 → Prop) :
    Prop where
  isPublicKey : ∀ {secret key}, IsKeyPair secret key → sender.isPublicKey key = true
  seals : ∀ {secret key}, IsKeyPair secret key → ∀ ephemeral info plaintext aad,
    plaintext.length ≤ maxEnvelopeBytes →
    (sender.sealCiphertext ephemeral key info plaintext aad).isSome = true
  tag : ∀ {ephemeral key info plaintext aad encapsulatedKey ciphertext},
    sender.sealCiphertext ephemeral key info plaintext aad = some (encapsulatedKey, ciphertext) →
    ciphertext.length = plaintext.length + 16
  opens : ∀ {secret key ephemeral info plaintext aad encapsulatedKey ciphertext},
    IsKeyPair secret key →
    sender.sealCiphertext ephemeral key info plaintext aad = some (encapsulatedKey, ciphertext) →
    hpke.isEncappedKey encapsulatedKey = true ∧
      hpke.openCiphertext secret encapsulatedKey info ciphertext aad = some plaintext

/-- A padded package is unpadded to itself. -/
theorem unpadAuthenticatedPayload_paddedPayload {paddedBytes : Nat} {ballotBytes : Bytes}
    (hfits : ballotBytes.length + 4 ≤ paddedBytes) (hlimit : paddedBytes ≤ maxEnvelopeBytes) :
    unpadAuthenticatedPayload (paddedPayload paddedBytes ballotBytes) paddedBytes =
      .ok ballotBytes := by
  have hlength := length_paddedPayload hfits
  have hheader : (beBytes 4 ballotBytes.length).length = 4 := length_beBytes _ _
  have hcount : ofBeBytes ((paddedPayload paddedBytes ballotBytes).take 4) =
      ballotBytes.length := by
    rw [paddedPayload, List.append_assoc, List.take_left' hheader]
    apply ofBeBytes_beBytes
    rw [maxEnvelopeBytes] at hlimit
    omega
  have hrest : (paddedPayload paddedBytes ballotBytes).drop 4 =
      ballotBytes ++ List.replicate (paddedBytes - (4 + ballotBytes.length)) 0 := by
    rw [paddedPayload, List.append_assoc, List.drop_left' hheader]
  have hzeros : ((paddedPayload paddedBytes ballotBytes).drop (4 + ballotBytes.length)).any
      (fun b ↦ b != 0) = false := by
    rw [← List.drop_drop, hrest, List.drop_left]
    simp
  unfold unpadAuthenticatedPayload
  rw [if_neg (by omega)]
  dsimp only
  rw [hcount, hzeros, if_neg (by simp; omega), hrest, List.take_left]

section

variable {sender : HpkeSender} {IsKeyPair : Bytes32 → Bytes32 → Prop} {env : GatewayEnvironment}
  {ephemeral ballotBytes : Bytes} {envelope : PrivateBallotEnvelopeV1}

private theorem validates (descriptor : TransportDescriptorV1) :
    descriptor.gatewayKeyId.len ≠ 0 ∧ descriptor.padding.id.len ≠ 0 ∧
      4 ≤ descriptor.padding.paddedBytes ∧ descriptor.padding.paddedBytes ≤ maxEnvelopeBytes := by
  have h := descriptor.valid
  unfold TransportDescriptorFields.validateFields at h
  split at h
  · cases h
  · next hfields =>
    simp only [not_or, Nat.not_lt] at hfields
    obtain ⟨-, -, hkey, -, -, -, hpolicy, -, hleast, hmost, -⟩ := hfields
    exact ⟨hkey, hpolicy, hleast, hmost⟩

/-- The ciphertext of a sealed envelope is the payload of the policy and the tag. -/
theorem length_ciphertext (laws : HpkeLaws sender env.hpke IsKeyPair)
    (h : PrivateBallotEnvelopeV1.sealEnvelope env.prims.provider sender ephemeral env.descriptor
      ballotBytes = .ok envelope) :
    envelope.ciphertext.length = env.descriptor.padding.paddedBytes + 16 := by
  obtain ⟨hfits, -, -, -, -, -, -, hsealed⟩ := PrivateBallotEnvelopeV1.sealEnvelope_eq_ok.mp h
  rw [laws.tag hsealed, length_paddedPayload hfits]

/-- Every sealed envelope has the encoded length of its descriptor. -/
theorem length_sealedEnvelope (laws : HpkeLaws sender env.hpke IsKeyPair)
    (h : PrivateBallotEnvelopeV1.sealEnvelope env.prims.provider sender ephemeral env.descriptor
      ballotBytes = .ok envelope) :
    envelope.toCanonicalCbor.length = env.descriptor.envelopeLength := by
  obtain ⟨-, -, -, -, hkeyId, hpolicy, -, -⟩ := PrivateBallotEnvelopeV1.sealEnvelope_eq_ok.mp h
  rw [envelope.length_toCanonicalCbor, length_ciphertext laws h, hkeyId, hpolicy]
  rfl

/-- A sealed envelope is read back exactly if the encoded length of its descriptor is allowed. -/
theorem fromCanonicalCbor_sealedEnvelope (laws : HpkeLaws sender env.hpke IsKeyPair)
    (h : PrivateBallotEnvelopeV1.sealEnvelope env.prims.provider sender ephemeral env.descriptor
      ballotBytes = .ok envelope) :
    PrivateBallotEnvelopeV1.fromCanonicalCbor envelope.toCanonicalCbor =
      if maxEnvelopeBytes < env.descriptor.envelopeLength then .error .oversizedPayload
      else .ok envelope := by
  obtain ⟨hkey, hpolicy, -⟩ := validates env.descriptor
  obtain ⟨-, -, -, -, hkeyId, hpolicyId, -, -⟩ := PrivateBallotEnvelopeV1.sealEnvelope_eq_ok.mp h
  rw [← hkeyId] at hkey
  rw [← hpolicyId] at hpolicy
  rw [PrivateBallotEnvelopeV1.fromCanonicalCbor_toCanonicalCbor hkey hpolicy,
    length_sealedEnvelope laws h]

/-- A sealed envelope opens to the package that was sealed. -/
theorem openEnvelopeBytesV1_sealedEnvelope (laws : HpkeLaws sender env.hpke IsKeyPair)
    (hpair : IsKeyPair env.receiverSecret env.descriptor.gatewayPublicKey)
    (h : PrivateBallotEnvelopeV1.sealEnvelope env.prims.provider sender ephemeral env.descriptor
      ballotBytes = .ok envelope) : openEnvelopeBytesV1 env envelope = .ok ballotBytes := by
  have hlength := length_ciphertext laws h
  obtain ⟨hfits, -, hfingerprint, hmanifest, hkeyId, hpolicy, -, hsealed⟩ :=
    PrivateBallotEnvelopeV1.sealEnvelope_eq_ok.mp h
  obtain ⟨hencapped, hopened⟩ := laws.opens hpair hsealed
  have hmaterial : envelope.receiverOpeningMaterial env.prims.provider env.descriptor =
      .ok ⟨envelope.encapsulatedKey, envelope.ciphertext,
        envelopeAad env.descriptor.manifestHash envelope.descriptorFingerprint
          env.descriptor.gatewayKeyId env.descriptor.padding.id,
        env.descriptor.padding.paddedBytes⟩ := by
    unfold PrivateBallotEnvelopeV1.receiverOpeningMaterial
    simp [hmanifest, hkeyId, hpolicy, hlength, hfingerprint, refuseTransport, bind, Except.bind,
      pure, Except.pure]
  unfold openEnvelopeBytesV1
  rw [hmaterial]
  simp only [bind, Except.bind, refuseTransport, hencapped, Bool.not_true, Bool.false_eq_true,
    if_false]
  have hinfo : TransportGateway.hpkeInfo = GuiCore.hpkeInfo := rfl
  rw [hinfo, hopened]
  exact unpadAuthenticatedPayload_paddedPayload hfits (validates env.descriptor).2.2.2

/-- A package that fits the policy is sealed exactly if its ciphertext is within the limit. -/
theorem exists_sealEnvelope_iff (laws : HpkeLaws sender env.hpke IsKeyPair)
    (hpair : IsKeyPair env.receiverSecret env.descriptor.gatewayPublicKey)
    (hfits : ballotBytes.length + 4 ≤ env.descriptor.padding.paddedBytes) :
    (∃ envelope, PrivateBallotEnvelopeV1.sealEnvelope env.prims.provider sender ephemeral
      env.descriptor ballotBytes = .ok envelope) ↔
      env.descriptor.padding.paddedBytes + 16 ≤ maxEnvelopeBytes := by
  constructor
  · rintro ⟨envelope, h⟩
    have hlength := length_ciphertext laws h
    obtain ⟨-, -, -, -, -, -, hsize, -⟩ := PrivateBallotEnvelopeV1.sealEnvelope_eq_ok.mp h
    omega
  · intro hsize
    obtain ⟨fingerprint, hfingerprint⟩ := env.descriptor.exists_fingerprint env.prims.provider
    have hpadded := length_paddedPayload hfits
    obtain ⟨⟨encapsulatedKey, ciphertext⟩, hsealed⟩ := Option.isSome_iff_exists.mp
      (laws.seals hpair ephemeral GuiCore.hpkeInfo
        (paddedPayload env.descriptor.padding.paddedBytes ballotBytes)
        (envelopeAad env.descriptor.manifestHash fingerprint env.descriptor.gatewayKeyId
          env.descriptor.padding.id) (by rw [hpadded]; exact (validates env.descriptor).2.2.2))
    refine ⟨⟨env.descriptor.manifestHash, fingerprint, env.descriptor.gatewayKeyId,
      env.descriptor.padding.id, encapsulatedKey, ciphertext⟩, ?_⟩
    apply PrivateBallotEnvelopeV1.sealEnvelope_eq_ok.mpr
    refine ⟨hfits, laws.isPublicKey hpair, hfingerprint, rfl, rfl, rfl, ?_, hsealed⟩
    dsimp only
    rw [laws.tag hsealed, hpadded]
    exact hsize

/-- What sealing promises for a descriptor: every package that fits is sealed, and every sealed
envelope is read back and opens to the package. -/
structure SealsExactly (sender : HpkeSender) (env : GatewayEnvironment) : Prop where
  seals : ∀ ephemeral ballotBytes, ballotBytes.length + 4 ≤ env.descriptor.padding.paddedBytes →
    ∃ envelope, PrivateBallotEnvelopeV1.sealEnvelope env.prims.provider sender ephemeral
      env.descriptor ballotBytes = .ok envelope
  decodes : ∀ ephemeral ballotBytes envelope, PrivateBallotEnvelopeV1.sealEnvelope
    env.prims.provider sender ephemeral env.descriptor ballotBytes = .ok envelope →
    PrivateBallotEnvelopeV1.fromCanonicalCbor envelope.toCanonicalCbor = .ok envelope
  opens : ∀ ephemeral ballotBytes envelope, PrivateBallotEnvelopeV1.sealEnvelope
    env.prims.provider sender ephemeral env.descriptor ballotBytes = .ok envelope →
    openEnvelopeBytesV1 env envelope = .ok ballotBytes

private theorem lt_envelopeLength (descriptor : TransportDescriptorV1) :
    descriptor.padding.paddedBytes + 16 < descriptor.envelopeLength := by
  simp only [TransportDescriptorFields.envelopeLength, stringLength]
  omega

/-- What is decoded as an envelope is its encoding; and sealing keeps its promise for a descriptor
exactly if the encoded length of its envelopes is within the limit. Whatever is sealed opens to the
package. -/
theorem sealedEnvelope_exact (laws : HpkeLaws sender env.hpke IsKeyPair)
    (hpair : IsKeyPair env.receiverSecret env.descriptor.gatewayPublicKey) :
    (∀ bytes envelope, PrivateBallotEnvelopeV1.fromCanonicalCbor bytes = .ok envelope →
      envelope.toCanonicalCbor = bytes) ∧
    (∀ ephemeral ballotBytes envelope, PrivateBallotEnvelopeV1.sealEnvelope env.prims.provider
      sender ephemeral env.descriptor ballotBytes = .ok envelope →
      openEnvelopeBytesV1 env envelope = .ok ballotBytes) ∧
    (SealsExactly sender env ↔ env.descriptor.envelopeLength ≤ maxEnvelopeBytes) := by
  refine ⟨?_, ?_, ?_, ?_⟩
  · intro bytes envelope h
    exact (PrivateBallotEnvelopeV1.fromCanonicalCbor_eq_ok h).1
  · intro ephemeral ballotBytes envelope h
    exact openEnvelopeBytesV1_sealedEnvelope laws hpair h
  · intro h
    obtain ⟨envelope, hsealed⟩ := h.seals [] [] (validates env.descriptor).2.2.1
    have hdecoded := h.decodes [] [] envelope hsealed
    rw [fromCanonicalCbor_sealedEnvelope laws hsealed] at hdecoded
    by_contra hlong
    rw [if_pos (Nat.not_le.mp hlong)] at hdecoded
    cases hdecoded
  · intro hlength
    have hciphertext := lt_envelopeLength env.descriptor
    constructor
    case seals =>
      intro ephemeral ballotBytes hfits
      exact (exists_sealEnvelope_iff laws hpair hfits).mpr (by omega)
    case decodes =>
      intro ephemeral ballotBytes envelope h
      rw [fromCanonicalCbor_sealedEnvelope laws h, if_neg (Nat.not_lt.mpr hlength)]
    case opens =>
      intro ephemeral ballotBytes envelope h
      exact openEnvelopeBytesV1_sealedEnvelope laws hpair h

end

namespace Sample

/-- The sender of `hpke`: the tag is sixteen zeros. -/
def sender : HpkeSender where
  isPublicKey _ := true
  sealCiphertext _ _ _ plaintext _ := some (Bytes32.replicate 6, plaintext ++ List.replicate 16 0)

theorem hpkeLaws : HpkeLaws sender hpke fun _ _ ↦ True where
  isPublicKey _ := rfl
  seals _ _ _ _ _ _ := rfl
  tag h := by
    cases h
    rw [List.length_append, List.length_replicate]
  opens _ h := by
    cases h
    refine ⟨rfl, ?_⟩
    simp [hpke]

/-- Payloads for which the ciphertext is the largest that is sealed. -/
def fullEnv : GatewayEnvironment :=
  { env with descriptor :=
      { descriptor with padding := ⟨.lit "padding", 1048560⟩, valid := by decide +kernel } }

/-- The longest payloads that a descriptor can ask for. -/
def longestEnv : GatewayEnvironment :=
  { env with descriptor :=
      { descriptor with padding := ⟨.lit "padding", 1048576⟩, valid := by decide +kernel } }

end Sample

/-- Payloads of 128 bytes keep the promise. -/
theorem sealedEnvelope_exact_sample : SealsExactly Sample.sender Sample.env :=
  (sealedEnvelope_exact Sample.hpkeLaws trivial).2.2.mpr (by decide)

/-- The empty package is sealed for a payload of 1048560 bytes, and no gateway can read the
envelope; for a payload of 1048576 bytes, which a descriptor may ask for, nothing is sealed. -/
theorem sealedEnvelope_too_long :
    (∃ envelope, PrivateBallotEnvelopeV1.sealEnvelope Sample.fullEnv.prims.provider Sample.sender []
        Sample.fullEnv.descriptor [] = .ok envelope ∧
      PrivateBallotEnvelopeV1.fromCanonicalCbor envelope.toCanonicalCbor =
        .error .oversizedPayload) ∧
    (4 ≤ Sample.longestEnv.descriptor.padding.paddedBytes ∧
      ¬ ∃ envelope, PrivateBallotEnvelopeV1.sealEnvelope Sample.longestEnv.prims.provider
        Sample.sender [] Sample.longestEnv.descriptor [] = .ok envelope) := by
  constructor
  · have hlong : maxEnvelopeBytes < Sample.fullEnv.descriptor.envelopeLength := by decide
    have hsealed : ∃ envelope, PrivateBallotEnvelopeV1.sealEnvelope Sample.fullEnv.prims.provider
        Sample.sender [] Sample.fullEnv.descriptor [] = .ok envelope :=
      (exists_sealEnvelope_iff Sample.hpkeLaws trivial (by decide)).mpr (by decide)
    obtain ⟨envelope, h⟩ := hsealed
    refine ⟨envelope, h, ?_⟩
    rw [fromCanonicalCbor_sealedEnvelope Sample.hpkeLaws h, if_pos hlong]
  · refine ⟨by decide, ?_⟩
    intro h
    have hsize : Sample.longestEnv.descriptor.padding.paddedBytes + 16 ≤ maxEnvelopeBytes :=
      (exists_sealEnvelope_iff Sample.hpkeLaws trivial (by decide)).mp h
    exact absurd hsize (by decide)

end PrivateBallot.TransportGateway
