import PrivateBallot.Base.NumberedCalls
import PrivateBallot.Base.Split
import PrivateBallot.GuiCore.ElectionStatus
import PrivateBallot.OotleAnchor.PublicPayload

/-!
# Pinned trust settings

Library `GuiCore`. `crates/gui-core/src/production_transport_authority_config.rs` and
`crates/gui-core/src/trusted_anchor_deployment.rs:196-318,370-560`: the production transport root
and the two trusted deployments, each in a file of its own that is written once and removed after a
confirmation. The calls are interleaved at their file operations. JSON, the hash and the test
for an Ed25519 key are parameters.
-/

namespace PrivateBallot.GuiCore

open PrivateBallot.Base PrivateBallot.Protocol PrivateBallot.OotleAnchor

def productionTransportAuthoritySchemaV1 : Text :=
  .lit "TARI_CC_PRIVATE_BALLOT_PRODUCTION_TRANSPORT_AUTHORITY_ROOT_V1"
def productionTransportRootUnprovisionedKeyId : Text :=
  .lit "PRODUCTION_TRANSPORT_ROOT_NOT_YET_PROVISIONED"
def rootKeyIdMaxLen : Nat := 128
def rootLabelMaxLen : Nat := 256
def trustedOotleDeploymentSchemaV1 : Text :=
  .lit "TARI_CC_PRIVATE_BALLOT_TRUSTED_OOTLE_DEPLOYMENT_V1"
def trustedOotleDeploymentSchemaV2 : Text :=
  .lit "TARI_CC_PRIVATE_BALLOT_TRUSTED_OOTLE_DEPLOYMENT_V2"
def trustedOotleDeploymentV2ArtifactDigestHex : Text :=
  .lit "ce5334dfc0cdbfe74726accfe7201a778331bf2020865a2fc2b24a68a971d908"
def maxTemplateWasmBytesV1 : Nat := 16 * 1024 * 1024
def wasmMagic : Bytes := [0x00, 0x61, 0x73, 0x6d]
def wasmVersion1 : Bytes := [0x01, 0x00, 0x00, 0x00]

/-- `ANCHOR_TEMPLATE_MODULE_V1` -/
def anchorTemplateModuleV1 : Text := .lit "tari_private_ballot_anchor"

/-- `trusted_ootle_deployment_event_topic_v1` -/
def trustedOotleDeploymentEventTopicV1 : Text :=
  .ofChars (anchorTemplateModuleV1.chars ++ '.' :: anchorEventTopicSuffixV1.chars)

/-! ### Errors -/

/-- `production_transport_authority_config_invalid` -/
def productionTransportAuthorityConfigInvalid (code message : String) : GuiCoreError :=
  ⟨code, .invalidInput, some "production-transport-authority", message⟩

def productionTransportAuthorityNotProvisioned : GuiCoreError :=
  ⟨"GUI_PRODUCTION_TRANSPORT_AUTHORITY_NOT_PROVISIONED", .invalidInput,
    some "production-transport-authority",
    "no production transport authority public root is configured; load the operator-supplied " ++
      "public root before production transport can be verified"⟩

def productionTransportAuthorityAlreadyConfigured : GuiCoreError :=
  ⟨"GUI_PRODUCTION_TRANSPORT_AUTHORITY_ALREADY_CONFIGURED", .invalidLifecycleTransition,
    some "production-transport-authority",
    "a production transport authority public root is already configured; forget it explicitly " ++
      "before configuring a different one"⟩

def trustedOotleDeploymentInvalid : GuiCoreError :=
  ⟨"GUI_TRUSTED_OOTLE_DEPLOYMENT_INVALID", .invalidInput, some "trusted-ootle-deployment",
    "the trusted Ootle anchor deployment record is invalid"⟩

def trustedOotleDeploymentLocked : GuiCoreError :=
  ⟨"GUI_TRUSTED_OOTLE_DEPLOYMENT_LOCKED", .invalidLifecycleTransition,
    some "trusted-ootle-deployment",
    "unlock the current Ootle anchor deployment before replacing it"⟩

def trustedOotleDeploymentUnlockNotConfirmed : GuiCoreError :=
  ⟨"GUI_TRUSTED_OOTLE_DEPLOYMENT_UNLOCK_NOT_CONFIRMED", .invalidInput,
    some "trusted-ootle-deployment",
    "unlocking the trusted Ootle anchor deployment requires explicit confirmation"⟩

private def schemaInvalid (message : String) : GuiCoreError :=
  productionTransportAuthorityConfigInvalid
    "GUI_PRODUCTION_TRANSPORT_AUTHORITY_CONFIG_SCHEMA_INVALID" message

private def publicKeyInvalid (message : String) : GuiCoreError :=
  productionTransportAuthorityConfigInvalid
    "GUI_PRODUCTION_TRANSPORT_AUTHORITY_PUBLIC_KEY_INVALID" message

/-! ### Data -/

/-- `ProductionTransportAuthorityRootConfigV1` -/
structure ProductionTransportAuthorityRootConfigV1 where
  schema : Text
  network : Text
  rootKeyId : Text
  rootPublicKeyHex : Text
  label : Option Text
  configuredAtUnixMs : UInt64
deriving DecidableEq

/-- `ProductionTransportAuthorityConfigureRequestV1` -/
structure ProductionTransportAuthorityConfigureRequestV1 where
  network : Text
  rootKeyId : Text
  rootPublicKeyHex : Text
  label : Option Text
deriving DecidableEq

/-- `ProductionTransportAuthorityReadinessKindV1` -/
inductive ProductionTransportAuthorityReadinessKindV1 where
  | unprovisioned
  | ready
  | malformed
deriving DecidableEq

/-- `ProductionTransportAuthorityReadinessV1` -/
structure ProductionTransportAuthorityReadinessV1 where
  kind : ProductionTransportAuthorityReadinessKindV1
  code : String
  rootKeyId : Option Text
  publicKeyFingerprintHex : Option Text
  network : Option Text
  label : Option Text
  summary : String
  managedTorBuild : Bool
deriving DecidableEq

/-- `GuiTrustedOotleDeploymentV1`, and with the same fields `GuiTrustedOotleDeploymentV2`. -/
structure GuiTrustedOotleDeployment where
  schema : Text
  network : Text
  templateAddress : Text
  templateArtifactDigestHex : Text
  templateModule : Text
  templateFunction : Text
  templateEventTopic : Text
  lockedAtUnixMs : UInt64
deriving DecidableEq

/-- `GuiTrustedOotleDeploymentLockRequestV1`. The selected file is the one that the call reads. -/
structure GuiTrustedOotleDeploymentLockRequestV1 where
  network : Text
  templateAddress : Text
deriving DecidableEq

/-- `GuiTrustedOotleDeploymentLockRequestV2` -/
structure GuiTrustedOotleDeploymentLockRequestV2 where
  network : Text
  templateAddress : Text
  templateArtifactDigestHex : Text
deriving DecidableEq

/-- `GuiTrustedOotleDeploymentStatusV1` and `V2`: `locked` is that there is one. -/
abbrev GuiTrustedOotleDeploymentStatus := Option GuiTrustedOotleDeployment

/-- `serde_json` on a type: what is written, and what bytes are read as. -/
structure JsonOf (α : Type) where
  toVecPretty : α → Bytes
  fromSlice : Bytes → Option α

/-- What is used of other crates. -/
structure TrustCrates where
  provider : HashProvider
  ed : SignatureCrate
  root : JsonOf ProductionTransportAuthorityRootConfigV1
  deploymentV1 : JsonOf GuiTrustedOotleDeployment
  deploymentV2 : JsonOf GuiTrustedOotleDeployment

/-! ### The root: pure checks -/

/-- `str::trim` -/
def trimmed (t : Text) : Text := .ofChars (Split.trim t.chars)

/-- `to_ascii_lowercase` -/
def asciiLowercased (t : Text) : Text := .ofChars (t.chars.map Char.toLower)

/-- `to_lower_hex` -/
def lowerHex (bytes : Bytes) : Text := .ofChars ((Hex.encode bytes).map fun b ↦ .ofNat b.toNat)

/-- 64 lowercase hexadecimal digits. -/
def isLowerDigestHex (hex : Text) : Bool :=
  hex.len = 64 && hex.toBytes.all fun b ↦ (Hex.value b).isSome

/-- `validated_public_key`; `production_transport_authority_config.rs:343`. -/
def validatedPublicKey (config : ProductionTransportAuthorityRootConfigV1) : GuiResult Bytes32 :=
  let hex := trimmed config.rootPublicKeyHex
  if hex ≠ config.rootPublicKeyHex ∨ ¬ isLowerDigestHex hex then
    .error (publicKeyInvalid ("the production transport authority public key must be 64 " ++
      "lower-hex characters (32 bytes)"))
  else match Hex.decode hex.toBytes with
    | none => .error (publicKeyInvalid
      "the production transport authority public key is not decodable hex")
    | some decoded => match Bytes32.ofBytes? decoded with
      | none => .error (publicKeyInvalid
        "the production transport authority public key must decode to exactly 32 bytes")
      | some publicKey => .ok publicKey

/-- `provision_production_transport_authority_root_v1`; `crates/gui-core/src/transport.rs:242`. -/
def provisionProductionTransportAuthorityRootV1 (ed : SignatureCrate) (keyId : Text)
    (publicKey : Bytes32) : Except TransportError TransportAuthorityRootV1 :=
  if keyId.len = 0 ∨ keyId = productionTransportRootUnprovisionedKeyId then .error .untrustedRoot
  else if publicKey = .replicate 0 then .error .untrustedRoot
  else if ed.isVerifyingKey publicKey then .ok (.pinned keyId publicKey)
  else .error .untrustedRoot

/-- The checks of `configured_root` on the key id. -/
def checkRootKeyId (rootKeyId : Text) : GuiResult Text :=
  let keyId := trimmed rootKeyId
  if keyId.len = 0 then
    .error (productionTransportAuthorityConfigInvalid
      "GUI_PRODUCTION_TRANSPORT_AUTHORITY_KEY_ID_EMPTY"
      "the production transport authority root key id must not be empty")
  else if keyId ≠ rootKeyId ∨ rootKeyIdMaxLen < keyId.len then
    .error (productionTransportAuthorityConfigInvalid
      "GUI_PRODUCTION_TRANSPORT_AUTHORITY_KEY_ID_INVALID"
      "the production transport authority root key id has surrounding whitespace or is too long")
  else if keyId = productionTransportRootUnprovisionedKeyId then
    .error (productionTransportAuthorityConfigInvalid
      "GUI_PRODUCTION_TRANSPORT_AUTHORITY_KEY_ID_RESERVED"
      ("the production transport authority root key id must not be the reserved unprovisioned " ++
        "sentinel id"))
  else .ok keyId

/-- The checks of `configured_root` on the network. -/
def checkRootNetwork (network : Text) (expectedNetwork : Option Text) : GuiResult Unit := do
  let found ← (OotleNetworkIdV1.new network).mapError fun _ ↦
    productionTransportAuthorityConfigInvalid "GUI_PRODUCTION_TRANSPORT_AUTHORITY_NETWORK_INVALID"
      "the production transport authority network identifier is invalid"
  match expectedNetwork with
  | none => .ok ()
  | some expected =>
    if found.asStr ≠ expected then
      .error (productionTransportAuthorityConfigInvalid
        "GUI_PRODUCTION_TRANSPORT_AUTHORITY_NETWORK_MISMATCH"
        "the configured production transport authority network does not match the expected network")
    else .ok ()

/-- `configured_root`; `production_transport_authority_config.rs:291`. -/
def configuredRoot (ed : SignatureCrate) (config : ProductionTransportAuthorityRootConfigV1)
    (expectedNetwork : Option Text) : GuiResult TransportAuthorityRootV1 := do
  checkRootNetwork config.network expectedNetwork
  let keyId ← checkRootKeyId config.rootKeyId
  let publicKey ← validatedPublicKey config
  (provisionProductionTransportAuthorityRootV1 ed keyId publicKey).mapError fun _ ↦
    publicKeyInvalid ("the production transport authority public key is not a usable Ed25519 " ++
      "verification key")

/-- What `load_config` makes of the bytes it has read. -/
def parseRootConfig (crates : TrustCrates) (bytes : Bytes) :
    GuiResult ProductionTransportAuthorityRootConfigV1 :=
  match crates.root.fromSlice bytes with
  | none => .error (schemaInvalid
    "the production transport authority root config is not valid JSON for this schema")
  | some config =>
    if config.schema ≠ productionTransportAuthoritySchemaV1 then
      .error (schemaInvalid
        "the production transport authority root config schema is unrecognized")
    else .ok config

/-- What `production_transport_authority_readiness_v1` makes of a loaded config. -/
def readinessOf (crates : TrustCrates) (managedTorBuild : Bool)
    (loaded : GuiResult (Option ProductionTransportAuthorityRootConfigV1)) :
    ProductionTransportAuthorityReadinessV1 :=
  match loaded with
  | .ok none => ⟨.unprovisioned, "NOT_PROVISIONED", none, none, none, none,
    "No production transport authority public root is configured. Load the operator-supplied " ++
      "public root to enable production transport verification.", managedTorBuild⟩
  | .ok (some config) => match validatedPublicKey config with
    | .ok publicKey => ⟨.ready, "READY", some config.rootKeyId,
      some (lowerHex (crates.provider.hash publicKey.toBytes).toBytes), some config.network,
      config.label, "A production transport authority public root is configured. The private " ++
        "signing authority is NOT stored in the app.", managedTorBuild⟩
    | .error e => ⟨.malformed, e.code, none, none, none, none, "The configured production " ++
      "transport authority root is malformed and cannot be used. Fix or forget it.",
      managedTorBuild⟩
  | .error e => ⟨.malformed, e.code, none, none, none, none,
    "The production transport authority root config could not be read.", managedTorBuild⟩

/-- What `production_transport_authority_root_set_v1` makes of a loaded config. -/
def rootSetOf (ed : SignatureCrate) (expectedNetwork : Option Text)
    (loaded : GuiResult (Option ProductionTransportAuthorityRootConfigV1)) :
    GuiResult TransportAuthorityRootSetV1 := do
  match ← loaded with
  | none => .error productionTransportAuthorityNotProvisioned
  | some config =>
    let root ← configuredRoot ed config expectedNetwork
    pure (.new root)

/-- The label of `config_from_request`; `production_transport_authority_config.rs:381`. -/
def labelFromRequest (label : Option Text) : GuiResult (Option Text) :=
  match label.map trimmed with
  | none => .ok none
  | some value =>
    if value.len = 0 then .ok none
    else if rootLabelMaxLen < value.len then
      .error (productionTransportAuthorityConfigInvalid
        "GUI_PRODUCTION_TRANSPORT_AUTHORITY_LABEL_INVALID"
        "the production transport authority label is too long")
    else .ok (some value)

/-- `config_from_request`, given what the clock shows. -/
def configFromRequest (request : ProductionTransportAuthorityConfigureRequestV1) (now : UInt64) :
    GuiResult ProductionTransportAuthorityRootConfigV1 := do
  let label ← labelFromRequest request.label
  pure {
    schema := productionTransportAuthoritySchemaV1
    network := trimmed request.network
    rootKeyId := trimmed request.rootKeyId
    rootPublicKeyHex := asciiLowercased (trimmed request.rootPublicKeyHex)
    label := label
    configuredAtUnixMs := now }

/-! ### The deployments: pure checks -/

/-- `parse_lower_digest_hex`; `trusted_anchor_deployment.rs:448`. -/
def parseLowerDigestHex (hex : Text) : GuiResult Bytes32 :=
  if ¬ isLowerDigestHex hex then .error trustedOotleDeploymentInvalid
  else match (Hex.decode hex.toBytes).bind Bytes32.ofBytes? with
    | none => .error trustedOotleDeploymentInvalid
    | some digest => .ok digest

/-- `validate_saved_deployment`; `trusted_anchor_deployment.rs:393`. -/
def validateSavedDeployment (deployment : GuiTrustedOotleDeployment) :
    GuiResult AnchorTemplateBindingV1 := do
  if deployment.schema ≠ trustedOotleDeploymentSchemaV1 ∨
      deployment.templateModule ≠ anchorTemplateModuleV1 ∨
      deployment.templateFunction ≠ anchorEventFunctionV1 ∨
      deployment.templateEventTopic ≠ trustedOotleDeploymentEventTopicV1 ∨
      trimmed deployment.network ≠ deployment.network then
    .error trustedOotleDeploymentInvalid
  else
    let _ ← (OotleNetworkIdV1.new deployment.network).mapError fun _ ↦ trustedOotleDeploymentInvalid
    let _ ← parseLowerDigestHex deployment.templateArtifactDigestHex
    (AnchorTemplateBindingV1.new deployment.templateAddress anchorTemplateModuleV1
      anchorEventFunctionV1 trustedOotleDeploymentEventTopicV1).mapError fun _ ↦
        trustedOotleDeploymentInvalid

/-- `validate_saved_deployment_v2`; `trusted_anchor_deployment.rs:419`. -/
def validateSavedDeploymentV2 (deployment : GuiTrustedOotleDeployment) :
    GuiResult AnchorTemplateBindingV2 := do
  if deployment.schema ≠ trustedOotleDeploymentSchemaV2 ∨
      deployment.templateModule ≠ anchorTemplateModuleV2 ∨
      deployment.templateFunction ≠ anchorEventFunctionV2 ∨
      deployment.templateEventTopic ≠ fullEventTopicV2 ∨
      trimmed deployment.network ≠ deployment.network ∨
      trimmed deployment.templateAddress ≠ deployment.templateAddress ∨
      deployment.templateArtifactDigestHex ≠ trustedOotleDeploymentV2ArtifactDigestHex then
    .error trustedOotleDeploymentInvalid
  else
    let _ ← (OotleNetworkIdV1.new deployment.network).mapError fun _ ↦ trustedOotleDeploymentInvalid
    let _ ← parseLowerDigestHex deployment.templateArtifactDigestHex
    (AnchorTemplateBindingV2.new deployment.templateAddress anchorTemplateModuleV2
      anchorEventFunctionV2 fullEventTopicV2).mapError fun _ ↦ trustedOotleDeploymentInvalid

/-- `read_template_wasm_bytes`, given what was read of a regular file, and the digest that
`inspect_template_wasm_v1` reports. -/
def inspectTemplateWasm (provider : HashProvider) (read : Option Bytes) : GuiResult Text :=
  match read with
  | none => .error trustedOotleDeploymentInvalid
  | some bytes =>
    if bytes = [] ∨ maxTemplateWasmBytesV1 < bytes.length ∨
        bytes.take 4 ≠ wasmMagic ∨ (bytes.drop 4).take 4 ≠ wasmVersion1 then
      .error trustedOotleDeploymentInvalid
    else .ok (lowerHex (provider.hash bytes).toBytes)

/-- `deployment_from_request`, given what the clock shows; `trusted_anchor_deployment.rs:371`. -/
def deploymentFromRequest (request : GuiTrustedOotleDeploymentLockRequestV1)
    (templateArtifactDigestHex : Text) (now : UInt64) : GuiResult GuiTrustedOotleDeployment := do
  let deployment : GuiTrustedOotleDeployment := {
    schema := trustedOotleDeploymentSchemaV1
    network := trimmed request.network
    templateAddress := trimmed request.templateAddress
    templateArtifactDigestHex := trimmed templateArtifactDigestHex
    templateModule := anchorTemplateModuleV1
    templateFunction := anchorEventFunctionV1
    templateEventTopic := trustedOotleDeploymentEventTopicV1
    lockedAtUnixMs := now }
  let _ ← validateSavedDeployment deployment
  pure deployment

/-- The deployment of `lock_trusted_ootle_deployment_v2`, given what the clock shows. -/
def deploymentFromRequestV2 (request : GuiTrustedOotleDeploymentLockRequestV2)
    (artifactDigest : Bytes32) (now : UInt64) : GuiResult GuiTrustedOotleDeployment := do
  let deployment : GuiTrustedOotleDeployment := {
    schema := trustedOotleDeploymentSchemaV2
    network := trimmed request.network
    templateAddress := trimmed request.templateAddress
    templateArtifactDigestHex := lowerHex artifactDigest.toBytes
    templateModule := anchorTemplateModuleV2
    templateFunction := anchorEventFunctionV2
    templateEventTopic := fullEventTopicV2
    lockedAtUnixMs := now }
  let _ ← validateSavedDeploymentV2 deployment
  pure deployment

/-- What the loaders of deployments make of the bytes they have read. -/
def parseDeployment {β : Type} (json : JsonOf GuiTrustedOotleDeployment)
    (validate : GuiTrustedOotleDeployment → GuiResult β) (bytes : Bytes) :
    GuiResult GuiTrustedOotleDeployment :=
  match json.fromSlice bytes with
  | none => .error trustedOotleDeploymentInvalid
  | some deployment => do
    let _ ← validate deployment
    pure deployment

end PrivateBallot.GuiCore
