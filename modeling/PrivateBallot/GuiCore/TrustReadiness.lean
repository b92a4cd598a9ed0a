import PrivateBallot.GuiCore.TrustSettingRuns

/-!
# What is reported about the trust settings

Library `GuiCore`. `crates/gui-core/src/production_transport_authority_config.rs:116-190,291-360`.
The report looks at the schema and at the digits of the key; the use of the root also looks at the
network, at the key id and at the point that the key stands for. They agree on a content exactly
where what is left out by the report would not be found wrong.
-/

namespace PrivateBallot.GuiCore

open PrivateBallot.Base PrivateBallot.Protocol PrivateBallot.OotleAnchor

/-- The checks that the use of a root makes and its report does not. -/
structure UsableRoot (ed : SignatureCrate) (config : ProductionTransportAuthorityRootConfigV1)
    (publicKey : Bytes32) : Prop where
  network : ∃ network, OotleNetworkIdV1.new config.network = .ok network
  trimmed : trimmed config.rootKeyId = config.rootKeyId
  nonempty : config.rootKeyId.len ≠ 0
  short : config.rootKeyId.len ≤ rootKeyIdMaxLen
  unreserved : config.rootKeyId ≠ productionTransportRootUnprovisionedKeyId
  nonzero : publicKey ≠ .replicate 0
  point : ed.isVerifyingKey publicKey = true

/-- What makes the report of a content true: if its schema and the digits of its key are right, then
so is the rest. -/
def RootContentSound (crates : TrustCrates) (content : Option Bytes) : Prop :=
  ∀ bytes config publicKey, content = some bytes → parseRootConfig crates bytes = .ok config →
    validatedPublicKey config = .ok publicKey → UsableRoot crates.ed config publicKey

/-- What a call returns on its own, where every operation works. -/
def TrustFiles.returns {β : Type} (files : TrustFiles) (call : Nat) (request : TrustRequest)
    (p : TrustProgram β) : β :=
  (p.perform (trustExec call request) (fun _ ↦ .works) files).1

/-- The report on a state of the files is true: it says that a root is ready exactly if there is a
root set, and shows its key id and the fingerprint of its key. -/
structure ReportsTruthfully (crates : TrustCrates) (call : Nat) (request : TrustRequest)
    (managedTorBuild : Bool) (files : TrustFiles) : Prop where
  ready_iff : (files.returns call request
      (productionTransportAuthorityReadinessV1 crates managedTorBuild)).kind = .ready ↔
    ∃ roots, files.returns call request (productionTransportAuthorityRootSetV1 crates none) =
      .ok roots
  same : ∀ roots, files.returns call request (productionTransportAuthorityRootSetV1 crates none) =
      .ok roots → ∃ keyId publicKey, roots = .new (.pinned keyId publicKey) ∧
    (files.returns call request
      (productionTransportAuthorityReadinessV1 crates managedTorBuild)).rootKeyId = some keyId ∧
    (files.returns call request (productionTransportAuthorityReadinessV1 crates
      managedTorBuild)).publicKeyFingerprintHex =
        some (lowerHex (crates.provider.hash publicKey.toBytes).toBytes)

/-! ### The checks -/

theorem mapError_eq_ok {ε ε' α : Type} {x : Except ε α} {f : ε → ε'} {a : α} :
    x.mapError f = .ok a ↔ x = .ok a := by
  cases x with
  | error e => exact ⟨fun h ↦ (by cases h), fun h ↦ (by cases h)⟩
  | ok b => exact ⟨fun h ↦ (by cases h; rfl), fun h ↦ (by cases h; rfl)⟩

theorem checkRootNetwork_none_eq_ok {network : Text} :
    checkRootNetwork network none = .ok () ↔ ∃ found, OotleNetworkIdV1.new network = .ok found := by
  unfold checkRootNetwork
  cases OotleNetworkIdV1.new network with
  | error e => exact ⟨fun h ↦ (by cases h), fun ⟨_, h⟩ ↦ (by cases h)⟩
  | ok found => exact ⟨fun _ ↦ ⟨found, rfl⟩, fun _ ↦ rfl⟩

theorem checkRootKeyId_eq_ok {rootKeyId keyId : Text} :
    checkRootKeyId rootKeyId = .ok keyId ↔ keyId = rootKeyId ∧ trimmed rootKeyId = rootKeyId ∧
      rootKeyId.len ≠ 0 ∧ rootKeyId.len ≤ rootKeyIdMaxLen ∧
      rootKeyId ≠ productionTransportRootUnprovisionedKeyId := by
  unfold checkRootKeyId
  dsimp only
  constructor
  · intro h
    split at h
    · cases h
    split at h
    · cases h
    split at h
    · cases h
    next hempty hsame hreserved =>
    cases h
    obtain ⟨htrimmed, hshort⟩ := not_or.mp hsame
    rw [not_not] at htrimmed
    rw [htrimmed] at hempty hshort hreserved
    exact ⟨htrimmed, htrimmed, hempty, Nat.le_of_not_lt hshort, hreserved⟩
  · rintro ⟨rfl, htrimmed, hempty, hshort, hreserved⟩
    rw [htrimmed, if_neg hempty, if_neg (not_or.mpr ⟨not_not.mpr rfl, Nat.not_lt.mpr hshort⟩),
      if_neg hreserved]

theorem provision_eq_ok {ed : SignatureCrate} {keyId : Text} {publicKey : Bytes32}
    (hkeyId : ¬ (keyId.len = 0 ∨ keyId = productionTransportRootUnprovisionedKeyId))
    {root : TransportAuthorityRootV1} :
    provisionProductionTransportAuthorityRootV1 ed keyId publicKey = .ok root ↔
      root = .pinned keyId publicKey ∧ publicKey ≠ .replicate 0 ∧
        ed.isVerifyingKey publicKey = true := by
  unfold provisionProductionTransportAuthorityRootV1
  rw [if_neg hkeyId]
  by_cases hzero : publicKey = .replicate 0
  · rw [if_pos hzero]
    exact ⟨fun h ↦ (by cases h), fun h ↦ absurd hzero h.2.1⟩
  · rw [if_neg hzero]
    by_cases hpoint : ed.isVerifyingKey publicKey = true
    · rw [if_pos hpoint]
      constructor
      · intro h
        cases h
        exact ⟨rfl, hzero, hpoint⟩
      · rintro ⟨rfl, -, -⟩
        rfl
    · rw [if_neg hpoint]
      exact ⟨fun h ↦ (by cases h), fun h ↦ absurd h.2.2 hpoint⟩

/-- A config with a well-formed key makes a root exactly if the rest is right. -/
theorem configuredRoot_eq_ok {ed : SignatureCrate}
    {config : ProductionTransportAuthorityRootConfigV1} {publicKey : Bytes32}
    (hkey : validatedPublicKey config = .ok publicKey)
    {root : TransportAuthorityRootV1} :
    configuredRoot ed config none = .ok root ↔
      root = .pinned config.rootKeyId publicKey ∧ UsableRoot ed config publicKey := by
  constructor
  · intro h
    obtain ⟨_, hnetwork, h⟩ := bind_eq_ok.mp h
    obtain ⟨keyId, hkeyId, h⟩ := bind_eq_ok.mp h
    obtain ⟨_, hkey', h⟩ := bind_eq_ok.mp h
    rw [hkey] at hkey'
    cases hkey'
    obtain ⟨rfl, htrimmed, hempty, hshort, hreserved⟩ := checkRootKeyId_eq_ok.mp hkeyId
    have hprovisioned : provisionProductionTransportAuthorityRootV1 ed config.rootKeyId publicKey =
        .ok root := mapError_eq_ok.mp h
    obtain ⟨rfl, hzero, hpoint⟩ :=
      (provision_eq_ok (not_or.mpr ⟨hempty, hreserved⟩)).mp hprovisioned
    exact ⟨rfl, checkRootNetwork_none_eq_ok.mp hnetwork, htrimmed, hempty, hshort, hreserved, hzero,
      hpoint⟩
  · rintro ⟨rfl, h⟩
    refine bind_eq_ok.mpr ⟨(), checkRootNetwork_none_eq_ok.mpr h.network, ?_⟩
    refine bind_eq_ok.mpr ⟨config.rootKeyId, checkRootKeyId_eq_ok.mpr
      ⟨rfl, h.trimmed, h.nonempty, h.short, h.unreserved⟩, ?_⟩
    refine bind_eq_ok.mpr ⟨publicKey, hkey, ?_⟩
    exact mapError_eq_ok.mpr ((provision_eq_ok (not_or.mpr ⟨h.nonempty, h.unreserved⟩)).mpr
      ⟨rfl, h.nonzero, h.point⟩)

/-- No root without a well-formed key. -/
theorem not_configuredRoot {ed : SignatureCrate}
    {config : ProductionTransportAuthorityRootConfigV1} {e : GuiCoreError}
    (hkey : validatedPublicKey config = .error e)
    (root : TransportAuthorityRootV1) : configuredRoot ed config none ≠ .ok root := by
  intro h
  obtain ⟨_, -, h⟩ := bind_eq_ok.mp h
  obtain ⟨_, -, h⟩ := bind_eq_ok.mp h
  obtain ⟨_, hkey', -⟩ := bind_eq_ok.mp h
  rw [hkey] at hkey'
  cases hkey'

/-! ### Report and use -/

section Report

variable {crates : TrustCrates}

/-- What `load_config` makes of the content of the root file. -/
def loadedRoot (crates : TrustCrates) :
    Option Bytes → GuiResult (Option ProductionTransportAuthorityRootConfigV1)
  | none => .ok none
  | some bytes => (parseRootConfig crates bytes).map some

theorem loadedRoot_eq_some {content : Option Bytes}
    {config : ProductionTransportAuthorityRootConfigV1} :
    loadedRoot crates content = .ok (some config) ↔
      ∃ bytes, content = some bytes ∧ parseRootConfig crates bytes = .ok config := by
  cases content with
  | none => exact ⟨fun h ↦ (by cases h), fun ⟨_, h, _⟩ ↦ (by cases h)⟩
  | some bytes =>
    show (parseRootConfig crates bytes).map some = _ ↔ _
    constructor
    · intro h
      cases hparse : parseRootConfig crates bytes with
      | error e =>
        rw [hparse] at h
        cases h
      | ok found =>
        rw [hparse] at h
        cases h
        exact ⟨bytes, rfl, hparse⟩
    · rintro ⟨_, heq, hparse⟩
      cases heq
      rw [hparse]
      rfl

theorem returns_loadConfig {β : Type} (files : TrustFiles) (call : Nat) (request : TrustRequest)
    (k : GuiResult (Option ProductionTransportAuthorityRootConfigV1) → β) :
    files.returns call request (loadConfig crates >>= fun loaded ↦ .done (k loaded)) =
      k (loadedRoot crates (files.stored .root)) := by
  obtain ⟨stored, temporary, history, inspected⟩ := files
  unfold TrustFiles.returns
  cases hstored : stored .root with
  | none =>
    simp only [loadConfig, Bind.bind, Program.bind, Program.perform, trustExec, hstored,
      Option.isSome_none, loadedRoot]
  | some bytes =>
    simp only [loadConfig, Bind.bind, Program.bind, Program.perform, trustExec, hstored,
      Option.isSome_some, loadedRoot]

theorem returns_readiness (files : TrustFiles) (call : Nat) (request : TrustRequest)
    (managedTorBuild : Bool) : files.returns call request
      (productionTransportAuthorityReadinessV1 crates managedTorBuild) =
        readinessOf crates managedTorBuild (loadedRoot crates (files.stored .root)) :=
  returns_loadConfig files call request _

theorem returns_rootSet (files : TrustFiles) (call : Nat) (request : TrustRequest)
    (expectedNetwork : Option Text) : files.returns call request
      (productionTransportAuthorityRootSetV1 crates expectedNetwork) =
        rootSetOf crates.ed expectedNetwork (loadedRoot crates (files.stored .root)) :=
  returns_loadConfig files call request _

/-- Without a parsed config nothing is ready and there is no root set. -/
theorem rootSetOf_unparsed {loaded : GuiResult (Option ProductionTransportAuthorityRootConfigV1)}
    (h : ∀ config, loaded ≠ .ok (some config)) (managedTorBuild : Bool) :
    (readinessOf crates managedTorBuild loaded).kind ≠ .ready ∧
      ∀ roots, rootSetOf crates.ed none loaded ≠ .ok roots := by
  rcases loaded with e | found
  · exact ⟨fun h ↦ (by cases h), fun roots h ↦ (by cases h)⟩
  · cases found with
    | none => exact ⟨fun h ↦ (by cases h), fun roots h ↦ (by cases h)⟩
    | some config => exact absurd rfl (h config)

theorem rootSetOf_eq_ok {config : ProductionTransportAuthorityRootConfigV1}
    {roots : TransportAuthorityRootSetV1} :
    rootSetOf crates.ed none (.ok (some config)) = .ok roots ↔
      ∃ root, configuredRoot crates.ed config none = .ok root ∧ roots = .new root := by
  have hunfold : rootSetOf crates.ed none (.ok (some config)) =
      (configuredRoot crates.ed config none >>= fun root ↦ pure (.new root)) := rfl
  rw [hunfold]
  constructor
  · intro h
    obtain ⟨root, hroot, h⟩ := bind_eq_ok.mp h
    cases h
    exact ⟨root, hroot, rfl⟩
  · rintro ⟨root, hroot, rfl⟩
    exact bind_eq_ok.mpr ⟨root, hroot, rfl⟩

/-- What is reported about a config with a well-formed key. -/
theorem readinessOf_of_key {config : ProductionTransportAuthorityRootConfigV1} {publicKey : Bytes32}
    (hkey : validatedPublicKey config = .ok publicKey) (managedTorBuild : Bool) :
    (readinessOf crates managedTorBuild (.ok (some config))).kind = .ready ∧
      (readinessOf crates managedTorBuild (.ok (some config))).rootKeyId = some config.rootKeyId ∧
      (readinessOf crates managedTorBuild (.ok (some config))).publicKeyFingerprintHex =
        some (lowerHex (crates.provider.hash publicKey.toBytes).toBytes) := by
  unfold readinessOf
  dsimp only
  rw [hkey]
  exact ⟨rfl, rfl, rfl⟩

/-- Without a well-formed key nothing is ready and there is no root set. -/
theorem rootSetOf_of_no_key {config : ProductionTransportAuthorityRootConfigV1} {e : GuiCoreError}
    (hkey : validatedPublicKey config = .error e) (managedTorBuild : Bool) :
    (readinessOf crates managedTorBuild (.ok (some config))).kind ≠ .ready ∧
      ∀ roots, rootSetOf crates.ed none (.ok (some config)) ≠ .ok roots := by
  constructor
  · unfold readinessOf
    dsimp only
    rw [hkey]
    exact fun h ↦ (by cases h)
  · intro roots h
    obtain ⟨root, hroot, -⟩ := rootSetOf_eq_ok.mp h
    exact not_configuredRoot hkey root hroot

/-- A report that says that nothing is ready is true where there is no root set. -/
theorem ReportsTruthfully.of_none {call : Nat} {request : TrustRequest} {managedTorBuild : Bool}
    {files : TrustFiles}
    (h : (readinessOf crates managedTorBuild (loadedRoot crates (files.stored .root))).kind ≠
        .ready ∧
      ∀ roots, rootSetOf crates.ed none (loadedRoot crates (files.stored .root)) ≠ .ok roots) :
    ReportsTruthfully crates call request managedTorBuild files := by
  constructor
  · rw [returns_readiness, returns_rootSet]
    exact ⟨fun hready ↦ absurd hready h.1, fun ⟨roots, hroots⟩ ↦ absurd hroots (h.2 roots)⟩
  · intro roots hroots
    rw [returns_rootSet] at hroots
    exact absurd hroots (h.2 roots)

/-- The report is true exactly if the content is sound. -/
theorem reportsTruthfully_iff (call : Nat) (request : TrustRequest) (managedTorBuild : Bool)
    (files : TrustFiles) : ReportsTruthfully crates call request managedTorBuild files ↔
      RootContentSound crates (files.stored .root) := by
  constructor
  · intro h bytes config publicKey hstored hparse hkey
    have hready := h.ready_iff
    rw [returns_readiness, returns_rootSet, loadedRoot_eq_some.mpr ⟨bytes, hstored, hparse⟩]
      at hready
    obtain ⟨roots, hroots⟩ := hready.mp (readinessOf_of_key hkey managedTorBuild).1
    obtain ⟨root, hroot, -⟩ := rootSetOf_eq_ok.mp hroots
    exact ((configuredRoot_eq_ok hkey).mp hroot).2
  · intro hsound
    by_cases hloaded : ∃ config, loadedRoot crates (files.stored .root) = .ok (some config)
    · obtain ⟨config, hloaded⟩ := hloaded
      obtain ⟨bytes, hstored, hparse⟩ := loadedRoot_eq_some.mp hloaded
      cases hkey : validatedPublicKey config with
      | error e =>
        refine .of_none ?_
        rw [hloaded]
        exact rootSetOf_of_no_key hkey managedTorBuild
      | ok publicKey =>
        have husable := hsound bytes config publicKey hstored hparse hkey
        have hroots : rootSetOf crates.ed none (.ok (some config)) =
            .ok (.new (.pinned config.rootKeyId publicKey)) :=
          rootSetOf_eq_ok.mpr ⟨_, (configuredRoot_eq_ok hkey).mpr ⟨rfl, husable⟩, rfl⟩
        obtain ⟨hkind, hkeyId, hfingerprint⟩ :=
          readinessOf_of_key hkey managedTorBuild
        constructor
        · rw [returns_readiness, returns_rootSet, hloaded, hroots]
          exact ⟨fun _ ↦ ⟨_, rfl⟩, fun _ ↦ hkind⟩
        · intro roots h
          rw [returns_rootSet, hloaded, hroots] at h
          cases h
          rw [returns_readiness, hloaded]
          exact ⟨config.rootKeyId, publicKey, rfl, hkeyId, hfingerprint⟩
    · exact .of_none (rootSetOf_unparsed (fun config h ↦ hloaded ⟨config, h⟩) managedTorBuild)

end Report

/-- **The trust settings are written once and reported truthfully** in every run of operations of
which none renames onto a file that is there, or a temporary file that another call has created, or
fails to read a deployment back; and the report is true of exactly the contents that are sound. -/
theorem trustSettings_writtenOnce (crates : TrustCrates) :
    (∀ stored temporary board,
      (trustSystem crates).Run (TrustPermits crates) ⟨stored, temporary, [], fun _ ↦ none⟩ board →
      WrittenOnce crates stored board) ∧
    ∀ call request managedTorBuild files,
      ReportsTruthfully crates call request managedTorBuild files ↔
        RootContentSound crates (files.stored .root) :=
  ⟨fun _ _ _ run ↦ writtenOnce_of_run run, fun call request managedTorBuild files ↦
    reportsTruthfully_iff call request managedTorBuild files⟩

/-! ### Calls at the same time -/

namespace TrustSample

def request (rootKeyId : Text) : ProductionTransportAuthorityConfigureRequestV1 where
  network := .lit "esmeralda"
  rootKeyId := rootKeyId
  rootPublicKeyHex := .lit "5866666666666666666666666666666666666666666666666666666666666666"
  label := none

def config (rootKeyId : Text) (now : UInt64) : ProductionTransportAuthorityRootConfigV1 where
  schema := productionTransportAuthoritySchemaV1
  network := .lit "esmeralda"
  rootKeyId := rootKeyId
  rootPublicKeyHex := .lit "5866666666666666666666666666666666666666666666666666666666666666"
  label := none
  configuredAtUnixMs := now

/-- A string of a JSON text that needs no escapes. -/
def quoted (value : Text) : Bytes := 0x22 :: value.toBytes ++ [0x22]

/-- The JSON text of an object with these members. -/
def object (members : List (String × Bytes)) : Bytes :=
  0x7b :: List.intercalate [0x2c] (members.map fun (key, value) ↦
    [0x0a, 0x20, 0x20] ++ quoted (.lit key) ++ [0x3a, 0x20] ++ value) ++ [0x0a, 0x7d]

/-- The JSON text of a config whose strings need no escapes. -/
def pretty (config : ProductionTransportAuthorityRootConfigV1) : Bytes :=
  object [
    ("schema", quoted config.schema),
    ("network", quoted config.network),
    ("root_key_id", quoted config.rootKeyId),
    ("root_public_key_hex", quoted config.rootPublicKeyHex),
    ("label", match config.label with
      | none => (Text.lit "null").toBytes
      | some label => quoted label),
    ("configured_at_unix_ms", Ascii.decimal config.configuredAtUnixMs.toNat)]

/-- The JSON text of a deployment whose strings need no escapes. -/
def prettyDeployment (deployment : GuiTrustedOotleDeployment) : Bytes :=
  object [
    ("schema", quoted deployment.schema),
    ("network", quoted deployment.network),
    ("template_address", quoted deployment.templateAddress),
    ("template_artifact_digest_hex", quoted deployment.templateArtifactDigestHex),
    ("template_module", quoted deployment.templateModule),
    ("template_function", quoted deployment.templateFunction),
    ("template_event_topic", quoted deployment.templateEventTopic),
    ("locked_at_unix_ms", Ascii.decimal deployment.lockedAtUnixMs.toNat)]

def reserved : ProductionTransportAuthorityRootConfigV1 :=
  config productionTransportRootUnprovisionedKeyId 3

def lockRequest : GuiTrustedOotleDeploymentLockRequestV1 where
  network := .lit "esmeralda"
  templateAddress := .lit "template_1"

/-- A module without sections. -/
def wasm : Bytes := wasmMagic ++ wasmVersion1

def provider : HashProvider :=
  ⟨blake3256HashAlgorithmIdV1, fun bytes ↦ .replicate (bytes.foldl (· + ·) 0)⟩

def deployment : GuiTrustedOotleDeployment where
  schema := trustedOotleDeploymentSchemaV1
  network := .lit "esmeralda"
  templateAddress := .lit "template_1"
  templateArtifactDigestHex := lowerHex (provider.hash wasm).toBytes
  templateModule := anchorTemplateModuleV1
  templateFunction := anchorEventFunctionV1
  templateEventTopic := trustedOotleDeploymentEventTopicV1
  lockedAtUnixMs := 2

def crates : TrustCrates where
  provider := provider
  ed := ⟨fun _ ↦ true, fun _ _ _ ↦ true⟩
  root := ⟨pretty, fun bytes ↦
    [config (.lit "first") 1, config (.lit "second") 2, reserved].find? fun c ↦ pretty c = bytes⟩
  deploymentV1 := ⟨prettyDeployment, fun bytes ↦
    if prettyDeployment deployment = bytes then some deployment else none⟩
  deploymentV2 := ⟨prettyDeployment, fun _ ↦ none⟩

/-- A check for what is permitted. -/
def permits (call : Nat) (_ : TrustRequest) : TrustOp → TrustInput → TrustFiles → Bool
  | .rename file now, input, files => decide (input ≠ .works) || ((files.stored file).isNone &&
    (files.temporary file now).all fun entry ↦ entry.1 = call)
  | .read file .checking, input, files => decide (input = .works) &&
    (files.stored file).any fun bytes ↦
      (parseDeployment crates.deploymentV1 validateSavedDeployment bytes).isOk
  | _, _, _ => true

theorem permits_sound (call : Nat) (r : TrustRequest) (op : TrustOp) (input : TrustInput)
    (files : TrustFiles) (h : permits call r op input files = true) :
    TrustPermits crates call r op input files := by
  unfold permits at h
  split at h
  · next file now =>
    rintro rfl
    obtain ⟨hempty, hmine⟩ := Bool.and_eq_true_iff.mp h
    refine ⟨Option.isNone_iff_eq_none.mp hempty, fun creator bytes hfound ↦ ?_⟩
    rw [hfound] at hmine
    exact of_decide_eq_true hmine
  · next file =>
    obtain ⟨hinput, hread⟩ := Bool.and_eq_true_iff.mp h
    obtain ⟨bytes, hstored, hok⟩ := (Option.any_eq_true _ _).mp hread
    refine ⟨of_decide_eq_true hinput, bytes, ?_⟩
    cases hparse : parseDeployment crates.deploymentV1 validateSavedDeployment bytes with
    | error e =>
      rw [hparse] at hok
      cases hok
    | ok found => exact ⟨found, hstored, rfl⟩
  · next hrename hread =>
    unfold TrustPermits
    split
    · exact absurd rfl (hrename _ _)
    · exact absurd rfl (hread _)
    · trivial

/-- The choices that let a call go on. -/
def advances (call : Nat) (inputs : List TrustInput) : List (CallChoice TrustInput TrustRequest) :=
  inputs.map (.advance call)

/-- A call to configure or to lock up to its temporary file. -/
def before (now : UInt64) : List TrustInput :=
  [.works, .shows (some now), .works, .shows (some now), .works]

def configure (rootKeyId : String) : CallChoice TrustInput TrustRequest :=
  .start (.configure (request (.lit rootKeyId)))

/-- Both calls have looked for the file before either renames. -/
def racing : List (CallChoice TrustInput TrustRequest) :=
  [configure "first", configure "second"] ++
    advances 0 (before 1 ++ [.works, .works, .works]) ++
    advances 1 (before 2 ++ [.works, .works, .works]) ++
    advances 1 [.works, .works, .works, .works] ++ advances 0 [.works, .works, .works, .works]

/-- Two calls in one millisecond: the second finds the name of its temporary file taken, and gives
it up when the first has renamed it. Then a deployment is locked, the root is forgotten and
configured again. -/
def settled : List (CallChoice TrustInput TrustRequest) :=
  [configure "first", configure "second"] ++ advances 0 (before 1) ++ advances 1 (before 1) ++
    advances 0 [.works, .works, .works, .works, .works, .works, .works] ++ advances 1 [.works] ++
    .start (.lockV1 lockRequest) ::
      advances 2 [.works, .selected (some wasm), .shows (some 2), .works, .shows (some 2), .works,
        .works, .works, .works, .works, .works, .works, .works] ++
    .start (.forget true) :: advances 3 [.works, .works] ++
    configure "second" ::
      advances 4 (before 2 ++ [.works, .works, .works, .works, .works, .works, .works])

def files : TrustFiles := ⟨fun _ ↦ none, fun _ _ ↦ none, [], fun _ ↦ none⟩

/-- What a call has returned: an error or not. -/
def returned {α : Type} : TrustProgram (GuiResult α) → Option Bool
  | .done (.ok _) => some true
  | .done (.error _) => some false
  | .act _ _ => none

/-- A root file whose key id is the reserved one. -/
def reservedFiles : TrustFiles :=
  ⟨fun file ↦ if file = .root then some (pretty reserved) else none, fun _ _ ↦ none, [],
    fun _ ↦ none⟩

/-- Both calls return Ok, and the second renaming replaces the file. -/
theorem races : ((trustSystem crates).steps (fun _ _ _ _ _ ↦ true) ⟨files, []⟩ racing).map
    (fun board ↦ (board.state.history, board.calls.map fun call ↦ returned call.2)) =
      some ([.wrote 1 .root (pretty (config (.lit "second") 2)),
        .wrote 0 .root (pretty (config (.lit "first") 1))], [some true, some true]) := by
  decide +kernel

/-- The second call fails and does nothing, and all others return Ok. -/
theorem settles : ((trustSystem crates).steps permits ⟨files, []⟩ settled).map
    (fun board ↦ (board.state.history.map TrustEvent.call,
      board.calls.map fun call ↦ returned call.2)) =
      some ([0, 2, 3, 4], [some true, some false, some true, some true, some true]) := by
  decide +kernel

/-- The reserved key id is reported as ready and refused. -/
theorem reports : (reservedFiles.returns 0 (.forget false)
      (productionTransportAuthorityReadinessV1 crates false)).kind = .ready ∧
    (reservedFiles.returns 0 (.forget false)
      (productionTransportAuthorityRootSetV1 crates none)).isOk = false := by
  decide +kernel

end TrustSample

/-- A run of two calls in one millisecond, a lock, a confirmed removal and a further call. -/
theorem trustSettings_writtenOnce_sample :
    ∃ board, (trustSystem TrustSample.crates).Run (TrustPermits TrustSample.crates)
        TrustSample.files board ∧
      board.calls.map (fun call ↦ TrustSample.returned call.2) =
        [some true, some false, some true, some true, some true] ∧
      board.state.history.map TrustEvent.call = [0, 2, 3, 4] ∧
      WrittenOnce TrustSample.crates TrustSample.files.stored board := by
  obtain ⟨board, hboard, hsettles⟩ := Option.map_eq_some_iff.mp TrustSample.settles
  obtain ⟨hhistory, hreturned⟩ := Prod.mk.inj hsettles
  have run := CallSystem.Run.initial.steps TrustSample.permits_sound hboard
  exact ⟨board, run, hreturned, hhistory,
    (trustSettings_writtenOnce TrustSample.crates).1 _ _ board run⟩

/-- Two calls to configure return Ok with nothing removed between them, and a key id that is refused
is reported as ready. -/
theorem trustSettings_replaced :
    (∃ board, (trustSystem TrustSample.crates).Run (fun _ _ _ _ _ ↦ True) TrustSample.files board ∧
      board.calls.map (fun call ↦ TrustSample.returned call.2) = [some true, some true] ∧
      ¬ WrittenOnce TrustSample.crates TrustSample.files.stored board) ∧
    ¬ ReportsTruthfully TrustSample.crates 0 (.forget false) false TrustSample.reservedFiles := by
  constructor
  · obtain ⟨board, hboard, hraces⟩ := Option.map_eq_some_iff.mp TrustSample.races
    obtain ⟨hhistory, hreturned⟩ := Prod.mk.inj hraces
    refine ⟨board, CallSystem.Run.initial.steps (fun _ _ _ _ _ _ ↦ trivial) hboard, hreturned,
      fun h ↦ ?_⟩
    obtain ⟨_, _, hremoved⟩ := h.once [] [] [] 1 0 .root _ _ hhistory
    cases hremoved
  · intro h
    obtain ⟨hready, hroots⟩ := TrustSample.reports
    obtain ⟨roots, hok⟩ := h.ready_iff.mp hready
    rw [hok] at hroots
    cases hroots

end PrivateBallot.GuiCore
