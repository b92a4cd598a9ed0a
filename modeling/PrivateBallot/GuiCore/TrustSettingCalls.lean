import PrivateBallot.GuiCore.TrustSettings

/-!
# Calls on the trust settings

Library `GuiCore`. `crates/gui-core/src/production_transport_authority_config.rs:116-434` and
`crates/gui-core/src/trusted_anchor_deployment.rs:196-318,523-558`: what the calls on one app-data
directory do, one file operation after the other. A file is written to a temporary one whose name is
the time in milliseconds, looked for once more, and renamed.
-/

namespace PrivateBallot.GuiCore

open PrivateBallot.Base PrivateBallot.Protocol PrivateBallot.OotleAnchor

/-! ### Files -/

/-- The files below the app-data directory. -/
inductive TrustFile where
  | root
  | deploymentV1
  | deploymentV2
deriving DecidableEq

/-- The calls. -/
inductive TrustRequest where
  | configure (request : ProductionTransportAuthorityConfigureRequestV1)
  | forget (confirm : Bool)
  | lockV1 (request : GuiTrustedOotleDeploymentLockRequestV1)
  | unlockV1 (confirm : Bool)
  | lockV2 (request : GuiTrustedOotleDeploymentLockRequestV2)
  | unlockV2 (confirm : Bool)
deriving DecidableEq

/-- What happened to the stored files, and by which call. -/
inductive TrustEvent where
  | wrote (call : Nat) (file : TrustFile) (bytes : Bytes)
  | removed (call : Nat) (request : TrustRequest) (file : TrustFile)
deriving DecidableEq

/-- The stored files, the temporary ones with the call that created them, what happened, and what
each call has read of its WASM file. The last two are for statements. -/
structure TrustFiles where
  stored : TrustFile → Option Bytes
  temporary : TrustFile → UInt64 → Option (Nat × Bytes)
  history : List TrustEvent
  inspected : Nat → Option Bytes

/-- Whether a read of a file comes after the call has written it. For statements about the steps. -/
inductive TrustReading where
  | looking
  | checking
deriving DecidableEq

/-- The file operations, the clock and the selected WASM file. -/
inductive TrustOp where
  | clock
  | pathExists (file : TrustFile)
  | read (file : TrustFile) (reading : TrustReading)
  | remove (file : TrustFile)
  | readWasm
  | createDirectory
  | createTemporary (file : TrustFile) (now : UInt64)
  | writeTemporary (file : TrustFile) (now : UInt64) (bytes : Bytes)
  | syncTemporary
  | rename (file : TrustFile) (now : UInt64)
  | syncDirectory
  | removeTemporary (file : TrustFile) (now : UInt64)

/-- How `fs::remove_file` ends. -/
inductive TrustRemoval where
  | removed
  | notFound
  | failed
deriving DecidableEq

/-- What an operation answers. -/
def TrustOp.Response : TrustOp → Type
  | clock => Option UInt64
  | pathExists _ => Bool
  | read _ _ => Option Bytes
  | remove _ => TrustRemoval
  | readWasm => Option Bytes
  | createDirectory => Bool
  | createTemporary _ _ => Bool
  | writeTemporary _ _ _ => Bool
  | syncTemporary => Bool
  | rename _ _ => Bool
  | syncDirectory => Unit
  | removeTemporary _ _ => Unit

abbrev TrustProgram := Program TrustOp.Response

/-- How the environment lets an operation end: a write may break off behind a part of the bytes, and
the clock may show nothing that fits. -/
inductive TrustInput where
  | works
  | fails (written : Bytes)
  | shows (now : Option UInt64)
  | selected (wasm : Option Bytes)
deriving DecidableEq

namespace TrustFiles

/-- The stored file with this content, or none. -/
def store (files : TrustFiles) (file : TrustFile) (content : Option Bytes) (event : TrustEvent) :
    TrustFiles :=
  { files with
    stored := Function.update files.stored file content
    history := files.history ++ [event] }

/-- The temporary file of a name, or none. -/
def setTemporary (files : TrustFiles) (file : TrustFile) (now : UInt64)
    (content : Option (Nat × Bytes)) : TrustFiles :=
  { files with
    temporary := Function.update files.temporary file
      (Function.update (files.temporary file) now content) }

/-- What a call has read of its WASM file. -/
def inspect (files : TrustFiles) (call : Nat) (wasm : Option Bytes) : TrustFiles :=
  { files with inspected := Function.update files.inspected call wasm }

end TrustFiles

/-- One operation. What is written goes into the file that the call has created, as long as it has a
name. -/
def trustExec (call : Nat) (request : TrustRequest) :
    Program.Handler TrustOp.Response TrustInput TrustFiles
  | .clock, .shows now, files => (now, files)
  | .clock, _, files => (none, files)
  | .pathExists file, .works, files => ((files.stored file).isSome, files)
  | .pathExists _, _, files => (false, files)
  | .read file _, .works, files => (files.stored file, files)
  | .read _ _, _, files => (none, files)
  | .remove file, .works, files =>
    match files.stored file with
    | some _ => (.removed, files.store file none (.removed call request file))
    | none => (.notFound, files)
  | .remove _, _, files => (.failed, files)
  | .readWasm, .selected wasm, files => (wasm, files.inspect call wasm)
  | .readWasm, _, files => (none, files.inspect call none)
  | .createDirectory, input, files => (decide (input = .works), files)
  | .createTemporary file now, .works, files =>
    match files.temporary file now with
    | none => (true, files.setTemporary file now (some (call, [])))
    | some _ => (false, files)
  | .createTemporary _ _, _, files => (false, files)
  | .writeTemporary file now bytes, input, files =>
    let content := match input with
      | .fails written => written
      | _ => bytes
    (decide (input = .works),
      match files.temporary file now with
      | some (creator, _) =>
        if creator = call then files.setTemporary file now (some (call, content)) else files
      | none => files)
  | .syncTemporary, input, files => (decide (input = .works), files)
  | .rename file now, .works, files =>
    match files.temporary file now with
    | some (_, bytes) => (true,
      (files.setTemporary file now none).store file (some bytes) (.wrote call file bytes))
    | none => (false, files)
  | .rename _ _, _, files => (false, files)
  | .syncDirectory, _, files => ((), files)
  | .removeTemporary file now, .works, files => ((), files.setTemporary file now none)
  | .removeTemporary _ _, _, files => ((), files)

/-! ### The calls -/

/-- What a call returns. -/
inductive TrustAnswer where
  | readiness (readiness : ProductionTransportAuthorityReadinessV1)
  | deploymentV1 (status : GuiTrustedOotleDeploymentStatus)
  | deploymentV2 (status : GuiTrustedOotleDeploymentStatus)

/-- `write_config_create_new` and `write_deployment_create_new`, given the bytes of the new file and
the errors of the one or the other. -/
def writeCreateNew (file : TrustFile) (bytes : Bytes) (failure occupied : GuiCoreError) :
    TrustProgram (GuiResult Unit) :=
  .act .clock fun
    | none => .done (.error failure)
    | some (now : UInt64) =>
      let giveUp (e : GuiCoreError) : TrustProgram (GuiResult Unit) :=
        .act (.removeTemporary file now) fun _ ↦ .done (.error e)
      .act (.createTemporary file now) fun
        | false => giveUp failure
        | true => .act (.writeTemporary file now bytes) fun
          | false => giveUp failure
          | true => .act .syncTemporary fun
            | false => giveUp failure
            | true => .act (.pathExists file) fun
              | true => giveUp occupied
              | false => .act (.rename file now) fun
                | false => giveUp failure
                | true => .act .syncDirectory fun _ ↦ .done (.ok ())

variable (crates : TrustCrates)

/-- `write_config_create_new`; `production_transport_authority_config.rs:397`. -/
def writeConfigCreateNew (config : ProductionTransportAuthorityRootConfigV1) :
    TrustProgram (GuiResult Unit) :=
  writeCreateNew .root (crates.root.toVecPretty config)
    (.ioFailure "production-transport-authority") productionTransportAuthorityAlreadyConfigured

/-- `write_deployment_create_new`; `trusted_anchor_deployment.rs:523`. -/
def writeDeploymentCreateNew (file : TrustFile) (json : JsonOf GuiTrustedOotleDeployment)
    (deployment : GuiTrustedOotleDeployment) : TrustProgram (GuiResult Unit) :=
  writeCreateNew file (json.toVecPretty deployment) (.ioFailure "trusted-ootle-deployment")
    trustedOotleDeploymentLocked

/-- `load_config`; `production_transport_authority_config.rs:263`. -/
def loadConfig : TrustProgram (GuiResult (Option ProductionTransportAuthorityRootConfigV1)) :=
  .act (.pathExists .root) fun
    | false => .done (.ok none)
    | true => .act (.read .root .looking) fun
      | none => .done (.error (.ioFailure "production-transport-authority"))
      | some (bytes : Bytes) => .done ((parseRootConfig crates bytes).map some)

/-- `production_transport_authority_readiness_v1` -/
def productionTransportAuthorityReadinessV1 (managedTorBuild : Bool) :
    TrustProgram ProductionTransportAuthorityReadinessV1 :=
  loadConfig crates >>= fun loaded ↦ .done (readinessOf crates managedTorBuild loaded)

/-- `production_transport_authority_root_set_v1` -/
def productionTransportAuthorityRootSetV1 (expectedNetwork : Option Text) :
    TrustProgram (GuiResult TransportAuthorityRootSetV1) :=
  loadConfig crates >>= fun loaded ↦ .done (rootSetOf crates.ed expectedNetwork loaded)

/-- The answer of the calls that end by looking at the root. -/
def answerReadiness : TrustProgram (GuiResult TrustAnswer) :=
  productionTransportAuthorityReadinessV1 crates false >>= fun readiness ↦
    .done (.ok (.readiness readiness))

/-- `configure_production_transport_authority_root_v1` -/
def configureProductionTransportAuthorityRootV1
    (request : ProductionTransportAuthorityConfigureRequestV1) :
    TrustProgram (GuiResult TrustAnswer) :=
  .act (.pathExists .root) fun
    | true => .done (.error productionTransportAuthorityAlreadyConfigured)
    | false => match labelFromRequest request.label with
      | .error e => .done (.error e)
      | .ok _ => .act .clock fun
        | none => .done (.error (.ioFailure "production-transport-authority"))
        | some (now : UInt64) =>
          match (configFromRequest request now).bind fun config ↦
              (configuredRoot crates.ed config (some config.network)).map fun _ ↦ config with
          | .error e => .done (.error e)
          | .ok config => .act .createDirectory fun
            | false => .done (.error (.ioFailure "production-transport-authority"))
            | true => writeConfigCreateNew crates config >>= fun
              | .error e => .done (.error e)
              | .ok () => answerReadiness crates

/-- A removal after a confirmation: `forget_production_transport_authority_root_v1` and the
`unlock_trusted_ootle_deployment` functions, which differ in their errors and in how they answer. -/
def confirmedRemoval (file : TrustFile) (confirm : Bool) (unconfirmed failure : GuiCoreError)
    (answer : TrustProgram (GuiResult TrustAnswer)) : TrustProgram (GuiResult TrustAnswer) :=
  if confirm then
    .act (.remove file) fun
      | .removed => answer
      | .notFound => answer
      | .failed => .done (.error failure)
  else .done (.error unconfirmed)

/-- `forget_production_transport_authority_root_v1` -/
def forgetProductionTransportAuthorityRootV1 (confirm : Bool) :
    TrustProgram (GuiResult TrustAnswer) :=
  confirmedRemoval .root confirm
    (productionTransportAuthorityConfigInvalid
      "GUI_PRODUCTION_TRANSPORT_AUTHORITY_FORGET_NOT_CONFIRMED"
      ("forgetting the configured production transport authority root requires explicit " ++
        "confirmation"))
    (.ioFailure "production-transport-authority") (answerReadiness crates)

/-- `load_trusted_ootle_deployment_v1` and `v2`. -/
def loadTrustedOotleDeployment {β : Type} (file : TrustFile) (reading : TrustReading)
    (json : JsonOf GuiTrustedOotleDeployment) (validate : GuiTrustedOotleDeployment → GuiResult β)
    (failure : GuiCoreError) : TrustProgram (GuiResult GuiTrustedOotleDeploymentStatus) :=
  .act (.pathExists file) fun
    | false => .done (.ok none)
    | true => .act (.read file reading) fun
      | none => .done (.error failure)
      | some (bytes : Bytes) => .done ((parseDeployment json validate bytes).map some)

/-- `load_trusted_ootle_deployment_v1`; `trusted_anchor_deployment.rs:196`. -/
def loadTrustedOotleDeploymentV1 (reading : TrustReading) :
    TrustProgram (GuiResult GuiTrustedOotleDeploymentStatus) :=
  loadTrustedOotleDeployment .deploymentV1 reading crates.deploymentV1 validateSavedDeployment
    (.ioFailure "trusted-ootle-deployment")

/-- `load_trusted_ootle_deployment_v2`; `trusted_anchor_deployment.rs:251`. -/
def loadTrustedOotleDeploymentV2 : TrustProgram (GuiResult GuiTrustedOotleDeploymentStatus) :=
  loadTrustedOotleDeployment .deploymentV2 .looking crates.deploymentV2 validateSavedDeploymentV2
    (.ioFailure "trusted-ootle-deployment-v2")

/-- The refusal of a lock that finds a deployment: its own error, or that of the loader. -/
def refuseLocked (load : TrustProgram (GuiResult GuiTrustedOotleDeploymentStatus)) :
    TrustProgram (GuiResult TrustAnswer) :=
  load >>= fun
    | .error e => .done (.error e)
    | .ok _ => .done (.error trustedOotleDeploymentLocked)

/-- `lock_trusted_ootle_deployment_v1`; `trusted_anchor_deployment.rs:216`. -/
def lockTrustedOotleDeploymentV1 (request : GuiTrustedOotleDeploymentLockRequestV1) :
    TrustProgram (GuiResult TrustAnswer) :=
  .act (.pathExists .deploymentV1) fun
    | true => refuseLocked (loadTrustedOotleDeploymentV1 crates .looking)
    | false => .act .readWasm fun (wasm : Option Bytes) ↦
      match inspectTemplateWasm crates.provider wasm with
      | .error e => .done (.error e)
      | .ok digestHex => .act .clock fun
        | none => .done (.error (.ioFailure "trusted-ootle-deployment"))
        | some (now : UInt64) => match deploymentFromRequest request digestHex now with
          | .error e => .done (.error e)
          | .ok deployment => .act .createDirectory fun
            | false => .done (.error (.ioFailure "trusted-ootle-deployment"))
            | true => writeDeploymentCreateNew .deploymentV1 crates.deploymentV1 deployment >>= fun
              | .error e => .done (.error e)
              | .ok () => loadTrustedOotleDeploymentV1 crates .checking >>= fun
                | .error e => .done (.error e)
                | .ok status => .done (.ok (.deploymentV1 status))

/-- `lock_trusted_ootle_deployment_v2`; `trusted_anchor_deployment.rs:273`. -/
def lockTrustedOotleDeploymentV2 (request : GuiTrustedOotleDeploymentLockRequestV2) :
    TrustProgram (GuiResult TrustAnswer) :=
  .act (.pathExists .deploymentV2) fun
    | true => refuseLocked (loadTrustedOotleDeploymentV2 crates)
    | false => match parseLowerDigestHex request.templateArtifactDigestHex with
      | .error e => .done (.error e)
      | .ok artifactDigest =>
        if request.templateArtifactDigestHex ≠ trustedOotleDeploymentV2ArtifactDigestHex then
          .done (.error trustedOotleDeploymentInvalid)
        else .act .clock fun
          | none => .done (.error (.ioFailure "trusted-ootle-deployment"))
          | some (now : UInt64) => match deploymentFromRequestV2 request artifactDigest now with
            | .error e => .done (.error e)
            | .ok deployment => .act .createDirectory fun
              | false => .done (.error (.ioFailure "trusted-ootle-deployment-v2"))
              | true =>
                writeDeploymentCreateNew .deploymentV2 crates.deploymentV2 deployment >>= fun
                  | .error e => .done (.error e)
                  | .ok () => .done (.ok (.deploymentV2 (some deployment)))

/-- `unlock_trusted_ootle_deployment_v1` -/
def unlockTrustedOotleDeploymentV1 (confirm : Bool) : TrustProgram (GuiResult TrustAnswer) :=
  confirmedRemoval .deploymentV1 confirm trustedOotleDeploymentUnlockNotConfirmed
    (.ioFailure "trusted-ootle-deployment") (.done (.ok (.deploymentV1 none)))

/-- `unlock_trusted_ootle_deployment_v2` -/
def unlockTrustedOotleDeploymentV2 (confirm : Bool) : TrustProgram (GuiResult TrustAnswer) :=
  confirmedRemoval .deploymentV2 confirm trustedOotleDeploymentUnlockNotConfirmed
    (.ioFailure "trusted-ootle-deployment-v2") (.done (.ok (.deploymentV2 none)))

/-- The calls on one app-data directory. -/
def trustSystem : CallSystem TrustOp.Response (GuiResult TrustAnswer) TrustInput TrustRequest
    TrustFiles where
  program
    | .configure request => configureProductionTransportAuthorityRootV1 crates request
    | .forget confirm => forgetProductionTransportAuthorityRootV1 crates confirm
    | .lockV1 request => lockTrustedOotleDeploymentV1 crates request
    | .unlockV1 confirm => unlockTrustedOotleDeploymentV1 confirm
    | .lockV2 request => lockTrustedOotleDeploymentV2 crates request
    | .unlockV2 confirm => unlockTrustedOotleDeploymentV2 confirm
  exec := trustExec

end PrivateBallot.GuiCore
