import PrivateBallot.GuiCore.PrivateIntakeInbox
import PrivateBallot.TransportGateway.GatewayRuns

/-!
# Collector

Library `TransportGateway`. `crates/transport-gateway/src/collector.rs:205-346`: one envelope is
one transaction. The delivery runs on copies of gateway and session, an accepted package is put
into the inbox, then the copies take the place of the originals and the receipt is signed.
-/

namespace PrivateBallot.TransportGateway

open PrivateBallot.Base PrivateBallot.Protocol PrivateBallot.Ballot PrivateBallot.Archive
open PrivateBallot.Crypto PrivateBallot.GuiCore

/-- `CollectorRejectionV1` -/
inductive CollectorRejectionV1 where
  | badRequest
  | notFound
  | methodNotAllowed
  | payloadTooLarge
  | unsupportedMediaType
  | requestTimeout
  | admissionUnavailable
  | internal
deriving DecidableEq, Repr

/-- A gateway with the key that signs receipts. -/
structure CollectorEnvironment extends GatewayEnvironment where
  receiptKeyId : Text
  sign : Bytes → SignatureBytes

/-- What a handler with an inbox works on. -/
structure CollectorState where
  gateway : TransportGatewaySimulatorV1
  session : GuiElectionSessionV1
  inbox : PrivateIntakeInbox
deriving DecidableEq

/-- One envelope, the capability that is drawn for it, and the failures of the inbox. -/
structure CollectorRequest where
  envelope : Bytes
  retryCapability : Bytes32
  faults : InboxFaults
deriving DecidableEq

section Handler

variable (env : CollectorEnvironment)

/-- The delivery on the copies. -/
def CollectorRequest.delivery (request : CollectorRequest) (state : CollectorState) :
    TransportResult (VoterTransportReceiptV1 × Bytes32) × TransportGatewaySimulatorV1 ×
      GuiElectionSessionV1 :=
  state.gateway.deliverAndDigest env.toGatewayEnvironment request.envelope request.retryCapability
    state.session

/-- The hand-off: the last recorded package of an accepted delivery goes to the inbox. -/
def CollectorRequest.handOff (request : CollectorRequest) (state : CollectorState)
    (voterReceipt : VoterTransportReceiptV1) (nextSession : GuiElectionSessionV1) :
    Except CollectorRejectionV1 Unit × PrivateIntakeInbox :=
  if voterReceipt.state ≠ .accepted then (.ok (), state.inbox)
  else match nextSession.packages.getLast? with
    | none => (.error .internal, state.inbox)
    | some packageBytes =>
      match appendAcceptedBallotPackageToInboxV1 env.prims.provider request.faults state.inbox
        packageBytes with
      | (.error _, inbox) => (.error .internal, inbox)
      | (.ok _, inbox) => (.ok (), inbox)

/-- The receipt, signed after the commit. -/
def signedReceipt (voterReceipt : VoterTransportReceiptV1) (digest : Bytes32) :
    Except CollectorRejectionV1 Bytes :=
  match env.descriptor.fingerprint env.prims.provider with
  | .error _ => .error .internal
  | .ok fingerprint =>
    match (AuthenticatedTransportReceiptV1.signForTestOrCeremony voterReceipt fingerprint digest
      none env.receiptKeyId env.sign).toCanonicalCbor with
    | .error _ => .error .internal
    | .ok bytes => .ok bytes

/-- `GatewayCollectorHandlerV1::handle_opaque_envelope`;
`crates/transport-gateway/src/collector.rs:274`. -/
def CollectorState.handleOpaqueEnvelope (state : CollectorState) (request : CollectorRequest) :
    Except CollectorRejectionV1 Bytes × CollectorState :=
  match request.delivery env state with
  | (.error .unavailable, _) => (.error .admissionUnavailable, state)
  | (.error _, _) => (.error .badRequest, state)
  | (.ok (voterReceipt, digest), nextGateway, nextSession) =>
    match request.handOff env state voterReceipt nextSession with
    | (.error rejection, inbox) => (.error rejection, { state with inbox })
    | (.ok (), inbox) => (signedReceipt env voterReceipt digest, ⟨nextGateway, nextSession, inbox⟩)

/-- The state after a sequence of envelopes. -/
def collectorRun (start : CollectorState) (requests : List CollectorRequest) : CollectorState :=
  requests.foldl (fun state request ↦ (state.handleOpaqueEnvelope env request).2) start

end Handler

variable {env : CollectorEnvironment}

theorem collectorRun_append_singleton (start : CollectorState) (requests : List CollectorRequest)
    (request : CollectorRequest) :
    collectorRun env start (requests ++ [request]) =
      ((collectorRun env start requests).handleOpaqueEnvelope env request).2 := by
  simp only [collectorRun, List.foldl_append, List.foldl_cons, List.foldl_nil]

/-! ### One envelope -/

section Handle

variable {state : CollectorState} {request : CollectorRequest}

/-- A delivery that fails leaves everything as it was. -/
theorem handle_of_delivery_error {e : TransportError}
    (h : (request.delivery env state).1 = .error e) :
    ∃ rejection, state.handleOpaqueEnvelope env request = (.error rejection, state) := by
  unfold CollectorState.handleOpaqueEnvelope
  generalize request.delivery env state = delivery at h ⊢
  obtain ⟨result, next⟩ := delivery
  dsimp only at h
  subst h
  by_cases hunavailable : e = .unavailable
  · subst hunavailable
    exact ⟨.admissionUnavailable, rfl⟩
  · refine ⟨.badRequest, ?_⟩
    cases e <;> first | rfl | exact absurd rfl hunavailable

variable {voterReceipt : VoterTransportReceiptV1} {digest : Bytes32}
  {gateway : TransportGatewaySimulatorV1} {session : GuiElectionSessionV1}

/-- A hand-off that fails leaves gateway and session. -/
theorem handle_of_handOff_error {rejection : CollectorRejectionV1}
    (h : request.delivery env state = (.ok (voterReceipt, digest), gateway, session))
    (hhand : (request.handOff env state voterReceipt session).1 = .error rejection) :
    state.handleOpaqueEnvelope env request =
      (.error rejection, { state with inbox := (request.handOff env state voterReceipt session).2 })
      := by
  unfold CollectorState.handleOpaqueEnvelope
  rw [h]
  dsimp only
  generalize request.handOff env state voterReceipt session = hand at hhand ⊢
  obtain ⟨result, inbox⟩ := hand
  dsimp only at hhand
  subst hhand
  rfl

/-- Otherwise the copies are committed and the receipt is signed. -/
theorem handle_of_handOff_ok
    (h : request.delivery env state = (.ok (voterReceipt, digest), gateway, session))
    (hhand : (request.handOff env state voterReceipt session).1 = .ok ()) :
    state.handleOpaqueEnvelope env request = (signedReceipt env voterReceipt digest,
      ⟨gateway, session, (request.handOff env state voterReceipt session).2⟩) := by
  unfold CollectorState.handleOpaqueEnvelope
  rw [h]
  dsimp only
  generalize request.handOff env state voterReceipt session = hand at hhand ⊢
  obtain ⟨result, inbox⟩ := hand
  dsimp only at hhand
  subst hhand
  rfl

/-- A rejected package is not handed off. -/
theorem handOff_of_not_accepted (h : voterReceipt.state ≠ .accepted) :
    request.handOff env state voterReceipt session = (.ok (), state.inbox) := by
  rw [CollectorRequest.handOff, if_pos h]

/-- What is handed off is the package that the session recorded last. -/
theorem handOff_of_accepted (h : voterReceipt.state = .accepted) {packageBytes : Bytes}
    (hlast : session.packages.getLast? = some packageBytes) :
    (request.handOff env state voterReceipt session).2 =
        (appendAcceptedBallotPackageToInboxV1 env.prims.provider request.faults state.inbox
          packageBytes).2 ∧
      ((request.handOff env state voterReceipt session).1 = .ok () ↔
        ∃ added, (appendAcceptedBallotPackageToInboxV1 env.prims.provider request.faults
          state.inbox packageBytes).1 = .ok added) := by
  rw [CollectorRequest.handOff, if_neg (not_not.mpr h)]
  simp only [hlast]
  cases appendAcceptedBallotPackageToInboxV1 env.prims.provider request.faults state.inbox
    packageBytes with
  | mk result inbox =>
    cases result with
    | error e => simp
    | ok added => simp

/-- A call fails before its commit: in the delivery or in the hand-off. -/
theorem handle_of_failed
    (h : (request.delivery env state).1.isOk = false ∨
      ∃ voterReceipt digest, (request.delivery env state).1 = .ok (voterReceipt, digest) ∧
        (request.handOff env state voterReceipt (request.delivery env state).2.2).1.isOk = false) :
    (state.handleOpaqueEnvelope env request).1.isOk = false ∧
      (state.handleOpaqueEnvelope env request).2.gateway = state.gateway ∧
      (state.handleOpaqueEnvelope env request).2.session = state.session := by
  rcases h with hdelivery | ⟨voterReceipt, digest, hdelivery, hhand⟩
  · cases hresult : (request.delivery env state).1 with
    | ok answer =>
      rw [hresult] at hdelivery
      cases hdelivery
    | error e =>
      obtain ⟨rejection, hhandle⟩ := handle_of_delivery_error hresult
      rw [hhandle]
      exact ⟨rfl, rfl, rfl⟩
  · have hwhole : request.delivery env state = (.ok (voterReceipt, digest),
        (request.delivery env state).2.1, (request.delivery env state).2.2) :=
      Prod.ext hdelivery rfl
    cases hresult : (request.handOff env state voterReceipt
      (request.delivery env state).2.2).1 with
    | ok u =>
      rw [hresult] at hhand
      cases hhand
    | error rejection =>
      rw [handle_of_handOff_error hwhole hresult]
      exact ⟨rfl, rfl, rfl⟩

end Handle

/-! ### Whole runs -/

/-- The commitment of the capability that is drawn for a request. -/
def CollectorRequest.commitment (env : CollectorEnvironment) (request : CollectorRequest) :
    Bytes32 :=
  TransportGatewaySimulatorV1.capabilityCommitment env.toGatewayEnvironment
    request.retryCapability

/-- The request put a package into the inbox, and failed afterwards. -/
def PutByFailedCall (env : CollectorEnvironment) (state : CollectorState)
    (request : CollectorRequest) (packageBytes : Bytes) : Prop :=
  (∃ rejection, (state.handleOpaqueEnvelope env request).1 = .error rejection) ∧
    state.inbox.lookup (packageDigest env.prims.provider packageBytes) = none ∧
    (state.handleOpaqueEnvelope env request).2.inbox.lookup
      (packageDigest env.prims.provider packageBytes) = some packageBytes

/-- The append of the package succeeded, in a call that failed. -/
def AppendedByFailedCall (env : CollectorEnvironment) (state : CollectorState)
    (request : CollectorRequest) (packageBytes : Bytes) : Prop :=
  (∃ rejection, (state.handleOpaqueEnvelope env request).1 = .error rejection) ∧
    ∃ added, (appendAcceptedBallotPackageToInboxV1 env.prims.provider request.faults state.inbox
      packageBytes).1 = .ok added

/-- Gateway, session and inbox agree; answers are remembered under the given commitments only. -/
structure HandedOff (env : CollectorEnvironment) (commitments : List Bytes32)
    (state : CollectorState) : Prop where
  replayed : GuiElectionSessionV1.IsReplayed env.prims state.session
  idle : state.gateway.admission.admitted = 0
  known : ∀ commitment record, state.gateway.retries.lookup commitment = some record →
    commitment ∈ commitments
  pending : ∀ digest ∈ state.gateway.pendingDigests, ∃ packageBytes ∈
    state.session.acceptedPackages, packageDigest env.prims.provider packageBytes = digest
  named : ∀ digest packageBytes, state.inbox.lookup digest = some packageBytes →
    packageDigest env.prims.provider packageBytes = digest
  stored : ∀ packageBytes ∈ state.session.acceptedPackages,
    state.inbox.lookup (packageDigest env.prims.provider packageBytes) = some packageBytes

namespace HandedOff

variable {commitments : List Bytes32} {state : CollectorState} {request : CollectorRequest}

/-- A package that was delivered under a new capability, recorded and answered. -/
theorem committed (h : HandedOff env commitments state)
    (hopen : state.session.lifecycle.state = .opened) {bytes : Bytes} {added : List Bytes}
    {gateway : TransportGatewaySimulatorV1} {receipt : VoterTransportReceiptV1} {digest : Bytes32}
    {inbox : PrivateIntakeInbox}
    (hprior : state.gateway.retries.lookup (request.commitment env) = none)
    (hretries : gateway.retries = state.gateway.retries)
    (hidle : gateway.admission = state.gateway.admission)
    (haccepted : (state.session.recorded env.prims bytes).acceptedPackages =
      state.session.acceptedPackages ++ added)
    (hpending : ∀ digest ∈ gateway.pendingDigests, digest ∈ state.gateway.pendingDigests ∨
      ∃ packageBytes ∈ added, packageDigest env.prims.provider packageBytes = digest)
    (hnamed : ∀ digest packageBytes, inbox.lookup digest = some packageBytes →
      packageDigest env.prims.provider packageBytes = digest)
    (hkept : ∀ digest packageBytes, state.inbox.lookup digest = some packageBytes →
      inbox.lookup digest = some packageBytes)
    (hadded : ∀ packageBytes ∈ added,
      inbox.lookup (packageDigest env.prims.provider packageBytes) = some packageBytes) :
    HandedOff env (commitments ++ [request.commitment env])
      ⟨gateway.rememberRetry (request.commitment env) digest receipt,
        state.session.recorded env.prims bytes, inbox⟩ := by
  have hadmits : state.session.lifecycle.admitsBallots = true := by
    simp [ElectionLifecycleV1.admitsBallots, hopen]
  constructor
  · exact h.replayed.recorded hadmits bytes
  · dsimp only
    rw [TransportGatewaySimulatorV1.admission_rememberRetry, hidle]
    exact h.idle
  · intro commitment record hrecord
    rw [← hretries] at hprior
    rw [List.mem_append]
    unfold TransportGatewaySimulatorV1.rememberRetry at hrecord
    split at hrecord
    · dsimp only at hrecord
      rw [DigestMap.lookup_insert_of_absent hprior] at hrecord
      split at hrecord
      · next hsame =>
        right
        rw [hsame]
        exact List.mem_singleton.mpr rfl
      · left
        rw [hretries] at hrecord
        exact h.known commitment record hrecord
    · left
      dsimp only at hrecord
      rw [hretries] at hrecord
      exact h.known commitment record hrecord
  · intro digest hdigest
    dsimp only at hdigest ⊢
    rw [TransportGatewaySimulatorV1.pendingDigests_rememberRetry] at hdigest
    rw [haccepted]
    rcases hpending digest hdigest with hold | ⟨packageBytes, hmem, hsame⟩
    · obtain ⟨packageBytes, hmem, hsame⟩ := h.pending digest hold
      exact ⟨packageBytes, List.mem_append_left _ hmem, hsame⟩
    · exact ⟨packageBytes, List.mem_append_right _ hmem, hsame⟩
  · exact hnamed
  · intro packageBytes hmem
    dsimp only at hmem ⊢
    rw [haccepted] at hmem
    rcases List.mem_append.mp hmem with hold | hnew
    · exact hkept _ _ (h.stored packageBytes hold)
    · exact hadded packageBytes hnew

/-- Files that a failed call added do not break the agreement. -/
theorem withInbox (h : HandedOff env commitments state) {inbox : PrivateIntakeInbox}
    (hnamed : ∀ digest packageBytes, inbox.lookup digest = some packageBytes →
      packageDigest env.prims.provider packageBytes = digest)
    (hkept : ∀ digest packageBytes, state.inbox.lookup digest = some packageBytes →
      inbox.lookup digest = some packageBytes) (commitment : Bytes32) :
    HandedOff env (commitments ++ [commitment]) { state with inbox } := by
  refine ⟨h.replayed, h.idle, ?_, h.pending, hnamed, ?_⟩
  · intro other record hrecord
    exact List.mem_append_left _ (h.known other record hrecord)
  · intro packageBytes hmem
    exact hkept _ _ (h.stored packageBytes hmem)

theorem named_append (h : HandedOff env commitments state) (faults : InboxFaults) (bytes : Bytes)
    (digest : Bytes32) (found : Bytes)
    (hfound : (appendAcceptedBallotPackageToInboxV1 env.prims.provider faults state.inbox
      bytes).2.lookup digest = some found) :
    packageDigest env.prims.provider found = digest := by
  rcases (lookup_append digest found).2 hfound with hold | ⟨-, rfl, rfl⟩
  · exact h.named digest found hold
  · rfl

/-- The agreement after a request, and where new files come from. -/
def After (env : CollectorEnvironment) (commitments : List Bytes32) (state : CollectorState)
    (request : CollectorRequest) : Prop :=
  HandedOff env (commitments ++ [request.commitment env])
      (state.handleOpaqueEnvelope env request).2 ∧
    (∀ packageBytes ∈ state.session.acceptedPackages,
      packageBytes ∈ (state.handleOpaqueEnvelope env request).2.session.acceptedPackages) ∧
    ∀ digest packageBytes,
      (state.handleOpaqueEnvelope env request).2.inbox.lookup digest = some packageBytes →
      state.inbox.lookup digest = some packageBytes ∨
        packageBytes ∈ (state.handleOpaqueEnvelope env request).2.session.acceptedPackages ∨
        PutByFailedCall env state request packageBytes

theorem after_of_delivery_error (h : HandedOff env commitments state) {e : TransportError}
    (hdelivery : (request.delivery env state).1 = .error e) :
    After env commitments state request := by
  obtain ⟨rejection, hhandle⟩ := handle_of_delivery_error hdelivery
  unfold After
  rw [hhandle]
  refine ⟨?_, fun _ ↦ id, fun _ _ ↦ .inl⟩
  exact h.withInbox h.named (fun _ _ ↦ id) _

theorem after_of_append_error (h : HandedOff env commitments state)
    {voterReceipt : VoterTransportReceiptV1} {digest : Bytes32}
    {gateway : TransportGatewaySimulatorV1} {session : GuiElectionSessionV1} {bytes : Bytes}
    (hdelivery : request.delivery env state = (.ok (voterReceipt, digest), gateway, session))
    (haccepted : voterReceipt.state = .accepted) (hlast : session.packages.getLast? = some bytes)
    {e : GuiCoreError}
    (happend : (appendAcceptedBallotPackageToInboxV1 env.prims.provider request.faults state.inbox
      bytes).1 = .error e) : After env commitments state request := by
  obtain ⟨hinbox, hok⟩ : (request.handOff env state voterReceipt session).2 = _ ∧ _ :=
    handOff_of_accepted haccepted hlast
  cases hhand : (request.handOff env state voterReceipt session).1 with
  | ok u =>
    obtain ⟨added, hadded⟩ := hok.mp hhand
    rw [happend] at hadded
    cases hadded
  | error rejection =>
    have hhandle := handle_of_handOff_error hdelivery hhand
    rw [hinbox] at hhandle
    unfold After
    refine ⟨?_, ?_, ?_⟩
    · rw [hhandle]
      exact h.withInbox (h.named_append _ _) (fun _ _ hfound ↦ (lookup_append _ _).1 hfound) _
    · rw [hhandle]
      exact fun _ ↦ id
    · intro found packageBytes hfound
      have hinboxed := hfound
      rw [hhandle] at hinboxed
      rcases (lookup_append found packageBytes).2 hinboxed with hold | ⟨habsent, rfl, rfl⟩
      · exact .inl hold
      · right
        right
        refine ⟨⟨rejection, ?_⟩, habsent, hfound⟩
        rw [hhandle]

/-- A package that was accepted and handed off. -/
theorem after_of_append_ok (h : HandedOff env commitments state)
    (hopen : state.session.lifecycle.state = .opened)
    (hprior : state.gateway.retries.lookup (request.commitment env) = none)
    {voterReceipt : VoterTransportReceiptV1} {digest : Bytes32}
    {gateway : TransportGatewaySimulatorV1} {bytes : Bytes} {added : List Bytes} {isNew : Bool}
    (hdelivery : request.delivery env state = (.ok (voterReceipt, digest),
      gateway.rememberRetry (request.commitment env) digest voterReceipt,
      state.session.recorded env.prims bytes))
    (haccepted : voterReceipt.state = .accepted)
    (happend : (appendAcceptedBallotPackageToInboxV1 env.prims.provider request.faults state.inbox
      bytes).1 = .ok isNew)
    (hretries : gateway.retries = state.gateway.retries)
    (hidle : gateway.admission = state.gateway.admission)
    (hpackages : (state.session.recorded env.prims bytes).acceptedPackages =
      state.session.acceptedPackages ++ added)
    (hpending : ∀ digest ∈ gateway.pendingDigests, digest ∈ state.gateway.pendingDigests ∨
      ∃ packageBytes ∈ added, packageDigest env.prims.provider packageBytes = digest)
    (hadded : ∀ packageBytes ∈ added, packageBytes = bytes)
    (hnew : state.inbox.lookup (packageDigest env.prims.provider bytes) = none → bytes ∈ added) :
    After env commitments state request := by
  have hlast : (state.session.recorded env.prims bytes).packages.getLast? = some bytes :=
    List.getLast?_concat
  obtain ⟨hinbox, hok⟩ : (request.handOff env state voterReceipt
      (state.session.recorded env.prims bytes)).2 = _ ∧ _ := handOff_of_accepted haccepted hlast
  have hhandle := handle_of_handOff_ok hdelivery (hok.mpr ⟨isNew, happend⟩)
  rw [hinbox] at hhandle
  unfold After
  rw [hhandle]
  refine ⟨?_, ?_, ?_⟩
  · refine h.committed hopen hprior hretries hidle hpackages hpending (h.named_append _ _) ?_ ?_
    · exact fun _ _ hfound ↦ (lookup_append _ _).1 hfound
    · intro packageBytes hmem
      rw [hadded packageBytes hmem]
      exact lookup_of_append_ok happend
  · intro packageBytes hmem
    dsimp only
    rw [hpackages]
    exact List.mem_append_left _ hmem
  · intro found packageBytes hfound
    rcases (lookup_append found packageBytes).2 hfound with hold | ⟨habsent, rfl, rfl⟩
    · exact .inl hold
    · right
      left
      dsimp only
      rw [hpackages]
      exact List.mem_append_right _ (hnew habsent)

/-- A package that was rejected is recorded and not handed off. -/
theorem after_of_rejected (h : HandedOff env commitments state)
    (hopen : state.session.lifecycle.state = .opened)
    (hprior : state.gateway.retries.lookup (request.commitment env) = none)
    {retryStatus : RetryStatusV1} {digest : Bytes32} {gateway : TransportGatewaySimulatorV1}
    {bytes : Bytes}
    (hdelivery : request.delivery env state = (.ok (⟨.rejected, retryStatus⟩, digest),
      gateway.rememberRetry (request.commitment env) digest ⟨.rejected, retryStatus⟩,
      state.session.recorded env.prims bytes))
    (hretries : gateway.retries = state.gateway.retries)
    (hidle : gateway.admission = state.gateway.admission)
    (hpending : gateway.pendingDigests = state.gateway.pendingDigests)
    (hpackages : (state.session.recorded env.prims bytes).acceptedPackages =
      state.session.acceptedPackages) : After env commitments state request := by
  have hrejected : (⟨.rejected, retryStatus⟩ : VoterTransportReceiptV1).state ≠ .accepted := by
    intro hstate
    cases hstate
  have hhand : request.handOff env state ⟨.rejected, retryStatus⟩
      (state.session.recorded env.prims bytes) = (.ok (), state.inbox) :=
    handOff_of_not_accepted hrejected
  have hhandle := handle_of_handOff_ok hdelivery (congrArg Prod.fst hhand)
  rw [hhand] at hhandle
  unfold After
  rw [hhandle]
  refine ⟨?_, ?_, fun _ _ ↦ .inl⟩
  · have hsame : (state.session.recorded env.prims bytes).acceptedPackages =
        state.session.acceptedPackages ++ [] := by rw [hpackages, List.append_nil]
    refine h.committed hopen hprior hretries hidle hsame ?_ h.named (fun _ _ ↦ id) ?_
    · rw [hpending]
      exact fun _ ↦ .inl
    · intro packageBytes hmem
      cases hmem
  · dsimp only
    rw [hpackages]
    exact fun _ ↦ id

/-- What one request does under a new capability: the agreement is kept, and every new file is of
a package that is accepted or was put there by this call before it failed. -/
theorem handle (h : HandedOff env commitments state)
    (hfresh : request.commitment env ∉ commitments) : After env commitments state request := by
  have hprior : state.gateway.retries.lookup (request.commitment env) = none := by
    rw [Option.eq_none_iff_forall_ne_some]
    intro record hrecord
    exact hfresh (h.known _ record hrecord)
  have hcases := TransportGatewaySimulatorV1.deliverAndDigest_cases h.replayed h.idle
    request.envelope request.retryCapability
  cases hdelivery : request.delivery env state with
  | mk result next =>
    obtain ⟨gateway, session⟩ := next
    rw [show state.gateway.deliverAndDigest env.toGatewayEnvironment request.envelope
      request.retryCapability state.session = (result, gateway, session) from hdelivery] at hcases
    dsimp only at hcases
    -- By induction, since `cases` would unfold the gateway that is left.
    induction hcases with
    | turnedAway hclosed => exact h.after_of_delivery_error (congrArg Prod.fst hdelivery)
    | unopened e hopened => exact h.after_of_delivery_error (congrArg Prod.fst hdelivery)
    | replayed bytes prior hopened hfound => cases hprior.symm.trans hfound
    | accepted bytes hopen hopened hnone hadmits hnew hpackages =>
      have hlast : (state.session.recorded env.prims bytes).packages.getLast? = some bytes :=
        List.getLast?_concat
      cases happend : (appendAcceptedBallotPackageToInboxV1 env.prims.provider request.faults
        state.inbox bytes).1 with
      | error e => exact h.after_of_append_error hdelivery rfl hlast happend
      | ok isNew =>
        refine h.after_of_append_ok hopen hprior hdelivery rfl happend rfl rfl hpackages ?_ ?_ ?_
        · intro digest hdigest
          rcases List.mem_append.mp hdigest with hold | hsame
          · exact .inl hold
          · exact .inr ⟨bytes, List.mem_singleton.mpr rfl, (List.mem_singleton.mp hsame).symm⟩
        · intro packageBytes hmem
          exact List.mem_singleton.mp hmem
        · intro _
          exact List.mem_singleton.mpr rfl
    | duplicate bytes hopen hopened hnone hpackages hpending =>
      have hlast : (state.session.recorded env.prims bytes).packages.getLast? = some bytes :=
        List.getLast?_concat
      have hsame : (state.session.recorded env.prims bytes).acceptedPackages =
          state.session.acceptedPackages ++ [] := by rw [hpackages, List.append_nil]
      cases happend : (appendAcceptedBallotPackageToInboxV1 env.prims.provider request.faults
        state.inbox bytes).1 with
      | error e => exact h.after_of_append_error hdelivery rfl hlast happend
      | ok isNew =>
        refine h.after_of_append_ok hopen hprior hdelivery rfl happend rfl rfl hsame
          (fun _ ↦ .inl) ?_ ?_
        · intro packageBytes hmem
          cases hmem
        · intro habsent
          obtain ⟨other, hother, hdigest⟩ := h.pending _ hpending
          have hstored := h.stored other hother
          rw [hdigest, habsent] at hstored
          cases hstored
    | rejected bytes retryStatus hopen hopened hnone hrefuses hpackages hpending =>
      exact h.after_of_rejected hopen hprior hdelivery rfl rfl rfl hpackages

/-- An acceptance is answered for a package that is accepted once the copies are committed. -/
theorem exists_accepted (h : HandedOff env commitments state)
    (hfresh : request.commitment env ∉ commitments) {voterReceipt : VoterTransportReceiptV1}
    {digest : Bytes32} {gateway : TransportGatewaySimulatorV1} {session : GuiElectionSessionV1}
    (hdelivery : request.delivery env state = (.ok (voterReceipt, digest), gateway, session))
    (haccepted : voterReceipt.state = .accepted) :
    ∃ packageBytes ∈ session.acceptedPackages,
      packageDigest env.prims.provider packageBytes = digest := by
  have hcases := TransportGatewaySimulatorV1.deliverAndDigest_cases h.replayed h.idle
    request.envelope request.retryCapability
  rw [show state.gateway.deliverAndDigest env.toGatewayEnvironment request.envelope
    request.retryCapability state.session = _ from hdelivery] at hcases
  cases hcases with
  | replayed bytes prior hopened hfound => exact absurd (h.known _ _ hfound) hfresh
  | accepted bytes hopen hopened hnone hadmits hnew hpackages =>
    refine ⟨bytes, ?_, rfl⟩
    show bytes ∈ (state.session.recorded env.prims bytes).acceptedPackages
    rw [hpackages]
    exact List.mem_append_right _ (List.mem_singleton.mpr rfl)
  | duplicate bytes hopen hopened hnone hpackages hpending =>
    obtain ⟨packageBytes, hmem, hdigest⟩ := h.pending _ hpending
    refine ⟨packageBytes, ?_, hdigest⟩
    show packageBytes ∈ (state.session.recorded env.prims bytes).acceptedPackages
    rw [hpackages]
    exact hmem
  | rejected bytes retryStatus hopen hopened hnone hrefuses hpackages hpending => cases haccepted

/-- The package of an accepted receipt is in the inbox when the receipt is returned. -/
theorem receipt (h : HandedOff env commitments state)
    (hfresh : request.commitment env ∉ commitments) {bytes : Bytes}
    (hok : (state.handleOpaqueEnvelope env request).1 = .ok bytes) :
    ∃ receipt : AuthenticatedTransportReceiptV1, receipt.toCanonicalCbor = .ok bytes ∧
      (receipt.receipt.state = .accepted → ∃ packageBytes,
        (state.handleOpaqueEnvelope env request).2.inbox.lookup receipt.packageDigest =
            some packageBytes ∧
          packageDigest env.prims.provider packageBytes = receipt.packageDigest) := by
  have hafter := (h.handle hfresh).1
  cases hdelivery : request.delivery env state with
  | mk result next =>
    obtain ⟨gateway, session⟩ := next
    cases result with
    | error e =>
      obtain ⟨rejection, hhandle⟩ := handle_of_delivery_error (congrArg Prod.fst hdelivery)
      rw [hhandle] at hok
      cases hok
    | ok answer =>
      obtain ⟨voterReceipt, digest⟩ := answer
      cases hhand : (request.handOff env state voterReceipt session).1 with
      | error rejection =>
        rw [handle_of_handOff_error hdelivery hhand] at hok
        cases hok
      | ok u =>
        have hhandle := handle_of_handOff_ok hdelivery hhand
        rw [hhandle] at hok hafter ⊢
        obtain ⟨fingerprint, hfingerprint⟩ := env.descriptor.exists_fingerprint env.prims.provider
        simp only [signedReceipt, hfingerprint] at hok
        cases hencoded : (AuthenticatedTransportReceiptV1.signForTestOrCeremony voterReceipt
          fingerprint digest none env.receiptKeyId env.sign).toCanonicalCbor with
        | error e =>
          rw [hencoded] at hok
          cases hok
        | ok encoded =>
          rw [hencoded] at hok
          cases hok
          refine ⟨_, hencoded, ?_⟩
          intro haccepted
          obtain ⟨packageBytes, hmem, hdigest⟩ := h.exists_accepted hfresh hdelivery haccepted
          have hstored := hafter.stored packageBytes hmem
          rw [hdigest] at hstored
          exact ⟨packageBytes, hstored, hdigest⟩

/-- A whole run under capabilities of their own. -/
theorem run {start : CollectorState} (hstart : HandedOff env [] start)
    (hfiles : ∀ digest packageBytes, start.inbox.lookup digest = some packageBytes →
      packageBytes ∈ start.session.acceptedPackages)
    (requests : List CollectorRequest)
    (hfresh : (requests.map (CollectorRequest.commitment env)).Nodup) :
    HandedOff env (requests.map (CollectorRequest.commitment env))
        (collectorRun env start requests) ∧
      ∀ digest packageBytes,
        (collectorRun env start requests).inbox.lookup digest = some packageBytes →
        packageBytes ∈ (collectorRun env start requests).session.acceptedPackages ∨
          ∃ past request later, requests = past ++ request :: later ∧
            PutByFailedCall env (collectorRun env start past) request packageBytes := by
  induction requests using List.reverseRecOn with
  | nil => exact ⟨hstart, fun digest packageBytes hfound ↦ .inl (hfiles digest packageBytes hfound)⟩
  | append_singleton requests request ih =>
    rw [List.map_append, List.nodup_append] at hfresh
    obtain ⟨hbefore, hsources⟩ := ih hfresh.1
    have hnew : request.commitment env ∉ requests.map (CollectorRequest.commitment env) :=
      fun hmem ↦ hfresh.2.2 _ hmem _ (List.mem_singleton.mpr rfl) rfl
    obtain ⟨hafter, hgrow, hadded⟩ := hbefore.handle hnew
    rw [collectorRun_append_singleton, List.map_append]
    refine ⟨hafter, ?_⟩
    intro digest packageBytes hfound
    rcases hadded digest packageBytes hfound with hold | haccepted | hput
    · rcases hsources digest packageBytes hold with haccepted | ⟨past, other, later, rfl, hput⟩
      · exact .inl (hgrow packageBytes haccepted)
      · right
        refine ⟨past, other, later ++ [request], ?_, hput⟩
        rw [List.append_assoc, List.cons_append]
    · exact .inl haccepted
    · exact .inr ⟨requests, request, [], rfl, hput⟩

end HandedOff

/-- The collector as a transaction with a durable hand-off: a call that fails before its commit
leaves gateway and session; the package of every accepted receipt is in the inbox; and at every
point the inbox holds the accepted packages, and besides them only packages that a failed call had
put there. -/
theorem handOff_collectorRun (laws : TriptychBatchLaws env.prims.crate)
    {session : GuiElectionSessionV1}
    (hsession : GuiElectionSessionV1.Reachable env.prims session) {inbox : PrivateIntakeInbox}
    (hinbox : ∀ digest packageBytes, inbox.lookup digest = some packageBytes ↔
      packageBytes ∈ session.acceptedPackages ∧
        packageDigest env.prims.provider packageBytes = digest)
    (requests : List CollectorRequest)
    (hfresh : (requests.map (CollectorRequest.commitment env)).Nodup) :
    (∀ packageBytes ∈
        (collectorRun env ⟨.default, session, inbox⟩ requests).session.acceptedPackages,
      (collectorRun env ⟨.default, session, inbox⟩ requests).inbox.lookup
        (packageDigest env.prims.provider packageBytes) = some packageBytes) ∧
    (∀ digest packageBytes,
      (collectorRun env ⟨.default, session, inbox⟩ requests).inbox.lookup digest =
          some packageBytes →
      packageDigest env.prims.provider packageBytes = digest ∧
        (packageBytes ∈
            (collectorRun env ⟨.default, session, inbox⟩ requests).session.acceptedPackages ∨
          ∃ past request later, requests = past ++ request :: later ∧
            PutByFailedCall env (collectorRun env ⟨.default, session, inbox⟩ past) request
              packageBytes)) ∧
    ∀ past request later, requests = past ++ request :: later →
      let state := collectorRun env ⟨.default, session, inbox⟩ past
      let (result, next) := state.handleOpaqueEnvelope env request
      (((request.delivery env state).1.isOk = false ∨
          ∃ voterReceipt digest, (request.delivery env state).1 = .ok (voterReceipt, digest) ∧
            (request.handOff env state voterReceipt (request.delivery env state).2.2).1.isOk =
              false) →
        result.isOk = false ∧ next.gateway = state.gateway ∧ next.session = state.session) ∧
      ∀ bytes, result = .ok bytes →
        ∃ receipt : AuthenticatedTransportReceiptV1, receipt.toCanonicalCbor = .ok bytes ∧
          (receipt.receipt.state = .accepted → ∃ packageBytes,
            next.inbox.lookup receipt.packageDigest = some packageBytes ∧
              packageDigest env.prims.provider packageBytes = receipt.packageDigest) := by
  have hstart : HandedOff env [] ⟨.default, session, inbox⟩ := by
    refine ⟨hsession.isReplayed laws, rfl, ?_, ?_, ?_, ?_⟩
    · intro commitment record hrecord
      cases hrecord
    · intro digest hdigest
      cases hdigest
    · intro digest packageBytes hfound
      exact ((hinbox digest packageBytes).mp hfound).2
    · intro packageBytes hmem
      exact (hinbox _ packageBytes).mpr ⟨hmem, rfl⟩
  have hfiles : ∀ digest packageBytes, inbox.lookup digest = some packageBytes →
      packageBytes ∈ session.acceptedPackages :=
    fun digest packageBytes hfound ↦ ((hinbox digest packageBytes).mp hfound).1
  obtain ⟨hrun, hsources⟩ := HandedOff.run hstart hfiles requests hfresh
  refine ⟨hrun.stored, ?_, ?_⟩
  · intro digest packageBytes hfound
    exact ⟨hrun.named digest packageBytes hfound, hsources digest packageBytes hfound⟩
  · intro past request later hrequests
    rw [hrequests, List.map_append, List.map_cons, List.nodup_append] at hfresh
    have hnew : request.commitment env ∉ past.map (CollectorRequest.commitment env) :=
      fun hmem ↦ hfresh.2.2 _ hmem _ List.mem_cons_self rfl
    have hpast := (HandedOff.run hstart hfiles past hfresh.1).1
    refine ⟨handle_of_failed, ?_⟩
    intro bytes hok
    exact hpast.receipt hnew hok

namespace Sample

/-- The sample gateway with a key for receipts. -/
def collector : CollectorEnvironment where
  toGatewayEnvironment := Sample.env
  receiptKeyId := .lit "receipt-key"
  sign _ := ⟨List.replicate 64 0, length_zeros64⟩

/-- A request whose file is put in place and cannot be read back. -/
def unread : CollectorRequest :=
  ⟨envelope first, capability 1,
    { InboxFaults.none with readBack := some (.ioFailure "private-intake-inbox") }⟩

/-- The same package again. -/
def again : CollectorRequest := ⟨envelope first, capability 2, InboxFaults.none⟩

/-- An empty inbox agrees with a session that has accepted nothing. -/
theorem lookup_empty (digest : Bytes32) (packageBytes : Bytes) :
    (DigestMap.empty : PrivateIntakeInbox).lookup digest = some packageBytes ↔
      packageBytes ∈ Sample.session.acceptedPackages ∧
        packageDigest collector.prims.provider packageBytes = digest := by
  have hnone : Sample.session.acceptedPackages = [] := by decide +kernel
  rw [hnone]
  simp [DigestMap.lookup, DigestMap.empty]

end Sample

/-- One package whose file cannot be read back, and the same package again: the first call fails
and leaves a file that is no accepted package, the second is accepted. -/
theorem handOff_collectorRun_sample :
    let start : CollectorState := ⟨.default, Sample.session, .empty⟩
    (collectorRun Sample.collector start [Sample.unread]).session.acceptedPackages = [] ∧
      (collectorRun Sample.collector start [Sample.unread]).inbox.entries.length = 1 ∧
      (collectorRun Sample.collector start
        [Sample.unread, Sample.again]).session.acceptedPackages = [Sample.first] ∧
      (collectorRun Sample.collector start [Sample.unread, Sample.again]).inbox.lookup
        (packageDigest Sample.collector.prims.provider Sample.first) = some Sample.first := by
  intro start
  -- one evaluation of both runs for all that is read off them
  obtain ⟨hfresh, hrefused, hput, haccepted⟩ :
      ([Sample.unread, Sample.again].map (CollectorRequest.commitment Sample.collector)).Nodup ∧
        (collectorRun Sample.collector start [Sample.unread]).session.acceptedPackages = [] ∧
        (collectorRun Sample.collector start [Sample.unread]).inbox.entries.length = 1 ∧
        (collectorRun Sample.collector start
          [Sample.unread, Sample.again]).session.acceptedPackages = [Sample.first] := by
    decide +kernel
  have hrun := handOff_collectorRun (triptychBatchLaws_idealCrate _) Sample.reachable_session
    Sample.lookup_empty [Sample.unread, Sample.again] hfresh
  refine ⟨hrefused, hput, haccepted, hrun.1 _ ?_⟩
  rw [haccepted]
  exact List.mem_singleton.mpr rfl

/-- A file can be in the inbox that is no accepted package, though no append that succeeded put
it there: the rename took effect, and the append failed when it read the file back. -/
theorem not_handOff_of_appended :
    ¬ ∀ (env : CollectorEnvironment) (session : GuiElectionSessionV1)
        (inbox : PrivateIntakeInbox) (requests : List CollectorRequest),
      TriptychBatchLaws env.prims.crate → GuiElectionSessionV1.Reachable env.prims session →
      (∀ digest packageBytes, inbox.lookup digest = some packageBytes ↔
        packageBytes ∈ session.acceptedPackages ∧
          packageDigest env.prims.provider packageBytes = digest) →
      (requests.map (CollectorRequest.commitment env)).Nodup →
      ∀ digest packageBytes,
        (collectorRun env ⟨.default, session, inbox⟩ requests).inbox.lookup digest =
            some packageBytes →
        packageBytes ∈
            (collectorRun env ⟨.default, session, inbox⟩ requests).session.acceptedPackages ∨
          ∃ past request later, requests = past ++ request :: later ∧
            AppendedByFailedCall env (collectorRun env ⟨.default, session, inbox⟩ past) request
              packageBytes := by
  intro h
  obtain ⟨hput, hrefused⟩ :
      (collectorRun Sample.collector
        ⟨.default, Sample.session, .empty⟩ [Sample.unread]).inbox.lookup
          (packageDigest Sample.collector.prims.provider Sample.first) = some Sample.first ∧
        (collectorRun Sample.collector ⟨.default, Sample.session, .empty⟩
          [Sample.unread]).session.acceptedPackages = [] := by
    decide +kernel
  have hfailed : (appendAcceptedBallotPackageToInboxV1 Sample.collector.prims.provider
      Sample.unread.faults .empty Sample.first).1 = .error (.ioFailure "private-intake-inbox") := by
    decide +kernel
  rcases h Sample.collector Sample.session .empty [Sample.unread] (triptychBatchLaws_idealCrate _)
    Sample.reachable_session Sample.lookup_empty (List.nodup_singleton _) _ _ hput with
    haccepted | ⟨past, request, later, hrequests, -, added, hadded⟩
  · rw [hrefused] at haccepted
    cases haccepted
  · -- the only call of the run is the one whose append failed
    cases past with
    | cons head tail =>
      have hlength := congrArg List.length hrequests
      simp only [List.length_append, List.length_cons, List.length_nil] at hlength
      omega
    | nil =>
      obtain ⟨hrequest, -⟩ := List.cons.inj hrequests
      rw [← hrequest] at hadded
      have hsame : (appendAcceptedBallotPackageToInboxV1 Sample.collector.prims.provider
          Sample.unread.faults .empty Sample.first).1 = .ok added := hadded
      rw [hfailed] at hsame
      cases hsame

end PrivateBallot.TransportGateway
