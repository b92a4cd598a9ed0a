import PrivateBallot.Base.Interleaving
import PrivateBallot.GuiCore.LifecycleFence
import PrivateBallot.TransportGateway.Finalization

/-!
# Collector service

Library `TransportGateway`. `crates/transport-gateway/src/service_loop.rs:134-181,330-343`:
envelopes are handled on several threads, each looks at the lifecycle fence first and takes the
locks of gateway and session then; the organizer publishes the lifecycle and seals the batch on
threads of its own. The threads are interleaved at their lock and file operations.
-/

namespace PrivateBallot.TransportGateway

open PrivateBallot.Base PrivateBallot.Protocol PrivateBallot.Ballot PrivateBallot.Archive
open PrivateBallot.Crypto PrivateBallot.GuiCore

/-- A collector with the public half of its receipt key. -/
structure ServiceEnvironment extends CollectorEnvironment where
  receiptVerifyingKey : Bytes32

/-- What the threads share: the fence, the collector, and who holds the lock of the gateway and
of the session. Every guard has a number of its own. -/
structure ServiceState extends CollectorState where
  fence : AuthoritativeLifecycleFenceV1
  gatewayGuard : Option Nat
  sessionGuard : Option Nat
  nextGuard : Nat
deriving DecidableEq

/-- The steps of a thread. Those behind the locks name the guard they are made under. -/
inductive ServiceOp where
  | fenceState
  | observe (state : ElectionLifecycleStateV1) (explicitGeneration : Option UInt64)
  | lockGateway
  | lockSession (guard : Nat)
  | deliver (guard : Nat) (request : CollectorRequest)
  | handOff (guard : Nat) (request : CollectorRequest) (voterReceipt : VoterTransportReceiptV1)
      (nextSession : GuiElectionSessionV1)
  | commit (guard : Nat) (gateway : TransportGatewaySimulatorV1) (session : GuiElectionSessionV1)
  | release (guard : Nat)
  | sealFinalBatch

/-- What a step answers. -/
def ServiceOp.Response : ServiceOp → Type
  | fenceState => ElectionLifecycleStateV1
  | observe _ _ => Unit
  | lockGateway => Nat
  | lockSession _ => Unit
  | deliver _ _ => TransportResult (VoterTransportReceiptV1 × Bytes32) ×
      TransportGatewaySimulatorV1 × GuiElectionSessionV1
  | handOff _ _ _ _ => Except CollectorRejectionV1 Unit
  | commit _ _ _ => Unit
  | release _ => Unit
  | sealFinalBatch => TransportGatewaySimulatorV1

-- What a receipt says is returned with its bytes, for statements about the call.
/-- What a thread returns. -/
inductive ServiceAnswer where
  | refused (rejection : CollectorRejectionV1)
  | receipt (voterReceipt : VoterTransportReceiptV1) (packageDigest : Bytes32) (bytes : Bytes)
  | finalized (result : TransportResult (Option TransportArchiveBindingV1))
  | observed

abbrev ServiceProgram := Program ServiceOp.Response

section Service

variable (env : ServiceEnvironment)

/-- `GatewayCollectorHandlerV1::new`; `crates/transport-gateway/src/collector.rs:233`. -/
def newHandler : TransportResult Unit :=
  if env.receiptVerifyingKey ∉ env.descriptor.receiptVerificationKeys then .error .wrongGatewayKey
  else if env.receiptKeyId = .lit "" then .error .invalidDescriptor
  else .ok ()

/-- A handler gives its locks back and refuses. -/
def refuse (guard : Nat) (rejection : CollectorRejectionV1) : ServiceProgram ServiceAnswer :=
  .act (.release guard) fun _ ↦ .done (.refused rejection)

/-- The receipt behind the commit. -/
def answer (voterReceipt : VoterTransportReceiptV1) (digest : Bytes32) : ServiceAnswer :=
  match signedReceipt env.toCollectorEnvironment voterReceipt digest with
  | .error rejection => .refused rejection
  | .ok bytes => .receipt voterReceipt digest bytes

/-- The handler behind the delivery. -/
def afterDelivery (guard : Nat) (request : CollectorRequest) :
    TransportResult (VoterTransportReceiptV1 × Bytes32) × TransportGatewaySimulatorV1 ×
      GuiElectionSessionV1 → ServiceProgram ServiceAnswer
  | (.error .unavailable, _) => refuse guard .admissionUnavailable
  | (.error _, _) => refuse guard .badRequest
  | (.ok (voterReceipt, digest), nextGateway, nextSession) =>
    .act (.handOff guard request voterReceipt nextSession) fun
      | .error rejection => refuse guard rejection
      | .ok _ =>
        .act (.commit guard nextGateway nextSession) fun _ ↦ .done (answer env voterReceipt digest)

/-- The handler behind the locks. -/
def afterLocks (guard : Nat) (request : CollectorRequest) : ServiceProgram ServiceAnswer :=
  match newHandler env with
  | .error _ => refuse guard .internal
  | .ok _ => .act (.deliver guard request) (afterDelivery env guard request)

/-- `ThreadSafeCollectorHandlerV1::handle_opaque_envelope` -/
def handleOpaqueEnvelope (request : CollectorRequest) : ServiceProgram ServiceAnswer :=
  .act .fenceState fun (state : ElectionLifecycleStateV1) ↦
    if state ≠ .opened then .done (.refused .admissionUnavailable)
    else .act .lockGateway fun guard ↦
      .act (.lockSession guard) fun _ ↦ afterLocks env guard request

/-- `OrganizerCollectorServiceLoopV1::finalize_transport_archive_binding` -/
def finalizeService : ServiceProgram ServiceAnswer :=
  .act .sealFinalBatch fun gateway ↦
    .done (.finalized (gateway.transportArchiveBinding env.prims.provider env.descriptor))

/-- `AuthoritativeLifecycleFenceV1::observe`, called by the organizer. -/
def publish (state : ElectionLifecycleStateV1) (explicitGeneration : Option UInt64) :
    ServiceProgram ServiceAnswer :=
  .act (.observe state explicitGeneration) fun _ ↦ .done .observed

/-- A lock is given to one thread at a time. The steps behind the locks are made by the thread
that has the guard; the guards are dropped after the commit and when a handler refuses. -/
def serviceSystem : System ServiceOp.Response Unit Unit Nat ServiceState where
  exec _
    | .fenceState, _, s => (s.fence.state, s)
    | .observe state explicitGeneration, _, s =>
      ((), { s with fence := s.fence.observe state explicitGeneration })
    | .lockGateway, _, s =>
      (s.nextGuard, { s with gatewayGuard := some s.nextGuard, nextGuard := s.nextGuard + 1 })
    | .lockSession guard, _, s => ((), { s with sessionGuard := some guard })
    | .deliver _ request, _, s =>
      (request.delivery env.toCollectorEnvironment s.toCollectorState, s)
    | .handOff _ request voterReceipt nextSession, _, s =>
      ((request.handOff env.toCollectorEnvironment s.toCollectorState voterReceipt nextSession).1,
        { s with inbox := (request.handOff env.toCollectorEnvironment s.toCollectorState
            voterReceipt nextSession).2 })
    | .commit _ gateway session, _, s =>
      ((), { s with gateway, session, gatewayGuard := none, sessionGuard := none })
    | .release _, _, s => ((), { s with gatewayGuard := none, sessionGuard := none })
    | .sealFinalBatch, _, s =>
      ((s.gateway.sealPendingBatch env.prims.provider env.descriptor.batch.acceptedUniqueFloor
          true).2,
        { s with gateway := (s.gateway.sealPendingBatch env.prims.provider
            env.descriptor.batch.acceptedUniqueFloor true).2 })
  ready _
    | .lockGateway, s => s.gatewayGuard = none
    | .sealFinalBatch, s => s.gatewayGuard = none
    | .lockSession guard, s => s.gatewayGuard = some guard ∧ s.sessionGuard = none
    | .deliver guard _, s => s.gatewayGuard = some guard
    | .handOff guard _ _ _, s => s.gatewayGuard = some guard
    | .commit guard _ _, s => s.gatewayGuard = some guard
    | .release guard, s => s.gatewayGuard = some guard
    | .fenceState, _ => true
    | .observe _ _, _ => true
  restart _ _ s := s

/-- The calls: envelopes, finalizations and publications of CLOSED and later states. -/
inductive IsServiceCall : Nat → ServiceProgram ServiceAnswer → Prop
  | handle (tag : Nat) (request : CollectorRequest) :
      IsServiceCall tag (handleOpaqueEnvelope env request)
  | finalize (tag : Nat) : IsServiceCall tag (finalizeService env)
  | publish (tag : Nat) (state : ElectionLifecycleStateV1) (explicitGeneration : Option UInt64)
      (hstate : ElectionLifecycleStateV1.closed.rank ≤ state.rank) :
      IsServiceCall tag (publish state explicitGeneration)

/-- An envelope is delivered while the fence still shows what its check saw. -/
def DeliversWhileOpen (_tag : Nat) (op : ServiceOp) (_input : Unit) (s : ServiceState) : Bool :=
  match op with
  | .deliver _ _ => s.fence.isOpen
  | _ => true

end Service

/-! ### What a log says about closing -/

abbrev ServiceEvent := Event ServiceOp.Response ServiceAnswer Nat

/-- What happened since CLOSED was published: the packages that were taken in, with the threads,
and what the finalizations left. -/
structure SinceClose where
  closed : Bool
  acceptedIntakes : List (Nat × Bytes32)
  finalized : List TransportGatewaySimulatorV1
deriving DecidableEq

/-- An answer to a delivery. -/
def SinceClose.intake (self : SinceClose) (tag : Nat) (voterReceipt : VoterTransportReceiptV1)
    (digest : Bytes32) : SinceClose :=
  if self.closed = true ∧ voterReceipt.state = .accepted then
    { self with acceptedIntakes := self.acceptedIntakes ++ [(tag, digest)] }
  else self

/-- A finalization. -/
def SinceClose.finalize (self : SinceClose) (gateway : TransportGatewaySimulatorV1) : SinceClose :=
  if self.closed = true then { self with finalized := self.finalized ++ [gateway] } else self

/-- One more event. -/
def SinceClose.next (self : SinceClose) : ServiceEvent → SinceClose
  | .performed _ ⟨.observe state _, _⟩ =>
    { self with
      closed := self.closed || decide (ElectionLifecycleStateV1.closed.rank ≤ state.rank) }
  | .performed tag ⟨.deliver _ _, (.ok (voterReceipt, digest), _)⟩ =>
    self.intake tag voterReceipt digest
  | .performed _ ⟨.sealFinalBatch, gateway⟩ => self.finalize gateway
  | _ => self

/-- What a log says. -/
def sinceClose (log : List ServiceEvent) : SinceClose :=
  log.foldl SinceClose.next ⟨false, [], []⟩

/-- The digests in sealed batches. -/
def TransportGatewaySimulatorV1.sealedDigests (self : TransportGatewaySimulatorV1) : List Bytes32 :=
  self.sealedBatches.flatMap SealedTransportBatchV1.digests

theorem sinceClose_append_singleton (log : List ServiceEvent) (event : ServiceEvent) :
    sinceClose (log ++ [event]) = (sinceClose log).next event := by
  simp only [sinceClose, List.foldl_append, List.foldl_cons, List.foldl_nil]

/-- Before CLOSED nothing is counted. -/
theorem sinceClose_of_not_closed {log : List ServiceEvent} (h : (sinceClose log).closed = false) :
    sinceClose log = ⟨false, [], []⟩ := by
  induction log using List.reverseRecOn with
  | nil => rfl
  | append_singleton log event ih =>
    rw [sinceClose_append_singleton] at h ⊢
    unfold SinceClose.next at h ⊢
    split at h
    · next state explicitGeneration response =>
      simp only [Bool.or_eq_false_iff] at h
      rw [ih h.1]
      simp only [Bool.false_or, h.2]
    · next tag guard request voterReceipt digest next =>
      unfold SinceClose.intake at h ⊢
      split at h
      · next hboth => rw [hboth.1] at h; cases h
      · next hnot =>
        rw [if_neg hnot]
        exact ih h
    · next tag gateway =>
      unfold SinceClose.finalize at h ⊢
      split at h
      · next hclosed => rw [hclosed] at h; cases h
      · next hnot =>
        rw [if_neg hnot]
        exact ih h
    · exact ih h

/-! ### Gateways whose acceptances are placed -/

/-- Gateway and session with every accepted package of a remembered answer pending or sealed. -/
structure Booked (env : GatewayEnvironment) (gateway : TransportGatewaySimulatorV1)
    (session : GuiElectionSessionV1) : Prop where
  replayed : GuiElectionSessionV1.IsReplayed env.prims session
  idle : gateway.admission.admitted = 0
  records : ∀ commitment record, gateway.retries.lookup commitment = some record →
    record.receipt.state = .accepted → record.packageDigest ∈ gateway.placedDigests

namespace Booked

variable {env : GatewayEnvironment} {gateway next : TransportGatewaySimulatorV1}
  {session later : GuiElectionSessionV1}

/-- A package went through the intake and its answer was remembered. -/
theorem remembered (h : Booked env gateway session) (hopen : session.lifecycle.state = .opened)
    {bytes : Bytes} {commitment : Bytes32} {receipt : VoterTransportReceiptV1}
    (hprior : gateway.retries.lookup commitment = none)
    (hretries : next.retries = gateway.retries) (hadmission : next.admission = gateway.admission)
    (hplaced : ∀ digest ∈ gateway.placedDigests, digest ∈ next.placedDigests)
    (hnew : receipt.state = .accepted →
      packageDigest env.prims.provider bytes ∈ next.placedDigests) :
    Booked env (next.rememberRetry commitment (packageDigest env.prims.provider bytes) receipt)
      (session.recorded env.prims bytes) := by
  have hadmits : session.lifecycle.admitsBallots = true := by
    simp [ElectionLifecycleV1.admitsBallots, hopen]
  constructor
  · exact h.replayed.recorded hadmits bytes
  · rw [TransportGatewaySimulatorV1.admission_rememberRetry, hadmission]
    exact h.idle
  · intro other record hrecord haccepted
    rw [TransportGatewaySimulatorV1.placedDigests_rememberRetry]
    rw [← hretries] at hprior
    rcases TransportGatewaySimulatorV1.lookup_rememberRetry hprior hrecord with rfl | hold
    · exact hnew haccepted
    · rw [hretries] at hold
      exact hplaced _ (h.records other record hold haccepted)

/-- After a delivery nothing is lost, and a package it accepted is placed. -/
theorem delivered (h : Booked env gateway session) {encoded : Bytes} {retryCapability : Bytes32}
    {result : TransportResult (VoterTransportReceiptV1 × Bytes32)}
    (hdelivery : TransportGatewaySimulatorV1.Delivery env gateway encoded retryCapability session
      result next later) :
    Booked env next later ∧ (∀ digest ∈ gateway.placedDigests, digest ∈ next.placedDigests) ∧
      ∀ voterReceipt digest, result = .ok (voterReceipt, digest) →
        voterReceipt.state = .accepted → digest ∈ next.placedDigests := by
  induction hdelivery with
  | turnedAway hclosed =>
    refine ⟨h, fun _ ↦ id, ?_⟩
    intro voterReceipt digest hresult
    cases hresult
  | unopened e hopened =>
    refine ⟨⟨h.replayed, h.idle, h.records⟩, fun _ ↦ id, ?_⟩
    intro voterReceipt digest hresult
    cases hresult
  | replayed bytes prior hopened hprior =>
    refine ⟨⟨h.replayed, h.idle, h.records⟩, fun _ ↦ id, ?_⟩
    intro voterReceipt digest hresult haccepted
    cases hresult
    unfold TransportGatewaySimulatorV1.priorReceipt at haccepted
    split at haccepted
    · cases haccepted
    · next hsame =>
      rw [← not_not.mp hsame]
      exact h.records _ prior hprior haccepted
  | accepted bytes hopen hopened hprior hadmits hnew hpackages =>
    have hplaced : ∀ digest ∈ gateway.placedDigests, digest ∈
        (gateway.received.verified.tookIn
          (packageDigest env.prims.provider bytes)).placedDigests := by
      intro digest hmem
      rcases List.mem_append.mp hmem with hpending | hsealed
      · exact List.mem_append_left _ (List.mem_append_left _ hpending)
      · exact List.mem_append_right _ hsealed
    have htaken : packageDigest env.prims.provider bytes ∈
        (gateway.received.verified.tookIn (packageDigest env.prims.provider bytes)).placedDigests :=
      List.mem_append_left _ (List.mem_append_right _ (List.mem_singleton.mpr rfl))
    refine ⟨h.remembered hopen hprior rfl rfl hplaced fun _ ↦ htaken, ?_, ?_⟩
    · intro digest hmem
      rw [TransportGatewaySimulatorV1.placedDigests_rememberRetry]
      exact hplaced digest hmem
    · intro voterReceipt digest hresult _
      cases hresult
      rw [TransportGatewaySimulatorV1.placedDigests_rememberRetry]
      exact htaken
  | duplicate bytes hopen hopened hprior hpackages hpending =>
    have hthere : packageDigest env.prims.provider bytes ∈
        gateway.received.verified.placedDigests := List.mem_append_left _ hpending
    refine ⟨h.remembered hopen hprior rfl rfl (fun _ ↦ id) fun _ ↦ hthere, ?_, ?_⟩
    · intro digest hmem
      rw [TransportGatewaySimulatorV1.placedDigests_rememberRetry]
      exact hmem
    · intro voterReceipt digest hresult _
      cases hresult
      rw [TransportGatewaySimulatorV1.placedDigests_rememberRetry]
      exact hthere
  | rejected bytes retryStatus hopen hopened hprior hrefuses hpackages hpending =>
    refine ⟨h.remembered hopen hprior rfl rfl (fun _ ↦ id) (fun hstate ↦ by cases hstate), ?_, ?_⟩
    · intro digest hmem
      rw [TransportGatewaySimulatorV1.placedDigests_rememberRetry]
      exact hmem
    · intro voterReceipt digest hresult haccepted
      cases hresult
      cases haccepted

/-- A final batch takes everything that was not in a batch yet. -/
theorem finalBatch (h : Booked env gateway session) (floor : UInt64) :
    Booked env (gateway.sealPendingBatch env.prims.provider floor true).2 session ∧
      ∀ digest ∈ gateway.placedDigests,
        digest ∈ (gateway.sealPendingBatch env.prims.provider floor true).2.sealedDigests := by
  have hsealed : ∀ digest ∈ gateway.placedDigests,
      digest ∈ (gateway.sealPendingBatch env.prims.provider floor true).2.sealedDigests := by
    intro digest hmem
    have hnone := pendingDigests_finalBatch gateway env.prims.provider floor
    rcases gateway.sealPendingBatch_cases env.prims.provider floor true with
      hsame | ⟨-, root, -, hbatch⟩
    · rw [hsame] at hnone ⊢
      rcases List.mem_append.mp hmem with hpending | hin
      · rw [show gateway.pendingDigests = [] from hnone] at hpending
        cases hpending
      · exact hin
    · rw [hbatch]
      unfold TransportGatewaySimulatorV1.sealedDigests
      rw [List.flatMap_append, List.flatMap_singleton]
      rcases List.mem_append.mp hmem with hpending | hin
      · exact List.mem_append_right _ ((mem_sortDedup _ _).mpr hpending)
      · exact List.mem_append_left _ hin
  have hkept : (gateway.sealPendingBatch env.prims.provider floor true).2.retries =
      gateway.retries ∧ (gateway.sealPendingBatch env.prims.provider floor true).2.admission =
        gateway.admission := by
    rcases gateway.sealPendingBatch_cases env.prims.provider floor true with
      hsame | ⟨-, root, -, hbatch⟩
    · rw [hsame]
      exact ⟨rfl, rfl⟩
    · rw [hbatch]
      exact ⟨rfl, rfl⟩
  refine ⟨⟨h.replayed, ?_, ?_⟩, hsealed⟩
  · rw [hkept.2]
    exact h.idle
  · intro commitment record hrecord haccepted
    rw [hkept.1] at hrecord
    exact List.mem_append_right _ (hsealed _ (h.records commitment record hrecord haccepted))

end Booked

/-! ### The invariant -/

/-- The digest is placed, and in a batch of every finalization since CLOSED. -/
def Contained (digest : Bytes32) (world : ServiceState × List ServiceEvent) : Prop :=
  digest ∈ world.1.gateway.placedDigests ∧
    ∀ gateway ∈ (sinceClose world.2).finalized, digest ∈ gateway.sealedDigests

/-- The service keeps its promises: no acceptance since CLOSED, and the package of every accepted
receipt was delivered by its thread and is contained. -/
structure Served (env : ServiceEnvironment) (s : ServiceState) (log : List ServiceEvent) :
    Prop where
  booked : Booked env.toGatewayEnvironment s.gateway s.session
  numbered : ∀ guard, s.gatewayGuard = some guard → guard < s.nextGuard
  fenced : (sinceClose log).closed = true → s.fence.state ≠ .opened
  intakes : (sinceClose log).acceptedIntakes = []
  receipts : ∀ tag voterReceipt digest bytes,
    .returned tag (.receipt voterReceipt digest bytes) ∈ log → voterReceipt.state = .accepted →
      (∃ guard request next,
        .performed tag ⟨.deliver guard request, (.ok (voterReceipt, digest), next)⟩ ∈ log) ∧
      Contained digest (s, log)

/-- What every step leaves to the other threads: a guard that was given back does not come again,
gateway and session stay while a guard is held, and nothing that is contained is lost. -/
structure Follows (a b : ServiceState × List ServiceEvent) : Prop where
  log : a.2 <+: b.2
  numbers : a.1.nextGuard ≤ b.1.nextGuard
  released : ∀ guard < a.1.nextGuard, a.1.gatewayGuard ≠ some guard →
    b.1.gatewayGuard ≠ some guard
  held : ∀ guard < a.1.nextGuard, a.1.gatewayGuard = some guard →
    b.1.gatewayGuard = some guard → b.1.gateway = a.1.gateway ∧ b.1.session = a.1.session ∧
      (sinceClose b.2).finalized = (sinceClose a.2).finalized
  contained : ∀ digest, Contained digest a → Contained digest b

theorem Follows.refl (a : ServiceState × List ServiceEvent) : Follows a a :=
  ⟨List.prefix_rfl, Nat.le_refl _, fun _ _ ↦ id, fun _ _ _ _ ↦ ⟨rfl, rfl, rfl⟩, fun _ ↦ id⟩

theorem Follows.trans (a b c : ServiceState × List ServiceEvent) (hab : Follows a b)
    (hbc : Follows b c) : Follows a c := by
  constructor
  · exact hab.log.trans hbc.log
  · exact hab.numbers.trans hbc.numbers
  · intro guard hlt hne
    exact hbc.released guard (hlt.trans_le hab.numbers) (hab.released guard hlt hne)
  · intro guard hlt ha hc
    have hb : b.1.gatewayGuard = some guard := by
      by_contra hne
      exact hbc.released guard (hlt.trans_le hab.numbers) hne hc
    obtain ⟨hgateway, hsession, hfinalized⟩ := hab.held guard hlt ha hb
    obtain ⟨hgateway', hsession', hfinalized'⟩ :=
      hbc.held guard (hlt.trans_le hab.numbers) hb hc
    exact ⟨hgateway'.trans hgateway, hsession'.trans hsession, hfinalized'.trans hfinalized⟩
  · intro digest hcontained
    exact hbc.contained digest (hab.contained digest hcontained)

namespace Served

variable {env : ServiceEnvironment} {s : ServiceState} {log : List ServiceEvent}

/-- One step that keeps gateway and session in order. -/
theorem performed (h : Served env s log) (tag : Nat) (operation : Sigma ServiceOp.Response)
    (s' : ServiceState)
    (hbooked : Booked env.toGatewayEnvironment s'.gateway s'.session)
    (hnumbers : s.nextGuard ≤ s'.nextGuard)
    (hguard : ∀ guard, s'.gatewayGuard = some guard → guard < s'.nextGuard ∧
      (s.gatewayGuard = some guard ∧ s'.gateway = s.gateway ∧ s'.session = s.session ∧
          (sinceClose (log ++ [Event.performed tag operation])).finalized =
            (sinceClose log).finalized ∨
        s.nextGuard ≤ guard))
    (hfenced : (sinceClose (log ++ [Event.performed tag operation])).closed = true →
      s'.fence.state ≠ .opened)
    (hintakes : (sinceClose (log ++ [Event.performed tag operation])).acceptedIntakes = [])
    (hplaced : ∀ digest ∈ s.gateway.placedDigests, digest ∈ s'.gateway.placedDigests)
    (hfinalized : ∀ gateway ∈ (sinceClose (log ++ [Event.performed tag operation])).finalized,
      gateway ∈ (sinceClose log).finalized ∨
        ∀ digest ∈ s.gateway.placedDigests, digest ∈ gateway.sealedDigests) :
    Served env s' (log ++ [Event.performed tag operation]) ∧
      Follows (s, log) (s', log ++ [Event.performed tag operation]) := by
  have hcontained : ∀ digest, Contained digest (s, log) →
      Contained digest (s', log ++ [Event.performed tag operation]) := by
    intro digest hin
    refine ⟨hplaced digest hin.1, ?_⟩
    intro gateway hmem
    rcases hfinalized gateway hmem with hold | hnew
    · exact hin.2 gateway hold
    · exact hnew digest hin.1
  constructor
  · refine ⟨hbooked, fun guard hheld ↦ (hguard guard hheld).1, hfenced, hintakes, ?_⟩
    intro other voterReceipt digest bytes hmem haccepted
    rcases List.mem_append.mp hmem with hold | hnew
    · obtain ⟨⟨guard, request, next, hdelivered⟩, hin⟩ :=
        h.receipts other voterReceipt digest bytes hold haccepted
      exact ⟨⟨guard, request, next, List.mem_append_left _ hdelivered⟩, hcontained digest hin⟩
    · cases List.mem_singleton.mp hnew
  · refine ⟨List.prefix_append _ _, hnumbers, ?_, ?_, hcontained⟩
    · intro guard hlt hne hheld
      rcases (hguard guard hheld).2 with ⟨hsame, -⟩ | hnew
      · exact hne hsame
      · exact absurd hlt (Nat.not_lt.mpr hnew)
    · intro guard hlt _ hheld
      rcases (hguard guard hheld).2 with ⟨-, hsame⟩ | hnew
      · exact hsame
      · exact absurd hlt (Nat.not_lt.mpr hnew)

/-- One step that leaves gateway, session and fence, and that is not counted. -/
theorem quiet (h : Served env s log) (tag : Nat) (operation : Sigma ServiceOp.Response)
    (s' : ServiceState) (hgateway : s'.gateway = s.gateway)
    (hsession : s'.session = s.session) (hfence : s'.fence = s.fence)
    (hnumbers : s.nextGuard ≤ s'.nextGuard)
    (hguard : ∀ guard, s'.gatewayGuard = some guard → guard < s'.nextGuard ∧
      (s.gatewayGuard = some guard ∨ s.nextGuard ≤ guard))
    (hlog : sinceClose (log ++ [Event.performed tag operation]) = sinceClose log) :
    Served env s' (log ++ [Event.performed tag operation]) ∧
      Follows (s, log) (s', log ++ [Event.performed tag operation]) := by
  apply h.performed
  · rw [hgateway, hsession]
    exact h.booked
  · exact hnumbers
  · intro guard hheld
    obtain ⟨hlt, hcases⟩ := hguard guard hheld
    refine ⟨hlt, hcases.imp_left ?_⟩
    intro hsame
    exact ⟨hsame, hgateway, hsession, by rw [hlog]⟩
  · rw [hlog, hfence]
    exact h.fenced
  · rw [hlog]
    exact h.intakes
  · rw [hgateway]
    exact fun _ ↦ id
  · rw [hlog]
    exact fun _ ↦ .inl

/-- One step of a thread that leaves the whole state. -/
theorem look (h : Served env s log) (tag : Nat) (operation : Sigma ServiceOp.Response)
    (hlog : sinceClose (log ++ [Event.performed tag operation]) = sinceClose log) :
    Served env s (log ++ [Event.performed tag operation]) ∧
      Follows (s, log) (s, log ++ [Event.performed tag operation]) :=
  h.quiet tag operation s rfl rfl rfl (Nat.le_refl _)
    (fun guard hheld ↦ ⟨h.numbered guard hheld, .inl hheld⟩) hlog

/-- Returning something that is no accepted receipt. -/
theorem returned (h : Served env s log) {tag : Nat} {value : ServiceAnswer}
    (hvalue : ∀ voterReceipt digest bytes, value = .receipt voterReceipt digest bytes →
      voterReceipt.state = .accepted → (∃ guard request next,
        .performed tag ⟨.deliver guard request, (.ok (voterReceipt, digest), next)⟩ ∈ log) ∧
      Contained digest (s, log)) : Served env s (log ++ [Event.returned tag value]) := by
  have hlog : sinceClose (log ++ [Event.returned tag value]) = sinceClose log :=
    sinceClose_append_singleton _ _
  refine ⟨h.booked, h.numbered, ?_, ?_, ?_⟩
  · rw [hlog]
    exact h.fenced
  · rw [hlog]
    exact h.intakes
  · intro other voterReceipt digest bytes hmem haccepted
    obtain ⟨⟨guard, request, next, hdelivered⟩, hin⟩ : (∃ guard request next,
        .performed other ⟨.deliver guard request, (.ok (voterReceipt, digest), next)⟩ ∈ log) ∧
        Contained digest (s, log) := by
      rcases List.mem_append.mp hmem with hold | hnew
      · exact h.receipts other voterReceipt digest bytes hold haccepted
      · cases List.mem_singleton.mp hnew
        exact hvalue voterReceipt digest bytes rfl haccepted
    refine ⟨⟨guard, request, next, List.mem_append_left _ hdelivered⟩, hin.1, ?_⟩
    show ∀ gateway ∈ (sinceClose (log ++ [Event.returned tag value])).finalized, _
    rw [hlog]
    exact hin.2

end Served

/-! ### Threads -/

section Threads

variable {env : ServiceEnvironment} {tag guard : Nat} {request : CollectorRequest}
  {world : ServiceState × List ServiceEvent}

/-- The thread keeps the promises from here on. -/
def Safe (env : ServiceEnvironment) (tag : Nat) (program : ServiceProgram ServiceAnswer)
    (world : ServiceState × List ServiceEvent) : Prop :=
  (serviceSystem env).Keeps (fun tag op input s ↦ DeliversWhileOpen tag op input s = true)
    (Served env) Follows tag (System.Returns (Served env) Follows tag) program world

theorem safe_refused (rejection : CollectorRejectionV1) :
    Safe env tag (.done (.refused rejection)) world := by
  intro s log _ h
  apply h.returned
  intro voterReceipt digest bytes hvalue
  cases hvalue

theorem safe_refuse (rejection : CollectorRejectionV1) :
    Safe env tag (refuse guard rejection) world := by
  apply System.Keeps.act Follows.trans
  intro s log input response s' hexec _ h _ _
  cases hexec
  have hstep := h.quiet tag ⟨.release guard, ()⟩
    { s with gatewayGuard := none, sessionGuard := none } rfl rfl rfl (Nat.le_refl _)
    (fun guard hheld ↦ by cases hheld) (sinceClose_append_singleton _ _)
  exact ⟨hstep.1, hstep.2, fun _ ↦ safe_refused rejection⟩

/-- What a handler knows behind its delivery: it has the guard, the answer is that of gateway and
session as they are, and nothing was finalized since CLOSED. -/
structure HasDelivered (env : ServiceEnvironment) (tag guard : Nat) (request : CollectorRequest)
    (result : TransportResult (VoterTransportReceiptV1 × Bytes32) × TransportGatewaySimulatorV1 ×
      GuiElectionSessionV1) (world : ServiceState × List ServiceEvent) : Prop where
  numbered : guard < world.1.nextGuard
  held : world.1.gatewayGuard = some guard
  delivery : TransportGatewaySimulatorV1.Delivery env.toGatewayEnvironment world.1.gateway
    request.envelope request.retryCapability world.1.session result.1 result.2.1 result.2.2
  unfinalized : (sinceClose world.2).finalized = []
  logged : .performed tag ⟨.deliver guard request, result⟩ ∈ world.2

/-- It knows so for as long as it has the guard. -/
theorem HasDelivered.follows {result : TransportResult (VoterTransportReceiptV1 × Bytes32) ×
      TransportGatewaySimulatorV1 × GuiElectionSessionV1}
    {later : ServiceState × List ServiceEvent}
    (h : HasDelivered env tag guard request result world) (hfollows : Follows world later)
    (hheld : later.1.gatewayGuard = some guard) :
    HasDelivered env tag guard request result later := by
  obtain ⟨hgateway, hsession, hfinalized⟩ := hfollows.held guard h.numbered h.held hheld
  refine ⟨h.numbered.trans_le hfollows.numbers, hheld, ?_, hfinalized.trans h.unfinalized, ?_⟩
  · rw [hgateway, hsession]
    exact h.delivery
  · exact hfollows.log.subset h.logged

/-- The commit and the receipt. -/
theorem safe_commit {voterReceipt : VoterTransportReceiptV1} {digest : Bytes32}
    {gateway : TransportGatewaySimulatorV1} {session : GuiElectionSessionV1}
    (hworld : HasDelivered env tag guard request (.ok (voterReceipt, digest), gateway, session)
      world) :
    Safe env tag (.act (.commit guard gateway session) fun _ ↦
      .done (answer env voterReceipt digest)) world := by
  apply System.Keeps.act Follows.trans
  intro s log input response s' hexec hfollows h hready _
  cases hexec
  have hnow := hworld.follows hfollows (of_decide_eq_true hready)
  obtain ⟨hbooked, hplaced, haccepted⟩ := h.booked.delivered hnow.delivery
  have hlog : sinceClose (log ++ [Event.performed tag ⟨.commit guard gateway session, ()⟩]) =
      sinceClose log := sinceClose_append_singleton _ _
  have hstep := h.performed tag ⟨.commit guard gateway session, ()⟩
    { s with gateway, session, gatewayGuard := none, sessionGuard := none } hbooked
    (Nat.le_refl _) (fun guard hheld ↦ by cases hheld)
    (by rw [hlog]; exact h.fenced) (by rw [hlog]; exact h.intakes) hplaced
    (by rw [hlog]; exact fun _ ↦ .inl)
  refine ⟨hstep.1, hstep.2, ?_⟩
  intro _ later laterLog hlater hserved
  apply hserved.returned
  intro receipt packageDigest bytes hvalue hstate
  obtain ⟨rfl, rfl⟩ : receipt = voterReceipt ∧ packageDigest = digest := by
    unfold answer at hvalue
    split at hvalue
    · cases hvalue
    · cases hvalue
      exact ⟨rfl, rfl⟩
  constructor
  · refine ⟨guard, request, (gateway, session), hlater.log.subset ?_⟩
    exact List.mem_append_left _ hnow.logged
  · apply hlater.contained
    refine ⟨haccepted receipt packageDigest rfl hstate, ?_⟩
    show ∀ other ∈ (sinceClose (log ++ _)).finalized, _
    rw [hlog, hnow.unfinalized]
    intro other hmem
    cases hmem

theorem safe_afterDelivery {result : TransportResult (VoterTransportReceiptV1 × Bytes32) ×
      TransportGatewaySimulatorV1 × GuiElectionSessionV1}
    (hworld : HasDelivered env tag guard request result world) :
    Safe env tag (afterDelivery env guard request result) world := by
  obtain ⟨outcome, gateway, session⟩ := result
  cases outcome with
  | error e =>
    cases e with
    | unavailable => exact safe_refuse .admissionUnavailable
    | _ => exact safe_refuse .badRequest
  | ok receipt =>
    obtain ⟨voterReceipt, digest⟩ := receipt
    apply System.Keeps.act Follows.trans
    intro s log input response s' hexec hfollows h hready _
    cases hexec
    have hnow := hworld.follows hfollows (of_decide_eq_true hready)
    have hlog : ∀ response, sinceClose (log ++ [Event.performed tag
        ⟨.handOff guard request voterReceipt session, response⟩]) = sinceClose log :=
      fun _ ↦ sinceClose_append_singleton _ _
    have hstep := h.quiet tag ⟨.handOff guard request voterReceipt session, (request.handOff
        env.toCollectorEnvironment s.toCollectorState voterReceipt session).1⟩
      { s with inbox :=
          (request.handOff env.toCollectorEnvironment s.toCollectorState voterReceipt session).2 }
      rfl rfl rfl (Nat.le_refl _) (fun guard hheld ↦ ⟨h.numbered guard hheld, .inl hheld⟩) (hlog _)
    refine ⟨hstep.1, hstep.2, ?_⟩
    intro _
    cases hhand : (request.handOff env.toCollectorEnvironment s.toCollectorState voterReceipt
      session).1 with
    | error rejection => exact safe_refuse rejection
    | ok u =>
      have hlater := hnow.follows hstep.2 hnow.held
      rw [hhand] at hlater
      exact safe_commit hlater

theorem safe_afterLocks (hworld : guard < world.1.nextGuard) :
    Safe env tag (afterLocks env guard request) world := by
  unfold afterLocks
  split
  · exact safe_refuse .internal
  · apply System.Keeps.act Follows.trans
    intro s log input response s' hexec hfollows h hready hopen
    cases hexec
    -- The fence is open, so CLOSED was not published.
    have hclosed : (sinceClose log).closed = false := by
      cases hclosed : (sinceClose log).closed with
      | false => rfl
      | true => exact absurd (of_decide_eq_true hopen) (h.fenced hclosed)
    have hnothing := sinceClose_of_not_closed hclosed
    have hlog : sinceClose (log ++ [Event.performed tag ⟨.deliver guard request,
        request.delivery env.toCollectorEnvironment s.toCollectorState⟩]) = sinceClose log := by
      rw [sinceClose_append_singleton, hnothing]
      unfold SinceClose.next
      split
      · next heq => cases heq
      · rfl
      · next heq => cases heq
      · rfl
    have hstep := h.look tag ⟨.deliver guard request,
      request.delivery env.toCollectorEnvironment s.toCollectorState⟩ hlog
    refine ⟨hstep.1, hstep.2, ?_⟩
    intro _
    apply safe_afterDelivery
    refine ⟨hworld.trans_le hfollows.numbers, of_decide_eq_true hready, ?_, ?_, ?_⟩
    · exact TransportGatewaySimulatorV1.deliverAndDigest_cases h.booked.replayed h.booked.idle
        request.envelope request.retryCapability
    · show (sinceClose (log ++ _)).finalized = []
      rw [hlog, hnothing]
    · exact List.mem_append_right _ (List.mem_singleton.mpr rfl)

/-- An envelope. -/
theorem safe_handleOpaqueEnvelope : Safe env tag (handleOpaqueEnvelope env request) world := by
  apply System.Keeps.act Follows.trans
  intro s log input response s' hexec _ h _ _
  cases hexec
  have hfence := h.look tag ⟨.fenceState, s.fence.state⟩ (sinceClose_append_singleton _ _)
  refine ⟨hfence.1, hfence.2, ?_⟩
  intro _
  by_cases hopen : s.fence.state ≠ .opened
  · simp only [serviceSystem, if_pos hopen]
    exact safe_refused _
  · simp only [serviceSystem, if_neg hopen]
    apply System.Keeps.act Follows.trans
    intro s log input response s' hexec _ h hready _
    cases hexec
    have hlock := h.quiet tag ⟨.lockGateway, s.nextGuard⟩
      { s with gatewayGuard := some s.nextGuard, nextGuard := s.nextGuard + 1 } rfl rfl rfl
      (Nat.le_succ _)
      (by
        intro guard hheld
        cases hheld
        exact ⟨Nat.lt_succ_self _, .inr (Nat.le_refl _)⟩)
      (sinceClose_append_singleton _ _)
    refine ⟨hlock.1, hlock.2, ?_⟩
    intro _
    apply System.Keeps.act Follows.trans
    intro later log' input response s' hexec hfollows h _ _
    cases hexec
    have hsession := h.quiet tag ⟨.lockSession s.nextGuard, ()⟩
      { later with sessionGuard := some s.nextGuard } rfl rfl rfl (Nat.le_refl _)
      (fun guard hheld ↦ ⟨h.numbered guard hheld, .inl hheld⟩) (sinceClose_append_singleton _ _)
    refine ⟨hsession.1, hsession.2, ?_⟩
    intro _
    apply safe_afterLocks
    exact Nat.lt_of_lt_of_le (Nat.lt_succ_self _) hfollows.numbers

/-- A finalization. -/
theorem safe_finalizeService : Safe env tag (finalizeService env) world := by
  apply System.Keeps.act Follows.trans
  intro s log input response s' hexec _ h hready _
  cases hexec
  have hfree : s.gatewayGuard = none := of_decide_eq_true hready
  obtain ⟨hbooked, hsealed⟩ := h.booked.finalBatch env.descriptor.batch.acceptedUniqueFloor
  have hlog : ∀ gateway, sinceClose (log ++ [Event.performed tag ⟨.sealFinalBatch, gateway⟩]) =
      (sinceClose log).finalize gateway := fun gateway ↦ sinceClose_append_singleton _ _
  have hstep := h.performed tag ⟨.sealFinalBatch, (s.gateway.sealPendingBatch env.prims.provider
      env.descriptor.batch.acceptedUniqueFloor true).2⟩
    { s with gateway := (s.gateway.sealPendingBatch env.prims.provider
        env.descriptor.batch.acceptedUniqueFloor true).2 }
    hbooked (Nat.le_refl _) (fun guard hheld ↦ by rw [hfree] at hheld; cases hheld)
    (by
      rw [hlog]
      unfold SinceClose.finalize
      split <;> exact h.fenced)
    (by
      rw [hlog]
      unfold SinceClose.finalize
      split <;> exact h.intakes)
    (fun digest hmem ↦ List.mem_append_right _ (hsealed digest hmem))
    (by
      intro gateway hmem
      rw [hlog] at hmem
      unfold SinceClose.finalize at hmem
      split at hmem
      · rcases List.mem_append.mp hmem with hold | hnew
        · exact .inl hold
        · rw [List.mem_singleton.mp hnew]
          exact .inr hsealed
      · exact .inl hmem)
  refine ⟨hstep.1, hstep.2, ?_⟩
  intro _ later laterLog _ hserved
  apply hserved.returned
  intro voterReceipt digest bytes hvalue
  cases hvalue

/-- A publication. -/
theorem safe_publish {state : ElectionLifecycleStateV1} (explicitGeneration : Option UInt64)
    (hstate : ElectionLifecycleStateV1.closed.rank ≤ state.rank) :
    Safe env tag (publish state explicitGeneration) world := by
  apply System.Keeps.act Follows.trans
  intro s log input response s' hexec _ h _ _
  cases hexec
  have hlog : sinceClose (log ++ [Event.performed tag ⟨.observe state explicitGeneration, ()⟩]) =
      { sinceClose log with closed := true } := by
    rw [sinceClose_append_singleton]
    show SinceClose.mk _ _ _ = _
    rw [decide_eq_true hstate, Bool.or_true]
  have hstep := h.performed tag ⟨.observe state explicitGeneration, ()⟩
    { s with fence := s.fence.observe state explicitGeneration } h.booked (Nat.le_refl _)
    (fun guard hheld ↦ ⟨h.numbered guard hheld, .inl ⟨hheld, rfl, rfl, by rw [hlog]⟩⟩)
    (by
      intro _ hopened
      rw [AuthoritativeLifecycleFenceV1.state_observe] at hopened
      rw [hopened] at hstate
      exact absurd hstate (by decide))
    (by rw [hlog]; exact h.intakes) (fun _ ↦ id) (by rw [hlog]; exact fun _ ↦ .inl)
  refine ⟨hstep.1, hstep.2, ?_⟩
  intro _ later laterLog _ hserved
  apply hserved.returned
  intro voterReceipt digest bytes hvalue
  cases hvalue

end Threads

/-! ### Whole runs -/

/-- The service when it is started: a new gateway, nobody holds a lock. -/
def serviceStart (session : GuiElectionSessionV1) (inbox : PrivateIntakeInbox)
    (fence : AuthoritativeLifecycleFenceV1) : ServiceState :=
  ⟨⟨.default, session, inbox⟩, fence, none, none, 0⟩

/-- Nothing is admitted after CLOSED: when every envelope is delivered before the fence changes
from what its check saw, no delivery is answered with an acceptance after CLOSED was published, and
the package of every accepted receipt is in a batch of every finalization since then. -/
theorem noAdmissionAfterClose {env : ServiceEnvironment} (laws : TriptychBatchLaws env.prims.crate)
    {session : GuiElectionSessionV1}
    (hsession : GuiElectionSessionV1.Reachable env.prims session) (inbox : PrivateIntakeInbox)
    (fence : AuthoritativeLifecycleFenceV1)
    {config : Config ServiceOp.Response ServiceAnswer Nat ServiceState}
    (run : (serviceSystem env).Run (IsServiceCall env)
      (fun tag op input s ↦ DeliversWhileOpen tag op input s = true)
      (serviceStart session inbox fence) config) :
    (sinceClose config.log).acceptedIntakes = [] ∧
    ∀ tag voterReceipt digest bytes,
      .returned tag (.receipt voterReceipt digest bytes) ∈ config.log →
      voterReceipt.state = .accepted →
      (∃ guard request next,
        .performed tag ⟨.deliver guard request, (.ok (voterReceipt, digest), next)⟩ ∈
          config.log) ∧
      ∀ gateway ∈ (sinceClose config.log).finalized, digest ∈ gateway.sealedDigests := by
  have hstart : Served env (serviceStart session inbox fence) [] := by
    refine ⟨⟨hsession.isReplayed laws, rfl, ?_⟩, ?_, ?_, rfl, ?_⟩
    · intro commitment record hrecord
      cases hrecord
    · intro guard hheld
      cases hheld
    · intro hclosed
      cases hclosed
    · intro tag voterReceipt digest bytes hmem
      cases hmem
  have hserved : Served env config.state config.log := by
    refine System.Run.keeps run Follows.refl Follows.trans hstart ?_ ?_ ?_
    · intro tag program hcall s log _
      cases hcall with
      | handle request => exact safe_handleOpaqueEnvelope
      | finalize => exact safe_finalizeService
      | publish state explicitGeneration hstate => exact safe_publish explicitGeneration hstate
    · intro tag value s log
      have hlog : sinceClose (log ++ [.returned tag value]) = sinceClose log :=
        sinceClose_append_singleton _ _
      refine ⟨List.prefix_append _ _, Nat.le_refl _, fun _ _ ↦ id, ?_, ?_⟩
      · intro guard _ _ _
        exact ⟨rfl, rfl, by rw [hlog]⟩
      · intro digest hin
        refine ⟨hin.1, ?_⟩
        show ∀ gateway ∈ (sinceClose (log ++ [.returned tag value])).finalized, _
        rw [hlog]
        exact hin.2
    · intro tag next s log hserved
      exact ⟨hserved, Follows.refl _⟩
  refine ⟨hserved.intakes, ?_⟩
  intro tag voterReceipt digest bytes hmem haccepted
  obtain ⟨hdelivered, hin⟩ := hserved.receipts tag voterReceipt digest bytes hmem haccepted
  exact ⟨hdelivered, hin.2⟩

namespace Sample

/-- The sample collector with its receipt key. -/
def service : ServiceEnvironment := ⟨Sample.collector, Bytes32.replicate 5⟩

/-- The sample service before its first envelope. -/
def openService : ServiceState := serviceStart Sample.session .empty ⟨.opened, 1⟩

abbrev ServiceChoice := Choice ServiceOp.Response ServiceAnswer Unit Unit Nat

/-- An envelope with the first sample package. -/
def ballot : ServiceChoice := .start 0 (handleOpaqueEnvelope service
  ⟨Sample.envelope Sample.first, Sample.capability 1, InboxFaults.none⟩)

/-- This many steps of a thread. -/
def advances (thread count : Nat) : List ServiceChoice := List.replicate count (.advance thread ())

/-- CLOSED and a finalization, each to its end, beside so many threads in progress. -/
def closing (threads : Nat) : List ServiceChoice :=
  [Choice.start 1 (publish .closed none)] ++ advances threads 2 ++
    [Choice.start 2 (finalizeService service)] ++ advances threads 2

/-- The ballot is answered before the election closes. -/
def inTime : List ServiceChoice := [ballot] ++ advances 0 7 ++ closing 0

/-- The election closes behind the check of the fence. -/
def tooLate : List ServiceChoice := [ballot] ++ advances 0 1 ++ closing 1 ++ advances 0 6

/-- The digests of the accepted receipts. -/
def receiptsOf (log : List ServiceEvent) : List (Nat × Bytes32) :=
  log.filterMap fun event ↦ match event with
    | .returned tag (.receipt voterReceipt digest _) =>
      if voterReceipt.state = .accepted then some (tag, digest) else none
    | _ => none

theorem exists_returned_of_receiptsOf {log : List ServiceEvent} {tag : Nat} {digest : Bytes32}
    (h : (tag, digest) ∈ receiptsOf log) : ∃ voterReceipt bytes,
      .returned tag (.receipt voterReceipt digest bytes) ∈ log ∧
        voterReceipt.state = .accepted := by
  obtain ⟨event, hmem, hevent⟩ := List.mem_filterMap.mp h
  split at hevent
  · next other voterReceipt packageDigest bytes =>
    split at hevent
    · next haccepted =>
      cases hevent
      exact ⟨voterReceipt, bytes, hmem, haccepted⟩
    · cases hevent
  · cases hevent

theorem isServiceCall_of_mem {tag : Nat} {program : ServiceProgram ServiceAnswer}
    (h : (.start tag program : ServiceChoice) ∈ inTime ∨
      (.start tag program : ServiceChoice) ∈ tooLate) : IsServiceCall service tag program := by
  have hcases : (.start tag program : ServiceChoice) ∈
      [ballot, .start 1 (publish .closed none), .start 2 (finalizeService service)] := by
    simpa [inTime, tooLate, closing, advances] using h
  simp only [List.mem_cons, List.not_mem_nil, or_false] at hcases
  rcases hcases with hballot | hclose | hfinalize
  · cases hballot
    exact .handle 0 _
  · cases hclose
    exact .publish 1 .closed none (by decide)
  · cases hfinalize
    exact .finalize 2

/-- What the two orders come to, in one evaluation. -/
theorem runs_evaluated :
    ((serviceSystem service).steps DeliversWhileOpen ⟨openService, [], []⟩ inTime).map
        (fun config ↦ (decide ((sinceClose config.log).finalized.length = 1) &&
          decide (receiptsOf config.log = [(0, packageDigest service.prims.provider first)]))) =
      some true ∧
    ((serviceSystem service).steps (fun _ _ _ _ ↦ true) ⟨openService, [], []⟩ tooLate).map
        (fun config ↦ (decide ((sinceClose config.log).acceptedIntakes =
            [(0, packageDigest service.prims.provider first)]) &&
          decide ((sinceClose config.log).finalized.map
            TransportGatewaySimulatorV1.sealedDigests = [[]]) &&
          decide (receiptsOf config.log =
            [(0, packageDigest service.prims.provider first)]))) = some true := by
  decide +kernel

end Sample

/-- One ballot, then CLOSED, then a finalization. -/
theorem noAdmissionAfterClose_sample :
    ∃ config, (serviceSystem Sample.service).steps DeliversWhileOpen
        ⟨Sample.openService, [], []⟩ Sample.inTime = some config ∧
      (sinceClose config.log).finalized.length = 1 ∧
      ∃ tag digest, (tag, digest) ∈ Sample.receiptsOf config.log ∧
        ∀ gateway ∈ (sinceClose config.log).finalized, digest ∈ gateway.sealedDigests := by
  obtain ⟨hcheck, -⟩ := Sample.runs_evaluated
  obtain ⟨config, hsteps, hboth⟩ := Option.map_eq_some_iff.mp hcheck
  rw [Bool.and_eq_true, decide_eq_true_eq, decide_eq_true_eq] at hboth
  have run : (serviceSystem Sample.service).Run (IsServiceCall Sample.service)
      (fun tag op input s ↦ DeliversWhileOpen tag op input s = true) Sample.openService config :=
    System.Run.initial.steps (fun _ _ hmem ↦ Sample.isServiceCall_of_mem (.inl hmem))
      (fun _ _ _ _ h ↦ h) hsteps
  have hmem : (0, packageDigest Sample.service.prims.provider Sample.first) ∈
      Sample.receiptsOf config.log := by
    rw [hboth.2]
    exact List.mem_singleton.mpr rfl
  obtain ⟨voterReceipt, bytes, hreturned, haccepted⟩ :=
    Sample.exists_returned_of_receiptsOf hmem
  have hservice := noAdmissionAfterClose (triptychBatchLaws_idealCrate _) Sample.reachable_session
    .empty ⟨.opened, 1⟩ run
  exact ⟨config, hsteps, hboth.1, 0, _, hmem,
    (hservice.2 0 voterReceipt _ bytes hreturned haccepted).2⟩

/-- CLOSED is published and the batch is sealed between the check of an envelope and its delivery:
the ballot is taken in all the same, and its accepted receipt is for a package that the finalization
did not seal. -/
theorem not_noAdmissionAfterClose :
    ∃ config, (serviceSystem Sample.service).Run (IsServiceCall Sample.service)
        (fun _ _ _ _ ↦ True) Sample.openService config ∧
      (∃ tag voterReceipt digest bytes,
        .returned tag (.receipt voterReceipt digest bytes) ∈ config.log ∧
        voterReceipt.state = .accepted ∧
        (tag, digest) ∈ (sinceClose config.log).acceptedIntakes ∧
        ∃ gateway ∈ (sinceClose config.log).finalized, digest ∉ gateway.sealedDigests) := by
  obtain ⟨-, hcheck⟩ := Sample.runs_evaluated
  obtain ⟨config, hsteps, hall⟩ := Option.map_eq_some_iff.mp hcheck
  rw [Bool.and_eq_true, Bool.and_eq_true, decide_eq_true_eq, decide_eq_true_eq,
    decide_eq_true_eq] at hall
  obtain ⟨⟨hintakes, hfinalized⟩, hreceipts⟩ := hall
  have run : (serviceSystem Sample.service).Run (IsServiceCall Sample.service)
      (fun _ _ _ _ ↦ True) Sample.openService config :=
    System.Run.initial.steps (fun _ _ hmem ↦ Sample.isServiceCall_of_mem (.inr hmem))
      (fun _ _ _ _ _ ↦ trivial) hsteps
  have hmem : (0, packageDigest Sample.service.prims.provider Sample.first) ∈
      Sample.receiptsOf config.log := by
    rw [hreceipts]
    exact List.mem_singleton.mpr rfl
  obtain ⟨voterReceipt, bytes, hreturned, haccepted⟩ :=
    Sample.exists_returned_of_receiptsOf hmem
  refine ⟨config, run, 0, voterReceipt, _, bytes, hreturned, haccepted, ?_, ?_⟩
  · rw [hintakes]
    exact List.mem_singleton.mpr rfl
  · obtain ⟨gateway, hgateway, hempty⟩ := List.map_eq_singleton_iff.mp hfinalized
    refine ⟨gateway, ?_, ?_⟩
    · rw [hgateway]
      exact List.mem_singleton.mpr rfl
    · rw [hempty]
      exact List.not_mem_nil

end PrivateBallot.TransportGateway
