import PrivateBallot.Base.Observation
import PrivateBallot.TransportGateway.Gateway

/-!
# The admission gate over whole runs

Library `TransportGateway`. `crates/transport-gateway/src/lib.rs:263-345`: calls on one gate and
one open session, in any order. The counter of the gate is a `u32` that saturates and its
generation a `u64` that wraps around, so the gate knows its unfinished admissions only while
neither limit is reached.
-/

namespace PrivateBallot.TransportGateway

open PrivateBallot.Base PrivateBallot.GuiCore

/-- A call on the gate. An admission is finished with the generation it was given. -/
inductive GateCall where
  | admitOne
  | beginClose
  | finish (generation : UInt64)
  | expireDrain
deriving DecidableEq

/-- The gate and the session, with books that the code does not keep: the generations given to
admissions that are not finished, to all admissions, and to those from before the last expiry; how
often a drain expired; and whether closing has begun. -/
structure GateState where
  gate : TransportAdmissionGateV1
  session : GuiElectionSessionV1
  unfinished : List UInt64
  issued : List UInt64
  expired : List UInt64
  expiries : Nat
  closing : Bool

namespace GateState

/-- A new gate and a session. -/
def start (session : GuiElectionSessionV1) : GateState :=
  ⟨.default, session, [], [], [], 0, false⟩

/-- How many admissions of the current generation are not finished. -/
def pending (self : GateState) : Nat := self.unfinished.count self.gate.drainGeneration

/-- One call, and whether it succeeded. -/
def call (self : GateState) : GateCall → Bool × GateState
  | .admitOne =>
    match self.gate.admitOne self.session with
    | .error _ => (false, self)
    | .ok (generation, gate) => (true, { self with
        gate
        unfinished := generation :: self.unfinished
        issued := generation :: self.issued })
  | .beginClose =>
    let (result, gate, session) := self.gate.beginClose self.session
    (result.isOk, { self with gate, session, closing := true })
  | .finish generation =>
    let (result, gate, session) := self.gate.finishAdmitted self.session generation
    (result.isOk, { self with gate, session, unfinished := self.unfinished.erase generation })
  | .expireDrain =>
    let (result, gate, session) := self.gate.expireDrain self.session
    (result.isOk,
      { self with gate, session, expired := self.issued, expiries := self.expiries + 1 })

/-- Every admission is finished at most once: a call that finishes one of the current generation
has one to finish. -/
def Permits (self : GateState) : GateCall → Prop
  | .finish generation => generation = self.gate.drainGeneration → generation ∈ self.unfinished
  | _ => True

/-- The counter and the generation are below their last values. -/
def HasRoom (self : GateState) : GateCall → Prop
  | .admitOne => self.pending < 2 ^ 32 - 1
  | .expireDrain => self.expiries + 1 < 2 ^ 64
  | _ => True

instance (self : GateState) (call : GateCall) : Decidable (self.Permits call) := by
  cases call <;> simp only [Permits] <;> infer_instance

instance (self : GateState) (call : GateCall) : Decidable (self.HasRoom call) := by
  cases call <;> simp only [HasRoom] <;> infer_instance

end GateState

/-- Calls one after the other. -/
def gateMachine : Mealy GateState GateCall Bool := ⟨GateState.call⟩

/-! ### What a call does -/

theorem close_of_opened {session : GuiElectionSessionV1}
    (hopen : session.lifecycle.state = .opened) :
    session.close =
      .ok { session with lifecycle := { session.lifecycle with state := .closed } } := by
  have hlifecycle : session.lifecycle.close =
      .ok { session.lifecycle with state := .closed } := by
    rw [Ballot.ElectionLifecycleV1.close, Ballot.ElectionLifecycleV1.transition, if_neg]
    rw [hopen]
    decide
  rw [GuiElectionSessionV1.close, GuiElectionSessionV1.withLifecycle, hlifecycle]
  rfl

namespace TransportAdmissionGateV1

variable {gate : TransportAdmissionGateV1} {session : GuiElectionSessionV1}

/-- The session as the gate closes it. -/
def closedBy (session : GuiElectionSessionV1) : GuiElectionSessionV1 :=
  { session with lifecycle := { session.lifecycle with state := .closed } }

theorem closeIfDrained_of_open (hopen : session.lifecycle.state = .opened) :
    gate.closeIfDrained session =
      if gate.state = .closing ∧ gate.admitted = 0 then
        (.ok (), { gate with state := .closed }, closedBy session)
      else (.ok (), gate, session) := by
  unfold closeIfDrained
  split
  · rw [close_of_opened hopen]
    rfl
  · rfl

end TransportAdmissionGateV1

/-! ### The books of a run -/

/-- The books agree with the gate, but the gate may be about to close. -/
structure GateTallied (initial : GuiElectionSessionV1) (state : GateState) : Prop where
  generation : state.gate.drainGeneration = UInt64.ofNat state.expiries
  expiries_lt : state.expiries < 2 ^ 64
  issued : ∀ g ∈ state.issued, g.toNat ≤ state.expiries
  expired : ∀ g ∈ state.expired, g.toNat < state.expiries
  unfinished : ∀ g ∈ state.unfinished, g ∈ state.issued
  counted : state.gate.admitted = state.pending
  closing : state.closing = true ↔ state.gate.state ≠ .opened
  live : state.gate.state ≠ .closed → state.session = initial
  closed : state.gate.state = .closed →
    state.session = TransportAdmissionGateV1.closedBy initial ∧ state.gate.admitted = 0

/-- The books agree with the gate, and a gate that is still closing waits for an admission. -/
structure GateBooked (initial : GuiElectionSessionV1) (state : GateState) : Prop
    extends GateTallied initial state where
  waiting : state.gate.state = .closing → state.gate.admitted ≠ 0

variable {initial : GuiElectionSessionV1} {state : GateState}

theorem gateBooked_start (session : GuiElectionSessionV1) :
    GateBooked session (GateState.start session) where
  generation := rfl
  expiries_lt := Nat.two_pow_pos 64
  issued := nofun
  expired := nofun
  unfinished := nofun
  counted := rfl
  closing := by simp [GateState.start, TransportAdmissionGateV1.default]
  live _ := rfl
  closed := nofun
  waiting := nofun

/-- Closing once the last admission is finished. -/
theorem GateTallied.closeIfDrained (h : GateTallied initial state)
    (hopen : initial.lifecycle.state = .opened) :
    GateBooked initial { state with
      gate := (state.gate.closeIfDrained state.session).2.1
      session := (state.gate.closeIfDrained state.session).2.2 } := by
  by_cases hdrained : state.gate.state = .closing ∧ state.gate.admitted = 0
  · have hlive : state.session = initial := h.live (by rw [hdrained.1]; decide)
    have hsession : state.session.lifecycle.state = .opened := by rw [hlive, hopen]
    rw [TransportAdmissionGateV1.closeIfDrained_of_open hsession, if_pos hdrained]
    exact
      { generation := h.generation
        expiries_lt := h.expiries_lt
        issued := h.issued
        expired := h.expired
        unfinished := h.unfinished
        counted := h.counted
        closing := by
          rw [h.closing, hdrained.1]
          simp
        live := fun hne ↦ absurd rfl hne
        closed := fun _ ↦ ⟨by rw [hlive], hdrained.2⟩
        waiting := nofun }
  · have hsame : state.gate.closeIfDrained state.session = (.ok (), state.gate, state.session) := by
      rw [TransportAdmissionGateV1.closeIfDrained, if_neg hdrained]
    rw [hsame]
    exact { h with waiting := fun hclosing hzero ↦ hdrained ⟨hclosing, hzero⟩ }

theorem GateBooked.admitOne (h : GateBooked initial state) (hroom : state.HasRoom .admitOne) :
    GateBooked initial (state.call .admitOne).2 := by
  rw [GateState.call]
  by_cases hopen : state.gate.state ≠ .opened ∨ state.session.lifecycle.state ≠ .opened
  · rw [TransportAdmissionGateV1.admitOne, if_pos hopen]
    exact h
  · rw [TransportAdmissionGateV1.admitOne, if_neg hopen]
    rw [not_or, Decidable.not_not] at hopen
    have hgeneration : state.gate.drainGeneration.toNat = state.expiries := by
      rw [h.generation, UInt64.toNat_ofNat', Nat.mod_eq_of_lt h.expiries_lt]
    exact
      { generation := h.generation
        expiries_lt := h.expiries_lt
        issued := by
          intro g hg
          rcases List.mem_cons.mp hg with rfl | hg
          · exact hgeneration.le
          · exact h.issued g hg
        expired := h.expired
        unfinished := by
          intro g hg
          rcases List.mem_cons.mp hg with rfl | hg
          · exact List.mem_cons_self
          · exact List.mem_cons_of_mem _ (h.unfinished g hg)
        counted := by
          have hcounted := h.counted
          have hlt : state.pending < 2 ^ 32 - 1 := hroom
          rw [GateState.pending] at hcounted hlt
          show min (state.gate.admitted + 1) (2 ^ 32 - 1) =
            (state.gate.drainGeneration :: state.unfinished).count state.gate.drainGeneration
          rw [List.count_cons_self]
          omega
        closing := h.closing
        live := h.live
        closed := by
          intro hclosed
          rw [hopen.1] at hclosed
          cases hclosed
        waiting := by
          intro hclosing
          rw [hopen.1] at hclosing
          cases hclosing }

theorem GateBooked.beginClose (h : GateBooked initial state)
    (hopen : initial.lifecycle.state = .opened) :
    GateBooked initial (state.call .beginClose).2 := by
  rw [GateState.call]
  by_cases hbegun : state.gate.state ≠ .opened
  · rw [TransportAdmissionGateV1.beginClose, if_pos hbegun]
    exact { h with closing := iff_of_true rfl hbegun }
  · rw [TransportAdmissionGateV1.beginClose, if_neg hbegun]
    rw [Decidable.not_not] at hbegun
    have htallied : GateTallied initial { state with
        gate := { state.gate with state := .closing }, closing := true } :=
      { generation := h.generation
        expiries_lt := h.expiries_lt
        issued := h.issued
        expired := h.expired
        unfinished := h.unfinished
        counted := h.counted
        closing := by simp
        live := fun _ ↦ h.live (by rw [hbegun]; decide)
        closed := nofun }
    exact htallied.closeIfDrained hopen

theorem GateBooked.finish (h : GateBooked initial state) (hopen : initial.lifecycle.state = .opened)
    {generation : UInt64} (hpermits : state.Permits (.finish generation)) :
    GateBooked initial (state.call (.finish generation)).2 := by
  rw [GateState.call]
  have hunfinished : ∀ g ∈ state.unfinished.erase generation, g ∈ state.issued :=
    fun g hg ↦ h.unfinished g (List.mem_of_mem_erase hg)
  have hcounted := h.counted
  rw [GateState.pending] at hcounted
  by_cases hrefused : state.gate.state = .closed ∨ generation ≠ state.gate.drainGeneration
  · -- What is erased is not of the current generation.
    have hstale : generation ≠ state.gate.drainGeneration := by
      rcases hrefused with hclosed | hstale
      · intro hcurrent
        have hmem := hpermits hcurrent
        rw [hcurrent, ← List.count_pos_iff, ← hcounted, (h.closed hclosed).2] at hmem
        exact absurd hmem (Nat.lt_irrefl 0)
      · exact hstale
    rw [TransportAdmissionGateV1.finishAdmitted, if_pos hrefused]
    refine { h with unfinished := hunfinished, counted := ?_ }
    show state.gate.admitted = (state.unfinished.erase generation).count _
    rw [List.count_erase_of_ne hstale.symm, hcounted]
  · rw [TransportAdmissionGateV1.finishAdmitted, if_neg hrefused]
    rw [not_or, Decidable.not_not] at hrefused
    obtain ⟨hlive, rfl⟩ := hrefused
    have hpos := List.count_pos_iff.mpr (hpermits rfl)
    obtain ⟨admitted, hadmitted⟩ : ∃ n, state.gate.admitted = n + 1 :=
      ⟨state.gate.admitted - 1, by omega⟩
    have htallied : GateTallied initial { state with
        gate := { state.gate with admitted }
        unfinished := state.unfinished.erase state.gate.drainGeneration } :=
      { generation := h.generation
        expiries_lt := h.expiries_lt
        issued := h.issued
        expired := h.expired
        unfinished := hunfinished
        counted := by
          show admitted = (state.unfinished.erase _).count state.gate.drainGeneration
          rw [List.count_erase_self]
          omega
        closing := h.closing
        live := h.live
        closed := fun hclosed ↦ absurd hclosed hlive }
    simp only [hadmitted]
    exact htallied.closeIfDrained hopen

theorem GateBooked.expireDrain (h : GateBooked initial state)
    (hopen : initial.lifecycle.state = .opened) (hroom : state.HasRoom .expireDrain) :
    GateBooked initial (state.call .expireDrain).2 := by
  rw [GateState.call]
  have hlt : state.expiries + 1 < 2 ^ 64 := hroom
  have hgeneration : state.gate.drainGeneration + 1 = UInt64.ofNat (state.expiries + 1) := by
    rw [h.generation, UInt64.ofNat_add]
    rfl
  have hnext : (UInt64.ofNat (state.expiries + 1)).toNat = state.expiries + 1 := by
    rw [UInt64.toNat_ofNat', Nat.mod_eq_of_lt hlt]
  have htallied : GateTallied initial { state with
      gate := { state.gate with drainGeneration := state.gate.drainGeneration + 1, admitted := 0 }
      expired := state.issued
      expiries := state.expiries + 1 } :=
    { generation := hgeneration
      expiries_lt := hlt
      issued := fun g hg ↦ Nat.le_succ_of_le (h.issued g hg)
      expired := fun g hg ↦ Nat.lt_succ_of_le (h.issued g hg)
      unfinished := h.unfinished
      counted := by
        show 0 = state.unfinished.count (state.gate.drainGeneration + 1)
        rw [eq_comm, List.count_eq_zero]
        intro hmem
        have hle := h.issued _ (h.unfinished _ hmem)
        rw [hgeneration, hnext] at hle
        omega
      closing := h.closing
      live := h.live
      closed := fun hclosed ↦ ⟨(h.closed hclosed).1, rfl⟩ }
  exact htallied.closeIfDrained hopen

/-- Every call keeps the books, as long as there is room for it. -/
theorem GateBooked.call (h : GateBooked initial state) (hopen : initial.lifecycle.state = .opened)
    {call : GateCall} (hpermits : state.Permits call) (hroom : state.HasRoom call) :
    GateBooked initial (state.call call).2 := by
  cases call with
  | admitOne => exact h.admitOne hroom
  | beginClose => exact h.beginClose hopen
  | finish generation => exact h.finish hopen hpermits
  | expireDrain => exact h.expireDrain hopen hroom

/-- An admission from before the last expiry changes nothing any more. -/
theorem GateBooked.finishAdmitted_expired (h : GateBooked initial state) {generation : UInt64}
    (hexpired : generation ∈ state.expired) :
    state.gate.finishAdmitted state.session generation =
      (.error .unavailable, state.gate, state.session) := by
  have hstale : generation ≠ state.gate.drainGeneration := by
    rintro rfl
    have hlt := h.expired _ hexpired
    rw [h.generation, UInt64.toNat_ofNat', Nat.mod_eq_of_lt h.expiries_lt] at hlt
    exact absurd hlt (Nat.lt_irrefl _)
  rw [TransportAdmissionGateV1.finishAdmitted, if_pos (Or.inr hstale)]

/-- The books after a run in which there was room for every call. -/
theorem gateBooked_run {calls : List GateCall} (hopen : initial.lifecycle.state = .opened)
    (h : gateMachine.Along (fun state call ↦ state.Permits call ∧ state.HasRoom call)
      (.start initial) calls) : GateBooked initial (gateMachine.after (.start initial) calls) :=
  h.invariant (gateBooked_start initial) fun _ _ hbooked hcall ↦ hbooked.call hopen hcall.1 hcall.2

/-- The gate over a run in which no admission is made on top of `2 ^ 32 - 1` unfinished ones of the
current generation, drains expire fewer than `2 ^ 64` times, and an admission of the current
generation is finished only while one is unfinished. In every state reached, the gate
counts the unfinished admissions of the current generation; the session leaves OPEN only when there
are none; the gate is closed exactly when it closed the session; nothing is admitted once closing
has begun; and finishing an admission from before an expiry changes neither gate nor session. -/
theorem admissionGate_run (session : GuiElectionSessionV1) (calls : List GateCall)
    (hopen : session.lifecycle.state = .opened)
    (h : gateMachine.Along (fun state call ↦ state.Permits call ∧ state.HasRoom call)
      (.start session) calls) :
    let state := gateMachine.after (.start session) calls
    state.gate.admitted = state.pending ∧
      (state.session.lifecycle.state ≠ .opened → state.pending = 0) ∧
      (state.gate.state = .closed ↔
        state.session = TransportAdmissionGateV1.closedBy session) ∧
      (state.gate.state ≠ .closed → state.session = session) ∧
      (state.closing = true → ∃ e, state.gate.admitOne state.session = .error e) ∧
      ∀ generation ∈ state.expired, state.gate.finishAdmitted state.session generation =
        (.error .unavailable, state.gate, state.session) := by
  intro state
  have hbooked : GateBooked session state := gateBooked_run hopen h
  have hclosedBy : (TransportAdmissionGateV1.closedBy session).lifecycle.state = .closed := rfl
  refine ⟨hbooked.counted, ?_, ?_, hbooked.live, ?_, ?_⟩
  · intro hleft
    have hclosed : state.gate.state = .closed := by
      by_contra hlive
      rw [hbooked.live hlive] at hleft
      exact hleft hopen
    rw [← hbooked.counted]
    exact (hbooked.closed hclosed).2
  · constructor
    · intro hclosed
      exact (hbooked.closed hclosed).1
    · intro hsession
      by_contra hlive
      have hsame := hbooked.live hlive
      rw [hsession] at hsame
      rw [← hsame, hclosedBy] at hopen
      cases hopen
  · intro hclosing
    refine ⟨.unavailable, ?_⟩
    rw [TransportAdmissionGateV1.admitOne, if_pos (Or.inl (hbooked.closing.mp hclosing))]
  · intro generation hexpired
    exact hbooked.finishAdmitted_expired hexpired

/-- Admissions on both sides of an expiry, with one that is still unfinished when closing begins. -/
def Sample.gateCalls : List GateCall :=
  [.admitOne, .expireDrain, .admitOne, .admitOne, .finish 1, .beginClose, .finish 0, .finish 1]

theorem admissionGate_run_sample :
    (gateMachine.after (.start Sample.session) Sample.gateCalls).session =
        TransportAdmissionGateV1.closedBy Sample.session ∧
      (gateMachine.after (.start Sample.session) Sample.gateCalls).pending = 0 := by
  have hopen : Sample.session.lifecycle.state = .opened := by decide +kernel
  obtain ⟨-, hdrained, hclosed, -⟩ :=
    admissionGate_run Sample.session Sample.gateCalls hopen (by decide +kernel)
  have hstate : (gateMachine.after (.start Sample.session) Sample.gateCalls).gate.state =
      .closed := by decide +kernel
  have hsession := hclosed.mp hstate
  refine ⟨hsession, hdrained ?_⟩
  rw [hsession]
  exact nofun

/-! ### At the limits -/

section Limits

variable (session : GuiElectionSessionV1)

/-- The gate with these counts while nothing has expired. -/
private def counting (state : TransportAdmissionStateV1) (admitted unfinished issued : Nat) :
    GateState :=
  { gate := ⟨state, admitted, 0⟩
    session
    unfinished := List.replicate unfinished 0
    issued := List.replicate issued 0
    expired := []
    expiries := 0
    closing := decide (state ≠ .opened) }

private theorem after_admits (hopen : session.lifecycle.state = .opened) (n : Nat) :
    gateMachine.after (.start session) (List.replicate n .admitOne) =
      counting session .opened (min n (2 ^ 32 - 1)) n n := by
  induction n with
  | zero => rfl
  | succ n ih =>
    have hstep : (counting session .opened (min n (2 ^ 32 - 1)) n n).call .admitOne =
        (true, counting session .opened (min (n + 1) (2 ^ 32 - 1)) (n + 1) (n + 1)) := by
      have hmin : min (min n (2 ^ 32 - 1) + 1) (2 ^ 32 - 1) = min (n + 1) (2 ^ 32 - 1) := by omega
      simp only [GateState.call, counting, TransportAdmissionGateV1.admitOne, hopen, ne_eq,
        not_true_eq_false, or_self, if_false, hmin, List.replicate_succ]
    rw [List.replicate_succ', Mealy.after_append, ih]
    exact congrArg Prod.snd hstep

-- Every call finishes one of the unfinished admissions, and one more stays counted.
private theorem after_finishes (left k unfinished issued : Nat) :
    let calls := List.replicate k (GateCall.finish 0)
    let state := counting session .closing (left + 1 + k) (unfinished + k) issued
    gateMachine.Along GateState.Permits state calls ∧
      gateMachine.after state calls = counting session .closing (left + 1) unfinished issued := by
  induction k with
  | zero => exact ⟨trivial, rfl⟩
  | succ k ih =>
    have hstep : (counting session .closing (left + 1 + (k + 1)) (unfinished + (k + 1)) issued).call
        (.finish 0) = (true, counting session .closing (left + 1 + k) (unfinished + k) issued) := by
      have hadmitted : left + 1 + (k + 1) = (left + 1 + k) + 1 := by omega
      have hunfinished : unfinished + (k + 1) = (unfinished + k) + 1 := by omega
      rw [hadmitted, hunfinished]
      simp [GateState.call, counting, TransportAdmissionGateV1.finishAdmitted,
        TransportAdmissionGateV1.closeIfDrained, List.replicate_succ, Except.isOk, Except.toBool]
    refine ⟨⟨?_, ?_⟩, ?_⟩
    · intro _
      exact List.mem_replicate.mpr ⟨by omega, rfl⟩
    · show gateMachine.Along _ ((GateState.call _ _).2) _
      rw [hstep]
      exact ih.1
    · show gateMachine.after ((GateState.call _ _).2) _ = _
      rw [hstep]
      exact ih.2

/-- One admission more than a `u32` counts, when `k` is two below the limit; then closing begins,
and all but one of the admissions are finished. -/
def saturatingCalls (k : Nat) : List GateCall :=
  List.replicate (k + 2) GateCall.admitOne ++
    (GateCall.beginClose :: (List.replicate k (GateCall.finish 0) ++ [GateCall.finish 0]))

private theorem saturatingCalls_close (hopen : session.lifecycle.state = .opened) {k : Nat}
    (hk : k + 2 = 2 ^ 32) :
    gateMachine.Along GateState.Permits (.start session) (saturatingCalls k) ∧
      (gateMachine.after (.start session) (saturatingCalls k)).gate.state = .closed ∧
      (gateMachine.after (.start session) (saturatingCalls k)).session.lifecycle.state = .closed ∧
      (gateMachine.after (.start session) (saturatingCalls k)).gate.admitted = 0 ∧
      (gateMachine.after (.start session) (saturatingCalls k)).pending = 1 := by
  have hadmits := after_admits session hopen (k + 2)
  have hcounted : min (k + 2) (2 ^ 32 - 1) = 0 + 1 + k := by omega
  rw [hcounted] at hadmits
  have hbegin : ((counting session .opened (0 + 1 + k) (k + 2) (k + 2)).call .beginClose).2 =
      counting session .closing (0 + 1 + k) (2 + k) (k + 2) := by
    have hcomm : k + 2 = 2 + k := by omega
    simp [GateState.call, counting, TransportAdmissionGateV1.beginClose,
      TransportAdmissionGateV1.closeIfDrained, hcomm]
  obtain ⟨hfinishes, hafter⟩ := after_finishes session 0 k 2 (k + 2)
  have hlast : ((counting session .closing (0 + 1) 2 (k + 2)).call (.finish 0)).2 =
      { counting session .closed 0 1 (k + 2) with
        session := TransportAdmissionGateV1.closedBy session } := by
    have hclose := close_of_opened hopen
    simp [GateState.call, counting, TransportAdmissionGateV1.finishAdmitted,
      TransportAdmissionGateV1.closeIfDrained, hclose, TransportAdmissionGateV1.closedBy,
      List.replicate_succ]
  have hend : gateMachine.after (.start session) (saturatingCalls k) =
      { counting session .closed 0 1 (k + 2) with
        session := TransportAdmissionGateV1.closedBy session } := by
    rw [saturatingCalls, Mealy.after_append, hadmits]
    show gateMachine.after ((GateState.call _ .beginClose).2) _ = _
    rw [hbegin, Mealy.after_append, hafter]
    exact hlast
  refine ⟨?_, ?_⟩
  · rw [saturatingCalls, Mealy.along_append, hadmits]
    refine ⟨?_, trivial, ?_⟩
    · generalize GateState.start session = state
      generalize k + 2 = n
      induction n generalizing state with
      | zero => trivial
      | succ n ih => exact ⟨trivial, ih _⟩
    · show gateMachine.Along _ ((GateState.call _ .beginClose).2) _
      rw [hbegin, Mealy.along_append, hafter]
      exact ⟨hfinishes, fun _ ↦ List.mem_replicate.mpr ⟨by omega, rfl⟩, trivial⟩
  · rw [hend]
    exact ⟨rfl, rfl, rfl, rfl⟩

end Limits

/-- `2 ^ 32` admissions are counted as one less, so the gate closes the session while one of them
is not finished. -/
theorem admissionGate_closes_early :
    let calls := saturatingCalls (2 ^ 32 - 2)
    let state := gateMachine.after (.start Sample.session) calls
    gateMachine.Along GateState.Permits (.start Sample.session) calls ∧
      state.gate.state = .closed ∧ state.session.lifecycle.state = .closed ∧
      state.gate.admitted = 0 ∧ state.pending = 1 :=
  saturatingCalls_close Sample.session (by decide +kernel) (by decide)

end PrivateBallot.TransportGateway
