import PrivateBallot.Base.Observation
import PrivateBallot.TransportNetwork.Http

/-!
# The managed Tor process

Library `TransportNetwork`. `crates/transport-network/src/lib.rs:279-377`: how a Tor process is
started and waited for, asked whether it still runs, and stopped. Dropping a controller kills its
process; dropping the bare process, as every early return of `start` does, leaves it running.
-/

namespace PrivateBallot.TransportNetwork

open PrivateBallot.Base

/-- What has happened to a spawned child: it was asked to die, or was seen to have exited. -/
structure ManagedTorChildV1 where
  killed : Bool
  exited : Bool
deriving DecidableEq, Repr

/-- What `try_wait` answers: an error, or the exit status of a child that has exited. -/
abbrev TryWait := Except Unit (Option Int)

namespace ManagedTorChildV1

/-- A child that was just spawned. -/
def spawned : ManagedTorChildV1 := ⟨false, false⟩

/-- `kill`; what it answers is ignored everywhere. -/
def kill (self : ManagedTorChildV1) : ManagedTorChildV1 := { self with killed := true }

/-- `try_wait` -/
def tryWait (self : ManagedTorChildV1) : TryWait → ManagedTorChildV1
  | .ok (some _) => { self with exited := true }
  | _ => self

/-- Nothing is left running that nobody owns. -/
def IsReaped (self : ManagedTorChildV1) : Prop := self.exited = true ∨ self.killed = true

@[simp] theorem killed_kill (self : ManagedTorChildV1) : self.kill.killed = true := rfl

@[simp] theorem killed_tryWait (self : ManagedTorChildV1) (answer : TryWait) :
    (self.tryWait answer).killed = self.killed := by
  unfold tryWait
  split <;> rfl

end ManagedTorChildV1

/-- `ManagedTorControllerV1` -/
structure ManagedTorControllerV1 where
  child : Option ManagedTorChildV1
  ready : Bool
deriving DecidableEq, Repr

/-! ### Starting -/

/-- What one turn of the loop in `start` is answered: by the clock, by `try_wait` and by the
readiness probe. -/
structure StartTurn where
  elapsed : Nat
  tryWait : TryWait
  ready : Except PrivateTransportNetworkErrorV1 Bool

/-- How `start` ends: with an error, which drops the child if there is one, or with a controller. -/
inductive StartOutcome where
  | failed (error : PrivateTransportNetworkErrorV1) (child : Option ManagedTorChildV1)
  | started (controller : ManagedTorControllerV1)
deriving DecidableEq, Repr

/-- The loop of `start`, and what is behind it; `none` where it asks once more. -/
def startLoop (startupTimeout : Nat) (child : ManagedTorChildV1) :
    List StartTurn → Option StartOutcome
  | [] => none
  | turn :: turns =>
    if turn.elapsed < startupTimeout then
      match turn.tryWait with
      | .error () => some (.failed .privateTransportUnavailable child)
      | .ok (some status) =>
        some (.failed .privateTransportUnavailable (child.tryWait (.ok (some status))))
      | .ok none => match turn.ready with
        | .error e => some (.failed e child)
        | .ok true => some (.started ⟨some child, true⟩)
        | .ok false => startLoop startupTimeout child turns
    else some (.failed .privateTransportUnavailable child.kill)

/-- `ManagedTorControllerV1::start`; `crates/transport-network/src/lib.rs:279`. -/
def ManagedTorControllerV1.start (writeConfig : Except PrivateTransportNetworkErrorV1 Unit)
    (spawn : Except Unit Unit) (startupTimeout : Nat) (turns : List StartTurn) :
    Option StartOutcome :=
  match writeConfig with
  | .error e => some (.failed e none)
  | .ok () => match spawn with
    | .error () => some (.failed .privateTransportUnavailable none)
    | .ok () => startLoop startupTimeout .spawned turns

/-! ### Owning -/

namespace ManagedTorControllerV1

/-- `is_ready` -/
def isReady (self : ManagedTorControllerV1) : Bool := self.ready

/-- `check_crash`, with what `try_wait` answers. -/
def checkCrash (self : ManagedTorControllerV1) (answer : TryWait) :
    Except PrivateTransportNetworkErrorV1 Unit × ManagedTorControllerV1 :=
  match self.child with
  | none => (.error .privateTransportUnavailable, self)
  | some child =>
    let asked : ManagedTorControllerV1 := { self with child := some (child.tryWait answer) }
    match answer with
    | .error () => (.error .privateTransportUnavailable, asked)
    | .ok (some _) => (.error .privateTransportUnavailable, { asked with ready := false })
    | .ok none => (.ok (), asked)

/-- `shutdown` -/
def shutdown (self : ManagedTorControllerV1) : ManagedTorControllerV1 :=
  ⟨self.child.map ManagedTorChildV1.kill, false⟩

/-- `Drop`, with what the last `try_wait` answers. -/
def drop (self : ManagedTorControllerV1) (answer : TryWait) : ManagedTorControllerV1 :=
  ⟨self.child.map fun child ↦ child.kill.tryWait answer, false⟩

end ManagedTorControllerV1

/-- What the owner of a controller calls. -/
inductive ControllerCall where
  | checkCrash (answer : TryWait)
  | shutdown

/-- A controller under the calls of its owner. -/
def controllerMachine :
    Mealy ManagedTorControllerV1 ControllerCall (Except PrivateTransportNetworkErrorV1 Unit) where
  step
    | self, .checkCrash answer => self.checkCrash answer
    | self, .shutdown => (.ok (), self.shutdown)

/-- The call shuts the controller down or sees that its child has crashed. -/
def ControllerCall.EndsReadiness : ControllerCall → Prop
  | checkCrash answer => ∃ status, answer = .ok (some status)
  | shutdown => True

/-! ### What the calls keep -/

/-- A controller that `start` handed out, behind some calls: it owns its child and has been ready
all the time unless one of the calls has ended that. -/
structure Owns (calls : List ControllerCall) (controller : ManagedTorControllerV1) : Prop where
  child : controller.child.isSome
  ready : controller.isReady = true → ∀ call ∈ calls, ¬ call.EndsReadiness

theorem owns_step {calls : List ControllerCall} {call : ControllerCall}
    {controller : ManagedTorControllerV1} (h : Owns calls controller) :
    Owns (calls ++ [call]) (controllerMachine.step controller call).2 := by
  obtain ⟨child, hchild⟩ := Option.isSome_iff_exists.mp h.child
  have hlast : ∀ {ready : Bool}, (ready = true → controller.ready = true ∧ ¬ call.EndsReadiness) →
      (ready = true → ∀ c ∈ calls ++ [call], ¬ c.EndsReadiness) := by
    intro ready hready htrue
    rw [List.forall_mem_append, List.forall_mem_singleton]
    exact ⟨h.ready (hready htrue).1, (hready htrue).2⟩
  cases call with
  | shutdown =>
    refine ⟨?_, hlast nofun⟩
    show (controller.child.map ManagedTorChildV1.kill).isSome
    rw [Option.isSome_map]
    exact h.child
  | checkCrash answer =>
    show Owns _ (controller.checkCrash answer).2
    unfold ManagedTorControllerV1.checkCrash
    rw [hchild]
    dsimp only
    split
    · exact ⟨rfl, hlast fun hready ↦ ⟨hready, nofun⟩⟩
    · exact ⟨rfl, hlast nofun⟩
    · exact ⟨rfl, hlast fun hready ↦ ⟨hready, nofun⟩⟩

/-- Every sequence of calls leaves the child with the controller, and readiness to what they say. -/
theorem owns_after (child : ManagedTorChildV1) (calls : List ControllerCall) :
    Owns calls (controllerMachine.after ⟨some child, true⟩ calls) :=
  controllerMachine.after_induct (P := Owns) ⟨rfl, fun _ ↦ nofun⟩
    (fun _ _ _ ↦ owns_step) calls

/-! ### The end of a start -/

/-- The child runs, the probe says that it is not ready yet, and there is time left. -/
def StartTurn.Waits (startupTimeout : Nat) (turn : StartTurn) : Prop :=
  turn.elapsed < startupTimeout ∧ turn.tryWait = .ok none ∧ turn.ready = .ok false

/-- There is time left, and `try_wait` or, of a running child, the probe answers with an error. -/
def StartTurn.Errs (startupTimeout : Nat) (turn : StartTurn) : Prop :=
  turn.elapsed < startupTimeout ∧
    (turn.tryWait = .error () ∨ turn.tryWait = .ok none ∧ ∃ e, turn.ready = .error e)

/-- The loop comes to an answer that is an error. -/
def ErrsWhileStarting (startupTimeout : Nat) (turns : List StartTurn) : Prop :=
  ∃ before turn rest, turns = before ++ turn :: rest ∧
    (∀ t ∈ before, t.Waits startupTimeout) ∧ turn.Errs startupTimeout

theorem errsWhileStarting_cons {startupTimeout : Nat} {turn : StartTurn} {turns : List StartTurn} :
    ErrsWhileStarting startupTimeout (turn :: turns) ↔
      turn.Errs startupTimeout ∨
        turn.Waits startupTimeout ∧ ErrsWhileStarting startupTimeout turns := by
  constructor
  · rintro ⟨before, t, rest, hturns, hbefore, herrs⟩
    cases before with
    | nil =>
      cases hturns
      exact Or.inl herrs
    | cons first before =>
      cases hturns
      obtain ⟨hfirst, hbefore⟩ := List.forall_mem_cons.mp hbefore
      exact Or.inr ⟨hfirst, before, t, rest, rfl, hbefore, herrs⟩
  · rintro (herrs | ⟨hwaits, before, t, rest, rfl, hbefore, herrs⟩)
    · exact ⟨[], turn, turns, rfl, nofun, herrs⟩
    · exact ⟨turn :: before, t, rest, rfl, List.forall_mem_cons.mpr ⟨hwaits, hbefore⟩, herrs⟩

/-- An error leaves the child as it is. -/
theorem startLoop_of_errs {startupTimeout : Nat} {turns : List StartTurn}
    {child : ManagedTorChildV1} (h : ErrsWhileStarting startupTimeout turns) :
    ∃ e, startLoop startupTimeout child turns = some (.failed e (some child)) := by
  induction turns with
  | nil =>
    obtain ⟨before, t, rest, hturns, -⟩ := h
    cases before <;> cases hturns
  | cons turn turns ih =>
    rcases errsWhileStarting_cons.mp h with ⟨htime, hwait | ⟨hwait, e, hready⟩⟩ | ⟨hwaits, hrest⟩
    · refine ⟨.privateTransportUnavailable, ?_⟩
      rw [startLoop, if_pos htime, hwait]
    · refine ⟨e, ?_⟩
      rw [startLoop, if_pos htime, hwait, hready]
    · obtain ⟨e, he⟩ := ih hrest
      refine ⟨e, ?_⟩
      rw [startLoop, if_pos hwaits.1, hwaits.2.1, hwaits.2.2]
      exact he

/-- Without one the loop ends with a child that is gone, or with a controller that owns it. -/
theorem startLoop_cases {startupTimeout : Nat} {turns : List StartTurn} {child : ManagedTorChildV1}
    {outcome : StartOutcome} (h : ¬ ErrsWhileStarting startupTimeout turns)
    (hstart : startLoop startupTimeout child turns = some outcome) :
    (∃ e gone, outcome = .failed e (some gone) ∧ gone.IsReaped) ∨
      outcome = .started ⟨some child, true⟩ := by
  induction turns with
  | nil => cases hstart
  | cons turn turns ih =>
    rw [errsWhileStarting_cons, not_or] at h
    obtain ⟨herrs, hrest⟩ := h
    rw [startLoop] at hstart
    split at hstart
    · next htime =>
      split at hstart
      · next hwait => exact absurd ⟨htime, Or.inl hwait⟩ herrs
      · next status hwait =>
        cases hstart
        exact Or.inl ⟨_, _, rfl, Or.inl rfl⟩
      next hwait =>
      split at hstart
      · next e hready => exact absurd ⟨htime, Or.inr ⟨hwait, e, hready⟩⟩ herrs
      · cases hstart
        exact Or.inr rfl
      · next hready => exact ih (fun hlater ↦ hrest ⟨⟨htime, hwait, hready⟩, hlater⟩) hstart
    · cases hstart
      exact Or.inl ⟨_, _, rfl, Or.inr rfl⟩

/-! ### No orphans -/

/-- A start that fails leaves no child running, and one that succeeds hands the child to a
controller that keeps it, kills it when it is dropped, and is ready only as long as its calls
say. -/
structure LeavesNoOrphan (outcome : Option StartOutcome) : Prop where
  failed : ∀ e child, outcome = some (.failed e (some child)) → child.IsReaped
  started : ∀ controller, outcome = some (.started controller) → ∀ calls,
    Owns calls (controllerMachine.after controller calls) ∧
      ∀ answer, ∃ child,
        ((controllerMachine.after controller calls).drop answer).child = some child ∧
          child.killed = true

/-- The process is taken care of unless the loop comes to an answer that is an error. -/
theorem managedTor_start_exact (writeConfig : Except PrivateTransportNetworkErrorV1 Unit)
    (spawn : Except Unit Unit) (startupTimeout : Nat) (turns : List StartTurn) :
    LeavesNoOrphan (ManagedTorControllerV1.start writeConfig spawn startupTimeout turns) ↔
      ¬ (writeConfig = .ok () ∧ spawn = .ok () ∧ ErrsWhileStarting startupTimeout turns) := by
  constructor
  · rintro h ⟨rfl, rfl, herrs⟩
    obtain ⟨e, he⟩ := @startLoop_of_errs startupTimeout turns .spawned herrs
    rcases h.failed e _ he with hexited | hkilled
    · cases hexited
    · cases hkilled
  · intro h
    cases writeConfig with
    | error e => exact ⟨nofun, nofun⟩
    | ok u =>
      cases spawn with
      | error e => exact ⟨nofun, nofun⟩
      | ok u' =>
        have hcases := fun outcome ↦ @startLoop_cases startupTimeout turns .spawned outcome
          fun herrs ↦ h ⟨rfl, rfl, herrs⟩
        constructor
        · intro e child hfailed
          rcases hcases _ hfailed with ⟨e', gone, hgone, hreaped⟩ | hstarted
          · cases hgone
            exact hreaped
          · cases hstarted
        · intro controller hstarted calls
          rcases hcases _ hstarted with ⟨e', gone, hgone, -⟩ | hcontroller
          · cases hgone
          · cases hcontroller
            have howns := owns_after .spawned calls
            obtain ⟨child, hchild⟩ := Option.isSome_iff_exists.mp howns.child
            refine ⟨howns, fun answer ↦ ⟨child.kill.tryWait answer, ?_, ?_⟩⟩
            · rw [ManagedTorControllerV1.drop, hchild]
              rfl
            · rw [ManagedTorChildV1.killed_tryWait, ManagedTorChildV1.killed_kill]

/-- The first probe fails while the child runs: the child is neither killed nor owned. -/
theorem managedTor_start_orphan :
    ¬ LeavesNoOrphan (ManagedTorControllerV1.start (.ok ()) (.ok ()) 30
      [⟨0, .ok none, .error .privateTransportUnavailable⟩]) := by
  intro h
  rcases h.failed .privateTransportUnavailable .spawned rfl with hexited | hkilled
  · cases hexited
  · cases hkilled

end PrivateBallot.TransportNetwork
