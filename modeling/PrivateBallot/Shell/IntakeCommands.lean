import PrivateBallot.GuiCore.LifecycleFence

/-!
# Commands on the private intake

Library `Shell`. `gui/src-tauri/src/organizer_tor_intake.rs:242-340,695-764,893-1074,1139-1189`,
`:1283-1377,1425-1647,1705-1902` and `gui/src-tauri/src/lib.rs:1041-1091,1652-1848`: starting,
stopping and watching the intake, leaving the application, and the lifecycle commands that
publish to it. A command goes from one critical section, spawn or kill to the next; between two
of them others may go on.
-/

namespace PrivateBallot.Shell

open PrivateBallot.Base PrivateBallot.Protocol PrivateBallot.Ballot PrivateBallot.GuiCore

/-- `OrganizerTorModeV1` -/
inductive OrganizerTorModeV1 where
  | managedLocal
  | externalRemote
deriving DecidableEq, Repr

/-- What the application has spawned: a Tor child, or the thread of a collector worker. -/
inductive OwnedProcess where
  | torChild (number : Nat)
  | worker (number : Nat)
deriving DecidableEq, Repr

/-- `OrganizerIntakeState` -/
structure OrganizerIntakeState where
  torChild : Option Nat
  mode : OrganizerTorModeV1
  remoteLastReady : Bool
  serviceLoop : Nat
  manifestHash : ManifestHash
  lifecycleFence : AuthoritativeLifecycleFenceV1
deriving DecidableEq

/-- The processes of an intake. -/
def OrganizerIntakeState.processes (self : OrganizerIntakeState) : List OwnedProcess :=
  .worker self.serviceLoop :: (self.torChild.map OwnedProcess.torChild).toList

/-- The active session: its election, how far it is, and whether this is the organizer's. -/
structure ActiveElection where
  manifestHash : ManifestHash
  lifecycle : ElectionLifecycleStateV1
  organizer : Bool
deriving DecidableEq

/-- `BoundElection` -/
structure BoundElection where
  manifestHash : ManifestHash
  lifecycle : ElectionLifecycleStateV1
deriving DecidableEq

/-- The session and the intake of the application, and the processes that are alive. -/
structure IntakeWorld where
  session : Option ActiveElection
  organizerIntake : Option OrganizerIntakeState
  alive : List OwnedProcess
  next : Nat
deriving DecidableEq

/-- What a step meets outside the application: whether it succeeds, whether the transport is
provisioned already, and the generation reserved for a publication. -/
structure IntakeSignal where
  succeeds : Bool
  provisioned : Bool
  generation : Option UInt64

/-! ### Where a command stands -/

/-- `start_private_intake_blocking`, by its next step. -/
inductive StartPhase where
  | authority
  | binding
  | inspecting (bound : BoundElection)
  | stopping (bound : BoundElection) (dead : OrganizerIntakeState)
  | reaping (bound : BoundElection) (child : Nat)
  | provisioning (bound : BoundElection)
  | discovering (bound : BoundElection) (child : Nat)
  | provisioned (bound : BoundElection) (child : Nat)
  | snapshotting (bound : BoundElection)
  | launching (bound : BoundElection) (lifecycle : ElectionLifecycleStateV1)
  | settling (bound : BoundElection) (lifecycle : ElectionLifecycleStateV1) (child : Nat)
  | assembling (bound : BoundElection) (lifecycle : ElectionLifecycleStateV1) (child : Option Nat)
  | confirming (running : OrganizerIntakeState)
  | probing (running : OrganizerIntakeState)
  | storing (running : OrganizerIntakeState)
  | abandoning (process : OwnedProcess)
deriving DecidableEq

/-- Taking the intake out of its slot, and ending its processes. -/
inductive StopPhase where
  | authority
  | taking
  | stopping (taken : OrganizerIntakeState)
  | reaping (child : Nat)
deriving DecidableEq

/-- `organizer_tor_status_blocking` -/
inductive StatusPhase where
  | authority
  | binding
  | reading (bound : Option BoundElection)
deriving DecidableEq

/-- A lifecycle command; closing is fenced before its commit, the others publish behind it. -/
inductive AdvancePhase where
  | authority
  | fencing
  | closing (manifestHash : ManifestHash)
  | checking
  | cloning
  | writing (next : ActiveElection)
  | replacing (next : ActiveElection)
  | publishing (next : ActiveElection)
deriving DecidableEq

/-- `open_voting`, `close_voting`, `mark_verified` and `finalize_election` -/
inductive LifecycleCommand where
  | openVoting
  | closeVoting
  | markVerified
  | finalizeElection
deriving DecidableEq, Repr

/-- A command in progress. -/
inductive IntakeCommand where
  | start (requested : OrganizerTorModeV1) (phase : StartPhase)
  | stop (phase : StopPhase)
  | exit (phase : StopPhase)
  | status (phase : StatusPhase)
  | advance (kind : LifecycleCommand) (phase : AdvancePhase)
deriving DecidableEq

/-! ### Steps -/

namespace IntakeWorld

/-- `ensure_organizer_authority` -/
def hasOrganizerAuthority (self : IntakeWorld) : Bool := self.session.any (·.organizer)

/-- `bound_election` -/
def boundElection (self : IntakeWorld) : Option BoundElection :=
  self.session.map fun active ↦ ⟨active.manifestHash, active.lifecycle⟩

/-- `authoritative_lifecycle_snapshot` -/
def authoritativeLifecycleSnapshot (self : IntakeWorld) : ElectionLifecycleStateV1 :=
  (self.session.map (·.lifecycle)).getD .frozen

/-- A process of this kind is spawned. -/
def spawn (self : IntakeWorld) (kind : Nat → OwnedProcess) : IntakeWorld :=
  { self with alive := kind self.next :: self.alive, next := self.next + 1 }

/-- A process has ended: it was killed and reaped, or stopped and joined, or ended by itself. -/
def ended (self : IntakeWorld) (process : OwnedProcess) : IntakeWorld :=
  { self with alive := self.alive.filter (· ≠ process) }

/-- `reconcile_intake_lifecycle`, on the recorded intake if it is bound to this election. -/
def publish (self : IntakeWorld) (manifestHash : ManifestHash) (state : ElectionLifecycleStateV1)
    (generation : Option UInt64) : IntakeWorld :=
  match self.organizerIntake with
  | none => self
  | some intake =>
    if intake.manifestHash = manifestHash then
      { self with organizerIntake := some { intake with
          lifecycleFence := intake.lifecycleFence.observe state generation } }
    else self

/-- Both parts of an owned intake are there; a remote one was found ready. -/
def isHealthy (self : IntakeWorld) (intake : OrganizerIntakeState) : Bool :=
  (match intake.mode with
    | .managedLocal => intake.torChild.any (OwnedProcess.torChild · ∈ self.alive)
    | .externalRemote => intake.remoteLastReady) &&
  decide (OwnedProcess.worker intake.serviceLoop ∈ self.alive)

end IntakeWorld

open IntakeWorld

/-- The world after a step, and where the command stands then; none when it has returned. -/
abbrev StepResult := IntakeWorld × Option IntakeCommand

/-- `start_private_intake_blocking` with `provision_transport`, `start_intake_worker`,
`start_remote_intake_worker` and `start_collector_service_shared` -/
def stepStart (requested : OrganizerTorModeV1) (signal : IntakeSignal) (world : IntakeWorld) :
    StartPhase → StepResult
  | .authority => (world, if world.hasOrganizerAuthority then some (at_ .binding) else none)
  -- the mode, its configuration and the Tor executable are checked before the election is read
  | .binding =>
    if signal.succeeds then (world, world.boundElection.map fun bound ↦ at_ (.inspecting bound))
    else (world, none)
  | .inspecting bound =>
    match world.organizerIntake with
    | none => (world, some (at_ (.provisioning bound)))
    | some intake =>
      -- a healthy intake is returned as it is, or refused
      if world.isHealthy intake then (world, none)
      else ({ world with organizerIntake := none }, some (at_ (.stopping bound intake)))
  | .stopping bound dead =>
    (world.ended (.worker dead.serviceLoop), some (at_ (match dead.torChild with
      | some child => .reaping bound child
      | none => .provisioning bound)))
  | .reaping bound child => (world.ended (.torChild child), some (at_ (.provisioning bound)))
  | .provisioning bound =>
    if signal.succeeds then
      if signal.provisioned || requested = .externalRemote then
        (world, some (at_ (.snapshotting bound)))
      else (world.spawn .torChild, some (at_ (.discovering bound world.next)))
    else (world, none)
  | .discovering bound child =>
    (world, some (at_ (if signal.succeeds then .provisioned bound child
      else .abandoning (.torChild child))))
  | .provisioned bound child => (world.ended (.torChild child),
    if signal.succeeds then some (at_ (.snapshotting bound)) else none)
  | .snapshotting bound =>
    (world, some (at_ (.launching bound world.authoritativeLifecycleSnapshot)))
  | .launching bound lifecycle =>
    if signal.succeeds then
      match requested with
      | .managedLocal => (world.spawn .torChild, some (at_ (.settling bound lifecycle world.next)))
      | .externalRemote => (world, some (at_ (.assembling bound lifecycle none)))
    else (world, none)
  -- the hostname is discovered, the child still there, and the hostname the descriptor's
  | .settling bound lifecycle child =>
    (world, some (at_ (if signal.succeeds && decide (OwnedProcess.torChild child ∈ world.alive) then
      .assembling bound lifecycle (some child) else .abandoning (.torChild child))))
  | .assembling bound lifecycle child =>
    if signal.succeeds then
      (world.spawn .worker, some (at_ (.confirming ⟨child, requested, false, world.next,
        bound.manifestHash, .new lifecycle (signal.generation.getD 0)⟩)))
    else (world, child.map fun child ↦ at_ (.abandoning (.torChild child)))
  | .confirming running =>
    if OwnedProcess.worker running.serviceLoop ∈ world.alive then
      (world, some (at_ (match requested with
        | .managedLocal => .storing running
        | .externalRemote => .probing running)))
    else (world, running.torChild.map fun child ↦ at_ (.abandoning (.torChild child)))
  | .probing running =>
    (world, some (at_ (if signal.succeeds then .storing { running with remoteLastReady := true }
      else .abandoning (.worker running.serviceLoop))))
  -- whatever the slot holds is dropped: its worker is told to stop, its Tor child lives on
  | .storing running => ({ world with organizerIntake := some running }, none)
  | .abandoning process => (world.ended process, none)
where
  /-- The start, at another step. -/
  at_ (phase : StartPhase) : IntakeCommand := .start requested phase

/-- `stop_private_intake_blocking` and `shutdown_intake_on_exit`: what follows when the intake is
stopped is `after`. -/
def stepStop (world : IntakeWorld) (at_ : StopPhase → IntakeCommand)
    (after : Option IntakeCommand) : StopPhase → StepResult
  | .authority => (world, if world.hasOrganizerAuthority then some (at_ .taking) else none)
  | .taking => ({ world with organizerIntake := none }, match world.organizerIntake with
    | some taken => some (at_ (.stopping taken))
    | none => after)
  | .stopping taken => (world.ended (.worker taken.serviceLoop), match taken.torChild with
    | some child => some (at_ (.reaping child))
    | none => after)
  | .reaping child => (world.ended (.torChild child), after)

/-- `organizer_tor_status_blocking`: the fence is brought to the lifecycle that was read. -/
def stepStatus (signal : IntakeSignal) (world : IntakeWorld) : StatusPhase → StepResult
  | .authority => (world, if world.hasOrganizerAuthority then some (.status .binding) else none)
  | .binding => (world, some (.status (.reading world.boundElection)))
  | .reading bound => (match bound with
    | some bound => world.publish bound.manifestHash bound.lifecycle signal.generation
    | none => world, none)

namespace LifecycleCommand

/-- The state a command starts from and the one it leads to. -/
def states : LifecycleCommand → ElectionLifecycleStateV1 × ElectionLifecycleStateV1
  | openVoting => (.frozen, .opened)
  | closeVoting => (.opened, .closed)
  | markVerified => (.closed, .verified)
  | finalizeElection => (.verified, .finalized)

/-- `session.open()`, `close()`, `mark_verified()` and `finalize()` on a clone of the session. -/
def apply (self : LifecycleCommand) (active : ActiveElection) : Option ActiveElection :=
  if active.lifecycle = self.states.1 then some { active with lifecycle := self.states.2 }
  else none

end LifecycleCommand

/-- `open_voting`, `close_voting_blocking`, `mark_verified_blocking` and
`finalize_election_blocking`, with `mutate_session_transactionally` -/
def stepAdvance (kind : LifecycleCommand) (signal : IntakeSignal) (world : IntakeWorld) :
    AdvancePhase → StepResult
  | .authority => (world, if world.hasOrganizerAuthority then
      some (at_ (if kind = .closeVoting then .fencing else .checking)) else none)
  | .fencing => (world, world.session.map fun active ↦
      at_ (if active.lifecycle = .opened then .closing active.manifestHash else .checking))
  | .closing manifestHash =>
    (world.publish manifestHash .closed signal.generation, some (at_ .checking))
  | .checking => (world, if world.hasOrganizerAuthority then some (at_ .cloning) else none)
  | .cloning => (world, ((world.session.filter (·.organizer)).bind kind.apply).map fun next ↦
      at_ (.writing next))
  | .writing next => (world, if signal.succeeds then some (at_ (.replacing next)) else none)
  -- the role stays that of the session that is replaced
  | .replacing next => match world.session with
    | none => (world, none)
    | some active => ({ world with session := some { next with organizer := active.organizer } },
      if kind = .closeVoting then none else some (at_ (.publishing next)))
  | .publishing next =>
    (world.publish next.manifestHash next.lifecycle signal.generation, none)
where
  /-- The command, at another step. -/
  at_ (phase : AdvancePhase) : IntakeCommand := .advance kind phase

/-- The next step of a command. -/
def IntakeCommand.step (self : IntakeCommand) (signal : IntakeSignal) (world : IntakeWorld) :
    StepResult :=
  match self with
  | .start requested phase => stepStart requested signal world phase
  | .stop phase => stepStop world .stop (some (.status .authority)) phase
  | .exit phase => stepStop world .exit none phase
  | .status phase => stepStatus signal world phase
  | .advance kind phase => stepAdvance kind signal world phase

/-- The application: its world and the commands in progress. -/
structure IntakeApplication where
  world : IntakeWorld
  commands : List IntakeCommand
deriving DecidableEq

/-- What can be called. -/
inductive IntakeCall where
  | start (requested : OrganizerTorModeV1)
  | stop
  | exit
  | status
  | advance (kind : LifecycleCommand)
deriving DecidableEq

/-- A command at its beginning. -/
def IntakeCall.begin : IntakeCall → IntakeCommand
  | .start requested => .start requested .authority
  | .stop => .stop .authority
  | .exit => .exit .taking
  | .status => .status .authority
  | .advance kind => .advance kind .authority

/-- What happens next: a call, the next step of a command, another session in place of the active
one, or the end of a process. -/
inductive IntakeChoice where
  | call (call : IntakeCall)
  | advance (command : Nat) (signal : IntakeSignal)
  | switches (session : Option ActiveElection)
  | exits (process : OwnedProcess)

namespace IntakeApplication

/-- One step. -/
def step (self : IntakeApplication) : IntakeChoice → Option IntakeApplication
  | .call call => some { self with commands := self.commands ++ [call.begin] }
  | .advance i signal => match self.commands[i]? with
    | none => none
    | some command => some ⟨(command.step signal self.world).1,
      match (command.step signal self.world).2 with
        | some next => self.commands.set i next
        | none => self.commands.eraseIdx i⟩
  | .switches session => some { self with world := { self.world with session := session } }
  | .exits process => some { self with world := self.world.ended process }

/-- A list of steps. -/
def steps (self : IntakeApplication) : List IntakeChoice → Option IntakeApplication
  | [] => some self
  | choice :: choices => (self.step choice).bind fun next ↦ next.steps choices

end IntakeApplication

end PrivateBallot.Shell
