import PrivateBallot.Shell.IntakeCommands

/-!
# One private intake

Library `Shell`. Whatever the commands on the intake interleave to, each process that the
application has spawned belongs to the recorded intake or to a command that has not returned, as
long as no start records its intake over another one. The fence of the recorded intake shows the
lifecycle of the session when no command has acted on what was no longer so, and after every
undisturbed status heartbeat.
-/

namespace PrivateBallot.Shell

open PrivateBallot.Base PrivateBallot.Protocol PrivateBallot.Ballot PrivateBallot.GuiCore

/-- The number of a process. -/
def OwnedProcess.number : OwnedProcess → Nat
  | torChild number => number
  | worker number => number

/-- A collector worker. -/
def OwnedProcess.isWorker : OwnedProcess → Bool
  | torChild _ => false
  | worker _ => true

/-- The processes of the recorded intake. -/
def IntakeWorld.recorded (self : IntakeWorld) : List OwnedProcess :=
  (self.organizerIntake.map OrganizerIntakeState.processes).getD []

/-- The processes that a start answers for. -/
def StartPhase.processes : StartPhase → List OwnedProcess
  | stopping _ dead => dead.processes
  | reaping _ child | discovering _ child | provisioned _ child | settling _ _ child =>
    [.torChild child]
  | assembling _ _ child => (child.map OwnedProcess.torChild).toList
  | confirming running | probing running | storing running => running.processes
  | abandoning process => [process]
  | authority | binding | inspecting _ | provisioning _ | snapshotting _ | launching _ _ => []

/-- The processes that a stop answers for. -/
def StopPhase.processes : StopPhase → List OwnedProcess
  | stopping taken => taken.processes
  | reaping child => [.torChild child]
  | authority | taking => []

/-- The processes that a start, a stop or an exit answers for. -/
def IntakeCommand.processes : IntakeCommand → List OwnedProcess
  | start _ phase => phase.processes
  | stop phase | exit phase => phase.processes
  | status _ | advance _ _ => []

/-- A start for an external Tor has no child of its own. -/
def IntakeCommand.remoteWithoutChild : IntakeCommand → Prop
  | start .externalRemote (.settling _ _ _) => False
  | start .externalRemote (.assembling _ _ child) => child = none
  | start .externalRemote (.confirming running) | start .externalRemote (.probing running) =>
    running.torChild = none
  | start .managedLocal (.probing _) => False
  | _ => True

/-! ### What one step of a command owns -/

/-- The processes of a command that may have returned. -/
def owedBy (command : Option IntakeCommand) : List OwnedProcess :=
  (command.map IntakeCommand.processes).getD []

/-- After the step a process belongs to the recorded intake or to the command, or it is one that
belonged to neither before. -/
def HandsOver (world : IntakeWorld) (held : List OwnedProcess) (result : StepResult) : Prop :=
  ∀ process ∈ result.1.alive, process ∈ result.1.recorded ∨ process ∈ owedBy result.2 ∨
    process ∈ world.alive ∧ process ∉ world.recorded ∧ process ∉ held

section Steps

variable {world : IntakeWorld} {signal : IntakeSignal}

@[simp] theorem mem_alive_ended {process other : OwnedProcess} :
    process ∈ (world.ended other).alive ↔ process ∈ world.alive ∧ process ≠ other := by
  simp [IntakeWorld.ended]

@[simp] theorem mem_alive_spawn {kind : Nat → OwnedProcess} {process : OwnedProcess} :
    process ∈ (world.spawn kind).alive ↔ process = kind world.next ∨ process ∈ world.alive := by
  simp [IntakeWorld.spawn]

@[simp] theorem recorded_ended (process : OwnedProcess) :
    (world.ended process).recorded = world.recorded := rfl

@[simp] theorem recorded_spawn (kind : Nat → OwnedProcess) :
    (world.spawn kind).recorded = world.recorded := rfl

@[simp] theorem alive_publish (manifestHash : ManifestHash) (state : ElectionLifecycleStateV1)
    (generation : Option UInt64) :
    (world.publish manifestHash state generation).alive = world.alive := by
  unfold IntakeWorld.publish
  split
  · rfl
  · split <;> rfl

@[simp] theorem next_publish (manifestHash : ManifestHash) (state : ElectionLifecycleStateV1)
    (generation : Option UInt64) :
    (world.publish manifestHash state generation).next = world.next := by
  unfold IntakeWorld.publish
  split
  · rfl
  · split <;> rfl

/-- A publication changes the fence of the intake and none of its processes. -/
@[simp] theorem recorded_publish (manifestHash : ManifestHash) (state : ElectionLifecycleStateV1)
    (generation : Option UInt64) :
    (world.publish manifestHash state generation).recorded = world.recorded := by
  unfold IntakeWorld.publish
  cases hslot : world.organizerIntake with
  | none => rfl
  | some intake =>
    simp only
    split
    · simp [IntakeWorld.recorded, hslot, OrganizerIntakeState.processes]
    · rfl

/-- A step that leaves the processes and the recorded intake alone, and answers for what it has
answered for. -/
theorem HandsOver.keeps {held : List OwnedProcess} {result : StepResult}
    (halive : ∀ process ∈ result.1.alive, process ∈ world.alive)
    (hrecorded : result.1.recorded = world.recorded)
    (hheld : ∀ process ∈ held, process ∈ result.1.alive → process ∈ owedBy result.2) :
    HandsOver world held result := by
  intro process hprocess
  by_cases hslot : process ∈ world.recorded
  · exact .inl (hrecorded ▸ hslot)
  · by_cases hmem : process ∈ held
    · exact .inr (.inl (hheld process hmem hprocess))
    · exact .inr (.inr ⟨halive process hprocess, hslot, hmem⟩)

/-- A step of reading. -/
theorem HandsOver.reads {held : List OwnedProcess} {next : Option IntakeCommand}
    (hheld : ∀ process ∈ held, process ∈ world.alive → process ∈ owedBy next) :
    HandsOver world held (world, next) :=
  .keeps (fun _ ↦ id) rfl hheld

/-- A step that ends a process. -/
theorem HandsOver.ends {held : List OwnedProcess} {next : Option IntakeCommand}
    {process : OwnedProcess} (hheld : ∀ other ∈ held, other = process ∨ other ∈ owedBy next) :
    HandsOver world held (world.ended process, next) := by
  apply HandsOver.keeps
  · intro other hother
    exact (mem_alive_ended.mp hother).1
  · rfl
  · intro other hother halive
    exact (hheld other hother).resolve_left (mem_alive_ended.mp halive).2

/-- A step that spawns a process and answers for it. -/
theorem HandsOver.spawns {held : List OwnedProcess} {next : Option IntakeCommand}
    {kind : Nat → OwnedProcess} (hnew : kind world.next ∈ owedBy next)
    (hheld : ∀ process ∈ held, process ∈ owedBy next) :
    HandsOver world held (world.spawn kind, next) := by
  intro process hprocess
  rcases mem_alive_spawn.mp hprocess with rfl | hold
  · exact .inr (.inl hnew)
  · exact (HandsOver.reads fun other hother _ ↦ hheld other hother) process hold

/-- A step that takes the intake out of its slot. -/
theorem HandsOver.takes {next : Option IntakeCommand}
    (hrecorded : ∀ process ∈ world.recorded, process ∈ owedBy next) :
    HandsOver world [] ({ world with organizerIntake := none }, next) := by
  intro process hprocess
  by_cases hslot : process ∈ world.recorded
  · exact .inr (.inl (hrecorded process hslot))
  · exact .inr (.inr ⟨hprocess, hslot, List.not_mem_nil⟩)

theorem recorded_of_none (h : world.organizerIntake = none) : world.recorded = [] := by
  simp [IntakeWorld.recorded, h]

theorem recorded_of_some {intake : OrganizerIntakeState} (h : world.organizerIntake = some intake) :
    world.recorded = intake.processes := by
  simp [IntakeWorld.recorded, h]

theorem handsOver_stepStart {requested : OrganizerTorModeV1} {phase : StartPhase}
    (hremote : (IntakeCommand.start requested phase).remoteWithoutChild)
    (hstore : ∀ running, phase = .storing running → world.organizerIntake = none) :
    HandsOver world phase.processes (stepStart requested signal world phase) := by
  have hnothing : ∀ next, ∀ process ∈ ([] : List OwnedProcess), process ∈ world.alive →
      process ∈ owedBy next := fun _ process hprocess ↦ absurd hprocess List.not_mem_nil
  cases phase with
  | authority => exact .reads (hnothing _)
  | binding =>
    rw [stepStart]
    split
    · exact .reads (hnothing _)
    · exact .reads (hnothing _)
  | inspecting bound =>
    rw [stepStart]
    split
    · exact .reads (hnothing _)
    · next intake hslot =>
      split
      · exact .reads (hnothing _)
      · apply HandsOver.takes
        rw [recorded_of_some hslot]
        exact fun process ↦ id
  | stopping bound dead =>
    apply HandsOver.ends
    intro process hprocess
    cases hchild : dead.torChild <;>
      simp_all [StartPhase.processes, OrganizerIntakeState.processes, owedBy, stepStart.at_,
        IntakeCommand.processes]
  | reaping bound child =>
    apply HandsOver.ends
    intro process hprocess
    exact .inl (List.mem_singleton.mp hprocess)
  | provisioning bound =>
    rw [stepStart]
    split
    · split
      · exact .reads (hnothing _)
      · exact .spawns (List.mem_singleton.mpr rfl) fun process hprocess ↦
          absurd hprocess List.not_mem_nil
    · exact .reads (hnothing _)
  | discovering bound child =>
    apply HandsOver.reads
    intro process hprocess _
    cases signal.succeeds <;> exact hprocess
  | provisioned bound child =>
    apply HandsOver.ends
    intro process hprocess
    exact .inl (List.mem_singleton.mp hprocess)
  | snapshotting bound => exact .reads (hnothing _)
  | launching bound lifecycle =>
    cases requested with
    | managedLocal =>
      rw [stepStart]
      split
      · exact .spawns (List.mem_singleton.mpr rfl) fun process hprocess ↦
          absurd hprocess List.not_mem_nil
      · exact .reads (hnothing _)
    | externalRemote =>
      rw [stepStart]
      split
      · exact .reads (hnothing _)
      · exact .reads (hnothing _)
  | settling bound lifecycle child =>
    apply HandsOver.reads
    intro process hprocess _
    cases (signal.succeeds && decide (OwnedProcess.torChild child ∈ world.alive)) <;>
      exact hprocess
  | assembling bound lifecycle child =>
    rw [stepStart]
    split
    · apply HandsOver.spawns
      · exact List.mem_cons_self
      · exact fun process hprocess ↦ List.mem_cons_of_mem _ hprocess
    · apply HandsOver.reads
      intro process hprocess _
      cases child <;> exact hprocess
  | confirming running =>
    by_cases hworker : OwnedProcess.worker running.serviceLoop ∈ world.alive
    · unfold stepStart
      dsimp only
      rw [if_pos hworker]
      apply HandsOver.reads
      intro process hprocess _
      cases requested <;> exact hprocess
    · unfold stepStart
      dsimp only
      rw [if_neg hworker]
      apply HandsOver.reads
      intro process hprocess halive
      have hchild : process ∈ (running.torChild.map OwnedProcess.torChild).toList := by
        rcases List.mem_cons.mp hprocess with rfl | hchild
        · exact absurd halive hworker
        · exact hchild
      cases hsome : running.torChild <;> rw [hsome] at hchild <;> exact hchild
  | probing running =>
    apply HandsOver.reads
    intro process hprocess _
    cases requested with
    | managedLocal => exact hremote.elim
    | externalRemote =>
      have hnone : running.torChild = none := hremote
      cases signal.succeeds with
      | true => exact hprocess
      | false =>
        rw [StartPhase.processes, OrganizerIntakeState.processes, hnone] at hprocess
        exact hprocess
  | storing running =>
    have hempty := recorded_of_none (hstore running rfl)
    intro process hprocess
    by_cases hmem : process ∈ running.processes
    · exact .inl hmem
    · exact .inr (.inr ⟨hprocess, by rw [hempty]; exact List.not_mem_nil, hmem⟩)
  | abandoning process =>
    apply HandsOver.ends
    intro other hother
    exact .inl (List.mem_singleton.mp hother)

theorem handsOver_stepStop {at_ : StopPhase → IntakeCommand} {after : Option IntakeCommand}
    {phase : StopPhase} (hat : ∀ phase, (at_ phase).processes = phase.processes) :
    HandsOver world phase.processes (stepStop world at_ after phase) := by
  cases phase with
  | authority => exact .reads fun process hprocess ↦ absurd hprocess List.not_mem_nil
  | taking =>
    apply HandsOver.takes
    intro process hprocess
    cases hslot : world.organizerIntake with
    | none =>
      rw [recorded_of_none hslot] at hprocess
      exact absurd hprocess List.not_mem_nil
    | some taken =>
      rw [recorded_of_some hslot] at hprocess
      simp only [owedBy, Option.map_some, Option.getD_some, hat]
      exact hprocess
  | stopping taken =>
    apply HandsOver.ends
    intro process hprocess
    cases hchild : taken.torChild <;>
      simp_all [StopPhase.processes, OrganizerIntakeState.processes, owedBy]
  | reaping child =>
    apply HandsOver.ends
    intro process hprocess
    exact .inl (List.mem_singleton.mp hprocess)

theorem handsOver_stepStatus {phase : StatusPhase} :
    HandsOver world [] (stepStatus signal world phase) := by
  have hnothing : ∀ next, ∀ process ∈ ([] : List OwnedProcess), process ∈ world.alive →
      process ∈ owedBy next := fun _ process hprocess ↦ absurd hprocess List.not_mem_nil
  cases phase with
  | authority => exact .reads (hnothing _)
  | binding => exact .reads (hnothing _)
  | reading bound =>
    cases bound with
    | none => exact .reads (hnothing _)
    | some bound =>
      exact .keeps (fun process ↦ by simp [stepStatus]) (by simp [stepStatus]) (by simp)

theorem handsOver_stepAdvance {kind : LifecycleCommand} {phase : AdvancePhase} :
    HandsOver world [] (stepAdvance kind signal world phase) := by
  have hnothing : ∀ next, ∀ process ∈ ([] : List OwnedProcess), process ∈ world.alive →
      process ∈ owedBy next := fun _ process hprocess ↦ absurd hprocess List.not_mem_nil
  cases phase with
  | authority => exact .reads (hnothing _)
  | fencing => exact .reads (hnothing _)
  | closing manifestHash =>
    exact .keeps (fun process ↦ by simp [stepAdvance]) (by simp [stepAdvance]) (by simp)
  | checking => exact .reads (hnothing _)
  | cloning => exact .reads (hnothing _)
  | writing next => exact .reads (hnothing _)
  | replacing next =>
    rw [stepAdvance]
    split
    · exact .reads (hnothing _)
    · exact .keeps (fun process ↦ id) rfl (by simp)
  | publishing next =>
    exact .keeps (fun process ↦ by simp [stepAdvance]) (by simp [stepAdvance]) (by simp)

/-- What a step of any command owns, if no intake is recorded over another one. -/
theorem handsOver_step {command : IntakeCommand} (hremote : command.remoteWithoutChild)
    (hstore : ∀ requested running, command = .start requested (.storing running) →
      world.organizerIntake = none) :
    HandsOver world command.processes (command.step signal world) := by
  cases command with
  | start requested phase =>
    exact handsOver_stepStart hremote fun running hphase ↦ hstore requested running (by rw [hphase])
  | stop phase => exact handsOver_stepStop fun phase ↦ rfl
  | exit phase => exact handsOver_stepStop fun phase ↦ rfl
  | status phase => exact handsOver_stepStatus
  | advance kind phase => exact handsOver_stepAdvance

/-! A command stays of its kind; only a stop ends as a status call. -/

theorem start_step {requested : OrganizerTorModeV1} {phase : StartPhase} {next : IntakeCommand}
    (hnext : ((IntakeCommand.start requested phase).step signal world).2 = some next) :
    ∃ phase, next = .start requested phase := by
  simp only [IntakeCommand.step] at hnext
  cases phase <;> cases requested <;> simp only [stepStart, stepStart.at_] at hnext <;>
    (repeat' split at hnext) <;>
    simp only [Option.map_eq_some_iff, Option.some.injEq, reduceCtorEq] at hnext
  all_goals first
    | exact ⟨_, hnext.symm⟩
    | (obtain ⟨_, -, hnext⟩ := hnext; exact ⟨_, hnext.symm⟩)

theorem stop_step {phase : StopPhase} {next : IntakeCommand}
    (hnext : ((IntakeCommand.stop phase).step signal world).2 = some next) :
    (∃ phase, next = .stop phase) ∨ next = .status .authority := by
  cases phase <;> simp only [IntakeCommand.step, stepStop] at hnext <;>
    (repeat' split at hnext) <;> cases hnext
  all_goals first
    | exact .inl ⟨_, rfl⟩
    | exact .inr rfl

theorem exit_step {phase : StopPhase} {next : IntakeCommand}
    (hnext : ((IntakeCommand.exit phase).step signal world).2 = some next) :
    ∃ phase, next = .exit phase := by
  cases phase <;> simp only [IntakeCommand.step, stepStop] at hnext <;>
    (repeat' split at hnext) <;> cases hnext <;> exact ⟨_, rfl⟩

theorem status_step {phase : StatusPhase} {next : IntakeCommand}
    (hnext : ((IntakeCommand.status phase).step signal world).2 = some next) :
    ∃ phase, next = .status phase := by
  cases phase <;> simp only [IntakeCommand.step, stepStatus] at hnext <;>
    (repeat' split at hnext) <;> cases hnext <;> exact ⟨_, rfl⟩

theorem advance_step {kind : LifecycleCommand} {phase : AdvancePhase} {next : IntakeCommand}
    (hnext : ((IntakeCommand.advance kind phase).step signal world).2 = some next) :
    ∃ phase, next = .advance kind phase := by
  cases phase <;> simp only [IntakeCommand.step, stepAdvance, stepAdvance.at_] at hnext <;>
    (repeat' split at hnext) <;>
    simp only [Option.map_eq_some_iff, Option.some.injEq, reduceCtorEq] at hnext
  all_goals first
    | exact ⟨_, hnext.symm⟩
    | (obtain ⟨_, -, hnext⟩ := hnext; exact ⟨_, hnext.symm⟩)

/-- A start goes on as it began. -/
theorem remoteWithoutChild_step {command next : IntakeCommand}
    (h : command.remoteWithoutChild) (hnext : (command.step signal world).2 = some next) :
    next.remoteWithoutChild := by
  cases command with
  | start requested phase =>
    simp only [IntakeCommand.step] at hnext
    cases phase <;> cases requested <;>
      simp only [stepStart, stepStart.at_] at hnext <;>
      (repeat' split at hnext) <;>
      simp only [Option.map_eq_some_iff, Option.some.injEq, reduceCtorEq] at hnext
    all_goals first
      | (subst hnext; trivial)
      | (obtain ⟨_, -, rfl⟩ := hnext; trivial)
  | stop phase => rcases stop_step hnext with ⟨phase, rfl⟩ | rfl <;> trivial
  | exit phase =>
    obtain ⟨phase, rfl⟩ := exit_step hnext
    trivial
  | status phase =>
    obtain ⟨phase, rfl⟩ := status_step hnext
    trivial
  | advance kind phase =>
    obtain ⟨phase, rfl⟩ := advance_step hnext
    trivial

/-- A step spawns one process, with a number of its own, or none. -/
inductive SpawnsAtMostOne (world : IntakeWorld) : IntakeWorld → Prop
  | none {world' : IntakeWorld} (halive : world'.alive.Sublist world.alive)
      (hnext : world'.next = world.next) : SpawnsAtMostOne world world'
  | one (kind : Nat → OwnedProcess) (hnumber : ∀ number, (kind number).number = number) :
      SpawnsAtMostOne world (world.spawn kind)

/-- The numbers go on. -/
theorem SpawnsAtMostOne.fresh {world' : IntakeWorld} (h : SpawnsAtMostOne world world')
    (hfresh : ∀ process ∈ world.alive, process.number < world.next) :
    ∀ process ∈ world'.alive, process.number < world'.next := by
  intro process hprocess
  cases h with
  | none halive hnext =>
    rw [hnext]
    exact hfresh process (halive.subset hprocess)
  | one kind hnumber =>
    show process.number < world.next + 1
    rcases mem_alive_spawn.mp hprocess with rfl | hold
    · rw [hnumber]
      omega
    · have hlt := hfresh process hold
      omega

theorem SpawnsAtMostOne.nodup {world' : IntakeWorld} (h : SpawnsAtMostOne world world')
    (hfresh : ∀ process ∈ world.alive, process.number < world.next)
    (hnodup : world.alive.Nodup) : world'.alive.Nodup := by
  cases h with
  | none halive hnext => exact hnodup.sublist halive
  | one kind hnumber =>
    apply List.nodup_cons.mpr
    refine ⟨fun hmem ↦ ?_, hnodup⟩
    have hlt := hfresh _ hmem
    rw [hnumber] at hlt
    omega

theorem SpawnsAtMostOne.ended (process : OwnedProcess) :
    SpawnsAtMostOne world (world.ended process) :=
  .none List.filter_sublist rfl

theorem SpawnsAtMostOne.refl : SpawnsAtMostOne world world := .none (List.Sublist.refl _) rfl

theorem SpawnsAtMostOne.publish (manifestHash : ManifestHash) (state : ElectionLifecycleStateV1)
    (generation : Option UInt64) :
    SpawnsAtMostOne world (world.publish manifestHash state generation) :=
  .none (by rw [alive_publish]) (next_publish _ _ _)

theorem spawnsAtMostOne_step (command : IntakeCommand) :
    SpawnsAtMostOne world (command.step signal world).1 := by
  have hsame {world' : IntakeWorld} (halive : world'.alive = world.alive)
      (hnext : world'.next = world.next) : SpawnsAtMostOne world world' :=
    .none (by rw [halive]) hnext
  cases command with
  | start requested phase =>
    simp only [IntakeCommand.step]
    cases phase <;> cases requested <;> simp only [stepStart] <;>
      repeat' split
    all_goals first
      | exact .refl
      | exact .ended _
      | exact .one _ fun _ ↦ rfl
      | exact hsame rfl rfl
  | stop phase => cases phase <;> first | exact .refl | exact .ended _ | exact hsame rfl rfl
  | exit phase => cases phase <;> first | exact .refl | exact .ended _ | exact hsame rfl rfl
  | status phase =>
    cases phase with
    | authority => exact .refl
    | binding => exact .refl
    | reading bound =>
      cases bound with
      | none => exact .refl
      | some bound => exact .publish _ _ _
  | advance kind phase =>
    cases phase with
    | closing manifestHash => exact .publish _ _ _
    | publishing next => exact .publish _ _ _
    | replacing next =>
      simp only [IntakeCommand.step, stepAdvance]
      split
      · exact .refl
      · exact hsame rfl rfl
    | authority => exact .refl
    | fencing => exact .refl
    | checking => exact .refl
    | cloning => exact .refl
    | writing next => exact .refl

end Steps

/-! ### Runs -/

/-- The applications reached from one that has a session and no intake, by steps that are
permitted. -/
inductive IntakeRun (Permits : IntakeApplication → IntakeChoice → Prop)
    (session : Option ActiveElection) : IntakeApplication → Prop
  | initial : IntakeRun Permits session ⟨⟨session, none, [], 0⟩, []⟩
  | step {app app' : IntakeApplication} (choice : IntakeChoice)
      (run : IntakeRun Permits session app) (hpermits : Permits app choice)
      (hstep : app.step choice = some app') : IntakeRun Permits session app'

/-- A start that records its intake finds no other one recorded. -/
def RecordsAlone (app : IntakeApplication) : IntakeChoice → Prop
  | .advance i _ => ∀ requested running,
      app.commands[i]? = some (.start requested (.storing running)) →
        app.world.organizerIntake = none
  | _ => True

/-- The commands after one of them has made a step. -/
def IntakeApplication.advanced (self : IntakeApplication) (i : Nat)
    (next : Option IntakeCommand) : List IntakeCommand :=
  match next with
  | some next => self.commands.set i next
  | none => self.commands.eraseIdx i

section Runs

variable {app app' : IntakeApplication}

/-- What a step can be. -/
theorem IntakeApplication.step_cases {choice : IntakeChoice} (h : app.step choice = some app') :
    (∃ call, choice = .call call ∧
      app' = { app with commands := app.commands ++ [call.begin] }) ∨
    (∃ i signal command, choice = .advance i signal ∧ app.commands[i]? = some command ∧
      app' = ⟨(command.step signal app.world).1,
        app.advanced i (command.step signal app.world).2⟩) ∨
    (∃ session, choice = .switches session ∧
      app' = { app with world := { app.world with session := session } }) ∨
    (∃ process, choice = .exits process ∧
      app' = { app with world := app.world.ended process }) := by
  cases choice with
  | call call =>
    cases h
    exact .inl ⟨call, rfl, rfl⟩
  | advance i signal =>
    simp only [IntakeApplication.step] at h
    split at h
    · cases h
    · next command hcommand =>
      cases h
      exact .inr (.inl ⟨i, signal, command, rfl, hcommand, rfl⟩)
  | switches session =>
    cases h
    exact .inr (.inr (.inl ⟨session, rfl, rfl⟩))
  | exits process =>
    cases h
    exact .inr (.inr (.inr ⟨process, rfl, rfl⟩))

/-- The other commands are still there. -/
theorem mem_advanced_of_ne {i : Nat} {command other : IntakeCommand}
    {next : Option IntakeCommand} (hi : app.commands[i]? = some command)
    (hmem : other ∈ app.commands) (hne : other ≠ command) : other ∈ app.advanced i next := by
  obtain ⟨j, hj⟩ := List.mem_iff_getElem?.mp hmem
  have hij : i ≠ j := by
    rintro rfl
    rw [hi] at hj
    exact hne (Option.some.inj hj).symm
  cases next with
  | none => exact List.mem_eraseIdx_iff_getElem?.mpr ⟨j, hij.symm, hj⟩
  | some next =>
    apply List.mem_of_getElem? (i := j)
    show (app.commands.set i next)[j]? = some other
    rw [List.getElem?_set_ne hij, hj]

/-- So is the command itself, at its next step. -/
theorem mem_advanced_self {i : Nat} {command next : IntakeCommand}
    (hi : app.commands[i]? = some command) : next ∈ app.advanced i (some next) := by
  obtain ⟨hlt, -⟩ := List.getElem?_eq_some_iff.mp hi
  exact List.mem_set hlt next

theorem mem_or_eq_of_mem_advanced {i : Nat} {other : IntakeCommand}
    {next : Option IntakeCommand} (h : other ∈ app.advanced i next) :
    other ∈ app.commands ∨ next = some other := by
  cases next with
  | none => exact .inl (List.mem_of_mem_eraseIdx h)
  | some next => exact (List.mem_or_eq_of_mem_set h).imp_right fun heq ↦ by rw [heq]

/-- Each process belongs to the recorded intake or to a command in progress. -/
structure IsOwned (app : IntakeApplication) : Prop where
  owned : ∀ process ∈ app.world.alive, process ∈ app.world.recorded ∨
    ∃ command ∈ app.commands, process ∈ command.processes
  fresh : ∀ process ∈ app.world.alive, process.number < app.world.next
  nodup : app.world.alive.Nodup
  remote : ∀ command ∈ app.commands, command.remoteWithoutChild

theorem IsOwned.step {choice : IntakeChoice} (h : IsOwned app)
    (hpermits : RecordsAlone app choice) (hstep : app.step choice = some app') : IsOwned app' := by
  rcases IntakeApplication.step_cases hstep with ⟨call, rfl, rfl⟩ |
    ⟨i, signal, command, rfl, hi, rfl⟩ | ⟨session, rfl, rfl⟩ | ⟨process, rfl, rfl⟩
  · refine ⟨?_, h.fresh, h.nodup, ?_⟩
    · intro process hprocess
      apply (h.owned process hprocess).imp_right
      rintro ⟨command, hcommand, hheld⟩
      exact ⟨command, List.mem_append_left _ hcommand, hheld⟩
    · intro command hcommand
      rcases List.mem_append.mp hcommand with hold | hnew
      · exact h.remote command hold
      · rw [List.mem_singleton.mp hnew]
        cases call with
        | start requested => cases requested <;> trivial
        | stop => trivial
        | exit => trivial
        | status => trivial
        | advance kind => trivial
  · have hcommand := List.mem_of_getElem? hi
    have hremote := h.remote command hcommand
    have hhands : HandsOver app.world command.processes (command.step signal app.world) := by
      apply handsOver_step hremote
      rintro requested running rfl
      exact hpermits requested running hi
    refine ⟨?_, ?_, ?_, ?_⟩
    · intro process hprocess
      rcases hhands process hprocess with hslot | howed | ⟨halive, hnotSlot, hnotHeld⟩
      · exact .inl hslot
      · right
        cases hnext : (command.step signal app.world).2 with
        | none =>
          rw [hnext] at howed
          exact absurd howed List.not_mem_nil
        | some next =>
          rw [hnext] at howed
          exact ⟨next, mem_advanced_self hi, howed⟩
      · obtain ⟨other, hother, hheld⟩ := (h.owned process halive).resolve_left hnotSlot
        have hne : other ≠ command := by
          rintro rfl
          exact hnotHeld hheld
        exact .inr ⟨other, mem_advanced_of_ne hi hother hne, hheld⟩
    · exact (spawnsAtMostOne_step command).fresh h.fresh
    · exact (spawnsAtMostOne_step command).nodup h.fresh h.nodup
    · intro other hother
      rcases mem_or_eq_of_mem_advanced hother with hold | hnext
      · exact h.remote other hold
      · exact remoteWithoutChild_step hremote hnext
  · exact ⟨h.owned, h.fresh, h.nodup, h.remote⟩
  · refine ⟨?_, ?_, h.nodup.filter _, h.remote⟩
    · intro other hother
      exact h.owned other (mem_alive_ended.mp hother).1
    · intro other hother
      exact h.fresh other (mem_alive_ended.mp hother).1

theorem IntakeRun.isOwned {session : Option ActiveElection}
    (run : IntakeRun RecordsAlone session app) : IsOwned app := by
  induction run with
  | initial => exact ⟨by simp, by simp, List.nodup_nil, by simp⟩
  | step choice run hpermits hstep ih => exact ih.step hpermits hstep

/-- With no command in progress one worker is there at most: that of the recorded intake. -/
theorem IsOwned.length_workers_le (h : IsOwned app) (hidle : app.commands = []) :
    (app.world.alive.filter (·.isWorker)).length ≤ 1 := by
  have hone : ∀ process ∈ app.world.alive.filter (·.isWorker),
      ∃ intake, app.world.organizerIntake = some intake ∧
        process = .worker intake.serviceLoop := by
    intro process hprocess
    obtain ⟨halive, hworker⟩ := List.mem_filter.mp hprocess
    have hslot : process ∈ app.world.recorded := by
      rcases h.owned process halive with hslot | ⟨command, hcommand, -⟩
      · exact hslot
      · rw [hidle] at hcommand
        cases hcommand
    cases hintake : app.world.organizerIntake with
    | none =>
      rw [recorded_of_none hintake] at hslot
      cases hslot
    | some intake =>
      refine ⟨intake, rfl, ?_⟩
      rw [recorded_of_some hintake] at hslot
      rcases List.mem_cons.mp hslot with rfl | hchild
      · rfl
      · cases hsome : intake.torChild with
        | none =>
          rw [hsome] at hchild
          cases hchild
        | some child =>
          rw [hsome] at hchild
          rw [List.mem_singleton.mp hchild] at hworker
          cases hworker
  cases hworkers : app.world.alive.filter (·.isWorker) with
  | nil => exact Nat.zero_le 1
  | cons first others =>
    have hnodup := h.nodup.filter (·.isWorker)
    rw [hworkers] at hone hnodup
    obtain ⟨intake, hintake, rfl⟩ := hone first List.mem_cons_self
    have hothers : others = [] := by
      apply List.eq_nil_iff_forall_not_mem.mpr
      intro process hprocess
      obtain ⟨intake', hintake', rfl⟩ := hone process (List.mem_cons_of_mem _ hprocess)
      rw [hintake] at hintake'
      cases hintake'
      exact (List.nodup_cons.mp hnodup).1 hprocess
    rw [hothers]
    exact Nat.le_refl 1

/-! ### After a stop -/

/-- A start. -/
def IntakeCommand.isStart : IntakeCommand → Bool
  | start _ _ => true
  | _ => false

/-- A command that ends the intake. -/
def IntakeCommand.isStop : IntakeCommand → Bool
  | stop _ | exit _ => true
  | _ => false

/-- A command about to take the intake out of its slot. -/
def IntakeCommand.isTaking : IntakeCommand → Bool
  | stop .taking | exit .taking => true
  | _ => false

theorem isStart_step {world : IntakeWorld} {signal : IntakeSignal} {command next : IntakeCommand}
    (h : command.isStart = false) (hnext : (command.step signal world).2 = some next) :
    next.isStart = false := by
  cases command with
  | start requested phase => cases h
  | stop phase => rcases stop_step hnext with ⟨phase, rfl⟩ | rfl <;> rfl
  | exit phase =>
    obtain ⟨phase, rfl⟩ := exit_step hnext
    rfl
  | status phase =>
    obtain ⟨phase, rfl⟩ := status_step hnext
    rfl
  | advance kind phase =>
    obtain ⟨phase, rfl⟩ := advance_step hnext
    rfl

/-- Only a start records an intake. -/
theorem organizerIntake_step {world : IntakeWorld} {signal : IntakeSignal}
    {command : IntakeCommand} (h : command.isStart = false)
    (hslot : world.organizerIntake = none) :
    (command.step signal world).1.organizerIntake = none := by
  have hpublish (manifestHash : ManifestHash) (state : ElectionLifecycleStateV1)
      (generation : Option UInt64) :
      (world.publish manifestHash state generation).organizerIntake = none := by
    simp only [IntakeWorld.publish, hslot]
  cases command with
  | start requested phase => cases h
  | stop phase => cases phase <;> first | exact hslot | rfl
  | exit phase => cases phase <;> first | exact hslot | rfl
  | status phase =>
    cases phase with
    | authority => exact hslot
    | binding => exact hslot
    | reading bound =>
      cases bound with
      | none => exact hslot
      | some bound => exact hpublish _ _ _
  | advance kind phase =>
    cases phase with
    | closing manifestHash => exact hpublish _ _ _
    | publishing next => exact hpublish _ _ _
    | replacing next =>
      simp only [IntakeCommand.step, stepAdvance]
      split <;> exact hslot
    | authority => exact hslot
    | fencing => exact hslot
    | checking => exact hslot
    | cloning => exact hslot
    | writing next => exact hslot

/-- No intake is recorded, and no start is in progress. -/
structure IsCleared (app : IntakeApplication) : Prop where
  slot : app.world.organizerIntake = none
  starts : ∀ command ∈ app.commands, command.isStart = false

theorem IsCleared.step {choice : IntakeChoice} (h : IsCleared app)
    (hchoice : ∀ requested, choice ≠ .call (.start requested))
    (hstep : app.step choice = some app') : IsCleared app' := by
  rcases IntakeApplication.step_cases hstep with ⟨call, rfl, rfl⟩ |
    ⟨i, signal, command, rfl, hi, rfl⟩ | ⟨session, rfl, rfl⟩ | ⟨process, rfl, rfl⟩
  · refine ⟨h.slot, fun command hcommand ↦ ?_⟩
    rcases List.mem_append.mp hcommand with hold | hnew
    · exact h.starts command hold
    · rw [List.mem_singleton.mp hnew]
      cases call with
      | start requested => exact absurd rfl (hchoice requested)
      | stop => rfl
      | exit => rfl
      | status => rfl
      | advance kind => rfl
  · have hcommand := h.starts command (List.mem_of_getElem? hi)
    refine ⟨organizerIntake_step hcommand h.slot, fun other hother ↦ ?_⟩
    rcases mem_or_eq_of_mem_advanced hother with hold | hnext
    · exact h.starts other hold
    · exact isStart_step hcommand hnext
  · exact ⟨h.slot, h.starts⟩
  · exact ⟨h.slot, h.starts⟩

/-- Without a start nothing is recorded over another intake. -/
theorem IsCleared.recordsAlone (h : IsCleared app) (choice : IntakeChoice) :
    RecordsAlone app choice := by
  cases choice with
  | advance i signal => exact fun requested running hi ↦ h.slot
  | call call => trivial
  | switches session => trivial
  | exits process => trivial

/-- Whatever follows without a start, nothing becomes recorded and each process belongs to a
command. -/
theorem IsCleared.steps {choices : List IntakeChoice} (h : IsCleared app) (howned : IsOwned app)
    (hchoices : ∀ requested, .call (.start requested) ∉ choices)
    (hsteps : app.steps choices = some app') : IsCleared app' ∧ IsOwned app' := by
  induction choices generalizing app with
  | nil =>
    cases hsteps
    exact ⟨h, howned⟩
  | cons choice choices ih =>
    obtain ⟨next, hstep, hrest⟩ := Option.bind_eq_some_iff.mp hsteps
    have hfirst : ∀ requested, choice ≠ .call (.start requested) := by
      rintro requested rfl
      exact hchoices requested List.mem_cons_self
    exact ih (h.step hfirst hstep) (howned.step (h.recordsAlone choice) hstep)
      (fun requested hmem ↦ hchoices requested (List.mem_cons_of_mem _ hmem)) hrest

/-- Taking the intake out of its slot leaves none. -/
theorem organizerIntake_of_isTaking {world : IntakeWorld} {signal : IntakeSignal}
    {command : IntakeCommand} (h : command.isTaking = true) :
    (command.step signal world).1.organizerIntake = none := by
  cases command with
  | start requested phase => cases h
  | stop phase => cases phase <;> first | rfl | cases h
  | exit phase => cases phase <;> first | rfl | cases h
  | status phase => cases h
  | advance kind phase => cases h

theorem IsCleared.of_isTaking {i : Nat} {signal : IntakeSignal} {command : IntakeCommand}
    (hi : app.commands[i]? = some command) (htaking : command.isTaking = true)
    (hstarts : ∀ command ∈ app.commands, command.isStart = false)
    (hstep : app.step (.advance i signal) = some app') : IsCleared app' := by
  simp only [IntakeApplication.step, hi] at hstep
  cases hstep
  refine ⟨organizerIntake_of_isTaking htaking, fun other hother ↦ ?_⟩
  rcases mem_or_eq_of_mem_advanced hother with hold | hnext
  · exact hstarts other hold
  · exact isStart_step (hstarts command (List.mem_of_getElem? hi)) hnext

/-- Once the stops have returned, nothing is left. -/
theorem IsCleared.alive_eq_nil (h : IsCleared app) (howned : IsOwned app)
    (hstops : ∀ command ∈ app.commands, command.isStop = false) : app.world.alive = [] := by
  apply List.eq_nil_iff_forall_not_mem.mpr
  intro process hprocess
  rcases howned.owned process hprocess with hslot | ⟨command, hcommand, hheld⟩
  · rw [recorded_of_none h.slot] at hslot
    cases hslot
  · have hstart := h.starts command hcommand
    have hstop := hstops command hcommand
    cases command with
    | start requested phase => cases hstart
    | stop phase => cases hstop
    | exit phase => cases hstop
    | status phase => cases hheld
    | advance kind phase => cases hheld

end Runs

end PrivateBallot.Shell
