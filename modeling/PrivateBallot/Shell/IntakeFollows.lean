import PrivateBallot.Shell.IntakeOwnership

/-!
# The intake follows the session

Library `Shell`. What the fence of the recorded intake shows when no command is in progress, and
with it what holds of every interleaving of the commands on the intake.
-/

namespace PrivateBallot.Shell

open PrivateBallot.Base PrivateBallot.Protocol PrivateBallot.Ballot PrivateBallot.GuiCore

/-- The fence of the recorded intake shows the lifecycle of the active session of its election. -/
def IntakeWorld.Follows (self : IntakeWorld) : Prop :=
  ∀ intake active, self.organizerIntake = some intake → self.session = some active →
    intake.manifestHash = active.manifestHash → intake.lifecycleFence.state = active.lifecycle

/-- A command that has yet to publish what it has committed, or to commit what it has published. -/
def IntakeCommand.owes : IntakeCommand → Bool
  | advance _ (.publishing _) => true
  | advance .closeVoting phase => match phase with
    | .checking | .cloning | .writing _ | .replacing _ => true
    | _ => false
  | _ => false

/-- Only a close publishes ahead of its commit. -/
def IntakeCommand.fencesOnlyClose : IntakeCommand → Prop
  | advance kind .fencing | advance kind (.closing _) => kind = .closeVoting
  | _ => True

/-- The step acts on nothing that has changed since the command has read it. A start brings the
lifecycle of the session, a heartbeat and a publication too, and a close that was fenced commits
under its fence. -/
def IntakeCommand.isCurrent (signal : IntakeSignal) (world : IntakeWorld) : IntakeCommand → Prop
  | start _ (.storing running) => ∀ active, world.session = some active →
      running.manifestHash = active.manifestHash →
        running.lifecycleFence.state = active.lifecycle
  | status (.reading bound) => bound = world.boundElection
  | advance _ (.publishing next) =>
    world.boundElection = some ⟨next.manifestHash, next.lifecycle⟩
  | advance .closeVoting .checking => world.hasOrganizerAuthority = true ∨ world.Follows
  | advance .closeVoting .cloning =>
    (world.session.any fun active ↦ active.organizer && active.lifecycle = .opened) = true ∨
      world.Follows
  | advance .closeVoting (.writing _) => signal.succeeds = true ∨ world.Follows
  | advance .closeVoting (.replacing next) => ∀ intake, world.organizerIntake = some intake →
      intake.manifestHash = next.manifestHash → intake.lifecycleFence.state = next.lifecycle
  | _ => True

/-- Every step is current, and another session is at the lifecycle that the recorded intake of
its election shows. -/
def IsCurrent (app : IntakeApplication) : IntakeChoice → Prop
  | .advance i signal => ∀ command, app.commands[i]? = some command →
      command.isCurrent signal app.world
  | .switches session => ({ app.world with session := session } : IntakeWorld).Follows
  | _ => True

section

variable {world : IntakeWorld} {signal : IntakeSignal}

theorem follows_of_none (h : world.organizerIntake = none) : world.Follows := by
  intro intake active hslot
  rw [h] at hslot
  cases hslot

theorem follows_of_session (h : world.session = none) : world.Follows := by
  intro intake active _ hactive
  rw [h] at hactive
  cases hactive

/-- Publishing what the session is makes the intake follow it. -/
theorem follows_publish {manifestHash : ManifestHash} {state : ElectionLifecycleStateV1}
    {generation : Option UInt64} (h : world.boundElection = some ⟨manifestHash, state⟩) :
    (world.publish manifestHash state generation).Follows := by
  obtain ⟨active, hactive, hbound⟩ := Option.map_eq_some_iff.mp h
  cases hbound
  cases hslot : world.organizerIntake with
  | none =>
    apply follows_of_none
    simp only [IntakeWorld.publish, hslot]
  | some intake =>
    unfold IntakeWorld.publish
    simp only [hslot]
    by_cases hsame : intake.manifestHash = active.manifestHash
    · rw [if_pos hsame]
      intro intake' active' hintake' hactive' _
      cases hintake'
      rw [hactive] at hactive'
      cases hactive'
      exact AuthoritativeLifecycleFenceV1.state_observe _ _ _
    · rw [if_neg hsame]
      intro intake' active' hintake' hactive' heq
      rw [hslot] at hintake'
      rw [hactive] at hactive'
      cases hintake'
      cases hactive'
      exact absurd heq hsame

/-- The intake follows the session, or the command will see to it. -/
def FollowsOr (result : StepResult) : Prop :=
  result.1.Follows ∨ ∃ next, result.2 = some next ∧ next.owes = true

theorem followsOr_stepStart {requested : OrganizerTorModeV1} {phase : StartPhase}
    (h : world.Follows)
    (hcurrent : (IntakeCommand.start requested phase).isCurrent signal world) :
    (stepStart requested signal world phase).1.Follows := by
  have hended (process : OwnedProcess) : (world.ended process).Follows := h
  have hspawn (kind : Nat → OwnedProcess) : (world.spawn kind).Follows := h
  have htaken : ({ world with organizerIntake := none } : IntakeWorld).Follows :=
    follows_of_none rfl
  have hstored (running : OrganizerIntakeState) (hphase : phase = .storing running) :
      ({ world with organizerIntake := some running } : IntakeWorld).Follows := by
    subst hphase
    intro intake active hintake hactive hsame
    cases hintake
    exact hcurrent active hactive hsame
  cases phase <;> cases requested <;> simp only [stepStart] <;> repeat' split
  all_goals first
    | exact h
    | exact hended _
    | exact hspawn _
    | exact htaken
    | exact hstored _ rfl

theorem followsOr_stepStop {at_ : StopPhase → IntakeCommand} {after : Option IntakeCommand}
    {phase : StopPhase} (h : world.Follows) : (stepStop world at_ after phase).1.Follows := by
  cases phase with
  | authority => exact h
  | taking => exact follows_of_none rfl
  | stopping taken => exact h
  | reaping child => exact h

theorem followsOr_stepStatus {phase : StatusPhase} (h : world.Follows)
    (hcurrent : (IntakeCommand.status phase).isCurrent signal world) :
    (stepStatus signal world phase).1.Follows := by
  cases phase with
  | authority => exact h
  | binding => exact h
  | reading bound =>
    cases bound with
    | none => exact h
    | some bound =>
      have hbound : some bound = world.boundElection := hcurrent
      exact follows_publish hbound.symm

/-- A lifecycle command that has published or committed halfway goes on to the other half. -/
theorem followsOr_stepAdvance {kind : LifecycleCommand} {phase : AdvancePhase}
    (h : world.Follows ∨ (IntakeCommand.advance kind phase).owes = true)
    (hclose : (IntakeCommand.advance kind phase).fencesOnlyClose)
    (hcurrent : (IntakeCommand.advance kind phase).isCurrent signal world) :
    FollowsOr (stepAdvance kind signal world phase) := by
  by_cases hkind : kind = .closeVoting
  · subst hkind
    cases phase with
    | authority => exact .inl (h.resolve_right Bool.false_ne_true)
    | fencing => exact .inl (h.resolve_right Bool.false_ne_true)
    | closing manifestHash => exact .inr ⟨_, rfl, rfl⟩
    | checking =>
      rcases hcurrent with hauthority | hfollows
      · exact .inr ⟨_, if_pos hauthority, rfl⟩
      · exact .inl hfollows
    | cloning =>
      rcases hcurrent with hopen | hfollows
      · cases hsession : world.session with
        | none =>
          rw [hsession] at hopen
          cases hopen
        | some active =>
          rw [hsession, Option.any_some, Bool.and_eq_true, decide_eq_true_eq] at hopen
          right
          simp only [stepAdvance, hsession, Option.filter_some, hopen.1, if_true,
            Option.bind_some, LifecycleCommand.apply, LifecycleCommand.states, hopen.2,
            Option.map_some]
          exact ⟨_, rfl, rfl⟩
      · exact .inl hfollows
    | writing next =>
      rcases hcurrent with hsucceeds | hfollows
      · exact .inr ⟨_, if_pos hsucceeds, rfl⟩
      · exact .inl hfollows
    | replacing next =>
      left
      cases hsession : world.session with
      | none =>
        simp only [stepAdvance, hsession]
        exact follows_of_session hsession
      | some active =>
        simp only [stepAdvance, hsession]
        intro intake active' hintake hactive hsame
        cases hactive
        exact hcurrent intake hintake hsame
    | publishing next => exact .inl (follows_publish hcurrent)
  · have hstays {phase : AdvancePhase}
        (h : world.Follows ∨ (IntakeCommand.advance kind phase).owes = true)
        (hphase : ∀ next, phase ≠ .publishing next) : world.Follows := by
      apply h.resolve_right
      cases phase <;> cases kind <;> simp_all [IntakeCommand.owes]
    cases phase with
    | authority => exact .inl (hstays h (by simp))
    | fencing => exact absurd hclose hkind
    | closing manifestHash => exact absurd hclose hkind
    | checking => exact .inl (hstays h (by simp))
    | cloning => exact .inl (hstays h (by simp))
    | writing next => exact .inl (hstays h (by simp))
    | replacing next =>
      cases hsession : world.session with
      | none =>
        left
        simp only [stepAdvance, hsession]
        exact follows_of_session hsession
      | some active =>
        right
        simp only [stepAdvance, hsession, if_neg hkind]
        exact ⟨_, rfl, by cases kind <;> rfl⟩
    | publishing next => exact .inl (follows_publish hcurrent)

theorem followsOr_step {command : IntakeCommand}
    (h : world.Follows ∨ command.owes = true) (hclose : command.fencesOnlyClose)
    (hcurrent : command.isCurrent signal world) : FollowsOr (command.step signal world) := by
  cases command with
  | start requested phase =>
    exact .inl (followsOr_stepStart (h.resolve_right Bool.false_ne_true) hcurrent)
  | stop phase => exact .inl (followsOr_stepStop (h.resolve_right Bool.false_ne_true))
  | exit phase => exact .inl (followsOr_stepStop (h.resolve_right Bool.false_ne_true))
  | status phase =>
    exact .inl (followsOr_stepStatus (h.resolve_right Bool.false_ne_true) hcurrent)
  | advance kind phase => exact followsOr_stepAdvance h hclose hcurrent

theorem fencesOnlyClose_step {command next : IntakeCommand} (h : command.fencesOnlyClose)
    (hnext : (command.step signal world).2 = some next) : next.fencesOnlyClose := by
  cases command with
  | start requested phase =>
    obtain ⟨phase, rfl⟩ := start_step hnext
    trivial
  | stop phase => rcases stop_step hnext with ⟨phase, rfl⟩ | rfl <;> trivial
  | exit phase =>
    obtain ⟨phase, rfl⟩ := exit_step hnext
    trivial
  | status phase =>
    obtain ⟨phase, rfl⟩ := status_step hnext
    trivial
  | advance kind phase =>
    cases phase <;> simp only [IntakeCommand.step, stepAdvance, stepAdvance.at_] at hnext <;>
      (repeat' split at hnext) <;>
      simp only [Option.map_eq_some_iff, Option.some.injEq, reduceCtorEq] at hnext
    all_goals first
      | (subst hnext; trivial)
      | (obtain ⟨active, -, rfl⟩ := hnext; split <;> trivial)
      | (obtain ⟨active, -, rfl⟩ := hnext; trivial)

end

/-- The intake follows the session, or a command in progress will see to it. -/
structure IsFollowing (app : IntakeApplication) : Prop where
  follows : app.world.Follows ∨ ∃ command ∈ app.commands, command.owes = true
  close : ∀ command ∈ app.commands, command.fencesOnlyClose

section

variable {session : Option ActiveElection} {app app' : IntakeApplication}

theorem IsFollowing.step {choice : IntakeChoice} (h : IsFollowing app)
    (hcurrent : IsCurrent app choice) (hstep : app.step choice = some app') :
    IsFollowing app' := by
  rcases IntakeApplication.step_cases hstep with ⟨call, rfl, rfl⟩ |
    ⟨i, signal, command, rfl, hi, rfl⟩ | ⟨session, rfl, rfl⟩ | ⟨process, rfl, rfl⟩
  · constructor
    · apply h.follows.imp_right
      rintro ⟨command, hcommand, howes⟩
      exact ⟨command, List.mem_append_left _ hcommand, howes⟩
    · intro command hcommand
      rcases List.mem_append.mp hcommand with hold | hnew
      · exact h.close command hold
      · rw [List.mem_singleton.mp hnew]
        cases call <;> trivial
  · have hmem := List.mem_of_getElem? hi
    have hself (howes : app.world.Follows ∨ command.owes = true) :
        (command.step signal app.world).1.Follows ∨
          ∃ other ∈ app.advanced i (command.step signal app.world).2, other.owes = true := by
      apply (followsOr_step howes (h.close command hmem) (hcurrent command hi)).imp_right
      rintro ⟨next, hnext, howes⟩
      rw [hnext]
      exact ⟨next, mem_advanced_self hi, howes⟩
    constructor
    · rcases h.follows with hfollows | ⟨other, hother, howes⟩
      · exact hself (.inl hfollows)
      · by_cases hsame : other = command
        · exact hself (.inr (hsame ▸ howes))
        · exact .inr ⟨other, mem_advanced_of_ne hi hother hsame, howes⟩
    · intro other hother
      rcases mem_or_eq_of_mem_advanced hother with hold | hnext
      · exact h.close other hold
      · exact fencesOnlyClose_step (h.close command hmem) hnext
  · exact ⟨.inl hcurrent, h.close⟩
  · exact ⟨h.follows, h.close⟩

theorem IntakeRun.isFollowing (run : IntakeRun IsCurrent session app) : IsFollowing app := by
  induction run with
  | initial => exact ⟨.inl (follows_of_none rfl), by simp⟩
  | step choice run hcurrent hstep ih => exact ih.step hcurrent hstep

/-- A status call that nothing comes between makes the intake follow the session. -/
theorem steps_status (hidle : app.commands = [])
    (horganizer : app.world.hasOrganizerAuthority = true) (first second third : IntakeSignal) :
    ∃ app', app.steps
      [.call .status, .advance 0 first, .advance 0 second, .advance 0 third] = some app' ∧
        app'.commands = [] ∧ app'.world.Follows := by
  have hsteps : app.steps
      [.call .status, .advance 0 first, .advance 0 second, .advance 0 third] =
        some ⟨(stepStatus third app.world (.reading app.world.boundElection)).1, []⟩ := by
    simp only [IntakeApplication.steps, IntakeApplication.step, IntakeCall.begin, hidle,
      IntakeCommand.step, stepStatus, horganizer, if_true, List.nil_append, Option.bind_some,
      List.getElem?_cons_zero, List.set_cons_zero, List.eraseIdx_cons_zero]
  refine ⟨_, hsteps, rfl, ?_⟩
  cases hbound : app.world.boundElection with
  | none =>
    apply follows_of_session
    exact Option.map_eq_none_iff.mp hbound
  | some bound => exact follows_publish hbound

/-- Every interleaving of starts, stops, exits, status calls and lifecycle commands in which no
start records its intake over another one: with no command in progress at most one worker is
there; a Tor child belongs to the recorded intake or to a start, stop or exit in progress; from the
step by which a stop or exit takes the intake with no start in progress, nothing is left once the
stops are through, until another start; and a status call brings the fence to the lifecycle of the
session. Where besides no step acts on what has changed since, the fence is there by itself. -/
theorem intake_follows_session (session : Option ActiveElection) :
    (∀ app, IntakeRun RecordsAlone session app →
      (app.commands = [] → (app.world.alive.filter (·.isWorker)).length ≤ 1) ∧
      (∀ child, OwnedProcess.torChild child ∈ app.world.alive →
        (∃ intake, app.world.organizerIntake = some intake ∧ intake.torChild = some child) ∨
        ∃ command ∈ app.commands, (command.isStart || command.isStop) = true ∧
          OwnedProcess.torChild child ∈ command.processes) ∧
      (∀ i signal command app₁ choices app₂, app.commands[i]? = some command →
        command.isTaking = true → (∀ command ∈ app.commands, command.isStart = false) →
        app.step (.advance i signal) = some app₁ → app₁.steps choices = some app₂ →
        (∀ requested, .call (.start requested) ∉ choices) →
        (∀ command ∈ app₂.commands, command.isStop = false) → app₂.world.alive = []) ∧
      (app.commands = [] → app.world.hasOrganizerAuthority = true → ∀ first second third,
        ∃ app', app.steps [.call .status, .advance 0 first, .advance 0 second,
          .advance 0 third] = some app' ∧ app'.commands = [] ∧ app'.world.Follows)) ∧
    ∀ app, IntakeRun IsCurrent session app → app.commands = [] → app.world.Follows := by
  refine ⟨fun app run ↦ ⟨run.isOwned.length_workers_le, ?_, ?_, fun hidle horganizer ↦
    steps_status hidle horganizer⟩, ?_⟩
  · intro child hchild
    rcases run.isOwned.owned _ hchild with hslot | ⟨command, hcommand, hheld⟩
    · left
      cases hintake : app.world.organizerIntake with
      | none =>
        rw [recorded_of_none hintake] at hslot
        cases hslot
      | some intake =>
        rw [recorded_of_some hintake] at hslot
        exact ⟨intake, rfl, by simpa [OrganizerIntakeState.processes] using hslot⟩
    · refine .inr ⟨command, hcommand, ?_, hheld⟩
      cases command <;> first | rfl | cases hheld
  · intro i signal command app₁ choices app₂ hi htaking hstarts hstep hsteps hchoices hstops
    have hcleared := IsCleared.of_isTaking hi htaking hstarts hstep
    have halone : RecordsAlone app (.advance i signal) := by
      intro requested running hstoring
      rw [hi] at hstoring
      cases Option.some.inj hstoring
      cases htaking
    obtain ⟨hcleared', howned⟩ := hcleared.steps (run.isOwned.step halone hstep) hchoices hsteps
    exact hcleared'.alive_eq_nil howned hstops
  · intro app run hidle
    rcases run.isFollowing.follows with hfollows | ⟨command, hcommand, -⟩
    · exact hfollows
    · rw [hidle] at hcommand
      cases hcommand

end

/-! ### Interleavings -/

instance (world : IntakeWorld) : Decidable world.Follows :=
  decidable_of_iff (∀ intake ∈ world.organizerIntake, ∀ active ∈ world.session,
      intake.manifestHash = active.manifestHash → intake.lifecycleFence.state = active.lifecycle)
    ⟨fun h intake active hintake hactive ↦ h intake hintake active hactive,
      fun h intake hintake active hactive ↦ h intake active hintake hactive⟩

/-- The command is a start that is about to record its intake. -/
def IntakeCommand.isStoring : IntakeCommand → Bool
  | start _ (.storing _) => true
  | _ => false

theorem recordsAlone_advance {app : IntakeApplication} {i : Nat} {signal : IntakeSignal} :
    RecordsAlone app (.advance i signal) ↔
      ((app.commands[i]?.any (·.isStoring)) = true → app.world.organizerIntake = none) := by
  constructor
  · intro h hstoring
    obtain ⟨command, hi, hcommand⟩ := (Option.any_eq_true _ _).mp hstoring
    cases command with
    | start requested phase =>
      cases phase with
      | storing running => exact h requested running hi
      | _ => cases hcommand
    | _ => cases hcommand
  · intro h requested running hi
    apply h
    rw [hi]
    rfl

instance (app : IntakeApplication) : DecidablePred (RecordsAlone app)
  | .advance _ _ => decidable_of_iff _ recordsAlone_advance.symm
  | .call _ => .isTrue trivial
  | .switches _ => .isTrue trivial
  | .exits _ => .isTrue trivial

instance (signal : IntakeSignal) (world : IntakeWorld) :
    DecidablePred (IntakeCommand.isCurrent signal world) := fun command ↦ by
  unfold IntakeCommand.isCurrent
  split <;> infer_instance

instance (app : IntakeApplication) : DecidablePred (IsCurrent app)
  | .advance i signal => inferInstanceAs (Decidable (∀ command ∈ app.commands[i]?,
      command.isCurrent signal app.world))
  | .switches session =>
    inferInstanceAs (Decidable ({ app.world with session := session } : IntakeWorld).Follows)
  | .call _ => .isTrue trivial
  | .exits _ => .isTrue trivial

/-- The application after a list of steps that are all permitted. -/
def IntakeApplication.stepsWithin (Permits : IntakeApplication → IntakeChoice → Prop)
    [∀ app, DecidablePred (Permits app)] (self : IntakeApplication) :
    List IntakeChoice → Option IntakeApplication
  | [] => some self
  | choice :: choices =>
    if Permits self choice then
      (self.step choice).bind fun next ↦ next.stepsWithin Permits choices
    else none

theorem IntakeRun.stepsWithin {Permits : IntakeApplication → IntakeChoice → Prop}
    [∀ app, DecidablePred (Permits app)] {session : Option ActiveElection}
    {app app' : IntakeApplication} {choices : List IntakeChoice}
    (run : IntakeRun Permits session app)
    (h : app.stepsWithin Permits choices = some app') : IntakeRun Permits session app' := by
  induction choices generalizing app with
  | nil =>
    cases h
    exact run
  | cons choice choices ih =>
    rw [IntakeApplication.stepsWithin] at h
    split at h
    · next hpermits =>
      obtain ⟨next, hstep, hrest⟩ := Option.bind_eq_some_iff.mp h
      exact ih (run.step choice hpermits hstep) hrest
    · cases h

namespace Sample

/-- The organizer's session, before voting opens. -/
def frozenElection : ActiveElection := ⟨.replicate 1, .frozen, true⟩

/-- The application as it comes up. -/
def idle : IntakeApplication := ⟨⟨some frozenElection, none, [], 0⟩, []⟩

/-- A successful step of the first command. -/
def round : IntakeChoice := .advance 0 ⟨true, true, none⟩

/-- So many steps of one command, all of them successful. -/
def rounds (command count : Nat) : List IntakeChoice :=
  List.replicate count (.advance command ⟨true, true, none⟩)

/-- Two starts; both find no intake before either records one. -/
def twoStarts : List IntakeChoice :=
  [IntakeChoice.call (.start .managedLocal), .call (.start .managedLocal)] ++ rounds 0 3 ++
    rounds 1 3 ++ rounds 0 7 ++ rounds 0 7

/-- A stop that has taken the intake of a start. -/
def stopping : List IntakeChoice :=
  [IntakeChoice.call (.start .managedLocal)] ++ rounds 0 10 ++ [IntakeChoice.call .stop] ++
    rounds 0 2

/-- Voting opens while a start is on its way. -/
def openedMeanwhile : List IntakeChoice :=
  [IntakeChoice.call (.start .managedLocal)] ++ rounds 0 9 ++
    [IntakeChoice.call (.advance .openVoting)] ++ rounds 1 6 ++ rounds 0 1

/-- The intake is started and voting opens; the worker ends by itself, and with a status call in
between the intake is started again in place of the dead one; voting closes. -/
def restarted : List IntakeChoice :=
  [IntakeChoice.call (.start .managedLocal)] ++ rounds 0 10 ++
    [IntakeChoice.call (.advance .openVoting)] ++ rounds 0 6 ++
    [IntakeChoice.exits (.worker 1), .call (.start .managedLocal), .call .status] ++ rounds 0 5 ++
    rounds 1 3 ++ rounds 0 7 ++ [IntakeChoice.call (.advance .closeVoting)] ++ rounds 0 7

/-- The same, and a stop that comes next to taking the intake. -/
def restartedThenTaking : List IntakeChoice :=
  restarted ++ [IntakeChoice.call .stop, round]

/-- The intake and the session of an application: their elections and what they show. -/
def shown (app : IntakeApplication) :
    Option (ManifestHash × ElectionLifecycleStateV1) ×
      Option (ManifestHash × ElectionLifecycleStateV1) :=
  (app.world.organizerIntake.map fun intake ↦ (intake.manifestHash, intake.lifecycleFence.state),
    app.world.session.map fun active ↦ (active.manifestHash, active.lifecycle))

theorem restarted_evaluated :
    ((idle.stepsWithin RecordsAlone restarted).map fun app ↦ (app.commands.length, shown app)) =
      some (0, some (.replicate 1, .closed), some (.replicate 1, .closed)) ∧
    ((idle.stepsWithin IsCurrent restarted).map fun app ↦ (app.commands.length, shown app)) =
      some (0, some (.replicate 1, .closed), some (.replicate 1, .closed)) := by
  constructor <;> decide +kernel

theorem taken_evaluated :
    ((idle.stepsWithin RecordsAlone restartedThenTaking).bind fun taking ↦
      (taking.step round).bind fun app₁ ↦ (app₁.steps (rounds 0 2)).map fun app₂ ↦
        (taking.commands, app₂.commands.any (·.isStop))) = some ([.stop .taking], false) := by
  decide +kernel

/-- What the other three lead to: the processes of two intakes with no command in progress, a child
that is the stop's, and a fence that shows FROZEN while voting is open. -/
theorem interleavings_evaluated :
    ((idle.stepsWithin (fun _ _ ↦ True) twoStarts).map fun app ↦ (app.commands.length,
      (app.world.alive.filter (·.isWorker)).length,
      decide (OwnedProcess.torChild 0 ∈ app.world.alive),
      app.world.organizerIntake.bind (·.torChild))) = some (0, 2, true, some 2) ∧
    ((idle.stepsWithin (fun _ _ ↦ True) stopping).map fun app ↦ (app.commands.any (·.isStart),
      decide (OwnedProcess.torChild 0 ∈ app.world.alive), app.world.organizerIntake.isSome)) =
        some (false, true, false) ∧
    ((idle.stepsWithin (fun _ _ ↦ True) openedMeanwhile).map fun app ↦
      (app.commands.length, shown app)) =
        some (0, some (.replicate 1, .frozen), some (.replicate 1, .opened)) := by
  decide +kernel

theorem reached {Permits : IntakeApplication → IntakeChoice → Prop}
    [∀ app, DecidablePred (Permits app)] {choices : List IntakeChoice} {app : IntakeApplication}
    (h : idle.stepsWithin Permits choices = some app) :
    IntakeRun Permits (some frozenElection) app :=
  IntakeRun.initial.stepsWithin h

end Sample

/-- An intake that is opened, dies, is started again and is closed: one worker is there behind it,
it follows the session by itself, and a stop leaves nothing. -/
theorem intake_follows_session_sample :
    (∃ app, Sample.idle.stepsWithin RecordsAlone Sample.restarted = some app ∧
      (app.world.alive.filter (·.isWorker)).length ≤ 1) ∧
    (∃ app, Sample.idle.stepsWithin IsCurrent Sample.restarted = some app ∧
      app.world.Follows) ∧
    ∃ taking app₁ app₂,
      Sample.idle.stepsWithin RecordsAlone Sample.restartedThenTaking = some taking ∧
      taking.step Sample.round = some app₁ ∧ app₁.steps (Sample.rounds 0 2) = some app₂ ∧
      app₂.world.alive = [] := by
  obtain ⟨halone, hcurrent⟩ := Sample.restarted_evaluated
  obtain ⟨app, hsteps, hfacts⟩ := Option.map_eq_some_iff.mp halone
  obtain ⟨app', hsteps', hfacts'⟩ := Option.map_eq_some_iff.mp hcurrent
  obtain ⟨taking, htaking, hrest⟩ := Option.bind_eq_some_iff.mp Sample.taken_evaluated
  obtain ⟨app₁, hstep, hrest⟩ := Option.bind_eq_some_iff.mp hrest
  obtain ⟨app₂, hsteps₂, hfacts₂⟩ := Option.map_eq_some_iff.mp hrest
  obtain ⟨hcommands, hstops⟩ := Prod.mk.inj hfacts₂
  obtain ⟨hworkers, -⟩ := (intake_follows_session _).1 app (Sample.reached hsteps)
  have hfollows := (intake_follows_session _).2 app' (Sample.reached hsteps')
  obtain ⟨-, -, hgone, -⟩ := (intake_follows_session _).1 taking (Sample.reached htaking)
  refine ⟨⟨app, hsteps, hworkers ?_⟩, ⟨app', hsteps', hfollows ?_⟩, taking, app₁, app₂, htaking,
    hstep, hsteps₂, hgone 0 _ (.stop .taking) app₁ (Sample.rounds 0 2) app₂ ?_ rfl ?_ hstep hsteps₂
      ?_ ?_⟩
  · exact List.length_eq_zero_iff.mp (Prod.mk.inj hfacts).1
  · exact List.length_eq_zero_iff.mp (Prod.mk.inj hfacts').1
  · rw [hcommands]
    rfl
  · rw [hcommands]
    decide
  · intro requested hcall
    cases List.eq_of_mem_replicate hcall
  · intro command hcommand
    exact Bool.eq_false_iff.mpr (List.any_eq_false.mp hstops command hcommand)

/-- Of two starts that overlap, the second leaves the Tor child of the first alive and unowned,
its worker beside its own; a stop owns the child it is about to end; and a start that voting has
overtaken leaves a fence that does not follow the session. -/
theorem not_one_intake_of_every_interleaving :
    (∃ app, IntakeRun (fun _ _ ↦ True) (some Sample.frozenElection) app ∧ app.commands = [] ∧
      1 < (app.world.alive.filter (·.isWorker)).length ∧
      ∃ child, OwnedProcess.torChild child ∈ app.world.alive ∧
        ∀ intake, app.world.organizerIntake = some intake → intake.torChild ≠ some child) ∧
    (∃ app, IntakeRun (fun _ _ ↦ True) (some Sample.frozenElection) app ∧
      (∀ command ∈ app.commands, command.isStart = false) ∧ app.world.organizerIntake = none ∧
      ∃ child, OwnedProcess.torChild child ∈ app.world.alive) ∧
    ∃ app, IntakeRun (fun _ _ ↦ True) (some Sample.frozenElection) app ∧ app.commands = [] ∧
      ¬ app.world.Follows := by
  obtain ⟨htwo, hstopping, hopened⟩ := Sample.interleavings_evaluated
  obtain ⟨two, hsteps, hfacts⟩ := Option.map_eq_some_iff.mp htwo
  obtain ⟨stopping, hsteps', hfacts'⟩ := Option.map_eq_some_iff.mp hstopping
  obtain ⟨opened, hsteps'', hfacts''⟩ := Option.map_eq_some_iff.mp hopened
  simp only [Sample.shown, Prod.mk.injEq, List.length_eq_zero_iff, decide_eq_true_eq]
    at hfacts hfacts' hfacts''
  obtain ⟨hidle, hworkers, hchild, hrecorded⟩ := hfacts
  obtain ⟨hstarts, hchild', hslot'⟩ := hfacts'
  obtain ⟨hidle'', hslot'', hsession''⟩ := hfacts''
  refine ⟨⟨two, Sample.reached hsteps, hidle, by omega, 0, hchild, ?_⟩,
    ⟨stopping, Sample.reached hsteps', ?_, Option.isNone_iff_eq_none.mp (by simpa using hslot'), 0,
      hchild'⟩,
    opened, Sample.reached hsteps'', hidle'', ?_⟩
  · intro intake hintake hsame
    rw [hintake, Option.bind_some, hsame] at hrecorded
    cases hrecorded
  · intro command hcommand
    rw [List.any_eq_false] at hstarts
    exact Bool.eq_false_iff.mpr (hstarts command hcommand)
  · intro hfollows
    obtain ⟨intake, hintake, hfence⟩ := Option.map_eq_some_iff.mp hslot''
    obtain ⟨active, hactive, hlifecycle⟩ := Option.map_eq_some_iff.mp hsession''
    obtain ⟨hhash, hstate⟩ := Prod.mk.inj hfence
    obtain ⟨hhash', hstate'⟩ := Prod.mk.inj hlifecycle
    have hequal := hfollows intake active hintake hactive (hhash.trans hhash'.symm)
    rw [hstate, hstate'] at hequal
    cases hequal

end PrivateBallot.Shell
