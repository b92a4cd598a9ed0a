import PrivateBallot.Base.Interleaving
import PrivateBallot.GuiCore.ElectionStatusKnowledge
import PrivateBallot.GuiCore.LifecycleFence

/-!
# Publication of the election status

Library `Shell`. `gui/src-tauri/src/organizer_tor_intake.rs:328-340`,
`gui/src-tauri/src/election_status_commands.rs:108-178`,
`gui/src-tauri/src/lib.rs:1652-1848` and
`crates/transport-gateway/src/service_loop.rs:183-213`: lifecycle commands and the status heartbeat
publish the lifecycle in the fence, the collector answers status requests from it, and the
organizer exports statements. The threads are interleaved at their lock and file operations.
-/

namespace PrivateBallot.Shell

open PrivateBallot.Base PrivateBallot.Protocol PrivateBallot.Ballot PrivateBallot.GuiCore

/-- What the threads share: the lifecycle of the active session, the fence, the file of the issued
generation with the temporary file beside it, and who holds the lock of the intake. -/
structure StatusCell where
  lifecycle : ElectionLifecycleStateV1
  fence : AuthoritativeLifecycleFenceV1
  issued : Option UInt64
  temporary : Option UInt64
  intakeGuard : Option Nat
  nextGuard : Nat
deriving DecidableEq

/-- The last generation that was issued. A missing file means that there was none. -/
def StatusCell.generation (cell : StatusCell) : UInt64 := cell.issued.getD 0

-- For statements about the steps: a publication reserves under its guard.
/-- What a generation is reserved for. -/
inductive ReservationPurpose where
  | exporting
  | publishing (guard : Nat)
deriving DecidableEq

/-- A generation that was reserved, with the lifecycle of the session at that moment. The program
knows only the generation; the lifecycle is kept for statements about the steps. -/
abbrev Reservation := UInt64 × ElectionLifecycleStateV1

/-- The steps of a thread. -/
inductive StatusOp where
  | lifecycle
  | advance (next : ElectionLifecycleStateV1)
  | lockIntake
  | unlockIntake (guard : Nat)
  | fenceState
  | readIssued
  | removeTemporary
  | createTemporary (generation : UInt64)
  | renameTemporary (purpose : ReservationPurpose) (read : UInt64)
  | observe (guard : Nat) (state : ElectionLifecycleStateV1) (reserved : Option Reservation)
  | signingLifecycle (reservedAt : ElectionLifecycleStateV1)
  | fenceGeneration (seen : ElectionLifecycleStateV1)

/-- What a step answers. `observe` returns nothing to its caller; here it shows the fence that it
leaves, and a rename that took effect shows the lifecycle of the session. -/
def StatusOp.Response : StatusOp → Type
  | lifecycle => ElectionLifecycleStateV1
  | advance _ => Bool
  | lockIntake => Nat
  | unlockIntake _ => Unit
  | fenceState => ElectionLifecycleStateV1
  | readIssued => GuiResult UInt64
  | removeTemporary => Unit
  | createTemporary _ => Bool
  | renameTemporary _ _ => Option ElectionLifecycleStateV1
  | observe _ _ _ => AuthoritativeLifecycleFenceV1
  | signingLifecycle _ => ElectionLifecycleStateV1
  | fenceGeneration _ => UInt64

/-- What a thread returns. -/
inductive StatusAnswer where
  | moved (done : Bool)
  | statement (signed : AuthenticatedElectionStatusStatementV1)
  | failed
deriving DecidableEq

abbrev StatusProgram := Program StatusOp.Response

/-! ### The calls -/

/-- `reserve_next_status_generation_v1`: the next generation is written ahead, by way of a
temporary file. -/
def reserveNextStatusGeneration (purpose : ReservationPurpose) :
    StatusProgram (GuiResult Reservation) :=
  .act .readIssued fun
    | .error e => .done (.error e)
    | .ok read =>
      if read.toNat + 1 = 2 ^ 64 then .done (.error statusMalformed)
      else .act .removeTemporary fun _ ↦ .act (.createTemporary (read + 1)) fun
        | false => .done (.error statusIoError)
        | true => .act (.renameTemporary purpose read) fun
          | some lifecycle => .done (.ok (read + 1, lifecycle))
          | none => .act .removeTemporary fun _ ↦ .done (.error statusIoError)

/-- The end of a publication; the lock of the intake is given back. -/
def observeAs (guard : Nat) (state : ElectionLifecycleStateV1) (reserved : Option Reservation) :
    StatusProgram Unit :=
  .act (.observe guard state reserved) fun _ ↦ .done ()

/-- `reconcile_intake_lifecycle`, under the lock of the intake. -/
def reconcileIntakeLifecycle (guard : Nat) (authoritative : ElectionLifecycleStateV1)
    (statusDir : Bool) : StatusProgram Unit :=
  .act .fenceState fun (state : ElectionLifecycleStateV1) ↦
    if state = authoritative then .act (.unlockIntake guard) fun _ ↦ .done ()
    else if statusDir then
      reserveNextStatusGeneration (.publishing guard) >>= fun reserved ↦
        observeAs guard authoritative reserved.toOption
    else observeAs guard authoritative none

/-- `publish_lifecycle_to_intake` with a running intake; the status directory may be missing. -/
def publishLifecycleToIntake (state : ElectionLifecycleStateV1) (statusDir : Bool) :
    StatusProgram Unit :=
  .act .lockIntake fun guard ↦ reconcileIntakeLifecycle guard state statusDir

/-- `open_voting`, `mark_verified` and `finalize_election`: the commit, then the publication. -/
def commitAndPublish (next : ElectionLifecycleStateV1) (statusDir : Bool) :
    StatusProgram StatusAnswer :=
  .act (.advance next) fun
    | false => .done (.moved false)
    | true => publishLifecycleToIntake next statusDir >>= fun _ ↦ .done (.moved true)

/-- The commit of `close_voting`. -/
def commitClose : StatusProgram StatusAnswer :=
  .act (.advance .closed) fun done ↦ .done (.moved done)

/-- `close_voting`: an open election is closed in the fence before the commit. -/
def closeVoting (statusDir : Bool) : StatusProgram StatusAnswer :=
  .act .lifecycle fun (state : ElectionLifecycleStateV1) ↦
    if state ≠ .opened then commitClose
    else publishLifecycleToIntake .closed statusDir >>= fun _ ↦ commitClose

/-- `organizer_tor_status`: the heartbeat publishes the lifecycle it has found. -/
def statusHeartbeat (statusDir : Bool) : StatusProgram StatusAnswer :=
  .act .lifecycle fun state ↦
    publishLifecycleToIntake state statusDir >>= fun _ ↦ .done (.moved false)

section Signing

variable (signer : StatusSigner)

/-- The statement, if it can be signed. -/
def signed (state : ElectionLifecycleStateV1) (generation : UInt64) : StatusAnswer :=
  match AuthenticatedElectionStatusStatementV1.signForTestOrCeremony signer state generation with
  | .ok statement => .statement statement
  | .error _ => .failed

/-- `ThreadSafeCollectorHandlerV1::handle_election_status`: state and generation are read under
one lock each. -/
def handleElectionStatus : StatusProgram StatusAnswer :=
  .act .fenceState fun state ↦
    .act (.fenceGeneration state) fun generation ↦ .done (signed signer state generation)

/-- `export_election_status_blocking`, with the session that was bound at its start. -/
def exportElectionStatus : StatusProgram StatusAnswer :=
  .act .lifecycle fun _ ↦
    reserveNextStatusGeneration .exporting >>= fun
      | .error _ => .done .failed
      | .ok (generation, reservedAt) =>
        .act (.signingLifecycle reservedAt) fun state ↦ .done (signed signer state generation)

end Signing

/-! ### Steps -/

/-- Whether the operating system lets a file operation succeed. -/
structure StatusSignal where
  succeeds : Bool

/-- The cell and its threads. A lock is given to one thread at a time, and the steps behind it are
made by the thread that has the guard. A call that is cut off leaves everything. -/
def statusSystem : System StatusOp.Response StatusSignal Unit Nat StatusCell where
  exec _
    | .lifecycle, _, cell => (cell.lifecycle, cell)
    | .advance next, _, cell =>
      if cell.lifecycle.rank < next.rank then (true, { cell with lifecycle := next })
      else (false, cell)
    | .lockIntake, _, cell =>
      (cell.nextGuard,
        { cell with intakeGuard := some cell.nextGuard, nextGuard := cell.nextGuard + 1 })
    | .unlockIntake _, _, cell => ((), { cell with intakeGuard := none })
    | .fenceState, _, cell => (cell.fence.state, cell)
    | .readIssued, signal, cell =>
      (if signal.succeeds then .ok cell.generation else .error statusIoError, cell)
    | .removeTemporary, signal, cell =>
      ((), if signal.succeeds then { cell with temporary := none } else cell)
    | .createTemporary generation, signal, cell =>
      if signal.succeeds = true ∧ cell.temporary = none then
        (true, { cell with temporary := some generation })
      else (false, cell)
    | .renameTemporary _ _, signal, cell =>
      match cell.temporary with
      | some generation =>
        if signal.succeeds then
          (some cell.lifecycle, { cell with issued := some generation, temporary := none })
        else (none, cell)
      | none => (none, cell)
    | .observe _ state reserved, _, cell =>
      (cell.fence.observe state (reserved.map Prod.fst),
        { cell with
          fence := cell.fence.observe state (reserved.map Prod.fst), intakeGuard := none })
    | .signingLifecycle _, _, cell => (cell.lifecycle, cell)
    | .fenceGeneration _, _, cell => (cell.fence.generation, cell)
  ready _
    | .lockIntake, cell => cell.intakeGuard = none
    | .unlockIntake guard, cell => cell.intakeGuard = some guard
    | .renameTemporary (.publishing guard) _, cell => cell.intakeGuard = some guard
    | .observe guard _ _, cell => cell.intakeGuard = some guard
    | _, _ => true
  restart _ _ cell := cell

/-- The calls. -/
inductive IsStatusCall (signer : StatusSigner) : Nat → StatusProgram StatusAnswer → Prop
  | commit (tag : Nat) (next : ElectionLifecycleStateV1) (statusDir : Bool) :
      IsStatusCall signer tag (commitAndPublish next statusDir)
  | close (tag : Nat) (statusDir : Bool) : IsStatusCall signer tag (closeVoting statusDir)
  | heartbeat (tag : Nat) (statusDir : Bool) : IsStatusCall signer tag (statusHeartbeat statusDir)
  | status (tag : Nat) : IsStatusCall signer tag (handleElectionStatus signer)
  | exporting (tag : Nat) : IsStatusCall signer tag (exportElectionStatus signer)

/-- An export takes a generation beyond the fence's while the fence is not ahead of the session, or
the fence's own for the same state. -/
def isReservable (cell : StatusCell) (generation : UInt64) : ReservationPurpose → Bool
  | .exporting =>
    cell.fence.generation < generation ∧ cell.fence.state.rank ≤ cell.lifecycle.rank ∨
      generation = cell.fence.generation ∧ cell.lifecycle = cell.fence.state
  | .publishing _ => true

/-- A new state of the fence gets a generation of its own. One that is reserved is beyond the
fence's, the session was not past the state at the reservation or nothing lies between, and if it
was still behind the state, nothing was reserved since. Without one the fence counts on, and the
counter is not ahead of it. -/
def isBeyond (cell : StatusCell) (state : ElectionLifecycleStateV1) : Option Reservation → Bool
  | some (generation, reservedAt) =>
    cell.fence.generation < generation ∧
      (reservedAt.rank ≤ state.rank ∨ generation = cell.fence.generation + 1) ∧
      (state.rank ≤ reservedAt.rank ∨ cell.generation = generation)
  | none =>
    cell.generation ≤ cell.fence.generation ∧ cell.fence.generation.toNat + 1 ≠ 2 ^ 64

/-- The fence shows the state already, or does not go back. -/
def isPublishable (cell : StatusCell) (state : ElectionLifecycleStateV1)
    (reserved : Option Reservation) : Bool :=
  cell.fence.state = state ∨
    cell.fence.state.rank ≤ state.rank ∧ isBeyond cell state reserved = true

/-- No step acts on what another thread has changed meanwhile: a reservation finds the counter it
has read and the temporary file it has written, an export signs the lifecycle it has reserved
for, a publication does not lead the fence back, a status request finds the state it has read. -/
def isCurrent (_tag : Nat) (op : StatusOp) (signal : StatusSignal) (cell : StatusCell) : Bool :=
  match op with
  | .renameTemporary purpose read =>
    !(cell.temporary.isSome && signal.succeeds) ||
      (decide (cell.generation = read ∧ cell.temporary = some (read + 1)) &&
        isReservable cell (read + 1) purpose)
  | .observe _ state reserved => isPublishable cell state reserved
  | .signingLifecycle reservedAt => cell.lifecycle = reservedAt
  | .fenceGeneration seen => cell.fence.state = seen
  | _ => true

/-! ### The invariant -/

abbrev StatusEvent := Event StatusOp.Response StatusAnswer Nat

/-- A generation and the state that goes with it. -/
abbrev Assertion := UInt64 × ElectionLifecycleStateV1

/-- What an event settles: the generation of an export goes with the lifecycle at its reservation,
that of a publication with the state of the fence. -/
def assertionOf : StatusEvent → Option Assertion
  | .performed _ ⟨.renameTemporary .exporting read, some lifecycle⟩ => some (read + 1, lifecycle)
  | .performed _ ⟨.observe _ _ _, fence⟩ => some (fence.generation, fence.state)
  | _ => none

/-- What was settled, beginning with the fence of the start. -/
def assertions (first : Assertion) (log : List StatusEvent) : List Assertion :=
  first :: log.filterMap assertionOf

/-- The state that an event leaves in the fence. -/
def fenceStateOf : StatusEvent → Option ElectionLifecycleStateV1
  | .performed _ ⟨.observe _ _ _, fence⟩ => some fence.state
  | _ => none

/-- The states of the fence in their order. -/
def fenceStates (first : ElectionLifecycleStateV1) (log : List StatusEvent) :
    List ElectionLifecycleStateV1 :=
  first :: log.filterMap fenceStateOf

/-- One generation has one state, and a larger one none that is earlier. -/
def Agree (a b : Assertion) : Prop :=
  (a.1 = b.1 → a.2 = b.2) ∧ (a.1 < b.1 → a.2.rank ≤ b.2.rank)

/-- A larger generation with no earlier state agrees. -/
theorem agree_of_lt {a b : Assertion} (hlt : a.1 < b.1) (hrank : a.2.rank ≤ b.2.rank) :
    Agree a b ∧ Agree b a :=
  ⟨⟨fun heq ↦ absurd heq (UInt64.ne_of_lt hlt), fun _ ↦ hrank⟩,
    fun heq ↦ absurd heq.symm (UInt64.ne_of_lt hlt),
    fun hgt ↦ absurd (UInt64.lt_trans hlt hgt) (UInt64.lt_irrefl _)⟩

/-- Everything that is asserted agrees, and the fence went forward. -/
structure Truthful (first : Assertion) (cell : StatusCell) (log : List StatusEvent) : Prop where
  numbered : ∀ guard, cell.intakeGuard = some guard → guard < cell.nextGuard
  agree : ∀ a ∈ assertions first log, ∀ b ∈ assertions first log, Agree a b
  bounded : ∀ a ∈ assertions first log,
    (a.1 ≤ cell.generation ∨ a.1 ≤ cell.fence.generation) ∧
    (a.2.rank ≤ cell.lifecycle.rank ∨ a.2.rank ≤ cell.fence.state.rank)
  fence : (cell.fence.generation, cell.fence.state) ∈ assertions first log
  forward : (fenceStates first.2 log).Pairwise fun a b ↦ a.rank ≤ b.rank
  reached : ∀ state ∈ fenceStates first.2 log, state.rank ≤ cell.fence.state.rank
  statements : ∀ tag statement, .returned tag (.statement statement) ∈ log →
    (statement.generation, statement.state) ∈ assertions first log

/-- What every step leaves to the other threads: counter, lifecycle and fence do not go back, and
while a guard is held only generations from the counter are settled, for no earlier lifecycle. -/
structure Continues (first : Assertion) (a b : StatusCell × List StatusEvent) : Prop where
  log : a.2 <+: b.2
  numbers : a.1.nextGuard ≤ b.1.nextGuard
  generation : a.1.generation ≤ b.1.generation
  lifecycle : a.1.lifecycle.rank ≤ b.1.lifecycle.rank
  fenceGeneration : a.1.fence.generation ≤ b.1.fence.generation
  fenceState : a.1.fence.state.rank ≤ b.1.fence.state.rank
  released : ∀ guard < a.1.nextGuard, a.1.intakeGuard ≠ some guard →
    b.1.intakeGuard ≠ some guard
  held : ∀ guard < a.1.nextGuard, a.1.intakeGuard = some guard → b.1.intakeGuard = some guard →
    ∀ assertion ∈ assertions first b.2, assertion ∈ assertions first a.2 ∨
      a.1.generation < assertion.1 ∧ assertion.1 ≤ b.1.generation ∧
        a.1.lifecycle.rank ≤ assertion.2.rank

section Invariant

variable {first : Assertion} {cell : StatusCell} {log : List StatusEvent}

theorem Continues.refl (a : StatusCell × List StatusEvent) : Continues first a a :=
  ⟨List.prefix_rfl, Nat.le_refl _, UInt64.le_refl _, Nat.le_refl _, UInt64.le_refl _,
    Nat.le_refl _, fun _ _ ↦ id, fun _ _ _ _ _ ↦ .inl⟩

theorem Continues.trans (a b c : StatusCell × List StatusEvent) (hab : Continues first a b)
    (hbc : Continues first b c) : Continues first a c := by
  constructor
  · exact hab.log.trans hbc.log
  · exact hab.numbers.trans hbc.numbers
  · exact UInt64.le_trans hab.generation hbc.generation
  · exact hab.lifecycle.trans hbc.lifecycle
  · exact UInt64.le_trans hab.fenceGeneration hbc.fenceGeneration
  · exact hab.fenceState.trans hbc.fenceState
  · intro guard hlt hne
    exact hbc.released guard (hlt.trans_le hab.numbers) (hab.released guard hlt hne)
  · intro guard hlt ha hc assertion hmem
    have hb : b.1.intakeGuard = some guard := by
      by_contra hne
      exact hbc.released guard (hlt.trans_le hab.numbers) hne hc
    rcases hbc.held guard (hlt.trans_le hab.numbers) hb hc assertion hmem with
      hold | ⟨hlt', hle, hrank⟩
    · rcases hab.held guard hlt ha hb assertion hold with hfirst | ⟨hlt', hle, hrank⟩
      · exact .inl hfirst
      · exact .inr ⟨hlt', UInt64.le_trans hle hbc.generation, hrank⟩
    · exact .inr ⟨UInt64.lt_of_le_of_lt hab.generation hlt', hle, hab.lifecycle.trans hrank⟩

/-- What was settled stays so. -/
theorem mem_assertions_of_prefix {earlier later : List StatusEvent} (h : earlier <+: later)
    {assertion : Assertion} (hmem : assertion ∈ assertions first earlier) :
    assertion ∈ assertions first later := by
  rcases List.mem_cons.mp hmem with hfirst | hold
  · exact List.mem_cons.mpr (.inl hfirst)
  · obtain ⟨event, hevent, hof⟩ := List.mem_filterMap.mp hold
    exact List.mem_cons_of_mem _ (List.mem_filterMap.mpr ⟨event, h.subset hevent, hof⟩)

theorem assertions_append_of_none (first : Assertion) (log : List StatusEvent)
    {event : StatusEvent} (h : assertionOf event = none) :
    assertions first (log ++ [event]) = assertions first log := by
  simp only [assertions, List.filterMap_append, List.filterMap_cons, h, List.filterMap_nil,
    List.append_nil]

theorem assertions_append_of_some (first : Assertion) (log : List StatusEvent)
    {event : StatusEvent} {assertion : Assertion}
    (h : assertionOf event = some assertion) :
    assertions first (log ++ [event]) = assertions first log ++ [assertion] := by
  simp only [assertions, List.filterMap_append, List.filterMap_cons, h, List.filterMap_nil,
    List.cons_append]

theorem fenceStates_append_of_none (state : ElectionLifecycleStateV1) (log : List StatusEvent)
    {event : StatusEvent}
    (h : fenceStateOf event = none) :
    fenceStates state (log ++ [event]) = fenceStates state log := by
  simp only [fenceStates, List.filterMap_append, List.filterMap_cons, h, List.filterMap_nil,
    List.append_nil]

namespace Truthful

/-- A step that settles nothing: the fence stays, counter and lifecycle do not go back. -/
theorem quiet (h : Truthful first cell log) (tag : Nat) (operation : Sigma StatusOp.Response)
    (cell' : StatusCell) (hassertion : assertionOf (.performed tag operation) = none)
    (hstate : fenceStateOf (.performed tag operation) = none)
    (hfence : cell'.fence = cell.fence) (hgeneration : cell.generation ≤ cell'.generation)
    (hlifecycle : cell.lifecycle.rank ≤ cell'.lifecycle.rank)
    (hnumbers : cell.nextGuard ≤ cell'.nextGuard)
    (hguard : ∀ guard, cell'.intakeGuard = some guard → guard < cell'.nextGuard ∧
      (cell.intakeGuard = some guard ∨ cell.nextGuard ≤ guard)) :
    Truthful first cell' (log ++ [Event.performed tag operation]) ∧
      Continues first (cell, log) (cell', log ++ [Event.performed tag operation]) := by
  have hlog := assertions_append_of_none first log hassertion
  have hstates := fenceStates_append_of_none first.2 log hstate
  constructor
  · refine ⟨fun guard hheld ↦ (hguard guard hheld).1, ?_, ?_, ?_, ?_, ?_, ?_⟩
    · rw [hlog]
      exact h.agree
    · rw [hlog, hfence]
      intro a ha
      obtain ⟨hle, hrank⟩ := h.bounded a ha
      exact ⟨hle.imp_left fun hle' ↦ UInt64.le_trans hle' hgeneration,
        hrank.imp_left fun hle' ↦ hle'.trans hlifecycle⟩
    · rw [hlog, hfence]
      exact h.fence
    · rw [hstates]
      exact h.forward
    · rw [hstates, hfence]
      exact h.reached
    · intro other statement hmem
      rw [hlog]
      rcases List.mem_append.mp hmem with hold | hnew
      · exact h.statements other statement hold
      · cases List.mem_singleton.mp hnew
  · refine ⟨List.prefix_append _ _, hnumbers, hgeneration, hlifecycle, ?_, ?_, ?_, ?_⟩
    · dsimp only
      rw [hfence]
      exact UInt64.le_refl _
    · dsimp only
      rw [hfence]
    · intro guard hlt hne hheld
      rcases (hguard guard hheld).2 with hsame | hnew
      · exact hne hsame
      · exact absurd hlt (Nat.not_lt.mpr hnew)
    · intro guard _ _ _ assertion hmem
      left
      rw [← hlog]
      exact hmem

/-- A step that changes nothing. -/
theorem look (h : Truthful first cell log) (tag : Nat) (operation : Sigma StatusOp.Response)
    (hassertion : assertionOf (.performed tag operation) = none)
    (hstate : fenceStateOf (.performed tag operation) = none) :
    Truthful first cell (log ++ [Event.performed tag operation]) ∧
      Continues first (cell, log) (cell, log ++ [Event.performed tag operation]) :=
  h.quiet tag operation cell hassertion hstate rfl (UInt64.le_refl _) (Nat.le_refl _)
    (Nat.le_refl _) fun guard hheld ↦ ⟨h.numbered guard hheld, .inl hheld⟩

/-- A step that settles one more generation, which agrees with all others. -/
theorem settles (h : Truthful first cell log) (tag : Nat) (operation : Sigma StatusOp.Response)
    {cell' : StatusCell} {assertion : Assertion}
    (hassertion : assertionOf (.performed tag operation) = some assertion)
    (hnew : ∀ a ∈ assertions first log, Agree a assertion ∧ Agree assertion a)
    (hnumbered : ∀ guard, cell'.intakeGuard = some guard → guard < cell'.nextGuard)
    (hcontinues : Continues first (cell, log) (cell', log ++ [Event.performed tag operation]))
    (hle : assertion.1 ≤ cell'.generation ∨ assertion.1 ≤ cell'.fence.generation)
    (hrank : assertion.2.rank ≤ cell'.lifecycle.rank ∨
      assertion.2.rank ≤ cell'.fence.state.rank)
    (hshown : (cell'.fence.generation, cell'.fence.state) ∈ assertions first log ++ [assertion])
    (hforward : (fenceStates first.2 (log ++ [Event.performed tag operation])).Pairwise
      fun a b ↦ a.rank ≤ b.rank)
    (hreached : ∀ state ∈ fenceStates first.2 (log ++ [Event.performed tag operation]),
      state.rank ≤ cell'.fence.state.rank) :
    Truthful first cell' (log ++ [Event.performed tag operation]) := by
  have hlog := assertions_append_of_some first log hassertion
  refine ⟨hnumbered, ?_, ?_, ?_, hforward, hreached, ?_⟩
  · rw [hlog]
    intro a ha b hb
    rcases List.mem_append.mp ha with holdA | hnewA
    · rcases List.mem_append.mp hb with holdB | hnewB
      · exact h.agree a holdA b holdB
      · rw [List.mem_singleton.mp hnewB]
        exact (hnew a holdA).1
    · rw [List.mem_singleton.mp hnewA]
      rcases List.mem_append.mp hb with holdB | hnewB
      · exact (hnew b holdB).2
      · rw [List.mem_singleton.mp hnewB]
        exact ⟨fun _ ↦ rfl, fun _ ↦ Nat.le_refl _⟩
  · rw [hlog]
    intro a ha
    rcases List.mem_append.mp ha with hold | hadded
    · obtain ⟨hbound, hranks⟩ := h.bounded a hold
      refine ⟨hbound.imp (fun hle' ↦ UInt64.le_trans hle' hcontinues.generation)
        fun hle' ↦ UInt64.le_trans hle' hcontinues.fenceGeneration, ?_⟩
      exact hranks.imp (fun hle' ↦ hle'.trans hcontinues.lifecycle)
        fun hle' ↦ hle'.trans hcontinues.fenceState
    · rw [List.mem_singleton.mp hadded]
      exact ⟨hle, hrank⟩
  · rw [hlog]
    exact hshown
  · intro other statement hmem
    rw [hlog]
    rcases List.mem_append.mp hmem with hold | hnew'
    · exact List.mem_append_left _ (h.statements other statement hold)
    · cases List.mem_singleton.mp hnew'

/-- What was settled up to the fence's generation is not ahead of the fence. -/
theorem rank_le_fence (h : Truthful first cell log) {a : Assertion} (ha : a ∈ assertions first log)
    (hle : a.1 ≤ cell.fence.generation) : a.2.rank ≤ cell.fence.state.rank := by
  obtain ⟨hsame, hless⟩ := h.agree a ha _ h.fence
  by_cases heq : a.1 = cell.fence.generation
  · exact Nat.le_of_eq (congrArg ElectionLifecycleStateV1.rank (hsame heq))
  · exact hless (UInt64.lt_of_le_of_ne hle heq)

/-- Returning. -/
theorem returned (h : Truthful first cell log) {tag : Nat} {value : StatusAnswer}
    (hvalue : ∀ statement, value = .statement statement →
      (statement.generation, statement.state) ∈ assertions first log) :
    Truthful first cell (log ++ [Event.returned tag value]) := by
  have hlog : assertions first (log ++ [Event.returned tag value]) = assertions first log :=
    assertions_append_of_none first log rfl
  have hstates :
      fenceStates first.2 (log ++ [Event.returned tag value]) = fenceStates first.2 log :=
    fenceStates_append_of_none first.2 log rfl
  refine ⟨h.numbered, ?_, ?_, ?_, ?_, ?_, ?_⟩
  · rw [hlog]
    exact h.agree
  · rw [hlog]
    exact h.bounded
  · rw [hlog]
    exact h.fence
  · rw [hstates]
    exact h.forward
  · rw [hstates]
    exact h.reached
  · intro other statement hmem
    rw [hlog]
    rcases List.mem_append.mp hmem with hold | hnew
    · exact h.statements other statement hold
    · cases List.mem_singleton.mp hnew
      exact hvalue statement rfl

end Truthful

end Invariant

/-! ### Threads -/

section Threads

variable {first : Assertion} {tag guard : Nat} {β : Type}
  {Q : β → StatusCell × List StatusEvent → Prop} {world : StatusCell × List StatusEvent}

/-- The thread keeps everything truthful and ends in `Q`. -/
def Keeping (first : Assertion) (tag : Nat) {β : Type}
    (Q : β → StatusCell × List StatusEvent → Prop) (program : StatusProgram β)
    (world : StatusCell × List StatusEvent) : Prop :=
  statusSystem.Keeps (fun tag op signal cell ↦ isCurrent tag op signal cell = true)
    (Truthful first) (Continues first) tag Q program world

/-- One step that is known to keep everything truthful. -/
theorem Keeping.act {op : StatusOp} {next : op.Response → StatusProgram β}
    (h : ∀ cell log signal, Continues first world (cell, log) → Truthful first cell log →
      statusSystem.ready tag op cell = true → isCurrent tag op signal cell = true →
      (Truthful first (statusSystem.exec tag op signal cell).2
          (log ++ [Event.performed tag ⟨op, (statusSystem.exec tag op signal cell).1⟩]) ∧
        Continues first (cell, log) ((statusSystem.exec tag op signal cell).2,
          log ++ [Event.performed tag ⟨op, (statusSystem.exec tag op signal cell).1⟩])) ∧
      Keeping first tag Q (next (statusSystem.exec tag op signal cell).1)
        ((statusSystem.exec tag op signal cell).2,
          log ++ [Event.performed tag ⟨op, (statusSystem.exec tag op signal cell).1⟩])) :
    Keeping first tag Q (.act op next) world := by
  intro cell log signal hworld htruthful hready hcurrent
  obtain ⟨⟨hnext, hcontinues⟩, hrest⟩ := h cell log signal hworld htruthful hready hcurrent
  exact ⟨hnext, hcontinues, hrest⟩

/-- A step that only looks. -/
theorem Keeping.looks {op : StatusOp} {next : op.Response → StatusProgram β}
    (hexec : ∀ signal cell, (statusSystem.exec tag op signal cell).2 = cell)
    (hassertion : ∀ response, assertionOf (.performed tag ⟨op, response⟩) = none)
    (hstate : ∀ response, fenceStateOf (.performed tag ⟨op, response⟩) = none)
    (h : ∀ cell log signal, Continues first world (cell, log) → Truthful first cell log →
      isCurrent tag op signal cell = true →
      Keeping first tag Q (next (statusSystem.exec tag op signal cell).1)
        (cell, log ++ [Event.performed tag ⟨op, (statusSystem.exec tag op signal cell).1⟩])) :
    Keeping first tag Q (.act op next) world := by
  apply Keeping.act
  intro cell log signal hworld htruthful _ hcurrent
  have hlook := htruthful.look tag ⟨op, (statusSystem.exec tag op signal cell).1⟩
    (hassertion _) (hstate _)
  have hnext := h cell log signal hworld htruthful hcurrent
  rw [hexec]
  exact ⟨hlook, hnext⟩

/-! #### Reservations -/

/-- How a settled generation lies to one that is reserved for a publication: before it, for no
state beyond the session's then or the fence's; up to the fence's; or taken since, for no earlier
lifecycle. -/
def IsApart (cell : StatusCell) (reservation : Reservation) (assertion : Assertion) : Prop :=
  assertion.1 < reservation.1 ∧ (assertion.2.rank ≤ reservation.2.rank ∨
      assertion.2.rank ≤ cell.fence.state.rank) ∨
    assertion.1 ≤ cell.fence.generation ∨
    reservation.1 < assertion.1 ∧ assertion.1 ≤ cell.generation ∧
      reservation.2.rank ≤ assertion.2.rank

/-- What a publication knows of its reservation while it has the guard. -/
structure HoldsReservation (first : Assertion) (guard : Nat) (reservation : Reservation)
    (world : StatusCell × List StatusEvent) : Prop where
  numbered : guard < world.1.nextGuard
  held : world.1.intakeGuard = some guard
  issued : reservation.1 ≤ world.1.generation
  reached : reservation.2.rank ≤ world.1.lifecycle.rank
  apart : ∀ assertion ∈ assertions first world.2, IsApart world.1 reservation assertion

/-- What a thread knows of the generation it has reserved: that of an export is settled. -/
def Reserved (first : Assertion) (purpose : ReservationPurpose) (reservation : Reservation)
    (world : StatusCell × List StatusEvent) : Prop :=
  match purpose with
  | .exporting => reservation ∈ assertions first world.2
  | .publishing guard => HoldsReservation first guard reservation world

/-- What the thread has to know before: a publication has its guard. -/
def MayReserve (purpose : ReservationPurpose) (world : StatusCell × List StatusEvent) : Prop :=
  match purpose with
  | .exporting => True
  | .publishing guard => guard < world.1.nextGuard

theorem MayReserve.continues {purpose : ReservationPurpose}
    {later : StatusCell × List StatusEvent} (h : MayReserve purpose world)
    (hcontinues : Continues first world later) : MayReserve purpose later := by
  cases purpose with
  | exporting => trivial
  | publishing guard => exact Nat.lt_of_lt_of_le h hcontinues.numbers

private theorem lt_succ {read : UInt64} (h : read.toNat + 1 ≠ 2 ^ 64) : read < read + 1 := by
  have hlt := read.toNat_lt
  have hone : (1 : UInt64).toNat = 1 := rfl
  rw [UInt64.lt_iff_toNat_lt, UInt64.toNat_add, hone]
  omega

-- What lies below a successor is not beyond the number itself, also where that wraps.
private theorem le_of_lt_succ {a b : UInt64} (h : a < b + 1) : a ≤ b := by
  have hone : (1 : UInt64).toNat = 1 := rfl
  rw [UInt64.lt_iff_toNat_lt, UInt64.toNat_add, hone] at h
  rw [UInt64.le_iff_toNat_le]
  omega

/-- A generation that an export may take agrees with all others. -/
theorem Truthful.agree_reservable {cell : StatusCell} {log : List StatusEvent}
    (h : Truthful first cell log) {generation : UInt64} (hbeyond : cell.generation < generation)
    (hreservable : isReservable cell generation .exporting = true) :
    ∀ a ∈ assertions first log,
      Agree a (generation, cell.lifecycle) ∧ Agree (generation, cell.lifecycle) a := by
  intro a ha
  rcases of_decide_eq_true hreservable with ⟨hlt, hfence⟩ | ⟨hsame, hstate⟩
  · obtain ⟨hle, hrank⟩ := h.bounded a ha
    apply agree_of_lt
    · exact hle.elim (fun hle' ↦ UInt64.lt_of_le_of_lt hle' hbeyond)
        fun hle' ↦ UInt64.lt_of_le_of_lt hle' hlt
    · exact hrank.elim id fun hle' ↦ hle'.trans hfence
  · -- it is the generation of the fence, which is settled
    rw [hsame, hstate]
    exact ⟨h.agree a ha _ h.fence, h.agree _ h.fence a ha⟩

/-- What an export that takes a generation from the counter leaves to the others. -/
theorem Continues.reserves {cell : StatusCell} {log : List StatusEvent} {event : StatusEvent}
    {generation : UInt64}
    (hbeyond : cell.generation < generation)
    (hlog : assertions first (log ++ [event]) =
      assertions first log ++ [(generation, cell.lifecycle)]) :
    Continues first (cell, log)
      ({ cell with issued := some generation, temporary := none }, log ++ [event]) := by
  refine ⟨List.prefix_append _ _, Nat.le_refl _, UInt64.le_of_lt hbeyond, Nat.le_refl _,
    UInt64.le_refl _, Nat.le_refl _, fun _ _ ↦ id, ?_⟩
  intro guard _ _ _ assertion hmem
  rw [show assertions first (_, log ++ [event]).2 = _ from hlog] at hmem
  rcases List.mem_append.mp hmem with hold | hnew
  · exact .inl hold
  · rw [List.mem_singleton.mp hnew]
    exact .inr ⟨hbeyond, UInt64.le_refl _, Nat.le_refl _⟩

/-- A rename takes effect, or leaves everything. -/
theorem exec_renameTemporary (tag : Nat) (purpose : ReservationPurpose) (read : UInt64)
    (signal : StatusSignal) (cell : StatusCell) :
    (∃ generation, cell.temporary = some generation ∧ signal.succeeds = true ∧
      statusSystem.exec tag (.renameTemporary purpose read) signal cell =
        (some cell.lifecycle, { cell with issued := some generation, temporary := none })) ∨
    statusSystem.exec tag (.renameTemporary purpose read) signal cell = (none, cell) := by
  simp only [statusSystem]
  cases htemporary : cell.temporary with
  | none => exact .inr rfl
  | some generation =>
    cases hsucceeds : signal.succeeds with
    | false => exact .inr rfl
    | true => exact .inl ⟨generation, rfl, rfl, rfl⟩

/-- The rename of an export settles its generation. -/
theorem truthful_rename_exporting {cell : StatusCell} {log : List StatusEvent} {read : UInt64}
    (h : Truthful first cell log) (hbeyond : cell.generation < read + 1)
    (hreservable : isReservable cell (read + 1) .exporting = true) :
    let event := Event.performed tag ⟨.renameTemporary .exporting read, some cell.lifecycle⟩
    let cell' := { cell with issued := some (read + 1), temporary := none }
    (Truthful first cell' (log ++ [event]) ∧
      Continues first (cell, log) (cell', log ++ [event])) ∧
    (read + 1, cell.lifecycle) ∈ assertions first (log ++ [event]) := by
  intro event cell'
  have hassertion : assertionOf event = some (read + 1, cell.lifecycle) := rfl
  have hstates : fenceStates first.2 (log ++ [event]) = fenceStates first.2 log :=
    fenceStates_append_of_none first.2 log rfl
  have hlog := assertions_append_of_some first log hassertion
  have hcontinues := Continues.reserves hbeyond hlog
  refine ⟨⟨?_, hcontinues⟩, ?_⟩
  · refine h.settles tag _ hassertion (h.agree_reservable hbeyond hreservable) ?_ hcontinues
      ?_ ?_ ?_ ?_ ?_
    · exact h.numbered
    · exact .inl (UInt64.le_refl _)
    · exact .inl (Nat.le_refl _)
    · exact List.mem_append_left _ h.fence
    · rw [hstates]
      exact h.forward
    · rw [hstates]
      exact h.reached
  · rw [hlog]
    exact List.mem_append_right _ (List.mem_singleton.mpr rfl)

/-- The rename of a publication settles nothing; its generation is held under the guard. -/
theorem truthful_rename_publishing {cell : StatusCell} {log : List StatusEvent} {read : UInt64}
    {guard : Nat} (h : Truthful first cell log) (hmay : MayReserve (.publishing guard) (cell, log))
    (hheld : cell.intakeGuard = some guard) (hbeyond : cell.generation < read + 1) :
    let event :=
      Event.performed tag ⟨.renameTemporary (.publishing guard) read, some cell.lifecycle⟩
    let cell' := { cell with issued := some (read + 1), temporary := none }
    (Truthful first cell' (log ++ [event]) ∧
      Continues first (cell, log) (cell', log ++ [event])) ∧
    Reserved first (.publishing guard) (read + 1, cell.lifecycle) (cell', log ++ [event]) := by
  intro event cell'
  have hlog : assertions first (log ++ [event]) = assertions first log :=
    assertions_append_of_none first log rfl
  refine ⟨h.quiet tag ⟨.renameTemporary (.publishing guard) read, some cell.lifecycle⟩ cell'
    rfl rfl rfl (UInt64.le_of_lt hbeyond) (Nat.le_refl _) (Nat.le_refl _)
    fun guard hheld ↦ ⟨h.numbered guard hheld, .inl hheld⟩, ?_⟩
  refine ⟨hmay, hheld, UInt64.le_refl _, Nat.le_refl _, ?_⟩
  intro assertion hmem
  rw [show assertions first (cell', log ++ [event]).2 = _ from hlog] at hmem
  obtain ⟨hle, hrank⟩ := h.bounded assertion hmem
  rcases hle with hle | hle
  · exact .inl ⟨UInt64.lt_of_le_of_lt hle hbeyond, hrank⟩
  · exact .inr (.inl hle)

/-- The rename of a reservation. -/
theorem truthful_rename {cell : StatusCell} {log : List StatusEvent} {signal : StatusSignal}
    {purpose : ReservationPurpose} {read : UInt64} (hread : read.toNat + 1 ≠ 2 ^ 64)
    (h : Truthful first cell log) (hmay : MayReserve purpose (cell, log))
    (hready : statusSystem.ready tag (.renameTemporary purpose read) cell = true)
    (hcurrent : isCurrent tag (.renameTemporary purpose read) signal cell = true) :
    let (response, cell') := statusSystem.exec tag (.renameTemporary purpose read) signal cell
    (Truthful first cell' (log ++ [Event.performed tag ⟨.renameTemporary purpose read, response⟩]) ∧
      Continues first (cell, log)
        (cell', log ++ [Event.performed tag ⟨.renameTemporary purpose read, response⟩])) ∧
    (∀ lifecycle, response = some lifecycle → Reserved first purpose (read + 1, lifecycle)
      (cell', log ++ [Event.performed tag ⟨.renameTemporary purpose read, response⟩])) := by
  rcases exec_renameTemporary tag purpose read signal cell with
    ⟨generation, htemporary, hsucceeds, hexec⟩ | hexec
  · simp only [isCurrent, htemporary, hsucceeds, Option.isSome_some, Bool.and_true, Bool.not_true,
      Bool.false_or, Bool.and_eq_true, decide_eq_true_eq, Option.some.injEq] at hcurrent
    obtain ⟨⟨hcounter, rfl⟩, hreservable⟩ := hcurrent
    rw [hexec]
    have hbeyond : cell.generation < read + 1 := by
      rw [hcounter]
      exact lt_succ hread
    cases purpose with
    | exporting =>
      obtain ⟨hkept, hsettled⟩ := truthful_rename_exporting h hbeyond hreservable
      refine ⟨hkept, ?_⟩
      rintro lifecycle ⟨⟩
      exact hsettled
    | publishing guard =>
      obtain ⟨hkept, hreserved⟩ :=
        truthful_rename_publishing h hmay (of_decide_eq_true hready) hbeyond
      refine ⟨hkept, ?_⟩
      rintro lifecycle ⟨⟩
      exact hreserved
  · rw [hexec]
    refine ⟨h.look tag ⟨.renameTemporary purpose read, none⟩ ?_ rfl, fun _ hnone ↦ by cases hnone⟩
    cases purpose with
    | exporting => rfl
    | publishing guard => rfl

/-- A step on the temporary file. -/
theorem truthful_temporary {cell : StatusCell} {log : List StatusEvent}
    (h : Truthful first cell log) (operation : Sigma StatusOp.Response) (temporary : Option UInt64)
    (hassertion : assertionOf (.performed tag operation) = none)
    (hstate : fenceStateOf (.performed tag operation) = none) :
    Truthful first { cell with temporary } (log ++ [Event.performed tag operation]) ∧
      Continues first (cell, log)
        ({ cell with temporary }, log ++ [Event.performed tag operation]) :=
  h.quiet tag operation { cell with temporary } hassertion hstate rfl (UInt64.le_refl _)
    (Nat.le_refl _) (Nat.le_refl _) fun guard hheld ↦ ⟨h.numbered guard hheld, .inl hheld⟩

theorem keeping_removeTemporary {next : Unit → StatusProgram β}
    (h : ∀ later, Continues first world later → Keeping first tag Q (next ()) later) :
    Keeping first tag Q (.act .removeTemporary next) world := by
  apply Keeping.act
  intro cell log signal hworld htruthful _ _
  have hstep : Truthful first (statusSystem.exec tag .removeTemporary signal cell).2
        (log ++ [Event.performed tag ⟨.removeTemporary, ()⟩]) ∧
      Continues first (cell, log) ((statusSystem.exec tag .removeTemporary signal cell).2,
        log ++ [Event.performed tag ⟨.removeTemporary, ()⟩]) := by
    simp only [statusSystem]
    split
    · exact truthful_temporary htruthful _ none rfl rfl
    · exact htruthful.look tag _ rfl rfl
  exact ⟨hstep, h _ (Continues.trans _ _ _ hworld hstep.2)⟩

/-- A reservation. -/
theorem keeping_reserve {Q : GuiResult Reservation → StatusCell × List StatusEvent → Prop}
    {purpose : ReservationPurpose} (hmay : MayReserve purpose world)
    (herror : ∀ e later, Continues first world later → Q (.error e) later)
    (hok : ∀ reservation later, Continues first world later →
      Reserved first purpose reservation later → Q (.ok reservation) later) :
    Keeping first tag Q (reserveNextStatusGeneration purpose) world := by
  apply Keeping.looks (fun _ _ ↦ rfl) (fun _ ↦ rfl) (fun _ ↦ rfl)
  intro cell log signal hworld htruthful _
  have hlook := htruthful.look tag ⟨.readIssued, (statusSystem.exec tag .readIssued signal cell).1⟩
    rfl rfl
  have hthere := Continues.trans _ _ _ hworld hlook.2
  generalize (statusSystem.exec tag .readIssued signal cell).1 = result at hthere ⊢
  cases result with
  | error e => exact herror _ _ hthere
  | ok read =>
    dsimp only
    by_cases hread : read.toNat + 1 = 2 ^ 64
    · rw [if_pos hread]
      exact herror _ _ hthere
    · rw [if_neg hread]
      apply keeping_removeTemporary
      intro later hlater
      have hthere := Continues.trans _ _ _ hthere hlater
      apply Keeping.act
      intro cell' log' signal' hworld' htruthful' _ _
      have hcreated : Truthful first
            (statusSystem.exec tag (.createTemporary (read + 1)) signal' cell').2
            (log' ++ [Event.performed tag ⟨.createTemporary (read + 1),
              (statusSystem.exec tag (.createTemporary (read + 1)) signal' cell').1⟩]) ∧
          Continues first (cell', log')
            ((statusSystem.exec tag (.createTemporary (read + 1)) signal' cell').2,
              log' ++ [Event.performed tag ⟨.createTemporary (read + 1),
                (statusSystem.exec tag (.createTemporary (read + 1)) signal'
                  cell').1⟩]) := by
        simp only [statusSystem]
        split
        · exact truthful_temporary htruthful' _ (some (read + 1)) rfl rfl
        · exact htruthful'.look tag _ rfl rfl
      refine ⟨hcreated, ?_⟩
      have hthere := Continues.trans _ _ _ hthere (Continues.trans _ _ _ hworld' hcreated.2)
      generalize (statusSystem.exec tag (.createTemporary (read + 1)) signal' cell').1 =
        created at hthere ⊢
      cases created with
      | false => exact herror _ _ hthere
      | true =>
        apply Keeping.act
        intro cell'' log'' signal'' hworld'' htruthful'' hready hcurrent
        have hthere := Continues.trans _ _ _ hthere hworld''
        have hrename := truthful_rename hread htruthful'' (hmay.continues hthere) hready hcurrent
        generalize statusSystem.exec tag (.renameTemporary purpose read) signal'' cell'' =
          result at hrename ⊢
        obtain ⟨renamed, after⟩ := result
        obtain ⟨hstep, hreserved⟩ := hrename
        refine ⟨hstep, ?_⟩
        have hthere := Continues.trans _ _ _ hthere hstep.2
        cases renamed with
        | none =>
          apply keeping_removeTemporary
          intro later' hlater'
          exact herror _ _ (Continues.trans _ _ _ hthere hlater')
        | some lifecycle => exact hok _ _ hthere (hreserved lifecycle rfl)

/-! #### Publications -/

/-- Publishing what the fence shows settles it once more. -/
theorem Truthful.observesSame {cell : StatusCell} {log : List StatusEvent}
    (h : Truthful first cell log) (state : ElectionLifecycleStateV1)
    (reserved : Option Reservation) :
    Truthful first { cell with intakeGuard := none }
      (log ++ [Event.performed tag ⟨.observe guard state reserved, cell.fence⟩]) := by
  have hlog : assertions first
      (log ++ [Event.performed tag ⟨.observe guard state reserved, cell.fence⟩]) =
        assertions first log ++ [(cell.fence.generation, cell.fence.state)] :=
    assertions_append_of_some first log rfl
  have hstates : fenceStates first.2
      (log ++ [Event.performed tag ⟨.observe guard state reserved, cell.fence⟩]) =
        fenceStates first.2 log ++ [cell.fence.state] := by
    simp only [fenceStates, List.filterMap_append, List.filterMap_cons, fenceStateOf,
      List.filterMap_nil, List.cons_append]
  have hback : ∀ assertion ∈ assertions first log ++ [(cell.fence.generation, cell.fence.state)],
      assertion ∈ assertions first log := by
    intro assertion hmem
    rcases List.mem_append.mp hmem with hold | hnew
    · exact hold
    · rw [List.mem_singleton.mp hnew]
      exact h.fence
  refine ⟨?_, ?_, ?_, ?_, ?_, ?_, ?_⟩
  · intro guard hheld
    cases hheld
  · rw [hlog]
    intro a ha b hb
    exact h.agree a (hback a ha) b (hback b hb)
  · rw [hlog]
    intro a ha
    exact h.bounded a (hback a ha)
  · rw [hlog]
    exact List.mem_append_left _ h.fence
  · rw [hstates, List.pairwise_append]
    refine ⟨h.forward, List.pairwise_singleton _ _, ?_⟩
    intro earlier hearlier later hlater
    rw [List.mem_singleton.mp hlater]
    exact h.reached earlier hearlier
  · rw [hstates]
    intro state hmem
    rcases List.mem_append.mp hmem with hold | hnew
    · exact h.reached state hold
    · rw [List.mem_singleton.mp hnew]
  · intro other statement hmem
    rw [hlog]
    rcases List.mem_append.mp hmem with hold | hnew
    · exact List.mem_append_left _ (h.statements other statement hold)
    · cases List.mem_singleton.mp hnew

/-- What a publication leaves to the others: it gives the guard back. -/
theorem Continues.observes {cell : StatusCell} {log : List StatusEvent} {event : StatusEvent}
    {fence : AuthoritativeLifecycleFenceV1} (hgeneration : cell.fence.generation ≤ fence.generation)
    (hstate : cell.fence.state.rank ≤ fence.state.rank) :
    Continues first (cell, log) ({ cell with fence, intakeGuard := none }, log ++ [event]) := by
  refine ⟨List.prefix_append _ _, Nat.le_refl _, UInt64.le_refl _, Nat.le_refl _, hgeneration,
    hstate, ?_, ?_⟩
  · intro _ _ _ hnone
    cases hnone
  · intro _ _ _ hnone
    cases hnone

/-- A state that does not lead the fence back is published with a larger generation that agrees
with all others. -/
theorem Truthful.observesNext {cell : StatusCell} {log : List StatusEvent}
    (h : Truthful first cell log) {state : ElectionLifecycleStateV1} {generation : UInt64}
    (reserved : Option Reservation)
    (hnew : ∀ a ∈ assertions first log,
      Agree a (generation, state) ∧ Agree (generation, state) a)
    (hgeneration : cell.fence.generation ≤ generation)
    (hfence : cell.fence.state.rank ≤ state.rank) :
    Truthful first { cell with fence := ⟨state, generation⟩, intakeGuard := none }
      (log ++ [Event.performed tag ⟨.observe guard state reserved, ⟨state, generation⟩⟩]) := by
  have hstates : fenceStates first.2 (log ++ [Event.performed tag
      ⟨.observe guard state reserved, ⟨state, generation⟩⟩]) =
        fenceStates first.2 log ++ [state] := by
    simp only [fenceStates, List.filterMap_append, List.filterMap_cons, fenceStateOf,
      List.filterMap_nil, List.cons_append]
  have hassertion : assertionOf (.performed tag ⟨.observe guard state reserved,
      ⟨state, generation⟩⟩) = some (generation, state) := rfl
  apply h.settles tag _ hassertion hnew
  · intro guard hheld
    cases hheld
  · exact Continues.observes hgeneration hfence
  · exact .inr (UInt64.le_refl _)
  · exact .inr (Nat.le_refl _)
  · exact List.mem_append_right _ (List.mem_singleton.mpr rfl)
  · rw [hstates, List.pairwise_append]
    refine ⟨h.forward, List.pairwise_singleton _ _, ?_⟩
    intro earlier hearlier later hlater
    rw [List.mem_singleton.mp hlater]
    exact (h.reached earlier hearlier).trans hfence
  · rw [hstates]
    intro later hmem
    rcases List.mem_append.mp hmem with hold | hlast
    · exact (h.reached later hold).trans hfence
    · rw [List.mem_singleton.mp hlast]

/-- What a publication knows of its reservation stays true while it has the guard. -/
theorem HoldsReservation.continues {reservation : Reservation} {cell : StatusCell}
    {log : List StatusEvent} (h : HoldsReservation first guard reservation world)
    (hcontinues : Continues first world (cell, log)) (hheld : cell.intakeGuard = some guard) :
    HoldsReservation first guard reservation (cell, log) := by
  refine ⟨h.numbered.trans_le hcontinues.numbers, hheld,
    UInt64.le_trans h.issued hcontinues.generation, h.reached.trans hcontinues.lifecycle, ?_⟩
  intro assertion hmem
  rcases hcontinues.held guard h.numbered h.held hheld assertion hmem with
    hold | ⟨hlt, hle, hrank⟩
  · rcases h.apart assertion hold with ⟨hlt, hrank⟩ | hle | ⟨hlt, hle, hrank⟩
    · exact .inl ⟨hlt, hrank.imp_right fun hle ↦ hle.trans hcontinues.fenceState⟩
    · exact .inr (.inl (UInt64.le_trans hle hcontinues.fenceGeneration))
    · exact .inr (.inr ⟨hlt, UInt64.le_trans hle hcontinues.generation, hrank⟩)
  · exact .inr (.inr ⟨UInt64.lt_of_le_of_lt h.issued hlt, hle, h.reached.trans hrank⟩)

/-- A reservation that is beyond the fence agrees with everything settled. -/
theorem HoldsReservation.agree {reservation : Reservation} {cell : StatusCell}
    {log : List StatusEvent} (h : HoldsReservation first guard reservation (cell, log))
    (htruthful : Truthful first cell log) {state : ElectionLifecycleStateV1}
    (hfence : cell.fence.state.rank ≤ state.rank)
    (hbeyond : isBeyond cell state (some reservation) = true) :
    ∀ a ∈ assertions first log, Agree a (reservation.1, state) ∧
      Agree (reservation.1, state) a := by
  obtain ⟨hgeneration, hbefore, hbehind⟩ := of_decide_eq_true hbeyond
  intro a ha
  by_cases hle : a.1 ≤ cell.fence.generation
  · exact agree_of_lt (UInt64.lt_of_le_of_lt hle hgeneration)
      ((htruthful.rank_le_fence ha hle).trans hfence)
  · rcases h.apart a ha with ⟨hlt, hrank⟩ | hle' | ⟨hlt, hlast, hrank⟩
    · refine agree_of_lt (b := (reservation.1, state)) hlt ?_
      rcases hbefore with hreserved | hnext
      · exact hrank.elim (fun hle' ↦ hle'.trans hreserved) fun hle' ↦ hle'.trans hfence
      · -- nothing lies between the fence's generation and the next one
        rw [hnext] at hlt
        exact absurd (le_of_lt_succ hlt) hle
    · exact absurd hle' hle
    · refine (agree_of_lt (a := (reservation.1, state)) hlt ?_).symm
      rcases hbehind with hreserved | hissued
      · exact hreserved.trans hrank
      · rw [show cell.generation = reservation.1 from hissued] at hlast
        exact absurd (UInt64.lt_of_lt_of_le hlt hlast) (UInt64.lt_irrefl _)

/-- Without a reservation the fence's next generation agrees with everything settled, where
nothing that was issued is beyond the fence's. -/
theorem Truthful.agree_succ {cell : StatusCell} {log : List StatusEvent}
    (h : Truthful first cell log) {state : ElectionLifecycleStateV1}
    (hfence : cell.fence.state.rank ≤ state.rank)
    (hissued : cell.generation ≤ cell.fence.generation)
    (hmax : cell.fence.generation.toNat + 1 ≠ 2 ^ 64) :
    ∀ a ∈ assertions first log, Agree a (cell.fence.generation + 1, state) ∧
      Agree (cell.fence.generation + 1, state) a := by
  intro a ha
  have hle : a.1 ≤ cell.fence.generation :=
    (h.bounded a ha).1.elim (fun hle ↦ UInt64.le_trans hle hissued) id
  exact agree_of_lt (UInt64.lt_of_le_of_lt hle (lt_succ hmax))
    ((h.rank_le_fence ha hle).trans hfence)

theorem keeping_observe {Q : Unit → StatusCell × List StatusEvent → Prop}
    (hQ : ∀ later, Q () later) {state : ElectionLifecycleStateV1} {reserved : Option Reservation}
    (hreserved : ∀ reservation, reserved = some reservation →
      HoldsReservation first guard reservation world) :
    Keeping first tag Q (observeAs guard state reserved) world := by
  apply Keeping.act
  intro cell log signal hworld htruthful hready hcurrent
  have hheld : cell.intakeGuard = some guard := of_decide_eq_true hready
  refine ⟨?_, hQ _⟩
  by_cases hsame : cell.fence.state = state
  · simp only [statusSystem, AuthoritativeLifecycleFenceV1.observe_of_eq hsame]
    exact ⟨htruthful.observesSame state reserved,
      Continues.observes (UInt64.le_refl _) (Nat.le_refl _)⟩
  · obtain ⟨hfence, hbeyond⟩ :=
      (of_decide_eq_true hcurrent : _ ∨ _).resolve_left hsame
    cases reserved with
    | none =>
      obtain ⟨hissued, hmax⟩ : cell.generation ≤ cell.fence.generation ∧
        cell.fence.generation.toNat + 1 ≠ 2 ^ 64 := of_decide_eq_true hbeyond
      have hobserve : cell.fence.observe state none = ⟨state, cell.fence.generation + 1⟩ :=
        AuthoritativeLifecycleFenceV1.observe_none hsame hmax
      have hlt := UInt64.le_of_lt (lt_succ hmax)
      simp only [statusSystem, Option.map_none, hobserve]
      exact ⟨htruthful.observesNext none (htruthful.agree_succ hfence hissued hmax) hlt hfence,
        Continues.observes hlt hfence⟩
    | some reservation =>
      have hnow := (hreserved _ rfl).continues hworld hheld
      have hlt : cell.fence.generation < reservation.1 := (of_decide_eq_true hbeyond : _ ∧ _).1
      simp only [statusSystem, Option.map_some,
        AuthoritativeLifecycleFenceV1.observe_of_lt hsame hlt]
      exact ⟨htruthful.observesNext (some reservation) (hnow.agree htruthful hfence hbeyond)
          (UInt64.le_of_lt hlt) hfence,
        Continues.observes (UInt64.le_of_lt hlt) hfence⟩

/-- A publication of any state. -/
theorem keeping_publish {Q : Unit → StatusCell × List StatusEvent → Prop}
    (hQ : ∀ later, Q () later) (state : ElectionLifecycleStateV1) (statusDir : Bool) :
    Keeping first tag Q (publishLifecycleToIntake state statusDir) world := by
  apply Keeping.act
  intro cell log signal hworld htruthful hready _
  have hlock := htruthful.quiet tag ⟨.lockIntake, cell.nextGuard⟩
    { cell with intakeGuard := some cell.nextGuard, nextGuard := cell.nextGuard + 1 } rfl rfl rfl
    (UInt64.le_refl _) (Nat.le_refl _) (Nat.le_succ _)
    (by
      intro guard hheld
      cases hheld
      exact ⟨Nat.lt_succ_self _, .inr (Nat.le_refl _)⟩)
  refine ⟨hlock, ?_⟩
  apply Keeping.looks (fun _ _ ↦ rfl) (fun _ ↦ rfl) (fun _ ↦ rfl)
  intro cell' log' signal' hworld' htruthful' _
  have hlook := htruthful'.look tag ⟨.fenceState, cell'.fence.state⟩ rfl rfl
  have hnumber : cell.nextGuard < cell'.nextGuard :=
    Nat.lt_of_lt_of_le (Nat.lt_succ_self _) hworld'.numbers
  show Keeping first tag Q (if cell'.fence.state = state then _ else _) _
  by_cases hsame : cell'.fence.state = state
  · rw [if_pos hsame]
    apply Keeping.act
    intro later log'' signal'' _ htruthful'' _ _
    have hunlock := htruthful''.quiet tag ⟨.unlockIntake cell.nextGuard, ()⟩
      { later with intakeGuard := none } rfl rfl rfl (UInt64.le_refl _) (Nat.le_refl _)
      (Nat.le_refl _) (fun guard hheld ↦ by cases hheld)
    exact ⟨hunlock, hQ _⟩
  · rw [if_neg hsame]
    cases statusDir with
    | false =>
      apply keeping_observe hQ
      intro reservation hnone
      cases hnone
    | true =>
      apply System.Keeps.bind
      apply keeping_reserve
      · exact hnumber
      · intro e later _
        apply keeping_observe hQ
        intro reservation hnone
        cases hnone
      · intro reservation later _ hreserved
        apply keeping_observe hQ
        intro other hsome
        cases hsome
        exact hreserved

/-! #### The calls -/

/-- The thread keeps everything truthful and returns. -/
def Sincere (first : Assertion) (tag : Nat) (program : StatusProgram StatusAnswer)
    (world : StatusCell × List StatusEvent) : Prop :=
  Keeping first tag (System.Returns (Truthful first) (Continues first) tag) program world

theorem sincere_done {value : StatusAnswer}
    (hvalue : ∀ statement, value = .statement statement →
      (statement.generation, statement.state) ∈ assertions first world.2) :
    Sincere first tag (.done value) world := by
  intro cell log hworld htruthful
  apply htruthful.returned
  intro statement hstatement
  exact mem_assertions_of_prefix hworld.log (hvalue statement hstatement)

theorem sincere_moved (done : Bool) : Sincere first tag (.done (.moved done)) world := by
  apply sincere_done
  intro statement hstatement
  cases hstatement

/-- A signed statement asserts what was settled. -/
theorem sincere_signed {signer : StatusSigner} {state : ElectionLifecycleStateV1}
    {generation : UInt64} (h : (generation, state) ∈ assertions first world.2) :
    Sincere first tag (.done (signed signer state generation)) world := by
  apply sincere_done
  intro statement hstatement
  unfold signed at hstatement
  split at hstatement
  · next signed hsigned =>
    cases hstatement
    obtain ⟨hstate, hgeneration⟩ :=
      AuthenticatedElectionStatusStatementV1.of_signForTestOrCeremony hsigned
    rw [hstate, hgeneration]
    exact h
  · cases hstatement

/-- A commit of the session. -/
theorem sincere_advance {next : ElectionLifecycleStateV1} {rest : Bool → StatusProgram StatusAnswer}
    (h : ∀ done later, Sincere first tag (rest done) later) :
    Sincere first tag (.act (.advance next) rest) world := by
  apply Keeping.act
  intro cell log signal _ htruthful _ _
  refine ⟨?_, h _ _⟩
  simp only [statusSystem]
  split
  · next hlt =>
    exact htruthful.quiet tag ⟨.advance next, true⟩ { cell with lifecycle := next } rfl rfl rfl
      (UInt64.le_refl _) (Nat.le_of_lt hlt) (Nat.le_refl _)
      fun guard hheld ↦ ⟨htruthful.numbered guard hheld, .inl hheld⟩
  · exact htruthful.look tag ⟨.advance next, false⟩ rfl rfl

theorem sincere_commitAndPublish (next : ElectionLifecycleStateV1) (statusDir : Bool) :
    Sincere first tag (commitAndPublish next statusDir) world := by
  apply sincere_advance
  intro done later
  cases done with
  | false => exact sincere_moved false
  | true =>
    apply System.Keeps.bind
    apply keeping_publish
    intro later
    exact sincere_moved true

theorem sincere_commitClose : Sincere first tag commitClose world := by
  apply sincere_advance
  intro done later
  exact sincere_moved done

theorem sincere_closeVoting (statusDir : Bool) :
    Sincere first tag (closeVoting statusDir) world := by
  apply Keeping.looks (fun _ _ ↦ rfl) (fun _ ↦ rfl) (fun _ ↦ rfl)
  intro cell log signal _ _ _
  show Keeping first tag _ (if cell.lifecycle ≠ .opened then _ else _) _
  split
  · exact sincere_commitClose
  · apply System.Keeps.bind
    apply keeping_publish
    intro later
    exact sincere_commitClose

theorem sincere_statusHeartbeat (statusDir : Bool) :
    Sincere first tag (statusHeartbeat statusDir) world := by
  apply Keeping.looks (fun _ _ ↦ rfl) (fun _ ↦ rfl) (fun _ ↦ rfl)
  intro cell log signal _ _ _
  apply System.Keeps.bind
  apply keeping_publish
  intro later
  exact sincere_moved false

theorem sincere_handleElectionStatus (signer : StatusSigner) :
    Sincere first tag (handleElectionStatus signer) world := by
  apply Keeping.looks (fun _ _ ↦ rfl) (fun _ ↦ rfl) (fun _ ↦ rfl)
  intro cell log signal _ _ _
  apply Keeping.looks (fun _ _ ↦ rfl) (fun _ ↦ rfl) (fun _ ↦ rfl)
  intro later log' signal' _ htruthful hcurrent
  have hseen : later.fence.state = cell.fence.state := of_decide_eq_true hcurrent
  apply sincere_signed
  show (later.fence.generation, cell.fence.state) ∈ assertions first (log' ++ _)
  rw [← hseen]
  exact mem_assertions_of_prefix (List.prefix_append _ _) htruthful.fence

theorem sincere_exportElectionStatus (signer : StatusSigner) :
    Sincere first tag (exportElectionStatus signer) world := by
  apply Keeping.looks (fun _ _ ↦ rfl) (fun _ ↦ rfl) (fun _ ↦ rfl)
  intro cell log signal _ _ _
  apply System.Keeps.bind
  apply keeping_reserve
  · trivial
  · intro e later _
    apply sincere_done
    intro statement hstatement
    cases hstatement
  · intro reservation later _ hreserved
    apply Keeping.looks (fun _ _ ↦ rfl) (fun _ ↦ rfl) (fun _ ↦ rfl)
    intro later' log' signal' hworld' _ hcurrent
    have hsame : later'.lifecycle = reservation.2 := of_decide_eq_true hcurrent
    apply sincere_signed
    show (reservation.1, later'.lifecycle) ∈ assertions first (log' ++ _)
    rw [hsame]
    exact mem_assertions_of_prefix (hworld'.log.trans (List.prefix_append _ _)) hreserved

end Threads

/-! ### Whole runs -/

/-- The cell when the intake is started: the fence is seeded with any state and generation, the
counter and a temporary file are as they were left. -/
def statusStart (lifecycle published : ElectionLifecycleStateV1) (initialGeneration : UInt64)
    (issued temporary : Option UInt64) : StatusCell :=
  ⟨lifecycle, .new published initialGeneration, issued, temporary, none, 0⟩

/-- What is settled when the intake is started. -/
theorem truthful_statusStart (lifecycle published : ElectionLifecycleStateV1)
    (initialGeneration : UInt64) (issued temporary : Option UInt64) :
    Truthful (max initialGeneration statusGenerationMinimum, published)
      (statusStart lifecycle published initialGeneration issued temporary) [] := by
  refine ⟨?_, ?_, ?_, ?_, ?_, ?_, ?_⟩
  · intro guard hheld
    cases hheld
  · intro a ha b hb
    rw [List.mem_singleton.mp ha, List.mem_singleton.mp hb]
    exact ⟨fun _ ↦ rfl, fun _ ↦ Nat.le_refl _⟩
  · intro a ha
    rw [List.mem_singleton.mp ha]
    exact ⟨.inr (UInt64.le_refl _), .inr (Nat.le_refl _)⟩
  · exact List.mem_singleton.mpr rfl
  · exact List.pairwise_singleton _ _
  · intro state hmem
    rw [List.mem_singleton.mp hmem]
    exact Nat.le_refl _
  · intro tag statement hmem
    cases hmem

/-- Signed statements follow the lifecycle while no step acts on what another thread has changed
meanwhile: the fence does not go back, one generation has one state, and a larger generation has no
earlier state. The fence may be seeded, and the counter left, in any way. -/
theorem statusStatementsAgree (signer : StatusSigner)
    {lifecycle published : ElectionLifecycleStateV1} {initialGeneration : UInt64}
    {issued temporary : Option UInt64}
    {config : Config StatusOp.Response StatusAnswer Nat StatusCell}
    (run : statusSystem.Run (IsStatusCall signer)
      (fun tag op signal cell ↦ isCurrent tag op signal cell = true)
      (statusStart lifecycle published initialGeneration issued temporary) config) :
    ((fenceStates published config.log).Pairwise fun a b ↦ a.rank ≤ b.rank) ∧
    ∀ tag tag' (a b : AuthenticatedElectionStatusStatementV1),
      .returned tag (.statement a) ∈ config.log → .returned tag' (.statement b) ∈ config.log →
      (a.generation = b.generation → a.state = b.state) ∧
      (a.generation < b.generation → a.state.rank ≤ b.state.rank) := by
  let first : Assertion := (max initialGeneration statusGenerationMinimum, published)
  have htruthful : Truthful first config.state config.log := by
    have hrefl : ∀ world, Continues first world world := Continues.refl
    refine System.Run.keeps run hrefl Continues.trans
      (truthful_statusStart lifecycle published initialGeneration issued temporary) ?_ ?_ ?_
    · intro tag program hcall cell log _
      cases hcall with
      | commit next statusDir => exact sincere_commitAndPublish next statusDir
      | close statusDir => exact sincere_closeVoting statusDir
      | heartbeat statusDir => exact sincere_statusHeartbeat statusDir
      | status => exact sincere_handleElectionStatus signer
      | exporting => exact sincere_exportElectionStatus signer
    · intro tag value cell log
      have hlog : assertions first (log ++ [.returned tag value]) = assertions first log :=
        assertions_append_of_none _ log rfl
      refine ⟨List.prefix_append _ _, Nat.le_refl _, UInt64.le_refl _, Nat.le_refl _,
        UInt64.le_refl _, Nat.le_refl _, fun _ _ ↦ id, ?_⟩
      intro guard _ _ _ assertion hmem
      left
      rw [← hlog]
      exact hmem
    · intro tag next cell log htruthful
      exact ⟨htruthful, Continues.refl _⟩
  refine ⟨htruthful.forward, ?_⟩
  intro tag tag' a b ha hb
  exact htruthful.agree _ (htruthful.statements tag a ha) _ (htruthful.statements tag' b hb)

namespace Sample

def signer : StatusSigner where
  electionId := [1]
  manifestHash := Bytes32.replicate 2
  registryCommitment := Bytes32.replicate 3
  rootKeyId := .lit "root"
  sign _ := ⟨List.replicate 64 0, length_zeros64⟩

abbrev StatusChoice := Choice StatusOp.Response StatusAnswer StatusSignal Unit Nat

/-- This many steps of a thread. -/
def go (thread count : Nat) : List StatusChoice := List.replicate count (.advance thread ⟨true⟩)

/-- A status request to its end, beside so many threads in progress. -/
def request (threads : Nat) : List StatusChoice :=
  .start 9 (handleElectionStatus signer) :: go threads 3

/-- An export has begun when the election is opened, which is published without a reservation; the
export then ends, and the election is closed with a reservation. -/
def inOrder : List StatusChoice :=
  request 0 ++ .start 2 (exportElectionStatus signer) :: go 0 1 ++
    .start 1 (commitAndPublish .opened false) :: go 1 5 ++ request 1 ++ go 0 6 ++
    .start 3 (closeVoting true) :: go 0 10 ++ request 0

/-- The seed is the generation that was reserved last, as when the intake is started. -/
def seeded (state : ElectionLifecycleStateV1) : StatusCell :=
  statusStart state state 1 (some 1) none

/-- The election is opened between the two reads of a status request. -/
def torn : List StatusChoice :=
  .start 0 (handleElectionStatus signer) :: go 0 1 ++
    .start 1 (commitAndPublish .opened true) :: go 1 9 ++ go 0 2 ++ request 0

/-- A heartbeat finds the election open, and publishes that after it was closed. -/
def stale : List StatusChoice :=
  .start 0 (statusHeartbeat true) :: go 0 1 ++ .start 1 (closeVoting true) :: go 1 10 ++
    request 1 ++ go 0 8 ++ request 0

/-- The generations and states of the statements. -/
def statementsOf (log : List StatusEvent) : List Assertion :=
  log.filterMap fun event ↦ match event with
    | .returned _ (.statement statement) => some (statement.generation, statement.state)
    | _ => none

theorem exists_statement {log : List StatusEvent} {assertion : Assertion}
    (h : assertion ∈ statementsOf log) : ∃ tag statement,
      .returned tag (.statement statement) ∈ log ∧
        (statement.generation, statement.state) = assertion := by
  obtain ⟨event, hmem, hevent⟩ := List.mem_filterMap.mp h
  split at hevent
  · next tag statement =>
    cases hevent
    exact ⟨tag, statement, hmem, rfl⟩
  · cases hevent

theorem isStatusCall_of_mem {tag : Nat} {program : StatusProgram StatusAnswer}
    {choices : List StatusChoice} (h : (.start tag program : StatusChoice) ∈ choices)
    (hchoices : choices = inOrder ∨ choices = torn ∨ choices = stale) :
    IsStatusCall signer tag program := by
  have hcalls : (.start tag program : StatusChoice) ∈
      [.start 9 (handleElectionStatus signer), .start 0 (handleElectionStatus signer),
        .start 1 (commitAndPublish .opened true), .start 1 (commitAndPublish .opened false),
        .start 2 (exportElectionStatus signer), .start 3 (closeVoting true),
        .start 1 (closeVoting true), .start 0 (statusHeartbeat true)] := by
    rcases hchoices with rfl | rfl | rfl <;>
      simp [inOrder, torn, stale, request, go] at h ⊢ <;> grind
  simp only [List.mem_cons, List.not_mem_nil, or_false] at hcalls
  rcases hcalls with h | h | h | h | h | h | h | h <;> cases h
  · exact .status 9
  · exact .status 0
  · exact .commit 1 .opened true
  · exact .commit 1 .opened false
  · exact .exporting 2
  · exact .close 3 true
  · exact .close 1 true
  · exact .heartbeat 0 true

end Sample

/-- An election is opened without a reservation and closed with one, with statements before,
between and after. -/
theorem statusStatementsAgree_sample :
    ∃ config, statusSystem.steps isCurrent ⟨Sample.seeded .frozen, [], []⟩ Sample.inOrder =
        some config ∧
      Sample.statementsOf config.log =
        [(1, .frozen), (2, .opened), (2, .opened), (3, .closed)] ∧
      (fenceStates .frozen config.log).Pairwise fun a b ↦ a.rank ≤ b.rank := by
  have hcheck : (statusSystem.steps isCurrent ⟨Sample.seeded .frozen, [], []⟩ Sample.inOrder).map
      (fun config ↦ Sample.statementsOf config.log) =
        some [(1, .frozen), (2, .opened), (2, .opened), (3, .closed)] := by
    decide +kernel
  obtain ⟨config, hsteps, hstatements⟩ := Option.map_eq_some_iff.mp hcheck
  have run : statusSystem.Run (IsStatusCall Sample.signer)
      (fun tag op signal cell ↦ isCurrent tag op signal cell = true) (Sample.seeded .frozen)
        config :=
    System.Run.initial.steps (fun _ _ hmem ↦ Sample.isStatusCall_of_mem hmem (.inl rfl))
      (fun _ _ _ _ h ↦ h) hsteps
  exact ⟨config, hsteps, hstatements, (statusStatementsAgree Sample.signer run).1⟩

/-- A status request whose two reads are on both sides of a publication signs FROZEN for the
generation of OPEN; and a heartbeat that found the election open leads the fence back from CLOSED,
with a larger generation. -/
theorem not_statusStatementsAgree :
    (∃ config, statusSystem.Run (IsStatusCall Sample.signer) (fun _ _ _ _ ↦ True)
        (Sample.seeded .frozen) config ∧
      ∃ tag tag' a b, .returned tag (.statement a) ∈ config.log ∧
        .returned tag' (.statement b) ∈ config.log ∧
        a.generation = b.generation ∧ a.state ≠ b.state) ∧
    ∃ config, statusSystem.Run (IsStatusCall Sample.signer) (fun _ _ _ _ ↦ True)
        (Sample.seeded .opened) config ∧
      fenceStates .opened config.log = [.opened, .closed, .opened] ∧
      ∃ tag tag' a b, .returned tag (.statement a) ∈ config.log ∧
        .returned tag' (.statement b) ∈ config.log ∧
        a.generation < b.generation ∧ b.state.rank < a.state.rank := by
  constructor
  · have hcheck : (statusSystem.steps (fun _ _ _ _ ↦ true)
        ⟨Sample.seeded .frozen, [], []⟩ Sample.torn).map
          (fun config ↦ Sample.statementsOf config.log) =
        some [(2, .frozen), (2, .opened)] := by decide +kernel
    obtain ⟨config, hsteps, hstatements⟩ := Option.map_eq_some_iff.mp hcheck
    have run : statusSystem.Run (IsStatusCall Sample.signer) (fun _ _ _ _ ↦ True)
        (Sample.seeded .frozen) config :=
      System.Run.initial.steps (fun _ _ hmem ↦ Sample.isStatusCall_of_mem hmem (.inr (.inl rfl)))
        (fun _ _ _ _ _ ↦ trivial) hsteps
    have hfrozen : ((2, .frozen) : Assertion) ∈ Sample.statementsOf config.log := by
      rw [hstatements]
      decide
    have hopened : ((2, .opened) : Assertion) ∈ Sample.statementsOf config.log := by
      rw [hstatements]
      decide
    obtain ⟨tag, a, ha, hasserted⟩ := Sample.exists_statement hfrozen
    obtain ⟨tag', b, hb, hasserted'⟩ := Sample.exists_statement hopened
    rw [Prod.mk.injEq] at hasserted hasserted'
    refine ⟨config, run, tag, tag', a, b, ha, hb, ?_, ?_⟩
    · rw [hasserted.1, hasserted'.1]
    · rw [hasserted.2, hasserted'.2]
      decide
  · have hcheck : (statusSystem.steps (fun _ _ _ _ ↦ true)
        ⟨Sample.seeded .opened, [], []⟩ Sample.stale).map
          (fun config ↦ (Sample.statementsOf config.log, fenceStates .opened config.log)) =
        some ([(2, .closed), (3, .opened)], [.opened, .closed, .opened]) := by decide +kernel
    obtain ⟨config, hsteps, hboth⟩ := Option.map_eq_some_iff.mp hcheck
    rw [Prod.mk.injEq] at hboth
    have run : statusSystem.Run (IsStatusCall Sample.signer) (fun _ _ _ _ ↦ True)
        (Sample.seeded .opened) config :=
      System.Run.initial.steps (fun _ _ hmem ↦ Sample.isStatusCall_of_mem hmem (.inr (.inr rfl)))
        (fun _ _ _ _ _ ↦ trivial) hsteps
    have hclosed : ((2, .closed) : Assertion) ∈ Sample.statementsOf config.log := by
      rw [hboth.1]
      decide
    have hopened : ((3, .opened) : Assertion) ∈ Sample.statementsOf config.log := by
      rw [hboth.1]
      decide
    obtain ⟨tag, a, ha, hasserted⟩ := Sample.exists_statement hclosed
    obtain ⟨tag', b, hb, hasserted'⟩ := Sample.exists_statement hopened
    rw [Prod.mk.injEq] at hasserted hasserted'
    refine ⟨config, run, hboth.2, tag, tag', a, b, ha, hb, ?_, ?_⟩
    · rw [hasserted.1, hasserted'.1]
      decide
    · rw [hasserted.2, hasserted'.2]
      decide

end PrivateBallot.Shell
