import Mathlib.Data.List.Nodup
import PrivateBallot.Base.Program

/-!
# Interleaved programs

Library `Base`. Calls of several threads over one state, interleaved at their operations. Every
thread carries a tag, by which the handler knows the process or the command it belongs to. A
step starts a call, lets one thread perform its next operation or return, or takes all threads
of a tag away. What was performed and returned is logged.
-/

namespace PrivateBallot.Base

/-- How operations act on the shared state: what each does for a thread with this tag, when it
may go ahead, and what is left of the state when everything with the tag is cut off. -/
structure System {ω : Type} (ρ : ω → Type) (ι κ τ σ : Type) where
  exec : τ → Program.Handler ρ ι σ
  ready : τ → ω → σ → Bool
  restart : τ → κ → σ → σ

/-- What is logged. -/
inductive Event {ω : Type} (ρ : ω → Type) (α τ : Type) where
  | performed (tag : τ) (operation : Sigma ρ)
  | returned (tag : τ) (value : α)

/-- The thread an event belongs to. -/
def Event.tag {ω : Type} {ρ : ω → Type} {α τ : Type} : Event ρ α τ → τ
  | performed tag _ => tag
  | returned tag _ => tag

/-- The operations performed under a tag, in order. -/
def operationsOf {ω : Type} {ρ : ω → Type} {α τ : Type} [DecidableEq τ] (tag : τ)
    (log : List (Event ρ α τ)) : List (Sigma ρ) :=
  log.filterMap fun event ↦ match event with
    | .performed other operation => if other = tag then some operation else none
    | .returned _ _ => none

/-- The shared state, the calls in progress and the log. -/
structure Config {ω : Type} (ρ : ω → Type) (α τ σ : Type) where
  state : σ
  threads : List (τ × Program ρ α)
  log : List (Event ρ α τ)

/-- What the environment decides on. -/
inductive Choice {ω : Type} (ρ : ω → Type) (α ι κ τ : Type) where
  | start (tag : τ) (program : Program ρ α)
  | advance (thread : Nat) (input : ι)
  | crash (tag : τ) (next : κ)

namespace System

variable {ω : Type} {ρ : ω → Type} {α ι κ τ σ : Type} [DecidableEq τ]

/-- One step; none where there is no such thread or it has to wait. -/
def step (system : System ρ ι κ τ σ) (config : Config ρ α τ σ) :
    Choice ρ α ι κ τ → Option (Config ρ α τ σ)
  | .start tag program => some { config with threads := config.threads ++ [(tag, program)] }
  | .advance thread input =>
    match config.threads[thread]? with
    | none => none
    | some (tag, .done value) =>
      some ⟨config.state, config.threads.eraseIdx thread, config.log ++ [Event.returned tag value]⟩
    | some (tag, .act op next) =>
      if system.ready tag op config.state then
        some ⟨(system.exec tag op input config.state).2,
          config.threads.set thread (tag, next (system.exec tag op input config.state).1),
          config.log ++ [Event.performed tag ⟨op, (system.exec tag op input config.state).1⟩]⟩
      else none
  | .crash tag next =>
    some ⟨system.restart tag next config.state, config.threads.filter (·.1 ≠ tag), config.log⟩

/-- The calls that may be started, and the operations that may be performed in a state. -/
def Allows (Starts : τ → Program ρ α → Prop) (Permits : τ → ω → ι → σ → Prop)
    (config : Config ρ α τ σ) : Choice ρ α ι κ τ → Prop
  | .start tag program => Starts tag program
  | .advance thread input => ∀ tag op next,
      config.threads[thread]? = some (tag, .act op next) → Permits tag op input config.state
  | .crash _ _ => True

/-- The configurations reached by steps that are allowed. -/
inductive Run (system : System ρ ι κ τ σ) (Starts : τ → Program ρ α → Prop)
    (Permits : τ → ω → ι → σ → Prop) (initial : σ) : Config ρ α τ σ → Prop
  | initial : Run system Starts Permits initial ⟨initial, [], []⟩
  | step {config config' : Config ρ α τ σ} (choice : Choice ρ α ι κ τ)
      (run : Run system Starts Permits initial config)
      (hallows : Allows Starts Permits config choice)
      (hstep : system.step config choice = some config') :
      Run system Starts Permits initial config'

/-- Nothing in progress and nothing logged has this tag. -/
def IsFresh (config : Config ρ α τ σ) (tag : τ) : Prop :=
  (∀ thread ∈ config.threads, thread.1 ≠ tag) ∧ ∀ event ∈ config.log, event.tag ≠ tag

/-- The runs in which every call has a tag of its own. -/
inductive TaggedRun (system : System ρ ι κ τ σ) (Starts : τ → Program ρ α → Prop)
    (Permits : τ → ω → ι → σ → Prop) (initial : σ) : Config ρ α τ σ → Prop
  | initial : TaggedRun system Starts Permits initial ⟨initial, [], []⟩
  | step {config config' : Config ρ α τ σ} (choice : Choice ρ α ι κ τ)
      (run : TaggedRun system Starts Permits initial config)
      (hallows : Allows Starts Permits config choice)
      (hfresh : ∀ tag program, choice = .start tag program → IsFresh config tag)
      (hstep : system.step config choice = some config') :
      TaggedRun system Starts Permits initial config'

section Rules

variable {system : System ρ ι κ τ σ} {Starts : τ → Program ρ α → Prop}
  {Permits : τ → ω → ι → σ → Prop} {initial : σ} {config : Config ρ α τ σ}

/-- What a step can do. -/
theorem step_cases {config' : Config ρ α τ σ} {choice : Choice ρ α ι κ τ}
    (h : system.step config choice = some config') :
    (∃ tag program, choice = .start tag program ∧
      config' = { config with threads := config.threads ++ [(tag, program)] }) ∨
    (∃ thread input tag value, choice = .advance thread input ∧
      config.threads[thread]? = some (tag, .done value) ∧
      config' = ⟨config.state, config.threads.eraseIdx thread,
        config.log ++ [Event.returned tag value]⟩) ∨
    (∃ thread input tag op next, choice = .advance thread input ∧
      config.threads[thread]? = some (tag, .act op next) ∧
      system.ready tag op config.state = true ∧
      config' = ⟨(system.exec tag op input config.state).2,
        config.threads.set thread (tag, next (system.exec tag op input config.state).1),
        config.log ++ [Event.performed tag ⟨op, (system.exec tag op input config.state).1⟩]⟩) ∨
    (∃ tag next, choice = .crash tag next ∧
      config' = ⟨system.restart tag next config.state, config.threads.filter (·.1 ≠ tag),
        config.log⟩) := by
  cases choice with
  | start tag program =>
    cases h
    exact Or.inl ⟨tag, program, rfl, rfl⟩
  | advance thread input =>
    simp only [step] at h
    split at h
    · cases h
    · next tag value hthread =>
      cases h
      exact Or.inr (Or.inl ⟨thread, input, tag, value, rfl, hthread, rfl⟩)
    · next tag op next hthread =>
      split at h
      · next hready =>
        cases h
        exact Or.inr (Or.inr (Or.inl ⟨thread, input, tag, op, next, rfl, hthread, hready, rfl⟩))
      · cases h
  | crash tag next =>
    cases h
    exact Or.inr (Or.inr (Or.inr ⟨tag, next, rfl, rfl⟩))

/-- Every thread of a run issues only operations that the calls started can issue. -/
theorem Run.issues {P : τ → ω → Prop} (run : Run system Starts Permits initial config)
    (hstarts : ∀ tag program, Starts tag program → program.Issues (P tag)) :
    ∀ thread ∈ config.threads, thread.2.Issues (P thread.1) := by
  induction run with
  | initial =>
    intro thread hthread
    cases hthread
  | @step config config' choice run hallows hstep ih =>
    rcases step_cases hstep with ⟨tag, program, rfl, rfl⟩ | ⟨i, input, tag, value, rfl, hi, rfl⟩ |
      ⟨i, input, tag, op, next, rfl, hi, hready, rfl⟩ | ⟨tag, next, rfl, rfl⟩
    · intro thread hthread
      rcases List.mem_append.mp hthread with hold | hnew
      · exact ih thread hold
      · rw [List.mem_singleton.mp hnew]
        exact hstarts tag program hallows
    · intro thread hthread
      exact ih thread (List.mem_of_mem_eraseIdx hthread)
    · intro thread hthread
      rcases List.mem_or_eq_of_mem_set hthread with hold | rfl
      · exact ih thread hold
      · exact (ih (tag, .act op next) (List.mem_of_getElem? hi)).2 _
    · intro thread hthread
      exact ih thread (List.mem_of_mem_filter hthread)

/-- An invariant of state and log: it holds at the start, every operation that a call can issue
and the run permits keeps it, and so do returning and being cut off. -/
theorem Run.invariant {P : τ → ω → Prop} {I : σ → List (Event ρ α τ) → Prop}
    (run : Run system Starts Permits initial config)
    (hstarts : ∀ tag program, Starts tag program → program.Issues (P tag))
    (hinitial : I initial [])
    (hperformed : ∀ tag op input s log, P tag op → Permits tag op input s →
      system.ready tag op s = true → I s log → I (system.exec tag op input s).2
        (log ++ [Event.performed tag ⟨op, (system.exec tag op input s).1⟩]))
    (hreturned : ∀ tag value s log, I s log → I s (log ++ [Event.returned tag value]))
    (hcrash : ∀ tag next s log, I s log → I (system.restart tag next s) log) :
    I config.state config.log := by
  induction run with
  | initial => exact hinitial
  | @step config config' choice run hallows hstep ih =>
    rcases step_cases hstep with ⟨tag, program, rfl, rfl⟩ | ⟨i, input, tag, value, rfl, hi, rfl⟩ |
      ⟨i, input, tag, op, next, rfl, hi, hready, rfl⟩ | ⟨tag, next, rfl, rfl⟩
    · exact ih
    · exact hreturned tag value _ _ ih
    · have hissues := run.issues hstarts (tag, .act op next) (List.mem_of_getElem? hi)
      exact hperformed tag op input _ _ hissues.1 (hallows tag op next hi) hready ih
    · exact hcrash tag next _ _ ih

/-! ### Rely and guarantee -/

/-- The thread keeps `I` wherever the others have led to, each of its steps stays within `G`, and
it ends in `Q`. The others keep `I` and stay within `G` too. -/
def Keeps (system : System ρ ι κ τ σ) (Permits : τ → ω → ι → σ → Prop)
    (I : σ → List (Event ρ α τ) → Prop)
    (G : σ × List (Event ρ α τ) → σ × List (Event ρ α τ) → Prop) (tag : τ) {β : Type}
    (Q : β → σ × List (Event ρ α τ) → Prop) : Program ρ β → σ × List (Event ρ α τ) → Prop
  | .done value, world => Q value world
  | .act op next, world => ∀ s log input, G world (s, log) → I s log →
      system.ready tag op s = true → Permits tag op input s →
      I (system.exec tag op input s).2
          (log ++ [Event.performed tag ⟨op, (system.exec tag op input s).1⟩]) ∧
        G (s, log) ((system.exec tag op input s).2,
          log ++ [Event.performed tag ⟨op, (system.exec tag op input s).1⟩]) ∧
        system.Keeps Permits I G tag Q (next (system.exec tag op input s).1)
          ((system.exec tag op input s).2,
            log ++ [Event.performed tag ⟨op, (system.exec tag op input s).1⟩])

/-- What a thread has to end in: wherever the others have led to, its return keeps `I`. -/
def Returns (I : σ → List (Event ρ α τ) → Prop)
    (G : σ × List (Event ρ α τ) → σ × List (Event ρ α τ) → Prop) (tag : τ) (value : α)
    (world : σ × List (Event ρ α τ)) : Prop :=
  ∀ s log, G world (s, log) → I s log → I s (log ++ [Event.returned tag value])

variable {I : σ → List (Event ρ α τ) → Prop}
  {G : σ × List (Event ρ α τ) → σ × List (Event ρ α τ) → Prop}

omit [DecidableEq τ] in
/-- The rule of one operation. -/
theorem Keeps.act (htrans : ∀ a b c, G a b → G b c → G a c) {tag : τ} {β : Type}
    {Q : β → σ × List (Event ρ α τ) → Prop} {op : ω} {next : ρ op → Program ρ β}
    {world : σ × List (Event ρ α τ)}
    (h : ∀ s log input response s', system.exec tag op input s = (response, s') →
      G world (s, log) → I s log → system.ready tag op s = true → Permits tag op input s →
      I s' (log ++ [Event.performed tag ⟨op, response⟩]) ∧
        G (s, log) (s', log ++ [Event.performed tag ⟨op, response⟩]) ∧
        (G world (s', log ++ [Event.performed tag ⟨op, response⟩]) →
          system.Keeps Permits I G tag Q (next response)
            (s', log ++ [Event.performed tag ⟨op, response⟩]))) :
    system.Keeps Permits I G tag Q (.act op next) world := by
  intro s log input hworld hI hready hpermits
  obtain ⟨hI', hG, hnext⟩ := h s log input _ _ rfl hworld hI hready hpermits
  exact ⟨hI', hG, hnext (htrans _ _ _ hworld hG)⟩

omit [DecidableEq τ] in
/-- The rule of sequence. -/
theorem Keeps.bind {tag : τ} {β γ : Type} {Q : γ → σ × List (Event ρ α τ) → Prop}
    {p : Program ρ β} {k : β → Program ρ γ} {world : σ × List (Event ρ α τ)}
    (h : system.Keeps Permits I G tag (fun b ↦ system.Keeps Permits I G tag Q (k b)) p world) :
    system.Keeps Permits I G tag Q (p >>= k) world := by
  induction p generalizing world with
  | done b => exact h
  | act op next ih =>
    intro s log input hworld hI hready hpermits
    obtain ⟨hnext, hstep, hrest⟩ := h s log input hworld hI hready hpermits
    exact ⟨hnext, hstep, ih _ hrest⟩

omit [DecidableEq τ] in
/-- The rule of consequence. -/
theorem Keeps.mono {tag : τ} {β : Type} {Q Q' : β → σ × List (Event ρ α τ) → Prop}
    {p : Program ρ β} {world : σ × List (Event ρ α τ)}
    (h : system.Keeps Permits I G tag Q p world) (hQ : ∀ b world, Q b world → Q' b world) :
    system.Keeps Permits I G tag Q' p world := by
  induction p generalizing world with
  | done b => exact hQ b world h
  | act op next ih =>
    intro s log input hworld hI hready hpermits
    obtain ⟨hnext, hstep, hrest⟩ := h s log input hworld hI hready hpermits
    exact ⟨hnext, hstep, ih _ hrest⟩

omit [DecidableEq τ] in
/-- What others do takes nothing away from a thread. -/
theorem Keeps.after (htrans : ∀ a b c, G a b → G b c → G a c) {tag : τ} {p : Program ρ α}
    {world world' : σ × List (Event ρ α τ)}
    (h : system.Keeps Permits I G tag (Returns I G tag) p world) (hworld : G world world') :
    system.Keeps Permits I G tag (Returns I G tag) p world' := by
  cases p with
  | done value =>
    intro s log hs hI
    exact h s log (htrans _ _ _ hworld hs) hI
  | act op next =>
    intro s log input hs hI hready hpermits
    exact h s log input (htrans _ _ _ hworld hs) hI hready hpermits

/-- An invariant of runs: it holds at the start, and every call keeps it while the others do. -/
theorem Run.keeps (run : Run system Starts Permits initial config)
    (hrefl : ∀ world, G world world) (htrans : ∀ a b c, G a b → G b c → G a c)
    (hinitial : I initial [])
    (hstarts : ∀ tag program, Starts tag program → ∀ s log, I s log →
      system.Keeps Permits I G tag (Returns I G tag) program (s, log))
    (hreturned : ∀ tag value s log, G (s, log) (s, log ++ [Event.returned tag value]))
    (hcrash : ∀ tag next s log, I s log →
      I (system.restart tag next s) log ∧ G (s, log) (system.restart tag next s, log)) :
    I config.state config.log := by
  suffices h : I config.state config.log ∧ ∀ thread ∈ config.threads,
      system.Keeps Permits I G thread.1 (Returns I G thread.1) thread.2
        (config.state, config.log) from h.1
  induction run with
  | initial =>
    refine ⟨hinitial, ?_⟩
    intro thread hthread
    cases hthread
  | @step config config' choice run hallows hstep ih =>
    obtain ⟨hI, hthreads⟩ := ih
    rcases step_cases hstep with ⟨tag, program, rfl, rfl⟩ | ⟨i, input, tag, value, rfl, hi, rfl⟩ |
      ⟨i, input, tag, op, next, rfl, hi, hready, rfl⟩ | ⟨tag, next, rfl, rfl⟩
    · refine ⟨hI, ?_⟩
      intro thread hthread
      rcases List.mem_append.mp hthread with hold | hnew
      · exact hthreads thread hold
      · rw [List.mem_singleton.mp hnew]
        exact hstarts tag program hallows _ _ hI
    · have hthread := hthreads _ (List.mem_of_getElem? hi)
      refine ⟨hthread _ _ (hrefl _) hI, ?_⟩
      intro thread hmem
      exact (hthreads thread (List.mem_of_mem_eraseIdx hmem)).after htrans (hreturned _ _ _ _)
    · have hthread := hthreads _ (List.mem_of_getElem? hi)
      obtain ⟨hI', hG, hnext⟩ := hthread _ _ input (hrefl _) hI hready (hallows tag op next hi)
      refine ⟨hI', ?_⟩
      intro thread hmem
      rcases List.mem_or_eq_of_mem_set hmem with hold | rfl
      · exact (hthreads thread hold).after htrans hG
      · exact hnext
    · obtain ⟨hI', hG⟩ := hcrash tag next _ _ hI
      refine ⟨hI', ?_⟩
      intro thread hmem
      exact (hthreads thread (List.mem_of_mem_filter hmem)).after htrans hG

/-! ### Runs by their choices -/

/-- A list of choices, one step after the other, with a check on the operations performed. -/
def steps (system : System ρ ι κ τ σ) (permits : τ → ω → ι → σ → Bool)
    (config : Config ρ α τ σ) : List (Choice ρ α ι κ τ) → Option (Config ρ α τ σ)
  | [] => some config
  | choice :: choices =>
    if isPermitted config choice then
      (system.step config choice).bind fun config ↦ system.steps permits config choices
    else none
where
  /-- The operation that the choice performs passes the check. -/
  isPermitted (config : Config ρ α τ σ) : Choice ρ α ι κ τ → Bool
    | .advance thread input => match config.threads[thread]? with
      | some (tag, .act op _) => permits tag op input config.state
      | _ => true
    | _ => true

omit [DecidableEq τ] in
/-- A choice that passes the check is allowed. -/
theorem allows_of_isPermitted {permits : τ → ω → ι → σ → Bool} {choice : Choice ρ α ι κ τ}
    (hstarts : ∀ tag program, choice = .start tag program → Starts tag program)
    (hpermits : ∀ tag op input s, permits tag op input s = true → Permits tag op input s)
    (h : steps.isPermitted permits config choice = true) :
    Allows Starts Permits config choice := by
  cases choice with
  | start tag program => exact hstarts tag program rfl
  | advance thread input =>
    intro tag op next hthread
    simp only [System.steps.isPermitted, hthread] at h
    exact hpermits tag op input config.state h
  | crash tag next => trivial

/-- A list of choices that start admissible calls is a run. -/
theorem Run.steps {permits : τ → ω → ι → σ → Bool} {config' : Config ρ α τ σ}
    {choices : List (Choice ρ α ι κ τ)} (run : Run system Starts Permits initial config)
    (hstarts : ∀ tag program, .start tag program ∈ choices → Starts tag program)
    (hpermits : ∀ tag op input s, permits tag op input s = true → Permits tag op input s)
    (h : system.steps permits config choices = some config') :
    Run system Starts Permits initial config' := by
  induction choices generalizing config with
  | nil =>
    cases h
    exact run
  | cons choice choices ih =>
    unfold System.steps at h
    split at h
    · next hpermitted =>
      obtain ⟨next, hstep, hrest⟩ := Option.bind_eq_some_iff.mp h
      apply ih _ _ hrest
      · refine run.step choice (allows_of_isPermitted ?_ hpermits hpermitted) hstep
        intro tag program hchoice
        exact hstarts tag program (hchoice ▸ List.mem_cons_self)
      · intro tag program hmem
        exact hstarts tag program (List.mem_cons_of_mem choice hmem)
    · cases h

/-! ### What a call has performed -/

theorem TaggedRun.run (h : TaggedRun system Starts Permits initial config) :
    Run system Starts Permits initial config := by
  induction h with
  | initial => exact .initial
  | step choice _ hallows _ hstep ih => exact .step choice ih hallows hstep

/-- Every thread is the program its call was started with, after what was performed under its
tag; so was the program of every value returned. -/
structure Accounted (Starts : τ → Program ρ α → Prop) (config : Config ρ α τ σ) : Prop where
  nodup : (config.threads.map Prod.fst).Nodup
  threads : ∀ thread ∈ config.threads, ∃ program, Starts thread.1 program ∧
    program.Leads (operationsOf thread.1 config.log) thread.2
  returned : ∀ before tag value after, config.log = before ++ Event.returned tag value :: after →
    ∃ program, Starts tag program ∧ program.Leads (operationsOf tag before) (.done value)

theorem operationsOf_concat_of_ne {tag : τ} {log : List (Event ρ α τ)} {event : Event ρ α τ}
    (h : event.tag ≠ tag) : operationsOf tag (log ++ [event]) = operationsOf tag log := by
  rw [operationsOf, List.filterMap_append]
  cases event with
  | performed other operation =>
    have hother : other ≠ tag := h
    simp [operationsOf, hother]
  | returned other value => simp [operationsOf]

theorem operationsOf_concat_returned (tag other : τ) (value : α) (log : List (Event ρ α τ)) :
    operationsOf tag (log ++ [Event.returned other value]) = operationsOf tag log := by
  simp [operationsOf, List.filterMap_append]

theorem operationsOf_concat_performed (tag : τ) (operation : Sigma ρ) (log : List (Event ρ α τ)) :
    operationsOf tag (log ++ [Event.performed tag operation]) =
      operationsOf tag log ++ [operation] := by
  simp [operationsOf, List.filterMap_append]

theorem operationsOf_of_fresh {tag : τ} {log : List (Event ρ α τ)}
    (h : ∀ event ∈ log, event.tag ≠ tag) : operationsOf tag log = [] := by
  rw [operationsOf, List.filterMap_eq_nil_iff]
  intro event hevent
  cases event with
  | performed other operation => exact if_neg (h _ hevent)
  | returned other value => rfl

/-- A value in a longer log was returned last, or is in the log before. -/
theorem Accounted.returned_concat (h : Accounted Starts config) (event : Event ρ α τ)
    (hlast : ∀ tag value, event = .returned tag value →
      ∃ program, Starts tag program ∧ program.Leads (operationsOf tag config.log) (.done value)) :
    ∀ before tag value after,
      config.log ++ [event] = before ++ Event.returned tag value :: after →
      ∃ program, Starts tag program ∧ program.Leads (operationsOf tag before) (.done value) := by
  intro before tag value after hlog
  rcases List.eq_nil_or_concat after with rfl | ⟨front, last, rfl⟩
  · obtain ⟨hbefore, hevent⟩ := List.append_inj' hlog rfl
    rw [← hbefore]
    exact hlast tag value (List.cons.inj hevent).1
  · rw [List.concat_eq_append, ← List.cons_append, ← List.append_assoc] at hlog
    exact h.returned before tag value front (List.append_inj' hlog rfl).1

/-- A thread other than the one at this place has another tag. -/
theorem Accounted.tag_ne (h : Accounted Starts config) {i : Nat} {tag : τ} {program : Program ρ α}
    (hi : config.threads[i]? = some (tag, program)) {j : Nat} {thread : τ × Program ρ α}
    (hj : config.threads[j]? = some thread) (hne : i ≠ j) : tag ≠ thread.1 := by
  intro htag
  apply hne
  have hlt : i < (config.threads.map Prod.fst).length := by
    rw [List.length_map]
    exact (List.getElem?_eq_some_iff.mp hi).1
  apply (List.getElem?_inj hlt h.nodup).mp
  rw [List.getElem?_map, List.getElem?_map, hi, hj]
  exact congrArg some htag

omit [DecidableEq τ] in
/-- A thread that goes on keeps its tag. -/
theorem map_fst_set {threads : List (τ × Program ρ α)} {i : Nat} {tag : τ}
    {program : Program ρ α} (hi : threads[i]? = some (tag, program)) (next : Program ρ α) :
    (threads.set i (tag, next)).map Prod.fst = threads.map Prod.fst := by
  obtain ⟨hlt, hthread⟩ := List.getElem?_eq_some_iff.mp hi
  have hlength : i < (threads.map Prod.fst).length := by
    rw [List.length_map]
    exact hlt
  have htag : (threads.map Prod.fst)[i] = tag := by rw [List.getElem_map, hthread]
  rw [List.map_set]
  exact htag ▸ List.set_getElem_self hlength

/-- Every step of a run with tags keeps the account. -/
theorem Accounted.step (h : Accounted Starts config) {config' : Config ρ α τ σ}
    {choice : Choice ρ α ι κ τ} (hallows : Allows Starts Permits config choice)
    (hfresh : ∀ tag program, choice = .start tag program → IsFresh config tag)
    (hstep : system.step config choice = some config') : Accounted Starts config' := by
  rcases step_cases hstep with ⟨tag, program, rfl, rfl⟩ | ⟨i, input, tag, value, rfl, hi, rfl⟩ |
    ⟨i, input, tag, op, next, rfl, hi, hready, rfl⟩ | ⟨tag, next, rfl, rfl⟩
  · obtain ⟨hthreads, hlog⟩ := hfresh tag program rfl
    refine ⟨?_, ?_, h.returned⟩
    · dsimp only
      rw [List.map_append, List.map_singleton, List.nodup_append]
      refine ⟨h.nodup, List.nodup_singleton _, ?_⟩
      intro other hother last hlast
      obtain ⟨thread, hthread, rfl⟩ := List.mem_map.mp hother
      rw [List.mem_singleton.mp hlast]
      exact hthreads thread hthread
    · intro thread hthread
      rcases List.mem_append.mp hthread with hold | hnew
      · exact h.threads thread hold
      · rw [List.mem_singleton.mp hnew]
        dsimp only
        rw [operationsOf_of_fresh hlog]
        exact ⟨program, hallows, .refl program⟩
  · have hmem := List.mem_of_getElem? hi
    refine ⟨?_, ?_, ?_⟩
    · exact h.nodup.sublist ((List.eraseIdx_sublist _ _).map _)
    · intro thread hthread
      dsimp only
      rw [operationsOf_concat_returned]
      exact h.threads thread (List.mem_of_mem_eraseIdx hthread)
    · apply h.returned_concat
      rintro other result ⟨⟩
      exact h.threads _ hmem
  · have hmem := List.mem_of_getElem? hi
    refine ⟨?_, ?_, ?_⟩
    · dsimp only
      rw [map_fst_set hi]
      exact h.nodup
    · intro thread hthread
      dsimp only at hthread ⊢
      obtain ⟨j, hj⟩ := List.mem_iff_getElem?.mp hthread
      by_cases hsame : i = j
      · subst hsame
        rw [List.getElem?_set_self (List.getElem?_eq_some_iff.mp hi).1] at hj
        obtain ⟨program, hstarts, hleads⟩ := h.threads _ hmem
        cases hj
        refine ⟨program, hstarts, ?_⟩
        rw [operationsOf_concat_performed]
        exact hleads.concat _
      · rw [List.getElem?_set_ne hsame] at hj
        have hne : (Event.performed tag
            ⟨op, (system.exec tag op input config.state).1⟩ : Event ρ α τ).tag ≠ thread.1 :=
          h.tag_ne hi hj hsame
        rw [operationsOf_concat_of_ne hne]
        exact h.threads thread (List.mem_of_getElem? hj)
    · apply h.returned_concat
      rintro other result ⟨⟩
  · refine ⟨?_, ?_, h.returned⟩
    · exact h.nodup.sublist (List.filter_sublist.map _)
    · intro thread hthread
      exact h.threads thread (List.mem_of_mem_filter hthread)

theorem TaggedRun.accounted (run : TaggedRun system Starts Permits initial config) :
    Accounted Starts config := by
  induction run with
  | initial =>
    refine ⟨List.nodup_nil, ?_, ?_⟩
    · intro thread hthread
      cases hthread
    · intro before tag value after hlog
      simp at hlog
  | step choice _ hallows hfresh hstep ih => exact ih.step hallows hfresh hstep

/-- A step leaves every tag unused that it does not start a call with. -/
theorem IsFresh.step {tag : τ} (h : IsFresh config tag) {config' : Config ρ α τ σ}
    {choice : Choice ρ α ι κ τ} (hother : ∀ program, choice ≠ .start tag program)
    (hstep : system.step config choice = some config') : IsFresh config' tag := by
  rcases step_cases hstep with ⟨other, program, rfl, rfl⟩ |
    ⟨i, input, other, value, rfl, hi, rfl⟩ |
    ⟨i, input, other, op, next, rfl, hi, hready, rfl⟩ | ⟨other, next, rfl, rfl⟩
  · refine ⟨?_, h.2⟩
    intro thread hthread
    rcases List.mem_append.mp hthread with hold | hnew
    · exact h.1 thread hold
    · rw [List.mem_singleton.mp hnew]
      rintro rfl
      exact hother program rfl
  · have hne := h.1 _ (List.mem_of_getElem? hi)
    refine ⟨fun thread hthread ↦ h.1 thread (List.mem_of_mem_eraseIdx hthread), ?_⟩
    intro event hevent
    rcases List.mem_append.mp hevent with hold | hnew
    · exact h.2 event hold
    · rw [List.mem_singleton.mp hnew]
      exact hne
  · have hne := h.1 _ (List.mem_of_getElem? hi)
    constructor
    · intro thread hthread
      rcases List.mem_or_eq_of_mem_set hthread with hold | rfl
      · exact h.1 thread hold
      · exact hne
    · intro event hevent
      rcases List.mem_append.mp hevent with hold | hnew
      · exact h.2 event hold
      · rw [List.mem_singleton.mp hnew]
        exact hne
  · exact ⟨fun thread hthread ↦ h.1 thread (List.mem_of_mem_filter hthread), h.2⟩

/-- The tags that calls are started with. -/
def startedTags (choices : List (Choice ρ α ι κ τ)) : List τ :=
  choices.filterMap fun choice ↦ match choice with
    | .start tag _ => some tag
    | _ => none

/-- A list of choices that start admissible calls, each with a tag of its own, is a run. -/
theorem TaggedRun.steps {permits : τ → ω → ι → σ → Bool} {config' : Config ρ α τ σ}
    {choices : List (Choice ρ α ι κ τ)} (run : TaggedRun system Starts Permits initial config)
    (hstarts : ∀ tag program, .start tag program ∈ choices → Starts tag program)
    (hpermits : ∀ tag op input s, permits tag op input s = true → Permits tag op input s)
    (hnodup : (startedTags choices).Nodup)
    (hfresh : ∀ tag ∈ startedTags choices, IsFresh config tag)
    (h : system.steps permits config choices = some config') :
    TaggedRun system Starts Permits initial config' := by
  induction choices generalizing config with
  | nil =>
    cases h
    exact run
  | cons choice choices ih =>
    unfold System.steps at h
    split at h
    · next hpermitted =>
      obtain ⟨next, hstep, hrest⟩ := Option.bind_eq_some_iff.mp h
      have hallows := allows_of_isPermitted
        (fun tag program hchoice ↦ hstarts tag program (hchoice ▸ List.mem_cons_self)) hpermits
        hpermitted
      have hsub : (startedTags choices).Sublist (startedTags (choice :: choices)) :=
        (List.sublist_cons_self choice choices).filterMap _
      apply ih (run.step choice hallows ?_ hstep) ?_ (hnodup.sublist hsub) ?_ hrest
      · rintro tag program rfl
        exact hfresh tag List.mem_cons_self
      · intro tag program hmem
        exact hstarts tag program (List.mem_cons_of_mem choice hmem)
      · intro tag hmem
        refine (hfresh tag (hsub.subset hmem)).step ?_ hstep
        rintro program rfl
        exact (List.nodup_cons.mp hnodup).1 hmem
    · cases h

end Rules

end System

end PrivateBallot.Base
