import PrivateBallot.Base.Program

/-!
# Calls that share a state

Library `Base`. Any number of calls, interleaved at their operations. A call is known by its number
and by what was asked for; both are given to the handler, so that a state can record who did what.
What a call relies on and what it answers for are one relation for each number: a step of one call
stays within what all others rely on.
-/

namespace PrivateBallot.Base

variable {ω : Type} {ρ : ω → Type} {α ι κ σ : Type}

/-- The state, and the calls that have been made, each as far as it has come. A call that has come
to its end has returned. -/
structure CallBoard {ω : Type} (ρ : ω → Type) (α κ σ : Type) where
  state : σ
  calls : List (κ × Program ρ α)

/-- What the environment decides on: a further call, or the next operation of a call and its
input. -/
inductive CallChoice (ι κ : Type) where
  | start (request : κ)
  | advance (call : Nat) (input : ι)

/-- What is called for a request, and what the operations of a call do to the state. -/
structure CallSystem {ω : Type} (ρ : ω → Type) (α ι κ σ : Type) where
  program : κ → Program ρ α
  exec : Nat → κ → Program.Handler ρ ι σ

namespace CallSystem

variable (system : CallSystem ρ α ι κ σ)

/-- One step; none where there is no such call or it has returned. -/
def step (board : CallBoard ρ α κ σ) : CallChoice ι κ → Option (CallBoard ρ α κ σ)
  | .start request =>
    some { board with calls := board.calls ++ [(request, system.program request)] }
  | .advance call input =>
    match board.calls[call]? with
    | some (request, .act op next) =>
      let result := system.exec call request op input board.state
      some ⟨result.2, board.calls.set call (request, next result.1)⟩
    | _ => none

/-- The boards that are reached by operations that are permitted. -/
inductive Run (Permits : Nat → κ → ω → ι → σ → Prop) (initial : σ) : CallBoard ρ α κ σ → Prop
  | initial : Run Permits initial ⟨initial, []⟩
  | start {board : CallBoard ρ α κ σ} (request : κ) (run : Run Permits initial board) :
      Run Permits initial { board with calls := board.calls ++ [(request, system.program request)] }
  | advance {board : CallBoard ρ α κ σ} {call : Nat} {request : κ} {op : ω}
      {next : ρ op → Program ρ α} (input : ι) (run : Run Permits initial board)
      (hcall : board.calls[call]? = some (request, .act op next))
      (hpermits : Permits call request op input board.state) :
      Run Permits initial ⟨(system.exec call request op input board.state).2,
        board.calls.set call (request, next (system.exec call request op input board.state).1)⟩

/-- The operation that the choice performs passes the check. -/
def isPermitted (permits : Nat → κ → ω → ι → σ → Bool) (board : CallBoard ρ α κ σ) :
    CallChoice ι κ → Bool
  | .start _ => true
  | .advance call input =>
    match board.calls[call]? with
    | some (request, .act op _) => permits call request op input board.state
    | _ => true

/-- Several steps, with a check on the operations performed. -/
def steps (permits : Nat → κ → ω → ι → σ → Bool) (board : CallBoard ρ α κ σ)
    (choices : List (CallChoice ι κ)) : Option (CallBoard ρ α κ σ) :=
  choices.foldlM (fun board choice ↦
    if isPermitted permits board choice then system.step board choice else none) board

/-- What a call keeps: wherever the others have led to, each of its operations keeps `I` and stays
within what the others rely on, and it ends in `Q`. -/
def Stays {β : Type} (Permits : Nat → κ → ω → ι → σ → Prop) (I : σ → Prop)
    (Rely : Nat → σ → σ → Prop) (call : Nat) (request : κ) (Q : β → σ → Prop) :
    Program ρ β → σ → Prop
  | .done value, s => Q value s
  | .act op next, s => ∀ s' input, Rely call s s' → I s' → Permits call request op input s' →
      I (system.exec call request op input s').2 ∧
      (∀ other, other ≠ call → Rely other s' (system.exec call request op input s').2) ∧
      Stays Permits I Rely call request Q (next (system.exec call request op input s').1)
        (system.exec call request op input s').2

variable {system} {Permits : Nat → κ → ω → ι → σ → Prop} {I : σ → Prop}
  {Rely : Nat → σ → σ → Prop} {call : Nat} {request : κ}

/-- The rule of consequence. -/
theorem Stays.mono {β : Type} {Q Q' : β → σ → Prop} {p : Program ρ β} {s : σ}
    (h : system.Stays Permits I Rely call request Q p s) (hQ : ∀ b s, Q b s → Q' b s) :
    system.Stays Permits I Rely call request Q' p s := by
  induction p generalizing s with
  | done b => exact hQ b s h
  | act op next ih =>
    intro s' input hrely hI hpermits
    obtain ⟨hkept, hothers, hrest⟩ := h s' input hrely hI hpermits
    exact ⟨hkept, hothers, ih _ hrest⟩

/-- The rule of sequence. -/
theorem Stays.bind {β γ : Type} {Q : γ → σ → Prop} {p : Program ρ β} {k : β → Program ρ γ} {s : σ}
    (h : system.Stays Permits I Rely call request
      (fun b ↦ system.Stays Permits I Rely call request Q (k b)) p s) :
    system.Stays Permits I Rely call request Q (p >>= k) s := by
  induction p generalizing s with
  | done b => exact h
  | act op next ih =>
    intro s' input hrely hI hpermits
    obtain ⟨hkept, hothers, hrest⟩ := h s' input hrely hI hpermits
    exact ⟨hkept, hothers, ih _ hrest⟩

/-- Every reached board keeps `I`; a call that has returned ended in `Q`, and no more happened since
then than it can rely on. -/
theorem Run.stays {initial : σ} {board : CallBoard ρ α κ σ} {Q : Nat → κ → α → σ → Prop}
    (run : system.Run Permits initial board) (hrefl : ∀ call s, Rely call s s)
    (htrans : ∀ call s s' s'', Rely call s s' → Rely call s' s'' → Rely call s s'')
    (hinitial : I initial)
    (hstarts : ∀ call request s, I s → Rely call initial s →
      system.Stays Permits I Rely call request (Q call request) (system.program request) s) :
    I board.state ∧ ∀ call request value, board.calls[call]? = some (request, .done value) →
      ∃ s, Rely call s board.state ∧ Q call request value s := by
  suffices h : I board.state ∧
      (∀ call request p, board.calls[call]? = some (request, p) →
        ∃ s, Rely call s board.state ∧
          system.Stays Permits I Rely call request (Q call request) p s) ∧
      ∀ call, board.calls.length ≤ call → Rely call initial board.state by
    refine ⟨h.1, fun call request value hcall ↦ ?_⟩
    exact h.2.1 call request (.done value) hcall
  induction run with
  | initial => exact ⟨hinitial, fun _ _ _ h ↦ (by cases h), fun call _ ↦ hrefl call initial⟩
  | @start board request run ih =>
    obtain ⟨hI, hcalls, hfresh⟩ := ih
    refine ⟨hI, fun call request' p hcall ↦ ?_, fun call hle ↦ ?_⟩
    · by_cases hlt : call < board.calls.length
      · rw [List.getElem?_append_left hlt] at hcall
        exact hcalls call request' p hcall
      · -- the new call
        rw [List.getElem?_append_right (Nat.le_of_not_lt hlt), List.getElem?_singleton] at hcall
        split at hcall
        · cases hcall
          have hrely := hfresh call (Nat.le_of_not_lt hlt)
          exact ⟨_, hrefl _ _, hstarts call request _ hI hrely⟩
        · cases hcall
    · rw [List.length_append, List.length_singleton] at hle
      exact hfresh call (Nat.le_of_succ_le hle)
  | @advance board call request op next input run hcall hpermits ih =>
    obtain ⟨hI, hcalls, hfresh⟩ := ih
    obtain ⟨s, hrely, hstays⟩ := hcalls call request _ hcall
    obtain ⟨hI', hothers, hrest⟩ := hstays _ input hrely hI hpermits
    have hlt : call < board.calls.length := (List.getElem?_eq_some_iff.mp hcall).1
    refine ⟨hI', fun other request' p hother ↦ ?_, fun other hle ↦ ?_⟩
    · by_cases heq : other = call
      · subst heq
        rw [List.getElem?_set_self hlt] at hother
        cases hother
        exact ⟨_, hrefl _ _, hrest⟩
      · rw [List.getElem?_set_ne (Ne.symm heq)] at hother
        obtain ⟨s', hrely', hstays'⟩ := hcalls other request' p hother
        exact ⟨s', htrans _ _ _ _ hrely' (hothers other heq), hstays'⟩
    · rw [List.length_set] at hle
      exact htrans _ _ _ _ (hfresh other hle) (hothers other (by omega))

/-- Steps whose operations pass a check are a run of what the check permits. -/
theorem Run.steps {initial : σ} {board board' : CallBoard ρ α κ σ}
    {permits : Nat → κ → ω → ι → σ → Bool} {choices : List (CallChoice ι κ)}
    (run : system.Run Permits initial board)
    (hpermits : ∀ call request op input s, permits call request op input s = true →
      Permits call request op input s)
    (h : system.steps permits board choices = some board') :
    system.Run Permits initial board' := by
  induction choices generalizing board with
  | nil =>
    cases h
    exact run
  | cons choice choices ih =>
    obtain ⟨next, hnext, hrest⟩ := Option.bind_eq_some_iff.mp h
    obtain ⟨hpermitted, hnext⟩ := Option.ite_none_right_eq_some.mp hnext
    apply ih _ hrest
    cases choice with
    | start request =>
      cases hnext
      exact run.start request
    | advance call input =>
      simp only [CallSystem.step] at hnext
      split at hnext
      · next request op rest hcall =>
        cases hnext
        simp only [isPermitted, hcall] at hpermitted
        exact run.advance input hcall (hpermits call request op input _ hpermitted)
      · cases hnext

end CallSystem

end PrivateBallot.Base
