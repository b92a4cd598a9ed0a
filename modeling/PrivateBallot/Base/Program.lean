import Mathlib.Algebra.Ring.Nat
import Mathlib.Data.List.Basic

/-!
# Programs as sequences of atomic operations

Library `Base`. A program issues one operation at a time and goes on with its response, so
that a call can be cut off between any two operations and calls of several threads can be
interleaved at them. What an operation does is given by a handler: from the input of the
environment (does the operating system let it succeed, what does the clock show) and the
shared state it computes the response and the next state.
-/

namespace PrivateBallot.Base

/-- A program over operations `ω` with responses `ρ`. -/
inductive Program {ω : Type} (ρ : ω → Type) (α : Type) where
  | done (value : α)
  | act (op : ω) (next : ρ op → Program ρ α)

namespace Program

variable {ω : Type} {ρ : ω → Type} {α β ε σ ι : Type}

/-- Runs `p` and goes on with its result. -/
def bind (p : Program ρ α) (k : α → Program ρ β) : Program ρ β :=
  match p with
  | done a => k a
  | act op next => act op fun response ↦ (next response).bind k

instance : Monad (Program ρ) where
  pure := done
  bind := bind

/-- The program that issues one operation and returns its response. -/
def call (op : ω) : Program ρ (ρ op) := act op done

/-- What an operation answers and does to the state, for each input of the environment. -/
abbrev Handler (ρ : ω → Type) (ι σ : Type) := (op : ω) → ι → σ → ρ op × σ

/-- Runs a program on one input for each operation. The result is absent where the inputs end
before the program does: the call was cut off there. Unused inputs are returned. -/
def resume (exec : Handler ρ ι σ) : Program ρ α → List ι → σ → Option (α × List ι) × σ
  | done a, inputs, s => (some (a, inputs), s)
  | act _ _, [], s => (none, s)
  | act op next, input :: inputs, s =>
    (next (exec op input s).1).resume exec inputs (exec op input s).2

/-- The operations a call performs, each with its response, in order. -/
def trace (exec : Handler ρ ι σ) : Program ρ α → List ι → σ → List (Sigma ρ)
  | done _, _, _ => []
  | act _ _, [], _ => []
  | act op next, input :: inputs, s =>
    ⟨op, (exec op input s).1⟩ ::
      (next (exec op input s).1).trace exec inputs (exec op input s).2

/-- Runs a program to its end, on a stream of inputs. -/
def perform (exec : Handler ρ ι σ) : Program ρ α → (Nat → ι) → σ → α × σ
  | done a, _, s => (a, s)
  | act op next, inputs, s =>
    (next (exec op (inputs 0) s).1).perform exec (fun n ↦ inputs (n + 1))
      (exec op (inputs 0) s).2

/-- Every operation the program can issue, whatever is answered, satisfies `P`. -/
def Issues (P : ω → Prop) : Program ρ α → Prop
  | done _ => True
  | act op next => P op ∧ ∀ response, (next response).Issues P

/-- With these operations performed and answered, the program has become the other. -/
inductive Leads : Program ρ α → List (Sigma ρ) → Program ρ α → Prop
  | refl (p : Program ρ α) : Leads p [] p
  | act {op : ω} {next : ρ op → Program ρ α} {response : ρ op} {performed : List (Sigma ρ)}
      {q : Program ρ α} (h : Leads (next response) performed q) :
      Leads (.act op next) (⟨op, response⟩ :: performed) q

/-- Wherever the program stops, by returning or by being cut off, `Q` holds of the operations
performed, the result (absent if it was cut off) and the state, for all inputs that satisfy
`J`. -/
def Ensures (exec : Handler ρ ι σ) (J : ι → Prop)
    (Q : List (Sigma ρ) → Option α → σ → Prop) : Program ρ α → List (Sigma ρ) → σ → Prop
  | done a, performed, s => Q performed (some a) s
  | act op next, performed, s =>
    Q performed none s ∧ ∀ input, J input →
      (next (exec op input s).1).Ensures exec J Q
        (performed ++ [⟨op, (exec op input s).1⟩]) (exec op input s).2

/-- What the first part of a sequence has to end in: `Q` where it was cut off, else whatever
makes the rest end in `Q`. -/
def Continues (exec : Handler ρ ι σ) (J : ι → Prop) (k : β → Program ρ α)
    (Q : List (Sigma ρ) → Option α → σ → Prop) : List (Sigma ρ) → Option β → σ → Prop
  | performed, none, s => Q performed none s
  | performed, some b, s => (k b).Ensures exec J Q performed s

/-- The same for programs that may fail: an error ends the whole. -/
def ContinuesExcept (exec : Handler ρ ι σ) (J : ι → Prop) (k : β → ExceptT ε (Program ρ) α)
    (Q : List (Sigma ρ) → Option (Except ε α) → σ → Prop) :
    List (Sigma ρ) → Option (Except ε β) → σ → Prop
  | performed, none, s => Q performed none s
  | performed, some (.error e), s => Q performed (some (.error e)) s
  | performed, some (.ok b), s => (k b).run.Ensures exec J Q performed s

section Rules

variable {exec : Handler ρ ι σ} {J : ι → Prop} {Q : List (Sigma ρ) → Option α → σ → Prop}

/-- `Ensures` speaks about every call, cut off or not. -/
theorem Ensures.resume {p : Program ρ α} {performed : List (Sigma ρ)} {s : σ}
    (h : p.Ensures exec J Q performed s) (inputs : List ι) (hinputs : ∀ input ∈ inputs, J input) :
    Q (performed ++ p.trace exec inputs s) ((p.resume exec inputs s).1.map Prod.fst)
      (p.resume exec inputs s).2 := by
  induction p generalizing performed s inputs with
  | done a => simpa [Program.resume, trace, Ensures] using h
  | act op next ih =>
    cases inputs with
    | nil => simpa [Program.resume, trace] using h.1
    | cons input inputs =>
      have hinput : J input := hinputs input List.mem_cons_self
      have hrest : ∀ i ∈ inputs, J i := by
        intro i hi
        exact hinputs i (List.mem_cons_of_mem input hi)
      have hnext := ih _ (h.2 input hinput) inputs hrest
      simpa [Program.resume, trace, List.append_assoc] using hnext

/-- `Ensures` speaks about every uninterrupted call. -/
theorem Ensures.perform {p : Program ρ α} {performed : List (Sigma ρ)} {s : σ}
    (h : p.Ensures exec J Q performed s) (inputs : Nat → ι) (hinputs : ∀ n, J (inputs n)) :
    ∃ trace, Q trace (some (p.perform exec inputs s).1) (p.perform exec inputs s).2 := by
  induction p generalizing performed s inputs with
  | done a => exact ⟨performed, h⟩
  | act op next ih =>
    exact ih _ (h.2 (inputs 0) (hinputs 0)) (fun n ↦ inputs (n + 1)) fun n ↦ hinputs (n + 1)

/-- The rule of consequence. -/
theorem Ensures.mono {Q' : List (Sigma ρ) → Option α → σ → Prop} {p : Program ρ α}
    {performed : List (Sigma ρ)} {s : σ} (h : p.Ensures exec J Q performed s)
    (hQ : ∀ performed result s, Q performed result s → Q' performed result s) :
    p.Ensures exec J Q' performed s := by
  induction p generalizing performed s with
  | done a => exact hQ _ _ _ h
  | act op next ih => exact ⟨hQ _ _ _ h.1, fun input hinput ↦ ih _ (h.2 input hinput)⟩

/-- The rule of sequence. -/
theorem Ensures.bind {p : Program ρ β} {k : β → Program ρ α} {performed : List (Sigma ρ)} {s : σ}
    (h : p.Ensures exec J (Continues exec J k Q) performed s) :
    (p >>= k).Ensures exec J Q performed s := by
  induction p generalizing performed s with
  | done b => exact h
  | act op next ih => exact ⟨h.1, fun input hinput ↦ ih _ (h.2 input hinput)⟩

/-- The rule of sequence for programs that may fail. -/
theorem Ensures.bindExcept {Q : List (Sigma ρ) → Option (Except ε α) → σ → Prop}
    {p : ExceptT ε (Program ρ) β} {k : β → ExceptT ε (Program ρ) α}
    {performed : List (Sigma ρ)} {s : σ}
    (h : p.run.Ensures exec J (ContinuesExcept exec J k Q) performed s) :
    (p >>= k).run.Ensures exec J Q performed s := by
  apply Ensures.bind
  apply h.mono
  intro performed result s hresult
  cases result with
  | none => exact hresult
  | some outcome =>
    cases outcome with
    | error e => exact hresult
    | ok b => exact hresult

end Rules

section Runs

variable {exec : Handler ρ ι σ}

/-- What every operation keeps, a call keeps, cut off or not. -/
theorem resume_invariant {I : σ → Prop} (hstep : ∀ op input s, I s → I (exec op input s).2)
    (p : Program ρ α) (inputs : List ι) {s : σ} (h : I s) : I (p.resume exec inputs s).2 := by
  induction p generalizing inputs s with
  | done a => exact h
  | act op next ih =>
    cases inputs with
    | nil => exact h
    | cons input inputs => exact ih _ _ (hstep op input s h)

/-- States that no operation tells apart lead to the same result. -/
theorem resume_related {R : σ → σ → Prop}
    (hstep : ∀ op input s t, R s t →
      (exec op input s).1 = (exec op input t).1 ∧ R (exec op input s).2 (exec op input t).2)
    (p : Program ρ α) (inputs : List ι) {s t : σ} (h : R s t) :
    (p.resume exec inputs s).1 = (p.resume exec inputs t).1 ∧
      R (p.resume exec inputs s).2 (p.resume exec inputs t).2 := by
  induction p generalizing inputs s t with
  | done a => exact ⟨rfl, h⟩
  | act op next ih =>
    cases inputs with
    | nil => exact ⟨rfl, h⟩
    | cons input inputs =>
      obtain ⟨hresponse, hnext⟩ := hstep op input s t h
      rw [resume, resume, hresponse]
      exact ih _ _ hnext

end Runs

section Leads

/-- One more operation. -/
theorem Leads.concat {p : Program ρ α} {performed : List (Sigma ρ)} {op : ω}
    {next : ρ op → Program ρ α} (h : p.Leads performed (.act op next)) (response : ρ op) :
    p.Leads (performed ++ [⟨op, response⟩]) (next response) := by
  generalize hq : Program.act op next = q at h
  induction h with
  | refl p =>
    subst hq
    exact .act (.refl _)
  | act h ih => exact .act (ih hq)

/-- A program that has returned performs nothing. -/
theorem leads_done {a : α} {performed : List (Sigma ρ)} {q : Program ρ α} :
    (done a).Leads performed q ↔ performed = [] ∧ q = done a := by
  constructor
  · intro h
    cases h
    exact ⟨rfl, rfl⟩
  · rintro ⟨rfl, rfl⟩
    exact .refl _

/-- A program that has an operation to issue returns only behind it. -/
theorem leads_act_done {op : ω} {next : ρ op → Program ρ α} {performed : List (Sigma ρ)} {a : α} :
    (act op next).Leads performed (done a) ↔
      ∃ response rest, performed = ⟨op, response⟩ :: rest ∧
        (next response).Leads rest (done a) := by
  constructor
  · intro h
    cases h with
    | act h => exact ⟨_, _, rfl, h⟩
  · rintro ⟨response, rest, rfl, h⟩
    exact .act h

/-- A sequence that has returned performed first the one part, then the other. -/
theorem Leads.of_bind {p : Program ρ α} {k : α → Program ρ β} {performed : List (Sigma ρ)} {b : β}
    (h : (p >>= k).Leads performed (done b)) :
    ∃ first rest a, performed = first ++ rest ∧ p.Leads first (done a) ∧
      (k a).Leads rest (done b) := by
  induction p generalizing performed with
  | done a => exact ⟨[], performed, a, rfl, .refl _, h⟩
  | act op next ih =>
    obtain ⟨response, rest, rfl, hrest⟩ := leads_act_done.mp h
    obtain ⟨first, rest, a, rfl, hfirst, hend⟩ := ih response hrest
    exact ⟨⟨op, response⟩ :: first, rest, a, rfl, .act hfirst, hend⟩

end Leads

section Laws

@[simp] theorem pure_eq (a : α) : (pure a : Program ρ α) = done a := rfl

/-- The operations of a sequence are those of its parts. -/
theorem Issues.bind {P : ω → Prop} {p : Program ρ α} {k : α → Program ρ β}
    (hp : p.Issues P) (hk : ∀ a, (k a).Issues P) : (p >>= k).Issues P := by
  induction p with
  | done a => exact hk a
  | act op next ih => exact ⟨hp.1, fun response ↦ ih response (hp.2 response)⟩

/-- The same for programs that may fail: an error issues nothing more. -/
theorem Issues.bindExcept {P : ω → Prop} {p : ExceptT ε (Program ρ) α}
    {k : α → ExceptT ε (Program ρ) β} (hp : p.run.Issues P) (hk : ∀ a, (k a).run.Issues P) :
    (p >>= k).run.Issues P := by
  apply Issues.bind hp
  intro result
  cases result with
  | error e => trivial
  | ok a => exact hk a

end Laws

end Program

end PrivateBallot.Base
