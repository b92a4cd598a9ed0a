import PrivateBallot.Base.Program

/-!
# Ends of programs, and programs over a part of the state

Library `Base`. What holds wherever a program stops, by returning or by being cut off, with rules
that follow the way programs are written. A program that was written for a small system runs inside
a larger one: each of its operations has a name there, and the larger system answers it as the small
one does; what the program ensures of the small state it then ensures of that part of the large one.
-/

namespace PrivateBallot.Base.Program

variable {ω ω' : Type} {ρ : ω → Type} {ρ' : ω' → Type} {α β ε ε' σ τ ι ι' : Type}

/-- Wherever the program stops, `Q` holds of the result, absent if it was cut off, and of the
state. -/
def Ends (exec : Handler ρ ι σ) (Q : Option α → σ → Prop) (p : Program ρ α) (s : σ) : Prop :=
  ∀ performed, p.Ensures exec (fun _ ↦ True) (fun _ ↦ Q) performed s

/-- What the first part of a sequence has to end in: `Q` where it was cut off, else whatever
makes the rest end in `Q`. -/
def GoesOn (exec : Handler ρ ι σ) (k : β → Program ρ α) (Q : Option α → σ → Prop) :
    Option β → σ → Prop
  | none, s => Q none s
  | some b, s => (k b).Ends exec Q s

/-- The same for programs that may fail: an error ends the whole. -/
def GoesOnExcept (exec : Handler ρ ι σ) (k : β → ExceptT ε (Program ρ) α)
    (Q : Option (Except ε α) → σ → Prop) : Option (Except ε β) → σ → Prop
  | none, s => Q none s
  | some (.error e), s => Q (some (.error e)) s
  | some (.ok b), s => (k b).run.Ends exec Q s

namespace Ends

variable {exec : Handler ρ ι σ} {s : σ}

/-- What has been performed before makes no difference. -/
theorem of_ensures {Q : Option α → σ → Prop} {p : Program ρ α} {performed : List (Sigma ρ)}
    (h : p.Ensures exec (fun _ ↦ True) (fun _ ↦ Q) performed s) : p.Ends exec Q s := by
  intro performed'
  induction p generalizing performed performed' s with
  | done a => exact h
  | act op next ih => exact ⟨h.1, fun input hinput ↦ ih _ (h.2 input hinput) _⟩

theorem done {Q : Option α → σ → Prop} {a : α} (h : Q (some a) s) :
    (Program.done a : Program ρ α).Ends exec Q s :=
  fun _ ↦ h

theorem act {Q : Option α → σ → Prop} {op : ω} {next : ρ op → Program ρ α} (hcut : Q none s)
    (hnext : ∀ input, (next (exec op input s).1).Ends exec Q (exec op input s).2) :
    (Program.act op next).Ends exec Q s :=
  fun _ ↦ ⟨hcut, fun input _ ↦ hnext input _⟩

/-- Every run stops where `Q` holds. -/
theorem resume {Q : Option α → σ → Prop} {p : Program ρ α} (h : p.Ends exec Q s)
    (inputs : List ι) :
    Q ((p.resume exec inputs s).1.map Prod.fst) (p.resume exec inputs s).2 :=
  (h []).resume inputs fun _ _ ↦ trivial

theorem mono {Q Q' : Option α → σ → Prop} {p : Program ρ α} (h : p.Ends exec Q s)
    (hQ : ∀ result s, Q result s → Q' result s) : p.Ends exec Q' s :=
  fun performed ↦ (h performed).mono fun _ result s ↦ hQ result s

/-- Two things that hold at every end hold there together. -/
theorem and {Q Q' : Option α → σ → Prop} {p : Program ρ α} (h : p.Ends exec Q s)
    (h' : p.Ends exec Q' s) : p.Ends exec (fun result s ↦ Q result s ∧ Q' result s) s := by
  induction p generalizing s with
  | done a => exact Ends.done ⟨h [], h' []⟩
  | act op next ih =>
    refine Ends.act ⟨(h []).1, (h' []).1⟩ fun input ↦ ?_
    exact ih _ (of_ensures ((h []).2 input trivial)) (of_ensures ((h' []).2 input trivial))

/-- One part after the other: what is left of the first is where the second begins. -/
theorem bind {Q : Option α → σ → Prop} {p : Program ρ β} {k : β → Program ρ α}
    (h : p.Ends exec (GoesOn exec k Q) s) : (p >>= k).Ends exec Q s := by
  intro performed
  apply Ensures.bind
  apply (h performed).mono
  intro performed result s hresult
  cases result with
  | none => exact hresult
  | some b => exact hresult performed

/-- The same for programs that may fail: an error ends the whole. -/
theorem bindExcept {Q : Option (Except ε α) → σ → Prop} {p : ExceptT ε (Program ρ) β}
    {k : β → ExceptT ε (Program ρ) α}
    (h : p.run.Ends exec (GoesOnExcept exec k Q) s) : (p >>= k).run.Ends exec Q s := by
  apply Ends.bind
  apply h.mono
  intro result s hresult
  cases result with
  | none => exact hresult
  | some outcome =>
    cases outcome with
    | error e => exact Ends.done hresult
    | ok b => exact hresult

/-- Another name for the errors of a program. -/
theorem adapt {Q : Option (Except ε' α) → σ → Prop} {f : ε → ε'}
    {p : ExceptT ε (Program ρ) α}
    (h : p.run.Ends exec (fun result s ↦ Q (result.map (Except.mapError f)) s) s) :
    (ExceptT.adapt f p).run.Ends exec Q s := by
  show ((p.run >>= fun result ↦ Program.done (result.mapError f)) :
    Program ρ (Except ε' α)).Ends exec Q s
  apply Ends.bind
  apply h.mono
  intro result s hresult
  cases result with
  | none => exact hresult
  | some outcome => exact Ends.done hresult

/-- What each operation of a program keeps, the program keeps. -/
theorem of_issues {P : ω → Prop} {I : σ → Prop}
    (hstep : ∀ op input s, P op → I s → I (exec op input s).2) {p : Program ρ α}
    (hissues : p.Issues P) (h : I s) : p.Ends exec (fun _ ↦ I) s := by
  induction p generalizing s with
  | done a => exact Ends.done h
  | act op next ih =>
    exact Ends.act h fun input ↦ ih _ (hissues.2 _) (hstep op input s hissues.1 h)

end Ends

/-! ### Parts of the state -/

/-- The same program, its operations named in a larger system. -/
def via (name : ω → ω') (answer : ∀ op, ρ' (name op) → ρ op) : Program ρ α → Program ρ' α
  | done a => done a
  | act op next => act (name op) fun response ↦ (next (answer op response)).via name answer

/-- The larger system carries the operations out on a part of its state, as the small one does. -/
structure Carries (exec : Handler ρ ι σ) (exec' : Handler ρ' ι' τ) (name : ω → ω')
    (answer : ∀ op, ρ' (name op) → ρ op) (part : τ → σ) (input : ι' → ι) : Prop where
  response : ∀ op i t, answer op (exec' (name op) i t).1 = (exec op (input i) (part t)).1
  state : ∀ op i t, part (exec' (name op) i t).2 = (exec op (input i) (part t)).2

/-- What a program ensures of the small state, it ensures of the part. -/
theorem Ends.via {exec : Handler ρ ι σ} {exec' : Handler ρ' ι' τ} {name : ω → ω'}
    {answer : ∀ op, ρ' (name op) → ρ op} {part : τ → σ} {input : ι' → ι}
    (hcarries : Carries exec exec' name answer part input) {Q : Option α → σ → Prop}
    {p : Program ρ α} {t : τ} (h : p.Ends exec Q (part t)) :
    (p.via name answer).Ends exec' (fun result t ↦ Q result (part t)) t := by
  induction p generalizing t with
  | done a => exact Ends.done (h [])
  | act op next ih =>
    refine Ends.act (h []).1 fun i ↦ ?_
    have hnext := (h []).2 (input i) trivial
    rw [← hcarries.response op i t, ← hcarries.state op i t] at hnext
    exact ih _ (Ends.of_ensures hnext)

/-- The operations of the program are those it had, by their names. -/
theorem Issues.via {name : ω → ω'} {answer : ∀ op, ρ' (name op) → ρ op} {P : ω → Prop}
    {P' : ω' → Prop} (hname : ∀ op, P op → P' (name op)) {p : Program ρ α} (h : p.Issues P) :
    (p.via name answer).Issues P' := by
  induction p with
  | done a => trivial
  | act op next ih => exact ⟨hname op h.1, fun response ↦ ih _ (h.2 _)⟩

/-- Every program issues operations. -/
theorem issues_true (p : Program ρ α) : p.Issues fun _ ↦ True := by
  induction p with
  | done a => trivial
  | act op next ih => exact ⟨trivial, ih⟩

end PrivateBallot.Base.Program
