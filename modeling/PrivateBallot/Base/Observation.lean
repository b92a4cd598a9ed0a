import Mathlib.Algebra.Ring.Nat
import Mathlib.Data.List.Basic

/-!
# Observed runs

Library `Base`. Machines that answer every input and move on, and what an observer sees of their
answers. Two runs look the same to the observer as long as a relation between their states, which
may depend on the inputs so far, is kept and makes the observed answers equal.
-/

namespace PrivateBallot.Base

/-- A machine answers an input and moves to its next state. -/
structure Mealy (σ ι ω : Type) where
  step : σ → ι → ω × σ

namespace Mealy

variable {σ τ ι ω υ : Type}

/-- The state behind these inputs. -/
def after (self : Mealy σ ι ω) : σ → List ι → σ
  | state, [] => state
  | state, input :: rest => self.after (self.step state input).2 rest

/-- The answers to these inputs. -/
def outputs (self : Mealy σ ι ω) : σ → List ι → List ω
  | _, [] => []
  | state, input :: rest => (self.step state input).1 :: self.outputs (self.step state input).2 rest

theorem after_append (self : Mealy σ ι ω) (state : σ) (before rest : List ι) :
    self.after state (before ++ rest) = self.after (self.after state before) rest := by
  induction before generalizing state with
  | nil => rfl
  | cons input before ih => exact ih _

theorem outputs_append (self : Mealy σ ι ω) (state : σ) (before rest : List ι) :
    self.outputs state (before ++ rest) =
      self.outputs state before ++ self.outputs (self.after state before) rest := by
  induction before generalizing state with
  | nil => rfl
  | cons input before ih => exact congrArg (_ :: ·) (ih _)

@[simp] theorem length_outputs (self : Mealy σ ι ω) (state : σ) (inputs : List ι) :
    (self.outputs state inputs).length = inputs.length := by
  induction inputs generalizing state with
  | nil => rfl
  | cons input rest ih => simp only [outputs, List.length_cons, ih]

/-- What every step keeps, given the inputs so far, holds behind all inputs. -/
theorem after_induct (self : Mealy σ ι ω) {P : List ι → σ → Prop} {state : σ} (hstart : P [] state)
    (hstep : ∀ before input state, P before state →
      P (before ++ [input]) (self.step state input).2) (inputs : List ι) :
    P inputs (self.after state inputs) := by
  have hall : ∀ rest before state, P before state → P (before ++ rest) (self.after state rest) := by
    intro rest
    induction rest with
    | nil =>
      intro before state h
      rwa [List.append_nil]
    | cons input rest ih =>
      intro before state h
      have hrest := ih (before ++ [input]) _ (hstep before input state h)
      rwa [List.append_assoc] at hrest
  exact hall inputs [] state hstart

/-- Every input is one that `P` lets through in the state it finds. -/
def Along (self : Mealy σ ι ω) (P : σ → ι → Prop) : σ → List ι → Prop
  | _, [] => True
  | state, input :: rest => P state input ∧ self.Along P (self.step state input).2 rest

instance Along.decidable (self : Mealy σ ι ω) (P : σ → ι → Prop)
    [∀ state input, Decidable (P state input)] :
    ∀ state inputs, Decidable (self.Along P state inputs)
  | _, [] => .isTrue trivial
  | state, input :: rest =>
    have := Along.decidable self P (self.step state input).2 rest
    inferInstanceAs (Decidable (P state input ∧ self.Along P (self.step state input).2 rest))

theorem along_append {self : Mealy σ ι ω} {P : σ → ι → Prop} {state : σ} {before rest : List ι} :
    self.Along P state (before ++ rest) ↔
      self.Along P state before ∧ self.Along P (self.after state before) rest := by
  induction before generalizing state with
  | nil => simp only [List.nil_append, Along, after, true_and]
  | cons input before ih => simp only [List.cons_append, Along, after, ih, and_assoc]

/-- What every step that is let through keeps holds behind a run of such steps. -/
theorem Along.invariant {self : Mealy σ ι ω} {P : σ → ι → Prop} {I : σ → Prop} {state : σ}
    {inputs : List ι} (h : self.Along P state inputs) (hstart : I state)
    (hstep : ∀ state input, I state → P state input → I (self.step state input).2) :
    I (self.after state inputs) := by
  induction inputs generalizing state with
  | nil => exact hstart
  | cons input rest ih => exact ih h.2 (hstep state input hstart h.1)

/-- Two runs look the same, if a relation between their states is kept that makes what is observed
of the answers equal. -/
theorem observed_eq {M : Mealy σ ι ω} {N : Mealy τ ι ω} {observe : ω → υ}
    {R : List ι → σ → τ → Prop} {inputs : List ι} {a : σ} {b : τ} (hstart : R [] a b)
    (hstep : ∀ before input rest a b, inputs = before ++ input :: rest → R before a b →
      observe (M.step a input).1 = observe (N.step b input).1 ∧
        R (before ++ [input]) (M.step a input).2 (N.step b input).2) :
    (M.outputs a inputs).map observe = (N.outputs b inputs).map observe := by
  have hall : ∀ rest before a b, inputs = before ++ rest → R before a b →
      (M.outputs a rest).map observe = (N.outputs b rest).map observe := by
    intro rest
    induction rest with
    | nil => exact fun _ _ _ _ _ ↦ rfl
    | cons input rest ih =>
      intro before a b hinputs hrelated
      obtain ⟨hsame, hnext⟩ := hstep before input rest a b hinputs hrelated
      have hrest := ih (before ++ [input]) _ _ (by rw [hinputs, List.append_assoc]; rfl) hnext
      rw [outputs, outputs, List.map_cons, List.map_cons, hsame, hrest]
  exact hall inputs [] a b rfl hstart

/-- Where two runs look the same, every answer does. -/
theorem observed_step_eq {M : Mealy σ ι ω} {N : Mealy τ ι ω} {observe : ω → υ}
    {before rest : List ι} {input : ι} {a : σ} {b : τ}
    (h : (M.outputs a (before ++ input :: rest)).map observe =
      (N.outputs b (before ++ input :: rest)).map observe) :
    observe (M.step (M.after a before) input).1 = observe (N.step (N.after b before) input).1 := by
  rw [outputs_append, outputs_append, List.map_append, List.map_append] at h
  have hlength : ((M.outputs a before).map observe).length =
      ((N.outputs b before).map observe).length := by simp
  obtain ⟨-, hrest⟩ := List.append_inj h hlength
  rw [outputs, outputs, List.map_cons, List.map_cons] at hrest
  exact (List.cons.inj hrest).1

end Mealy

end PrivateBallot.Base
