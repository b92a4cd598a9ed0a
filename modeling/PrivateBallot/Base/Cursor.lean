import PrivateBallot.Base.Bytes

/-!
# Reading at a position

Library `Base`. A reader keeps a byte string and a position in it. It looks at single bytes, indexes
and slices by position, and repeats steps until one says stop. An index or a slice out of range and
a sum past 64 bits are panics, and a turn of a loop that stays where it is could go on for ever.
`Takes` says what a reader makes of bytes that were written for it, `Advances` that none of these
faults occurs, whatever the bytes are; both have a rule for each way readers are put together.
-/

namespace PrivateBallot.Base

/-- Why a program ended without a result. -/
inductive Fault (ε : Type) where
  /-- It returned this error. -/
  | refused (e : ε)
  /-- It indexed out of range, overflowed or unwrapped nothing. -/
  | panicked
  /-- A turn of a loop did not move forward. -/
  | stalled
deriving DecidableEq

/-- `x?` -/
def orRefuse {ε α : Type} (x : Except ε α) : Except (Fault ε) α := x.mapError .refused

/-- A reader: from bytes and a position, a value and the next position. -/
def Cursor (ε α : Type) : Type := Bytes → Nat → Except (Fault ε) (α × Nat)

namespace Cursor

variable {ε α β σ : Type}

instance : Monad (Cursor ε) where
  pure a := fun _ pos ↦ .ok (a, pos)
  bind p f := fun bytes pos ↦ match p bytes pos with
    | .ok (a, next) => f a bytes next
    | .error fault => .error fault

/-- `Err(e)` -/
def refuse (e : ε) : Cursor ε α := fun _ _ ↦ .error (.refused e)

/-- `x?` -/
def lift (x : Except ε α) : Cursor ε α := fun _ pos ↦ (orRefuse x).map (·, pos)

/-- `a + b` on `usize`. -/
def usizeAdd (a b : Nat) : Cursor ε Nat := fun _ pos ↦
  if a + b < 2 ^ 64 then .ok (a + b, pos) else .error .panicked

/-- `xs[i]` -/
def index (xs : List α) (i : Nat) : Cursor ε α := fun _ pos ↦
  match xs[i]? with
  | some x => .ok (x, pos)
  | none => .error .panicked

/-- `&xs[start..stop]` -/
def slice (xs : List α) (start stop : Nat) : Cursor ε (List α) := fun _ pos ↦
  if start ≤ stop ∧ stop ≤ xs.length then .ok ((xs.drop start).take (stop - start), pos)
  else .error .panicked

/-- `self.bytes` -/
def input : Cursor ε Bytes := fun bytes pos ↦ .ok (bytes, pos)

/-- `self.pos` -/
def position : Cursor ε Nat := fun _ pos ↦ .ok (pos, pos)

/-- `self.pos += n` -/
def advance (n : Nat) : Cursor ε Unit := fun _ pos ↦
  if pos + n < 2 ^ 64 then .ok ((), pos + n) else .error .panicked

/-- `self.bytes.get(self.pos).copied()` -/
def peek : Cursor ε (Option UInt8) := fun bytes pos ↦ .ok (bytes[pos]?, pos)

/-- `self.pos + word.len() <= self.bytes.len() && &self.bytes[self.pos..self.pos + word.len()] ==
word` -/
def lookingAt (word : Bytes) : Cursor ε Bool := do
  let bytes ← input
  let pos ← position
  let stop ← usizeAdd pos word.length
  if stop ≤ bytes.length then
    let found ← slice bytes pos stop
    pure (found == word)
  else pure false

/-- The turns of a loop from one position on. -/
def turns (body : σ → Cursor ε (σ ⊕ β)) (s : σ) (bytes : Bytes) (pos : Nat) :
    Except (Fault ε) (β × Nat) :=
  match body s bytes pos with
  | .ok (.inl s, next) =>
    if pos < next ∧ next ≤ bytes.length then turns body s bytes next else .error .stalled
  | .ok (.inr b, next) => .ok (b, next)
  | .error fault => .error fault
termination_by bytes.length - pos

/-- A loop with a state: its body goes on from a new state or breaks with a value. -/
def repeatUntil (body : σ → Cursor ε (σ ⊕ β)) (s : σ) : Cursor ε β := turns body s

/-- The body of `skipWhile`. -/
def skipTurn (q : UInt8 → Bool) (_ : Unit) : Cursor ε (Unit ⊕ Unit) := do
  match ← peek with
  | some b =>
    if q b then
      advance 1
      pure (.inl ())
    else pure (.inr ())
  | none => pure (.inr ())

/-- `while let Some(byte) = self.bytes.get(self.pos).copied()`, moving on while the byte is as
`q` says. -/
def skipWhile (q : UInt8 → Bool) : Cursor ε Unit := repeatUntil (skipTurn q) ()

@[simp] theorem pure_apply (a : α) (bytes : Bytes) (pos : Nat) :
    (pure a : Cursor ε α) bytes pos = .ok (a, pos) := rfl

theorem bind_of_ok {p : Cursor ε α} {f : α → Cursor ε β} {bytes : Bytes} {pos next : Nat} {a : α}
    (h : p bytes pos = .ok (a, next)) : (p >>= f) bytes pos = f a bytes next := by
  show (match p bytes pos with
    | .ok (a, next) => f a bytes next
    | .error fault => .error fault) = _
  rw [h]

theorem bind_of_error {p : Cursor ε α} {f : α → Cursor ε β} {bytes : Bytes} {pos : Nat}
    {fault : Fault ε} (h : p bytes pos = .error fault) : (p >>= f) bytes pos = .error fault := by
  show (match p bytes pos with
    | .ok (a, next) => f a bytes next
    | .error fault => .error fault) = _
  rw [h]

theorem usizeAdd_apply {a b : Nat} (h : a + b < 2 ^ 64) (bytes : Bytes) (pos : Nat) :
    (usizeAdd a b : Cursor ε Nat) bytes pos = .ok (a + b, pos) := if_pos h

theorem slice_apply {xs : List α} {start n : Nat} (h : start + n ≤ xs.length) (bytes : Bytes)
    (pos : Nat) : (slice xs start (start + n) : Cursor ε (List α)) bytes pos =
      .ok ((xs.drop start).take n, pos) := by
  rw [slice, if_pos ⟨Nat.le_add_right start n, h⟩, Nat.add_sub_cancel_left]

theorem advance_apply {n pos : Nat} (h : pos + n < 2 ^ 64) (bytes : Bytes) :
    (advance n : Cursor ε Unit) bytes pos = .ok ((), pos + n) := if_pos h

/-- Looking at a word neither moves nor panics. -/
theorem lookingAt_apply {word bytes : Bytes} {pos : Nat} (hbytes : bytes.length < 2 ^ 63)
    (hword : word.length < 2 ^ 63) (hpos : pos ≤ bytes.length) :
    (lookingAt word : Cursor ε Bool) bytes pos =
      .ok (decide (word <+: bytes.drop pos), pos) := by
  have hstop : (lookingAt word : Cursor ε Bool) bytes pos =
      ((if pos + word.length ≤ bytes.length then do
        let found ← slice bytes pos (pos + word.length)
        pure (found == word)
      else pure false : Cursor ε Bool) bytes pos) :=
    bind_of_ok (usizeAdd_apply (by omega) bytes pos)
  rw [hstop]
  by_cases hfits : pos + word.length ≤ bytes.length
  · have hfound : ((bytes.drop pos).take word.length == word) =
        decide (word <+: bytes.drop pos) := by
      rw [Bool.eq_iff_iff, beq_iff_eq, decide_eq_true_iff, List.prefix_iff_eq_take, eq_comm]
    rw [if_pos hfits, bind_of_ok (slice_apply hfits bytes pos), pure_apply, hfound]
  · have hshort : ¬ word <+: bytes.drop pos := fun h ↦ by
      have hle := h.length_le
      rw [List.length_drop] at hle
      omega
    rw [if_neg hfits, pure_apply, decide_eq_false hshort]

theorem turns_eq (body : σ → Cursor ε (σ ⊕ β)) (s : σ) (bytes : Bytes) (pos : Nat) :
    repeatUntil body s bytes pos =
      match body s bytes pos with
      | .ok (.inl s, next) =>
        if pos < next ∧ next ≤ bytes.length then repeatUntil body s bytes next
        else .error .stalled
      | .ok (.inr b, next) => .ok (b, next)
      | .error fault => .error fault := by
  rw [repeatUntil, turns]
  rfl

private theorem skipTurn_of_none {q : UInt8 → Bool} {bytes : Bytes} {pos : Nat}
    (h : bytes[pos]? = none) :
    (skipTurn q () : Cursor ε (Unit ⊕ Unit)) bytes pos = .ok (.inr (), pos) := by
  rw [skipTurn, bind_of_ok (p := peek) rfl]
  simp only [h]
  rfl

private theorem skipTurn_of_some {q : UInt8 → Bool} {bytes : Bytes} {pos : Nat} {b : UInt8}
    (h : bytes[pos]? = some b) (hpos : pos + 1 < 2 ^ 64) :
    (skipTurn q () : Cursor ε (Unit ⊕ Unit)) bytes pos =
      .ok (if q b then (.inl (), pos + 1) else (.inr (), pos)) := by
  rw [skipTurn, bind_of_ok (p := peek) rfl]
  simp only [h]
  by_cases hq : q b = true
  · rw [if_pos hq, if_pos hq, bind_of_ok (advance_apply hpos bytes)]
    rfl
  · rw [if_neg hq, if_neg hq]
    rfl

/-- The loop ends behind the last byte that goes on. -/
theorem skipWhile_apply {q : UInt8 → Bool} {bytes : Bytes} {pos : Nat}
    (hbytes : bytes.length < 2 ^ 63) (hpos : pos ≤ bytes.length) :
    (skipWhile q : Cursor ε Unit) bytes pos =
      .ok ((), pos + ((bytes.drop pos).takeWhile q).length) := by
  induction hn : bytes.length - pos generalizing pos with
  | zero =>
    have hnone : bytes[pos]? = none := List.getElem?_eq_none (by omega)
    have hdrop : bytes.drop pos = [] := List.drop_eq_nil_of_le (by omega)
    rw [skipWhile, turns_eq, skipTurn_of_none hnone, hdrop]
    rfl
  | succ n ih =>
    have hlt : pos < bytes.length := by omega
    have hsome : bytes[pos]? = some bytes[pos] := List.getElem?_eq_getElem hlt
    have hdrop : bytes.drop pos = bytes[pos] :: bytes.drop (pos + 1) :=
      List.drop_eq_getElem_cons hlt
    rw [skipWhile, turns_eq, skipTurn_of_some hsome (by omega), hdrop, List.takeWhile_cons]
    by_cases hq : q bytes[pos] = true
    · simp only [if_pos hq]
      rw [if_pos ⟨by omega, by omega⟩]
      refine (ih (by omega) (by omega)).trans ?_
      rw [List.length_cons]
      congr 2
      omega
    · simp only [if_neg hq]
      rfl

/-! ### Bytes that were written for a reader -/

/-- Where the bytes go on with `x`, and what is behind it is as `P` says, the reader takes `x` and
returns `a`. -/
def Takes (P : Bytes → Prop) (p : Cursor ε α) (x : Bytes) (a : α) : Prop :=
  ∀ before rest : Bytes, (before ++ (x ++ rest)).length < 2 ^ 63 → P rest →
    p (before ++ (x ++ rest)) before.length = .ok (a, (before ++ x).length)

namespace Takes

variable {P Q : Bytes → Prop} {p : Cursor ε α} {f : α → Cursor ε β} {x y : Bytes} {a : α} {b : β}

theorem pure (a : α) : Takes P (Pure.pure a : Cursor ε α) [] a := by
  intro before rest hbytes hrest
  rw [pure_apply, List.append_nil]

theorem bind (hp : Takes Q p x a) (hf : Takes P (f a) y b)
    (hbehind : ∀ rest, P rest → Q (y ++ rest)) : Takes P (p >>= f) (x ++ y) b := by
  intro before rest hbytes hrest
  rw [List.append_assoc] at hbytes ⊢
  rw [bind_of_ok (hp before (y ++ rest) hbytes (hbehind rest hrest))]
  have h := hf (before ++ x) rest (by rw [List.append_assoc]; exact hbytes) hrest
  rw [List.append_assoc] at h
  rw [h, List.append_assoc]

/-- What is behind the first bytes does not matter. -/
theorem andThen (hp : Takes (fun _ ↦ True) p x a) (hf : Takes P (f a) y b) :
    Takes P (p >>= f) (x ++ y) b := hp.bind hf fun _ _ ↦ trivial

theorem lift {r : Except ε α} (h : r = .ok a) : Takes P (Cursor.lift r) [] a := by
  intro before rest hbytes hrest
  rw [h, List.append_nil]
  rfl

/-- The loop goes on. -/
theorem turn {body : σ → Cursor ε (σ ⊕ β)} {s next : σ} (hbody : Takes Q (body s) x (.inl next))
    (hx : x ≠ []) (hloop : Takes P (repeatUntil body next) y b)
    (hbehind : ∀ rest, P rest → Q (y ++ rest)) : Takes P (repeatUntil body s) (x ++ y) b := by
  intro before rest hbytes hrest
  rw [List.append_assoc] at hbytes ⊢
  have hlong := List.length_pos_iff.mpr hx
  rw [turns_eq, hbody before (y ++ rest) hbytes (hbehind rest hrest)]
  have h := hloop (before ++ x) rest (by rw [List.append_assoc]; exact hbytes) hrest
  rw [List.append_assoc] at h
  simp only
  rw [if_pos ⟨by rw [List.length_append]; omega,
    by rw [← List.append_assoc, @List.length_append _ (before ++ x)]; omega⟩, h,
    List.append_assoc]

/-- The loop breaks. -/
theorem stop {body : σ → Cursor ε (σ ⊕ β)} {s : σ} (hbody : Takes P (body s) x (.inr b)) :
    Takes P (repeatUntil body s) x b := by
  intro before rest hbytes hrest
  rw [turns_eq, hbody before rest hbytes hrest]

end Takes

/-! ### Bytes from anywhere -/

/-- On all bytes the reader refuses, or moves forward as far as its value says at least. -/
def Advances (least : α → Nat) (p : Cursor ε α) : Prop :=
  ∀ (bytes : Bytes) (pos : Nat), bytes.length < 2 ^ 63 → pos ≤ bytes.length →
    (∃ e, p bytes pos = .error (.refused e)) ∨
      ∃ a next, p bytes pos = .ok (a, next) ∧ pos + least a ≤ next ∧ next ≤ bytes.length

/-- The reader does not fault and does not go back. -/
abbrev Safe (p : Cursor ε α) : Prop := Advances (fun _ ↦ 0) p

namespace Advances

variable {p : Cursor ε α} {f : α → Cursor ε β} {least : β → Nat}

theorem pure {b : β} (h : least b = 0) : Advances least (Pure.pure b : Cursor ε β) := by
  intro bytes pos hbytes hpos
  exact .inr ⟨b, pos, rfl, by omega, hpos⟩

theorem refuse (e : ε) : Advances least (Cursor.refuse e : Cursor ε β) :=
  fun _ _ _ _ ↦ .inl ⟨e, rfl⟩

theorem lift (x : Except ε α) : Safe (Cursor.lift x) := by
  intro bytes pos hbytes hpos
  cases x with
  | error e => exact .inl ⟨e, rfl⟩
  | ok a => exact .inr ⟨a, pos, rfl, Nat.le_refl pos, hpos⟩

/-- A reader that moves does not go back. -/
theorem safe (hp : Advances (fun _ ↦ 1) p) : Safe p := by
  intro bytes pos hbytes hpos
  rcases hp bytes pos hbytes hpos with he | ⟨a, next, ha, hle, hnext⟩
  · exact .inl he
  · exact .inr ⟨a, next, ha, Nat.le_of_lt hle, hnext⟩

theorem bind (hp : Safe p) (hf : ∀ a, Advances least (f a)) : Advances least (p >>= f) := by
  intro bytes pos hbytes hpos
  rcases hp bytes pos hbytes hpos with ⟨e, he⟩ | ⟨a, mid, ha, hle, hmid⟩
  · exact .inl ⟨e, bind_of_error he⟩
  · rw [bind_of_ok ha]
    rcases hf a bytes mid hbytes hmid with ⟨e, he⟩ | ⟨b, next, hb, hge, hnext⟩
    · exact .inl ⟨e, he⟩
    · exact .inr ⟨b, next, hb, by omega, hnext⟩

/-- The first step moves already. -/
theorem bind_of_moves (hp : Advances (fun _ ↦ 1) p) (hf : ∀ a, Safe (f a))
    (hleast : ∀ b, least b ≤ 1) : Advances least (p >>= f) := by
  intro bytes pos hbytes hpos
  rcases hp bytes pos hbytes hpos with ⟨e, he⟩ | ⟨a, mid, ha, hle, hmid⟩
  · exact .inl ⟨e, bind_of_error he⟩
  · rw [bind_of_ok ha]
    rcases hf a bytes mid hbytes hmid with ⟨e, he⟩ | ⟨b, next, hb, hge, hnext⟩
    · exact .inl ⟨e, he⟩
    · have hb' : pos + least b ≤ pos + 1 := Nat.add_le_add_left (hleast b) pos
      exact .inr ⟨b, next, hb, hb'.trans (hle.trans hge), hnext⟩

/-- A loop whose turns move forward ends. -/
theorem repeatUntil {body : σ → Cursor ε (σ ⊕ β)}
    (hbody : ∀ s, Advances (Sum.elim (fun _ ↦ 1) fun _ ↦ 0) (body s)) (s : σ) :
    Safe (Cursor.repeatUntil body s) := by
  intro bytes pos hbytes hpos
  induction hn : bytes.length - pos using Nat.strongRecOn generalizing pos s with
  | ind n ih =>
    rw [turns_eq]
    rcases hbody s bytes pos hbytes hpos with ⟨e, he⟩ | ⟨r, mid, hr, hle, hmid⟩
    · rw [he]
      exact .inl ⟨e, rfl⟩
    · rw [hr]
      cases r with
      | inr b => exact .inr ⟨b, mid, rfl, hle, hmid⟩
      | inl next =>
        have hforward : pos + 1 ≤ mid := hle
        simp only
        rw [if_pos ⟨hforward, hmid⟩]
        rcases ih (bytes.length - mid) (by omega) next mid hmid rfl with
          ⟨e, he⟩ | ⟨b, stop, hb, hge, hstop⟩
        · exact .inl ⟨e, he⟩
        · exact .inr ⟨b, stop, hb, (by omega : pos ≤ mid).trans hge, hstop⟩

end Advances

end Cursor

end PrivateBallot.Base
