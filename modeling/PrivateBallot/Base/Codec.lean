import PrivateBallot.Base.Bytes

/-!
# Readers and writers of byte strings

Library `Base`. A reader is a state transformer over what is left of its input, a writer one
over the bytes written so far; both may fail. `Reads d b a` says that the reader `d` takes
exactly the bytes `b` from any longer input and returns `a`, and `Writes w d a` that what the
writer `w` appends is read back by `d` as `a`. Round trips of whole formats are composed from
those of their fields by the `bind` rules.
-/

namespace PrivateBallot.Base

/-- Reader states from which bytes are taken one after the other. -/
class ByteSource (σ : Type) where
  /-- `Consumes s b t`: the bytes `b` are next in `s`, and `t` is what remains after them. -/
  Consumes : σ → Bytes → σ → Prop
  /-- Nothing is consumed by no bytes. -/
  eq_of_nil : ∀ {s t}, Consumes s [] t → s = t
  /-- Bytes are consumed piece by piece. -/
  split : ∀ {s b c t}, Consumes s (b ++ c) t → ∃ m, Consumes s b m ∧ Consumes m c t

/-- Plain unread input. -/
instance : ByteSource Bytes where
  Consumes s b t := s = b ++ t
  eq_of_nil := by simp
  split := by
    intro s b c t h
    exact ⟨c ++ t, by rw [h, List.append_assoc], rfl⟩

variable {σ ε α β : Type}

/-- `for _ in 0..count { items.push(item()?) }` -/
def readMany (item : StateT σ (Except ε) α) : Nat → StateT σ (Except ε) (List α)
  | 0 => pure []
  | count + 1 => do
    let first ← item
    let others ← readMany item count
    pure (first :: others)

/-! ### What a successful run went through -/

/-- Two readers in sequence succeed one after the other. -/
theorem run_bind_eq_ok {d : StateT σ (Except ε) α} {f : α → StateT σ (Except ε) β} {s t : σ}
    {v : β} : (d >>= f) s = .ok (v, t) ↔ ∃ a m, d s = .ok (a, m) ∧ f a m = .ok (v, t) := by
  cases h : d s with
  | error e => simp [bind, StateT.bind, Except.bind, h]
  | ok pair =>
    obtain ⟨a, m⟩ := pair
    simp [bind, StateT.bind, Except.bind, h]

/-- A check takes nothing. -/
theorem run_lift_eq_ok {x : Except ε α} {s t : σ} {a : α} :
    (liftM x : StateT σ (Except ε) α) s = .ok (a, t) ↔ x = .ok a ∧ t = s := by
  cases x with
  | error e => simp [liftM, monadLift, MonadLift.monadLift, StateT.lift, bind, Except.bind]
  | ok b =>
    simp [liftM, monadLift, MonadLift.monadLift, StateT.lift, bind, Except.bind, pure, Except.pure,
      eq_comm]

/-- A counted loop returns as many items as it ran, each of them read from some state. -/
theorem readMany_eq_ok {item : StateT σ (Except ε) α} {count : Nat} {s t : σ} {values : List α}
    (h : readMany item count s = .ok (values, t)) :
    values.length = count ∧ ∀ value ∈ values, ∃ before after, item before = .ok (value, after) := by
  induction count generalizing s values with
  | zero =>
    cases h
    exact ⟨rfl, by simp⟩
  | succ count ih =>
    obtain ⟨first, middle, hfirst, hothers⟩ := run_bind_eq_ok.mp h
    obtain ⟨others, last, hothers, hvalues⟩ := run_bind_eq_ok.mp hothers
    cases hvalues
    obtain ⟨hlen, hmem⟩ := ih hothers
    refine ⟨by rw [List.length_cons, hlen], ?_⟩
    intro value hvalue
    rcases List.mem_cons.mp hvalue with rfl | hvalue
    · exact ⟨s, middle, hfirst⟩
    · exact hmem value hvalue

section Readers

variable [ByteSource σ]

/-- The reader takes exactly these bytes and returns this value. -/
def Reads (d : StateT σ (Except ε) α) (b : Bytes) (a : α) : Prop :=
  ∀ s t, ByteSource.Consumes s b t → d s = .ok (a, t)

/-- The reader fails on every input that starts with these bytes. -/
def Rejects (d : StateT σ (Except ε) α) (b : Bytes) : Prop :=
  ∀ s t, ByteSource.Consumes s b t → ∃ e, d s = .error e

theorem Reads.pure (a : α) : Reads (pure a : StateT σ (Except ε) α) [] a := by
  intro s t h
  rw [ByteSource.eq_of_nil h]
  rfl

/-- Two readers in sequence take the bytes of the first and then those of the second. -/
theorem Reads.bind {d : StateT σ (Except ε) α} {f : α → StateT σ (Except ε) β} {b c : Bytes}
    {a : α} {v : β} (hd : Reads d b a) (hf : Reads (f a) c v) : Reads (d >>= f) (b ++ c) v := by
  intro s t h
  obtain ⟨m, hb, hc⟩ := ByteSource.split h
  have hfirst : d s = .ok (a, m) := hd s m hb
  have hsecond : f a m = .ok (v, t) := hf m t hc
  simp only [Bind.bind, StateT.bind, Except.bind, hfirst, hsecond]

/-- A step that takes nothing after the reader. -/
theorem Reads.bind_nil {d : StateT σ (Except ε) α} {f : α → StateT σ (Except ε) β} {b : Bytes}
    {a : α} {v : β} (hd : Reads d b a) (hf : Reads (f a) [] v) : Reads (d >>= f) b v := by
  rw [← List.append_nil b]
  exact hd.bind hf

/-- A step that takes nothing before the reader. -/
theorem Reads.nil_bind {d : StateT σ (Except ε) α} {f : α → StateT σ (Except ε) β} {c : Bytes}
    {a : α} {v : β} (hd : Reads d [] a) (hf : Reads (f a) c v) : Reads (d >>= f) c v := by
  rw [← List.nil_append c]
  exact hd.bind hf

/-- A reader that fails after another one makes the sequence fail. -/
theorem Reads.bind_rejects {d : StateT σ (Except ε) α} {f : α → StateT σ (Except ε) β}
    {b c : Bytes} {a : α} (hd : Reads d b a) (hf : Rejects (f a) c) :
    Rejects (d >>= f) (b ++ c) := by
  intro s t h
  obtain ⟨m, hb, hc⟩ := ByteSource.split h
  obtain ⟨e, he⟩ := hf m t hc
  refine ⟨e, ?_⟩
  simp only [Bind.bind, StateT.bind, Except.bind, hd s m hb, he]

/-- A sequence fails where its first reader does. -/
theorem Rejects.bind {d : StateT σ (Except ε) α} {f : α → StateT σ (Except ε) β} {b c : Bytes}
    (hd : Rejects d b) : Rejects (d >>= f) (b ++ c) := by
  intro s t h
  obtain ⟨m, hb, _⟩ := ByteSource.split h
  obtain ⟨e, he⟩ := hd s m hb
  refine ⟨e, ?_⟩
  simp only [Bind.bind, StateT.bind, Except.bind, he]

/-- A counted loop reads its items one after the other. -/
theorem Reads.many {item : StateT σ (Except ε) α} {write : α → Bytes} (values : List α)
    (h : ∀ v ∈ values, Reads item (write v) v) :
    Reads (readMany item values.length) (values.flatMap write) values := by
  induction values with
  | nil => exact Reads.pure []
  | cons v values ih =>
    rw [List.flatMap_cons]
    apply Reads.bind (h v List.mem_cons_self)
    have hrest : Reads (readMany item values.length) (values.flatMap write) values := by
      apply ih
      intro w hw
      exact h w (List.mem_cons_of_mem v hw)
    exact hrest.bind_nil (Reads.pure (v :: values))

end Readers

section Writers

variable [ByteSource σ]

/-- Every output of the writer is read back as this value. -/
def Writes (w : StateT Bytes (Except ε) Unit) (d : StateT σ (Except ε) α) (a : α) : Prop :=
  ∀ out result, w out = .ok ((), result) → ∃ b, result = out ++ b ∧ Reads d b a

/-- Two writers in sequence are read back by two readers in sequence. -/
theorem Writes.bind {w v : StateT Bytes (Except ε) Unit} {d : StateT σ (Except ε) α}
    {f : α → StateT σ (Except ε) β} {a : α} {c : β} (hw : Writes w d a)
    (hv : Writes v (f a) c) : Writes (w >>= fun _ ↦ v) (d >>= f) c := by
  intro out result h
  cases hfirst : w out with
  | error e => simp [Bind.bind, StateT.bind, Except.bind, hfirst] at h
  | ok pair =>
    obtain ⟨⟨⟩, middle⟩ := pair
    simp only [Bind.bind, StateT.bind, Except.bind, hfirst] at h
    obtain ⟨b, rfl, hb⟩ := hw out middle hfirst
    obtain ⟨b', rfl, hb'⟩ := hv _ result h
    exact ⟨b ++ b', by rw [List.append_assoc], hb.bind hb'⟩

/-- Every output of the writer is refused by this reader. -/
def Refused (w : StateT Bytes (Except ε) Unit) (d : StateT σ (Except ε) α) : Prop :=
  ∀ out result, w out = .ok ((), result) → ∃ b, result = out ++ b ∧ Rejects d b

/-- What is refused after a field that is read back is refused with it. -/
theorem Writes.bind_refused {w v : StateT Bytes (Except ε) Unit} {d : StateT σ (Except ε) α}
    {f : α → StateT σ (Except ε) β} {a : α} (hw : Writes w d a) (hv : Refused v (f a)) :
    Refused (w >>= fun _ ↦ v) (d >>= f) := by
  intro out result h
  cases hfirst : w out with
  | error e => simp [Bind.bind, StateT.bind, Except.bind, hfirst] at h
  | ok pair =>
    obtain ⟨⟨⟩, middle⟩ := pair
    simp only [Bind.bind, StateT.bind, Except.bind, hfirst] at h
    obtain ⟨b, rfl, hb⟩ := hw out middle hfirst
    obtain ⟨b', rfl, hb'⟩ := hv _ result h
    exact ⟨b ++ b', by rw [List.append_assoc], hb.bind_rejects hb'⟩

/-- What is refused stays refused whatever field is written after it. -/
theorem Refused.bind {γ : Type} {w v : StateT Bytes (Except ε) Unit}
    {d : StateT σ (Except ε) α} {f : α → StateT σ (Except ε) β} {d' : StateT σ (Except ε) γ}
    {c : γ} (hw : Refused w d) (hv : Writes v d' c) :
    Refused (w >>= fun _ ↦ v) (d >>= f) := by
  intro out result h
  cases hfirst : w out with
  | error e => simp [Bind.bind, StateT.bind, Except.bind, hfirst] at h
  | ok pair =>
    obtain ⟨⟨⟩, middle⟩ := pair
    simp only [Bind.bind, StateT.bind, Except.bind, hfirst] at h
    obtain ⟨b, rfl, hb⟩ := hw out middle hfirst
    obtain ⟨b', rfl, _⟩ := hv _ result h
    exact ⟨b ++ b', by rw [List.append_assoc], hb.bind⟩

/-- Writing nothing is read back by reading nothing. -/
theorem Writes.pure {d : StateT σ (Except ε) α} {a : α} (hd : Reads d [] a) :
    Writes (pure ()) d a := by
  intro out result h
  cases h
  exact ⟨[], (List.append_nil out).symm, hd⟩

/-- A step that takes nothing after the reader. -/
theorem Writes.bind_nil {w : StateT Bytes (Except ε) Unit} {d : StateT σ (Except ε) α}
    {f : α → StateT σ (Except ε) β} {a : α} {c : β} (hw : Writes w d a)
    (hf : Reads (f a) [] c) : Writes w (d >>= f) c := by
  intro out result h
  obtain ⟨b, rfl, hb⟩ := hw out result h
  exact ⟨b, rfl, hb.bind_nil hf⟩

/-- A loop of writers is read back by a counted loop. -/
theorem Writes.forM {w : α → StateT Bytes (Except ε) Unit} {item : StateT σ (Except ε) α}
    (values : List α) (h : ∀ v ∈ values, Writes (w v) item v) :
    Writes (values.forM w) (readMany item values.length) values := by
  induction values with
  | nil => exact Writes.pure (Reads.pure [])
  | cons v values ih =>
    have hrest : Writes (values.forM w) (readMany item values.length) values := by
      apply ih
      intro u hu
      exact h u (List.mem_cons_of_mem v hu)
    exact (h v List.mem_cons_self).bind (hrest.bind_nil (Reads.pure (v :: values)))

/-- The writer succeeds and appends these bytes, whatever was written before. -/
def Emits (w : StateT Bytes (Except ε) Unit) (b : Bytes) : Prop :=
  ∀ out, w out = .ok ((), out ++ b)

/-- Two writers in sequence append one after the other. -/
theorem Emits.bind {w v : StateT Bytes (Except ε) Unit} {b b' : Bytes} (hw : Emits w b)
    (hv : Emits v b') : Emits (w >>= fun _ ↦ v) (b ++ b') := by
  intro out
  simp only [Bind.bind, StateT.bind, Except.bind, hw out, hv (out ++ b), List.append_assoc]

/-- A loop of writers. -/
theorem Emits.forM {w : α → StateT Bytes (Except ε) Unit} {f : α → Bytes} (values : List α)
    (h : ∀ v ∈ values, Emits (w v) (f v)) : Emits (values.forM w) (values.flatMap f) := by
  induction values with
  | nil =>
    intro out
    rw [List.flatMap_nil, List.append_nil]
    rfl
  | cons v values ih =>
    have hrest : Emits (values.forM w) (values.flatMap f) := by
      apply ih
      intro u hu
      exact h u (List.mem_cons_of_mem v hu)
    exact (h v List.mem_cons_self).bind hrest

end Writers

end PrivateBallot.Base
