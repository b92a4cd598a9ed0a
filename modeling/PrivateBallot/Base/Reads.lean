import PrivateBallot.Base.Bytes

/-!
# Reading in pieces

Library `Base`. What a peer writes arrives in pieces, and a reader sees one piece with each call.
A loop asks its buffer whether it is complete, reads, and checks what it has. Where the answers
depend on the bytes of the buffer only from a certain length on, the loop stops with the first
piece that reaches this length, however the bytes were cut.
-/

namespace PrivateBallot.Base

/-- What one call of `read` returns from an open stream, given a buffer of this size. -/
structure Chunk (size : Nat) where
  bytes : Bytes
  ne_nil : bytes ≠ []
  length_le : bytes.length ≤ size
deriving DecidableEq

theorem singleton_ne_nil (b : UInt8) : [b] ≠ [] := List.cons_ne_nil b []

/-- The bytes of some pieces. -/
def received {size : Nat} (chunks : List (Chunk size)) : Bytes := chunks.flatMap Chunk.bytes

@[simp] theorem received_nil {size : Nat} : received ([] : List (Chunk size)) = [] := rfl

@[simp] theorem received_cons {size : Nat} (chunk : Chunk size) (chunks : List (Chunk size)) :
    received (chunk :: chunks) = chunk.bytes ++ received chunks := rfl

@[simp] theorem received_append {size : Nat} (a b : List (Chunk size)) :
    received (a ++ b) = received a ++ received b := List.flatMap_append

/-- No bytes are left in no pieces only. -/
theorem eq_nil_of_received {size : Nat} {chunks : List (Chunk size)} (h : received chunks = []) :
    chunks = [] := by
  cases chunks with
  | nil => rfl
  | cons chunk chunks =>
    rw [received_cons, List.append_eq_nil_iff] at h
    exact absurd h.1 chunk.ne_nil

/-- Bytes that arrive one by one. -/
def singles {size : Nat} (h : 0 < size) (bytes : Bytes) : List (Chunk size) :=
  bytes.map fun b ↦ ⟨[b], singleton_ne_nil b, h⟩

@[simp] theorem received_singles {size : Nat} (h : 0 < size) (bytes : Bytes) :
    received (singles h bytes) = bytes := by
  induction bytes with
  | nil => rfl
  | cons b rest ih => exact congrArg (b :: ·) ih

/-- A program that makes calls of `read`, given what they answer: `none` while it waits for one
more answer. -/
abbrev Reading (ρ ε : Type) := StateT (List ρ) (ExceptT ε Option)

section Reading

variable {ρ ε α β : Type}

/-- A result that is there already. -/
def settledAs (result : Except ε α) : Reading ρ ε α := fun answers ↦ some (result.map (·, answers))

theorem reading_bind_ok {x : Reading ρ ε α} {f : α → Reading ρ ε β} {answers rest : List ρ} {a : α}
    (h : x answers = some (.ok (a, rest))) : (x >>= f) answers = f a rest := by
  show ExceptT.bind (x answers) _ = _
  rw [h]
  rfl

theorem reading_bind_error {x : Reading ρ ε α} {f : α → Reading ρ ε β} {answers : List ρ} {e : ε}
    (h : x answers = some (.error e)) : (x >>= f) answers = some (.error e) := by
  show ExceptT.bind (x answers) _ = _
  rw [h]
  rfl

theorem reading_bind_eq_ok {x : Reading ρ ε α} {f : α → Reading ρ ε β} {answers rest : List ρ}
    {b : β} : (x >>= f) answers = some (.ok (b, rest)) ↔
      ∃ a mid, x answers = some (.ok (a, mid)) ∧ f a mid = some (.ok (b, rest)) := by
  cases hx : x answers with
  | none =>
    have hbind : (x >>= f) answers = none := by
      show ExceptT.bind (x answers) _ = _
      rw [hx]
      rfl
    rw [hbind]
    exact iff_of_false nofun fun ⟨_, _, h, _⟩ ↦ nomatch h
  | some result =>
    cases result with
    | error e =>
      rw [reading_bind_error hx]
      exact iff_of_false nofun fun ⟨_, _, h, _⟩ ↦ nomatch h
    | ok pair =>
      rw [reading_bind_ok hx]
      constructor
      · exact fun h ↦ ⟨pair.1, pair.2, rfl, h⟩
      · rintro ⟨a, mid, h, hf⟩
        cases h
        exact hf

theorem settledAs_eq_ok {result : Except ε α} {answers rest : List ρ} {a : α} :
    settledAs result answers = some (.ok (a, rest)) ↔ result = .ok a ∧ rest = answers := by
  cases result with
  | error e => exact iff_of_false nofun fun h ↦ nomatch h.1
  | ok b =>
    constructor
    · intro h
      cases h
      exact ⟨rfl, rfl⟩
    · rintro ⟨h, rfl⟩
      cases h
      rfl

end Reading

section Loop

variable {ρ ε α : Type}

/-- A loop around `read`: `settle` is asked ahead of each call, `receive` is what the call has
answered, `check` is asked after it. With no answer left the loop still waits. -/
def readLoop (settle : Bytes → Option (Except ε α)) (receive : ρ → Except ε Bytes)
    (check : Bytes → Except ε Unit) : Bytes → Reading ρ ε α
  | buffer, [] => (settle buffer).map (·.map (·, []))
  | buffer, answer :: rest =>
    match settle buffer with
    | some result => some (result.map (·, answer :: rest))
    | none =>
      match receive answer with
      | .error e => some (.error e)
      | .ok bytes =>
        match check (buffer ++ bytes) with
        | .error e => some (.error e)
        | .ok () => readLoop settle receive check (buffer ++ bytes) rest

variable {settle : Bytes → Option (Except ε α)} {receive : ρ → Except ε Bytes}
  {check : Bytes → Except ε Unit}

/-- A loop that is settled reads nothing. -/
theorem readLoop_of_settled {buffer : Bytes} {result : Except ε α} (h : settle buffer = some result)
    (answers : List ρ) :
    readLoop settle receive check buffer answers = some (result.map (·, answers)) := by
  cases answers with
  | nil => rw [readLoop, h, Option.map_some]
  | cons answer rest =>
    rw [readLoop, h]

/-- A loop that is not takes the next piece. -/
theorem readLoop_cons {buffer bytes : Bytes} {answer : ρ} {rest : List ρ}
    (hsettle : settle buffer = none) (hreceive : receive answer = .ok bytes)
    (hcheck : check (buffer ++ bytes) = .ok ()) :
    readLoop settle receive check buffer (answer :: rest) =
      readLoop settle receive check (buffer ++ bytes) rest := by
  rw [readLoop, hsettle]
  dsimp only
  rw [hreceive]
  dsimp only
  rw [hcheck]

variable {size : Nat} (data : Chunk size → ρ) (result : Bytes → Except ε α)

/-- The loop stops behind the first piece with which the buffer has `n` bytes. -/
theorem readLoop_of_received (n : Nat) (hdata : ∀ chunk, receive (data chunk) = .ok chunk.bytes)
    {buffer : Bytes} {chunks : List (Chunk size)}
    (hn : n ≤ (buffer ++ received chunks).length)
    (hopen : ∀ b, b <+: buffer ++ received chunks → b.length < n → settle b = none)
    (hsettled : ∀ b, b <+: buffer ++ received chunks → n ≤ b.length →
      b.length < n + size ∨ b = buffer → settle b = some (result b))
    (hcheck : ∀ b, b <+: buffer ++ received chunks → b.length < n + size → check b = .ok ())
    (later : List ρ) :
    ∃ taken left, chunks = taken ++ left ∧ n ≤ (buffer ++ received taken).length ∧
      readLoop settle receive check buffer (chunks.map data ++ later) =
        some ((result (buffer ++ received taken)).map (·, left.map data ++ later)) := by
  induction chunks generalizing buffer with
  | nil =>
    refine ⟨[], [], rfl, hn, ?_⟩
    rw [received_nil, List.append_nil] at hn ⊢
    exact readLoop_of_settled (hsettled buffer (List.prefix_append _ _) hn (Or.inr rfl)) _
  | cons chunk chunks ih =>
    have hbuffer : buffer <+: buffer ++ received (chunk :: chunks) := List.prefix_append _ _
    by_cases hlen : n ≤ buffer.length
    · refine ⟨[], chunk :: chunks, rfl, by simpa using hlen, ?_⟩
      rw [received_nil, List.append_nil]
      exact readLoop_of_settled (hsettled buffer hbuffer hlen (Or.inr rfl)) _
    · have hsplit : buffer ++ received (chunk :: chunks) =
          (buffer ++ chunk.bytes) ++ received chunks := by
        rw [received_cons, List.append_assoc]
      rw [hsplit] at hbuffer hn hopen hsettled hcheck
      have hnext : buffer ++ chunk.bytes <+: (buffer ++ chunk.bytes) ++ received chunks :=
        List.prefix_append _ _
      have hlength : (buffer ++ chunk.bytes).length < n + size := by
        have := chunk.length_le
        rw [List.length_append]
        omega
      have hnear : ∀ b, b <+: (buffer ++ chunk.bytes) ++ received chunks → n ≤ b.length →
          b.length < n + size ∨ b = buffer ++ chunk.bytes → settle b = some (result b) := by
        intro b hb hle hcases
        refine hsettled b hb hle (Or.inl ?_)
        rcases hcases with hlt | rfl
        · exact hlt
        · exact hlength
      obtain ⟨taken, left, rfl, htaken, hloop⟩ := ih hn hopen hnear hcheck
      refine ⟨chunk :: taken, left, rfl, ?_, ?_⟩
      · rwa [received_cons, ← List.append_assoc]
      · rw [received_cons, ← List.append_assoc, ← hloop]
        exact readLoop_cons (hopen buffer hbuffer (by omega)) (hdata chunk) (hcheck _ hnext hlength)

/-- A loop that waits for all of the bytes takes all of the pieces. -/
theorem readLoop_of_all (hdata : ∀ chunk, receive (data chunk) = .ok chunk.bytes)
    {buffer : Bytes} {chunks : List (Chunk size)}
    (hopen : ∀ b, b <+: buffer ++ received chunks →
      b.length < (buffer ++ received chunks).length → settle b = none)
    (hsettled : settle (buffer ++ received chunks) = some (result (buffer ++ received chunks)))
    (hcheck : ∀ b, b <+: buffer ++ received chunks → check b = .ok ()) (later : List ρ) :
    readLoop settle receive check buffer (chunks.map data ++ later) =
      some ((result (buffer ++ received chunks)).map (·, later)) := by
  have hwhole : ∀ b, b <+: buffer ++ received chunks →
      (buffer ++ received chunks).length ≤ b.length → b = buffer ++ received chunks :=
    fun b hb hle ↦ hb.eq_of_length (Nat.le_antisymm hb.length_le hle)
  obtain ⟨taken, left, rfl, hlen, hloop⟩ := readLoop_of_received data result _ hdata
    (Nat.le_refl _) hopen (fun b hb hle _ ↦ by rw [hwhole b hb hle, hsettled])
    (fun b hb _ ↦ hcheck b hb) later
  have hleft : left = [] := by
    apply eq_nil_of_received
    rw [received_append, ← List.append_assoc, List.length_append] at hlen
    exact List.length_eq_zero_iff.mp (by omega)
  subst hleft
  rw [hloop, List.append_nil]
  rfl

/-- A loop that does not settle on the way takes pieces as one. -/
theorem readLoop_of_open (hdata : ∀ chunk, receive (data chunk) = .ok chunk.bytes)
    {buffer : Bytes} {taken : List (Chunk size)}
    (hopen : ∀ b, b <+: buffer ++ received taken →
      b.length < (buffer ++ received taken).length → settle b = none)
    (hcheck : ∀ b, b <+: buffer ++ received taken → check b = .ok ()) (later : List ρ) :
    readLoop settle receive check buffer (taken.map data ++ later) =
      readLoop settle receive check (buffer ++ received taken) later := by
  induction taken generalizing buffer with
  | nil => rw [received_nil, List.append_nil, List.map_nil, List.nil_append]
  | cons chunk taken ih =>
    have hsplit : buffer ++ received (chunk :: taken) =
        (buffer ++ chunk.bytes) ++ received taken := by
      rw [received_cons, List.append_assoc]
    have hlonger : buffer.length < (buffer ++ received (chunk :: taken)).length := by
      have := List.length_pos_iff.mpr chunk.ne_nil
      rw [hsplit, List.length_append, List.length_append]
      omega
    have hsettle := hopen buffer (List.prefix_append _ _) hlonger
    rw [hsplit] at hopen hcheck ⊢
    rw [← ih hopen hcheck]
    exact readLoop_cons hsettle (hdata chunk) (hcheck _ (List.prefix_append _ _))

/-- A piece that the check refuses ends the loop. -/
theorem readLoop_of_refused {buffer bytes : Bytes} {answer : ρ} {rest : List ρ} {e : ε}
    (hsettle : settle buffer = none) (hreceive : receive answer = .ok bytes)
    (hcheck : check (buffer ++ bytes) = .error e) :
    readLoop settle receive check buffer (answer :: rest) = some (.error e) := by
  rw [readLoop, hsettle]
  dsimp only
  rw [hreceive]
  dsimp only
  rw [hcheck]

/-- What a loop returns it has settled on behind one of the pieces. -/
theorem exists_taken_of_readLoop (hdata : ∀ chunk, receive (data chunk) = .ok chunk.bytes)
    {last : ρ} {e : ε} (hlast : receive last = .error e) {buffer : Bytes}
    {chunks : List (Chunk size)} {a : α} {rest : List ρ}
    (h : readLoop settle receive check buffer (chunks.map data ++ [last]) = some (.ok (a, rest))) :
    ∃ taken left, chunks = taken ++ left ∧ rest = left.map data ++ [last] ∧
      settle (buffer ++ received taken) = some (.ok a) ∧
      (taken = [] ∨ check (buffer ++ received taken) = .ok ()) := by
  induction chunks generalizing buffer with
  | nil =>
    rw [List.map_nil, List.nil_append, readLoop] at h
    cases hsettle : settle buffer with
    | none =>
      rw [hsettle, hlast] at h
      cases h
    | some result =>
      rw [hsettle] at h
      obtain ⟨rfl, hrest⟩ := settledAs_eq_ok.mp h
      exact ⟨[], [], rfl, hrest, by rw [received_nil, List.append_nil, hsettle], Or.inl rfl⟩
  | cons chunk chunks ih =>
    rw [List.map_cons, List.cons_append, readLoop] at h
    cases hsettle : settle buffer with
    | some result =>
      rw [hsettle] at h
      obtain ⟨rfl, hrest⟩ := settledAs_eq_ok.mp h
      refine ⟨[], chunk :: chunks, rfl, hrest, ?_, Or.inl rfl⟩
      rw [received_nil, List.append_nil, hsettle]
    | none =>
      rw [hsettle, hdata] at h
      dsimp only at h
      cases hcheck : check (buffer ++ chunk.bytes) with
      | error e =>
        rw [hcheck] at h
        cases h
      | ok u =>
        rw [hcheck] at h
        obtain ⟨taken, left, rfl, hrest, hsettled, hchecked⟩ := ih h
        rw [List.append_assoc] at hsettled hchecked
        refine ⟨chunk :: taken, left, rfl, hrest, hsettled, Or.inr ?_⟩
        rcases hchecked with rfl | hchecked
        · exact (congrArg check (by rw [received_cons, received_nil, List.append_nil])).trans hcheck
        · exact hchecked

/-- With the end of the stream no loop waits any more. -/
theorem exists_readLoop {last : ρ} {e : ε} (hlast : receive last = .error e) (buffer : Bytes)
    (answers : List ρ) :
    ∃ outcome, readLoop settle receive check buffer (answers ++ [last]) = some outcome := by
  induction answers generalizing buffer with
  | nil =>
    rw [List.nil_append, readLoop]
    cases settle buffer with
    | none => exact ⟨_, by rw [hlast]⟩
    | some result => exact ⟨_, rfl⟩
  | cons answer answers ih =>
    rw [List.cons_append, readLoop]
    cases settle buffer with
    | some result => exact ⟨_, rfl⟩
    | none =>
      cases receive answer with
      | error e => exact ⟨_, rfl⟩
      | ok bytes =>
        dsimp only
        cases check (buffer ++ bytes) with
        | error e => exact ⟨_, rfl⟩
        | ok u => exact ih (buffer ++ bytes)

end Loop

end PrivateBallot.Base
