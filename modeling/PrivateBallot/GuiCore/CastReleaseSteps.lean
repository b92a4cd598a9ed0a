import PrivateBallot.GuiCore.CastRelease

/-!
# The steps of a release

Library `GuiCore`. What the parts of a release leave: which places a step spares, that a record is
read as it was written, that a write leaves the old record or the new one, and that a link exposes
what was verified.
-/

namespace PrivateBallot.GuiCore

open PrivateBallot.Base PrivateBallot.Protocol PrivateBallot.Ballot PrivateBallot.Crypto

/-! ### Paths -/

/-- Paths that end differently are different. -/
theorem ne_of_getLast? {path other : Bytes} {a b : UInt8} (h : path.getLast? = some a)
    (h' : other.getLast? = some b) (hne : a ≠ b) : path ≠ other := by
  rintro rfl
  rw [h] at h'
  exact hne (Option.some.inj h')

theorem getLast?_append_of {front back : Bytes} {b : UInt8} (h : back.getLast? = some b) :
    (front ++ back).getLast? = some b := by
  rw [List.getLast?_append, h, Option.some_or]

theorem getLast?_joinFile {directory name : Bytes} {b : UInt8} (h : name.getLast? = some b) :
    (joinFile directory name).getLast? = some b := by
  unfold joinFile
  apply getLast?_append_of
  rw [List.getLast?_cons, h, Option.getD_some]

theorem getLast?_pairFileName (credentialFingerprintHex manifestHashHex : Text) {suffix : Bytes}
    {b : UInt8} (h : suffix.getLast? = some b) :
    (pairFileName credentialFingerprintHex manifestHashHex suffix).getLast? = some b :=
  getLast?_append_of h

theorem getLast?_castRecordPath (castLocksDir : Bytes)
    (credentialFingerprintHex manifestHashHex : Text) :
    (castRecordPath castLocksDir credentialFingerprintHex manifestHashHex).getLast? = some 0x6b :=
  getLast?_joinFile (getLast?_pairFileName _ _ (by decide))

theorem getLast?_castTemporaryPath (path : Bytes) :
    (castTemporaryPath path).getLast? = some 0x70 := by
  have hext : castTemporaryExtension.getLast? = some 0x70 := by decide
  unfold castTemporaryPath withExtension
  dsimp only
  apply getLast?_append_of
  rw [List.getLast?_cons, hext, Option.getD_some]

theorem getLast?_castTempPath (finalPath : Bytes) :
    (castTempPath finalPath).getLast? = some 0x74 :=
  getLast?_append_of (by decide)

theorem getLast?_stagedReleaseEnvelopePathV1 (stagingDir : Bytes)
    (manifestHashHex credentialFingerprintHex : Text) :
    (stagedReleaseEnvelopePathV1 stagingDir manifestHashHex
      credentialFingerprintHex).getLast? = some 0x65 :=
  getLast?_joinFile (getLast?_pairFileName _ _ (by decide))

theorem getLast?_releaseReceiptEvidencePathV1 (stagingDir : Bytes)
    (manifestHashHex credentialFingerprintHex : Text) :
    (releaseReceiptEvidencePathV1 stagingDir manifestHashHex
      credentialFingerprintHex).getLast? = some 0x74 :=
  getLast?_joinFile (getLast?_pairFileName _ _ (by decide))

theorem le_of_fitsBehind {b0 b1 : UInt8} (h : Utf8.fitsBehind b0 b1 = true) : 0x80 ≤ b1.toNat := by
  unfold Utf8.fitsBehind at h
  dsimp only at h
  split at h
  · cases h
  split at h
  · rw [Bool.and_eq_true, decide_eq_true_iff] at h
    omega
  split at h
  · rw [Bool.and_eq_true, decide_eq_true_iff] at h
    omega
  split at h
  · rw [Bool.and_eq_true, decide_eq_true_iff] at h
    omega
  split at h
  · rw [Utf8.isTail, Bool.and_eq_true, decide_eq_true_iff] at h
    omega
  split at h
  · rw [Bool.and_eq_true, decide_eq_true_iff] at h
    omega
  · cases h

/-- An ASCII byte at the end stays at the end when a path is made text. -/
theorem getLast?_lossy {path : Bytes} {b : UInt8} (h : path.getLast? = some b)
    (hb : b.toNat < 0x80) : (Utf8.lossy path).getLast? = some b := by
  have hcons : ∀ {first : UInt8} {rest : Bytes}, (first :: rest).getLast? = some b →
      (rest = [] → first.toNat < 0x80) ∧ (rest ≠ [] → rest.getLast? = some b) := by
    intro first rest hlast
    constructor
    · rintro rfl
      rw [← Option.some.inj hlast] at hb
      exact hb
    · intro hne
      obtain ⟨second, rest, rfl⟩ := List.exists_cons_of_ne_nil hne
      rwa [List.getLast?_cons_cons] at hlast
  have hfront : ∀ (front : Bytes) {back : Bytes}, back.getLast? = some b →
      (front ++ back).getLast? = some b := fun _ _ hback ↦ getLast?_append_of hback
  fun_induction Utf8.lossy path with
  | case1 => cases h
  | case2 b0 rest0 hascii ih =>
    by_cases hrest : rest0 = []
    · subst hrest
      exact h
    · exact hfront [b0] (ih ((hcons h).2 hrest))
  | case3 b0 hnot => exact absurd ((hcons h).1 rfl) hnot
  | case4 b0 hnot b1 rest1 hfits ih => exact hfront Utf8.replacement (ih ((hcons h).2 (by simp)))
  | case5 b0 hnot b1 rest1 hfits htwo ih =>
    have h₁ := (hcons h).2 (by simp)
    by_cases hrest : rest1 = []
    · have hlow := (hcons h₁).1 hrest
      have hhigh := le_of_fitsBehind (by simpa using hfits)
      omega
    · exact hfront [b0, b1] (ih ((hcons h₁).2 hrest))
  | case6 b0 hnot b1 hfits htwo =>
    have h₁ := (hcons h).2 (by simp)
    have hlow := (hcons h₁).1 rfl
    have hhigh := le_of_fitsBehind (by simpa using hfits)
    omega
  | case7 b0 hnot b1 hfits htwo b2 rest2 htail ih =>
    exact hfront Utf8.replacement (ih ((hcons ((hcons h).2 (by simp))).2 (by simp)))
  | case8 b0 hnot b1 hfits htwo b2 rest2 htail hthree ih =>
    have h₂ := (hcons ((hcons h).2 (by simp))).2 (by simp)
    by_cases hrest : rest2 = []
    · have hlow := (hcons h₂).1 hrest
      rw [Bool.not_eq_true', Bool.not_eq_false, Utf8.isTail, Bool.and_eq_true,
        decide_eq_true_iff] at htail
      omega
    · exact hfront [b0, b1, b2] (ih ((hcons h₂).2 hrest))
  | case9 b0 hnot b1 hfits htwo b2 htail hthree =>
    have h₂ := (hcons ((hcons h).2 (by simp))).2 (by simp)
    have hlow := (hcons h₂).1 rfl
    rw [Bool.not_eq_true', Bool.not_eq_false, Utf8.isTail, Bool.and_eq_true,
      decide_eq_true_iff] at htail
    omega
  | case10 b0 hnot b1 hfits htwo b2 htail hthree b3 rest3 htail' ih =>
    have h₃ := (hcons ((hcons ((hcons h).2 (by simp))).2 (by simp))).2 (by simp)
    exact hfront Utf8.replacement (ih h₃)
  | case11 b0 hnot b1 hfits htwo b2 htail hthree b3 rest3 htail' ih =>
    have h₃ := (hcons ((hcons ((hcons h).2 (by simp))).2 (by simp))).2 (by simp)
    by_cases hrest : rest3 = []
    · have hlow := (hcons h₃).1 hrest
      rw [Bool.not_eq_true', Bool.not_eq_false, Utf8.isTail, Bool.and_eq_true,
        decide_eq_true_iff] at htail'
      omega
    · exact hfront [b0, b1, b2, b3] (ih ((hcons h₃).2 hrest))

/-! ### Records -/

theorem length_le_encodeField (value : Text) : value.len ≤ (encodeField value).length := by
  rw [encodeField, List.length_append, Text.len]
  exact Nat.le_add_left _ _

/-- Fields whose lengths are not cut are told apart by what they begin with. -/
theorem encodeField_append_inj {value other : Text} {rest rest' : Bytes}
    (h : encodeField value ++ rest = encodeField other ++ rest')
    (hlt : (encodeField value ++ rest).length < 2 ^ 32) : value = other ∧ rest = rest' := by
  have hlt' : (encodeField other ++ rest').length < 2 ^ 32 := h ▸ hlt
  have hvalue := length_le_encodeField value
  have hother := length_le_encodeField other
  rw [List.length_append] at hlt hlt'
  rw [encodeField, encodeField, Nat.mod_eq_of_lt (by omega), Nat.mod_eq_of_lt (by omega),
    List.append_assoc, List.append_assoc] at h
  obtain ⟨hlength, htail⟩ := List.append_inj h (by rw [length_leBytes, length_leBytes])
  have hlen : value.len = other.len := by
    have := congrArg ofLeBytes hlength
    rwa [ofLeBytes_leBytes 4 _ (by omega), ofLeBytes_leBytes 4 _ (by omega)] at this
  obtain ⟨hbytes, hrest⟩ := List.append_inj htail hlen
  exact ⟨Text.ext hbytes, hrest⟩

theorem length_lt_of_append {front back : Bytes} {bound : Nat}
    (h : (front ++ back).length < bound) : back.length < bound := by
  rw [List.length_append] at h
  omega

theorem encodeFlag_inj {isCast other : Bool} (h : encodeFlag isCast = encodeFlag other) :
    isCast = other := by
  cases isCast <;> cases other <;> first | rfl | exact absurd h (by decide)

/-- A record that the reader takes is the one that was written, whether its fields fit or not. -/
theorem VoterCastRecordV1.encode_inj {record other : VoterCastRecordV1}
    (hlength : record.encode.length ≤ maxCastRecordBytesV1)
    (h : record.encode = other.encode) : record = other := by
  have hmax : maxCastRecordBytesV1 = 16384 := rfl
  obtain ⟨manifest, fingerprint, digest, final, temp, isCast⟩ := record
  obtain ⟨manifest', fingerprint', digest', final', temp', isCast'⟩ := other
  have hlt₀ : (encode ⟨manifest, fingerprint, digest, final, temp, isCast⟩).length < 2 ^ 32 := by
    omega
  unfold encode at h hlt₀
  have h₁ := List.append_cancel_left (List.append_cancel_left h)
  have hlt₁ := length_lt_of_append (length_lt_of_append hlt₀)
  obtain ⟨rfl, h₂⟩ := encodeField_append_inj h₁ hlt₁
  have hlt₂ := length_lt_of_append hlt₁
  obtain ⟨rfl, h₃⟩ := encodeField_append_inj h₂ hlt₂
  have hlt₃ := length_lt_of_append hlt₂
  obtain ⟨rfl, h₄⟩ := encodeField_append_inj h₃ hlt₃
  have hlt₄ := length_lt_of_append hlt₃
  obtain ⟨rfl, h₅⟩ := encodeField_append_inj h₄ hlt₄
  have hlt₅ := length_lt_of_append hlt₄
  obtain ⟨rfl, h₆⟩ := encodeField_append_inj h₅ hlt₅
  have hflag : isCast = isCast' := encodeFlag_inj h₆
  subst hflag
  rfl

/-- The same for the records of the private transport. -/
theorem OnlineReleaseRecordV3.encode_inj {record other : OnlineReleaseRecordV3}
    (hlength : record.encode.length ≤ maxCastRecordBytesV1)
    (h : record.encode = other.encode) : record = other := by
  have hmax : maxCastRecordBytesV1 = 16384 := rfl
  obtain ⟨manifest, fingerprint, digest, path, envelope, descriptor, receipt, isCast⟩ := record
  obtain ⟨manifest', fingerprint', digest', path', envelope', descriptor', receipt', isCast'⟩ :=
    other
  have hlt₀ : (encode ⟨manifest, fingerprint, digest, path, envelope, descriptor, receipt,
      isCast⟩).length < 2 ^ 32 := by
    omega
  unfold encode at h hlt₀
  have h₁ := List.append_cancel_left (List.append_cancel_left h)
  have hlt₁ := length_lt_of_append (length_lt_of_append hlt₀)
  obtain ⟨rfl, h₂⟩ := encodeField_append_inj h₁ hlt₁
  have hlt₂ := length_lt_of_append hlt₁
  obtain ⟨rfl, h₃⟩ := encodeField_append_inj h₂ hlt₂
  have hlt₃ := length_lt_of_append hlt₂
  obtain ⟨rfl, h₄⟩ := encodeField_append_inj h₃ hlt₃
  have hlt₄ := length_lt_of_append hlt₃
  obtain ⟨rfl, h₅⟩ := encodeField_append_inj h₄ hlt₄
  have hlt₅ := length_lt_of_append hlt₄
  obtain ⟨rfl, h₆⟩ := encodeField_append_inj h₅ hlt₅
  have hlt₆ := length_lt_of_append hlt₅
  obtain ⟨rfl, h₇⟩ := encodeField_append_inj h₆ hlt₆
  have hlt₇ := length_lt_of_append hlt₆
  obtain ⟨rfl, h₈⟩ := encodeField_append_inj h₇ hlt₇
  have hflag : isCast = isCast' := encodeFlag_inj h₈
  subst hflag
  rfl

/-- The two kinds of records begin differently. -/
theorem encode_ne_encode (record : VoterCastRecordV1) (other : OnlineReleaseRecordV3) :
    record.encode ≠ other.encode := by
  intro h
  have hcast : castRecordMagicV1 <+: record.encode := List.prefix_append _ _
  have hrelease : releaseRecordMagicV3 <+: record.encode := h ▸ List.prefix_append _ _
  have hno : ¬ castRecordMagicV1 <+: releaseRecordMagicV3 := by decide
  exact hno (List.prefix_of_prefix_length_le hcast hrelease (by decide))

/-- A file that is read as a record is no longer than the reader takes. -/
theorem readCastRecord_file_cases (metadata read : Bool) (bytes : Bytes) :
    readCastRecord metadata read (.file bytes) = .malformed ∨
      bytes.length ≤ maxCastRecordBytesV1 ∧
        readCastRecord metadata read (.file bytes) = decodeCastRecord bytes := by
  cases metadata with
  | false => exact .inl rfl
  | true =>
    by_cases hlong : maxCastRecordBytesV1 < bytes.length
    · left
      simp only [readCastRecord, if_pos hlong, if_true]
    · cases read with
      | false =>
        left
        simp only [readCastRecord, if_neg hlong, if_true, Bool.false_eq_true, if_false]
      | true =>
        right
        refine ⟨Nat.le_of_not_lt hlong, ?_⟩
        simp only [readCastRecord, if_neg hlong, if_true]

theorem decodeCastRecord_ne_absent (bytes : Bytes) : decodeCastRecord bytes ≠ .absent := by
  unfold decodeCastRecord
  split
  · simp
  · split <;> simp

/-- What was written of one kind is read as it was written, or not at all. -/
theorem VoterCastRecordV1.read_cases (metadata read : Bool) (record : VoterCastRecordV1) :
    readCastRecord metadata read (.file record.encode) = .malformed ∨
      readCastRecord metadata read (.file record.encode) = .validOffline record := by
  rcases readCastRecord_file_cases metadata read record.encode with h | ⟨hlength, h⟩
  · exact .inl h
  · rw [h]
    cases hdecode : decodeCastRecord record.encode with
    | absent => exact absurd hdecode (decodeCastRecord_ne_absent _)
    | malformed => exact .inl rfl
    | validOffline found =>
      have hfound := (VoterCastRecordV1.decode_eq_some_iff.mp
        (decodeCastRecord_eq_validOffline_iff.mp hdecode)).2
      rw [encode_inj hlength hfound]
      exact .inr rfl
    | validOnline found =>
      have hfound := (OnlineReleaseRecordV3.decode_eq_some_iff.mp
        (decodeCastRecord_eq_validOnline_iff.mp hdecode)).2
      exact absurd hfound (encode_ne_encode record found)

theorem OnlineReleaseRecordV3.read_cases (metadata read : Bool) (record : OnlineReleaseRecordV3) :
    readCastRecord metadata read (.file record.encode) = .malformed ∨
      readCastRecord metadata read (.file record.encode) = .validOnline record := by
  rcases readCastRecord_file_cases metadata read record.encode with h | ⟨hlength, h⟩
  · exact .inl h
  · rw [h]
    cases hdecode : decodeCastRecord record.encode with
    | absent => exact absurd hdecode (decodeCastRecord_ne_absent _)
    | malformed => exact .inl rfl
    | validOffline found =>
      have hfound := (VoterCastRecordV1.decode_eq_some_iff.mp
        (decodeCastRecord_eq_validOffline_iff.mp hdecode)).2
      exact absurd hfound.symm (encode_ne_encode found record)
    | validOnline found =>
      have hfound := (OnlineReleaseRecordV3.decode_eq_some_iff.mp
        (decodeCastRecord_eq_validOnline_iff.mp hdecode)).2
      rw [encode_inj hlength hfound]
      exact .inr rfl

/-! ### Steps -/

/-- Two worlds that have the same at a place, and from which the same has left. -/
structure CastWorld.Same (place : Bytes) (world other : CastWorld) : Prop where
  disk : other.disk place = world.disk place
  exposed : other.exposed = world.exposed
  delivered : other.delivered = world.delivered

namespace CastWorld.Same

variable {place : Bytes} {world second third : CastWorld}

theorem refl (world : CastWorld) : world.Same place world := ⟨rfl, rfl, rfl⟩

theorem trans (h : world.Same place second) (h' : second.Same place third) :
    world.Same place third :=
  ⟨h'.disk.trans h.disk, h'.exposed.trans h.exposed, h'.delivered.trans h.delivered⟩

theorem put {path : Bytes} (h : path ≠ place) (node : CastNode) :
    world.Same place (world.put path node) :=
  ⟨Function.update_of_ne h.symm _ _, rfl, rfl⟩

end CastWorld.Same

theorem CastWorld.same_removeFile {place path : Bytes} (world : CastWorld) (h : path ≠ place)
    (works : Bool) : world.Same place (world.removeFile path works).2 := by
  unfold removeFile
  split
  · split
    · exact .put h _
    · exact .refl world
  · split
    · exact .put h _
    · exact .refl world
  · exact .refl world

theorem CastWorld.same_createNew {place path : Bytes} (world : CastWorld) (h : path ≠ place)
    (works : Bool) : world.Same place (world.createNew path works).2 := by
  unfold createNew
  split
  · exact .refl world
  · split
    · exact .put h _
    · exact .refl world

/-! ### Rules -/

section

variable {ε α β : Type} {world : CastWorld}

theorem ends_step {op : ReleaseOp} {k : op.Response → ReleaseProgram α}
    {Q : Option α → CastWorld → Prop} (hcut : Q none world)
    (h : ∀ input, ∃ response after, releaseExec op input world = (response, after) ∧
      (k response).Ends releaseExec Q after) :
    (step op >>= k).Ends releaseExec Q world := by
  apply Program.Ends.act hcut
  intro input
  obtain ⟨response, after, heq, hnext⟩ := h input
  rw [heq]
  exact hnext

theorem ends_ask {op : ReleaseOp} {k : op.Response → ExceptT ε ReleaseProgram α}
    {Q : Option (Except ε α) → CastWorld → Prop} (hcut : Q none world)
    (h : ∀ input, ∃ response after, releaseExec op input world = (response, after) ∧
      (k response).run.Ends releaseExec Q after) :
    (ask op >>= k).run.Ends releaseExec Q world := by
  apply Program.Ends.act hcut
  intro input
  obtain ⟨response, after, heq, hnext⟩ := h input
  rw [heq]
  exact hnext

theorem ends_pure {a : α} {Q : Option (Except ε α) → CastWorld → Prop}
    (h : Q (some (.ok a)) world) :
    (pure a : ExceptT ε ReleaseProgram α).run.Ends releaseExec Q world :=
  Program.Ends.done h

theorem ends_throw {e : ε} {Q : Option (Except ε α) → CastWorld → Prop}
    (h : Q (some (.error e)) world) :
    (throw e : ExceptT ε ReleaseProgram α).run.Ends releaseExec Q world :=
  Program.Ends.done h

end

section

variable {ε ε' α β : Type} {world : CastWorld}

/-- A part whose errors get other names. -/
theorem ends_adapt {f : ε' → ε} {task : ExceptT ε' ReleaseProgram β}
    {k : β → ExceptT ε ReleaseProgram α} {Q : Option (Except ε α) → CastWorld → Prop}
    (h : task.run.Ends releaseExec (fun result after ↦
      Program.GoesOnExcept releaseExec k Q (result.map (Except.mapError f)) after) world) :
    (ExceptT.adapt f task >>= k).run.Ends releaseExec Q world :=
  Program.Ends.bindExcept (Program.Ends.adapt h)

/-- A part that cannot fail. -/
theorem ends_lift {p : ReleaseProgram β} {k : β → ExceptT ε ReleaseProgram α}
    {Q : Option (Except ε α) → CastWorld → Prop}
    (h : p.Ends releaseExec (Program.GoesOn releaseExec (fun b ↦ (k b).run) Q) world) :
    (ExceptT.lift p >>= k).run.Ends releaseExec Q world := by
  apply Program.Ends.bindExcept
  show ((p >>= fun b ↦ Program.done (.ok b)) : ReleaseProgram (Except ε β)).Ends _ _ _
  apply Program.Ends.bind
  apply h.mono
  intro result after hresult
  cases result with
  | none => exact hresult
  | some b => exact Program.Ends.done hresult

end

/-! ### Writes -/

/-- The files of a record are a part of the world. -/
theorem carries_record {path : Bytes} (h : castTemporaryPath path ≠ path) :
    Program.Carries castExec releaseExec (ReleaseOp.record path) (fun _ (worked : Bool) ↦ worked)
      (CastWorld.files · path) ReleaseInput.outcome where
  response _ _ _ := rfl
  state _ _ _ := by
    show CastWorld.files (CastWorld.putFiles _ path _) path = _
    unfold CastWorld.files CastWorld.putFiles CastWorld.put
    dsimp only
    rw [Function.update_self, Function.update_of_ne h, Function.update_self]

/-- Two worlds that differ in the files of a record alone. -/
structure CastWorld.SameBeside (path : Bytes) (world other : CastWorld) : Prop where
  disk : ∀ place, place ≠ path → place ≠ castTemporaryPath path →
    other.disk place = world.disk place
  exposed : other.exposed = world.exposed
  delivered : other.delivered = world.delivered

/-- A write leaves the old record or the new one, and touches no other files. -/
theorem ends_recordAt {path : Bytes} (hpath : castTemporaryPath path ≠ path) (bytes : Bytes)
    (world : CastWorld) :
    (recordAt path (writeRecordBytesAtomic bytes)).run.Ends releaseExec (fun result after ↦
      LeavesWhole bytes (world.disk path) result ⟨after.disk path, .absent⟩ ∧
        world.SameBeside path after) world := by
  apply Program.Ends.and
  · have hwhole : (writeRecordBytesAtomic bytes).run.Ends castExec
        (LeavesWhole bytes (world.disk path)) (world.files path) :=
      fun performed ↦ writeRecordBytesAtomic_ensures bytes (world.files path) performed
    exact Program.Ends.via (carries_record hpath) hwhole
  · refine Program.Ends.of_issues (P := fun op ↦ ∃ write, op = .record path write)
      (I := world.SameBeside path) ?_ (Program.Issues.via (fun op _ ↦ ⟨op, rfl⟩)
        (Program.issues_true _)) ⟨fun _ _ _ ↦ rfl, rfl, rfl⟩
    rintro _ input other ⟨write, rfl⟩ h
    refine ⟨fun place hplace htemporary ↦ ?_, h.exposed, h.delivered⟩
    rw [← h.disk place hplace htemporary]
    show Function.update (Function.update other.disk _ _) _ _ place = _
    rw [Function.update_of_ne hplace, Function.update_of_ne htemporary]

theorem CastWorld.SameBeside.same {path place : Bytes} {world after : CastWorld}
    (h : world.SameBeside path after) (hplace : place ≠ path)
    (htemporary : place ≠ castTemporaryPath path) : world.Same place after :=
  ⟨h.disk place hplace htemporary, h.exposed, h.delivered⟩

/-- A link exposes what is at its source, under a name that was free. -/
theorem CastWorld.hardLink_cases (world : CastWorld) (source target : Bytes) (works : Bool) :
    (∃ answer, answer ≠ .linked ∧ world.hardLink source target works = (answer, world)) ∨
      (world.disk target = .absent ∧ world.hardLink source target works = (.linked,
        { world.put target (world.disk source) with
          exposed := world.exposed ++ [world.disk source] })) := by
  unfold hardLink
  split
  · exact .inl ⟨.failed, by simp, rfl⟩
  · split
    · exact .inl ⟨.failed, by simp, rfl⟩
    · exact .inl ⟨.failed, by simp, rfl⟩
    · next htarget _ _ => exact .inr ⟨htarget, rfl⟩
    · exact .inl ⟨.alreadyExists, by simp, rfl⟩

/-! ### Parts of a call -/

/-- Whether a record is there is asked, and nothing is touched. -/
theorem ends_castRecordExistsV1 (path : Bytes) (world : CastWorld) :
    (castRecordExistsV1 path).run.Ends releaseExec (fun result after ↦
      after = world ∧ (result = some (.ok false) → world.disk path = .absent)) world := by
  unfold castRecordExistsV1
  apply ends_ask ⟨rfl, fun h ↦ by cases h⟩
  rintro ⟨metadata, works, bytes, probe⟩
  cases metadata with
  | false => exact ⟨none, world, rfl, ends_throw ⟨rfl, fun h ↦ by cases h⟩⟩
  | true =>
    refine ⟨some (decide (world.disk path ≠ .absent)), world, rfl, ends_pure ⟨rfl, fun h ↦ ?_⟩⟩
    by_contra hpresent
    simp [hpresent] at h

section

variable {crate : TriptychCrate} {provider : HashProvider} {canonicalBytes : Bytes}
  {artifacts : GuiElectionArtifactsV1} {path place : Bytes}

/-- A package that was written and verified is at its path, and nothing else was touched. -/
theorem ends_writeAndVerifyBallotPackageToPath (hplace : path ≠ place) (world : CastWorld) :
    (writeAndVerifyBallotPackageToPath crate provider canonicalBytes artifacts path).run.Ends
      releaseExec (fun result after ↦ world.Same place after ∧
        ∀ length, result = some (.ok length) → after.disk path = .file canonicalBytes) world := by
  have hfail : ∀ {after : CastWorld} {result : Option (Except GuiCoreError Nat)},
      world.Same place after → (∀ length, result ≠ some (.ok length)) →
        world.Same place after ∧
          ∀ length, result = some (.ok length) → after.disk path = .file canonicalBytes :=
    fun hsame hno ↦ ⟨hsame, fun length h ↦ absurd h (hno length)⟩
  unfold writeAndVerifyBallotPackageToPath
  refine ends_ask (hfail (.refl world) (by simp)) fun input ↦ ?_
  have hcreated := world.same_createNew hplace input.works
  refine ⟨(world.createNew path input.works).1, (world.createNew path input.works).2, rfl, ?_⟩
  generalize (world.createNew path input.works).1 = answer
  generalize (world.createNew path input.works).2 = created at hcreated ⊢
  cases answer with
  | alreadyExists => exact ends_throw (hfail hcreated (by simp))
  | failed => exact ends_throw (hfail hcreated (by simp))
  | created =>
  have hwritten : ∀ node, world.Same place (created.put path node) :=
    fun node ↦ hcreated.trans (.put hplace node)
  refine ends_ask (hfail hcreated (by simp)) ?_
  rintro ⟨metadata, works, bytes, probe⟩
  cases works with
  | false => exact ⟨false, _, rfl, ends_throw (hfail (hwritten _) (by simp))⟩
  | true =>
  refine ⟨true, created.put path (.file canonicalBytes), rfl, ?_⟩
  have hdisk : (created.put path (.file canonicalBytes)).disk path = .file canonicalBytes :=
    Function.update_self _ _ _
  refine ends_ask (hfail (hwritten _) (by simp)) ?_
  rintro ⟨metadata, works, bytes, probe⟩
  cases works with
  | false => exact ⟨false, _, rfl, ends_throw (hfail (hwritten _) (by simp))⟩
  | true =>
  refine ⟨true, _, rfl, ends_ask (hfail (hwritten _) (by simp)) ?_⟩
  rintro ⟨metadata, works, bytes, probe⟩
  cases works with
  | false =>
    refine ⟨none, created.put path (.file canonicalBytes), ?_,
      ends_throw (hfail (hwritten _) (by simp))⟩
    simp [releaseExec, hdisk]
  | true =>
    refine ⟨some canonicalBytes, created.put path (.file canonicalBytes), ?_, ?_⟩
    · simp [releaseExec, hdisk]
    · simp only [ne_eq, not_true_eq_false, if_false]
      exact Program.Ends.done ⟨hwritten _, fun _ _ ↦ hdisk⟩

end

/-- A link that was made exposes what was at the temporary path, under a name that was free. -/
theorem ends_finalizeVerifiedCastTempWithoutOverwrite {tempPath finalPath place : Bytes}
    {world : CastWorld} (hplace : world.disk place ≠ .absent) (htemp : tempPath ≠ place) :
    (finalizeVerifiedCastTempWithoutOverwrite tempPath finalPath).run.Ends releaseExec
      (fun result after ↦ after.disk place = world.disk place ∧ after.delivered = world.delivered ∧
        (after.exposed = world.exposed ∧ result ≠ some (.ok ()) ∨
          after.exposed = world.exposed ++ [world.disk tempPath] ∧
            (tempPath ≠ finalPath → after.disk finalPath = world.disk tempPath))) world := by
  unfold finalizeVerifiedCastTempWithoutOverwrite
  refine ends_ask ⟨rfl, rfl, .inl ⟨rfl, by simp⟩⟩ fun input ↦ ?_
  rcases world.hardLink_cases tempPath finalPath input.works with
    ⟨answer, hanswer, hsame⟩ | ⟨hfree, hlinked⟩
  · refine ⟨answer, world, hsame, ?_⟩
    cases answer with
    | linked => exact absurd rfl hanswer
    | alreadyExists => exact ends_throw ⟨rfl, rfl, .inl ⟨rfl, by simp⟩⟩
    | failed => exact ends_throw ⟨rfl, rfl, .inl ⟨rfl, by simp⟩⟩
  · have hfinal : place ≠ finalPath := by
      rintro rfl
      exact hplace hfree
    have hkept : ∀ {after : CastWorld} {result : Option (Except GuiCoreError Unit)},
        after.disk place = world.disk place → after.delivered = world.delivered →
        after.exposed = world.exposed ++ [world.disk tempPath] →
        (tempPath ≠ finalPath → after.disk finalPath = world.disk tempPath) →
        after.disk place = world.disk place ∧ after.delivered = world.delivered ∧
          (after.exposed = world.exposed ∧ result ≠ some (.ok ()) ∨
            after.exposed = world.exposed ++ [world.disk tempPath] ∧
              (tempPath ≠ finalPath → after.disk finalPath = world.disk tempPath)) :=
      fun hdisk hdelivered hexposed hfinal ↦ ⟨hdisk, hdelivered, .inr ⟨hexposed, hfinal⟩⟩
    have hplaced : Function.update world.disk finalPath (world.disk tempPath) place =
        world.disk place := Function.update_of_ne hfinal _ _
    have hthere : Function.update world.disk finalPath (world.disk tempPath) finalPath =
        world.disk tempPath := Function.update_self _ _ _
    refine ⟨.linked, _, hlinked, ends_ask (hkept hplaced rfl rfl fun _ ↦ hthere) fun input ↦ ?_⟩
    refine ⟨input.works, _, rfl, ends_ask (hkept hplaced rfl rfl fun _ ↦ hthere) fun input ↦ ?_⟩
    refine ⟨_, _, rfl, ends_pure ?_⟩
    have hsame := CastWorld.same_removeFile { world.put finalPath (world.disk tempPath) with
      exposed := world.exposed ++ [world.disk tempPath] } htemp input.works
    refine hkept (hsame.disk.trans hplaced) hsame.delivered hsame.exposed fun hne ↦ ?_
    exact (CastWorld.same_removeFile { world.put finalPath (world.disk tempPath) with
      exposed := world.exposed ++ [world.disk tempPath] } hne input.works).disk.trans hthere

private theorem eq_ok_of_toOption {ε α : Type} {result : Except ε α} {a : α}
    (h : result.toOption = some a) : result = .ok a := by
  cases result with
  | error e => cases h
  | ok b => exact congrArg Except.ok (Option.some.inj h)

/-- The digest of a file is that of its bytes. -/
theorem packageDigestHexOfBytes_eq_some {provider : HashProvider}
    {artifacts : GuiElectionArtifactsV1} {bytes : Bytes} {digest : Text}
    (h : packageDigestHexOfBytes provider artifacts bytes = some digest) :
    digest = packageDigestHex provider bytes := by
  obtain ⟨found, hfound, rfl⟩ := Option.map_eq_some_iff.mp h
  have hok := eq_ok_of_toOption hfound
  simp only [bind_eq_ok, ballotPackageHash] at hok
  obtain ⟨package, hpackage, -, -, -, -, encoded, hencoded, hpure⟩ := hok
  rw [(BallotPackageV1.toCanonicalCbor_of_fromCanonicalCbor hpackage).2] at hencoded
  cases hencoded
  cases hpure
  rfl

/-- A digest was computed of the file that is there. -/
theorem ends_packageDigestHexOfFile (provider : HashProvider) (artifacts : GuiElectionArtifactsV1)
    (path : Bytes) (world : CastWorld) :
    (packageDigestHexOfFile provider artifacts path).Ends releaseExec (fun result after ↦
      after = world ∧ ∀ digest, result = some (some digest) →
        ∃ bytes, world.disk path = .file bytes ∧ digest = packageDigestHex provider bytes)
      world := by
  unfold packageDigestHexOfFile
  refine ends_step ⟨rfl, fun _ h ↦ by cases h⟩ fun input ↦ ?_
  cases hnode : world.disk path with
  | file bytes =>
    refine ⟨if input.metadata && input.works then some bytes else none, world, ?_,
      Program.Ends.done ⟨rfl, fun digest h ↦ ⟨bytes, rfl, ?_⟩⟩⟩
    · simp only [releaseExec, hnode]
    · obtain ⟨found, hfound, hdigest⟩ := Option.bind_eq_some_iff.mp (Option.some.inj h)
      obtain ⟨hread, -⟩ := Option.filter_eq_some_iff.mp hfound
      obtain ⟨-, hbytes⟩ := Option.ite_none_right_eq_some.mp hread
      cases hbytes
      exact packageDigestHexOfBytes_eq_some hdigest
  | absent =>
    refine ⟨none, world, ?_, Program.Ends.done ⟨rfl, fun _ h ↦ by cases h⟩⟩
    simp only [releaseExec, hnode]
  | link =>
    refine ⟨none, world, ?_, Program.Ends.done ⟨rfl, fun _ h ↦ by cases h⟩⟩
    simp only [releaseExec, hnode]
  | directory =>
    refine ⟨none, world, ?_, Program.Ends.done ⟨rfl, fun _ h ↦ by cases h⟩⟩
    simp only [releaseExec, hnode]

/-- An envelope that was read back has the digest that was asked for. -/
theorem ends_readAndVerifyStagedReleaseEnvelopeV1 (crates : ReleaseCrates)
    (stagedEnvelopePath : Bytes) (expected : Text) (descriptor : TransportDescriptorV1)
    (world : CastWorld) :
    (readAndVerifyStagedReleaseEnvelopeV1 crates stagedEnvelopePath expected descriptor).run.Ends
      releaseExec (fun result after ↦ after = world ∧ ∀ envelope, result = some (.ok envelope) →
        stagedReleaseEnvelopeDigestHexV1 crates.provider envelope = expected) world := by
  have hfail : ∀ {result : Option (Except GuiCoreError Bytes)},
      (∀ envelope, result ≠ some (.ok envelope)) → world = world ∧
        ∀ envelope, result = some (.ok envelope) →
          stagedReleaseEnvelopeDigestHexV1 crates.provider envelope = expected :=
    fun hno ↦ ⟨rfl, fun envelope h ↦ absurd h (hno envelope)⟩
  unfold readAndVerifyStagedReleaseEnvelopeV1
  apply Program.Ends.bindExcept
  unfold readStagedReleaseEnvelopeV1
  refine ends_ask (hfail (by simp)) fun input ↦ ?_
  refine ⟨(releaseExec (.readRegular stagedEnvelopePath) input world).1, world, rfl, ?_⟩
  generalize (releaseExec (.readRegular stagedEnvelopePath) input world).1 = found
  cases found with
  | none => exact ends_throw (hfail (by simp))
  | some bytes =>
  by_cases hbounds : bytes = [] ∨ TransportNetwork.maxStagedReleaseEnvelopeBytes < bytes.length
  · simp only [if_pos hbounds]
    exact ends_throw (hfail (by simp))
  simp only [if_neg hbounds]
  refine ends_pure ?_
  by_cases hdigest : stagedReleaseEnvelopeDigestHexV1 crates.provider bytes = expected
  · simp only [Program.GoesOnExcept, hdigest, ne_eq, not_true_eq_false, if_false]
    cases PrivateBallotEnvelopeV1.fromCanonicalCbor bytes with
    | error e => exact ends_throw (hfail (by simp))
    | ok envelope =>
      dsimp only
      cases envelope.receiverOpeningMaterial crates.provider descriptor with
      | error e => exact ends_throw (hfail (by simp))
      | ok material =>
        refine ends_pure ⟨rfl, fun other h ↦ ?_⟩
        cases h
        exact hdigest
  · simp only [Program.GoesOnExcept, ne_eq, hdigest, not_false_eq_true, if_true]
    exact ends_throw (hfail (by simp))

/-- The handle of a retry is that of a pending record of the pair, as it was read. -/
theorem ends_loadPendingReleaseRetryHandleV1 (path : Bytes)
    (manifestHashHex credentialFingerprintHex : Text) (world : CastWorld) :
    (loadPendingReleaseRetryHandleV1 path manifestHashHex credentialFingerprintHex).Ends
      releaseExec (fun result after ↦ after = world ∧ ∀ handle, result = some (some handle) →
        ∃ metadata read record,
          readCastRecord metadata read (world.disk path) = .validOnline record ∧
          handle = ⟨record.stagedEnvelopePath.toBytes, record.stagedEnvelopeDigestHex,
            record.descriptorFingerprintHex, record.packageDigestHex,
            record.receiptEvidencePath.toBytes⟩) world := by
  have hnone : ∀ {result : Option (Option PendingReleaseRetryHandleV1)},
      (∀ handle, result ≠ some (some handle)) → world = world ∧
        ∀ handle, result = some (some handle) → ∃ metadata read record,
          readCastRecord metadata read (world.disk path) = .validOnline record ∧
          handle = ⟨record.stagedEnvelopePath.toBytes, record.stagedEnvelopeDigestHex,
            record.descriptorFingerprintHex, record.packageDigestHex,
            record.receiptEvidencePath.toBytes⟩ :=
    fun hno ↦ ⟨rfl, fun handle h ↦ absurd h (hno handle)⟩
  unfold loadPendingReleaseRetryHandleV1
  refine ends_step (hnone (by simp)) fun input ↦ ?_
  refine ⟨readCastRecord input.metadata input.works (world.disk path), world, rfl, ?_⟩
  cases hread : readCastRecord input.metadata input.works (world.disk path) with
  | absent => exact Program.Ends.done (hnone (by simp))
  | malformed => exact Program.Ends.done (hnone (by simp))
  | validOffline record => exact Program.Ends.done (hnone (by simp))
  | validOnline record =>
    dsimp only
    split
    · exact Program.Ends.done (hnone (by simp))
    · refine Program.Ends.done
        ⟨rfl, fun handle h ↦ ⟨input.metadata, input.works, record, hread, ?_⟩⟩
      cases h
      rfl

/-- The receipt of a release is kept beside every record. -/
theorem ends_persistReleaseReceiptEvidenceV1 {receiptEvidencePath place : Bytes}
    (hreceipt : receiptEvidencePath.getLast? = some 0x74) (hplace : place.getLast? = some 0x6b)
    (receiptBytes : Bytes) (world : CastWorld) :
    (persistReleaseReceiptEvidenceV1 receiptEvidencePath receiptBytes).run.Ends releaseExec
      (fun _ after ↦ world.Same place after) world := by
  unfold persistReleaseReceiptEvidenceV1
  split
  · exact ends_throw (.refl world)
  · apply (ends_recordAt (ne_of_getLast? (getLast?_castTemporaryPath _) hreceipt (by decide))
      receiptBytes world).mono
    rintro result after ⟨-, hbeside⟩
    exact hbeside.same (ne_of_getLast? hplace hreceipt (by decide))
      (ne_of_getLast? hplace (getLast?_castTemporaryPath _) (by decide))

/-- The envelope of a release is staged beside every record. -/
theorem ends_stageReleaseEnvelopeV1 {stagedEnvelopePath place : Bytes}
    (hstaged : stagedEnvelopePath.getLast? = some 0x65) (hplace : place.getLast? = some 0x6b)
    (envelope : Bytes) (world : CastWorld) :
    (stageReleaseEnvelopeV1 stagedEnvelopePath envelope).run.Ends releaseExec
      (fun _ after ↦ world.Same place after) world := by
  unfold stageReleaseEnvelopeV1
  split
  · exact ends_throw (.refl world)
  · apply (ends_recordAt (ne_of_getLast? (getLast?_castTemporaryPath _) hstaged (by decide))
      envelope world).mono
    rintro result after ⟨-, hbeside⟩
    exact hbeside.same (ne_of_getLast? hplace hstaged (by decide))
      (ne_of_getLast? hplace (getLast?_castTemporaryPath _) (by decide))

end PrivateBallot.GuiCore
