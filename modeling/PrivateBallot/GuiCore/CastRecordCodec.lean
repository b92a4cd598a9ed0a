import PrivateBallot.GuiCore.CastRecords

/-!
# Cast records that are read as they were written

Library `GuiCore`. `crates/gui-core/src/voter_cast_lock.rs:124-302,386-408,1226-1290`. The decoders
are exact for the encoders on records whose fields are short enough. The writers do not look at the
length of what they write, and a path that is not text is changed on its way into the record.
-/

namespace PrivateBallot.GuiCore

open PrivateBallot.Base Reader

/-! ### The readers of the format -/

namespace CastCursor

theorem exact_readU32 : Exact readU32 (leBytes 4) (· < 2 ^ 32) := by
  have hlt : ∀ n, n = ofLeBytes (leBytes 4 n) ↔ n < 2 ^ 32 := by
    intro n
    constructor
    · intro h
      have hbound := ofLeBytes_lt (leBytes 4 n)
      rw [length_leBytes, ← h] at hbound
      exact hbound
    · intro h
      exact (ofLeBytes_leBytes 4 n h).symm
  refine ((Exact.take 4).bind (leBytes 4) (fun slice ↦ .pure (ofLeBytes slice)) ?_).congr
    (fun n ↦ ?_) fun n _ ↦ List.append_nil _
  · rintro slice n hlen rfl
    rw [← hlen]
    exact leBytes_ofLeBytes slice
  · rw [← hlt, length_leBytes, eq_self_iff_true, true_and]

/-- The longest field is far from the lengths that are cut. -/
theorem exact_readField : Exact readField encodeField (·.len ≤ maxCastRecordFieldBytes) := by
  have hrest : ∀ len, Exact (if maxCastRecordFieldBytes < len then failure else do
      let slice ← Reader.take len
      liftM (Text.ofBytes? slice)) Text.toBytes
      fun value ↦ len ≤ maxCastRecordFieldBytes ∧ value.len = len := by
    intro len
    split
    · next hlong => exact Exact.failure fun value h ↦ absurd h.1 (Nat.not_le_of_lt hlong)
    · next hshort =>
      refine ((Exact.take len).bind Text.toBytes (fun slice ↦ .lift (Text.ofBytes? slice)) ?_).congr
        (fun value ↦ ?_) fun value _ ↦ List.append_nil _
      · intro slice value _ hvalue
        exact Text.toBytes_of_ofBytes? hvalue
      · rw [Text.ofBytes?_toBytes, eq_self_iff_true, and_true, Text.len]
        exact ⟨fun h ↦ ⟨Nat.le_of_not_lt hshort, h⟩, fun h ↦ h.2⟩
  have hmax : maxCastRecordFieldBytes < 2 ^ 32 := by decide
  refine (exact_readU32.bind Text.len hrest ?_).congr (fun value ↦ ?_) fun value h ↦ ?_
  · intro len value _ h
    exact h.2
  · exact ⟨fun h ↦ h.2.1, fun h ↦ ⟨Nat.lt_of_le_of_lt h hmax, h, rfl⟩⟩
  · rw [encodeField, Nat.mod_eq_of_lt (Nat.lt_of_le_of_lt h hmax)]

theorem exact_expectVersion {version : Nat} (h : version < 2 ^ 32) :
    Exact (expectVersion version) (fun _ ↦ leBytes 4 version) fun _ ↦ True := by
  have hrest : ∀ found, Exact (if found ≠ version then failure else pure ()) (fun _ : Unit ↦ [])
      fun _ ↦ found = version := by
    intro found
    split
    · next hne => exact Exact.failure fun _ ↦ hne
    · next heq =>
      exact (Exact.pure ()).congr (fun _ ↦ iff_of_true rfl (not_not.mp heq)) fun _ _ ↦ rfl
  refine (exact_readU32.bind (fun _ ↦ version) hrest ?_).congr (fun _ ↦ ?_)
    fun _ _ ↦ List.append_nil _
  · rintro found _ _ rfl
    rfl
  · exact iff_of_true ⟨h, rfl⟩ trivial

theorem exact_readU8 : Exact readU8 (fun b ↦ [b]) fun _ ↦ True := by
  intro s b t
  cases s with
  | nil => exact iff_of_false (fun h ↦ by cases h) fun h ↦ by cases h.2
  | cons first rest =>
    rw [readU8, Option.some.injEq, Prod.mk.injEq, List.singleton_append, List.cons.injEq, true_and]

theorem exact_readFlag : Exact readFlag encodeFlag fun _ ↦ True := by
  have hrest : ∀ byte : UInt8, Exact
      (if byte = 0 then pure false else if byte = 1 then pure true else failure) (fun _ : Bool ↦ [])
      fun isCast ↦ byte = if isCast then 1 else 0 := by
    intro byte
    split
    · next h =>
      subst h
      exact (Exact.pure false).congr (fun isCast ↦ by cases isCast <;> decide) fun _ _ ↦ rfl
    split
    · next h =>
      subst h
      exact (Exact.pure true).congr (fun isCast ↦ by cases isCast <;> decide) fun _ _ ↦ rfl
    · next hzero hone =>
      refine Exact.failure fun isCast ↦ ?_
      cases isCast with
      | false => exact hzero
      | true => exact hone
  refine (exact_readU8.bind (fun isCast ↦ if isCast then 1 else 0) hrest ?_).congr
    (fun _ ↦ iff_of_true ⟨trivial, rfl⟩ trivial) fun _ _ ↦ List.append_nil _
  intro byte isCast _ h
  exact h.symm

end CastCursor

open CastCursor

/-! ### The two formats -/

/-- No field is longer than the reader takes. -/
structure VoterCastRecordV1.Fits (record : VoterCastRecordV1) : Prop where
  electionManifestHashHex : record.electionManifestHashHex.len ≤ maxCastRecordFieldBytes
  credentialFingerprintHex : record.credentialFingerprintHex.len ≤ maxCastRecordFieldBytes
  packageDigestHex : record.packageDigestHex.len ≤ maxCastRecordFieldBytes
  finalPath : record.finalPath.len ≤ maxCastRecordFieldBytes
  tempPath : record.tempPath.len ≤ maxCastRecordFieldBytes

/-- No field is longer than the reader takes. -/
structure OnlineReleaseRecordV3.Fits (record : OnlineReleaseRecordV3) : Prop where
  electionManifestHashHex : record.electionManifestHashHex.len ≤ maxCastRecordFieldBytes
  credentialFingerprintHex : record.credentialFingerprintHex.len ≤ maxCastRecordFieldBytes
  packageDigestHex : record.packageDigestHex.len ≤ maxCastRecordFieldBytes
  stagedEnvelopePath : record.stagedEnvelopePath.len ≤ maxCastRecordFieldBytes
  stagedEnvelopeDigestHex : record.stagedEnvelopeDigestHex.len ≤ maxCastRecordFieldBytes
  descriptorFingerprintHex : record.descriptorFingerprintHex.len ≤ maxCastRecordFieldBytes
  receiptEvidencePath : record.receiptEvidencePath.len ≤ maxCastRecordFieldBytes

/-- The decoder is exact for the encoder on records that fit. -/
theorem VoterCastRecordV1.decode_eq_some_iff {bytes : Bytes} {record : VoterCastRecordV1} :
    decode bytes = some record ↔ record.Fits ∧ bytes = record.encode := by
  unfold decode
  refine Exact.exhaust_eq_some_iff (Exact.congr
    ((Exact.expectBytes castRecordMagicV1).bind (fun _ ↦ ()) (fun _ ↦
      (exact_expectVersion (show castRecordVersionV1 < 2 ^ 32 by decide)).bind (fun _ ↦ ()) (fun _ ↦
        exact_readField.bind electionManifestHashHex (fun _ ↦
          exact_readField.bind credentialFingerprintHex (fun _ ↦
            exact_readField.bind packageDigestHex (fun _ ↦
              exact_readField.bind finalPath (fun _ ↦
                exact_readField.bind tempPath (fun _ ↦
                  exact_readFlag.bind isCast (fun _ ↦ Exact.pure _)
                    fun _ _ _ h ↦ congrArg isCast h)
                  fun _ _ _ h ↦ congrArg tempPath h.2)
                fun _ _ _ h ↦ congrArg finalPath h.2.2)
              fun _ _ _ h ↦ congrArg packageDigestHex h.2.2.2)
            fun _ _ _ h ↦ congrArg credentialFingerprintHex h.2.2.2.2)
          fun _ _ _ h ↦ congrArg electionManifestHashHex h.2.2.2.2.2)
        fun _ _ _ _ ↦ rfl)
      fun _ _ _ _ ↦ rfl) ?_ ?_)
  · intro record
    constructor
    · rintro ⟨-, -, h₁, h₂, h₃, h₄, h₅, -, -⟩
      exact ⟨h₁, h₂, h₃, h₄, h₅⟩
    · rintro ⟨h₁, h₂, h₃, h₄, h₅⟩
      exact ⟨trivial, trivial, h₁, h₂, h₃, h₄, h₅, trivial, rfl⟩
  · intro record _
    rw [encode, List.append_nil]

/-- The decoder is exact for the encoder on records that fit. -/
theorem OnlineReleaseRecordV3.decode_eq_some_iff {bytes : Bytes} {record : OnlineReleaseRecordV3} :
    decode bytes = some record ↔ record.Fits ∧ bytes = record.encode := by
  unfold decode
  refine Exact.exhaust_eq_some_iff (Exact.congr
    ((Exact.expectBytes releaseRecordMagicV3).bind (fun _ ↦ ()) (fun _ ↦
      (exact_expectVersion (show releaseRecordVersionV3 < 2 ^ 32 by decide)).bind (fun _ ↦ ())
        (fun _ ↦ exact_readField.bind electionManifestHashHex (fun _ ↦
          exact_readField.bind credentialFingerprintHex (fun _ ↦
            exact_readField.bind packageDigestHex (fun _ ↦
              exact_readField.bind stagedEnvelopePath (fun _ ↦
                exact_readField.bind stagedEnvelopeDigestHex (fun _ ↦
                  exact_readField.bind descriptorFingerprintHex (fun _ ↦
                    exact_readField.bind receiptEvidencePath (fun _ ↦
                      exact_readFlag.bind isCast (fun _ ↦ Exact.pure _)
                        fun _ _ _ h ↦ congrArg isCast h)
                      fun _ _ _ h ↦ congrArg receiptEvidencePath h.2)
                    fun _ _ _ h ↦ congrArg descriptorFingerprintHex h.2.2)
                  fun _ _ _ h ↦ congrArg stagedEnvelopeDigestHex h.2.2.2)
                fun _ _ _ h ↦ congrArg stagedEnvelopePath h.2.2.2.2)
              fun _ _ _ h ↦ congrArg packageDigestHex h.2.2.2.2.2)
            fun _ _ _ h ↦ congrArg credentialFingerprintHex h.2.2.2.2.2.2)
          fun _ _ _ h ↦ congrArg electionManifestHashHex h.2.2.2.2.2.2.2)
        fun _ _ _ _ ↦ rfl)
      fun _ _ _ _ ↦ rfl) ?_ ?_)
  · intro record
    constructor
    · rintro ⟨-, -, h₁, h₂, h₃, h₄, h₅, h₆, h₇, -, -⟩
      exact ⟨h₁, h₂, h₃, h₄, h₅, h₆, h₇⟩
    · rintro ⟨h₁, h₂, h₃, h₄, h₅, h₆, h₇⟩
      exact ⟨trivial, trivial, h₁, h₂, h₃, h₄, h₅, h₆, h₇, trivial, rfl⟩
  · intro record _
    rw [encode, List.append_nil]

/-- The kinds differ in their first bytes. -/
theorem not_decode_both {bytes : Bytes} {cast : VoterCastRecordV1} {release : OnlineReleaseRecordV3}
    (hcast : VoterCastRecordV1.decode bytes = some cast)
    (hrelease : OnlineReleaseRecordV3.decode bytes = some release) : False := by
  have hcastMagic : castRecordMagicV1 <+: bytes := by
    rw [(VoterCastRecordV1.decode_eq_some_iff.mp hcast).2, VoterCastRecordV1.encode]
    exact List.prefix_append _ _
  have hreleaseMagic : releaseRecordMagicV3 <+: bytes := by
    rw [(OnlineReleaseRecordV3.decode_eq_some_iff.mp hrelease).2, OnlineReleaseRecordV3.encode]
    exact List.prefix_append _ _
  have hno : ¬ castRecordMagicV1 <+: releaseRecordMagicV3 := by decide
  exact hno (List.prefix_of_prefix_length_le hcastMagic hreleaseMagic (by decide))

/-! ### The file -/

/-- Only the renaming touches the record. -/
theorem castExec_record {op : CastOp} (h : op ≠ .rename) (outcome : CastOutcome)
    (files : CastFiles) : (castExec op outcome files).2.record = files.record := by
  unfold castExec
  split
  · split <;> rfl
  · split <;> rfl
  · rfl
  · rfl
  · exact absurd rfl h
  · rfl
  · rfl

/-- The renaming leaves the record, or puts the temporary file in its place. -/
theorem castExec_rename (outcome : CastOutcome) (files : CastFiles) :
    castExec .rename outcome files = (false, files) ∨
      castExec .rename outcome files = (true, ⟨files.temporary, .absent⟩) := by
  cases outcome with
  | fails written => exact Or.inl rfl
  | works =>
    obtain ⟨record, temporary⟩ := files
    cases record with
    | directory => exact Or.inl rfl
    | absent => exact Or.inr rfl
    | file bytes => exact Or.inr rfl
    | link => exact Or.inr rfl

/-- A write that works leaves all the bytes in the temporary file. -/
theorem castExec_writeTemporary {bytes : Bytes} {outcome : CastOutcome} {files : CastFiles}
    (h : (castExec (.writeTemporary bytes) outcome files).1 = true) :
    (castExec (.writeTemporary bytes) outcome files).2 =
      { files with temporary := .file bytes } := by
  cases outcome with
  | works => rfl
  | fails written => cases h

theorem castExec_flush (outcome : CastOutcome) (files : CastFiles) :
    (castExec .flush outcome files).2 = files := by
  cases outcome <;> rfl

theorem castExec_syncTemporary (outcome : CastOutcome) (files : CastFiles) :
    (castExec .syncTemporary outcome files).2 = files := by
  cases outcome <;> rfl

section Steps

variable {J : CastOutcome → Prop} {performed : List (Sigma CastOp.Response)} {files : CastFiles}
  {R : Option (Except GuiCoreError Unit) → CastFiles → Prop}

/-- The rule of a step: what holds if the call ends before it, if it fails and if it works. -/
theorem ensures_castStep {op : CastOp} {k : Unit → ExceptT GuiCoreError CastProgram Unit}
    (hcut : R none files)
    (hfails : ∀ outcome, (castExec op outcome files).1 = false →
      R (some (.error (.ioFailure "cast-lock"))) (castExec op outcome files).2)
    (hworks : ∀ performed outcome, (castExec op outcome files).1 = true →
      (k ()).run.Ensures castExec J (fun _ ↦ R) performed (castExec op outcome files).2) :
    (castStep op >>= k).run.Ensures castExec J (fun _ ↦ R) performed files := by
  refine Program.Ensures.bindExcept ⟨hcut, fun outcome _ ↦ ?_⟩
  cases hworked : (castExec op outcome files).1 with
  | false => exact hfails outcome hworked
  | true => exact hworks _ outcome hworked

end Steps

/-- Wherever a write ends, the record is what it was or has all the new bytes, and these if the
write says so. -/
def LeavesWhole (bytes : Bytes) (before : CastNode) (result : Option (Except GuiCoreError Unit))
    (files : CastFiles) : Prop :=
  files.record = .file bytes ∨ files.record = before ∧ result ≠ some (.ok ())

theorem writeRecordBytesAtomic_ensures {J : CastOutcome → Prop} (bytes : Bytes)
    (files : CastFiles) (performed : List (Sigma CastOp.Response)) :
    (writeRecordBytesAtomic bytes).run.Ensures castExec J
      (fun _ ↦ LeavesWhole bytes files.record) performed files := by
  have hsame : ∀ {result : Option (Except GuiCoreError Unit)} {after : CastFiles},
      after.record = files.record → result ≠ some (.ok ()) →
      LeavesWhole bytes files.record result after := fun hrecord hresult ↦ Or.inr ⟨hrecord, hresult⟩
  have hne : ∀ e, (some (.error e) : Option (Except GuiCoreError Unit)) ≠ some (.ok ()) :=
    fun e h ↦ by cases h
  refine Program.Ensures.bindExcept ⟨hsame rfl (by simp), fun outcome _ ↦ ?_⟩
  have hremoved := castExec_record (show CastOp.removeTemporary ≠ .rename by simp) outcome files
  generalize (castExec .removeTemporary outcome files).2 = removed at hremoved ⊢
  refine ensures_castStep (hsame hremoved (by simp)) (fun outcome _ ↦ ?_) fun _ outcome _ ↦ ?_
  · exact hsame ((castExec_record (by simp) outcome removed).trans hremoved) (hne _)
  have hcreated := (castExec_record (show CastOp.createTemporary ≠ .rename by simp) outcome
    removed).trans hremoved
  generalize (castExec .createTemporary outcome removed).2 = created at hcreated ⊢
  refine ensures_castStep (hsame hcreated (by simp)) (fun outcome _ ↦ ?_)
    fun _ outcome hwritten ↦ ?_
  · exact hsame ((castExec_record (by simp) outcome created).trans hcreated) (hne _)
  rw [castExec_writeTemporary hwritten]
  refine ensures_castStep (hsame hcreated (by simp)) (fun outcome _ ↦ ?_) fun _ outcome _ ↦ ?_
  · rw [castExec_flush]
    exact hsame hcreated (hne _)
  rw [castExec_flush]
  refine ensures_castStep (hsame hcreated (by simp)) (fun outcome _ ↦ ?_) fun _ outcome _ ↦ ?_
  · rw [castExec_syncTemporary]
    exact hsame hcreated (hne _)
  rw [castExec_syncTemporary]
  refine ⟨hsame hcreated (by simp), fun outcome _ ↦ ?_⟩
  rcases castExec_rename outcome { created with temporary := .file bytes } with hrename | hrename
  · -- the renaming failed, and the temporary file is removed
    rw [hrename]
    refine ⟨hsame hcreated (by simp), fun outcome _ ↦ ?_⟩
    exact hsame ((castExec_record (by simp) outcome _).trans hcreated) (hne _)
  · rw [hrename]
    refine ⟨Or.inl rfl, fun outcome _ ↦ Or.inl ?_⟩
    exact castExec_record (by simp) outcome _

/-- A write that returns has put all the bytes into the record. -/
theorem record_of_write {bytes : Bytes} {inputs rest : List CastOutcome} {files after : CastFiles}
    (h : (writeRecordBytesAtomic bytes).run.resume castExec inputs files =
      (some (.ok (), rest), after)) : after.record = .file bytes := by
  have hensures := (writeRecordBytesAtomic_ensures (J := fun _ ↦ True) bytes files []).resume
    inputs fun _ _ ↦ trivial
  rw [h] at hensures
  rcases hensures with hrecord | ⟨-, hresult⟩
  · exact hrecord
  · exact absurd rfl hresult

/-! ### Reading back -/

theorem decodeCastRecord_eq_validOffline_iff {bytes : Bytes} {record : VoterCastRecordV1} :
    decodeCastRecord bytes = .validOffline record ↔
      VoterCastRecordV1.decode bytes = some record := by
  unfold decodeCastRecord
  split
  · next found hfound =>
    rw [hfound, CastRecordRead.validOffline.injEq, Option.some.injEq]
  · next hnone =>
    rw [hnone]
    refine iff_of_false (fun h ↦ ?_) (fun h ↦ by cases h)
    split at h <;> cases h

theorem decodeCastRecord_eq_validOnline_iff {bytes : Bytes} {record : OnlineReleaseRecordV3} :
    decodeCastRecord bytes = .validOnline record ↔
      OnlineReleaseRecordV3.decode bytes = some record := by
  unfold decodeCastRecord
  split
  · next cast hcast =>
    exact iff_of_false (fun h ↦ by cases h) fun h ↦ not_decode_both hcast h
  · next hnone =>
    split
    · next found hfound =>
      rw [hfound, CastRecordRead.validOnline.injEq, Option.some.injEq]
    · next hnone' =>
      rw [hnone']
      exact iff_of_false (fun h ↦ by cases h) fun h ↦ by cases h

/-- A file that can be read is decoded unless it is too long. -/
theorem readCastRecord_file (bytes : Bytes) :
    readCastRecord true true (.file bytes) =
      if maxCastRecordBytesV1 < bytes.length then .malformed else decodeCastRecord bytes := rfl

private theorem length_encodeField (value : Text) : (encodeField value).length = 4 + value.len := by
  rw [encodeField, List.length_append, length_leBytes, Text.len]

theorem VoterCastRecordV1.length_encode (record : VoterCastRecordV1) :
    record.encode.length = 63 + record.electionManifestHashHex.len +
      record.credentialFingerprintHex.len + record.packageDigestHex.len + record.finalPath.len +
      record.tempPath.len := by
  have hmagic : castRecordMagicV1.length = 38 := by decide
  have hflag : (encodeFlag record.isCast).length = 1 := rfl
  rw [encode]
  simp only [List.length_append, length_leBytes, length_encodeField, hmagic, hflag]
  omega

theorem OnlineReleaseRecordV3.length_encode (record : OnlineReleaseRecordV3) :
    record.encode.length = 74 + record.electionManifestHashHex.len +
      record.credentialFingerprintHex.len + record.packageDigestHex.len +
      record.stagedEnvelopePath.len + record.stagedEnvelopeDigestHex.len +
      record.descriptorFingerprintHex.len + record.receiptEvidencePath.len := by
  have hmagic : releaseRecordMagicV3.length = 41 := by decide
  have hflag : (encodeFlag record.isCast).length = 1 := rfl
  rw [encode]
  simp only [List.length_append, length_leBytes, length_encodeField, hmagic, hflag]
  omega

/-- The written record is read back if it is short enough, in its fields and as a whole. -/
theorem VoterCastRecordV1.readCastRecord_encode_iff {record found : VoterCastRecordV1} :
    readCastRecord true true (.file record.encode) = .validOffline found ↔
      record.encode.length ≤ maxCastRecordBytesV1 ∧ found.Fits ∧ record.encode = found.encode := by
  rw [readCastRecord_file]
  split
  · next hlong =>
    exact iff_of_false (fun h ↦ by cases h) fun h ↦ absurd h.1 (Nat.not_le_of_lt hlong)
  · next hshort =>
    rw [decodeCastRecord_eq_validOffline_iff, decode_eq_some_iff]
    exact (and_iff_right (Nat.le_of_not_lt hshort)).symm

/-- The written record is read back if it is short enough, in its fields and as a whole. -/
theorem OnlineReleaseRecordV3.readCastRecord_encode_iff {record found : OnlineReleaseRecordV3} :
    readCastRecord true true (.file record.encode) = .validOnline found ↔
      record.encode.length ≤ maxCastRecordBytesV1 ∧ found.Fits ∧ record.encode = found.encode := by
  rw [readCastRecord_file]
  split
  · next hlong =>
    exact iff_of_false (fun h ↦ by cases h) fun h ↦ absurd h.1 (Nat.not_le_of_lt hlong)
  · next hshort =>
    rw [decodeCastRecord_eq_validOnline_iff, decode_eq_some_iff]
    exact (and_iff_right (Nat.le_of_not_lt hshort)).symm

/-- What `write_cast_record_pending_v1` can be given so that the record is read back: paths that are
text, fields that the reader takes, a file that it takes. -/
structure CastRecordReadable (manifestHashHex credentialFingerprintHex packageDigestHex : Text)
    (finalPath tempPath : Bytes) : Prop where
  finalPath_text : (Utf8.decode finalPath).isSome
  tempPath_text : (Utf8.decode tempPath).isSome
  manifestHashHex_len : manifestHashHex.len ≤ maxCastRecordFieldBytes
  credentialFingerprintHex_len : credentialFingerprintHex.len ≤ maxCastRecordFieldBytes
  packageDigestHex_len : packageDigestHex.len ≤ maxCastRecordFieldBytes
  finalPath_length : finalPath.length ≤ maxCastRecordFieldBytes
  tempPath_length : tempPath.length ≤ maxCastRecordFieldBytes
  file_length : 63 + manifestHashHex.len + credentialFingerprintHex.len + packageDigestHex.len +
    finalPath.length + tempPath.length ≤ maxCastRecordBytesV1

/-- What `write_cast_record_pending_private_transport_v1` can be given so that the record is read
back. -/
structure ReleaseRecordReadable (manifestHashHex credentialFingerprintHex packageDigestHex : Text)
    (stagedEnvelopePath : Bytes) (stagedEnvelopeDigestHex descriptorFingerprintHex : Text)
    (receiptEvidencePath : Bytes) : Prop where
  stagedEnvelopePath_text : (Utf8.decode stagedEnvelopePath).isSome
  receiptEvidencePath_text : (Utf8.decode receiptEvidencePath).isSome
  manifestHashHex_len : manifestHashHex.len ≤ maxCastRecordFieldBytes
  credentialFingerprintHex_len : credentialFingerprintHex.len ≤ maxCastRecordFieldBytes
  packageDigestHex_len : packageDigestHex.len ≤ maxCastRecordFieldBytes
  stagedEnvelopePath_length : stagedEnvelopePath.length ≤ maxCastRecordFieldBytes
  stagedEnvelopeDigestHex_len : stagedEnvelopeDigestHex.len ≤ maxCastRecordFieldBytes
  descriptorFingerprintHex_len : descriptorFingerprintHex.len ≤ maxCastRecordFieldBytes
  receiptEvidencePath_length : receiptEvidencePath.length ≤ maxCastRecordFieldBytes
  file_length : 74 + manifestHashHex.len + credentialFingerprintHex.len + packageDigestHex.len +
    stagedEnvelopePath.length + stagedEnvelopeDigestHex.len + descriptorFingerprintHex.len +
    receiptEvidencePath.length ≤ maxCastRecordBytesV1

/-- The record that was read has what the writer was given. -/
structure VoterCastRecordV1.Holds (record : VoterCastRecordV1)
    (manifestHashHex credentialFingerprintHex packageDigestHex : Text)
    (finalPath tempPath : Bytes) : Prop where
  electionManifestHashHex : record.electionManifestHashHex = manifestHashHex
  credentialFingerprintHex : record.credentialFingerprintHex = credentialFingerprintHex
  packageDigestHex : record.packageDigestHex = packageDigestHex
  finalPath : record.finalPath.toBytes = finalPath
  tempPath : record.tempPath.toBytes = tempPath
  isCast : record.isCast = false

/-- The record that was read has what the writer was given. -/
structure OnlineReleaseRecordV3.Holds (record : OnlineReleaseRecordV3)
    (manifestHashHex credentialFingerprintHex packageDigestHex : Text)
    (stagedEnvelopePath : Bytes) (stagedEnvelopeDigestHex descriptorFingerprintHex : Text)
    (receiptEvidencePath : Bytes) : Prop where
  electionManifestHashHex : record.electionManifestHashHex = manifestHashHex
  credentialFingerprintHex : record.credentialFingerprintHex = credentialFingerprintHex
  packageDigestHex : record.packageDigestHex = packageDigestHex
  stagedEnvelopePath : record.stagedEnvelopePath.toBytes = stagedEnvelopePath
  stagedEnvelopeDigestHex : record.stagedEnvelopeDigestHex = stagedEnvelopeDigestHex
  descriptorFingerprintHex : record.descriptorFingerprintHex = descriptorFingerprintHex
  receiptEvidencePath : record.receiptEvidencePath.toBytes = receiptEvidencePath
  isCast : record.isCast = false

private theorem length_lossy {path : Bytes} (h : (Utf8.decode path).isSome) :
    (Text.ofBytesLossy path).len = path.length := by
  rw [Text.len, Text.toBytes_ofBytesLossy_iff.mpr h]

/-- What is read of an offline record that was written has the inputs exactly if they were
readable. -/
theorem exists_holds_cast_iff {manifestHashHex credentialFingerprintHex packageDigestHex : Text}
    {finalPath tempPath : Bytes} :
    (∃ found, readCastRecord true true (.file (pendingCastRecord manifestHashHex
        credentialFingerprintHex packageDigestHex finalPath tempPath).encode) =
          .validOffline found ∧
      found.Holds manifestHashHex credentialFingerprintHex packageDigestHex finalPath tempPath) ↔
    CastRecordReadable manifestHashHex credentialFingerprintHex packageDigestHex finalPath
      tempPath := by
  simp only [VoterCastRecordV1.readCastRecord_encode_iff, VoterCastRecordV1.length_encode]
  constructor
  · rintro ⟨found, ⟨hlen, hfits, -⟩, hholds⟩
    have hfinal : (Utf8.decode finalPath).isSome := hholds.finalPath ▸ found.finalPath.valid
    have htemp : (Utf8.decode tempPath).isSome := hholds.tempPath ▸ found.tempPath.valid
    refine ⟨hfinal, htemp, hholds.electionManifestHashHex ▸ hfits.electionManifestHashHex,
      hholds.credentialFingerprintHex ▸ hfits.credentialFingerprintHex,
      hholds.packageDigestHex ▸ hfits.packageDigestHex, ?_, ?_, ?_⟩
    · rw [← hholds.finalPath]
      exact hfits.finalPath
    · rw [← hholds.tempPath]
      exact hfits.tempPath
    · simpa only [pendingCastRecord, length_lossy hfinal, length_lossy htemp] using hlen
  · rintro ⟨hfinal, htemp, hmanifest, hfingerprint, hdigest, hfinalLen, htempLen, hlen⟩
    refine ⟨_, ⟨?_, ⟨hmanifest, hfingerprint, hdigest, ?_, ?_⟩, rfl⟩, rfl, rfl, rfl,
      Text.toBytes_ofBytesLossy_iff.mpr hfinal, Text.toBytes_ofBytesLossy_iff.mpr htemp, rfl⟩
    · simpa only [pendingCastRecord, length_lossy hfinal, length_lossy htemp] using hlen
    · exact (length_lossy hfinal).trans_le hfinalLen
    · exact (length_lossy htemp).trans_le htempLen

/-- What is read of an online record that was written has the inputs exactly if they were
readable. -/
theorem exists_holds_release_iff
    {manifestHashHex credentialFingerprintHex packageDigestHex : Text} {stagedEnvelopePath : Bytes}
    {stagedEnvelopeDigestHex descriptorFingerprintHex : Text} {receiptEvidencePath : Bytes} :
    (∃ found, readCastRecord true true (.file (pendingReleaseRecord manifestHashHex
        credentialFingerprintHex packageDigestHex stagedEnvelopePath stagedEnvelopeDigestHex
        descriptorFingerprintHex receiptEvidencePath).encode) = .validOnline found ∧
      found.Holds manifestHashHex credentialFingerprintHex packageDigestHex stagedEnvelopePath
        stagedEnvelopeDigestHex descriptorFingerprintHex receiptEvidencePath) ↔
    ReleaseRecordReadable manifestHashHex credentialFingerprintHex packageDigestHex
      stagedEnvelopePath stagedEnvelopeDigestHex descriptorFingerprintHex receiptEvidencePath := by
  simp only [OnlineReleaseRecordV3.readCastRecord_encode_iff, OnlineReleaseRecordV3.length_encode]
  constructor
  · rintro ⟨found, ⟨hlen, hfits, -⟩, hholds⟩
    have hstaged : (Utf8.decode stagedEnvelopePath).isSome :=
      hholds.stagedEnvelopePath ▸ found.stagedEnvelopePath.valid
    have hreceipt : (Utf8.decode receiptEvidencePath).isSome :=
      hholds.receiptEvidencePath ▸ found.receiptEvidencePath.valid
    refine ⟨hstaged, hreceipt, hholds.electionManifestHashHex ▸ hfits.electionManifestHashHex,
      hholds.credentialFingerprintHex ▸ hfits.credentialFingerprintHex,
      hholds.packageDigestHex ▸ hfits.packageDigestHex, ?_,
      hholds.stagedEnvelopeDigestHex ▸ hfits.stagedEnvelopeDigestHex,
      hholds.descriptorFingerprintHex ▸ hfits.descriptorFingerprintHex, ?_, ?_⟩
    · rw [← hholds.stagedEnvelopePath]
      exact hfits.stagedEnvelopePath
    · rw [← hholds.receiptEvidencePath]
      exact hfits.receiptEvidencePath
    · simpa only [pendingReleaseRecord, length_lossy hstaged, length_lossy hreceipt] using hlen
  · rintro ⟨hstaged, hreceipt, hmanifest, hfingerprint, hdigest, hstagedLen, henvelope, hdescriptor,
      hreceiptLen, hlen⟩
    refine ⟨_, ⟨?_, ⟨hmanifest, hfingerprint, hdigest, ?_, henvelope, hdescriptor, ?_⟩, rfl⟩, rfl,
      rfl, rfl, Text.toBytes_ofBytesLossy_iff.mpr hstaged, rfl, rfl,
      Text.toBytes_ofBytesLossy_iff.mpr hreceipt, rfl⟩
    · simpa only [pendingReleaseRecord, length_lossy hstaged, length_lossy hreceipt] using hlen
    · exact (length_lossy hstaged).trans_le hstagedLen
    · exact (length_lossy hreceipt).trans_le hreceiptLen

/-- Whatever is in the directory and however the steps of a write end, a write that returns leaves a
record that is read with every field as it was given exactly if the inputs are readable. A decoder
undoes its encoder on the records whose fields are short enough, and on no others; no bytes are of
both kinds, and those that are accepted are the encoding of what they say. -/
theorem castRecords_readBack_iff (bytes : Bytes) :
    (∀ (manifestHashHex credentialFingerprintHex packageDigestHex : Text)
      (finalPath tempPath : Bytes) (inputs rest : List CastOutcome) (files after : CastFiles),
      (writeCastRecordPendingV1 manifestHashHex credentialFingerprintHex packageDigestHex finalPath
        tempPath).run.resume castExec inputs files = (some (.ok (), rest), after) →
      ((∃ found, readCastRecord true true after.record = .validOffline found ∧
        found.Holds manifestHashHex credentialFingerprintHex packageDigestHex finalPath tempPath) ↔
      CastRecordReadable manifestHashHex credentialFingerprintHex packageDigestHex finalPath
        tempPath)) ∧
    (∀ (manifestHashHex credentialFingerprintHex packageDigestHex : Text)
      (stagedEnvelopePath : Bytes) (stagedEnvelopeDigestHex descriptorFingerprintHex : Text)
      (receiptEvidencePath : Bytes) (inputs rest : List CastOutcome) (files after : CastFiles),
      (writeCastRecordPendingPrivateTransportV1 manifestHashHex credentialFingerprintHex
        packageDigestHex stagedEnvelopePath stagedEnvelopeDigestHex descriptorFingerprintHex
        receiptEvidencePath).run.resume castExec inputs files = (some (.ok (), rest), after) →
      ((∃ found, readCastRecord true true after.record = .validOnline found ∧
        found.Holds manifestHashHex credentialFingerprintHex packageDigestHex stagedEnvelopePath
          stagedEnvelopeDigestHex descriptorFingerprintHex receiptEvidencePath) ↔
      ReleaseRecordReadable manifestHashHex credentialFingerprintHex packageDigestHex
        stagedEnvelopePath stagedEnvelopeDigestHex descriptorFingerprintHex receiptEvidencePath)) ∧
    (∀ record : VoterCastRecordV1,
      VoterCastRecordV1.decode record.encode = some record ↔ record.Fits) ∧
    (∀ record : OnlineReleaseRecordV3,
      OnlineReleaseRecordV3.decode record.encode = some record ↔ record.Fits) ∧
    (VoterCastRecordV1.decode bytes = none ∨ OnlineReleaseRecordV3.decode bytes = none) ∧
    (∀ record : VoterCastRecordV1,
      VoterCastRecordV1.decode bytes = some record → record.encode = bytes) ∧
    (∀ record : OnlineReleaseRecordV3,
      OnlineReleaseRecordV3.decode bytes = some record → record.encode = bytes) := by
  refine ⟨?_, ?_, fun record ↦ ?_, fun record ↦ ?_, ?_, fun record h ↦ ?_, fun record h ↦ ?_⟩
  · intro manifestHashHex credentialFingerprintHex packageDigestHex finalPath tempPath inputs rest
      files after h
    rw [record_of_write h]
    exact exists_holds_cast_iff
  · intro manifestHashHex credentialFingerprintHex packageDigestHex stagedEnvelopePath
      stagedEnvelopeDigestHex descriptorFingerprintHex receiptEvidencePath inputs rest files after h
    rw [record_of_write h]
    exact exists_holds_release_iff
  · rw [VoterCastRecordV1.decode_eq_some_iff]
    exact and_iff_left rfl
  · rw [OnlineReleaseRecordV3.decode_eq_some_iff]
    exact and_iff_left rfl
  · cases hcast : VoterCastRecordV1.decode bytes with
    | none => exact Or.inl rfl
    | some cast =>
      cases hrelease : OnlineReleaseRecordV3.decode bytes with
      | none => exact Or.inr rfl
      | some release => exact (not_decode_both hcast hrelease).elim
  · exact (VoterCastRecordV1.decode_eq_some_iff.mp h).2.symm
  · exact (OnlineReleaseRecordV3.decode_eq_some_iff.mp h).2.symm

/-- Nothing in the directory, and every step works. -/
private theorem write_works (bytes : Bytes) :
    (writeRecordBytesAtomic bytes).run.resume castExec (List.replicate 7 .works)
      ⟨.absent, .absent⟩ = (some (.ok (), []), ⟨.file bytes, .absent⟩) := rfl

/-- Records of both kinds with paths that are text are read as they were given. -/
theorem castRecords_readBack_iff_sample :
    (∃ after found, (writeCastRecordPendingV1 (.lit "aa") (.lit "bb") (.lit "cc") [0x2f, 0x61]
        [0x2f, 0x62]).run.resume castExec (List.replicate 7 .works) ⟨.absent, .absent⟩ =
          (some (.ok (), []), after) ∧
      readCastRecord true true after.record = .validOffline found ∧
      found.Holds (.lit "aa") (.lit "bb") (.lit "cc") [0x2f, 0x61] [0x2f, 0x62]) ∧
    ∃ after found, (writeCastRecordPendingPrivateTransportV1 (.lit "aa") (.lit "bb") (.lit "cc")
        [0x2f, 0x61] (.lit "dd") (.lit "ee") [0x2f, 0x62]).run.resume castExec
          (List.replicate 7 .works) ⟨.absent, .absent⟩ = (some (.ok (), []), after) ∧
      readCastRecord true true after.record = .validOnline found ∧
      found.Holds (.lit "aa") (.lit "bb") (.lit "cc") [0x2f, 0x61] (.lit "dd") (.lit "ee")
        [0x2f, 0x62] := by
  obtain ⟨hcast, hrelease, -⟩ := castRecords_readBack_iff []
  constructor
  · have hreadable : CastRecordReadable (.lit "aa") (.lit "bb") (.lit "cc") [0x2f, 0x61]
        [0x2f, 0x62] := by
      constructor <;> decide
    obtain ⟨found, hread, hholds⟩ := (hcast _ _ _ _ _ _ _ _ _ (write_works _)).mpr hreadable
    exact ⟨_, found, write_works _, hread, hholds⟩
  · have hreadable : ReleaseRecordReadable (.lit "aa") (.lit "bb") (.lit "cc") [0x2f, 0x61]
        (.lit "dd") (.lit "ee") [0x2f, 0x62] := by
      constructor <;> decide
    obtain ⟨found, hread, hholds⟩ := (hrelease _ _ _ _ _ _ _ _ _ _ _ (write_works _)).mpr hreadable
    exact ⟨_, found, write_works _, hread, hholds⟩

/-- Two writes that return: one of a path so long that nobody can read the record, one of a path
that is not text, which is read as another. -/
theorem castRecords_lost :
    (∃ after, (writeCastRecordPendingV1 (.ofChars []) (.ofChars []) (.ofChars [])
        (List.replicate 16384 0x61) [0x61]).run.resume castExec (List.replicate 7 .works)
          ⟨.absent, .absent⟩ = (some (.ok (), []), after) ∧
      readCastRecord true true after.record = .malformed) ∧
    ∃ after found, (writeCastRecordPendingV1 (.ofChars []) (.ofChars []) (.ofChars []) [0x61, 0xff]
        [0x61]).run.resume castExec (List.replicate 7 .works) ⟨.absent, .absent⟩ =
          (some (.ok (), []), after) ∧
      readCastRecord true true after.record = .validOffline found ∧
      found.finalPath.toBytes = [0x61, 0xef, 0xbf, 0xbd] := by
  constructor
  · refine ⟨_, write_works _, ?_⟩
    have htext : (Utf8.decode (List.replicate 16384 0x61)).isSome := by
      have hall : ∀ n, (Utf8.decode (List.replicate n 0x61)).isSome := by
        intro n
        induction n with
        | zero => rfl
        | succ n ih => exact Utf8.isSome_decode_append (x := [0x61]) (by decide) ih
      exact hall 16384
    rw [readCastRecord_file, if_pos]
    rw [VoterCastRecordV1.length_encode]
    simp only [pendingCastRecord, length_lossy htext, List.length_replicate]
    have hmax : maxCastRecordBytesV1 = 16384 := rfl
    omega
  · refine ⟨_, pendingCastRecord (.ofChars []) (.ofChars []) (.ofChars []) [0x61, 0xff] [0x61],
      write_works _, VoterCastRecordV1.readCastRecord_encode_iff.mpr ⟨?_, ?_, rfl⟩, by decide⟩
    · rw [VoterCastRecordV1.length_encode]
      decide
    · constructor <;> decide

end PrivateBallot.GuiCore
