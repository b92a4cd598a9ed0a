import PrivateBallot.GuiCore.CastReleaseSteps
import Mathlib.Logic.Relation

/-!
# At most one ballot leaves

Library `GuiCore`. Whatever calls are made for one credential in one election, with whatever
answers of the operating system and of the network, cut off wherever a crash may cut them off: a
ballot leaves only under a record that is on disk, and everything that leaves is the ballot of that
record. Between the calls all other files may change as they like.
-/

namespace PrivateBallot.GuiCore

open PrivateBallot.Base PrivateBallot.Protocol PrivateBallot.Ballot PrivateBallot.Crypto Relation

/-! ### Locks -/

/-- A record that locks a voter, of either kind. -/
inductive CastLock where
  | offline (record : VoterCastRecordV1)
  | online (record : OnlineReleaseRecordV3)

namespace CastLock

def encode : CastLock → Bytes
  | offline record => record.encode
  | online record => record.encode

/-- The record of a ballot that is known to have left. -/
def promoted : CastLock → CastLock
  | offline record => offline { record with isCast := true }
  | online record => online { record with isCast := true }

/-- What a reader that can read it finds. -/
def read : CastLock → CastRecordRead
  | offline record => .validOffline record
  | online record => .validOnline record

/-- What may have left under a record: files with the package of the record, or envelopes with the
digest of the staged one, and never both. -/
def Allows (provider : HashProvider) : CastLock → List CastNode → List Bytes → Prop
  | offline record, exposed, delivered =>
    (∀ node ∈ exposed, ∃ bytes, node = .file bytes ∧
      packageDigestHex provider bytes = record.packageDigestHex) ∧ delivered = []
  | online record, exposed, delivered =>
    exposed = [] ∧ ∀ envelope ∈ delivered,
      stagedReleaseEnvelopeDigestHexV1 provider envelope = record.stagedEnvelopeDigestHex

/-- The file that the recovery from a record touches has a name that no record has. -/
def Beside : CastLock → Prop
  | offline record => record.tempPath.toBytes.getLast? = some 0x74
  | online record => record.receiptEvidencePath.toBytes.getLast? = some 0x74

theorem read_cases (lock : CastLock) (metadata read : Bool) :
    readCastRecord metadata read (.file lock.encode) = .malformed ∨
      readCastRecord metadata read (.file lock.encode) = lock.read := by
  cases lock with
  | offline record => exact record.read_cases metadata read
  | online record => exact record.read_cases metadata read

theorem allows_nil (provider : HashProvider) (lock : CastLock) : lock.Allows provider [] [] := by
  cases lock with
  | offline record => exact ⟨fun _ h ↦ absurd h List.not_mem_nil, rfl⟩
  | online record => exact ⟨rfl, fun _ h ↦ absurd h List.not_mem_nil⟩

theorem allows_promoted {provider : HashProvider} {lock : CastLock} {exposed : List CastNode}
    {delivered : List Bytes} (h : lock.Allows provider exposed delivered) :
    lock.promoted.Allows provider exposed delivered := by
  cases lock with
  | offline record => exact h
  | online record => exact h

theorem beside_promoted {lock : CastLock} (h : lock.Beside) : lock.promoted.Beside := by
  cases lock with
  | offline record => exact h
  | online record => exact h

end CastLock

/-! ### The invariant -/

/-- The record of the same ballot, now known to have left. -/
def Promotes (before after : CastNode) : Prop :=
  ∃ lock : CastLock, before = .file lock.encode ∧ after = .file lock.promoted.encode

/-- What has happened between two worlds: a record that was there is still there, and what has left
has left for good. -/
structure CastWorld.Advances (path : Bytes) (start world : CastWorld) : Prop where
  record : start.disk path = .absent ∨
    ReflTransGen Promotes (start.disk path) (world.disk path)
  exposed : start.exposed <+: world.exposed
  delivered : start.delivered <+: world.delivered

/-- No record is there, and nothing has left. -/
structure CastWorld.Fresh (path : Bytes) (world : CastWorld) : Prop where
  record : world.disk path = .absent
  exposed : world.exposed = []
  delivered : world.delivered = []

/-- A record is there, and what has left is what it allows. -/
structure CastWorld.Locked (provider : HashProvider) (path : Bytes) (lock : CastLock)
    (world : CastWorld) : Prop where
  record : world.disk path = .file lock.encode
  beside : lock.Beside
  allows : lock.Allows provider world.exposed world.delivered

/-- One of the two. -/
def CastWorld.Safe (provider : HashProvider) (path : Bytes) (world : CastWorld) : Prop :=
  world.Fresh path ∨ ∃ lock, world.Locked provider path lock

/-- The world is safe, and nothing of an earlier one has been taken back. -/
def CastWorld.Good (provider : HashProvider) (path : Bytes) (start world : CastWorld) : Prop :=
  world.Safe provider path ∧ start.Advances path world

namespace CastWorld

variable {provider : HashProvider} {path : Bytes} {start world after : CastWorld}
  {lock : CastLock}

theorem Advances.refl (path : Bytes) (world : CastWorld) : world.Advances path world :=
  ⟨.inr .refl, List.prefix_rfl, List.prefix_rfl⟩

/-- Where no record is, none has been. -/
theorem Advances.absent_of_absent (h : start.Advances path world)
    (hrecord : world.disk path = .absent) : start.disk path = .absent := by
  rcases h.record with habsent | hpromoted
  · exact habsent
  · rw [hrecord] at hpromoted
    rcases hpromoted.cases_tail with hsame | ⟨middle, -, lock, -, hfile⟩
    · exact hsame.symm
    · cases hfile

theorem Advances.of_same (h : start.Advances path world) (hsame : world.Same path after) :
    start.Advances path after where
  record := by
    rw [hsame.disk]
    exact h.record
  exposed := by
    rw [hsame.exposed]
    exact h.exposed
  delivered := by
    rw [hsame.delivered]
    exact h.delivered

theorem Fresh.of_same (h : world.Fresh path) (hsame : world.Same path after) :
    after.Fresh path :=
  ⟨hsame.disk.trans h.record, hsame.exposed.trans h.exposed, hsame.delivered.trans h.delivered⟩

theorem Locked.of_same (h : world.Locked provider path lock) (hsame : world.Same path after) :
    after.Locked provider path lock where
  record := hsame.disk.trans h.record
  beside := h.beside
  allows := by
    rw [hsame.exposed, hsame.delivered]
    exact h.allows

theorem Good.of_same (h : start.Good provider path world) (hsame : world.Same path after) :
    start.Good provider path after := by
  refine ⟨?_, h.2.of_same hsame⟩
  rcases h.1 with hfresh | ⟨lock, hlocked⟩
  · exact .inl (hfresh.of_same hsame)
  · exact .inr ⟨lock, hlocked.of_same hsame⟩

/-- A record that is written where none was has allowed nothing yet. -/
theorem Fresh.locked (h : world.Fresh path) (hrecord : after.disk path = .file lock.encode)
    (hexposed : after.exposed = world.exposed) (hdelivered : after.delivered = world.delivered)
    (hbeside : lock.Beside) : after.Locked provider path lock where
  record := hrecord
  beside := hbeside
  allows := by
    rw [hexposed, hdelivered, h.exposed, h.delivered]
    exact lock.allows_nil provider

theorem Advances.of_fresh (h : start.Advances path world) (hfresh : world.Fresh path)
    (hexposed : after.exposed = world.exposed) (hdelivered : after.delivered = world.delivered) :
    start.Advances path after where
  record := .inl (h.absent_of_absent hfresh.record)
  exposed := by
    rw [hexposed]
    exact h.exposed
  delivered := by
    rw [hdelivered]
    exact h.delivered

/-- The record is there still, and more may have left. -/
theorem Advances.extend (h : start.Advances path world) (hdisk : after.disk path = world.disk path)
    (hexposed : world.exposed <+: after.exposed)
    (hdelivered : world.delivered <+: after.delivered) : start.Advances path after where
  record := by
    rw [hdisk]
    exact h.record
  exposed := h.exposed.trans hexposed
  delivered := h.delivered.trans hdelivered

/-- The record has been promoted. -/
theorem Advances.promote (h : start.Advances path world)
    (hrecord : world.disk path = .file lock.encode)
    (hafter : after.disk path = .file lock.promoted.encode)
    (hexposed : after.exposed = world.exposed) (hdelivered : after.delivered = world.delivered) :
    start.Advances path after where
  record := h.record.imp_right fun hpromoted ↦ hpromoted.tail ⟨lock, hrecord, hafter⟩
  exposed := by
    rw [hexposed]
    exact h.exposed
  delivered := by
    rw [hdelivered]
    exact h.delivered

end CastWorld

/-! ### Parts of a call -/

section

variable {crates : ReleaseCrates} {path : Bytes} {start world : CastWorld}

/-- Writing the promoted record keeps the ballot that it is the record of. -/
theorem ends_write_promoted {lock : CastLock} (hpath : path.getLast? = some 0x6b)
    (hlocked : world.Locked crates.provider path lock) (hadvances : start.Advances path world) :
    (recordAt path (writeRecordBytesAtomic lock.promoted.encode)).run.Ends releaseExec
      (fun _ after ↦ start.Good crates.provider path after) world := by
  apply (ends_recordAt (ne_of_getLast? (getLast?_castTemporaryPath path) hpath (by decide))
    lock.promoted.encode world).mono
  rintro result after ⟨hwhole, hbeside⟩
  rcases hwhole with hnew | ⟨hold, -⟩
  · refine ⟨.inr ⟨lock.promoted, hnew, CastLock.beside_promoted hlocked.beside, ?_⟩,
      hadvances.promote hlocked.record hnew hbeside.exposed hbeside.delivered⟩
    rw [hbeside.exposed, hbeside.delivered]
    exact CastLock.allows_promoted hlocked.allows
  · have hsame : world.Same path after := ⟨hold, hbeside.exposed, hbeside.delivered⟩
    exact ⟨.inr ⟨lock, hlocked.of_same hsame⟩, hadvances.of_same hsame⟩

/-- A promotion reads the record and writes it again. -/
theorem ends_promoteCastRecordToCastV1 {lock : CastLock} (hpath : path.getLast? = some 0x6b)
    (hlocked : world.Locked crates.provider path lock) (hadvances : start.Advances path world) :
    (promoteCastRecordToCastV1 path).run.Ends releaseExec
      (fun _ after ↦ start.Good crates.provider path after) world := by
  have hgood : start.Good crates.provider path world := ⟨.inr ⟨lock, hlocked⟩, hadvances⟩
  unfold promoteCastRecordToCastV1
  refine ends_ask hgood fun input ↦
    ⟨readCastRecord input.metadata input.works (world.disk path), world, rfl, ?_⟩
  rw [hlocked.record]
  rcases lock.read_cases input.metadata input.works with hread | hread
  · rw [hread]
    exact ends_throw hgood
  · rw [hread]
    have hwrite := ends_write_promoted hpath hlocked hadvances
    cases lock with
    | offline record => exact hwrite
    | online record => exact hwrite

/-- The verified file leaves under its record. -/
theorem ends_finalize_locked {record : VoterCastRecordV1} {tempPath finalPath bytes : Bytes}
    (hlocked : world.Locked crates.provider path (.offline record))
    (hadvances : start.Advances path world) (htemp : tempPath ≠ path)
    (hnode : world.disk tempPath = .file bytes)
    (hdigest : packageDigestHex crates.provider bytes = record.packageDigestHex) :
    (finalizeVerifiedCastTempWithoutOverwrite tempPath finalPath).run.Ends releaseExec
      (fun _ after ↦ after.Locked crates.provider path (.offline record) ∧
        start.Advances path after) world := by
  have hthere : world.disk path ≠ .absent := by
    rw [hlocked.record]
    simp
  apply (ends_finalizeVerifiedCastTempWithoutOverwrite hthere htemp).mono
  rintro result after ⟨hdisk, hdelivered, ⟨hexposed, -⟩ | ⟨hexposed, -⟩⟩
  · have hsame : world.Same path after := ⟨hdisk, hexposed, hdelivered⟩
    exact ⟨hlocked.of_same hsame, hadvances.of_same hsame⟩
  · obtain ⟨hallowed, hnothing⟩ := hlocked.allows
    refine ⟨⟨hdisk.trans hlocked.record, hlocked.beside, ?_, ?_⟩,
      hadvances.extend hdisk ?_ ?_⟩
    · rw [hexposed]
      intro node hmem
      rcases List.mem_append.mp hmem with hold | hnew
      · exact hallowed node hold
      · rw [List.mem_singleton.mp hnew]
        exact ⟨bytes, hnode, hdigest⟩
    · rw [hdelivered]
      exact hnothing
    · rw [hexposed]
      exact List.prefix_append _ _
    · rw [hdelivered]

/-- An envelope leaves under its record. -/
theorem locked_deliver {record : OnlineReleaseRecordV3} {envelope : Bytes}
    (hlocked : world.Locked crates.provider path (.online record))
    (henvelope : stagedReleaseEnvelopeDigestHexV1 crates.provider envelope =
      record.stagedEnvelopeDigestHex) :
    ({ world with delivered := world.delivered ++ [envelope] } : CastWorld).Locked
      crates.provider path (.online record) := by
  obtain ⟨hnothing, hallowed⟩ := hlocked.allows
  refine ⟨hlocked.record, hlocked.beside, hnothing, fun other hmem ↦ ?_⟩
  rcases List.mem_append.mp hmem with hold | hnew
  · exact hallowed other hold
  · rw [List.mem_singleton.mp hnew]
    exact henvelope

/-- Whether a promotion in place works or not, the record is there. -/
theorem ends_promoteInPlace {lock : CastLock} (hpath : path.getLast? = some 0x6b)
    (hlocked : world.Locked crates.provider path lock) (hadvances : start.Advances path world) :
    (promoteInPlace path lock.promoted.encode).Ends releaseExec
      (fun _ after ↦ start.Good crates.provider path after) world := by
  unfold promoteInPlace
  apply Program.Ends.bind
  apply (ends_write_promoted hpath hlocked hadvances).mono
  intro result after hgood
  cases result with
  | none => exact hgood
  | some outcome => exact Program.Ends.done hgood

end

/-! ### Resolvers -/

section

variable {crates : ReleaseCrates} {path : Bytes} {start world : CastWorld}

/-- The answer of a resolver that found a record: never that nothing was cast. -/
def Resolves (crates : ReleaseCrates) (path : Bytes) (start : CastWorld)
    (answer : Option GuiVoterCastLockStateV1) (world : CastWorld) : Prop :=
  start.Good crates.provider path world ∧ answer ≠ some .notCast

theorem ends_recoverPendingRecord {record : VoterCastRecordV1}
    (hpath : path.getLast? = some 0x6b)
    (hlocked : world.Locked crates.provider path (.offline record))
    (hadvances : start.Advances path world) (artifacts : GuiElectionArtifactsV1) :
    (recoverPendingRecord crates.provider path record artifacts).Ends releaseExec
      (Resolves crates path start) world := by
  have htemp : record.tempPath.toBytes ≠ path := ne_of_getLast? hlocked.beside hpath (by decide)
  have hgood : start.Good crates.provider path world :=
    ⟨.inr ⟨_, hlocked⟩, hadvances⟩
  have hcut : ∀ {after : CastWorld}, start.Good crates.provider path after →
      Resolves crates path start none after := fun h ↦ ⟨h, by simp⟩
  have hpending : ∀ {after : CastWorld}, start.Good crates.provider path after →
      (Program.done .castPending : ReleaseProgram GuiVoterCastLockStateV1).Ends releaseExec
        (Resolves crates path start) after := fun h ↦ Program.Ends.done ⟨h, by simp⟩
  unfold recoverPendingRecord
  dsimp only
  refine ends_step (hcut hgood) fun input ↦ ⟨_, world, rfl, ?_⟩
  generalize (input.metadata && decide (world.disk record.finalPath.toBytes ≠ .absent)) =
    finalExists
  cases finalExists with
  | true =>
    rw [if_pos rfl]
    apply Program.Ends.bind
    apply (ends_packageDigestHexOfFile crates.provider artifacts _ world).mono
    rintro result after ⟨rfl, -⟩
    cases result with
    | none => exact hcut hgood
    | some found =>
      show Program.Ends releaseExec _ (if found = some record.packageDigestHex then _ else _) _
      split
      · apply Program.Ends.bind
        apply (ends_promoteInPlace hpath hlocked hadvances).mono
        intro result after hafter
        cases result with
        | none => exact hcut hafter
        | some written =>
          cases written with
          | false => exact hpending hafter
          | true =>
            refine ends_step (hcut hafter) fun input ↦ ⟨_, _, rfl, ?_⟩
            have hremoved := hafter.of_same (after.same_removeFile htemp input.works)
            exact Program.Ends.done ⟨hremoved, by simp⟩
      · exact hpending hgood
  | false =>
    rw [if_neg Bool.false_ne_true]
    refine ends_step (hcut hgood) fun input ↦ ⟨_, world, rfl, ?_⟩
    generalize (input.metadata && decide (world.disk record.tempPath.toBytes ≠ .absent)) =
      tempExists
    cases tempExists with
    | false =>
      rw [if_neg Bool.false_ne_true]
      exact hpending hgood
    | true =>
      rw [if_pos rfl]
      apply Program.Ends.bind
      apply (ends_packageDigestHexOfFile crates.provider artifacts _ world).mono
      rintro result after ⟨rfl, hfound⟩
      cases result with
      | none => exact hcut hgood
      | some found =>
        show Program.Ends releaseExec _ (if found = some record.packageDigestHex then _ else _) _
        split
        · next hsame =>
          subst hsame
          obtain ⟨bytes, hnode, hdigest⟩ := hfound _ rfl
          apply Program.Ends.bind
          apply (ends_finalize_locked hlocked hadvances htemp hnode hdigest.symm).mono
          rintro result after ⟨hafter, hadvanced⟩
          have hkept : start.Good crates.provider path after := ⟨.inr ⟨_, hafter⟩, hadvanced⟩
          cases result with
          | none => exact hcut hkept
          | some finalized =>
            show Program.Ends releaseExec _ (if finalized.isOk = true then _ else _) _
            split
            · apply Program.Ends.bind
              apply (ends_promoteInPlace hpath hafter hadvanced).mono
              intro result last hlast
              cases result with
              | none => exact hcut hlast
              | some written => exact Program.Ends.done ⟨hlast, by cases written <;> simp⟩
            · exact hpending hkept
        · exact hpending hgood

theorem readCastRecord_of_absent (metadata read : Bool) :
    readCastRecord metadata read .absent = .absent ∨
      readCastRecord metadata read .absent = .malformed := by
  cases metadata with
  | false => exact .inr rfl
  | true => exact .inl rfl

/-- The answer of a resolver that cannot tell is never that nothing was cast. -/
theorem ends_castPending {NothingCast : Prop} (hgood : start.Good crates.provider path world) :
    (Program.done .castPending : ReleaseProgram GuiVoterCastLockStateV1).Ends releaseExec
      (fun answer after ↦ start.Good crates.provider path after ∧
        (answer = some .notCast → NothingCast)) world :=
  Program.Ends.done ⟨hgood, fun h ↦ by cases h⟩

/-- The generic resolver answers that nothing was cast only where no record is. -/
theorem ends_resolveAndRecoverCastLockStateV1 (hpath : path.getLast? = some 0x6b)
    (hgood : start.Good crates.provider path world)
    (manifestHashHex credentialFingerprintHex : Text) (artifacts : GuiElectionArtifactsV1) :
    (resolveAndRecoverCastLockStateV1 crates.provider path manifestHashHex credentialFingerprintHex
      artifacts).Ends releaseExec (fun answer after ↦ start.Good crates.provider path after ∧
        (answer = some .notCast → world.Fresh path)) world := by
  unfold resolveAndRecoverCastLockStateV1
  refine ends_step ⟨hgood, fun h ↦ by cases h⟩ fun input ↦
    ⟨readCastRecord input.metadata input.works (world.disk path), world, rfl, ?_⟩
  rcases hgood.1 with hfresh | ⟨lock, hlocked⟩
  · rw [hfresh.record]
    rcases readCastRecord_of_absent input.metadata input.works with hread | hread
    · rw [hread]
      exact Program.Ends.done ⟨hgood, fun _ ↦ hfresh⟩
    · rw [hread]
      exact Program.Ends.done ⟨hgood, fun _ ↦ hfresh⟩
  · rw [hlocked.record]
    rcases lock.read_cases input.metadata input.works with hread | hread
    · rw [hread]
      exact ends_castPending hgood
    rw [hread]
    cases lock with
    | offline record =>
      show Program.Ends releaseExec _ (if record.electionManifestHashHex ≠ manifestHashHex ∨
        record.credentialFingerprintHex ≠ credentialFingerprintHex then _ else _) _
      split
      · exact ends_castPending hgood
      · split
        · exact Program.Ends.done ⟨hgood, fun h ↦ by cases h⟩
        · apply (ends_recoverPendingRecord hpath hlocked hgood.2 artifacts).mono
          exact fun answer after h ↦ ⟨h.1, fun hanswer ↦ absurd hanswer h.2⟩
    | online record =>
      show Program.Ends releaseExec _ (if record.electionManifestHashHex ≠ manifestHashHex ∨
        record.credentialFingerprintHex ≠ credentialFingerprintHex then _ else _) _
      split
      · exact ends_castPending hgood
      · refine Program.Ends.done ⟨hgood, fun h ↦ ?_⟩
        split at h <;> cases h

/-- So does the resolver that has the descriptor. -/
theorem ends_resolveAndRecoverPrivateTransportCastLockStateV1 (hpath : path.getLast? = some 0x6b)
    (hgood : start.Good crates.provider path world)
    (manifestHashHex credentialFingerprintHex : Text) (descriptor : TransportDescriptorV1) :
    (resolveAndRecoverPrivateTransportCastLockStateV1 crates path manifestHashHex
      credentialFingerprintHex descriptor).Ends releaseExec (fun answer after ↦
        start.Good crates.provider path after ∧ (answer = some .notCast → world.Fresh path))
      world := by
  unfold resolveAndRecoverPrivateTransportCastLockStateV1
  refine ends_step ⟨hgood, fun h ↦ by cases h⟩ fun input ↦
    ⟨readCastRecord input.metadata input.works (world.disk path), world, rfl, ?_⟩
  rcases hgood.1 with hfresh | ⟨lock, hlocked⟩
  · rw [hfresh.record]
    rcases readCastRecord_of_absent input.metadata input.works with hread | hread
    · rw [hread]
      exact Program.Ends.done ⟨hgood, fun _ ↦ hfresh⟩
    · rw [hread]
      exact Program.Ends.done ⟨hgood, fun _ ↦ hfresh⟩
  · rw [hlocked.record]
    rcases lock.read_cases input.metadata input.works with hread | hread
    · rw [hread]
      exact ends_castPending hgood
    rw [hread]
    cases lock with
    | offline record => exact ends_castPending hgood
    | online record =>
      show Program.Ends releaseExec _ (if record.electionManifestHashHex ≠ manifestHashHex ∨
        record.credentialFingerprintHex ≠ credentialFingerprintHex then _ else _) _
      split
      · exact ends_castPending hgood
      · split
        · exact Program.Ends.done ⟨hgood, fun h ↦ by cases h⟩
        · apply Program.Ends.bind
          unfold readReleaseReceiptEvidence
          refine ends_step ⟨hgood, fun h ↦ by cases h⟩ fun input ↦
            ⟨(releaseExec (.readRegular record.receiptEvidencePath.toBytes) input world).1, world,
              rfl, ?_⟩
          generalize (releaseExec (.readRegular record.receiptEvidencePath.toBytes) input
            world).1 = evidence
          apply Program.Ends.done
          dsimp only [Program.GoesOn]
          split
          · apply Program.Ends.bind
            apply (ends_promoteInPlace hpath hlocked hgood.2).mono
            intro result after hafter
            cases result with
            | none => exact ⟨hafter, fun h ↦ by cases h⟩
            | some written =>
              refine Program.Ends.done ⟨hafter, fun h ↦ ?_⟩
              split at h <;> cases h
          · exact ends_castPending hgood

end

/-! ### Calls -/

theorem hexText_toLowerHex (bytes : Bytes) : hexText (toLowerHex bytes) = Hex.text bytes := by
  have hbytes : toLowerHex bytes = (Hex.text bytes).toBytes := rfl
  unfold hexText
  rw [hbytes]
  exact Text.ext (Text.toBytes_ofBytesLossy_iff.mpr (Hex.text bytes).valid)

/-- A credential in an election, and where the record of the two is. -/
structure CastPair where
  castLocksDir : Bytes
  fingerprint : Text
  manifestHashHex : Text

/-- The path of the record. -/
def CastPair.path (pair : CastPair) : Bytes :=
  castRecordPath pair.castLocksDir pair.fingerprint pair.manifestHashHex

theorem CastPair.getLast?_path (pair : CastPair) : pair.path.getLast? = some 0x6b :=
  getLast?_castRecordPath _ _ _

section

variable {crate : TriptychCrate} {Scalar : Type} [Field Scalar] [DecidableEq Scalar]
  [AddCommGroup crate.dalekV4.Point] [Module Scalar crate.dalekV4.Point]
  {prover : TriptychProverCrate crate Scalar}

omit [DecidableEq Scalar] [AddCommGroup crate.dalekV4.Point]
  [Module Scalar crate.dalekV4.Point] in
/-- A check that touches nothing. -/
theorem ends_checking {α β : Type} {self : GuiVoterSessionV1 prover} {result : GuiResult β}
    {k : β → Releasing prover α}
    {Q : Option (Except (GuiCoreError × GuiVoterSessionV1 prover) α) → CastWorld → Prop}
    {world : CastWorld} (herror : ∀ e, result = .error e → Q (some (.error (e, self))) world)
    (hok : ∀ b, result = .ok b → (k b).run.Ends releaseExec Q world) :
    (checking self result >>= k).run.Ends releaseExec Q world := by
  apply Program.Ends.bindExcept
  cases hresult : result with
  | error e => exact Program.Ends.done (herror e hresult)
  | ok b => exact Program.Ends.done (hok b hresult)

/-- A part that keeps what is to hold at the end, wherever it stops. -/
theorem ends_keep {α β ε ε' : Type} {f : ε' → ε} {task : ExceptT ε' ReleaseProgram β}
    {k : β → ExceptT ε ReleaseProgram α} {R : Option (Except ε' β) → CastWorld → Prop}
    {G : CastWorld → Prop} {world : CastWorld} (htask : task.run.Ends releaseExec R world)
    (hkeep : ∀ result after, R result after → G after)
    (hgoOn : ∀ b after, R (some (.ok b)) after →
      (k b).run.Ends releaseExec (fun _ after ↦ G after) after) :
    (ExceptT.adapt f task >>= k).run.Ends releaseExec (fun _ after ↦ G after) world := by
  apply ends_adapt
  apply htask.mono
  intro result after hresult
  rcases result with _ | (e | b)
  · exact hkeep none after hresult
  · exact hkeep (some (.error e)) after hresult
  · exact hgoOn b after hresult

namespace GuiVoterSessionV1

/-- A session that a voter can have: made for an election, and any calls behind that. -/
def IsReached (provider : HashProvider) (session : GuiVoterSessionV1 prover) : Prop :=
  ∃ artifacts₀ calls, session = (new prover artifacts₀).run provider calls

/-- The session is for this election and, where it has a credential, for this one. -/
structure IsOf (provider : HashProvider) (session : GuiVoterSessionV1 prover) (pair : CastPair) :
    Prop where
  fingerprint : ∀ fingerprint, session.credentialFingerprint provider = .ok fingerprint →
    fingerprint = pair.fingerprint
  manifestHashHex : hexText session.electionBinding.manifestHashHex = pair.manifestHashHex

theorem IsReached.consistent {provider : HashProvider} {session : GuiVoterSessionV1 prover}
    (h : session.IsReached provider) : session.Consistent provider := by
  obtain ⟨artifacts₀, calls, rfl⟩ := h
  exact (consistent_new provider prover artifacts₀).run calls

/-- What is about to be released has the digest that the record will have. -/
theorem Consistent.of_readyToRelease {provider : HashProvider} {self : GuiVoterSessionV1 prover}
    (hself : self.Consistent provider) {artifacts : GuiElectionArtifactsV1}
    {lifecycleState : ElectionLifecycleStateV1} {notOpen notPrepared : GuiCoreError}
    {canonicalBytes : Bytes} {digest fingerprint manifestHashHex : Text}
    (h : self.readyToRelease provider artifacts lifecycleState notOpen notPrepared =
      .ok (canonicalBytes, digest, fingerprint, manifestHashHex)) :
    digest = packageDigestHex provider canonicalBytes ∧
      self.credentialFingerprint provider = .ok fingerprint ∧
      manifestHashHex = hexText self.electionBinding.manifestHashHex := by
  simp only [readyToRelease, bind_eq_ok] at h
  obtain ⟨-, -, -, -, h⟩ := h
  split at h
  · obtain ⟨_, hrefused, -⟩ := bind_eq_ok.mp h
    cases hrefused
  cases hprepared : self.preparedBallot with
  | ready bytes summary =>
    rw [hprepared] at h
    obtain ⟨found, hfound, hpure⟩ := bind_eq_ok.mp h
    cases hpure
    obtain ⟨artifacts, secretKey, payload, hfrom⟩ := hself.ready _ _ hprepared
    obtain ⟨randomness, hash, hproved, hsummary⟩ := hfrom.proved
    refine ⟨?_, hfound, rfl⟩
    rw [hsummary]
    show hexText (toLowerHex hash.toBytes) = _
    rw [hexText_toLowerHex, (isBallotOf_of_proveAndVerify hproved).2]
    rfl
  | none =>
    rw [hprepared] at h
    cases h
  | preparing operationId =>
    rw [hprepared] at h
    cases h
  | invalidated reason =>
    rw [hprepared] at h
    cases h
  | cast packageDigestHex =>
    rw [hprepared] at h
    cases h

omit [DecidableEq Scalar] [AddCommGroup crate.dalekV4.Point]
  [Module Scalar crate.dalekV4.Point] in
theorem path_eq {provider : HashProvider} {self : GuiVoterSessionV1 prover} {pair : CastPair}
    (hpair : self.IsOf provider pair) {fingerprint : Text}
    (hfingerprint : self.credentialFingerprint provider = .ok fingerprint) :
    castRecordPath pair.castLocksDir fingerprint
      (hexText self.electionBinding.manifestHashHex) = pair.path := by
  rw [hpair.fingerprint fingerprint hfingerprint, hpair.manifestHashHex]
  rfl

end GuiVoterSessionV1

open GuiVoterSessionV1

variable {crates : ReleaseCrates} {start world : CastWorld}

/-- Where no record is, the world is fresh. -/
theorem CastWorld.Good.fresh {provider : HashProvider} {path : Bytes}
    (h : start.Good provider path world) (habsent : world.disk path = .absent) :
    world.Fresh path := by
  rcases h.1 with hfresh | ⟨lock, hlocked⟩
  · exact hfresh
  · have hrecord := hlocked.record
    rw [habsent] at hrecord
    cases hrecord

variable (crates) in
/-- A pending record is written where none was, or none is there still. -/
theorem ends_recordAt_pending {path : Bytes} (hpath : path.getLast? = some 0x6b)
    (hadvances : start.Advances path world) (hfresh : world.Fresh path) {lock : CastLock}
    (hbeside : lock.Beside) :
    (recordAt path (writeRecordBytesAtomic lock.encode)).run.Ends releaseExec (fun result after ↦
      start.Good crates.provider path after ∧ world.SameBeside path after ∧
        (result = some (.ok ()) → after.Locked crates.provider path lock ∧
          start.Advances path after)) world := by
  apply (ends_recordAt (ne_of_getLast? (getLast?_castTemporaryPath path) hpath (by decide))
    lock.encode world).mono
  rintro result after ⟨hwhole, hsame⟩
  have hadvanced := hadvances.of_fresh hfresh hsame.exposed hsame.delivered
  rcases hwhole with hnew | ⟨hold, hfailed⟩
  · have hlocked : after.Locked crates.provider path lock :=
      hfresh.locked hnew hsame.exposed hsame.delivered hbeside
    exact ⟨⟨.inr ⟨lock, hlocked⟩, hadvanced⟩, hsame, fun _ ↦ ⟨hlocked, hadvanced⟩⟩
  · have hstill : world.Same path after := ⟨hold, hsame.exposed, hsame.delivered⟩
    exact ⟨⟨.inl (hfresh.of_same hstill), hadvanced⟩, hsame, fun h ↦ absurd h hfailed⟩

theorem ends_exportAndCastPreparedBallot {self : GuiVoterSessionV1 prover} {pair : CastPair}
    (hself : self.Consistent crates.provider) (hpair : self.IsOf crates.provider pair)
    (hgood : start.Good crates.provider pair.path world) (artifacts : GuiElectionArtifactsV1)
    (lifecycleState : ElectionLifecycleStateV1) (finalPath : Bytes) :
    (self.exportAndCastPreparedBallot crates.provider artifacts lifecycleState finalPath
      pair.castLocksDir).run.Ends releaseExec
        (fun _ after ↦ start.Good crates.provider pair.path after) world := by
  have hpath := pair.getLast?_path
  have htemp : castTempPath finalPath ≠ pair.path :=
    ne_of_getLast? (getLast?_castTempPath finalPath) hpath (by decide)
  unfold exportAndCastPreparedBallot
  apply ends_checking (fun _ _ ↦ hgood)
  rintro ⟨canonicalBytes, digest, fingerprint, manifestHashHex⟩ hready
  obtain ⟨rfl, hfingerprint, rfl⟩ := hself.of_readyToRelease hready
  dsimp only
  rw [path_eq hpair hfingerprint]
  refine ends_keep (ends_castRecordExistsV1 pair.path world) ?_ ?_
  · rintro result after ⟨rfl, -⟩
    exact hgood
  rintro recorded after ⟨rfl, habsent⟩
  cases recorded with
  | true => exact ends_throw hgood
  | false =>
  have hfresh := hgood.fresh (habsent rfl)
  refine ends_ask hgood fun input ↦ ⟨_, after, rfl, ?_⟩
  generalize (input.metadata && decide (after.disk finalPath ≠ .absent)) = occupied
  cases occupied with
  | true => exact ends_throw hgood
  | false =>
  refine ends_ask hgood fun input ↦ ⟨input.probe, after, rfl, ?_⟩
  apply ends_checking (fun _ _ ↦ hgood)
  intro _ _
  refine ends_ask hgood fun input ↦ ⟨_, (after.removeFile (castTempPath finalPath) input.works).2,
    rfl, ?_⟩
  have hremoved := after.same_removeFile htemp input.works
  generalize (after.removeFile (castTempPath finalPath) input.works).2 = emptied at hremoved ⊢
  refine ends_keep (ends_writeAndVerifyBallotPackageToPath htemp emptied) ?_ ?_
  · rintro result written ⟨hwritten, -⟩
    exact hgood.of_same (hremoved.trans hwritten)
  rintro length written ⟨hwritten, hnode⟩
  have hsame := hremoved.trans hwritten
  have hkept := hgood.of_same hsame
  have hbeside : (CastLock.offline (pendingCastRecord (hexText
      self.electionBinding.manifestHashHex) fingerprint
        (packageDigestHex crates.provider canonicalBytes) finalPath
          (castTempPath finalPath))).Beside :=
    getLast?_lossy (getLast?_castTempPath finalPath) (by decide)
  have hwrites := ends_recordAt_pending crates hpath hkept.2 (hfresh.of_same hsame) hbeside
  refine ends_keep hwrites ?_ ?_
  · rintro result recordedWorld ⟨hpending, -, -⟩
    exact hpending
  rintro ⟨⟩ recordedWorld ⟨-, hsameBeside, hlocked⟩
  obtain ⟨hlocked, hadvanced⟩ := hlocked rfl
  have htempNode : recordedWorld.disk (castTempPath finalPath) = .file canonicalBytes :=
    (hsameBeside.disk _ htemp (ne_of_getLast? (getLast?_castTempPath finalPath)
      (getLast?_castTemporaryPath _) (by decide))).trans (hnode length rfl)
  refine ends_keep (ends_finalize_locked hlocked hadvanced htemp htempNode rfl) ?_ ?_
  · rintro result exposed ⟨hexposed, hexposedAdvances⟩
    exact ⟨.inr ⟨_, hexposed⟩, hexposedAdvances⟩
  rintro ⟨⟩ exposed ⟨hexposed, hexposedAdvances⟩
  refine ends_keep (ends_promoteCastRecordToCastV1 hpath hexposed hexposedAdvances) ?_ ?_
  · exact fun _ _ hlast ↦ hlast
  · exact fun _ _ hlast ↦ ends_pure hlast

omit [DecidableEq Scalar] [AddCommGroup crate.dalekV4.Point]
  [Module Scalar crate.dalekV4.Point] in
/-- What is read back of the staged envelope is what may leave. -/
theorem ends_verifyStagedThenDeliverRelease {self : GuiVoterSessionV1 prover} {path : Bytes}
    (hpath : path.getLast? = some 0x6b) {record : OnlineReleaseRecordV3}
    (hlocked : world.Locked crates.provider path (.online record))
    (hadvances : start.Advances path world) (descriptor : TransportDescriptorV1)
    (packageDigestHex : Text) (stagedEnvelopePath : Bytes) (descriptorFingerprintHex : Text)
    {receiptEvidencePath : Bytes} (hreceipt : receiptEvidencePath.getLast? = some 0x74) :
    (self.verifyStagedThenDeliverRelease crates descriptor path packageDigestHex
      stagedEnvelopePath record.stagedEnvelopeDigestHex descriptorFingerprintHex
      receiptEvidencePath).run.Ends releaseExec
        (fun _ after ↦ start.Good crates.provider path after) world := by
  have hgood : start.Good crates.provider path world := ⟨.inr ⟨_, hlocked⟩, hadvances⟩
  unfold verifyStagedThenDeliverRelease
  refine ends_keep (ends_readAndVerifyStagedReleaseEnvelopeV1 crates stagedEnvelopePath
    record.stagedEnvelopeDigestHex descriptor world) ?_ ?_
  · rintro result after ⟨rfl, -⟩
    exact hgood
  rintro envelope after ⟨rfl, hdigest⟩
  have henvelope := hdigest envelope rfl
  show ((self.deliverAndFinalizeRelease crates descriptor path packageDigestHex
    descriptorFingerprintHex receiptEvidencePath envelope).run).Ends releaseExec _ after
  unfold deliverAndFinalizeRelease
  dsimp only
  have hsent := locked_deliver hlocked henvelope
  have hsentAdvances : start.Advances path
      { after with delivered := after.delivered ++ [envelope] } :=
    hadvances.extend rfl List.prefix_rfl (List.prefix_append _ _)
  have hleft : start.Good crates.provider path
      { after with delivered := after.delivered ++ [envelope] } := ⟨.inr ⟨_, hsent⟩, hsentAdvances⟩
  refine ends_ask hgood ?_
  rintro ⟨metadata, works, receiptBytes, probe⟩
  cases works with
  | false =>
    exact ⟨none, { after with delivered := after.delivered ++ [envelope] }, rfl, ends_pure hleft⟩
  | true =>
  refine ⟨some receiptBytes, { after with delivered := after.delivered ++ [envelope] }, rfl, ?_⟩
  generalize ({ after with delivered := after.delivered ++ [envelope] } : CastWorld) = sent
    at hsent hsentAdvances hleft ⊢
  -- The checks of the receipt, in the order of the source.
  dsimp only
  split
  · exact ends_pure hleft
  split
  · exact ends_pure hleft
  split
  · exact ends_pure hleft
  split
  · exact ends_pure hleft
  split
  · exact ends_pure hleft
  apply ends_lift
  apply (ends_persistReleaseReceiptEvidenceV1 hreceipt hpath receiptBytes sent).mono
  intro result kept hsame
  have hkept := hleft.of_same hsame
  rcases result with _ | (e | ⟨⟩)
  · exact hkept
  · exact ends_pure hkept
  apply ends_lift
  apply (ends_promoteCastRecordToCastV1 hpath (hsent.of_same hsame)
    (hsentAdvances.of_same hsame)).mono
  intro result last hlast
  rcases result with _ | (e | ⟨⟩)
  · exact hlast
  · exact ends_pure hlast
  · exact ends_pure hlast

theorem ends_releasePreparedBallotViaPrivateTransport {self : GuiVoterSessionV1 prover}
    {pair : CastPair} (hself : self.Consistent crates.provider)
    (hpair : self.IsOf crates.provider pair)
    (hgood : start.Good crates.provider pair.path world) (artifacts : GuiElectionArtifactsV1)
    (lifecycleState : ElectionLifecycleStateV1) (descriptor : TransportDescriptorV1)
    (roots : TransportAuthorityRootSetV1) (consistency : DescriptorConsistencyStoreV1)
    (ephemeral stagingDir : Bytes) :
    (self.releasePreparedBallotViaPrivateTransport crates artifacts lifecycleState descriptor roots
      consistency ephemeral pair.castLocksDir stagingDir).run.Ends releaseExec
        (fun _ after ↦ start.Good crates.provider pair.path after) world := by
  have hpath := pair.getLast?_path
  unfold releasePreparedBallotViaPrivateTransport
  apply ends_checking (fun _ _ ↦ hgood)
  rintro ⟨canonicalBytes, digest, fingerprint, manifestHashHex⟩ hready
  obtain ⟨rfl, hfingerprint, rfl⟩ := hself.of_readyToRelease hready
  dsimp only
  rw [path_eq hpair hfingerprint]
  refine ends_keep (ends_castRecordExistsV1 pair.path world) ?_ ?_
  · rintro result after ⟨rfl, -⟩
    exact hgood
  rintro recorded after ⟨rfl, habsent⟩
  cases recorded with
  | true => exact ends_throw hgood
  | false =>
  have hfresh := hgood.fresh (habsent rfl)
  apply ends_checking (fun _ _ ↦ hgood)
  intro descriptorFingerprintHex _
  apply ends_checking (fun _ _ ↦ hgood)
  intro sealed _
  refine ends_keep (ends_stageReleaseEnvelopeV1 (getLast?_stagedReleaseEnvelopePathV1 _ _ _) hpath
    _ after) ?_ ?_
  · exact fun _ _ hsame ↦ hgood.of_same hsame
  intro _ staged hsame
  have hkept := hgood.of_same hsame
  have hreceipt := getLast?_releaseReceiptEvidencePathV1 stagingDir
    (hexText self.electionBinding.manifestHashHex) fingerprint
  have hbeside : (CastLock.online (pendingReleaseRecord (hexText
      self.electionBinding.manifestHashHex) fingerprint
        (packageDigestHex crates.provider canonicalBytes)
          (stagedReleaseEnvelopePathV1 stagingDir (hexText self.electionBinding.manifestHashHex)
            fingerprint)
          (stagedReleaseEnvelopeDigestHexV1 crates.provider sealed.toCanonicalCbor)
          descriptorFingerprintHex
          (releaseReceiptEvidencePathV1 stagingDir (hexText self.electionBinding.manifestHashHex)
            fingerprint))).Beside := getLast?_lossy hreceipt (by decide)
  have hwrites := ends_recordAt_pending crates hpath hkept.2 (hfresh.of_same hsame) hbeside
  refine ends_keep hwrites ?_ ?_
  · rintro result recordedWorld ⟨hpending, -, -⟩
    exact hpending
  rintro ⟨⟩ recordedWorld ⟨-, -, hlocked⟩
  obtain ⟨hlocked, hadvanced⟩ := hlocked rfl
  exact ends_verifyStagedThenDeliverRelease hpath hlocked hadvanced descriptor _ _ _ hreceipt

omit [DecidableEq Scalar] [AddCommGroup crate.dalekV4.Point]
  [Module Scalar crate.dalekV4.Point] in
theorem ends_retryPendingPrivateTransportRelease {self : GuiVoterSessionV1 prover}
    {pair : CastPair} (hpair : self.IsOf crates.provider pair)
    (hgood : start.Good crates.provider pair.path world) (artifacts : GuiElectionArtifactsV1)
    (descriptor : TransportDescriptorV1) (roots : TransportAuthorityRootSetV1)
    (consistency : DescriptorConsistencyStoreV1) :
    (self.retryPendingPrivateTransportRelease crates artifacts descriptor roots consistency
      pair.castLocksDir).run.Ends releaseExec
        (fun _ after ↦ start.Good crates.provider pair.path after) world := by
  have hpath := pair.getLast?_path
  unfold retryPendingPrivateTransportRelease
  apply ends_checking (fun _ _ ↦ hgood)
  intro _ _
  apply ends_checking (fun _ _ ↦ hgood)
  intro fingerprint hfingerprint
  dsimp only
  rw [path_eq hpair hfingerprint]
  apply ends_lift
  apply (ends_loadPendingReleaseRetryHandleV1 pair.path _ _ world).mono
  rintro result after ⟨rfl, hhandle⟩
  rcases result with _ | (_ | handle)
  · exact hgood
  · exact ends_throw hgood
  obtain ⟨metadata, read, record, hread, rfl⟩ := hhandle handle rfl
  have hlocked : after.Locked crates.provider pair.path (.online record) := by
    rcases hgood.1 with hfresh | ⟨lock, hlocked⟩
    · rw [hfresh.record] at hread
      cases metadata <;> cases hread
    · rw [hlocked.record] at hread
      rcases lock.read_cases metadata read with hmalformed | hfound
      · rw [hmalformed] at hread
        cases hread
      · rw [hfound] at hread
        cases lock with
        | offline other => cases hread
        | online other =>
          cases hread
          exact hlocked
  apply ends_checking (fun _ _ ↦ hgood)
  intro descriptorFingerprintHex _
  dsimp only
  split
  · exact ends_throw hgood
  · exact ends_verifyStagedThenDeliverRelease hpath hlocked hgood.2 descriptor _ _ _ hlocked.beside

end

/-! ### Runs -/

section

variable {crate : TriptychCrate} {Scalar : Type} [Field Scalar] [DecidableEq Scalar]
  [AddCommGroup crate.dalekV4.Point] [Module Scalar crate.dalekV4.Point]

/-- One thing that happens to a pair: a call of any session of the pair or of a resolver, whose
steps the environment answers as it likes until the inputs end, which may be before the call does;
or any change of other files. Calls do not overlap, and files change between them. -/
inductive CastStep (crates : ReleaseCrates) (prover : TriptychProverCrate crate Scalar)
    (pair : CastPair) (world : CastWorld) : CastWorld → Prop
  | exporting (session : GuiVoterSessionV1 prover) (hreached : session.IsReached crates.provider)
      (hpair : session.IsOf crates.provider pair) (artifacts : GuiElectionArtifactsV1)
      (lifecycleState : ElectionLifecycleStateV1) (finalPath : Bytes)
      (inputs : List ReleaseInput) :
      CastStep crates prover pair world ((session.exportAndCastPreparedBallot crates.provider
        artifacts lifecycleState finalPath pair.castLocksDir).run.resume releaseExec inputs world).2
  | releasing (session : GuiVoterSessionV1 prover) (hreached : session.IsReached crates.provider)
      (hpair : session.IsOf crates.provider pair) (artifacts : GuiElectionArtifactsV1)
      (lifecycleState : ElectionLifecycleStateV1) (descriptor : TransportDescriptorV1)
      (roots : TransportAuthorityRootSetV1) (consistency : DescriptorConsistencyStoreV1)
      (ephemeral stagingDir : Bytes) (inputs : List ReleaseInput) :
      CastStep crates prover pair world ((session.releasePreparedBallotViaPrivateTransport crates
        artifacts lifecycleState descriptor roots consistency ephemeral pair.castLocksDir
        stagingDir).run.resume releaseExec inputs world).2
  | retrying (session : GuiVoterSessionV1 prover) (hreached : session.IsReached crates.provider)
      (hpair : session.IsOf crates.provider pair) (artifacts : GuiElectionArtifactsV1)
      (descriptor : TransportDescriptorV1) (roots : TransportAuthorityRootSetV1)
      (consistency : DescriptorConsistencyStoreV1) (inputs : List ReleaseInput) :
      CastStep crates prover pair world ((session.retryPendingPrivateTransportRelease crates
        artifacts descriptor roots consistency pair.castLocksDir).run.resume releaseExec inputs
        world).2
  | resolving (artifacts : GuiElectionArtifactsV1) (inputs : List ReleaseInput) :
      CastStep crates prover pair world ((resolveAndRecoverCastLockStateV1 crates.provider pair.path
        pair.manifestHashHex pair.fingerprint artifacts).resume releaseExec inputs world).2
  | resolvingPrivate (descriptor : TransportDescriptorV1) (inputs : List ReleaseInput) :
      CastStep crates prover pair world ((resolveAndRecoverPrivateTransportCastLockStateV1 crates
        pair.path pair.manifestHashHex pair.fingerprint descriptor).resume releaseExec inputs
        world).2
  | outside (other : CastWorld) (hsame : world.Same pair.path other) :
      CastStep crates prover pair world other

variable {crates : ReleaseCrates} {prover : TriptychProverCrate crate Scalar} {pair : CastPair}
  {start world later : CastWorld}

/-- Each of them keeps the world good. -/
theorem CastStep.good (h : CastStep crates prover pair world later)
    (hgood : start.Good crates.provider pair.path world) :
    start.Good crates.provider pair.path later := by
  have hpath := pair.getLast?_path
  cases h with
  | exporting session hreached hpair artifacts lifecycleState finalPath inputs =>
    exact (ends_exportAndCastPreparedBallot hreached.consistent hpair hgood artifacts
      lifecycleState finalPath).resume inputs
  | releasing session hreached hpair artifacts lifecycleState descriptor roots consistency ephemeral
      stagingDir inputs =>
    exact (ends_releasePreparedBallotViaPrivateTransport hreached.consistent hpair hgood artifacts
      lifecycleState descriptor roots consistency ephemeral stagingDir).resume inputs
  | retrying session hreached hpair artifacts descriptor roots consistency inputs =>
    exact (ends_retryPendingPrivateTransportRelease hpair hgood artifacts descriptor roots
      consistency).resume inputs
  | resolving artifacts inputs =>
    exact ((ends_resolveAndRecoverCastLockStateV1 hpath hgood _ _ artifacts).resume inputs).1
  | resolvingPrivate descriptor inputs =>
    exact ((ends_resolveAndRecoverPrivateTransportCastLockStateV1 hpath hgood _ _
      descriptor).resume inputs).1
  | outside other hsame => exact hgood.of_same hsame

/-- So does every run of them. -/
theorem CastStep.good_of_run (hrun : ReflTransGen (CastStep crates prover pair) world later)
    (hgood : start.Good crates.provider pair.path world) :
    start.Good crates.provider pair.path later := by
  induction hrun with
  | refl => exact hgood
  | tail _ hstep ih => exact hstep.good ih

theorem CastWorld.Fresh.good {provider : HashProvider} {path : Bytes} (h : world.Fresh path) :
    world.Good provider path world :=
  ⟨.inl h, .refl path world⟩

/-- At most one ballot leaves. From a world in which a pair has no record, whatever calls are made
for the pair by whatever sessions, one after the other, answered and cut off in whatever way, and
whatever happens to other files between them: either there is still no record and nothing has left;
or there is a record of an exported file, no envelope was given to the carrier, and every file that
appeared under a final name holds bytes whose package digest is that of the record; or there is a
record of a release, no file appeared under a final name, and every envelope that was given to the
carrier has the digest of that record. -/
theorem atMostOneBallot_leaves (hstart : start.Fresh pair.path)
    (hrun : ReflTransGen (CastStep crates prover pair) start world) :
    (world.disk pair.path = .absent ∧ world.exposed = [] ∧ world.delivered = []) ∨
    (∃ record : VoterCastRecordV1, world.disk pair.path = .file record.encode ∧
      world.delivered = [] ∧ ∀ node ∈ world.exposed, ∃ bytes, node = .file bytes ∧
        packageDigestHex crates.provider bytes = record.packageDigestHex) ∨
    (∃ record : OnlineReleaseRecordV3, world.disk pair.path = .file record.encode ∧
      world.exposed = [] ∧ ∀ envelope ∈ world.delivered,
        stagedReleaseEnvelopeDigestHexV1 crates.provider envelope =
          record.stagedEnvelopeDigestHex) := by
  have hgood := CastStep.good_of_run hrun hstart.good
  rcases hgood.1 with hfresh | ⟨lock, hlocked⟩
  · exact .inl ⟨hfresh.record, hfresh.exposed, hfresh.delivered⟩
  · cases lock with
    | offline record =>
      exact .inr (.inl ⟨record, hlocked.record, hlocked.allows.2, hlocked.allows.1⟩)
    | online record =>
      exact .inr (.inr ⟨record, hlocked.record, hlocked.allows.1, hlocked.allows.2⟩)

/-- A record stays, and so does what has left. Between any two worlds of such a run, a record that
was there is there still, at most promoted, and what had left has left; and once anything has left,
neither resolver ever answers again that nothing was cast. -/
theorem castRecord_stays (hstart : start.Fresh pair.path)
    (hrun : ReflTransGen (CastStep crates prover pair) start world)
    (hlater : ReflTransGen (CastStep crates prover pair) world later) :
    (world.disk pair.path = .absent ∨
      ReflTransGen Promotes (world.disk pair.path) (later.disk pair.path)) ∧
    world.exposed <+: later.exposed ∧ world.delivered <+: later.delivered ∧
    (world.exposed ≠ [] ∨ world.delivered ≠ [] →
      (∀ artifacts inputs rest, ((resolveAndRecoverCastLockStateV1 crates.provider pair.path
        pair.manifestHashHex pair.fingerprint artifacts).resume releaseExec inputs later).1 ≠
          some (.notCast, rest)) ∧
      ∀ descriptor inputs rest, ((resolveAndRecoverPrivateTransportCastLockStateV1 crates pair.path
        pair.manifestHashHex pair.fingerprint descriptor).resume releaseExec inputs later).1 ≠
          some (.notCast, rest)) := by
  have hpath := pair.getLast?_path
  have hworld := CastStep.good_of_run hrun hstart.good
  have hadvances := (CastStep.good_of_run hlater
    (⟨hworld.1, .refl pair.path world⟩ : world.Good crates.provider pair.path world)).2
  have hgood := CastStep.good_of_run hlater hworld
  refine ⟨hadvances.record, hadvances.exposed, hadvances.delivered, fun hleft ↦ ?_⟩
  have hnot : ¬ later.Fresh pair.path := by
    intro hfresh
    rcases hleft with hexposed | hdelivered
    · have hnothing := hadvances.exposed
      rw [hfresh.exposed] at hnothing
      exact hexposed (List.prefix_nil.mp hnothing)
    · have hnothing := hadvances.delivered
      rw [hfresh.delivered] at hnothing
      exact hdelivered (List.prefix_nil.mp hnothing)
  constructor
  · intro artifacts inputs rest hanswer
    have hends := (ends_resolveAndRecoverCastLockStateV1 hpath hgood pair.manifestHashHex
      pair.fingerprint artifacts).resume inputs
    rw [hanswer] at hends
    exact hnot (hends.2 rfl)
  · intro descriptor inputs rest hanswer
    have hends := (ends_resolveAndRecoverPrivateTransportCastLockStateV1 hpath hgood
      pair.manifestHashHex pair.fingerprint descriptor).resume inputs
    rw [hanswer] at hends
    exact hnot (hends.2 rfl)

end

/-! ### An exported ballot, and a released one -/

namespace VoterSample

/-- Every signature is one, and nothing is encrypted; a tag follows. -/
def releaseCrates : ReleaseCrates where
  provider := Verifier.Sample.provider
  ed := ⟨fun _ ↦ true, fun _ _ _ ↦ true⟩
  sender := ⟨fun _ ↦ true, fun _ _ _ plaintext _ ↦
    some (Bytes32.replicate 6, plaintext ++ List.replicate 16 0)⟩

/-- The pair of the voter who has prepared a ballot. -/
def pair : CastPair where
  castLocksDir := [0x6c]
  fingerprint := (prepared.credentialFingerprint releaseCrates.provider).toOption.getD (.lit "")
  manifestHashHex := hexText prepared.electionBinding.manifestHashHex

def emptyWorld : CastWorld := ⟨fun _ ↦ .absent, [], []⟩

/-- A step that works. -/
def working : ReleaseInput where
  metadata := true
  works := true
  bytes := []
  probe := ⟨.ok (), .ok (), .ok (), .ok (), .error .alreadyExists⟩

theorem fresh_emptyWorld : emptyWorld.Fresh pair.path := ⟨rfl, rfl, rfl⟩

theorem isReached_prepared : prepared.IsReached releaseCrates.provider := ⟨artifacts, calls, rfl⟩

theorem isOf_prepared : prepared.IsOf releaseCrates.provider pair where
  fingerprint := by
    intro fingerprint hfingerprint
    rw [pair, hfingerprint]
    rfl
  manifestHashHex := by rw [pair]

/-- An export of which every step works. -/
theorem exists_exported : ∃ world, CastStep releaseCrates prover pair emptyWorld world ∧
    world.exposed.length = 1 :=
  ⟨_, .exporting prepared isReached_prepared isOf_prepared artifacts .opened [0x78]
    (List.replicate 40 working), by decide +kernel⟩

/-- The connection to the ballot office. -/
def connectionFields : TransportDescriptorFields where
  electionId := [1]
  manifestHash := artifacts.manifestHash
  generation := 1
  route := .managedTorOrOffline
  onionEndpoints := [.lit "gateway.onion"]
  relayEndpoints := []
  gatewayPublicKey := Bytes32.replicate 3
  gatewayKeyId := .lit "gateway"
  receiptVerificationKeys := [Bytes32.replicate 5]
  padding := ⟨.lit "padding", 2048⟩
  batch := ⟨.lit "batch", 2⟩
  validityEndEpoch := none
  rootKeyId := .lit "root"
  signature := ⟨List.replicate 64 0, length_zeros64⟩

theorem valid_connectionFields : connectionFields.validateFields = .ok () := by decide +kernel

def connection : TransportDescriptorV1 := { connectionFields with valid := valid_connectionFields }

/-- The root that has signed it. -/
def roots : TransportAuthorityRootSetV1 := .new (.pinned (.lit "root") (Bytes32.replicate 9))

/-- A release whose envelope arrives and whose receipt does not, and a retry that ends like it. -/
theorem exists_retried : ∃ released retried,
    CastStep releaseCrates prover pair emptyWorld released ∧
      CastStep releaseCrates prover pair released retried ∧
      (released.delivered.length, retried.delivered.length) = (1, 2) :=
  ⟨_, _, .releasing prepared isReached_prepared isOf_prepared artifacts .opened connection roots ∅
      [] [0x73] (List.replicate 40 working),
    .retrying prepared isReached_prepared isOf_prepared artifacts connection roots ∅
      (List.replicate 40 working), by decide +kernel⟩

end VoterSample

open VoterSample in
/-- After an export one file has left under its record; after a release and its retry an envelope
has left twice under theirs. -/
theorem atMostOneBallot_leaves_sample :
    (∃ exported, CastStep releaseCrates prover pair emptyWorld exported ∧
      exported.exposed.length = 1 ∧ ∃ record : VoterCastRecordV1,
        exported.disk pair.path = .file record.encode ∧ exported.delivered = []) ∧
    ∃ released retried, CastStep releaseCrates prover pair emptyWorld released ∧
      CastStep releaseCrates prover pair released retried ∧ retried.delivered.length = 2 ∧
      ∃ record : OnlineReleaseRecordV3, retried.disk pair.path = .file record.encode ∧
        retried.exposed = [] ∧ ∀ envelope ∈ retried.delivered,
          stagedReleaseEnvelopeDigestHexV1 releaseCrates.provider envelope =
            record.stagedEnvelopeDigestHex := by
  constructor
  · obtain ⟨exported, hstep, hlength⟩ := exists_exported
    refine ⟨exported, hstep, hlength, ?_⟩
    rcases atMostOneBallot_leaves fresh_emptyWorld (.single hstep) with
      ⟨-, hexposed, -⟩ | ⟨record, hrecord, hdelivered, -⟩ | ⟨record, -, hexposed, -⟩
    · rw [hexposed] at hlength
      cases hlength
    · exact ⟨record, hrecord, hdelivered⟩
    · rw [hexposed] at hlength
      cases hlength
  · obtain ⟨released, retried, hrelease, hretry, hlengths⟩ := exists_retried
    have hlength : retried.delivered.length = 2 := (Prod.mk.inj hlengths).2
    refine ⟨released, retried, hrelease, hretry, hlength, ?_⟩
    rcases atMostOneBallot_leaves fresh_emptyWorld ((ReflTransGen.single hrelease).tail hretry) with
      ⟨-, -, hdelivered⟩ | ⟨record, -, hdelivered, -⟩ | ⟨record, hrecord, hexposed, hdigest⟩
    · rw [hdelivered] at hlength
      cases hlength
    · rw [hdelivered] at hlength
      cases hlength
    · exact ⟨record, hrecord, hexposed, hdigest⟩

open VoterSample in
/-- Neither resolver forgets what has left: not the export, nor the release behind its retry. -/
theorem castRecord_stays_sample :
    (∃ exported, CastStep releaseCrates prover pair emptyWorld exported ∧
      exported.exposed.length = 1 ∧
      ((resolveAndRecoverCastLockStateV1 releaseCrates.provider pair.path pair.manifestHashHex
        pair.fingerprint artifacts).resume releaseExec (List.replicate 40 working)
          exported).1.map Prod.fst ≠ some .notCast) ∧
    ∃ released retried, CastStep releaseCrates prover pair emptyWorld released ∧
      CastStep releaseCrates prover pair released retried ∧ released.delivered.length = 1 ∧
      released.delivered <+: retried.delivered ∧
      ((resolveAndRecoverPrivateTransportCastLockStateV1 releaseCrates pair.path
        pair.manifestHashHex pair.fingerprint connection).resume releaseExec
          (List.replicate 40 working) retried).1.map Prod.fst ≠ some .notCast := by
  constructor
  · obtain ⟨exported, hstep, hlength⟩ := exists_exported
    refine ⟨exported, hstep, hlength, fun hanswer ↦ ?_⟩
    have hexposed : exported.exposed ≠ [] := by
      intro hnone
      rw [hnone] at hlength
      cases hlength
    have hnever := ((castRecord_stays fresh_emptyWorld (.single hstep) .refl).2.2.2
      (.inl hexposed)).1
    obtain ⟨⟨answer, rest⟩, hresult, hsame⟩ := Option.map_eq_some_iff.mp hanswer
    change answer = .notCast at hsame
    subst hsame
    exact hnever artifacts _ rest hresult
  · obtain ⟨released, retried, hrelease, hretry, hlengths⟩ := exists_retried
    have hlength : released.delivered.length = 1 := (Prod.mk.inj hlengths).1
    obtain ⟨-, -, hprefix, hleft⟩ :=
      castRecord_stays fresh_emptyWorld (.single hrelease) (.single hretry)
    refine ⟨released, retried, hrelease, hretry, hlength, hprefix, fun hanswer ↦ ?_⟩
    have hdelivered : released.delivered ≠ [] := by
      intro hnone
      rw [hnone] at hlength
      cases hlength
    obtain ⟨⟨answer, rest⟩, hresult, hsame⟩ := Option.map_eq_some_iff.mp hanswer
    change answer = .notCast at hsame
    subst hsame
    exact (hleft (.inr hdelivered)).2 connection _ rest hresult

end PrivateBallot.GuiCore
