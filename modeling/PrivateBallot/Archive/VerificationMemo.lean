import PrivateBallot.Archive.VerifierSoundness
import PrivateBallot.Base.FlightCache
import PrivateBallot.Base.Interleaving

/-!
# The archive-verification memo

Library `Archive`. `crates/archive/src/verification_memo.rs`: verified reports are kept for the
canonical directory and the archive hash they were made for. Every call reads the directory
again and establishes its identity; only the replay is saved. Calls are interleaved at the steps
that take the lock of the memo or of a flight; the directory may change between any two reads,
so what a call reads is left to the environment. Instrumentation is left out, and so are poisoned
locks: nothing panics while one is held. A call that panics during its replay is cut off there.
-/

namespace PrivateBallot.Archive

open PrivateBallot.Base
open PrivateBallot.Protocol
open PrivateBallot.Crypto

/-- `ARCHIVE_VERIFICATION_MEMO_CAPACITY_V1` -/
def archiveVerificationMemoCapacityV1 : Nat := 4

/-- `ArchiveMemoKeyV1` -/
structure ArchiveMemoKeyV1 where
  canonicalDir : Text
  archiveHash : ArchiveHashV1
deriving DecidableEq

/-- What a verification returns. -/
abbrev ArchiveVerification := Except ArchiveVerifierError ArchiveDirectoryVerificationV1

/-- `MemoStateV1`, with the flights its waiters hold on to. -/
abbrev MemoStateV1 :=
  FlightCache ArchiveMemoKeyV1 ArchiveDirectoryVerificationV1 ArchiveVerification

namespace MemoStateV1

/-- The first locked section of `get_or_finish`: a hit, or else entries of the same directory are
stale and the caller joins the flight of its key. -/
def find (self : MemoStateV1) (key : ArchiveMemoKeyV1) :
    FlightCache.Found ArchiveDirectoryVerificationV1 × MemoStateV1 :=
  match self.entries.lookup key with
  | some entry => (.hit entry, self.touch key)
  | none =>
    if self.entries.keys.any (·.canonicalDir = key.canonicalDir) then
      (self.retain (·.canonicalDir ≠ key.canonicalDir)).join key
    else self.join key

/-- The locked section of `publish_completion`: only verified reports are stored. -/
def complete (self : MemoStateV1) (capacity : Nat) (key : ArchiveMemoKeyV1)
    (result : ArchiveVerification) : MemoStateV1 :=
  match result with
  | .ok report =>
    if report.verified then (self.leave key).insert capacity key report else self.leave key
  | .error _ => self.leave key

end MemoStateV1

/-! ### Calls -/

/-- The steps of a call. -/
inductive MemoOp where
  | readArchive
  | canonicalDirString
  | find (key : ArchiveMemoKeyV1)
  | complete (key : ArchiveMemoKeyV1) (result : ArchiveVerification)
  | settle (flight : Nat) (result : ArchiveVerification)
  | wait (flight : Nat)

/-- What a step answers. -/
def MemoOp.Response : MemoOp → Type
  | readArchive => ArchiveReads
  | canonicalDirString => Text
  | find _ => FlightCache.Found ArchiveDirectoryVerificationV1
  | complete _ _ => Unit
  | settle _ _ => Unit
  | wait _ => ArchiveVerification

/-- What the file system shows at a step. -/
structure DirectoryView where
  reads : ArchiveReads
  canonicalDir : Text

section

variable (crate : TriptychCrate) (provider : HashProvider) (nfc : List Char → List Char)

/-- `publish_completion` -/
def publishCompletion (key : ArchiveMemoKeyV1) (flight : Nat) (result : ArchiveVerification) :
    Program MemoOp.Response ArchiveVerification :=
  .act (.complete key result) fun _ ↦ .act (.settle flight result) fun _ ↦ .done result

/-- `get_or_finish` behind its first locked section. -/
def goOnWith (key : ArchiveMemoKeyV1) (established : EstablishedIdentityV1) :
    FlightCache.Found ArchiveDirectoryVerificationV1 →
    Program MemoOp.Response ArchiveVerification
  | .hit entry => .done (.ok entry)
  | .wait flight => .act (.wait flight) .done
  | .own flight =>
    publishCompletion key flight (finishVerification crate provider nfc established)

/-- `get_or_finish` -/
def getOrFinish (key : ArchiveMemoKeyV1) (established : EstablishedIdentityV1) :
    Program MemoOp.Response ArchiveVerification :=
  .act (.find key) (goOnWith crate provider nfc key established)

/-- `verify` once the identity is established. -/
def verifyEstablished (established : EstablishedIdentityV1) (canonicalDir : Text) :
    Program MemoOp.Response ArchiveVerification :=
  getOrFinish crate provider nfc ⟨canonicalDir, established.archiveHash⟩ established

-- The reads are returned with the value, for statements about the call.
/-- `verify` behind the reading of the directory. -/
def verifyRead (reads : ArchiveReads) :
    Program MemoOp.Response (ArchiveReads × ArchiveVerification) :=
  match establishIdentityAndCatalog provider reads with
  | .error stop => .done (reads, returned (.error stop))
  | .ok established =>
    .act .canonicalDirString fun canonicalDir ↦
      verifyEstablished crate provider nfc established canonicalDir >>= fun value ↦
        .done (reads, value)

/-- `ArchiveVerificationMemoV1::verify` -/
def memoVerify : Program MemoOp.Response (ArchiveReads × ArchiveVerification) :=
  .act .readArchive (verifyRead crate provider nfc)

end

/-- One memo of this capacity and its callers. A waiter goes on when its flight is settled. -/
def memoSystem (capacity : Nat) : System MemoOp.Response DirectoryView Unit Nat MemoStateV1 where
  exec _
    | .readArchive, view, memo => (view.reads, memo)
    | .canonicalDirString, view, memo => (view.canonicalDir, memo)
    | .find key, _, memo => memo.find key
    | .complete key result, _, memo => ((), memo.complete capacity key result)
    | .settle flight result, _, memo => ((), memo.settle flight result)
    | .wait flight, _, memo => ((memo.outcome flight).getD (.error .ioFailure), memo)
  ready _
    | .wait flight, memo => (memo.outcome flight).isSome
    | _, _ => true
  restart _ _ memo := memo

/-- The capacity of `ArchiveVerificationMemoV1::new`. -/
def memoCapacity (capacity : Nat) : Nat := max capacity 1

/-! ### Collisions -/

abbrev MemoLog := List (Event MemoOp.Response (ArchiveReads × ArchiveVerification) Nat)

section

variable (provider : HashProvider)

/-- The identities that the calls of a log established. -/
def establishedIn (log : MemoLog) : List EstablishedIdentityV1 :=
  log.filterMap fun event ↦ match event with
    | .performed _ ⟨.readArchive, reads⟩ => (establishIdentityAndCatalog provider reads).toOption
    | _ => none

/-- What is hashed for an identity: its manifest and its files. -/
def hashedInputs (established : EstablishedIdentityV1) : List Bytes :=
  domainSeparatedInput .archiveManifestV1
      (established.archiveManifest.toCanonicalCbor.toOption.getD []) ::
    established.files.map fun file ↦ domainSeparatedInput .archiveFileV1 file.2

/-- What was hashed for the identities of a log has hashes of its own. -/
def HashesApart (log : MemoLog) : Prop :=
  ∀ a ∈ (establishedIn provider log).flatMap hashedInputs,
    ∀ b ∈ (establishedIn provider log).flatMap hashedInputs,
      provider.hash a = provider.hash b → a = b

instance (log : MemoLog) : Decidable (HashesApart provider log) :=
  inferInstanceAs (Decidable (∀ a ∈ (establishedIn provider log).flatMap hashedInputs, _))

end

section

variable {crate : TriptychCrate} {provider : HashProvider} {nfc : List Char → List Char}

private theorem domainSeparatedInput_inj (domain : HashDomain) {a b : Bytes}
    (h : domainSeparatedInput domain a = domainSeparatedInput domain b) : a = b := by
  unfold domainSeparatedInput at h
  exact List.append_cancel_left h

private theorem isEstablished_of_mem {log : MemoLog} {established : EstablishedIdentityV1}
    (h : established ∈ establishedIn provider log) :
    ∃ reads, IsEstablished provider reads established := by
  obtain ⟨event, -, hevent⟩ := List.mem_filterMap.mp h
  split at hevent
  · next tag reads =>
    cases hreads : establishIdentityAndCatalog provider reads with
    | error stop => simp [hreads, Except.toOption] at hevent
    | ok read =>
      simp only [hreads, Except.toOption, Option.some.injEq] at hevent
      rw [← hevent]
      exact ⟨reads, isEstablished_of_establish hreads⟩
  · cases hevent

private theorem encoded_of_canonicalHash {manifest : ArchiveManifestV1} {hash : ArchiveHashV1}
    (h : manifest.canonicalHash provider = .ok hash) :
    ∃ encoded, manifest.toCanonicalCbor = .ok encoded ∧
      provider.hash (domainSeparatedInput .archiveManifestV1 encoded) = hash := by
  obtain ⟨u, -, hrest⟩ := bind_eq_ok.mp h
  obtain ⟨encoded, hencoded, hhash⟩ := bind_eq_ok.mp hrest
  cases hhash
  exact ⟨encoded, hencoded, rfl⟩

-- The hash of the manifest gives the manifest back, by its round trip.
private theorem archiveManifest_eq {log : MemoLog} (hapart : HashesApart provider log)
    {a b : EstablishedIdentityV1} (ha : a ∈ establishedIn provider log)
    (hb : b ∈ establishedIn provider log) (hhash : a.archiveHash = b.archiveHash) :
    a.archiveManifest = b.archiveManifest := by
  obtain ⟨readsA, hA⟩ := isEstablished_of_mem ha
  obtain ⟨readsB, hB⟩ := isEstablished_of_mem hb
  obtain ⟨encodedA, hencodedA, hhashA⟩ := encoded_of_canonicalHash hA.archiveHash
  obtain ⟨encodedB, hencodedB, hhashB⟩ := encoded_of_canonicalHash hB.archiveHash
  have hsame : domainSeparatedInput .archiveManifestV1 encodedA =
      domainSeparatedInput .archiveManifestV1 encodedB := by
    apply hapart
    · refine List.mem_flatMap.mpr ⟨a, ha, ?_⟩
      rw [hashedInputs, hencodedA]
      exact List.mem_cons_self
    · refine List.mem_flatMap.mpr ⟨b, hb, ?_⟩
      rw [hashedInputs, hencodedB]
      exact List.mem_cons_self
    · rw [hhashA, hhashB, hhash]
  rw [domainSeparatedInput_inj _ hsame] at hencodedA
  have hback := ArchiveManifestV1.fromCanonicalCbor_toCanonicalCbor hencodedA
  rw [ArchiveManifestV1.fromCanonicalCbor_toCanonicalCbor hencodedB] at hback
  exact (Except.ok.inj hback).symm

/-- Without collisions, the archive hash determines what was established: the manifest, and by
the digests in it the files. -/
private theorem eq_of_archiveHash_eq {log : MemoLog} (hapart : HashesApart provider log)
    {a b : EstablishedIdentityV1} (ha : a ∈ establishedIn provider log)
    (hb : b ∈ establishedIn provider log) (hhash : a.archiveHash = b.archiveHash) : a = b := by
  have hmanifest := archiveManifest_eq hapart ha hb hhash
  obtain ⟨readsA, hA⟩ := isEstablished_of_mem ha
  obtain ⟨readsB, hB⟩ := isEstablished_of_mem hb
  have hread : ∀ established reads, IsEstablished provider reads established →
      ∀ entry ∈ established.archiveManifest.files.entries,
        (entry.path.value, contentOf reads entry) ∈ established.files := by
    intro established reads h entry hentry
    rw [h.files]
    exact List.mem_map_of_mem hentry
  have hcontent : ∀ entry ∈ a.archiveManifest.files.entries,
      contentOf readsA entry = contentOf readsB entry := by
    intro entry hentryA
    have hentryB : entry ∈ b.archiveManifest.files.entries := by
      rw [← hmanifest]
      exact hentryA
    apply domainSeparatedInput_inj .archiveFileV1
    apply hapart
    · refine List.mem_flatMap.mpr ⟨a, ha, List.mem_cons_of_mem _ ?_⟩
      exact List.mem_map_of_mem (hread a readsA hA entry hentryA)
    · refine List.mem_flatMap.mpr ⟨b, hb, List.mem_cons_of_mem _ ?_⟩
      exact List.mem_map_of_mem (hread b readsB hB entry hentryB)
    · exact (hA.read entry hentryA).2.trans (hB.read entry hentryB).2.symm
  have hfiles : a.files = b.files := by
    rw [hA.files, hB.files, ← hmanifest]
    apply List.map_congr_left
    intro entry hentry
    rw [hcontent entry hentry]
  have hresult : a.result = b.result := by
    rw [hA.result, hB.result, hmanifest, hhash]
  cases a
  cases b
  simp only at hhash hmanifest hfiles hresult
  rw [hhash, hmanifest, hfiles, hresult]

/-! ### The invariant -/

/-- The result is that of finishing an identity established in the log, with this hash. -/
def IsFinished (crate : TriptychCrate) (provider : HashProvider) (nfc : List Char → List Char)
    (log : MemoLog) (archiveHash : ArchiveHashV1) (result : ArchiveVerification) : Prop :=
  ∃ established ∈ establishedIn provider log, established.archiveHash = archiveHash ∧
    result = finishVerification crate provider nfc established

/-- The call that made these reads returned their failed stage, or a result for the identity they
establish. -/
def IsAnswered (crate : TriptychCrate) (provider : HashProvider) (nfc : List Char → List Char)
    (log : MemoLog) (reads : ArchiveReads) (value : ArchiveVerification) : Prop :=
  match establishIdentityAndCatalog provider reads with
  | .error stop => value = returned (.error stop)
  | .ok established => established ∈ establishedIn provider log ∧
      IsFinished crate provider nfc log established.archiveHash value

/-- What may be stored: a verified report that is a result for the hash of its key. -/
def IsStorable (crate : TriptychCrate) (provider : HashProvider) (nfc : List Char → List Char)
    (log : MemoLog) (key : ArchiveMemoKeyV1) (report : ArchiveDirectoryVerificationV1) : Prop :=
  report.verified = true ∧ IsFinished crate provider nfc log key.archiveHash (.ok report)

/-- The memo is sound: it stores verified reports only, and what it stores and what its flights
end with was finished for an identity with that hash; and so is what was returned. -/
structure MemoKept (crate : TriptychCrate) (provider : HashProvider) (nfc : List Char → List Char)
    (capacity : Nat) (memo : MemoStateV1) (log : MemoLog) : Prop where
  sound : memo.IsSound capacity (IsStorable crate provider nfc log)
    (fun key ↦ IsFinished crate provider nfc log key.archiveHash)
  answered : ∀ tag reads value, .returned tag (reads, value) ∈ log →
    IsAnswered crate provider nfc log reads value

private theorem establishedIn_append {log : MemoLog} {established : EstablishedIdentityV1}
    (h : established ∈ establishedIn provider log) (events : MemoLog) :
    established ∈ establishedIn provider (log ++ events) := by
  rw [establishedIn, List.filterMap_append]
  exact List.mem_append_left _ h

private theorem IsFinished.append {log : MemoLog} {archiveHash : ArchiveHashV1}
    {result : ArchiveVerification} (h : IsFinished crate provider nfc log archiveHash result)
    (events : MemoLog) : IsFinished crate provider nfc (log ++ events) archiveHash result := by
  obtain ⟨established, hmem, hrest⟩ := h
  exact ⟨established, establishedIn_append hmem events, hrest⟩

private theorem IsAnswered.append {log : MemoLog} {reads : ArchiveReads}
    {value : ArchiveVerification} (h : IsAnswered crate provider nfc log reads value)
    (events : MemoLog) : IsAnswered crate provider nfc (log ++ events) reads value := by
  unfold IsAnswered at h ⊢
  split
  · next stop hstop =>
    simp only [hstop] at h
    exact h
  · next established hestablished =>
    simp only [hestablished] at h
    exact ⟨establishedIn_append h.1 events, h.2.append events⟩

/-- A step that leaves the memo sound keeps the invariant. -/
private theorem MemoKept.performed {capacity : Nat} {memo memo' : MemoStateV1} {log : MemoLog}
    (h : MemoKept crate provider nfc capacity memo log)
    (hsound : memo'.IsSound capacity (IsStorable crate provider nfc log)
      (fun key ↦ IsFinished crate provider nfc log key.archiveHash))
    (tag : Nat) (operation : Sigma MemoOp.Response) :
    MemoKept crate provider nfc capacity memo' (log ++ [Event.performed tag operation]) := by
  constructor
  · apply hsound.mono
    · intro key report hreport
      exact ⟨hreport.1, hreport.2.append _⟩
    · intro key result hresult
      exact hresult.append _
  · intro other reads value hmem
    rcases List.mem_append.mp hmem with hold | hnew
    · exact (h.answered other reads value hold).append _
    · cases List.mem_singleton.mp hnew

/-- A return with an answer keeps the invariant. -/
private theorem MemoKept.returned {capacity : Nat} {memo : MemoStateV1} {log : MemoLog}
    (h : MemoKept crate provider nfc capacity memo log) {reads : ArchiveReads}
    {value : ArchiveVerification} (hanswer : IsAnswered crate provider nfc log reads value)
    (tag : Nat) :
    MemoKept crate provider nfc capacity memo (log ++ [Event.returned tag (reads, value)]) := by
  constructor
  · apply h.sound.mono
    · intro key report hreport
      exact ⟨hreport.1, hreport.2.append _⟩
    · intro key result hresult
      exact hresult.append _
  · intro other otherReads otherValue hmem
    rcases List.mem_append.mp hmem with hold | hnew
    · exact (h.answered other otherReads otherValue hold).append _
    · cases List.mem_singleton.mp hnew
      exact hanswer.append _

/-! ### Steps -/

section

variable {capacity : Nat} {memo : MemoStateV1}
  {Stored : ArchiveMemoKeyV1 → ArchiveDirectoryVerificationV1 → Prop}
  {Settled : ArchiveMemoKeyV1 → ArchiveVerification → Prop}

/-- Looking a key up keeps the memo sound and the keys of flights, and finds what is good. -/
private theorem find_sound (h : memo.IsSound capacity Stored Settled) (key : ArchiveMemoKeyV1) :
    (memo.find key).2.IsSound capacity Stored Settled ∧
      (∀ flight other, memo.flightKey flight = some other →
        (memo.find key).2.flightKey flight = some other) ∧
      FlightCache.IsFound Stored (memo.find key).2 key (memo.find key).1 := by
  unfold MemoStateV1.find
  cases hlookup : memo.entries.lookup key with
  | some entry =>
    have hmem : key ∈ memo.entries := by
      rw [← AList.lookup_isSome, hlookup]
      rfl
    exact ⟨h.touch hmem, fun flight other hkey ↦ hkey, h.stored key entry hlookup⟩
  | none =>
    dsimp only
    split
    · have hretain := h.retain (·.canonicalDir ≠ key.canonicalDir)
      exact ⟨hretain.join key, fun flight other hkey ↦ FlightCache.flightKey_join hkey,
        hretain.isFound_join key⟩
    · exact ⟨h.join key, fun flight other hkey ↦ FlightCache.flightKey_join hkey,
        h.isFound_join key⟩

/-- Completing a key with a good result keeps the memo sound. -/
private theorem complete_sound (h : memo.IsSound capacity Stored Settled) {key : ArchiveMemoKeyV1}
    {result : ArchiveVerification}
    (hstored : ∀ report, result = .ok report → report.verified = true → Stored key report) :
    (memo.complete capacity key result).IsSound capacity Stored Settled := by
  unfold MemoStateV1.complete
  cases result with
  | error e => exact h.leave key
  | ok report =>
    dsimp only
    split
    · next hverified => exact (h.leave key).insert (hstored report rfl hverified)
    · exact h.leave key

private theorem flightKey_complete (memo : MemoStateV1) (capacity : Nat) (key : ArchiveMemoKeyV1)
    (result : ArchiveVerification) (flight : Nat) :
    (memo.complete capacity key result).flightKey flight = memo.flightKey flight := by
  unfold MemoStateV1.complete
  cases result with
  | error e => rfl
  | ok report =>
    dsimp only
    split
    · rfl
    · rfl

end

/-! ### Calls keep the invariant -/

/-- A call of the memo goes on with what it finds, whatever the others do meanwhile. -/
def MemoKeeps (crate : TriptychCrate) (provider : HashProvider) (nfc : List Char → List Char)
    (capacity tag : Nat) {β : Type} (Q : β → MemoStateV1 × MemoLog → Prop) :
    Program MemoOp.Response β → MemoStateV1 × MemoLog → Prop :=
  (memoSystem capacity).Keeps (fun _ _ _ _ ↦ True) (MemoKept crate provider nfc capacity)
    FlightCache.Grows tag Q

/-- The identity was established, and the value is a result for its hash. -/
def IsAnswerFor (crate : TriptychCrate) (provider : HashProvider) (nfc : List Char → List Char)
    (established : EstablishedIdentityV1) (value : ArchiveVerification)
    (world : MemoStateV1 × MemoLog) : Prop :=
  established ∈ establishedIn provider world.2 ∧
    IsFinished crate provider nfc world.2 established.archiveHash value

private theorem isAnswerFor_finish {established : EstablishedIdentityV1}
    {world : MemoStateV1 × MemoLog} (h : established ∈ establishedIn provider world.2) :
    IsAnswerFor crate provider nfc established (finishVerification crate provider nfc established)
      world :=
  ⟨h, established, h, rfl, rfl⟩

private theorem establishedIn_grows {before after : MemoStateV1 × MemoLog}
    {established : EstablishedIdentityV1} (h : established ∈ establishedIn provider before.2)
    (hgrows : FlightCache.Grows before after) : established ∈ establishedIn provider after.2 := by
  obtain ⟨events, hevents⟩ := hgrows.1
  rw [← hevents]
  exact establishedIn_append h events

private theorem IsAnswerFor.grows {before after : MemoStateV1 × MemoLog}
    {established : EstablishedIdentityV1} {value : ArchiveVerification}
    (h : IsAnswerFor crate provider nfc established value before)
    (hgrows : FlightCache.Grows before after) :
    IsAnswerFor crate provider nfc established value after := by
  obtain ⟨events, hevents⟩ := hgrows.1
  rw [IsAnswerFor, ← hevents]
  exact ⟨establishedIn_append h.1 events, h.2.append events⟩

/-- One step of a call: it leaves the memo sound and the keys of flights as they are, and the call
goes on. -/
private theorem keeps_act {capacity tag : Nat} {β : Type} {Q : β → MemoStateV1 × MemoLog → Prop}
    {op : MemoOp} {next : op.Response → Program MemoOp.Response β} {world : MemoStateV1 × MemoLog}
    (h : ∀ memo log view, FlightCache.Grows world (memo, log) →
      MemoKept crate provider nfc capacity memo log →
      (memoSystem capacity).ready tag op memo = true →
      ∀ response memo', (memoSystem capacity).exec tag op view memo = (response, memo') →
        memo'.IsSound capacity (IsStorable crate provider nfc log)
          (fun key ↦ IsFinished crate provider nfc log key.archiveHash) ∧
        (∀ flight key, memo.flightKey flight = some key → memo'.flightKey flight = some key) ∧
        (FlightCache.Grows world (memo', log ++ [Event.performed tag ⟨op, response⟩]) →
          MemoKeeps crate provider nfc capacity tag Q (next response)
            (memo', log ++ [Event.performed tag ⟨op, response⟩]))) :
    MemoKeeps crate provider nfc capacity tag Q (.act op next) world := by
  refine System.Keeps.act (G := FlightCache.Grows) (fun a b c hab hbc ↦ hab.trans hbc) ?_
  intro memo log view response memo' hexec hgrows hkept hready _
  obtain ⟨hsound, hkeys, hnext⟩ := h memo log view hgrows hkept hready response memo' hexec
  exact ⟨hkept.performed hsound _ _, ⟨List.prefix_append log _, hkeys⟩, hnext⟩

-- The owner of a flight: what it stores and settles is the result for the identity it read.
private theorem keeps_publishCompletion {capacity tag flight : Nat} {canonicalDir : Text}
    {established : EstablishedIdentityV1} {world : MemoStateV1 × MemoLog}
    (hmem : established ∈ establishedIn provider world.2)
    (hflight : world.1.flightKey flight = some ⟨canonicalDir, established.archiveHash⟩) :
    MemoKeeps crate provider nfc capacity tag (IsAnswerFor crate provider nfc established)
      (publishCompletion ⟨canonicalDir, established.archiveHash⟩ flight
        (finishVerification crate provider nfc established)) world := by
  have hanswer : IsAnswerFor crate provider nfc established
      (finishVerification crate provider nfc established) world := isAnswerFor_finish hmem
  apply keeps_act
  intro memo log view hgrows hkept _ response memo' hexec
  cases hexec
  refine ⟨complete_sound hkept.sound ?_, ?_, fun hcompleted ↦ keeps_act ?_⟩
  · intro report hreport hverified
    have hfinished := (hanswer.grows hgrows).2
    rw [hreport] at hfinished
    exact ⟨hverified, hfinished⟩
  · intro other key hkey
    rw [← hkey]
    exact flightKey_complete memo capacity _ _ other
  intro memo' log' view' hgrows' hkept' _ response' memo'' hexec'
  cases hexec'
  have hworld := hcompleted.trans hgrows'
  refine ⟨?_, ?_, fun hsettled ↦ hanswer.grows (hcompleted.trans hsettled)⟩
  · exact hkept'.sound.settle (hworld.2 flight _ hflight) (hanswer.grows hworld).2
  · intro other key hkey
    rw [← hkey]
    exact FlightCache.flightKey_settle memo' flight other _

-- Whatever is found, the flight began for this key, so its outcome is a result for the hash.
private theorem keeps_goOnWith {capacity tag : Nat} {canonicalDir : Text}
    {established : EstablishedIdentityV1} {world : MemoStateV1 × MemoLog}
    {found : FlightCache.Found ArchiveDirectoryVerificationV1}
    (hmem : established ∈ establishedIn provider world.2)
    (hfound : FlightCache.IsFound (IsStorable crate provider nfc world.2) world.1
      ⟨canonicalDir, established.archiveHash⟩ found) :
    MemoKeeps crate provider nfc capacity tag (IsAnswerFor crate provider nfc established)
      (goOnWith crate provider nfc ⟨canonicalDir, established.archiveHash⟩ established found)
      world := by
  cases found with
  | hit entry => exact ⟨hmem, hfound.2⟩
  | own flight => exact keeps_publishCompletion hmem hfound
  | wait flight =>
    apply keeps_act
    intro memo log view hgrows hkept hready response memo' hexec
    obtain ⟨outcome, houtcome⟩ := Option.isSome_iff_exists.mp hready
    have hresponse : (response, memo') = (outcome, memo) := by
      rw [← hexec]
      show ((memo.outcome flight).getD (.error .ioFailure), memo) = (outcome, memo)
      rw [houtcome]
      rfl
    cases hresponse
    have hfinished := hkept.sound.settled_of_outcome (hgrows.2 flight _ hfound) houtcome
    refine ⟨hkept.sound, fun _ _ h ↦ h, fun hgrown ↦ ?_⟩
    exact ⟨establishedIn_grows hmem hgrown, hfinished.append _⟩

private theorem keeps_getOrFinish {capacity tag : Nat} {canonicalDir : Text}
    {established : EstablishedIdentityV1} {world : MemoStateV1 × MemoLog}
    (hmem : established ∈ establishedIn provider world.2) :
    MemoKeeps crate provider nfc capacity tag (IsAnswerFor crate provider nfc established)
      (getOrFinish crate provider nfc ⟨canonicalDir, established.archiveHash⟩ established)
      world := by
  apply keeps_act
  intro memo log view hgrows hkept _ response memo' hexec
  have hfind : MemoStateV1.find memo ⟨canonicalDir, established.archiveHash⟩ = (response, memo') :=
    hexec
  obtain ⟨hsound, hkeys, hfound⟩ :=
    find_sound hkept.sound ⟨canonicalDir, established.archiveHash⟩
  rw [hfind] at hsound hkeys hfound
  refine ⟨hsound, hkeys, fun hgrown ↦ ?_⟩
  apply keeps_goOnWith (establishedIn_grows hmem hgrown)
  apply hfound.mono
  intro key report hreport
  exact ⟨hreport.1, hreport.2.append _⟩

private theorem keeps_verifyRead {capacity tag : Nat} {reads : ArchiveReads}
    {world : MemoStateV1 × MemoLog}
    (hread : ∀ established, establishIdentityAndCatalog provider reads = .ok established →
      established ∈ establishedIn provider world.2) :
    MemoKeeps crate provider nfc capacity tag
      (System.Returns (MemoKept crate provider nfc capacity) FlightCache.Grows tag)
      (verifyRead crate provider nfc reads) world := by
  unfold verifyRead
  cases hreads : establishIdentityAndCatalog provider reads with
  | error stop =>
    intro memo log hgrows hkept
    apply hkept.returned
    rw [IsAnswered, hreads]
  | ok established =>
    apply keeps_act
    intro memo log view hgrows hkept _ response memo' hexec
    cases hexec
    refine ⟨hkept.sound, fun _ _ h ↦ h, fun hgrown ↦ ?_⟩
    apply System.Keeps.bind
    apply (keeps_getOrFinish (establishedIn_grows (hread established hreads) hgrown)).mono
    intro value world hanswer memo' log' hgrows' hkept'
    apply hkept'.returned
    rw [IsAnswered, hreads]
    exact hanswer.grows hgrows'

/-- A call of the memo keeps the invariant. -/
private theorem keeps_memoVerify {capacity tag : Nat} {world : MemoStateV1 × MemoLog} :
    MemoKeeps crate provider nfc capacity tag
      (System.Returns (MemoKept crate provider nfc capacity) FlightCache.Grows tag)
      (memoVerify crate provider nfc) world := by
  apply keeps_act
  intro memo log view hgrows hkept _ response memo' hexec
  cases hexec
  refine ⟨hkept.sound, fun _ _ h ↦ h, fun hgrown ↦ ?_⟩
  apply keeps_verifyRead
  intro established hestablished
  rw [establishedIn, List.filterMap_append]
  apply List.mem_append_right
  simp [hestablished, Except.toOption]

/-- A run of the memo keeps the invariant. -/
private theorem memoKept_of_run {capacity : Nat} {config : Config _ _ _ _}
    (run : (memoSystem capacity).Run (fun _ program ↦ program = memoVerify crate provider nfc)
      (fun _ _ _ _ ↦ True) FlightCache.empty config) :
    MemoKept crate provider nfc capacity config.state config.log := by
  apply run.keeps (G := FlightCache.Grows)
  · exact FlightCache.Grows.refl
  · intro a b c
    exact FlightCache.Grows.trans
  · refine ⟨FlightCache.isSound_empty, ?_⟩
    intro tag reads value hmem
    cases hmem
  · intro tag program hprogram memo log _
    rw [hprogram]
    exact keeps_memoVerify
  · intro tag value memo log
    exact ⟨List.prefix_append log _, fun _ _ h ↦ h⟩
  · intro tag next memo log hkept
    exact ⟨hkept, FlightCache.Grows.refl _⟩

/-- The memo is transparent: in every state of every run, what calls returned is what verifying
their own reads returns, only verified reports are stored, no more of them than the capacity, and
the queue lists the stored keys, each once. -/
theorem memoVerify_transparent {capacity : Nat} {config : Config _ _ _ _}
    (run : (memoSystem (memoCapacity capacity)).Run
      (fun _ program ↦ program = memoVerify crate provider nfc) (fun _ _ _ _ ↦ True)
      FlightCache.empty config)
    (hapart : HashesApart provider config.log) :
    (∀ tag reads value, .returned tag (reads, value) ∈ config.log →
      value = verifyReads crate provider nfc reads) ∧
    (∀ key report, config.state.entries.lookup key = some report → report.verified = true) ∧
    config.state.entries.keys.length ≤ memoCapacity capacity ∧
    config.state.recency.Nodup ∧
    ∀ key, key ∈ config.state.recency ↔ key ∈ config.state.entries := by
  have hkept := memoKept_of_run run
  refine ⟨?_, ?_, hkept.sound.length_le, hkept.sound.recency_nodup, hkept.sound.mem_recency⟩
  · intro tag reads value hmem
    have hanswer := hkept.answered tag reads value hmem
    unfold IsAnswered at hanswer
    unfold verifyReads
    split at hanswer
    · next stop hstop =>
      rw [hstop]
      exact hanswer
    · next established hestablished =>
      obtain ⟨hmem, finished, hfinished, hhash, hvalue⟩ := hanswer
      rw [hestablished, hvalue, eq_of_archiveHash_eq hapart hfinished hmem hhash]
  · intro key report hlookup
    exact (hkept.sound.stored key report hlookup).1

end

namespace Sample

/-- The sample archive, as calls see it. -/
def view : DirectoryView := ⟨.ofEntries entries, .lit "/archive"⟩

/-- Two calls at once: the first owns the flight, the second waits for it. -/
def twoCalls : List (Choice MemoOp.Response (ArchiveReads × ArchiveVerification) DirectoryView Unit
    Nat) :=
  [Choice.start 0 (memoVerify Verifier.Sample.crate Verifier.Sample.provider id),
    Choice.start 1 (memoVerify Verifier.Sample.crate Verifier.Sample.provider id)] ++
  [0, 1, 0, 1, 0, 1, 0, 0, 1, 0, 0].map fun thread ↦ Choice.advance thread view

/-- The reports that were returned. -/
def returnedVerified (log : MemoLog) : List Bool :=
  log.filterMap fun event ↦ match event with
    | .returned _ (_, .ok report) => some report.verified
    | _ => none

end Sample

/-- Both calls return the verified report of the sample archive, and it is stored. -/
theorem memoVerify_transparent_sample :
    ∃ config, (memoSystem (memoCapacity archiveVerificationMemoCapacityV1)).steps
        (fun _ _ _ _ ↦ true) ⟨FlightCache.empty, [], []⟩ Sample.twoCalls = some config ∧
      HashesApart Verifier.Sample.provider config.log ∧
      Sample.returnedVerified config.log = [true, true] ∧
      config.state.entries.keys.length = 1 ∧
      ∀ tag reads value, .returned tag (reads, value) ∈ config.log →
        value = verifyReads Verifier.Sample.crate Verifier.Sample.provider id reads := by
  have hcheck : ((memoSystem (memoCapacity archiveVerificationMemoCapacityV1)).steps
      (fun _ _ _ _ ↦ true) ⟨FlightCache.empty, [], []⟩ Sample.twoCalls).map
        (fun config ↦ (decide (HashesApart Verifier.Sample.provider config.log),
          Sample.returnedVerified config.log, config.state.entries.keys.length)) =
      some (true, [true, true], 1) := by
    decide +kernel
  obtain ⟨config, hsteps, hfacts⟩ := Option.map_eq_some_iff.mp hcheck
  simp only [Prod.mk.injEq, decide_eq_true_eq] at hfacts
  obtain ⟨hapart, hreturned, hstored⟩ := hfacts
  have run : (memoSystem (memoCapacity archiveVerificationMemoCapacityV1)).Run
      (fun _ program ↦ program = memoVerify Verifier.Sample.crate Verifier.Sample.provider id)
      (fun _ _ _ _ ↦ True) FlightCache.empty config := by
    refine System.Run.initial.steps ?_ (fun _ _ _ _ _ ↦ trivial) hsteps
    intro tag program hmem
    rcases List.mem_append.mp hmem with hstart | hadvance
    · simp only [List.mem_cons, Choice.start.injEq, List.not_mem_nil, or_false] at hstart
      rcases hstart with ⟨-, hprogram⟩ | ⟨-, hprogram⟩
      · exact hprogram
      · exact hprogram
    · obtain ⟨thread, -, heq⟩ := List.mem_map.mp hadvance
      cases heq
  exact ⟨config, hsteps, hapart, hreturned, hstored, (memoVerify_transparent run hapart).1⟩

end PrivateBallot.Archive
