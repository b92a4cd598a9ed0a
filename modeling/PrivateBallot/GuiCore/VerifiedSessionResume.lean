import PrivateBallot.GuiCore.VerifiedSessionCache

/-!
# Resuming through the verified-session cache

Library `GuiCore`. In every run of resumes, advances and invalidations, over a disk that changes
between any two loads, what the cache holds and what a resume returns is the reconstruction of a
head that was read. The digest of a revision stands for its payload, so payloads that were read
must not collide.
-/

namespace PrivateBallot.GuiCore

open PrivateBallot.Base
open PrivateBallot.Protocol
open PrivateBallot.Ballot
open PrivateBallot.Crypto

/-! ### Collisions -/

abbrev CacheLog := List (Event CacheOp.Response CacheReturn Nat)

/-- The heads that the calls of a log have read. -/
def headsIn (platform : Platform) (log : CacheLog) : List CommittedRevision :=
  log.filterMap fun event ↦ match event with
    | .performed _ ⟨.loadHead workspaceId, disk⟩ =>
      (newestIn platform workspaceId disk).toOption.join
    | _ => none

/-- The payloads of the revision files that the calls of a log have seen. -/
def payloadsSeen (log : CacheLog) : List Bytes :=
  log.flatMap fun event ↦ match event with
    | .performed _ ⟨.loadHead workspaceId, .ok disk⟩ =>
      (World.revisionFiles disk workspaceId).entries.map (·.2)
    | _ => []

/-- The payloads seen have digests of their own. -/
def DigestsApart (platform : Platform) (log : CacheLog) : Prop :=
  ∀ p ∈ payloadsSeen log, ∀ q ∈ payloadsSeen log,
    revisionDigestHex platform p = revisionDigestHex platform q → p = q

instance (platform : Platform) (log : CacheLog) : Decidable (DigestsApart platform log) :=
  inferInstanceAs (Decidable (∀ p ∈ payloadsSeen log, ∀ q ∈ payloadsSeen log, _))

section

variable {prims : Primitives} {platform : Platform} {log : CacheLog}

private theorem newestIn_eq_ok {workspaceId : Text} {disk : GuiResult Disk}
    {head : CommittedRevision} (h : newestIn platform workspaceId disk = .ok (some head)) :
    ∃ seen, disk = .ok seen ∧
      loadNewestCommittedWorkspace platform seen workspaceId = .ok (some head) :=
  bind_eq_ok.mp h

private theorem mem_headsIn_concat (tag : Nat) {workspaceId : Text} {disk : GuiResult Disk}
    {head : CommittedRevision} (h : newestIn platform workspaceId disk = .ok (some head)) :
    head ∈ headsIn platform (log ++ [Event.performed tag ⟨.loadHead workspaceId, disk⟩]) := by
  rw [headsIn, List.filterMap_append]
  apply List.mem_append_right
  simp [h, Except.toOption]

private theorem headsIn_append {head : CommittedRevision} (h : head ∈ headsIn platform log)
    (events : CacheLog) : head ∈ headsIn platform (log ++ events) := by
  rw [headsIn, List.filterMap_append]
  exact List.mem_append_left _ h

-- A head that was read was decoded from a revision file with its digest.
private theorem payload_of_mem_headsIn {head : CommittedRevision}
    (h : head ∈ headsIn platform log) :
    ∃ payload ∈ payloadsSeen log, revisionDigestHex platform payload = head.digestHex ∧
      decodeWorkspace payload = .ok head.record := by
  obtain ⟨event, hevent, hhead⟩ := List.mem_filterMap.mp h
  split at hhead
  · next tag workspaceId disk =>
    cases hnewest : newestIn platform workspaceId disk with
    | error e => simp [hnewest, Except.toOption] at hhead
    | ok newest =>
      simp only [hnewest, Except.toOption, Option.join_some] at hhead
      subst hhead
      obtain ⟨seen, rfl, hload⟩ := newestIn_eq_ok hnewest
      obtain ⟨history, hhistory, hlast⟩ := bind_eq_ok.mp hload
      have hmem : head ∈ history := List.mem_of_getLast? (Except.ok.inj hlast)
      obtain ⟨name, payload, hlookup, hdigest, hdecode⟩ :=
        storedAs_of_loadCommittedHistory hhistory head hmem
      refine ⟨payload, List.mem_flatMap.mpr ⟨_, hevent, ?_⟩, hdigest, hdecode⟩
      exact List.mem_map_of_mem (AList.mem_lookup_iff.mp hlookup)
  · cases hhead

/-- Without collisions, the key of a head determines its record. -/
private theorem record_eq_of_keyOf_eq (hapart : DigestsApart platform log)
    {a b : CommittedRevision} (ha : a ∈ headsIn platform log) (hb : b ∈ headsIn platform log)
    (hkey : keyOf a = keyOf b) : a.record = b.record := by
  obtain ⟨payloadA, hseenA, hdigestA, hdecodeA⟩ := payload_of_mem_headsIn ha
  obtain ⟨payloadB, hseenB, hdigestB, hdecodeB⟩ := payload_of_mem_headsIn hb
  have hdigest : a.digestHex = b.digestHex :=
    congrArg VerifiedSessionKeyV1.headRevisionDigestHex hkey
  have hpayload : payloadA = payloadB := by
    apply hapart payloadA hseenA payloadB hseenB
    rw [hdigestA, hdigestB, hdigest]
  rw [hpayload, hdecodeB] at hdecodeA
  exact (Except.ok.inj hdecodeA).symm

/-! ### The invariant -/

/-- The session is the reconstruction of a head with this key, up to the process-local validation
cache. -/
def IsRebuilt (prims : Primitives) (platform : Platform) (log : CacheLog)
    (key : VerifiedSessionKeyV1) (session : GuiElectionSessionV1) : Prop :=
  ∃ head ∈ headsIn platform log, ∃ snapshot, keyOf head = key ∧
    head.record.body = .session snapshot ∧
    GuiElectionSessionV1.fromDurableSnapshot prims snapshot = .ok session.withoutCache

/-- A session in the result is the reconstruction of a head with this key. -/
def EndsRebuilt (prims : Primitives) (platform : Platform) (log : CacheLog)
    (key : VerifiedSessionKeyV1) (result : GuiResult GuiElectionSessionV1) : Prop :=
  ∀ session, result = .ok session → IsRebuilt prims platform log key session

/-- A session that is returned is the reconstruction of the head returned with it. -/
def IsTruthful (prims : Primitives) (platform : Platform) (log : CacheLog) : CacheReturn → Prop
  | .resumed (.ok (.session head session)) =>
    head ∈ headsIn platform log ∧ IsRebuilt prims platform log (keyOf head) session
  | _ => True

/-- The cache is sound, for reconstructions, and what was returned is truthful. -/
structure CacheKept (prims : Primitives) (platform : Platform) (capacity : Nat)
    (cache : CacheStateV1) (log : CacheLog) : Prop where
  sound : cache.IsSound capacity (IsRebuilt prims platform log) (EndsRebuilt prims platform log)
  truthful : ∀ tag value, .returned tag value ∈ log → IsTruthful prims platform log value

private theorem IsRebuilt.append {key : VerifiedSessionKeyV1} {session : GuiElectionSessionV1}
    (h : IsRebuilt prims platform log key session) (events : CacheLog) :
    IsRebuilt prims platform (log ++ events) key session := by
  obtain ⟨head, hhead, hrest⟩ := h
  exact ⟨head, headsIn_append hhead events, hrest⟩

private theorem EndsRebuilt.append {key : VerifiedSessionKeyV1}
    {result : GuiResult GuiElectionSessionV1} (h : EndsRebuilt prims platform log key result)
    (events : CacheLog) : EndsRebuilt prims platform (log ++ events) key result := by
  intro session hsession
  exact (h session hsession).append events

private theorem IsTruthful.append {value : CacheReturn} (h : IsTruthful prims platform log value)
    (events : CacheLog) : IsTruthful prims platform (log ++ events) value := by
  match value, h with
  | .resumed (.ok (.session head session)), h =>
      exact ⟨headsIn_append h.1 events, h.2.append events⟩
  | .resumed (.ok (.draft _)), _ => trivial
  | .resumed (.error _), _ => trivial
  | .advanced _, _ => trivial
  | .invalidated, _ => trivial

private theorem EndsRebuilt.grows {before after : CacheStateV1 × CacheLog}
    {key : VerifiedSessionKeyV1} {result : GuiResult GuiElectionSessionV1}
    (h : EndsRebuilt prims platform before.2 key result) (hgrows : FlightCache.Grows before after) :
    EndsRebuilt prims platform after.2 key result := by
  obtain ⟨events, hevents⟩ := hgrows.1
  rw [← hevents]
  exact h.append events

/-- A step that leaves the cache sound keeps the invariant. -/
private theorem CacheKept.performed {capacity : Nat} {cache cache' : CacheStateV1}
    (h : CacheKept prims platform capacity cache log)
    (hsound : cache'.IsSound capacity (IsRebuilt prims platform log)
      (EndsRebuilt prims platform log))
    (tag : Nat) (operation : Sigma CacheOp.Response) :
    CacheKept prims platform capacity cache' (log ++ [Event.performed tag operation]) := by
  constructor
  · apply hsound.mono
    · intro key session hsession
      exact hsession.append _
    · intro key result hresult
      exact hresult.append _
  · intro other value hmem
    rcases List.mem_append.mp hmem with hold | hnew
    · exact (h.truthful other value hold).append _
    · cases List.mem_singleton.mp hnew

/-- A truthful return keeps the invariant. -/
private theorem CacheKept.returned {capacity : Nat} {cache : CacheStateV1}
    (h : CacheKept prims platform capacity cache log) {value : CacheReturn}
    (hvalue : IsTruthful prims platform log value) (tag : Nat) :
    CacheKept prims platform capacity cache (log ++ [Event.returned tag value]) := by
  constructor
  · apply h.sound.mono
    · intro key session hsession
      exact hsession.append _
    · intro key result hresult
      exact hresult.append _
  · intro other otherValue hmem
    rcases List.mem_append.mp hmem with hold | hnew
    · exact (h.truthful other otherValue hold).append _
    · cases List.mem_singleton.mp hnew
      exact hvalue.append _

/-! ### Steps -/

section

variable {capacity : Nat} {cache : CacheStateV1}
  {Stored : VerifiedSessionKeyV1 → GuiElectionSessionV1 → Prop}
  {Settled : VerifiedSessionKeyV1 → GuiResult GuiElectionSessionV1 → Prop}

/-- Looking a key up keeps the cache sound and the keys of flights, and finds what is good. -/
private theorem getOrJoin_sound (h : cache.IsSound capacity Stored Settled)
    (key : VerifiedSessionKeyV1) :
    (cache.getOrJoin key).2.IsSound capacity Stored Settled ∧
      (∀ flight other, cache.flightKey flight = some other →
        (cache.getOrJoin key).2.flightKey flight = some other) ∧
      FlightCache.IsFound Stored (cache.getOrJoin key).2 key (cache.getOrJoin key).1 := by
  unfold CacheStateV1.getOrJoin
  cases hlookup : cache.entries.lookup key with
  | some entry =>
    have hmem : key ∈ cache.entries := by
      rw [← AList.lookup_isSome, hlookup]
      rfl
    exact ⟨h.touch hmem, fun flight other hkey ↦ hkey, h.stored key entry hlookup⟩
  | none =>
    exact ⟨h.join key, fun flight other hkey ↦ FlightCache.flightKey_join hkey, h.isFound_join key⟩

/-- Completing a key with a good result keeps the cache sound. -/
private theorem complete_isSound (h : cache.IsSound capacity Stored Settled)
    {key : VerifiedSessionKeyV1} {result : GuiResult GuiElectionSessionV1}
    (hstored : ∀ session, result = .ok session → Stored key session) :
    (cache.complete capacity key result).IsSound capacity Stored Settled := by
  cases result with
  | error e => exact h.leave key
  | ok session => exact (h.leave key).insert (hstored session rfl)

private theorem flightKey_completeSession (cache : CacheStateV1) (capacity : Nat)
    (key : VerifiedSessionKeyV1) (result : GuiResult GuiElectionSessionV1) (flight : Nat) :
    (cache.complete capacity key result).flightKey flight = cache.flightKey flight := by
  cases result with
  | error e => rfl
  | ok session => rfl

/-- Invalidation keeps the cache sound: where no entry went, the queue names no key of the
workspace. -/
private theorem invalidateWorkspace_sound (h : cache.IsSound capacity Stored Settled)
    (workspaceId : Text) :
    (cache.invalidateWorkspace workspaceId).IsSound capacity Stored Settled := by
  have hretain := h.retain (·.workspaceId ≠ workspaceId)
  unfold CacheStateV1.invalidateWorkspace
  dsimp only
  split
  · exact hretain
  · next hlength =>
    have hrecency := h.recency_retain (not_not.mp hlength)
    rw [← hrecency]
    exact hretain

end

/-- The flights that others wait for are not touched by an invalidation. -/
private theorem flightKey_invalidateWorkspace (cache : CacheStateV1) (workspaceId : Text)
    (flight : Nat) : (cache.invalidateWorkspace workspaceId).flightKey flight =
      cache.flightKey flight := by
  unfold CacheStateV1.invalidateWorkspace
  dsimp only
  split
  · rfl
  · rfl

/-! ### Calls keep the invariant -/

/-- A call of the cache goes on with what it finds, whatever the others do meanwhile. -/
def CacheKeeps (prims : Primitives) (platform : Platform) (capacity tag : Nat) {β : Type}
    (Q : β → CacheStateV1 × CacheLog → Prop) :
    Program CacheOp.Response β → CacheStateV1 × CacheLog → Prop :=
  (cacheSystem prims capacity).Keeps
    (fun tag op signal cache ↦ isJoined tag op signal cache = true)
    (CacheKept prims platform capacity) FlightCache.Grows tag Q

/-- What a call has to end in. -/
def CacheReturns (prims : Primitives) (platform : Platform) (capacity tag : Nat) :
    CacheReturn → CacheStateV1 × CacheLog → Prop :=
  System.Returns (CacheKept prims platform capacity) FlightCache.Grows tag

variable {capacity tag : Nat} {world : CacheStateV1 × CacheLog}

/-- One step of a call: it leaves the cache sound and the keys of flights as they are, and the
call goes on. -/
private theorem cacheKeeps_act {β : Type} {Q : β → CacheStateV1 × CacheLog → Prop} {op : CacheOp}
    {next : op.Response → Program CacheOp.Response β}
    (h : ∀ cache log signal response cache',
      (cacheSystem prims capacity).exec tag op signal cache = (response, cache') →
      FlightCache.Grows world (cache, log) → CacheKept prims platform capacity cache log →
      (cacheSystem prims capacity).ready tag op cache = true →
      isJoined tag op signal cache = true →
      cache'.IsSound capacity (IsRebuilt prims platform log) (EndsRebuilt prims platform log) ∧
        (∀ flight key, cache.flightKey flight = some key → cache'.flightKey flight = some key) ∧
        (FlightCache.Grows world (cache', log ++ [Event.performed tag ⟨op, response⟩]) →
          CacheKeeps prims platform capacity tag Q (next response)
            (cache', log ++ [Event.performed tag ⟨op, response⟩]))) :
    CacheKeeps prims platform capacity tag Q (.act op next) world := by
  refine System.Keeps.act (G := FlightCache.Grows) (fun a b c hab hbc ↦ hab.trans hbc) ?_
  intro cache log signal response cache' hexec hgrows hkept hready hjoined
  obtain ⟨hsound, hkeys, hnext⟩ :=
    h cache log signal response cache' hexec hgrows hkept hready hjoined
  exact ⟨hkept.performed hsound _ _, ⟨List.prefix_append log _, hkeys⟩, hnext⟩

/-- A value that says nothing about a session may be returned. -/
private theorem cacheReturns_of_isTruthful {value : CacheReturn}
    (h : IsTruthful prims platform world.2 value) :
    CacheReturns prims platform capacity tag value world := by
  intro cache log hgrows hkept
  apply hkept.returned
  obtain ⟨events, hevents⟩ := hgrows.1
  have hlog : log = world.2 ++ events := hevents.symm
  rw [hlog]
  exact h.append events

-- A load changes nothing in the cache.
private theorem cacheKeeps_loadHead {β : Type} {Q : β → CacheStateV1 × CacheLog → Prop}
    {workspaceId : Text} {next : GuiResult Disk → Program CacheOp.Response β}
    (h : ∀ cache log disk,
      FlightCache.Grows world (cache, log ++ [Event.performed tag ⟨.loadHead workspaceId, disk⟩]) →
      CacheKeeps prims platform capacity tag Q (next disk)
        (cache, log ++ [Event.performed tag ⟨.loadHead workspaceId, disk⟩])) :
    CacheKeeps prims platform capacity tag Q (.act (.loadHead workspaceId) next) world := by
  apply cacheKeeps_act
  intro cache log signal response cache' hexec hgrows hkept _ _
  cases hexec
  exact ⟨hkept.sound, fun _ _ hkey ↦ hkey, h cache log signal.disk⟩

private theorem keeps_publishSession {key : VerifiedSessionKeyV1} {flight : Nat}
    {result : GuiResult GuiElectionSessionV1}
    (hresult : EndsRebuilt prims platform world.2 key result)
    (hflight : world.1.flightKey flight = some key) :
    CacheKeeps prims platform capacity tag
      (fun result world ↦ EndsRebuilt prims platform world.2 key result)
      (publishSession key flight result) world := by
  apply cacheKeeps_act
  intro cache log signal response cache' hexec hgrows hkept _ _
  cases hexec
  refine ⟨complete_isSound hkept.sound (hresult.grows hgrows), ?_, fun hcompleted ↦ ?_⟩
  · intro other otherKey hkey
    rw [← hkey]
    exact flightKey_completeSession cache capacity key result other
  apply cacheKeeps_act
  intro cache' log' signal' response' cache'' hexec' hgrows' hkept' _ _
  cases hexec'
  have hworld := hcompleted.trans hgrows'
  refine ⟨?_, ?_, fun hsettled ↦ hresult.grows (hcompleted.trans hsettled)⟩
  · exact hkept'.sound.settle (hworld.2 flight key hflight) (hresult.grows hworld)
  · intro other otherKey hkey
    rw [← hkey]
    exact FlightCache.flightKey_settle cache' flight other result

private theorem keeps_recheckAndPublish {workspaceId : Text} {key : VerifiedSessionKeyV1}
    {flight : Nat} {result : GuiResult GuiElectionSessionV1}
    (hresult : EndsRebuilt prims platform world.2 key result)
    (hflight : world.1.flightKey flight = some key) :
    CacheKeeps prims platform capacity tag
      (fun result world ↦ EndsRebuilt prims platform world.2 key result)
      (recheckAndPublish platform workspaceId key flight result) world := by
  cases result with
  | error e => exact keeps_publishSession hresult hflight
  | ok session =>
    apply cacheKeeps_loadHead
    intro cache log disk hgrows
    apply keeps_publishSession _ (hgrows.2 flight key hflight)
    intro other hother
    cases hobserve : observe platform workspaceId key disk with
    | error e =>
      rw [hobserve] at hother
      cases hother
    | ok observed =>
      rw [hobserve] at hother
      cases hother
      exact hresult.grows hgrows session rfl

/-- A head with this key and this session in it has been read. -/
def HasRead (platform : Platform) (log : CacheLog) (key : VerifiedSessionKeyV1)
    (snapshot : GuiElectionSessionSnapshotV1) : Prop :=
  ∃ head ∈ headsIn platform log, keyOf head = key ∧ head.record.body = .session snapshot

private theorem HasRead.append {key : VerifiedSessionKeyV1}
    {snapshot : GuiElectionSessionSnapshotV1}
    (h : HasRead platform log key snapshot) (events : CacheLog) :
    HasRead platform (log ++ events) key snapshot := by
  obtain ⟨head, hhead, hrest⟩ := h
  exact ⟨head, headsIn_append hhead events, hrest⟩

private theorem HasRead.grows {before after : CacheStateV1 × CacheLog} {key : VerifiedSessionKeyV1}
    {snapshot : GuiElectionSessionSnapshotV1} (h : HasRead platform before.2 key snapshot)
    (hgrows : FlightCache.Grows before after) : HasRead platform after.2 key snapshot := by
  obtain ⟨events, hevents⟩ := hgrows.1
  rw [← hevents]
  exact h.append events

private theorem HasRead.isRebuilt {key : VerifiedSessionKeyV1}
    {snapshot : GuiElectionSessionSnapshotV1} {session : GuiElectionSessionV1}
    (h : HasRead platform log key snapshot)
    (hsession : GuiElectionSessionV1.fromDurableSnapshot prims snapshot =
      .ok session.withoutCache) : IsRebuilt prims platform log key session := by
  obtain ⟨head, hhead, hkey, hbody⟩ := h
  exact ⟨head, hhead, snapshot, hkey, hbody, hsession⟩

/-- What is reconstructed is the serial reconstruction. -/
private theorem reconstructCaught_eq_ok (laws : TriptychBatchLaws prims.crate)
    {snapshot : GuiElectionSessionSnapshotV1} {signal : CacheSignal} {cache : CacheStateV1}
    {session : GuiElectionSessionV1}
    (hjoined : isJoined tag (.reconstruct snapshot) signal cache = true)
    (h : reconstructCaught prims snapshot signal.executor = .ok session) :
    GuiElectionSessionV1.fromDurableSnapshot prims snapshot = .ok session.withoutCache := by
  cases hexecutor : signal.executor with
  | none =>
    rw [hexecutor] at h
    cases h
  | some executor =>
    rw [hexecutor] at h
    have hjoins : GuiElectionSessionV1.joinsFor .default executor snapshot.packages.length =
        true := by
      simpa only [isJoined, hexecutor] using hjoined
    have hrebuilt := GuiElectionSessionV1.fromDurableSnapshot_of_parallel laws hjoins h
    rw [GuiElectionSessionV1.withoutCache_of_fromDurableSnapshot hrebuilt]
    exact hrebuilt

-- Whatever is found, the flight began for this key, so its outcome is good for it.
private theorem keeps_goOnToReconstruct (laws : TriptychBatchLaws prims.crate) {workspaceId : Text}
    {key : VerifiedSessionKeyV1} {snapshot : GuiElectionSessionSnapshotV1}
    {found : FlightCache.Found GuiElectionSessionV1}
    (hread : HasRead platform world.2 key snapshot)
    (hfound : FlightCache.IsFound (IsRebuilt prims platform world.2) world.1 key found) :
    CacheKeeps prims platform capacity tag
      (fun result world ↦ EndsRebuilt prims platform world.2 key result)
      (goOnToReconstruct platform workspaceId key snapshot found) world := by
  cases found with
  | hit session =>
    intro other hother
    cases hother
    exact hfound
  | wait flight =>
    apply cacheKeeps_act
    intro cache log signal response cache' hexec hgrows hkept hready _
    obtain ⟨outcome, houtcome⟩ := Option.isSome_iff_exists.mp hready
    have hresponse : (response, cache') = (outcome, cache) := by
      rw [← hexec]
      show ((cache.outcome flight).getD (.error cacheStatePoisoned), cache) = (outcome, cache)
      rw [houtcome]
      rfl
    cases hresponse
    have hsettled := hkept.sound.settled_of_outcome (hgrows.2 flight key hfound) houtcome
    exact ⟨hkept.sound, fun _ _ hkey ↦ hkey, fun _ ↦ hsettled.append _⟩
  | own flight =>
    apply cacheKeeps_act
    intro cache log signal response cache' hexec hgrows hkept _ hjoined
    cases hexec
    refine ⟨hkept.sound, fun _ _ hkey ↦ hkey, fun hgrown ↦ ?_⟩
    apply keeps_recheckAndPublish _ (hgrown.2 flight key hfound)
    intro session hsession
    exact (hread.grows hgrown).isRebuilt (reconstructCaught_eq_ok laws hjoined hsession)

private theorem keeps_getOrReconstruct (laws : TriptychBatchLaws prims.crate) {workspaceId : Text}
    {key : VerifiedSessionKeyV1} {snapshot : GuiElectionSessionSnapshotV1}
    (hread : HasRead platform world.2 key snapshot) :
    CacheKeeps prims platform capacity tag
      (fun result world ↦ EndsRebuilt prims platform world.2 key result)
      (getOrReconstruct platform workspaceId key snapshot) world := by
  apply cacheKeeps_act
  intro cache log signal response cache' hexec hgrows hkept _ _
  have hfind : CacheStateV1.getOrJoin cache key = (response, cache') := hexec
  obtain ⟨hsound, hkeys, hfound⟩ := getOrJoin_sound hkept.sound key
  rw [hfind] at hsound hkeys hfound
  refine ⟨hsound, hkeys, fun hgrown ↦ ?_⟩
  apply keeps_goOnToReconstruct laws (hread.grows hgrown)
  apply hfound.mono
  intro other session hsession
  exact hsession.append _

/-- The head read at the end has the expected key. -/
private theorem observe_eq_ok {workspaceId : Text} {key : VerifiedSessionKeyV1}
    {disk : GuiResult Disk} {observed : CommittedRevision}
    (h : observe platform workspaceId key disk = .ok observed) :
    newestIn platform workspaceId disk = .ok (some observed) ∧ keyOf observed = key := by
  obtain ⟨newest, hnewest, hrest⟩ := bind_eq_ok.mp h
  cases newest with
  | none => cases hrest
  | some head =>
    obtain ⟨headKey, hheadKey, hend⟩ := bind_eq_ok.mp hrest
    have hkeyOf : headKey = keyOf head := by
      unfold verifiedSessionKeyForCommitted at hheadKey
      split at hheadKey
      · exact (Except.ok.inj hheadKey).symm
      · cases hheadKey
    split at hend
    · cases hend
    · next hsame =>
      cases hend
      exact ⟨hnewest, hkeyOf ▸ not_not.mp hsame⟩

private theorem keeps_resumeVerified {workspaceId : Text} {key : VerifiedSessionKeyV1}
    {result : GuiResult GuiElectionSessionV1}
    (hresult : EndsRebuilt prims platform world.2 key result) :
    CacheKeeps prims platform capacity tag (CacheReturns prims platform capacity tag)
      (resumeVerified prims platform workspaceId key result) world := by
  cases result with
  | error e => exact cacheReturns_of_isTruthful trivial
  | ok session =>
    apply cacheKeeps_loadHead
    intro cache log disk hgrows
    apply cacheReturns_of_isTruthful
    cases hfinish : finishResume prims platform workspaceId key session disk with
    | error e => trivial
    | ok loaded =>
      obtain ⟨observed, hobserve, hrest⟩ := bind_eq_ok.mp hfinish
      obtain ⟨hnewest, hkey⟩ := observe_eq_ok hobserve
      split at hrest
      · cases hrest
      · obtain ⟨artifacts, -, hloaded⟩ := bind_eq_ok.mp hrest
        cases hloaded
        refine ⟨mem_headsIn_concat tag hnewest, ?_⟩
        rw [hkey]
        exact hresult.grows hgrows session rfl

private theorem keeps_resumeHead (laws : TriptychBatchLaws prims.crate) {workspaceId : Text}
    {initial : CommittedRevision} (hinitial : initial ∈ headsIn platform world.2) :
    CacheKeeps prims platform capacity tag (CacheReturns prims platform capacity tag)
      (resumeHead prims platform workspaceId initial) world := by
  unfold resumeHead
  cases hbody : initial.record.body with
  | draft snapshot =>
    apply cacheKeeps_act
    intro cache log signal response cache' hexec hgrows hkept _ _
    cases hexec
    refine ⟨hkept.sound, fun _ _ hkey ↦ hkey, fun _ ↦ ?_⟩
    split
    · exact cacheReturns_of_isTruthful trivial
    · exact cacheReturns_of_isTruthful trivial
  | session snapshot =>
    apply System.Keeps.bind
    apply (keeps_getOrReconstruct laws ⟨initial, hinitial, rfl, hbody⟩).mono
    intro result world hresult
    exact keeps_resumeVerified hresult

private theorem keeps_resume (laws : TriptychBatchLaws prims.crate) (workspaceId : Text) :
    CacheKeeps prims platform capacity tag (CacheReturns prims platform capacity tag)
      (resumeWithVerifiedSessionCache prims platform workspaceId) world := by
  apply cacheKeeps_loadHead
  intro cache log disk hgrows
  split
  · exact cacheReturns_of_isTruthful trivial
  · exact cacheReturns_of_isTruthful trivial
  · next initial hnewest => exact keeps_resumeHead laws (mem_headsIn_concat tag hnewest)

private theorem keeps_invalidate {workspaceId : Text} {value : CacheReturn}
    (h : ∀ log, IsTruthful prims platform log value) :
    CacheKeeps prims platform capacity tag (CacheReturns prims platform capacity tag)
      (.act (.invalidateWorkspace workspaceId) fun _ ↦ .done value) world := by
  apply cacheKeeps_act
  intro cache log signal response cache' hexec hgrows hkept _ _
  cases hexec
  refine ⟨invalidateWorkspace_sound hkept.sound workspaceId, ?_, fun _ ↦ ?_⟩
  · intro flight key hkey
    rw [← hkey]
    exact flightKey_invalidateWorkspace cache workspaceId flight
  · exact cacheReturns_of_isTruthful (h _)

/-- The head that is confirmed was read, and holds the snapshot. -/
private theorem confirmAdvance_eq_some {workspaceId : Text} {expectedNewRevision : Nat}
    {snapshot : GuiElectionSessionSnapshotV1} {disk : GuiResult Disk} {head : CommittedRevision}
    (h : confirmAdvance platform workspaceId expectedNewRevision snapshot disk = some head) :
    newestIn platform workspaceId disk = .ok (some head) ∧
      head.record.body = .session snapshot := by
  unfold confirmAdvance at h
  split at h
  · next newest hnewest =>
    split at h
    · next hconfirmed =>
      cases h
      exact ⟨hnewest, hconfirmed.1⟩
    · cases h
  · cases h

-- The committed snapshot is that of the session, so the session is its reconstruction.
private theorem keeps_advance {workspaceId : Text} {expectedNewRevision : Nat}
    {session : GuiElectionSessionV1} (h : GuiElectionSessionV1.IsReplayed prims session) :
    CacheKeeps prims platform capacity tag (CacheReturns prims platform capacity tag)
      (advanceVerifiedSessionAfterCommit platform workspaceId expectedNewRevision session)
      world := by
  obtain ⟨snapshot, hsnapshot, -, -, hrebuilt⟩ :=
    GuiElectionSessionV1.fromDurableSnapshot_of_isReplayed h
  unfold advanceVerifiedSessionAfterCommit
  rw [hsnapshot]
  apply cacheKeeps_loadHead
  intro cache log disk hgrows
  cases hconfirm : confirmAdvance platform workspaceId expectedNewRevision snapshot disk with
  | none => exact keeps_invalidate fun _ ↦ trivial
  | some head =>
    obtain ⟨hnewest, hbody⟩ := confirmAdvance_eq_some hconfirm
    have hread : HasRead platform (log ++ [Event.performed tag ⟨.loadHead workspaceId, disk⟩])
        (keyOf head) snapshot := ⟨head, mem_headsIn_concat tag hnewest, rfl, hbody⟩
    apply cacheKeeps_act
    intro cache' log' signal response cache'' hexec hgrows' hkept' _ _
    cases hexec
    refine ⟨?_, fun _ _ hkey ↦ hkey, fun _ ↦ cacheReturns_of_isTruthful trivial⟩
    exact (hkept'.sound.retain _).insert ((hread.grows hgrows').isRebuilt hrebuilt)

/-- A run of the cache keeps the invariant. -/
private theorem cacheKept_of_run (laws : TriptychBatchLaws prims.crate) {config : Config _ _ _ _}
    (run : (cacheSystem prims capacity).Run (IsCacheCall prims platform)
      (fun tag op signal cache ↦ isJoined tag op signal cache = true) FlightCache.empty config) :
    CacheKept prims platform capacity config.state config.log := by
  apply run.keeps (G := FlightCache.Grows)
  · exact FlightCache.Grows.refl
  · intro a b c
    exact FlightCache.Grows.trans
  · refine ⟨FlightCache.isSound_empty, ?_⟩
    intro tag value hmem
    cases hmem
  · intro tag program hcall cache log _
    cases hcall with
    | resume workspaceId => exact keeps_resume laws workspaceId
    | advance workspaceId expectedNewRevision h => exact keeps_advance h
    | invalidate workspaceId => exact keeps_invalidate fun _ ↦ trivial
  · intro tag value cache log
    exact ⟨List.prefix_append log _, fun _ _ h ↦ h⟩
  · intro tag next cache log hkept
    exact ⟨hkept, FlightCache.Grows.refl _⟩

/-! ### What a resume has read last -/

/-- A call that began with a load of the workspace has loaded it once more as its last operation,
and saw this head there. -/
def EndsInLoad (platform : Platform) (performed : List (Sigma CacheOp.Response))
    (head : CommittedRevision) : Prop :=
  ∃ workspaceId disk, (performed.head?.map Sigma.fst) = some (.loadHead workspaceId) ∧
    performed.getLast? = some ⟨.loadHead workspaceId, disk⟩ ∧
    newestIn platform workspaceId disk = .ok (some head)

private theorem newestIn_of_finishResume {workspaceId : Text} {key : VerifiedSessionKeyV1}
    {session session' : GuiElectionSessionV1} {disk : GuiResult Disk} {head : CommittedRevision}
    (h : finishResume prims platform workspaceId key session disk = .ok (.session head session')) :
    newestIn platform workspaceId disk = .ok (some head) := by
  obtain ⟨observed, hobserve, hrest⟩ := bind_eq_ok.mp h
  split at hrest
  · cases hrest
  · obtain ⟨artifacts, -, hloaded⟩ := bind_eq_ok.mp hrest
    cases hloaded
    exact (observe_eq_ok hobserve).1

private theorem endsInLoad_of_resumeHead {workspaceId : Text} {initial head : CommittedRevision}
    {session : GuiElectionSessionV1} {performed : List (Sigma CacheOp.Response)}
    (h : (resumeHead prims platform workspaceId initial).Leads performed
      (.done (.resumed (.ok (.session head session))))) :
    ∃ disk, performed.getLast? = some ⟨.loadHead workspaceId, disk⟩ ∧
      newestIn platform workspaceId disk = .ok (some head) := by
  unfold resumeHead at h
  split at h
  · -- a draft is not returned as a session
    obtain ⟨successor, rest, -, hrest⟩ := Program.leads_act_done.mp h
    split at hrest
    · cases (Program.leads_done.mp hrest).2
    · cases (Program.leads_done.mp hrest).2
  · obtain ⟨first, rest, result, rfl, -, hrest⟩ := Program.Leads.of_bind h
    cases result with
    | error e => cases (Program.leads_done.mp hrest).2
    | ok found =>
      obtain ⟨disk, behind, rfl, hend⟩ := Program.leads_act_done.mp hrest
      obtain ⟨rfl, hreturned⟩ := Program.leads_done.mp hend
      have hfinish : finishResume prims platform workspaceId (keyOf initial) found disk =
          .ok (.session head session) := by
        injection hreturned with hreturned
        injection hreturned with hreturned
        exact hreturned.symm
      exact ⟨disk, List.getLast?_concat, newestIn_of_finishResume hfinish⟩

private theorem endsInLoad_of_resume {workspaceId : Text} {head : CommittedRevision}
    {session : GuiElectionSessionV1} {performed : List (Sigma CacheOp.Response)}
    (h : (resumeWithVerifiedSessionCache prims platform workspaceId).Leads performed
      (.done (.resumed (.ok (.session head session))))) : EndsInLoad platform performed head := by
  obtain ⟨initially, rest, rfl, hrest⟩ := Program.leads_act_done.mp h
  split at hrest
  · cases (Program.leads_done.mp hrest).2
  · cases (Program.leads_done.mp hrest).2
  · obtain ⟨disk, hlast, hnewest⟩ := endsInLoad_of_resumeHead hrest
    refine ⟨workspaceId, disk, rfl, ?_, hnewest⟩
    rw [List.getLast?_cons, hlast]
    rfl

/-- Only a resume returns a session, and it has loaded the head it returns last. -/
private theorem endsInLoad_of_isCacheCall {program : Program CacheOp.Response CacheReturn}
    (hcall : IsCacheCall prims platform tag program) {head : CommittedRevision}
    {session : GuiElectionSessionV1} {performed : List (Sigma CacheOp.Response)}
    (h : program.Leads performed (.done (.resumed (.ok (.session head session))))) :
    EndsInLoad platform performed head := by
  have hfallback : ∀ workspaceId rest,
      ¬ (advanceFallback workspaceId).Leads rest
        (.done (.resumed (.ok (.session head session)))) := by
    intro workspaceId rest hfall
    obtain ⟨response, behind, -, hend⟩ := Program.leads_act_done.mp hfall
    cases (Program.leads_done.mp hend).2
  cases hcall with
  | resume workspaceId => exact endsInLoad_of_resume h
  | advance workspaceId expectedNewRevision hreplayed =>
    unfold advanceVerifiedSessionAfterCommit at h
    split at h
    · exact absurd h (hfallback _ _)
    · obtain ⟨disk, rest, -, hrest⟩ := Program.leads_act_done.mp h
      unfold installOrFallBack at hrest
      split at hrest
      · obtain ⟨response, behind, -, hend⟩ := Program.leads_act_done.mp hrest
        cases (Program.leads_done.mp hend).2
      · exact absurd hrest (hfallback _ _)
  | invalidate workspaceId =>
    obtain ⟨response, behind, -, hend⟩ := Program.leads_act_done.mp h
    cases (Program.leads_done.mp hend).2

/-- The cache is transparent: in every state of every run, a session that a resume returned is
the reconstruction of the head that the call read last, and a cached session that of every head
with its key, up to the process-local validation cache; no more sessions are cached than the
capacity, and the queue lists their keys, each once. A tag stands for one call. -/
theorem resume_transparent {requested : Nat} (laws : TriptychBatchLaws prims.crate)
    {config : Config _ _ _ _}
    (run : (cacheSystem prims (verifiedSessionCacheCapacity requested)).TaggedRun
      (IsCacheCall prims platform) (fun tag op signal cache ↦ isJoined tag op signal cache = true)
      FlightCache.empty config)
    (hapart : DigestsApart platform config.log) :
    (∀ before tag head session after,
      config.log = before ++ .returned tag (.resumed (.ok (.session head session))) :: after →
      EndsInLoad platform (operationsOf tag before) head ∧
      ∃ snapshot, head.record.body = .session snapshot ∧
        GuiElectionSessionV1.fromDurableSnapshot prims snapshot = .ok session.withoutCache) ∧
    (∀ key session, config.state.entries.lookup key = some session →
      (∃ head ∈ headsIn platform config.log, keyOf head = key) ∧
      ∀ head ∈ headsIn platform config.log, keyOf head = key →
        ∃ snapshot, head.record.body = .session snapshot ∧
          GuiElectionSessionV1.fromDurableSnapshot prims snapshot = .ok session.withoutCache) ∧
    config.state.entries.keys.length ≤ verifiedSessionCacheCapacity requested ∧
    config.state.recency.Nodup ∧
    ∀ key, key ∈ config.state.recency ↔ key ∈ config.state.entries := by
  have hkept := cacheKept_of_run laws run.run
  have hall : ∀ key session, IsRebuilt prims platform config.log key session →
      ∀ head ∈ headsIn platform config.log, keyOf head = key →
        ∃ snapshot, head.record.body = .session snapshot ∧
          GuiElectionSessionV1.fromDurableSnapshot prims snapshot = .ok session.withoutCache := by
    intro key session hrebuilt head hhead hkey
    obtain ⟨other, hother, snapshot, hotherKey, hbody, hsession⟩ := hrebuilt
    refine ⟨snapshot, ?_, hsession⟩
    rw [record_eq_of_keyOf_eq hapart hhead hother (hkey.trans hotherKey.symm)]
    exact hbody
  refine ⟨?_, ?_, hkept.sound.length_le, hkept.sound.recency_nodup, hkept.sound.mem_recency⟩
  · intro before tag head session after hlog
    have hmem : .returned tag (.resumed (.ok (.session head session))) ∈ config.log := by
      rw [hlog]
      exact List.mem_append_right before List.mem_cons_self
    obtain ⟨hhead, hrebuilt⟩ := hkept.truthful tag _ hmem
    obtain ⟨program, hcall, hleads⟩ := run.accounted.returned before tag _ after hlog
    exact ⟨endsInLoad_of_isCacheCall hcall hleads, hall _ _ hrebuilt head hhead rfl⟩
  · intro key session hlookup
    have hrebuilt := hkept.sound.stored key session hlookup
    refine ⟨?_, hall key session hrebuilt⟩
    obtain ⟨head, hhead, -, hkey, -⟩ := hrebuilt
    exact ⟨head, hhead, hkey⟩

end

/-! ### A session that remembers inbox files -/

namespace Sample

/-- The sample election with one ballot, closed. -/
def committedSnapshot : GuiElectionSessionSnapshotV1 :=
  ⟨.closed, manifestBytes, registryBytes, candidateBytes, [Verifier.Sample.package 1 9 [1]]⟩

/-- The disk after that head was committed. -/
def committedDisk : Disk :=
  ((⟨.session committedSnapshot, (List.range 14).map signal, 8⟩ : AppendCall).after platform
    workspaceId ⟨∅, .new 7⟩).disk

/-- The session of that head, after it has seen the package in an inbox file. -/
def rememberingSession : GuiResult GuiElectionSessionV1 :=
  (GuiElectionSessionV1.fromDurableSnapshot prims committedSnapshot).map fun session ↦
    session.rememberValidatedInboxFile
      (Archive.packageDigest prims.provider (Verifier.Sample.package 1 9 [1])) 100 5

/-- What the environment shows at every step. -/
def cacheSignal : CacheSignal := ⟨.ok committedDisk, none, some ⟨1, []⟩⟩

/-- A resume that reconstructs the head, an advance to the remembering session, and a resume that
finds it. -/
def resumeAdvanceResume (session : GuiElectionSessionV1) :
    List (Choice CacheOp.Response CacheReturn CacheSignal Unit Nat) :=
  Choice.start 0 (resumeWithVerifiedSessionCache prims platform workspaceId) ::
    List.replicate 8 (Choice.advance 0 cacheSignal) ++
  Choice.start 1 (advanceVerifiedSessionAfterCommit platform workspaceId 1 session) ::
    List.replicate 3 (Choice.advance 0 cacheSignal) ++
  Choice.start 2 (resumeWithVerifiedSessionCache prims platform workspaceId) ::
    List.replicate 4 (Choice.advance 0 cacheSignal)

/-- How many inbox files the returned sessions remember. -/
def rememberedFiles (log : CacheLog) : List Nat :=
  log.filterMap fun event ↦ match event with
    | .returned _ (.resumed (.ok (.session _ session))) =>
      some session.privateInboxValidationCache.keys.length
    | _ => none

/-- The sample run. -/
def cacheRun (session : GuiElectionSessionV1) :
    Option (Config CacheOp.Response CacheReturn Nat CacheStateV1) :=
  (cacheSystem prims (verifiedSessionCacheCapacity defaultVerifiedSessionCacheCapacityV1)).steps
    isJoined ⟨FlightCache.empty, [], []⟩ (resumeAdvanceResume session)

private theorem reachable_rememberingSession {session : GuiElectionSessionV1}
    (h : rememberingSession = .ok session) : GuiElectionSessionV1.Reachable prims session := by
  unfold rememberingSession at h
  cases hrebuilt : GuiElectionSessionV1.fromDurableSnapshot prims committedSnapshot with
  | error e =>
    rw [hrebuilt] at h
    cases h
  | ok rebuilt =>
    rw [hrebuilt] at h
    cases h
    exact (GuiElectionSessionV1.Reachable.reconstructed hrebuilt).remember _ _ _

private theorem isCacheCall_of_mem {session : GuiElectionSessionV1} {tag : Nat} {program}
    (hsession : GuiElectionSessionV1.IsReplayed prims session)
    (h : .start tag program ∈ resumeAdvanceResume session) :
    IsCacheCall prims platform tag program := by
  simp only [resumeAdvanceResume, List.cons_append, List.mem_cons, List.mem_append,
    Choice.start.injEq, List.mem_replicate, reduceCtorEq, and_false, false_or, or_false] at h
  rcases h with ⟨-, rfl⟩ | ⟨-, rfl⟩ | ⟨-, rfl⟩
  · exact .resume tag workspaceId
  · exact .advance tag workspaceId 1 hsession
  · exact .resume tag workspaceId

/-- The sample run is a run without collisions, and only its second resume returns a session that
remembers an inbox file. -/
theorem exists_cacheRun : ∃ config,
    (cacheSystem prims
        (verifiedSessionCacheCapacity defaultVerifiedSessionCacheCapacityV1)).TaggedRun
      (IsCacheCall prims platform) (fun tag op signal cache ↦ isJoined tag op signal cache = true)
      FlightCache.empty config ∧
    DigestsApart platform config.log ∧ rememberedFiles config.log = [0, 1] := by
  have hcheck : (rememberingSession.toOption.bind fun session ↦ (cacheRun session).map
      fun config ↦ (decide (DigestsApart platform config.log), rememberedFiles config.log)) =
      some (true, [0, 1]) := by
    decide +kernel
  obtain ⟨session, hsession, hrun⟩ := Option.bind_eq_some_iff.mp hcheck
  obtain ⟨config, hsteps, hfacts⟩ := Option.map_eq_some_iff.mp hrun
  obtain ⟨hapart, hremembered⟩ := Prod.mk.inj hfacts
  refine ⟨config, ?_, of_decide_eq_true hapart, hremembered⟩
  have htags : System.startedTags (resumeAdvanceResume session) = [0, 1, 2] := rfl
  refine System.TaggedRun.initial.steps ?_ (fun _ _ _ _ h ↦ h) ?_ ?_ hsteps
  rotate_left
  · rw [htags]
    decide
  · intro tag _
    exact ⟨fun _ hthread ↦ (List.not_mem_nil hthread).elim,
      fun _ hevent ↦ (List.not_mem_nil hevent).elim⟩
  intro tag program hmem
  have hok : rememberingSession = .ok session := by
    cases hresult : rememberingSession with
    | error e =>
      rw [hresult] at hsession
      cases hsession
    | ok other =>
      rw [hresult] at hsession
      cases hsession
      rfl
  have hreachable := reachable_rememberingSession hok
  exact isCacheCall_of_mem (hreachable.isReplayed (triptychBatchLaws_idealCrate _)) hmem

/-- A returned session among those counted. -/
theorem exists_returned {log : CacheLog} {count : Nat} (h : count ∈ rememberedFiles log) :
    ∃ before tag head session after,
      log = before ++ .returned tag (.resumed (.ok (.session head session))) :: after ∧
      session.privateInboxValidationCache.keys.length = count := by
  obtain ⟨event, hevent, hcount⟩ := List.mem_filterMap.mp h
  obtain ⟨before, after, hlog⟩ := List.append_of_mem hevent
  split at hcount
  · next tag head session =>
    exact ⟨before, tag, head, session, after, hlog, Option.some.inj hcount⟩
  · cases hcount

end Sample

/-- In the sample run a session is returned that remembers an inbox file, and it is the
reconstruction, but for that, of the head that the call loaded last. -/
theorem resume_transparent_sample : ∃ (performed : List (Sigma CacheOp.Response))
    (head : CommittedRevision) (session : GuiElectionSessionV1)
    (snapshot : GuiElectionSessionSnapshotV1), session.privateInboxValidationCache.keys.length = 1 ∧
      EndsInLoad Sample.platform performed head ∧ head.record.body = .session snapshot ∧
      GuiElectionSessionV1.fromDurableSnapshot Sample.prims snapshot =
        .ok session.withoutCache := by
  obtain ⟨config, run, hapart, hremembered⟩ := Sample.exists_cacheRun
  obtain ⟨before, tag, head, session, after, hlog, hcount⟩ :=
    Sample.exists_returned (show 1 ∈ Sample.rememberedFiles config.log by rw [hremembered]; decide)
  obtain ⟨hload, snapshot, hbody, hrebuilt⟩ :=
    (resume_transparent (triptychBatchLaws_idealCrate _) run hapart).1 before tag head session
      after hlog
  exact ⟨operationsOf tag before, head, session, snapshot, hcount, hload, hbody, hrebuilt⟩

/-- A resume can return a session that is not the reconstruction of its head: after an advance it
remembers the inbox files the advanced session had seen. -/
theorem not_resume_eq_of_every_run :
    ¬ ∀ (prims : Primitives) (platform : Platform) (requested : Nat) (config : Config _ _ _ _),
      TriptychBatchLaws prims.crate →
      (cacheSystem prims (verifiedSessionCacheCapacity requested)).TaggedRun
        (IsCacheCall prims platform)
        (fun tag op signal cache ↦ isJoined tag op signal cache = true) FlightCache.empty config →
      DigestsApart platform config.log →
      ∀ before tag head session after,
        config.log = before ++ .returned tag (.resumed (.ok (.session head session))) :: after →
        ∃ snapshot, head.record.body = .session snapshot ∧
          GuiElectionSessionV1.fromDurableSnapshot prims snapshot = .ok session := by
  intro h
  obtain ⟨config, run, hapart, hremembered⟩ := Sample.exists_cacheRun
  obtain ⟨before, tag, head, session, after, hlog, hcount⟩ :=
    Sample.exists_returned (show 1 ∈ Sample.rememberedFiles config.log by rw [hremembered]; decide)
  obtain ⟨snapshot, -, hrebuilt⟩ := h Sample.prims Sample.platform _ config
    (triptychBatchLaws_idealCrate _) run hapart before tag head session after hlog
  rw [← GuiElectionSessionV1.withoutCache_of_fromDurableSnapshot hrebuilt] at hcount
  cases hcount

end PrivateBallot.GuiCore
