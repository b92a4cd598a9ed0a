import PrivateBallot.Base.Search
import PrivateBallot.Protocol.CborItems
import PrivateBallot.Protocol.Hashing

/-!
# Candidates, approval limits and ballot payloads

Library `Ballot`. `crates/ballot/src/lib.rs` and `crates/ballot/src/canonical.rs`. The source
keeps the fields private behind checking constructors; the checks are fields of the types
here, and each `new` is the only way the code builds a value.
-/

namespace PrivateBallot.Ballot

open PrivateBallot.Base
open PrivateBallot.Protocol

/-- Stable candidate identifier; `crates/ballot/src/lib.rs`. -/
@[ext] structure CandidateId where
  toBytes : Bytes
  nonempty : toBytes ≠ []
  length_le : toBytes.length ≤ maxCandidateIdBytes

instance : DecidableEq CandidateId := fun a b ↦
  decidable_of_iff (a.toBytes = b.toBytes) CandidateId.ext_iff.symm

/-- `CandidateId::new` -/
def CandidateId.new (bytes : Bytes) : Result CandidateId :=
  if hempty : bytes = [] then
    fail .emptyCandidateId "candidate identifier must not be empty"
  else if hlen : maxCandidateIdBytes < bytes.length then
    fail .protocolLimitExceeded "candidate identifier exceeds the protocol size limit"
  else .ok ⟨bytes, hempty, Nat.le_of_not_lt hlen⟩

/-- An identifier is accepted by its own check. -/
theorem CandidateId.new_toBytes (id : CandidateId) : CandidateId.new id.toBytes = .ok id := by
  have hlen : ¬ maxCandidateIdBytes < id.toBytes.length := Nat.not_lt.mpr id.length_le
  simp only [CandidateId.new, id.nonempty, hlen, dite_false]

theorem CandidateId.toBytes_of_new {bytes : Bytes} {id : CandidateId}
    (h : CandidateId.new bytes = .ok id) : id.toBytes = bytes := by
  unfold CandidateId.new at h
  split at h
  · cases h
  split at h
  · cases h
  cases h
  rfl

/-- Candidate identifier and its display name. -/
structure CandidateDefinition where
  id : CandidateId
  displayName : Text
  displayName_nonempty : displayName.trimIsEmpty = false
  displayName_len_le : displayName.len ≤ maxCandidateDisplayNameBytes
deriving DecidableEq

namespace CandidateDefinition

/-- `CandidateDefinition::new` -/
def new (id : CandidateId) (displayName : Text) : Result CandidateDefinition :=
  if hempty : displayName.trimIsEmpty = true then
    fail .emptyCandidateDisplayName "candidate display name must not be empty"
  else if hlen : maxCandidateDisplayNameBytes < displayName.len then
    fail .protocolLimitExceeded "candidate display name exceeds the protocol size limit"
  else .ok ⟨id, displayName, Bool.eq_false_iff.mpr hempty, Nat.le_of_not_lt hlen⟩

/-- A definition is accepted by its own check. -/
theorem new_displayName (candidate : CandidateDefinition) :
    CandidateDefinition.new candidate.id candidate.displayName = .ok candidate := by
  have hlen : ¬ maxCandidateDisplayNameBytes < candidate.displayName.len :=
    Nat.not_lt.mpr candidate.displayName_len_le
  simp only [CandidateDefinition.new, candidate.displayName_nonempty, Bool.false_eq_true, hlen,
    dite_false]

theorem of_new {id : CandidateId} {displayName : Text} {candidate : CandidateDefinition}
    (h : CandidateDefinition.new id displayName = .ok candidate) :
    candidate.id = id ∧ candidate.displayName = displayName := by
  unfold CandidateDefinition.new at h
  split at h
  · cases h
  split at h
  · cases h
  cases h
  exact ⟨rfl, rfl⟩

/-- Sort key of a definition: the bytes of its identifier. -/
def key (candidate : CandidateDefinition) : Bytes := candidate.id.toBytes

end CandidateDefinition

/-- Candidates in strictly ascending identifier order. -/
structure CandidateSet where
  candidates : List CandidateDefinition
  nonempty : candidates ≠ []
  length_le : candidates.length ≤ maxCandidates
  ascending : Ascending CandidateDefinition.key candidates
deriving DecidableEq

namespace CandidateSet

/-- `CandidateSet::new`: sorts by identifier and refuses duplicates. -/
def new (candidates : List CandidateDefinition) : Result CandidateSet :=
  if hempty : candidates = [] then
    fail .emptyCandidateSet "candidate set must not be empty"
  else if hlen : maxCandidates < candidates.length then
    fail .protocolLimitExceeded "candidate count exceeds the protocol limit"
  else if hdup : anyAdjacent
      (fun a b ↦ decide (CandidateDefinition.key a = CandidateDefinition.key b))
      (sortBytes CandidateDefinition.key candidates) = true then
    fail .duplicateCandidateId "candidate set contains a duplicate candidate identifier"
  else .ok {
    candidates := sortBytes CandidateDefinition.key candidates
    nonempty := by
      rw [← List.length_pos_iff, length_sortBytes, List.length_pos_iff]
      exact hempty
    length_le := by
      rw [length_sortBytes]
      exact Nat.le_of_not_lt hlen
    ascending := ascending_sortBytes (Bool.eq_false_iff.mpr hdup) }

/-- `contains`: a binary search over the ascending identifiers. -/
def contains (self : CandidateSet) (id : CandidateId) : Bool :=
  (binarySearch CandidateDefinition.key id.toBytes self.candidates).isSome

/-- The search finds exactly the identifiers of the members. -/
theorem contains_iff {self : CandidateSet} {id : CandidateId} :
    self.contains id = true ↔ ∃ candidate ∈ self.candidates, candidate.id = id := by
  rw [contains, Option.isSome_iff_exists]
  constructor
  · rintro ⟨i, hfound⟩
    obtain ⟨candidate, hget, hkey⟩ := key_of_binarySearch hfound
    refine ⟨candidate, List.mem_of_getElem? hget, ?_⟩
    exact CandidateId.ext hkey
  · rintro ⟨candidate, hmem, rfl⟩
    exact exists_binarySearch self.ascending hmem

/-- No identifier stands for two candidates. -/
theorem nodup_ids (self : CandidateSet) : (self.candidates.map (·.id)).Nodup := by
  apply List.pairwise_map.mpr
  apply self.ascending.imp
  intro a b hlt heq
  rw [CandidateDefinition.key, heq] at hlt
  exact List.lt_irrefl _ hlt

/-- `CandidateSet::to_canonical_cbor`; `crates/ballot/src/canonical.rs:15`. -/
def toCanonicalCbor (self : CandidateSet) : Result Bytes := do
  let encoded := writeArrayLen self.candidates.length ++
    self.candidates.flatMap fun candidate ↦
      writeArrayLen 2 ++ writeByteString candidate.id.toBytes ++
        writeTextString candidate.displayName
  refuseIf (decide (maxCanonicalObjectBytes < encoded.length)) .protocolLimitExceeded
    "canonical candidate set exceeds the protocol object limit"
  pure encoded

private def readCandidate : Read CandidateDefinition := do
  let fields ← readArrayLen
  if fields ≠ 2 then
    fail .invalidCbor "candidate entry must contain exactly two fields"
  let idBytes ← readByteString
  let id ← CandidateId.new idBytes
  let displayName ← readTextString
  CandidateDefinition.new id displayName

private def readCandidates : Read (List CandidateDefinition) := do
  let candidateCount ← readArrayLen
  if candidateCount = 0 then
    fail .emptyCandidateSet "candidate set must not be empty"
  if maxCandidates < candidateCount then
    fail .protocolLimitExceeded "candidate count exceeds the protocol limit"
  readMany readCandidate candidateCount

/-- `CandidateSet::from_canonical_cbor`; `crates/ballot/src/canonical.rs:40`. -/
def fromCanonicalCbor (encoded : Bytes) : Result CandidateSet := do
  refuseIf (decide (maxCanonicalObjectBytes < encoded.length)) .protocolLimitExceeded
    "encoded candidate set exceeds the protocol object limit"
  let candidates ← readAll readCandidates encoded
  requireAscending CandidateDefinition.key
    ⟨.duplicateCandidateId, "candidate set contains a duplicate candidate identifier"⟩
    ⟨.nonCanonicalCbor, "candidate identifiers are not in canonical order"⟩ candidates
  CandidateSet.new candidates

/-- A candidate set is accepted by its own constructor, as it stands. -/
theorem new_candidates (self : CandidateSet) : CandidateSet.new self.candidates = .ok self := by
  have hlen : ¬ maxCandidates < self.candidates.length := Nat.not_lt.mpr self.length_le
  have hdup := anyAdjacent_of_ascending self.ascending
  have hsort := sortBytes_of_ascending self.ascending
  unfold CandidateSet.new
  simp only [self.nonempty, hlen, hsort, hdup, Bool.false_eq_true, dite_false]

/-- The order in which candidates are given does not matter, also for the error. -/
theorem new_congr {xs ys : List CandidateDefinition} (h : xs.Perm ys) :
    CandidateSet.new xs = CandidateSet.new ys := by
  have hempty : (xs = []) ↔ (ys = []) := by
    rw [← List.length_eq_zero_iff, ← List.length_eq_zero_iff, h.length_eq]
  have hkeys := (h.map CandidateDefinition.key).nodup_iff
  by_cases hdup : (xs.map CandidateDefinition.key).Nodup
  · have hsame := sortBytes_eq_of_perm h hdup
    unfold CandidateSet.new
    simp only [hempty, h.length_eq, hsame]
  · have hxs := Bool.eq_true_of_not_eq_false (mt anyAdjacent_sortBytes_eq_false.mp hdup)
    have hys := Bool.eq_true_of_not_eq_false
      (mt anyAdjacent_sortBytes_eq_false.mp (mt hkeys.mpr hdup))
    unfold CandidateSet.new
    simp only [hempty, h.length_eq, hxs, hys, dite_true]

/-- The constructor keeps the candidates it was given, sorted. -/
theorem candidates_of_new {candidates : List CandidateDefinition} {self : CandidateSet}
    (h : CandidateSet.new candidates = .ok self) :
    self.candidates = sortBytes CandidateDefinition.key candidates := by
  unfold CandidateSet.new at h
  split at h
  · cases h
  split at h
  · cases h
  split at h
  · cases h
  cases h
  rfl

private theorem reads_readCandidate (candidate : CandidateDefinition) :
    Reads readCandidate (writeArrayLen 2 ++ writeByteString candidate.id.toBytes ++
      writeTextString candidate.displayName) candidate := by
  rw [List.append_assoc]
  apply (reads_readArrayLen (by decide)).bind
  simp only [ne_eq, not_true_eq_false, if_false]
  apply (reads_readByteString _).bind
  apply Reads.nil_bind (reads_lift (candidate.id.new_toBytes))
  apply (reads_readTextString _).bind_nil
  exact reads_lift (candidate.new_displayName)

/-- The encoding of a candidate set is within the object limit. -/
theorem length_le_of_toCanonicalCbor {self : CandidateSet} {encoded : Bytes}
    (h : self.toCanonicalCbor = .ok encoded) : encoded.length ≤ maxCanonicalObjectBytes :=
  length_le_of_limited h

/-- A candidate set that can be encoded is decoded to itself. -/
theorem fromCanonicalCbor_toCanonicalCbor {self : CandidateSet} {encoded : Bytes}
    (h : self.toCanonicalCbor = .ok encoded) : fromCanonicalCbor encoded = .ok self := by
  simp only [toCanonicalCbor, bind_eq_ok, refuseIf_eq_ok] at h
  obtain ⟨-, hsize, hencoded⟩ := h
  cases hencoded
  have hcount : self.candidates.length < 2 ^ 64 :=
    Nat.lt_of_le_of_lt self.length_le (by decide)
  have hreads : Reads readCandidates (writeArrayLen self.candidates.length ++
      self.candidates.flatMap fun candidate ↦
        writeArrayLen 2 ++ writeByteString candidate.id.toBytes ++
          writeTextString candidate.displayName) self.candidates := by
    apply (reads_readArrayLen hcount).bind
    have hzero : self.candidates.length ≠ 0 := by
      rw [ne_eq, List.length_eq_zero_iff]
      exact self.nonempty
    have hmax : ¬ maxCandidates < self.candidates.length := Nat.not_lt.mpr self.length_le
    simp only [hzero, hmax, if_false]
    exact Reads.many self.candidates fun candidate _ ↦ reads_readCandidate candidate
  have hlen := of_decide_eq_false hsize
  rw [Nat.not_lt] at hlen
  have hlimit := Nat.lt_of_le_of_lt hlen (show maxCanonicalObjectBytes < 2 ^ 64 by decide)
  simp only [fromCanonicalCbor, bind_eq_ok, refuseIf_eq_ok]
  refine ⟨(), hsize, self.candidates, readAll_of_reads hreads hlimit, (), ?_,
    new_candidates self⟩
  exact requireAscending_of_ascending self.ascending

/-- The canonical bytes of a candidate set: the count, then identifier and name of each. -/
def encode (self : CandidateSet) : Bytes :=
  writeArrayLen self.candidates.length ++
    self.candidates.flatMap fun candidate ↦
      writeArrayLen 2 ++ writeByteString candidate.id.toBytes ++
        writeTextString candidate.displayName

/-- As many candidates as a set can hold, with the longest names, are far from the object limit. -/
theorem length_encode_le (self : CandidateSet) : self.encode.length ≤ 173065 := by
  have hcount := length_writeArrayLen_le self.candidates.length
  have hitem : ∀ candidate ∈ self.candidates, (writeArrayLen 2 ++
      writeByteString candidate.id.toBytes ++ writeTextString candidate.displayName).length
        ≤ 676 := by
    intro candidate _
    have htwo := length_writeArrayLen_le 2
    have hid := length_writeByteString_le candidate.id.toBytes
    have hname := length_writeTextString_le candidate.displayName
    have hidLen : candidate.id.toBytes.length ≤ 128 := candidate.id.length_le
    have hnameLen : candidate.displayName.len ≤ 512 := candidate.displayName_len_le
    simp only [List.length_append]
    omega
  have hitems := length_flatMap_le self.candidates hitem
  have hlen : self.candidates.length ≤ 256 := self.length_le
  rw [encode, List.length_append]
  omega

/-- Every candidate set can be encoded. -/
theorem toCanonicalCbor_eq (self : CandidateSet) : self.toCanonicalCbor = .ok self.encode := by
  have hlen := self.length_encode_le
  have hlimit : ¬ maxCanonicalObjectBytes < self.encode.length := by
    have hmax : maxCanonicalObjectBytes = 1048576 := rfl
    omega
  simp only [toCanonicalCbor, bind_eq_ok, refuseIf_eq_ok]
  exact ⟨(), decide_eq_false hlimit, rfl⟩

private theorem rest_of_readCandidate {reader next : CanonicalCborReader}
    {candidate : CandidateDefinition} (h : readCandidate reader = .ok (candidate, next)) :
    reader.rest = (writeArrayLen 2 ++ writeByteString candidate.id.toBytes ++
      writeTextString candidate.displayName) ++ next.rest := by
  obtain ⟨fields, r1, hfields, h⟩ := read_bind_eq_ok.mp h
  split at h
  · cases h
  next htwo =>
  obtain ⟨idBytes, r2, hidBytes, h⟩ := read_bind_eq_ok.mp h
  obtain ⟨id, r3, hid, h⟩ := read_bind_eq_ok.mp h
  obtain ⟨displayName, r4, hname, h⟩ := read_bind_eq_ok.mp h
  obtain ⟨hnew, rfl⟩ := lift_eq_ok h
  obtain ⟨hidNew, rfl⟩ := lift_eq_ok hid
  obtain ⟨hrest, -⟩ := readArgument_eq_ok hfields
  obtain ⟨hsame, hnameSame⟩ := CandidateDefinition.of_new hnew
  rw [hsame, hnameSame, CandidateId.toBytes_of_new hidNew, hrest, readByteString_eq_ok hidBytes,
    readTextString_eq_ok hname, not_not.mp htwo]
  simp only [List.append_assoc]
  rfl

/-- Accepted bytes are the encoding of the set they are decoded to. -/
theorem toCanonicalCbor_of_fromCanonicalCbor {encoded : Bytes} {self : CandidateSet}
    (h : fromCanonicalCbor encoded = .ok self) : self.toCanonicalCbor = .ok encoded := by
  simp only [fromCanonicalCbor, bind_eq_ok] at h
  obtain ⟨_, -, candidates, hread, _, hordered, hnew⟩ := h
  have hsorted := ascending_of_requireAscending hordered
  have hsame : self.candidates = candidates := by
    have hkept := candidates_of_new hnew
    rwa [sortBytes_of_ascending hsorted] at hkept
  obtain ⟨next, hread, hdone⟩ := readAll_eq_ok hread
  obtain ⟨count, middle, hcount, hread⟩ := read_bind_eq_ok.mp hread
  split at hread
  · cases hread
  split at hread
  · cases hread
  obtain ⟨hrest, -⟩ := readArgument_eq_ok hcount
  have hitems := rest_of_readMany rest_of_readCandidate hread
  obtain ⟨hlen, -⟩ := readMany_eq_ok hread
  rw [toCanonicalCbor_eq, encode, hsame, hlen]
  rw [hdone, List.append_nil] at hitems
  rw [hitems] at hrest
  exact congrArg Except.ok hrest.symm

/-- `CandidateSet::canonical_commitment` -/
def canonicalCommitment (self : CandidateSet) (provider : HashProvider) :
    Result CandidateSetCommitment := do
  let encoded ← self.toCanonicalCbor
  pure (hashDomainSeparated provider .candidateSetV1 encoded)

end CandidateSet

/-- Selection limits of an approval ballot; counts are `usize`. -/
structure ApprovalLimits where
  minimum : UInt64
  maximum : UInt64
  allowAbstention : Bool
  minimum_le : minimum ≤ maximum
deriving DecidableEq

/-- `ApprovalLimits::new` -/
def ApprovalLimits.new (minimum maximum : UInt64) (allowAbstention : Bool) :
    Result ApprovalLimits :=
  if h : minimum ≤ maximum then .ok ⟨minimum, maximum, allowAbstention, h⟩
  else fail .invalidSelectionLimits "minimum selections exceed maximum selections"

theorem ApprovalLimits.eq_of_new {minimum maximum : UInt64} {allowAbstention : Bool}
    {limits : ApprovalLimits}
    (h : ApprovalLimits.new minimum maximum allowAbstention = .ok limits) :
    limits.minimum = minimum ∧ limits.maximum = maximum ∧
      limits.allowAbstention = allowAbstention := by
  unfold ApprovalLimits.new at h
  split at h
  · cases h
    exact ⟨rfl, rfl, rfl⟩
  · cases h

/-- Approval payload: strictly ascending selected identifiers. -/
structure ApprovalBallotPayload where
  selections : List CandidateId
  ascending : Ascending CandidateId.toBytes selections
deriving DecidableEq

namespace ApprovalBallotPayload

/-- `ApprovalBallotPayload::new`; `crates/ballot/src/lib.rs:209`. -/
def new (selections : List CandidateId) (candidates : CandidateSet) (limits : ApprovalLimits) :
    Result ApprovalBallotPayload :=
  if candidates.candidates.length < limits.maximum.toNat then
    fail .invalidSelectionLimits "maximum selections exceed the candidate count"
  else if selections = [] then
    if limits.allowAbstention then .ok ⟨[], List.Pairwise.nil⟩
    else fail .selectionCountOutOfRange "empty approval selection is not permitted"
  else if selections.length < limits.minimum.toNat ∨
      limits.maximum.toNat < selections.length then
    fail .selectionCountOutOfRange "approval selection count is outside manifest limits"
  else if hdup : anyAdjacent (fun a b ↦ decide (CandidateId.toBytes a = CandidateId.toBytes b))
      (sortBytes CandidateId.toBytes selections) = true then
    fail .duplicateSelection "approval ballot contains a duplicate candidate"
  else if (sortBytes CandidateId.toBytes selections).any fun id ↦ !candidates.contains id then
    fail .unknownCandidateId "approval ballot contains an unknown candidate identifier"
  else .ok ⟨sortBytes CandidateId.toBytes selections,
    ascending_sortBytes (Bool.eq_false_iff.mpr hdup)⟩

/-- `is_abstention` -/
def isAbstention (self : ApprovalBallotPayload) : Bool := self.selections.isEmpty

/-- `ApprovalBallotPayload::to_canonical_cbor`; `crates/ballot/src/canonical.rs:113`. -/
def toCanonicalCbor (self : ApprovalBallotPayload) : Result Bytes := do
  let encoded := writeArrayLen self.selections.length ++
    self.selections.flatMap fun id ↦ writeByteString id.toBytes
  refuseIf (decide (maxCanonicalObjectBytes < encoded.length)) .protocolLimitExceeded
    "canonical ballot payload exceeds the protocol object limit"
  pure encoded

private def readSelection : Read CandidateId := do
  let bytes ← readByteString
  CandidateId.new bytes

private def readSelections : Read (List CandidateId) := do
  let selectionCount ← readArrayLen
  if maxCandidates < selectionCount then
    fail .protocolLimitExceeded "ballot selection count exceeds the protocol limit"
  readMany readSelection selectionCount

/-- `ApprovalBallotPayload::from_canonical_cbor` -/
def fromCanonicalCbor (encoded : Bytes) (candidates : CandidateSet) (limits : ApprovalLimits) :
    Result ApprovalBallotPayload := do
  refuseIf (decide (maxCanonicalObjectBytes < encoded.length)) .protocolLimitExceeded
    "encoded ballot payload exceeds the protocol object limit"
  let selections ← readAll readSelections encoded
  requireAscending CandidateId.toBytes
    ⟨.duplicateSelection, "approval ballot contains a duplicate candidate"⟩
    ⟨.nonCanonicalCbor, "ballot selections are not in canonical order"⟩ selections
  ApprovalBallotPayload.new selections candidates limits

/-- The selections an election takes: known candidates in strictly ascending order, as many as
the limits say. Limits above the candidate count take nothing, and no selection at all counts as
an abstention whatever the minimum is. -/
structure Fits (candidates : CandidateSet) (limits : ApprovalLimits)
    (selections : List CandidateId) : Prop where
  maximum_le : limits.maximum.toNat ≤ candidates.candidates.length
  ascending : Ascending CandidateId.toBytes selections
  known : ∀ id ∈ selections, candidates.contains id = true
  abstention : selections = [] → limits.allowAbstention = true
  count : selections ≠ [] →
    limits.minimum.toNat ≤ selections.length ∧ selections.length ≤ limits.maximum.toNat

section Fits

variable {selections : List CandidateId} {candidates : CandidateSet} {limits : ApprovalLimits}

/-- What `new` builds fits the election. -/
theorem fits_of_new {payload : ApprovalBallotPayload}
    (h : new selections candidates limits = .ok payload) :
    Fits candidates limits payload.selections := by
  unfold new at h
  split at h
  · cases h
  next hmaximum =>
  split at h
  · split at h
    · next habstention =>
      cases h
      exact ⟨Nat.le_of_not_lt hmaximum, List.Pairwise.nil, by simp, fun _ ↦ habstention, by simp⟩
    · cases h
  next hnonempty =>
  split at h
  · cases h
  next hcount =>
  split at h
  · cases h
  next hdup =>
  split at h
  · cases h
  next hknown =>
  cases h
  rw [not_or, Nat.not_lt, Nat.not_lt] at hcount
  refine ⟨Nat.le_of_not_lt hmaximum, ascending_sortBytes (Bool.eq_false_iff.mpr hdup), ?_, ?_, ?_⟩
  · intro id hid
    simp only [List.any_eq_true, not_exists, not_and, Bool.not_eq_true',
      Bool.not_eq_false] at hknown
    exact hknown id hid
  · intro hempty
    rw [← List.length_eq_zero_iff, length_sortBytes, List.length_eq_zero_iff] at hempty
    exact absurd hempty hnonempty
  · intro _
    rw [length_sortBytes]
    exact hcount

/-- Selections that fit are taken as they stand. -/
theorem new_of_fits (h : Fits candidates limits selections) :
    new selections candidates limits = .ok ⟨selections, h.ascending⟩ := by
  have hmaximum : ¬ candidates.candidates.length < limits.maximum.toNat :=
    Nat.not_lt.mpr h.maximum_le
  unfold new
  rw [if_neg hmaximum]
  by_cases hempty : selections = []
  · subst hempty
    rw [if_pos rfl, if_pos (h.abstention rfl)]
  · obtain ⟨hmin, hmax⟩ := h.count hempty
    have hcount : ¬ (selections.length < limits.minimum.toNat ∨
        limits.maximum.toNat < selections.length) := by omega
    have hdup := anyAdjacent_of_ascending h.ascending
    have hsort := sortBytes_of_ascending h.ascending
    have hknown : (selections.any fun id ↦ !candidates.contains id) = false := by
      rw [List.any_eq_false]
      intro id hid
      rw [h.known id hid]
      decide
    simp only [hempty, hcount, hsort, hdup, hknown, Bool.false_eq_true, if_false, dite_false]

/-- Selections that fit are no more than a candidate set can hold. -/
theorem Fits.length_le (h : Fits candidates limits selections) :
    selections.length ≤ maxCandidates := by
  have hlen := candidates.length_le
  have hmaximum := h.maximum_le
  by_cases hempty : selections = []
  · rw [hempty]
    exact Nat.zero_le _
  · have hcount := (h.count hempty).2
    omega

end Fits

/-- Every selection of a payload that was built is a candidate. -/
theorem mem_candidates_of_new {selections : List CandidateId} {candidates : CandidateSet}
    {limits : ApprovalLimits} {payload : ApprovalBallotPayload}
    (h : new selections candidates limits = .ok payload) :
    ∀ id ∈ payload.selections, candidates.contains id = true :=
  (fits_of_new h).known

/-- The canonical bytes of selections: their count, then the identifiers. -/
def encodeSelections (selections : List CandidateId) : Bytes :=
  writeArrayLen selections.length ++ selections.flatMap fun id ↦ writeByteString id.toBytes

private theorem length_writeSelections_le (selections : List CandidateId) :
    (selections.flatMap fun id ↦ writeByteString id.toBytes).length ≤
      (9 + maxCandidateIdBytes) * selections.length := by
  induction selections with
  | nil => exact Nat.zero_le _
  | cons id selections ih =>
    have hid := length_writeByteString_le id.toBytes
    have hbytes := id.length_le
    rw [List.flatMap_cons, List.length_append, List.length_cons, Nat.mul_succ]
    omega

/-- As many selections as a candidate set can hold are far from the object limit. -/
theorem length_encodeSelections_le {selections : List CandidateId}
    (h : selections.length ≤ maxCandidates) : (encodeSelections selections).length ≤ 35081 := by
  have hcount := length_writeArrayLen_le selections.length
  have hitems := length_writeSelections_le selections
  have hmul := Nat.mul_le_mul_left (9 + maxCandidateIdBytes) h
  have hbound : (9 + maxCandidateIdBytes) * maxCandidates = 35072 := by decide
  rw [encodeSelections, List.length_append]
  omega

/-- A payload that fits its election can be encoded. -/
theorem toCanonicalCbor_of_fits {self : ApprovalBallotPayload} {candidates : CandidateSet}
    {limits : ApprovalLimits} (h : Fits candidates limits self.selections) :
    self.toCanonicalCbor = .ok (encodeSelections self.selections) := by
  have hlen := length_encodeSelections_le h.length_le
  have hlimit : ¬ maxCanonicalObjectBytes < (encodeSelections self.selections).length := by
    have hmax : maxCanonicalObjectBytes = 1048576 := rfl
    omega
  simp only [toCanonicalCbor, bind_eq_ok, refuseIf_eq_ok]
  exact ⟨(), decide_eq_false hlimit, rfl⟩

private theorem reads_readSelection (id : CandidateId) :
    Reads readSelection (writeByteString id.toBytes) id :=
  (reads_readByteString _).bind_nil (reads_lift id.new_toBytes)

private theorem reads_readSelections {selections : List CandidateId}
    (h : selections.length ≤ maxCandidates) :
    Reads readSelections (encodeSelections selections) selections := by
  have hcount : selections.length < 2 ^ 64 := Nat.lt_of_le_of_lt h (by decide)
  apply (reads_readArrayLen hcount).bind
  simp only [Nat.not_lt.mpr h, if_false]
  exact Reads.many selections fun id _ ↦ reads_readSelection id

private theorem length_le_encodeSelections (selections : List CandidateId) :
    selections.length ≤ (encodeSelections selections).length := by
  have hitems : selections.length ≤
      (selections.flatMap fun id ↦ writeByteString id.toBytes).length := by
    induction selections with
    | nil => exact Nat.zero_le _
    | cons id selections ih =>
      have hid := id.nonempty
      have hwritten : id.toBytes.length ≤ (writeByteString id.toBytes).length := by
        rw [writeByteString, List.length_append]
        omega
      have hpos := List.length_pos_iff.mpr hid
      rw [List.flatMap_cons, List.length_append, List.length_cons]
      omega
  rw [encodeSelections, List.length_append]
  omega

-- Read back without the count limit of the decoder, which plays no part here.
/-- Different selections have different bytes. -/
theorem encodeSelections_inj {selections others : List CandidateId}
    (hlen : (encodeSelections selections).length < 2 ^ 64)
    (h : encodeSelections selections = encodeSelections others) : selections = others := by
  have hreads : ∀ ids : List CandidateId, (encodeSelections ids).length < 2 ^ 64 →
      Reads (readArrayLen >>= readMany readSelection) (encodeSelections ids) ids := by
    intro ids hids
    have hcount := length_le_encodeSelections ids
    apply (reads_readArrayLen (by omega)).bind
    exact Reads.many ids fun id _ ↦ reads_readSelection id
  have hself := readAll_of_reads (hreads selections hlen) hlen
  rw [h] at hself hlen
  have hother := readAll_of_reads (hreads others hlen) hlen
  rw [hself] at hother
  exact Except.ok.inj hother

/-- What a payload is encoded to. -/
theorem eq_encodeSelections {self : ApprovalBallotPayload} {encoded : Bytes}
    (h : self.toCanonicalCbor = .ok encoded) :
    encoded = encodeSelections self.selections ∧ encoded.length ≤ maxCanonicalObjectBytes := by
  simp only [toCanonicalCbor, bind_eq_ok, refuseIf_eq_ok, decide_eq_false_iff_not,
    Nat.not_lt] at h
  obtain ⟨-, hlen, hencoded⟩ := h
  cases hencoded
  exact ⟨rfl, hlen⟩

/-- The bytes of selections that fit are decoded to the payload of these selections. -/
theorem fromCanonicalCbor_of_fits {selections : List CandidateId} {candidates : CandidateSet}
    {limits : ApprovalLimits} (h : Fits candidates limits selections) :
    fromCanonicalCbor (encodeSelections selections) candidates limits =
      .ok ⟨selections, h.ascending⟩ := by
  have hlen := length_encodeSelections_le h.length_le
  have hlimit : ¬ maxCanonicalObjectBytes < (encodeSelections selections).length := by
    have hmax : maxCanonicalObjectBytes = 1048576 := rfl
    omega
  have hread := readAll_of_reads (reads_readSelections h.length_le) (by omega)
  simp only [fromCanonicalCbor, bind_eq_ok, refuseIf_eq_ok]
  exact ⟨(), decide_eq_false hlimit, selections, hread, (),
    requireAscending_of_ascending h.ascending, new_of_fits h⟩

/-- A decoded payload fits the election it was decoded for. -/
theorem fits_of_fromCanonicalCbor {encoded : Bytes} {candidates : CandidateSet}
    {limits : ApprovalLimits} {payload : ApprovalBallotPayload}
    (h : fromCanonicalCbor encoded candidates limits = .ok payload) :
    Fits candidates limits payload.selections := by
  simp only [fromCanonicalCbor, bind_eq_ok] at h
  obtain ⟨_, _, selections, _, _, _, hnew⟩ := h
  exact fits_of_new hnew

/-- Every selection of a decoded payload is a candidate. -/
theorem mem_candidates_of_fromCanonicalCbor {encoded : Bytes} {candidates : CandidateSet}
    {limits : ApprovalLimits} {payload : ApprovalBallotPayload}
    (h : fromCanonicalCbor encoded candidates limits = .ok payload) :
    ∀ id ∈ payload.selections, candidates.contains id = true :=
  (fits_of_fromCanonicalCbor h).known

/-- `ApprovalBallotPayload::canonical_hash` -/
def canonicalHash (self : ApprovalBallotPayload) (provider : HashProvider) :
    Result BallotPayloadHash := do
  let encoded ← self.toCanonicalCbor
  pure (hashDomainSeparated provider .approvalBallotPayloadV1 encoded)

end ApprovalBallotPayload

end PrivateBallot.Ballot
