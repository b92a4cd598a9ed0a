import PrivateBallot.Protocol.CborItems
import PrivateBallot.Protocol.Hashing

/-!
# Electorate registry snapshots

Library `Registry`. `crates/registry/src/lib.rs` and `crates/registry/src/canonical.rs`: the
frozen set of governance keys, in strictly ascending order.
-/

namespace PrivateBallot.Registry

open PrivateBallot.Base
open PrivateBallot.Protocol

/-- Governance public key bytes; `crates/registry/src/lib.rs`. -/
@[ext] structure GovernancePublicKey where
  toBytes : Bytes
  nonempty : toBytes ≠ []
  length_le : toBytes.length ≤ maxGovernanceKeyBytes

instance : DecidableEq GovernancePublicKey := fun a b ↦
  decidable_of_iff (a.toBytes = b.toBytes) GovernancePublicKey.ext_iff.symm

/-- `GovernancePublicKey::new` -/
def GovernancePublicKey.new (bytes : Bytes) : Result GovernancePublicKey :=
  if hempty : bytes = [] then
    fail .emptyGovernanceKey "governance public key must not be empty"
  else if hlen : maxGovernanceKeyBytes < bytes.length then
    fail .protocolLimitExceeded "governance public key exceeds the protocol size limit"
  else .ok ⟨bytes, hempty, Nat.le_of_not_lt hlen⟩

/-- A key is accepted by its own check. -/
theorem GovernancePublicKey.new_toBytes (key : GovernancePublicKey) :
    GovernancePublicKey.new key.toBytes = .ok key := by
  have hlen : ¬ maxGovernanceKeyBytes < key.toBytes.length := Nat.not_lt.mpr key.length_le
  simp only [GovernancePublicKey.new, key.nonempty, hlen, dite_false]

theorem GovernancePublicKey.toBytes_of_new {bytes : Bytes} {key : GovernancePublicKey}
    (h : GovernancePublicKey.new bytes = .ok key) : key.toBytes = bytes := by
  unfold GovernancePublicKey.new at h
  split at h
  · cases h
  split at h
  · cases h
  cases h
  rfl

/-- One registered voter. -/
structure RegistryEntry where
  governanceKey : GovernancePublicKey
deriving DecidableEq

/-- Sort key of an entry. -/
def RegistryEntry.key (entry : RegistryEntry) : Bytes := entry.governanceKey.toBytes

/-- The electorate, in strictly ascending key order. -/
structure RegistrySnapshot where
  entries : List RegistryEntry
  nonempty : entries ≠ []
  length_le : entries.length ≤ maxRegistryMembers
  ascending : Ascending RegistryEntry.key entries
deriving DecidableEq

namespace RegistrySnapshot

/-- `RegistrySnapshot::new`; `crates/registry/src/lib.rs:83`. -/
def new (entries : List RegistryEntry) : Result RegistrySnapshot :=
  if hempty : entries = [] then
    fail .emptyRegistry "registry must contain at least one governance key"
  else if hlen : maxRegistryMembers < entries.length then
    fail .protocolLimitExceeded "registry member count exceeds the protocol limit"
  else if hdup : anyAdjacent (fun a b ↦ decide (RegistryEntry.key a = RegistryEntry.key b))
      (sortBytes RegistryEntry.key entries) = true then
    fail .duplicateGovernanceKey "registry contains a duplicate governance key"
  else .ok {
    entries := sortBytes RegistryEntry.key entries
    nonempty := by
      rw [← List.length_pos_iff, length_sortBytes, List.length_pos_iff]
      exact hempty
    length_le := by
      rw [length_sortBytes]
      exact Nat.le_of_not_lt hlen
    ascending := ascending_sortBytes (Bool.eq_false_iff.mpr hdup) }

/-- `RegistrySnapshot::to_canonical_cbor` -/
def toCanonicalCbor (self : RegistrySnapshot) : Result Bytes := do
  let encoded := writeArrayLen self.entries.length ++
    self.entries.flatMap fun entry ↦ writeByteString entry.governanceKey.toBytes
  refuseIf (decide (maxCanonicalObjectBytes < encoded.length)) .protocolLimitExceeded
    "canonical registry exceeds the protocol object limit"
  pure encoded

private def readKey : Read GovernancePublicKey := do
  let bytes ← readByteString
  GovernancePublicKey.new bytes

private def readKeys : Read (List GovernancePublicKey) := do
  let memberCount ← readArrayLen
  if memberCount = 0 then
    fail .emptyRegistry "registry must contain at least one governance key"
  if maxRegistryMembers < memberCount then
    fail .protocolLimitExceeded "registry member count exceeds the protocol limit"
  readMany readKey memberCount

/-- `RegistrySnapshot::from_canonical_cbor` -/
def fromCanonicalCbor (encoded : Bytes) : Result RegistrySnapshot := do
  refuseIf (decide (maxCanonicalObjectBytes < encoded.length)) .protocolLimitExceeded
    "encoded registry exceeds the protocol object limit"
  let keys ← readAll readKeys encoded
  requireAscending GovernancePublicKey.toBytes
    ⟨.duplicateGovernanceKey, "registry contains a duplicate governance key"⟩
    ⟨.nonCanonicalCbor, "registry keys are not in canonical order"⟩ keys
  RegistrySnapshot.new (keys.map RegistryEntry.mk)

/-- A registry is accepted by its own constructor, as it stands. -/
theorem new_entries (self : RegistrySnapshot) : RegistrySnapshot.new self.entries = .ok self := by
  have hlen : ¬ maxRegistryMembers < self.entries.length := Nat.not_lt.mpr self.length_le
  have hdup := anyAdjacent_of_ascending self.ascending
  have hsort := sortBytes_of_ascending self.ascending
  unfold RegistrySnapshot.new
  simp only [self.nonempty, hlen, hsort, hdup, Bool.false_eq_true, dite_false]

/-- The order in which entries are given does not matter, also for the error. -/
theorem new_congr {xs ys : List RegistryEntry} (h : xs.Perm ys) :
    RegistrySnapshot.new xs = RegistrySnapshot.new ys := by
  have hempty : (xs = []) ↔ (ys = []) := by
    rw [← List.length_eq_zero_iff, ← List.length_eq_zero_iff, h.length_eq]
  have hkeys := (h.map RegistryEntry.key).nodup_iff
  by_cases hdup : (xs.map RegistryEntry.key).Nodup
  · have hsame := sortBytes_eq_of_perm h hdup
    unfold RegistrySnapshot.new
    simp only [hempty, h.length_eq, hsame]
  · have hxs := Bool.eq_true_of_not_eq_false (mt anyAdjacent_sortBytes_eq_false.mp hdup)
    have hys := Bool.eq_true_of_not_eq_false
      (mt anyAdjacent_sortBytes_eq_false.mp (mt hkeys.mpr hdup))
    unfold RegistrySnapshot.new
    simp only [hempty, h.length_eq, hxs, hys, dite_true]

/-- The constructor keeps the entries it was given, sorted. -/
theorem entries_of_new {entries : List RegistryEntry} {self : RegistrySnapshot}
    (h : RegistrySnapshot.new entries = .ok self) :
    self.entries = sortBytes RegistryEntry.key entries := by
  unfold RegistrySnapshot.new at h
  split at h
  · cases h
  split at h
  · cases h
  split at h
  · cases h
  cases h
  rfl

private theorem reads_readKey (key : GovernancePublicKey) :
    Reads readKey (writeByteString key.toBytes) key :=
  (reads_readByteString _).bind_nil (reads_lift key.new_toBytes)

/-- The encoding of a registry is within the object limit. -/
theorem length_le_of_toCanonicalCbor {self : RegistrySnapshot} {encoded : Bytes}
    (h : self.toCanonicalCbor = .ok encoded) : encoded.length ≤ maxCanonicalObjectBytes :=
  length_le_of_limited h

/-- A registry that can be encoded is decoded to itself. -/
theorem fromCanonicalCbor_toCanonicalCbor {self : RegistrySnapshot} {encoded : Bytes}
    (h : self.toCanonicalCbor = .ok encoded) : fromCanonicalCbor encoded = .ok self := by
  simp only [toCanonicalCbor, bind_eq_ok, refuseIf_eq_ok] at h
  obtain ⟨-, hsize, hencoded⟩ := h
  cases hencoded
  have hcount : self.entries.length < 2 ^ 64 := Nat.lt_of_le_of_lt self.length_le (by decide)
  have hreads : Reads readKeys (writeArrayLen self.entries.length ++
      self.entries.flatMap fun entry ↦ writeByteString entry.governanceKey.toBytes)
        (self.entries.map RegistryEntry.governanceKey) := by
    apply (reads_readArrayLen hcount).bind
    have hzero : self.entries.length ≠ 0 := by
      rw [ne_eq, List.length_eq_zero_iff]
      exact self.nonempty
    have hmax : ¬ maxRegistryMembers < self.entries.length := Nat.not_lt.mpr self.length_le
    simp only [hzero, hmax, if_false]
    have hmany := Reads.many (self.entries.map RegistryEntry.governanceKey)
      fun key _ ↦ reads_readKey key
    rwa [List.length_map, List.flatMap_map] at hmany
  have hlen := of_decide_eq_false hsize
  rw [Nat.not_lt] at hlen
  have hlimit := Nat.lt_of_le_of_lt hlen (show maxCanonicalObjectBytes < 2 ^ 64 by decide)
  have hentries : (self.entries.map RegistryEntry.governanceKey).map RegistryEntry.mk =
      self.entries := by
    rw [List.map_map]
    exact List.map_id self.entries
  simp only [fromCanonicalCbor, bind_eq_ok, refuseIf_eq_ok]
  refine ⟨(), hsize, _, readAll_of_reads hreads hlimit, (), ?_, ?_⟩
  · apply requireAscending_of_ascending
    exact List.pairwise_map.mpr self.ascending
  · rw [hentries]
    exact self.new_entries

/-- The canonical bytes of a registry: the count, then each key. -/
def encode (self : RegistrySnapshot) : Bytes :=
  writeArrayLen self.entries.length ++
    self.entries.flatMap fun entry ↦ writeByteString entry.governanceKey.toBytes

/-- The largest registry with the longest keys is within the object limit. -/
theorem length_encode_le (self : RegistrySnapshot) : self.encode.length ≤ 561161 := by
  have hcount := length_writeArrayLen_le self.entries.length
  have hitem : ∀ entry ∈ self.entries,
      (writeByteString entry.governanceKey.toBytes).length ≤ 137 := by
    intro entry _
    have hkey := length_writeByteString_le entry.governanceKey.toBytes
    have hkeyLen : entry.governanceKey.toBytes.length ≤ 128 := entry.governanceKey.length_le
    omega
  have hitems := length_flatMap_le self.entries hitem
  have hlen : self.entries.length ≤ 4096 := self.length_le
  rw [encode, List.length_append]
  omega

/-- Every registry can be encoded. -/
theorem toCanonicalCbor_eq (self : RegistrySnapshot) : self.toCanonicalCbor = .ok self.encode := by
  have hlen := self.length_encode_le
  have hlimit : ¬ maxCanonicalObjectBytes < self.encode.length := by
    have hmax : maxCanonicalObjectBytes = 1048576 := rfl
    omega
  simp only [toCanonicalCbor, bind_eq_ok, refuseIf_eq_ok]
  exact ⟨(), decide_eq_false hlimit, rfl⟩

private theorem rest_of_readKey {reader next : CanonicalCborReader} {key : GovernancePublicKey}
    (h : readKey reader = .ok (key, next)) :
    reader.rest = writeByteString key.toBytes ++ next.rest := by
  obtain ⟨bytes, middle, hbytes, h⟩ := read_bind_eq_ok.mp h
  obtain ⟨hnew, rfl⟩ := lift_eq_ok h
  rw [GovernancePublicKey.toBytes_of_new hnew]
  exact readByteString_eq_ok hbytes

/-- Accepted bytes are the encoding of the registry they are decoded to. -/
theorem toCanonicalCbor_of_fromCanonicalCbor {encoded : Bytes} {self : RegistrySnapshot}
    (h : fromCanonicalCbor encoded = .ok self) : self.toCanonicalCbor = .ok encoded := by
  simp only [fromCanonicalCbor, bind_eq_ok] at h
  obtain ⟨_, -, keys, hread, _, hordered, hnew⟩ := h
  have hsorted : Ascending RegistryEntry.key (keys.map RegistryEntry.mk) :=
    List.pairwise_map.mpr (ascending_of_requireAscending hordered)
  have hsame : self.entries = keys.map RegistryEntry.mk := by
    have hkept := entries_of_new hnew
    rwa [sortBytes_of_ascending hsorted] at hkept
  obtain ⟨next, hread, hdone⟩ := readAll_eq_ok hread
  obtain ⟨count, middle, hcount, hread⟩ := read_bind_eq_ok.mp hread
  split at hread
  · cases hread
  split at hread
  · cases hread
  obtain ⟨hrest, -⟩ := readArgument_eq_ok hcount
  have hitems := rest_of_readMany rest_of_readKey hread
  obtain ⟨hlen, -⟩ := readMany_eq_ok hread
  rw [toCanonicalCbor_eq, encode, hsame, List.length_map, hlen, List.flatMap_map]
  rw [hdone, List.append_nil] at hitems
  rw [hitems] at hrest
  exact congrArg Except.ok hrest.symm

/-- `RegistrySnapshot::canonical_commitment` -/
def canonicalCommitment (self : RegistrySnapshot) (provider : HashProvider) :
    Result RegistryCommitment := do
  let encoded ← self.toCanonicalCbor
  pure (hashDomainSeparated provider .registrySnapshotV1 encoded)

end RegistrySnapshot

end PrivateBallot.Registry
