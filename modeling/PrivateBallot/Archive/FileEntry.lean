import PrivateBallot.Protocol.Hashing

/-!
# Archive paths, file digests and the catalog

Library `Archive`. `crates/archive/src/file_entry.rs`: portable relative paths, the digest of a
file's bytes, and the catalog of an archive's content files in path order. The checks of each
constructor are fields of its type.
-/

namespace PrivateBallot.Archive

open PrivateBallot.Base
open PrivateBallot.Protocol

private def invalidPath (refused : Bool) (message : String) : Result Unit :=
  refuseIf refused .invalidArchivePath message

/-- `/`, which separates the segments of a path. -/
def slash : UInt8 := 0x2f

/-- `.` -/
def dot : UInt8 := 0x2e

/-- `is_ascii_alphanumeric` -/
def isAsciiAlphanumeric (byte : UInt8) : Bool :=
  (0x30 ≤ byte && byte ≤ 0x39) || (0x41 ≤ byte && byte ≤ 0x5a) || (0x61 ≤ byte && byte ≤ 0x7a)

/-- `is_allowed_path_byte` -/
def isAllowedPathByte (byte : UInt8) : Bool :=
  isAsciiAlphanumeric byte || byte = 0x2d || byte = 0x5f || byte = dot || byte = slash

/-- `to_ascii_uppercase` -/
def toAsciiUppercase (bytes : Bytes) : Bytes :=
  bytes.map fun byte ↦ if 0x61 ≤ byte && byte ≤ 0x7a then byte - 0x20 else byte

/-- `to_ascii_lowercase` -/
def toAsciiLowercase (bytes : Bytes) : Bytes :=
  bytes.map fun byte ↦ if 0x41 ≤ byte && byte ≤ 0x5a then byte + 0x20 else byte

/-- The device names of `is_windows_reserved_name`. -/
def windowsReservedNames : List Bytes :=
  ["CON", "PRN", "AUX", "NUL", "COM1", "COM2", "COM3", "COM4", "COM5", "COM6", "COM7", "COM8",
    "COM9", "LPT1", "LPT2", "LPT3", "LPT4", "LPT5", "LPT6", "LPT7", "LPT8", "LPT9"].map fun name ↦
      (Text.lit name).toBytes

/-- `validate_segment` -/
def validateSegment (segment : Bytes) : Result Unit := do
  invalidPath segment.isEmpty "archive path must not contain an empty segment"
  invalidPath (decide (segment = [dot] ∨ segment = [dot, dot]))
    "archive path must not contain traversal segments"
  invalidPath (decide (segment.getLast? = some dot)) "archive path segment must not end with a dot"
  invalidPath (windowsReservedNames.contains (toAsciiUppercase (segment.takeWhile (· ≠ dot))))
    "archive path contains a reserved portable device name"

/-- A name that every supported file system takes as it stands. -/
structure IsPortableName (name : Bytes) : Prop where
  nonempty : name ≠ []
  notHere : name ≠ [dot]
  notParent : name ≠ [dot, dot]
  noTrailingDot : name.getLast? ≠ some dot
  notReserved : toAsciiUppercase (name.takeWhile (· ≠ dot)) ∉ windowsReservedNames

theorem isPortableName_of_validateSegment {segment : Bytes}
    (h : validateSegment segment = .ok ()) : IsPortableName segment := by
  simp only [validateSegment, invalidPath, bind_eq_ok, refuseIf_eq_ok] at h
  obtain ⟨_, hempty, _, htraversal, _, hdot, hreserved⟩ := h
  simp only [decide_eq_false_iff_not, not_or] at htraversal hdot
  refine ⟨by simpa using hempty, htraversal.1, htraversal.2, hdot, ?_⟩
  rw [← List.contains_iff_mem, hreserved]
  exact Bool.false_ne_true

/-- The checks of `ArchivePathV1::new`; `crates/archive/src/file_entry.rs:22`. -/
def validateArchivePath (path : Text) : Result Unit := do
  refuseIf path.toBytes.isEmpty .emptyArchivePath "archive path must not be empty"
  refuseIf (decide (maxArchivePathBytes < path.len)) .protocolLimitExceeded
    "archive path exceeds the protocol size limit"
  invalidPath (!path.toBytes.all (· < 0x80))
    "archive path must use the version-one portable ASCII profile"
  invalidPath (decide (path.toBytes.head? = some slash ∨ path.toBytes.getLast? = some slash))
    "archive path must be relative and must name a file"
  invalidPath (path.toBytes.contains 0x5c || path.toBytes.contains 0x3a)
    "archive path must not contain a backslash or drive prefix"
  invalidPath (!path.toBytes.all isAllowedPathByte)
    "archive path contains a character outside the portable profile"
  (path.toBytes.splitOn slash).forM validateSegment

/-- `ArchivePathV1` -/
structure ArchivePathV1 where
  value : Text
  valid : validateArchivePath value = .ok ()
deriving DecidableEq

namespace ArchivePathV1

/-- `ArchivePathV1::new` -/
def new (path : Text) : Result ArchivePathV1 :=
  match h : validateArchivePath path with
  | .ok () => .ok ⟨path, h⟩
  | .error e => .error e

/-- The bytes a path is compared by. -/
def toBytes (self : ArchivePathV1) : Bytes := self.value.toBytes

/-- A path is accepted by its own check. -/
theorem new_value (self : ArchivePathV1) : new self.value = .ok self := by
  unfold new
  split
  · rfl
  · next e herror =>
    rw [self.valid] at herror
    cases herror

theorem value_of_new {path : Text} {self : ArchivePathV1} (h : new path = .ok self) :
    self.value = path := by
  unfold new at h
  split at h
  · cases h
    rfl
  · cases h

/-- Every name on an accepted path is portable. -/
theorem isPortableName (self : ArchivePathV1) :
    ∀ name ∈ self.value.toBytes.splitOn slash, IsPortableName name := by
  intro name hname
  have hvalid := self.valid
  simp only [validateArchivePath, bind_eq_ok] at hvalid
  obtain ⟨_, _, _, _, _, _, _, _, _, _, _, _, hsegments⟩ := hvalid
  exact isPortableName_of_validateSegment (forM_eq_ok.mp hsegments name hname)

/-- `portable_collision_key` -/
def portableCollisionKey (self : ArchivePathV1) : Bytes := toAsciiLowercase self.toBytes

end ArchivePathV1

/-- `ArchiveFileDigestV1` -/
abbrev ArchiveFileDigestV1 := Bytes32

/-- `ArchiveFileDigestV1::for_bytes` -/
def archiveFileDigest (provider : HashProvider) (bytes : Bytes) : ArchiveFileDigestV1 :=
  hashDomainSeparated provider .archiveFileV1 bytes

/-- `ArchiveFileEntryV1` -/
structure ArchiveFileEntryV1 where
  path : ArchivePathV1
  digest : ArchiveFileDigestV1
deriving DecidableEq

namespace ArchiveFileEntryV1

/-- `ArchiveFileEntryV1::for_bytes` -/
def forBytes (path : ArchivePathV1) (provider : HashProvider) (bytes : Bytes) :
    ArchiveFileEntryV1 :=
  ⟨path, archiveFileDigest provider bytes⟩

/-- `verify_bytes` -/
def verifyBytes (self : ArchiveFileEntryV1) (provider : HashProvider) (bytes : Bytes) :
    Result Unit :=
  refuseIf (decide (archiveFileDigest provider bytes ≠ self.digest)) .archiveFileDigestMismatch
    "archive file bytes do not match the recorded digest"

/-- Sort key of an entry. -/
def key (self : ArchiveFileEntryV1) : Bytes := self.path.toBytes

end ArchiveFileEntryV1

/-- `ArchiveFileCatalogV1`: content files in path order, no two of them colliding. -/
structure ArchiveFileCatalogV1 where
  entries : List ArchiveFileEntryV1
  nonempty : entries ≠ []
  length_le : entries.length ≤ maxArchiveFiles
  sorted : sortBytes ArchiveFileEntryV1.key entries = entries
  portable : (entries.map fun entry ↦ entry.path.portableCollisionKey).Nodup
deriving DecidableEq

namespace ArchiveFileCatalogV1

/-- `ArchiveFileCatalogV1::new`; `crates/archive/src/file_entry.rs:200`. -/
def new (entries : List ArchiveFileEntryV1) : Result ArchiveFileCatalogV1 :=
  if hempty : entries = [] then
    fail .emptyArchiveFileSet "archive file catalog must not be empty"
  else if hlen : maxArchiveFiles < entries.length then
    fail .protocolLimitExceeded "archive file count exceeds the protocol limit"
  else if hportable : ((sortBytes ArchiveFileEntryV1.key entries).map fun entry ↦
      entry.path.portableCollisionKey).Nodup then
    .ok {
      entries := sortBytes ArchiveFileEntryV1.key entries
      nonempty := by
        rw [← List.length_pos_iff, length_sortBytes, List.length_pos_iff]
        exact hempty
      length_le := by
        rw [length_sortBytes]
        exact Nat.le_of_not_lt hlen
      sorted := sortBytes_sortBytes _ entries
      portable := hportable }
  else fail .duplicateArchivePath "archive contains duplicate or case-colliding paths"

/-- A catalog is accepted by its own constructor, as it stands. -/
theorem new_entries (self : ArchiveFileCatalogV1) : new self.entries = .ok self := by
  have hlen : ¬ maxArchiveFiles < self.entries.length := Nat.not_lt.mpr self.length_le
  unfold new
  simp only [self.nonempty, hlen, self.sorted, self.portable, dite_true, dite_false]

/-- The catalog made of these entries, where there is one, holds them in path order. -/
theorem entries_of_new {entries : List ArchiveFileEntryV1} {self : ArchiveFileCatalogV1}
    (h : new entries = .ok self) : self.entries = sortBytes ArchiveFileEntryV1.key entries := by
  unfold new at h
  split at h
  · cases h
  · split at h
    · cases h
    · split at h
      · cases h
        rfl
      · cases h

/-- Entries are in strictly ascending path order. -/
theorem ascending (self : ArchiveFileCatalogV1) :
    Ascending ArchiveFileEntryV1.key self.entries := by
  have hsorted := pairwise_sortBytes ArchiveFileEntryV1.key self.entries
  rw [self.sorted] at hsorted
  have hdistinct : self.entries.Pairwise fun a b ↦ a.key ≠ b.key := by
    have hportable := List.pairwise_map.mp self.portable
    apply hportable.imp
    intro a b hne heq
    exact hne (congrArg toAsciiLowercase heq)
  have hboth := hsorted.and hdistinct
  apply hboth.imp
  rintro a b ⟨hle, hne⟩
  exact Std.lt_of_le_of_ne hle hne

end ArchiveFileCatalogV1

end PrivateBallot.Archive
