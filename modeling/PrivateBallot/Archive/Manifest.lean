import PrivateBallot.Archive.FileEntry
import PrivateBallot.Protocol.CborItems

/-!
# Archive manifests

Library `Archive`. `crates/archive/src/manifest.rs`: version one covers the catalog of content
files, version two binds the FINALIZED lifecycle state as well. The archive hash is the hash of
the canonical encoding.
-/

namespace PrivateBallot.Archive

open PrivateBallot.Base
open PrivateBallot.Protocol

/-- `ARCHIVE_MANIFEST_VERSION_V1` -/
def archiveManifestVersionV1 : Nat := 1

/-- `ARCHIVE_MANIFEST_VERSION_V2` -/
def archiveManifestVersionV2 : Nat := 2

/-- `ARCHIVE_FINAL_LIFECYCLE_STATE_FINALIZED_V1` -/
def archiveFinalLifecycleStateFinalizedV1 : Text := .lit "FINALIZED"

/-- `ARCHIVE_MANIFEST_CANONICAL_PATH` -/
def archiveManifestCanonicalPath : Text := .lit "archive-manifest.cbor"

/-- `ARCHIVE_SIGNATURE_PATH_PREFIX` -/
def archiveSignaturePathPrefix : Text := .lit "archive-signatures/"

/-- `value.starts_with(start)` on strings. -/
def startsWith (value start : Text) : Bool := start.toBytes.isPrefixOf value.toBytes

/-- `ArchiveHashV1` -/
abbrev ArchiveHashV1 := Bytes32

/-- `validate_catalog_scope`, for one entry. -/
def validateCatalogScope (entry : ArchiveFileEntryV1) : Result Unit := do
  refuseIf (decide (entry.path.value = archiveManifestCanonicalPath)) .invalidArchiveManifest
    "archive manifest cannot include its own canonical file"
  refuseIf (startsWith entry.path.value archiveSignaturePathPrefix) .invalidArchiveManifest
    "detached archive signatures are outside the hash-covered content catalog"

/-- The fields of an archive manifest. -/
structure ArchiveManifestFields where
  archiveManifestVersion : Nat
  electionManifestHash : ManifestHash
  hashAlgorithmId : Text
  finalLifecycleState : Option Text
  files : ArchiveFileCatalogV1
deriving DecidableEq

namespace ArchiveManifestFields

/-- The lifecycle state a version has to carry. -/
def validateVersion (fields : ArchiveManifestFields) : Result Unit :=
  if fields.archiveManifestVersion = archiveManifestVersionV1 then
    refuseIf fields.finalLifecycleState.isSome .invalidArchiveManifest
      "archive manifest version one cannot carry final lifecycle state"
  else if fields.archiveManifestVersion = archiveManifestVersionV2 then
    refuseIf (decide (fields.finalLifecycleState ≠ some archiveFinalLifecycleStateFinalizedV1))
      .invalidArchiveManifest "archive manifest version two must bind FINALIZED lifecycle state"
  else fail .unsupportedProtocolVersion "archive manifest uses an unsupported version"

/-- The checks on the identifier of the hash function. -/
def validateHashAlgorithmId (hashAlgorithmId : Text) : Result Unit := do
  refuseIf hashAlgorithmId.trimIsEmpty .emptyHashAlgorithmId
    "archive hash-algorithm identifier must not be empty"
  refuseIf (decide (maxHashAlgorithmIdBytes < hashAlgorithmId.len)) .protocolLimitExceeded
    "archive hash-algorithm identifier exceeds the protocol limit"

/-- The checks of `new_with_lifecycle`. -/
def validate (fields : ArchiveManifestFields) : Result Unit := do
  fields.validateVersion
  validateHashAlgorithmId fields.hashAlgorithmId
  fields.files.entries.forM validateCatalogScope

end ArchiveManifestFields

/-- `ArchiveManifestV1` -/
structure ArchiveManifestV1 extends ArchiveManifestFields where
  valid : toArchiveManifestFields.validate = .ok ()
deriving DecidableEq

namespace ArchiveManifestV1

/-- `new_with_lifecycle` -/
def newWithLifecycle (input : ArchiveManifestFields) : Result ArchiveManifestV1 :=
  match h : input.validate with
  | .ok () => .ok ⟨input, h⟩
  | .error e => .error e

/-- `ArchiveManifestV1::for_provider` -/
def forProvider (electionManifestHash : ManifestHash) (files : ArchiveFileCatalogV1)
    (provider : HashProvider) : Result ArchiveManifestV1 :=
  newWithLifecycle
    ⟨archiveManifestVersionV1, electionManifestHash, provider.algorithmId, none, files⟩

/-- `ArchiveManifestV1::finalized_for_provider` -/
def finalizedForProvider (electionManifestHash : ManifestHash) (files : ArchiveFileCatalogV1)
    (provider : HashProvider) : Result ArchiveManifestV1 :=
  newWithLifecycle ⟨archiveManifestVersionV2, electionManifestHash, provider.algorithmId,
    some archiveFinalLifecycleStateFinalizedV1, files⟩

/-- `is_finalized_archive_manifest` -/
def isFinalizedArchiveManifest (self : ArchiveManifestV1) : Bool :=
  decide (self.archiveManifestVersion = archiveManifestVersionV2) &&
    decide (self.finalLifecycleState = some archiveFinalLifecycleStateFinalizedV1)

/-- The lifecycle state that version two writes. -/
private def encodeState (fields : ArchiveManifestFields) : Bytes :=
  if fields.archiveManifestVersion = archiveManifestVersionV2 then
    writeTextString (fields.finalLifecycleState.getD archiveFinalLifecycleStateFinalizedV1)
  else []

private def encodeEntry (entry : ArchiveFileEntryV1) : Bytes :=
  writeArrayLen 2 ++ writeTextString entry.path.value ++ writeByteString entry.digest.toBytes

/-- The written items of a manifest, in order. -/
private def encode (fields : ArchiveManifestFields) : Bytes :=
  writeArrayLen (if fields.archiveManifestVersion = archiveManifestVersionV2 then 5 else 4) ++
    writeUnsigned fields.archiveManifestVersion ++
    writeByteString fields.electionManifestHash.toBytes ++
    writeTextString fields.hashAlgorithmId ++ encodeState fields ++
    writeArrayLen fields.files.entries.length ++ fields.files.entries.flatMap encodeEntry

/-- `ArchiveManifestV1::to_canonical_cbor` -/
def toCanonicalCbor (self : ArchiveManifestV1) : Result Bytes := do
  let encoded := encode self.toArchiveManifestFields
  refuseIf (decide (maxCanonicalObjectBytes < encoded.length)) .protocolLimitExceeded
    "canonical archive manifest exceeds the protocol object limit"
  pure encoded

/-- The length of the entry of a file. -/
def entryLength (path : Text) : Nat := 35 + stringLength path.len

/-- The length of what is written. -/
def encodedLength (fields : ArchiveManifestFields) : Nat :=
  35 + argumentLength fields.archiveManifestVersion + stringLength fields.hashAlgorithmId.len +
    (if fields.archiveManifestVersion = archiveManifestVersionV2 then
      stringLength (fields.finalLifecycleState.getD archiveFinalLifecycleStateFinalizedV1).len
    else 0) +
    argumentLength fields.files.entries.length +
    (fields.files.entries.map fun entry ↦ entryLength entry.path.value).sum

private theorem length_encodeEntry (entry : ArchiveFileEntryV1) :
    (encodeEntry entry).length = entryLength entry.path.value := by
  have htwo : argumentLength 2 = 1 := rfl
  have hdigest : stringLength 32 = 34 := rfl
  rw [encodeEntry, List.length_append, List.length_append, writeArrayLen, length_encodeArgument,
    length_writeTextString, length_writeByteString, Bytes32.length_eq, htwo, hdigest,
    entryLength]
  omega

private theorem length_encode (fields : ArchiveManifestFields) :
    (encode fields).length = encodedLength fields := by
  have hcount : argumentLength
      (if fields.archiveManifestVersion = archiveManifestVersionV2 then 5 else 4) = 1 := by
    split <;> rfl
  have hdigest : stringLength 32 = 34 := rfl
  have hstate : (encodeState fields).length =
      if fields.archiveManifestVersion = archiveManifestVersionV2 then
        stringLength (fields.finalLifecycleState.getD archiveFinalLifecycleStateFinalizedV1).len
      else 0 := by
    rw [encodeState, apply_ite List.length, length_writeTextString, List.length_nil]
  have hentries : (fields.files.entries.flatMap encodeEntry).length =
      (fields.files.entries.map fun entry ↦ entryLength entry.path.value).sum := by
    simp only [List.length_flatMap, length_encodeEntry]
  simp only [encode, encodedLength, List.length_append, hstate, hentries, writeArrayLen,
    writeUnsigned, length_encodeArgument, length_writeTextString, length_writeByteString,
    Bytes32.length_eq, hcount, hdigest]
  omega

/-- A manifest is encoded exactly when it is within the object limit. -/
theorem exists_toCanonicalCbor_iff (self : ArchiveManifestV1) :
    (∃ encoded, self.toCanonicalCbor = .ok encoded) ↔
      encodedLength self.toArchiveManifestFields ≤ maxCanonicalObjectBytes := by
  rw [← length_encode]
  simp only [toCanonicalCbor, bind_eq_ok, refuseIf_eq_ok, decide_eq_false_iff_not, Nat.not_lt]
  constructor
  · rintro ⟨_, _, hsize, -⟩
    exact hsize
  · intro hsize
    exact ⟨_, (), hsize, rfl⟩

/-- What is read before the catalog is built. -/
private structure Decoded where
  archiveManifestVersion : Nat
  electionManifestHash : ManifestHash
  hashAlgorithmId : Text
  finalLifecycleState : Option Text
  entries : List ArchiveFileEntryV1

private def readVersion : Read Nat := do
  let fieldCount ← readArrayLen
  if fieldCount ≠ 4 ∧ fieldCount ≠ 5 then
    fail .invalidCbor "archive manifest must contain a supported field count"
  let version ← readUnsigned
  if 2 ^ 16 ≤ version then
    fail .invalidCbor "archive-manifest version exceeds the integer limit"
  if version = archiveManifestVersionV1 ∧ fieldCount ≠ 4 then
    fail .invalidCbor "archive manifest version one has the wrong field count"
  if version = archiveManifestVersionV2 ∧ fieldCount ≠ 5 then
    fail .invalidCbor "archive manifest version two has the wrong field count"
  if version ≠ archiveManifestVersionV1 ∧ version ≠ archiveManifestVersionV2 then
    fail .unsupportedProtocolVersion "archive manifest uses an unsupported version"
  pure version

private def readState (version : Nat) : Read (Option Text) := do
  if version = archiveManifestVersionV2 then
    let state ← readTextString
    if state ≠ archiveFinalLifecycleStateFinalizedV1 then
      fail .invalidArchiveManifest "archive manifest version two does not bind FINALIZED state"
    pure (some state)
  else pure none

private def readEntry : Read ArchiveFileEntryV1 := do
  let fields ← readArrayLen
  if fields ≠ 2 then
    fail .invalidCbor "archive file entry must contain exactly two fields"
  let text ← readTextString
  let path ← ArchivePathV1.new text
  let digest ← readBytes32 ⟨.invalidCbor, "archive file digest must contain exactly 32 bytes"⟩
  pure ⟨path, digest⟩

private def readEntries : Read (List ArchiveFileEntryV1) := do
  let fileCount ← readArrayLen
  if fileCount = 0 then
    fail .emptyArchiveFileSet "archive manifest must contain at least one content file"
  if maxArchiveFiles < fileCount then
    fail .protocolLimitExceeded "archive manifest file count exceeds the protocol limit"
  readMany readEntry fileCount

private def readFields (archiveManifestVersion : Nat) : Read Decoded := do
  let electionManifestHash ←
    readBytes32 ⟨.invalidCbor, "election-manifest hash must contain exactly 32 bytes"⟩
  let hashAlgorithmId ← readTextString
  ArchiveManifestFields.validateHashAlgorithmId hashAlgorithmId
  let finalLifecycleState ← readState archiveManifestVersion
  let entries ← readEntries
  pure { archiveManifestVersion, electionManifestHash, hashAlgorithmId, finalLifecycleState,
         entries }

private def readManifest : Read Decoded := do
  let archiveManifestVersion ← readVersion
  readFields archiveManifestVersion

/-- `ArchiveManifestV1::from_canonical_cbor`; `crates/archive/src/manifest.rs:263`. -/
def fromCanonicalCbor (encoded : Bytes) : Result ArchiveManifestV1 := do
  refuseIf (decide (maxCanonicalObjectBytes < encoded.length)) .protocolLimitExceeded
    "encoded archive manifest exceeds the protocol object limit"
  let decoded ← readAll readManifest encoded
  refuseIf (anyAdjacent (fun a b ↦ decide (ArchiveFileEntryV1.key b < ArchiveFileEntryV1.key a))
    decoded.entries) .nonCanonicalCbor "archive file entries are not in canonical path order"
  let files ← ArchiveFileCatalogV1.new decoded.entries
  newWithLifecycle ⟨decoded.archiveManifestVersion, decoded.electionManifestHash,
    decoded.hashAlgorithmId, decoded.finalLifecycleState, files⟩

/-- `validate_hash_provider` -/
def validateHashProvider (self : ArchiveManifestV1) (provider : HashProvider) : Result Unit :=
  refuseIf (decide (provider.algorithmId ≠ self.hashAlgorithmId)) .unsupportedHashAlgorithm
    "selected hash provider differs from the archive manifest"

/-- `canonical_hash` -/
def canonicalHash (self : ArchiveManifestV1) (provider : HashProvider) : Result ArchiveHashV1 := do
  self.validateHashProvider provider
  let encoded ← self.toCanonicalCbor
  pure (hashDomainSeparated provider .archiveManifestV1 encoded)

/-- A manifest is accepted by its own checks. -/
theorem newWithLifecycle_toArchiveManifestFields (self : ArchiveManifestV1) :
    newWithLifecycle self.toArchiveManifestFields = .ok self := by
  unfold newWithLifecycle
  split
  · rfl
  · next e herror =>
    rw [self.valid] at herror
    cases herror

/-- A manifest that was built has the fields it was built from. -/
theorem toArchiveManifestFields_of_newWithLifecycle {input : ArchiveManifestFields}
    {self : ArchiveManifestV1} (h : newWithLifecycle input = .ok self) :
    self.toArchiveManifestFields = input := by
  unfold newWithLifecycle at h
  split at h
  · cases h
    rfl
  · cases h

/-- The two versions, each with the lifecycle state it carries. -/
theorem version_cases (self : ArchiveManifestV1) :
    (self.archiveManifestVersion = archiveManifestVersionV1 ∧ self.finalLifecycleState = none) ∨
      (self.archiveManifestVersion = archiveManifestVersionV2 ∧
        self.finalLifecycleState = some archiveFinalLifecycleStateFinalizedV1) := by
  have hvalid := self.valid
  simp only [ArchiveManifestFields.validate, bind_eq_ok] at hvalid
  obtain ⟨u, hversion, _⟩ := hvalid
  unfold ArchiveManifestFields.validateVersion at hversion
  split at hversion
  · next hone =>
    rw [refuseIf_eq_ok, Option.isSome_eq_false_iff, Option.isNone_iff_eq_none] at hversion
    exact Or.inl ⟨hone, hversion⟩
  · split at hversion
    · next htwo =>
      rw [refuseIf_eq_ok, decide_eq_false_iff_not, ne_eq, not_not] at hversion
      exact Or.inr ⟨htwo, hversion⟩
    · cases hversion

/-- The identifier of the hash function passes its check. -/
theorem validateHashAlgorithmId_hashAlgorithmId (self : ArchiveManifestV1) :
    ArchiveManifestFields.validateHashAlgorithmId self.hashAlgorithmId = .ok () := by
  have hvalid := self.valid
  simp only [ArchiveManifestFields.validate, bind_eq_ok] at hvalid
  obtain ⟨_, _, _, hid, _⟩ := hvalid
  exact hid

private theorem reads_readEntry (entry : ArchiveFileEntryV1) :
    Reads readEntry (encodeEntry entry) entry := by
  unfold encodeEntry
  rw [List.append_assoc]
  apply (reads_readArrayLen (by decide)).bind
  simp only [ne_eq, not_true_eq_false, if_false]
  apply (reads_readTextString _).bind
  apply Reads.nil_bind (reads_lift entry.path.new_value)
  exact (reads_readBytes32 _ _).bind_nil (Reads.pure entry)

private theorem reads_readEntries (files : ArchiveFileCatalogV1) :
    Reads readEntries (writeArrayLen files.entries.length ++ files.entries.flatMap encodeEntry)
      files.entries := by
  have hlen : ¬ maxArchiveFiles < files.entries.length := Nat.not_lt.mpr files.length_le
  have hcount : files.entries.length < 2 ^ 64 := Nat.lt_of_le_of_lt files.length_le (by decide)
  have hzero : files.entries.length ≠ 0 := by
    rw [ne_eq, List.length_eq_zero_iff]
    exact files.nonempty
  apply (reads_readArrayLen hcount).bind
  simp only [hzero, hlen, if_false]
  exact Reads.many files.entries fun entry _ ↦ reads_readEntry entry

-- The version decides on the number of fields and on the state that is written.
private theorem reads_readVersion (self : ArchiveManifestV1) :
    Reads readVersion
      (writeArrayLen (if self.archiveManifestVersion = archiveManifestVersionV2 then 5 else 4) ++
        writeUnsigned self.archiveManifestVersion) self.archiveManifestVersion := by
  rcases self.version_cases with ⟨hversion, -⟩ | ⟨hversion, -⟩
  · rw [hversion]
    apply (reads_readArrayLen (by decide)).bind
    exact (reads_readUnsigned (by decide)).bind_nil (Reads.pure _)
  · rw [hversion]
    apply (reads_readArrayLen (by decide)).bind
    exact (reads_readUnsigned (by decide)).bind_nil (Reads.pure _)

private theorem reads_readState (self : ArchiveManifestV1) :
    Reads (readState self.archiveManifestVersion) (encodeState self.toArchiveManifestFields)
      self.finalLifecycleState := by
  rcases self.version_cases with ⟨hversion, hstate⟩ | ⟨hversion, hstate⟩
  · rw [encodeState, hversion, hstate]
    exact Reads.pure none
  · rw [encodeState, hversion, hstate]
    exact (reads_readTextString _).bind_nil (Reads.pure _)

private theorem reads_readManifest (self : ArchiveManifestV1) :
    Reads readManifest (encode self.toArchiveManifestFields)
      ⟨self.archiveManifestVersion, self.electionManifestHash, self.hashAlgorithmId,
        self.finalLifecycleState, self.files.entries⟩ := by
  have hid := reads_lift self.validateHashAlgorithmId_hashAlgorithmId
  have hfields : Reads (readFields self.archiveManifestVersion)
      (writeByteString self.electionManifestHash.toBytes ++
        (writeTextString self.hashAlgorithmId ++ (encodeState self.toArchiveManifestFields ++
          (writeArrayLen self.files.entries.length ++ self.files.entries.flatMap encodeEntry))))
      ⟨self.archiveManifestVersion, self.electionManifestHash, self.hashAlgorithmId,
        self.finalLifecycleState, self.files.entries⟩ := by
    apply (reads_readBytes32 _ _).bind
    apply (reads_readTextString _).bind
    apply Reads.nil_bind hid
    apply self.reads_readState.bind
    exact (reads_readEntries self.files).bind_nil (Reads.pure _)
  have hwhole := self.reads_readVersion.bind hfields
  simpa only [encode, List.append_assoc, readManifest] using hwhole

/-- A manifest that can be encoded is decoded to itself. -/
theorem fromCanonicalCbor_toCanonicalCbor {self : ArchiveManifestV1} {encoded : Bytes}
    (h : self.toCanonicalCbor = .ok encoded) : fromCanonicalCbor encoded = .ok self := by
  simp only [toCanonicalCbor, bind_eq_ok, refuseIf_eq_ok] at h
  obtain ⟨-, hsize, hencoded⟩ := h
  cases hencoded
  have hlen := of_decide_eq_false hsize
  rw [Nat.not_lt] at hlen
  have hlimit := Nat.lt_of_le_of_lt hlen (show maxCanonicalObjectBytes < 2 ^ 64 by decide)
  simp only [fromCanonicalCbor, bind_eq_ok, refuseIf_eq_ok]
  refine ⟨(), hsize, _, readAll_of_reads self.reads_readManifest hlimit, (), ?_, self.files,
    self.files.new_entries, self.newWithLifecycle_toArchiveManifestFields⟩
  exact anyAdjacent_lt_of_ascending self.files.ascending

/-! ### Accepted bytes -/

section Inversion

variable {reader next : CanonicalCborReader}

private theorem rest_of_readVersion {version : Nat} (h : readVersion reader = .ok (version, next)) :
    reader.rest = writeArrayLen (if version = archiveManifestVersionV2 then 5 else 4) ++
      (writeUnsigned version ++ next.rest) := by
  obtain ⟨fieldCount, r1, hcount, h⟩ := read_bind_eq_ok.mp h
  by_cases hfields : fieldCount ≠ 4 ∧ fieldCount ≠ 5
  · simp only [if_pos hfields] at h
    cases h
  simp only [if_neg hfields] at h
  obtain ⟨value, r2, hvalue, h⟩ := read_bind_eq_ok.mp h
  by_cases hlimit : 2 ^ 16 ≤ value
  · simp only [if_pos hlimit] at h
    cases h
  by_cases hone : value = archiveManifestVersionV1 ∧ fieldCount ≠ 4
  · simp only [if_neg hlimit, if_pos hone] at h
    cases h
  by_cases htwo : value = archiveManifestVersionV2 ∧ fieldCount ≠ 5
  · simp only [if_neg hlimit, if_neg hone, if_pos htwo] at h
    cases h
  by_cases hother : value ≠ archiveManifestVersionV1 ∧ value ≠ archiveManifestVersionV2
  · simp only [if_neg hlimit, if_neg hone, if_neg htwo, if_pos hother] at h
    cases h
  simp only [if_neg hlimit, if_neg hone, if_neg htwo, if_neg hother] at h
  cases h
  have hcountValue : fieldCount = if version = archiveManifestVersionV2 then 5 else 4 := by
    split <;> omega
  rw [(readArgument_eq_ok hcount).1, (readArgument_eq_ok hvalue).1, hcountValue]
  rfl

private theorem rest_of_readState {version : Nat} {state : Option Text}
    (h : readState version reader = .ok (state, next)) :
    reader.rest = (if version = archiveManifestVersionV2 then
      writeTextString (state.getD archiveFinalLifecycleStateFinalizedV1) else []) ++ next.rest := by
  unfold readState at h
  split at h
  · next hversion =>
    obtain ⟨text, r1, htext, h⟩ := read_bind_eq_ok.mp h
    split at h
    · cases h
    cases h
    rw [if_pos hversion]
    exact readTextString_eq_ok htext
  · next hversion =>
    cases h
    rw [if_neg hversion]
    rfl

private theorem rest_of_readBytes32 {error : ProtocolError} {digest : Bytes32}
    (h : readBytes32 error reader = .ok (digest, next)) :
    reader.rest = writeByteString digest.toBytes ++ next.rest := by
  obtain ⟨bytes, middle, hbytes, h⟩ := read_bind_eq_ok.mp h
  have hrest := readByteString_eq_ok hbytes
  cases hsome : Bytes32.ofBytes? bytes with
  | none =>
    rw [hsome] at h
    cases h
  | some value =>
    rw [hsome] at h
    cases h
    rw [hrest, Bytes32.toBytes_of_ofBytes? hsome]

private theorem rest_of_readEntry {entry : ArchiveFileEntryV1}
    (h : readEntry reader = .ok (entry, next)) :
    reader.rest = encodeEntry entry ++ next.rest := by
  obtain ⟨fields, r1, hfields, h⟩ := read_bind_eq_ok.mp h
  split at h
  · cases h
  next htwo =>
  obtain ⟨text, r2, htext, h⟩ := read_bind_eq_ok.mp h
  obtain ⟨path, r3, hpath, h⟩ := read_bind_eq_ok.mp h
  obtain ⟨digest, r4, hdigest, h⟩ := read_bind_eq_ok.mp h
  cases h
  obtain ⟨hnew, rfl⟩ := lift_eq_ok hpath
  rw [(readArgument_eq_ok hfields).1, readTextString_eq_ok htext, rest_of_readBytes32 hdigest,
    not_not.mp htwo, encodeEntry, ArchivePathV1.value_of_new hnew]
  simp only [List.append_assoc]
  rfl

private theorem rest_of_readEntries {entries : List ArchiveFileEntryV1}
    (h : readEntries reader = .ok (entries, next)) :
    reader.rest = writeArrayLen entries.length ++ (entries.flatMap encodeEntry ++ next.rest) := by
  obtain ⟨count, r1, hcount, h⟩ := read_bind_eq_ok.mp h
  split at h
  · cases h
  split at h
  · cases h
  rw [(readArgument_eq_ok hcount).1, rest_of_readMany rest_of_readEntry h, (readMany_eq_ok h).1]
  rfl

private theorem rest_of_readManifest {decoded : Decoded}
    (h : readManifest reader = .ok (decoded, next)) {files : ArchiveFileCatalogV1}
    (hfiles : files.entries = decoded.entries) :
    reader.rest = encode ⟨decoded.archiveManifestVersion, decoded.electionManifestHash,
      decoded.hashAlgorithmId, decoded.finalLifecycleState, files⟩ ++ next.rest := by
  obtain ⟨version, r1, hversion, h⟩ := read_bind_eq_ok.mp h
  obtain ⟨hash, r2, hhash, h⟩ := read_bind_eq_ok.mp h
  obtain ⟨id, r3, hid, h⟩ := read_bind_eq_ok.mp h
  obtain ⟨checked, r4, hchecked, h⟩ := read_bind_eq_ok.mp h
  obtain ⟨state, r5, hstate, h⟩ := read_bind_eq_ok.mp h
  obtain ⟨entries, r6, hentries, h⟩ := read_bind_eq_ok.mp h
  cases h
  obtain ⟨-, rfl⟩ := lift_eq_ok hchecked
  rw [rest_of_readVersion hversion, rest_of_readBytes32 hhash, readTextString_eq_ok hid,
    rest_of_readState hstate, rest_of_readEntries hentries]
  simp only [encode, encodeState, hfiles, List.append_assoc]

end Inversion

/-- Accepted bytes are the encoding of their manifest. -/
theorem toCanonicalCbor_of_fromCanonicalCbor {encoded : Bytes} {self : ArchiveManifestV1}
    (h : fromCanonicalCbor encoded = .ok self) : self.toCanonicalCbor = .ok encoded := by
  simp only [fromCanonicalCbor, bind_eq_ok, refuseIf_eq_ok] at h
  obtain ⟨_, hsize, decoded, hread, _, hordered, files, hfiles, hnew⟩ := h
  have hentries : files.entries = decoded.entries := by
    rw [ArchiveFileCatalogV1.entries_of_new hfiles, sortBytes_of_anyAdjacent hordered]
  obtain ⟨next, hread, hdone⟩ := readAll_eq_ok hread
  have hrest := rest_of_readManifest hread hentries
  rw [hdone, List.append_nil] at hrest
  have hfields := toArchiveManifestFields_of_newWithLifecycle hnew
  simp only [toCanonicalCbor, bind_eq_ok, refuseIf_eq_ok, hfields]
  have hbytes : encoded = encode ⟨decoded.archiveManifestVersion, decoded.electionManifestHash,
      decoded.hashAlgorithmId, decoded.finalLifecycleState, files⟩ := hrest
  rw [← hbytes]
  exact ⟨(), hsize, rfl⟩

/-- The bytes that the archive hash is taken of. -/
def framedHashInput (self : ArchiveManifestV1) : Result Bytes := do
  let encoded ← self.toCanonicalCbor
  pure (domainSeparatedInput .archiveManifestV1 encoded)

theorem canonicalHash_eq (self : ArchiveManifestV1) (provider : HashProvider) :
    self.canonicalHash provider = (do
      self.validateHashProvider provider
      provider.hash <$> self.framedHashInput) := by
  unfold canonicalHash framedHashInput hashDomainSeparated
  simp only [map_bind, map_pure]

/-- The content files of a manifest: in strictly ascending order, no two equal but for case, none
of them the manifest or below the signatures. -/
structure IsContentCatalog (entries : List ArchiveFileEntryV1) : Prop where
  ascending : Ascending ArchiveFileEntryV1.key entries
  portable : (entries.map fun entry ↦ entry.path.portableCollisionKey).Nodup
  notManifest : ∀ entry ∈ entries, entry.path.value ≠ archiveManifestCanonicalPath
  notSignature : ∀ entry ∈ entries, startsWith entry.path.value archiveSignaturePathPrefix = false

theorem isContentCatalog (self : ArchiveManifestV1) : IsContentCatalog self.files.entries := by
  have hvalid := self.valid
  simp only [ArchiveManifestFields.validate, bind_eq_ok] at hvalid
  obtain ⟨_, _, _, _, hscope⟩ := hvalid
  have hentry : ∀ entry ∈ self.files.entries, validateCatalogScope entry = .ok () :=
    forM_eq_ok.mp hscope
  refine ⟨self.files.ascending, self.files.portable, ?_, ?_⟩
  · intro entry hmem
    have hchecked := hentry entry hmem
    simp only [validateCatalogScope, bind_eq_ok, refuseIf_eq_ok,
      decide_eq_false_iff_not] at hchecked
    exact hchecked.choose_spec.1
  · intro entry hmem
    have hchecked := hentry entry hmem
    simp only [validateCatalogScope, bind_eq_ok, refuseIf_eq_ok] at hchecked
    exact hchecked.choose_spec.2

/-- The codec. A manifest that can be encoded is decoded to itself; accepted bytes are what their
manifest is encoded to; its files are a catalog of content files; and two accepted manifests are
never hashed from the same bytes. -/
theorem archiveManifest_codec :
    (∀ (self : ArchiveManifestV1) encoded, self.toCanonicalCbor = .ok encoded →
      fromCanonicalCbor encoded = .ok self) ∧
    (∀ encoded self, fromCanonicalCbor encoded = .ok self →
      self.toCanonicalCbor = .ok encoded ∧ IsContentCatalog self.files.entries) ∧
    ∀ encoded encoded' self other, fromCanonicalCbor encoded = .ok self →
      fromCanonicalCbor encoded' = .ok other → self ≠ other →
      ∃ input input', self.framedHashInput = .ok input ∧ other.framedHashInput = .ok input' ∧
        input ≠ input' := by
  refine ⟨fun self encoded h ↦ fromCanonicalCbor_toCanonicalCbor h, ?_, ?_⟩
  · intro encoded self h
    exact ⟨toCanonicalCbor_of_fromCanonicalCbor h, self.isContentCatalog⟩
  · intro encoded encoded' self other h h' hne
    have hself := toCanonicalCbor_of_fromCanonicalCbor h
    have hother := toCanonicalCbor_of_fromCanonicalCbor h'
    refine ⟨_, _, by rw [framedHashInput, hself]; rfl, by rw [framedHashInput, hother]; rfl, ?_⟩
    intro hinput
    have hsame : encoded = encoded' := List.append_cancel_left hinput
    rw [hsame, h'] at h
    exact hne (Except.ok.inj h).symm

end ArchiveManifestV1

end PrivateBallot.Archive
