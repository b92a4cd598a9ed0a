import PrivateBallot.GuiCore.ArchiveAgreement
import PrivateBallot.GuiCore.ArchiveLayout

/-!
# What an archive can hold

Library `GuiCore`. When the writer of `archive_writer.rs` succeeds. The paths, the catalog and the
directories are always in order, so only the length of the archive manifest decides: it has an
entry of 62 bytes for every package of the session, and the object limit of every canonical
encoding.
-/

namespace PrivateBallot.GuiCore

open PrivateBallot.Base PrivateBallot.Protocol PrivateBallot.Ballot PrivateBallot.Registry
open PrivateBallot.Crypto PrivateBallot.Verifier PrivateBallot.Archive PrivateBallot.Tally

/-! ### Paths that can be archived -/

private theorem exists_digit_of_mem_encode_padded {width n : Nat} (h : n < 10 ^ (width + 1)) :
    ∀ b ∈ Utf8.encode (padded (width + 1) n), ∃ d : Fin 10, b = UInt8.ofNat (0x30 + d) := by
  induction width generalizing n with
  | zero =>
    have hn : n < 10 := by simpa using h
    rw [encode_padded_one hn]
    intro b hb
    exact ⟨⟨n, hn⟩, List.mem_singleton.mp hb⟩
  | succ width ih =>
    rw [encode_padded_succ _ _ (Nat.succ_pos width)]
    intro b hb
    rcases List.mem_append.mp hb with hb | hb
    · exact ih (by rw [Nat.pow_succ] at h; omega) b hb
    · exact ⟨⟨n % 10, Nat.mod_lt n (by decide)⟩, List.mem_singleton.mp hb⟩

/-- The directory of the submissions. -/
def submissionsDir : Bytes := (Text.lit "submissions").toBytes

/-- The name of a submission in its directory. -/
def submissionName (index : Nat) : Bytes :=
  Utf8.encode (padded 8 index) ++ Utf8.encode ".cbor".toList

private theorem toBytes_eq_submissionsDir (index : Nat) :
    (submissionArchivePath index).toBytes = submissionsDir ++ slash :: submissionName index := by
  have hstart : submissionsArchivePrefix.toBytes = submissionsDir ++ [slash] := by decide +kernel
  rw [toBytes_submissionArchivePath, hstart, List.append_assoc]
  rfl

section

variable {index : Nat}

-- Everything that is asked of single bytes holds of the digits and of the rest of the path.
private theorem forall_mem_submissionName (h : index < 10 ^ 8) {p : UInt8 → Prop}
    (hdigits : ∀ d : Fin 10, p (UInt8.ofNat (0x30 + d)))
    (hsuffix : ∀ b ∈ Utf8.encode ".cbor".toList, p b) : ∀ b ∈ submissionName index, p b := by
  intro b hb
  rcases List.mem_append.mp hb with hb | hb
  · obtain ⟨d, rfl⟩ := exists_digit_of_mem_encode_padded h b hb
    exact hdigits d
  · exact hsuffix b hb

private theorem forall_mem_submissionArchivePath (h : index < 10 ^ 8) {p : UInt8 → Prop}
    (hdigits : ∀ d : Fin 10, p (UInt8.ofNat (0x30 + d)))
    (hrest : ∀ b ∈ submissionsDir ++ slash :: Utf8.encode ".cbor".toList, p b) :
    ∀ b ∈ (submissionArchivePath index).toBytes, p b := by
  rw [toBytes_eq_submissionsDir]
  intro b hb
  rcases List.mem_append.mp hb with hb | hb
  · exact hrest b (List.mem_append_left _ hb)
  · rcases List.mem_cons.mp hb with rfl | hb
    · exact hrest _ (List.mem_append_right _ List.mem_cons_self)
    · exact forall_mem_submissionName h hdigits
        (fun b hb ↦ hrest b (List.mem_append_right _ (List.mem_cons_of_mem _ hb))) b hb

theorem length_submissionName (h : index < 10 ^ 8) : (submissionName index).length = 13 := by
  rw [submissionName, List.length_append, length_encode_padded h]
  rfl

theorem len_submissionArchivePath (h : index < 10 ^ 8) :
    (submissionArchivePath index).len = 25 := by
  have hdir : submissionsDir.length = 11 := by decide +kernel
  rw [Text.len, toBytes_eq_submissionsDir, List.length_append, List.length_cons,
    length_submissionName h, hdir]

/-- A submission is a file in the directory of the submissions. -/
theorem splitOn_submissionArchivePath (h : index < 10 ^ 8) :
    (submissionArchivePath index).toBytes.splitOn slash =
      [submissionsDir, submissionName index] := by
  have hdir : slash ∉ submissionsDir := by decide +kernel
  have hname : slash ∉ submissionName index := by
    intro hslash
    exact forall_mem_submissionName h (p := (· ≠ slash)) (by decide) (by decide +kernel) slash
      hslash rfl
  rw [toBytes_eq_submissionsDir, List.splitOn_append_cons_self_of_not_mem hdir,
    List.splitOn_eq_singleton hname]

private theorem validateSegment_submissionName (h : index < 10 ^ 8) :
    validateSegment (submissionName index) = .ok () := by
  have hlength := length_submissionName h
  have hnonempty : (submissionName index).isEmpty = false := by
    rw [List.isEmpty_eq_false_iff, ← List.length_pos_iff, hlength]
    decide
  have hdots : ¬ (submissionName index = [dot] ∨ submissionName index = [dot, dot]) := by
    rintro (heq | heq)
    · rw [heq] at hlength
      cases hlength
    · rw [heq] at hlength
      cases hlength
  have hlast : (submissionName index).getLast? ≠ some dot := by
    rw [submissionName, List.getLast?_append_of_ne_nil _ (by decide)]
    decide
  have hstem : (submissionName index).takeWhile (· ≠ dot) = Utf8.encode (padded 8 index) := by
    rw [submissionName, List.takeWhile_append_of_pos]
    · have hdot : (Utf8.encode ".cbor".toList).takeWhile (· ≠ dot) = [] := by decide
      rw [hdot, List.append_nil]
    · intro b hb
      obtain ⟨d, rfl⟩ := exists_digit_of_mem_encode_padded h b hb
      exact (by decide : ∀ d : Fin 10, decide (UInt8.ofNat (0x30 + d) ≠ dot) = true) d
  have hreserved : windowsReservedNames.contains
      (toAsciiUppercase ((submissionName index).takeWhile (· ≠ dot))) = false := by
    rw [hstem, Bool.eq_false_iff, ne_eq, List.contains_iff_mem]
    intro hmem
    have hshort : ∀ name ∈ windowsReservedNames, name.length ≤ 4 := by decide +kernel
    have hlen := hshort _ hmem
    rw [toAsciiUppercase, List.length_map, length_encode_padded h] at hlen
    omega
  simp only [validateSegment, bind_eq_ok]
  exact ⟨(), (refuseIf_eq_ok _ _ _ _).mpr hnonempty, (),
    (refuseIf_eq_ok _ _ _ _).mpr (decide_eq_false hdots), (),
    (refuseIf_eq_ok _ _ _ _).mpr (decide_eq_false hlast), (refuseIf_eq_ok _ _ _ _).mpr hreserved⟩

/-- A path at which a content file can be archived. -/
structure IsArchivable (path : Text) : Prop where
  valid : validateArchivePath path = .ok ()
  lowercase : toAsciiLowercase path.toBytes = path.toBytes
  notManifest : path ≠ archiveManifestCanonicalPath
  notSignature : startsWith path archiveSignaturePathPrefix = false

instance (path : Text) : Decidable (IsArchivable path) :=
  decidable_of_iff (validateArchivePath path = .ok () ∧
    toAsciiLowercase path.toBytes = path.toBytes ∧ path ≠ archiveManifestCanonicalPath ∧
    startsWith path archiveSignaturePathPrefix = false)
    ⟨fun ⟨hvalid, hlower, hmanifest, hsignature⟩ ↦ ⟨hvalid, hlower, hmanifest, hsignature⟩,
      fun h ↦ ⟨h.valid, h.lowercase, h.notManifest, h.notSignature⟩⟩

/-- The path of a submission can be archived. -/
theorem isArchivable_submissionArchivePath (h : index < 10 ^ 8) :
    IsArchivable (submissionArchivePath index) := by
  have hbytes := toBytes_eq_submissionsDir index
  have hlen := len_submissionArchivePath h
  have hall : ∀ b ∈ (submissionArchivePath index).toBytes,
      isAllowedPathByte b = true ∧ b < 0x80 ∧ b ≠ 0x5c ∧ b ≠ 0x3a ∧
        (if 0x41 ≤ b && b ≤ 0x5a then b + 0x20 else b) = b :=
    forall_mem_submissionArchivePath h (by decide) (by decide +kernel)
  refine ⟨?_, ?_, ?_, ?_⟩
  · have hhead : (submissionArchivePath index).toBytes.head? ≠ some slash := by
      have hfirst : submissionsDir.head? ≠ some slash := by decide +kernel
      rwa [hbytes, List.head?_append_of_ne_nil _ (by decide +kernel)]
    have hlast : (submissionArchivePath index).toBytes.getLast? ≠ some slash := by
      have hend : (Utf8.encode ".cbor".toList).getLast? ≠ some slash := by decide
      rwa [toBytes_submissionArchivePath, ← List.append_assoc,
        List.getLast?_append_of_ne_nil _ (by decide)]
    have hnonempty : (submissionArchivePath index).toBytes.isEmpty = false := by
      rw [List.isEmpty_eq_false_iff, ← List.length_pos_iff]
      show 0 < (submissionArchivePath index).len
      omega
    have hsegments : ((submissionArchivePath index).toBytes.splitOn slash).forM validateSegment =
        .ok () := by
      rw [splitOn_submissionArchivePath h]
      apply forM_eq_ok.mpr
      intro segment hsegment
      rcases List.mem_cons.mp hsegment with rfl | hsegment
      · decide +kernel
      · rw [List.mem_singleton.mp hsegment]
        exact validateSegment_submissionName h
    simp only [validateArchivePath, bind_eq_ok]
    refine ⟨(), (refuseIf_eq_ok _ _ _ _).mpr hnonempty, (), ?_, (), ?_, (), ?_, (), ?_, (), ?_,
      hsegments⟩
    · rw [refuseIf_eq_ok, decide_eq_false_iff_not, hlen]
      decide
    · refine (refuseIf_eq_ok _ _ _ _).mpr ?_
      rw [Bool.not_eq_false', List.all_eq_true]
      exact fun b hb ↦ decide_eq_true (hall b hb).2.1
    · refine (refuseIf_eq_ok _ _ _ _).mpr ?_
      rw [decide_eq_false_iff_not, not_or]
      exact ⟨hhead, hlast⟩
    · refine (refuseIf_eq_ok _ _ _ _).mpr ?_
      rw [Bool.or_eq_false_iff]
      constructor
      · rw [Bool.eq_false_iff, ne_eq, List.contains_iff_mem]
        exact fun hmem ↦ (hall _ hmem).2.2.1 rfl
      · rw [Bool.eq_false_iff, ne_eq, List.contains_iff_mem]
        exact fun hmem ↦ (hall _ hmem).2.2.2.1 rfl
    · refine (refuseIf_eq_ok _ _ _ _).mpr ?_
      rw [Bool.not_eq_false', List.all_eq_true]
      exact fun b hb ↦ (hall b hb).1
  · rw [toAsciiLowercase, List.map_congr_left fun b hb ↦ (hall b hb).2.2.2.2, List.map_id']
  · exact submissionArchivePath_ne index (by decide +kernel)
  · have hfirst : submissionsDir.head? ≠ archiveSignaturePathPrefix.toBytes.head? := by
      decide +kernel
    rw [startsWith, Bool.eq_false_iff, ne_eq, List.isPrefixOf_iff_prefix, hbytes]
    rintro ⟨rest, hrest⟩
    apply hfirst
    rw [← List.head?_append_of_ne_nil _ (by decide +kernel), ← hrest,
      List.head?_append_of_ne_nil _ (by decide +kernel)]

end

/-! ### The paths of the content files -/

/-- The paths beside those of the submissions. -/
def fixedPaths (document binding : Bool) : List Text :=
  [electionManifestArchivePath, candidateSetArchivePath, voterRegistryArchivePath] ++
    (if document then [governanceDocumentArchivePath] else []) ++
    (if binding then [transportArchiveBindingPathV1] else [])

/-- The paths of so many submissions. -/
def submissionArchivePaths (count : Nat) : List Text :=
  (List.range count).map submissionArchivePath

section

variable {prims : Primitives} {session : GuiElectionSessionV1} {document : Option Bytes}
  {binding : Option TransportArchiveBindingV1} {contents : List (Text × Bytes)}
  {electionBytes candidateBytes registryBytes : Bytes} {bound : List (Text × Bytes)}

private theorem map_fst_submissionFiles (packages : List Bytes) :
    (submissionFiles packages).map Prod.fst = submissionArchivePaths packages.length := by
  apply List.ext_getElem
  · simp [submissionFiles, submissionArchivePaths]
  · intro index _ _
    simp [submissionFiles, submissionArchivePaths]

/-- Content files are at the fixed paths and at those of the submissions. -/
theorem IsCollected.perm_paths (h : IsCollected prims session document binding contents
    electionBytes candidateBytes registryBytes bound) :
    (contents.map Prod.fst).Perm (fixedPaths document.isSome binding.isSome ++
      submissionArchivePaths session.packages.length) := by
  have hdocument : (document.toList.map fun bytes ↦ (governanceDocumentArchivePath, bytes)).map
      Prod.fst = if document.isSome then [governanceDocumentArchivePath] else [] := by
    cases document <;> rfl
  have hbinding : bound.map Prod.fst =
      if binding.isSome then [transportArchiveBindingPathV1] else [] := by
    rcases bindingFile_eq_ok h.belongs with ⟨rfl, rfl⟩ | ⟨given, bytes, rfl, rfl, -⟩
    · rfl
    · rfl
  rw [h.listed, List.map_append, List.map_append, List.map_append, map_fst_submissionFiles,
    hdocument, hbinding, fixedPaths]
  simp only [List.append_assoc, List.map_cons, List.map_nil]
  apply List.Perm.append_left
  rw [← List.append_assoc, ← List.append_assoc]
  have hswap : ∀ submissions others : List Text,
      (submissions ++ others).Perm (others ++ submissions) := fun _ _ ↦ List.perm_append_comm
  simpa only [List.append_assoc] using hswap (submissionArchivePaths session.packages.length)
    ((if document.isSome then [governanceDocumentArchivePath] else []) ++
      if binding.isSome then [transportArchiveBindingPathV1] else [])

private theorem startsWith_fixedPaths {document binding : Bool} {path : Text}
    (h : path ∈ fixedPaths document binding) :
    startsWith path submissionsArchivePrefix = false := by
  have hall : ∀ document binding, ∀ path ∈ fixedPaths document binding,
      startsWith path submissionsArchivePrefix = false := by decide +kernel
  exact hall document binding path h

private theorem nodup_paths {document binding : Bool} {count : Nat} (h : count ≤ 10 ^ 8) :
    (fixedPaths document binding ++ submissionArchivePaths count).Nodup := by
  have hfixed : ∀ document binding, (fixedPaths document binding).Nodup := by decide +kernel
  rw [List.nodup_append]
  refine ⟨hfixed document binding, ?_, ?_⟩
  · apply List.Nodup.map_on _ List.nodup_range
    intro a ha b hb hsame
    by_contra hne
    have hab := List.mem_range.mp ha
    have hbb := List.mem_range.mp hb
    rcases Nat.lt_or_gt_of_ne hne with hlt | hlt
    · have hpaths := submissionArchivePath_lt hlt (by omega : b < 10 ^ 8)
      rw [hsame] at hpaths
      exact List.lt_irrefl _ hpaths
    · have hpaths := submissionArchivePath_lt hlt (by omega : a < 10 ^ 8)
      rw [hsame] at hpaths
      exact List.lt_irrefl _ hpaths
  · rintro path hpath other hother rfl
    obtain ⟨index, -, rfl⟩ := List.mem_map.mp hother
    have hstarts := startsWith_submissionArchivePath index
    rw [startsWith_fixedPaths hpath] at hstarts
    cases hstarts

private theorem isArchivable_of_mem {document binding : Bool} {count : Nat} (h : count ≤ 10 ^ 8)
    {path : Text} (hpath : path ∈ fixedPaths document binding ++ submissionArchivePaths count) :
    IsArchivable path := by
  have hfixed : ∀ document binding, ∀ path ∈ fixedPaths document binding, IsArchivable path := by
    decide +kernel
  rcases List.mem_append.mp hpath with hpath | hpath
  · exact hfixed document binding path hpath
  · obtain ⟨index, hindex, rfl⟩ := List.mem_map.mp hpath
    have hrange := List.mem_range.mp hindex
    exact isArchivable_submissionArchivePath (by omega)

/-! ### The catalog and the manifest -/

private theorem exists_catalogEntries (prims : Primitives) {files : List (Text × Bytes)}
    (hpaths : ∀ file ∈ files, IsArchivable file.1) :
    ∃ entries : List ArchiveFileEntryV1, (files.mapM fun (path, bytes) ↦ do
        let archivePath ← ArchivePathV1.new path
        pure (ArchiveFileEntryV1.forBytes archivePath prims.provider bytes) :
          Result (List ArchiveFileEntryV1)) = .ok entries ∧
      entries.map (·.path.value) = files.map Prod.fst := by
  induction files with
  | nil => exact ⟨[], rfl, rfl⟩
  | cons file rest ih =>
    obtain ⟨entries, hentries, hvalues⟩ :=
      ih fun other hother ↦ hpaths other (List.mem_cons_of_mem _ hother)
    let path : ArchivePathV1 := ⟨file.1, (hpaths file List.mem_cons_self).valid⟩
    refine ⟨.forBytes path prims.provider file.2 :: entries, ?_, ?_⟩
    · rw [List.mapM_cons, hentries]
      exact bind_eq_ok.mpr ⟨_, bind_eq_ok.mpr ⟨path, path.new_value, rfl⟩, rfl⟩
    · rw [List.map_cons, hvalues]
      rfl

/-- Files at distinct paths make a catalog, as long as there are not too many of them. -/
theorem exists_archiveCatalog (prims : Primitives) {files : List (Text × Bytes)}
    (hnonempty : files ≠ []) (hlength : files.length ≤ maxArchiveFiles)
    (hpaths : ∀ file ∈ files, IsArchivable file.1) (hdistinct : (files.map Prod.fst).Nodup) :
    ∃ catalog, archiveCatalog prims files = .ok catalog := by
  obtain ⟨entries, hentries, hvalues⟩ := exists_catalogEntries prims hpaths
  have hsame : entries.length = files.length := by
    simpa only [List.length_map] using congrArg List.length hvalues
  have hempty : entries ≠ [] := by
    rw [← List.length_pos_iff, hsame, List.length_pos_iff]
    exact hnonempty
  have hcount : ¬ maxArchiveFiles < entries.length := by omega
  have hkeys : entries.map (fun entry ↦ entry.path.portableCollisionKey) =
      (files.map Prod.fst).map Text.toBytes := by
    rw [← hvalues, List.map_map]
    apply List.map_congr_left
    intro entry hentry
    have hlisted : entry.path.value ∈ files.map Prod.fst := by
      rw [← hvalues]
      exact List.mem_map_of_mem hentry
    obtain ⟨file, hfile, hpath⟩ := List.mem_map.mp hlisted
    have hlower := (hpaths file hfile).lowercase
    rw [hpath] at hlower
    exact hlower
  have hportable : ((sortBytes ArchiveFileEntryV1.key entries).map fun entry ↦
      entry.path.portableCollisionKey).Nodup := by
    have hperm := (perm_sortBytes ArchiveFileEntryV1.key entries).map
      fun entry : ArchiveFileEntryV1 ↦ entry.path.portableCollisionKey
    rw [hperm.nodup_iff, hkeys]
    exact hdistinct.map fun a b ↦ Text.ext
  obtain ⟨catalog, hcatalog⟩ : ∃ catalog, ArchiveFileCatalogV1.new entries = .ok catalog := by
    unfold ArchiveFileCatalogV1.new
    rw [dif_neg hempty, dif_neg hcount, dif_pos hportable]
    exact ⟨_, rfl⟩
  exact ⟨catalog, bind_eq_ok.mpr ⟨entries, hentries, hcatalog⟩⟩

private theorem exists_newWithLifecycle (fields : ArchiveManifestFields)
    (h : fields.validate = .ok ()) :
    ∃ manifest, ArchiveManifestV1.newWithLifecycle fields = .ok manifest := by
  unfold ArchiveManifestV1.newWithLifecycle
  split
  · exact ⟨_, rfl⟩
  · next e herror =>
    rw [h] at herror
    cases herror

/-- Such files make a manifest. -/
theorem exists_archiveManifestOf
    (hprovider : prims.provider.algorithmId = blake3256HashAlgorithmIdV1)
    (session : GuiElectionSessionV1) (finality : ArchiveFinalityMode)
    (hnonempty : contents ≠ []) (hlength : contents.length ≤ maxArchiveFiles)
    (hpaths : ∀ file ∈ contents, IsArchivable file.1) (hdistinct : (contents.map Prod.fst).Nodup) :
    ∃ manifest,
      archiveManifestOf prims session (sortBytes pathKey contents) finality = .ok manifest := by
  have hperm := perm_sortBytes pathKey contents
  have hsorted : sortBytes pathKey contents ≠ [] := by
    rw [← List.length_pos_iff, length_sortBytes, List.length_pos_iff]
    exact hnonempty
  obtain ⟨catalog, hcatalog⟩ := exists_archiveCatalog prims hsorted
    (by rwa [length_sortBytes]) (fun file hfile ↦ hpaths file (hperm.mem_iff.mp hfile))
    ((hperm.map Prod.fst).nodup_iff.mpr hdistinct)
  have hscope : catalog.entries.forM validateCatalogScope = .ok () := by
    apply forM_eq_ok.mpr
    intro entry hentry
    have hlisted := List.mem_map_of_mem (f := fun entry : ArchiveFileEntryV1 ↦
      (entry.path.value, entry.digest)) hentry
    rw [entries_of_archiveCatalog hcatalog] at hlisted
    obtain ⟨file, hfile, hsame⟩ := List.mem_map.mp hlisted
    have hpath : file.1 = entry.path.value := congrArg Prod.fst hsame
    have harchivable := hpaths file (hperm.mem_iff.mp hfile)
    rw [hpath] at harchivable
    simp only [validateCatalogScope, bind_eq_ok]
    exact ⟨(), (refuseIf_eq_ok _ _ _ _).mpr (decide_eq_false harchivable.notManifest),
      (refuseIf_eq_ok _ _ _ _).mpr harchivable.notSignature⟩
  have hid : ArchiveManifestFields.validateHashAlgorithmId prims.provider.algorithmId = .ok () := by
    rw [hprovider]
    decide +kernel
  cases finality with
  | legacy =>
    obtain ⟨manifest, hmanifest⟩ := exists_newWithLifecycle ⟨archiveManifestVersionV1,
      session.artifacts.manifestHash, prims.provider.algorithmId, none, catalog⟩
      (bind_eq_ok.mpr ⟨(), rfl, bind_eq_ok.mpr ⟨(), hid, hscope⟩⟩)
    exact ⟨manifest, bind_eq_ok.mpr ⟨catalog, (ofProtocol_eq_ok _ _ _).mpr hcatalog,
      (ofProtocol_eq_ok _ _ _).mpr hmanifest⟩⟩
  | finalized =>
    obtain ⟨manifest, hmanifest⟩ := exists_newWithLifecycle ⟨archiveManifestVersionV2,
      session.artifacts.manifestHash, prims.provider.algorithmId,
      some archiveFinalLifecycleStateFinalizedV1, catalog⟩
      (bind_eq_ok.mpr ⟨(), rfl, bind_eq_ok.mpr ⟨(), hid, hscope⟩⟩)
    exact ⟨manifest, bind_eq_ok.mpr ⟨catalog, (ofProtocol_eq_ok _ _ _).mpr hcatalog,
      (ofProtocol_eq_ok _ _ _).mpr hmanifest⟩⟩

/-! ### The length of the manifest -/

private theorem sum_entryLength_fixedPaths (document binding : Bool) :
    ((fixedPaths document binding).map ArchiveManifestV1.entryLength).sum =
      167 + (if document then 57 else 0) + (if binding then 70 else 0) := by
  have hall : ∀ document binding, ((fixedPaths document binding).map
      ArchiveManifestV1.entryLength).sum =
        167 + (if document then 57 else 0) + (if binding then 70 else 0) := by decide +kernel
  exact hall document binding

private theorem sum_entryLength_submissions {count : Nat} (h : count ≤ 10 ^ 8) :
    ((submissionArchivePaths count).map ArchiveManifestV1.entryLength).sum = 62 * count := by
  have hsame : (submissionArchivePaths count).map ArchiveManifestV1.entryLength =
      List.replicate count 62 := by
    rw [submissionArchivePaths, List.map_map, List.eq_replicate_iff]
    constructor
    · rw [List.length_map, List.length_range]
    · intro length hlength
      obtain ⟨index, hindex, rfl⟩ := List.mem_map.mp hlength
      have hrange := List.mem_range.mp hindex
      rw [Function.comp_apply, ArchiveManifestV1.entryLength,
        len_submissionArchivePath (by omega)]
      rfl
  rw [hsame, List.sum_replicate_nat, Nat.mul_comm]

/-- The length of the header and of the entries of the three artifacts. -/
def manifestBase : ArchiveFinalityMode → Nat
  | .legacy => 241
  | .finalized => 251

/-- The manifest of so many packages is within the object limit: 62 bytes for each of them, beside
the header and the other entries. -/
def FitsManifest (finality : ArchiveFinalityMode) (packages : Nat) (document binding : Bool) :
    Prop :=
  manifestBase finality + 3 + 62 * packages + (if document then 57 else 0) +
    (if binding then 70 else 0) ≤ maxCanonicalObjectBytes

instance (finality : ArchiveFinalityMode) (packages : Nat) (document binding : Bool) :
    Decidable (FitsManifest finality packages document binding) :=
  inferInstanceAs (Decidable (_ ≤ _))

variable {finality : ArchiveFinalityMode} {manifest : ArchiveManifestV1}

private theorem encodedLength_eq
    (hprovider : prims.provider.algorithmId = blake3256HashAlgorithmIdV1)
    (h : IsCollected prims session document binding contents electionBytes candidateBytes
      registryBytes bound) (hlength : session.packages.length ≤ 10 ^ 8)
    (hbuilt : archiveManifestOf prims session (sortBytes pathKey contents) finality =
      .ok manifest) :
    ArchiveManifestV1.encodedLength manifest.toArchiveManifestFields =
      manifestBase finality + 62 * session.packages.length +
        (if document.isSome then 57 else 0) + (if binding.isSome then 70 else 0) +
        argumentLength manifest.files.entries.length := by
  obtain ⟨-, -, hentries⟩ := manifest_of_archiveManifestOf hbuilt
  have hpaths := congrArg (List.map fun item ↦ ArchiveManifestV1.entryLength item.1) hentries
  simp only [List.map_map] at hpaths
  have hperm := ((perm_sortBytes pathKey contents).map Prod.fst).trans h.perm_paths
  have hsum : (manifest.files.entries.map fun entry ↦
      ArchiveManifestV1.entryLength entry.path.value).sum =
      167 + (if document.isSome then 57 else 0) + (if binding.isSome then 70 else 0) +
        62 * session.packages.length := by
    have hlisted : (manifest.files.entries.map fun entry ↦
        ArchiveManifestV1.entryLength entry.path.value) =
        ((sortBytes pathKey contents).map Prod.fst).map ArchiveManifestV1.entryLength := by
      rw [List.map_map]
      exact hpaths
    rw [hlisted, (hperm.map ArchiveManifestV1.entryLength).sum_nat, List.map_append,
      List.sum_append, sum_entryLength_fixedPaths, sum_entryLength_submissions hlength]
  have hid : stringLength prims.provider.algorithmId.len = 38 := by
    rw [hprovider]
    decide +kernel
  simp only [archiveManifestOf, bind_eq_ok, ofProtocol_eq_ok] at hbuilt
  obtain ⟨catalog, -, hmanifest⟩ := hbuilt
  cases finality with
  | legacy =>
    have hfields := ArchiveManifestV1.toArchiveManifestFields_of_newWithLifecycle hmanifest
    have hversion : argumentLength archiveManifestVersionV1 = 1 := rfl
    have hone : ¬ archiveManifestVersionV1 = archiveManifestVersionV2 := by decide
    rw [ArchiveManifestV1.encodedLength, hsum, hfields, if_neg hone, hid, hversion, manifestBase]
    omega
  | finalized =>
    have hfields := ArchiveManifestV1.toArchiveManifestFields_of_newWithLifecycle hmanifest
    have hversion : argumentLength archiveManifestVersionV2 = 1 := rfl
    have hstate : stringLength archiveFinalLifecycleStateFinalizedV1.len = 10 := by decide +kernel
    rw [ArchiveManifestV1.encodedLength, hsum, hfields, if_pos rfl, hid, hversion,
      Option.getD_some, hstate, manifestBase]
    omega

-- The number of entries takes three bytes wherever the limit is near.
/-- The manifest can be encoded exactly when the packages leave room for it. -/
theorem fitsManifest_iff (hprovider : prims.provider.algorithmId = blake3256HashAlgorithmIdV1)
    (h : IsCollected prims session document binding contents electionBytes candidateBytes
      registryBytes bound) (hlength : session.packages.length ≤ 10 ^ 8)
    (hbuilt : archiveManifestOf prims session (sortBytes pathKey contents) finality =
      .ok manifest) :
    (∃ encoded, manifest.toCanonicalCbor = .ok encoded) ↔
      FitsManifest finality session.packages.length document.isSome binding.isSome := by
  have hentries : manifest.files.entries.length =
      session.packages.length + 3 + (if document.isSome then 1 else 0) +
        (if binding.isSome then 1 else 0) := by
    obtain ⟨-, -, hlisted⟩ := manifest_of_archiveManifestOf hbuilt
    have hcount := congrArg List.length hlisted
    have hpaths := h.perm_paths.length_eq
    have hfixed : ∀ document binding, (fixedPaths document binding).length =
        3 + (if document then 1 else 0) + (if binding then 1 else 0) := by decide
    rw [List.length_map, List.length_map, length_sortBytes] at hcount
    rw [List.length_map, List.length_append, hfixed, submissionArchivePaths, List.length_map,
      List.length_range] at hpaths
    omega
  have hlimit : maxCanonicalObjectBytes = 1048576 := rfl
  rw [ArchiveManifestV1.exists_toCanonicalCbor_iff, encodedLength_eq hprovider h hlength hbuilt,
    hentries, FitsManifest, hlimit]
  have hbase : manifestBase finality ≤ 251 := by
    cases finality <;> decide
  unfold argumentLength
  cases document.isSome <;> cases binding.isSome <;>
    simp only [Bool.false_eq_true, if_true, if_false] <;> split_ifs <;> omega

/-! ### The directory -/

/-- The subdirectories of an archive. -/
def subdirectories (packages document binding : Bool) : List Bytes :=
  (if packages then [submissionsDir] else []) ++
    (if document then [(Text.lit "governance").toBytes] else []) ++
    (if binding then [(Text.lit "transport").toBytes] else [])

private theorem createDirectories_noFault (session : GuiElectionSessionV1)
    (document : Option Bytes) (binding : Option TransportArchiveBindingV1) :
    createDirectories noFault session document binding [] = .ok (emptyDirectories
      (subdirectories (!session.packages.isEmpty) document.isSome binding.isSome)) := by
  have hgovernance : submissionsDir ≠ (Text.lit "governance").toBytes := by decide +kernel
  have htransport : submissionsDir ≠ (Text.lit "transport").toBytes := by decide +kernel
  have hboth : (Text.lit "governance").toBytes ≠ (Text.lit "transport").toBytes := by
    decide +kernel
  rw [createDirectories, show (Text.lit "submissions").toBytes = submissionsDir from rfl]
  cases session.packages.isEmpty <;> cases document.isSome <;> cases binding.isSome <;>
    simp [createDirIf, createDir, noFault, subdirectories, emptyDirectories, ArchiveEntry.name,
      bind, Except.bind, hgovernance, htransport, hboth]

private theorem hasRoom_of_mem {document binding : Bool} {packages : List Bytes}
    (h : packages.length ≤ 10 ^ 8) {path : Text}
    (hpath : path ∈ archiveManifestCanonicalPath ::
      (fixedPaths document binding ++ submissionArchivePaths packages.length)) :
    HasRoom (subdirectories (!packages.isEmpty) document binding) (path.toBytes.splitOn slash) := by
  have hfixed : ∀ nonempty document binding, ∀ path ∈ archiveManifestCanonicalPath ::
      fixedPaths document binding, HasRoom (subdirectories nonempty document binding)
        (path.toBytes.splitOn slash) := by decide +kernel
  rw [← List.cons_append] at hpath
  rcases List.mem_append.mp hpath with hpath | hpath
  · exact hfixed _ _ _ path hpath
  · obtain ⟨index, hindex, rfl⟩ := List.mem_map.mp hpath
    have hrange := List.mem_range.mp hindex
    have hnonempty : packages.isEmpty = false := by
      rw [List.isEmpty_eq_false_iff, ← List.length_pos_iff]
      omega
    rw [splitOn_submissionArchivePath (by omega), subdirectories, hnonempty]
    exact List.mem_append_left _ (List.mem_append_left _ List.mem_cons_self)

private theorem splitOn_injective {a b : Text}
    (h : a.toBytes.splitOn slash = b.toBytes.splitOn slash) : a = b := by
  have hjoined := congrArg joinPath h
  simp only [joinPath, List.intercalate_splitOn] at hjoined
  exact Text.ext hjoined

private theorem exists_written
    (h : IsCollected prims session document binding contents electionBytes candidateBytes
      registryBytes bound) (hlength : session.packages.length ≤ 10 ^ 8) (manifestBytes : Bytes) :
    ∃ directories entries,
      createDirectories noFault session document binding [] = .ok directories ∧
      writeFiles noFault (sortBytes pathKey contents ++
        [(archiveManifestCanonicalPath, manifestBytes)]) directories = .ok entries := by
  have hdirectories := createDirectories_noFault session document binding
  obtain ⟨hsound, -⟩ := createDirectories_spec namesAreSound_nil hdirectories
  have hperm := ((perm_sortBytes pathKey contents).map Prod.fst).trans h.perm_paths
  have hpaths : ∀ file ∈ sortBytes pathKey contents ++
      [(archiveManifestCanonicalPath, manifestBytes)],
      file.1 ∈ archiveManifestCanonicalPath :: (fixedPaths document.isSome binding.isSome ++
        submissionArchivePaths session.packages.length) := by
    intro file hfile
    rcases List.mem_append.mp hfile with hfile | hfile
    · exact List.mem_cons_of_mem _ (hperm.mem_iff.mp (List.mem_map_of_mem hfile))
    · rw [List.mem_singleton.mp hfile]
      exact List.mem_cons_self
  have hvalid : ∀ path ∈ archiveManifestCanonicalPath :: (fixedPaths document.isSome
      binding.isSome ++ submissionArchivePaths session.packages.length),
      validateArchivePath path = .ok () := by
    intro path hpath
    rcases List.mem_cons.mp hpath with rfl | hpath
    · decide +kernel
    · exact (isArchivable_of_mem hlength hpath).valid
  have hdistinct : ((sortBytes pathKey contents ++ [(archiveManifestCanonicalPath,
      manifestBytes)]).map fun file ↦ file.1.toBytes.splitOn slash).Nodup := by
    have htexts : ((sortBytes pathKey contents ++ [(archiveManifestCanonicalPath,
        manifestBytes)]).map Prod.fst).Nodup := by
      rw [List.map_append, List.nodup_append]
      refine ⟨hperm.nodup_iff.mpr (nodup_paths hlength), List.nodup_singleton _, ?_⟩
      intro path hpath other hother
      rw [List.mem_singleton.mp hother]
      exact (isArchivable_of_mem hlength (hperm.mem_iff.mp hpath)).notManifest
    have hsplit := htexts.map fun a b ↦ splitOn_injective
    rwa [List.map_map] at hsplit
  obtain ⟨entries, hentries⟩ := exists_writeFiles hsound
    (fun file hfile ↦ isFileName_of_archivePath ⟨file.1, hvalid _ (hpaths file hfile)⟩)
    (fun file hfile ↦ (hasRoom_of_mem hlength (hpaths file hfile)).hasPlace)
    (fun file hfile ↦ (hasRoom_of_mem hlength (hpaths file hfile)).isFree) hdistinct
  exact ⟨_, entries, hdirectories, hentries⟩

/-! ### When an election can be archived -/

/-- A target where an archive can be written. -/
def ArchiveTarget.IsVacant : ArchiveTarget → Prop
  | .absent => True
  | .notDirectory => False
  | .directory entries => entries = []

/-- Without a file operation that fails, an archive is written exactly when its manifest has room
for the packages. -/
theorem exists_write_iff (hprovider : prims.provider.algorithmId = blake3256HashAlgorithmIdV1)
    (hcollected : IsCollected prims session document binding contents electionBytes candidateBytes
      registryBytes bound) (hcontents : contentFiles prims session document binding = .ok contents)
    {target : ArchiveTarget} (htarget : target.IsVacant)
    (hdocument : checkDocument prims session document = .ok ())
    (hfinality : checkFinality session finality = .ok ()) :
    (∃ result entries, writeArchiveDirectoryV1WithOptionalBinding prims noFault session target
      document binding finality = .ok (result, entries)) ↔
      FitsManifest finality session.packages.length document.isSome binding.isSome := by
  constructor
  · rintro ⟨result, entries, hwrite⟩
    obtain ⟨files, manifest, archiveHash, manifestBytes, hwritten⟩ := isWritten_of_write hwrite
    have hsame := hwritten.collected
    rw [hcontents] at hsame
    cases hsame
    have hlength := hwritten.packages_length hcollected
    have hdigits : maxArchiveFiles < 10 ^ 8 := by decide
    exact (fitsManifest_iff hprovider hcollected (by omega) hwritten.built).mp
      ⟨manifestBytes, hwritten.encoded⟩
  · intro hfits
    have hlength : session.packages.length ≤ 16912 := by
      have hlimit : maxCanonicalObjectBytes = 1048576 := rfl
      rw [FitsManifest, hlimit] at hfits
      omega
    have hpaths := hcollected.perm_paths
    have hcount : contents.length ≤ maxArchiveFiles := by
      have hfixed : ∀ document binding, (fixedPaths document binding).length ≤ 5 := by decide
      have hfive := hfixed document.isSome binding.isSome
      have hsame := hpaths.length_eq
      have hmaximum : maxArchiveFiles = 65536 := rfl
      rw [List.length_map, List.length_append, submissionArchivePaths, List.length_map,
        List.length_range] at hsame
      omega
    have hnonempty : contents ≠ [] := by
      rw [hcollected.listed]
      simp
    obtain ⟨manifest, hmanifest⟩ := exists_archiveManifestOf hprovider session finality hnonempty
      hcount (fun file hfile ↦ isArchivable_of_mem (by omega)
        (hpaths.mem_iff.mp (List.mem_map_of_mem hfile)))
      (hpaths.nodup_iff.mpr (nodup_paths (by omega)))
    obtain ⟨manifestBytes, hencoded⟩ :=
      (fitsManifest_iff hprovider hcollected (by omega) hmanifest).mpr hfits
    have hid : manifest.hashAlgorithmId = prims.provider.algorithmId := by
      simp only [archiveManifestOf, bind_eq_ok, ofProtocol_eq_ok] at hmanifest
      obtain ⟨catalog, -, hmanifest⟩ := hmanifest
      cases finality <;>
        rw [ArchiveManifestV1.toArchiveManifestFields_of_newWithLifecycle hmanifest]
    obtain ⟨archiveHash, hhash⟩ : ∃ archiveHash,
        manifest.canonicalHash prims.provider = .ok archiveHash := by
      refine ⟨_, bind_eq_ok.mpr ⟨(), ?_, bind_eq_ok.mpr ⟨manifestBytes, hencoded, rfl⟩⟩⟩
      rw [ArchiveManifestV1.validateHashProvider, hid, refuseIf_eq_ok, decide_eq_false_iff_not,
        ne_eq, not_not]
    obtain ⟨directories, entries, hdirectories, hentries⟩ :=
      exists_written hcollected (by omega) manifestBytes
    have hprepared : prepareTargetDirectory noFault target = .ok [] := by
      cases target with
      | absent => rfl
      | notDirectory => exact htarget.elim
      | directory found =>
        rw [show found = [] from htarget]
        rfl
    refine ⟨⟨toLowerHex archiveHash.toBytes, toLowerHex session.artifacts.manifestHash.toBytes,
      fileSummaries (sortBytes pathKey contents) manifest, archiveManifestCanonicalPath⟩, entries,
      ?_⟩
    simp only [writeArchiveDirectoryV1WithOptionalBinding, bind_eq_ok, ofProtocol_eq_ok]
    exact ⟨(), hfinality, [], hprepared, contents, hcontents, (), hdocument, manifest, hmanifest,
      archiveHash, hhash, manifestBytes, hencoded, directories, hdirectories, entries, hentries,
      rfl⟩

/-- A document that is the one the manifest pins, if it pins one by its digest. -/
def MatchesPin (prims : Primitives) (session : GuiElectionSessionV1) (document : Option Bytes) :
    Prop :=
  ∀ bytes digestHex, document = some bytes →
    validateGovernanceSourcePin session.artifacts.manifest.fields.governanceSourceRevision =
      ⟨.blake3Digest, true, some digestHex, none⟩ →
    toLowerHex (archiveFileDigest prims.provider bytes).toBytes = digestHex

/-- A transport binding that was made for the election. -/
def IsBindingOf (prims : Primitives) (session : GuiElectionSessionV1) :
    Option TransportArchiveBindingV1 → Prop
  | none => True
  | some binding => ∃ descriptorFingerprint descriptorGeneration batches,
    TransportArchiveBindingV1.new prims.provider
      session.artifacts.manifest.fields.electionId.toBytes session.artifacts.manifestHash
      descriptorFingerprint descriptorGeneration batches = .ok binding

theorem MatchesPin.checkDocument (h : MatchesPin prims session document) :
    checkDocument prims session document = .ok () := by
  cases document with
  | none => rfl
  | some bytes =>
    rcases validateGovernanceSourcePin_cases
      session.artifacts.manifest.fields.governanceSourceRevision with ⟨digestHex, hpin, -⟩ |
        ⟨hpin, -⟩
    · have hsame := h bytes digestHex rfl hpin
      simp [GuiCore.checkDocument, hpin, hsame]
    · simp [GuiCore.checkDocument, hpin]

theorem IsBindingOf.exists_bindingFile (h : IsBindingOf prims session binding) :
    ∃ bound, bindingFile prims session.artifacts binding = .ok bound := by
  cases binding with
  | none => exact ⟨[], rfl⟩
  | some given =>
    obtain ⟨descriptorFingerprint, descriptorGeneration, batches, hnew⟩ := h
    obtain ⟨bytes, hbytes⟩ := TransportArchiveBindingV1.exists_toCanonicalCbor_of_new hnew
    have hfields : given.manifestHash = session.artifacts.manifestHash ∧
        given.electionId = session.artifacts.manifest.fields.electionId.toBytes := by
      unfold TransportArchiveBindingV1.new at hnew
      split_ifs at hnew
      all_goals cases hnew
      exact ⟨rfl, rfl⟩
    have hmatches : ¬ (given.manifestHash ≠ session.artifacts.manifestHash ∨
        given.electionId ≠ session.artifacts.manifest.fields.electionId.toBytes) := by
      rw [not_or, not_not, not_not]
      exact hfields
    refine ⟨[(transportArchiveBindingPathV1, bytes)], ?_⟩
    rw [bindingFile, if_neg hmatches]
    exact bind_eq_ok.mpr ⟨bytes, (ofProtocol_eq_ok _ _ _).mpr hbytes, rfl⟩

/-- The artifacts of a session are always encoded again. -/
theorem exists_contentFiles (hreplayed : GuiElectionSessionV1.IsReplayed prims session)
    (hbinding : IsBindingOf prims session binding) (document : Option Bytes) :
    ∃ contents electionBytes candidateBytes registryBytes bound,
      contentFiles prims session document binding = .ok contents ∧
      IsCollected prims session document binding contents electionBytes candidateBytes
        registryBytes bound := by
  obtain ⟨_, _, _, hloaded⟩ := hreplayed.loaded
  obtain ⟨electionBytes, registryBytes, candidateBytes, hmanifest, hregistry, hcandidates, -⟩ :=
    GuiElectionArtifactsV1.exists_fromBytes_encoded hloaded
  obtain ⟨bound, hbound⟩ := hbinding.exists_bindingFile
  refine ⟨_, electionBytes, candidateBytes, registryBytes, bound, ?_,
    ⟨hmanifest, hcandidates, hregistry, hbound, rfl⟩⟩
  simp only [contentFiles, bind_eq_ok, ofProtocol_eq_ok]
  exact ⟨electionBytes, hmanifest, candidateBytes, hcandidates, registryBytes, hregistry, bound,
    hbound, rfl⟩

end

/-- A finalized election is archived exactly when the archive manifest has room for its packages:
for every reachable session, document and binding of the election, and every vacant target. -/
theorem writeFinalizedArchive_iff_fitsManifest {prims : Primitives}
    (laws : TriptychBatchLaws prims.crate)
    (hprovider : prims.provider.algorithmId = blake3256HashAlgorithmIdV1)
    {session : GuiElectionSessionV1} (hreachable : GuiElectionSessionV1.Reachable prims session)
    (hstate : session.lifecycle.state = .finalized) {target : ArchiveTarget}
    (htarget : target.IsVacant) {document : Option Bytes}
    (hdocument : MatchesPin prims session document) {binding : Option TransportArchiveBindingV1}
    (hbinding : IsBindingOf prims session binding) :
    (∃ result entries, writeArchiveDirectoryV1WithOptionalBinding prims noFault session target
      document binding .finalized = .ok (result, entries)) ↔
      FitsManifest .finalized session.packages.length document.isSome binding.isSome := by
  obtain ⟨contents, _, _, _, _, hcontents, hcollected⟩ :=
    exists_contentFiles (hreachable.isReplayed laws) hbinding document
  have hfinality : checkFinality session .finalized = .ok () := by
    rw [checkFinality, if_neg (fun h ↦ h.2 hstate)]
  exact exists_write_iff hprovider hcollected hcontents htarget hdocument.checkDocument hfinality

/-! ### Too many packages -/

namespace Sample

open GuiElectionSessionV1

private theorem exists_opened (count : Nat) : ∃ session, Reachable prims session ∧
    session.lifecycle.state = .opened ∧ session.packages = List.replicate count [0] := by
  induction count with
  | zero =>
    have hopens : openSession.toOption.any (fun session ↦
        decide (session.lifecycle.state = .opened) && session.packages.isEmpty) = true := by
      decide +kernel
    cases hsession : openSession with
    | error e =>
      rw [hsession] at hopens
      cases hopens
    | ok session =>
      rw [hsession] at hopens
      simp only [Except.toOption, Option.any_some, Bool.and_eq_true, decide_eq_true_eq,
        List.isEmpty_iff] at hopens
      exact ⟨session, reachable_openSession hsession, hopens⟩
  | succ count ih =>
    obtain ⟨session, hreachable, hopen, hpackages⟩ := ih
    have hcomplete := (hreachable.isReplayed (triptychBatchLaws_idealCrate _)).isComplete
    have hrecorded : (session.intakeBallotPackageBytes prims [0]).2 =
        session.recorded prims [0] := by
      rw [intakeBallotPackageBytes, if_neg (fun hne ↦ hne hopen),
        processIntakePackage_eq hcomplete]
    refine ⟨_, hreachable.intake [0], ?_, ?_⟩
    · rw [hrecorded]
      exact hopen
    · rw [hrecorded, List.replicate_succ', ← hpackages]
      rfl

/-- However many packages an election is given, refused ones too, it is finalized with all of
them. -/
theorem exists_finalized (count : Nat) : ∃ session, Reachable prims session ∧
    session.lifecycle.state = .finalized ∧ session.packages = List.replicate count [0] := by
  obtain ⟨session, hreachable, hopen, hpackages⟩ := exists_opened count
  have hclose : session.close = .ok (session.inState .closed _) := withLifecycle_of_state hopen
  have hverify : (session.inState .closed session.privateInboxValidationCache).markVerified =
      .ok (session.inState .verified _) := withLifecycle_of_state rfl
  have hfinalize : (session.inState .verified session.privateInboxValidationCache).finalize =
      .ok (session.inState .finalized _) := withLifecycle_of_state rfl
  exact ⟨_, ((hreachable.close hclose).markVerified hverify).finalize hfinalize, rfl, hpackages⟩

end Sample

/-- With 16,908 packages the sample election is archived. -/
theorem writeFinalizedArchive_iff_fitsManifest_sample :
    ∃ session, GuiElectionSessionV1.Reachable Sample.prims session ∧
      session.packages.length = 16908 ∧ ∃ result entries,
        writeArchiveDirectoryV1WithOptionalBinding Sample.prims noFault session .absent none none
          .finalized = .ok (result, entries) := by
  obtain ⟨session, hreachable, hstate, hpackages⟩ := Sample.exists_finalized 16908
  have hlength : session.packages.length = 16908 := by
    rw [hpackages, List.length_replicate]
  have htarget : ArchiveTarget.absent.IsVacant := trivial
  have hdocument : MatchesPin Sample.prims session none := nofun
  have hbinding : IsBindingOf Sample.prims session none := trivial
  have hfits : FitsManifest .finalized session.packages.length false false := by
    rw [hlength]
    decide
  exact ⟨session, hreachable, hlength, (writeFinalizedArchive_iff_fitsManifest
    (triptychBatchLaws_idealCrate _) rfl hreachable hstate htarget hdocument hbinding).mpr hfits⟩

/-- With one more it is finalized and cannot be archived. -/
theorem not_every_finalized_archived :
    ∃ session, GuiElectionSessionV1.Reachable Sample.prims session ∧
      session.lifecycle.state = .finalized ∧ session.packages = List.replicate 16909 [0] ∧
      ¬ ∃ result entries, writeArchiveDirectoryV1WithOptionalBinding Sample.prims noFault session
        .absent none none .finalized = .ok (result, entries) := by
  obtain ⟨session, hreachable, hstate, hpackages⟩ := Sample.exists_finalized 16909
  refine ⟨session, hreachable, hstate, hpackages, ?_⟩
  have hbinding : IsBindingOf Sample.prims session none := trivial
  obtain ⟨contents, _, _, _, _, hcontents, hcollected⟩ := exists_contentFiles
    (hreachable.isReplayed (triptychBatchLaws_idealCrate _)) hbinding none
  have htarget : ArchiveTarget.absent.IsVacant := trivial
  have hdocument : MatchesPin Sample.prims session none := nofun
  have hfinality : checkFinality session .finalized = .ok () := by
    rw [checkFinality, if_neg (fun h ↦ h.2 hstate)]
  rw [exists_write_iff rfl hcollected hcontents htarget hdocument.checkDocument hfinality,
    hpackages, List.length_replicate]
  decide

end PrivateBallot.GuiCore
