import PrivateBallot.Archive.Manifest
import PrivateBallot.Base.DirectoryTree

/-!
# Archives on a case-insensitive file system

Library `Archive`. What it takes to unpack the files of a catalog, next to the manifest, as one
directory tree where letter case does not count. The catalog compares its paths with each other
without case; the reserved paths are compared exactly, and no check asks whether one path is a
directory of another.
-/

namespace PrivateBallot.Archive

open PrivateBallot.Base
open PrivateBallot.Protocol

/-- A path without letter case. -/
def foldedPath (path : Text) : Bytes := toAsciiLowercase path.toBytes

/-- The names on a path, as they are compared without letter case. -/
def foldedNames (path : Text) : List Bytes := (path.toBytes.splitOn slash).map toAsciiLowercase

/-- Without letter case, the first path is a directory that the second lies in. -/
def isDirectoryOf (path other : Text) : Bool :=
  (foldedPath path ++ [slash]).isPrefixOf (foldedPath other)

/-- Without letter case, the path is the manifest's. -/
def readsAsManifest (path : Text) : Bool :=
  foldedPath path = foldedPath archiveManifestCanonicalPath

/-- Without letter case, the path lies in the signature folder. -/
def readsAsSignature (path : Text) : Bool :=
  (foldedPath archiveSignaturePathPrefix).isPrefixOf (foldedPath path)

/-- The files can be unpacked, with the manifest, as one tree without letter case. -/
structure IsPortable (paths : List Text) : Prop where
  laidOut : ∃ tree : DirectoryTree Bytes ℕ,
    tree.LaysOut ((archiveManifestCanonicalPath :: paths).map foldedNames)
  distinct : (paths.map foldedPath).Nodup
  notManifest : ∀ path ∈ paths, readsAsManifest path = false
  notSignature : ∀ path ∈ paths, readsAsSignature path = false
  notDirectory : ∀ path ∈ paths, ∀ other ∈ paths, isDirectoryOf path other = false
  names : ∀ path ∈ paths, ∀ name ∈ path.toBytes.splitOn slash, IsPortableName name

/-- No reserved path is written in other letters than its own, and no path runs through the
manifest or through another path. -/
def keepsApart (paths : List Text) : Bool :=
  paths.all fun path ↦
    (!readsAsManifest path || decide (path = archiveManifestCanonicalPath)) &&
    (!readsAsSignature path || startsWith path archiveSignaturePathPrefix) &&
    (archiveManifestCanonicalPath :: paths).all (!isDirectoryOf · path)

/-! ### Letter case and names -/

private theorem toLower_eq_slash (byte : UInt8) :
    (if 0x41 ≤ byte && byte ≤ 0x5a then byte + 0x20 else byte) = slash ↔ byte = slash := by
  simp only [slash, Bool.and_eq_true, decide_eq_true_eq, UInt8.le_iff_toNat_le,
    ← UInt8.toNat_inj]
  split
  · next h =>
    have hupper : byte.toNat ≤ 90 := h.2
    have hlower : 65 ≤ byte.toNat := h.1
    rw [UInt8.toNat_add]
    have h20 : (0x20 : UInt8).toNat = 32 := rfl
    have h2f : (0x2f : UInt8).toNat = 47 := rfl
    omega
  · rfl

theorem foldedNames_eq (path : Text) : foldedNames path = (foldedPath path).splitOn slash :=
  (splitOn_map toLower_eq_slash path.toBytes).symm

/-- Paths keep apart when they differ and neither is a directory of the other. -/
theorem apart_foldedNames_iff {path other : Text} :
    Apart (foldedNames path) (foldedNames other) ↔ foldedPath path ≠ foldedPath other ∧
      isDirectoryOf path other = false ∧ isDirectoryOf other path = false := by
  simp only [Apart, foldedNames_eq, splitOn_isPrefix_iff, isDirectoryOf, ← Bool.not_eq_true,
    List.isPrefixOf_iff_prefix]
  grind

theorem foldedNames_ne_nil (path : Text) : foldedNames path ≠ [] := by
  rw [foldedNames_eq]
  exact List.splitOn_ne_nil _ _

/-- The manifest lies at the root. -/
theorem isDirectoryOf_manifest (path : Text) :
    isDirectoryOf path archiveManifestCanonicalPath = false := by
  have hroot : slash ∉ foldedPath archiveManifestCanonicalPath := by decide +kernel
  rw [← Bool.not_eq_true, isDirectoryOf, List.isPrefixOf_iff_prefix]
  intro hbelow
  exact hroot (hbelow.subset (by simp))

/-! ### What the checks ensure -/

theorem nodup_foldedPath {entries : List ArchiveFileEntryV1} {files : ArchiveFileCatalogV1}
    (h : ArchiveFileCatalogV1.new entries = .ok files) :
    ((entries.map (·.path.value)).map foldedPath).Nodup := by
  have hportable := files.portable
  rw [ArchiveFileCatalogV1.entries_of_new h] at hportable
  rw [List.map_map]
  exact ((perm_sortBytes _ entries).map _).nodup_iff.mp hportable

/-- No accepted path is spelled as a reserved one. -/
theorem not_reserved {entries : List ArchiveFileEntryV1} {manifest : ArchiveManifestV1}
    (h : ArchiveFileCatalogV1.new entries = .ok manifest.files) :
    ∀ path ∈ entries.map (·.path.value), path ≠ archiveManifestCanonicalPath ∧
      startsWith path archiveSignaturePathPrefix = false := by
  intro path hpath
  obtain ⟨entry, hentry, rfl⟩ := List.mem_map.mp hpath
  have hmem : entry ∈ manifest.files.entries := by
    rw [ArchiveFileCatalogV1.entries_of_new h]
    exact (perm_sortBytes _ entries).mem_iff.mpr hentry
  have hcatalog := manifest.isContentCatalog
  exact ⟨hcatalog.notManifest entry hmem, hcatalog.notSignature entry hmem⟩

theorem keepsApart_iff {paths : List Text} : keepsApart paths = true ↔ ∀ path ∈ paths,
    (readsAsManifest path = true → path = archiveManifestCanonicalPath) ∧
    (readsAsSignature path = true → startsWith path archiveSignaturePathPrefix = true) ∧
    isDirectoryOf archiveManifestCanonicalPath path = false ∧
    ∀ other ∈ paths, isDirectoryOf other path = false := by
  simp only [keepsApart, List.all_eq_true, Bool.and_eq_true, Bool.or_eq_true, Bool.not_eq_true',
    decide_eq_true_eq, List.forall_mem_cons, and_assoc]
  grind

/-- Paths that keep apart can be laid out around the manifest. -/
theorem exists_laysOut_manifest {paths : List Text} (hdistinct : (paths.map foldedPath).Nodup)
    (hmanifest : ∀ path ∈ paths, readsAsManifest path = false ∧
      isDirectoryOf archiveManifestCanonicalPath path = false)
    (hdirectory : ∀ path ∈ paths, ∀ other ∈ paths, isDirectoryOf path other = false) :
    ∃ tree : DirectoryTree Bytes ℕ,
      tree.LaysOut ((archiveManifestCanonicalPath :: paths).map foldedNames) := by
  apply DirectoryTree.exists_laysOut
  · rw [List.mem_map]
    rintro ⟨path, -, hnil⟩
    exact foldedNames_ne_nil path hnil
  · rw [List.pairwise_map, List.pairwise_cons]
    constructor
    · intro path hpath
      obtain ⟨hreads, hbelow⟩ := hmanifest path hpath
      rw [readsAsManifest, decide_eq_false_iff_not] at hreads
      exact apart_foldedNames_iff.mpr ⟨Ne.symm hreads, hbelow, isDirectoryOf_manifest path⟩
    · have hpairs := List.pairwise_map.mp hdistinct
      apply hpairs.imp_of_mem
      intro path other hpath hother hne
      exact apart_foldedNames_iff.mpr
        ⟨hne, hdirectory path hpath other hother, hdirectory other hother path hpath⟩

/-- An accepted list of files is portable exactly when no reserved path is written in other
letters and no path runs through the manifest or another path. -/
theorem isPortable_iff {entries : List ArchiveFileEntryV1} {input : ArchiveManifestFields}
    {manifest : ArchiveManifestV1} (hfiles : ArchiveFileCatalogV1.new entries = .ok input.files)
    (hmanifest : ArchiveManifestV1.newWithLifecycle input = .ok manifest) :
    IsPortable (entries.map (·.path.value)) ↔ keepsApart (entries.map (·.path.value)) = true := by
  have hfields := ArchiveManifestV1.toArchiveManifestFields_of_newWithLifecycle hmanifest
  rw [← hfields] at hfiles
  have hreserved := not_reserved hfiles
  have hdistinct := nodup_foldedPath hfiles
  rw [keepsApart_iff]
  constructor
  · intro h path hpath
    obtain ⟨tree, hlaid⟩ := h.laidOut
    have hpairs := hlaid.pairwise
    rw [List.pairwise_map, List.pairwise_cons] at hpairs
    have hapart := apart_foldedNames_iff.mp (hpairs.1 path hpath)
    refine ⟨fun hreads ↦ ?_, fun hreads ↦ ?_, hapart.2.1, ?_⟩
    · rw [h.notManifest path hpath] at hreads
      cases hreads
    · rw [h.notSignature path hpath] at hreads
      cases hreads
    · intro other hother
      exact h.notDirectory other hother path hpath
  · intro h
    have hnotManifest : ∀ path ∈ entries.map (·.path.value), readsAsManifest path = false := by
      intro path hpath
      by_contra hreads
      exact (hreserved path hpath).1 ((h path hpath).1 (Bool.not_eq_false _ ▸ hreads))
    have hnotDirectory : ∀ path ∈ entries.map (·.path.value),
        ∀ other ∈ entries.map (·.path.value), isDirectoryOf path other = false :=
      fun path hpath other hother ↦ (h other hother).2.2.2 path hpath
    exact {
      laidOut := exists_laysOut_manifest hdistinct
        (fun path hpath ↦ ⟨hnotManifest path hpath, (h path hpath).2.2.1⟩) hnotDirectory
      distinct := hdistinct
      notManifest := hnotManifest
      notSignature := by
        intro path hpath
        by_contra hreads
        have hstarts := (h path hpath).2.1 (Bool.not_eq_false _ ▸ hreads)
        rw [(hreserved path hpath).2] at hstarts
        cases hstarts
      notDirectory := hnotDirectory
      names := by
        intro path hpath
        obtain ⟨entry, -, rfl⟩ := List.mem_map.mp hpath
        exact entry.path.isPortableName }

namespace Sample

/-- The entries of empty files at these paths, and the manifest over them. -/
def manifestAt (paths : List String) : Result (List ArchiveFileEntryV1 × ArchiveManifestV1) := do
  let entries ← paths.mapM fun path ↦ do
    pure ⟨← ArchivePathV1.new (.lit path), .replicate 0⟩
  let files ← ArchiveFileCatalogV1.new entries
  let manifest ← ArchiveManifestV1.newWithLifecycle
    ⟨archiveManifestVersionV1, .replicate 0, .lit "sample", none, files⟩
  pure (entries, manifest)

theorem accepted_of_manifestAt {paths : List String} {entries : List ArchiveFileEntryV1}
    {manifest : ArchiveManifestV1} (h : manifestAt paths = .ok (entries, manifest)) :
    ∃ input : ArchiveManifestFields, ArchiveFileCatalogV1.new entries = .ok input.files ∧
      ArchiveManifestV1.newWithLifecycle input = .ok manifest := by
  obtain ⟨_, -, h⟩ := bind_eq_ok.mp h
  obtain ⟨files, hfiles, h⟩ := bind_eq_ok.mp h
  obtain ⟨_, hmanifest, h⟩ := bind_eq_ok.mp h
  cases h
  exact ⟨_, hfiles, hmanifest⟩

end Sample

/-- An archive of two files, one of them in a folder. -/
theorem isPortable_iff_sample : ∃ entries input manifest,
    ArchiveFileCatalogV1.new entries = .ok input.files ∧
      ArchiveManifestV1.newWithLifecycle input = .ok manifest ∧ entries.length = 2 ∧
      IsPortable (entries.map (·.path.value)) := by
  have hkept : (Sample.manifestAt ["registry.cbor", "submissions/0.cbor"]).toOption.map
      (fun (entries, _) ↦ (entries.length, keepsApart (entries.map (·.path.value)))) =
        some (2, true) := by decide +kernel
  cases h : Sample.manifestAt ["registry.cbor", "submissions/0.cbor"] with
  | error e =>
    rw [h] at hkept
    cases hkept
  | ok result =>
    obtain ⟨entries, manifest⟩ := result
    obtain ⟨input, hfiles, hmanifest⟩ := Sample.accepted_of_manifestAt h
    rw [h] at hkept
    obtain ⟨hlength, hkeeps⟩ := Prod.mk.inj (Option.some.inj hkept)
    exact ⟨entries, input, manifest, hfiles, hmanifest, hlength,
      (isPortable_iff hfiles hmanifest).mpr hkeeps⟩

/-- Accepted, though two paths are reserved ones in other letters and one runs through another:
`Archive-Manifest.cbor`, `Archive-Signatures/a.sig`, `notes` and `notes/a.txt`. -/
theorem not_isPortable_of_every_accepted : ∃ entries input manifest,
    ArchiveFileCatalogV1.new entries = .ok input.files ∧
      ArchiveManifestV1.newWithLifecycle input = .ok manifest ∧
      (∃ path ∈ entries.map (·.path.value), readsAsManifest path = true) ∧
      (∃ path ∈ entries.map (·.path.value), readsAsSignature path = true) ∧
      (∃ path ∈ entries.map (·.path.value), ∃ other ∈ entries.map (·.path.value),
        isDirectoryOf path other = true) ∧
      ¬ IsPortable (entries.map (·.path.value)) := by
  have hcollides : (Sample.manifestAt ["Archive-Manifest.cbor", "Archive-Signatures/a.sig",
      "notes", "notes/a.txt"]).toOption.map (fun (entries, _) ↦
        let paths := entries.map (·.path.value)
        (paths.any readsAsManifest, paths.any readsAsSignature,
          paths.any fun path ↦ paths.any (isDirectoryOf path))) =
        some (true, true, true) := by decide +kernel
  cases h : Sample.manifestAt ["Archive-Manifest.cbor", "Archive-Signatures/a.sig",
      "notes", "notes/a.txt"] with
  | error e =>
    rw [h] at hcollides
    cases hcollides
  | ok result =>
    obtain ⟨entries, manifest⟩ := result
    obtain ⟨input, hfiles, hmanifest⟩ := Sample.accepted_of_manifestAt h
    rw [h] at hcollides
    obtain ⟨hreads, hothers⟩ := Prod.mk.inj (Option.some.inj hcollides)
    obtain ⟨hsignature, hdirectory⟩ := Prod.mk.inj hothers
    simp only [List.any_eq_true] at hreads hsignature hdirectory
    refine ⟨entries, input, manifest, hfiles, hmanifest, hreads, hsignature, hdirectory, ?_⟩
    intro hportable
    obtain ⟨path, hpath, hreads⟩ := hreads
    rw [hportable.notManifest path hpath] at hreads
    cases hreads

end PrivateBallot.Archive
