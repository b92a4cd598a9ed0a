import PrivateBallot.GuiCore.WorkspaceRecord
import PrivateBallot.Protocol.Hashing

/-!
# Workspace file names and revision digests

Library `GuiCore`. `crates/gui-core/src/workspace.rs:2191-2260` and `hex.rs`: a revision file and
its commit marker are named by the revision number and the digest of the payload. A name is
held as its ASCII bytes.
-/

namespace PrivateBallot.GuiCore

open PrivateBallot.Base PrivateBallot.Protocol

/-- What the workspace code takes from outside: the hash function and the order in which
`read_dir` lists the names of a directory. -/
structure Platform where
  provider : HashProvider
  readDir : List Bytes → List Bytes
  /-- Every name is listed once, in some order. -/
  readDir_perm : ∀ names, (readDir names).Perm names

private def hexDigit (v : Nat) : UInt8 :=
  if v < 10 then UInt8.ofNat (0x30 + v) else UInt8.ofNat (0x57 + v)

/-- `to_lower_hex`; `crates/gui-core/src/hex.rs:11`. -/
def toLowerHex (bytes : Bytes) : Bytes :=
  bytes.flatMap fun b ↦ [hexDigit (b.toNat / 16), hexDigit (b.toNat % 16)]

def revisionDigestDomainV1 : Bytes :=
  (Text.lit "tari-cc-private-ballot/durable-election-workspace-revision/v1").toBytes

/-- `revision_digest_hex` -/
def revisionDigestHex (platform : Platform) (payload : Bytes) : Bytes :=
  toLowerHex (platform.provider.hash (revisionDigestDomainV1 ++ [0] ++ payload)).toBytes

/-- The last `width` digits of a number in the given base, least significant first. -/
private def leDigits (base : Nat) : Nat → Nat → List Nat
  | 0, _ => []
  | width + 1, n => n % base :: leDigits base width (n / base)

private def fixedDigits (base width n : Nat) : Bytes := (leDigits base width n).reverse.map hexDigit

/-- `{revision:010}`: at least ten decimal digits. -/
def revisionText (revision : Nat) : Bytes :=
  if revision < 10 ^ 10 then fixedDigits 10 10 revision
  else (Nat.toDigits 10 revision).map fun c ↦ UInt8.ofNat c.toNat

def revisionFileSuffix : Bytes := (Text.lit ".workspace").toBytes
def commitFileSuffix : Bytes := (Text.lit ".commit").toBytes
def temporaryFileSuffix : Bytes := (Text.lit ".workspace.tmp").toBytes

/-- `format!("{revision:010}-{digest_hex}{suffix}")` -/
def numberDigestFilename (revision : Nat) (digestHex suffix : Bytes) : Bytes :=
  revisionText revision ++ 0x2d :: digestHex ++ suffix

def revisionFilename (revision : Nat) (digestHex : Bytes) : Bytes :=
  numberDigestFilename revision digestHex revisionFileSuffix

def commitFilename (revision : Nat) (digestHex : Bytes) : Bytes :=
  numberDigestFilename revision digestHex commitFileSuffix

/-- `temp_revision_path`: the revision, a time stamp and the process id. -/
def tempRevisionFilename (revision stamp pid : Nat) : Bytes :=
  revisionText revision ++ 0x2d :: fixedDigits 16 32 stamp ++ 0x2d :: fixedDigits 16 8 pid ++
    temporaryFileSuffix

/-- `name.strip_suffix(suffix)` -/
def stripSuffix (name suffix : Bytes) : Option Bytes :=
  if suffix.isSuffixOf name then some (name.take (name.length - suffix.length)) else none

/-- `text.split_once(separator)` -/
def splitOnce (text : Bytes) (separator : UInt8) : Option (Bytes × Bytes) :=
  match text.dropWhile (· ≠ separator) with
  | [] => none
  | _ :: rest => some (text.takeWhile (· ≠ separator), rest)

private def isDigit (b : UInt8) : Bool := 0x30 ≤ b && b ≤ 0x39

/-- `text.parse::<u64>()` on ASCII digits. -/
private def parseDigits (text : Bytes) : Nat := text.foldl (fun n b ↦ n * 10 + (b.toNat - 0x30)) 0

/-- `parse_number_digest_filename`; `crates/gui-core/src/workspace.rs:2213`. -/
def parseNumberDigestFilename (name suffix : Bytes) : Option (Nat × Bytes) := do
  let stem ← stripSuffix name suffix
  let (revisionText, digestHex) ← splitOnce stem 0x2d
  if revisionText.length ≠ 10 || !revisionText.all isDigit || !digestHexIsCanonical digestHex then
    none
  else some (parseDigits revisionText, digestHex)

/-! ### Names are read back -/

private theorem isLowerHexByte_hexDigit (v : Nat) (h : v < 16) :
    isLowerHexByte (hexDigit v) = true := by
  have hall : ∀ d : Fin 16, isLowerHexByte (hexDigit d) = true := by decide
  exact hall ⟨v, h⟩

/-- 32 bytes are written as 64 lowercase hex digits. -/
theorem digestHexIsCanonical_toLowerHex (value : Bytes32) :
    digestHexIsCanonical (toLowerHex value.toBytes) = true := by
  have hall : ∀ b : UInt8, isLowerHexByte (hexDigit (b.toNat / 16)) = true ∧
      isLowerHexByte (hexDigit (b.toNat % 16)) = true := by
    intro b
    have hb : b.toNat < 256 := b.toNat_lt
    exact ⟨isLowerHexByte_hexDigit _ (by omega), isLowerHexByte_hexDigit _ (by omega)⟩
  have hlength : ∀ bs : Bytes, (toLowerHex bs).length = 2 * bs.length := by
    intro bs
    induction bs with
    | nil => rfl
    | cons b bs ih =>
      simp only [toLowerHex, List.flatMap_cons, List.length_append, List.length_cons,
        List.length_nil] at ih ⊢
      omega
  rw [digestHexIsCanonical, Bool.and_eq_true]
  constructor
  · rw [decide_eq_true_eq, hlength, Bytes32.length_eq]
    rfl
  · simp [toLowerHex, hall]

/-- A revision digest is 64 lowercase hex digits. -/
@[simp] theorem digestHexIsCanonical_revisionDigestHex (platform : Platform) (payload : Bytes) :
    digestHexIsCanonical (revisionDigestHex platform payload) = true :=
  digestHexIsCanonical_toLowerHex _

private theorem length_leDigits (base width n : Nat) : (leDigits base width n).length = width := by
  induction width generalizing n with
  | zero => rfl
  | succ width ih => rw [leDigits, List.length_cons, ih]

private theorem lt_of_mem_leDigits (base width n d : Nat) (hbase : 0 < base)
    (h : d ∈ leDigits base width n) : d < base := by
  induction width generalizing n with
  | zero => cases h
  | succ width ih =>
    rcases List.mem_cons.mp h with rfl | h
    · exact Nat.mod_lt n hbase
    · exact ih (n / base) h

private theorem isDigit_hexDigit (d : Nat) (h : d < 10) :
    isDigit (hexDigit d) = true ∧ (hexDigit d).toNat - 0x30 = d := by
  have hall : ∀ v : Fin 10, isDigit (hexDigit v) = true ∧ (hexDigit v).toNat - 0x30 = v := by
    decide
  exact hall ⟨d, h⟩

-- The digits are consumed from the most significant one, so the accumulator is what stands
-- above the digits still to come.
private theorem parseDigits_fixedDigits (width n acc : Nat) (h : n < 10 ^ width) :
    (fixedDigits 10 width n).foldl (fun n b ↦ n * 10 + (b.toNat - 0x30)) acc =
      acc * 10 ^ width + n := by
  induction width generalizing n acc with
  | zero =>
    have hn : n = 0 := by simpa using h
    simp [fixedDigits, leDigits, hn]
  | succ width ih =>
    have hdiv : n / 10 < 10 ^ width := by
      apply Nat.div_lt_of_lt_mul
      rw [Nat.pow_succ, Nat.mul_comm] at h
      exact h
    have hsplit : fixedDigits 10 (width + 1) n =
        fixedDigits 10 width (n / 10) ++ [hexDigit (n % 10)] := by
      simp [fixedDigits, leDigits]
    have hlast := (isDigit_hexDigit (n % 10) (Nat.mod_lt n (by decide))).2
    rw [hsplit, List.foldl_append, ih (n / 10) acc hdiv, List.foldl_cons, List.foldl_nil, hlast,
      Nat.pow_succ, Nat.add_mul, Nat.mul_assoc]
    omega

private theorem revisionText_spec (revision : Nat) (h : revision < 10 ^ 10) :
    (revisionText revision).length = 10 ∧ (revisionText revision).all isDigit = true ∧
      parseDigits (revisionText revision) = revision := by
  rw [revisionText, if_pos h]
  refine ⟨?_, ?_, ?_⟩
  · rw [fixedDigits, List.length_map, List.length_reverse, length_leDigits]
  · simp only [fixedDigits, List.all_map, List.all_eq_true, List.mem_reverse]
    intro d hd
    exact (isDigit_hexDigit d (lt_of_mem_leDigits 10 10 revision d (by decide) hd)).1
  · rw [parseDigits, parseDigits_fixedDigits 10 revision 0 h]
    omega

private theorem stripSuffix_append (stem suffix : Bytes) :
    stripSuffix (stem ++ suffix) suffix = some stem := by
  have h : suffix.isSuffixOf (stem ++ suffix) = true :=
    List.isSuffixOf_iff_suffix.mpr (List.suffix_append stem suffix)
  rw [stripSuffix, if_pos h, List.length_append, Nat.add_sub_cancel, List.take_left']
  rfl

private theorem splitOnce_append (text rest : Bytes) (separator : UInt8)
    (h : ∀ b ∈ text, b ≠ separator) :
    splitOnce (text ++ separator :: rest) separator = some (text, rest) := by
  have hkeep : ∀ b ∈ text, (decide (b ≠ separator)) = true := by
    intro b hb
    exact decide_eq_true (h b hb)
  rw [splitOnce, List.dropWhile_append_of_pos hkeep, List.takeWhile_append_of_pos hkeep]
  simp

private theorem ne_separator_of_isDigit {text : Bytes} (h : text.all isDigit = true) :
    ∀ b ∈ text, b ≠ 0x2d := by
  intro b hb hbad
  have hdigit := List.all_eq_true.mp h b hb
  rw [hbad] at hdigit
  exact absurd hdigit (by decide)

/-- A name made from a number below ten digits and a digest is parsed to both. -/
theorem parseNumberDigestFilename_numberDigestFilename (revision : Nat) (digestHex suffix : Bytes)
    (hrevision : revision < 10 ^ 10) (hdigest : digestHexIsCanonical digestHex = true) :
    parseNumberDigestFilename (numberDigestFilename revision digestHex suffix) suffix =
      some (revision, digestHex) := by
  obtain ⟨hlength, hall, hparse⟩ := revisionText_spec revision hrevision
  have hsplit := splitOnce_append (revisionText revision) digestHex 0x2d
    (ne_separator_of_isDigit hall)
  unfold parseNumberDigestFilename numberDigestFilename
  rw [stripSuffix_append]
  simp only [Option.bind_eq_bind, Option.bind_some, hsplit, hlength, hall, hdigest, hparse,
    ne_eq, not_true_eq_false, decide_false, Bool.not_true, Bool.or_false, Bool.false_eq_true,
    if_false]

/-- A name ends in the suffix it was made with. -/
@[simp] theorem isSuffixOf_numberDigestFilename (revision : Nat) (digestHex suffix : Bytes) :
    suffix.isSuffixOf (numberDigestFilename revision digestHex suffix) = true :=
  List.isSuffixOf_iff_suffix.mpr (List.suffix_append _ suffix)

/-- Names of one kind determine the number and the digest. -/
theorem numberDigestFilename_inj {revision revision' : Nat} {digestHex digestHex' suffix : Bytes}
    (hr : revision < 10 ^ 10) (hd : digestHexIsCanonical digestHex = true)
    (hr' : revision' < 10 ^ 10) (hd' : digestHexIsCanonical digestHex' = true)
    (h : numberDigestFilename revision digestHex suffix =
      numberDigestFilename revision' digestHex' suffix) :
    revision = revision' ∧ digestHex = digestHex' := by
  have hparse := parseNumberDigestFilename_numberDigestFilename revision digestHex suffix hr hd
  rw [h, parseNumberDigestFilename_numberDigestFilename revision' digestHex' suffix hr' hd']
    at hparse
  cases hparse
  exact ⟨rfl, rfl⟩

/-- A temporary name does not end as a revision file's does, so no reader takes it for one. -/
@[simp] theorem isSuffixOf_tempRevisionFilename (revision stamp pid : Nat) :
    revisionFileSuffix.isSuffixOf (tempRevisionFilename revision stamp pid) = false := by
  have htail : temporaryFileSuffix.getLast? = some 0x70 := by decide +kernel
  have hfile : revisionFileSuffix.getLast? = some 0x65 := by decide +kernel
  apply Bool.eq_false_iff.mpr
  intro h
  obtain ⟨stem, hstem⟩ := List.isSuffixOf_iff_suffix.mp h
  have hlast : (stem ++ revisionFileSuffix).getLast? = some 0x65 := by
    rw [List.getLast?_append, hfile]
    rfl
  have htemp : (tempRevisionFilename revision stamp pid).getLast? = some 0x70 := by
    rw [tempRevisionFilename, List.getLast?_append, htail]
    rfl
  rw [hstem, htemp] at hlast
  exact absurd hlast (by decide)

end PrivateBallot.GuiCore
