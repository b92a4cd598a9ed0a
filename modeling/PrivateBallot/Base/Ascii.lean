import PrivateBallot.Base.Text

/-!
# ASCII in byte strings

Library `Base`. The parts of text protocols that Rust's `str` offers, on the bytes of the text: in
UTF-8 an ASCII byte is an ASCII character wherever it stands. First occurrences of a pattern, lines
that end in CRLF, letters in lower case and decimal numbers.
-/

namespace PrivateBallot.Base.Ascii

/-! ### Single bytes -/

/-- `u8::is_ascii_digit` -/
def isDigit (b : UInt8) : Bool := 0x30 ≤ b && b ≤ 0x39

/-- `u8::to_ascii_lowercase` -/
def toLower (b : UInt8) : UInt8 := if 0x41 ≤ b ∧ b ≤ 0x5a then b + 0x20 else b

/-- A byte that is no blank and no control byte. -/
def isVisible (b : UInt8) : Bool := 0x20 < b && b < 0x7f

/-- Text of ASCII bytes is well-formed. -/
theorem isSome_decode {bytes : Bytes} (h : ∀ b ∈ bytes, b < 0x80) :
    (Utf8.decode bytes).isSome := by
  induction bytes with
  | nil => rfl
  | cons b rest ih =>
    have hb : b.toNat < 0x80 := UInt8.lt_iff_toNat_lt.mp (h b List.mem_cons_self)
    have hrest := ih fun c hc ↦ h c (List.mem_cons_of_mem b hc)
    unfold Utf8.decode
    rw [if_pos hb, Option.isSome_map]
    exact hrest

/-! ### Occurrences -/

/-- Where the pattern occurs first. -/
def find (pattern : Bytes) : Bytes → Option Nat
  | [] => if pattern = [] then some 0 else none
  | b :: rest =>
    if pattern.isPrefixOf (b :: rest) then some 0 else (find pattern rest).map (· + 1)

/-- An occurrence stands. -/
theorem find_add_length_le {pattern bytes : Bytes} {i : Nat} (h : find pattern bytes = some i) :
    i + pattern.length ≤ bytes.length := by
  induction bytes generalizing i with
  | nil =>
    rw [find, Option.ite_none_right_eq_some] at h
    obtain ⟨rfl, hi⟩ := h
    cases hi
    exact Nat.le_refl _
  | cons b rest ih =>
    by_cases hhere : pattern.isPrefixOf (b :: rest) = true
    · rw [find, if_pos hhere] at h
      cases h
      rw [Nat.zero_add]
      exact (List.isPrefixOf_iff_prefix.mp hhere).length_le
    · rw [find, if_neg hhere, Option.map_eq_some_iff] at h
      obtain ⟨j, hj, rfl⟩ := h
      have := ih hj
      rw [List.length_cons]
      omega

/-- It is the first one in every continuation. -/
theorem find_of_prefix {pattern bytes whole : Bytes} {i : Nat} (h : find pattern bytes = some i)
    (hwhole : bytes <+: whole) : find pattern whole = some i := by
  induction bytes generalizing i whole with
  | nil =>
    rw [find, Option.ite_none_right_eq_some] at h
    obtain ⟨rfl, hi⟩ := h
    cases whole with
    | nil => exact (if_pos rfl).trans hi
    | cons b rest => exact (if_pos List.isPrefixOf_nil_left).trans hi
  | cons b rest ih =>
    obtain ⟨suffix, rfl⟩ := hwhole
    rw [List.cons_append]
    by_cases hhere : pattern.isPrefixOf (b :: rest) = true
    · have hthere : pattern.isPrefixOf (b :: (rest ++ suffix)) = true :=
        List.isPrefixOf_iff_prefix.mpr ((List.isPrefixOf_iff_prefix.mp hhere).trans
          ⟨suffix, rfl⟩)
      rw [find, if_pos hhere] at h
      rw [find, if_pos hthere]
      exact h
    · rw [find, if_neg hhere, Option.map_eq_some_iff] at h
      obtain ⟨j, hj, rfl⟩ := h
      have hthere : ¬ pattern.isPrefixOf (b :: (rest ++ suffix)) = true := by
        intro hthere
        have hlen := find_add_length_le hj
        exact hhere (List.isPrefixOf_iff_prefix.mpr (List.prefix_of_prefix_length_le
          (List.isPrefixOf_iff_prefix.mp hthere) ⟨suffix, rfl⟩ (by
            rw [List.length_cons]
            omega)))
      rw [find, if_neg hthere, ih hj ⟨suffix, rfl⟩]
      rfl

/-- The pattern stands where it is found, and is found there with nothing behind it. -/
theorem find_append_of_find {pattern bytes : Bytes} {i : Nat} (h : find pattern bytes = some i) :
    bytes.take i ++ pattern <+: bytes ∧ find pattern (bytes.take i ++ pattern) = some i := by
  induction bytes generalizing i with
  | nil =>
    rw [find, Option.ite_none_right_eq_some] at h
    obtain ⟨rfl, hi⟩ := h
    cases hi
    exact ⟨List.prefix_rfl, if_pos rfl⟩
  | cons b rest ih =>
    by_cases hhere : pattern.isPrefixOf (b :: rest) = true
    · rw [find, if_pos hhere] at h
      cases h
      rw [List.take_zero, List.nil_append]
      refine ⟨List.isPrefixOf_iff_prefix.mp hhere, ?_⟩
      cases pattern with
      | nil => exact if_pos rfl
      | cons c pattern => exact if_pos (List.isPrefixOf_iff_prefix.mpr List.prefix_rfl)
    · rw [find, if_neg hhere, Option.map_eq_some_iff] at h
      obtain ⟨j, hj, rfl⟩ := h
      obtain ⟨hstart, hfind⟩ := ih hj
      rw [List.take_succ_cons, List.cons_append]
      have hwhole : b :: (rest.take j ++ pattern) <+: b :: rest :=
        List.cons_prefix_cons.mpr ⟨rfl, hstart⟩
      refine ⟨hwhole, ?_⟩
      have hthere : ¬ pattern.isPrefixOf (b :: (rest.take j ++ pattern)) = true := fun hthere ↦
        hhere (List.isPrefixOf_iff_prefix.mpr
          ((List.isPrefixOf_iff_prefix.mp hthere).trans hwhole))
      rw [find, if_neg hthere, hfind]
      rfl

/-- Nothing of a pattern starts where its first byte does not stand. -/
theorem find_append_of_notMem {first : UInt8} {pattern line : Bytes} (h : first ∉ line)
    (rest : Bytes) :
    find (first :: pattern) (line ++ rest) =
      (find (first :: pattern) rest).map (· + line.length) := by
  induction line with
  | nil => exact Option.map_id'.symm
  | cons b line ih =>
    rw [List.mem_cons, not_or] at h
    have hhere : ¬ (first :: pattern).isPrefixOf (b :: (line ++ rest)) = true := by
      rw [List.isPrefixOf_cons_cons, Bool.and_eq_true, beq_iff_eq]
      exact fun hb ↦ h.1 hb.1
    rw [List.cons_append, find, if_neg hhere, ih h.2, Option.map_map]
    rfl

/-! ### Lines -/

/-- CR and LF. -/
def crlf : Bytes := [0x0d, 0x0a]

/-- `str::split("\r\n")` -/
def splitLines : Bytes → List Bytes
  | [] => [[]]
  | [b] => [[b]]
  | b :: c :: rest =>
    if b = 0x0d ∧ c = 0x0a then [] :: splitLines rest
    else (splitLines (c :: rest)).modifyHead (b :: ·)

/-- A line ends at its CRLF. -/
theorem splitLines_append_crlf {line : Bytes} (h : 0x0d ∉ line) (rest : Bytes) :
    splitLines (line ++ crlf ++ rest) = line :: splitLines rest := by
  induction line with
  | nil => exact if_pos ⟨rfl, rfl⟩
  | cons b line ih =>
    rw [List.mem_cons, not_or] at h
    have hb : b ≠ 0x0d := fun hb ↦ h.1 hb.symm
    obtain ⟨c, tail, hc⟩ : ∃ c tail, line ++ crlf ++ rest = c :: tail := by
      cases line with
      | nil => exact ⟨_, _, rfl⟩
      | cons c line => exact ⟨_, _, rfl⟩
    rw [List.cons_append, List.cons_append, hc, splitLines, if_neg fun hcr ↦ hb hcr.1, ← hc,
      ih h.2]
    rfl

/-- A text without CR is one line. -/
theorem splitLines_of_notMem {line : Bytes} (h : 0x0d ∉ line) : splitLines line = [line] := by
  induction line with
  | nil => rfl
  | cons b line ih =>
    rw [List.mem_cons, not_or] at h
    cases line with
    | nil => rfl
    | cons c rest =>
      rw [splitLines, if_neg fun hcr ↦ h.1 hcr.1.symm, ih h.2]
      rfl

/-- The bytes of lines are those of the lines and of CRLF. -/
theorem mem_of_mem_intercalate {lines : List Bytes} {b : UInt8} (h : b ∈ crlf.intercalate lines) :
    (∃ line ∈ lines, b ∈ line) ∨ b ∈ crlf := by
  induction lines with
  | nil => cases h
  | cons line lines ih =>
    cases lines with
    | nil =>
      rw [List.intercalate_singleton] at h
      exact Or.inl ⟨line, List.mem_cons_self, h⟩
    | cons next lines =>
      rw [List.intercalate_cons_cons, List.mem_append, List.mem_append] at h
      rcases h with (h | h) | h
      · exact Or.inl ⟨line, List.mem_cons_self, h⟩
      · exact Or.inr h
      · rcases ih h with ⟨l, hl, hb⟩ | hb
        · exact Or.inl ⟨l, List.mem_cons_of_mem line hl, hb⟩
        · exact Or.inr hb

/-- Lines are read back from the text they make. -/
theorem splitLines_intercalate {lines : List Bytes} (hne : lines ≠ [])
    (h : ∀ line ∈ lines, 0x0d ∉ line) : splitLines (crlf.intercalate lines) = lines := by
  induction lines with
  | nil => exact absurd rfl hne
  | cons line lines ih =>
    have hline := h line List.mem_cons_self
    cases lines with
    | nil => rw [List.intercalate_singleton, splitLines_of_notMem hline]
    | cons next lines =>
      rw [List.intercalate_cons_cons, splitLines_append_crlf hline,
        ih nofun fun l hl ↦ h l (List.mem_cons_of_mem line hl)]

/-- Behind a line that is not empty there is no empty line. -/
private theorem find_crlf_append {b : UInt8} (hb : b ≠ 0x0d) (rest : Bytes) :
    find (crlf ++ crlf) (crlf ++ b :: rest) = (find (crlf ++ crlf) (b :: rest)).map (· + 2) := by
  have hthere : ¬ (crlf ++ crlf).isPrefixOf (crlf ++ b :: rest) = true := by
    rw [List.isPrefixOf_iff_prefix, List.prefix_append_right_inj]
    exact fun hcr ↦ hb (List.cons_prefix_cons.mp hcr).1.symm
  have hnext : ¬ (crlf ++ crlf).isPrefixOf (0x0a :: b :: rest) = true := by
    rw [List.isPrefixOf_iff_prefix]
    exact fun hlf ↦ absurd (List.cons_prefix_cons.mp hlf).1 (by decide)
  calc find (crlf ++ crlf) (crlf ++ b :: rest)
      = (find (crlf ++ crlf) (0x0a :: b :: rest)).map (· + 1) := if_neg hthere
    _ = ((find (crlf ++ crlf) (b :: rest)).map (· + 1)).map (· + 1) := by rw [find, if_neg hnext]
    _ = (find (crlf ++ crlf) (b :: rest)).map (· + 2) := Option.map_map _ _ _

private theorem find_append_line {line : Bytes} (h : 0x0d ∉ line) (rest : Bytes) :
    find (crlf ++ crlf) (line ++ rest) = (find (crlf ++ crlf) rest).map (· + line.length) :=
  find_append_of_notMem h rest

private theorem find_crlf_crlf (rest : Bytes) :
    find (crlf ++ crlf) (crlf ++ crlf ++ rest) = some 0 :=
  if_pos (List.isPrefixOf_iff_prefix.mpr (List.prefix_append _ _))

/-- Lines are over at the first empty one. -/
theorem find_intercalate {lines : List Bytes} (hne : lines ≠ [])
    (h : ∀ line ∈ lines, line ≠ [] ∧ 0x0d ∉ line) (rest : Bytes) :
    find (crlf ++ crlf) (crlf.intercalate lines ++ (crlf ++ crlf) ++ rest) =
      some (crlf.intercalate lines).length := by
  induction lines with
  | nil => exact absurd rfl hne
  | cons line lines ih =>
    obtain ⟨hline, hcr⟩ := h line List.mem_cons_self
    cases lines with
    | nil =>
      rw [List.intercalate_singleton, List.append_assoc]
      rw [find_append_line hcr, find_crlf_crlf, Option.map_some, Nat.zero_add]
    | cons next lines =>
      obtain ⟨hnext, hcrNext⟩ := h next (List.mem_cons_of_mem line List.mem_cons_self)
      obtain ⟨b, tail, rfl⟩ := List.exists_cons_of_ne_nil hnext
      have hb : b ≠ 0x0d := fun hb ↦ hcrNext (List.mem_cons.mpr (Or.inl hb.symm))
      have hrest := ih nofun fun l hl ↦ h l (List.mem_cons_of_mem line hl)
      have htail : ∃ text, crlf.intercalate ((b :: tail) :: lines) = b :: text := by
        cases lines with
        | nil => exact ⟨tail, List.intercalate_singleton⟩
        | cons line lines => exact ⟨_, List.intercalate_cons_cons⟩
      obtain ⟨text, htext⟩ := htail
      rw [htext] at hrest
      rw [List.intercalate_cons_cons, htext, List.append_assoc, List.append_assoc,
        List.append_assoc, find_append_line hcr, List.cons_append, find_crlf_append hb,
        ← List.cons_append, ← List.append_assoc, hrest]
      simp only [Option.map_some, List.length_append, List.length_cons, crlf, List.length_nil]
      congr 1
      omega

/-! ### Decimal numbers -/

/-- `{}` of an unsigned integer. -/
def decimal (n : Nat) : Bytes := Utf8.encode (Nat.toDigits 10 n)

/-- The number that digits are. -/
def ofDecimal (digits : Bytes) : Nat := digits.foldl (fun n b ↦ n * 10 + (b.toNat - 0x30)) 0

private theorem encode_digitChar {d : Nat} (h : d < 10) :
    Utf8.encode [Nat.digitChar d] = [UInt8.ofNat (0x30 + d)] := by
  have hall : ∀ v : Fin 10, Utf8.encode [Nat.digitChar v] = [UInt8.ofNat (0x30 + v)] := by decide
  exact hall ⟨d, h⟩

theorem decimal_of_lt {n : Nat} (h : n < 10) : decimal n = [UInt8.ofNat (0x30 + n)] := by
  rw [decimal, Nat.toDigits_of_lt_base h, encode_digitChar h]

/-- The last digit stands last. -/
theorem decimal_of_le {n : Nat} (h : 10 ≤ n) :
    decimal n = decimal (n / 10) ++ [UInt8.ofNat (0x30 + n % 10)] := by
  rw [decimal, Nat.toDigits_of_base_le (by decide) h, Utf8.encode, List.flatMap_append]
  exact congrArg (decimal (n / 10) ++ ·) (encode_digitChar (Nat.mod_lt n (by decide)))

private theorem toNat_digit {d : Nat} (h : d < 10) : (UInt8.ofNat (0x30 + d)).toNat = 0x30 + d := by
  rw [UInt8.toNat_ofNat']
  omega

/-- A number is read back from its digits. -/
theorem ofDecimal_decimal (n : Nat) : ofDecimal (decimal n) = n := by
  induction n using Nat.strongRecOn with
  | ind n ih =>
    by_cases hn : n < 10
    · rw [decimal_of_lt hn, ofDecimal, List.foldl_cons, List.foldl_nil, toNat_digit hn]
      omega
    · have hten : 10 ≤ n := Nat.le_of_not_lt hn
      have hfront := ih (n / 10) (by omega)
      rw [ofDecimal] at hfront
      rw [decimal_of_le hten, ofDecimal, List.foldl_append, hfront, List.foldl_cons, List.foldl_nil,
        toNat_digit (Nat.mod_lt n (by decide))]
      omega

theorem decimal_ne_nil (n : Nat) : decimal n ≠ [] := by
  by_cases hn : n < 10
  · rw [decimal_of_lt hn]
    nofun
  · rw [decimal_of_le (Nat.le_of_not_lt hn)]
    exact List.append_ne_nil_of_right_ne_nil _ nofun

/-- Only digits. -/
theorem isDigit_of_mem_decimal {n : Nat} : ∀ b ∈ decimal n, isDigit b = true := by
  have hdigit : ∀ d : Fin 10, isDigit (UInt8.ofNat (0x30 + d)) = true := by decide
  induction n using Nat.strongRecOn with
  | ind n ih =>
    by_cases hn : n < 10
    · rw [decimal_of_lt hn]
      intro b hb
      rw [List.mem_singleton.mp hb]
      exact hdigit ⟨n, hn⟩
    · rw [decimal_of_le (Nat.le_of_not_lt hn)]
      intro b hb
      rcases List.mem_append.mp hb with hb | hb
      · exact ih (n / 10) (by omega) b hb
      · rw [List.mem_singleton.mp hb]
        exact hdigit ⟨n % 10, Nat.mod_lt n (by decide)⟩

theorem length_decimal_le {n width : Nat} (h : n < 10 ^ (width + 1)) :
    (decimal n).length ≤ width + 1 := by
  induction width generalizing n with
  | zero =>
    rw [decimal_of_lt (by simpa using h)]
    exact Nat.le_refl 1
  | succ width ih =>
    by_cases hn : n < 10
    · rw [decimal_of_lt hn, List.length_singleton]
      omega
    · rw [decimal_of_le (Nat.le_of_not_lt hn), List.length_append, List.length_singleton]
      have := ih (n := n / 10) (by rw [Nat.pow_succ] at h; omega)
      omega

end PrivateBallot.Base.Ascii
