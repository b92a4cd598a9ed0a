import Mathlib.Data.List.DropRight
import PrivateBallot.Base.Ascii
import PrivateBallot.Base.Reads
import PrivateBallot.GuiCore.TransportReceipt

/-!
# Strict HTTP

Library `TransportNetwork`. `crates/transport-network/src/tor.rs`: what a voter writes over an
established stream to the collector behind an onion address, and how the answer is read. Header
lines are parsed by the functions that the collector uses as well. Texts are kept as their bytes.
-/

namespace PrivateBallot.TransportNetwork

open PrivateBallot.Base PrivateBallot.GuiCore

/-- `PrivateTransportNetworkErrorV1` -/
inductive PrivateTransportNetworkErrorV1 where
  | invalidConfiguration
  | privateTransportUnavailable
  | invalidOpaqueRequest
  | relayUnavailable
deriving DecidableEq, Repr

/-- `OPAQUE_ENVELOPE_HTTP_PATH_V1` -/
def opaqueEnvelopeHttpPathV1 : Bytes := (Text.lit "/v1/opaque-envelope").toBytes

/-- `ELECTION_STATUS_HTTP_PATH_V1` -/
def electionStatusHttpPathV1 : Bytes := (Text.lit "/v1/election-status").toBytes

/-- `OPAQUE_ENVELOPE_HTTP_CONTENT_TYPE_V1` -/
def opaqueEnvelopeHttpContentTypeV1 : Bytes := (Text.lit "application/octet-stream").toBytes

/-- `MAX_STAGED_RELEASE_ENVELOPE_BYTES`; `crates/gui-core/src/voter_cast_lock.rs:68`. -/
def maxStagedReleaseEnvelopeBytes : Nat := 1048576

/-- `MAX_HTTP_HEADER_BYTES` -/
def maxHttpHeaderBytes : Nat := 8 * 1024

def onionLabelLen : Nat := 56
def onionSuffix : Bytes := (Text.lit ".onion").toBytes

/-- `validate_onion_hostname_v1` -/
def validateOnionHostnameV1 (host : Text) : Except PrivateTransportNetworkErrorV1 Unit :=
  if host.len ≠ onionLabelLen + onionSuffix.length then .error .invalidConfiguration
  else if ¬ onionSuffix.isSuffixOf host.toBytes then .error .invalidConfiguration
  else
    let label := host.toBytes.take (host.len - onionSuffix.length)
    if label.length ≠ onionLabelLen ∨
        ¬ label.all (fun b ↦ (0x61 ≤ b && b ≤ 0x7a) || (0x32 ≤ b && b ≤ 0x37)) then
      .error .invalidConfiguration
    else .ok ()

/-! ### Header lines -/

/-- `StrictHeaderErrorV1` -/
inductive StrictHeaderErrorV1 where
  | malformed
deriving DecidableEq, Repr

/-- `is_http_token_char` -/
def isHttpTokenChar (b : UInt8) : Bool :=
  (Text.lit "!#$%&'*+-.^_`|~").toBytes.contains b || (0x30 ≤ b && b ≤ 0x39) ||
    (0x61 ≤ b && b ≤ 0x7a) || (0x41 ≤ b && b ≤ 0x5a)

/-- SP or HTAB. -/
def isOws (b : UInt8) : Bool := b = 0x20 || b = 0x09

/-- `trim_matches` of optional white space. -/
def trimOws (value : Bytes) : Bytes := (value.dropWhile isOws).rdropWhile isOws

/-- `parse_strict_header_line_v1` -/
def parseStrictHeaderLineV1 (line : Bytes) : Except StrictHeaderErrorV1 (Bytes × Bytes) :=
  if line.head?.any isOws then .error .malformed
  else match line.findIdx? (· = 0x3a) with
  | none => .error .malformed
  | some colon =>
    let name := line.take colon
    if name.isEmpty || !name.all isHttpTokenChar then .error .malformed
    else
      let value := trimOws (line.drop (colon + 1))
      if value.any (fun b ↦ b < 0x20 || b = 0x7f) then .error .malformed
      else .ok (name.map Ascii.toLower, value)

/-- `parse_strict_content_length_v1`; the number has to fit into a `usize`. -/
def parseStrictContentLengthV1 (value : Bytes) : Except StrictHeaderErrorV1 Nat :=
  if value.isEmpty || !value.all Ascii.isDigit then .error .malformed
  else if Ascii.ofDecimal value < 2 ^ 64 then .ok (Ascii.ofDecimal value)
  else .error .malformed

/-- A header line as both sides write it. -/
def headerLine (name : String) (value : Bytes) : Bytes :=
  (Text.lit name).toBytes ++ [0x3a, 0x20] ++ value

/-- Lines, and the empty line behind them. -/
def messageHead (lines : List Bytes) : Bytes :=
  Ascii.crlf.intercalate lines ++ (Ascii.crlf ++ Ascii.crlf)

/-- Tokens are printable. -/
theorem printable_of_token {b : UInt8} (h : isHttpTokenChar b = true) : 0x20 ≤ b ∧ b < 0x7f := by
  have hall : (Text.lit "!#$%&'*+-.^_`|~").toBytes.all
      (fun b ↦ decide (0x20 ≤ b ∧ b < 0x7f)) = true := by decide
  simp only [isHttpTokenChar, Bool.or_eq_true, Bool.and_eq_true, decide_eq_true_eq,
    List.contains_iff_mem] at h
  rcases h with ((h | h) | h) | h
  · exact of_decide_eq_true (List.all_eq_true.mp hall b h)
  · exact ⟨UInt8.le_trans (by decide) h.1, UInt8.lt_of_le_of_lt h.2 (by decide)⟩
  · exact ⟨UInt8.le_trans (by decide) h.1, UInt8.lt_of_le_of_lt h.2 (by decide)⟩
  · exact ⟨UInt8.le_trans (by decide) h.1, UInt8.lt_of_le_of_lt h.2 (by decide)⟩

/-- Neither end of a visible value is trimmed. -/
theorem trimOws_of_visible {value : Bytes} (h : ∀ b ∈ value, Ascii.isVisible b = true) :
    trimOws (0x20 :: value) = value := by
  have hows : ∀ b ∈ value, isOws b = false := by
    intro b hb
    have hvisible := h b hb
    simp only [Ascii.isVisible, Bool.and_eq_true, decide_eq_true_eq, UInt8.lt_iff_toNat_lt]
      at hvisible
    simp only [isOws, Bool.or_eq_false_iff, decide_eq_false_iff_not]
    constructor
    · rintro rfl
      exact absurd hvisible.1 (by decide)
    · rintro rfl
      exact absurd hvisible.1 (by decide)
  have hfront : (0x20 :: value).dropWhile isOws = value := by
    rw [List.dropWhile_cons_of_pos (by rfl), List.dropWhile_eq_self_iff]
    exact fun hl ↦ by simp [hows _ (List.getElem_mem hl)]
  rw [trimOws, hfront, List.rdropWhile_eq_self_iff]
  exact fun hl ↦ by simp [hows _ (List.getLast_mem hl)]

/-- A line that is written with a token and a visible value is read back. -/
theorem parseStrictHeaderLineV1_headerLine {name : String} {value : Bytes}
    (hne : (Text.lit name).toBytes ≠ [])
    (hname : ∀ b ∈ (Text.lit name).toBytes, isHttpTokenChar b = true)
    (hvalue : ∀ b ∈ value, Ascii.isVisible b = true) :
    parseStrictHeaderLineV1 (headerLine name value) =
      .ok ((Text.lit name).toBytes.map Ascii.toLower, value) := by
  unfold headerLine
  generalize (Text.lit name).toBytes = bytes at hne hname ⊢
  have hfold : ¬ (bytes ++ [0x3a, 0x20] ++ value).head?.any isOws = true := by
    obtain ⟨b, tail, rfl⟩ := List.exists_cons_of_ne_nil hne
    have hb := hname b List.mem_cons_self
    intro hows
    simp only [List.cons_append, List.head?_cons, Option.any_some, isOws, Bool.or_eq_true,
      decide_eq_true_eq] at hows
    rcases hows with rfl | rfl
    · exact absurd hb (by decide)
    · exact absurd hb (by decide)
  have hcolon : (bytes ++ [0x3a, 0x20] ++ value).findIdx? (· = 0x3a) = some bytes.length := by
    have hnone : bytes.findIdx? (· = 0x3a) = none := by
      rw [List.findIdx?_eq_none_iff]
      intro b hb
      rw [decide_eq_false_iff_not]
      rintro rfl
      exact absurd (hname _ hb) (by decide)
    rw [List.append_assoc, List.findIdx?_append, hnone]
    simp [List.findIdx?_cons]
  have hcontrol : value.any (fun b ↦ b < 0x20 || b = 0x7f) = false := by
    rw [List.any_eq_false]
    intro b hb
    have hvisible := hvalue b hb
    simp only [Ascii.isVisible, Bool.and_eq_true, decide_eq_true_eq, UInt8.lt_iff_toNat_lt]
      at hvisible
    simp only [Bool.or_eq_true, decide_eq_true_eq, UInt8.lt_iff_toNat_lt, not_or, Nat.not_lt]
    refine ⟨?_, ?_⟩
    · exact Nat.le_of_lt hvisible.1
    · rintro rfl
      exact absurd hvisible.2 (by decide)
  have htake : (bytes ++ [0x3a, 0x20] ++ value).take bytes.length = bytes := by
    rw [List.append_assoc, List.take_left]
  have hdrop : (bytes ++ [0x3a, 0x20] ++ value).drop (bytes.length + 1) = 0x20 :: value := by
    rw [List.append_assoc, List.drop_append, List.drop_eq_nil_of_le (Nat.le_succ _)]
    simp
  have htoken : (bytes.isEmpty || !bytes.all isHttpTokenChar) = false := by
    rw [Bool.or_eq_false_iff, List.isEmpty_eq_false_iff, Bool.not_eq_false', List.all_eq_true]
    exact ⟨hne, hname⟩
  rw [parseStrictHeaderLineV1, if_neg hfold, hcolon]
  simp only [htake, hdrop, trimOws_of_visible hvalue, htoken, hcontrol]
  rfl

/-- The length that is written is read back, if it is one of this machine. -/
theorem parseStrictContentLengthV1_decimal {n : Nat} (h : n < 2 ^ 64) :
    parseStrictContentLengthV1 (Ascii.decimal n) = .ok n := by
  have hdigits : ((Ascii.decimal n).isEmpty || !(Ascii.decimal n).all Ascii.isDigit) = false := by
    rw [Bool.or_eq_false_iff, List.isEmpty_eq_false_iff, Bool.not_eq_false', List.all_eq_true]
    exact ⟨Ascii.decimal_ne_nil n, Ascii.isDigit_of_mem_decimal⟩
  rw [parseStrictContentLengthV1, hdigits, if_neg Bool.false_ne_true, Ascii.ofDecimal_decimal,
    if_pos h]

/-- Digits are visible. -/
theorem isVisible_of_mem_decimal {n : Nat} : ∀ b ∈ Ascii.decimal n, Ascii.isVisible b = true := by
  intro b hb
  have hdigit := Ascii.isDigit_of_mem_decimal b hb
  simp only [Ascii.isDigit, Bool.and_eq_true, decide_eq_true_eq, UInt8.le_iff_toNat_le] at hdigit
  simp only [Ascii.isVisible, Bool.and_eq_true, decide_eq_true_eq, UInt8.lt_iff_toNat_lt]
  exact ⟨Nat.lt_of_lt_of_le (by decide) hdigit.1, Nat.lt_of_le_of_lt hdigit.2 (by decide)⟩

private theorem isVisible_of_label {b : UInt8}
    (h : ((0x61 ≤ b && b ≤ 0x7a) || (0x32 ≤ b && b ≤ 0x37)) = true) :
    Ascii.isVisible b = true := by
  simp only [Bool.or_eq_true, Bool.and_eq_true, decide_eq_true_eq, UInt8.le_iff_toNat_le] at h
  simp only [Ascii.isVisible, Bool.and_eq_true, decide_eq_true_eq, UInt8.lt_iff_toNat_lt]
  rcases h with ⟨hlow, hhigh⟩ | ⟨hlow, hhigh⟩
  · exact ⟨Nat.lt_of_lt_of_le (by decide) hlow, Nat.lt_of_le_of_lt hhigh (by decide)⟩
  · exact ⟨Nat.lt_of_lt_of_le (by decide) hlow, Nat.lt_of_le_of_lt hhigh (by decide)⟩

/-- So is every host name that is accepted. -/
theorem isVisible_of_validateOnionHostnameV1 {host : Text}
    (h : validateOnionHostnameV1 host = .ok ()) :
    ∀ b ∈ host.toBytes, Ascii.isVisible b = true := by
  unfold validateOnionHostnameV1 at h
  by_cases hlen : host.len ≠ onionLabelLen + onionSuffix.length
  · rw [if_pos hlen] at h
    cases h
  · rw [if_neg hlen] at h
    by_cases hend : ¬ onionSuffix.isSuffixOf host.toBytes = true
    · rw [if_pos hend] at h
      cases h
    · rw [if_neg hend] at h
      by_cases hlabel : (host.toBytes.take (host.len - onionSuffix.length)).length ≠ onionLabelLen ∨
          ¬ (host.toBytes.take (host.len - onionSuffix.length)).all
            (fun b ↦ (0x61 ≤ b && b ≤ 0x7a) || (0x32 ≤ b && b ≤ 0x37)) = true
      · rw [if_pos hlabel] at h
        cases h
      · rw [not_or, not_not, not_not, List.all_eq_true] at hlabel
        rw [not_not, List.isSuffixOf_iff_suffix, List.suffix_iff_eq_append] at hend
        intro b hb
        rw [← hend] at hb
        rcases List.mem_append.mp hb with hb | hb
        · exact isVisible_of_label (hlabel.2 b hb)
        · have hsuffix : onionSuffix.all Ascii.isVisible = true := by decide
          exact List.all_eq_true.mp hsuffix b hb

/-! ### Requests -/

/-- What `http_post_opaque_envelope` writes; `crates/transport-network/src/tor.rs:659`. -/
def httpPostOpaqueEnvelope (onionHost : Text) (envelope : Bytes) : Bytes :=
  messageHead [
    (Text.lit "POST ").toBytes ++ opaqueEnvelopeHttpPathV1 ++ (Text.lit " HTTP/1.1").toBytes,
    headerLine "Host" onionHost.toBytes,
    headerLine "Content-Type" opaqueEnvelopeHttpContentTypeV1,
    headerLine "Content-Length" (Ascii.decimal envelope.length),
    headerLine "Connection" (Text.lit "close").toBytes] ++ envelope

/-- What `http_get_election_status` writes; `crates/transport-network/src/tor.rs:534`. -/
def httpGetElectionStatus (onionHost : Text) : Bytes :=
  messageHead [
    (Text.lit "GET ").toBytes ++ electionStatusHttpPathV1 ++ (Text.lit " HTTP/1.1").toBytes,
    headerLine "Host" onionHost.toBytes,
    headerLine "Accept" opaqueEnvelopeHttpContentTypeV1,
    headerLine "Connection" (Text.lit "close").toBytes]

/-! ### Heads -/

/-- `find_subslice` -/
def findSubslice (haystack needle : Bytes) : Option Nat :=
  if needle.isEmpty || haystack.length < needle.length then none else Ascii.find needle haystack

/-- The loop of both sides asks its buffer for the end of the head, and gives up on one that is
too long without it. -/
def headSettled {ε : Type} (limit : Nat) (tooLong : ε) (buffer : Bytes) :
    Option (Except ε (Bytes × Nat)) :=
  match findSubslice buffer (Ascii.crlf ++ Ascii.crlf) with
  | some position => some (.ok (buffer, position))
  | none => if limit < buffer.length then some (.error tooLong) else none

section Heads

/-- The first empty line of a message with this header is the one behind it. -/
def EndsHeader (header : Bytes) : Prop :=
  Ascii.find (Ascii.crlf ++ Ascii.crlf) (header ++ (Ascii.crlf ++ Ascii.crlf)) = some header.length

namespace EndsHeader

variable {header : Bytes}

/-- The end of a head is seen when it is complete, and not before. -/
theorem findSubslice_eq (h : EndsHeader header) {buffer body : Bytes}
    (hbuffer : buffer <+: header ++ (Ascii.crlf ++ Ascii.crlf) ++ body) :
    findSubslice buffer (Ascii.crlf ++ Ascii.crlf) =
      if buffer.length < header.length + 4 then none else some header.length := by
  have hfind : ∀ rest, Ascii.find (Ascii.crlf ++ Ascii.crlf)
      (header ++ (Ascii.crlf ++ Ascii.crlf) ++ rest) = some header.length :=
    fun rest ↦ Ascii.find_of_prefix h (List.prefix_append _ rest)
  have hlength : (header ++ (Ascii.crlf ++ Ascii.crlf)).length = header.length + 4 :=
    List.length_append
  have hfour : (Ascii.crlf ++ Ascii.crlf).length = 4 := rfl
  by_cases hshort : buffer.length < header.length + 4
  · rw [if_pos hshort, findSubslice]
    by_cases htiny : ((Ascii.crlf ++ Ascii.crlf).isEmpty ||
        decide (buffer.length < (Ascii.crlf ++ Ascii.crlf).length)) = true
    · rw [if_pos htiny]
    · rw [if_neg htiny, Option.eq_none_iff_forall_ne_some]
      intro i hi
      have hwhole := Ascii.find_of_prefix hi hbuffer
      rw [hfind body] at hwhole
      cases hwhole
      have := Ascii.find_add_length_le hi
      omega
  · obtain ⟨tail, rfl⟩ := List.prefix_of_prefix_length_le (List.prefix_append _ _) hbuffer
      (by rw [hlength]; exact Nat.le_of_not_lt hshort)
    have hlong : ((Ascii.crlf ++ Ascii.crlf).isEmpty ||
        decide ((header ++ (Ascii.crlf ++ Ascii.crlf) ++ tail).length <
          (Ascii.crlf ++ Ascii.crlf).length)) = false := by
      rw [Bool.or_eq_false_iff, decide_eq_false_iff_not, List.length_append, hlength, hfour]
      exact ⟨rfl, by omega⟩
    rw [if_neg hshort, findSubslice, hlong, if_neg Bool.false_ne_true, hfind tail]

/-- What the loop finds ends a header. -/
theorem of_findSubslice {buffer : Bytes} {position : Nat}
    (h : findSubslice buffer (Ascii.crlf ++ Ascii.crlf) = some position) :
    EndsHeader (buffer.take position) ∧ buffer =
      buffer.take position ++ (Ascii.crlf ++ Ascii.crlf) ++ buffer.drop (position + 4) := by
  unfold findSubslice at h
  split at h
  · cases h
  have hle := Ascii.find_add_length_le h
  obtain ⟨⟨tail, htail⟩, hfind⟩ := Ascii.find_append_of_find h
  have hlength : (buffer.take position).length = position := by
    rw [List.length_take]
    omega
  refine ⟨hfind.trans (congrArg some hlength.symm), ?_⟩
  have hdrop : buffer.drop (position + 4) = tail := by
    conv_lhs => rw [← htail]
    exact List.drop_left' (by rw [List.length_append, hlength]; rfl)
  rw [hdrop, htail]

/-- A head is found behind its last piece, however it was cut, and what stands behind it there
belongs to the body. -/
theorem readLoop_head (h : EndsHeader header) {ρ ε : Type} (receive : ρ → Except ε Bytes)
    (data : Chunk 512 → ρ) (check : Bytes → Except ε Unit) (tooLong : ε)
    (hdata : ∀ chunk, receive (data chunk) = .ok chunk.bytes)
    (hlimit : header.length + 3 ≤ maxHttpHeaderBytes) {chunks : List (Chunk 512)} {body : Bytes}
    (hcheck : ∀ b, b <+: header ++ (Ascii.crlf ++ Ascii.crlf) ++ body →
      b.length < header.length + 4 + 512 → check b = .ok ())
    (hcut : received chunks = header ++ (Ascii.crlf ++ Ascii.crlf) ++ body) (later : List ρ) :
    ∃ front left, body = front ++ received left ∧
      readLoop (headSettled maxHttpHeaderBytes tooLong) receive check []
        (chunks.map data ++ later) =
        some (.ok ((header ++ (Ascii.crlf ++ Ascii.crlf) ++ front, header.length),
          left.map data ++ later)) := by
  have hlength : (header ++ (Ascii.crlf ++ Ascii.crlf)).length = header.length + 4 :=
    List.length_append
  have hsettled : ∀ b, b <+: [] ++ received chunks → header.length + 4 ≤ b.length →
      headSettled maxHttpHeaderBytes tooLong b = some (.ok (b, header.length)) := by
    intro b hb hle
    rw [List.nil_append, hcut] at hb
    rw [headSettled, h.findSubslice_eq hb, if_neg (Nat.not_lt.mpr hle)]
  have hopen : ∀ b, b <+: [] ++ received chunks → b.length < header.length + 4 →
      headSettled maxHttpHeaderBytes tooLong b = none := by
    intro b hb hlt
    rw [List.nil_append, hcut] at hb
    rw [headSettled, h.findSubslice_eq hb, if_pos hlt]
    exact if_neg (by omega)
  have hchecked : ∀ b, b <+: [] ++ received chunks → b.length < header.length + 4 + 512 →
      check b = .ok () := by
    intro b hb hlt
    rw [List.nil_append, hcut] at hb
    exact hcheck b hb hlt
  obtain ⟨taken, left, rfl, htaken, hloop⟩ := readLoop_of_received data
    (fun b ↦ .ok (b, header.length)) (header.length + 4) hdata
    (by rw [List.nil_append, hcut, List.length_append]; omega) hopen
    (fun b hb hle _ ↦ hsettled b hb hle) hchecked later
  rw [List.nil_append] at htaken hloop
  rw [received_append] at hcut
  obtain ⟨front, hfront⟩ := List.prefix_of_prefix_length_le (List.prefix_append _ body)
    (hcut ▸ List.prefix_append _ _) (by rw [hlength]; exact htaken)
  refine ⟨front, left, ?_, ?_⟩
  · rw [← hfront, List.append_assoc] at hcut
    exact (List.append_cancel_left hcut).symm
  · rw [hloop, ← hfront]
    rfl

end EndsHeader

/-- A line that both sides can send: printable ASCII, not empty and not long. -/
structure IsHeadLine (line : Bytes) : Prop where
  ne_nil : line ≠ []
  printable : ∀ b ∈ line, 0x20 ≤ b ∧ b < 0x7f
  length_le : line.length ≤ 256

/-- The test of a line that is known. -/
def isHeadLine (line : Bytes) : Bool :=
  !line.isEmpty && line.all (fun b ↦ decide (0x20 ≤ b ∧ b < 0x7f)) && decide (line.length ≤ 256)

theorem IsHeadLine.of_test {line : Bytes} (h : isHeadLine line = true) : IsHeadLine line := by
  simp only [isHeadLine, Bool.and_eq_true, Bool.not_eq_true', List.isEmpty_eq_false_iff,
    List.all_eq_true, decide_eq_true_eq] at h
  exact ⟨h.1.1, h.1.2, h.2⟩

/-- The lines of a message that both sides can send. -/
structure IsHead (lines : List Bytes) : Prop where
  ne_nil : lines ≠ []
  line : ∀ line ∈ lines, IsHeadLine line
  length_le : lines.length ≤ 8

theorem isHeadLine_headerLine {name : String} {value : Bytes}
    (hname : ∀ b ∈ (Text.lit name).toBytes, isHttpTokenChar b = true)
    (hvalue : ∀ b ∈ value, Ascii.isVisible b = true) (hnameLength : (Text.lit name).len ≤ 126)
    (hvalueLength : value.length ≤ 128) : IsHeadLine (headerLine name value) where
  ne_nil := by simp [headerLine]
  printable := by
    intro b hb
    rcases List.mem_append.mp hb with hb | hb
    · rcases List.mem_append.mp hb with hb | hb
      · exact printable_of_token (hname b hb)
      · rcases List.mem_pair.mp hb with rfl | rfl
        · decide
        · decide
    · have hvisible := hvalue b hb
      simp only [Ascii.isVisible, Bool.and_eq_true, decide_eq_true_eq] at hvisible
      exact ⟨UInt8.le_of_lt hvisible.1, hvisible.2⟩
  length_le := by
    rw [Text.len] at hnameLength
    rw [headerLine, List.length_append, List.length_append]
    show _ + 2 + _ ≤ 256
    omega

namespace IsHead

variable {lines : List Bytes}

theorem notMem_cr (h : IsHead lines) : ∀ line ∈ lines, 0x0d ∉ line :=
  fun line hline hcr ↦ absurd ((h.line line hline).printable _ hcr).1 (by decide)

private theorem length_intercalate_le {count : Nat} (hcount : lines.length ≤ count)
    (hlines : ∀ line ∈ lines, IsHeadLine line) :
    (Ascii.crlf.intercalate lines).length ≤ count * 258 := by
  induction lines generalizing count with
  | nil => exact Nat.zero_le _
  | cons line lines ih =>
    obtain ⟨count, rfl⟩ := Nat.exists_eq_add_of_lt (Nat.lt_of_lt_of_le (Nat.succ_pos _) hcount)
    have hlength := (hlines line List.mem_cons_self).length_le
    have hshorter : lines.length ≤ count := by
      rw [List.length_cons] at hcount
      omega
    have hrest := ih hshorter fun l hl ↦ hlines l (List.mem_cons_of_mem line hl)
    cases lines with
    | nil =>
      rw [List.intercalate_singleton]
      omega
    | cons next lines =>
      rw [List.intercalate_cons_cons, List.length_append, List.length_append]
      show _ + 2 + _ ≤ _
      omega

theorem length_messageHead_le (h : IsHead lines) : (messageHead lines).length ≤ 4096 := by
  have hlength := length_intercalate_le h.length_le h.line
  rw [messageHead, List.length_append]
  show _ + 4 ≤ _
  omega

/-- The text of a head is well-formed, and it has these lines. -/
theorem exists_text (h : IsHead lines) :
    ∃ text, Text.ofBytes? (Ascii.crlf.intercalate lines) = some text ∧
      Ascii.splitLines text.toBytes = lines := by
  have hascii : ∀ b ∈ Ascii.crlf.intercalate lines, b < 0x80 := by
    intro b hb
    rcases Ascii.mem_of_mem_intercalate hb with ⟨line, hline, hb⟩ | hb
    · exact UInt8.lt_trans ((h.line line hline).printable b hb).2 (by decide)
    · rcases List.mem_pair.mp hb with rfl | rfl
      · decide
      · decide
  refine ⟨⟨_, Ascii.isSome_decode hascii⟩, ?_, ?_⟩
  · rw [Text.ofBytes?, dif_pos (Ascii.isSome_decode hascii)]
  · exact Ascii.splitLines_intercalate h.ne_nil h.notMem_cr

/-- The first empty line of a message with a head is the one behind it. -/
theorem endsHeader (h : IsHead lines) : EndsHeader (Ascii.crlf.intercalate lines) := by
  have hfind := Ascii.find_intercalate h.ne_nil
    (fun line hline ↦ ⟨(h.line line hline).ne_nil, h.notMem_cr line hline⟩) []
  rwa [List.append_nil] at hfind

/-- A head is found behind its last piece, however it was cut, and what stands behind it there
belongs to the body. -/
theorem readLoop_messageHead (h : IsHead lines) {ρ ε : Type} (receive : ρ → Except ε Bytes)
    (data : Chunk 512 → ρ) (check : Bytes → Except ε Unit) (tooLong : ε)
    (hdata : ∀ chunk, receive (data chunk) = .ok chunk.bytes)
    (hcheck : ∀ b : Bytes, b.length ≤ maxHttpHeaderBytes → check b = .ok ())
    {chunks : List (Chunk 512)} {body : Bytes} (hcut : received chunks = messageHead lines ++ body)
    (later : List ρ) :
    ∃ front left, body = front ++ received left ∧
      readLoop (headSettled maxHttpHeaderBytes tooLong) receive check []
        (chunks.map data ++ later) =
        some (.ok ((messageHead lines ++ front, (Ascii.crlf.intercalate lines).length),
          left.map data ++ later)) := by
  have hlimit : (Ascii.crlf.intercalate lines).length + 4 ≤ 4096 := by
    have hlength := h.length_messageHead_le
    rwa [messageHead, List.length_append] at hlength
  refine h.endsHeader.readLoop_head receive data check tooLong hdata ?_ ?_ hcut later
  · rw [maxHttpHeaderBytes]
    omega
  · intro b _ hlt
    apply hcheck
    rw [maxHttpHeaderBytes]
    omega

end IsHead

/-- The header, and what stands behind the empty line. -/
theorem take_head (header front : Bytes) :
    (header ++ (Ascii.crlf ++ Ascii.crlf) ++ front).take header.length = header := by
  rw [List.append_assoc, List.take_left]

theorem drop_head (header front : Bytes) :
    (header ++ (Ascii.crlf ++ Ascii.crlf) ++ front).drop (header.length + 4) = front :=
  List.drop_left' List.length_append

/-- The text of the head, and what stands behind it. -/
theorem take_messageHead (lines : List Bytes) (front : Bytes) :
    (messageHead lines ++ front).take (Ascii.crlf.intercalate lines).length =
      Ascii.crlf.intercalate lines :=
  take_head _ front

theorem drop_messageHead (lines : List Bytes) (front : Bytes) :
    (messageHead lines ++ front).drop ((Ascii.crlf.intercalate lines).length + 4) = front :=
  drop_head _ front

end Heads

/-! ### The response -/

/-- What a call of `read` answers the client. -/
inductive ClientRead where
  | data (chunk : Chunk 512)
  | closed
  | failed
deriving DecidableEq

/-- The bytes that were read. -/
def ClientRead.receive : ClientRead → Except PrivateTransportNetworkErrorV1 Bytes
  | data chunk => .ok chunk.bytes
  | closed => .error .privateTransportUnavailable
  | failed => .error .privateTransportUnavailable

/-- `parse_status_line_200` -/
def parseStatusLine200 (statusLine : Bytes) : Except PrivateTransportNetworkErrorV1 Unit :=
  match statusLine.splitOn 0x20 with
  | [] => .error .invalidOpaqueRequest
  | version :: rest =>
    if version ≠ (Text.lit "HTTP/1.1").toBytes ∧ version ≠ (Text.lit "HTTP/1.0").toBytes then
      .error .invalidOpaqueRequest
    else match rest with
    | [] => .error .invalidOpaqueRequest
    | code :: _ =>
      if code ≠ (Text.lit "200").toBytes then .error .privateTransportUnavailable else .ok ()

/-- One header line of the response, given the length so far. -/
def readResponseHeader (contentLength : Option Nat) (line : Bytes) :
    Except PrivateTransportNetworkErrorV1 (Option Nat) :=
  match parseStrictHeaderLineV1 line with
  | .error _ => .error .invalidOpaqueRequest
  | .ok (name, value) =>
    if name = (Text.lit "content-length").toBytes then
      if contentLength.isSome then .error .invalidOpaqueRequest
      else match parseStrictContentLengthV1 value with
        | .error _ => .error .invalidOpaqueRequest
        | .ok length => .ok (some length)
    else if name = (Text.lit "transfer-encoding").toBytes then .error .invalidOpaqueRequest
    else .ok contentLength

/-- The length that the head of a response promises. -/
def responseLength (header : Bytes) : Except PrivateTransportNetworkErrorV1 Nat :=
  match Text.ofBytes? header with
  | none => .error .invalidOpaqueRequest
  | some headerText =>
    match Ascii.splitLines headerText.toBytes with
    | [] => .error .invalidOpaqueRequest
    | statusLine :: lines => do
      parseStatusLine200 statusLine
      match ← lines.foldlM readResponseHeader none with
      | none => .error .invalidOpaqueRequest
      | some length =>
        if maxAuthenticatedReceiptBytes < length then .error .invalidOpaqueRequest
        else .ok length

/-- The loop is over with as many bytes as were promised; there may be no more. -/
def responseBodySettled (length : Nat) (body : Bytes) :
    Option (Except PrivateTransportNetworkErrorV1 Bytes) :=
  if body.length < length then none
  else if body.length ≠ length then some (.error .invalidOpaqueRequest)
  else some (.ok body)

/-- `read_http_receipt_response`; `crates/transport-network/src/tor.rs:691`. -/
def readHttpReceiptResponse : Reading ClientRead PrivateTransportNetworkErrorV1 Bytes := do
  let (buffer, headerEnd) ← readLoop (headSettled maxHttpHeaderBytes .invalidOpaqueRequest)
    ClientRead.receive (fun _ ↦ .ok ()) []
  let length ← settledAs (responseLength (buffer.take headerEnd))
  readLoop (responseBodySettled length) ClientRead.receive (fun _ ↦ .ok ())
    (buffer.drop (headerEnd + 4))

section Response

variable {lines : List Bytes} {chunks : List (Chunk 512)} {body : Bytes}

/-- Behind a head that promises the body that follows, the body is read, however it was cut. -/
theorem readHttpReceiptResponse_of_head {header front : Bytes} {answers later : List ClientRead}
    {left : List (Chunk 512)}
    (hhead : readLoop (headSettled maxHttpHeaderBytes .invalidOpaqueRequest) ClientRead.receive
      (fun _ ↦ .ok ()) [] answers = some (.ok
        ((header ++ (Ascii.crlf ++ Ascii.crlf) ++ front, header.length), left.map .data ++ later)))
    (hbody : body = front ++ received left) (hlength : responseLength header = .ok body.length) :
    readHttpReceiptResponse answers = some (.ok (body, later)) := by
  subst hbody
  rw [readHttpReceiptResponse, reading_bind_ok hhead]
  dsimp only
  rw [take_head, drop_head, hlength]
  refine (reading_bind_ok rfl).trans ?_
  refine readLoop_of_all ClientRead.data .ok (fun _ ↦ rfl) ?_ ?_ (fun _ _ ↦ rfl) later
  · intro b _ hlt
    rw [responseBodySettled, if_pos hlt]
  · rw [responseBodySettled, if_neg (Nat.lt_irrefl _), if_neg (not_not.mpr rfl)]

/-- A response whose head promises the body that follows is read, however it was cut. -/
theorem readHttpReceiptResponse_of_length (h : IsHead lines)
    (hlength : responseLength (Ascii.crlf.intercalate lines) = .ok body.length)
    (hcut : received chunks = messageHead lines ++ body) (later : List ClientRead) :
    readHttpReceiptResponse (chunks.map .data ++ later) = some (.ok (body, later)) := by
  obtain ⟨front, left, hbody, hhead⟩ := h.readLoop_messageHead ClientRead.receive .data
    (fun _ ↦ .ok ()) .invalidOpaqueRequest (fun _ ↦ rfl) (fun _ _ ↦ rfl) hcut later
  exact readHttpReceiptResponse_of_head hhead hbody hlength

/-- A response with a head that is refused is an error. -/
theorem readHttpReceiptResponse_of_error (h : IsHead lines) {e : PrivateTransportNetworkErrorV1}
    (hlength : responseLength (Ascii.crlf.intercalate lines) = .error e)
    (hcut : received chunks = messageHead lines ++ body) (later : List ClientRead) :
    readHttpReceiptResponse (chunks.map .data ++ later) = some (.error e) := by
  obtain ⟨front, left, -, hhead⟩ := h.readLoop_messageHead ClientRead.receive .data
    (fun _ ↦ .ok ()) .invalidOpaqueRequest (fun _ ↦ rfl) (fun _ _ ↦ rfl) hcut later
  rw [readHttpReceiptResponse, reading_bind_ok hhead]
  dsimp only
  rw [take_messageHead, hlength]
  exact reading_bind_error rfl

end Response

end PrivateBallot.TransportNetwork
