import PrivateBallot.Base.IpLiteral
import PrivateBallot.Base.Split
import PrivateBallot.TransportNetwork.Http

/-!
# Remote SOCKS endpoints

Library `TransportNetwork`. `crates/transport-network/src/remote_socks.rs:135-334`: the `host:port`
of a Tor proxy that somebody else runs, as it is typed, kept in the settings and connected to. Which
texts are taken is a grammar of its own; the parser follows it on every text.
-/

namespace PrivateBallot.TransportNetwork

open PrivateBallot.Base PrivateBallot.Base.Split PrivateBallot.Base.IpLiteral

/-- `RemoteSocksEndpointErrorV1` -/
inductive RemoteSocksEndpointErrorV1 where
  | emptyHost
  | invalidPort
  | malformed
  | invalidHost
deriving DecidableEq, Repr

/-- The result of a check of an endpoint. -/
abbrev EndpointResult := Except RemoteSocksEndpointErrorV1

/-- `MAX_HOSTNAME_LEN` -/
def maxHostnameLen : Nat := 253

/-- `MAX_LABEL_LEN` -/
def maxLabelLen : Nat := 63

/-- `parse_port` -/
def parsePort (raw : List Char) : EndpointResult UInt16 :=
  if raw = [] ∨ ¬ raw.all Char.isDigit then .error .invalidPort
  else
    -- `str::parse` fails where the value is none of a `u16`.
    let value := Nat.ofDigitChars 10 raw 0
    if 65535 < value then .error .invalidPort
    else if value = 0 then .error .invalidPort
    else .ok (UInt16.ofNat value)

/-- The checks of one label in `validate_hostname`. -/
def validateLabel (label : List Char) : EndpointResult Unit :=
  if label = [] ∨ maxLabelLen < (Utf8.encode label).length then .error .invalidHost
  else if ¬ label.all (fun c ↦ c.isAlphanum || c = '-') then .error .invalidHost
  else if label.head? = some '-' ∨ label.getLast? = some '-' then .error .invalidHost
  else .ok ()

/-- `validate_hostname` -/
def validateHostname (host : List Char) : EndpointResult Unit :=
  if host = [] then .error .emptyHost
  else if maxHostnameLen < (Utf8.encode host).length then .error .invalidHost
  else (host.splitOn '.').forM validateLabel

/-- `RemoteSocksEndpointV1` -/
structure RemoteSocksEndpointV1 where
  host : Text
  port : UInt16
  isIpv6Literal : Bool
deriving DecidableEq

namespace RemoteSocksEndpointV1

/-- What makes a text none of a bare host and port. -/
def IsMalformed (trimmed : List Char) : Prop :=
  [':', '/', '/'] <:+: trimmed ∨ '/' ∈ trimmed ∨ '\\' ∈ trimmed ∨ '@' ∈ trimmed ∨ '?' ∈ trimmed ∨
    '#' ∈ trimmed ∨ trimmed.any fun c ↦ c.toNat ≤ 0x20 || c.toNat = 0x7f

instance (trimmed : List Char) : Decidable (IsMalformed trimmed) :=
  inferInstanceAs (Decidable (_ ∨ _))

/-- `parse` behind the opening bracket of an IPv6 literal. -/
def parseBracketed (rest : List Char) : EndpointResult RemoteSocksEndpointV1 :=
  match splitOnce ']' rest with
  | none => .error .malformed
  | some (host, ':' :: portStr) => do
    let port ← parsePort portStr
    if (parseIpv6 host).isNone then Except.error .invalidHost
    else pure ⟨.ofChars host, port, true⟩
  | some _ => .error .invalidPort

/-- `parse` without a bracket; a host with a colon would be an IPv6 literal. -/
def parsePlain (trimmed : List Char) : EndpointResult RemoteSocksEndpointV1 :=
  match rsplitOnce ':' trimmed with
  | none => .error .invalidPort
  | some (host, portStr) =>
    if host = [] then .error .emptyHost
    else do
      let port ← parsePort portStr
      if ':' ∈ host then Except.error .malformed
      else if (parseIpv4 host).isSome then pure ⟨.ofChars host, port, false⟩
      else do
        validateHostname host
        pure ⟨.ofChars host, port, false⟩

/-- `parse` behind the blanks. -/
def parseTrimmed (trimmed : List Char) : EndpointResult RemoteSocksEndpointV1 :=
  if trimmed = [] then .error .emptyHost
  else if IsMalformed trimmed then .error .malformed
  else match trimmed with
  | '[' :: rest => parseBracketed rest
  | _ => parsePlain trimmed

/-- `parse`; `crates/transport-network/src/remote_socks.rs:140`. -/
def parse (raw : Text) : EndpointResult RemoteSocksEndpointV1 := parseTrimmed (trim raw.chars)

/-- `{host}:{port}` -/
def plainText (host : List Char) (port : UInt16) : List Char :=
  host ++ ':' :: Nat.toDigits 10 port.toNat

/-- `[{host}]:{port}` -/
def bracketedText (host : List Char) (port : UInt16) : List Char :=
  '[' :: (host ++ ']' :: ':' :: Nat.toDigits 10 port.toNat)

/-- `from_parts` -/
def fromParts (host : Text) (port : UInt16) : EndpointResult RemoteSocksEndpointV1 :=
  if ':' ∈ host.chars ∧ (parseIpv6 host.chars).isSome then
    parse (.ofChars (bracketedText host.chars port))
  else parse (.ofChars (plainText host.chars port))

/-- `display` -/
def display (self : RemoteSocksEndpointV1) : Text :=
  if self.isIpv6Literal then .ofChars (bracketedText self.host.chars self.port)
  else .ofChars (plainText self.host.chars self.port)

end RemoteSocksEndpointV1

/-! ### Connecting -/

/-- `IpAddr` -/
inductive IpAddr where
  | v4 (octets : List Nat)
  | v6 (groups : List Nat)
deriving DecidableEq, Repr

namespace RemoteSocksEndpointV1

/-- `to_socket_addrs`: a literal is an address as it stands, and any other host is a question for
the resolver of the system. -/
def toSocketAddrs (self : RemoteSocksEndpointV1) (resolve : Text → Option (List IpAddr)) :
    Option (List IpAddr) :=
  match parseIpv4 self.host.chars with
  | some octets => some [.v4 octets]
  | none => match parseIpv6 self.host.chars with
    | some groups => some [.v6 groups]
    | none => resolve self.host

/-- `connect`: the first stream that can be opened. -/
def connect {σ : Type} (self : RemoteSocksEndpointV1) (resolve : Text → Option (List IpAddr))
    (connectTimeout : IpAddr → UInt16 → Option σ) : Except PrivateTransportNetworkErrorV1 σ :=
  match self.toSocketAddrs resolve with
  | none => .error .privateTransportUnavailable
  | some candidates => match candidates.findSome? (connectTimeout · self.port) with
    | some stream => .ok stream
    | none => .error .privateTransportUnavailable

end RemoteSocksEndpointV1

/-! ### The grammar -/

/-- A decimal port in 1..65535. -/
structure IsPort (digits : List Char) (port : UInt16) : Prop where
  ne_nil : digits ≠ []
  isDigit : ∀ c ∈ digits, c.isDigit
  value : Nat.ofDigitChars 10 digits 0 = port.toNat
  pos : 0 < port.toNat

/-- 1 to 63 letters, digits and inner hyphens. -/
structure IsLabel (label : List Char) : Prop where
  ne_nil : label ≠ []
  length_le : (Utf8.encode label).length ≤ 63
  chars : ∀ c ∈ label, c.isAlphanum ∨ c = '-'
  head : label.head? ≠ some '-'
  last : label.getLast? ≠ some '-'

/-- Labels between dots, in at most 253 bytes. -/
structure IsHostname (host : List Char) : Prop where
  length_le : (Utf8.encode host).length ≤ 253
  labels : ∃ labels ≠ [], host = ['.'].intercalate labels ∧ ∀ label ∈ labels, IsLabel label

/-- The three shapes of an endpoint. -/
inductive IsEndpoint : List Char → RemoteSocksEndpointV1 → Prop where
  | ipv4 {host digits : List Char} {port : UInt16} (hhost : (parseIpv4 host).isSome)
      (hport : IsPort digits port) : IsEndpoint (host ++ ':' :: digits) ⟨.ofChars host, port, false⟩
  | ipv6 {host digits : List Char} {port : UInt16} (hhost : (parseIpv6 host).isSome)
      (hport : IsPort digits port) :
      IsEndpoint ('[' :: (host ++ ']' :: ':' :: digits)) ⟨.ofChars host, port, true⟩
  | hostname {host digits : List Char} {port : UInt16} (hhost : IsHostname host)
      (hport : IsPort digits port) : IsEndpoint (host ++ ':' :: digits) ⟨.ofChars host, port, false⟩

/-- The name ends in `.onion`, in any letter case. -/
def EndsInOnion (host : List Char) : Prop :=
  ['.', 'o', 'n', 'i', 'o', 'n'] <:+ host.map Char.toLower

/-- A hostname that ends in `.onion`, and a port. -/
def IsOnionEndpoint (cs : List Char) : Prop :=
  ∃ host digits port, cs = host ++ ':' :: digits ∧ IsHostname host ∧ IsPort digits port ∧
    EndsInOnion host

/-! ### Ports and names -/

theorem parsePort_eq_ok_iff {raw : List Char} {port : UInt16} :
    parsePort raw = .ok port ↔ IsPort raw port := by
  unfold parsePort
  constructor
  · intro h
    split at h
    · cases h
    next hdigits =>
    rw [not_or, not_not, List.all_eq_true] at hdigits
    dsimp only at h
    split at h
    · cases h
    next hle =>
    split at h
    · cases h
    next hzero =>
    cases h
    have hvalue : (UInt16.ofNat (Nat.ofDigitChars 10 raw 0)).toNat = Nat.ofDigitChars 10 raw 0 := by
      rw [UInt16.toNat_ofNat']
      omega
    exact ⟨hdigits.1, hdigits.2, hvalue.symm, by omega⟩
  · rintro ⟨hne, hdigits, hvalue, hpos⟩
    have hlt := port.toNat_lt
    rw [if_neg (by rw [not_or, not_not, List.all_eq_true]; exact ⟨hne, hdigits⟩)]
    dsimp only
    rw [hvalue, if_neg (by omega), if_neg (by omega), UInt16.ofNat_toNat]

/-- What `display` writes is a port again. -/
theorem isPort_toDigits {port : UInt16} (h : 0 < port.toNat) :
    IsPort (Nat.toDigits 10 port.toNat) port where
  ne_nil := Nat.toDigits_ne_nil
  isDigit _ hc := Nat.isDigit_of_mem_toDigits (by decide) (by decide) hc
  value := Nat.ofDigitChars_ten_toDigits
  pos := h

theorem validateLabel_eq_ok_iff {label : List Char} :
    validateLabel label = .ok () ↔ IsLabel label := by
  unfold validateLabel
  constructor
  · intro h
    split at h
    · cases h
    next hlength =>
    split at h
    · cases h
    next hchars =>
    split at h
    · cases h
    next hends =>
    rw [not_or, Nat.not_lt] at hlength
    rw [not_not, List.all_eq_true] at hchars
    rw [not_or] at hends
    refine ⟨hlength.1, hlength.2, fun c hc ↦ ?_, hends.1, hends.2⟩
    simpa only [Bool.or_eq_true, decide_eq_true_eq] using hchars c hc
  · rintro ⟨hne, hlength, hchars, hhead, hlast⟩
    have hall : label.all (fun c ↦ c.isAlphanum || c = '-') = true := by
      rw [List.all_eq_true]
      intro c hc
      simpa only [Bool.or_eq_true, decide_eq_true_eq] using hchars c hc
    have hlimit : ¬ maxLabelLen < (Utf8.encode label).length := Nat.not_lt.mpr hlength
    rw [if_neg (not_or.mpr ⟨hne, hlimit⟩), if_neg (not_not_intro hall),
      if_neg (not_or.mpr ⟨hhead, hlast⟩)]

/-- A label has no dot in it. -/
theorem IsLabel.notMem {label : List Char} (h : IsLabel label) : '.' ∉ label := by
  intro hdot
  exact absurd (h.chars '.' hdot) (by decide)

theorem IsHostname.ne_nil {host : List Char} (h : IsHostname host) : host ≠ [] := by
  rintro rfl
  obtain ⟨labels, hne, hhost, hlabels⟩ := h.labels
  have hsplit := List.splitOn_intercalate '.' (fun l hl ↦ (hlabels l hl).notMem) hne
  rw [← hhost, List.splitOn_nil] at hsplit
  exact (hlabels [] (hsplit ▸ List.mem_singleton_self [])).ne_nil rfl

theorem validateHostname_eq_ok_iff {host : List Char} :
    validateHostname host = .ok () ↔ IsHostname host := by
  unfold validateHostname
  constructor
  · intro h
    split at h
    · cases h
    next hne =>
    split at h
    · cases h
    next hlength =>
    refine ⟨Nat.not_lt.mp hlength, host.splitOn '.', List.splitOn_ne_nil '.' host,
      (List.intercalate_splitOn '.').symm, fun label hlabel ↦ ?_⟩
    exact validateLabel_eq_ok_iff.mp (Protocol.forM_eq_ok.mp h label hlabel)
  · intro h
    have hlimit : ¬ maxHostnameLen < (Utf8.encode host).length := Nat.not_lt.mpr h.length_le
    rw [if_neg h.ne_nil, if_neg hlimit]
    obtain ⟨labels, hne, rfl, hlabels⟩ := h.labels
    rw [List.splitOn_intercalate '.' (fun l hl ↦ (hlabels l hl).notMem) hne]
    exact Protocol.forM_eq_ok.mpr fun label hlabel ↦
      validateLabel_eq_ok_iff.mpr (hlabels label hlabel)

/-! ### The characters of an endpoint -/

/-- A character of a host that stands without brackets. -/
def IsPlainChar (c : Char) : Prop := c.isAlphanum ∨ c = '-' ∨ c = '.'

/-- A character that an endpoint may contain. -/
def IsEndpointChar (c : Char) : Prop := IsPlainChar c ∨ c = ':' ∨ c = '[' ∨ c = ']'

private theorem isAlphanum_iff {c : Char} :
    c.isAlphanum ↔ (48 ≤ c.toNat ∧ c.toNat ≤ 57) ∨ (65 ≤ c.toNat ∧ c.toNat ≤ 90) ∨
      (97 ≤ c.toNat ∧ c.toNat ≤ 122) := by
  have hranges : c.isAlphanum = ((decide (c.val ≥ 'A'.val ∧ c.val ≤ 'Z'.val) ||
      (c.val ≥ 'a'.val && c.val ≤ 'z'.val)) || (c.val ≥ '0'.val && c.val ≤ '9'.val)) := rfl
  simp only [hranges, Bool.or_eq_true, Bool.and_eq_true, decide_eq_true_eq, ge_iff_le,
    UInt32.le_iff_toNat_le, Char.toNat]
  simp only [Char.reduceVal, UInt32.reduceToNat]
  omega

/-- It is none of those that make a text malformed, and no blank. -/
theorem IsEndpointChar.toNat_cases {c : Char} (h : IsEndpointChar c) :
    0x2d ≤ c.toNat ∧ c.toNat ≤ 0x7a ∧ c.toNat ≠ 0x2f ∧ c.toNat ≠ 0x3f ∧ c.toNat ≠ 0x40 ∧
      c.toNat ≠ 0x5c := by
  rcases h with (h | rfl | rfl) | rfl | rfl | rfl
  · have := isAlphanum_iff.mp h
    omega
  all_goals decide

private theorem isAlphanum_of_toDigit {c : Char} (h : (toDigit 16 c).isSome) : c.isAlphanum := by
  obtain ⟨value, hvalue⟩ := Option.isSome_iff_exists.mp h
  have hdigit := (Option.filter_eq_some_iff.mp hvalue).1
  simp only [Char.le_def, UInt32.le_iff_toNat_le, Char.reduceVal, UInt32.reduceToNat] at hdigit
  rw [isAlphanum_iff, Char.toNat]
  split at hdigit
  · omega
  split at hdigit
  · omega
  split at hdigit
  · omega
  · cases hdigit

theorem isEndpointChar_of_isIpv6Char {c : Char} (h : IsIpv6Char c) : IsEndpointChar c := by
  rcases h with h | h | h
  · exact Or.inl (Or.inl (isAlphanum_of_toDigit h))
  · exact Or.inl (Or.inr (Or.inr h))
  · exact Or.inr (Or.inl h)

theorem isPlainChar_of_isIpv4Char {c : Char} (h : IsIpv4Char c) : IsPlainChar c := by
  rcases isIpv6Char_of_isIpv4Char h with hdigit | hdot | rfl
  · exact Or.inl (isAlphanum_of_toDigit hdigit)
  · exact Or.inr (Or.inr hdot)
  · exact absurd h (by unfold IsIpv4Char; decide)

theorem IsHostname.isPlainChar {host : List Char} (h : IsHostname host) :
    ∀ c ∈ host, IsPlainChar c := by
  obtain ⟨labels, hne, rfl, hlabels⟩ := h.labels
  intro c hc
  rcases mem_intercalate hc with ⟨label, hlabel, hc⟩ | hc
  · exact ((hlabels label hlabel).chars c hc).imp_right Or.inl
  · exact Or.inr (Or.inr (List.mem_singleton.mp hc))

theorem IsPort.isEndpointChar {digits : List Char} {port : UInt16} (h : IsPort digits port) :
    ∀ c ∈ digits, IsEndpointChar c := by
  intro c hc
  refine Or.inl (Or.inl ?_)
  rw [Char.isAlphanum, h.isDigit c hc, Bool.or_true]

/-- Behind a host with such characters, colon and port are such characters as well. -/
private theorem forall_isEndpointChar {host digits : List Char} {port : UInt16}
    (hhost : ∀ c ∈ host, IsEndpointChar c) (hport : IsPort digits port) :
    ∀ c ∈ host ++ ':' :: digits, IsEndpointChar c :=
  List.forall_mem_append.mpr ⟨hhost, List.forall_mem_cons.mpr
    ⟨Or.inr (Or.inl rfl), hport.isEndpointChar⟩⟩

theorem IsEndpoint.isEndpointChar {cs : List Char} {e : RemoteSocksEndpointV1}
    (h : IsEndpoint cs e) : ∀ c ∈ cs, IsEndpointChar c := by
  cases h with
  | ipv4 hhost hport =>
    exact forall_isEndpointChar
      (fun c hc ↦ Or.inl (isPlainChar_of_isIpv4Char (isIpv4Char_of_parseIpv4 hhost c hc))) hport
  | @ipv6 host digits port hhost hport =>
    have hchars : ∀ c ∈ host ++ [']'], IsEndpointChar c := by
      refine List.forall_mem_append.mpr ⟨fun c hc ↦ ?_, fun c hc ↦ ?_⟩
      · exact isEndpointChar_of_isIpv6Char ((isIpv6Char_of_parseIpv6 hhost).1 c hc)
      · rw [List.mem_singleton.mp hc]
        exact Or.inr (Or.inr (Or.inr rfl))
    have hrest := forall_isEndpointChar hchars hport
    rw [List.append_assoc, List.singleton_append] at hrest
    exact List.forall_mem_cons.mpr ⟨Or.inr (Or.inr (Or.inl rfl)), hrest⟩
  | hostname hhost hport =>
    exact forall_isEndpointChar (fun c hc ↦ Or.inl (hhost.isPlainChar c hc)) hport

theorem not_isMalformed {cs : List Char} (h : ∀ c ∈ cs, IsEndpointChar c) :
    ¬ RemoteSocksEndpointV1.IsMalformed cs := by
  have hnot : ∀ c : Char, ¬ IsEndpointChar c → c ∉ cs := fun c hc hmem ↦ hc (h c hmem)
  have hslash : '/' ∉ cs := hnot '/' fun hc ↦ absurd hc.toNat_cases (by decide)
  rintro (hfound | hc | hc | hc | hc | hc | hc)
  · exact hslash (hfound.subset (by decide))
  · exact hslash hc
  · exact hnot '\\' (fun hc ↦ absurd hc.toNat_cases (by decide)) hc
  · exact hnot '@' (fun hc ↦ absurd hc.toNat_cases (by decide)) hc
  · exact hnot '?' (fun hc ↦ absurd hc.toNat_cases (by decide)) hc
  · exact hnot '#' (fun hc ↦ absurd hc.toNat_cases (by decide)) hc
  · obtain ⟨c, hc, hcontrol⟩ := List.any_eq_true.mp hc
    have := (h c hc).toNat_cases
    rw [Bool.or_eq_true, decide_eq_true_eq, decide_eq_true_eq] at hcontrol
    omega

theorem not_isWhitespace {c : Char} (h : IsEndpointChar c) : Text.isWhitespace c = false := by
  have := h.toNat_cases
  simp only [Text.isWhitespace, Bool.or_eq_false_iff, Bool.and_eq_false_iff,
    decide_eq_false_iff_not]
  omega

/-! ### The parser and the grammar -/

namespace RemoteSocksEndpointV1

theorem isEndpoint_of_parseBracketed {rest : List Char} {e : RemoteSocksEndpointV1}
    (h : parseBracketed rest = .ok e) : IsEndpoint ('[' :: rest) e := by
  unfold parseBracketed at h
  split at h
  · cases h
  · next host portStr hsplit =>
    obtain ⟨port, hport, h⟩ := Protocol.bind_eq_ok.mp h
    obtain ⟨rfl, -⟩ := splitOnce_eq_some_iff.mp hsplit
    split at h
    · cases h
    next hhost =>
    cases h
    rw [Option.isNone_iff_eq_none, ← ne_eq, ← Option.isSome_iff_ne_none] at hhost
    exact .ipv6 hhost (parsePort_eq_ok_iff.mp hport)
  · cases h

theorem isEndpoint_of_parsePlain {trimmed : List Char} {e : RemoteSocksEndpointV1}
    (h : parsePlain trimmed = .ok e) : IsEndpoint trimmed e := by
  unfold parsePlain at h
  split at h
  · cases h
  next host portStr hsplit =>
  obtain ⟨rfl, -⟩ := rsplitOnce_eq_some_iff.mp hsplit
  split at h
  · cases h
  obtain ⟨port, hport, h⟩ := Protocol.bind_eq_ok.mp h
  have hport := parsePort_eq_ok_iff.mp hport
  split at h
  · cases h
  split at h
  · next hhost =>
    cases h
    exact .ipv4 hhost hport
  · obtain ⟨u, hhost, h⟩ := Protocol.bind_eq_ok.mp h
    cases h
    exact .hostname (validateHostname_eq_ok_iff.mp hhost) hport

theorem parseBracketed_of_isPort {host digits : List Char} {port : UInt16}
    (hhost : (parseIpv6 host).isSome) (hport : IsPort digits port) :
    parseBracketed (host ++ ']' :: ':' :: digits) = .ok ⟨.ofChars host, port, true⟩ := by
  have hbracket : ']' ∉ host := by
    intro hc
    exact absurd ((isIpv6Char_of_parseIpv6 hhost).1 _ hc) (by unfold IsIpv6Char; decide)
  have hnone : ¬ (parseIpv6 host).isNone = true := by
    rw [Option.isNone_iff_eq_none, ← ne_eq, ← Option.isSome_iff_ne_none]
    exact hhost
  rw [parseBracketed, splitOnce_eq_some_iff.mpr ⟨rfl, hbracket⟩]
  show (parsePort digits >>= fun port ↦ _) = _
  rw [parsePort_eq_ok_iff.mpr hport]
  exact if_neg hnone

/-- A port has no colon, so that the last one stands ahead of it. -/
theorem rsplitOnce_of_isPort {host digits : List Char} {port : UInt16}
    (hport : IsPort digits port) :
    rsplitOnce ':' (host ++ ':' :: digits) = some (host, digits) :=
  rsplitOnce_eq_some_iff.mpr ⟨rfl, fun hc ↦ absurd (hport.isDigit _ hc) (by decide)⟩

theorem parsePlain_of_isPort {host digits : List Char} {port : UInt16} (hne : host ≠ [])
    (hchars : ∀ c ∈ host, IsPlainChar c) (hport : IsPort digits port)
    (hhost : (parseIpv4 host).isSome ∨ IsHostname host) :
    parsePlain (host ++ ':' :: digits) = .ok ⟨.ofChars host, port, false⟩ := by
  have hcolon : ':' ∉ host := fun hc ↦ absurd (hchars _ hc) (by unfold IsPlainChar; decide)
  rw [parsePlain, rsplitOnce_of_isPort hport]
  dsimp only
  rw [if_neg hne, parsePort_eq_ok_iff.mpr hport]
  refine (if_neg hcolon).trans ?_
  by_cases hipv4 : (parseIpv4 host).isSome
  · exact if_pos hipv4
  · rw [if_neg hipv4, validateHostname_eq_ok_iff.mpr (hhost.resolve_left hipv4)]
    rfl

theorem parseTrimmed_of_isPort {host digits : List Char} {port : UInt16} (hne : host ≠ [])
    (hchars : ∀ c ∈ host, IsPlainChar c) (hport : IsPort digits port)
    (hhost : (parseIpv4 host).isSome ∨ IsHostname host) :
    parseTrimmed (host ++ ':' :: digits) = .ok ⟨.ofChars host, port, false⟩ := by
  have hbare := not_isMalformed (forall_isEndpointChar (fun c hc ↦ Or.inl (hchars c hc)) hport)
  have hnil : host ++ ':' :: digits ≠ [] :=
    List.append_ne_nil_of_right_ne_nil host (List.cons_ne_nil ':' digits)
  unfold parseTrimmed
  rw [if_neg hnil, if_neg hbare]
  split
  · next rest hrest =>
    obtain ⟨c, tail, rfl⟩ := List.exists_cons_of_ne_nil hne
    cases hrest
    exact absurd (hchars '[' List.mem_cons_self) (by unfold IsPlainChar; decide)
  · exact parsePlain_of_isPort hne hchars hport hhost

/-- The parser takes the texts of the grammar and reads them as it says. -/
theorem parseTrimmed_eq_ok_iff {trimmed : List Char} {e : RemoteSocksEndpointV1} :
    parseTrimmed trimmed = .ok e ↔ IsEndpoint trimmed e := by
  constructor
  · intro h
    unfold parseTrimmed at h
    split at h
    · cases h
    split at h
    · cases h
    split at h
    · exact isEndpoint_of_parseBracketed h
    · exact isEndpoint_of_parsePlain h
  · intro h
    cases h with
    | ipv4 hhost hport =>
      exact parseTrimmed_of_isPort (ne_nil_of_parseIpv4 hhost)
        (fun c hc ↦ isPlainChar_of_isIpv4Char (isIpv4Char_of_parseIpv4 hhost c hc)) hport
        (Or.inl hhost)
    | ipv6 hhost hport =>
      have hbare := not_isMalformed (IsEndpoint.ipv6 hhost hport).isEndpointChar
      rw [parseTrimmed, if_neg (List.cons_ne_nil _ _), if_neg hbare]
      exact parseBracketed_of_isPort hhost hport
    | hostname hhost hport =>
      exact parseTrimmed_of_isPort hhost.ne_nil hhost.isPlainChar hport (Or.inr hhost)

theorem parse_ofChars {cs : List Char} {e : RemoteSocksEndpointV1} (h : IsEndpoint cs e) :
    parse (.ofChars cs) = .ok e := by
  rw [parse, Text.chars_ofChars, trim_of_forall fun c hc ↦ not_isWhitespace (h.isEndpointChar c hc)]
  exact parseTrimmed_eq_ok_iff.mpr h

/-! ### Kept endpoints -/

theorem parse_display {cs : List Char} {e : RemoteSocksEndpointV1} (h : IsEndpoint cs e) :
    parse e.display = .ok e := by
  cases h with
  | ipv4 hhost hport =>
    rw [display, if_neg Bool.false_ne_true, Text.chars_ofChars]
    exact parse_ofChars (.ipv4 hhost (isPort_toDigits hport.pos))
  | ipv6 hhost hport =>
    rw [display, if_pos rfl, Text.chars_ofChars]
    exact parse_ofChars (.ipv6 hhost (isPort_toDigits hport.pos))
  | hostname hhost hport =>
    rw [display, if_neg Bool.false_ne_true, Text.chars_ofChars]
    exact parse_ofChars (.hostname hhost (isPort_toDigits hport.pos))

/-- A host without a colon is written without brackets. -/
theorem fromParts_of_isPlainChar {host : List Char} {port : UInt16}
    (h : ∀ c ∈ host, IsPlainChar c) :
    fromParts (.ofChars host) port = parse (.ofChars (plainText host port)) := by
  have hcolon : ':' ∉ host := fun hc ↦ absurd (h _ hc) (by unfold IsPlainChar; decide)
  rw [fromParts, Text.chars_ofChars, if_neg fun hc ↦ hcolon hc.1]

theorem fromParts_of_isEndpoint {cs : List Char} {e : RemoteSocksEndpointV1} (h : IsEndpoint cs e) :
    fromParts e.host e.port = .ok e := by
  cases h with
  | ipv4 hhost hport =>
    rw [fromParts_of_isPlainChar fun c hc ↦
      isPlainChar_of_isIpv4Char (isIpv4Char_of_parseIpv4 hhost c hc)]
    exact parse_ofChars (.ipv4 hhost (isPort_toDigits hport.pos))
  | ipv6 hhost hport =>
    rw [fromParts, Text.chars_ofChars, if_pos ⟨(isIpv6Char_of_parseIpv6 hhost).2, hhost⟩]
    exact parse_ofChars (.ipv6 hhost (isPort_toDigits hport.pos))
  | hostname hhost hport =>
    rw [fromParts_of_isPlainChar hhost.isPlainChar]
    exact parse_ofChars (.hostname hhost (isPort_toDigits hport.pos))

end RemoteSocksEndpointV1

/-! ### Onion names -/

/-- No address literal ends in `.onion`. -/
theorem not_endsInOnion {host : List Char} (h : ∀ c ∈ host, IsIpv6Char c) : ¬ EndsInOnion host := by
  intro honion
  obtain ⟨c, hc, hn⟩ := List.mem_map.mp (honion.subset
    (List.mem_cons_of_mem '.' (List.mem_cons_of_mem 'o' List.mem_cons_self)))
  have hlower : ∀ n : Fin 128, ((toDigit 16 (Char.ofNat n)).isSome ∨ Char.ofNat n = '.' ∨
      Char.ofNat n = ':') → (Char.ofNat n).toLower ≠ 'n' := by decide
  have hlt : c.toNat < 128 := by
    have := (isEndpointChar_of_isIpv6Char (h c hc)).toNat_cases
    omega
  have hself : Char.ofNat c.toNat = c := Char.ofNat_toNat c
  exact hlower ⟨c.toNat, hlt⟩ (by rw [hself]; exact h c hc) (by rw [hself]; exact hn)

/-- What is promised of every text: the grammar decides, endpoints survive display and settings,
and no name of an onion service is asked of the resolver. -/
structure FollowsGrammar (raw : Text) : Prop where
  accepts : (∃ e, RemoteSocksEndpointV1.parse raw = .ok e) ↔ ∃ e, IsEndpoint (trim raw.chars) e
  display : ∀ e, RemoteSocksEndpointV1.parse raw = .ok e →
    RemoteSocksEndpointV1.parse e.display = .ok e
  parts : ∀ e, RemoteSocksEndpointV1.parse raw = .ok e →
    RemoteSocksEndpointV1.fromParts e.host e.port = .ok e
  noOnion : ∀ e, RemoteSocksEndpointV1.parse raw = .ok e → ¬ EndsInOnion e.host.chars
  resolver : ∀ e, RemoteSocksEndpointV1.parse raw = .ok e →
    ∀ (σ : Type) (connectTimeout : IpAddr → UInt16 → Option σ) (resolve resolve' : Text → _),
      (∀ name, ¬ EndsInOnion name.chars → resolve name = resolve' name) →
        e.connect resolve connectTimeout = e.connect resolve' connectTimeout

/-- The promise is kept for every text but those that name an onion service as the proxy. -/
theorem remoteSocksEndpoint_exact (raw : Text) :
    FollowsGrammar raw ↔ ¬ IsOnionEndpoint (trim raw.chars) := by
  have hparse : ∀ e, RemoteSocksEndpointV1.parse raw = .ok e ↔ IsEndpoint (trim raw.chars) e :=
    fun e ↦ RemoteSocksEndpointV1.parseTrimmed_eq_ok_iff
  constructor
  · rintro h ⟨host, digits, port, hcs, hhost, hport, honion⟩
    have hendpoint : IsEndpoint (trim raw.chars) ⟨.ofChars host, port, false⟩ := by
      rw [hcs]
      exact .hostname hhost hport
    refine h.noOnion _ ((hparse _).mpr hendpoint) ?_
    rw [Text.chars_ofChars]
    exact honion
  · intro h
    have hnoOnion : ∀ e, RemoteSocksEndpointV1.parse raw = .ok e → ¬ EndsInOnion e.host.chars := by
      intro e he
      rw [hparse] at he
      generalize trim raw.chars = cs at h he
      cases he with
      | ipv4 hhost hport =>
        rw [Text.chars_ofChars]
        exact not_endsInOnion fun c hc ↦
          isIpv6Char_of_isIpv4Char (isIpv4Char_of_parseIpv4 hhost c hc)
      | ipv6 hhost hport =>
        rw [Text.chars_ofChars]
        exact not_endsInOnion (isIpv6Char_of_parseIpv6 hhost).1
      | hostname hhost hport =>
        rw [Text.chars_ofChars]
        exact fun honion ↦ h ⟨_, _, _, rfl, hhost, hport, honion⟩
    exact
      { accepts := exists_congr hparse
        display := fun e he ↦ RemoteSocksEndpointV1.parse_display ((hparse e).mp he)
        parts := fun e he ↦ RemoteSocksEndpointV1.fromParts_of_isEndpoint ((hparse e).mp he)
        noOnion := hnoOnion
        resolver := fun e he σ connectTimeout resolve resolve' hagree ↦ by
          have hname : resolve e.host = resolve' e.host := hagree e.host (hnoOnion e he)
          simp only [RemoteSocksEndpointV1.connect, RemoteSocksEndpointV1.toSocketAddrs, hname] }

/-- `abc.onion:9050` is taken. -/
theorem remoteSocksEndpoint_onion : ¬ FollowsGrammar
    (.ofChars ['a', 'b', 'c', '.', 'o', 'n', 'i', 'o', 'n', ':', '9', '0', '5', '0']) := by
  intro h
  have hparse : RemoteSocksEndpointV1.parse
      (.ofChars ['a', 'b', 'c', '.', 'o', 'n', 'i', 'o', 'n', ':', '9', '0', '5', '0']) =
        .ok ⟨.ofChars ['a', 'b', 'c', '.', 'o', 'n', 'i', 'o', 'n'], 9050, false⟩ := by
    rw [RemoteSocksEndpointV1.parse, Text.chars_ofChars]
    decide
  refine h.noOnion _ hparse ?_
  rw [Text.chars_ofChars, EndsInOnion]
  decide

end PrivateBallot.TransportNetwork
