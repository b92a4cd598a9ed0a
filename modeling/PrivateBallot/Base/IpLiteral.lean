import Mathlib.Data.List.TakeWhile
import PrivateBallot.Base.Text

/-!
# Address literals

Library `Base`. `core::net::parser`: the texts that are IPv4 and IPv6 addresses. A reader takes what
it can from the front of a text and leaves the rest; a literal is a text of which nothing is left.
-/

namespace PrivateBallot.Base.IpLiteral

/-- What a reader finds at the front, and what is left. -/
abbrev Reader (α : Type) := List Char → Option (α × List Char)

/-- `char::to_digit` -/
def toDigit (radix : Nat) (c : Char) : Option Nat :=
  let value :=
    if '0' ≤ c ∧ c ≤ '9' then some (c.toNat - 48)
    else if 'a' ≤ c ∧ c ≤ 'f' then some (c.toNat - 87)
    else if 'A' ≤ c ∧ c ≤ 'F' then some (c.toNat - 55)
    else none
  value.filter (· < radix)

/-- `Parser::read_number`: all digits that stand there, which must not be too many. -/
def readNumber (radix maxDigits : Nat) (allowZeroPrefix : Bool) (largest : Nat) : Reader Nat :=
  fun cs ↦
    let digits := cs.takeWhile fun c ↦ (toDigit radix c).isSome
    let value := digits.foldl (fun n c ↦ n * radix + (toDigit radix c).getD 0) 0
    if digits = [] ∨ maxDigits < digits.length then none
    else if !allowZeroPrefix && digits.head? = some '0' && 1 < digits.length then none
    else if largest < value then none
    else some (value, cs.dropWhile fun c ↦ (toDigit radix c).isSome)

/-- `Parser::read_separator`: a separator stands ahead of every part but the first. -/
def readSeparator {α : Type} (separator : Char) (index : Nat) (inner : Reader α)
    (cs : List Char) : Option (α × List Char) :=
  if index = 0 then inner cs
  else match cs with
  | [] => none
  | c :: rest => if c = separator then inner rest else none

/-- The loop of `read_ipv4_addr`. -/
def readOctets : Nat → Nat → Reader (List Nat)
  | 0, _, cs => some ([], cs)
  | left + 1, index, cs =>
    (readSeparator '.' index (readNumber 10 3 false 255) cs).bind fun (octet, rest) ↦
      (readOctets left (index + 1) rest).map fun (octets, rest) ↦ (octet :: octets, rest)

/-- `Parser::read_ipv4_addr` -/
def readIpv4 : Reader (List Nat) := readOctets 4 0

/-- `read_groups`: groups of an IPv6 address, of which the last two may be written as an IPv4
address; whether they were. -/
def readGroups (limit : Nat) : Nat → Nat → List Char → (List Nat × Bool) × List Char
  | 0, _, cs => (([], false), cs)
  | left + 1, index, cs =>
    match if index + 1 < limit then readSeparator ':' index readIpv4 cs else none with
    | some (octets, rest) =>
      (([octets.getD 0 0 * 256 + octets.getD 1 0, octets.getD 2 0 * 256 + octets.getD 3 0], true),
        rest)
    | none => match readSeparator ':' index (readNumber 16 4 true 0xffff) cs with
      | none => (([], false), cs)
      | some (group, rest) =>
        let more := readGroups limit left (index + 1) rest
        ((group :: more.1.1, more.1.2), more.2)

/-- `Parser::read_ipv6_addr`: eight groups, or fewer with `::` for those that are left out. -/
def readIpv6 : Reader (List Nat) := fun cs ↦
  match readGroups 8 8 0 cs with
  | ((head, headIpv4), rest) =>
    if head.length = 8 then some (head, rest)
    else if headIpv4 then none
    else match rest with
    | ':' :: ':' :: rest =>
      let limit := 8 - (head.length + 1)
      let tail := readGroups limit limit 0 rest
      some (head ++ List.replicate (8 - head.length - tail.1.1.length) 0 ++ tail.1.1, tail.2)
    | _ => none

/-- `parse_with`: nothing may be left. -/
def parseWith {α : Type} (reader : Reader α) (cs : List Char) : Option α :=
  match reader cs with
  | some (value, []) => some value
  | _ => none

/-- `str::parse::<Ipv4Addr>` -/
def parseIpv4 (cs : List Char) : Option (List Nat) :=
  if 15 < (Utf8.encode cs).length then none else parseWith readIpv4 cs

/-- `str::parse::<Ipv6Addr>` -/
def parseIpv6 (cs : List Char) : Option (List Nat) := parseWith readIpv6 cs

/-! ### The characters of a literal -/

/-- The reader takes characters from the front, and only such as `P` allows. -/
def Takes {α : Type} (P : Char → Prop) (reader : Reader α) : Prop :=
  ∀ cs value rest, reader cs = some (value, rest) → ∃ front, cs = front ++ rest ∧ ∀ c ∈ front, P c

variable {α : Type} {P Q : Char → Prop}

theorem Takes.mono {reader : Reader α} (h : Takes P reader) (hPQ : ∀ c, P c → Q c) :
    Takes Q reader := by
  intro cs value rest hread
  obtain ⟨front, hcs, hfront⟩ := h cs value rest hread
  exact ⟨front, hcs, fun c hc ↦ hPQ c (hfront c hc)⟩

theorem takes_readNumber {radix maxDigits largest : Nat} {allowZeroPrefix : Bool}
    (h : ∀ c, (toDigit radix c).isSome → P c) :
    Takes P (readNumber radix maxDigits allowZeroPrefix largest) := by
  intro cs value rest hread
  dsimp only [readNumber] at hread
  split at hread
  · cases hread
  split at hread
  · cases hread
  split at hread
  · cases hread
  cases hread
  refine ⟨_, List.takeWhile_append_dropWhile.symm, fun c hc ↦ h c ?_⟩
  exact List.mem_takeWhile_imp (p := fun c ↦ (toDigit radix c).isSome) hc

/-- Ahead of every part but the first the separator is read. -/
theorem readSeparator_eq_some {separator : Char} {index : Nat} {inner : Reader α}
    {cs rest : List Char} {value : α} (hindex : index ≠ 0)
    (h : readSeparator separator index inner cs = some (value, rest)) :
    ∃ tail, cs = separator :: tail ∧ inner tail = some (value, rest) := by
  unfold readSeparator at h
  rw [if_neg hindex] at h
  cases cs with
  | nil => cases h
  | cons c tail =>
    obtain ⟨hc, h⟩ := Option.ite_none_right_eq_some.mp h
    exact ⟨tail, hc ▸ rfl, h⟩

theorem takes_readSeparator {separator : Char} {index : Nat} {inner : Reader α}
    (hseparator : P separator) (h : Takes P inner) :
    Takes P (readSeparator separator index inner) := by
  intro cs value rest hread
  by_cases hindex : index = 0
  · unfold readSeparator at hread
    rw [if_pos hindex] at hread
    exact h _ _ _ hread
  · obtain ⟨tail, rfl, hinner⟩ := readSeparator_eq_some hindex hread
    obtain ⟨front, rfl, hfront⟩ := h _ _ _ hinner
    exact ⟨separator :: front, rfl, List.forall_mem_cons.mpr ⟨hseparator, hfront⟩⟩

theorem takes_readOctets {left index : Nat} (hdigit : ∀ c, (toDigit 10 c).isSome → P c)
    (hdot : P '.') : Takes P (readOctets left index) := by
  induction left generalizing index with
  | zero =>
    intro cs value rest hread
    cases hread
    exact ⟨[], rfl, nofun⟩
  | succ left ih =>
    intro cs value rest hread
    obtain ⟨⟨octet, middle⟩, hfirst, hread⟩ := Option.bind_eq_some_iff.mp hread
    obtain ⟨⟨octets, rest'⟩, hmore, hparts⟩ := Option.map_eq_some_iff.mp hread
    cases hparts
    obtain ⟨a, rfl, ha⟩ := takes_readSeparator hdot (takes_readNumber hdigit) _ _ _ hfirst
    obtain ⟨b, rfl, hb⟩ := ih _ _ _ hmore
    exact ⟨a ++ b, (List.append_assoc a b _).symm, List.forall_mem_append.mpr ⟨ha, hb⟩⟩

/-- A character of an IPv4 literal. -/
def IsIpv4Char (c : Char) : Prop := (toDigit 10 c).isSome ∨ c = '.'

/-- A character of an IPv6 literal. -/
def IsIpv6Char (c : Char) : Prop := (toDigit 16 c).isSome ∨ c = '.' ∨ c = ':'

private theorem isSome_toDigit_of_ten {c : Char} (h : (toDigit 10 c).isSome) :
    (toDigit 16 c).isSome := by
  obtain ⟨value, hvalue⟩ := Option.isSome_iff_exists.mp h
  obtain ⟨hdigit, hlt⟩ := Option.filter_eq_some_iff.mp hvalue
  rw [decide_eq_true_eq] at hlt
  refine Option.isSome_iff_exists.mpr ⟨value, Option.filter_eq_some_iff.mpr ⟨hdigit, ?_⟩⟩
  rw [decide_eq_true_eq]
  omega

theorem isIpv6Char_of_isIpv4Char {c : Char} (h : IsIpv4Char c) : IsIpv6Char c :=
  h.imp isSome_toDigit_of_ten Or.inl

theorem takes_readIpv4 : Takes IsIpv4Char readIpv4 :=
  takes_readOctets (fun _ ↦ Or.inl) (Or.inr rfl)

/-- Groups are read from the front. A separator is among what was read unless the first group or
the first two, written as an IPv4 address, are all there is. -/
theorem takes_readGroups {limit left index : Nat} {cs rest : List Char} {groups : List Nat × Bool}
    (h : readGroups limit left index cs = (groups, rest)) :
    ∃ front, cs = front ++ rest ∧ (∀ c ∈ front, IsIpv6Char c) ∧
      ((if index = 0 then 3 else 1) ≤ groups.1.length → ':' ∈ front) := by
  have hipv4 : Takes IsIpv6Char readIpv4 :=
    takes_readIpv4.mono fun _ ↦ isIpv6Char_of_isIpv4Char
  have hcolon : IsIpv6Char ':' := Or.inr (Or.inr rfl)
  induction left generalizing index cs groups rest with
  | zero =>
    cases h
    refine ⟨[], rfl, nofun, fun hlen ↦ ?_⟩
    split at hlen <;> cases hlen
  | succ left ih =>
    rw [readGroups] at h
    split at h
    · next octets tail hread =>
      cases h
      have hread := (Option.ite_none_right_eq_some.mp hread).2
      obtain ⟨front, rfl, hfront⟩ := takes_readSeparator hcolon hipv4 _ _ _ hread
      refine ⟨front, rfl, hfront, fun hlen ↦ ?_⟩
      by_cases hindex : index = 0
      · rw [if_pos hindex] at hlen
        simp at hlen
      · obtain ⟨tail', hcs, hinner⟩ := readSeparator_eq_some hindex hread
        obtain ⟨front', rfl, -⟩ := hipv4 _ _ _ hinner
        rw [← List.cons_append, List.append_cancel_right_eq] at hcs
        rw [hcs]
        exact List.mem_cons_self
    split at h
    · cases h
      refine ⟨[], rfl, nofun, fun hlen ↦ ?_⟩
      split at hlen <;> cases hlen
    · next group tail hread =>
      cases h
      have hnumber : Takes IsIpv6Char (readNumber 16 4 true 0xffff) :=
        takes_readNumber fun _ ↦ Or.inl
      obtain ⟨a, rfl, ha⟩ := takes_readSeparator hcolon hnumber _ _ _ hread
      obtain ⟨b, htail, hb, hmore⟩ := ih
        (Prod.mk.eta (p := readGroups limit left (index + 1) tail)).symm
      refine ⟨a ++ b, ?_, List.forall_mem_append.mpr ⟨ha, hb⟩, fun hlen ↦ ?_⟩
      · rw [List.append_assoc, ← htail]
      · by_cases hindex : index = 0
        · rw [if_pos hindex, List.length_cons] at hlen
          rw [if_neg (Nat.succ_ne_zero index)] at hmore
          exact List.mem_append_right a (hmore (by omega))
        · obtain ⟨tail', hcs, hinner⟩ := readSeparator_eq_some hindex hread
          obtain ⟨front', rfl, -⟩ := hnumber _ _ _ hinner
          rw [← List.cons_append, List.append_cancel_right_eq] at hcs
          rw [hcs]
          exact List.mem_append_left b List.mem_cons_self

/-- What `::` stands between is read as well; without it there are eight groups. -/
theorem takes_readIpv6 {cs rest : List Char} {groups : List Nat}
    (h : readIpv6 cs = some (groups, rest)) :
    ∃ front, cs = front ++ rest ∧ (∀ c ∈ front, IsIpv6Char c) ∧ ':' ∈ front := by
  have hcolon : IsIpv6Char ':' := Or.inr (Or.inr rfl)
  unfold readIpv6 at h
  split at h
  next head headIpv4 middle hhead =>
  obtain ⟨a, rfl, ha, hmem⟩ := takes_readGroups hhead
  split at h
  · next height =>
    cases h
    refine ⟨a, rfl, ha, hmem ?_⟩
    rw [if_pos rfl, height]
    decide
  split at h
  · cases h
  split at h
  · next tail =>
    cases h
    obtain ⟨b, htail, hb, -⟩ := takes_readGroups
      (Prod.mk.eta (p := readGroups (8 - (head.length + 1)) (8 - (head.length + 1)) 0 tail)).symm
    refine ⟨a ++ ':' :: ':' :: b, ?_, ?_, List.mem_append_right a List.mem_cons_self⟩
    · rw [List.append_assoc, List.cons_append, List.cons_append, ← htail]
    · exact List.forall_mem_append.mpr ⟨ha, List.forall_mem_cons.mpr ⟨hcolon,
        List.forall_mem_cons.mpr ⟨hcolon, hb⟩⟩⟩
  · cases h

theorem parseWith_eq_some {reader : Reader α} {cs : List Char} {value : α}
    (h : parseWith reader cs = some value) : reader cs = some (value, []) := by
  unfold parseWith at h
  split at h
  · next hread =>
    cases h
    exact hread
  · cases h

/-- An IPv4 literal is made of digits and dots. -/
theorem isIpv4Char_of_parseIpv4 {cs : List Char} (h : (parseIpv4 cs).isSome) :
    ∀ c ∈ cs, IsIpv4Char c := by
  obtain ⟨address, haddress⟩ := Option.isSome_iff_exists.mp h
  have hread := parseWith_eq_some (Option.ite_none_left_eq_some.mp haddress).2
  obtain ⟨front, hcs, hfront⟩ := takes_readIpv4 _ _ _ hread
  rwa [hcs, List.append_nil]

theorem ne_nil_of_parseIpv4 {cs : List Char} (h : (parseIpv4 cs).isSome) : cs ≠ [] := by
  rintro rfl
  exact absurd h (by decide)

/-- An IPv6 literal is made of hexadecimal digits, dots and colons, with at least one colon. -/
theorem isIpv6Char_of_parseIpv6 {cs : List Char} (h : (parseIpv6 cs).isSome) :
    (∀ c ∈ cs, IsIpv6Char c) ∧ ':' ∈ cs := by
  obtain ⟨address, haddress⟩ := Option.isSome_iff_exists.mp h
  obtain ⟨front, hcs, hfront⟩ := takes_readIpv6 (parseWith_eq_some haddress)
  rwa [hcs, List.append_nil]

example : parseIpv4 "192.168.1.50".toList = some [192, 168, 1, 50] := by decide
example : parseIpv4 "192.168.01.50".toList = none := by decide
example : parseIpv6 "fe80::1:127.0.0.1".toList = some [0xfe80, 0, 0, 0, 0, 1, 0x7f00, 1] := by
  decide
example : parseIpv6 "1:2:3".toList = none := by decide

end PrivateBallot.Base.IpLiteral
