import Mathlib.Data.List.DropRight
import PrivateBallot.Base.Text

/-!
# Cutting text

Library `Base`. What `str` offers to take a text apart, on its characters: blanks cut off at both
ends, and the parts ahead of and behind the first or the last occurrence of a character.
-/

namespace PrivateBallot.Base.Split

/-! ### Blanks -/

/-- `str::trim` -/
def trim (cs : List Char) : List Char :=
  (cs.dropWhile Text.isWhitespace).rdropWhile Text.isWhitespace

/-- Text without blanks is kept. -/
theorem trim_of_forall {cs : List Char} (h : ∀ c ∈ cs, Text.isWhitespace c = false) :
    trim cs = cs := by
  have hdrop : cs.dropWhile Text.isWhitespace = cs := by
    cases cs with
    | nil => rfl
    | cons c rest =>
      rw [List.dropWhile_cons_of_neg]
      rw [h c List.mem_cons_self]
      exact Bool.false_ne_true
  rw [trim, hdrop, List.rdropWhile_eq_self_iff]
  intro hne
  rw [h _ (List.getLast_mem hne)]
  exact Bool.false_ne_true

/-! ### Parts -/

/-- The members of a list with separators are those of its parts and of the separator. -/
theorem mem_intercalate {α : Type} {separator : List α} {parts : List (List α)} {a : α}
    (h : a ∈ separator.intercalate parts) : (∃ part ∈ parts, a ∈ part) ∨ a ∈ separator := by
  induction parts with
  | nil => cases h
  | cons part parts ih =>
    cases parts with
    | nil =>
      rw [List.intercalate_singleton] at h
      exact Or.inl ⟨part, List.mem_cons_self, h⟩
    | cons next parts =>
      rw [List.intercalate_cons_cons, List.mem_append, List.mem_append] at h
      rcases h with (h | h) | h
      · exact Or.inl ⟨part, List.mem_cons_self, h⟩
      · exact Or.inr h
      · exact (ih h).imp_left fun ⟨p, hp, ha⟩ ↦ ⟨p, List.mem_cons_of_mem part hp, ha⟩

/-- `str::split_once` -/
def splitOnce (c : Char) : List Char → Option (List Char × List Char)
  | [] => none
  | d :: rest =>
    if d = c then some ([], rest) else (splitOnce c rest).map fun parts ↦ (d :: parts.1, parts.2)

/-- `str::rsplit_once` -/
def rsplitOnce (c : Char) (cs : List Char) : Option (List Char × List Char) :=
  (splitOnce c cs.reverse).map fun parts ↦ (parts.2.reverse, parts.1.reverse)

/-- A text is cut at the first occurrence. -/
theorem splitOnce_eq_some_iff {c : Char} {cs front back : List Char} :
    splitOnce c cs = some (front, back) ↔ cs = front ++ c :: back ∧ c ∉ front := by
  induction cs generalizing front with
  | nil =>
    constructor
    · nofun
    · rintro ⟨h, -⟩
      exact absurd h.symm (List.append_ne_nil_of_right_ne_nil front (List.cons_ne_nil c back))
  | cons d rest ih =>
    rw [splitOnce]
    by_cases hd : d = c
    · rw [if_pos hd]
      constructor
      · intro h
        cases h
        rw [hd]
        exact ⟨rfl, List.not_mem_nil⟩
      · rintro ⟨h, hfront⟩
        cases front with
        | nil =>
          cases h
          rfl
        | cons e front =>
          cases h
          exact absurd (hd ▸ List.mem_cons_self) hfront
    · rw [if_neg hd]
      constructor
      · intro h
        obtain ⟨⟨front', back'⟩, hrest, hparts⟩ := Option.map_eq_some_iff.mp h
        cases hparts
        obtain ⟨rfl, hfront⟩ := ih.mp hrest
        refine ⟨rfl, ?_⟩
        rw [List.mem_cons, not_or]
        exact ⟨fun hc ↦ hd hc.symm, hfront⟩
      · rintro ⟨h, hfront⟩
        cases front with
        | nil =>
          cases h
          exact absurd rfl hd
        | cons e front =>
          cases h
          rw [ih.mpr ⟨rfl, fun hc ↦ hfront (List.mem_cons_of_mem d hc)⟩]
          rfl

/-- A text is cut at the last occurrence. -/
theorem rsplitOnce_eq_some_iff {c : Char} {cs front back : List Char} :
    rsplitOnce c cs = some (front, back) ↔ cs = front ++ c :: back ∧ c ∉ back := by
  rw [rsplitOnce, Option.map_eq_some_iff]
  constructor
  · rintro ⟨⟨a, b⟩, h, hparts⟩
    cases hparts
    obtain ⟨hcs, hc⟩ := splitOnce_eq_some_iff.mp h
    rw [List.mem_reverse]
    refine ⟨?_, hc⟩
    rw [← List.reverse_reverse cs, hcs, List.reverse_append, List.reverse_cons, List.append_assoc]
    rfl
  · rintro ⟨rfl, hc⟩
    refine ⟨(back.reverse, front.reverse), splitOnce_eq_some_iff.mpr ⟨?_, ?_⟩, ?_⟩
    · rw [List.reverse_append, List.reverse_cons, List.append_assoc]
      rfl
    · rw [List.mem_reverse]
      exact hc
    · rw [List.reverse_reverse, List.reverse_reverse]

end PrivateBallot.Base.Split
