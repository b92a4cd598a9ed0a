import PrivateBallot.Base.Bytes

/-!
# Sets and maps of digests

Library `Base`. `Vec<[u8; 32]>` that is sorted and deduplicated, and `BTreeMap<[u8; 32], _>`:
strictly ascending lists, which their members determine.
-/

namespace PrivateBallot.Base

/-- Strictly ascending digests. -/
def AscendingDigests (digests : List Bytes32) : Prop := Ascending Bytes32.toBytes digests

theorem AscendingDigests.nodup {digests : List Bytes32} (h : AscendingDigests digests) :
    digests.Nodup := by
  apply List.Pairwise.imp _ h
  intro a b hlt heq
  rw [heq] at hlt
  exact List.lt_irrefl _ hlt

/-- Strictly ascending lists with the same members are equal. -/
theorem AscendingDigests.ext {xs ys : List Bytes32} (hxs : AscendingDigests xs)
    (hys : AscendingDigests ys) (h : ∀ d, d ∈ xs ↔ d ∈ ys) : xs = ys := by
  apply List.Perm.eq_of_pairwise _ hxs hys
  · exact (List.perm_ext_iff_of_nodup hxs.nodup hys.nodup).mpr h
  · intro a b _ _ hab hba
    exact absurd hba (List.lt_asymm hab)

/-- `Vec::dedup`: an element equal to the one before it goes. -/
def dedupAdjacent {α : Type} [DecidableEq α] : List α → List α
  | a :: b :: rest => if a = b then dedupAdjacent (b :: rest) else a :: dedupAdjacent (b :: rest)
  | xs => xs

theorem mem_dedupAdjacent {α : Type} [DecidableEq α] (xs : List α) (x : α) :
    x ∈ dedupAdjacent xs ↔ x ∈ xs := by
  fun_induction dedupAdjacent xs with
  | case1 b rest ih => simp [ih]
  | case2 a b rest hne ih => simp [ih]
  | case3 xs hxs => exact Iff.rfl

/-- Removing repetitions from a sorted list leaves a strictly ascending one. -/
theorem ascending_dedupAdjacent {xs : List Bytes32}
    (h : xs.Pairwise fun a b ↦ a.toBytes ≤ b.toBytes) : AscendingDigests (dedupAdjacent xs) := by
  fun_induction dedupAdjacent xs with
  | case1 b rest ih => exact ih h.of_cons
  | case2 a b rest hne ih =>
    obtain ⟨hfirst, hrest⟩ := List.pairwise_cons.mp h
    refine List.pairwise_cons.mpr ⟨?_, ih hrest⟩
    intro c hc
    rw [mem_dedupAdjacent] at hc
    have hab : a.toBytes < b.toBytes := by
      apply Std.lt_of_le_of_ne (hfirst b List.mem_cons_self)
      intro heq
      exact hne (Bytes32.ext heq)
    rcases List.mem_cons.mp hc with rfl | hc
    · exact hab
    · exact Std.lt_of_lt_of_le hab ((List.pairwise_cons.mp hrest).1 c hc)
  | case3 xs hxs =>
    match xs, hxs with
    | [], _ => exact List.Pairwise.nil
    | [a], _ => exact List.pairwise_singleton _ a
    | a :: b :: rest, hxs => exact absurd rfl (hxs a b rest)

/-- `sort_unstable` and `dedup`. -/
def sortDedup (digests : List Bytes32) : List Bytes32 :=
  dedupAdjacent (sortBytes Bytes32.toBytes digests)

@[simp] theorem mem_sortDedup (digests : List Bytes32) (d : Bytes32) :
    d ∈ sortDedup digests ↔ d ∈ digests := by
  rw [sortDedup, mem_dedupAdjacent, sortBytes]
  exact List.mem_insertionSort _

theorem ascending_sortDedup (digests : List Bytes32) : AscendingDigests (sortDedup digests) :=
  ascending_dedupAdjacent (pairwise_sortBytes Bytes32.toBytes digests)

/-- What is left depends only on which digests there were. -/
theorem sortDedup_congr {xs ys : List Bytes32} (h : ∀ d, d ∈ xs ↔ d ∈ ys) :
    sortDedup xs = sortDedup ys := by
  apply (ascending_sortDedup xs).ext (ascending_sortDedup ys)
  intro d
  rw [mem_sortDedup, mem_sortDedup, h]

theorem sortDedup_of_ascending {xs : List Bytes32} (h : AscendingDigests xs) :
    sortDedup xs = xs := by
  apply (ascending_sortDedup xs).ext h
  intro d
  rw [mem_sortDedup]

/-- Without repetitions nothing is removed. -/
theorem perm_sortDedup {xs : List Bytes32} (h : xs.Nodup) : (sortDedup xs).Perm xs := by
  apply (List.perm_ext_iff_of_nodup (ascending_sortDedup xs).nodup h).mpr
  exact mem_sortDedup xs

theorem length_sortDedup {xs : List Bytes32} (h : xs.Nodup) :
    (sortDedup xs).length = xs.length :=
  (perm_sortDedup h).length_eq

theorem sortDedup_eq_nil {xs : List Bytes32} : sortDedup xs = [] ↔ xs = [] := by
  rw [List.eq_nil_iff_forall_not_mem, List.eq_nil_iff_forall_not_mem]
  simp only [mem_sortDedup]

/-! ### Maps -/

/-- Entries in strictly ascending order of their keys. -/
structure DigestMap (ν : Type) where
  entries : List (Bytes32 × ν)
  ascending : Ascending (fun entry ↦ entry.1.toBytes) entries
deriving DecidableEq

namespace DigestMap

variable {ν : Type}

/-- `BTreeMap::new` -/
def empty : DigestMap ν := ⟨[], List.Pairwise.nil⟩

/-- `get` -/
def lookup (self : DigestMap ν) (key : Bytes32) : Option ν :=
  (self.entries.find? fun entry ↦ decide (entry.1 = key)).map Prod.snd

private def insertEntry (key : Bytes32) (value : ν) : List (Bytes32 × ν) → List (Bytes32 × ν)
  | [] => [(key, value)]
  | entry :: rest =>
    if key.toBytes < entry.1.toBytes then (key, value) :: entry :: rest
    else if key = entry.1 then (key, value) :: rest
    else entry :: insertEntry key value rest

private theorem key_mem_insertEntry {key : Bytes32} {value : ν} {entries : List (Bytes32 × ν)}
    {entry : Bytes32 × ν} (h : entry ∈ insertEntry key value entries) :
    entry = (key, value) ∨ entry ∈ entries := by
  induction entries with
  | nil => exact .inl (List.mem_singleton.mp h)
  | cons first rest ih =>
    unfold insertEntry at h
    split at h
    · rcases List.mem_cons.mp h with heq | hmem
      · exact .inl heq
      · exact .inr hmem
    · split at h
      · rcases List.mem_cons.mp h with heq | hmem
        · exact .inl heq
        · exact .inr (List.mem_cons_of_mem first hmem)
      · rcases List.mem_cons.mp h with heq | hmem
        · exact .inr (heq ▸ List.mem_cons_self)
        · rcases ih hmem with heq | hmem
          · exact .inl heq
          · exact .inr (List.mem_cons_of_mem first hmem)

private theorem ascending_insertEntry (key : Bytes32) (value : ν) {entries : List (Bytes32 × ν)}
    (h : Ascending (fun entry ↦ entry.1.toBytes) entries) :
    Ascending (fun entry ↦ entry.1.toBytes) (insertEntry key value entries) := by
  induction entries with
  | nil => exact List.pairwise_singleton _ _
  | cons first rest ih =>
    obtain ⟨hfirst, hrest⟩ := List.pairwise_cons.mp h
    unfold insertEntry
    split
    · next hlt =>
      refine List.pairwise_cons.mpr ⟨?_, h⟩
      intro entry hentry
      rcases List.mem_cons.mp hentry with rfl | hentry
      · exact hlt
      · exact List.lt_trans hlt (hfirst entry hentry)
    · next hnlt =>
      split
      · next heq =>
        subst heq
        exact List.pairwise_cons.mpr ⟨hfirst, hrest⟩
      · next hne =>
        refine List.pairwise_cons.mpr ⟨?_, ih hrest⟩
        intro entry hentry
        rcases key_mem_insertEntry hentry with rfl | hentry
        · apply Std.lt_of_le_of_ne (Std.not_lt.mp hnlt)
          intro heq
          exact hne (Bytes32.ext heq.symm)
        · exact hfirst entry hentry

/-- `insert`: an entry with the same key is replaced. -/
def insert (self : DigestMap ν) (key : Bytes32) (value : ν) : DigestMap ν :=
  ⟨insertEntry key value self.entries, ascending_insertEntry key value self.ascending⟩

/-- The entries are those that a lookup finds. -/
theorem lookup_eq_some_iff (self : DigestMap ν) (key : Bytes32) (value : ν) :
    self.lookup key = some value ↔ (key, value) ∈ self.entries := by
  obtain ⟨entries, hascending⟩ := self
  unfold lookup
  induction entries with
  | nil => simp
  | cons first rest ih =>
    obtain ⟨hfirst, hrest⟩ := List.pairwise_cons.mp hascending
    by_cases heq : first.1 = key
    · rw [List.find?_cons_of_pos (by simpa using heq)]
      obtain ⟨firstKey, firstValue⟩ := first
      subst heq
      simp only [Option.map_some, Option.some.injEq, List.mem_cons, Prod.mk.injEq, true_and]
      constructor
      · intro h
        exact .inl h.symm
      · rintro (h | h)
        · exact h.symm
        · exact absurd (hfirst _ h) (List.lt_irrefl _)
    · rw [List.find?_cons_of_neg (by simpa using heq), ih hrest, List.mem_cons]
      constructor
      · exact .inr
      · rintro (h | h)
        · exact absurd (congrArg Prod.fst h).symm heq
        · exact h

theorem lookup_eq_none_iff (self : DigestMap ν) (key : Bytes32) :
    self.lookup key = none ↔ ∀ value, (key, value) ∉ self.entries := by
  rw [Option.eq_none_iff_forall_ne_some]
  simp only [ne_eq, lookup_eq_some_iff]

private theorem mem_insertEntry_of_absent {key : Bytes32} {value : ν}
    {entries : List (Bytes32 × ν)} (h : ∀ other, (key, other) ∉ entries) (entry : Bytes32 × ν) :
    entry ∈ insertEntry key value entries ↔ entry = (key, value) ∨ entry ∈ entries := by
  induction entries with
  | nil => simp [insertEntry]
  | cons first rest ih =>
    have hne : key ≠ first.1 := by
      intro heq
      exact h first.2 (heq ▸ List.mem_cons_self)
    have hrest : ∀ other, (key, other) ∉ rest :=
      fun other hmem ↦ h other (List.mem_cons_of_mem first hmem)
    unfold insertEntry
    split
    · simp [List.mem_cons]
    · rw [List.mem_cons, ih hrest, List.mem_cons]
      exact or_left_comm

/-- Inserting at a new key adds one entry. -/
theorem mem_insert_of_absent {self : DigestMap ν} {key : Bytes32} {value : ν}
    (h : self.lookup key = none) (entry : Bytes32 × ν) :
    entry ∈ (self.insert key value).entries ↔ entry = (key, value) ∨ entry ∈ self.entries :=
  mem_insertEntry_of_absent ((self.lookup_eq_none_iff key).mp h) entry

/-- What is found after an insertion at a new key. -/
theorem lookup_insert_of_absent {self : DigestMap ν} {key : Bytes32} {value : ν}
    (h : self.lookup key = none) (other : Bytes32) :
    (self.insert key value).lookup other =
      if other = key then some value else self.lookup other := by
  apply Option.ext
  intro found
  rw [lookup_eq_some_iff, mem_insert_of_absent h]
  by_cases heq : other = key
  · subst heq
    rw [if_pos rfl]
    constructor
    · rintro (hnew | hold)
      · exact congrArg some (congrArg Prod.snd hnew).symm
      · exact absurd hold ((self.lookup_eq_none_iff other).mp h found)
    · intro hfound
      cases hfound
      exact .inl rfl
  · rw [if_neg heq, lookup_eq_some_iff]
    constructor
    · rintro (hnew | hold)
      · exact absurd (congrArg Prod.fst hnew) heq
      · exact hold
    · exact .inr

-- An entry above all others goes to the end.
private theorem insertEntry_of_last {entries : List (Bytes32 × ν)} {key : Bytes32} {value : ν}
    (h : ∀ entry ∈ entries, entry.1.toBytes < key.toBytes) :
    insertEntry key value entries = entries ++ [(key, value)] := by
  induction entries with
  | nil => rfl
  | cons first rest ih =>
    have hlt := h first List.mem_cons_self
    have hne : key ≠ first.1 := by
      intro heq
      rw [heq] at hlt
      exact List.lt_irrefl _ hlt
    unfold insertEntry
    rw [if_neg (List.lt_asymm hlt), if_neg hne, List.cons_append]
    rw [ih fun entry hentry ↦ h entry (List.mem_cons_of_mem first hentry)]

/-- The map with every value changed. -/
def mapValues {μ : Type} (f : ν → μ) (self : DigestMap ν) : DigestMap μ where
  entries := self.entries.map fun entry ↦ (entry.1, f entry.2)
  ascending := by
    rw [Ascending, List.pairwise_map]
    exact self.ascending

/-- `insert(..).is_some()` is refused: entries are inserted one after the other into a map. -/
def insertAll (self : DigestMap ν) : List (Bytes32 × ν) → Option (DigestMap ν)
  | [] => some self
  | (key, value) :: rest =>
    match self.lookup key with
    | some _ => none
    | none => (self.insert key value).insertAll rest

private theorem insertAll_of_append (entries : List (Bytes32 × ν)) :
    ∀ (self : DigestMap ν) (h : Ascending (fun entry ↦ entry.1.toBytes) (self.entries ++ entries)),
      self.insertAll entries = some ⟨self.entries ++ entries, h⟩ := by
  induction entries with
  | nil =>
    intro self h
    simp only [insertAll, List.append_nil]
  | cons entry rest ih =>
    intro self h
    obtain ⟨key, value⟩ := entry
    have hbefore : ∀ other ∈ self.entries, other.1.toBytes < key.toBytes := by
      intro other hother
      exact (List.pairwise_append.mp h).2.2 other hother (key, value) List.mem_cons_self
    have habsent : self.lookup key = none := by
      rw [lookup_eq_none_iff]
      intro other hother
      exact List.lt_irrefl _ (hbefore _ hother)
    have hentries : (self.insert key value).entries = self.entries ++ [(key, value)] :=
      insertEntry_of_last hbefore
    have hascending : Ascending (fun entry ↦ entry.1.toBytes)
        ((self.insert key value).entries ++ rest) := by
      rw [hentries, List.append_assoc]
      exact h
    rw [insertAll, habsent]
    dsimp only
    rw [ih _ hascending]
    congr 2
    rw [hentries, List.append_assoc]
    rfl

/-- Inserting the entries of a map in order rebuilds it. -/
theorem insertAll_entries (self : DigestMap ν) : empty.insertAll self.entries = some self :=
  insertAll_of_append self.entries empty self.ascending

private theorem nodup_entries (self : DigestMap ν) : self.entries.Nodup := by
  apply List.Pairwise.imp _ self.ascending
  intro a b hlt heq
  rw [heq] at hlt
  exact List.lt_irrefl _ hlt

/-- Inserting at a new key adds its entry. -/
theorem perm_insert_of_absent {self : DigestMap ν} {key : Bytes32} {value : ν}
    (h : self.lookup key = none) :
    (self.insert key value).entries.Perm ((key, value) :: self.entries) := by
  have hnodup : ((key, value) :: self.entries).Nodup :=
    List.nodup_cons.mpr ⟨(self.lookup_eq_none_iff key).mp h value, self.nodup_entries⟩
  apply (List.perm_ext_iff_of_nodup (nodup_entries _) hnodup).mpr
  intro entry
  rw [mem_insert_of_absent h, List.mem_cons]

/-- A map to which entries were added holds them and what it held. -/
theorem insertAll_eq_some {self result : DigestMap ν} {entries : List (Bytes32 × ν)}
    (h : self.insertAll entries = some result) : result.entries.Perm (entries ++ self.entries) := by
  induction entries generalizing self with
  | nil =>
    cases h
    exact List.Perm.refl _
  | cons entry rest ih =>
    obtain ⟨key, value⟩ := entry
    cases hlookup : self.lookup key with
    | some old =>
      rw [insertAll, hlookup] at h
      cases h
    | none =>
      rw [insertAll, hlookup] at h
      exact (ih h).trans (((perm_insert_of_absent hlookup).append_left rest).trans
        List.perm_middle)

end DigestMap

end PrivateBallot.Base
