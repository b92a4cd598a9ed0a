import Mathlib.Algebra.Ring.Nat
import Mathlib.Data.List.AList

/-!
# Bounded caches with single flights

Library `Base`. A cache keeps the most recently used values, up to a capacity. A key that is
missing is computed by one caller, its owner, outside the cache: the owner's flight is registered
under the key, other callers for the key wait for its outcome, and the owner stores the value
before it settles the flight. Flights outlive their registration and are numbered in the order
they begin.
-/

namespace PrivateBallot.Base

/-- Entries, their keys in order of use (oldest first), the registered flights, and every flight
with the key it began for and, once it is settled, its outcome. -/
structure FlightCache (κ ν ο : Type) where
  entries : AList fun _ : κ ↦ ν
  recency : List κ
  inFlight : AList fun _ : κ ↦ Nat
  flights : List (κ × Option ο)

namespace FlightCache

variable {κ ν ο : Type}

/-- What a caller finds: the value, a flight to wait for, or a flight of its own. -/
inductive Found (ν : Type) where
  | hit (value : ν)
  | wait (flight : Nat)
  | own (flight : Nat)
deriving DecidableEq

/-- The empty cache. -/
def empty : FlightCache κ ν ο := ⟨∅, [], ∅, []⟩

/-- The key a flight began for. -/
def flightKey (self : FlightCache κ ν ο) (flight : Nat) : Option κ :=
  self.flights[flight]?.map Prod.fst

/-- The outcome of a flight, once it is settled. -/
def outcome (self : FlightCache κ ν ο) (flight : Nat) : Option ο :=
  self.flights[flight]?.bind Prod.snd

/-- Settles a flight. -/
def settle (self : FlightCache κ ν ο) (flight : Nat) (outcome : ο) : FlightCache κ ν ο :=
  { self with flights := self.flights.modify flight fun entry ↦ (entry.1, some outcome) }

variable [DecidableEq κ]

/-- The key becomes the most recently used one. -/
def touch (self : FlightCache κ ν ο) (key : κ) : FlightCache κ ν ο :=
  { self with recency := self.recency.filter (· != key) ++ [key] }

/-- Keeps the entries whose key satisfies `p`. -/
def retain (self : FlightCache κ ν ο) (p : κ → Bool) : FlightCache κ ν ο :=
  { self with
    entries := ⟨self.entries.entries.filter fun entry ↦ p entry.1,
      self.entries.nodupKeys.sublist List.filter_sublist⟩
    recency := self.recency.filter p }

/-- From the oldest key on, while there are more entries than the capacity. -/
def evict (capacity : Nat) : List κ → (AList fun _ : κ ↦ ν) → List κ × AList fun _ : κ ↦ ν
  | [], entries => ([], entries)
  | oldest :: recency, entries =>
    if capacity < entries.keys.length then evict capacity recency (entries.erase oldest)
    else (oldest :: recency, entries)

/-- Stores a value as the most recently used one and evicts what is over the capacity. -/
def insert (self : FlightCache κ ν ο) (capacity : Nat) (key : κ) (value : ν) :
    FlightCache κ ν ο :=
  let kept := evict capacity (self.recency.filter (· != key) ++ [key])
    (self.entries.insert key value)
  { self with recency := kept.1, entries := kept.2 }

/-- Begins a flight for the key and registers it. -/
def withFlight (self : FlightCache κ ν ο) (key : κ) : FlightCache κ ν ο :=
  { self with
    inFlight := self.inFlight.insert key self.flights.length
    flights := self.flights ++ [(key, none)] }

/-- Looks a missing key up among the registered flights; a new flight is begun and registered
where there is none. -/
def join (self : FlightCache κ ν ο) (key : κ) : Found ν × FlightCache κ ν ο :=
  match self.inFlight.lookup key with
  | some flight => (.wait flight, self)
  | none => (.own self.flights.length, self.withFlight key)

/-- Takes the flight registered for a key off the register. -/
def leave (self : FlightCache κ ν ο) (key : κ) : FlightCache κ ν ο :=
  { self with inFlight := self.inFlight.erase key }

/-! ### Soundness -/

/-- Keys in order of use are the stored keys, each once and no more than the capacity; stored
values and outcomes of flights are good for their keys, and a registered flight began for its
key. -/
structure IsSound (capacity : Nat) (Stored : κ → ν → Prop) (Settled : κ → ο → Prop)
    (cache : FlightCache κ ν ο) : Prop where
  recency_perm : cache.recency.Perm cache.entries.keys
  length_le : cache.entries.keys.length ≤ capacity
  stored : ∀ key value, cache.entries.lookup key = some value → Stored key value
  settled : ∀ (flight : Nat) key outcome, cache.flights[flight]? = some (key, some outcome) →
    Settled key outcome
  registered : ∀ key flight, cache.inFlight.lookup key = some flight →
    cache.flightKey flight = some key

variable {capacity : Nat} {Stored : κ → ν → Prop} {Settled : κ → ο → Prop}
  {self : FlightCache κ ν ο}

/-- The empty cache is sound. -/
theorem isSound_empty : (empty : FlightCache κ ν ο).IsSound capacity Stored Settled := by
  constructor
  · exact List.Perm.refl []
  · exact Nat.zero_le capacity
  · intro key value h
    cases h
  · intro flight key outcome h
    cases h
  · intro key flight h
    cases h

/-- Soundness for weaker notions of a good value. -/
theorem IsSound.mono {Stored' : κ → ν → Prop} {Settled' : κ → ο → Prop}
    (h : self.IsSound capacity Stored Settled)
    (hstored : ∀ key value, Stored key value → Stored' key value)
    (hsettled : ∀ key outcome, Settled key outcome → Settled' key outcome) :
    self.IsSound capacity Stored' Settled' := by
  refine ⟨h.recency_perm, h.length_le, ?_, ?_, h.registered⟩
  · intro key value hlookup
    exact hstored key value (h.stored key value hlookup)
  · intro flight key outcome hflight
    exact hsettled key outcome (h.settled flight key outcome hflight)

/-- Each stored key is in the queue once. -/
theorem IsSound.recency_nodup (h : self.IsSound capacity Stored Settled) : self.recency.Nodup :=
  h.recency_perm.nodup_iff.mpr self.entries.keys_nodup

/-- The queue lists the stored keys. -/
theorem IsSound.mem_recency (h : self.IsSound capacity Stored Settled) (key : κ) :
    key ∈ self.recency ↔ key ∈ self.entries :=
  h.recency_perm.mem_iff.trans AList.mem_keys.symm

private theorem requeue_perm {recency keys : List κ} (h : recency.Perm keys) (hkeys : keys.Nodup)
    (key : κ) : (recency.filter (· != key) ++ [key]).Perm (key :: keys.erase key) := by
  have hnodup : recency.Nodup := h.nodup_iff.mpr hkeys
  rw [← hnodup.erase_eq_filter]
  exact List.perm_append_comm.trans ((h.erase key).cons key)

/-- Using an entry keeps soundness. -/
theorem IsSound.touch (h : self.IsSound capacity Stored Settled) {key : κ}
    (hmem : key ∈ self.entries) : (self.touch key).IsSound capacity Stored Settled := by
  refine ⟨?_, h.length_le, h.stored, h.settled, h.registered⟩
  have hrequeue := requeue_perm h.recency_perm self.entries.keys_nodup key
  exact hrequeue.trans (List.perm_cons_erase (AList.mem_keys.mp hmem)).symm

omit [DecidableEq κ] in
private theorem keys_retain (self : FlightCache κ ν ο) (p : κ → Bool) :
    (self.retain p).entries.keys = self.entries.keys.filter p := by
  show (self.entries.entries.filter fun entry ↦ p entry.1).map Sigma.fst =
    (self.entries.entries.map Sigma.fst).filter p
  rw [List.filter_map]
  rfl

/-- Dropping entries keeps soundness. -/
theorem IsSound.retain (h : self.IsSound capacity Stored Settled) (p : κ → Bool) :
    (self.retain p).IsSound capacity Stored Settled := by
  refine ⟨?_, ?_, ?_, h.settled, h.registered⟩
  · rw [keys_retain]
    exact h.recency_perm.filter p
  · rw [keys_retain]
    exact Nat.le_trans (List.length_filter_le p _) h.length_le
  · intro key value hlookup
    apply h.stored
    rw [← Option.mem_def, AList.mem_lookup_iff] at hlookup ⊢
    exact List.mem_of_mem_filter hlookup

/-- Where no entry is dropped, the queue stays as it is. -/
theorem IsSound.recency_retain (h : self.IsSound capacity Stored Settled) {p : κ → Bool}
    (hlength : (self.retain p).entries.keys.length = self.entries.keys.length) :
    (self.retain p).recency = self.recency := by
  rw [keys_retain, List.length_filter_eq_length_iff] at hlength
  apply List.filter_eq_self.mpr
  intro key hkey
  exact hlength key (h.recency_perm.mem_iff.mp hkey)

-- By induction on the queue. Each round removes one key from queue and entries alike; with an
-- empty queue nothing is stored.
private theorem evict_spec (capacity : Nat) (recency : List κ) (entries : AList fun _ : κ ↦ ν)
    (hperm : recency.Perm entries.keys) :
    (evict capacity recency entries).1.Perm (evict capacity recency entries).2.keys ∧
      (evict capacity recency entries).2.keys.length ≤ capacity ∧
      ∀ key value, (evict capacity recency entries).2.lookup key = some value →
        entries.lookup key = some value := by
  induction recency generalizing entries with
  | nil =>
    have hkeys : entries.keys = [] := List.nil_perm.mp hperm
    refine ⟨hperm, ?_, fun key value h ↦ h⟩
    show entries.keys.length ≤ capacity
    rw [hkeys]
    exact Nat.zero_le capacity
  | cons oldest recency ih =>
    unfold evict
    split
    · have herase : recency.Perm (entries.erase oldest).keys := by
        have := hperm.erase oldest
        rwa [List.erase_cons_head, ← AList.keys_erase] at this
      obtain ⟨hperm', hlength, hlookup⟩ := ih (entries.erase oldest) herase
      refine ⟨hperm', hlength, ?_⟩
      intro key value h
      have herased := hlookup key value h
      by_cases hkey : key = oldest
      · rw [hkey, AList.lookup_erase] at herased
        cases herased
      · rwa [AList.lookup_erase_ne hkey] at herased
    · next hcapacity => exact ⟨hperm, Nat.not_lt.mp hcapacity, fun key value h ↦ h⟩

/-- Storing a good value keeps soundness, whatever is evicted for it. -/
theorem IsSound.insert (h : self.IsSound capacity Stored Settled) {key : κ} {value : ν}
    (hvalue : Stored key value) :
    (self.insert capacity key value).IsSound capacity Stored Settled := by
  have hperm : (self.recency.filter (· != key) ++ [key]).Perm
      (self.entries.insert key value).keys := by
    rw [AList.keys_insert]
    exact requeue_perm h.recency_perm self.entries.keys_nodup key
  obtain ⟨hperm', hlength, hlookup⟩ := evict_spec capacity _ _ hperm
  refine ⟨hperm', hlength, ?_, h.settled, h.registered⟩
  intro other stored hother
  have hinsert := hlookup other stored hother
  by_cases hkey : other = key
  · rw [hkey, AList.lookup_insert] at hinsert
    cases hinsert
    rw [hkey]
    exact hvalue
  · rw [AList.lookup_insert_ne hkey] at hinsert
    exact h.stored other stored hinsert

/-- A flight taken off the register leaves a sound cache. -/
theorem IsSound.leave (h : self.IsSound capacity Stored Settled) (key : κ) :
    (self.leave key).IsSound capacity Stored Settled := by
  refine ⟨h.recency_perm, h.length_le, h.stored, h.settled, ?_⟩
  intro other flight hlookup
  apply h.registered
  by_cases hkey : other = key
  · rw [hkey] at hlookup
    have hnone : (self.inFlight.erase key).lookup key = some flight := hlookup
    rw [AList.lookup_erase] at hnone
    cases hnone
  · exact (AList.lookup_erase_ne hkey).symm.trans hlookup

omit [DecidableEq κ] in
/-- Settling changes no flight's key. -/
@[simp] theorem flightKey_settle (self : FlightCache κ ν ο) (flight other : Nat) (outcome : ο) :
    (self.settle flight outcome).flightKey other = self.flightKey other := by
  simp only [flightKey, settle, List.getElem?_modify, Option.map_eq_map, Option.map_map]
  apply Option.map_congr
  intro entry hentry
  simp only [Function.comp_apply]
  split <;> rfl

/-- A good outcome of a flight keeps soundness. -/
theorem IsSound.settle (h : self.IsSound capacity Stored Settled) {flight : Nat} {key : κ}
    {outcome : ο} (hflight : self.flightKey flight = some key) (houtcome : Settled key outcome) :
    (self.settle flight outcome).IsSound capacity Stored Settled := by
  refine ⟨h.recency_perm, h.length_le, h.stored, ?_, ?_⟩
  · intro other otherKey otherOutcome hother
    simp only [FlightCache.settle, List.getElem?_modify, Option.map_eq_map,
      Option.map_eq_some_iff] at hother
    obtain ⟨entry, hentry, heq⟩ := hother
    split at heq
    · next hsame =>
      subst hsame
      cases heq
      rw [flightKey, hentry] at hflight
      cases hflight
      exact houtcome
    · cases heq
      exact h.settled other _ _ hentry
  · intro other otherFlight hlookup
    rw [flightKey_settle]
    exact h.registered other otherFlight hlookup

/-- A caller waits for the registered flight or owns a new one. -/
theorem join_cases (self : FlightCache κ ν ο) (key : κ) :
    (∃ flight, self.inFlight.lookup key = some flight ∧
      self.join key = (.wait flight, self)) ∨
    (self.inFlight.lookup key = none ∧
      self.join key = (.own self.flights.length, self.withFlight key)) := by
  unfold join
  cases hlookup : self.inFlight.lookup key with
  | none => exact Or.inr ⟨rfl, rfl⟩
  | some flight => exact Or.inl ⟨flight, rfl, rfl⟩

private theorem flightKey_withFlight {flight : Nat} {key other : κ}
    (h : self.flightKey flight = some other) :
    (self.withFlight key).flightKey flight = some other := by
  obtain ⟨entry, hentry, hkey⟩ := Option.map_eq_some_iff.mp h
  apply Option.map_eq_some_iff.mpr
  refine ⟨entry, ?_, hkey⟩
  show (self.flights ++ [(key, none)])[flight]? = some entry
  rw [List.getElem?_append_left (List.getElem?_eq_some_iff.mp hentry).1]
  exact hentry

private theorem flightKey_withFlight_length (self : FlightCache κ ν ο) (key : κ) :
    (self.withFlight key).flightKey self.flights.length = some key := by
  simp [flightKey, withFlight]

/-- Joining changes no flight's key. -/
theorem flightKey_join {flight : Nat} {key other : κ} (h : self.flightKey flight = some other) :
    (self.join key).2.flightKey flight = some other := by
  rcases self.join_cases key with ⟨joined, -, heq⟩ | ⟨-, heq⟩
  · rw [heq]
    exact h
  · rw [heq]
    exact flightKey_withFlight h

private theorem IsSound.withFlight (h : self.IsSound capacity Stored Settled) (key : κ) :
    (self.withFlight key).IsSound capacity Stored Settled := by
  refine ⟨h.recency_perm, h.length_le, h.stored, ?_, ?_⟩
  · intro flight other outcome hflight
    change (self.flights ++ [(key, none)])[flight]? = some (other, some outcome) at hflight
    rw [List.getElem?_append] at hflight
    split at hflight
    · exact h.settled flight other outcome hflight
    · have hlast := List.mem_of_getElem? hflight
      rw [List.mem_singleton] at hlast
      cases hlast
  · intro other flight hlookup
    change (self.inFlight.insert key self.flights.length).lookup other = some flight at hlookup
    by_cases hkey : other = key
    · rw [hkey, AList.lookup_insert] at hlookup
      cases hlookup
      rw [hkey]
      exact self.flightKey_withFlight_length key
    · rw [AList.lookup_insert_ne hkey] at hlookup
      exact flightKey_withFlight (h.registered other flight hlookup)

/-- Joining a flight keeps soundness. -/
theorem IsSound.join (h : self.IsSound capacity Stored Settled) (key : κ) :
    (self.join key).2.IsSound capacity Stored Settled := by
  rcases self.join_cases key with ⟨joined, -, heq⟩ | ⟨-, heq⟩
  · rw [heq]
    exact h
  · rw [heq]
    exact h.withFlight key

/-- What was found for a key is good for it: a stored value, or a flight that began for it. -/
def IsFound (Stored : κ → ν → Prop) (cache : FlightCache κ ν ο) (key : κ) : Found ν → Prop
  | .hit value => Stored key value
  | .wait flight => cache.flightKey flight = some key
  | .own flight => cache.flightKey flight = some key

omit [DecidableEq κ] in
/-- What was found is good under a weaker notion of a good value. -/
theorem IsFound.mono {Stored' : κ → ν → Prop} {key : κ} {found : Found ν}
    (h : IsFound Stored self key found)
    (hstored : ∀ key value, Stored key value → Stored' key value) :
    IsFound Stored' self key found := by
  cases found with
  | hit value => exact hstored key value h
  | wait flight => exact h
  | own flight => exact h

/-- What joining finds for a key is good for it. -/
theorem IsSound.isFound_join (h : self.IsSound capacity Stored Settled) (key : κ) :
    IsFound Stored (self.join key).2 key (self.join key).1 := by
  rcases self.join_cases key with ⟨joined, hlookup, heq⟩ | ⟨-, heq⟩
  · rw [heq]
    exact h.registered key joined hlookup
  · rw [heq]
    exact self.flightKey_withFlight_length key

/-- The outcome of a settled flight is good for the flight's key. -/
theorem IsSound.settled_of_outcome (h : self.IsSound capacity Stored Settled) {flight : Nat}
    {key : κ} {outcome : ο} (hkey : self.flightKey flight = some key)
    (houtcome : self.outcome flight = some outcome) : Settled key outcome := by
  obtain ⟨entry, hentry, hfst⟩ := Option.map_eq_some_iff.mp hkey
  rw [FlightCache.outcome, hentry, Option.bind_some] at houtcome
  apply h.settled flight key outcome
  rw [hentry, ← hfst, ← houtcome]

/-! ### Growth -/

/-- What the steps of callers leave as it is: their log so far, and the keys of flights. -/
def Grows {ε : Type} (before after : FlightCache κ ν ο × List ε) : Prop :=
  before.2 <+: after.2 ∧
    ∀ flight key, before.1.flightKey flight = some key → after.1.flightKey flight = some key

omit [DecidableEq κ] in
theorem Grows.refl {ε : Type} (world : FlightCache κ ν ο × List ε) : Grows world world :=
  ⟨List.prefix_refl _, fun _ _ h ↦ h⟩

omit [DecidableEq κ] in
theorem Grows.trans {ε : Type} {a b c : FlightCache κ ν ο × List ε} (hab : Grows a b)
    (hbc : Grows b c) : Grows a c :=
  ⟨hab.1.trans hbc.1, fun flight key h ↦ hbc.2 flight key (hab.2 flight key h)⟩

end FlightCache

end PrivateBallot.Base
