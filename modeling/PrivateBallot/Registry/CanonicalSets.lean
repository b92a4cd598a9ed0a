import PrivateBallot.Ballot.Candidate
import PrivateBallot.Registry.Snapshot

/-!
# Sets with one spelling

Library `Registry`. The candidate set and the electorate registry are sets that the source keeps
as sorted lists: what is built from a list does not depend on its order, and each set has one
encoding.
-/

namespace PrivateBallot.Registry

open PrivateBallot.Base
open PrivateBallot.Ballot
open PrivateBallot.Protocol

/-- A set that is built from a list of items and encoded, in one way only. -/
structure IsCanonicalSet {Item Set Digest : Type} (key : Item → Bytes) (members : Set → List Item)
    (new : List Item → Result Set) (toCanonicalCbor : Set → Result Bytes)
    (fromCanonicalCbor : Bytes → Result Set) (canonicalCommitment : Set → Result Digest) :
    Prop where
  /-- The order of the items does not matter, for the set and for the error. -/
  value : ∀ xs ys, xs.Perm ys → new xs = new ys
  bytes : ∀ xs ys, xs.Perm ys → (new xs).bind toCanonicalCbor = (new ys).bind toCanonicalCbor
  commitment : ∀ xs ys, xs.Perm ys →
    (new xs).bind canonicalCommitment = (new ys).bind canonicalCommitment
  /-- The members are the items, in strictly ascending order. -/
  members : ∀ xs set, new xs = .ok set → (members set).Perm xs ∧ Ascending key (members set)
  /-- Every set can be encoded and is decoded to itself. -/
  encoded : ∀ set, ∃ encoded, toCanonicalCbor set = .ok encoded ∧
    fromCanonicalCbor encoded = .ok set
  /-- Accepted bytes are the encoding of their set. -/
  decoded : ∀ encoded set, fromCanonicalCbor encoded = .ok set → toCanonicalCbor set = .ok encoded

theorem isCanonicalSet_candidateSet (provider : HashProvider) :
    IsCanonicalSet CandidateDefinition.key CandidateSet.candidates CandidateSet.new
      CandidateSet.toCanonicalCbor CandidateSet.fromCanonicalCbor
      (·.canonicalCommitment provider) where
  value _ _ h := CandidateSet.new_congr h
  bytes _ _ h := by rw [CandidateSet.new_congr h]
  commitment _ _ h := by rw [CandidateSet.new_congr h]
  members xs set h := by
    refine ⟨?_, set.ascending⟩
    rw [CandidateSet.candidates_of_new h]
    exact perm_sortBytes _ xs
  encoded set := by
    have hencoded := set.toCanonicalCbor_eq
    exact ⟨_, hencoded, CandidateSet.fromCanonicalCbor_toCanonicalCbor hencoded⟩
  decoded _ _ h := CandidateSet.toCanonicalCbor_of_fromCanonicalCbor h

theorem isCanonicalSet_registrySnapshot (provider : HashProvider) :
    IsCanonicalSet RegistryEntry.key RegistrySnapshot.entries RegistrySnapshot.new
      RegistrySnapshot.toCanonicalCbor RegistrySnapshot.fromCanonicalCbor
      (·.canonicalCommitment provider) where
  value _ _ h := RegistrySnapshot.new_congr h
  bytes _ _ h := by rw [RegistrySnapshot.new_congr h]
  commitment _ _ h := by rw [RegistrySnapshot.new_congr h]
  members xs set h := by
    refine ⟨?_, set.ascending⟩
    rw [RegistrySnapshot.entries_of_new h]
    exact perm_sortBytes _ xs
  encoded set := by
    have hencoded := set.toCanonicalCbor_eq
    exact ⟨_, hencoded, RegistrySnapshot.fromCanonicalCbor_toCanonicalCbor hencoded⟩
  decoded _ _ h := RegistrySnapshot.toCanonicalCbor_of_fromCanonicalCbor h

/-- Candidate sets and registries are canonical, and the binary search for a candidate finds
exactly the members. -/
theorem canonicalSets (provider : HashProvider) :
    IsCanonicalSet CandidateDefinition.key CandidateSet.candidates CandidateSet.new
        CandidateSet.toCanonicalCbor CandidateSet.fromCanonicalCbor
        (·.canonicalCommitment provider) ∧
      IsCanonicalSet RegistryEntry.key RegistrySnapshot.entries RegistrySnapshot.new
        RegistrySnapshot.toCanonicalCbor RegistrySnapshot.fromCanonicalCbor
        (·.canonicalCommitment provider) ∧
      ∀ (candidates : CandidateSet) (id : CandidateId),
        candidates.contains id = true ↔ id ∈ candidates.candidates.map (·.id) := by
  refine ⟨isCanonicalSet_candidateSet provider, isCanonicalSet_registrySnapshot provider, ?_⟩
  intro candidates id
  rw [CandidateSet.contains_iff, List.mem_map]

end PrivateBallot.Registry
