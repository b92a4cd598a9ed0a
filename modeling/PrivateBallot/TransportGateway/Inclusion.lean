import PrivateBallot.Base.MerkleTree
import PrivateBallot.Base.Search
import PrivateBallot.Protocol.Framing
import PrivateBallot.TransportGateway.Gateway

/-!
# Inclusion proofs of sealed batches

Library `TransportGateway`. `crates/transport-gateway/src/lib.rs:347-417`: the path from a package
digest to the root of a sealed batch. A batch holds its digests in strictly ascending order, so a
root determines them as long as no two of the inputs that were hashed collide.
-/

namespace PrivateBallot.TransportGateway

open PrivateBallot.Base PrivateBallot.Protocol

section

variable (provider : HashProvider)

/-- `BatchInclusionProofV1`; a sibling comes with whether it is on the left. -/
structure BatchInclusionProofV1 where
  packageDigest : Bytes32
  root : Bytes32
  siblings : List (Bytes32 × Bool)
deriving DecidableEq

/-- `BatchInclusionProofV1::verify` -/
def BatchInclusionProofV1.verify (self : BatchInclusionProofV1) : Bool :=
  let current := self.siblings.foldl (fun current step ↦
    if step.2 then batchNode provider step.1 current else batchNode provider current step.1)
    (batchLeaf provider self.packageDigest)
  decide (current = self.root)

private def siblingsFrom : Nat → List Bytes32 → Nat → List (Bytes32 × Bool)
  | 0, _, _ => []
  | fuel + 1, layer, cursor =>
    if 1 < layer.length then
      let siblingIndex := if cursor % 2 = 0 then min (cursor + 1) (layer.length - 1) else cursor - 1
      (layer.getD siblingIndex default, decide (siblingIndex < cursor)) ::
        siblingsFrom fuel (nextMerkleLayer provider layer) (cursor / 2)
    else []

-- Every round halves the layer, so as many rounds as there are leaves are enough.
/-- `SealedTransportBatchV1::inclusion_proof`; `crates/transport-gateway/src/lib.rs:393`. -/
def SealedTransportBatchV1.inclusionProof (self : SealedTransportBatchV1)
    (packageDigest : Bytes32) : Option BatchInclusionProofV1 :=
  match binarySearch Bytes32.toBytes packageDigest.toBytes self.digests with
  | none => none
  | some index =>
    let layer := self.digests.map (batchLeaf provider)
    some ⟨packageDigest, self.root, siblingsFrom provider layer.length layer index⟩

/-! ### The tree of a batch -/

theorem nextMerkleLayer_eq (layer : List Bytes32) :
    nextMerkleLayer provider layer = MerkleTree.nextLayer (batchNode provider) layer := by
  fun_induction nextMerkleLayer provider layer with
  | case1 left right rest ih =>
    rw [ih]
    rfl
  | case2 last => rfl
  | case3 => rfl

theorem merkleRoot_eq {fuel : Nat} {layer : List Bytes32} (hfuel : layer.length ≤ fuel) :
    merkleRoot provider layer = MerkleTree.rootFrom (batchNode provider) fuel layer := by
  induction fuel generalizing layer with
  | zero =>
    have hempty : layer = [] := List.length_eq_zero_iff.mp (Nat.le_zero.mp hfuel)
    subst hempty
    rfl
  | succ fuel ih =>
    rw [MerkleTree.rootFrom]
    by_cases hmany : 1 < layer.length
    · rw [if_pos hmany, merkleRoot_of_one_lt provider hmany, ← nextMerkleLayer_eq]
      apply ih
      rw [length_nextMerkleLayer]
      omega
    · rw [if_neg hmany, merkleRoot_of_le_one provider (Nat.le_of_not_lt hmany)]

-- The partner of a node of the layer is in the layer, so the default is never read.
private theorem siblingsFrom_eq {fuel : Nat} {layer : List Bytes32} {cursor : Nat}
    (hcursor : cursor < layer.length) :
    siblingsFrom provider fuel layer cursor =
      MerkleTree.siblingsFrom (batchNode provider) fuel layer cursor := by
  induction fuel generalizing layer cursor with
  | zero => rfl
  | succ fuel ih =>
    rw [siblingsFrom, MerkleTree.siblingsFrom]
    by_cases hmany : 1 < layer.length
    · have hnext : cursor / 2 < (nextMerkleLayer provider layer).length := by
        rw [length_nextMerkleLayer]
        omega
      obtain ⟨sibling, hsibling, -⟩ :=
        MerkleTree.getElem?_pairUp (List.getElem?_eq_getElem hcursor)
      have hget : layer.getD (MerkleTree.partner layer.length cursor) default = sibling := by
        rw [List.getD_eq_getElem?_getD, hsibling, Option.getD_some]
      rw [if_pos hmany, if_pos hmany, ih hnext, nextMerkleLayer_eq, hsibling, ← hget]
      rfl
    · rw [if_neg hmany, if_neg hmany]

/-- What a batch with these digests hashes: the frame of each leaf, and of each pair of nodes. -/
def batchInputs (digests : List Bytes32) : List Bytes :=
  let layer := digests.map (batchLeaf provider)
  digests.map (fun digest ↦ domainSeparatedInput .transportBatchLeafV1 digest.toBytes) ++
    (MerkleTree.pairsFrom (batchNode provider) layer.length layer).map fun pair ↦
      domainSeparatedInput .transportBatchNodeV1 (pair.1.toBytes ++ pair.2.toBytes)

/-- What the verification of a proof hashes. -/
def BatchInclusionProofV1.inputs (self : BatchInclusionProofV1) : List Bytes :=
  domainSeparatedInput .transportBatchLeafV1 self.packageDigest.toBytes ::
    (MerkleTree.pathPairs (batchNode provider) (batchLeaf provider self.packageDigest)
      self.siblings).map fun pair ↦
        domainSeparatedInput .transportBatchNodeV1 (pair.1.toBytes ++ pair.2.toBytes)

/-- Verification climbs the path. -/
theorem verify_iff {proof : BatchInclusionProofV1} :
    proof.verify provider = true ↔ MerkleTree.climb (batchNode provider)
      (batchLeaf provider proof.packageDigest) proof.siblings = proof.root := by
  have hstep : (fun (current : Bytes32) (step : Bytes32 × Bool) ↦
      if step.2 = true then batchNode provider step.1 current
      else batchNode provider current step.1) = MerkleTree.step (batchNode provider) := by
    funext current step
    unfold MerkleTree.step MerkleTree.sided
    split
    · rfl
    · rfl
  simp only [BatchInclusionProofV1.verify, hstep, MerkleTree.climb, decide_eq_true_eq]

end

section

variable {provider : HashProvider}

private theorem pair_eq {pair other : Bytes32 × Bytes32}
    (h : pair.1.toBytes ++ pair.2.toBytes = other.1.toBytes ++ other.2.toBytes) :
    pair = other := by
  obtain ⟨hleft, hright⟩ := List.append_inj h (by rw [pair.1.length_eq, other.1.length_eq])
  exact Prod.ext (Bytes32.ext hleft) (Bytes32.ext hright)

/-- A proof that verifies against the root of a batch is of one of its digests. -/
theorem mem_of_verify {digests : List Bytes32} {proof : BatchInclusionProofV1}
    (hfree : provider.CollisionFree (batchInputs provider digests ++ proof.inputs provider))
    (hroot : batchRoot provider digests = some proof.root)
    (hverify : proof.verify provider = true) : proof.packageDigest ∈ digests := by
  rw [batchRoot, merkleRoot_eq provider (Nat.le_refl _)] at hroot
  have hclimb := (verify_iff provider).mp hverify
  have hpair : ∀ pair ∈ MerkleTree.pairsFrom (batchNode provider)
      (digests.map (batchLeaf provider)).length (digests.map (batchLeaf provider)),
      domainSeparatedInput .transportBatchNodeV1 (pair.1.toBytes ++ pair.2.toBytes) ∈
        batchInputs provider digests ++ proof.inputs provider :=
    fun pair hmem ↦ List.mem_append_left _ (List.mem_append_right _ (List.mem_map_of_mem hmem))
  have hpath : ∀ pair ∈ MerkleTree.pathPairs (batchNode provider)
      (batchLeaf provider proof.packageDigest) proof.siblings,
      domainSeparatedInput .transportBatchNodeV1 (pair.1.toBytes ++ pair.2.toBytes) ∈
        batchInputs provider digests ++ proof.inputs provider :=
    fun pair hmem ↦ List.mem_append_right _ (List.mem_cons_of_mem _ (List.mem_map_of_mem hmem))
  have hleaf : ∀ digest ∈ digests,
      domainSeparatedInput .transportBatchLeafV1 digest.toBytes ∈
        batchInputs provider digests ++ proof.inputs provider :=
    fun digest hmem ↦ List.mem_append_left _ (List.mem_append_left _ (List.mem_map_of_mem hmem))
  have hown : domainSeparatedInput .transportBatchLeafV1 proof.packageDigest.toBytes ∈
      batchInputs provider digests ++ proof.inputs provider :=
    List.mem_append_right _ List.mem_cons_self
  -- The domains keep leaves and nodes apart; equal nodes are of equal pairs.
  have hmem : batchLeaf provider proof.packageDigest ∈ digests.map (batchLeaf provider) := by
    apply MerkleTree.mem_of_climb _ _ _ hroot hclimb
    · intro p hp q hq heq
      exact pair_eq (hfree.inj (hpair p hp) (hpath q hq) heq).2
    · intro p hp heq
      exact absurd (hfree.inj hown (hpair p hp) heq).1 (by decide)
    · intro l hl q hq heq
      obtain ⟨digest, hdigest, rfl⟩ := List.mem_map.mp hl
      exact absurd (hfree.inj (hleaf digest hdigest) (hpath q hq) heq).1 (by decide)
  obtain ⟨digest, hdigest, heq⟩ := List.mem_map.mp hmem
  have hsame := (hfree.inj (hleaf digest hdigest) hown heq).2
  rw [← Bytes32.ext hsame]
  exact hdigest

/-- The proof for a digest of the batch. -/
theorem inclusionProof_eq_some {batch : SealedTransportBatchV1} {packageDigest : Bytes32}
    {proof : BatchInclusionProofV1} (h : batch.inclusionProof provider packageDigest = some proof) :
    proof.packageDigest = packageDigest ∧ proof.root = batch.root ∧
      ∃ index, batch.digests[index]? = some packageDigest ∧
        proof.siblings = MerkleTree.siblingsFrom (batchNode provider)
          (batch.digests.map (batchLeaf provider)).length
          (batch.digests.map (batchLeaf provider)) index := by
  unfold SealedTransportBatchV1.inclusionProof at h
  cases hsearch : binarySearch Bytes32.toBytes packageDigest.toBytes batch.digests with
  | none =>
    rw [hsearch] at h
    cases h
  | some index =>
    rw [hsearch] at h
    cases h
    obtain ⟨digest, hdigest, hkey⟩ := key_of_binarySearch hsearch
    have hindex : index < (batch.digests.map (batchLeaf provider)).length := by
      rw [List.length_map]
      exact (List.getElem?_eq_some_iff.mp hdigest).1
    refine ⟨rfl, rfl, index, ?_, siblingsFrom_eq provider hindex⟩
    rw [hdigest, Bytes32.ext hkey]

/-- The proof for a digest of the batch verifies, and hashes nothing that the batch did not. -/
theorem verify_of_inclusionProof {batch : SealedTransportBatchV1} {packageDigest : Bytes32}
    {proof : BatchInclusionProofV1} (hroot : batchRoot provider batch.digests = some batch.root)
    (h : batch.inclusionProof provider packageDigest = some proof) :
    proof.verify provider = true ∧
      ∀ input ∈ proof.inputs provider, input ∈ batchInputs provider batch.digests := by
  obtain ⟨hdigest, hproofRoot, index, hindex, hsiblings⟩ := inclusionProof_eq_some h
  have hleaf : (batch.digests.map (batchLeaf provider))[index]? =
      some (batchLeaf provider packageDigest) := by
    rw [List.getElem?_map, hindex]
    rfl
  obtain ⟨hclimb, hpairs⟩ :=
    @MerkleTree.climb_siblingsFrom _ (batchNode provider) _ _ _ _ (Nat.le_refl _) hleaf
  rw [← merkleRoot_eq provider (Nat.le_refl _), ← batchRoot, hroot] at hclimb
  constructor
  · rw [verify_iff, hdigest, hsiblings, hproofRoot]
    exact (Option.some_inj.mp hclimb).symm
  · intro input hmem
    rcases List.mem_cons.mp hmem with rfl | hmem
    · rw [hdigest]
      exact List.mem_append_left _ (List.mem_map_of_mem (List.mem_of_getElem? hindex))
    · obtain ⟨pair, hpair, rfl⟩ := List.mem_map.mp hmem
      rw [hdigest, hsiblings] at hpair
      exact List.mem_append_right _ (List.mem_map_of_mem (hpairs pair hpair))

/-- There is a proof exactly for the digests of the batch. -/
theorem isSome_inclusionProof_iff {batch : SealedTransportBatchV1} {packageDigest : Bytes32}
    (hascending : AscendingDigests batch.digests) :
    (batch.inclusionProof provider packageDigest).isSome = true ↔
      packageDigest ∈ batch.digests := by
  constructor
  · intro h
    obtain ⟨proof, hproof⟩ := Option.isSome_iff_exists.mp h
    obtain ⟨-, -, index, hindex, -⟩ := inclusionProof_eq_some hproof
    exact List.mem_of_getElem? hindex
  · intro hmem
    obtain ⟨index, hsearch⟩ := exists_binarySearch hascending hmem
    rw [SealedTransportBatchV1.inclusionProof, hsearch]
    rfl

-- Every digest of the one batch has a proof that verifies against the root of the other.
private theorem subset_of_batchRoot {digests others : List Bytes32} {root : Bytes32}
    (hothers : AscendingDigests others)
    (hfree : provider.CollisionFree (batchInputs provider digests ++ batchInputs provider others))
    (hroot : batchRoot provider digests = some root)
    (hroot' : batchRoot provider others = some root) : ∀ d ∈ others, d ∈ digests := by
  intro d hd
  let batch : SealedTransportBatchV1 := ⟨0, root, 0, false, others⟩
  have hsome : (batch.inclusionProof provider d).isSome = true :=
    (isSome_inclusionProof_iff hothers).mpr hd
  obtain ⟨proof, hproof⟩ := Option.isSome_iff_exists.mp hsome
  obtain ⟨hdigest, hproofRoot, -⟩ := inclusionProof_eq_some hproof
  obtain ⟨hverify, hinputs⟩ := verify_of_inclusionProof hroot' hproof
  rw [← hdigest]
  apply mem_of_verify _ (by rw [hroot, hproofRoot]) hverify
  apply hfree.mono
  intro input hinput
  rcases List.mem_append.mp hinput with hinput | hinput
  · exact List.mem_append_left _ hinput
  · exact List.mem_append_right _ (hinputs input hinput)

/-- Batch proofs are complete and sound. A non-empty batch has a root; there is a proof exactly for
its digests, and that proof verifies. Where no two of the inputs that were hashed collide, whatever
verifies against the root is the proof of a digest of the batch, and no other strictly ascending
digests have that root. -/
theorem inclusionProof_complete_sound (provider : HashProvider) (digests : List Bytes32)
    (hnonempty : digests ≠ []) (hascending : AscendingDigests digests) :
    ∃ root, merkleRoot provider (digests.map (batchLeaf provider)) = some root ∧
      (∀ batch : SealedTransportBatchV1, batch.digests = digests → batch.root = root →
        ∀ d, ((batch.inclusionProof provider d).isSome = true ↔ d ∈ digests) ∧
          ∀ proof, batch.inclusionProof provider d = some proof →
            proof.packageDigest = d ∧ proof.root = root ∧ proof.verify provider = true) ∧
      (∀ proof : BatchInclusionProofV1, proof.root = root → proof.verify provider = true →
        provider.CollisionFree (batchInputs provider digests ++ proof.inputs provider) →
        proof.packageDigest ∈ digests) ∧
      (∀ others, AscendingDigests others → others ≠ digests →
        provider.CollisionFree (batchInputs provider digests ++ batchInputs provider others) →
        merkleRoot provider (others.map (batchLeaf provider)) ≠ some root) := by
  have hleaves : digests.map (batchLeaf provider) ≠ [] := by
    rw [ne_eq, List.map_eq_nil_iff]
    exact hnonempty
  obtain ⟨root, hroot⟩ := exists_merkleRoot provider hleaves
  refine ⟨root, hroot, ?_, ?_, ?_⟩
  · rintro batch rfl rfl d
    refine ⟨isSome_inclusionProof_iff hascending, ?_⟩
    intro proof hproof
    obtain ⟨hdigest, hproofRoot, -⟩ := inclusionProof_eq_some hproof
    exact ⟨hdigest, hproofRoot, (verify_of_inclusionProof hroot hproof).1⟩
  · rintro proof rfl hverify hfree
    exact mem_of_verify hfree hroot hverify
  · intro others hothers hne hfree hroot'
    apply hne
    apply hothers.ext hascending
    intro d
    have hswap : provider.CollisionFree
        (batchInputs provider others ++ batchInputs provider digests) := by
      apply hfree.mono
      intro input hinput
      exact List.mem_append.mpr (List.mem_append.mp hinput).symm
    exact ⟨subset_of_batchRoot hothers hfree hroot hroot' d,
      subset_of_batchRoot hascending hswap hroot' hroot d⟩

end

namespace Sample

/-- Three digests, so that the second layer has a node without a partner. -/
def threeDigests : List Bytes32 := [.replicate 1, .replicate 2, .replicate 3]

/-- The batch of these digests. -/
def oddBatch : SealedTransportBatchV1 :=
  ⟨0, (batchRoot Verifier.Sample.provider threeDigests).getD default, 3, false, threeDigests⟩

/-- The proof for its last digest. -/
def oddProof : BatchInclusionProofV1 :=
  (oddBatch.inclusionProof Verifier.Sample.provider (.replicate 3)).getD ⟨default, default, []⟩

end Sample

/-- In the sample batch the last digest has a proof, which verifies and is of a digest of the
batch, and the first two digests alone have another root. -/
theorem inclusionProof_complete_sound_sample :
    (Sample.oddBatch.inclusionProof Verifier.Sample.provider (.replicate 3)).isSome = true ∧
      Sample.oddProof.verify Verifier.Sample.provider = true ∧
      Sample.oddProof.packageDigest ∈ Sample.threeDigests ∧
      merkleRoot Verifier.Sample.provider
        ((Sample.threeDigests.take 2).map (batchLeaf Verifier.Sample.provider)) ≠
          some Sample.oddBatch.root := by
  have hascending : AscendingDigests Sample.threeDigests := by
    unfold AscendingDigests Ascending
    decide
  have hproof : Sample.oddBatch.inclusionProof Verifier.Sample.provider (.replicate 3) =
      some Sample.oddProof := by decide +kernel
  have hfree : Verifier.Sample.provider.CollisionFree
      (batchInputs Verifier.Sample.provider Sample.threeDigests ++
        Sample.oddProof.inputs Verifier.Sample.provider) := by decide +kernel
  have hfree' : Verifier.Sample.provider.CollisionFree
      (batchInputs Verifier.Sample.provider Sample.threeDigests ++
        batchInputs Verifier.Sample.provider (Sample.threeDigests.take 2)) := by decide +kernel
  obtain ⟨root, hroot, hcomplete, hsound, hunique⟩ :=
    inclusionProof_complete_sound Verifier.Sample.provider Sample.threeDigests (by decide)
      hascending
  have hsame : Sample.oddBatch.root = root := by
    rw [Sample.oddBatch, batchRoot, hroot]
    rfl
  have hlast : Bytes32.replicate 3 ∈ Sample.threeDigests := by decide
  obtain ⟨hsome, hverifies⟩ := hcomplete Sample.oddBatch rfl hsame (.replicate 3)
  obtain ⟨-, hproofRoot, hverify⟩ := hverifies _ hproof
  refine ⟨hsome.mpr hlast, hverify, hsound _ hproofRoot hverify hfree, ?_⟩
  rw [hsame]
  exact hunique _ (hascending.sublist (List.take_sublist 2 _)) (by decide) hfree'

end PrivateBallot.TransportGateway
