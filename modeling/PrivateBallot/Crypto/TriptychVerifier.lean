import PrivateBallot.Crypto.Triptych

/-!
# Triptych verifier, one proof at a time and in batches

Library `Crypto`. `crates/crypto/src/triptych_verifier.rs`. The batch path shares one election
context between neighbouring inputs, verifies all prepared proofs together and falls back to
full blame; `verifyBatchV1_eq_map_verify` says that inputs of one election get exactly the
results they would get alone.
-/

namespace PrivateBallot.Crypto

open PrivateBallot.Base
open PrivateBallot.Protocol

def tariTriptychProofSuiteIdV1 : Text := .lit "TARI_TRIPTYCH_PROTOTYPE_V1"
def tariTriptychTranscriptLabelV1 : Text := .lit "tari-cc-private-ballot-triptych-v1"
def proofStatementTranscriptLabelV1 : Text := .lit "proof_statement_v1"

/-- `TariTriptychPrototypeVerifierV1` -/
structure TariTriptychPrototypeVerifierV1 where
  registryCommitment : RegistryCommitment
  registryKeys : List Bytes32
deriving DecidableEq

/-- `ElectionContextKey`: what a shared context depends on besides the registry. -/
structure ElectionContextKey where
  protocolVersion : Nat
  proofSuiteId : Text
  electionScope : Bytes
deriving DecidableEq

/-- The context key of a statement. -/
def ElectionContextKey.ofStatement (statement : ProofStatementV1) : ElectionContextKey :=
  ⟨statement.protocolVersion, statement.proofSuiteId, statement.electionScope.toBytes⟩

/-- `PreparedBatchItem` -/
structure PreparedBatchItem (crate : TriptychCrate) where
  inputIndex : Nat
  proofStatement : ProofStatementV1
  triptychStatement : crate.Statement
  proof : crate.Proof
  transcript : crate.Transcript
  linkingTag : Bytes32

private def internalBatchError : ProtocolError :=
  ⟨.invalidData, "Triptych batch verification did not produce a result for an input"⟩

section

variable (crate : TriptychCrate)

/-- `triptych_transcript_v1` -/
def triptychTranscriptV1 (statement : ProofStatementV1) : Result crate.Transcript := do
  let statementBytes ← statement.transcriptBytes
  pure (crate.newTranscript tariTriptychTranscriptLabelV1 proofStatementTranscriptLabelV1
    statementBytes)

/-- A cached election context with its key. -/
abbrev ContextCache := Option (ElectionContextKey × TriptychElectionContextV1 crate)

namespace TariTriptychPrototypeVerifierV1

/-- `TariTriptychPrototypeVerifierV1::new` -/
def new (registryCommitment : RegistryCommitment) (registryKeys : List Bytes32) :
    Result TariTriptychPrototypeVerifierV1 := do
  validateTriptychRegistryKeysV1 crate registryKeys
  pure ⟨registryCommitment, registryKeys⟩

/-- The suite and registry checks both paths start with. -/
def checkStatement (self : TariTriptychPrototypeVerifierV1) (statement : ProofStatementV1) :
    Result Unit := do
  refuseIf (decide (statement.proofSuiteId ≠ tariTriptychProofSuiteIdV1)) .invalidData
    "Triptych prototype verifier received a different proof suite"
  refuseIf (decide (statement.registryCommitment ≠ self.registryCommitment)) .invalidData
    "Triptych verifier registry commitment does not match the proof statement"

/-- `verify`; `crates/crypto/src/triptych_verifier.rs:84`. -/
def verify (self : TariTriptychPrototypeVerifierV1) (statement : ProofStatementV1)
    (proofBytes : Bytes) : Result VerifiedProofV1 := do
  self.checkStatement statement
  let envelope ← TariTriptychProofEnvelopeV1.fromBytes crate proofBytes
  let triptychStatement ← buildTriptychStatementV1 crate statement.protocolVersion
    statement.proofSuiteId statement.electionScope.toBytes self.registryKeys envelope.linkingTag
  let proof ← parseCanonicalTriptychProofV1 crate envelope.triptychProof
  let transcript ← triptychTranscriptV1 crate statement
  refuseIf (!crate.verify triptychStatement proof transcript) .malformedProof
    "Triptych proof verification failed"
  let nullifier ← VerifiedNullifier.new envelope.linkingTag.toBytes
  pure ⟨statement, nullifier⟩

/-- The context for a statement: the cached one if its key matches, else a new one that
replaces it. -/
def contextFor (self : TariTriptychPrototypeVerifierV1) (statement : ProofStatementV1)
    (context : ContextCache crate) :
    Result (TriptychElectionContextV1 crate) × ContextCache crate :=
  let key := ElectionContextKey.ofStatement statement
  let build := buildTriptychElectionContextV1 crate statement.protocolVersion
    statement.proofSuiteId statement.electionScope.toBytes self.registryKeys
  match context with
  | some (existing, cached) =>
    if existing = key then (.ok cached, context)
    else match build with
      | .ok built => (.ok built, some (key, built))
      | .error e => (.error e, context)
  | none => match build with
    | .ok built => (.ok built, some (key, built))
    | .error e => (.error e, context)

/-- `prepare_batch_item`, with the cache it leaves; `crates/crypto/src/triptych_verifier.rs`. -/
def prepareBatchItem (self : TariTriptychPrototypeVerifierV1) (statement : ProofStatementV1)
    (proofBytes : Bytes) (context : ContextCache crate) :
    Result (PreparedBatchItem crate) × ContextCache crate :=
  match self.checkStatement statement with
  | .error e => (.error e, context)
  | .ok () => match TariTriptychProofEnvelopeV1.fromBytes crate proofBytes with
    | .error e => (.error e, context)
    | .ok envelope =>
      let (electionContext, context) := self.contextFor crate statement context
      (do
        let electionContext ← electionContext
        let triptychStatement ← finishTriptychStatementV1 crate electionContext
          envelope.linkingTag
        let proof ← parseCanonicalTriptychProofV1 crate envelope.triptychProof
        let transcript ← triptychTranscriptV1 crate statement
        pure ⟨0, statement, triptychStatement, proof, transcript, envelope.linkingTag⟩,
       context)

/-- `blame_prepared_batch` -/
def blamePreparedBatch (prepared : List (PreparedBatchItem crate)) : List Bool :=
  match crate.verifyBatchWithFullBlame (prepared.map (·.triptychStatement))
      (prepared.map (·.proof)) (prepared.map (·.transcript)) with
  | .ok () => List.replicate prepared.length true
  | .error (.indexes indexes) =>
    indexes.foldl (fun flags index ↦ flags.set index false)
      (List.replicate prepared.length true)
  | .error .other => List.replicate prepared.length false

/-- The validity flags of a prepared batch: together, or by full blame. -/
def validFlags (prepared : List (PreparedBatchItem crate)) : List Bool :=
  if crate.verifyBatch (prepared.map (·.triptychStatement)) (prepared.map (·.proof))
      (prepared.map (·.transcript)) then
    List.replicate prepared.length true
  else blamePreparedBatch crate prepared

/-- The result stored for a prepared item, given its flag. -/
def resultOf (item : PreparedBatchItem crate) (valid : Bool) : Result VerifiedProofV1 :=
  if valid then
    match VerifiedNullifier.new item.linkingTag.toBytes with
    | .ok nullifier => .ok ⟨item.proofStatement, nullifier⟩
    | .error e => .error e
  else fail .malformedProof "Triptych proof verification failed"

/-- `run_prepared_batch`: one result per prepared item, at the item's input index. -/
def runPreparedBatch (prepared : List (PreparedBatchItem crate))
    (results : List (Option (Result VerifiedProofV1))) :
    List (Option (Result VerifiedProofV1)) :=
  if prepared.isEmpty then results
  else (prepared.zip (validFlags crate prepared)).foldl
    (fun results (item, valid) ↦ results.set item.inputIndex (some (resultOf crate item valid)))
    results

/-- The vectors the preparation loop of `verify_batch_v1` fills. -/
structure BatchState where
  results : List (Option (Result VerifiedProofV1))
  prepared : List (PreparedBatchItem crate)
  context : ContextCache crate

/-- One round of the preparation loop. -/
def prepareStep (self : TariTriptychPrototypeVerifierV1) (state : BatchState crate)
    (index : Nat) (input : ProofBatchInputV1) : BatchState crate :=
  match self.prepareBatchItem crate input.statement input.proofBytes state.context with
  | (.ok item, context) =>
    ⟨state.results, state.prepared ++
      [{ item with inputIndex := index, proofStatement := input.statement }], context⟩
  | (.error e, context) => ⟨state.results.set index (some (.error e)), state.prepared, context⟩

/-- `for (index, input) in inputs.iter().enumerate()`, from `index` on. -/
def prepareLoop (self : TariTriptychPrototypeVerifierV1) :
    List ProofBatchInputV1 → Nat → BatchState crate → BatchState crate
  | [], _, state => state
  | input :: rest, index, state =>
    prepareLoop self rest (index + 1) (self.prepareStep crate state index input)

/-- `verify_batch_v1`; `crates/crypto/src/triptych_verifier.rs`. -/
def verifyBatchV1 (self : TariTriptychPrototypeVerifierV1) (inputs : List ProofBatchInputV1) :
    List (Result VerifiedProofV1) :=
  let state := self.prepareLoop crate inputs 0 ⟨List.replicate inputs.length none, [], none⟩
  (runPreparedBatch crate state.prepared state.results).map fun result ↦
    result.getD (.error internalBatchError)

/-- The trait implementation. -/
def toProofVerifier (self : TariTriptychPrototypeVerifierV1) : ProofVerifierV1 where
  proofSuiteId := tariTriptychProofSuiteIdV1
  verify := self.verify crate
  verifyBatchV1 := self.verifyBatchV1 crate

/-! ### Batch results are the individual results -/

private def buildFor (self : TariTriptychPrototypeVerifierV1) (key : ElectionContextKey) :
    Result (TriptychElectionContextV1 crate) :=
  buildTriptychElectionContextV1 crate key.protocolVersion key.proofSuiteId key.electionScope
    self.registryKeys

-- A cached context is the one its key builds.
private def CacheOk (self : TariTriptychPrototypeVerifierV1) (context : ContextCache crate) :
    Prop :=
  ∀ entry, context = some entry → self.buildFor crate entry.1 = .ok entry.2

private theorem contextFor_of_cacheOk (self : TariTriptychPrototypeVerifierV1)
    (statement : ProofStatementV1) (context : ContextCache crate)
    (hcache : self.CacheOk crate context) :
    (self.contextFor crate statement context).1 =
        self.buildFor crate (ElectionContextKey.ofStatement statement) ∧
      self.CacheOk crate (self.contextFor crate statement context).2 := by
  have hbuild : self.buildFor crate (ElectionContextKey.ofStatement statement) =
      buildTriptychElectionContextV1 crate statement.protocolVersion statement.proofSuiteId
        statement.electionScope.toBytes self.registryKeys := rfl
  have hfresh : ∀ built, self.buildFor crate (ElectionContextKey.ofStatement statement) =
      .ok built → self.CacheOk crate (some (ElectionContextKey.ofStatement statement, built)) := by
    intro built hbuilt entry hentry
    cases hentry
    exact hbuilt
  unfold contextFor
  rw [← hbuild]
  cases context with
  | none =>
    cases hb : self.buildFor crate (ElectionContextKey.ofStatement statement) with
    | ok built => exact ⟨rfl, hfresh built hb⟩
    | error e => exact ⟨rfl, hcache⟩
  | some entry =>
    obtain ⟨existing, cached⟩ := entry
    by_cases hkey : existing = ElectionContextKey.ofStatement statement
    · subst hkey
      simp only [if_true]
      exact ⟨(hcache _ rfl).symm, hcache⟩
    · simp only [hkey, if_false]
      cases hb : self.buildFor crate (ElectionContextKey.ofStatement statement) with
      | ok built => exact ⟨rfl, hfresh built hb⟩
      | error e => exact ⟨rfl, hcache⟩

/-- Preparation of one input by itself, with no cached context. -/
def prepareItem (self : TariTriptychPrototypeVerifierV1) (input : ProofBatchInputV1) :
    Result (PreparedBatchItem crate) :=
  (self.prepareBatchItem crate input.statement input.proofBytes none).1

private theorem cacheOk_none (self : TariTriptychPrototypeVerifierV1) :
    self.CacheOk crate none := fun _ h ↦ by cases h

private theorem prepareBatchItem_of_cacheOk (self : TariTriptychPrototypeVerifierV1)
    (input : ProofBatchInputV1) (context : ContextCache crate)
    (hcache : self.CacheOk crate context) :
    (self.prepareBatchItem crate input.statement input.proofBytes context).1 =
        self.prepareItem crate input ∧
      self.CacheOk crate
        (self.prepareBatchItem crate input.statement input.proofBytes context).2 := by
  unfold prepareItem prepareBatchItem
  cases self.checkStatement input.statement with
  | error e => exact ⟨rfl, hcache⟩
  | ok u =>
    cases TariTriptychProofEnvelopeV1.fromBytes crate input.proofBytes with
    | error e => exact ⟨rfl, hcache⟩
    | ok envelope =>
      have hc := self.contextFor_of_cacheOk crate input.statement context hcache
      have hn := self.contextFor_of_cacheOk crate input.statement none (self.cacheOk_none crate)
      refine ⟨?_, hc.2⟩
      simp only [hc.1, hn.1]

private theorem proofStatement_of_prepareItem (self : TariTriptychPrototypeVerifierV1)
    (input : ProofBatchInputV1) (item : PreparedBatchItem crate)
    (h : self.prepareItem crate input = .ok item) : item.proofStatement = input.statement := by
  unfold prepareItem prepareBatchItem at h
  cases hs : self.checkStatement input.statement with
  | error e => simp [hs] at h
  | ok u =>
    cases he : TariTriptychProofEnvelopeV1.fromBytes crate input.proofBytes with
    | error e => simp [hs, he] at h
    | ok envelope =>
      simp only [hs, he, bind_eq_ok, pure, Except.pure, Except.ok.injEq] at h
      obtain ⟨_, _, _, _, _, _, _, _, rfl⟩ := h
      rfl

/-- Verifying alone is preparing alone and then asking the crate about that one proof. -/
theorem verify_eq_prepareItem (self : TariTriptychPrototypeVerifierV1)
    (input : ProofBatchInputV1) :
    self.verify crate input.statement input.proofBytes =
      match self.prepareItem crate input with
      | .ok item =>
        resultOf crate item (crate.verify item.triptychStatement item.proof item.transcript)
      | .error e => .error e := by
  unfold verify prepareItem prepareBatchItem
  cases self.checkStatement input.statement with
  | error e => rfl
  | ok u =>
    cases TariTriptychProofEnvelopeV1.fromBytes crate input.proofBytes with
    | error e => rfl
    | ok envelope =>
      have hn := self.contextFor_of_cacheOk crate input.statement none (self.cacheOk_none crate)
      simp only [hn.1]
      simp only [bind, Except.bind, pure, Except.pure, buildTriptychStatementV1]
      have hb : buildTriptychElectionContextV1 crate input.statement.protocolVersion
          input.statement.proofSuiteId input.statement.electionScope.toBytes self.registryKeys =
          self.buildFor crate (ElectionContextKey.ofStatement input.statement) := rfl
      rw [hb]
      cases self.buildFor crate (ElectionContextKey.ofStatement input.statement) with
      | error e => rfl
      | ok context =>
        dsimp only
        cases finishTriptychStatementV1 crate context envelope.linkingTag with
        | error e => rfl
        | ok triptychStatement =>
          dsimp only
          cases parseCanonicalTriptychProofV1 crate envelope.triptychProof with
          | error e => rfl
          | ok proof =>
            dsimp only
            cases triptychTranscriptV1 crate input.statement with
            | error e => rfl
            | ok transcript =>
              dsimp only
              cases crate.verify triptychStatement proof transcript with
              | false => simp [refuseIf, resultOf, fail]
              | true =>
                simp only [refuseIf, resultOf, Bool.not_true, if_true]
                cases VerifiedNullifier.new envelope.linkingTag.toBytes <;> rfl

private def preparedFrom (self : TariTriptychPrototypeVerifierV1) :
    List ProofBatchInputV1 → Nat → List (PreparedBatchItem crate)
  | [], _ => []
  | input :: rest, index =>
    match self.prepareItem crate input with
    | .ok item => { item with inputIndex := index, proofStatement := input.statement } ::
        preparedFrom self rest (index + 1)
    | .error _ => preparedFrom self rest (index + 1)

private def slotsOf (self : TariTriptychPrototypeVerifierV1)
    (inputs : List ProofBatchInputV1) : List (Option (Result VerifiedProofV1)) :=
  inputs.map fun input ↦ match self.prepareItem crate input with
    | .ok _ => none
    | .error e => some (.error e)

private theorem set_length_append {α : Type} (done rest : List α) (x y : α) :
    (done ++ x :: rest).set done.length y = done ++ y :: rest := by
  simp

-- The loop has filled the first `index` slots; `done` are those slots.
private theorem prepareLoop_eq (self : TariTriptychPrototypeVerifierV1)
    (inputs : List ProofBatchInputV1) (index : Nat)
    (done : List (Option (Result VerifiedProofV1))) (hdone : done.length = index)
    (prepared : List (PreparedBatchItem crate)) (context : ContextCache crate)
    (hcache : self.CacheOk crate context) :
    ∃ context', self.prepareLoop crate inputs index
        ⟨done ++ List.replicate inputs.length none, prepared, context⟩ =
      ⟨done ++ self.slotsOf crate inputs, prepared ++ self.preparedFrom crate inputs index,
        context'⟩ := by
  induction inputs generalizing index done prepared context with
  | nil => exact ⟨context, by simp [prepareLoop, slotsOf, preparedFrom]⟩
  | cons input rest ih =>
    obtain ⟨hitem, hcache'⟩ := self.prepareBatchItem_of_cacheOk crate input context hcache
    cases hresult : self.prepareBatchItem crate input.statement input.proofBytes context with
    | mk result context' =>
      rw [hresult] at hitem hcache'
      cases result with
      | ok item =>
        obtain ⟨last, hlast⟩ := ih (index + 1) (done ++ [none]) (by simp [hdone])
          (prepared ++ [{ item with inputIndex := index, proofStatement := input.statement }])
          context' hcache'
        refine ⟨last, ?_⟩
        simp only [List.append_assoc, List.singleton_append] at hlast
        simp only [prepareLoop, prepareStep, hresult, List.length_cons, List.replicate_succ,
          hlast, slotsOf, List.map_cons, ← hitem, preparedFrom]
      | error e =>
        obtain ⟨last, hlast⟩ := ih (index + 1) (done ++ [some (Except.error e)]) (by simp [hdone])
          prepared context' hcache'
        refine ⟨last, ?_⟩
        have hset : (done ++ none :: List.replicate rest.length none).set index
            (some (Except.error e)) =
              done ++ some (Except.error e) :: List.replicate rest.length none := by
          rw [← hdone, set_length_append]
        simp only [List.append_assoc, List.singleton_append] at hlast
        simp only [prepareLoop, prepareStep, hresult, List.length_cons, List.replicate_succ,
          hset, hlast, slotsOf, List.map_cons, ← hitem, preparedFrom]

private def itemValid (item : PreparedBatchItem crate) : Bool :=
  crate.verify item.triptychStatement item.proof item.transcript

-- Storing every prepared item's own result fills the remaining slots with `verify`.
private theorem storeResults_eq (self : TariTriptychPrototypeVerifierV1)
    (inputs : List ProofBatchInputV1) (index : Nat)
    (done : List (Option (Result VerifiedProofV1))) (hdone : done.length = index) :
    (self.preparedFrom crate inputs index).foldl (fun results item ↦
        results.set item.inputIndex (some (resultOf crate item (itemValid crate item))))
        (done ++ self.slotsOf crate inputs) =
      done ++ inputs.map fun input ↦
        some (self.verify crate input.statement input.proofBytes) := by
  induction inputs generalizing index done with
  | nil => rfl
  | cons input rest ih =>
    have hverify := self.verify_eq_prepareItem crate input
    cases hitem : self.prepareItem crate input with
    | error e =>
      rw [hitem] at hverify
      have h := ih (index + 1) (done ++ [some (Except.error e)]) (by simp [hdone])
      simp only [List.append_assoc, List.singleton_append] at h
      simp only [preparedFrom, slotsOf, hitem, List.map_cons, hverify]
      exact h
    | ok item =>
      rw [hitem] at hverify
      have hkeep : ({ item with inputIndex := index, proofStatement := input.statement } :
          PreparedBatchItem crate) = { item with inputIndex := index } := by
        rw [← self.proofStatement_of_prepareItem crate input item hitem]
      have hset : ∀ value, (done ++ none :: self.slotsOf crate rest).set index value =
          done ++ value :: self.slotsOf crate rest := by
        intro value
        rw [← hdone, set_length_append]
      have h := ih (index + 1) (done ++ [some (self.verify crate input.statement
        input.proofBytes)]) (by simp [hdone])
      simp only [List.append_assoc, List.singleton_append] at h
      simp only [slotsOf] at h hset
      simp only [preparedFrom, slotsOf, hitem, List.map_cons, List.foldl_cons, hkeep, hset]
      rw [← h, hverify]
      rfl

private theorem foldl_set_false_getElem? (indexes : List Nat) (flags : List Bool) (i : Nat) :
    (indexes.foldl (fun flags index ↦ flags.set index false) flags)[i]? =
      if i ∈ indexes then flags[i]?.map fun _ ↦ false else flags[i]? := by
  induction indexes generalizing flags with
  | nil => simp
  | cons index rest ih =>
    rw [List.foldl_cons, ih, List.getElem?_set]
    by_cases hi : index = i
    · subst hi
      by_cases hrest : index ∈ rest <;> by_cases hlt : index < flags.length <;>
        simp [hrest, hlt]
    · by_cases hrest : i ∈ rest <;> simp [hrest, hi, Ne.symm hi]

end TariTriptychPrototypeVerifierV1

/-- What the verifier relies on in the vendored crate, for statements over one parameter set
and one input set: a batch verifies exactly when every member does, and full blame of a failed
batch lists exactly the members that fail alone. -/
structure TriptychBatchLaws : Prop where
  verifyBatch_iff : ∀ (parameters : crate.Parameters) (inputSet : crate.InputSet)
    (items : List (crate.Statement × crate.Proof × crate.Transcript)),
    (∀ item ∈ items, ∃ tag, crate.newStatement parameters inputSet tag = some item.1) →
    (crate.verifyBatch (items.map (·.1)) (items.map (·.2.1)) (items.map (·.2.2)) = true ↔
      ∀ item ∈ items, crate.verify item.1 item.2.1 item.2.2 = true)
  fullBlame : ∀ (parameters : crate.Parameters) (inputSet : crate.InputSet)
    (items : List (crate.Statement × crate.Proof × crate.Transcript)),
    (∀ item ∈ items, ∃ tag, crate.newStatement parameters inputSet tag = some item.1) →
    crate.verifyBatch (items.map (·.1)) (items.map (·.2.1)) (items.map (·.2.2)) = false →
    ∃ indexes, crate.verifyBatchWithFullBlame (items.map (·.1)) (items.map (·.2.1))
        (items.map (·.2.2)) = .error (.indexes indexes) ∧
      ∀ i item, items[i]? = some item →
        (i ∈ indexes ↔ crate.verify item.1 item.2.1 item.2.2 = false)

/-- The batch of these members tells which of them fail alone. -/
structure TellsMembers (items : List (crate.Statement × crate.Proof × crate.Transcript)) :
    Prop where
  verified : crate.verifyBatch (items.map (·.1)) (items.map (·.2.1)) (items.map (·.2.2)) = true →
    ∀ item ∈ items, crate.verify item.1 item.2.1 item.2.2 = true
  blamed : crate.verifyBatch (items.map (·.1)) (items.map (·.2.1)) (items.map (·.2.2)) = false →
    ∃ indexes, crate.verifyBatchWithFullBlame (items.map (·.1)) (items.map (·.2.1))
        (items.map (·.2.2)) = .error (.indexes indexes) ∧
      ∀ i item, items[i]? = some item →
        (i ∈ indexes ↔ crate.verify item.1 item.2.1 item.2.2 = false)

/-- What the vendored crate does with statements of any parameter sets and input sets, of which
`sharesContext` says whether they are the same: a batch verifies exactly when all members share
them and each verifies alone, and full blame of a failed batch lists exactly the members that fail
alone. -/
structure TriptychMixedBatchLaws (sharesContext : crate.Statement → crate.Statement → Prop) :
    Prop where
  verifyBatch_iff : ∀ items : List (crate.Statement × crate.Proof × crate.Transcript),
    crate.verifyBatch (items.map (·.1)) (items.map (·.2.1)) (items.map (·.2.2)) = true ↔
      (∀ a ∈ items, ∀ b ∈ items, sharesContext a.1 b.1) ∧
        ∀ item ∈ items, crate.verify item.1 item.2.1 item.2.2 = true
  fullBlame : ∀ items : List (crate.Statement × crate.Proof × crate.Transcript),
    crate.verifyBatch (items.map (·.1)) (items.map (·.2.1)) (items.map (·.2.2)) = false →
    ∃ indexes, crate.verifyBatchWithFullBlame (items.map (·.1)) (items.map (·.2.1))
        (items.map (·.2.2)) = .error (.indexes indexes) ∧
      ∀ i item, items[i]? = some item →
        (i ∈ indexes ↔ crate.verify item.1 item.2.1 item.2.2 = false)

variable {crate} in
theorem TriptychBatchLaws.tellsMembers (laws : TriptychBatchLaws crate)
    {parameters : crate.Parameters} {inputSet : crate.InputSet}
    {items : List (crate.Statement × crate.Proof × crate.Transcript)}
    (hshared : ∀ item ∈ items, ∃ tag, crate.newStatement parameters inputSet tag = some item.1) :
    TellsMembers crate items where
  verified := (laws.verifyBatch_iff parameters inputSet items hshared).mp
  blamed := laws.fullBlame parameters inputSet items hshared

variable {crate} in
theorem TriptychMixedBatchLaws.tellsMembers
    {sharesContext : crate.Statement → crate.Statement → Prop}
    (laws : TriptychMixedBatchLaws crate sharesContext)
    (items : List (crate.Statement × crate.Proof × crate.Transcript)) :
    TellsMembers crate items where
  verified h := ((laws.verifyBatch_iff items).mp h).2
  blamed := laws.fullBlame items

namespace TariTriptychPrototypeVerifierV1

private def parts (item : PreparedBatchItem crate) :
    crate.Statement × crate.Proof × crate.Transcript :=
  (item.triptychStatement, item.proof, item.transcript)

variable {crate}

private theorem validFlags_eq {prepared : List (PreparedBatchItem crate)}
    (htells : TellsMembers crate (prepared.map (parts crate))) :
    validFlags crate prepared = prepared.map (itemValid crate) := by
  have hmap1 : prepared.map (·.triptychStatement) = (prepared.map (parts crate)).map (·.1) := by
    simp [parts]
  have hmap2 : prepared.map (·.proof) = (prepared.map (parts crate)).map (·.2.1) := by
    simp [parts]
  have hmap3 : prepared.map (·.transcript) = (prepared.map (parts crate)).map (·.2.2) := by
    simp [parts]
  unfold validFlags
  cases hbatch : crate.verifyBatch (prepared.map (·.triptychStatement))
      (prepared.map (·.proof)) (prepared.map (·.transcript)) with
  | true =>
    rw [hmap1, hmap2, hmap3] at hbatch
    rw [if_pos rfl]
    symm
    rw [List.eq_replicate_iff]
    refine ⟨by simp, ?_⟩
    intro flag hflag
    obtain ⟨item, hitem, rfl⟩ := List.mem_map.mp hflag
    exact htells.verified hbatch (parts crate item) (List.mem_map_of_mem hitem)
  | false =>
    rw [if_neg (by simp)]
    rw [hmap1, hmap2, hmap3] at hbatch
    obtain ⟨indexes, hblame, hindexes⟩ := htells.blamed hbatch
    rw [blamePreparedBatch, hmap1, hmap2, hmap3, hblame]
    apply List.ext_getElem?
    intro i
    simp only [foldl_set_false_getElem?, List.getElem?_map]
    cases hi : prepared[i]? with
    | none =>
      have hlen : prepared.length ≤ i := List.getElem?_eq_none_iff.mp hi
      simp [Nat.not_lt.mpr hlen]
    | some item =>
      have hlt : i < prepared.length := (List.getElem?_eq_some_iff.mp hi).1
      have hiff := hindexes i (parts crate item) (by rw [List.getElem?_map, hi]; rfl)
      by_cases hmem : i ∈ indexes
      · have hv : itemValid crate item = false := hiff.mp hmem
        simp [hmem, hlt, hv]
      · have hv : itemValid crate item = true := by
          cases hval : itemValid crate item with
          | true => rfl
          | false => exact absurd (hiff.mpr hval) hmem
        simp [hmem, hlt, hv]

private theorem shared_of_prepareItem (self : TariTriptychPrototypeVerifierV1)
    (input : ProofBatchInputV1) (item : PreparedBatchItem crate)
    (h : self.prepareItem crate input = .ok item) :
    ∃ context, self.buildFor crate (ElectionContextKey.ofStatement input.statement) =
        .ok context ∧
      ∃ tag, crate.newStatement context.parameters context.inputSet tag =
        some item.triptychStatement := by
  have hn := self.contextFor_of_cacheOk crate input.statement none (self.cacheOk_none crate)
  unfold prepareItem prepareBatchItem at h
  cases hs : self.checkStatement input.statement with
  | error e => simp [hs] at h
  | ok u =>
    cases he : TariTriptychProofEnvelopeV1.fromBytes crate input.proofBytes with
    | error e => simp [hs, he] at h
    | ok envelope =>
      simp only [hs, he, hn.1, bind_eq_ok, pure, Except.pure, Except.ok.injEq] at h
      obtain ⟨context, hcontext, statement, hstatement, _, _, _, _, rfl⟩ := h
      refine ⟨context, hcontext, ?_⟩
      simp only [finishTriptychStatementV1, bind_eq_ok] at hstatement
      obtain ⟨tag, _, htag⟩ := hstatement
      refine ⟨tag, ?_⟩
      unfold orMalformed at htag
      split at htag
      · next s hs =>
        cases htag
        exact hs
      · cases htag

private theorem mem_preparedFrom (self : TariTriptychPrototypeVerifierV1)
    (inputs : List ProofBatchInputV1) (index : Nat) (item : PreparedBatchItem crate)
    (hmem : item ∈ self.preparedFrom crate inputs index) :
    ∃ input ∈ inputs, ∃ source, self.prepareItem crate input = .ok source ∧
      item.triptychStatement = source.triptychStatement := by
  induction inputs generalizing index with
  | nil => cases hmem
  | cons input rest ih =>
    unfold preparedFrom at hmem
    cases hitem : self.prepareItem crate input with
    | error e =>
      rw [hitem] at hmem
      obtain ⟨input', hin, source, hsource⟩ := ih (index + 1) hmem
      exact ⟨input', List.mem_cons_of_mem _ hin, source, hsource⟩
    | ok source =>
      rw [hitem] at hmem
      rcases List.mem_cons.mp hmem with rfl | hmem
      · exact ⟨input, List.mem_cons_self, source, hitem, rfl⟩
      · obtain ⟨input', hin, source', hsource⟩ := ih (index + 1) hmem
        exact ⟨input', List.mem_cons_of_mem _ hin, source', hsource⟩

private theorem runPreparedBatch_eq {prepared : List (PreparedBatchItem crate)}
    (htells : prepared ≠ [] → TellsMembers crate (prepared.map (parts crate)))
    (results : List (Option (Result VerifiedProofV1))) :
    runPreparedBatch crate prepared results = prepared.foldl (fun results item ↦
      results.set item.inputIndex (some (resultOf crate item (itemValid crate item))))
      results := by
  unfold runPreparedBatch
  cases prepared with
  | nil => rfl
  | cons first rest =>
    rw [if_neg (by simp), validFlags_eq (htells (by simp))]
    clear htells
    generalize first :: rest = prepared
    induction prepared generalizing results with
    | nil => rfl
    | cons item rest ih => simp only [List.map_cons, List.zip_cons_cons, List.foldl_cons, ih]

-- The preparation left the errors in their slots; the batch fills the others.
private theorem verifyBatchV1_eq_of_tellsMembers {self : TariTriptychPrototypeVerifierV1}
    {inputs : List ProofBatchInputV1}
    (htells : self.preparedFrom crate inputs 0 ≠ [] →
      TellsMembers crate ((self.preparedFrom crate inputs 0).map (parts crate))) :
    self.verifyBatchV1 crate inputs =
      inputs.map fun input ↦ self.verify crate input.statement input.proofBytes := by
  obtain ⟨context, hloop⟩ := self.prepareLoop_eq crate inputs 0 [] rfl [] none
    (self.cacheOk_none crate)
  simp only [List.nil_append] at hloop
  have hstore := self.storeResults_eq crate inputs 0 [] rfl
  simp only [List.nil_append] at hstore
  have hrun : runPreparedBatch crate (self.preparedFrom crate inputs 0)
      (self.slotsOf crate inputs) =
      inputs.map fun input ↦ some (self.verify crate input.statement input.proofBytes) := by
    rw [← hstore]
    exact runPreparedBatch_eq htells _
  unfold verifyBatchV1
  simp only [hloop, hrun, List.map_map]
  rfl

/-- A batch of inputs of one election context gets, in order, exactly the results its members
get alone. -/
theorem verifyBatchV1_eq_map_verify (laws : TriptychBatchLaws crate)
    (self : TariTriptychPrototypeVerifierV1) (inputs : List ProofBatchInputV1)
    (key : ElectionContextKey)
    (hkey : ∀ input ∈ inputs, ElectionContextKey.ofStatement input.statement = key) :
    self.verifyBatchV1 crate inputs =
      inputs.map fun input ↦ self.verify crate input.statement input.proofBytes := by
  apply verifyBatchV1_eq_of_tellsMembers
  intro hne
  have hsource : ∀ item ∈ self.preparedFrom crate inputs 0, ∃ built tag,
      self.buildFor crate key = .ok built ∧
        crate.newStatement built.parameters built.inputSet tag = some item.triptychStatement := by
    intro item hmem
    obtain ⟨input, hin, source, hsource, heq⟩ := self.mem_preparedFrom inputs 0 item hmem
    obtain ⟨built, hbuilt, tag, htag⟩ := self.shared_of_prepareItem input source hsource
    rw [hkey input hin] at hbuilt
    exact ⟨built, tag, hbuilt, htag.trans (congrArg some heq.symm)⟩
  -- Something was prepared, so the context they share was built.
  obtain ⟨first, hfirst⟩ := List.exists_mem_of_ne_nil _ hne
  obtain ⟨shared, -, hshared, -⟩ := hsource first hfirst
  apply TriptychBatchLaws.tellsMembers laws
  intro item hmem
  obtain ⟨prepared, hprepared, rfl⟩ := List.mem_map.mp hmem
  obtain ⟨built, tag, hbuilt, htag⟩ := hsource prepared hprepared
  cases hshared.symm.trans hbuilt
  exact ⟨tag, htag⟩

/-- A batch of any inputs, of any elections in any order, gets exactly the results its members get
alone. -/
theorem verifyBatchV1_pointwise {sharesContext : crate.Statement → crate.Statement → Prop}
    (laws : TriptychMixedBatchLaws crate sharesContext)
    (self : TariTriptychPrototypeVerifierV1) (inputs : List ProofBatchInputV1) :
    self.verifyBatchV1 crate inputs =
      inputs.map fun input ↦ self.verify crate input.statement input.proofBytes :=
  verifyBatchV1_eq_of_tellsMembers fun _ ↦ laws.tellsMembers _

end TariTriptychPrototypeVerifierV1

end

/-! ### An idealised crate -/

/-- A crate whose points, proofs and transcripts are their bytes and whose verification is the
given predicate on linking tag, proof and transcript; batches and blame are pointwise. -/
def idealCrate (valid : Bytes32 → Bytes → Bytes → Bool) : TriptychCrate where
  dalek := ⟨Bytes32, some, id, fun point ↦ decide (point = Bytes32.replicate 0)⟩
  dalekV4 := ⟨Bytes32, some, id, fun point ↦ decide (point = Bytes32.replicate 0)⟩
  basepoint := Bytes32.replicate 1
  isBasepoint point := decide (point = Bytes32.replicate 1)
  hashToPoint _ := Bytes32.replicate 2
  Parameters := Nat
  InputSet := List Bytes32
  Statement := Bytes32
  Proof := Bytes
  Transcript := Bytes
  newParameters _ exponent _ _ := some exponent
  newInputSet keys _ := some keys
  newStatement _ _ tag := some tag
  proofFromBytes := some
  proofToBytes := id
  newTranscript _ _ bytes := bytes
  verify := valid
  verifyBatch tags proofs transcripts :=
    (tags.zip (proofs.zip transcripts)).all fun item ↦ valid item.1 item.2.1 item.2.2
  verifyBatchWithFullBlame tags proofs transcripts :=
    let items := tags.zip (proofs.zip transcripts)
    if items.all fun item ↦ valid item.1 item.2.1 item.2.2 then .ok ()
    else .error (.indexes ((List.range items.length).filter fun i ↦
      items[i]?.any fun item ↦ !valid item.1 item.2.1 item.2.2))

private theorem zip_map_parts {α β γ : Type} (items : List (α × β × γ)) :
    (items.map (·.1)).zip ((items.map (·.2.1)).zip (items.map (·.2.2))) = items := by
  induction items with
  | nil => rfl
  | cons item rest ih => simp only [List.map_cons, List.zip_cons_cons, ih]

private theorem idealCrate_verifyBatch (valid : Bytes32 → Bytes → Bytes → Bool)
    (items : List (Bytes32 × Bytes × Bytes)) :
    (idealCrate valid).verifyBatch (items.map (·.1)) (items.map (·.2.1)) (items.map (·.2.2)) =
      items.all fun item ↦ valid item.1 item.2.1 item.2.2 := by
  simp only [idealCrate, zip_map_parts]

private theorem idealCrate_fullBlame (valid : Bytes32 → Bytes → Bytes → Bool)
    (items : List (Bytes32 × Bytes × Bytes))
    (h : (items.all fun item ↦ valid item.1 item.2.1 item.2.2) = false) :
    (idealCrate valid).verifyBatchWithFullBlame (items.map (·.1)) (items.map (·.2.1))
        (items.map (·.2.2)) =
      .error (.indexes ((List.range items.length).filter fun i ↦
        items[i]?.any fun item ↦ !valid item.1 item.2.1 item.2.2)) := by
  simp only [idealCrate, zip_map_parts, h, Bool.false_eq_true, if_false]

/-- The laws the verifier relies on hold of the idealised crate. -/
theorem triptychBatchLaws_idealCrate (valid : Bytes32 → Bytes → Bytes → Bool) :
    TriptychBatchLaws (idealCrate valid) := by
  constructor
  · intro parameters inputSet (items : List (Bytes32 × Bytes × Bytes)) _
    refine (Eq.congr_left (idealCrate_verifyBatch valid items)).trans ?_
    exact List.all_eq_true
  · intro parameters inputSet (items : List (Bytes32 × Bytes × Bytes)) _ hbatch
    have hall := (idealCrate_verifyBatch valid items).symm.trans hbatch
    refine ⟨_, idealCrate_fullBlame valid items hall, ?_⟩
    intro i (item : Bytes32 × Bytes × Bytes) hitem
    have hlt : i < items.length := (List.getElem?_eq_some_iff.mp hitem).1
    have hget : items[i]? = some item := hitem
    have hmem : i ∈ (List.range items.length).filter (fun i ↦
        items[i]?.any fun item ↦ !valid item.1 item.2.1 item.2.2) ↔
        valid item.1 item.2.1 item.2.2 = false := by
      simp only [List.mem_filter, List.mem_range, hlt, hget, Option.any_some, true_and,
        Bool.not_eq_true']
    exact hmem

private theorem length_foldedHash (bytes : Bytes) :
    (leBytes 32 (bytes.foldl (fun acc b ↦ (acc * 257 + b.toNat + 1) % 2 ^ 256) 7)).length = 32 := by
  simp

/-- The idealised crate with statements that carry the scope generator of their parameters: a batch
over different generators is refused, and blame looks at each member alone. -/
def scopedCrate (valid : Bytes32 → Bytes → Bytes → Bool) : TriptychCrate where
  dalek := (idealCrate valid).dalek
  dalekV4 := ⟨Bytes32, some, id, fun point ↦ decide (point = Bytes32.replicate 0)⟩
  basepoint := Bytes32.replicate 1
  isBasepoint point := decide (point = Bytes32.replicate 1)
  hashToPoint bytes :=
    ⟨leBytes 32 (bytes.foldl (fun acc b ↦ (acc * 257 + b.toNat + 1) % 2 ^ 256) 7),
      by exact length_foldedHash bytes⟩
  Parameters := Bytes32
  InputSet := List Bytes32
  Statement := Bytes32 × Bytes32
  Proof := Bytes
  Transcript := Bytes
  newParameters _ _ _ scopeGenerator := some scopeGenerator
  newInputSet keys _ := some keys
  newStatement scopeGenerator _ tag := some (scopeGenerator, tag)
  proofFromBytes := some
  proofToBytes := id
  newTranscript _ _ bytes := bytes
  verify statement := valid statement.2
  verifyBatch statements proofs transcripts :=
    statements.all (fun a ↦ statements.all fun b ↦ decide (a.1 = b.1)) &&
      (statements.zip (proofs.zip transcripts)).all fun item ↦ valid item.1.2 item.2.1 item.2.2
  verifyBatchWithFullBlame statements proofs transcripts :=
    let items := statements.zip (proofs.zip transcripts)
    .error (.indexes ((List.range items.length).filter fun i ↦
      items[i]?.any fun item ↦ !valid item.1.2 item.2.1 item.2.2))

theorem triptychMixedBatchLaws_scopedCrate (valid : Bytes32 → Bytes → Bytes → Bool) :
    TriptychMixedBatchLaws (scopedCrate valid)
      (fun a b : Bytes32 × Bytes32 ↦ a.1 = b.1) := by
  constructor
  · intro (items : List ((Bytes32 × Bytes32) × Bytes × Bytes))
    have hbatch : (scopedCrate valid).verifyBatch (items.map (·.1)) (items.map (·.2.1))
        (items.map (·.2.2)) =
          ((items.map (·.1)).all (fun a ↦ (items.map (·.1)).all fun b ↦ decide (a.1 = b.1)) &&
            items.all fun item ↦ valid item.1.2 item.2.1 item.2.2) := by
      simp only [scopedCrate, zip_map_parts]
    refine (Eq.congr_left hbatch).trans ?_
    simp only [Bool.and_eq_true, List.all_map, List.all_eq_true, Function.comp_apply,
      decide_eq_true_eq]
    exact Iff.rfl
  · intro (items : List ((Bytes32 × Bytes32) × Bytes × Bytes)) _
    have hblame : (scopedCrate valid).verifyBatchWithFullBlame (items.map (·.1))
        (items.map (·.2.1)) (items.map (·.2.2)) =
          .error (.indexes ((List.range items.length).filter fun i ↦
            items[i]?.any fun item ↦ !valid item.1.2 item.2.1 item.2.2)) := by
      simp only [scopedCrate, zip_map_parts]
    refine ⟨_, hblame, ?_⟩
    intro i (item : (Bytes32 × Bytes32) × Bytes × Bytes) hitem
    have hlt : i < items.length := (List.getElem?_eq_some_iff.mp hitem).1
    have hget : items[i]? = some item := hitem
    have hmem : i ∈ (List.range items.length).filter (fun i ↦
        items[i]?.any fun item ↦ !valid item.1.2 item.2.1 item.2.2) ↔
        valid item.1.2 item.2.1 item.2.2 = false := by
      simp only [List.mem_filter, List.mem_range, hlt, hget, Option.any_some, true_and,
        Bool.not_eq_true']
    exact hmem

/-! ### A batch of two elections -/

namespace Sample

/-- Only the proof `[1]` is valid. -/
def twoElectionsCrate : TriptychCrate := scopedCrate fun _ proof _ ↦ decide (proof = [1])

def verifier : TariTriptychPrototypeVerifierV1 :=
  ⟨Bytes32.replicate 4, [Bytes32.replicate 5, Bytes32.replicate 6]⟩

/-- The facts of a ballot of an election. -/
def facts (electionScope : Bytes32) : ProofStatementV1Input :=
  ⟨protocolVersionV1, tariTriptychProofSuiteIdV1, Bytes32.replicate 2, electionScope,
    Bytes32.replicate 4, Bytes32.replicate 3, .lit "K", .lit "C"⟩

/-- Its statement; the election is not looked at by the checks. -/
def statement (electionScope : Bytes32) : ProofStatementV1 where
  toProofStatementV1Input := facts electionScope
  valid := by
    have hvalid : (facts (Bytes32.replicate 0)).validate = .ok () := by decide +kernel
    exact hvalid

/-- An envelope with this tag and this proof. -/
def proofBytes (tag : Bytes32) (proof : Bytes) : Bytes :=
  leBytes 2 tariTriptychProofEnvelopeVersionV1 ++ tag.toBytes ++ proof

/-- Two elections by turns, with an invalid proof, a malformed one and a valid one at the end. -/
def inputs : List ProofBatchInputV1 :=
  [⟨statement (Bytes32.replicate 8), proofBytes (Bytes32.replicate 10) [1]⟩,
    ⟨statement (Bytes32.replicate 9), proofBytes (Bytes32.replicate 11) [2]⟩,
    ⟨statement (Bytes32.replicate 8), []⟩,
    ⟨statement (Bytes32.replicate 9), proofBytes (Bytes32.replicate 12) [1]⟩]

end Sample

theorem verifyBatchV1_pointwise_sample :
    (Sample.verifier.verifyBatchV1 Sample.twoElectionsCrate Sample.inputs).map (·.isOk) =
        [true, false, false, true] ∧
      Sample.verifier.verifyBatchV1 Sample.twoElectionsCrate Sample.inputs =
        Sample.inputs.map fun input ↦
          Sample.verifier.verify Sample.twoElectionsCrate input.statement input.proofBytes :=
  ⟨by decide +kernel, TariTriptychPrototypeVerifierV1.verifyBatchV1_pointwise
    (triptychMixedBatchLaws_scopedCrate _) Sample.verifier Sample.inputs⟩

end PrivateBallot.Crypto
