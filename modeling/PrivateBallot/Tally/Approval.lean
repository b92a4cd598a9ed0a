import PrivateBallot.Ballot.Candidate
import Mathlib.Data.List.Basic
import Mathlib.Data.List.Induction

/-!
# Approval tally

Library `Tally`. `crates/tally/src/lib.rs`. The `BTreeMap` keyed by candidate is the list of
its entries in identifier order, which is the order of the candidate set; counters are `u64`
and every increment is checked.
-/

namespace PrivateBallot.Tally

open PrivateBallot.Base
open PrivateBallot.Protocol
open PrivateBallot.Ballot

/-- Approvals of one candidate. -/
structure CandidateCount where
  candidateId : CandidateId
  approvals : Nat
deriving DecidableEq

/-- `ApprovalTally` -/
structure ApprovalTally where
  acceptedBallots : Nat
  abstentions : Nat
  counts : List CandidateCount
deriving DecidableEq

/-- `checked_add(1)` on a `u64`. -/
def checkedIncrement (value : Nat) (message : String) : Result Nat :=
  if value + 1 < 2 ^ 64 then .ok (value + 1) else fail .invalidData message

/-- `counts.get_mut(candidate_id)` and the checked increment of what it finds. -/
def countApproval (candidateId : CandidateId) : List CandidateCount → Result (List CandidateCount)
  | [] => fail .unknownCandidateId "accepted ballot references a different candidate set"
  | count :: rest =>
    if count.candidateId = candidateId then do
      let approvals ← checkedIncrement count.approvals "candidate approval count overflow"
      pure (⟨count.candidateId, approvals⟩ :: rest)
    else do
      let rest ← countApproval candidateId rest
      pure (count :: rest)

namespace ApprovalTally

/-- Counts one ballot: the ballot, an abstention, then each selection in order. -/
def countBallot (tally : ApprovalTally) (ballot : ApprovalBallotPayload) :
    Result ApprovalTally := do
  let acceptedBallots ←
    checkedIncrement tally.acceptedBallots "accepted ballot count overflow"
  let abstentions ← if ballot.isAbstention then
    checkedIncrement tally.abstentions "abstention count overflow" else .ok tally.abstentions
  let counts ← ballot.selections.foldlM (fun counts id ↦ countApproval id counts) tally.counts
  pure ⟨acceptedBallots, abstentions, counts⟩

/-- `ApprovalTally::from_ballots`; `crates/tally/src/lib.rs:53`. -/
def fromBallots (candidates : CandidateSet) (ballots : List ApprovalBallotPayload) :
    Result ApprovalTally :=
  ballots.foldlM countBallot
    ⟨0, 0, candidates.candidates.map fun candidate ↦ ⟨candidate.id, 0⟩⟩

end ApprovalTally

/-- `LeadingResult` -/
inductive LeadingResult where
  | noApprovals
  | singleLeader (candidateId : CandidateId) (approvals : Nat)
  | tie (candidateIds : List CandidateId) (approvals : Nat)
deriving DecidableEq

/-- `leading_result` -/
def ApprovalTally.leadingResult (self : ApprovalTally) : LeadingResult :=
  match (self.counts.map (·.approvals)).max? with
  | none => .noApprovals
  | some maximum =>
    if maximum = 0 then .noApprovals
    else match (self.counts.filter (·.approvals = maximum)).map (·.candidateId) with
      | [candidateId] => .singleLeader candidateId maximum
      | candidateIds => .tie candidateIds maximum

/-! ### What is counted -/

/-- The tally of a list of ballots, as it is defined: how many there are, how many select nobody,
and for each candidate how many select it. -/
def approvalTallyOf (candidates : CandidateSet) (ballots : List ApprovalBallotPayload) :
    ApprovalTally where
  acceptedBallots := ballots.length
  abstentions := (ballots.filter (·.isAbstention)).length
  counts := candidates.candidates.map fun candidate ↦
    ⟨candidate.id, (ballots.filter fun ballot ↦ decide (candidate.id ∈ ballot.selections)).length⟩

private def countsOf (candidates : List CandidateDefinition) (approvals : CandidateId → Nat) :
    List CandidateCount :=
  candidates.map fun candidate ↦ ⟨candidate.id, approvals candidate.id⟩

private theorem countApproval_countsOf {candidates : List CandidateDefinition}
    (hdistinct : (candidates.map (·.id)).Nodup) {approvals : CandidateId → Nat} {id : CandidateId}
    {counts : List CandidateCount}
    (h : countApproval id (countsOf candidates approvals) = .ok counts) :
    counts = countsOf candidates fun c ↦ approvals c + if c = id then 1 else 0 := by
  induction candidates generalizing counts with
  | nil => cases h
  | cons candidate rest ih =>
    rw [List.map_cons, List.nodup_cons] at hdistinct
    rw [countsOf, List.map_cons, countApproval] at h
    split at h
    · next hid =>
      simp only at hid
      obtain ⟨increased, hincreased, hcounts⟩ := bind_eq_ok.mp h
      cases hcounts
      have hvalue : increased = approvals candidate.id + 1 := by
        unfold checkedIncrement at hincreased
        split at hincreased
        · cases hincreased
          rfl
        · cases hincreased
      have hothers : rest.map (fun c ↦ CandidateCount.mk c.id (approvals c.id)) =
          rest.map fun c ↦
            CandidateCount.mk c.id (approvals c.id + if c.id = id then 1 else 0) := by
        apply List.map_congr_left
        intro c hc
        have hne : c.id ≠ id := by
          intro heq
          exact hdistinct.1 (hid ▸ heq ▸ List.mem_map_of_mem hc)
        rw [if_neg hne, Nat.add_zero]
      rw [countsOf, List.map_cons, if_pos hid, ← hothers, hvalue]
    · next hid =>
      obtain ⟨counted, hcounted, hcounts⟩ := bind_eq_ok.mp h
      cases hcounts
      rw [countsOf, List.map_cons, if_neg hid, Nat.add_zero, ih hdistinct.2 hcounted]
      rfl

private theorem foldlM_countApproval {candidates : List CandidateDefinition}
    (hdistinct : (candidates.map (·.id)).Nodup) (approvals : CandidateId → Nat)
    {selections : List CandidateId} {counts : List CandidateCount}
    (h : selections.foldlM (fun counts id ↦ countApproval id counts)
      (countsOf candidates approvals) = .ok counts) :
    counts = countsOf candidates fun c ↦ approvals c + selections.count c := by
  induction selections generalizing approvals with
  | nil =>
    cases h
    rfl
  | cons id rest ih =>
    rw [List.foldlM_cons] at h
    obtain ⟨counted, hcounted, hrest⟩ := bind_eq_ok.mp h
    rw [countApproval_countsOf hdistinct hcounted] at hrest
    rw [ih _ hrest]
    congr 1
    funext c
    by_cases heq : c = id
    · subst heq
      rw [if_pos rfl, List.count_cons_self]
      omega
    · rw [if_neg heq, List.count_cons_of_ne (Ne.symm heq), Nat.add_zero]

private theorem count_selections (ballot : ApprovalBallotPayload) (id : CandidateId) :
    ballot.selections.count id = if id ∈ ballot.selections then 1 else 0 := by
  have hnodup : ballot.selections.Nodup := by
    apply ballot.ascending.imp
    intro a b hlt heq
    rw [heq] at hlt
    exact List.lt_irrefl _ hlt
  by_cases hmem : id ∈ ballot.selections
  · rw [if_pos hmem, List.count_eq_one_of_mem hnodup hmem]
  · rw [if_neg hmem, List.count_eq_zero_of_not_mem hmem]

private theorem checkedIncrement_eq_ok {value next : Nat} {message : String}
    (h : checkedIncrement value message = .ok next) : next = value + 1 := by
  unfold checkedIncrement at h
  split at h
  · cases h
    rfl
  · cases h

private theorem countBallot_approvalTallyOf {candidates : CandidateSet}
    {ballots : List ApprovalBallotPayload} {ballot : ApprovalBallotPayload} {tally : ApprovalTally}
    (h : (approvalTallyOf candidates ballots).countBallot ballot = .ok tally) :
    tally = approvalTallyOf candidates (ballots ++ [ballot]) := by
  have hdistinct := candidates.nodup_ids
  -- Whatever way the abstentions were counted, the selections are counted next.
  have hselections : ∀ accepted abstentions, (do
        let counts ← ballot.selections.foldlM (fun counts id ↦ countApproval id counts)
          (approvalTallyOf candidates ballots).counts
        pure (ApprovalTally.mk accepted abstentions counts) : Result ApprovalTally) = .ok tally →
      accepted = ballots.length + 1 →
      abstentions = ((ballots ++ [ballot]).filter (·.isAbstention)).length →
      tally = approvalTallyOf candidates (ballots ++ [ballot]) := by
    intro accepted abstentions hcount haccepted habstained
    obtain ⟨counts, hcounts, hresult⟩ := bind_eq_ok.mp hcount
    cases hresult
    have hcounted := foldlM_countApproval hdistinct
      (fun id ↦ (ballots.filter fun b : ApprovalBallotPayload ↦ decide (id ∈ b.selections)).length)
      hcounts
    rw [haccepted, habstained, hcounted, approvalTallyOf]
    congr 1
    · rw [List.length_append, List.length_singleton]
    · apply List.map_congr_left
      intro candidate _
      dsimp only
      rw [count_selections, List.filter_append, List.length_append]
      congr 2
      by_cases hmem : candidate.id ∈ ballot.selections
      · rw [if_pos hmem, List.filter_cons_of_pos (by simpa using hmem)]
        rfl
      · rw [if_neg hmem, List.filter_cons_of_neg (by simpa using hmem)]
        rfl
  obtain ⟨accepted, haccepted, hrest⟩ := bind_eq_ok.mp h
  split at hrest
  · next hempty =>
    obtain ⟨abstentions, habstentions, hcount⟩ := bind_eq_ok.mp hrest
    apply hselections accepted abstentions hcount (checkedIncrement_eq_ok haccepted)
    rw [checkedIncrement_eq_ok habstentions, List.filter_append, List.length_append,
      List.filter_cons_of_pos hempty]
    rfl
  · next hfull =>
    obtain ⟨abstentions, habstentions, hcount⟩ := bind_eq_ok.mp hrest
    cases habstentions
    apply hselections accepted _ hcount (checkedIncrement_eq_ok haccepted)
    rw [List.filter_append, List.length_append, List.filter_cons_of_neg hfull]
    rfl

/-- A tally that does not overflow counts what it should. -/
theorem ApprovalTally.eq_of_fromBallots {candidates : CandidateSet}
    {ballots : List ApprovalBallotPayload} {tally : ApprovalTally}
    (h : fromBallots candidates ballots = .ok tally) :
    tally = approvalTallyOf candidates ballots := by
  induction ballots using List.reverseRecOn generalizing tally with
  | nil =>
    cases h
    rfl
  | append_singleton ballots ballot ih =>
    rw [fromBallots, List.foldlM_append] at h
    obtain ⟨before, hbefore, hlast⟩ := bind_eq_ok.mp h
    rw [ih hbefore, List.foldlM_cons] at hlast
    obtain ⟨after, hafter, hdone⟩ := bind_eq_ok.mp hlast
    cases hdone
    exact countBallot_approvalTallyOf hafter

/-! ### Tallies that cannot fail -/

private theorem exists_countApproval {candidates : List CandidateDefinition}
    (approvals : CandidateId → Nat) {id : CandidateId} (hmem : id ∈ candidates.map (·.id))
    (hbound : approvals id + 1 < 2 ^ 64) :
    ∃ counts, countApproval id (countsOf candidates approvals) = .ok counts := by
  induction candidates with
  | nil => cases hmem
  | cons candidate rest ih =>
    rw [countsOf, List.map_cons, countApproval]
    by_cases hid : candidate.id = id
    · simp only [hid, if_true, checkedIncrement, hbound]
      exact ⟨_, rfl⟩
    · have hrest : id ∈ rest.map (·.id) := by
        rcases List.mem_cons.mp hmem with heq | hrest
        · exact absurd heq.symm hid
        · exact hrest
      obtain ⟨counts, hcounts⟩ := ih hrest
      rw [countsOf] at hcounts
      simp only [hid, if_false, hcounts]
      exact ⟨_, rfl⟩

private theorem exists_foldlM_countApproval {candidates : List CandidateDefinition}
    (hdistinct : (candidates.map (·.id)).Nodup) (approvals : CandidateId → Nat)
    (selections : List CandidateId) (hmem : ∀ id ∈ selections, id ∈ candidates.map (·.id))
    (hbound : ∀ id ∈ selections, approvals id + selections.count id < 2 ^ 64) :
    ∃ counts, selections.foldlM (fun counts id ↦ countApproval id counts)
      (countsOf candidates approvals) = .ok counts := by
  induction selections generalizing approvals with
  | nil => exact ⟨_, rfl⟩
  | cons id rest ih =>
    have hfirst := hbound id List.mem_cons_self
    rw [List.count_cons_self] at hfirst
    obtain ⟨counted, hcounted⟩ := exists_countApproval approvals
      (hmem id List.mem_cons_self) (by omega)
    rw [List.foldlM_cons, hcounted]
    rw [countApproval_countsOf hdistinct hcounted]
    apply ih
    · intro other hother
      exact hmem other (List.mem_cons_of_mem _ hother)
    · intro other hother
      have hsum := hbound other (List.mem_cons_of_mem _ hother)
      by_cases heq : other = id
      · subst heq
        rw [List.count_cons_self] at hsum
        rw [if_pos rfl]
        omega
      · rw [List.count_cons_of_ne (Ne.symm heq)] at hsum
        rw [if_neg heq]
        omega

private theorem exists_countBallot (candidates : CandidateSet)
    {ballots : List ApprovalBallotPayload} {ballot : ApprovalBallotPayload}
    (hlength : ballots.length + 1 < 2 ^ 64)
    (hknown : ∀ id ∈ ballot.selections, candidates.contains id = true) :
    ∃ tally, (approvalTallyOf candidates ballots).countBallot ballot = .ok tally := by
  have habstained := (List.filter_sublist (p := (·.isAbstention)) (l := ballots)).length_le
  obtain ⟨counts, hcounts⟩ := exists_foldlM_countApproval candidates.nodup_ids
    (fun id ↦ (ballots.filter fun b : ApprovalBallotPayload ↦ decide (id ∈ b.selections)).length)
    ballot.selections (by
      intro id hid
      exact List.mem_map.mpr (CandidateSet.contains_iff.mp (hknown id hid)))
    (by
      intro id hid
      rw [count_selections, if_pos hid]
      have hselected := (List.filter_sublist (p := fun b : ApprovalBallotPayload ↦
        decide (id ∈ b.selections)) (l := ballots)).length_le
      omega)
  have haccepted : checkedIncrement (approvalTallyOf candidates ballots).acceptedBallots
      "accepted ballot count overflow" = .ok (ballots.length + 1) := if_pos hlength
  have habstentions : checkedIncrement (approvalTallyOf candidates ballots).abstentions
      "abstention count overflow" = .ok ((ballots.filter (·.isAbstention)).length + 1) := by
    apply if_pos
    show (ballots.filter (·.isAbstention)).length + 1 < 2 ^ 64
    omega
  have hselections : ballot.selections.foldlM (fun counts id ↦ countApproval id counts)
      (approvalTallyOf candidates ballots).counts = .ok counts := hcounts
  simp only [ApprovalTally.countBallot, haccepted, habstentions, hselections, bind, Except.bind]
  split
  · exact ⟨_, rfl⟩
  · exact ⟨_, rfl⟩

/-- Fewer than 2^64 ballots for candidates of the set are tallied. -/
theorem ApprovalTally.exists_fromBallots {candidates : CandidateSet}
    {ballots : List ApprovalBallotPayload} (hlength : ballots.length < 2 ^ 64)
    (hknown : ∀ ballot ∈ ballots, ∀ id ∈ ballot.selections, candidates.contains id = true) :
    ∃ tally, fromBallots candidates ballots = .ok tally := by
  induction ballots using List.reverseRecOn with
  | nil => exact ⟨_, rfl⟩
  | append_singleton ballots ballot ih =>
    rw [List.length_append, List.length_singleton] at hlength
    obtain ⟨before, hbefore⟩ := ih (by omega) fun other hother ↦
      hknown other (List.mem_append_left _ hother)
    obtain ⟨tally, htally⟩ := exists_countBallot candidates hlength
      (hknown ballot (List.mem_append_right _ List.mem_cons_self))
    refine ⟨tally, ?_⟩
    rw [fromBallots] at hbefore ⊢
    rw [List.foldlM_append, hbefore, ApprovalTally.eq_of_fromBallots hbefore]
    show [ballot].foldlM countBallot _ = _
    rw [List.foldlM_cons, htally]
    rfl

end PrivateBallot.Tally
