import PrivateBallot.Ballot.Package
import PrivateBallot.Tally.Approval
import Mathlib.Algebra.BigOperators.Group.List.Basic

/-!
# The election result

Library `Tally`. What the tally of valid ballots is: one count for each candidate in identifier
order, and the candidates with the most approvals as the leaders.
-/

namespace PrivateBallot.Tally

open PrivateBallot.Base
open PrivateBallot.Protocol
open PrivateBallot.Ballot

/-! ### Leaders -/

/-- The counts that no count exceeds, in their order. -/
def leaders (counts : List CandidateCount) : List CandidateCount :=
  counts.filter fun count ↦ decide (∀ other ∈ counts, other.approvals ≤ count.approvals)

/-- A leading result names the leaders, unless there is no approval at all. -/
structure IsLeadingResult (counts : List CandidateCount) (result : LeadingResult) : Prop where
  noApprovals : result = .noApprovals ↔ ∀ count ∈ counts, count.approvals = 0
  singleLeader : ∀ candidateId approvals, result = .singleLeader candidateId approvals ↔
    approvals ≠ 0 ∧ leaders counts = [⟨candidateId, approvals⟩]
  tie : ∀ candidateIds approvals, result = .tie candidateIds approvals ↔
    approvals ≠ 0 ∧ 2 ≤ candidateIds.length ∧
      leaders counts = candidateIds.map fun candidateId ↦ ⟨candidateId, approvals⟩

section Leaders

variable {counts : List CandidateCount} {maximum : Nat}

-- The leaders are the counts that reach the largest one.
private theorem leaders_eq_filter (h : (counts.map (·.approvals)).max? = some maximum) :
    leaders counts = counts.filter (·.approvals = maximum) := by
  obtain ⟨hmem, hle⟩ := List.max?_eq_some_iff.mp h
  obtain ⟨top, htop, hmaximum⟩ := List.mem_map.mp hmem
  have hbound : ∀ count ∈ counts, count.approvals ≤ maximum := fun count hcount ↦
    hle _ (List.mem_map_of_mem hcount)
  apply List.filter_congr
  intro count hcount
  rw [decide_eq_decide]
  constructor
  · intro hlead
    apply Nat.le_antisymm (hbound count hcount)
    rw [← hmaximum]
    exact hlead top htop
  · intro heq other hother
    rw [heq]
    exact hbound other hother

private theorem exists_leaders (h : (counts.map (·.approvals)).max? = some maximum) :
    ∃ candidateIds, candidateIds ≠ [] ∧
      (counts.filter (·.approvals = maximum)).map (·.candidateId) = candidateIds ∧
      leaders counts = candidateIds.map fun candidateId ↦ ⟨candidateId, maximum⟩ := by
  refine ⟨_, ?_, rfl, ?_⟩
  · obtain ⟨top, htop, hmaximum⟩ := List.mem_map.mp (List.max?_eq_some_iff.mp h).1
    have hmem : top ∈ counts.filter (·.approvals = maximum) :=
      List.mem_filter.mpr ⟨htop, decide_eq_true hmaximum⟩
    exact List.ne_nil_of_mem (List.mem_map_of_mem hmem)
  · rw [leaders_eq_filter h, List.map_map]
    symm
    refine (List.map_congr_left ?_).trans (List.map_id _)
    intro count hcount
    rw [← of_decide_eq_true (List.mem_filter.mp hcount).2]
    rfl

-- The result for a positive largest count.
private theorem isLeadingResult_of_leaders {candidateIds : List CandidateId}
    (hne : candidateIds ≠ []) (hpositive : maximum ≠ 0)
    (hleaders : leaders counts = candidateIds.map fun candidateId ↦ ⟨candidateId, maximum⟩) :
    IsLeadingResult counts (match candidateIds with
      | [candidateId] => .singleLeader candidateId maximum
      | candidateIds => .tie candidateIds maximum) := by
  have hsome : ¬ ∀ count ∈ counts, count.approvals = 0 := by
    intro hzero
    obtain ⟨candidateId, hmem⟩ := List.exists_mem_of_ne_nil _ hne
    have hleader : (⟨candidateId, maximum⟩ : CandidateCount) ∈ leaders counts := by
      rw [hleaders]
      exact List.mem_map_of_mem hmem
    exact hpositive (hzero _ (List.mem_filter.mp hleader).1)
  match candidateIds, hne with
  | [candidateId], _ =>
    refine ⟨⟨nofun, fun hzero ↦ absurd hzero hsome⟩, ?_, ?_⟩
    · intro other approvals
      rw [hleaders]
      simp only [LeadingResult.singleLeader.injEq, List.map_cons, List.map_nil, List.cons.injEq,
        CandidateCount.mk.injEq, and_true]
      exact ⟨fun h ↦ ⟨h.2 ▸ hpositive, h⟩, fun h ↦ h.2⟩
    · intro candidateIds approvals
      refine ⟨nofun, ?_⟩
      rintro ⟨-, htwo, hsame⟩
      have hlen := congrArg List.length (hleaders.symm.trans hsame)
      simp only [List.length_map, List.length_singleton] at hlen
      omega
  | first :: second :: rest, _ =>
    refine ⟨⟨nofun, fun hzero ↦ absurd hzero hsome⟩, ?_, ?_⟩
    · intro other approvals
      refine ⟨nofun, ?_⟩
      rintro ⟨-, hsame⟩
      have hlen := congrArg List.length (hleaders.symm.trans hsame)
      simp only [List.length_map, List.length_cons, List.length_nil] at hlen
      omega
    · intro candidateIds approvals
      constructor
      · intro h
        cases h
        exact ⟨hpositive, by simp only [List.length_cons]; omega, hleaders⟩
      · rintro ⟨-, -, hsame⟩
        have hmaps := hleaders.symm.trans hsame
        have hids := congrArg (List.map CandidateCount.candidateId) hmaps
        rw [List.map_map, List.map_map] at hids
        change (first :: second :: rest).map id = candidateIds.map id at hids
        rw [List.map_id, List.map_id] at hids
        subst hids
        cases List.cons.inj hmaps with
        | intro hfirst _ =>
          cases hfirst
          rfl

end Leaders

/-- The leading result names the leaders. -/
theorem ApprovalTally.isLeadingResult (self : ApprovalTally) :
    IsLeadingResult self.counts self.leadingResult := by
  unfold leadingResult
  cases hmax : (self.counts.map (·.approvals)).max? with
  | none =>
    have hempty : self.counts = [] := List.map_eq_nil_iff.mp (List.max?_eq_none_iff.mp hmax)
    rw [hempty]
    refine ⟨by simp, ?_, ?_⟩
    · intro candidateId approvals
      exact ⟨nofun, fun h ↦ nomatch h.2⟩
    · intro candidateIds approvals
      refine ⟨nofun, ?_⟩
      rintro ⟨-, htwo, hsame⟩
      have hlen := congrArg List.length hsame
      simp only [leaders, List.filter_nil, List.length_nil, List.length_map] at hlen
      omega
  | some maximum =>
    obtain ⟨candidateIds, hne, hids, hleaders⟩ := exists_leaders hmax
    have hbound := (List.max?_eq_some_iff.mp hmax).2
    by_cases hzero : maximum = 0
    · have hall : ∀ count ∈ self.counts, count.approvals = 0 := by
        intro count hcount
        have hle := hbound _ (List.mem_map_of_mem hcount)
        omega
      have hnone : ∀ candidateId approvals,
          (⟨candidateId, approvals⟩ : CandidateCount) ∈ leaders self.counts → approvals = 0 :=
        fun candidateId approvals hmem ↦ hall _ (List.mem_filter.mp hmem).1
      dsimp only
      rw [if_pos hzero]
      refine ⟨⟨fun _ ↦ hall, fun _ ↦ rfl⟩, ?_, ?_⟩
      · intro candidateId approvals
        refine ⟨nofun, ?_⟩
        rintro ⟨hpositive, hsame⟩
        exact absurd
          (hnone candidateId approvals (by rw [hsame]; exact List.mem_cons_self)) hpositive
      · intro others approvals
        refine ⟨nofun, ?_⟩
        rintro ⟨hpositive, htwo, hsame⟩
        obtain ⟨candidateId, hmem⟩ := List.exists_mem_of_length_pos (by omega : 0 < others.length)
        exact absurd (hnone candidateId approvals (by
          rw [hsame]
          exact List.mem_map_of_mem hmem)) hpositive
    · dsimp only
      rw [if_neg hzero, hids]
      exact isLeadingResult_of_leaders hne hzero hleaders

/-! ### The tally of valid ballots -/

/-- What a tally says about the ballots it was made of. -/
structure IsTallyOf (candidates : CandidateSet) (ballots : List ApprovalBallotPayload)
    (tally : ApprovalTally) : Prop where
  /-- One count for each candidate, in identifier order. -/
  candidateIds : tally.counts.map (·.candidateId) = candidates.candidates.map (·.id)
  ascending : Ascending (·.candidateId.toBytes) tally.counts
  approvals : ∀ count ∈ tally.counts, count.approvals =
    (ballots.filter fun ballot ↦ decide (count.candidateId ∈ ballot.selections)).length
  acceptedBallots : tally.acceptedBallots = ballots.length
  abstentions : tally.abstentions =
    (ballots.filter fun ballot ↦ decide (ballot.selections = [])).length
  sum : (tally.counts.map (·.approvals)).sum =
    (ballots.map fun ballot ↦ ballot.selections.length).sum
  leadingResult : IsLeadingResult tally.counts tally.leadingResult

section TallyOf

variable {candidates : CandidateSet} {ballots : List ApprovalBallotPayload}

-- The candidates that a ballot selects are its selections.
private theorem length_filter_selected {ballot : ApprovalBallotPayload}
    (hknown : ∀ id ∈ ballot.selections, candidates.contains id = true) :
    (candidates.candidates.filter fun candidate ↦
      decide (candidate.id ∈ ballot.selections)).length =
      ballot.selections.length := by
  have hselections : ballot.selections.Nodup := List.Nodup.of_map _ ballot.ascending.nodup_keys
  have hperm : ((candidates.candidates.map (·.id)).filter fun id ↦
      decide (id ∈ ballot.selections)).Perm ballot.selections := by
    apply (List.perm_ext_iff_of_nodup (candidates.nodup_ids.filter _) hselections).mpr
    intro id
    rw [List.mem_filter, decide_eq_true_eq, and_iff_right_iff_imp]
    intro hid
    exact List.mem_map.mpr (CandidateSet.contains_iff.mp (hknown id hid))
  have hlen := hperm.length_eq
  rw [List.filter_map, List.length_map] at hlen
  exact hlen

private theorem length_filter_eq_sum {α : Type} (p : α → Bool) (xs : List α) :
    (xs.filter p).length = (xs.map fun x ↦ if p x then 1 else 0).sum := by
  induction xs with
  | nil => rfl
  | cons x xs ih =>
    rw [List.filter_cons, List.map_cons, List.sum_cons, ← ih]
    by_cases hx : p x = true
    · rw [if_pos hx, if_pos hx, List.length_cons]
      omega
    · rw [if_neg hx, if_neg hx]
      omega

/-- Every selection is an approval of one candidate. -/
theorem sum_approvals
    (hknown : ∀ ballot ∈ ballots, ∀ id ∈ ballot.selections, candidates.contains id = true) :
    ((approvalTallyOf candidates ballots).counts.map (·.approvals)).sum =
      (ballots.map fun ballot ↦ ballot.selections.length).sum := by
  rw [approvalTallyOf, List.map_map]
  induction ballots with
  | nil => simp [Function.comp_def]
  | cons ballot ballots ih =>
    have hothers := ih fun other hother ↦ hknown other (List.mem_cons_of_mem _ hother)
    have hfirst := length_filter_selected (hknown ballot List.mem_cons_self)
    rw [length_filter_eq_sum] at hfirst
    rw [List.map_cons, List.sum_cons, ← hothers, ← hfirst, ← List.sum_map_add]
    congr 1
    apply List.map_congr_left
    intro candidate _
    simp only [Function.comp_apply, List.filter_cons]
    by_cases hmem : candidate.id ∈ ballot.selections
    · simp only [hmem, decide_true, if_true, List.length_cons]
      omega
    · simp [hmem]

/-- The tally as it is defined is one of the ballots. -/
theorem isTallyOf_approvalTallyOf
    (hknown : ∀ ballot ∈ ballots, ∀ id ∈ ballot.selections, candidates.contains id = true) :
    IsTallyOf candidates ballots (approvalTallyOf candidates ballots) where
  candidateIds := by
    rw [approvalTallyOf, List.map_map]
    rfl
  ascending := List.pairwise_map.mpr candidates.ascending
  approvals := by
    intro count hcount
    obtain ⟨candidate, -, rfl⟩ := List.mem_map.mp hcount
    rfl
  acceptedBallots := rfl
  abstentions := by
    show (ballots.filter (·.isAbstention)).length = _
    congr 1
    apply List.filter_congr
    intro ballot _
    rw [ApprovalBallotPayload.isAbstention, Bool.eq_iff_iff, decide_eq_true_iff, List.isEmpty_iff]
  sum := sum_approvals hknown
  leadingResult := ApprovalTally.isLeadingResult _

/-- The tally as it is defined does not depend on the order of the ballots. -/
theorem approvalTallyOf_congr {ballots' : List ApprovalBallotPayload} (h : ballots.Perm ballots') :
    approvalTallyOf candidates ballots = approvalTallyOf candidates ballots' := by
  rw [approvalTallyOf, approvalTallyOf, h.length_eq, (h.filter _).length_eq]
  congr 1
  apply List.map_congr_left
  intro candidate _
  rw [(h.filter _).length_eq]

/-- As many ballots as are tallied fit the counter. -/
theorem length_lt_of_fromBallots {tally : ApprovalTally}
    (h : ApprovalTally.fromBallots candidates ballots = .ok tally) : ballots.length < 2 ^ 64 := by
  induction ballots using List.reverseRecOn generalizing tally with
  | nil => exact Nat.two_pow_pos 64
  | append_singleton ballots ballot _ =>
    rw [ApprovalTally.fromBallots, List.foldlM_append] at h
    obtain ⟨before, hbefore, hlast⟩ := bind_eq_ok.mp h
    have hcounted := ApprovalTally.eq_of_fromBallots hbefore
    rw [List.foldlM_cons] at hlast
    obtain ⟨after, hafter, -⟩ := bind_eq_ok.mp hlast
    obtain ⟨accepted, haccepted, -⟩ := bind_eq_ok.mp hafter
    unfold checkedIncrement at haccepted
    split at haccepted
    · next hlt =>
      rw [hcounted] at hlt
      rw [List.length_append, List.length_singleton]
      exact hlt
    · cases haccepted

end TallyOf

/-- Valid ballots are tallied exactly when there are fewer than 2^64 of them. Their tally says what
it should and does not depend on their order. -/
theorem fromBallots_isTallyOf (candidates : CandidateSet) (limits : ApprovalLimits)
    (ballots : List ApprovalBallotPayload)
    (hvalid : ∀ ballot ∈ ballots, ∃ selections,
      ApprovalBallotPayload.new selections candidates limits = .ok ballot) :
    ((∃ tally, ApprovalTally.fromBallots candidates ballots = .ok tally) ↔
      ballots.length < 2 ^ 64) ∧
    ∀ tally, ApprovalTally.fromBallots candidates ballots = .ok tally →
      IsTallyOf candidates ballots tally ∧
      ∀ ballots' : List ApprovalBallotPayload, ballots.Perm ballots' →
        ApprovalTally.fromBallots candidates ballots' = .ok tally := by
  have hknown : ∀ ballot ∈ ballots, ∀ id ∈ ballot.selections, candidates.contains id = true := by
    intro ballot hballot
    obtain ⟨selections, hnew⟩ := hvalid ballot hballot
    exact ApprovalBallotPayload.mem_candidates_of_new hnew
  refine ⟨⟨?_, fun hlength ↦ ApprovalTally.exists_fromBallots hlength hknown⟩, ?_⟩
  · rintro ⟨tally, htally⟩
    exact length_lt_of_fromBallots htally
  · intro tally htally
    have hcounted := ApprovalTally.eq_of_fromBallots htally
    refine ⟨?_, ?_⟩
    · rw [hcounted]
      exact isTallyOf_approvalTallyOf hknown
    · intro ballots' hperm
      have hknown' : ∀ ballot ∈ ballots', ∀ id ∈ ballot.selections,
          candidates.contains id = true :=
        fun ballot hballot ↦ hknown ballot (hperm.mem_iff.mpr hballot)
      obtain ⟨tally', htally'⟩ := ApprovalTally.exists_fromBallots
        (hperm.length_eq ▸ length_lt_of_fromBallots htally) hknown'
      rw [htally', ApprovalTally.eq_of_fromBallots htally', hcounted, approvalTallyOf_congr hperm]

/-! ### Three ballots, and too many -/

namespace Sample

open PrivateBallot.Ballot.Sample

theorem ne_nil_one : ([1] : Bytes) ≠ [] := by decide

theorem length_one : ([1] : Bytes).length ≤ maxCandidateIdBytes := by decide

theorem ne_nil_two : ([2] : Bytes) ≠ [] := by decide

theorem length_two : ([2] : Bytes).length ≤ maxCandidateIdBytes := by decide

def one : CandidateId := ⟨[1], ne_nil_one, length_one⟩
def two : CandidateId := ⟨[2], ne_nil_two, length_two⟩

theorem ascending_nil : Ascending CandidateId.toBytes [] := List.Pairwise.nil

/-- Up to both candidates, or nobody. -/
def limits : ApprovalLimits := ⟨1, 2, true, by decide⟩

/-- The first candidate, both, and nobody. -/
def ballots : List ApprovalBallotPayload :=
  [⟨[one], by simp [Ascending]⟩, ⟨[one, two], by unfold Ascending; decide⟩,
    ⟨[], ascending_nil⟩]

theorem valid_ballots : ∀ ballot ∈ ballots, ∃ selections,
    ApprovalBallotPayload.new selections pair limits = .ok ballot := by
  intro ballot hballot
  refine ⟨ballot.selections, ?_⟩
  revert ballot
  decide +kernel

/-- More abstentions than a counter can hold. -/
def tooMany : List ApprovalBallotPayload := List.replicate (2 ^ 64) ⟨[], ascending_nil⟩

theorem valid_tooMany : ∀ ballot ∈ tooMany, ∃ selections,
    ApprovalBallotPayload.new selections pair limits = .ok ballot := by
  intro ballot hballot
  rw [List.eq_of_mem_replicate hballot]
  exact ⟨[], by decide +kernel⟩

end Sample

/-- The three ballots are tallied, and the first candidate leads. -/
theorem fromBallots_isTallyOf_sample :
    ∃ tally, ApprovalTally.fromBallots Ballot.Sample.pair Sample.ballots = .ok tally ∧
      IsTallyOf Ballot.Sample.pair Sample.ballots tally := by
  obtain ⟨hiff, htally⟩ := fromBallots_isTallyOf Ballot.Sample.pair Sample.limits Sample.ballots
    Sample.valid_ballots
  obtain ⟨tally, hok⟩ := hiff.mpr (by decide)
  exact ⟨tally, hok, (htally tally hok).1⟩

/-- A list of 2^64 valid ballots is not tallied. -/
theorem not_fromBallots_of_every_list :
    ¬ ∀ (candidates : CandidateSet) (limits : ApprovalLimits)
      (ballots : List ApprovalBallotPayload),
      (∀ ballot ∈ ballots, ∃ selections,
        ApprovalBallotPayload.new selections candidates limits = .ok ballot) →
      ∃ tally, ApprovalTally.fromBallots candidates ballots = .ok tally := by
  intro h
  obtain ⟨tally, htally⟩ := h Ballot.Sample.pair Sample.limits Sample.tooMany Sample.valid_tooMany
  have hlength := length_lt_of_fromBallots htally
  rw [Sample.tooMany, List.length_replicate] at hlength
  exact Nat.lt_irrefl _ hlength

end PrivateBallot.Tally
