import ContentionGovernor.Engine

/-!
# What an evaluation decides

The facts about the engine state behind a decision.
-/

namespace ContentionGovernor

theorem mem_currentEvidence {s : EngineState} {c : ContentionConflict}
    {e : InterferenceEvidence} (h : e ∈ currentEvidence s c) :
    ∃ eid ∈ c.evidenceIds, s.evidence.find eid = some e ∧ e.status = .current ∧
      structurallyValid e := by
  obtain ⟨eid, heid, he⟩ := List.mem_filterMap.mp h
  obtain ⟨hfind, hgood⟩ := Option.filter_eq_some_iff.mp he
  have hgood := of_decide_eq_true hgood
  exact ⟨eid, heid, hfind, hgood.1, hgood.2⟩

theorem mem_currentEvidence_of {s : EngineState} {c : ContentionConflict}
    {e : InterferenceEvidence} {eid : InterferenceEvidenceId} (heid : eid ∈ c.evidenceIds)
    (hfind : s.evidence.find eid = some e) (hcur : e.status = .current)
    (hvalid : structurallyValid e) : e ∈ currentEvidence s c := by
  refine List.mem_filterMap.mpr ⟨eid, heid, ?_⟩
  rw [hfind]
  exact Option.filter_eq_some_iff.mpr ⟨rfl, decide_eq_true ⟨hcur, hvalid⟩⟩

/-- What is feasible has a fresh fence, and is refused neither by the policy nor for
fairness. -/
theorem feasible_iff {s : EngineState} {target : WorkloadId} {cls : InterventionClass}
    {f : Fence} : (checkFeasibility s target cls f).status = .feasible ↔
      (revalidate s f target).isOk ∧
      policyRefusals s.policy (workloadPolicyFor s.policy target) cls = [] ∧
      fairnessRefusals s target = [] := by
  unfold checkFeasibility
  dsimp only
  by_cases hvalid : (revalidate s f target).isOk
  · rw [if_neg (not_not.mpr hvalid), and_iff_right hvalid, ← List.append_eq_nil_iff]
    split_ifs with hreasons
    · exact iff_of_true rfl hreasons
    · exact iff_of_false id hreasons
  · rw [if_pos hvalid]
    exact iff_of_false FeasibilityStatus.noConfusion fun h => hvalid h.1

/-! ## Candidates -/

theorem mem_buildCandidates {s : EngineState} {ctx : AuthorityContext} {c : ContentionConflict}
    {primary : InterferenceEvidence} {targets : List WorkloadId} {cand : InterventionCandidate}
    (h : cand ∈ buildCandidates s ctx c primary targets) :
    ∃ target ∈ targets, ∃ cls ∈ eligibleClasses, classEligible s.policy cls ∧
      cand = buildCandidate s ctx c primary target cls := by
  obtain ⟨target, htarget, h⟩ := List.mem_flatMap.mp h
  obtain ⟨cls, hcls, rfl⟩ := List.mem_map.mp h
  obtain ⟨hmem, helig⟩ := List.mem_filter.mp hcls
  exact ⟨target, htarget, cls, hmem, helig, rfl⟩

@[simp] theorem buildCandidate_target (s : EngineState) (ctx : AuthorityContext)
    (c : ContentionConflict) (primary : InterferenceEvidence) (target : WorkloadId)
    (cls : InterventionClass) : (buildCandidate s ctx c primary target cls).target = target := rfl

theorem mem_rank {p : ContentionPolicy} {cs : List InterventionCandidate}
    {cand : InterventionCandidate} : cand ∈ rank p cs ↔ cand ∈ cs :=
  (List.perm_insertionSort _ cs).mem_iff

theorem rank_eq_nil {p : ContentionPolicy} {cs : List InterventionCandidate} :
    rank p cs = [] ↔ cs = [] := by
  rw [rank, ← List.length_eq_zero_iff, (List.perm_insertionSort _ cs).length_eq,
    List.length_eq_zero_iff]

/-- A ranked decision is one of the feasible candidates. -/
theorem rankedDecision_some {p : ContentionPolicy} {cs : List InterventionCandidate}
    {d : InterventionDecision} (h : rankedDecision p cs = some d) :
    d.chosen ∈ cs ∧ d.chosen.feasible = .feasible := by
  obtain ⟨chosen, hhead, rfl⟩ := Option.map_eq_some_iff.mp h
  have hmem := mem_rank.mp (List.mem_of_head? hhead)
  obtain ⟨hcs, hfeasible⟩ := List.mem_filter.mp hmem
  exact ⟨hcs, of_decide_eq_true hfeasible⟩

theorem rankedDecision_none {p : ContentionPolicy} {cs : List InterventionCandidate}
    (h : rankedDecision p cs = none) : feasibleCandidates cs = [] := by
  rw [rankedDecision, Option.map_eq_none_iff, List.head?_eq_none_iff] at h
  exact rank_eq_nil.mp h

/-! ## Decisions -/

/-- The gates that an evaluation with a decision has passed. -/
structure Decided (s : EngineState) (id : ConflictId) (ctx : AuthorityContext)
    (c : ContentionConflict) (primary : InterferenceEvidence) (d : InterventionDecision) :
    Prop where
  conflict : s.conflicts.find id = some c
  evidence : (currentEvidence s c).head? = some primary
  magnitude : ¬c.degradation < s.policy.actionabilityThreshold
  gate : disruptiveRejections s.policy primary = []
  chosen : d.chosen ∈ buildCandidates s ctx c primary (c.associated.insertionSort (· ≤ ·))
  feasible : d.chosen.feasible = .feasible

/-- Without a decision an evaluation has no feasible candidate either. -/
theorem evaluateConflict_cases (s : EngineState) (id : ConflictId) (ctx : AuthorityContext) :
    ((evaluateConflict s id ctx).decision = none ∧
      feasibleCandidates (evaluateConflict s id ctx).candidates = []) ∨
    ∃ c primary d, (evaluateConflict s id ctx).decision = some d ∧
      (evaluateConflict s id ctx).candidates =
        buildCandidates s ctx c primary (c.associated.insertionSort (· ≤ ·)) ∧
      Decided s id ctx c primary d := by
  unfold evaluateConflict
  cases hc : s.conflicts.find id with
  | none => exact .inl ⟨rfl, rfl⟩
  | some c =>
    dsimp only
    cases hp : currentEvidence s c with
    | nil => exact .inl ⟨rfl, rfl⟩
    | cons primary rest =>
      dsimp only
      split_ifs with hmagnitude hassociated hgate
      · exact .inl ⟨rfl, rfl⟩
      · exact .inl ⟨rfl, rfl⟩
      · exact .inl ⟨rfl, rfl⟩
      · unfold evaluateCandidates
        dsimp only
        split
        · rename_i d hd
          obtain ⟨hmem, hfeasible⟩ := rankedDecision_some hd
          exact .inr ⟨c, primary, d, rfl, rfl, hc, by rw [hp]; rfl, hmagnitude, not_not.mp hgate,
            hmem, hfeasible⟩
        · rename_i hnone
          exact .inl ⟨rfl, rankedDecision_none hnone⟩

theorem decided_of_decision {s : EngineState} {id : ConflictId} {ctx : AuthorityContext}
    {d : InterventionDecision} (h : (evaluateConflict s id ctx).decision = some d) :
    ∃ c primary, Decided s id ctx c primary d ∧ (evaluateConflict s id ctx).candidates =
      buildCandidates s ctx c primary (c.associated.insertionSort (· ≤ ·)) := by
  rcases evaluateConflict_cases s id ctx with ⟨hnone, -⟩ | ⟨c, primary, d', hd', hcands, hdec⟩
  · rw [hnone] at h
    cases h
  · rw [hd'] at h
    cases h
    exact ⟨c, primary, hdec, hcands⟩

/-- The chosen target is one of the associated workloads. -/
theorem Decided.target_mem {s : EngineState} {id : ConflictId} {ctx : AuthorityContext}
    {c : ContentionConflict} {primary : InterferenceEvidence} {d : InterventionDecision}
    (h : Decided s id ctx c primary d) : d.chosen.target ∈ c.associated := by
  obtain ⟨target, htarget, cls, -, -, heq⟩ := mem_buildCandidates h.chosen
  rw [heq, buildCandidate_target]
  exact (List.mem_insertionSort _).mp htarget

end ContentionGovernor
