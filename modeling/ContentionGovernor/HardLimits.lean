import ContentionGovernor.Authorization

/-!
# Hard limits of a workload policy

The policy of a workload limits the degradation and the cost that an action may impose on
it.  Feasibility is a switch over the classes, and compares no modelled effect with a limit.
-/

namespace ContentionGovernor

/-! ## Limits -/

/-- The candidate's effect model is within the limits, which are compared as rationals. -/
structure RespectsLimits (wp : WorkloadPolicy) (cand : InterventionCandidate) : Prop where
  floor : cand.expectedNeighborDegradation.toRat ≤ 1 - wp.hardSloFloor.toRat
  tolerated : cand.expectedNeighborDegradation.toRat ≤ wp.maxDegradationTolerated.toRat
  cost : 0 < wp.costCeiling.toRat → cand.expectedCost.toRat ≤ wp.costCeiling.toRat

instance (wp : WorkloadPolicy) (cand : InterventionCandidate) :
    Decidable (RespectsLimits wp cand) :=
  decidable_of_iff
    (cand.expectedNeighborDegradation.toRat ≤ 1 - wp.hardSloFloor.toRat ∧
      cand.expectedNeighborDegradation.toRat ≤ wp.maxDegradationTolerated.toRat ∧
      (0 < wp.costCeiling.toRat → cand.expectedCost.toRat ≤ wp.costCeiling.toRat))
    ⟨fun h => ⟨h.1, h.2.1, h.2.2⟩, fun h => ⟨h.floor, h.tolerated, h.cost⟩⟩

/-- The limits of the candidate's target. -/
def WithinLimits (p : ContentionPolicy) (cand : InterventionCandidate) : Prop :=
  RespectsLimits (workloadPolicyFor p cand.target) cand

instance (p : ContentionPolicy) (cand : InterventionCandidate) :
    Decidable (WithinLimits p cand) := inferInstanceAs (Decidable (RespectsLimits _ _))

/-- What is feasible, decided or authorized on a conflict is within the limits. -/
structure HardLimitsDominate (s : GovernorState) (id : ConflictId) : Prop where
  candidates : ∀ cand ∈ (evaluate id s).candidates, cand.feasible = .feasible →
    WithinLimits s.engine.policy cand
  decision : ∀ d, (evaluate id s).decision = some d → WithinLimits s.engine.policy d.chosen
  authorized : ∀ cls now iid s', authorize id cls now s = .ok (some iid, s') →
    ∃ r, s'.engine.interventions.find iid = some r ∧
      WithinLimits s.engine.policy (defaultEffect r.cls r.target)

/-- A lighter effect is within the limits that a heavier one is within. -/
theorem RespectsLimits.of_le {wp : WorkloadPolicy} {cand heavier : InterventionCandidate}
    (h : RespectsLimits wp heavier)
    (hdegradation : cand.expectedNeighborDegradation.toRat ≤
      heavier.expectedNeighborDegradation.toRat)
    (hcost : cand.expectedCost.toRat ≤ heavier.expectedCost.toRat) : RespectsLimits wp cand where
  floor := hdegradation.trans h.floor
  tolerated := hdegradation.trans h.tolerated
  cost := fun hceiling => hcost.trans (h.cost hceiling)

/-- Of all classes but preemption, shedding low-value work degrades its target most. -/
theorem shed_heaviest {wp : WorkloadPolicy} {cls : InterventionClass} {target : WorkloadId}
    (hcls : cls ≠ .requestPreemption)
    (h : RespectsLimits wp (defaultEffect .shedLowValueWork target)) :
    RespectsLimits wp (defaultEffect cls target) := by
  have hdegradation : (effectModel cls).2.1.toRat ≤
      (effectModel .shedLowValueWork).2.1.toRat := by
    cases cls <;> first | exact absurd rfl hcls | decide +kernel
  have hcost : (0.1 * (effectModel cls).2.1 : Double).toRat ≤
      (0.1 * (effectModel .shedLowValueWork).2.1 : Double).toRat := by
    cases cls <;> first | exact absurd rfl hcls | decide +kernel
  exact h.of_le hdegradation hcost

/-! ## Targets -/

/-- An evaluation of the conflict reaches its candidates: the first usable record passes the
gate on disruptive action, and the conflict is at the threshold. -/
structure BuildsCandidates (s : EngineState) (id : ConflictId) (c : ContentionConflict)
    (primary : InterferenceEvidence) : Prop where
  conflict : s.conflicts.find id = some c
  evidence : (currentEvidence s c).head? = some primary
  magnitude : ¬c.degradation < s.policy.actionabilityThreshold
  gate : disruptiveRejections s.policy primary = []

/-- The workload can be acted on: it is registered with a generation and a boot, and below
the cap of consecutive interventions. -/
structure Targetable (s : EngineState) (target : WorkloadId) : Prop where
  generation : (s.authority.workloadGenerations.find target).isSome
  boot : (s.authority.workloadBoots.find target).isSome
  fairness : fairnessRefusals s target = []

/-- The flags of the policy allow a preemption of the workload. -/
structure MayPreempt (p : ContentionPolicy) (wp : WorkloadPolicy) : Prop where
  preemptible : ¬wp.nonPreemptible
  workload : wp.preemptionAllowed
  policy : p.preemptionAllowed

theorem mayPreempt_iff {p : ContentionPolicy} {wp : WorkloadPolicy} :
    MayPreempt p wp ↔ policyRefusals p wp .requestPreemption = [] := by
  constructor
  · intro h
    simp [policyRefusals, h.preemptible, h.workload, h.policy]
  · intro h
    refine ⟨?_, ?_, ?_⟩
    · intro hnon
      simp [policyRefusals, hnon] at h
    · by_contra hdisabled
      simp [policyRefusals, hdisabled] at h
    · by_contra hdisabled
      simp [policyRefusals, hdisabled] at h

/-- A fence made from the authority in force is fresh exactly for a registered workload. -/
theorem revalidate_makeFence {s : EngineState} {cg : ConflictGeneration}
    {eg : InterferenceEvidenceGeneration} {target : WorkloadId} {ig : InterventionGeneration} :
    (revalidate s (makeFence s.authority cg eg target ig) target).isOk ↔
      (s.authority.workloadGenerations.find target).isSome ∧
        (s.authority.workloadBoots.find target).isSome := by
  cases hgeneration : s.authority.workloadGenerations.find target <;>
    cases hboot : s.authority.workloadBoots.find target <;>
    simp [revalidate, makeFence, hgeneration, hboot, Status.bad, Status.good, Status.isOk]

theorem feasible_makeFence {s : EngineState} {cg : ConflictGeneration}
    {eg : InterferenceEvidenceGeneration} {target : WorkloadId} {cls : InterventionClass}
    {ig : InterventionGeneration} :
    (checkFeasibility s target cls (makeFence s.authority cg eg target ig)).status = .feasible ↔
      Targetable s target ∧ policyRefusals s.policy (workloadPolicyFor s.policy target) cls = [] := by
  rw [feasible_iff, revalidate_makeFence]
  constructor
  · rintro ⟨⟨hgeneration, hboot⟩, hrefusals, hfairness⟩
    exact ⟨⟨hgeneration, hboot, hfairness⟩, hrefusals⟩
  · rintro ⟨htarget, hrefusals⟩
    exact ⟨⟨htarget.generation, htarget.boot⟩, hrefusals, htarget.fairness⟩

/-- Every target that an evaluation can reach has room for the heaviest class it can be
given: shedding always, and preemption where the flags allow it. -/
def LimitsLeaveRoom (s : GovernorState) (id : ConflictId) : Prop :=
  ∀ c primary, BuildsCandidates s.engine id c primary → ∀ target ∈ c.associated,
    Targetable s.engine target →
    WithinLimits s.engine.policy (defaultEffect .shedLowValueWork target) ∧
    (MayPreempt s.engine.policy (workloadPolicyFor s.engine.policy target) →
      WithinLimits s.engine.policy (defaultEffect .requestPreemption target))

/-! ## Candidates -/

theorem evaluate_of_builds {s : EngineState} {id : ConflictId} {c : ContentionConflict}
    {primary : InterferenceEvidence} (h : BuildsCandidates s id c primary)
    (hassociated : c.associated ≠ []) :
    (evaluateConflict s id s.authority).candidates =
      buildCandidates s s.authority c primary (c.associated.insertionSort (· ≤ ·)) := by
  obtain ⟨rest, hcurrent⟩ := List.head?_eq_some_iff.mp h.evidence
  unfold evaluateConflict
  rw [h.conflict]
  dsimp only
  rw [hcurrent]
  dsimp only
  rw [if_neg h.magnitude, if_neg hassociated, if_neg (not_not.mpr h.gate), evaluateCandidates]
  dsimp only
  split <;> rfl

/-- What is decided has built its candidates. -/
theorem Decided.builds {s : EngineState} {id : ConflictId} {ctx : AuthorityContext}
    {c : ContentionConflict} {primary : InterferenceEvidence} {d : InterventionDecision}
    (h : Decided s id ctx c primary d) : BuildsCandidates s id c primary :=
  ⟨h.conflict, h.evidence, h.magnitude, h.gate⟩

/-- A class that the switch permits on a target with room is within the limits there. -/
theorem LimitsLeaveRoom.within {s : GovernorState} {id : ConflictId} {c : ContentionConflict}
    {primary : InterferenceEvidence} {target : WorkloadId} {cls : InterventionClass}
    (h : LimitsLeaveRoom s id) (hbuilds : BuildsCandidates s.engine id c primary)
    (hmem : target ∈ c.associated) (htarget : Targetable s.engine target)
    (hrefusals : policyRefusals s.engine.policy (workloadPolicyFor s.engine.policy target) cls =
      []) : WithinLimits s.engine.policy (defaultEffect cls target) := by
  obtain ⟨hshed, hpreempt⟩ := h c primary hbuilds target hmem htarget
  by_cases hcls : cls = .requestPreemption
  · subst hcls
    exact hpreempt (mayPreempt_iff.mpr hrefusals)
  · exact shed_heaviest hcls hshed

theorem candidates_within {s : GovernorState} {id : ConflictId} (h : LimitsLeaveRoom s id) :
    ∀ cand ∈ (evaluate id s).candidates, cand.feasible = .feasible →
      WithinLimits s.engine.policy cand := by
  intro cand hmem hfeasible
  rcases evaluateConflict_cases s.engine id s.engine.authority with
    ⟨-, hnone⟩ | ⟨c, primary, d, -, hcands, hdec⟩
  · -- Without a decision no candidate is feasible.
    have hin : cand ∈ feasibleCandidates (evaluate id s).candidates :=
      List.mem_filter.mpr ⟨hmem, decide_eq_true hfeasible⟩
    have hempty : feasibleCandidates (evaluate id s).candidates = [] := hnone
    rw [hempty] at hin
    cases hin
  · have hcands : (evaluate id s).candidates = _ := hcands
    rw [hcands] at hmem
    obtain ⟨target, htarget, cls, -, -, rfl⟩ := mem_buildCandidates hmem
    obtain ⟨htargetable, hrefusals⟩ := feasible_makeFence.mp hfeasible
    have hassociated := (List.mem_insertionSort _).mp htarget
    obtain ⟨hfloor, htolerated, hcost⟩ := h.within hdec.builds hassociated htargetable hrefusals
    exact ⟨hfloor, htolerated, hcost⟩

theorem authorized_within {s : GovernorState} {id : ConflictId} (h : LimitsLeaveRoom s id)
    {cls : InterventionClass} {now : TimeMs} {g : Grant} (hg : Granted s id cls now g) :
    WithinLimits s.engine.policy (defaultEffect g.cls g.target) := by
  obtain ⟨d, hfollows⟩ := hg.follows
  obtain ⟨c, primary, hdec, -⟩ := decided_of_decision hfollows.decision
  have hmem : g.target ∈ c.associated := by
    rw [hfollows.target]
    exact hdec.target_mem
  obtain ⟨generation, -, hfence⟩ := hg.fence
  have hfeasible := hg.feasible
  rw [hfence] at hfeasible
  obtain ⟨htargetable, hrefusals⟩ := feasible_makeFence.mp hfeasible
  exact h.within hdec.builds hmem htargetable hrefusals

/-- A permitted class is a feasible candidate on every target that can be acted on. -/
theorem within_of_candidates {s : GovernorState} {id : ConflictId} {c : ContentionConflict}
    {primary : InterferenceEvidence} {target : WorkloadId} {cls : InterventionClass}
    (h : ∀ cand ∈ (evaluate id s).candidates, cand.feasible = .feasible →
      WithinLimits s.engine.policy cand) (hbuilds : BuildsCandidates s.engine id c primary)
    (hmem : target ∈ c.associated) (htarget : Targetable s.engine target)
    (hlisted : cls ∈ eligibleClasses) (heligible : classEligible s.engine.policy cls)
    (hrefusals : policyRefusals s.engine.policy (workloadPolicyFor s.engine.policy target) cls =
      []) : WithinLimits s.engine.policy (defaultEffect cls target) := by
  have hcands : (evaluate id s).candidates = _ :=
    evaluate_of_builds hbuilds (List.ne_nil_of_mem hmem)
  have hin : buildCandidate s.engine s.engine.authority c primary target cls ∈
      (evaluate id s).candidates := by
    rw [hcands]
    exact mem_buildCandidates_of ((List.mem_insertionSort _).mpr hmem) hlisted heligible
  obtain ⟨hfloor, htolerated, hcost⟩ := h _ hin (feasible_makeFence.mpr ⟨htarget, hrefusals⟩)
  exact ⟨hfloor, htolerated, hcost⟩

/-- In every state, what is feasible, decided or authorized on a conflict is within the hard
limits of its target exactly when the limits of every reachable target leave room for the
heaviest class it can be given. -/
theorem hard_limits_dominate_iff (s : GovernorState) (id : ConflictId) :
    HardLimitsDominate s id ↔ LimitsLeaveRoom s id := by
  constructor
  · intro h c primary hbuilds target hmem htarget
    constructor
    · exact within_of_candidates h.candidates hbuilds hmem htarget (by decide) rfl rfl
    · intro hpreempt
      exact within_of_candidates h.candidates hbuilds hmem htarget (by decide) hpreempt.policy
        (mayPreempt_iff.mp hpreempt)
  · intro h
    refine ⟨candidates_within h, ?_, ?_⟩
    · intro d hd
      obtain ⟨c, primary, hdec, hcands⟩ := decided_of_decision hd
      have hmem : d.chosen ∈ (evaluate id s).candidates := by
        have hcands : (evaluate id s).candidates = _ := hcands
        rw [hcands]
        exact hdec.chosen
      exact candidates_within h d.chosen hmem hdec.feasible
    · intro cls now iid s' hauth
      obtain ⟨g, hg, rfl, rfl⟩ := granted_of_authorize hauth
      exact ⟨_, OrderedMap.find_insert_self .., authorized_within h hg⟩

/-- Nine tenths of the service of workload 2 must remain. -/
def highFloor : ContentionPolicy where
  workloads := OrderedMap.empty.insert ⟨2⟩ { workload := ⟨2⟩, hardSloFloor := 0.9 }

/-- A throttle of workload 2 is feasible all the same, and takes more than a tenth. -/
theorem throttle_exceeds_floor :
    ¬∀ ops s id, Runs.exec step {} ops = some s → HardLimitsDominate s id := by
  intro h
  let ops : List Op := [.setPolicy highFloor] ++ registerNeighbor ++ [.ingestEvidence slowdown]
  have hlimits := (h ops _ ⟨1⟩ (exec_reached (by decide +kernel))).candidates
  have hthrottle : ∃ cand ∈ (evaluate ⟨1⟩ (reached ops)).candidates,
      cand.cls = .throttle ∧ cand.feasible = .feasible ∧
        ¬WithinLimits (reached ops).engine.policy cand := by decide +kernel
  obtain ⟨cand, hmem, -, hfeasible, hover⟩ := hthrottle
  exact hover (hlimits cand hmem hfeasible)

end ContentionGovernor
