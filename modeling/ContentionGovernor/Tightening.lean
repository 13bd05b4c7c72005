import ContentionGovernor.Choice

/-!
# Stricter policies

A policy that asks for more and allows less offers less: what is still feasible under it
was feasible before, what it decides was one of the choices, and what it grants could have
been asked for by name.
-/

namespace ContentionGovernor

/-! ## The order of policies -/

/-- The second policy of a workload allows no more than the first, and values it the same. -/
structure TighterWorkload (wp wp' : WorkloadPolicy) : Prop where
  value : wp'.value = wp.value
  floor : wp.hardSloFloor ≤ wp'.hardSloFloor
  preemptible : wp.nonPreemptible → wp'.nonPreemptible
  preemption : wp'.preemptionAllowed → wp.preemptionAllowed
  throttling : wp'.throttlingAllowed → wp.throttlingAllowed
  deferral : wp'.deferralAllowed → wp.deferralAllowed
  placement : wp'.placementChangeAllowed → wp.placementChangeAllowed
  bandwidth : wp'.bandwidthRequestAllowed → wp.bandwidthRequestAllowed
  collective : wp'.collectiveSchedulingAllowed → wp.collectiveSchedulingAllowed
  migration : wp'.migrationAllowed → wp.migrationAllowed

/-- The second policy asks for at least as much evidence, rest and room in the budget, and
allows no more. -/
structure Tighter (p p' : ContentionPolicy) : Prop where
  threshold : p.actionabilityThreshold ≤ p'.actionabilityThreshold
  attribution : ¬p'.minAttributionForDisruptive < p.minAttributionForDisruptive
  confidence : p.minConfidenceForDisruptive ≤ p'.minConfidenceForDisruptive
  consecutive : p'.maxConsecutiveInterventionsPerWorkload ≤
    p.maxConsecutiveInterventionsPerWorkload
  cooldown : p.cooldownMs ≤ p'.cooldownMs
  budget : ∀ cls, budgetExhausted p.budget cls → budgetExhausted p'.budget cls
  workloads : ∀ w, TighterWorkload (workloadPolicyFor p w) (workloadPolicyFor p' w)
  preemption : p'.preemptionAllowed → p.preemptionAllowed
  migration : p'.migrationAllowed → p.migrationAllowed
  placement : p'.placementChangeAllowed → p.placementChangeAllowed
  bandwidth : p'.bandwidthRequestAllowed → p.bandwidthRequestAllowed
  collective : p'.collectiveSchedulingAllowed → p.collectiveSchedulingAllowed
  admission : p'.admissionRestrictionAllowed → p.admissionRestrictionAllowed
  throttle : p'.throttleAllowed → p.throttleAllowed

section Policies

variable {p p' : ContentionPolicy} (h : Tighter p p')
include h

theorem Tighter.classEligible {cls : InterventionClass} (hcls : classEligible p' cls) :
    classEligible p cls := by
  cases cls <;> first
    | rfl
    | exact h.throttle hcls
    | exact h.preemption hcls
    | exact h.migration hcls
    | exact h.placement hcls
    | exact h.admission hcls
    | exact Bool.or_eq_true_iff.mpr
        ((Bool.or_eq_true_iff.mp hcls).imp h.bandwidth h.collective)

/-- What a flag or a floor of the looser policy refuses, the stricter one refuses too. -/
theorem Tighter.policyRefusals (w : WorkloadId) {cls : InterventionClass}
    (hnone : policyRefusals p' (workloadPolicyFor p' w) cls = []) :
    policyRefusals p (workloadPolicyFor p w) cls = [] := by
  have hw := h.workloads w
  have hfloor : (1.0 - 1e-9 : Double) ≤ (workloadPolicyFor p w).hardSloFloor →
      (1.0 - 1e-9 : Double) ≤ (workloadPolicyFor p' w).hardSloFloor :=
    fun hle => Binary64.le_trans hle hw.floor
  have hflags : ∀ {a a' b b' : Bool}, (a' → a) → (b' → b) → ¬(¬a' ∨ ¬b') → ¬(¬a ∨ ¬b) := by
    intro a a' b b' ha hb hnot
    rw [not_or, not_not, not_not] at hnot ⊢
    exact ⟨ha hnot.1, hb hnot.2⟩
  have hdrop : ∀ {α : Type} {c : Prop} [Decidable c] {message : α},
      (if c then [message] else []) = [] ↔ ¬c := by
    intro α c _ message
    split_ifs with hc <;> simp [hc]
  unfold ContentionGovernor.policyRefusals at hnone ⊢
  -- One goal for each group of classes that the same flags and floor decide.
  cases cls <;> simp only [bind_pure_comp, List.map_eq_map, List.map_eq_nil_iff,
    List.append_eq_nil_iff, hdrop] at hnone ⊢
  case throttle | reduceConcurrency | reduceBatch | serialize | timeSlice
      | reduceMemoryPressure =>
    exact ⟨hflags hw.throttling h.throttle hnone.1, fun hle => hnone.2 (hfloor hle)⟩
  case requestPreemption | requestReplacement =>
    exact ⟨fun hfixed => hnone.1 (hw.preemptible hfixed),
      hflags hw.preemption h.preemption hnone.2⟩
  case requestMigration =>
    exact ⟨fun hfixed => hnone.1 (hw.preemptible hfixed),
      hflags hw.migration h.migration hnone.2⟩
  case deferNewWork => exact hflags hw.deferral h.admission hnone
  case changePlacement => exact hflags hw.placement h.placement hnone
  case requestBandwidthReallocation => exact hflags hw.bandwidth h.bandwidth hnone
  case requestCommunicationReplan => exact fun hnot => hnot (h.bandwidth (not_not.mp hnone))
  case requestCollectiveReschedule => exact hflags hw.collective h.collective hnone

/-- Evidence that lets the stricter policy act lets the looser one act. -/
theorem Tighter.gate {primary : InterferenceEvidence}
    (hgate : disruptiveRejections p' primary = []) : disruptiveRejections p primary = [] := by
  obtain ⟨hattribution, hconfidence, hconfounders⟩ := gate_open hgate
  have hminimum : ¬primary.attribution < p.minAttributionForDisruptive := by
    have hraised := UInt8.not_lt.mp h.attribution
    exact UInt8.not_lt.mpr (UInt8.le_trans hraised (UInt8.not_lt.mp hattribution))
  have hbelow : ¬primary.confidence < p.minConfidenceForDisruptive :=
    fun hlt => hconfidence (Binary64.lt_of_lt_of_le hlt h.confidence)
  unfold disruptiveRejections
  rw [if_neg hminimum, if_neg hbelow, if_neg (not_not.mpr hconfounders)]
  rfl

theorem Tighter.magnitude {degradation : Double}
    (hreached : ¬degradation < p'.actionabilityThreshold) :
    ¬degradation < p.actionabilityThreshold :=
  fun hlt => hreached (Binary64.lt_of_lt_of_le hlt h.threshold)

/-- The ranking reads only the values of the policy, which are the same. -/
theorem Tighter.rankKey_eq (cand : InterventionCandidate) :
    rankKey p' cand = rankKey p cand := by
  unfold rankKey
  rw [(h.workloads cand.target).value]

theorem Tighter.finiteValues (hvalues : FiniteValues p') : FiniteValues p := by
  intro w wp hw
  have hvalue := (h.workloads w).value
  unfold workloadPolicyFor at hvalue
  rw [hw] at hvalue
  rw [← hvalue]
  cases hw' : p'.workloads.find w with
  | none =>
    change (0.0 : Double).isFinite
    decide +kernel
  | some wp' => exact hvalues w wp' hw'

end Policies

/-! ## The state under the stricter policy -/

@[simp] theorem withPolicy_policy (s : EngineState) (p : ContentionPolicy) :
    (withPolicy s p).policy = p := rfl

@[simp] theorem withPolicy_fairness (s : EngineState) (p : ContentionPolicy) :
    (withPolicy s p).fairness = s.fairness := rfl

theorem checkFeasibility_feasible {s : EngineState} {w : WorkloadId} {cls : InterventionClass}
    {f : Fence} (h : (checkFeasibility s w cls f).status = .feasible) :
    checkFeasibility s w cls f = ⟨.feasible, []⟩ := by
  obtain ⟨hvalid, hpolicy, hfairness⟩ := feasible_iff.mp h
  unfold checkFeasibility
  dsimp only
  rw [if_neg (not_not.mpr hvalid), hpolicy, hfairness]
  rfl

section Engine

variable {s : EngineState} {p : ContentionPolicy} (h : Tighter s.policy p)
include h

theorem Tighter.targetable {w : WorkloadId} (hw : Targetable (withPolicy s p) w) :
    Targetable s w := by
  refine ⟨hw.generation, hw.boot, ?_⟩
  have hnone := hw.fairness
  unfold fairnessRefusals at hnone ⊢
  rw [withPolicy_fairness, withPolicy_policy] at hnone
  cases hfr : s.fairness.find w with
  | none => rfl
  | some fr =>
    rw [hfr] at hnone
    dsimp only at hnone ⊢
    have hroom : ¬p.maxConsecutiveInterventionsPerWorkload ≤ fr.consecutiveInterventions := by
      intro hle
      rw [if_pos hle] at hnone
      cases hnone
    exact if_neg fun hle => hroom (UInt32.le_trans h.consecutive hle)

/-- What is feasible under a fence of the stricter policy is so under one of the looser. -/
theorem Tighter.feasible {cg : ConflictGeneration} {eg : InterferenceEvidenceGeneration}
    {w : WorkloadId} {cls : InterventionClass} {ig : InterventionGeneration}
    (hfeasible : (checkFeasibility (withPolicy s p) w cls
      (makeFence (withPolicy s p).authority cg eg w ig)).status = .feasible) :
    (checkFeasibility s w cls (makeFence s.authority cg eg w ig)).status = .feasible := by
  obtain ⟨htarget, hrefusals⟩ := feasible_makeFence.mp hfeasible
  exact feasible_makeFence.mpr ⟨h.targetable htarget, h.policyRefusals w hrefusals⟩

/-- A candidate that is feasible under the stricter policy is the same under the looser. -/
theorem Tighter.buildCandidate {c : ContentionConflict} {primary : InterferenceEvidence}
    {w : WorkloadId} {cls : InterventionClass}
    (hfeasible : (buildCandidate (withPolicy s p) (withPolicy s p).authority c primary w
      cls).feasible = .feasible) :
    buildCandidate s s.authority c primary w cls =
      buildCandidate (withPolicy s p) (withPolicy s p).authority c primary w cls := by
  have hloose := checkFeasibility_feasible (h.feasible hfeasible)
  have hstrict := checkFeasibility_feasible hfeasible
  unfold ContentionGovernor.buildCandidate
  dsimp only
  rw [hloose, hstrict]

/-- A target that rests under the looser policy rests under the stricter. -/
theorem Tighter.inCooldown {w : WorkloadId} {cls : InterventionClass} {now : TimeMs}
    (hrecent : inCooldown s w cls now) : inCooldown (withPolicy s p) w cls now := by
  unfold ContentionGovernor.inCooldown at hrecent ⊢
  rw [withPolicy_fairness, withPolicy_policy]
  cases hfr : s.fairness.find w with
  | none =>
    rw [hfr] at hrecent
    exact hrecent
  | some fr =>
    rw [hfr] at hrecent
    simp only [Bool.and_eq_true, decide_eq_true_eq] at hrecent ⊢
    obtain ⟨hdisruptive, hbefore, hsoon⟩ := hrecent
    exact ⟨hdisruptive, hbefore, UInt64.lt_of_lt_of_le hsoon h.cooldown⟩

theorem Tighter.reaches {id : ConflictId} {c : ContentionConflict}
    {primary : InterferenceEvidence} (hreaches : ReachesCandidates (withPolicy s p) id c primary) :
    ReachesCandidates s id c primary where
  conflict := hreaches.conflict
  evidence := hreaches.evidence
  magnitude := h.magnitude hreaches.magnitude
  associated := hreaches.associated
  gate := h.gate hreaches.gate

/-- The feasible candidates under the stricter policy are candidates under the looser. -/
theorem Tighter.offers {id : ConflictId} {cand : InterventionCandidate}
    (hmem : cand ∈ (evaluateConflict (withPolicy s p) id (withPolicy s p).authority).candidates)
    (hfeasible : cand.feasible = .feasible) :
    cand ∈ (evaluateConflict s id s.authority).candidates := by
  obtain ⟨d, hd⟩ := decides_iff.mpr ⟨cand, hmem, hfeasible⟩
  obtain ⟨c, primary, hdec, hcands⟩ := decided_of_decision hd
  rw [hcands] at hmem
  obtain ⟨w, hw, cls, hcls, heligible, rfl⟩ := mem_buildCandidates hmem
  rw [((h.reaches hdec.reaches).evaluation s.authority).1, ← h.buildCandidate hfeasible]
  exact mem_buildCandidates_of hw hcls (h.classEligible heligible)

end Engine

/-! ## What a stricter policy leaves -/

/-- The second state offers, decides and grants no more for the conflict than the first. -/
structure Narrows (s t : GovernorState) (id : ConflictId) : Prop where
  offers : ∀ cand ∈ (evaluate id t).candidates, cand.feasible = .feasible →
    cand ∈ (evaluate id s).candidates
  /-- What is decided was decided before, or gave way to a choice that is gone. -/
  decides : ∀ d', (evaluate id t).decision = some d' → ∃ d, (evaluate id s).decision = some d ∧
    rankKey s.engine.policy d.chosen ≤ rankKey s.engine.policy d'.chosen ∧
    (d.chosen ∈ (evaluate id t).candidates → d'.chosen = d.chosen)
  /-- What is granted may be asked for by name where the same workload is decided for. -/
  grants : ∀ cls now g, Granted t id cls now g → ∀ d, (evaluate id s).decision = some d →
    d.chosen.target = g.target → authorizes s id g.cls now

/-- NO_ACTION stands for the class of the choice, which is never NO_ACTION. -/
theorem Granted.cls_ne_noAction {s : GovernorState} {id : ConflictId} {cls : InterventionClass}
    {now : TimeMs} {g : Grant} (h : Granted s id cls now g) : g.cls ≠ .noAction := by
  obtain ⟨d, hfollows⟩ := h.follows
  obtain ⟨c, primary, hdec, -⟩ := decided_of_decision hfollows.decision
  obtain ⟨w, -, cls', hcls', -, hbuilt⟩ := mem_buildCandidates hdec.chosen
  rw [hfollows.cls]
  split_ifs with hrequested
  · exact hrequested
  · rw [hbuilt, buildCandidate_cls]
    exact ne_of_mem_of_not_mem hcls' (by decide)

section Narrowed

variable {s t : GovernorState} {p : ContentionPolicy} (h : Tighter s.engine.policy p)
  (ht : t.engine = withPolicy s.engine p)
include h ht

theorem Tighter.decides (hvalues : FiniteValues p) {id : ConflictId}
    {d' : InterventionDecision} (hd' : (evaluate id t).decision = some d') :
    ∃ d, (evaluate id s).decision = some d ∧
      rankKey s.engine.policy d.chosen ≤ rankKey s.engine.policy d'.chosen ∧
      (d.chosen ∈ (evaluate id t).candidates → d'.chosen = d.chosen) := by
  unfold evaluate at hd' ⊢
  rw [ht] at hd' ⊢
  obtain ⟨c, primary, hdec, hcands⟩ := decided_of_decision hd'
  have hmem : d'.chosen ∈ (evaluateConflict (withPolicy s.engine p) id
      (withPolicy s.engine p).authority).candidates := by
    rw [hcands]
    exact hdec.chosen
  have hoffered := h.offers hmem hdec.feasible
  obtain ⟨d, hd⟩ := decides_iff.mpr ⟨_, hoffered, hdec.feasible⟩
  have hleast := least_of_decision (h.reaches hdec.reaches) (h.finiteValues hvalues) hd _ hoffered
    hdec.feasible
  refine ⟨d, hd, hleast, fun hstill => ?_⟩
  obtain ⟨_, _, hfirst, -⟩ := decided_of_decision hd
  -- Each of the two choices is least where the other is a feasible candidate.
  have hback := least_of_decision hdec.reaches hvalues hd' _ hstill hfirst.feasible
  rw [withPolicy_policy, h.rankKey_eq, h.rankKey_eq] at hback
  rw [hcands] at hstill
  obtain ⟨w, -, cls, -, -, hbuilt⟩ := mem_buildCandidates hstill
  apply eq_of_rankKey hdec.chosen_built
  · rw [hbuilt]
    rfl
  · rw [withPolicy_policy, h.rankKey_eq, h.rankKey_eq]
    exact le_antisymm hback hleast

/-- The grant is made again with the fence of the looser policy. -/
theorem Tighter.grants {id : ConflictId} {cls : InterventionClass} {now : TimeMs} {g : Grant}
    (hg : Granted t id cls now g) {d : InterventionDecision}
    (hd : (evaluate id s).decision = some d) (htarget : d.chosen.target = g.target) :
    authorizes s id g.cls now := by
  obtain ⟨generation, hgeneration, hfence⟩ := hg.fence
  have hconflict := hg.conflict
  have hfeasible := hg.feasible
  have hbudget := hg.inBudget
  have hrested := hg.rested
  rw [hfence] at hfeasible
  rw [ht] at hconflict hgeneration hfeasible hbudget hrested
  have hpick : pickCandidate (evaluate id s) = some d.chosen := by
    rw [pickCandidate, hd]
  have hloose := h.feasible hfeasible
  apply authorizes_iff.mpr
  refine ⟨{ conflict := g.conflict, cls := g.cls, target := g.target, adapter := d.chosen.adapter
            fence := makeFence s.engine.authority g.conflict.generation generation g.target ⟨1⟩ },
    { conflict := hconflict
      picked := ⟨d.chosen, hpick, htarget.symm, ?_⟩
      fence := ⟨generation, hgeneration, rfl⟩
      valid := ?_
      feasible := hloose
      inBudget := ?_
      rested := ?_
      adapter := ?_ }⟩
  · exact (if_pos hg.cls_ne_noAction).symm
  · exact Status.isOk_iff.mp (feasible_iff.mp hloose).1
  · by_contra hrecent
    exact Bool.eq_false_iff.mp hrested (h.inCooldown (Bool.eq_true_of_not_eq_false hrecent))
  · rw [hd]
  · by_contra hexhausted
    exact Bool.eq_false_iff.mp hbudget (h.budget _ (Bool.eq_true_of_not_eq_false hexhausted))

end Narrowed

/-- An accepted policy that is stricter offers, decides and grants no more. -/
theorem stricter_policy (s : GovernorState) (p : ContentionPolicy)
    (h : Tighter s.engine.policy p) (hp : (validatePolicy p).isOk) (id : ConflictId) :
    Narrows s (setPolicy p s).2 id := by
  have ht := setPolicy_engine s hp
  refine ⟨?_, ?_, ?_⟩
  · intro cand hmem hfeasible
    unfold evaluate at hmem ⊢
    rw [ht] at hmem
    exact h.offers hmem hfeasible
  · intro d' hd'
    exact h.decides ht (finiteValues_of_valid hp) hd'
  · intro cls now g hg d hd htarget
    exact h.grants ht hg hd htarget

/-- No migration, a longer rest and evidence of higher confidence. -/
def guarded : ContentionPolicy :=
  { minConfidenceForDisruptive := 0.8, cooldownMs := 9000, migrationAllowed := false }

theorem tighter_guarded : Tighter {} guarded where
  threshold := by decide +kernel
  attribution := by decide
  confidence := by decide +kernel
  consecutive := by decide
  cooldown := by decide
  budget := by
    intro cls hexhausted
    exact hexhausted
  workloads := by
    intro w
    -- Neither names the workload, so both give it the default policy.
    have hloose : workloadPolicyFor {} w = { workload := w } := rfl
    have hstrict : workloadPolicyFor guarded w = { workload := w } := rfl
    rw [hloose, hstrict]
    have hzero : (0.0 : Double) ≤ 0.0 := by decide +kernel
    exact ⟨rfl, hzero, id, id, id, id, id, id, id, id⟩
  preemption := id
  migration := fun _ => rfl
  placement := id
  bandwidth := id
  collective := id
  admission := id
  throttle := id

theorem stricter_policy_guarded :
    Narrows (reached (registerNeighbor ++ [.ingestEvidence slowdown]))
      (setPolicy guarded (reached (registerNeighbor ++ [.ingestEvidence slowdown]))).2 ⟨1⟩ := by
  have hpolicy : (reached (registerNeighbor ++ [.ingestEvidence slowdown])).engine.policy = {} := by
    rfl
  apply stricter_policy
  · rw [hpolicy]
    exact tighter_guarded
  · decide +kernel

end ContentionGovernor
