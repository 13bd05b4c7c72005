import ContentionGovernor.HardLimits
import ContentionGovernor.Ranking

/-!
# The choice for a conflict

Which actions the policy, the registrations and the fairness caps make available on the
workloads of a conflict.  The evaluation chooses the one that no other ranks before; so it
chooses the same one as long as that is available and nothing new ranks before it.
-/

namespace ContentionGovernor

/-- The action that is ranked first for a conflict. -/
def choice (s : GovernorState) (cid : ConflictId) : Option (InterventionClass × WorkloadId) :=
  (evaluate cid s).decision.map fun d => (d.chosen.cls, d.chosen.target)

/-- The conflict is at the threshold, and its first usable record opens the gate. -/
structure PassesGates (s : EngineState) (c : ContentionConflict) : Prop where
  magnitude : ¬c.degradation < s.policy.actionabilityThreshold
  gate : ∃ primary ∈ (currentEvidence s c).head?, disruptiveRejections s.policy primary = []

instance (s : EngineState) (c : ContentionConflict) : Decidable (PassesGates s c) :=
  decidable_of_iff (¬c.degradation < s.policy.actionabilityThreshold ∧
      ∃ primary ∈ (currentEvidence s c).head?, disruptiveRejections s.policy primary = [])
    ⟨fun h => ⟨h.1, h.2⟩, fun h => ⟨h.magnitude, h.gate⟩⟩

/-- The class is available on the workload, which is one of the list: the policy allows it
there, and the workload is registered and below its cap. -/
structure Available (s : EngineState) (ws : List WorkloadId) (cls : InterventionClass)
    (w : WorkloadId) : Prop where
  listed : w ∈ ws
  member : cls ∈ eligibleClasses
  eligible : classEligible s.policy cls
  targetable : Targetable s w
  allowed : policyRefusals s.policy (workloadPolicyFor s.policy w) cls = []

instance (s : EngineState) (w : WorkloadId) : Decidable (Targetable s w) :=
  decidable_of_iff ((s.authority.workloadGenerations.find w).isSome ∧
      (s.authority.workloadBoots.find w).isSome ∧ fairnessRefusals s w = [])
    ⟨fun h => ⟨h.1, h.2.1, h.2.2⟩, fun h => ⟨h.generation, h.boot, h.fairness⟩⟩

instance (s : EngineState) (ws : List WorkloadId) (cls : InterventionClass) (w : WorkloadId) :
    Decidable (Available s ws cls w) :=
  decidable_of_iff (w ∈ ws ∧ cls ∈ eligibleClasses ∧ classEligible s.policy cls ∧
      Targetable s w ∧ policyRefusals s.policy (workloadPolicyFor s.policy w) cls = [])
    ⟨fun ⟨h₁, h₂, h₃, h₄, h₅⟩ => ⟨h₁, h₂, h₃, h₄, h₅⟩,
      fun h => ⟨h.listed, h.member, h.eligible, h.targetable, h.allowed⟩⟩

/-- The first action ranks before the second; the comparator reads nothing but their
modelled effects and the policy. -/
def RanksBefore (p : ContentionPolicy) (cls : InterventionClass) (w : WorkloadId)
    (cls' : InterventionClass) (w' : WorkloadId) : Prop :=
  better p (defaultEffect cls w) (defaultEffect cls' w')

instance (p : ContentionPolicy) (cls : InterventionClass) (w : WorkloadId)
    (cls' : InterventionClass) (w' : WorkloadId) : Decidable (RanksBefore p cls w cls' w') :=
  inferInstanceAs (Decidable (_ = true))

/-! ## The choice among the available actions -/

section Ranks

variable {p : ContentionPolicy} {cls cls' : InterventionClass} {w w' : WorkloadId}

theorem ranksBefore_iff (h : FiniteValues p) : RanksBefore p cls w cls' w' ↔
    rankKey p (defaultEffect cls w) < rankKey p (defaultEffect cls' w') :=
  better_iff (numeric_effect h cls w) (numeric_effect h cls' w')

/-- Of two actions one ranks before the other. -/
theorem eq_of_not_ranksBefore (h : FiniteValues p) (hle : ¬RanksBefore p cls w cls' w')
    (hge : ¬RanksBefore p cls' w' cls w) : cls = cls' ∧ w = w' := by
  rw [ranksBefore_iff h, not_lt] at hle hge
  exact action_of_rankKey (le_antisymm hge hle)

/-- The ranking reads nothing of the policy but the values of the two workloads. -/
theorem ranksBefore_congr {p' : ContentionPolicy}
    (hw : (workloadPolicyFor p' w).value = (workloadPolicyFor p w).value)
    (hw' : (workloadPolicyFor p' w').value = (workloadPolicyFor p w').value) :
    RanksBefore p' cls w cls' w' ↔ RanksBefore p cls w cls' w' := by
  have htarget : (defaultEffect cls w).target = w := rfl
  have htarget' : (defaultEffect cls' w').target = w' := rfl
  unfold RanksBefore better
  rw [htarget, htarget', hw, hw']

end Ranks

section Choice

variable {s : GovernorState} {cid : ConflictId} {c : ContentionConflict}

/-- A feasible candidate is an available action. -/
theorem Decided.available {s : EngineState} {primary : InterferenceEvidence}
    {d : InterventionDecision} (h : Decided s cid s.authority c primary d) :
    Available s c.associated d.chosen.cls d.chosen.target := by
  have hfeasible := h.feasible
  rw [h.chosen_built, buildCandidate_feasible, candidateFence, feasible_makeFence] at hfeasible
  obtain ⟨w, -, cls, hcls, heligible, hbuilt⟩ := mem_buildCandidates h.chosen
  have hchosen : d.chosen.cls = cls := by
    rw [hbuilt]
    rfl
  exact ⟨h.target_mem, hchosen ▸ hcls, hchosen ▸ heligible, hfeasible.1, hfeasible.2⟩

/-- An available action is a feasible candidate. -/
theorem Available.candidate {s : EngineState} {cls : InterventionClass} {w : WorkloadId}
    (h : Available s c.associated cls w) (primary : InterferenceEvidence) :
    buildCandidate s s.authority c primary w cls ∈
        buildCandidates s s.authority c primary (c.associated.insertionSort (· ≤ ·)) ∧
      (buildCandidate s s.authority c primary w cls).feasible = .feasible := by
  constructor
  · exact mem_buildCandidates_of ((List.mem_insertionSort _).mpr h.listed) h.member h.eligible
  · rw [buildCandidate_feasible, candidateFence, feasible_makeFence]
    exact ⟨h.targetable, h.allowed⟩

theorem first_of_decided (hvalues : FiniteValues s.engine.policy)
    (hc : s.engine.conflicts.find cid = some c) {d : InterventionDecision}
    (hd : (evaluate cid s).decision = some d) :
    PassesGates s.engine c ∧ Available s.engine c.associated d.chosen.cls d.chosen.target ∧
      ∀ cls w, Available s.engine c.associated cls w →
        ¬RanksBefore s.engine.policy cls w d.chosen.cls d.chosen.target := by
  obtain ⟨c', primary, hdec, hcands⟩ := decided_of_decision hd
  obtain rfl : c' = c := Option.some.inj (hdec.conflict.symm.trans hc)
  refine ⟨⟨hdec.magnitude, primary, hdec.evidence, hdec.gate⟩, hdec.available, ?_⟩
  intro cls w havailable
  obtain ⟨hmem, hfeasible⟩ := havailable.candidate primary
  rw [← hcands] at hmem
  have hleast := least_of_decision hdec.reaches hvalues hd _ hmem hfeasible
  rw [hdec.chosen_built] at hleast
  rw [ranksBefore_iff hvalues, not_lt]
  exact hleast

/-- The choice is the available action that no other ranks before, where the conflict passes
the gates. -/
theorem choice_iff (hvalues : FiniteValues s.engine.policy)
    (hc : s.engine.conflicts.find cid = some c) {cls : InterventionClass} {w : WorkloadId} :
    choice s cid = some (cls, w) ↔ PassesGates s.engine c ∧ Available s.engine c.associated cls w ∧
      ∀ cls' w', Available s.engine c.associated cls' w' →
        ¬RanksBefore s.engine.policy cls' w' cls w := by
  constructor
  · intro h
    obtain ⟨d, hd, heq⟩ := Option.map_eq_some_iff.mp h
    obtain ⟨rfl, rfl⟩ := Prod.mk.inj heq
    exact first_of_decided hvalues hc hd
  · rintro ⟨hgates, havailable, hfirst⟩
    obtain ⟨primary, hprimary, hgate⟩ := hgates.gate
    have hreaches : ReachesCandidates s.engine cid c primary :=
      ⟨hc, hprimary, hgates.magnitude, List.ne_nil_of_mem havailable.listed, hgate⟩
    obtain ⟨hmem, hfeasible⟩ := havailable.candidate primary
    rw [← (hreaches.evaluation _).1] at hmem
    obtain ⟨d, hd⟩ := decides_iff.mpr ⟨_, hmem, hfeasible⟩
    obtain ⟨-, hchosen, hleast⟩ := first_of_decided hvalues hc hd
    obtain ⟨hcls, hw⟩ := eq_of_not_ranksBefore hvalues (hfirst _ _ hchosen) (hleast cls w havailable)
    rw [choice, evaluate, hd, Option.map_some, hcls, hw]

end Choice

/-! ## What keeps a choice -/

/-- The engine state after a policy that is accepted. -/
def withPolicy (s : EngineState) (p : ContentionPolicy) : EngineState :=
  { s with policy := p, authority := { s.authority with policyGeneration := p.generation } }

theorem setPolicy_engine {p : ContentionPolicy} (s : GovernorState)
    (hp : (validatePolicy p).isOk) : (setPolicy p s).2.engine = withPolicy s.engine p := by
  simp only [setPolicy, hp, not_true_eq_false, if_false]
  rfl

/-- Seen from an action chosen on the workloads `ws` in the state `s`: it is available on
`ws'` in `t`, what is newly available there does not rank before it, and values are kept. -/
structure StaysFirst (s t : EngineState) (ws ws' : List WorkloadId) (cls : InterventionClass)
    (w : WorkloadId) : Prop where
  available : Available t ws' cls w
  behind : ∀ w' ∈ ws', ∀ cls' ∈ eligibleClasses, Available t ws' cls' w' →
    ¬Available s ws cls' w' → ¬RanksBefore t.policy cls' w' cls w
  values : ∀ w' ∈ ws, (workloadPolicyFor t.policy w').value = (workloadPolicyFor s.policy w').value

instance (s t : EngineState) (ws ws' : List WorkloadId) (cls : InterventionClass)
    (w : WorkloadId) : Decidable (StaysFirst s t ws ws' cls w) :=
  decidable_of_iff (Available t ws' cls w ∧ (∀ w' ∈ ws', ∀ cls' ∈ eligibleClasses,
      Available t ws' cls' w' → ¬Available s ws cls' w' → ¬RanksBefore t.policy cls' w' cls w) ∧
      ∀ w' ∈ ws, (workloadPolicyFor t.policy w').value = (workloadPolicyFor s.policy w').value)
    ⟨fun h => ⟨h.1, h.2.1, h.2.2⟩, fun h => ⟨h.available, h.behind, h.values⟩⟩

/-- An action stays the choice. -/
theorem StaysFirst.choice_eq {s s' : GovernorState} {cid : ConflictId} {c c' : ContentionConflict}
    {cls : InterventionClass} {w : WorkloadId}
    (h : StaysFirst s.engine s'.engine c.associated c'.associated cls w)
    (hvalues : FiniteValues s.engine.policy) (hvalues' : FiniteValues s'.engine.policy)
    (hc : s.engine.conflicts.find cid = some c) (hc' : s'.engine.conflicts.find cid = some c')
    (hgates : PassesGates s'.engine c') (hchoice : choice s cid = some (cls, w)) :
    choice s' cid = some (cls, w) := by
  obtain ⟨-, havailable, hfirst⟩ := (choice_iff hvalues hc).mp hchoice
  rw [choice_iff hvalues' hc']
  refine ⟨hgates, h.available, fun cls' w' hnew => ?_⟩
  by_cases hold : Available s.engine c.associated cls' w'
  · rw [ranksBefore_congr (h.values w' hold.listed) (h.values w havailable.listed)]
    exact hfirst cls' w' hold
  · exact h.behind w' hnew.listed cls' hnew.member hnew hold

/-- What is available is about policy, registrations and caps. -/
theorem available_congr {s t : EngineState} (hpolicy : t.policy = s.policy)
    (hgenerations : t.authority.workloadGenerations = s.authority.workloadGenerations)
    (hboots : t.authority.workloadBoots = s.authority.workloadBoots)
    (hfairness : ∀ w, fairnessRefusals t w = fairnessRefusals s w) {ws : List WorkloadId}
    {cls : InterventionClass} {w : WorkloadId} : Available t ws cls w ↔ Available s ws cls w := by
  constructor
  · rintro ⟨hlisted, hmember, heligible, ⟨hgeneration, hboot, hcap⟩, hallowed⟩
    rw [hpolicy] at heligible hallowed
    rw [hgenerations] at hgeneration
    rw [hboots] at hboot
    rw [hfairness] at hcap
    exact ⟨hlisted, hmember, heligible, ⟨hgeneration, hboot, hcap⟩, hallowed⟩
  · rintro ⟨hlisted, hmember, heligible, ⟨hgeneration, hboot, hcap⟩, hallowed⟩
    rw [← hpolicy] at heligible hallowed
    rw [← hgenerations] at hgeneration
    rw [← hboots] at hboot
    rw [← hfairness] at hcap
    exact ⟨hlisted, hmember, heligible, ⟨hgeneration, hboot, hcap⟩, hallowed⟩

theorem StaysFirst.congr {s t t' : EngineState} {ws ws' : List WorkloadId}
    {cls : InterventionClass} {w : WorkloadId} (h : StaysFirst s t ws ws' cls w)
    (hpolicy : t'.policy = t.policy)
    (hgenerations : t'.authority.workloadGenerations = t.authority.workloadGenerations)
    (hboots : t'.authority.workloadBoots = t.authority.workloadBoots)
    (hfairness : ∀ w, fairnessRefusals t' w = fairnessRefusals t w) :
    StaysFirst s t' ws ws' cls w where
  available := (available_congr hpolicy hgenerations hboots hfairness).mpr h.available
  behind := by
    intro w' hw' cls' hcls' hnew hold
    rw [hpolicy]
    exact h.behind w' hw' cls' hcls'
      ((available_congr hpolicy hgenerations hboots hfairness).mp hnew) hold
  values := by
    rw [hpolicy]
    exact h.values

/-- Records that are appended come after the first usable one. -/
theorem head_currentEvidence {s t : EngineState} {c c' : ContentionConflict}
    {primary : InterferenceEvidence} (h : (currentEvidence s c).head? = some primary)
    (hids : c.evidenceIds <+: c'.evidenceIds)
    (hevidence : ∀ eid ∈ c.evidenceIds, t.evidence.find eid = s.evidence.find eid) :
    (currentEvidence t c').head? = some primary := by
  obtain ⟨more, hmore⟩ := hids
  have hsame : c.evidenceIds.filterMap (fun eid => (t.evidence.find eid).filter fun e =>
      e.status = .current ∧ structurallyValid e) = currentEvidence s c := by
    apply List.filterMap_congr
    intro eid heid
    rw [hevidence eid heid]
  unfold currentEvidence
  rw [← hmore, List.filterMap_append, hsame, List.head?_append, h, Option.some_or]

theorem PassesGates.carry {s t : EngineState} {c c' : ContentionConflict} (h : PassesGates s c)
    (hids : c.evidenceIds <+: c'.evidenceIds)
    (hevidence : ∀ eid ∈ c.evidenceIds, t.evidence.find eid = s.evidence.find eid)
    (hpolicy : t.policy = s.policy)
    (hmagnitude : ¬c'.degradation < s.policy.actionabilityThreshold) : PassesGates t c' := by
  obtain ⟨primary, hprimary, hgate⟩ := h.gate
  refine ⟨hpolicy ▸ hmagnitude, primary, head_currentEvidence hprimary hids hevidence, ?_⟩
  rw [hpolicy, hgate]

end ContentionGovernor
