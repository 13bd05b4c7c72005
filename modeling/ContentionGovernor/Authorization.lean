import ContentionGovernor.ActionBudget

/-!
# What an authorization rests on

Every path of `authorize` goes through the decision of the evaluation, and so
through its evidence gate.  The class override is not held to the candidates.
-/

namespace ContentionGovernor

/-! ## The evidence gate -/

/-- The minimum is reached.  The comparisons with a NaN all fail, so the second part is the
usual order wherever the minimum is a number. -/
structure Reaches (x minimum : Double) : Prop where
  notBelow : ¬x < minimum
  atLeast : minimum.isNaN = false → minimum ≤ x

/-- The conflict lists this record, and the policy lets it support disruptive action. -/
structure Supports (s : EngineState) (c : ContentionConflict) (eid : InterferenceEvidenceId)
    (e : InterferenceEvidence) : Prop where
  listed : eid ∈ c.evidenceIds
  stored : s.evidence.find eid = some e
  current : e.status = .current
  valid : structurallyValid e
  attribution : ByteEnum.raw s.policy.minAttributionForDisruptive ≤ ByteEnum.raw e.attribution
  confidence : Reaches e.confidence s.policy.minConfidenceForDisruptive
  unconfounded : e.unresolvedConfounders = []

theorem confidence_not_nan {e : InterferenceEvidence} (h : structurallyValid e) :
    e.confidence.isNaN = false := by
  unfold structurallyValid at h
  split_ifs at h with _ _ hconfidence
  simp only [not_or, not_not] at hconfidence
  exact (Binary64.le_iff.mp (Binary64.le_refl_of_finite hconfidence.1)).1

/-- A gate without rejections has let the record through all three requirements. -/
theorem gate_open {p : ContentionPolicy} {e : InterferenceEvidence}
    (h : disruptiveRejections p e = []) :
    ¬e.attribution < p.minAttributionForDisruptive ∧
      ¬e.confidence < p.minConfidenceForDisruptive ∧ e.unresolvedConfounders = [] := by
  unfold disruptiveRejections at h
  obtain ⟨h, hconfounders⟩ := List.append_eq_nil_iff.mp h
  obtain ⟨hattribution, hconfidence⟩ := List.append_eq_nil_iff.mp h
  refine ⟨fun hlt => ?_, fun hlt => ?_, ?_⟩
  · rw [if_pos hlt] at hattribution
    cases hattribution
  · rw [if_pos hlt] at hconfidence
    cases hconfidence
  · by_contra hne
    rw [if_pos hne] at hconfounders
    cases hconfounders

/-- The first usable record of a decided conflict supports the action. -/
theorem Decided.supports {s : EngineState} {id : ConflictId} {ctx : AuthorityContext}
    {c : ContentionConflict} {primary : InterferenceEvidence} {d : InterventionDecision}
    (h : Decided s id ctx c primary d) : ∃ eid, Supports s c eid primary := by
  obtain ⟨eid, hlisted, hstored, hcurrent, hvalid⟩ :=
    mem_currentEvidence (List.mem_of_head? h.evidence)
  obtain ⟨hattribution, hconfidence, hconfounders⟩ := gate_open h.gate
  have hreaches : Reaches primary.confidence s.policy.minConfidenceForDisruptive :=
    ⟨hconfidence, fun hmin =>
      Binary64.le_of_not_lt hmin (confidence_not_nan hvalid) hconfidence⟩
  have hattribution := UInt8.not_lt.mp hattribution
  exact ⟨eid, hlisted, hstored, hcurrent, hvalid, hattribution, hreaches, hconfounders⟩

/-- All of a grant but its conflict comes from the decision and the requested class. -/
structure FollowsDecision (s : GovernorState) (id : ConflictId) (cls : InterventionClass) (g : Grant)
    (d : InterventionDecision) : Prop where
  decision : (evaluate id s).decision = some d
  target : g.target = d.chosen.target
  cls : g.cls = if cls ≠ .noAction then cls else d.chosen.cls
  adapter : g.adapter = d.chosen.adapter

theorem Passes.follows {s : GovernorState} {id : ConflictId} {cls : InterventionClass}
    {now : TimeMs} {g : Grant} (h : Passes s id cls now g) : ∃ d, FollowsDecision s id cls g d := by
  obtain ⟨p, hp, htarget, hcls⟩ := h.picked
  obtain ⟨d, hd, rfl⟩ := decision_of_pick hp
  have hadapter := h.adapter
  rw [hd] at hadapter
  exact ⟨d, hd, htarget, hcls, hadapter⟩

theorem granted_of_authorize {s s' : GovernorState} {id : ConflictId} {cls : InterventionClass}
    {now : TimeMs} {iid : InterventionId} (h : authorize id cls now s = .ok (some iid, s')) :
    ∃ g, Granted s id cls now g ∧ iid = ⟨s.nextInterventionId⟩ ∧ s' = commitGrant s id g now := by
  rcases authorize_cases h with ⟨-, hnone⟩ | ⟨g, hg, hsome⟩
  · cases hnone
  · cases hsome
    exact ⟨g, granted_of_checks hg, rfl, rfl⟩

/-- An authorization on any path has a listed, CURRENT and valid record that supports it,
and a conflict at the actionability threshold. -/
theorem evidence_gate (s s' : GovernorState) (id : ConflictId) (cls : InterventionClass)
    (now : TimeMs) (iid : InterventionId)
    (h : authorize id cls now s = .ok (some iid, s')) :
    ∃ c eid e, s.engine.conflicts.find id = some c ∧ Supports s.engine c eid e ∧
      ¬c.degradation < s.engine.policy.actionabilityThreshold := by
  obtain ⟨g, hg, -, -⟩ := granted_of_authorize h
  obtain ⟨d, hfollows⟩ := hg.follows
  obtain ⟨c, primary, hdec, -⟩ := decided_of_decision hfollows.decision
  obtain ⟨eid, hsupports⟩ := hdec.supports
  exact ⟨c, eid, primary, hdec.conflict, hsupports, hdec.magnitude⟩

theorem evidence_gate_slowdown : ∃ c eid e,
    (reached (registerNeighbor ++ [.ingestEvidence slowdown])).engine.conflicts.find ⟨1⟩ =
        some c ∧
      Supports (reached (registerNeighbor ++ [.ingestEvidence slowdown])).engine c eid e ∧
      ¬c.degradation < (reached (registerNeighbor ++
        [.ingestEvidence slowdown])).engine.policy.actionabilityThreshold := by
  have hauth : authorizes (reached (registerNeighbor ++ [.ingestEvidence slowdown])) ⟨1⟩ .throttle
      1000 := by decide +kernel
  obtain ⟨g, hg⟩ := authorizes_iff.mp hauth
  exact evidence_gate _ _ ⟨1⟩ .throttle 1000 _ (authorize_of_granted hg)

/-! ## The offered actions -/

/-- The action of the record is a feasible candidate of the evaluation, with its label. -/
def Offered (ev : ConflictEvaluation) (r : InterventionRecord) : Prop :=
  ∃ cand ∈ ev.candidates, cand.feasible = .feasible ∧ cand.cls = r.cls ∧
    cand.target = r.target ∧ cand.adapter = r.adapter

/-- The adapter label that `default_effect` gives to a class. -/
def adapterLabel (cls : InterventionClass) : ByteString := (effectModel cls).2.2.2.2

@[simp] theorem buildCandidate_cls (s : EngineState) (ctx : AuthorityContext)
    (c : ContentionConflict) (primary : InterferenceEvidence) (target : WorkloadId)
    (cls : InterventionClass) : (buildCandidate s ctx c primary target cls).cls = cls := rfl

@[simp] theorem buildCandidate_adapter (s : EngineState) (ctx : AuthorityContext)
    (c : ContentionConflict) (primary : InterferenceEvidence) (target : WorkloadId)
    (cls : InterventionClass) :
    (buildCandidate s ctx c primary target cls).adapter = adapterLabel cls := rfl

theorem mem_buildCandidates_of {s : EngineState} {ctx : AuthorityContext} {c : ContentionConflict}
    {primary : InterferenceEvidence} {targets : List WorkloadId} {target : WorkloadId}
    {cls : InterventionClass} (htarget : target ∈ targets) (hcls : cls ∈ eligibleClasses)
    (heligible : classEligible s.policy cls) :
    buildCandidate s ctx c primary target cls ∈ buildCandidates s ctx c primary targets :=
  List.mem_flatMap.mpr ⟨target, htarget,
    List.mem_map_of_mem (List.mem_filter.mpr ⟨hcls, heligible⟩)⟩

/-- Feasibility does not read the evidence generation, the one field in which the fence
of `authorize` differs from that of the evaluation. -/
theorem checkFeasibility_makeFence (s : EngineState) (ctx : AuthorityContext)
    (cg : ConflictGeneration) (eg eg' : InterferenceEvidenceGeneration) (target : WorkloadId)
    (cls : InterventionClass) (ig : InterventionGeneration) :
    checkFeasibility s target cls (makeFence ctx cg eg target ig) =
      checkFeasibility s target cls (makeFence ctx cg eg' target ig) := rfl

/-- A requested class that the evaluation builds candidates of, with the label of the class
it has chosen. -/
structure SameOffer (s : GovernorState) (id : ConflictId) (cls : InterventionClass) : Prop where
  listed : cls ∈ eligibleClasses
  eligible : classEligible s.engine.policy cls
  label : (evaluate id s).decision.map (·.chosen.adapter) = some (adapterLabel cls)

/-- Every record that `authorize` creates is offered by the evaluation before it. -/
def AuthorizesOffered (s : GovernorState) (id : ConflictId) (cls : InterventionClass)
    (now : TimeMs) : Prop :=
  ∀ iid s', authorize id cls now s = .ok (some iid, s') →
    ∃ r, s'.engine.interventions.find iid = some r ∧ Offered (evaluate id s) r

theorem authorizesOffered_iff {s : GovernorState} {id : ConflictId} {cls : InterventionClass}
    {now : TimeMs} : AuthorizesOffered s id cls now ↔
      ∀ g, Granted s id cls now g → Offered (evaluate id s) (grantRecord s id g now) := by
  constructor
  · intro h g hg
    obtain ⟨r, hr, hoffered⟩ := h _ _ (authorize_of_granted hg)
    have hnew : (commitGrant s id g now).engine.interventions.find ⟨s.nextInterventionId⟩ =
        some (grantRecord s id g now) := OrderedMap.find_insert_self ..
    rw [hnew, Option.some.injEq] at hr
    rwa [← hr] at hoffered
  · intro h iid s' hauth
    obtain ⟨g, hg, rfl, rfl⟩ := granted_of_authorize hauth
    exact ⟨_, OrderedMap.find_insert_self .., h g hg⟩

/-- A grant is offered exactly when it is the ranked choice or another class that is
offered under the same label. -/
theorem Granted.offered_iff {s : GovernorState} {id : ConflictId} {cls : InterventionClass}
    {now : TimeMs} {g : Grant} (h : Granted s id cls now g) :
    Offered (evaluate id s) (grantRecord s id g now) ↔ cls = .noAction ∨ SameOffer s id cls := by
  obtain ⟨d, hfollows⟩ := h.follows
  obtain ⟨c, primary, hdec, hcands⟩ := decided_of_decision hfollows.decision
  have hcands : (evaluate id s).candidates = _ := hcands
  have hc : c = g.conflict := Option.some.inj (hdec.conflict.symm.trans h.conflict)
  constructor
  · rintro ⟨cand, hmem, -, hcls, -, hadapter⟩
    -- Without NO_ACTION the record has the requested class, and so has the candidate.
    refine or_iff_not_imp_left.mpr fun hne => ?_
    have hcls : cand.cls = cls := hcls.trans (hfollows.cls.trans (if_pos hne))
    rw [hcands] at hmem
    obtain ⟨target, -, cls', hlisted, heligible, rfl⟩ := mem_buildCandidates hmem
    rw [buildCandidate_cls] at hcls
    subst hcls
    refine ⟨hlisted, heligible, ?_⟩
    rw [hfollows.decision, Option.map_some, ← hfollows.adapter]
    exact congrArg some hadapter.symm
  · rintro (rfl | hsame)
    · have hcls : g.cls = d.chosen.cls := hfollows.cls
      refine ⟨d.chosen, ?_, hdec.feasible, hcls.symm, hfollows.target.symm,
        hfollows.adapter.symm⟩
      rw [hcands]
      exact hdec.chosen
    · have hlabel := hsame.label
      rw [hfollows.decision, Option.map_some, Option.some.injEq, ← hfollows.adapter] at hlabel
      -- The offer is the candidate of the requested class on the chosen target.
      by_cases hne : cls = .noAction
      · rw [hne] at hsame
        exact absurd hsame.listed (by decide)
      · have hcls : g.cls = cls := hfollows.cls.trans (if_pos hne)
        obtain ⟨generation, -, hfence⟩ := h.fence
        have hfeasible := h.feasible
        rw [hcls, hfence, ← hc, checkFeasibility_makeFence _ _ _ _ primary.generation]
          at hfeasible
        refine ⟨buildCandidate s.engine s.engine.authority c primary g.target cls, ?_, hfeasible,
          hcls.symm, rfl, hlabel.symm⟩
        rw [hcands]
        refine mem_buildCandidates_of ?_ hsame.listed hsame.eligible
        rw [hfollows.target, List.mem_insertionSort]
        exact hdec.target_mem

/-- What `authorize` creates is offered exactly when a class override that passes its
checks is held to the candidates and keeps the label of the chosen one. -/
theorem authorized_offered_iff (s : GovernorState) (id : ConflictId) (cls : InterventionClass)
    (now : TimeMs) : AuthorizesOffered s id cls now ↔
      ∀ g, Granted s id cls now g → cls = .noAction ∨ SameOffer s id cls :=
  authorizesOffered_iff.trans (forall₂_congr fun _ hg => hg.offered_iff)

/-- The policy allows no migration, and so offers no replacement. -/
def withoutMigration : List Op :=
  [.setPolicy { migrationAllowed := false }] ++ registerNeighbor ++ [.ingestEvidence slowdown]

/-- The replacement is authorized all the same, with the label of the preemption. -/
theorem override_not_offered :
    ¬∀ ops s id cls now, Runs.exec step {} ops = some s → AuthorizesOffered s id cls now := by
  intro h
  have hrun := @exec_reached withoutMigration (by decide +kernel)
  have hoffered := h _ _ ⟨1⟩ .requestReplacement 1000 hrun
  have hauth : authorizes (reached withoutMigration) ⟨1⟩ .requestReplacement 1000 := by
    decide +kernel
  obtain ⟨g, hg⟩ := authorizes_iff.mp hauth
  rcases hg.offered_iff.mp (authorizesOffered_iff.mp hoffered g hg) with hnone | hsame
  · cases hnone
  · exact absurd hsame.eligible (by decide +kernel)

end ContentionGovernor
