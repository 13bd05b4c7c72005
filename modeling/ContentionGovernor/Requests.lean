import ContentionGovernor.DanglingEvidence

/-!
# What a request gets

The fence that `authorize` stores beside the one that the evaluation has judged, and the
target that a requested class is tried on.  The evaluation takes the first usable record
of the conflict and every associated workload; `authorize` takes the first listed record
and the workload of the ranked choice.
-/

namespace ContentionGovernor

/-! ## The judged fence -/

/-- The fence under which a candidate on the workload is judged. -/
def candidateFence (ctx : AuthorityContext) (c : ContentionConflict)
    (primary : InterferenceEvidence) (w : WorkloadId) : Fence :=
  makeFence ctx c.generation primary.generation w ⟨1⟩

@[simp] theorem buildCandidate_feasible (s : EngineState) (ctx : AuthorityContext)
    (c : ContentionConflict) (primary : InterferenceEvidence) (w : WorkloadId)
    (cls : InterventionClass) : (buildCandidate s ctx c primary w cls).feasible =
      (checkFeasibility s w cls (candidateFence ctx c primary w)).status := rfl

/-- The evaluation judges a candidate on the workload feasible, and does so under this
fence. -/
def JudgedUnder (s : GovernorState) (id : ConflictId) (w : WorkloadId) (f : Fence) : Prop :=
  ∃ c primary cls, s.engine.conflicts.find id = some c ∧
    (currentEvidence s.engine c).head? = some primary ∧
    buildCandidate s.engine s.engine.authority c primary w cls ∈ (evaluate id s).candidates ∧
    (checkFeasibility s.engine w cls f).status = .feasible ∧
    f = candidateFence s.engine.authority c primary w

/-- The first listed record of the conflict has the generation of the first usable one. -/
def FrontMatches (s : EngineState) (id : ConflictId) : Prop :=
  ∀ c primary, s.conflicts.find id = some c → (currentEvidence s c).head? = some primary →
    frontGeneration s c = .ok primary.generation

/-- The two fences can only differ in the evidence generation. -/
theorem candidateFence_eq_iff {ctx : AuthorityContext} {c : ContentionConflict}
    {primary : InterferenceEvidence} {generation : InterferenceEvidenceGeneration}
    {w : WorkloadId} : makeFence ctx c.generation generation w ⟨1⟩ =
      candidateFence ctx c primary w ↔ generation = primary.generation := by
  constructor
  · intro h
    exact congrArg Fence.evidenceGeneration h
  · intro h
    rw [h, candidateFence]

/-- The chosen candidate is the one that is built for its target and class. -/
theorem Decided.chosen_built {s : EngineState} {id : ConflictId} {ctx : AuthorityContext}
    {c : ContentionConflict} {primary : InterferenceEvidence} {d : InterventionDecision}
    (h : Decided s id ctx c primary d) :
    d.chosen = buildCandidate s ctx c primary d.chosen.target d.chosen.cls := by
  obtain ⟨w, -, cls, -, -, heq⟩ := mem_buildCandidates h.chosen
  rw [heq]
  rfl

/-- What is judged on the chosen target is judged under the fence of the candidates. -/
theorem Decided.judgedUnder_iff {s : GovernorState} {id : ConflictId} {c : ContentionConflict}
    {primary : InterferenceEvidence} {d : InterventionDecision}
    (h : Decided s.engine id s.engine.authority c primary d)
    (hcands : (evaluate id s).candidates = buildCandidates s.engine s.engine.authority c primary
      (c.associated.insertionSort (· ≤ ·))) {f : Fence} :
    JudgedUnder s id d.chosen.target f ↔
      f = candidateFence s.engine.authority c primary d.chosen.target := by
  constructor
  · rintro ⟨c', primary', cls, hc, hprimary, -, -, hfence⟩
    cases h.conflict.symm.trans hc
    cases h.evidence.symm.trans hprimary
    exact hfence
  · rintro rfl
    have hbuilt := h.chosen_built
    have hfeasible := h.feasible
    refine ⟨c, primary, d.chosen.cls, h.conflict, h.evidence, ?_, ?_, rfl⟩
    · rw [hcands, ← hbuilt]
      exact h.chosen
    · rwa [hbuilt, buildCandidate_feasible] at hfeasible

theorem Decided.frontMatches_iff {s : EngineState} {id : ConflictId} {ctx : AuthorityContext}
    {c : ContentionConflict} {primary : InterferenceEvidence} {d : InterventionDecision}
    (h : Decided s id ctx c primary d) :
    FrontMatches s id ↔ frontGeneration s c = .ok primary.generation := by
  constructor
  · exact fun hall => hall c primary h.conflict h.evidence
  · intro hfront c' primary' hc hprimary
    cases h.conflict.symm.trans hc
    cases h.evidence.symm.trans hprimary
    exact hfront

/-- The stored fence is the judged one exactly when the first listed record has the
generation of the first usable one. -/
theorem stored_fence_judged_iff {s s' : GovernorState} {id : ConflictId}
    {cls : InterventionClass} {now : TimeMs} {iid : InterventionId}
    (h : authorize id cls now s = .ok (some iid, s')) :
    (∃ r, s'.engine.interventions.find iid = some r ∧ JudgedUnder s id r.target r.fence) ↔
      FrontMatches s.engine id := by
  obtain ⟨g, hg, rfl, rfl⟩ := granted_of_authorize h
  obtain ⟨d, hfollows⟩ := hg.follows
  obtain ⟨c, primary, hdec, hcands⟩ := decided_of_decision hfollows.decision
  obtain ⟨generation, hgeneration, hfence⟩ := hg.fence
  cases hdec.conflict.symm.trans hg.conflict
  have hnew : (commitGrant s id g now).engine.interventions.find ⟨s.nextInterventionId⟩ =
      some (grantRecord s id g now) := OrderedMap.find_insert_self ..
  have hstored : (∃ r, (commitGrant s id g now).engine.interventions.find
      ⟨s.nextInterventionId⟩ = some r ∧ JudgedUnder s id r.target r.fence) ↔
      JudgedUnder s id g.target g.fence := by
    constructor
    · rintro ⟨r, hr, hjudged⟩
      cases hnew.symm.trans hr
      exact hjudged
    · exact fun hjudged => ⟨_, hnew, hjudged⟩
  rw [hstored, hfence, hfollows.target, hdec.judgedUnder_iff hcands, candidateFence_eq_iff,
    hdec.frontMatches_iff, hgeneration, Except.ok.injEq]

theorem stored_fence_judged_iff_throttle : ∃ s' iid,
    authorize ⟨1⟩ .throttle 1000 (reached (registerNeighbor ++ [.ingestEvidence slowdown])) =
        .ok (some iid, s') ∧
      ((∃ r, s'.engine.interventions.find iid = some r ∧
          JudgedUnder (reached (registerNeighbor ++ [.ingestEvidence slowdown])) ⟨1⟩ r.target
            r.fence) ↔
        FrontMatches (reached (registerNeighbor ++ [.ingestEvidence slowdown])).engine ⟨1⟩) := by
  have hauth : authorizes (reached (registerNeighbor ++ [.ingestEvidence slowdown])) ⟨1⟩ .throttle
      1000 := by decide +kernel
  obtain ⟨g, hg⟩ := authorizes_iff.mp hauth
  exact ⟨_, _, authorize_of_granted hg, stored_fence_judged_iff (authorize_of_granted hg)⟩

/-- The conflict lists a STALE record of generation 1 before a CURRENT one of generation 2. -/
def staleThenCurrent : List Op :=
  registerNeighbor ++ [.ingestEvidence { slowdown with status := .stale, generation := ⟨1⟩ },
    .ingestEvidence { slowdown with generation := ⟨2⟩ }]

/-- The throttle is stored with generation 1 and was judged with generation 2. -/
theorem stored_fence_not_judged :
    ¬∀ ops s id cls now iid s', Runs.exec step {} ops = some s →
      authorize id cls now s = .ok (some iid, s') →
      ∃ r, s'.engine.interventions.find iid = some r ∧ JudgedUnder s id r.target r.fence := by
  intro h
  have hrun := @exec_reached staleThenCurrent (by decide +kernel)
  have hauth : authorizes (reached staleThenCurrent) ⟨1⟩ .throttle 1000 := by decide +kernel
  have hgenerations : ((reached staleThenCurrent).engine.conflicts.find ⟨1⟩).map (fun c =>
      ((frontGeneration (reached staleThenCurrent).engine c).toOption.map Id.value,
        (currentEvidence (reached staleThenCurrent).engine c).head?.map (·.generation.value))) =
      some (some 1, some 2) := by decide +kernel
  obtain ⟨g, hg⟩ := authorizes_iff.mp hauth
  obtain ⟨r, hr, c, primary, cls, hc, hprimary, -, -, hfence⟩ :=
    h _ _ ⟨1⟩ .throttle 1000 _ _ hrun (authorize_of_granted hg)
  obtain ⟨generation, hgeneration, hstored⟩ := hg.fence
  have hnew : (commitGrant (reached staleThenCurrent) ⟨1⟩ g 1000).engine.interventions.find
      ⟨(reached staleThenCurrent).nextInterventionId⟩ = some (grantRecord _ ⟨1⟩ g 1000) :=
    OrderedMap.find_insert_self ..
  rw [hnew, Option.some.injEq] at hr
  have hsame : c = g.conflict := Option.some.inj (hc.symm.trans hg.conflict)
  rw [hc, Option.map_some, hprimary, hsame, hgeneration] at hgenerations
  have hjudged : g.fence.evidenceGeneration = primary.generation := by
    have hrecord : r.fence = g.fence := by
      rw [← hr]
      rfl
    rw [← hrecord, hfence]
    rfl
  rw [hstored] at hjudged
  have hequal : generation = primary.generation := hjudged
  simp only [hequal, Except.toOption, Option.map_some, Option.some.injEq, Prod.mk.injEq]
    at hgenerations
  exact absurd (hgenerations.1.symm.trans hgenerations.2) (by decide)

/-! ## The target of a requested class -/

/-- The evaluation lists a feasible candidate of the class on the workload, which is not in
its cooldown. -/
def LegalOn (s : GovernorState) (id : ConflictId) (cls : InterventionClass) (now : TimeMs)
    (w : WorkloadId) : Prop :=
  (∃ cand ∈ (evaluate id s).candidates, cand.cls = cls ∧ cand.target = w ∧
    cand.feasible = .feasible) ∧ inCooldown s.engine w cls now = false

/-- A class that is legal on some workload and in budget is authorized on such a workload. -/
def FindsLegal (s : GovernorState) (id : ConflictId) (cls : InterventionClass) (now : TimeMs) :
    Prop :=
  (∃ w, LegalOn s id cls now w) → budgetExhausted s.engine.policy.budget cls = false →
    ∃ iid s' r, authorize id cls now s = .ok (some iid, s') ∧
      s'.engine.interventions.find iid = some r ∧ r.cls = cls ∧ LegalOn s id cls now r.target

/-- The first listed record of the conflict is present, and neither the policy nor a cooldown
keeps the class from the target of the ranked choice. -/
def ChosenAllows (s : GovernorState) (id : ConflictId) (cls : InterventionClass) (now : TimeMs) :
    Prop :=
  (∃ c generation, s.engine.conflicts.find id = some c ∧
    frontGeneration s.engine c = .ok generation) ∧
  ∀ d, (evaluate id s).decision = some d →
    policyRefusals s.engine.policy (workloadPolicyFor s.engine.policy d.chosen.target) cls = [] ∧
      inCooldown s.engine d.chosen.target cls now = false

/-- Where the class is legal somewhere, the evaluation decides, with candidates of the class
on every associated workload. -/
theorem LegalOn.decided {s : GovernorState} {id : ConflictId} {cls : InterventionClass}
    {now : TimeMs} {w : WorkloadId} (h : LegalOn s id cls now w) :
    ∃ c primary d, (evaluate id s).decision = some d ∧
      Decided s.engine id s.engine.authority c primary d ∧
      ∀ target ∈ c.associated, buildCandidate s.engine s.engine.authority c primary target cls ∈
        (evaluate id s).candidates := by
  obtain ⟨⟨cand, hmem, rfl, -, hfeasible⟩, -⟩ := h
  rcases evaluateConflict_cases s.engine id s.engine.authority with
    ⟨-, hnone⟩ | ⟨c, primary, d, hd, hcands, hdec⟩
  · have hin : cand ∈ feasibleCandidates (evaluate id s).candidates :=
      List.mem_filter.mpr ⟨hmem, decide_eq_true hfeasible⟩
    rw [evaluate, hnone] at hin
    cases hin
  · refine ⟨c, primary, d, hd, hdec, fun target htarget => ?_⟩
    rw [evaluate, hcands] at hmem ⊢
    obtain ⟨_, -, cls, hlisted, heligible, rfl⟩ := mem_buildCandidates hmem
    exact mem_buildCandidates_of ((List.mem_insertionSort _).mpr htarget) hlisted heligible

/-- A feasible candidate makes each class feasible on its target that the policy does not
refuse there. -/
theorem Decided.feasible_on_target {s : EngineState} {id : ConflictId} {ctx : AuthorityContext}
    {c : ContentionConflict} {primary : InterferenceEvidence} {d : InterventionDecision}
    (h : Decided s id ctx c primary d) {cls : InterventionClass}
    (hcls : policyRefusals s.policy (workloadPolicyFor s.policy d.chosen.target) cls = [])
    (generation : InterferenceEvidenceGeneration) :
    (revalidate s (makeFence ctx c.generation generation d.chosen.target ⟨1⟩)
        d.chosen.target).isOk ∧
      (checkFeasibility s d.chosen.target cls
        (makeFence ctx c.generation generation d.chosen.target ⟨1⟩)).status = .feasible := by
  have hchosen := h.feasible
  rw [h.chosen_built, buildCandidate_feasible, candidateFence,
    checkFeasibility_makeFence _ _ _ _ generation, feasible_iff] at hchosen
  exact ⟨hchosen.1, feasible_iff.mpr ⟨hchosen.1, hcls, hchosen.2.2⟩⟩

/-- A requested class finds its legal target exactly when the ranked choice, of whatever
class, is on one: only that workload is tried. -/
theorem finds_legal_iff (s : GovernorState) (id : ConflictId) (cls : InterventionClass)
    (now : TimeMs) (hcls : cls ≠ .noAction) : FindsLegal s id cls now ↔
      ((∃ w, LegalOn s id cls now w) → budgetExhausted s.engine.policy.budget cls = false →
        ChosenAllows s id cls now) := by
  refine forall_congr' fun ⟨w, hlegal⟩ => forall_congr' fun hbudget => ?_
  obtain ⟨c, primary, d, hd, hdec, hlisted⟩ := hlegal.decided
  constructor
  · rintro ⟨iid, s', r, hauth, -⟩
    obtain ⟨g, hg, -, -⟩ := granted_of_authorize hauth
    obtain ⟨d', hfollows⟩ := hg.follows
    obtain ⟨generation, hgeneration, -⟩ := hg.fence
    have hgcls : g.cls = cls := hfollows.cls.trans (if_pos hcls)
    have hrefusals := (feasible_iff.mp hg.feasible).2.1
    have hrested := hg.rested
    rw [hgcls, hfollows.target] at hrefusals hrested
    refine ⟨⟨g.conflict, generation, hg.conflict, hgeneration⟩, fun e he => ?_⟩
    have hsame : d' = e := Option.some.inj (hfollows.decision.symm.trans he)
    rw [← hsame]
    exact ⟨hrefusals, hrested⟩
  · rintro ⟨⟨c', generation, hc', hgeneration⟩, hallows⟩
    obtain ⟨hrefusals, hrested⟩ := hallows d hd
    have hsame : c' = c := Option.some.inj (hc'.symm.trans hdec.conflict)
    rw [hsame] at hgeneration
    obtain ⟨hvalid, hfeasible⟩ := hdec.feasible_on_target hrefusals generation
    let g : Grant :=
      { conflict := c, cls, target := d.chosen.target
        fence := makeFence s.engine.authority c.generation generation d.chosen.target ⟨1⟩
        adapter := d.chosen.adapter }
    have hpick : pickCandidate (evaluate id s) = some d.chosen := by
      rw [pickCandidate, hd]
    have hg : Granted s id cls now g :=
      { conflict := hdec.conflict
        picked := ⟨d.chosen, hpick, rfl, (if_pos hcls).symm⟩
        fence := ⟨generation, hgeneration, rfl⟩
        valid := Status.isOk_iff.mp hvalid
        feasible := hfeasible
        rested := hrested
        adapter := by rw [hd]
        inBudget := hbudget }
    refine ⟨_, _, grantRecord s id g now, authorize_of_granted hg,
      OrderedMap.find_insert_self .., rfl, ?_, hrested⟩
    refine ⟨_, hlisted d.chosen.target hdec.target_mem, rfl, rfl, ?_⟩
    rw [buildCandidate_feasible, candidateFence,
      checkFeasibility_makeFence _ _ _ _ generation]
    exact hfeasible

theorem finds_legal_iff_throttle :
    FindsLegal (reached throttleNeighbor) ⟨1⟩ .throttle 10000 ↔
      ((∃ w, LegalOn (reached throttleNeighbor) ⟨1⟩ .throttle 10000 w) →
        budgetExhausted (reached throttleNeighbor).engine.policy.budget .throttle = false →
        ChosenAllows (reached throttleNeighbor) ⟨1⟩ .throttle 10000) :=
  finds_legal_iff _ _ _ _ (by decide)

/-- Workload 2 must not be throttled, and workload 3 may be. -/
def throttleOther : List Op :=
  [.setPolicy { workloads := OrderedMap.empty.insert ⟨2⟩ { throttlingAllowed := false } },
    .recordWorkerBoot ⟨2⟩ ⟨1⟩, .recordWorkloadGeneration ⟨2⟩ ⟨1⟩, .recordWorkerBoot ⟨3⟩ ⟨1⟩,
    .recordWorkloadGeneration ⟨3⟩ ⟨1⟩, .ingestEvidence { slowdown with neighbors := [⟨2⟩, ⟨3⟩] }]

/-- The migration of workload 2 is ranked first, and so the throttle of workload 3 is not
found. -/
theorem legal_throttle_refused :
    ¬∀ ops s id cls now, Runs.exec step {} ops = some s → cls ≠ .noAction →
      FindsLegal s id cls now := by
  intro h
  have hrun := @exec_reached throttleOther (by decide +kernel)
  have hfinds := h _ _ ⟨1⟩ .throttle 1000 hrun (by decide)
  have hlisted : (evaluate ⟨1⟩ (reached throttleOther)).candidates.any fun cand =>
      cand.cls = .throttle ∧ cand.target = ⟨3⟩ ∧ cand.feasible = .feasible := by decide +kernel
  obtain ⟨cand, hmem, hcand⟩ := List.any_eq_true.mp hlisted
  have hlegal : LegalOn (reached throttleOther) ⟨1⟩ .throttle 1000 ⟨3⟩ :=
    ⟨⟨cand, hmem, of_decide_eq_true hcand⟩, by decide +kernel⟩
  obtain ⟨iid, s', r, hauth, -⟩ := hfinds ⟨_, hlegal⟩ (by decide +kernel)
  have hrefused : authorizes (reached throttleOther) ⟨1⟩ .throttle 1000 = false := by
    decide +kernel
  rw [authorizes, hauth] at hrefused
  cases hrefused

end ContentionGovernor
