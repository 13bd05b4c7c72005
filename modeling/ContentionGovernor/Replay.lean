import ContentionGovernor.AtomicRejection
import ContentionGovernor.Hysteresis
import ContentionGovernor.Choice

/-!
# Replay

`replay.hpp` and `replay.cpp`: every conflict is evaluated once more in the final state, and
the decision is compared with the interventions selected for it.  The comparison holds as
long as no step changes the action that is ranked first for a conflict with a selection.
-/

namespace ContentionGovernor

structure ReplayReport where
  conflictsEvaluated : ℕ := 0
  candidatesBuilt : ℕ := 0
  diverged : List ConflictId := []
  status : Status := .good

/-- Whether the recorded selection of a conflict matches the replayed evaluation. -/
def selectionMatches (s : GovernorState) (c : ContentionConflict) (ev : ConflictEvaluation) :
    Bool :=
  if c.selectedIds = [] then true
  else
    match ev.decision with
    | some d => c.selectedIds.any fun iid =>
      match s.engine.interventions.find iid with
      | some r => r.cls = d.chosen.cls ∧ r.target = d.chosen.target
      | none => false
    | none => false

/-- One turn of the loop of `replay`. -/
def replayConflict (s : GovernorState) (report : ReplayReport)
    (entry : ConflictId × ContentionConflict) : ReplayReport :=
  let ev := evaluateConflict s.engine entry.1 s.engine.authority
  { report with
    conflictsEvaluated := report.conflictsEvaluated + 1
    candidatesBuilt := report.candidatesBuilt + ev.candidates.length
    diverged :=
      if selectionMatches s entry.2 ev then report.diverged else report.diverged ++ [entry.1] }

def replay (s : GovernorState) : ReplayReport :=
  let report := s.engine.conflicts.entries.foldl (replayConflict s) {}
  { report with
    status :=
      if report.diverged = [] then .good else .bad .invalidInput "replay diverged" }

/-! ## What a decision rests on -/

/-- The decision for a conflict, past its gates. -/
def decisionFor (s : EngineState) (ctx : AuthorityContext) (c : ContentionConflict) :
    Option InterventionDecision :=
  match currentEvidence s c with
  | [] => none
  | primary :: _ =>
    if c.degradation < s.policy.actionabilityThreshold then none
    else if c.associated = [] then none
    else if disruptiveRejections s.policy primary ≠ [] then none
    else rankedDecision s.policy
      (buildCandidates s ctx c primary (c.associated.insertionSort (· ≤ ·)))

theorem evaluateConflict_decision (s : EngineState) (cid : ConflictId) (ctx : AuthorityContext) :
    (evaluateConflict s cid ctx).decision = (s.conflicts.find cid).bind (decisionFor s ctx) := by
  unfold evaluateConflict
  cases s.conflicts.find cid with
  | none => rfl
  | some c =>
    dsimp only
    rw [Option.bind_some, decisionFor]
    cases currentEvidence s c with
    | nil => rfl
    | cons primary rest =>
      dsimp only
      split_ifs
      all_goals first | rfl | skip
      unfold evaluateCandidates
      dsimp only
      split <;> simp_all

/-- Two versions of a conflict that are evaluated alike. -/
structure EvaluatedAlike (c c' : ContentionConflict) : Prop where
  generation : c'.generation = c.generation
  evidenceIds : c'.evidenceIds = c.evidenceIds
  degradation : c'.degradation = c.degradation
  associated : c'.associated = c.associated

/-- Two engine states in which conflicts are evaluated alike. -/
structure DecidesAlike (s s' : EngineState) : Prop where
  evidence : s'.evidence = s.evidence
  authority : s'.authority = s.authority
  policy : ∃ b, s'.policy = { s.policy with budget := b }
  fairness : ∀ w, fairnessRefusals s' w = fairnessRefusals s w
  conflicts : OrderedMap.Related (fun _ => EvaluatedAlike) s.conflicts s'.conflicts

/-! The budget of a policy plays no part in an evaluation. -/

theorem workloadPolicyFor_budget (p : ContentionPolicy) (b : ActionBudget) :
    workloadPolicyFor { p with budget := b } = workloadPolicyFor p := rfl

theorem policyRefusals_budget (p : ContentionPolicy) (b : ActionBudget) (wp : WorkloadPolicy)
    (cls : InterventionClass) :
    policyRefusals { p with budget := b } wp cls = policyRefusals p wp cls := by
  cases cls <;> rfl

theorem classEligible_budget (p : ContentionPolicy) (b : ActionBudget) :
    classEligible { p with budget := b } = classEligible p := by
  funext cls
  cases cls <;> rfl

theorem better_budget (p : ContentionPolicy) (b : ActionBudget) :
    better { p with budget := b } = better p := by
  funext x y
  unfold better
  rw [workloadPolicyFor_budget]

theorem rankedDecision_budget (p : ContentionPolicy) (b : ActionBudget)
    (cs : List InterventionCandidate) :
    rankedDecision { p with budget := b } cs = rankedDecision p cs := by
  unfold rankedDecision rank
  rw [better_budget]

theorem disruptiveRejections_budget (p : ContentionPolicy) (b : ActionBudget)
    (primary : InterferenceEvidence) :
    disruptiveRejections { p with budget := b } primary = disruptiveRejections p primary := rfl

theorem revalidate_authority {s s' : EngineState} (h : s'.authority = s.authority) (f : Fence)
    (target : WorkloadId) : revalidate s' f target = revalidate s f target := by
  unfold revalidate
  rw [h]

theorem DecidesAlike.checkFeasibility {s s' : EngineState} (h : DecidesAlike s s')
    (target : WorkloadId) (cls : InterventionClass) (f : Fence) :
    checkFeasibility s' target cls f = checkFeasibility s target cls f := by
  obtain ⟨b, hpolicy⟩ := h.policy
  unfold ContentionGovernor.checkFeasibility
  simp only [revalidate_authority h.authority, h.fairness, hpolicy, policyRefusals_budget,
    workloadPolicyFor_budget]

theorem DecidesAlike.currentEvidence {s s' : EngineState} (h : DecidesAlike s s')
    {c c' : ContentionConflict} (hc : EvaluatedAlike c c') :
    currentEvidence s' c' = currentEvidence s c := by
  unfold ContentionGovernor.currentEvidence
  rw [hc.evidenceIds, h.evidence]

theorem DecidesAlike.buildCandidates {s s' : EngineState} (h : DecidesAlike s s')
    {c c' : ContentionConflict} (hc : EvaluatedAlike c c') (ctx : AuthorityContext)
    (primary : InterferenceEvidence) (targets : List WorkloadId) :
    buildCandidates s' ctx c' primary targets = buildCandidates s ctx c primary targets := by
  obtain ⟨b, hpolicy⟩ := h.policy
  unfold ContentionGovernor.buildCandidates
  have hbuild : ∀ target, buildCandidate s' ctx c' primary target =
      buildCandidate s ctx c primary target := by
    intro target
    funext cls
    unfold buildCandidate
    simp only [hc.generation, h.checkFeasibility]
  simp only [hbuild, hpolicy, classEligible_budget]

theorem DecidesAlike.decisionFor {s s' : EngineState} (h : DecidesAlike s s')
    {c c' : ContentionConflict} (hc : EvaluatedAlike c c') :
    decisionFor s' s'.authority c' = decisionFor s s.authority c := by
  obtain ⟨b, hpolicy⟩ := h.policy
  unfold ContentionGovernor.decisionFor
  simp only [h.currentEvidence hc, hc.degradation, hc.associated, h.authority,
    h.buildCandidates hc, hpolicy, rankedDecision_budget, disruptiveRejections_budget]

theorem choice_eq (s : GovernorState) (cid : ConflictId) :
    choice s cid = ((s.engine.conflicts.find cid).bind
      (ContentionGovernor.decisionFor s.engine s.engine.authority)).map
        fun d => (d.chosen.cls, d.chosen.target) :=
  congrArg (Option.map _) (evaluateConflict_decision s.engine cid s.engine.authority)

/-- Conflicts that are evaluated alike have the same action ranked first. -/
theorem DecidesAlike.choice {s s' : GovernorState} (h : DecidesAlike s.engine s'.engine)
    (cid : ConflictId) : choice s' cid = choice s cid := by
  rw [choice_eq, choice_eq]
  congr 1
  have hrel := h.conflicts cid
  generalize s.engine.conflicts.find cid = o at hrel
  generalize s'.engine.conflicts.find cid = o' at hrel
  cases hrel with
  | none => rw [Option.bind_none, Option.bind_none]
  | some halike => rw [Option.bind_some, Option.bind_some, h.decisionFor halike]

/-! ## What a replay accepts -/

/-- Every intervention selected for a conflict is the action that is ranked first for it. -/
def Reproduces (s : GovernorState) : Prop :=
  ∀ entry ∈ s.engine.conflicts.entries, ∀ iid ∈ entry.2.selectedIds,
    ∃ r ∈ s.engine.interventions.find iid, choice s entry.1 = some (r.cls, r.target)

instance (s : GovernorState) : Decidable (Reproduces s) :=
  inferInstanceAs (Decidable (∀ entry ∈ s.engine.conflicts.entries,
    ∀ iid ∈ entry.2.selectedIds, ∃ r ∈ s.engine.interventions.find iid, _))

theorem reproduces_iff {s : GovernorState} : Reproduces s ↔ ∀ cid c,
    s.engine.conflicts.find cid = some c → ∀ iid ∈ c.selectedIds, ∃ r,
      s.engine.interventions.find iid = some r ∧ choice s cid = some (r.cls, r.target) := by
  constructor
  · intro h cid c hc
    exact h (cid, c) (OrderedMap.mem_entries.mpr hc)
  · intro h entry hentry
    exact h entry.1 entry.2 (OrderedMap.mem_entries.mp hentry)

theorem selectionMatches_iff {s : GovernorState} {cid : ConflictId} {c : ContentionConflict} :
    selectionMatches s c (evaluateConflict s.engine cid s.engine.authority) ↔
      c.selectedIds = [] ∨ ∃ iid ∈ c.selectedIds, ∃ r,
        s.engine.interventions.find iid = some r ∧ choice s cid = some (r.cls, r.target) := by
  have hchoice : choice s cid = (evaluateConflict s.engine cid s.engine.authority).decision.map
    fun d => (d.chosen.cls, d.chosen.target) := rfl
  rw [hchoice, selectionMatches]
  split_ifs with hnone
  · exact iff_of_true rfl (.inl hnone)
  · rw [or_iff_right hnone]
    cases (evaluateConflict s.engine cid s.engine.authority).decision with
    | none => simp
    | some d =>
      simp only [List.any_eq_true, Option.map_some, Option.some.injEq, Prod.mk.injEq]
      refine exists_congr fun iid => and_congr_right fun _ => ?_
      cases s.engine.interventions.find iid with
      | none => simp
      | some r => simp [eq_comm (a := d.chosen.cls), eq_comm (a := d.chosen.target)]

theorem foldl_replayConflict (s : GovernorState) (entries : List (ConflictId × ContentionConflict))
    (report : ReplayReport) : (entries.foldl (replayConflict s) report).diverged =
      report.diverged ++ (entries.filter fun entry => !selectionMatches s entry.2
        (evaluateConflict s.engine entry.1 s.engine.authority)).map Prod.fst := by
  induction entries generalizing report with
  | nil => simp
  | cons entry entries ih =>
    rw [List.foldl_cons, ih, List.filter_cons, replayConflict]
    cases selectionMatches s entry.2 (evaluateConflict s.engine entry.1 s.engine.authority)
    all_goals simp

/-- The report names the conflicts whose selection does not match. -/
theorem diverged_eq_nil {s : GovernorState} : (replay s).diverged = [] ↔
    ∀ cid c, s.engine.conflicts.find cid = some c →
      selectionMatches s c (evaluateConflict s.engine cid s.engine.authority) := by
  have hfold : (replay s).diverged = _ := foldl_replayConflict s s.engine.conflicts.entries {}
  rw [hfold, List.nil_append, List.map_eq_nil_iff, List.filter_eq_nil_iff]
  constructor
  · intro h cid c hc
    simpa using h (cid, c) (OrderedMap.mem_entries.mpr hc)
  · intro h entry hentry
    simpa using h entry.1 entry.2 (OrderedMap.mem_entries.mp hentry)

theorem replay_of_reproduces {s : GovernorState} (h : Reproduces s) :
    (replay s).diverged = [] ∧ (replay s).status.isOk := by
  have hnil : (replay s).diverged = [] := by
    refine diverged_eq_nil.mpr fun cid c hc => selectionMatches_iff.mpr ?_
    cases hids : c.selectedIds with
    | nil => exact .inl rfl
    | cons iid rest =>
      have hmem : iid ∈ c.selectedIds := by rw [hids]; exact List.mem_cons_self
      obtain ⟨r, hr⟩ := reproduces_iff.mp h cid c hc iid hmem
      exact .inr ⟨iid, List.mem_cons_self, r, hr⟩
  refine ⟨hnil, ?_⟩
  have hstatus : (replay s).status =
      if (replay s).diverged = [] then .good else .bad .invalidInput "replay diverged" := rfl
  rw [hstatus, if_pos hnil]
  rfl

/-! ## Steps -/

/-- The intervention leaves its target below the cap of consecutive interventions. -/
def BelowCap (s : GovernorState) (g : Grant) (now : TimeMs) : Prop :=
  (chargeFairness ((s.engine.fairness.find g.target).getD {}) g.target now).consecutiveInterventions
    < s.engine.policy.maxConsecutiveInterventionsPerWorkload

instance (s : GovernorState) (g : Grant) (now : TimeMs) : Decidable (BelowCap s g now) :=
  inferInstanceAs (Decidable (_ < _))

/-- A request for the ranked choice takes no intervention id in use, and its target stays
below the cap. -/
def KeepsRequest (s : GovernorState) (op : Op) (cls : InterventionClass) (now : TimeMs) : Prop :=
  cls = .noAction ∧ s.engine.interventions.find ⟨s.nextInterventionId⟩ = none ∧
    ∀ g ∈ op.grant s, BelowCap s g now

instance (s : GovernorState) (op : Op) (cls : InterventionClass) (now : TimeMs) :
    Decidable (KeepsRequest s op cls now) :=
  inferInstanceAs (Decidable (_ ∧ _ ∧ ∀ g ∈ op.grant s, _))

/-- The records selected for a conflict. -/
def selectedRecords (s : GovernorState) (c : ContentionConflict) : List InterventionRecord :=
  c.selectedIds.filterMap s.engine.interventions.find

/-- The property holds of each conflict with each record selected for it. -/
def EachSelected (s : GovernorState)
    (P : ConflictId → ContentionConflict → InterventionRecord → Prop) : Prop :=
  ∀ entry ∈ s.engine.conflicts.entries, ∀ r ∈ selectedRecords s entry.2, P entry.1 entry.2 r

instance (s : GovernorState) (P : ConflictId → ContentionConflict → InterventionRecord → Prop)
    [∀ cid c r, Decidable (P cid c r)] : Decidable (EachSelected s P) :=
  inferInstanceAs (Decidable (∀ entry ∈ s.engine.conflicts.entries,
    ∀ r ∈ selectedRecords s entry.2, P entry.1 entry.2 r))

theorem EachSelected.at {s : GovernorState}
    {P : ConflictId → ContentionConflict → InterventionRecord → Prop} (h : EachSelected s P)
    {cid : ConflictId} {c : ContentionConflict} (hc : s.engine.conflicts.find cid = some c)
    {iid : InterventionId} (hiid : iid ∈ c.selectedIds) {r : InterventionRecord}
    (hr : s.engine.interventions.find iid = some r) : P cid c r :=
  h (cid, c) (OrderedMap.mem_entries.mpr hc) r (List.mem_filterMap.mpr ⟨iid, hiid, hr⟩)

/-- Under the policy and the registrations of `t` every selected action stays first. -/
def KeepsFirst (s : GovernorState) (t : EngineState) : Prop :=
  EachSelected s fun _ c r => StaysFirst s.engine t c.associated c.associated r.cls r.target

theorem KeepsFirst.at {s : GovernorState} {t : EngineState} (h : KeepsFirst s t)
    {cid : ConflictId} {c : ContentionConflict} (hc : s.engine.conflicts.find cid = some c)
    {iid : InterventionId} (hiid : iid ∈ c.selectedIds) {r : InterventionRecord}
    (hr : s.engine.interventions.find iid = some r) :
    StaysFirst s.engine t c.associated c.associated r.cls r.target :=
  EachSelected.at h hc hiid hr

instance (s : GovernorState) (t : EngineState) : Decidable (KeepsFirst s t) :=
  inferInstanceAs (Decidable (EachSelected s fun _ c r =>
    StaysFirst s.engine t c.associated c.associated r.cls r.target))

/-- What may touch a conflict with a selection.  A policy lets it pass its gates, and policy
and registrations leave the selected action first.  Evidence is stored under an id that the
conflict does not list; what is ingested for the conflict names neighbors among which the
selected action stays first, and what verifies it leaves it at the threshold and ends no
intervention on a workload at its cap. -/
def KeepsChoices (s : GovernorState) : Op → Prop
  | .authorize id cls now => KeepsRequest s (.authorize id cls now) cls now
  | .authorizeAndDispatch id cls now now' adapters =>
    KeepsRequest s (.authorizeAndDispatch id cls now now' adapters) cls now
  | .dispatch _ _ _ | .onAcknowledge _ _ _ | .onActionFailed _ _ _ | .evaluate _ | .save => True
  | .load _ _ _ => True
  | .setPolicy p => (validatePolicy p).isOk → KeepsFirst s (withPolicy s.engine p) ∧
      EachSelected s fun _ c _ => PassesGates (withPolicy s.engine p) c
  | .setAuthority a => KeepsFirst s { s.engine with authority := a }
  | .recordWorkerBoot w boot => KeepsFirst s { s.engine with authority :=
      { s.engine.authority with
        workloadBoots := s.engine.authority.workloadBoots.insert w boot } }
  | .recordWorkloadGeneration w g => KeepsFirst s { s.engine with authority :=
      { s.engine.authority with
        workloadGenerations := s.engine.authority.workloadGenerations.insert w g } }
  | .advanceEpoch => EachSelected s fun _ _ _ => False
  | .ingestEvidence e => (validateEvidence e).isOk → EachSelected s fun cid c r =>
      (storedEvidence s e).id ∉ c.evidenceIds ∧ (JoinsAt s (storedEvidence s e) cid →
        StaysFirst s.engine s.engine c.associated e.neighbors r.cls r.target)
  | .submitPostActionEvidence e => (validateEvidence e).isOk → EachSelected s fun cid c _ =>
      (storedEvidence s e).id ∉ c.evidenceIds ∧
        (JoinsAt s (storedEvidence s e) cid →
          ¬e.measured < s.engine.policy.actionabilityThreshold) ∧
        ∀ v ∈ closing s e, fairnessRefusals s.engine v.record.target = []

instance (s : GovernorState) : (op : Op) → Decidable (KeepsChoices s op)
  | .authorize id cls now => inferInstanceAs
      (Decidable (KeepsRequest s (.authorize id cls now) cls now))
  | .authorizeAndDispatch id cls now now' adapters => inferInstanceAs
      (Decidable (KeepsRequest s (.authorizeAndDispatch id cls now now' adapters) cls now))
  | .dispatch _ _ _ | .onAcknowledge _ _ _ | .onActionFailed _ _ _ | .evaluate _ | .save
  | .load _ _ _ => .isTrue trivial
  | .setPolicy p => inferInstanceAs (Decidable ((validatePolicy p).isOk →
      KeepsFirst s (withPolicy s.engine p) ∧
        EachSelected s fun _ c _ => PassesGates (withPolicy s.engine p) c))
  | .setAuthority _ | .recordWorkerBoot _ _ | .recordWorkloadGeneration _ _ =>
    inferInstanceAs (Decidable (KeepsFirst s _))
  | .advanceEpoch => inferInstanceAs (Decidable (EachSelected s fun _ _ _ => False))
  | .ingestEvidence e => inferInstanceAs (Decidable ((validateEvidence e).isOk →
      EachSelected s fun cid c r =>
        (storedEvidence s e).id ∉ c.evidenceIds ∧ (JoinsAt s (storedEvidence s e) cid →
          StaysFirst s.engine s.engine c.associated e.neighbors r.cls r.target)))
  | .submitPostActionEvidence e => inferInstanceAs (Decidable ((validateEvidence e).isOk →
      EachSelected s fun cid c _ =>
        (storedEvidence s e).id ∉ c.evidenceIds ∧
          (JoinsAt s (storedEvidence s e) cid →
            ¬e.measured < s.engine.policy.actionabilityThreshold) ∧
          ∀ v ∈ closing s e, fairnessRefusals s.engine v.record.target = []))

theorem OnlyInterventions.decidesAlike {s s' : GovernorState} (h : OnlyInterventions s s') :
    DecidesAlike s.engine s'.engine := by
  obtain ⟨_, _, rfl⟩ := h
  exact ⟨rfl, rfl, ⟨_, rfl⟩, fun _ => rfl,
    OrderedMap.Related.refl (fun _ _ => ⟨rfl, rfl, rfl, rfl⟩) _⟩

/-- A grant that leaves its target below the cap changes no evaluation. -/
theorem commitGrant_decidesAlike {s : GovernorState} {cid : ConflictId} {cls : InterventionClass}
    {now : TimeMs} {g : Grant} (hg : Granted s cid cls now g) (hcap : BelowCap s g now) :
    DecidesAlike s.engine (commitGrant s cid g now).engine where
  evidence := rfl
  authority := rfl
  policy := ⟨_, rfl⟩
  fairness := by
    intro w
    have hbefore := (feasible_iff.mp hg.feasible).2.2
    by_cases hw : w = g.target
    · rw [hw, hbefore]
      unfold fairnessRefusals commitGrant
      dsimp only
      rw [OrderedMap.find_insert_self]
      exact if_neg (UInt32.not_le.mpr hcap)
    · unfold fairnessRefusals commitGrant
      dsimp only
      rw [OrderedMap.find_insert_of_ne _ hw]
  conflicts := OrderedMap.Related.insert (fun _ _ => ⟨rfl, rfl, rfl, rfl⟩) hg.conflict
    ⟨rfl, rfl, rfl, rfl⟩

/-- A request that keeps the choices leaves every evaluation as it is. -/
theorem KeepsRequest.choice_eq {s s' : GovernorState} {op : Op} {cid : ConflictId}
    {cls : InterventionClass} {now : TimeMs} (hop : KeepsRequest s op cls now)
    (hreq : op.request = some (cid, cls, now)) (h : step s op = some s') (j : ConflictId) :
    choice s' j = choice s j := by
  rcases step_of_request h hreq with ⟨-, rfl⟩ | ⟨g, hgrant, hg, honly⟩
  · rfl
  · have hcommit := (commitGrant_decidesAlike hg (hop.2.2 g hgrant)).choice j
    rw [honly.decidesAlike.choice]
    exact hcommit

/-! ## One choice over a step -/

section Kept

variable {s s' : GovernorState} {cid : ConflictId} {c c' : ContentionConflict}
  {cls : InterventionClass} {w : WorkloadId}

/-- Nothing but the policy and the registrations is replaced. -/
theorem choice_of_terms (hs : PolicyAccepted s) (hs' : PolicyAccepted s')
    (hconflicts : s'.engine.conflicts = s.engine.conflicts)
    (hc : s.engine.conflicts.find cid = some c)
    (hfirst : StaysFirst s.engine s'.engine c.associated c.associated cls w)
    (hgates : PassesGates s.engine c → PassesGates s'.engine c)
    (hchoice : choice s cid = some (cls, w)) : choice s' cid = some (cls, w) := by
  have hvalues := finiteValues_of_valid hs
  have hpasses := ((choice_iff hvalues hc).mp hchoice).1
  exact hfirst.choice_eq hvalues (finiteValues_of_valid hs') hc (hconflicts ▸ hc) (hgates hpasses)
    hchoice

/-- A record joins or passes the conflict, and policy, registrations and caps stay. -/
theorem choice_of_stored (hs : PolicyAccepted s) (hs' : PolicyAccepted s')
    (hpolicy : s'.engine.policy = s.engine.policy)
    (hauthority : s'.engine.authority = s.engine.authority)
    (hfairness : ∀ w, fairnessRefusals s'.engine w = fairnessRefusals s.engine w)
    {e : InterferenceEvidence} (hevidence : s'.engine.evidence = s.engine.evidence.insert e.id e)
    (hunlisted : e.id ∉ c.evidenceIds)
    (hc : s.engine.conflicts.find cid = some c) (hc' : s'.engine.conflicts.find cid = some c')
    (hids : c.evidenceIds <+: c'.evidenceIds)
    (hmagnitude : ¬c.degradation < s.engine.policy.actionabilityThreshold →
      ¬c'.degradation < s.engine.policy.actionabilityThreshold)
    (hfirst : StaysFirst s.engine s.engine c.associated c'.associated cls w)
    (hchoice : choice s cid = some (cls, w)) : choice s' cid = some (cls, w) := by
  have hvalues := finiteValues_of_valid hs
  have hgates := ((choice_iff hvalues hc).mp hchoice).1
  have hgates' : PassesGates s'.engine c' := by
    refine hgates.carry hids (fun eid heid => ?_) hpolicy (hmagnitude hgates.magnitude)
    rw [hevidence]
    have hother : eid ≠ e.id := by
      rintro rfl
      exact hunlisted heid
    exact OrderedMap.find_insert_of_ne _ hother _
  have hfirst' : StaysFirst s.engine s'.engine c.associated c'.associated cls w :=
    hfirst.congr hpolicy (by rw [hauthority]) (by rw [hauthority]) hfairness
  exact hfirst'.choice_eq hvalues (finiteValues_of_valid hs') hc hc' hgates' hchoice

/-- An action that is chosen stays first where nothing changes. -/
theorem staysFirst_of_choice (hs : PolicyAccepted s) (hc : s.engine.conflicts.find cid = some c)
    (hchoice : choice s cid = some (cls, w)) :
    StaysFirst s.engine s.engine c.associated c.associated cls w where
  available := ((choice_iff (finiteValues_of_valid hs) hc).mp hchoice).2.1
  behind := fun _ _ _ _ hnew hold => absurd hnew hold
  values := fun _ _ => rfl

theorem choice_ingested (hs : PolicyAccepted s) {e : InterferenceEvidence}
    (hs' : PolicyAccepted (ingestEvidence e s).2) (hv : (validateEvidence e).isOk)
    (hc : s.engine.conflicts.find cid = some c)
    (hc' : (ingestEvidence e s).2.engine.conflicts.find cid = some c')
    (hselected : c'.selectedIds ≠ []) (hunlisted : (storedEvidence s e).id ∉ c.evidenceIds)
    (hjoins : JoinsAt s (storedEvidence s e) cid →
      StaysFirst s.engine s.engine c.associated e.neighbors cls w)
    (hchoice : choice s cid = some (cls, w)) :
    choice (ingestEvidence e s).2 cid = some (cls, w) := by
  have hframe : StepFrame (.ingestEvidence e) s (ingestEvidence e s).2 := step_frame rfl
  have hfairness : ∀ w, fairnessRefusals (ingestEvidence e s).2.engine w =
      fairnessRefusals s.engine w := by
    intro w
    unfold fairnessRefusals
    rw [hframe.fairness rfl, hframe.policy rfl]
  have hevidence : (ingestEvidence e s).2.engine.evidence =
      s.engine.evidence.insert (storedEvidence s e).id (storedEvidence s e) := by
    obtain ⟨n, hstored⟩ := ingestEvidence_of_valid (s := s) hv
    rw [hstored]
    exact (storeEvidence_conflicts _ _).1
  have hkept := @choice_of_stored _ _ cid c c' cls w hs hs' (hframe.policy rfl)
    (hframe.authority rfl) hfairness _ hevidence hunlisted hc hc'
  -- The evidence opens a conflict, joins this one or joins another.
  rcases ingest_conflicts (s := s) hv with ⟨-, hinsert⟩ | ⟨key, c₀, hlocated, hinsert⟩
  · rw [hinsert] at hc'
    rcases OrderedMap.find_insert_cases hc' with ⟨-, rfl⟩ | ⟨-, hsame⟩
    · obtain ⟨_, _, hprogress⟩ := progressConflict_frame s.engine.policy (storedEvidence s e)
        (newConflict s (storedEvidence s e))
      rw [hprogress] at hselected
      exact absurd rfl hselected
    · obtain rfl := Option.some.inj (hc.symm.trans hsame)
      exact hkept (List.prefix_refl _) id (staysFirst_of_choice hs hc hchoice) hchoice
  · rw [hinsert] at hc'
    rcases OrderedMap.find_insert_cases hc' with ⟨rfl, rfl⟩ | ⟨-, hsame⟩
    · obtain rfl := Option.some.inj (hc.symm.trans (locateConflict_find hlocated))
      obtain ⟨_, _, hprogress⟩ := progressConflict_frame s.engine.policy (storedEvidence s e)
        (updateConflict c (storedEvidence s e))
      rw [hprogress] at hkept
      refine hkept (List.prefix_append _ _)
        (fun hreached hbelow => hreached (Binary64.lt_of_maximum_lt hbelow)) ?_ hchoice
      simpa only [updateConflict, storedEvidence_neighbors]
        using hjoins (joinsAt_of_located hlocated)
    · obtain rfl := Option.some.inj (hc.symm.trans hsame)
      exact hkept (List.prefix_refl _) id (staysFirst_of_choice hs hc hchoice) hchoice

/-- A verification of an intervention on a workload below its cap leaves who is at the cap. -/
theorem fairness_verified {e : InterferenceEvidence}
    (hclosing : ∀ v ∈ closing s e, fairnessRefusals s.engine v.record.target = [])
    (w : WorkloadId) : fairnessRefusals (submitPostActionEvidence e s).2.engine w =
      fairnessRefusals s.engine w := by
  have hframe : StepFrame (.submitPostActionEvidence e) s (submitPostActionEvidence e s).2 :=
    step_frame rfl
  unfold fairnessRefusals
  rw [hframe.policy rfl, find_fairness_submit]
  cases hrecord : s.engine.fairness.find w with
  | none => rfl
  | some fr =>
    rw [Option.map_some]
    by_cases hclears : (closing s e).any fun v => v.record.target = w ∧ verdict s e v = .resolved
    · obtain ⟨v, hv, hresolved⟩ := (Option.any_eq_true _ _).mp hclears
      have hbelow := hclosing v hv
      rw [(of_decide_eq_true hresolved).1, fairnessRefusals, hrecord] at hbelow
      dsimp only at hbelow ⊢
      split_ifs at hbelow with hcap
      rw [if_pos hclears, if_neg hcap, if_neg]
      exact fun hzero => hcap (UInt32.le_trans hzero UInt32.zero_le)
    · rw [if_neg hclears]

theorem choice_verified (hs : PolicyAccepted s) {e : InterferenceEvidence}
    (hs' : PolicyAccepted (submitPostActionEvidence e s).2) (hv : (validateEvidence e).isOk)
    (hc : s.engine.conflicts.find cid = some c)
    (hc' : (submitPostActionEvidence e s).2.engine.conflicts.find cid = some c')
    (hunlisted : (storedEvidence s e).id ∉ c.evidenceIds)
    (hjoins : JoinsAt s (storedEvidence s e) cid →
      ¬e.measured < s.engine.policy.actionabilityThreshold)
    (hclosing : ∀ v ∈ closing s e, fairnessRefusals s.engine v.record.target = [])
    (hchoice : choice s cid = some (cls, w)) :
    choice (submitPostActionEvidence e s).2 cid = some (cls, w) := by
  have hframe : StepFrame (.submitPostActionEvidence e) s (submitPostActionEvidence e s).2 :=
    step_frame rfl
  have hkept := @choice_of_stored _ _ cid c c' cls w hs hs' (hframe.policy rfl)
    (hframe.authority rfl) (fairness_verified hclosing) _ (submit_evidence hv) hunlisted hc hc'
  have hfirst := staysFirst_of_choice hs hc hchoice
  rcases submit_remeasured (s := s) hv with ⟨-, hsame⟩ | ⟨key, c₀, state, hlocated, hinsert⟩
  · rw [hsame] at hc'
    obtain rfl := Option.some.inj (hc.symm.trans hc')
    exact hkept (List.prefix_refl _) id hfirst hchoice
  · rw [hinsert] at hc'
    rcases OrderedMap.find_insert_cases hc' with ⟨rfl, rfl⟩ | ⟨-, hsame⟩
    · obtain rfl := Option.some.inj (hc.symm.trans (locateConflict_find hlocated))
      refine hkept (List.prefix_append _ _) (fun _ => ?_) hfirst hchoice
      simpa only [remeasureConflict, storedEvidence_degradation]
        using hjoins (joinsAt_of_located hlocated)
    · obtain rfl := Option.some.inj (hc.symm.trans hsame)
      exact hkept (List.prefix_refl _) id hfirst hchoice

/-- The choice for a conflict outlives an operation that keeps the choices, as long as the
conflict has a selection. -/
theorem choice_kept {op : Op} (hs : PolicyAccepted s) (hop : KeepsChoices s op)
    (h : step s op = some s') (hload : ¬op.isLoad)
    (hc : s.engine.conflicts.find cid = some c)
    (hc' : s'.engine.conflicts.find cid = some c') {iid : InterventionId}
    (hiid : iid ∈ c.selectedIds) (hiid' : iid ∈ c'.selectedIds) {r : InterventionRecord}
    (hr : s.engine.interventions.find iid = some r) (hchoice : choice s cid = some (r.cls, r.target)) :
    choice s' cid = some (r.cls, r.target) := by
  have hs' : PolicyAccepted s' := step_policyAccepted hs h
  cases op with
  | authorize id cls now =>
    rw [KeepsRequest.choice_eq hop rfl h]
    exact hchoice
  | authorizeAndDispatch id cls now now' adapters =>
    rw [KeepsRequest.choice_eq hop rfl h]
    exact hchoice
  | dispatch id now adapters =>
    cases h
    rw [(onlyInterventions_dispatch id now adapters s).decidesAlike.choice]
    exact hchoice
  | onAcknowledge id attempt now =>
    cases h
    rw [(onlyInterventions_onAcknowledge id attempt now s).decidesAlike.choice]
    exact hchoice
  | onActionFailed id attempt note =>
    cases h
    rw [(onlyInterventions_onActionFailed id attempt note s).decidesAlike.choice]
    exact hchoice
  | evaluate | save =>
    cases h
    exact hchoice
  | setPolicy p =>
    cases h
    by_cases hp : (validatePolicy p).isOk
    · have hengine := setPolicy_engine s hp
      obtain ⟨hfirst, hgates⟩ := hop hp
      refine choice_of_terms hs hs' (by rw [hengine]; rfl) hc ?_ (fun _ => ?_) hchoice
      · rw [hengine]
        exact hfirst.at hc hiid hr
      · rw [hengine]
        exact hgates.at hc hiid hr
    · rw [setPolicy_of_invalid hp]
      exact hchoice
  | setAuthority a =>
    cases h
    have hfirst : KeepsFirst s { s.engine with authority := a } := hop
    exact choice_of_terms hs hs' rfl hc (hfirst.at hc hiid hr)
      (fun hgates => ⟨hgates.1, hgates.2⟩) hchoice
  | recordWorkerBoot | recordWorkloadGeneration =>
    cases h
    have hfirst : KeepsFirst s _ := hop
    exact choice_of_terms hs hs' rfl hc (hfirst.at hc hiid hr)
      (fun hgates => ⟨hgates.1, hgates.2⟩) hchoice
  | advanceEpoch =>
    have hnone : EachSelected s fun _ _ _ => False := hop
    exact (hnone.at hc hiid hr).elim
  | ingestEvidence e =>
    cases h
    by_cases hv : (validateEvidence e).isOk
    · obtain ⟨hunlisted, hjoins⟩ := (hop hv).at hc hiid hr
      exact choice_ingested hs hs' hv hc hc' (List.ne_nil_of_mem hiid') hunlisted hjoins hchoice
    · rw [ingestEvidence_of_invalid hv]
      exact hchoice
  | submitPostActionEvidence e =>
    cases h
    by_cases hv : (validateEvidence e).isOk
    · obtain ⟨hunlisted, hjoins, hclosing⟩ := (hop hv).at hc hiid hr
      exact choice_verified hs hs' hv hc hc' hunlisted hjoins hclosing hchoice
    · rw [submitPostActionEvidence_of_invalid hv]
      exact hchoice
  | load => exact absurd rfl hload

end Kept

/-- A ranked request is granted the action that is ranked first. -/
theorem choice_of_granted {s : GovernorState} {cid : ConflictId} {now : TimeMs} {g : Grant}
    (h : Granted s cid .noAction now g) : choice s cid = some (g.cls, g.target) := by
  obtain ⟨p, hp, htarget, hcls⟩ := h.picked
  obtain ⟨d, hd, rfl⟩ := decision_of_pick hp
  rw [if_neg (not_not.mpr rfl)] at hcls
  rw [choice, hd, Option.map_some, htarget, hcls]

/-- The records of a step: an old one stays the same action, and a grant adds its own. -/
theorem record_carried {s s' : GovernorState} {op : Op} (hop : KeepsChoices s op)
    (h : step s op = some s') (hload : ¬op.isLoad) {iid : InterventionId} {r : InterventionRecord}
    (hr : s.engine.interventions.find iid = some r) :
    ∃ r', s'.engine.interventions.find iid = some r' ∧ SameAction r r' := by
  rcases step_records h hload with ⟨-, -, hrel⟩ | ⟨cid, cls, now, g, hselects, hrel⟩
  · obtain ⟨r', hr', hstep⟩ := hrel.exists_right hr
    exact ⟨r', hr', hstep.1⟩
  · have hfree : s.engine.interventions.find ⟨s.nextInterventionId⟩ = none := by
      cases op with
      | authorize | authorizeAndDispatch => exact hop.2.1
      | _ => cases hselects.request
    have hne : iid ≠ ⟨s.nextInterventionId⟩ := by
      rintro rfl
      rw [hfree] at hr
      cases hr
    have hcommit : (commitGrant s cid g now).engine.interventions.find iid = some r := by
      rw [← hr]
      exact OrderedMap.find_insert_of_ne _ hne _
    obtain ⟨r', hr', hstep⟩ := hrel.exists_right hcommit
    exact ⟨r', hr', hstep.1⟩

/-- What a replay of a state rests on. -/
structure Replays (s : GovernorState) : Prop where
  accepted : PolicyAccepted s
  reproduces : Reproduces s

theorem step_replays {s s' : GovernorState} {op : Op} (hs : Replays s) (hop : KeepsChoices s op)
    (h : step s op = some s') (hload : ¬op.isLoad) : Replays s' := by
  refine ⟨step_policyAccepted hs.accepted h, ?_⟩
  have hreproduces := reproduces_iff.mp hs.reproduces
  rw [reproduces_iff]
  -- What was selected before keeps its record and its rank.
  have hold : ∀ cid c c', s.engine.conflicts.find cid = some c →
      s'.engine.conflicts.find cid = some c' → ∀ iid ∈ c.selectedIds, iid ∈ c'.selectedIds →
      ∃ r, s'.engine.interventions.find iid = some r ∧ choice s' cid = some (r.cls, r.target) := by
    intro cid c c' hc hc' iid hiid hiid'
    obtain ⟨r, hr, hchoice⟩ := hreproduces cid c hc iid hiid
    obtain ⟨r', hr', hsame⟩ := record_carried hop h hload hr
    refine ⟨r', hr', ?_⟩
    rw [choice_kept hs.accepted hop h hload hc hc' hiid hiid' hr hchoice, hsame.cls, hsame.target]
  intro cid c' hc' iid hiid
  rcases conflict_before h hload hc' with
    ⟨c, hc, hcarried⟩ | ⟨-, hopens⟩ | ⟨cls, now, g, hselects, rfl⟩
  · exact hold cid c c' hc hc' iid (hcarried.selectedIds ▸ hiid) hiid
  · rw [hopens.selectedIds] at hiid
    cases hiid
  · rcases List.mem_append.mp hiid with hbefore | hnew
    · exact hold cid g.conflict _ hselects.granted.conflict hc' iid hbefore hiid
    · rw [List.mem_singleton.mp hnew]
      have hrequest : KeepsRequest s op cls now := by
        cases op with
        | authorize | authorizeAndDispatch =>
          cases hselects.request
          exact hop
        | _ => cases hselects.request
      obtain ⟨r', hr', hstep⟩ := (related_of_granted h hselects.request
        hselects.granted).exists_right (k := ⟨s.nextInterventionId⟩)
          (OrderedMap.find_insert_self _ _ _)
      obtain rfl := hrequest.1
      refine ⟨r', hr', ?_⟩
      rw [hrequest.choice_eq hselects.request h, choice_of_granted hselects.granted,
        hstep.1.cls, hstep.1.target]
      rfl

/-! ## Runs with saves and loads -/

/-- A governor, and the states in which it was saved. -/
structure Archive where
  gov : GovernorState := {}
  saved : List GovernorState := []

def Archive.after (a : Archive) : Op → List GovernorState
  | .save => a.gov :: a.saved
  | _ => a.saved

def archiveStep (a : Archive) (op : Op) : Option Archive :=
  (step a.gov op).map fun s => ⟨s, a.after op⟩

/-- The archive does not change what the governor does. -/
theorem exec_archived (a : Archive) (ops : List Op) :
    (Runs.exec archiveStep a ops).map Archive.gov = Runs.exec step a.gov ops := by
  refine Runs.exec_map (fun a op => ?_) a
  rw [archiveStep, Option.map_map]
  exact Option.map_id_apply

/-- The file that a load is given. -/
def Op.file : Op → Option (List UInt8)
  | .load _ _ file => file
  | _ => none

/-- The operation keeps the choices, and a load that restores a state is given the snapshot
of one that was saved. -/
def KeepsArchive (a : Archive) (op : Op) : Prop :=
  KeepsChoices a.gov op ∧ (op.restores a.gov →
    ∃ u ∈ a.saved, Loadable u ∧ op.file = some (saveToBytes u))

instance (a : Archive) (op : Op) : Decidable (KeepsArchive a op) :=
  inferInstanceAs (Decidable (_ ∧ (_ → ∃ u ∈ a.saved, Loadable u ∧ op.file = some _)))

/-- A replay of the governor, or of a state in which it was saved, has what it rests on. -/
def AllReplay (a : Archive) : Prop := Replays a.gov ∧ ∀ u ∈ a.saved, Replays u

theorem loadState_accepted {readable : Bool} {data : List UInt8} {s : GovernorState}
    {r : Status × GovernorState} (h : loadState readable (some data) s = .ok r) (hok : r.1.isOk) :
    data.length ≤ 2 ^ 31 ∧ readable = true := by
  unfold loadState at h
  dsimp only at h
  split_ifs at h with hsize hreadable
  · obtain rfl := Except.ok.inj h
    exact absurd hok Bool.false_ne_true
  · exact ⟨Nat.le_of_not_lt hsize, hreadable⟩
  · obtain rfl := Except.ok.inj h
    exact absurd hok Bool.false_ne_true

theorem load_saved {s s' u : GovernorState} {opts : Options} {readable : Bool}
    (hu : Loadable u) (hrestores : (Op.load opts readable (some (saveToBytes u))).restores s)
    (h : step s (.load opts readable (some (saveToBytes u))) = some s') : s' = u := by
  simp only [Op.restores, Bool.and_eq_true, decide_eq_true_eq] at hrestores
  obtain ⟨⟨henable, hpath⟩, haccepted⟩ := hrestores
  cases hload : loadState readable (some (saveToBytes u)) s with
  | error fault =>
    rw [hload] at haccepted
    cases haccepted
  | ok r =>
    rw [hload] at haccepted
    obtain ⟨hsize, rfl⟩ := loadState_accepted hload haccepted
    rw [step_load_saved henable hpath hu hsize] at h
    exact (Option.some.inj h).symm

theorem step_allReplay {a a' : Archive} {op : Op} (ha : AllReplay a) (hop : KeepsArchive a op)
    (h : archiveStep a op = some a') : AllReplay a' := by
  obtain ⟨s', hs', rfl⟩ := Option.map_eq_some_iff.mp h
  refine ⟨?_, ?_⟩
  · by_cases hload : op.isLoad
    · cases op with
      | load opts readable file =>
        by_cases hrestores : (Op.load opts readable file).restores a.gov
        · obtain ⟨u, hu, hloadable, hfile⟩ := hop.2 hrestores
          obtain rfl : file = some (saveToBytes u) := hfile
          rw [load_saved hloadable hrestores hs']
          exact ha.2 u hu
        · rw [load_of_not_restores hs' hrestores]
          exact ha.1
      | _ => cases hload
    · exact step_replays ha.1 hop.1 hs' hload
  · cases op with
    | save => exact List.forall_mem_cons.mpr ha
    | _ => exact ha.2

theorem allReplay_empty : AllReplay {} := by
  refine ⟨⟨@policyAccepted_reached [] {} rfl, ?_⟩, ?_⟩
  · intro entry hentry
    cases hentry
  · intro u hu
    cases hu

/-- In a run from the empty governor whose requests are for the ranked choice, and in which
nothing moves an action that is selected from the first rank, a replay diverges nowhere. -/
theorem replay_accepts (ops : List Op) (s : GovernorState)
    (hops : Runs.Guarded archiveStep KeepsArchive {} ops) (hrun : Runs.exec step {} ops = some s) :
    (replay s).diverged = [] ∧ (replay s).status.isOk := by
  have harchived := exec_archived {} ops
  rw [hrun] at harchived
  obtain ⟨a, ha, rfl⟩ := Option.map_eq_some_iff.mp harchived
  have hall : AllReplay a :=
    Runs.invariant_of_guarded (fun _ _ _ => step_allReplay) hops ha allReplay_empty
  exact replay_of_reproduces hall.1.reproduces

/-- The ranked choice is taken twice.  In between the slowdown is observed again, the
neighbor restarts and a policy forbids preemption; the evidence after the second action shows
part of the relief. -/
def rankedHistory : List Op :=
  registerNeighbor ++ [.ingestEvidence slowdown, .authorize ⟨1⟩ .noAction 1000000,
    .ingestEvidence slowdown, .recordWorkerBoot ⟨2⟩ ⟨2⟩,
    .setPolicy { generation := ⟨2⟩, preemptionAllowed := false },
    .authorizeAndDispatch ⟨1⟩ .noAction 2000000 2000500 none,
    .submitPostActionEvidence { slowdown with coRunObservation := 70.0 }]

/-- After a save a second workload is registered; the saved state is loaded and the slowdown
observed once more. -/
def saveAndReload : List Op :=
  [.save, .recordWorkloadGeneration ⟨3⟩ ⟨1⟩,
    .load persisted true (some (saveToBytes (reached rankedHistory))), .ingestEvidence slowdown]

theorem replay_accepts_reloaded : ∃ s,
    Runs.exec step {} (rankedHistory ++ saveAndReload) = some s ∧
      (replay s).diverged = [] ∧ (replay s).status.isOk := by
  have hloadable : Loadable (reached rankedHistory) := by decide +kernel
  have hsize : (saveToBytes (reached rankedHistory)).length ≤ 2 ^ 31 := by decide +kernel
  have hload : ∀ s, step s (.load persisted true (some (saveToBytes (reached rankedHistory)))) =
      some (reached rankedHistory) := fun s => step_load_saved rfl (by decide) hloadable hsize
  have hhistory : Runs.exec step {} rankedHistory = some (reached rankedHistory) :=
    exec_reached (by decide +kernel)
  have hrun : Runs.exec step {} (rankedHistory ++ saveAndReload) =
      some (ingestEvidence slowdown (reached rankedHistory)).2 :=
    Runs.exec_append.mpr ⟨_, hhistory, Runs.exec_cons.mpr ⟨_, rfl, Runs.exec_cons.mpr ⟨_, rfl,
      Runs.exec_cons.mpr ⟨_, hload _, rfl⟩⟩⟩⟩
  refine ⟨_, hrun, replay_accepts _ _ (Runs.guarded_append (by decide +kernel) fun a ha => ?_) hrun⟩
  have hgov : a.gov = reached rankedHistory := by
    have harchived := exec_archived {} rankedHistory
    rw [ha, hhistory] at harchived
    exact Option.some.inj harchived
  obtain ⟨_, saved⟩ := a
  obtain rfl := hgov
  have hregister : KeepsChoices (reached rankedHistory) (.recordWorkloadGeneration ⟨3⟩ ⟨1⟩) := by
    decide +kernel
  have hobserve : KeepsChoices (reached rankedHistory) (.ingestEvidence slowdown) := by
    decide +kernel
  refine ⟨⟨trivial, nofun⟩, fun b hb => ?_⟩
  obtain rfl := Option.some.inj hb
  refine ⟨⟨hregister, nofun⟩, fun b hb => ?_⟩
  obtain rfl := Option.some.inj hb
  refine ⟨⟨trivial, fun _ => ⟨_, List.mem_cons_self, hloadable, rfl⟩⟩, fun b hb => ?_⟩
  rw [archiveStep, hload, Option.map_some] at hb
  obtain rfl := Option.some.inj hb
  exact ⟨⟨hobserve, nofun⟩, fun _ _ => trivial⟩

/-- The third intervention brings the target to its cap. -/
def rankedToCap : List Op :=
  registerNeighbor ++ [.ingestEvidence slowdown, .authorize ⟨1⟩ .noAction 1000000,
    .authorizeAndDispatch ⟨1⟩ .noAction 2000000 2000500 none,
    .authorize ⟨1⟩ .noAction 3000000]

/-- Every request of the operation asks for the ranked choice. -/
def Op.isRanked (op : Op) : Bool := op.request.all fun request => request.2.1 = .noAction

theorem honest_history_diverges :
    ¬∀ ops s, (∀ op ∈ ops, op.isRanked ∧ ¬op.isLoad) → Runs.exec step {} ops = some s →
      (replay s).diverged = [] ∧ (replay s).status.isOk := by
  intro h
  have hreplay := h rankedToCap _ (by decide +kernel) (exec_reached (by decide +kernel))
  have hdiverged : (replay (reached rankedToCap)).diverged = [⟨1⟩] := by decide +kernel
  rw [hdiverged] at hreplay
  cases hreplay.1

end ContentionGovernor
