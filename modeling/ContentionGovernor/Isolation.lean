import ContentionGovernor.ConflictHistory
import ContentionGovernor.Replay
import ContentionGovernor.Verification

/-!
# Isolation of conflicts

What the evaluation of a conflict reads, and which operations leave all of it as it is: an
operation on other conflicts and other workloads reaches a conflict through the action budget
alone.
-/

namespace ContentionGovernor

/-! ## What a conflict reads -/

/-- Two engine states that look the same from the conflict: the policy apart from its budget,
the authority, and what is recorded of its evidence and its associated workloads. -/
structure SameView (c : ContentionConflict) (s s' : EngineState) : Prop where
  policy : ∃ b, s'.policy = { s.policy with budget := b }
  authority : ∃ generations boots, s'.authority =
    { s.authority with workloadGenerations := generations, workloadBoots := boots }
  generations : ∀ w ∈ c.associated,
    s'.authority.workloadGenerations.find w = s.authority.workloadGenerations.find w
  boots : ∀ w ∈ c.associated,
    s'.authority.workloadBoots.find w = s.authority.workloadBoots.find w
  evidence : ∀ eid ∈ c.evidenceIds, s'.evidence.find eid = s.evidence.find eid
  fairness : ∀ w ∈ c.associated, s'.fairness.find w = s.fairness.find w

theorem SameView.refl (c : ContentionConflict) (s : EngineState) : SameView c s s :=
  ⟨⟨_, rfl⟩, ⟨_, _, rfl⟩, fun _ _ => rfl, fun _ _ => rfl, fun _ _ => rfl, fun _ _ => rfl⟩

theorem SameView.symm {c : ContentionConflict} {s s' : EngineState} (h : SameView c s s') :
    SameView c s' s where
  policy := by
    obtain ⟨b, hb⟩ := h.policy
    exact ⟨s.policy.budget, by rw [hb]⟩
  authority := by
    obtain ⟨generations, boots, ha⟩ := h.authority
    exact ⟨s.authority.workloadGenerations, s.authority.workloadBoots, by rw [ha]⟩
  generations w hw := (h.generations w hw).symm
  boots w hw := (h.boots w hw).symm
  evidence eid heid := (h.evidence eid heid).symm
  fairness w hw := (h.fairness w hw).symm

theorem SameView.trans {c : ContentionConflict} {s s' s'' : EngineState} (h : SameView c s s')
    (h' : SameView c s' s'') : SameView c s s'' where
  policy := by
    obtain ⟨b, hb⟩ := h.policy
    obtain ⟨b', hb'⟩ := h'.policy
    exact ⟨b', by rw [hb', hb]⟩
  authority := by
    obtain ⟨generations, boots, ha⟩ := h.authority
    obtain ⟨generations', boots', ha'⟩ := h'.authority
    exact ⟨generations', boots', by rw [ha', ha]⟩
  generations w hw := (h'.generations w hw).trans (h.generations w hw)
  boots w hw := (h'.boots w hw).trans (h.boots w hw)
  evidence eid heid := (h'.evidence eid heid).trans (h.evidence eid heid)
  fairness w hw := (h'.fairness w hw).trans (h.fairness w hw)

section View

variable {c : ContentionConflict} {s s' : EngineState} (h : SameView c s s')
include h

theorem SameView.revalidate {w : WorkloadId} (hw : w ∈ c.associated) (f : Fence) :
    revalidate s' f w = revalidate s f w := by
  obtain ⟨generations, boots, ha⟩ := h.authority
  have hgenerations := h.generations w hw
  have hboots := h.boots w hw
  unfold ContentionGovernor.revalidate
  dsimp only
  rw [hgenerations, hboots, ha]

theorem SameView.makeFence {w : WorkloadId} (hw : w ∈ c.associated)
    (generation : InterferenceEvidenceGeneration) :
    makeFence s'.authority c.generation generation w ⟨1⟩ =
      makeFence s.authority c.generation generation w ⟨1⟩ := by
  obtain ⟨generations, boots, ha⟩ := h.authority
  have hgenerations := h.generations w hw
  have hboots := h.boots w hw
  unfold ContentionGovernor.makeFence
  rw [hgenerations, hboots, ha]

theorem SameView.checkFeasibility {w : WorkloadId} (hw : w ∈ c.associated)
    (cls : InterventionClass) (f : Fence) :
    checkFeasibility s' w cls f = checkFeasibility s w cls f := by
  obtain ⟨b, hb⟩ := h.policy
  have hfairness : fairnessRefusals s' w = fairnessRefusals s w := by
    unfold fairnessRefusals
    rw [h.fairness w hw, hb]
  unfold ContentionGovernor.checkFeasibility
  rw [h.revalidate hw, hfairness, hb, workloadPolicyFor_budget, policyRefusals_budget]

theorem SameView.currentEvidence : currentEvidence s' c = currentEvidence s c := by
  apply List.filterMap_congr
  intro eid heid
  rw [h.evidence eid heid]

theorem SameView.unusableEvidence : unusableEvidence s' c = unusableEvidence s c := by
  apply List.filterMap_congr
  intro eid heid
  rw [h.evidence eid heid]

theorem SameView.buildCandidates (primary : InterferenceEvidence) {targets : List WorkloadId}
    (htargets : ∀ w ∈ targets, w ∈ c.associated) :
    buildCandidates s' s'.authority c primary targets =
      buildCandidates s s.authority c primary targets := by
  obtain ⟨b, hb⟩ := h.policy
  unfold ContentionGovernor.buildCandidates
  rw [hb, classEligible_budget]
  apply List.flatMap_congr
  intro w hw
  congr 1
  funext cls
  unfold buildCandidate
  dsimp only
  rw [h.makeFence (htargets w hw), h.checkFeasibility (htargets w hw)]

theorem SameView.evaluateCandidates (primary : InterferenceEvidence) (ev : ConflictEvaluation) :
    evaluateCandidates s' s'.authority c primary ev =
      evaluateCandidates s s.authority c primary ev := by
  obtain ⟨b, hb⟩ := h.policy
  unfold ContentionGovernor.evaluateCandidates
  dsimp only
  rw [h.buildCandidates primary fun w hw => (List.mem_insertionSort _).mp hw, hb,
    rankedDecision_budget]

/-- A conflict is evaluated alike in two states that look the same from it. -/
theorem SameView.evaluateConflict {cid : ConflictId} (hc : s.conflicts.find cid = some c)
    (hc' : s'.conflicts.find cid = some c) :
    evaluateConflict s' cid s'.authority = evaluateConflict s cid s.authority := by
  obtain ⟨b, hb⟩ := h.policy
  have hthreshold : s'.policy.actionabilityThreshold = s.policy.actionabilityThreshold := by
    rw [hb]
  have hgate : disruptiveRejections s'.policy = disruptiveRejections s.policy := by
    rw [hb]
    rfl
  unfold ContentionGovernor.evaluateConflict
  rw [hc, hc']
  simp only [h.currentEvidence, h.unusableEvidence, hthreshold, hgate, h.evaluateCandidates]

theorem SameView.frontGeneration : frontGeneration s' c = frontGeneration s c := by
  unfold ContentionGovernor.frontGeneration
  cases hids : c.evidenceIds with
  | nil => rfl
  | cons eid rest =>
    dsimp only
    rw [h.evidence eid (by rw [hids]; exact List.mem_cons_self)]

theorem SameView.inCooldown {w : WorkloadId} (hw : w ∈ c.associated) (cls : InterventionClass)
    (now : TimeMs) : inCooldown s' w cls now = inCooldown s w cls now := by
  obtain ⟨b, hb⟩ := h.policy
  unfold ContentionGovernor.inCooldown
  rw [h.fairness w hw, hb]

end View

/-- The checks of a request, apart from the budget, pass alike. -/
theorem SameView.passes {c : ContentionConflict} {s s' : GovernorState}
    (h : SameView c s.engine s'.engine) {cid : ConflictId}
    (hc : s.engine.conflicts.find cid = some c) (hc' : s'.engine.conflicts.find cid = some c)
    {cls : InterventionClass} {now : TimeMs} {g : Grant} (hg : Passes s cid cls now g) :
    Passes s' cid cls now g := by
  have hev : evaluate cid s' = evaluate cid s := h.evaluateConflict hc hc'
  have hconflict : g.conflict = c := by
    have hfind := hg.conflict
    rw [hc, Option.some.injEq] at hfind
    exact hfind.symm
  -- The target is a neighbor of the conflict, so the view covers what is checked of it.
  have htarget : g.target ∈ c.associated := by
    obtain ⟨p, hp, htarget, -⟩ := hg.picked
    obtain ⟨c₁, primary, d, hdecided, rfl⟩ := pickCandidate_some hp
    have hfind := hdecided.conflict
    rw [hc, Option.some.injEq] at hfind
    rw [htarget, hfind]
    exact hdecided.target_mem
  exact
    { conflict := hc'.trans (congrArg some hconflict.symm)
      picked := by
        rw [hev]
        exact hg.picked
      fence := by
        obtain ⟨generation, hgeneration, hfence⟩ := hg.fence
        rw [hconflict] at hgeneration hfence ⊢
        exact ⟨generation, by rw [h.frontGeneration, hgeneration],
          by rw [h.makeFence htarget, hfence]⟩
      valid := by
        rw [h.revalidate htarget]
        exact hg.valid
      feasible := by
        rw [h.checkFeasibility htarget]
        exact hg.feasible
      rested := by
        rw [h.inCooldown htarget]
        exact hg.rested
      adapter := by
        rw [hev]
        exact hg.adapter }

/-! ## Operations on other conflicts -/

/-- The operation does not concern the conflict: what it names are other conflicts and
workloads that the conflict is not associated with, and evidence that it stores is about
another domain or victim, under an id that the conflict does not list. -/
def ForeignTo (cid : ConflictId) (c : ContentionConflict) (s : GovernorState) (op : Op) : Prop :=
  match op with
  | .recordWorkerBoot w _ | .recordWorkloadGeneration w _ => w ∉ c.associated
  | .ingestEvidence _ => ∀ e ∈ op.stored s, ¬IsAbout c e ∧ e.id ∉ c.evidenceIds
  | .submitPostActionEvidence input =>
    (∀ e ∈ op.stored s, ¬IsAbout c e ∧ e.id ∉ c.evidenceIds) ∧
      ∀ v ∈ closing s input, v.record.target ∉ c.associated
  | .authorize id _ _ | .authorizeAndDispatch id _ _ _ _ =>
    id ≠ cid ∧ ∀ g ∈ op.grant s, g.target ∉ c.associated
  | .setPolicy _ | .setAuthority _ | .advanceEpoch | .load _ _ _ => False
  | .evaluate _ | .dispatch _ _ _ | .onAcknowledge _ _ _ | .onActionFailed _ _ _ | .save => True

instance decidableForeignTo (cid : ConflictId) (c : ContentionConflict) (s : GovernorState) :
    (op : Op) → Decidable (ForeignTo cid c s op)
  | .recordWorkerBoot w _ | .recordWorkloadGeneration w _ =>
    inferInstanceAs (Decidable (w ∉ c.associated))
  | .ingestEvidence input =>
    inferInstanceAs (Decidable (∀ e ∈ Op.stored s (.ingestEvidence input), _))
  | .submitPostActionEvidence input =>
    inferInstanceAs (Decidable ((∀ e ∈ Op.stored s (.submitPostActionEvidence input), _) ∧
      ∀ v ∈ closing s input, v.record.target ∉ c.associated))
  | .authorize id cls now =>
    inferInstanceAs (Decidable (id ≠ cid ∧ ∀ g ∈ Op.grant s (.authorize id cls now),
      g.target ∉ c.associated))
  | .authorizeAndDispatch id cls now now' adapters =>
    inferInstanceAs (Decidable (id ≠ cid ∧
      ∀ g ∈ Op.grant s (.authorizeAndDispatch id cls now now' adapters),
        g.target ∉ c.associated))
  | .setPolicy _ | .setAuthority _ | .advanceEpoch | .load _ _ _ =>
    inferInstanceAs (Decidable False)
  | .evaluate _ | .dispatch _ _ _ | .onAcknowledge _ _ _ | .onActionFailed _ _ _ | .save =>
    inferInstanceAs (Decidable True)

/-- Under one authority, and policies that differ in the budget, the view is the same when the
listed evidence and the fairness of the associated workloads are. -/
theorem sameView_of {c : ContentionConflict} {s s' : EngineState}
    (hpolicy : ∃ b, s'.policy = { s.policy with budget := b })
    (hauthority : s'.authority = s.authority)
    (hevidence : ∀ eid ∈ c.evidenceIds, s'.evidence.find eid = s.evidence.find eid)
    (hfairness : ∀ w ∈ c.associated, s'.fairness.find w = s.fairness.find w) :
    SameView c s s' where
  policy := hpolicy
  authority := ⟨_, _, hauthority⟩
  generations w _ := by rw [hauthority]
  boots w _ := by rw [hauthority]
  evidence := hevidence
  fairness := hfairness

/-- The conflict found for evidence about something else is another one. -/
theorem ne_located {conflicts : OrderedMap ConflictId ContentionConflict} {cid key : ConflictId}
    {c c₀ : ContentionConflict} {e : InterferenceEvidence} (hc : conflicts.find cid = some c)
    (hnot : ¬IsAbout c e) (hlocated : locateConflict conflicts e = some (key, c₀)) :
    cid ≠ key := by
  rintro rfl
  have hfind := locateConflict_find hlocated
  rw [hc, Option.some.injEq] at hfind
  rw [hfind] at hnot
  exact hnot (locateConflict_matches hlocated)

section Step

variable {s s' : GovernorState} {cid : ConflictId} {c : ContentionConflict}

theorem foreign_ingest {input : InterferenceEvidence} (hs : ConflictsKeyed s)
    (hc : s.engine.conflicts.find cid = some c)
    (hop : ForeignTo cid c s (.ingestEvidence input)) :
    (ingestEvidence input s).2.engine.conflicts.find cid = some c ∧
      SameView c s.engine (ingestEvidence input s).2.engine := by
  by_cases hv : (validateEvidence input).isOk
  · obtain ⟨hnot, hunlisted⟩ := hop (storedEvidence s input) (if_pos hv)
    have hframe : StepFrame (.ingestEvidence input) s (ingestEvidence input s).2 := step_frame rfl
    obtain ⟨n, hstored⟩ := ingestEvidence_of_valid (s := s) hv
    have hevidence := (storeEvidence_conflicts { s with nextEvidenceId := n }
      (storedEvidence s input)).1
    rw [← hstored] at hevidence
    refine ⟨?_, sameView_of ⟨_, hframe.policy rfl⟩ (hframe.authority rfl) (fun eid heid => ?_)
      fun w _ => by rw [hframe.fairness rfl]⟩
    · rcases ingest_conflicts (s := s) hv with ⟨-, hinsert⟩ | ⟨key, c₀, hlocated, hinsert⟩
      · -- A new conflict takes the key that the counter is at.
        have hne : cid ≠ ⟨s.nextConflictId⟩ := by
          rintro rfl
          rw [hs.next_free] at hc
          cases hc
        rw [hinsert, OrderedMap.find_insert_of_ne _ hne, hc]
      · rw [hinsert, OrderedMap.find_insert_of_ne _ (ne_located hc hnot hlocated), hc]
    · rw [hevidence, OrderedMap.find_insert_of_ne]
      exact fun heq => hunlisted (heq ▸ heid)
  · rw [ingestEvidence_of_invalid hv]
    exact ⟨hc, SameView.refl c s.engine⟩

theorem foreign_submit {input : InterferenceEvidence}
    (hc : s.engine.conflicts.find cid = some c)
    (hop : ForeignTo cid c s (.submitPostActionEvidence input)) :
    (submitPostActionEvidence input s).2.engine.conflicts.find cid = some c ∧
      SameView c s.engine (submitPostActionEvidence input s).2.engine := by
  by_cases hv : (validateEvidence input).isOk
  · obtain ⟨hnot, hunlisted⟩ := hop.1 (storedEvidence s input) (if_pos hv)
    have hframe : StepFrame (.submitPostActionEvidence input) s
        (submitPostActionEvidence input s).2 := step_frame rfl
    refine ⟨?_, sameView_of ⟨_, hframe.policy rfl⟩ (hframe.authority rfl) (fun eid heid => ?_)
      fun w hw => ?_⟩
    · rcases submit_remeasured (s := s) hv with ⟨-, hsame⟩ | ⟨key, c₀, state, hlocated, hinsert⟩
      · rw [hsame, hc]
      · rw [hinsert, OrderedMap.find_insert_of_ne _ (ne_located hc hnot hlocated), hc]
    · rw [submit_evidence hv, OrderedMap.find_insert_of_ne]
      exact fun heq => hunlisted (heq ▸ heid)
    · -- The one record that a verification can reset is that of the target.
      have hkept : ¬(closing s input).any fun v =>
          v.record.target = w ∧ verdict s input v = .resolved := by
        intro hclears
        obtain ⟨v, hv, hresolved⟩ := (Option.any_eq_true _ _).mp hclears
        exact hop.2 v hv ((of_decide_eq_true hresolved).1 ▸ hw)
      simp only [find_fairness_submit, hkept, Bool.false_eq_true, if_false, Option.map_id']
  · rw [submitPostActionEvidence_of_invalid hv]
    exact ⟨hc, SameView.refl c s.engine⟩

theorem foreign_request {op : Op} {id : ConflictId} {cls : InterventionClass} {now : TimeMs}
    (hc : s.engine.conflicts.find cid = some c) (hreq : op.request = some (id, cls, now))
    (hid : id ≠ cid) (htarget : ∀ g ∈ op.grant s, g.target ∉ c.associated)
    (h : step s op = some s') :
    s'.engine.conflicts.find cid = some c ∧ SameView c s.engine s'.engine := by
  rcases step_of_request h hreq with ⟨-, rfl⟩ | ⟨g, hgrant, -, _, _, rfl⟩
  · exact ⟨hc, SameView.refl c s'.engine⟩
  · refine ⟨?_, sameView_of ⟨_, rfl⟩ rfl (fun _ _ => rfl) fun w hw => ?_⟩
    · exact (OrderedMap.find_insert_of_ne _ hid.symm _).trans hc
    · have hne : w ≠ g.target := fun heq => htarget g hgrant (heq ▸ hw)
      exact OrderedMap.find_insert_of_ne _ hne _

/-- An operation that does not concern a conflict leaves it, and all it reads. -/
theorem step_foreign {op : Op} (hs : ConflictsKeyed s)
    (hc : s.engine.conflicts.find cid = some c) (hop : ForeignTo cid c s op)
    (h : step s op = some s') :
    s'.engine.conflicts.find cid = some c ∧ SameView c s.engine s'.engine := by
  have hframe := step_frame h
  have hrest : op.writes = [] →
      s'.engine.conflicts.find cid = some c ∧ SameView c s.engine s'.engine := by
    intro hwrites
    have hleaves : ∀ part, op.leaves part := by
      intro part
      rw [Op.leaves, hwrites]
      rfl
    rw [hframe.conflicts (hleaves _)]
    exact ⟨hc, sameView_of ⟨_, hframe.policy (hleaves _)⟩ (hframe.authority (hleaves _))
      (fun _ _ => by rw [hframe.evidence (hleaves _)])
      fun _ _ => by rw [hframe.fairness (hleaves _)]⟩
  cases op with
  | recordWorkerBoot w boot =>
    cases h
    refine ⟨hc, ⟨_, rfl⟩, ⟨_, _, rfl⟩, fun _ _ => rfl, fun w' hw' => ?_, fun _ _ => rfl,
      fun _ _ => rfl⟩
    exact OrderedMap.find_insert_of_ne _ (fun heq : w' = w => hop (heq ▸ hw')) _
  | recordWorkloadGeneration w generation =>
    cases h
    refine ⟨hc, ⟨_, rfl⟩, ⟨_, _, rfl⟩, fun w' hw' => ?_, fun _ _ => rfl, fun _ _ => rfl,
      fun _ _ => rfl⟩
    exact OrderedMap.find_insert_of_ne _ (fun heq : w' = w => hop (heq ▸ hw')) _
  | ingestEvidence input =>
    cases h
    exact foreign_ingest hs hc hop
  | submitPostActionEvidence input =>
    cases h
    exact foreign_submit hc hop
  | authorize id cls now => exact foreign_request hc rfl hop.1 hop.2 h
  | authorizeAndDispatch id cls now now' adapters => exact foreign_request hc rfl hop.1 hop.2 h
  | setPolicy | setAuthority | advanceEpoch | load => exact absurd hop id
  | _ => exact hrest rfl

end Step

/-- In a run from the empty governor without a load, with the conflict counter below its top,
whatever is done after some moment to other conflicts and to workloads that a conflict is not
associated with: the conflict is evaluated as before, in every detail; the fences on its
workloads are as valid as before; and its requests are granted as before, with the same grant,
but for the action budget, which all conflicts share. -/
theorem conflicts_isolated {pre post : List Op} {s t : GovernorState} {cid : ConflictId}
    {c : ContentionConflict} (hops : Runs.Guarded step CountsConflicts {} (pre ++ post))
    (hpre : Runs.exec step {} pre = some s) (hpost : Runs.exec step s post = some t)
    (hc : s.engine.conflicts.find cid = some c)
    (hforeign : Runs.Guarded step (ForeignTo cid c) s post) :
    evaluate cid t = evaluate cid s ∧
    (∀ w ∈ c.associated, ∀ f, revalidate t.engine f w = revalidate s.engine f w) ∧
    ∀ cls now g,
      budgetExhausted t.engine.policy.budget g.cls =
        budgetExhausted s.engine.policy.budget g.cls →
      (authorizeChecks t cid cls now = .ok (some g) ↔
        authorizeChecks s cid cls now = .ok (some g)) := by
  have hkeyed : ConflictsKeyed s := Runs.invariant_of_guarded (fun _ _ _ => step_conflictsKeyed)
    hops.append.1 hpre conflictsKeyed_empty
  -- The view is compared with the state at the start of the foreign operations throughout.
  have hstep : ∀ u op u', (ConflictsKeyed u ∧ u.engine.conflicts.find cid = some c ∧
        SameView c s.engine u.engine) → (CountsConflicts u op ∧ ForeignTo cid c u op) →
      step u op = some u' → (ConflictsKeyed u' ∧ u'.engine.conflicts.find cid = some c ∧
        SameView c s.engine u'.engine) := by
    rintro u op u' ⟨hu, hfind, hview⟩ ⟨hcounts, hop⟩ hstep
    obtain ⟨hfind', hview'⟩ := step_foreign hu hfind hop hstep
    exact ⟨step_conflictsKeyed hu hcounts hstep, hfind', hview.trans hview'⟩
  obtain ⟨-, hc', hview⟩ := Runs.invariant_of_guarded hstep
    ((hops.append.2 s hpre).and hforeign) hpost ⟨hkeyed, hc, SameView.refl c s.engine⟩
  refine ⟨hview.evaluateConflict hc hc', fun w hw f => hview.revalidate hw f,
    fun cls now g hbudget => ⟨fun h => ?_, fun h => ?_⟩⟩
  · have hg := granted_of_checks h
    refine checks_of_granted ⟨hview.symm.passes hc' hc hg.toPasses, ?_⟩
    rw [← hbudget, hg.inBudget]
  · have hg := granted_of_checks h
    refine checks_of_granted ⟨hview.passes hc hc' hg.toPasses, ?_⟩
    rw [hbudget, hg.inBudget]

/-- Workload 5 slows down next to workload 6, which is throttled. -/
def throttleElsewhere : List Op :=
  [.recordWorkerBoot ⟨6⟩ ⟨1⟩, .recordWorkloadGeneration ⟨6⟩ ⟨1⟩,
    .ingestEvidence { slowdown with victim := ⟨5⟩, neighbors := [⟨6⟩] },
    .authorizeAndDispatch ⟨2⟩ .throttle 2000 2500 none]

/-- The conflict of workload 1 when its neighbor has been throttled. -/
def throttledConflict : ContentionConflict :=
  ((reached throttleNeighbor).engine.conflicts.find ⟨1⟩).get (by decide +kernel)

theorem conflicts_isolated_elsewhere :
    evaluate ⟨1⟩ (reached (throttleNeighbor ++ throttleElsewhere)) =
      evaluate ⟨1⟩ (reached throttleNeighbor) := by
  have hpost : Runs.exec step (reached throttleNeighbor) throttleElsewhere =
      some (reached (throttleNeighbor ++ throttleElsewhere)) := by
    obtain ⟨u, hu, hpost⟩ := Runs.exec_append.mp
      (@exec_reached (throttleNeighbor ++ throttleElsewhere) (by decide +kernel))
    rw [exec_reached (by decide +kernel), Option.some.injEq] at hu
    rw [hu]
    exact hpost
  have hc : (reached throttleNeighbor).engine.conflicts.find ⟨1⟩ = some throttledConflict :=
    (Option.some_get _).symm
  exact (conflicts_isolated (by decide +kernel) (exec_reached (by decide +kernel)) hpost hc
    (by decide +kernel)).1

end ContentionGovernor
