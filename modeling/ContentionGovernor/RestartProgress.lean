import ContentionGovernor.HardLimits
import ContentionGovernor.Hysteresis
import ContentionGovernor.Ranking
import ContentionGovernor.Replay
import ContentionGovernor.Requests
import ContentionGovernor.RestartFencing

/-!
# Acting again after a restart

`advance_epoch` leaves no current evidence.  The first current observation that follows is
then all that an evaluation of its conflict rests on.
-/

namespace ContentionGovernor

/-- A neighbor is registered, and the policy allows some class on it. -/
def Actable (s : EngineState) (w : WorkloadId) : Prop :=
  (s.authority.workloadGenerations.find w).isSome ∧ (s.authority.workloadBoots.find w).isSome ∧
    ∃ cls ∈ eligibleClasses, classEligible s.policy cls ∧
      policyRefusals s.policy (workloadPolicyFor s.policy w) cls = []

/-- The state after a restart and one observation. -/
def restarted (s : GovernorState) (e : InterferenceEvidence) : GovernorState :=
  (ingestEvidence e (advanceEpoch s).2).2

variable {s : GovernorState} {e : InterferenceEvidence}

/-- What the restart and the observation leave of policy, authority and fairness, and the
evidence map. -/
theorem restarted_engine (s : GovernorState) (hvalid : (validateEvidence e).isOk) :
    (restarted s e).engine.policy = s.engine.policy ∧
    (restarted s e).engine.authority = (advanceEpoch s).2.engine.authority ∧
    (restarted s e).engine.fairness = (advanceEpoch s).2.engine.fairness ∧
    (restarted s e).engine.evidence =
      (advanceEpoch s).2.engine.evidence.insert (storedEvidence (advanceEpoch s).2 e).id
        (storedEvidence (advanceEpoch s).2 e) := by
  obtain ⟨n, hstored⟩ := ingestEvidence_of_valid (s := (advanceEpoch s).2) hvalid
  rw [restarted, hstored]
  unfold storeEvidence
  dsimp only
  split <;> exact ⟨rfl, rfl, rfl, rfl⟩

/-- The conflict of the observation lists it, with its neighbors. -/
theorem restarted_conflict (s : GovernorState) (hvalid : (validateEvidence e).isOk) :
    ∃ cid c, (restarted s e).engine.conflicts.find cid = some c ∧ c.domain = e.domain ∧
      e.victim ∈ c.affected ∧ c.associated = e.neighbors ∧
      (storedEvidence (advanceEpoch s).2 e).id ∈ c.evidenceIds := by
  obtain ⟨id, hstored⟩ := storedEvidence_derived (advanceEpoch s).2 e
  rcases ingest_conflicts (s := (advanceEpoch s).2) hvalid with ⟨-, hnew⟩ | ⟨cid, c, hlocated, hold⟩
  · obtain ⟨state, actionable, hc⟩ := progressConflict_frame (advanceEpoch s).2.engine.policy
      (storedEvidence (advanceEpoch s).2 e) (newConflict (advanceEpoch s).2 (storedEvidence _ e))
    refine ⟨_, _, by rw [restarted, hnew, OrderedMap.find_insert_self], ?_⟩
    rw [hc, hstored]
    exact ⟨rfl, List.mem_singleton_self _, rfl, List.mem_singleton_self _⟩
  · obtain ⟨state, actionable, hc⟩ := progressConflict_frame (advanceEpoch s).2.engine.policy
      (storedEvidence (advanceEpoch s).2 e) (updateConflict c (storedEvidence _ e))
    obtain ⟨hdomain, hvictim⟩ := locateConflict_matches hlocated
    refine ⟨_, _, by rw [restarted, hold, OrderedMap.find_insert_self], ?_⟩
    rw [hc]
    rw [hstored] at hdomain hvictim ⊢
    exact ⟨hdomain.symm, hvictim, rfl, List.mem_append_right _ (List.mem_singleton_self _)⟩

/-- The observation is the only current evidence. -/
theorem restarted_current (s : GovernorState) (hvalid : (validateEvidence e).isOk)
    {eid : InterferenceEvidenceId} {x : InterferenceEvidence}
    (hx : (restarted s e).engine.evidence.find eid = some x) (hcur : x.status = .current) :
    x = storedEvidence (advanceEpoch s).2 e := by
  rw [(restarted_engine s hvalid).2.2.2] at hx
  rcases OrderedMap.find_insert_cases hx with ⟨-, rfl⟩ | ⟨-, hold⟩
  · rfl
  · exact absurd hcur ((quiet_advanceEpoch s).evidence eid x hold)

/-- An evaluation of the conflict rests on the observation if its fractions are numbers, and
on nothing otherwise. -/
theorem restarted_primary (s : GovernorState) (hvalid : (validateEvidence e).isOk)
    (hcurrent : e.status = .current) {c : ContentionConflict}
    (hlisted : (storedEvidence (advanceEpoch s).2 e).id ∈ c.evidenceIds) :
    (currentEvidence (restarted s e).engine c).head? =
      if structurallyValid e.derived then some (storedEvidence (advanceEpoch s).2 e) else none := by
  obtain ⟨id, hstored⟩ := storedEvidence_derived (advanceEpoch s).2 e
  have hsame : structurallyValid (storedEvidence (advanceEpoch s).2 e) =
      structurallyValid e.derived := by
    rw [hstored]
    rfl
  -- Evidence from before the restart awaits revalidation, whatever its fractions.
  have honly : ∀ x ∈ currentEvidence (restarted s e).engine c,
      x = storedEvidence (advanceEpoch s).2 e ∧ structurallyValid e.derived := by
    intro x hx
    obtain ⟨eid, -, hfind, hcur, hx'⟩ := mem_currentEvidence hx
    have hx := restarted_current s hvalid hfind hcur
    rw [hx, hsame] at hx'
    exact ⟨hx, hx'⟩
  split_ifs with hderived
  · have hmem : storedEvidence (advanceEpoch s).2 e ∈ currentEvidence (restarted s e).engine c := by
      refine mem_currentEvidence_of hlisted ?_ ?_ (hsame.trans hderived)
      · rw [(restarted_engine s hvalid).2.2.2, OrderedMap.find_insert_self]
      · rw [storedEvidence_status, hcurrent]
    cases hlist : currentEvidence (restarted s e).engine c with
    | nil =>
      rw [hlist] at hmem
      cases hmem
    | cons x rest =>
      rw [(honly x (by rw [hlist]; exact List.mem_cons_self)).1]
      rfl
  · rw [List.head?_eq_none_iff, List.eq_nil_iff_forall_not_mem]
    exact fun x hx => hderived (honly x hx).2

/-- The cap on consecutive interventions refuses nothing after a restart. -/
theorem restarted_fairness (s : GovernorState) (hvalid : (validateEvidence e).isOk)
    (haccepted : PolicyAccepted s) (w : WorkloadId) :
    fairnessRefusals (restarted s e).engine w = [] := by
  obtain ⟨hpolicy, -, hfairness, -⟩ := restarted_engine s hvalid
  have hpositive := (validatePolicy_valid haccepted).consecutive
  unfold fairnessRefusals
  rw [hpolicy, hfairness]
  simp only [advanceEpoch, OrderedMap.find_mapValues]
  cases s.engine.fairness.find w with
  | none => rfl
  | some fr =>
    refine if_neg fun hle => hpositive ?_
    exact UInt32.toNat_inj.mp (Nat.le_zero.mp (UInt32.le_iff_toNat_le.mp hle))

/-- A workload can be targeted exactly when it is registered. -/
theorem restarted_targetable (s : GovernorState) (hvalid : (validateEvidence e).isOk)
    (haccepted : PolicyAccepted s) (w : WorkloadId) :
    Targetable (restarted s e).engine w ↔
      (s.engine.authority.workloadGenerations.find w).isSome ∧
        (s.engine.authority.workloadBoots.find w).isSome := by
  have hauthority := (restarted_engine s hvalid).2.1
  constructor
  · rintro ⟨hgeneration, hboot, -⟩
    rw [hauthority] at hgeneration hboot
    exact ⟨hgeneration, hboot⟩
  · rintro ⟨hgeneration, hboot⟩
    refine ⟨?_, ?_, restarted_fairness s hvalid haccepted w⟩
    · rw [hauthority]
      exact hgeneration
    · rw [hauthority]
      exact hboot

/-- The evaluation of the observed conflict decides exactly when the observation is strong
enough and some neighbor can be acted on. -/
theorem restarted_decides (s : GovernorState) (hvalid : (validateEvidence e).isOk)
    (hcurrent : e.status = .current) (haccepted : PolicyAccepted s) {cid : ConflictId}
    {c : ContentionConflict} (hc : (restarted s e).engine.conflicts.find cid = some c)
    (hassociated : c.associated = e.neighbors)
    (hlisted : (storedEvidence (advanceEpoch s).2 e).id ∈ c.evidenceIds) :
    (∃ d, (evaluate cid (restarted s e)).decision = some d) ↔
      structurallyValid e.derived ∧ ¬c.degradation < s.engine.policy.actionabilityThreshold ∧
        disruptiveRejections s.engine.policy e = [] ∧ ∃ w ∈ e.neighbors, Actable s.engine w := by
  have hpolicy := (restarted_engine s hvalid).1
  have hprimary := restarted_primary s hvalid hcurrent hlisted
  have hgate : disruptiveRejections s.engine.policy (storedEvidence (advanceEpoch s).2 e) =
      disruptiveRejections s.engine.policy e := by
    obtain ⟨id, hstored⟩ := storedEvidence_derived (advanceEpoch s).2 e
    rw [hstored]
    rfl
  constructor
  · rintro ⟨d, hd⟩
    obtain ⟨c', primary, hdec, -⟩ := decided_of_decision hd
    obtain rfl : c' = c := Option.some.inj (hdec.conflict.symm.trans hc)
    have hevidence := hdec.evidence
    rw [hprimary] at hevidence
    split_ifs at hevidence with hderived
    cases hevidence
    have hchosen := hdec.feasible
    obtain ⟨w, hw, cls, hcls, heligible, hbuilt⟩ := mem_buildCandidates hdec.chosen
    rw [hbuilt, buildCandidate_feasible, candidateFence, feasible_makeFence] at hchosen
    have hregistered := (restarted_targetable s hvalid haccepted w).mp hchosen.1
    rw [hpolicy] at heligible hchosen
    refine ⟨hderived, ?_, ?_, w, ?_, hregistered.1, hregistered.2, cls, hcls, heligible, hchosen.2⟩
    · rw [← hpolicy]
      exact hdec.magnitude
    · rw [← hgate, ← hpolicy]
      exact hdec.gate
    · rw [← hassociated]
      exact (List.mem_insertionSort _).mp hw
  · rintro ⟨hderived, hmagnitude, hopen, w, hw, hgeneration, hboot, cls, hcls, heligible, hallowed⟩
    have hbuilds : BuildsCandidates (restarted s e).engine cid c
        (storedEvidence (advanceEpoch s).2 e) := by
      refine ⟨hc, by rw [hprimary, if_pos hderived], ?_, ?_⟩
      · rw [hpolicy]
        exact hmagnitude
      · rw [hpolicy, hgate]
        exact hopen
    rw [← hassociated] at hw
    rw [← hpolicy] at heligible hallowed
    rw [evaluate, decides_iff, evaluate_of_builds hbuilds (List.ne_nil_of_mem hw)]
    refine ⟨_, mem_buildCandidates_of ((List.mem_insertionSort _).mpr hw) hcls heligible, ?_⟩
    rw [buildCandidate_feasible, candidateFence, feasible_makeFence]
    exact ⟨(restarted_targetable s hvalid haccepted w).mpr ⟨hgeneration, hboot⟩, hallowed⟩

/-! ## Authorization and dispatch -/

theorem frontsPresent_empty : FrontsPresent {} := by
  rintro cid eid ⟨c, hc, -⟩
  cases hc

theorem restarted_fronts (hs : FrontsPresent s) (e : InterferenceEvidence) :
    FrontsPresent (restarted s e) := by
  have hepoch : LoadsFronts s .advanceEpoch := fun h => absurd h Bool.false_ne_true
  have hingest : LoadsFronts (advanceEpoch s).2 (.ingestEvidence e) :=
    fun h => absurd h Bool.false_ne_true
  exact step_frontsPresent (step_frontsPresent hs hepoch rfl) hingest rfl

/-- With its first record present, the ranked choice of a conflict is granted if the budget
and the cooldown of its target allow. -/
theorem granted_of_decision {id : ConflictId} {d : InterventionDecision} {now : TimeMs}
    (hs : FrontsPresent s) (hd : (evaluate id s).decision = some d)
    (hbudget : budgetExhausted s.engine.policy.budget d.chosen.cls = false)
    (hrest : inCooldown s.engine d.chosen.target d.chosen.cls now = false) :
    ∃ g, Granted s id .noAction now g := by
  obtain ⟨c, primary, hdec, -⟩ := decided_of_decision hd
  have hpick : pickCandidate (evaluate id s) = some d.chosen := by rw [pickCandidate, hd]
  obtain ⟨eid, x, hhead, hx⟩ := authorizeSafe_of_present hs id c d.chosen hdec.conflict hpick
  -- The evaluation fences with the primary evidence, the request with the first listed.
  have hchosen := hdec.feasible
  rw [hdec.chosen_built, buildCandidate_feasible, candidateFence, feasible_iff] at hchosen
  obtain ⟨hvalid, hfeasible⟩ := hdec.feasible_on_target hchosen.2.1 x.generation
  exact ⟨{ conflict := c, cls := d.chosen.cls, target := d.chosen.target
           fence := makeFence s.engine.authority c.generation x.generation d.chosen.target ⟨1⟩
           adapter := d.chosen.adapter },
    { conflict := hdec.conflict
      picked := ⟨d.chosen, hpick, rfl, (if_neg (not_not.mpr rfl)).symm⟩
      fence := ⟨x.generation, frontGeneration_ok hhead hx, rfl⟩
      valid := Status.isOk_iff.mp hvalid
      feasible := hfeasible
      rested := hrest
      adapter := by rw [hd]
      inBudget := hbudget }⟩

/-- What has just been authorized gets past the first section of its dispatch. -/
theorem dispatchBegin_granted {id : ConflictId} {cls : InterventionClass} {now : TimeMs} {g : Grant}
    (h : Granted s id cls now g) (now' : TimeMs) :
    ∃ ticket, (dispatchBegin ⟨s.nextInterventionId⟩ now' (commitGrant s id g now)).1 =
      .ok ticket := by
  have hfind : (commitGrant s id g now).engine.interventions.find ⟨s.nextInterventionId⟩ =
      some (grantRecord s id g now) := OrderedMap.find_insert_self ..
  have hauthority : (commitGrant s id g now).engine.authority = s.engine.authority := rfl
  have hvalid : (revalidate (commitGrant s id g now).engine (grantRecord s id g now).fence
      (grantRecord s id g now).target).code = .ok := by
    rw [revalidate_authority hauthority]
    exact h.valid
  have hstate : (grantRecord s id g now).state = .authorized := rfl
  unfold dispatchBegin
  rw [hfind]
  dsimp only
  rw [if_neg (not_not.mpr hstate), if_neg (not_not.mpr hvalid)]
  exact ⟨_, rfl⟩

/-- After a restart one current observation is enough for action, and has to be strong enough
for it alone: the evaluation of its conflict decides exactly when the observation passes the
gates and a registered neighbor may be acted on.  The choice is authorized unless its budget
is exhausted or its target in cooldown, under the new epoch, and its dispatch begins. -/
theorem restart_acts {ops : List Op} (hops : Runs.Guarded step LoadsFronts {} ops)
    (hrun : Runs.exec step {} ops = some s) (hvalid : (validateEvidence e).isOk)
    (hcurrent : e.status = .current) :
    ∃ cid c, (restarted s e).engine.conflicts.find cid = some c ∧ c.domain = e.domain ∧
      e.victim ∈ c.affected ∧
      ((∃ d, (evaluate cid (restarted s e)).decision = some d) ↔
        structurallyValid e.derived ∧ ¬c.degradation < s.engine.policy.actionabilityThreshold ∧
          disruptiveRejections s.engine.policy e = [] ∧
          ∃ w ∈ e.neighbors, Actable s.engine w) ∧
      ∀ d now, (evaluate cid (restarted s e)).decision = some d →
        if budgetExhausted (restarted s e).engine.policy.budget d.chosen.cls ∨
            inCooldown (restarted s e).engine d.chosen.target d.chosen.cls now then
          authorize cid .noAction now (restarted s e) = .ok (none, restarted s e)
        else ∃ iid u r, authorize cid .noAction now (restarted s e) = .ok (some iid, u) ∧
          u.engine.interventions.find iid = some r ∧
          r.fence.coordinatorEpoch = s.engine.authority.coordinatorEpoch.advance ∧
          ∀ now', ∃ ticket, (dispatchBegin iid now' u).1 = .ok ticket := by
  have haccepted := policyAccepted_reached hrun
  have hstep : ∀ s op s', FrontsPresent s → LoadsFronts s op → step s op = some s' →
      FrontsPresent s' := fun _ _ _ => step_frontsPresent
  have hfronts := restarted_fronts
    (Runs.invariant_of_guarded hstep hops hrun frontsPresent_empty) e
  obtain ⟨cid, c, hc, hdomain, hvictim, hassociated, hlisted⟩ := restarted_conflict s hvalid
  refine ⟨cid, c, hc, hdomain, hvictim,
    restarted_decides s hvalid hcurrent haccepted hc hassociated hlisted, fun d now hd => ?_⟩
  split_ifs with hrefused
  · obtain ⟨r, hr⟩ := (authorizeSafe_of_present hfronts).returns cid .noAction now
    rcases authorize_cases hr with ⟨-, rfl⟩ | ⟨g, hchecks, rfl⟩
    · exact hr
    · -- A grant takes the choice, within its budget and out of its cooldown.
      have hg := granted_of_checks hchecks
      obtain ⟨d', hfollows⟩ := hg.toPasses.follows
      obtain rfl : d' = d := Option.some.inj (hfollows.decision.symm.trans hd)
      have hcls : g.cls = d'.chosen.cls := hfollows.cls.trans (if_neg (not_not.mpr rfl))
      have hbudget := hg.inBudget
      have hrest := hg.rested
      rw [hcls] at hbudget hrest
      rw [hfollows.target] at hrest
      rw [hbudget, hrest] at hrefused
      simp at hrefused
  · simp only [not_or, Bool.not_eq_true] at hrefused
    obtain ⟨g, hg⟩ := granted_of_decision hfronts hd hrefused.1 hrefused.2
    obtain ⟨generation, -, hfence⟩ := hg.fence
    refine ⟨_, _, _, authorize_of_granted hg, OrderedMap.find_insert_self .., ?_,
      dispatchBegin_granted hg⟩
    change g.fence.coordinatorEpoch = _
    rw [hfence, (restarted_engine s hvalid).2.1]
    rfl

/-- The neighbor was registered before the restart, and the slowdown is seen again. -/
theorem restart_acts_throttle : ∃ cid c,
    (restarted (reached throttleNeighbor) slowdown).engine.conflicts.find cid = some c ∧
      c.domain = slowdown.domain ∧ slowdown.victim ∈ c.affected ∧
      ((∃ d, (evaluate cid (restarted (reached throttleNeighbor) slowdown)).decision = some d) ↔
        structurallyValid slowdown.derived ∧
          ¬c.degradation < (reached throttleNeighbor).engine.policy.actionabilityThreshold ∧
          disruptiveRejections (reached throttleNeighbor).engine.policy slowdown = [] ∧
          ∃ w ∈ slowdown.neighbors, Actable (reached throttleNeighbor).engine w) ∧
      ∀ d now, (evaluate cid (restarted (reached throttleNeighbor) slowdown)).decision = some d →
        if budgetExhausted (restarted (reached throttleNeighbor) slowdown).engine.policy.budget
              d.chosen.cls ∨
            inCooldown (restarted (reached throttleNeighbor) slowdown).engine d.chosen.target
              d.chosen.cls now then
          authorize cid .noAction now (restarted (reached throttleNeighbor) slowdown) =
            .ok (none, restarted (reached throttleNeighbor) slowdown)
        else ∃ iid u r,
          authorize cid .noAction now (restarted (reached throttleNeighbor) slowdown) =
            .ok (some iid, u) ∧
          u.engine.interventions.find iid = some r ∧
          r.fence.coordinatorEpoch =
            (reached throttleNeighbor).engine.authority.coordinatorEpoch.advance ∧
          ∀ now', ∃ ticket, (dispatchBegin iid now' u).1 = .ok ticket := by
  have hops : Runs.Guarded step LoadsFronts {} throttleNeighbor :=
    (Runs.guarded_of_forall (by decide : ∀ op ∈ throttleNeighbor, ¬op.isLoad)).mono
      fun _ _ h hload => absurd hload h
  have h := restart_acts hops (exec_reached (by decide +kernel)) (e := slowdown)
    (by decide +kernel) rfl
  exact h

end ContentionGovernor
