import ContentionGovernor.Verification

/-!
# Fences at completion

A fence is checked before the dispatch.  The two operations that credit an action, the
acknowledgment and the verification of its effect, do not look at it again.
-/

namespace ContentionGovernor

/-- A fence that agrees with the authority on everything it holds passes revalidation. -/
theorem revalidate_iff {s : EngineState} {f : Fence} {w : WorkloadId} :
    (revalidate s f w).code = .ok ↔ Fresh s.authority f w := by
  constructor
  · exact fresh_of_revalidate
  · intro h
    unfold revalidate
    dsimp only
    rw [if_neg (not_not.mpr h.coordinatorEpoch), if_neg (not_not.mpr h.governorGeneration),
      if_neg (not_not.mpr h.policyGeneration), if_neg (not_not.mpr h.sloGeneration),
      if_neg (not_not.mpr h.valueGeneration), if_neg (not_not.mpr h.fairnessGeneration),
      if_neg (not_not.mpr h.resourceGeneration), if_neg (not_not.mpr h.placementGeneration),
      if_neg (not_not.mpr h.topologyGeneration), if_neg (not_not.mpr h.workloadGeneration),
      if_neg (not_not.mpr h.workerBoot)]
    rfl

/-- The lifecycle states by which an operation credits an action. -/
def Op.credits : Op → List LifecycleState
  | .onAcknowledge _ _ _ => [.acknowledged]
  | .submitPostActionEvidence _ => [.effective, .partiallyEffective]
  | _ => []

/-- An operation that moves a record to a state by which it credits the action finds the
fence of the record current. -/
def CompletesFenced (s : GovernorState) (op : Op) : Prop :=
  ∀ s' id r x, step s op = some s' → s.engine.interventions.find id = some r → r.state ≠ x →
    HasState s' id x → x ∈ op.credits → (revalidate s.engine r.fence r.target).code = .ok

/-- What is acknowledged while DISPATCHED, or closed by evidence that shows relief, was
fenced under the epoch, the generations and the boot that are still in force. -/
def CreditsCurrent (s : GovernorState) : Op → Prop
  | .onAcknowledge id _ _ => ∀ r, s.engine.interventions.find id = some r →
    r.state = .dispatched → Fresh s.engine.authority r.fence r.target
  | .submitPostActionEvidence input => ∀ v, closing s input = some v → ShowsRelief s input v →
    Fresh s.engine.authority v.record.fence v.record.target
  | _ => True

theorem completes_acknowledge_iff (s : GovernorState) (id : InterventionId) (attempt : AttemptId)
    (now : TimeMs) : CompletesFenced s (.onAcknowledge id attempt now) ↔
      CreditsCurrent s (.onAcknowledge id attempt now) := by
  constructor
  · intro h r hr hstate
    have hmoved : HasState (onAcknowledge id attempt now s).2 id .acknowledged := by
      unfold onAcknowledge
      rw [hr]
      dsimp only
      rw [if_neg (not_not.mpr hstate)]
      exact ⟨_, OrderedMap.find_insert_self .., rfl⟩
    have hne : r.state ≠ .acknowledged := by
      rw [hstate]
      exact LifecycleState.noConfusion
    exact revalidate_iff.mp (h _ id r _ rfl hr hne hmoved (List.mem_singleton_self _))
  · intro h s' j r x hstep hr hne hafter hx
    cases hstep
    rw [List.mem_singleton.mp hx] at hne hafter
    obtain ⟨r', hr', -, hmoves⟩ := (onAcknowledge_related id attempt now s).exists_right hr
    obtain ⟨r'', hr'', hstate⟩ := hafter
    rw [hr', Option.some.injEq] at hr''
    rw [← hr''] at hstate
    rcases hmoves with hsame | ⟨-, rfl, hdispatched⟩
    · exact absurd (hsame.symm.trans hstate) hne
    · exact revalidate_iff.mpr (h r hr hdispatched)

theorem completes_submit_iff (s : GovernorState) (input : InterferenceEvidence) :
    CompletesFenced s (.submitPostActionEvidence input) ↔
      CreditsCurrent s (.submitPostActionEvidence input) := by
  have hcredits : ∀ x, x ∈ Op.credits (.submitPostActionEvidence input) ↔
      x = .effective ∨ x = .partiallyEffective := by
    intro x
    rw [Op.credits, List.mem_cons, List.mem_singleton]
  constructor
  · intro h v hclosing hrelief
    obtain ⟨-, -, hopened⟩ := closing_spec hclosing
    obtain ⟨hrecord, hlive⟩ := openIntervention_spec hopened
    have hmoved : HasState (submitPostActionEvidence input s).2 v.id
        (outcomeStates (verdict s input v)).1 := by
      rw [HasState, submit_of_closing hclosing, settleIntervention, OrderedMap.find_insert_self]
      exact ⟨_, rfl, rfl⟩
    have hne : v.record.state ≠ (outcomeStates (verdict s input v)).1 := by
      intro hsame
      rw [hsame] at hlive
      exact not_live_of_terminal (outcomeStates_terminal _) hlive
    apply revalidate_iff.mp
    apply h _ v.id v.record _ rfl hrecord hne hmoved
    rw [hcredits, (outcomeStates_success _).1]
    exact showsRelief_iff.mp hrelief
  · intro h s' id r x hstep hr hne hafter hx
    cases hstep
    obtain ⟨r', hr', hstate⟩ := hafter
    cases hclosing : closing s input with
    | none =>
      rw [(submit_of_not_closing hclosing).1, hr, Option.some.injEq] at hr'
      rw [hr'] at hne
      exact absurd hstate hne
    | some v =>
      obtain ⟨-, -, hopened⟩ := closing_spec hclosing
      rw [submit_of_closing hclosing, settleIntervention] at hr'
      rcases OrderedMap.find_insert_cases hr' with ⟨rfl, rfl⟩ | ⟨-, hr'⟩
      · rw [(openIntervention_spec hopened).1, Option.some.injEq] at hr
        rw [← hr]
        rw [hcredits, ← hstate, (outcomeStates_success _).1] at hx
        exact revalidate_iff.mpr (h v hclosing (showsRelief_iff.mpr hx))
      · -- Another record is as it was.
        have hsame : r = r' := Option.some.inj (hr.symm.trans hr')
        rw [hsame] at hne
        exact absurd hstate hne

theorem completesFenced_iff (s : GovernorState) (op : Op) :
    CompletesFenced s op ↔ CreditsCurrent s op := by
  cases op with
  | onAcknowledge id attempt now => exact completes_acknowledge_iff s id attempt now
  | submitPostActionEvidence input => exact completes_submit_iff s input
  | _ => exact iff_of_true (fun _ _ _ _ _ _ _ _ hx => absurd hx List.not_mem_nil) trivial

/-- In a run, every completion that credits an action finds its fence current, exactly when
nothing is acknowledged, or closed by evidence that shows relief, after a change of the
epoch, of a generation or of the boot it was fenced under. -/
theorem completions_fenced_iff (ops : List Op) :
    Runs.Guarded step CompletesFenced {} ops ↔ Runs.Guarded step CreditsCurrent {} ops :=
  ⟨Runs.Guarded.mono fun s op => (completesFenced_iff s op).mp,
    Runs.Guarded.mono fun s op => (completesFenced_iff s op).mpr⟩

/-- The worker of the throttled workload restarts after the dispatch. -/
def restartedInFlight : List Op := throttleDispatched ++ [.recordWorkerBoot ⟨2⟩ ⟨2⟩]

theorem restarted_target_is_credited :
    ¬∀ ops, (∀ op ∈ ops, ¬op.isLoad) → Runs.Guarded step CompletesFenced {} ops := by
  intro h
  have hguarded : Runs.Guarded step CompletesFenced {}
      (restartedInFlight ++ .submitPostActionEvidence recovered :: []) := h _ (by decide)
  have hrun := @exec_reached restartedInFlight (by decide +kernel)
  have hfenced := hguarded.at_step hrun
  have hbefore : ((reached restartedInFlight).engine.interventions.find ⟨1⟩).map (fun r =>
      (r.state, decide ((revalidate (reached restartedInFlight).engine r.fence
        r.target).code = .ok))) = some (.acknowledged, false) := by decide +kernel
  have hafter : ((submitPostActionEvidence recovered (reached restartedInFlight)).2.engine
      |>.interventions.find ⟨1⟩).map (·.state) = some .effective := by decide +kernel
  generalize reached restartedInFlight = s at hfenced hbefore hafter
  obtain ⟨r, hr, hpair⟩ := Option.map_eq_some_iff.mp hbefore
  obtain ⟨r', hr', hstate'⟩ := Option.map_eq_some_iff.mp hafter
  obtain ⟨hstate, hstale⟩ := Prod.mk.inj hpair
  have hne : r.state ≠ .effective := by
    rw [hstate]
    exact LifecycleState.noConfusion
  have hvalid := hfenced _ ⟨1⟩ r .effective rfl hr hne ⟨r', hr', hstate'⟩
    (List.mem_cons_self ..)
  exact of_decide_eq_false hstale hvalid

end ContentionGovernor
