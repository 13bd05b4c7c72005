import ContentionGovernor.EvidenceStore

/-!
# One threshold, four comparisons

Verification resolves a conflict at the actionability threshold, where ingestion makes it
ACTIONABLE and the evaluation decides on it.
-/

namespace ContentionGovernor

/-- Below the threshold the evaluation stops before the ranking. -/
theorem no_decision_of_below {s : GovernorState} {cid : ConflictId} {c : ContentionConflict}
    (hc : s.engine.conflicts.find cid = some c)
    (hbelow : c.degradation < s.engine.policy.actionabilityThreshold) :
    (evaluate cid s).decision = none := by
  by_contra hne
  obtain ⟨d, hd⟩ := Option.ne_none_iff_exists'.mp hne
  obtain ⟨c', primary, hdec, -⟩ := decided_of_decision hd
  have hsame : c = c' := Option.some.inj (hc.symm.trans hdec.conflict)
  exact hdec.magnitude (hsame ▸ hbelow)

/-- The fraction by which the victim of the evidence is slowed down. -/
def InterferenceEvidence.measured (e : InterferenceEvidence) : Double :=
  computeDegradation e.metric e.isolatedBaseline e.coRunObservation

@[simp] theorem storedEvidence_degradation (s : GovernorState) (e : InterferenceEvidence) :
    (storedEvidence s e).degradation = e.measured := by
  obtain ⟨id, h⟩ := storedEvidence_derived s e
  rw [h]
  rfl

@[simp] theorem storedEvidence_neighbors (s : GovernorState) (e : InterferenceEvidence) :
    (storedEvidence s e).neighbors = e.neighbors := by
  obtain ⟨id, h⟩ := storedEvidence_derived s e
  rw [h]
  rfl

@[simp] theorem storedEvidence_status (s : GovernorState) (e : InterferenceEvidence) :
    (storedEvidence s e).status = e.status := by
  obtain ⟨id, h⟩ := storedEvidence_derived s e
  rw [h]
  rfl

/-- The progress of a conflict below the threshold is not to ACTIONABLE. -/
theorem progressConflict_below {p : ContentionPolicy} {e : InterferenceEvidence}
    {c : ContentionConflict} (hcurrent : e.status = .current)
    (hbelow : c.degradation < p.actionabilityThreshold) :
    progressConflict p e c = { c with state := .validating } := by
  unfold progressConflict
  rw [if_neg fun h => Binary64.not_le_of_lt hbelow h.2, if_pos hcurrent]

/-- CURRENT evidence makes no conflict ACTIONABLE that its maximum leaves below the
threshold. -/
theorem not_actionable_of_ingest {s : GovernorState} {e : InterferenceEvidence}
    {cid : ConflictId} {c c' : ContentionConflict} (hc : s.engine.conflicts.find cid = some c)
    (hstate : c.state ≠ .actionable) (hcurrent : e.status = .current)
    (hbelow : c.degradation < s.engine.policy.actionabilityThreshold)
    (hmeasured : e.measured < s.engine.policy.actionabilityThreshold)
    (hc' : (ingestEvidence e s).2.engine.conflicts.find cid = some c') :
    c'.state ≠ .actionable := by
  by_cases hv : (validateEvidence e).isOk
  · have hcurrent : (storedEvidence s e).status = .current := by
      rw [storedEvidence_status, hcurrent]
    rcases ingest_conflicts (s := s) hv with ⟨-, hinsert⟩ | ⟨key, located, hlocated, hinsert⟩
    · have hnew : (newConflict s (storedEvidence s e)).degradation <
          s.engine.policy.actionabilityThreshold := by
        simpa [newConflict] using hmeasured
      rw [hinsert, progressConflict_below hcurrent hnew] at hc'
      rcases OrderedMap.find_insert_cases hc' with ⟨-, rfl⟩ | ⟨-, hc'⟩
      · exact ConflictState.noConfusion
      · rw [hc] at hc'
        cases hc'
        exact hstate
    · rw [hinsert] at hc'
      rcases OrderedMap.find_insert_cases hc' with ⟨hkey, rfl⟩ | ⟨-, hc'⟩
      · have hsame : c = located :=
          Option.some.inj (hc.symm.trans (hkey ▸ locateConflict_find hlocated))
        have hmax : (updateConflict located (storedEvidence s e)).degradation <
            s.engine.policy.actionabilityThreshold := by
          rw [← hsame, updateConflict, storedEvidence_degradation]
          exact Binary64.maximum_lt hbelow hmeasured
        rw [progressConflict_below hcurrent hmax]
        exact ConflictState.noConfusion
      · rw [hc] at hc'
        cases hc'
        exact hstate
  · rw [ingestEvidence_of_invalid hv, hc] at hc'
    cases hc'
    exact hstate

/-! ## Resolved and actionable -/

/-- The call sets the conflict to RESOLVED, or reports SHIFTED_CONTENTION for it. -/
def Clears (s : GovernorState) (input : InterferenceEvidence) (cid : ConflictId) : Prop :=
  ∃ c iid i x y, Completes s input cid c iid i x y ∧ (y = .resolved ∨
    ((submitPostActionEvidence input s).2.engine.interventions.find iid).map (·.result) =
      some .shiftedContention)

/-- After the call the conflict gets no decision, the same evidence as CURRENT evidence does
not make it ACTIONABLE, and its measurement is not one that counts as actionable. -/
structure StaysCleared (s : GovernorState) (input : InterferenceEvidence) (cid : ConflictId) :
    Prop where
  noDecision : (evaluate cid (submitPostActionEvidence input s).2).decision = none
  notActionable : ∀ id c', input.status = .current →
    (ingestEvidence { input with id := id }
      (submitPostActionEvidence input s).2).2.engine.conflicts.find cid = some c' →
    c'.state ≠ .actionable
  measurement : ¬s.engine.policy.actionabilityThreshold ≤ input.measured

/-- What verification clears, evaluation and ingestion leave cleared. -/
def ThresholdsAgree (s : GovernorState) (input : InterferenceEvidence) : Prop :=
  ∀ cid, Clears s input cid → StaysCleared s input cid

theorem clears_iff {s : GovernorState} {input : InterferenceEvidence} {cid : ConflictId} :
    Clears s input cid ↔ ∃ v, closing s input = some v ∧ v.key = cid ∧
      (verdict s input v = .resolved ∨ verdict s input v = .shiftedContention) := by
  have hresult : ∀ v, closing s input = some v →
      ((submitPostActionEvidence input s).2.engine.interventions.find v.id).map (·.result) =
        some (verdict s input v) := by
    intro v hclosing
    rw [submit_of_closing hclosing, settleIntervention, OrderedMap.find_insert_self]
    rfl
  constructor
  · rintro ⟨c, iid, i, x, y, hcompletes, hclears⟩
    obtain ⟨hclosing, hstates⟩ := completes_iff.mp hcompletes
    refine ⟨_, hclosing, rfl, ?_⟩
    rcases hclears with rfl | hshifted
    · left
      apply (outcomeStates_success _).2.2.mp
      rw [hstates]
    · right
      have hv := hresult _ hclosing
      rw [hshifted] at hv
      exact (Option.some.inj hv).symm
  · rintro ⟨v, hclosing, rfl, hv⟩
    refine ⟨_, _, _, _, _, completes_iff.mpr ⟨hclosing, rfl⟩, ?_⟩
    rcases hv with hresolved | hshifted
    · left
      rw [hresolved]
    · right
      rw [hresult v hclosing, hshifted]

/-- What clears a conflict is below the threshold or on it. -/
theorem cleared_measurement {s : GovernorState} {input : InterferenceEvidence} {v : Closing}
    (h : verdict s input v = .resolved ∨ verdict s input v = .shiftedContention) :
    input.measured < s.engine.policy.actionabilityThreshold ∨
      (hurtsTarget s input v = false ∧
        input.measured ≤ s.engine.policy.actionabilityThreshold) := by
  rcases h with hresolved | hshifted
  · have hboth := verdict_eq_resolved.mp hresolved
    rw [storedEvidence_degradation] at hboth
    exact .inr hboth
  · left
    unfold verdict classifyOutcome at hshifted
    rw [storedEvidence_degradation] at hshifted
    split_ifs at hshifted with hsecondary hbelow
    exact hbelow

/-- A measurement below the threshold is neither decided on nor ACTIONABLE afterwards. -/
theorem staysCleared_of_below {s : GovernorState} {input : InterferenceEvidence} {v : Closing}
    (hclosing : closing s input = some v)
    (hv : verdict s input v = .resolved ∨ verdict s input v = .shiftedContention)
    (hbelow : input.measured < s.engine.policy.actionabilityThreshold) :
    StaysCleared s input v.key := by
  have hengine := submit_of_closing hclosing
  have hpolicy : (submitPostActionEvidence input s).2.engine.policy = s.engine.policy := by
    rw [hengine]
    rfl
  have hfind : (submitPostActionEvidence input s).2.engine.conflicts.find v.key =
      some { remeasureConflict v.conflict (storedEvidence s input) with
        state := (outcomeStates (verdict s input v)).2 } := by
    rw [hengine, settleIntervention, OrderedMap.find_insert_self]
  have hdegradation : (remeasureConflict v.conflict (storedEvidence s input)).degradation =
      input.measured := storedEvidence_degradation s input
  refine ⟨?_, fun id c' hcurrent hc' => ?_, Binary64.not_le_of_lt hbelow⟩
  · apply no_decision_of_below hfind
    rwa [hpolicy, hdegradation]
  · refine not_actionable_of_ingest (e := { input with id := id }) hfind ?_ hcurrent ?_ ?_ hc'
    · rcases hv with h | h <;> rw [h] <;> exact ConflictState.noConfusion
    · rwa [hpolicy, hdegradation]
    · rwa [hpolicy]

/-- The thresholds agree on a call exactly when no measurement on the threshold itself closes
an intervention whose target is not hurt elsewhere. -/
theorem thresholds_agree_iff (s : GovernorState) (input : InterferenceEvidence) :
    ThresholdsAgree s input ↔ ∀ v, closing s input = some v → hurtsTarget s input v = false →
      ¬input.measured.same s.engine.policy.actionabilityThreshold := by
  constructor
  · intro h v hclosing hunhurt hsame
    have hresolved : verdict s input v = .resolved := by
      apply verdict_eq_resolved.mpr ⟨hunhurt, ?_⟩
      rw [storedEvidence_degradation]
      obtain ⟨hmeasured, hthreshold, hplace⟩ := Binary64.same_iff.mp hsame
      exact Binary64.le_iff.mpr ⟨hmeasured, hthreshold, hplace.le⟩
    have hstays := h v.key (clears_iff.mpr ⟨v, hclosing, rfl, .inl hresolved⟩)
    exact hstays.measurement (Binary64.le_of_same hsame)
  · intro h cid hclears
    obtain ⟨v, hclosing, rfl, hv⟩ := clears_iff.mp hclears
    apply staysCleared_of_below hclosing hv
    rcases cleared_measurement hv with hbelow | ⟨hunhurt, hle⟩
    · exact hbelow
    · exact Binary64.lt_of_le_of_not_same hle (h v hclosing hunhurt)

/-- Workload 1 loses one fifth of its throughput, which is the default threshold. -/
def onThreshold : InterferenceEvidence := { slowdown with coRunObservation := 80.0 }

/-- A throttle that leaves the loss on the threshold resolves a conflict that is at once
decided on again. -/
theorem resolved_and_actionable :
    ¬∀ ops s input, Runs.exec step {} ops = some s → ThresholdsAgree s input := by
  intro h
  have hagree := h _ _ onThreshold (@exec_reached throttleDispatched (by decide +kernel))
  have hresolved : (closing (reached throttleDispatched) onThreshold).map (fun v =>
      (v.key, verdict (reached throttleDispatched) onThreshold v)) = some (⟨1⟩, .resolved) := by
    decide +kernel
  have hdecided : (evaluate ⟨1⟩
      (submitPostActionEvidence onThreshold (reached throttleDispatched)).2).decision.isSome := by
    decide +kernel
  obtain ⟨v, hclosing, hv⟩ := Option.map_eq_some_iff.mp hresolved
  obtain ⟨hkey, hverdict⟩ := Prod.mk.inj hv
  have hstays := hagree ⟨1⟩ (clears_iff.mpr ⟨v, hclosing, hkey, .inl hverdict⟩)
  rw [hstays.noDecision] at hdecided
  cases hdecided

end ContentionGovernor
