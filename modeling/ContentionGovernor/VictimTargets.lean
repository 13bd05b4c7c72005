import ContentionGovernor.Authorization
import ContentionGovernor.EvidenceIntegrity

/-!
# Victims as targets

A conflict affects the victim of its first evidence, and its targets are the neighbors that
the last ingested evidence lists.  Nothing compares the two.
-/

namespace ContentionGovernor

/-- No decision for a conflict and no intervention on it is aimed at a workload that the
conflict affects. -/
structure SparesVictims (s : GovernorState) : Prop where
  decision : ∀ cid c d, s.engine.conflicts.find cid = some c →
    (evaluate cid s).decision = some d → d.chosen.target ∉ c.affected
  intervention : ∀ cid c cls now iid s' r, s.engine.conflicts.find cid = some c →
    authorize cid cls now s = .ok (some iid, s') →
    s'.engine.interventions.find iid = some r → r.target ∉ c.affected

/-- Accepted evidence is ingested only where it does not list its victim as a neighbor. -/
def Op.namesOthers : Op → Prop
  | .ingestEvidence e => (validateEvidence e).isOk → e.victim ∉ e.neighbors
  | _ => True

/-- Every conflict affects one workload, which is not one of its targets. -/
def TargetsOthers (s : GovernorState) : Prop :=
  ∀ cid c, s.engine.conflicts.find cid = some c → ∃ w, c.affected = [w] ∧ w ∉ c.associated

/-! ## One step -/

theorem targetsOthers_insert {s s' : GovernorState} {cid : ConflictId} {c' : ContentionConflict}
    (hs : TargetsOthers s) (h : s'.engine.conflicts = s.engine.conflicts.insert cid c')
    (hc' : ∃ w, c'.affected = [w] ∧ w ∉ c'.associated) : TargetsOthers s' := by
  intro j c hc
  rw [h] at hc
  rcases OrderedMap.find_insert_cases hc with ⟨-, rfl⟩ | ⟨-, hc⟩
  · exact hc'
  · exact hs j c hc

theorem targetsOthers_ingest {s : GovernorState} (hs : TargetsOthers s) {e : InterferenceEvidence}
    (hothers : (validateEvidence e).isOk → e.victim ∉ e.neighbors) :
    TargetsOthers (ingestEvidence e s).2 := by
  by_cases hv : (validateEvidence e).isOk
  · have hothers : (storedEvidence s e).victim ∉ (storedEvidence s e).neighbors := by
      obtain ⟨id, hstored⟩ := storedEvidence_derived s e
      rw [hstored]
      exact hothers hv
    rcases ingest_conflicts (s := s) hv with ⟨-, hinsert⟩ | ⟨cid, c, hlocated, hinsert⟩
    · apply targetsOthers_insert hs hinsert
      have hreading := progressConflict_reading s.engine.policy (storedEvidence s e)
        (newConflict s (storedEvidence s e))
      rw [hreading.affected, hreading.associated]
      exact ⟨_, rfl, hothers⟩
    · apply targetsOthers_insert hs hinsert
      have hreading := progressConflict_reading s.engine.policy (storedEvidence s e)
        (updateConflict c (storedEvidence s e))
      rw [hreading.affected, hreading.associated]
      -- The located conflict affects the victim of the evidence, and nothing else.
      obtain ⟨w, hw, -⟩ := hs cid c (locateConflict_find hlocated)
      have hvictim := (locateConflict_matches hlocated).2
      rw [hw, List.mem_singleton] at hvictim
      exact ⟨w, hw, hvictim ▸ hothers⟩
  · rwa [ingestEvidence_of_invalid hv]

theorem targetsOthers_submit {s : GovernorState} (hs : TargetsOthers s)
    (e : InterferenceEvidence) : TargetsOthers (submitPostActionEvidence e s).2 := by
  by_cases hv : (validateEvidence e).isOk
  · rcases submit_remeasured (s := s) hv with ⟨-, hsame⟩ | ⟨cid, c, state, hlocated, hinsert⟩
    · intro j c' hc'
      rw [hsame] at hc'
      exact hs j c' hc'
    · exact targetsOthers_insert hs hinsert (hs cid c (locateConflict_find hlocated))
  · rwa [submitPostActionEvidence_of_invalid hv]

theorem step_targetsOthers {s s' : GovernorState} {op : Op} (hs : TargetsOthers s)
    (hload : ¬op.isLoad) (hothers : op.namesOthers) (h : step s op = some s') :
    TargetsOthers s' := by
  have hquiet : op.stored s = none → TargetsOthers s' := by
    intro hstored cid c' hc'
    obtain ⟨c, hc, hsame⟩ := step_sameReading h hload hstored hc'
    rw [hsame.affected, hsame.associated]
    exact hs cid c hc
  cases op with
  | ingestEvidence e =>
    cases h
    exact targetsOthers_ingest hs hothers
  | submitPostActionEvidence e =>
    cases h
    exact targetsOthers_submit hs e
  | load => exact absurd rfl hload
  | _ => exact hquiet rfl

/-! ## Targets -/

/-- Where the targets of a conflict are others than its victim, so is every chosen one. -/
theorem sparesVictims_of_targetsOthers {s : GovernorState} (hs : TargetsOthers s) :
    SparesVictims s := by
  have hdecision : ∀ cid c d, s.engine.conflicts.find cid = some c →
      (evaluate cid s).decision = some d → d.chosen.target ∉ c.affected := by
    intro cid c d hc hd
    obtain ⟨c', primary, hdec, -⟩ := decided_of_decision hd
    cases hc.symm.trans hdec.conflict
    obtain ⟨w, hw, hothers⟩ := hs cid c hc
    rw [hw, List.mem_singleton]
    intro htarget
    exact hothers (htarget ▸ hdec.target_mem)
  refine ⟨hdecision, fun cid c cls now iid s' r hc hauth hr => ?_⟩
  obtain ⟨g, hg, rfl, rfl⟩ := granted_of_authorize hauth
  obtain ⟨d, hfollows⟩ := hg.follows
  have hrecord : (commitGrant s cid g now).engine.interventions.find ⟨s.nextInterventionId⟩ =
      some (grantRecord s cid g now) := OrderedMap.find_insert_self ..
  cases hrecord.symm.trans hr
  have htarget : (grantRecord s cid g now).target = d.chosen.target := hfollows.target
  rw [htarget]
  exact hdecision cid c d hc hfollows.decision

/-- In a run without a load, in which no accepted evidence lists its own victim as a neighbor,
the governor never acts against a workload that it protects. -/
theorem victims_spared {ops : List Op} {s : GovernorState} (hload : ∀ op ∈ ops, ¬op.isLoad)
    (hothers : ∀ op ∈ ops, op.namesOthers) (hrun : Runs.exec step {} ops = some s) :
    SparesVictims s := by
  have hguard : Runs.Guarded step (fun _ op => ¬op.isLoad ∧ op.namesOthers) {} ops :=
    Runs.guarded_of_forall fun op hop => ⟨hload op hop, hothers op hop⟩
  apply sparesVictims_of_targetsOthers
  refine Runs.invariant_of_guarded (fun u op u' hu hop hstep => ?_) hguard hrun ?_
  · exact step_targetsOthers hu hop.1 hop.2 hstep
  · intro cid c hc
    cases hc

theorem victims_spared_throttle : SparesVictims (reached throttleNeighbor) := by
  have hothers : ∀ op ∈ throttleNeighbor, op.namesOthers := by
    simp [throttleNeighbor, registerNeighbor, Op.namesOthers, slowdown]
  exact victims_spared (by decide) hothers (exec_reached (by decide +kernel))

/-- Workload 1 is registered and reported as its own neighbor. -/
def blamesVictim : List Op :=
  [.recordWorkerBoot ⟨1⟩ ⟨1⟩, .recordWorkloadGeneration ⟨1⟩ ⟨1⟩,
    .ingestEvidence { slowdown with neighbors := [⟨1⟩] }]

/-- The decision for the conflict is aimed at the workload that is slowed down. -/
theorem victim_targeted :
    ¬∀ ops s, (∀ op ∈ ops, ¬op.isLoad) → Runs.exec step {} ops = some s → SparesVictims s := by
  intro h
  have hspares := h blamesVictim _ (by decide) (exec_reached (by decide +kernel))
  have hconflict : ((reached blamesVictim).engine.conflicts.find ⟨1⟩).map (·.affected) =
      some [⟨1⟩] := by decide +kernel
  have hdecided : (evaluate ⟨1⟩ (reached blamesVictim)).decision.map (·.chosen.target) =
      some ⟨1⟩ := by decide +kernel
  obtain ⟨c, hc, haffected⟩ := Option.map_eq_some_iff.mp hconflict
  obtain ⟨d, hd, htarget⟩ := Option.map_eq_some_iff.mp hdecided
  have hnot := hspares.decision ⟨1⟩ c d hc hd
  rw [haffected, htarget] at hnot
  exact hnot (List.mem_singleton_self _)

end ContentionGovernor
