import ContentionGovernor.AtomicRejection
import ContentionGovernor.Hysteresis
import Mathlib.Logic.Function.Basic

/-!
# The last measurement of a conflict

Verification compares with the degradation that the conflict holds.  Ingestion raises it to
the largest value seen, and evidence of any status writes it, so it can lie above the last
measurement that was CURRENT.  The run carries that measurement along for each conflict.
-/

namespace ContentionGovernor

/-- A state with the degradation of the CURRENT evidence that each conflict received last. -/
structure Measured where
  state : GovernorState
  last : ConflictId → Option Double

/-- The measurement of the last listed record that is usable. -/
def listedLast (s : GovernorState) (cid : ConflictId) : Option Double :=
  (s.engine.conflicts.find cid).bind fun c =>
    (currentEvidence s.engine c).getLast?.map (·.degradation)

/-- What the conflict under this id has received last, after evidence for it. -/
def noteCurrent (e : InterferenceEvidence) (old : Option Double) : Option Double :=
  if e.status = .current then some e.measured else old

/-- The last measurements after an operation.  A new conflict has none before its first
evidence, and a loaded state has those of its records. -/
def Measured.after (m : Measured) (s' : GovernorState) : Op → ConflictId → Option Double
  | .ingestEvidence e =>
    if (validateEvidence e).isOk then
      match locateConflict m.state.engine.conflicts (storedEvidence m.state e) with
      | some (cid, _) => Function.update m.last cid (noteCurrent e (m.last cid))
      | none => Function.update m.last ⟨m.state.nextConflictId⟩ (noteCurrent e none)
    else m.last
  | .submitPostActionEvidence e =>
    if (validateEvidence e).isOk then
      match locateConflict m.state.engine.conflicts (storedEvidence m.state e) with
      | some (cid, _) => Function.update m.last cid (noteCurrent e (m.last cid))
      | none => m.last
    else m.last
  | .load opts readable file =>
    if (Op.load opts readable file).restores m.state then listedLast s' else m.last
  | _ => m.last

def measuredStep (m : Measured) (op : Op) : Option Measured :=
  (step m.state op).map fun s' => ⟨s', m.after s' op⟩

/-- The measurements do not change what the governor does. -/
theorem exec_measured (m : Measured) (ops : List Op) :
    (Runs.exec measuredStep m ops).map (·.state) = Runs.exec step m.state ops := by
  apply Runs.exec_map
  intro x op
  rw [measuredStep, Option.map_map]
  exact Option.map_id_apply

/-! ## Degradations at their last measurement -/

/-- What lies below the degradation lies below the measurement. -/
def Covers (x d : Double) : Prop := d = x ∨ d ≤ x

theorem Covers.lt {x d y : Double} (h : Covers x d) (hy : y < d) : y < x := by
  rcases h with rfl | hle
  · exact hy
  · exact Binary64.lt_of_lt_of_le hy hle

theorem Covers.maximum {x d d' : Double} (h : Covers x d) (h' : Covers x d') :
    Covers x (Binary64.maximum d d') := by
  unfold Binary64.maximum
  split_ifs
  · exact h'
  · exact h

/-- No conflict holds a degradation above its last measurement. -/
def AtMost (m : Measured) : Prop :=
  ∀ cid c x, m.state.engine.conflicts.find cid = some c → m.last cid = some x →
    Covers x c.degradation

/-- Evidence that is not CURRENT does not exceed the last measurement of the conflict. -/
def StaysBelow (m : Measured) (e : InterferenceEvidence) (cid : ConflictId) : Prop :=
  e.status ≠ .current → ∀ x ∈ m.last cid, e.measured ≤ x

/-- The operation leaves no degradation above the last measurement: what is ingested as
CURRENT for a conflict is not below the degradation it holds, other evidence does not exceed
its last measurement, and a snapshot holds no degradation above that of its records. -/
def FollowsMeasurement (m : Measured) : Op → Prop
  | .ingestEvidence e => (validateEvidence e).isOk →
    ∀ entry ∈ locateConflict m.state.engine.conflicts (storedEvidence m.state e),
      (e.status = .current → entry.2.degradation ≤ e.measured) ∧ StaysBelow m e entry.1
  | .submitPostActionEvidence e => (validateEvidence e).isOk →
    ∀ entry ∈ locateConflict m.state.engine.conflicts (storedEvidence m.state e),
      StaysBelow m e entry.1
  | .load opts readable file => (Op.load opts readable file).restores m.state →
    ∀ s', step m.state (.load opts readable file) = some s' → AtMost ⟨s', listedLast s'⟩
  | _ => True

/-- The evidence covers itself when it is CURRENT, and is covered by what was before when it
is not. -/
theorem covers_noteCurrent {m : Measured} {e : InterferenceEvidence} {cid : ConflictId}
    {x : Double} (hbelow : StaysBelow m e cid) (hx : noteCurrent e (m.last cid) = some x) :
    Covers x e.measured ∧ (e.status = .current → x = e.measured) ∧
      (e.status ≠ .current → m.last cid = some x) := by
  unfold noteCurrent at hx
  split_ifs at hx with hcurrent
  · cases hx
    exact ⟨.inl rfl, fun _ => rfl, fun hne => absurd hcurrent hne⟩
  · exact ⟨.inr (hbelow hcurrent x hx), fun h => absurd h hcurrent, fun _ => hx⟩

/-- One conflict gets a degradation and a last measurement, and the others keep theirs. -/
theorem AtMost.update {m : Measured} (hm : AtMost m) {s' : GovernorState} {cid : ConflictId}
    {c' : ContentionConflict} {o : Option Double}
    (hconflicts : s'.engine.conflicts = m.state.engine.conflicts.insert cid c')
    (hcovers : ∀ x, o = some x → Covers x c'.degradation) :
    AtMost ⟨s', Function.update m.last cid o⟩ := by
  intro j c x hc hx
  dsimp only at hc hx
  rw [hconflicts] at hc
  rcases OrderedMap.find_insert_cases hc with ⟨rfl, rfl⟩ | ⟨hj, hc⟩
  · rw [Function.update_self] at hx
    exact hcovers x hx
  · rw [Function.update_of_ne hj] at hx
    exact hm j c x hc hx

theorem atMost_ingest {m : Measured} (hm : AtMost m) {e : InterferenceEvidence}
    (hop : FollowsMeasurement m (.ingestEvidence e)) :
    AtMost ⟨(ingestEvidence e m.state).2,
      m.after (ingestEvidence e m.state).2 (.ingestEvidence e)⟩ := by
  by_cases hv : (validateEvidence e).isOk
  · have hop := hop hv
    simp only [Measured.after, if_pos hv]
    rcases ingest_conflicts (s := m.state) hv with
      ⟨hnone, hinsert⟩ | ⟨cid, c, hlocated, hinsert⟩
    · rw [hnone]
      apply hm.update hinsert
      intro x hx
      obtain ⟨_, _, hframe⟩ := progressConflict_frame m.state.engine.policy
        (storedEvidence m.state e) (newConflict m.state (storedEvidence m.state e))
      rw [hframe, newConflict, storedEvidence_degradation]
      unfold noteCurrent at hx
      split_ifs at hx
      cases hx
      exact .inl rfl
    · rw [hlocated] at hop ⊢
      obtain ⟨hraises, hbelow⟩ := hop _ rfl
      apply hm.update hinsert
      intro x hx
      obtain ⟨hmeasured, hcurrent, hother⟩ := covers_noteCurrent hbelow hx
      obtain ⟨_, _, hframe⟩ := progressConflict_frame m.state.engine.policy
        (storedEvidence m.state e) (updateConflict c (storedEvidence m.state e))
      rw [hframe, updateConflict, storedEvidence_degradation]
      refine Covers.maximum ?_ hmeasured
      -- What the conflict holds is below CURRENT evidence, and below the old measurement.
      by_cases hstatus : e.status = .current
      · rw [hcurrent hstatus]
        exact .inr (hraises hstatus)
      · exact hm cid c x (locateConflict_find hlocated) (hother hstatus)
  · simp only [Measured.after, if_neg hv]
    rw [ingestEvidence_of_invalid hv]
    exact hm

theorem atMost_submit {m : Measured} (hm : AtMost m) {e : InterferenceEvidence}
    (hop : FollowsMeasurement m (.submitPostActionEvidence e)) :
    AtMost ⟨(submitPostActionEvidence e m.state).2,
      m.after (submitPostActionEvidence e m.state).2 (.submitPostActionEvidence e)⟩ := by
  by_cases hv : (validateEvidence e).isOk
  · have hop := hop hv
    simp only [Measured.after, if_pos hv]
    rcases submit_remeasured (s := m.state) hv with
      ⟨hnone, hsame⟩ | ⟨cid, c, state, hlocated, hinsert⟩
    · rw [hnone]
      intro cid c x hc hx
      dsimp only at hc
      rw [hsame] at hc
      exact hm cid c x hc hx
    · rw [hlocated] at hop ⊢
      apply hm.update hinsert
      intro x hx
      have hdegradation : (remeasureConflict c (storedEvidence m.state e)).degradation =
          e.measured := storedEvidence_degradation m.state e
      rw [hdegradation]
      exact (covers_noteCurrent (hop _ rfl) hx).1
  · simp only [Measured.after, if_neg hv]
    rw [submitPostActionEvidence_of_invalid hv]
    exact hm

theorem step_atMost {m m' : Measured} {op : Op} (hm : AtMost m) (hop : FollowsMeasurement m op)
    (h : measuredStep m op = some m') : AtMost m' := by
  obtain ⟨s', hstep, rfl⟩ := Option.map_eq_some_iff.mp h
  have hquiet : op.stored m.state = none → ¬op.isLoad → m.after s' op = m.last →
      AtMost ⟨s', m.after s' op⟩ := by
    intro hstored hload hlast cid c' x hc' hx
    obtain ⟨c, hc, hsame⟩ := step_sameReading hstep hload hstored hc'
    rw [hsame.degradation]
    exact hm cid c x hc (hlast ▸ hx)
  cases op with
  | ingestEvidence e =>
    cases hstep
    exact atMost_ingest hm hop
  | submitPostActionEvidence e =>
    cases hstep
    exact atMost_submit hm hop
  | load opts readable file =>
    simp only [Measured.after]
    split_ifs with hrestores
    · exact hop hrestores s' hstep
    · rw [load_of_not_restores hstep hrestores]
      exact hm
  | _ => exact hquiet rfl Bool.false_ne_true rfl

/-! ## Partial relief -/

/-- The empty governor, which has received nothing. -/
def Measured.start : Measured := ⟨{}, fun _ => none⟩

/-- The call records the intervention as partially effective. -/
def ReportsPartial (s : GovernorState) (input : InterferenceEvidence) (cid : ConflictId) : Prop :=
  ∃ c iid i, Completes s input cid c iid i .partiallyEffective .partiallyResolved

theorem reportsPartial_of_verdict {s : GovernorState} {input : InterferenceEvidence}
    {cid : ConflictId} (h : (closing s input).map (fun v => (v.key, verdict s input v)) =
      some (cid, .partiallyResolved)) : ReportsPartial s input cid := by
  obtain ⟨v, hclosing, hv⟩ := Option.map_eq_some_iff.mp h
  obtain ⟨rfl, hverdict⟩ := Prod.mk.inj hv
  refine ⟨v.conflict, v.id, v.record, completes_iff.mpr ⟨hclosing, ?_⟩⟩
  rw [hverdict]
  rfl

/-- In a run that leaves no degradation above the last measurement, partial relief is relief
against that measurement. -/
theorem improvement_measured {ops : List Op} {m : Measured}
    (hops : Runs.Guarded measuredStep FollowsMeasurement .start ops)
    (hrun : Runs.exec measuredStep .start ops = some m) {input : InterferenceEvidence}
    {cid : ConflictId} (h : ReportsPartial m.state input cid) :
    ∀ x, m.last cid = some x → input.measured < x := by
  have hstart : AtMost .start := by
    intro cid c x hc
    cases hc
  have hm := Runs.invariant_of_guarded (fun _ _ _ => step_atMost) hops hrun hstart
  intro x hx
  obtain ⟨c, iid, i, hcompletes⟩ := h
  obtain ⟨hclosing, hstates⟩ := completes_iff.mp hcompletes
  obtain ⟨-, hlocated, -⟩ := closing_spec hclosing
  have hverdict : verdict m.state input ⟨cid, c, iid, i⟩ = .partiallyResolved := by
    cases hv : verdict m.state input ⟨cid, c, iid, i⟩ with
    | partiallyResolved => rfl
    | _ => rw [hv] at hstates; cases hstates
  have hless : input.measured < c.degradation := by
    unfold verdict classifyOutcome at hverdict
    rw [storedEvidence_degradation] at hverdict
    split_ifs at hverdict with _ _ _ hless
    exact hless
  exact (hm cid c x (locateConflict_find hlocated) hx).lt hless

/-- Workload 1 still loses three tenths of its throughput. -/
def partialRecovery : InterferenceEvidence := { slowdown with coRunObservation := 70.0 }

instance (x d : Double) : Decidable (Covers x d) := inferInstanceAs (Decidable (_ ∨ _))

theorem atMost_iff {m : Measured} : AtMost m ↔ ∀ entry ∈ m.state.engine.conflicts.entries,
    ∀ x ∈ m.last entry.1, Covers x entry.2.degradation := by
  constructor
  · intro h entry hentry x hx
    exact h entry.1 entry.2 x (OrderedMap.mem_entries.mp hentry) hx
  · intro h cid c x hc hx
    exact h (cid, c) (OrderedMap.mem_entries.mpr hc) x hx

instance (m : Measured) : Decidable (AtMost m) := decidable_of_iff _ atMost_iff.symm

instance (m : Measured) (e : InterferenceEvidence) (cid : ConflictId) :
    Decidable (StaysBelow m e cid) :=
  inferInstanceAs (Decidable (e.status ≠ .current → ∀ x ∈ m.last cid, e.measured ≤ x))

instance (m : Measured) : (op : Op) → Decidable (FollowsMeasurement m op)
  | .ingestEvidence e => inferInstanceAs (Decidable ((validateEvidence e).isOk →
      ∀ entry ∈ locateConflict m.state.engine.conflicts (storedEvidence m.state e),
        (e.status = .current → entry.2.degradation ≤ e.measured) ∧ StaysBelow m e entry.1))
  | .submitPostActionEvidence e => inferInstanceAs (Decidable ((validateEvidence e).isOk →
      ∀ entry ∈ locateConflict m.state.engine.conflicts (storedEvidence m.state e),
        StaysBelow m e entry.1))
  | .load opts readable file => inferInstanceAs (Decidable
      ((Op.load opts readable file).restores m.state →
        ∀ s' ∈ step m.state (.load opts readable file), AtMost ⟨s', listedLast s'⟩))
  | .setPolicy _ | .setAuthority _ | .recordWorkerBoot _ _ | .recordWorkloadGeneration _ _
  | .advanceEpoch | .evaluate _ | .authorize _ _ _ | .dispatch _ _ _
  | .authorizeAndDispatch _ _ _ _ _ | .onAcknowledge _ _ _ | .onActionFailed _ _ _
  | .save => .isTrue trivial

/-- The slowdown grows from a fifth to two fifths, a STALE report shows less of it, and a
throttle is dispatched. -/
def worsened : List Op :=
  registerNeighbor ++ [.ingestEvidence { slowdown with coRunObservation := 80.0 },
    .ingestEvidence slowdown,
    .ingestEvidence { slowdown with coRunObservation := 90.0, status := .stale },
    .authorize ⟨1⟩ .throttle 1000, .dispatch ⟨1⟩ 1500 (some acceptingAdapter)]

theorem improvement_measured_partial : ∃ m : Measured, m.last ⟨1⟩ = some slowdown.measured ∧
    partialRecovery.measured < slowdown.measured := by
  have hend : (Runs.exec measuredStep .start worsened).map (fun m =>
      ((closing m.state partialRecovery).map (fun v => (v.key, verdict m.state partialRecovery v)),
        m.last ⟨1⟩)) = some (some (⟨1⟩, .partiallyResolved), some slowdown.measured) := by
    decide +kernel
  obtain ⟨m, hrun, hfacts⟩ := Option.map_eq_some_iff.mp hend
  obtain ⟨hclosed, hlast⟩ := Prod.mk.inj hfacts
  exact ⟨m, hlast, improvement_measured (by decide +kernel) hrun
    (reportsPartial_of_verdict hclosed) _ hlast⟩

/-- The slowdown falls from nine tenths to two fifths before the throttle. -/
def eased : List Op :=
  registerNeighbor ++ [.ingestEvidence { slowdown with coRunObservation := 10.0 },
    .ingestEvidence slowdown, .authorize ⟨1⟩ .throttle 1000, .dispatch ⟨1⟩ 1500 (some acceptingAdapter)]

/-- After the throttle workload 1 loses three fifths: more than when it was measured last. -/
def relapse : InterferenceEvidence := { slowdown with coRunObservation := 40.0 }

theorem relapse_partially_resolved :
    ¬∀ ops m input cid, Runs.exec measuredStep .start ops = some m →
      ReportsPartial m.state input cid → ∀ x, m.last cid = some x → input.measured < x := by
  intro h
  have hend : (Runs.exec measuredStep .start eased).map (fun m =>
      ((closing m.state relapse).map (fun v => (v.key, verdict m.state relapse v)),
        m.last ⟨1⟩)) = some (some (⟨1⟩, .partiallyResolved), some slowdown.measured) := by
    decide +kernel
  obtain ⟨m, hrun, hfacts⟩ := Option.map_eq_some_iff.mp hend
  obtain ⟨hclosed, hlast⟩ := Prod.mk.inj hfacts
  have hless := h eased m relapse ⟨1⟩ hrun (reportsPartial_of_verdict hclosed) _ hlast
  exact absurd hless (by decide +kernel)

end ContentionGovernor
