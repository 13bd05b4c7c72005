import ContentionGovernor.Thresholds

/-!
# The severity of a conflict

The severity is a copy of the degradation, classified when the conflict is opened.  Later
evidence changes the degradation by two different rules and leaves the copy as it is.
-/

namespace ContentionGovernor

/-- The severity of every conflict is that of its degradation. -/
def SeverityTracks (s : GovernorState) : Prop :=
  ∀ cid c, s.engine.conflicts.find cid = some c → c.severity = classifySeverity c.degradation

/-- The measurement is of the same severity as the degradation that the conflict holds. -/
def SameSeverity (c : ContentionConflict) (e : InterferenceEvidence) : Prop :=
  classifySeverity e.measured = classifySeverity c.degradation

instance (c : ContentionConflict) (e : InterferenceEvidence) : Decidable (SameSeverity c e) :=
  inferInstanceAs (Decidable (_ = _))

/-- What is measured again for a conflict is of its severity; a lower measurement may be
ingested, for then the conflict keeps its degradation. -/
def KeepsSeverity (s : GovernorState) : Op → Prop
  | .ingestEvidence e => (validateEvidence e).isOk →
    ∀ entry ∈ locateConflict s.engine.conflicts e,
      entry.2.degradation < e.measured → SameSeverity entry.2 e
  | .submitPostActionEvidence e => (validateEvidence e).isOk →
    ∀ entry ∈ locateConflict s.engine.conflicts e, SameSeverity entry.2 e
  | _ => True

/-! ## One step -/

/-- With one conflict replaced, the severities track exactly when that of the new one does. -/
theorem severityTracks_insert {s s' : GovernorState} {cid : ConflictId} {c' : ContentionConflict}
    (hs : SeverityTracks s) (h : s'.engine.conflicts = s.engine.conflicts.insert cid c') :
    SeverityTracks s' ↔ c'.severity = classifySeverity c'.degradation := by
  constructor
  · intro hs'
    apply hs' cid
    rw [h, OrderedMap.find_insert_self]
  · intro hc' j c hc
    rw [h] at hc
    rcases OrderedMap.find_insert_cases hc with ⟨-, rfl⟩ | ⟨-, hc⟩
    · exact hc'
    · exact hs j c hc

theorem severityTracks_ingest {s : GovernorState} (hs : SeverityTracks s)
    (e : InterferenceEvidence) :
    KeepsSeverity s (.ingestEvidence e) ↔ SeverityTracks (ingestEvidence e s).2 := by
  by_cases hv : (validateEvidence e).isOk
  · simp only [KeepsSeverity, hv, forall_const]
    rw [← locate_stored s e]
    rcases ingest_conflicts (s := s) hv with ⟨hnone, hinsert⟩ | ⟨cid, c, hlocated, hinsert⟩
    · have hreading := progressConflict_reading s.engine.policy (storedEvidence s e)
        (newConflict s (storedEvidence s e))
      rw [severityTracks_insert hs hinsert, hnone, hreading.severity, hreading.degradation]
      exact iff_of_true (fun _ hentry => absurd hentry (Option.not_mem_none _)) rfl
    · have hreading := progressConflict_reading s.engine.policy (storedEvidence s e)
        (updateConflict c (storedEvidence s e))
      have hseverity : (updateConflict c (storedEvidence s e)).severity =
          classifySeverity c.degradation := hs cid c (locateConflict_find hlocated)
      rw [severityTracks_insert hs hinsert, hlocated, hreading.severity, hreading.degradation,
        hseverity]
      simp only [Option.mem_some_iff, forall_eq', updateConflict, storedEvidence_degradation,
        Binary64.maximum, SameSeverity]
      split_ifs with hraises
      · simp only [hraises, forall_const]
        exact eq_comm
      · simp only [hraises, false_imp_iff]
  · rw [ingestEvidence_of_invalid hv]
    exact iff_of_true (fun hvalid => absurd hvalid hv) hs

theorem severityTracks_submit {s : GovernorState} (hs : SeverityTracks s)
    (e : InterferenceEvidence) :
    KeepsSeverity s (.submitPostActionEvidence e) ↔
      SeverityTracks (submitPostActionEvidence e s).2 := by
  by_cases hv : (validateEvidence e).isOk
  · simp only [KeepsSeverity, hv, forall_const]
    rw [← locate_stored s e]
    rcases submit_remeasured (s := s) hv with ⟨hnone, hsame⟩ | ⟨cid, c, state, hlocated, hinsert⟩
    · rw [hnone]
      refine iff_of_true (fun _ hentry => absurd hentry (Option.not_mem_none _)) fun j c' hc' => ?_
      apply hs j c'
      rwa [hsame] at hc'
    · have hseverity := hs cid c (locateConflict_find hlocated)
      rw [severityTracks_insert hs hinsert, hlocated]
      simp only [Option.mem_some_iff, forall_eq', remeasureConflict, storedEvidence_degradation,
        hseverity, SameSeverity]
      exact eq_comm
  · rw [submitPostActionEvidence_of_invalid hv]
    exact iff_of_true (fun hvalid => absurd hvalid hv) hs

/-- The condition says exactly which steps keep the severities right. -/
theorem severityTracks_step {s : GovernorState} (hs : SeverityTracks s) {op : Op}
    (hload : ¬op.isLoad) :
    KeepsSeverity s op ↔ ∀ s', step s op = some s' → SeverityTracks s' := by
  have hquiet : op.stored s = none → ∀ s', step s op = some s' → SeverityTracks s' := by
    intro hstored s' h cid c' hc'
    obtain ⟨c, hc, hsame⟩ := step_sameReading h hload hstored hc'
    rw [hsame.severity, hsame.degradation]
    exact hs cid c hc
  cases op with
  | ingestEvidence e =>
    rw [severityTracks_ingest hs e]
    constructor
    · rintro h _ ⟨⟩
      exact h
    · exact fun h => h _ rfl
  | submitPostActionEvidence e =>
    rw [severityTracks_submit hs e]
    constructor
    · rintro h _ ⟨⟩
      exact h
    · exact fun h => h _ rfl
  | load => exact absurd rfl hload
  | _ => exact iff_of_true trivial (hquiet rfl)

/-! ## Runs -/

/-- Along a run without a load the severities track the degradations in every state exactly
when each further measurement of a conflict is of its severity. -/
theorem severity_tracks_iff {ops : List Op} (hload : ∀ op ∈ ops, ¬op.isLoad) :
    (∀ pre s, pre <+: ops → Runs.exec step {} pre = some s → SeverityTracks s) ↔
      Runs.Guarded step KeepsSeverity {} ops := by
  apply Runs.invariant_throughout_iff
  · exact fun s hs op hop => severityTracks_step hs (hload op hop)
  · intro cid c hc
    cases hc

theorem severity_tracks_iff_slowdown :
    (∀ pre s, pre <+: throttleNeighbor → Runs.exec step {} pre = some s → SeverityTracks s) ↔
      Runs.Guarded step KeepsSeverity {} throttleNeighbor :=
  severity_tracks_iff (by decide)

/-- A slight loss of workload 1 grows into a severe one, and the conflict stays MINOR. -/
theorem severity_stays_minor :
    ¬∀ ops s, (∀ op ∈ ops, ¬op.isLoad) → Runs.exec step {} ops = some s → SeverityTracks s := by
  intro h
  let ops : List Op :=
    [.ingestEvidence { slowdown with coRunObservation := 95.0 }, .ingestEvidence slowdown]
  have htracks := h ops _ (by decide) (exec_reached (by decide +kernel))
  have hconflict : ((reached ops).engine.conflicts.find ⟨1⟩).any fun c =>
      c.severity = .minor ∧ classifySeverity c.degradation = .severe := by decide +kernel
  obtain ⟨c, hc, hboth⟩ := (Option.any_eq_true _ _).mp hconflict
  obtain ⟨hminor, hsevere⟩ := of_decide_eq_true hboth
  have hsame := htracks ⟨1⟩ c hc
  rw [hminor, hsevere] at hsame
  cases hsame

end ContentionGovernor
