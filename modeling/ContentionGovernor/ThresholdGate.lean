import ContentionGovernor.SnapshotRoundTrip
import ContentionGovernor.Hysteresis

/-!
# The actionability gate of an accepted policy

The validator rejects what is out of range and the evaluation stops what is below the
threshold.  A NaN is neither, so it passes the validator and stops nothing.
-/

namespace ContentionGovernor

/-- The policy is one that `set_policy` accepts, or that of a snapshot that is loaded. -/
def AcceptedPolicy (p : ContentionPolicy) : Prop :=
  (∃ s, (setPolicy p s).1.isOk) ∨
    ∃ data dest s, loadFromBytes data dest = .ok (.good, s) ∧ s.engine.policy = p

/-- The two thresholds are finite, in order and within the unit interval. -/
structure ThresholdsInOrder (p : ContentionPolicy) : Prop where
  releaseFinite : p.releaseThreshold.isFinite
  thresholdFinite : p.actionabilityThreshold.isFinite
  nonnegative : 0.0 ≤ p.releaseThreshold
  below : p.releaseThreshold < p.actionabilityThreshold
  atMost : p.actionabilityThreshold ≤ 1.0

/-- Under the policy no conflict without degradation is decided on. -/
def StopsUndegraded (p : ContentionPolicy) : Prop :=
  ∀ (s : GovernorState) (cid : ConflictId) (c : ContentionConflict), s.engine.policy = p →
    s.engine.conflicts.find cid = some c → c.degradation.same 0.0 →
    (evaluate cid s).decision = none

theorem validatePolicy_of_accepted {p : ContentionPolicy} (h : AcceptedPolicy p) :
    (validatePolicy p).isOk := by
  rcases h with ⟨s, hset⟩ | ⟨data, dest, s, hload, rfl⟩
  · unfold setPolicy at hset
    dsimp only at hset
    split_ifs at hset with hvalid
    · exact hvalid
    · exact hset
  · exact Status.isOk_iff.mpr (loadable_of_load hload).valid

theorem stopsUndegraded_of_inOrder {p : ContentionPolicy} (h : ThresholdsInOrder p) :
    StopsUndegraded p := by
  rintro s cid c rfl hc hzero
  have hle : c.degradation ≤ s.engine.policy.releaseThreshold :=
    Binary64.le_trans (Binary64.le_of_same (Binary64.same_symm hzero)) h.nonnegative
  exact no_decision_of_below hc (Binary64.lt_of_le_of_lt hle h.below)

/-- An accepted policy keeps its thresholds in order, and conflicts without degradation from
being decided on, exactly when neither threshold is a NaN. -/
theorem gate_enforced_iff {p : ContentionPolicy} (h : AcceptedPolicy p) :
    (ThresholdsInOrder p ∧ StopsUndegraded p) ↔
      p.actionabilityThreshold.isNaN = false ∧ p.releaseThreshold.isNaN = false := by
  have hvalid := validatePolicy_valid (validatePolicy_of_accepted h)
  constructor
  · rintro ⟨hinOrder, -⟩
    obtain ⟨hrelease, hthreshold, -⟩ := Binary64.lt_iff.mp hinOrder.below
    exact ⟨hthreshold, hrelease⟩
  · rintro ⟨hthreshold, hrelease⟩
    have hzero : (0.0 : Double).isFinite := by decide +kernel
    have hunit : (1.0 : Double).isFinite := by decide +kernel
    have hnonnegative : 0.0 ≤ p.releaseThreshold :=
      Binary64.le_of_not_lt (by decide +kernel) hrelease fun hlt => hvalid.release (.inl hlt)
    have hone : p.actionabilityThreshold ≤ 1.0 :=
      Binary64.le_of_not_lt hthreshold (by decide +kernel) fun hlt => hvalid.threshold (.inr hlt)
    have hbelow : p.releaseThreshold < p.actionabilityThreshold :=
      Binary64.lt_of_not_le hrelease hthreshold hvalid.ordered
    have hinOrder : ThresholdsInOrder p :=
      { releaseFinite := Binary64.isFinite_of_between hzero hunit hnonnegative
          (Binary64.le_trans (Binary64.le_of_lt hbelow) hone)
        thresholdFinite := Binary64.isFinite_of_between hzero hunit
          (Binary64.le_trans hnonnegative (Binary64.le_of_lt hbelow)) hone
        nonnegative := hnonnegative
        below := hbelow
        atMost := hone }
    exact ⟨hinOrder, stopsUndegraded_of_inOrder hinOrder⟩

theorem gate_enforced_iff_default :
    (ThresholdsInOrder {} ∧ StopsUndegraded {}) ↔
      ({} : ContentionPolicy).actionabilityThreshold.isNaN = false ∧
        ({} : ContentionPolicy).releaseThreshold.isNaN = false :=
  gate_enforced_iff (.inl ⟨{}, by decide +kernel⟩)

/-- A policy whose threshold is a NaN. -/
def unordered : ContentionPolicy := { actionabilityThreshold := ⟨0x7FF8000000000000⟩ }

/-- Workload 1 is not slowed down at all. -/
def unharmed : InterferenceEvidence := { slowdown with coRunObservation := 100.0 }

/-- `set_policy` accepts the NaN, and then a conflict without degradation is decided on. -/
theorem nan_threshold_decides :
    ¬∀ p, AcceptedPolicy p → ThresholdsInOrder p ∧ StopsUndegraded p := by
  intro h
  have haccepted : AcceptedPolicy unordered := .inl ⟨{}, by decide +kernel⟩
  have hvalid : (validatePolicy unordered).isOk := by decide +kernel
  let s : GovernorState := (ingestEvidence unharmed (reached
    (.setPolicy unordered :: registerNeighbor))).2
  have hconflict : (s.engine.conflicts.find ⟨1⟩).any (fun c => c.degradation.same 0.0) := by
    decide +kernel
  have hdecided : (evaluate ⟨1⟩ s).decision.isSome := by decide +kernel
  obtain ⟨c, hc, hzero⟩ := (Option.any_eq_true _ _).mp hconflict
  have hpolicy : s.engine.policy = unordered := by
    rw [ingestEvidence_policy]
    exact setPolicy_policy {} hvalid
  rw [(h unordered haccepted).2 s ⟨1⟩ c hpolicy hc hzero] at hdecided
  cases hdecided

end ContentionGovernor
