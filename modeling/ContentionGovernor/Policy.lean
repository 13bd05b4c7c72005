import ContentionGovernor.Evidence

/-!
# Policy

`policy.hpp` and `policy.cpp`: the generation-bound policy, the action budget
and the workload policies.
-/

namespace ContentionGovernor

structure WorkloadPolicy where
  workload : WorkloadId := {}
  generation : PolicyGeneration := {}
  nonPreemptible : Bool := false
  protectedWorkload : Bool := false
  value : Double := 0.0
  priority : UInt32 := 0
  hardSloFloor : Double := 0.0
  softSloTarget : Option Double := none
  minServiceFloor : Double := 0.0
  costCeiling : Double := 0.0
  restartCost : Double := 0.0
  preemptionCost : Double := 0.0
  recoveryCost : Double := 0.0
  maxDegradationTolerated : Double := 1.0
  maxInterventionFrequencyPerWindow : UInt32 := 0
  preemptionAllowed : Bool := true
  throttlingAllowed : Bool := true
  deferralAllowed : Bool := true
  admissionRestrictionAllowed : Bool := true
  placementChangeAllowed : Bool := true
  bandwidthRequestAllowed : Bool := true
  collectiveSchedulingAllowed : Bool := true
  migrationAllowed : Bool := true

structure ActionBudgetStats where
  preemptions : UInt64 := 0
  migrations : UInt64 := 0
  placementChanges : UInt64 := 0
  throttles : UInt64 := 0
  collectiveReschedules : UInt64 := 0
  all : UInt64 := 0
deriving DecidableEq

structure ActionBudget where
  generation : ActionBudgetGeneration := {}
  maxPreemptionsPerWindow : UInt64 := 3
  maxMigrationsPerWindow : UInt64 := 2
  maxPlacementChangesPerWindow : UInt64 := 2
  maxThrottlesPerWindow : UInt64 := 8
  maxCollectiveReschedulesPerWindow : UInt64 := 2
  maxAnyPerWindow : UInt64 := 32
  windowMs : TimeMs := 60000
  windowStart : TimeMs := 0
  used : ActionBudgetStats := {}
deriving DecidableEq

structure ContentionPolicy where
  id : PolicyId := {}
  generation : PolicyGeneration := {}
  actionabilityThreshold : Double := 0.20
  releaseThreshold : Double := 0.10
  hysteresisEvidenceCount : UInt64 := 2
  minAttributionForDisruptive : AttributionStrength := .controlledComparison
  minConfidenceForDisruptive : Double := 0.6
  fairnessFloor : Double := 0.10
  maxConsecutiveInterventionsPerWorkload : UInt32 := 3
  fairnessWeight : Double := 1.0
  costCeiling : Double := 0.0
  cooldownMs : TimeMs := 5000
  budget : ActionBudget := {}
  workloads : OrderedMap WorkloadId WorkloadPolicy := .empty
  preemptionAllowed : Bool := true
  migrationAllowed : Bool := true
  placementChangeAllowed : Bool := true
  bandwidthRequestAllowed : Bool := true
  collectiveSchedulingAllowed : Bool := true
  admissionRestrictionAllowed : Bool := true
  throttleAllowed : Bool := true

def workloadPolicyFor (p : ContentionPolicy) (w : WorkloadId) : WorkloadPolicy :=
  match p.workloads.find w with
  | some wp => wp
  | none => { workload := w, generation := p.generation }

/-- The check of one workload policy, in the loop of `validate_policy`. -/
def validateWorkload (wp : WorkloadPolicy) : Status :=
  if ¬wp.value.isFinite then .bad .invalidInput "workload value non-finite"
  else if wp.hardSloFloor < 0.0 ∨ 1.0 < wp.hardSloFloor then
    .bad .invalidInput "hard SLO floor out of range"
  else if wp.minServiceFloor < 0.0 ∨ 1.0 < wp.minServiceFloor then
    .bad .invalidInput "min service floor out of range"
  else if wp.maxDegradationTolerated < 0.0 ∨ 1.0 < wp.maxDegradationTolerated then
    .bad .invalidInput "max degradation tolerated out of range"
  else .good

def validatePolicy (p : ContentionPolicy) : Status :=
  if p.actionabilityThreshold < 0.0 ∨ 1.0 < p.actionabilityThreshold then
    .bad .invalidInput "actionability threshold out of range"
  else if p.releaseThreshold < 0.0 ∨ 1.0 < p.releaseThreshold then
    .bad .invalidInput "release threshold out of range"
  else if p.actionabilityThreshold ≤ p.releaseThreshold then
    .bad .invalidInput "release threshold must be below actionability threshold"
  else if p.hysteresisEvidenceCount = 0 then
    .bad .invalidInput "hysteresis evidence count must be > 0"
  else if ¬p.minConfidenceForDisruptive.isFinite ∨ p.minConfidenceForDisruptive < 0.0 ∨
      1.0 < p.minConfidenceForDisruptive then
    .bad .invalidInput "min confidence out of range"
  else if p.fairnessFloor < 0.0 ∨ 1.0 < p.fairnessFloor then
    .bad .invalidInput "fairness floor out of range"
  else if p.maxConsecutiveInterventionsPerWorkload = 0 then
    .bad .invalidInput "max consecutive interventions must be > 0"
  else if p.budget.maxPreemptionsPerWindow = 0 ∨ p.budget.maxMigrationsPerWindow = 0 ∨
      p.budget.maxThrottlesPerWindow = 0 ∨ p.budget.maxAnyPerWindow = 0 then
    .bad .invalidInput "action budget limits must be > 0"
  else
    match p.workloads.entries.find? fun e => ¬(validateWorkload e.2).isOk with
    | some e => validateWorkload e.2
    | none => .good

theorem passed_check {c : Prop} [Decidable c] {message : ByteString} {status : Status}
    (h : (if c then .bad .invalidInput message else status).isOk) : ¬c ∧ status.isOk := by
  split_ifs at h with hc
  · cases h
  · exact ⟨hc, h⟩

/-- What a policy that passes the validator satisfies, one field for each check.  A comparison
with a NaN is false, so the ranges say what the thresholds are not. -/
structure PolicyValid (p : ContentionPolicy) : Prop where
  threshold : ¬(p.actionabilityThreshold < 0.0 ∨ 1.0 < p.actionabilityThreshold)
  release : ¬(p.releaseThreshold < 0.0 ∨ 1.0 < p.releaseThreshold)
  ordered : ¬p.actionabilityThreshold ≤ p.releaseThreshold
  hysteresis : p.hysteresisEvidenceCount ≠ 0
  confidence : ¬(¬p.minConfidenceForDisruptive.isFinite ∨ p.minConfidenceForDisruptive < 0.0 ∨
    1.0 < p.minConfidenceForDisruptive)
  fairness : ¬(p.fairnessFloor < 0.0 ∨ 1.0 < p.fairnessFloor)
  consecutive : p.maxConsecutiveInterventionsPerWorkload ≠ 0
  limits : ¬(p.budget.maxPreemptionsPerWindow = 0 ∨ p.budget.maxMigrationsPerWindow = 0 ∨
    p.budget.maxThrottlesPerWindow = 0 ∨ p.budget.maxAnyPerWindow = 0)
  workloads : ∀ e ∈ p.workloads.entries, (validateWorkload e.2).isOk

theorem validatePolicy_valid {p : ContentionPolicy} (h : (validatePolicy p).isOk) :
    PolicyValid p := by
  unfold validatePolicy at h
  obtain ⟨hthreshold, h⟩ := passed_check h
  obtain ⟨hrelease, h⟩ := passed_check h
  obtain ⟨hordered, h⟩ := passed_check h
  obtain ⟨hhysteresis, h⟩ := passed_check h
  obtain ⟨hconfidence, h⟩ := passed_check h
  obtain ⟨hfairness, h⟩ := passed_check h
  obtain ⟨hconsecutive, h⟩ := passed_check h
  obtain ⟨hlimits, h⟩ := passed_check h
  refine ⟨hthreshold, hrelease, hordered, hhysteresis, hconfidence, hfairness, hconsecutive,
    hlimits, ?_⟩
  cases hfind : p.workloads.entries.find? fun e => ¬(validateWorkload e.2).isOk with
  | none =>
    intro e he
    simpa using List.find?_eq_none.mp hfind e he
  | some e =>
    -- The loop has stopped at a workload policy with an error.
    rw [hfind] at h
    exact absurd h (by simpa using List.find?_some hfind)

def classEligible (p : ContentionPolicy) : InterventionClass → Bool
  | .noAction | .observeMore | .escalate | .manualInterventionRequired => true
  | .throttle | .reduceConcurrency | .reduceBatch | .serialize | .timeSlice
  | .reduceMemoryPressure => p.throttleAllowed
  | .deferNewWork => p.admissionRestrictionAllowed
  | .requestPreemption => p.preemptionAllowed
  | .requestMigration | .requestReplacement => p.migrationAllowed
  | .changePlacement => p.placementChangeAllowed
  | .requestBandwidthReallocation | .requestCommunicationReplan
  | .requestCollectiveReschedule =>
    p.bandwidthRequestAllowed || p.collectiveSchedulingAllowed
  | .releaseOptionalResidency => true
  | .shedLowValueWork | .protectHighValueWork => true

end ContentionGovernor
