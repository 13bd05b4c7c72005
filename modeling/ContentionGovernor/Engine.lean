import Mathlib.Data.List.Sort
import ContentionGovernor.Conflict

/-!
# The decision engine

`governor_engine.cpp`: fences, feasibility and the evaluation pipeline, as pure
functions of the engine state.
-/

namespace ContentionGovernor

/-! ## Authority fencing -/

def makeFence (ctx : AuthorityContext) (conflictGeneration : ConflictGeneration)
    (evidenceGeneration : InterferenceEvidenceGeneration) (target : WorkloadId)
    (interventionGeneration : InterventionGeneration) : Fence where
  coordinatorEpoch := ctx.coordinatorEpoch
  governorGeneration := ctx.governorGeneration
  policyGeneration := ctx.policyGeneration
  sloGeneration := ctx.sloGeneration
  valueGeneration := ctx.valueGeneration
  fairnessGeneration := ctx.fairnessGeneration
  resourceGeneration := ctx.resourceGeneration
  placementGeneration := ctx.placementGeneration
  topologyGeneration := ctx.topologyGeneration
  conflictGeneration := conflictGeneration
  evidenceGeneration := evidenceGeneration
  interventionGeneration := interventionGeneration
  workloadGeneration := (ctx.workloadGenerations.find target).getD {}
  workerBoot := (ctx.workloadBoots.find target).getD {}

def revalidate (s : EngineState) (f : Fence) (target : WorkloadId) : Status :=
  let a := s.authority
  if f.coordinatorEpoch ≠ a.coordinatorEpoch then
    .bad .staleAuthority "coordinator epoch stale"
  else if f.governorGeneration ≠ a.governorGeneration then
    .bad .staleAuthority "governor generation stale"
  else if f.policyGeneration ≠ a.policyGeneration then
    .bad .policySuperseded "policy generation stale"
  else if f.sloGeneration ≠ a.sloGeneration then
    .bad .staleAuthority "SLO generation stale"
  else if f.valueGeneration ≠ a.valueGeneration then
    .bad .staleAuthority "value generation stale"
  else if f.fairnessGeneration ≠ a.fairnessGeneration then
    .bad .staleAuthority "fairness generation stale"
  else if f.resourceGeneration ≠ a.resourceGeneration then
    .bad .staleAuthority "resource generation stale"
  else if f.placementGeneration ≠ a.placementGeneration then
    .bad .staleAuthority "placement generation stale"
  else if f.topologyGeneration ≠ a.topologyGeneration then
    .bad .staleAuthority "topology generation stale"
  else if a.workloadGenerations.find target ≠ some f.workloadGeneration then
    .bad .staleAuthority "workload generation stale"
  else if a.workloadBoots.find target ≠ some f.workerBoot then
    .bad .staleAuthority "worker boot stale"
  else .good

/-! ## Feasibility -/

structure FeasibilityResult where
  status : FeasibilityStatus := .infeasible
  reasons : List ByteString := []

/-- The refusals of the policy switch in `check_feasibility`, in source order. -/
def policyRefusals (p : ContentionPolicy) (wp : WorkloadPolicy) :
    InterventionClass → List ByteString
  | .throttle | .reduceConcurrency | .reduceBatch | .serialize | .timeSlice
  | .reduceMemoryPressure =>
    (if ¬wp.throttlingAllowed ∨ ¬p.throttleAllowed then ["throttling disabled"] else []) ++
      (if (1.0 - 1e-9 : Double) ≤ wp.hardSloFloor then ["would violate hard SLO floor"] else [])
  | .requestPreemption | .requestReplacement =>
    (if wp.nonPreemptible then ["non-preemptible workload"] else []) ++
      (if ¬wp.preemptionAllowed ∨ ¬p.preemptionAllowed then ["preemption disabled"] else [])
  | .requestMigration =>
    (if wp.nonPreemptible then ["non-preemptible workload"] else []) ++
      (if ¬wp.migrationAllowed ∨ ¬p.migrationAllowed then ["migration disabled"] else [])
  | .deferNewWork =>
    if ¬wp.deferralAllowed ∨ ¬p.admissionRestrictionAllowed then ["deferral disabled"] else []
  | .changePlacement =>
    if ¬wp.placementChangeAllowed ∨ ¬p.placementChangeAllowed then
      ["placement change disabled"] else []
  | .requestBandwidthReallocation =>
    if ¬wp.bandwidthRequestAllowed ∨ ¬p.bandwidthRequestAllowed then
      ["bandwidth request disabled"] else []
  | .requestCommunicationReplan =>
    if ¬p.bandwidthRequestAllowed then ["communication replan disabled"] else []
  | .requestCollectiveReschedule =>
    if ¬wp.collectiveSchedulingAllowed ∨ ¬p.collectiveSchedulingAllowed then
      ["collective reschedule disabled"] else []
  | _ => []

/-- The fairness limit: a workload at its cap of consecutive interventions. -/
def fairnessRefusals (s : EngineState) (target : WorkloadId) : List ByteString :=
  match s.fairness.find target with
  | some fr =>
    if s.policy.maxConsecutiveInterventionsPerWorkload ≤ fr.consecutiveInterventions then
      ["fairness limit reached for target"] else []
  | none => []

def checkFeasibility (s : EngineState) (target : WorkloadId) (cls : InterventionClass)
    (f : Fence) : FeasibilityResult :=
  let rv := revalidate s f target
  if ¬rv.isOk then ⟨.infeasible, [rv.code.toByteString]⟩
  else
    -- Every refusal of the source sets the status and records one reason.
    let reasons :=
      policyRefusals s.policy (workloadPolicyFor s.policy target) cls ++ fairnessRefusals s target
    ⟨if reasons = [] then .feasible else .infeasible, reasons⟩

/-! ## Ranking -/

/-- The fixed order that breaks ties between equally ranked candidates. -/
def classOrder : List InterventionClass :=
  [.throttle, .reduceConcurrency, .reduceBatch, .serialize, .timeSlice, .requestPreemption,
    .requestMigration, .requestReplacement, .changePlacement, .requestBandwidthReallocation,
    .requestCommunicationReplan, .requestCollectiveReschedule, .releaseOptionalResidency,
    .reduceMemoryPressure, .shedLowValueWork, .protectHighValueWork, .deferNewWork, .escalate,
    .noAction, .observeMore, .manualInterventionRequired]

def classIndex (c : InterventionClass) : ℕ := classOrder.idxOf c

/-- The modelled effect of a class: reduction, neighbor degradation,
reversibility, time to effect and adapter label. -/
def effectModel : InterventionClass → Double × Double × Double × TimeMs × ByteString
  | .throttle => (0.5, 0.15, 0.9, 50, "IThrottleAdapter")
  | .reduceConcurrency => (0.4, 0.20, 0.85, 100, "IThrottleAdapter")
  | .reduceBatch => (0.35, 0.12, 0.9, 50, "IThrottleAdapter")
  | .serialize => (0.55, 0.25, 0.9, 20, "IThrottleAdapter")
  | .timeSlice => (0.3, 0.1, 0.95, 40, "IThrottleAdapter")
  | .requestPreemption => (0.8, 0.5, 0.1, 200, "IPreemptionAdapter")
  | .requestMigration => (0.85, 0.05, 0.3, 500, "IPlacementAdapter")
  | .changePlacement => (0.7, 0.1, 0.3, 300, "IPlacementAdapter")
  | .requestBandwidthReallocation => (0.6, 0.08, 0.8, 100, "IBandwidthAdapter")
  | .requestCommunicationReplan => (0.5, 0.05, 0.4, 200, "ICommunicationAdapter")
  | .requestCollectiveReschedule => (0.55, 0.05, 0.5, 150, "ICollectiveAdapter")
  | .releaseOptionalResidency => (0.2, 0.05, 0.6, 30, "IPlacementAdapter")
  | .reduceMemoryPressure => (0.4, 0.1, 0.8, 80, "IThrottleAdapter")
  | .deferNewWork => (0.3, 0.02, 0.9, 30, "IAdmissionAdapter")
  | .shedLowValueWork => (0.45, 0.35, 0.1, 120, "IAdmissionAdapter")
  | .protectHighValueWork => (0.35, 0.1, 0.8, 60, "IPreemptionAdapter")
  | _ => (0.0, 0.0, 0.5, 0, "")

/-- A candidate of the class on the target with the `default_effect` fields. -/
def defaultEffect (cls : InterventionClass) (target : WorkloadId) : InterventionCandidate :=
  let (reduction, neighbor, reversibility, timeToEffect, adapter) := effectModel cls
  { cls, target, reversibility, timeToEffect, adapter
    expectedConflictReduction := reduction
    expectedNeighborDegradation := neighbor
    expectedTargetImprovement :=
      Binary64.maximum 0.0 (Binary64.minimum 1.0 reduction)
    expectedRecoveryCost := if cls = .requestPreemption then 1.0 else 0.0
    expectedCost := 0.1 * neighbor
    confidence := 0.5 }

/-- The comparator `better`; `!=` on doubles is the IEEE comparison. -/
def better (p : ContentionPolicy) (a b : InterventionCandidate) : Bool :=
  if ¬a.expectedConflictReduction.same b.expectedConflictReduction then
    b.expectedConflictReduction < a.expectedConflictReduction
  else if ¬a.expectedNeighborDegradation.same b.expectedNeighborDegradation then
    a.expectedNeighborDegradation < b.expectedNeighborDegradation
  else
    let va := (workloadPolicyFor p a.target).value
    let vb := (workloadPolicyFor p b.target).value
    if ¬va.same vb then va < vb
    else if ¬a.expectedCost.same b.expectedCost then a.expectedCost < b.expectedCost
    else if ¬a.reversibility.same b.reversibility then b.reversibility < a.reversibility
    else if classIndex a.cls ≠ classIndex b.cls then classIndex a.cls < classIndex b.cls
    else if a.target ≠ b.target then a.target < b.target
    else ByteEnum.raw a.cls < ByteEnum.raw b.cls

/-- `std::stable_sort` by `better`. -/
def rank (p : ContentionPolicy) (cs : List InterventionCandidate) : List InterventionCandidate :=
  cs.insertionSort fun a b => ¬better p b a

/-! ## Evaluation -/

def eligibleClasses : List InterventionClass :=
  [.throttle, .reduceConcurrency, .reduceBatch, .serialize, .timeSlice, .requestPreemption,
    .requestMigration, .requestReplacement, .changePlacement, .requestBandwidthReallocation,
    .requestCommunicationReplan, .requestCollectiveReschedule, .releaseOptionalResidency,
    .reduceMemoryPressure, .deferNewWork, .shedLowValueWork, .protectHighValueWork]

/-- The listed records that are present, CURRENT and structurally valid, in order. -/
def currentEvidence (s : EngineState) (c : ContentionConflict) : List InterferenceEvidence :=
  c.evidenceIds.filterMap fun eid =>
    (s.evidence.find eid).filter fun e => e.status = .current ∧ structurallyValid e

/-- The rejections recorded for the listed records that are present but unusable. -/
def unusableEvidence (s : EngineState) (c : ContentionConflict) : List RejectedIntervention :=
  c.evidenceIds.filterMap fun eid =>
    match s.evidence.find eid with
    | none => none
    | some e =>
      if e.status ≠ .current then
        some ⟨.noAction, ("evidence not current: " : ByteString) ++ e.status.toByteString⟩
      else if ¬structurallyValid e then some ⟨.noAction, "evidence structurally invalid"⟩
      else none

/-- The gate on disruptive action: one rejection for each unmet requirement. -/
def disruptiveRejections (p : ContentionPolicy) (primary : InterferenceEvidence) :
    List RejectedIntervention :=
  (if primary.attribution < p.minAttributionForDisruptive then
    [⟨.noAction, ("attribution below disruptive threshold: " : ByteString) ++
      primary.attribution.toByteString⟩] else []) ++
  (if primary.confidence < p.minConfidenceForDisruptive then
    [⟨.noAction, "confidence below disruptive threshold"⟩] else []) ++
  (if primary.unresolvedConfounders ≠ [] then
    [⟨.noAction, "evidence has unresolved confounders"⟩] else [])

def buildCandidate (s : EngineState) (ctx : AuthorityContext) (c : ContentionConflict)
    (primary : InterferenceEvidence) (target : WorkloadId) (cls : InterventionClass) :
    InterventionCandidate :=
  let f := makeFence ctx c.generation primary.generation target ⟨1⟩
  let fr := checkFeasibility s target cls f
  { defaultEffect cls target with feasible := fr.status, infeasibilityReasons := fr.reasons }

/-- One candidate for each target and eligible class, targets outermost. -/
def buildCandidates (s : EngineState) (ctx : AuthorityContext) (c : ContentionConflict)
    (primary : InterferenceEvidence) (targets : List WorkloadId) : List InterventionCandidate :=
  targets.flatMap fun target =>
    (eligibleClasses.filter (classEligible s.policy)).map
      (buildCandidate s ctx c primary target)

def feasibleCandidates (cs : List InterventionCandidate) : List InterventionCandidate :=
  cs.filter fun cand => cand.feasible = .feasible

/-- The ranked choice among the feasible candidates and its trace. -/
def rankedDecision (p : ContentionPolicy) (cs : List InterventionCandidate) :
    Option InterventionDecision :=
  (rank p (feasibleCandidates cs)).head?.map fun chosen =>
    { chosen
      rankingTrace := [("selected " : ByteString) ++ chosen.cls.toByteString ++
        (" on workload " : ByteString) ++ (toString chosen.target.value.toNat : String)] }

/-- The evaluation once the evidence gates have passed. -/
def evaluateCandidates (s : EngineState) (ctx : AuthorityContext) (c : ContentionConflict)
    (primary : InterferenceEvidence) (ev : ConflictEvaluation) : ConflictEvaluation :=
  let all := buildCandidates s ctx c primary (c.associated.insertionSort (· ≤ ·))
  match rankedDecision s.policy all with
  | some d => { ev with candidates := all, decision := some d, state := .actionable }
  | none =>
    { ev with
      candidates := all, state := .unresolved
      status := .bad .noLegalIntervention "no legal intervention" }

def evaluateConflict (s : EngineState) (conflictId : ConflictId) (ctx : AuthorityContext) :
    ConflictEvaluation :=
  match s.conflicts.find conflictId with
  | none =>
    { conflictId, state := .unknown, status := .bad .invalidInput "unknown conflict" }
  | some c =>
    let ev : ConflictEvaluation :=
      { conflictId, state := c.state, binding := c.binding, degradation := c.degradation
        severity := c.severity, rejected := unusableEvidence s c }
    match currentEvidence s c with
    | [] =>
      { ev with
        rejected := ev.rejected ++ [⟨.noAction, "no current valid evidence"⟩]
        state := .unknown
        status := .bad .insufficientEvidence "no CURRENT, structurally valid evidence" }
    | primary :: _ =>
      let gate := disruptiveRejections s.policy primary
      let ev := { ev with rejected := ev.rejected ++ gate }
      if c.degradation < s.policy.actionabilityThreshold then
        { ev with
          rejected := ev.rejected ++ [⟨.noAction, "degradation below actionability threshold"⟩]
          state := .unknown
          status := .bad .insufficientEvidence "not actionable" }
      else if c.associated = [] then
        { ev with
          rejected := ev.rejected ++ [⟨.observeMore,
            "no justified associated workload; correlation alone is not enough"⟩]
          state := .unresolved
          status := .bad .confounded "no associated workload identified" }
      else if gate ≠ [] then
        { ev with
          state := .unresolved
          status := .bad .insufficientEvidence
            "insufficient attribution/confidence for destructive action" }
      else evaluateCandidates s ctx c primary ev

end ContentionGovernor
