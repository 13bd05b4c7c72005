import ContentionGovernor.Policy

/-!
# Engine state

The records of `conflict.hpp`, `engine.hpp` and `state.hpp`.
-/

namespace ContentionGovernor

structure ContentionConflict where
  id : ConflictId := {}
  generation : ConflictGeneration := {}
  affected : List WorkloadId := []
  associated : List WorkloadId := []
  domain : ResourceDomain := .unknown
  degradation : Double := 0.0
  baseline : Double := 0.0
  confidence : Double := 0.0
  binding : BindingObjective := .unknown
  severity : Severity := .unknown
  evidenceIds : List InterferenceEvidenceId := []
  state : ConflictState := .detected
  firstDetectedAt : TimeMs := 0
  lastUpdatedAt : TimeMs := 0
  activeUntil : TimeMs := 0
  unresolvedConfounders : List ByteString := []
  blockers : List ByteString := []
  candidateClasses : List InterventionClass := []
  proposedIds : List InterventionId := []
  selectedIds : List InterventionId := []
  policyGeneration : PolicyGeneration := {}
  sloGeneration : SLOGeneration := {}
  valueGeneration : ValueGeneration := {}
  fairnessGeneration : FairnessGeneration := {}
  resourceGeneration : ResourceGeneration := {}
  placementGeneration : PlacementGeneration := {}
  coordinatorEpoch : CoordinatorEpoch := {}
  workerBoot : WorkerBootId := {}
  groupEffectExplicit : Bool := false
  lastActionAt : TimeMs := 0
  inActionableState : Bool := false

structure RejectedIntervention where
  cls : InterventionClass
  reason : ByteString
deriving DecidableEq

structure InterventionCandidate where
  cls : InterventionClass
  target : WorkloadId
  expectedConflictReduction : Double := 0.0
  expectedTargetImprovement : Double := 0.0
  expectedNeighborDegradation : Double := 0.0
  expectedCost : Double := 0.0
  expectedRecoveryCost : Double := 0.0
  confidence : Double := 0.0
  reversibility : Double := 0.5
  timeToEffect : TimeMs := 0
  feasible : FeasibilityStatus := .infeasible
  infeasibilityReasons : List ByteString := []
  adapter : ByteString := ""
deriving DecidableEq

structure InterventionDecision where
  chosen : InterventionCandidate
  rankingTrace : List ByteString
deriving DecidableEq

structure ConflictEvaluation where
  conflictId : ConflictId
  state : ConflictState := .unknown
  binding : BindingObjective := .unknown
  degradation : Double := 0.0
  severity : Severity := .unknown
  candidates : List InterventionCandidate := []
  rejected : List RejectedIntervention := []
  decision : Option InterventionDecision := none
  status : Status := .good
deriving DecidableEq

/-- The generations an intervention carries from its authorization. -/
structure Fence where
  coordinatorEpoch : CoordinatorEpoch := {}
  governorGeneration : GovernorGeneration := {}
  policyGeneration : PolicyGeneration := {}
  sloGeneration : SLOGeneration := {}
  valueGeneration : ValueGeneration := {}
  fairnessGeneration : FairnessGeneration := {}
  resourceGeneration : ResourceGeneration := {}
  placementGeneration : PlacementGeneration := {}
  topologyGeneration : TopologyGeneration := {}
  conflictGeneration : ConflictGeneration := {}
  evidenceGeneration : InterferenceEvidenceGeneration := {}
  workerBoot : WorkerBootId := {}
  workloadGeneration : WorkloadGeneration := {}
  interventionGeneration : InterventionGeneration := {}
deriving DecidableEq

structure AuthorityContext where
  coordinatorEpoch : CoordinatorEpoch := {}
  governorGeneration : GovernorGeneration := {}
  policyGeneration : PolicyGeneration := {}
  sloGeneration : SLOGeneration := {}
  valueGeneration : ValueGeneration := {}
  fairnessGeneration : FairnessGeneration := {}
  resourceGeneration : ResourceGeneration := {}
  placementGeneration : PlacementGeneration := {}
  topologyGeneration : TopologyGeneration := {}
  workloadGenerations : OrderedMap WorkloadId WorkloadGeneration := .empty
  workloadBoots : OrderedMap WorkloadId WorkerBootId := .empty

structure InterventionRecord where
  id : InterventionId := {}
  generation : InterventionGeneration := {}
  cls : InterventionClass
  conflictId : ConflictId := {}
  target : WorkloadId := {}
  state : LifecycleState := .proposed
  fence : Fence := {}
  adapter : ByteString := ""
  authorizedAt : TimeMs := 0
  dispatchedAt : TimeMs := 0
  acknowledgedAt : TimeMs := 0
  completedAt : TimeMs := 0
  dispatchId : DispatchId := {}
  attemptId : AttemptId := {}
  ackNote : ByteString := ""
  interimStatus : Status := {}
  result : VerificationOutcome := .outcomeUnknown
  trace : List ByteString := []
  verificationReported : Bool := false

structure FairnessRecord where
  workload : WorkloadId := {}
  interventionCount : UInt64 := 0
  consecutiveInterventions : UInt32 := 0
  deprivationDebt : Double := 0.0
  lastInterventionAt : TimeMs := 0

structure EngineState where
  policy : ContentionPolicy := {}
  conflicts : OrderedMap ConflictId ContentionConflict := .empty
  evidence : OrderedMap InterferenceEvidenceId InterferenceEvidence := .empty
  interventions : OrderedMap InterventionId InterventionRecord := .empty
  fairness : OrderedMap WorkloadId FairnessRecord := .empty
  authority : AuthorityContext := {}

/-- The durable state of a governor. -/
structure GovernorState where
  engine : EngineState := {}
  nextConflictId : UInt64 := 1
  nextEvidenceId : UInt64 := 1
  nextInterventionId : UInt64 := 1
  nextDispatchId : UInt64 := 1
  nextAttemptId : UInt64 := 1
  nextVerificationId : UInt64 := 1
  lastDigest : UInt64 := 0

end ContentionGovernor
