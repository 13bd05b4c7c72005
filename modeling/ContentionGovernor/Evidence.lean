import ContentionGovernor.Basic

/-!
# Interference evidence

`evidence.hpp` and `evidence.cpp`: the input contract of one observation.
-/

namespace ContentionGovernor

structure InterferenceEvidence where
  id : InterferenceEvidenceId := {}
  generation : InterferenceEvidenceGeneration := {}
  victim : WorkloadId := {}
  neighbors : List WorkloadId := []
  domain : ResourceDomain
  metric : MetricDirection := .higherIsBetter
  isolatedBaseline : Double := 0.0
  coRunObservation : Double := 0.0
  degradation : Double := 0.0
  improvement : Double := 0.0
  attribution : AttributionStrength := .unknown
  confidence : Double := 0.0
  sampleCount : UInt64 := 0
  unresolvedConfounders : List ByteString := []
  status : EvidenceStatus := .unknown
  sampledAt : TimeMs := 0
  maxAgeMs : TimeMs := 0
  label : EvidenceLabel := .synthetic
  sourceId : ByteString := ""
  sourceHealth : ByteString := ""
  workerBoot : WorkerBootId := {}
  workloadGeneration : WorkloadGeneration := {}
  deviceGeneration : DeviceGeneration := {}
  hostGeneration : HostGeneration := {}
  topologyGeneration : TopologyGeneration := {}
  resourceGeneration : ResourceGeneration := {}
  placementGeneration : PlacementGeneration := {}
  activeFrom : TimeMs := 0
  activeUntil : TimeMs := 0

def computeDegradation (d : MetricDirection) (baseline observation : Double) : Double :=
  if ¬(0.0 < baseline) ∨ ¬baseline.isFinite ∨ ¬observation.isFinite then 0.0
  else if d = .higherIsBetter then
    if baseline ≤ observation then 0.0 else (baseline - observation) / baseline
  else if observation ≤ baseline then 0.0
  else (observation - baseline) / baseline

def computeImprovement (d : MetricDirection) (baseline observation : Double) : Double :=
  if ¬(0.0 < baseline) ∨ ¬baseline.isFinite ∨ ¬observation.isFinite then 0.0
  else if d = .higherIsBetter then
    if observation ≤ baseline then 0.0 else (observation - baseline) / baseline
  else if baseline ≤ observation then 0.0
  else (baseline - observation) / baseline

def structurallyValid (e : InterferenceEvidence) : Bool :=
  if ¬e.isolatedBaseline.isFinite ∨ ¬e.coRunObservation.isFinite then false
  else if e.isolatedBaseline ≤ 0.0 then false
  else if ¬e.confidence.isFinite ∨ e.confidence < 0.0 ∨ 1.0 < e.confidence then false
  else if ¬e.degradation.isFinite ∨ e.degradation < 0.0 then false
  else if e.sampleCount = 0 then false
  else true

def validateEvidence (e : InterferenceEvidence) : Status :=
  if e.victim.value = 0 then .bad .invalidInput "evidence victim id is zero"
  else if ¬structurallyValid e then
    .bad .invalidInput "evidence structurally invalid (NaN/Inf/range/count)"
  else .good

def classifySeverity (degradation : Double) : Severity :=
  if ¬degradation.isFinite then .unknown
  else if degradation ≤ 0.0 then .none
  else if degradation < 0.10 then .minor
  else if degradation < 0.25 then .moderate
  else if degradation < 0.50 then .severe
  else .critical

/-- The record the governor stores for an accepted observation: the two derived
fractions are recomputed, whatever the caller put there. -/
def InterferenceEvidence.derived (e : InterferenceEvidence) : InterferenceEvidence :=
  { e with
    degradation := computeDegradation e.metric e.isolatedBaseline e.coRunObservation
    improvement := computeImprovement e.metric e.isolatedBaseline e.coRunObservation }

end ContentionGovernor
