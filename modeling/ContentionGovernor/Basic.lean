import Mathlib.Order.Basic
import Mathlib.Order.Defs.LinearOrder
import ContentionGovernor.Lib.ByteEnum
import ContentionGovernor.Lib.Binary64
import ContentionGovernor.Lib.OrderedMap

/-!
# Identities, enumerations and statuses

The value types of `ids.hpp`, `enums.hpp`, `status.hpp`, `clock.hpp` and
`checked.hpp`, with the bytes the enumerations are stored in.
-/

namespace ContentionGovernor

abbrev Double := Binary64

/-- A `std::string`: any bytes, not necessarily text. -/
structure ByteString where
  bytes : List UInt8
deriving DecidableEq, Inhabited

instance : Coe String ByteString := ⟨fun s => ⟨s.toUTF8.data.toList⟩⟩

instance : Append ByteString := ⟨fun a b => ⟨a.bytes ++ b.bytes⟩⟩

abbrev TimeMs := UInt64

/-! ## Identities -/

inductive Domain
  | coordinatorEpoch | governorGeneration | workerId | workerBootId | hostGeneration
  | deviceGeneration | workloadId | workloadGeneration | conflictId | conflictGeneration
  | interferenceEvidenceId | interferenceEvidenceGeneration | policyId | policyGeneration
  | sloGeneration | valueGeneration | fairnessGeneration | actionBudgetGeneration
  | resourceGeneration | placementGeneration | topologyGeneration | interventionId
  | interventionGeneration | dispatchId | attemptId

/-- A 64-bit identity of one domain; the phantom domain keeps them apart. -/
structure Id (d : Domain) where
  value : UInt64 := 0
deriving DecidableEq, Inhabited

namespace Id

variable {d : Domain}

instance : LawfulBEq (Id d) := inferInstance

theorem value_injective : Function.Injective (fun i : Id d => i.value.toNat) := by
  rintro ⟨a⟩ ⟨b⟩ h
  exact congrArg Id.mk (UInt64.toNat_inj.mp h)

instance : LinearOrder (Id d) := LinearOrder.lift' (fun i => i.value.toNat) value_injective

/-- `advance`: the next value, saturating at the top. -/
def advance (i : Id d) : Id d :=
  if i.value = 0xFFFFFFFFFFFFFFFF then i else ⟨i.value + 1⟩

theorem lt_iff {a b : Id d} : a < b ↔ a.value.toNat < b.value.toNat := Iff.rfl

theorem lt_advance {i : Id d} (h : i.value ≠ 0xFFFFFFFFFFFFFFFF) : i < i.advance := by
  have hmax : (0xFFFFFFFFFFFFFFFF : UInt64).toNat = 2 ^ 64 - 1 := rfl
  have hne : i.value.toNat ≠ 2 ^ 64 - 1 := fun heq => h (UInt64.toNat_inj.mp (heq.trans hmax.symm))
  have hlt := i.value.toNat_lt
  rw [lt_iff, advance, if_neg h, UInt64.toNat_add, UInt64.toNat_one]
  omega

end Id

abbrev CoordinatorEpoch := Id .coordinatorEpoch
abbrev GovernorGeneration := Id .governorGeneration
abbrev WorkerId := Id .workerId
abbrev WorkerBootId := Id .workerBootId
abbrev HostGeneration := Id .hostGeneration
abbrev DeviceGeneration := Id .deviceGeneration
abbrev WorkloadId := Id .workloadId
abbrev WorkloadGeneration := Id .workloadGeneration
abbrev ConflictId := Id .conflictId
abbrev ConflictGeneration := Id .conflictGeneration
abbrev InterferenceEvidenceId := Id .interferenceEvidenceId
abbrev InterferenceEvidenceGeneration := Id .interferenceEvidenceGeneration
abbrev PolicyId := Id .policyId
abbrev PolicyGeneration := Id .policyGeneration
abbrev SLOGeneration := Id .sloGeneration
abbrev ValueGeneration := Id .valueGeneration
abbrev FairnessGeneration := Id .fairnessGeneration
abbrev ActionBudgetGeneration := Id .actionBudgetGeneration
abbrev ResourceGeneration := Id .resourceGeneration
abbrev PlacementGeneration := Id .placementGeneration
abbrev TopologyGeneration := Id .topologyGeneration
abbrev InterventionId := Id .interventionId
abbrev InterventionGeneration := Id .interventionGeneration
abbrev DispatchId := Id .dispatchId
abbrev AttemptId := Id .attemptId

/-! ## Enumerations -/

inductive ResourceDomain
  | compute | cache | memoryBandwidth | memoryCapacity | pcie | transfer | collective
  | network | numa | storage | hostCpu | residency | sharedEngine | unknown
deriving DecidableEq

inductive ConflictState
  | detected | validating | actionable | interventionAuthorized | interventionInFlight
  | verifying | resolved | partiallyResolved | unresolved | suppressed
  | revalidationRequired | superseded | unknown
deriving DecidableEq

inductive EvidenceStatus
  | current | stale | expired | revalidationRequired | unsupported | unknown | confounded
  | insufficientEvidence
deriving DecidableEq

/-- The snapshot loader lets one undeclared byte through for this type, so the
values without an enumerator are kept. -/
inductive AttributionStrength
  | unknown | temporallyAssociated | correlated | controlledComparison
  | strongCounterfactualEvidence | directResourceEvidence
  | undeclared (byte : UInt8) (above : 6 ≤ byte)
deriving DecidableEq

inductive BindingObjective
  | latency | tailLatency | throughput | deadline | availability | recovery | cost
  | fairness | resourceMinimum | valueProtection | multiple | unknown
deriving DecidableEq

inductive InterventionClass
  | noAction | observeMore | throttle | deferNewWork | reduceConcurrency | reduceBatch
  | serialize | timeSlice | requestPreemption | requestMigration | requestReplacement
  | changePlacement | requestBandwidthReallocation | requestCommunicationReplan
  | requestCollectiveReschedule | releaseOptionalResidency | reduceMemoryPressure
  | shedLowValueWork | protectHighValueWork | escalate | manualInterventionRequired
deriving DecidableEq

inductive LifecycleState
  | proposed | authorized | dispatched | acknowledged | effective | partiallyEffective
  | ineffective | failed | cancelled | superseded | expired | outcomeUnknown
deriving DecidableEq

inductive VerificationOutcome
  | resolved | partiallyResolved | ineffective | worsened | shiftedContention
  | createdSecondaryViolation | createdFairnessViolation
  | insufficientPostActionEvidence | outcomeUnknown
deriving DecidableEq

inductive EvidenceLabel
  | real | controlled | derived | policy | synthetic | unsupported
deriving DecidableEq

inductive Severity
  | none | minor | moderate | severe | critical | unknown
deriving DecidableEq

inductive FeasibilityStatus
  | feasible | infeasible
deriving DecidableEq

inductive MetricDirection
  | higherIsBetter | lowerIsBetter
deriving DecidableEq

/-- As for `AttributionStrength`, the values without an enumerator are kept. -/
inductive StatusCode
  | ok | invalidInput | insufficientEvidence | confounded | staleEvidence | staleAuthority
  | policySuperseded | conflictResolved | noLegalIntervention | hardConstraintViolation
  | fairnessLimit | actionBudgetExhausted | interventionFailed | outcomeUnknown
  | persistenceCorrupt | protocolError | arithmeticOverflow | resourceExhausted | cancelled
  | shuttingDown
  | undeclared (byte : UInt8) (above : 20 ≤ byte)
deriving DecidableEq

instance : ByteEnum ResourceDomain := .ofEnumerators
  [.compute, .cache, .memoryBandwidth, .memoryCapacity, .pcie, .transfer, .collective,
    .network, .numa, .storage, .hostCpu, .residency, .sharedEngine, .unknown]
  (by intro a; cases a <;> rfl) (by decide)

instance : ByteEnum ConflictState := .ofEnumerators
  [.detected, .validating, .actionable, .interventionAuthorized, .interventionInFlight,
    .verifying, .resolved, .partiallyResolved, .unresolved, .suppressed,
    .revalidationRequired, .superseded, .unknown]
  (by intro a; cases a <;> rfl) (by decide)

instance : ByteEnum EvidenceStatus := .ofEnumerators
  [.current, .stale, .expired, .revalidationRequired, .unsupported, .unknown, .confounded,
    .insufficientEvidence]
  (by intro a; cases a <;> rfl) (by decide)

instance : ByteEnum BindingObjective := .ofEnumerators
  [.latency, .tailLatency, .throughput, .deadline, .availability, .recovery, .cost,
    .fairness, .resourceMinimum, .valueProtection, .multiple, .unknown]
  (by intro a; cases a <;> rfl) (by decide)

instance : ByteEnum InterventionClass := .ofEnumerators
  [.noAction, .observeMore, .throttle, .deferNewWork, .reduceConcurrency, .reduceBatch,
    .serialize, .timeSlice, .requestPreemption, .requestMigration, .requestReplacement,
    .changePlacement, .requestBandwidthReallocation, .requestCommunicationReplan,
    .requestCollectiveReschedule, .releaseOptionalResidency, .reduceMemoryPressure,
    .shedLowValueWork, .protectHighValueWork, .escalate, .manualInterventionRequired]
  (by intro a; cases a <;> rfl) (by decide)

instance : ByteEnum LifecycleState := .ofEnumerators
  [.proposed, .authorized, .dispatched, .acknowledged, .effective, .partiallyEffective,
    .ineffective, .failed, .cancelled, .superseded, .expired, .outcomeUnknown]
  (by intro a; cases a <;> rfl) (by decide)

instance : ByteEnum VerificationOutcome := .ofEnumerators
  [.resolved, .partiallyResolved, .ineffective, .worsened, .shiftedContention,
    .createdSecondaryViolation, .createdFairnessViolation, .insufficientPostActionEvidence,
    .outcomeUnknown]
  (by intro a; cases a <;> rfl) (by decide)

instance : ByteEnum EvidenceLabel := .ofEnumerators
  [.real, .controlled, .derived, .policy, .synthetic, .unsupported]
  (by intro a; cases a <;> rfl) (by decide)

instance : ByteEnum Severity := .ofEnumerators
  [.none, .minor, .moderate, .severe, .critical, .unknown]
  (by intro a; cases a <;> rfl) (by decide)

instance : ByteEnum MetricDirection := .ofEnumerators
  [.higherIsBetter, .lowerIsBetter]
  (by intro a; cases a <;> rfl) (by decide)

namespace AttributionStrength

def enumerators : List AttributionStrength :=
  [.unknown, .temporallyAssociated, .correlated, .controlledComparison,
    .strongCounterfactualEvidence, .directResourceEvidence]

instance : ByteEnum AttributionStrength where
  raw
    | .undeclared byte _ => byte
    | a => UInt8.ofNat (enumerators.idxOf a)
  ofRaw n := if h : 6 ≤ n then some (.undeclared n h) else enumerators[n.toNat]?
  ofRaw_raw a := by
    cases a with
    | undeclared byte above => simp [above]
    | _ => rfl
  raw_ofRaw n a ha := by
    split_ifs at ha with h
    · cases ha
      rfl
    · have hidx := ByteEnum.ofNat_idxOf (by decide) ha
      cases a with
      | undeclared byte above => exact absurd (List.mem_of_getElem? ha) (by simp [enumerators])
      | _ => exact hidx

/-- Scoped enumerations compare by their underlying value. -/
instance : LT AttributionStrength := ⟨fun a b => ByteEnum.raw a < ByteEnum.raw b⟩

instance : DecidableLT AttributionStrength :=
  fun a b => inferInstanceAs (Decidable (ByteEnum.raw a < ByteEnum.raw b))

def toByteString : AttributionStrength → ByteString
  | .unknown => "AttributionStrength::UNKNOWN"
  | .temporallyAssociated => "AttributionStrength::TEMPORALLY_ASSOCIATED"
  | .correlated => "AttributionStrength::CORRELATED"
  | .controlledComparison => "AttributionStrength::CONTROLLED_COMPARISON"
  | .strongCounterfactualEvidence => "AttributionStrength::STRONG_COUNTERFACTUAL_EVIDENCE"
  | .directResourceEvidence => "AttributionStrength::DIRECT_RESOURCE_EVIDENCE"
  | .undeclared _ _ => "UNKNOWN"

end AttributionStrength

namespace StatusCode

def enumerators : List StatusCode :=
  [.ok, .invalidInput, .insufficientEvidence, .confounded, .staleEvidence, .staleAuthority,
    .policySuperseded, .conflictResolved, .noLegalIntervention, .hardConstraintViolation,
    .fairnessLimit, .actionBudgetExhausted, .interventionFailed, .outcomeUnknown,
    .persistenceCorrupt, .protocolError, .arithmeticOverflow, .resourceExhausted, .cancelled,
    .shuttingDown]

instance : ByteEnum StatusCode where
  raw
    | .undeclared byte _ => byte
    | a => UInt8.ofNat (enumerators.idxOf a)
  ofRaw n := if h : 20 ≤ n then some (.undeclared n h) else enumerators[n.toNat]?
  ofRaw_raw a := by
    cases a with
    | undeclared byte above => simp [above]
    | _ => rfl
  raw_ofRaw n a ha := by
    split_ifs at ha with h
    · cases ha
      rfl
    · have hidx := ByteEnum.ofNat_idxOf (by decide) ha
      cases a with
      | undeclared byte above => exact absurd (List.mem_of_getElem? ha) (by simp [enumerators])
      | _ => exact hidx

def toByteString : StatusCode → ByteString
  | .ok => "OK"
  | .invalidInput => "INVALID_INPUT"
  | .insufficientEvidence => "INSUFFICIENT_EVIDENCE"
  | .confounded => "CONFOUNDED"
  | .staleEvidence => "STALE_EVIDENCE"
  | .staleAuthority => "STALE_AUTHORITY"
  | .policySuperseded => "POLICY_SUPERSEDED"
  | .conflictResolved => "CONFLICT_RESOLVED"
  | .noLegalIntervention => "NO_LEGAL_INTERVENTION"
  | .hardConstraintViolation => "HARD_CONSTRAINT_VIOLATION"
  | .fairnessLimit => "FAIRNESS_LIMIT"
  | .actionBudgetExhausted => "ACTION_BUDGET_EXHAUSTED"
  | .interventionFailed => "INTERVENTION_FAILED"
  | .outcomeUnknown => "OUTCOME_UNKNOWN"
  | .persistenceCorrupt => "PERSISTENCE_CORRUPT"
  | .protocolError => "PROTOCOL_ERROR"
  | .arithmeticOverflow => "ARITHMETIC_OVERFLOW"
  | .resourceExhausted => "RESOURCE_EXHAUSTED"
  | .cancelled => "CANCELLED"
  | .shuttingDown => "SHUTTING_DOWN"
  | .undeclared _ _ => "OK"

end StatusCode

def EvidenceStatus.toByteString : EvidenceStatus → ByteString
  | .current => "EvidenceStatus::CURRENT"
  | .stale => "EvidenceStatus::STALE"
  | .expired => "EvidenceStatus::EXPIRED"
  | .revalidationRequired => "EvidenceStatus::REVALIDATION_REQUIRED"
  | .unsupported => "EvidenceStatus::UNSUPPORTED"
  | .unknown => "EvidenceStatus::UNKNOWN"
  | .confounded => "EvidenceStatus::CONFOUNDED"
  | .insufficientEvidence => "EvidenceStatus::INSUFFICIENT_EVIDENCE"

def InterventionClass.toByteString : InterventionClass → ByteString
  | .noAction => "InterventionClass::NO_ACTION"
  | .observeMore => "InterventionClass::OBSERVE_MORE"
  | .throttle => "InterventionClass::THROTTLE"
  | .deferNewWork => "InterventionClass::DEFER_NEW_WORK"
  | .reduceConcurrency => "InterventionClass::REDUCE_CONCURRENCY"
  | .reduceBatch => "InterventionClass::REDUCE_BATCH"
  | .serialize => "InterventionClass::SERIALIZE"
  | .timeSlice => "InterventionClass::TIME_SLICE"
  | .requestPreemption => "InterventionClass::REQUEST_PREEMPTION"
  | .requestMigration => "InterventionClass::REQUEST_MIGRATION"
  | .requestReplacement => "InterventionClass::REQUEST_REPLACEMENT"
  | .changePlacement => "InterventionClass::CHANGE_PLACEMENT"
  | .requestBandwidthReallocation => "InterventionClass::REQUEST_BANDWIDTH_REALLOCATION"
  | .requestCommunicationReplan => "InterventionClass::REQUEST_COMMUNICATION_REPLAN"
  | .requestCollectiveReschedule => "InterventionClass::REQUEST_COLLECTIVE_RESCHEDULE"
  | .releaseOptionalResidency => "InterventionClass::RELEASE_OPTIONAL_RESIDENCY"
  | .reduceMemoryPressure => "InterventionClass::REDUCE_MEMORY_PRESSURE"
  | .shedLowValueWork => "InterventionClass::SHED_LOW_VALUE_WORK"
  | .protectHighValueWork => "InterventionClass::PROTECT_HIGH_VALUE_WORK"
  | .escalate => "InterventionClass::ESCALATE"
  | .manualInterventionRequired => "InterventionClass::MANUAL_INTERVENTION_REQUIRED"

def ResourceDomain.toByteString : ResourceDomain → ByteString
  | .compute => "ResourceDomain::COMPUTE"
  | .cache => "ResourceDomain::CACHE"
  | .memoryBandwidth => "ResourceDomain::MEMORY_BANDWIDTH"
  | .memoryCapacity => "ResourceDomain::MEMORY_CAPACITY"
  | .pcie => "ResourceDomain::PCIE"
  | .transfer => "ResourceDomain::TRANSFER"
  | .collective => "ResourceDomain::COLLECTIVE"
  | .network => "ResourceDomain::NETWORK"
  | .numa => "ResourceDomain::NUMA"
  | .storage => "ResourceDomain::STORAGE"
  | .hostCpu => "ResourceDomain::HOST_CPU"
  | .residency => "ResourceDomain::RESIDENCY"
  | .sharedEngine => "ResourceDomain::SHARED_ENGINE"
  | .unknown => "ResourceDomain::UNKNOWN"

def ConflictState.toByteString : ConflictState → ByteString
  | .detected => "ConflictState::DETECTED"
  | .validating => "ConflictState::VALIDATING"
  | .actionable => "ConflictState::ACTIONABLE"
  | .interventionAuthorized => "ConflictState::INTERVENTION_AUTHORIZED"
  | .interventionInFlight => "ConflictState::INTERVENTION_IN_FLIGHT"
  | .verifying => "ConflictState::VERIFYING"
  | .resolved => "ConflictState::RESOLVED"
  | .partiallyResolved => "ConflictState::PARTIALLY_RESOLVED"
  | .unresolved => "ConflictState::UNRESOLVED"
  | .suppressed => "ConflictState::SUPPRESSED"
  | .revalidationRequired => "ConflictState::REVALIDATION_REQUIRED"
  | .superseded => "ConflictState::SUPERSEDED"
  | .unknown => "ConflictState::UNKNOWN"

def BindingObjective.toByteString : BindingObjective → ByteString
  | .latency => "BindingObjective::LATENCY"
  | .tailLatency => "BindingObjective::TAIL_LATENCY"
  | .throughput => "BindingObjective::THROUGHPUT"
  | .deadline => "BindingObjective::DEADLINE"
  | .availability => "BindingObjective::AVAILABILITY"
  | .recovery => "BindingObjective::RECOVERY"
  | .cost => "BindingObjective::COST"
  | .fairness => "BindingObjective::FAIRNESS"
  | .resourceMinimum => "BindingObjective::RESOURCE_MINIMUM"
  | .valueProtection => "BindingObjective::VALUE_PROTECTION"
  | .multiple => "BindingObjective::MULTIPLE"
  | .unknown => "BindingObjective::UNKNOWN"

def LifecycleState.toByteString : LifecycleState → ByteString
  | .proposed => "LifecycleState::PROPOSED"
  | .authorized => "LifecycleState::AUTHORIZED"
  | .dispatched => "LifecycleState::DISPATCHED"
  | .acknowledged => "LifecycleState::ACKNOWLEDGED"
  | .effective => "LifecycleState::EFFECTIVE"
  | .partiallyEffective => "LifecycleState::PARTIALLY_EFFECTIVE"
  | .ineffective => "LifecycleState::INEFFECTIVE"
  | .failed => "LifecycleState::FAILED"
  | .cancelled => "LifecycleState::CANCELLED"
  | .superseded => "LifecycleState::SUPERSEDED"
  | .expired => "LifecycleState::EXPIRED"
  | .outcomeUnknown => "LifecycleState::OUTCOME_UNKNOWN"

def VerificationOutcome.toByteString : VerificationOutcome → ByteString
  | .resolved => "VerificationOutcome::RESOLVED"
  | .partiallyResolved => "VerificationOutcome::PARTIALLY_RESOLVED"
  | .ineffective => "VerificationOutcome::INEFFECTIVE"
  | .worsened => "VerificationOutcome::WORSENED"
  | .shiftedContention => "VerificationOutcome::SHIFTED_CONTENTION"
  | .createdSecondaryViolation => "VerificationOutcome::CREATED_SECONDARY_VIOLATION"
  | .createdFairnessViolation => "VerificationOutcome::CREATED_FAIRNESS_VIOLATION"
  | .insufficientPostActionEvidence => "VerificationOutcome::INSUFFICIENT_POST_ACTION_EVIDENCE"
  | .outcomeUnknown => "VerificationOutcome::OUTCOME_UNKNOWN"

def Severity.toByteString : Severity → ByteString
  | .none => "Severity::NONE"
  | .minor => "Severity::MINOR"
  | .moderate => "Severity::MODERATE"
  | .severe => "Severity::SEVERE"
  | .critical => "Severity::CRITICAL"
  | .unknown => "Severity::UNKNOWN"

/-! ## Statuses -/

structure Status where
  code : StatusCode := .ok
  message : ByteString := ""
deriving DecidableEq

namespace Status

def good : Status := {}

def bad (code : StatusCode) (message : ByteString) : Status := ⟨code, message⟩

def isOk (s : Status) : Bool := s.code = .ok

@[simp] theorem good_code : good.code = .ok := rfl
@[simp] theorem bad_code (c : StatusCode) (m : ByteString) : (bad c m).code = c := rfl
@[simp] theorem good_isOk : good.isOk = true := rfl

theorem isOk_iff {s : Status} : s.isOk = true ↔ s.code = .ok := by simp [isOk]

end Status

/-- `saturating_add`. -/
def saturatingAdd (a b : UInt64) : UInt64 :=
  if 0xFFFFFFFFFFFFFFFF - a < b then 0xFFFFFFFFFFFFFFFF else a + b

theorem ok_bind {ε α β : Type} (a : α) (f : α → Except ε β) : (Except.ok a >>= f) = f a := rfl

end ContentionGovernor
