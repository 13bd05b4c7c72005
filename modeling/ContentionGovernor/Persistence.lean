import ContentionGovernor.Lib.ByteCodec
import ContentionGovernor.Digest
import ContentionGovernor.Governor

/-!
# Snapshots

`persistence.hpp` and `persistence.cpp`: the encoder of the durable state, the
bounded decoder, and the file around them.  `deserialize*` reject without a
reason, as the source's functions return `false`; `loadFromBytes` names it.
-/

namespace ContentionGovernor

def kMagic : List UInt8 := [67, 71, 79, 86, 1, 0, 0, 0]

def kPersistenceVersion : UInt32 := 1

def kMaxStringLen : ℕ := 2 ^ 20

def kMaxCollectionLen : ℕ := 2 ^ 20

/-! ## Writer -/

namespace W

def u8 (v : UInt8) : List UInt8 := [v]
def u32 (v : UInt32) : List UInt8 := Reader.littleEndian 4 v.toNat
def u64 (v : UInt64) : List UInt8 := Reader.littleEndian 8 v.toNat
def f64 (v : Double) : List UInt8 := u64 v.bits

/-- A length, cast to 64 bits. -/
def size (n : ℕ) : List UInt8 := Reader.littleEndian 8 n

def str (s : ByteString) : List UInt8 := size s.bytes.length ++ s.bytes

def flag (b : Bool) : List UInt8 := u8 (if b then 1 else 0)

def enum {α : Type} [ByteEnum α] (a : α) : List UInt8 := u8 (ByteEnum.raw a)

def wid {d : Domain} (i : Id d) : List UInt8 := u64 i.value

def list {α : Type} (write : α → List UInt8) (xs : List α) : List UInt8 :=
  size xs.length ++ xs.flatMap write

def map {d : Domain} {V : Type} (write : V → List UInt8) (m : OrderedMap (Id d) V) :
    List UInt8 := list (fun e => wid e.1 ++ write e.2) m.entries

end W

/-! ## Encoding -/

open W in
def serializeWorkload (wp : WorkloadPolicy) : List UInt8 := List.flatten
  [wid wp.workload, wid wp.generation, flag wp.nonPreemptible, flag wp.protectedWorkload,
    f64 wp.value, u32 wp.priority, f64 wp.hardSloFloor,
    match wp.softSloTarget with | some d => flag true ++ f64 d | none => flag false,
    f64 wp.minServiceFloor, f64 wp.costCeiling, f64 wp.restartCost, f64 wp.preemptionCost,
    f64 wp.recoveryCost, f64 wp.maxDegradationTolerated, u32 wp.maxInterventionFrequencyPerWindow,
    flag wp.preemptionAllowed, flag wp.throttlingAllowed, flag wp.deferralAllowed,
    flag wp.admissionRestrictionAllowed, flag wp.placementChangeAllowed,
    flag wp.bandwidthRequestAllowed, flag wp.collectiveSchedulingAllowed,
    flag wp.migrationAllowed]

open W in
/-- The budget fields of `serialize_policy`. -/
def serializeBudget (b : ActionBudget) : List UInt8 := List.flatten
  [wid b.generation, u64 b.maxPreemptionsPerWindow, u64 b.maxMigrationsPerWindow,
    u64 b.maxPlacementChangesPerWindow, u64 b.maxThrottlesPerWindow,
    u64 b.maxCollectiveReschedulesPerWindow, u64 b.maxAnyPerWindow, u64 b.windowMs,
    u64 b.windowStart, u64 b.used.preemptions, u64 b.used.migrations,
    u64 b.used.placementChanges, u64 b.used.throttles, u64 b.used.collectiveReschedules,
    u64 b.used.all]

open W in
def serializePolicy (p : ContentionPolicy) : List UInt8 := List.flatten
  [wid p.id, wid p.generation, f64 p.actionabilityThreshold, f64 p.releaseThreshold,
    u64 p.hysteresisEvidenceCount, enum p.minAttributionForDisruptive,
    f64 p.minConfidenceForDisruptive, f64 p.fairnessFloor, f64 p.fairnessWeight,
    u32 p.maxConsecutiveInterventionsPerWorkload, f64 p.costCeiling, u64 p.cooldownMs,
    serializeBudget p.budget, map serializeWorkload p.workloads, flag p.preemptionAllowed,
    flag p.migrationAllowed, flag p.placementChangeAllowed, flag p.bandwidthRequestAllowed,
    flag p.collectiveSchedulingAllowed, flag p.admissionRestrictionAllowed,
    flag p.throttleAllowed]

open W in
def serializeAuthority (a : AuthorityContext) : List UInt8 := List.flatten
  [wid a.coordinatorEpoch, wid a.governorGeneration, wid a.policyGeneration,
    wid a.sloGeneration, wid a.valueGeneration, wid a.fairnessGeneration,
    wid a.resourceGeneration, wid a.placementGeneration, wid a.topologyGeneration,
    map wid a.workloadGenerations, map wid a.workloadBoots]

open W in
def serializeEvidence (e : InterferenceEvidence) : List UInt8 := List.flatten
  [wid e.id, wid e.generation, wid e.victim, list wid e.neighbors, enum e.domain,
    enum e.metric, f64 e.isolatedBaseline, f64 e.coRunObservation, f64 e.degradation,
    f64 e.improvement, enum e.attribution, f64 e.confidence, u64 e.sampleCount,
    list str e.unresolvedConfounders, enum e.status, u64 e.sampledAt, u64 e.maxAgeMs,
    enum e.label, str e.sourceId, str e.sourceHealth, wid e.workerBoot,
    wid e.workloadGeneration, wid e.deviceGeneration, wid e.hostGeneration,
    wid e.topologyGeneration, wid e.resourceGeneration, wid e.placementGeneration,
    u64 e.activeFrom, u64 e.activeUntil]

open W in
def serializeFence (f : Fence) : List UInt8 := List.flatten
  [wid f.coordinatorEpoch, wid f.governorGeneration, wid f.policyGeneration,
    wid f.sloGeneration, wid f.valueGeneration, wid f.fairnessGeneration,
    wid f.resourceGeneration, wid f.placementGeneration, wid f.topologyGeneration,
    wid f.conflictGeneration, wid f.evidenceGeneration, wid f.workerBoot,
    wid f.workloadGeneration, wid f.interventionGeneration]

open W in
def serializeIntervention (i : InterventionRecord) : List UInt8 := List.flatten
  [wid i.id, wid i.generation, enum i.cls, wid i.conflictId, wid i.target, enum i.state,
    serializeFence i.fence, str i.adapter, u64 i.authorizedAt, u64 i.dispatchedAt,
    u64 i.acknowledgedAt, u64 i.completedAt, wid i.dispatchId, wid i.attemptId,
    str i.ackNote, enum i.interimStatus.code, str i.interimStatus.message, enum i.result,
    list str i.trace, flag i.verificationReported]

open W in
def serializeConflict (c : ContentionConflict) : List UInt8 := List.flatten
  [wid c.id, wid c.generation, list wid c.affected, list wid c.associated, enum c.domain,
    f64 c.degradation, f64 c.baseline, f64 c.confidence, enum c.binding, enum c.severity,
    list wid c.evidenceIds, enum c.state, u64 c.firstDetectedAt, u64 c.lastUpdatedAt,
    u64 c.activeUntil, list str c.unresolvedConfounders, list str c.blockers,
    list enum c.candidateClasses, list wid c.proposedIds, list wid c.selectedIds,
    wid c.policyGeneration, wid c.sloGeneration, wid c.valueGeneration,
    wid c.fairnessGeneration, wid c.resourceGeneration, wid c.placementGeneration,
    wid c.coordinatorEpoch, wid c.workerBoot, flag c.groupEffectExplicit, u64 c.lastActionAt,
    flag c.inActionableState]

open W in
def serializeFairness (f : FairnessRecord) : List UInt8 := List.flatten
  [wid f.workload, u64 f.interventionCount, u32 f.consecutiveInterventions,
    f64 f.deprivationDebt, u64 f.lastInterventionAt]

open W in
/-- The payload of a snapshot. -/
def serializeState (s : GovernorState) : List UInt8 := List.flatten
  [serializePolicy s.engine.policy, serializeAuthority s.engine.authority,
    map serializeConflict s.engine.conflicts, map serializeEvidence s.engine.evidence,
    map serializeIntervention s.engine.interventions, map serializeFairness s.engine.fairness,
    u64 s.nextConflictId, u64 s.nextEvidenceId, u64 s.nextInterventionId,
    u64 s.nextDispatchId, u64 s.nextAttemptId, u64 s.nextVerificationId, u64 s.lastDigest]

/-- Magic, version and payload length around a payload, with its checksum behind. -/
def frame (payload : List UInt8) : List UInt8 :=
  kMagic ++ (W.u32 kPersistenceVersion ++ (W.size payload.length ++
    (payload ++ W.u32 (crc32c payload))))

def saveToBytes (s : GovernorState) : List UInt8 := frame (serializeState s)

/-! ## Reader -/

namespace R

variable {α V : Type} {d : Domain}

def u8 : Reader Unit UInt8 := Reader.u8 ()
def u32 : Reader Unit UInt32 := Reader.u32 ()
def u64 : Reader Unit UInt64 := Reader.u64 ()

def f64 : Reader Unit Double := do
  let u ← u64
  return ⟨u⟩

def str : Reader Unit ByteString := do
  let len ← u64
  if kMaxStringLen < len.toNat then Reader.reject ()
  else do
    let bytes ← Reader.bytes () len.toNat
    return ⟨bytes⟩

def id : Reader Unit (Id d) := do
  let u ← u64
  return ⟨u⟩

def flag : Reader Unit Bool := do
  let raw ← u8
  return raw != 0

/-- A byte below `count`, cast to the enumeration.  Every byte below the counts in
use stands for a value, so the last branch is never taken. -/
def enum [ByteEnum α] (count : UInt8) : Reader Unit α := do
  let raw ← u8
  if count ≤ raw then Reader.reject ()
  else
    match ByteEnum.ofRaw raw with
    | some a => return a
    | none => Reader.reject ()

def list (read : Reader Unit α) : Reader Unit (List α) :=
  Reader.counted () kMaxCollectionLen read

/-- Counted entries assigned one after another to an empty map, with the reasons
for a bad count, a bad key and a bad value. -/
def mapOr {ε : Type} (badCount badId bad : ε) (read : Reader Unit V) :
    Reader ε (OrderedMap (Id d) V) := do
  let entries ← Reader.counted badCount kMaxCollectionLen do
    let key ← Reader.named badId id
    let v ← Reader.named bad read
    return (key, v)
  return OrderedMap.insertAll .empty entries

def map (read : Reader Unit V) : Reader Unit (OrderedMap (Id d) V) := mapOr () () () read

end R

/-! ## Decoding -/

/-- `softSloTarget`: a flag, and the value behind it when the flag is set. -/
def deserializeSoftSloTarget : Reader Unit (Option Double) := do
  let present ← R.flag
  if present then do
    let d ← R.f64
    return some d
  else return none

def deserializeWorkload : Reader Unit WorkloadPolicy := do
  let workload ← R.id
  let generation ← R.id
  let nonPreemptible ← R.flag
  let protectedWorkload ← R.flag
  let value ← R.f64
  let priority ← R.u32
  let hardSloFloor ← R.f64
  let softSloTarget ← deserializeSoftSloTarget
  let minServiceFloor ← R.f64
  let costCeiling ← R.f64
  let restartCost ← R.f64
  let preemptionCost ← R.f64
  let recoveryCost ← R.f64
  let maxDegradationTolerated ← R.f64
  let maxInterventionFrequencyPerWindow ← R.u32
  let preemptionAllowed ← R.flag
  let throttlingAllowed ← R.flag
  let deferralAllowed ← R.flag
  let admissionRestrictionAllowed ← R.flag
  let placementChangeAllowed ← R.flag
  let bandwidthRequestAllowed ← R.flag
  let collectiveSchedulingAllowed ← R.flag
  let migrationAllowed ← R.flag
  return {
    workload, generation, nonPreemptible, protectedWorkload, value, priority, hardSloFloor
    softSloTarget, minServiceFloor, costCeiling, restartCost, preemptionCost, recoveryCost
    maxDegradationTolerated, maxInterventionFrequencyPerWindow, preemptionAllowed
    throttlingAllowed, deferralAllowed, admissionRestrictionAllowed, placementChangeAllowed
    bandwidthRequestAllowed, collectiveSchedulingAllowed, migrationAllowed }

/-- The budget fields of `deserialize_policy`. -/
def deserializeBudget : Reader Unit ActionBudget := do
  let generation ← R.id
  let maxPreemptionsPerWindow ← R.u64
  let maxMigrationsPerWindow ← R.u64
  let maxPlacementChangesPerWindow ← R.u64
  let maxThrottlesPerWindow ← R.u64
  let maxCollectiveReschedulesPerWindow ← R.u64
  let maxAnyPerWindow ← R.u64
  let windowMs ← R.u64
  let windowStart ← R.u64
  let preemptions ← R.u64
  let migrations ← R.u64
  let placementChanges ← R.u64
  let throttles ← R.u64
  let collectiveReschedules ← R.u64
  let all ← R.u64
  return {
    generation, maxPreemptionsPerWindow, maxMigrationsPerWindow, maxPlacementChangesPerWindow
    maxThrottlesPerWindow, maxCollectiveReschedulesPerWindow, maxAnyPerWindow, windowMs
    windowStart
    used := { preemptions, migrations, placementChanges, throttles, collectiveReschedules, all } }

def deserializePolicy : Reader Unit ContentionPolicy := do
  let id ← R.id
  let generation ← R.id
  let actionabilityThreshold ← R.f64
  let releaseThreshold ← R.f64
  let hysteresisEvidenceCount ← R.u64
  -- The limit here is 7; for the attribution of evidence it is 6.
  let minAttributionForDisruptive ← R.enum 7
  let minConfidenceForDisruptive ← R.f64
  let fairnessFloor ← R.f64
  let fairnessWeight ← R.f64
  let maxConsecutiveInterventionsPerWorkload ← R.u32
  let costCeiling ← R.f64
  let cooldownMs ← R.u64
  let budget ← deserializeBudget
  let workloads ← R.map deserializeWorkload
  let preemptionAllowed ← R.flag
  let migrationAllowed ← R.flag
  let placementChangeAllowed ← R.flag
  let bandwidthRequestAllowed ← R.flag
  let collectiveSchedulingAllowed ← R.flag
  let admissionRestrictionAllowed ← R.flag
  let throttleAllowed ← R.flag
  return {
    id, generation, actionabilityThreshold, releaseThreshold, hysteresisEvidenceCount
    minAttributionForDisruptive, minConfidenceForDisruptive, fairnessFloor, fairnessWeight
    maxConsecutiveInterventionsPerWorkload, costCeiling, cooldownMs, budget, workloads
    preemptionAllowed, migrationAllowed, placementChangeAllowed, bandwidthRequestAllowed
    collectiveSchedulingAllowed, admissionRestrictionAllowed, throttleAllowed }

def deserializeAuthority : Reader Unit AuthorityContext := do
  let coordinatorEpoch ← R.id
  let governorGeneration ← R.id
  let policyGeneration ← R.id
  let sloGeneration ← R.id
  let valueGeneration ← R.id
  let fairnessGeneration ← R.id
  let resourceGeneration ← R.id
  let placementGeneration ← R.id
  let topologyGeneration ← R.id
  let workloadGenerations ← R.map R.id
  let workloadBoots ← R.map R.id
  return {
    coordinatorEpoch, governorGeneration, policyGeneration, sloGeneration, valueGeneration
    fairnessGeneration, resourceGeneration, placementGeneration, topologyGeneration
    workloadGenerations, workloadBoots }

def deserializeEvidence : Reader Unit InterferenceEvidence := do
  let id ← R.id
  let generation ← R.id
  let victim ← R.id
  let neighbors ← R.list R.id
  let domain ← R.enum 14
  let metric ← R.enum 2
  let isolatedBaseline ← R.f64
  let coRunObservation ← R.f64
  let degradation ← R.f64
  let improvement ← R.f64
  let attribution ← R.enum 6
  let confidence ← R.f64
  let sampleCount ← R.u64
  let unresolvedConfounders ← R.list R.str
  let status ← R.enum 8
  let sampledAt ← R.u64
  let maxAgeMs ← R.u64
  let label ← R.enum 6
  let sourceId ← R.str
  let sourceHealth ← R.str
  let workerBoot ← R.id
  let workloadGeneration ← R.id
  let deviceGeneration ← R.id
  let hostGeneration ← R.id
  let topologyGeneration ← R.id
  let resourceGeneration ← R.id
  let placementGeneration ← R.id
  let activeFrom ← R.u64
  let activeUntil ← R.u64
  return {
    id, generation, victim, neighbors, domain, metric, isolatedBaseline, coRunObservation
    degradation, improvement, attribution, confidence, sampleCount, unresolvedConfounders
    status, sampledAt, maxAgeMs, label, sourceId, sourceHealth, workerBoot
    workloadGeneration, deviceGeneration, hostGeneration, topologyGeneration
    resourceGeneration, placementGeneration, activeFrom, activeUntil }

def deserializeFence : Reader Unit Fence := do
  let coordinatorEpoch ← R.id
  let governorGeneration ← R.id
  let policyGeneration ← R.id
  let sloGeneration ← R.id
  let valueGeneration ← R.id
  let fairnessGeneration ← R.id
  let resourceGeneration ← R.id
  let placementGeneration ← R.id
  let topologyGeneration ← R.id
  let conflictGeneration ← R.id
  let evidenceGeneration ← R.id
  let workerBoot ← R.id
  let workloadGeneration ← R.id
  let interventionGeneration ← R.id
  return {
    coordinatorEpoch, governorGeneration, policyGeneration, sloGeneration, valueGeneration
    fairnessGeneration, resourceGeneration, placementGeneration, topologyGeneration
    conflictGeneration, evidenceGeneration, workerBoot, workloadGeneration
    interventionGeneration }

def deserializeIntervention : Reader Unit InterventionRecord := do
  let id ← R.id
  let generation ← R.id
  let cls ← R.enum 21
  let conflictId ← R.id
  let target ← R.id
  let state ← R.enum 12
  let fence ← deserializeFence
  let adapter ← R.str
  let authorizedAt ← R.u64
  let dispatchedAt ← R.u64
  let acknowledgedAt ← R.u64
  let completedAt ← R.u64
  let dispatchId ← R.id
  let attemptId ← R.id
  let ackNote ← R.str
  -- One more than the declared status codes.
  let code ← R.enum 21
  let message ← R.str
  let result ← R.enum 9
  let trace ← R.list R.str
  let verificationReported ← R.flag
  return {
    id, generation, cls, conflictId, target, state, fence, adapter, authorizedAt
    dispatchedAt, acknowledgedAt, completedAt, dispatchId, attemptId, ackNote
    interimStatus := { code, message }, result, trace, verificationReported }

def deserializeConflict : Reader Unit ContentionConflict := do
  let id ← R.id
  let generation ← R.id
  let affected ← R.list R.id
  let associated ← R.list R.id
  let domain ← R.enum 14
  let degradation ← R.f64
  let baseline ← R.f64
  let confidence ← R.f64
  let binding ← R.enum 12
  let severity ← R.enum 6
  let evidenceIds ← R.list R.id
  let state ← R.enum 13
  let firstDetectedAt ← R.u64
  let lastUpdatedAt ← R.u64
  let activeUntil ← R.u64
  let unresolvedConfounders ← R.list R.str
  let blockers ← R.list R.str
  let candidateClasses ← R.list (R.enum 21)
  let proposedIds ← R.list R.id
  let selectedIds ← R.list R.id
  let policyGeneration ← R.id
  let sloGeneration ← R.id
  let valueGeneration ← R.id
  let fairnessGeneration ← R.id
  let resourceGeneration ← R.id
  let placementGeneration ← R.id
  let coordinatorEpoch ← R.id
  let workerBoot ← R.id
  let groupEffectExplicit ← R.flag
  let lastActionAt ← R.u64
  let inActionableState ← R.flag
  return {
    id, generation, affected, associated, domain, degradation, baseline, confidence, binding
    severity, evidenceIds, state, firstDetectedAt, lastUpdatedAt, activeUntil
    unresolvedConfounders, blockers, candidateClasses, proposedIds, selectedIds
    policyGeneration, sloGeneration, valueGeneration, fairnessGeneration, resourceGeneration
    placementGeneration, coordinatorEpoch, workerBoot, groupEffectExplicit, lastActionAt
    inActionableState }

def deserializeFairness : Reader Unit FairnessRecord := do
  let workload ← R.id
  let interventionCount ← R.u64
  let consecutiveInterventions ← R.u32
  let deprivationDebt ← R.f64
  let lastInterventionAt ← R.u64
  return {
    workload, interventionCount, consecutiveInterventions, deprivationDebt
    lastInterventionAt }

/-! ## Loading -/

def corrupt (message : ByteString) : Status := .bad .persistenceCorrupt message

/-- The payload, with the reason of the first part that is rejected. -/
def deserializeState : Reader Status GovernorState := do
  let policy ← Reader.named (corrupt "bad policy") deserializePolicy
  let authority ← Reader.named (corrupt "bad authority") deserializeAuthority
  let conflicts ← R.mapOr (corrupt "bad conflict count") (corrupt "bad conflict id")
    (corrupt "bad conflict") deserializeConflict
  let evidence ← R.mapOr (corrupt "bad evidence count") (corrupt "bad evidence id")
    (corrupt "bad evidence") deserializeEvidence
  let interventions ← R.mapOr (corrupt "bad intervention count")
    (corrupt "bad intervention id") (corrupt "bad intervention") deserializeIntervention
  let fairness ← R.mapOr (corrupt "bad fairness count") (corrupt "bad fairness id")
    (corrupt "bad fairness") deserializeFairness
  let nextConflictId ← Reader.u64 (corrupt "bad counters")
  let nextEvidenceId ← Reader.u64 (corrupt "bad counters")
  let nextInterventionId ← Reader.u64 (corrupt "bad counters")
  let nextDispatchId ← Reader.u64 (corrupt "bad counters")
  let nextAttemptId ← Reader.u64 (corrupt "bad counters")
  let nextVerificationId ← Reader.u64 (corrupt "bad counters")
  let lastDigest ← Reader.u64 (corrupt "bad digest")
  return {
    engine := { policy, conflicts, evidence, interventions, fairness, authority }
    nextConflictId, nextEvidenceId, nextInterventionId, nextDispatchId, nextAttemptId
    nextVerificationId, lastDigest }

/-- Version and payload length, behind the magic. -/
def readHeader : Reader Status UInt64 := do
  let version ← Reader.u32 (corrupt "bad version")
  if version ≠ kPersistenceVersion then Reader.reject (corrupt "unknown persistence version")
  else Reader.u64 (corrupt "bad payload length")

def kMagicLen : ℕ := 8
def payloadOff : ℕ := kMagicLen + 12
def kCrcLen : ℕ := 4

/-- One check of `load_from_bytes`. -/
def rejectIf (c : Prop) [Decidable c] (message : ByteString) : Except (ReadError Status) Unit :=
  if c then .error (.rejected (corrupt message)) else .ok ()

/-- A payload of which every byte is consumed and whose policy is valid. -/
def readPayload (payload : List UInt8) : Except (ReadError Status) GovernorState := do
  let (out, p) ← deserializeState payload 0
  rejectIf (p ≠ payload.length) "unconsumed payload bytes"
  rejectIf ((validatePolicy out.engine.policy).code ≠ .ok) "invalid policy in persistence"
  return out

/-- `load_from_bytes` up to the assignment to the destination.  The sum `total` is
in 64 bits. -/
def readSnapshot (data : List UInt8) : Except (ReadError Status) GovernorState := do
  rejectIf (data.length < payloadOff + kCrcLen) "truncated persistence header"
  let magic ← Reader.accessMany data 0 kMagicLen
  rejectIf (magic ≠ kMagic) "bad magic"
  let (payloadLen, _) ← readHeader (data.drop kMagicLen) 0
  let total := UInt64.ofNat payloadOff + payloadLen + UInt64.ofNat kCrcLen
  rejectIf (data.length < total.toNat) "truncated payload"
  rejectIf (total.toNat ≠ data.length) "trailing garbage"
  let crc ← Reader.accessMany data (data.length - kCrcLen) kCrcLen
  let payload ← Reader.accessMany data payloadOff payloadLen.toNat
  rejectIf (UInt32.ofNat (Reader.ofLittleEndian crc) ≠ crc32c payload)
    "payload checksum mismatch"
  readPayload payload

def loadFromBytes (data : List UInt8) (s : GovernorState) :
    Except Fault (Status × GovernorState) :=
  match readSnapshot data with
  | .ok out => .ok (.good, out)
  | .error (.rejected status) => .ok (status, s)
  | .error .outOfBounds => .error .outOfBoundsRead

/-! ## Files -/

/-- What the file system does for one save; the source ignores the result of
the rename. -/
structure SaveIo where
  opened : Bool := true
  written : Bool := true
  renamed : Bool := true

def saveState (io : SaveIo) (s : GovernorState) (file : Option (List UInt8)) :
    Status × Option (List UInt8) :=
  if ¬io.opened then (corrupt "cannot open temp file", file)
  else if ¬io.written then (corrupt "write failed", file)
  else (.good, if io.renamed then some (saveToBytes s) else file)

def loadState (readable : Bool) (file : Option (List UInt8)) (s : GovernorState) :
    Except Fault (Status × GovernorState) :=
  match file with
  | none => .ok (corrupt "cannot open persistence file", s)
  | some bytes =>
    if 2 ^ 31 < bytes.length then .ok (corrupt "persistence file too large", s)
    else if ¬readable then .ok (corrupt "read failed", s)
    else loadFromBytes bytes s

/-- The options a governor is constructed with. -/
structure Options where
  persistEnable : Bool := false
  persistPath : ByteString := ""

/-- `open` and `load`. -/
def load (opts : Options) (readable : Bool) (file : Option (List UInt8)) (st : GovernorState) :
    Except Fault (Status × GovernorState) :=
  if ¬opts.persistEnable ∨ opts.persistPath = "" then .ok (.good, st)
  else loadState readable file st

def save (opts : Options) (io : SaveIo) (st : GovernorState) (file : Option (List UInt8)) :
    Status × Option (List UInt8) :=
  if ¬opts.persistEnable ∨ opts.persistPath = "" then (.good, file)
  else saveState io st file

end ContentionGovernor
