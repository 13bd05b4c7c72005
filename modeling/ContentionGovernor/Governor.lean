import ContentionGovernor.Engine

/-!
# Governor operations

`governor.cpp`: every public operation as a function of the durable state.  A
clock reading is an argument; an operation that takes the lock once is one
function, and `dispatch` is its two critical sections around the adapter call.
-/

namespace ContentionGovernor

/-- What the source leaves undefined: dereferencing the first element of an
empty evidence list or the end of the evidence map, and reading past a buffer. -/
inductive Fault
  | danglingEvidence
  | outOfBoundsRead
deriving DecidableEq

/-! ## Authority, policy and epoch -/

def setPolicy (p : ContentionPolicy) (st : GovernorState) : Status × GovernorState :=
  let v := validatePolicy p
  if ¬v.isOk then (v, st)
  else
    (.good, { st with engine := { st.engine with
      policy := p
      authority := { st.engine.authority with policyGeneration := p.generation } } })

def setAuthority (a : AuthorityContext) (st : GovernorState) : Status × GovernorState :=
  (.good, { st with engine := { st.engine with authority := a } })

def recordWorkerBoot (w : WorkloadId) (boot : WorkerBootId) (st : GovernorState) :
    Status × GovernorState :=
  (.good, { st with engine := { st.engine with authority := { st.engine.authority with
    workloadBoots := st.engine.authority.workloadBoots.insert w boot } } })

def recordWorkloadGeneration (w : WorkloadId) (g : WorkloadGeneration) (st : GovernorState) :
    Status × GovernorState :=
  (.good, { st with engine := { st.engine with authority := { st.engine.authority with
    workloadGenerations := st.engine.authority.workloadGenerations.insert w g } } })

def requireRevalidation (e : InterferenceEvidence) : InterferenceEvidence :=
  if e.status = .current then { e with status := .revalidationRequired } else e

def suspendConflict (c : ContentionConflict) : ContentionConflict :=
  if c.state ≠ .resolved ∧ c.state ≠ .suppressed ∧ c.state ≠ .superseded then
    { c with state := .revalidationRequired }
  else c

def abandonInFlight (i : InterventionRecord) : InterventionRecord :=
  if i.state = .dispatched ∨ i.state = .acknowledged ∨ i.state = .authorized ∨
      i.state = .proposed then
    { i with state := .outcomeUnknown }
  else i

def advanceEpoch (st : GovernorState) : Status × GovernorState :=
  let eng := st.engine
  (.good, { st with engine := { eng with
    authority := { eng.authority with
      coordinatorEpoch := eng.authority.coordinatorEpoch.advance }
    evidence := eng.evidence.mapValues requireRevalidation
    conflicts := eng.conflicts.mapValues suspendConflict
    interventions := eng.interventions.mapValues abandonInFlight
    fairness := eng.fairness.mapValues fun f => { f with consecutiveInterventions := 0 } } })

/-! ## Evidence -/

/-- The evidence under the id it is stored with, and the id counter after. -/
def assignEvidenceId (e : InterferenceEvidence) (next : UInt64) :
    InterferenceEvidence × UInt64 :=
  if e.id.value = 0 then ({ e with id := ⟨next⟩ }, next + 1) else (e, next)

/-- The first conflict, in key order, with the evidence's domain and victim. -/
def locateConflict (conflicts : OrderedMap ConflictId ContentionConflict)
    (e : InterferenceEvidence) : Option (ConflictId × ContentionConflict) :=
  conflicts.entries.find? fun entry =>
    entry.2.domain = e.domain ∧ e.victim ∈ entry.2.affected

def newConflict (st : GovernorState) (e : InterferenceEvidence) : ContentionConflict where
  id := ⟨st.nextConflictId⟩
  generation := ⟨1⟩
  affected := [e.victim]
  associated := e.neighbors
  domain := e.domain
  baseline := e.isolatedBaseline
  degradation := e.degradation
  confidence := e.confidence
  binding := if e.metric = .higherIsBetter then .throughput else .latency
  severity := classifySeverity e.degradation
  evidenceIds := [e.id]
  state := .detected
  firstDetectedAt := e.sampledAt
  lastUpdatedAt := e.sampledAt
  activeUntil := e.activeUntil
  unresolvedConfounders := e.unresolvedConfounders
  coordinatorEpoch := st.engine.authority.coordinatorEpoch
  workerBoot := e.workerBoot
  policyGeneration := st.engine.policy.generation
  sloGeneration := st.engine.authority.sloGeneration
  valueGeneration := st.engine.authority.valueGeneration
  fairnessGeneration := st.engine.authority.fairnessGeneration
  resourceGeneration := st.engine.authority.resourceGeneration
  placementGeneration := st.engine.authority.placementGeneration

def updateConflict (c : ContentionConflict) (e : InterferenceEvidence) : ContentionConflict :=
  { c with
    associated := e.neighbors
    degradation := Binary64.maximum c.degradation e.degradation
    confidence := Binary64.maximum c.confidence e.confidence
    evidenceIds := c.evidenceIds ++ [e.id]
    lastUpdatedAt := e.sampledAt
    unresolvedConfounders := e.unresolvedConfounders }

/-- The progression of the conflict state with the health of the evidence. -/
def progressConflict (p : ContentionPolicy) (e : InterferenceEvidence)
    (c : ContentionConflict) : ContentionConflict :=
  if e.status = .current ∧ p.actionabilityThreshold ≤ c.degradation then
    { c with state := .actionable, inActionableState := true }
  else if e.status = .current then { c with state := .validating }
  else if e.status = .confounded ∨ e.status = .insufficientEvidence then
    { c with state := .unresolved }
  else if e.status = .revalidationRequired then { c with state := .revalidationRequired }
  else c

/-- The progression writes nothing but the two fields of the state. -/
theorem progressConflict_frame (p : ContentionPolicy) (e : InterferenceEvidence)
    (c : ContentionConflict) : ∃ state actionable,
      progressConflict p e c = { c with state, inActionableState := actionable } := by
  unfold progressConflict
  split_ifs <;> exact ⟨_, _, rfl⟩

/-- The part of `ingest_evidence` under the lock, for evidence under its final id. -/
def storeEvidence (st : GovernorState) (e : InterferenceEvidence) : GovernorState :=
  let eng := { st.engine with evidence := st.engine.evidence.insert e.id e }
  match locateConflict eng.conflicts e with
  | some (cid, c) =>
    let c' := progressConflict eng.policy e (updateConflict c e)
    { st with engine := { eng with conflicts := eng.conflicts.insert cid c' } }
  | none =>
    let c := newConflict st e
    let c' := progressConflict eng.policy e c
    { st with
      nextConflictId := st.nextConflictId + 1
      engine := { eng with conflicts := eng.conflicts.insert c.id c' } }

def ingestEvidence (input : InterferenceEvidence) (st : GovernorState) :
    Status × GovernorState :=
  let v := validateEvidence input
  if ¬v.isOk then (v, st)
  else
    let (e, next) := assignEvidenceId input.derived st.nextEvidenceId
    (.good, storeEvidence { st with nextEvidenceId := next } e)

def evaluate (id : ConflictId) (st : GovernorState) : ConflictEvaluation :=
  evaluateConflict st.engine id st.engine.authority

/-! ## Action budget -/

def isDisruptiveClass : InterventionClass → Bool
  | .throttle | .reduceConcurrency | .reduceBatch | .serialize | .timeSlice
  | .requestPreemption | .requestMigration | .requestReplacement | .changePlacement
  | .requestBandwidthReallocation | .requestCommunicationReplan
  | .requestCollectiveReschedule | .releaseOptionalResidency | .reduceMemoryPressure
  | .shedLowValueWork | .deferNewWork => true
  | _ => false

/-- `now - windowStart > windowMs`, in unsigned arithmetic. -/
def windowElapsed (b : ActionBudget) (now : TimeMs) : Prop := b.windowMs < now - b.windowStart

instance (b : ActionBudget) (now : TimeMs) : Decidable (windowElapsed b now) :=
  inferInstanceAs (Decidable (_ < _))

def renewWindow (b : ActionBudget) (now : TimeMs) : ActionBudget :=
  if windowElapsed b now then { b with used := {}, windowStart := now } else b

/-- The class counters of `consume_budget`. -/
def countClass (u : ActionBudgetStats) : InterventionClass → ActionBudgetStats
  | .requestPreemption => { u with preemptions := u.preemptions + 1 }
  | .requestMigration => { u with migrations := u.migrations + 1 }
  | .changePlacement => { u with placementChanges := u.placementChanges + 1 }
  | .throttle | .reduceConcurrency | .reduceBatch | .serialize | .timeSlice
  | .reduceMemoryPressure => { u with throttles := u.throttles + 1 }
  | .requestCollectiveReschedule =>
    { u with collectiveReschedules := u.collectiveReschedules + 1 }
  | _ => u

def consumeBudget (b : ActionBudget) (c : InterventionClass) (now : TimeMs) : ActionBudget :=
  let b := renewWindow b now
  let u := countClass b.used c
  { b with used := { u with all := u.all + 1 } }

def budgetExhausted (b : ActionBudget) : InterventionClass → Bool
  | .requestPreemption => b.maxPreemptionsPerWindow ≤ b.used.preemptions
  | .requestMigration => b.maxMigrationsPerWindow ≤ b.used.migrations
  | .changePlacement => b.maxPlacementChangesPerWindow ≤ b.used.placementChanges
  | .throttle | .reduceConcurrency | .reduceBatch | .serialize | .timeSlice
  | .reduceMemoryPressure => b.maxThrottlesPerWindow ≤ b.used.throttles
  | .requestCollectiveReschedule =>
    b.maxCollectiveReschedulesPerWindow ≤ b.used.collectiveReschedules
  | _ => false

/-! ## Authorization -/

/-- The chosen candidate, or without a decision the first feasible one. -/
def pickCandidate (ev : ConflictEvaluation) : Option InterventionCandidate :=
  match ev.decision with
  | some d => some d.chosen
  | none => ev.candidates.find? fun cand => cand.feasible = .feasible

/-- `evidence.find(evidenceIds.front())->second.generation`. -/
def frontGeneration (s : EngineState) (c : ContentionConflict) :
    Except Fault InterferenceEvidenceGeneration :=
  match c.evidenceIds with
  | [] => .error .danglingEvidence
  | eid :: _ =>
    match s.evidence.find eid with
    | none => .error .danglingEvidence
    | some e => .ok e.generation

/-- A disruptive class on a target whose last intervention is too recent. -/
def inCooldown (s : EngineState) (target : WorkloadId) (cls : InterventionClass)
    (now : TimeMs) : Bool :=
  isDisruptiveClass cls &&
    match s.fairness.find target with
    | some fr =>
      fr.lastInterventionAt ≠ 0 && now - fr.lastInterventionAt < s.policy.cooldownMs
    | none => false

/-- What `authorize` has settled when all its checks have passed. -/
structure Grant where
  conflict : ContentionConflict
  cls : InterventionClass
  target : WorkloadId
  fence : Fence
  adapter : ByteString

/-- The checks of `authorize`, in source order; `none` is a refusal. -/
def authorizeChecks (st : GovernorState) (id : ConflictId) (cls : InterventionClass)
    (now : TimeMs) : Except Fault (Option Grant) := do
  let s := st.engine
  let some c := s.conflicts.find id | return none
  let ev := evaluateConflict s id s.authority
  let some picked := pickCandidate ev | return none
  let chosen := if cls ≠ .noAction then cls else picked.cls
  let target := picked.target
  let generation ← frontGeneration s c
  let f := makeFence s.authority c.generation generation target ⟨1⟩
  if (revalidate s f target).code ≠ .ok then return none
  if (checkFeasibility s target chosen f).status ≠ .feasible then return none
  if budgetExhausted s.policy.budget chosen then return none
  if inCooldown s target chosen now then return none
  return some
    { conflict := c, cls := chosen, target, fence := f
      adapter := match ev.decision with | some d => d.chosen.adapter | none => "" }

/-- The record that `authorize` creates. -/
def grantRecord (st : GovernorState) (id : ConflictId) (g : Grant) (now : TimeMs) :
    InterventionRecord where
  id := ⟨st.nextInterventionId⟩
  generation := ⟨1⟩
  cls := g.cls
  conflictId := id
  target := g.target
  state := .authorized
  fence := g.fence
  adapter := g.adapter
  authorizedAt := now
  dispatchId := ⟨st.nextDispatchId⟩
  attemptId := ⟨st.nextAttemptId⟩

/-- The fairness record of a target after one more intervention on it. -/
def chargeFairness (fr : FairnessRecord) (target : WorkloadId) (now : TimeMs) : FairnessRecord :=
  { fr with
    workload := if fr.workload.value = 0 then target else fr.workload
    interventionCount := saturatingAdd fr.interventionCount 1
    consecutiveInterventions :=
      if fr.consecutiveInterventions = 0xFFFFFFFF then 0xFFFFFFFF
      else fr.consecutiveInterventions + 1
    lastInterventionAt := now }

/-- The state after `authorize` has created its record. -/
def commitGrant (st : GovernorState) (id : ConflictId) (g : Grant) (now : TimeMs) :
    GovernorState :=
  let s := st.engine
  let ir := grantRecord st id g now
  { st with
    nextInterventionId := st.nextInterventionId + 1
    nextDispatchId := st.nextDispatchId + 1
    nextAttemptId := st.nextAttemptId + 1
    engine := { s with
      policy := { s.policy with budget := consumeBudget s.policy.budget g.cls now }
      fairness := s.fairness.insert g.target
        (chargeFairness ((s.fairness.find g.target).getD {}) g.target now)
      interventions := s.interventions.insert ir.id ir
      conflicts := s.conflicts.insert id
        { g.conflict with
          state := .interventionAuthorized
          selectedIds := g.conflict.selectedIds ++ [ir.id]
          lastActionAt := now } } }

def authorize (id : ConflictId) (cls : InterventionClass) (now : TimeMs) (st : GovernorState) :
    Except Fault (Option InterventionId × GovernorState) := do
  match ← authorizeChecks st id cls now with
  | none => return (none, st)
  | some g => return (some ⟨st.nextInterventionId⟩, commitGrant st id g now)

/-! ## Dispatch -/

inductive AdapterOutcome
  | accepted | rejected | unavailable | unknown
deriving DecidableEq

structure AdapterResult where
  outcome : AdapterOutcome := .unavailable
  note : ByteString := ""
  attemptId : AttemptId := {}
deriving DecidableEq

/-- The adapters a dispatch can reach.  Only the throttle adapter is ever asked
for; its answer may be any function of the call. -/
structure AdapterRegistry where
  throttle : Option (AttemptId → WorkloadId → InterventionClass → Double → AdapterResult)

/-- What the first critical section of `dispatch` hands to the adapter call. -/
structure DispatchTicket where
  id : InterventionId
  cls : InterventionClass
  target : WorkloadId
  attempt : AttemptId
deriving DecidableEq

def setIntervention (st : GovernorState) (id : InterventionId) (i : InterventionRecord) :
    GovernorState :=
  { st with engine := { st.engine with
    interventions := st.engine.interventions.insert id i } }

/-- The first critical section: revalidation and the move to DISPATCHED. -/
def dispatchBegin (id : InterventionId) (now : TimeMs) (st : GovernorState) :
    Except Status DispatchTicket × GovernorState :=
  match st.engine.interventions.find id with
  | none => (.error (.bad .invalidInput "unknown intervention"), st)
  | some i =>
    if i.state ≠ .authorized then
      (.error (.bad .staleAuthority "intervention not in AUTHORIZED state"), st)
    else
      let rv := revalidate st.engine i.fence i.target
      if rv.code ≠ .ok then (.error rv, setIntervention st id { i with state := .superseded })
      else
        (.ok ⟨id, i.cls, i.target, i.attemptId⟩,
          setIntervention { st with nextDispatchId := st.nextDispatchId + 1 } id
            { i with state := .dispatched, dispatchId := ⟨st.nextDispatchId⟩
                     dispatchedAt := now })

/-- The adapter call between the critical sections. -/
def callAdapter (adapters : Option AdapterRegistry) (t : DispatchTicket) : AdapterResult :=
  match adapters with
  | none => ⟨.unavailable, "no adapter registry", t.attempt⟩
  | some registry =>
    match t.cls with
    | .throttle | .reduceConcurrency | .reduceBatch | .serialize | .timeSlice
    | .reduceMemoryPressure =>
      match registry.throttle with
      | some apply => apply t.attempt t.target t.cls 1.0
      | none => ⟨.unavailable, "no throttle adapter", t.attempt⟩
    | _ => ⟨.unavailable, "no registered adapter for class", t.attempt⟩

/-- The record after an adapter outcome. -/
def applyOutcome (res : AdapterResult) (i : InterventionRecord) : InterventionRecord :=
  match res.outcome with
  | .accepted => { i with state := .acknowledged, ackNote := res.note }
  | .unknown => { i with state := .outcomeUnknown }
  | .rejected | .unavailable =>
    { i with
      state := .failed
      interimStatus := .bad .interventionFailed
        (if res.note = "" then "adapter rejected" else res.note) }

/-- The second critical section: the adapter outcome is applied. -/
def dispatchFinish (id : InterventionId) (res : AdapterResult) (st : GovernorState) :
    Status × GovernorState :=
  match st.engine.interventions.find id with
  | none => (.bad .invalidInput "intervention vanished", st)
  | some i => (.good, setIntervention st id (applyOutcome res i))

/-- `dispatch` with nothing running between its critical sections. -/
def dispatch (id : InterventionId) (now : TimeMs) (adapters : Option AdapterRegistry)
    (st : GovernorState) : Status × GovernorState :=
  match dispatchBegin id now st with
  | (.error status, st') => (status, st')
  | (.ok t, st') => dispatchFinish id (callAdapter adapters t) st'

/-- `authorize_and_dispatch`; the clock is read once in each part. -/
def authorizeAndDispatch (id : ConflictId) (cls : InterventionClass) (now now' : TimeMs)
    (adapters : Option AdapterRegistry) (st : GovernorState) :
    Except Fault (Status × GovernorState) := do
  if cls ≠ .noAction ∧ budgetExhausted st.engine.policy.budget cls then
    return (.bad .actionBudgetExhausted "action budget exhausted", st)
  let (interId, st') ← authorize id cls now st
  match interId with
  | none => return (.bad .noLegalIntervention "no legal intervention", st')
  | some iid => return dispatch iid now' adapters st'

/-! ## Lifecycle callbacks -/

def onAcknowledge (id : InterventionId) (_attempt : AttemptId) (now : TimeMs)
    (st : GovernorState) : Status × GovernorState :=
  match st.engine.interventions.find id with
  | none => (.bad .invalidInput "unknown intervention", st)
  | some i =>
    if i.state ≠ .dispatched then
      (.bad .staleAuthority "intervention not DISPATCHED", st)
    else (.good, setIntervention st id { i with state := .acknowledged, acknowledgedAt := now })

def onActionFailed (id : InterventionId) (_attempt : AttemptId) (note : ByteString)
    (st : GovernorState) : Status × GovernorState :=
  match st.engine.interventions.find id with
  | none => (.bad .invalidInput "unknown intervention", st)
  | some i =>
    (.good, setIntervention st id
      { i with state := .failed, interimStatus := .bad .interventionFailed note })

/-! ## Post-action evidence -/

/-- The first intervention, in id order, on the conflict that is still open. -/
def openIntervention (s : EngineState) (cid : ConflictId) :
    Option (InterventionId × InterventionRecord) :=
  s.interventions.entries.find? fun entry =>
    entry.2.conflictId = cid ∧
      (entry.2.state = .dispatched ∨ entry.2.state = .acknowledged ∨
        entry.2.state = .authorized)

/-- Some other conflict hurts the target beyond its hard floor. -/
def secondaryHard (s : EngineState) (cid : ConflictId) (target : WorkloadId) : Bool :=
  s.conflicts.entries.any fun entry =>
    entry.1 ≠ cid && entry.2.affected.any fun victim =>
      victim = target &&
        1.0 - (workloadPolicyFor s.policy target).hardSloFloor < entry.2.degradation

def classifyOutcome (threshold before after : Double) (secondary : Bool) :
    VerificationOutcome :=
  if secondary then
    if after < threshold then .shiftedContention else .createdSecondaryViolation
  else if after ≤ threshold then .resolved
  else if after < before then .partiallyResolved
  else if before < after then .worsened
  else .ineffective

/-- The lifecycle state and the conflict state that an outcome leads to. -/
def outcomeStates : VerificationOutcome → LifecycleState × ConflictState
  | .resolved => (.effective, .resolved)
  | .partiallyResolved => (.partiallyEffective, .partiallyResolved)
  | .ineffective | .worsened | .shiftedContention | .createdSecondaryViolation
  | .createdFairnessViolation => (.ineffective, .unresolved)
  | _ => (.outcomeUnknown, .unresolved)

/-- The conflict part of the closed-loop verification: the conflict takes the
new degradation and lists the new evidence. -/
def remeasureConflict (c : ContentionConflict) (e : InterferenceEvidence) : ContentionConflict :=
  { c with
    degradation := e.degradation
    lastUpdatedAt := e.sampledAt
    evidenceIds := c.evidenceIds ++ [e.id] }

/-- The intervention and conflict after a verification outcome. -/
def settleIntervention (s : EngineState) (cid : ConflictId) (c : ContentionConflict)
    (iid : InterventionId) (i : InterventionRecord) (outcome : VerificationOutcome)
    (sampledAt : TimeMs) : EngineState :=
  { s with
    interventions := s.interventions.insert iid
      { i with result := outcome, completedAt := sampledAt, verificationReported := true
               state := (outcomeStates outcome).1 }
    conflicts := s.conflicts.insert cid { c with state := (outcomeStates outcome).2 }
    fairness :=
      if outcome = .resolved then
        match s.fairness.find i.target with
        | some fr => s.fairness.insert i.target { fr with consecutiveInterventions := 0 }
        | none => s.fairness
      else s.fairness }

/-- The part of `submit_post_action_evidence` under the lock, for evidence under
its final id. -/
def verifyEvidence (st : GovernorState) (e : InterferenceEvidence) : GovernorState :=
  let eng := { st.engine with evidence := st.engine.evidence.insert e.id e }
  match locateConflict eng.conflicts e with
  | none => { st with engine := eng }
  | some (cid, c) =>
    let c' := remeasureConflict c e
    let eng := { eng with conflicts := eng.conflicts.insert cid c' }
    match openIntervention eng c'.id with
    | none => { st with engine := eng }
    | some (iid, i) =>
      let outcome := classifyOutcome eng.policy.actionabilityThreshold c.degradation
        c'.degradation (secondaryHard eng c'.id i.target)
      { st with engine := settleIntervention eng cid c' iid i outcome e.sampledAt }

def submitPostActionEvidence (input : InterferenceEvidence) (st : GovernorState) :
    Status × GovernorState :=
  let v := validateEvidence input
  if ¬v.isOk then (v, st)
  else
    let (e, next) := assignEvidenceId input.derived st.nextEvidenceId
    (.good, verifyEvidence { st with nextEvidenceId := next } e)

end ContentionGovernor
