import ContentionGovernor.FenceSafety
import ContentionGovernor.Lifecycle

/-!
# Closed-loop verification

What `submit_post_action_evidence` closes, and what it leaves unchecked: the
lifecycle state and dispatch time of the record, the status and metric of the
evidence, and the targets of the other open interventions.
-/

namespace ContentionGovernor

/-! ## Closings -/

/-- The evidence as `submit_post_action_evidence` stores it. -/
def storedEvidence (s : GovernorState) (input : InterferenceEvidence) : InterferenceEvidence :=
  (assignEvidenceId input.derived s.nextEvidenceId).1

/-- The conflict that post-action evidence is for, and its first open intervention. -/
structure Closing where
  key : ConflictId
  conflict : ContentionConflict
  id : InterventionId
  record : InterventionRecord

def closing (s : GovernorState) (input : InterferenceEvidence) : Option Closing :=
  if (validateEvidence input).isOk then
    (locateConflict s.engine.conflicts (storedEvidence s input)).bind fun entry =>
      (openIntervention s.engine entry.2.id).map fun first =>
        ⟨entry.1, entry.2, first.1, first.2⟩
  else none

/-- The engine state that the secondary check looks at. -/
def remeasured (s : GovernorState) (input : InterferenceEvidence) (v : Closing) : EngineState :=
  let e := storedEvidence s input
  { s.engine with
    evidence := s.engine.evidence.insert e.id e
    conflicts := s.engine.conflicts.insert v.key (remeasureConflict v.conflict e) }

/-- Another conflict hurts the target of the closed intervention. -/
def hurtsTarget (s : GovernorState) (input : InterferenceEvidence) (v : Closing) : Bool :=
  secondaryHard (remeasured s input v) v.conflict.id v.record.target

def verdict (s : GovernorState) (input : InterferenceEvidence) (v : Closing) :
    VerificationOutcome :=
  classifyOutcome s.engine.policy.actionabilityThreshold v.conflict.degradation
    (storedEvidence s input).degradation (hurtsTarget s input v)

theorem closing_spec {s : GovernorState} {input : InterferenceEvidence} {v : Closing}
    (h : closing s input = some v) : (validateEvidence input).isOk ∧
      locateConflict s.engine.conflicts (storedEvidence s input) = some (v.key, v.conflict) ∧
      openIntervention s.engine v.conflict.id = some (v.id, v.record) := by
  unfold closing at h
  split_ifs at h with hv
  obtain ⟨⟨cid, c⟩, hlocated, h⟩ := Option.bind_eq_some_iff.mp h
  obtain ⟨⟨iid, i⟩, hopened, rfl⟩ := Option.map_eq_some_iff.mp h
  exact ⟨hv, hlocated, hopened⟩

theorem submit_of_closing {s : GovernorState} {input : InterferenceEvidence} {v : Closing}
    (h : closing s input = some v) : (submitPostActionEvidence input s).2.engine =
      settleIntervention (remeasured s input v) v.key
        (remeasureConflict v.conflict (storedEvidence s input)) v.id v.record (verdict s input v)
        (storedEvidence s input).sampledAt := by
  obtain ⟨hv, hlocated, hopened⟩ := closing_spec h
  have hopened' : openIntervention (remeasured s input v)
      (remeasureConflict v.conflict (storedEvidence s input)).id = some (v.id, v.record) := hopened
  unfold remeasured at hopened'
  unfold storedEvidence at hlocated hopened'
  unfold submitPostActionEvidence verifyEvidence
  simp only [hv, not_true_eq_false, if_false]
  rw [hlocated]
  dsimp only
  rw [hopened']
  rfl

/-- Without a closing neither interventions nor fairness change. -/
theorem submit_of_not_closing {s : GovernorState} {input : InterferenceEvidence}
    (h : closing s input = none) :
    (submitPostActionEvidence input s).2.engine.interventions = s.engine.interventions ∧
      (submitPostActionEvidence input s).2.engine.fairness = s.engine.fairness := by
  unfold closing storedEvidence at h
  unfold submitPostActionEvidence verifyEvidence
  by_cases hv : (validateEvidence input).isOk
  · rw [if_pos hv] at h
    simp only [hv, not_true_eq_false, if_false]
    split
    · exact ⟨rfl, rfl⟩
    · rename_i entry cid c hlocated
      split
      · exact ⟨rfl, rfl⟩
      · rename_i entry' iid i hopened
        have hopened : openIntervention s.engine c.id = some (iid, i) := hopened
        rw [hlocated, Option.bind_some, hopened] at h
        cases h
  · simp only [hv]
    exact ⟨rfl, rfl⟩

/-- A verification touches the fairness record of one workload: that of the target, which
RESOLVED clears. -/
theorem find_fairness_submit (s : GovernorState) (input : InterferenceEvidence) (w : WorkloadId) :
    (submitPostActionEvidence input s).2.engine.fairness.find w =
      (s.engine.fairness.find w).map fun fr =>
        if (closing s input).any fun v => v.record.target = w ∧ verdict s input v = .resolved then
          { fr with consecutiveInterventions := 0 }
        else fr := by
  cases hclosing : closing s input with
  | none =>
    rw [(submit_of_not_closing hclosing).2]
    exact Option.map_id_apply.symm
  | some v =>
    rw [submit_of_closing hclosing, settleIntervention]
    have hfairness : (remeasured s input v).fairness = s.engine.fairness := rfl
    simp only [hfairness, Option.any_some, decide_eq_true_eq]
    by_cases hresolved : verdict s input v = .resolved
    · simp only [hresolved, if_true, and_true]
      cases hrecord : s.engine.fairness.find v.record.target with
      | none =>
        by_cases hw : v.record.target = w
        · rw [← hw, hrecord]
          rfl
        · simp only [hw, if_false]
          exact Option.map_id_apply.symm
      | some fr =>
        dsimp only
        by_cases hw : v.record.target = w
        · rw [← hw, OrderedMap.find_insert_self, hrecord]
          simp
        · rw [OrderedMap.find_insert_of_ne _ (Ne.symm hw)]
          simp only [hw, if_false]
          exact Option.map_id_apply.symm
    · simp only [hresolved, if_false, and_false]
      exact Option.map_id_apply.symm

namespace LifecycleState

/-- The states in which verification takes an intervention up. -/
def isOpen : LifecycleState → Bool
  | .authorized | .dispatched | .acknowledged => true
  | _ => false

end LifecycleState

theorem openIntervention_open {s : EngineState} {cid : ConflictId}
    {entry : InterventionId × InterventionRecord} (h : openIntervention s cid = some entry) :
    entry.2.conflictId = cid ∧ entry.2.state.isOpen := by
  have hopen := List.find?_some h
  simp only [decide_eq_true_eq] at hopen
  refine ⟨hopen.1, ?_⟩
  rcases hopen.2 with h | h | h <;> rw [h] <;> rfl

/-! ## Verdicts -/

/-- The verdict on the input is a success: the target is not hurt elsewhere, and the
degradation is at the threshold or below, or less than the conflict's. -/
def ShowsRelief (s : GovernorState) (input : InterferenceEvidence) (v : Closing) : Prop :=
  hurtsTarget s input v = false ∧
    ((storedEvidence s input).degradation ≤ s.engine.policy.actionabilityThreshold ∨
      (storedEvidence s input).degradation < v.conflict.degradation)

instance (s : GovernorState) (input : InterferenceEvidence) (v : Closing) :
    Decidable (ShowsRelief s input v) := inferInstanceAs (Decidable (_ ∧ _))

theorem verdict_eq_resolved {s : GovernorState} {input : InterferenceEvidence} {v : Closing} :
    verdict s input v = .resolved ↔ hurtsTarget s input v = false ∧
      (storedEvidence s input).degradation ≤ s.engine.policy.actionabilityThreshold := by
  unfold verdict classifyOutcome
  split_ifs <;> simp_all

theorem showsRelief_iff {s : GovernorState} {input : InterferenceEvidence} {v : Closing} :
    ShowsRelief s input v ↔
      verdict s input v = .resolved ∨ verdict s input v = .partiallyResolved := by
  unfold ShowsRelief verdict classifyOutcome
  split_ifs <;> simp_all

/-- Both states of a verdict say whether it is a success. -/
theorem outcomeStates_success (o : VerificationOutcome) :
    (((outcomeStates o).1 = .effective ∨ (outcomeStates o).1 = .partiallyEffective) ↔
      o = .resolved ∨ o = .partiallyResolved) ∧
    (((outcomeStates o).2 = .resolved ∨ (outcomeStates o).2 = .partiallyResolved) ↔
      o = .resolved ∨ o = .partiallyResolved) ∧
    ((outcomeStates o).2 = .resolved ↔ o = .resolved) := by
  cases o <;> decide

/-- The call ends the intervention, on the conflict that its evidence is for, and leaves the
two in these states. -/
structure Completes (s : GovernorState) (input : InterferenceEvidence) (cid : ConflictId)
    (c : ContentionConflict) (iid : InterventionId) (i : InterventionRecord)
    (x : LifecycleState) (y : ConflictState) : Prop where
  located : locateConflict s.engine.conflicts (storedEvidence s input) = some (cid, c)
  record : s.engine.interventions.find iid = some i
  live : i.state.isLive
  ended : x.isTerminal
  lifecycle : HasState (submitPostActionEvidence input s).2 iid x
  conflict : ((submitPostActionEvidence input s).2.engine.conflicts.find cid).map (·.state) =
    some y

theorem completes_iff {s : GovernorState} {input : InterferenceEvidence} {cid : ConflictId}
    {c : ContentionConflict} {iid : InterventionId} {i : InterventionRecord}
    {x : LifecycleState} {y : ConflictState} : Completes s input cid c iid i x y ↔
      closing s input = some ⟨cid, c, iid, i⟩ ∧
        outcomeStates (verdict s input ⟨cid, c, iid, i⟩) = (x, y) := by
  constructor
  · rintro ⟨hlocated, hrecord, hlive, hended, ⟨r', hr', rfl⟩, hconflict⟩
    cases hclosing : closing s input with
    | none =>
      -- Nothing is closed, so a live record stays live.
      rw [(submit_of_not_closing hclosing).1, hrecord, Option.some.injEq] at hr'
      rw [← hr'] at hended
      exact absurd hlive (not_live_of_terminal hended)
    | some v =>
      obtain ⟨-, hlocated', hopened⟩ := closing_spec hclosing
      obtain ⟨hrecord', -⟩ := openIntervention_spec hopened
      rw [hlocated, Option.some.injEq, Prod.mk.injEq] at hlocated'
      obtain ⟨rfl, rfl⟩ := hlocated'
      rw [submit_of_closing hclosing, settleIntervention] at hr' hconflict
      rw [OrderedMap.find_insert_self, Option.map_some, Option.some.injEq] at hconflict
      rcases OrderedMap.find_insert_cases hr' with ⟨rfl, rfl⟩ | ⟨-, hr'⟩
      · have hi : i = v.record := Option.some.inj (hrecord.symm.trans hrecord')
        subst hi
        exact ⟨rfl, Prod.ext rfl hconflict⟩
      · -- Another record is as it was, and so still live.
        have hsame : i = r' := Option.some.inj (hrecord.symm.trans hr')
        rw [← hsame] at hended
        exact absurd hlive (not_live_of_terminal hended)
  · rintro ⟨hclosing, hstates⟩
    obtain ⟨-, hlocated, hopened⟩ := closing_spec hclosing
    obtain ⟨hrecord, hlive⟩ := openIntervention_spec hopened
    have hengine := submit_of_closing hclosing
    have hx : (outcomeStates (verdict s input ⟨cid, c, iid, i⟩)).1 = x := by rw [hstates]
    have hy : (outcomeStates (verdict s input ⟨cid, c, iid, i⟩)).2 = y := by rw [hstates]
    refine ⟨hlocated, hrecord, hlive, ?_, ?_, ?_⟩
    · rw [← hx]
      exact outcomeStates_terminal _
    · rw [HasState, hengine, settleIntervention, OrderedMap.find_insert_self]
      exact ⟨_, rfl, hx⟩
    · rw [hengine, settleIntervention, OrderedMap.find_insert_self]
      exact congrArg some hy

/-- A completion that reports success closes with a success verdict, and the other way
round. -/
theorem Completes.success_iff {s : GovernorState} {input : InterferenceEvidence}
    {cid : ConflictId} {c : ContentionConflict} {iid : InterventionId} {i : InterventionRecord}
    {x : LifecycleState} {y : ConflictState} (h : Completes s input cid c iid i x y) :
    (x = .effective ∨ x = .partiallyEffective ∨ y = .resolved ∨ y = .partiallyResolved) ↔
      ShowsRelief s input ⟨cid, c, iid, i⟩ := by
  obtain ⟨-, hstates⟩ := completes_iff.mp h
  obtain ⟨hlifecycle, hconflict, -⟩ := outcomeStates_success (verdict s input ⟨cid, c, iid, i⟩)
  rw [hstates] at hlifecycle hconflict
  rw [showsRelief_iff, ← or_assoc, hlifecycle, hconflict, or_self]

/-! ## Fresh and comparable evidence -/

/-- The metric direction in which a binding objective is measured. -/
def metricOf : BindingObjective → Option MetricDirection
  | .throughput => some .higherIsBetter
  | .latency => some .lowerIsBetter
  | _ => none

/-- The evidence is CURRENT, was not sampled before the action was dispatched and measures
what binds the conflict. -/
structure FitFor (e : InterferenceEvidence) (c : ContentionConflict) (i : InterventionRecord) :
    Prop where
  current : e.status = .current
  later : i.dispatchedAt ≤ e.sampledAt
  metric : ∀ m, metricOf c.binding = some m → e.metric = m

/-- The call calls an intervention or its conflict successful only on fit evidence. -/
def VerifiesFresh (s : GovernorState) (input : InterferenceEvidence) : Prop :=
  ∀ cid c iid i x y, Completes s input cid c iid i x y →
    (x = .effective ∨ x = .partiallyEffective ∨ y = .resolved ∨ y = .partiallyResolved) →
    FitFor input c i

/-- A call verifies on fit evidence only, exactly when its evidence is fit for what it
closes or shows no relief. -/
theorem verifies_fresh_iff (s : GovernorState) (input : InterferenceEvidence) :
    VerifiesFresh s input ↔ ∀ v, closing s input = some v → ShowsRelief s input v →
      FitFor input v.conflict v.record := by
  constructor
  · intro h v hclosing hrelief
    have hcompletes := completes_iff.mpr ⟨hclosing, rfl⟩
    exact h _ _ _ _ _ _ hcompletes (hcompletes.success_iff.mpr hrelief)
  · intro h cid c iid i x y hcompletes hsuccess
    exact h _ (completes_iff.mp hcompletes).1 (hcompletes.success_iff.mp hsuccess)

/-- The throttle is dispatched and accepted. -/
def throttleDispatched : List Op := throttleNeighbor ++ [.dispatch ⟨1⟩ 1500 (some acceptingAdapter)]

/-- A STALE report from before the dispatch, of the metric that does not bind. -/
def staleReport : InterferenceEvidence :=
  { slowdown with status := .stale, sampledAt := 10, metric := .lowerIsBetter }

theorem stale_report_verifies :
    ¬∀ ops s input, Runs.exec step {} ops = some s → VerifiesFresh s input := by
  intro h
  have hfresh := h _ _ staleReport (@exec_reached throttleDispatched (by decide +kernel))
  have hrelief : (closing (reached throttleDispatched) staleReport).any
      (fun v => ShowsRelief (reached throttleDispatched) staleReport v) := by decide +kernel
  cases hclosing : closing (reached throttleDispatched) staleReport with
  | none =>
    rw [hclosing] at hrelief
    cases hrelief
  | some v =>
    rw [hclosing] at hrelief
    have hcompletes := completes_iff.mpr ⟨hclosing, rfl⟩
    have hfit := hfresh _ _ _ _ _ _ hcompletes
      (hcompletes.success_iff.mpr (of_decide_eq_true hrelief))
    exact absurd hfit.current (by decide)

/-! ## Moved violations -/

/-- A conflict other than this one hurts the workload beyond its hard floor. -/
def HurtElsewhere (s : GovernorState) (cid : ConflictId) (w : WorkloadId) : Prop :=
  ∃ k c, k ≠ cid ∧ s.engine.conflicts.find k = some c ∧ w ∈ c.affected ∧
    1.0 - (workloadPolicyFor s.engine.policy w).hardSloFloor < c.degradation

/-- The conflict is set to RESOLVED only when no target of an intervention that was open on
it is hurt elsewhere. -/
def ResolvesUnmoved (s : GovernorState) (input : InterferenceEvidence) : Prop :=
  ∀ cid c iid i x y, Completes s input cid c iid i x y → y = .resolved →
    ∀ jid j, s.engine.interventions.find jid = some j → j.conflictId = c.id → j.state.isOpen →
      ¬HurtElsewhere s cid j.target

/-- No violation is moved unseen exactly when evidence at the threshold or below finds each
hurt target among the open interventions reflected in the check of the first one. -/
theorem resolves_unmoved_iff (s : GovernorState) (input : InterferenceEvidence) :
    ResolvesUnmoved s input ↔ ∀ v, closing s input = some v →
      (storedEvidence s input).degradation ≤ s.engine.policy.actionabilityThreshold →
      ∀ jid j, s.engine.interventions.find jid = some j → j.conflictId = v.conflict.id →
        j.state.isOpen → HurtElsewhere s v.key j.target → hurtsTarget s input v := by
  constructor
  · intro h v hclosing hbelow jid j hj hon hopen hhurt
    by_contra hnot
    have hcompletes := completes_iff.mpr ⟨hclosing, rfl⟩
    have hresolved : (outcomeStates (verdict s input v)).2 = .resolved :=
      (outcomeStates_success _).2.2.mpr
        (verdict_eq_resolved.mpr ⟨Bool.eq_false_of_not_eq_true hnot, hbelow⟩)
    exact h _ _ _ _ _ _ hcompletes hresolved jid j hj hon hopen hhurt
  · rintro h cid c iid i x y hcompletes rfl jid j hj hon hopen hhurt
    obtain ⟨hclosing, hstates⟩ := completes_iff.mp hcompletes
    have hresolved : (outcomeStates (verdict s input ⟨cid, c, iid, i⟩)).2 = .resolved := by
      rw [hstates]
    obtain ⟨hnot, hbelow⟩ :=
      verdict_eq_resolved.mp ((outcomeStates_success _).2.2.mp hresolved)
    have hseen := h _ hclosing hbelow jid j hj hon hopen hhurt
    rw [hnot] at hseen
    cases hseen

/-- Workload 2 and then workload 3 are throttled for conflict 1, and workload 3 comes to
wait three times as long as alone. -/
def movedViolation : List Op :=
  throttleNeighbor ++ [.recordWorkerBoot ⟨3⟩ ⟨1⟩, .recordWorkloadGeneration ⟨3⟩ ⟨1⟩,
    .ingestEvidence { slowdown with neighbors := [⟨3⟩] }, .authorize ⟨1⟩ .throttle 2000,
    .ingestEvidence { slowdown with
      victim := ⟨3⟩, metric := .lowerIsBetter, coRunObservation := 300.0 }]

/-- Workload 1 is back at its baseline. -/
def recovered : InterferenceEvidence := { slowdown with coRunObservation := 100.0 }

theorem moved_violation_resolved :
    ¬∀ ops s input, Runs.exec step {} ops = some s → ResolvesUnmoved s input := by
  intro h
  have hunmoved := h _ _ recovered (@exec_reached movedViolation (by decide +kernel))
  have hclosed : (closing (reached movedViolation) recovered).map (fun v =>
      (v.key, v.conflict.id, verdict (reached movedViolation) recovered v)) =
      some (⟨1⟩, ⟨1⟩, .resolved) := by decide +kernel
  have hother : ((reached movedViolation).engine.interventions.find ⟨2⟩).map (fun j =>
      (j.conflictId, j.state, j.target)) = some (⟨1⟩, .authorized, ⟨3⟩) := by decide +kernel
  have hhurt : ((reached movedViolation).engine.conflicts.find ⟨2⟩).map (fun c =>
      decide (⟨3⟩ ∈ c.affected ∧ 1.0 - (workloadPolicyFor (reached movedViolation).engine.policy
        ⟨3⟩).hardSloFloor < c.degradation)) = some true := by decide +kernel
  -- From here on the state is only known by these four facts.
  generalize reached movedViolation = s at hunmoved hclosed hother hhurt
  obtain ⟨v, hclosing, hv⟩ := Option.map_eq_some_iff.mp hclosed
  obtain ⟨j, hj, hopen⟩ := Option.map_eq_some_iff.mp hother
  obtain ⟨c, hc, hfloor⟩ := Option.map_eq_some_iff.mp hhurt
  obtain ⟨hkey, hid, hverdict⟩ : v.key = ⟨1⟩ ∧ v.conflict.id = ⟨1⟩ ∧
      verdict s recovered v = .resolved := by simpa using hv
  obtain ⟨hon, hstate, htarget⟩ : j.conflictId = ⟨1⟩ ∧ j.state = .authorized ∧
      j.target = ⟨3⟩ := by simpa using hopen
  have hcompletes := completes_iff.mpr ⟨hclosing, rfl⟩
  refine hunmoved _ _ _ _ _ _ hcompletes (by rw [hverdict]) ⟨2⟩ j hj
    (hon.trans hid.symm) (by rw [hstate]; rfl) ⟨⟨2⟩, c, ?_, hc, ?_⟩
  · rw [hkey]
    decide
  · rw [htarget]
    exact of_decide_eq_true hfloor

/-! ## Acknowledged before effective -/

namespace LifecycleState

/-- The states of an intervention that an adapter has accepted and that has not failed. -/
def isAccepted : LifecycleState → Bool
  | .acknowledged | .effective | .partiallyEffective => true
  | _ => false

/-- Of the open states only ACKNOWLEDGED is accepted. -/
theorem accepted_of_open {x : LifecycleState} (hopen : x.isOpen) (hauthorized : x ≠ .authorized)
    (hdispatched : x ≠ .dispatched) : x.isAccepted := by
  cases x with
  | authorized => exact absurd rfl hauthorized
  | dispatched => exact absurd rfl hdispatched
  | acknowledged => rfl
  | _ => cases hopen

end LifecycleState

theorem success_of_accepted {o : VerificationOutcome} (h : (outcomeStates o).1.isAccepted) :
    o = .resolved ∨ o = .partiallyResolved := by
  cases o with
  | resolved => exact .inl rfl
  | partiallyResolved => exact .inr rfl
  | _ => cases h

/-- The record under the id has this class and target and is accepted. -/
def HasAccepted (s : GovernorState) (id : InterventionId)
    (action : InterventionClass × WorkloadId) : Prop :=
  ∃ r, s.engine.interventions.find id = some r ∧ r.state.isAccepted ∧ action = (r.cls, r.target)

/-- The adapters an operation reaches. -/
def Op.adapters : Op → Option AdapterRegistry
  | .dispatch _ _ adapters | .authorizeAndDispatch _ _ _ _ adapters => adapters
  | _ => none

def Op.isDispatch : Op → Bool
  | .dispatch _ _ _ | .authorizeAndDispatch _ _ _ _ _ => true
  | _ => false

theorem isDispatch_of_invokes {s u : GovernorState} {op : Op} {id : InterventionId}
    {t : DispatchTicket} (h : InvokesAdapter s op id u t) : op.isDispatch := by
  cases op with
  | dispatch | authorizeAndDispatch => rfl
  | _ => exact h.elim

/-- The operation hands the action to the adapter under the id, and the adapter accepts. -/
def Acknowledges (s : GovernorState) (op : Op) (id : InterventionId)
    (action : InterventionClass × WorkloadId) : Prop :=
  ∃ u t, InvokesAdapter s op id u t ∧ action = (t.cls, t.target) ∧
    (callAdapter op.adapters t).outcome = .accepted

/-- Nothing is loaded, and evidence that shows relief closes no intervention that is only
authorized. -/
def VerifiesDispatched (s : GovernorState) : Op → Prop
  | .submitPostActionEvidence input => ∀ v ∈ closing s input, v.record.state = .authorized →
      ¬ShowsRelief s input v
  | .load _ _ _ => False
  | _ => True

instance (s : GovernorState) : (op : Op) → Decidable (VerifiesDispatched s op)
  | .submitPostActionEvidence input =>
    inferInstanceAs (Decidable (∀ v ∈ closing s input, v.record.state = .authorized → _))
  | .load _ _ _ => .isFalse id
  | .setPolicy _ | .setAuthority _ | .recordWorkerBoot _ _ | .recordWorkloadGeneration _ _
  | .advanceEpoch | .ingestEvidence _ | .evaluate _ | .authorize _ _ _ | .dispatch _ _ _
  | .authorizeAndDispatch _ _ _ _ _ | .onAcknowledge _ _ _ | .onActionFailed _ _ _ | .save =>
    .isTrue trivial

/-- No dispatch is between its two critical sections. -/
def NoneInFlight (s : GovernorState) : Prop :=
  ∀ id r, s.engine.interventions.find id = some r → r.state ≠ .dispatched

theorem VerifiesDispatched.not_load {s : GovernorState} {op : Op} (h : VerifiesDispatched s op) :
    ¬op.isLoad := by
  cases op with
  | load => exact h.elim
  | _ => exact Bool.false_ne_true

theorem not_dispatched_of_moves {s : GovernorState} {op : Op} {id : InterventionId}
    {r r' : InterventionRecord} (h : Moves s op id r r') (hr : r.state ≠ .dispatched) :
    r'.state ≠ .dispatched := by
  rcases h with h | ⟨h, -⟩
  · rwa [h]
  · intro hstate
    rw [hstate] at h
    exact h rfl

theorem step_noneInFlight {s s' : GovernorState} {op : Op} (hs : NoneInFlight s)
    (hop : VerifiesDispatched s op) (h : step s op = some s') : NoneInFlight s' := by
  intro id r' hr'
  rcases step_interventions h hop.not_load with ⟨-, hrel⟩ | ⟨g, new, -, hnew, -, hrel⟩
  · obtain ⟨r, hr, -, hmoves⟩ := hrel.exists_left hr'
    exact not_dispatched_of_moves hmoves (hs id r hr)
  · obtain ⟨r, hr, -, hmoves⟩ := hrel.exists_left hr'
    refine not_dispatched_of_moves hmoves ?_
    rcases OrderedMap.find_insert_cases hr with ⟨-, rfl⟩ | ⟨-, hr⟩
    · rw [hnew.state]
      exact LifecycleState.noConfusion
    · exact hs id r hr

theorem hasAccepted_commitGrant {s : GovernorState} {cid : ConflictId} {g : Grant} {now : TimeMs}
    {id : InterventionId} {action : InterventionClass × WorkloadId}
    (h : HasAccepted (commitGrant s cid g now) id action) : HasAccepted s id action := by
  obtain ⟨r, hr, haccepted, haction⟩ := h
  rcases OrderedMap.find_insert_cases hr with ⟨-, rfl⟩ | ⟨-, hr⟩
  · cases haccepted
  · exact ⟨r, hr, haccepted, haction⟩

/-- A dispatch accepts only the action it has just handed over. -/
theorem hasAccepted_dispatch {s : GovernorState} {j : InterventionId} {now : TimeMs}
    {adapters : Option AdapterRegistry} {id : InterventionId}
    {action : InterventionClass × WorkloadId}
    (h : HasAccepted (dispatch j now adapters s).2 id action) :
    HasAccepted s id action ∨ j = id ∧ ∃ t, (dispatchBegin id now s).1 = .ok t ∧
      action = (t.cls, t.target) ∧ (callAdapter adapters t).outcome = .accepted := by
  obtain ⟨r, hr, haccepted, haction⟩ := h
  unfold dispatch at hr
  cases hbegin : dispatchBegin j now s with
  | mk result u =>
    rw [hbegin] at hr
    cases result with
    | error e =>
      -- A refused dispatch only supersedes, which accepts nothing.
      rcases dispatchBegin_error hbegin with rfl | ⟨i, -, -, rfl⟩
      · exact .inl ⟨r, hr, haccepted, haction⟩
      · rcases OrderedMap.find_insert_cases hr with ⟨-, rfl⟩ | ⟨-, hr⟩
        · cases haccepted
        · exact .inl ⟨r, hr, haccepted, haction⟩
    | ok t =>
      obtain ⟨i, -, -, -, ht, rfl⟩ := dispatchBegin_ok hbegin
      rcases dispatchFinish_eq j (callAdapter adapters t)
          (setIntervention { s with nextDispatchId := s.nextDispatchId + 1 } j
            { i with state := .dispatched, dispatchId := ⟨s.nextDispatchId⟩, dispatchedAt := now })
        with ⟨hnone, -⟩ | ⟨i', hi', hfinish⟩
      · simp [setIntervention] at hnone
      · simp only [setIntervention, OrderedMap.find_insert_self, Option.some.injEq] at hi'
        dsimp only at hr
        rw [hfinish] at hr
        simp only [setIntervention, OrderedMap.insert_insert] at hr
        rcases OrderedMap.find_insert_cases hr with ⟨rfl, rfl⟩ | ⟨-, hr⟩
        · refine .inr ⟨rfl, t, by rw [hbegin], ?_, ?_⟩
          · have hsame := sameAction_applyOutcome (callAdapter adapters t) i'
            rw [haction, hsame.cls, hsame.target, ← hi', ht]
          · rw [applyOutcome_state] at haccepted
            cases hout : (callAdapter adapters t).outcome <;> rw [hout] at haccepted <;>
              first | rfl | cases haccepted
        · exact .inl ⟨r, hr, haccepted, haction⟩

/-- A success verdict is on a record that was accepted before. -/
theorem hasAccepted_submit {s : GovernorState} {input : InterferenceEvidence}
    {id : InterventionId} {action : InterventionClass × WorkloadId} (hs : NoneInFlight s)
    (hop : VerifiesDispatched s (.submitPostActionEvidence input))
    (h : HasAccepted (submitPostActionEvidence input s).2 id action) : HasAccepted s id action := by
  obtain ⟨r, hr, haccepted, haction⟩ := h
  cases hclosing : closing s input with
  | none =>
    rw [(submit_of_not_closing hclosing).1] at hr
    exact ⟨r, hr, haccepted, haction⟩
  | some v =>
    obtain ⟨-, -, hopened⟩ := closing_spec hclosing
    obtain ⟨hrecord, -⟩ := openIntervention_spec hopened
    obtain ⟨-, hopen⟩ := openIntervention_open hopened
    rw [submit_of_closing hclosing, settleIntervention] at hr
    rcases OrderedMap.find_insert_cases hr with ⟨rfl, rfl⟩ | ⟨-, hr⟩
    · have hrelief : ShowsRelief s input v := showsRelief_iff.mpr (success_of_accepted haccepted)
      -- Of the open states this leaves ACKNOWLEDGED.
      have hstate : v.record.state ≠ .authorized := fun hauthorized =>
        hop v hclosing hauthorized hrelief
      have hflight := hs v.id v.record hrecord
      exact ⟨v.record, hrecord, LifecycleState.accepted_of_open hopen hstate hflight, haction⟩
    · exact ⟨r, hr, haccepted, haction⟩

/-- An acknowledgment needs a dispatch that is still in flight. -/
theorem hasAccepted_onAcknowledge {s : GovernorState} {j : InterventionId}
    {attempt : AttemptId} {now : TimeMs} {id : InterventionId}
    {action : InterventionClass × WorkloadId} (hs : NoneInFlight s)
    (h : HasAccepted (onAcknowledge j attempt now s).2 id action) : HasAccepted s id action := by
  unfold onAcknowledge at h
  split at h
  · exact h
  · rename_i i hi
    split_ifs at h with hstate
    · exact h
    · exact absurd (not_not.mp hstate) (hs j i hi)

theorem hasAccepted_onActionFailed {s : GovernorState} {j : InterventionId}
    {attempt : AttemptId} {note : ByteString} {id : InterventionId}
    {action : InterventionClass × WorkloadId}
    (h : HasAccepted (onActionFailed j attempt note s).2 id action) : HasAccepted s id action := by
  unfold onActionFailed at h
  split at h
  · exact h
  · obtain ⟨r, hr, haccepted, haction⟩ := h
    rcases OrderedMap.find_insert_cases hr with ⟨-, rfl⟩ | ⟨-, hr⟩
    · cases haccepted
    · exact ⟨r, hr, haccepted, haction⟩

theorem hasAccepted_advanceEpoch {s : GovernorState} {id : InterventionId}
    {action : InterventionClass × WorkloadId} (h : HasAccepted (advanceEpoch s).2 id action) :
    HasAccepted s id action := by
  obtain ⟨r, hr, haccepted, haction⟩ := h
  simp only [advanceEpoch, OrderedMap.find_mapValues, Option.map_eq_some_iff] at hr
  obtain ⟨r, hr, rfl⟩ := hr
  unfold abandonInFlight at haccepted haction
  split_ifs at haccepted haction
  · cases haccepted
  · exact ⟨r, hr, haccepted, haction⟩

theorem hasAccepted_of_step {s s' : GovernorState} {op : Op} {id : InterventionId}
    {action : InterventionClass × WorkloadId} (hs : NoneInFlight s)
    (hop : VerifiesDispatched s op) (h : step s op = some s') (h' : HasAccepted s' id action) :
    HasAccepted s id action ∨ Acknowledges s op id action := by
  cases op with
  | authorize cid cls now =>
    obtain ⟨r, hr, rfl⟩ := map_toOption h
    rcases authorize_cases hr with ⟨-, rfl⟩ | ⟨g, -, rfl⟩
    · exact .inl h'
    · exact .inl (hasAccepted_commitGrant h')
  | dispatch j now adapters =>
    cases h
    rcases hasAccepted_dispatch h' with h' | ⟨rfl, t, hbegin, haction, houtcome⟩
    · exact .inl h'
    · exact .inr ⟨s, t, ⟨rfl, rfl, hbegin⟩, haction, houtcome⟩
  | authorizeAndDispatch cid cls now now' adapters =>
    obtain ⟨r, hr, rfl⟩ := map_toOption h
    rcases authorizeAndDispatch_cases hr with hsame | ⟨g, hg, rfl⟩
    · rw [hsame] at h'
      exact .inl h'
    · rcases hasAccepted_dispatch h' with h' | ⟨rfl, t, hbegin, haction, houtcome⟩
      · exact .inl (hasAccepted_commitGrant h')
      · have hgranted := granted_of_checks hg
        exact .inr ⟨_, t, ⟨hgranted.not_refused_early, authorize_of_granted hgranted, hbegin⟩,
          haction, houtcome⟩
  | submitPostActionEvidence input =>
    cases h
    exact .inl (hasAccepted_submit hs hop h')
  | onAcknowledge j attempt now =>
    cases h
    exact .inl (hasAccepted_onAcknowledge hs h')
  | onActionFailed j attempt note =>
    cases h
    exact .inl (hasAccepted_onActionFailed h')
  | advanceEpoch =>
    cases h
    exact .inl (hasAccepted_advanceEpoch h')
  | setPolicy p =>
    cases h
    obtain ⟨_, _, hframe⟩ := setPolicy_frame p s
    rw [hframe] at h'
    exact .inl h'
  | ingestEvidence e =>
    cases h
    obtain ⟨_, _, _, _, hframe⟩ := ingestEvidence_frame e s
    rw [hframe] at h'
    exact .inl h'
  | load => exact hop.elim
  | _ =>
    cases h
    exact .inl h'

/-- In a run whose relief closes no intervention that is only authorized, one that is
effective was handed to the adapter by an earlier dispatch, which accepted it. -/
theorem effective_after_acknowledgment {ops : List Op} {t : GovernorState}
    (hops : Runs.Guarded step VerifiesDispatched {} ops) (hrun : Runs.exec step {} ops = some t)
    {id : InterventionId} {r : InterventionRecord}
    (hr : t.engine.interventions.find id = some r)
    (heffective : r.state = .effective ∨ r.state = .partiallyEffective) :
    ∃ pre op post u, ops = pre ++ op :: post ∧ Runs.exec step {} pre = some u ∧
      Acknowledges u op id (r.cls, r.target) := by
  have hempty : NoneInFlight {} := by
    intro id r hr
    cases hr
  have hnone : ∀ id action, ¬HasAccepted {} id action := by
    rintro id action ⟨r, hr, -⟩
    cases hr
  have haccepted : HasAccepted t id (r.cls, r.target) := by
    refine ⟨r, hr, ?_, rfl⟩
    rcases heffective with h | h <;> rw [h] <;> rfl
  have hinv : ∀ s op s', NoneInFlight s → VerifiesDispatched s op → step s op = some s' →
      NoneInFlight s' := fun _ _ _ => step_noneInFlight
  let made : GovernorState → Op → GovernorState → InterventionId →
      InterventionClass × WorkloadId → Prop := fun s op _ => Acknowledges s op
  have hmade : ∀ s op s' id action, NoneInFlight s → VerifiesDispatched s op →
      step s op = some s' → HasAccepted s' id action →
      HasAccepted s id action ∨ made s op s' id action :=
    fun _ _ _ _ _ => hasAccepted_of_step
  obtain ⟨pre, op, post, u, u', heq, hu, -, hack⟩ :=
    Runs.exists_origin hinv hmade hempty hnone hops hrun haccepted
  exact ⟨pre, op, post, u, heq, hu, hack⟩

theorem effective_after_acknowledgment_throttle : ∃ pre op post u r,
    throttleDispatched ++ [.submitPostActionEvidence recovered] = pre ++ op :: post ∧
      Runs.exec step {} pre = some u ∧ Acknowledges u op ⟨1⟩ (r.cls, r.target) ∧
      (reached (throttleDispatched ++
        [.submitPostActionEvidence recovered])).engine.interventions.find ⟨1⟩ = some r := by
  have hstate : ((reached (throttleDispatched ++
      [.submitPostActionEvidence recovered])).engine.interventions.find ⟨1⟩).map (·.state) =
      some .effective := by decide +kernel
  obtain ⟨r, hr, heffective⟩ := Option.map_eq_some_iff.mp hstate
  have hops : Runs.Guarded step VerifiesDispatched {}
      (throttleDispatched ++ [.submitPostActionEvidence recovered]) := by decide +kernel
  have hrun := @exec_reached (throttleDispatched ++ [.submitPostActionEvidence recovered])
    (by decide +kernel)
  obtain ⟨pre, op, post, u, heq, hu, hack⟩ :=
    effective_after_acknowledgment hops hrun hr (.inl heffective)
  exact ⟨pre, op, post, u, r, heq, hu, hack, hr⟩

/-- The intervention is authorized and then verified without any dispatch. -/
theorem authorized_becomes_effective :
    ¬∀ ops t id r, Runs.exec step {} ops = some t → (∀ op ∈ ops, ¬op.isLoad) →
      t.engine.interventions.find id = some r →
      r.state = .effective ∨ r.state = .partiallyEffective →
      ∃ pre op post u, ops = pre ++ op :: post ∧ Runs.exec step {} pre = some u ∧
        Acknowledges u op id (r.cls, r.target) := by
  intro h
  have hstate : ((reached (throttleNeighbor ++
      [.submitPostActionEvidence recovered])).engine.interventions.find ⟨1⟩).map (·.state) =
      some .effective := by decide +kernel
  obtain ⟨r, hr, heffective⟩ := Option.map_eq_some_iff.mp hstate
  have hrun := @exec_reached (throttleNeighbor ++ [.submitPostActionEvidence recovered])
    (by decide +kernel)
  obtain ⟨pre, op, post, u, heq, -, v, t, hinvokes, -, -⟩ :=
    h _ _ ⟨1⟩ r hrun (by decide) hr (.inl heffective)
  have hmem : op ∈ throttleNeighbor ++ [.submitPostActionEvidence recovered] := by simp [heq]
  have hnone : ∀ op ∈ throttleNeighbor ++ [.submitPostActionEvidence recovered],
      ¬op.isDispatch := by decide
  exact hnone op hmem (isDispatch_of_invokes hinvokes)

end ContentionGovernor
