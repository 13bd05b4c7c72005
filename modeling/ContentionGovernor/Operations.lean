import ContentionGovernor.Evaluation
import ContentionGovernor.Persistence
import ContentionGovernor.Lib.Runs

/-!
# The governor as a transition system

Every public operation as one atomic step, and what a step can do to each part
of the state.
-/

namespace ContentionGovernor

inductive Op
  | setPolicy (p : ContentionPolicy)
  | setAuthority (a : AuthorityContext)
  | recordWorkerBoot (w : WorkloadId) (boot : WorkerBootId)
  | recordWorkloadGeneration (w : WorkloadId) (g : WorkloadGeneration)
  | advanceEpoch
  | ingestEvidence (e : InterferenceEvidence)
  | evaluate (id : ConflictId)
  | authorize (id : ConflictId) (cls : InterventionClass) (now : TimeMs)
  | dispatch (id : InterventionId) (now : TimeMs) (adapters : Option AdapterRegistry)
  | authorizeAndDispatch (id : ConflictId) (cls : InterventionClass) (now now' : TimeMs)
      (adapters : Option AdapterRegistry)
  | onAcknowledge (id : InterventionId) (attempt : AttemptId) (now : TimeMs)
  | onActionFailed (id : InterventionId) (attempt : AttemptId) (note : ByteString)
  | submitPostActionEvidence (e : InterferenceEvidence)
  | save
  | load (opts : Options) (readable : Bool) (file : Option (List UInt8))

/-- The state after an operation.  `open` is `load`; the queries and `save` leave the
state as it is. -/
def Op.run (s : GovernorState) : Op → Except Fault GovernorState
  | .setPolicy p => .ok (ContentionGovernor.setPolicy p s).2
  | .setAuthority a => .ok (ContentionGovernor.setAuthority a s).2
  | .recordWorkerBoot w boot => .ok (ContentionGovernor.recordWorkerBoot w boot s).2
  | .recordWorkloadGeneration w g => .ok (ContentionGovernor.recordWorkloadGeneration w g s).2
  | .advanceEpoch => .ok (ContentionGovernor.advanceEpoch s).2
  | .ingestEvidence e => .ok (ContentionGovernor.ingestEvidence e s).2
  | .evaluate _ => .ok s
  | .authorize id cls now => (ContentionGovernor.authorize id cls now s).map Prod.snd
  | .dispatch id now adapters => .ok (ContentionGovernor.dispatch id now adapters s).2
  | .authorizeAndDispatch id cls now now' adapters =>
    (ContentionGovernor.authorizeAndDispatch id cls now now' adapters s).map Prod.snd
  | .onAcknowledge id attempt now => .ok (ContentionGovernor.onAcknowledge id attempt now s).2
  | .onActionFailed id attempt note =>
    .ok (ContentionGovernor.onActionFailed id attempt note s).2
  | .submitPostActionEvidence e => .ok (ContentionGovernor.submitPostActionEvidence e s).2
  | .save => .ok s
  | .load opts readable file => (ContentionGovernor.load opts readable file s).map Prod.snd

/-- A step of the governor; a faulting operation has no step. -/
def step (s : GovernorState) (op : Op) : Option GovernorState := (op.run s).toOption

def Op.isLoad : Op → Bool
  | .load _ _ _ => true
  | _ => false

/-! ## Authorization -/

/-- The checks of `authorize` apart from the action budget, for a grant. -/
structure Passes (s : GovernorState) (id : ConflictId) (cls : InterventionClass) (now : TimeMs)
    (g : Grant) : Prop where
  conflict : s.engine.conflicts.find id = some g.conflict
  picked : ∃ p, pickCandidate (evaluate id s) = some p ∧ g.target = p.target ∧
    g.cls = if cls ≠ .noAction then cls else p.cls
  fence : ∃ generation, frontGeneration s.engine g.conflict = .ok generation ∧
    g.fence = makeFence s.engine.authority g.conflict.generation generation g.target ⟨1⟩
  valid : (revalidate s.engine g.fence g.target).code = .ok
  feasible : (checkFeasibility s.engine g.target g.cls g.fence).status = .feasible
  rested : inCooldown s.engine g.target g.cls now = false
  adapter : g.adapter = match (evaluate id s).decision with
    | some d => d.chosen.adapter
    | none => ""

/-- What the checks of `authorize` establish about the grant they return. -/
structure Granted (s : GovernorState) (id : ConflictId) (cls : InterventionClass) (now : TimeMs)
    (g : Grant) : Prop extends Passes s id cls now g where
  inBudget : budgetExhausted s.engine.policy.budget g.cls = false

theorem granted_of_checks {s : GovernorState} {id : ConflictId} {cls : InterventionClass}
    {now : TimeMs} {g : Grant} (h : authorizeChecks s id cls now = .ok (some g)) :
    Granted s id cls now g := by
  unfold authorizeChecks at h
  dsimp only at h
  cases hc : s.engine.conflicts.find id with
  | none => rw [hc] at h; cases h
  | some c =>
    rw [hc] at h
    dsimp only at h
    cases hp : pickCandidate (evaluateConflict s.engine id s.engine.authority) with
    | none => rw [hp] at h; cases h
    | some p =>
      rw [hp] at h
      dsimp only at h
      cases hgen : frontGeneration s.engine c with
      | error e => rw [hgen] at h; cases h
      | ok generation =>
        rw [hgen, ok_bind] at h
        generalize hchosen : (if cls ≠ .noAction then cls else p.cls) = chosen at h
        split_ifs at h with hvalid hfeasible hbudget hrest <;> cases h
        exact
          { conflict := hc
            picked := ⟨p, hp, rfl, hchosen.symm⟩
            fence := ⟨generation, hgen, rfl⟩
            valid := not_not.mp hvalid
            feasible := not_not.mp hfeasible
            inBudget := Bool.eq_false_of_not_eq_true hbudget
            rested := Bool.eq_false_of_not_eq_true hrest
            adapter := rfl }

theorem checks_of_granted {s : GovernorState} {id : ConflictId} {cls : InterventionClass}
    {now : TimeMs} {g : Grant} (h : Granted s id cls now g) :
    authorizeChecks s id cls now = .ok (some g) := by
  obtain ⟨p, hp, htarget, hcls⟩ := h.picked
  obtain ⟨generation, hgeneration, hfence⟩ := h.fence
  have hp' : pickCandidate (evaluateConflict s.engine id s.engine.authority) = some p := hp
  have hvalid := h.valid
  have hfeasible := h.feasible
  have hbudget := h.inBudget
  have hrest := h.rested
  have hadapter := h.adapter
  obtain ⟨c, chosen, target, f, adapter⟩ := g
  dsimp only at htarget hcls hgeneration hfence hvalid hfeasible hbudget hrest hadapter
  subst htarget hcls hfence
  unfold authorizeChecks
  dsimp only
  rw [h.conflict]
  dsimp only
  rw [hp']
  dsimp only
  rw [hgeneration, ok_bind, if_neg (not_not.mpr hvalid), if_neg (not_not.mpr hfeasible),
    if_neg (Bool.eq_false_iff.mp hbudget), if_neg (Bool.eq_false_iff.mp hrest), hadapter]
  rfl

/-- A candidate is picked only when there is a decision: the search for a feasible
candidate without one finds nothing. -/
theorem decision_of_pick {s : GovernorState} {id : ConflictId} {p : InterventionCandidate}
    (h : pickCandidate (evaluate id s) = some p) :
    ∃ d, (evaluate id s).decision = some d ∧ p = d.chosen := by
  rcases evaluateConflict_cases s.engine id s.engine.authority with
    ⟨hnone, hcands⟩ | ⟨c, primary, d, hd, -, -⟩
  · rw [pickCandidate, evaluate, hnone] at h
    have hmem := List.mem_of_find?_eq_some h
    have hfeasible := List.find?_some h
    have hin : p ∈ feasibleCandidates (evaluateConflict s.engine id s.engine.authority).candidates :=
      List.mem_filter.mpr ⟨hmem, hfeasible⟩
    rw [hcands] at hin
    cases hin
  · rw [pickCandidate, evaluate, hd] at h
    cases h
    exact ⟨d, hd, rfl⟩

theorem pickCandidate_some {s : GovernorState} {id : ConflictId} {p : InterventionCandidate}
    (h : pickCandidate (evaluate id s) = some p) :
    ∃ c primary d, Decided s.engine id s.engine.authority c primary d ∧ p = d.chosen := by
  obtain ⟨d, hd, rfl⟩ := decision_of_pick h
  obtain ⟨c, primary, hdec, -⟩ := decided_of_decision hd
  exact ⟨c, primary, d, hdec, rfl⟩

theorem checks_of_no_candidate {s : GovernorState} {id : ConflictId} {cls : InterventionClass}
    {now : TimeMs} (h : pickCandidate (evaluate id s) = none) :
    authorizeChecks s id cls now = .ok none := by
  unfold authorizeChecks
  dsimp only
  cases s.engine.conflicts.find id with
  | none => rfl
  | some c =>
    dsimp only
    rw [show pickCandidate (evaluateConflict s.engine id s.engine.authority) = none from h]
    rfl

theorem authorize_of_checks_none {s : GovernorState} {id : ConflictId} {cls : InterventionClass}
    {now : TimeMs} (h : authorizeChecks s id cls now = .ok none) :
    authorize id cls now s = .ok (none, s) := by
  rw [authorize, h]
  rfl

theorem authorize_cases {s : GovernorState} {id : ConflictId} {cls : InterventionClass}
    {now : TimeMs} {r : Option InterventionId × GovernorState}
    (h : authorize id cls now s = .ok r) :
    (authorizeChecks s id cls now = .ok none ∧ r = (none, s)) ∨
    ∃ g, authorizeChecks s id cls now = .ok (some g) ∧
      r = (some ⟨s.nextInterventionId⟩, commitGrant s id g now) := by
  unfold authorize at h
  cases hchecks : authorizeChecks s id cls now with
  | error e => rw [hchecks] at h; cases h
  | ok o =>
    rw [hchecks, ok_bind] at h
    cases o with
    | none => cases h; exact .inl ⟨rfl, rfl⟩
    | some g => cases h; exact .inr ⟨g, rfl, rfl⟩

theorem authorizeAndDispatch_cases {s : GovernorState} {id : ConflictId}
    {cls : InterventionClass} {now now' : TimeMs} {adapters : Option AdapterRegistry}
    {r : Status × GovernorState} (h : authorizeAndDispatch id cls now now' adapters s = .ok r) :
    r.2 = s ∨ ∃ g, authorizeChecks s id cls now = .ok (some g) ∧
      r = dispatch ⟨s.nextInterventionId⟩ now' adapters (commitGrant s id g now) := by
  unfold authorizeAndDispatch at h
  split_ifs at h with hbudget
  · cases h
    exact .inl rfl
  · cases hauth : authorize id cls now s with
    | error e => rw [hauth] at h; cases h
    | ok x =>
      rw [hauth, ok_bind] at h
      rcases authorize_cases hauth with ⟨-, rfl⟩ | ⟨g, hg, rfl⟩
      · cases h
        exact .inl rfl
      · cases h
        exact .inr ⟨g, hg, rfl⟩

theorem authorize_of_granted {s : GovernorState} {id : ConflictId} {cls : InterventionClass}
    {now : TimeMs} {g : Grant} (h : Granted s id cls now g) :
    authorize id cls now s = .ok (some ⟨s.nextInterventionId⟩, commitGrant s id g now) := by
  rw [authorize, checks_of_granted h]
  rfl

/-- The early test of `authorize_and_dispatch` refuses nothing that is granted. -/
theorem Granted.not_refused_early {s : GovernorState} {id : ConflictId} {cls : InterventionClass}
    {now : TimeMs} {g : Grant} (h : Granted s id cls now g) :
    ¬(cls ≠ .noAction ∧ budgetExhausted s.engine.policy.budget cls) := by
  rintro ⟨hcls, hexhausted⟩
  obtain ⟨p, -, -, hchosen⟩ := h.picked
  have hin := h.inBudget
  rw [hchosen, if_pos hcls, hexhausted] at hin
  cases hin

theorem authorizeAndDispatch_of_granted {s : GovernorState} {id : ConflictId}
    {cls : InterventionClass} {now : TimeMs} {g : Grant} (h : Granted s id cls now g)
    (now' : TimeMs) (adapters : Option AdapterRegistry) :
    authorizeAndDispatch id cls now now' adapters s =
      .ok (dispatch ⟨s.nextInterventionId⟩ now' adapters (commitGrant s id g now)) := by
  rw [authorizeAndDispatch, if_neg h.not_refused_early, authorize_of_granted h]
  rfl

/-- The request an operation makes to `authorize`. -/
def Op.request : Op → Option (ConflictId × InterventionClass × TimeMs)
  | .authorize id cls now | .authorizeAndDispatch id cls now _ _ => some (id, cls, now)
  | _ => none

/-- The grant that an operation commits. -/
def Op.grant (s : GovernorState) (op : Op) : Option Grant :=
  op.request.bind fun (id, cls, now) => (authorizeChecks s id cls now).toOption.join

theorem grant_eq_some {s : GovernorState} {op : Op} {g : Grant} : op.grant s = some g ↔
    ∃ id cls now, op.request = some (id, cls, now) ∧ Granted s id cls now g := by
  constructor
  · intro h
    obtain ⟨⟨id, cls, now⟩, hrequest, hchecks⟩ := Option.bind_eq_some_iff.mp h
    dsimp only at hchecks
    cases hx : authorizeChecks s id cls now with
    | error e =>
      rw [hx] at hchecks
      cases hchecks
    | ok o =>
      rw [hx] at hchecks
      cases hchecks
      exact ⟨id, cls, now, hrequest, granted_of_checks hx⟩
  · rintro ⟨id, cls, now, hrequest, hg⟩
    rw [Op.grant, hrequest, Option.bind_some]
    dsimp only
    rw [checks_of_granted hg]
    rfl

/-- The grant that an operation commits, with the clock reading it is made at. -/
def Op.grantAt (s : GovernorState) (op : Op) : Option (Grant × TimeMs) :=
  op.request.bind fun (_, _, now) => (op.grant s).map fun g => (g, now)

/-- The authorizations that an operation makes, with their clock readings. -/
def Op.authorizations (s : GovernorState) (op : Op) : List (Grant × TimeMs) :=
  (op.grantAt s).toList

theorem authorizations_of_grant {s : GovernorState} {op : Op} {id : ConflictId}
    {cls : InterventionClass} {now : TimeMs} {g : Grant}
    (hreq : op.request = some (id, cls, now)) (hg : op.grant s = some g) :
    op.authorizations s = [(g, now)] := by
  simp [Op.authorizations, Op.grantAt, hreq, hg]

theorem authorizations_of_none {s : GovernorState} {op : Op} (h : op.grant s = none) :
    op.authorizations s = [] := by
  simp [Op.authorizations, Op.grantAt, h]

/-! ## Records -/

/-- Two versions of a record that stand for the same authorized action. -/
structure SameAction (r r' : InterventionRecord) : Prop where
  cls : r'.cls = r.cls
  target : r'.target = r.target
  fence : r'.fence = r.fence
  conflictId : r'.conflictId = r.conflictId
  attemptId : r'.attemptId = r.attemptId

theorem SameAction.refl (r : InterventionRecord) : SameAction r r := ⟨rfl, rfl, rfl, rfl, rfl⟩

theorem SameAction.trans {r r' r'' : InterventionRecord} (h : SameAction r r')
    (h' : SameAction r' r'') : SameAction r r'' :=
  ⟨h'.cls.trans h.cls, h'.target.trans h.target, h'.fence.trans h.fence,
    h'.conflictId.trans h.conflictId, h'.attemptId.trans h.attemptId⟩

theorem sameAction_applyOutcome (res : AdapterResult) (r : InterventionRecord) :
    SameAction r (applyOutcome res r) := by
  unfold applyOutcome
  split <;> exact ⟨rfl, rfl, rfl, rfl, rfl⟩

/-- The lifecycle state an adapter outcome leads to. -/
def outcomeState : AdapterOutcome → LifecycleState
  | .accepted => .acknowledged
  | .unknown => .outcomeUnknown
  | .rejected | .unavailable => .failed

theorem applyOutcome_state (res : AdapterResult) (r : InterventionRecord) :
    (applyOutcome res r).state = outcomeState res.outcome := by
  unfold applyOutcome outcomeState
  cases res.outcome <;> rfl

namespace LifecycleState

/-- The states that a record in flight or waiting can be in. -/
def isLive : LifecycleState → Bool
  | .proposed | .authorized | .dispatched | .acknowledged => true
  | _ => false

/-- The states the lifecycle ends in. -/
def isTerminal : LifecycleState → Bool
  | .effective | .partiallyEffective | .ineffective | .failed | .cancelled | .superseded
  | .expired | .outcomeUnknown => true
  | _ => false

/-- The states before a dispatch has ended. -/
def isPending : LifecycleState → Bool
  | .proposed | .authorized | .dispatched => true
  | _ => false

theorem isTerminal_eq (s : LifecycleState) : s.isTerminal = !s.isLive := by cases s <;> rfl

end LifecycleState

theorem applyOutcome_not_pending (res : AdapterResult) (r : InterventionRecord) :
    ¬(applyOutcome res r).state.isPending := by
  rw [applyOutcome_state]
  cases res.outcome <;> exact Bool.false_ne_true

theorem outcomeStates_terminal (outcome : VerificationOutcome) :
    (outcomeStates outcome).1.isTerminal := by cases outcome <;> rfl

theorem not_pending_of_terminal {s : LifecycleState} (h : s.isTerminal) : ¬s.isPending := by
  cases s <;> first | exact Bool.false_ne_true | cases h

/-- The intervention that post-action evidence settles in a state, if any. -/
def settledBy (s : GovernorState) (input : InterferenceEvidence) : Option InterventionId :=
  if (validateEvidence input).isOk then
    (locateConflict s.engine.conflicts (assignEvidenceId input.derived s.nextEvidenceId).1).bind
      fun entry => (openIntervention s.engine entry.2.id).map Prod.fst
  else none

/-- How an operation can change the lifecycle state of the record under an id: no change
leads back to a pending state. -/
def Moves (s : GovernorState) (op : Op) (id : InterventionId) (r r' : InterventionRecord) : Prop :=
  r'.state = r.state ∨ ¬r'.state.isPending ∧
    match op with
    | .advanceEpoch => r.state.isLive
    | .dispatch j _ _ => j = id ∧ r.state = .authorized
    | .authorizeAndDispatch _ _ _ _ _ => id = ⟨s.nextInterventionId⟩ ∧ r.state = .authorized
    | .onAcknowledge j _ _ => j = id ∧ r.state = .dispatched
    | .onActionFailed j _ _ => j = id ∧ r'.state = .failed
    | .submitPostActionEvidence e => settledBy s e = some id ∧ r.state.isLive
    | _ => False

theorem not_live_of_terminal {s : LifecycleState} (h : s.isTerminal) : ¬s.isLive := by
  rw [LifecycleState.isTerminal_eq] at h
  simpa using h

/-- Only a failure report moves a terminal record. -/
theorem state_of_moves {s : GovernorState} {op : Op} {id : InterventionId}
    {r r' : InterventionRecord} (h : Moves s op id r r') (hr : r.state.isTerminal) :
    r'.state = r.state ∨ ∃ attempt note, op = .onActionFailed id attempt note ∧
      r'.state = .failed := by
  have hlive := not_live_of_terminal hr
  rcases h with h | ⟨-, h⟩
  · exact .inl h
  · cases op with
    | onActionFailed j attempt note =>
      obtain ⟨rfl, hstate⟩ := h
      exact .inr ⟨attempt, note, rfl, hstate⟩
    | advanceEpoch => exact absurd h hlive
    | submitPostActionEvidence e => exact absurd h.2 hlive
    | dispatch | authorizeAndDispatch | onAcknowledge =>
      rw [h.2] at hlive
      exact absurd rfl hlive
    | _ => cases h

/-- What a step can do to an existing record. -/
def RecordStep (s : GovernorState) (op : Op) (id : InterventionId) (r r' : InterventionRecord) :
    Prop := SameAction r r' ∧ Moves s op id r r'

theorem RecordStep.refl (s : GovernorState) (op : Op) (id : InterventionId)
    (r : InterventionRecord) : RecordStep s op id r r := ⟨SameAction.refl r, .inl rfl⟩

theorem related_refl (s : GovernorState) (op : Op)
    (m : OrderedMap InterventionId InterventionRecord) :
    OrderedMap.Related (RecordStep s op) m m :=
  OrderedMap.Related.refl (RecordStep.refl s op) m

/-! ## Dispatch -/

theorem dispatchBegin_ok {s s' : GovernorState} {id : InterventionId} {now : TimeMs}
    {t : DispatchTicket} (h : dispatchBegin id now s = (.ok t, s')) :
    ∃ i, s.engine.interventions.find id = some i ∧ i.state = .authorized ∧
      (revalidate s.engine i.fence i.target).code = .ok ∧
      t = ⟨id, i.cls, i.target, i.attemptId⟩ ∧
      s' = setIntervention { s with nextDispatchId := s.nextDispatchId + 1 } id
        { i with state := .dispatched, dispatchId := ⟨s.nextDispatchId⟩, dispatchedAt := now } := by
  unfold dispatchBegin at h
  split at h
  · cases h
  · rename_i i hi
    dsimp only at h
    split_ifs at h with hstate hvalid <;> cases h
    exact ⟨i, hi, not_not.mp hstate, not_not.mp hvalid, rfl, rfl⟩

theorem dispatchBegin_error {s s' : GovernorState} {id : InterventionId} {now : TimeMs}
    {e : Status} (h : dispatchBegin id now s = (.error e, s')) :
    s' = s ∨ ∃ i, s.engine.interventions.find id = some i ∧ i.state = .authorized ∧
      s' = setIntervention s id { i with state := .superseded } := by
  unfold dispatchBegin at h
  split at h
  · cases h
    exact .inl rfl
  · rename_i i hi
    dsimp only at h
    split_ifs at h with hstate hvalid <;> cases h
    · exact .inl rfl
    · exact .inr ⟨i, hi, not_not.mp hstate, rfl⟩

/-- The second critical section rewrites at most the record it is for. -/
theorem dispatchFinish_eq (id : InterventionId) (res : AdapterResult) (s : GovernorState) :
    (s.engine.interventions.find id = none ∧ (dispatchFinish id res s).2 = s) ∨
    ∃ i, s.engine.interventions.find id = some i ∧
      (dispatchFinish id res s).2 = setIntervention s id (applyOutcome res i) := by
  unfold dispatchFinish
  cases s.engine.interventions.find id with
  | none => exact .inl ⟨rfl, rfl⟩
  | some i => exact .inr ⟨i, rfl, rfl⟩

/-- Everything but the interventions and the dispatch counter is as before. -/
def OnlyInterventions (s s' : GovernorState) : Prop :=
  ∃ m n, s' = { s with
    engine := { s.engine with interventions := m }, nextDispatchId := n }

theorem OnlyInterventions.refl (s : GovernorState) : OnlyInterventions s s := ⟨_, _, rfl⟩

theorem onlyInterventions_set (s : GovernorState) (id : InterventionId)
    (i : InterventionRecord) : OnlyInterventions s (setIntervention s id i) := ⟨_, _, rfl⟩

theorem OnlyInterventions.trans {s s' s'' : GovernorState} (h : OnlyInterventions s s')
    (h' : OnlyInterventions s' s'') : OnlyInterventions s s'' := by
  obtain ⟨m, n, rfl⟩ := h
  obtain ⟨m', n', rfl⟩ := h'
  exact ⟨m', n', rfl⟩

theorem onlyInterventions_begin (id : InterventionId) (now : TimeMs) (s : GovernorState) :
    OnlyInterventions s (dispatchBegin id now s).2 := by
  cases h : dispatchBegin id now s with
  | mk r s' =>
    cases r with
    | error e =>
      rcases dispatchBegin_error h with rfl | ⟨i, -, -, rfl⟩
      · exact OnlyInterventions.refl _
      · exact onlyInterventions_set _ id _
    | ok t =>
      obtain ⟨i, -, -, -, -, rfl⟩ := dispatchBegin_ok h
      exact ⟨_, _, rfl⟩

theorem onlyInterventions_finish (id : InterventionId) (res : AdapterResult)
    (s : GovernorState) : OnlyInterventions s (dispatchFinish id res s).2 := by
  rcases dispatchFinish_eq id res s with ⟨-, h⟩ | ⟨i, -, h⟩ <;> rw [h]
  · exact OnlyInterventions.refl s
  · exact onlyInterventions_set s id _

theorem onlyInterventions_dispatch (id : InterventionId) (now : TimeMs)
    (adapters : Option AdapterRegistry) (s : GovernorState) :
    OnlyInterventions s (dispatch id now adapters s).2 := by
  have hbegin := onlyInterventions_begin id now s
  unfold dispatch
  split
  · rename_i h
    rw [h] at hbegin
    exact hbegin
  · rename_i h
    rw [h] at hbegin
    exact hbegin.trans (onlyInterventions_finish _ _ _)

/-- What a whole dispatch does to the records: only an authorized one under its id moves. -/
theorem dispatch_related (id : InterventionId) (now : TimeMs)
    (adapters : Option AdapterRegistry) (s : GovernorState) :
    OrderedMap.Related (fun j r r' => SameAction r r' ∧
        (r'.state = r.state ∨ ¬r'.state.isPending ∧ j = id ∧ r.state = .authorized))
      s.engine.interventions (dispatch id now adapters s).2.engine.interventions := by
  have hrefl : ∀ (j : InterventionId) (r : InterventionRecord),
      SameAction r r ∧ (r.state = r.state ∨ ¬r.state.isPending ∧ j = id ∧ r.state = .authorized) :=
    fun _ r => ⟨SameAction.refl r, .inl rfl⟩
  unfold dispatch
  split
  · -- Refused: the record is superseded or nothing happens.
    rename_i e s' h
    rcases dispatchBegin_error h with rfl | ⟨i, hi, hstate, rfl⟩
    · exact OrderedMap.Related.refl hrefl _
    · exact OrderedMap.Related.insert hrefl hi
        ⟨⟨rfl, rfl, rfl, rfl, rfl⟩, .inr ⟨Bool.false_ne_true, rfl, hstate⟩⟩
  · rename_i t s' h
    obtain ⟨i, hi, hstate, -, rfl, rfl⟩ := dispatchBegin_ok h
    rcases dispatchFinish_eq id (callAdapter adapters ⟨id, i.cls, i.target, i.attemptId⟩)
      (setIntervention { s with nextDispatchId := s.nextDispatchId + 1 } id
        { i with state := .dispatched, dispatchId := ⟨s.nextDispatchId⟩, dispatchedAt := now })
      with ⟨hnone, -⟩ | ⟨i', hi', hfin⟩
    · simp [setIntervention] at hnone
    · rw [hfin]
      simp only [setIntervention, OrderedMap.find_insert_self, Option.some.injEq] at hi'
      simp only [setIntervention, OrderedMap.insert_insert]
      refine OrderedMap.Related.insert hrefl hi
        ⟨?_, .inr ⟨applyOutcome_not_pending _ i', rfl, hstate⟩⟩
      have hsame := sameAction_applyOutcome
        (callAdapter adapters ⟨id, i.cls, i.target, i.attemptId⟩) i'
      rw [← hi'] at hsame ⊢
      exact ⟨hsame.cls, hsame.target, hsame.fence, hsame.conflictId, hsame.attemptId⟩

/-- The dispatch of an authorized record with a valid fence. -/
theorem dispatch_of_valid {s : GovernorState} {id : InterventionId} {i : InterventionRecord}
    (hi : s.engine.interventions.find id = some i) (hstate : i.state = .authorized)
    (hvalid : (revalidate s.engine i.fence i.target).code = .ok) (now : TimeMs)
    (adapters : Option AdapterRegistry) :
    (dispatch id now adapters s).2 =
      setIntervention { s with nextDispatchId := s.nextDispatchId + 1 } id
        (applyOutcome (callAdapter adapters ⟨id, i.cls, i.target, i.attemptId⟩)
          { i with state := .dispatched, dispatchId := ⟨s.nextDispatchId⟩, dispatchedAt := now }) := by
  unfold dispatch dispatchBegin
  rw [hi]
  dsimp only
  rw [if_neg (not_not.mpr hstate), if_neg (not_not.mpr hvalid)]
  unfold dispatchFinish setIntervention
  dsimp only
  rw [OrderedMap.find_insert_self]
  dsimp only
  rw [OrderedMap.insert_insert]

/-- A dispatch leaves the state, or supersedes a record with a stale fence, or takes one with
a valid fence through both sections. -/
theorem dispatch_cases (id : InterventionId) (now : TimeMs) (adapters : Option AdapterRegistry)
    (s : GovernorState) :
    (dispatch id now adapters s).2 = s ∨
    (∃ i, s.engine.interventions.find id = some i ∧ i.state = .authorized ∧
      (dispatch id now adapters s).2 = setIntervention s id { i with state := .superseded }) ∨
    ∃ i, s.engine.interventions.find id = some i ∧ i.state = .authorized ∧
      (revalidate s.engine i.fence i.target).code = .ok ∧ (dispatch id now adapters s).2 =
        setIntervention { s with nextDispatchId := s.nextDispatchId + 1 } id
          (applyOutcome (callAdapter adapters ⟨id, i.cls, i.target, i.attemptId⟩)
            { i with
              state := .dispatched, dispatchId := ⟨s.nextDispatchId⟩, dispatchedAt := now }) := by
  cases hbegin : dispatchBegin id now s with
  | mk r s' =>
    cases r with
    | error e =>
      have hend : (dispatch id now adapters s).2 = s' := by
        unfold dispatch
        rw [hbegin]
      rw [hend]
      rcases dispatchBegin_error hbegin with rfl | ⟨i, hi, hstate, rfl⟩
      · exact .inl rfl
      · exact .inr (.inl ⟨i, hi, hstate, rfl⟩)
    | ok t =>
      obtain ⟨i, hi, hstate, hvalid, -, -⟩ := dispatchBegin_ok hbegin
      exact .inr (.inr ⟨i, hi, hstate, hvalid, dispatch_of_valid hi hstate hvalid now adapters⟩)

/-! ## Evidence -/

/-- Ingesting writes evidence and conflicts, and their counters. -/
theorem ingestEvidence_frame (e : InterferenceEvidence) (s : GovernorState) :
    ∃ evidence conflicts n m, (ingestEvidence e s).2 = { s with
      engine := { s.engine with evidence := evidence, conflicts := conflicts }
      nextEvidenceId := n, nextConflictId := m } := by
  unfold ingestEvidence storeEvidence
  by_cases hv : (validateEvidence e).isOk
  · simp only [hv, not_true_eq_false, if_false]
    split <;> exact ⟨_, _, _, _, rfl⟩
  · simp only [hv]
    exact ⟨_, _, _, _, rfl⟩

/-- Verifying writes evidence, conflicts, interventions and fairness. -/
theorem submitPostActionEvidence_frame (e : InterferenceEvidence) (s : GovernorState) :
    ∃ evidence conflicts interventions fairness n, (submitPostActionEvidence e s).2 = { s with
      engine := { s.engine with
        evidence := evidence, conflicts := conflicts, interventions := interventions
        fairness := fairness }
      nextEvidenceId := n } := by
  unfold submitPostActionEvidence verifyEvidence settleIntervention
  by_cases hv : (validateEvidence e).isOk
  · simp only [hv, not_true_eq_false, if_false]
    split
    · exact ⟨_, _, _, _, _, rfl⟩
    · split <;> exact ⟨_, _, _, _, _, rfl⟩
  · simp only [hv]
    exact ⟨_, _, _, _, _, rfl⟩

theorem openIntervention_spec {s : EngineState} {cid : ConflictId}
    {entry : InterventionId × InterventionRecord} (h : openIntervention s cid = some entry) :
    s.interventions.find entry.1 = some entry.2 ∧ entry.2.state.isLive := by
  have hmem := List.mem_of_find?_eq_some h
  have hopen := List.find?_some h
  simp only [decide_eq_true_eq] at hopen
  refine ⟨OrderedMap.mem_entries.mp hmem, ?_⟩
  rcases hopen.2 with h | h | h <;> rw [h] <;> rfl

/-- The records after post-action evidence: the open one it settles, if any, is rewritten. -/
theorem submit_related (input : InterferenceEvidence) (s : GovernorState) :
    OrderedMap.Related (RecordStep s (.submitPostActionEvidence input)) s.engine.interventions
      (submitPostActionEvidence input s).2.engine.interventions := by
  have hrefl := related_refl s (.submitPostActionEvidence input) s.engine.interventions
  by_cases hv : (validateEvidence input).isOk
  · unfold submitPostActionEvidence verifyEvidence
    simp only [hv, not_true_eq_false, if_false]
    split
    · exact hrefl
    · rename_i entry cid c hloc
      split
      · exact hrefl
      · rename_i entry' iid i hopen
        obtain ⟨hfind, hlive⟩ := openIntervention_spec hopen
        have hsettled : settledBy s input = some iid := by
          rw [settledBy, if_pos hv, hloc]
          exact congrArg (Option.map Prod.fst) hopen
        exact OrderedMap.Related.insert (RecordStep.refl s _) hfind
          ⟨⟨rfl, rfl, rfl, rfl, rfl⟩, .inr
            ⟨not_pending_of_terminal (outcomeStates_terminal _), hsettled, hlive⟩⟩
  · simpa [submitPostActionEvidence, hv] using hrefl

theorem settled_not_pending {s : GovernorState} {e : InterferenceEvidence} {id : InterventionId}
    {r : InterventionRecord} (h : settledBy s e = some id)
    (hr : (submitPostActionEvidence e s).2.engine.interventions.find id = some r) :
    ¬r.state.isPending := by
  unfold settledBy at h
  split_ifs at h with hv
  obtain ⟨⟨cid, c⟩, hloc, hopen⟩ := Option.bind_eq_some_iff.mp h
  obtain ⟨⟨iid, i⟩, hi, rfl⟩ := Option.map_eq_some_iff.mp hopen
  unfold submitPostActionEvidence verifyEvidence at hr
  simp only [hv, not_true_eq_false, if_false, hloc] at hr
  split at hr
  · rename_i hnone
    exact absurd (hnone.symm.trans hi) (by simp)
  · rename_i j k hsome
    cases hsome.symm.trans hi
    simp only [settleIntervention, OrderedMap.find_insert_self, Option.some.injEq] at hr
    rw [← hr]
    exact not_pending_of_terminal (outcomeStates_terminal _)

/-! ## Steps -/

theorem setPolicy_frame (p : ContentionPolicy) (s : GovernorState) :
    ∃ policy generation, (setPolicy p s).2 = { s with engine := { s.engine with
      policy := policy
      authority := { s.engine.authority with policyGeneration := generation } } } := by
  unfold setPolicy
  by_cases hv : (validatePolicy p).isOk
  · simp only [hv, not_true_eq_false, if_false]
    exact ⟨_, _, rfl⟩
  · simp only [hv]
    exact ⟨_, _, rfl⟩

theorem setPolicy_policy {p : ContentionPolicy} (s : GovernorState)
    (hp : (validatePolicy p).isOk) : (setPolicy p s).2.engine.policy = p := by
  simp only [setPolicy, hp, not_true_eq_false, if_false]

theorem setPolicy_of_invalid {p : ContentionPolicy} {s : GovernorState}
    (hp : ¬(validatePolicy p).isOk) : (setPolicy p s).2 = s := by
  unfold setPolicy
  simp only [hp]
  rfl

theorem setIntervention_related {s : GovernorState} {op : Op} {id : InterventionId}
    {r r' : InterventionRecord} (hr : s.engine.interventions.find id = some r)
    (h : RecordStep s op id r r') :
    OrderedMap.Related (RecordStep s op) s.engine.interventions
      (setIntervention s id r').engine.interventions :=
  OrderedMap.Related.insert (RecordStep.refl s op) hr h

theorem onAcknowledge_related (id : InterventionId) (attempt : AttemptId) (now : TimeMs)
    (s : GovernorState) :
    OrderedMap.Related (RecordStep s (.onAcknowledge id attempt now)) s.engine.interventions
      (onAcknowledge id attempt now s).2.engine.interventions := by
  unfold onAcknowledge
  split
  · exact related_refl s _ _
  · rename_i r hr
    split_ifs with hstate
    · exact related_refl s _ _
    · exact setIntervention_related hr
        ⟨⟨rfl, rfl, rfl, rfl, rfl⟩, .inr ⟨Bool.false_ne_true, rfl, not_not.mp hstate⟩⟩

theorem onActionFailed_related (id : InterventionId) (attempt : AttemptId) (note : ByteString)
    (s : GovernorState) :
    OrderedMap.Related (RecordStep s (.onActionFailed id attempt note)) s.engine.interventions
      (onActionFailed id attempt note s).2.engine.interventions := by
  unfold onActionFailed
  split
  · exact related_refl s _ _
  · rename_i r hr
    exact setIntervention_related hr
      ⟨⟨rfl, rfl, rfl, rfl, rfl⟩, .inr ⟨Bool.false_ne_true, rfl, rfl⟩⟩

theorem onlyInterventions_onAcknowledge (id : InterventionId) (attempt : AttemptId)
    (now : TimeMs) (s : GovernorState) :
    OnlyInterventions s (onAcknowledge id attempt now s).2 := by
  unfold onAcknowledge
  split
  · exact OnlyInterventions.refl s
  · split_ifs
    · exact OnlyInterventions.refl s
    · exact onlyInterventions_set s id _

theorem onlyInterventions_onActionFailed (id : InterventionId) (attempt : AttemptId)
    (note : ByteString) (s : GovernorState) :
    OnlyInterventions s (onActionFailed id attempt note s).2 := by
  unfold onActionFailed
  split
  · exact OnlyInterventions.refl s
  · exact onlyInterventions_set s id _

theorem abandonInFlight_step (s : GovernorState) (id : InterventionId)
    (r : InterventionRecord) : RecordStep s .advanceEpoch id r (abandonInFlight r) := by
  unfold abandonInFlight
  split_ifs with hlive
  · refine ⟨⟨rfl, rfl, rfl, rfl, rfl⟩, .inr ⟨Bool.false_ne_true, ?_⟩⟩
    rcases hlive with h | h | h | h <;> rw [h] <;> rfl
  · exact RecordStep.refl s _ id r

theorem dispatch_step (s : GovernorState) (id : InterventionId) (now : TimeMs)
    (adapters : Option AdapterRegistry) :
    OrderedMap.Related (RecordStep s (.dispatch id now adapters)) s.engine.interventions
      (dispatch id now adapters s).2.engine.interventions :=
  (dispatch_related id now adapters s).mono fun _ _ _ h =>
    ⟨h.1, h.2.imp_right fun hmove => ⟨hmove.1, hmove.2.1.symm, hmove.2.2⟩⟩

theorem map_toOption {α β ε : Type} {x : Except ε α} {f : α → β} {b : β}
    (h : (x.map f).toOption = some b) : ∃ a, x = .ok a ∧ b = f a := by
  cases x with
  | error e => cases h
  | ok a => cases h; exact ⟨a, rfl, rfl⟩

theorem eq_ok_of_toOption {α ε : Type} {x : Except ε α} {a : α} (h : x.toOption = some a) :
    x = .ok a := by
  cases x with
  | error e => cases h
  | ok b =>
    cases h
    rfl

theorem grant_eq_none {s : GovernorState} {op : Op} {id : ConflictId} {cls : InterventionClass}
    {now : TimeMs} (hreq : op.request = some (id, cls, now)) :
    op.grant s = none ↔ ∀ g, ¬Granted s id cls now g := by
  rw [Option.eq_none_iff_forall_ne_some]
  refine forall_congr' fun g => not_congr ?_
  rw [grant_eq_some]
  constructor
  · rintro ⟨id', cls', now', hreq', hg⟩
    rw [hreq] at hreq'
    cases hreq'
    exact hg
  · exact fun hg => ⟨id, cls, now, hreq, hg⟩

/-- A request leaves the state as it is or commits its grant; what a dispatch then does is
in the interventions. -/
theorem step_of_request {s s' : GovernorState} {op : Op} {id : ConflictId}
    {cls : InterventionClass} {now : TimeMs} (h : step s op = some s')
    (hreq : op.request = some (id, cls, now)) :
    (op.grant s = none ∧ s' = s) ∨
    ∃ g, op.grant s = some g ∧ Granted s id cls now g ∧
      OnlyInterventions (commitGrant s id g now) s' := by
  have hsome : ∀ {g}, Granted s id cls now g → op.grant s = some g := fun hg =>
    grant_eq_some.mpr ⟨id, cls, now, hreq, hg⟩
  cases op with
  | authorize =>
    cases hreq
    obtain ⟨r, hr, rfl⟩ := map_toOption h
    rcases authorize_cases hr with ⟨hnone, rfl⟩ | ⟨g, hg, rfl⟩
    · refine .inl ⟨(grant_eq_none rfl).mpr fun g hg => ?_, rfl⟩
      rw [checks_of_granted hg] at hnone
      cases hnone
    · have hgranted := granted_of_checks hg
      exact .inr ⟨g, hsome hgranted, hgranted, OnlyInterventions.refl _⟩
  | authorizeAndDispatch _ _ _ now' adapters =>
    cases hreq
    obtain ⟨r, hr, rfl⟩ := map_toOption h
    by_cases hgrant : ∃ g, Granted s id cls now g
    · obtain ⟨g, hg⟩ := hgrant
      rw [authorizeAndDispatch_of_granted hg] at hr
      cases hr
      exact .inr ⟨g, hsome hg, hg, onlyInterventions_dispatch _ now' adapters _⟩
    · refine .inl ⟨(grant_eq_none rfl).mpr (not_exists.mp hgrant), ?_⟩
      rcases authorizeAndDispatch_cases hr with hs | ⟨g, hg, -⟩
      · exact hs
      · exact absurd ⟨g, granted_of_checks hg⟩ hgrant
  | _ => cases hreq

/-- The parts of the state apart from the interventions. -/
inductive StatePart
  | policy | authority | evidence | conflicts | fairness | counters
deriving DecidableEq

/-- The parts that an operation can write. -/
def Op.writes : Op → List StatePart
  | .setPolicy _ => [.policy, .authority]
  | .setAuthority _ | .recordWorkerBoot _ _ | .recordWorkloadGeneration _ _ => [.authority]
  | .advanceEpoch => [.authority, .evidence, .conflicts, .fairness]
  | .ingestEvidence _ => [.evidence, .conflicts]
  | .submitPostActionEvidence _ => [.evidence, .conflicts, .fairness]
  | .authorize _ _ _ | .authorizeAndDispatch _ _ _ _ _ =>
    [.policy, .conflicts, .fairness, .counters]
  | .load _ _ _ => [.policy, .authority, .evidence, .conflicts, .fairness, .counters]
  | .evaluate _ | .dispatch _ _ _ | .onAcknowledge _ _ _ | .onActionFailed _ _ _ | .save => []

def Op.leaves (op : Op) (part : StatePart) : Prop := op.writes.contains part = false

/-- Each part that the operation leaves is as it was. -/
structure StepFrame (op : Op) (s s' : GovernorState) : Prop where
  policy : op.leaves .policy → s'.engine.policy = s.engine.policy
  authority : op.leaves .authority → s'.engine.authority = s.engine.authority
  evidence : op.leaves .evidence → s'.engine.evidence = s.engine.evidence
  conflicts : op.leaves .conflicts → s'.engine.conflicts = s.engine.conflicts
  fairness : op.leaves .fairness → s'.engine.fairness = s.engine.fairness
  counters : op.leaves .counters → s'.nextInterventionId = s.nextInterventionId ∧
    s'.nextAttemptId = s.nextAttemptId

theorem frame_of_interventions {s s' : GovernorState} (op : Op) (h : OnlyInterventions s s') :
    StepFrame op s s' := by
  obtain ⟨_, _, rfl⟩ := h
  constructor <;> intro _
  case counters => exact ⟨rfl, rfl⟩
  all_goals rfl

/-- What a step leaves as it was. -/
theorem step_frame {s s' : GovernorState} {op : Op} (h : step s op = some s') :
    StepFrame op s s' := by
  cases op with
  | setPolicy p =>
    cases h
    obtain ⟨_, _, hframe⟩ := setPolicy_frame p s
    rw [hframe]
    constructor <;> intro hleaves <;> first | rfl | exact ⟨rfl, rfl⟩ | cases hleaves
  | ingestEvidence e =>
    cases h
    obtain ⟨_, _, _, _, hframe⟩ := ingestEvidence_frame e s
    rw [hframe]
    constructor <;> intro hleaves <;> first | rfl | exact ⟨rfl, rfl⟩ | cases hleaves
  | submitPostActionEvidence e =>
    cases h
    obtain ⟨_, _, _, _, _, hframe⟩ := submitPostActionEvidence_frame e s
    rw [hframe]
    constructor <;> intro hleaves <;> first | rfl | exact ⟨rfl, rfl⟩ | cases hleaves
  | authorize | authorizeAndDispatch =>
    rcases step_of_request h rfl with ⟨-, rfl⟩ | ⟨g, -, -, _, _, rfl⟩ <;>
      constructor <;> intro hleaves <;> first | rfl | exact ⟨rfl, rfl⟩ | cases hleaves
  | dispatch id now adapters =>
    cases h
    exact frame_of_interventions _ (onlyInterventions_dispatch id now adapters s)
  | onAcknowledge id attempt now =>
    cases h
    exact frame_of_interventions _ (onlyInterventions_onAcknowledge id attempt now s)
  | onActionFailed id attempt note =>
    cases h
    exact frame_of_interventions _ (onlyInterventions_onActionFailed id attempt note s)
  | load => constructor <;> intro hleaves <;> cases hleaves
  | _ =>
    cases h
    constructor <;> intro hleaves <;> first | rfl | exact ⟨rfl, rfl⟩ | cases hleaves

/-- The records after a granted request: those that its grant has left, moved as a step of
the request moves them. -/
theorem related_of_granted {s s' : GovernorState} {op : Op} {id : ConflictId}
    {cls : InterventionClass} {now : TimeMs} {g : Grant} (h : step s op = some s')
    (hreq : op.request = some (id, cls, now)) (hg : Granted s id cls now g) :
    OrderedMap.Related (RecordStep s op) (commitGrant s id g now).engine.interventions
      s'.engine.interventions := by
  cases op with
  | authorize =>
    cases hreq
    obtain ⟨r, hr, rfl⟩ := map_toOption h
    rw [authorize_of_granted hg] at hr
    cases hr
    exact related_refl s _ _
  | authorizeAndDispatch _ _ _ now' adapters =>
    cases hreq
    obtain ⟨r, hr, rfl⟩ := map_toOption h
    rw [authorizeAndDispatch_of_granted hg] at hr
    cases hr
    exact (dispatch_related _ now' adapters (commitGrant s id g now)).mono fun _ _ _ hmove =>
      ⟨hmove.1, hmove.2⟩
  | _ => cases hreq

/-- The grant an operation commits, and the id of the record it creates. -/
def Authorizes (s : GovernorState) (op : Op) (id : InterventionId) (g : Grant) : Prop :=
  id = ⟨s.nextInterventionId⟩ ∧
    match op with
    | .authorize cid cls now | .authorizeAndDispatch cid cls now _ _ =>
      authorizeChecks s cid cls now = .ok (some g)
    | _ => False

theorem Authorizes.checks {s : GovernorState} {op : Op} {id : InterventionId} {g : Grant}
    (h : Authorizes s op id g) : ∃ cid cls now, authorizeChecks s cid cls now = .ok (some g) := by
  cases op with
  | authorize cid cls now => exact ⟨cid, cls, now, h.2⟩
  | authorizeAndDispatch cid cls now => exact ⟨cid, cls, now, h.2⟩
  | _ => exact h.2.elim

/-- A new record of a grant: its action is the one granted, and it is authorized. -/
structure IsGrant (g : Grant) (r : InterventionRecord) : Prop where
  cls : r.cls = g.cls
  target : r.target = g.target
  fence : r.fence = g.fence
  state : r.state = .authorized

theorem isGrant_grantRecord (s : GovernorState) (id : ConflictId) (g : Grant) (now : TimeMs) :
    IsGrant g (grantRecord s id g now) := ⟨rfl, rfl, rfl, rfl⟩

/-- A step moves existing records as `RecordStep` says, after it has placed at most one
new record, under the next id. -/
theorem step_interventions {s s' : GovernorState} {op : Op} (h : step s op = some s')
    (hload : ¬op.isLoad) :
    (s'.nextInterventionId = s.nextInterventionId ∧
      OrderedMap.Related (RecordStep s op) s.engine.interventions s'.engine.interventions) ∨
    ∃ g r, Authorizes s op ⟨s.nextInterventionId⟩ g ∧ IsGrant g r ∧
      s'.nextInterventionId = s.nextInterventionId + 1 ∧
      OrderedMap.Related (RecordStep s op)
        (s.engine.interventions.insert ⟨s.nextInterventionId⟩ r) s'.engine.interventions := by
  have hrefl := related_refl s op s.engine.interventions
  cases op with
  | setPolicy p =>
    cases h
    obtain ⟨_, _, hframe⟩ := setPolicy_frame p s
    rw [hframe]
    exact .inl ⟨rfl, hrefl⟩
  | setAuthority | recordWorkerBoot | recordWorkloadGeneration | evaluate | save =>
    cases h
    exact .inl ⟨rfl, hrefl⟩
  | advanceEpoch =>
    cases h
    exact .inl ⟨rfl, OrderedMap.Related.mapValues (abandonInFlight_step s) _⟩
  | ingestEvidence e =>
    cases h
    obtain ⟨_, _, _, _, hframe⟩ := ingestEvidence_frame e s
    rw [hframe]
    exact .inl ⟨rfl, hrefl⟩
  | authorize id cls now =>
    obtain ⟨r, hr, rfl⟩ := map_toOption h
    rcases authorize_cases hr with ⟨-, rfl⟩ | ⟨g, hg, rfl⟩
    · exact .inl ⟨rfl, hrefl⟩
    · exact .inr ⟨g, _, ⟨rfl, hg⟩, isGrant_grantRecord s id g now, rfl, related_refl s _ _⟩
  | dispatch id now adapters =>
    cases h
    have hrel := dispatch_step s id now adapters
    obtain ⟨_, _, hframe⟩ := onlyInterventions_dispatch id now adapters s
    exact .inl ⟨by rw [hframe], hrel⟩
  | authorizeAndDispatch id cls now now' adapters =>
    obtain ⟨r, hr, rfl⟩ := map_toOption h
    rcases authorizeAndDispatch_cases hr with hs | ⟨g, hg, rfl⟩
    · rw [hs]
      exact .inl ⟨rfl, hrefl⟩
    · obtain ⟨_, _, hframe⟩ := onlyInterventions_dispatch ⟨s.nextInterventionId⟩ now' adapters
        (commitGrant s id g now)
      refine .inr ⟨g, _, ⟨rfl, hg⟩, isGrant_grantRecord s id g now, by rw [hframe]; rfl, ?_⟩
      exact (dispatch_related _ now' adapters (commitGrant s id g now)).mono fun _ _ _ hmove =>
        ⟨hmove.1, hmove.2⟩
  | onAcknowledge id attempt now =>
    cases h
    have hrel := onAcknowledge_related id attempt now s
    obtain ⟨_, _, hframe⟩ := onlyInterventions_onAcknowledge id attempt now s
    exact .inl ⟨by rw [hframe], hrel⟩
  | onActionFailed id attempt note =>
    cases h
    have hrel := onActionFailed_related id attempt note s
    obtain ⟨_, _, hframe⟩ := onlyInterventions_onActionFailed id attempt note s
    exact .inl ⟨by rw [hframe], hrel⟩
  | submitPostActionEvidence e =>
    cases h
    have hrel := submit_related e s
    obtain ⟨_, _, _, _, _, hframe⟩ := submitPostActionEvidence_frame e s
    exact .inl ⟨by rw [hframe], hrel⟩
  | load => exact absurd rfl hload

/-- A record after a step was there before it, or the step has authorized it. -/
theorem record_before {s s' : GovernorState} {op : Op} (h : step s op = some s')
    (hload : ¬op.isLoad) {id : InterventionId} {r' : InterventionRecord}
    (hr' : s'.engine.interventions.find id = some r') :
    (∃ r, s.engine.interventions.find id = some r ∧ RecordStep s op id r r') ∨
    ∃ cid cls now g, op.request = some (cid, cls, now) ∧ op.grant s = some g ∧
      Granted s cid cls now g ∧ id = ⟨s.nextInterventionId⟩ ∧
      RecordStep s op id (grantRecord s cid g now) r' := by
  cases hreq : op.request with
  | none =>
    rcases step_interventions h hload with ⟨-, hrel⟩ | ⟨g, new, hauth, -⟩
    · exact .inl (hrel.exists_left hr')
    · obtain ⟨-, hrequest⟩ := hauth
      cases op with
      | authorize | authorizeAndDispatch => cases hreq
      | _ => exact hrequest.elim
  | some request =>
    obtain ⟨cid, cls, now⟩ := request
    rcases step_of_request h hreq with ⟨-, rfl⟩ | ⟨g, hgrant, hg, -⟩
    · exact .inl ⟨r', hr', RecordStep.refl _ op id r'⟩
    · obtain ⟨r, hr, hmove⟩ := (related_of_granted h hreq hg).exists_left hr'
      rcases OrderedMap.find_insert_cases hr with ⟨hid, rfl⟩ | ⟨-, hr⟩
      · exact .inr ⟨cid, cls, now, g, rfl, hgrant, hg, hid, hmove⟩
      · exact .inl ⟨r, hr, hmove⟩

/-- A record whose id the step does not take stays, and stays for the same action. -/
theorem record_kept {s s' : GovernorState} {op : Op} (h : step s op = some s')
    (hload : ¬op.isLoad) {id : InterventionId} {r : InterventionRecord}
    (hfree : (op.grant s).isSome → id ≠ ⟨s.nextInterventionId⟩)
    (hr : s.engine.interventions.find id = some r) :
    ∃ r', s'.engine.interventions.find id = some r' ∧ RecordStep s op id r r' := by
  cases hreq : op.request with
  | none =>
    rcases step_interventions h hload with ⟨-, hrel⟩ | ⟨g, new, hauth, -⟩
    · exact hrel.exists_right hr
    · obtain ⟨-, hrequest⟩ := hauth
      cases op with
      | authorize | authorizeAndDispatch => cases hreq
      | _ => exact hrequest.elim
  | some request =>
    obtain ⟨cid, cls, now⟩ := request
    rcases step_of_request h hreq with ⟨-, rfl⟩ | ⟨g, hgrant, hg, -⟩
    · exact ⟨r, hr, RecordStep.refl _ op id r⟩
    · apply (related_of_granted h hreq hg).exists_right
      have hne : id ≠ ⟨s.nextInterventionId⟩ := hfree (by rw [hgrant]; rfl)
      exact (OrderedMap.find_insert_of_ne _ hne _).trans hr

/-! ## A short run -/

/-- Workload 1 loses two fifths of its throughput next to workload 2. -/
def slowdown : InterferenceEvidence where
  victim := ⟨1⟩
  neighbors := [⟨2⟩]
  domain := .compute
  isolatedBaseline := 100.0
  coRunObservation := 60.0
  attribution := .controlledComparison
  confidence := 0.9
  sampleCount := 10
  status := .current

def registerNeighbor : List Op :=
  [.recordWorkerBoot ⟨2⟩ ⟨1⟩, .recordWorkloadGeneration ⟨2⟩ ⟨1⟩]

/-- The neighbor is registered, the slowdown observed and a throttle authorized. -/
def throttleNeighbor : List Op :=
  registerNeighbor ++ [.ingestEvidence slowdown, .authorize ⟨1⟩ .throttle 1000]

/-- An adapter that accepts every throttle. -/
def acceptingAdapter : AdapterRegistry where
  throttle := some fun attempt _ _ _ => ⟨.accepted, "", attempt⟩

def throttleable : WorkloadPolicy where
  workload := ⟨2⟩
  value := 0.5
  softSloTarget := some 0.25

/-- A throttle is accepted and then reported as lost, next to a second conflict that is
confounded; the neighbor has a policy of its own. -/
def lostThrottle : List Op :=
  registerNeighbor ++
    [.setPolicy { workloads := OrderedMap.empty.insert ⟨2⟩ throttleable },
      .ingestEvidence { slowdown with sourceId := "probe", sourceHealth := "healthy" },
      .ingestEvidence { slowdown with
        victim := ⟨3⟩, unresolvedConfounders := ["power cap"], status := .confounded },
      .authorizeAndDispatch ⟨1⟩ .throttle 1000 1500 (some acceptingAdapter),
      .onActionFailed ⟨1⟩ ⟨1⟩ "lost"]

/-- The state a run from the empty governor ends in. -/
def reached (ops : List Op) : GovernorState := (Runs.exec step {} ops).getD {}

theorem exec_reached {ops : List Op} (h : (Runs.exec step {} ops).isSome) :
    Runs.exec step {} ops = some (reached ops) :=
  Runs.exec_getD ({} : GovernorState) h

example : ((reached throttleNeighbor).engine.interventions.find ⟨1⟩).map (·.state) =
    some .authorized := by decide +kernel

example : ((reached lostThrottle).engine.interventions.find ⟨1⟩).map
    (fun r => (r.state, r.interimStatus.message)) =
      some (LifecycleState.failed, ("lost" : ByteString)) := by decide +kernel

end ContentionGovernor
