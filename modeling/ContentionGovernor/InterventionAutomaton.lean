import ContentionGovernor.DispatchSections
import ContentionGovernor.Lib.Simulation
import ContentionGovernor.Verification

/-!
# The life of an intervention

An intervention as an automaton of its own, with the adapter call of its dispatch, and every
interleaving of the sections of dispatches with other operations as a run of it.
-/

namespace ContentionGovernor

/-! ## The automaton -/

/-- What happens to an intervention.  `take` and `refuse` are the two ends of the first section
of a dispatch, and `answer` is the second one. -/
inductive InterventionEvent
  | grant
  | take
  | refuse
  | answer (outcome : AdapterOutcome)
  | acknowledge
  | fail
  | settle (outcome : VerificationOutcome)
  | restart

/-- The lifecycle state of an intervention, and whether its adapter call is running. -/
structure InterventionView where
  state : LifecycleState
  running : Bool
deriving DecidableEq

/-- The view after an event that is not the grant.  An answer is for a running call, and takes
the lifecycle state as it finds it; so does a failure report. -/
def InterventionView.after (v : InterventionView) : InterventionEvent → Option InterventionView
  | .grant => none
  | .take =>
    if v.state = .authorized ∧ v.running = false then some ⟨.dispatched, true⟩ else none
  | .refuse => if v.state = .authorized then some { v with state := .superseded } else none
  | .answer outcome => if v.running then some ⟨outcomeState outcome, false⟩ else none
  | .acknowledge => if v.state = .dispatched then some { v with state := .acknowledged } else none
  | .fail => some { v with state := .failed }
  | .settle outcome =>
    if v.state.isOpen then some { v with state := (outcomeStates outcome).1 } else none
  | .restart => some (if v.state.isLive then { v with state := .outcomeUnknown } else v)

/-- The next view, `none` before the grant. -/
def InterventionView.next (o : Option InterventionView) (e : InterventionEvent) :
    Option (Option InterventionView) :=
  match o, e with
  | none, .grant => some (some ⟨.authorized, false⟩)
  | none, _ => none
  | some v, e => (v.after e).map some

/-! ## Runs of the automaton -/

/-- The end of a first section. -/
@[simp] def InterventionEvent.isFirst : InterventionEvent → Bool
  | .take | .refuse => true
  | _ => false

@[simp] def InterventionEvent.isTake : InterventionEvent → Bool
  | .take => true
  | _ => false

@[simp] def InterventionEvent.isAnswer : InterventionEvent → Bool
  | .answer _ => true
  | _ => false

@[simp] def InterventionEvent.isSettle : InterventionEvent → Bool
  | .settle _ => true
  | _ => false

/-- The states that the automaton reaches. -/
def LifecycleState.isReached : LifecycleState → Bool
  | .proposed | .cancelled | .expired => false
  | _ => true

theorem outcomeState_reached (outcome : AdapterOutcome) :
    (outcomeState outcome).isReached ∧ outcomeState outcome ≠ .authorized := by
  cases outcome <;> decide

theorem outcomeStates_reached (outcome : VerificationOutcome) :
    (outcomeStates outcome).1.isReached ∧ (outcomeStates outcome).1 ≠ .authorized ∧
      (outcomeStates outcome).1.isOpen = false := by
  cases outcome <;> decide

/-- What an event that is not the grant needs and leaves, as far as the counts go. -/
structure Progresses (v : InterventionView) (e : InterventionEvent) (v' : InterventionView) :
    Prop where
  reached : v.state.isReached → v'.state.isReached
  authorized : v'.state = .authorized → v.state = .authorized ∧ e.isFirst = false
  first : e.isFirst → v.state = .authorized
  running : v'.running → v.running ∨ e.isTake
  answer : e.isAnswer → v.running ∧ v'.running = false
  opened : v'.state.isOpen → v.state.isOpen ∧ e.isSettle = false ∨ e.isAnswer
  settle : e.isSettle → v.state.isOpen

theorem progresses_of_after {v v' : InterventionView} {e : InterventionEvent}
    (h : v.after e = some v') : Progresses v e v' := by
  cases e with
  | grant => cases h
  | take =>
    obtain ⟨⟨hstate, hrunning⟩, ⟨⟩⟩ := Option.ite_none_right_eq_some.mp h
    constructor <;> simp [hstate, LifecycleState.isReached, LifecycleState.isOpen]
  | refuse =>
    obtain ⟨hstate, ⟨⟩⟩ := Option.ite_none_right_eq_some.mp h
    constructor <;> simp [hstate, LifecycleState.isReached, LifecycleState.isOpen]
  | answer outcome =>
    obtain ⟨hrunning, ⟨⟩⟩ := Option.ite_none_right_eq_some.mp h
    obtain ⟨hreached, hauthorized⟩ := outcomeState_reached outcome
    constructor <;> simp [hrunning, hreached, hauthorized]
  | acknowledge =>
    obtain ⟨hstate, ⟨⟩⟩ := Option.ite_none_right_eq_some.mp h
    constructor <;> simp [hstate, LifecycleState.isReached, LifecycleState.isOpen]
  | fail =>
    cases h
    constructor <;> simp [LifecycleState.isReached, LifecycleState.isOpen]
  | settle outcome =>
    obtain ⟨hopen, ⟨⟩⟩ := Option.ite_none_right_eq_some.mp h
    obtain ⟨hreached, hauthorized, hclosed⟩ := outcomeStates_reached outcome
    constructor <;> simp [hopen, hreached, hauthorized, hclosed]
  | restart =>
    cases h
    -- Only the record is abandoned: a call that is running goes on.
    split_ifs with hlive
    · constructor <;> simp [LifecycleState.isReached, LifecycleState.isOpen]
    · constructor <;> simp +contextual

theorem next_cases {o o' : Option InterventionView} {e : InterventionEvent}
    (h : InterventionView.next o e = some o') :
    (o = none ∧ e = .grant ∧ o' = some ⟨.authorized, false⟩) ∨
    ∃ v v', o = some v ∧ o' = some v' ∧ Progresses v e v' := by
  cases o with
  | none =>
    cases e with
    | grant =>
      cases h
      exact .inl ⟨rfl, rfl, rfl⟩
    | _ => cases h
  | some v =>
    obtain ⟨v', hv', rfl⟩ := Option.map_eq_some_iff.mp h
    exact .inr ⟨v, v', rfl, rfl, progresses_of_after hv'⟩

/-- One first section ends before the record leaves AUTHORIZED, and none after. -/
def firstsLeft (o : Option InterventionView) : ℕ :=
  o.elim 1 fun v => if v.state = .authorized then 1 else 0

def runningCalls (o : Option InterventionView) : ℕ := o.elim 0 fun v => if v.running then 1 else 0

def settlesLeft (o : Option InterventionView) : ℕ :=
  o.elim 1 fun v => if v.state.isOpen then 1 else 0

theorem firstsLeft_next {o o' : Option InterventionView} {e : InterventionEvent}
    (h : InterventionView.next o e = some o') :
    firstsLeft o' + (if e.isFirst then 1 else 0) ≤ firstsLeft o := by
  rcases next_cases h with ⟨rfl, rfl, rfl⟩ | ⟨v, v', rfl, rfl, hadv⟩
  · decide
  · have hauthorized := hadv.authorized
    have hfirst := hadv.first
    unfold firstsLeft
    dsimp only [Option.elim]
    split_ifs <;> simp_all

theorem runningCalls_next {o o' : Option InterventionView} {e : InterventionEvent}
    (h : InterventionView.next o e = some o') :
    runningCalls o' + (if e.isAnswer then 1 else 0) ≤
      runningCalls o + if e.isTake then 1 else 0 := by
  rcases next_cases h with ⟨rfl, rfl, rfl⟩ | ⟨v, v', rfl, rfl, hadv⟩
  · decide
  · have hrunning := hadv.running
    have hanswer := hadv.answer
    unfold runningCalls
    dsimp only [Option.elim]
    split_ifs <;> simp_all

theorem settlesLeft_next {o o' : Option InterventionView} {e : InterventionEvent}
    (h : InterventionView.next o e = some o') :
    settlesLeft o' + (if e.isSettle then 1 else 0) ≤
      settlesLeft o + if e.isAnswer then 1 else 0 := by
  rcases next_cases h with ⟨rfl, rfl, rfl⟩ | ⟨v, v', rfl, rfl, hadv⟩
  · decide
  · have hopened := hadv.opened
    have hsettle := hadv.settle
    unfold settlesLeft
    dsimp only [Option.elim]
    split_ifs <;> simp_all

/-- What settles an intervention twice answers for it in between. -/
theorem answer_between {o o' : Option InterventionView} {pre mid post : List InterventionEvent}
    {a b : InterventionEvent}
    (h : Runs.exec InterventionView.next o (pre ++ a :: (mid ++ b :: post)) = some o')
    (ha : a.isSettle) (hb : b.isSettle) : ∃ e ∈ mid, e.isAnswer := by
  obtain ⟨u, -, h⟩ := Runs.exec_append.mp h
  have hsplit : a :: (mid ++ b :: post) = (a :: (mid ++ [b])) ++ post := by simp
  rw [hsplit] at h
  obtain ⟨u', h, -⟩ := Runs.exec_append.mp h
  have hsettles : ∀ o e o', InterventionView.next o e = some o' →
      settlesLeft o' + (if e.isSettle then 1 else 0) ≤
        settlesLeft o + if e.isAnswer then 1 else 0 := fun _ _ _ => settlesLeft_next
  have hcount := Runs.countP_le_of_measure settlesLeft hsettles h
  have hleft : settlesLeft u ≤ 1 := by
    unfold settlesLeft
    cases u with
    | none => exact le_rfl
    | some v =>
      dsimp only [Option.elim]
      split_ifs <;> decide
  -- The two settles are no answers themselves.
  have hnot : ∀ e : InterventionEvent, e.isSettle → ¬e.isAnswer := by
    intro e he
    cases e with
    | settle => exact Bool.false_ne_true
    | _ => cases he
  rw [List.countP_cons_of_pos ha, List.countP_append, List.countP_cons_of_pos hb,
    List.countP_cons_of_neg (hnot a ha), List.countP_append, List.countP_cons_of_neg (hnot b hb),
    List.countP_nil, List.countP_nil] at hcount
  have hanswers : 0 < mid.countP InterventionEvent.isAnswer := by omega
  exact List.countP_pos_iff.mp hanswers

/-! ## What the governor emits -/

/-- The record under an id, as the automaton sees it. -/
def lifecycleView (running : Bool) (id : InterventionId) (s : GovernorState) :
    Option InterventionView :=
  (s.engine.interventions.find id).map fun r => ⟨r.state, running⟩

/-- What the first section of a dispatch is to its record, with what follows on a ticket. -/
def firstSection (followed : DispatchTicket → List InterventionEvent) (id : InterventionId)
    (s : GovernorState) : List InterventionEvent :=
  match s.engine.interventions.find id with
  | none => []
  | some i =>
    if i.state ≠ .authorized then []
    else if (revalidate s.engine i.fence i.target).code ≠ .ok then [.refuse]
    else .take :: followed ⟨id, i.cls, i.target, i.attemptId⟩

/-- The answer of the adapter to a ticket. -/
def answerOf (adapters : Option AdapterRegistry) (t : DispatchTicket) : List InterventionEvent :=
  [.answer (callAdapter adapters t).outcome]

/-- What an operation is to the intervention under an id. -/
def Op.interventionEvents (id : InterventionId) (s : GovernorState) (op : Op) :
    List InterventionEvent :=
  match op with
  | .authorize _ _ _ =>
    if id = ⟨s.nextInterventionId⟩ ∧ (op.grant s).isSome then [.grant] else []
  | .authorizeAndDispatch cid _ now _ adapters =>
    match op.grant s with
    | none => []
    | some g =>
      if id = ⟨s.nextInterventionId⟩ then
        .grant :: firstSection (answerOf adapters) id (commitGrant s cid g now)
      else []
  | .dispatch j _ adapters => if id = j then firstSection (answerOf adapters) id s else []
  | .onAcknowledge j _ _ =>
    if id = j ∧ (s.engine.interventions.find id).any (·.state = .dispatched) then [.acknowledge]
    else []
  | .onActionFailed j _ _ =>
    if id = j ∧ (s.engine.interventions.find id).isSome then [.fail] else []
  | .submitPostActionEvidence input =>
    match closing s input with
    | some v => if id = v.id then [.settle (verdict s input v)] else []
    | none => []
  | .advanceEpoch => if (s.engine.interventions.find id).isSome then [.restart] else []
  | _ => []

section Step

variable {s s' : GovernorState} {id : InterventionId} {running : Bool}

/-- What is nothing to the record leaves it. -/
theorem lifecycle_quiet {es : List InterventionEvent} (hes : es = [])
    (hsame : s'.engine.interventions.find id = s.engine.interventions.find id) :
    Runs.exec InterventionView.next (lifecycleView running id s) es =
      some (lifecycleView running id s') := by
  rw [hes, lifecycleView, lifecycleView, hsame]
  rfl

theorem lifecycleView_set (i : InterventionRecord) :
    lifecycleView running id (setIntervention s id i) = some ⟨i.state, running⟩ := by
  rw [lifecycleView, setIntervention]
  dsimp only
  rw [OrderedMap.find_insert_self, Option.map_some]

/-- A call is running only for a record that has left AUTHORIZED. -/
def Idle (running : Bool) (id : InterventionId) (s : GovernorState) : Prop :=
  running = true → ∃ r, s.engine.interventions.find id = some r ∧ r.state ≠ .authorized

theorem Idle.not_running (h : Idle running id s) {i : InterventionRecord}
    (hi : s.engine.interventions.find id = some i) (hstate : i.state = .authorized) :
    running = false := by
  cases hrunning : running with
  | false => rfl
  | true =>
    obtain ⟨r, hr, hne⟩ := h hrunning
    rw [hi, Option.some.injEq] at hr
    rw [hr] at hstate
    exact absurd hstate hne

theorem Idle.not_running_of_none (h : Idle running id s)
    (hnone : s.engine.interventions.find id = none) : running = false := by
  cases hrunning : running with
  | false => rfl
  | true =>
    obtain ⟨r, hr, -⟩ := h hrunning
    rw [hnone] at hr
    cases hr

/-- The first section leaves the state, or supersedes an authorized record, or takes it to the
adapter; and that is what the record sees. -/
theorem firstSection_cases (id : InterventionId) (now : TimeMs) (s : GovernorState) :
    ((∀ followed, firstSection followed id s = []) ∧
      ∃ e, dispatchBegin id now s = (.error e, s)) ∨
    (∃ i e, s.engine.interventions.find id = some i ∧ i.state = .authorized ∧
      (∀ followed, firstSection followed id s = [.refuse]) ∧
      dispatchBegin id now s = (.error e, setIntervention s id { i with state := .superseded })) ∨
    ∃ i, s.engine.interventions.find id = some i ∧ i.state = .authorized ∧
      (∀ followed, firstSection followed id s =
        .take :: followed ⟨id, i.cls, i.target, i.attemptId⟩) ∧
      dispatchBegin id now s = (.ok ⟨id, i.cls, i.target, i.attemptId⟩,
        setIntervention { s with nextDispatchId := s.nextDispatchId + 1 } id
          { i with
            state := .dispatched, dispatchId := ⟨s.nextDispatchId⟩, dispatchedAt := now }) := by
  unfold firstSection dispatchBegin
  cases s.engine.interventions.find id with
  | none => exact .inl ⟨fun _ => rfl, _, rfl⟩
  | some i =>
    dsimp only
    by_cases hstate : i.state = .authorized
    · rw [if_neg (not_not.mpr hstate)]
      simp only [if_neg (not_not.mpr hstate)]
      by_cases hvalid : (revalidate s.engine i.fence i.target).code = .ok
      · rw [if_neg (not_not.mpr hvalid)]
        simp only [if_neg (not_not.mpr hvalid)]
        exact .inr (.inr ⟨i, rfl, hstate, fun _ => rfl, rfl⟩)
      · rw [if_pos hvalid]
        simp only [if_pos hvalid]
        exact .inr (.inl ⟨i, _, rfl, hstate, fun _ => trivial, rfl⟩)
    · rw [if_pos hstate]
      simp only [if_pos hstate]
      exact .inl ⟨fun _ => trivial, _, rfl⟩

/-- A whole dispatch is to its record the first section, and the answer when that passes. -/
theorem lifecycle_dispatch (hidle : Idle running id s) (now : TimeMs)
    (adapters : Option AdapterRegistry) :
    Runs.exec InterventionView.next (lifecycleView running id s)
        (firstSection (answerOf adapters) id s) =
      some (lifecycleView running id (dispatch id now adapters s).2) := by
  unfold dispatch
  rcases firstSection_cases id now s with
    ⟨hevents, e, hbegin⟩ | ⟨i, e, hi, hstate, hevents, hbegin⟩ | ⟨i, hi, hstate, hevents, hbegin⟩
  · rw [hbegin]
    exact lifecycle_quiet (hevents _) rfl
  · rw [hbegin, hevents, lifecycleView_set, lifecycleView, hi, Option.map_some, hstate]
    rfl
  · -- The adapter answers within the operation, so no call outlasts it.
    rw [hbegin, hevents]
    dsimp only
    unfold dispatchFinish setIntervention
    dsimp only
    rw [OrderedMap.find_insert_self, lifecycleView, lifecycleView, hi]
    dsimp only
    rw [OrderedMap.find_insert_self, Option.map_some, Option.map_some, applyOutcome_state, hstate,
      hidle.not_running hi hstate]
    rfl

theorem dispatch_elsewhere {j : InterventionId} (hid : id ≠ j) (now : TimeMs)
    (adapters : Option AdapterRegistry) (s : GovernorState) :
    (dispatch j now adapters s).2.engine.interventions.find id =
      s.engine.interventions.find id := by
  unfold dispatch
  rcases firstSection_cases j now s with
    ⟨-, e, hbegin⟩ | ⟨i, e, -, -, -, hbegin⟩ | ⟨i, -, -, -, hbegin⟩
  · rw [hbegin]
  · rw [hbegin]
    exact OrderedMap.find_insert_of_ne _ hid _
  · rw [hbegin]
    dsimp only
    unfold dispatchFinish setIntervention
    dsimp only
    rw [OrderedMap.find_insert_self]
    dsimp only
    rw [OrderedMap.find_insert_of_ne _ hid, OrderedMap.find_insert_of_ne _ hid]

theorem next_intervention_free (hs : IdsBelow s) :
    s.engine.interventions.find ⟨s.nextInterventionId⟩ = none := by
  apply Option.eq_none_iff_forall_ne_some.mpr
  intro r hr
  exact Nat.lt_irrefl _ (hs _ r hr)

theorem lifecycle_grant (hs : IdsBelow s) (hidle : Idle running ⟨s.nextInterventionId⟩ s)
    (cid : ConflictId) (g : Grant) (now : TimeMs) :
    running = false ∧
    Runs.exec InterventionView.next (lifecycleView running ⟨s.nextInterventionId⟩ s) [.grant] =
      some (lifecycleView running ⟨s.nextInterventionId⟩ (commitGrant s cid g now)) := by
  have hfree := next_intervention_free hs
  have hrunning := hidle.not_running_of_none hfree
  refine ⟨hrunning, ?_⟩
  rw [lifecycleView, hfree, lifecycleView, commitGrant]
  dsimp only
  rw [grantRecord, OrderedMap.find_insert_self, hrunning]
  rfl

theorem lifecycle_request {op : Op} {cid : ConflictId} {cls : InterventionClass} {now : TimeMs}
    (hs : IdsBelow s) (hidle : Idle running id s) (hreq : op.request = some (cid, cls, now))
    (h : step s op = some s') :
    Runs.exec InterventionView.next (lifecycleView running id s) (op.interventionEvents id s) =
      some (lifecycleView running id s') := by
  have helsewhere : ∀ g, id ≠ ⟨s.nextInterventionId⟩ →
      (commitGrant s cid g now).engine.interventions.find id =
        s.engine.interventions.find id :=
    fun g hid => OrderedMap.find_insert_of_ne _ hid _
  rcases step_of_request h hreq with ⟨hnone, rfl⟩ | ⟨g, hgrant, hg, -⟩
  · refine lifecycle_quiet ?_ rfl
    cases op with
    | authorize =>
      rw [Op.interventionEvents, hnone, if_neg]
      simp
    | authorizeAndDispatch => rw [Op.interventionEvents, hnone]
    | _ => cases hreq
  · cases op with
    | authorize cid' cls' now' =>
      cases hreq
      obtain ⟨r, hr, rfl⟩ := map_toOption h
      rw [authorize_of_granted hg] at hr
      cases hr
      by_cases hid : id = ⟨s.nextInterventionId⟩
      · subst hid
        rw [Op.interventionEvents, hgrant, if_pos ⟨rfl, rfl⟩]
        exact (lifecycle_grant hs hidle cid g now).2
      · refine lifecycle_quiet ?_ (helsewhere g hid)
        exact if_neg fun hand => hid hand.1
    | authorizeAndDispatch cid' cls' now' now'' adapters =>
      cases hreq
      obtain ⟨r, hr, rfl⟩ := map_toOption h
      rw [authorizeAndDispatch_of_granted hg] at hr
      cases hr
      rw [Op.interventionEvents, hgrant]
      dsimp only
      by_cases hid : id = ⟨s.nextInterventionId⟩
      · subst hid
        rw [if_pos rfl]
        -- The dispatch finds the record as the grant has left it.
        obtain ⟨hrunning, hgranted⟩ := lifecycle_grant hs hidle cid g now
        have hidle' : Idle running ⟨s.nextInterventionId⟩ (commitGrant s cid g now) := by
          rw [hrunning]
          exact fun h => absurd h Bool.false_ne_true
        exact Runs.exec_append.mpr ⟨_, hgranted, lifecycle_dispatch hidle' now'' adapters⟩
      · refine lifecycle_quiet (if_neg hid) ?_
        rw [dispatch_elsewhere hid, helsewhere g hid]
    | _ => cases hreq

theorem lifecycle_acknowledge (j : InterventionId) (attempt : AttemptId) (now : TimeMs) :
    Runs.exec InterventionView.next (lifecycleView running id s)
        (Op.interventionEvents id s (.onAcknowledge j attempt now)) =
      some (lifecycleView running id (onAcknowledge j attempt now s).2) := by
  unfold onAcknowledge
  cases hi : s.engine.interventions.find j with
  | none =>
    refine lifecycle_quiet (if_neg fun hand => ?_) rfl
    rw [hand.1, hi] at hand
    cases hand.2
  | some i =>
    dsimp only
    by_cases hid : id = j
    · subst hid
      by_cases hstate : i.state = .dispatched
      · rw [if_neg (not_not.mpr hstate), lifecycleView_set, Op.interventionEvents, hi,
          if_pos ⟨rfl, decide_eq_true hstate⟩, lifecycleView, hi, Option.map_some, hstate]
        rfl
      · rw [if_pos hstate]
        refine lifecycle_quiet (if_neg fun hand => ?_) rfl
        rw [hi] at hand
        exact hstate (of_decide_eq_true hand.2)
    · refine lifecycle_quiet (if_neg fun hand => hid hand.1) ?_
      split_ifs
      · rfl
      · exact OrderedMap.find_insert_of_ne _ hid _

theorem lifecycle_failed (j : InterventionId) (attempt : AttemptId) (note : ByteString) :
    Runs.exec InterventionView.next (lifecycleView running id s)
        (Op.interventionEvents id s (.onActionFailed j attempt note)) =
      some (lifecycleView running id (onActionFailed j attempt note s).2) := by
  unfold onActionFailed
  cases hi : s.engine.interventions.find j with
  | none =>
    refine lifecycle_quiet (if_neg fun hand => ?_) rfl
    rw [hand.1, hi] at hand
    cases hand.2
  | some i =>
    dsimp only
    by_cases hid : id = j
    · subst hid
      rw [lifecycleView_set, Op.interventionEvents, hi, if_pos ⟨rfl, rfl⟩, lifecycleView, hi]
      rfl
    · exact lifecycle_quiet (if_neg fun hand => hid hand.1) (OrderedMap.find_insert_of_ne _ hid _)

theorem lifecycle_submit (input : InterferenceEvidence) :
    Runs.exec InterventionView.next (lifecycleView running id s)
        (Op.interventionEvents id s (.submitPostActionEvidence input)) =
      some (lifecycleView running id (submitPostActionEvidence input s).2) := by
  rw [Op.interventionEvents]
  cases hclosing : closing s input with
  | none => exact lifecycle_quiet rfl (by rw [(submit_of_not_closing hclosing).1])
  | some v =>
    obtain ⟨-, -, hopened⟩ := closing_spec hclosing
    dsimp only
    rw [lifecycleView, lifecycleView, submit_of_closing hclosing, settleIntervention]
    dsimp only
    by_cases hid : id = v.id
    · subst hid
      have hi : s.engine.interventions.find v.id = some v.record := (openIntervention_spec hopened).1
      rw [if_pos rfl, hi, OrderedMap.find_insert_self]
      exact Runs.exec_cons.mpr
        ⟨_, congrArg (Option.map some) (if_pos (openIntervention_open hopened).2), rfl⟩
    · rw [if_neg hid, OrderedMap.find_insert_of_ne _ hid]
      rfl

theorem lifecycle_advanceEpoch :
    Runs.exec InterventionView.next (lifecycleView running id s)
        (Op.interventionEvents id s .advanceEpoch) =
      some (lifecycleView running id (advanceEpoch s).2) := by
  rw [Op.interventionEvents, lifecycleView, lifecycleView, advanceEpoch]
  dsimp only
  rw [OrderedMap.find_mapValues]
  cases s.engine.interventions.find id with
  | none => rfl
  | some i =>
    have hview : (if i.state.isLive then ⟨.outcomeUnknown, running⟩ else ⟨i.state, running⟩ :
        InterventionView) = ⟨(abandonInFlight i).state, running⟩ := by
      unfold abandonInFlight
      cases hstate : i.state <;> simp [LifecycleState.isLive, hstate]
    rw [Option.map_some, Option.map_some, Option.map_some, ← hview]
    rfl

/-- Each step of the governor is to every intervention a run of the automaton. -/
theorem step_lifecycle {op : Op} (hs : IdsBelow s) (hload : ¬op.isLoad)
    (hidle : Idle running id s) (h : step s op = some s') :
    Runs.exec InterventionView.next (lifecycleView running id s) (op.interventionEvents id s) =
      some (lifecycleView running id s') := by
  cases op with
  | authorize | authorizeAndDispatch => exact lifecycle_request hs hidle rfl h
  | dispatch j now adapters =>
    cases h
    by_cases hid : id = j
    · subst hid
      rw [Op.interventionEvents, if_pos rfl]
      exact lifecycle_dispatch hidle now adapters
    · exact lifecycle_quiet (if_neg hid) (dispatch_elsewhere hid now adapters s)
  | onAcknowledge j attempt now =>
    cases h
    exact lifecycle_acknowledge j attempt now
  | onActionFailed j attempt note =>
    cases h
    exact lifecycle_failed j attempt note
  | submitPostActionEvidence input =>
    cases h
    exact lifecycle_submit input
  | advanceEpoch =>
    cases h
    exact lifecycle_advanceEpoch
  | setPolicy p =>
    cases h
    obtain ⟨_, _, hframe⟩ := setPolicy_frame p s
    exact lifecycle_quiet rfl (by rw [hframe])
  | ingestEvidence input =>
    cases h
    obtain ⟨_, _, _, _, hframe⟩ := ingestEvidence_frame input s
    exact lifecycle_quiet rfl (by rw [hframe])
  | load => exact absurd rfl hload
  | _ =>
    cases h
    exact lifecycle_quiet rfl rfl

end Step

/-! ## Every interleaving -/

/-- An adapter call for the intervention is running. -/
def Concurrent.running (id : InterventionId) (c : Concurrent) : Bool :=
  c.inFlight.any fun f => f.ticket.id = id

def interventionView (id : InterventionId) (c : Concurrent) : Option InterventionView :=
  lifecycleView (c.running id) id c.gov

def CriticalSection.interventionEvents (id : InterventionId) (c : Concurrent) :
    CriticalSection → List InterventionEvent
  | .op o => o.interventionEvents id c.gov
  | .dispatchBegin j _ => if id = j then firstSection (fun _ => []) id c.gov else []
  | .dispatchFinish n adapters =>
    match c.inFlight[n]? with
    | some f => if id = f.ticket.id then answerOf adapters f.ticket else []
    | none => []

/-- Dispatches in flight are tracked, and for different interventions. -/
structure Apart (c : Concurrent) : Prop where
  tracked : Tracked c
  nodup : (c.inFlight.map fun f => f.ticket.id).Nodup

theorem running_iff {id : InterventionId} {c : Concurrent} :
    c.running id = true ↔ id ∈ c.inFlight.map fun f => f.ticket.id := by
  simp [Concurrent.running]

theorem Apart.idle {c : Concurrent} (hc : Apart c) (id : InterventionId) :
    Idle (c.running id) id c.gov := by
  intro hrunning
  obtain ⟨f, hf, rfl⟩ := List.mem_map.mp (running_iff.mp hrunning)
  obtain ⟨r, hr, -⟩ := hc.tracked.follows f hf
  exact ⟨r, hr, fun hstate => (hc.tracked.follows f hf).ne_authorized hr hstate rfl⟩

theorem mark_ids (written : InterventionId → Bool) (fs : List InFlight) :
    (fs.map (InFlight.mark written)).map (fun f => f.ticket.id) = fs.map fun f => f.ticket.id := by
  rw [List.map_map]
  rfl

theorem running_congr {c c' : Concurrent} (id : InterventionId)
    (h : c'.inFlight.map (fun f => f.ticket.id) = c.inFlight.map fun f => f.ticket.id) :
    c'.running id = c.running id := by
  rw [Bool.eq_iff_iff, running_iff, running_iff, h]

/-- The dispatch that ends was the only one of its intervention. -/
theorem Apart.ended {c : Concurrent} (hc : Apart c) {n : ℕ} {f : InFlight}
    (hf : c.inFlight[n]? = some f) :
    f.ticket.id ∉ (c.inFlight.eraseIdx n).map fun f => f.ticket.id := by
  intro hmem
  obtain ⟨k, hk, hid⟩ := List.mem_map.mp hmem
  obtain ⟨j, hne, hj⟩ := List.mem_eraseIdx_iff_getElem?.mp hk
  have hlt : n < (c.inFlight.map fun f => f.ticket.id).length := by
    rw [List.length_map]
    exact (List.getElem?_eq_some_iff.mp hf).1
  apply hne
  apply Eq.symm
  apply (List.getElem?_inj hlt hc.nodup).mp
  rw [List.getElem?_map, List.getElem?_map, hf, hj, Option.map_some, Option.map_some, hid]

theorem apart_step {c c' : Concurrent} {l : CriticalSection} (hc : Apart c)
    (hl : SectionCounts c l) (h : sectionStep c l = some c') : Apart c' := by
  refine ⟨tracked_step hc.tracked hl h, ?_⟩
  cases l with
  | op o =>
    obtain ⟨s, -, rfl⟩ := Option.map_eq_some_iff.mp h
    rw [mark_ids]
    exact hc.nodup
  | dispatchBegin j now =>
    rcases sectionStep_begin h with rfl | ⟨i, i', n, hi, hstate, -, hflight⟩
    · exact hc.nodup
    · rcases hflight with hsame | ⟨-, t, rfl, hadd⟩
      · rw [hsame]
        exact hc.nodup
      · rw [hadd, List.map_append, List.nodup_append']
        refine ⟨hc.nodup, List.nodup_singleton _, ?_⟩
        rw [List.map_singleton, List.disjoint_singleton, ← running_iff]
        rw [(hc.idle t.id).not_running hi hstate]
        exact Bool.false_ne_true
  | dispatchFinish n adapters =>
    obtain ⟨f, -, rfl⟩ := Option.map_eq_some_iff.mp h
    rw [mark_ids]
    exact hc.nodup.sublist ((List.eraseIdx_sublist _ _).map _)

theorem section_begin {c c' : Concurrent} {id j : InterventionId} {now : TimeMs} (hc : Apart c)
    (h : sectionStep c (.dispatchBegin j now) = some c') :
    Runs.exec InterventionView.next (interventionView id c)
        (CriticalSection.interventionEvents id c (.dispatchBegin j now)) =
      some (interventionView id c') := by
  rw [CriticalSection.interventionEvents]
  rcases firstSection_cases j now c.gov with
    ⟨hevents, e, hbegin⟩ | ⟨i, e, hi, hstate, hevents, hbegin⟩ | ⟨i, hi, hstate, hevents, hbegin⟩
  all_goals
    unfold sectionStep at h
    dsimp only at h
    rw [hbegin] at h
    cases h
    unfold interventionView
  · -- There is no authorized record, and nothing changes.
    refine lifecycle_quiet ?_ rfl
    split_ifs with hid
    · rw [hid]
      exact hevents _
    · rfl
  · -- The fence is stale: no call begins.
    rw [running_congr id (c := c) rfl]
    by_cases hid : id = j
    · subst hid
      rw [if_pos rfl, hevents, lifecycleView_set, lifecycleView, hi, Option.map_some, hstate]
      rfl
    · exact lifecycle_quiet (if_neg hid) (OrderedMap.find_insert_of_ne _ hid _)
  · -- The ticket joins the calls in flight.
    by_cases hid : id = j
    · subst hid
      have hrunning : Concurrent.running id
          ⟨setIntervention { c.gov with nextDispatchId := c.gov.nextDispatchId + 1 } id
            { i with state := .dispatched, dispatchId := ⟨c.gov.nextDispatchId⟩,
                     dispatchedAt := now },
            c.inFlight ++ [⟨⟨id, i.cls, i.target, i.attemptId⟩, false⟩]⟩ = true := by
        simp [Concurrent.running]
      rw [if_pos rfl, hevents, hrunning, lifecycleView_set, lifecycleView, hi, Option.map_some,
        hstate, (hc.idle id).not_running hi hstate]
      rfl
    · have hrunning : ∀ s, Concurrent.running id
          ⟨s, c.inFlight ++ [⟨⟨j, i.cls, i.target, i.attemptId⟩, false⟩]⟩ = c.running id := by
        intro s
        simp [Concurrent.running, Ne.symm hid]
      rw [hrunning]
      exact lifecycle_quiet (if_neg hid) (OrderedMap.find_insert_of_ne _ hid _)

theorem section_finish {c c' : Concurrent} {id : InterventionId} {n : ℕ}
    {adapters : Option AdapterRegistry} (hc : Apart c)
    (h : sectionStep c (.dispatchFinish n adapters) = some c') :
    Runs.exec InterventionView.next (interventionView id c)
        (CriticalSection.interventionEvents id c (.dispatchFinish n adapters)) =
      some (interventionView id c') := by
  obtain ⟨f, hf, rfl⟩ := Option.map_eq_some_iff.mp h
  rw [CriticalSection.interventionEvents, hf, interventionView, interventionView]
  dsimp only
  have hids : ∀ s, Concurrent.running id
      ⟨s, (c.inFlight.eraseIdx n).map (InFlight.mark (· = f.ticket.id))⟩ = true ↔
        id ∈ (c.inFlight.eraseIdx n).map fun f => f.ticket.id := by
    intro s
    rw [running_iff, mark_ids]
  obtain ⟨r, hr, -⟩ := hc.tracked.follows f (List.mem_of_getElem? hf)
  rcases dispatchFinish_eq f.ticket.id (callAdapter adapters f.ticket) c.gov with
    ⟨hnone, -⟩ | ⟨i, hi, hs⟩
  · rw [hr] at hnone
    cases hnone
  · rw [hs]
    by_cases hid : id = f.ticket.id
    · subst hid
      -- No second call of the intervention is left in flight.
      have hended : ∀ s, Concurrent.running f.ticket.id
          ⟨s, (c.inFlight.eraseIdx n).map (InFlight.mark (· = f.ticket.id))⟩ = false :=
        fun s => Bool.eq_false_iff.mpr fun h => hc.ended hf ((hids s).mp h)
      have hbefore : c.running f.ticket.id = true :=
        running_iff.mpr (List.mem_map_of_mem (List.mem_of_getElem? hf))
      rw [if_pos rfl, hended, hbefore, lifecycleView_set, applyOutcome_state, lifecycleView, hi]
      rfl
    · have hothers : ∀ s, Concurrent.running id
          ⟨s, (c.inFlight.eraseIdx n).map (InFlight.mark (· = f.ticket.id))⟩ = c.running id := by
        intro s
        rw [Bool.eq_iff_iff, hids, running_iff]
        refine ⟨fun h => ((List.eraseIdx_sublist _ _).map _).subset h, fun h => ?_⟩
        obtain ⟨k, hk, hkid⟩ := List.mem_map.mp h
        obtain ⟨j, hj⟩ := List.mem_iff_getElem?.mp hk
        refine List.mem_map.mpr ⟨k, List.mem_eraseIdx_iff_getElem?.mpr ⟨j, ?_, hj⟩, hkid⟩
        rintro rfl
        rw [hf, Option.some.injEq] at hj
        rw [hj] at hid
        exact hid hkid.symm
      rw [hothers]
      exact lifecycle_quiet (if_neg hid) (OrderedMap.find_insert_of_ne _ hid _)

/-- Each section is to every intervention a run of the automaton. -/
theorem section_interventionView {c c' : Concurrent} {l : CriticalSection} (id : InterventionId)
    (hc : Apart c) (hl : SectionCounts c l) (h : sectionStep c l = some c') :
    Runs.exec InterventionView.next (interventionView id c) (l.interventionEvents id c) =
      some (interventionView id c') := by
  cases l with
  | op o =>
    obtain ⟨s, hs, rfl⟩ := Option.map_eq_some_iff.mp h
    have hrunning : Concurrent.running id
        ⟨s, c.inFlight.map (InFlight.mark fun id => o.overtakes c.gov id)⟩ = c.running id :=
      running_congr id (mark_ids _ _)
    rw [interventionView, interventionView, hrunning]
    exact step_lifecycle hc.tracked.idsBelow hl.1 (hc.idle id) hs
  | dispatchBegin j now => exact section_begin hc h
  | dispatchFinish n adapters => exact section_finish hc h

theorem apart_empty : Apart {} := ⟨tracked_empty, List.nodup_nil⟩

/-- In every interleaving of the sections of dispatches with other operations, without a load
and with the intervention counter below its top, what happens to an intervention is a run of
the automaton that ends in its lifecycle state and the call in flight.  So at most one first
section ends for it, the adapter answers at most once for each call, and between two
verifications that close it a late answer has reopened it; and it is never PROPOSED, CANCELLED
or EXPIRED. -/
theorem intervention_automaton (id : InterventionId) {ls : List CriticalSection} {c : Concurrent}
    (hls : Runs.Guarded sectionStep SectionCounts {} ls)
    (hrun : Runs.exec sectionStep {} ls = some c) :
    let es := Runs.events sectionStep (CriticalSection.interventionEvents id) {} ls
    Runs.exec InterventionView.next none es = some (interventionView id c) ∧
    es.countP InterventionEvent.isFirst ≤ 1 ∧
    es.countP InterventionEvent.isAnswer ≤ es.countP InterventionEvent.isTake ∧
    es.countP InterventionEvent.isSettle ≤ 1 + es.countP InterventionEvent.isAnswer ∧
    (∀ pre a mid b post, es = pre ++ a :: (mid ++ b :: post) → a.isSettle → b.isSettle →
      ∃ e ∈ mid, e.isAnswer) ∧
    ∀ r, c.gov.engine.interventions.find id = some r → r.state.isReached := by
  intro es
  have hstep : ∀ c l c', Apart c → SectionCounts c l → sectionStep c l = some c' →
      Runs.exec InterventionView.next (interventionView id c) (l.interventionEvents id c) =
        some (interventionView id c') := fun _ _ _ => section_interventionView id
  have hexec : Runs.exec InterventionView.next none es = some (interventionView id c) :=
    Runs.exec_events (interventionView id) (fun _ _ _ => apart_step) hstep hls apart_empty hrun
  -- Each count is bounded by a measure that its events lower.
  have hfirsts : ∀ o e o', InterventionView.next o e = some o' →
      firstsLeft o' + (if e.isFirst then 1 else 0) ≤ firstsLeft o + if false then 1 else 0 :=
    fun _ _ _ h => (firstsLeft_next h).trans (Nat.le_add_right _ _)
  have hcalls : ∀ o e o', InterventionView.next o e = some o' →
      runningCalls o' + (if e.isAnswer then 1 else 0) ≤
        runningCalls o + if e.isTake then 1 else 0 := fun _ _ _ => runningCalls_next
  have hsettles : ∀ o e o', InterventionView.next o e = some o' →
      settlesLeft o' + (if e.isSettle then 1 else 0) ≤
        settlesLeft o + if e.isAnswer then 1 else 0 := fun _ _ _ => settlesLeft_next
  have hfirst := Runs.countP_le_of_measure (q := fun _ => false) firstsLeft hfirsts hexec
  have hanswer := Runs.countP_le_of_measure runningCalls hcalls hexec
  have hsettle := Runs.countP_le_of_measure settlesLeft hsettles hexec
  have hstart : firstsLeft none = 1 ∧ runningCalls none = 0 ∧ settlesLeft none = 1 := by decide
  have hnone : es.countP (fun _ => false) = 0 := by simp
  have hbetween : ∀ pre a mid b post, es = pre ++ a :: (mid ++ b :: post) → a.isSettle →
      b.isSettle → ∃ e ∈ mid, e.isAnswer :=
    fun _ _ _ _ _ hes => answer_between (hes ▸ hexec)
  refine ⟨hexec, by omega, by omega, by omega, hbetween, fun r hr => ?_⟩
  have hkept : ∀ o e o', (∀ v, o = some v → v.state.isReached) →
      InterventionView.next o e = some o' → ∀ v, o' = some v → v.state.isReached := by
    rintro o e o' ho hnext v rfl
    rcases next_cases hnext with ⟨-, -, hv⟩ | ⟨u, v', rfl, hv, hadv⟩
    · cases hv
      rfl
    · cases hv
      exact hadv.reached (ho u rfl)
  have hreached := Runs.invariant hkept hexec (by simp)
  apply hreached ⟨r.state, c.running id⟩
  rw [interventionView, lifecycleView, hr]
  rfl

instance (c : Concurrent) : (l : CriticalSection) → Decidable (SectionCounts c l)
  | .op op => inferInstanceAs (Decidable (CountsUp c.gov op))
  | .dispatchBegin _ _ | .dispatchFinish _ _ => .isTrue trivial

/-- The action is reported as failed while its adapter call runs; then the adapter accepts it,
and the evidence after it closes it. -/
def failedWhileRunning : List CriticalSection :=
  overtakenDispatch ++ [.op (.onActionFailed ⟨1⟩ ⟨1⟩ "lost"),
    .dispatchFinish 0 (some acceptingAdapter), .op (.submitPostActionEvidence recovered)]

theorem intervention_automaton_reopened :
    Runs.exec InterventionView.next none
        (Runs.events sectionStep (CriticalSection.interventionEvents ⟨1⟩) {} failedWhileRunning) =
      some (interventionView ⟨1⟩ ((Runs.exec sectionStep {} failedWhileRunning).getD {})) := by
  have hrun : (Runs.exec sectionStep {} failedWhileRunning).isSome := by decide +kernel
  exact (intervention_automaton ⟨1⟩ (by decide +kernel)
    (Runs.exec_getD ({} : Concurrent) hrun)).1

example : interventionView ⟨1⟩ ((Runs.exec sectionStep {} failedWhileRunning).getD {}) =
    some ⟨.effective, false⟩ := by decide +kernel

end ContentionGovernor
