import ContentionGovernor.ConflictHistory
import ContentionGovernor.DispatchSections
import ContentionGovernor.Lib.Simulation
import ContentionGovernor.Verification

/-!
# The life of a conflict

A conflict as an automaton of its own, which sees only the events that concern it, and the
runs of the governor as runs of it.
-/

namespace ContentionGovernor

/-! ## The automaton -/

/-- What a conflict sees of the governor.  A report carries the actionability threshold of its
moment, and so does a verification, with whether another conflict hurts the target. -/
inductive ConflictEvent
  | report (status : EvidenceStatus) (degradation threshold : Double)
  | remeasure (degradation : Double)
  | verify (degradation threshold : Double) (secondary : Bool)
  | select (threshold : Double)
  | suspend

/-- The state and the magnitude of a conflict. -/
structure ConflictView where
  state : ConflictState
  degradation : Double

/-- The state after a report. -/
def ConflictView.judge (v : ConflictView) (status : EvidenceStatus) (threshold : Double) :
    ConflictView :=
  match status with
  | .current =>
    if threshold ≤ v.degradation then { v with state := .actionable }
    else { v with state := .validating }
  | .confounded | .insufficientEvidence => { v with state := .unresolved }
  | .revalidationRequired => { v with state := .revalidationRequired }
  | _ => v

/-- The states that a new epoch leaves as they are. -/
def ConflictState.isClosed : ConflictState → Bool
  | .resolved | .suppressed | .superseded => true
  | _ => false

/-- The next view, `none` before the first report.  A report finds a conflict or opens one;
everything else concerns one that is there, and an intervention is selected only for one whose
magnitude reaches the threshold. -/
def ConflictView.next : Option ConflictView → ConflictEvent → Option (Option ConflictView)
  | none, .report status degradation threshold =>
    some (some (ConflictView.judge ⟨.detected, degradation⟩ status threshold))
  | none, _ => none
  | some v, .report status degradation threshold =>
    some (some (ConflictView.judge ⟨v.state, Binary64.maximum v.degradation degradation⟩ status
      threshold))
  | some v, .remeasure degradation => some (some ⟨v.state, degradation⟩)
  | some v, .verify degradation threshold secondary =>
    some (some ⟨(outcomeStates (classifyOutcome threshold v.degradation degradation secondary)).2,
      degradation⟩)
  | some v, .select threshold =>
    if v.degradation < threshold then none else some (some ⟨.interventionAuthorized, v.degradation⟩)
  | some v, .suspend =>
    some (some (if v.state.isClosed then v else { v with state := .revalidationRequired }))

/-! ## Runs of the automaton -/

/-- The states that the automaton reaches. -/
def ConflictState.isReached : ConflictState → Bool
  | .detected | .validating | .actionable | .interventionAuthorized | .resolved
  | .partiallyResolved | .unresolved | .revalidationRequired => true
  | _ => false

theorem isReached_judge {state : ConflictState} (hstate : state.isReached) (degradation : Double)
    (status : EvidenceStatus) (threshold : Double) :
    (ConflictView.judge ⟨state, degradation⟩ status threshold).state.isReached := by
  unfold ConflictView.judge
  split
  · split_ifs <;> rfl
  all_goals first | exact hstate | rfl

theorem isReached_outcome (outcome : VerificationOutcome) :
    (outcomeStates outcome).2.isReached := by cases outcome <;> rfl

theorem isReached_next {o : Option ConflictView} {e : ConflictEvent} {v : ConflictView}
    (ho : ∀ u, o = some u → u.state.isReached) (h : ConflictView.next o e = some (some v)) :
    v.state.isReached := by
  cases o with
  | none =>
    cases e with
    | report status degradation threshold =>
      cases h
      exact isReached_judge rfl degradation status threshold
    | _ => cases h
  | some u =>
    have hu := ho u rfl
    cases e with
    | report status degradation threshold =>
      cases h
      exact isReached_judge hu _ status threshold
    | remeasure degradation =>
      cases h
      exact hu
    | verify degradation threshold secondary =>
      cases h
      exact isReached_outcome _
    | select threshold =>
      obtain ⟨-, ⟨⟩⟩ := Option.ite_none_left_eq_some.mp h
      rfl
    | suspend =>
      cases h
      split_ifs
      · exact hu
      · rfl

/-- An event after which a conflict that was RESOLVED still is: it is not judged, verified or
selected for. -/
def ConflictEvent.keepsResolved : ConflictEvent → Bool
  | .remeasure _ | .suspend => true
  | .report status _ _ => status ∉
    [EvidenceStatus.current, .confounded, .insufficientEvidence, .revalidationRequired]
  | _ => false

/-- A verification resolved the conflict, at most at the threshold and with no target hurt
elsewhere, and nothing has changed its state since. -/
def ResolvedBy (es : List ConflictEvent) : Prop :=
  ∃ pre degradation threshold post, es = pre ++ .verify degradation threshold false :: post ∧
    degradation ≤ threshold ∧ ∀ e ∈ post, e.keepsResolved

theorem ResolvedBy.concat {es : List ConflictEvent} {e : ConflictEvent} (h : ResolvedBy es)
    (he : e.keepsResolved) : ResolvedBy (es ++ [e]) := by
  obtain ⟨pre, degradation, threshold, post, rfl, hle, hpost⟩ := h
  refine ⟨pre, degradation, threshold, post ++ [e], by simp, hle, fun e' he' => ?_⟩
  rcases List.mem_append.mp he' with he' | he'
  · exact hpost e' he'
  · rw [List.mem_singleton.mp he']
    exact he

theorem judge_resolved {v : ConflictView} {status : EvidenceStatus} {threshold : Double}
    (degradation : Double) (h : (v.judge status threshold).state = .resolved) :
    v.state = .resolved ∧ (ConflictEvent.report status degradation threshold).keepsResolved := by
  unfold ConflictView.judge at h
  cases status <;> simp_all [ConflictEvent.keepsResolved]
  split_ifs at h

theorem classifyOutcome_resolved {threshold before after : Double} {secondary : Bool}
    (h : (outcomeStates (classifyOutcome threshold before after secondary)).2 = .resolved) :
    secondary = false ∧ after ≤ threshold := by
  have houtcome := (outcomeStates_success _).2.2.mp h
  unfold classifyOutcome at houtcome
  split_ifs at houtcome
  simp_all

/-- A conflict is RESOLVED only since its last verification said so. -/
theorem resolvedBy_of_exec {es : List ConflictEvent} {v : ConflictView}
    (h : Runs.exec ConflictView.next none es = some (some v)) (hv : v.state = .resolved) :
    ResolvedBy es := by
  -- On the last event: only a verification makes RESOLVED of another state.
  induction es using List.reverseRecOn generalizing v with
  | nil => cases h
  | append_singleton es e ih =>
    obtain ⟨o, hes, hnext⟩ := Runs.exec_concat.mp h
    cases o with
    | none =>
      cases e with
      | report status degradation threshold =>
        cases hnext
        cases (judge_resolved degradation hv).1
      | _ => cases hnext
    | some u =>
      cases e with
      | report status degradation threshold =>
        cases hnext
        obtain ⟨hu, hkeeps⟩ := judge_resolved degradation hv
        exact (ih hes hu).concat hkeeps
      | remeasure degradation =>
        cases hnext
        exact (ih hes hv).concat rfl
      | verify degradation threshold secondary =>
        cases hnext
        obtain ⟨rfl, hle⟩ := classifyOutcome_resolved hv
        exact ⟨es, degradation, threshold, [], rfl, hle, by simp⟩
      | select threshold =>
        obtain ⟨-, ⟨⟩⟩ := Option.ite_none_left_eq_some.mp hnext
        cases hv
      | suspend =>
        cases hnext
        split_ifs at hv with hclosed
        · exact (ih hes hv).concat rfl

/-! ## What the governor emits -/

def ContentionConflict.view (c : ContentionConflict) : ConflictView := ⟨c.state, c.degradation⟩

/-- The conflict under an id, as the automaton sees it. -/
def conflictView (cid : ConflictId) (s : GovernorState) : Option ConflictView :=
  (s.engine.conflicts.find cid).map ContentionConflict.view

/-- What an operation is to the conflict under an id. -/
def Op.conflictEvents (cid : ConflictId) (s : GovernorState) (op : Op) : List ConflictEvent :=
  let threshold := s.engine.policy.actionabilityThreshold
  match op with
  | .ingestEvidence input =>
    if op.receiver s = some cid then
      [.report (storedEvidence s input).status (storedEvidence s input).degradation threshold]
    else []
  | .submitPostActionEvidence input =>
    if op.receiver s = some cid then
      match closing s input with
      | some v => [.verify (storedEvidence s input).degradation threshold (hurtsTarget s input v)]
      | none => [.remeasure (storedEvidence s input).degradation]
    else []
  | .authorize id _ _ | .authorizeAndDispatch id _ _ _ _ =>
    if id = cid ∧ (op.grant s).isSome then [.select threshold] else []
  | .advanceEpoch => if (s.engine.conflicts.find cid).isSome then [.suspend] else []
  | _ => []

theorem view_progressConflict (p : ContentionPolicy) (e : InterferenceEvidence)
    (c : ContentionConflict) :
    (progressConflict p e c).view = c.view.judge e.status p.actionabilityThreshold := by
  unfold progressConflict ConflictView.judge ContentionConflict.view
  cases e.status <;> simp
  split_ifs <;> rfl

theorem view_suspendConflict (c : ContentionConflict) : (suspendConflict c).view =
    if c.view.state.isClosed then c.view else { c.view with state := .revalidationRequired } := by
  unfold suspendConflict ContentionConflict.view
  cases hstate : c.state <;> simp [ConflictState.isClosed, hstate]

section Step

variable {s s' : GovernorState} {cid : ConflictId}

/-- An operation that is nothing to the conflict leaves it. -/
theorem exec_quiet {op : Op} (hevents : op.conflictEvents cid s = [])
    (hsame : s'.engine.conflicts.find cid = s.engine.conflicts.find cid) :
    Runs.exec ConflictView.next (conflictView cid s) (op.conflictEvents cid s) =
      some (conflictView cid s') := by
  rw [hevents, conflictView, conflictView, hsame]
  rfl

theorem conflict_ingest (hs : ConflictsKeyed s) (input : InterferenceEvidence) :
    Runs.exec ConflictView.next (conflictView cid s)
        (Op.conflictEvents cid s (.ingestEvidence input)) =
      some (conflictView cid (ingestEvidence input s).2) := by
  by_cases hv : (validateEvidence input).isOk
  · have hreceiver : Op.receiver s (.ingestEvidence input) = some
        ((locateConflict s.engine.conflicts (storedEvidence s input)).elim ⟨s.nextConflictId⟩
          Prod.fst) := by
      rw [Op.receiver, Op.stored, if_pos hv, Option.bind_some]
    rcases ingest_conflicts (s := s) hv with ⟨hnone, hinsert⟩ | ⟨key, c, hsome, hinsert⟩
    · rw [hnone, Option.elim_none] at hreceiver
      by_cases hcid : cid = ⟨s.nextConflictId⟩
      · -- The conflict is opened by the report.
        subst hcid
        rw [Op.conflictEvents, if_pos hreceiver, conflictView, hs.next_free, conflictView, hinsert,
          OrderedMap.find_insert_self, Option.map_some, view_progressConflict]
        rfl
      · refine exec_quiet (if_neg ?_) (by rw [hinsert, OrderedMap.find_insert_of_ne _ hcid])
        rw [hreceiver]
        exact fun h => hcid (Option.some.inj h).symm
    · rw [hsome, Option.elim_some] at hreceiver
      have hfind := locateConflict_find hsome
      by_cases hcid : cid = key
      · subst hcid
        rw [Op.conflictEvents, if_pos hreceiver, conflictView, hfind, conflictView, hinsert,
          OrderedMap.find_insert_self, Option.map_some, Option.map_some, view_progressConflict]
        rfl
      · refine exec_quiet (if_neg ?_) (by rw [hinsert, OrderedMap.find_insert_of_ne _ hcid])
        rw [hreceiver]
        exact fun h => hcid (Option.some.inj h).symm
  · refine exec_quiet (if_neg ?_) (by rw [ingestEvidence_of_invalid hv])
    rw [Op.receiver, Op.stored, if_neg hv, Option.bind_none]
    simp

/-- Post-action evidence for the conflict under a key is nothing to the others. -/
theorem submit_elsewhere {input : InterferenceEvidence} {key : ConflictId}
    (hreceiver : Op.receiver s (.submitPostActionEvidence input) = some key) (hcid : cid ≠ key)
    {c : ContentionConflict} (hinsert : (submitPostActionEvidence input s).2.engine.conflicts =
      s.engine.conflicts.insert key c) :
    Runs.exec ConflictView.next (conflictView cid s)
        (Op.conflictEvents cid s (.submitPostActionEvidence input)) =
      some (conflictView cid (submitPostActionEvidence input s).2) := by
  refine exec_quiet (if_neg ?_) (by rw [hinsert, OrderedMap.find_insert_of_ne _ hcid])
  rw [hreceiver]
  exact fun h => hcid (Option.some.inj h).symm

/-- Post-action evidence that closes nothing remeasures the conflict that it is for. -/
theorem submit_unsettled {input : InterferenceEvidence} (hv : (validateEvidence input).isOk)
    (hclosing : closing s input = none) {key : ConflictId} {c : ContentionConflict}
    (hlocated : locateConflict s.engine.conflicts (storedEvidence s input) = some (key, c)) :
    (submitPostActionEvidence input s).2.engine.conflicts =
      s.engine.conflicts.insert key (remeasureConflict c (storedEvidence s input)) := by
  obtain ⟨n, hstored⟩ := submitPostActionEvidence_of_valid (s := s) hv
  have hopened : openIntervention s.engine c.id = none := by
    unfold closing at hclosing
    rw [if_pos hv, hlocated, Option.bind_some, Option.map_eq_none_iff] at hclosing
    exact hclosing
  rw [hstored]
  unfold verifyEvidence
  dsimp only
  rw [hlocated]
  dsimp only
  split
  · rfl
  · rename_i iid i hsome
    cases hopened.symm.trans hsome

theorem conflict_submit (input : InterferenceEvidence) :
    Runs.exec ConflictView.next (conflictView cid s)
        (Op.conflictEvents cid s (.submitPostActionEvidence input)) =
      some (conflictView cid (submitPostActionEvidence input s).2) := by
  by_cases hv : (validateEvidence input).isOk
  · have hreceiver : Op.receiver s (.submitPostActionEvidence input) =
        (locateConflict s.engine.conflicts (storedEvidence s input)).map Prod.fst := by
      rw [Op.receiver, Op.stored, if_pos hv, Option.bind_some]
    rcases submit_remeasured (s := s) hv with ⟨hnone, hsame⟩ | ⟨key, c, state, hlocated, hinsert⟩
    · refine exec_quiet (if_neg ?_) (by rw [hsame])
      rw [hreceiver, hnone]
      simp
    · rw [hlocated, Option.map_some] at hreceiver
      have hfind : s.engine.conflicts.find key = some c := locateConflict_find hlocated
      by_cases hcid : cid = key
      · subst hcid
        rw [Op.conflictEvents, if_pos hreceiver, conflictView, hfind, conflictView]
        cases hclosing : closing s input with
        | none =>
          -- No intervention is open: the magnitude changes and the state stays.
          rw [submit_unsettled hv hclosing hlocated, OrderedMap.find_insert_self]
          rfl
        | some v =>
          obtain ⟨-, hlocated', -⟩ := closing_spec hclosing
          rw [hlocated, Option.some.injEq, Prod.mk.injEq] at hlocated'
          obtain ⟨hkey, hconflict⟩ := hlocated'
          rw [submit_of_closing hclosing, settleIntervention, ← hkey, OrderedMap.find_insert_self,
            ← hconflict]
          unfold verdict
          rw [← hconflict]
          rfl
      · exact submit_elsewhere hreceiver hcid hinsert
  · refine exec_quiet (if_neg ?_) (by rw [submitPostActionEvidence_of_invalid hv])
    rw [Op.receiver, Op.stored, if_neg hv, Option.bind_none]
    simp

theorem conflict_request {op : Op} {id : ConflictId} {cls : InterventionClass} {now : TimeMs}
    (hreq : op.request = some (id, cls, now)) (h : step s op = some s') :
    Runs.exec ConflictView.next (conflictView cid s) (op.conflictEvents cid s) =
      some (conflictView cid s') := by
  have hevents : op.conflictEvents cid s = if id = cid ∧ (op.grant s).isSome then
      [.select s.engine.policy.actionabilityThreshold] else [] := by
    cases op with
    | authorize | authorizeAndDispatch =>
      cases hreq
      rfl
    | _ => cases hreq
  rcases step_of_request h hreq with ⟨hnone, rfl⟩ | ⟨g, hgrant, hg, _, _, rfl⟩
  · apply exec_quiet _ rfl
    rw [hevents, hnone, if_neg]
    simp
  · by_cases hid : id = cid
    · subst hid
      -- The request has been evaluated, so the magnitude has passed its gate.
      obtain ⟨p, hp, -⟩ := hg.picked
      obtain ⟨c, primary, d, hdecided, -⟩ := pickCandidate_some hp
      have hc := hg.conflict
      rw [hdecided.conflict, Option.some.injEq] at hc
      have hmagnitude := hdecided.magnitude
      rw [hc] at hmagnitude
      rw [hevents, hgrant, if_pos ⟨rfl, rfl⟩, conflictView, hg.conflict, Option.map_some]
      unfold conflictView
      simp only [commitGrant, OrderedMap.find_insert_self, Option.map_some]
      exact Runs.exec_cons.mpr ⟨_, if_neg hmagnitude, rfl⟩
    · apply exec_quiet
      · rw [hevents, if_neg fun h => hid h.1]
      · exact OrderedMap.find_insert_of_ne _ (Ne.symm hid) _

/-- Each step of the governor is to every conflict a run of the automaton. -/
theorem step_conflictView {op : Op} (hs : ConflictsKeyed s) (hload : ¬op.isLoad)
    (h : step s op = some s') :
    Runs.exec ConflictView.next (conflictView cid s) (op.conflictEvents cid s) =
      some (conflictView cid s') := by
  have hquiet : op.leaves .conflicts → op.conflictEvents cid s = [] →
      Runs.exec ConflictView.next (conflictView cid s) (op.conflictEvents cid s) =
        some (conflictView cid s') := by
    intro hleaves hevents
    exact exec_quiet hevents (by rw [(step_frame h).conflicts hleaves])
  cases op with
  | ingestEvidence input =>
    cases h
    exact conflict_ingest hs input
  | submitPostActionEvidence input =>
    cases h
    exact conflict_submit input
  | authorize | authorizeAndDispatch => exact conflict_request rfl h
  | advanceEpoch =>
    cases h
    rw [Op.conflictEvents, conflictView, conflictView, advanceEpoch]
    dsimp only
    rw [OrderedMap.find_mapValues]
    cases s.engine.conflicts.find cid with
    | none => rfl
    | some c =>
      rw [Option.map_some, Option.map_some, Option.map_some, view_suspendConflict]
      rfl
  | load => exact absurd rfl hload
  | _ => exact hquiet rfl rfl

end Step

/-! ## Every interleaving -/

/-- No load, and the conflict counter below the top. -/
def SectionCountsConflicts (c : Concurrent) : CriticalSection → Prop
  | .op op => CountsConflicts c.gov op
  | _ => True

instance (c : Concurrent) : (l : CriticalSection) → Decidable (SectionCountsConflicts c l)
  | .op op => inferInstanceAs (Decidable (CountsConflicts c.gov op))
  | .dispatchBegin _ _ | .dispatchFinish _ _ => .isTrue trivial

def CriticalSection.conflictEvents (cid : ConflictId) (c : Concurrent) :
    CriticalSection → List ConflictEvent
  | .op o => o.conflictEvents cid c.gov
  | _ => []

theorem onlyInterventions_section {c c' : Concurrent} {l : CriticalSection}
    (hl : ∀ op, l ≠ .op op) (h : sectionStep c l = some c') : OnlyInterventions c.gov c'.gov := by
  cases l with
  | op op => exact absurd rfl (hl op)
  | dispatchBegin id now =>
    have honly := onlyInterventions_begin id now c.gov
    unfold sectionStep at h
    dsimp only at h
    split at h <;> cases h <;> simp_all
  | dispatchFinish n adapters =>
    obtain ⟨f, -, rfl⟩ := Option.map_eq_some_iff.mp h
    exact onlyInterventions_finish _ _ _

theorem section_conflictsKeyed {c c' : Concurrent} {l : CriticalSection}
    (hc : ConflictsKeyed c.gov) (hl : SectionCountsConflicts c l) (h : sectionStep c l = some c') :
    ConflictsKeyed c'.gov := by
  cases l with
  | op op =>
    obtain ⟨s, hs, rfl⟩ := Option.map_eq_some_iff.mp h
    exact step_conflictsKeyed hc hl hs
  | _ =>
    obtain ⟨_, _, hgov⟩ := onlyInterventions_section (by simp) h
    rw [hgov]
    exact hc

theorem section_conflictView {c c' : Concurrent} {l : CriticalSection} {cid : ConflictId}
    (hc : ConflictsKeyed c.gov) (hl : SectionCountsConflicts c l) (h : sectionStep c l = some c') :
    Runs.exec ConflictView.next (conflictView cid c.gov) (l.conflictEvents cid c) =
      some (conflictView cid c'.gov) := by
  cases l with
  | op op =>
    obtain ⟨s, hs, rfl⟩ := Option.map_eq_some_iff.mp h
    exact step_conflictView hc hl.1 hs
  | _ =>
    obtain ⟨_, _, hgov⟩ := onlyInterventions_section (by simp) h
    rw [hgov]
    rfl

/-- In every interleaving of the sections of dispatches with other operations, without a load
and with the conflict counter below its top, what happens to a conflict is a run of the
automaton that ends in its state and magnitude.  So it is never in one of the other states; it
is selected for only while its magnitude reaches the threshold; and it is RESOLVED only since
its last verification, by a measurement at most at the threshold with no target hurt
elsewhere. -/
theorem conflict_automaton (cid : ConflictId) {ls : List CriticalSection} {c : Concurrent}
    (hls : Runs.Guarded sectionStep SectionCountsConflicts {} ls)
    (hrun : Runs.exec sectionStep {} ls = some c) :
    Runs.exec ConflictView.next none
        (Runs.events sectionStep (CriticalSection.conflictEvents cid) {} ls) =
      some (conflictView cid c.gov) ∧
    ∀ k, c.gov.engine.conflicts.find cid = some k → k.state.isReached ∧
      (k.state = .resolved →
        ResolvedBy (Runs.events sectionStep (CriticalSection.conflictEvents cid) {} ls)) := by
  have hstep : ∀ c l c', ConflictsKeyed c.gov → SectionCountsConflicts c l →
      sectionStep c l = some c' → Runs.exec ConflictView.next (conflictView cid c.gov)
        (l.conflictEvents cid c) = some (conflictView cid c'.gov) :=
    fun _ _ _ => section_conflictView
  have hexec := Runs.exec_events (fun c : Concurrent => conflictView cid c.gov)
    (fun _ _ _ => section_conflictsKeyed) hstep hls conflictsKeyed_empty hrun
  refine ⟨hexec, fun k hk => ?_⟩
  have hview : conflictView cid c.gov = some k.view := by
    rw [conflictView, hk]
    rfl
  dsimp only at hexec
  rw [hview] at hexec
  have hkept : ∀ o e o', (∀ u, o = some u → u.state.isReached) →
      ConflictView.next o e = some o' → ∀ u, o' = some u → u.state.isReached := by
    rintro o e o' ho hnext u rfl
    exact isReached_next ho hnext
  have hreached := Runs.invariant hkept hexec (by simp [conflictView])
  exact ⟨hreached k.view rfl, fun hresolved => resolvedBy_of_exec hexec hresolved⟩

/-- The throttle is dispatched in two sections, and the evidence after it shows no slowdown. -/
def throttleVerified : List CriticalSection :=
  throttleNeighbor.map .op ++ [.dispatchBegin ⟨1⟩ 1500, .dispatchFinish 0 (some acceptingAdapter),
    .op (.submitPostActionEvidence recovered)]

theorem conflict_automaton_verified :
    Runs.exec ConflictView.next none
        (Runs.events sectionStep (CriticalSection.conflictEvents ⟨1⟩) {} throttleVerified) =
      some (conflictView ⟨1⟩ ((Runs.exec sectionStep {} throttleVerified).getD {}).gov) := by
  have hrun : (Runs.exec sectionStep {} throttleVerified).isSome := by decide +kernel
  exact (conflict_automaton ⟨1⟩ (by decide +kernel)
    (Runs.exec_getD ({} : Concurrent) hrun)).1

example : ((Runs.exec sectionStep {} throttleVerified).bind fun c =>
    (conflictView ⟨1⟩ c.gov).map (·.state)) = some .resolved := by decide +kernel

end ContentionGovernor
