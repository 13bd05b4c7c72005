import ContentionGovernor.Operations

/-!
# After a restart

`advance_epoch` leaves no current evidence and no intervention in flight, and
until evidence arrives or a snapshot is loaded nothing revives either.
-/

namespace ContentionGovernor

/-- No evidence is current and no intervention is waiting or in flight. -/
structure Quiet (s : GovernorState) : Prop where
  evidence : ∀ id e, s.engine.evidence.find id = some e → e.status ≠ .current
  interventions : ∀ id r, s.engine.interventions.find id = some r → ¬r.state.isLive

/-- The operations that can bring evidence into the state. -/
def Op.bringsEvidence : Op → Bool
  | .ingestEvidence _ | .submitPostActionEvidence _ | .load _ _ _ => true
  | _ => false

theorem requireRevalidation_status (e : InterferenceEvidence) :
    (requireRevalidation e).status ≠ .current := by
  unfold requireRevalidation
  split_ifs with h
  · exact EvidenceStatus.noConfusion
  · exact h

theorem abandonInFlight_state (r : InterventionRecord) : ¬(abandonInFlight r).state.isLive := by
  unfold abandonInFlight
  split_ifs with h
  · exact Bool.false_ne_true
  · intro hlive
    cases hs : r.state <;> simp_all [LifecycleState.isLive]

theorem quiet_advanceEpoch (s : GovernorState) : Quiet (advanceEpoch s).2 := by
  constructor
  · intro id e he
    simp only [advanceEpoch, OrderedMap.find_mapValues, Option.map_eq_some_iff] at he
    obtain ⟨e, -, rfl⟩ := he
    exact requireRevalidation_status e
  · intro id r hr
    simp only [advanceEpoch, OrderedMap.find_mapValues, Option.map_eq_some_iff] at hr
    obtain ⟨r, -, rfl⟩ := hr
    exact abandonInFlight_state r

/-! ## Nothing can be authorized or dispatched -/

theorem Quiet.pickCandidate {s : GovernorState} (h : Quiet s) (id : ConflictId) :
    pickCandidate (evaluate id s) = none := by
  cases hp : ContentionGovernor.pickCandidate (evaluate id s) with
  | none => rfl
  | some p =>
    obtain ⟨c, primary, d, hdec, -⟩ := pickCandidate_some hp
    obtain ⟨eid, -, hfind, hcur, -⟩ := mem_currentEvidence (List.mem_of_head? hdec.evidence)
    exact absurd hcur (h.evidence eid primary hfind)

theorem Quiet.checks {s : GovernorState} (h : Quiet s) (id : ConflictId)
    (cls : InterventionClass) (now : TimeMs) : authorizeChecks s id cls now = .ok none :=
  checks_of_no_candidate (h.pickCandidate id)

theorem Quiet.authorize {s : GovernorState} (h : Quiet s) (id : ConflictId)
    (cls : InterventionClass) (now : TimeMs) :
    authorize id cls now s = .ok (none, s) := authorize_of_checks_none (h.checks id cls now)

theorem Quiet.authorizeAndDispatch {s : GovernorState} (h : Quiet s) (id : ConflictId)
    (cls : InterventionClass) (now now' : TimeMs) (adapters : Option AdapterRegistry) :
    ∃ status : Status, status.code ≠ .ok ∧
      authorizeAndDispatch id cls now now' adapters s = .ok (status, s) := by
  unfold ContentionGovernor.authorizeAndDispatch
  split_ifs
  · exact ⟨_, by decide, rfl⟩
  · rw [h.authorize, ok_bind]
    exact ⟨_, by decide, rfl⟩

theorem Quiet.dispatchBegin {s : GovernorState} (h : Quiet s) (id : InterventionId)
    (now : TimeMs) : ∃ e, dispatchBegin id now s = (.error e, s) := by
  unfold ContentionGovernor.dispatchBegin
  cases hr : s.engine.interventions.find id with
  | none => exact ⟨_, rfl⟩
  | some r =>
    have hstate : r.state ≠ .authorized := by
      intro hs
      exact h.interventions id r hr (by rw [hs]; rfl)
    dsimp only
    rw [if_pos hstate]
    exact ⟨_, rfl⟩

/-! ## Nothing revives -/

/-- A step that brings no evidence makes no evidence current. -/
theorem step_evidence {s s' : GovernorState} {op : Op} (h : step s op = some s')
    (hop : ¬op.bringsEvidence) :
    s'.engine.evidence = s.engine.evidence ∨
      s'.engine.evidence = s.engine.evidence.mapValues requireRevalidation := by
  cases op with
  | advanceEpoch =>
    cases h
    exact .inr rfl
  | ingestEvidence | submitPostActionEvidence | load => exact absurd rfl hop
  | _ => exact .inl ((step_frame h).evidence rfl)

theorem Quiet.step {s s' : GovernorState} {op : Op} (hs : Quiet s)
    (h : step s op = some s') (hop : ¬op.bringsEvidence) : Quiet s' := by
  have hload : ¬op.isLoad := by cases op <;> first | exact hop | exact Bool.false_ne_true
  constructor
  · intro id e he
    rcases step_evidence h hop with heq | heq <;> rw [heq] at he
    · exact hs.evidence id e he
    · rw [OrderedMap.find_mapValues, Option.map_eq_some_iff] at he
      obtain ⟨e, -, rfl⟩ := he
      exact requireRevalidation_status e
  · have hrecord : ∀ {id r r'}, RecordStep s op id r r' → ¬r.state.isLive → ¬r'.state.isLive := by
      intro id r r' hstep hr
      have hterm : r.state.isTerminal := by
        rw [LifecycleState.isTerminal_eq]
        simpa using hr
      rcases state_of_moves hstep.2 hterm with hsame | ⟨_, _, -, hfailed⟩
      · rwa [hsame]
      · rw [hfailed]
        exact Bool.false_ne_true
    rcases step_interventions h hload with ⟨-, hrel⟩ | ⟨g, new, hauth, -, -, -⟩
    · intro id r' hr'
      obtain ⟨r, hr, hstep⟩ := hrel.exists_left hr'
      exact hrecord hstep (hs.interventions id r hr)
    · obtain ⟨cid, cls, now, hchecks⟩ := hauth.checks
      rw [hs.checks] at hchecks
      cases hchecks

/-- After `advance_epoch`, whatever state it starts from, no operation that brings no
evidence makes evidence current or an intervention live; every authorization is refused
and no dispatch gets past its checks. -/
theorem restart_fences (s t : GovernorState) (ops : List Op)
    (hops : ∀ op ∈ ops, ¬op.bringsEvidence)
    (hrun : Runs.exec step (advanceEpoch s).2 ops = some t) :
    (∀ id e, t.engine.evidence.find id = some e → e.status ≠ .current) ∧
    (∀ id r, t.engine.interventions.find id = some r →
      r.state ≠ .proposed ∧ r.state ≠ .authorized ∧ r.state ≠ .dispatched ∧
        r.state ≠ .acknowledged) ∧
    (∀ id cls now, authorize id cls now t = .ok (none, t)) ∧
    (∀ id now, ∃ e, dispatchBegin id now t = (.error e, t)) ∧
    ∀ id cls now now' adapters, ∃ status : Status, status.code ≠ .ok ∧
      authorizeAndDispatch id cls now now' adapters t = .ok (status, t) := by
  have hstep : ∀ u op u', Quiet u → ¬op.bringsEvidence → step u op = some u' → Quiet u' :=
    fun _ _ _ hu hop h => hu.step h hop
  have hquiet : Quiet t := Runs.invariant_of_guarded hstep (Runs.guarded_of_forall hops) hrun
    (quiet_advanceEpoch s)
  refine ⟨hquiet.evidence, ?_, hquiet.authorize, hquiet.dispatchBegin,
    hquiet.authorizeAndDispatch⟩
  intro id r hr
  have hlive := hquiet.interventions id r hr
  refine ⟨?_, ?_, ?_, ?_⟩ <;> rintro h <;> rw [h] at hlive <;> exact hlive rfl

theorem restart_fences_throttle :
    authorize ⟨1⟩ .throttle 9000
        (recordWorkerBoot ⟨2⟩ ⟨2⟩ (advanceEpoch (reached throttleNeighbor)).2).2 =
      .ok (none, (recordWorkerBoot ⟨2⟩ ⟨2⟩ (advanceEpoch (reached throttleNeighbor)).2).2) :=
  have h := restart_fences (reached throttleNeighbor) _ [.recordWorkerBoot ⟨2⟩ ⟨2⟩]
    (by simp [Op.bringsEvidence]) rfl
  h.2.2.1 ⟨1⟩ .throttle 9000

end ContentionGovernor
