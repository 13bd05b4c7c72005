import ContentionGovernor.EvidenceStore

/-!
# Revalidation before dispatch

`revalidate` compares the generations of the authority.  Those of the conflict and of the
evidence are in the fence too, and no dispatch reads them.
-/

namespace ContentionGovernor

namespace ConflictState

/-- The conflict is neither settled nor suspended. -/
def isActive : ConflictState → Bool
  | .resolved | .suppressed | .superseded | .revalidationRequired => false
  | _ => true

end ConflictState

/-- The conflict is active, and the evidence is CURRENT with the generation in the fence. -/
structure Grounded (s : GovernorState) (cid : ConflictId) (eid : InterferenceEvidenceId)
    (f : Fence) : Prop where
  active : ∃ c, s.engine.conflicts.find cid = some c ∧ c.state.isActive
  current : ∃ e, s.engine.evidence.find eid = some e ∧ e.status = .current ∧
    e.generation = f.evidenceGeneration

/-- If the last operation of the run gets a dispatch to the adapter, a step of the run
authorized it, and the conflict and the evidence of that authorization still stand. -/
def DispatchesGrounded (ops : List Op) (op : Op) : Prop :=
  ∀ s u id t, Runs.exec step {} ops = some s → InvokesAdapter s op id u t →
    ∃ pre aop post v g r eid, ops ++ [op] = pre ++ aop :: post ∧
      Runs.exec step {} pre = some v ∧ Authorizes v aop id g ∧
      g.conflict.evidenceIds.head? = some eid ∧
      u.engine.interventions.find id = some r ∧ r.fence = g.fence ∧
      Grounded u r.conflictId eid r.fence

/-! ## What leaves the ground standing -/

/-- The intervention that post-action evidence settles. -/
def Op.settled (s : GovernorState) : Op → Option InterventionId
  | .submitPostActionEvidence input => settledBy s input
  | _ => none

/-- The operation suspends or resolves the conflict that its evidence is for. -/
def Op.settlesConflict (s : GovernorState) : Op → Bool
  | .ingestEvidence input => (storedEvidence s input).status = .revalidationRequired
  | .submitPostActionEvidence input =>
    (closing s input).any fun v => verdict s input v = .resolved
  | _ => false

/-- The intervention is authorized, and the operation does not settle it. -/
structure Waits (s : GovernorState) (op : Op) (id : InterventionId) (r : InterventionRecord) :
    Prop where
  record : s.engine.interventions.find id = some r
  authorized : r.state = .authorized
  unsettled : op.settled s ≠ some id

/-- What is stored while an intervention waits renews its evidence, if it replaces it, and
does not settle its conflict; what is authorized has its first evidence CURRENT; and a new
conflict takes no id in use. -/
structure LeavesGround (s : GovernorState) (op : Op) : Prop where
  renewed : ∀ e, op.stored s = some e → ∀ id r, Waits s op id r → FrontOf s r.conflictId e.id →
    e.status = .current ∧ e.generation = r.fence.evidenceGeneration
  unsettled : ∀ e, op.stored s = some e → ∀ cid c,
    locateConflict s.engine.conflicts e = some (cid, c) → op.settlesConflict s →
      ∀ id r, Waits s op id r → r.conflictId ≠ cid
  unused : ∀ e, op.stored s = some e → locateConflict s.engine.conflicts e = none →
    s.engine.conflicts.find ⟨s.nextConflictId⟩ = none
  front : ∀ cid cls now, op.request = some (cid, cls, now) → ∀ eid e, FrontOf s cid eid →
    s.engine.evidence.find eid = some e → e.status = .current

/-! ## Fronts -/

/-- A conflict keeps its first evidence. -/
theorem FrontOf.step {s s' : GovernorState} {op : Op} {cid : ConflictId}
    {eid : InterferenceEvidenceId} (hf : FrontOf s cid eid) (hop : LeavesGround s op)
    (h : step s op = some s') (hload : ¬op.isLoad) : FrontOf s' cid eid := by
  obtain ⟨c, hc, hhead⟩ := hf
  rcases step_stores h hload with ⟨-, hkeeps⟩ | ⟨e, hstored, -, hjoins⟩
  · obtain ⟨c', hc', hsame⟩ := hkeeps.conflicts.exists_right hc
    exact ⟨c', hc', by rw [hsame.evidenceIds, hhead]⟩
  · cases hjoins with
    | listed cid₀ c₀ c' hlocated hconflicts _ _ hids =>
      by_cases hcid : cid = cid₀
      · -- The record is appended, so the first one stays first.
        subst hcid
        have hfind : s.engine.conflicts.find cid = some c₀ := locateConflict_find hlocated
        rw [hc, Option.some.injEq] at hfind
        refine ⟨c', by rw [hconflicts, OrderedMap.find_insert_self], ?_⟩
        rw [hids, ← hfind, List.head?_append, hhead]
        rfl
      · exact ⟨c, by rw [hconflicts, OrderedMap.find_insert_of_ne _ hcid, hc], hhead⟩
    | opened c' hlocated hconflicts =>
      have hcid : cid ≠ ⟨s.nextConflictId⟩ := by
        rintro rfl
        rw [hop.unused e hstored hlocated] at hc
        cases hc
      exact ⟨c, by rw [hconflicts, OrderedMap.find_insert_of_ne _ hcid, hc], hhead⟩
    | unlisted _ hconflicts => exact ⟨c, by rw [hconflicts, hc], hhead⟩

/-- A grant has taken the generation from the first record of its conflict. -/
theorem Granted.front {s : GovernorState} {id : ConflictId} {cls : InterventionClass}
    {now : TimeMs} {g : Grant} (h : Granted s id cls now g) :
    ∃ eid e, g.conflict.evidenceIds.head? = some eid ∧ s.engine.evidence.find eid = some e ∧
      e.generation = g.fence.evidenceGeneration := by
  obtain ⟨generation, hfront, hfence⟩ := h.fence
  unfold frontGeneration at hfront
  split at hfront
  · cases hfront
  · rename_i eid rest hids
    split at hfront
    · cases hfront
    · rename_i e he
      cases hfront
      exact ⟨eid, e, by rw [hids]; rfl, he, by rw [hfence]; rfl⟩

/-! ## Conflict states -/

theorem isActive_progress {p : ContentionPolicy} {e : InterferenceEvidence}
    {c : ContentionConflict} (hc : c.state.isActive) (he : e.status ≠ .revalidationRequired) :
    (progressConflict p e c).state.isActive := by
  unfold progressConflict
  split_ifs
  · rfl
  · rfl
  · rfl
  · exact hc

theorem isActive_outcome (o : VerificationOutcome) :
    (outcomeStates o).2.isActive ↔ o ≠ .resolved := by cases o <;> decide

/-- The conflict that post-action evidence is for, after it. -/
theorem submit_conflict {s : GovernorState} {input : InterferenceEvidence} {cid : ConflictId}
    {c : ContentionConflict} (hv : (validateEvidence input).isOk)
    (hlocated : locateConflict s.engine.conflicts (storedEvidence s input) = some (cid, c)) :
    (submitPostActionEvidence input s).2.engine.conflicts = s.engine.conflicts.insert cid
      { remeasureConflict c (storedEvidence s input) with
        state := ((closing s input).map fun v =>
          (outcomeStates (verdict s input v)).2).getD c.state } := by
  cases hclosing : closing s input with
  | some v =>
    obtain ⟨-, hlocated', -⟩ := closing_spec hclosing
    rw [hlocated, Option.some.injEq, Prod.mk.injEq] at hlocated'
    obtain ⟨rfl, rfl⟩ := hlocated'
    rw [submit_of_closing hclosing]
    exact OrderedMap.insert_insert ..
  | none =>
    rw [closing, if_pos hv, hlocated, Option.bind_some] at hclosing
    have hopen : openIntervention s.engine c.id = none := Option.map_eq_none_iff.mp hclosing
    obtain ⟨n, hstored⟩ := submitPostActionEvidence_of_valid (s := s) hv
    rw [hstored]
    unfold verifyEvidence
    dsimp only
    rw [hlocated]
    dsimp only
    split
    · rfl
    · rename_i entry _ _ hsome
      cases hsome.symm.trans hopen

/-- An active conflict stays active unless the operation settles it or the epoch advances. -/
theorem active_step {s s' : GovernorState} {op : Op} {cid : ConflictId}
    (hactive : ∃ c, s.engine.conflicts.find cid = some c ∧ c.state.isActive)
    (hunused : ∀ e, op.stored s = some e → locateConflict s.engine.conflicts e = none →
      s.engine.conflicts.find ⟨s.nextConflictId⟩ = none)
    (hsettles : ∀ e c, op.stored s = some e →
      locateConflict s.engine.conflicts e = some (cid, c) → op.settlesConflict s = false)
    (h : step s op = some s') (hload : ¬op.isLoad) (hepoch : op ≠ .advanceEpoch) :
    ∃ c, s'.engine.conflicts.find cid = some c ∧ c.state.isActive := by
  obtain ⟨c, hc, hstate⟩ := hactive
  have hsame : s'.engine.conflicts = s.engine.conflicts →
      ∃ c, s'.engine.conflicts.find cid = some c ∧ c.state.isActive :=
    fun heq => ⟨c, by rw [heq, hc], hstate⟩
  have hinsert : ∀ k c', s'.engine.conflicts = s.engine.conflicts.insert k c' →
      (cid = k → c'.state.isActive) →
      ∃ c, s'.engine.conflicts.find cid = some c ∧ c.state.isActive := by
    intro k c' heq hk
    by_cases hcid : cid = k
    · exact ⟨c', by rw [heq, hcid, OrderedMap.find_insert_self], hk hcid⟩
    · exact ⟨c, by rw [heq, OrderedMap.find_insert_of_ne _ hcid, hc], hstate⟩
  cases op with
  | ingestEvidence input =>
    cases h
    by_cases hv : (validateEvidence input).isOk
    · rcases ingest_conflicts (s := s) hv with ⟨hnone, heq⟩ | ⟨cid₀, c₀, hsome, heq⟩
      · refine hinsert _ _ heq fun hcid => ?_
        rw [hcid, hunused _ (if_pos hv) hnone] at hc
        cases hc
      · refine hinsert _ _ heq fun hcid => ?_
        subst hcid
        have hfind : s.engine.conflicts.find cid = some c₀ := locateConflict_find hsome
        rw [hc, Option.some.injEq] at hfind
        subst hfind
        exact isActive_progress (c := updateConflict c _) hstate
          (of_decide_eq_false (hsettles _ c (if_pos hv) hsome))
    · exact hsame (by rw [ingestEvidence_of_invalid hv])
  | submitPostActionEvidence input =>
    cases h
    by_cases hv : (validateEvidence input).isOk
    · cases hlocated : locateConflict s.engine.conflicts (storedEvidence s input) with
      | none =>
        rcases submit_remeasured (s := s) hv with ⟨-, heq⟩ | ⟨_, _, _, hsome, -⟩
        · exact hsame heq
        · cases hlocated.symm.trans hsome
      | some entry =>
        obtain ⟨cid₀, c₀⟩ := entry
        refine hinsert _ _ (submit_conflict hv hlocated) fun hcid => ?_
        subst hcid
        have hfind : s.engine.conflicts.find cid = some c₀ := locateConflict_find hlocated
        rw [hc, Option.some.injEq] at hfind
        subst hfind
        have hunsettled : (closing s input).any (fun v => verdict s input v = .resolved) = false :=
          hsettles _ c (if_pos hv) hlocated
        cases hclosing : closing s input with
        | none => exact hstate
        | some v =>
          rw [hclosing] at hunsettled
          exact (isActive_outcome _).mpr (of_decide_eq_false hunsettled)
    · exact hsame (by rw [submitPostActionEvidence_of_invalid hv])
  | advanceEpoch => exact absurd rfl hepoch
  | authorize | authorizeAndDispatch =>
    rcases step_of_request h rfl with ⟨-, rfl⟩ | ⟨g, -, hg, _, _, rfl⟩
    · exact hsame rfl
    · exact hinsert _ _ rfl fun _ => rfl
  | load => exact absurd rfl hload
  | _ => exact hsame ((step_frame h).conflicts rfl)

/-! ## Interventions that wait -/

/-- Every intervention that waits for its dispatch is grounded. -/
def AllGrounded (s : GovernorState) : Prop :=
  ∀ id r, s.engine.interventions.find id = some r → r.state = .authorized →
    ∃ eid, FrontOf s r.conflictId eid ∧ Grounded s r.conflictId eid r.fence

theorem advanceEpoch_not_authorized {s : GovernorState} {id : InterventionId}
    {r : InterventionRecord} (h : (advanceEpoch s).2.engine.interventions.find id = some r) :
    r.state ≠ .authorized := by
  simp only [advanceEpoch, OrderedMap.find_mapValues, Option.map_eq_some_iff] at h
  obtain ⟨i, -, rfl⟩ := h
  unfold abandonInFlight
  split_ifs with hlive
  · exact LifecycleState.noConfusion
  · exact fun hstate => hlive (.inr (.inr (.inl hstate)))

/-- An intervention that is AUTHORIZED after a step was waiting before it, or is new. -/
theorem waits_before {s s' : GovernorState} {op : Op} (h : step s op = some s')
    (hload : ¬op.isLoad) {id : InterventionId} {r' : InterventionRecord}
    (hr' : s'.engine.interventions.find id = some r') (hstate : r'.state = .authorized) :
    (∃ r, Waits s op id r ∧ SameAction r r') ∨
    ∃ cid cls now g, op.request = some (cid, cls, now) ∧ Granted s cid cls now g ∧
      SameAction (grantRecord s cid g now) r' := by
  have hpending : r'.state.isPending := by rw [hstate]; rfl
  rcases record_before h hload hr' with ⟨r, hr, hsame, hmoves⟩ |
    ⟨cid, cls, now, g, hreq, -, hg, -, hsame, -⟩
  · refine .inl ⟨r, ⟨hr, ?_, ?_⟩, hsame⟩
    · rcases hmoves with hkept | ⟨hpast, -⟩
      · rw [← hkept, hstate]
      · exact absurd hpending hpast
    · intro hsettled
      cases op with
      | submitPostActionEvidence input =>
        cases h
        exact settled_not_pending hsettled hr' hpending
      | _ => cases hsettled
  · exact .inr ⟨cid, cls, now, g, hreq, hg, hsame⟩

/-- Evidence that is CURRENT with a generation stays so, if what is stored in its place is. -/
theorem current_step {s s' : GovernorState} {op : Op} {eid : InterferenceEvidenceId}
    {generation : InterferenceEvidenceGeneration}
    (hcurrent : ∃ e, s.engine.evidence.find eid = some e ∧ e.status = .current ∧
      e.generation = generation)
    (hrenewed : ∀ e, op.stored s = some e → eid = e.id →
      e.status = .current ∧ e.generation = generation)
    (h : step s op = some s') (hload : ¬op.isLoad) (hepoch : op ≠ .advanceEpoch) :
    ∃ e, s'.engine.evidence.find eid = some e ∧ e.status = .current ∧
      e.generation = generation := by
  obtain ⟨e₀, he₀, hkept⟩ := hcurrent
  rcases step_stores h hload with ⟨-, hkeeps⟩ | ⟨e, hstored, hevidence, -⟩
  · have hreview : op.review = fun e => e := by
      cases op with
      | advanceEpoch => exact absurd rfl hepoch
      | _ => rfl
    exact ⟨e₀, by rw [hkeeps.evidence, he₀, hreview, Option.map_some], hkept⟩
  · by_cases heid : eid = e.id
    · exact ⟨e, by rw [hevidence, heid, OrderedMap.find_insert_self], hrenewed e hstored heid⟩
    · exact ⟨e₀, by rw [hevidence, OrderedMap.find_insert_of_ne _ heid, he₀], hkept⟩

theorem stored_of_request {s : GovernorState} {op : Op}
    {request : ConflictId × InterventionClass × TimeMs} (h : op.request = some request) :
    op.stored s = none := by
  cases op with
  | authorize | authorizeAndDispatch => rfl
  | _ => cases h

/-- A granted request makes its conflict active. -/
theorem active_of_granted {s s' : GovernorState} {op : Op} {cid : ConflictId}
    {cls : InterventionClass} {now : TimeMs} {g : Grant} (h : step s op = some s')
    (hreq : op.request = some (cid, cls, now)) (hg : Granted s cid cls now g) :
    ∃ c, s'.engine.conflicts.find cid = some c ∧ c.state.isActive := by
  rcases step_of_request h hreq with ⟨hnone, -⟩ | ⟨g', -, -, _, _, rfl⟩
  · exact absurd hg ((grant_eq_none hreq).mp hnone g)
  · exact ⟨_, OrderedMap.find_insert_self .., rfl⟩

theorem step_allGrounded {s s' : GovernorState} {op : Op} (hs : AllGrounded s)
    (hop : LeavesGround s op) (hload : ¬op.isLoad) (h : step s op = some s') :
    AllGrounded s' := by
  intro id r' hr' hstate
  have hepoch : op ≠ .advanceEpoch := by
    rintro rfl
    cases h
    exact advanceEpoch_not_authorized hr' hstate
  rcases waits_before h hload hr' hstate with ⟨r, hwaits, hsame⟩ |
    ⟨cid, cls, now, g, hreq, hg, hsame⟩
  · obtain ⟨eid, hfront, hactive, hcurrent⟩ := hs id r hwaits.record hwaits.authorized
    rw [hsame.conflictId, hsame.fence]
    refine ⟨eid, hfront.step hop h hload, ?_, ?_⟩
    · refine active_step hactive hop.unused (fun e c hstored hlocated => ?_) h hload hepoch
      -- A settled conflict has no intervention that waits.
      by_contra hsettles
      exact hop.unsettled e hstored _ c hlocated (Bool.eq_true_of_not_eq_false hsettles) id r
        hwaits rfl
    · refine current_step hcurrent (fun e hstored heid => ?_) h hload hepoch
      exact hop.renewed e hstored id r hwaits (heid ▸ hfront)
  · obtain ⟨eid, e, hhead, he, hgeneration⟩ := hg.front
    have hfront : FrontOf s cid eid := ⟨g.conflict, hg.conflict, hhead⟩
    rw [hsame.conflictId, hsame.fence]
    refine ⟨eid, hfront.step hop h hload, active_of_granted h hreq hg, ?_⟩
    have hcurrent := hop.front cid cls now hreq eid e hfront he
    refine current_step ⟨e, he, hcurrent, hgeneration⟩ (fun e' hstored _ => ?_) h hload hepoch
    rw [stored_of_request hreq] at hstored
    cases hstored

/-! ## The evidence of an authorization -/

/-- Every intervention is about a conflict that lists evidence. -/
def Anchored (s : GovernorState) : Prop :=
  ∀ id r, s.engine.interventions.find id = some r → ∃ eid, FrontOf s r.conflictId eid

/-- Fence and conflict of the record under an id, and the first evidence of the conflict. -/
def Cites (s : GovernorState) (id : InterventionId)
    (b : Fence × ConflictId × InterferenceEvidenceId) : Prop :=
  ∃ r, s.engine.interventions.find id = some r ∧ r.fence = b.1 ∧ r.conflictId = b.2.1 ∧
    FrontOf s b.2.1 b.2.2

/-- The step makes the record of a grant with this fence, on a conflict with this first
evidence. -/
def MakesCited (s : GovernorState) (op : Op) (_s' : GovernorState) (id : InterventionId)
    (b : Fence × ConflictId × InterferenceEvidenceId) : Prop :=
  ∃ g, Authorizes s op id g ∧ g.fence = b.1 ∧ g.conflict.evidenceIds.head? = some b.2.2

theorem authorizes_of_granted {s : GovernorState} {op : Op} {cid : ConflictId}
    {cls : InterventionClass} {now : TimeMs} {g : Grant}
    (hreq : op.request = some (cid, cls, now)) (hg : Granted s cid cls now g) :
    Authorizes s op ⟨s.nextInterventionId⟩ g := by
  refine ⟨rfl, ?_⟩
  cases op with
  | authorize | authorizeAndDispatch =>
    cases hreq
    exact checks_of_granted hg
  | _ => cases hreq

theorem step_anchored {s s' : GovernorState} {op : Op} (hs : Anchored s)
    (hop : LeavesGround s op) (hload : ¬op.isLoad) (h : step s op = some s') : Anchored s' := by
  intro id r' hr'
  rcases record_before h hload hr' with ⟨r, hr, hsame, -⟩ |
    ⟨cid, cls, now, g, -, -, hg, -, hsame, -⟩
  · obtain ⟨eid, hfront⟩ := hs id r hr
    rw [hsame.conflictId]
    exact ⟨eid, hfront.step hop h hload⟩
  · obtain ⟨eid, _, hhead, -⟩ := hg.front
    rw [hsame.conflictId]
    exact ⟨eid, FrontOf.step ⟨g.conflict, hg.conflict, hhead⟩ hop h hload⟩

theorem cites_of_step {s s' : GovernorState} {op : Op} {id : InterventionId}
    {b : Fence × ConflictId × InterferenceEvidenceId} (hs : Anchored s) (hop : LeavesGround s op)
    (hload : ¬op.isLoad) (h : step s op = some s') (hcites : Cites s' id b) :
    Cites s id b ∨ MakesCited s op s' id b := by
  obtain ⟨f, cid, eid⟩ := b
  obtain ⟨r', hr', rfl, rfl, hfront'⟩ := hcites
  rcases record_before h hload hr' with ⟨r, hr, hsame, -⟩ |
    ⟨cid, cls, now, g, hreq, -, hg, rfl, hsame, -⟩
  · obtain ⟨eid₀, hfront⟩ := hs id r hr
    rw [← hsame.conflictId] at hfront
    -- The first evidence of the conflict is the same before and after.
    have heid : eid = eid₀ := hfront'.unique (hfront.step hop h hload)
    exact .inl ⟨r, hr, hsame.fence.symm, hsame.conflictId.symm, heid ▸ hfront⟩
  · obtain ⟨eid₀, _, hhead, -⟩ := hg.front
    have hfront : FrontOf s r'.conflictId eid₀ := by
      rw [hsame.conflictId]
      exact ⟨g.conflict, hg.conflict, hhead⟩
    have heid : eid = eid₀ := hfront'.unique (hfront.step hop h hload)
    exact .inr ⟨g, authorizes_of_granted hreq hg, hsame.fence.symm, heid ▸ hhead⟩

/-! ## Runs -/

/-- No load, and the ground of what waits is left standing. -/
def KeepsGround (s : GovernorState) (op : Op) : Prop := ¬op.isLoad ∧ LeavesGround s op

/-- The request of `authorize_and_dispatch` is the one `authorize` would make. -/
theorem LeavesGround.authorize {s : GovernorState} {id : ConflictId} {cls : InterventionClass}
    {now now' : TimeMs} {adapters : Option AdapterRegistry}
    (h : LeavesGround s (.authorizeAndDispatch id cls now now' adapters)) :
    LeavesGround s (.authorize id cls now) where
  renewed := by
    intro e hstored
    cases hstored
  unsettled := by
    intro e hstored
    cases hstored
  unused := by
    intro e hstored
    cases hstored
  front := h.front

/-- In a run without a load that leaves the ground of waiting interventions standing, every
dispatch that invokes the adapter finds the conflict of its authorization active, and the
evidence that the fence's generation is from CURRENT with this generation. -/
theorem dispatches_grounded (ops : List Op) (op : Op)
    (hops : Runs.Guarded step KeepsGround {} (ops ++ [op])) : DispatchesGrounded ops op := by
  intro s u id t hrun hadapter
  have hgrounded : ∀ s op s', AllGrounded s → KeepsGround s op → step s op = some s' →
      AllGrounded s' := fun s op s' hs hop h => step_allGrounded hs hop.2 hop.1 h
  have hanchored : ∀ s op s', Anchored s → KeepsGround s op → step s op = some s' →
      Anchored s' := fun s op s' hs hop h => step_anchored hs hop.2 hop.1 h
  have hs : AllGrounded s := Runs.invariant_of_guarded hgrounded hops.append.1 hrun (by
    intro id r hr
    cases hr)
  have hlast : KeepsGround s op := hops.at_step hrun
  cases op with
  | dispatch j now adapters =>
    obtain ⟨rfl, rfl, hbegin⟩ := hadapter
    have hpair : dispatchBegin j now u = (.ok t, (dispatchBegin j now u).2) := by rw [← hbegin]
    obtain ⟨r, hr, hstate, -⟩ := dispatchBegin_ok hpair
    obtain ⟨eid, hfront, hground⟩ := hs j r hr hstate
    have hcites : Cites u j (r.fence, r.conflictId, eid) := ⟨r, hr, rfl, rfl, hfront⟩
    have hmade : ∀ s op s' id b, Anchored s → KeepsGround s op → step s op = some s' →
        Cites s' id b → Cites s id b ∨ MakesCited s op s' id b :=
      fun _ _ _ _ _ hs hop h hcites => cites_of_step hs hop.2 hop.1 h hcites
    have hnone : ∀ id b, ¬Cites {} id b := by
      rintro id b ⟨r, hr, -⟩
      cases hr
    obtain ⟨pre, aop, post, v, -, rfl, hv, -, g, hauth, hfence, hhead⟩ :=
      Runs.exists_origin hanchored hmade (by intro id r hr; cases hr) hnone hops.append.1 hrun hcites
    exact ⟨pre, aop, post ++ [.dispatch j now adapters], v, g, r, eid, by simp, hv, hauth, hhead,
      hr, hfence.symm, hground⟩
  | authorizeAndDispatch cid cls now now' adapters =>
    obtain ⟨-, hauthorize, hbegin⟩ := hadapter
    have hstep : step s (.authorize cid cls now) = some u := by
      rw [step, Op.run, hauthorize]
      rfl
    have hpair : dispatchBegin id now' u = (.ok t, (dispatchBegin id now' u).2) := by rw [← hbegin]
    obtain ⟨r, hr, hstate, -⟩ := dispatchBegin_ok hpair
    have hleaves := hlast.2.authorize
    obtain ⟨eid, hfront, hground⟩ :=
      step_allGrounded hs hleaves Bool.false_ne_true hstep id r hr hstate
    rcases authorize_cases hauthorize with ⟨-, hnone⟩ | ⟨g, hg, hgrant⟩
    · cases hnone
    · obtain ⟨hid, rfl⟩ := Prod.mk.inj hgrant
      cases hid
      have hgranted := granted_of_checks hg
      obtain ⟨eid₀, _, hhead, -⟩ := hgranted.front
      have hnew : r = grantRecord s cid g now := by
        simpa [commitGrant, grantRecord] using hr.symm
      subst hnew
      have hfront₀ : FrontOf s cid eid₀ := ⟨g.conflict, hgranted.conflict, hhead⟩
      have heid : eid₀ = eid :=
        (hfront₀.step hleaves hstep Bool.false_ne_true).unique hfront
      exact ⟨ops, _, [], s, g, _, eid, rfl, hrun, ⟨rfl, hg⟩, heid ▸ hhead, hr, rfl, hground⟩
  | _ => exact hadapter.elim

theorem keepsGround_of_quiet {s : GovernorState} {op : Op} (hload : ¬op.isLoad)
    (hstored : op.stored s = none) (hreq : op.request = none) : KeepsGround s op := by
  refine ⟨hload, ?_, ?_, ?_, ?_⟩
  · intro e he
    rw [hstored] at he
    cases he
  · intro e he
    rw [hstored] at he
    cases he
  · intro e he
    rw [hstored] at he
    cases he
  · intro cid cls now hrequest
    rw [hreq] at hrequest
    cases hrequest

theorem dispatches_grounded_throttle :
    DispatchesGrounded throttleNeighbor (.dispatch ⟨1⟩ 1500 (some acceptingAdapter)) := by
  have hdispatch : ∀ s, KeepsGround s (.dispatch ⟨1⟩ 1500 (some acceptingAdapter)) := fun _ =>
    keepsGround_of_quiet Bool.false_ne_true rfl rfl
  have hauthorize : ∀ s, FrontOf s ⟨1⟩ ⟨1⟩ →
      (s.engine.evidence.find ⟨1⟩).map (·.status) = some .current →
      KeepsGround s (.authorize ⟨1⟩ .throttle 1000) := by
    intro s hfront hstatus
    refine ⟨Bool.false_ne_true, fun _ he => (Option.some_ne_none _ he.symm).elim,
      fun _ he => (Option.some_ne_none _ he.symm).elim,
      fun _ he => (Option.some_ne_none _ he.symm).elim, ?_⟩
    intro cid cls now hreq eid e hfront' he
    cases hreq
    rw [hfront'.unique hfront] at he
    rw [he] at hstatus
    exact Option.some.inj hstatus
  have hingest : ∀ s : GovernorState, s.engine.interventions = .empty →
      s.engine.conflicts = .empty → KeepsGround s (.ingestEvidence slowdown) := by
    intro s hinterventions hconflicts
    have hnone : ∀ id r, ¬Waits s (.ingestEvidence slowdown) id r := by
      intro id r hwaits
      have hrecord := hwaits.record
      rw [hinterventions] at hrecord
      cases hrecord
    refine ⟨Bool.false_ne_true, fun _ _ id r hwaits => absurd hwaits (hnone id r),
      fun _ _ _ _ _ _ id r hwaits => absurd hwaits (hnone id r), fun _ _ _ => ?_,
      fun _ _ _ hreq => (Option.some_ne_none _ hreq.symm).elim⟩
    rw [hconflicts]
    rfl
  refine dispatches_grounded throttleNeighbor _ ⟨keepsGround_of_quiet Bool.false_ne_true rfl rfl,
    fun s₁ h₁ => ⟨keepsGround_of_quiet Bool.false_ne_true rfl rfl, fun s₂ h₂ => ⟨hingest s₂ ?_ ?_,
      fun s₃ h₃ => ⟨hauthorize s₃ ?_ ?_, fun s₄ _ => ⟨hdispatch s₄, fun _ _ => trivial⟩⟩⟩⟩⟩
  all_goals
    cases h₁
    cases h₂
  · rfl
  · rfl
  all_goals cases h₃
  · exact Option.map_eq_some_iff.mp (by decide +kernel)
  · decide +kernel

/-- Evidence 1 is reported again while the throttle on it waits: a new generation, which
requires revalidation. -/
def withdrawnEvidence : List Op :=
  throttleNeighbor ++ [.ingestEvidence
    { slowdown with id := ⟨1⟩, generation := ⟨2⟩, status := .revalidationRequired }]

theorem dispatch_ignores_withdrawn_evidence :
    ¬∀ ops op, (∀ o ∈ ops ++ [op], ¬o.isLoad) → DispatchesGrounded ops op := by
  intro h
  have hrun := @exec_reached withdrawnEvidence (by decide +kernel)
  have hticket : (dispatchBegin ⟨1⟩ 1500 (reached withdrawnEvidence)).1.toOption =
      some ⟨⟨1⟩, .throttle, ⟨2⟩, ⟨1⟩⟩ := by decide +kernel
  have hconflict : ((reached withdrawnEvidence).engine.interventions.find ⟨1⟩).map
      (·.conflictId) = some ⟨1⟩ := by decide +kernel
  have hstate : ((reached withdrawnEvidence).engine.conflicts.find ⟨1⟩).map (·.state) =
      some .revalidationRequired := by decide +kernel
  have hloads : ∀ o ∈ withdrawnEvidence ++ [.dispatch ⟨1⟩ 1500 (some acceptingAdapter)], ¬o.isLoad := by
    decide
  generalize reached withdrawnEvidence = s at hrun hticket hconflict hstate
  have hbegin : (dispatchBegin ⟨1⟩ 1500 s).1 = .ok ⟨⟨1⟩, .throttle, ⟨2⟩, ⟨1⟩⟩ :=
    eq_ok_of_toOption hticket
  obtain ⟨_, _, _, _, _, r, _, -, -, -, -, hr, -, hground⟩ :=
    h withdrawnEvidence _ hloads s s ⟨1⟩ _ hrun ⟨rfl, rfl, hbegin⟩
  obtain ⟨c, hc, hactive⟩ := hground.active
  rw [hr, Option.map_some, Option.some.injEq] at hconflict
  rw [hconflict] at hc
  rw [hc, Option.map_some, Option.some.injEq] at hstate
  rw [hstate] at hactive
  cases hactive

end ContentionGovernor
