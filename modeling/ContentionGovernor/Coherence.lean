import ContentionGovernor.ConflictHistory

/-!
# Conflicts that claim an authorized intervention

A conflict leaves INTERVENTION_AUTHORIZED with new evidence, a verification or an epoch
change.  A dispatch that is refused or fails, and a failure report, only move the record.
-/

namespace ContentionGovernor

/-- The record under the id is AUTHORIZED, DISPATCHED or ACKNOWLEDGED. -/
def IsOpen (s : GovernorState) (id : InterventionId) : Prop :=
  (s.engine.interventions.find id).any fun r => r.state.isOpen

instance (s : GovernorState) (id : InterventionId) : Decidable (IsOpen s id) :=
  inferInstanceAs (Decidable (_ = true))

/-- Every conflict that claims an authorized intervention has selected one that is open. -/
def Coherent (s : GovernorState) : Prop :=
  ∀ cid c, s.engine.conflicts.find cid = some c → c.state = .interventionAuthorized →
    ∃ id ∈ c.selectedIds, IsOpen s id

theorem isOpen_iff {s : GovernorState} {id : InterventionId} :
    IsOpen s id ↔ ∃ r, s.engine.interventions.find id = some r ∧ r.state.isOpen := by
  rw [IsOpen, Option.any_eq_true]

/-! ## What ends an intervention -/

/-- Dispatching the record ends it: the fence is stale, or the adapter does not accept. -/
def EndsAction (s : GovernorState) (id : InterventionId) (adapters : Option AdapterRegistry)
    (r : InterventionRecord) : Prop :=
  (revalidate s.engine r.fence r.target).code ≠ .ok ∨
    (callAdapter adapters ⟨id, r.cls, r.target, r.attemptId⟩).outcome ≠ .accepted

instance (s : GovernorState) (id : InterventionId) (adapters : Option AdapterRegistry)
    (r : InterventionRecord) : Decidable (EndsAction s id adapters r) :=
  inferInstanceAs (Decidable (_ ∨ _))

/-- Every conflict that claims an authorized intervention and has selected this one has
selected another that is open. -/
def HasReserve (s : GovernorState) (id : InterventionId) : Prop :=
  ∀ entry ∈ s.engine.conflicts.entries, entry.2.state = .interventionAuthorized →
    id ∈ entry.2.selectedIds → ∃ j ∈ entry.2.selectedIds, j ≠ id ∧ IsOpen s j

instance (s : GovernorState) (id : InterventionId) : Decidable (HasReserve s id) :=
  inferInstanceAs (Decidable (∀ entry ∈ s.engine.conflicts.entries, _))

/-- The last open intervention of a conflict that claims one is ended neither by a dispatch
nor by a failure report, and a request takes no intervention id that is in use. -/
def KeepsOpen (s : GovernorState) : Op → Prop
  | .dispatch id _ adapters => ∀ r ∈ s.engine.interventions.find id, r.state = .authorized →
    EndsAction s id adapters r → HasReserve s id
  | .onActionFailed id _ _ => IsOpen s id → HasReserve s id
  | .authorize _ _ _ => s.engine.interventions.find ⟨s.nextInterventionId⟩ = none
  | .authorizeAndDispatch id cls now now' adapters =>
    s.engine.interventions.find ⟨s.nextInterventionId⟩ = none ∧
      ∀ g ∈ Op.grant s (.authorizeAndDispatch id cls now now' adapters),
        (callAdapter adapters ⟨⟨s.nextInterventionId⟩, g.cls, g.target,
          ⟨s.nextAttemptId⟩⟩).outcome ≠ .accepted → ∃ j ∈ g.conflict.selectedIds, IsOpen s j
  | .load _ _ _ => False
  | _ => True

instance (s : GovernorState) : (op : Op) → Decidable (KeepsOpen s op)
  | .dispatch id _ adapters =>
    inferInstanceAs (Decidable (∀ r ∈ s.engine.interventions.find id, r.state = .authorized →
      EndsAction s id adapters r → HasReserve s id))
  | .onActionFailed id _ _ => inferInstanceAs (Decidable (IsOpen s id → HasReserve s id))
  | .authorize _ _ _ =>
    inferInstanceAs (Decidable (s.engine.interventions.find ⟨s.nextInterventionId⟩ = none))
  | .authorizeAndDispatch id cls now now' adapters =>
    inferInstanceAs (Decidable (s.engine.interventions.find ⟨s.nextInterventionId⟩ = none ∧
      ∀ g ∈ Op.grant s (.authorizeAndDispatch id cls now now' adapters),
        (callAdapter adapters ⟨⟨s.nextInterventionId⟩, g.cls, g.target,
          ⟨s.nextAttemptId⟩⟩).outcome ≠ .accepted → ∃ j ∈ g.conflict.selectedIds, IsOpen s j))
  | .load _ _ _ => .isFalse id
  | .setPolicy _ | .setAuthority _ | .recordWorkerBoot _ _ | .recordWorkloadGeneration _ _
  | .advanceEpoch | .ingestEvidence _ | .evaluate _ | .onAcknowledge _ _ _
  | .submitPostActionEvidence _ | .save => .isTrue trivial

/-! ## Records after a step -/

/-- The operation takes the record out of its open states. -/
def Ends (s : GovernorState) (op : Op) (id : InterventionId) (r : InterventionRecord) : Prop :=
  match op with
  | .advanceEpoch => True
  | .dispatch j _ adapters => j = id ∧ r.state = .authorized ∧ EndsAction s id adapters r
  | .onActionFailed j _ _ => j = id
  | .submitPostActionEvidence input => settledBy s input = some id
  | _ => False

theorem dispatch_accepted {s : GovernorState} {id : InterventionId} {r : InterventionRecord}
    {now : TimeMs} {adapters : Option AdapterRegistry}
    (hr : s.engine.interventions.find id = some r) (hstate : r.state = .authorized)
    (hends : ¬EndsAction s id adapters r) :
    IsOpen (dispatch id now adapters s).2 id := by
  obtain ⟨hvalid, haccepted⟩ := not_or.mp hends
  rw [dispatch_of_valid hr hstate (not_not.mp hvalid), isOpen_iff]
  refine ⟨_, OrderedMap.find_insert_self .., ?_⟩
  rw [applyOutcome_state, not_not.mp haccepted]
  rfl

/-- A record that is open before a step is open after it, unless the step ends it. -/
theorem open_after {s s' : GovernorState} {op : Op} (h : step s op = some s')
    (hload : ¬op.isLoad) {id : InterventionId} {r : InterventionRecord}
    (hfree : (op.grant s).isSome → id ≠ ⟨s.nextInterventionId⟩)
    (hr : s.engine.interventions.find id = some r) (hopen : r.state.isOpen)
    (hends : ¬Ends s op id r) : IsOpen s' id := by
  obtain ⟨r', hr', -, hmoves⟩ := record_kept h hload hfree hr
  rcases hmoves with hstate | ⟨-, hmoves⟩
  · exact isOpen_iff.mpr ⟨r', hr', by rw [hstate]; exact hopen⟩
  · cases op with
    | dispatch j now adapters =>
      obtain ⟨rfl, hstate⟩ := hmoves
      cases h
      exact dispatch_accepted hr hstate fun hend => hends ⟨rfl, hstate, hend⟩
    | authorizeAndDispatch cid cls now now' adapters =>
      -- Only the new record could move, and the id is not its id.
      obtain ⟨hid, -⟩ := hmoves
      rcases step_of_request h rfl with ⟨-, rfl⟩ | ⟨g, hgrant, -, -⟩
      · exact isOpen_iff.mpr ⟨r, hr, hopen⟩
      · exact absurd hid (hfree (by rw [hgrant]; rfl))
    | onAcknowledge j attempt now =>
      obtain ⟨rfl, hstate⟩ := hmoves
      cases h
      rw [isOpen_iff]
      simp only [onAcknowledge, hr, hstate, ne_eq, not_true_eq_false, if_false, setIntervention,
        OrderedMap.find_insert_self]
      exact ⟨_, rfl, rfl⟩
    | advanceEpoch => exact absurd trivial hends
    | onActionFailed => exact absurd hmoves.1 hends
    | submitPostActionEvidence => exact absurd hmoves.1 hends
    | _ => exact hmoves.elim

/-- The new record of a granted request is open, unless the dispatch of the same operation
ends it. -/
theorem granted_open {s s' : GovernorState} {op : Op} {cid : ConflictId}
    {cls : InterventionClass} {now : TimeMs} {g : Grant} (h : step s op = some s')
    (hselects : Selects s op s' cid cls now g)
    (haccepted : ∀ cid cls now now' adapters,
      op = .authorizeAndDispatch cid cls now now' adapters →
      (callAdapter adapters ⟨⟨s.nextInterventionId⟩, g.cls, g.target,
        ⟨s.nextAttemptId⟩⟩).outcome = .accepted) : IsOpen s' ⟨s.nextInterventionId⟩ := by
  have hg := hselects.granted
  have hnew : (commitGrant s cid g now).engine.interventions.find ⟨s.nextInterventionId⟩ =
      some (grantRecord s cid g now) := OrderedMap.find_insert_self ..
  cases op with
  | authorize =>
    cases hselects.request
    obtain ⟨r, hr, rfl⟩ := map_toOption h
    rw [authorize_of_granted hg] at hr
    cases hr
    exact isOpen_iff.mpr ⟨_, hnew, rfl⟩
  | authorizeAndDispatch _ _ _ now' adapters =>
    cases hselects.request
    obtain ⟨r, hr, rfl⟩ := map_toOption h
    rw [authorizeAndDispatch_of_granted hg] at hr
    cases hr
    apply dispatch_accepted hnew rfl
    rintro (hstale | hrefused)
    · exact hstale hg.valid
    · exact hrefused (haccepted _ _ _ _ _ rfl)
  | _ => cases hselects.request

/-! ## Runs -/

/-- What keeps the two maps in step: a conflict is under its own id, and what it has
selected is recorded for it. -/
structure Backed (s : GovernorState) : Prop where
  keyed : ∀ cid c, s.engine.conflicts.find cid = some c → c.id = cid
  listed : ∀ cid c, s.engine.conflicts.find cid = some c → ∀ id ∈ c.selectedIds,
    ∃ r, s.engine.interventions.find id = some r ∧ r.conflictId = cid
  coherent : Coherent s

theorem backed_empty : Backed {} := by
  constructor
  all_goals
    intro cid c hc
    cases hc

theorem KeepsOpen.not_load {s : GovernorState} {op : Op} (h : KeepsOpen s op) : ¬op.isLoad := by
  intro hload
  cases op with
  | load => exact h
  | _ => cases hload

theorem KeepsOpen.free {s : GovernorState} {op : Op} (h : KeepsOpen s op) {g : Grant}
    (hg : op.grant s = some g) : s.engine.interventions.find ⟨s.nextInterventionId⟩ = none := by
  cases op with
  | authorize => exact h
  | authorizeAndDispatch => exact h.1
  | _ => cases hg

/-- A record in use is not the one that a request creates. -/
theorem KeepsOpen.ne_next {s : GovernorState} {op : Op} (h : KeepsOpen s op)
    {id : InterventionId} {r : InterventionRecord}
    (hr : s.engine.interventions.find id = some r) (hg : (op.grant s).isSome) :
    id ≠ ⟨s.nextInterventionId⟩ := by
  obtain ⟨g, hg⟩ := Option.isSome_iff_exists.mp hg
  rintro rfl
  rw [h.free hg] at hr
  cases hr

theorem suspendConflict_not_authorized (c : ContentionConflict) :
    (suspendConflict c).state ≠ .interventionAuthorized := by
  unfold suspendConflict
  split_ifs with hstate
  · exact ConflictState.noConfusion
  · intro h
    apply hstate
    rw [h]
    exact ⟨ConflictState.noConfusion, ConflictState.noConfusion, ConflictState.noConfusion⟩

/-- The conflict of a settled intervention no longer claims one. -/
theorem settled_conflict {s : GovernorState} (hs : Backed s) {input : InterferenceEvidence}
    {id : InterventionId} (hsettled : settledBy s input = some id) {cid : ConflictId}
    {c c' : ContentionConflict} (hc : s.engine.conflicts.find cid = some c)
    (hid : id ∈ c.selectedIds)
    (hc' : (submitPostActionEvidence input s).2.engine.conflicts.find cid = some c') :
    c'.state ≠ .interventionAuthorized := by
  obtain ⟨v, hclosing, hv⟩ : ∃ v, closing s input = some v ∧ v.id = id := by
    unfold settledBy at hsettled
    split_ifs at hsettled with hvalid
    obtain ⟨entry, hlocated, hopened⟩ := Option.bind_eq_some_iff.mp hsettled
    obtain ⟨first, hfirst, rfl⟩ := Option.map_eq_some_iff.mp hopened
    refine ⟨⟨entry.1, entry.2, first.1, first.2⟩, ?_, rfl⟩
    unfold closing storedEvidence
    rw [if_pos hvalid, hlocated, Option.bind_some, hfirst, Option.map_some]
  obtain ⟨-, hlocated, hopened⟩ := closing_spec hclosing
  -- The record says which conflict it is for, and this one lists it.
  obtain ⟨r, hr, hfor⟩ := hs.listed cid c hc id hid
  have hrecord := (openIntervention_spec hopened).1
  rw [← hv, hrecord, Option.some.injEq] at hr
  have hkey : v.key = cid := by
    rw [← hs.keyed v.key v.conflict (locateConflict_find hlocated), ← hfor, ← hr]
    exact (openIntervention_open hopened).1.symm
  rw [submit_of_closing hclosing, settleIntervention, hkey, OrderedMap.find_insert_self,
    Option.some.injEq] at hc'
  rw [← hc']
  exact outcomeStates_not_authorized _

/-- A conflict that goes on claiming an authorized intervention has one that is open. -/
theorem claim_backed {s s' : GovernorState} {op : Op} (hs : Backed s) (hop : KeepsOpen s op)
    (h : step s op = some s') {cid : ConflictId} {c c' : ContentionConflict}
    (hc : s.engine.conflicts.find cid = some c) (hcarries : CarriedOver c c')
    (hc' : s'.engine.conflicts.find cid = some c')
    (hstate : c'.state = .interventionAuthorized) : ∃ id ∈ c'.selectedIds, IsOpen s' id := by
  have hclaims := hcarries.state hstate
  obtain ⟨id, hid, hopen⟩ := hs.coherent cid c hc hclaims
  rw [hcarries.selectedIds]
  have hafter : ∀ {j r}, s.engine.interventions.find j = some r → r.state.isOpen →
      ¬Ends s op j r → IsOpen s' j :=
    fun hr hr_open => open_after h hop.not_load (hop.ne_next hr) hr hr_open
  obtain ⟨r, hr, hr_open⟩ := isOpen_iff.mp hopen
  by_cases hends : Ends s op id r
  · cases op with
    | advanceEpoch =>
      cases h
      have hsuspended : (s.engine.conflicts.find cid).map suspendConflict = some c' := by
        rw [← OrderedMap.find_mapValues]
        exact hc'
      rw [hc, Option.map_some, Option.some.injEq] at hsuspended
      rw [← hsuspended] at hstate
      exact absurd hstate (suspendConflict_not_authorized c)
    | submitPostActionEvidence input =>
      cases h
      exact absurd hstate (settled_conflict hs hends hc hid hc')
    | dispatch k now adapters =>
      obtain ⟨rfl, hauthorized, hend⟩ := hends
      obtain ⟨j, hj, hne, hj_open⟩ :=
        hop r hr hauthorized hend (cid, c) (OrderedMap.mem_entries.mpr hc) hclaims hid
      obtain ⟨r', hr', hr'_open⟩ := isOpen_iff.mp hj_open
      exact ⟨j, hj, hafter hr' hr'_open fun hends' => hne hends'.1.symm⟩
    | onActionFailed k attempt note =>
      have hk : k = id := hends
      subst hk
      obtain ⟨j, hj, hne, hj_open⟩ :=
        hop hopen (cid, c) (OrderedMap.mem_entries.mpr hc) hclaims hid
      obtain ⟨r', hr', hr'_open⟩ := isOpen_iff.mp hj_open
      exact ⟨j, hj, hafter hr' hr'_open fun hends' => hne (Eq.symm hends')⟩
    | _ => exact hends.elim
  · exact ⟨id, hid, hafter hr hr_open hends⟩

/-- A conflict that an intervention has just been selected for has one that is open. -/
theorem selection_backed {s s' : GovernorState} {op : Op} (hop : KeepsOpen s op)
    (h : step s op = some s') {cid : ConflictId} {cls : InterventionClass} {now : TimeMs}
    {g : Grant} (hselects : Selects s op s' cid cls now g) :
    ∃ id ∈ (selectConflict s g now).selectedIds, IsOpen s' id := by
  have hnew : (⟨s.nextInterventionId⟩ : InterventionId) ∈ (selectConflict s g now).selectedIds :=
    List.mem_append_right _ (List.mem_singleton_self _)
  by_cases haccepted : ∀ cid cls now now' adapters,
      op = .authorizeAndDispatch cid cls now now' adapters →
      (callAdapter adapters ⟨⟨s.nextInterventionId⟩, g.cls, g.target,
        ⟨s.nextAttemptId⟩⟩).outcome = .accepted
  · exact ⟨_, hnew, granted_open h hselects haccepted⟩
  · -- The dispatch of the same operation ends the new record, but not an older one.
    push Not at haccepted
    obtain ⟨_, _, _, _, _, rfl, hrefused⟩ := haccepted
    obtain ⟨j, hj, hopen⟩ := hop.2 g hselects.grant hrefused
    obtain ⟨r, hr, hr_open⟩ := isOpen_iff.mp hopen
    exact ⟨j, List.mem_append_left _ hj,
      open_after h Bool.false_ne_true (hop.ne_next hr) hr hr_open not_false⟩

theorem step_backed {s s' : GovernorState} {op : Op} (hs : Backed s) (hop : KeepsOpen s op)
    (h : step s op = some s') : Backed s' := by
  have hkept : ∀ {cid c}, s.engine.conflicts.find cid = some c → ∀ id ∈ c.selectedIds,
      ∃ r, s'.engine.interventions.find id = some r ∧ r.conflictId = cid := by
    intro cid c hc id hid
    obtain ⟨r, hr, hfor⟩ := hs.listed cid c hc id hid
    obtain ⟨r', hr', hsame, -⟩ := record_kept h hop.not_load (hop.ne_next hr) hr
    exact ⟨r', hr', hsame.conflictId.trans hfor⟩
  constructor
  · intro cid c' hc'
    rcases conflict_before h hop.not_load hc' with ⟨c, hc, hcarries⟩ | ⟨rfl, hopens⟩ |
      ⟨cls, now, g, hselects, rfl⟩
    · exact hcarries.id.trans (hs.keyed cid c hc)
    · exact hopens.id
    · exact hs.keyed cid g.conflict hselects.granted.conflict
  · intro cid c' hc' id hid
    rcases conflict_before h hop.not_load hc' with ⟨c, hc, hcarries⟩ | ⟨rfl, hopens⟩ |
      ⟨cls, now, g, hselects, rfl⟩
    · exact hkept hc id (hcarries.selectedIds ▸ hid)
    · rw [hopens.selectedIds] at hid
      cases hid
    · rcases List.mem_append.mp hid with hid | hid
      · exact hkept hselects.granted.conflict id hid
      · rw [List.mem_singleton.mp hid]
        obtain ⟨r, hr, hsame, -⟩ :=
          (related_of_granted h hselects.request hselects.granted).exists_right
            (OrderedMap.find_insert_self ..)
        exact ⟨r, hr, hsame.conflictId⟩
  · intro cid c' hc' hstate
    rcases conflict_before h hop.not_load hc' with ⟨c, hc, hcarries⟩ | ⟨rfl, hopens⟩ |
      ⟨cls, now, g, hselects, rfl⟩
    · exact claim_backed hs hop h hc hcarries hc' hstate
    · exact absurd hstate hopens.state
    · exact selection_backed hop h hselects

/-- In a run from the empty governor in which no dispatch and no failure report ends the last
open intervention of a conflict that claims one, every conflict that claims an authorized
intervention has one. -/
theorem states_cohere (ops : List Op) (s : GovernorState)
    (hops : Runs.Guarded step KeepsOpen {} ops) (hrun : Runs.exec step {} ops = some s) :
    Coherent s :=
  (Runs.invariant_of_guarded (fun _ _ _ => step_backed) hops hrun backed_empty).coherent

/-- Two throttles are authorized, and the adapter refuses the first. -/
def refusedOnce : List Op :=
  throttleNeighbor ++ [.authorize ⟨1⟩ .throttle 10000, .dispatch ⟨1⟩ 10500 none]

theorem states_cohere_refused : Coherent (reached refusedOnce) :=
  states_cohere refusedOnce _ (by decide +kernel) (exec_reached (by decide +kernel))

/-- The only throttle is refused. -/
def refusedThrottle : List Op := throttleNeighbor ++ [.dispatch ⟨1⟩ 1500 none]

theorem refused_dispatch_leaves_claim :
    ¬∀ ops s, (∀ op ∈ ops, ¬op.isLoad) → Runs.exec step {} ops = some s → Coherent s := by
  intro h
  have hcoherent := h refusedThrottle _ (by decide) (exec_reached (by decide +kernel))
  have hclaims : ((reached refusedThrottle).engine.conflicts.find ⟨1⟩).map
      (fun c => (c.state, c.selectedIds)) = some (.interventionAuthorized, [⟨1⟩]) := by
    decide +kernel
  have hended : ¬IsOpen (reached refusedThrottle) ⟨1⟩ := by decide +kernel
  obtain ⟨c, hc, hpair⟩ := Option.map_eq_some_iff.mp hclaims
  obtain ⟨hstate, hids⟩ := Prod.mk.inj hpair
  obtain ⟨id, hid, hopen⟩ := hcoherent ⟨1⟩ c hc hstate
  rw [hids, List.mem_singleton] at hid
  rw [hid] at hopen
  exact hended hopen

end ContentionGovernor
