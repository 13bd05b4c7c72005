import ContentionGovernor.EvidenceIntegrity

/-!
# Conflicts over whole runs

A conflict keeps its key, its domain and its affected workloads for good; its selections
only grow, and only a grant moves it to INTERVENTION_AUTHORIZED.
-/

namespace ContentionGovernor

/-! ## What a step does to a conflict -/

/-- Two versions of a conflict between which nothing has been selected for it. -/
structure CarriedOver (c c' : ContentionConflict) : Prop where
  id : c'.id = c.id
  domain : c'.domain = c.domain
  affected : c'.affected = c.affected
  selectedIds : c'.selectedIds = c.selectedIds
  state : c'.state = .interventionAuthorized → c.state = .interventionAuthorized

theorem CarriedOver.refl (c : ContentionConflict) : CarriedOver c c :=
  ⟨rfl, rfl, rfl, rfl, fun h => h⟩

theorem CarriedOver.trans {c c' c'' : ContentionConflict} (h : CarriedOver c c')
    (h' : CarriedOver c' c'') : CarriedOver c c'' :=
  ⟨h'.id.trans h.id, h'.domain.trans h.domain, h'.affected.trans h.affected,
    h'.selectedIds.trans h.selectedIds, fun hstate => h.state (h'.state hstate)⟩

/-- The conflict after a grant has been recorded for it. -/
def selectConflict (s : GovernorState) (g : Grant) (now : TimeMs) : ContentionConflict :=
  { g.conflict with
    state := .interventionAuthorized
    selectedIds := g.conflict.selectedIds ++ [⟨s.nextInterventionId⟩]
    lastActionAt := now }

/-- The step opens a conflict, without a selection, under the next key. -/
structure Opens (s s' : GovernorState) (c' : ContentionConflict) : Prop where
  id : c'.id = ⟨s.nextConflictId⟩
  selectedIds : c'.selectedIds = []
  state : c'.state ≠ .interventionAuthorized
  conflicts : s'.engine.conflicts = s.engine.conflicts.insert ⟨s.nextConflictId⟩ c'
  counter : s'.nextConflictId = s.nextConflictId + 1

/-- What is located for the evidence is carried over, and so is the rest. -/
structure CarriesAll (s s' : GovernorState) : Prop where
  conflicts : OrderedMap.Related (fun _ c c' => CarriedOver c c')
    s.engine.conflicts s'.engine.conflicts
  counter : s'.nextConflictId = s.nextConflictId

theorem CarriesAll.of_eq {s s' : GovernorState}
    (hconflicts : s'.engine.conflicts = s.engine.conflicts)
    (hcounter : s'.nextConflictId = s.nextConflictId) : CarriesAll s s' := by
  constructor
  · rw [hconflicts]
    exact OrderedMap.Related.refl (fun _ => CarriedOver.refl) _
  · exact hcounter

theorem carries_suspendConflict (c : ContentionConflict) : CarriedOver c (suspendConflict c) := by
  unfold suspendConflict
  split_ifs
  · exact ⟨rfl, rfl, rfl, rfl, fun h => by cases h⟩
  · exact CarriedOver.refl c

theorem carries_progressConflict (p : ContentionPolicy) (e : InterferenceEvidence)
    (c : ContentionConflict) : CarriedOver c (progressConflict p e c) := by
  unfold progressConflict
  split_ifs
  all_goals first | exact CarriedOver.refl c | exact ⟨rfl, rfl, rfl, rfl, fun h => by cases h⟩

theorem carries_updateConflict (c : ContentionConflict) (e : InterferenceEvidence) :
    CarriedOver c (updateConflict c e) := ⟨rfl, rfl, rfl, rfl, fun h => h⟩

theorem outcomeStates_not_authorized (outcome : VerificationOutcome) :
    (outcomeStates outcome).2 ≠ .interventionAuthorized := by
  cases outcome <;> exact ConflictState.noConfusion

theorem storeEvidence_history (s : GovernorState) (e : InterferenceEvidence) :
    CarriesAll s (storeEvidence s e) ∨ ∃ c', Opens s (storeEvidence s e) c' := by
  unfold storeEvidence
  dsimp only
  cases hlocated : locateConflict s.engine.conflicts e with
  | none =>
    have hcarries := carries_progressConflict s.engine.policy e (newConflict s e)
    refine .inr ⟨_, hcarries.id, hcarries.selectedIds, fun h => ?_, rfl, rfl⟩
    cases hcarries.state h
  | some entry =>
    refine .inl ⟨?_, rfl⟩
    refine OrderedMap.Related.insert (fun _ => CarriedOver.refl) (locateConflict_find hlocated) ?_
    exact (carries_updateConflict entry.2 e).trans (carries_progressConflict _ e _)

theorem verifyEvidence_history (s : GovernorState) (e : InterferenceEvidence) :
    CarriesAll s (verifyEvidence s e) := by
  unfold verifyEvidence settleIntervention
  dsimp only
  cases hlocated : locateConflict s.engine.conflicts e with
  | none => exact CarriesAll.of_eq rfl rfl
  | some entry =>
    have hfind := locateConflict_find hlocated
    dsimp only
    split
    · refine ⟨OrderedMap.Related.insert (fun _ => CarriedOver.refl) hfind ?_, rfl⟩
      exact ⟨rfl, rfl, rfl, rfl, fun h => h⟩
    · refine ⟨?_, rfl⟩
      rw [OrderedMap.insert_insert]
      refine OrderedMap.Related.insert (fun _ => CarriedOver.refl) hfind ?_
      exact ⟨rfl, rfl, rfl, rfl, fun h => absurd h (outcomeStates_not_authorized _)⟩

/-- The step records a selection for one conflict and leaves the others as they are. -/
structure Selects (s : GovernorState) (op : Op) (s' : GovernorState) (cid : ConflictId)
    (cls : InterventionClass) (now : TimeMs) (g : Grant) : Prop where
  request : op.request = some (cid, cls, now)
  grant : op.grant s = some g
  granted : Granted s cid cls now g
  only : OnlyInterventions (commitGrant s cid g now) s'

theorem Selects.conflicts {s s' : GovernorState} {op : Op} {cid : ConflictId}
    {cls : InterventionClass} {now : TimeMs} {g : Grant} (h : Selects s op s' cid cls now g) :
    s'.engine.conflicts = s.engine.conflicts.insert cid (selectConflict s g now) := by
  obtain ⟨_, _, rfl⟩ := h.only
  rfl

theorem Selects.counter {s s' : GovernorState} {op : Op} {cid : ConflictId}
    {cls : InterventionClass} {now : TimeMs} {g : Grant} (h : Selects s op s' cid cls now g) :
    s'.nextConflictId = s.nextConflictId := by
  obtain ⟨_, _, rfl⟩ := h.only
  rfl

/-- A step carries every conflict over, or it opens one, or it selects for one. -/
theorem step_history {s s' : GovernorState} {op : Op} (h : step s op = some s')
    (hload : ¬op.isLoad) :
    CarriesAll s s' ∨ (∃ c', Opens s s' c') ∨ ∃ cid cls now g, Selects s op s' cid cls now g := by
  cases op with
  | ingestEvidence input =>
    cases h
    by_cases hv : (validateEvidence input).isOk
    · obtain ⟨n, hstored⟩ := ingestEvidence_of_valid (s := s) hv
      rw [hstored]
      rcases storeEvidence_history { s with nextEvidenceId := n } (storedEvidence s input) with
        hcarries | ⟨c', hopens⟩
      · exact .inl ⟨hcarries.conflicts, hcarries.counter⟩
      · exact .inr (.inl ⟨c', hopens.id, hopens.selectedIds, hopens.state, hopens.conflicts,
          hopens.counter⟩)
    · rw [ingestEvidence_of_invalid hv]
      exact .inl (CarriesAll.of_eq rfl rfl)
  | submitPostActionEvidence input =>
    cases h
    by_cases hv : (validateEvidence input).isOk
    · obtain ⟨n, hstored⟩ := submitPostActionEvidence_of_valid (s := s) hv
      have hcarries := verifyEvidence_history { s with nextEvidenceId := n }
        (storedEvidence s input)
      rw [hstored]
      exact .inl ⟨hcarries.conflicts, hcarries.counter⟩
    · rw [submitPostActionEvidence_of_invalid hv]
      exact .inl (CarriesAll.of_eq rfl rfl)
  | advanceEpoch =>
    cases h
    exact .inl ⟨OrderedMap.Related.mapValues (fun _ => carries_suspendConflict) _, rfl⟩
  | authorize cid cls now | authorizeAndDispatch cid cls now =>
    rcases step_of_request h rfl with ⟨-, rfl⟩ | ⟨g, hgrant, hg, honly⟩
    · exact .inl (CarriesAll.of_eq rfl rfl)
    · exact .inr (.inr ⟨cid, cls, now, g, rfl, hgrant, hg, honly⟩)
  | setPolicy p =>
    cases h
    obtain ⟨_, _, hframe⟩ := setPolicy_frame p s
    rw [hframe]
    exact .inl (CarriesAll.of_eq rfl rfl)
  | dispatch id now adapters =>
    cases h
    obtain ⟨_, _, hframe⟩ := onlyInterventions_dispatch id now adapters s
    rw [hframe]
    exact .inl (CarriesAll.of_eq rfl rfl)
  | onAcknowledge id attempt now =>
    cases h
    obtain ⟨_, _, hframe⟩ := onlyInterventions_onAcknowledge id attempt now s
    rw [hframe]
    exact .inl (CarriesAll.of_eq rfl rfl)
  | onActionFailed id attempt note =>
    cases h
    obtain ⟨_, _, hframe⟩ := onlyInterventions_onActionFailed id attempt note s
    rw [hframe]
    exact .inl (CarriesAll.of_eq rfl rfl)
  | load => exact absurd rfl hload
  | _ =>
    cases h
    exact .inl (CarriesAll.of_eq rfl rfl)

/-- A step without a grant moves the records it finds; one with a grant moves those that the
grant has left. -/
theorem step_records {s s' : GovernorState} {op : Op} (h : step s op = some s')
    (hload : ¬op.isLoad) :
    (op.grant s = none ∧ s'.nextInterventionId = s.nextInterventionId ∧
      OrderedMap.Related (RecordStep s op) s.engine.interventions s'.engine.interventions) ∨
    ∃ cid cls now g, Selects s op s' cid cls now g ∧
      OrderedMap.Related (RecordStep s op) (commitGrant s cid g now).engine.interventions
        s'.engine.interventions := by
  cases hreq : op.request with
  | none =>
    have hnone : op.grant s = none := by
      rw [Op.grant, hreq, Option.bind_none]
    rcases step_interventions h hload with ⟨hnext, hrel⟩ | ⟨g, new, hauth, -⟩
    · exact .inl ⟨hnone, hnext, hrel⟩
    · obtain ⟨-, hrequest⟩ := hauth
      cases op with
      | authorize | authorizeAndDispatch => cases hreq
      | _ => exact hrequest.elim
  | some request =>
    obtain ⟨cid, cls, now⟩ := request
    rcases step_of_request h hreq with ⟨hnone, rfl⟩ | ⟨g, hgrant, hg, honly⟩
    · exact .inl ⟨hnone, rfl, related_refl _ op _⟩
    · exact .inr ⟨cid, cls, now, g, ⟨hreq, hgrant, hg, honly⟩, related_of_granted h hreq hg⟩

/-- Where a conflict after a step comes from. -/
theorem conflict_before {s s' : GovernorState} {op : Op} (h : step s op = some s')
    (hload : ¬op.isLoad) {cid : ConflictId} {c' : ContentionConflict}
    (hc' : s'.engine.conflicts.find cid = some c') :
    (∃ c, s.engine.conflicts.find cid = some c ∧ CarriedOver c c') ∨
    (cid = ⟨s.nextConflictId⟩ ∧ Opens s s' c') ∨
    ∃ cls now g, Selects s op s' cid cls now g ∧ c' = selectConflict s g now := by
  rcases step_history h hload with hcarries | ⟨new, hopens⟩ | ⟨cid₀, cls, now, g, hselects⟩
  · exact .inl (hcarries.conflicts.exists_left hc')
  · rw [hopens.conflicts] at hc'
    rcases OrderedMap.find_insert_cases hc' with ⟨hcid, rfl⟩ | ⟨-, hc'⟩
    · exact .inr (.inl ⟨hcid, hopens⟩)
    · exact .inl ⟨c', hc', CarriedOver.refl c'⟩
  · rw [hselects.conflicts] at hc'
    rcases OrderedMap.find_insert_cases hc' with ⟨rfl, rfl⟩ | ⟨-, hc'⟩
    · exact .inr (.inr ⟨cls, now, g, hselects, rfl⟩)
    · exact .inl ⟨c', hc', CarriedOver.refl c'⟩

/-! ## Keys -/

/-- No load, and the conflict counter below the top. -/
def CountsConflicts (s : GovernorState) (op : Op) : Prop :=
  ¬op.isLoad ∧ s.nextConflictId.toNat < 2 ^ 64 - 1

instance (s : GovernorState) (op : Op) : Decidable (CountsConflicts s op) :=
  inferInstanceAs (Decidable (_ ∧ _))

/-- Every conflict is under its own id, which the counter has passed. -/
def ConflictsKeyed (s : GovernorState) : Prop :=
  ∀ cid c, s.engine.conflicts.find cid = some c →
    c.id = cid ∧ cid.value.toNat < s.nextConflictId.toNat

theorem conflictsKeyed_empty : ConflictsKeyed {} := by
  intro cid c hc
  cases hc

theorem step_conflictsKeyed {s s' : GovernorState} {op : Op} (hs : ConflictsKeyed s)
    (hop : CountsConflicts s op) (h : step s op = some s') : ConflictsKeyed s' := by
  intro cid c' hc'
  rcases step_history h hop.1 with hcarries | ⟨new, hopens⟩ | ⟨cid₀, cls, now, g, hselects⟩
  · obtain ⟨c, hc, hsame⟩ := hcarries.conflicts.exists_left hc'
    rw [hsame.id, hcarries.counter]
    exact hs cid c hc
  · rw [hopens.conflicts] at hc'
    rw [hopens.counter, toNat_add_one hop.2]
    rcases OrderedMap.find_insert_cases hc' with ⟨rfl, rfl⟩ | ⟨-, hc'⟩
    · exact ⟨hopens.id, Nat.lt_succ_self _⟩
    · obtain ⟨hid, hlt⟩ := hs cid c' hc'
      exact ⟨hid, by omega⟩
  · rw [hselects.conflicts] at hc'
    rw [hselects.counter]
    rcases OrderedMap.find_insert_cases hc' with ⟨rfl, rfl⟩ | ⟨-, hc'⟩
    · exact hs cid g.conflict hselects.granted.conflict
    · exact hs cid c' hc'

/-- A key that the counter has not passed is free. -/
theorem ConflictsKeyed.next_free {s : GovernorState} (hs : ConflictsKeyed s) :
    s.engine.conflicts.find ⟨s.nextConflictId⟩ = none := by
  apply Option.eq_none_iff_forall_ne_some.mpr
  intro c hc
  exact Nat.lt_irrefl _ (hs _ c hc).2

/-- The later version of a conflict: about the same, with more selections. -/
structure Continues (c c' : ContentionConflict) : Prop where
  id : c'.id = c.id
  domain : c'.domain = c.domain
  affected : c'.affected = c.affected
  selectedIds : c.selectedIds <+: c'.selectedIds

theorem Continues.refl (c : ContentionConflict) : Continues c c := ⟨rfl, rfl, rfl, List.prefix_rfl⟩

theorem Continues.trans {c c' c'' : ContentionConflict} (h : Continues c c')
    (h' : Continues c' c'') : Continues c c'' :=
  ⟨h'.id.trans h.id, h'.domain.trans h.domain, h'.affected.trans h.affected,
    h.selectedIds.trans h'.selectedIds⟩

/-- No step loses a conflict or changes what it is about. -/
theorem conflict_kept {s s' : GovernorState} {op : Op} (hs : ConflictsKeyed s)
    (hload : ¬op.isLoad) (h : step s op = some s') {cid : ConflictId} {c : ContentionConflict}
    (hc : s.engine.conflicts.find cid = some c) :
    ∃ c', s'.engine.conflicts.find cid = some c' ∧ Continues c c' := by
  rcases step_history h hload with hcarries | ⟨new, hopens⟩ | ⟨cid₀, cls, now, g, hselects⟩
  · obtain ⟨c', hc', hsame⟩ := hcarries.conflicts.exists_right hc
    exact ⟨c', hc', hsame.id, hsame.domain, hsame.affected, by rw [hsame.selectedIds]⟩
  · have hne : cid ≠ ⟨s.nextConflictId⟩ := by
      rintro rfl
      rw [hs.next_free] at hc
      cases hc
    rw [hopens.conflicts, OrderedMap.find_insert_of_ne _ hne]
    exact ⟨c, hc, Continues.refl c⟩
  · rw [hselects.conflicts, OrderedMap.find_insert]
    split_ifs with hcid
    · rw [hcid, hselects.granted.conflict, Option.some.injEq] at hc
      rw [← hc]
      exact ⟨_, rfl, rfl, rfl, rfl, List.prefix_append _ _⟩
    · exact ⟨c, hc, Continues.refl c⟩

/-- A conflict of a run is still there in every later state. -/
theorem conflict_persists {pre post : List Op} {s t : GovernorState}
    (hops : Runs.Guarded step CountsConflicts {} (pre ++ post))
    (hpre : Runs.exec step {} pre = some s) (hpost : Runs.exec step s post = some t)
    {cid : ConflictId} {c : ContentionConflict} (hc : s.engine.conflicts.find cid = some c) :
    ∃ c', t.engine.conflicts.find cid = some c' ∧ Continues c c' := by
  have hkeyed : ConflictsKeyed s := Runs.invariant_of_guarded (fun _ _ _ => step_conflictsKeyed)
    hops.append.1 hpre conflictsKeyed_empty
  have hstep : ∀ u op u', (ConflictsKeyed u ∧
      ∃ c', u.engine.conflicts.find cid = some c' ∧ Continues c c') → CountsConflicts u op →
      step u op = some u' → (ConflictsKeyed u' ∧
        ∃ c', u'.engine.conflicts.find cid = some c' ∧ Continues c c') := by
    rintro u op u' ⟨hu, c', hc', hcont⟩ hop hstep
    obtain ⟨c'', hc'', hcont'⟩ := conflict_kept hu hop.1 hstep hc'
    exact ⟨step_conflictsKeyed hu hop hstep, c'', hc'', hcont.trans hcont'⟩
  exact (Runs.invariant_of_guarded hstep (hops.append.2 s hpre) hpost
    ⟨hkeyed, c, hc, Continues.refl c⟩).2

/-! ## One conflict for each victim and domain -/

/-- The search of both evidence operations, over conflicts in the given order. -/
def searchConflicts (entries : List (ConflictId × ContentionConflict))
    (e : InterferenceEvidence) : Option (ConflictId × ContentionConflict) :=
  entries.find? fun entry => entry.2.domain = e.domain ∧ e.victim ∈ entry.2.affected

/-- The conflict that an evidence operation selects: ingesting opens one where it finds
none. -/
def Op.receiver (s : GovernorState) (op : Op) : Option ConflictId :=
  (op.stored s).bind fun e =>
    match op with
    | .ingestEvidence _ =>
      some ((locateConflict s.engine.conflicts e).elim ⟨s.nextConflictId⟩ Prod.fst)
    | _ => (locateConflict s.engine.conflicts e).map Prod.fst

/-- The conflict is about the domain and has the victim among the affected workloads. -/
def IsAbout (c : ContentionConflict) (e : InterferenceEvidence) : Prop :=
  e.domain = c.domain ∧ e.victim ∈ c.affected

instance (c : ContentionConflict) (e : InterferenceEvidence) : Decidable (IsAbout c e) :=
  inferInstanceAs (Decidable (_ ∧ _))

theorem search_unique {s : GovernorState} (hs : OneConflict s) (e : InterferenceEvidence) :
    ∀ a ∈ s.engine.conflicts.entries, ∀ b ∈ s.engine.conflicts.entries,
      decide (a.2.domain = e.domain ∧ e.victim ∈ a.2.affected) →
      decide (b.2.domain = e.domain ∧ e.victim ∈ b.2.affected) → a = b := by
  intro a ha b hb hpa hpb
  obtain ⟨hda, hva⟩ := of_decide_eq_true hpa
  obtain ⟨hdb, hvb⟩ := of_decide_eq_true hpb
  have hfinda := OrderedMap.mem_entries.mp ha
  have hfindb := OrderedMap.mem_entries.mp hb
  have hkey := hs a.1 a.2 b.1 b.2 e.victim hfinda hfindb (hda.trans hdb.symm) hva hvb
  rw [hkey, hfindb, Option.some.injEq] at hfinda
  exact Prod.ext hkey hfinda.symm

/-- What is about the evidence is located for it. -/
theorem locate_of_isAbout {s : GovernorState} (hs : OneConflict s) {e : InterferenceEvidence}
    {cid : ConflictId} {c : ContentionConflict} (hc : s.engine.conflicts.find cid = some c)
    (habout : IsAbout c e) : locateConflict s.engine.conflicts e = some (cid, c) := by
  apply (OrderedMap.search_eq_some_iff (search_unique hs e)).mpr
  exact ⟨OrderedMap.mem_entries.mpr hc, decide_eq_true ⟨habout.1.symm, habout.2⟩⟩

/-- The conflict that ingesting selects lists the evidence afterwards, and is about it. -/
theorem storeEvidence_lists (s : GovernorState) (e : InterferenceEvidence) :
    ∃ c, (storeEvidence s e).engine.conflicts.find
        ((locateConflict s.engine.conflicts e).elim ⟨s.nextConflictId⟩ Prod.fst) = some c ∧
      IsAbout c e ∧ e.id ∈ c.evidenceIds := by
  rcases (storeEvidence_conflicts s e).2 with ⟨hnone, hinsert⟩ | ⟨key, c, hsome, hinsert⟩
  · have hsame := progressConflict_subject s.engine.policy e (newConflict s e)
    rw [hnone, hinsert, Option.elim_none, OrderedMap.find_insert_self]
    refine ⟨_, rfl, ⟨hsame.domain.symm, ?_⟩, ?_⟩
    · rw [hsame.affected]
      exact List.mem_singleton_self _
    · rw [hsame.evidenceIds]
      exact List.mem_singleton_self _
  · have hsame := progressConflict_subject s.engine.policy e (updateConflict c e)
    obtain ⟨hdomain, hvictim⟩ := locateConflict_matches hsome
    rw [hsome, hinsert, Option.elim_some, OrderedMap.find_insert_self]
    refine ⟨_, rfl, ⟨hdomain.trans hsame.domain.symm, ?_⟩, ?_⟩
    · rw [hsame.affected]
      exact hvictim
    · rw [hsame.evidenceIds]
      exact List.mem_append_right _ (List.mem_singleton_self _)

theorem verifyEvidence_lists {s : GovernorState} {e : InterferenceEvidence} {cid : ConflictId}
    (hcid : (locateConflict s.engine.conflicts e).map Prod.fst = some cid) :
    ∃ c, (verifyEvidence s e).engine.conflicts.find cid = some c ∧ IsAbout c e ∧
      e.id ∈ c.evidenceIds := by
  obtain ⟨⟨key, c⟩, hlocated, rfl⟩ := Option.map_eq_some_iff.mp hcid
  rcases verifyEvidence_conflicts s e with ⟨hnone, -⟩ | ⟨key', c', state, hlocated', hinsert⟩
  · rw [hlocated] at hnone
    cases hnone
  · rw [hlocated, Option.some.injEq, Prod.mk.injEq] at hlocated'
    obtain ⟨rfl, rfl⟩ := hlocated'
    rw [hinsert, OrderedMap.find_insert_self]
    have habout : IsAbout c e := locateConflict_matches hlocated
    exact ⟨_, rfl, ⟨habout.1, habout.2⟩, List.mem_append_right _ (List.mem_singleton_self _)⟩

/-- The conflict that an operation selects lists its evidence afterwards, and is about it. -/
theorem receiver_lists {s s' : GovernorState} {op : Op} (h : step s op = some s')
    {e : InterferenceEvidence} (he : op.stored s = some e) {cid : ConflictId}
    (hcid : op.receiver s = some cid) :
    ∃ c, s'.engine.conflicts.find cid = some c ∧ IsAbout c e ∧ e.id ∈ c.evidenceIds := by
  rw [Op.receiver, he, Option.bind_some] at hcid
  cases op with
  | ingestEvidence input =>
    cases h
    obtain ⟨hv, ⟨⟩⟩ := Option.ite_none_right_eq_some.mp he
    cases hcid
    obtain ⟨n, hstored⟩ := ingestEvidence_of_valid (s := s) hv
    rw [hstored]
    exact storeEvidence_lists { s with nextEvidenceId := n } (storedEvidence s input)
  | submitPostActionEvidence input =>
    cases h
    obtain ⟨hv, ⟨⟩⟩ := Option.ite_none_right_eq_some.mp he
    obtain ⟨n, hstored⟩ := submitPostActionEvidence_of_valid (s := s) hv
    rw [hstored]
    exact verifyEvidence_lists (s := { s with nextEvidenceId := n }) hcid
  | _ => cases he

/-- In a run from the empty governor without a load, with the conflict counter below its
top, no two conflicts of one domain affect one workload, and a conflict keeps its domain and
its affected workloads.  So both evidence operations select the same conflict for the same
domain and victim, at any two moments and in whatever order the conflicts are searched. -/
theorem one_conflict_per_victim (ops : List Op) (t : GovernorState)
    (hops : Runs.Guarded step CountsConflicts {} ops) (hrun : Runs.exec step {} ops = some t) :
    OneConflict t ∧
    (∀ pre s cid c, pre <+: ops → Runs.exec step {} pre = some s →
      s.engine.conflicts.find cid = some c → ∃ c', t.engine.conflicts.find cid = some c' ∧
        c'.domain = c.domain ∧ c'.affected = c.affected) ∧
    (∀ pre op s e cid, pre ++ [op] <+: ops → Runs.exec step {} pre = some s →
      op.stored s = some e → op.receiver s = some cid →
      ∀ (op' : Op) (e' : InterferenceEvidence), op'.stored t = some e' →
        e'.domain = e.domain → e'.victim = e.victim → op'.receiver t = some cid) ∧
    ∀ e entries, entries.Perm t.engine.conflicts.entries →
      searchConflicts entries e = locateConflict t.engine.conflicts e := by
  have hone : OneConflict t := by
    refine Runs.invariant_of_guarded (fun s op s' hs hop hstep => ?_) hops hrun ?_
    · exact step_oneConflict hs hop.1 hstep
    · intro cid c _ _ _ hc
      cases hc
  refine ⟨hone, ?_, ?_, fun e entries hperm => OrderedMap.search_perm hperm (search_unique hone e)⟩
  · rintro pre s cid c ⟨post, rfl⟩ hpre hc
    obtain ⟨u, hu, hpost⟩ := Runs.exec_append.mp hrun
    rw [hpre, Option.some.injEq] at hu
    subst hu
    obtain ⟨c', hc', hcont⟩ := conflict_persists hops hpre hpost hc
    exact ⟨c', hc', hcont.domain, hcont.affected⟩
  · rintro pre op s e cid ⟨post, rfl⟩ hpre he hcid op' e' he' hdomain hvictim
    obtain ⟨u, hu, hpost⟩ := Runs.exec_append.mp hrun
    obtain ⟨s₀, hs₀, hstep⟩ := Runs.exec_concat.mp hu
    rw [hpre, Option.some.injEq] at hs₀
    subst hs₀
    -- The conflict lists the evidence after the step, and is about the same at the end.
    obtain ⟨c, hc, habout, -⟩ := receiver_lists hstep he hcid
    obtain ⟨c', hc', hcont⟩ := conflict_persists hops hu hpost hc
    have hlocated : locateConflict t.engine.conflicts e' = some (cid, c') := by
      refine locate_of_isAbout hone hc' ⟨?_, ?_⟩
      · rw [hdomain, habout.1, hcont.domain]
      · rw [hvictim, hcont.affected]
        exact habout.2
    rw [Op.receiver, he', Option.bind_some, hlocated]
    cases op' <;> rfl

/-- Workload 1 is observed twice, with a throttle between. -/
def observedTwice : List Op := throttleNeighbor ++ [.ingestEvidence slowdown]

theorem one_conflict_per_victim_twice : OneConflict (reached observedTwice) :=
  (one_conflict_per_victim observedTwice _ (by decide +kernel)
    (exec_reached (by decide +kernel))).1

end ContentionGovernor
