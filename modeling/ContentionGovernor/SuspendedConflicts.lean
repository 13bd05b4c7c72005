import ContentionGovernor.ActionBudget
import ContentionGovernor.ConflictHistory
import ContentionGovernor.EvidenceLink

/-!
# Suspended conflicts

An evaluation looks at the evidence that a conflict lists, and not at the state of the
conflict.  So a suspended conflict is refused as long as nothing it lists is usable.
-/

namespace ContentionGovernor

/-! ## Usable evidence -/

/-- The conflict lists usable evidence. -/
def ListsUsable (s : GovernorState) (c : ContentionConflict) : Prop :=
  ∃ eid ∈ c.evidenceIds, ∃ e ∈ s.engine.evidence.find eid, isUsable e

instance (s : GovernorState) (c : ContentionConflict) : Decidable (ListsUsable s c) :=
  inferInstanceAs (Decidable (∃ eid ∈ c.evidenceIds, _))

/-- Without usable evidence a conflict has no candidate, whatever is asked for. -/
theorem refused_of_unusable {s : GovernorState} {cid : ConflictId} {c : ContentionConflict}
    (hc : s.engine.conflicts.find cid = some c) (hunusable : ¬ListsUsable s c)
    (cls : InterventionClass) (now : TimeMs) : authorize cid cls now s = .ok (none, s) := by
  apply authorize_of_checks_none
  apply checks_of_no_candidate
  apply Option.eq_none_iff_forall_ne_some.mpr
  intro p hp
  obtain ⟨c', primary, d, hdecided, -⟩ := pickCandidate_some hp
  have hconflict := hdecided.conflict
  rw [hc, Option.some.injEq] at hconflict
  obtain ⟨eid, heid, hfind, husable⟩ :=
    mem_currentEvidence (List.mem_of_head? hdecided.evidence)
  rw [← hconflict] at heid
  exact hunusable ⟨eid, heid, primary, hfind, husable⟩

/-- After a record has been stored, what is usable is this record or was there. -/
theorem listsUsable_insert {s s' : GovernorState} {e : InterferenceEvidence}
    {c : ContentionConflict} (hevidence : s'.engine.evidence = s.engine.evidence.insert e.id e)
    (h : ListsUsable s' c) :
    isUsable e ∧ e.id ∈ c.evidenceIds ∨
      ∃ eid ∈ c.evidenceIds, eid ≠ e.id ∧ ∃ e₀ ∈ s.engine.evidence.find eid, isUsable e₀ := by
  obtain ⟨eid, heid, e₀, he₀, husable⟩ := h
  rw [Option.mem_def, hevidence] at he₀
  rcases OrderedMap.find_insert_cases he₀ with ⟨hid, rfl⟩ | ⟨hid, he₀⟩
  · exact .inl ⟨husable, hid ▸ heid⟩
  · exact .inr ⟨eid, heid, hid, e₀, he₀, husable⟩

/-- A review makes no record usable. -/
theorem usable_of_review {op : Op} {e : InterferenceEvidence} (h : isUsable (op.review e)) :
    isUsable e := by
  cases op with
  | advanceEpoch =>
    unfold Op.review requireRevalidation at h
    dsimp only at h
    split_ifs at h with hcurrent
    · cases h.1
    · exact h
  | _ => exact h

theorem listsUsable_of_keeps {s s' : GovernorState} {op : Op} (hkeeps : KeepsEvidence s op s')
    {c c' : ContentionConflict} (hids : c'.evidenceIds = c.evidenceIds)
    (h : ListsUsable s' c') : ListsUsable s c := by
  obtain ⟨eid, heid, e, he, husable⟩ := h
  rw [Option.mem_def, hkeeps.evidence] at he
  obtain ⟨e₀, he₀, rfl⟩ := Option.map_eq_some_iff.mp he
  exact ⟨eid, hids ▸ heid, e₀, he₀, usable_of_review husable⟩

/-! ## Suspension -/

namespace ConflictState

/-- The states in which nothing is to be done about a conflict. -/
def isSuspended : ConflictState → Bool
  | .revalidationRequired | .suppressed | .superseded => true
  | _ => false

end ConflictState

/-- No suspended conflict lists usable evidence. -/
def Withheld (s : GovernorState) : Prop :=
  ∀ entry ∈ s.engine.conflicts.entries, entry.2.state.isSuspended → ¬ListsUsable s entry.2

instance (s : GovernorState) : Decidable (Withheld s) :=
  inferInstanceAs (Decidable (∀ entry ∈ s.engine.conflicts.entries, _))

theorem withheld_iff {s : GovernorState} : Withheld s ↔ ∀ cid c,
    s.engine.conflicts.find cid = some c → c.state.isSuspended → ¬ListsUsable s c :=
  ⟨fun h cid c hc => h (cid, c) (OrderedMap.mem_entries.mpr hc),
    fun h entry hentry => h entry.1 entry.2 (OrderedMap.mem_entries.mp hentry)⟩

/-- Evidence that asks for revalidation joins no conflict that lists usable evidence under
another id. -/
def WithdrawsAll (s : GovernorState) (e : InterferenceEvidence) : Prop :=
  e.status = .revalidationRequired → ∀ entry ∈ s.engine.conflicts.entries,
    JoinsAt s e entry.1 → ∀ eid ∈ entry.2.evidenceIds, eid ≠ e.id →
      ∀ e₀ ∈ s.engine.evidence.find eid, ¬isUsable e₀

instance (s : GovernorState) (e : InterferenceEvidence) : Decidable (WithdrawsAll s e) :=
  inferInstanceAs (Decidable (_ → ∀ entry ∈ s.engine.conflicts.entries, _ → _))

/-- Usable evidence that a suspended conflict is to list makes the operation set the state of
this conflict. -/
def ResumesAt (s : GovernorState) (e : InterferenceEvidence) (sets : ConflictId → Bool) : Prop :=
  isUsable e → ∀ entry ∈ s.engine.conflicts.entries, entry.2.state.isSuspended →
    e.id ∈ entry.2.evidenceIds ∨ JoinsAt s e entry.1 → sets entry.1

instance (s : GovernorState) (e : InterferenceEvidence) (sets : ConflictId → Bool) :
    Decidable (ResumesAt s e sets) :=
  inferInstanceAs (Decidable (_ → ∀ entry ∈ s.engine.conflicts.entries, _))

/-- Evidence that asks for revalidation withdraws all that its conflict lists, usable
evidence gets under an id of a suspended conflict only with a new state for it, and no
snapshot with usable evidence in a suspended conflict is loaded. -/
def KeepsWithheld (s : GovernorState) : Op → Prop
  | .ingestEvidence input => (validateEvidence input).isOk →
    WithdrawsAll s (storedEvidence s input) ∧
      ResumesAt s (storedEvidence s input) fun cid => JoinsAt s (storedEvidence s input) cid
  | .submitPostActionEvidence input => (validateEvidence input).isOk →
    ResumesAt s (storedEvidence s input) fun cid => (closing s input).any fun v => v.key = cid
  | .load opts readable file => ∀ s' ∈ step s (.load opts readable file), Withheld s'
  | _ => True

instance (s : GovernorState) : (op : Op) → Decidable (KeepsWithheld s op)
  | .ingestEvidence input => inferInstanceAs (Decidable ((validateEvidence input).isOk →
      WithdrawsAll s (storedEvidence s input) ∧
        ResumesAt s (storedEvidence s input) fun cid => JoinsAt s (storedEvidence s input) cid))
  | .submitPostActionEvidence input => inferInstanceAs (Decidable ((validateEvidence input).isOk →
      ResumesAt s (storedEvidence s input) fun cid => (closing s input).any fun v => v.key = cid))
  | .load opts readable file => inferInstanceAs (Decidable
      (∀ s' ∈ step s (.load opts readable file), Withheld s'))
  | .setPolicy _ | .setAuthority _ | .recordWorkerBoot _ _ | .recordWorkloadGeneration _ _
  | .advanceEpoch | .evaluate _ | .authorize _ _ _ | .dispatch _ _ _
  | .authorizeAndDispatch _ _ _ _ _ | .onAcknowledge _ _ _ | .onActionFailed _ _ _
  | .save => .isTrue trivial

/-! ## Steps -/

theorem located_of_joinsAt {s : GovernorState} {e : InterferenceEvidence} {cid : ConflictId}
    (h : JoinsAt s e cid) : ∃ c, locateConflict s.engine.conflicts e = some (cid, c) := by
  rw [JoinsAt, Option.any_eq_true] at h
  obtain ⟨entry, hentry, hkey⟩ := h
  exact ⟨entry.2, by rw [hentry, ← of_decide_eq_true hkey]⟩

/-- A conflict that is suspended after ingesting was suspended, or is by this evidence. -/
theorem suspended_progress {p : ContentionPolicy} {e : InterferenceEvidence}
    {c : ContentionConflict} (h : (progressConflict p e c).state.isSuspended) :
    e.status ≠ .current ∧ (e.status = .revalidationRequired ∨ c.state.isSuspended) := by
  unfold progressConflict at h
  split_ifs at h with hactionable hcurrent hconfounded hrevalidate
  · cases h
  · cases h
  · cases h
  · exact ⟨hcurrent, .inl hrevalidate⟩
  · exact ⟨hcurrent, .inr h⟩

theorem withheld_storeEvidence {s : GovernorState} {e : InterferenceEvidence} (hs : Withheld s)
    (hwithdraws : WithdrawsAll s e) (hresumes : ResumesAt s e fun cid => JoinsAt s e cid) :
    Withheld (storeEvidence s e) := by
  rw [withheld_iff] at hs ⊢
  intro cid c' hc' hsuspended hlists
  obtain ⟨hevidence, hconflicts⟩ := storeEvidence_conflicts s e
  have hafter := listsUsable_insert hevidence hlists
  have hother : s.engine.conflicts.find cid = some c' → ¬JoinsAt s e cid → False := by
    intro hc hjoins
    rcases hafter with ⟨husable, hlisted⟩ | ⟨eid, heid, -, e₀, he₀, husable⟩
    · exact hjoins (of_decide_eq_true (hresumes husable (cid, c')
        (OrderedMap.mem_entries.mpr hc) hsuspended (.inl hlisted)))
    · exact hs cid c' hc hsuspended ⟨eid, heid, e₀, he₀, husable⟩
  rcases hconflicts with ⟨hnone, hinsert⟩ | ⟨key, c, hlocated, hinsert⟩
  · rw [hinsert] at hc'
    rcases OrderedMap.find_insert_cases hc' with ⟨-, rfl⟩ | ⟨-, hc'⟩
    · obtain ⟨hcurrent, -⟩ := suspended_progress hsuspended
      rcases hafter with ⟨husable, -⟩ | ⟨eid, heid, hne, -⟩
      · exact hcurrent husable.1
      · rw [(progressConflict_subject _ _ _).evidenceIds] at heid
        exact hne (List.mem_singleton.mp heid)
    · refine hother hc' fun hjoins => ?_
      rw [JoinsAt, hnone] at hjoins
      cases hjoins
  · rw [hinsert] at hc'
    rcases OrderedMap.find_insert_cases hc' with ⟨rfl, rfl⟩ | ⟨hcid, hc'⟩
    · have hc := locateConflict_find hlocated
      obtain ⟨hcurrent, hwas⟩ := suspended_progress hsuspended
      rcases hafter with ⟨husable, -⟩ | ⟨eid, heid, hne, e₀, he₀, husable⟩
      · exact hcurrent husable.1
      · rw [(progressConflict_subject _ _ _).evidenceIds] at heid
        have hold : eid ∈ c.evidenceIds :=
          (List.mem_append.mp heid).resolve_right fun h => hne (List.mem_singleton.mp h)
        rcases hwas with hrevalidate | hwas
        · exact hwithdraws hrevalidate (cid, c) (OrderedMap.mem_entries.mpr hc)
            (joinsAt_of_located hlocated) eid hold hne e₀ he₀ husable
        · exact hs cid c hc hwas ⟨eid, hold, e₀, he₀, husable⟩
    · refine hother hc' fun hjoins => ?_
      obtain ⟨c₀, hlocated'⟩ := located_of_joinsAt hjoins
      rw [hlocated, Option.some.injEq, Prod.mk.injEq] at hlocated'
      exact hcid hlocated'.1.symm

theorem outcomeStates_not_suspended (outcome : VerificationOutcome) :
    ¬(outcomeStates outcome).2.isSuspended := by
  cases outcome <;> exact Bool.false_ne_true

theorem withheld_submit {s : GovernorState} {input : InterferenceEvidence} (hs : Withheld s)
    (hv : (validateEvidence input).isOk)
    (hresumes : ResumesAt s (storedEvidence s input) fun cid =>
      (closing s input).any fun v => v.key = cid) :
    Withheld (submitPostActionEvidence input s).2 := by
  rw [withheld_iff] at hs ⊢
  intro cid c' hc' hsuspended hlists
  have hafter := listsUsable_insert (submit_evidence hv) hlists
  have hother : s.engine.conflicts.find cid = some c' →
      ¬((closing s input).any fun v => v.key = cid) → False := by
    intro hc hcloses
    rcases hafter with ⟨husable, hlisted⟩ | ⟨eid, heid, -, e₀, he₀, husable⟩
    · exact hcloses (hresumes husable (cid, c') (OrderedMap.mem_entries.mpr hc) hsuspended
        (.inl hlisted))
    · exact hs cid c' hc hsuspended ⟨eid, heid, e₀, he₀, husable⟩
  rcases submit_conflicts hv with ⟨hnone, hsame⟩ | ⟨key, c, hnone, hlocated, hinsert⟩ |
    ⟨v, hclosing, hinsert⟩
  · refine hother (hsame ▸ hc') ?_
    rw [hnone]
    exact Bool.false_ne_true
  · have hopen : ¬((closing s input).any fun v => v.key = cid) := by
      rw [hnone]
      exact Bool.false_ne_true
    rw [hinsert] at hc'
    rcases OrderedMap.find_insert_cases hc' with ⟨rfl, rfl⟩ | ⟨-, hc'⟩
    · have hc := OrderedMap.mem_entries.mpr (locateConflict_find hlocated)
      rcases hafter with ⟨husable, -⟩ | ⟨eid, heid, hne, e₀, he₀, husable⟩
      · exact hopen (hresumes husable (cid, c) hc hsuspended
          (.inr (joinsAt_of_located hlocated)))
      · have hold : eid ∈ c.evidenceIds :=
          (List.mem_append.mp heid).resolve_right fun h => hne (List.mem_singleton.mp h)
        exact hs cid c (OrderedMap.mem_entries.mp hc) hsuspended ⟨eid, hold, e₀, he₀, husable⟩
    · exact hother hc' hopen
  · rw [hinsert] at hc'
    rcases OrderedMap.find_insert_cases hc' with ⟨-, rfl⟩ | ⟨hcid, hc'⟩
    · -- The verification has given the conflict a state of its own.
      exact outcomeStates_not_suspended _ hsuspended
    · refine hother hc' ?_
      rw [hclosing, Option.any_some, decide_eq_true_eq]
      exact Ne.symm hcid

theorem step_withheld {s s' : GovernorState} {op : Op} (hs : Withheld s)
    (hop : KeepsWithheld s op) (h : step s op = some s') : Withheld s' := by
  have hsame : s'.engine.conflicts = s.engine.conflicts → s'.engine.evidence = s.engine.evidence →
      Withheld s' := by
    intro hconflicts hevidence
    unfold Withheld ListsUsable
    rw [hconflicts, hevidence]
    exact hs
  cases op with
  | ingestEvidence input =>
    cases h
    by_cases hv : (validateEvidence input).isOk
    · obtain ⟨hwithdraws, hresumes⟩ := hop hv
      obtain ⟨n, hstored⟩ := ingestEvidence_of_valid (s := s) hv
      rw [hstored]
      exact withheld_storeEvidence (s := { s with nextEvidenceId := n }) hs hwithdraws hresumes
    · rw [ingestEvidence_of_invalid hv]
      exact hs
  | submitPostActionEvidence input =>
    cases h
    by_cases hv : (validateEvidence input).isOk
    · exact withheld_submit hs hv (hop hv)
    · rw [submitPostActionEvidence_of_invalid hv]
      exact hs
  | advanceEpoch =>
    cases h
    rw [withheld_iff]
    rintro cid c - - ⟨eid, -, e, he, husable⟩
    simp only [advanceEpoch, OrderedMap.find_mapValues, Option.mem_def] at he
    obtain ⟨e₀, -, rfl⟩ := Option.map_eq_some_iff.mp he
    unfold requireRevalidation at husable
    split_ifs at husable with hcurrent
    · cases husable.1
    · exact hcurrent husable.1
  | authorize cid cls now | authorizeAndDispatch cid cls now =>
    rcases step_of_request h rfl with ⟨-, rfl⟩ | ⟨g, -, hg, _, _, rfl⟩
    · exact hs
    · rw [withheld_iff] at hs ⊢
      intro key c hc hsuspended
      rcases OrderedMap.find_insert_cases hc with ⟨-, rfl⟩ | ⟨-, hc⟩
      · cases hsuspended
      · exact hs key c hc hsuspended
  | load => exact hop s' h
  | _ => exact hsame ((step_frame h).conflicts rfl) ((step_frame h).evidence rfl)

/-- In a run from the empty governor in which no suspended conflict gets to list usable
evidence, nothing is authorized for a suspended conflict. -/
theorem suspended_conflict_refused (ops : List Op) (s : GovernorState) (cid : ConflictId)
    (c : ContentionConflict) (cls : InterventionClass) (now : TimeMs)
    (hops : Runs.Guarded step KeepsWithheld {} ops) (hrun : Runs.exec step {} ops = some s)
    (hc : s.engine.conflicts.find cid = some c) (hsuspended : c.state.isSuspended) :
    authorize cid cls now s = .ok (none, s) := by
  have hempty : Withheld {} := by
    intro entry hentry
    cases hentry
  have hs : Withheld s := Runs.invariant_of_guarded (fun _ _ _ => step_withheld) hops hrun hempty
  exact refused_of_unusable hc (withheld_iff.mp hs cid c hc hsuspended) cls now

/-- The coordinator restarts after the observation, and a report asks for revalidation. -/
def restartedCoordinator : List Op :=
  registerNeighbor ++ [.ingestEvidence slowdown, .advanceEpoch,
    .ingestEvidence { slowdown with status := .revalidationRequired }]

theorem suspended_conflict_refused_restarted :
    authorize ⟨1⟩ .throttle 1000 (reached restartedCoordinator) =
      .ok (none, reached restartedCoordinator) := by
  have hsuspended : ((reached restartedCoordinator).engine.conflicts.find ⟨1⟩).map
      (fun c => c.state.isSuspended) = some true := by decide +kernel
  obtain ⟨c, hc, hstate⟩ := Option.map_eq_some_iff.mp hsuspended
  exact suspended_conflict_refused restartedCoordinator _ ⟨1⟩ c .throttle 1000
    (by decide +kernel) (exec_reached (by decide +kernel)) hc hstate

/-- A second report on the same workload asks for revalidation. -/
def withdrawnReport : List Op :=
  registerNeighbor ++ [.ingestEvidence slowdown,
    .ingestEvidence { slowdown with status := .revalidationRequired }]

theorem suspended_conflict_is_throttled :
    ¬∀ ops s cid c cls now, Runs.exec step {} ops = some s →
      s.engine.conflicts.find cid = some c → c.state.isSuspended →
      authorize cid cls now s = .ok (none, s) := by
  intro h
  have hsuspended : ((reached withdrawnReport).engine.conflicts.find ⟨1⟩).map
      (fun c => c.state.isSuspended) = some true := by decide +kernel
  have hgranted : authorizes (reached withdrawnReport) ⟨1⟩ .throttle 1000 = true := by
    decide +kernel
  obtain ⟨c, hc, hstate⟩ := Option.map_eq_some_iff.mp hsuspended
  have hrefused := h _ _ ⟨1⟩ c .throttle 1000 (@exec_reached withdrawnReport (by decide +kernel))
    hc hstate
  rw [authorizes, hrefused] at hgranted
  cases hgranted

end ContentionGovernor
