import ContentionGovernor.Verification

/-!
# Stored evidence

What a step does to the evidence, and to what each conflict is about and lists.
-/

namespace ContentionGovernor

theorem locateConflict_find {conflicts : OrderedMap ConflictId ContentionConflict}
    {e : InterferenceEvidence} {entry : ConflictId × ContentionConflict}
    (h : locateConflict conflicts e = some entry) : conflicts.find entry.1 = some entry.2 :=
  OrderedMap.mem_entries.mp (List.mem_of_find?_eq_some h)

/-- The evidence that a conflict lists first, from which `authorize` takes the generation. -/
def FrontOf (s : GovernorState) (cid : ConflictId) (eid : InterferenceEvidenceId) : Prop :=
  ∃ c, s.engine.conflicts.find cid = some c ∧ c.evidenceIds.head? = some eid

theorem FrontOf.unique {s : GovernorState} {cid : ConflictId} {eid eid' : InterferenceEvidenceId}
    (h : FrontOf s cid eid) (h' : FrontOf s cid eid') : eid = eid' := by
  obtain ⟨c, hc, hhead⟩ := h
  obtain ⟨c', hc', hhead'⟩ := h'
  rw [hc, Option.some.injEq] at hc'
  rw [← hc', hhead, Option.some.injEq] at hhead'
  exact hhead'

/-! ## The two operations that store -/

/-- The record that an operation stores, under its final id. -/
def Op.stored (s : GovernorState) : Op → Option InterferenceEvidence
  | .ingestEvidence input | .submitPostActionEvidence input =>
    if (validateEvidence input).isOk then some (storedEvidence s input) else none
  | _ => none

/-- The conflict that evidence joins has this key. -/
def JoinsAt (s : GovernorState) (e : InterferenceEvidence) (cid : ConflictId) : Prop :=
  (locateConflict s.engine.conflicts e).any fun entry => entry.1 = cid

instance (s : GovernorState) (e : InterferenceEvidence) (cid : ConflictId) :
    Decidable (JoinsAt s e cid) := inferInstanceAs (Decidable (_ = true))

theorem joinsAt_of_located {s : GovernorState} {e : InterferenceEvidence} {cid : ConflictId}
    {c : ContentionConflict} (h : locateConflict s.engine.conflicts e = some (cid, c)) :
    JoinsAt s e cid := by
  rw [JoinsAt, h, Option.any_some, decide_eq_true_eq]

/-- Stored evidence has the derived degradation, whatever its id. -/
theorem storedEvidence_derived (s : GovernorState) (e : InterferenceEvidence) :
    ∃ id, storedEvidence s e = { e.derived with id := id } := by
  unfold storedEvidence assignEvidenceId
  split_ifs
  · exact ⟨_, rfl⟩
  · exact ⟨_, rfl⟩

/-- The id does not matter to the search for the conflict. -/
theorem locate_stored (s : GovernorState) (e : InterferenceEvidence) :
    locateConflict s.engine.conflicts (storedEvidence s e) =
      locateConflict s.engine.conflicts e := by
  obtain ⟨id, h⟩ := storedEvidence_derived s e
  rw [h]
  rfl

theorem ingestEvidence_of_valid {s : GovernorState} {input : InterferenceEvidence}
    (hv : (validateEvidence input).isOk) : ∃ n, (ingestEvidence input s).2 =
      storeEvidence { s with nextEvidenceId := n } (storedEvidence s input) := by
  unfold ingestEvidence storedEvidence
  simp only [hv, not_true_eq_false, if_false]
  generalize assignEvidenceId input.derived s.nextEvidenceId = stored
  exact ⟨stored.2, rfl⟩

/-- Ingesting stores the evidence and the progress of the conflict it is for, which is new
when there is none. -/
theorem storeEvidence_conflicts (s : GovernorState) (e : InterferenceEvidence) :
    (storeEvidence s e).engine.evidence = s.engine.evidence.insert e.id e ∧
    ((locateConflict s.engine.conflicts e = none ∧
      (storeEvidence s e).engine.conflicts = s.engine.conflicts.insert ⟨s.nextConflictId⟩
        (progressConflict s.engine.policy e (newConflict s e))) ∨
    ∃ cid c, locateConflict s.engine.conflicts e = some (cid, c) ∧
      (storeEvidence s e).engine.conflicts = s.engine.conflicts.insert cid
        (progressConflict s.engine.policy e (updateConflict c e))) := by
  unfold storeEvidence
  dsimp only
  cases locateConflict s.engine.conflicts e with
  | none => exact ⟨rfl, .inl ⟨rfl, rfl⟩⟩
  | some entry => exact ⟨rfl, .inr ⟨entry.1, entry.2, rfl, rfl⟩⟩

theorem ingest_conflicts {s : GovernorState} {input : InterferenceEvidence}
    (hv : (validateEvidence input).isOk) :
    (locateConflict s.engine.conflicts (storedEvidence s input) = none ∧
      (ingestEvidence input s).2.engine.conflicts = s.engine.conflicts.insert ⟨s.nextConflictId⟩
        (progressConflict s.engine.policy (storedEvidence s input)
          (newConflict s (storedEvidence s input)))) ∨
    ∃ cid c, locateConflict s.engine.conflicts (storedEvidence s input) = some (cid, c) ∧
      (ingestEvidence input s).2.engine.conflicts = s.engine.conflicts.insert cid
        (progressConflict s.engine.policy (storedEvidence s input)
          (updateConflict c (storedEvidence s input))) := by
  obtain ⟨n, hstored⟩ := ingestEvidence_of_valid (s := s) hv
  rw [hstored]
  exact (storeEvidence_conflicts { s with nextEvidenceId := n } (storedEvidence s input)).2

/-- Verifying stores the evidence and leaves policy and authority as they are. -/
theorem verifyEvidence_frame (s : GovernorState) (e : InterferenceEvidence) :
    (verifyEvidence s e).engine.policy = s.engine.policy ∧
      (verifyEvidence s e).engine.authority = s.engine.authority ∧
      (verifyEvidence s e).engine.evidence = s.engine.evidence.insert e.id e := by
  unfold verifyEvidence settleIntervention
  dsimp only
  split
  · exact ⟨rfl, rfl, rfl⟩
  · split <;> exact ⟨rfl, rfl, rfl⟩

theorem verifyEvidence_conflicts (s : GovernorState) (e : InterferenceEvidence) :
    (locateConflict s.engine.conflicts e = none ∧
      (verifyEvidence s e).engine.conflicts = s.engine.conflicts) ∨
    ∃ cid c state, locateConflict s.engine.conflicts e = some (cid, c) ∧
      (verifyEvidence s e).engine.conflicts =
        s.engine.conflicts.insert cid { remeasureConflict c e with state := state } := by
  unfold verifyEvidence settleIntervention
  dsimp only
  cases locateConflict s.engine.conflicts e with
  | none => exact .inl ⟨rfl, rfl⟩
  | some entry =>
    refine .inr ⟨entry.1, entry.2, ?_⟩
    dsimp only
    split
    · exact ⟨_, rfl, rfl⟩
    · exact ⟨_, rfl, OrderedMap.insert_insert ..⟩

theorem submitPostActionEvidence_of_valid {s : GovernorState} {input : InterferenceEvidence}
    (hv : (validateEvidence input).isOk) : ∃ n, (submitPostActionEvidence input s).2 =
      verifyEvidence { s with nextEvidenceId := n } (storedEvidence s input) := by
  unfold submitPostActionEvidence storedEvidence
  simp only [hv, not_true_eq_false, if_false]
  generalize assignEvidenceId input.derived s.nextEvidenceId = stored
  exact ⟨stored.2, rfl⟩

theorem submit_remeasured {s : GovernorState} {input : InterferenceEvidence}
    (hv : (validateEvidence input).isOk) :
    (locateConflict s.engine.conflicts (storedEvidence s input) = none ∧
      (submitPostActionEvidence input s).2.engine.conflicts = s.engine.conflicts) ∨
    ∃ cid c state, locateConflict s.engine.conflicts (storedEvidence s input) = some (cid, c) ∧
      (submitPostActionEvidence input s).2.engine.conflicts = s.engine.conflicts.insert cid
        { remeasureConflict c (storedEvidence s input) with state := state } := by
  obtain ⟨n, hstored⟩ := submitPostActionEvidence_of_valid (s := s) hv
  rw [hstored]
  exact verifyEvidence_conflicts { s with nextEvidenceId := n } (storedEvidence s input)

theorem submit_evidence {s : GovernorState} {input : InterferenceEvidence}
    (hv : (validateEvidence input).isOk) : (submitPostActionEvidence input s).2.engine.evidence =
      s.engine.evidence.insert (storedEvidence s input).id (storedEvidence s input) := by
  obtain ⟨n, hstored⟩ := submitPostActionEvidence_of_valid (s := s) hv
  rw [hstored]
  exact (verifyEvidence_frame _ _).2.2

/-- Post-action evidence leaves the conflicts, or remeasures the one it is for, and gives it
a state when it closes an intervention. -/
theorem submit_conflicts {s : GovernorState} {input : InterferenceEvidence}
    (hv : (validateEvidence input).isOk) :
    (closing s input = none ∧
      (submitPostActionEvidence input s).2.engine.conflicts = s.engine.conflicts) ∨
    (∃ cid c, closing s input = none ∧
      locateConflict s.engine.conflicts (storedEvidence s input) = some (cid, c) ∧
      (submitPostActionEvidence input s).2.engine.conflicts =
        s.engine.conflicts.insert cid (remeasureConflict c (storedEvidence s input))) ∨
    ∃ v, closing s input = some v ∧ (submitPostActionEvidence input s).2.engine.conflicts =
      s.engine.conflicts.insert v.key { remeasureConflict v.conflict (storedEvidence s input) with
        state := (outcomeStates (verdict s input v)).2 } := by
  cases hclosing : closing s input with
  | some v =>
    refine .inr (.inr ⟨v, rfl, ?_⟩)
    rw [submit_of_closing hclosing]
    exact OrderedMap.insert_insert ..
  | none =>
    obtain ⟨n, hstored⟩ := submitPostActionEvidence_of_valid (s := s) hv
    rw [hstored]
    unfold closing at hclosing
    rw [if_pos hv] at hclosing
    unfold verifyEvidence
    dsimp only
    cases hlocated : locateConflict s.engine.conflicts (storedEvidence s input) with
    | none => exact .inl ⟨rfl, rfl⟩
    | some entry =>
      rw [hlocated, Option.bind_some, Option.map_eq_none_iff] at hclosing
      refine .inr (.inl ⟨entry.1, entry.2, rfl, rfl, ?_⟩)
      dsimp only
      split
      · rfl
      · rename_i iid i hopened
        have hopened : openIntervention s.engine entry.2.id = some (iid, i) := hopened
        rw [hclosing] at hopened
        cases hopened

theorem ingestEvidence_of_invalid {s : GovernorState} {input : InterferenceEvidence}
    (hv : ¬(validateEvidence input).isOk) : (ingestEvidence input s).2 = s := by
  unfold ingestEvidence
  simp only [hv]
  rfl

theorem submitPostActionEvidence_of_invalid {s : GovernorState} {input : InterferenceEvidence}
    (hv : ¬(validateEvidence input).isOk) : (submitPostActionEvidence input s).2 = s := by
  unfold submitPostActionEvidence
  simp only [hv]
  rfl

/-! ## Conflicts and their evidence -/

/-- Two versions of a conflict that are about the same and list the same evidence. -/
structure SameSubject (c c' : ContentionConflict) : Prop where
  domain : c'.domain = c.domain
  affected : c'.affected = c.affected
  evidenceIds : c'.evidenceIds = c.evidenceIds

theorem SameSubject.refl (c : ContentionConflict) : SameSubject c c := ⟨rfl, rfl, rfl⟩

/-- What an operation makes of the evidence that is stored. -/
def Op.review : Op → InterferenceEvidence → InterferenceEvidence
  | .advanceEpoch => requireRevalidation
  | _ => id

/-- Nothing is stored: the records are reviewed, and the conflicts list what they did. -/
structure KeepsEvidence (s : GovernorState) (op : Op) (s' : GovernorState) : Prop where
  evidence : ∀ eid, s'.engine.evidence.find eid = (s.engine.evidence.find eid).map op.review
  conflicts : OrderedMap.Related (fun _ c c' => SameSubject c c')
    s.engine.conflicts s'.engine.conflicts

/-- The conflicts after a record has joined the one it is for, or a new one, or none. -/
inductive Joins (s : GovernorState) (e : InterferenceEvidence) (s' : GovernorState) : Prop
  | listed (cid : ConflictId) (c c' : ContentionConflict)
      (located : locateConflict s.engine.conflicts e = some (cid, c))
      (conflicts : s'.engine.conflicts = s.engine.conflicts.insert cid c')
      (domain : c'.domain = c.domain) (affected : c'.affected = c.affected)
      (evidenceIds : c'.evidenceIds = c.evidenceIds ++ [e.id])
  | opened (c' : ContentionConflict)
      (located : locateConflict s.engine.conflicts e = none)
      (conflicts : s'.engine.conflicts = s.engine.conflicts.insert ⟨s.nextConflictId⟩ c')
      (domain : c'.domain = e.domain) (affected : c'.affected = [e.victim])
      (evidenceIds : c'.evidenceIds = [e.id])
  | unlisted (located : locateConflict s.engine.conflicts e = none)
      (conflicts : s'.engine.conflicts = s.engine.conflicts)

theorem KeepsEvidence.of_eq {s s' : GovernorState} {op : Op} (hop : op.review = id)
    (hevidence : s'.engine.evidence = s.engine.evidence)
    (hconflicts : s'.engine.conflicts = s.engine.conflicts) : KeepsEvidence s op s' := by
  constructor
  · intro eid
    rw [hevidence, hop, Option.map_id, id]
  · rw [hconflicts]
    exact OrderedMap.Related.refl (fun _ => SameSubject.refl) _

theorem keepsEvidence_advanceEpoch (s : GovernorState) :
    KeepsEvidence s .advanceEpoch (advanceEpoch s).2 where
  evidence := OrderedMap.find_mapValues _ _
  conflicts := by
    refine OrderedMap.Related.mapValues (fun _ c => ?_) _
    unfold suspendConflict
    split_ifs <;> exact ⟨rfl, rfl, rfl⟩

theorem keepsEvidence_of_granted {s s' : GovernorState} {op : Op} {id : ConflictId}
    {cls : InterventionClass} {g : Grant} {now : TimeMs} (hop : op.review = fun e => e)
    (h : Granted s id cls now g) (hsame : OnlyInterventions (commitGrant s id g now) s') :
    KeepsEvidence s op s' := by
  obtain ⟨_, _, rfl⟩ := hsame
  constructor
  · intro eid
    rw [hop, Option.map_id']
    rfl
  · exact OrderedMap.Related.insert (fun _ => SameSubject.refl) h.conflict ⟨rfl, rfl, rfl⟩

theorem progressConflict_subject (p : ContentionPolicy) (e : InterferenceEvidence)
    (c : ContentionConflict) : SameSubject c (progressConflict p e c) := by
  obtain ⟨_, _, hframe⟩ := progressConflict_frame p e c
  rw [hframe]
  exact ⟨rfl, rfl, rfl⟩

theorem joins_storeEvidence (s : GovernorState) (e : InterferenceEvidence) :
    Joins s e (storeEvidence s e) := by
  rcases (storeEvidence_conflicts s e).2 with ⟨hnone, hconflicts⟩ | ⟨cid, c, hsome, hconflicts⟩
  · have hsame := progressConflict_subject s.engine.policy e (newConflict s e)
    exact .opened _ hnone hconflicts hsame.domain hsame.affected hsame.evidenceIds
  · have hsame := progressConflict_subject s.engine.policy e (updateConflict c e)
    exact .listed cid c _ hsome hconflicts hsame.domain hsame.affected hsame.evidenceIds

theorem joins_verifyEvidence (s : GovernorState) (e : InterferenceEvidence) :
    Joins s e (verifyEvidence s e) := by
  rcases verifyEvidence_conflicts s e with ⟨hnone, hconflicts⟩ | ⟨cid, c, _, hsome, hconflicts⟩
  · exact .unlisted hnone hconflicts
  · exact .listed cid c _ hsome hconflicts rfl rfl rfl

theorem Joins.congr {s s₀ s' : GovernorState} {e : InterferenceEvidence} (h : Joins s₀ e s')
    (hconflicts : s₀.engine.conflicts = s.engine.conflicts)
    (hnext : s₀.nextConflictId = s.nextConflictId) : Joins s e s' := by
  cases h with
  | listed cid c c' hlocated hinsert hdomain haffected hids =>
    rw [hconflicts] at hlocated hinsert
    exact .listed cid c c' hlocated hinsert hdomain haffected hids
  | opened c' hlocated hinsert hdomain haffected hids =>
    rw [hconflicts] at hlocated hinsert
    rw [hnext] at hinsert
    exact .opened c' hlocated hinsert hdomain haffected hids
  | unlisted hlocated hsame =>
    rw [hconflicts] at hlocated hsame
    exact .unlisted hlocated hsame

/-- A conflict after a record has joined is as it was, or lists the record last, or is new
and lists it alone. -/
theorem Joins.find_cases {s s' : GovernorState} {e : InterferenceEvidence} (h : Joins s e s')
    {cid : ConflictId} {c' : ContentionConflict}
    (hc' : s'.engine.conflicts.find cid = some c') :
    s.engine.conflicts.find cid = some c' ∨
    (∃ c, locateConflict s.engine.conflicts e = some (cid, c) ∧ c'.domain = c.domain ∧
      c'.affected = c.affected ∧ c'.evidenceIds = c.evidenceIds ++ [e.id]) ∨
    (locateConflict s.engine.conflicts e = none ∧ cid = ⟨s.nextConflictId⟩ ∧
      c'.domain = e.domain ∧ c'.affected = [e.victim] ∧ c'.evidenceIds = [e.id]) := by
  cases h with
  | listed cid₀ c new hlocated hinsert hdomain haffected hids =>
    rw [hinsert] at hc'
    rcases OrderedMap.find_insert_cases hc' with ⟨hcid, rfl⟩ | ⟨-, hc'⟩
    · exact .inr (.inl ⟨c, hcid ▸ hlocated, hdomain, haffected, hids⟩)
    · exact .inl hc'
  | opened new hlocated hinsert hdomain haffected hids =>
    rw [hinsert] at hc'
    rcases OrderedMap.find_insert_cases hc' with ⟨hcid, rfl⟩ | ⟨-, hc'⟩
    · exact .inr (.inr ⟨hlocated, hcid, hdomain, haffected, hids⟩)
    · exact .inl hc'
  | unlisted _ hsame => exact .inl (hsame ▸ hc')

/-- What a step does to the evidence: it stores one record, which joins a conflict, or it
keeps all of it. -/
theorem step_stores {s s' : GovernorState} {op : Op} (h : step s op = some s')
    (hload : ¬op.isLoad) :
    (op.stored s = none ∧ KeepsEvidence s op s') ∨
    ∃ e, op.stored s = some e ∧ s'.engine.evidence = s.engine.evidence.insert e.id e ∧
      Joins s e s' := by
  cases op with
  | ingestEvidence input =>
    cases h
    by_cases hv : (validateEvidence input).isOk
    · obtain ⟨n, hstored⟩ := ingestEvidence_of_valid (s := s) hv
      refine .inr ⟨storedEvidence s input, if_pos hv, ?_⟩
      rw [hstored]
      exact ⟨(storeEvidence_conflicts _ _).1, (joins_storeEvidence _ _).congr rfl rfl⟩
    · rw [ingestEvidence_of_invalid hv]
      exact .inl ⟨if_neg hv, .of_eq rfl rfl rfl⟩
  | submitPostActionEvidence input =>
    cases h
    by_cases hv : (validateEvidence input).isOk
    · obtain ⟨n, hstored⟩ := submitPostActionEvidence_of_valid (s := s) hv
      refine .inr ⟨storedEvidence s input, if_pos hv, ?_⟩
      rw [hstored]
      exact ⟨(verifyEvidence_frame _ _).2.2, (joins_verifyEvidence _ _).congr rfl rfl⟩
    · rw [submitPostActionEvidence_of_invalid hv]
      exact .inl ⟨if_neg hv, .of_eq rfl rfl rfl⟩
  | advanceEpoch =>
    cases h
    exact .inl ⟨rfl, keepsEvidence_advanceEpoch s⟩
  | authorize | authorizeAndDispatch =>
    rcases step_of_request h rfl with ⟨-, rfl⟩ | ⟨g, -, hg, hsame⟩
    · exact .inl ⟨rfl, .of_eq rfl rfl rfl⟩
    · exact .inl ⟨rfl, keepsEvidence_of_granted rfl hg hsame⟩
  | load => exact absurd rfl hload
  | _ => exact .inl ⟨rfl, .of_eq rfl ((step_frame h).evidence rfl) ((step_frame h).conflicts rfl)⟩

/-! ## Readings without evidence -/

/-- Two versions of a conflict between which it received no evidence. -/
structure SameReading (c c' : ContentionConflict) : Prop where
  affected : c'.affected = c.affected
  associated : c'.associated = c.associated
  degradation : c'.degradation = c.degradation
  severity : c'.severity = c.severity

theorem SameReading.refl (c : ContentionConflict) : SameReading c c := ⟨rfl, rfl, rfl, rfl⟩

theorem progressConflict_reading (p : ContentionPolicy) (e : InterferenceEvidence)
    (c : ContentionConflict) : SameReading c (progressConflict p e c) := by
  obtain ⟨_, _, hframe⟩ := progressConflict_frame p e c
  rw [hframe]
  exact ⟨rfl, rfl, rfl, rfl⟩

/-- A step that stores no evidence keeps what every conflict has read. -/
theorem step_sameReading {s s' : GovernorState} {op : Op} (h : step s op = some s')
    (hload : ¬op.isLoad) (hstored : op.stored s = none) {cid : ConflictId}
    {c' : ContentionConflict} (hc' : s'.engine.conflicts.find cid = some c') :
    ∃ c, s.engine.conflicts.find cid = some c ∧ SameReading c c' := by
  have hsame : s'.engine.conflicts = s.engine.conflicts →
      ∃ c, s.engine.conflicts.find cid = some c ∧ SameReading c c' :=
    fun heq => ⟨c', heq ▸ hc', SameReading.refl c'⟩
  cases op with
  | ingestEvidence e =>
    cases h
    have hv : ¬(validateEvidence e).isOk := fun hv => by
      rw [Op.stored, if_pos hv] at hstored
      cases hstored
    rw [ingestEvidence_of_invalid hv] at hc'
    exact ⟨c', hc', SameReading.refl c'⟩
  | submitPostActionEvidence e =>
    cases h
    have hv : ¬(validateEvidence e).isOk := fun hv => by
      rw [Op.stored, if_pos hv] at hstored
      cases hstored
    rw [submitPostActionEvidence_of_invalid hv] at hc'
    exact ⟨c', hc', SameReading.refl c'⟩
  | advanceEpoch =>
    cases h
    simp only [advanceEpoch, OrderedMap.find_mapValues, Option.map_eq_some_iff] at hc'
    obtain ⟨c, hc, rfl⟩ := hc'
    refine ⟨c, hc, ?_⟩
    unfold suspendConflict
    split_ifs <;> exact ⟨rfl, rfl, rfl, rfl⟩
  | authorize | authorizeAndDispatch =>
    rcases step_of_request h rfl with ⟨-, rfl⟩ | ⟨g, -, hg, _, _, rfl⟩
    · exact ⟨c', hc', SameReading.refl c'⟩
    · rcases OrderedMap.find_insert_cases hc' with ⟨hkey, rfl⟩ | ⟨-, hc'⟩
      · exact ⟨g.conflict, hkey ▸ hg.conflict, rfl, rfl, rfl, rfl⟩
      · exact ⟨c', hc', SameReading.refl c'⟩
  | load => exact absurd rfl hload
  | _ => exact hsame ((step_frame h).conflicts rfl)

end ContentionGovernor
