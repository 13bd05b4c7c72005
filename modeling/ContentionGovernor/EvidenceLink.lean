import ContentionGovernor.Operations

/-!
# The evidence behind a decision

A decision takes its target from the record ingested last, its magnitude from the
maximum over all of them and its gate from one that is CURRENT.
-/

namespace ContentionGovernor

def isUsable (e : InterferenceEvidence) : Prop := e.status = .current ∧ structurallyValid e

instance (e : InterferenceEvidence) : Decidable (isUsable e) :=
  inferInstanceAs (Decidable (_ ∧ _))

/-- The conflict lists a usable record under this id. -/
structure Lists (s : EngineState) (c : ContentionConflict) (eid : InterferenceEvidenceId)
    (e : InterferenceEvidence) : Prop where
  listed : eid ∈ c.evidenceIds
  stored : s.evidence.find eid = some e
  usable : isUsable e

/-- One usable record of the conflict names the target and shows a degradation at the
threshold or above. -/
def Evidenced (s : GovernorState) (id : ConflictId) (target : WorkloadId) : Prop :=
  ∃ c eid e, s.engine.conflicts.find id = some c ∧ Lists s.engine c eid e ∧
    target ∈ e.neighbors ∧ s.engine.policy.actionabilityThreshold ≤ e.degradation

/-! ## Linked conflicts -/

/-- The record alone supplies these targets and this magnitude. -/
structure Carries (e : InterferenceEvidence) (associated : List WorkloadId)
    (degradation : Double) : Prop where
  targets : ∀ w ∈ associated, w ∈ e.neighbors
  magnitude : degradation ≤ e.degradation

/-- Targets and magnitude of the conflict come from one usable record, unless no usable
record or no target is left to act on. -/
def Linked (s : EngineState) (c : ContentionConflict) : Prop :=
  c.associated = [] ∨ (∀ eid e, ¬Lists s c eid e) ∨
    ∃ eid e, Lists s c eid e ∧ Carries e c.associated c.degradation

/-- The conflict stays linked when the record joins it with these targets and this
magnitude: the record carries them, or is not usable and no other is, or another does. -/
def Admits (s : EngineState) (c : ContentionConflict) (e : InterferenceEvidence)
    (associated : List WorkloadId) (degradation : Double) : Prop :=
  associated = [] ∨ (isUsable e ∧ Carries e associated degradation) ∨
    (¬isUsable e ∧ ∀ eid e₀, eid ≠ e.id → ¬Lists s c eid e₀) ∨
    ∃ eid e₀, eid ≠ e.id ∧ Lists s c eid e₀ ∧ Carries e₀ associated degradation

def storeRecord (s : EngineState) (e : InterferenceEvidence) : EngineState :=
  { s with evidence := s.evidence.insert e.id e }

theorem lists_storeRecord_of_ne {s : EngineState} {c : ContentionConflict}
    {e : InterferenceEvidence} {eid : InterferenceEvidenceId} {e₀ : InterferenceEvidence}
    (hne : eid ≠ e.id) : Lists (storeRecord s e) c eid e₀ ↔ Lists s c eid e₀ := by
  have hfind : (storeRecord s e).evidence.find eid = s.evidence.find eid :=
    OrderedMap.find_insert_of_ne _ hne e
  constructor
  · exact fun h => ⟨h.listed, hfind ▸ h.stored, h.usable⟩
  · exact fun h => ⟨h.listed, hfind.trans h.stored, h.usable⟩

theorem lists_storeRecord_self {s : EngineState} {c : ContentionConflict}
    {e e₀ : InterferenceEvidence} : Lists (storeRecord s e) c e.id e₀ ↔
      e.id ∈ c.evidenceIds ∧ e₀ = e ∧ isUsable e := by
  have hfind : (storeRecord s e).evidence.find e.id = some e := OrderedMap.find_insert_self ..
  constructor
  · intro h
    have heq := Option.some.inj (hfind.symm.trans h.stored)
    exact ⟨h.listed, heq.symm, heq ▸ h.usable⟩
  · rintro ⟨hlisted, rfl, husable⟩
    exact ⟨hlisted, hfind, husable⟩

/-- Storing a record that a conflict does not list leaves its link as it is. -/
theorem linked_storeRecord {s : EngineState} {c : ContentionConflict} {e : InterferenceEvidence}
    (h : e.id ∉ c.evidenceIds) : Linked (storeRecord s e) c ↔ Linked s c := by
  have hiff : ∀ eid e₀, Lists (storeRecord s e) c eid e₀ ↔ Lists s c eid e₀ := by
    intro eid e₀
    by_cases hne : eid = e.id
    · subst hne
      exact ⟨fun hl => absurd hl.listed h, fun hl => absurd hl.listed h⟩
    · exact lists_storeRecord_of_ne hne
  simp only [Linked, hiff]

/-- Whether a conflict is linked when a record has joined it. -/
theorem linked_iff_admits {s : EngineState} {c c' : ContentionConflict}
    {e : InterferenceEvidence} (hids : c'.evidenceIds = c.evidenceIds ++ [e.id]) :
    Linked (storeRecord s e) c' ↔ Admits s c e c'.associated c'.degradation := by
  have hself : ∀ e₀, Lists (storeRecord s e) c' e.id e₀ ↔ e₀ = e ∧ isUsable e := by
    intro e₀
    rw [lists_storeRecord_self, hids]
    simp
  have hother : ∀ eid e₀, eid ≠ e.id → (Lists (storeRecord s e) c' eid e₀ ↔ Lists s c eid e₀) := by
    intro eid e₀ hne
    rw [lists_storeRecord_of_ne hne]
    constructor
    · rintro ⟨hlisted, hstored, husable⟩
      rw [hids] at hlisted
      refine ⟨?_, hstored, husable⟩
      rcases List.mem_append.mp hlisted with h | h
      · exact h
      · exact absurd (List.mem_singleton.mp h) hne
    · rintro ⟨hlisted, hstored, husable⟩
      exact ⟨by rw [hids]; exact List.mem_append_left _ hlisted, hstored, husable⟩
  refine or_congr_right ?_
  constructor
  · rintro (hnone | ⟨eid, e₀, hlists, hcarries⟩)
    · refine .inr (.inl ⟨fun husable => hnone e.id e ((hself e).mpr ⟨rfl, husable⟩), ?_⟩)
      exact fun eid e₀ hne hlists => hnone eid e₀ ((hother eid e₀ hne).mpr hlists)
    · by_cases hne : eid = e.id
      · subst hne
        obtain ⟨rfl, husable⟩ := (hself e₀).mp hlists
        exact .inl ⟨husable, hcarries⟩
      · exact .inr (.inr ⟨eid, e₀, hne, (hother eid e₀ hne).mp hlists, hcarries⟩)
  · rintro (⟨husable, hcarries⟩ | ⟨hunusable, hnone⟩ | ⟨eid, e₀, hne, hlists, hcarries⟩)
    · exact .inr ⟨e.id, e, (hself e).mpr ⟨rfl, husable⟩, hcarries⟩
    · refine .inl fun eid e₀ hlists => ?_
      by_cases hne : eid = e.id
      · subst hne
        exact hunusable ((hself e₀).mp hlists).2
      · exact hnone eid e₀ hne ((hother eid e₀ hne).mp hlists)
    · exact .inr ⟨eid, e₀, (hother eid e₀ hne).mpr hlists, hcarries⟩

/-- The link is about the listed ids, the targets and the magnitude. -/
theorem Linked.congr {s s' : EngineState} {c c' : ContentionConflict} (h : Linked s c)
    (hevidence : s'.evidence = s.evidence) (hids : c'.evidenceIds = c.evidenceIds)
    (hassociated : c'.associated = c.associated) (hdegradation : c'.degradation = c.degradation) :
    Linked s' c' := by
  have hiff : ∀ eid e, Lists s' c' eid e ↔ Lists s c eid e := by
    intro eid e
    constructor
    · exact fun h => ⟨hids ▸ h.listed, hevidence ▸ h.stored, h.usable⟩
    · exact fun h => ⟨hids ▸ h.listed, hevidence ▸ h.stored, h.usable⟩
  unfold Linked at *
  rw [hassociated, hdegradation]
  simpa only [hiff] using h

/-! ## Steps -/

structure AllLinked (s : GovernorState) : Prop where
  linked : ∀ id c, s.engine.conflicts.find id = some c → Linked s.engine c
  threshold : s.engine.policy.actionabilityThreshold.isNaN = false

/-- The conflict a record is for admits it, and no other lists its id. -/
structure Admitted (s : EngineState) (e : InterferenceEvidence)
    (associated : ContentionConflict → List WorkloadId)
    (degradation : ContentionConflict → Double) : Prop where
  joined : ∀ id c, locateConflict s.conflicts e = some (id, c) →
    Admits s c e (associated c) (degradation c)
  unlisted : ∀ id c, s.conflicts.find id = some c →
    (∀ c₀, locateConflict s.conflicts e ≠ some (id, c₀)) → e.id ∉ c.evidenceIds

theorem degradation_finite {e : InterferenceEvidence} (h : structurallyValid e) :
    e.degradation.isFinite := by
  unfold structurallyValid at h
  split_ifs at h with _ _ _ hdegradation
  simp only [not_or, not_not] at hdegradation
  exact hdegradation.1

/-- A conflict that the record does not join stays linked. -/
theorem Admitted.linked_elsewhere {s : EngineState} {e : InterferenceEvidence}
    {associated : ContentionConflict → List WorkloadId} {degradation : ContentionConflict → Double}
    (h : Admitted s e associated degradation) {id : ConflictId} {c : ContentionConflict}
    (hc : s.conflicts.find id = some c) (hlinked : Linked s c)
    (hne : ∀ c₀, locateConflict s.conflicts e ≠ some (id, c₀)) : Linked (storeRecord s e) c :=
  (linked_storeRecord (h.unlisted id c hc hne)).mpr hlinked

/-- Evidence is admitted by its conflict, no threshold is a NaN and what is loaded is linked. -/
def KeepsLink (s : GovernorState) : Op → Prop
  | .setPolicy p => p.actionabilityThreshold.isNaN = false
  | .ingestEvidence input => (validateEvidence input).isOk →
    let e := (assignEvidenceId input.derived s.nextEvidenceId).1
    Admitted s.engine e (fun _ => e.neighbors) fun c => Binary64.maximum c.degradation e.degradation
  | .submitPostActionEvidence input => (validateEvidence input).isOk →
    let e := (assignEvidenceId input.derived s.nextEvidenceId).1
    Admitted s.engine e (·.associated) fun _ => e.degradation
  | .load opts readable file =>
    ∀ s', step s (.load opts readable file) = some s' → AllLinked s'
  | _ => True

theorem AllLinked.frame {s s' : GovernorState} (h : AllLinked s)
    (hconflicts : s'.engine.conflicts = s.engine.conflicts)
    (hevidence : s'.engine.evidence = s.engine.evidence)
    (hthreshold : s'.engine.policy.actionabilityThreshold =
      s.engine.policy.actionabilityThreshold) : AllLinked s' where
  linked := by
    intro id c hc
    rw [hconflicts] at hc
    exact (h.linked id c hc).congr hevidence rfl rfl rfl
  threshold := by rw [hthreshold]; exact h.threshold

theorem AllLinked.frame_interventions {s s' : GovernorState} (h : AllLinked s)
    (hframe : OnlyInterventions s s') : AllLinked s' := by
  obtain ⟨_, _, rfl⟩ := hframe
  exact h.frame rfl rfl rfl

/-- A conflict with nothing but this record is linked by it. -/
theorem linked_new {s : EngineState} {e : InterferenceEvidence} {c : ContentionConflict}
    (hids : c.evidenceIds = [e.id]) (hassociated : c.associated = e.neighbors)
    (hdegradation : c.degradation = e.degradation) : Linked (storeRecord s e) c := by
  by_cases husable : isUsable e
  · refine .inr (.inr ⟨e.id, e, lists_storeRecord_self.mpr ⟨by simp [hids], rfl, husable⟩, ?_⟩)
    refine ⟨fun w hw => hassociated ▸ hw, ?_⟩
    rw [hdegradation]
    exact Binary64.le_refl_of_finite (degradation_finite husable.2)
  · refine .inr (.inl fun eid e₀ hlists => ?_)
    have hid : eid = e.id := by simpa [hids] using hlists.listed
    subst hid
    exact husable (lists_storeRecord_self.mp hlists).2.2

theorem linked_storeEvidence {s : GovernorState} {e : InterferenceEvidence} (hs : AllLinked s)
    (h : Admitted s.engine e (fun _ => e.neighbors)
      fun c => Binary64.maximum c.degradation e.degradation) :
    AllLinked (storeEvidence s e) := by
  unfold storeEvidence
  dsimp only
  split
  · rename_i cid c hloc
    obtain ⟨_, _, hframe⟩ := progressConflict_frame s.engine.policy e (updateConflict c e)
    have hjoined : Linked (storeRecord s.engine e) (updateConflict c e) :=
      (linked_iff_admits rfl).mpr (h.joined cid c hloc)
    refine ⟨fun id x hx => ?_, hs.threshold⟩
    rcases OrderedMap.find_insert_cases hx with ⟨-, rfl⟩ | ⟨hid, hx⟩
    · rw [hframe]
      exact hjoined.congr rfl rfl rfl rfl
    · refine (h.linked_elsewhere hx (hs.linked id x hx) fun c₀ h₀ => ?_).congr rfl rfl rfl rfl
      rw [hloc] at h₀
      cases h₀
      exact hid rfl
  · rename_i hloc
    obtain ⟨_, _, hframe⟩ := progressConflict_frame s.engine.policy e (newConflict s e)
    have hjoined : Linked (storeRecord s.engine e) (newConflict s e) := linked_new rfl rfl rfl
    refine ⟨fun id x hx => ?_, hs.threshold⟩
    rcases OrderedMap.find_insert_cases hx with ⟨-, rfl⟩ | ⟨-, hx⟩
    · rw [hframe]
      exact hjoined.congr rfl rfl rfl rfl
    · refine (h.linked_elsewhere hx (hs.linked id x hx) fun c₀ h₀ => ?_).congr rfl rfl rfl rfl
      rw [hloc] at h₀
      cases h₀

theorem linked_verifyEvidence {s : GovernorState} {e : InterferenceEvidence} (hs : AllLinked s)
    (h : Admitted s.engine e (·.associated) fun _ => e.degradation) :
    AllLinked (verifyEvidence s e) := by
  unfold verifyEvidence
  dsimp only
  split
  · rename_i hloc
    refine ⟨fun id c hc => ?_, hs.threshold⟩
    refine (h.linked_elsewhere hc (hs.linked id c hc) fun c₀ h₀ => ?_).congr rfl rfl rfl rfl
    rw [hloc] at h₀
    cases h₀
  · rename_i cid c hloc
    have hjoined : Linked (storeRecord s.engine e) (remeasureConflict c e) :=
      (linked_iff_admits rfl).mpr (h.joined cid c hloc)
    have hinserted : ∀ {c' : ContentionConflict} {id x},
        (s.engine.conflicts.insert cid c').find id = some x →
        Linked (storeRecord s.engine e) c' → Linked (storeRecord s.engine e) x := by
      intro c' id x hx hc'
      rcases OrderedMap.find_insert_cases hx with ⟨-, rfl⟩ | ⟨hid, hx⟩
      · exact hc'
      · refine h.linked_elsewhere hx (hs.linked id x hx) fun c₀ h₀ => ?_
        rw [hloc] at h₀
        cases h₀
        exact hid rfl
    split
    · exact ⟨fun id x hx => (hinserted hx hjoined).congr rfl rfl rfl rfl, hs.threshold⟩
    · rename_i iid i hopen
      refine ⟨fun id x hx => ?_, hs.threshold⟩
      simp only [settleIntervention, OrderedMap.insert_insert] at hx
      exact (hinserted hx (hjoined.congr rfl rfl rfl rfl)).congr rfl rfl rfl rfl

theorem linked_advanceEpoch {s : GovernorState} (hs : AllLinked s) :
    AllLinked (advanceEpoch s).2 := by
  refine ⟨fun id c _ => .inr (.inl fun eid e hlists => ?_), hs.threshold⟩
  have hstored := hlists.stored
  simp only [advanceEpoch, OrderedMap.find_mapValues, Option.map_eq_some_iff] at hstored
  obtain ⟨e₀, -, rfl⟩ := hstored
  have hcurrent := hlists.usable.1
  unfold requireRevalidation at hcurrent
  split_ifs at hcurrent with h
  exact h hcurrent

theorem linked_commitGrant {s : GovernorState} {id : ConflictId} {cls : InterventionClass}
    {g : Grant} {now : TimeMs} (hs : AllLinked s) (h : Granted s id cls now g) :
    AllLinked (commitGrant s id g now) := by
  refine ⟨fun cid c hc => ?_, hs.threshold⟩
  rcases OrderedMap.find_insert_cases hc with ⟨-, rfl⟩ | ⟨-, hc⟩
  · exact (hs.linked id g.conflict h.conflict).congr rfl rfl rfl rfl
  · exact (hs.linked cid c hc).congr rfl rfl rfl rfl

theorem step_linked {s s' : GovernorState} {op : Op} (hs : AllLinked s) (hop : KeepsLink s op)
    (h : step s op = some s') : AllLinked s' := by
  cases op with
  | setPolicy p =>
    cases h
    dsimp only [setPolicy]
    split_ifs with hv
    · exact ⟨fun id c hc => (hs.linked id c hc).congr rfl rfl rfl rfl, hop⟩
    · exact hs
  | advanceEpoch =>
    cases h
    exact linked_advanceEpoch hs
  | ingestEvidence input =>
    cases h
    dsimp only [ingestEvidence]
    split_ifs with hv
    · exact linked_storeEvidence (hs.frame rfl rfl rfl) (hop hv)
    · exact hs
  | submitPostActionEvidence input =>
    cases h
    dsimp only [submitPostActionEvidence]
    split_ifs with hv
    · exact linked_verifyEvidence (hs.frame rfl rfl rfl) (hop hv)
    · exact hs
  | authorize | authorizeAndDispatch =>
    rcases step_of_request h rfl with ⟨-, rfl⟩ | ⟨g, -, hg, hsame⟩
    · exact hs
    · exact (linked_commitGrant hs hg).frame_interventions hsame
  | load => exact hop s' h
  | _ =>
    have hframe := step_frame h
    exact hs.frame (hframe.conflicts rfl) (hframe.evidence rfl) (by rw [hframe.policy rfl])

/-! ## Decisions -/

theorem evidenced_of_decided {s : GovernorState} {id : ConflictId} {c : ContentionConflict}
    {primary : InterferenceEvidence} {d : InterventionDecision} (hs : AllLinked s)
    (h : Decided s.engine id s.engine.authority c primary d) :
    Evidenced s id d.chosen.target := by
  have htarget := h.target_mem
  obtain ⟨eid, hlisted, hstored, hcurrent, hvalid⟩ :=
    mem_currentEvidence (List.mem_of_head? h.evidence)
  rcases hs.linked id c h.conflict with hempty | hnone | ⟨eid, e, hlists, hcarries⟩
  · rw [hempty] at htarget
    cases htarget
  · exact absurd ⟨hlisted, hstored, hcurrent, hvalid⟩ (hnone eid primary)
  · have hmagnitude := Binary64.le_iff.mp hcarries.magnitude
    have hthreshold := Binary64.le_of_not_lt hs.threshold hmagnitude.1 h.magnitude
    exact ⟨c, eid, e, h.conflict, hlists, hcarries.targets _ htarget,
      Binary64.le_trans hthreshold hcarries.magnitude⟩

/-- Decisions, and the interventions authorized on them, act on one usable record. -/
structure ActsOnEvidence (s : GovernorState) : Prop where
  decision : ∀ id d, (evaluate id s).decision = some d → Evidenced s id d.chosen.target
  authorized : ∀ id cls now iid s', authorize id cls now s = .ok (some iid, s') →
    ∃ r, s'.engine.interventions.find iid = some r ∧ Evidenced s id r.target

theorem actsOnEvidence_of_linked {s : GovernorState} (hs : AllLinked s) : ActsOnEvidence s where
  decision := by
    intro id d hd
    obtain ⟨c, primary, hdec, -⟩ := decided_of_decision hd
    exact evidenced_of_decided hs hdec
  authorized := by
    intro id cls now iid s' h
    rcases authorize_cases h with ⟨-, hnone⟩ | ⟨g, hg, hsome⟩
    · cases hnone
    · cases hsome
      obtain ⟨p, hp, htarget, -⟩ := (granted_of_checks hg).picked
      obtain ⟨c, primary, d, hdec, rfl⟩ := pickCandidate_some hp
      refine ⟨grantRecord s id g now, OrderedMap.find_insert_self .., ?_⟩
      have hevidenced := evidenced_of_decided hs hdec
      rwa [← htarget] at hevidenced

theorem allLinked_empty : AllLinked {} where
  linked := by
    intro id c hc
    cases hc
  threshold := by decide +kernel

/-- In a run whose conflicts admit their evidence, every decision reached takes target and
magnitude from one CURRENT, structurally valid record. -/
theorem decisions_evidenced {ops : List Op} {s : GovernorState}
    (hops : Runs.Guarded step KeepsLink {} ops) (hrun : Runs.exec step {} ops = some s) :
    ActsOnEvidence s := by
  have hstep : ∀ u op u', AllLinked u → KeepsLink u op → step u op = some u' → AllLinked u' :=
    fun _ _ _ => step_linked
  exact actsOnEvidence_of_linked (Runs.invariant_of_guarded hstep hops hrun allLinked_empty)

instance (e : InterferenceEvidence) (associated : List WorkloadId) (degradation : Double) :
    Decidable (Carries e associated degradation) :=
  decidable_of_iff ((∀ w ∈ associated, w ∈ e.neighbors) ∧ degradation ≤ e.degradation)
    ⟨fun h => ⟨h.1, h.2⟩, fun h => ⟨h.targets, h.magnitude⟩⟩

/-- A usable record under an id that no conflict lists is admitted where it carries all. -/
theorem admitted_of_carries {s : EngineState} {e : InterferenceEvidence}
    {associated : ContentionConflict → List WorkloadId} {degradation : ContentionConflict → Double}
    (husable : isUsable e) (hunlisted : ∀ entry ∈ s.conflicts.entries, e.id ∉ entry.2.evidenceIds)
    (hcarries : ∀ entry ∈ locateConflict s.conflicts e,
      Carries e (associated entry.2) (degradation entry.2)) :
    Admitted s e associated degradation where
  joined := fun id c hlocated => .inr (.inl ⟨husable, hcarries (id, c) hlocated⟩)
  unlisted := fun id c hc _ => hunlisted (id, c) (OrderedMap.mem_entries.mpr hc)

/-- The slowdown is observed, and then a stronger one. -/
def observedWorse : List Op :=
  registerNeighbor ++ [.ingestEvidence slowdown,
    .ingestEvidence { slowdown with coRunObservation := 50.0 }]

theorem decisions_evidenced_slowdown : ActsOnEvidence (reached observedWorse) := by
  have hops : Runs.Guarded step KeepsLink {} observedWorse := by
    refine ⟨trivial, fun s hs => ⟨trivial, fun u hu => ⟨fun _ => ?_, fun v hv =>
      ⟨fun _ => ?_, fun _ _ => trivial⟩⟩⟩⟩
    all_goals
      cases hs
      cases hu
    · exact admitted_of_carries (by decide +kernel) (by decide +kernel) (by decide +kernel)
    · cases hv
      exact admitted_of_carries (by decide +kernel) (by decide +kernel) (by decide +kernel)
  exact decisions_evidenced hops (exec_reached (by decide +kernel))

/-- A weak CURRENT observation of workload 2, then a strong STALE one of workload 3. -/
def staleMagnitude : List Op :=
  registerNeighbor ++ [.recordWorkerBoot ⟨3⟩ ⟨1⟩, .recordWorkloadGeneration ⟨3⟩ ⟨1⟩,
    .ingestEvidence { slowdown with coRunObservation := 95.0 },
    .ingestEvidence { slowdown with
      neighbors := [⟨3⟩], coRunObservation := 10.0, status := .stale }]

/-- The decision acts on workload 3, which no CURRENT record names. -/
theorem stale_evidence_selects_target :
    ¬∀ ops s id d, Runs.exec step {} ops = some s → (evaluate id s).decision = some d →
      Evidenced s id d.chosen.target := by
  intro h
  have hrun := @exec_reached staleMagnitude (by decide +kernel)
  have htarget : (evaluate ⟨1⟩ (reached staleMagnitude)).decision.map (·.chosen.target) =
      some ⟨3⟩ := by decide +kernel
  have hcurrent : ((reached staleMagnitude).engine.conflicts.find ⟨1⟩).map (fun c =>
      (currentEvidence (reached staleMagnitude).engine c).map (·.neighbors)) =
      some [[⟨2⟩]] := by decide +kernel
  obtain ⟨d, hd, hchosen⟩ := Option.map_eq_some_iff.mp htarget
  obtain ⟨c, eid, e, hc, hlists, hneighbor, -⟩ := h _ _ _ d hrun hd
  have hmem := mem_currentEvidence_of hlists.listed hlists.stored hlists.usable.1 hlists.usable.2
  rw [hc, Option.map_some, Option.some.injEq] at hcurrent
  have hnames := List.mem_map_of_mem (f := (·.neighbors)) hmem
  rw [hcurrent, List.mem_singleton] at hnames
  rw [hnames, hchosen] at hneighbor
  exact absurd hneighbor (by decide)

end ContentionGovernor
