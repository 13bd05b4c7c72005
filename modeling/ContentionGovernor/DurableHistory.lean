import ContentionGovernor.ConflictHistory
import ContentionGovernor.SingleDispatch

/-!
# The durable history

Conflicts, interventions, fairness records and counters agree with each other in every state
that the operations lead to.
-/

namespace ContentionGovernor

/-! ## Dispatch ids -/

/-- What a step that makes no record does to the ids of one: at most the record under `j`
takes the next dispatch id. -/
def Renumbers (s s' : GovernorState) (j id : InterventionId) (r r' : InterventionRecord) : Prop :=
  r'.id = r.id ∧ (r'.dispatchId = r.dispatchId ∨
    id = j ∧ r'.dispatchId = ⟨s.nextDispatchId⟩ ∧ s'.nextDispatchId = s.nextDispatchId + 1)

structure DispatchIds (s s' : GovernorState) : Prop where
  counter : s'.nextDispatchId = s.nextDispatchId ∨ s'.nextDispatchId = s.nextDispatchId + 1
  records : ∃ j, OrderedMap.Related (Renumbers s s' j)
    s.engine.interventions s'.engine.interventions

theorem dispatchIds_of_related {s s' : GovernorState}
    (hcounter : s'.nextDispatchId = s.nextDispatchId)
    (hrel : OrderedMap.Related (fun _ r r' => r'.id = r.id ∧ r'.dispatchId = r.dispatchId)
      s.engine.interventions s'.engine.interventions) : DispatchIds s s' :=
  ⟨.inl hcounter, ⟨0⟩, hrel.mono fun _ _ _ h => ⟨h.1, .inl h.2⟩⟩

theorem dispatchIds_of_eq {s s' : GovernorState}
    (hcounter : s'.nextDispatchId = s.nextDispatchId)
    (hsame : s'.engine.interventions = s.engine.interventions) : DispatchIds s s' := by
  apply dispatchIds_of_related hcounter
  rw [hsame]
  exact OrderedMap.Related.refl (fun _ _ => ⟨rfl, rfl⟩) _

theorem dispatchIds_set {s : GovernorState} {id : InterventionId} {r r' : InterventionRecord}
    (hr : s.engine.interventions.find id = some r) (hid : r'.id = r.id)
    (hdispatch : r'.dispatchId = r.dispatchId) : DispatchIds s (setIntervention s id r') :=
  dispatchIds_of_related rfl
    (OrderedMap.Related.insert (fun _ _ => ⟨rfl, rfl⟩) hr ⟨hid, hdispatch⟩)

theorem applyOutcome_ids (res : AdapterResult) (r : InterventionRecord) :
    (applyOutcome res r).id = r.id ∧ (applyOutcome res r).dispatchId = r.dispatchId := by
  unfold applyOutcome
  split <;> exact ⟨rfl, rfl⟩

theorem dispatchIds_dispatch (id : InterventionId) (now : TimeMs)
    (adapters : Option AdapterRegistry) (s : GovernorState) :
    DispatchIds s (dispatch id now adapters s).2 := by
  rcases dispatch_cases id now adapters s with hs | ⟨r, hr, -, hs⟩ | ⟨r, hr, -, -, hs⟩
  · rw [hs]
    exact dispatchIds_of_eq rfl rfl
  · rw [hs]
    exact dispatchIds_set hr rfl rfl
  · rw [hs]
    refine ⟨.inr rfl, id, OrderedMap.Related.insert (fun _ _ => ⟨rfl, .inl rfl⟩) hr ?_⟩
    obtain ⟨hid, hdispatch⟩ := applyOutcome_ids
      (callAdapter adapters ⟨id, r.cls, r.target, r.attemptId⟩)
      { r with state := .dispatched, dispatchId := ⟨s.nextDispatchId⟩, dispatchedAt := now }
    exact ⟨hid, .inr ⟨rfl, hdispatch, rfl⟩⟩

theorem dispatchIds_submit (input : InterferenceEvidence) (s : GovernorState) :
    DispatchIds s (submitPostActionEvidence input s).2 := by
  have hcounter : (submitPostActionEvidence input s).2.nextDispatchId = s.nextDispatchId := by
    obtain ⟨_, _, _, _, _, hframe⟩ := submitPostActionEvidence_frame input s
    rw [hframe]
  cases hclosing : closing s input with
  | none => exact dispatchIds_of_eq hcounter (submit_of_not_closing hclosing).1
  | some v =>
    obtain ⟨-, -, hopened⟩ := closing_spec hclosing
    apply dispatchIds_of_related hcounter
    rw [submit_of_closing hclosing]
    exact OrderedMap.Related.insert (fun _ _ => ⟨rfl, rfl⟩) (openIntervention_spec hopened).1
      ⟨rfl, rfl⟩

/-- A step leaves the ids of the records that its grant has left, up to one dispatch id. -/
theorem step_dispatchIds {s s' : GovernorState} {op : Op} (h : step s op = some s')
    (hload : ¬op.isLoad) :
    (op.grant s = none ∧ DispatchIds s s') ∨
    ∃ cid cls now g, Selects s op s' cid cls now g ∧
      (s' = commitGrant s cid g now ∨ op.isDispatch ∧
        DispatchIds (commitGrant s cid g now) s') := by
  cases op with
  | authorize cid cls now =>
    rcases step_of_request h rfl with ⟨hnone, rfl⟩ | ⟨g, hgrant, hg, honly⟩
    · exact .inl ⟨hnone, dispatchIds_of_eq rfl rfl⟩
    · refine .inr ⟨cid, cls, now, g, ⟨rfl, hgrant, hg, honly⟩, ?_⟩
      obtain ⟨r, hr, rfl⟩ := map_toOption h
      rw [authorize_of_granted hg] at hr
      cases hr
      exact .inl rfl
  | authorizeAndDispatch cid cls now now' adapters =>
    rcases step_of_request h rfl with ⟨hnone, rfl⟩ | ⟨g, hgrant, hg, honly⟩
    · exact .inl ⟨hnone, dispatchIds_of_eq rfl rfl⟩
    · refine .inr ⟨cid, cls, now, g, ⟨rfl, hgrant, hg, honly⟩, ?_⟩
      obtain ⟨r, hr, rfl⟩ := map_toOption h
      rw [authorizeAndDispatch_of_granted hg] at hr
      cases hr
      exact .inr ⟨rfl, dispatchIds_dispatch _ now' adapters _⟩
  | dispatch id now adapters =>
    cases h
    exact .inl ⟨rfl, dispatchIds_dispatch id now adapters s⟩
  | submitPostActionEvidence input =>
    cases h
    exact .inl ⟨rfl, dispatchIds_submit input s⟩
  | advanceEpoch =>
    cases h
    refine .inl ⟨rfl, dispatchIds_of_related rfl (OrderedMap.Related.mapValues (fun _ r => ?_) _)⟩
    unfold abandonInFlight
    split_ifs <;> exact ⟨rfl, rfl⟩
  | onAcknowledge id attempt now =>
    cases h
    refine .inl ⟨rfl, ?_⟩
    unfold onAcknowledge
    split
    · exact dispatchIds_of_eq rfl rfl
    · rename_i r hr
      split_ifs
      · exact dispatchIds_of_eq rfl rfl
      · exact dispatchIds_set hr rfl rfl
  | onActionFailed id attempt note =>
    cases h
    refine .inl ⟨rfl, ?_⟩
    unfold onActionFailed
    split
    · exact dispatchIds_of_eq rfl rfl
    · rename_i r hr
      exact dispatchIds_set hr rfl rfl
  | setPolicy p =>
    cases h
    obtain ⟨_, _, hframe⟩ := setPolicy_frame p s
    rw [hframe]
    exact .inl ⟨rfl, dispatchIds_of_eq rfl rfl⟩
  | ingestEvidence input =>
    cases h
    obtain ⟨_, _, _, _, hframe⟩ := ingestEvidence_frame input s
    rw [hframe]
    exact .inl ⟨rfl, dispatchIds_of_eq rfl rfl⟩
  | load => exact absurd rfl hload
  | _ =>
    cases h
    exact .inl ⟨rfl, dispatchIds_of_eq rfl rfl⟩

/-- The dispatch counter has passed all ids in use, and no dispatch id stands in two
records. -/
structure DispatchesApart (s : GovernorState) : Prop where
  own : ∀ id r, s.engine.interventions.find id = some r → r.id = id
  below : ∀ id r, s.engine.interventions.find id = some r →
    r.dispatchId.value.toNat < s.nextDispatchId.toNat
  apart : ∀ id id' r r', s.engine.interventions.find id = some r →
    s.engine.interventions.find id' = some r' → r.dispatchId = r'.dispatchId → id = id'

theorem DispatchesApart.of_ids {s s' : GovernorState} (hs : DispatchesApart s)
    (htop : s.nextDispatchId.toNat < 2 ^ 64 - 1) (hids : DispatchIds s s') :
    DispatchesApart s' := by
  obtain ⟨hcounter, j, hrel⟩ := hids
  have hgrows : s.nextDispatchId.toNat ≤ s'.nextDispatchId.toNat := by
    rcases hcounter with hsame | hnext
    · rw [hsame]
    · rw [hnext, toNat_add_one htop]
      exact Nat.le_succ _
  constructor
  · intro id r' hr'
    obtain ⟨r, hr, hid, -⟩ := hrel.exists_left hr'
    exact hid.trans (hs.own id r hr)
  · intro id r' hr'
    obtain ⟨r, hr, -, hsame | ⟨-, hnew, hnext⟩⟩ := hrel.exists_left hr'
    · rw [hsame]
      exact (hs.below id r hr).trans_le hgrows
    · rw [hnew, hnext, toNat_add_one htop]
      exact Nat.lt_succ_self _
  · intro id id' r r' hr hr' hboth
    obtain ⟨x, hx, -, hsame | ⟨hj, hnew, -⟩⟩ := hrel.exists_left hr <;>
      obtain ⟨y, hy, -, hsame' | ⟨hj', hnew', -⟩⟩ := hrel.exists_left hr'
    · apply hs.apart id id' x y hx hy
      rw [← hsame, ← hsame', hboth]
    · -- A dispatch id in use is below the counter, a new one is not.
      have hbelow := hs.below id x hx
      rw [← hsame, hboth, hnew'] at hbelow
      exact absurd hbelow (lt_irrefl _)
    · have hbelow := hs.below id' y hy
      rw [← hsame', ← hboth, hnew] at hbelow
      exact absurd hbelow (lt_irrefl _)
    · exact hj.trans hj'.symm

/-- A record after a grant is the new one, or was there. -/
theorem commitGrant_find {s : GovernorState} {id : ConflictId} {g : Grant} {now : TimeMs}
    {j : InterventionId} {r : InterventionRecord}
    (hr : (commitGrant s id g now).engine.interventions.find j = some r) :
    (j = ⟨s.nextInterventionId⟩ ∧ r = grantRecord s id g now) ∨
      s.engine.interventions.find j = some r := by
  rcases OrderedMap.find_insert_cases hr with ⟨hj, rfl⟩ | ⟨-, hr⟩
  · exact .inl ⟨hj, rfl⟩
  · exact .inr hr

theorem DispatchesApart.commit {s : GovernorState} (hs : DispatchesApart s)
    (htop : s.nextDispatchId.toNat < 2 ^ 64 - 1) (id : ConflictId) (g : Grant) (now : TimeMs) :
    DispatchesApart (commitGrant s id g now) := by
  have hnext : (commitGrant s id g now).nextDispatchId.toNat = s.nextDispatchId.toNat + 1 :=
    toNat_add_one htop
  constructor
  · intro j r hr
    rcases commitGrant_find hr with ⟨rfl, rfl⟩ | hr
    · rfl
    · exact hs.own j r hr
  · intro j r hr
    rw [hnext]
    rcases commitGrant_find hr with ⟨rfl, rfl⟩ | hr
    · exact Nat.lt_succ_self _
    · exact Nat.lt_succ_of_lt (hs.below j r hr)
  · intro j j' r r' hr hr' hboth
    rcases commitGrant_find hr with ⟨rfl, rfl⟩ | hr <;>
      rcases commitGrant_find hr' with ⟨rfl, rfl⟩ | hr'
    · rfl
    · have hbelow := hs.below j' r' hr'
      rw [← hboth] at hbelow
      exact absurd hbelow (lt_irrefl _)
    · have hbelow := hs.below j r hr
      rw [hboth] at hbelow
      exact absurd hbelow (lt_irrefl _)
    · exact hs.apart j j' r r' hr hr' hboth

/-! ## Selections -/

/-- A conflict has selected, in increasing order, exactly the records that name it, and
every record names a conflict. -/
structure SelectionsExact (s : GovernorState) : Prop where
  increasing : ∀ cid c, s.engine.conflicts.find cid = some c →
    c.selectedIds.Pairwise (· < ·)
  exact : ∀ cid c, s.engine.conflicts.find cid = some c → ∀ id, id ∈ c.selectedIds ↔
    ∃ r, s.engine.interventions.find id = some r ∧ r.conflictId = cid
  named : ∀ id r, s.engine.interventions.find id = some r →
    ∃ c, s.engine.conflicts.find r.conflictId = some c

/-- Steps that move records and carry conflicts over keep the selections exact. -/
theorem SelectionsExact.carry {s s' : GovernorState} (hs : SelectionsExact s)
    (hconflicts : OrderedMap.Related (fun _ c c' => CarriedOver c c')
      s.engine.conflicts s'.engine.conflicts)
    (hrecords : OrderedMap.Related (fun _ r r' => SameAction r r')
      s.engine.interventions s'.engine.interventions) : SelectionsExact s' := by
  constructor
  · intro cid c' hc'
    obtain ⟨c, hc, hcarries⟩ := hconflicts.exists_left hc'
    rw [hcarries.selectedIds]
    exact hs.increasing cid c hc
  · intro cid c' hc' id
    obtain ⟨c, hc, hcarries⟩ := hconflicts.exists_left hc'
    rw [hcarries.selectedIds, hs.exact cid c hc]
    constructor
    · rintro ⟨r, hr, hfor⟩
      obtain ⟨r', hr', hsame⟩ := hrecords.exists_right hr
      exact ⟨r', hr', hsame.conflictId.trans hfor⟩
    · rintro ⟨r', hr', hfor⟩
      obtain ⟨r, hr, hsame⟩ := hrecords.exists_left hr'
      exact ⟨r, hr, hsame.conflictId.symm.trans hfor⟩
  · intro id r' hr'
    obtain ⟨r, hr, hsame⟩ := hrecords.exists_left hr'
    obtain ⟨c, hc⟩ := hs.named id r hr
    obtain ⟨c', hc', -⟩ := hconflicts.exists_right hc
    exact ⟨c', hsame.conflictId ▸ hc'⟩

/-- A conflict that is opened has selected nothing, and no record names it. -/
theorem SelectionsExact.open {s s' : GovernorState} (hs : SelectionsExact s)
    (hkeyed : ConflictsKeyed s) {c' : ContentionConflict} (hopens : Opens s s' c')
    (hrecords : OrderedMap.Related (fun _ r r' => SameAction r r')
      s.engine.interventions s'.engine.interventions) : SelectionsExact s' := by
  have hnamed : ∀ {id r'}, s'.engine.interventions.find id = some r' →
      r'.conflictId ≠ ⟨s.nextConflictId⟩ ∧
        ∃ c, s.engine.conflicts.find r'.conflictId = some c := by
    intro id r' hr'
    obtain ⟨r, hr, hsame⟩ := hrecords.exists_left hr'
    obtain ⟨c, hc⟩ := hs.named id r hr
    rw [← hsame.conflictId] at hc
    refine ⟨fun hnew => ?_, c, hc⟩
    rw [hnew, hkeyed.next_free] at hc
    cases hc
  constructor
  · intro cid c hc
    rw [hopens.conflicts] at hc
    rcases OrderedMap.find_insert_cases hc with ⟨-, rfl⟩ | ⟨-, hc⟩
    · rw [hopens.selectedIds]
      exact .nil
    · exact hs.increasing cid c hc
  · intro cid c hc id
    rw [hopens.conflicts] at hc
    rcases OrderedMap.find_insert_cases hc with ⟨hcid, rfl⟩ | ⟨-, hc⟩
    · rw [hopens.selectedIds]
      constructor
      · exact fun hid => absurd hid List.not_mem_nil
      · rintro ⟨r', hr', hfor⟩
        exact absurd (hfor.trans hcid) (hnamed hr').1
    · rw [hs.exact cid c hc]
      constructor
      · rintro ⟨r, hr, hfor⟩
        obtain ⟨r', hr', hsame⟩ := hrecords.exists_right hr
        exact ⟨r', hr', hsame.conflictId.trans hfor⟩
      · rintro ⟨r', hr', hfor⟩
        obtain ⟨r, hr, hsame⟩ := hrecords.exists_left hr'
        exact ⟨r, hr, hsame.conflictId.symm.trans hfor⟩
  · intro id r' hr'
    obtain ⟨hne, c, hc⟩ := hnamed hr'
    rw [hopens.conflicts, OrderedMap.find_insert_of_ne _ hne]
    exact ⟨c, hc⟩

/-- A grant appends its record to the selections of its conflict. -/
theorem SelectionsExact.commit {s : GovernorState} (hs : SelectionsExact s)
    (hbelow : IdsBelow s) {id : ConflictId} {g : Grant}
    (hg : s.engine.conflicts.find id = some g.conflict) (now : TimeMs) :
    SelectionsExact (commitGrant s id g now) := by
  have hfresh : ∀ r, s.engine.interventions.find ⟨s.nextInterventionId⟩ ≠ some r :=
    fun r hr => absurd (hbelow _ r hr) (lt_irrefl _)
  have hnew : (commitGrant s id g now).engine.interventions.find ⟨s.nextInterventionId⟩ =
      some (grantRecord s id g now) := OrderedMap.find_insert_self ..
  have hold : ∀ j, j ≠ ⟨s.nextInterventionId⟩ →
      (commitGrant s id g now).engine.interventions.find j = s.engine.interventions.find j :=
    fun j hj => OrderedMap.find_insert_of_ne _ hj _
  have hconflict : ∀ {cid c}, (commitGrant s id g now).engine.conflicts.find cid = some c →
      (cid = id ∧ c = selectConflict s g now) ∨
        cid ≠ id ∧ s.engine.conflicts.find cid = some c := by
    intro cid c hc
    rcases OrderedMap.find_insert_cases hc with ⟨hcid, rfl⟩ | ⟨hcid, hc⟩
    · exact .inl ⟨hcid, rfl⟩
    · exact .inr ⟨hcid, hc⟩
  constructor
  · intro cid c hc
    rcases hconflict hc with ⟨rfl, rfl⟩ | ⟨-, hc⟩
    · refine List.pairwise_append.mpr
        ⟨hs.increasing cid g.conflict hg, List.pairwise_singleton _ _, ?_⟩
      intro j hj k hk
      obtain ⟨r, hr, -⟩ := (hs.exact cid g.conflict hg j).mp hj
      rw [List.mem_singleton.mp hk]
      exact hbelow j r hr
    · exact hs.increasing cid c hc
  · intro cid c hc j
    rcases hconflict hc with ⟨rfl, rfl⟩ | ⟨hcid, hc⟩
    · have happend : j ∈ (selectConflict s g now).selectedIds ↔
          j ∈ g.conflict.selectedIds ∨ j = ⟨s.nextInterventionId⟩ := by
        simp [selectConflict]
      rw [happend, hs.exact cid g.conflict hg]
      by_cases hj : j = ⟨s.nextInterventionId⟩
      · subst hj
        exact iff_of_true (.inr rfl) ⟨_, hnew, rfl⟩
      · rw [hold j hj]
        exact or_iff_left hj
    · rw [hs.exact cid c hc]
      by_cases hj : j = ⟨s.nextInterventionId⟩
      · subst hj
        rw [hnew]
        refine iff_of_false ?_ ?_
        · rintro ⟨r, hr, -⟩
          exact hfresh r hr
        · rintro ⟨r, hr, hfor⟩
          cases hr
          exact hcid hfor.symm
      · rw [hold j hj]
  · intro j r hr
    have hnamed : r.conflictId = id ∨ ∃ c, s.engine.conflicts.find r.conflictId = some c := by
      rcases commitGrant_find hr with ⟨-, rfl⟩ | hr
      · exact .inl rfl
      · exact .inr (hs.named j r hr)
    by_cases hcid : r.conflictId = id
    · rw [hcid]
      exact ⟨_, OrderedMap.find_insert_self ..⟩
    · exact (hnamed.resolve_left hcid).imp fun c hc =>
        (OrderedMap.find_insert_of_ne _ hcid _).trans hc

theorem step_selectionsExact {s s' : GovernorState} {op : Op} (hs : SelectionsExact s)
    (hkeyed : ConflictsKeyed s) (hbelow : IdsBelow s) (hload : ¬op.isLoad)
    (h : step s op = some s') : SelectionsExact s' := by
  have hsame : ∀ id r r', RecordStep s op id r r' → SameAction r r' := fun _ _ _ hmove => hmove.1
  rcases step_records h hload with ⟨hnone, -, hrel⟩ | ⟨cid, cls, now, g, hselects, hrel⟩
  · rcases step_history h hload with hcarries | ⟨c', hopens⟩ | ⟨_, _, _, g, hselects⟩
    · exact hs.carry hcarries.conflicts (hrel.mono hsame)
    · exact hs.open hkeyed hopens (hrel.mono hsame)
    · rw [hselects.grant] at hnone
      cases hnone
  · apply (hs.commit hbelow hselects.granted.conflict now).carry _ (hrel.mono hsame)
    rw [hselects.conflicts]
    exact OrderedMap.Related.refl (fun _ => CarriedOver.refl) _

/-! ## Counts -/

/-- The interventions counted in the fairness record of a workload, zero without one. -/
def interventionCount (s : GovernorState) (w : WorkloadId) : UInt64 :=
  (s.engine.fairness.find w).elim 0 fun fr => fr.interventionCount

/-- The records whose target the workload is. -/
def interventionsOn (s : GovernorState) (w : WorkloadId) : ℕ :=
  s.engine.interventions.count fun _ r => r.target = w

/-- A step without a grant counts no intervention. -/
theorem interventionCount_kept {s s' : GovernorState} {op : Op} (h : step s op = some s')
    (hload : ¬op.isLoad) (hgrant : op.grant s = none) (w : WorkloadId) :
    interventionCount s' w = interventionCount s w := by
  unfold interventionCount
  cases op with
  | authorize | authorizeAndDispatch =>
    rcases step_of_request h rfl with ⟨-, rfl⟩ | ⟨g, hsome, -⟩
    · rfl
    · rw [hgrant] at hsome
      cases hsome
  | advanceEpoch =>
    cases h
    simp only [advanceEpoch, OrderedMap.find_mapValues]
    cases s.engine.fairness.find w <;> rfl
  | submitPostActionEvidence input =>
    cases h
    rw [find_fairness_submit]
    cases s.engine.fairness.find w with
    | none => rfl
    | some fr =>
      rw [Option.map_some]
      split_ifs <;> rfl
  | load => exact absurd rfl hload
  | _ => rw [(step_frame h).fairness rfl]

theorem chargeFairness_count (fr : FairnessRecord) (w : WorkloadId) (now : TimeMs) :
    (chargeFairness fr w now).interventionCount = saturatingAdd fr.interventionCount 1 := by
  simp only [chargeFairness]

theorem interventionCount_commit (s : GovernorState) (id : ConflictId) (g : Grant) (now : TimeMs)
    (w : WorkloadId) : interventionCount (commitGrant s id g now) w =
      if w = g.target then saturatingAdd (interventionCount s w) 1
      else interventionCount s w := by
  have hcount : interventionCount (commitGrant s id g now) w = ((s.engine.fairness.insert g.target
      (chargeFairness ((s.engine.fairness.find g.target).getD {}) g.target now)).find w).elim 0
        fun fr => fr.interventionCount := rfl
  rw [hcount, OrderedMap.find_insert]
  unfold interventionCount
  split_ifs with hw
  · rw [hw, Option.elim_some, chargeFairness_count]
    cases s.engine.fairness.find g.target with
    | none => rw [Option.getD_none, Option.elim_none]
    | some fr => rw [Option.getD_some, Option.elim_some]
  · rfl

theorem toNat_saturatingAdd_one {n : UInt64} (h : n.toNat < 2 ^ 64 - 1) :
    (saturatingAdd n 1).toNat = n.toNat + 1 := by
  have hroom : ¬0xFFFFFFFFFFFFFFFF - n < 1 := by
    rw [UInt64.lt_iff_toNat_lt, UInt64.toNat_sub_of_le]
    · change ¬2 ^ 64 - 1 - n.toNat < 1
      omega
    · rw [UInt64.le_iff_toNat_le]
      exact h.le
  rw [saturatingAdd, if_neg hroom, toNat_add_one h]

/-- The counter has passed as many ids as there are records, and the fairness records count
them by target. -/
structure Counted (s : GovernorState) : Prop where
  size : s.engine.interventions.size < s.nextInterventionId.toNat
  counts : ∀ w, (interventionCount s w).toNat = interventionsOn s w

theorem Counted.commit {s : GovernorState} (hs : Counted s) (hbelow : IdsBelow s)
    (htop : s.nextInterventionId.toNat < 2 ^ 64 - 1) (id : ConflictId) (g : Grant)
    (now : TimeMs) : Counted (commitGrant s id g now) := by
  have hfresh : s.engine.interventions.find ⟨s.nextInterventionId⟩ = none := by
    apply Option.eq_none_iff_forall_ne_some.mpr
    intro r hr
    exact lt_irrefl _ (hbelow _ r hr)
  have hnext : (commitGrant s id g now).nextInterventionId.toNat =
      s.nextInterventionId.toNat + 1 := toNat_add_one htop
  have hsize := OrderedMap.size_insert_of_none hfresh (grantRecord s id g now)
  constructor
  · rw [hnext]
    exact hsize.trans_lt (Nat.succ_lt_succ hs.size)
  · intro w
    have hcount : interventionsOn (commitGrant s id g now) w =
        interventionsOn s w + if decide (g.target = w) then 1 else 0 :=
      OrderedMap.count_insert hfresh _
    -- There are fewer interventions than ids, so the count is not saturated.
    have hroom : (interventionCount s w).toNat < 2 ^ 64 - 1 := by
      have hle : interventionsOn s w ≤ s.engine.interventions.size :=
        OrderedMap.count_le_size _ _
      have hlt := hs.size
      rw [hs.counts w]
      omega
    rw [interventionCount_commit, hcount]
    by_cases hw : w = g.target
    · rw [if_pos hw, toNat_saturatingAdd_one hroom, hs.counts w, if_pos (decide_eq_true hw.symm)]
    · rw [if_neg hw, hs.counts w, if_neg, Nat.add_zero]
      simpa using Ne.symm hw

theorem step_counted {s s' : GovernorState} {op : Op} (hs : Counted s) (hbelow : IdsBelow s)
    (hop : CountsUp s op) (h : step s op = some s') : Counted s' := by
  have hkept : ∀ {u}, OrderedMap.Related (RecordStep s op) u.engine.interventions
      s'.engine.interventions → s'.nextInterventionId = u.nextInterventionId →
      (∀ w, interventionCount s' w = interventionCount u w) → Counted u → Counted s' := by
    intro u hrel hnext hfairness hu
    constructor
    · rw [hrel.size, hnext]
      exact hu.size
    · intro w
      rw [hfairness, hu.counts]
      refine (hrel.count fun _ r r' hmove => ?_).symm
      rw [hmove.1.target]
  rcases step_records h hop.1 with ⟨hnone, hnext, hrel⟩ | ⟨cid, cls, now, g, hselects, hrel⟩
  · exact hkept hrel hnext (interventionCount_kept h hop.1 hnone) hs
  · refine hkept hrel ?_ ?_ (hs.commit hbelow hop.2 cid g now)
    all_goals
      obtain ⟨_, _, rfl⟩ := hselects.only
      first | rfl | exact fun _ => rfl

/-! ## Runs -/

/-- No load, and every id comes from a counter below the top.  A composite takes a second
dispatch id. -/
structure CountsIds (s : GovernorState) (op : Op) : Prop where
  noLoad : ¬op.isLoad
  conflicts : s.nextConflictId.toNat < 2 ^ 64 - 1
  interventions : s.nextInterventionId.toNat < 2 ^ 64 - 1
  attempts : s.nextAttemptId.toNat < 2 ^ 64 - 1
  dispatches : s.nextDispatchId.toNat + (if op.request.isSome ∧ op.isDispatch then 1 else 0) <
    2 ^ 64 - 1

instance (s : GovernorState) (op : Op) : Decidable (CountsIds s op) :=
  decidable_of_iff (¬op.isLoad ∧ s.nextConflictId.toNat < 2 ^ 64 - 1 ∧
    s.nextInterventionId.toNat < 2 ^ 64 - 1 ∧ s.nextAttemptId.toNat < 2 ^ 64 - 1 ∧
    s.nextDispatchId.toNat + (if op.request.isSome ∧ op.isDispatch then 1 else 0) < 2 ^ 64 - 1)
    ⟨fun ⟨h₁, h₂, h₃, h₄, h₅⟩ => ⟨h₁, h₂, h₃, h₄, h₅⟩,
      fun ⟨h₁, h₂, h₃, h₄, h₅⟩ => ⟨h₁, h₂, h₃, h₄, h₅⟩⟩

theorem step_dispatchesApart {s s' : GovernorState} {op : Op} (hs : DispatchesApart s)
    (hop : CountsIds s op) (h : step s op = some s') : DispatchesApart s' := by
  have htop : s.nextDispatchId.toNat < 2 ^ 64 - 1 := Nat.lt_of_add_right_lt hop.dispatches
  rcases step_dispatchIds h hop.noLoad with ⟨-, hids⟩ | ⟨cid, cls, now, g, hselects, hids⟩
  · exact hs.of_ids htop hids
  · have hcommit := hs.commit htop cid g now
    rcases hids with rfl | ⟨hdispatch, hids⟩
    · exact hcommit
    · apply hcommit.of_ids _ hids
      have hroom := hop.dispatches
      rw [if_pos ⟨by rw [hselects.request]; rfl, hdispatch⟩] at hroom
      exact (toNat_add_one htop).trans_lt hroom

/-- The records, conflicts and counters of a state that the operations have led to. -/
structure Accounted (s : GovernorState) : Prop where
  keyed : ConflictsKeyed s
  attempts : AttemptsApart s
  dispatches : DispatchesApart s
  selections : SelectionsExact s
  counted : Counted s

theorem accounted_empty : Accounted {} := by
  have hnone : ∀ {id : InterventionId} {r : InterventionRecord},
      ({} : GovernorState).engine.interventions.find id ≠ some r := by
    intro id r hr
    cases hr
  have hnoConflict : ∀ {cid : ConflictId} {c : ContentionConflict},
      ({} : GovernorState).engine.conflicts.find cid ≠ some c := by
    intro cid c hc
    cases hc
  exact
    { keyed := conflictsKeyed_empty
      attempts := ⟨fun _ _ h => absurd h hnone, fun _ _ h => absurd h hnone,
        fun _ _ _ _ h => absurd h hnone⟩
      dispatches := ⟨fun _ _ h => absurd h hnone, fun _ _ h => absurd h hnone,
        fun _ _ _ _ h => absurd h hnone⟩
      selections := ⟨fun _ _ h => absurd h hnoConflict, fun _ _ h => absurd h hnoConflict,
        fun _ _ h => absurd h hnone⟩
      counted := ⟨Nat.zero_lt_one, fun _ => rfl⟩ }

theorem step_accounted {s s' : GovernorState} {op : Op} (hs : Accounted s)
    (hop : CountsIds s op) (h : step s op = some s') : Accounted s' where
  keyed := step_conflictsKeyed hs.keyed ⟨hop.noLoad, hop.conflicts⟩ h
  attempts := attemptsApart_step hs.attempts ⟨hop.noLoad, hop.interventions⟩ hop.attempts h
  dispatches := step_dispatchesApart hs.dispatches hop h
  selections := step_selectionsExact hs.selections hs.keyed hs.attempts.idsBelow hop.noLoad h
  counted := step_counted hs.counted hs.attempts.idsBelow ⟨hop.noLoad, hop.interventions⟩ h

/-- The history that a state holds is complete and exact. -/
structure DurableHistory (s : GovernorState) : Prop where
  conflictKeys : ∀ cid c, s.engine.conflicts.find cid = some c →
    c.id = cid ∧ cid.value.toNat < s.nextConflictId.toNat
  interventionKeys : ∀ id r, s.engine.interventions.find id = some r →
    r.id = id ∧ id.value.toNat < s.nextInterventionId.toNat
  increasing : ∀ cid c, s.engine.conflicts.find cid = some c → c.selectedIds.Pairwise (· < ·)
  selections : ∀ cid c, s.engine.conflicts.find cid = some c → ∀ id, id ∈ c.selectedIds ↔
    ∃ r, s.engine.interventions.find id = some r ∧ r.conflictId = c.id
  conflictExists : ∀ id r, s.engine.interventions.find id = some r →
    ∃ c, s.engine.conflicts.find r.conflictId = some c
  attempts : ∀ id id' r r', s.engine.interventions.find id = some r →
    s.engine.interventions.find id' = some r' → r.attemptId = r'.attemptId → id = id'
  dispatches : ∀ id id' r r', s.engine.interventions.find id = some r →
    s.engine.interventions.find id' = some r' → r.dispatchId = r'.dispatchId → id = id'
  counts : ∀ w, (interventionCount s w).toNat = interventionsOn s w

/-- In a run from the empty governor without a load, with the id counters below their top,
conflicts, interventions, fairness records and counters agree. -/
theorem durable_history (ops : List Op) (s : GovernorState)
    (hops : Runs.Guarded step CountsIds {} ops) (hrun : Runs.exec step {} ops = some s) :
    DurableHistory s := by
  have hs : Accounted s :=
    Runs.invariant_of_guarded (fun _ _ _ => step_accounted) hops hrun accounted_empty
  exact
    { conflictKeys := hs.keyed
      interventionKeys := fun id r hr => ⟨hs.dispatches.own id r hr, hs.attempts.idsBelow id r hr⟩
      increasing := hs.selections.increasing
      selections := by
        intro cid c hc id
        rw [(hs.keyed cid c hc).1]
        exact hs.selections.exact cid c hc id
      conflictExists := hs.selections.named
      attempts := hs.attempts.apart
      dispatches := hs.dispatches.apart
      counts := hs.counted.counts }

/-- Two throttles are authorized, and the first is dispatched and verified. -/
def verifiedThrottle : List Op :=
  throttleNeighbor ++ [.authorizeAndDispatch ⟨1⟩ .throttle 10000 10500 (some acceptingAdapter),
    .submitPostActionEvidence recovered]

theorem durable_history_verified : DurableHistory (reached verifiedThrottle) :=
  durable_history verifiedThrottle _ (by decide +kernel) (exec_reached (by decide +kernel))

example : interventionsOn (reached verifiedThrottle) ⟨2⟩ = 2 := by decide +kernel

end ContentionGovernor
