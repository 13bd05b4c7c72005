import ContentionGovernor.ConflictHistory
import ContentionGovernor.DurableLimits
import ContentionGovernor.Thresholds

/-!
# No way down

Ingestion keeps the largest degradation that a conflict has had and never clears its
actionable flag; the release threshold is not read.  So a run of low measurements releases
only a conflict that was never actionable.
-/

namespace ContentionGovernor

/-- A run of observations that is to release the conflict: enough of them, each accepted,
CURRENT, about the conflict and at the release threshold or below. -/
structure ReleaseRun (s : GovernorState) (c : ContentionConflict)
    (es : List InterferenceEvidence) : Prop where
  enough : s.engine.policy.hysteresisEvidenceCount.toNat ≤ es.length
  accepted : ∀ e ∈ es, (validateEvidence e).isOk
  current : ∀ e ∈ es, e.status = .current
  about : ∀ e ∈ es, IsAbout c e
  low : ∀ e ∈ es, e.measured ≤ s.engine.policy.releaseThreshold

/-- The conflict is no longer actionable. -/
def Released (s : GovernorState) (cid : ConflictId) : Prop :=
  ∃ c, s.engine.conflicts.find cid = some c ∧ c.state ≠ .actionable ∧
    c.inActionableState = false ∧ (evaluate cid s).decision = none

/-- The first of the observations is one that ingestion receives for the conflict. -/
def Receives (s : GovernorState) (cid : ConflictId) (es : List InterferenceEvidence) : Prop :=
  ∀ e ∈ es.head?, (locateConflict s.engine.conflicts e).map Prod.fst = some cid

/-- The conflict is below the threshold and was not actionable before. -/
structure Inactive (p : ContentionPolicy) (c : ContentionConflict) : Prop where
  below : c.degradation < p.actionabilityThreshold
  flag : c.inActionableState = false
  state : c.state ≠ .actionable

theorem Inactive.released {s : GovernorState} {cid : ConflictId} {c : ContentionConflict}
    (hc : s.engine.conflicts.find cid = some c) (h : Inactive s.engine.policy c) :
    Released s cid :=
  ⟨c, hc, h.state, h.flag, no_decision_of_below hc h.below⟩

/-! ## One observation -/

/-- The conflict after CURRENT evidence for it. -/
def observedConflict (p : ContentionPolicy) (e : InterferenceEvidence) (c : ContentionConflict) :
    ContentionConflict := progressConflict p e (updateConflict c e)

theorem isAbout_storedEvidence {s : GovernorState} {c : ContentionConflict}
    {e : InterferenceEvidence} : IsAbout c (storedEvidence s e) ↔ IsAbout c e := by
  obtain ⟨id, h⟩ := storedEvidence_derived s e
  rw [h]
  rfl

theorem ingestEvidence_policy (e : InterferenceEvidence) (s : GovernorState) :
    (ingestEvidence e s).2.engine.policy = s.engine.policy := by
  obtain ⟨_, _, _, _, hframe⟩ := ingestEvidence_frame e s
  rw [hframe]

/-- Evidence about a conflict leaves it as it is, because an earlier one is about it too, or
is observed by it. -/
theorem ingest_observed {s : GovernorState} {cid : ConflictId} {c : ContentionConflict}
    {e : InterferenceEvidence} (hc : s.engine.conflicts.find cid = some c)
    (hv : (validateEvidence e).isOk) (habout : IsAbout c e) :
    (ingestEvidence e s).2.engine.conflicts.find cid = some c ∨
      locateConflict s.engine.conflicts (storedEvidence s e) = some (cid, c) ∧
      (ingestEvidence e s).2.engine.conflicts.find cid =
        some (observedConflict s.engine.policy (storedEvidence s e) c) := by
  have habout := isAbout_storedEvidence (s := s).mpr habout
  rcases ingest_conflicts (s := s) hv with ⟨hnone, -⟩ | ⟨key, located, hlocated, hinsert⟩
  · exact absurd habout.2 (not_matches_of_locate_none hnone hc habout.1)
  · rw [hinsert, OrderedMap.find_insert]
    split_ifs with hkey
    · subst hkey
      have hsame : c = located := Option.some.inj (hc.symm.trans (locateConflict_find hlocated))
      subst hsame
      exact .inr ⟨hlocated, rfl⟩
    · exact .inl hc

theorem observedConflict_subject (p : ContentionPolicy) (e : InterferenceEvidence)
    (c : ContentionConflict) : (observedConflict p e c).domain = c.domain ∧
      (observedConflict p e c).affected = c.affected := by
  have hsame := progressConflict_subject p e (updateConflict c e)
  exact ⟨hsame.domain, hsame.affected⟩

/-- A low observation leaves a conflict inactive that is below the threshold and has no flag. -/
theorem inactive_observed {p : ContentionPolicy} {c : ContentionConflict}
    {e : InterferenceEvidence} (hbelow : c.degradation < p.actionabilityThreshold)
    (hflag : c.inActionableState = false) (hcurrent : e.status = .current)
    (hlow : e.degradation < p.actionabilityThreshold) : Inactive p (observedConflict p e c) := by
  have hmaximum : (updateConflict c e).degradation < p.actionabilityThreshold :=
    Binary64.maximum_lt hbelow hlow
  rw [observedConflict, progressConflict_below hcurrent hmaximum]
  exact ⟨hmaximum, hflag, ConflictState.noConfusion⟩

/-- The flag is never cleared. -/
theorem observedConflict_flag {p : ContentionPolicy} {c : ContentionConflict}
    (e : InterferenceEvidence) (h : c.inActionableState = true) :
    (observedConflict p e c).inActionableState = true := by
  unfold observedConflict progressConflict
  split_ifs
  · rfl
  all_goals exact h

/-- A conflict that is at the threshold, or has the flag, has the flag after any CURRENT
observation. -/
theorem inactive_of_unflagged {p : ContentionPolicy} {c : ContentionConflict}
    {e : InterferenceEvidence} (hcurrent : e.status = .current)
    (hthreshold : p.actionabilityThreshold.isNaN = false) (hc : c.degradation.isNaN = false)
    (he : e.degradation.isNaN = false)
    (h : (observedConflict p e c).inActionableState = false) :
    c.degradation < p.actionabilityThreshold ∧ c.inActionableState = false := by
  unfold observedConflict progressConflict at h
  rw [if_pos hcurrent] at h
  split_ifs at h with hreaches
  have hmaximum : (updateConflict c e).degradation.isNaN = false := by
    unfold updateConflict Binary64.maximum
    dsimp only
    split_ifs
    · exact he
    · exact hc
  have hbelow := Binary64.lt_of_not_le hmaximum hthreshold fun hle => hreaches ⟨hcurrent, hle⟩
  exact ⟨Binary64.lt_of_maximum_lt hbelow, h⟩

/-! ## Runs of observations -/

/-- The policy in force is one that `validate_policy` accepts. -/
def PolicyAccepted (s : GovernorState) : Prop := (validatePolicy s.engine.policy).isOk

theorem step_policyAccepted {s s' : GovernorState} {op : Op} (hs : PolicyAccepted s)
    (h : step s op = some s') : PolicyAccepted s' := by
  unfold PolicyAccepted at hs ⊢
  by_cases hop : op.keepsPolicy
  · rcases step_policy h hop with ⟨-, hpolicy⟩ | ⟨_, _, now, g, -, -, -, hpolicy⟩
    · rwa [hpolicy]
    · rw [hpolicy, chargePolicy, validatePolicy_consumeBudget]
      exact hs
  · cases op with
    | setPolicy p =>
      cases h
      by_cases hp : (validatePolicy p).isOk
      · rwa [setPolicy_policy s hp]
      · rwa [setPolicy_of_invalid hp]
    | load =>
      rcases load_step h with rfl | hloaded
      · exact hs
      · exact Status.isOk_iff.mpr hloaded.valid
    | _ => exact absurd rfl hop

theorem policyAccepted_reached {ops : List Op} {s : GovernorState}
    (hrun : Runs.exec step {} ops = some s) : PolicyAccepted s := by
  have hdefault : PolicyAccepted {} := by
    unfold PolicyAccepted
    decide +kernel
  exact Runs.invariant (fun _ _ _ => step_policyAccepted) hrun hdefault

/-- The conflict, about what it was about, with the property. -/
def Still (p : ContentionPolicy) (c : ContentionConflict) (good : ContentionConflict → Prop)
    (cid : ConflictId) (s : GovernorState) : Prop :=
  s.engine.policy = p ∧ ∃ c', s.engine.conflicts.find cid = some c' ∧
    (c'.domain = c.domain ∧ c'.affected = c.affected) ∧ good c'

/-- What each of the observations preserves is preserved by ingesting them all. -/
theorem still_of_run {p : ContentionPolicy} {c : ContentionConflict}
    {good : ContentionConflict → Prop} {cid : ConflictId} {s t : GovernorState}
    {es : List InterferenceEvidence} (haccepted : ∀ e ∈ es, (validateEvidence e).isOk)
    (habout : ∀ e ∈ es, IsAbout c e)
    (hgood : ∀ e ∈ es, ∀ u c', good c' → good (observedConflict p (storedEvidence u e) c'))
    (hs : Still p c good cid s) (ht : Runs.exec step s (es.map .ingestEvidence) = some t) :
    Still p c good cid t := by
  induction es generalizing s with
  | nil =>
    cases ht
    exact hs
  | cons e es ih =>
    obtain ⟨u, hu, ht⟩ := Runs.exec_cons.mp ht
    have he := List.mem_cons_self (a := e) (l := es)
    refine ih (fun x hx => haccepted x (List.mem_cons_of_mem e hx))
      (fun x hx => habout x (List.mem_cons_of_mem e hx))
      (fun x hx => hgood x (List.mem_cons_of_mem e hx)) ?_ ht
    -- One observation reaches the conflict or an earlier one about the same.
    obtain ⟨rfl, c', hc', ⟨hdomain, haffected⟩, hold⟩ := hs
    cases hu
    refine ⟨ingestEvidence_policy e s, ?_⟩
    have habout' : IsAbout c' e :=
      ⟨(habout e he).1.trans hdomain.symm, haffected ▸ (habout e he).2⟩
    rcases ingest_observed hc' (haccepted e he) habout' with hsame | ⟨-, hobserved⟩
    · exact ⟨c', hsame, ⟨hdomain, haffected⟩, hold⟩
    · obtain ⟨hdomain', haffected'⟩ :=
        observedConflict_subject s.engine.policy (storedEvidence s e) c'
      exact ⟨_, hobserved, ⟨hdomain'.trans hdomain, haffected'.trans haffected⟩,
        hgood e he s c' hold⟩

/-- The observations of a release run are below the threshold. -/
theorem ReleaseRun.below {s : GovernorState} {c : ContentionConflict}
    {es : List InterferenceEvidence} (hes : ReleaseRun s c es) (hpolicy : PolicyAccepted s)
    (hthreshold : s.engine.policy.actionabilityThreshold.isNaN = false) :
    ∀ e ∈ es, e.measured < s.engine.policy.actionabilityThreshold := by
  intro e he
  have hordered := (validatePolicy_valid hpolicy).ordered
  have hle := hes.low e he
  have hrelease := (Binary64.le_iff.mp hle).2.1
  exact Binary64.lt_of_le_of_lt hle (Binary64.lt_of_not_le hrelease hthreshold hordered)

/-- Low observations keep an inactive conflict released. -/
theorem released_of_low {p : ContentionPolicy} {s t : GovernorState} {cid : ConflictId}
    {c : ContentionConflict} {es : List InterferenceEvidence}
    (haccepted : ∀ e ∈ es, (validateEvidence e).isOk) (hcurrent : ∀ e ∈ es, e.status = .current)
    (habout : ∀ e ∈ es, IsAbout c e) (hlow : ∀ e ∈ es, e.measured < p.actionabilityThreshold)
    (hs : Still p c (Inactive p) cid s)
    (ht : Runs.exec step s (es.map .ingestEvidence) = some t) : Released t cid := by
  have hstep : ∀ e ∈ es, ∀ u c', Inactive p c' →
      Inactive p (observedConflict p (storedEvidence u e) c') := by
    intro e he u c' hinactive
    apply inactive_observed hinactive.below hinactive.flag
    · rw [storedEvidence_status, hcurrent e he]
    · rw [storedEvidence_degradation]
      exact hlow e he
  obtain ⟨hsame, c', hc', -, hinactive⟩ := still_of_run haccepted habout hstep hs ht
  rw [← hsame] at hinactive
  exact hinactive.released hc'

/-- An inactive conflict stays released through a release run. -/
theorem released_of_inactive {s t : GovernorState} {cid : ConflictId} {c : ContentionConflict}
    {es : List InterferenceEvidence} (hpolicy : PolicyAccepted s)
    (hc : s.engine.conflicts.find cid = some c) (hes : ReleaseRun s c es)
    (ht : Runs.exec step s (es.map .ingestEvidence) = some t) (h : Inactive s.engine.policy c) :
    Released t cid := by
  have hthreshold := (Binary64.lt_iff.mp h.below).2.1
  exact released_of_low hes.accepted hes.current hes.about (hes.below hpolicy hthreshold)
    ⟨rfl, c, hc, ⟨rfl, rfl⟩, h⟩ ht

/-- What ingestion receives for a conflict observes it. -/
theorem ingest_received {s : GovernorState} {cid : ConflictId} {c : ContentionConflict}
    {e : InterferenceEvidence} (hc : s.engine.conflicts.find cid = some c)
    (hv : (validateEvidence e).isOk)
    (h : (locateConflict s.engine.conflicts e).map Prod.fst = some cid) :
    Still s.engine.policy c
      (· = observedConflict s.engine.policy (storedEvidence s e) c) cid (ingestEvidence e s).2 := by
  rw [← locate_stored s e] at h
  refine ⟨ingestEvidence_policy e s, _, ?_, observedConflict_subject _ _ c, rfl⟩
  rcases ingest_conflicts (s := s) hv with ⟨hnone, -⟩ | ⟨key, located, hlocated, hinsert⟩
  · rw [hnone] at h
    cases h
  · rw [hlocated] at h
    cases h
    have hsame : c = located := Option.some.inj (hc.symm.trans (locateConflict_find hlocated))
    subst hsame
    rw [hinsert, OrderedMap.find_insert_self]
    rfl

theorem Still.mono {p : ContentionPolicy} {c : ContentionConflict}
    {good good' : ContentionConflict → Prop} {cid : ConflictId} {s : GovernorState}
    (h : Still p c good cid s) (himp : ∀ c', good c' → good' c') : Still p c good' cid s := by
  obtain ⟨hpolicy, c', hc', hsubject, hgood⟩ := h
  exact ⟨hpolicy, c', hc', hsubject, himp c' hgood⟩

/-- A conflict that receives a release run is released by it exactly when it is below the
threshold and has no flag, where neither number is a NaN. -/
theorem released_iff {s t : GovernorState} {cid : ConflictId} {c : ContentionConflict}
    {es : List InterferenceEvidence} (hpolicy : PolicyAccepted s)
    (hc : s.engine.conflicts.find cid = some c) (hes : ReleaseRun s c es)
    (ht : Runs.exec step s (es.map .ingestEvidence) = some t) (hreceives : Receives s cid es)
    (hthreshold : s.engine.policy.actionabilityThreshold.isNaN = false)
    (hnumber : c.degradation.isNaN = false) :
    Released t cid ↔
      c.degradation < s.engine.policy.actionabilityThreshold ∧ c.inActionableState = false := by
  cases es with
  | nil =>
    have hcount := (validatePolicy_valid hpolicy).hysteresis
    have henough := hes.enough
    rw [List.length_nil, Nat.le_zero] at henough
    exact absurd (UInt64.toNat_inj.mp henough) hcount
  | cons e es =>
    obtain ⟨u, hu, ht⟩ := Runs.exec_cons.mp ht
    have he := List.mem_cons_self (a := e) (l := es)
    have hrest : ∀ x ∈ es, x ∈ e :: es := fun x hx => List.mem_cons_of_mem e hx
    have haccepted := fun x hx => hes.accepted x (hrest x hx)
    have habout := fun x hx => hes.about x (hrest x hx)
    have hlow := hes.below hpolicy hthreshold
    have hcurrent : (storedEvidence s e).status = .current := by
      rw [storedEvidence_status, hes.current e he]
    have hmeasured := storedEvidence_degradation s e
    have hfirst := ingest_received hc (hes.accepted e he) (hreceives e rfl)
    cases hu
    constructor
    · intro h
      have hnan := (Binary64.le_iff.mp (hes.low e he)).1
      rw [← hmeasured] at hnan
      apply inactive_of_unflagged hcurrent hthreshold hnumber hnan
      -- A flag set by the first observation would stay to the end.
      by_contra hflag
      have hset := Bool.eq_true_of_not_eq_false hflag
      have hflagged : Still s.engine.policy c (·.inActionableState = true) cid
          (ingestEvidence e s).2 := hfirst.mono fun _ heq => heq ▸ hset
      obtain ⟨-, c', hc', -, hstays⟩ := still_of_run haccepted habout
        (fun x _ u _ hkept => observedConflict_flag (storedEvidence u x) hkept) hflagged ht
      obtain ⟨c'', hc'', -, hreleased, -⟩ := h
      have hsame : c' = c'' := Option.some.inj (hc'.symm.trans hc'')
      rw [hsame, hreleased] at hstays
      cases hstays
    · rintro ⟨hbelow, hflag⟩
      have hinactive := inactive_observed hbelow hflag hcurrent (hmeasured ▸ hlow e he)
      exact released_of_low haccepted (fun x hx => hes.current x (hrest x hx)) habout
        (fun x hx => hlow x (hrest x hx)) (hfirst.mono fun _ heq => heq ▸ hinactive) ht

/-- A release run releases the conflicts that were inactive before it, and of the conflicts that
receive it exactly those below the threshold without the flag. -/
theorem hysteresis_releases_iff {ops : List Op} {s t : GovernorState} {cid : ConflictId}
    {c : ContentionConflict} {es : List InterferenceEvidence}
    (hrun : Runs.exec step {} ops = some s) (hc : s.engine.conflicts.find cid = some c)
    (hes : ReleaseRun s c es) (ht : Runs.exec step s (es.map .ingestEvidence) = some t) :
    (Inactive s.engine.policy c → Released t cid) ∧
    (Receives s cid es → s.engine.policy.actionabilityThreshold.isNaN = false →
      c.degradation.isNaN = false →
      (Released t cid ↔
        c.degradation < s.engine.policy.actionabilityThreshold ∧ c.inActionableState = false)) :=
  have hpolicy := policyAccepted_reached hrun
  ⟨released_of_inactive hpolicy hc hes ht, released_iff hpolicy hc hes ht⟩

/-- Workload 1 loses a twentieth of its throughput, half the default release threshold. -/
def slightLoss : InterferenceEvidence := { slowdown with coRunObservation := 95.0 }

theorem releaseRun_slightLoss {s : GovernorState} {c : ContentionConflict}
    (hcount : s.engine.policy.hysteresisEvidenceCount = 2)
    (hrelease : slightLoss.measured ≤ s.engine.policy.releaseThreshold)
    (habout : IsAbout c slightLoss) : ReleaseRun s c [slightLoss, slightLoss] := by
  have hall : ∀ e ∈ [slightLoss, slightLoss], e = slightLoss := by simp
  constructor
  · rw [hcount]
    decide
  all_goals
    intro e he
    rw [hall e he]
  · decide +kernel
  · rfl
  · exact habout
  · exact hrelease

theorem hysteresis_releases_iff_slightLoss : ∃ c t,
    (reached [.ingestEvidence slightLoss]).engine.conflicts.find ⟨1⟩ = some c ∧
      (Released t ⟨1⟩ ↔
        c.degradation <
            (reached [.ingestEvidence slightLoss]).engine.policy.actionabilityThreshold ∧
          c.inActionableState = false) := by
  have hconflict : ((reached [.ingestEvidence slightLoss]).engine.conflicts.find ⟨1⟩).any
      (fun c => (slightLoss.domain = c.domain ∧ slightLoss.victim ∈ c.affected) ∧
        c.degradation.isNaN = false) := by
    decide +kernel
  obtain ⟨c, hc, hfacts⟩ := (Option.any_eq_true _ _).mp hconflict
  obtain ⟨habout, hnumber⟩ := of_decide_eq_true hfacts
  have hes : ReleaseRun (reached [.ingestEvidence slightLoss]) c [slightLoss, slightLoss] :=
    releaseRun_slightLoss (by decide +kernel) (by decide +kernel) habout
  have hreceives : Receives (reached [.ingestEvidence slightLoss]) ⟨1⟩
      [slightLoss, slightLoss] := by
    unfold Receives
    decide +kernel
  have hsome : (Runs.exec step (reached [.ingestEvidence slightLoss])
      ([slightLoss, slightLoss].map .ingestEvidence)).isSome := by decide +kernel
  obtain ⟨t, ht⟩ := Option.isSome_iff_exists.mp hsome
  have hrun := @exec_reached [.ingestEvidence slightLoss] (by decide +kernel)
  exact ⟨c, t, hc,
    (hysteresis_releases_iff hrun hc hes ht).2 hreceives (by decide +kernel) hnumber⟩

/-- After a slowdown two observations at half the release threshold leave the conflict
ACTIONABLE. -/
theorem actionable_never_released :
    ¬∀ ops s cid c es t, Runs.exec step {} ops = some s →
      s.engine.conflicts.find cid = some c → ReleaseRun s c es →
      Runs.exec step s (es.map .ingestEvidence) = some t → Released t cid := by
  intro h
  let ops : List Op := registerNeighbor ++ [.ingestEvidence slowdown]
  have hconflict : ((reached ops).engine.conflicts.find ⟨1⟩).any
      (fun c => slightLoss.domain = c.domain ∧ slightLoss.victim ∈ c.affected) := by
    decide +kernel
  obtain ⟨c, hc, hmatches⟩ := (Option.any_eq_true _ _).mp hconflict
  have habout := of_decide_eq_true hmatches
  have hes : ReleaseRun (reached ops) c [slightLoss, slightLoss] :=
    releaseRun_slightLoss (by decide +kernel) (by decide +kernel) habout
  have hstate : (Runs.exec step (reached ops) ([slightLoss, slightLoss].map .ingestEvidence)).map
      (fun t => (t.engine.conflicts.find ⟨1⟩).map (·.state)) = some (some .actionable) := by
    decide +kernel
  obtain ⟨t, ht, hactionable⟩ := Option.map_eq_some_iff.mp hstate
  obtain ⟨c', hc', hreleased, -⟩ :=
    h ops _ ⟨1⟩ c _ t (exec_reached (by decide +kernel)) hc hes ht
  rw [hc', Option.map_some, Option.some.injEq] at hactionable
  exact hreleased hactionable

end ContentionGovernor
