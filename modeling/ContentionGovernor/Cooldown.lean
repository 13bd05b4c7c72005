import ContentionGovernor.Verification

/-!
# Cooldown over a run

The fairness record of a workload keeps the time of its last authorization, and a
disruptive class is refused until the cooldown has passed since then.
-/

namespace ContentionGovernor

/-- The clock is positive and never goes back from one authorization to the next. -/
structure ClockAdvances (history : List (Grant × TimeMs)) : Prop where
  positive : ∀ a ∈ history, a.2 ≠ 0
  ordered : history.Pairwise fun a b => a.2 ≤ b.2

instance (history : List (Grant × TimeMs)) : Decidable (ClockAdvances history) :=
  decidable_of_iff ((∀ a ∈ history, a.2 ≠ 0) ∧ history.Pairwise fun a b => a.2 ≤ b.2)
    ⟨fun h => ⟨h.1, h.2⟩, fun h => ⟨h.positive, h.ordered⟩⟩

/-! ## The last authorization on a workload -/

/-- Two versions of a fairness record that name the same last intervention. -/
def SameLast (_ : WorkloadId) (fr fr' : FairnessRecord) : Prop :=
  fr'.lastInterventionAt = fr.lastInterventionAt

theorem sameLast_refl (m : OrderedMap WorkloadId FairnessRecord) :
    OrderedMap.Related SameLast m m := by
  apply OrderedMap.Related.refl
  intro w fr
  rfl

/-- A resolved verdict clears the consecutive count only. -/
theorem submit_sameLast (input : InterferenceEvidence) (s : GovernorState) :
    OrderedMap.Related SameLast s.engine.fairness
      (submitPostActionEvidence input s).2.engine.fairness := by
  intro w
  rw [find_fairness_submit]
  cases s.engine.fairness.find w with
  | none => exact .none
  | some fr =>
    rw [Option.map_some]
    split_ifs <;> exact .some rfl

/-- Only a grant moves the last intervention of a workload. -/
theorem step_sameLast {s s' : GovernorState} {op : Op} (h : step s op = some s')
    (hload : ¬op.isLoad) (hgrant : op.grant s = none) :
    OrderedMap.Related SameLast s.engine.fairness s'.engine.fairness := by
  cases op with
  | advanceEpoch =>
    cases h
    apply OrderedMap.Related.mapValues
    intro w fr
    rfl
  | submitPostActionEvidence e =>
    cases h
    exact submit_sameLast e s
  | authorize | authorizeAndDispatch =>
    rcases step_of_request h rfl with ⟨-, rfl⟩ | ⟨g, hsome, -, -⟩
    · exact sameLast_refl _
    · rw [hgrant] at hsome
      cases hsome
  | load => exact absurd rfl hload
  | _ =>
    rw [(step_frame h).fairness rfl]
    exact sameLast_refl _

/-- A grant writes its clock reading to the record of its target. -/
theorem commitGrant_last (s : GovernorState) (id : ConflictId) (g : Grant) (now : TimeMs)
    (w : WorkloadId) :
    ((commitGrant s id g now).engine.fairness.find w).map (·.lastInterventionAt) =
      if w = g.target then some now
      else (s.engine.fairness.find w).map (·.lastInterventionAt) := by
  simp only [commitGrant, OrderedMap.find_insert]
  split_ifs <;> rfl

/-! ## The invariant -/

/-- Every authorization of the history is covered by the record of its target: the last
intervention there is an authorization of the history, and not an earlier one. -/
def Remembers (s : GovernorState) (history : List (Grant × TimeMs)) : Prop :=
  ∀ a ∈ history, ∃ b ∈ history, b.1.target = a.1.target ∧ a.2 ≤ b.2 ∧
    (s.engine.fairness.find a.1.target).map (·.lastInterventionAt) = some b.2

theorem remembers_of_sameLast {s s' : GovernorState} {history : List (Grant × TimeMs)}
    (hs : Remembers s history)
    (h : OrderedMap.Related SameLast s.engine.fairness s'.engine.fairness) :
    Remembers s' history := by
  intro a ha
  obtain ⟨b, hb, htarget, hle, hlast⟩ := hs a ha
  refine ⟨b, hb, htarget, hle, ?_⟩
  obtain ⟨fr, hfr, hat⟩ := Option.map_eq_some_iff.mp hlast
  obtain ⟨fr', hfr', hsame⟩ := h.exists_right hfr
  rw [hfr', Option.map_some, hsame, hat]

theorem remembers_of_grant {s s' : GovernorState} {history : List (Grant × TimeMs)}
    (id : ConflictId) {g : Grant} {now : TimeMs} (hs : Remembers s history)
    (hclock : ∀ a ∈ history, a.2 ≤ now)
    (h : s'.engine.fairness = (commitGrant s id g now).engine.fairness) :
    Remembers s' (history ++ [(g, now)]) := by
  -- The new authorization is the last one on its target.
  have hnew : ∀ a ∈ history ++ [(g, now)], a.2 ≤ now := by
    intro a ha
    rcases List.mem_append.mp ha with ha | ha
    · exact hclock a ha
    · rw [List.mem_singleton.mp ha]
      exact UInt64.le_refl now
  intro a ha
  rw [h, commitGrant_last]
  by_cases htarget : a.1.target = g.target
  · exact ⟨(g, now), by simp, htarget.symm, hnew a ha, if_pos htarget⟩
  · have hmem : a ∈ history := by
      rcases List.mem_append.mp ha with ha | ha
      · exact ha
      · rw [List.mem_singleton.mp ha] at htarget
        exact absurd rfl htarget
    obtain ⟨b, hb, hsame, hle, hlast⟩ := hs a hmem
    exact ⟨b, List.mem_append_left _ hb, hsame, hle, by rw [if_neg htarget]; exact hlast⟩

theorem ClockAdvances.append {history later : List (Grant × TimeMs)}
    (h : ClockAdvances (history ++ later)) :
    ClockAdvances history ∧ ∀ a ∈ history, ∀ b ∈ later, a.2 ≤ b.2 := by
  obtain ⟨hordered, -, hcross⟩ := List.pairwise_append.mp h.ordered
  exact ⟨⟨fun a ha => h.positive a (List.mem_append_left _ ha), hordered⟩, hcross⟩

/-- While the clock advances, a step carries the memory along. -/
theorem step_remembers {s s' : GovernorState} {op : Op} {history : List (Grant × TimeMs)}
    (hs : ClockAdvances history → Remembers s history) (hload : ¬op.isLoad)
    (h : step s op = some s') :
    ClockAdvances (history ++ op.authorizations s) →
      Remembers s' (history ++ op.authorizations s) := by
  intro hclock
  obtain ⟨hbefore, hcross⟩ := hclock.append
  cases hgrant : op.grant s with
  | none =>
    rw [authorizations_of_none hgrant, List.append_nil]
    exact remembers_of_sameLast (hs hbefore) (step_sameLast h hload hgrant)
  | some g =>
    obtain ⟨id, cls, now, hreq, -⟩ := grant_eq_some.mp hgrant
    rw [authorizations_of_grant hreq hgrant] at hcross ⊢
    rcases step_of_request h hreq with ⟨hnone, -⟩ | ⟨g', hsome, -, _, _, rfl⟩
    · rw [hgrant] at hnone
      cases hnone
    · rw [hgrant] at hsome
      cases hsome
      have hlater : ∀ a ∈ history, a.2 ≤ now := fun a ha => hcross a ha (g, now) (by simp)
      exact remembers_of_grant id (hs hbefore) hlater rfl

/-! ## Runs -/

/-- A disruptive class that is granted finds the last intervention a cooldown ago. -/
theorem Granted.rests {s : GovernorState} {id : ConflictId} {cls : InterventionClass}
    {now last : TimeMs} {g : Grant} (h : Granted s id cls now g)
    (hclass : isDisruptiveClass g.cls)
    (hlast : (s.engine.fairness.find g.target).map (·.lastInterventionAt) = some last)
    (hpositive : last ≠ 0) (hle : last ≤ now) :
    last.toNat + s.engine.policy.cooldownMs.toNat ≤ now.toNat := by
  obtain ⟨fr, hfr, rfl⟩ := Option.map_eq_some_iff.mp hlast
  have hrested := h.rested
  simp only [inCooldown, hclass, hfr, Bool.true_and, Bool.and_eq_false_iff,
    decide_eq_false_iff_not, hpositive, not_true_eq_false, false_or, ne_eq, not_false_eq_true]
    at hrested
  -- The clock has not gone back, so the difference is the one of the integers.
  rw [UInt64.lt_iff_toNat_lt, UInt64.toNat_sub_of_le _ _ hle] at hrested
  rw [UInt64.le_iff_toNat_le] at hle
  omega

/-- In every run from the empty governor without a load, whose authorizations read a positive
clock that never goes back: when a disruptive class is authorized on a workload, every earlier
authorization on it is at least the cooldown of the policy in force ago. -/
theorem cooldown_kept (ops : List Op) (op : Op) (s : GovernorState) (id : ConflictId)
    (cls : InterventionClass) (now : TimeMs) (g : Grant)
    (hops : ∀ o ∈ ops, ¬o.isLoad) (hrun : Runs.exec step {} ops = some s)
    (hclock : ClockAdvances (Runs.events step Op.authorizations {} ops ++ op.authorizations s))
    (hreq : op.request = some (id, cls, now)) (hgrant : op.grant s = some g)
    (hclass : isDisruptiveClass g.cls) :
    ∀ a ∈ Runs.events step Op.authorizations {} ops, a.1.target = g.target →
      a.2.toNat + s.engine.policy.cooldownMs.toNat ≤ now.toNat := by
  have hstep : ∀ u o u' es, (ClockAdvances es → Remembers u es) → ¬o.isLoad →
      step u o = some u' →
      (ClockAdvances (es ++ o.authorizations u) → Remembers u' (es ++ o.authorizations u)) :=
    fun _ _ _ _ => step_remembers
  have hempty : ClockAdvances [] → Remembers {} [] := by
    intro _ a ha
    cases ha
  have hremembers := Runs.events_of_guarded hstep (Runs.guarded_of_forall hops) hrun hempty
  rw [List.nil_append] at hremembers
  intro a ha htarget
  obtain ⟨hbefore, hcross⟩ := hclock.append
  obtain ⟨b, hb, -, hle, hlast⟩ := hremembers hbefore a ha
  rw [authorizations_of_grant hreq hgrant] at hcross
  obtain ⟨id', cls', now', hreq', hg⟩ := grant_eq_some.mp hgrant
  rw [hreq] at hreq'
  cases hreq'
  rw [htarget] at hlast
  have hrests := hg.rests hclass hlast (hbefore.positive b hb) (hcross b hb (g, now) (by simp))
  rw [UInt64.le_iff_toNat_le] at hle
  omega

/-- A second throttle of workload 2, after the default cooldown of five seconds. -/
theorem cooldown_kept_throttle : ∃ g,
    (Op.authorize ⟨1⟩ .throttle 6000).grant (reached throttleNeighbor) = some g ∧
      ∀ a ∈ Runs.events step Op.authorizations {} throttleNeighbor,
        a.1.target = g.target →
          a.2.toNat + (reached throttleNeighbor).engine.policy.cooldownMs.toNat ≤
            (6000 : TimeMs).toNat := by
  have hgrant : ((Op.authorize ⟨1⟩ .throttle 6000).grant (reached throttleNeighbor)).map
      (fun g => isDisruptiveClass g.cls) = some true := by decide +kernel
  obtain ⟨g, hg, hclass⟩ := Option.map_eq_some_iff.mp hgrant
  exact ⟨g, hg, cooldown_kept throttleNeighbor (.authorize ⟨1⟩ .throttle 6000) _ ⟨1⟩ .throttle 6000
    g (by decide) (exec_reached (by decide +kernel)) (by decide +kernel) rfl hg hclass⟩

end ContentionGovernor
