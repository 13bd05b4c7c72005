import ContentionGovernor.ClassCounters

/-!
# Caps over a window

The counters of a window live in the policy, and `set_policy` replaces the policy as a
whole.
-/

namespace ContentionGovernor

/-! ## A window -/

/-- A window starts at this reading: its counters are zero, or the operation is authorized
with the window before it elapsed. -/
def OpensWindow (s : GovernorState) (op : Op) (start : TimeMs) : Prop :=
  s.engine.policy.budget.used = {} ∧ s.engine.policy.budget.windowStart = start ∨
    ∃ a ∈ op.authorizations s, a.2 = start ∧ windowElapsed s.engine.policy.budget start

instance (s : GovernorState) (op : Op) (start : TimeMs) : Decidable (OpensWindow s op start) :=
  inferInstanceAs (Decidable (_ ∨ _))

/-- A property of all five groups. -/
instance {P : ClassGroup → Prop} [DecidablePred P] : Decidable (∀ k, P k) :=
  decidable_of_iff (P .preemptions ∧ P .migrations ∧ P .placementChanges ∧ P .throttles ∧
      P .collectiveReschedules)
    ⟨fun h k => by cases k <;> simp [h], fun h => by simp [h]⟩

/-- An accepted policy has the budget generation, the window length and the caps of the one
in force. -/
def SameCaps (s : GovernorState) : Op → Prop
  | .setPolicy p => (validatePolicy p).isOk →
      p.budget.generation = s.engine.policy.budget.generation ∧
      p.budget.windowMs = s.engine.policy.budget.windowMs ∧
      ∀ k : ClassGroup, k.maximum p.budget = k.maximum s.engine.policy.budget
  | .load _ _ _ => False
  | _ => True

instance (s : GovernorState) : ∀ op, Decidable (SameCaps s op)
  | .setPolicy _ => inferInstanceAs (Decidable (_ → _))
  | .load _ _ _ => inferInstanceAs (Decidable False)
  | .setAuthority _ | .recordWorkerBoot _ _ | .recordWorkloadGeneration _ _ | .advanceEpoch
  | .ingestEvidence _ | .evaluate _ | .authorize _ _ _ | .dispatch _ _ _
  | .authorizeAndDispatch _ _ _ _ _ | .onAcknowledge _ _ _ | .onActionFailed _ _ _
  | .submitPostActionEvidence _ | .save => inferInstanceAs (Decidable True)

/-- The authorizations of the operation fall between the start of the window and its
length later. -/
def ReadsWithin (start : TimeMs) (s : GovernorState) (op : Op) : Prop :=
  ∀ a ∈ op.authorizations s, start.toNat ≤ a.2.toNat ∧
    a.2.toNat ≤ start.toNat + s.engine.policy.budget.windowMs.toNat

instance (start : TimeMs) (s : GovernorState) (op : Op) : Decidable (ReadsWithin start s op) :=
  inferInstanceAs (Decidable (∀ _ ∈ _, _))

/-- An accepted policy carries over the window start, and counters that are not below those
in force. -/
def CarriesCounters (s : GovernorState) : Op → Prop
  | .setPolicy p => (validatePolicy p).isOk →
      p.budget.windowStart = s.engine.policy.budget.windowStart ∧
      ∀ k : ClassGroup, k.counter s.engine.policy.budget.used ≤ k.counter p.budget.used
  | _ => True

instance (s : GovernorState) : ∀ op, Decidable (CarriesCounters s op)
  | .setPolicy _ => inferInstanceAs (Decidable (_ → _))
  | .setAuthority _ | .recordWorkerBoot _ _ | .recordWorkloadGeneration _ _ | .advanceEpoch
  | .ingestEvidence _ | .evaluate _ | .authorize _ _ _ | .dispatch _ _ _
  | .authorizeAndDispatch _ _ _ _ _ | .onAcknowledge _ _ _ | .onActionFailed _ _ _
  | .submitPostActionEvidence _ | .save | .load _ _ _ => inferInstanceAs (Decidable True)

/-- How many of the authorizations are in the group. -/
def countIn (k : ClassGroup) (history : List (Grant × TimeMs)) : ℕ :=
  history.countP fun a => a.1.cls ∈ k.members

theorem countIn_append (k : ClassGroup) (history later : List (Grant × TimeMs)) :
    countIn k (history ++ later) = countIn k history + countIn k later := List.countP_append

theorem countIn_singleton (k : ClassGroup) (a : Grant × TimeMs) :
    countIn k [a] = if a.1.cls ∈ k.members then 1 else 0 := by
  simp [countIn, List.countP_singleton]

/-! ## One step -/

/-- In the window the authorizations so far are within the counter and within the cap. -/
structure WithinWindow (k : ClassGroup) (start : TimeMs) (cap : UInt64) (s : GovernorState)
    (history : List (Grant × TimeMs)) : Prop where
  started : s.engine.policy.budget.windowStart = start
  capped : k.maximum s.engine.policy.budget = cap
  counted : countIn k history ≤ (k.counter s.engine.policy.budget.used).toNat
  within : countIn k history ≤ cap.toNat

theorem not_elapsed {b : ActionBudget} {now : TimeMs} (hle : b.windowStart.toNat ≤ now.toNat)
    (hwithin : now.toNat ≤ b.windowStart.toNat + b.windowMs.toNat) : ¬windowElapsed b now := by
  unfold windowElapsed
  rw [UInt64.lt_iff_toNat_lt, UInt64.toNat_sub_of_le _ _ (UInt64.le_iff_toNat_le.mpr hle)]
  omega

theorem windowStart_consumeBudget (b : ActionBudget) (cls : InterventionClass) (now : TimeMs) :
    (consumeBudget b cls now).windowStart =
      if windowElapsed b now then now else b.windowStart := by
  unfold consumeBudget renewWindow
  dsimp only
  split_ifs <;> rfl

/-- A grant inside the window is counted, and was below the cap before. -/
theorem withinWindow_grant {k : ClassGroup} {start : TimeMs} {cap : UInt64}
    {s s' : GovernorState} {history : List (Grant × TimeMs)} {id : ConflictId}
    {cls : InterventionClass} {now : TimeMs} {g : Grant} (hs : WithinWindow k start cap s history)
    (hg : Granted s id cls now g) (helapsed : ¬windowElapsed s.engine.policy.budget now)
    (h : s'.engine.policy.budget = consumeBudget s.engine.policy.budget g.cls now) :
    WithinWindow k start cap s' (history ++ [(g, now)]) := by
  have hmax := (k.maximum s.engine.policy.budget).toNat_lt
  have hcounted := hs.counted
  have hwithin := hs.within
  have hroom : g.cls ∈ k.members →
      (k.counter s.engine.policy.budget.used).toNat < 2 ^ 64 - 1 := by
    intro hmem
    have hbelow := hg.below_maximum hmem
    omega
  refine ⟨?_, ?_, ?_, ?_⟩
  · rw [h, windowStart_consumeBudget, if_neg helapsed]
    exact hs.started
  · rw [h, maximum_consumeBudget]
    exact hs.capped
  · rw [h, counter_consumeBudget, toNat_charge hroom, if_neg helapsed, countIn_append,
      countIn_singleton]
    exact Nat.add_le_add_right hcounted _
  · rw [countIn_append, countIn_singleton]
    split_ifs with hmem
    · have hbelow := hg.below_maximum hmem
      rw [hs.capped] at hbelow
      omega
    · exact hwithin

theorem withinWindow_of_budget {k : ClassGroup} {start : TimeMs} {cap : UInt64}
    {s s' : GovernorState} {history : List (Grant × TimeMs)} (hs : WithinWindow k start cap s history)
    (h : s'.engine.policy.budget = s.engine.policy.budget) :
    WithinWindow k start cap s' history := by
  refine ⟨?_, ?_, ?_, hs.within⟩
  · rw [h]
    exact hs.started
  · rw [h]
    exact hs.capped
  · rw [h]
    exact hs.counted

theorem withinWindow_setPolicy {k : ClassGroup} {start : TimeMs} {cap : UInt64}
    {s : GovernorState} {history : List (Grant × TimeMs)} {p : ContentionPolicy}
    (hs : WithinWindow k start cap s history) (hsame : SameCaps s (.setPolicy p))
    (hcarries : CarriesCounters s (.setPolicy p)) :
    WithinWindow k start cap (setPolicy p s).2 history := by
  by_cases hp : (validatePolicy p).isOk
  · obtain ⟨-, -, hmax⟩ := hsame hp
    obtain ⟨hstart, hcounter⟩ := hcarries hp
    have hcounted := hs.counted
    have hle := UInt64.le_iff_toNat_le.mp (hcounter k)
    refine ⟨?_, ?_, ?_, hs.within⟩ <;> rw [setPolicy_policy s hp]
    · rw [hstart]
      exact hs.started
    · rw [hmax]
      exact hs.capped
    · omega
  · rw [setPolicy, if_pos hp]
    exact hs

theorem keepsPolicy_of_sameCaps {s : GovernorState} {op : Op} (h : SameCaps s op) :
    op.keepsPolicy ∨ ∃ p, op = .setPolicy p := by
  cases op with
  | setPolicy p => exact .inr ⟨p, rfl⟩
  | load => exact h.elim
  | _ => exact .inl rfl

/-- Inside the window each step keeps the count within the counter and the cap. -/
theorem withinWindow_step {k : ClassGroup} {start : TimeMs} {cap : UInt64}
    {s s' : GovernorState} {op : Op} {history : List (Grant × TimeMs)}
    (hs : WithinWindow k start cap s history) (hsame : SameCaps s op)
    (hreads : ReadsWithin start s op) (hcarries : CarriesCounters s op)
    (h : step s op = some s') : WithinWindow k start cap s' (history ++ op.authorizations s) := by
  rcases keepsPolicy_of_sameCaps hsame with hkeeps | ⟨p, rfl⟩
  · rcases step_budget h hkeeps with ⟨hnone, hbudget⟩ | ⟨id, cls, now, g, hreq, hgrant, hg, hbudget⟩
    · rw [authorizations_of_none hnone, List.append_nil]
      exact withinWindow_of_budget hs hbudget
    · unfold ReadsWithin at hreads
      rw [authorizations_of_grant hreq hgrant] at hreads ⊢
      obtain ⟨hle, hwithin⟩ := hreads (g, now) (List.mem_singleton_self _)
      rw [← hs.started] at hle hwithin
      exact withinWindow_grant hs hg (not_elapsed hle hwithin) hbudget
  · cases h
    have hnone : Op.grant s (.setPolicy p) = none := rfl
    rw [authorizations_of_none hnone, List.append_nil]
    exact withinWindow_setPolicy hs hsame hcarries

/-- The first step of a window: the counters are zero before it, or it resets them. -/
theorem withinWindow_first {s s' : GovernorState} {op : Op} {start : TimeMs} (k : ClassGroup)
    (hopens : OpensWindow s op start) (hsame : SameCaps s op) (hreads : ReadsWithin start s op)
    (hcarries : CarriesCounters s op) (h : step s op = some s') :
    WithinWindow k start (k.maximum s.engine.policy.budget) s' (op.authorizations s) := by
  rcases hopens with ⟨hused, hstart⟩ | ⟨a, ha, rfl, helapsed⟩
  · have hzero : WithinWindow k start (k.maximum s.engine.policy.budget) s [] :=
      ⟨hstart, rfl, Nat.zero_le _, Nat.zero_le _⟩
    exact withinWindow_step hzero hsame hreads hcarries h
  · rcases keepsPolicy_of_sameCaps hsame with hkeeps | ⟨p, rfl⟩
    · rcases step_budget h hkeeps with ⟨hnone, -⟩ | ⟨id, cls, now, g, hreq, hgrant, hg, hbudget⟩
      · rw [authorizations_of_none hnone] at ha
        cases ha
      · rw [authorizations_of_grant hreq hgrant] at ha ⊢
        cases List.mem_singleton.mp ha
        -- The test of the class was on the counters before the reset.
        have hcharge : (k.counter s'.engine.policy.budget.used).toNat =
            if g.cls ∈ k.members then 1 else 0 := by
          rw [hbudget, counter_consumeBudget, if_pos helapsed]
          split_ifs <;> rfl
        refine ⟨?_, ?_, ?_, ?_⟩
        · rw [hbudget, windowStart_consumeBudget, if_pos helapsed]
        · rw [hbudget, maximum_consumeBudget]
        · rw [hcharge, countIn_singleton]
        · rw [countIn_singleton]
          split_ifs with hmem
          · have hbelow := hg.below_maximum hmem
            omega
          · exact Nat.zero_le _
    · cases ha

/-! ## Runs -/

/-- From the start of a window on, in every run without a load whose accepted policies have
the caps in force and carry its start and counters over: as long as the clock stays in the
window, the authorizations of each group are within its cap. -/
theorem window_capped (s t : GovernorState) (op : Op) (ops : List Op) (start : TimeMs)
    (k : ClassGroup) (hopens : OpensWindow s op start)
    (hsame : Runs.Guarded step SameCaps s (op :: ops))
    (hreads : Runs.Guarded step (ReadsWithin start) s (op :: ops))
    (hcarries : Runs.Guarded step CarriesCounters s (op :: ops))
    (hrun : Runs.exec step s (op :: ops) = some t) :
    countIn k (Runs.events step Op.authorizations s (op :: ops)) ≤
      (k.maximum s.engine.policy.budget).toNat := by
  obtain ⟨s', hs', hrest⟩ := Runs.exec_cons.mp hrun
  have hfirst := withinWindow_first k hopens hsame.1 hreads.1 hcarries.1 hs'
  have hguard := ((hsame.2 s' hs').and (hreads.2 s' hs')).and (hcarries.2 s' hs')
  have hstep : ∀ u o u' es, WithinWindow k start (k.maximum s.engine.policy.budget) u es →
      (SameCaps u o ∧ ReadsWithin start u o) ∧ CarriesCounters u o → step u o = some u' →
      WithinWindow k start (k.maximum s.engine.policy.budget) u' (es ++ o.authorizations u) :=
    fun _ _ _ _ hu hg h => withinWindow_step hu hg.1.1 hg.1.2 hg.2 h
  have hend := Runs.events_of_guarded hstep hguard hrest hfirst
  rw [Runs.events, hs', Option.elim_some]
  exact hend.within

/-- A policy that allows one throttle in a window. -/
def oneThrottle : ContentionPolicy := { budget := { maxThrottlesPerWindow := 1 } }

/-- The policy is set, and the slowdown observed. -/
def observedUnder (p : ContentionPolicy) : List Op :=
  [.setPolicy p] ++ registerNeighbor ++ [.ingestEvidence slowdown]

/-- The default policy as it stands after one throttle at this reading. -/
def afterThrottle (now : TimeMs) : ContentionPolicy :=
  { budget := { windowStart := now, used := { throttles := 1, all := 1 } } }

/-- Two throttles, between which the policy is set again as it stands. -/
theorem window_capped_carried :
    countIn .throttles (Runs.events step Op.authorizations (reached (observedUnder {}))
        [.authorize ⟨1⟩ .throttle 100000, .setPolicy (afterThrottle 100000),
          .authorize ⟨1⟩ .throttle 110000]) ≤
      (ClassGroup.throttles.maximum (reached (observedUnder {})).engine.policy.budget).toNat :=
  let first : Op := .authorize ⟨1⟩ .throttle 100000
  let rest : List Op := [.setPolicy (afterThrottle 100000), .authorize ⟨1⟩ .throttle 110000]
  have hopens : OpensWindow (reached (observedUnder {})) first 100000 := by decide +kernel
  have hsame : Runs.Guarded step SameCaps (reached (observedUnder {})) (first :: rest) := by
    decide +kernel
  have hreads : Runs.Guarded step (ReadsWithin 100000) (reached (observedUnder {}))
      (first :: rest) := by decide +kernel
  have hcarries : Runs.Guarded step CarriesCounters (reached (observedUnder {}))
      (first :: rest) := by decide +kernel
  have hrun : (Runs.exec step (reached (observedUnder {})) (first :: rest)).isSome := by
    decide +kernel
  window_capped _ _ first rest 100000 .throttles hopens hsame hreads hcarries
    (Runs.exec_getD ({} : GovernorState) hrun)

/-- The same policy is set again after its one throttle, and allows a second in the window. -/
theorem policy_update_refills_budget :
    ¬∀ pre s t op ops start (k : ClassGroup), Runs.exec step {} pre = some s →
      OpensWindow s op start → Runs.Guarded step SameCaps s (op :: ops) →
      Runs.Guarded step (ReadsWithin start) s (op :: ops) →
      Runs.exec step s (op :: ops) = some t →
      countIn k (Runs.events step Op.authorizations s (op :: ops)) ≤
        (k.maximum s.engine.policy.budget).toNat := by
  intro h
  let first : Op := .authorize ⟨1⟩ .throttle 100000
  let rest : List Op := [.setPolicy oneThrottle, .authorize ⟨1⟩ .throttle 110000]
  have hrun := @exec_reached (observedUnder oneThrottle) (by decide +kernel)
  have hsegment : (Runs.exec step (reached (observedUnder oneThrottle)) (first :: rest)).isSome := by
    decide +kernel
  have hcount := h _ _ _ first rest 100000 .throttles hrun (by decide +kernel) (by decide +kernel)
    (by decide +kernel) (Runs.exec_getD {} hsegment)
  exact absurd hcount (by decide +kernel)

end ContentionGovernor
