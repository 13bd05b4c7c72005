import ContentionGovernor.Operations

/-!
# Action budgets

`authorize` tests the counters before it renews an elapsed window, and no test
reads the total.
-/

namespace ContentionGovernor

/-! ## Success of a request -/

/-- `authorize` returns an intervention id. -/
def authorizes (s : GovernorState) (id : ConflictId) (cls : InterventionClass) (now : TimeMs) :
    Bool := ((authorize id cls now s).toOption.bind Prod.fst).isSome

/-- `authorize_and_dispatch` returns OK. -/
def authorizesAndDispatches (s : GovernorState) (id : ConflictId) (cls : InterventionClass)
    (now now' : TimeMs) (adapters : Option AdapterRegistry) : Bool :=
  (authorizeAndDispatch id cls now now' adapters s).toOption.any fun r => r.1.isOk

theorem authorizes_iff {s : GovernorState} {id : ConflictId} {cls : InterventionClass}
    {now : TimeMs} : authorizes s id cls now ↔ ∃ g, Granted s id cls now g := by
  constructor
  · intro h
    unfold authorizes at h
    cases hauth : authorize id cls now s with
    | error e => rw [hauth] at h; cases h
    | ok r =>
      rcases authorize_cases hauth with ⟨-, rfl⟩ | ⟨g, hg, -⟩
      · rw [hauth] at h
        cases h
      · exact ⟨g, granted_of_checks hg⟩
  · rintro ⟨g, hg⟩
    rw [authorizes, authorize_of_granted hg]
    rfl

/-- A fresh grant passes revalidation again, so its dispatch reaches the adapter step. -/
theorem dispatch_of_granted {s : GovernorState} {id : ConflictId} {cls : InterventionClass}
    {now : TimeMs} {g : Grant} (h : Granted s id cls now g) (now' : TimeMs)
    (adapters : Option AdapterRegistry) :
    (dispatch ⟨s.nextInterventionId⟩ now' adapters (commitGrant s id g now)).1 = .good := by
  have hfind : (commitGrant s id g now).engine.interventions.find ⟨s.nextInterventionId⟩ =
      some (grantRecord s id g now) := OrderedMap.find_insert_self ..
  have hvalid : (revalidate (commitGrant s id g now).engine (grantRecord s id g now).fence
      (grantRecord s id g now).target).code = .ok := h.valid
  have hstate : (grantRecord s id g now).state = .authorized := rfl
  unfold dispatch dispatchBegin
  rw [hfind]
  dsimp only
  rw [if_neg (not_not.mpr hstate), if_neg (not_not.mpr hvalid)]
  unfold dispatchFinish
  simp [setIntervention]

theorem authorizesAndDispatches_iff {s : GovernorState} {id : ConflictId}
    {cls : InterventionClass} {now now' : TimeMs} {adapters : Option AdapterRegistry} :
    authorizesAndDispatches s id cls now now' adapters ↔ ∃ g, Granted s id cls now g := by
  unfold authorizesAndDispatches
  constructor
  · intro h
    unfold authorizeAndDispatch at h
    split_ifs at h with hearly
    · cases h
    · rw [← authorizes_iff, authorizes]
      cases hauth : authorize id cls now s with
      | error e => rw [hauth] at h; cases h
      | ok r =>
        obtain ⟨o, s'⟩ := r
        rw [hauth] at h
        cases o with
        | none => cases h
        | some iid => rfl
  · rintro ⟨g, hg⟩
    rw [authorizeAndDispatch_of_granted hg]
    exact congrArg Status.isOk (dispatch_of_granted hg now' adapters)

/-! ## Elapsed windows -/

/-- The same state with all used counters zero. -/
def clearUsed (s : GovernorState) : GovernorState :=
  { s with engine := { s.engine with policy := { s.engine.policy with
    budget := { s.engine.policy.budget with used := {} } } } }

theorem passes_clearUsed {s : GovernorState} {id : ConflictId} {cls : InterventionClass}
    {now : TimeMs} {g : Grant} : Passes (clearUsed s) id cls now g ↔ Passes s id cls now g :=
  ⟨fun h => ⟨h.conflict, h.picked, h.fence, h.valid, h.feasible, h.rested, h.adapter⟩,
    fun h => ⟨h.conflict, h.picked, h.fence, h.valid, h.feasible, h.rested, h.adapter⟩⟩

/-- The grant is determined by the request. -/
theorem Passes.unique {s : GovernorState} {id : ConflictId} {cls : InterventionClass}
    {now : TimeMs} {g g' : Grant} (h : Passes s id cls now g) (h' : Passes s id cls now g') :
    g = g' := by
  obtain ⟨p, hp, htarget, hcls⟩ := h.picked
  obtain ⟨p', hp', htarget', hcls'⟩ := h'.picked
  obtain ⟨generation, hgeneration, hfence⟩ := h.fence
  obtain ⟨generation', hgeneration', hfence'⟩ := h'.fence
  have hconflict := h.conflict.symm.trans h'.conflict
  have hpick := hp.symm.trans hp'
  have hadapter := h.adapter.trans h'.adapter.symm
  obtain ⟨c, chosen, target, f, adapter⟩ := g
  obtain ⟨c', chosen', target', f', adapter'⟩ := g'
  simp only [Option.some.injEq] at hconflict hpick
  dsimp only at *
  subst hconflict hpick htarget htarget' hcls hcls' hadapter
  have hgen := hgeneration.symm.trans hgeneration'
  simp only [Except.ok.injEq] at hgen
  rw [hfence, hfence', hgen]

/-- The counters as they stand refuse nothing that zero counters would allow. -/
def CountersIrrelevant (s : GovernorState) (id : ConflictId) (cls : InterventionClass)
    (now : TimeMs) : Prop :=
  ∀ g, Passes s id cls now g → budgetExhausted s.engine.policy.budget g.cls →
    budgetExhausted (clearUsed s).engine.policy.budget g.cls

/-- Zero counters exhaust a class only when its cap is zero, and then any do. -/
theorem budgetExhausted_of_clear {b : ActionBudget} {cls : InterventionClass}
    (h : budgetExhausted { b with used := {} } cls) : budgetExhausted b cls := by
  have hzero : ∀ {x y : UInt64}, x ≤ 0 → x ≤ y := by
    intro x y hx
    rw [UInt64.le_iff_toNat_le] at hx ⊢
    exact hx.trans (Nat.zero_le _)
  cases cls <;> first | exact h | exact decide_eq_true (hzero (of_decide_eq_true h))

theorem granted_clearUsed_iff {s : GovernorState} {id : ConflictId} {cls : InterventionClass}
    {now : TimeMs} : ((∃ g, Granted s id cls now g) ↔ ∃ g, Granted (clearUsed s) id cls now g) ↔
      CountersIrrelevant s id cls now := by
  constructor
  · intro h g hg hexhausted
    by_contra hclear
    have hgrant : Granted (clearUsed s) id cls now g :=
      ⟨passes_clearUsed.mpr hg, Bool.eq_false_of_not_eq_true hclear⟩
    obtain ⟨g', hg'⟩ := h.mpr ⟨g, hgrant⟩
    have hbudget := hg'.inBudget
    rw [← hg.unique hg'.toPasses, hexhausted] at hbudget
    cases hbudget
  · intro h
    constructor
    · rintro ⟨g, hg⟩
      refine ⟨g, passes_clearUsed.mpr hg.toPasses, ?_⟩
      by_contra hclear
      have hin := budgetExhausted_of_clear (Bool.eq_true_of_not_eq_false hclear)
      have hbudget := hg.inBudget
      rw [hin] at hbudget
      cases hbudget
    · rintro ⟨g, hg⟩
      have hpasses := passes_clearUsed.mp hg.toPasses
      refine ⟨g, hpasses, ?_⟩
      by_contra hbudget
      have hclear := h g hpasses (Bool.eq_true_of_not_eq_false hbudget)
      have hin := hg.inBudget
      rw [hclear] at hin
      cases hin

/-- With the window elapsed, each request succeeds exactly when it does with zero counters. -/
def FreesBudget (s : GovernorState) (id : ConflictId) (cls : InterventionClass) (now : TimeMs) :
    Prop :=
  windowElapsed s.engine.policy.budget now →
    (authorizes s id cls now ↔ authorizes (clearUsed s) id cls now) ∧
    ∀ now' adapters, authorizesAndDispatches s id cls now now' adapters ↔
      authorizesAndDispatches (clearUsed s) id cls now now' adapters

/-- An elapsed window frees the budget exactly when the old counters already allow the
class that is to be granted: the exhaustion test runs before the window is renewed. -/
theorem elapsed_window_frees_iff (s : GovernorState) (id : ConflictId) (cls : InterventionClass)
    (now : TimeMs) : FreesBudget s id cls now ↔
      (windowElapsed s.engine.policy.budget now → CountersIrrelevant s id cls now) := by
  refine forall_congr' fun _ => ?_
  rw [← granted_clearUsed_iff]
  simp only [authorizes_iff, authorizesAndDispatches_iff]
  exact ⟨fun h => h.1, fun h => ⟨h, fun _ _ => h⟩⟩

/-- One throttle in each window is allowed and one is authorized in the first. -/
def spentWindow : List Op :=
  [.setPolicy { budget := { maxThrottlesPerWindow := 1 } }] ++ throttleNeighbor

theorem exhausted_class_never_recovers :
    ¬∀ s id cls now, FreesBudget s id cls now := by
  intro h
  have hfree := h (reached spentWindow) ⟨1⟩ .throttle 200000 (by decide +kernel)
  have hclear : authorizes (clearUsed (reached spentWindow)) ⟨1⟩ .throttle 200000 := by
    decide +kernel
  have hrefused : authorizes (reached spentWindow) ⟨1⟩ .throttle 200000 = false := by
    decide +kernel
  have hauth := hfree.1.mpr hclear
  rw [hrefused] at hauth
  cases hauth

/-! ## The total -/

/-- The operations that leave the policy to `authorize`. -/
def Op.keepsPolicy : Op → Bool
  | .setPolicy _ | .load _ _ _ => false
  | _ => true

/-- The policy after a grant. -/
def chargePolicy (p : ContentionPolicy) (cls : InterventionClass) (now : TimeMs) :
    ContentionPolicy := { p with budget := consumeBudget p.budget cls now }

theorem policy_of_request {s s' : GovernorState} {op : Op} {id : ConflictId}
    {cls : InterventionClass} {now : TimeMs} (h : step s op = some s')
    (hreq : op.request = some (id, cls, now)) :
    (op.grant s = none ∧ s'.engine.policy = s.engine.policy) ∨
    ∃ id cls now g, op.request = some (id, cls, now) ∧ op.grant s = some g ∧
      Granted s id cls now g ∧ s'.engine.policy = chargePolicy s.engine.policy g.cls now := by
  rcases step_of_request h hreq with ⟨hnone, rfl⟩ | ⟨g, hgrant, hg, _, _, rfl⟩
  · exact .inl ⟨hnone, rfl⟩
  · exact .inr ⟨id, cls, now, g, hreq, hgrant, hg, rfl⟩

/-- What a step does to the policy: a grant consumes budget, and nothing else writes it. -/
theorem step_policy {s s' : GovernorState} {op : Op} (h : step s op = some s')
    (hop : op.keepsPolicy) :
    (op.grant s = none ∧ s'.engine.policy = s.engine.policy) ∨
    ∃ id cls now g, op.request = some (id, cls, now) ∧ op.grant s = some g ∧
      Granted s id cls now g ∧ s'.engine.policy = chargePolicy s.engine.policy g.cls now := by
  cases op with
  | setPolicy | load => cases hop
  | authorize | authorizeAndDispatch => exact policy_of_request h rfl
  | _ => exact .inl ⟨rfl, (step_frame h).policy rfl⟩

/-- A request that is granted does not fault. -/
theorem step_of_granted {s : GovernorState} {op : Op} {id : ConflictId}
    {cls : InterventionClass} {now : TimeMs} {g : Grant}
    (hreq : op.request = some (id, cls, now)) (hg : Granted s id cls now g) :
    ∃ s', step s op = some s' := by
  cases op with
  | authorize =>
    cases hreq
    refine ⟨commitGrant s id g now, ?_⟩
    rw [step, Op.run, authorize_of_granted hg]
    rfl
  | authorizeAndDispatch _ _ _ now' adapters =>
    cases hreq
    refine ⟨(dispatch ⟨s.nextInterventionId⟩ now' adapters (commitGrant s id g now)).2, ?_⟩
    rw [step, Op.run, authorizeAndDispatch_of_granted hg]
    rfl
  | _ => cases hreq

/-- The total is within its cap. -/
def WithinCap (s : GovernorState) : Prop :=
  s.engine.policy.budget.used.all ≤ s.engine.policy.budget.maxAnyPerWindow

/-- One more action fits under the total: the count is below the cap or starts again. -/
def hasRoom (b : ActionBudget) (now : TimeMs) : Prop :=
  b.used.all < b.maxAnyPerWindow ∨ windowElapsed b now ∨ b.maxAnyPerWindow = 0xFFFFFFFFFFFFFFFF

/-- An authorization that is granted finds room under the total cap. -/
def GrantsInRoom (s : GovernorState) (op : Op) : Prop :=
  ∀ id cls now g, op.request = some (id, cls, now) → Granted s id cls now g →
    hasRoom s.engine.policy.budget now

theorem consumeBudget_max (b : ActionBudget) (cls : InterventionClass) (now : TimeMs) :
    (consumeBudget b cls now).maxAnyPerWindow = b.maxAnyPerWindow := by
  unfold consumeBudget renewWindow
  dsimp only
  split_ifs <;> rfl

theorem countClass_all (u : ActionBudgetStats) (cls : InterventionClass) :
    (countClass u cls).all = u.all := by cases cls <;> rfl

theorem consumeBudget_all (b : ActionBudget) (cls : InterventionClass) (now : TimeMs) :
    (consumeBudget b cls now).used.all = if windowElapsed b now then 1 else b.used.all + 1 := by
  unfold consumeBudget renewWindow
  dsimp only
  rw [countClass_all]
  split_ifs <;> rfl

/-- Consuming keeps a total within its cap exactly when there is room. -/
theorem consumeBudget_le_iff {b : ActionBudget} (cls : InterventionClass) (now : TimeMs)
    (hpos : b.maxAnyPerWindow ≠ 0) (hle : b.used.all ≤ b.maxAnyPerWindow) :
    (consumeBudget b cls now).used.all ≤ (consumeBudget b cls now).maxAnyPerWindow ↔
      hasRoom b now := by
  rw [consumeBudget_max, consumeBudget_all, hasRoom]
  generalize b.used.all = n, b.maxAnyPerWindow = m at hpos hle ⊢
  have hpos' : m.toNat ≠ 0 := fun h => hpos (UInt64.toNat_inj.mp h)
  have hm := m.toNat_lt
  rw [UInt64.le_iff_toNat_le] at hle
  split_ifs with hwindow
  · have hone : (1 : UInt64) ≤ m := by
      rw [UInt64.le_iff_toNat_le]
      exact Nat.one_le_iff_ne_zero.mpr hpos'
    simp [hwindow, hone]
  · have hmax : (0xFFFFFFFFFFFFFFFF : UInt64).toNat = 2 ^ 64 - 1 := rfl
    rw [UInt64.le_iff_toNat_le, UInt64.lt_iff_toNat_lt, ← UInt64.toNat_inj, hmax,
      UInt64.toNat_add, show (1 : UInt64).toNat = 1 from rfl]
    simp only [hwindow, false_or]
    omega

/-- The total is within a nonzero cap. -/
structure Capped (s : GovernorState) : Prop where
  positive : s.engine.policy.budget.maxAnyPerWindow ≠ 0
  within : WithinCap s

/-- A grant charges the counters, not the caps. -/
theorem step_maxAny {s s' : GovernorState} {op : Op} (h : step s op = some s')
    (hop : op.keepsPolicy) :
    s'.engine.policy.budget.maxAnyPerWindow = s.engine.policy.budget.maxAnyPerWindow := by
  rcases step_policy h hop with ⟨-, hpolicy⟩ | ⟨id, cls, now, g, -, -, -, hpolicy⟩
  · rw [hpolicy]
  · rw [hpolicy, chargePolicy, consumeBudget_max]

/-- The grants in room are exactly the steps that stay within the cap. -/
theorem grantsInRoom_iff {s : GovernorState} {op : Op} (hs : Capped s) (hop : op.keepsPolicy) :
    GrantsInRoom s op ↔ ∀ s', step s op = some s' → Capped s' := by
  constructor
  · intro hguard s' hstep
    have hpositive : s'.engine.policy.budget.maxAnyPerWindow ≠ 0 := by
      rw [step_maxAny hstep hop]
      exact hs.positive
    rcases step_policy hstep hop with ⟨-, hpolicy⟩ | ⟨id, cls, now, g, hreq, -, hg, hpolicy⟩
    · exact ⟨hpositive, by rw [WithinCap, hpolicy]; exact hs.within⟩
    · have hroom := hguard id cls now g hreq hg
      refine ⟨hpositive, ?_⟩
      rw [WithinCap, hpolicy]
      exact (consumeBudget_le_iff g.cls now hs.positive hs.within).mpr hroom
  · intro hafter id cls now g hreq hg
    obtain ⟨s', hstep⟩ := step_of_granted hreq hg
    rcases step_policy hstep hop with ⟨hnone, -⟩ | ⟨id', cls', now', g', hreq', -, -, hpolicy⟩
    · exact absurd hg ((grant_eq_none hreq).mp hnone g)
    · rw [hreq] at hreq'
      cases hreq'
      have hwithin := (hafter s' hstep).within
      rw [WithinCap, hpolicy] at hwithin
      exact (consumeBudget_le_iff g'.cls now hs.positive hs.within).mp hwithin

theorem capped_setPolicy {p : ContentionPolicy} (s : GovernorState) (hp : (validatePolicy p).isOk)
    (hused : p.budget.used = {}) : Capped (setPolicy p s).2 := by
  have hpolicy := setPolicy_policy s hp
  refine ⟨?_, ?_⟩
  · rw [hpolicy]
    intro hzero
    exact (validatePolicy_valid hp).limits (.inr (.inr (.inr hzero)))
  · rw [WithinCap, hpolicy, hused, UInt64.le_iff_toNat_le]
    exact Nat.zero_le _

/-- After a policy with zero counters is set, the total stays within its cap throughout a run
exactly when every granted authorization of the run finds room under it. -/
theorem total_within_cap_iff {p : ContentionPolicy} {s : GovernorState} {ops : List Op}
    (hp : (validatePolicy p).isOk) (hused : p.budget.used = {})
    (hops : ∀ op ∈ ops, op.keepsPolicy) :
    (∀ pre t, pre <+: ops → Runs.exec step (setPolicy p s).2 pre = some t → WithinCap t) ↔
      Runs.Guarded step GrantsInRoom (setPolicy p s).2 ops := by
  have hstart := capped_setPolicy s hp hused
  have hexact : ∀ u, Capped u → ∀ op ∈ ops, GrantsInRoom u op ↔
      ∀ u', step u op = some u' → Capped u' := fun u hu op hop => grantsInRoom_iff hu (hops op hop)
  rw [← Runs.invariant_throughout_iff hexact hstart]
  constructor
  · intro h pre t hpre hrun
    have hkeeps : Runs.Guarded step (fun _ op => op.keepsPolicy = true) (setPolicy p s).2 pre :=
      Runs.guarded_of_forall fun op hop => hops op (hpre.subset hop)
    have hmax : ∀ u op u', u.engine.policy.budget.maxAnyPerWindow ≠ 0 → op.keepsPolicy = true →
        step u op = some u' → u'.engine.policy.budget.maxAnyPerWindow ≠ 0 := by
      intro u op u' hu hop hstep
      rw [step_maxAny hstep hop]
      exact hu
    have hpositive := Runs.invariant_of_guarded hmax hkeeps hrun hstart.positive
    exact ⟨hpositive, h pre t hpre hrun⟩
  · exact fun h pre t hpre hrun => (h pre t hpre hrun).within

theorem total_within_cap_iff_default :
    (∀ pre t, pre <+: throttleNeighbor →
        Runs.exec step (setPolicy {} {}).2 pre = some t → WithinCap t) ↔
      Runs.Guarded step GrantsInRoom (setPolicy {} {}).2 throttleNeighbor :=
  have hp : (validatePolicy {}).isOk := by decide +kernel
  have hops : ∀ op ∈ throttleNeighbor, op.keepsPolicy := by decide
  total_within_cap_iff hp rfl hops

/-- One action in each window is allowed, and a second is authorized in the first. -/
theorem total_exceeds_cap :
    ¬∀ p s ops t, (validatePolicy p).isOk → p.budget.used = {} →
      (∀ op ∈ ops, op.keepsPolicy) → Runs.exec step (setPolicy p s).2 ops = some t →
      WithinCap t := by
  intro h
  let ops : List Op := throttleNeighbor ++ [.authorize ⟨1⟩ .throttle 10000]
  let p : ContentionPolicy := { budget := { maxAnyPerWindow := 1 } }
  have hkeeps : ∀ op ∈ ops, op.keepsPolicy := by decide
  have hp : (validatePolicy p).isOk := by decide +kernel
  have hover : ((Runs.exec step (setPolicy p {}).2 ops).map fun t =>
      (t.engine.policy.budget.used.all, t.engine.policy.budget.maxAnyPerWindow)) =
        some (2, 1) := by decide +kernel
  obtain ⟨t, hrun, hcounts⟩ := Option.map_eq_some_iff.mp hover
  have hwithin := h p {} ops t hp rfl hkeeps hrun
  rw [WithinCap, (Prod.mk.inj hcounts).1, (Prod.mk.inj hcounts).2] at hwithin
  exact absurd hwithin (by decide)

end ContentionGovernor
