import ContentionGovernor.ActionBudget

/-!
# Class counters

The counters of the action budget against the authorizations of a run, and
against their caps.
-/

namespace ContentionGovernor

/-! ## Groups -/

/-- The groups of intervention classes that have a counter of their own. -/
inductive ClassGroup
  | preemptions | migrations | placementChanges | throttles | collectiveReschedules
deriving DecidableEq

namespace ClassGroup

def members : ClassGroup → List InterventionClass
  | preemptions => [.requestPreemption]
  | migrations => [.requestMigration]
  | placementChanges => [.changePlacement]
  | throttles =>
    [.throttle, .reduceConcurrency, .reduceBatch, .serialize, .timeSlice, .reduceMemoryPressure]
  | collectiveReschedules => [.requestCollectiveReschedule]

def counter (u : ActionBudgetStats) : ClassGroup → UInt64
  | preemptions => u.preemptions
  | migrations => u.migrations
  | placementChanges => u.placementChanges
  | throttles => u.throttles
  | collectiveReschedules => u.collectiveReschedules

def maximum (b : ActionBudget) : ClassGroup → UInt64
  | preemptions => b.maxPreemptionsPerWindow
  | migrations => b.maxMigrationsPerWindow
  | placementChanges => b.maxPlacementChangesPerWindow
  | throttles => b.maxThrottlesPerWindow
  | collectiveReschedules => b.maxCollectiveReschedulesPerWindow

end ClassGroup

theorem counter_countClass (u : ActionBudgetStats) (cls : InterventionClass) (k : ClassGroup) :
    k.counter (countClass u cls) = k.counter u + if cls ∈ k.members then 1 else 0 := by
  cases k <;> cases cls <;> simp [countClass, ClassGroup.counter, ClassGroup.members]

theorem counter_consumeBudget (b : ActionBudget) (cls : InterventionClass) (now : TimeMs)
    (k : ClassGroup) : k.counter (consumeBudget b cls now).used =
      (if windowElapsed b now then 0 else k.counter b.used) +
        if cls ∈ k.members then 1 else 0 := by
  have hall : ∀ u : ActionBudgetStats, k.counter { u with all := u.all + 1 } = k.counter u := by
    intro u
    cases k <;> rfl
  have hzero : k.counter {} = 0 := by cases k <;> rfl
  unfold consumeBudget
  dsimp only
  rw [hall, counter_countClass, renewWindow]
  split_ifs <;> simp [hzero]

theorem maximum_consumeBudget (b : ActionBudget) (cls : InterventionClass) (now : TimeMs)
    (k : ClassGroup) : k.maximum (consumeBudget b cls now) = k.maximum b := by
  unfold consumeBudget renewWindow
  dsimp only
  cases k <;> split_ifs <;> rfl

/-- The two switches of the source agree: what is counted for a group is refused at its cap. -/
theorem budgetExhausted_iff {b : ActionBudget} {cls : InterventionClass} {k : ClassGroup}
    (h : cls ∈ k.members) :
    budgetExhausted b cls ↔ k.maximum b ≤ k.counter b.used := by
  cases k <;> simp only [ClassGroup.members, List.mem_cons, List.not_mem_nil, or_false] at h
  case throttles => rcases h with rfl | rfl | rfl | rfl | rfl | rfl <;> exact decide_eq_true_iff
  all_goals
    subst h
    exact decide_eq_true_iff

/-! ## Counting authorizations -/

/-- The operation authorizes an intervention. -/
def grants (s : GovernorState) (op : Op) : Bool := (op.grant s).isSome

/-- The operation authorizes an intervention of the group. -/
def grantsIn (k : ClassGroup) (s : GovernorState) (op : Op) : Bool :=
  (op.grant s).any fun g => g.cls ∈ k.members

/-- The operation authorizes an intervention with the window elapsed, and so resets the
counters first. -/
def renews (s : GovernorState) (op : Op) : Bool :=
  grants s op && op.request.any fun request => windowElapsed s.engine.policy.budget request.2.2

/-- What a step does to the budget, with the grant that it commits. -/
theorem step_budget {s s' : GovernorState} {op : Op} (h : step s op = some s')
    (hop : op.keepsPolicy) :
    (op.grant s = none ∧ s'.engine.policy.budget = s.engine.policy.budget) ∨
    ∃ id cls now g, op.request = some (id, cls, now) ∧ op.grant s = some g ∧
      Granted s id cls now g ∧
      s'.engine.policy.budget = consumeBudget s.engine.policy.budget g.cls now := by
  rcases step_policy h hop with ⟨hnone, hpolicy⟩ | ⟨id, cls, now, g, hreq, hgrant, hg, hpolicy⟩
  · exact .inl ⟨hnone, by rw [hpolicy]⟩
  · exact .inr ⟨id, cls, now, g, hreq, hgrant, hg, by rw [hpolicy]; rfl⟩

/-- The counter of the group is this count, and within its cap. -/
structure CountsExactly (k : ClassGroup) (s : GovernorState) (n : ℕ) : Prop where
  exactly : (k.counter s.engine.policy.budget.used).toNat = n
  within : k.counter s.engine.policy.budget.used ≤ k.maximum s.engine.policy.budget

/-- A charge to a counter below the top does not wrap. -/
theorem toNat_charge {c : UInt64} {reset count : Prop} [Decidable reset] [Decidable count]
    (h : count → c.toNat < 2 ^ 64 - 1) :
    ((if reset then 0 else c) + if count then 1 else 0).toNat =
      (if reset then 0 else c.toNat) + if count then 1 else 0 := by
  have hlt := c.toNat_lt
  rw [UInt64.toNat_add]
  by_cases hcount : count
  · have hbelow := h hcount
    by_cases hreset : reset <;> simp [hreset, hcount]
    -- Only a charge without a reset could reach the top.
    omega
  · by_cases hreset : reset <;> simp [hreset, hcount]

/-- A class that is granted has a counter below its cap: it passed its test before any
reset. -/
theorem Granted.below_maximum {s : GovernorState} {id : ConflictId} {cls : InterventionClass}
    {now : TimeMs} {g : Grant} (h : Granted s id cls now g) {k : ClassGroup}
    (hmem : g.cls ∈ k.members) :
    (k.counter s.engine.policy.budget.used).toNat < (k.maximum s.engine.policy.budget).toNat := by
  have hin := h.inBudget
  by_contra hge
  have hle : k.maximum s.engine.policy.budget ≤ k.counter s.engine.policy.budget.used :=
    UInt64.le_iff_toNat_le.mpr (not_lt.mp hge)
  rw [(budgetExhausted_iff hmem).mpr hle] at hin
  cases hin

theorem step_countsExactly {k : ClassGroup} {s s' : GovernorState} {op : Op} {n : ℕ}
    (hs : CountsExactly k s n) (hop : op.keepsPolicy) (h : step s op = some s') :
    CountsExactly k s'
      ((if renews s op then 0 else n) + if grantsIn k s op then 1 else 0) := by
  rcases step_budget h hop with ⟨hnone, hbudget⟩ | ⟨id, cls, now, g, hreq, hgrant, hg, hbudget⟩
  · have hrenews : renews s op = false := by simp [renews, grants, hnone]
    have hcounts : grantsIn k s op = false := by simp [grantsIn, hnone]
    rw [hrenews, hcounts]
    exact ⟨by rw [hbudget]; exact hs.exactly, by rw [hbudget]; exact hs.within⟩
  · have hrenews : renews s op ↔ windowElapsed s.engine.policy.budget now := by
      simp [renews, grants, hgrant, hreq]
    have hcounts : grantsIn k s op ↔ g.cls ∈ k.members := by simp [grantsIn, hgrant]
    have hmax := (k.maximum s.engine.policy.budget).toNat_lt
    have hroom : g.cls ∈ k.members →
        (k.counter s.engine.policy.budget.used).toNat < 2 ^ 64 - 1 := by
      intro hmem
      have hbelow := hg.below_maximum hmem
      omega
    have hwithin := UInt64.le_iff_toNat_le.mp hs.within
    simp only [hrenews, hcounts, ← hs.exactly]
    constructor
    · rw [hbudget, counter_consumeBudget, toNat_charge hroom]
    · rw [hbudget, maximum_consumeBudget, counter_consumeBudget, UInt64.le_iff_toNat_le,
        toNat_charge hroom]
      by_cases hmem : g.cls ∈ k.members
      · -- The class passed its test on the counter before the reset.
        have hbelow := hg.below_maximum hmem
        split_ifs <;> omega
      · split_ifs <;> omega

/-- The total is this count, in 64 bits. -/
def TotalIs (s : GovernorState) (n : ℕ) : Prop :=
  s.engine.policy.budget.used.all.toNat = n % 2 ^ 64

theorem step_totalIs {s s' : GovernorState} {op : Op} {n : ℕ} (hs : TotalIs s n)
    (hop : op.keepsPolicy) (h : step s op = some s') :
    TotalIs s' ((if renews s op then 0 else n) + if grants s op then 1 else 0) := by
  unfold TotalIs at hs ⊢
  rcases step_budget h hop with ⟨hnone, hbudget⟩ | ⟨id, cls, now, g, hreq, hgrant, -, hbudget⟩
  · have hgrants : grants s op = false := by simp [grants, hnone]
    have hrenews : renews s op = false := by simp [renews, hgrants]
    rw [hrenews, hgrants, hbudget]
    exact hs
  · have hgrants : grants s op = true := by simp [grants, hgrant]
    have hrenews : renews s op ↔ windowElapsed s.engine.policy.budget now := by
      simp [renews, hgrants, hreq]
    have hone : (1 : UInt64).toNat = 1 := rfl
    rw [hbudget, consumeBudget_all, hgrants]
    simp only [hrenews, if_true]
    split_ifs
    · rfl
    · rw [UInt64.toNat_add, hs, hone]
      omega

/-- In every run without set_policy and load after a policy with zero counters is accepted,
each class counter is the number of authorizations of its group since the last reset and at
most its cap, and the total is the number of all of them in 64 bits. -/
theorem class_counters_exact {p : ContentionPolicy} {s₀ t : GovernorState} {ops : List Op}
    (hp : (validatePolicy p).isOk) (hused : p.budget.used = {})
    (hops : ∀ op ∈ ops, op.keepsPolicy)
    (hrun : Runs.exec step (setPolicy p s₀).2 ops = some t) :
    (∀ k : ClassGroup,
      (k.counter t.engine.policy.budget.used).toNat =
        Runs.countSince step renews (grantsIn k) (setPolicy p s₀).2 ops 0 ∧
      k.counter t.engine.policy.budget.used ≤ k.maximum t.engine.policy.budget) ∧
    t.engine.policy.budget.used.all.toNat =
      Runs.countSince step renews grants (setPolicy p s₀).2 ops 0 % 2 ^ 64 := by
  have hguard : Runs.Guarded step (fun _ op => op.keepsPolicy) (setPolicy p s₀).2 ops :=
    Runs.guarded_of_forall hops
  have hstart := setPolicy_policy s₀ hp
  constructor
  · intro k
    have hzero : CountsExactly k (setPolicy p s₀).2 0 := by
      have hcounter : k.counter p.budget.used = 0 := by rw [hused]; cases k <;> rfl
      refine ⟨by rw [hstart, hcounter]; rfl, ?_⟩
      rw [hstart, hcounter, UInt64.le_iff_toNat_le]
      exact Nat.zero_le _
    have hcounts : CountsExactly k t
        (Runs.countSince step renews (grantsIn k) (setPolicy p s₀).2 ops 0) :=
      Runs.countSince_of_guarded (fun _ _ _ _ => step_countsExactly) hguard hrun hzero
    exact ⟨hcounts.exactly, hcounts.within⟩
  · have hzero : TotalIs (setPolicy p s₀).2 0 := by
      rw [TotalIs, hstart, hused]
      rfl
    have htotal : TotalIs t (Runs.countSince step renews grants (setPolicy p s₀).2 ops 0) :=
      Runs.countSince_of_guarded (fun _ _ _ _ => step_totalIs) hguard hrun hzero
    exact htotal

theorem class_counters_exact_throttle :
    (∀ k : ClassGroup,
      (k.counter ((Runs.exec step (setPolicy {} {}).2 throttleNeighbor).getD
          {}).engine.policy.budget.used).toNat =
        Runs.countSince step renews (grantsIn k) (setPolicy {} {}).2 throttleNeighbor 0 ∧
      k.counter ((Runs.exec step (setPolicy {} {}).2 throttleNeighbor).getD
          {}).engine.policy.budget.used ≤
        k.maximum ((Runs.exec step (setPolicy {} {}).2 throttleNeighbor).getD
          {}).engine.policy.budget) ∧
    ((Runs.exec step (setPolicy {} {}).2 throttleNeighbor).getD
        {}).engine.policy.budget.used.all.toNat =
      Runs.countSince step renews grants (setPolicy {} {}).2 throttleNeighbor 0 % 2 ^ 64 :=
  have hp : (validatePolicy {}).isOk := by decide +kernel
  have hops : ∀ op ∈ throttleNeighbor, op.keepsPolicy := by decide
  have hrun : Runs.exec step (setPolicy {} {}).2 throttleNeighbor = some _ :=
    Runs.exec_getD {} (by decide +kernel)
  class_counters_exact hp rfl hops hrun

example : Runs.countSince step renews (grantsIn .throttles) (setPolicy {} {}).2
    (throttleNeighbor ++ [.authorize ⟨1⟩ .serialize 10000, .authorize ⟨1⟩ .throttle 90000]) 0 =
    1 := by decide +kernel

end ContentionGovernor
