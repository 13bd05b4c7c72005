import ContentionGovernor.ClassCounters

/-!
# The arithmetic of an authorization

`authorize` subtracts timestamps of the state from the clock and increments counters, in
64 bits and without a check.
-/

namespace ContentionGovernor

/-! ## Word operations -/

inductive WordOp
  | sub (a b : UInt64)
  | add (a b : UInt64)
deriving DecidableEq

/-- The result in 64 bits is the one of the integers. -/
def WordOp.Exact : WordOp → Prop
  | sub a b => ((a - b).toNat : ℤ) = a.toNat - b.toNat
  | add a b => (a + b).toNat = a.toNat + b.toNat

theorem sub_exact_iff {a b : UInt64} : (WordOp.sub a b).Exact ↔ b ≤ a := by
  rw [WordOp.Exact, UInt64.le_iff_toNat_le]
  constructor
  · omega
  · intro h
    rw [UInt64.toNat_sub_of_le _ _ (UInt64.le_iff_toNat_le.mpr h)]
    omega

theorem add_one_exact_iff {a : UInt64} : (WordOp.add a 1).Exact ↔ a.toNat < 2 ^ 64 - 1 := by
  have ha := a.toNat_lt
  rw [WordOp.Exact, UInt64.toNat_add, UInt64.toNat_one]
  omega

/-! ## What `authorize` computes -/

/-- The state with no cooldown to wait for, which is the one check that reads the clock. -/
def withoutCooldown (st : GovernorState) : GovernorState :=
  { st with engine := { st.engine with policy := { st.engine.policy with cooldownMs := 0 } } }

/-- The outcome of the checks of `authorize` before it reads the clock. -/
def checksBeforeClock (st : GovernorState) (id : ConflictId) (cls : InterventionClass) :
    Except Fault (Option Grant) := authorizeChecks (withoutCooldown st) id cls 0

theorem inCooldown_withoutCooldown (st : GovernorState) (target : WorkloadId)
    (cls : InterventionClass) (now : TimeMs) :
    inCooldown (withoutCooldown st).engine target cls now = false := by
  have hnever : ∀ x : UInt64, decide (x < 0) = false :=
    fun _ => decide_eq_false UInt64.not_lt_zero
  unfold inCooldown withoutCooldown
  dsimp only
  cases st.engine.fairness.find target with
  | none => exact Bool.and_false _
  | some fr => simp only [hnever, Bool.and_false]

/-- The cooldown comes last, and no other check reads it. -/
theorem authorizeChecks_eq (st : GovernorState) (id : ConflictId) (cls : InterventionClass)
    (now : TimeMs) : authorizeChecks st id cls now = (checksBeforeClock st id cls).map fun o =>
      o.filter fun g => !inCooldown st.engine g.target g.cls now := by
  have hconflicts : (withoutCooldown st).engine.conflicts = st.engine.conflicts := rfl
  have hevaluate : evaluateConflict (withoutCooldown st).engine id
      (withoutCooldown st).engine.authority = evaluateConflict st.engine id st.engine.authority := rfl
  unfold checksBeforeClock authorizeChecks
  dsimp only
  rw [hconflicts, hevaluate]
  cases st.engine.conflicts.find id with
  | none => rfl
  | some c =>
    dsimp only
    cases pickCandidate (evaluateConflict st.engine id st.engine.authority) with
    | none => rfl
    | some p =>
      have hfront : frontGeneration (withoutCooldown st).engine c = frontGeneration st.engine c :=
        rfl
      dsimp only
      rw [hfront]
      cases frontGeneration st.engine c with
      | error e => rfl
      | ok generation =>
        have hrevalidate : revalidate (withoutCooldown st).engine = revalidate st.engine := rfl
        have hfeasibility : checkFeasibility (withoutCooldown st).engine =
            checkFeasibility st.engine := rfl
        have hlimits : (withoutCooldown st).engine.policy.budget = st.engine.policy.budget := rfl
        have hauthority : (withoutCooldown st).engine.authority = st.engine.authority := rfl
        rw [ok_bind, ok_bind, inCooldown_withoutCooldown, hrevalidate, hfeasibility, hlimits,
          hauthority, if_neg Bool.false_ne_true]
        generalize (if cls ≠ .noAction then cls else p.cls) = chosen
        split_ifs with hvalid hfeasible hbudget hcooldown
        · rfl
        · rfl
        · rfl
        · simp [Except.map, pure, Except.pure, Option.filter, hcooldown]
        · refine congrArg Except.ok (if_pos ?_).symm
          simpa using hcooldown

/-- The difference that the cooldown is compared with. -/
def cooldownArithmetic (s : EngineState) (g : Grant) (now : TimeMs) : List WordOp :=
  if isDisruptiveClass g.cls then
    match s.fairness.find g.target with
    | some fr => if fr.lastInterventionAt ≠ 0 then [.sub now fr.lastInterventionAt] else []
    | none => []
  else []

/-- The class counter that `consume_budget` increments. -/
def classIncrements (u : ActionBudgetStats) : InterventionClass → List WordOp
  | .requestPreemption => [.add u.preemptions 1]
  | .requestMigration => [.add u.migrations 1]
  | .changePlacement => [.add u.placementChanges 1]
  | .throttle | .reduceConcurrency | .reduceBatch | .serialize | .timeSlice
  | .reduceMemoryPressure => [.add u.throttles 1]
  | .requestCollectiveReschedule => [.add u.collectiveReschedules 1]
  | _ => []

/-- The arithmetic of `consume_budget`: the age of the window, and the increments after a
renewal. -/
def budgetArithmetic (b : ActionBudget) (cls : InterventionClass) (now : TimeMs) : List WordOp :=
  [.sub now b.windowStart] ++ classIncrements (renewWindow b now).used cls ++
    [.add (renewWindow b now).used.all 1]

/-- The arithmetic of a grant: the ids it allocates and the budget it consumes. -/
def grantArithmetic (st : GovernorState) (g : Grant) (now : TimeMs) : List WordOp :=
  [.add st.nextInterventionId 1, .add st.nextDispatchId 1, .add st.nextAttemptId 1] ++
    budgetArithmetic st.engine.policy.budget g.cls now

/-- The 64-bit arithmetic of one call of `authorize`. -/
def authorizeArithmetic (st : GovernorState) (id : ConflictId) (cls : InterventionClass)
    (now : TimeMs) : List WordOp :=
  (match checksBeforeClock st id cls with
    | .ok (some g) => cooldownArithmetic st.engine g now
    | _ => []) ++
  match authorizeChecks st id cls now with
    | .ok (some g) => grantArithmetic st g now
    | _ => []

def NoWrap (ops : List WordOp) : Prop := ∀ o ∈ ops, o.Exact

theorem noWrap_nil : NoWrap [] := by
  intro o ho
  cases ho

theorem noWrap_append {ops ops' : List WordOp} : NoWrap (ops ++ ops') ↔ NoWrap ops ∧ NoWrap ops' :=
  List.forall_mem_append

theorem noWrap_singleton {o : WordOp} : NoWrap [o] ↔ o.Exact := List.forall_mem_singleton

/-! ## When nothing wraps -/

/-- The clock has not gone back behind the last intervention on a target that a disruptive
class is for. -/
def ClockPastLast (s : EngineState) (g : Grant) (now : TimeMs) : Prop :=
  isDisruptiveClass g.cls → ∀ fr, s.fairness.find g.target = some fr → fr.lastInterventionAt ≤ now

/-- The clock has not gone back behind the start of the window, and neither the id counters
nor the total of the window is at the top. -/
structure GrantFits (s : GovernorState) (now : TimeMs) : Prop where
  window : s.engine.policy.budget.windowStart ≤ now
  intervention : s.nextInterventionId.toNat < 2 ^ 64 - 1
  dispatch : s.nextDispatchId.toNat < 2 ^ 64 - 1
  attempt : s.nextAttemptId.toNat < 2 ^ 64 - 1
  total : windowElapsed s.engine.policy.budget now ∨
    s.engine.policy.budget.used.all.toNat < 2 ^ 64 - 1

theorem cooldown_noWrap_iff (s : EngineState) (g : Grant) (now : TimeMs) :
    NoWrap (cooldownArithmetic s g now) ↔ ClockPastLast s g now := by
  unfold cooldownArithmetic ClockPastLast
  by_cases hclass : isDisruptiveClass g.cls
  · rw [if_pos hclass]
    cases hfr : s.fairness.find g.target with
    | none => simp [noWrap_nil]
    | some fr =>
      dsimp only
      split_ifs with hlast
      · rw [noWrap_singleton, sub_exact_iff]
        simp [hclass]
      · -- A zero timestamp is not subtracted, and no clock is behind it.
        rw [not_not] at hlast
        simp [noWrap_nil, hlast, UInt64.le_iff_toNat_le]
  · rw [if_neg hclass]
    simp [noWrap_nil, hclass]

/-- A class within its budget has a counter that can be incremented, also after a renewal. -/
theorem classIncrements_noWrap {b : ActionBudget} {cls : InterventionClass} (now : TimeMs)
    (h : budgetExhausted b cls = false) : NoWrap (classIncrements (renewWindow b now).used cls) := by
  have hcounter : ∀ k : ClassGroup, cls ∈ k.members →
      (WordOp.add (k.counter (renewWindow b now).used) 1).Exact := by
    intro k hk
    have hmax := (k.maximum b).toNat_lt
    have hbelow : (k.counter b.used).toNat < (k.maximum b).toNat := by
      by_contra hge
      have hexhausted := (budgetExhausted_iff hk).mpr (UInt64.le_iff_toNat_le.mpr (not_lt.mp hge))
      rw [h] at hexhausted
      cases hexhausted
    rw [add_one_exact_iff, renewWindow]
    split_ifs
    · have hzero : k.counter {} = 0 := by cases k <;> rfl
      rw [hzero]
      decide
    · omega
  -- The counter that is incremented is that of the group of the class.
  cases cls with
  | requestPreemption => exact noWrap_singleton.mpr (hcounter .preemptions (by decide))
  | requestMigration => exact noWrap_singleton.mpr (hcounter .migrations (by decide))
  | changePlacement => exact noWrap_singleton.mpr (hcounter .placementChanges (by decide))
  | throttle | reduceConcurrency | reduceBatch | serialize | timeSlice | reduceMemoryPressure =>
    exact noWrap_singleton.mpr (hcounter .throttles (by decide))
  | requestCollectiveReschedule =>
    exact noWrap_singleton.mpr (hcounter .collectiveReschedules (by decide))
  | _ => exact noWrap_nil

theorem total_exact_iff (b : ActionBudget) (now : TimeMs) :
    (WordOp.add (renewWindow b now).used.all 1).Exact ↔
      windowElapsed b now ∨ b.used.all.toNat < 2 ^ 64 - 1 := by
  rw [add_one_exact_iff, renewWindow]
  split_ifs with helapsed
  · simp [helapsed]
  · simp [helapsed]

theorem grant_noWrap_iff {s : GovernorState} {g : Grant} {now : TimeMs}
    (h : budgetExhausted s.engine.policy.budget g.cls = false) :
    NoWrap (grantArithmetic s g now) ↔ GrantFits s now := by
  have hids : NoWrap [.add s.nextInterventionId 1, .add s.nextDispatchId 1,
      .add s.nextAttemptId 1] ↔ s.nextInterventionId.toNat < 2 ^ 64 - 1 ∧
        s.nextDispatchId.toNat < 2 ^ 64 - 1 ∧ s.nextAttemptId.toNat < 2 ^ 64 - 1 := by
    rw [← add_one_exact_iff, ← add_one_exact_iff, ← add_one_exact_iff]
    simp [NoWrap]
  unfold grantArithmetic budgetArithmetic
  rw [noWrap_append, noWrap_append, noWrap_append, hids, noWrap_singleton, noWrap_singleton,
    sub_exact_iff, total_exact_iff]
  constructor
  · rintro ⟨⟨hintervention, hdispatch, hattempt⟩, ⟨hwindow, -⟩, htotal⟩
    exact ⟨hwindow, hintervention, hdispatch, hattempt, htotal⟩
  · intro hfits
    exact ⟨⟨hfits.intervention, hfits.dispatch, hfits.attempt⟩,
      ⟨hfits.window, classIncrements_noWrap now h⟩, hfits.total⟩

/-- What passes the checks before the clock is within its budget. -/
theorem inBudget_of_checks {s : GovernorState} {id : ConflictId} {cls : InterventionClass}
    {g : Grant} (h : checksBeforeClock s id cls = .ok (some g)) :
    budgetExhausted s.engine.policy.budget g.cls = false :=
  (granted_of_checks h).inBudget

/-- In every state and for every clock reading, no 64-bit operation of `authorize` wraps
exactly when a request that gets to the clock finds it past the timestamps it is compared
with and the counters below the top. -/
theorem authorize_noWrap_iff (s : GovernorState) (id : ConflictId) (cls : InterventionClass)
    (now : TimeMs) : NoWrap (authorizeArithmetic s id cls now) ↔
      ∀ g, checksBeforeClock s id cls = .ok (some g) → ClockPastLast s.engine g now ∧
        (inCooldown s.engine g.target g.cls now = false → GrantFits s now) := by
  unfold authorizeArithmetic
  rw [authorizeChecks_eq, noWrap_append]
  cases hchecks : checksBeforeClock s id cls with
  | error e => simp [Except.map, noWrap_nil]
  | ok o =>
    cases o with
    | none => simp [Except.map, noWrap_nil]
    | some g =>
      have hgrant : NoWrap (grantArithmetic s g now) ↔ GrantFits s now :=
        grant_noWrap_iff (inBudget_of_checks hchecks)
      dsimp only
      rw [cooldown_noWrap_iff]
      cases hcooldown : inCooldown s.engine g.target g.cls now with
      | true => simp [Except.map, Option.filter, hcooldown, noWrap_nil]
      | false => simp [Except.map, Option.filter, hcooldown, hgrant]

/-- A throttle is authorized at 1000, and the next one asked for by a clock that has started
again and reads 500. -/
theorem clock_restart_wraps :
    ¬∀ ops s id cls now, Runs.exec step {} ops = some s →
      (validatePolicy s.engine.policy).isOk → NoWrap (authorizeArithmetic s id cls now) := by
  intro h
  have hrun := @exec_reached throttleNeighbor (by decide +kernel)
  have hnowrap := h _ _ ⟨1⟩ .throttle 500 hrun (by decide +kernel)
  have hmem : .sub 500 1000 ∈ authorizeArithmetic (reached throttleNeighbor) ⟨1⟩ .throttle 500 := by
    decide +kernel
  exact absurd (sub_exact_iff.mp (hnowrap _ hmem)) (by decide)

end ContentionGovernor
