import ContentionGovernor.ActionBudget
import ContentionGovernor.Verification

/-!
# Bounded targeting

The consecutive interventions that fairness records for a workload, against the
authorizations on it since its last reset.
-/

namespace ContentionGovernor

/-- The consecutive interventions recorded for a workload, zero without a record. -/
def consecutive (s : GovernorState) (w : WorkloadId) : UInt32 :=
  ((s.engine.fairness.find w).map (·.consecutiveInterventions)).getD 0

/-- The operation authorizes an intervention on the workload. -/
def targets (w : WorkloadId) (s : GovernorState) (op : Op) : Bool :=
  (op.grant s).any fun g => g.target = w

/-- The operation resets the workload: a new epoch, or a verification with outcome RESOLVED
of an intervention on it. -/
def clears (w : WorkloadId) (s : GovernorState) : Op → Bool
  | .advanceEpoch => true
  | .submitPostActionEvidence input =>
    (closing s input).any fun v => v.record.target = w ∧ verdict s input v = .resolved
  | _ => false

theorem consecutive_of_fairness {s s' : GovernorState}
    (h : s'.engine.fairness = s.engine.fairness) (w : WorkloadId) :
    consecutive s' w = consecutive s w := by
  rw [consecutive, h, consecutive]

theorem consecutive_advanceEpoch (s : GovernorState) (w : WorkloadId) :
    consecutive (advanceEpoch s).2 w = 0 := by
  simp only [consecutive, advanceEpoch, OrderedMap.find_mapValues, Option.map_map]
  cases s.engine.fairness.find w <;> rfl

theorem consecutive_submit (s : GovernorState) (input : InterferenceEvidence) (w : WorkloadId) :
    consecutive (submitPostActionEvidence input s).2 w =
      if clears w s (.submitPostActionEvidence input) then 0 else consecutive s w := by
  rw [consecutive, consecutive, find_fairness_submit, clears]
  cases s.engine.fairness.find w with
  | none => exact (ite_self _).symm
  | some fr =>
    rw [Option.map_some]
    split_ifs <;> rfl

/-- The record of the target after a grant, and no other, has one more intervention. -/
theorem consecutive_commitGrant (s : GovernorState) (id : ConflictId) (g : Grant) (now : TimeMs)
    (w : WorkloadId) : consecutive (commitGrant s id g now) w =
      if g.target = w then
        if consecutive s w = 0xFFFFFFFF then 0xFFFFFFFF else consecutive s w + 1
      else consecutive s w := by
  unfold consecutive commitGrant
  dsimp only
  by_cases hw : g.target = w
  · subst hw
    rw [OrderedMap.find_insert_self, if_pos rfl]
    cases s.engine.fairness.find g.target <;> rfl
  · rw [OrderedMap.find_insert_of_ne _ (Ne.symm hw), if_neg hw]

/-- What a step does to the consecutive interventions of every workload. -/
theorem step_consecutive {s s' : GovernorState} {op : Op} (h : step s op = some s')
    (hop : ¬op.isLoad) :
    (op.grant s = none ∧
      ∀ w, consecutive s' w = if clears w s op then 0 else consecutive s w) ∨
    ∃ id cls now g, op.grant s = some g ∧ Granted s id cls now g ∧
      (∀ w, clears w s op = false) ∧
      ∀ w, consecutive s' w = consecutive (commitGrant s id g now) w := by
  cases op with
  | authorize id cls now | authorizeAndDispatch id cls now =>
    rcases step_of_request h rfl with ⟨hnone, rfl⟩ | ⟨g, hgrant, hg, _, _, rfl⟩
    · exact .inl ⟨hnone, fun w => rfl⟩
    · exact .inr ⟨id, cls, now, g, hgrant, hg, fun w => rfl, fun w => rfl⟩
  | advanceEpoch =>
    cases h
    exact .inl ⟨rfl, consecutive_advanceEpoch s⟩
  | submitPostActionEvidence input =>
    cases h
    exact .inl ⟨rfl, consecutive_submit s input⟩
  | load => exact absurd rfl hop
  | _ => exact .inl ⟨rfl, consecutive_of_fairness ((step_frame h).fairness rfl)⟩

/-! ## The cap -/

/-- Whatever class is asked for, the target of a grant is below the cap. -/
theorem Granted.below_cap {s : GovernorState} {id : ConflictId} {cls : InterventionClass}
    {now : TimeMs} {g : Grant} (h : Granted s id cls now g)
    (hpos : s.engine.policy.maxConsecutiveInterventionsPerWorkload ≠ 0) :
    consecutive s g.target < s.engine.policy.maxConsecutiveInterventionsPerWorkload := by
  have hnone := (feasible_iff.mp h.feasible).2.2
  unfold fairnessRefusals at hnone
  unfold consecutive
  cases hrecord : s.engine.fairness.find g.target with
  | none =>
    rw [UInt32.lt_iff_toNat_lt]
    exact Nat.pos_of_ne_zero fun hzero => hpos (UInt32.toNat_inj.mp hzero)
  | some fr =>
    rw [hrecord] at hnone
    dsimp only at hnone
    split_ifs at hnone with hcap
    exact UInt32.not_le.mp hcap

/-- The count of the workload is this one, and within a cap that is not zero. -/
structure Targeted (w : WorkloadId) (cap : UInt32) (s : GovernorState) (n : ℕ) : Prop where
  exactly : (consecutive s w).toNat = n
  within : consecutive s w ≤ cap
  positive : cap ≠ 0
  policy : s.engine.policy.maxConsecutiveInterventionsPerWorkload = cap

theorem step_maxConsecutive {s s' : GovernorState} {op : Op} (h : step s op = some s')
    (hop : op.keepsPolicy) : s'.engine.policy.maxConsecutiveInterventionsPerWorkload =
      s.engine.policy.maxConsecutiveInterventionsPerWorkload := by
  rcases step_policy h hop with ⟨-, hpolicy⟩ | ⟨id, cls, now, g, -, -, -, hpolicy⟩
  · rw [hpolicy]
  · rw [hpolicy]
    rfl

theorem step_targeted {w : WorkloadId} {cap : UInt32} {s s' : GovernorState} {op : Op} {n : ℕ}
    (hs : Targeted w cap s n) (hop : op.keepsPolicy) (h : step s op = some s') :
    Targeted w cap s' ((if clears w s op then 0 else n) + if targets w s op then 1 else 0) := by
  have hload : ¬op.isLoad := by
    cases op with
    | load => cases hop
    | _ => exact Bool.false_ne_true
  have hpolicy := (step_maxConsecutive h hop).trans hs.policy
  rcases step_consecutive h hload with ⟨hnone, hafter⟩ | ⟨id, cls, now, g, hgrant, hg, hkeep, hafter⟩
  · have htargets : targets w s op = false := by simp [targets, hnone]
    simp only [htargets, Bool.false_eq_true, if_false, Nat.add_zero]
    refine ⟨?_, ?_, hs.positive, hpolicy⟩
    · rw [hafter]
      split_ifs
      · rfl
      · exact hs.exactly
    · rw [hafter]
      split_ifs
      · rw [UInt32.le_iff_toNat_le]
        exact Nat.zero_le _
      · exact hs.within
  · have htargets : targets w s op = decide (g.target = w) := by simp [targets, hgrant]
    rw [hkeep, htargets]
    by_cases hw : g.target = w
    · have hbelow := hg.below_cap (by rw [hs.policy]; exact hs.positive)
      rw [hw, hs.policy, UInt32.lt_iff_toNat_lt] at hbelow
      have hcap := cap.toNat_lt
      have hone : (1 : UInt32).toNat = 1 := rfl
      have htop : (0xFFFFFFFF : UInt32).toNat = 2 ^ 32 - 1 := rfl
      -- Below a 32-bit cap the count is not saturated.
      have hne : consecutive s w ≠ 0xFFFFFFFF := by
        intro heq
        rw [heq, htop] at hbelow
        omega
      have hadd : (consecutive s' w).toNat = (consecutive s w).toNat + 1 := by
        rw [hafter, consecutive_commitGrant, if_pos hw, if_neg hne, UInt32.toNat_add, hone]
        omega
      refine ⟨?_, ?_, hs.positive, hpolicy⟩
      · simp [hadd, hs.exactly, hw]
      · rw [UInt32.le_iff_toNat_le, hadd]
        exact hbelow
    · have hsame : consecutive s' w = consecutive s w := by
        rw [hafter, consecutive_commitGrant, if_neg hw]
      refine ⟨?_, by rw [hsame]; exact hs.within, hs.positive, hpolicy⟩
      simp [hsame, hs.exactly, hw]

/-- In every run from the empty governor whose one policy is set first, the consecutive
interventions of a workload are the authorizations on it since its last reset, and at most
the cap. -/
theorem targeting_bounded {p : ContentionPolicy} {t : GovernorState} {ops : List Op}
    (hp : (validatePolicy p).isOk) (hops : ∀ op ∈ ops, op.keepsPolicy)
    (hrun : Runs.exec step {} (.setPolicy p :: ops) = some t) (w : WorkloadId) :
    (consecutive t w).toNat =
        Runs.countSince step (clears w) (targets w) {} (.setPolicy p :: ops) 0 ∧
      consecutive t w ≤ p.maxConsecutiveInterventionsPerWorkload := by
  obtain ⟨s, hs, hrun⟩ := Runs.exec_cons.mp hrun
  have hset : s = (setPolicy p {}).2 := (Option.some.inj hs).symm
  have hpolicy : s.engine.policy = p := by rw [hset, setPolicy_policy {} hp]
  have hfairness : s.engine.fairness = .empty := by
    obtain ⟨_, _, hframe⟩ := setPolicy_frame p {}
    rw [hset, hframe]
  have hpositive := (validatePolicy_valid hp).consecutive
  have hstart : Targeted w p.maxConsecutiveInterventionsPerWorkload s 0 := by
    have hzero : consecutive s w = 0 := by
      rw [consecutive, hfairness]
      rfl
    refine ⟨by rw [hzero]; rfl, ?_, hpositive, by rw [hpolicy]⟩
    rw [hzero, UInt32.le_iff_toNat_le]
    exact Nat.zero_le _
  have hguard : Runs.Guarded step (fun _ op => op.keepsPolicy) s ops :=
    Runs.guarded_of_forall hops
  have hcounts : Targeted w p.maxConsecutiveInterventionsPerWorkload t
      (Runs.countSince step (clears w) (targets w) s ops 0) :=
    Runs.countSince_of_guarded (fun _ _ _ _ => step_targeted) hguard hrun hstart
  refine ⟨?_, hcounts.within⟩
  rw [hcounts.exactly, Runs.countSince, hs]
  rfl

theorem targeting_bounded_throttle :
    (consecutive (reached ([.setPolicy {}] ++ throttleNeighbor)) ⟨2⟩).toNat =
        Runs.countSince step (clears ⟨2⟩) (targets ⟨2⟩) {}
          ([.setPolicy {}] ++ throttleNeighbor) 0 ∧
      consecutive (reached ([.setPolicy {}] ++ throttleNeighbor)) ⟨2⟩ ≤ 3 :=
  have hp : (validatePolicy {}).isOk := by decide +kernel
  have hops : ∀ op ∈ throttleNeighbor, op.keepsPolicy := by decide
  have hrun := @exec_reached ([.setPolicy {}] ++ throttleNeighbor) (by decide +kernel)
  targeting_bounded hp hops hrun ⟨2⟩

end ContentionGovernor
