import ContentionGovernor.ActionBudget
import ContentionGovernor.FenceSafety

/-!
# The policy behind a fence

A fence names the policy of its authorization by a generation.  Where no generation comes
back, the policy in force at a dispatch is the one that permitted the action.
-/

namespace ContentionGovernor

/-- No refusal of the policy switch applies to the class on the workload. -/
def Permits (p : ContentionPolicy) (w : WorkloadId) (cls : InterventionClass) : Prop :=
  policyRefusals p (workloadPolicyFor p w) cls = []

/-- The policy that an operation puts in force. -/
def Op.installed : Op → Option ContentionPolicy
  | .setPolicy p => if (validatePolicy p).isOk then some p else none
  | _ => none

/-- The generations of the policies that a run puts in force. -/
def installedGenerations (ops : List Op) : List PolicyGeneration :=
  ops.filterMap fun op => op.installed.map (·.generation)

/-- No policy in force in the run, the first one included, shares its generation. -/
def NewGenerations (ops : List Op) : Prop :=
  (({} : GovernorState).engine.policy.generation :: installedGenerations ops).Nodup

/-- An authority that is set names the policy in force. -/
def NamesPolicy (s : GovernorState) : Op → Prop
  | .setAuthority a => a.policyGeneration = s.engine.policy.generation
  | _ => True

instance (s : GovernorState) : (op : Op) → Decidable (NamesPolicy s op)
  | .setAuthority _ => inferInstanceAs (Decidable (_ = _))
  | .setPolicy _ | .recordWorkerBoot _ _ | .recordWorkloadGeneration _ _ | .advanceEpoch
  | .ingestEvidence _ | .evaluate _ | .authorize _ _ _ | .dispatch _ _ _
  | .authorizeAndDispatch _ _ _ _ _ | .onAcknowledge _ _ _ | .onActionFailed _ _ _
  | .submitPostActionEvidence _ | .save | .load _ _ _ => .isTrue trivial

/-- A grant charges the budget, on which no refusal depends. -/
theorem permits_chargePolicy {p : ContentionPolicy} {b : ActionBudget} {w : WorkloadId}
    {cls : InterventionClass} : Permits { p with budget := b } w cls ↔ Permits p w cls := by
  have hworkload : workloadPolicyFor { p with budget := b } w = workloadPolicyFor p w := rfl
  unfold Permits
  rw [hworkload]
  cases cls <;> rfl

theorem Granted.permits {s : GovernorState} {id : ConflictId} {cls : InterventionClass}
    {now : TimeMs} {g : Grant} (h : Granted s id cls now g) :
    Permits s.engine.policy g.target g.cls := (feasible_iff.mp h.feasible).2.1

/-! ## Generations -/

/-- The record's policy generation is one of those used, and while it is in force the policy
permits the action. -/
structure PermittedBy (p : ContentionPolicy) (used : List PolicyGeneration)
    (r : InterventionRecord) : Prop where
  used : r.fence.policyGeneration ∈ used
  permits : r.fence.policyGeneration = p.generation → Permits p r.target r.cls

structure AllPermitted (s : GovernorState) (used : List PolicyGeneration) : Prop where
  inForce : s.engine.policy.generation ∈ used
  named : s.engine.authority.policyGeneration = s.engine.policy.generation
  records : ∀ id r, s.engine.interventions.find id = some r →
    PermittedBy s.engine.policy used r

theorem PermittedBy.of_same {p : ContentionPolicy} {used : List PolicyGeneration}
    {r r' : InterventionRecord} (h : PermittedBy p used r) (hsame : SameAction r r') :
    PermittedBy p used r' := by
  constructor
  · rw [hsame.fence]
    exact h.used
  · rw [hsame.fence, hsame.target, hsame.cls]
    exact h.permits

theorem PermittedBy.charge {p : ContentionPolicy} {used : List PolicyGeneration}
    {r : InterventionRecord} (h : PermittedBy p used r) (b : ActionBudget) :
    PermittedBy { p with budget := b } used r :=
  ⟨h.used, fun hgeneration => permits_chargePolicy.mpr (h.permits hgeneration)⟩

/-- A grant is permitted by the policy that its fence names. -/
theorem permittedBy_grant {s : GovernorState} {used : List PolicyGeneration} {id : ConflictId}
    {cls : InterventionClass} {now : TimeMs} {g : Grant} (hs : AllPermitted s used)
    (h : Granted s id cls now g) : PermittedBy s.engine.policy used (grantRecord s id g now) := by
  have hfresh := fresh_of_revalidate h.valid
  refine ⟨?_, fun _ => h.permits⟩
  have hgeneration : (grantRecord s id g now).fence.policyGeneration =
      s.engine.policy.generation := hfresh.policyGeneration.trans hs.named
  rw [hgeneration]
  exact hs.inForce

/-- The generation that the authority names, after an operation other than set_policy. -/
theorem step_named {s s' : GovernorState} {op : Op} (h : step s op = some s')
    (hop : op.keepsPolicy) (hnames : NamesPolicy s op)
    (hnamed : s.engine.authority.policyGeneration = s.engine.policy.generation) :
    s'.engine.authority.policyGeneration = s.engine.policy.generation := by
  cases op with
  | setPolicy | load => cases hop
  | setAuthority a =>
    cases h
    exact hnames
  | recordWorkerBoot | recordWorkloadGeneration | advanceEpoch =>
    cases h
    exact hnamed
  | _ => rw [(step_frame h).authority rfl, hnamed]

theorem permitted_setPolicy {s : GovernorState} {used : List PolicyGeneration}
    {p : ContentionPolicy} (hs : AllPermitted s used)
    (hnew : ∀ q, (Op.setPolicy p).installed = some q → q.generation ∉ used) :
    AllPermitted (setPolicy p s).2 (used ++ installedGenerations [.setPolicy p]) := by
  by_cases hv : (validatePolicy p).isOk
  · have hinstalled : (Op.setPolicy p).installed = some p := if_pos hv
    have hgenerations : installedGenerations [.setPolicy p] = [p.generation] := by
      simp [installedGenerations, hinstalled]
    rw [hgenerations, setPolicy, if_neg (not_not.mpr hv)]
    refine ⟨by simp, rfl, fun id r hr => ?_⟩
    have hused := (hs.records id r hr).used
    refine ⟨List.mem_append_left _ hused, fun hgeneration => ?_⟩
    -- No record can have the generation of a policy that is new.
    exact absurd (hgeneration ▸ hused) (hnew p hinstalled)
  · have hgenerations : installedGenerations [.setPolicy p] = [] := by
      simp [installedGenerations, Op.installed, hv]
    rw [hgenerations, List.append_nil, setPolicy, if_pos hv]
    exact hs

theorem step_permitted {s s' : GovernorState} {op : Op} {used : List PolicyGeneration}
    (hs : AllPermitted s used) (hload : ¬op.isLoad) (hnames : NamesPolicy s op)
    (hnew : ∀ p, op.installed = some p → p.generation ∉ used) (h : step s op = some s') :
    AllPermitted s' (used ++ installedGenerations [op]) := by
  by_cases hop : op.keepsPolicy
  · have hgenerations : installedGenerations [op] = [] := by
      cases op with
      | setPolicy | load => cases hop
      | _ => rfl
    rw [hgenerations, List.append_nil]
    have hbefore : ∀ id r', s'.engine.interventions.find id = some r' →
        PermittedBy s.engine.policy used r' := by
      intro id r' hr'
      rcases record_before h hload hr' with ⟨r, hr, hsame, -⟩ |
        ⟨cid, cls, now, g, -, -, hg, -, hsame, -⟩
      · exact (hs.records id r hr).of_same hsame
      · exact (permittedBy_grant hs hg).of_same hsame
    rcases step_policy h hop with ⟨-, hpolicy⟩ | ⟨_, _, _, _, -, -, -, hpolicy⟩
    · refine ⟨by rw [hpolicy]; exact hs.inForce, ?_, ?_⟩
      · rw [hpolicy]
        exact step_named h hop hnames hs.named
      · rw [hpolicy]
        exact hbefore
    · refine ⟨by rw [hpolicy]; exact hs.inForce, ?_, ?_⟩
      · rw [hpolicy]
        exact step_named h hop hnames hs.named
      · rw [hpolicy]
        exact fun id r hr => (hbefore id r hr).charge _
  · cases op with
    | setPolicy p =>
      cases h
      exact permitted_setPolicy hs hnew
    | load => exact absurd rfl hload
    | _ => exact absurd rfl hop

theorem exec_permitted {s t : GovernorState} {ops : List Op} {used : List PolicyGeneration}
    (hs : AllPermitted s used) (hload : ∀ op ∈ ops, ¬op.isLoad)
    (hnames : Runs.Guarded step NamesPolicy s ops)
    (hnew : (used ++ installedGenerations ops).Nodup) (hrun : Runs.exec step s ops = some t) :
    AllPermitted t (used ++ installedGenerations ops) := by
  induction ops generalizing s used with
  | nil =>
    cases hrun
    simpa [installedGenerations] using hs
  | cons op ops ih =>
    obtain ⟨s', hs', hrun⟩ := Runs.exec_cons.mp hrun
    have hsplit : used ++ installedGenerations (op :: ops) =
        used ++ installedGenerations [op] ++ installedGenerations ops := by
      rw [List.append_assoc, installedGenerations, installedGenerations, installedGenerations,
        ← List.filterMap_append, List.singleton_append]
    rw [hsplit] at hnew ⊢
    refine ih (step_permitted hs (hload op List.mem_cons_self) hnames.1 ?_ hs')
      (fun o ho => hload o (List.mem_cons_of_mem _ ho)) (hnames.2 s' hs') hnew hrun
    intro p hp hused
    have hmem : p.generation ∈ installedGenerations [op] := by
      simp [installedGenerations, hp]
    exact (List.nodup_append.mp (List.nodup_append.mp hnew).1).2.2 _ hused _ hmem rfl

/-! ## Dispatches -/

/-- A class that preempts, replaces or migrates. -/
def movesWorkload : InterventionClass → Bool
  | .requestPreemption | .requestReplacement | .requestMigration => true
  | _ => false

theorem Permits.preemptible {p : ContentionPolicy} {w : WorkloadId} {cls : InterventionClass}
    (h : Permits p w cls) (hcls : movesWorkload cls) :
    (workloadPolicyFor p w).nonPreemptible = false := by
  by_contra hnon
  cases cls with
  | requestPreemption | requestReplacement | requestMigration =>
    simp [Permits, policyRefusals, hnon] at h
  | _ => cases hcls

theorem permits_of_begin {u : GovernorState} {used : List PolicyGeneration} {id : InterventionId}
    {now : TimeMs} {t : DispatchTicket} (hu : AllPermitted u used)
    (h : (dispatchBegin id now u).1 = .ok t) : Permits u.engine.policy t.target t.cls := by
  obtain ⟨r, hr, rfl, hfresh⟩ := record_of_begin h
  exact (hu.records id r hr).permits (hfresh.policyGeneration.trans hu.named)

/-- In a run from the empty governor without a load, where no policy generation comes back
and every authority names the policy in force, a dispatch that passes revalidation is
permitted by the policy in force; in particular it moves no non-preemptible workload. -/
theorem policy_fence_sufficient (ops : List Op) (op : Op) (s u : GovernorState)
    (id : InterventionId) (t : DispatchTicket) (hload : ∀ o ∈ ops ++ [op], ¬o.isLoad)
    (hnew : NewGenerations (ops ++ [op]))
    (hnames : Runs.Guarded step NamesPolicy {} (ops ++ [op]))
    (hrun : Runs.exec step {} ops = some s) (hadapter : InvokesAdapter s op id u t) :
    Permits u.engine.policy t.target t.cls ∧
      (movesWorkload t.cls →
        (workloadPolicyFor u.engine.policy t.target).nonPreemptible = false) := by
  have hstart : AllPermitted {} [({} : GovernorState).engine.policy.generation] := by
    refine ⟨List.mem_singleton_self _, rfl, fun id r hr => ?_⟩
    cases hr
  have hloads : ∀ o ∈ ops, ¬o.isLoad := fun o ho => hload o (List.mem_append_left _ ho)
  have hops : NewGenerations ops := by
    unfold NewGenerations installedGenerations at hnew ⊢
    rw [List.filterMap_append, ← List.cons_append] at hnew
    exact (List.nodup_append.mp hnew).1
  have hs := exec_permitted hstart hloads hnames.append.1 hops hrun
  have hpermits : Permits u.engine.policy t.target t.cls := by
    cases op with
    | dispatch j now adapters =>
      obtain ⟨rfl, rfl, hbegin⟩ := hadapter
      exact permits_of_begin hs hbegin
    | authorizeAndDispatch cid cls now now' adapters =>
      obtain ⟨-, hauthorize, hbegin⟩ := hadapter
      have hstep : step s (.authorize cid cls now) = some u := by
        rw [step, Op.run, hauthorize]
        rfl
      have hauthorizes : ¬(Op.authorize cid cls now).isLoad := Bool.false_ne_true
      have hu := step_permitted hs hauthorizes trivial (fun _ hp => by cases hp) hstep
      exact permits_of_begin hu hbegin
    | _ => exact hadapter.elim
  exact ⟨hpermits, hpermits.preemptible⟩

/-- The policy is replaced before the throttle is authorized under the second one. -/
def replacedPolicy : List Op :=
  [.setPolicy { generation := ⟨1⟩ }, .setPolicy { generation := ⟨2⟩ }] ++ throttleNeighbor

theorem policy_fence_sufficient_throttle :
    Permits (reached replacedPolicy).engine.policy ⟨2⟩ .throttle ∧
      (movesWorkload .throttle →
        (workloadPolicyFor (reached replacedPolicy).engine.policy ⟨2⟩).nonPreemptible = false) := by
  have hticket : (dispatchBegin ⟨1⟩ 1500 (reached replacedPolicy)).1.toOption =
      some ⟨⟨1⟩, .throttle, ⟨2⟩, ⟨1⟩⟩ := by decide +kernel
  have hnew : NewGenerations (replacedPolicy ++ [.dispatch ⟨1⟩ 1500 none]) := by
    unfold NewGenerations
    decide +kernel
  have hnames : Runs.Guarded step NamesPolicy {} (replacedPolicy ++ [.dispatch ⟨1⟩ 1500 none]) := by
    decide +kernel
  have hbegin : (dispatchBegin ⟨1⟩ 1500 (reached replacedPolicy)).1 =
      .ok ⟨⟨1⟩, .throttle, ⟨2⟩, ⟨1⟩⟩ := eq_ok_of_toOption hticket
  exact policy_fence_sufficient replacedPolicy (.dispatch ⟨1⟩ 1500 none) _ _ ⟨1⟩
    ⟨⟨1⟩, .throttle, ⟨2⟩, ⟨1⟩⟩ (by decide) hnew hnames (exec_reached (by decide +kernel))
    ⟨rfl, rfl, hbegin⟩

end ContentionGovernor
