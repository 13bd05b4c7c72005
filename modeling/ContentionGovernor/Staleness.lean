import ContentionGovernor.Completion

/-!
# Stale fences

A fence that the authority has moved past stays behind as long as no operation takes a
generation back.  The operations that install generations do not check that.
-/

namespace ContentionGovernor

/-! ## Generations that only advance -/

/-- What is registered stays registered, at the same value or a higher one. -/
def Registers {α : Type} [LE α] (old new : Option α) : Prop := ∀ x ∈ old, ∃ y ∈ new, x ≤ y

instance {α : Type} [LE α] [DecidableLE α] (old new : Option α) :
    Decidable (Registers old new) := inferInstanceAs (Decidable (∀ x ∈ old, _))

/-- The second authority follows the first: no generation that a fence for the workload
holds is lower or forgotten. -/
structure AuthorityLe (a b : AuthorityContext) (w : WorkloadId) : Prop where
  coordinatorEpoch : a.coordinatorEpoch ≤ b.coordinatorEpoch
  governorGeneration : a.governorGeneration ≤ b.governorGeneration
  policyGeneration : a.policyGeneration ≤ b.policyGeneration
  sloGeneration : a.sloGeneration ≤ b.sloGeneration
  valueGeneration : a.valueGeneration ≤ b.valueGeneration
  fairnessGeneration : a.fairnessGeneration ≤ b.fairnessGeneration
  resourceGeneration : a.resourceGeneration ≤ b.resourceGeneration
  placementGeneration : a.placementGeneration ≤ b.placementGeneration
  topologyGeneration : a.topologyGeneration ≤ b.topologyGeneration
  workloadGeneration : Registers (a.workloadGenerations.find w) (b.workloadGenerations.find w)
  workerBoot : Registers (a.workloadBoots.find w) (b.workloadBoots.find w)

instance (a b : AuthorityContext) (w : WorkloadId) : Decidable (AuthorityLe a b w) :=
  decidable_of_iff (a.coordinatorEpoch ≤ b.coordinatorEpoch ∧
      a.governorGeneration ≤ b.governorGeneration ∧ a.policyGeneration ≤ b.policyGeneration ∧
      a.sloGeneration ≤ b.sloGeneration ∧ a.valueGeneration ≤ b.valueGeneration ∧
      a.fairnessGeneration ≤ b.fairnessGeneration ∧
      a.resourceGeneration ≤ b.resourceGeneration ∧
      a.placementGeneration ≤ b.placementGeneration ∧
      a.topologyGeneration ≤ b.topologyGeneration ∧
      Registers (a.workloadGenerations.find w) (b.workloadGenerations.find w) ∧
      Registers (a.workloadBoots.find w) (b.workloadBoots.find w))
    ⟨fun ⟨h₁, h₂, h₃, h₄, h₅, h₆, h₇, h₈, h₉, h₁₀, h₁₁⟩ =>
        ⟨h₁, h₂, h₃, h₄, h₅, h₆, h₇, h₈, h₉, h₁₀, h₁₁⟩,
      fun ⟨h₁, h₂, h₃, h₄, h₅, h₆, h₇, h₈, h₉, h₁₀, h₁₁⟩ =>
        ⟨h₁, h₂, h₃, h₄, h₅, h₆, h₇, h₈, h₉, h₁₀, h₁₁⟩⟩

theorem AuthorityLe.refl (a : AuthorityContext) (w : WorkloadId) : AuthorityLe a a w :=
  ⟨le_rfl, le_rfl, le_rfl, le_rfl, le_rfl, le_rfl, le_rfl, le_rfl, le_rfl,
    fun x hx => ⟨x, hx, le_rfl⟩, fun x hx => ⟨x, hx, le_rfl⟩⟩

/-- The fence is nowhere ahead of the authority. -/
structure Behind (a : AuthorityContext) (f : Fence) (w : WorkloadId) : Prop where
  coordinatorEpoch : f.coordinatorEpoch ≤ a.coordinatorEpoch
  governorGeneration : f.governorGeneration ≤ a.governorGeneration
  policyGeneration : f.policyGeneration ≤ a.policyGeneration
  sloGeneration : f.sloGeneration ≤ a.sloGeneration
  valueGeneration : f.valueGeneration ≤ a.valueGeneration
  fairnessGeneration : f.fairnessGeneration ≤ a.fairnessGeneration
  resourceGeneration : f.resourceGeneration ≤ a.resourceGeneration
  placementGeneration : f.placementGeneration ≤ a.placementGeneration
  topologyGeneration : f.topologyGeneration ≤ a.topologyGeneration
  workloadGeneration : ∃ g, a.workloadGenerations.find w = some g ∧ f.workloadGeneration ≤ g
  workerBoot : ∃ boot, a.workloadBoots.find w = some boot ∧ f.workerBoot ≤ boot

theorem Fresh.behind {a : AuthorityContext} {f : Fence} {w : WorkloadId} (h : Fresh a f w) :
    Behind a f w :=
  ⟨h.coordinatorEpoch.le, h.governorGeneration.le, h.policyGeneration.le, h.sloGeneration.le,
    h.valueGeneration.le, h.fairnessGeneration.le, h.resourceGeneration.le,
    h.placementGeneration.le, h.topologyGeneration.le, ⟨_, h.workloadGeneration, le_rfl⟩,
    ⟨_, h.workerBoot, le_rfl⟩⟩

theorem Registers.above {α : Type} [Preorder α] {old new : Option α} {x : α}
    (h : Registers old new) (hx : ∃ y, old = some y ∧ x ≤ y) : ∃ y, new = some y ∧ x ≤ y := by
  obtain ⟨y, hy, hxy⟩ := hx
  obtain ⟨z, hz, hyz⟩ := h y hy
  exact ⟨z, hz, hxy.trans hyz⟩

theorem Behind.mono {a b : AuthorityContext} {f : Fence} {w : WorkloadId} (h : Behind a f w)
    (hle : AuthorityLe a b w) : Behind b f w where
  coordinatorEpoch := h.coordinatorEpoch.trans hle.coordinatorEpoch
  governorGeneration := h.governorGeneration.trans hle.governorGeneration
  policyGeneration := h.policyGeneration.trans hle.policyGeneration
  sloGeneration := h.sloGeneration.trans hle.sloGeneration
  valueGeneration := h.valueGeneration.trans hle.valueGeneration
  fairnessGeneration := h.fairnessGeneration.trans hle.fairnessGeneration
  resourceGeneration := h.resourceGeneration.trans hle.resourceGeneration
  placementGeneration := h.placementGeneration.trans hle.placementGeneration
  topologyGeneration := h.topologyGeneration.trans hle.topologyGeneration
  workloadGeneration := hle.workloadGeneration.above h.workloadGeneration
  workerBoot := hle.workerBoot.above h.workerBoot

/-- What is registered between a lower bound and itself is that bound. -/
theorem Registers.squeeze {α : Type} [PartialOrder α] {old new : Option α} {x : α}
    (h : Registers old new) (hx : ∃ y, old = some y ∧ x ≤ y) (hnew : new = some x) :
    old = some x := by
  obtain ⟨y, hy, hxy⟩ := hx
  obtain ⟨z, hz, hyz⟩ := h y hy
  rw [hnew, Option.mem_def, Option.some.injEq] at hz
  rw [hy, hxy.antisymm (hz ▸ hyz)]

/-- A fence that is current later, and behind now, is current now. -/
theorem Fresh.of_later {a b : AuthorityContext} {f : Fence} {w : WorkloadId}
    (h : Fresh b f w) (hbehind : Behind a f w) (hle : AuthorityLe a b w) : Fresh a f w where
  coordinatorEpoch :=
    hbehind.coordinatorEpoch.antisymm (h.coordinatorEpoch ▸ hle.coordinatorEpoch)
  governorGeneration :=
    hbehind.governorGeneration.antisymm (h.governorGeneration ▸ hle.governorGeneration)
  policyGeneration :=
    hbehind.policyGeneration.antisymm (h.policyGeneration ▸ hle.policyGeneration)
  sloGeneration := hbehind.sloGeneration.antisymm (h.sloGeneration ▸ hle.sloGeneration)
  valueGeneration := hbehind.valueGeneration.antisymm (h.valueGeneration ▸ hle.valueGeneration)
  fairnessGeneration :=
    hbehind.fairnessGeneration.antisymm (h.fairnessGeneration ▸ hle.fairnessGeneration)
  resourceGeneration :=
    hbehind.resourceGeneration.antisymm (h.resourceGeneration ▸ hle.resourceGeneration)
  placementGeneration :=
    hbehind.placementGeneration.antisymm (h.placementGeneration ▸ hle.placementGeneration)
  topologyGeneration :=
    hbehind.topologyGeneration.antisymm (h.topologyGeneration ▸ hle.topologyGeneration)
  workloadGeneration :=
    hle.workloadGeneration.squeeze hbehind.workloadGeneration h.workloadGeneration
  workerBoot := hle.workerBoot.squeeze hbehind.workerBoot h.workerBoot

/-! ## What an operation installs -/

/-- The authority that an operation leaves in force. -/
def Op.authority (s : GovernorState) : Op → AuthorityContext
  | .setPolicy p =>
    if (validatePolicy p).isOk then
      { s.engine.authority with policyGeneration := p.generation }
    else s.engine.authority
  | .setAuthority a => a
  | .recordWorkerBoot w boot =>
    { s.engine.authority with
      workloadBoots := s.engine.authority.workloadBoots.insert w boot }
  | .recordWorkloadGeneration w g =>
    { s.engine.authority with
      workloadGenerations := s.engine.authority.workloadGenerations.insert w g }
  | .advanceEpoch =>
    { s.engine.authority with
      coordinatorEpoch := s.engine.authority.coordinatorEpoch.advance }
  | _ => s.engine.authority

theorem step_authority {s s' : GovernorState} {op : Op} (h : step s op = some s')
    (hload : ¬op.isLoad) : s'.engine.authority = op.authority s := by
  cases op with
  | setPolicy p =>
    cases h
    unfold setPolicy Op.authority
    by_cases hv : (validatePolicy p).isOk
    · simp only [hv, not_true_eq_false, if_false, if_true]
    · simp only [hv, not_false_eq_true, if_true, if_false, Bool.false_eq_true]
  | setAuthority | recordWorkerBoot | recordWorkloadGeneration | advanceEpoch =>
    cases h
    rfl
  | load => exact absurd rfl hload
  | _ => exact (step_frame h).authority rfl

/-- For every workload that has been acted on, the operation takes no generation back that
its fences hold, nor its registered generation or boot. -/
def Advances (s : GovernorState) (op : Op) : Prop :=
  ¬op.isLoad ∧ ∀ entry ∈ s.engine.fairness.entries,
    AuthorityLe s.engine.authority (op.authority s) entry.1

instance (s : GovernorState) (op : Op) : Decidable (Advances s op) :=
  inferInstanceAs (Decidable (_ ∧ ∀ entry ∈ s.engine.fairness.entries, _))

/-- The workload has been acted on: it has a fairness record. -/
def ActedOn (s : GovernorState) (w : WorkloadId) : Prop :=
  ∃ fr, s.engine.fairness.find w = some fr

theorem Advances.le {s : GovernorState} {op : Op} (h : Advances s op) {w : WorkloadId}
    (hw : ActedOn s w) : AuthorityLe s.engine.authority (op.authority s) w := by
  obtain ⟨fr, hfr⟩ := hw
  exact h.2 (w, fr) (OrderedMap.mem_entries.mpr hfr)

/-- A step takes no fairness record away. -/
theorem step_actedOn {s s' : GovernorState} {op : Op} (h : step s op = some s')
    (hload : ¬op.isLoad) {w : WorkloadId} (hw : ActedOn s w) : ActedOn s' w := by
  obtain ⟨fr, hfr⟩ := hw
  unfold ActedOn
  cases op with
  | authorize | authorizeAndDispatch =>
    rcases step_of_request h rfl with ⟨-, rfl⟩ | ⟨g, -, -, _, _, rfl⟩
    · exact ⟨fr, hfr⟩
    · simp only [commitGrant, OrderedMap.find_insert]
      split_ifs
      · exact ⟨_, rfl⟩
      · exact ⟨fr, hfr⟩
  | advanceEpoch =>
    cases h
    simp only [advanceEpoch, OrderedMap.find_mapValues, hfr, Option.map_some]
    exact ⟨_, rfl⟩
  | submitPostActionEvidence input =>
    cases h
    rw [find_fairness_submit, hfr]
    exact ⟨_, rfl⟩
  | load => exact absurd rfl hload
  | _ =>
    rw [(step_frame h).fairness rfl]
    exact ⟨fr, hfr⟩

theorem actedOn_target {s s' : GovernorState} {op : Op} (h : step s op = some s')
    {id : ConflictId} {cls : InterventionClass} {now : TimeMs} {g : Grant}
    (hreq : op.request = some (id, cls, now)) (hgrant : op.grant s = some g) :
    ActedOn s' g.target := by
  rcases step_of_request h hreq with ⟨hnone, -⟩ | ⟨g', hg', -, _, _, rfl⟩
  · rw [hgrant] at hnone
    cases hnone
  · rw [hgrant, Option.some.injEq] at hg'
    rw [hg']
    exact ⟨_, OrderedMap.find_insert_self ..⟩

/-! ## Runs -/

/-- Every recorded intervention has acted on its target, and is fenced nowhere ahead of the
authority. -/
def FencesBehind (s : GovernorState) : Prop :=
  ∀ id r, s.engine.interventions.find id = some r →
    ActedOn s r.target ∧ Behind s.engine.authority r.fence r.target

theorem step_fencesBehind {s s' : GovernorState} {op : Op} (hs : FencesBehind s)
    (hop : Advances s op) (h : step s op = some s') : FencesBehind s' := by
  intro id r' hr'
  rw [step_authority h hop.1]
  rcases record_before h hop.1 hr' with ⟨r, hr, hsame, -⟩ |
    ⟨cid, cls, now, g, hreq, hgrant, hg, -, hsame, -⟩
  · obtain ⟨hacted, hbehind⟩ := hs id r hr
    rw [hsame.fence, hsame.target]
    exact ⟨step_actedOn h hop.1 hacted, hbehind.mono (hop.le hacted)⟩
  · -- A grant is fenced under the authority that it leaves in force.
    rw [hsame.fence, hsame.target]
    have hauthority : op.authority s = s.engine.authority := by
      cases op with
      | authorize | authorizeAndDispatch => rfl
      | _ => cases hreq
    refine ⟨actedOn_target h hreq hgrant, ?_⟩
    rw [hauthority]
    exact (fresh_of_revalidate hg.valid).behind

/-- Once the fence of an intervention has failed revalidation, it fails in every later state
of the run, and no dispatch gets the intervention past its checks. -/
def StaleForGood (ops : List Op) : Prop :=
  ∀ pre mid post s t id r, ops = pre ++ mid ++ post → Runs.exec step {} pre = some s →
    Runs.exec step s mid = some t → s.engine.interventions.find id = some r →
    (revalidate s.engine r.fence r.target).code ≠ .ok →
    (revalidate t.engine r.fence r.target).code ≠ .ok ∧
      ∀ r' now ticket, t.engine.interventions.find id = some r' → SameAction r r' →
        (dispatchBegin id now t).1 ≠ .ok ticket

/-- In a run from the empty governor in which no operation takes a generation of an acted-on
workload back, a stale fence is stale for good. -/
theorem staleness_permanent (ops : List Op) (hops : Runs.Guarded step Advances {} ops) :
    StaleForGood ops := by
  rintro pre mid post s t id r rfl hpre hmid hr hstale
  obtain ⟨hbefore, hafter⟩ := hops.append.1.append
  have hempty : FencesBehind {} := by
    intro id r hr
    cases hr
  have hs : FencesBehind s :=
    Runs.invariant_of_guarded (fun _ _ _ => step_fencesBehind) hbefore hpre hempty
  obtain ⟨hacted, hbehind⟩ := hs id r hr
  have hstep : ∀ u op u', (ActedOn u r.target ∧ Behind u.engine.authority r.fence r.target ∧
      ¬Fresh u.engine.authority r.fence r.target) → Advances u op → step u op = some u' →
      (ActedOn u' r.target ∧ Behind u'.engine.authority r.fence r.target ∧
        ¬Fresh u'.engine.authority r.fence r.target) := by
    rintro u op u' ⟨hu, hub, hunfresh⟩ hop hstep
    have hle := hop.le hu
    rw [step_authority hstep hop.1]
    exact ⟨step_actedOn hstep hop.1 hu, hub.mono hle, fun hf => hunfresh (hf.of_later hub hle)⟩
  have hend := Runs.invariant_of_guarded hstep (hafter s hpre) hmid
    ⟨hacted, hbehind, fun hf => hstale (revalidate_iff.mpr hf)⟩
  refine ⟨fun hvalid => hend.2.2 (revalidate_iff.mp hvalid), ?_⟩
  intro r' now ticket hr' hsame hbegin
  obtain ⟨r'', hr'', -, hfresh⟩ := record_of_begin hbegin
  rw [hr', Option.some.injEq] at hr''
  rw [← hr'', hsame.fence, hsame.target] at hfresh
  exact hend.2.2 hfresh

/-- The worker of the throttled workload restarts twice. -/
def restartedTwice : List Op :=
  throttleNeighbor ++ [.recordWorkerBoot ⟨2⟩ ⟨2⟩, .recordWorkerBoot ⟨2⟩ ⟨3⟩]

theorem staleness_permanent_restarted : StaleForGood restartedTwice :=
  staleness_permanent restartedTwice (by decide +kernel)

/-- The worker restarts, and its earlier process announces its boot once more. -/
def announcedAgain : List Op :=
  throttleNeighbor ++ [.recordWorkerBoot ⟨2⟩ ⟨2⟩] ++ [.recordWorkerBoot ⟨2⟩ ⟨1⟩]

theorem announced_boot_revives : ¬∀ ops, (∀ op ∈ ops, ¬op.isLoad) → StaleForGood ops := by
  intro h
  have hpre := @exec_reached (throttleNeighbor ++ [.recordWorkerBoot ⟨2⟩ ⟨2⟩]) (by decide +kernel)
  have hstale : ((reached (throttleNeighbor ++ [.recordWorkerBoot ⟨2⟩ ⟨2⟩])).engine
      |>.interventions.find ⟨1⟩).map (fun r => decide ((revalidate (reached (throttleNeighbor ++
        [.recordWorkerBoot ⟨2⟩ ⟨2⟩])).engine r.fence r.target).code = .ok)) = some false := by
    decide +kernel
  have hrevived : ((reached (throttleNeighbor ++ [.recordWorkerBoot ⟨2⟩ ⟨2⟩])).engine
      |>.interventions.find ⟨1⟩).map (fun r => decide ((revalidate (recordWorkerBoot ⟨2⟩ ⟨1⟩
        (reached (throttleNeighbor ++ [.recordWorkerBoot ⟨2⟩ ⟨2⟩]))).2.engine r.fence
          r.target).code = .ok)) = some true := by
    decide +kernel
  have hforGood := h announcedAgain (by decide)
  unfold announcedAgain at hforGood
  generalize reached (throttleNeighbor ++ [.recordWorkerBoot ⟨2⟩ ⟨2⟩]) = s
    at hpre hstale hrevived
  obtain ⟨r, hr, hbefore⟩ := Option.map_eq_some_iff.mp hstale
  rw [hr, Option.map_some, Option.some.injEq] at hrevived
  have hend := hforGood _ [.recordWorkerBoot ⟨2⟩ ⟨1⟩] [] s _ ⟨1⟩ r (List.append_nil _).symm hpre
    rfl hr (of_decide_eq_false hbefore)
  exact hend.1 (of_decide_eq_true hrevived)

end ContentionGovernor
