import ContentionGovernor.Operations

/-!
# Fences over whole runs

A record that a dispatch acts on was made by one authorization of the run, and the
authority of that moment agrees with the authority of this one on everything the
fence holds.
-/

namespace ContentionGovernor

/-- What a passed revalidation says about the authority. -/
structure Fresh (a : AuthorityContext) (f : Fence) (w : WorkloadId) : Prop where
  coordinatorEpoch : f.coordinatorEpoch = a.coordinatorEpoch
  governorGeneration : f.governorGeneration = a.governorGeneration
  policyGeneration : f.policyGeneration = a.policyGeneration
  sloGeneration : f.sloGeneration = a.sloGeneration
  valueGeneration : f.valueGeneration = a.valueGeneration
  fairnessGeneration : f.fairnessGeneration = a.fairnessGeneration
  resourceGeneration : f.resourceGeneration = a.resourceGeneration
  placementGeneration : f.placementGeneration = a.placementGeneration
  topologyGeneration : f.topologyGeneration = a.topologyGeneration
  workloadGeneration : a.workloadGenerations.find w = some f.workloadGeneration
  workerBoot : a.workloadBoots.find w = some f.workerBoot

/-- One comparison of `revalidate`. -/
theorem check_passed {c : Prop} [Decidable c] {code : StatusCode} {message : ByteString}
    {rest : Status} (hcode : code ≠ .ok)
    (h : (if c then Status.bad code message else rest).code = .ok) : ¬c ∧ rest.code = .ok := by
  split_ifs at h with hc
  · exact absurd h hcode
  · exact ⟨hc, h⟩

/-- A default of zero in a fence matches no unregistered workload: a passed revalidation
has found the target's generation and boot. -/
theorem fresh_of_revalidate {s : EngineState} {f : Fence} {w : WorkloadId}
    (h : (revalidate s f w).code = .ok) : Fresh s.authority f w := by
  unfold revalidate at h
  have hne : StatusCode.staleAuthority ≠ .ok := StatusCode.noConfusion
  obtain ⟨hepoch, h⟩ := check_passed hne h
  obtain ⟨hgovernor, h⟩ := check_passed hne h
  obtain ⟨hpolicy, h⟩ := check_passed StatusCode.noConfusion h
  obtain ⟨hslo, h⟩ := check_passed hne h
  obtain ⟨hvalue, h⟩ := check_passed hne h
  obtain ⟨hfairness, h⟩ := check_passed hne h
  obtain ⟨hresource, h⟩ := check_passed hne h
  obtain ⟨hplacement, h⟩ := check_passed hne h
  obtain ⟨htopology, h⟩ := check_passed hne h
  obtain ⟨hgeneration, h⟩ := check_passed hne h
  obtain ⟨hboot, -⟩ := check_passed hne h
  exact ⟨not_not.mp hepoch, not_not.mp hgovernor, not_not.mp hpolicy, not_not.mp hslo,
    not_not.mp hvalue, not_not.mp hfairness, not_not.mp hresource, not_not.mp hplacement,
    not_not.mp htopology, not_not.mp hgeneration, not_not.mp hboot⟩

/-- Two authorities with the same nine generations, where the workload is registered with
the same boot and generation. -/
structure AuthorityAgrees (a b : AuthorityContext) (w : WorkloadId) : Prop where
  coordinatorEpoch : a.coordinatorEpoch = b.coordinatorEpoch
  governorGeneration : a.governorGeneration = b.governorGeneration
  policyGeneration : a.policyGeneration = b.policyGeneration
  sloGeneration : a.sloGeneration = b.sloGeneration
  valueGeneration : a.valueGeneration = b.valueGeneration
  fairnessGeneration : a.fairnessGeneration = b.fairnessGeneration
  resourceGeneration : a.resourceGeneration = b.resourceGeneration
  placementGeneration : a.placementGeneration = b.placementGeneration
  topologyGeneration : a.topologyGeneration = b.topologyGeneration
  workloadGeneration : ∃ g, a.workloadGenerations.find w = some g ∧
    b.workloadGenerations.find w = some g
  workerBoot : ∃ boot, a.workloadBoots.find w = some boot ∧ b.workloadBoots.find w = some boot

theorem Fresh.agrees {a b : AuthorityContext} {f : Fence} {w : WorkloadId} (ha : Fresh a f w)
    (hb : Fresh b f w) : AuthorityAgrees a b w where
  coordinatorEpoch := ha.coordinatorEpoch.symm.trans hb.coordinatorEpoch
  governorGeneration := ha.governorGeneration.symm.trans hb.governorGeneration
  policyGeneration := ha.policyGeneration.symm.trans hb.policyGeneration
  sloGeneration := ha.sloGeneration.symm.trans hb.sloGeneration
  valueGeneration := ha.valueGeneration.symm.trans hb.valueGeneration
  fairnessGeneration := ha.fairnessGeneration.symm.trans hb.fairnessGeneration
  resourceGeneration := ha.resourceGeneration.symm.trans hb.resourceGeneration
  placementGeneration := ha.placementGeneration.symm.trans hb.placementGeneration
  topologyGeneration := ha.topologyGeneration.symm.trans hb.topologyGeneration
  workloadGeneration := ⟨_, ha.workloadGeneration, hb.workloadGeneration⟩
  workerBoot := ⟨_, ha.workerBoot, hb.workerBoot⟩

/-! ## Where records come from -/

/-- No load, and the intervention counter below the top. -/
def CountsUp (s : GovernorState) (op : Op) : Prop :=
  ¬op.isLoad ∧ s.nextInterventionId.toNat < 2 ^ 64 - 1

instance (s : GovernorState) (op : Op) : Decidable (CountsUp s op) :=
  inferInstanceAs (Decidable (_ ∧ _))

/-- Every record has an id the counter has passed. -/
def IdsBelow (s : GovernorState) : Prop :=
  ∀ id r, s.engine.interventions.find id = some r →
    id.value.toNat < s.nextInterventionId.toNat

theorem toNat_add_one {n : UInt64} (h : n.toNat < 2 ^ 64 - 1) : (n + 1).toNat = n.toNat + 1 := by
  rw [UInt64.toNat_add, UInt64.toNat_one]
  omega

theorem step_idsBelow {s s' : GovernorState} {op : Op} (hs : IdsBelow s) (hop : CountsUp s op)
    (h : step s op = some s') : IdsBelow s' := by
  intro id r' hr'
  have hlt := toNat_add_one hop.2
  rcases step_interventions h hop.1 with ⟨hnext, hrel⟩ | ⟨g, new, -, -, hnext, hrel⟩
  · obtain ⟨r, hr, -⟩ := hrel.exists_left hr'
    rw [hnext]
    exact hs id r hr
  · obtain ⟨r, hr, -⟩ := hrel.exists_left hr'
    rw [hnext, hlt]
    rcases OrderedMap.find_insert_cases hr with ⟨rfl, -⟩ | ⟨-, hr⟩
    · exact Nat.lt_succ_self _
    · have := hs id r hr
      omega

/-- Class, target and fence of the record under an id. -/
def Holds (s : GovernorState) (id : InterventionId)
    (action : InterventionClass × WorkloadId × Fence) : Prop :=
  ∃ r, s.engine.interventions.find id = some r ∧ action = (r.cls, r.target, r.fence)

/-- The step makes the record of a grant with this class, target and fence. -/
def Makes (s : GovernorState) (op : Op) (_s' : GovernorState) (id : InterventionId)
    (action : InterventionClass × WorkloadId × Fence) : Prop :=
  ∃ g, Authorizes s op id g ∧ action = (g.cls, g.target, g.fence)

theorem holds_of_step {s s' : GovernorState} {op : Op} {id : InterventionId}
    {action : InterventionClass × WorkloadId × Fence} (hop : CountsUp s op)
    (h : step s op = some s') (hheld : Holds s' id action) :
    Holds s id action ∨ Makes s op s' id action := by
  obtain ⟨r', hr', rfl⟩ := hheld
  rcases step_interventions h hop.1 with ⟨-, hrel⟩ | ⟨g, new, hauth, hnew, -, hrel⟩
  · obtain ⟨r, hr, hsame, -⟩ := hrel.exists_left hr'
    exact .inl ⟨r, hr, by rw [hsame.cls, hsame.target, hsame.fence]⟩
  · obtain ⟨r, hr, hsame, -⟩ := hrel.exists_left hr'
    rcases OrderedMap.find_insert_cases hr with ⟨rfl, rfl⟩ | ⟨-, hr⟩
    · refine .inr ⟨g, hauth, ?_⟩
      rw [hsame.cls, hsame.target, hsame.fence, hnew.cls, hnew.target, hnew.fence]
    · exact .inl ⟨r, hr, by rw [hsame.cls, hsame.target, hsame.fence]⟩

/-- Every record of a reached state was made by one authorization of the run. -/
theorem exists_authorization {s : GovernorState} {ops : List Op}
    (hops : Runs.Guarded step CountsUp {} ops) (hrun : Runs.exec step {} ops = some s)
    {id : InterventionId} {r : InterventionRecord}
    (hr : s.engine.interventions.find id = some r) :
    ∃ pre op post u g, ops = pre ++ op :: post ∧ Runs.exec step {} pre = some u ∧
      Authorizes u op id g ∧ r.cls = g.cls ∧ r.target = g.target ∧ r.fence = g.fence := by
  have hempty : IdsBelow {} := by
    intro id r hr
    cases hr
  have hnone : ∀ id action, ¬Holds {} id action := by
    rintro id action ⟨r, hr, -⟩
    cases hr
  have hinv : ∀ s op s', IdsBelow s → CountsUp s op → step s op = some s' → IdsBelow s' :=
    fun _ _ _ => step_idsBelow
  have hmade : ∀ s op s' id action, IdsBelow s → CountsUp s op → step s op = some s' →
      Holds s' id action → Holds s id action ∨ Makes s op s' id action :=
    fun _ _ _ _ _ _ => holds_of_step
  have hheld : Holds s id (r.cls, r.target, r.fence) := ⟨r, hr, rfl⟩
  obtain ⟨pre, op, post, u, u', heq, hu, -, g, hauth, haction⟩ :=
    Runs.exists_origin hinv hmade hempty hnone hops hrun hheld
  obtain ⟨hcls, haction⟩ := Prod.mk.inj haction
  obtain ⟨htarget, hfence⟩ := Prod.mk.inj haction
  exact ⟨pre, op, post, u, g, heq, hu, hauth, hcls, htarget, hfence⟩

/-! ## Reaching the adapter -/

/-- The operation gets a dispatch of the id past its checks, starting it in the state
`u` with the given ticket for the adapter. -/
def InvokesAdapter (s : GovernorState) (op : Op) (id : InterventionId) (u : GovernorState)
    (t : DispatchTicket) : Prop :=
  match op with
  | .dispatch j now _ => j = id ∧ u = s ∧ (dispatchBegin id now u).1 = .ok t
  | .authorizeAndDispatch cid cls now now' _ =>
    ¬(cls ≠ .noAction ∧ budgetExhausted s.engine.policy.budget cls) ∧
      authorize cid cls now s = .ok (some id, u) ∧ (dispatchBegin id now' u).1 = .ok t
  | _ => False

/-- The record a dispatch acts on, and the freshness of its fence. -/
theorem record_of_begin {u : GovernorState} {id : InterventionId} {now : TimeMs}
    {t : DispatchTicket} (h : (dispatchBegin id now u).1 = .ok t) :
    ∃ r, u.engine.interventions.find id = some r ∧
      t = ⟨id, r.cls, r.target, r.attemptId⟩ ∧ Fresh u.engine.authority r.fence r.target := by
  have hpair : dispatchBegin id now u = (.ok t, (dispatchBegin id now u).2) := by rw [← h]
  obtain ⟨r, hr, -, hvalid, ht, -⟩ := dispatchBegin_ok hpair
  exact ⟨r, hr, ht, fresh_of_revalidate hvalid⟩

theorem Authorizes.fresh {s : GovernorState} {op : Op} {id : InterventionId} {g : Grant}
    (h : Authorizes s op id g) : Fresh s.engine.authority g.fence g.target := by
  obtain ⟨cid, cls, now, hchecks⟩ := h.checks
  exact fresh_of_revalidate (granted_of_checks hchecks).valid

/-- In a run from the empty governor without a load, whenever a dispatch invokes the
adapter, one authorization of the run made its record; the authority then and now agree
on the nine generations and on the registered boot and generation of the target, and the
record and the ticket have the granted class, target and fence. -/
theorem fence_safety (ops : List Op) (op : Op) (s u : GovernorState) (id : InterventionId)
    (t : DispatchTicket) (hops : Runs.Guarded step CountsUp {} (ops ++ [op]))
    (hrun : Runs.exec step {} ops = some s) (hadapter : InvokesAdapter s op id u t) :
    ∃ pre aop post v g r, ops ++ [op] = pre ++ aop :: post ∧
      Runs.exec step {} pre = some v ∧ Authorizes v aop id g ∧
      u.engine.interventions.find id = some r ∧
      r.cls = g.cls ∧ r.target = g.target ∧ r.fence = g.fence ∧
      t = ⟨id, g.cls, g.target, r.attemptId⟩ ∧
      AuthorityAgrees v.engine.authority u.engine.authority g.target := by
  cases op with
  | dispatch j now adapters =>
    obtain ⟨rfl, rfl, hbegin⟩ := hadapter
    obtain ⟨r, hr, rfl, hfresh⟩ := record_of_begin hbegin
    obtain ⟨pre, aop, post, v, g, heq, hv, hauth, hcls, htarget, hfence⟩ :=
      exists_authorization hops.append.1 hrun hr
    refine ⟨pre, aop, post ++ [.dispatch j now adapters], v, g, r, by simp [heq], hv, hauth, hr,
      hcls, htarget, hfence, by rw [hcls, htarget], ?_⟩
    rw [htarget, hfence] at hfresh
    exact hauth.fresh.agrees hfresh
  | authorizeAndDispatch cid cls now now' adapters =>
    obtain ⟨-, hauthorize, hbegin⟩ := hadapter
    obtain ⟨r, hr, rfl, hfresh⟩ := record_of_begin hbegin
    rcases authorize_cases hauthorize with ⟨-, hnone⟩ | ⟨g, hg, hgrant⟩
    · cases hnone
    · obtain ⟨hid, rfl⟩ := Prod.mk.inj hgrant
      cases hid
      have hauth : Authorizes s (.authorizeAndDispatch cid cls now now' adapters)
          ⟨s.nextInterventionId⟩ g := ⟨rfl, hg⟩
      have hnew : (grantRecord s cid g now) = r := by
        simpa [commitGrant, grantRecord] using hr
      subst hnew
      exact ⟨ops, _, [], s, g, _, rfl, hrun, hauth, hr, rfl, rfl, rfl, rfl,
        hauth.fresh.agrees hfresh⟩
  | _ => exact hadapter.elim

theorem fence_safety_throttle : ∃ pre aop post v g r,
    throttleNeighbor ++ [.dispatch ⟨1⟩ 1500 none] = pre ++ aop :: post ∧
      Runs.exec step {} pre = some v ∧ Authorizes v aop ⟨1⟩ g ∧
      (reached throttleNeighbor).engine.interventions.find ⟨1⟩ = some r ∧
      r.cls = g.cls ∧ r.target = g.target ∧ r.fence = g.fence ∧
      (⟨⟨1⟩, .throttle, ⟨2⟩, ⟨1⟩⟩ : DispatchTicket) = ⟨⟨1⟩, g.cls, g.target, r.attemptId⟩ ∧
      AuthorityAgrees v.engine.authority (reached throttleNeighbor).engine.authority
        g.target := by
  have hticket : (dispatchBegin ⟨1⟩ 1500 (reached throttleNeighbor)).1.toOption =
      some ⟨⟨1⟩, .throttle, ⟨2⟩, ⟨1⟩⟩ := by decide +kernel
  have hbegin : (dispatchBegin ⟨1⟩ 1500 (reached throttleNeighbor)).1 =
      .ok ⟨⟨1⟩, .throttle, ⟨2⟩, ⟨1⟩⟩ := eq_ok_of_toOption hticket
  exact fence_safety throttleNeighbor (.dispatch ⟨1⟩ 1500 none) _ _ ⟨1⟩ _ (by decide +kernel)
    (exec_reached (by decide +kernel)) ⟨rfl, rfl, hbegin⟩

end ContentionGovernor
