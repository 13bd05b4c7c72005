import ContentionGovernor.DispatchSections

/-!
# One adapter call for each authorization

A record leaves AUTHORIZED in the critical section that hands it to the adapter, and no
operation brings it back.
-/

namespace ContentionGovernor

/-! ## Adapter calls -/

/-- The adapter calls an operation makes: a dispatch makes one when its first section
passes. -/
def Op.tickets (s : GovernorState) : Op → List DispatchTicket
  | .dispatch id now _ => (dispatchBegin id now s).1.toOption.toList
  | .authorizeAndDispatch id cls now now' _ =>
    if cls ≠ .noAction ∧ budgetExhausted s.engine.policy.budget cls then []
    else
      match ContentionGovernor.authorize id cls now s with
      | .ok (some iid, s') => (dispatchBegin iid now' s').1.toOption.toList
      | _ => []
  | _ => []

/-- The adapter call of a dispatch starts when its first section ends. -/
def CriticalSection.tickets (c : Concurrent) : CriticalSection → List DispatchTicket
  | .op o => o.tickets c.gov
  | .dispatchBegin id now => (ContentionGovernor.dispatchBegin id now c.gov).1.toOption.toList
  | .dispatchFinish _ _ => []

/-- Two adapter calls for different interventions, under different attempts. -/
def TicketsApart (t u : DispatchTicket) : Prop := t.id ≠ u.id ∧ t.attempt ≠ u.attempt

instance (t u : DispatchTicket) : Decidable (TicketsApart t u) :=
  inferInstanceAs (Decidable (_ ∧ _))

/-- No load, and the intervention and attempt counters below the top. -/
def SectionAllocates (c : Concurrent) : CriticalSection → Prop
  | .op op => CountsUp c.gov op ∧ c.gov.nextAttemptId.toNat < 2 ^ 64 - 1
  | _ => True

instance (c : Concurrent) : ∀ l, Decidable (SectionAllocates c l)
  | .op _ => inferInstanceAs (Decidable (_ ∧ _))
  | .dispatchBegin _ _ | .dispatchFinish _ _ => inferInstanceAs (Decidable True)

/-! ## The invariant -/

/-- The counters have passed all ids in use, and no attempt stands in two records. -/
structure AttemptsApart (s : GovernorState) : Prop where
  idsBelow : IdsBelow s
  attemptsBelow : ∀ id r, s.engine.interventions.find id = some r →
    r.attemptId.value.toNat < s.nextAttemptId.toNat
  apart : ∀ id id' r r', s.engine.interventions.find id = some r →
    s.engine.interventions.find id' = some r' → r.attemptId = r'.attemptId → id = id'

/-- The record of an adapter call has left AUTHORIZED. -/
def Begun (s : GovernorState) (t : DispatchTicket) : Prop :=
  ∃ r, s.engine.interventions.find t.id = some r ∧ r.attemptId = t.attempt ∧
    r.state ≠ .authorized

/-- The adapter calls made so far, beside the state they have led to. -/
structure Invoked (s : GovernorState) (ts : List DispatchTicket) : Prop where
  attempts : AttemptsApart s
  begun : ∀ t ∈ ts, Begun s t
  single : ts.Pairwise TicketsApart

theorem invoked_empty : Invoked {} [] where
  attempts :=
    { idsBelow := by
        intro id r hr
        cases hr
      attemptsBelow := by
        intro id r hr
        cases hr
      apart := by
        intro id id' r r' hr
        cases hr }
  begun := by simp
  single := List.Pairwise.nil

/-- A record is rewritten under its attempt and does not become AUTHORIZED. -/
theorem Invoked.set {s : GovernorState} {ts : List DispatchTicket} {id : InterventionId}
    {r r' : InterventionRecord} (h : Invoked s ts)
    (hr : s.engine.interventions.find id = some r) (hattempt : r'.attemptId = r.attemptId)
    (hstate : r'.state ≠ .authorized) : Invoked (setIntervention s id r') ts := by
  -- Every record after the write has the attempt of the one before it.
  have hbefore : ∀ j x, (setIntervention s id r').engine.interventions.find j = some x →
      ∃ y, s.engine.interventions.find j = some y ∧ x.attemptId = y.attemptId := by
    intro j x hx
    rcases OrderedMap.find_insert_cases hx with ⟨hj, rfl⟩ | ⟨-, hx⟩
    · exact ⟨r, hj ▸ hr, hattempt⟩
    · exact ⟨x, hx, rfl⟩
  refine ⟨⟨idsBelow_set h.attempts.idsBelow hr r', ?_, ?_⟩, ?_, h.single⟩
  · intro j x hx
    obtain ⟨y, hy, hsame⟩ := hbefore j x hx
    rw [hsame]
    exact h.attempts.attemptsBelow j y hy
  · intro j k x y hx hy hxy
    obtain ⟨x', hx', hsamex⟩ := hbefore j x hx
    obtain ⟨y', hy', hsamey⟩ := hbefore k y hy
    apply h.attempts.apart j k x' y' hx' hy'
    rw [← hsamex, ← hsamey, hxy]
  · intro t ht
    obtain ⟨x, hx, hsame, hleft⟩ := h.begun t ht
    by_cases hid : t.id = id
    · rw [hid, hr] at hx
      cases hx
      exact ⟨r', by rw [hid]; exact OrderedMap.find_insert_self .., hattempt.trans hsame, hstate⟩
    · exact ⟨x, (OrderedMap.find_insert_of_ne _ hid r').trans hx, hsame, hleft⟩

/-! ## The sections of a dispatch -/

/-- A call that begins is for an AUTHORIZED record, so no call before it was. -/
theorem Invoked.apart_begun {s : GovernorState} {ts : List DispatchTicket} {id : InterventionId}
    {r : InterventionRecord} {t : DispatchTicket} (h : Invoked s ts)
    (hr : s.engine.interventions.find id = some r) (hstate : r.state = .authorized)
    (hid : t.id = id) (hattempt : t.attempt = r.attemptId) : ∀ u ∈ ts, TicketsApart u t := by
  intro u hu
  obtain ⟨x, hx, hsame, hleft⟩ := h.begun u hu
  have hne : u.id ≠ id := by
    intro heq
    rw [heq, hr] at hx
    cases hx
    exact hleft hstate
  refine ⟨hid ▸ hne, fun heq => hne ?_⟩
  apply h.attempts.apart u.id id x r hx hr
  rw [hsame, heq, hattempt]

theorem invoked_begin {s : GovernorState} {ts : List DispatchTicket} (id : InterventionId)
    (now : TimeMs) (h : Invoked s ts) : Invoked (dispatchBegin id now s).2
      (ts ++ (dispatchBegin id now s).1.toOption.toList) := by
  cases hbegin : dispatchBegin id now s with
  | mk x s' =>
    cases x with
    | error e =>
      simp only [Except.toOption, Option.toList_none, List.append_nil]
      rcases dispatchBegin_error hbegin with rfl | ⟨r, hr, -, rfl⟩
      · exact h
      · exact h.set hr rfl (by simp)
    | ok t =>
      simp only [Except.toOption, Option.toList_some]
      obtain ⟨r, hr, hstate, -, rfl, rfl⟩ := dispatchBegin_ok hbegin
      have hset : Invoked { s with nextDispatchId := s.nextDispatchId + 1 } ts :=
        ⟨⟨h.attempts.idsBelow, h.attempts.attemptsBelow, h.attempts.apart⟩, h.begun, h.single⟩
      have hkept : Invoked (setIntervention { s with nextDispatchId := s.nextDispatchId + 1 } id
          { r with state := .dispatched, dispatchId := ⟨s.nextDispatchId⟩, dispatchedAt := now })
          ts := hset.set hr rfl (by simp)
      refine ⟨hkept.attempts, ?_, ?_⟩
      · intro u hu
        rcases List.mem_append.mp hu with hu | hu
        · exact hkept.begun u hu
        · rw [List.mem_singleton.mp hu]
          exact ⟨_, OrderedMap.find_insert_self .., rfl, by simp⟩
      · rw [List.pairwise_append]
        refine ⟨h.single, List.pairwise_singleton _ _, ?_⟩
        intro u hu v hv
        rw [List.mem_singleton.mp hv]
        exact h.apart_begun hr hstate rfl rfl u hu

theorem invoked_finish {s : GovernorState} {ts : List DispatchTicket} (id : InterventionId)
    (res : AdapterResult) (h : Invoked s ts) : Invoked (dispatchFinish id res s).2 ts := by
  rcases dispatchFinish_eq id res s with ⟨-, hs⟩ | ⟨r, hr, hs⟩
  · rw [hs]
    exact h
  · rw [hs]
    apply h.set hr (sameAction_applyOutcome res r).attemptId
    intro hstate
    apply applyOutcome_not_pending res r
    rw [hstate]
    rfl

theorem invoked_dispatch {s : GovernorState} {ts : List DispatchTicket} (id : InterventionId)
    (now : TimeMs) (adapters : Option AdapterRegistry) (h : Invoked s ts) :
    Invoked (dispatch id now adapters s).2
      (ts ++ (dispatchBegin id now s).1.toOption.toList) := by
  have hbegin := invoked_begin id now h
  unfold dispatch
  split
  · rename_i heq
    rw [heq] at hbegin ⊢
    exact hbegin
  · rename_i heq
    rw [heq] at hbegin ⊢
    exact invoked_finish _ _ hbegin

/-! ## The other operations -/

/-- An operation allocates an attempt exactly when it grants a request. -/
theorem step_attempts {s s' : GovernorState} {op : Op} (h : step s op = some s')
    (hload : ¬op.isLoad) :
    s'.nextAttemptId = s.nextAttemptId + if (op.grant s).isSome then 1 else 0 := by
  cases op with
  | authorize | authorizeAndDispatch =>
    rcases step_of_request h rfl with ⟨hgrant, rfl⟩ | ⟨g, hgrant, -, _, _, rfl⟩
    · rw [hgrant]
      exact (UInt64.add_zero _).symm
    · rw [hgrant]
      rfl
  | load => exact absurd rfl hload
  | _ =>
    rw [((step_frame h).counters rfl).2]
    exact (UInt64.add_zero _).symm

/-- A record after a step has the attempt it had before, or the one that was next. -/
theorem attempt_before {s s' : GovernorState} {op : Op} (h : step s op = some s')
    (hload : ¬op.isLoad) {id : InterventionId} {r' : InterventionRecord}
    (hr' : s'.engine.interventions.find id = some r') :
    (∃ r, s.engine.interventions.find id = some r ∧ r'.attemptId = r.attemptId) ∨
    (op.grant s).isSome ∧ id = ⟨s.nextInterventionId⟩ ∧ r'.attemptId = ⟨s.nextAttemptId⟩ := by
  rcases record_before h hload hr' with ⟨r, hr, hmove⟩ | ⟨_, _, _, g, -, hgrant, -, hid, hmove⟩
  · exact .inl ⟨r, hr, hmove.1.attemptId⟩
  · exact .inr ⟨by rw [hgrant]; rfl, hid, hmove.1.attemptId⟩

theorem attemptsApart_step {s s' : GovernorState} {op : Op} (hs : AttemptsApart s)
    (hop : CountsUp s op) (htop : s.nextAttemptId.toNat < 2 ^ 64 - 1)
    (h : step s op = some s') : AttemptsApart s' := by
  have hnext := step_attempts h hop.1
  refine ⟨step_idsBelow hs.idsBelow hop h, ?_, ?_⟩
  · intro id r' hr'
    rcases attempt_before h hop.1 hr' with ⟨r, hr, hsame⟩ | ⟨hgrant, -, hsame⟩
    · have hbelow := hs.attemptsBelow id r hr
      rw [hsame, hnext]
      split_ifs
      · rw [toNat_add_one htop]
        omega
      · rwa [UInt64.add_zero]
    · rw [hsame, hnext, if_pos hgrant, toNat_add_one htop]
      exact Nat.lt_succ_self _
  · intro id id' r r' hr hr' hsame
    rcases attempt_before h hop.1 hr with ⟨x, hx, hattempt⟩ | ⟨-, hid, hattempt⟩ <;>
      rcases attempt_before h hop.1 hr' with ⟨y, hy, hattempt'⟩ | ⟨-, hid', hattempt'⟩
    · apply hs.apart id id' x y hx hy
      rw [← hattempt, ← hattempt', hsame]
    · -- An attempt in use is below the counter, a new one is not.
      have hbelow := hs.attemptsBelow id x hx
      rw [← hattempt, hsame, hattempt'] at hbelow
      exact absurd hbelow (lt_irrefl _)
    · have hbelow := hs.attemptsBelow id' y hy
      rw [← hattempt', ← hsame, hattempt] at hbelow
      exact absurd hbelow (lt_irrefl _)
    · exact hid.trans hid'.symm

theorem invoked_step {s s' : GovernorState} {ts : List DispatchTicket} {op : Op}
    (hs : Invoked s ts) (hop : CountsUp s op) (htop : s.nextAttemptId.toNat < 2 ^ 64 - 1)
    (h : step s op = some s') : Invoked s' ts := by
  refine ⟨attemptsApart_step hs.attempts hop htop h, ?_, hs.single⟩
  intro t ht
  obtain ⟨r, hr, hattempt, hleft⟩ := hs.begun t ht
  obtain ⟨r', hr', hsame, hmoves⟩ := record_after hs.attempts.idsBelow hop h hr
  refine ⟨r', hr', hsame.attemptId.trans hattempt, ?_⟩
  rcases hmoves with hstate | ⟨hpast, -⟩
  · rwa [hstate]
  · intro hstate
    rw [hstate] at hpast
    exact hpast rfl

/-- The composite is a grant followed by a dispatch of the new record. -/
theorem invoked_op {s s' : GovernorState} {ts : List DispatchTicket} {op : Op}
    (hs : Invoked s ts) (hop : CountsUp s op) (htop : s.nextAttemptId.toNat < 2 ^ 64 - 1)
    (h : step s op = some s') : Invoked s' (ts ++ op.tickets s) := by
  cases op with
  | dispatch id now adapters =>
    cases h
    exact invoked_dispatch id now adapters hs
  | authorizeAndDispatch id cls now now' adapters =>
    obtain ⟨r, hr, rfl⟩ := map_toOption h
    simp only [Op.tickets]
    unfold authorizeAndDispatch at hr
    split_ifs at hr ⊢
    · cases hr
      rw [List.append_nil]
      exact hs
    · cases hauth : authorize id cls now s with
      | error e =>
        rw [hauth] at hr
        cases hr
      | ok x =>
        rw [hauth, ok_bind] at hr
        have hcounts : CountsUp s (.authorize id cls now) := ⟨Bool.false_ne_true, hop.2⟩
        have hgrant : step s (.authorize id cls now) = some x.2 := by
          rw [step, Op.run, hauth]
          rfl
        have hkept := invoked_step hs hcounts htop hgrant
        obtain ⟨o, s₁⟩ := x
        cases o with
        | none =>
          cases hr
          rw [List.append_nil]
          exact hkept
        | some iid =>
          cases hr
          exact invoked_dispatch iid now' adapters hkept
  | _ =>
    show Invoked s' (ts ++ [])
    rw [List.append_nil]
    exact invoked_step hs hop htop h

/-! ## Runs -/

theorem invoked_section {c c' : Concurrent} {ts : List DispatchTicket} {l : CriticalSection}
    (hc : Invoked c.gov ts) (hl : SectionAllocates c l) (h : sectionStep c l = some c') :
    Invoked c'.gov (ts ++ l.tickets c) := by
  cases l with
  | op op =>
    obtain ⟨s, hs, rfl⟩ := Option.map_eq_some_iff.mp h
    exact invoked_op hc hl.1 hl.2 hs
  | dispatchBegin id now =>
    have hbegin := invoked_begin id now hc
    unfold sectionStep at h
    dsimp only at h
    simp only [CriticalSection.tickets]
    cases hx : dispatchBegin id now c.gov with
    | mk x s =>
      rw [hx] at h hbegin
      cases x <;> cases h <;> exact hbegin
  | dispatchFinish n adapters =>
    obtain ⟨f, -, rfl⟩ := Option.map_eq_some_iff.mp h
    rw [CriticalSection.tickets, List.append_nil]
    exact invoked_finish _ _ hc

/-- In every interleaving of the sections of any number of dispatches with other operations,
no two adapter calls are for one intervention or under one attempt. -/
theorem single_dispatch (ls : List CriticalSection) (c : Concurrent)
    (hls : Runs.Guarded sectionStep SectionAllocates {} ls)
    (hrun : Runs.exec sectionStep {} ls = some c) :
    (Runs.events sectionStep CriticalSection.tickets {} ls).Pairwise TicketsApart := by
  have hstep : ∀ c l c' ts, Invoked c.gov ts → SectionAllocates c l → sectionStep c l = some c' →
      Invoked c'.gov (ts ++ l.tickets c) := fun _ _ _ _ => invoked_section
  have hend : Invoked c.gov ([] ++ Runs.events sectionStep CriticalSection.tickets {} ls) :=
    Runs.events_of_guarded hstep hls hrun invoked_empty
  exact hend.single

/-- Two throttles are authorized, and three dispatches race for them. -/
def racingDispatches : List CriticalSection :=
  (throttleNeighbor ++ [Op.authorize ⟨1⟩ .throttle 10000]).map .op ++
    [.dispatchBegin ⟨1⟩ 11000, .dispatchBegin ⟨2⟩ 11000, .dispatchBegin ⟨1⟩ 11000,
      .dispatchFinish 0 (some acceptingAdapter)]

theorem single_dispatch_racing :
    (Runs.events sectionStep CriticalSection.tickets {} racingDispatches).map (·.id) =
        [⟨1⟩, ⟨2⟩] ∧
      (Runs.events sectionStep CriticalSection.tickets {} racingDispatches).Pairwise
        TicketsApart :=
  have hrun : (Runs.exec sectionStep {} racingDispatches).isSome := by decide +kernel
  ⟨by decide +kernel, single_dispatch racingDispatches _ (by decide +kernel)
    (Runs.exec_getD ({} : Concurrent) hrun)⟩

end ContentionGovernor
