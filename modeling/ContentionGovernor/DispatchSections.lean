import ContentionGovernor.FenceSafety
import ContentionGovernor.Lifecycle
import ContentionGovernor.RestartFencing

/-!
# The two sections of a dispatch

The lock is free during the adapter call, so other operations run between the
critical sections of a dispatch.
-/

namespace ContentionGovernor

/-- A dispatch whose adapter call is running.  `overtaken` is a history flag: another
operation has written the lifecycle state of its record since the first section. -/
structure InFlight where
  ticket : DispatchTicket
  overtaken : Bool

structure Concurrent where
  gov : GovernorState := {}
  inFlight : List InFlight := []

/-- A critical section: an operation that is one, or one of the two of a dispatch.  The
second names the dispatch in flight that it ends. -/
inductive CriticalSection
  | op (op : Op)
  | dispatchBegin (id : InterventionId) (now : TimeMs)
  | dispatchFinish (n : ℕ) (adapters : Option AdapterRegistry)

/-- The operation writes the lifecycle state of a record in flight. -/
def Op.overtakes (s : GovernorState) (id : InterventionId) : Op → Bool
  | .advanceEpoch => true
  | .onAcknowledge j _ _ | .onActionFailed j _ _ => j = id
  | .submitPostActionEvidence e => settledBy s e = some id
  | _ => false

def InFlight.mark (written : InterventionId → Bool) (f : InFlight) : InFlight :=
  { f with overtaken := f.overtaken || written f.ticket.id }

def sectionStep (c : Concurrent) : CriticalSection → Option Concurrent
  | .op op => (step c.gov op).map fun s =>
    ⟨s, c.inFlight.map (InFlight.mark fun id => op.overtakes c.gov id)⟩
  | .dispatchBegin id now =>
    match dispatchBegin id now c.gov with
    | (.error _, s) => some ⟨s, c.inFlight⟩
    | (.ok t, s) => some ⟨s, c.inFlight ++ [⟨t, false⟩]⟩
  | .dispatchFinish n adapters => c.inFlight[n]?.map fun f =>
    ⟨(dispatchFinish f.ticket.id (callAdapter adapters f.ticket) c.gov).2,
      (c.inFlight.eraseIdx n).map (InFlight.mark (· = f.ticket.id))⟩

/-! ## The second section -/

/-- Every record that is not DISPATCHED is in the same state after. -/
def KeepsOthers (s s' : GovernorState) : Prop :=
  ∀ id x, x ≠ .dispatched → HasState s id x → HasState s' id x

/-- A second section changes lifecycle states only of DISPATCHED records. -/
def FinishKeeps (c : Concurrent) : CriticalSection → Prop
  | .dispatchFinish n adapters =>
    ∀ c', sectionStep c (.dispatchFinish n adapters) = some c' → KeepsOthers c.gov c'.gov
  | _ => True

/-- A second section finds its record DISPATCHED, if at all, or already in the state that
the adapter outcome leads to. -/
def FindsDispatched (c : Concurrent) : CriticalSection → Prop
  | .dispatchFinish n adapters => ∀ f r, c.inFlight[n]? = some f →
    c.gov.engine.interventions.find f.ticket.id = some r → r.state ≠ .dispatched →
      r.state = outcomeState (callAdapter adapters f.ticket).outcome
  | _ => True

theorem dispatchFinish_keeps_iff (id : InterventionId) (res : AdapterResult)
    (s : GovernorState) : KeepsOthers s (dispatchFinish id res s).2 ↔
      ∀ r, s.engine.interventions.find id = some r → r.state ≠ .dispatched →
        r.state = outcomeState res.outcome := by
  rcases dispatchFinish_eq id res s with ⟨hnone, hs⟩ | ⟨i, hi, hs⟩
  · rw [hs]
    refine ⟨fun _ r hr => ?_, fun _ _ _ _ h => h⟩
    rw [hnone] at hr
    cases hr
  · rw [hs]
    constructor
    · intro h r hr hstate
      rw [hi] at hr
      cases hr
      obtain ⟨r', hr', hsame⟩ := h id i.state hstate ⟨i, hi, rfl⟩
      simp only [setIntervention, OrderedMap.find_insert_self, Option.some.injEq] at hr'
      rw [← hsame, ← hr', applyOutcome_state]
    · rintro h j x hx ⟨r, hr, rfl⟩
      by_cases hj : j = id
      · subst hj
        rw [hi] at hr
        cases hr
        refine ⟨applyOutcome res i, OrderedMap.find_insert_self .., ?_⟩
        rw [applyOutcome_state, h i hi hx]
      · exact ⟨r, (OrderedMap.find_insert_of_ne _ hj _).trans hr, rfl⟩

theorem finishKeeps_iff (c : Concurrent) (l : CriticalSection) :
    FinishKeeps c l ↔ FindsDispatched c l := by
  cases l with
  | op | dispatchBegin => exact Iff.rfl
  | dispatchFinish n adapters =>
    unfold FinishKeeps FindsDispatched
    constructor
    · intro h f r hf hr
      have hkeeps := h _ (by rw [sectionStep, hf]; rfl)
      exact (dispatchFinish_keeps_iff _ _ _).mp hkeeps r hr
    · intro h c' hc'
      obtain ⟨f, hf, rfl⟩ := Option.map_eq_some_iff.mp hc'
      exact (dispatchFinish_keeps_iff _ _ _).mpr fun r hr => h f r hf hr

/-! ## What ran in between -/

/-- No load, and ids below the top. -/
def SectionCounts (c : Concurrent) : CriticalSection → Prop
  | .op op => CountsUp c.gov op
  | _ => True

/-- A second section ends a dispatch that nothing has overtaken, or repeats the state that
was written. -/
def NotOvertaken (c : Concurrent) : CriticalSection → Prop
  | .dispatchFinish n adapters => ∀ f, c.inFlight[n]? = some f → f.overtaken →
    HasState c.gov f.ticket.id (outcomeState (callAdapter adapters f.ticket).outcome)
  | _ => True

/-- The record of a dispatch in flight is DISPATCHED until the dispatch is overtaken, and
past its pending states from then on. -/
def Follows (s : GovernorState) (f : InFlight) : Prop :=
  ∃ r, s.engine.interventions.find f.ticket.id = some r ∧
    (f.overtaken = false ∧ r.state = .dispatched ∨ f.overtaken = true ∧ ¬r.state.isPending)

structure Tracked (c : Concurrent) : Prop where
  idsBelow : IdsBelow c.gov
  follows : ∀ f ∈ c.inFlight, Follows c.gov f

/-- The record after a step under the id of a record before it. -/
theorem record_after {s s' : GovernorState} {op : Op} {id : InterventionId}
    {r : InterventionRecord} (hs : IdsBelow s) (hop : CountsUp s op) (h : step s op = some s')
    (hr : s.engine.interventions.find id = some r) :
    ∃ r', s'.engine.interventions.find id = some r' ∧ RecordStep s op id r r' := by
  refine record_kept h hop.1 (fun _ hid => ?_) hr
  subst hid
  exact absurd (hs _ r hr) (lt_irrefl _)

theorem Moves.of_dispatched {s : GovernorState} {op : Op} {id : InterventionId}
    {r r' : InterventionRecord} (h : Moves s op id r r') (hr : r.state = .dispatched)
    (hop : op.overtakes s id = false) : r'.state = .dispatched := by
  rcases h with h | ⟨-, h⟩
  · exact h.trans hr
  · cases op with
    | advanceEpoch => cases hop
    | onAcknowledge | onActionFailed => exact absurd h.1 (of_decide_eq_false hop)
    | submitPostActionEvidence => exact absurd h.1 (of_decide_eq_false hop)
    | dispatch | authorizeAndDispatch =>
      rw [hr] at h
      cases h.2
    | _ => exact h.elim

/-- An operation that overtakes a dispatch in flight leaves its record past pending. -/
theorem overtaken_not_pending {s s' : GovernorState} {op : Op} {id : InterventionId}
    {r r' : InterventionRecord} (h : step s op = some s') (hop : op.overtakes s id)
    (hr : s.engine.interventions.find id = some r) (hstate : r.state = .dispatched)
    (hr' : s'.engine.interventions.find id = some r') : ¬r'.state.isPending := by
  cases op with
  | advanceEpoch =>
    cases h
    simp only [advanceEpoch, OrderedMap.find_mapValues, hr, Option.map_some,
      Option.some.injEq] at hr'
    rw [← hr', abandonInFlight, if_pos (.inl hstate)]
    exact Bool.false_ne_true
  | onAcknowledge j attempt now =>
    cases h
    cases of_decide_eq_true hop
    simp only [onAcknowledge, hr, hstate, ne_eq, not_true_eq_false, if_false, setIntervention,
      OrderedMap.find_insert_self, Option.some.injEq] at hr'
    rw [← hr']
    exact Bool.false_ne_true
  | onActionFailed j attempt note =>
    cases h
    cases of_decide_eq_true hop
    simp only [onActionFailed, hr, setIntervention, OrderedMap.find_insert_self,
      Option.some.injEq] at hr'
    rw [← hr']
    exact Bool.false_ne_true
  | submitPostActionEvidence e =>
    cases h
    exact settled_not_pending (of_decide_eq_true hop) hr'
  | _ => cases hop

theorem follows_step {s s' : GovernorState} {op : Op} {f : InFlight} (hs : IdsBelow s)
    (hop : CountsUp s op) (h : step s op = some s') (hf : Follows s f) :
    Follows s' (f.mark fun id => op.overtakes s id) := by
  obtain ⟨r, hr, hstate⟩ := hf
  obtain ⟨r', hr', -, hmoves⟩ := record_after hs hop h hr
  refine ⟨r', hr', ?_⟩
  rcases hstate with ⟨hflag, hstate⟩ | ⟨hflag, hstate⟩
  · cases hovertakes : op.overtakes s f.ticket.id with
    | false =>
      exact .inl ⟨by simp [InFlight.mark, hflag, hovertakes],
        hmoves.of_dispatched hstate hovertakes⟩
    | true =>
      exact .inr ⟨by simp [InFlight.mark, hovertakes],
        overtaken_not_pending h hovertakes hr hstate hr'⟩
  · refine .inr ⟨by simp [InFlight.mark, hflag], ?_⟩
    rcases hmoves with hsame | ⟨hpast, -⟩
    · rwa [hsame]
    · exact hpast

theorem idsBelow_set {s : GovernorState} {id : InterventionId} {r : InterventionRecord}
    (hs : IdsBelow s) (hr : s.engine.interventions.find id = some r) (r' : InterventionRecord) :
    IdsBelow (setIntervention s id r') := by
  intro j x hx
  rcases OrderedMap.find_insert_cases hx with ⟨rfl, -⟩ | ⟨-, hx⟩
  · exact hs j r hr
  · exact hs j x hx

theorem follows_set {s : GovernorState} {f : InFlight} {id : InterventionId} (hf : Follows s f)
    (hid : f.ticket.id ≠ id) (r : InterventionRecord) : Follows (setIntervention s id r) f := by
  obtain ⟨x, hx, hstate⟩ := hf
  exact ⟨x, (OrderedMap.find_insert_of_ne _ hid r).trans hx, hstate⟩

/-- A record in flight is not AUTHORIZED, so a first section is about another one. -/
theorem Follows.ne_authorized {s : GovernorState} {f : InFlight} {id : InterventionId}
    {r : InterventionRecord} (hf : Follows s f) (hr : s.engine.interventions.find id = some r)
    (hstate : r.state = .authorized) : f.ticket.id ≠ id := by
  rintro rfl
  obtain ⟨x, hx, ⟨-, hx'⟩ | ⟨-, hx'⟩⟩ := hf
  · rw [hr] at hx
    cases hx
    rw [hstate] at hx'
    cases hx'
  · rw [hr] at hx
    cases hx
    rw [hstate] at hx'
    exact hx' rfl

/-- What a first section does: nothing, or it rewrites an AUTHORIZED record, and a dispatch
is in flight if the record is DISPATCHED then. -/
theorem sectionStep_begin {c c' : Concurrent} {id : InterventionId} {now : TimeMs}
    (h : sectionStep c (.dispatchBegin id now) = some c') : c' = c ∨
    ∃ i i' n, c.gov.engine.interventions.find id = some i ∧ i.state = .authorized ∧
      c'.gov = setIntervention { c.gov with nextDispatchId := n } id i' ∧
      (c'.inFlight = c.inFlight ∨
        i'.state = .dispatched ∧ ∃ t, t.id = id ∧ c'.inFlight = c.inFlight ++ [⟨t, false⟩]) := by
  unfold sectionStep at h
  dsimp only at h
  cases hbegin : dispatchBegin id now c.gov with
  | mk x s =>
    rw [hbegin] at h
    cases x with
    | error e =>
      cases h
      rcases dispatchBegin_error hbegin with rfl | ⟨i, hi, hstate, rfl⟩
      · exact .inl rfl
      · exact .inr ⟨i, _, c.gov.nextDispatchId, hi, hstate, rfl, .inl rfl⟩
    | ok t =>
      cases h
      obtain ⟨i, hi, hstate, -, rfl, rfl⟩ := dispatchBegin_ok hbegin
      exact .inr ⟨i, _, _, hi, hstate, rfl, .inr ⟨rfl, _, rfl, rfl⟩⟩

theorem tracked_begin {c c' : Concurrent} {id : InterventionId} {now : TimeMs}
    (hc : Tracked c) (h : sectionStep c (.dispatchBegin id now) = some c') : Tracked c' := by
  rcases sectionStep_begin h with rfl | ⟨i, i', n, hi, hstate, hgov, hflight⟩
  · exact hc
  · have hold : ∀ f ∈ c.inFlight, Follows c'.gov f := by
      intro f hf
      rw [hgov]
      exact follows_set (hc.follows f hf) ((hc.follows f hf).ne_authorized hi hstate) i'
    refine ⟨by rw [hgov]; exact idsBelow_set hc.idsBelow hi i', fun f hf => ?_⟩
    rcases hflight with hsame | ⟨hdispatched, t, rfl, hadd⟩
    · exact hold f (hsame ▸ hf)
    · rw [hadd] at hf
      rcases List.mem_append.mp hf with hf | hf
      · exact hold f hf
      · rw [List.mem_singleton.mp hf, hgov]
        exact ⟨i', OrderedMap.find_insert_self .., .inl ⟨rfl, hdispatched⟩⟩

theorem tracked_finish {c : Concurrent} {n : ℕ} {adapters : Option AdapterRegistry}
    {c' : Concurrent} (hc : Tracked c)
    (h : sectionStep c (.dispatchFinish n adapters) = some c') : Tracked c' := by
  obtain ⟨f, hf, rfl⟩ := Option.map_eq_some_iff.mp h
  obtain ⟨r, hr, -⟩ := hc.follows f (List.mem_of_getElem? hf)
  rcases dispatchFinish_eq f.ticket.id (callAdapter adapters f.ticket) c.gov with
    ⟨hnone, -⟩ | ⟨i, hi, hs⟩
  · rw [hr] at hnone
    cases hnone
  · rw [hs]
    refine ⟨idsBelow_set hc.idsBelow hi _, fun g hg => ?_⟩
    obtain ⟨k, hk, rfl⟩ := List.mem_map.mp hg
    have hfollows := hc.follows k (List.mem_of_mem_eraseIdx hk)
    by_cases hid : k.ticket.id = f.ticket.id
    · refine ⟨_, (congrArg _ hid).trans (OrderedMap.find_insert_self ..), .inr ⟨?_, ?_⟩⟩
      · simp [InFlight.mark, hid]
      · exact applyOutcome_not_pending _ i
    · have hmark : k.mark (fun id => id = f.ticket.id) = k := by simp [InFlight.mark, hid]
      rw [hmark]
      exact follows_set hfollows hid _

theorem tracked_step {c c' : Concurrent} {l : CriticalSection} (hc : Tracked c)
    (hl : SectionCounts c l) (h : sectionStep c l = some c') : Tracked c' := by
  cases l with
  | op op =>
    obtain ⟨s, hs, rfl⟩ := Option.map_eq_some_iff.mp h
    refine ⟨step_idsBelow hc.idsBelow hl hs, fun f hf => ?_⟩
    obtain ⟨k, hk, rfl⟩ := List.mem_map.mp hf
    exact follows_step hc.idsBelow hl hs (hc.follows k hk)
  | dispatchBegin => exact tracked_begin hc h
  | dispatchFinish => exact tracked_finish hc h

/-- For a tracked dispatch the record is still DISPATCHED exactly until it is overtaken. -/
theorem findsDispatched_iff {c : Concurrent} (hc : Tracked c) (l : CriticalSection) :
    FindsDispatched c l ↔ NotOvertaken c l := by
  cases l with
  | op | dispatchBegin => exact Iff.rfl
  | dispatchFinish n adapters =>
    refine forall_congr' fun f => ?_
    constructor
    · intro h hf hflag
      obtain ⟨r, hr, ⟨hfalse, -⟩ | ⟨-, hpast⟩⟩ := hc.follows f (List.mem_of_getElem? hf)
      · rw [hflag] at hfalse
        cases hfalse
      · refine ⟨r, hr, h r hf hr ?_⟩
        intro hstate
        rw [hstate] at hpast
        exact hpast rfl
    · intro h r hf hr hstate
      obtain ⟨x, hx, ⟨-, hdispatched⟩ | ⟨hflag, -⟩⟩ := hc.follows f (List.mem_of_getElem? hf)
      · rw [hr] at hx
        cases hx
        exact absurd hdispatched hstate
      · obtain ⟨y, hy, hsame⟩ := h hf hflag
        rw [hr] at hy
        cases hy
        exact hsame

/-! ## Runs -/

/-- An intervention that exists when the epoch advances is never ACKNOWLEDGED after. -/
def EpochFences (ls : List CriticalSection) : Prop :=
  ∀ pre mid post c₁ c₂ c₃ id, ls = pre ++ .op .advanceEpoch :: (mid ++ post) →
    Runs.exec sectionStep {} pre = some c₁ →
    sectionStep c₁ (.op .advanceEpoch) = some c₂ → Runs.exec sectionStep c₂ mid = some c₃ →
    (∃ x, HasState c₁.gov id x) → ¬HasState c₃.gov id .acknowledged

/-- The record under an id exists and is in a terminal state. -/
def IsOver (s : GovernorState) (id : InterventionId) : Prop := ∃ x, x.isTerminal ∧ HasState s id x

theorem isOver_advanceEpoch {s : GovernorState} {id : InterventionId}
    (h : ∃ x, HasState s id x) : IsOver (advanceEpoch s).2 id := by
  obtain ⟨_, r, hr, -⟩ := h
  refine ⟨(abandonInFlight r).state, ?_, abandonInFlight r, ?_, rfl⟩
  · rw [LifecycleState.isTerminal_eq, Bool.eq_false_of_not_eq_true (abandonInFlight_state r)]
    rfl
  · simp [advanceEpoch, hr]

theorem isOver_step {c c' : Concurrent} {l : CriticalSection} {id : InterventionId}
    (hc : Tracked c) (hl : SectionCounts c l) (hkeeps : FinishKeeps c l)
    (h : sectionStep c l = some c') (hover : IsOver c.gov id) : IsOver c'.gov id := by
  obtain ⟨x, hx, r, hr, rfl⟩ := hover
  cases l with
  | op op =>
    obtain ⟨s, hs, rfl⟩ := Option.map_eq_some_iff.mp h
    obtain ⟨r', hr', -, hmoves⟩ := record_after hc.idsBelow hl hs hr
    rcases state_of_moves hmoves hx with hsame | ⟨_, _, -, hfailed⟩
    · exact ⟨r'.state, hsame ▸ hx, r', hr', rfl⟩
    · exact ⟨.failed, rfl, r', hr', hfailed⟩
  | dispatchBegin j now =>
    rcases sectionStep_begin h with rfl | ⟨i, i', n, hi, hstate, hgov, -⟩
    · exact ⟨r.state, hx, r, hr, rfl⟩
    · have hne : id ≠ j := by
        rintro rfl
        rw [hr] at hi
        cases hi
        rw [hstate] at hx
        cases hx
      rw [hgov]
      exact ⟨r.state, hx, r, (OrderedMap.find_insert_of_ne _ hne i').trans hr, rfl⟩
  | dispatchFinish n adapters =>
    have hne : r.state ≠ .dispatched := by
      intro hstate
      rw [hstate] at hx
      cases hx
    exact ⟨r.state, hx, hkeeps c' h id r.state hne ⟨r, hr, rfl⟩⟩

theorem tracked_empty : Tracked {} where
  idsBelow := by
    intro id r hr
    cases hr
  follows := by
    intro f hf
    cases hf

theorem epochFences_of_keeps {ls : List CriticalSection}
    (hls : Runs.Guarded sectionStep SectionCounts {} ls)
    (hkeeps : Runs.Guarded sectionStep FinishKeeps {} ls) : EpochFences ls := by
  rintro pre mid post c₁ c₂ c₃ id rfl hpre hadvance hmid hexists ⟨r, hr, hack⟩
  have htracked : ∀ c l c', Tracked c → SectionCounts c l → sectionStep c l = some c' →
      Tracked c' := fun _ _ _ => tracked_step
  have h₁ := Runs.invariant_of_guarded htracked hls.append.1 hpre tracked_empty
  have hrest := (hls.and hkeeps).append.2 c₁ hpre
  have h₂ : Tracked c₂ ∧ IsOver c₂.gov id := by
    refine ⟨tracked_step h₁ hrest.1.1 hadvance, ?_⟩
    cases hadvance
    exact isOver_advanceEpoch hexists
  have hstep : ∀ c l c', Tracked c ∧ IsOver c.gov id → SectionCounts c l ∧ FinishKeeps c l →
      sectionStep c l = some c' → Tracked c' ∧ IsOver c'.gov id :=
    fun c l c' hc hl h => ⟨tracked_step hc.1 hl.1 h, isOver_step hc.1 hl.1 hl.2 h hc.2⟩
  have hend := Runs.invariant_of_guarded hstep (hrest.2 c₂ hadvance).append.1 hmid h₂
  obtain ⟨x, hx, r', hr', rfl⟩ := hend.2
  rw [hr] at hr'
  cases hr'
  rw [hack] at hx
  cases hx

/-- In every interleaving the second sections keep what other operations wrote exactly when
each finds its record DISPATCHED or repeats its state.  Without a load, that and the fencing
of earlier epochs hold exactly when no dispatch is overtaken before its second section, other
than by a write that this one repeats. -/
theorem dispatch_sections (ls : List CriticalSection) :
    (Runs.Guarded sectionStep FinishKeeps {} ls ↔
      Runs.Guarded sectionStep FindsDispatched {} ls) ∧
    (Runs.Guarded sectionStep SectionCounts {} ls →
      (Runs.Guarded sectionStep FinishKeeps {} ls ∧ EpochFences ls ↔
        Runs.Guarded sectionStep NotOvertaken {} ls)) := by
  have hexact : Runs.Guarded sectionStep FinishKeeps {} ls ↔
      Runs.Guarded sectionStep FindsDispatched {} ls :=
    ⟨Runs.Guarded.mono fun c l => (finishKeeps_iff c l).mp,
      Runs.Guarded.mono fun c l => (finishKeeps_iff c l).mpr⟩
  refine ⟨hexact, fun hls => ?_⟩
  have htracked : ∀ c l c', Tracked c → SectionCounts c l → sectionStep c l = some c' →
      Tracked c' := fun _ _ _ => tracked_step
  have hflag := Runs.guarded_congr htracked (fun c l hc _ => findsDispatched_iff hc l)
    tracked_empty hls
  rw [← hflag, ← hexact]
  exact ⟨fun h => h.1, fun h => ⟨h, epochFences_of_keeps hls h⟩⟩

/-- The epoch advances while the adapter call of a dispatch runs. -/
def overtakenDispatch : List CriticalSection :=
  throttleNeighbor.map .op ++ [.dispatchBegin ⟨1⟩ 2000]

theorem late_acknowledgment_crosses_epoch :
    ¬∀ ls, Runs.Guarded sectionStep FinishKeeps {} ls ∧ EpochFences ls := by
  intro h
  let ls : List CriticalSection :=
    overtakenDispatch ++ [.op .advanceEpoch, .dispatchFinish 0 (some acceptingAdapter)]
  have hstate : ((Runs.exec sectionStep {} overtakenDispatch).bind fun c =>
      (c.gov.engine.interventions.find ⟨1⟩).map (·.state)) = some .dispatched := by decide +kernel
  have hafter : ((Runs.exec sectionStep {} ls).bind fun c =>
      (c.gov.engine.interventions.find ⟨1⟩).map (·.state)) = some .acknowledged := by
    decide +kernel
  obtain ⟨c₃, hrun, hack⟩ := Option.bind_eq_some_iff.mp hafter
  obtain ⟨c₁, hpre, hrest⟩ := Runs.exec_append.mp hrun
  obtain ⟨c₂, hadvance, hmid⟩ := Runs.exec_cons.mp hrest
  rw [hpre, Option.bind_some] at hstate
  obtain ⟨r, hr, hr'⟩ := Option.map_eq_some_iff.mp hstate
  obtain ⟨r₃, hr₃, hr₃'⟩ := Option.map_eq_some_iff.mp hack
  exact (h ls).2 overtakenDispatch [.dispatchFinish 0 (some acceptingAdapter)] [] c₁ c₂ c₃ ⟨1⟩
    rfl hpre hadvance hmid ⟨_, r, hr, hr'⟩ ⟨r₃, hr₃, hr₃'⟩

end ContentionGovernor
