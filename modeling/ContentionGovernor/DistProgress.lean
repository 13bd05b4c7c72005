import ContentionGovernor.DistOrder

/-!
# A run of the coordinator ends

Every section leaves less to do, so a run is short, and while nothing fails it can always go
on.
-/

namespace ContentionGovernor.Dist

open ContentionGovernor.Dist.Coordinator

/-! ## What is left to do -/

namespace Coordinator

variable {χ : Type} {ch : Channel χ} {w : χ → ℕ} {c c' : Coordinator χ} {now : TimeMs} {io : Bool}

/-- The sections still to come, a frame still to be sent counted as 5 more. -/
def rank (c : Coordinator χ) : ℕ :=
  match c.phase with
  | .accepting => 20 + 3 * (2 - c.accepted)
  | .greeting _ => 22 + 3 * (2 - c.accepted)
  | .reporting _ => 21 + 3 * (2 - c.accepted)
  | .authorizing => 19
  | .dispatching again _ => if again then 9 else 18
  | .applying again _ => if again then 8 else 17
  | .awaiting again _ _ => if again then 2 else 11
  | .finishing again _ _ => if again then 1 else 10
  | .requesting => 8
  | .collecting _ => 2
  | .printing | .draining _ => 1
  | .ended _ => 0

def pending (w : χ → ℕ) (c : Coordinator χ) : ℕ := c.rank + (c.workers.map w).sum

/-- Less is left to do, with the same connections. -/
def Advances (w : χ → ℕ) (c c' : Coordinator χ) : Prop :=
  c'.pending w + 1 ≤ c.pending w ∧ c'.workers.length = c.workers.length

end Coordinator

/-! ## Runs -/

/-- A worker that has connected has two frames to send. -/
def RunEvent.adds : RunEvent → ℕ
  | .connects _ => 5
  | .worker _ s => s.adds
  | .main _ _ => 0

/-- No socket fails and no worker dies of itself. -/
def RunEvent.Smooth : RunEvent → Prop
  | .connects o => StringFits o.role
  | .worker _ .breaks => False
  | .worker _ _ => True
  | .main _ io => io = true

instance : (e : RunEvent) → Decidable e.Smooth
  | .connects o => inferInstanceAs (Decidable (o.role.bytes.length ≤ kMaxStringLen))
  | .worker _ .breaks => .isFalse id
  | .worker _ .receives | .worker _ .sends => .isTrue trivial
  | .main _ io => inferInstanceAs (Decidable (io = true))

/-- The order of the coordinator before workers that answer at once. -/
def Coordinator.InOrder (c : Coordinator Link) : Prop := (c.map Link.mailbox).Orderly

theorem simulates_smooth : Runs.Simulates Coordinator.step Coordinator.syncStep
    (Coordinator.map Link.mailbox) RunEvent.seen (fun _ e => e.Smooth)
    Coordinator.InOrder := by
  have hunbroken : ∀ e : RunEvent, e.Smooth → Unbroken e := by
    intro e he
    cases e with
    | connects | main => trivial
    | worker i s =>
      cases s with
      | breaks => exact he
      | receives | sends => trivial
  refine ⟨fun c e c' hc he hstep => ?_, fun c e c' k _ he => ?_, fun c e c' _ he => ?_⟩
  · cases hseen : e.seen with
    | none =>
      rwa [Coordinator.InOrder,
        simulates_sections.silent c e c' trivial (hunbroken e he) hstep hseen]
    | some k =>
      have hk : k.Smooth := by
        cases e with
        | connects o => cases hseen; exact he
        | worker i s => cases hseen
        | main now io => cases hseen; exact he
      exact Coordinator.orderly_step hc hk
        (simulates_sections.visible c e c' k trivial (hunbroken e he) hstep hseen)
  · exact simulates_sections.visible c e c' k trivial (hunbroken e he)
  · exact simulates_sections.silent c e c' trivial (hunbroken e he)

/-- Before any worker has connected. -/
theorem orderly_start (mode : ByteString) {g : GovernorState} (hg : Sound g) :
    ({ mode, governor := g } : Coordinator Link).InOrder where
  fresh := nofun
  conns := nofun
  accepted := le_rfl
  sound := hg
  stands := ⟨Nat.zero_lt_two, fun j hj => absurd hj (Nat.not_lt_zero j)⟩

theorem orderly_run (mode : ByteString) {g : GovernorState} (hg : Sound g) {es : List RunEvent}
    {d : Coordinator Link} (hes : ∀ e ∈ es, e.Smooth)
    (hrun : Runs.exec Coordinator.step { mode, governor := g } es = some d) :
    d.InOrder :=
  Runs.invariant_of_guarded simulates_smooth.kept (Runs.guarded_of_forall hes) hrun
    (orderly_start mode hg)

/-- Without a failure, the answer to the adapter call depends on the worker of the target
alone: the record is acknowledged unless the worker has role A, which reports before it
acknowledges and leaves the outcome unknown; without a worker it has failed. -/
theorem dispatch_answered {mode : ByteString} {g : GovernorState} (hg : Sound g)
    {es : List RunEvent} {d d' : Coordinator Link} (hes : ∀ e ∈ es, e.Smooth)
    (hrun : Runs.exec Coordinator.step { mode, governor := g } es = some d)
    {t : DispatchTicket} {res : AdapterResult} (hphase : d.phase = .finishing false t res)
    {now : TimeMs} {io : Bool} (hstep : d.step (.main now io) = some d') :
    (d.conns.find t.target = none ∧ HasState d'.governor t.id .failed) ∨
    ∃ i l, d.conns.find t.target = some i ∧ d.workers[i]? = some l ∧
      HasState d'.governor t.id
        (if l.options.role = "A" then .outcomeUnknown else .acknowledged) := by
  have hstands := (orderly_run mode hg hes hrun).stands
  simp only [Coordinator.Stands, show (d.map Link.mailbox).phase = d.phase from rfl, hphase]
    at hstands
  obtain ⟨-, ⟨r, hr, -⟩, hanswered⟩ := hstands
  have hr : d.governor.engine.interventions.find t.id = some r := hr
  have hstate : HasState d'.governor t.id (outcomeState res.outcome) := by
    have hmain : d.main Link.channel now io = some d' := hstep
    simp only [Coordinator.main, hphase, Coordinator.finishes, Option.some.injEq] at hmain
    have hgovernor : d'.governor = (dispatchFinish t.id res d.governor).2 := by
      rw [← hmain]
      unfold Coordinator.dispatched
      split_ifs <;> rfl
    rw [hgovernor, dispatchFinish, hr]
    exact ⟨_, OrderedMap.find_insert_self .., applyOutcome_state res r⟩
  rcases hanswered with ⟨hnone, rfl⟩ | ⟨i, m, hi, hm, hres⟩
  · exact .inl ⟨hnone, hstate⟩
  · rw [Coordinator.map_workers] at hm
    obtain ⟨l, hl, rfl⟩ := Option.map_eq_some_iff.mp hm
    refine .inr ⟨i, l, hi, hl, ?_⟩
    rw [hres] at hstate
    unfold WorkerOptions.answer at hstate
    have hoptions : l.mailbox.options = l.options := rfl
    rw [hoptions] at hstate
    split_ifs at hstate ⊢ <;> exact hstate

theorem dispatch_answered_throttle :
    ((coordinatorAfter "basic" untilAnswered).conns.find ⟨2⟩ = none ∧
      HasState (coordinatorAfter "basic" (untilAnswered ++ [.main 1500 true])).governor ⟨1⟩ .failed) ∨
    ∃ i l, (coordinatorAfter "basic" untilAnswered).conns.find ⟨2⟩ = some i ∧
      (coordinatorAfter "basic" untilAnswered).workers[i]? = some l ∧
      HasState (coordinatorAfter "basic" (untilAnswered ++ [.main 1500 true])).governor ⟨1⟩
        (if l.options.role = "A" then .outcomeUnknown else .acknowledged) := by
  have hrun := exec_coordinatorAfter "basic" untilAnswered (by decide +kernel)
  have hafter := exec_coordinatorAfter "basic" (untilAnswered ++ [.main 1500 true]) (by decide +kernel)
  have hphase : (coordinatorAfter "basic" untilAnswered).phase =
      .finishing false ⟨⟨1⟩, .throttle, ⟨2⟩, ⟨1⟩⟩ ⟨.accepted, "", ⟨1⟩⟩ := by decide +kernel
  have hsmooth : ∀ e ∈ untilAnswered, e.Smooth := by decide +kernel
  obtain ⟨d, hd, hstep⟩ := Runs.exec_concat.mp hafter
  rw [hrun, Option.some.injEq] at hd
  subst hd
  have hanswered := dispatch_answered sound_empty hsmooth hrun hphase hstep
  exact hanswered

end ContentionGovernor.Dist
