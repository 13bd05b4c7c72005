import ContentionGovernor.DispatchSections
import ContentionGovernor.DistOrder

/-!
# What the coordinator does to its governor

Whatever fails, the governor within is in a state that its critical sections reach, and one
action at most is sent.
-/

namespace ContentionGovernor.Dist

namespace Coordinator

variable {χ : Type} {ch : Channel χ} {c c' : Coordinator χ} {now : TimeMs} {io : Bool}

/-! ## Critical sections -/

/-- The dispatch that stands between its critical sections. -/
def inFlight (c : Coordinator χ) : List InFlight :=
  match c.phase with
  | .applying _ t | .awaiting _ t _ | .finishing _ t _ => [⟨t, false⟩]
  | _ => []

def concurrent (c : Coordinator χ) : Concurrent := ⟨c.governor, c.inFlight⟩

/-- The throttle adapter is called for the classes that are its own; for another class the
result is that of no adapter. -/
def Fits (c : Coordinator χ) : Prop :=
  match c.phase with
  | .applying _ t | .awaiting _ t _ => asksThrottle t.cls
  | .finishing _ t res =>
    asksThrottle t.cls ∨ res = ⟨.unavailable, "no registered adapter for class", t.attempt⟩
  | _ => True

/-- A critical section that `main` takes. -/
def Takes : CriticalSection → Prop
  | .op op => ¬op.isLoad ∧ op ≠ .advanceEpoch
  | _ => True

/-- What follows within the same lock, or takes none. -/
def Reaches (c c' : Coordinator χ) : Prop :=
  ∃ ls, (∀ l ∈ ls, Takes l) ∧ Runs.exec sectionStep c.concurrent ls = some c'.concurrent

theorem reaches_same (hgovernor : c'.governor = c.governor) (hflight : c'.inFlight = c.inFlight) :
    c.Reaches c' :=
  ⟨[], by simp, by rw [Runs.exec_nil, concurrent, concurrent, hgovernor, hflight]⟩

/-- One critical section that is an operation, with no dispatch under way. -/
theorem reaches_op (op : Op) (hop : ¬op.isLoad ∧ op ≠ .advanceEpoch) (hbefore : c.inFlight = [])
    (hafter : c'.inFlight = []) (h : ContentionGovernor.step c.governor op = some c'.governor) :
    c.Reaches c' := by
  refine ⟨[.op op], by simpa [Takes] using hop, Runs.exec_cons.mpr ⟨c'.concurrent, ?_, rfl⟩⟩
  have h' : ContentionGovernor.step c.concurrent.gov op = some c'.governor := h
  rw [sectionStep, h', concurrent, concurrent, hbefore, hafter]
  rfl

theorem Reaches.trans {c'' : Coordinator χ} (h : c.Reaches c') (h' : c'.Reaches c'') :
    c.Reaches c'' := by
  obtain ⟨ls, hls, hrun⟩ := h
  obtain ⟨ls', hls', hrun'⟩ := h'
  refine ⟨ls ++ ls', fun l hl => ?_, Runs.exec_append.mpr ⟨_, hrun, hrun'⟩⟩
  exact (List.mem_append.mp hl).elim (hls l) (hls' l)

theorem inFlight_dispatched (c : Coordinator χ) (again : Bool) (id : InterventionId)
    (status : Status) : (c.dispatched again id status).inFlight = [] ∧
      (c.dispatched again id status).Fits ∧
      (c.dispatched again id status).governor = c.governor := by
  unfold dispatched
  split_ifs <;> exact ⟨rfl, trivial, rfl⟩

theorem reaches_greeted (c : Coordinator χ) (i : ℕ) (hello : WorkerHello)
    (hflight : c.inFlight = []) : c.Reaches (c.greeted i hello) := by
  -- Two operations, each under the lock.
  have hboot : c.Reaches { c with
      governor := (recordWorkerBoot ⟨hello.worker.value⟩ hello.boot c.governor).2 } :=
    reaches_op (.recordWorkerBoot _ _) ⟨Bool.false_ne_true, Op.noConfusion⟩ hflight hflight rfl
  exact hboot.trans (reaches_op (.recordWorkloadGeneration _ _)
    ⟨Bool.false_ne_true, Op.noConfusion⟩ hflight rfl rfl)

theorem reaches_received (hfits : c.Fits) {i : ℕ} (hi : c.source = some i)
    (r : Except Status Frame) : c.Reaches (c.received r) ∧ (c.received r).Fits := by
  have hflight : ∀ {p : Phase}, c.phase = p →
      c.inFlight = ({ c with phase := p } : Coordinator χ).inFlight := by
    rintro p rfl
    rfl
  unfold received
  unfold source at hi
  unfold Fits at hfits
  cases hphase : c.phase with
  | greeting j =>
    dsimp only
    rcases greet_cases c j r with ⟨code, h⟩ | ⟨hello, h⟩ <;> rw [h]
    · exact ⟨reaches_same rfl (hflight hphase).symm, trivial⟩
    · exact ⟨reaches_greeted c j hello (hflight hphase), trivial⟩
  | reporting v =>
    dsimp only
    rcases report_cases c r with ⟨code, h⟩ | ⟨e, h⟩ <;> rw [h]
    · exact ⟨reaches_same rfl (hflight hphase).symm, trivial⟩
    · unfold reported Fits
      have hafter : (c.reported e).inFlight = [] ∧ (c.reported e).Fits := by
        unfold reported inFlight Fits
        by_cases hmore : c.accepted < 2 <;> simp [hmore]
      exact ⟨reaches_op (.ingestEvidence e) ⟨Bool.false_ne_true, Op.noConfusion⟩ (hflight hphase)
        hafter.1 rfl, hafter.2⟩
  | awaiting again t j =>
    simp only [hphase] at hfits
    exact ⟨reaches_same rfl (hflight hphase).symm, .inl hfits⟩
  | collecting j =>
    refine ⟨?_, trivial⟩
    have hsame : c.Reaches { c with phase := .printing } :=
      reaches_same rfl (hflight hphase).symm
    unfold collect
    cases r with
    | error e => exact hsame
    | ok f =>
      dsimp only
      split_ifs
      · exact hsame
      · cases decodeEvidence f.payload with
        | none => exact hsame
        | some post =>
          exact reaches_op (.submitPostActionEvidence post) ⟨Bool.false_ne_true, Op.noConfusion⟩
            (hflight hphase) rfl rfl
  | draining id =>
    cases r with
    | error e => exact ⟨reaches_same rfl (hflight hphase).symm, trivial⟩
    | ok f =>
      refine ⟨reaches_same rfl rfl, ?_⟩
      unfold Fits
      rw [hphase]
      trivial
  | _ =>
    simp only [hphase] at hi
    cases hi

theorem reaches_receives (hfits : c.Fits) (hc : c.receives ch io = some c') :
    c.Reaches c' ∧ c'.Fits := by
  obtain ⟨i, hi, hc⟩ := Option.bind_eq_some_iff.mp hc
  cases io with
  | false =>
    cases hc
    exact reaches_received hfits hi _
  | true =>
    obtain ⟨l, hl, hc⟩ := Option.bind_eq_some_iff.mp hc
    obtain ⟨⟨r, l'⟩, hr, hc⟩ := Option.bind_eq_some_iff.mp hc
    cases hc
    have hfits' : (c.setWorker i l').Fits := hfits
    have hi' : (c.setWorker i l').source = some i := hi
    exact reaches_received hfits' hi' r

theorem reaches_sends {d : Coordinator χ} {i : ℕ} {f : Frame} (hc : d.sends ch i f = some c')
    (hgovernor : d.governor = c.governor) (hflight : d.inFlight = c.inFlight) (hfits : d.Fits) :
    c.Reaches c' ∧ c'.Fits := by
  obtain ⟨l, -, rfl⟩ := Option.map_eq_some_iff.mp hc
  exact ⟨reaches_same hgovernor hflight, hfits⟩

theorem reaches_begins (again : Bool) (id : InterventionId) (now : TimeMs)
    (hflight : c.inFlight = []) :
    c.Reaches (c.begins again id now) ∧ (c.begins again id now).Fits := by
  unfold begins
  cases hbegin : dispatchBegin id now c.governor with
  | mk x g =>
    cases x with
    | error e =>
      dsimp only
      obtain ⟨hafter, hfits, hgovernor⟩ :=
        inFlight_dispatched { c with governor := g } again id e
      refine ⟨⟨[.dispatchBegin id now], by simp [Takes], Runs.exec_cons.mpr ⟨_, ?_, rfl⟩⟩, hfits⟩
      simp only [sectionStep, concurrent, hbegin, hflight, hafter, hgovernor]
    | ok t =>
      dsimp only
      refine ⟨⟨[.dispatchBegin id now], by simp [Takes], Runs.exec_cons.mpr ⟨_, ?_, rfl⟩⟩, ?_⟩
      · simp only [sectionStep, concurrent, hbegin, hflight]
        cases asksThrottle t.cls <;> rfl
      · unfold Fits
        cases hasks : asksThrottle t.cls
        · exact .inr rfl
        · exact hasks

theorem reaches_finishes (again : Bool) {t : DispatchTicket} {res : AdapterResult}
    (hflight : c.inFlight = [⟨t, false⟩])
    (hfits : asksThrottle t.cls ∨
      res = ⟨.unavailable, "no registered adapter for class", t.attempt⟩) :
    c.Reaches (c.finishes again t res) ∧ (c.finishes again t res).Fits := by
  -- To the governor the exchange on the socket is an adapter that answers with its result.
  have hcall : callAdapter (some ⟨some fun _ _ _ _ => res⟩) t = res := by
    rw [callAdapter_throttle]
    split_ifs with hasks
    · rfl
    · exact (hfits.resolve_left hasks).symm
  unfold finishes
  obtain ⟨hafter, hfits', hgovernor⟩ := inFlight_dispatched
    { c with governor := (dispatchFinish t.id res c.governor).2 } again t.id
    (dispatchFinish t.id res c.governor).1
  refine ⟨⟨[.dispatchFinish 0 (some ⟨some fun _ _ _ _ => res⟩)], by simp [Takes],
    Runs.exec_cons.mpr ⟨_, ?_, rfl⟩⟩, hfits'⟩
  simp only [sectionStep, concurrent, hflight, hafter, hgovernor, List.getElem?_cons_zero,
    Option.map_some, hcall, List.eraseIdx_zero, List.tail_cons, List.map_nil]

/-- A section of `main` is a few critical sections of the governor. -/
theorem reaches_main (hfits : c.Fits) (hc : c.main ch now io = some c') :
    c.Reaches c' ∧ c'.Fits := by
  have hflight : ∀ {p : Phase}, c.phase = p →
      c.inFlight = ({ c with phase := p } : Coordinator χ).inFlight := by
    rintro p rfl
    rfl
  unfold main at hc
  cases hphase : c.phase with
  | accepting =>
    simp only [hphase] at hc
    split_ifs at hc <;> cases hc <;> exact ⟨reaches_same rfl (hflight hphase).symm, trivial⟩
  | greeting | reporting | awaiting | collecting =>
    simp only [hphase] at hc
    exact reaches_receives hfits hc
  | authorizing =>
    simp only [hphase, authorizes] at hc
    cases hids : conflictIds c.governor with
    | nil =>
      rw [hids] at hc
      cases hc
      exact ⟨reaches_same rfl (hflight hphase).symm, trivial⟩
    | cons cid rest =>
      rw [hids] at hc
      dsimp only at hc
      cases hauth : authorize cid .throttle now c.governor with
      | error e =>
        rw [hauth] at hc
        cases hc
      | ok p =>
        obtain ⟨id, g⟩ := p
        have hstep : ContentionGovernor.step c.governor (.authorize cid .throttle now) = some g := by
          rw [ContentionGovernor.step, Op.run, hauth]
          rfl
        rw [hauth] at hc
        cases id <;> cases hc <;>
          exact ⟨reaches_op (.authorize cid .throttle now) ⟨Bool.false_ne_true, Op.noConfusion⟩
            (hflight hphase) rfl hstep, trivial⟩
  | dispatching again id =>
    simp only [hphase] at hc
    cases hc
    exact reaches_begins again id now (hflight hphase)
  | applying again t =>
    simp only [hphase, applies] at hc
    simp only [Fits, hphase] at hfits
    split at hc
    · cases hc
      exact ⟨reaches_same rfl (hflight hphase).symm, .inl hfits⟩
    · split_ifs at hc with hio
      · exact reaches_sends hc rfl (hflight hphase).symm hfits
      · cases hc
        exact ⟨reaches_same rfl (hflight hphase).symm, .inl hfits⟩
  | finishing again t res =>
    simp only [hphase] at hc
    simp only [Fits, hphase] at hfits
    cases hc
    exact reaches_finishes again (hflight hphase) hfits
  | requesting =>
    simp only [hphase] at hc
    obtain ⟨conf, -, hc⟩ := Option.bind_eq_some_iff.mp hc
    obtain ⟨victim, -, hc⟩ := Option.bind_eq_some_iff.mp hc
    split at hc
    · cases hc
      exact ⟨reaches_same rfl (hflight hphase).symm, trivial⟩
    · dsimp only at hc
      split_ifs at hc
      · exact reaches_sends hc rfl (hflight hphase).symm trivial
      · cases hc
        exact ⟨reaches_same rfl (hflight hphase).symm, trivial⟩
  | printing =>
    simp only [hphase] at hc
    cases hc
    exact ⟨reaches_same rfl (hflight hphase).symm, trivial⟩
  | draining id =>
    simp only [hphase] at hc
    split_ifs at hc
    · cases hc
      exact ⟨reaches_same rfl (hflight hphase).symm, trivial⟩
    · exact reaches_receives hfits hc
  | ended out =>
    simp only [hphase] at hc
    cases hc

/-! ## One action -/

/-- The action that a section sends. -/
def sentBy (c : Coordinator χ) (io : Bool) : List DispatchTicket :=
  match c.phase with
  | .applying _ t => if io ∧ (c.conns.find t.target).isSome then [t] else []
  | _ => []

/-- Nothing is sent before the throttle adapter is called, and in mode `resume` the record
has left AUTHORIZED before it is dispatched again. -/
def Once (c : Coordinator χ) (sent : List DispatchTicket) : Prop :=
  match c.phase with
  | .accepting | .greeting _ | .reporting _ | .authorizing | .dispatching false _
  | .applying false _ => sent = []
  | .dispatching true id => sent.length ≤ 1 ∧
      ∃ r, c.governor.engine.interventions.find id = some r ∧ r.state ≠ .authorized
  | .applying true _ | .awaiting true _ _ | .finishing true _ _ => False
  | .ended out => sent.length ≤ 1 ∧ ∀ code, out = .resumeDispatch code → code = .staleAuthority
  | _ => sent.length ≤ 1

variable {sent : List DispatchTicket}

theorem once_exit (h : sent.length ≤ 1) {out : Exit}
    (hout : ∀ code, out = .resumeDispatch code → code = .staleAuthority) :
    (c.exit out).Once sent := ⟨h, hout⟩

theorem Once.length (h : c.Once sent) : sent.length ≤ 1 := by
  unfold Once at h
  split at h <;> simp_all

theorem once_received {i : ℕ} (hi : c.source = some i) (h : c.Once sent)
    (r : Except Status Frame) : (c.received r).Once sent := by
  have hlength := h.length
  unfold source at hi
  unfold Once at h
  unfold received
  cases hphase : c.phase with
  | greeting j =>
    dsimp only
    simp only [hphase] at h
    rcases greet_cases c j r with ⟨code, hgreet⟩ | ⟨hello, hgreet⟩ <;> rw [hgreet]
    · exact once_exit hlength nofun
    · exact h
  | reporting v =>
    dsimp only
    simp only [hphase] at h
    rcases report_cases c r with ⟨code, hreport⟩ | ⟨e, hreport⟩ <;> rw [hreport]
    · exact once_exit hlength nofun
    · unfold reported Once
      by_cases hmore : c.accepted < 2 <;> simp [hmore, h]
  | awaiting again t j =>
    simp only [hphase] at h
    cases again
    · exact hlength
    · exact h
  | collecting j => exact hlength
  | draining id =>
    cases r with
    | error e => exact once_exit hlength nofun
    | ok f =>
      unfold Once
      rw [hphase]
      exact hlength
  | _ =>
    simp only [hphase] at hi
    cases hi

theorem once_receives (h : c.Once sent) (hc : c.receives ch io = some c') : c'.Once sent := by
  obtain ⟨i, hi, hc⟩ := Option.bind_eq_some_iff.mp hc
  cases io with
  | false =>
    cases hc
    exact once_received hi h _
  | true =>
    obtain ⟨l, -, hc⟩ := Option.bind_eq_some_iff.mp hc
    obtain ⟨⟨r, l'⟩, -, hc⟩ := Option.bind_eq_some_iff.mp hc
    cases hc
    have hi' : (c.setWorker i l').source = some i := hi
    exact once_received hi' h r

/-- A record that has left AUTHORIZED is not dispatched. -/
theorem begins_again {id : InterventionId} {r : InterventionRecord}
    (hr : c.governor.engine.interventions.find id = some r) (hstate : r.state ≠ .authorized)
    (now : TimeMs) : c.begins true id now = c.exit (.resumeDispatch .staleAuthority) := by
  unfold begins dispatchBegin
  rw [hr]
  dsimp only
  rw [if_pos hstate]
  rfl

theorem outcomeState_ne_authorized (outcome : AdapterOutcome) :
    outcomeState outcome ≠ .authorized := by cases outcome <;> exact LifecycleState.noConfusion

theorem once_finishes {t : DispatchTicket} {res : AdapterResult} (h : sent.length ≤ 1) :
    (c.finishes false t res).Once sent := by
  unfold finishes dispatched
  cases hr : c.governor.engine.interventions.find t.id with
  | none =>
    simp only [dispatchFinish, hr, Bool.false_eq_true, if_false]
    rw [if_pos (by decide)]
    exact once_exit h nofun
  | some r =>
    simp only [dispatchFinish, hr, Bool.false_eq_true, if_false]
    rw [if_neg (by decide)]
    split_ifs
    · exact h
    · -- Mode `resume` goes on with a record that has its outcome.
      refine ⟨h, _, OrderedMap.find_insert_self .., ?_⟩
      rw [applyOutcome_state]
      exact outcomeState_ne_authorized res.outcome
    · exact h

/-- A section sends one action at most, and none before it has sent one. -/
theorem once_main (h : c.Once sent) (hc : c.main ch now io = some c') :
    c'.Once (sent ++ c.sentBy io) := by
  have hlength := h.length
  have hnone : (∀ again t, c.phase ≠ .applying again t) → sent ++ c.sentBy io = sent := by
    intro hphase
    unfold sentBy
    split
    · rename_i again t happlying
      exact absurd happlying (hphase again t)
    · exact List.append_nil sent
  unfold main at hc
  cases hphase : c.phase with
  | applying again t =>
    simp only [Once, hphase] at h
    cases again with
    | true => exact h.elim
    | false =>
      -- The one section that sends an action, and nothing has been sent before it.
      subst h
      simp only [hphase, applies] at hc
      simp only [sentBy, hphase, List.nil_append]
      cases htarget : c.conns.find t.target with
      | none =>
        simp only [htarget] at hc
        cases hc
        simp [Once]
      | some i =>
        simp only [htarget] at hc
        split_ifs at hc with hio
        · obtain ⟨l, -, rfl⟩ := Option.map_eq_some_iff.mp hc
          simp [Once, setWorker, hio]
        · cases hc
          simp [Once, hio]
  | accepting =>
    rw [hnone (by simp [hphase])]
    simp only [Once, hphase] at h
    simp only [hphase] at hc
    split_ifs at hc <;> cases hc
    · exact h
    · exact once_exit hlength (by simp)
  | greeting | reporting | awaiting | collecting =>
    rw [hnone (by simp [hphase])]
    simp only [hphase] at hc
    exact once_receives h hc
  | authorizing =>
    rw [hnone (by simp [hphase])]
    simp only [Once, hphase] at h
    simp only [hphase, authorizes] at hc
    split at hc
    · cases hc
      exact once_exit hlength (by simp)
    · split at hc <;> cases hc
      · exact once_exit hlength (by simp)
      · exact h
  | dispatching again id =>
    rw [hnone (by simp [hphase])]
    simp only [Once, hphase] at h
    simp only [hphase] at hc
    cases hc
    cases again with
    | true =>
      obtain ⟨-, r, hr, hstate⟩ := h
      rw [begins_again hr hstate]
      exact once_exit hlength fun code hcode => by cases hcode; rfl
    | false =>
      unfold begins
      cases hbegin : dispatchBegin id now c.governor with
      | mk x g =>
        cases x with
        | error e =>
          simp only [dispatched, Bool.false_eq_true, if_false]
          rw [if_pos (dispatchBegin_code hbegin)]
          exact once_exit hlength (by simp)
        | ok t =>
          dsimp only
          cases asksThrottle t.cls
          · exact hlength
          · exact h
  | finishing again t res =>
    rw [hnone (by simp [hphase])]
    simp only [Once, hphase] at h
    simp only [hphase] at hc
    cases hc
    cases again with
    | true => exact h.elim
    | false => exact once_finishes hlength
  | requesting =>
    rw [hnone (by simp [hphase])]
    simp only [hphase] at hc
    obtain ⟨conf, -, hc⟩ := Option.bind_eq_some_iff.mp hc
    obtain ⟨victim, -, hc⟩ := Option.bind_eq_some_iff.mp hc
    split at hc
    · cases hc
      exact hlength
    · dsimp only at hc
      split_ifs at hc
      · obtain ⟨l, -, rfl⟩ := Option.map_eq_some_iff.mp hc
        exact hlength
      · cases hc
        exact hlength
  | printing =>
    rw [hnone (by simp [hphase])]
    simp only [hphase] at hc
    cases hc
    exact once_exit hlength (by simp)
  | draining id =>
    rw [hnone (by simp [hphase])]
    simp only [hphase] at hc
    split_ifs at hc
    · cases hc
      exact once_exit hlength (by simp)
    · exact once_receives h hc
  | ended out =>
    simp only [hphase] at hc
    cases hc

end Coordinator

/-! ## Runs -/

/-- The actions that a step of the system sends. -/
def Coordinator.actionsSent (c : Coordinator Link) : RunEvent → List DispatchTicket
  | .main _ io => c.sentBy io
  | .connects _ | .worker _ _ => []

theorem reaches_step {c c' : Coordinator Link} {e : RunEvent} (hfits : c.Fits)
    (h : c.step e = some c') : c.Reaches c' ∧ c'.Fits := by
  cases e with
  | connects o =>
    simp only [Coordinator.step] at h
    split_ifs at h
    cases h
    exact ⟨Coordinator.reaches_same rfl rfl, hfits⟩
  | worker i s =>
    obtain ⟨l, -, h⟩ := Option.bind_eq_some_iff.mp h
    obtain ⟨l', -, h⟩ := Option.bind_eq_some_iff.mp h
    cases h
    exact ⟨Coordinator.reaches_same rfl rfl, hfits⟩
  | main now io => exact Coordinator.reaches_main hfits h

theorem once_step {c c' : Coordinator Link} {e : RunEvent} {sent : List DispatchTicket}
    (hc : c.Once sent) (h : c.step e = some c') : c'.Once (sent ++ c.actionsSent e) := by
  cases e with
  | connects o =>
    simp only [Coordinator.step] at h
    split_ifs at h
    cases h
    rw [Coordinator.actionsSent, List.append_nil]
    exact hc
  | worker i s =>
    obtain ⟨l, -, h⟩ := Option.bind_eq_some_iff.mp h
    obtain ⟨l', -, h⟩ := Option.bind_eq_some_iff.mp h
    cases h
    rw [Coordinator.actionsSent, List.append_nil]
    exact hc
  | main now io => exact Coordinator.once_main hc h

/-- Whatever fails, the governor of a run is in a state that its critical sections reach from
the first one, without a load or a new epoch, and the dispatch between its sections is the one
whose adapter call `main` is in. -/
theorem coordinator_sections {mode : ByteString} {g : GovernorState} {es : List RunEvent}
    {d : Coordinator Link}
    (hrun : Runs.exec Coordinator.step { mode, governor := g } es = some d) :
    ∃ ls, (∀ l ∈ ls, Coordinator.Takes l) ∧
      Runs.exec sectionStep ⟨g, []⟩ ls = some ⟨d.governor, d.inFlight⟩ := by
  set start : Coordinator Link := { mode, governor := g }
  have hstep : ∀ c e c', (start.Reaches c ∧ c.Fits) → c.step e = some c' →
      start.Reaches c' ∧ c'.Fits := by
    rintro c e c' ⟨hreaches, hfits⟩ h
    obtain ⟨hnext, hfits'⟩ := reaches_step hfits h
    exact ⟨hreaches.trans hnext, hfits'⟩
  exact (Runs.invariant hstep hrun ⟨Coordinator.reaches_same rfl rfl, trivial⟩).1

theorem coordinator_sections_answered : ∃ ls, (∀ l ∈ ls, Coordinator.Takes l) ∧
    Runs.exec sectionStep ⟨{}, []⟩ ls =
      some ⟨(coordinatorAfter "basic" untilAnswered).governor,
        (coordinatorAfter "basic" untilAnswered).inFlight⟩ :=
  coordinator_sections (exec_coordinatorAfter "basic" untilAnswered (by decide +kernel))

/-- Whatever fails, a run sends one action at most, and the second dispatch of mode `resume`
is refused for the state of its record. -/
theorem one_action_sent {mode : ByteString} {g : GovernorState} {es : List RunEvent}
    {d : Coordinator Link}
    (hrun : Runs.exec Coordinator.step { mode, governor := g } es = some d) :
    (Runs.events Coordinator.step Coordinator.actionsSent
      ({ mode, governor := g } : Coordinator Link) es).length ≤ 1 ∧
    ∀ code, d.phase = .ended (.resumeDispatch code) → code = .staleAuthority := by
  have hstart : ({ mode, governor := g } : Coordinator Link).Once [] := rfl
  have hstep : ∀ (c : Coordinator Link) e c' sent, c.Once sent → True → c.step e = some c' →
      c'.Once (sent ++ c.actionsSent e) := fun _ _ _ _ hc _ h => once_step hc h
  have honce := Runs.events_of_guarded hstep (Runs.guarded_of_forall fun _ _ => trivial) hrun hstart
  rw [List.nil_append] at honce
  refine ⟨honce.length, fun code hphase => ?_⟩
  simp only [Coordinator.Once, hphase] at honce
  exact honce.2 code rfl

/-- The intervention is dispatched, and again. -/
def untilResumed : List RunEvent := untilAnswered ++ [.main 1500 true, .main 1500 true]

theorem one_action_sent_resumed :
    (Runs.events Coordinator.step Coordinator.actionsSent
      ({ mode := "resume", governor := {} } : Coordinator Link) untilResumed).length ≤ 1 ∧
    ∀ code, (coordinatorAfter "resume" untilResumed).phase = .ended (.resumeDispatch code) →
      code = .staleAuthority :=
  one_action_sent (exec_coordinatorAfter "resume" untilResumed (by decide +kernel))

end ContentionGovernor.Dist
