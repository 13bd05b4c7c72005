import ContentionGovernor.DistRuns

/-!
# The coordinator while nothing fails

It waits only for frames that come, reads each for what it is, and gets the answer of the
worker its action went to.
-/

namespace ContentionGovernor

/-! ## The governor within -/

/-- The state `main` relies on: a conflict lists present evidence first and affects some
workload. -/
structure Sound (s : GovernorState) : Prop where
  fronts : FrontsPresent s
  affected : ∀ cid c, s.engine.conflicts.find cid = some c → c.affected ≠ []

theorem sound_empty : Sound {} where
  fronts := by
    rintro cid eid ⟨c, hc, -⟩
    cases hc
  affected := by
    intro cid c hc
    cases hc

theorem step_sound {s s' : GovernorState} {op : Op} (h : step s op = some s')
    (hload : ¬op.isLoad) (hs : Sound s) : Sound s' where
  fronts := step_frontsPresent hs.fronts (fun hop => absurd hop hload) h
  affected := by
    intro cid c' hc'
    rcases step_stores h hload with ⟨-, hkeeps⟩ | ⟨e, -, -, hjoins⟩
    · obtain ⟨c, hc, hsame⟩ := hkeeps.conflicts.exists_left hc'
      rw [hsame.affected]
      exact hs.affected cid c hc
    · rcases hjoins.find_cases hc' with hc | ⟨c, hlocated, -, hsame, -⟩ | ⟨-, -, -, hnew, -⟩
      · exact hs.affected cid c' hc
      · rw [hsame]
        exact hs.affected cid c (locateConflict_find hlocated)
      · rw [hnew]
        exact List.cons_ne_nil _ _

theorem OnlyInterventions.sound {s s' : GovernorState} (h : OnlyInterventions s s')
    (hs : Sound s) : Sound s' := by
  obtain ⟨_, _, rfl⟩ := h
  exact ⟨hs.fronts, hs.affected⟩

theorem sound_boot {s : GovernorState} (w : WorkloadId) (boot : WorkerBootId) (hs : Sound s) :
    Sound (recordWorkerBoot w boot s).2 :=
  have hstep : step s (.recordWorkerBoot w boot) = some (recordWorkerBoot w boot s).2 := rfl
  step_sound hstep Bool.false_ne_true hs

theorem sound_generation {s : GovernorState} (w : WorkloadId) (g : WorkloadGeneration)
    (hs : Sound s) : Sound (recordWorkloadGeneration w g s).2 :=
  have hstep : step s (.recordWorkloadGeneration w g) =
    some (recordWorkloadGeneration w g s).2 := rfl
  step_sound hstep Bool.false_ne_true hs

theorem sound_ingest {s : GovernorState} (e : InterferenceEvidence) (hs : Sound s) :
    Sound (ingestEvidence e s).2 :=
  have hstep : step s (.ingestEvidence e) = some (ingestEvidence e s).2 := rfl
  step_sound hstep Bool.false_ne_true hs

theorem sound_submit {s : GovernorState} (e : InterferenceEvidence) (hs : Sound s) :
    Sound (submitPostActionEvidence e s).2 :=
  have hstep : step s (.submitPostActionEvidence e) =
    some (submitPostActionEvidence e s).2 := rfl
  step_sound hstep Bool.false_ne_true hs

theorem sound_authorize {s g : GovernorState} {cid : ConflictId} {cls : InterventionClass}
    {now : TimeMs} {id : Option InterventionId} (hs : Sound s)
    (h : authorize cid cls now s = .ok (id, g)) : Sound g := by
  have hstep : step s (.authorize cid cls now) = some g := by
    rw [step, Op.run, h]
    rfl
  exact step_sound hstep Bool.false_ne_true hs

theorem dispatchBegin_code {s s' : GovernorState} {id : InterventionId} {now : TimeMs}
    {e : Status} (h : dispatchBegin id now s = (.error e, s')) : e.code ≠ .ok := by
  unfold dispatchBegin at h
  split at h
  · cases h
    exact StatusCode.noConfusion
  · dsimp only at h
    split_ifs at h with hstate hvalid <;> cases h
    · exact StatusCode.noConfusion
    · exact hvalid

end ContentionGovernor

namespace ContentionGovernor.Dist

open ContentionGovernor.Dist.Coordinator

/-! ## The frames of a worker -/

theorem fits_evidence (o : WorkerOptions) : WireFits o.evidence where
  neighbors := Nat.le_of_ble_eq_true rfl
  attribution := by
    show ByteEnum.raw AttributionStrength.controlledComparison < 6
    decide
  sourceId := Nat.zero_le _
  sourceHealth := Nat.zero_le _
  confounders := Nat.zero_le _
  strings := by
    intro c hc
    cases hc

/-- What a worker sends for an action. -/
theorem turn_action (o : WorkerOptions) (a : WireAction) : o.turn (actionFrame a) =
    ((if o.role = "A" then [evidenceFrame o.postEvidence] else []) ++ [ackFrame a.ack],
      o.dieAfterAck) := by
  unfold WorkerOptions.turn actionFrame
  dsimp only
  rw [if_pos rfl, decodeAction_encodeAction]

/-- What a worker sends for a request. -/
theorem turn_request (o : WorkerOptions) :
    o.turn requestFrame = ([evidenceFrame o.postEvidence], false) := by
  unfold WorkerOptions.turn requestFrame
  dsimp only
  rw [if_neg (by decide), if_neg (by decide), if_pos rfl]

/-- The answer that `apply` gets from a worker with nothing else to be read. -/
def WorkerOptions.answer (o : WorkerOptions) (attempt : AttemptId) : AdapterResult :=
  if o.role = "A" then ⟨.unknown, "bad ack", attempt⟩ else ⟨.accepted, "", attempt⟩

theorem applyResult_bad {attempt : AttemptId} {f : Frame} (h : decodeAck f.payload = none) :
    applyResult attempt (.ok f) = ⟨.unknown, "bad ack", attempt⟩ := by
  unfold applyResult
  dsimp only
  rw [h]

theorem applyResult_ack {attempt : AttemptId} {f : Frame} {ack : WireAck}
    (h : decodeAck f.payload = some ack) : applyResult attempt (.ok f) =
      ⟨if ack.acknowledged then .accepted else .rejected, ack.note, attempt⟩ := by
  unfold applyResult
  dsimp only
  rw [h]

theorem applyResult_turn (o : WorkerOptions) (a : WireAction) :
    ∃ f rest, (o.turn (actionFrame a)).1 = f :: rest ∧
      applyResult a.attempt (.ok f) = o.answer a.attempt := by
  have hevidence : decodeAck (encodeEvidence o.postEvidence) = none := decodeAck_encodeEvidence rfl
  have hack : decodeAck (encodeAck a.ack) = some a.ack := decodeAck_encodeAck (Nat.zero_le _)
  rw [turn_action]
  unfold WorkerOptions.answer
  by_cases hrole : o.role = "A"
  · rw [if_pos hrole, if_pos hrole]
    exact ⟨evidenceFrame o.postEvidence, [ackFrame a.ack], rfl, applyResult_bad hevidence⟩
  · rw [if_neg hrole, if_neg hrole]
    have hframe : decodeAck (ackFrame a.ack).payload = some a.ack := hack
    exact ⟨ackFrame a.ack, [], rfl, (applyResult_ack hframe).trans rfl⟩

/-! ## What holds while nothing fails -/

/-- No socket fails and no worker dies; the role of a worker fits its hello. -/
def Section.Smooth : Section → Prop
  | .connects o => StringFits o.role
  | .main _ io => io = true

namespace Coordinator

/-- Of every accepted connection apart from one, all has been read. -/
def Idle (c : Coordinator Mailbox) (busy : Option ℕ) : Prop :=
  ∀ j < c.accepted, some j ≠ busy → ∃ o, c.workers[j]? = some ⟨o, [], false⟩

/-- The conflict that is acted on is there. -/
def Acting (c : Coordinator Mailbox) : Prop := ∃ conf, conflict c.subject c.governor = some conf

/-- The record of a dispatch that goes to the throttle adapter. -/
def Throttles (c : Coordinator Mailbox) (id : InterventionId) : Prop :=
  ∃ r, c.governor.engine.interventions.find id = some r ∧ r.cls = .throttle

/-- What comes from connection `i` is there, or its end. -/
def Answers (c : Coordinator Mailbox) (i : ℕ) : Prop :=
  ∃ m, c.workers[i]? = some m ∧ (m.queue ≠ [] ∨ m.left)

/-- The result of the adapter call is that of the target's worker. -/
def Answered (c : Coordinator Mailbox) (t : DispatchTicket) (res : AdapterResult) : Prop :=
  (c.conns.find t.target = none ∧ res = ⟨.unavailable, "no worker for target", t.attempt⟩) ∨
  ∃ i m, c.conns.find t.target = some i ∧ c.workers[i]? = some m ∧
    res = m.options.answer t.attempt

/-- What holds where `main` stands. -/
def Stands (c : Coordinator Mailbox) : Prop :=
  match c.phase with
  | .accepting => c.accepted < 2 ∧ c.Idle none
  | .greeting i => i < c.accepted ∧ c.Idle (some i) ∧
      ∃ o, c.workers[i]? = some (.connect o) ∧ StringFits o.role
  | .reporting w => ∃ i, c.conns.find w = some i ∧ c.Idle (some i) ∧
      ∃ o, c.workers[i]? = some ⟨o, [evidenceFrame o.evidence], false⟩
  | .authorizing => c.Idle none
  | .dispatching false id => c.Idle none ∧ c.Acting ∧ c.Throttles id
  | .applying false t => c.Idle none ∧ c.Acting ∧ c.Throttles t.id ∧ t.cls = .throttle
  | .awaiting false t i => c.conns.find t.target = some i ∧ c.Acting ∧ c.Throttles t.id ∧
      ∃ o, c.workers[i]? = some ((⟨o, [], false⟩ : Mailbox).post (actionFrame (ticketAction t)))
  | .finishing false t res => c.Acting ∧ c.Throttles t.id ∧ c.Answered t res
  | .requesting => c.Acting
  | .awaiting true _ i | .collecting i => i < c.accepted ∧ c.Answers i
  | .ended out => ∀ code, out = .failure code → code = 9
  | _ => True

/-- The connections: the workers not yet accepted have sent what they send first. -/
structure Base (c : Coordinator Mailbox) : Prop where
  fresh : ∀ i m, c.accepted ≤ i → c.workers[i]? = some m →
    ∃ o, m = .connect o ∧ StringFits o.role
  conns : ∀ w i, c.conns.find w = some i → i < c.accepted
  accepted : c.accepted ≤ c.workers.length
  sound : Sound c.governor

structure Orderly (c : Coordinator Mailbox) : Prop extends Base c where
  stands : c.Stands

variable {χ : Type} {c c' : Coordinator Mailbox}

theorem Base.setWorker (h : Base c) {i : ℕ} (hi : i < c.accepted) (m : Mailbox) :
    Base (c.setWorker i m) where
  fresh := by
    intro j n hj hn
    have hne : i ≠ j := fun heq => absurd hj (by simp [Coordinator.setWorker, ← heq, hi])
    rw [Coordinator.setWorker, List.getElem?_set_ne hne] at hn
    exact h.fresh j n hj hn
  conns := h.conns
  accepted := by
    simp only [Coordinator.setWorker, List.length_set]
    exact h.accepted
  sound := h.sound

/-- The phase, the subject and a sound governor can be put in place. -/
theorem Base.move (h : Base c) {g : GovernorState} (hg : Sound g) (p : Phase)
    (subject : ConflictId) : Base { c with governor := g, phase := p, subject := subject } :=
  ⟨h.fresh, h.conns, h.accepted, hg⟩

theorem Base.lt (h : Base c) {w : WorkloadId} {i : ℕ} (hi : c.conns.find w = some i) :
    i < c.workers.length := lt_of_lt_of_le (h.conns w i hi) h.accepted

theorem workers_setWorker {i : ℕ} (hi : i < c.workers.length) (m : Mailbox) :
    (c.setWorker i m).workers[i]? = some m := List.getElem?_set_self hi

/-- The connection that was busy has been read to its end. -/
theorem Idle.done {i : ℕ} (h : c.Idle (some i)) {o : WorkerOptions}
    (hi : c.workers[i]? = some ⟨o, [], false⟩) : c.Idle none := by
  intro j hj _
  by_cases heq : j = i
  · exact ⟨o, heq ▸ hi⟩
  · exact h j hj (by simpa using heq)

theorem Idle.setWorker {i : ℕ} (h : c.Idle (some i)) (m : Mailbox) :
    (c.setWorker i m).Idle (some i) := by
  intro j hj hne
  have hji : i ≠ j := fun heq => hne (by rw [heq])
  rw [Coordinator.setWorker, List.getElem?_set_ne hji]
  exact h j hj hne

/-! ## Each section keeps it -/

/-- The next section can be taken and keeps the order. -/
def Goes (c : Coordinator Mailbox) (now : TimeMs) : Prop :=
  ∃ c', c.main Mailbox.channel now true = some c' ∧ Orderly c'

theorem stands_grow {ws : List Mailbox} (h : c.Stands)
    (hkeep : ∀ (i : ℕ) (m : Mailbox), c.workers[i]? = some m → ws[i]? = some m) :
    Stands { c with workers := ws } := by
  have hidle : ∀ busy, c.Idle busy → Idle { c with workers := ws } busy := by
    intro busy hbusy j hj hne
    obtain ⟨o, ho⟩ := hbusy j hj hne
    exact ⟨o, hkeep j _ ho⟩
  have hanswers : ∀ i, c.Answers i → Answers { c with workers := ws } i := by
    rintro i ⟨m, hm, hsome⟩
    exact ⟨m, hkeep i m hm, hsome⟩
  unfold Stands at h ⊢
  cases hphase : c.phase with
  | accepting =>
    simp only [hphase] at h ⊢
    exact ⟨h.1, hidle none h.2⟩
  | greeting i =>
    simp only [hphase] at h ⊢
    obtain ⟨hi, hrest, o, ho, hrole⟩ := h
    exact ⟨hi, hidle _ hrest, o, hkeep i _ ho, hrole⟩
  | reporting w =>
    simp only [hphase] at h ⊢
    obtain ⟨i, hi, hrest, o, ho⟩ := h
    exact ⟨i, hi, hidle _ hrest, o, hkeep i _ ho⟩
  | authorizing =>
    simp only [hphase] at h ⊢
    exact hidle none h
  | dispatching again id =>
    cases again
    · simp only [hphase] at h ⊢
      exact ⟨hidle none h.1, h.2⟩
    · trivial
  | applying again t =>
    cases again
    · simp only [hphase] at h ⊢
      exact ⟨hidle none h.1, h.2⟩
    · trivial
  | awaiting again t i =>
    cases again
    · simp only [hphase] at h ⊢
      obtain ⟨hi, hacting, hrecord, o, ho⟩ := h
      exact ⟨hi, hacting, hrecord, o, hkeep i _ ho⟩
    · simp only [hphase] at h ⊢
      exact ⟨h.1, hanswers i h.2⟩
  | finishing again t res =>
    cases again
    · simp only [hphase] at h ⊢
      refine ⟨h.1, h.2.1, ?_⟩
      rcases h.2.2 with hnone | ⟨i, m, hi, hm, hres⟩
      · exact .inl hnone
      · exact .inr ⟨i, m, hi, hkeep i m hm, hres⟩
    · trivial
  | requesting =>
    simp only [hphase] at h ⊢
    exact h
  | collecting i =>
    simp only [hphase] at h ⊢
    exact ⟨h.1, hanswers i h.2⟩
  | ended out =>
    simp only [hphase] at h ⊢
    exact h
  | printing | draining => trivial

theorem orderly_connects (h : Orderly c) {o : WorkerOptions} (hrole : StringFits o.role) :
    Orderly { c with workers := c.workers ++ [.connect o] } where
  fresh := by
    intro i m hi hm
    rcases Nat.lt_or_ge i c.workers.length with hlt | hge
    · rw [List.getElem?_append_left hlt] at hm
      exact h.fresh i m hi hm
    · rw [List.getElem?_append_right hge] at hm
      have hm := List.mem_of_getElem? hm
      rw [List.mem_singleton] at hm
      exact ⟨o, hm, hrole⟩
  conns := h.conns
  accepted := by
    rw [List.length_append]
    exact h.accepted.trans (Nat.le_add_right _ _)
  sound := h.sound
  stands := stands_grow h.stands fun i m hm => by
    rw [List.getElem?_append_left (List.getElem?_eq_some_iff.mp hm).1, hm]

theorem goes_accepting (h : Orderly c) (hphase : c.phase = .accepting)
    (hwaits : c.accepted < c.workers.length) (now : TimeMs) : c.Goes now := by
  have hstands := h.stands
  simp only [Stands, hphase] at hstands
  obtain ⟨-, hidle⟩ := hstands
  refine ⟨{ c with accepted := c.accepted + 1, phase := .greeting c.accepted }, ?_, ?_⟩
  · simp [main, hphase, hwaits]
  · obtain ⟨o, ho, hrole⟩ := h.fresh c.accepted _ le_rfl (List.getElem?_eq_getElem hwaits)
    refine ⟨⟨fun i m hi => h.fresh i m (Nat.le_of_succ_le hi), ?_, hwaits, h.sound⟩, ?_⟩
    · exact fun w i hi => Nat.lt_succ_of_lt (h.conns w i hi)
    · refine ⟨Nat.lt_succ_self _, fun j hj hne => ?_, o, ?_, hrole⟩
      · have hne : j ≠ c.accepted := fun heq => hne (by rw [heq])
        exact hidle j (lt_of_le_of_ne (Nat.lt_succ_iff.mp hj) hne) nofun
      · rw [← ho]
        exact List.getElem?_eq_getElem hwaits

/-- A receive from a connection on which a frame is there. -/
theorem receives_frame {i : ℕ} {m : Mailbox} {f : Frame} {rest : List Frame}
    (hsource : c.source = some i) (hm : c.workers[i]? = some m) (hqueue : m.queue = f :: rest) :
    c.receives Mailbox.channel true =
      some ((c.setWorker i { m with queue := rest }).received (.ok f)) := by
  simp [receives, hsource, hm, Mailbox.channel, Mailbox.receive, hqueue]

/-- A receive from a connection on which a frame is there, or its end. -/
theorem receives_answer {i : ℕ} (hsource : c.source = some i) (h : c.Answers i) :
    ∃ r m, c.receives Mailbox.channel true = some ((c.setWorker i m).received r) := by
  obtain ⟨m, hm, hthere⟩ := h
  cases hqueue : m.queue with
  | cons f rest => exact ⟨_, _, receives_frame hsource hm hqueue⟩
  | nil =>
    have hleft : m.left = true := hthere.resolve_left (not_not.mpr hqueue)
    refine ⟨.error (protocolError "peer closed"), m, ?_⟩
    simp [receives, hsource, hm, Mailbox.channel, Mailbox.receive, hqueue, hleft]

theorem goes_greeting (h : Orderly c) {i : ℕ} (hphase : c.phase = .greeting i)
    (now : TimeMs) : c.Goes now := by
  have hstands := h.stands
  simp only [Stands, hphase] at hstands
  obtain ⟨hi, hidle, o, ho, hrole⟩ := hstands
  have hsource : c.source = some i := by simp [source, hphase]
  have hhello : decodeHello (encodeHello o.hello) = some o.hello := decodeHello_encodeHello hrole
  have hlt : i < c.workers.length := lt_of_lt_of_le hi h.accepted
  set m : Mailbox := ⟨o, [evidenceFrame o.evidence], false⟩
  have hgreet : (c.setWorker i m).received (.ok ⟨.workerStatus, encodeHello o.hello⟩) =
      (c.setWorker i m).greeted i o.hello := by
    have hphase' : (c.setWorker i m).phase = .greeting i := hphase
    unfold received
    rw [hphase']
    simp only [greet, ne_eq, not_true_eq_false, if_false, hhello]
  refine ⟨(c.setWorker i m).greeted i o.hello, ?_, ?_⟩
  · unfold main
    rw [hphase]
    exact (receives_frame hsource ho rfl).trans (congrArg some hgreet)
  · have hbase := h.toBase.setWorker hi m
    have hsound := sound_generation ⟨o.hello.worker.value⟩ o.hello.workloadGen
      (sound_boot ⟨o.hello.worker.value⟩ o.hello.boot h.sound)
    refine ⟨⟨hbase.fresh, fun w j hj => ?_, hbase.accepted, hsound⟩, ?_⟩
    · rcases OrderedMap.find_insert_cases hj with ⟨-, rfl⟩ | ⟨-, hj⟩
      · exact hi
      · exact h.conns w j hj
    · exact ⟨i, OrderedMap.find_insert_self .., hidle.setWorker m, o, workers_setWorker hlt m⟩

theorem goes_reporting (h : Orderly c) {w : WorkloadId} (hphase : c.phase = .reporting w)
    (now : TimeMs) : c.Goes now := by
  have hstands := h.stands
  simp only [Stands, hphase] at hstands
  obtain ⟨i, hi, hidle, o, ho⟩ := hstands
  have hsource : c.source = some i := by simp [source, hphase, hi]
  have hevidence : decodeEvidence (encodeEvidence o.evidence) = _ :=
    decodeEvidence_encodeEvidence (fits_evidence o)
  set e : InterferenceEvidence := { o.evidence with degradation := 0.0, improvement := 0.0 }
  set m : Mailbox := ⟨o, [], false⟩
  have hreport : (c.setWorker i m).received (.ok (evidenceFrame o.evidence)) =
      (c.setWorker i m).reported e := by
    have hphase' : (c.setWorker i m).phase = .reporting w := hphase
    unfold received
    rw [hphase']
    simp only [report, evidenceFrame, ne_eq, not_true_eq_false, if_false, hevidence]
  refine ⟨(c.setWorker i m).reported e, ?_, ?_⟩
  · unfold main
    rw [hphase]
    exact (receives_frame hsource ho rfl).trans (congrArg some hreport)
  · have hbase := h.toBase.setWorker (h.conns w i hi) m
    have hsound := sound_ingest e h.sound
    have hdone : (c.setWorker i m).Idle none :=
      (hidle.setWorker m).done (workers_setWorker (h.lt hi) m)
    refine ⟨⟨hbase.fresh, hbase.conns, hbase.accepted, hsound⟩, ?_⟩
    unfold reported Stands
    by_cases hmore : c.accepted < 2
    · rw [show (c.setWorker i m).accepted = c.accepted from rfl, if_pos hmore]
      exact ⟨hmore, hdone⟩
    · rw [show (c.setWorker i m).accepted = c.accepted from rfl, if_neg hmore]
      exact hdone

theorem orderly_exit (h : Base c) {out : Exit} (hout : ∀ code, out = .failure code → code = 9) :
    Orderly (c.exit out) := ⟨⟨h.fresh, h.conns, h.accepted, h.sound⟩, hout⟩

theorem goes_authorizing (h : Orderly c) (hphase : c.phase = .authorizing) (now : TimeMs) :
    c.Goes now := by
  have hidle := h.stands
  simp only [Stands, hphase] at hidle
  unfold Goes main
  rw [hphase]
  simp only [authorizes]
  cases conflictIds c.governor with
  | nil => exact ⟨_, rfl, orderly_exit h.toBase fun code hcode => by cases hcode; rfl⟩
  | cons cid rest =>
    dsimp only
    obtain ⟨⟨id, g⟩, hauth⟩ :=
      (authorizeSafe_of_present h.sound.fronts).returns cid .throttle now
    have hsound := sound_authorize h.sound hauth
    rw [hauth]
    cases id with
    | none =>
      refine ⟨_, rfl, h.toBase.move hsound _ c.subject, fun code hcode => ?_⟩
      cases hcode
    | some id =>
      refine ⟨_, rfl, h.toBase.move hsound _ cid, ?_⟩
      rcases authorize_cases hauth with ⟨-, hnone⟩ | ⟨grant, hgrant, hcommit⟩
      · cases hnone
      · cases hcommit
        obtain ⟨p, -, -, hcls⟩ := (granted_of_checks hgrant).picked
        refine ⟨hidle, ⟨_, OrderedMap.find_insert_self ..⟩, _, OrderedMap.find_insert_self .., ?_⟩
        exact hcls.trans (if_pos InterventionClass.noConfusion)

/-- The conflicts are as they were, and the records by which the dispatch goes on. -/
theorem acting_of_only {d : Coordinator Mailbox} (h : c.Acting) (hsubject : d.subject = c.subject)
    (honly : OnlyInterventions c.governor d.governor) : d.Acting := by
  obtain ⟨m, n, hd⟩ := honly
  unfold Acting conflict
  rw [hsubject, hd]
  exact h

theorem goes_dispatching (h : Orderly c) {again : Bool} {id : InterventionId}
    (hphase : c.phase = .dispatching again id) (now : TimeMs) : c.Goes now := by
  have hstands := h.stands
  refine ⟨c.begins again id now, by unfold main; rw [hphase], ?_⟩
  have honly := onlyInterventions_begin id now c.governor
  unfold begins
  cases hbegin : dispatchBegin id now c.governor with
  | mk x g =>
    rw [hbegin] at honly
    have hsound := honly.sound h.sound
    cases x with
    | error e =>
      dsimp only
      have hbase := h.toBase.move hsound c.phase c.subject
      cases again with
      | true => exact orderly_exit hbase nofun
      | false =>
        simp only [dispatched, Bool.false_eq_true, if_false, dispatchBegin_code hbegin, ne_eq,
          not_false_eq_true, if_true]
        exact orderly_exit hbase nofun
    | ok t =>
      dsimp only
      refine ⟨h.toBase.move hsound _ c.subject, ?_⟩
      cases again with
      | true =>
        unfold Stands
        cases asksThrottle t.cls <;> trivial
      | false =>
        simp only [Stands, hphase] at hstands
        obtain ⟨hidle, hacting, r, hr, hcls⟩ := hstands
        obtain ⟨r', hr', -, -, rfl, rfl⟩ := dispatchBegin_ok hbegin
        rw [hr, Option.some.injEq] at hr'
        subst hr'
        have hasks : asksThrottle r.cls = true := by rw [hcls]; rfl
        simp only [Stands, hasks, if_true]
        refine ⟨hidle, acting_of_only hacting rfl honly, ?_, hcls⟩
        exact ⟨_, OrderedMap.find_insert_self .., hcls⟩

/-- A worker that has not left answers what makes it send. -/
theorem post_answers {m : Mailbox} {f : Frame} (hturn : (m.options.turn f).1 ≠ []) :
    (m.post f).queue ≠ [] ∨ (m.post f).left := by
  unfold Mailbox.post
  split_ifs with hleft
  · exact .inr hleft
  · exact .inl (List.append_ne_nil_of_right_ne_nil _ hturn)

theorem turn_action_ne_nil (o : WorkerOptions) (a : WireAction) :
    (o.turn (actionFrame a)).1 ≠ [] := by
  obtain ⟨f, rest, hturn, -⟩ := applyResult_turn o a
  rw [hturn]
  exact List.cons_ne_nil _ _

theorem goes_applying (h : Orderly c) {again : Bool} {t : DispatchTicket}
    (hphase : c.phase = .applying again t) (now : TimeMs) : c.Goes now := by
  have hstands := h.stands
  unfold Goes main
  rw [hphase]
  dsimp only
  unfold applies
  cases htarget : c.conns.find t.target with
  | none =>
    refine ⟨_, rfl, h.toBase.move h.sound _ c.subject, ?_⟩
    cases again with
    | true => trivial
    | false =>
      simp only [Stands, hphase] at hstands
      exact ⟨hstands.2.1, hstands.2.2.1, .inl ⟨htarget, rfl⟩⟩
  | some i =>
    have hi := h.conns _ i htarget
    have hlt := h.lt htarget
    obtain ⟨m, hm⟩ : ∃ m, c.workers[i]? = some m := ⟨_, List.getElem?_eq_getElem hlt⟩
    simp only [if_true, sends, hm, Option.map_some]
    have hbase := (h.toBase.setWorker hi (m.post (actionFrame (ticketAction t)))).move h.sound
      (.awaiting again t i) c.subject
    refine ⟨_, rfl, hbase, ?_⟩
    cases again with
    | true => exact ⟨hi, _, workers_setWorker hlt _, post_answers (turn_action_ne_nil _ _)⟩
    | false =>
      simp only [Stands, hphase] at hstands
      obtain ⟨hidle, hacting, hrecord, -⟩ := hstands
      obtain ⟨o, ho⟩ := hidle i hi nofun
      rw [hm, Option.some.injEq] at ho
      rw [ho]
      exact ⟨htarget, hacting, hrecord, o, workers_setWorker hlt _⟩

theorem goes_awaiting (h : Orderly c) {again : Bool} {t : DispatchTicket} {i : ℕ}
    (hphase : c.phase = .awaiting again t i) (now : TimeMs) : c.Goes now := by
  have hstands := h.stands
  have hsource : c.source = some i := by simp [source, hphase]
  have hafter : ∀ m r, (c.setWorker i m).received r =
      { c.setWorker i m with phase := .finishing again t (applyResult t.attempt r) } := by
    intro m r
    have hphase' : (c.setWorker i m).phase = .awaiting again t i := hphase
    unfold received
    rw [hphase']
  unfold Goes main
  rw [hphase]
  cases again with
  | true =>
    simp only [Stands, hphase] at hstands
    obtain ⟨r, m, hr⟩ := receives_answer hsource hstands.2
    rw [hafter] at hr
    exact ⟨_, hr, (h.toBase.setWorker hstands.1 m).move h.sound _ c.subject, trivial⟩
  | false =>
    simp only [Stands, hphase] at hstands
    obtain ⟨htarget, hacting, hrecord, o, ho⟩ := hstands
    obtain ⟨f, rest, hturn, hres⟩ := applyResult_turn o (ticketAction t)
    have hqueue : ((⟨o, [], false⟩ : Mailbox).post (actionFrame (ticketAction t))).queue =
        f :: rest := hturn
    have hr := receives_frame hsource ho hqueue
    rw [hafter] at hr
    have hbase := h.toBase.setWorker (h.conns _ i htarget)
      { (⟨o, [], false⟩ : Mailbox).post (actionFrame (ticketAction t)) with queue := rest }
    refine ⟨_, hr, hbase.move h.sound _ c.subject, hacting, hrecord, .inr ⟨i, _, htarget,
      workers_setWorker (h.lt htarget) _, hres⟩⟩

theorem goes_finishing (h : Orderly c) {again : Bool} {t : DispatchTicket} {res : AdapterResult}
    (hphase : c.phase = .finishing again t res) (now : TimeMs) : c.Goes now := by
  have hstands := h.stands
  refine ⟨c.finishes again t res, by unfold main; rw [hphase], ?_⟩
  have honly := onlyInterventions_finish t.id res c.governor
  have hbase := h.toBase.move (honly.sound h.sound) c.phase c.subject
  unfold finishes
  cases again with
  | true => exact orderly_exit hbase nofun
  | false =>
    simp only [Stands, hphase] at hstands
    obtain ⟨hacting, ⟨r, hr, -⟩, -⟩ := hstands
    have hgood : (dispatchFinish t.id res c.governor).1.code = .ok := by
      unfold dispatchFinish
      rw [hr]
      rfl
    have hkeeps : ∀ p, Acting { c with
        governor := (dispatchFinish t.id res c.governor).2, phase := p } :=
      fun _ => acting_of_only hacting rfl honly
    simp only [dispatched, Bool.false_eq_true, if_false, hgood, ne_eq, not_true_eq_false]
    split_ifs
    · exact ⟨hbase.move hbase.sound _ c.subject, trivial⟩
    · exact ⟨hbase.move hbase.sound _ c.subject, trivial⟩
    · exact ⟨hbase.move hbase.sound _ c.subject, hkeeps _⟩

theorem goes_requesting (h : Orderly c) (hphase : c.phase = .requesting) (now : TimeMs) :
    c.Goes now := by
  have hstands := h.stands
  simp only [Stands, hphase] at hstands
  obtain ⟨conf, hconf⟩ := hstands
  obtain ⟨victim, hvictim⟩ : ∃ victim, conf.affected.getLast? = some victim :=
    ⟨_, List.getLast?_eq_some_getLast (h.sound.affected c.subject conf hconf)⟩
  unfold Goes main
  rw [hphase]
  simp only [requests, hconf, hvictim, Option.bind_eq_bind, Option.bind_some]
  cases hconn : c.conns.find victim with
  | none => exact ⟨_, rfl, h.toBase.move h.sound _ c.subject, trivial⟩
  | some i =>
    have hlt := h.lt hconn
    obtain ⟨m, hm⟩ : ∃ m, c.workers[i]? = some m := ⟨_, List.getElem?_eq_getElem hlt⟩
    have hi := h.conns victim i hconn
    simp only [if_true, sends, hm, Option.map_some]
    refine ⟨_, rfl, (h.toBase.setWorker hi _).move h.sound (.collecting i) c.subject, hi, _,
      workers_setWorker hlt _, post_answers ?_⟩
    rw [turn_request]
    exact List.cons_ne_nil _ _

theorem goes_collecting (h : Orderly c) {i : ℕ} (hphase : c.phase = .collecting i)
    (now : TimeMs) : c.Goes now := by
  have hstands := h.stands
  simp only [Stands, hphase] at hstands
  have hsource : c.source = some i := by simp [source, hphase]
  obtain ⟨r, m, hr⟩ := receives_answer hsource hstands.2
  have hcollect : (c.setWorker i m).received r = (c.setWorker i m).collect r := by
    have hphase' : (c.setWorker i m).phase = .collecting i := hphase
    unfold received
    rw [hphase']
  rw [hcollect] at hr
  have hsound : Sound ((c.setWorker i m).collect r).governor := by
    unfold collect
    cases r with
    | error e => exact h.sound
    | ok f =>
      dsimp only
      split_ifs
      · exact h.sound
      · cases decodeEvidence f.payload with
        | none => exact h.sound
        | some post => exact sound_submit post h.sound
  unfold Goes main
  rw [hphase]
  exact ⟨_, hr, (h.toBase.setWorker hstands.1 m).move hsound _ c.subject, trivial⟩

theorem goes_printing (h : Orderly c) (hphase : c.phase = .printing) (now : TimeMs) :
    c.Goes now := by
  unfold Goes main
  rw [hphase]
  exact ⟨_, rfl, orderly_exit h.toBase nofun⟩

/-- What is drained is left aside. -/
theorem orderly_draining (h : Orderly c) {id : InterventionId} (hphase : c.phase = .draining id)
    {now : TimeMs} (hc : c.main Mailbox.channel now true = some c') : Orderly c' := by
  unfold main at hc
  simp only [hphase] at hc
  split_ifs at hc with hconns
  · cases hc
    exact orderly_exit h.toBase nofun
  · obtain ⟨i, hi, hc⟩ := Option.bind_eq_some_iff.mp hc
    obtain ⟨m, hm, hc⟩ := Option.bind_eq_some_iff.mp hc
    obtain ⟨⟨r, m'⟩, hr, hc⟩ := Option.bind_eq_some_iff.mp hc
    cases hc
    have hlt : i < c.accepted := by
      simp only [source, hphase] at hi
      obtain ⟨⟨w, j⟩, hhead, rfl⟩ := Option.map_eq_some_iff.mp hi
      exact h.conns w j (OrderedMap.mem_entries.mp (List.mem_of_head? hhead))
    have hbase := h.toBase.setWorker hlt m'
    have hphase' : (c.setWorker i m').phase = .draining id := hphase
    unfold received
    rw [hphase']
    cases r with
    | error e => exact orderly_exit hbase nofun
    | ok f =>
      refine ⟨hbase, ?_⟩
      unfold Stands
      rw [hphase']
      trivial

/-- `main` has nothing to do until another worker connects, or has printed its result. -/
def Rests (c : Coordinator χ) : Prop :=
  match c.phase with
  | .accepting => c.workers.length ≤ c.accepted
  | .draining _ | .ended _ => True
  | _ => False

theorem goes_of_not_rests (h : Orderly c) (hrests : ¬c.Rests) (now : TimeMs) : c.Goes now := by
  unfold Rests at hrests
  cases hphase : c.phase with
  | accepting =>
    simp only [hphase] at hrests
    exact goes_accepting h hphase (Nat.lt_of_not_le hrests) now
  | greeting i => exact goes_greeting h hphase now
  | reporting w => exact goes_reporting h hphase now
  | authorizing => exact goes_authorizing h hphase now
  | dispatching again id => exact goes_dispatching h hphase now
  | applying again t => exact goes_applying h hphase now
  | awaiting again t i => exact goes_awaiting h hphase now
  | finishing again t res => exact goes_finishing h hphase now
  | requesting => exact goes_requesting h hphase now
  | collecting i => exact goes_collecting h hphase now
  | printing => exact goes_printing h hphase now
  | draining | ended =>
    simp only [hphase] at hrests
    exact absurd trivial hrests

theorem orderly_step {k : Section} (h : Orderly c) (hk : k.Smooth)
    (hc : c.syncStep k = some c') : Orderly c' := by
  cases k with
  | connects o =>
    simp only [syncStep] at hc
    split_ifs at hc
    cases hc
    exact orderly_connects h hk
  | main now io =>
    have hio : io = true := hk
    subst hio
    have hc : c.main Mailbox.channel now true = some c' := hc
    by_cases hrests : c.Rests
    · unfold Rests at hrests
      cases hphase : c.phase with
      | draining id => exact orderly_draining h hphase hc
      | accepting =>
        simp only [hphase] at hrests
        simp [main, hphase, Nat.not_lt.mpr hrests] at hc
      | ended out => simp [main, hphase] at hc
      | _ =>
        simp only [hphase] at hrests
    · obtain ⟨d, hd, horderly⟩ := goes_of_not_rests h hrests now
      rw [hc, Option.some.injEq] at hd
      exact hd ▸ horderly

end Coordinator

end ContentionGovernor.Dist
