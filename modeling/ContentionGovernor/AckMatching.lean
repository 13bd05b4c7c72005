import ContentionGovernor.DistExchange
import ContentionGovernor.Operations

/-!
# Acknowledgements and attempts

The throttle adapter takes the next frame of the connection for the answer to its action.
That frame is the first one of the backlog of the connection when `apply` is called, or the
first one of the reply when the backlog is empty.
-/

namespace ContentionGovernor.Dist

/-- An acceptance is the acknowledgement of the attempt it is returned for. -/
def Answer.Matched (a : Answer) : Prop :=
  a.result.outcome = .accepted → ∃ f ack, a.consumed = some f ∧ f.type = .actionAck ∧
    decodeAck f.payload = some ack ∧ ack.attempt = a.result.attemptId

/-- The frames the loop sends for the frames it will receive. -/
def WorkerOptions.replies (o : WorkerOptions) : List Frame → List Frame
  | [] => []
  | f :: rest => (o.turn f).1 ++ if (o.turn f).2 then [] else o.replies rest

/-- The frames of a connection still to be read, those the worker owes included. -/
def Link.backlog (l : Link) : List Frame :=
  l.toCoordinator ++ (l.sends ++ if l.leaving then [] else l.options.replies l.toWorker)

/-- The frame is an acknowledgement of another attempt. -/
def AcksOther (attempt : AttemptId) (f : Frame) : Prop :=
  f.type = .actionAck ∧ ∃ ack ∈ decodeAck f.payload, ack.attempt ≠ attempt

instance (attempt : AttemptId) (f : Frame) : Decidable (AcksOther attempt f) :=
  inferInstanceAs (Decidable (_ ∧ ∃ ack ∈ decodeAck f.payload, _))

/-- `apply` is called when the next frame of the connection, if one is still to come, is no
acknowledgement of another attempt. -/
def AnswersNext (x : Exchange) : WireEvent → Prop
  | .applyBegins attempt target _ _ _ =>
    ∀ l ∈ x.conns.find target, ∀ f ∈ l.backlog.head?, ¬AcksOther attempt f
  | _ => True

instance (x : Exchange) : (e : WireEvent) → Decidable (AnswersNext x e)
  | .applyBegins attempt target _ _ _ => inferInstanceAs
      (Decidable (∀ l ∈ x.conns.find target, ∀ f ∈ l.backlog.head?, ¬AcksOther attempt f))
  | .accept _ | .worker _ _ | .collect _ | .request _ | .applyEnds | .applyBreaks =>
    .isTrue trivial

/-! ## Frames of a worker -/

/-- Only an acknowledgement is read as one. -/
def FromWorker (f : Frame) : Prop := f.type = .actionAck ∨ decodeAck f.payload = none

theorem fromWorker_evidence (o : WorkerOptions) : FromWorker (evidenceFrame o.evidence) :=
  .inr (decodeAck_encodeEvidence rfl)

theorem fromWorker_postEvidence (o : WorkerOptions) : FromWorker (evidenceFrame o.postEvidence) :=
  .inr (decodeAck_encodeEvidence rfl)

theorem fromWorker_turn (o : WorkerOptions) (f : Frame) : ∀ g ∈ (o.turn f).1, FromWorker g := by
  intro g hg
  unfold WorkerOptions.turn at hg
  split at hg
  · cases ha : decodeAction f.payload with
    | none => simp [ha] at hg
    | some a =>
      simp only [ha] at hg
      rcases List.mem_append.mp hg with hg | hg
      · split at hg
        · rw [List.mem_singleton.mp hg]
          exact fromWorker_postEvidence o
        · cases hg
      · rw [List.mem_singleton.mp hg]
        exact .inl rfl
  · split at hg
    · cases hg
    · split at hg
      · rw [List.mem_singleton.mp hg]
        exact fromWorker_postEvidence o
      · cases hg

/-- A frame that is not the acknowledgement of another attempt. -/
def Harmless (attempt : AttemptId) (f : Frame) : Prop :=
  ∀ ack, decodeAck f.payload = some ack → f.type = .actionAck ∧ ack.attempt = attempt

theorem FromWorker.harmless {f : Frame} (h : FromWorker f) {attempt : AttemptId}
    (hother : ¬AcksOther attempt f) : Harmless attempt f := by
  intro ack hack
  rcases h with htype | hnone
  · refine ⟨htype, ?_⟩
    by_contra hne
    exact hother ⟨htype, ack, hack, hne⟩
  · rw [hnone] at hack
    cases hack

/-- The first frame a worker sends for an action is harmless to the attempt of the action. -/
theorem turn_action_harmless (o : WorkerOptions) (a : WireAction) :
    ∀ f ∈ (o.turn (actionFrame a)).1.head?, Harmless a.attempt f := by
  intro f hf
  have hturn : (o.turn (actionFrame a)).1 =
      (if o.role = "A" then [evidenceFrame o.postEvidence] else []) ++ [ackFrame a.ack] := by
    simp only [WorkerOptions.turn, actionFrame, if_pos, decodeAction_encodeAction]
  rw [hturn] at hf
  split_ifs at hf with hrole
  · cases hf
    intro ack hack
    rw [evidenceFrame, decodeAck_encodeEvidence rfl] at hack
    cases hack
  · cases hf
    intro ack hack
    have hnote : StringFits a.ack.note := Nat.zero_le _
    rw [ackFrame, decodeAck_encodeAck hnote] at hack
    cases hack
    exact ⟨rfl, rfl⟩

/-! ## The backlog -/

theorem replies_append (o : WorkerOptions) (fs : List Frame) (f : Frame) :
    ∃ more, o.replies (fs ++ [f]) = o.replies fs ++ more ∧ (more = [] ∨ more = (o.turn f).1) := by
  induction fs with
  | nil =>
    refine ⟨(o.turn f).1, ?_, .inr rfl⟩
    simp [WorkerOptions.replies]
  | cons g fs ih =>
    obtain ⟨more, hmore, hcases⟩ := ih
    rw [List.cons_append, WorkerOptions.replies, WorkerOptions.replies]
    cases (o.turn g).2
    · exact ⟨more, by simp [hmore], hcases⟩
    · exact ⟨[], by simp, .inl rfl⟩

/-- A frame sent to a worker adds at most its own reply, behind all that is owed. -/
theorem backlog_post (l : Link) (f : Frame) : ∃ more, (l.post f).backlog = l.backlog ++ more ∧
    (more = [] ∨ more = (l.options.turn f).1) := by
  obtain ⟨more, hmore, hcases⟩ := replies_append l.options l.toWorker f
  unfold Link.backlog Link.post
  cases l.leaving
  · exact ⟨more, by simp [hmore], hcases⟩
  · exact ⟨[], by simp, .inl rfl⟩

/-- The steps of a worker leave the order of the frames as it is, and add none. -/
theorem backlog_step {l l' : Link} {s : WorkerStep} (h : l.step s = some l') :
    l'.backlog <+: l.backlog := by
  unfold Link.backlog
  cases s with
  | receives =>
    simp only [Link.step] at h
    split at h
    · rename_i f rest hsends hleaving hinbox
      cases h
      simp [hsends, hleaving, hinbox, WorkerOptions.replies]
    · cases h
  | sends =>
    simp only [Link.step] at h
    split at h
    · rename_i f rest hsends
      cases h
      simp [hsends]
    · cases h
  | breaks =>
    cases h
    simp

/-! ## Runs -/

/-- All that is to be read comes from workers, an open call meets no acknowledgement of
another attempt, and the calls returned were matched. -/
structure Exchange.Matching (x : Exchange) : Prop where
  framed : ∀ w l, x.conns.find w = some l → ∀ f ∈ l.backlog, FromWorker f
  open_call : ∀ k, x.call = some k → ∀ l, x.conns.find k.target = some l →
    ∀ f ∈ l.backlog.head?, Harmless k.attempt f
  matched : ∀ a ∈ x.answers, a.Matched

/-- A connection replaced by one of which every frame to be read comes from a worker, and is
harmless to an open call of its target. -/
theorem Exchange.Matching.setLink {x : Exchange} (hx : x.Matching) {w : WorkloadId} {l : Link}
    (hframed : ∀ f ∈ l.backlog, FromWorker f)
    (hcall : ∀ k, x.call = some k → k.target = w → ∀ f ∈ l.backlog.head?, Harmless k.attempt f) :
    (x.setLink w l).Matching where
  framed := by
    intro v m hm
    rcases OrderedMap.find_insert_cases hm with ⟨-, rfl⟩ | ⟨-, hm⟩
    · exact hframed
    · exact hx.framed v m hm
  open_call := by
    intro k hk m hm
    rcases OrderedMap.find_insert_cases hm with ⟨hv, rfl⟩ | ⟨-, hm⟩
    · exact hcall k hk hv
    · exact hx.open_call k hk m hm
  matched := hx.matched

theorem Exchange.Matching.answer {x : Exchange} (hx : x.Matching) {a : Answer} (ha : a.Matched) :
    (x.answer a).Matching where
  framed := hx.framed
  open_call := by
    intro k hk
    cases hk
  matched := by
    intro b hb
    rcases List.mem_append.mp hb with hb | hb
    · exact hx.matched b hb
    · rw [List.mem_singleton.mp hb]
      exact ha

/-- An open call is given up. -/
theorem Exchange.Matching.closed {x : Exchange} (hx : x.Matching) :
    { x with call := none }.Matching where
  framed := hx.framed
  open_call := by
    intro k hk
    cases hk
  matched := hx.matched

theorem matched_of_not_accepted {a : Answer} (h : a.result.outcome ≠ .accepted) : a.Matched :=
  fun haccepted => absurd haccepted h

theorem applyResult_attemptId (attempt : AttemptId) (r : Except Status Frame) :
    (applyResult attempt r).attemptId = attempt := by
  unfold applyResult
  split
  · rfl
  · split <;> rfl

/-- A frame that is no acknowledgement of another attempt gives a matched answer. -/
theorem matched_of_harmless {attempt : AttemptId} {f : Frame} (h : Harmless attempt f) :
    Answer.Matched ⟨applyResult attempt (.ok f), some f⟩ := by
  intro haccepted
  cases hack : decodeAck f.payload with
  | none =>
    simp [applyResult, hack] at haccepted
  | some ack =>
    obtain ⟨htype, hattempt⟩ := h ack hack
    refine ⟨f, ack, rfl, htype, hack, ?_⟩
    rw [applyResult_attemptId, hattempt]

theorem prefix_head {fs gs : List Frame} (h : fs <+: gs) {f : Frame} (hf : f ∈ fs.head?) :
    f ∈ gs.head? := by
  obtain ⟨more, rfl⟩ := h
  cases fs with
  | nil => cases hf
  | cons g fs => exact hf

/-- The connection of a call that begins: what is read next was owed before, or answers the
action. -/
theorem post_action_harmless {l : Link} {a : WireAction} (hframed : ∀ f ∈ l.backlog, FromWorker f)
    (hnext : ∀ f ∈ l.backlog.head?, ¬AcksOther a.attempt f) :
    ∀ f ∈ (l.post (actionFrame a)).backlog.head?, Harmless a.attempt f := by
  obtain ⟨more, hmore, hcases⟩ := backlog_post l (actionFrame a)
  intro f hf
  rw [hmore] at hf
  cases hbacklog : l.backlog with
  | nil =>
    rw [hbacklog, List.nil_append] at hf
    rcases hcases with rfl | rfl
    · cases hf
    · exact turn_action_harmless l.options a f hf
  | cons g fs =>
    rw [hbacklog, List.cons_append] at hf
    cases hf
    have hhead : f ∈ l.backlog.head? := by rw [hbacklog]; rfl
    exact (hframed f (by rw [hbacklog]; exact List.mem_cons_self)).harmless (hnext f hhead)

theorem fromWorker_post {l : Link} (hframed : ∀ f ∈ l.backlog, FromWorker f) (g : Frame) :
    ∀ f ∈ (l.post g).backlog, FromWorker f := by
  obtain ⟨more, hmore, hcases⟩ := backlog_post l g
  intro f hf
  rw [hmore] at hf
  rcases List.mem_append.mp hf with hf | hf
  · exact hframed f hf
  · rcases hcases with rfl | rfl
    · cases hf
    · exact fromWorker_turn l.options g f hf

/-- What is left behind a frame that was read. -/
theorem backlog_of_read {l : Link} {f : Frame} {rest : List Frame}
    (h : l.toCoordinator = f :: rest) :
    l.backlog = f :: { l with toCoordinator := rest }.backlog := by
  unfold Link.backlog
  rw [h]
  rfl

theorem step_matching {x x' : Exchange} {e : WireEvent} (hx : x.Matching)
    (hnext : AnswersNext x e) (h : x.step e = some x') : x'.Matching := by
  cases e with
  | accept o =>
    simp only [Exchange.step] at h
    split at h
    · rename_i hello hcall hhello
      cases h
      refine hx.setLink ?_ ?_
      · intro f hf
        rw [List.mem_singleton.mp (hf : f ∈ [evidenceFrame o.evidence])]
        exact fromWorker_evidence o
      · intro k hk
        rw [hcall] at hk
        cases hk
    · cases h
  | worker w s =>
    obtain ⟨l, hl, h⟩ := Option.bind_eq_some_iff.mp h
    obtain ⟨l', hl', h⟩ := Option.bind_eq_some_iff.mp h
    cases h
    have hahead := backlog_step hl'
    refine hx.setLink (fun f hf => hx.framed w l hl f (hahead.subset hf)) ?_
    rintro k hk rfl f hf
    exact hx.open_call k hk l hl f (prefix_head hahead hf)
  | collect w =>
    simp only [Exchange.step] at h
    split at h
    · rename_i l hcall hl
      split at h
      · rename_i f rest hinbox
        cases h
        refine hx.setLink ?_ ?_
        · intro g hg
          refine hx.framed w l hl g ?_
          rw [backlog_of_read hinbox]
          exact List.mem_cons_of_mem f hg
        · intro k hk
          rw [hcall] at hk
          cases hk
      · cases h
    · cases h
  | request w =>
    simp only [Exchange.step] at h
    split at h
    · rename_i l hcall hl
      cases h
      refine hx.setLink (fromWorker_post (hx.framed w l hl) requestFrame) ?_
      intro k hk
      rw [hcall] at hk
      cases hk
    · cases h
  | applyBegins attempt target cls intensity sent =>
    simp only [Exchange.step] at h
    split at h
    · cases h
      exact hx.answer (matched_of_not_accepted nofun)
    · rename_i l hcall hl
      split at h
      · cases h
        exact hx.answer (matched_of_not_accepted nofun)
      · cases h
        have hframed := hx.framed target l hl
        have hset := hx.setLink (w := target)
          (fromWorker_post hframed (actionFrame ⟨⟨1⟩, cls, target, attempt, intensity⟩))
          (fun k hk => by rw [hcall] at hk; cases hk)
        refine { framed := hset.framed, open_call := ?_, matched := hset.matched }
        rintro k hk m hm
        cases hk
        simp only [Exchange.setLink, OrderedMap.find_insert_self] at hm
        cases hm
        exact post_action_harmless hframed (hnext l hl)
    · cases h
  | applyEnds =>
    obtain ⟨k, hk, h⟩ := Option.bind_eq_some_iff.mp h
    obtain ⟨l, hl, h⟩ := Option.bind_eq_some_iff.mp h
    split at h
    · rename_i f rest hinbox
      cases h
      have hharmless := hx.open_call k hk l hl f (by rw [backlog_of_read hinbox]; rfl)
      have hrest : ∀ g ∈ { l with toCoordinator := rest }.backlog, FromWorker g := fun g hg =>
        hx.framed k.target l hl g (by rw [backlog_of_read hinbox]; exact List.mem_cons_of_mem f hg)
      have hset := hx.closed.setLink (w := k.target) hrest fun k' hk' => by cases hk'
      exact hset.answer (matched_of_harmless hharmless)
    · split_ifs at h with hgone
      cases h
      exact hx.answer (matched_of_not_accepted nofun)
  | applyBreaks =>
    obtain ⟨k, hk, h⟩ := Option.bind_eq_some_iff.mp h
    cases h
    exact hx.answer (matched_of_not_accepted nofun)

/-! ## Acknowledgements reported to the governor -/

/-- The call changes a record only under the attempt that the record holds. -/
def AcknowledgesOwn (s : GovernorState) (id : InterventionId) (attempt : AttemptId)
    (now : TimeMs) : Prop :=
  ∀ j r, s.engine.interventions.find j = some r →
    (onAcknowledge id attempt now s).2.engine.interventions.find j ≠ some r → r.attemptId = attempt

theorem acknowledgesOwn_iff (s : GovernorState) (id : InterventionId) (attempt : AttemptId)
    (now : TimeMs) : AcknowledgesOwn s id attempt now ↔
      ∀ r, s.engine.interventions.find id = some r → r.state = .dispatched →
        r.attemptId = attempt := by
  constructor
  · intro h r hr hstate
    refine h id r hr ?_
    unfold onAcknowledge
    rw [hr]
    dsimp only
    rw [if_neg (not_not.mpr hstate)]
    simp only [setIntervention, OrderedMap.find_insert_self]
    intro hsame
    have hacknowledged := congrArg (·.map (·.state)) hsame
    simp [hstate] at hacknowledged
  · intro h j r hr hchanged
    unfold onAcknowledge at hchanged
    cases hi : s.engine.interventions.find id with
    | none =>
      rw [hi] at hchanged
      exact absurd hr hchanged
    | some i =>
      rw [hi] at hchanged
      dsimp only at hchanged
      split_ifs at hchanged with hstate
      · exact absurd hr hchanged
      · simp only [setIntervention, OrderedMap.find_insert] at hchanged
        split_ifs at hchanged with hj
        · rw [hj, hi] at hr
          cases hr
          exact h r hi (not_not.mp hstate)
        · exact absurd hr hchanged

/-! ## Runs of the exchange -/

/-- In a run in which `apply` is never called while an acknowledgement of another attempt is
the next frame to come, an acceptance is the acknowledgement of its own attempt.  The
governor changes no record under another attempt exactly when a DISPATCHED record is
acknowledged under its own. -/
theorem acknowledgements_matched (events : List WireEvent) (x : Exchange)
    (hevents : Runs.Guarded Exchange.step AnswersNext {} events)
    (hrun : Runs.exec Exchange.step {} events = some x) :
    (∀ a ∈ x.answers, a.Matched) ∧
    ∀ s id attempt now, AcknowledgesOwn s id attempt now ↔
      ∀ r, s.engine.interventions.find id = some r → r.state = .dispatched →
        r.attemptId = attempt := by
  have hempty : Exchange.Matching {} := by
    constructor
    · intro w l hl
      cases hl
    · intro k hk
      cases hk
    · intro a ha
      cases ha
  have hx : x.Matching :=
    Runs.invariant_of_guarded (fun _ _ _ => step_matching) hevents hrun hempty
  exact ⟨hx.matched, acknowledgesOwn_iff⟩

/-- Worker 2 sends its first report, which is read, and takes an action under attempt 1. -/
def firstAttempt (role : ByteString) : List WireEvent :=
  [.accept { workerId := 2, role }, .worker ⟨2⟩ .sends, .collect ⟨2⟩,
    .applyBegins ⟨1⟩ ⟨2⟩ .throttle 1.0 true, .worker ⟨2⟩ .receives, .worker ⟨2⟩ .sends, .applyEnds]

/-- A worker that only acknowledges answers two attempts. -/
def answeredTwice : List WireEvent :=
  firstAttempt "B" ++ [.applyBegins ⟨2⟩ ⟨2⟩ .throttle 1.0 true, .worker ⟨2⟩ .receives,
    .worker ⟨2⟩ .sends, .applyEnds]

theorem acknowledgements_matched_twice :
    (Runs.exec Exchange.step {} answeredTwice).isSome ∧
      ∀ a ∈ ((Runs.exec Exchange.step {} answeredTwice).getD {}).answers, a.Matched := by
  have hdefined : (Runs.exec Exchange.step {} answeredTwice).isSome := by decide +kernel
  have hmatched := acknowledgements_matched answeredTwice _ (by decide +kernel)
    (Runs.exec_getD {} hdefined)
  exact ⟨hdefined, hmatched.1⟩

/-- A worker that reports before it acknowledges: the report is taken for the answer to
attempt 1, and its acknowledgement for that of attempt 2. -/
def answeredLate : List WireEvent :=
  firstAttempt "A" ++ [.worker ⟨2⟩ .sends, .applyBegins ⟨2⟩ ⟨2⟩ .throttle 1.0 true, .applyEnds]

/-- The throttle of workload 2 between its critical sections: DISPATCHED under attempt 1. -/
def betweenSections : GovernorState := (dispatchBegin ⟨1⟩ 1500 (reached throttleNeighbor)).2

theorem late_acknowledgement_accepted :
    (¬∀ events x, Runs.exec Exchange.step {} events = some x → ∀ a ∈ x.answers, a.Matched) ∧
    ¬∀ s id attempt now, AcknowledgesOwn s id attempt now := by
  constructor
  · intro h
    have hdefined : (Runs.exec Exchange.step {} answeredLate).isSome := by decide +kernel
    have hmatched := h answeredLate _ (Runs.exec_getD {} hdefined)
    have hanswers : ((Runs.exec Exchange.step {} answeredLate).getD {}).answers.map (fun a =>
        (a.result.outcome, a.result.attemptId, (a.consumed.bind fun f =>
          decodeAck f.payload).map (·.attempt))) =
        [(.unknown, ⟨1⟩, none), (.accepted, ⟨2⟩, some ⟨1⟩)] := by decide +kernel
    generalize ((Runs.exec Exchange.step {} answeredLate).getD {}).answers = answers at *
    obtain ⟨a, ha, hpair⟩ := List.mem_map.mp
      (hanswers ▸ List.mem_cons_of_mem _ (List.mem_singleton_self _))
    obtain ⟨haccepted, hrest⟩ := Prod.mk.inj hpair
    obtain ⟨hattempt, hother⟩ := Prod.mk.inj hrest
    obtain ⟨f, ack, hf, -, hack, hown⟩ := hmatched a ha haccepted
    rw [hf, Option.bind_some, hack, Option.map_some, hown, hattempt] at hother
    exact absurd hother (by decide)
  · intro h
    have hrecord : (betweenSections.engine.interventions.find ⟨1⟩).map (fun r =>
        (r.state, r.attemptId)) = some (.dispatched, ⟨1⟩) := by decide +kernel
    obtain ⟨r, hr, hpair⟩ := Option.map_eq_some_iff.mp hrecord
    obtain ⟨hstate, hattempt⟩ := Prod.mk.inj hpair
    have hown := (acknowledgesOwn_iff betweenSections ⟨1⟩ ⟨2⟩ 2000).mp (h _ _ _ _) r hr hstate
    exact absurd (hattempt.symm.trans hown) (by decide)

end ContentionGovernor.Dist
