import ContentionGovernor.AckMatching
import ContentionGovernor.DanglingEvidence
import ContentionGovernor.DistCoordinator
import ContentionGovernor.Lib.Simulation

/-!
# Runs of the coordinator

The order in which the workers go on does not matter: a run is seen as a run of the
coordinator alone, with each worker replaced by the frames it has answered at once.
-/

namespace ContentionGovernor.Dist

/-! ## Workers that answer at once -/

/-- A worker as the frames still to be read from it, and whether none will be added. -/
structure Mailbox where
  options : WorkerOptions
  queue : List Frame
  left : Bool := false

namespace Mailbox

def connect (o : WorkerOptions) : Mailbox where
  options := o
  queue := [⟨.workerStatus, encodeHello o.hello⟩, evidenceFrame o.evidence]

def post (m : Mailbox) (f : Frame) : Mailbox :=
  if m.left then m
  else { m with queue := m.queue ++ (m.options.turn f).1, left := (m.options.turn f).2 }

def receive (m : Mailbox) : Option (Except Status Frame × Mailbox) :=
  match m.queue with
  | f :: rest => some (.ok f, { m with queue := rest })
  | [] => if m.left then some (.error (protocolError "peer closed"), m) else none

def channel : Channel Mailbox := ⟨post, receive⟩

end Mailbox

/-- What the coordinator will see of a worker. -/
def Link.mailbox (l : Link) : Mailbox where
  options := l.options
  queue := l.backlog
  left := l.leaving || l.toWorker.any fun f => (l.options.turn f).2

theorem replies_concat (o : WorkerOptions) (fs : List Frame) (f : Frame) :
    o.replies (fs ++ [f]) =
      o.replies fs ++ if fs.any fun g => (o.turn g).2 then [] else (o.turn f).1 := by
  induction fs with
  | nil => simp [WorkerOptions.replies]
  | cons g fs ih =>
    rw [List.cons_append, WorkerOptions.replies, WorkerOptions.replies, List.any_cons]
    cases (o.turn g).2
    · simp [ih]
    · simp

theorem mailbox_connect (o : WorkerOptions) : (Link.connect o).mailbox = .connect o := rfl

theorem mailbox_post (l : Link) (f : Frame) : (l.post f).mailbox = l.mailbox.post f := by
  unfold Link.mailbox Link.post Link.backlog Mailbox.post
  dsimp only
  rw [replies_concat, List.any_append, List.any_cons, List.any_nil, Bool.or_false]
  cases l.leaving
  · cases l.toWorker.any fun g => (l.options.turn g).2 <;> simp
  · simp

/-- A worker that has left owes no frame when it has nothing to send. -/
theorem mailbox_receive {l l' : Link} {r : Except Status Frame}
    (h : l.receive = some (r, l')) : l.mailbox.receive = some (r, l'.mailbox) := by
  unfold Link.receive at h
  unfold Mailbox.receive Link.mailbox Link.backlog
  split at h
  · rename_i f rest hinbox
    cases h
    rw [hinbox]
    rfl
  · rename_i hinbox
    split_ifs at h with hgone
    cases h
    obtain ⟨hleaving, hsends⟩ := hgone
    simp [hinbox, hleaving, hsends]

/-- A step of a worker that does not break is not seen. -/
theorem mailbox_step {l l' : Link} {s : WorkerStep} (hs : s ≠ .breaks) (h : l.step s = some l') :
    l'.mailbox = l.mailbox := by
  unfold Link.mailbox Link.backlog
  cases s with
  | receives =>
    simp only [Link.step] at h
    split at h
    · rename_i f rest hsends hleaving hinbox
      cases h
      simp only [hsends, hleaving, hinbox, WorkerOptions.replies, List.any_cons, List.nil_append,
        Bool.false_or, Bool.false_eq_true, if_false]
    · cases h
  | sends =>
    simp only [Link.step] at h
    split at h
    · rename_i f rest hsends
      cases h
      simp [hsends]
    · cases h
  | breaks => exact absurd rfl hs

/-! ## What a worker has still to do -/

/-- A bound on the steps that are left of a worker and on the frames it leaves to be read. -/
def Link.pending (l : Link) : ℕ :=
  l.toCoordinator.length + 2 * l.sends.length + 5 * l.toWorker.length

theorem turn_length (o : WorkerOptions) (f : Frame) : (o.turn f).1.length ≤ 2 := by
  unfold WorkerOptions.turn
  split
  · split
    · exact Nat.zero_le 2
    · split <;> simp
  · split
    · exact Nat.zero_le 2
    · split <;> simp

/-- Only the steps that break a connection can be taken again and again. -/
def WorkerStep.adds : WorkerStep → ℕ
  | .breaks => 1
  | .receives | .sends => 0

theorem pending_step {l l' : Link} {s : WorkerStep} (h : l.step s = some l') :
    l'.pending + 1 ≤ l.pending + s.adds := by
  unfold Link.pending WorkerStep.adds
  cases s with
  | receives =>
    simp only [Link.step] at h
    split at h
    · rename_i f rest hsends hleaving hinbox
      cases h
      have hturn := turn_length l.options f
      simp only [hsends, hinbox, List.length_nil, List.length_cons]
      omega
    · cases h
  | sends =>
    simp only [Link.step] at h
    split at h
    · rename_i f rest hsends
      cases h
      simp only [hsends, List.length_append, List.length_cons, List.length_nil]
      omega
    · cases h
  | breaks =>
    cases h
    dsimp only [List.length_nil]
    omega

/-- A worker of which something will be received goes on until it is there. -/
theorem exists_receive {l : Link} (h : l.mailbox.receive.isSome) :
    ∃ ss l', Runs.Guarded Link.step (fun _ s => s ≠ .breaks) l ss ∧
      Runs.exec Link.step l ss = some l' ∧ l'.receive.isSome := by
  suffices hgoes : ∀ l : Link, l.mailbox.receive.isSome → ¬l.receive.isSome →
      ∃ s l', s ≠ WorkerStep.breaks ∧ l.step s = some l' ∧ l'.mailbox.receive.isSome ∧
        l'.pending < l.pending from Runs.exists_run_to Link.pending hgoes h
  intro l hl hwaits
  have hgo : ∃ s l', s ≠ .breaks ∧ l.step s = some l' := by
    unfold Link.receive at hwaits
    cases hinbox : l.toCoordinator with
    | cons f rest => simp [hinbox] at hwaits
    | nil =>
      cases hsends : l.sends with
      | cons f rest => exact ⟨.sends, _, by simp, by simp only [Link.step, hsends]; rfl⟩
      | nil =>
        simp only [hinbox, hsends, and_true] at hwaits
        have hleaving : l.leaving = false := by
          cases hl : l.leaving
          · rfl
          · simp [hl] at hwaits
        cases htasks : l.toWorker with
        | nil =>
          simp [Link.mailbox, Link.backlog, Mailbox.receive, hinbox, hsends, hleaving, htasks,
            WorkerOptions.replies] at hl
        | cons f rest =>
          exact ⟨.receives, _, by simp, by simp only [Link.step, hsends, hleaving, htasks]; rfl⟩
  obtain ⟨s, l', hs, hstep⟩ := hgo
  have hless := pending_step hstep
  have hnone : s.adds = 0 := by cases s <;> first | rfl | exact absurd rfl hs
  rw [hnone] at hless
  exact ⟨s, l', hs, hstep, by rw [mailbox_step hs hstep]; exact hl, hless⟩

/-! ## The coordinator over another channel -/

namespace Coordinator

variable {χ χ' : Type}

/-- The same coordinator before other channels. -/
def map (f : χ → χ') (c : Coordinator χ) : Coordinator χ' where
  mode := c.mode
  governor := c.governor
  phase := c.phase
  workers := c.workers.map f
  accepted := c.accepted
  conns := c.conns
  subject := c.subject

@[simp] theorem map_exit (f : χ → χ') (c : Coordinator χ) (out : Exit) :
    (c.exit out).map f = (c.map f).exit out := rfl

@[simp] theorem map_setWorker (f : χ → χ') (c : Coordinator χ) (i : ℕ) (l : χ) :
    (c.setWorker i l).map f = (c.map f).setWorker i (f l) := by
  simp only [setWorker, map, List.map_set]

theorem map_workers (f : χ → χ') (c : Coordinator χ) (i : ℕ) :
    (c.map f).workers[i]? = (c.workers[i]?).map f := List.getElem?_map

theorem map_greet (f : χ → χ') (c : Coordinator χ) (i : ℕ) (r : Except Status Frame) :
    (c.greet i r).map f = (c.map f).greet i r := by
  cases r with
  | error e => rfl
  | ok fr =>
    dsimp only [greet]
    split_ifs
    · rfl
    · cases decodeHello fr.payload <;> rfl

theorem map_report (f : χ → χ') (c : Coordinator χ) (r : Except Status Frame) :
    (c.report r).map f = (c.map f).report r := by
  cases r with
  | error e => rfl
  | ok fr =>
    dsimp only [report]
    split_ifs
    · rfl
    · cases decodeEvidence fr.payload <;> rfl

theorem map_dispatched (f : χ → χ') (c : Coordinator χ) (again : Bool)
    (id : InterventionId) (status : Status) :
    (c.dispatched again id status).map f = (c.map f).dispatched again id status := by
  unfold dispatched
  rw [show (c.map f).mode = c.mode from rfl]
  split_ifs <;> rfl

theorem map_received (f : χ → χ') (c : Coordinator χ) (r : Except Status Frame) :
    (c.received r).map f = (c.map f).received r := by
  unfold received
  rw [show (c.map f).phase = c.phase from rfl]
  cases c.phase with
  | greeting i => exact map_greet f c i r
  | reporting w => exact map_report f c r
  | draining id => cases r <;> rfl
  | _ => rfl

theorem map_authorizes (f : χ → χ') (c : Coordinator χ) (now : TimeMs) :
    (c.map f).authorizes now = (c.authorizes now).map (map f) := by
  unfold authorizes
  rw [show (c.map f).governor = c.governor from rfl]
  cases conflictIds c.governor with
  | nil => rfl
  | cons cid rest =>
    dsimp only
    cases authorize cid .throttle now c.governor with
    | error e => rfl
    | ok p => obtain ⟨_ | id, g⟩ := p <;> rfl

theorem map_begins (f : χ → χ') (c : Coordinator χ) (again : Bool) (id : InterventionId)
    (now : TimeMs) : (c.begins again id now).map f = (c.map f).begins again id now := by
  unfold begins
  rw [show (c.map f).governor = c.governor from rfl]
  obtain ⟨e | t, g⟩ := dispatchBegin id now c.governor
  · exact map_dispatched f _ again id e
  · rfl

theorem map_finishes (f : χ → χ') (c : Coordinator χ) (again : Bool) (t : DispatchTicket)
    (res : AdapterResult) : (c.finishes again t res).map f = (c.map f).finishes again t res :=
  map_dispatched f _ again t.id _

end Coordinator

/-- What is received over one channel is received over the other. -/
structure Channel.Maps {χ χ' : Type} (ch : Channel χ) (ch' : Channel χ') (f : χ → χ') : Prop where
  post : ∀ l fr, f (ch.post l fr) = ch'.post (f l) fr
  receive : ∀ l r l', ch.receive l = some (r, l') → ch'.receive (f l) = some (r, f l')

namespace Coordinator

variable {χ χ' : Type} {ch : Channel χ} {ch' : Channel χ'} {f : χ → χ'} {c c' : Coordinator χ}
  {now : TimeMs} {io : Bool}

theorem receives_map (h : ch.Maps ch' f) (hc : c.receives ch io = some c') :
    (c.map f).receives ch' io = some (c'.map f) := by
  obtain ⟨i, hi, hc⟩ := Option.bind_eq_some_iff.mp hc
  unfold receives
  rw [show (c.map f).source = c.source from rfl, hi]
  cases io with
  | false =>
    cases hc
    simp [map_received]
  | true =>
    obtain ⟨l, hl, hc⟩ := Option.bind_eq_some_iff.mp hc
    obtain ⟨⟨r, l'⟩, hl', hc⟩ := Option.bind_eq_some_iff.mp hc
    cases hc
    simp [map_workers, hl, h.receive l r l' hl', map_received]

theorem sends_map (h : ch.Maps ch' f) (c : Coordinator χ) (i : ℕ) (fr : Frame) :
    (c.map f).sends ch' i fr = (c.sends ch i fr).map (map f) := by
  unfold sends
  rw [map_workers]
  cases c.workers[i]? with
  | none => rfl
  | some l => simp [h.post]

theorem applies_map (h : ch.Maps ch' f) (c : Coordinator χ) (again : Bool) (t : DispatchTicket)
    (io : Bool) : (c.map f).applies ch' again t io = (c.applies ch again t io).map (map f) := by
  unfold applies
  rw [show (c.map f).conns = c.conns from rfl]
  cases c.conns.find t.target with
  | none => rfl
  | some i =>
    cases io with
    | false => rfl
    | true => exact sends_map h { c with phase := .awaiting again t i } i _

theorem requests_map (h : ch.Maps ch' f) (c : Coordinator χ) (io : Bool) :
    (c.map f).requests ch' io = (c.requests ch io).map (map f) := by
  unfold requests
  rw [show (c.map f).governor = c.governor from rfl, show (c.map f).subject = c.subject from rfl,
    show (c.map f).conns = c.conns from rfl]
  cases conflict c.subject c.governor with
  | none => rfl
  | some conf =>
    cases hvictim : conf.affected.getLast? with
    | none => simp [hvictim]
    | some victim =>
      cases hconn : c.conns.find victim with
      | none => simp [hvictim, hconn]; rfl
      | some i =>
        cases io with
        | false => simp [hvictim, hconn]; rfl
        | true =>
          simp only [Option.bind_eq_bind, Option.bind_some, hvictim, hconn, if_true]
          exact sends_map h { c with phase := .collecting i } i _

/-- A section over one channel is the same section over the other. -/
theorem main_map (h : ch.Maps ch' f) (hc : c.main ch now io = some c') :
    (c.map f).main ch' now io = some (c'.map f) := by
  unfold main at hc ⊢
  rw [show (c.map f).phase = c.phase from rfl]
  cases hphase : c.phase with
  | accepting =>
    simp only [hphase] at hc ⊢
    rw [show (c.map f).workers.length = c.workers.length from List.length_map ..,
      show (c.map f).accepted = c.accepted from rfl]
    split_ifs at hc ⊢ <;> cases hc <;> rfl
  | greeting | reporting | awaiting | collecting =>
    simp only [hphase] at hc ⊢
    exact receives_map h hc
  | authorizing =>
    simp only [hphase] at hc ⊢
    rw [map_authorizes, hc, Option.map_some]
  | dispatching again id =>
    simp only [hphase] at hc ⊢
    cases hc
    rw [map_begins]
  | applying again t =>
    simp only [hphase] at hc ⊢
    rw [applies_map h, hc, Option.map_some]
  | finishing again t res =>
    simp only [hphase] at hc ⊢
    cases hc
    rw [map_finishes]
  | requesting =>
    simp only [hphase] at hc ⊢
    rw [requests_map h, hc, Option.map_some]
  | printing =>
    simp only [hphase] at hc ⊢
    cases hc
    rfl
  | draining id =>
    simp only [hphase] at hc ⊢
    rw [show (c.map f).conns = c.conns from rfl]
    split_ifs at hc ⊢
    · cases hc
      rfl
    · exact receives_map h hc
  | ended out =>
    simp only [hphase] at hc
    cases hc

/-- A section that is taken over the other channel waits at most for a frame. -/
theorem main_of_map (h : ch.Maps ch' f) {d : Coordinator χ'}
    (hd : (c.map f).main ch' now io = some d)
    (hready : io = true → ∀ i ∈ c.source, ∀ l ∈ c.workers[i]?, (ch.receive l).isSome) :
    ∃ c', c.main ch now io = some c' ∧ c'.map f = d := by
  have hreceives : ((c.map f).receives ch' io).isSome → (c.receives ch io).isSome := by
    intro hsome
    obtain ⟨e, he⟩ := Option.isSome_iff_exists.mp hsome
    obtain ⟨i, hi, he⟩ := Option.bind_eq_some_iff.mp he
    have hi : c.source = some i := hi
    unfold receives
    rw [hi]
    cases io with
    | false => rfl
    | true =>
      obtain ⟨m, hm, -⟩ := Option.bind_eq_some_iff.mp he
      rw [map_workers] at hm
      obtain ⟨l, hl, -⟩ := Option.map_eq_some_iff.mp hm
      obtain ⟨p, hp⟩ := Option.isSome_iff_exists.mp (hready rfl i hi l hl)
      simp [hl, hp]
  have hsome : (c.main ch now io).isSome := by
    unfold main at hd ⊢
    rw [show (c.map f).phase = c.phase from rfl] at hd
    cases hphase : c.phase with
    | accepting =>
      simp only [hphase] at hd ⊢
      rw [show (c.map f).workers.length = c.workers.length from List.length_map ..,
        show (c.map f).accepted = c.accepted from rfl] at hd
      split_ifs at hd ⊢ <;> rfl
    | greeting | reporting | awaiting | collecting =>
      simp only [hphase] at hd ⊢
      exact hreceives (by rw [hd]; rfl)
    | authorizing =>
      simp only [hphase] at hd ⊢
      rw [map_authorizes] at hd
      rw [← Option.isSome_map (f := map f), hd]
      rfl
    | applying again t =>
      simp only [hphase] at hd ⊢
      rw [applies_map h] at hd
      rw [← Option.isSome_map (f := map f), hd]
      rfl
    | requesting =>
      simp only [hphase] at hd ⊢
      rw [requests_map h] at hd
      rw [← Option.isSome_map (f := map f), hd]
      rfl
    | dispatching | finishing | printing => rfl
    | draining id =>
      simp only [hphase] at hd ⊢
      rw [show (c.map f).conns = c.conns from rfl] at hd
      split_ifs at hd ⊢
      · rfl
      · exact hreceives (by rw [hd]; rfl)
    | ended out =>
      simp only [hphase] at hd
      cases hd
  obtain ⟨c', hc'⟩ := Option.isSome_iff_exists.mp hsome
  have hmap := main_map h hc'
  rw [hd, Option.some.injEq] at hmap
  exact ⟨c', hc', hmap.symm⟩

/-- A section that receives has received something. -/
theorem receives_of_main {d : Coordinator χ} {i : ℕ} {l : χ} (hd : c.main ch now true = some d)
    (hi : c.source = some i) (hl : c.workers[i]? = some l) : (ch.receive l).isSome := by
  have hreceives : ∀ {e}, c.receives ch true = some e → (ch.receive l).isSome := by
    intro e he
    obtain ⟨j, hj, he⟩ := Option.bind_eq_some_iff.mp he
    rw [hi, Option.some.injEq] at hj
    subst hj
    obtain ⟨m, hm, he⟩ := Option.bind_eq_some_iff.mp he
    rw [hl, Option.some.injEq] at hm
    subst hm
    obtain ⟨p, hp, -⟩ := Option.bind_eq_some_iff.mp he
    rw [hp]
    rfl
  unfold main at hd
  unfold source at hi
  cases hphase : c.phase with
  | greeting | reporting | awaiting | collecting =>
    simp only [hphase] at hd
    exact hreceives hd
  | draining id =>
    simp only [hphase] at hd hi
    split_ifs at hd with hconns
    · rw [hconns] at hi
      cases hi
    · exact hreceives hd
  | _ =>
    simp only [hphase] at hi
    cases hi

end Coordinator

/-! ## The order of the workers' steps -/

/-- A run without the workers' steps. -/
inductive Section
  | connects (o : WorkerOptions)
  | main (now : TimeMs) (io : Bool)

def RunEvent.seen : RunEvent → Option Section
  | .connects o => some (.connects o)
  | .worker _ _ => none
  | .main now io => some (.main now io)

/-- The coordinator before workers that answer at once. -/
def Coordinator.syncStep (c : Coordinator Mailbox) : Section → Option (Coordinator Mailbox)
  | .connects o =>
    if o.workerId = 0 then none else some { c with workers := c.workers ++ [.connect o] }
  | .main now io => c.main Mailbox.channel now io

/-- No worker dies of itself. -/
def Unbroken : RunEvent → Prop
  | .worker _ .breaks => False
  | _ => True

theorem channel_maps : Link.channel.Maps Mailbox.channel Link.mailbox where
  post := mailbox_post
  receive _ _ _ := mailbox_receive

theorem map_set_same {l l' : Link} (c : Coordinator Link) {i : ℕ} (hl : c.workers[i]? = some l)
    (h : l'.mailbox = l.mailbox) :
    (c.setWorker i l').map Link.mailbox = c.map Link.mailbox := by
  have hsame : (c.workers.map Link.mailbox).set i l.mailbox = c.workers.map Link.mailbox := by
    apply List.ext_getElem?
    intro j
    rw [List.getElem?_set, List.getElem?_map]
    split_ifs with hj hlt
    · rw [← hj, hl]
      rfl
    · rw [← hj, List.getElem?_eq_none (by simpa using hlt)]
      rfl
    · rfl
  rw [Coordinator.map_setWorker, h, Coordinator.setWorker]
  exact congrArg (fun ws => { c.map Link.mailbox with workers := ws }) hsame

theorem simulates_sections : Runs.Simulates Coordinator.step Coordinator.syncStep
    (Coordinator.map Link.mailbox) RunEvent.seen (fun _ e => Unbroken e) (fun _ => True) where
  kept _ _ _ _ _ _ := trivial
  visible := by
    intro c e c' k _ he hstep hseen
    cases e with
    | connects o =>
      cases hseen
      simp only [Coordinator.step] at hstep
      simp only [Coordinator.syncStep]
      split_ifs at hstep ⊢
      cases hstep
      simp only [Coordinator.map, List.map_append, List.map_cons, List.map_nil, mailbox_connect]
    | worker i s => cases hseen
    | main now io =>
      cases hseen
      exact Coordinator.main_map channel_maps hstep
  silent := by
    intro c e c' _ he hstep hseen
    cases e with
    | connects | main => cases hseen
    | worker i s =>
      obtain ⟨l, hl, hstep⟩ := Option.bind_eq_some_iff.mp hstep
      obtain ⟨l', hl', hstep⟩ := Option.bind_eq_some_iff.mp hstep
      cases hstep
      have hs : s ≠ .breaks := by
        rintro rfl
        exact he
      exact map_set_same c hl (mailbox_step hs hl')

/-- Steps of one worker. -/
theorem exec_worker {c : Coordinator Link} {i : ℕ} {l l' : Link} {ss : List WorkerStep}
    (hl : c.workers[i]? = some l) (hrun : Runs.exec Link.step l ss = some l') :
    ∃ c', Runs.exec Coordinator.step c (ss.map (.worker i)) = some c' ∧
      c'.workers[i]? = some l' ∧ c'.source = c.source := by
  induction ss generalizing c l with
  | nil =>
    cases hrun
    exact ⟨c, rfl, hl, rfl⟩
  | cons s ss ih =>
    obtain ⟨m, hm, hrun⟩ := Runs.exec_cons.mp hrun
    have hlt := (List.getElem?_eq_some_iff.mp hl).1
    obtain ⟨c', hc', hl', hsource⟩ := ih (c := c.setWorker i m)
      (List.getElem?_set_self hlt) hrun
    refine ⟨c', Runs.exec_cons.mpr ⟨c.setWorker i m, ?_, hc'⟩, hl', hsource⟩
    simp [Coordinator.step, hl, hm]

theorem guarded_worker {c : Coordinator Link} {i : ℕ} {l : Link} {ss : List WorkerStep}
    (h : Runs.Guarded Link.step (fun _ s => s ≠ .breaks) l ss) (hl : c.workers[i]? = some l) :
    Runs.Guarded Coordinator.step (fun _ e => Unbroken e) c (ss.map (.worker i)) := by
  induction ss generalizing c l with
  | nil => trivial
  | cons s ss ih =>
    refine ⟨?_, fun d hd => ?_⟩
    · cases s with
      | breaks => exact absurd rfl h.1
      | receives | sends => trivial
    · obtain ⟨l₁, hl₁, hd⟩ := Option.bind_eq_some_iff.mp hd
      rw [hl, Option.some.injEq] at hl₁
      subst hl₁
      obtain ⟨m, hm, hd⟩ := Option.bind_eq_some_iff.mp hd
      cases hd
      exact ih (h.2 m hm) (List.getElem?_set_self (List.getElem?_eq_some_iff.mp hl).1)

/-- A section that the coordinator can take before answers that are at hand can be taken once
the worker it waits for has gone on. -/
theorem exists_section {c : Coordinator Link} {k : Section} {d : Coordinator Mailbox}
    (hd : (c.map Link.mailbox).syncStep k = some d) :
    ∃ es c', Runs.Guarded Coordinator.step (fun _ e => Unbroken e) c es ∧
      Runs.exec Coordinator.step c es = some c' ∧ es.filterMap RunEvent.seen = [k] ∧
      c'.map Link.mailbox = d := by
  cases k with
  | connects o =>
    simp only [Coordinator.syncStep] at hd
    split_ifs at hd with hid
    cases hd
    refine ⟨[.connects o], { c with workers := c.workers ++ [.connect o] }, ⟨trivial, ?_⟩, ?_, rfl, ?_⟩
    · exact fun _ _ => trivial
    · simp [Coordinator.step, hid, Runs.exec]
    · simp only [Coordinator.map, List.map_append, List.map_cons, List.map_nil, mailbox_connect]
  | main now io =>
    have hd : (c.map Link.mailbox).main Mailbox.channel now io = some d := hd
    -- The section itself, once what it receives is there.
    have hsection : ∀ c₁ : Coordinator Link, c₁.map Link.mailbox = c.map Link.mailbox →
        (io = true → ∀ i ∈ c₁.source, ∀ l ∈ c₁.workers[i]?, l.receive.isSome) →
        ∃ c', Coordinator.step c₁ (.main now io) = some c' ∧ c'.map Link.mailbox = d := by
      intro c₁ hsame hready
      exact Coordinator.main_of_map channel_maps (by rw [hsame]; exact hd) hready
    by_cases hready : io = true → ∀ i ∈ c.source, ∀ l ∈ c.workers[i]?, l.receive.isSome
    · obtain ⟨c', hc', hmap⟩ := hsection c rfl hready
      exact ⟨[.main now io], c', ⟨trivial, fun _ _ => trivial⟩,
        Runs.exec_cons.mpr ⟨c', hc', rfl⟩, rfl, hmap⟩
    · push Not at hready
      obtain ⟨rfl, i, hi, l, hl, -⟩ := hready
      have hanswers : l.mailbox.receive.isSome :=
        Coordinator.receives_of_main hd hi (by rw [Coordinator.map_workers, hl]; rfl)
      obtain ⟨ss, l', hss, hrun, hthere⟩ := exists_receive hanswers
      obtain ⟨c₁, hc₁, hl', hsource⟩ := exec_worker hl hrun
      have hguard := guarded_worker hss hl
      have hseen : (ss.map (RunEvent.worker i)).filterMap RunEvent.seen = [] := by
        simp [List.filterMap_map, RunEvent.seen, Function.comp_def]
      have hsame := simulates_sections.exec hguard trivial hc₁
      rw [hseen, Runs.exec_nil, Option.some.injEq] at hsame
      obtain ⟨c', hc', hmap⟩ := hsection c₁ hsame.symm fun _ j hj m hm => by
        rw [hsource, hi, Option.mem_some_iff] at hj
        rw [← hj, hl', Option.mem_some_iff] at hm
        rwa [← hm]
      refine ⟨ss.map (.worker i) ++ [.main now true], c', ?_, ?_, ?_, hmap⟩
      · exact Runs.guarded_append hguard fun _ _ => ⟨trivial, fun _ _ => trivial⟩
      · exact Runs.exec_concat.mpr ⟨c₁, hc₁, hc'⟩
      · rw [List.filterMap_append, hseen]
        rfl

/-- Each run in which no worker breaks is a run of the coordinator before workers that answer
at once, and each run of that one is seen so.  What the coordinator has done depends on what
it did itself alone: on the order of the connections, the clock and the failures of its
sockets, and not on when the workers went on. -/
theorem coordinator_schedules (c : Coordinator Link) :
    (∀ es d, (∀ e ∈ es, Unbroken e) → Runs.exec Coordinator.step c es = some d →
      Runs.exec Coordinator.syncStep (c.map Link.mailbox) (es.filterMap RunEvent.seen) =
        some (d.map Link.mailbox)) ∧
    (∀ ks u, Runs.exec Coordinator.syncStep (c.map Link.mailbox) ks = some u →
      ∃ es d, (∀ e ∈ es, Unbroken e) ∧ Runs.exec Coordinator.step c es = some d ∧
        es.filterMap RunEvent.seen = ks ∧ d.map Link.mailbox = u) ∧
    ∀ es es' d d', (∀ e ∈ es, Unbroken e) → (∀ e ∈ es', Unbroken e) →
      Runs.exec Coordinator.step c es = some d → Runs.exec Coordinator.step c es' = some d' →
      es.filterMap RunEvent.seen = es'.filterMap RunEvent.seen →
      d.phase = d'.phase ∧ d.governor = d'.governor := by
  have hseen : ∀ es d, (∀ e ∈ es, Unbroken e) → Runs.exec Coordinator.step c es = some d →
      Runs.exec Coordinator.syncStep (c.map Link.mailbox) (es.filterMap RunEvent.seen) =
        some (d.map Link.mailbox) := fun _ _ hes hrun =>
    simulates_sections.exec (Runs.guarded_of_forall hes) trivial hrun
  refine ⟨hseen, fun ks u hu => ?_, fun es es' d d' hes hes' hd hd' hsame => ?_⟩
  · obtain ⟨es, d, hes, hd, hks, hmap⟩ :=
      simulates_sections.exists_run (fun _ _ _ _ => exists_section) trivial hu
    exact ⟨es, d, Runs.forall_of_guarded hes hd, hd, hks, hmap⟩
  · have himage := hseen es d hes hd
    rw [hsame, hseen es' d' hes' hd', Option.some.injEq] at himage
    exact ⟨(congrArg Coordinator.phase himage).symm, (congrArg Coordinator.governor himage).symm⟩

end ContentionGovernor.Dist
