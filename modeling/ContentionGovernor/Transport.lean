import ContentionGovernor.FrameReception
import ContentionGovernor.Lib.Simulation

/-!
# One connection with several senders

Threads that share a connection send whole frames under `write_mu_`, in as many pieces as
`::send` takes.  The peer reads what has arrived into its buffer and takes frames off it.
-/

namespace ContentionGovernor

/-- The checks of `Connection::send` ahead of the lock. -/
def sendRefused (valid : Bool) (f : Frame) : Option Status :=
  if kMaxFramePayload < f.payload.length then some (protocolError "frame too large")
  else if ¬valid then some (protocolError "connection closed")
  else none

/-- A call of `send` that holds the lock, in the loop of `write_all`. -/
structure Writing where
  thread : ℕ
  frame : Frame
  off : ℕ
  unfinished : off < (encodeFrame frame.type frame.payload).length

namespace Writing

def bytes (w : Writing) : List UInt8 := encodeFrame w.frame.type w.frame.payload

def written (w : Writing) : List UInt8 := w.bytes.take w.off

/-- The call that has just taken the lock. -/
def start (thread : ℕ) (f : Frame) : Writing where
  thread := thread
  frame := f
  off := 0
  unfinished := by
    rw [length_encodeFrame]
    omega

/-- What is left of the call once `::send` has taken `n` bytes more. -/
def advance (w : Writing) (n : ℕ) : Option Writing :=
  if h : w.off + n < w.bytes.length then some { w with off := w.off + n, unfinished := h }
  else none

end Writing

/-- The calls that wait for the lock, the one that holds it, the bytes that the socket has
taken and not delivered yet, and the buffer of the peer. -/
structure Transport where
  valid : Bool := true
  waiting : List (ℕ × Frame) := []
  writing : Option Writing := none
  inflight : List UInt8 := []
  rbuf : List UInt8 := []

inductive TransportEvent
  | calls (thread : ℕ) (f : Frame)
  | locks (k : ℕ)
  | writes (n : ℕ)
  | fails
  | reads (n : ℕ)
  | takes
deriving DecidableEq

namespace Transport

/-- The calls of `send` that have passed the checks and not returned. -/
def calling (s : Transport) : List (ℕ × Frame) :=
  (s.writing.map fun w => (w.thread, w.frame)).toList ++ s.waiting

def callers (s : Transport) : List ℕ := s.calling.map Prod.fst

def step (s : Transport) : TransportEvent → Option Transport
  | .calls thread f =>
    if thread ∈ s.callers then none
    else if (sendRefused s.valid f).isSome then some s
    else some { s with waiting := s.waiting ++ [(thread, f)] }
  | .locks k =>
    if s.writing.isSome then none
    else (s.waiting[k]?).map fun call =>
      { s with waiting := s.waiting.eraseIdx k, writing := some (.start call.1 call.2) }
  | .writes n =>
    s.writing.bind fun w =>
      if 0 < n ∧ w.off + n ≤ w.bytes.length then
        some { s with
          writing := w.advance n
          inflight := s.inflight ++ (w.bytes.drop w.off).take n }
      else none
  | .fails => s.writing.map fun _ => { s with writing := none }
  | .reads n =>
    -- `receive` reads only when its buffer does not begin with a whole frame.
    match frontFrame s.rbuf with
    | .ok none =>
      if 0 < n ∧ n ≤ 4096 ∧ n ≤ s.inflight.length then
        some { s with rbuf := s.rbuf ++ s.inflight.take n, inflight := s.inflight.drop n }
      else none
    | _ => none
  | .takes =>
    match frontFrame s.rbuf with
    | .ok (some (_, rest)) => some { s with rbuf := rest }
    | _ => none

/-! ## What a run has done -/

inductive Note
  | accepted (thread : ℕ) (f : Frame)
  | sent (thread : ℕ) (f : Frame)
  | received (f : Frame)

/-- The calls that pass the checks, those that return without an error and the frames that
`receive` returns. -/
def notes (s : Transport) : TransportEvent → List Note
  | .calls thread f => if (sendRefused s.valid f).isSome then [] else [.accepted thread f]
  | .writes n =>
    match s.writing with
    | some w => if (w.advance n).isNone then [.sent w.thread w.frame] else []
    | none => []
  | .takes =>
    match frontFrame s.rbuf with
    | .ok (some (f, _)) => [.received f]
    | _ => []
  | .locks _ | .fails | .reads _ => []

/-- The frames that a thread has called `send` with. -/
def accepted (log : List Note) (thread : ℕ) : List Frame :=
  log.filterMap fun
    | .accepted i f => if i = thread then some f else none
    | _ => none

/-- The frames of a thread that `send` has written. -/
def sentBy (log : List Note) (thread : ℕ) : List Frame :=
  log.filterMap fun
    | .sent i f => if i = thread then some f else none
    | _ => none

/-- All the frames that `send` has written, in the order of the locks. -/
def sent (log : List Note) : List Frame :=
  log.filterMap fun
    | .sent _ f => some f
    | _ => none

def received (log : List Note) : List Frame :=
  log.filterMap fun
    | .received f => some f
    | _ => none

/-- The frame that a thread is inside `send` with. -/
def unsent (s : Transport) (thread : ℕ) : List Frame :=
  ((s.calling.find? fun call => call.1 = thread).map Prod.snd).toList

/-- What the socket has taken of the frame that is being written. -/
def torn (s : Transport) : List UInt8 := (s.writing.map Writing.written).getD []

@[simp] theorem accepted_append (log log' : List Note) (thread : ℕ) :
    accepted (log ++ log') thread = accepted log thread ++ accepted log' thread :=
  List.filterMap_append

@[simp] theorem sentBy_append (log log' : List Note) (thread : ℕ) :
    sentBy (log ++ log') thread = sentBy log thread ++ sentBy log' thread :=
  List.filterMap_append

@[simp] theorem sent_append (log log' : List Note) : sent (log ++ log') = sent log ++ sent log' :=
  List.filterMap_append

@[simp] theorem received_append (log log' : List Note) :
    received (log ++ log') = received log ++ received log' :=
  List.filterMap_append

theorem exists_sentBy {log : List Note} {f : Frame} (h : f ∈ sent log) :
    ∃ thread, f ∈ sentBy log thread := by
  obtain ⟨note, hnote, hf⟩ := List.mem_filterMap.mp h
  cases note with
  | sent thread g =>
    exact ⟨thread, List.mem_filterMap.mpr ⟨_, hnote, (if_pos rfl).trans hf⟩⟩
  | accepted _ _ | received _ => cases hf

/-- A frame that leaves room for one `recv` behind it. -/
def Short (f : Frame) : Prop := f.payload.length + 4095 ≤ kMaxFramePayload

/-- What holds of a connection and of what its run has done. -/
structure Carries (s : Transport) (log : List Note) : Prop where
  callers : s.callers.Nodup
  order : ∀ thread, accepted log thread = sentBy log thread ++ s.unsent thread
  short : ∀ thread, ∀ f ∈ accepted log thread, Short f
  queue : ∃ queued, sent log = received log ++ queued ∧
    s.rbuf ++ s.inflight = framing.stream queued ++ s.torn
  room : s.rbuf.length ≤ bufferLimit

variable {s s' : Transport} {log : List Note}

theorem written_advance {w w' : Writing} {n : ℕ} (h : w.advance n = some w') :
    w'.thread = w.thread ∧ w'.frame = w.frame ∧
      w'.written = w.written ++ (w.bytes.drop w.off).take n := by
  unfold Writing.advance at h
  split_ifs at h
  cases h
  exact ⟨rfl, rfl, List.take_add⟩

theorem bytes_advance {w : Writing} {n : ℕ} (h : w.advance n = none) :
    w.bytes = w.written ++ (w.bytes.drop w.off).take n := by
  unfold Writing.advance at h
  split_ifs at h with hless
  rw [Writing.written, ← List.take_add, List.take_of_length_le (Nat.le_of_not_lt hless)]

/-- The frame being written is the one that its thread is inside `send` with. -/
theorem unsent_writing {w : Writing} (h : s.writing = some w) : s.unsent w.thread = [w.frame] := by
  rw [unsent, calling, h]
  simp

theorem Carries.short_sent (h : s.Carries log) {f : Frame} (hf : f ∈ sent log) : Short f := by
  obtain ⟨thread, hthread⟩ := exists_sentBy hf
  refine h.short thread f ?_
  rw [h.order]
  exact List.mem_append_left _ hthread

theorem Carries.short_writing (h : s.Carries log) {w : Writing} (hw : s.writing = some w) :
    Short w.frame := by
  refine h.short w.thread w.frame ?_
  rw [h.order]
  rw [unsent_writing hw]
  exact List.mem_append_right _ (List.mem_singleton_self _)

theorem short_emptyFrame : Short emptyFrame := by
  change 0 + 4095 ≤ 2 ^ 20
  omega

/-- What is there of the frame being written is a proper part of a short one. -/
theorem Carries.torn (h : s.Carries log) :
    ∃ g, Short g ∧ ∃ c, c ≠ [] ∧ s.torn ++ c = framing.word g := by
  cases hw : s.writing with
  | none =>
    refine ⟨emptyFrame, short_emptyFrame, _, framing.word_ne_nil emptyFrame, ?_⟩
    rw [Transport.torn, hw]
    rfl
  | some w =>
    refine ⟨w.frame, h.short_writing hw, w.bytes.drop w.off, ?_, ?_⟩
    · exact fun hnil => absurd (List.drop_eq_nil_iff.mp hnil) (Nat.not_le.mpr w.unfinished)
    · rw [Transport.torn, hw]
      exact List.take_append_drop w.off w.bytes

/-- The buffer begins with the first frame that has been sent and not received, or ends
within a frame that fits with one `recv` behind it. -/
theorem Carries.front (h : s.Carries log) {queued : List Frame}
    (hsent : sent log = received log ++ queued)
    (hsplit : s.rbuf ++ s.inflight = framing.stream queued ++ s.torn) :
    (∃ f queued' rest, queued = f :: queued' ∧ frontFrame s.rbuf = .ok (some (f, rest)) ∧
      rest ++ s.inflight = framing.stream queued' ++ s.torn) ∨
    frontFrame s.rbuf = .ok none ∧ s.rbuf.length + 4096 ≤ bufferLimit := by
  obtain ⟨g, hg, htorn⟩ := h.torn
  have hshort : ∀ f ∈ g :: queued, Short f := by
    refine List.forall_mem_cons.mpr ⟨hg, fun f hf => h.short_sent ?_⟩
    rw [hsent]
    exact List.mem_append_right _ hf
  have hvalid : ∀ f ∈ g :: queued, framing.Valid f := fun f hf =>
    Nat.le_trans (Nat.le_add_right _ _) (hshort f hf)
  -- A short frame has room for one `recv` behind it, whatever part of it has come.
  rcases Framing.peek_next hvalid htorn hsplit with hfront | ⟨hnone, f, hf, hlen⟩
  · exact .inl hfront
  · refine .inr ⟨hnone, ?_⟩
    have hword : (framing.word f).length = f.payload.length + 20 := length_encodeFrame _ _
    have hroom := hshort f hf
    unfold Short at hroom
    unfold bufferLimit kFrameHeaderLen kFrameCrcLen
    omega

theorem accepted_singleton (thread i : ℕ) (f : Frame) :
    accepted [.accepted thread f] i = if thread = i then [f] else [] := by
  by_cases h : thread = i <;> simp [accepted, h]

theorem sentBy_singleton (thread i : ℕ) (f : Frame) :
    sentBy [.sent thread f] i = if thread = i then [f] else [] := by
  by_cases h : thread = i <;> simp [sentBy, h]

theorem unsent_waits {thread : ℕ} (h : thread ∉ s.callers) (i : ℕ) (f : Frame) :
    unsent { s with waiting := s.waiting ++ [(thread, f)] } i =
      s.unsent i ++ if thread = i then [f] else [] := by
  have hcalling : calling { s with waiting := s.waiting ++ [(thread, f)] } =
      s.calling ++ [(thread, f)] := (List.append_assoc _ _ _).symm
  rw [unsent, unsent, hcalling, List.find?_append]
  split_ifs with hi
  · have hnone : (s.calling.find? fun call => call.1 = i) = none := by
      rw [List.find?_eq_none]
      intro call hcall hthread
      refine h (List.mem_map.mpr ⟨call, hcall, ?_⟩)
      rw [hi]
      exact of_decide_eq_true hthread
    simp [hnone, hi]
  · simp [hi]

/-- A call that is done was the only one of its thread. -/
theorem unsent_returns (hcallers : s.callers.Nodup) {w : Writing} (hw : s.writing = some w)
    (i : ℕ) (bytes : List UInt8) : s.unsent i = (if w.thread = i then [w.frame] else []) ++
      unsent { s with writing := none, inflight := bytes } i := by
  have hcalling : s.calling = (w.thread, w.frame) :: s.waiting := by
    rw [calling, hw]
    rfl
  rw [callers, hcalling, List.map_cons, List.nodup_cons] at hcallers
  rw [unsent, unsent, hcalling]
  split_ifs with hi
  · have hnone : (s.waiting.find? fun call => call.1 = i) = none := by
      rw [List.find?_eq_none]
      intro call hcall hthread
      refine hcallers.1 (List.mem_map.mpr ⟨call, hcall, ?_⟩)
      rw [hi]
      exact of_decide_eq_true hthread
    simp [hi, calling, hnone]
  · simp [hi, calling]

/-- The order of the calls that wait does not matter. -/
theorem unsent_perm (hcallers : s.callers.Nodup) (h : s'.calling.Perm s.calling) (i : ℕ) :
    s'.unsent i = s.unsent i := by
  rw [unsent, unsent, OrderedMap.search_perm h]
  intro a ha b hb hai hbi
  refine List.inj_on_of_nodup_map hcallers ha hb ?_
  rw [of_decide_eq_true hai, of_decide_eq_true hbi]

/-! ## Steps -/

theorem carries_calls (h : s.Carries log) {thread : ℕ} {f : Frame}
    (hf : sendRefused s.valid f = none → Short f)
    (hstep : s.step (.calls thread f) = some s') :
    s'.Carries (log ++ s.notes (.calls thread f)) := by
  simp only [step] at hstep
  split_ifs at hstep with hbusy hrefused
  · cases hstep
    rw [notes, if_pos hrefused, List.append_nil]
    exact h
  · cases hstep
    rw [notes, if_neg hrefused]
    rw [Option.not_isSome_iff_eq_none] at hrefused
    obtain ⟨queued, hsent, hsplit⟩ := h.queue
    refine ⟨?_, fun i => ?_, fun i g hg => ?_, ⟨queued, ?_, hsplit⟩, h.room⟩
    · have hcallers := List.Nodup.concat hbusy h.callers
      rw [List.concat_eq_append] at hcallers
      rwa [callers, calling, ← List.append_assoc, List.map_append]
    · rw [accepted_append, accepted_singleton, sentBy_append, unsent_waits hbusy, h.order,
        List.append_assoc, List.append_assoc]
      rfl
    · rw [accepted_append, accepted_singleton] at hg
      rcases List.mem_append.mp hg with hg | hg
      · exact h.short i g hg
      · split_ifs at hg
        · rw [List.mem_singleton.mp hg]
          exact hf hrefused
        · cases hg
    · rw [sent_append, received_append, hsent, List.append_assoc, List.append_assoc]
      exact congrArg _ (List.append_nil queued)

theorem carries_locks (h : s.Carries log) {k : ℕ} (hstep : s.step (.locks k) = some s') :
    s'.Carries (log ++ s.notes (.locks k)) := by
  simp only [step] at hstep
  split_ifs at hstep with hlocked
  rw [Option.not_isSome_iff_eq_none] at hlocked
  obtain ⟨call, hcall, rfl⟩ := Option.map_eq_some_iff.mp hstep
  obtain ⟨hk, rfl⟩ := List.getElem?_eq_some_iff.mp hcall
  rw [notes, List.append_nil]
  have hperm : (calling { s with
      waiting := s.waiting.eraseIdx k
      writing := some (.start s.waiting[k].1 s.waiting[k].2) }).Perm s.calling := by
    rw [calling, calling, hlocked]
    exact List.getElem_cons_eraseIdx_perm hk
  obtain ⟨queued, hsent, hsplit⟩ := h.queue
  refine ⟨(hperm.map Prod.fst).nodup_iff.mpr h.callers, fun i => ?_, h.short,
    ⟨queued, hsent, ?_⟩, h.room⟩
  · rw [unsent_perm h.callers hperm, h.order]
  · -- Nothing of the frame is written yet.
    rw [hsplit, torn, hlocked]
    rfl

theorem carries_writes (h : s.Carries log) {n : ℕ} (hstep : s.step (.writes n) = some s') :
    s'.Carries (log ++ s.notes (.writes n)) := by
  simp only [step] at hstep
  obtain ⟨w, hw, hstep⟩ := Option.bind_eq_some_iff.mp hstep
  split_ifs at hstep with hn
  cases hstep
  obtain ⟨queued, hsent, hsplit⟩ := h.queue
  have htorn : s.torn = w.written := by rw [torn, hw]; rfl
  rw [htorn] at hsplit
  cases hw' : w.advance n with
  | some w' =>
    -- The call keeps the lock, and only the torn frame grows.
    have hnotes : s.notes (.writes n) = [] := by simp [notes, hw, hw']
    obtain ⟨hthread, hframe, hwritten⟩ := written_advance hw'
    have hcalling : ∀ bytes, calling { s with writing := some w', inflight := bytes } =
        s.calling := by
      intro bytes
      rw [calling, calling, hw, Option.map_some, Option.map_some, hthread, hframe]
    rw [hnotes, List.append_nil]
    refine ⟨?_, fun i => ?_, h.short, ⟨queued, hsent, ?_⟩, h.room⟩
    · rw [callers, hcalling]
      exact h.callers
    · rw [unsent, hcalling]
      exact h.order i
    · change s.rbuf ++ (s.inflight ++ _) = _ ++ w'.written
      rw [hwritten, ← List.append_assoc, hsplit, List.append_assoc]
  | none =>
    -- The frame is whole and joins the queue.
    have hnotes : s.notes (.writes n) = [.sent w.thread w.frame] := by simp [notes, hw, hw']
    rw [hnotes]
    refine ⟨?_, fun i => ?_, fun i f hf => ?_, ⟨queued ++ [w.frame], ?_, ?_⟩, h.room⟩
    · have hcallers := h.callers
      rw [callers, calling, hw] at hcallers
      exact (List.nodup_cons.mp hcallers).2
    · rw [accepted_append, sentBy_append, sentBy_singleton, List.append_assoc,
        ← unsent_returns h.callers hw]
      exact (List.append_nil _).trans (h.order i)
    · rw [accepted_append] at hf
      exact h.short i f ((List.mem_append.mp hf).resolve_right List.not_mem_nil)
    · rw [sent_append, received_append, hsent, List.append_assoc, List.append_assoc]
      rfl
    · change s.rbuf ++ (s.inflight ++ _) = _ ++ []
      rw [← List.append_assoc, hsplit, List.append_assoc, ← bytes_advance hw', List.append_nil,
        Framing.stream_append, Framing.stream_cons, Framing.stream_nil, List.append_nil]
      rfl

theorem carries_reads (h : s.Carries log) {n : ℕ} (hstep : s.step (.reads n) = some s') :
    s'.Carries (log ++ s.notes (.reads n)) := by
  simp only [step] at hstep
  split at hstep
  case h_2 => cases hstep
  rename_i hfront
  split_ifs at hstep with hn
  cases hstep
  obtain ⟨queued, hsent, hsplit⟩ := h.queue
  rw [notes, List.append_nil]
  refine ⟨h.callers, h.order, h.short, ⟨queued, hsent, ?_⟩, ?_⟩
  · rw [List.append_assoc, List.take_append_drop]
    exact hsplit
  · -- A read finds no whole frame in the buffer, so there is room for it.
    rcases h.front hsent hsplit with ⟨f, queued', rest, -, hsome, -⟩ | ⟨-, hroom⟩
    · rw [hfront] at hsome
      cases hsome
    · rw [List.length_append, List.length_take]
      omega

theorem carries_takes (h : s.Carries log) (hstep : s.step .takes = some s') :
    s'.Carries (log ++ s.notes .takes) := by
  simp only [step] at hstep
  split at hstep
  case h_2 => cases hstep
  rename_i f rest hfront
  cases hstep
  have hnotes : s.notes .takes = [.received f] := by simp [notes, hfront]
  obtain ⟨queued, hsent, hsplit⟩ := h.queue
  rcases h.front hsent hsplit with ⟨g, queued', rest', rfl, hsome, hrest⟩ | ⟨hnone, -⟩
  · rw [hfront] at hsome
    cases hsome
    rw [hnotes]
    refine ⟨h.callers, fun i => ?_, fun i f hf => ?_, ⟨queued', ?_, hrest⟩, ?_⟩
    · rw [accepted_append, sentBy_append, h.order]
      simp [accepted, sentBy, unsent, calling]
    · rw [accepted_append] at hf
      exact h.short i f ((List.mem_append.mp hf).resolve_right List.not_mem_nil)
    · rw [sent_append, received_append, hsent, List.append_assoc, List.append_assoc]
      exact congrArg _ (List.append_nil _)
    · exact Nat.le_trans (Nat.le_of_lt (frontFrame_shorter hfront)) h.room
  · rw [hfront] at hnone
    cases hnone

/-! ## Runs -/

/-- No write fails, and no frame that `send` accepts crowds the buffer of the peer. -/
def Calm : TransportEvent → Prop
  | .calls _ f => f.payload.length ≤ kMaxFramePayload → Short f
  | .fails => False
  | .locks _ | .writes _ | .reads _ | .takes => True

instance : DecidablePred Calm
  | .calls _ f => inferInstanceAs (Decidable
      (f.payload.length ≤ kMaxFramePayload → f.payload.length + 4095 ≤ kMaxFramePayload))
  | .fails => .isFalse id
  | .locks _ | .writes _ | .reads _ | .takes => .isTrue trivial

theorem length_of_accepted {valid : Bool} {f : Frame} (h : sendRefused valid f = none) :
    f.payload.length ≤ kMaxFramePayload := by
  unfold sendRefused at h
  split_ifs at h with hlen
  exact Nat.le_of_not_lt hlen

theorem carries_step {e : TransportEvent} (h : s.Carries log) (he : Calm e)
    (hstep : s.step e = some s') : s'.Carries (log ++ s.notes e) := by
  cases e with
  | calls thread f => exact carries_calls h (fun hsent => he (length_of_accepted hsent)) hstep
  | locks k => exact carries_locks h hstep
  | writes n => exact carries_writes h hstep
  | fails => exact he.elim
  | reads n => exact carries_reads h hstep
  | takes => exact carries_takes h hstep

theorem carries_opened (valid : Bool) : ({ valid } : Transport).Carries [] where
  callers := List.nodup_nil
  order _ := rfl
  short _ _ hf := by cases hf
  queue := ⟨[], rfl, rfl⟩
  room := Nat.zero_le _

/-- What a run from a fresh connection has done. -/
def history (valid : Bool) (es : List TransportEvent) : List Note :=
  Runs.events step notes { valid } es

theorem carries_run {valid : Bool} {es : List TransportEvent} (hcalm : ∀ e ∈ es, Calm e)
    (hrun : Runs.exec step { valid } es = some s) : s.Carries (history valid es) := by
  have hstep : ∀ (s : Transport) e s' log, s.Carries log → Calm e → s.step e = some s' →
      s'.Carries (log ++ s.notes e) := fun _ _ _ _ h he => carries_step h he
  exact Runs.events_of_guarded hstep (Runs.guarded_of_forall hcalm) hrun (carries_opened valid)

/-- Two threads send at once, and the second one takes the lock first. -/
def twoSenders : List TransportEvent :=
  [.calls 0 ⟨9, [1, 2, 3]⟩, .calls 1 ⟨10, []⟩, .locks 1, .writes 5, .reads 3, .writes 15,
    .locks 0, .reads 17, .takes, .writes 7]

def afterTwoSenders : Transport := (Runs.exec step { valid := true } twoSenders).getD {}

theorem exec_twoSenders : Runs.exec step { valid := true } twoSenders = some afterTwoSenders :=
  Runs.exec_getD _ (by decide +kernel)

theorem calm_twoSenders : ∀ e ∈ twoSenders, Calm e := by decide +kernel

/-- However the calls, the pieces of their writes and the reads interleave, the frames are
received in the order of the locks, each thread's in the order of its calls.  The bytes between
are those of the frames still to be received, and of a part of the one that is being written. -/
theorem transport_fifo {valid : Bool} {es : List TransportEvent} (hcalm : ∀ e ∈ es, Calm e)
    (hrun : Runs.exec step { valid } es = some s) :
    (∃ queued, sent (history valid es) = received (history valid es) ++ queued ∧
      s.rbuf ++ s.inflight = encodeFrames queued ++ s.torn) ∧
    (∀ thread, accepted (history valid es) thread =
      sentBy (history valid es) thread ++ s.unsent thread) ∧
    s.rbuf.length ≤ bufferLimit ∧ (frontFrame s.rbuf).isOk := by
  have h := carries_run hcalm hrun
  obtain ⟨queued, hsent, hsplit⟩ := h.queue
  refine ⟨⟨queued, hsent, hsplit⟩, h.order, h.room, ?_⟩
  rcases h.front hsent hsplit with ⟨f, queued', rest, -, hfront, -⟩ | ⟨hfront, -⟩
  · rw [hfront]
    rfl
  · rw [hfront]
    rfl

theorem transport_fifo_two :
    (∃ queued, sent (history true twoSenders) = received (history true twoSenders) ++ queued ∧
      afterTwoSenders.rbuf ++ afterTwoSenders.inflight =
        encodeFrames queued ++ afterTwoSenders.torn) ∧
    (∀ thread, accepted (history true twoSenders) thread =
      sentBy (history true twoSenders) thread ++ afterTwoSenders.unsent thread) ∧
    afterTwoSenders.rbuf.length ≤ bufferLimit ∧ (frontFrame afterTwoSenders.rbuf).isOk :=
  transport_fifo calm_twoSenders exec_twoSenders

/-! ## Delivery -/

/-- The steps that are left at most: three for each byte of a frame that is not written, two
and one on its way, and the lock. -/
def pending (s : Transport) : ℕ :=
  s.rbuf.length + 2 * s.inflight.length +
    3 * (s.writing.map fun w => w.bytes.length - w.off).getD 0 +
    (s.waiting.map fun call => 1 + 3 * (encodeFrame call.2.type call.2.payload).length).sum

/-- The events that belong to calls already made. -/
def Inner : TransportEvent → Prop
  | .calls _ _ => False
  | .locks _ | .writes _ | .fails | .reads _ | .takes => True

theorem pending_step {e : TransportEvent} (he : Inner e) (hstep : s.step e = some s') :
    s'.pending + 1 ≤ s.pending := by
  cases e with
  | calls thread f => exact he.elim
  | locks k =>
    simp only [step] at hstep
    split_ifs at hstep with hlocked
    rw [Option.not_isSome_iff_eq_none] at hlocked
    obtain ⟨call, hcall, rfl⟩ := Option.map_eq_some_iff.mp hstep
    obtain ⟨hk, rfl⟩ := List.getElem?_eq_some_iff.mp hcall
    have hsum := ((List.getElem_cons_eraseIdx_perm hk).map fun call : ℕ × Frame =>
      1 + 3 * (encodeFrame call.2.type call.2.payload).length).sum_eq
    rw [List.map_cons, List.sum_cons] at hsum
    simp only [pending, hlocked, Option.map_none, Option.getD_none, Option.map_some,
      Option.getD_some, Writing.start, Writing.bytes]
    omega
  | writes n =>
    simp only [step] at hstep
    obtain ⟨w, hw, hstep⟩ := Option.bind_eq_some_iff.mp hstep
    split_ifs at hstep with hn
    cases hstep
    have hleft : ((w.advance n).map fun w => w.bytes.length - w.off).getD 0 + n =
        w.bytes.length - w.off := by
      unfold Writing.advance
      split_ifs with hless
      · change w.bytes.length - (w.off + n) + n = _
        omega
      · change 0 + n = _
        omega
    simp only [pending, hw, Option.map_some, Option.getD_some, List.length_append,
      List.length_take, List.length_drop]
    omega
  | fails =>
    obtain ⟨w, hw, rfl⟩ := Option.map_eq_some_iff.mp hstep
    have hunfinished : w.off < w.bytes.length := w.unfinished
    simp only [pending, hw, Option.map_some, Option.getD_some, Option.map_none, Option.getD_none]
    omega
  | reads n =>
    simp only [step] at hstep
    split at hstep
    case h_2 => cases hstep
    split_ifs at hstep with hn
    cases hstep
    simp only [pending, List.length_append, List.length_take, List.length_drop]
    omega
  | takes =>
    simp only [step] at hstep
    split at hstep
    case h_2 => cases hstep
    rename_i f rest hfront
    cases hstep
    have hless := frontFrame_shorter hfront
    simp only [pending]
    omega

/-- A connection that cannot go on has nothing left to send or to receive. -/
theorem Carries.done (h : s.Carries log) (hstuck : ∀ e, Inner e → s.step e = none) :
    received log = sent log ∧ ∀ thread, accepted log thread = sentBy log thread := by
  have hwriting : s.writing = none := by
    have hfails := hstuck .fails trivial
    exact Option.map_eq_none_iff.mp hfails
  have hwaiting : s.waiting = [] := by
    have hlocks := hstuck (.locks 0) trivial
    simp only [step, hwriting, Option.isSome_none, Bool.false_eq_true, if_false] at hlocks
    rw [Option.map_eq_none_iff, List.getElem?_eq_none_iff] at hlocks
    exact List.length_eq_zero_iff.mp (Nat.le_zero.mp hlocks)
  obtain ⟨queued, hsent, hsplit⟩ := h.queue
  refine ⟨?_, fun thread => ?_⟩
  · rcases h.front hsent hsplit with ⟨f, queued', rest, -, hfront, -⟩ | ⟨hfront, -⟩
    · have htakes := hstuck .takes trivial
      simp [step, hfront] at htakes
    · -- With no whole frame in the buffer a read would be possible.
      have hinflight : s.inflight = [] := by
        have hreads := hstuck (.reads 1) trivial
        simp only [step, hfront] at hreads
        split_ifs at hreads with hn
        by_contra hne
        exact hn ⟨Nat.one_pos, by omega, List.length_pos_of_ne_nil hne⟩
      have htorn : s.torn = [] := by
        rw [Transport.torn, hwriting]
        rfl
      rw [hinflight, htorn, List.append_nil, List.append_nil] at hsplit
      cases queued with
      | nil => rw [hsent, List.append_nil]
      | cons f queued =>
        have hlong := (framing.peek_eq_some s.rbuf f (framing.stream queued)).mpr
          ⟨Nat.le_trans (Nat.le_add_right _ _)
            (h.short_sent (f := f) (by rw [hsent]; simp)), hsplit⟩
        have hpeek : framing.peek s.rbuf = .ok none := hfront
        rw [hpeek] at hlong
        cases hlong
  · have hunsent : s.unsent thread = [] := by
      rw [unsent, calling, hwriting, hwaiting]
      rfl
    rw [h.order, hunsent, List.append_nil]

/-- The steps of the calls already made end, and where none is left every frame that `send`
accepted has been sent and every frame sent has been received. -/
theorem transport_delivers {valid : Bool} {es : List TransportEvent} (hcalm : ∀ e ∈ es, Calm e)
    (hrun : Runs.exec step { valid } es = some s) :
    (∀ ks t, (∀ k ∈ ks, Inner k) → Runs.exec step s ks = some t → ks.length ≤ s.pending) ∧
    ((∀ e, Inner e → s.step e = none) →
      received (history valid es) = sent (history valid es) ∧
      ∀ thread, accepted (history valid es) thread = sentBy (history valid es) thread) := by
  refine ⟨fun ks t hks ht => ?_, (carries_run hcalm hrun).done⟩
  have hpaid : ∀ (s : Transport) e s', True → Inner e → s.step e = some s' →
      s'.pending + 1 ≤ s.pending + 0 := fun _ _ _ _ he => pending_step he
  have hbound := Runs.length_le_of_measure (fun _ _ _ _ _ _ => trivial) hpaid
    (Runs.guarded_of_forall hks) trivial ht
  rw [List.map_const', List.sum_replicate, smul_zero] at hbound
  omega

theorem transport_delivers_two :
    (∀ ks t, (∀ k ∈ ks, Inner k) → Runs.exec step afterTwoSenders ks = some t →
      ks.length ≤ afterTwoSenders.pending) ∧
    ((∀ e, Inner e → afterTwoSenders.step e = none) →
      received (history true twoSenders) = sent (history true twoSenders) ∧
      ∀ thread, accepted (history true twoSenders) thread =
        sentBy (history true twoSenders) thread) :=
  transport_delivers calm_twoSenders exec_twoSenders

/-! ## Calls of `receive` -/

/-- The results of successive calls, each blocking or not. -/
def receives : List Bool → Connection → List (Except Status Frame)
  | [], _ => []
  | blocking :: bs, c => (receive blocking c).1 :: receives bs (receive blocking c).2

/-- One nonblocking call, over the bytes of the chunks. -/
theorem receiveLoop_eq_poll (closed : Bool) (incoming : List Chunk) (rbuf : List UInt8) :
    ((receiveLoop false closed incoming rbuf).1, (receiveLoop false closed incoming rbuf).2.1,
        (receiveLoop false closed incoming rbuf).2.2.map Chunk.bytes) =
      framing.poll bufferLimit (protocolError "oversized receive buffer") (receiveEnded closed)
        (protocolError "no complete frame (nonblocking)") (incoming.map Chunk.bytes) rbuf := by
  have hpeek : framing.peek = frontFrame := rfl
  unfold Framing.poll
  cases incoming with
  | nil =>
    rw [receiveLoop, hpeek]
    cases hfront : frontFrame rbuf with
    | error status => rfl
    | ok found =>
      cases found with
      | some p => rfl
      | none =>
        simp only [List.map_nil, receiveEnded]
        split_ifs <;> rfl
  | cons chunk incoming =>
    rw [receiveLoop, hpeek]
    cases hfront : frontFrame rbuf with
    | error status => rfl
    | ok found =>
      cases found with
      | some p => rfl
      | none =>
        rw [List.map_cons]
        dsimp only
        by_cases hroom : bufferLimit < (rbuf ++ chunk.bytes).length
        · rw [if_pos hroom]
          unfold bufferLimit at hroom
          rw [if_pos hroom]
        · rw [if_neg hroom]
          unfold bufferLimit at hroom
          rw [if_neg hroom, if_pos Bool.false_ne_true]

theorem receives_eq_calls (bs : List Bool) (c : Connection) :
    receives bs c = framing.calls bufferLimit (protocolError "oversized receive buffer")
      (receiveEnded c.closed) (protocolError "no complete frame (nonblocking)") bs
      (c.incoming.map Chunk.bytes) c.rbuf := by
  induction bs generalizing c with
  | nil => rfl
  | cons blocking bs ih =>
    rw [receives, ih, Framing.calls, Framing.call]
    cases blocking with
    | true =>
      rw [if_pos rfl, ← receiveLoop_eq_pull]
      rfl
    | false =>
      rw [if_neg Bool.false_ne_true, ← receiveLoop_eq_poll]
      rfl

/-- However the bytes on their way are cut into the pieces of `recv`, calls of either kind
return the frames that have been sent and not received, in order, and all of them once there
are as many calls as frames and pieces.  A call fails where a nonblocking one would wait, and
behind the last of these frames. -/
theorem receive_calls {valid : Bool} {es : List TransportEvent} (hcalm : ∀ e ∈ es, Calm e)
    (hrun : Runs.exec step { valid } es = some s) {chunks : List Chunk}
    (hcut : (chunks.map Chunk.bytes).flatten = s.inflight) (closed : Bool) (bs : List Bool) :
    let log := history valid es
    let rs := receives bs { rbuf := s.rbuf, incoming := chunks, closed }
    received log ++ Framing.returned rs <+: sent log ∧
    ((sent log).length + chunks.length ≤ (received log).length + bs.length →
      received log ++ Framing.returned rs = sent log) ∧
    ∀ pre e post, rs = pre ++ .error e :: post →
      e = protocolError "no complete frame (nonblocking)" ∨
      e = receiveEnded closed s.torn ∧ received log ++ Framing.returned pre = sent log := by
  have h := carries_run hcalm hrun
  obtain ⟨queued, hsent, hsplit⟩ := h.queue
  obtain ⟨g, hg, htorn⟩ := h.torn
  have hshort : ∀ f ∈ g :: queued, Short f := by
    refine List.forall_mem_cons.mpr ⟨hg, fun f hf => h.short_sent ?_⟩
    rw [hsent]
    exact List.mem_append_right _ hf
  have harriving : framing.Arriving bufferLimit g s.torn queued (chunks.map Chunk.bytes) s.rbuf := by
    refine ⟨fun f hf => Nat.le_trans (Nat.le_add_right _ _) (hshort f hf), ?_, htorn, ?_⟩
    · intro f hf bytes hbytes
      obtain ⟨chunk, -, rfl⟩ := List.mem_map.mp hbytes
      have hword : (framing.word f).length = f.payload.length + 20 := length_encodeFrame _ _
      have hroom := hshort f hf
      have hfits := chunk.fits
      unfold Short at hroom
      unfold bufferLimit kFrameHeaderLen kFrameCrcLen
      omega
    · rw [hcut]
      exact hsplit
  intro log rs
  have hrs : rs = framing.calls bufferLimit (protocolError "oversized receive buffer")
      (receiveEnded closed) (protocolError "no complete frame (nonblocking)") bs
      (chunks.map Chunk.bytes) s.rbuf := receives_eq_calls bs _
  obtain ⟨hdone, hall, herror⟩ : Framing.returned rs <+: queued ∧
      (queued.length + (chunks.map Chunk.bytes).length ≤ bs.length →
        Framing.returned rs = queued) ∧
      ∀ pre e post, rs = pre ++ .error e :: post →
        e = protocolError "no complete frame (nonblocking)" ∨
        e = receiveEnded closed s.torn ∧ Framing.returned pre = queued := by
    rw [hrs]
    exact harriving.calls bs
  have hlog : sent log = received log ++ queued := hsent
  rw [hlog]
  refine ⟨(List.prefix_append_right_inj _).mpr hdone, fun hlen => ?_, fun pre e post hpre => ?_⟩
  · rw [List.length_append] at hlen
    rw [List.length_map] at hall
    rw [hall (by omega)]
  · exact (herror pre e post hpre).imp_right fun hend => ⟨hend.1, by rw [hend.2]⟩

/-- The seven bytes of the second frame arrive together. -/
def tornChunk : Chunk where
  bytes := afterTwoSenders.inflight
  nonempty := by decide +kernel
  fits := by decide +kernel

theorem flatten_tornChunk :
    (([tornChunk] : List Chunk).map Chunk.bytes).flatten = afterTwoSenders.inflight := by
  rw [List.map_singleton, List.flatten_singleton, tornChunk]

theorem receive_calls_two :
    let log := history true twoSenders
    let rs := receives [false, true]
      { rbuf := afterTwoSenders.rbuf, incoming := [tornChunk], closed := true }
    received log ++ Framing.returned rs <+: sent log ∧
    ((sent log).length + [tornChunk].length ≤ (received log).length + [false, true].length →
      received log ++ Framing.returned rs = sent log) ∧
    ∀ pre e post, rs = pre ++ .error e :: post →
      e = protocolError "no complete frame (nonblocking)" ∨
      e = receiveEnded true afterTwoSenders.torn ∧
        received log ++ Framing.returned pre = sent log :=
  receive_calls calm_twoSenders exec_twoSenders flatten_tornChunk true [false, true]

end Transport

end ContentionGovernor
