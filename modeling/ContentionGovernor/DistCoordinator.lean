import ContentionGovernor.DistExchange
import ContentionGovernor.Operations
import ContentionGovernor.Queries

/-!
# The coordinator process

`main` of `coordinator.cpp`, cut where it waits for a connection or a frame and where it
calls the governor, over channels that are left open: a channel is what the coordinator
sees of a worker.
-/

namespace ContentionGovernor.Dist

/-- Sending to a worker, and receiving from it: nothing is received while the coordinator
waits. -/
structure Channel (χ : Type) where
  post : χ → Frame → χ
  receive : χ → Option (Except Status Frame × χ)

/-- What the process prints or returns at its end. -/
inductive Exit
  | failure (code : ℕ)
  | noLegalIntervention
  | dispatchRejected (code : StatusCode)
  | persisted (id : InterventionId)
  | resumeDispatch (code : StatusCode)
  | ok (state : Option ConflictState)
deriving DecidableEq

/-- Where `main` stands.  In mode `resume` the intervention is dispatched again. -/
inductive Phase
  | accepting
  | greeting (i : ℕ)
  | reporting (w : WorkloadId)
  | authorizing
  | dispatching (again : Bool) (id : InterventionId)
  | applying (again : Bool) (t : DispatchTicket)
  | awaiting (again : Bool) (t : DispatchTicket) (i : ℕ)
  | finishing (again : Bool) (t : DispatchTicket) (res : AdapterResult)
  | requesting
  | collecting (i : ℕ)
  | printing
  /-- PERSISTED is printed, and frames of the first connection are read until that fails. -/
  | draining (id : InterventionId)
  | ended (out : Exit)
deriving DecidableEq

/-- The process with its workers in the order they have connected in; the map holds, for a
workload, the connection that greeted under it last. -/
structure Coordinator (χ : Type) where
  mode : ByteString := "basic"
  governor : GovernorState := {}
  phase : Phase := .accepting
  workers : List χ := []
  accepted : ℕ := 0
  conns : OrderedMap WorkloadId ℕ := .empty
  /-- `ids[0]`. -/
  subject : ConflictId := {}

namespace Coordinator

variable {χ : Type}

def exit (c : Coordinator χ) (out : Exit) : Coordinator χ := { c with phase := .ended out }

def setWorker (c : Coordinator χ) (i : ℕ) (l : χ) : Coordinator χ :=
  { c with workers := c.workers.set i l }

/-- A worker has said hello on connection `i`. -/
def greeted (c : Coordinator χ) (i : ℕ) (hello : WorkerHello) : Coordinator χ :=
  let wl : WorkloadId := ⟨hello.worker.value⟩
  let g := (recordWorkerBoot wl hello.boot c.governor).2
  { c with
    conns := c.conns.insert wl i
    governor := (recordWorkloadGeneration wl hello.workloadGen g).2
    phase := .reporting wl }

/-- The first frame of a connection. -/
def greet (c : Coordinator χ) (i : ℕ) : Except Status Frame → Coordinator χ
  | .error _ => c.exit (.failure 5)
  | .ok f =>
    if f.type ≠ .workerStatus then c.exit (.failure 5)
    else
      match decodeHello f.payload with
      | none => c.exit (.failure 6)
      | some hello => c.greeted i hello

/-- A worker has reported; the second one is the last. -/
def reported (c : Coordinator χ) (e : InterferenceEvidence) : Coordinator χ :=
  { c with
    governor := (ingestEvidence e c.governor).2
    phase := if c.accepted < 2 then .accepting else .authorizing }

/-- The second frame of a connection. -/
def report (c : Coordinator χ) : Except Status Frame → Coordinator χ
  | .error _ => c.exit (.failure 7)
  | .ok f =>
    if f.type ≠ .evidence then c.exit (.failure 7)
    else
      match decodeEvidence f.payload with
      | none => c.exit (.failure 8)
      | some e => c.reported e

theorem greet_cases (c : Coordinator χ) (i : ℕ) (r : Except Status Frame) :
    (∃ code, c.greet i r = c.exit (.failure code)) ∨ ∃ hello, c.greet i r = c.greeted i hello := by
  cases r with
  | error e => exact .inl ⟨5, rfl⟩
  | ok f =>
    dsimp only [greet]
    split_ifs
    · exact .inl ⟨5, rfl⟩
    · cases decodeHello f.payload with
      | none => exact .inl ⟨6, rfl⟩
      | some hello => exact .inr ⟨hello, rfl⟩

theorem report_cases (c : Coordinator χ) (r : Except Status Frame) :
    (∃ code, c.report r = c.exit (.failure code)) ∨ ∃ e, c.report r = c.reported e := by
  cases r with
  | error e => exact .inl ⟨7, rfl⟩
  | ok f =>
    dsimp only [report]
    split_ifs
    · exact .inl ⟨7, rfl⟩
    · cases decodeEvidence f.payload with
      | none => exact .inl ⟨8, rfl⟩
      | some e => exact .inr ⟨e, rfl⟩

/-- What follows a dispatch. -/
def dispatched (c : Coordinator χ) (again : Bool) (id : InterventionId) (status : Status) :
    Coordinator χ :=
  if again then c.exit (.resumeDispatch status.code)
  else if status.code ≠ .ok then c.exit (.dispatchRejected status.code)
  else if c.mode = "persist" then { c with phase := .draining id }
  else if c.mode = "resume" then { c with phase := .dispatching true id }
  else { c with phase := .requesting }

/-- The frame that answers the request for a measurement. -/
def collect (c : Coordinator χ) (r : Except Status Frame) : Coordinator χ :=
  { c with
    governor :=
      match r with
      | .error _ => c.governor
      | .ok f =>
        if f.type ≠ .evidence then c.governor
        else
          match decodeEvidence f.payload with
          | none => c.governor
          | some post => (submitPostActionEvidence post c.governor).2
    phase := .printing }

/-- The connection that `main` receives from next. -/
def source (c : Coordinator χ) : Option ℕ :=
  match c.phase with
  | .greeting i | .awaiting _ _ i | .collecting i => some i
  | .reporting w => c.conns.find w
  | .draining _ => c.conns.entries.head?.map Prod.snd
  | _ => none

/-- What `main` does with what it has received. -/
def received (c : Coordinator χ) (r : Except Status Frame) : Coordinator χ :=
  match c.phase with
  | .greeting i => c.greet i r
  | .reporting _ => c.report r
  | .awaiting again t _ => { c with phase := .finishing again t (applyResult t.attempt r) }
  | .collecting _ => c.collect r
  | .draining id =>
    match r with
    | .error _ => c.exit (.persisted id)
    | .ok _ => c
  | _ => c

/-- A section that receives; the receive may fail by itself. -/
def receives (ch : Channel χ) (c : Coordinator χ) (io : Bool) : Option (Coordinator χ) := do
  let i ← c.source
  if io then
    let l ← c.workers[i]?
    let (r, l') ← ch.receive l
    return (c.setWorker i l').received r
  else return c.received (.error (protocolError "recv failed"))

def sends (ch : Channel χ) (c : Coordinator χ) (i : ℕ) (f : Frame) : Option (Coordinator χ) :=
  (c.workers[i]?).map fun l => c.setWorker i (ch.post l f)

end Coordinator

/-- The classes whose adapter is the throttle adapter. -/
def asksThrottle : InterventionClass → Bool
  | .throttle | .reduceConcurrency | .reduceBatch | .serialize | .timeSlice
  | .reduceMemoryPressure => true
  | _ => false

theorem callAdapter_throttle (apply : AttemptId → WorkloadId → InterventionClass → Double →
    AdapterResult) (t : DispatchTicket) : callAdapter (some ⟨some apply⟩) t =
      if asksThrottle t.cls then apply t.attempt t.target t.cls 1.0
      else ⟨.unavailable, "no registered adapter for class", t.attempt⟩ := by
  unfold callAdapter asksThrottle
  cases t.cls <;> rfl

/-- The action that `apply` sends. -/
def ticketAction (t : DispatchTicket) : WireAction where
  id := ⟨1⟩
  cls := t.cls
  target := t.target
  attempt := t.attempt
  intensity := 1.0

namespace Coordinator

variable {χ : Type}

/-- `g.authorize(ids[0], THROTTLE)`. -/
def authorizes (c : Coordinator χ) (now : TimeMs) : Option (Coordinator χ) :=
  match conflictIds c.governor with
  | [] => some (c.exit (.failure 9))
  | cid :: _ =>
    match authorize cid .throttle now c.governor with
    | .error _ => none
    | .ok (none, g) => some ({ c with governor := g }.exit .noLegalIntervention)
    | .ok (some id, g) =>
      some { c with governor := g, subject := cid, phase := .dispatching false id }

/-- The first critical section of `dispatch`, and the adapter it asks for. -/
def begins (c : Coordinator χ) (again : Bool) (id : InterventionId) (now : TimeMs) :
    Coordinator χ :=
  match dispatchBegin id now c.governor with
  | (.error status, g) => { c with governor := g }.dispatched again id status
  | (.ok t, g) =>
    { c with
      governor := g
      phase :=
        if asksThrottle t.cls then .applying again t
        else .finishing again t ⟨.unavailable, "no registered adapter for class", t.attempt⟩ }

/-- `apply` up to its receive. -/
def applies (ch : Channel χ) (c : Coordinator χ) (again : Bool) (t : DispatchTicket) (io : Bool) :
    Option (Coordinator χ) :=
  match c.conns.find t.target with
  | none =>
    some { c with
      phase := .finishing again t ⟨.unavailable, "no worker for target", t.attempt⟩ }
  | some i =>
    if io then
      { c with phase := .awaiting again t i }.sends ch i (actionFrame (ticketAction t))
    else some { c with phase := .finishing again t ⟨.unknown, "send failed", t.attempt⟩ }

/-- The second critical section of `dispatch`. -/
def finishes (c : Coordinator χ) (again : Bool) (t : DispatchTicket) (res : AdapterResult) :
    Coordinator χ :=
  let (status, g) := dispatchFinish t.id res c.governor
  { c with governor := g }.dispatched again t.id status

/-- The request for a measurement; whether it is sent is not looked at. -/
def requests (ch : Channel χ) (c : Coordinator χ) (io : Bool) : Option (Coordinator χ) := do
  let conf ← conflict c.subject c.governor
  let victim ← conf.affected.getLast?
  match c.conns.find victim with
  | none => return { c with phase := .printing }
  | some i =>
    let c := { c with phase := .collecting i }
    if io then c.sends ch i requestFrame else return c

/-- One section of `main`, with the reading of the clock it takes and whether its call on a
socket succeeds. -/
def main (ch : Channel χ) (c : Coordinator χ) (now : TimeMs) (io : Bool) :
    Option (Coordinator χ) :=
  match c.phase with
  | .accepting =>
    if ¬io then some (c.exit (.failure 4))
    else if c.accepted < c.workers.length then
      some { c with accepted := c.accepted + 1, phase := .greeting c.accepted }
    else none
  | .greeting _ | .reporting _ | .awaiting _ _ _ | .collecting _ => c.receives ch io
  | .authorizing => c.authorizes now
  | .dispatching again id => some (c.begins again id now)
  | .applying again t => c.applies ch again t io
  | .finishing again t res => some (c.finishes again t res)
  | .requesting => c.requests ch io
  | .printing => some (c.exit (.ok ((conflict c.subject c.governor).map (·.state))))
  | .draining id =>
    if c.conns.entries = [] then some (c.exit (.persisted id)) else c.receives ch io
  | .ended _ => none

/-- What `main` does before it accepts: in mode `resume` a failed load ends it. -/
def start (mode : ByteString) (opts : Options) (readable : Bool) (file : Option (List UInt8)) :
    Except Fault (Coordinator χ) := do
  if mode = "resume" then
    let (status, g) ← load opts readable file {}
    if ¬status.isOk then return ({ mode, governor := g } : Coordinator χ).exit (.failure 3)
    return { mode, governor := (advanceEpoch g).2 }
  else return { mode }

end Coordinator

/-! ## With its workers -/

/-- A worker that has connected: it says hello, then reports. -/
def Link.connect (o : WorkerOptions) : Link where
  options := o
  sends := [⟨.workerStatus, encodeHello o.hello⟩, evidenceFrame o.evidence]

/-- A frame that has arrived, or the end of a connection that the worker has left. -/
def Link.receive (l : Link) : Option (Except Status Frame × Link) :=
  match l.toCoordinator with
  | f :: rest => some (.ok f, { l with toCoordinator := rest })
  | [] =>
    if l.leaving ∧ l.sends = [] then some (.error (protocolError "peer closed"), l) else none

def Link.channel : Channel Link := ⟨Link.post, Link.receive⟩

inductive RunEvent
  | connects (o : WorkerOptions)
  | worker (i : ℕ) (s : WorkerStep)
  | main (now : TimeMs) (io : Bool)

/-- The coordinator and its workers, in any order.  A worker without an id does not
connect. -/
def Coordinator.step (c : Coordinator Link) : RunEvent → Option (Coordinator Link)
  | .connects o =>
    if o.workerId = 0 then none else some { c with workers := c.workers ++ [.connect o] }
  | .worker i s => do
    let l ← c.workers[i]?
    let l' ← l.step s
    return c.setWorker i l'
  | .main now io => c.main Link.channel now io

/-! ## A run -/

/-- A run of the coordinator from an empty governor. -/
def coordinatorAfter (mode : ByteString) (es : List RunEvent) : Coordinator Link :=
  (Runs.exec Coordinator.step { mode, governor := {} } es).getD {}

theorem exec_coordinatorAfter (mode : ByteString) (es : List RunEvent)
    (h : (Runs.exec Coordinator.step { mode, governor := {} } es).isSome) :
    Runs.exec Coordinator.step { mode, governor := {} } es = some (coordinatorAfter mode es) := by
  unfold coordinatorAfter
  exact Runs.exec_getD _ h

/-- Workload 1 is slowed down by workload 2, whose worker only acknowledges. -/
def twoWorkers : List RunEvent :=
  [.connects { workerId := 1, neighbor := 2 },
    .connects { role := "B", workerId := 2, neighbor := 1, corun := 100.0 }]

/-- The worker of workload 2 has sent both its frames before the other is accepted, and takes
the action. -/
def untilAnswered : List RunEvent := twoWorkers ++
  [.worker 1 .sends, .worker 1 .sends, .main 1000 true, .worker 0 .sends, .main 1000 true,
    .worker 0 .sends, .main 1000 true, .main 1000 true, .main 1000 true, .main 1000 true,
    .main 1500 true, .main 1500 true, .main 1500 true, .worker 1 .receives, .worker 1 .sends,
    .main 1500 true]

/-- The measurement after the action is asked for, and verified. -/
example : (coordinatorAfter "basic" (untilAnswered ++ [.main 1500 true, .main 1500 true,
    .worker 0 .receives, .worker 0 .sends, .main 1500 true, .main 1500 true])).phase =
      .ended (.ok (some .resolved)) := by decide +kernel

end ContentionGovernor.Dist
