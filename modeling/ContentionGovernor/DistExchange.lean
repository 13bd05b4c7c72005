import ContentionGovernor.DistProtocol
import ContentionGovernor.Lib.Runs

/-!
# Coordinator and workers

`worker.cpp` and `coordinator.cpp` over channels that deliver the frames of each side in
order: the message loop of a worker, the throttle adapter of the coordinator, and the steps
of both in any order.
-/

namespace ContentionGovernor.Dist

/-! ## Worker -/

/-- The command line of a worker. -/
structure WorkerOptions where
  role : ByteString := "A"
  boot : UInt64 := 1
  workerId : UInt64
  victim : UInt64 := 0
  neighbor : UInt64 := 0
  baseline : Double := 100.0
  corun : Double := 60.0
  postCorun : Double := 98.0
  dieAfterAck : Bool := false

def WorkerOptions.hello (o : WorkerOptions) : WorkerHello where
  worker := ⟨o.workerId⟩
  boot := ⟨o.boot⟩
  workloadGen := ⟨1⟩
  role := o.role

/-- The first report. -/
def WorkerOptions.evidence (o : WorkerOptions) : InterferenceEvidence where
  id := ⟨1000 + o.workerId⟩
  generation := ⟨1⟩
  victim := ⟨if o.victim ≠ 0 then o.victim else o.workerId⟩
  neighbors := [⟨if o.neighbor ≠ 0 then o.neighbor else o.workerId⟩]
  domain := .compute
  metric := .higherIsBetter
  isolatedBaseline := o.baseline
  coRunObservation := o.corun
  degradation := computeDegradation .higherIsBetter o.baseline o.corun
  attribution := .controlledComparison
  confidence := 0.9
  sampleCount := 100
  status := .current
  sampledAt := 1000
  maxAgeMs := 5000
  label := .controlled
  workerBoot := o.hello.boot
  workloadGeneration := o.hello.workloadGen

/-- The report after an action. -/
def WorkerOptions.postEvidence (o : WorkerOptions) : InterferenceEvidence :=
  { o.evidence with
    id := ⟨2000 + o.workerId⟩
    generation := ⟨2⟩
    sampledAt := 3000
    coRunObservation := o.postCorun
    degradation := computeDegradation .higherIsBetter o.baseline o.postCorun }

def WireAction.ack (a : WireAction) : WireAck where
  id := a.id
  attempt := a.attempt
  acknowledged := true

def evidenceFrame (e : InterferenceEvidence) : Frame := ⟨.evidence, encodeEvidence e⟩
def ackFrame (a : WireAck) : Frame := ⟨.actionAck, encodeAck a⟩
def actionFrame (a : WireAction) : Frame := ⟨.actionAuthorize, encodeAction a⟩
def requestFrame : Frame := ⟨.rpcRequest, [1]⟩

/-- The frames one turn of the loop sends for a frame received, and whether the loop is
left behind them. -/
def WorkerOptions.turn (o : WorkerOptions) (f : Frame) : List Frame × Bool :=
  if f.type = .actionAuthorize then
    match decodeAction f.payload with
    | none => ([], false)
    | some a =>
      ((if o.role = "A" then [evidenceFrame o.postEvidence] else []) ++ [ackFrame a.ack],
        o.dieAfterAck)
  else if f.type = .shutdown then ([], true)
  else if f.type = .rpcRequest then ([evidenceFrame o.postEvidence], false)
  else ([], false)

/-- A worker with the two directions of its connection. -/
structure Link where
  options : WorkerOptions
  /-- What the turn of the loop has still to send. -/
  sends : List Frame
  leaving : Bool := false
  toWorker : List Frame := []
  toCoordinator : List Frame := []

/-- A worker whose hello has been read. -/
def Link.start (o : WorkerOptions) : Link where
  options := o
  sends := [evidenceFrame o.evidence]

def Link.post (l : Link) (f : Frame) : Link := { l with toWorker := l.toWorker ++ [f] }

inductive WorkerStep
  | receives | sends
  /-- The process ends, or its connection does. -/
  | breaks

def Link.step (l : Link) : WorkerStep → Option Link
  | .receives =>
    match l.sends, l.leaving, l.toWorker with
    | [], false, f :: rest =>
      some { l with
        toWorker := rest
        sends := (l.options.turn f).1
        leaving := (l.options.turn f).2 }
    | _, _, _ => none
  | .sends =>
    match l.sends with
    | f :: rest => some { l with sends := rest, toCoordinator := l.toCoordinator ++ [f] }
    | [] => none
  | .breaks => some { l with sends := [], leaving := true }

/-! ## Coordinator -/

/-- What `apply` returns once `receive` has. -/
def applyResult (attempt : AttemptId) : Except Status Frame → AdapterResult
  | .error _ => ⟨.unknown, "no ack", attempt⟩
  | .ok f =>
    -- The type of the frame and the attempt of the acknowledgement are not looked at.
    match decodeAck f.payload with
    | none => ⟨.unknown, "bad ack", attempt⟩
    | some ack => ⟨if ack.acknowledged then .accepted else .rejected, ack.note, attempt⟩

/-- A call of `apply` that has sent its action. -/
structure Call where
  attempt : AttemptId
  target : WorkloadId

/-- A returned call, with the frame it consumed. -/
structure Answer where
  result : AdapterResult
  consumed : Option Frame := none

/-- The connections of the coordinator, and the calls of its throttle adapter. -/
structure Exchange where
  conns : OrderedMap WorkloadId Link := .empty
  call : Option Call := none
  answers : List Answer := []

inductive WireEvent
  | accept (o : WorkerOptions)
  | worker (w : WorkloadId) (s : WorkerStep)
  /-- `main` receives a frame outside of `apply`. -/
  | collect (w : WorkloadId)
  /-- `main` asks for a measurement. -/
  | request (w : WorkloadId)
  | applyBegins (attempt : AttemptId) (target : WorkloadId) (cls : InterventionClass)
      (intensity : Double) (sent : Bool)
  | applyEnds
  /-- `receive` fails within `apply`. -/
  | applyBreaks

def Exchange.answer (x : Exchange) (a : Answer) : Exchange :=
  { x with call := none, answers := x.answers ++ [a] }

def Exchange.setLink (x : Exchange) (w : WorkloadId) (l : Link) : Exchange :=
  { x with conns := x.conns.insert w l }

/-- The coordinator runs one thread: while a call is open only the workers, and the call,
go on. -/
def Exchange.step (x : Exchange) : WireEvent → Option Exchange
  | .accept o =>
    match x.call, decodeHello (encodeHello o.hello) with
    | none, some hello => some (x.setLink ⟨hello.worker.value⟩ (.start o))
    | _, _ => none
  | .worker w s => do
    let l ← x.conns.find w
    let l' ← l.step s
    return x.setLink w l'
  | .collect w =>
    match x.call, x.conns.find w with
    | none, some l =>
      match l.toCoordinator with
      | _ :: rest => some (x.setLink w { l with toCoordinator := rest })
      | [] => none
    | _, _ => none
  | .request w =>
    match x.call, x.conns.find w with
    | none, some l => some (x.setLink w (l.post requestFrame))
    | _, _ => none
  | .applyBegins attempt target cls intensity sent =>
    match x.call, x.conns.find target with
    | none, none => some (x.answer ⟨⟨.unavailable, "no worker for target", attempt⟩, none⟩)
    | none, some l =>
      if ¬sent then some (x.answer ⟨⟨.unknown, "send failed", attempt⟩, none⟩)
      else
        some { x.setLink target (l.post (actionFrame ⟨⟨1⟩, cls, target, attempt, intensity⟩)) with
          call := some ⟨attempt, target⟩ }
    | some _, _ => none
  | .applyEnds => do
    let k ← x.call
    let l ← x.conns.find k.target
    match l.toCoordinator with
    | f :: rest =>
      some ((x.setLink k.target { l with toCoordinator := rest }).answer
        ⟨applyResult k.attempt (.ok f), some f⟩)
    | [] =>
      if l.leaving ∧ l.sends = [] then
        some (x.answer ⟨applyResult k.attempt (.error (protocolError "peer closed")), none⟩)
      else none
  | .applyBreaks => do
    let k ← x.call
    return x.answer ⟨applyResult k.attempt (.error (protocolError "recv failed")), none⟩

end ContentionGovernor.Dist
