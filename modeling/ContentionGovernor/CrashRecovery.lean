import ContentionGovernor.AtomicSave
import ContentionGovernor.SnapshotRoundTrip
import ContentionGovernor.Operations
import ContentionGovernor.Lib.Checkpoint
import ContentionGovernor.Lib.Simulation

/-!
# Crashes and recovery

A governor with persistence, on the POSIX branch, whose process may stop in every state, also
between two calls of a save.  The next process starts empty and may load the snapshot.
-/

namespace ContentionGovernor

/-- The files, the governor and the call that a save in progress makes next. -/
structure Process where
  disk : FileSystem ByteString
  memory : GovernorState := {}
  saving : Option SavePoint := none

inductive ProcessEvent
  | op (op : Op)
  | save
  | io (e : SaveEvent)
  | load (readable : Bool)
  | crash

namespace Process

/-- The rest of a save, if it has not returned. -/
def rest : SavePoint → Option SavePoint
  | .returned _ _ => none
  | point => some point

/-- The lock is held until a save returns. -/
def step (path : ByteString) (p : Process) : ProcessEvent → Option Process
  | .op op =>
    if p.saving.isSome then none
    else (ContentionGovernor.step p.memory op).map fun s => { p with memory := s }
  | .save => if p.saving.isSome then none else some { p with saving := some .opening }
  | .io e =>
    p.saving.bind fun point =>
      (saveStep .posix path p.memory ⟨point, p.disk⟩ e).map fun c =>
        { p with disk := c.disk, saving := rest c.point }
  | .load readable =>
    if p.saving.isSome then none
    else match loadState readable (p.disk path) p.memory with
      | .ok (_, s) => some { p with memory := s }
      | .error _ => none
  | .crash => some { disk := p.disk }

/-- What a file that can be read is loaded as. -/
def kept (file : Option (List UInt8)) : Option GovernorState :=
  match loadState true file {} with
  | .ok (status, s) => if status.isOk then some s else none
  | .error _ => none

/-- The operations load nothing, and what is saved can be loaded again. -/
def Fits (p : Process) : ProcessEvent → Prop
  | .op op => ¬op.isLoad
  | .save => Loadable p.memory ∧ (saveToBytes p.memory).length ≤ 2 ^ 31
  | .io _ | .load _ | .crash => True

/-- The events that a recovery can tell.  The rename of a save is what makes it durable. -/
def seen : ProcessEvent → Option (Runs.Recovery Op)
  | .op op => some (.does op)
  | .io (.renamed true) => some .commits
  | .load true => some .recovers
  | .crash => some .crashes
  | .save | .io _ | .load false => none

def image (path : ByteString) (p : Process) : Runs.Checkpointed GovernorState :=
  ⟨p.memory, kept (p.disk path)⟩

/-! ## Loads -/

variable {path : ByteString} {p p' : Process}

end Process

end ContentionGovernor
