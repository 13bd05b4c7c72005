import ContentionGovernor.CrashRecovery
import ContentionGovernor.DurableHistory
import ContentionGovernor.DurableLimits
import ContentionGovernor.Queries
import ContentionGovernor.Replay

/-!
# The command line

`cli/main.cpp` answers one question from the snapshot of another process.  It shows the state
that the last save has left, whatever that process does or has lost since.
-/

namespace ContentionGovernor

namespace Cli

/-! ## Arguments -/

def isSpace (b : UInt8) : Bool := b = 32 || (9 ≤ b && b ≤ 13)

def isDigit (b : UInt8) : Bool := 48 ≤ b && b ≤ 57

/-- `strtoull` to base 10: blanks, a sign and the digits that follow.  What does not fit is the
largest value, and the minus sign negates what does. -/
def strtoull (s : ByteString) : UInt64 :=
  let rest := s.bytes.dropWhile isSpace
  let (negative, rest) : Bool × List UInt8 :=
    match rest with
    | 43 :: rest => (false, rest)
    | 45 :: rest => (true, rest)
    | rest => (false, rest)
  let n := (rest.takeWhile isDigit).foldl (fun n b => 10 * n + (b.toNat - 48)) 0
  if 2 ^ 64 ≤ n then 0xFFFFFFFFFFFFFFFF
  else if negative then 0 - UInt64.ofNat n else UInt64.ofNat n

/-- The argument after the last `--state`. -/
def statePath (path : ByteString) : List ByteString → ByteString
  | [] | [_] => path
  | flag :: arg :: args =>
    if flag = "--state" then statePath arg args else statePath path (arg :: args)

/-! ## Output -/

structure Output where
  out : ByteString := ""
  err : ByteString := ""
  code : ℕ := 0
deriving DecidableEq

def concat (lines : List ByteString) : ByteString := ⟨lines.flatMap ByteString.bytes⟩

/-- `%llu`, `%u` and `%zu`. -/
def decimal (n : ℕ) : ByteString := (toString n : String)

/-- The nearest number, and of two the even one. -/
def roundEven (q : ℚ) : ℕ :=
  let n := q.num.toNat / q.den
  let twice := 2 * (q.num.toNat % q.den)
  if twice < q.den ∨ twice = q.den ∧ n % 2 = 0 then n else n + 1

/-- `%.4f`. -/
def fixed4 (x : Double) : ByteString :=
  let sign : ByteString := if 2 ^ 63 ≤ x.bits.toNat then "-" else ""
  if x.isNaN then sign ++ ("nan" : ByteString)
  else if ¬x.isFinite then sign ++ ("inf" : ByteString)
  else
    let n := roundEven (|x.toRat| * 10000)
    sign ++ decimal (n / 10000) ++ ("." : ByteString) ++
      ⟨[1000, 100, 10, 1].map fun place => UInt8.ofNat (48 + n / place % 10)⟩

example : [(0.39996 : Double), 0.5 - 1.0, 1.0 / 32.0].map fixed4 =
    ["0.4000", "-0.5000", "0.0312"] := by decide +kernel

/-- `%016llx`. -/
def hex16 (n : UInt64) : ByteString :=
  ⟨(List.range 16).map fun i =>
    let digit := n.toNat / 16 ^ (15 - i) % 16
    UInt8.ofNat (if digit < 10 then 48 + digit else 87 + digit)⟩

/-! ## Queries -/

/-- One turn of the loop of `history`. -/
def selectedRecords (s : GovernorState) (cid : ConflictId) : List InterventionRecord :=
  match conflict cid s with
  | none => []
  | some c => c.selectedIds.filterMap fun iid => intervention iid s

def historyRecords (s : GovernorState) : List InterventionRecord :=
  (conflictIds s).flatMap (selectedRecords s)

def historyLine (iv : InterventionRecord) : ByteString :=
  ("intervention " : ByteString) ++ decimal iv.id.value.toNat ++ (" conflict=" : ByteString) ++
    decimal iv.conflictId.value.toNat ++ (" state=" : ByteString) ++ iv.state.toByteString ++
    (" cls=" : ByteString) ++ iv.cls.toByteString ++ (" result=" : ByteString) ++
    iv.result.toByteString ++ ("\n" : ByteString)

/-- The records that `fairness` lists: those of the workloads that a conflict affects. -/
def fairnessRecords (s : GovernorState) : List FairnessRecord :=
  (conflictIds s).flatMap fun cid =>
    match conflict cid s with
    | none => []
    | some c => c.affected.filterMap fun w => fairness w s

def fairnessLine (fr : FairnessRecord) : ByteString :=
  ("workload=" : ByteString) ++ decimal fr.workload.value.toNat ++
    (" interventions=" : ByteString) ++ decimal fr.interventionCount.toNat ++
    (" consecutive=" : ByteString) ++ decimal fr.consecutiveInterventions.toNat ++
    ("\n" : ByteString)

def showConflict (id : ConflictId) (s : GovernorState) : Output :=
  match conflict id s with
  | none => { out := "unknown conflict\n", code := 1 }
  | some c =>
    { out := ("id=" : ByteString) ++ decimal c.id.value.toNat ++ (" domain=" : ByteString) ++
        c.domain.toByteString ++ (" degradation=" : ByteString) ++ fixed4 c.degradation ++
        (" severity=" : ByteString) ++ c.severity.toByteString ++ (" state=" : ByteString) ++
        c.state.toByteString ++ (" binding=" : ByteString) ++ c.binding.toByteString ++
        ("\n" : ByteString) }

def evaluateCommand (id : ConflictId) (s : GovernorState) : Output :=
  let ev := evaluate id s
  { out := ("state=" : ByteString) ++ ev.state.toByteString ++ (" degradation=" : ByteString) ++
      fixed4 ev.degradation ++ (" status=" : ByteString) ++ ev.status.code.toByteString ++
      (" candidates=" : ByteString) ++ decimal ev.candidates.length ++ ("\n" : ByteString) ++
      match ev.decision with
      | some d => ("decision=" : ByteString) ++ d.chosen.cls.toByteString ++
        (" target=" : ByteString) ++ decimal d.chosen.target.value.toNat ++ ("\n" : ByteString)
      | none => "" }

def decisionCommand (id : ConflictId) (s : GovernorState) : Output :=
  match (evaluate id s).decision with
  | some d =>
    { out := d.chosen.cls.toByteString ++ (" target=" : ByteString) ++
        decimal d.chosen.target.value.toNat ++ ("\n" : ByteString) }
  | none => { out := "NO_LEGAL_INTERVENTION\n", code := 1 }

def budgetCommand (s : GovernorState) : Output :=
  let ab := actionBudget s
  { out := ("throttles=" : ByteString) ++ decimal ab.used.throttles.toNat ++
      ("/" : ByteString) ++ decimal ab.maxThrottlesPerWindow.toNat ++
      (" preemptions=" : ByteString) ++ decimal ab.used.preemptions.toNat ++
      ("/" : ByteString) ++ decimal ab.maxPreemptionsPerWindow.toNat ++
      (" all=" : ByteString) ++ decimal ab.used.all.toNat ++ ("/" : ByteString) ++
      decimal ab.maxAnyPerWindow.toNat ++ ("\n" : ByteString) }

def replayCommand (s : GovernorState) : Output :=
  let rp := replay s
  { out := ("conflicts=" : ByteString) ++ decimal rp.conflictsEvaluated ++
      (" diverged=" : ByteString) ++ decimal rp.diverged.length ++ ("\n" : ByteString)
    code := if rp.status.isOk then 0 else 1 }

def validateCommand (s : GovernorState) : Output :=
  let v := validatePolicy s.engine.policy
  if ¬v.isOk then
    { out := ("policy invalid: " : ByteString) ++ v.code.toByteString ++ ("\n" : ByteString)
      code := 1 }
  else
    { out := ("state valid; conflicts=" : ByteString) ++ decimal s.engine.conflicts.size ++
        (" evidence=" : ByteString) ++ decimal s.engine.evidence.size ++
        (" interventions=" : ByteString) ++ decimal s.engine.interventions.size ++
        ("\n" : ByteString) }

/-- The answer to one command.  The conflict is named by the argument after the command, also
where that is a flag. -/
def query (s : GovernorState) (cmd : ByteString) (args : List ByteString) : Output :=
  let id : ConflictId := (args.head?.map fun arg => ⟨strtoull arg⟩).getD {}
  if cmd = "conflicts" then
    { out := concat ((conflictIds s).map fun id =>
        ("conflict " : ByteString) ++ decimal id.value.toNat ++ ("\n" : ByteString)) }
  else if cmd = "show-conflict" then showConflict id s
  else if cmd = "evaluate" then evaluateCommand id s
  else if cmd = "decision" then decisionCommand id s
  else if cmd = "digest" then
    { out := ("digest=" : ByteString) ++ hex16 (digest s) ++ ("\n" : ByteString) }
  else if cmd = "history" then { out := concat ((historyRecords s).map historyLine) }
  else if cmd = "fairness" then { out := concat ((fairnessRecords s).map fairnessLine) }
  else if cmd = "action-budget" then budgetCommand s
  else if cmd = "replay" then replayCommand s
  else if cmd = "validate-state" then validateCommand s
  else
    { out := ("unknown command '" : ByteString) ++ cmd ++ ("'\n" : ByteString), code := 1 }

def usage : Output where
  out := ("Contention Governor CLI 1.0.0\n" : ByteString) ++
    ("commands: conflicts | show-conflict <id> | evaluate <id> | candidates <id> | " : ByteString) ++
    ("decision <id> | digest | history | fairness | action-budget | replay | " : ByteString) ++
    ("validate-state\n" : ByteString)

def loadFailed (code : StatusCode) : Output where
  err := ("load failed: " : ByteString) ++ code.toByteString ++ ("\n" : ByteString)
  code := 1

def main (files : FileSystem ByteString) (readable : Bool) :
    List ByteString → Except Fault Output
  | [] | [_] => .ok usage
  | _ :: cmd :: args => do
    let path := statePath "" args
    if path = "" then return query {} cmd args
    let (st, s) ← load ⟨true, path⟩ readable (files path) {}
    if ¬st.isOk then return loadFailed st.code
    return query s cmd args

/-! ## The history -/

section History

variable {s : GovernorState} (h : Accounted s)
include h

end History

/-! ## The snapshot of another process -/

section Snapshots

variable {files : FileSystem ByteString} {path : ByteString}

/-- On the snapshot at the path, every command line gives this. -/
def Answers (files : FileSystem ByteString) (path : ByteString)
    (answer : ByteString → List ByteString → Output) : Prop :=
  ∀ program cmd args, statePath "" args = path →
    main files true (program :: cmd :: args) = .ok (answer cmd args)

end Snapshots

end Cli

end ContentionGovernor
