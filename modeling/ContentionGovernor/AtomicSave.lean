import ContentionGovernor.Lib.FileSystem
import ContentionGovernor.Lib.Runs
import ContentionGovernor.Persistence

/-!
# One save, step by step

`save_state` writes a temporary file and renames it over the snapshot.  Each call to the
file system may fail, and the process may stop after any of them.  The result of the rename
is not looked at, and one of the two branches removes the old snapshot first.
-/

namespace ContentionGovernor

/-- The branches of `_WIN32`. -/
inductive Platform
  | posix | windows
deriving DecidableEq

/-- The call that `save_state` makes next, with the state of the stream where it is looked
at, or what it returned. -/
inductive SavePoint
  | opening
  | writing
  | flushing (good : Bool)
  | closing
  | removing
  | renaming
  | returned (saved : Bool) (status : Status)
deriving DecidableEq

/-- The outcome of a call, with the number of bytes that have reached the file where the
call does not settle it. -/
inductive SaveEvent
  | opened (ok : Bool)
  | written (ok : Bool) (reached : ℕ)
  | flushed (ok : Bool) (reached : ℕ)
  | closed (ok : Bool)
  | removed (ok : Bool)
  | renamed (ok : Bool)
deriving DecidableEq

structure Saving where
  point : SavePoint := .opening
  disk : FileSystem ByteString

def tmpPath (path : ByteString) : ByteString := path ++ ".tmp"

def saveStep (platform : Platform) (path : ByteString) (s : GovernorState) (c : Saving)
    (e : SaveEvent) : Option Saving :=
  let bytes := saveToBytes s
  let tmp := tmpPath path
  match c.point, e with
  | .opening, .opened false =>
    some { c with point := .returned false (corrupt "cannot open temp file") }
  | .opening, .opened true => some ⟨.writing, c.disk.write tmp []⟩
  | .writing, .written ok reached =>
    some ⟨.flushing ok, c.disk.write tmp (bytes.take reached)⟩
  | .flushing true, .flushed true _ => some ⟨.closing, c.disk.write tmp bytes⟩
  | .flushing _, .flushed _ reached =>
    some ⟨.returned false (corrupt "write failed"), c.disk.write tmp (bytes.take reached)⟩
  | .closing, .closed _ =>
    some { c with point := if platform = .windows then .removing else .renaming }
  | .removing, .removed ok =>
    some ⟨.renaming, if ok then c.disk.remove path else c.disk⟩
  | .renaming, .renamed ok =>
    some ⟨.returned true .good, if ok then c.disk.rename tmp path else c.disk⟩
  | _, _ => none

theorem path_ne_tmpPath (path : ByteString) : path ≠ tmpPath path := by
  intro h
  have hlen := congrArg (List.length ∘ ByteString.bytes) h
  change path.bytes.length = (path.bytes ++ ByteString.bytes ".tmp").length at hlen
  rw [List.length_append] at hlen
  exact absurd hlen (Nat.ne_of_lt (Nat.lt_add_of_pos_right (by decide)))

section

variable {platform : Platform} {path : ByteString} {s : GovernorState}
  {before : Option (List UInt8)} {c c' : Saving} {e : SaveEvent}

/-- No file but the snapshot and the temporary one changes. -/
theorem saveStep_frame (h : saveStep platform path s c e = some c') {p : ByteString}
    (hpath : p ≠ path) (htmp : p ≠ tmpPath path) : c'.disk p = c.disk p := by
  unfold saveStep at h
  split at h <;> cases h <;> (try split_ifs) <;>
    simp [hpath, htmp, FileSystem.rename_ne htmp hpath]

/-! ## Replacement -/

/-- The snapshot is the old one or the new one, and the new one where it is reported. -/
structure Replaces (path : ByteString) (s : GovernorState) (before : Option (List UInt8))
    (c : Saving) : Prop where
  atomic : c.disk path = before ∨ c.disk path = some (saveToBytes s)
  honest : ∀ status, c.point = .returned true status → status.isOk →
    c.disk path = some (saveToBytes s)

/-- What the steps so far have done to the two files. -/
def Progress (platform : Platform) (path : ByteString) (s : GovernorState)
    (before : Option (List UInt8)) (c : Saving) : Prop :=
  let staged := c.disk (tmpPath path) = some (saveToBytes s)
  let kept := c.disk path = before ∨ platform = .windows ∧ c.disk path = none
  match c.point with
  | .opening | .writing | .flushing _ => c.disk path = before
  | .closing => staged ∧ c.disk path = before
  | .removing => staged ∧ c.disk path = before ∧ platform = .windows
  | .renaming => staged ∧ kept
  | .returned false status => c.disk path = before ∧
      (status = corrupt "cannot open temp file" ∨ status = corrupt "write failed")
  | .returned true status => status = .good ∧ (kept ∨ c.disk path = some (saveToBytes s))

/-- No file is removed before the replacement, and the replacement is made, or there is
nothing to remove and to replace. -/
def KeepsSnapshot (s : GovernorState) (before : Option (List UInt8)) (c : Saving) :
    SaveEvent → Prop
  | .removed true => c.point = .removing → before = none
  | .renamed false => c.point = .renaming → before = some (saveToBytes s)
  | _ => True

theorem progress_step (hp : Progress platform path s before c)
    (h : saveStep platform path s c e = some c') : Progress platform path s before c' := by
  have hne := path_ne_tmpPath path
  unfold saveStep at h
  split at h <;> cases h <;> rename_i hpoint <;> simp only [Progress, hpoint] at hp ⊢
  case h_1 => exact ⟨hp, .inl trivial⟩
  case h_2 => exact (FileSystem.write_ne hne).trans hp
  case h_3 => exact (FileSystem.write_ne hne).trans hp
  case h_4 => exact ⟨FileSystem.write_self, (FileSystem.write_ne hne).trans hp⟩
  case h_5 => exact ⟨(FileSystem.write_ne hne).trans hp, .inr trivial⟩
  case h_6 =>
    split_ifs with hplatform
    · exact ⟨hp.1, hp.2, hplatform⟩
    · exact hp.imp_right Or.inl
  case h_7 ok =>
    cases ok with
    | false => exact ⟨hp.1, .inl hp.2.1⟩
    | true =>
      exact ⟨(FileSystem.remove_ne hne.symm).trans hp.1, .inr ⟨hp.2.2, FileSystem.remove_self⟩⟩
  case h_8 ok =>
    cases ok with
    | false => exact ⟨trivial, .inl hp.2⟩
    | true => exact ⟨trivial, .inr (FileSystem.rename_dst hp.1)⟩

theorem progress_of_exec {disk : FileSystem ByteString} {es : List SaveEvent}
    (hrun : Runs.exec (saveStep platform path s) { disk } es = some c) :
    Progress platform path s (disk path) c :=
  Runs.invariant (fun _ _ _ => progress_step) hrun rfl

/-- On one of the branches the snapshot is the old one or the new one whatever fails. -/
theorem posix_atomic {disk : FileSystem ByteString} {es : List SaveEvent}
    (hrun : Runs.exec (saveStep .posix path s) { disk } es = some c) :
    c.disk path = disk path ∨ c.disk path = some (saveToBytes s) := by
  have hp := progress_of_exec hrun
  unfold Progress at hp
  split at hp <;> simp_all

theorem Replaces.of_same (hr : Replaces path s before c) (hdisk : c'.disk path = c.disk path)
    (hpoint : ∀ status, c'.point ≠ .returned true status) : Replaces path s before c' where
  atomic := by
    rw [hdisk]
    exact hr.atomic
  honest status h := absurd h (hpoint status)

theorem replaces_step (hp : Progress platform path s before c) (hr : Replaces path s before c)
    (hkeeps : KeepsSnapshot s before c e) (h : saveStep platform path s c e = some c') :
    Replaces path s before c' := by
  have hne := path_ne_tmpPath path
  unfold saveStep at h
  split at h <;> cases h <;> rename_i hpoint <;> simp only [Progress, hpoint] at hp
  case h_6 => exact hr.of_same rfl fun status => by split_ifs <;> simp
  case h_7 ok =>
    cases ok with
    | false => exact hr.of_same rfl (by simp)
    | true => exact ⟨.inl (FileSystem.remove_self.trans (hkeeps hpoint).symm), by simp⟩
  case h_8 ok =>
    cases ok with
    | false =>
      have hnew : c.disk path = some (saveToBytes s) := by
        rcases hr.atomic with hold | hnew
        · rw [hold, hkeeps hpoint]
        · exact hnew
      exact ⟨.inr hnew, fun _ _ _ => hnew⟩
    | true => exact ⟨.inr (FileSystem.rename_dst hp.1), fun _ _ _ => FileSystem.rename_dst hp.1⟩
  all_goals exact hr.of_same (by simp [hne]) (by simp)

theorem keepsSnapshot_of_replaces (hp : Progress platform path s before c)
    (h : ∀ c', saveStep platform path s c e = some c' → Replaces path s before c') :
    KeepsSnapshot s before c e := by
  cases e with
  | removed ok =>
    cases ok with
    | false => trivial
    | true =>
      intro hpoint
      have hstep : saveStep platform path s c (.removed true) =
          some ⟨.renaming, c.disk.remove path⟩ := by simp [saveStep, hpoint]
      rcases (h _ hstep).atomic with hold | hnew
      · exact hold.symm.trans FileSystem.remove_self
      · exact nomatch FileSystem.remove_self.symm.trans hnew
  | renamed ok =>
    cases ok with
    | true => trivial
    | false =>
      intro hpoint
      have hstep : saveStep platform path s c (.renamed false) =
          some ⟨.returned true .good, c.disk⟩ := by simp [saveStep, hpoint]
      have hnew : c.disk path = some (saveToBytes s) := (h _ hstep).honest .good rfl rfl
      simp only [Progress, hpoint] at hp
      rcases hp.2 with hold | ⟨-, hnone⟩
      · exact hold.symm.trans hnew
      · exact nomatch hnone.symm.trans hnew
  | _ => trivial

/-- At every point of a save the snapshot is the old one or the new one, and the new one
when the save is reported, exactly when no old snapshot is removed first and the rename does
not fail, a rename aside that would change nothing. -/
theorem save_replaces_iff (platform : Platform) (path : ByteString) (s : GovernorState)
    (disk : FileSystem ByteString) (es : List SaveEvent) :
    (∀ pre c, pre <+: es → Runs.exec (saveStep platform path s) { disk } pre = some c →
      Replaces path s (disk path) c) ↔
    Runs.Guarded (saveStep platform path s) (KeepsSnapshot s (disk path)) { disk } es := by
  have hstart : Progress platform path s (disk path) { disk } ∧
      Replaces path s (disk path) { disk } := ⟨rfl, .inl rfl, nofun⟩
  have hexact : ∀ c, Progress platform path s (disk path) c ∧ Replaces path s (disk path) c →
      ∀ e ∈ es, KeepsSnapshot s (disk path) c e ↔ ∀ c', saveStep platform path s c e = some c' →
        Progress platform path s (disk path) c' ∧ Replaces path s (disk path) c' := by
    rintro c ⟨hp, hr⟩ e -
    constructor
    · exact fun hkeeps c' h => ⟨progress_step hp h, replaces_step hp hr hkeeps h⟩
    · exact fun h => keepsSnapshot_of_replaces hp fun c' hc => (h c' hc).2
  rw [← Runs.invariant_throughout_iff hexact hstart]
  exact forall₄_congr fun pre c hpre hrun => (and_iff_right (progress_of_exec hrun)).symm

/-! ## Saves that return -/

/-- A save that returned is one of the coarse saves. -/
theorem saveState_of_exec {disk : FileSystem ByteString} {es : List SaveEvent} {saved : Bool}
    {status : Status} (hrun : Runs.exec (saveStep .posix path s) { disk } es = some c)
    (hpoint : c.point = .returned saved status) :
    saved = status.isOk ∧ ∃ io, saveState io s (disk path) = (status, c.disk path) := by
  have hp := progress_of_exec hrun
  cases saved with
  | false =>
    simp only [Progress, hpoint] at hp
    obtain ⟨hsame, rfl | rfl⟩ := hp
    · exact ⟨rfl, { opened := false }, by rw [hsame]; rfl⟩
    · exact ⟨rfl, { written := false }, by rw [hsame]; rfl⟩
  | true =>
    simp only [Progress, hpoint] at hp
    obtain ⟨rfl, (hsame | hwindows) | hnew⟩ := hp
    · exact ⟨rfl, { renamed := false }, by rw [hsame]; rfl⟩
    · exact nomatch hwindows.1
    · exact ⟨rfl, {}, by rw [hnew]; rfl⟩

/-- Every coarse save is one that returned. -/
theorem exists_exec_saveState (path : ByteString) (s : GovernorState)
    (disk : FileSystem ByteString) (io : SaveIo) :
    ∃ es c saved status, Runs.exec (saveStep .posix path s) { disk } es = some c ∧
      c.point = .returned saved status ∧
      saveState io s (disk path) = (status, c.disk path) := by
  have hne := path_ne_tmpPath path
  obtain ⟨opened, written, renamed⟩ := io
  cases opened with
  | false => exact ⟨[.opened false], _, _, _, rfl, rfl, rfl⟩
  | true =>
    cases written with
    | false =>
      refine ⟨[.opened true, .written false 0, .flushed true 0], _, _, _, rfl, rfl, ?_⟩
      simp [saveState, hne]
    | true =>
      refine ⟨[.opened true, .written true 0, .flushed true 0, .closed true, .renamed renamed],
        _, _, _, rfl, rfl, ?_⟩
      cases renamed with
      | false => simp [saveState, hne]
      | true => exact Prod.ext rfl (FileSystem.rename_dst FileSystem.write_self).symm

end

/-- A rename that fails is reported as a save, and a removed snapshot is not back when the
process stops. -/
theorem save_not_replaced :
    (∃ c, Runs.exec (saveStep .posix "state" {}) { disk := fun _ => none }
        [.opened true, .written true 0, .flushed true 0, .closed true, .renamed false] = some c ∧
      c.point = .returned true .good ∧ c.disk "state" = none) ∧
    ∃ c, Runs.exec (saveStep .windows "state" {}) { disk := fun _ => some [0] }
        [.opened true, .written true 0, .flushed true 0, .closed true, .removed true] = some c ∧
      c.disk "state" = none := by
  generalize ("state" : ByteString) = path
  have hne := path_ne_tmpPath path
  refine ⟨⟨_, rfl, rfl, ?_⟩, ⟨_, rfl, ?_⟩⟩
  · iterate 2 apply (FileSystem.write_ne hne).trans
    exact FileSystem.write_ne hne
  · exact FileSystem.remove_self

end ContentionGovernor
