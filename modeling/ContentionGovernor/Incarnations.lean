import ContentionGovernor.SnapshotRoundTrip
import ContentionGovernor.Operations

/-!
# Coordinator incarnations

A coordinator that resumes loads the last saved snapshot and advances the epoch.  The
advanced epoch is durable only with the next save.
-/

namespace ContentionGovernor

/-- A governor, its snapshot file and the fences that each incarnation has made so far. -/
structure Coordinator where
  gov : GovernorState := {}
  file : Option (List UInt8) := none
  incarnation : ℕ := 0
  fences : List (ℕ × Fence) := []

/-- `crash` ends an incarnation and resumes the next one. -/
inductive Event
  | op (op : Op)
  | save (io : SaveIo)
  | crash (readable : Bool)

/-- A coordinator whose load fails does not start. -/
def coordinatorStep (c : Coordinator) : Event → Option Coordinator
  | .op op => (step c.gov op).map fun s =>
    { c with
      gov := s
      fences := ((op.grant c.gov).map fun g => (c.incarnation, g.fence)).toList ++ c.fences }
  | .save io => some { c with file := (saveState io c.gov c.file).2 }
  | .crash readable =>
    match loadState readable c.file {} with
    | .error _ => none
    | .ok (status, s) =>
      if ¬status.isOk then none
      else some { c with gov := (advanceEpoch s).2, incarnation := c.incarnation + 1 }

abbrev epochOf (s : GovernorState) : CoordinatorEpoch := s.engine.authority.coordinatorEpoch

/-- Fences of different incarnations carry different epochs, and those of earlier ones not
the current epoch. -/
structure FreshEpochs (c : Coordinator) : Prop where
  distinct : ∀ i f j g, (i, f) ∈ c.fences → (j, g) ∈ c.fences → i ≠ j →
    f.coordinatorEpoch ≠ g.coordinatorEpoch
  outdated : ∀ i f, (i, f) ∈ c.fences → i ≠ c.incarnation →
    f.coordinatorEpoch ≠ epochOf c.gov

/-- No operation moves the epoch back, and at a crash the snapshot that is loaded has an
epoch below saturation and no fence has a later one. -/
def EpochSaved (c : Coordinator) : Event → Prop
  | .op op => match step c.gov op with
    | none => True
    | some s => epochOf c.gov ≤ epochOf s
  | .save _ => True
  | .crash readable => match loadState readable c.file {} with
    | .error _ => True
    | .ok (_, s) => (epochOf s).value ≠ 0xFFFFFFFFFFFFFFFF ∧
      ∀ made ∈ c.fences, made.2.coordinatorEpoch ≤ epochOf s

instance decidableEpochSaved (c : Coordinator) : (e : Event) → Decidable (EpochSaved c e)
  | .op op =>
    match h : step c.gov op with
    | none => .isTrue (by simp [EpochSaved, h])
    | some s => decidable_of_iff (epochOf c.gov ≤ epochOf s) (by simp [EpochSaved, h])
  | .save _ => .isTrue trivial
  | .crash readable =>
    match h : loadState readable c.file {} with
    | .error _ => .isTrue (by simp [EpochSaved, h])
    | .ok (_, s) =>
      decidable_of_iff ((epochOf s).value ≠ 0xFFFFFFFFFFFFFFFF ∧
        ∀ made ∈ c.fences, made.2.coordinatorEpoch ≤ epochOf s) (by simp [EpochSaved, h])

theorem fence_of_grant {s : GovernorState} {op : Op} {g : Grant} (h : op.grant s = some g) :
    g.fence.coordinatorEpoch = epochOf s := by
  obtain ⟨id, cls, now, -, hg⟩ := grant_eq_some.mp h
  obtain ⟨generation, -, hfence⟩ := hg.fence
  rw [hfence]
  rfl

/-- The fences an incarnation has made have epochs up to its own, those before earlier ones. -/
structure EpochsGrow (c : Coordinator) : Prop where
  distinct : ∀ i f j g, (i, f) ∈ c.fences → (j, g) ∈ c.fences → i ≠ j →
    f.coordinatorEpoch ≠ g.coordinatorEpoch
  reached : ∀ i f, (i, f) ∈ c.fences → i ≤ c.incarnation ∧ f.coordinatorEpoch ≤ epochOf c.gov
  outdated : ∀ i f, (i, f) ∈ c.fences → i ≠ c.incarnation →
    f.coordinatorEpoch < epochOf c.gov

theorem EpochsGrow.fresh {c : Coordinator} (h : EpochsGrow c) : FreshEpochs c :=
  ⟨h.distinct, fun i f hf hi => (h.outdated i f hf hi).ne⟩

/-- A grant adds a fence of the current incarnation with the current epoch. -/
theorem EpochsGrow.add {c : Coordinator} (h : EpochsGrow c) {f : Fence}
    (hf : f.coordinatorEpoch = epochOf c.gov) :
    EpochsGrow { c with fences := (c.incarnation, f) :: c.fences } where
  distinct := by
    intro i x j y hx hy hne
    rcases List.mem_cons.mp hx with heq | hx <;> rcases List.mem_cons.mp hy with heq' | hy
    · cases heq
      cases heq'
      exact absurd rfl hne
    · cases heq
      rw [hf]
      exact (h.outdated j y hy hne.symm).ne'
    · cases heq'
      rw [hf]
      exact (h.outdated i x hx hne).ne
    · exact h.distinct i x j y hx hy hne
  reached := by
    intro i x hx
    rcases List.mem_cons.mp hx with heq | hx
    · cases heq
      exact ⟨le_rfl, hf.le⟩
    · exact h.reached i x hx
  outdated := by
    intro i x hx hne
    rcases List.mem_cons.mp hx with heq | hx
    · cases heq
      exact absurd rfl hne
    · exact h.outdated i x hx hne

theorem EpochsGrow.advance {c : Coordinator} (h : EpochsGrow c) {s : GovernorState}
    (hle : epochOf c.gov ≤ epochOf s) : EpochsGrow { c with gov := s } where
  distinct := h.distinct
  reached := fun i f hf => ⟨(h.reached i f hf).1, (h.reached i f hf).2.trans hle⟩
  outdated := fun i f hf hne => (h.outdated i f hf hne).trans_le hle

/-- A next incarnation starts past every epoch that has been used. -/
theorem EpochsGrow.resume {c : Coordinator} (h : EpochsGrow c) {s : GovernorState}
    (hlt : ∀ i f, (i, f) ∈ c.fences → f.coordinatorEpoch < epochOf s) :
    EpochsGrow { c with gov := s, incarnation := c.incarnation + 1 } where
  distinct := h.distinct
  reached := fun i f hf => ⟨(h.reached i f hf).1.trans (Nat.le_succ _), (hlt i f hf).le⟩
  outdated := fun i f hf _ => hlt i f hf

theorem EpochsGrow.save {c : Coordinator} (h : EpochsGrow c) (file : Option (List UInt8)) :
    EpochsGrow { c with file } :=
  ⟨h.distinct, h.reached, h.outdated⟩

theorem step_epochsGrow {c c' : Coordinator} {e : Event} (h : EpochsGrow c)
    (he : EpochSaved c e) (hstep : coordinatorStep c e = some c') : EpochsGrow c' := by
  cases e with
  | op op =>
    obtain ⟨s, hs, rfl⟩ := Option.map_eq_some_iff.mp hstep
    simp only [EpochSaved, hs] at he
    cases hg : op.grant c.gov with
    | none => exact h.advance he
    | some g => exact (h.add (fence_of_grant hg)).advance he
  | save io =>
    cases hstep
    exact h.save _
  | crash readable =>
    unfold coordinatorStep at hstep
    dsimp only at hstep
    cases hload : loadState readable c.file {} with
    | error e =>
      rw [hload] at hstep
      cases hstep
    | ok r =>
      obtain ⟨status, s⟩ := r
      rw [hload] at hstep
      dsimp only at hstep
      split_ifs at hstep with hok
      cases hstep
      simp only [EpochSaved, hload] at he
      exact h.resume fun i f hf => (he.2 (i, f) hf).trans_lt (Id.lt_advance he.1)

theorem epochsGrow_empty : EpochsGrow {} where
  distinct := by
    intro i f j g hf
    cases hf
  reached := by
    intro i f hf
    cases hf
  outdated := by
    intro i f hf
    cases hf

/-- When each epoch that fences carry is saved before the next crash, no two incarnations
authorize under the same epoch, and no fence of an earlier one has the current epoch. -/
theorem incarnations_have_fresh_epochs {es : List Event} {c : Coordinator}
    (hes : Runs.Guarded coordinatorStep EpochSaved {} es)
    (hrun : Runs.exec coordinatorStep {} es = some c) : FreshEpochs c := by
  have hstep : ∀ u e u', EpochsGrow u → EpochSaved u e → coordinatorStep u e = some u' →
      EpochsGrow u' := fun _ _ _ => step_epochsGrow
  have hend := Runs.invariant_of_guarded hstep hes hrun epochsGrow_empty
  exact hend.fresh

/-! ## Saved and unsaved epochs -/

/-- A readable snapshot of a loadable state is what the next incarnation resumes from. -/
theorem crash_of_saved {c : Coordinator} {s : GovernorState} (hfile : c.file = some (saveToBytes s))
    (hs : Loadable s) (hsize : (saveToBytes s).length ≤ 2 ^ 31) :
    coordinatorStep c (.crash true) =
      some { c with gov := (advanceEpoch s).2, incarnation := c.incarnation + 1 } := by
  unfold coordinatorStep
  dsimp only
  rw [hfile, loadState_saved hs hsize]
  rfl

/-- A crash right after a save meets the condition: every fence is covered by the snapshot. -/
theorem epochSaved_of_saved {c : Coordinator} {s : GovernorState} (h : EpochsGrow c)
    (hgov : c.gov = s) (hfile : c.file = some (saveToBytes s)) (hs : Loadable s)
    (hsize : (saveToBytes s).length ≤ 2 ^ 31) (hbelow : (epochOf s).value ≠ 0xFFFFFFFFFFFFFFFF) :
    EpochSaved c (.crash true) := by
  simp only [EpochSaved, hfile, loadState_saved hs hsize]
  exact ⟨hbelow, fun made hmade => hgov ▸ (h.reached made.1 made.2 hmade).2⟩

theorem guarded_save_crash {c : Coordinator} (h : EpochsGrow c) (hs : Loadable c.gov)
    (hsize : (saveToBytes c.gov).length ≤ 2 ^ 31)
    (hbelow : (epochOf c.gov).value ≠ 0xFFFFFFFFFFFFFFFF) :
    Runs.Guarded coordinatorStep EpochSaved c [.save {}, .crash true] := by
  refine ⟨trivial, fun u hu => ⟨?_, fun _ _ => trivial⟩⟩
  cases hu
  exact epochSaved_of_saved (h.save _) rfl rfl hs hsize hbelow

theorem exec_save_crash {c : Coordinator} (hs : Loadable c.gov)
    (hsize : (saveToBytes c.gov).length ≤ 2 ^ 31) :
    Runs.exec coordinatorStep c [.save {}, .crash true] = some { c with
      gov := (advanceEpoch c.gov).2
      file := some (saveToBytes c.gov)
      incarnation := c.incarnation + 1 } :=
  Runs.exec_cons.mpr ⟨{ c with file := some (saveToBytes c.gov) }, rfl,
    Runs.exec_cons.mpr ⟨_, crash_of_saved rfl hs hsize, rfl⟩⟩

/-- The coordinator after its first incarnation has throttled the neighbor. -/
def throttled : Coordinator :=
  (Runs.exec coordinatorStep {} (throttleNeighbor.map .op)).getD {}

/-- The coordinator that resumes from what the first incarnation has saved. -/
def resumed : Coordinator :=
  { throttled with
    gov := (advanceEpoch throttled.gov).2
    file := some (saveToBytes throttled.gov)
    incarnation := 1 }

/-- The slowdown is observed again and a throttle authorized after the cooldown. -/
def throttleAgain : List Op := [.ingestEvidence slowdown, .authorize ⟨1⟩ .throttle 60000]

theorem exec_throttled :
    Runs.exec coordinatorStep {} (throttleNeighbor.map .op) = some throttled :=
  Runs.exec_getD ({} : Coordinator) (by decide +kernel)

theorem loadable_throttled : Loadable throttled.gov := by decide +kernel

theorem size_throttled : (saveToBytes throttled.gov).length ≤ 2 ^ 31 := by decide +kernel

theorem exec_resumed :
    Runs.exec coordinatorStep throttled [.save {}, .crash true] = some resumed := by
  have hincarnation : throttled.incarnation = 0 := by decide +kernel
  rw [exec_save_crash loadable_throttled size_throttled, hincarnation, resumed]

def twoIncarnations : List Event :=
  throttleNeighbor.map .op ++ ([.save {}, .crash true] ++ throttleAgain.map .op)

/-- Each of the two incarnations makes a fence. -/
theorem incarnations_have_fresh_epochs_resumed :
    ∃ c, Runs.exec coordinatorStep {} twoIncarnations = some c ∧
      c.fences.map (fun made => (made.1, made.2.coordinatorEpoch)) = [(1, ⟨1⟩), (0, ⟨0⟩)] ∧
      FreshEpochs c := by
  let c : Coordinator := (Runs.exec coordinatorStep resumed (throttleAgain.map .op)).getD {}
  have hagain : Runs.exec coordinatorStep resumed (throttleAgain.map .op) = some c :=
    Runs.exec_getD ({} : Coordinator) (by decide +kernel)
  have hrun : Runs.exec coordinatorStep {} twoIncarnations = some c :=
    Runs.exec_append.mpr ⟨_, exec_throttled, Runs.exec_append.mpr ⟨_, exec_resumed, hagain⟩⟩
  refine ⟨c, hrun, by decide +kernel, incarnations_have_fresh_epochs ?_ hrun⟩
  have hfirst : Runs.Guarded coordinatorStep EpochSaved {} (throttleNeighbor.map .op) := by
    decide +kernel
  refine Runs.guarded_append hfirst fun u hu => ?_
  obtain rfl : throttled = u := Option.some.inj (exec_throttled.symm.trans hu)
  have hgrow : EpochsGrow throttled :=
    Runs.invariant_of_guarded (fun _ _ _ => step_epochsGrow) hfirst exec_throttled
      epochsGrow_empty
  have hcrash : Runs.Guarded coordinatorStep EpochSaved throttled [.save {}, .crash true] :=
    guarded_save_crash hgrow loadable_throttled size_throttled (by decide +kernel)
  refine Runs.guarded_append hcrash fun u hu => ?_
  obtain rfl : resumed = u := Option.some.inj (exec_resumed.symm.trans hu)
  decide +kernel

/-- The events that leave the epoch to `advance_epoch` and to restarts. -/
def Event.keepsEpoch : Event → Bool
  | .op (.setAuthority _) | .op (.load _ _ _) => false
  | _ => true

theorem file_of_ops {c c' : Coordinator} {ops : List Op}
    (h : Runs.exec coordinatorStep c (ops.map .op) = some c') : c'.file = c.file := by
  induction ops generalizing c with
  | nil => cases h; rfl
  | cons op ops ih =>
    obtain ⟨u, hu, h⟩ := Runs.exec_cons.mp h
    obtain ⟨s, -, rfl⟩ := Option.map_eq_some_iff.mp hu
    exact (ih h).trans rfl

/-- Two crashes after one save: both resumed incarnations authorize under epoch 1. -/
theorem unsaved_epoch_reused :
    ¬∀ es c, (∀ e ∈ es, e.keepsEpoch) → Runs.exec coordinatorStep {} es = some c →
      FreshEpochs c := by
  intro h
  let ops : List Event := throttleAgain.map .op
  let c₁ : Coordinator := (Runs.exec coordinatorStep resumed ops).getD {}
  let c₂ : Coordinator :=
    { c₁ with gov := (advanceEpoch throttled.gov).2, incarnation := c₁.incarnation + 1 }
  let c₃ : Coordinator := (Runs.exec coordinatorStep c₂ ops).getD {}
  have hfirst : Runs.exec coordinatorStep resumed ops = some c₁ :=
    Runs.exec_getD ({} : Coordinator) (by decide +kernel)
  have hsecond : Runs.exec coordinatorStep c₂ ops = some c₃ :=
    Runs.exec_getD ({} : Coordinator) (by decide +kernel)
  have hcrash : coordinatorStep c₁ (.crash true) = some c₂ :=
    crash_of_saved (file_of_ops hfirst) loadable_throttled size_throttled
  have hrun : Runs.exec coordinatorStep {} (throttleNeighbor.map .op ++
      ([.save {}, .crash true] ++ (ops ++ .crash true :: ops))) = some c₃ :=
    Runs.exec_append.mpr ⟨_, exec_throttled, Runs.exec_append.mpr ⟨_, exec_resumed,
      Runs.exec_append.mpr ⟨c₁, hfirst, Runs.exec_cons.mpr ⟨c₂, hcrash, hsecond⟩⟩⟩⟩
  have hepochs : c₃.fences.map (fun made => (made.1, made.2.coordinatorEpoch)) =
      [(2, ⟨1⟩), (1, ⟨1⟩), (0, ⟨0⟩)] := by decide +kernel
  have hfresh := h _ _ (by decide) hrun
  obtain ⟨⟨i, f⟩, rest, hfences, hf, hrest⟩ := List.map_eq_cons_iff.mp hepochs
  obtain ⟨⟨j, g⟩, _, rfl, hg, -⟩ := List.map_eq_cons_iff.mp hrest
  have hne : i ≠ j := by
    have hi : i = 2 := (Prod.mk.inj hf).1
    have hj : j = 1 := (Prod.mk.inj hg).1
    omega
  have hsame := hfresh.distinct i f j g (by simp [hfences]) (by simp [hfences]) hne
  exact hsame ((Prod.mk.inj hf).2.trans (Prod.mk.inj hg).2.symm)

end ContentionGovernor
