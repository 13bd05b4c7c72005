import Mathlib.Algebra.GroupWithZero.Nat
import ContentionGovernor.Lib.Runs

/-!
# Simulation, progress and bounded runs

A simulation maps the states of one step function to those of another.  A label is seen as
a label of the other one, or is silent and leaves the image as it is.
-/

namespace Runs

variable {σ τ ℓ κ : Type*}

/-- Every guarded step within the invariant is the step of `spec` that it is seen as, or is
silent. -/
structure Simulates (step : σ → ℓ → Option σ) (spec : τ → κ → Option τ) (image : σ → τ)
    (seen : ℓ → Option κ) (guard : σ → ℓ → Prop) (inv : σ → Prop) : Prop where
  kept : ∀ s l s', inv s → guard s l → step s l = some s' → inv s'
  visible : ∀ s l s' k, inv s → guard s l → step s l = some s' → seen l = some k →
    spec (image s) k = some (image s')
  silent : ∀ s l s', inv s → guard s l → step s l = some s' → seen l = none →
    image s' = image s

variable {step : σ → ℓ → Option σ} {spec : τ → κ → Option τ} {image : σ → τ}
  {seen : ℓ → Option κ} {guard : σ → ℓ → Prop} {inv : σ → Prop} {s t : σ} {ls : List ℓ}

/-- What the guard asks of a label alone holds of every label of a run. -/
theorem forall_of_guarded {p : ℓ → Prop} (hg : Guarded step (fun _ l => p l) s ls)
    (hrun : Runs.exec step s ls = some t) : ∀ l ∈ ls, p l := by
  induction ls generalizing s with
  | nil => simp
  | cons l ls ih =>
    obtain ⟨s', hs', hrun⟩ := exec_cons.mp hrun
    exact List.forall_mem_cons.mpr ⟨hg.1, ih (hg.2 s' hs') hrun⟩

/-- A run is seen as a run. -/
theorem Simulates.exec (h : Simulates step spec image seen guard inv)
    (hg : Guarded step guard s ls) (hs : inv s) (hrun : Runs.exec step s ls = some t) :
    Runs.exec spec (image s) (ls.filterMap seen) = some (image t) := by
  induction ls generalizing s with
  | nil =>
    cases hrun
    rfl
  | cons l ls ih =>
    obtain ⟨s', hs', hrun⟩ := exec_cons.mp hrun
    have hrest := ih (hg.2 s' hs') (h.kept s l s' hs hg.1 hs') hrun
    cases hseen : seen l with
    | none => rw [List.filterMap_cons_none hseen, ← h.silent s l s' hs hg.1 hs' hseen, hrest]
    | some k =>
      rw [List.filterMap_cons_some hseen]
      exact exec_cons.mpr ⟨image s', h.visible s l s' k hs hg.1 hs' hseen, hrest⟩

/-- What the guard asks of the states of a run is asked of their images. -/
theorem Simulates.guarded (h : Simulates step spec image seen guard inv) {guard' : τ → κ → Prop}
    (hguard : ∀ s l k, guard s l → seen l = some k → guard' (image s) k)
    (hg : Guarded step guard s ls) (hs : inv s) (hrun : Runs.exec step s ls = some t) :
    Guarded spec guard' (image s) (ls.filterMap seen) := by
  induction ls generalizing s with
  | nil => trivial
  | cons l ls ih =>
    obtain ⟨s', hs', hrun⟩ := exec_cons.mp hrun
    have hrest := ih (hg.2 s' hs') (h.kept s l s' hs hg.1 hs') hrun
    cases hseen : seen l with
    | none =>
      rw [List.filterMap_cons_none hseen, ← h.silent s l s' hs hg.1 hs' hseen]
      exact hrest
    | some k =>
      rw [List.filterMap_cons_some hseen]
      refine ⟨hguard s l k hg.1 hseen, fun u hu => ?_⟩
      rw [h.visible s l s' k hs hg.1 hs' hseen] at hu
      cases hu
      exact hrest

/-- When each step of `spec` is what some guarded run is seen as, so is each run of it. -/
theorem Simulates.exists_run (h : Simulates step spec image seen guard inv)
    (hstep : ∀ s k u, inv s → spec (image s) k = some u →
      ∃ ls t, Guarded step guard s ls ∧ Runs.exec step s ls = some t ∧
        ls.filterMap seen = [k] ∧ image t = u)
    {ks : List κ} {u : τ} (hs : inv s) (hrun : Runs.exec spec (image s) ks = some u) :
    ∃ ls t, Guarded step guard s ls ∧ Runs.exec step s ls = some t ∧
      ls.filterMap seen = ks ∧ image t = u := by
  induction ks generalizing s with
  | nil =>
    cases hrun
    exact ⟨[], s, trivial, rfl, rfl, rfl⟩
  | cons k ks ih =>
    obtain ⟨v, hv, hrun⟩ := exec_cons.mp hrun
    obtain ⟨pre, s', hpre, hs', hseen, rfl⟩ := hstep s k v hs hv
    have hinv : inv s' := invariant_of_guarded (fun s l s' => h.kept s l s') hpre hs' hs
    obtain ⟨post, t, hpost, ht, hrest, himage⟩ := ih hinv hrun
    refine ⟨pre ++ post, t, guarded_append hpre fun w hw => ?_, ?_, ?_, himage⟩
    · rw [hs'] at hw
      cases hw
      exact hpost
    · exact exec_append.mpr ⟨s', hs', ht⟩
    · rw [List.filterMap_append, hseen, hrest, List.singleton_append]

/-! ## Automata

A view of the state that an automaton follows: what a step emits is a run of the automaton
between the views. -/

/-- What a run emits is a run of the automaton that its steps are followed by. -/
theorem exec_events {ε : Type*} (view : σ → τ) {next : τ → ε → Option τ} {emit : σ → ℓ → List ε}
    (hkept : ∀ s l s', inv s → guard s l → step s l = some s' → inv s')
    (hstep : ∀ s l s', inv s → guard s l → step s l = some s' →
      Runs.exec next (view s) (emit s l) = some (view s'))
    (hg : Guarded step guard s ls) (hs : inv s) (hrun : Runs.exec step s ls = some t) :
    Runs.exec next (view s) (events step emit s ls) = some (view t) := by
  induction ls generalizing s with
  | nil =>
    cases hrun
    rfl
  | cons l ls ih =>
    obtain ⟨s', hs', hrun⟩ := exec_cons.mp hrun
    rw [events, hs', Option.elim_some]
    exact exec_append.mpr ⟨view s', hstep s l s' hs hg.1 hs',
      ih (hg.2 s' hs') (hkept s l s' hs hg.1 hs') hrun⟩

/-! ## Bounded runs -/

/-- A step is paid for by a measure that it lowers, or by what its label adds. -/
theorem length_le_of_measure {μ : σ → ℕ} {gain : ℓ → ℕ}
    (hkept : ∀ s l s', inv s → guard s l → step s l = some s' → inv s')
    (hstep : ∀ s l s', inv s → guard s l → step s l = some s' → μ s' + 1 ≤ μ s + gain l)
    (hg : Guarded step guard s ls) (hs : inv s) (hrun : exec step s ls = some t) :
    ls.length + μ t ≤ μ s + (ls.map gain).sum := by
  induction ls generalizing s with
  | nil =>
    cases hrun
    simp
  | cons l ls ih =>
    obtain ⟨s', hs', hrun⟩ := exec_cons.mp hrun
    have hrest := ih (hg.2 s' hs') (hkept s l s' hs hg.1 hs') hrun
    have hfirst := hstep s l s' hs hg.1 hs'
    rw [List.length_cons, List.map_cons, List.sum_cons]
    omega

/-- Labels of one kind are paid for by a measure, or by labels of another kind. -/
theorem countP_le_of_measure {p q : ℓ → Bool} (μ : σ → ℕ)
    (hstep : ∀ s l s', step s l = some s' →
      μ s' + (if p l then 1 else 0) ≤ μ s + if q l then 1 else 0)
    (hrun : exec step s ls = some t) : ls.countP p + μ t ≤ μ s + ls.countP q := by
  induction ls generalizing s with
  | nil =>
    cases hrun
    simp
  | cons l ls ih =>
    obtain ⟨s', hs', hrun⟩ := exec_cons.mp hrun
    have hrest := ih hrun
    have hfirst := hstep s l s' hs'
    rw [List.countP_cons, List.countP_cons]
    omega

/-- Where a step that lowers a measure can always be taken until the end is reached, some
run reaches the end. -/
theorem exists_run_to {goal : σ → Prop} (μ : σ → ℕ)
    (hstep : ∀ s, inv s → ¬goal s →
      ∃ l s', guard s l ∧ step s l = some s' ∧ inv s' ∧ μ s' < μ s)
    (hs : inv s) : ∃ ls t, Guarded step guard s ls ∧ exec step s ls = some t ∧ goal t := by
  induction hn : μ s using Nat.strongRecOn generalizing s with
  | _ n ih =>
    by_cases hgoal : goal s
    · exact ⟨[], s, trivial, rfl, hgoal⟩
    · obtain ⟨l, s', hl, hs', hinv, hless⟩ := hstep s hs hgoal
      obtain ⟨ls, t, hls, ht, hend⟩ := ih (μ s') (hn ▸ hless) hinv rfl
      refine ⟨l :: ls, t, ⟨hl, fun u hu => ?_⟩, exec_cons.mpr ⟨s', hs', ht⟩, hend⟩
      rw [hs'] at hu
      cases hu
      exact hls

end Runs
