import Mathlib.Data.List.Induction
import Mathlib.Data.Option.Basic

/-!
# Runs of a deterministic step function

`step s l` is the state that label `l` leads to from `s`, or `none` when the
step is undefined there.  A run is a list of labels; a guard restricts the
labels a run may take in each state.
-/

namespace Runs

variable {σ ℓ : Type*} (step : σ → ℓ → Option σ)

def exec : σ → List ℓ → Option σ
  | s, [] => some s
  | s, l :: ls => (step s l).bind fun s' => exec s' ls

/-- Every label of the run meets the guard in the state it is taken in. -/
def Guarded (guard : σ → ℓ → Prop) : σ → List ℓ → Prop
  | _, [] => True
  | s, l :: ls => guard s l ∧ ∀ s', step s l = some s' → Guarded guard s' ls

/-- A guarded run is checked by running it. -/
instance decidableGuarded (guard : σ → ℓ → Prop) [∀ s l, Decidable (guard s l)] :
    ∀ ls s, Decidable (Guarded step guard s ls)
  | [], _ => .isTrue trivial
  | l :: ls, s =>
    match h : step s l with
    | none => decidable_of_iff (guard s l) (by simp [Guarded, h])
    | some s' =>
      have := decidableGuarded guard ls s'
      decidable_of_iff (guard s l ∧ Guarded step guard s' ls) (by simp [Guarded, h])

variable {step} {s t : σ} {l : ℓ} {ls ks : List ℓ}

@[simp] theorem exec_nil : exec step s [] = some s := rfl

/-- A run that is defined ends in the state it computes. -/
theorem exec_getD (d : σ) (h : (exec step s ls).isSome) :
    exec step s ls = some ((exec step s ls).getD d) := by
  obtain ⟨u, hu⟩ := Option.isSome_iff_exists.mp h
  rw [hu, Option.getD_some]

theorem exec_cons : exec step s (l :: ls) = some t ↔
    ∃ s', step s l = some s' ∧ exec step s' ls = some t := Option.bind_eq_some_iff

theorem exec_append : exec step s (ls ++ ks) = some t ↔
    ∃ s', exec step s ls = some s' ∧ exec step s' ks = some t := by
  induction ls generalizing s with
  | nil => simp
  | cons l ls ih =>
    simp only [List.cons_append, exec_cons, ih]
    constructor
    · rintro ⟨u, hu, v, hv, ht⟩
      exact ⟨v, ⟨u, hu, hv⟩, ht⟩
    · rintro ⟨v, ⟨u, hu, hv⟩, ht⟩
      exact ⟨u, hu, v, hv, ht⟩

theorem exec_concat : exec step s (ls ++ [l]) = some t ↔
    ∃ s', exec step s ls = some s' ∧ step s' l = some t := by
  simp [exec_append, exec_cons]

theorem Guarded.append {guard : σ → ℓ → Prop} (h : Guarded step guard s (ls ++ ks)) :
    Guarded step guard s ls ∧ ∀ t, exec step s ls = some t → Guarded step guard t ks := by
  induction ls generalizing s with
  | nil => exact ⟨trivial, fun t ht => by cases ht; exact h⟩
  | cons l ls ih =>
    refine ⟨⟨h.1, fun s' hs' => (ih (h.2 s' hs')).1⟩, ?_⟩
    intro t ht
    obtain ⟨s', hs', ht⟩ := exec_cons.mp ht
    exact (ih (h.2 s' hs')).2 t ht

theorem guarded_append {guard : σ → ℓ → Prop} (h : Guarded step guard s ls)
    (h' : ∀ t, exec step s ls = some t → Guarded step guard t ks) :
    Guarded step guard s (ls ++ ks) := by
  induction ls generalizing s with
  | nil => exact h' s rfl
  | cons l ls ih =>
    refine ⟨h.1, fun s' hs' => ih (h.2 s' hs') fun t ht => ?_⟩
    exact h' t (exec_cons.mpr ⟨s', hs', ht⟩)

/-- The guard holds at a step inside the run. -/
theorem Guarded.at_step {guard : σ → ℓ → Prop} (h : Guarded step guard s (ls ++ l :: ks))
    (ht : exec step s ls = some t) : guard t l := (h.append.2 t ht).1

theorem Guarded.mono {guard guard' : σ → ℓ → Prop} (hg : ∀ s l, guard s l → guard' s l)
    (h : Guarded step guard s ls) : Guarded step guard' s ls := by
  induction ls generalizing s with
  | nil => trivial
  | cons l ls ih => exact ⟨hg _ _ h.1, fun s' hs' => ih (h.2 s' hs')⟩

theorem Guarded.and {guard guard' : σ → ℓ → Prop} (h : Guarded step guard s ls)
    (h' : Guarded step guard' s ls) : Guarded step (fun s l => guard s l ∧ guard' s l) s ls := by
  induction ls generalizing s with
  | nil => trivial
  | cons l ls ih => exact ⟨⟨h.1, h'.1⟩, fun s' hs' => ih (h.2 s' hs') (h'.2 s' hs')⟩

/-- Two guards that agree wherever an invariant holds guard the same runs. -/
theorem guarded_congr {guard guard' base : σ → ℓ → Prop} {inv : σ → Prop}
    (hinv : ∀ s l s', inv s → base s l → step s l = some s' → inv s')
    (hiff : ∀ s l, inv s → base s l → (guard s l ↔ guard' s l)) (hs : inv s)
    (hbase : Guarded step base s ls) : Guarded step guard s ls ↔ Guarded step guard' s ls := by
  induction ls generalizing s with
  | nil => rfl
  | cons l ls ih =>
    refine and_congr (hiff s l hs hbase.1) (forall₂_congr fun s' hs' => ?_)
    exact ih (hinv s l s' hs hbase.1 hs') (hbase.2 s' hs')

theorem guarded_of_forall {p : ℓ → Prop} (h : ∀ l ∈ ls, p l) :
    Guarded step (fun _ l => p l) s ls := by
  induction ls generalizing s with
  | nil => trivial
  | cons l ls ih =>
    exact ⟨h l List.mem_cons_self, fun _ _ => ih fun k hk => h k (List.mem_cons_of_mem _ hk)⟩

/-- What every guarded step preserves holds after every guarded run. -/
theorem invariant_of_guarded {guard : σ → ℓ → Prop} {inv : σ → Prop}
    (hstep : ∀ s l s', inv s → guard s l → step s l = some s' → inv s')
    (hg : Guarded step guard s ls) (hrun : exec step s ls = some t) (hs : inv s) : inv t := by
  induction ls generalizing s with
  | nil => cases hrun; exact hs
  | cons l ls ih =>
    obtain ⟨s', hs', hrun⟩ := exec_cons.mp hrun
    exact ih (hg.2 s' hs') hrun (hstep s l s' hs hg.1 hs')

/-- What every step preserves holds after every run. -/
theorem invariant {inv : σ → Prop} (hstep : ∀ s l s', inv s → step s l = some s' → inv s')
    (hrun : exec step s ls = some t) (hs : inv s) : inv t :=
  invariant_of_guarded (fun s l s' h _ => hstep s l s' h)
    (guarded_of_forall fun _ _ => trivial) hrun hs

/-- What every guarded step preserves holds after every part of a guarded run. -/
theorem throughout_of_guarded {guard : σ → ℓ → Prop} {inv : σ → Prop}
    (hstep : ∀ s l s', inv s → guard s l → step s l = some s' → inv s')
    (hg : Guarded step guard s ls) (hs : inv s) :
    ∀ pre t, pre <+: ls → exec step s pre = some t → inv t := by
  rintro pre t ⟨post, rfl⟩ hrun
  exact invariant_of_guarded hstep hg.append.1 hrun hs

/-- What holds after every part of a run can be used at each of its steps. -/
theorem guarded_of_throughout {guard guard' : σ → ℓ → Prop} {inv : σ → Prop}
    (hinv : ∀ pre t, pre <+: ls → exec step s pre = some t → inv t)
    (himp : ∀ s l, inv s → guard s l → guard' s l) (hg : Guarded step guard s ls) :
    Guarded step guard' s ls := by
  induction ls generalizing s with
  | nil => trivial
  | cons l ls ih =>
    refine ⟨himp s l (hinv [] s List.nil_prefix rfl) hg.1, fun s' hs' => ?_⟩
    refine ih (fun pre t hpre hrun => ?_) (hg.2 s' hs')
    exact hinv (l :: pre) t (List.cons_prefix_cons.mpr ⟨rfl, hpre⟩)
      (exec_cons.mpr ⟨s', hs', hrun⟩)

/-- A guard that says exactly which steps keep an invariant holds along a run exactly when
the invariant holds after every part of it. -/
theorem invariant_throughout_iff {guard : σ → ℓ → Prop} {inv : σ → Prop}
    (hexact : ∀ s, inv s → ∀ l ∈ ls, guard s l ↔ ∀ s', step s l = some s' → inv s')
    (hs : inv s) :
    (∀ pre t, pre <+: ls → exec step s pre = some t → inv t) ↔ Guarded step guard s ls := by
  induction ls generalizing s with
  | nil =>
    refine ⟨fun _ => trivial, fun _ pre t hpre hrun => ?_⟩
    rw [List.prefix_nil.mp hpre] at hrun
    cases hrun
    exact hs
  | cons l ls ih =>
    have hhead := hexact s hs l List.mem_cons_self
    have htail : ∀ u, inv u → ∀ k ∈ ls, guard u k ↔ ∀ u', step u k = some u' → inv u' :=
      fun u hu k hk => hexact u hu k (List.mem_cons_of_mem l hk)
    constructor
    · intro h
      have hafter : ∀ s', step s l = some s' → inv s' := fun s' hs' =>
        h [l] s' (by simp) (exec_cons.mpr ⟨s', hs', rfl⟩)
      refine ⟨hhead.mpr hafter, fun s' hs' => (ih htail (hafter s' hs')).mp ?_⟩
      intro pre t hpre hrun
      exact h (l :: pre) t (List.cons_prefix_cons.mpr ⟨rfl, hpre⟩)
        (exec_cons.mpr ⟨s', hs', hrun⟩)
    · rintro ⟨hguard, hrest⟩ pre t hpre hrun
      cases pre with
      | nil => cases hrun; exact hs
      | cons k pre =>
        obtain ⟨rfl, htailpre⟩ := List.cons_prefix_cons.mp hpre
        obtain ⟨s', hs', hrun⟩ := exec_cons.mp hrun
        exact (ih htail (hhead.mp hguard s' hs')).mpr (hrest s' hs') pre t htailpre hrun

/-- Provenance.  When a fact about a key enters the state only through a step
that makes it, every fact of a reached state was made by a step of the run. -/
theorem exists_origin {κ β : Type*} {fact : σ → κ → β → Prop} {guard : σ → ℓ → Prop}
    {inv : σ → Prop} {made : σ → ℓ → σ → κ → β → Prop}
    (hinv : ∀ s l s', inv s → guard s l → step s l = some s' → inv s')
    (hmade : ∀ s l s' k b, inv s → guard s l → step s l = some s' → fact s' k b →
      fact s k b ∨ made s l s' k b)
    (hs : inv s) (hnone : ∀ k b, ¬fact s k b) (hg : Guarded step guard s ls)
    (hrun : exec step s ls = some t) {k : κ} {b : β} (hfact : fact t k b) :
    ∃ pre l post u u', ls = pre ++ l :: post ∧ exec step s pre = some u ∧
      step u l = some u' ∧ made u l u' k b := by
  induction ls using List.reverseRecOn generalizing t with
  | nil =>
    cases hrun
    exact absurd hfact (hnone k b)
  | append_singleton ls l ih =>
    obtain ⟨u, hu, hl⟩ := exec_concat.mp hrun
    have hinvu := invariant_of_guarded hinv hg.append.1 hu hs
    rcases hmade u l t k b hinvu (hg.at_step hu) hl hfact with h | h
    · obtain ⟨pre, l', post, v, v', rfl, hv, hv', hm⟩ := ih hg.append.1 hu h
      exact ⟨pre, l', post ++ [l], v, v', by simp, hv, hv', hm⟩
    · exact ⟨ls, l, [], u, t, by simp, hu, hl, h⟩

/-! ## Instrumented runs -/

/-- A step that carries more state along runs as the step it extends. -/
theorem exec_map {τ : Type*} {step' : τ → ℓ → Option τ} {f : τ → σ}
    (hstep : ∀ x l, (step' x l).map f = step (f x) l) (x : τ) :
    (exec step' x ls).map f = exec step (f x) ls := by
  induction ls generalizing x with
  | nil => rfl
  | cons l ls ih =>
    rw [exec, exec, ← hstep, Option.map_bind, Option.bind_map]
    exact congrArg _ (funext ih)

/-! ## Counting since a reset -/

variable (step) in
/-- The labels counted along a run since the last reset, on top of a first count.  A label
that does both is counted after its reset. -/
def countSince (reset count : σ → ℓ → Bool) : σ → List ℓ → ℕ → ℕ
  | _, [], n => n
  | s, l :: ls, n =>
    (step s l).elim n fun s' =>
      countSince reset count s' ls ((if reset s l then 0 else n) + if count s l then 1 else 0)

/-- A relation between state and count that each guarded step carries along holds between
the last state of a run and the count over it. -/
theorem countSince_of_guarded {guard : σ → ℓ → Prop} {reset count : σ → ℓ → Bool}
    {rel : σ → ℕ → Prop}
    (hstep : ∀ s l s' n, rel s n → guard s l → step s l = some s' →
      rel s' ((if reset s l then 0 else n) + if count s l then 1 else 0))
    (hg : Guarded step guard s ls) (hrun : exec step s ls = some t) {n : ℕ} (hs : rel s n) :
    rel t (countSince step reset count s ls n) := by
  induction ls generalizing s n with
  | nil =>
    cases hrun
    exact hs
  | cons l ls ih =>
    obtain ⟨s', hs', hrun⟩ := exec_cons.mp hrun
    rw [countSince, hs', Option.elim_some]
    exact ih (hg.2 s' hs') hrun (hstep s l s' n hs hg.1 hs')

/-! ## Events -/

variable (step) in
/-- What the labels of a run emit in the states they are taken in, in order. -/
def events {ε : Type*} (emit : σ → ℓ → List ε) : σ → List ℓ → List ε
  | _, [] => []
  | s, l :: ls => (step s l).elim [] fun s' => emit s l ++ events emit s' ls

/-- A relation between state and history that each guarded step carries along holds between
the last state of a run and the events of it. -/
theorem events_of_guarded {ε : Type*} {guard : σ → ℓ → Prop} {emit : σ → ℓ → List ε}
    {rel : σ → List ε → Prop}
    (hstep : ∀ s l s' es, rel s es → guard s l → step s l = some s' → rel s' (es ++ emit s l))
    (hg : Guarded step guard s ls) (hrun : exec step s ls = some t) {es : List ε} (hs : rel s es) :
    rel t (es ++ events step emit s ls) := by
  induction ls generalizing s es with
  | nil =>
    cases hrun
    rwa [events, List.append_nil]
  | cons l ls ih =>
    obtain ⟨s', hs', hrun⟩ := exec_cons.mp hrun
    rw [events, hs', Option.elim_some, ← List.append_assoc]
    exact ih (hg.2 s' hs') hrun (hstep s l s' es hs hg.1 hs')

end Runs
