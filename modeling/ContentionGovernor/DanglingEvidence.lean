import ContentionGovernor.DurableLimits

/-!
# The evidence that `authorize` dereferences

The evaluation skips listed evidence that is missing, and `authorize` then reads the first
record of the list without looking whether it is there.  The loader checks no reference
from one map to another.
-/

namespace ContentionGovernor

/-- Whenever a candidate is picked for a conflict, its evidence list is not empty and the
first record is present. -/
def AuthorizeSafe (s : GovernorState) : Prop :=
  ∀ id c p, s.engine.conflicts.find id = some c → pickCandidate (evaluate id s) = some p →
    ∃ eid e, c.evidenceIds.head? = some eid ∧ s.engine.evidence.find eid = some e

/-- The first record that a conflict lists is present. -/
def FrontsPresent (s : GovernorState) : Prop :=
  ∀ cid eid, FrontOf s cid eid → ∃ e, s.engine.evidence.find eid = some e

theorem frontsPresent_iff {s : GovernorState} : FrontsPresent s ↔
    ∀ entry ∈ s.engine.conflicts.entries, ∀ eid ∈ entry.2.evidenceIds.head?,
      (s.engine.evidence.find eid).isSome := by
  constructor
  · intro h entry hentry eid heid
    obtain ⟨e, he⟩ := h entry.1 eid ⟨entry.2, OrderedMap.mem_entries.mp hentry, heid⟩
    rw [he]
    rfl
  · rintro h cid eid ⟨c, hc, heid⟩
    exact Option.isSome_iff_exists.mp (h (cid, c) (OrderedMap.mem_entries.mpr hc) eid heid)

/-- What is loaded lists present evidence first. -/
def LoadsFronts (s : GovernorState) (op : Op) : Prop :=
  op.isLoad → ∀ s', step s op = some s' → FrontsPresent s'

/-- A picked candidate rests on listed evidence, so only a missing first record can fault. -/
theorem authorizeSafe_of_present {s : GovernorState} (hs : FrontsPresent s) :
    AuthorizeSafe s := by
  intro id c p hc hp
  obtain ⟨c', primary, d, hdecided, -⟩ := pickCandidate_some hp
  have hsame := hdecided.conflict
  rw [hc, Option.some.injEq] at hsame
  subst hsame
  obtain ⟨eid, hlisted, -⟩ := mem_currentEvidence (List.mem_of_head? hdecided.evidence)
  cases hids : c.evidenceIds with
  | nil =>
    rw [hids] at hlisted
    cases hlisted
  | cons front rest =>
    obtain ⟨e, he⟩ := hs id front ⟨c, hc, by rw [hids]; rfl⟩
    exact ⟨front, e, rfl, he⟩

theorem frontGeneration_ok {s : EngineState} {c : ContentionConflict}
    {eid : InterferenceEvidenceId} {e : InterferenceEvidence}
    (hhead : c.evidenceIds.head? = some eid) (he : s.evidence.find eid = some e) :
    frontGeneration s c = .ok e.generation := by
  obtain ⟨rest, hids⟩ := List.head?_eq_some_iff.mp hhead
  unfold frontGeneration
  rw [hids]
  dsimp only
  rw [he]

/-- Where it is safe, `authorize` always returns. -/
theorem AuthorizeSafe.returns {s : GovernorState} (hs : AuthorizeSafe s) (id : ConflictId)
    (cls : InterventionClass) (now : TimeMs) : ∃ r, authorize id cls now s = .ok r := by
  have hchecks : ∃ o, authorizeChecks s id cls now = .ok o := by
    cases hp : pickCandidate (evaluate id s) with
    | none => exact ⟨none, checks_of_no_candidate hp⟩
    | some p =>
      obtain ⟨c, _, _, hdecided, -⟩ := pickCandidate_some hp
      obtain ⟨eid, e, hhead, he⟩ := hs id c p hdecided.conflict hp
      have hp' : pickCandidate (evaluateConflict s.engine id s.engine.authority) = some p := hp
      unfold authorizeChecks
      dsimp only
      rw [hdecided.conflict]
      dsimp only
      rw [hp']
      dsimp only
      rw [frontGeneration_ok hhead he, ok_bind]
      split_ifs <;> exact ⟨_, rfl⟩
  obtain ⟨o, ho⟩ := hchecks
  rw [authorize, ho, ok_bind]
  cases o <;> exact ⟨_, rfl⟩

/-! ## Runs -/

/-- Evidence is never removed, and what becomes first on a list is stored with it. -/
theorem step_frontsPresent {s s' : GovernorState} {op : Op} (hs : FrontsPresent s)
    (hop : LoadsFronts s op) (h : step s op = some s') : FrontsPresent s' := by
  by_cases hload : op.isLoad
  · exact hop hload s' h
  rintro cid eid ⟨c', hc', hhead⟩
  rcases step_stores h hload with ⟨-, hkeeps⟩ | ⟨e, -, hevidence, hjoins⟩
  · obtain ⟨c, hc, hsame⟩ := hkeeps.conflicts.exists_left hc'
    obtain ⟨e, he⟩ := hs cid eid ⟨c, hc, by rw [← hsame.evidenceIds, hhead]⟩
    exact ⟨op.review e, by rw [hkeeps.evidence, he]; rfl⟩
  · have hstored : ∃ x, s'.engine.evidence.find e.id = some x :=
      ⟨e, by rw [hevidence, OrderedMap.find_insert_self]⟩
    have hold : ∀ c, s.engine.conflicts.find cid = some c → c.evidenceIds.head? = some eid →
        ∃ x, s'.engine.evidence.find eid = some x := by
      intro c hc hfirst
      by_cases hid : eid = e.id
      · exact hid ▸ hstored
      · obtain ⟨x, hx⟩ := hs cid eid ⟨c, hc, hfirst⟩
        exact ⟨x, by rw [hevidence, OrderedMap.find_insert_of_ne _ hid, hx]⟩
    rcases hjoins.find_cases hc' with hc | ⟨c, hlocated, -, -, hids⟩ | ⟨-, -, -, -, hids⟩
    · exact hold c' hc hhead
    · rw [hids, List.head?_append] at hhead
      -- An empty list gets the stored record first; any other keeps its first one.
      cases hfirst : c.evidenceIds.head? with
      | none =>
        rw [hfirst] at hhead
        exact Option.some.inj hhead ▸ hstored
      | some front =>
        rw [hfirst] at hhead
        exact hold c (locateConflict_find hlocated) (hfirst.trans hhead)
    · rw [hids] at hhead
      exact Option.some.inj hhead ▸ hstored

/-- From a loaded snapshot whose conflicts list present evidence first, and through loads of
such snapshots, `authorize` stays safe. -/
theorem authorize_safe {data : List UInt8} {dest s₀ s : GovernorState} {ops : List Op}
    (_hload : loadFromBytes data dest = .ok (.good, s₀)) (hs₀ : FrontsPresent s₀)
    (hops : Runs.Guarded step LoadsFronts s₀ ops) (hrun : Runs.exec step s₀ ops = some s) :
    AuthorizeSafe s ∧ ∀ id cls now, ∃ r, authorize id cls now s = .ok r := by
  have hstep : ∀ s op s', FrontsPresent s → LoadsFronts s op → step s op = some s' →
      FrontsPresent s' := fun _ _ _ => step_frontsPresent
  have hsafe := authorizeSafe_of_present (Runs.invariant_of_guarded hstep hops hrun hs₀)
  exact ⟨hsafe, hsafe.returns⟩

/-- The slowdown is observed again, the snapshot of `lostThrottle` loaded once more and a
throttle authorized. -/
def reloadAndThrottle : List Op :=
  [.ingestEvidence slowdown, .load persisted true (some (saveToBytes (reached lostThrottle))),
    .authorize ⟨1⟩ .throttle 100000]

theorem authorize_safe_reloaded : ∃ s, Runs.exec step (reached lostThrottle) reloadAndThrottle =
    some s ∧ AuthorizeSafe s ∧ ∀ id cls now, ∃ r, authorize id cls now s = .ok r := by
  have hloadable : Loadable (reached lostThrottle) := by decide +kernel
  have hsize : (saveToBytes (reached lostThrottle)).length ≤ 2 ^ 31 := by decide +kernel
  have hfronts : FrontsPresent (reached lostThrottle) := by
    rw [frontsPresent_iff]
    decide +kernel
  have hload : ∀ s, step s (.load persisted true (some (saveToBytes (reached lostThrottle)))) =
      some (reached lostThrottle) := fun s => step_load_saved rfl (by decide) hloadable hsize
  have hgrant : (step (reached lostThrottle) (.authorize ⟨1⟩ .throttle 100000)).isSome := by
    decide +kernel
  obtain ⟨s, hs⟩ := Option.isSome_iff_exists.mp hgrant
  have hrun : Runs.exec step (reached lostThrottle) reloadAndThrottle = some s :=
    Runs.exec_cons.mpr ⟨_, rfl, Runs.exec_cons.mpr ⟨_, hload _, Runs.exec_cons.mpr ⟨_, hs, rfl⟩⟩⟩
  have hops : Runs.Guarded step LoadsFronts (reached lostThrottle) reloadAndThrottle := by
    refine ⟨nofun, fun u _ => ⟨fun _ t ht => ?_, fun t _ => ⟨nofun, fun _ _ => trivial⟩⟩⟩
    obtain rfl := Option.some.inj ((hload u).symm.trans ht)
    exact hfronts
  exact ⟨s, hrun,
    authorize_safe (loadFromBytes_saveToBytes hloadable {}) hfronts hops hrun⟩

/-- A conflict that lists evidence 7, which is missing, before evidence 1. -/
def danglingFront : GovernorState where
  engine :=
    { conflicts := OrderedMap.empty.insert ⟨1⟩
        { newConflict {} { slowdown.derived with id := ⟨1⟩ } with evidenceIds := [⟨7⟩, ⟨1⟩] }
      evidence := OrderedMap.empty.insert ⟨1⟩ { slowdown.derived with id := ⟨1⟩ }
      authority :=
        { workloadBoots := OrderedMap.empty.insert ⟨2⟩ ⟨1⟩
          workloadGenerations := OrderedMap.empty.insert ⟨2⟩ ⟨1⟩ } }

theorem loadable_danglingFront : Loadable danglingFront := by
  have hempty := loadable_empty.fits
  have hroom : ∀ {K V : Type} [LinearOrder K] (k : K),
      MapRoom (OrderedMap.empty : OrderedMap K V) k := fun _ =>
    .inr (show 0 < kMaxCollectionLen by decide)
  have hstring : StringFits "" := show ("" : ByteString).bytes.length ≤ kMaxStringLen by decide
  have hevidence : EvidenceFits { slowdown.derived with id := ⟨1⟩ } :=
    ⟨⟨by decide, fun _ _ => trivial⟩, by decide, ⟨by decide, fun _ h => absurd h List.not_mem_nil⟩,
      hstring, hstring⟩
  have hconflict := conflictFits_newConflict (s := {}) hevidence
  have hids : ListFits (fun _ => True) ([⟨7⟩, ⟨1⟩] : List InterferenceEvidenceId) :=
    ⟨by decide, fun _ _ => trivial⟩
  refine ⟨⟨hempty.policy, ⟨?_, ?_⟩, ?_, ?_, hempty.interventions, hempty.fairness⟩,
    loadable_empty.valid⟩
  · exact (mapFits_insert hempty.authority.workloadGenerations).mpr ⟨trivial, hroom _⟩
  · exact (mapFits_insert hempty.authority.workloadBoots).mpr ⟨trivial, hroom _⟩
  · exact (mapFits_insert hempty.conflicts).mpr ⟨{ hconflict with evidenceIds := hids }, hroom _⟩
  · exact (mapFits_insert hempty.evidence).mpr ⟨hevidence, hroom _⟩

theorem loaded_snapshot_dangles :
    ¬∀ data dest s₀ ops s, loadFromBytes data dest = .ok (.good, s₀) →
      Runs.exec step s₀ ops = some s → AuthorizeSafe s := by
  intro h
  have hsafe := h _ {} _ [] _ (loadFromBytes_saveToBytes loadable_danglingFront {}) rfl
  have hconflict : (danglingFront.engine.conflicts.find ⟨1⟩).map (·.evidenceIds) =
      some [⟨7⟩, ⟨1⟩] := by decide +kernel
  have hpicked : (pickCandidate (evaluate ⟨1⟩ danglingFront)).isSome := by decide +kernel
  have hmissing : (danglingFront.engine.evidence.find ⟨7⟩).isNone := by decide +kernel
  generalize danglingFront = s at hsafe hconflict hpicked hmissing
  obtain ⟨c, hc, hids⟩ := Option.map_eq_some_iff.mp hconflict
  obtain ⟨p, hp⟩ := Option.isSome_iff_exists.mp hpicked
  obtain ⟨eid, e, hhead, he⟩ := hsafe ⟨1⟩ c p hc hp
  rw [hids] at hhead
  cases hhead
  rw [he] at hmissing
  cases hmissing

end ContentionGovernor
