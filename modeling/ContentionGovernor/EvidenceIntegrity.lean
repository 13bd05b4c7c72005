import ContentionGovernor.EvidenceStore

/-!
# Conflicts and the evidence they list

A record is stored under the id its caller has given it, or the next of the allocator,
whether or not the id is in use.
-/

namespace ContentionGovernor

/-- The record is under its own id, and about the domain and one victim of the conflict. -/
structure Belongs (e : InterferenceEvidence) (eid : InterferenceEvidenceId)
    (c : ContentionConflict) : Prop where
  id : e.id = eid
  domain : e.domain = c.domain
  victim : e.victim ∈ c.affected

def Integrity (s : GovernorState) : Prop :=
  ∀ cid c, s.engine.conflicts.find cid = some c → ∀ eid ∈ c.evidenceIds,
    ∃ e, s.engine.evidence.find eid = some e ∧ Belongs e eid c

/-- The evidence of every conflict that a stored record is not for stays what it was. -/
def SparesOthers (s : GovernorState) (op : Op) : Prop :=
  ∀ s' e, step s op = some s' → op.stored s = some e → ∀ cid c,
    s.engine.conflicts.find cid = some c →
    (∀ c₀, locateConflict s.engine.conflicts e ≠ some (cid, c₀)) → ∀ eid ∈ c.evidenceIds,
      s'.engine.evidence.find eid = s.engine.evidence.find eid

/-- Integrity holds throughout the run, and no step replaces the evidence of another
conflict. -/
structure KeepsIntegrity (ops : List Op) : Prop where
  integrity : ∀ pre t, pre <+: ops → Runs.exec step {} pre = some t → Integrity t
  spares : Runs.Guarded step SparesOthers {} ops

/-- A record is stored under an id that only conflicts of its domain and victim list. -/
def StoresOwn (s : GovernorState) (op : Op) : Prop :=
  ∀ e, op.stored s = some e → ∀ cid c, s.engine.conflicts.find cid = some c →
    e.id ∈ c.evidenceIds → e.domain = c.domain ∧ e.victim ∈ c.affected

/-! ## Steps -/

theorem Belongs.review {e : InterferenceEvidence} {eid : InterferenceEvidenceId}
    {c : ContentionConflict} (h : Belongs e eid c) (op : Op) : Belongs (op.review e) eid c := by
  cases op with
  | advanceEpoch =>
    unfold Op.review requireRevalidation
    dsimp only
    split_ifs
    · exact ⟨h.id, h.domain, h.victim⟩
    · exact h
  | _ => exact h

theorem Belongs.congr {e : InterferenceEvidence} {eid : InterferenceEvidenceId}
    {c c' : ContentionConflict} (h : Belongs e eid c) (hdomain : c'.domain = c.domain)
    (haffected : c'.affected = c.affected) : Belongs e eid c' :=
  ⟨h.id, h.domain.trans hdomain.symm, haffected ▸ h.victim⟩

theorem locateConflict_matches {conflicts : OrderedMap ConflictId ContentionConflict}
    {e : InterferenceEvidence} {cid : ConflictId} {c : ContentionConflict}
    (h : locateConflict conflicts e = some (cid, c)) :
    e.domain = c.domain ∧ e.victim ∈ c.affected := by
  have hmatch := List.find?_some h
  simp only [decide_eq_true_eq] at hmatch
  exact ⟨hmatch.1.symm, hmatch.2⟩

theorem step_integrity {s s' : GovernorState} {op : Op} (hs : Integrity s)
    (hop : StoresOwn s op) (hload : ¬op.isLoad) (h : step s op = some s') : Integrity s' := by
  intro cid c' hc' eid heid
  rcases step_stores h hload with ⟨-, hkeeps⟩ | ⟨e, hstored, hevidence, hjoins⟩
  · obtain ⟨c, hc, hsame⟩ := hkeeps.conflicts.exists_left hc'
    rw [hsame.evidenceIds] at heid
    obtain ⟨e, he, hbelongs⟩ := hs cid c hc eid heid
    refine ⟨op.review e, by rw [hkeeps.evidence, he]; rfl, ?_⟩
    exact (hbelongs.review op).congr hsame.domain hsame.affected
  · have hold : ∀ c, s.engine.conflicts.find cid = some c → eid ∈ c.evidenceIds →
        ∃ e, s'.engine.evidence.find eid = some e ∧ Belongs e eid c := by
      intro c hc hlisted
      rw [hevidence, OrderedMap.find_insert]
      split_ifs with hid
      · -- The record takes the id over from evidence of the same domain and victim.
        subst hid
        obtain ⟨hdomain, hvictim⟩ := hop e hstored cid c hc hlisted
        exact ⟨e, rfl, rfl, hdomain, hvictim⟩
      · exact hs cid c hc eid hlisted
    have hself : s'.engine.evidence.find e.id = some e := by
      rw [hevidence, OrderedMap.find_insert_self]
    rcases hjoins.find_cases hc' with hc | ⟨c, hlocated, hdomain, haffected, hids⟩ |
      ⟨-, -, hdomain, haffected, hids⟩
    · exact hold c' hc heid
    · rw [hids] at heid
      rcases List.mem_append.mp heid with hlisted | hnew
      · obtain ⟨e₀, he₀, hbelongs⟩ := hold c (locateConflict_find hlocated) hlisted
        exact ⟨e₀, he₀, hbelongs.congr hdomain haffected⟩
      · obtain ⟨hmatch, hvictim⟩ := locateConflict_matches hlocated
        rw [List.mem_singleton.mp hnew]
        exact ⟨e, hself, rfl, hmatch.trans hdomain.symm, haffected ▸ hvictim⟩
    · rw [hids, List.mem_singleton] at heid
      rw [heid]
      exact ⟨e, hself, rfl, hdomain.symm, by rw [haffected]; exact List.mem_singleton_self _⟩

/-! ## One conflict for each domain and victim -/

def OneConflict (s : GovernorState) : Prop :=
  ∀ cid c cid' c' w, s.engine.conflicts.find cid = some c →
    s.engine.conflicts.find cid' = some c' → c.domain = c'.domain → w ∈ c.affected →
    w ∈ c'.affected → cid = cid'

theorem not_matches_of_locate_none {conflicts : OrderedMap ConflictId ContentionConflict}
    {e : InterferenceEvidence} (h : locateConflict conflicts e = none) {cid : ConflictId}
    {c : ContentionConflict} (hc : conflicts.find cid = some c) (hdomain : e.domain = c.domain) :
    e.victim ∉ c.affected := by
  intro hvictim
  have hnot := List.find?_eq_none.mp h (cid, c) (OrderedMap.mem_entries.mpr hc)
  simp only [decide_eq_true_eq, not_and] at hnot
  exact hnot hdomain.symm hvictim

/-- Conflicts that step to others of the same domain and victims stay one for each. -/
theorem OneConflict.of_source {s s' : GovernorState} (hs : OneConflict s)
    (hsource : ∀ cid c', s'.engine.conflicts.find cid = some c' →
      ∃ c, s.engine.conflicts.find cid = some c ∧ c'.domain = c.domain ∧
        c'.affected = c.affected) : OneConflict s' := by
  intro cid c cid' c' w hc hc' hdomain hw hw'
  obtain ⟨d, hd, hd₁, hd₂⟩ := hsource cid c hc
  obtain ⟨d', hd', hd₁', hd₂'⟩ := hsource cid' c' hc'
  exact hs cid d cid' d' w hd hd' (by rw [← hd₁, hdomain, hd₁']) (hd₂ ▸ hw) (hd₂' ▸ hw')

theorem step_oneConflict {s s' : GovernorState} {op : Op} (hs : OneConflict s)
    (hload : ¬op.isLoad) (h : step s op = some s') : OneConflict s' := by
  rcases step_stores h hload with ⟨-, hkeeps⟩ | ⟨e, -, -, hjoins⟩
  · refine hs.of_source fun cid c' hc' => ?_
    obtain ⟨c, hc, hsame⟩ := hkeeps.conflicts.exists_left hc'
    exact ⟨c, hc, hsame.domain, hsame.affected⟩
  · have hsource : ∀ {cid c'}, s'.engine.conflicts.find cid = some c' →
        (∃ c, s.engine.conflicts.find cid = some c ∧ c'.domain = c.domain ∧
          c'.affected = c.affected) ∨
        (cid = ⟨s.nextConflictId⟩ ∧ ∀ cid₀ c₀ w, s.engine.conflicts.find cid₀ = some c₀ →
          c'.domain = c₀.domain → w ∈ c'.affected → w ∉ c₀.affected) := by
      intro cid c' hc'
      rcases hjoins.find_cases hc' with hc | ⟨c, hlocated, hdomain, haffected, -⟩ |
        ⟨hlocated, hcid, hdomain, haffected, -⟩
      · exact .inl ⟨c', hc, rfl, rfl⟩
      · exact .inl ⟨c, locateConflict_find hlocated, hdomain, haffected⟩
      · -- A conflict is opened only where no other is about the domain and the victim.
        refine .inr ⟨hcid, fun cid₀ c₀ w hc₀ heq hw => ?_⟩
        rw [haffected, List.mem_singleton] at hw
        rw [hw]
        exact not_matches_of_locate_none hlocated hc₀ (hdomain ▸ heq)
    intro cid c cid' c' w hc hc' heq hw hw'
    rcases hsource hc with ⟨c₀, hc₀, hdomain, haffected⟩ | ⟨hcid, hfresh⟩ <;>
      rcases hsource hc' with ⟨c₀', hc₀', hdomain', haffected'⟩ | ⟨hcid', hfresh'⟩
    · exact hs cid c₀ cid' c₀' w hc₀ hc₀' (by rw [← hdomain, heq, hdomain']) (haffected ▸ hw)
        (haffected' ▸ hw')
    · exact absurd (haffected ▸ hw) (hfresh' cid c₀ w hc₀ (by rw [← heq, hdomain]) hw')
    · exact absurd (haffected' ▸ hw') (hfresh cid' c₀' w hc₀' (by rw [heq, hdomain']) hw)
    · rw [hcid, hcid']

/-! ## Foreign evidence -/

/-- A record under an id of its own conflict only leaves the others' evidence alone. -/
theorem sparesOthers_of_own {s : GovernorState} {op : Op} (hs : OneConflict s)
    (hload : ¬op.isLoad) (hop : StoresOwn s op) : SparesOthers s op := by
  intro s' e h hstored cid c hc hother eid hlisted
  rcases step_stores h hload with ⟨hnone, -⟩ | ⟨e', hstored', hevidence, -⟩
  · rw [hnone] at hstored
    cases hstored
  · rw [hstored, Option.some.injEq] at hstored'
    subst hstored'
    rw [hevidence]
    refine OrderedMap.find_insert_of_ne _ (fun hid => ?_) e
    subst hid
    obtain ⟨hdomain, hvictim⟩ := hop e hstored cid c hc hlisted
    cases hlocated : locateConflict s.engine.conflicts e with
    | none => exact not_matches_of_locate_none hlocated hc hdomain hvictim
    | some entry =>
      obtain ⟨cid₀, c₀⟩ := entry
      obtain ⟨hdomain₀, hvictim₀⟩ := locateConflict_matches hlocated
      have hcid : cid = cid₀ := hs cid c cid₀ c₀ e.victim hc (locateConflict_find hlocated)
        (hdomain.symm.trans hdomain₀) hvictim hvictim₀
      exact hother c₀ (by rw [hcid]; exact hlocated)

/-- Where integrity holds, a record that takes over the evidence of a conflict without
replacing it is about this conflict. -/
theorem own_of_sparesOthers {s : GovernorState} {op : Op} (hs : Integrity s)
    (hload : ¬op.isLoad) (hop : SparesOthers s op) : StoresOwn s op := by
  intro e hstored cid c hc hlisted
  by_cases hother : ∃ c₀, locateConflict s.engine.conflicts e = some (cid, c₀)
  · obtain ⟨c₀, hlocated⟩ := hother
    have hfind : s.engine.conflicts.find cid = some c₀ := locateConflict_find hlocated
    rw [hc, Option.some.injEq] at hfind
    rw [hfind]
    exact locateConflict_matches hlocated
  · have hdefined : ∃ s', step s op = some s' := by
      cases op with
      | ingestEvidence | submitPostActionEvidence => exact ⟨_, rfl⟩
      | _ => cases hstored
    obtain ⟨s', h⟩ := hdefined
    have hsame := hop s' e h hstored cid c hc (not_exists.mp hother) e.id hlisted
    rcases step_stores h hload with ⟨hnone, -⟩ | ⟨e', hstored', hevidence, -⟩
    · rw [hnone] at hstored
      cases hstored
    · rw [hstored, Option.some.injEq] at hstored'
      subst hstored'
      rw [hevidence, OrderedMap.find_insert_self] at hsame
      obtain ⟨e₀, he₀, hbelongs⟩ := hs cid c hc e.id hlisted
      rw [he₀, Option.some.injEq] at hsame
      rw [hsame]
      exact ⟨hbelongs.domain, hbelongs.victim⟩

/-- In a run from the empty governor without a load, every conflict keeps the evidence it
lists exactly when each record is stored under an id that no conflict of another domain or
victim lists. -/
theorem keepsIntegrity_iff {ops : List Op} (hops : ∀ op ∈ ops, ¬op.isLoad) :
    KeepsIntegrity ops ↔ Runs.Guarded step StoresOwn {} ops := by
  have hloads : Runs.Guarded step (fun _ op => ¬op.isLoad) {} ops := Runs.guarded_of_forall hops
  constructor
  · intro h
    refine Runs.guarded_of_throughout h.integrity (fun s op hs hop => ?_) (h.spares.and hloads)
    exact own_of_sparesOthers hs hop.2 hop.1
  · intro h
    have hempty : ∀ cid c, ({} : GovernorState).engine.conflicts.find cid ≠ some c := by
      intro cid c hc
      cases hc
    have hintegrity : ∀ s op s', Integrity s → StoresOwn s op ∧ ¬op.isLoad →
        step s op = some s' → Integrity s' :=
      fun s op s' hs hop hstep => step_integrity hs hop.1 hop.2 hstep
    have hone : ∀ s op s', OneConflict s → ¬op.isLoad → step s op = some s' → OneConflict s' :=
      fun s op s' hs hop hstep => step_oneConflict hs hop hstep
    constructor
    · exact Runs.throughout_of_guarded hintegrity (h.and hloads)
        fun cid c hc => absurd hc (hempty cid c)
    · have hthroughout := Runs.throughout_of_guarded hone hloads
        fun cid c _ _ _ hc => absurd hc (hempty cid c)
      refine Runs.guarded_of_throughout hthroughout (fun s op hs hop => ?_) (h.and hloads)
      exact sparesOthers_of_own hs hop.2 hop.1

theorem keepsIntegrity_iff_throttle :
    KeepsIntegrity throttleNeighbor ↔ Runs.Guarded step StoresOwn {} throttleNeighbor :=
  keepsIntegrity_iff (by decide)

/-- A caller takes id 1 for evidence on workload 1, and the allocator gives it to evidence
on workload 3. -/
def allocatedTwice : List Op :=
  [.ingestEvidence { slowdown with id := ⟨1⟩ },
    .ingestEvidence { slowdown with victim := ⟨3⟩, domain := .cache }]

theorem allocated_id_replaces_evidence :
    ¬∀ ops, (∀ op ∈ ops, ¬op.isLoad) → KeepsIntegrity ops := by
  intro h
  have hrun := @exec_reached allocatedTwice (by decide +kernel)
  have hlisted : ((reached allocatedTwice).engine.conflicts.find ⟨1⟩).map
      (fun c => (c.domain, c.evidenceIds)) = some (.compute, [⟨1⟩]) := by decide +kernel
  have hstored : ((reached allocatedTwice).engine.evidence.find ⟨1⟩).map (·.domain) =
      some .cache := by decide +kernel
  have hintegrity := (h allocatedTwice (by decide)).integrity _ _ List.prefix_rfl hrun
  generalize reached allocatedTwice = s at hlisted hstored hintegrity
  obtain ⟨c, hc, hpair⟩ := Option.map_eq_some_iff.mp hlisted
  obtain ⟨hdomain, hids⟩ := Prod.mk.inj hpair
  obtain ⟨e, he, hbelongs⟩ := hintegrity ⟨1⟩ c hc ⟨1⟩ (by rw [hids]; exact List.mem_singleton_self _)
  rw [he, Option.map_some, Option.some.injEq, hbelongs.domain, hdomain] at hstored
  cases hstored

end ContentionGovernor
