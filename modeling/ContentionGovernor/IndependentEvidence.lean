import ContentionGovernor.EvidenceStore

/-!
# Independent evidence

Two records that bring their own ids and are for two conflicts already there can be ingested
in either order: neither changes what the other is for, and they write under different keys.
-/

namespace ContentionGovernor

/-- A conflict that keeps what it is about keeps the searches for other conflicts. -/
theorem locate_insert_other {conflicts : OrderedMap ConflictId ContentionConflict}
    {e : InterferenceEvidence} {key cid : ConflictId} {d d' c : ContentionConflict}
    (hd : conflicts.find key = some d) (hdomain : d'.domain = d.domain)
    (haffected : d'.affected = d.affected) (hne : key ≠ cid)
    (h : locateConflict conflicts e = some (cid, c)) :
    locateConflict (conflicts.insert key d') e = some (cid, c) := by
  have hrelated : OrderedMap.Related
      (fun _ c c' => c'.domain = c.domain ∧ c'.affected = c.affected) conflicts
      (conflicts.insert key d') :=
    OrderedMap.Related.insert (fun _ _ => ⟨rfl, rfl⟩) hd ⟨hdomain, haffected⟩
  have hfound := hrelated.search (p := fun entry =>
    entry.2.domain = e.domain ∧ e.victim ∈ entry.2.affected) fun _ _ _ hsame => by
      simp only [hsame.1, hsame.2]
  change Option.Rel _ (locateConflict conflicts e) (locateConflict _ e) at hfound
  rw [h] at hfound
  cases hlocated : locateConflict (conflicts.insert key d') e with
  | none =>
    rw [hlocated] at hfound
    cases hfound
  | some entry =>
    rw [hlocated] at hfound
    cases hfound with
    | some hentry =>
      obtain ⟨hcid, -⟩ := hentry
      -- Under the same key stands what stood there.
      have hvalue := locateConflict_find hlocated
      rw [← hcid, OrderedMap.find_insert_of_ne _ hne.symm, locateConflict_find h] at hvalue
      exact congrArg some (Prod.ext hcid.symm (Option.some.inj hvalue).symm)

/-- Evidence with an id, for a conflict that is there, replaces its record and that
conflict. -/
theorem ingest_existing {s : GovernorState} {e : InterferenceEvidence} {cid : ConflictId}
    {c : ContentionConflict} (hv : (validateEvidence e).isOk) (hid : e.id.value ≠ 0)
    (h : locateConflict s.engine.conflicts e = some (cid, c)) :
    ingestEvidence e s = (.good, { s with engine := { s.engine with
      evidence := s.engine.evidence.insert e.id e.derived
      conflicts := s.engine.conflicts.insert cid
        (progressConflict s.engine.policy e.derived (updateConflict c e.derived)) } }) := by
  have hlocated : locateConflict s.engine.conflicts e.derived = some (cid, c) := h
  have hassigned : assignEvidenceId e.derived s.nextEvidenceId = (e.derived, s.nextEvidenceId) :=
    if_neg hid
  unfold ingestEvidence storeEvidence
  simp only [hv, not_true_eq_false, if_false, hassigned, hlocated]
  rfl

/-- What evidence makes of a conflict is about the same. -/
theorem received_subject (p : ContentionPolicy) (e : InterferenceEvidence)
    (c : ContentionConflict) :
    (progressConflict p e (updateConflict c e)).domain = c.domain ∧
      (progressConflict p e (updateConflict c e)).affected = c.affected := by
  have hsame := progressConflict_subject p e (updateConflict c e)
  exact ⟨hsame.domain, hsame.affected⟩

/-- Two accepted records with different ids of their own, for two different conflicts that are
there, leave the same state and statuses in either order. -/
theorem independent_evidence_commutes {s : GovernorState} {e₁ e₂ : InterferenceEvidence}
    {cid₁ cid₂ : ConflictId} {c₁ c₂ : ContentionConflict}
    (hv₁ : (validateEvidence e₁).isOk) (hv₂ : (validateEvidence e₂).isOk)
    (hid₁ : e₁.id.value ≠ 0) (hid₂ : e₂.id.value ≠ 0) (hids : e₁.id ≠ e₂.id)
    (h₁ : locateConflict s.engine.conflicts e₁ = some (cid₁, c₁))
    (h₂ : locateConflict s.engine.conflicts e₂ = some (cid₂, c₂)) (hne : cid₁ ≠ cid₂) :
    (ingestEvidence e₂ (ingestEvidence e₁ s).2).2 = (ingestEvidence e₁ (ingestEvidence e₂ s).2).2 ∧
      (ingestEvidence e₁ s).1 = (ingestEvidence e₁ (ingestEvidence e₂ s).2).1 ∧
      (ingestEvidence e₂ (ingestEvidence e₁ s).2).1 = (ingestEvidence e₂ s).1 := by
  have hsubject₁ := received_subject s.engine.policy e₁.derived c₁
  have hsubject₂ := received_subject s.engine.policy e₂.derived c₂
  have hafter₂ := locate_insert_other (locateConflict_find h₁) hsubject₁.1 hsubject₁.2 hne h₂
  have hafter₁ := locate_insert_other (locateConflict_find h₂) hsubject₂.1 hsubject₂.2 hne.symm h₁
  rw [ingest_existing hv₁ hid₁ h₁, ingest_existing hv₂ hid₂ h₂]
  rw [ingest_existing hv₂ hid₂ hafter₂, ingest_existing hv₁ hid₁ hafter₁]
  refine ⟨?_, rfl, rfl⟩
  dsimp only
  rw [OrderedMap.insert_comm _ hids, OrderedMap.insert_comm _ hne]

/-- Workloads 1 and 3 are slowed down, each in a conflict of its own. -/
def twoSlowdowns : List Op :=
  [.ingestEvidence slowdown, .ingestEvidence { slowdown with victim := ⟨3⟩ }]

def firstAgain : InterferenceEvidence := { slowdown with id := ⟨10⟩ }

def secondAgain : InterferenceEvidence := { slowdown with id := ⟨11⟩, victim := ⟨3⟩ }

theorem independent_evidence_commutes_again :
    (ingestEvidence secondAgain (ingestEvidence firstAgain (reached twoSlowdowns)).2).2 =
        (ingestEvidence firstAgain (ingestEvidence secondAgain (reached twoSlowdowns)).2).2 ∧
      (ingestEvidence firstAgain (reached twoSlowdowns)).1 =
        (ingestEvidence firstAgain (ingestEvidence secondAgain (reached twoSlowdowns)).2).1 ∧
      (ingestEvidence secondAgain (ingestEvidence firstAgain (reached twoSlowdowns)).2).1 =
        (ingestEvidence secondAgain (reached twoSlowdowns)).1 := by
  have hfirst : (locateConflict (reached twoSlowdowns).engine.conflicts firstAgain).map Prod.fst =
      some ⟨1⟩ := by decide +kernel
  have hsecond : (locateConflict (reached twoSlowdowns).engine.conflicts secondAgain).map
      Prod.fst = some ⟨2⟩ := by decide +kernel
  obtain ⟨⟨_, c₁⟩, h₁, rfl⟩ := Option.map_eq_some_iff.mp hfirst
  obtain ⟨⟨_, c₂⟩, h₂, rfl⟩ := Option.map_eq_some_iff.mp hsecond
  exact independent_evidence_commutes (by decide +kernel) (by decide +kernel) (by decide)
    (by decide) (by decide) h₁ h₂ (by decide)

end ContentionGovernor
