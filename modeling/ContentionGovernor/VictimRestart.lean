import ContentionGovernor.SuspendedConflicts

/-!
# Restarts of a victim

The generations in an evidence record are not compared with the authority.  Evidence from
before a restart of its victim lapses only when it was no longer usable at the restart.
-/

namespace ContentionGovernor

/-- The workload whose recorded boot or generation an operation changes. -/
def Op.restarts (s : GovernorState) : Op → Option WorkloadId
  | .recordWorkerBoot w boot =>
    if (s.engine.authority.workloadBoots.find w).any fun b => b ≠ boot then some w else none
  | .recordWorkloadGeneration w g =>
    if (s.engine.authority.workloadGenerations.find w).any fun h => h ≠ g then some w else none
  | _ => none

/-- The operation stores no CURRENT evidence on the domain and a victim of the conflict. -/
def WithoutNews (c : ContentionConflict) (s : GovernorState) (op : Op) : Prop :=
  ∀ e, op.stored s = some e → e.status = .current → ¬IsAbout c e

/-- After a restart of a workload that a conflict affects, nothing is authorized for the
conflict until CURRENT evidence on its domain and victim is received. -/
def EvidenceLapses (ops : List Op) : Prop :=
  ∀ pre op mid post s u t w cid c cls now, ops = pre ++ op :: mid ++ post →
    Runs.exec step {} pre = some s → step s op = some u → Runs.exec step u mid = some t →
    op.restarts s = some w → s.engine.conflicts.find cid = some c → w ∈ c.affected →
    Runs.Guarded step (WithoutNews c) u mid → authorize cid cls now t = .ok (none, t)

/-- A workload restarts only when no conflict that affects it lists usable evidence, usable
evidence is stored under no id that a conflict of another domain or victim lists, and no
conflict id in use is taken again. -/
structure RestartsWithdrawn (s : GovernorState) (op : Op) : Prop where
  noLoad : ¬op.isLoad
  withdrawn : ∀ w ∈ op.restarts s, ∀ entry ∈ s.engine.conflicts.entries,
    w ∈ entry.2.affected → ¬ListsUsable s entry.2
  own : ∀ e ∈ op.stored s, isUsable e → ∀ entry ∈ s.engine.conflicts.entries,
    e.id ∈ entry.2.evidenceIds → IsAbout entry.2 e
  free : (op.stored s).isSome → (s.engine.conflicts.find ⟨s.nextConflictId⟩).isNone

instance (s : GovernorState) (op : Op) : Decidable (RestartsWithdrawn s op) :=
  decidable_of_iff (¬op.isLoad ∧
    (∀ w ∈ op.restarts s, ∀ entry ∈ s.engine.conflicts.entries,
      w ∈ entry.2.affected → ¬ListsUsable s entry.2) ∧
    (∀ e ∈ op.stored s, isUsable e → ∀ entry ∈ s.engine.conflicts.entries,
      e.id ∈ entry.2.evidenceIds → IsAbout entry.2 e) ∧
    ((op.stored s).isSome → (s.engine.conflicts.find ⟨s.nextConflictId⟩).isNone))
    ⟨fun ⟨h₁, h₂, h₃, h₄⟩ => ⟨h₁, h₂, h₃, h₄⟩, fun ⟨h₁, h₂, h₃, h₄⟩ => ⟨h₁, h₂, h₃, h₄⟩⟩

/-- The conflict is there, about the same, and lists no usable evidence. -/
def Lapsed (cid : ConflictId) (c : ContentionConflict) (s : GovernorState) : Prop :=
  ∃ c', s.engine.conflicts.find cid = some c' ∧ c'.domain = c.domain ∧
    c'.affected = c.affected ∧ ¬ListsUsable s c'

theorem IsAbout.congr {c c' : ContentionConflict} {e : InterferenceEvidence} (h : IsAbout c' e)
    (hdomain : c'.domain = c.domain) (haffected : c'.affected = c.affected) : IsAbout c e :=
  ⟨h.1.trans hdomain, haffected ▸ h.2⟩

/-- A conflict that evidence does not join still lists nothing usable. -/
theorem lapsed_aside {s s' : GovernorState} {op : Op} {cid : ConflictId}
    {c c' : ContentionConflict} {e : InterferenceEvidence} (hop : RestartsWithdrawn s op)
    (hnews : WithoutNews c s op) (hstored : op.stored s = some e)
    (hevidence : s'.engine.evidence = s.engine.evidence.insert e.id e)
    (hc : s.engine.conflicts.find cid = some c') (hdomain : c'.domain = c.domain)
    (haffected : c'.affected = c.affected) (hunusable : ¬ListsUsable s c') :
    ¬ListsUsable s' c' := by
  intro hlists
  rcases listsUsable_insert hevidence hlists with
    ⟨husable, hlisted⟩ | ⟨eid, heid, -, e₀, he₀, husable⟩
  · have habout := hop.own e hstored husable (cid, c') (OrderedMap.mem_entries.mpr hc) hlisted
    exact hnews e hstored husable.1 (habout.congr hdomain haffected)
  · exact hunusable ⟨eid, heid, e₀, he₀, husable⟩

theorem step_lapsed {s s' : GovernorState} {op : Op} {cid : ConflictId}
    {c : ContentionConflict} (hs : Lapsed cid c s) (hop : RestartsWithdrawn s op)
    (hnews : WithoutNews c s op) (h : step s op = some s') : Lapsed cid c s' := by
  obtain ⟨c', hc', hdomain, haffected, hunusable⟩ := hs
  rcases step_stores h hop.noLoad with ⟨-, hkeeps⟩ | ⟨e, hstored, hevidence, hjoins⟩
  · obtain ⟨c'', hc'', hsame⟩ := hkeeps.conflicts.exists_right hc'
    exact ⟨c'', hc'', hsame.domain.trans hdomain, hsame.affected.trans haffected,
      fun hlists => hunusable (listsUsable_of_keeps hkeeps hsame.evidenceIds hlists)⟩
  · have haside : s'.engine.conflicts.find cid = some c' → Lapsed cid c s' := fun hkept =>
      ⟨c', hkept, hdomain, haffected,
        lapsed_aside hop hnews hstored hevidence hc' hdomain haffected hunusable⟩
    cases hjoins with
    | listed key c₀ new hlocated hinsert hsameDomain hsameAffected hids =>
      by_cases hkey : cid = key
      · subst hkey
        rw [locateConflict_find hlocated, Option.some.injEq] at hc'
        subst hc'
        refine ⟨new, ?_, hsameDomain.trans hdomain, hsameAffected.trans haffected, ?_⟩
        · rw [hinsert, OrderedMap.find_insert_self]
        · intro hlists
          rcases listsUsable_insert hevidence hlists with
            ⟨husable, -⟩ | ⟨eid, heid, hne, e₀, he₀, husable⟩
          · have habout : IsAbout c₀ e := locateConflict_matches hlocated
            exact hnews e hstored husable.1 (habout.congr hdomain haffected)
          · rw [hids] at heid
            have hold : eid ∈ c₀.evidenceIds :=
              (List.mem_append.mp heid).resolve_right fun h => hne (List.mem_singleton.mp h)
            exact hunusable ⟨eid, hold, e₀, he₀, husable⟩
      · apply haside
        rw [hinsert, OrderedMap.find_insert_of_ne _ hkey, hc']
    | opened new hlocated hinsert hsameDomain hsameAffected hids =>
      apply haside
      have hne : cid ≠ ⟨s.nextConflictId⟩ := by
        rintro rfl
        have hfree := hop.free (by rw [hstored]; rfl)
        rw [hc'] at hfree
        cases hfree
      rw [hinsert, OrderedMap.find_insert_of_ne _ hne, hc']
    | unlisted hlocated hsame =>
      apply haside
      rw [hsame, hc']

/-- In a run from the empty governor in which a workload restarts only when no conflict that
affects it lists usable evidence, evidence from before a restart authorizes nothing after
it. -/
theorem evidence_lapses (ops : List Op) (hops : Runs.Guarded step RestartsWithdrawn {} ops) :
    EvidenceLapses ops := by
  rintro pre op mid post s u t w cid c cls now rfl hpre hop hmid hw hc hvictim hnews
  have hguard : RestartsWithdrawn s op := hops.append.1.at_step hpre
  have hrest : Runs.Guarded step RestartsWithdrawn u mid :=
    (hops.append.1.append.2 s hpre).2 u hop
  have hunusable := hguard.withdrawn w hw (cid, c) (OrderedMap.mem_entries.mpr hc) hvictim
  have hrestarted : Lapsed cid c u := by
    refine step_lapsed ⟨c, hc, rfl, rfl, hunusable⟩ hguard ?_ hop
    intro e hstored
    cases op with
    | recordWorkerBoot | recordWorkloadGeneration => cases hstored
    | _ => cases hw
  obtain ⟨c', hc', -, -, hend⟩ := Runs.invariant_of_guarded
    (fun v l v' hv hl hstep => step_lapsed hv hl.1 hl.2 hstep) (hrest.and hnews) hmid hrestarted
  exact refused_of_unusable hc' hend cls now

/-- The victim is registered and observed, and restarts after the coordinator has. -/
def restartedVictim : List Op :=
  registerNeighbor ++ [.recordWorkerBoot ⟨1⟩ ⟨1⟩, .ingestEvidence slowdown, .advanceEpoch,
    .recordWorkerBoot ⟨1⟩ ⟨2⟩]

theorem evidence_lapses_restarted : EvidenceLapses restartedVictim :=
  evidence_lapses restartedVictim (by decide +kernel)

/-- The victim is registered and observed. -/
def observedVictim : List Op :=
  registerNeighbor ++ [.recordWorkerBoot ⟨1⟩ ⟨1⟩, .ingestEvidence slowdown]

theorem evidence_outlives_restart :
    ¬∀ ops, (∀ op ∈ ops, ¬op.isLoad) → EvidenceLapses ops := by
  intro h
  have hpre := @exec_reached observedVictim (by decide +kernel)
  have hconflict : ((reached observedVictim).engine.conflicts.find ⟨1⟩).map
      (fun c => decide (⟨1⟩ ∈ c.affected)) = some true := by decide +kernel
  have hrestarts : Op.restarts (reached observedVictim) (.recordWorkerBoot ⟨1⟩ ⟨2⟩) =
      some ⟨1⟩ := by decide +kernel
  have hgranted : authorizes (recordWorkerBoot ⟨1⟩ ⟨2⟩ (reached observedVictim)).2 ⟨1⟩ .throttle
      1000 = true := by decide +kernel
  have hlapses := h (observedVictim ++ [.recordWorkerBoot ⟨1⟩ ⟨2⟩]) (by decide)
  obtain ⟨c, hc, hvictim⟩ := Option.map_eq_some_iff.mp hconflict
  have hrefused := hlapses observedVictim (.recordWorkerBoot ⟨1⟩ ⟨2⟩) [] [] _ _ _ ⟨1⟩ ⟨1⟩ c
    .throttle 1000 (List.append_nil _).symm hpre rfl rfl hrestarts hc
    (of_decide_eq_true hvictim) trivial
  rw [authorizes, hrefused] at hgranted
  cases hgranted

end ContentionGovernor
