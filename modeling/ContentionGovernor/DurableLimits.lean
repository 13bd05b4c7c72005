import ContentionGovernor.Authorization
import ContentionGovernor.EvidenceStore
import ContentionGovernor.SnapshotRoundTrip

/-!
# The limits of the durable state

The loader limits every string and collection; the operations limit none.  The
state stays loadable for as long as each step has room for what it writes.
-/

namespace ContentionGovernor

/-! ## Maps and lists within the limit -/

section Maps

variable {K V : Type} [LinearOrder K] {P : V → Prop} {m : OrderedMap K V} {k : K} {v : V}

/-- The key can be assigned without the map passing the limit. -/
def MapRoom (m : OrderedMap K V) (k : K) : Prop :=
  (m.find k).isSome ∨ m.size < kMaxCollectionLen

theorem mapRoom_of_find (h : m.find k = some v) : MapRoom m k := by
  left
  rw [h]
  rfl

theorem size_insert_le_iff (hm : m.size ≤ kMaxCollectionLen) :
    (m.insert k v).size ≤ kMaxCollectionLen ↔ MapRoom m k := by
  unfold MapRoom
  rw [OrderedMap.size_insert]
  split_ifs with hfound
  · exact iff_of_true hm (.inl hfound)
  · rw [or_iff_right hfound]
    exact Nat.succ_le_iff

theorem MapFits.find (h : MapFits P m) (hk : m.find k = some v) : P v :=
  h.2 _ (OrderedMap.mem_entries.mpr hk)

theorem mapFits_insert (h : MapFits P m) :
    MapFits P (m.insert k v) ↔ P v ∧ MapRoom m k := by
  constructor
  · intro h'
    exact ⟨h'.find (OrderedMap.find_insert_self m k v), (size_insert_le_iff h.1).mp h'.1⟩
  · rintro ⟨hv, hroom⟩
    refine ⟨(size_insert_le_iff h.1).mpr hroom, fun e he => ?_⟩
    rcases OrderedMap.mem_place he with rfl | he
    · exact hv
    · exact h.2 e he

/-- Assigning an existing key needs no room. -/
theorem mapFits_insert_of_find {w : V} (h : MapFits P m) (hk : m.find k = some w) :
    MapFits P (m.insert k v) ↔ P v := by
  rw [mapFits_insert h]
  exact and_iff_left (mapRoom_of_find hk)

theorem MapFits.mapValues {f : V → V} (h : MapFits P m) (hf : ∀ v, P v → P (f v)) :
    MapFits P (m.mapValues f) := by
  refine ⟨by rw [OrderedMap.mapValues, List.length_map]; exact h.1, fun e he => ?_⟩
  obtain ⟨e', he', rfl⟩ := List.mem_map.mp he
  exact hf _ (h.2 e' he')

end Maps

theorem ListFits.true_iff {α : Type} {xs : List α} :
    ListFits (fun _ => True) xs ↔ xs.length ≤ kMaxCollectionLen :=
  and_iff_left fun _ _ => trivial

theorem listFits_concat {α : Type} {xs : List α} {x : α} :
    ListFits (fun _ => True) (xs ++ [x]) ↔ xs.length < kMaxCollectionLen := by
  rw [ListFits.true_iff, List.length_append, List.length_singleton]
  exact Nat.succ_le_iff

/-! ## What an operation writes -/

/-- The evidence to store fits, and there is room for it. -/
structure EvidenceRoom (s : GovernorState) (input : InterferenceEvidence) : Prop where
  fits : EvidenceFits input
  room : MapRoom s.engine.evidence (storedEvidence s input).id
  listed : ∀ cid c, locateConflict s.engine.conflicts (storedEvidence s input) = some (cid, c) →
    c.evidenceIds.length < kMaxCollectionLen

/-- There is room for what a grant writes. -/
structure GrantRoom (s : GovernorState) (g : Grant) : Prop where
  fairness : MapRoom s.engine.fairness g.target
  record : MapRoom s.engine.interventions ⟨s.nextInterventionId⟩
  selected : g.conflict.selectedIds.length < kMaxCollectionLen

/-- The note of an adapter fits, if its outcome records one. -/
def AnswerFits (res : AdapterResult) : Prop := res.outcome ≠ .unknown → StringFits res.note

/-- The adapter that a dispatch reaches gives an answer that fits. -/
def DispatchFits (s : GovernorState) (id : InterventionId) (adapters : Option AdapterRegistry) :
    Prop :=
  ∀ i, s.engine.interventions.find id = some i → i.state = .authorized →
    (revalidate s.engine i.fence i.target).code = .ok →
      AnswerFits (callAdapter adapters ⟨id, i.cls, i.target, i.attemptId⟩)

/-- There is room in the durable state for what the operation writes. -/
def Op.KeepsLimits (s : GovernorState) : Op → Prop
  | .setPolicy p => (validatePolicy p).isOk → PolicyFits 7 p
  | .setAuthority a => AuthorityFits a
  | .recordWorkerBoot w _ => MapRoom s.engine.authority.workloadBoots w
  | .recordWorkloadGeneration w _ => MapRoom s.engine.authority.workloadGenerations w
  | .ingestEvidence input => (validateEvidence input).isOk →
    EvidenceRoom s input ∧
      (locateConflict s.engine.conflicts (storedEvidence s input) = none →
        MapRoom s.engine.conflicts ⟨s.nextConflictId⟩)
  | .authorize id cls now => ∀ g, Granted s id cls now g → GrantRoom s g
  | .dispatch id _ adapters => DispatchFits s id adapters
  | .authorizeAndDispatch id cls now _ adapters => ∀ g, Granted s id cls now g →
    GrantRoom s g ∧ AnswerFits (callAdapter adapters
      ⟨⟨s.nextInterventionId⟩, g.cls, g.target, ⟨s.nextAttemptId⟩⟩)
  | .onActionFailed id _ note => (s.engine.interventions.find id).isSome → StringFits note
  | .submitPostActionEvidence input => (validateEvidence input).isOk → EvidenceRoom s input
  | _ => True

/-! ## Policy, authority and epoch -/

theorem loadable_setPolicy {s : GovernorState} (h : Loadable s) (p : ContentionPolicy) :
    Loadable (setPolicy p s).2 ↔ ((validatePolicy p).isOk → PolicyFits 7 p) := by
  unfold setPolicy
  by_cases hv : (validatePolicy p).isOk
  · simp only [hv, not_true_eq_false, if_false, forall_const]
    refine ⟨fun h' => h'.fits.policy, fun hp => ⟨?_, Status.isOk_iff.mp hv⟩⟩
    exact { h.fits with
      policy := hp
      authority := ⟨h.fits.authority.workloadGenerations, h.fits.authority.workloadBoots⟩ }
  · simp only [hv]
    exact iff_of_true h fun hfalse => absurd hfalse Bool.false_ne_true

theorem loadable_setAuthority {s : GovernorState} (h : Loadable s) (a : AuthorityContext) :
    Loadable (setAuthority a s).2 ↔ AuthorityFits a :=
  ⟨fun h' => h'.fits.authority, fun ha => ⟨{ h.fits with authority := ha }, h.valid⟩⟩

theorem loadable_recordWorkerBoot {s : GovernorState} (h : Loadable s) (w : WorkloadId)
    (boot : WorkerBootId) : Loadable (recordWorkerBoot w boot s).2 ↔
      MapRoom s.engine.authority.workloadBoots w := by
  have hinsert := mapFits_insert (k := w) (v := boot) h.fits.authority.workloadBoots
  constructor
  · intro h'
    exact (hinsert.mp h'.fits.authority.workloadBoots).2
  · intro hroom
    refine ⟨{ h.fits with authority := ?_ }, h.valid⟩
    exact ⟨h.fits.authority.workloadGenerations, hinsert.mpr ⟨trivial, hroom⟩⟩

theorem loadable_recordWorkloadGeneration {s : GovernorState} (h : Loadable s) (w : WorkloadId)
    (g : WorkloadGeneration) : Loadable (recordWorkloadGeneration w g s).2 ↔
      MapRoom s.engine.authority.workloadGenerations w := by
  have hinsert := mapFits_insert (k := w) (v := g) h.fits.authority.workloadGenerations
  constructor
  · intro h'
    exact (hinsert.mp h'.fits.authority.workloadGenerations).2
  · intro hroom
    refine ⟨{ h.fits with authority := ?_ }, h.valid⟩
    exact ⟨hinsert.mpr ⟨trivial, hroom⟩, h.fits.authority.workloadBoots⟩

theorem evidenceFits_requireRevalidation {e : InterferenceEvidence} (h : EvidenceFits e) :
    EvidenceFits (requireRevalidation e) := by
  unfold requireRevalidation
  split_ifs
  · exact ⟨h.neighbors, h.attribution, h.unresolvedConfounders, h.sourceId, h.sourceHealth⟩
  · exact h

theorem conflictFits_suspendConflict {c : ContentionConflict} (h : ConflictFits c) :
    ConflictFits (suspendConflict c) := by
  unfold suspendConflict
  split_ifs
  · exact { h with }
  · exact h

theorem interventionFits_abandonInFlight {i : InterventionRecord} (h : InterventionFits 21 i) :
    InterventionFits 21 (abandonInFlight i) := by
  unfold abandonInFlight
  split_ifs
  · exact { h with }
  · exact h

theorem loadable_advanceEpoch {s : GovernorState} (h : Loadable s) :
    Loadable (advanceEpoch s).2 := by
  refine ⟨?_, h.valid⟩
  exact { h.fits with
    authority := ⟨h.fits.authority.workloadGenerations, h.fits.authority.workloadBoots⟩
    conflicts := h.fits.conflicts.mapValues fun _ => conflictFits_suspendConflict
    evidence := h.fits.evidence.mapValues fun _ => evidenceFits_requireRevalidation
    interventions := h.fits.interventions.mapValues fun _ => interventionFits_abandonInFlight
    fairness := h.fits.fairness.mapValues fun _ _ => trivial }

/-! ## Evidence -/

theorem evidenceFits_stored {s : GovernorState} {input : InterferenceEvidence} :
    EvidenceFits (storedEvidence s input) ↔ EvidenceFits input := by
  unfold storedEvidence assignEvidenceId InterferenceEvidence.derived
  split_ifs
  all_goals exact
    ⟨fun h => ⟨h.neighbors, h.attribution, h.unresolvedConfounders, h.sourceId, h.sourceHealth⟩,
      fun h => ⟨h.neighbors, h.attribution, h.unresolvedConfounders, h.sourceId, h.sourceHealth⟩⟩

theorem conflictFits_progressConflict {p : ContentionPolicy} {e : InterferenceEvidence}
    {c : ContentionConflict} : ConflictFits (progressConflict p e c) ↔ ConflictFits c := by
  have hstate : ∀ (state : ConflictState) (actionable : Bool),
      ConflictFits { c with state := state, inActionableState := actionable } ↔ ConflictFits c :=
    fun _ _ => ⟨fun h => { h with }, fun h => { h with }⟩
  obtain ⟨_, _, hframe⟩ := progressConflict_frame p e c
  rw [hframe]
  exact hstate _ _

/-- Evidence that fits is all that an update of a conflict adds, apart from its id. -/
theorem conflictFits_updateConflict {c : ContentionConflict} {e : InterferenceEvidence}
    (hc : ConflictFits c) (he : EvidenceFits e) :
    ConflictFits (updateConflict c e) ↔ c.evidenceIds.length < kMaxCollectionLen := by
  constructor
  · intro h
    exact listFits_concat.mp h.evidenceIds
  · intro hroom
    exact { hc with
      associated := he.neighbors
      evidenceIds := listFits_concat.mpr hroom
      unresolvedConfounders := he.unresolvedConfounders }

theorem conflictFits_remeasureConflict {c : ContentionConflict} {e : InterferenceEvidence}
    (hc : ConflictFits c) :
    ConflictFits (remeasureConflict c e) ↔ c.evidenceIds.length < kMaxCollectionLen := by
  constructor
  · intro h
    exact listFits_concat.mp h.evidenceIds
  · intro hroom
    exact { hc with evidenceIds := listFits_concat.mpr hroom }

theorem conflictFits_newConflict {s : GovernorState} {e : InterferenceEvidence}
    (he : EvidenceFits e) : ConflictFits (newConflict s e) := by
  have hnil : ∀ {α : Type} {P : α → Prop}, ListFits P [] := fun {_ _} =>
    ⟨Nat.zero_le _, fun _ h => absurd h List.not_mem_nil⟩
  have hone : ∀ {α : Type} (a : α), ListFits (fun _ => True) [a] := fun _ =>
    ListFits.true_iff.mpr (show 1 ≤ kMaxCollectionLen by decide)
  exact ⟨hone _, he.neighbors, hone _, he.unresolvedConfounders, hnil, hnil, hnil, hnil⟩

theorem loadable_storeEvidence {s : GovernorState} (h : Loadable s) (e : InterferenceEvidence) :
    Loadable (storeEvidence s e) ↔ (EvidenceFits e ∧ MapRoom s.engine.evidence e.id) ∧
      (∀ cid c, locateConflict s.engine.conflicts e = some (cid, c) →
        c.evidenceIds.length < kMaxCollectionLen) ∧
      (locateConflict s.engine.conflicts e = none →
        MapRoom s.engine.conflicts ⟨s.nextConflictId⟩) := by
  have hevidence := mapFits_insert (k := e.id) (v := e) h.fits.evidence
  unfold storeEvidence
  dsimp only
  cases hlocated : locateConflict s.engine.conflicts e with
  | some entry =>
    -- The key is there already; what has to have room is the list of evidence ids.
    obtain ⟨cid, c⟩ := entry
    have hfind := locateConflict_find hlocated
    have hc := h.fits.conflicts.find hfind
    have hinsert := mapFits_insert_of_find
      (v := progressConflict s.engine.policy e (updateConflict c e)) h.fits.conflicts hfind
    rw [conflictFits_progressConflict] at hinsert
    constructor
    · intro h'
      have he := hevidence.mp h'.fits.evidence
      have hroom := (conflictFits_updateConflict hc he.1).mp (hinsert.mp h'.fits.conflicts)
      refine ⟨he, ?_, fun hnone => absurd hnone (Option.some_ne_none _)⟩
      rintro cid' c' ⟨⟩
      exact hroom
    · rintro ⟨he, hroom, -⟩
      refine ⟨{ h.fits with
        evidence := hevidence.mpr he
        conflicts := hinsert.mpr ?_ }, h.valid⟩
      exact (conflictFits_updateConflict hc he.1).mpr (hroom cid c rfl)
  | none =>
    -- A new conflict lists one id, but its key may be the one too many.
    have hinsert := mapFits_insert (k := (newConflict s e).id)
      (v := progressConflict s.engine.policy e (newConflict s e)) h.fits.conflicts
    rw [conflictFits_progressConflict] at hinsert
    constructor
    · intro h'
      refine ⟨hevidence.mp h'.fits.evidence, ?_, fun _ => (hinsert.mp h'.fits.conflicts).2⟩
      rintro cid c ⟨⟩
    · rintro ⟨he, -, hroom⟩
      refine ⟨{ h.fits with
        evidence := hevidence.mpr he
        conflicts := hinsert.mpr ⟨conflictFits_newConflict he.1, hroom rfl⟩ }, h.valid⟩

theorem loadable_ingestEvidence {s : GovernorState} (h : Loadable s)
    (input : InterferenceEvidence) :
    Loadable (ingestEvidence input s).2 ↔ Op.KeepsLimits s (.ingestEvidence input) := by
  unfold Op.KeepsLimits
  by_cases hv : (validateEvidence input).isOk
  · obtain ⟨n, hstored⟩ := ingestEvidence_of_valid (s := s) hv
    have hn : Loadable { s with nextEvidenceId := n } := ⟨{ h.fits with }, h.valid⟩
    rw [hstored, loadable_storeEvidence hn, evidenceFits_stored]
    constructor
    · rintro ⟨⟨hfits, hroom⟩, hlisted, hnew⟩ -
      exact ⟨⟨hfits, hroom, hlisted⟩, hnew⟩
    · intro hall
      obtain ⟨⟨hfits, hroom, hlisted⟩, hnew⟩ := hall hv
      exact ⟨⟨hfits, hroom⟩, hlisted, hnew⟩
  · have hsame : (ingestEvidence input s).2 = s := by
      unfold ingestEvidence
      simp only [hv]
      rfl
    rw [hsame]
    exact iff_of_true h fun hok => absurd hok hv

/-! ## Post-action evidence -/

theorem interventionFits_verifyEvidence {s : GovernorState} (h : Loadable s)
    (e : InterferenceEvidence) :
    MapFits (InterventionFits 21) (verifyEvidence s e).engine.interventions := by
  have hi := h.fits.interventions
  unfold verifyEvidence settleIntervention
  dsimp only
  split
  · exact hi
  · split
    · exact hi
    · rename_i hopened
      have hfind := (openIntervention_spec hopened).1
      exact (mapFits_insert_of_find hi hfind).mpr { hi.find hfind with }

theorem fairness_verifyEvidence {s : GovernorState} (h : Loadable s)
    (e : InterferenceEvidence) : MapFits (fun _ => True) (verifyEvidence s e).engine.fairness := by
  have hf := h.fits.fairness
  unfold verifyEvidence settleIntervention
  dsimp only
  split
  · exact hf
  · split
    · exact hf
    · split_ifs
      · split
        · rename_i hfind
          exact (mapFits_insert_of_find hf hfind).mpr trivial
        · exact hf
      · exact hf

/-- The verified conflict has one more evidence id, and no other conflict changes. -/
theorem conflictFits_verifyEvidence {s : GovernorState} (h : Loadable s)
    (e : InterferenceEvidence) :
    MapFits ConflictFits (verifyEvidence s e).engine.conflicts ↔
      ∀ cid c, locateConflict s.engine.conflicts e = some (cid, c) →
        c.evidenceIds.length < kMaxCollectionLen := by
  rcases verifyEvidence_conflicts s e with ⟨hnone, hsame⟩ | ⟨cid, c, state, hlocated, hnew⟩
  · rw [hnone, hsame]
    exact iff_of_true h.fits.conflicts fun cid c hsome => absurd hsome.symm (Option.some_ne_none _)
  · have hfind := locateConflict_find hlocated
    have hremeasured := conflictFits_remeasureConflict (e := e) (h.fits.conflicts.find hfind)
    have hstate : ConflictFits { remeasureConflict c e with state := state } ↔
        ConflictFits (remeasureConflict c e) := ⟨fun h => { h with }, fun h => { h with }⟩
    rw [hnew, mapFits_insert_of_find h.fits.conflicts hfind, hstate, hremeasured, hlocated]
    constructor
    · intro hroom cid' c' hsame
      cases hsame
      exact hroom
    · intro hall
      exact hall cid c rfl

theorem loadable_verifyEvidence {s : GovernorState} (h : Loadable s) (e : InterferenceEvidence) :
    Loadable (verifyEvidence s e) ↔ (EvidenceFits e ∧ MapRoom s.engine.evidence e.id) ∧
      ∀ cid c, locateConflict s.engine.conflicts e = some (cid, c) →
        c.evidenceIds.length < kMaxCollectionLen := by
  obtain ⟨hpolicy, hauthority, hstored⟩ := verifyEvidence_frame s e
  have hevidence := mapFits_insert (k := e.id) (v := e) h.fits.evidence
  have hconflicts := conflictFits_verifyEvidence h e
  rw [← hstored] at hevidence
  constructor
  · intro h'
    exact ⟨hevidence.mp h'.fits.evidence, hconflicts.mp h'.fits.conflicts⟩
  · rintro ⟨he, hroom⟩
    constructor
    · constructor
      · rw [hpolicy]
        exact h.fits.policy
      · rw [hauthority]
        exact h.fits.authority
      · exact hconflicts.mpr hroom
      · exact hevidence.mpr he
      · exact interventionFits_verifyEvidence h e
      · exact fairness_verifyEvidence h e
    · rw [hpolicy]
      exact h.valid

theorem loadable_submitPostActionEvidence {s : GovernorState} (h : Loadable s)
    (input : InterferenceEvidence) : Loadable (submitPostActionEvidence input s).2 ↔
      Op.KeepsLimits s (.submitPostActionEvidence input) := by
  unfold Op.KeepsLimits
  by_cases hv : (validateEvidence input).isOk
  · obtain ⟨n, hstored⟩ := submitPostActionEvidence_of_valid (s := s) hv
    have hn : Loadable { s with nextEvidenceId := n } := ⟨{ h.fits with }, h.valid⟩
    rw [hstored, loadable_verifyEvidence hn, evidenceFits_stored]
    constructor
    · rintro ⟨⟨hfits, hroom⟩, hlisted⟩ -
      exact ⟨hfits, hroom, hlisted⟩
    · intro hall
      obtain ⟨hfits, hroom, hlisted⟩ := hall hv
      exact ⟨⟨hfits, hroom⟩, hlisted⟩
  · have hsame : (submitPostActionEvidence input s).2 = s := by
      unfold submitPostActionEvidence
      simp only [hv]
      rfl
    rw [hsame]
    exact iff_of_true h fun hok => absurd hok hv

/-! ## Interventions -/

theorem loadable_setIntervention {s : GovernorState} (h : Loadable s) {id : InterventionId}
    {i r : InterventionRecord} (hi : s.engine.interventions.find id = some i) :
    Loadable (setIntervention s id r) ↔ InterventionFits 21 r := by
  have hinsert := mapFits_insert_of_find (v := r) h.fits.interventions hi
  constructor
  · intro h'
    exact hinsert.mp h'.fits.interventions
  · intro hr
    exact ⟨{ h.fits with interventions := hinsert.mpr hr }, h.valid⟩

theorem interventionFits_failed {i : InterventionRecord} (h : InterventionFits 21 i)
    (note : ByteString) : InterventionFits 21
      { i with state := .failed, interimStatus := .bad .interventionFailed note } ↔
        StringFits note := by
  constructor
  · intro h'
    exact h'.message
  · intro hnote
    have hcode : ByteEnum.raw StatusCode.interventionFailed < 21 := by decide
    exact { h with code := hcode, message := hnote }

theorem interventionFits_applyOutcome {i : InterventionRecord} (h : InterventionFits 21 i)
    (res : AdapterResult) : InterventionFits 21 (applyOutcome res i) ↔ AnswerFits res := by
  obtain ⟨outcome, note, attempt⟩ := res
  have hfailed : StringFits (if note = "" then "adapter rejected" else note) ↔ StringFits note := by
    split_ifs with hempty
    · -- The message in place of an empty note is short as well.
      rw [hempty]
      unfold StringFits
      exact iff_of_true (by decide +kernel) (by decide +kernel)
    · rfl
  unfold applyOutcome AnswerFits
  cases outcome with
  | accepted => exact ⟨fun h' _ => h'.ackNote, fun hnote => { h with ackNote := hnote nofun }⟩
  | unknown => exact iff_of_true { h with } fun hne => absurd rfl hne
  | rejected | unavailable =>
    dsimp only
    rw [interventionFits_failed h, hfailed]
    exact ⟨fun hnote _ => hnote, fun hnote => hnote nofun⟩

theorem loadable_dispatch {s : GovernorState} (h : Loadable s) (id : InterventionId)
    (now : TimeMs) (adapters : Option AdapterRegistry) :
    Loadable (dispatch id now adapters s).2 ↔ DispatchFits s id adapters := by
  unfold DispatchFits
  cases hi : s.engine.interventions.find id with
  | none =>
    have hsame : (dispatch id now adapters s).2 = s := by
      unfold dispatch dispatchBegin
      rw [hi]
    rw [hsame]
    exact iff_of_true h fun i hsome => absurd hsome.symm (Option.some_ne_none i)
  | some i =>
    have hfits := h.fits.interventions.find hi
    by_cases hstate : i.state = .authorized
    · by_cases hvalid : (revalidate s.engine i.fence i.target).code = .ok
      · have hn : Loadable { s with nextDispatchId := s.nextDispatchId + 1 } :=
          ⟨{ h.fits with }, h.valid⟩
        have hdispatched : InterventionFits 21 { i with
            state := .dispatched, dispatchId := ⟨s.nextDispatchId⟩, dispatchedAt := now } :=
          { hfits with }
        rw [dispatch_of_valid hi hstate hvalid, loadable_setIntervention hn hi,
          interventionFits_applyOutcome hdispatched]
        constructor
        · intro hanswer i' hsame _ _
          cases hsame
          exact hanswer
        · intro hall
          exact hall i rfl hstate hvalid
      · -- A record with a stale fence is superseded before any adapter is asked.
        have hsuperseded : (dispatch id now adapters s).2 =
            setIntervention s id { i with state := .superseded } := by
          unfold dispatch dispatchBegin
          rw [hi]
          dsimp only
          rw [if_neg (not_not.mpr hstate), if_pos hvalid]
        rw [hsuperseded, loadable_setIntervention h hi]
        refine iff_of_true { hfits with } fun i' hsame _ hok => ?_
        cases hsame
        exact absurd hok hvalid
    · have hsame : (dispatch id now adapters s).2 = s := by
        unfold dispatch dispatchBegin
        rw [hi]
        dsimp only
        rw [if_pos hstate]
      rw [hsame]
      refine iff_of_true h fun i' hsame hauthorized => ?_
      cases hsame
      exact absurd hauthorized hstate

theorem loadable_onAcknowledge {s : GovernorState} (h : Loadable s) (id : InterventionId)
    (attempt : AttemptId) (now : TimeMs) : Loadable (onAcknowledge id attempt now s).2 := by
  unfold onAcknowledge
  cases hi : s.engine.interventions.find id with
  | none => exact h
  | some i =>
    dsimp only
    split_ifs
    · exact h
    · exact (loadable_setIntervention h hi).mpr { h.fits.interventions.find hi with }

theorem loadable_onActionFailed {s : GovernorState} (h : Loadable s) (id : InterventionId)
    (attempt : AttemptId) (note : ByteString) : Loadable (onActionFailed id attempt note s).2 ↔
      ((s.engine.interventions.find id).isSome → StringFits note) := by
  unfold onActionFailed
  cases hi : s.engine.interventions.find id with
  | none => exact iff_of_true h fun hsome => absurd hsome Bool.false_ne_true
  | some i =>
    dsimp only
    rw [loadable_setIntervention h hi, interventionFits_failed (h.fits.interventions.find hi)]
    exact ⟨fun hnote _ => hnote, fun hall => hall rfl⟩

/-! ## Grants -/

theorem stringFits_adapterLabel (cls : InterventionClass) : StringFits (adapterLabel cls) := by
  unfold StringFits
  cases cls <;> decide +kernel

/-- The adapter label of a grant is one of those in the source. -/
theorem Granted.adapter_fits {s : GovernorState} {id : ConflictId} {cls : InterventionClass}
    {now : TimeMs} {g : Grant} (h : Granted s id cls now g) : StringFits g.adapter := by
  obtain ⟨d, hfollows⟩ := h.follows
  obtain ⟨c, primary, hdec, -⟩ := decided_of_decision hfollows.decision
  obtain ⟨target, -, cls', -, -, hchosen⟩ := mem_buildCandidates hdec.chosen
  rw [hfollows.adapter, hchosen, buildCandidate_adapter]
  exact stringFits_adapterLabel cls'

theorem validatePolicy_consumeBudget (p : ContentionPolicy) (cls : InterventionClass)
    (now : TimeMs) :
    validatePolicy { p with budget := consumeBudget p.budget cls now } = validatePolicy p := by
  unfold consumeBudget renewWindow
  dsimp only
  split_ifs <;> rfl

theorem interventionFits_grantRecord {s : GovernorState} {id : ConflictId}
    {cls : InterventionClass} {now : TimeMs} {g : Grant} (h : Granted s id cls now g) :
    InterventionFits 21 (grantRecord s id g now) := by
  have hempty : StringFits "" := by
    unfold StringFits
    decide +kernel
  have hcode : ByteEnum.raw StatusCode.ok < 21 := by decide
  exact ⟨h.adapter_fits, hempty, hcode, hempty, Nat.zero_le _, fun _ h => absurd h List.not_mem_nil⟩

/-- A commit that leaves some record under its new id. -/
theorem loadable_commitGrant_set {s : GovernorState} (h : Loadable s) {id : ConflictId}
    {cls : InterventionClass} {now : TimeMs} {g : Grant} (hg : Granted s id cls now g)
    (n : UInt64) (r : InterventionRecord) :
    Loadable (setIntervention { commitGrant s id g now with nextDispatchId := n }
      ⟨s.nextInterventionId⟩ r) ↔ GrantRoom s g ∧ InterventionFits 21 r := by
  have hrecord := mapFits_insert (k := ⟨s.nextInterventionId⟩) (v := r) h.fits.interventions
  have hfairness := mapFits_insert (k := g.target)
    (v := chargeFairness ((s.engine.fairness.find g.target).getD {}) g.target now) h.fits.fairness
  have hselected : ∀ ir : InterventionId, MapFits ConflictFits (s.engine.conflicts.insert id
      { g.conflict with
        state := .interventionAuthorized
        selectedIds := g.conflict.selectedIds ++ [ir]
        lastActionAt := now }) ↔ g.conflict.selectedIds.length < kMaxCollectionLen := by
    intro ir
    rw [mapFits_insert_of_find h.fits.conflicts hg.conflict]
    constructor
    · intro hc
      exact listFits_concat.mp hc.selectedIds
    · intro hroom
      exact { h.fits.conflicts.find hg.conflict with selectedIds := listFits_concat.mpr hroom }
  constructor
  · intro h'
    have hinterventions := h'.fits.interventions
    unfold setIntervention commitGrant at hinterventions
    dsimp only at hinterventions
    rw [show (grantRecord s id g now).id = ⟨s.nextInterventionId⟩ from rfl,
      OrderedMap.insert_insert] at hinterventions
    have hr := hrecord.mp hinterventions
    refine ⟨⟨(hfairness.mp h'.fits.fairness).2, hr.2, ?_⟩, hr.1⟩
    exact (hselected _).mp h'.fits.conflicts
  · rintro ⟨hroom, hr⟩
    constructor
    · constructor
      · exact ⟨h.fits.policy.minAttributionForDisruptive, h.fits.policy.workloads⟩
      · exact h.fits.authority
      · exact (hselected _).mpr hroom.selected
      · exact h.fits.evidence
      · unfold setIntervention commitGrant
        dsimp only
        rw [show (grantRecord s id g now).id = ⟨s.nextInterventionId⟩ from rfl,
          OrderedMap.insert_insert]
        exact hrecord.mpr ⟨hr, hroom.record⟩
      · exact hfairness.mpr ⟨trivial, hroom.fairness⟩
    · exact (congrArg Status.code (validatePolicy_consumeBudget _ _ _)).trans h.valid

/-- What holds of every grant of a request holds of the one there is. -/
theorem forall_granted {s : GovernorState} {id : ConflictId} {cls : InterventionClass}
    {now : TimeMs} {g : Grant} (hg : Granted s id cls now g) {P : Grant → Prop} :
    (∀ g', Granted s id cls now g' → P g') ↔ P g := by
  constructor
  · intro hall
    exact hall g hg
  · intro hP g' hg'
    rw [hg'.unique hg.toPasses]
    exact hP

theorem loadable_commitGrant {s : GovernorState} (h : Loadable s) {id : ConflictId}
    {cls : InterventionClass} {now : TimeMs} {g : Grant} (hg : Granted s id cls now g) :
    Loadable (commitGrant s id g now) ↔ GrantRoom s g := by
  have hself : setIntervention { commitGrant s id g now with
      nextDispatchId := (commitGrant s id g now).nextDispatchId } ⟨s.nextInterventionId⟩
      (grantRecord s id g now) = commitGrant s id g now := by
    unfold setIntervention commitGrant
    dsimp only
    rw [show (grantRecord s id g now).id = ⟨s.nextInterventionId⟩ from rfl,
      OrderedMap.insert_insert]
  rw [← hself, loadable_commitGrant_set h hg]
  exact and_iff_left (interventionFits_grantRecord hg)

/-- The dispatch of a fresh grant reaches the adapter. -/
theorem loadable_dispatch_granted {s : GovernorState} (h : Loadable s) {id : ConflictId}
    {cls : InterventionClass} {now : TimeMs} {g : Grant} (hg : Granted s id cls now g)
    (now' : TimeMs) (adapters : Option AdapterRegistry) :
    Loadable (dispatch ⟨s.nextInterventionId⟩ now' adapters (commitGrant s id g now)).2 ↔
      GrantRoom s g ∧ AnswerFits (callAdapter adapters
        ⟨⟨s.nextInterventionId⟩, g.cls, g.target, ⟨s.nextAttemptId⟩⟩) := by
  have hfind : (commitGrant s id g now).engine.interventions.find ⟨s.nextInterventionId⟩ =
      some (grantRecord s id g now) := OrderedMap.find_insert_self ..
  have hfits : InterventionFits 21 { grantRecord s id g now with
      state := .dispatched, dispatchId := ⟨(commitGrant s id g now).nextDispatchId⟩
      dispatchedAt := now' } := { interventionFits_grantRecord hg with }
  rw [dispatch_of_valid hfind rfl hg.valid, loadable_commitGrant_set h hg,
    interventionFits_applyOutcome hfits]
  rfl

/-! ## Steps and runs -/

/-- A load that does not end in a loadable state leaves the state as it was. -/
theorem load_step {s s' : GovernorState} {opts : Options} {readable : Bool}
    {file : Option (List UInt8)} (hstep : step s (.load opts readable file) = some s') :
    s' = s ∨ Loadable s' := by
  obtain ⟨r, hr, rfl⟩ := map_toOption hstep
  unfold load at hr
  split_ifs at hr
  · cases hr
    exact .inl rfl
  · unfold loadState at hr
    cases file with
    | none =>
      cases hr
      exact .inl rfl
    | some bytes =>
      dsimp only at hr
      by_cases hsize : 2 ^ 31 < bytes.length
      · rw [if_pos hsize] at hr
        cases hr
        exact .inl rfl
      · rw [if_neg hsize] at hr
        by_cases hread : ¬readable
        · rw [if_pos hread] at hr
          cases hr
          exact .inl rfl
        · rw [if_neg hread] at hr
          rcases loadFromBytes_cases bytes s with ⟨_, out, -, -, hout, hok⟩ | ⟨_, hbad⟩
          · rw [hok] at hr
            cases hr
            exact .inr hout
          · rw [hbad] at hr
            cases hr
            exact .inl rfl

theorem loadable_load {s s' : GovernorState} (h : Loadable s) {opts : Options} {readable : Bool}
    {file : Option (List UInt8)} (hstep : step s (.load opts readable file) = some s') :
    Loadable s' := by
  rcases load_step hstep with rfl | hloaded
  · exact h
  · exact hloaded

/-- A step from a loadable state leads to one exactly when there is room for its writes. -/
theorem loadable_step_iff {s s' : GovernorState} {op : Op} (h : Loadable s)
    (hstep : step s op = some s') : Loadable s' ↔ op.KeepsLimits s := by
  cases op with
  | setPolicy p =>
    cases hstep
    exact loadable_setPolicy h p
  | setAuthority a =>
    cases hstep
    exact loadable_setAuthority h a
  | recordWorkerBoot w boot =>
    cases hstep
    exact loadable_recordWorkerBoot h w boot
  | recordWorkloadGeneration w g =>
    cases hstep
    exact loadable_recordWorkloadGeneration h w g
  | advanceEpoch =>
    cases hstep
    exact iff_of_true (loadable_advanceEpoch h) trivial
  | ingestEvidence input =>
    cases hstep
    exact loadable_ingestEvidence h input
  | evaluate | save =>
    cases hstep
    exact iff_of_true h trivial
  | authorize id cls now =>
    obtain ⟨r, hr, rfl⟩ := map_toOption hstep
    by_cases hgrant : ∃ g, Granted s id cls now g
    · obtain ⟨g, hg⟩ := hgrant
      rw [authorize_of_granted hg] at hr
      cases hr
      exact (loadable_commitGrant h hg).trans (forall_granted hg).symm
    · -- A refused request writes nothing, and the condition is about grants only.
      rcases authorize_cases hr with ⟨-, rfl⟩ | ⟨g, hg, -⟩
      · exact iff_of_true h fun g hg => absurd ⟨g, hg⟩ hgrant
      · exact absurd ⟨g, granted_of_checks hg⟩ hgrant
  | dispatch id now adapters =>
    cases hstep
    exact loadable_dispatch h id now adapters
  | authorizeAndDispatch id cls now now' adapters =>
    obtain ⟨r, hr, rfl⟩ := map_toOption hstep
    by_cases hgrant : ∃ g, Granted s id cls now g
    · obtain ⟨g, hg⟩ := hgrant
      rw [authorizeAndDispatch_of_granted hg] at hr
      cases hr
      refine (loadable_dispatch_granted h hg now' adapters).trans ?_
      exact (forall_granted hg (P := fun g => GrantRoom s g ∧ AnswerFits (callAdapter adapters
        ⟨⟨s.nextInterventionId⟩, g.cls, g.target, ⟨s.nextAttemptId⟩⟩))).symm
    · rcases authorizeAndDispatch_cases hr with hs | ⟨g, hg, -⟩
      · rw [hs]
        exact iff_of_true h fun g hg => absurd ⟨g, hg⟩ hgrant
      · exact absurd ⟨g, granted_of_checks hg⟩ hgrant
  | onAcknowledge id attempt now =>
    cases hstep
    exact iff_of_true (loadable_onAcknowledge h id attempt now) trivial
  | onActionFailed id attempt note =>
    cases hstep
    exact loadable_onActionFailed h id attempt note
  | submitPostActionEvidence input =>
    cases hstep
    exact loadable_submitPostActionEvidence h input
  | load opts readable file => exact iff_of_true (loadable_load h hstep) trivial

/-- A step that is undefined writes nothing. -/
theorem keepsLimits_of_stuck {s : GovernorState} {op : Op} (h : step s op = none) :
    op.KeepsLimits s := by
  cases op with
  | authorize id cls now =>
    intro g hg
    change ((authorize id cls now s).map Prod.snd).toOption = none at h
    rw [authorize_of_granted hg] at h
    cases h
  | authorizeAndDispatch id cls now now' adapters =>
    intro g hg
    change ((authorizeAndDispatch id cls now now' adapters s).map Prod.snd).toOption = none at h
    rw [authorizeAndDispatch_of_granted hg] at h
    cases h
  | load => trivial
  | _ => cases h

theorem keepsLimits_iff {s : GovernorState} (h : Loadable s) (op : Op) :
    op.KeepsLimits s ↔ ∀ s', step s op = some s' → Loadable s' := by
  constructor
  · intro hroom s' hstep
    exact (loadable_step_iff h hstep).mpr hroom
  · intro hall
    cases hstep : step s op with
    | none => exact keepsLimits_of_stuck hstep
    | some s' => exact (loadable_step_iff h hstep).mp (hall s' hstep)

/-- A snapshot is loaded as the state it was saved from exactly when that state is
loadable. -/
theorem reloads_iff {s : GovernorState} :
    (∀ dest, loadFromBytes (saveToBytes s) dest = .ok (.good, s)) ↔ Loadable s :=
  ⟨fun h => loadable_of_load (h s), fun h => loadFromBytes_saveToBytes h⟩

/-- Every state of a run is loaded from its own snapshot exactly when each step has room in
the durable state for what it writes. -/
theorem reloads_throughout_iff (ops : List Op) :
    (∀ pre t, pre <+: ops → Runs.exec step {} pre = some t →
      ∀ dest, loadFromBytes (saveToBytes t) dest = .ok (.good, t)) ↔
      Runs.Guarded step (fun s op => op.KeepsLimits s) {} ops := by
  have hexact : ∀ s, Loadable s → ∀ op ∈ ops, op.KeepsLimits s ↔
      ∀ s', step s op = some s' → Loadable s' := fun s hs op _ => keepsLimits_iff hs op
  rw [← Runs.invariant_throughout_iff hexact loadable_empty]
  exact forall₄_congr fun _ _ _ _ => reloads_iff

/-! ## A snapshot that is lost -/

open Reader in
/-- A conflict with too many associated workloads. -/
theorem refuses_conflict {c : ContentionConflict} (haffected : ListFits (fun _ => True) c.affected)
    (hlong : kMaxCollectionLen < c.associated.length) (hsize : c.associated.length < 2 ^ 64) :
    Refuses deserializeConflict (serializeConflict c) := by
  have haffected := reads_list (fun w _ => reads_id w) haffected
  have hassociated : Refuses (R.list R.id : Reader Unit (List WorkloadId))
      (W.list W.wid c.associated) := refuses_long R.id hlong hsize _
  unfold deserializeConflict serializeConflict
  refine (reads_id _).field_refuses ((reads_id _).field_refuses (haffected.field_refuses ?_))
  exact hassociated.field _ _

open Reader in
/-- A map with a first value that is refused. -/
theorem refuses_mapOr {ε V : Type} {d : Domain} {badCount badId bad : ε} {read : Reader Unit V}
    {write : V → List UInt8} {m : OrderedMap (Id d) V} {k : Id d} {v : V}
    {entries : List (Id d × V)} (hm : m.entries = (k, v) :: entries)
    (hsize : m.size ≤ kMaxCollectionLen) (h : Refuses read (write v)) :
    Refuses (R.mapOr badCount badId bad read : Reader ε (OrderedMap (Id d) V))
      (W.map write m) := by
  have hentry : Refuses (do
      let key : Id d ← Reader.named badId R.id
      let v ← Reader.named bad read
      return (key, v)) (W.wid k ++ write v) := by
    refine ((reads_id k).named badId).bind_refuses ?_
    have hvalue := (h.named bad).bind (fun v => (return (k, v) : Reader ε (Id d × V))) []
    rwa [List.append_nil] at hvalue
  have hcount : entries.length + 1 ≤ kMaxCollectionLen := by
    rw [OrderedMap.size, hm] at hsize
    exact hsize
  have hlist := hentry.counted badCount hcount (by decide)
    (entries.flatMap fun e => W.wid e.1 ++ write e.2)
  unfold W.map W.list
  rw [hm, List.flatMap_cons, List.length_cons]
  have hall := hlist.bind (fun es => (return OrderedMap.insertAll .empty es :
    Reader ε (OrderedMap (Id d) V))) []
  rwa [List.append_nil] at hall

/-- What the payload reader refuses is not loaded. -/
theorem not_loaded_of_refuses {s : GovernorState}
    (h : Reader.Refuses deserializeState (serializeState s)) (dest out : GovernorState) :
    loadFromBytes (saveToBytes s) dest ≠ .ok (.good, out) := by
  intro hload
  rcases readSnapshot_cases (saveToBytes s) with ⟨payload, hframe, hlen⟩ | ⟨message, hbad⟩
  · have hlength := congrArg List.length hframe
    rw [saveToBytes, length_frame, length_frame] at hlength
    obtain ⟨e, he⟩ := h [] []
    rw [List.nil_append, List.append_nil, List.length_nil] at he
    obtain ⟨message, rfl⟩ := rejects_state _ _ _ he
    rw [loadFromBytes, saveToBytes, readSnapshot_frame (by omega), readPayload, he] at hload
    cases hload
  · rw [loadFromBytes, hbad] at hload
    cases hload

theorem refuses_state {s : GovernorState} {k : ConflictId} {c : ContentionConflict}
    {entries : List (ConflictId × ContentionConflict)} (hpolicy : PolicyFits 7 s.engine.policy)
    (hauthority : AuthorityFits s.engine.authority)
    (hconflicts : s.engine.conflicts.entries = (k, c) :: entries)
    (hsize : s.engine.conflicts.size ≤ kMaxCollectionLen)
    (h : Reader.Refuses deserializeConflict (serializeConflict c)) :
    Reader.Refuses deserializeState (serializeState s) := by
  have hpolicy := (reads_policy hpolicy).named (corrupt "bad policy")
  have hauthority := (reads_authority hauthority).named (corrupt "bad authority")
  unfold deserializeState serializeState
  refine hpolicy.field_refuses (hauthority.field_refuses ?_)
  exact (refuses_mapOr hconflicts hsize h).field _ _

/-- The slowdown with a list of neighbors of any length. -/
def crowdedBy (neighbors : List WorkloadId) : InterferenceEvidence :=
  { slowdown with neighbors := neighbors }

/-- Ingesting it makes a conflict that lists all of the neighbors. -/
theorem exec_crowdedBy (neighbors : List WorkloadId) :
    ∃ t c, Runs.exec step {} [.ingestEvidence (crowdedBy neighbors)] = some t ∧
      t.engine.policy = {} ∧ t.engine.authority = {} ∧
      t.engine.conflicts.entries = [(⟨1⟩, c)] ∧ c.affected = [⟨1⟩] ∧ c.associated = neighbors := by
  have hvalid : (validateEvidence (crowdedBy neighbors)).isOk := by
    -- No check reads the neighbors.
    rw [show validateEvidence (crowdedBy neighbors) = validateEvidence slowdown from rfl]
    decide +kernel
  obtain ⟨n, hstored⟩ := ingestEvidence_of_valid (s := {}) hvalid
  -- The empty state has no conflict to join, so this one is new.
  have hrun : Runs.exec step {} [.ingestEvidence (crowdedBy neighbors)] =
      some (ingestEvidence (crowdedBy neighbors) {}).2 := rfl
  let start : GovernorState := { nextEvidenceId := n }
  let e := storedEvidence {} (crowdedBy neighbors)
  refine ⟨_, progressConflict {} e (newConflict start e), hrun, ?_⟩
  rw [hstored]
  obtain ⟨_, _, hframe⟩ := progressConflict_frame {} e (newConflict start e)
  refine ⟨rfl, rfl, rfl, ?_, ?_⟩ <;> rw [hframe] <;> rfl

theorem snapshot_lost :
    ¬ ∀ ops t, Runs.exec step {} ops = some t →
      ∃ out, loadFromBytes (saveToBytes t) {} = .ok (.good, out) := by
  intro h
  obtain ⟨t, c, hrun, hpolicy, hauthority, hconflicts, haffected, hassociated⟩ :=
    exec_crowdedBy (List.replicate (kMaxCollectionLen + 1) ⟨2⟩)
  obtain ⟨out, hload⟩ := h _ t hrun
  have hlength : c.associated.length = kMaxCollectionLen + 1 := by
    rw [hassociated, List.length_replicate]
  have hfits : ListFits (fun _ => True) c.affected := by
    rw [haffected, ListFits.true_iff]
    exact (show 1 ≤ kMaxCollectionLen by decide)
  have hsize : c.associated.length < 2 ^ 64 := by
    rw [hlength]
    decide
  have hrefused := refuses_conflict hfits (by omega) hsize
  have hone : t.engine.conflicts.size ≤ kMaxCollectionLen := by
    rw [OrderedMap.size, hconflicts]
    exact (show 1 ≤ kMaxCollectionLen by decide)
  refine not_loaded_of_refuses (refuses_state ?_ ?_ hconflicts hone hrefused) {} out hload
  · rw [hpolicy]
    exact loadable_empty.fits.policy
  · rw [hauthority]
    exact loadable_empty.fits.authority

end ContentionGovernor
