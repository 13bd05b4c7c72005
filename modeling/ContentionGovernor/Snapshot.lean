import ContentionGovernor.Persistence

/-!
# Snapshot round trips

What a snapshot can hold, that the decoder reads every such state back from its
encoding, and that it returns no other state.
-/

namespace ContentionGovernor

open Reader

/-! ## What a snapshot can hold -/

def StringFits (s : ByteString) : Prop := s.bytes.length ≤ kMaxStringLen

def ListFits {α : Type} (P : α → Prop) (xs : List α) : Prop :=
  xs.length ≤ kMaxCollectionLen ∧ ∀ x ∈ xs, P x

def MapFits {K V : Type} [LinearOrder K] (P : V → Prop) (m : OrderedMap K V) : Prop :=
  ListFits (fun e => P e.2) m.entries

@[mk_iff]
structure PolicyFits (attributions : UInt8) (p : ContentionPolicy) : Prop where
  minAttributionForDisruptive : ByteEnum.raw p.minAttributionForDisruptive < attributions
  workloads : MapFits (fun _ => True) p.workloads

@[mk_iff]
structure AuthorityFits (a : AuthorityContext) : Prop where
  workloadGenerations : MapFits (fun _ => True) a.workloadGenerations
  workloadBoots : MapFits (fun _ => True) a.workloadBoots

@[mk_iff]
structure EvidenceFits (e : InterferenceEvidence) : Prop where
  neighbors : ListFits (fun _ => True) e.neighbors
  attribution : ByteEnum.raw e.attribution < 6
  unresolvedConfounders : ListFits StringFits e.unresolvedConfounders
  sourceId : StringFits e.sourceId
  sourceHealth : StringFits e.sourceHealth

@[mk_iff]
structure InterventionFits (codes : UInt8) (i : InterventionRecord) : Prop where
  adapter : StringFits i.adapter
  ackNote : StringFits i.ackNote
  code : ByteEnum.raw i.interimStatus.code < codes
  message : StringFits i.interimStatus.message
  trace : ListFits StringFits i.trace

@[mk_iff]
structure ConflictFits (c : ContentionConflict) : Prop where
  affected : ListFits (fun _ => True) c.affected
  associated : ListFits (fun _ => True) c.associated
  evidenceIds : ListFits (fun _ => True) c.evidenceIds
  unresolvedConfounders : ListFits StringFits c.unresolvedConfounders
  blockers : ListFits StringFits c.blockers
  candidateClasses : ListFits (fun _ => True) c.candidateClasses
  proposedIds : ListFits (fun _ => True) c.proposedIds
  selectedIds : ListFits (fun _ => True) c.selectedIds

/-- Every collection has at most `kMaxCollectionLen` elements, every string at most
`kMaxStringLen` bytes, and the bytes of the policy's attribution and of the status
codes are below the given limits.  The declared enumerators are those below 6 and
20; the loader's limits are 7 and 21. -/
@[mk_iff]
structure StateFits (attributions codes : UInt8) (s : GovernorState) : Prop where
  policy : PolicyFits attributions s.engine.policy
  authority : AuthorityFits s.engine.authority
  conflicts : MapFits ConflictFits s.engine.conflicts
  evidence : MapFits EvidenceFits s.engine.evidence
  interventions : MapFits (InterventionFits codes) s.engine.interventions
  fairness : MapFits (fun _ => True) s.engine.fairness

/-- The states that the loader accepts. -/
@[mk_iff]
structure Loadable (s : GovernorState) : Prop where
  fits : StateFits 7 21 s
  valid : (validatePolicy s.engine.policy).code = .ok

instance (s : ByteString) : Decidable (StringFits s) := inferInstanceAs (Decidable (_ ≤ _))

instance {α : Type} (P : α → Prop) [DecidablePred P] (xs : List α) : Decidable (ListFits P xs) :=
  inferInstanceAs (Decidable (_ ∧ ∀ x ∈ xs, P x))

instance {K V : Type} [LinearOrder K] (P : V → Prop) [DecidablePred P] (m : OrderedMap K V) :
    Decidable (MapFits P m) :=
  inferInstanceAs (Decidable (ListFits (fun e => P e.2) m.entries))

instance (n : UInt8) (p : ContentionPolicy) : Decidable (PolicyFits n p) :=
  decidable_of_iff _ (policyFits_iff n p).symm

instance (a : AuthorityContext) : Decidable (AuthorityFits a) :=
  decidable_of_iff _ (authorityFits_iff a).symm

instance (e : InterferenceEvidence) : Decidable (EvidenceFits e) :=
  decidable_of_iff _ (evidenceFits_iff e).symm

instance (n : UInt8) (i : InterventionRecord) : Decidable (InterventionFits n i) :=
  decidable_of_iff _ (interventionFits_iff n i).symm

instance (c : ContentionConflict) : Decidable (ConflictFits c) :=
  decidable_of_iff _ (conflictFits_iff c).symm

instance (m n : UInt8) (s : GovernorState) : Decidable (StateFits m n s) :=
  decidable_of_iff _ (stateFits_iff m n s).symm

instance (s : GovernorState) : Decidable (Loadable s) := decidable_of_iff _ (loadable_iff s).symm

theorem ListFits.mono {α : Type} {P Q : α → Prop} {xs : List α} (hPQ : ∀ x, P x → Q x)
    (h : ListFits P xs) : ListFits Q xs := ⟨h.1, fun x hx => hPQ x (h.2 x hx)⟩

theorem InterventionFits.mono {m n : UInt8} (hmn : m ≤ n) {i : InterventionRecord}
    (h : InterventionFits m i) : InterventionFits n i :=
  { h with code := UInt8.lt_of_lt_of_le h.code hmn }

theorem StateFits.mono {a c : UInt8} {s : GovernorState} (h : StateFits a c s) (ha : a ≤ 7)
    (hc : c ≤ 21) : StateFits 7 21 s :=
  { h with
    policy := { h.policy with
      minAttributionForDisruptive :=
        UInt8.lt_of_lt_of_le h.policy.minAttributionForDisruptive ha }
    interventions := h.interventions.mono fun _ => InterventionFits.mono hc }

/-! ## Reading back what was written -/

theorem reads_u64 (v : UInt64) : Reads R.u64 (W.u64 v) v := Reads.u64 () v

theorem reads_u32 (v : UInt32) : Reads R.u32 (W.u32 v) v := Reads.u32 () v

theorem reads_f64 (v : Double) : Reads R.f64 (W.f64 v) v := (reads_u64 v.bits).map

theorem reads_id {d : Domain} (i : Id d) : Reads R.id (W.wid i) i := (reads_u64 i.value).map

theorem reads_flag (b : Bool) : Reads R.flag (W.flag b) b := by
  have h := (Reads.u8 () (if b then 1 else 0)).map (f := fun raw => raw != 0)
  cases b <;> exact h

theorem reads_enum {α : Type} [ByteEnum α] {count : UInt8} {a : α}
    (h : ByteEnum.raw a < count) : Reads (R.enum count) (W.enum a) a := by
  refine (Reads.u8 () (ByteEnum.raw a)).bind ?_
  rw [if_neg (UInt8.not_le.mpr h), ByteEnum.ofRaw_raw]
  exact Reads.pure a

theorem reads_str {s : ByteString} (h : StringFits s) : Reads R.str (W.str s) s := by
  have hlt : s.bytes.length < 2 ^ 64 := Nat.lt_of_le_of_lt h (by decide)
  have hn : (UInt64.ofNat s.bytes.length).toNat = s.bytes.length := UInt64.toNat_ofNat_of_lt' hlt
  refine (Reads.length () hlt).bind ?_
  rw [hn, if_neg (Nat.not_lt.mpr h)]
  exact (Reads.bytes () s.bytes).map

theorem reads_list {α : Type} {read : Reader Unit α} {write : α → List UInt8} {P : α → Prop}
    {xs : List α} (h : ∀ x, P x → Reads read (write x) x) (hxs : ListFits P xs) :
    Reads (R.list read) (W.list write xs) xs :=
  Reads.counted (fun x hx => h x (hxs.2 x hx)) hxs.1 (by decide)

theorem reads_mapOr {ε V : Type} {d : Domain} {badCount badId bad : ε} {read : Reader Unit V}
    {write : V → List UInt8} {P : V → Prop} {m : OrderedMap (Id d) V}
    (h : ∀ v, P v → Reads read (write v) v) (hm : MapFits P m) :
    Reads (R.mapOr badCount badId bad read) (W.map write m) m := by
  have hentry : ∀ e ∈ m.entries, Reads (do
      let key ← Reader.named badId R.id
      let v ← Reader.named bad read
      return (key, v)) (W.wid e.1 ++ write e.2) e := by
    intro e he
    have hv := (h e.2 (hm.2 e he)).named bad
    exact ((reads_id e.1).named badId).bind (hv.map (f := fun v => (e.1, v)))
  have hlist : Reads (Reader.counted badCount kMaxCollectionLen _) _ m.entries :=
    Reads.counted hentry hm.1 (by decide)
  have hmap := hlist.map (f := OrderedMap.insertAll .empty)
  rwa [OrderedMap.insertAll_entries] at hmap

theorem reads_map {V : Type} {d : Domain} {read : Reader Unit V} {write : V → List UInt8}
    {P : V → Prop} {m : OrderedMap (Id d) V} (h : ∀ v, P v → Reads read (write v) v)
    (hm : MapFits P m) : Reads (R.map read) (W.map write m) m := reads_mapOr h hm

theorem reads_softSloTarget (d : Option Double) : Reads deserializeSoftSloTarget
    (match d with | some d => W.flag true ++ W.f64 d | none => W.flag false) d := by
  cases d with
  | none => exact (reads_flag false).bind (Reads.pure none)
  | some d => exact (reads_flag true).bind ((reads_f64 d).map (f := some))

theorem reads_workload (wp : WorkloadPolicy) :
    Reads deserializeWorkload (serializeWorkload wp) wp := by
  unfold deserializeWorkload serializeWorkload
  refine (reads_id _).field ((reads_id _).field ((reads_flag _).field ((reads_flag _).field ?_)))
  refine (reads_f64 _).field ((reads_u32 _).field ((reads_f64 _).field ?_))
  refine (reads_softSloTarget _).field ?_
  iterate 6 refine (reads_f64 _).field ?_
  refine (reads_u32 _).field ?_
  iterate 8 refine (reads_flag _).field ?_
  exact Reads.finish _

theorem reads_budget (b : ActionBudget) : Reads deserializeBudget (serializeBudget b) b := by
  unfold deserializeBudget serializeBudget
  apply_rules [reads_id, reads_u64, Reads.finish, Reads.field]

theorem reads_policy {p : ContentionPolicy} (h : PolicyFits 7 p) :
    Reads deserializePolicy (serializePolicy p) p := by
  have hattribution := reads_enum h.minAttributionForDisruptive
  have hworkloads := reads_map (fun wp _ => reads_workload wp) h.workloads
  unfold deserializePolicy serializePolicy
  refine (reads_id _).field ((reads_id _).field ((reads_f64 _).field ((reads_f64 _).field ?_)))
  refine (reads_u64 _).field (hattribution.field ?_)
  iterate 3 refine (reads_f64 _).field ?_
  refine (reads_u32 _).field ((reads_f64 _).field ((reads_u64 _).field ?_))
  refine (reads_budget _).field (hworkloads.field ?_)
  iterate 7 refine (reads_flag _).field ?_
  exact Reads.finish _

theorem reads_authority {a : AuthorityContext} (h : AuthorityFits a) :
    Reads deserializeAuthority (serializeAuthority a) a := by
  have hgenerations := reads_map (fun g _ => reads_id g) h.workloadGenerations
  have hboots := reads_map (fun b _ => reads_id b) h.workloadBoots
  unfold deserializeAuthority serializeAuthority
  apply_rules [reads_id, Reads.finish, Reads.field]

theorem reads_fence (f : Fence) : Reads deserializeFence (serializeFence f) f := by
  unfold deserializeFence serializeFence
  apply_rules [reads_id, Reads.finish, Reads.field]

theorem reads_evidence {e : InterferenceEvidence} (h : EvidenceFits e) :
    Reads deserializeEvidence (serializeEvidence e) e := by
  have hneighbors := reads_list (fun w _ => reads_id w) h.neighbors
  have hdomain : ByteEnum.raw e.domain < 14 := by cases e.domain <;> decide
  have hmetric : ByteEnum.raw e.metric < 2 := by cases e.metric <;> decide
  have hattribution := reads_enum h.attribution
  have hconfounders := reads_list (fun _ => reads_str) h.unresolvedConfounders
  have hstatus : ByteEnum.raw e.status < 8 := by cases e.status <;> decide
  have hlabel : ByteEnum.raw e.label < 6 := by cases e.label <;> decide
  have hsourceId := reads_str h.sourceId
  have hsourceHealth := reads_str h.sourceHealth
  unfold deserializeEvidence serializeEvidence
  refine (reads_id _).field ((reads_id _).field ((reads_id _).field (hneighbors.field ?_)))
  refine (reads_enum hdomain).field ((reads_enum hmetric).field ?_)
  iterate 4 refine (reads_f64 _).field ?_
  refine hattribution.field ((reads_f64 _).field ((reads_u64 _).field ?_))
  refine hconfounders.field ((reads_enum hstatus).field ?_)
  refine (reads_u64 _).field ((reads_u64 _).field ((reads_enum hlabel).field ?_))
  refine hsourceId.field (hsourceHealth.field ?_)
  iterate 7 refine (reads_id _).field ?_
  refine (reads_u64 _).field ((reads_u64 _).field ?_)
  exact Reads.finish _

theorem reads_intervention {i : InterventionRecord} (h : InterventionFits 21 i) :
    Reads deserializeIntervention (serializeIntervention i) i := by
  have hcls : ByteEnum.raw i.cls < 21 := by cases i.cls <;> decide
  have hstate : ByteEnum.raw i.state < 12 := by cases i.state <;> decide
  have hadapter := reads_str h.adapter
  have hackNote := reads_str h.ackNote
  have hcode := h.code
  have hmessage := reads_str h.message
  have hresult : ByteEnum.raw i.result < 9 := by cases i.result <;> decide
  have htrace := reads_list (fun _ => reads_str) h.trace
  unfold deserializeIntervention serializeIntervention
  refine (reads_id _).field ((reads_id _).field ((reads_enum hcls).field ?_))
  refine (reads_id _).field ((reads_id _).field ((reads_enum hstate).field ?_))
  refine (reads_fence _).field (hadapter.field ?_)
  iterate 4 refine (reads_u64 _).field ?_
  refine (reads_id _).field ((reads_id _).field (hackNote.field ((reads_enum hcode).field ?_)))
  refine hmessage.field ((reads_enum hresult).field (htrace.field ((reads_flag _).field ?_)))
  exact Reads.finish _

theorem reads_conflict {c : ContentionConflict} (h : ConflictFits c) :
    Reads deserializeConflict (serializeConflict c) c := by
  have haffected := reads_list (fun w _ => reads_id w) h.affected
  have hassociated := reads_list (fun w _ => reads_id w) h.associated
  have hdomain : ByteEnum.raw c.domain < 14 := by cases c.domain <;> decide
  have hbinding : ByteEnum.raw c.binding < 12 := by cases c.binding <;> decide
  have hseverity : ByteEnum.raw c.severity < 6 := by cases c.severity <;> decide
  have hevidenceIds := reads_list (fun i _ => reads_id i) h.evidenceIds
  have hstate : ByteEnum.raw c.state < 13 := by cases c.state <;> decide
  have hconfounders := reads_list (fun _ => reads_str) h.unresolvedConfounders
  have hblockers := reads_list (fun _ => reads_str) h.blockers
  have hcls : ∀ a : InterventionClass, ByteEnum.raw a < 21 := by intro a; cases a <;> decide
  have hclasses := reads_list (fun a _ => reads_enum (hcls a)) h.candidateClasses
  have hproposedIds := reads_list (fun i _ => reads_id i) h.proposedIds
  have hselectedIds := reads_list (fun i _ => reads_id i) h.selectedIds
  unfold deserializeConflict serializeConflict
  refine (reads_id _).field ((reads_id _).field (haffected.field (hassociated.field ?_)))
  refine (reads_enum hdomain).field ((reads_f64 _).field ((reads_f64 _).field ?_))
  refine (reads_f64 _).field ((reads_enum hbinding).field ((reads_enum hseverity).field ?_))
  refine hevidenceIds.field ((reads_enum hstate).field ?_)
  iterate 3 refine (reads_u64 _).field ?_
  refine hconfounders.field (hblockers.field (hclasses.field ?_))
  refine hproposedIds.field (hselectedIds.field ?_)
  iterate 8 refine (reads_id _).field ?_
  refine (reads_flag _).field ((reads_u64 _).field ((reads_flag _).field ?_))
  exact Reads.finish _

theorem reads_fairness (f : FairnessRecord) :
    Reads deserializeFairness (serializeFairness f) f := by
  unfold deserializeFairness serializeFairness
  apply_rules [reads_id, reads_u64, reads_u32, reads_f64, Reads.finish, Reads.field]

theorem reads_state {s : GovernorState} (h : StateFits 7 21 s) :
    Reads deserializeState (serializeState s) s := by
  have hpolicy := (reads_policy h.policy).named (corrupt "bad policy")
  have hauthority := (reads_authority h.authority).named (corrupt "bad authority")
  unfold deserializeState serializeState
  refine hpolicy.field (hauthority.field ?_)
  refine (reads_mapOr (fun _ => reads_conflict) h.conflicts).field ?_
  refine (reads_mapOr (fun _ => reads_evidence) h.evidence).field ?_
  refine (reads_mapOr (fun _ => reads_intervention) h.interventions).field ?_
  refine (reads_mapOr (fun f _ => reads_fairness f) h.fairness).field ?_
  apply_rules [Reads.u64, Reads.finish, Reads.field]

/-! ## What an accepted payload yields -/

theorem accepts_u64 : Accepts R.u64 fun _ => True := Accepts.u64 ()

theorem accepts_u32 : Accepts R.u32 fun _ => True := Accepts.u32 ()

theorem accepts_f64 : Accepts R.f64 fun _ => True :=
  accepts_u64.bind fun _ _ => Accepts.pure trivial

theorem accepts_id {d : Domain} : Accepts (R.id : Reader Unit (Id d)) fun _ => True :=
  accepts_u64.bind fun _ _ => Accepts.pure trivial

theorem accepts_flag : Accepts R.flag fun _ => True :=
  (Accepts.u8 ()).bind fun _ _ => Accepts.pure trivial

theorem accepts_enum {α : Type} [ByteEnum α] (count : UInt8) :
    Accepts (R.enum count : Reader Unit α) fun a => ByteEnum.raw a < count := by
  refine (Accepts.u8 ()).bind fun n _ => Accepts.ite (fun _ => Accepts.reject _ _) fun hn => ?_
  cases ha : (ByteEnum.ofRaw n : Option α) with
  | none => exact Accepts.reject _ _
  | some a =>
    refine Accepts.pure ?_
    rw [ByteEnum.raw_ofRaw n a ha]
    exact UInt8.not_le.mp hn

theorem accepts_str : Accepts R.str StringFits := by
  refine accepts_u64.bind fun n _ => Accepts.ite (fun _ => Accepts.reject _ _) fun hn => ?_
  refine (Accepts.bytes () n.toNat).bind fun bs hbs => Accepts.pure ?_
  rw [StringFits, hbs]
  exact Nat.le_of_not_lt hn

theorem accepts_list {α : Type} {read : Reader Unit α} {P : α → Prop} (h : Accepts read P) :
    Accepts (R.list read) (ListFits P) := h.counted () kMaxCollectionLen

theorem accepts_mapOr {ε V : Type} {d : Domain} {badCount badId bad : ε} {read : Reader Unit V}
    {P : V → Prop} (h : Accepts read P) :
    Accepts (R.mapOr badCount badId bad read : Reader ε (OrderedMap (Id d) V)) (MapFits P) := by
  have hentry : Accepts (do
      let key : Id d ← Reader.named badId R.id
      let v ← Reader.named bad read
      return (key, v)) fun e => P e.2 :=
    (accepts_id.named badId).bind fun _ _ => (h.named bad).bind fun _ hv => Accepts.pure hv
  refine (hentry.counted badCount kMaxCollectionLen).bind fun es hes => Accepts.pure ⟨?_, ?_⟩
  · have hsize := OrderedMap.size_insertAll_le (OrderedMap.empty : OrderedMap (Id d) V) es
    have hempty : (OrderedMap.empty : OrderedMap (Id d) V).size = 0 := rfl
    exact hsize.trans (by omega)
  · intro e he
    rcases OrderedMap.mem_insertAll he with he | he
    · cases he
    · exact hes.2 e he

theorem accepts_map {V : Type} {d : Domain} {read : Reader Unit V} {P : V → Prop}
    (h : Accepts read P) :
    Accepts (R.map read : Reader Unit (OrderedMap (Id d) V)) (MapFits P) := accepts_mapOr h

theorem accepts_softSloTarget : Accepts deserializeSoftSloTarget fun _ => True :=
  accepts_flag.bind fun _ _ => Accepts.ite
    (fun _ => accepts_f64.bind fun _ _ => Accepts.pure trivial) fun _ => Accepts.pure trivial

theorem accepts_workload : Accepts deserializeWorkload fun _ => True := by
  unfold deserializeWorkload
  iterate 2 refine accepts_id.bind fun _ _ => ?_
  iterate 2 refine accepts_flag.bind fun _ _ => ?_
  refine accepts_f64.bind fun _ _ => accepts_u32.bind fun _ _ => accepts_f64.bind fun _ _ => ?_
  refine accepts_softSloTarget.bind fun _ _ => ?_
  iterate 6 refine accepts_f64.bind fun _ _ => ?_
  refine accepts_u32.bind fun _ _ => ?_
  iterate 8 refine accepts_flag.bind fun _ _ => ?_
  exact Accepts.pure trivial

theorem accepts_budget : Accepts deserializeBudget fun _ => True := by
  unfold deserializeBudget
  refine accepts_id.bind fun _ _ => ?_
  iterate 14 refine accepts_u64.bind fun _ _ => ?_
  exact Accepts.pure trivial

theorem accepts_policy : Accepts deserializePolicy (PolicyFits 7) := by
  unfold deserializePolicy
  iterate 2 refine accepts_id.bind fun _ _ => ?_
  iterate 2 refine accepts_f64.bind fun _ _ => ?_
  refine accepts_u64.bind fun _ _ => ?_
  refine (accepts_enum 7).bind fun _ hattribution => ?_
  iterate 3 refine accepts_f64.bind fun _ _ => ?_
  refine accepts_u32.bind fun _ _ => accepts_f64.bind fun _ _ => accepts_u64.bind fun _ _ => ?_
  refine accepts_budget.bind fun _ _ => ?_
  refine (accepts_map accepts_workload).bind fun _ hworkloads => ?_
  iterate 7 refine accepts_flag.bind fun _ _ => ?_
  exact Accepts.pure ⟨hattribution, hworkloads⟩

theorem accepts_authority : Accepts deserializeAuthority AuthorityFits := by
  unfold deserializeAuthority
  iterate 9 refine accepts_id.bind fun _ _ => ?_
  refine (accepts_map accepts_id).bind fun _ hgenerations => ?_
  refine (accepts_map accepts_id).bind fun _ hboots => ?_
  exact Accepts.pure ⟨hgenerations, hboots⟩

theorem accepts_fence : Accepts deserializeFence fun _ => True := by
  unfold deserializeFence
  iterate 14 refine accepts_id.bind fun _ _ => ?_
  exact Accepts.pure trivial

theorem accepts_evidence : Accepts deserializeEvidence EvidenceFits := by
  unfold deserializeEvidence
  iterate 3 refine accepts_id.bind fun _ _ => ?_
  refine (accepts_list accepts_id).bind fun _ hneighbors => ?_
  refine (accepts_enum 14).bind fun _ _ => (accepts_enum 2).bind fun _ _ => ?_
  iterate 4 refine accepts_f64.bind fun _ _ => ?_
  refine (accepts_enum 6).bind fun _ hattribution => ?_
  refine accepts_f64.bind fun _ _ => accepts_u64.bind fun _ _ => ?_
  refine (accepts_list accepts_str).bind fun _ hconfounders => ?_
  refine (accepts_enum 8).bind fun _ _ => ?_
  iterate 2 refine accepts_u64.bind fun _ _ => ?_
  refine (accepts_enum 6).bind fun _ _ => ?_
  refine accepts_str.bind fun _ hsourceId => accepts_str.bind fun _ hsourceHealth => ?_
  iterate 7 refine accepts_id.bind fun _ _ => ?_
  iterate 2 refine accepts_u64.bind fun _ _ => ?_
  exact Accepts.pure ⟨hneighbors, hattribution, hconfounders, hsourceId, hsourceHealth⟩

theorem accepts_intervention : Accepts deserializeIntervention (InterventionFits 21) := by
  unfold deserializeIntervention
  iterate 2 refine accepts_id.bind fun _ _ => ?_
  refine (accepts_enum 21).bind fun _ _ => ?_
  iterate 2 refine accepts_id.bind fun _ _ => ?_
  refine (accepts_enum 12).bind fun _ _ => accepts_fence.bind fun _ _ => ?_
  refine accepts_str.bind fun _ hadapter => ?_
  iterate 4 refine accepts_u64.bind fun _ _ => ?_
  iterate 2 refine accepts_id.bind fun _ _ => ?_
  refine accepts_str.bind fun _ hackNote => (accepts_enum 21).bind fun _ hcode => ?_
  refine accepts_str.bind fun _ hmessage => (accepts_enum 9).bind fun _ _ => ?_
  refine (accepts_list accepts_str).bind fun _ htrace => accepts_flag.bind fun _ _ => ?_
  exact Accepts.pure ⟨hadapter, hackNote, hcode, hmessage, htrace⟩

theorem accepts_conflict : Accepts deserializeConflict ConflictFits := by
  unfold deserializeConflict
  iterate 2 refine accepts_id.bind fun _ _ => ?_
  refine (accepts_list accepts_id).bind fun _ haffected => ?_
  refine (accepts_list accepts_id).bind fun _ hassociated => ?_
  refine (accepts_enum 14).bind fun _ _ => ?_
  iterate 3 refine accepts_f64.bind fun _ _ => ?_
  refine (accepts_enum 12).bind fun _ _ => (accepts_enum 6).bind fun _ _ => ?_
  refine (accepts_list accepts_id).bind fun _ hevidenceIds => ?_
  refine (accepts_enum 13).bind fun _ _ => ?_
  iterate 3 refine accepts_u64.bind fun _ _ => ?_
  refine (accepts_list accepts_str).bind fun _ hconfounders => ?_
  refine (accepts_list accepts_str).bind fun _ hblockers => ?_
  refine (accepts_list (accepts_enum 21)).bind fun _ hclasses => ?_
  refine (accepts_list accepts_id).bind fun _ hproposedIds => ?_
  refine (accepts_list accepts_id).bind fun _ hselectedIds => ?_
  iterate 8 refine accepts_id.bind fun _ _ => ?_
  refine accepts_flag.bind fun _ _ => accepts_u64.bind fun _ _ => accepts_flag.bind fun _ _ => ?_
  exact Accepts.pure ⟨haffected, hassociated, hevidenceIds, hconfounders, hblockers,
    hclasses.mono fun _ _ => trivial, hproposedIds, hselectedIds⟩

theorem accepts_fairness : Accepts deserializeFairness fun _ => True := by
  unfold deserializeFairness
  refine accepts_id.bind fun _ _ => accepts_u64.bind fun _ _ => accepts_u32.bind fun _ _ => ?_
  refine accepts_f64.bind fun _ _ => accepts_u64.bind fun _ _ => Accepts.pure trivial

theorem accepts_state : Accepts deserializeState (StateFits 7 21) := by
  unfold deserializeState
  refine (accepts_policy.named _).bind fun _ hpolicy => ?_
  refine (accepts_authority.named _).bind fun _ hauthority => ?_
  refine (accepts_mapOr accepts_conflict).bind fun _ hconflicts => ?_
  refine (accepts_mapOr accepts_evidence).bind fun _ hevidence => ?_
  refine (accepts_mapOr accepts_intervention).bind fun _ hinterventions => ?_
  refine (accepts_mapOr accepts_fairness).bind fun _ hfairness => ?_
  iterate 7 refine (Accepts.u64 _).bind fun _ _ => ?_
  exact Accepts.pure ⟨hpolicy, hauthority, hconflicts, hevidence, hinterventions, hfairness⟩

end ContentionGovernor
