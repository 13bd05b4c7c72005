import ContentionGovernor.Lib.ReaderTracking
import ContentionGovernor.SnapshotRoundTrip

/-!
# Enumerations in loaded states

Each enumeration of a snapshot is read as a byte below a bound that is written down at the
field.  Two of the bounds are one more than the number of enumerators.
-/

namespace ContentionGovernor

open Reader

/-! ## Declared enumerators -/

/-- The number of enumerators of an enumeration, numbered from 0. -/
class Enumerated (α : Type) [ByteEnum α] where
  count : UInt8
  covers : ∀ n < count.toNat, (ByteEnum.ofRaw (UInt8.ofNat n) : Option α).isSome

instance : Enumerated ResourceDomain := ⟨14, by decide⟩
instance : Enumerated ConflictState := ⟨13, by decide⟩
instance : Enumerated EvidenceStatus := ⟨8, by decide⟩
instance : Enumerated AttributionStrength := ⟨6, by decide⟩
instance : Enumerated BindingObjective := ⟨12, by decide⟩
instance : Enumerated InterventionClass := ⟨21, by decide⟩
instance : Enumerated LifecycleState := ⟨12, by decide⟩
instance : Enumerated VerificationOutcome := ⟨9, by decide⟩
instance : Enumerated EvidenceLabel := ⟨6, by decide⟩
instance : Enumerated Severity := ⟨6, by decide⟩
instance : Enumerated MetricDirection := ⟨2, by decide⟩
instance : Enumerated StatusCode := ⟨20, by decide⟩

def Declared {α : Type} [ByteEnum α] [Enumerated α] (a : α) : Prop :=
  ByteEnum.raw a < Enumerated.count α

instance {α : Type} [ByteEnum α] [Enumerated α] (a : α) : Decidable (Declared a) :=
  inferInstanceAs (Decidable (_ < _))

/-- A field is accepted where its byte is below the bound and stands for a value. -/
theorem enum_ok {α : Type} [ByteEnum α] {bound : UInt8} {d : List UInt8} {p q : ℕ} {a : α} :
    R.enum bound d p = .ok (a, q) ↔
      ∃ b, R.u8 d p = .ok (b, q) ∧ b < bound ∧ ByteEnum.ofRaw b = some a := by
  rw [R.enum, bind_ok]
  constructor
  · rintro ⟨b, t, hb, h⟩
    split_ifs at h with hle
    · cases h
    cases hraw : (ByteEnum.ofRaw b : Option α) with
    | none =>
      rw [hraw] at h
      cases h
    | some a' =>
      rw [hraw] at h
      cases h
      exact ⟨b, hb, UInt8.not_le.mp hle, hraw⟩
  · rintro ⟨b, hb, hlt, hraw⟩
    refine ⟨b, q, hb, ?_⟩
    rw [if_neg (UInt8.not_le.mpr hlt), hraw]
    rfl

/-- With the number of enumerators as the bound, no byte of an enumerator is rejected. -/
theorem enum_accepts_iff {α : Type} [ByteEnum α] [Enumerated α] {d : List UInt8} {p q : ℕ} :
    (∃ a : α, R.enum (Enumerated.count α) d p = .ok (a, q)) ↔
      ∃ b, R.u8 d p = .ok (b, q) ∧ b < Enumerated.count α := by
  simp only [enum_ok]
  constructor
  · rintro ⟨a, b, hb, hlt, -⟩
    exact ⟨b, hb, hlt⟩
  · rintro ⟨b, hb, hlt⟩
    have hcovers : (ByteEnum.ofRaw (UInt8.ofNat b.toNat) : Option α).isSome :=
      Enumerated.covers b.toNat (UInt8.lt_iff_toNat_lt.mp hlt)
    rw [UInt8.ofNat_toNat] at hcovers
    obtain ⟨a, ha⟩ := Option.isSome_iff_exists.mp hcovers
    exact ⟨a, b, hb, hlt, ha⟩

structure EvidenceTyped (e : InterferenceEvidence) : Prop where
  domain : Declared e.domain
  metric : Declared e.metric
  attribution : Declared e.attribution
  status : Declared e.status
  label : Declared e.label

structure ConflictTyped (c : ContentionConflict) : Prop where
  domain : Declared c.domain
  binding : Declared c.binding
  severity : Declared c.severity
  state : Declared c.state
  candidateClasses : ∀ a ∈ c.candidateClasses, Declared a

structure InterventionTyped (i : InterventionRecord) : Prop where
  cls : Declared i.cls
  state : Declared i.state
  code : Declared i.interimStatus.code
  result : Declared i.result

/-- Every enumeration in the state holds one of its enumerators. -/
structure WellTyped (s : GovernorState) : Prop where
  policy : Declared s.engine.policy.minAttributionForDisruptive
  evidence : ∀ id e, s.engine.evidence.find id = some e → EvidenceTyped e
  conflicts : ∀ id c, s.engine.conflicts.find id = some c → ConflictTyped c
  interventions : ∀ id i, s.engine.interventions.find id = some i → InterventionTyped i

theorem evidenceTyped {e : InterferenceEvidence} (h : EvidenceFits e) : EvidenceTyped e where
  domain := by cases e.domain <;> decide
  metric := by cases e.metric <;> decide
  attribution := h.attribution
  status := by cases e.status <;> decide
  label := by cases e.label <;> decide

theorem conflictTyped (c : ContentionConflict) : ConflictTyped c where
  domain := by cases c.domain <;> decide
  binding := by cases c.binding <;> decide
  severity := by cases c.severity <;> decide
  state := by cases c.state <;> decide
  candidateClasses := by
    intro a _
    cases a <;> decide

theorem interventionTyped_iff (i : InterventionRecord) :
    InterventionTyped i ↔ Declared i.interimStatus.code := by
  refine ⟨InterventionTyped.code, fun h => ⟨?_, ?_, h, ?_⟩⟩
  · cases i.cls <;> decide
  · cases i.state <;> decide
  · cases i.result <;> decide

/-- The two bounds that are too large are the only ones to be checked. -/
theorem wellTyped_iff {s : GovernorState} (h : Loadable s) :
    WellTyped s ↔ Declared s.engine.policy.minAttributionForDisruptive ∧
      ∀ id i, s.engine.interventions.find id = some i → Declared i.interimStatus.code := by
  constructor
  · exact fun ht => ⟨ht.policy, fun id i hi => (ht.interventions id i hi).code⟩
  · rintro ⟨hpolicy, hcodes⟩
    refine ⟨hpolicy, ?_, fun _ c _ => conflictTyped c, ?_⟩
    · exact fun id e he => evidenceTyped (h.fits.evidence.2 (id, e) (OrderedMap.mem_entries.mpr he))
    · exact fun id i hi => (interventionTyped_iff i).mpr (hcodes id i hi)

/-! ## The bytes behind the two bounds -/

/-- An intervention, of which only the byte of the status code is kept. -/
def interimCode : Reader Unit UInt8 := do
  let _id : InterventionId ← R.id
  let _generation : InterventionGeneration ← R.id
  let _cls : InterventionClass ← R.enum 21
  let _conflictId : ConflictId ← R.id
  let _target : WorkloadId ← R.id
  let _state : LifecycleState ← R.enum 12
  let _fence ← deserializeFence
  let _adapter ← R.str
  let _authorizedAt ← R.u64
  let _dispatchedAt ← R.u64
  let _acknowledgedAt ← R.u64
  let _completedAt ← R.u64
  let _dispatchId : DispatchId ← R.id
  let _attemptId : AttemptId ← R.id
  let _ackNote ← R.str
  let code ← R.u8
  let _message ← R.str
  let _result : VerificationOutcome ← R.enum 9
  let _trace ← R.list R.str
  let _verificationReported ← R.flag
  return code

theorem tracks_enum {α : Type} [ByteEnum α] (bound : UInt8) :
    Tracks (R.enum bound : Reader Unit α) R.u8 fun a b => ByteEnum.raw a = b := by
  intro d p a q h
  obtain ⟨b, hb, -, hraw⟩ := enum_ok.mp h
  exact ⟨b, hb, ByteEnum.raw_ofRaw b a hraw⟩

theorem tracks_interimCode :
    Tracks deserializeIntervention interimCode fun i b => ByteEnum.raw i.interimStatus.code = b := by
  unfold deserializeIntervention interimCode
  iterate 15 refine Tracks.same fun _ => ?_
  refine (tracks_enum 21).bind fun _ _ hcode => ?_
  iterate 4 refine Tracks.same fun _ => ?_
  exact Tracks.pure hcode

theorem tracks_mapOr {ε V V' : Type} {d : Domain} {badCount badId bad : ε} {read : Reader Unit V}
    {read' : Reader Unit V'} {P : V → V' → Prop} (h : Tracks read read' P) :
    Tracks (R.mapOr badCount badId bad read : Reader ε (OrderedMap (Id d) V))
      (R.mapOr badCount badId bad read')
      fun m n => ∀ k, Option.Rel P (m.find k) (n.find k) := by
  have hentry : Tracks (do
      let key : Id d ← Reader.named badId R.id
      let v ← Reader.named bad read
      return (key, v)) (do
      let key : Id d ← Reader.named badId R.id
      let v ← Reader.named bad read'
      return (key, v)) fun a b => a.1 = b.1 ∧ P a.2 b.2 :=
    Tracks.same fun _ => (h.named bad bad).bind fun _ _ hv => Tracks.pure ⟨rfl, hv⟩
  refine (hentry.counted badCount kMaxCollectionLen).bind fun _ _ hes => Tracks.pure ?_
  exact fun k => OrderedMap.insertAll_rel hes (fun _ => .none) k

/-- The bytes of the status codes in the intervention section of a payload. -/
def interimCodes : Reader Status (OrderedMap InterventionId UInt8) := do
  let _policy ← Reader.named (corrupt "bad policy") deserializePolicy
  let _authority ← Reader.named (corrupt "bad authority") deserializeAuthority
  let _conflicts : OrderedMap ConflictId ContentionConflict ←
    R.mapOr (corrupt "bad conflict count") (corrupt "bad conflict id")
      (corrupt "bad conflict") deserializeConflict
  let _evidence : OrderedMap InterferenceEvidenceId InterferenceEvidence ←
    R.mapOr (corrupt "bad evidence count") (corrupt "bad evidence id")
      (corrupt "bad evidence") deserializeEvidence
  R.mapOr (corrupt "bad intervention count") (corrupt "bad intervention id")
    (corrupt "bad intervention") interimCode

/-- What stands between header and checksum. -/
def payloadOf (data : List UInt8) : List UInt8 :=
  (data.drop payloadOff).take (data.length - (payloadOff + kCrcLen))

theorem payloadOf_frame (payload : List UInt8) : payloadOf (frame payload) = payload := by
  rw [payloadOf, length_frame, frame_eq, List.drop_left' (length_header _)]
  exact List.take_left' rfl

/-- Behind two ids, two fractions and a counter. -/
def attributionOff : ℕ := 40

/-- The byte of the policy's attribution is not 6, and no status code that is kept is 20:
the bytes between the number of enumerators and the bound. -/
structure DeclaredBytes (data : List UInt8) : Prop where
  attribution : (payloadOf data)[attributionOff]? ≠ some 6
  codes : ∀ codes p, interimCodes (payloadOf data) 0 = .ok (codes, p) →
    ∀ id, codes.find id ≠ some 20

theorem word_next {α : Type} {f : UInt64 → α} {d : List UInt8} {p q : ℕ} {a : α}
    (h : (R.u64 >>= fun u => (return f u : Reader Unit α)) d p = .ok (a, q)) : q = p + 8 := by
  obtain ⟨u, t, hu, h⟩ := bind_ok.mp h
  cases h
  exact u64_next hu

theorem deserializePolicy_byte {d : List UInt8} {policy : ContentionPolicy} {q : ℕ}
    (h : deserializePolicy d 0 = .ok (policy, q)) :
    d[attributionOff]? = some (ByteEnum.raw policy.minAttributionForDisruptive) := by
  unfold deserializePolicy at h
  obtain ⟨_, p₁, h₁, h⟩ := bind_ok.mp h
  obtain ⟨_, p₂, h₂, h⟩ := bind_ok.mp h
  obtain ⟨_, p₃, h₃, h⟩ := bind_ok.mp h
  obtain ⟨_, p₄, h₄, h⟩ := bind_ok.mp h
  obtain ⟨_, p₅, h₅, h⟩ := bind_ok.mp h
  obtain ⟨attribution, p₆, hattribution, h⟩ := bind_ok.mp h
  iterate 15 obtain ⟨_, _, -, h⟩ := bind_ok.mp h
  cases h
  have hoff : p₅ = attributionOff := by
    rw [u64_next h₅, word_next h₄, word_next h₃, word_next h₂, word_next h₁]
    rfl
  obtain ⟨b, hb, -, hraw⟩ := enum_ok.mp hattribution
  rw [hoff] at hb
  rw [(u8_ok.mp hb).1, ← ByteEnum.raw_ofRaw b attribution hraw]

/-- What is read at the start of the payload, and its intervention section. -/
theorem deserializeState_bytes {payload : List UInt8} {s : GovernorState} {p : ℕ}
    (h : deserializeState payload 0 = .ok (s, p)) :
    payload[attributionOff]? =
        some (ByteEnum.raw s.engine.policy.minAttributionForDisruptive) ∧
      ∃ codes q, interimCodes payload 0 = .ok (codes, q) ∧ ∀ id,
        Option.Rel (fun i b => ByteEnum.raw i.interimStatus.code = b)
          (s.engine.interventions.find id) (codes.find id) := by
  unfold deserializeState at h
  obtain ⟨policy, p₁, hpolicy, h⟩ := bind_ok.mp h
  obtain ⟨authority, p₂, hauthority, h⟩ := bind_ok.mp h
  obtain ⟨conflicts, p₃, hconflicts, h⟩ := bind_ok.mp h
  obtain ⟨evidence, p₄, hevidence, h⟩ := bind_ok.mp h
  obtain ⟨interventions, p₅, hinterventions, h⟩ := bind_ok.mp h
  iterate 8 obtain ⟨_, _, -, h⟩ := bind_ok.mp h
  cases h
  constructor
  · exact deserializePolicy_byte (named_ok.mp hpolicy)
  · obtain ⟨codes, hcodes, hrel⟩ := tracks_mapOr tracks_interimCode _ _ _ _ hinterventions
    refine ⟨codes, p₅, ?_, hrel⟩
    unfold interimCodes
    refine bind_ok.mpr ⟨policy, p₁, hpolicy, bind_ok.mpr ⟨authority, p₂, hauthority, ?_⟩⟩
    refine bind_ok.mpr ⟨conflicts, p₃, hconflicts, bind_ok.mpr ⟨evidence, p₄, hevidence, ?_⟩⟩
    exact hcodes

/-- Below a bound that is one too large. -/
theorem lt_iff_ne_of_lt {b m n : UInt8} (h : b < n) (hn : n.toNat = m.toNat + 1) :
    b < m ↔ b ≠ m := by
  rw [UInt8.lt_iff_toNat_lt] at h ⊢
  rw [ne_eq, ← UInt8.toNat_inj]
  omega

/-- The status codes that are kept are declared when none of their bytes is 20. -/
theorem codes_declared_iff {s : GovernorState} (h : Loadable s)
    {codes : OrderedMap InterventionId UInt8} (hrel : ∀ id,
      Option.Rel (fun i b => ByteEnum.raw i.interimStatus.code = b)
        (s.engine.interventions.find id) (codes.find id)) :
    (∀ id i, s.engine.interventions.find id = some i → Declared i.interimStatus.code) ↔
      ∀ id, codes.find id ≠ some 20 := by
  refine forall_congr' fun id => ?_
  have hid := hrel id
  cases hi : s.engine.interventions.find id with
  | none =>
    rw [hi] at hid
    generalize codes.find id = b at hid ⊢
    cases hid
    simp
  | some i =>
    have hfits := (h.fits.interventions.2 (id, i) (OrderedMap.mem_entries.mpr hi)).code
    have hbound : Declared i.interimStatus.code ↔ ByteEnum.raw i.interimStatus.code ≠ 20 :=
      lt_iff_ne_of_lt hfits rfl
    rw [hi] at hid
    generalize codes.find id = b at hid ⊢
    cases hid with
    | some hb =>
      subst hb
      simpa using hbound

/-- What is loaded holds declared enumerators exactly when the bytes that the two bounds let
through do not stand where they are read. -/
theorem loaded_well_typed_iff {data : List UInt8} {dest s : GovernorState}
    (h : loadFromBytes data dest = .ok (.good, s)) : WellTyped s ↔ DeclaredBytes data := by
  have hload := loadable_of_load h
  obtain ⟨payload, p, rfl, hread⟩ := payload_of_load h
  obtain ⟨hattribution, codes, q, hcodes, hrel⟩ := deserializeState_bytes hread
  have hpolicy : Declared s.engine.policy.minAttributionForDisruptive ↔
      payload[attributionOff]? ≠ some 6 := by
    rw [hattribution, ne_eq, Option.some.injEq]
    exact lt_iff_ne_of_lt hload.fits.policy.minAttributionForDisruptive rfl
  rw [wellTyped_iff hload, hpolicy, codes_declared_iff hload hrel]
  constructor
  · rintro ⟨hbyte, hnone⟩
    constructor
    · rwa [payloadOf_frame]
    · intro codes' q' hcodes'
      rw [payloadOf_frame, hcodes] at hcodes'
      cases hcodes'
      exact hnone
  · rintro ⟨hbyte, hnone⟩
    rw [payloadOf_frame] at hbyte hnone
    exact ⟨hbyte, hnone codes q hcodes⟩

/-- The snapshot has evidence, conflicts and an intervention that was reported as lost. -/
theorem loaded_well_typed_iff_lost :
    WellTyped (reached lostThrottle) ∧ DeclaredBytes (saveToBytes (reached lostThrottle)) := by
  have hload : Loadable (reached lostThrottle) := by decide +kernel
  have hcodes : ∀ e ∈ (reached lostThrottle).engine.interventions.entries,
      Declared e.2.interimStatus.code := by decide +kernel
  have htyped : WellTyped (reached lostThrottle) := by
    rw [wellTyped_iff hload]
    exact ⟨by decide +kernel, fun id i hi => hcodes (id, i) (OrderedMap.mem_entries.mpr hi)⟩
  exact ⟨htyped, (loaded_well_typed_iff (loadFromBytes_saveToBytes hload {})).mp htyped⟩

def undeclaredAttribution : GovernorState where
  engine.policy.minAttributionForDisruptive := .undeclared 6 (by decide)

def undeclaredCode : GovernorState where
  engine.interventions := OrderedMap.empty.insert ⟨1⟩
    { id := ⟨1⟩, cls := .throttle, interimStatus.code := .undeclared 20 (by decide) }

theorem loadable_undeclaredAttribution : Loadable undeclaredAttribution where
  fits := { loadable_empty.fits with policy := ⟨by decide, by decide, by simp⟩ }
  valid := by decide +kernel

theorem loadable_undeclaredCode : Loadable undeclaredCode where
  fits := { loadable_empty.fits with
    interventions := by
      refine ⟨by decide, fun e he => ?_⟩
      rw [List.mem_singleton.mp he]
      exact ⟨Nat.zero_le _, Nat.zero_le _, by decide, Nat.zero_le _, Nat.zero_le _, by simp⟩ }
  valid := loadable_empty.valid

/-- Snapshots with either byte are loaded. -/
theorem undeclared_loaded :
    (loadFromBytes (saveToBytes undeclaredAttribution) {} = .ok (.good, undeclaredAttribution) ∧
      ¬WellTyped undeclaredAttribution) ∧
    loadFromBytes (saveToBytes undeclaredCode) {} = .ok (.good, undeclaredCode) ∧
      ¬WellTyped undeclaredCode := by
  refine ⟨⟨loadFromBytes_saveToBytes loadable_undeclaredAttribution {}, fun h => ?_⟩,
    loadFromBytes_saveToBytes loadable_undeclaredCode {}, fun h => ?_⟩
  · exact absurd h.policy (by decide)
  · exact absurd (h.interventions ⟨1⟩ _ rfl).code (by decide)

end ContentionGovernor
