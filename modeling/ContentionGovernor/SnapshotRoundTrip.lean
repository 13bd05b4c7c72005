import Mathlib.Tactic.Linarith
import ContentionGovernor.Operations
import ContentionGovernor.Snapshot

/-!
# The snapshot frame

A byte string is accepted only when it is the frame of a payload, and then what
is loaded is that payload; a state the snapshot can hold is loaded from its own
snapshot.
-/

namespace ContentionGovernor

open Reader

/-! ## Frames -/

/-- The 20 bytes before the payload. -/
def header (n : ℕ) : List UInt8 := kMagic ++ (W.u32 kPersistenceVersion ++ W.size n)

theorem length_header (n : ℕ) : (header n).length = payloadOff := by
  simp [header, kMagic, W.u32, W.size, payloadOff, kMagicLen]

theorem frame_eq (payload : List UInt8) :
    frame payload = header payload.length ++ (payload ++ W.u32 (crc32c payload)) := by
  simp only [frame, header, List.append_assoc]

theorem length_frame (payload : List UInt8) :
    (frame payload).length = payload.length + 24 := by
  rw [frame_eq, List.length_append, List.length_append, length_header, W.u32,
    length_littleEndian, payloadOff, kMagicLen]
  omega

/-- The sum of the fixed lengths and the payload length, in 64 bits. -/
def totalLength (payloadLen : UInt64) : UInt64 :=
  UInt64.ofNat payloadOff + payloadLen + UInt64.ofNat kCrcLen

/-- A file of the length its header asks for has a payload length that did not wrap. -/
theorem payloadLen_of_totalLength {n : UInt64} {k : ℕ} (h : (totalLength n).toNat = k)
    (hk : 24 ≤ k) : n.toNat = k - 24 ∧ k < 2 ^ 64 := by
  have hn := n.toNat_lt
  have ht : (totalLength n).toNat = (24 + n.toNat) % 2 ^ 64 := by
    simp only [totalLength, UInt64.toNat_add, UInt64.toNat_ofNat', payloadOff, kMagicLen, kCrcLen]
    omega
  omega

theorem totalLength_ofNat {k : ℕ} (h : k + 24 < 2 ^ 64) :
    (totalLength (UInt64.ofNat k)).toNat = k + 24 := by
  simp only [totalLength, UInt64.toNat_add, UInt64.toNat_ofNat', payloadOff, kMagicLen, kCrcLen]
  omega

/-- The checks behind the magic, on a buffer long enough for them. -/
theorem readHeader_eq {data : List UInt8} (h : 12 ≤ data.length) :
    readHeader data 0 =
      if UInt32.ofNat (ofLittleEndian (data.take 4)) ≠ kPersistenceVersion then
        .error (.rejected (corrupt "unknown persistence version"))
      else .ok (UInt64.ofNat (ofLittleEndian ((data.drop 4).take 8)), 12) := by
  have hv : u32 (corrupt "bad version") data 0 =
      .ok (UInt32.ofNat (ofLittleEndian (data.take 4)), 4) := by
    rw [Reader.u32, bind_apply, bytes_eq (by omega)]
    rfl
  rw [readHeader, bind_apply, hv]
  dsimp only
  split_ifs with hver
  · rfl
  · rw [Reader.u64, bind_apply, bytes_eq (by omega)]
    rfl

theorem rejectIf_bind {α : Type} {c : Prop} [Decidable c] {message : ByteString}
    {f : Unit → Except (ReadError Status) α} :
    (rejectIf c message >>= f) =
      if c then .error (.rejected (corrupt message)) else f () := by
  unfold rejectIf
  split_ifs <;> rfl

/-- The checks of `load_from_bytes` before the payload, every access in bounds. -/
theorem readSnapshot_eq (data : List UInt8) :
    readSnapshot data =
      if data.length < 24 then .error (.rejected (corrupt "truncated persistence header"))
      else if data.take 8 ≠ kMagic then .error (.rejected (corrupt "bad magic"))
      else if UInt32.ofNat (ofLittleEndian ((data.drop 8).take 4)) ≠ kPersistenceVersion then
        .error (.rejected (corrupt "unknown persistence version"))
      else
        let n := UInt64.ofNat (ofLittleEndian ((data.drop 12).take 8))
        if data.length < (totalLength n).toNat then
          .error (.rejected (corrupt "truncated payload"))
        else if (totalLength n).toNat ≠ data.length then
          .error (.rejected (corrupt "trailing garbage"))
        else
          let payload := (data.drop 20).take (data.length - 24)
          if UInt32.ofNat (ofLittleEndian (data.drop (data.length - 4))) ≠ crc32c payload then
            .error (.rejected (corrupt "payload checksum mismatch"))
          else readPayload payload := by
  rw [readSnapshot, rejectIf_bind]
  refine ite_congr rfl (fun _ => rfl) fun hlen => ?_
  have hlen : 24 ≤ data.length := not_lt.mp hlen
  have hmagic : accessMany (ε := Status) data 0 kMagicLen = .ok (data.take 8) :=
    accessMany_eq (by simp only [kMagicLen]; omega)
  have hrest : 12 ≤ (data.drop kMagicLen).length := by
    simp only [List.length_drop, kMagicLen]
    omega
  have hheader := readHeader_eq hrest
  rw [hmagic, ok_bind, rejectIf_bind]
  refine ite_congr rfl (fun _ => rfl) fun _ => ?_
  rw [hheader, kMagicLen, List.drop_drop]
  by_cases hversion :
      UInt32.ofNat (ofLittleEndian ((data.drop 8).take 4)) ≠ kPersistenceVersion
  · rw [if_pos hversion, if_pos hversion]
    rfl
  rw [if_neg hversion, if_neg hversion, ok_bind]
  dsimp only
  rw [rejectIf_bind]
  refine ite_congr rfl (fun _ => rfl) fun _ => ?_
  rw [rejectIf_bind]
  refine ite_congr rfl (fun _ => rfl) fun htotal => ?_
  have hn := payloadLen_of_totalLength (not_not.mp htotal) hlen
  have hcrc : accessMany (ε := Status) data (data.length - kCrcLen) kCrcLen =
      .ok (data.drop (data.length - 4)) := by
    rw [accessMany_eq (by simp only [kCrcLen]; omega), List.take_of_length_le]
    · rfl
    · simp only [List.length_drop, kCrcLen]
      omega
  have hpayload := accessMany_eq (ε := Status) (d := data) (p := payloadOff)
    (k := data.length - 24) (by simp only [payloadOff, kMagicLen]; omega)
  rw [hcrc, ok_bind, hn.1, hpayload, ok_bind, rejectIf_bind]
  rfl

/-- The same on a buffer cut into magic, version, payload length, payload and checksum. -/
theorem readSnapshot_append {m v n p c : List UInt8} (hm : m.length = 8) (hv : v.length = 4)
    (hn : n.length = 8) (hc : c.length = 4) :
    readSnapshot (m ++ (v ++ (n ++ (p ++ c)))) =
      if m ≠ kMagic then .error (.rejected (corrupt "bad magic"))
      else if UInt32.ofNat (ofLittleEndian v) ≠ kPersistenceVersion then
        .error (.rejected (corrupt "unknown persistence version"))
      else
        let total := (totalLength (UInt64.ofNat (ofLittleEndian n))).toNat
        if p.length + 24 < total then .error (.rejected (corrupt "truncated payload"))
        else if total ≠ p.length + 24 then .error (.rejected (corrupt "trailing garbage"))
        else if UInt32.ofNat (ofLittleEndian c) ≠ crc32c p then
          .error (.rejected (corrupt "payload checksum mismatch"))
        else readPayload p := by
  have hlen : (m ++ (v ++ (n ++ (p ++ c)))).length = p.length + 24 := by
    simp only [List.length_append, hm, hv, hn, hc]
    omega
  have hdrop8 : (m ++ (v ++ (n ++ (p ++ c)))).drop 8 = v ++ (n ++ (p ++ c)) := List.drop_left' hm
  have hdrop12 : (m ++ (v ++ (n ++ (p ++ c)))).drop 12 = n ++ (p ++ c) := by
    rw [show 12 = 8 + 4 from rfl, ← List.drop_drop, hdrop8, List.drop_left' hv]
  have hdrop20 : (m ++ (v ++ (n ++ (p ++ c)))).drop 20 = p ++ c := by
    rw [show 20 = 12 + 8 from rfl, ← List.drop_drop, hdrop12, List.drop_left' hn]
  have hdropc : (m ++ (v ++ (n ++ (p ++ c)))).drop (p.length + 20) = c := by
    rw [Nat.add_comm, ← List.drop_drop, hdrop20, List.drop_left]
  rw [readSnapshot_eq, hlen, if_neg (by omega), List.take_left' hm, hdrop8,
    List.take_left' hv, hdrop12, List.take_left' hn, hdrop20, Nat.add_sub_cancel,
    List.take_left, show p.length + 24 - 4 = p.length + 20 by omega, hdropc]

theorem length_u32 (v : UInt32) : (W.u32 v).length = 4 := length_littleEndian 4 _

theorem length_size (n : ℕ) : (W.size n).length = 8 := length_littleEndian 8 _

theorem ofLittleEndian_wu32 (v : UInt32) : UInt32.ofNat (ofLittleEndian (W.u32 v)) = v :=
  ofLittleEndian_u32 v

theorem wu32_ofLittleEndian {bs : List UInt8} (h : bs.length = 4) :
    W.u32 (UInt32.ofNat (ofLittleEndian bs)) = bs := u32_ofLittleEndian h

theorem size_ofLittleEndian {bs : List UInt8} (h : bs.length = 8) :
    W.size (UInt64.ofNat (ofLittleEndian bs)).toNat = bs := by
  have hlt := ofLittleEndian_lt bs
  rw [h] at hlt
  rw [W.size, UInt64.toNat_ofNat_of_lt' hlt, ← h, littleEndian_ofLittleEndian]

theorem ofLittleEndian_size {n : ℕ} (h : n < 2 ^ 64) : ofLittleEndian (W.size n) = n := by
  rw [W.size, ofLittleEndian_littleEndian]
  exact Nat.mod_eq_of_lt h

/-- A frame whose length fits 64 bits gets to its payload. -/
theorem readSnapshot_frame {payload : List UInt8} (h : payload.length + 24 < 2 ^ 64) :
    readSnapshot (frame payload) = readPayload payload := by
  rw [frame, readSnapshot_append rfl (length_u32 _) (length_size _) (length_u32 _),
    ofLittleEndian_wu32, ofLittleEndian_wu32,
    ofLittleEndian_size (by omega), totalLength_ofNat h]
  simp

theorem exists_parts {data : List UInt8} (h : 24 ≤ data.length) :
    ∃ m v n p c, data = m ++ (v ++ (n ++ (p ++ c))) ∧ m.length = 8 ∧ v.length = 4 ∧
      n.length = 8 ∧ c.length = 4 := by
  refine ⟨data.take 8, (data.drop 8).take 4, (data.drop 12).take 8,
    (data.drop 20).take (data.length - 24), (data.drop 20).drop (data.length - 24), ?_⟩
  have hcut : ∀ k n, data.drop k = (data.drop k).take n ++ data.drop (k + n) := by
    intro k n
    rw [← List.drop_drop, List.take_append_drop]
  refine ⟨?_, ?_, ?_, ?_, ?_⟩
  · rw [List.take_append_drop, ← hcut 12 8, ← hcut 8 4, List.take_append_drop]
  all_goals
    simp only [List.length_take, List.length_drop]
    omega

/-- What gets past the checks is a frame; anything else is corrupt. -/
theorem readSnapshot_cases (data : List UInt8) :
    (∃ payload, data = frame payload ∧ payload.length + 24 < 2 ^ 64) ∨
    ∃ message, readSnapshot data = .error (.rejected (corrupt message)) := by
  by_cases hlen : data.length < 24
  · exact .inr ⟨_, by rw [readSnapshot_eq, if_pos hlen]⟩
  obtain ⟨m, v, n, p, c, rfl, hm, hv, hn, hc⟩ := exists_parts (not_lt.mp hlen)
  rw [readSnapshot_append hm hv hn hc]
  dsimp only
  split_ifs with hmagic hversion hshort htotal hcrc
  all_goals try exact .inr ⟨_, rfl⟩
  simp only [ne_eq, not_not] at hmagic hversion htotal hcrc
  obtain ⟨hsize, hlt⟩ := payloadLen_of_totalLength htotal (by omega)
  rw [Nat.add_sub_cancel] at hsize
  refine .inl ⟨p, ?_, hlt⟩
  rw [frame, ← hmagic, ← hversion, ← hsize, ← hcrc, wu32_ofLittleEndian hv,
    size_ofLittleEndian hn, wu32_ofLittleEndian hc]

/-! ## Payload lengths -/

@[simp] theorem length_u8 (v : UInt8) : (W.u8 v).length = 1 := rfl
@[simp] theorem length_u64 (v : UInt64) : (W.u64 v).length = 8 := length_littleEndian 8 _
@[simp] theorem length_f64 (v : Double) : (W.f64 v).length = 8 := length_u64 _
@[simp] theorem length_flag (b : Bool) : (W.flag b).length = 1 := rfl
@[simp] theorem length_wid {d : Domain} (i : Id d) : (W.wid i).length = 8 := length_u64 _

@[simp] theorem length_enum {α : Type} [ByteEnum α] (a : α) : (W.enum a).length = 1 := rfl

theorem length_str_le {s : ByteString} (h : StringFits s) :
    (W.str s).length ≤ 2 ^ 20 + 8 := by
  have hs : s.bytes.length ≤ 2 ^ 20 := h
  rw [W.str, List.length_append, length_size]
  omega

theorem length_flatMap_le {α : Type} {write : α → List UInt8} {xs : List α} {k : ℕ}
    (h : ∀ x ∈ xs, (write x).length ≤ k) : (xs.flatMap write).length ≤ xs.length * k := by
  induction xs with
  | nil => simp
  | cons x xs ih =>
    have hx := h x List.mem_cons_self
    have hxs := ih fun y hy => h y (List.mem_cons_of_mem _ hy)
    rw [List.flatMap_cons, List.length_append, List.length_cons, Nat.succ_mul]
    omega

theorem length_list_le {α : Type} {write : α → List UInt8} {P : α → Prop} {xs : List α} {k : ℕ}
    (hk : ∀ x, P x → (write x).length ≤ k) (h : ListFits P xs) :
    (W.list write xs).length ≤ 8 + 2 ^ 20 * k := by
  have hn : xs.length ≤ 2 ^ 20 := h.1
  have hsum := length_flatMap_le fun x hx => hk x (h.2 x hx)
  have hmul := Nat.mul_le_mul_right k hn
  rw [W.list, List.length_append, length_size]
  omega

theorem length_strings_le {xs : List ByteString} (h : ListFits StringFits xs) :
    (W.list W.str xs).length ≤ 2 ^ 40 + 2 ^ 23 + 8 :=
  (length_list_le (fun _ hs => length_str_le hs) h).trans (by decide)

theorem length_ids_le {d : Domain} {xs : List (Id d)} (h : ListFits (fun _ => True) xs) :
    (W.list W.wid xs).length ≤ 2 ^ 23 + 8 :=
  (length_list_le (fun i _ => (length_wid i).le) h).trans (by decide)

theorem length_map_le {d : Domain} {V : Type} {write : V → List UInt8} {P : V → Prop}
    {m : OrderedMap (Id d) V} {k : ℕ} (hk : ∀ v, P v → (write v).length ≤ k) (h : MapFits P m) :
    (W.map write m).length ≤ 8 + 2 ^ 20 * (8 + k) :=
  length_list_le (fun e he => by
    rw [List.length_append, length_wid]
    exact Nat.add_le_add_left (hk e.2 he) 8) h

theorem length_serializeWorkload_le (wp : WorkloadPolicy) :
    (serializeWorkload wp).length ≤ 128 := by
  cases hd : wp.softSloTarget <;> simp [serializeWorkload, length_u32, hd]

theorem length_serializePolicy_le {a : UInt8} {p : ContentionPolicy} (h : PolicyFits a p) :
    (serializePolicy p).length ≤ 2 ^ 28 := by
  have hw := length_map_le (fun wp _ => length_serializeWorkload_le wp) h.workloads
  have hb : (serializeBudget p.budget).length = 120 := by simp [serializeBudget]
  simp only [serializePolicy, List.length_flatten, List.map_cons, List.map_nil, List.sum_cons,
    List.sum_nil, length_wid, length_f64, length_u64, length_enum, length_u32, length_flag, hb]
  linarith

theorem length_serializeAuthority_le {a : AuthorityContext} (h : AuthorityFits a) :
    (serializeAuthority a).length ≤ 2 ^ 26 := by
  have hg := length_map_le (k := 8) (fun g _ => (length_wid g).le) h.workloadGenerations
  have hb := length_map_le (k := 8) (fun b _ => (length_wid b).le) h.workloadBoots
  simp only [serializeAuthority, List.length_flatten, List.map_cons, List.map_nil,
    List.sum_cons, List.sum_nil, length_wid]
  linarith

theorem length_serializeEvidence_le {e : InterferenceEvidence} (h : EvidenceFits e) :
    (serializeEvidence e).length ≤ 2 ^ 41 := by
  have hn := length_ids_le h.neighbors
  have hc := length_strings_le h.unresolvedConfounders
  have hi := length_str_le h.sourceId
  have hh := length_str_le h.sourceHealth
  simp only [serializeEvidence, List.length_flatten, List.map_cons, List.map_nil,
    List.sum_cons, List.sum_nil, length_wid, length_f64, length_u64, length_enum]
  linarith

theorem length_serializeIntervention_le {a : UInt8} {i : InterventionRecord}
    (h : InterventionFits a i) : (serializeIntervention i).length ≤ 2 ^ 41 := by
  have hf : (serializeFence i.fence).length = 112 := by simp [serializeFence]
  have ha := length_str_le h.adapter
  have hn := length_str_le h.ackNote
  have hm := length_str_le h.message
  have ht := length_strings_le h.trace
  simp only [serializeIntervention, List.length_flatten, List.map_cons, List.map_nil,
    List.sum_cons, List.sum_nil, length_wid, length_u64, length_enum, length_flag, hf]
  linarith

theorem length_serializeConflict_le {c : ContentionConflict} (h : ConflictFits c) :
    (serializeConflict c).length ≤ 2 ^ 42 := by
  have ha := length_ids_le h.affected
  have hs := length_ids_le h.associated
  have he := length_ids_le h.evidenceIds
  have hu := length_strings_le h.unresolvedConfounders
  have hb := length_strings_le h.blockers
  have hc := length_list_le (k := 1) (fun a _ => (length_enum a).le) h.candidateClasses
  have hp := length_ids_le h.proposedIds
  have hl := length_ids_le h.selectedIds
  simp only [serializeConflict, List.length_flatten, List.map_cons, List.map_nil,
    List.sum_cons, List.sum_nil, length_wid, length_f64, length_u64, length_enum, length_flag]
  linarith

/-- The limits keep the payload length far from the top of 64 bits. -/
theorem length_serializeState_le {a c : UInt8} {s : GovernorState} (h : StateFits a c s) :
    (serializeState s).length + 24 < 2 ^ 64 := by
  have hp := length_serializePolicy_le h.policy
  have ha := length_serializeAuthority_le h.authority
  have hc : (W.map serializeConflict s.engine.conflicts).length ≤ 8 + 2 ^ 20 * (8 + 2 ^ 42) :=
    length_map_le (fun _ => length_serializeConflict_le) h.conflicts
  have he : (W.map serializeEvidence s.engine.evidence).length ≤ 8 + 2 ^ 20 * (8 + 2 ^ 41) :=
    length_map_le (fun _ => length_serializeEvidence_le) h.evidence
  have hi : (W.map serializeIntervention s.engine.interventions).length ≤
      8 + 2 ^ 20 * (8 + 2 ^ 41) :=
    length_map_le (fun _ => length_serializeIntervention_le) h.interventions
  have hf := length_map_le (k := 36)
    (fun f _ => (show (serializeFairness f).length = 36 by simp [serializeFairness, length_u32]).le)
    h.fairness
  simp only [serializeState, List.length_flatten, List.map_cons, List.map_nil, List.sum_cons,
    List.sum_nil, length_u64]
  linarith

/-! ## Loading -/

def IsCorrupt (status : Status) : Prop := ∃ message, status = corrupt message

theorem rejects_state : Rejects deserializeState IsCorrupt := by
  have hmap : ∀ {d : Domain} {V : Type} (a b c : ByteString) (read : Reader Unit V),
      Rejects (R.mapOr (corrupt a) (corrupt b) (corrupt c) read :
        Reader Status (OrderedMap (Id d) V)) IsCorrupt := by
    intro d V a b c read
    refine Rejects.bind (Rejects.counted ⟨a, rfl⟩ _ ?_) fun _ => Rejects.pure _
    exact (Rejects.named ⟨b, rfl⟩).bind fun _ =>
      (Rejects.named ⟨c, rfl⟩).bind fun _ => Rejects.pure _
  unfold deserializeState
  refine (Rejects.named ⟨_, rfl⟩).bind fun _ => (Rejects.named ⟨_, rfl⟩).bind fun _ => ?_
  refine (hmap _ _ _ _).bind fun _ => (hmap _ _ _ _).bind fun _ => ?_
  refine (hmap _ _ _ _).bind fun _ => (hmap _ _ _ _).bind fun _ => ?_
  iterate 7 refine (Rejects.u64 ⟨_, rfl⟩).bind fun _ => ?_
  exact Rejects.pure _

theorem readPayload_ok {payload : List UInt8} {out : GovernorState} {p : ℕ}
    (h : deserializeState payload 0 = .ok (out, p)) :
    readPayload payload =
      if p ≠ payload.length then .error (.rejected (corrupt "unconsumed payload bytes"))
      else if (validatePolicy out.engine.policy).code ≠ .ok then
        .error (.rejected (corrupt "invalid policy in persistence"))
      else .ok out := by
  rw [readPayload, h, ok_bind]
  dsimp only
  rw [rejectIf_bind]
  refine ite_congr rfl (fun _ => rfl) fun _ => ?_
  rw [rejectIf_bind]
  rfl

theorem readPayload_error {payload : List UInt8} {e : ReadError Status}
    (h : deserializeState payload 0 = .error e) : readPayload payload = .error e := by
  rw [readPayload, h]
  rfl

theorem readPayload_serializeState {s : GovernorState} (h : Loadable s) :
    readPayload (serializeState s) = .ok s := by
  have hread : deserializeState (serializeState s) 0 = .ok (s, (serializeState s).length) := by
    simpa using reads_state h.fits [] []
  rw [readPayload_ok hread, if_neg (not_not.mpr rfl), if_neg (not_not.mpr h.valid)]

theorem readPayload_cases (payload : List UInt8) :
    (∃ out, readPayload payload = .ok out ∧ Loadable out) ∨
    ∃ message, readPayload payload = .error (.rejected (corrupt message)) := by
  rcases accepts_state payload 0 (Nat.zero_le _) with ⟨e, he⟩ | ⟨out, p, hr, -, -, hfits⟩
  · obtain ⟨message, rfl⟩ := rejects_state _ _ _ he
    exact .inr ⟨message, readPayload_error he⟩
  · rw [readPayload_ok hr]
    split_ifs with hend hvalid
    · exact .inr ⟨_, rfl⟩
    · exact .inr ⟨_, rfl⟩
    · exact .inl ⟨out, rfl, hfits, not_not.mp hvalid⟩

/-- Loading never reads out of bounds.  It accepts only a frame and returns what a
snapshot can hold, or it reports corruption and leaves the state as it was. -/
theorem loadFromBytes_cases (data : List UInt8) (s : GovernorState) :
    (∃ payload out, data = frame payload ∧ payload.length + 24 < 2 ^ 64 ∧ Loadable out ∧
      loadFromBytes data s = .ok (.good, out)) ∨
    ∃ message, loadFromBytes data s = .ok (corrupt message, s) := by
  rcases readSnapshot_cases data with ⟨payload, rfl, hlen⟩ | ⟨message, h⟩
  · rcases readPayload_cases payload with ⟨out, hout, hload⟩ | ⟨message, h⟩
    · refine .inl ⟨payload, out, rfl, hlen, hload, ?_⟩
      rw [loadFromBytes, readSnapshot_frame hlen, hout]
    · exact .inr ⟨message, by rw [loadFromBytes, readSnapshot_frame hlen, h]⟩
  · exact .inr ⟨message, by rw [loadFromBytes, h]⟩

theorem loadFromBytes_saveToBytes {s : GovernorState} (h : Loadable s) (dest : GovernorState) :
    loadFromBytes (saveToBytes s) dest = .ok (.good, s) := by
  rw [loadFromBytes, saveToBytes, readSnapshot_frame (length_serializeState_le h.fits),
    readPayload_serializeState h]

/-- What is loaded is read from the payload of a frame. -/
theorem payload_of_load {data : List UInt8} {dest s : GovernorState}
    (h : loadFromBytes data dest = .ok (.good, s)) :
    ∃ payload p, data = frame payload ∧ deserializeState payload 0 = .ok (s, p) := by
  rcases readSnapshot_cases data with ⟨payload, rfl, hlen⟩ | ⟨message, hbad⟩
  · rw [loadFromBytes, readSnapshot_frame hlen] at h
    rcases accepts_state payload 0 (Nat.zero_le _) with ⟨e, he⟩ | ⟨out, p, hr, -, -, -⟩
    · obtain ⟨message, rfl⟩ := rejects_state _ _ _ he
      rw [readPayload_error he] at h
      cases h
    · rw [readPayload_ok hr] at h
      split_ifs at h <;> cases h
      exact ⟨payload, p, rfl, hr⟩
  · rw [loadFromBytes, hbad] at h
    cases h

theorem loadable_of_load {data : List UInt8} {dest s : GovernorState}
    (h : loadFromBytes data dest = .ok (.good, s)) : Loadable s := by
  rcases loadFromBytes_cases data dest with ⟨payload, out, -, -, hload, hok⟩ | ⟨message, hbad⟩
  · rw [hok] at h
    cases h
    exact hload
  · rw [hbad] at h
    cases h

/-- A state within the limits, with declared enumerators and a valid policy, is loaded
from its own snapshot; so is every state that any byte string loads as. -/
theorem snapshot_round_trip :
    (∀ s dest : GovernorState, StateFits 6 20 s → (validatePolicy s.engine.policy).isOk →
      loadFromBytes (saveToBytes s) dest = .ok (.good, s)) ∧
    ∀ (data : List UInt8) (dest s dest' : GovernorState),
      loadFromBytes data dest = .ok (.good, s) →
      loadFromBytes (saveToBytes s) dest' = .ok (.good, s) := by
  constructor
  · intro s dest hfits hvalid
    have hload : Loadable s :=
      ⟨hfits.mono (by decide) (by decide), Status.isOk_iff.mp hvalid⟩
    exact loadFromBytes_saveToBytes hload dest
  · intro data dest s dest' h
    exact loadFromBytes_saveToBytes (loadable_of_load h) dest'

/-! ## Files -/

theorem loadState_some {data : List UInt8} (hlen : data.length ≤ 2 ^ 31) (s : GovernorState) :
    loadState true (some data) s = loadFromBytes data s := by
  unfold loadState
  dsimp only
  rw [if_neg (Nat.not_lt.mpr hlen), if_neg (not_not.mpr rfl)]

theorem loadState_saved {s : GovernorState} (hs : Loadable s)
    (hsize : (saveToBytes s).length ≤ 2 ^ 31) (dest : GovernorState) :
    loadState true (some (saveToBytes s)) dest = .ok (.good, s) := by
  rw [loadState_some hsize, loadFromBytes_saveToBytes hs]

/-- A load with persistence on takes over the state that the file was saved from. -/
theorem step_load_saved {opts : Options} {s dest : GovernorState} (henable : opts.persistEnable)
    (hpath : opts.persistPath ≠ "") (hs : Loadable s) (hsize : (saveToBytes s).length ≤ 2 ^ 31) :
    step dest (.load opts true (some (saveToBytes s))) = some s := by
  have hon : ¬(¬opts.persistEnable ∨ opts.persistPath = "") :=
    not_or.mpr ⟨not_not.mpr henable, hpath⟩
  have hload : load opts true (some (saveToBytes s)) dest = .ok (.good, s) := by
    rw [load, if_neg hon, loadState_saved hs hsize]
  exact congrArg (fun r => (Except.map Prod.snd r).toOption) hload

/-- Persistence is on. -/
def persisted : Options := { persistEnable := true, persistPath := "state" }

theorem stateFits_empty : StateFits 6 20 {} where
  policy := ⟨by decide, by decide, by simp [OrderedMap.empty]⟩
  authority := ⟨⟨by decide, by simp [OrderedMap.empty]⟩, by decide, by simp [OrderedMap.empty]⟩
  conflicts := ⟨by decide, by simp [OrderedMap.empty]⟩
  evidence := ⟨by decide, by simp [OrderedMap.empty]⟩
  interventions := ⟨by decide, by simp [OrderedMap.empty]⟩
  fairness := ⟨by decide, by simp [OrderedMap.empty]⟩

theorem loadable_empty : Loadable {} :=
  ⟨stateFits_empty.mono (by decide) (by decide), by decide +kernel⟩

/-- The state holds conflicts, evidence, a failed intervention and a workload policy. -/
theorem snapshot_round_trip_lost :
    loadFromBytes (saveToBytes (reached lostThrottle)) {} = .ok (.good, reached lostThrottle) ∧
    loadFromBytes (saveToBytes (reached lostThrottle)) { nextConflictId := 7 } =
      .ok (.good, reached lostThrottle) := by
  have hfits : StateFits 6 20 (reached lostThrottle) := by decide +kernel
  have hvalid : (validatePolicy (reached lostThrottle).engine.policy).isOk := by decide +kernel
  have h := snapshot_round_trip.1 _ {} hfits hvalid
  exact ⟨h, snapshot_round_trip.2 _ _ _ _ h⟩

end ContentionGovernor
