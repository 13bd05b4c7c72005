import ContentionGovernor.DistProtocol
import ContentionGovernor.FrameCodec
import ContentionGovernor.SnapshotRoundTrip
import ContentionGovernor.Lib.IndexedReader

/-!
# Memory safety of the parsers

`load_from_bytes`, `decode_frames` and the decoders of the protocol once more, with sizes and
positions of 64 bits, sums that wrap, and every index of the input that is read.
-/

namespace ContentionGovernor

open Reader (Program)

/-! ## The readers as programs -/

namespace Programs

variable {α V : Type} {d : Domain}

def u8 : Program R.u8 := .u8 ()
def u32 : Program R.u32 := .u32 ()
def u64 : Program R.u64 := .u64 ()
def f64 : Program R.f64 := .bind u64 fun _ => .pure _
def id : Program (R.id : Reader Unit (Id d)) := .bind u64 fun _ => .pure _
def flag : Program R.flag := .bind u8 fun _ => .pure _

def str : Program R.str :=
  .bind u64 fun len => .ite (fun _ => .reject ()) fun hlen =>
    .bind (.bytes () len.toNat (Nat.le_of_not_lt hlen)) fun _ => .pure _

def enum [ByteEnum α] (count : UInt8) : Program (R.enum count : Reader Unit α) :=
  .bind u8 fun raw => .ite (fun _ => .reject ()) fun _ =>
    match ByteEnum.ofRaw raw with
    | some a => .pure a
    | none => .reject ()

def list {r : Reader Unit α} (p : Program r) : Program (R.list r) :=
  .counted () kMaxCollectionLen p

def mapOr {ε : Type} (badCount badId bad : ε) {r : Reader Unit V} (p : Program r) :
    Program (R.mapOr badCount badId bad r : Reader ε (OrderedMap (Id d) V)) :=
  .bind (.counted badCount kMaxCollectionLen
    (.bind (.named badId id) fun _ => .bind (.named bad p) fun _ => .pure _)) fun _ => .pure _

def map {r : Reader Unit V} (p : Program r) :
    Program (R.map r : Reader Unit (OrderedMap (Id d) V)) := mapOr () () () p

def softSloTarget : Program deserializeSoftSloTarget :=
  .bind flag fun _ => .ite (fun _ => .bind f64 fun _ => .pure _) fun _ => .pure _

def workload : Program deserializeWorkload := by
  refine .bind id fun _ => .bind id fun _ => .bind flag fun _ => .bind flag fun _ => ?_
  refine .bind f64 fun _ => .bind u32 fun _ => .bind f64 fun _ => .bind softSloTarget fun _ => ?_
  iterate 6 refine .bind f64 fun _ => ?_
  refine .bind u32 fun _ => ?_
  iterate 8 refine .bind flag fun _ => ?_
  exact .pure _

def budget : Program deserializeBudget := by
  refine .bind id fun _ => ?_
  iterate 14 refine .bind u64 fun _ => ?_
  exact .pure _

def policy : Program deserializePolicy := by
  refine .bind id fun _ => .bind id fun _ => .bind f64 fun _ => .bind f64 fun _ => ?_
  refine .bind u64 fun _ => .bind (enum 7) fun _ => ?_
  iterate 3 refine .bind f64 fun _ => ?_
  refine .bind u32 fun _ => .bind f64 fun _ => .bind u64 fun _ => .bind budget fun _ => ?_
  refine .bind (map workload) fun _ => ?_
  iterate 7 refine .bind flag fun _ => ?_
  exact .pure _

def authority : Program deserializeAuthority := by
  iterate 9 refine .bind id fun _ => ?_
  exact .bind (map id) fun _ => .bind (map id) fun _ => .pure _

def evidence : Program deserializeEvidence := by
  iterate 3 refine .bind id fun _ => ?_
  refine .bind (list id) fun _ => .bind (enum 14) fun _ => .bind (enum 2) fun _ => ?_
  iterate 4 refine .bind f64 fun _ => ?_
  refine .bind (enum 6) fun _ => .bind f64 fun _ => .bind u64 fun _ => ?_
  refine .bind (list str) fun _ => .bind (enum 8) fun _ => ?_
  refine .bind u64 fun _ => .bind u64 fun _ => .bind (enum 6) fun _ => ?_
  refine .bind str fun _ => .bind str fun _ => ?_
  iterate 7 refine .bind id fun _ => ?_
  exact .bind u64 fun _ => .bind u64 fun _ => .pure _

def fence : Program deserializeFence := by
  iterate 14 refine .bind id fun _ => ?_
  exact .pure _

def intervention : Program deserializeIntervention := by
  refine .bind id fun _ => .bind id fun _ => .bind (enum 21) fun _ => .bind id fun _ => ?_
  refine .bind id fun _ => .bind (enum 12) fun _ => .bind fence fun _ => .bind str fun _ => ?_
  iterate 4 refine .bind u64 fun _ => ?_
  refine .bind id fun _ => .bind id fun _ => .bind str fun _ => .bind (enum 21) fun _ => ?_
  refine .bind str fun _ => .bind (enum 9) fun _ => .bind (list str) fun _ => ?_
  exact .bind flag fun _ => .pure _

def conflict : Program deserializeConflict := by
  refine .bind id fun _ => .bind id fun _ => .bind (list id) fun _ => ?_
  refine .bind (list id) fun _ => .bind (enum 14) fun _ => ?_
  iterate 3 refine .bind f64 fun _ => ?_
  refine .bind (enum 12) fun _ => .bind (enum 6) fun _ => .bind (list id) fun _ => ?_
  refine .bind (enum 13) fun _ => ?_
  iterate 3 refine .bind u64 fun _ => ?_
  refine .bind (list str) fun _ => .bind (list str) fun _ => .bind (list (enum 21)) fun _ => ?_
  refine .bind (list id) fun _ => .bind (list id) fun _ => ?_
  iterate 8 refine .bind id fun _ => ?_
  exact .bind flag fun _ => .bind u64 fun _ => .bind flag fun _ => .pure _

def fairness : Program deserializeFairness :=
  .bind id fun _ => .bind u64 fun _ => .bind u32 fun _ => .bind f64 fun _ => .bind u64 fun _ =>
    .pure _

def state : Program deserializeState := by
  refine .bind (.named _ policy) fun _ => .bind (.named _ authority) fun _ => ?_
  refine .bind (mapOr _ _ _ conflict) fun _ => .bind (mapOr _ _ _ evidence) fun _ => ?_
  refine .bind (mapOr _ _ _ intervention) fun _ => .bind (mapOr _ _ _ fairness) fun _ => ?_
  iterate 7 refine .bind (.u64 _) fun _ => ?_
  exact .pure _

def header : Program readHeader :=
  .bind (.u32 _) fun _ => .ite (fun _ => .reject _) fun _ => .u64 _

/-! ### Messages -/

open ContentionGovernor.Dist

def hello : Program readHello :=
  .bind id fun _ => .bind id fun _ => .bind id fun _ => .bind str fun _ => .pure _

def wireEvidence : Program readEvidence := by
  iterate 3 refine .bind id fun _ => ?_
  refine .bind (.counted () kMaxWireList id) fun _ => ?_
  refine .bind (enum 14) fun _ => .bind (enum 2) fun _ => .bind f64 fun _ => ?_
  refine .bind f64 fun _ => .bind (enum 6) fun _ => .bind f64 fun _ => .bind u64 fun _ => ?_
  refine .bind (enum 8) fun _ => .bind u64 fun _ => .bind u64 fun _ => .bind (enum 6) fun _ => ?_
  refine .bind str fun _ => .bind str fun _ => ?_
  iterate 7 refine .bind id fun _ => ?_
  refine .bind u64 fun _ => .bind u64 fun _ => ?_
  exact .bind (.counted () kMaxWireList str) fun _ => .pure _

def action : Program readAction :=
  .bind id fun _ => .bind id fun _ => .bind id fun _ => .bind (enum 21) fun _ =>
    .bind f64 fun _ => .pure _

def ack : Program readAck :=
  .bind id fun _ => .bind id fun _ => .bind flag fun _ => .bind str fun _ => .pure _

end Programs

/-! ## Snapshots -/

/-- What the reader of version and payload length is given: all behind the magic. -/
def headerWindow (data : List UInt8) : Window :=
  ⟨data, UInt64.ofNat kMagicLen, UInt64.ofNat data.length - UInt64.ofNat kMagicLen⟩

/-- What the reader of the state is given. -/
def payloadWindow (data : List UInt8) (payloadLen : UInt64) : Window :=
  ⟨data, UInt64.ofNat payloadOff, payloadLen⟩

/-- The state in a window that it has to fill. -/
def loadPayload64 (v : Window) : Access Status GovernorState := do
  let (out, p) ← Programs.state.run v 0
  Access.rejectIf (p ≠ v.length) (corrupt "unconsumed payload bytes")
  Access.rejectIf ((validatePolicy out.engine.policy).code ≠ .ok)
    (corrupt "invalid policy in persistence")
  return out

/-- `load_from_bytes`, with the sizes and sums of the source. -/
def loadFromBytes64 (data : List UInt8) : Access Status GovernorState := do
  let len := UInt64.ofNat data.length
  Access.rejectIf (len < UInt64.ofNat (payloadOff + kCrcLen))
    (corrupt "truncated persistence header")
  let magic ← Access.load data 0 kMagicLen
  Access.rejectIf (magic ≠ kMagic) (corrupt "bad magic")
  let (payloadLen, _) ← Programs.header.run (headerWindow data) 0
  let total := totalLength payloadLen
  Access.rejectIf (len < total) (corrupt "truncated payload")
  Access.rejectIf (total ≠ len) (corrupt "trailing garbage")
  let crc ← Access.load data (len - UInt64.ofNat kCrcLen) kCrcLen
  let payload ← Access.load data (UInt64.ofNat payloadOff) payloadLen.toNat
  Access.rejectIf (UInt32.ofNat (Reader.ofLittleEndian crc) ≠ crc32c payload)
    (corrupt "payload checksum mismatch")
  loadPayload64 (payloadWindow data payloadLen)

theorem loadPayload64_meets {v : Window} (hv : v.Inside) {seen : List ℕ} :
    Access.Meets v.data.length seen (loadPayload64 v)
      (fun s out => readPayload v.bytes = .ok out ∧
        deserializeState v.bytes 0 = .ok (out, v.length.toNat) ∧ ∀ i ∈ seen, i ∈ s)
      (fun status => readPayload v.bytes = .error (.rejected status)) := by
  have hsize := hv.length_bytes
  refine Programs.state.meets_run hv (Nat.zero_le _) (fun e he => readPayload_error he) ?_
  intro out p s hstate hp hseen hcovered
  have hread := readPayload_ok hstate
  have hend : p ≠ v.length ↔ p.toNat ≠ v.bytes.length := by
    rw [hsize, ne_eq, ne_eq, UInt64.toNat_inj]
  refine Access.meets_rejectIf (fun hleft => ?_) fun hall => ?_
  · rw [hread, if_pos (hend.mp hleft)]
  rw [if_neg (mt hend.mpr hall)] at hread
  rw [not_not.mp hall] at hstate
  refine Access.meets_rejectIf (fun hpolicy => ?_) fun hpolicy => ?_
  · rw [hread, if_pos hpolicy]
  rw [if_neg hpolicy] at hread
  exact Access.meets_pure ⟨hread, hstate, hseen⟩

section Snapshots

variable {data : List UInt8}

theorem toNat_length (hdata : data.length < 2 ^ 63) :
    (UInt64.ofNat data.length).toNat = data.length :=
  UInt64.toNat_ofNat_of_lt' (show data.length < 2 ^ 64 by omega)

theorem toNat_length_sub (hdata : data.length < 2 ^ 63) {k : ℕ} (hk : k ≤ data.length) :
    (UInt64.ofNat data.length - UInt64.ofNat k).toNat = data.length - k := by
  have hlen := toNat_length hdata
  have hk' : (UInt64.ofNat k).toNat = k := UInt64.toNat_ofNat_of_lt' (show k < 2 ^ 64 by omega)
  rw [UInt64.toNat_sub_of_le _ _ (by rw [UInt64.le_iff_toNat_le]; omega), hlen, hk']

theorem headerWindow_inside (hdata : data.length < 2 ^ 63) (h : 24 ≤ data.length) :
    (headerWindow data).Inside := by
  refine ⟨?_, hdata⟩
  have hsub := toNat_length_sub hdata (k := kMagicLen) (by unfold kMagicLen; omega)
  have hbase : (UInt64.ofNat kMagicLen).toNat = kMagicLen := rfl
  dsimp only [headerWindow]
  rw [hsub, hbase]
  unfold kMagicLen
  omega

theorem headerWindow_bytes (hdata : data.length < 2 ^ 63) (h : 24 ≤ data.length) :
    (headerWindow data).bytes = data.drop 8 := by
  have hsub := toNat_length_sub hdata (k := kMagicLen) (by unfold kMagicLen; omega)
  have hbase : (UInt64.ofNat kMagicLen).toNat = 8 := rfl
  dsimp only [headerWindow, Window.bytes]
  rw [hsub, hbase, List.take_of_length_le (by rw [List.length_drop, kMagicLen])]

theorem payloadWindow_inside (hdata : data.length < 2 ^ 63) {n : UInt64}
    (hn : n.toNat + 24 = data.length) : (payloadWindow data n).Inside := by
  refine ⟨?_, hdata⟩
  have hbase : (UInt64.ofNat payloadOff).toNat = 20 := rfl
  dsimp only [payloadWindow]
  rw [hbase]
  omega

/-- The version and the payload length, at their places. -/
theorem meets_header {β : Type} (hdata : data.length < 2 ^ 63) (hwhole : 24 ≤ data.length)
    {seen : List ℕ} {f : UInt64 × UInt64 → Access Status β} {Q : List ℕ → β → Prop}
    {E : Status → Prop}
    (hrejected : UInt32.ofNat (Reader.ofLittleEndian ((data.drop 8).take 4)) ≠
      kPersistenceVersion → E (corrupt "unknown persistence version"))
    (hf : ∀ q s, ¬UInt32.ofNat (Reader.ofLittleEndian ((data.drop 8).take 4)) ≠
        kPersistenceVersion → (∀ i ∈ seen, i ∈ s) → (∀ i, 8 ≤ i → i < 20 → i ∈ s) →
      Access.Meets data.length s
        (f (UInt64.ofNat (Reader.ofLittleEndian ((data.drop 12).take 8)), q)) Q E) :
    Access.Meets data.length seen (Programs.header.run (headerWindow data) 0 >>= f) Q E := by
  have hbase : (headerWindow data).base.toNat = 8 := rfl
  have hrest : 12 ≤ (data.drop 8).length := by
    rw [List.length_drop]
    omega
  have hheader := readHeader_eq hrest
  rw [List.drop_drop] at hheader
  refine Programs.header.meets_run (headerWindow_inside hdata hwhole) (Nat.zero_le _)
    (fun e he => ?_) fun n q s hok _ hseen hcovered => ?_
  · rw [headerWindow_bytes hdata hwhole, UInt64.toNat_zero, hheader] at he
    split_ifs at he with hversion
    cases he
    exact hrejected hversion
  · rw [headerWindow_bytes hdata hwhole, UInt64.toNat_zero, hheader] at hok
    rw [hbase, UInt64.toNat_zero] at hcovered
    split_ifs at hok with hversion
    have hpair := Except.ok.inj hok
    have hn : UInt64.ofNat (Reader.ofLittleEndian ((data.drop 12).take 8)) = n :=
      congrArg Prod.fst hpair
    have hq : 12 = q.toNat := congrArg Prod.snd hpair
    have hrest := hf q s hversion hseen fun i hle hlt => hcovered i (by omega) (by omega)
    rwa [hn] at hrest

/-- The bytes of the state are read for the checksum and again by its reader, the others by
the checks before. -/
theorem loadFromBytes64_meets (hdata : data.length < 2 ^ 63) :
    Access.Meets data.length [] (loadFromBytes64 data)
      (fun s out => readSnapshot data = .ok out ∧ (∀ i, i < data.length → i ∈ s) ∧
        ∃ n, n.toNat + 24 = data.length ∧
          deserializeState (payloadWindow data n).bytes 0 = .ok (out, n.toNat))
      (fun status => readSnapshot data = .error (.rejected status)) := by
  have hlen := toNat_length hdata
  have hread := readSnapshot_eq data
  unfold loadFromBytes64
  refine Access.meets_rejectIf (fun hshort => ?_) fun hlong => ?_
  · rw [UInt64.lt_iff_toNat_lt, hlen] at hshort
    rw [hread]
    exact if_pos hshort
  rw [UInt64.lt_iff_toNat_lt, hlen] at hlong
  have hwhole : 24 ≤ data.length := Nat.le_of_not_lt hlong
  rw [if_neg (Nat.not_lt.mpr hwhole)] at hread
  refine Access.meets_load (show 0 + 8 ≤ data.length by omega) hdata ?_
  refine Access.meets_rejectIf (fun hmagic => ?_) fun hmagic => ?_
  · rw [hread]
    exact if_pos hmagic
  have hmagic' : ¬data.take 8 ≠ kMagic := hmagic
  rw [if_neg hmagic'] at hread
  refine meets_header hdata hwhole (fun hversion => ?_) fun q s hversion hseen hheader => ?_
  · rw [hread, if_pos hversion]
  rw [if_neg hversion] at hread
  generalize UInt64.ofNat (Reader.ofLittleEndian ((data.drop 12).take 8)) = n at hread ⊢
  dsimp only at hread ⊢
  have hlt : UInt64.ofNat data.length < totalLength n ↔
      data.length < (totalLength n).toNat := by
    rw [UInt64.lt_iff_toNat_lt, hlen]
  have heq : totalLength n ≠ UInt64.ofNat data.length ↔
      (totalLength n).toNat ≠ data.length := by
    rw [ne_eq, ne_eq, ← UInt64.toNat_inj, hlen]
  refine Access.meets_rejectIf (fun hshort => ?_) fun hshort => ?_
  · rw [hread, if_pos (hlt.mp hshort)]
  rw [if_neg (mt hlt.mpr hshort)] at hread
  refine Access.meets_rejectIf (fun htotal => ?_) fun htotal => ?_
  · rw [hread, if_pos (heq.mp htotal)]
  rw [if_neg (mt heq.mpr htotal)] at hread
  -- The sum did not wrap, so the payload is what lies between header and checksum.
  have hsize := (payloadLen_of_totalLength (not_not.mp (mt heq.mpr htotal)) hwhole).1
  have hwindow := payloadWindow_inside (n := n) hdata (by omega)
  have hcrcpos : (UInt64.ofNat data.length - UInt64.ofNat kCrcLen).toNat = data.length - 4 :=
    toNat_length_sub hdata (show 4 ≤ data.length by omega)
  have hcrc : (data.drop (data.length - 4)).take kCrcLen = data.drop (data.length - 4) := by
    refine List.take_of_length_le ?_
    rw [List.length_drop, kCrcLen]
    omega
  have hbytes : (payloadWindow data n).bytes = (data.drop 20).take (data.length - 24) := by
    rw [← hsize]
    rfl
  have hoff : (UInt64.ofNat payloadOff).toNat = 20 := rfl
  refine Access.meets_load (by rw [hcrcpos, kCrcLen]; omega) hdata ?_
  refine Access.meets_load (show 20 + n.toNat ≤ data.length by omega) hdata ?_
  rw [hcrcpos, hcrc, hoff, hsize]
  refine Access.meets_rejectIf (fun hchecksum => ?_) fun hchecksum => ?_
  · rw [hread, if_pos hchecksum]
  rw [if_neg hchecksum, ← hbytes] at hread
  rw [hread]
  refine (loadPayload64_meets hwindow).imp ?_ fun status h => h
  rintro t out ⟨hout, hstate, hseen'⟩
  refine ⟨hout, fun i hi => hseen' i ?_, n, by omega, hstate⟩
  have hmagic8 : i < 8 → i ∈ s := by
    intro h
    apply hseen
    have hend : (0 : UInt64).toNat + kMagicLen = 8 := rfl
    rw [List.nil_append, List.mem_range'_1, hend]
    exact ⟨Nat.zero_le i, h⟩
  by_cases h20 : i < 20
  · have his : i ∈ s := (Nat.lt_or_ge i 8).elim hmagic8 fun hle => hheader i hle h20
    simp only [List.mem_append, his, true_or]
  · simp only [List.mem_append, List.mem_range'_1, kCrcLen]
    omega

end Snapshots

/-! ## Frames -/

/-- Four bytes put together, as `decode_frames` and `parse_header` do. -/
def wordAt64 (data : List UInt8) (p : UInt64) : Access Status UInt32 := do
  let bs ← Access.load data p 4
  return UInt32.ofNat (Reader.ofLittleEndian bs)

/-- One turn of the loop of `decode_frames`: the frame at a position, and the next one. -/
def frameAt64 (data : List UInt8) (len pos : UInt64) : Access Status (Frame × UInt64) := do
  Access.rejectIf (len - pos < UInt64.ofNat kFrameHeaderLen)
    (protocolError "truncated frame header")
  let magic ← wordAt64 data pos
  Access.rejectIf (magic ≠ kProtocolMagic) (protocolError "malformed frame magic/version")
  let version ← wordAt64 data (pos + 4)
  let type ← wordAt64 data (pos + 8)
  let flen ← wordAt64 data (pos + 12)
  Access.rejectIf (version ≠ kProtocolVersion) (protocolError "unsupported protocol version")
  Access.rejectIf (kMaxFramePayload < flen.toNat) (protocolError "oversized frame")
  let need := UInt64.ofNat kFrameHeaderLen + flen.toUInt64 + UInt64.ofNat kFrameCrcLen
  Access.rejectIf (len - pos < need) (protocolError "truncated frame")
  let crc ← wordAt64 data (pos + UInt64.ofNat kFrameHeaderLen + flen.toUInt64)
  let checked ← Access.load data (pos + 8) (kFrameHeaderLen - 8 + flen.toNat)
  Access.rejectIf (crc ≠ crc32c checked) (protocolError "frame checksum mismatch")
  let payload ← Access.load data (pos + UInt64.ofNat kFrameHeaderLen) flen.toNat
  return (⟨type, payload⟩, pos + need)

/-- The bytes that a frame needs, in the sums of the source. -/
theorem toNat_need {flen : UInt32} (h : ¬kMaxFramePayload < flen.toNat) :
    (UInt64.ofNat kFrameHeaderLen + flen.toUInt64 + UInt64.ofNat kFrameCrcLen).toNat =
      flen.toNat + 20 := by
  unfold kMaxFramePayload at h
  simp only [UInt64.toNat_add, UInt64.toNat_ofNat', UInt32.toNat_toUInt64, kFrameHeaderLen,
    kFrameCrcLen]
  omega

/-- A turn goes on by at least the header and the checksum, and not past the end. -/
theorem frameAt64_advances {data : List UInt8} {len pos next : UInt64} {f : Frame}
    (h : (frameAt64 data len pos).value = .ok (f, next)) :
    (len - next).toNat < (len - pos).toNat := by
  unfold frameAt64 at h
  obtain ⟨-, h⟩ := Access.rejectIf_bind_ok h
  obtain ⟨magic, -, h⟩ := Access.bind_ok h
  obtain ⟨-, h⟩ := Access.rejectIf_bind_ok h
  obtain ⟨version, -, h⟩ := Access.bind_ok h
  obtain ⟨type, -, h⟩ := Access.bind_ok h
  obtain ⟨flen, -, h⟩ := Access.bind_ok h
  obtain ⟨-, h⟩ := Access.rejectIf_bind_ok h
  obtain ⟨hsize, h⟩ := Access.rejectIf_bind_ok h
  obtain ⟨hneed, h⟩ := Access.rejectIf_bind_ok h
  obtain ⟨crc, -, h⟩ := Access.bind_ok h
  obtain ⟨checked, -, h⟩ := Access.bind_ok h
  obtain ⟨-, h⟩ := Access.rejectIf_bind_ok h
  obtain ⟨payload, -, h⟩ := Access.bind_ok h
  have hnext : pos + _ = next := congrArg Prod.snd (Except.ok.inj h)
  have hlen := toNat_need hsize
  have hlen_lt := len.toNat_lt
  have hpos_lt := pos.toNat_lt
  rw [UInt64.lt_iff_toNat_lt, hlen, UInt64.toNat_sub] at hneed
  rw [← hnext, UInt64.toNat_sub, UInt64.toNat_add, hlen, UInt64.toNat_sub]
  omega

/-- The loop of `decode_frames`: the frames and the position it ends at, or the status it
returns with the frames before it. -/
def decodeFrames64 (data : List UInt8) (len pos : UInt64) (out : List Frame) :
    Access (Status × List Frame) (List Frame × UInt64) :=
  if pos < len then
    match _h : (frameAt64 data len pos).value with
    | .error status => ⟨(frameAt64 data len pos).indices, .error (status, out)⟩
    | .ok (f, next) =>
      (decodeFrames64 data len next (out ++ [f])).behind (frameAt64 data len pos).indices
  else ⟨[], .ok (out, pos)⟩
termination_by (len - pos).toNat
decreasing_by exact frameAt64_advances _h

/-! ### The loop against `decode_frames` -/

theorem wordAt_drop (data : List UInt8) (p k : ℕ) :
    wordAt (data.drop p) k = wordAt data (p + k) := by
  unfold wordAt
  rw [List.drop_drop]

section Frames

variable {data : List UInt8} {pos : UInt64} {seen : List ℕ}

theorem meets_wordAt64 {β : Type} {f : UInt32 → Access Status β} {Q : List ℕ → β → Prop}
    {E : Status → Prop} (hfits : pos.toNat + 4 ≤ data.length) (hdata : data.length < 2 ^ 63)
    (h : Access.Meets data.length (seen ++ List.range' pos.toNat 4) (f (wordAt data pos.toNat)) Q
      E) :
    Access.Meets data.length seen (wordAt64 data pos >>= f) Q E := by
  have hword : Access.Meets data.length seen (wordAt64 data pos)
      (fun s w => s = seen ++ List.range' pos.toNat 4 ∧ w = wordAt data pos.toNat) E := by
    unfold wordAt64
    refine Access.meets_load hfits hdata ?_
    exact Access.meets_pure ⟨rfl, rfl⟩
  refine hword.bind ?_
  rintro s w ⟨rfl, rfl⟩
  exact h

/-- One turn takes off the front frame, having read all its bytes, or gives up as
`decode_frames` does. -/
theorem frameAt64_meets (hdata : data.length < 2 ^ 63) (hpos : pos.toNat < data.length) :
    Access.Meets data.length seen (frameAt64 data (UInt64.ofNat data.length) pos)
      (fun s fn => fn.2.toNat ≤ data.length ∧
        (∀ out, decodeFrames (data.drop pos.toNat) out =
          decodeFrames (data.drop fn.2.toNat) (out ++ [fn.1])) ∧
        (∀ i ∈ seen, i ∈ s) ∧ ∀ i, pos.toNat ≤ i → i < fn.2.toNat → i ∈ s)
      (fun status => status.code = .protocolError ∧
        ∀ out, decodeFrames (data.drop pos.toNat) out = (status, out)) := by
  obtain ⟨b, hb⟩ : ∃ b, b = data.drop pos.toNat := ⟨_, rfl⟩
  have hblen : b.length = data.length - pos.toNat := by rw [hb, List.length_drop]
  have hne : b ≠ [] := by
    rintro rfl
    rw [List.length_nil] at hblen
    omega
  have hsize64 : (UInt64.ofNat data.length).toNat = data.length :=
    UInt64.toNat_ofNat_of_lt' (show data.length < 2 ^ 64 by omega)
  have hleft : (UInt64.ofNat data.length - pos).toNat = b.length := by
    rw [UInt64.toNat_sub_of_le _ _ (by rw [UInt64.le_iff_toNat_le]; omega), hsize64, hblen]
  have hword : ∀ k, wordAt data (pos.toNat + k) = wordAt b k := by
    intro k
    rw [hb, wordAt_drop]
  have hdrop : ∀ k, data.drop (pos.toNat + k) = b.drop k := by
    intro k
    rw [hb, List.drop_drop]
  have hadd : ∀ k, k < 2 ^ 62 → (pos + UInt64.ofNat k).toNat = pos.toNat + k :=
    fun k hk => Access.toNat_add_ofNat (by omega)
  have h4 : (pos + 4).toNat = pos.toNat + 4 := hadd 4 (by omega)
  have h8 : (pos + 8).toNat = pos.toNat + 8 := hadd 8 (by omega)
  have h12 : (pos + 12).toNat = pos.toNat + 12 := hadd 12 (by omega)
  have h16 : (pos + UInt64.ofNat kFrameHeaderLen).toNat = pos.toNat + 16 := hadd 16 (by omega)
  have hheader : UInt64.ofNat data.length - pos < UInt64.ofNat kFrameHeaderLen ↔
      b.length < kFrameHeaderLen := by
    rw [UInt64.lt_iff_toNat_lt, hleft]
    rfl
  rw [← hb]
  unfold frameAt64
  refine Access.meets_rejectIf (fun hshort => ⟨rfl, fun out => ?_⟩) fun hlong => ?_
  · rw [hheader] at hshort
    rw [decodeFrames_none hne (if_pos hshort), if_pos hshort]
  rw [hheader] at hlong
  have hwhole : 16 ≤ b.length := Nat.le_of_not_lt hlong
  -- The checks are those of `frontFrame`, one after the other.
  have hfront := frontFrame_eq hwhole rfl
  refine meets_wordAt64 (by omega) hdata ?_
  rw [← Nat.add_zero pos.toNat, hword, Nat.add_zero]
  refine Access.meets_rejectIf (fun hmagic => ?_) fun hmagic => ?_
  · rw [if_pos hmagic] at hfront
    exact ⟨rfl, decodeFrames_error hne hfront⟩
  rw [if_neg hmagic] at hfront
  refine meets_wordAt64 (by omega) hdata ?_
  refine meets_wordAt64 (by omega) hdata ?_
  refine meets_wordAt64 (by omega) hdata ?_
  rw [h4, h8, h12, hword, hword, hword]
  refine Access.meets_rejectIf (fun hversion => ?_) fun hversion => ?_
  · rw [if_pos hversion] at hfront
    exact ⟨rfl, decodeFrames_error hne hfront⟩
  rw [if_neg hversion] at hfront
  generalize wordAt b 12 = flen at hfront ⊢
  refine Access.meets_rejectIf (fun hsize => ?_) fun hsize => ?_
  · rw [if_pos hsize] at hfront
    exact ⟨rfl, decodeFrames_error hne hfront⟩
  have hneed := toNat_need hsize
  have hwaits : UInt64.ofNat data.length - pos < UInt64.ofNat kFrameHeaderLen +
      flen.toUInt64 + UInt64.ofNat kFrameCrcLen ↔ b.length < flen.toNat + 20 := by
    rw [UInt64.lt_iff_toNat_lt, hleft, hneed]
  rw [if_neg hsize] at hfront
  unfold kMaxFramePayload at hsize
  refine Access.meets_rejectIf (fun hshort => ⟨rfl, fun out => ?_⟩) fun hshort => ?_
  · rw [if_pos (hwaits.mp hshort)] at hfront
    rw [decodeFrames_none hne hfront, if_neg hlong]
  rw [hwaits] at hshort
  rw [if_neg hshort] at hfront
  have hcrcpos : (pos + UInt64.ofNat kFrameHeaderLen + flen.toUInt64).toNat =
      pos.toNat + (16 + flen.toNat) := by
    rw [UInt64.toNat_add, h16, UInt32.toNat_toUInt64]
    omega
  refine meets_wordAt64 (by omega) hdata ?_
  refine Access.meets_load (by unfold kFrameHeaderLen; omega) hdata ?_
  have hchecked : kFrameHeaderLen - 8 + flen.toNat = 8 + flen.toNat := rfl
  rw [hcrcpos, hword, h8, hdrop, hchecked]
  refine Access.meets_rejectIf (fun hcrc => ?_) fun hcrc => ?_
  · rw [if_pos hcrc] at hfront
    exact ⟨rfl, decodeFrames_error hne hfront⟩
  rw [if_neg hcrc] at hfront
  refine Access.meets_load (by omega) hdata ?_
  refine Access.meets_pure ?_
  have hnext : (pos + (UInt64.ofNat kFrameHeaderLen + flen.toUInt64 +
      UInt64.ofNat kFrameCrcLen)).toNat = pos.toNat + (flen.toNat + 20) := by
    rw [UInt64.toNat_add, hneed]
    omega
  dsimp only
  rw [hnext, h16, hdrop, hdrop]
  refine ⟨by omega, fun out => decodeFrames_front out hfront, fun i hi => ?_, fun i hle hlt => ?_⟩
  · simp only [List.mem_append, hi, true_or]
  · simp only [List.mem_append, List.mem_range'_1]
    omega

/-- The loop ends at the end of the input with every byte read, or where `decode_frames`
gives up. -/
theorem decodeFrames64_meets (hdata : data.length < 2 ^ 63) (hpos : pos.toNat ≤ data.length)
    (out : List Frame) :
    Access.Meets data.length seen (decodeFrames64 data (UInt64.ofNat data.length) pos out)
      (fun s fp => fp.2.toNat = data.length ∧
        decodeFrames (data.drop pos.toNat) out = (.good, fp.1) ∧
        (∀ i ∈ seen, i ∈ s) ∧ ∀ i, pos.toNat ≤ i → i < data.length → i ∈ s)
      (fun failed => failed.1.code = .protocolError ∧
        decodeFrames (data.drop pos.toNat) out = failed) := by
  have hsize : (UInt64.ofNat data.length).toNat = data.length :=
    UInt64.toNat_ofNat_of_lt' (show data.length < 2 ^ 64 by omega)
  -- Induction on the loop, with what is read so far growing.
  fun_induction decodeFrames64 data (UInt64.ofNat data.length) pos out generalizing seen with
  | case1 pos out hlt status hturn =>
    rw [UInt64.lt_iff_toNat_lt, hsize] at hlt
    obtain ⟨hinside, hvalue⟩ := @frameAt64_meets data pos seen hdata hlt
    rw [hturn] at hvalue
    exact ⟨hinside, hvalue.1, hvalue.2 out⟩
  | case2 pos out hlt f next hturn ih =>
    rw [UInt64.lt_iff_toNat_lt, hsize] at hlt
    obtain ⟨hinside, hvalue⟩ := @frameAt64_meets data pos seen hdata hlt
    rw [hturn] at hvalue
    obtain ⟨hnext, hdecode, hseen, hcovered⟩ := hvalue
    rw [hdecode out]
    refine Access.Meets.behind ((ih hnext).imp ?_ fun failed h => h) hinside
    rintro s fp ⟨hend, hgood, hseen', hcovered'⟩
    refine ⟨hend, hgood, fun i hi => hseen' i (hseen i hi), fun i hle hlt => ?_⟩
    by_cases hi : i < next.toNat
    · exact hseen' i (hcovered i hle hi)
    · exact hcovered' i (Nat.le_of_not_lt hi) hlt
  | case3 pos out hend =>
    rw [UInt64.lt_iff_toNat_lt, hsize] at hend
    have heq : pos.toNat = data.length := by omega
    refine Access.meets_pure ⟨heq, ?_, fun i hi => hi, fun i hle hlt => ?_⟩
    · rw [heq, List.drop_length, decodeFrames, if_pos rfl]
    · omega

theorem decodeFrames64_whole (hdata : data.length < 2 ^ 63) :
    Access.Meets data.length [] (decodeFrames64 data (UInt64.ofNat data.length) 0 [])
      (fun s fp => fp.2.toNat = data.length ∧ decodeFrames data [] = (.good, fp.1) ∧
        ∀ i, i < data.length → i ∈ s)
      (fun failed => failed.1.code = .protocolError ∧ decodeFrames data [] = failed) := by
  refine (decodeFrames64_meets hdata (Nat.zero_le _) []).imp ?_ fun failed h => h
  rintro s fp ⟨hend, hgood, -, hall⟩
  exact ⟨hend, hgood, fun i hi => hall i (Nat.zero_le i) hi⟩

end Frames

/-! ## Messages -/

/-- A message decoder on a payload, with the length it is given. -/
def decode64 {α : Type} {r : Reader Unit α} (p : Program r) (data : List UInt8) :
    Access Unit (α × UInt64) := p.run ⟨data, 0, UInt64.ofNat data.length⟩ 0

section Results

variable {data : List UInt8}

theorem decode64_follows {α : Type} {r : Reader Unit α} (p : Program r)
    (hdata : data.length < 2 ^ 63) :
    Program.Follows ⟨data, 0, UInt64.ofNat data.length⟩ 0 (decode64 p data) (r data 0) := by
  have hlen := toNat_length hdata
  have hzero : (0 : UInt64).toNat = 0 := UInt64.toNat_zero
  have hinside : (⟨data, 0, UInt64.ofNat data.length⟩ : Window).Inside := by
    refine ⟨?_, hdata⟩
    dsimp only
    omega
  have hbytes : (⟨data, 0, UInt64.ofNat data.length⟩ : Window).bytes = data := by
    rw [Window.bytes, hzero, hlen, List.drop_zero, List.take_length]
  have hfollows := Program.run_follows p hinside (p := 0) (Nat.zero_le _)
  rwa [hbytes, hzero] at hfollows

theorem decode64_inside {α : Type} {r : Reader Unit α} (p : Program r)
    (hdata : data.length < 2 ^ 63) : ∀ i ∈ (decode64 p data).indices, i < data.length := by
  have hlen := toNat_length hdata
  have hzero : (0 : UInt64).toNat = 0 := UInt64.toNat_zero
  have hfollows := decode64_follows p hdata
  generalize decode64 p data = x at hfollows
  generalize r data 0 = y at hfollows
  intro i hi
  cases hfollows with
  | ok inside => have := inside i hi; dsimp only at this; omega
  | rejected inside => have := inside i hi; dsimp only at this; omega

/-! ## The same results -/

/-- In 64-bit arithmetic the decoders of messages give the results they give in unbounded
arithmetic. -/
theorem decode_eq {α : Type} {r : Reader Unit α} (p : Program r) (hdata : data.length < 2 ^ 63) :
    Dist.decode r data = (decode64 p data).value.toOption.map Prod.fst := by
  have hfollows := decode64_follows p hdata
  unfold Dist.decode
  generalize decode64 p data = x at hfollows
  generalize r data 0 = y at hfollows
  cases hfollows with
  | ok => rfl
  | rejected => rfl

theorem loadFromBytes_eq (hdata : data.length < 2 ^ 63) (s : GovernorState) :
    loadFromBytes data s =
      match (loadFromBytes64 data).value with
      | .ok out => .ok (.good, out)
      | .error status => .ok (status, s) := by
  obtain ⟨-, hvalue⟩ := loadFromBytes64_meets hdata
  unfold loadFromBytes
  generalize (loadFromBytes64 data).value = value at hvalue ⊢
  cases value with
  | ok out =>
    rw [hvalue.1]
  | error status =>
    dsimp only at hvalue
    rw [hvalue]

theorem decodeFrames_eq (hdata : data.length < 2 ^ 63) :
    decodeFrames data [] =
      match (decodeFrames64 data (UInt64.ofNat data.length) 0 []).value with
      | .ok (fs, _) => (.good, fs)
      | .error failed => failed := by
  obtain ⟨-, hvalue⟩ := decodeFrames64_whole hdata
  generalize (decodeFrames64 data (UInt64.ofNat data.length) 0 []).value = value at hvalue ⊢
  cases value with
  | ok fp => exact hvalue.2.1
  | error failed => exact hvalue.2

theorem decodeFrames64_ok (hdata : data.length < 2 ^ 63) (h : (decodeFrames data []).1.isOk) :
    ∃ fs pos, (decodeFrames64 data (UInt64.ofNat data.length) 0 []).value = .ok (fs, pos) := by
  obtain ⟨-, hvalue⟩ := decodeFrames64_whole hdata
  generalize (decodeFrames64 data (UInt64.ofNat data.length) 0 []).value = value at hvalue ⊢
  cases value with
  | ok fp => exact ⟨fp.1, fp.2, rfl⟩
  | error failed =>
    obtain ⟨hcode, hsame⟩ := hvalue
    rw [hsame, Status.isOk_iff, hcode] at h
    cases h

end Results

/-- On any input below 2^63 bytes the parsers, which all are total, read inside the input; and
`load_from_bytes` and `decode_frames` succeed only when they have read all of it: the readers
of the state and of the frames then stand at the end of theirs. -/
theorem parsing_memory_safe (data : List UInt8) (hdata : data.length < 2 ^ 63) :
    (∀ i ∈ (loadFromBytes64 data).indices, i < data.length) ∧
    (∀ i ∈ (decodeFrames64 data (UInt64.ofNat data.length) 0 []).indices, i < data.length) ∧
    (∀ i ∈ (decode64 Programs.hello data).indices, i < data.length) ∧
    (∀ i ∈ (decode64 Programs.wireEvidence data).indices, i < data.length) ∧
    (∀ i ∈ (decode64 Programs.action data).indices, i < data.length) ∧
    (∀ i ∈ (decode64 Programs.ack data).indices, i < data.length) ∧
    (∀ out, (loadFromBytes64 data).value = .ok out →
      (∀ i < data.length, i ∈ (loadFromBytes64 data).indices) ∧
      ∃ n, n.toNat + 24 = data.length ∧
        (Programs.state.run (payloadWindow data n) 0).value = .ok (out, n)) ∧
    ∀ fs pos, (decodeFrames64 data (UInt64.ofNat data.length) 0 []).value = .ok (fs, pos) →
      pos.toNat = data.length ∧
      ∀ i < data.length, i ∈ (decodeFrames64 data (UInt64.ofNat data.length) 0 []).indices := by
  obtain ⟨hload, hloaded⟩ := loadFromBytes64_meets hdata
  obtain ⟨hframes, hdecoded⟩ := decodeFrames64_whole hdata
  refine ⟨hload, hframes, decode64_inside _ hdata, decode64_inside _ hdata,
    decode64_inside _ hdata, decode64_inside _ hdata, fun out hout => ?_, fun fs pos hpos => ?_⟩
  · rw [hout] at hloaded
    obtain ⟨-, hall, n, hn, hstate⟩ := hloaded
    refine ⟨hall, n, hn, ?_⟩
    have hfollows := Programs.state.run_follows (payloadWindow_inside hdata hn) (p := 0)
      (Nat.zero_le _)
    rw [UInt64.toNat_zero, hstate] at hfollows
    rw [hfollows.value_eq, UInt64.ofNat_toNat]
  · rw [hpos] at hdecoded
    obtain ⟨hend, -, hall⟩ := hdecoded
    exact ⟨hend, hall⟩

/-- An encoded frame is read to its end. -/
theorem parsing_memory_safe_frame :
    ∃ fs pos, (decodeFrames64 (encodeFrame MsgType.shutdown [7])
      (UInt64.ofNat (encodeFrame MsgType.shutdown [7]).length) 0 []).value = .ok (fs, pos) ∧
      pos.toNat = 21 := by
  have hlen : (encodeFrame MsgType.shutdown [7]).length = 21 := length_encodeFrame _ _
  have hsmall : (encodeFrame MsgType.shutdown [7]).length < 2 ^ 63 := by rw [hlen]; decide
  have hpayload : ∀ f ∈ [Frame.mk MsgType.shutdown [7]], f.payload.length ≤ kMaxFramePayload :=
    List.forall_mem_singleton.mpr (show 1 ≤ kMaxFramePayload by decide)
  have hgood := decodeFrames_encodeFrames hpayload []
  rw [encodeFrames, List.flatMap_singleton] at hgood
  obtain ⟨fs, pos, hvalue⟩ := decodeFrames64_ok hsmall (by rw [hgood]; rfl)
  have hend := ((parsing_memory_safe (encodeFrame MsgType.shutdown [7]) hsmall).2.2.2.2.2.2.2
    fs pos hvalue).1
  exact ⟨fs, pos, hvalue, hend.trans hlen⟩

end ContentionGovernor
