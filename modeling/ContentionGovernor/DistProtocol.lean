import ContentionGovernor.Net
import ContentionGovernor.Snapshot

/-!
# Messages between coordinator and workers

`protocol.hpp` and `protocol.cpp`.  The `Writer` and `Reader` of this protocol write and read
bytes, words and strings as those of the snapshot do, and leave what stands behind the last
field unread.
-/

namespace ContentionGovernor.Dist

open Reader (Reads Refuses littleEndian ofLittleEndian)

structure WorkerHello where
  worker : WorkerId := {}
  boot : WorkerBootId := {}
  workloadGen : WorkloadGeneration := {}
  role : ByteString := ""
deriving DecidableEq

structure WireAction where
  id : InterventionId := {}
  cls : InterventionClass
  target : WorkloadId := {}
  attempt : AttemptId := {}
  intensity : Double := 1.0

structure WireAck where
  id : InterventionId := {}
  attempt : AttemptId := {}
  acknowledged : Bool := false
  note : ByteString := ""
deriving DecidableEq

/-- The bound on neighbors and on confounders. -/
def kMaxWireList : ℕ := 1024

/-! ## Encoding -/

open W in
def encodeHello (h : WorkerHello) : List UInt8 := List.flatten
  [wid h.worker, wid h.boot, wid h.workloadGen, str h.role]

open W in
def encodeEvidence (e : InterferenceEvidence) : List UInt8 := List.flatten
  [wid e.id, wid e.generation, wid e.victim, list wid e.neighbors, enum e.domain,
    enum e.metric, f64 e.isolatedBaseline, f64 e.coRunObservation, enum e.attribution,
    f64 e.confidence, u64 e.sampleCount, enum e.status, u64 e.sampledAt, u64 e.maxAgeMs,
    enum e.label, str e.sourceId, str e.sourceHealth, wid e.workerBoot,
    wid e.workloadGeneration, wid e.deviceGeneration, wid e.hostGeneration,
    wid e.topologyGeneration, wid e.resourceGeneration, wid e.placementGeneration,
    u64 e.activeFrom, u64 e.activeUntil, list str e.unresolvedConfounders]

open W in
def encodeAction (a : WireAction) : List UInt8 := List.flatten
  [wid a.id, wid a.target, wid a.attempt, enum a.cls, f64 a.intensity]

open W in
def encodeAck (a : WireAck) : List UInt8 := List.flatten
  [wid a.id, wid a.attempt, flag a.acknowledged, str a.note]

/-! ## Decoding -/

def readHello : Reader Unit WorkerHello := do
  let worker ← R.id
  let boot ← R.id
  let workloadGen ← R.id
  let role ← R.str
  return { worker, boot, workloadGen, role }

/-- The two derived fractions are not on the wire and keep their defaults. -/
def readEvidence : Reader Unit InterferenceEvidence := do
  let id ← R.id
  let generation ← R.id
  let victim ← R.id
  let neighbors ← Reader.counted () kMaxWireList R.id
  let domain ← R.enum 14
  let metric ← R.enum 2
  let isolatedBaseline ← R.f64
  let coRunObservation ← R.f64
  let attribution ← R.enum 6
  let confidence ← R.f64
  let sampleCount ← R.u64
  let status ← R.enum 8
  let sampledAt ← R.u64
  let maxAgeMs ← R.u64
  let label ← R.enum 6
  let sourceId ← R.str
  let sourceHealth ← R.str
  let workerBoot ← R.id
  let workloadGeneration ← R.id
  let deviceGeneration ← R.id
  let hostGeneration ← R.id
  let topologyGeneration ← R.id
  let resourceGeneration ← R.id
  let placementGeneration ← R.id
  let activeFrom ← R.u64
  let activeUntil ← R.u64
  let unresolvedConfounders ← Reader.counted () kMaxWireList R.str
  return {
    id, generation, victim, neighbors, domain, metric, isolatedBaseline, coRunObservation
    attribution, confidence, sampleCount, status, sampledAt, maxAgeMs, label, sourceId
    sourceHealth, workerBoot, workloadGeneration, deviceGeneration, hostGeneration
    topologyGeneration, resourceGeneration, placementGeneration, activeFrom, activeUntil
    unresolvedConfounders }

def readAction : Reader Unit WireAction := do
  let id ← R.id
  let target ← R.id
  let attempt ← R.id
  let cls ← R.enum 21
  let intensity ← R.f64
  return { id, cls, target, attempt, intensity }

def readAck : Reader Unit WireAck := do
  let id ← R.id
  let attempt ← R.id
  let acknowledged ← R.flag
  let note ← R.str
  return { id, attempt, acknowledged, note }

/-- A reader run on a payload from its first byte. -/
def decode {α : Type} (read : Reader Unit α) (d : List UInt8) : Option α :=
  match read d 0 with
  | .ok (a, _) => some a
  | .error _ => none

def decodeHello : List UInt8 → Option WorkerHello := decode readHello
def decodeEvidence : List UInt8 → Option InterferenceEvidence := decode readEvidence
def decodeAction : List UInt8 → Option WireAction := decode readAction
def decodeAck : List UInt8 → Option WireAck := decode readAck

/-! ## Reading back what was written -/

theorem decode_of_reads {α : Type} {read : Reader Unit α} {bs : List UInt8} {a : α}
    (h : Reads read bs a) : decode read bs = some a := by
  have hd := h [] []
  simp only [List.nil_append, List.append_nil, List.length_nil] at hd
  simp [decode, hd]

theorem decode_of_refuses {α : Type} {read : Reader Unit α} {bs : List UInt8}
    (h : Refuses read bs) : decode read bs = none := by
  obtain ⟨e, he⟩ := h [] []
  simp only [List.nil_append, List.append_nil, List.length_nil] at he
  simp [decode, he]

theorem reads_hello {h : WorkerHello} (hrole : StringFits h.role) :
    Reads readHello (encodeHello h) h := by
  unfold readHello encodeHello
  have hstr := reads_str hrole
  apply_rules [reads_id, Reads.finish, Reads.field]

theorem decodeHello_encodeHello {h : WorkerHello} (hrole : StringFits h.role) :
    decodeHello (encodeHello h) = some h := decode_of_reads (reads_hello hrole)

/-- An observation that fits the wire. -/
structure WireFits (e : InterferenceEvidence) : Prop where
  neighbors : e.neighbors.length ≤ kMaxWireList
  attribution : ByteEnum.raw e.attribution < 6
  sourceId : StringFits e.sourceId
  sourceHealth : StringFits e.sourceHealth
  confounders : e.unresolvedConfounders.length ≤ kMaxWireList
  strings : ∀ c ∈ e.unresolvedConfounders, StringFits c

theorem reads_wireEvidence {e : InterferenceEvidence} (h : WireFits e) :
    Reads readEvidence (encodeEvidence e) { e with degradation := 0.0, improvement := 0.0 } := by
  have hneighbors : Reads (Reader.counted () kMaxWireList R.id) (W.list W.wid e.neighbors)
      e.neighbors := Reads.counted (fun w _ => reads_id w) h.neighbors (by decide)
  have hconfounders : Reads (Reader.counted () kMaxWireList R.str)
      (W.list W.str e.unresolvedConfounders) e.unresolvedConfounders :=
    Reads.counted (fun c hc => reads_str (h.strings c hc)) h.confounders (by decide)
  have hdomain : ByteEnum.raw e.domain < 14 := by cases e.domain <;> decide
  have hmetric : ByteEnum.raw e.metric < 2 := by cases e.metric <;> decide
  have hattribution := reads_enum h.attribution
  have hstatus : ByteEnum.raw e.status < 8 := by cases e.status <;> decide
  have hlabel : ByteEnum.raw e.label < 6 := by cases e.label <;> decide
  have hsourceId := reads_str h.sourceId
  have hsourceHealth := reads_str h.sourceHealth
  unfold readEvidence encodeEvidence
  refine (reads_id _).field ((reads_id _).field ((reads_id _).field (hneighbors.field ?_)))
  refine (reads_enum hdomain).field ((reads_enum hmetric).field ?_)
  refine (reads_f64 _).field ((reads_f64 _).field (hattribution.field ?_))
  refine (reads_f64 _).field ((reads_u64 _).field ((reads_enum hstatus).field ?_))
  refine (reads_u64 _).field ((reads_u64 _).field ((reads_enum hlabel).field ?_))
  refine hsourceId.field (hsourceHealth.field ?_)
  iterate 7 refine (reads_id _).field ?_
  exact (reads_u64 _).field ((reads_u64 _).field (hconfounders.field (Reads.finish _)))

theorem decodeEvidence_encodeEvidence {e : InterferenceEvidence} (h : WireFits e) :
    decodeEvidence (encodeEvidence e) = some { e with degradation := 0.0, improvement := 0.0 } :=
  decode_of_reads (reads_wireEvidence h)

theorem reads_action (a : WireAction) : Reads readAction (encodeAction a) a := by
  have hcls : ByteEnum.raw a.cls < 21 := by cases a.cls <;> decide
  unfold readAction encodeAction
  refine (reads_id _).field ((reads_id _).field ((reads_id _).field ?_))
  exact (reads_enum hcls).field ((reads_f64 _).field (Reads.finish _))

theorem decodeAction_encodeAction (a : WireAction) : decodeAction (encodeAction a) = some a :=
  decode_of_reads (reads_action a)

theorem decodeAck_encodeAck {a : WireAck} (hnote : StringFits a.note) :
    decodeAck (encodeAck a) = some a := by
  apply decode_of_reads
  unfold readAck encodeAck
  refine (reads_id _).field ((reads_id _).field ((reads_flag _).field ?_))
  exact (reads_str hnote).field (Reads.finish _)

/-! ## One message read as another -/

theorem ofLittleEndian_append (as bs : List UInt8) :
    ofLittleEndian (as ++ bs) = ofLittleEndian as + 256 ^ as.length * ofLittleEndian bs := by
  induction as with
  | nil => simp [ofLittleEndian]
  | cons a as ih =>
    rw [List.cons_append, ofLittleEndian, ofLittleEndian, ih, List.length_cons, pow_succ']
    ring

/-- Eight bytes with a top byte other than 0 are the length of no string. -/
theorem refuses_str {bs : List UInt8} (h : bs.length = 7) {c : UInt8} (hc : c ≠ 0) :
    Refuses R.str (bs ++ [c]) := by
  have hlen : (bs ++ [c]).length = 8 := by simp [h]
  have hword : Reads R.u64 (bs ++ [c]) (UInt64.ofNat (ofLittleEndian (bs ++ [c]))) := by
    have hbytes := (Reads.bytes () (bs ++ [c])).map
      (f := fun bs => UInt64.ofNat (ofLittleEndian bs))
    rw [hlen] at hbytes
    exact hbytes
  have hlt := Reader.ofLittleEndian_lt (bs ++ [c])
  rw [hlen] at hlt
  have hpos : 0 < c.toNat := Nat.pos_of_ne_zero fun h0 => hc (UInt8.toNat_inj.mp h0)
  have hlarge : kMaxStringLen < ofLittleEndian (bs ++ [c]) := by
    rw [ofLittleEndian_append, h]
    simp only [ofLittleEndian, kMaxStringLen]
    omega
  rw [← List.append_nil (bs ++ [c])]
  refine hword.bind_refuses ?_
  rw [UInt64.toNat_ofNat_of_lt' hlt, if_pos hlarge]
  exact Refuses.reject () []

theorem reads_anyFlag (b : UInt8) : Reads R.flag [b] (b != 0) := (Reads.u8 () b).map

/-- Two words, a flag, and a note that asks for 2^56 bytes or more. -/
theorem refuses_ack (id generation : UInt64) (low : UInt8) {bs : List UInt8} (h : bs.length = 7)
    (rest : List UInt8) : Refuses readAck
      (W.u64 id ++ (W.u64 generation ++ ([low] ++ ((bs ++ [1]) ++ rest)))) := by
  have hnote := refuses_str h (c := 1) (by decide)
  unfold readAck
  refine (reads_id ⟨id⟩).bind_refuses ((reads_id ⟨generation⟩).bind_refuses ?_)
  exact (reads_anyFlag low).bind_refuses (hnote.bind _ rest)

/-- A word and the count of a list of one, cut where an acknowledgement is cut. -/
theorem word_count_one (v : UInt64) (rest : List UInt8) : W.u64 v ++ (W.size 1 ++ rest) =
    [UInt8.ofNat v.toNat] ++
      ((littleEndian 7 (v.toNat / 256) ++ [1]) ++ (littleEndian 7 0 ++ rest)) := by
  have hsize : W.size 1 = [1] ++ littleEndian 7 0 := by
    rw [W.size, littleEndian]
    rfl
  rw [W.u64, littleEndian, hsize]
  simp only [List.append_assoc, List.cons_append, List.nil_append]

/-- An observation with one neighbor is no acknowledgement: the count of its neighbors is
read as the top byte of a length. -/
theorem decodeAck_encodeEvidence {e : InterferenceEvidence} (h : e.neighbors.length = 1) :
    decodeAck (encodeEvidence e) = none := by
  have hcut : ∃ rest, encodeEvidence e = W.u64 e.id.value ++ (W.u64 e.generation.value ++
      (W.u64 e.victim.value ++ (W.size 1 ++ rest))) := by
    rw [encodeEvidence, List.flatten_cons, List.flatten_cons, List.flatten_cons,
      List.flatten_cons, W.list, h, List.append_assoc]
    exact ⟨_, rfl⟩
  obtain ⟨rest, hrest⟩ := hcut
  rw [hrest, word_count_one]
  exact decode_of_refuses (refuses_ack _ _ _ (Reader.length_littleEndian 7 _) _)

end ContentionGovernor.Dist
