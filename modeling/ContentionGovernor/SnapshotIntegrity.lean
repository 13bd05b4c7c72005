import ContentionGovernor.SnapshotRoundTrip

/-!
# Detection of corrupted snapshots

Two frames that agree outside four consecutive payload bytes are equal, and a
frame determines where it ends.  So no altered snapshot is a frame, and only
frames are loaded.
-/

namespace ContentionGovernor

open Reader

/-- The alterations of a file whose payload of `n` bytes starts at byte 20. -/
inductive Corruption (b : List UInt8) (n : ℕ) : List UInt8 → Prop
  | byte (i : ℕ) (v : UInt8) (hi : i < b.length) (hv : b[i]? ≠ some v) : Corruption b n (b.set i v)
  | burst (b' : List UInt8) (k : ℕ) (hne : b' ≠ b) (hlen : b'.length = b.length)
      (hsame : ∀ j, ¬(k ≤ j ∧ j < k + 4 ∧ payloadOff ≤ j ∧ j < payloadOff + n) → b'[j]? = b[j]?) :
      Corruption b n b'
  | truncated (m : ℕ) (hm : m < b.length) : Corruption b n (b.take m)
  | extended (suffix : List UInt8) (hs : suffix ≠ []) : Corruption b n (b ++ suffix)

theorem frame_payload_get (p : List UInt8) {j : ℕ} (h : j < p.length) :
    (frame p)[payloadOff + j]? = p[j]? := by
  rw [frame_eq, List.getElem?_append_right (by rw [length_header]; omega), length_header,
    Nat.add_sub_cancel_left, List.getElem?_append_left h]

theorem frame_crc_get (p : List UInt8) (j : ℕ) :
    (frame p)[payloadOff + p.length + j]? = (W.u32 (crc32c p))[j]? := by
  rw [frame_eq, List.getElem?_append_right (by rw [length_header]; omega), length_header,
    List.getElem?_append_right (by omega)]
  congr 1
  omega

theorem u32_injective {a b : UInt32} (h : W.u32 a = W.u32 b) : a = b := by
  rw [← ofLittleEndian_wu32 a, h, ofLittleEndian_wu32]

theorem size_injective {m n : ℕ} (hm : m < 2 ^ 64) (hn : n < 2 ^ 64)
    (h : W.size m = W.size n) : m = n := by
  rw [← ofLittleEndian_size hm, h, ofLittleEndian_size hn]

/-- The header of a frame fixes the length of its payload. -/
theorem length_of_header {p p' : List UInt8} (hp : p.length + 24 < 2 ^ 64)
    (hp' : p'.length + 24 < 2 ^ 64)
    (h : (frame p).take payloadOff = (frame p').take payloadOff) : p.length = p'.length := by
  rw [frame_eq, frame_eq, List.take_left' (length_header _), List.take_left' (length_header _)] at h
  exact size_injective (by omega) (by omega) (List.append_cancel_left (List.append_cancel_left h))

/-- Frames of one length that agree outside four consecutive payload bytes are equal. -/
theorem frame_window_eq {p p' : List UInt8} (k : ℕ) (hlen : p'.length = p.length)
    (hsame : ∀ j, ¬(k ≤ j ∧ j < k + 4 ∧ payloadOff ≤ j ∧ j < payloadOff + p.length) →
      (frame p')[j]? = (frame p)[j]?) : p' = p := by
  have hcrc : crc32c p' = crc32c p := by
    apply u32_injective
    apply List.ext_getElem?
    intro j
    rw [← frame_crc_get, ← frame_crc_get, hlen]
    exact hsame _ (by omega)
  refine eq_of_crc32c_eq (k - payloadOff) hlen hcrc fun j hj => ?_
  by_cases hin : j < p.length
  · rw [← frame_payload_get p' (hlen ▸ hin), ← frame_payload_get p hin]
    exact hsame _ (by omega)
  · rw [List.getElem?_eq_none (by omega), List.getElem?_eq_none (by omega)]

theorem frame_sealed (p : List UInt8) : frame p = header p.length ++ sealed p := frame_eq p

/-- Changing one byte of a frame does not give a frame. -/
theorem frame_set_ne {p p' : List UInt8} {i : ℕ} {v : UInt8} (hi : i < (frame p).length)
    (hv : (frame p)[i]? ≠ some v) : (frame p).set i v ≠ frame p' := by
  intro hb
  have hlen : p'.length = p.length := by
    have h := congrArg List.length hb
    rw [List.length_set, length_frame, length_frame] at h
    omega
  rw [frame_sealed] at hi hv
  rw [frame_sealed, frame_sealed, hlen] at hb
  exact start_sealed_set_ne hi hv hlen hb

/-- No altered frame is a frame. -/
theorem Corruption.not_frame {p p' b' : List UInt8} (h : Corruption (frame p) p.length b')
    (hp : p.length + 24 < 2 ^ 64) (hp' : p'.length + 24 < 2 ^ 64) : b' ≠ frame p' := by
  cases h with
  | byte i v hi hv => exact frame_set_ne hi hv
  | burst b' k hne hlen hsame =>
    rintro rfl
    rw [length_frame, length_frame] at hlen
    exact hne (congrArg frame (frame_window_eq k (by omega) hsame))
  | truncated m hm =>
    intro hb
    have hlength := congrArg List.length hb
    rw [List.length_take, length_frame] at hlength
    rw [length_frame] at hlength hm
    have hhead : (frame p).take payloadOff = (frame p').take payloadOff := by
      rw [← hb, List.take_take, Nat.min_eq_left (by simp only [payloadOff, kMagicLen]; omega)]
    have := length_of_header hp hp' hhead
    omega
  | extended suffix hs =>
    intro hb
    have hlength := congrArg List.length hb
    rw [List.length_append, length_frame, length_frame] at hlength
    have hhead : (frame p).take payloadOff = (frame p').take payloadOff := by
      rw [← hb, List.take_append_of_le_length]
      rw [length_frame, payloadOff, kMagicLen]
      omega
    have hsuffix := List.length_pos_iff.mpr hs
    have := length_of_header hp hp' hhead
    omega

/-- Whatever byte, window, truncation or suffix alters the snapshot of any state, it is
reported as corrupt and the destination keeps its state. -/
theorem corrupted_snapshot_rejected (s dest : GovernorState) (b' : List UInt8)
    (hlen : (serializeState s).length < 2 ^ 63)
    (h : Corruption (saveToBytes s) (serializeState s).length b') :
    ∃ status : Status, status.code = .persistenceCorrupt ∧
      loadFromBytes b' dest = .ok (status, dest) := by
  rcases loadFromBytes_cases b' dest with ⟨payload, out, hframe, hpayload, -, -⟩ | ⟨message, hbad⟩
  · exact absurd hframe (h.not_frame (by omega) hpayload)
  · exact ⟨corrupt message, rfl, hbad⟩

/-- Byte 869 starts the name of an evidence source: it is changed alone, and then
together with the byte three places on. -/
theorem corrupted_snapshot_rejected_probe :
    (∃ status : Status, status.code = .persistenceCorrupt ∧
      loadFromBytes ((saveToBytes (reached lostThrottle)).set 869 99) {} = .ok (status, {})) ∧
    ∃ status : Status, status.code = .persistenceCorrupt ∧
      loadFromBytes (((saveToBytes (reached lostThrottle)).set 869 99).set 872 99) {} =
        .ok (status, {}) := by
  have hlen : (serializeState (reached lostThrottle)).length = 1801 := by decide +kernel
  have hall : (saveToBytes (reached lostThrottle)).length = 1825 :=
    (length_frame _).trans (by rw [hlen])
  have hsource : (saveToBytes (reached lostThrottle))[869]? ≠ some 99 := by decide +kernel
  have hsize : (serializeState (reached lostThrottle)).length < 2 ^ 63 := by omega
  refine ⟨corrupted_snapshot_rejected _ {} _ hsize (.byte 869 99 (by omega) hsource),
    corrupted_snapshot_rejected _ {} _ hsize (.burst _ 869 ?_ ?_ ?_)⟩
  · intro hsame
    rw [← hsame, List.getElem?_set_ne (by decide), List.getElem?_set_self (by omega)] at hsource
    exact hsource rfl
  · rw [List.length_set, List.length_set]
  · intro j hj
    rw [hlen] at hj
    simp only [payloadOff, kMagicLen] at hj
    rw [List.getElem?_set_ne (by omega), List.getElem?_set_ne (by omega)]

end ContentionGovernor
