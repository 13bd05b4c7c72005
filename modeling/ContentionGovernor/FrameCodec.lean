import ContentionGovernor.Net
import ContentionGovernor.Lib.FrameStream

/-!
# The frame codec

`decode_frames` accepts the concatenations of encoded frames and nothing else.
-/

namespace ContentionGovernor

open Reader (littleEndian ofLittleEndian length_littleEndian ofLittleEndian_u32
  u32_ofLittleEndian)

/-! ## One frame -/

@[simp] theorem length_pu32 (v : UInt32) : (pu32 v).length = 4 := length_littleEndian 4 _

theorem encodeFrame_eq (type : MsgType) (payload : List UInt8) :
    encodeFrame type payload = pu32 kProtocolMagic ++ (pu32 kProtocolVersion ++ (pu32 type ++
      (pu32 (UInt32.ofNat payload.length) ++ (payload ++
        pu32 (crc32c (pu32 type ++ (pu32 (UInt32.ofNat payload.length) ++ payload))))))) := by
  -- The checksum starts behind magic and version.
  have hdrop : ∀ x : List UInt8,
      (pu32 kProtocolMagic ++ (pu32 kProtocolVersion ++ x)).drop 8 = x := by
    intro x
    rw [← List.append_assoc]
    exact List.drop_left' (by simp)
  unfold encodeFrame
  dsimp only
  rw [hdrop]
  simp only [List.append_assoc]

@[simp] theorem length_encodeFrame (type : MsgType) (payload : List UInt8) :
    (encodeFrame type payload).length = payload.length + 20 := by
  rw [encodeFrame_eq]
  simp only [List.length_append, length_pu32]
  omega

/-- `frontFrame` on a buffer with a whole header. -/
theorem frontFrame_eq {b : List UInt8} (h : 16 ≤ b.length) {len : ℕ}
    (hlen : (wordAt b 12).toNat = len) :
    frontFrame b =
      if wordAt b 0 ≠ kProtocolMagic then
        .error (protocolError "malformed frame magic/version")
      else if wordAt b 4 ≠ kProtocolVersion then
        .error (protocolError "unsupported protocol version")
      else if kMaxFramePayload < len then .error (protocolError "oversized frame")
      else if b.length < len + 20 then .ok none
      else if wordAt b (16 + len) ≠ crc32c ((b.drop 8).take (8 + len)) then
        .error (protocolError "frame checksum mismatch")
      else .ok (some (⟨wordAt b 8, (b.drop 16).take len⟩, b.drop (len + 20))) := by
  have hneed : 16 + len + 4 = len + 20 := by omega
  unfold frontFrame checkHeader parseHeader
  rw [if_neg (by unfold kFrameHeaderLen; omega)]
  by_cases hmagic : wordAt b 0 ≠ kProtocolMagic
  · rw [if_pos hmagic, if_pos hmagic]
    rfl
  rw [if_neg hmagic, if_neg hmagic]
  dsimp only
  by_cases hversion : wordAt b 4 ≠ kProtocolVersion
  · rw [if_pos hversion, if_pos hversion]
    rfl
  rw [if_neg hversion, if_neg hversion, hlen]
  by_cases hsize : kMaxFramePayload < len
  · rw [if_pos hsize, if_pos hsize]
    rfl
  rw [if_neg hsize, if_neg hsize, ok_bind]
  simp only [Header.need, checkFrame, hlen, kFrameHeaderLen, kFrameCrcLen, hneed]
  by_cases hshort : b.length < len + 20
  · rw [if_pos hshort, if_pos hshort]
    rfl
  rw [if_neg hshort, if_neg hshort]
  by_cases hcrc : wordAt b (16 + len) ≠ crc32c ((b.drop 8).take (8 + len))
  · rw [if_pos hcrc, if_pos hcrc]
    rfl
  · rw [if_neg hcrc, if_neg hcrc]
    rfl

section Parts

variable {m v t l tail : List UInt8}

theorem drop_word {w x : List UInt8} (hw : w.length = 4) (k : ℕ) :
    (w ++ x).drop (4 + k) = x.drop k := by
  rw [← List.drop_drop, List.drop_left' hw]

/-- `frontFrame` on a buffer cut into the four words of a header and what follows. -/
theorem frontFrame_append (hm : m.length = 4) (hv : v.length = 4) (ht : t.length = 4)
    (hl : l.length = 4) {len : ℕ} (hlen : (UInt32.ofNat (ofLittleEndian l)).toNat = len) :
    frontFrame (m ++ (v ++ (t ++ (l ++ tail)))) =
      if UInt32.ofNat (ofLittleEndian m) ≠ kProtocolMagic then
        .error (protocolError "malformed frame magic/version")
      else if UInt32.ofNat (ofLittleEndian v) ≠ kProtocolVersion then
        .error (protocolError "unsupported protocol version")
      else if kMaxFramePayload < len then .error (protocolError "oversized frame")
      else if tail.length < len + 4 then .ok none
      else if UInt32.ofNat (ofLittleEndian ((tail.drop len).take 4)) ≠
          crc32c (t ++ (l ++ tail.take len)) then
        .error (protocolError "frame checksum mismatch")
      else .ok (some (⟨UInt32.ofNat (ofLittleEndian t), tail.take len⟩, tail.drop (len + 4))) := by
  have h4 : (m ++ (v ++ (t ++ (l ++ tail)))).drop 4 = v ++ (t ++ (l ++ tail)) :=
    List.drop_left' hm
  have h8 : (m ++ (v ++ (t ++ (l ++ tail)))).drop 8 = t ++ (l ++ tail) := by
    rw [show 8 = 4 + (4 + 0) from rfl, drop_word hm, drop_word hv, List.drop_zero]
  have h12 : (m ++ (v ++ (t ++ (l ++ tail)))).drop 12 = l ++ tail := by
    rw [show 12 = 4 + (4 + (4 + 0)) from rfl, drop_word hm, drop_word hv, drop_word ht,
      List.drop_zero]
  have h16 : ∀ k, (m ++ (v ++ (t ++ (l ++ tail)))).drop (16 + k) = tail.drop k := by
    intro k
    rw [show 16 + k = 4 + (4 + (4 + (4 + k))) by omega, drop_word hm, drop_word hv,
      drop_word ht, drop_word hl]
  have hlength : (m ++ (v ++ (t ++ (l ++ tail)))).length = 16 + tail.length := by
    simp only [List.length_append, hm, hv, ht, hl]
    omega
  have hchecked : (t ++ (l ++ tail)).take (8 + len) = t ++ (l ++ tail.take len) := by
    rw [List.take_append, List.take_append, ht, hl, List.take_of_length_le (by omega),
      List.take_of_length_le (by omega), show 8 + len - 4 - 4 = len by omega]
  have hmagic : wordAt (m ++ (v ++ (t ++ (l ++ tail)))) 0 = UInt32.ofNat (ofLittleEndian m) := by
    rw [wordAt, List.drop_zero, List.take_left' hm]
  have hversion : wordAt (m ++ (v ++ (t ++ (l ++ tail)))) 4 =
      UInt32.ofNat (ofLittleEndian v) := by
    rw [wordAt, h4, List.take_left' hv]
  have htype : wordAt (m ++ (v ++ (t ++ (l ++ tail)))) 8 = UInt32.ofNat (ofLittleEndian t) := by
    rw [wordAt, h8, List.take_left' ht]
  have hsize : wordAt (m ++ (v ++ (t ++ (l ++ tail)))) 12 = UInt32.ofNat (ofLittleEndian l) := by
    rw [wordAt, h12, List.take_left' hl]
  have hcrc : wordAt (m ++ (v ++ (t ++ (l ++ tail)))) (16 + len) =
      UInt32.ofNat (ofLittleEndian ((tail.drop len).take 4)) := by
    rw [wordAt, h16]
  have hshort : (16 + tail.length < len + 20) = (tail.length < len + 4) := by
    apply propext
    omega
  have hpayload : (m ++ (v ++ (t ++ (l ++ tail)))).drop 16 = tail := h16 0
  have hrest : (m ++ (v ++ (t ++ (l ++ tail)))).drop (len + 20) = tail.drop (len + 4) := by
    rw [show len + 20 = 16 + (len + 4) by omega, h16]
  have hwhole : 16 ≤ (m ++ (v ++ (t ++ (l ++ tail)))).length := by omega
  rw [frontFrame_eq hwhole ((congrArg UInt32.toNat hsize).trans hlen), hmagic, hversion, htype,
    hcrc, h8, hchecked, hpayload, hrest, hlength]
  simp only [hshort]

end Parts

/-- A buffer of four bytes or more starts with a word. -/
theorem exists_word {b : List UInt8} (h : 4 ≤ b.length) :
    ∃ w rest, w.length = 4 ∧ b = w ++ rest ∧ rest.length = b.length - 4 :=
  ⟨b.take 4, b.drop 4, by rw [List.length_take]; omega, (List.take_append_drop 4 b).symm,
    List.length_drop⟩

theorem exists_header {b : List UInt8} (h : 16 ≤ b.length) :
    ∃ m v t l tail, m.length = 4 ∧ v.length = 4 ∧ t.length = 4 ∧ l.length = 4 ∧
      b = m ++ (v ++ (t ++ (l ++ tail))) := by
  obtain ⟨m, x, hm, rfl, hx⟩ := exists_word (b := b) (by omega)
  obtain ⟨v, y, hv, rfl, hy⟩ := exists_word (b := x) (by omega)
  obtain ⟨t, z, ht, rfl, hz⟩ := exists_word (b := y) (by omega)
  obtain ⟨l, tail, hl, rfl, -⟩ := exists_word (b := z) (by omega)
  exact ⟨m, v, t, l, tail, hm, hv, ht, hl, rfl⟩

theorem toNat_len {payload : List UInt8} (h : payload.length ≤ kMaxFramePayload) :
    (UInt32.ofNat payload.length).toNat = payload.length := by
  apply UInt32.toNat_ofNat_of_lt'
  exact Nat.lt_of_le_of_lt h (by decide)

theorem ofLittleEndian_pu32 (v : UInt32) : UInt32.ofNat (ofLittleEndian (pu32 v)) = v :=
  ofLittleEndian_u32 v

theorem pu32_ofLittleEndian {w : List UInt8} (h : w.length = 4) {v : UInt32}
    (hv : UInt32.ofNat (ofLittleEndian w) = v) : w = pu32 v := by
  rw [← hv]
  exact (u32_ofLittleEndian h).symm

theorem frontFrame_encodeFrame {f : Frame} (h : f.payload.length ≤ kMaxFramePayload)
    (rest : List UInt8) :
    frontFrame (encodeFrame f.type f.payload ++ rest) = .ok (some (f, rest)) := by
  have hlen : (UInt32.ofNat (ofLittleEndian
      (pu32 (UInt32.ofNat f.payload.length)))).toNat = f.payload.length := by
    rw [ofLittleEndian_pu32, toNat_len h]
  have hcrc : ∀ c, ((f.payload ++ (pu32 c ++ rest)).drop f.payload.length).take 4 = pu32 c := by
    intro c
    rw [List.drop_left, List.take_left' (length_pu32 c)]
  have hrest : ∀ c, (f.payload ++ (pu32 c ++ rest)).drop (f.payload.length + 4) = rest := by
    intro c
    rw [← List.drop_drop, List.drop_left, List.drop_left' (length_pu32 c)]
  rw [encodeFrame_eq]
  simp only [List.append_assoc]
  rw [frontFrame_append (length_pu32 _) (length_pu32 _) (length_pu32 _) (length_pu32 _) hlen,
    if_neg (by rw [ofLittleEndian_pu32]; exact not_not.mpr rfl),
    if_neg (by rw [ofLittleEndian_pu32]; exact not_not.mpr rfl), if_neg (Nat.not_lt.mpr h),
    if_neg (by simp only [List.length_append, length_pu32]; omega), hcrc, hrest, List.take_left,
    if_neg (by rw [ofLittleEndian_pu32]; exact not_not.mpr rfl), ofLittleEndian_pu32]

/-- `frontFrame` finds the encoding of a frame with a payload in bounds, and nothing else. -/
theorem frontFrame_eq_some {b : List UInt8} {f : Frame} {rest : List UInt8} :
    frontFrame b = .ok (some (f, rest)) ↔
      f.payload.length ≤ kMaxFramePayload ∧ b = encodeFrame f.type f.payload ++ rest := by
  constructor
  · intro h
    by_cases hlen : b.length < 16
    · unfold frontFrame kFrameHeaderLen at h
      rw [if_pos hlen] at h
      cases h
    · obtain ⟨m, v, t, l, tail, hm, hv, ht, hl, rfl⟩ := exists_header (Nat.le_of_not_lt hlen)
      rw [frontFrame_append hm hv ht hl rfl] at h
      generalize hn : (UInt32.ofNat (ofLittleEndian l)).toNat = n at h
      split_ifs at h with hmagic hversion hsize hshort hcrc
      all_goals cases h
      -- The payload, its checksum and the rest of the buffer.
      obtain ⟨c, hc⟩ : ∃ c, c = (tail.drop n).take 4 := ⟨_, rfl⟩
      have hclen : c.length = 4 := by
        rw [hc, List.length_take, List.length_drop]
        omega
      have hplen : (tail.take n).length = n := by
        rw [List.length_take]
        omega
      have htail : tail = tail.take n ++ (c ++ tail.drop (n + 4)) := by
        rw [hc, ← List.drop_drop, List.take_append_drop, List.take_append_drop]
      -- Each word that passed its check is the one the encoder writes.
      have hm' := pu32_ofLittleEndian hm (not_not.mp hmagic)
      have hv' := pu32_ofLittleEndian hv (not_not.mp hversion)
      have ht' := pu32_ofLittleEndian ht rfl
      have hl' : l = pu32 (UInt32.ofNat (tail.take n).length) := by
        refine pu32_ofLittleEndian hl ?_
        rw [hplen, ← hn, UInt32.ofNat_toNat]
      have hc' := pu32_ofLittleEndian hclen (hc ▸ not_not.mp hcrc)
      refine ⟨by rw [hplen]; exact Nat.le_of_not_lt hsize, ?_⟩
      rw [encodeFrame_eq, ← hm', ← hv', ← ht', ← hl', ← hc']
      simp only [List.append_assoc]
      rw [← htail]
  · rintro ⟨h, rfl⟩
    exact frontFrame_encodeFrame h rest

/-- A proper prefix of an encoding passes its header checks and waits for more. -/
theorem frontFrame_partial {b c : List UInt8} {f : Frame}
    (h : f.payload.length ≤ kMaxFramePayload) (hb : b ++ c = encodeFrame f.type f.payload)
    (hc : c ≠ []) : frontFrame b = .ok none := by
  by_cases hlen : b.length < 16
  · unfold frontFrame kFrameHeaderLen
    exact if_pos hlen
  · obtain ⟨m, v, t, l, tail, hm, hv, ht, hl, rfl⟩ := exists_header (Nat.le_of_not_lt hlen)
    rw [encodeFrame_eq] at hb
    simp only [List.append_assoc] at hb
    obtain ⟨hmagic, hb⟩ := List.append_inj hb (by rw [hm, length_pu32])
    obtain ⟨hversion, hb⟩ := List.append_inj hb (by rw [hv, length_pu32])
    obtain ⟨-, hb⟩ := List.append_inj hb (by rw [ht, length_pu32])
    obtain ⟨hsize, hb⟩ := List.append_inj hb (by rw [hl, length_pu32])
    -- The header is whole, so what is missing is payload or checksum.
    have hshort : tail.length < f.payload.length + 4 := by
      have hsum := congrArg List.length hb
      have hpos := List.length_pos_of_ne_nil hc
      simp only [List.length_append, length_pu32] at hsum
      omega
    rw [frontFrame_append hm hv ht hl (by rw [hsize, ofLittleEndian_pu32, toNat_len h]),
      hmagic, hversion, if_neg (by rw [ofLittleEndian_pu32]; exact not_not.mpr rfl),
      if_neg (by rw [ofLittleEndian_pu32]; exact not_not.mpr rfl), if_neg (Nat.not_lt.mpr h),
      if_pos hshort]

/-- Frames with a payload in bounds, as `encode_frame` writes and `frontFrame` finds them. -/
def framing : Framing UInt8 Frame Status where
  word f := encodeFrame f.type f.payload
  Valid f := f.payload.length ≤ kMaxFramePayload
  peek := frontFrame
  word_ne_nil f := by
    intro h
    have hlen := congrArg List.length h
    rw [length_encodeFrame, List.length_nil] at hlen
    omega
  peek_eq_some _ _ _ := frontFrame_eq_some
  peek_partial _ _ _ := frontFrame_partial

/-! ## Whole buffers -/

/-- One pass of the loop, by what is at the front of the buffer. -/
theorem decodeFrames_pass {data : List UInt8} (hne : data ≠ []) (out : List Frame) :
    decodeFrames data out = match frontFrame data with
      | .error status => (status, out)
      | .ok none => (protocolError (if data.length < kFrameHeaderLen then "truncated frame header"
          else "truncated frame"), out)
      | .ok (some (f, rest)) => decodeFrames rest (out ++ [f]) := by
  rw [decodeFrames, if_neg hne]
  split
  · next hfront => rw [hfront]
  · next hfront =>
    rw [hfront]
    split_ifs <;> rfl
  · next hfront => rw [hfront]

theorem decodeFrames_front {data rest : List UInt8} {f : Frame} (out : List Frame)
    (h : frontFrame data = .ok (some (f, rest))) :
    decodeFrames data out = decodeFrames rest (out ++ [f]) := by
  have hne : data ≠ [] := by
    rintro rfl
    exact absurd (frontFrame_shorter h) (Nat.not_lt_zero _)
  rw [decodeFrames_pass hne, h]

theorem decodeFrames_error {data : List UInt8} {status : Status} (hne : data ≠ [])
    (h : frontFrame data = .error status) (out : List Frame) :
    decodeFrames data out = (status, out) := by
  rw [decodeFrames_pass hne, h]

theorem decodeFrames_none {data : List UInt8} (hne : data ≠ [])
    (h : frontFrame data = .ok none) (out : List Frame) :
    decodeFrames data out =
      (protocolError (if data.length < kFrameHeaderLen then "truncated frame header"
        else "truncated frame"), out) := by
  rw [decodeFrames_pass hne, h]

/-- The frames before the rest of a buffer are put out first. -/
theorem decodeFrames_append {fs : List Frame}
    (hfs : ∀ f ∈ fs, f.payload.length ≤ kMaxFramePayload) (rest : List UInt8)
    (out : List Frame) :
    decodeFrames (encodeFrames fs ++ rest) out = decodeFrames rest (out ++ fs) := by
  -- Induction on the frames: the loop takes the first off and appends it to the output.
  induction fs generalizing out with
  | nil => rw [encodeFrames, List.flatMap_nil, List.nil_append, List.append_nil]
  | cons f fs ih =>
    rw [List.forall_mem_cons] at hfs
    rw [encodeFrames, List.flatMap_cons, List.append_assoc,
      decodeFrames_front out (frontFrame_encodeFrame hfs.1 _), ← encodeFrames, ih hfs.2,
      List.append_assoc, List.singleton_append]

/-- Decoding undoes encoding, behind whatever was decoded before. -/
theorem decodeFrames_encodeFrames {fs : List Frame}
    (hfs : ∀ f ∈ fs, f.payload.length ≤ kMaxFramePayload) (out : List Frame) :
    decodeFrames (encodeFrames fs) out = (.good, out ++ fs) := by
  rw [← List.append_nil (encodeFrames fs), decodeFrames_append hfs, decodeFrames, if_pos rfl]

theorem checkHeader_error {data : List UInt8} {status : Status}
    (h : checkHeader data = .error status) : status.code = .protocolError := by
  unfold checkHeader at h
  split at h
  · cases h
    rfl
  · split_ifs at h
    all_goals
      cases h
      rfl

theorem checkFrame_error {data : List UInt8} {head : Header} {status : Status}
    (h : checkFrame data head = .error status) : status.code = .protocolError := by
  unfold checkFrame at h
  dsimp only at h
  split_ifs at h
  cases h
  rfl

theorem frontFrame_error {data : List UInt8} {status : Status}
    (h : frontFrame data = .error status) : status.code = .protocolError := by
  unfold frontFrame at h
  split_ifs at h with hlen
  cases hhead : checkHeader data with
  | error e =>
    rw [hhead] at h
    cases h
    exact checkHeader_error hhead
  | ok head =>
    rw [hhead, ok_bind] at h
    split_ifs at h with hneed
    · cases h
    · cases hframe : checkFrame data head with
      | error e =>
        rw [hframe] at h
        cases h
        exact checkFrame_error hframe
      | ok f =>
        rw [hframe, ok_bind] at h
        cases h

/-- What is accepted is an encoding of the frames put out. -/
theorem encodeFrames_of_decodeFrames (data : List UInt8) (out : List Frame)
    (h : (decodeFrames data out).1.isOk) :
    ∃ fs, (decodeFrames data out).2 = out ++ fs ∧
      (∀ f ∈ fs, f.payload.length ≤ kMaxFramePayload) ∧ data = encodeFrames fs := by
  -- Induction on the loop; only its last branch goes on, and only its first one succeeds.
  fun_induction decodeFrames data out with
  | case1 out => exact ⟨[], (List.append_nil out).symm, by simp, rfl⟩
  | case2 data out hne status hfront =>
    rw [Status.isOk_iff, frontFrame_error hfront] at h
    cases h
  | case3 data out hne hfront hlen => cases h
  | case4 data out hne hfront hlen => cases h
  | case5 data out hne f rest hfront ih =>
    obtain ⟨fs, hout, hfs, rfl⟩ := ih h
    obtain ⟨hf, hdata⟩ := frontFrame_eq_some.mp hfront
    refine ⟨f :: fs, ?_, List.forall_mem_cons.mpr ⟨hf, hfs⟩, hdata⟩
    rw [hout, List.append_assoc, List.singleton_append]

/-- Decoding accepts exactly the concatenated encodings of frames with payloads in bounds,
whatever their types, and puts those frames out; so it undoes encoding, encoding undoes it,
and different frames have different encodings. -/
theorem decode_frames_grammar :
    (∀ b fs, (decodeFrames b []).1.isOk ∧ (decodeFrames b []).2 = fs ↔
      (∀ f ∈ fs, f.payload.length ≤ kMaxFramePayload) ∧ b = encodeFrames fs) ∧
    (∀ fs, (∀ f ∈ fs, f.payload.length ≤ kMaxFramePayload) →
      decodeFrames (encodeFrames fs) [] = (.good, fs)) ∧
    (∀ b, (decodeFrames b []).1.isOk → encodeFrames (decodeFrames b []).2 = b) ∧
    ∀ fs gs, (∀ f ∈ fs, f.payload.length ≤ kMaxFramePayload) →
      (∀ g ∈ gs, g.payload.length ≤ kMaxFramePayload) → encodeFrames fs = encodeFrames gs →
        fs = gs := by
  have hdecode : ∀ fs, (∀ f ∈ fs, f.payload.length ≤ kMaxFramePayload) →
      decodeFrames (encodeFrames fs) [] = (.good, fs) :=
    fun fs hfs => decodeFrames_encodeFrames hfs []
  refine ⟨fun b fs => ⟨?_, ?_⟩, hdecode, fun b h => ?_, fun fs gs hfs hgs => ?_⟩
  · rintro ⟨hok, rfl⟩
    obtain ⟨fs, hout, hfs, hb⟩ := encodeFrames_of_decodeFrames b [] hok
    rw [List.nil_append] at hout
    rw [hout]
    exact ⟨hfs, hb⟩
  · rintro ⟨hfs, rfl⟩
    rw [hdecode fs hfs]
    exact ⟨rfl, rfl⟩
  · obtain ⟨fs, hout, -, hb⟩ := encodeFrames_of_decodeFrames b [] h
    rw [hout, List.nil_append, ← hb]
  · exact framing.stream_injective hfs hgs

end ContentionGovernor
