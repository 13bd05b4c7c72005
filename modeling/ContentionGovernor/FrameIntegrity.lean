import ContentionGovernor.FrameCodec

/-!
# Detection of corrupted frames

A frame is a fixed start followed by a body that is sealed with its checksum.  A byte
changed outside the length word leaves the frame as long as it was, and so not a frame.
-/

namespace ContentionGovernor

/-! ## One altered frame -/

/-- What the checksum of a frame covers. -/
def Frame.body (f : Frame) : List UInt8 :=
  pu32 f.type ++ (pu32 (UInt32.ofNat f.payload.length) ++ f.payload)

/-- Magic and version. -/
def frameStart : List UInt8 := pu32 kProtocolMagic ++ pu32 kProtocolVersion

theorem encodeFrame_sealed (f : Frame) :
    encodeFrame f.type f.payload = frameStart ++ sealed f.body := by
  rw [encodeFrame_eq, frameStart, sealed, Frame.body]
  simp only [List.append_assoc, pu32]

/-- A frame with one byte changed is not a frame with a payload of that length. -/
theorem encodeFrame_set_ne {f g : Frame} {k : ℕ} {v : UInt8}
    (hk : k < (encodeFrame f.type f.payload).length)
    (hv : (encodeFrame f.type f.payload)[k]? ≠ some v)
    (hlen : g.payload.length = f.payload.length) :
    (encodeFrame f.type f.payload).set k v ≠ encodeFrame g.type g.payload := by
  rw [encodeFrame_sealed] at hk hv ⊢
  rw [encodeFrame_sealed]
  apply start_sealed_set_ne hk hv
  simp only [Frame.body, List.length_append, length_pu32, hlen]

/-- A word does not change with a byte outside it. -/
theorem wordAt_set {b : List UInt8} {o k : ℕ} (v : UInt8) (h : ¬(o ≤ k ∧ k < o + 4)) :
    wordAt (b.set k v) o = wordAt b o := by
  unfold wordAt
  congr 2
  apply List.ext_getElem?
  intro j
  rw [List.getElem?_take, List.getElem?_take, List.getElem?_drop, List.getElem?_drop]
  split_ifs with hj
  · exact List.getElem?_set_ne (by omega)
  · rfl

theorem wordAt_length (f : Frame) (rest : List UInt8) :
    wordAt (encodeFrame f.type f.payload ++ rest) 12 = UInt32.ofNat f.payload.length := by
  have hdrop : (encodeFrame f.type f.payload ++ rest).drop 12 =
      pu32 (UInt32.ofNat f.payload.length) ++ (f.payload ++ (pu32 (crc32c f.body) ++ rest)) := by
    rw [encodeFrame_eq, Frame.body]
    simp only [List.append_assoc]
    rw [show 12 = 4 + (4 + (4 + 0)) from rfl, drop_word (length_pu32 _), drop_word (length_pu32 _),
      drop_word (length_pu32 _), List.drop_zero]
  rw [wordAt, hdrop, List.take_left' (length_pu32 _), ofLittleEndian_pu32]

/-- A frame with one byte changed outside its length word is rejected at once. -/
theorem frontFrame_altered {f : Frame} (hf : f.payload.length ≤ kMaxFramePayload) {k : ℕ}
    {v : UInt8} (hk : k < (encodeFrame f.type f.payload).length)
    (hv : (encodeFrame f.type f.payload)[k]? ≠ some v) (hword : ¬(12 ≤ k ∧ k < 16))
    (rest : List UInt8) :
    ∃ status, frontFrame ((encodeFrame f.type f.payload).set k v ++ rest) = .error status := by
  have hset : (encodeFrame f.type f.payload).set k v ++ rest =
      (encodeFrame f.type f.payload ++ rest).set k v := (List.set_append_left k v hk).symm
  have hlen : wordAt ((encodeFrame f.type f.payload).set k v ++ rest) 12 =
      UInt32.ofNat f.payload.length := by
    rw [hset, wordAt_set v hword, wordAt_length]
  have hlength : ((encodeFrame f.type f.payload).set k v ++ rest).length =
      f.payload.length + 20 + rest.length := by
    rw [List.length_append, List.length_set, length_encodeFrame]
  cases hfront : frontFrame ((encodeFrame f.type f.payload).set k v ++ rest) with
  | error status => exact ⟨status, rfl⟩
  | ok found =>
    exfalso
    cases found with
    | none =>
      -- No byte is missing.
      rw [frontFrame_eq (by omega) ((congrArg UInt32.toNat hlen).trans (toNat_len hf))] at hfront
      split_ifs at hfront with _ _ _ hshort
      · omega
      · cases hfront
    | some entry =>
      obtain ⟨g, tail⟩ := entry
      obtain ⟨hg, hdata⟩ := frontFrame_eq_some.mp hfront
      rw [hdata, wordAt_length] at hlen
      have hsize : g.payload.length = f.payload.length := by
        rw [← toNat_len hg, hlen, toNat_len hf]
      have hboth : ((encodeFrame f.type f.payload).set k v).length =
          (encodeFrame g.type g.payload).length := by
        rw [List.length_set, length_encodeFrame, length_encodeFrame, hsize]
      exact encodeFrame_set_ne hk hv hsize (List.append_inj hdata hboth).1

/-! ## Streams of frames -/

/-- A place in the encoding of several frames lies in one of them. -/
theorem exists_frame_at {fs : List Frame} {i : ℕ} (hi : i < (encodeFrames fs).length) :
    ∃ pre f post, fs = pre ++ f :: post ∧ (encodeFrames pre).length ≤ i ∧
      i < (encodeFrames pre).length + (encodeFrame f.type f.payload).length := by
  induction fs generalizing i with
  | nil => exact absurd hi (Nat.not_lt_zero i)
  | cons f fs ih =>
    have hcons : encodeFrames (f :: fs) = encodeFrame f.type f.payload ++ encodeFrames fs := rfl
    by_cases hfirst : i < (encodeFrame f.type f.payload).length
    · exact ⟨[], f, fs, rfl, Nat.zero_le i, by simpa [encodeFrames] using hfirst⟩
    · rw [hcons, List.length_append] at hi
      obtain ⟨pre, g, post, rfl, hle, hlt⟩ :=
        ih (i := i - (encodeFrame f.type f.payload).length) (by omega)
      have hpre : (encodeFrames (f :: pre)).length =
          (encodeFrame f.type f.payload).length + (encodeFrames pre).length := by
        rw [← List.length_append]
        rfl
      exact ⟨f :: pre, g, post, rfl, by omega, by omega⟩

/-- The place is in the length word of no frame. -/
def OutsideLengths (fs : List Frame) (i : ℕ) : Prop :=
  ∀ pre f post, fs = pre ++ f :: post →
    ¬((encodeFrames pre).length + 12 ≤ i ∧ i < (encodeFrames pre).length + 16)

/-- Whatever byte of a stream of frames is changed outside the length words, decoding fails
at the frame that it belongs to, after putting out those before it. -/
theorem corrupted_frames_rejected (fs : List Frame)
    (hfs : ∀ f ∈ fs, f.payload.length ≤ kMaxFramePayload) (i : ℕ) (v : UInt8)
    (hi : i < (encodeFrames fs).length) (hv : (encodeFrames fs)[i]? ≠ some v)
    (hword : OutsideLengths fs i) :
    ∃ pre f post status, fs = pre ++ f :: post ∧ (encodeFrames pre).length ≤ i ∧
      i < (encodeFrames pre).length + (encodeFrame f.type f.payload).length ∧
      status.code = .protocolError ∧
      decodeFrames ((encodeFrames fs).set i v) [] = (status, pre) := by
  obtain ⟨pre, f, post, rfl, hle, hlt⟩ := exists_frame_at hi
  have hsplit : encodeFrames (pre ++ f :: post) =
      encodeFrames pre ++ (encodeFrame f.type f.payload ++ encodeFrames post) := by
    rw [encodeFrames, List.flatMap_append]
    rfl
  have hin : i - (encodeFrames pre).length < (encodeFrame f.type f.payload).length := by omega
  rw [hsplit, List.getElem?_append_right hle, List.getElem?_append_left hin] at hv
  have hmem : ∀ g ∈ pre, g ∈ pre ++ f :: post := fun g hg => List.mem_append_left _ hg
  have hf : f.payload.length ≤ kMaxFramePayload := hfs f (by simp)
  have houtside := hword pre f post rfl
  obtain ⟨status, hfront⟩ :=
    frontFrame_altered hf hin hv (by omega) (encodeFrames post)
  refine ⟨pre, f, post, status, rfl, hle, hlt, frontFrame_error hfront, ?_⟩
  rw [hsplit, List.set_append_right i v hle, List.set_append_left _ v hin,
    decodeFrames_append fun g hg => hfs g (hmem g hg), List.nil_append]
  refine decodeFrames_error ?_ hfront pre
  intro hnil
  have hlength := congrArg List.length hnil
  rw [List.length_append, List.length_set, length_encodeFrame, List.length_nil] at hlength
  omega

theorem outsideLengths_of_take {fs : List Frame} {i : ℕ}
    (h : ∀ n < fs.length, ¬((encodeFrames (fs.take n)).length + 12 ≤ i ∧
      i < (encodeFrames (fs.take n)).length + 16)) : OutsideLengths fs i := by
  rintro pre f post rfl
  have hpre := h pre.length (by simp)
  rwa [List.take_left] at hpre

/-- The second payload byte of the second of three frames is changed: the first frame is
put out. -/
theorem corrupted_frames_rejected_second :
    ∃ status : Status, status.code = .protocolError ∧
      decodeFrames ((encodeFrames [⟨2, [1]⟩, ⟨9, [1, 2, 3]⟩, ⟨10, []⟩]).set 38 7) [] =
        (status, [⟨2, [1]⟩]) := by
  have hword : OutsideLengths [⟨2, [1]⟩, ⟨9, [1, 2, 3]⟩, ⟨10, []⟩] 38 :=
    outsideLengths_of_take (by decide)
  obtain ⟨pre, f, post, status, hsplit, hle, hlt, hcode, hdecode⟩ :=
    corrupted_frames_rejected [⟨2, [1]⟩, ⟨9, [1, 2, 3]⟩, ⟨10, []⟩] (by decide) 38 7 (by decide)
      (by decide +kernel) hword
  refine ⟨status, hcode, ?_⟩
  rw [hdecode]
  -- Byte 38 lies in the frame from 21 to 43, so one frame stands before it.
  rcases pre with _ | ⟨g, _ | ⟨g', pre⟩⟩
  · obtain ⟨rfl, -⟩ := List.cons.inj hsplit
    exact absurd hlt (by decide)
  · obtain ⟨rfl, -⟩ := List.cons.inj hsplit
    rfl
  · obtain ⟨rfl, htail⟩ := List.cons.inj hsplit
    obtain ⟨rfl, -⟩ := List.cons.inj htail
    simp only [encodeFrames, List.flatMap_cons, List.length_append, length_encodeFrame,
      List.length_cons] at hle
    omega

end ContentionGovernor
