import ContentionGovernor.FrameCodec

/-!
# Receiving a stream of frames

A connection buffers what `recv` delivers until a frame is complete.  The bytes
behind that frame wait in the same buffer, and count against its limit.
-/

namespace ContentionGovernor

/-- What `receive` may buffer: one frame with the longest payload. -/
def bufferLimit : ℕ := kMaxFramePayload + kFrameHeaderLen + kFrameCrcLen

/-- How `receive` ends when `recv` delivers no more. -/
def receiveEnded (closed : Bool) (rbuf : List UInt8) : Status :=
  if ¬closed then protocolError "recv failed"
  else if rbuf = [] then protocolError "peer closed"
  else protocolError "peer closed with partial frame"

/-- One blocking call, over the bytes of the chunks. -/
theorem receiveLoop_eq_pull (closed : Bool) (incoming : List Chunk) (rbuf : List UInt8) :
    ((receiveLoop true closed incoming rbuf).1, (receiveLoop true closed incoming rbuf).2.1,
        (receiveLoop true closed incoming rbuf).2.2.map Chunk.bytes) =
      framing.pull bufferLimit (protocolError "oversized receive buffer") (receiveEnded closed)
        (incoming.map Chunk.bytes) rbuf := by
  have hpeek : framing.peek = frontFrame := rfl
  induction incoming generalizing rbuf with
  | nil =>
    rw [List.map_nil, Framing.pull, receiveLoop, hpeek]
    cases hfront : frontFrame rbuf with
    | error status => rfl
    | ok found =>
      cases found with
      | some p => rfl
      | none =>
        unfold receiveEnded
        dsimp only
        split_ifs <;> rfl
  | cons chunk incoming ih =>
    rw [List.map_cons, Framing.pull, receiveLoop, hpeek]
    cases hfront : frontFrame rbuf with
    | error status => rfl
    | ok found =>
      cases found with
      | some p => rfl
      | none =>
        -- The guard sees the buffer with the chunk, before it is searched for a frame.
        dsimp only
        by_cases hroom : bufferLimit < (rbuf ++ chunk.bytes).length
        · rw [if_pos hroom]
          unfold bufferLimit at hroom
          rw [if_pos hroom]
        · rw [if_neg hroom]
          unfold bufferLimit at hroom
          rw [if_neg hroom, if_neg (not_not.mpr rfl)]
          exact ih _

/-- Successive blocking calls, over the bytes of the chunks. -/
theorem receiveAll_eq_pulls (n : ℕ) (c : Connection) :
    receiveAll n c = framing.pulls bufferLimit (protocolError "oversized receive buffer")
      (receiveEnded c.closed) n (c.incoming.map Chunk.bytes) c.rbuf := by
  induction n generalizing c with
  | zero => rfl
  | succ n ih =>
    have hloop := receiveLoop_eq_pull c.closed c.incoming c.rbuf
    rw [receiveAll, ih, Framing.pulls_succ, ← hloop]
    rfl

theorem nonempty_chunks {chunks : List Chunk} : ∀ bytes ∈ chunks.map Chunk.bytes, bytes ≠ [] := by
  intro bytes hbytes
  obtain ⟨chunk, -, rfl⟩ := List.mem_map.mp hbytes
  exact chunk.nonempty

theorem receiveAll_eq_iff {fs : List Frame} {chunks : List Chunk} {closed : Bool}
    (hfs : ∀ f ∈ fs, f.payload.length ≤ kMaxFramePayload)
    (h : (chunks.map Chunk.bytes).flatten = encodeFrames fs) :
    receiveAll fs.length { incoming := chunks, closed := closed } = fs.map .ok ↔
      framing.Roomy bufferLimit fs 0 (chunks.map Chunk.bytes) := by
  rw [receiveAll_eq_pulls]
  exact Framing.pulls_eq_iff hfs nonempty_chunks h

/-- Blocking calls on a fresh connection return the frames that decoding finds in the whole
stream exactly when each chunk leaves room in the buffer for the frames not whole before it. -/
theorem receives_stream_iff (fs : List Frame)
    (hfs : ∀ f ∈ fs, f.payload.length ≤ kMaxFramePayload) (chunks : List Chunk) (closed : Bool)
    (h : (chunks.map Chunk.bytes).flatten = encodeFrames fs) :
    receiveAll fs.length { incoming := chunks, closed := closed } = fs.map .ok ∧
        decodeFrames (chunks.map Chunk.bytes).flatten [] = (.good, fs) ↔
      framing.Roomy bufferLimit fs 0 (chunks.map Chunk.bytes) := by
  have hdecode : decodeFrames (encodeFrames fs) [] = (.good, fs) :=
    decodeFrames_encodeFrames hfs []
  rw [receiveAll_eq_iff hfs h, h]
  exact and_iff_left hdecode

/-- A payload and an empty frame that arrive in one chunk. -/
def twoFrames : List Frame := [⟨9, [1, 2, 3]⟩, ⟨10, []⟩]

theorem receives_stream_iff_twoFrames :
    receiveAll 2 { incoming := [⟨encodeFrames twoFrames, by decide +kernel, by decide +kernel⟩] } =
        twoFrames.map .ok ∧
      decodeFrames (encodeFrames twoFrames ++ []) [] = (.good, twoFrames) := by
  refine (receives_stream_iff twoFrames (by decide)
    [⟨encodeFrames twoFrames, by decide +kernel, by decide +kernel⟩] true
    (List.append_nil _)).mpr ?_
  exact ⟨by decide +kernel, trivial⟩

/-! A frame of the longest payload fills the buffer alone: if its last byte arrives with the
twenty bytes of an empty frame, the call that was waiting for it fails. -/

section LastChunk

def singleByte (byte : UInt8) : Chunk where
  bytes := [byte]
  nonempty := List.cons_ne_nil _ _
  fits := by
    change 1 ≤ 4096
    omega

variable {stream : List UInt8} {k : ℕ} (h : stream.length = k + 21)

/-- Single bytes up to a place near the end, then all the rest. -/
def lastTogether : List Chunk :=
  (stream.take k).map singleByte ++ [{
    bytes := stream.drop k
    nonempty := by
      apply List.ne_nil_of_length_pos
      rw [List.length_drop, h]
      omega
    fits := by
      rw [List.length_drop, h]
      omega }]

theorem flatten_singleByte (bytes : List UInt8) :
    ((bytes.map singleByte).map Chunk.bytes).flatten = bytes := by
  induction bytes with
  | nil => rfl
  | cons byte bytes ih =>
    rw [List.map_cons, List.map_cons, List.flatten_cons, ih]
    rfl

theorem flatten_lastTogether : ((lastTogether h).map Chunk.bytes).flatten = stream := by
  rw [lastTogether, List.map_append, List.flatten_append, flatten_singleByte, List.map_singleton,
    List.flatten_singleton, List.take_append_drop]

theorem room_lastTogether {limit : ℕ} {fs : List Frame}
    (hroomy : framing.Roomy limit fs 0 ((lastTogether h).map Chunk.bytes)) :
    k + 21 ≤ framing.whole fs k + limit := by
  have htaken : (stream.take k).length = k := by
    rw [List.length_take]
    omega
  have hdropped : (stream.drop k).length = 21 := by
    rw [List.length_drop]
    omega
  rw [lastTogether, List.map_append, Framing.roomy_append, flatten_singleByte, htaken,
    Nat.zero_add] at hroomy
  rw [← hdropped]
  exact hroomy.2.1

end LastChunk

def longestFrame : Frame := ⟨9, List.replicate kMaxFramePayload 0⟩

def emptyFrame : Frame := ⟨10, []⟩

theorem length_longestFrame : longestFrame.payload.length = kMaxFramePayload := by
  apply List.length_replicate

theorem length_crowded :
    (encodeFrames [longestFrame, emptyFrame]).length = kMaxFramePayload + 19 + 21 := by
  have hempty : emptyFrame.payload.length = 0 := rfl
  unfold encodeFrames
  rw [List.flatMap_cons, List.flatMap_cons, List.flatMap_nil, List.append_nil,
    List.length_append, length_encodeFrame, length_encodeFrame, length_longestFrame, hempty]

theorem receive_overflows :
    ¬ ∀ (fs : List Frame) (chunks : List Chunk),
      (∀ f ∈ fs, f.payload.length ≤ kMaxFramePayload) →
      (chunks.map Chunk.bytes).flatten = encodeFrames fs →
        receiveAll fs.length { incoming := chunks } = fs.map .ok := by
  intro h
  have hfs : ∀ f ∈ [longestFrame, emptyFrame], f.payload.length ≤ kMaxFramePayload := by
    intro f hf
    rcases List.mem_pair.mp hf with rfl | rfl
    · exact Nat.le_of_eq length_longestFrame
    · exact Nat.zero_le _
  have hflat := flatten_lastTogether length_crowded
  have hall := h _ _ hfs hflat
  rw [receiveAll_eq_iff hfs hflat] at hall
  have hroom := room_lastTogether length_crowded hall
  have hword : (framing.word longestFrame).length = kMaxFramePayload + 20 := by
    change (encodeFrame _ _).length = _
    rw [length_encodeFrame, length_longestFrame]
  -- The long frame is not whole before its last byte, so all of the stream must fit.
  have hlong : ¬(framing.word longestFrame).length ≤ kMaxFramePayload + 19 := by omega
  rw [Framing.whole, if_neg hlong] at hroom
  unfold bufferLimit kFrameHeaderLen kFrameCrcLen at hroom
  omega

end ContentionGovernor
