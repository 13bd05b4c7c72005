import ContentionGovernor.Basic
import ContentionGovernor.Digest
import ContentionGovernor.Lib.ByteCodec

/-!
# Framed protocol

`net.hpp` and `net.cpp`: frames as bytes, the decoder of a whole buffer and the
receiving side of a connection.
-/

namespace ContentionGovernor

open Reader (littleEndian ofLittleEndian)

def kProtocolMagic : UInt32 := 0x00C64E01
def kProtocolVersion : UInt32 := 1
def kMaxFramePayload : ℕ := 2 ^ 20
def kFrameHeaderLen : ℕ := 16
def kFrameCrcLen : ℕ := 4

/-- An enumeration over 32 bits that the decoders cast any value to. -/
abbrev MsgType := UInt32

namespace MsgType

def workerStatus : MsgType := 2
def evidence : MsgType := 3
def actionAuthorize : MsgType := 4
def actionAck : MsgType := 5
def shutdown : MsgType := 8
def rpcRequest : MsgType := 9

end MsgType

structure Frame where
  type : MsgType
  payload : List UInt8
deriving DecidableEq

def pu32 (v : UInt32) : List UInt8 := littleEndian 4 v.toNat

def encodeFrame (type : MsgType) (payload : List UInt8) : List UInt8 :=
  let out := pu32 kProtocolMagic ++ (pu32 kProtocolVersion ++ (pu32 type ++
    (pu32 (UInt32.ofNat payload.length) ++ payload)))
  out ++ pu32 (crc32c (out.drop 8))

/-- The bytes of several frames, one behind the other. -/
def encodeFrames (fs : List Frame) : List UInt8 :=
  fs.flatMap fun f => encodeFrame f.type f.payload

structure Header where
  version : UInt32
  type : UInt32
  len : UInt32

/-- The four bytes at an offset, as `parse_header` puts them together. -/
def wordAt (h : List UInt8) (offset : ℕ) : UInt32 :=
  UInt32.ofNat (ofLittleEndian ((h.drop offset).take 4))

def parseHeader (h : List UInt8) : Option Header :=
  if wordAt h 0 ≠ kProtocolMagic then none
  else some { version := wordAt h 4, type := wordAt h 8, len := wordAt h 12 }

def protocolError (message : ByteString) : Status := .bad .protocolError message

/-- The header checks that `receive` and `decode_frames` make alike. -/
def checkHeader (h : List UInt8) : Except Status Header :=
  match parseHeader h with
  | none => .error (protocolError "malformed frame magic/version")
  | some head =>
    if head.version ≠ kProtocolVersion then
      .error (protocolError "unsupported protocol version")
    else if kMaxFramePayload < head.len.toNat then .error (protocolError "oversized frame")
    else .ok head

/-- The bytes a frame needs. -/
def Header.need (head : Header) : ℕ := kFrameHeaderLen + head.len.toNat + kFrameCrcLen

/-- The checksum and the copy of the payload, for a frame whose bytes are all there. -/
def checkFrame (data : List UInt8) (head : Header) : Except Status Frame :=
  let len := head.len.toNat
  if wordAt data (kFrameHeaderLen + len) ≠
      crc32c ((data.drop 8).take (kFrameHeaderLen - 8 + len)) then
    .error (protocolError "frame checksum mismatch")
  else .ok ⟨head.type, (data.drop kFrameHeaderLen).take len⟩

/-- The frame at the front of a buffer with the bytes behind it, or `none` when bytes are
missing. -/
def frontFrame (data : List UInt8) : Except Status (Option (Frame × List UInt8)) :=
  if data.length < kFrameHeaderLen then .ok none
  else do
    let head ← checkHeader data
    if data.length < head.need then return none
    let f ← checkFrame data head
    return some (f, data.drop head.need)

theorem frontFrame_shorter {data rest : List UInt8} {f : Frame}
    (h : frontFrame data = .ok (some (f, rest))) : rest.length < data.length := by
  unfold frontFrame at h
  split_ifs at h with hlen
  · cases h
  · cases hhead : checkHeader data with
    | error e =>
      rw [hhead] at h
      cases h
    | ok head =>
      rw [hhead, ok_bind] at h
      split_ifs at h with hneed
      · cases h
      · cases hframe : checkFrame data head with
        | error e =>
          rw [hframe] at h
          cases h
        | ok g =>
          rw [hframe, ok_bind] at h
          cases h
          rw [List.length_drop]
          unfold Header.need kFrameHeaderLen at *
          omega

/-- The loop of `decode_frames`; the frames before an error stay in the output. -/
def decodeFrames (data : List UInt8) (out : List Frame) : Status × List Frame :=
  if data = [] then (.good, out)
  else
    match _hfront : frontFrame data with
    | .error status => (status, out)
    | .ok none =>
      if data.length < kFrameHeaderLen then (protocolError "truncated frame header", out)
      else (protocolError "truncated frame", out)
    | .ok (some (f, rest)) => decodeFrames rest (out ++ [f])
termination_by data.length
decreasing_by exact frontFrame_shorter _hfront

/-! ## Receiving -/

/-- What one `recv` into the 4096 bytes of `tmp` delivers. -/
structure Chunk where
  bytes : List UInt8
  nonempty : bytes ≠ []
  fits : bytes.length ≤ 4096

/-- The receiving side of a connection: what is buffered, what `recv` will deliver, and
whether the peer then has closed or `recv` fails. -/
structure Connection where
  rbuf : List UInt8 := []
  incoming : List Chunk
  closed : Bool := true

/-- The loop of `receive` over the chunks still to come: its result, the buffer and the
chunks left. -/
def receiveLoop (blocking closed : Bool) : List Chunk → List UInt8 →
    Except Status Frame × List UInt8 × List Chunk
  | incoming, rbuf =>
    match frontFrame rbuf with
    | .error status => (.error status, rbuf, incoming)
    | .ok (some (f, rest)) => (.ok f, rest, incoming)
    | .ok none =>
      match incoming with
      | [] =>
        if ¬closed then (.error (protocolError "recv failed"), rbuf, [])
        else if rbuf = [] then (.error (protocolError "peer closed"), rbuf, [])
        else (.error (protocolError "peer closed with partial frame"), rbuf, [])
      | chunk :: incoming =>
        let rbuf := rbuf ++ chunk.bytes
        if kMaxFramePayload + kFrameHeaderLen + kFrameCrcLen < rbuf.length then
          (.error (protocolError "oversized receive buffer"), rbuf, incoming)
        else if ¬blocking then
          (.error (protocolError "no complete frame (nonblocking)"), rbuf, incoming)
        else receiveLoop blocking closed incoming rbuf

def receive (blocking : Bool) (c : Connection) : Except Status Frame × Connection :=
  let r := receiveLoop blocking c.closed c.incoming c.rbuf
  (r.1, { c with rbuf := r.2.1, incoming := r.2.2 })

/-- The results of successive blocking calls. -/
def receiveAll : ℕ → Connection → List (Except Status Frame)
  | 0, _ => []
  | n + 1, c => (receive true c).1 :: receiveAll n (receive true c).2

end ContentionGovernor
