import DoomSat.Model.Protocol
import DoomSat.Support.Block

/-!
# `DoomSat.Model.Receiver`: the video receiver of `ground/receiver.c`

`receiverPoll` reads the pending datagrams from the socket. For each one it parses the RTP
header (`unpackRtpHeader`), classifies the payload (`classify`) and takes one of three
paths to the decoder: an Annex B payload as it is, the FU-A reassembly (`receiveFragment`),
or a single NAL unit behind a start code.

Every access to a received datagram and to the reassembly buffer is checked. A result
`.error` stands for an access outside the memory.

FFmpeg is not part of the repository. Its calls are the fields of `Ffmpeg`, over a decoder
state `δ`. The field `log` of `State` is the environment's record of the buffers handed to
`avcodec_send_packet` and of the `sws_scale` calls.
-/

set_option autoImplicit false

namespace DoomSat.Receiver

open Support

def UDP_BUF_SIZE : Nat := 25344
/-- The `malloc` of `h264_buf` in `receiver_init`. -/
def H264_BUF_SIZE : Nat := 200000

/-- `rtp_header_t`. -/
structure RtpHeader where
  version : UInt8
  padding : UInt8
  extension : UInt8
  cc : UInt8
  marker : UInt8
  payloadType : UInt8
  seq : UInt16
  timestamp : UInt32
  deriving DecidableEq, Repr

/-- The header fields that `unpack_rtp_header` reads from the first 8 bytes. -/
def unpackFields (buf : Datagram) : Except MemFault RtpHeader := do
  let b0 ← byteAt buf 0
  let b1 ← byteAt buf 1
  let b2 ← byteAt buf 2
  let b3 ← byteAt buf 3
  let b4 ← byteAt buf 4
  let b5 ← byteAt buf 5
  let b6 ← byteAt buf 6
  let b7 ← byteAt buf 7
  return {
    version := (b0 >>> 6) &&& 0x03
    padding := (b0 >>> 5) &&& 0x01
    extension := (b0 >>> 4) &&& 0x01
    cc := b0 &&& 0x0F
    marker := (b1 >>> 7) &&& 0x01
    payloadType := b1 &&& 0x7F
    seq := word16 b2 b3
    timestamp := word32 b4 b5 b6 b7 }

/-- `payload_off` in `unpack_rtp_header`, or `none` for -1. -/
def payloadOffset (buf : Datagram) (len : Nat) (hdr : RtpHeader) :
    Except MemFault (Option Nat) := do
  let payloadOff := 8 + hdr.cc.toNat * 4
  if hdr.extension ≠ 0 then
    -- The extension header is 4 bytes long, and it counts the words behind it.
    if payloadOff + 4 > len then return none
    let e2 ← byteAt buf (payloadOff + 2)
    let e3 ← byteAt buf (payloadOff + 3)
    let payloadOff := payloadOff + (4 + (word16 e2 e3).toNat * 4)
    return if payloadOff ≤ len then some payloadOff else none
  else
    return if payloadOff ≤ len then some payloadOff else none

/-- `unpack_rtp_header`: the payload offset and the header, or `none` for -1. -/
def unpackRtpHeader (buf : Datagram) (len : Nat) :
    Except MemFault (Option (Nat × RtpHeader)) := do
  if len < 8 then return none
  let hdr ← unpackFields buf
  let payloadOff ← payloadOffset buf len hdr
  return payloadOff.map fun off => (off, hdr)

/-! ### The three paths -/

/-- One FU-A fragment: the two FU bytes and the fragment bytes. -/
structure Fragment where
  fuIndicator : UInt8
  fuHeader : UInt8
  bytes : List UInt8
  deriving DecidableEq, Repr

namespace Fragment

/-- The start bit `S`. -/
def isStart (f : Fragment) : Bool := (f.fuHeader &&& 0x80) ≠ 0

/-- The end bit `E`. -/
def isEnd (f : Fragment) : Bool := (f.fuHeader &&& 0x40) ≠ 0

/-- `orig_nal`: the NAL header byte rebuilt from the two FU bytes. -/
def origNal (f : Fragment) : UInt8 := (f.fuIndicator &&& 0xE0) ||| (f.fuHeader &&& 0x1F)

end Fragment

/-- What `receiver_poll` does with a datagram. -/
inductive Payload where
  /-- Dropped: a bad header, an empty payload, or a NAL type without a branch. -/
  | ignored
  | annexB (payload : List UInt8)
  | fuA (fragment : Fragment)
  | singleNal (payload : List UInt8)
  deriving DecidableEq, Repr

/-- Whether the payload starts with the 4-byte start code. The bytes are read one after the
other, as the `&&` chain of the source does. -/
def hasStartCode (payload : List UInt8) : Except MemFault Bool := do
  if payload.length ≥ 4 then
    if (← byteAt payload 0) ≠ 0x00 then return false
    if (← byteAt payload 1) ≠ 0x00 then return false
    if (← byteAt payload 2) ≠ 0x00 then return false
    return (← byteAt payload 3) == 0x01
  else return false

/-- The branches on a non-empty payload. -/
def classifyPayload (payload : List UInt8) : Except MemFault Payload := do
  if ← hasStartCode payload then return .annexB payload
  let p0 ← byteAt payload 0
  let nalType := p0 &&& 0x1F
  -- A payload of FU-A type with one byte only takes no branch, since 28 is above 23.
  if nalType == 28 && payload.length ≥ 2 then
    let p1 ← byteAt payload 1
    return .fuA ⟨p0, p1, payload.drop 2⟩
  else if nalType ≥ 1 && nalType ≤ 23 then return .singleNal payload
  else return .ignored

/-- From the received bytes to the branch taken. -/
def classify (buf : Datagram) : Except MemFault Payload := do
  match ← unpackRtpHeader buf buf.length with
  | none => return .ignored
  | some (payloadOff, rtp) =>
    if rtp.version ≠ 2 then return .ignored
    else
      let payload := buf.drop payloadOff
      if payload.length ≤ 0 then return .ignored
      else classifyPayload payload

/-! ### The decoder -/

/-- The width and height of a decoded frame. -/
structure FrameSize where
  width : Nat
  height : Nat
  deriving DecidableEq, Repr

/-- The FFmpeg calls of the receiver, over a decoder state `δ`. -/
structure Ffmpeg (δ : Type) where
  /-- Whether `av_new_packet` for a packet of this size returns 0. -/
  avNewPacket : δ → Nat → Bool
  /-- `avcodec_send_packet`: whether it returns 0, and the decoder after it. -/
  avcodecSendPacket : δ → List UInt8 → Bool × δ
  /-- The frames that `avcodec_receive_frame` returns before it returns an error code. -/
  avcodecReceiveFrames : δ → List FrameSize × δ
  /-- Whether `sws_getContext` for this source size returns a context. -/
  swsGetContext : δ → FrameSize → Bool

/-- `av_new_packet` returns 0, as it does while memory lasts. -/
def Ffmpeg.Allocates {δ : Type} (ff : Ffmpeg δ) : Prop := ∀ d n, ff.avNewPacket d n = true

/-- The branch of `receiver_poll` that hands a buffer over. -/
inductive Path where
  | annexB
  | fuA
  | singleNal
  deriving DecidableEq, Repr

/-- The calls that leave the module. -/
inductive Effect where
  /-- `avcodec_send_packet` with these bytes. -/
  | sendPacket (path : Path) (bytes : List UInt8)
  /-- `sws_scale` of a frame with a context created for the size `context`. -/
  | scale (context frame : FrameSize)
  deriving DecidableEq, Repr

/-- The static state of `receiver.c` after a successful `receiver_init`. -/
structure State (δ : Type) where
  h264Buf : Block UInt8 H264_BUF_SIZE
  h264Len : Nat
  /-- The source size of the scaler context, `none` for a null `sws_ctx`. -/
  swsCtx : Option FrameSize
  gBytesReceived : UInt64
  decoder : δ
  /-- The outside calls so far, oldest first. -/
  log : List Effect

variable {δ : Type}

/-- The state that `receiver_init` leaves. `malloc` does not clear the buffer. -/
def receiverInit (h264Buf : Block UInt8 H264_BUF_SIZE) (decoder : δ) : State δ where
  h264Buf := h264Buf
  h264Len := 0
  swsCtx := none
  gBytesReceived := 0
  decoder := decoder
  log := []

/-- `sws_getContext` for the size of the frame, stored in `sws_ctx`. -/
def createScaler (ff : Ffmpeg δ) (frame : FrameSize) (st : State δ) : State δ :=
  { st with swsCtx := if ff.swsGetContext st.decoder frame then some frame else none }

/-- `decode_frame_to_rgb` for the frame in `av_frame`. -/
def decodeFrameToRgb (ff : Ffmpeg δ) (frame : FrameSize) (st : State δ) : Bool × State δ :=
  let st := if st.swsCtx.isNone then createScaler ff frame st else st
  if st.swsCtx.isNone then (false, st)
  else
    -- Only the sizes of the frame are compared, so each frame of another size than ours
    -- gets a new context.
    let st :=
      if frame.width ≠ FRAME_WIDTH ∨ frame.height ≠ FRAME_HEIGHT then createScaler ff frame st
      else st
    match st.swsCtx with
    | none => (false, st)
    | some context => (true, { st with log := st.log ++ [.scale context frame] })

/-- The loop over the decoded frames. Returns whether a frame was converted. -/
def decodeFrames (ff : Ffmpeg δ) : List FrameSize → State δ → Bool × State δ
  | [], st => (false, st)
  | frame :: frames, st =>
    let (converted, st) := decodeFrameToRgb ff frame st
    let (gotFrame, st) := decodeFrames ff frames st
    (converted || gotFrame, st)

/-- Fills `av_pkt` with the bytes and runs the decoder on it. Returns whether a frame was
converted. -/
def handToDecoder (ff : Ffmpeg δ) (path : Path) (bytes : List UInt8) (st : State δ) :
    Bool × State δ :=
  if ff.avNewPacket st.decoder bytes.length then
    let (sent, decoder) := ff.avcodecSendPacket st.decoder bytes
    let st := { st with decoder := decoder, log := st.log ++ [.sendPacket path bytes] }
    if sent then
      let (frames, decoder) := ff.avcodecReceiveFrames st.decoder
      decodeFrames ff frames { st with decoder := decoder }
    else (false, st)
  else (false, st)

/-! ### The poll loop -/

/-- The start code that the receiver puts before a NAL unit. -/
def startCode : List UInt8 := [0, 0, 0, 1]

/-- Writes a fragment into `h264_buf`, after a start code and the rebuilt header byte when
the start bit is set. -/
def storeFragment (f : Fragment) (st : State δ) : Except MemFault (State δ) := do
  -- No branch compares `h264_len` with the size of the buffer.
  if f.isStart then
    let buf ← st.h264Buf.write 0 startCode
    let buf ← buf.write 4 [f.origNal]
    let buf ← buf.write 5 f.bytes
    return { st with h264Buf := buf, h264Len := 5 + f.bytes.length }
  else
    let buf ← st.h264Buf.write st.h264Len f.bytes
    return { st with h264Buf := buf, h264Len := st.h264Len + f.bytes.length }

/-- The FU-A branch. -/
def receiveFragment (ff : Ffmpeg δ) (f : Fragment) (st : State δ) :
    Except MemFault (Bool × State δ) := do
  let st ← storeFragment f st
  -- The end bit alone decides. The sequence number of the packet is not looked at.
  if f.isEnd then
    let bytes ← st.h264Buf.read 0 st.h264Len
    let (gotFrame, st) := handToDecoder ff .fuA bytes st
    return (gotFrame, { st with h264Len := 0 })
  else return (false, st)

/-- The loop body of `receiver_poll` for a datagram that `recvfrom` returned. -/
def receivePacket (ff : Ffmpeg δ) (buf : Datagram) (st : State δ) :
    Except MemFault (Bool × State δ) := do
  let st := { st with gBytesReceived := st.gBytesReceived + UInt64.ofNat buf.length }
  match ← classify buf with
  | .ignored => return (false, st)
  | .annexB payload => return handToDecoder ff .annexB payload st
  | .fuA fragment => receiveFragment ff fragment st
  | .singleNal payload => return handToDecoder ff .singleNal (startCode ++ payload) st

/-- `recvfrom` into `udp_buf`: the bytes past the buffer are cut off. -/
def recvfrom (datagram : Datagram) : Datagram := datagram.take UDP_BUF_SIZE

/-- `receiver_poll` on the pending datagrams of the socket. Returns whether it returns the
RGB buffer, the state after it, and the datagrams still pending. The loop ends when nothing
is pending, and after an empty datagram, for which `recvfrom` returns 0. -/
def receiverPoll (ff : Ffmpeg δ) :
    List Datagram → State δ → Except MemFault (Bool × State δ × List Datagram)
  | [], st => .ok (false, st, [])
  | datagram :: socket, st =>
    let buf := recvfrom datagram
    if buf.length ≤ 0 then .ok (false, st, socket)
    else do
      let (gotFrame, st) ← receivePacket ff buf st
      let (gotMore, st, socket) ← receiverPoll ff socket st
      return (gotFrame || gotMore, st, socket)

/-- A run of polls. Each entry of `arrivals` is what arrives before one call of
`receiver_poll`, behind the datagrams that the call before it left pending. -/
def receiverRun (ff : Ffmpeg δ) :
    List (List Datagram) → State δ × List Datagram → Except MemFault (State δ × List Datagram)
  | [], st => .ok st
  | batch :: arrivals, (st, socket) => do
    let (_, st, socket) ← receiverPoll ff (socket ++ batch) st
    receiverRun ff arrivals (st, socket)

/-! ### What the decoder gets -/

/-- The buffer that an outside call hands to the decoder. -/
def Effect.handed? : Effect → Option (Path × List UInt8)
  | .sendPacket path bytes => some (path, bytes)
  | .scale _ _ => none

/-- The buffers handed to the decoder so far, with their paths. -/
def State.handed (st : State δ) : List (Path × List UInt8) := st.log.filterMap Effect.handed?

/-- The buffers that the FU-A path handed to the decoder so far. -/
def State.handedFuA (st : State δ) : List (List UInt8) :=
  (st.handed.filter fun h => h.1 = .fuA).map (·.2)

end DoomSat.Receiver
