import DoomSat.Model.RingBuffer
import DoomSat.Model.X264

/-!
# `DoomSat.Model.EncoderThread`: the encoder thread of `satellite/main.c`

`encoder_thread_func` opens the encoder. Then it takes a frame out of the ring buffer every
50 ms, encodes it, and gives its NAL units to `downlink_send_nals`. When `g_running` is 0 it
closes the encoder and ends.

The DOOM thread works on the ring buffer at the same time, and a signal can clear
`g_running` at any time. So a list of actions is an interleaving of the two threads and the
signals, as in `DoomSat.Model.RingBuffer`. The encoder thread shares the ring buffer and
`g_running` only, so a call of `encoder_encode_frame` and `downlink_send_nals` is one step.
`clock_nanosleep` may return at any time.

The ring buffer of the source is empty from the start of the program on, so it does not
matter which thread starts first.
-/

set_option autoImplicit false

namespace DoomSat.Satellite

open Encoder (X264 Ctx Fault encoderInit encoderEncodeFrame flushFrame)
open RingBuffer (Frame FrameData Pixels Palette RING_BUFFER_SIZE ringbufferInit)

/-- `struct timespec`. -/
structure Timespec where
  tvSec : Int
  tvNsec : Int
  deriving DecidableEq, Repr

/-- 50 ms in nanoseconds. -/
def frameNs : Int := 50000000

/-- The time of the next frame, 50 ms later. -/
def Timespec.next (t : Timespec) : Timespec :=
  let tvNsec := t.tvNsec + frameNs
  if tvNsec ≥ 1000000000 then ⟨t.tvSec + 1, tvNsec - 1000000000⟩ else ⟨t.tvSec, tvNsec⟩

/-- The RTP timestamp of a frame, in units of 90 kHz. -/
def rtpTimestamp (frameNum : UInt32) : UInt32 := frameNum * 4500

/-- The bytes of `frame_buffer`: three for each pixel. -/
def rgbBytes (data : FrameData) : List UInt8 :=
  (List.ofFn data).flatMap fun pixel => [pixel.r, pixel.g, pixel.b]

/-- What the thread gets from outside. -/
structure Env (ξ : Type) where
  x264 : X264 ξ
  /-- Whether the `malloc` of `encoder_init` succeeds. -/
  yuvBuffer : Bool
  /-- What `clock_gettime` returns before the loop. -/
  clock : Timespec
  /-- Whether a call of `sendto` succeeds, as in `DoomSat.Model.Downlink`. -/
  net : Nat → Bool

/-- Where the encoder thread is. -/
inductive Pc where
  /-- Before `encoder_init`. -/
  | init
  /-- Before the test of `g_running`. -/
  | loop
  /-- In `ringbuffer_read_frame`. -/
  | read
  /-- Before `encoder_encode_frame`. -/
  | encode
  /-- Before the update of `next_frame`, and in `clock_nanosleep`. -/
  | sleep
  /-- In `encoder_shutdown`. -/
  | shutdown
  /-- The thread has returned. -/
  | done
  deriving DecidableEq, Repr

/-- The variables of the encoder thread, and what it shares. -/
structure State (ξ : Type) where
  ring : RingBuffer.State
  gRunning : Bool
  ctx : Ctx ξ
  downlink : Downlink.State
  pc : Pc
  /-- `frame_buffer` and `frame_num`. -/
  frame : Frame
  nextFrame : Timespec
  framesEncoded : UInt32
  framesDropped : UInt32

variable {ξ : Type}

/-- The state when the thread starts. The local variables have arbitrary values. -/
def State.start (memory : Fin RING_BUFFER_SIZE → FrameData) (downlink : Downlink.State)
    (frame : Frame) : State ξ where
  ring := ringbufferInit memory
  gRunning := true
  ctx := Ctx.start
  downlink := downlink
  pc := .init
  frame := frame
  nextFrame := ⟨0, 0⟩
  framesEncoded := 0
  framesDropped := 0

/-- A step of the DOOM thread on the ring buffer. -/
inductive DoomAction where
  /-- It calls `ringbuffer_write_frame`. -/
  | beginWrite (pixels : Option Pixels) (width height : Int)
  /-- It calls `ringbuffer_update_palette`. -/
  | updatePalette (palette : Palette)
  /-- It goes on in `ringbuffer_write_frame`. -/
  | writerStep

/-- The action of the ring buffer. -/
def DoomAction.onRing : DoomAction → RingBuffer.Action
  | .beginWrite pixels width height => .beginWrite pixels width height
  | .updatePalette palette => .updatePalette palette
  | .writerStep => .writerStep

/-- A step of the scheduler. -/
inductive Action where
  /-- The DOOM thread takes a step. -/
  | doom (action : DoomAction)
  /-- The encoder thread takes its next step. -/
  | encoder
  /-- A signal arrives, or DOOM ends: `g_running = 0`. -/
  | stop

/-- The return of `ringbuffer_read_frame`. -/
def afterRead (st : State ξ) : Option Frame → State ξ
  | some frame => { st with frame := frame, pc := .encode }
  | none => { st with framesDropped := st.framesDropped + 1, pc := .sleep }

/-- One step in `ringbuffer_read_frame`. -/
def readFrame (st : State ξ) : State ξ × List RingBuffer.Event :=
  let (ring, events) := RingBuffer.step st.ring .readerStep
  let st := { st with ring := ring }
  match events with
  | [.readReturned frame] => (afterRead st frame, events)
  | _ => (st, events)

/-- The calls of `encoder_encode_frame` and `downlink_send_nals`. -/
def encodeFrame (env : Env ξ) (st : State ξ) : Except Fault (State ξ) := do
  let (numNals, nals, ctx) ← encoderEncodeFrame env.x264 (rgbBytes st.frame.data) st.ctx
  let st := { st with ctx := ctx, pc := .sleep }
  if numNals > 0 then
    let (_, downlink) := Downlink.downlinkSendNals env.net st.downlink (some nals)
      (rtpTimestamp st.frame.number)
    return { st with downlink := downlink, framesEncoded := st.framesEncoded + 1 }
  else return st

/-- The next step of `encoder_thread_func`. -/
def encoderStep (env : Env ξ) (st : State ξ) :
    Except Fault (State ξ × List RingBuffer.Event) :=
  match st.pc with
  | .init =>
    let (result, ctx) := encoderInit env.x264 env.yuvBuffer st.ctx
    let st := { st with ctx := ctx }
    if result ≠ 0 then .ok ({ st with gRunning := false, pc := .done }, [])
    else .ok ({ st with nextFrame := env.clock, pc := .loop }, [])
  | .loop =>
    if st.gRunning then
      let (ring, events) := RingBuffer.step st.ring (.beginRead st.frame)
      .ok ({ st with ring := ring, pc := .read }, events)
    else .ok ({ st with pc := .shutdown }, [])
  | .read => .ok (readFrame st)
  | .encode => do
    let st ← encodeFrame env st
    return (st, [])
  | .sleep => .ok ({ st with nextFrame := st.nextFrame.next, pc := .loop }, [])
  | .shutdown =>
    match st.ctx.encoder with
    | none => .ok ({ st with pc := .done }, [])
    | some encoder =>
      let (goesOn, ctx) := flushFrame env.x264 encoder st.ctx
      .ok ({ st with ctx := ctx, pc := if goesOn then .shutdown else .done }, [])
  | .done => .ok (st, [])

/-- One step of an interleaving, with the outputs of the ring buffer. -/
def step (env : Env ξ) (st : State ξ) :
    Action → Except Fault (State ξ × List RingBuffer.Event)
  | .doom action =>
    let (ring, events) := RingBuffer.step st.ring action.onRing
    .ok ({ st with ring := ring }, events)
  | .encoder => encoderStep env st
  | .stop => .ok ({ st with gRunning := false }, [])

end DoomSat.Satellite
