import DoomSat.Model.Protocol
import DoomSat.Support.Binary32
import Mathlib.Logic.Function.Basic

/-!
# `DoomSat.Model.RingBuffer`: the frame ring buffer of `satellite/ringbuffer.c`

The DOOM thread calls `ringbuffer_write_frame`, and the encoder thread calls
`ringbuffer_read_frame`. Both are modelled step by step: one step is one atomic load, one
compare-exchange, one atomic store, one pixel, or one access to `frame_number`. `Writer` and
`Reader` are the program counters of the two threads, with their local variables.

An action names the thread that takes the next step, or starts a call. So a list of actions
is an interleaving of the two threads. An action that its thread cannot take changes
nothing.

The outputs of a step are `Event`s. `published` and `released` mark the atomic stores of
READY and of EMPTY. The other two are the returns of the calls.

The palette belongs to the DOOM thread, which updates it between two calls only.
-/

set_option autoImplicit false

namespace DoomSat.RingBuffer

open Support

def RING_BUFFER_SIZE : Nat := 3

/-- The number of pixels of a slot. -/
def FRAME_PIXELS : Nat := FRAME_WIDTH * FRAME_HEIGHT

/-- The three bytes of a pixel. -/
structure Rgb where
  r : UInt8
  g : UInt8
  b : UInt8
  deriving DecidableEq, Repr

/-- The content of `frame_data`, pixel by pixel. -/
abbrev FrameData := Fin FRAME_PIXELS → Rgb

/-- The frame buffer of DOOM, 320x200 palette indices. -/
abbrev Pixels := Fin (320 * 200) → UInt8

/-- `g_palette_rgb`. -/
abbrev Palette := UInt8 → Rgb

/-- The values of the status word of a slot. -/
inductive Status where
  | empty
  | writing
  | ready
  | reading
  deriving DecidableEq, Repr

/-- `RingBufferSlot`. -/
structure Slot where
  frameData : FrameData
  status : Status
  frameNumber : UInt32

/-- The two output parameters of `ringbuffer_read_frame`. -/
structure Frame where
  data : FrameData
  number : UInt32

/-! ### Downsampling -/

/-- `src_x` for the column `x`. -/
def srcX (x : Nat) : Nat := ((Binary32.ofRatio 320 FRAME_WIDTH).scale x).trunc

/-- `src_y` for the row `y`. -/
def srcY (y : Nat) : Nat := ((Binary32.ofRatio 200 FRAME_HEIGHT).scale y).trunc

/-- The scaled column lies in the screen of DOOM. The product is a rounded float, so the 176
columns are evaluated one by one. -/
theorem srcX_lt : ∀ x, x < FRAME_WIDTH → srcX x < 320 := by decide +kernel

/-- The same for the rows. -/
theorem srcY_lt : ∀ y, y < FRAME_HEIGHT → srcY y < 200 := by decide +kernel

/-- `src_idx` for the pixel `i` of the frame. It lies in the frame buffer of DOOM. -/
def srcIdx (i : Fin FRAME_PIXELS) : Fin (320 * 200) :=
  let x := i.val % FRAME_WIDTH
  let y := i.val / FRAME_WIDTH
  ⟨srcY y * 320 + srcX x, by
    have hx : srcX x < 320 := srcX_lt x (Nat.mod_lt _ (by decide))
    have hy : srcY y < 200 := srcY_lt y (Nat.div_lt_of_lt_mul i.isLt)
    omega⟩

/-- The pixel `i` that `ringbuffer_write_frame` writes. -/
def convertPixel (palette : Palette) (pixels : Pixels) (i : Fin FRAME_PIXELS) : Rgb :=
  palette (pixels (srcIdx i))

/-! ### The threads -/

/-- Where the DOOM thread is in `ringbuffer_write_frame`. -/
inductive Writer where
  | idle
  /-- Before the load of `g_write_index`. -/
  | load (pixels : Pixels)
  /-- Before the compare-exchange of the status. -/
  | acquire (pixels : Pixels) (slot : Fin RING_BUFFER_SIZE)
  /-- In the loops, before pixel `i`. After the last pixel comes the frame number. -/
  | draw (pixels : Pixels) (slot : Fin RING_BUFFER_SIZE) (i : Nat)
  /-- Before the store of READY, with the number that the frame got. -/
  | publish (pixels : Pixels) (slot : Fin RING_BUFFER_SIZE) (number : UInt32)
  /-- Before the store of `g_write_index`. -/
  | advance (slot : Fin RING_BUFFER_SIZE)
  /-- Before the return. -/
  | finish

/-- Where the encoder thread is in `ringbuffer_read_frame`, with the output parameters. -/
inductive Reader where
  | idle
  /-- Before the load of `g_read_index`. -/
  | load (out : Frame)
  /-- Before the compare-exchange of the status. -/
  | acquire (out : Frame) (slot : Fin RING_BUFFER_SIZE)
  /-- In `memcpy`, before pixel `i`. After the last pixel comes the frame number. -/
  | copy (out : Frame) (slot : Fin RING_BUFFER_SIZE) (i : Nat)
  /-- Before the store of EMPTY. -/
  | release (out : Frame) (slot : Fin RING_BUFFER_SIZE)
  /-- Before the store of `g_read_index`. -/
  | advance (out : Frame) (slot : Fin RING_BUFFER_SIZE)

/-- The static state of `ringbuffer.c` and the two threads. -/
structure State where
  slots : Fin RING_BUFFER_SIZE → Slot
  gWriteIndex : Fin RING_BUFFER_SIZE
  gReadIndex : Fin RING_BUFFER_SIZE
  gFrameCounter : UInt32
  gPaletteRgb : Palette
  writer : Writer
  reader : Reader

/-- The state that `ringbuffer_init` leaves. It does not clear `frame_data`. -/
def ringbufferInit (memory : Fin RING_BUFFER_SIZE → FrameData) : State where
  slots slot := { frameData := memory slot, status := .empty, frameNumber := 0 }
  gWriteIndex := ⟨0, by decide⟩
  gReadIndex := ⟨0, by decide⟩
  gFrameCounter := 0
  gPaletteRgb i := ⟨i, i, i⟩
  writer := .idle
  reader := .idle

/-- What a step shows to the outside. -/
inductive Event where
  /-- A write stored READY: the frame that its caller asked for, and its number. -/
  | published (frame : Frame)
  /-- A read stored EMPTY, with the output parameters at that point. -/
  | released (frame : Frame)
  /-- `ringbuffer_write_frame` returned. -/
  | writeReturned (accepted : Bool)
  /-- `ringbuffer_read_frame` returned true with this frame, or false. -/
  | readReturned (frame : Option Frame)

/-- A step of the scheduler. -/
inductive Action where
  /-- The DOOM thread calls `ringbuffer_write_frame`. -/
  | beginWrite (pixels : Option Pixels) (width height : Int)
  /-- The DOOM thread calls `ringbuffer_update_palette`. -/
  | updatePalette (palette : Palette)
  /-- The DOOM thread goes on in `ringbuffer_write_frame`. -/
  | writerStep
  /-- The encoder thread calls `ringbuffer_read_frame` with this content of its buffers. -/
  | beginRead (out : Frame)
  /-- The encoder thread goes on in `ringbuffer_read_frame`. -/
  | readerStep

/-- Changes one slot. -/
def updateSlot (st : State) (slot : Fin RING_BUFFER_SIZE) (f : Slot → Slot) : State :=
  { st with slots := Function.update st.slots slot (f (st.slots slot)) }

/-- `(slot + 1) % RING_BUFFER_SIZE`. -/
def nextSlot (slot : Fin RING_BUFFER_SIZE) : Fin RING_BUFFER_SIZE :=
  ⟨(slot.val + 1) % RING_BUFFER_SIZE, Nat.mod_lt _ (by decide)⟩

/-- The start of `ringbuffer_write_frame`: the check of its parameters. -/
def beginWrite (st : State) (pixels : Option Pixels) (width height : Int) :
    State × List Event :=
  match pixels with
  | none => (st, [.writeReturned false])
  | some pixels =>
    if width ≠ 320 ∨ height ≠ 200 then (st, [.writeReturned false])
    else ({ st with writer := .load pixels }, [])

/-- The loop body of `ringbuffer_write_frame` for the pixel `i`. -/
def drawPixel (palette : Palette) (pixels : Pixels) (i : Fin FRAME_PIXELS) (s : Slot) : Slot :=
  { s with frameData := Function.update s.frameData i (convertPixel palette pixels i) }

/-- The next step of the DOOM thread in `ringbuffer_write_frame`. -/
def writerStep (st : State) : State × List Event :=
  match st.writer with
  | .idle => (st, [])
  | .load pixels => ({ st with writer := .acquire pixels st.gWriteIndex }, [])
  | .acquire pixels slot =>
    if (st.slots slot).status = .empty then
      ({ updateSlot st slot fun s => { s with status := .writing } with
          writer := .draw pixels slot 0 }, [])
    -- The slot is busy, and the frame is dropped.
    else ({ st with writer := .idle }, [.writeReturned false])
  | .draw pixels slot i =>
    if h : i < FRAME_PIXELS then
      ({ updateSlot st slot (drawPixel st.gPaletteRgb pixels ⟨i, h⟩) with
          writer := .draw pixels slot (i + 1) }, [])
    else
      -- `frame_number = g_frame_counter++`. Only this thread uses the counter.
      ({ updateSlot st slot fun s => { s with frameNumber := st.gFrameCounter } with
          gFrameCounter := st.gFrameCounter + 1
          writer := .publish pixels slot st.gFrameCounter }, [])
  | .publish pixels slot number =>
    ({ updateSlot st slot fun s => { s with status := .ready } with writer := .advance slot },
      [.published ⟨convertPixel st.gPaletteRgb pixels, number⟩])
  | .advance slot => ({ st with gWriteIndex := nextSlot slot, writer := .finish }, [])
  | .finish => ({ st with writer := .idle }, [.writeReturned true])

/-- The next step of the encoder thread in `ringbuffer_read_frame`. -/
def readerStep (st : State) : State × List Event :=
  match st.reader with
  | .idle => (st, [])
  | .load out => ({ st with reader := .acquire out st.gReadIndex }, [])
  | .acquire out slot =>
    if (st.slots slot).status = .ready then
      ({ updateSlot st slot fun s => { s with status := .reading } with
          reader := .copy out slot 0 }, [])
    -- No frame is ready.
    else ({ st with reader := .idle }, [.readReturned none])
  | .copy out slot i =>
    if h : i < FRAME_PIXELS then
      let pixel := (st.slots slot).frameData ⟨i, h⟩
      ({ st with
          reader := .copy { out with data := Function.update out.data ⟨i, h⟩ pixel } slot
            (i + 1) }, [])
    else
      ({ st with
          reader := .release { out with number := (st.slots slot).frameNumber } slot }, [])
  | .release out slot =>
    ({ updateSlot st slot fun s => { s with status := .empty } with
        reader := .advance out slot }, [.released out])
  | .advance out slot =>
    ({ st with gReadIndex := nextSlot slot, reader := .idle }, [.readReturned (some out)])

/-- One step of an interleaving. A call starts, or the palette changes, only between two
calls of its thread. -/
def step (st : State) : Action → State × List Event
  | .beginWrite pixels width height =>
    match st.writer with
    | .idle => beginWrite st pixels width height
    | _ => (st, [])
  | .updatePalette palette =>
    match st.writer with
    | .idle => ({ st with gPaletteRgb := palette }, [])
    | _ => (st, [])
  | .writerStep => writerStep st
  | .beginRead out =>
    match st.reader with
    | .idle => ({ st with reader := .load out }, [])
    | _ => (st, [])
  | .readerStep => readerStep st

end DoomSat.RingBuffer
