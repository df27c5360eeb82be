import DoomSat.Proofs.RingBuffer.Simulation
import DoomSat.Support.Machine

/-!
# `DoomSat.Proofs.RingBuffer.Calls`: calls that nothing interrupts

A call of the ring buffer takes one step for each pixel, and the other thread can take steps
in between. Here it takes none. `run_write` and `run_read` give the state and the outputs
after the whole call, from any state in which the compare-exchange of the call succeeds.

The pixel loops are instances of `run_replicate`. Which pixels they leave in the slot and in
the buffer of the caller is not said here, since the relation `Sim` says it for every
interleaving (`DoomSat.Proofs.RingBuffer.Simulation`).
-/

set_option autoImplicit false

namespace DoomSat.RingBuffer

open Support

/-- The steps of `ringbuffer_write_frame` for a frame of 320x200 pixels. After the loop over
the pixels come the frame number, the two stores and the return. -/
def writeActions (pixels : Pixels) : List Action :=
  .beginWrite (some pixels) 320 200 :: List.replicate (FRAME_PIXELS + 6) .writerStep

section
variable {st : State}

/-- The loop of the writer draws the pixels one after the other. It changes the data of its
slot only. -/
theorem run_draw (pixels : Pixels) {slot : Fin RING_BUFFER_SIZE} {s : Slot} :
    ∃ data, run step
        { st with slots := Function.update st.slots slot s, writer := .draw pixels slot 0 }
        (List.replicate FRAME_PIXELS .writerStep)
      = ({ st with
            slots := Function.update st.slots slot { s with frameData := data }
            writer := .draw pixels slot FRAME_PIXELS }, []) := by
  obtain ⟨st', hrun, data, rfl⟩ := @run_replicate _ _ _ step
    (fun i next => ∃ data, next =
      { st with
        slots := Function.update st.slots slot { s with frameData := data }
        writer := .draw pixels slot i })
    .writerStep FRAME_PIXELS 0 _ ⟨s.frameData, rfl⟩ (by
      rintro i next hi ⟨data, rfl⟩
      rw [Nat.zero_add] at hi
      simp only [step, writerStep, hi, dif_pos, updateSlot, Function.update_idem,
        Function.update_self]
      exact ⟨trivial, _, rfl⟩)
  rw [Nat.zero_add] at hrun
  exact ⟨data, hrun⟩

/-- A write into an empty slot. It publishes the frame with the next number, makes its slot
READY, goes on to the next slot and returns true. -/
theorem run_write (hidle : st.writer = .idle)
    (hempty : (st.slots st.gWriteIndex).status = .empty) (pixels : Pixels) :
    ∃ data, run step st (writeActions pixels)
      = ({ st with
            slots := Function.update st.slots st.gWriteIndex ⟨data, .ready, st.gFrameCounter⟩
            gWriteIndex := nextSlot st.gWriteIndex
            gFrameCounter := st.gFrameCounter + 1
            writer := .idle },
        [.published ⟨convertPixel st.gPaletteRgb pixels, st.gFrameCounter⟩,
          .writeReturned true]) := by
  have hparts : writeActions pixels
      = [.beginWrite (some pixels) 320 200, .writerStep, .writerStep] ++
        (List.replicate FRAME_PIXELS .writerStep ++ List.replicate 4 .writerStep) := by
    rw [← List.replicate_add]
    rfl
  -- The slot is acquired before the loop.
  have hacquire : run step st [.beginWrite (some pixels) 320 200, .writerStep, .writerStep]
      = ({ st with
            slots := Function.update st.slots st.gWriteIndex
              { st.slots st.gWriteIndex with status := .writing }
            writer := .draw pixels st.gWriteIndex 0 }, []) := by
    simp [run, step, hidle, beginWrite, writerStep, hempty, updateSlot]
  obtain ⟨data, hdraw⟩ := @run_draw st pixels st.gWriteIndex
    { st.slots st.gWriteIndex with status := .writing }
  refine ⟨data, ?_⟩
  rw [hparts]
  refine run_trans step hacquire (run_trans step hdraw ?_)
  simp only [List.replicate, run, step, writerStep, updateSlot, Nat.lt_irrefl, dif_neg,
    not_false_eq_true, Function.update_idem, Function.update_self]
  rfl

/-- The loop of the reader copies the pixels one after the other. It changes the data of the
frame of its caller only. -/
theorem run_copy (out : Frame) (slot : Fin RING_BUFFER_SIZE) :
    ∃ data, run step { st with reader := .copy out slot 0 }
        (List.replicate FRAME_PIXELS .readerStep)
      = ({ st with reader := .copy { out with data := data } slot FRAME_PIXELS }, []) := by
  obtain ⟨st', hrun, data, rfl⟩ := @run_replicate _ _ _ step
    (fun i next => ∃ data, next = { st with reader := .copy { out with data := data } slot i })
    .readerStep FRAME_PIXELS 0 _ ⟨out.data, rfl⟩ (by
      rintro i next hi ⟨data, rfl⟩
      rw [Nat.zero_add] at hi
      simp only [step, readerStep, hi, dif_pos]
      exact ⟨trivial, _, rfl⟩)
  rw [Nat.zero_add] at hrun
  exact ⟨data, hrun⟩

/-- A read of a READY slot, up to its last step. It makes the slot EMPTY and releases the
frame that it returns in the last step. -/
theorem run_read {out : Frame} (hload : st.reader = .load out)
    (hready : (st.slots st.gReadIndex).status = .ready) :
    ∃ frame, run step st (List.replicate (FRAME_PIXELS + 4) .readerStep)
      = ({ st with
            slots := Function.update st.slots st.gReadIndex
              { st.slots st.gReadIndex with status := .empty }
            reader := .advance frame st.gReadIndex }, [.released frame]) := by
  have hparts : List.replicate (FRAME_PIXELS + 4) Action.readerStep
      = List.replicate 2 .readerStep ++
        (List.replicate FRAME_PIXELS .readerStep ++ List.replicate 2 .readerStep) := by
    rw [← List.replicate_add, ← List.replicate_add]
    exact congrArg (List.replicate · Action.readerStep) (by omega)
  have hacquire : run step st (List.replicate 2 .readerStep)
      = ({ st with
            slots := Function.update st.slots st.gReadIndex
              { st.slots st.gReadIndex with status := .reading }
            reader := .copy out st.gReadIndex 0 }, []) := by
    simp [List.replicate, run, step, readerStep, hload, hready, updateSlot]
  obtain ⟨data, hcopy⟩ := @run_copy
    { st with
      slots := Function.update st.slots st.gReadIndex
        { st.slots st.gReadIndex with status := .reading } } out st.gReadIndex
  refine ⟨⟨data, (st.slots st.gReadIndex).frameNumber⟩, ?_⟩
  rw [hparts]
  refine run_trans step hacquire (run_trans step hcopy ?_)
  simp only [List.replicate, run, step, readerStep, updateSlot, Nat.lt_irrefl, dif_neg,
    not_false_eq_true, Function.update_idem, Function.update_self]
  rfl

end

end DoomSat.RingBuffer
