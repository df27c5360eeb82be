import DoomSat.Proofs.RingBuffer.Simulation

/-!
# `DoomSat.Proofs.RingBuffer.Steps`: every step simulates the queue

`step_sim` shows for every action of every interleaving that the relation `Sim` is kept, and
that the outputs of the step are operations of the queue of three frames. The proof is one
case for each program counter of the two threads (`writerStep_sim` and `readerStep_sim`).
-/

set_option autoImplicit false

namespace DoomSat.RingBuffer

open Support

/-- The queue operation that an output stands for. -/
def Event.queueOp? : Event → Option (QueueOp Frame)
  | .published frame => some (.enqueue frame)
  | .released frame => some (.dequeue frame)
  | .writeReturned _ => none
  | .readReturned _ => none

/-- The queue operations among the outputs. -/
def queueOps (out : List Event) : List (QueueOp Frame) := out.filterMap Event.queueOp?

/-- No output, no operation of the queue. -/
@[simp] theorem queueOps_nil : queueOps [] = [] := rfl

/-- The operations of two parts of a run, one after the other. -/
@[simp] theorem queueOps_append (out out' : List Event) :
    queueOps (out ++ out') = queueOps out ++ queueOps out' :=
  List.filterMap_append

/-- A step to `st'` with these outputs: the queue does what the outputs say, and the ring
buffer holds the queue afterwards. -/
def StepSim (released : Nat) (q : List Frame) (next : State × List Event) : Prop :=
  ∃ q', QueueMove 3 q (queueOps next.2) q' ∧
    Sim next.1 (released + (dequeued (queueOps next.2)).length) q'

section
variable {st : State} {released : Nat} {q : List Frame}

/-- A step without a queue operation. -/
theorem StepSim.stay {next : State × List Event} (hops : queueOps next.2 = [])
    (h : Sim next.1 released q) : StepSim released q next := by
  refine ⟨q, ?_, ?_⟩
  · rw [hops]
    exact .stay q
  · rw [hops]
    exact h

/-- The status of the slot that the writer holds. -/
theorem status_of_writing (h : SlotSim st released q) (hbusy : st.writer.busy = true) :
    (st.slots (ringSlot (released + q.length))).status = .writing := by
  rw [h.status q.length (h.writing hbusy), expectedStatus, if_neg (Nat.lt_irrefl _), if_pos]
  exact ⟨hbusy, rfl⟩

/-- The writer moves on and leaves the slots and the reader as they are. Most steps of
`ringbuffer_write_frame` are of this kind: it loads an index, stores one, or returns. -/
theorem StepSim.writerMoves (h : Sim st released q) {st' : State} {out : List Event}
    (hops : queueOps out = []) (hslots : st'.slots = st.slots)
    (hbusy : st'.writer.busy = st.writer.busy) (hreader : st'.reader = st.reader)
    (hindex : st'.gReadIndex = st.gReadIndex)
    (hwriter : WriterSim st' (released + q.length)) : StepSim released q (st', out) := by
  have hsame : st'.reader.busy = st.reader.busy := congrArg Reader.busy hreader
  exact .stay hops
    ⟨h.slots.congr hslots hbusy hsame, hwriter, h.reader.congr hreader hindex⟩

/-- The reader moves on and leaves the slots and the writer as they are. The writer side of the
relation also speaks of the frame counter and of the palette, so these must be the old ones. -/
theorem StepSim.readerMoves (h : Sim st released q) {st' : State} {out : List Event}
    (hops : queueOps out = []) (hslots : st'.slots = st.slots)
    (hbusy : st'.reader.busy = st.reader.busy) (hwriter : st'.writer = st.writer)
    (hindex : st'.gWriteIndex = st.gWriteIndex)
    (hcounter : st'.gFrameCounter = st.gFrameCounter)
    (hpalette : st'.gPaletteRgb = st.gPaletteRgb)
    (hreader : ReaderSim st' released q) : StepSim released q (st', out) := by
  have hsame : st'.writer.busy = st.writer.busy := congrArg Writer.busy hwriter
  refine .stay hops ⟨h.slots.congr hslots hsame hbusy, ?_, hreader⟩
  apply h.writer.congr hwriter hindex hcounter hpalette
  intro slot
  rw [hslots]
  exact ⟨rfl, rfl⟩

/-- The pixels of the slot after the loop body. -/
theorem drawnSlot_frameData (st : State) (slot : Fin RING_BUFFER_SIZE) {pixels : Pixels}
    {i : Nat} (hi : i < FRAME_PIXELS) :
    ((updateSlot st slot (drawPixel st.gPaletteRgb pixels ⟨i, hi⟩)).slots slot).frameData
      = Function.update (st.slots slot).frameData ⟨i, hi⟩
          (convertPixel st.gPaletteRgb pixels ⟨i, hi⟩) :=
  congrArg Slot.frameData (updateSlot_self ..)

/-- Every step of the writer simulates the queue. The cases are its program counters. Only the
store of READY puts a frame into the queue, and the pixels before it change a slot that no
reader looks at. -/
theorem writerStep_sim (h : Sim st released q) : StepSim released q (writerStep st) := by
  have hwriter := h.writer
  unfold WriterSim at hwriter
  unfold writerStep
  cases hw : st.writer with
  | idle => exact .stay rfl h
  | load pixels =>
    rw [hw] at hwriter
    exact .writerMoves h rfl rfl (by simp [hw, Writer.busy]) rfl rfl
      ⟨hwriter.1, hwriter.2, hwriter.1⟩
  | acquire pixels slot =>
    rw [hw] at hwriter
    obtain ⟨hindex, hcounter, rfl⟩ := hwriter
    have hidle : st.writer.busy = false := by simp [hw, Writer.busy]
    dsimp only
    split
    · -- The compare-exchange succeeds: the slot is behind the queue.
      have hroom := (writer_acquires_iff h.slots hidle).mp ‹_›
      exact .stay rfl
        ⟨h.slots.update_free hroom (fun s => { s with status := .writing }) rfl rfl rfl,
          ⟨hindex, hcounter, rfl, agreeBelow_zero _ _⟩, h.reader.congr rfl rfl⟩
    · -- The compare-exchange fails: the slot is still in the queue, and the frame is dropped.
      exact .writerMoves h rfl rfl (by simp [hw, Writer.busy]) rfl rfl ⟨hindex, hcounter⟩
  | draw pixels slot i =>
    rw [hw] at hwriter
    obtain ⟨hindex, hcounter, rfl, hagree⟩ := hwriter
    have hbusy : st.writer.busy = true := by simp [hw, Writer.busy]
    have hroom := h.slots.writing hbusy
    have hstatus := status_of_writing h.slots hbusy
    dsimp only
    split
    · -- One more pixel.
      rename_i hi
      have hagree := hagree.update hi
      rw [← drawnSlot_frameData st (ringSlot (released + q.length)) hi] at hagree
      exact .stay rfl ⟨h.slots.update_free hroom (drawPixel st.gPaletteRgb pixels ⟨i, hi⟩)
        rfl hstatus rfl, ⟨hindex, hcounter, rfl, hagree⟩, h.reader.congr rfl rfl⟩
    · -- All pixels are drawn: the frame gets its number.
      rename_i hi
      have hdata := hagree.eq hi
      have hnumbered := updateSlot_self st (ringSlot (released + q.length))
        fun s => { s with frameNumber := st.gFrameCounter }
      have hnext : st.gFrameCounter + 1 = UInt32.ofNat (released + q.length + 1) := by
        rw [hcounter, UInt32.ofNat_add (released + q.length) 1]
        rfl
      exact .stay rfl ⟨h.slots.update_free hroom
          (fun s => { s with frameNumber := st.gFrameCounter }) rfl hstatus rfl,
        ⟨hindex, hnext, rfl, (congrArg Slot.frameData hnumbered).trans hdata,
          congrArg Slot.frameNumber hnumbered, hcounter⟩, h.reader.congr rfl rfl⟩
  | publish pixels slot number =>
    rw [hw] at hwriter
    obtain ⟨hindex, hcounter, rfl, hdata, hnumber, hcount⟩ := hwriter
    have hbusy : st.writer.busy = true := by simp [hw, Writer.busy]
    -- The store of READY: the drawn frame goes into the queue.
    refine ⟨q ++ [⟨convertPixel st.gPaletteRgb pixels, number⟩],
      .step (.enqueue _ q (h.slots.writing hbusy)), ?_⟩
    refine ⟨h.slots.publish hbusy rfl rfl rfl hdata hnumber hcount, ?_, ?_⟩
    · show _ ∧ _ ∧ _
      rw [List.length_append, List.length_singleton, ← Nat.add_assoc]
      exact ⟨hindex, hcounter, nextSlot_ringSlot _⟩
    · exact (h.reader.concat h.slots.reading _).congr rfl rfl
  | advance slot =>
    rw [hw] at hwriter
    obtain ⟨hindex, hcounter, hnext⟩ := hwriter
    exact .writerMoves h rfl rfl (by simp [hw, Writer.busy]) rfl rfl ⟨hnext, hcounter⟩
  | finish =>
    rw [hw] at hwriter
    exact .writerMoves h rfl rfl (by simp [hw, Writer.busy]) rfl rfl hwriter

/-- The pixels that the reader copies are those of the oldest frame. -/
theorem content_of_reading (h : SlotSim st released q) {frame : Frame}
    (hfirst : q.head? = some frame) :
    (st.slots (ringSlot released)).frameData = frame.data ∧
      (st.slots (ringSlot released)).frameNumber = frame.number := by
  have hcontent := h.content 0 frame
  rw [← List.head?_eq_getElem?, Nat.add_zero] at hcontent
  exact hcontent hfirst

/-- A change of a status leaves the data and the numbers of all slots. -/
theorem updateSlot_status (st : State) (slot slot' : Fin RING_BUFFER_SIZE) (status : Status) :
    ((updateSlot st slot fun s => { s with status := status }).slots slot').frameData
        = (st.slots slot').frameData ∧
      ((updateSlot st slot fun s => { s with status := status }).slots slot').frameNumber
        = (st.slots slot').frameNumber := by
  by_cases h : slot' = slot
  · rw [h, updateSlot_self]
    exact ⟨rfl, rfl⟩
  · rw [updateSlot_of_ne _ _ h]
    exact ⟨rfl, rfl⟩

/-- Every step of the reader simulates the queue. Only the store of EMPTY takes a frame out of
it, and by then the reader has copied the slot of the oldest frame, which the writer leaves
alone. -/
theorem readerStep_sim (h : Sim st released q) : StepSim released q (readerStep st) := by
  have hreader := h.reader
  unfold ReaderSim at hreader
  unfold readerStep
  cases hr : st.reader with
  | idle => exact .stay rfl h
  | load out =>
    rw [hr] at hreader
    exact .readerMoves h rfl rfl (by simp [hr, Reader.busy]) rfl rfl rfl rfl
      ⟨hreader, hreader⟩
  | acquire out slot =>
    rw [hr] at hreader
    obtain ⟨hindex, rfl⟩ := hreader
    have hidle : st.reader.busy = false := by simp [hr, Reader.busy]
    dsimp only
    split
    · -- The compare-exchange succeeds: the slot holds the oldest frame.
      have hq := (reader_acquires_iff h.slots hidle).mp ‹_›
      exact .stay rfl ⟨h.slots.update_first hq rfl rfl rfl,
        h.writer.congr rfl rfl rfl rfl (fun slot => updateSlot_status st _ slot _),
        ⟨hindex, rfl, fun _ _ => agreeBelow_zero _ _⟩⟩
    · -- The compare-exchange fails: the queue is empty.
      exact .readerMoves h rfl rfl (by simp [hr, Reader.busy]) rfl rfl rfl rfl hindex
  | copy out slot i =>
    rw [hr] at hreader
    obtain ⟨hindex, rfl, hagree⟩ := hreader
    dsimp only
    split
    · -- One more pixel.
      rename_i hi
      refine .readerMoves h rfl rfl (by simp [hr, Reader.busy]) rfl rfl rfl rfl
        ⟨hindex, rfl, ?_⟩
      intro frame hfirst
      rw [(content_of_reading h.slots hfirst).1]
      exact (hagree frame hfirst).update hi
    · -- All pixels are copied: the frame number is next.
      rename_i hi
      refine .readerMoves h rfl rfl (by simp [hr, Reader.busy]) rfl rfl rfl rfl
        ⟨hindex, rfl, ?_⟩
      intro frame hfirst
      rw [(content_of_reading h.slots hfirst).2, (hagree frame hfirst).eq hi]
  | release out slot =>
    rw [hr] at hreader
    obtain ⟨hindex, rfl, hout⟩ := hreader
    have hbusy : st.reader.busy = true := by simp [hr, Reader.busy]
    obtain ⟨frame, q', rfl⟩ :=
      List.exists_cons_of_ne_nil (List.length_pos_iff.mp (h.slots.reading hbusy))
    obtain rfl := hout frame rfl
    have hwriter : WriterSim st (released + 1 + q'.length) := by
      have hlen : released + (out :: q').length = released + 1 + q'.length := by
        rw [List.length_cons]
        omega
      rw [← hlen]
      exact h.writer
    -- The store of EMPTY: the copied frame is the oldest one, and it goes out.
    refine ⟨q', .step (.dequeue out q'), ?_⟩
    exact ⟨h.slots.release rfl rfl rfl,
      hwriter.congr rfl rfl rfl rfl (fun slot => updateSlot_status st _ slot _),
      ⟨hindex, nextSlot_ringSlot released⟩⟩
  | advance out slot =>
    rw [hr] at hreader
    obtain ⟨hindex, hnext⟩ := hreader
    exact .readerMoves h rfl rfl (by simp [hr, Reader.busy]) rfl rfl rfl rfl hnext

/-- The start of a write takes no frame and gives none. -/
theorem beginWrite_sim (h : Sim st released q) (hidle : st.writer = .idle)
    (pixels : Option Pixels) (width height : Int) :
    StepSim released q (beginWrite st pixels width height) := by
  have hwriter := h.writer
  unfold WriterSim at hwriter
  rw [hidle] at hwriter
  cases pixels with
  | none => exact .stay rfl h
  | some pixels =>
    unfold beginWrite
    dsimp only
    split
    · exact .stay rfl h
    · exact .writerMoves h rfl rfl (by simp [hidle, Writer.busy]) rfl rfl hwriter

/-- Every step of every interleaving simulates the queue. A call that begins while the same
thread is in a call is no step, so the state stays. -/
theorem step_sim (h : Sim st released q) (a : Action) : StepSim released q (step st a) := by
  cases a with
  | beginWrite pixels width height =>
    unfold step
    cases hw : st.writer with
    | idle => exact beginWrite_sim h hw pixels width height
    | load | acquire | draw | publish | advance | finish => exact .stay rfl h
  | updatePalette palette =>
    unfold step
    cases hw : st.writer with
    | idle =>
      have hwriter := h.writer
      unfold WriterSim at hwriter
      rw [hw] at hwriter
      exact .writerMoves h rfl rfl (by simp [hw, Writer.busy]) rfl rfl hwriter
    | load | acquire | draw | publish | advance | finish => exact .stay rfl h
  | writerStep => exact writerStep_sim h
  | beginRead out =>
    unfold step
    cases hr : st.reader with
    | idle =>
      have hreader := h.reader
      unfold ReaderSim at hreader
      rw [hr] at hreader
      exact .readerMoves h rfl rfl (by simp [hr, Reader.busy]) rfl rfl rfl rfl hreader
    | load | acquire | copy | release | advance => exact .stay rfl h
  | readerStep => exact readerStep_sim h

end

end DoomSat.RingBuffer
