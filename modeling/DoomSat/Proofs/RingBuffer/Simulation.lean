import DoomSat.Model.RingBuffer
import DoomSat.Support.Fifo

/-!
# `DoomSat.Proofs.RingBuffer.Simulation`: the ring buffer simulates a queue of three frames

`Sim st released q` relates a state of the ring buffer to the abstract queue `q`, after
`released` frames were released. The frames of `q` lie in the slots from `released` on,
modulo 3. The writer works on the slot behind them, and the reader on the first one.

The two indices lag behind: each thread stores its index one step after its status. The
parts `WriterSim` and `ReaderSim` say what each thread knows at each program counter.

`writerStep_sim` and `readerStep_sim` show that each step keeps the relation. The store of
READY puts a frame in the queue, the store of EMPTY takes the oldest one out, and no other
step changes the queue. `writer_acquires_iff` and `reader_acquires_iff` state when the two
compare-exchanges succeed.
-/

set_option autoImplicit false

namespace DoomSat.RingBuffer

open Support

/-! ### Slots by sequence number -/

/-- The slot of the frame with sequence number `k`. -/
def ringSlot (k : Nat) : Fin RING_BUFFER_SIZE := ⟨k % RING_BUFFER_SIZE, Nat.mod_lt _ (by decide)⟩

/-- Two sequence numbers have the same slot when they agree modulo 3. -/
theorem ringSlot_eq_iff (j k : Nat) : ringSlot j = ringSlot k ↔ j % 3 = k % 3 :=
  Fin.ext_iff

/-- The next slot is that of the next sequence number. -/
theorem nextSlot_ringSlot (k : Nat) : nextSlot (ringSlot k) = ringSlot (k + 1) := by
  apply Fin.ext
  show (k % 3 + 1) % 3 = (k + 1) % 3
  omega

/-- Three frames later the slot comes round again. -/
theorem ringSlot_add_size (k : Nat) : ringSlot (k + 3) = ringSlot k := by
  rw [ringSlot_eq_iff]
  omega

/-- Two positions in the window of the three slots from `k` on are different slots. -/
theorem ringSlot_ne {k i j : Nat} (hi : i < 3) (hj : j < 3) (hne : i ≠ j) :
    ringSlot (k + i) ≠ ringSlot (k + j) := by
  rw [Ne, ringSlot_eq_iff]
  omega

/-- Every slot lies in the window of the three slots from `k` on. -/
theorem exists_ringSlot_eq (k : Nat) (slot : Fin RING_BUFFER_SIZE) :
    ∃ i, i < 3 ∧ ringSlot (k + i) = slot := by
  have hslot : slot.val < 3 := slot.isLt
  refine ⟨(slot.val + 3 - k % 3) % 3, Nat.mod_lt _ (by decide), ?_⟩
  apply Fin.ext
  show (k + (slot.val + 3 - k % 3) % 3) % 3 = slot.val
  omega

/-- The slot that is updated. -/
@[simp] theorem updateSlot_self (st : State) (slot : Fin RING_BUFFER_SIZE) (f : Slot → Slot) :
    (updateSlot st slot f).slots slot = f (st.slots slot) :=
  Function.update_self ..

/-- The other slots stay. -/
theorem updateSlot_of_ne (st : State) {slot slot' : Fin RING_BUFFER_SIZE} (f : Slot → Slot)
    (h : slot' ≠ slot) : (updateSlot st slot f).slots slot' = st.slots slot' :=
  Function.update_of_ne h ..

/-! ### Copies, pixel by pixel -/

/-- The first `n` pixels agree. -/
def AgreeBelow (n : Nat) (data data' : FrameData) : Prop :=
  ∀ i : Fin FRAME_PIXELS, i.val < n → data i = data' i

/-- Before the first pixel is copied, nothing is known. -/
theorem agreeBelow_zero (data data' : FrameData) : AgreeBelow 0 data data' :=
  fun _ h => absurd h (Nat.not_lt_zero _)

/-- One more pixel is copied. This is the step of the two loops over the pixels. -/
theorem AgreeBelow.update {n : Nat} {data data' : FrameData} (h : AgreeBelow n data data')
    (hn : n < FRAME_PIXELS) :
    AgreeBelow (n + 1) (Function.update data ⟨n, hn⟩ (data' ⟨n, hn⟩)) data' := by
  intro i hi
  by_cases hin : i = ⟨n, hn⟩
  · rw [hin, Function.update_self]
  · rw [Function.update_of_ne hin]
    have hne : i.val ≠ n := fun heq => hin (Fin.ext heq)
    exact h i (by omega)

/-- After all pixels, the copy is complete. -/
theorem AgreeBelow.eq {n : Nat} {data data' : FrameData} (h : AgreeBelow n data data')
    (hn : ¬ n < FRAME_PIXELS) : data = data' :=
  funext fun i => h i (Nat.lt_of_lt_of_le i.isLt (Nat.not_lt.mp hn))

/-! ### The relation -/

/-- The writer holds a slot. -/
def Writer.busy : Writer → Bool
  | .draw _ _ _ => true
  | .publish _ _ _ => true
  | _ => false

/-- The reader holds a slot. -/
def Reader.busy : Reader → Bool
  | .copy _ _ _ => true
  | .release _ _ => true
  | _ => false

/-- The status of the slot at position `k` of the window, with `n` frames in the queue. -/
def expectedStatus (writing reading : Bool) (n k : Nat) : Status :=
  if k < n then if reading ∧ k = 0 then .reading else .ready
  else if writing ∧ k = n then .writing else .empty

/-- The slots hold the queue. -/
structure SlotSim (st : State) (released : Nat) (q : List Frame) : Prop where
  room : q.length ≤ 3
  writing : st.writer.busy = true → q.length < 3
  reading : st.reader.busy = true → 0 < q.length
  status : ∀ k, k < 3 → (st.slots (ringSlot (released + k))).status
    = expectedStatus st.writer.busy st.reader.busy q.length k
  content : ∀ k frame, q[k]? = some frame →
    (st.slots (ringSlot (released + k))).frameData = frame.data ∧
      (st.slots (ringSlot (released + k))).frameNumber = frame.number
  number : ∀ k frame, q[k]? = some frame → frame.number = UInt32.ofNat (released + k)

/-- What the writer knows when `published` frames were published. -/
def WriterSim (st : State) (published : Nat) : Prop :=
  match st.writer with
  | .idle => st.gWriteIndex = ringSlot published ∧ st.gFrameCounter = UInt32.ofNat published
  | .load _ => st.gWriteIndex = ringSlot published ∧ st.gFrameCounter = UInt32.ofNat published
  | .acquire _ slot =>
    st.gWriteIndex = ringSlot published ∧ st.gFrameCounter = UInt32.ofNat published ∧
      slot = ringSlot published
  | .draw pixels slot i =>
    st.gWriteIndex = ringSlot published ∧ st.gFrameCounter = UInt32.ofNat published ∧
      slot = ringSlot published ∧
      AgreeBelow i (st.slots slot).frameData (convertPixel st.gPaletteRgb pixels)
  | .publish pixels slot number =>
    st.gWriteIndex = ringSlot published ∧ st.gFrameCounter = UInt32.ofNat (published + 1) ∧
      slot = ringSlot published ∧
      (st.slots slot).frameData = convertPixel st.gPaletteRgb pixels ∧
      (st.slots slot).frameNumber = number ∧ number = UInt32.ofNat published
  | .advance slot =>
    st.gWriteIndex = slot ∧ st.gFrameCounter = UInt32.ofNat published ∧
      nextSlot slot = ringSlot published
  | .finish =>
    st.gWriteIndex = ringSlot published ∧ st.gFrameCounter = UInt32.ofNat published

/-- What the reader knows after `released` frames were released, with the queue `q`. -/
def ReaderSim (st : State) (released : Nat) (q : List Frame) : Prop :=
  match st.reader with
  | .idle => st.gReadIndex = ringSlot released
  | .load _ => st.gReadIndex = ringSlot released
  | .acquire _ slot => st.gReadIndex = ringSlot released ∧ slot = ringSlot released
  | .copy out slot i =>
    st.gReadIndex = ringSlot released ∧ slot = ringSlot released ∧
      ∀ frame, q.head? = some frame → AgreeBelow i out.data frame.data
  | .release out slot =>
    st.gReadIndex = ringSlot released ∧ slot = ringSlot released ∧
      ∀ frame, q.head? = some frame → out = frame
  | .advance _ slot => st.gReadIndex = slot ∧ nextSlot slot = ringSlot released

/-- The ring buffer holds the queue `q`, after `released` frames were released. -/
structure Sim (st : State) (released : Nat) (q : List Frame) : Prop where
  slots : SlotSim st released q
  writer : WriterSim st (released + q.length)
  reader : ReaderSim st released q

/-- `ringbuffer_init` leaves the empty queue: all slots are EMPTY and both indices are 0. -/
theorem sim_init (memory : Fin RING_BUFFER_SIZE → FrameData) :
    Sim (ringbufferInit memory) 0 [] where
  slots := {
    room := by decide
    writing := fun h => by cases h
    reading := fun h => by cases h
    status := fun _ _ => rfl
    content := fun _ _ h => by simp at h
    number := fun _ _ h => by simp at h }
  writer := ⟨rfl, rfl⟩
  reader := rfl

/-! ### The two compare-exchanges -/

section
variable {st : State} {released : Nat} {q : List Frame}

/-- The slot behind the queue is EMPTY exactly when the queue has room. So the compare-exchange
of the writer fails exactly on a full queue. -/
theorem writer_acquires_iff (h : SlotSim st released q) (hidle : st.writer.busy = false) :
    (st.slots (ringSlot (released + q.length))).status = .empty ↔ q.length < 3 := by
  have hroom := h.room
  by_cases hlt : q.length < 3
  · rw [h.status q.length hlt, expectedStatus, if_neg (Nat.lt_irrefl _), hidle]
    simp [hlt]
  · -- A full queue: the slot behind it is the first one again.
    have hfull : q.length = 3 := by omega
    have hfirst := h.status 0 (by decide)
    rw [Nat.add_zero, expectedStatus, if_pos (by omega)] at hfirst
    rw [hfull, ringSlot_add_size, hfirst]
    cases st.reader.busy <;> simp

/-- The first slot of the window is READY exactly when the queue has a frame. So the
compare-exchange of the reader fails exactly on an empty queue. -/
theorem reader_acquires_iff (h : SlotSim st released q) (hidle : st.reader.busy = false) :
    (st.slots (ringSlot released)).status = .ready ↔ q ≠ [] := by
  have hfirst := h.status 0 (by decide)
  rw [Nat.add_zero, expectedStatus, hidle] at hfirst
  rw [hfirst, ← List.length_pos_iff]
  by_cases hpos : 0 < q.length
  · simp [hpos]
  · rw [if_neg hpos]
    split <;> simp [hpos]

/-! ### Steps that move no frame -/

/-- The relation of the slots only looks at the slots and at who holds one. Steps that move a
program counter inside a call keep it. -/
theorem SlotSim.congr (h : SlotSim st released q) {st' : State} (hslots : st'.slots = st.slots)
    (hw : st'.writer.busy = st.writer.busy) (hr : st'.reader.busy = st.reader.busy) :
    SlotSim st' released q where
  room := h.room
  writing := hw ▸ h.writing
  reading := hr ▸ h.reading
  status := by
    rw [hslots, hw, hr]
    exact h.status
  content := by
    rw [hslots]
    exact h.content
  number := h.number

/-- The writer changes the slot behind the queue. The slot is WRITING exactly when the writer
holds it afterwards. No frame of the queue lies in this slot, so its content may change. -/
theorem SlotSim.update_free (h : SlotSim st released q) (hroom : q.length < 3)
    {st' : State} (f : Slot → Slot)
    (hslots : st'.slots = (updateSlot st (ringSlot (released + q.length)) f).slots)
    (hstatus : (f (st.slots (ringSlot (released + q.length)))).status
      = if st'.writer.busy then .writing else .empty)
    (hr : st'.reader.busy = st.reader.busy) : SlotSim st' released q where
  room := h.room
  writing := fun _ => hroom
  reading := hr ▸ h.reading
  status := by
    intro k hk
    rw [hslots, hr]
    -- The slots of the queue and the ones behind the free slot stay.
    by_cases hkn : k = q.length
    · rw [hkn, updateSlot_self, hstatus, expectedStatus, if_neg (Nat.lt_irrefl _)]
      cases st'.writer.busy <;> simp
    · rw [updateSlot_of_ne _ _ (ringSlot_ne hk hroom hkn), h.status k hk]
      unfold expectedStatus
      simp [hkn]
  content := by
    intro k frame hk
    have hlt : k < q.length := (List.getElem?_eq_some_iff.mp hk).1
    rw [hslots, updateSlot_of_ne _ _ (ringSlot_ne (by omega) hroom (by omega))]
    exact h.content k frame hk
  number := h.number

/-- The reader takes the first slot of the queue. Its frame stays in the queue until the slot is
released. -/
theorem SlotSim.update_first (h : SlotSim st released q) (hq : q ≠ []) {st' : State}
    (hslots : st'.slots
      = (updateSlot st (ringSlot released) fun s => { s with status := .reading }).slots)
    (hw : st'.writer.busy = st.writer.busy) (hr : st'.reader.busy = true) :
    SlotSim st' released q where
  room := h.room
  writing := hw ▸ h.writing
  reading := fun _ => List.length_pos_iff.mpr hq
  status := by
    have hpos := List.length_pos_iff.mpr hq
    intro k hk
    rw [hslots, hw, hr]
    -- Only the first slot changes its status, from READY to READING.
    by_cases hk0 : k = 0
    · rw [hk0, Nat.add_zero, updateSlot_self, expectedStatus, if_pos hpos]
      simp
    · rw [updateSlot_of_ne _ _ (by simpa using @ringSlot_ne released k 0 hk (by decide) hk0),
        h.status k hk]
      unfold expectedStatus
      simp [hk0]
  content := by
    intro k frame hk
    rw [hslots]
    by_cases hk0 : k = 0
    · have hold := h.content k frame hk
      rw [hk0, Nat.add_zero] at hold ⊢
      rw [updateSlot_self]
      exact hold
    · have hlt : k < q.length := (List.getElem?_eq_some_iff.mp hk).1
      have hroom := h.room
      rw [updateSlot_of_ne _ _
        (by simpa using @ringSlot_ne released k 0 (by omega) (by decide) hk0)]
      exact h.content k frame hk
  number := h.number

/-- What the writer knows does not depend on the reader, as long as the data and the numbers
of the slots stay. -/
theorem WriterSim.congr {published : Nat} (h : WriterSim st published) {st' : State}
    (hwriter : st'.writer = st.writer) (hindex : st'.gWriteIndex = st.gWriteIndex)
    (hcounter : st'.gFrameCounter = st.gFrameCounter) (hpalette : st'.gPaletteRgb = st.gPaletteRgb)
    (hslots : ∀ slot, (st'.slots slot).frameData = (st.slots slot).frameData ∧
      (st'.slots slot).frameNumber = (st.slots slot).frameNumber) :
    WriterSim st' published := by
  unfold WriterSim at *
  rw [hwriter, hindex, hcounter, hpalette]
  -- Only a writer that holds a slot knows something of its content.
  cases hw : st.writer with
  | draw pixels slot i =>
    rw [hw] at h
    simp only [(hslots slot).1]
    exact h
  | publish pixels slot number =>
    rw [hw] at h
    simp only [(hslots slot).1, (hslots slot).2]
    exact h
  | idle | load | acquire | advance | finish =>
    rw [hw] at h
    exact h

/-- What the reader knows does not depend on the writer: it looks at its own index and at the
queue. -/
theorem ReaderSim.congr (h : ReaderSim st released q) {st' : State}
    (hreader : st'.reader = st.reader) (hindex : st'.gReadIndex = st.gReadIndex) :
    ReaderSim st' released q := by
  unfold ReaderSim at *
  rw [hreader, hindex]
  exact h

/-- A frame behind a queue that is not empty leaves its first frame. The reader holds only this
one. -/
theorem ReaderSim.concat (h : ReaderSim st released q)
    (hreading : st.reader.busy = true → 0 < q.length) (frame : Frame) :
    ReaderSim st released (q ++ [frame]) := by
  unfold ReaderSim at *
  have hfirst : st.reader.busy = true → (q ++ [frame]).head? = q.head? := by
    intro hbusy
    obtain ⟨first, rest, rfl⟩ :=
      List.exists_cons_of_ne_nil (List.length_pos_iff.mp (hreading hbusy))
    rfl
  cases hr : st.reader with
  | copy out slot i =>
    rw [hr] at h
    rw [hfirst (by simp [hr, Reader.busy])]
    exact h
  | release out slot =>
    rw [hr] at h
    rw [hfirst (by simp [hr, Reader.busy])]
    exact h
  | idle | load | acquire | advance =>
    rw [hr] at h
    exact h

/-! ### The two steps that move a frame -/

/-- The store of READY puts the frame of the slot at the end of the queue. The writer has filled
the slot before, which `hdata` and `hnumber` say. -/
theorem SlotSim.publish (h : SlotSim st released q) (hbusy : st.writer.busy = true)
    {st' : State} {frame : Frame}
    (hslots : st'.slots = (updateSlot st (ringSlot (released + q.length))
      fun s => { s with status := .ready }).slots)
    (hw : st'.writer.busy = false) (hr : st'.reader.busy = st.reader.busy)
    (hdata : (st.slots (ringSlot (released + q.length))).frameData = frame.data)
    (hnumber : (st.slots (ringSlot (released + q.length))).frameNumber = frame.number)
    (hcount : frame.number = UInt32.ofNat (released + q.length)) :
    SlotSim st' released (q ++ [frame]) := by
  have hroom := h.writing hbusy
  have hlen : (q ++ [frame]).length = q.length + 1 := by simp
  -- An entry of the longer queue is an old one, or the new frame at the end.
  have hentry : ∀ k frame', (q ++ [frame])[k]? = some frame' →
      k < q.length ∧ q[k]? = some frame' ∨ k = q.length ∧ frame' = frame := by
    intro k frame' hk
    rcases Nat.lt_or_ge k q.length with hlt | hge
    · rw [List.getElem?_append_left hlt] at hk
      exact Or.inl ⟨hlt, hk⟩
    · have hlast : k = q.length := by
        have := (List.getElem?_eq_some_iff.mp hk).1
        omega
      rw [hlast, List.getElem?_concat_length] at hk
      exact Or.inr ⟨hlast, (Option.some.inj hk).symm⟩
  refine ⟨by omega, fun hbusy' => ?_, fun hreading => ?_, ?_, ?_, ?_⟩
  · rw [hw] at hbusy'
    cases hbusy'
  · omega
  · intro k hk
    rw [hslots, hw, hr, hlen]
    -- The published slot becomes the last one of the queue.
    by_cases hkn : k = q.length
    · rw [hkn, updateSlot_self, expectedStatus, if_pos (Nat.lt_succ_self _), if_neg]
      rintro ⟨hreading, hzero⟩
      have := h.reading hreading
      omega
    · rw [updateSlot_of_ne _ _ (ringSlot_ne hk hroom hkn), h.status k hk]
      have hiff : k < q.length + 1 ↔ k < q.length := by omega
      unfold expectedStatus
      simp [hiff, hkn]
  · intro k frame' hk
    rw [hslots]
    rcases hentry k frame' hk with ⟨hlt, hk⟩ | ⟨rfl, rfl⟩
    · rw [updateSlot_of_ne _ _ (ringSlot_ne (by omega) hroom (by omega))]
      exact h.content k frame' hk
    · rw [updateSlot_self]
      exact ⟨hdata, hnumber⟩
  · intro k frame' hk
    rcases hentry k frame' hk with ⟨-, hk⟩ | ⟨rfl, rfl⟩
    · exact h.number k frame' hk
    · exact hcount

/-- The store of EMPTY takes the oldest frame out of the queue. The window moves on by one slot,
and the released slot comes behind the others. -/
theorem SlotSim.release {frame : Frame} (h : SlotSim st released (frame :: q)) {st' : State}
    (hslots : st'.slots
      = (updateSlot st (ringSlot released) fun s => { s with status := .empty }).slots)
    (hw : st'.writer.busy = st.writer.busy) (hr : st'.reader.busy = false) :
    SlotSim st' (released + 1) q := by
  have hroom : q.length + 1 ≤ 3 := h.room
  -- The window moves on by one slot.
  have hshift : ∀ k, released + 1 + k = released + (k + 1) := by omega
  have hother : ∀ k, k < 2 → st'.slots (ringSlot (released + 1 + k))
      = st.slots (ringSlot (released + (k + 1))) := by
    intro k hk
    rw [hslots, hshift, updateSlot_of_ne]
    simpa using @ringSlot_ne released (k + 1) 0 (by omega) (by decide) (by omega)
  refine ⟨by omega, ?_, fun hbusy => ?_, ?_, ?_, ?_⟩
  · rw [hw]
    intro hbusy
    have hlt := h.writing hbusy
    rw [List.length_cons] at hlt
    omega
  · rw [hr] at hbusy
    cases hbusy
  · intro k hk
    rw [hw, hr]
    by_cases hk2 : k < 2
    · rw [hother k hk2, h.status (k + 1) (by omega)]
      unfold expectedStatus
      simp
    · -- The released slot is now the last one of the window.
      have hk2 : k = 2 := by omega
      have hlast : ringSlot (released + 1 + 2) = ringSlot released := by
        rw [Nat.add_assoc, ringSlot_add_size]
      rw [hk2, hslots, hlast, updateSlot_self, expectedStatus, if_neg (by omega), if_neg]
      rintro ⟨hbusy, hfull⟩
      have hlt := h.writing hbusy
      rw [List.length_cons] at hlt
      omega
  · intro k frame' hk
    have hlt : k < q.length := (List.getElem?_eq_some_iff.mp hk).1
    rw [hother k (by omega)]
    exact h.content (k + 1) frame' hk
  · intro k frame' hk
    rw [hshift]
    exact h.number (k + 1) frame' hk

end

end DoomSat.RingBuffer
