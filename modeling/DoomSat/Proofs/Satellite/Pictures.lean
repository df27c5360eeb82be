import DoomSat.Model.EncoderThread
import DoomSat.Proofs.Encoder.Convert

/-!
# `DoomSat.Proofs.Satellite.Pictures`: what one call of the encoder does

`encoderEncodeFrame_eq` states the result of `encoder_encode_frame` for an open encoder. The
conversion runs without a fault, since the picture that `x264_picture_alloc` gives has room
for a frame (`Fits`), and the picture that x264 gets shows the frame (`Shows`).
-/

set_option autoImplicit false

namespace DoomSat.Encoder

open Support
open Downlink (Nal)
open RingBuffer (FrameData FRAME_PIXELS)
open Satellite (rgbBytes)

/-- A picture for the frames of the satellite, with indices that fit in an `int`. -/
structure Fits (pic : Picture) : Prop where
  room : pic.HasRoom FRAME_WIDTH FRAME_HEIGHT
  indices : IndicesFit pic FRAME_WIDTH FRAME_HEIGHT

/-- `x264_picture_alloc` gives pictures that fit. -/
def X264.Allocates {ξ : Type} (x264 : X264 ξ) : Prop :=
  ∀ pic, x264.pictureAlloc FRAME_WIDTH FRAME_HEIGHT = some pic → Fits pic

/-- Every sample of the picture is the BT.601 value of the pixels of the frame under it. -/
def Shows (pic : Picture) (data : FrameData) : Prop :=
  ∀ plane, ∀ y < planeSize plane FRAME_HEIGHT, ∀ x < planeSize plane FRAME_WIDTH,
    (pic.plane plane)[y * pic.stride plane + x]?
      = some (byteOf plane (sourceAt (rgbBytes data) FRAME_WIDTH FRAME_HEIGHT plane y x))

/-- The NAL units that `encoder_encode_frame` returns for a result of x264. -/
def Encoded.output (encoded : Encoded) : List Nal :=
  if encoded.frameSize ≤ 0 then [] else encoded.nals.take MAX_NALS

/-- The number that `encoder_encode_frame` returns for a result of x264. -/
def Encoded.numNals (encoded : Encoded) : Int :=
  if encoded.frameSize < 0 then -1 else encoded.output.length

/-- The number is positive exactly when there are NAL units to send. -/
theorem Encoded.numNals_pos_iff (encoded : Encoded) :
    encoded.numNals > 0 ↔ encoded.output ≠ [] := by
  unfold numNals
  split
  · next hneg =>
    have hnone : encoded.output = [] := if_pos hneg.le
    simp [hnone]
  · rw [gt_iff_lt, Int.natCast_pos, List.length_pos_iff]

/-! ### The picture -/

/-- The bytes of a frame. -/
theorem length_rgbBytes (data : FrameData) :
    (rgbBytes data).length = FRAME_WIDTH * FRAME_HEIGHT * 3 := by
  have hthree : ∀ pixels : List RingBuffer.Rgb,
      (pixels.flatMap fun pixel => [pixel.r, pixel.g, pixel.b]).length = pixels.length * 3 := by
    intro pixels
    induction pixels with
    | nil => rfl
    | cons pixel pixels ih =>
      rw [List.flatMap_cons, List.length_append, ih]
      show 3 + pixels.length * 3 = (pixels.length + 1) * 3
      omega
  -- Three bytes for each of the 176 · 144 pixels.
  show ((List.ofFn data).flatMap _).length = _
  rw [hthree, List.length_ofFn]
  rfl

/-- A store changes a byte of a plane, and never the strides. -/
theorem stride_foldl_write (pic : Picture) (stores : List Store) :
    (stores.foldl Picture.write pic).yStride = pic.yStride ∧
      (stores.foldl Picture.write pic).uvStride = pic.uvStride := by
  induction stores generalizing pic with
  | nil => exact ⟨rfl, rfl⟩
  | cons store stores ih => exact ih (pic.write store)

/-- The stride of each plane after some stores is the one before them. -/
theorem stride_eq (pic : Picture) (stores : List Store) (plane : Plane) :
    (stores.foldl Picture.write pic).stride plane = pic.stride plane := by
  have hstride := stride_foldl_write pic stores
  cases plane with
  | y => exact hstride.1
  | u | v => exact hstride.2

/-- A picture fits after stores as before. -/
theorem Fits.foldl_write {pic : Picture} (h : Fits pic) (stores : List Store) :
    Fits (stores.foldl Picture.write pic) := by
  refine ⟨fun plane => ?_, h.indices.rgb, fun plane => ?_⟩
  · rw [stride_eq, length_foldl_write]
    exact h.room plane
  · rw [stride_eq]
    exact h.indices.plane plane

/-- The picture after the conversion of a frame. Its stores are not to be evaluated. -/
@[irreducible] def convertFrame (data : FrameData) (pic : Picture) : Picture :=
  (allStores (rgbBytes data) pic FRAME_WIDTH FRAME_HEIGHT).foldl Picture.write pic

/-- The definition, for the proofs that need the stores. -/
theorem convertFrame_eq (data : FrameData) (pic : Picture) :
    convertFrame data pic
      = (allStores (rgbBytes data) pic FRAME_WIDTH FRAME_HEIGHT).foldl Picture.write pic := by
  unfold convertFrame
  rfl

/-- The conversion of a frame has no fault, and the picture shows the frame. It is the
conversion of any image (`converts_allStores`) at the size of the frames of the satellite. -/
theorem rgbToYuv420p_frame {pic : Picture} (h : Fits pic) (data : FrameData) :
    rgbToYuv420p (rgbBytes data) pic FRAME_WIDTH FRAME_HEIGHT
        = .ok (allStores (rgbBytes data) pic FRAME_WIDTH FRAME_HEIGHT) ∧
      Fits (convertFrame data pic) ∧ Shows (convertFrame data pic) data := by
  rw [convertFrame_eq]
  refine ⟨?_, h.foldl_write _, ?_⟩
  · exact rgbToYuv420p_eq (by decide) (by decide) (length_rgbBytes data) h.room h.indices
  · intro plane y hy x hx
    have hconverts := @converts_allStores (rgbBytes data) pic FRAME_WIDTH FRAME_HEIGHT h.room
    rw [stride_eq]
    exact (hconverts.sample plane y hy x hx).kept

/-! ### The call -/

section
variable {ξ : Type} (x264 : X264 ξ) (ctx : Ctx ξ) (encoder : ξ) (data : FrameData)

/-- What x264 returns for the frame, and its state after it. -/
def encodeFrameResult : Encoded × ξ :=
  x264.encoderEncode encoder (some (convertFrame data ctx.picIn, ctx.frameCount))

/-- The context after a frame. -/
def nextCtx : Ctx ξ where
  encoder := some (encodeFrameResult x264 ctx encoder data).2
  picIn := convertFrame data ctx.picIn
  frameCount := ctx.frameCount + 1
  log := ctx.log ++ [⟨convertFrame data ctx.picIn, ctx.frameCount,
    (encodeFrameResult x264 ctx encoder data).1⟩]

/-- The branches of `encoder_encode_frame` on the result of x264. An error gives -1, a delayed
frame gives 0, and otherwise the NAL units are cut off at `MAX_NALS`. -/
theorem return_eq (encoded : Encoded) (next : Ctx ξ) :
    (if encoded.frameSize < 0 then .ok (-1, [], next)
      else if encoded.frameSize = 0 ∨ encoded.nals.length = 0 then .ok (0, [], next)
      else
        let nals := if encoded.nals.length > MAX_NALS then encoded.nals.take MAX_NALS
          else encoded.nals
        .ok ((nals.length : Int), nals, next) : Except Fault (Int × List Nal × Ctx ξ))
      = .ok (encoded.numNals, encoded.output, next) := by
  unfold Encoded.numNals Encoded.output
  by_cases hneg : encoded.frameSize < 0
  · rw [if_pos hneg, if_pos hneg, if_pos hneg.le]
  · rw [if_neg hneg, if_neg hneg]
    by_cases hzero : encoded.frameSize = 0
    · rw [if_pos (Or.inl hzero), if_pos hzero.le]
      rfl
    · have hpos : ¬ encoded.frameSize ≤ 0 := by omega
      rw [if_neg hpos]
      by_cases hnone : encoded.nals.length = 0
      · rw [if_pos (Or.inr hnone), List.length_eq_zero_iff.mp hnone]
        rfl
      · -- The code cuts off only a longer list, and a shorter one is its own prefix.
        have htake : (if encoded.nals.length > MAX_NALS then encoded.nals.take MAX_NALS
            else encoded.nals) = encoded.nals.take MAX_NALS := by
          split
          · rfl
          · next hfew => exact (List.take_of_length_le (Nat.not_lt.mp hfew)).symm
        rw [if_neg (by simp [hzero, hnone]), htake]

/-- `encoder_encode_frame` with an open encoder gives one picture to x264. The pts is the number
of frames before it, and the context records the call. -/
theorem encoderEncodeFrame_eq (hopen : ctx.encoder = some encoder) (hfits : Fits ctx.picIn) :
    encoderEncodeFrame x264 (rgbBytes data) ctx
      = .ok ((encodeFrameResult x264 ctx encoder data).1.numNals,
        (encodeFrameResult x264 ctx encoder data).1.output,
        nextCtx x264 ctx encoder data) := by
  unfold encoderEncodeFrame
  rw [hopen]
  dsimp only
  rw [(rgbToYuv420p_frame hfits data).1, ok_bind, ← convertFrame_eq]
  exact return_eq (encodeFrameResult x264 ctx encoder data).1 (nextCtx x264 ctx encoder data)

/-- The picture still fits after the call, and it shows the frame. So the next call finds it as
this one did. -/
theorem picIn_nextCtx (hfits : Fits ctx.picIn) :
    Fits (nextCtx x264 ctx encoder data).picIn ∧
      Shows (nextCtx x264 ctx encoder data).picIn data :=
  (rgbToYuv420p_frame hfits data).2

end

end DoomSat.Encoder
