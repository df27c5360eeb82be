import DoomSat.Model.Downlink
import DoomSat.Model.Encoder

/-!
# `DoomSat.Model.X264`: the video encoder of `satellite/encoder.c`

`encoder_init` opens an x264 encoder, `encoder_encode_frame` gives it one picture, and
`encoder_shutdown` takes the delayed frames out of it and closes it.

The library x264 is not part of the repository. Its calls are the fields of `X264`, over an
encoder state `ξ`. The field `log` of `Ctx` is the environment's record of the pictures that
x264 got, with what it returned for each one.

The parameters of the encoder, such as its bit rate, only go to x264.
-/

set_option autoImplicit false

namespace DoomSat.Encoder

open Downlink (Nal)

/-- The size of `nal_ptrs` and `nal_sizes` in `encoder_encode_frame`. -/
def MAX_NALS : Nat := 32

/-- What `x264_encoder_encode` returns: the size of the frame, and the NAL units. -/
structure Encoded where
  frameSize : Int
  nals : List Nal

/-- The calls of x264, over an encoder state `ξ`. -/
structure X264 (ξ : Type) where
  /-- Whether `x264_param_default_preset` finds the preset. -/
  paramDefaultPreset : Bool
  /-- `x264_encoder_open`, with `none` for a null pointer. -/
  encoderOpen : Option ξ
  /-- `x264_picture_alloc` for a width and a height, with `none` for a negative result. -/
  pictureAlloc : Nat → Nat → Option Picture
  /-- `x264_encoder_encode` for a picture with its `i_pts`, or for a null picture. -/
  encoderEncode : ξ → Option (Picture × Int64) → Encoded × ξ

/-- One call of `x264_encoder_encode` with a picture, and its result. -/
structure EncodeCall where
  pic : Picture
  pts : Int64
  encoded : Encoded

/-- `encoder_ctx_t`, with the static variable of `encoder_encode_frame`. -/
structure Ctx (ξ : Type) where
  /-- `none` for a null pointer. -/
  encoder : Option ξ
  picIn : Picture
  frameCount : Int64
  /-- The pictures that x264 got so far, oldest first. -/
  log : List EncodeCall

variable {ξ : Type}

/-- A picture that `x264_picture_clean` has cleared, or that was never allocated. -/
def noPicture : Picture where
  plane _ := []
  yStride := 0
  uvStride := 0

/-- The static variables when the program starts. -/
def Ctx.start : Ctx ξ where
  encoder := none
  picIn := noPicture
  frameCount := 0
  log := []

/-- `encoder_init`. The argument `yuvBuffer` tells whether its `malloc` succeeds. -/
def encoderInit (x264 : X264 ξ) (yuvBuffer : Bool) (ctx : Ctx ξ) : Int × Ctx ξ :=
  if ¬ x264.paramDefaultPreset then (-1, ctx)
  else
    match x264.encoderOpen with
    | none => (-1, { ctx with encoder := none })
    | some encoder =>
      match x264.pictureAlloc FRAME_WIDTH FRAME_HEIGHT with
      | none => (-1, { ctx with encoder := none })
      | some picIn =>
        if ¬ yuvBuffer then (-1, { ctx with encoder := none, picIn := noPicture })
        else (0, { ctx with encoder := some encoder, picIn := picIn })

/-- `encoder_encode_frame`: the number of NAL units or -1, the NAL units in `output`, and the
context after it. -/
def encoderEncodeFrame (x264 : X264 ξ) (rgbData : List UInt8) (ctx : Ctx ξ) :
    Except Fault (Int × List Nal × Ctx ξ) :=
  match ctx.encoder with
  | none => .ok (-1, [], ctx)
  | some encoder => do
    let stores ← rgbToYuv420p rgbData ctx.picIn FRAME_WIDTH FRAME_HEIGHT
    let picIn := stores.foldl Picture.write ctx.picIn
    let (encoded, encoder) := x264.encoderEncode encoder (some (picIn, ctx.frameCount))
    let ctx :=
      { encoder := some encoder
        picIn := picIn
        frameCount := ctx.frameCount + 1
        log := ctx.log ++ [⟨picIn, ctx.frameCount, encoded⟩] }
    if encoded.frameSize < 0 then return (-1, [], ctx)
    -- The frame is delayed.
    else if encoded.frameSize = 0 ∨ encoded.nals.length = 0 then return (0, [], ctx)
    else
      -- What does not fit in the two arrays is cut off.
      let nals := if encoded.nals.length > MAX_NALS then encoded.nals.take MAX_NALS
        else encoded.nals
      return (nals.length, nals, ctx)

/-- One round of the loop of `encoder_shutdown`: whether the loop goes on, and the context.
After the last round the encoder is closed. -/
def flushFrame (x264 : X264 ξ) (encoder : ξ) (ctx : Ctx ξ) : Bool × Ctx ξ :=
  let (encoded, encoder) := x264.encoderEncode encoder none
  if encoded.frameSize ≤ 0 then (false, { ctx with encoder := none, picIn := noPicture })
  else (true, { ctx with encoder := some encoder })

end DoomSat.Encoder
