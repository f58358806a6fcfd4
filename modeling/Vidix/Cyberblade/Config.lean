import Vidix.Types
import Vidix.Util.Signed

/-!
# `cyberblade_vid.c`: configuring playback

`vixConfigPlayback` as far as the layout of the frames and the scale factors go; the place of the
window on the screen and the colour key are left out.  Sizes are `int`s, and what is computed from
them ends up in unsigned fields.  A division that is not defined ends the program: it is `none`.
-/

namespace Vidix.Cyberblade

open Util

/-- `is_supported_fourcc`. -/
def isSupportedFourcc (fourcc : UInt32) : Bool :=
  fourcc == imgfmtYUY2 || fourcc == imgfmtYV12 || fourcc == imgfmtI420 || fourcc == imgfmtYVU9 ||
    fourcc == imgfmtBGR16

/-! ### The planes of a frame -/

/-- What the `switch` on the fourcc computes. -/
structure Planes where
  yPitch : Int32
  uvPitch : Int32
  offset : VidixYuv
  frameSize : UInt32
  layout : Int32
  deriving DecidableEq, Repr

/-- "packed". -/
def packedPlanes (srcW srcH : Int32) : Planes :=
  let yPitch := (srcW * 2 + 15) &&& ~~~15
  { yPitch := yPitch, uvPitch := 0, offset := ⟨0, 0, 0⟩
    frameSize := (yPitch * srcH).toUInt32, layout := 0 }

/-- Three planes, with one chroma sample for `d` luma samples each way. -/
def planarPlanes (d mask layout srcW srcH : Int32) : Planes :=
  let yPitch := (srcW + 15) &&& ~~~15
  let uvPitch := (srcW / d + mask) &&& ~~~mask
  let v := (yPitch * srcH).toUInt32
  { yPitch := yPitch, uvPitch := uvPitch
    offset := { y := 0, v := v, u := v + (uvPitch * (srcH / d)).toUInt32 }
    frameSize := (yPitch * srcH + 2 * uvPitch * (srcH / d)).toUInt32, layout := layout }

/-- "planar, 4:1:1". -/
def planar411 (srcW srcH : Int32) : Planes := planarPlanes 2 7 0x1 srcW srcH

/-- "planar, 16:1:1". -/
def planar1611 (srcW srcH : Int32) : Planes := planarPlanes 4 3 0x51 srcW srcH

def planesOf (fourcc : UInt32) (srcW srcH : Int32) : Planes :=
  if fourcc == imgfmtYUY2 || fourcc == imgfmtBGR16 then packedPlanes srcW srcH
  else if fourcc == imgfmtYV12 || fourcc == imgfmtI420 then planar411 srcW srcH
  else planar1611 srcW srcH

/-! ### The scale factors -/

def hscaleOf (srcW drwW : Int32) : Option Int32 :=
  if srcW = drwW then some 0
  else if srcW < drwW then do
    let ratio ← quotient (srcW <<< 10) (drwW - 2)
    some (ratio &&& 0x1fff)
  else do
    let whole ← quotient srcW drwW
    let ratio ← quotient (drwW <<< 10) srcW
    some ((0x8000 : Int32) ||| ((whole - 1) &&& 7) <<< 10 ||| (ratio &&& 0x3ff))

def vscaleOf (srcH drwH : Int32) : Option Int32 := do
  let vscale ← quotient (srcH <<< 10) drwH
  if drwH < srcH then
    let ratio ← quotient (drwH <<< 10) srcH
    some ((0x8000 : Int32) ||| ratio)
  else some vscale

/-! ### `vixConfigPlayback` -/

/-- "Assume we have 2 MB to play with". -/
def windowBytes : UInt32 := 0x200000

/-- "Start at 6 MB. Let's hope it's not in use." -/
def base0 : UInt32 := 0x600000

/-- The scale factors, the planes and the static `frames`, which are what the chip is told. -/
structure Settings where
  hscale : Int32
  vscale : Int32
  planes : Planes
  layout : Int32
  frames : List UInt32
  deriving DecidableEq, Repr

/-- The request as a frame size that is not zero leaves it. -/
def laidOut (cyberbladeMem : UInt64) (planes : Planes) (info : VidixPlayback) : VidixPlayback :=
  let numFrames := cappedFrames (windowBytes / planes.frameSize)
  { info with
    offset := planes.offset, frameSize := planes.frameSize, numFrames := numFrames
    dgaAddr := cyberbladeMem + base0.toUInt64, dest.pitch := ⟨16, 16, 16⟩
    offsets := (List.range numFrames.toNat).map fun i => planes.frameSize * UInt32.ofNat i }

/-- `vixConfigPlayback`: the return value and the request as it is left, and what a successful call
tells the chip. -/
def vixConfigPlayback (cyberbladeMem : UInt64) (info : VidixPlayback) :
    Option (ℤ × VidixPlayback × Option Settings) :=
  if !isSupportedFourcc info.fourcc then some (-1, info, none)
  else
    let srcW := info.src.w.toInt32
    let srcH := info.src.h.toInt32
    let planes := planesOf info.fourcc srcW srcH
    if planes.frameSize = 0 then none
    else do
      let info := laidOut cyberbladeMem planes info
      let hscale ← hscaleOf srcW info.dest.w.toInt32
      let vscale ← vscaleOf srcH info.dest.h.toInt32
      -- "2x line buffers"
      let layout := if srcW > 384 then planes.layout ||| 4 else planes.layout
      some (0, info, some ⟨hscale, vscale, planes, layout, info.offsets.map (base0 + ·)⟩)

end Vidix.Cyberblade
