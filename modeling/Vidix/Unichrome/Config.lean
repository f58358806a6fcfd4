import Vidix.Types
import Vidix.Util.Signed

/-!
# `unichrome_vid.c`: configuring playback

The zoom of the overlay and the layout of the frames; the FIFO, the pixel format and the place of
the window on the screen are left out.  Source and destination are `int`s, and a pitch is a `long`.
A division that is not defined ends the program: it is `none`.
-/

namespace Vidix.Unichrome

open Util

/-- `is_supported_fourcc`. -/
def isSupportedFourcc (fourcc : UInt32) : Bool :=
  fourcc == imgfmtYV12 || fourcc == imgfmtI420 || fourcc == imgfmtUYVY || fourcc == imgfmtYVYU ||
    fourcc == imgfmtYUY2 || fourcc == imgfmtBGR15 || fourcc == imgfmtBGR16 || fourcc == imgfmtBGR32

/-! ### Zoom -/

def v1XZoomEnable : UInt32 := 0x80000000
def v1YZoomEnable : UInt32 := 0x00008000
def v1XInterpoly : UInt32 := 0x00000002
def v1YInterpoly : UInt32 := 0x00000001
def v1YcbcrInterpoly : UInt32 := 0x00000004

/-- The bits that are set in the zoom and the mini register, and whether the factor is in range. -/
structure Zoom where
  zoomOk : Bool
  zoom : UInt32
  mini : UInt32
  deriving DecidableEq, Repr

/-- `for (d = ..; d < 5; d++) { s >>= 1; if (s <= dst) break; }`, with `d` and `s` as the loop
leaves them after `n` turns at most. -/
def divider (dst : UInt32) : ℕ → UInt32 → UInt32 → UInt32 × UInt32
  | 0, d, s => (d, s)
  | n + 1, d, s => if s >>> 1 ≤ dst then (d, s >>> 1) else divider dst n (d + 1) (s >>> 1)

/-- "Find a suitable divider": its logarithm, the size that is left and whether it is large
enough. -/
def minify (src dst : UInt32) : UInt32 × UInt32 × Bool :=
  let (d, s) := divider dst 4 1 src
  if d = 5 then (4, s, false) else (d, s, true)

/-- `uc_ovl_map_vzoom`. -/
def ucOvlMapVzoom (sh dh : Int32) : Option Zoom :=
  if sh = dh then some ⟨true, 0, 0⟩
  else if sh < dh then do
    let tmp := (← quotient (sh * 0x0400) dh).toUInt32
    some ⟨!decide (tmp > 0x3ff), (tmp &&& 0x3ff) ||| v1YZoomEnable,
      v1YInterpoly ||| v1YcbcrInterpoly⟩
  else
    let (d, sh1, zoomOk) := minify sh.toUInt32 dh.toUInt32
    let mini := ((d <<< 1) - 1) <<< 16
    if sh1 < dh.toUInt32 then
      let tmp := sh1 * 0x400 / dh.toUInt32
      some ⟨zoomOk, (tmp &&& 0x3ff) ||| v1YZoomEnable, mini ||| v1YInterpoly ||| v1YcbcrInterpoly⟩
    else some ⟨zoomOk, 0, mini⟩

/-- `uc_ovl_map_hzoom`, with the alignment of fetches and the display count. -/
def ucOvlMapHzoom (sw dw : Int32) : Option (Zoom × Int32 × Int32) :=
  if sw = dw then some (⟨true, 0, 0⟩, 0, sw - 1)
  else if sw < dw then do
    let tmp := (← quotient (sw * 0x0800) dw).toUInt32
    some (⟨!decide (tmp > 0x7ff), ((tmp &&& 0x7ff) <<< 16) ||| v1XZoomEnable, v1XInterpoly⟩,
      0, sw - 1)
  else
    let (d, sw1, zoomOk) := minify sw.toUInt32 dw.toUInt32
    let md : Int32 := 1 <<< d.toInt32
    let falign := ((md <<< 1) - 1) &&& 0xf
    let mini := v1XInterpoly ||| ((d <<< 1) - 1) <<< 24
    if sw1 < dw.toUInt32 then
      -- "CLE bug"
      let tmp := (sw1 - 2) * 0x0800 / dw.toUInt32
      some (⟨zoomOk, ((tmp &&& 0x7ff) <<< 16) ||| v1XZoomEnable, mini⟩, falign, sw - md)
    else some (⟨zoomOk, 0, mini⟩, falign, sw - md)

/-! ### The planes of a frame -/

/-- `ALIGN_TO(v, 32)`. -/
def alignTo32 (v : Int32) : Int32 := (v + 31) &&& ~~~31

def isYuv (fourcc : UInt32) : Bool :=
  fourcc == imgfmtYV12 || fourcc == imgfmtI420 || fourcc == imgfmtUYVY || fourcc == imgfmtYVYU

/-- `pitch`, a `long`. -/
def pitchOf (fourcc : UInt32) (srcW : Int32) : Int64 :=
  if isYuv fourcc then (alignTo32 srcW).toInt64
  else if fourcc == imgfmtBGR32 then (alignTo32 (srcW <<< 2)).toInt64
  else (alignTo32 (srcW <<< 1)).toInt64

def uvSizeOf (fourcc : UInt32) (srcW srcH : Int32) : Int32 :=
  if isYuv fourcc then ((pitchOf fourcc srcW >>> 1) * (srcH >>> 1).toInt64).toInt32 else 0

/-- `info->offset` and `info->frame_size`. -/
def planesOf (fourcc : UInt32) (srcW srcH : Int32) : VidixYuv × UInt32 :=
  let uvSize := (uvSizeOf fourcc srcW srcH).toUInt32
  let v := (pitchOf fourcc srcW * srcH.toInt64).toUInt64.toUInt32
  let u := v + uvSize
  (⟨0, u, v⟩, u + uvSize)

/-- The test in front of "Layer size out of bounds", a message after which the call goes on. -/
def layerOutOfBounds (fourcc : UInt32) (srcW srcH : Int32) : Bool :=
  decide (srcW > 4096) || decide (srcH > 4096) || decide (srcW < 32) || decide (srcH < 1) ||
    decide (pitchOf fourcc srcW > 0x1fff)

/-! ### `vixConfigPlayback` -/

/-- `FRAMEBUFFER_SIZE`: "Assume we have 2 MB to play with". -/
def framebufferSize : UInt32 := 0x200000

/-- `VIDEOMEMORY_SIZE`. -/
def videomemorySize : UInt32 := 8 * 1024 * 1024

/-- `FRAMEBUFFER_START`. -/
def framebufferStart : UInt32 := videomemorySize - framebufferSize

/-- What the chip is told, and the statics that tell it where a frame and its planes are. -/
structure Settings where
  zoom : UInt32
  mini : UInt32
  falign : Int32
  dcount : Int32
  pitch : Int64
  yOffs : UInt32
  uOffs : UInt32
  vOffs : UInt32
  frames : List UInt32
  deriving DecidableEq, Repr

/-- The request as a frame size that is not zero leaves it. -/
def laidOut (ucMem : UInt64) (offset : VidixYuv) (frameSize : UInt32) (info : VidixPlayback) :
    VidixPlayback :=
  let numFrames := cappedFrames (framebufferSize / frameSize)
  { info with
    offset := offset, frameSize := frameSize, numFrames := numFrames
    dgaAddr := ucMem + framebufferStart.toUInt64, dest.pitch := ⟨32, 32, 32⟩
    offsets := (List.range numFrames.toNat).map fun i => frameSize * UInt32.ofNat i }

/-- `vixConfigPlayback`: the return value and the request as it is left, and what a successful call
tells the chip. -/
def vixConfigPlayback (ucMem : UInt64) (info : VidixPlayback) :
    Option (ℤ × VidixPlayback × Option Settings) :=
  if !isSupportedFourcc info.fourcc then some (-1, info, none)
  else do
    let srcW := info.src.w.toInt32
    let srcH := info.src.h.toInt32
    let vertical ← ucOvlMapVzoom srcH info.dest.h.toInt32
    let (horizontal, falign, dcount) ← ucOvlMapHzoom srcW info.dest.w.toInt32
    let (offset, frameSize) := planesOf info.fourcc srcW srcH
    let swapUv := info.fourcc == imgfmtYV12
    if frameSize = 0 then none
    else
      let info := laidOut ucMem offset frameSize info
      some (0, info, some {
        zoom := vertical.zoom ||| horizontal.zoom, mini := vertical.mini ||| horizontal.mini
        falign := falign, dcount := dcount, pitch := pitchOf info.fourcc srcW, yOffs := offset.y
        uOffs := if swapUv then offset.v else offset.u
        vOffs := if swapUv then offset.u else offset.v
        frames := info.offsets.map (framebufferStart + ·) })

end Vidix.Unichrome
