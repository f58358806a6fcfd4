import Vidix.Types
import Vidix.Util.Signed

/-!
# `sis_vid.c`: configuring playback

The part of `vixConfigPlayback` that lays out the frames and the planes in them, up to where the
overlay is scaled.  Source and destination are `short`s, and the length of a row is an `int` which
the overlay keeps in 16 bits.  When the picture is to be made lower, the chip skips rows by a
multiple of that length; that is done in `calc_scale_factor`, which is not part of it.  A division
that is not defined ends the program: it is `none`.
-/

namespace Vidix.Sis

open Util

/-- `is_supported_fourcc`. -/
def isSupportedFourcc (fourcc : UInt32) : Bool :=
  fourcc == imgfmtYV12 || fourcc == imgfmtI420 || fourcc == imgfmtUYVY || fourcc == imgfmtYUY2 ||
    fourcc == imgfmtRGB15 || fourcc == imgfmtRGB16

def isPlanar (fourcc : UInt32) : Bool := fourcc == imgfmtYV12 || fourcc == imgfmtI420

/-- A field of the request in a `short`. -/
def short (x : UInt32) : Int32 := x.toUInt16.toInt16.toInt32

/-! ### Pitch and size -/

/-- `pitch`. -/
def pitchOf (fourcc : UInt32) (srcW : Int32) : Int32 :=
  if isPlanar fourcc then (srcW + 7) &&& ~~~7 else ((srcW <<< 1) + 3) &&& ~~~3

def totalSizeOf (fourcc : UInt32) (pitch srcH : Int32) : Int32 :=
  if isPlanar fourcc then (pitch * srcH * 3) >>> 1 else pitch * srcH

/-! ### The destination -/

/-- `BoxRec`. -/
structure BoxRec where
  x1 : Int16
  y1 : Int16
  x2 : Int16
  y2 : Int16
  deriving DecidableEq, Repr

/-- `overlay.dstBox`, before it is cut. -/
def dstBoxOf (dest : VidixRect) : BoxRec where
  x1 := dest.x.toUInt16.toInt16
  y1 := dest.y.toUInt16.toInt16
  x2 := dest.x.toUInt16.toInt16 + dest.w.toUInt16.toInt16
  y2 := dest.y.toUInt16.toInt16 + dest.h.toUInt16.toInt16

/-- The box is not turned around and not above or left of the screen. -/
def BoxRec.isValid (box : BoxRec) : Bool :=
  box.x1 ≤ box.x2 && box.y1 ≤ box.y2 && 0 ≤ box.x2 && 0 ≤ box.y2

/-- `srcOffsetX` and `srcOffsetY`: what is cut off of a source of `src` pixels that is shown on
`drw` of them from `first` on. -/
def srcOffsetOf (src drw : Int32) (first : Int16) : Option Int32 :=
  if first < 0 then quotient (src * -first.toInt32) drw else some 0

/-! ### `vixConfigPlayback` -/

/-- `dga_offset`. -/
def dgaOffset : Int32 := 0x800000

/-- What the overlay is told about the source, and the static `sis_frames`. -/
structure Overlay where
  pixelFormat : UInt32
  pitch : UInt16
  origPitch : UInt16
  dstBox : BoxRec
  srcW : UInt16
  srcH : UInt16
  frames : List Int32
  deriving DecidableEq, Repr

/-- The request after the loop over the frames. -/
def laidOut (sisMemBase : UInt64) (totalSize : Int32) (info : VidixPlayback) : VidixPlayback :=
  let frameSize := (totalSize * 2).toUInt32
  let numFrames := cappedFrames (0x700000 / (totalSize * 2)).toUInt32
  { info with
    numFrames := numFrames, dgaAddr := sisMemBase + dgaOffset.toInt64.toUInt64
    dest.pitch := ⟨16, 16, 16⟩, offset := ⟨0, 0, 0⟩, frameSize := frameSize
    offsets := (List.range numFrames.toNat).map fun i => frameSize * UInt32.ofNat i }

/-- `info->offset` for a source that begins at `sx` and `sy`: "reversed u & v here! Not sure why
this is needed." -/
def planeOffsets (fourcc : UInt32) (pitch srcH sx sy : Int32) : VidixYuv :=
  let chroma := (sx + sy * pitch / 2) >>> 1
  let first := (srcH * pitch + chroma).toUInt32
  let second := (srcH * pitch * 5 / 4 + chroma).toUInt32
  if fourcc == imgfmtYV12 then { y := (sx + sy * pitch).toUInt32, u := first, v := second }
  else if fourcc == imgfmtI420 then { y := (sx + sy * pitch).toUInt32, u := second, v := first }
  else { y := (sx * 2 + sy * pitch).toUInt32, u := 0, v := 0 }

/-- `vixConfigPlayback`: the return value and the request as it is left, and the overlay of a
successful call. -/
def vixConfigPlayback (sisMemBase : UInt64) (info : VidixPlayback) :
    Option (ℤ × VidixPlayback × Option Overlay) :=
  if !isSupportedFourcc info.fourcc then some (-1, info, none)
  else
    let srcW := short info.src.w
    let srcH := short info.src.h
    let pitch := pitchOf info.fourcc srcW
    let totalSize := totalSizeOf info.fourcc pitch srcH
    if totalSize * 2 = 0 then none
    else
      let info := laidOut sisMemBase totalSize info
      let box := dstBoxOf info.dest
      if !box.isValid then some (-1, info, none)
      else do
        let srcOffsetX ← srcOffsetOf srcW (short info.dest.w) box.x1
        let srcOffsetY ← srcOffsetOf srcH (short info.dest.h) box.y1
        let x := short info.src.x + srcOffsetX
        let y := short info.src.y + srcOffsetY
        let (sx, sy) :=
          if isPlanar info.fourcc then (x &&& ~~~7, y &&& ~~~1) else (x &&& ~~~1, y)
        some (0, { info with offset := planeOffsets info.fourcc pitch srcH sx sy }, some {
          pixelFormat := info.fourcc
          pitch := pitch.toUInt32.toUInt16, origPitch := pitch.toUInt32.toUInt16
          dstBox := { box with
            x1 := if box.x1 < 0 then 0 else box.x1, y1 := if box.y1 < 0 then 0 else box.y1 }
          srcW := (srcW - (sx - short info.src.x)).toUInt32.toUInt16
          srcH := (srcH - (sy - short info.src.y)).toUInt32.toUInt16
          frames := info.offsets.map fun o => dgaOffset + o.toInt32 })

end Vidix.Sis
