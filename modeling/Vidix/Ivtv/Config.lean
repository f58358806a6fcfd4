import Vidix.Ivtv.Convert
import Vidix.Types

/-!
# `ivtv_vid.c`: configuring playback and selecting a frame

`vixInit` allocates the buffer for the tiles, `vixConfigPlayback` that of the application, and
`vixPlaybackFrameSelect` converts a frame of it.  `malloc` is a parameter that says at what address
it finds room for a number of bytes, if it does.  What the driver tells the kernel about the frame
after that is left out.
-/

namespace Vidix.Ivtv

open Util

/-- What `malloc` returned, with the size it was asked for. -/
structure Block where
  addr : UInt64
  size : ℕ
  deriving DecidableEq, Repr

/-- `malloc(size)`. -/
def allocate (malloc : ℕ → Option UInt64) (size : ℕ) : Option Block :=
  (malloc size).map fun addr => ⟨addr, size⟩

/-- The variables of the driver; a pointer that is `NULL` is `none`. -/
structure Driver where
  probed : Int32
  outbuf : Option Block
  memBase : Option Block
  frameSize : Int32
  destVideo : VidixRect
  srcVideo : VidixRect
  deriving DecidableEq, Repr

/-- `IVTVMAXWIDTH`. -/
def ivtvMaxWidth : ℕ := 720

/-- `IVTVMAXHEIGHT`. -/
def ivtvMaxHeight : ℕ := 576

/-- `(IVTVMAXHEIGHT * IVTVMAXWIDTH) + (IVTVMAXHEIGHT * IVTVMAXWIDTH / 2)`. -/
def outbufSize : ℕ := ivtvMaxHeight * ivtvMaxWidth + ivtvMaxHeight * ivtvMaxWidth / 2

/-- `vixInit`. -/
def vixInit (malloc : ℕ → Option UInt64) (d : Driver) : ℤ × Driver :=
  if d.probed = 0 then (eintr, d)
  else
    let d := { d with outbuf := allocate malloc outbufSize }
    if d.outbuf.isNone then (eintr, d) else (0, d)

/-- `vixConfigPlayback`. -/
def vixConfigPlayback (malloc : ℕ → Option UInt64) (d : Driver) (info : VidixPlayback) :
    ℤ × Driver × VidixPlayback :=
  let numFrames : UInt32 := 2
  let frameSize := (info.src.w * info.src.h + info.src.w * info.src.h / 2).toInt32
  let offsetU := info.src.w * info.src.h
  let memBase := allocate malloc (numFrames * frameSize.toUInt32).toNat
  (0, { d with
        destVideo := info.dest
        srcVideo := info.src
        frameSize := frameSize
        memBase := memBase },
    { info with
        numFrames := numFrames
        frameSize := frameSize.toUInt32
        dest := { info.dest with pitch := { y := 1, u := 2, v := 2 } }
        offsets := [0, frameSize.toUInt32]
        offset := { y := 0, u := offsetU, v := offsetU + info.src.w * info.src.h / 4 }
        dgaAddr := (memBase.map Block.addr).getD 0 })

/-- `vixPlaybackFrameSelect`, as far as it copies.  The places of the moves are in `outbuf` and in
the buffer at `memBase`. -/
def vixPlaybackFrameSelect (fuel : ℕ) (d : Driver) (frame : UInt32) : Trace Move :=
  let curMemBase : ℤ := (frame * d.frameSize.toUInt32).toNat
  let src := d.srcVideo
  (deMacroY fuel curMemBase 0 src.w src.h src.x.toInt32 src.y.toInt32 src.h.toInt32
    src.w.toInt32).andThen
  (deMacroUv fuel (curMemBase + (src.w * src.h).toNat + (src.w * src.h / 4).toNat)
    (curMemBase + (src.w * src.h).toNat) (ivtvMaxHeight * ivtvMaxWidth : ℕ) src.w src.h
    src.x.toInt32 src.y.toInt32 src.h.toInt32 src.w.toInt32)

end Vidix.Ivtv
