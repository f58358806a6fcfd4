import Vidix.Types
import Vidix.Util.Signed

/-!
# `pm2_vid.c`: configuring playback

The rows of a frame are as wide as the next width for which the chip has a product of partial
widths; the frames are at the end of eight megabytes, in as many of them as `vixInit` has been told
to use.  A division by zero ends the program: it is `none`.
-/

namespace Vidix.Pm2

/-! ### Widths -/

/-- `PPROD(a,b,c)`. -/
def pprod (a b c : UInt32) : UInt32 := a ||| b <<< 3 ||| c <<< 6

/-- `ppcodes`: a width and its partial products. -/
def ppcodes : List (UInt32 × UInt32) :=
  [(0, 0), (32, pprod 1 0 0), (64, pprod 1 1 0), (96, pprod 1 1 1), (128, pprod 2 1 1),
    (160, pprod 2 2 1), (192, pprod 2 2 2), (224, pprod 3 2 1), (256, pprod 3 2 2),
    (288, pprod 3 3 1), (320, pprod 3 3 2), (384, pprod 3 3 3), (416, pprod 4 3 1),
    (448, pprod 4 3 2), (512, pprod 4 3 3), (544, pprod 4 4 1), (576, pprod 4 4 2),
    (640, pprod 4 4 3), (768, pprod 4 4 4), (800, pprod 5 4 1), (832, pprod 5 4 2),
    (896, pprod 5 4 3), (1024, pprod 5 4 4), (1056, pprod 5 5 1), (1088, pprod 5 5 2),
    (1152, pprod 5 5 3), (1280, pprod 5 5 4), (1536, pprod 5 5 5), (1568, pprod 6 5 1),
    (1600, pprod 6 5 2), (1664, pprod 6 5 3), (1792, pprod 6 5 4), (2048, pprod 6 5 5)]

/-- What the loop over `ppcodes` looks for: the width of the rows, its code and how far it is above
the width before it, and the code of the width of the screen. -/
structure Widths where
  stride : UInt32
  ppcode : UInt32
  pitch : UInt32
  sppc : UInt32
  deriving DecidableEq, Repr

/-- One turn of the loop, at the entry behind the one of width `prev`. -/
def widthsStep (srcW sstr prev : UInt32) (entry : UInt32 × UInt32) (s : Widths) : Widths :=
  let s := if s.stride = 0 ∧ entry.1 ≥ srcW then
    { s with stride := entry.1, ppcode := entry.2, pitch := entry.1 - prev } else s
  if entry.1 = sstr then { s with sppc := entry.2 } else s

/-- The loop over the entries behind the one of width `prev`. -/
def widthsLoop (srcW sstr : UInt32) : UInt32 → List (UInt32 × UInt32) → Widths → Widths
  | _, [], s => s
  | prev, entry :: rest, s =>
    widthsLoop srcW sstr entry.1 rest (widthsStep srcW sstr prev entry s)

/-- The loop begins at the second entry. -/
def widths (srcW sstr : UInt32) : Widths := widthsLoop srcW sstr 0 ppcodes.tail ⟨0, 0, 0, 0⟩

/-! ### `vixConfigPlayback` -/

/-- `pm2_vidmem*1024*1024`: the memory that is used, of the `unsigned` type of its divisor. -/
def windowBytes (pm2Vidmem : Int32) : UInt32 := (pm2Vidmem * 1024 * 1024).toUInt32

/-- "Use end of video memory. Assume the card has 8 MB". -/
def base0 (pm2Vidmem : Int32) : Int32 := (8 - pm2Vidmem) * 1024 * 1024

/-- What the chip is told, and the static `frames`. -/
structure Settings where
  ppcode : UInt32
  sppc : UInt32
  dSdx : UInt32
  dTdyDom : UInt32
  frames : List Int32
  deriving DecidableEq, Repr

/-- The request as a frame size that is not zero leaves it. -/
def laidOut (pm2Vidmem : Int32) (pm2Mem : UInt64) (pitch frameSize : UInt32)
    (info : VidixPlayback) : VidixPlayback :=
  let numFrames := cappedFrames (windowBytes pm2Vidmem / frameSize)
  { info with
    offset := ⟨0, 0, 0⟩, frameSize := frameSize, numFrames := numFrames
    dgaAddr := pm2Mem + (base0 pm2Vidmem).toInt64.toUInt64, dest.pitch := ⟨pitch * 2, 0, 0⟩
    offsets := (List.range numFrames.toNat).map fun i => frameSize * UInt32.ofNat i }

/-- `(base0 + info->offsets[i]) >> 1`. -/
def frameAt (pm2Vidmem : Int32) (offset : UInt32) : Int32 :=
  (((base0 pm2Vidmem).toInt64 + offset.toUInt64.toInt64) >>> 1).toInt32

/-- `vixConfigPlayback` with the register that holds the stride of the screen: the return value and
the request as it is left, and what a successful call tells the chip. -/
def vixConfigPlayback (pm2Vidmem : Int32) (pm2Mem : UInt64) (screenStride : UInt32)
    (info : VidixPlayback) : Option (ℤ × VidixPlayback × Option Settings) :=
  if info.fourcc != imgfmtYUY2 then some (-1, info, none)
  else
    let w := widths info.src.w (screenStride * 2)
    if w.stride = 0 then some (-1, info, none)
    else
      let frameSize := w.stride * info.src.h * 2
      if frameSize = 0 then none
      else
        let info := laidOut pm2Vidmem pm2Mem w.pitch frameSize info
        if info.dest.w = 0 then none
        else if info.dest.h = 0 then none
        else
          some (0, info, some {
            ppcode := w.ppcode, sppc := w.sppc
            dSdx := (info.src.w <<< 20) / info.dest.w
            dTdyDom := (info.src.h <<< 20) / info.dest.h
            frames := info.offsets.map (frameAt pm2Vidmem) })

end Vidix.Pm2
