import Vidix.Types
import Vidix.Util.Digits
import Vidix.Util.Signed

/-!
# `pm3_vid.c`: options and configuring playback

The options that `vixInit` reads out of its argument, the scale factors of the overlay and the place
of the frames, which is the end of the 32 megabytes that the driver maps.  Sizes are `int`s; a
division that is not defined ends the program: it is `none`.  The place of the window on the screen
and the registers that `vixConfigPlayback` only reads are left out.
-/

namespace Vidix.Pm3

open Util

/-! ### Options -/

/-- `isspace` in the C locale. -/
def isSpace (c : Char) : Bool :=
  c == ' ' || c == '\t' || c == '\n' || c == '\x0b' || c == '\x0c' || c == '\r'

/-- The sign of a number and what follows it. -/
def readSign : List Char → Bool × List Char
  | '-' :: s => (true, s)
  | '+' :: s => (false, s)
  | s => (false, s)

/-- The base that a number announces, and its digits: `0x` has to be followed by one. -/
def readBase : List Char → ℕ × List Char
  | '0' :: x :: c :: s =>
    if (x == 'x' || x == 'X') && isDigitOf 16 c then (16, c :: s) else (8, '0' :: x :: c :: s)
  | '0' :: s => (8, '0' :: s)
  | s => (10, s)

/-- `strtol(s, NULL, 0)`, with the limits of a `long` of 64 bits. -/
def strtol (s : List Char) : ℤ :=
  let (negative, s) := readSign (s.dropWhile isSpace)
  let (base, s) := readBase s
  let n : ℤ := digitsValue base (s.takeWhile (isDigitOf base))
  max (-2 ^ 63) (min (if negative then -n else n) (2 ^ 63 - 1))

/-- What `strtok_r` finds one after the other, with a comma as the only separator. -/
def tokens (args : List Char) : List (List Char) :=
  (args.splitOnP (· == ',')).filter (· ≠ [])

/-- `char *a = strchr(opt, '='); if(a) *a++ = 0;`. -/
def splitOption (opt : List Char) : List Char × Option (List Char) :=
  match opt.dropWhile (· ≠ '=') with
  | [] => (opt, none)
  | _ :: a => (opt.takeWhile (· ≠ '='), some a)

/-- `pm3_vidmem` and `pm3_blank`. -/
structure Options where
  pm3Vidmem : Int32
  pm3Blank : Int32
  deriving DecidableEq, Repr

/-- The options before the first `vixInit`; `PM3_VIDMEM` is 24. -/
def defaultOptions : Options where
  pm3Vidmem := 24
  pm3Blank := 0

/-- One turn of the loop over the options. -/
def readOption (o : Options) (opt : List Char) : Options :=
  match splitOption opt with
  | (name, a) =>
    if name = "mem".toList then
      match a with
      | some a => { o with pm3Vidmem := Int32.ofInt (strtol a) }
      | none => o
    else if name = "blank".toList then
      { o with pm3Blank := a.elim 1 fun a => Int32.ofInt (strtol a) }
    else o

/-- `vixInit`, as far as its argument goes. -/
def vixInit (o : Options) : Option (List Char) → Options
  | none => o
  | some args => (tokens args).foldl readOption o

/-! ### Scale factors -/

/-- A delta of `compute_scale_factor`, in the bits of its register. -/
def scaleDelta (mask srcW dstW : Int32) : Option UInt32 := do
  let delta := (((← quotient (srcW <<< 16) dstW) + 0x0f) &&& mask).toUInt32
  some (if ((delta * dstW.toUInt32) >>> 16) &&& 0x03 ≠ 0 then delta + 0x10 else delta)

/-- What `compute_scale_factor` leaves in its arguments. -/
structure ScaleFactor where
  srcW : Int32
  dstW : Int32
  shrinkDelta : UInt32
  zoomDelta : UInt32
  deriving DecidableEq, Repr

/-- `compute_scale_factor`. -/
def computeScaleFactor (srcW dstW : Int32) : Option ScaleFactor :=
  let src := srcW &&& ~~~0x3
  let dst := dstW &&& ~~~0x3
  if srcW ≥ dstW then
    (scaleDelta 0x0ffffff0 src dst).map fun delta => ⟨src, dst, delta, 0x10000⟩
  else (scaleDelta 0x0001fff0 src dst).map fun delta => ⟨src, dst, 0x10000, delta⟩

/-! ### `pm3_setup_overlay` -/

def formatYUV422 : Int32 := 0x00000420
def formatVUY422 : Int32 := 0x00001420
def filterFull : Int32 := 0x00004000
def filterPartial : Int32 := 0x00008000

/-- `1 << 5`, which is `PM3VideoOverlayMode_PIXELSIZE_16BIT`. -/
def pixelsize16BIT : Int32 := 0x00000020

/-- The registers of the overlay, and `overlay_mode`. -/
structure Overlay where
  base0 : Int32
  stride : Int32
  width : Int32
  height : Int32
  shrinkXDelta : UInt32
  zoomXDelta : UInt32
  yDelta : Int32
  overlayMode : Int32
  deriving DecidableEq, Repr

/-- `PM3VideoOverlayYDelta_DELTA`, unless the heights are the same. -/
def yDelta (srcH drwH : Int32) : Option Int32 :=
  if srcH = drwH then some 0x10000
  else (quotient (srcH <<< 16) drwH).map (· &&& 0x0ffffff0)

/-- `pm3_setup_overlay`. -/
def pm3SetupOverlay (fourcc : UInt32) (srcW srcH drwW drwH vidBase : Int32) : Option Overlay := do
  let format :=
    if fourcc = imgfmtYUY2 then formatYUV422 else if fourcc = imgfmtUYVY then formatVUY422 else 0
  let scale ← computeScaleFactor srcW drwW
  -- the width of the window is that which is left of it, the width of the source is not
  let unscaled := srcW = scale.dstW
  let y ← yDelta srcH drwH
  let filter := if srcH = drwH then (if unscaled then 0 else filterPartial) else filterFull
  some {
    base0 := vidBase >>> 1
    stride := srcW &&& 0xfff
    width := scale.srcW &&& 0xfff
    height := srcH &&& 0xfff
    shrinkXDelta := if unscaled then 0x10000 else scale.shrinkDelta
    zoomXDelta := if unscaled then 0x10000 else scale.zoomDelta
    yDelta := y
    overlayMode := pixelsize16BIT ||| format ||| filter }

/-! ### `vixConfigPlayback` -/

/-- What a call leaves in the static variables, and what it tells the chip. -/
structure Settings where
  vidBase : Int32
  frames : List Int32
  overlay : Overlay
  deriving DecidableEq, Repr

/-- `pm3_vidmem*1024*1024`. -/
def windowBytes (pm3Vidmem : Int32) : UInt32 := (pm3Vidmem * 1024 * 1024).toUInt32

/-- The number of frames that is granted. -/
def grantedFrames (pm3Vidmem : Int32) (frameSize numFrames : UInt32) : UInt32 :=
  let maxFrames := cappedFrames (windowBytes pm3Vidmem / frameSize)
  if numFrames > maxFrames then maxFrames else numFrames

/-- "Use end of video memory. Assume the card has 32 MB". -/
def vidBaseOf (vidmemSize : UInt32) : Int32 := (32 * 1024 * 1024 - vidmemSize).toInt32

/-- The request as a frame size that is not zero leaves it. -/
def laidOut (pm3Mem : UInt64) (frameSize numFrames : UInt32) (vidBase : Int32)
    (info : VidixPlayback) : VidixPlayback :=
  { info with
    offset := ⟨0, 0, 0⟩, frameSize := frameSize, numFrames := numFrames
    dgaAddr := pm3Mem + vidBase.toInt64.toUInt64, dest.pitch := ⟨2, 0, 0⟩
    offsets := (List.range numFrames.toNat).map fun i => frameSize * UInt32.ofNat i }

/-- `vixConfigPlayback`: the return value, the request as it is left and the settings. -/
def vixConfigPlayback (pm3Vidmem : Int32) (pm3Mem : UInt64) (info : VidixPlayback) :
    Option (ℤ × VidixPlayback × Settings) :=
  let srcW := info.src.w.toInt32
  let srcH := info.src.h.toInt32
  let frameSize := (srcW * srcH * 2).toUInt32
  if frameSize = 0 then none
  else
    let numFrames := grantedFrames pm3Vidmem frameSize info.numFrames
    let vidBase := vidBaseOf (numFrames * frameSize)
    let info' := laidOut pm3Mem frameSize numFrames vidBase info
    -- "ugh": the height that the chip is told is one line less
    (pm3SetupOverlay info.fourcc srcW (srcH - 1) info.dest.w.toInt32 info.dest.h.toInt32
        vidBase).map fun overlay =>
      (0, info', {
        vidBase := vidBase
        frames := info'.offsets.map fun o => ((vidBase.toUInt32 + o) >>> 1).toInt32
        overlay := overlay })

end Vidix.Pm3
