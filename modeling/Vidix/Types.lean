import Mathlib.Data.UInt

/-!
# Types and constants shared by the drivers

`vidix_types.h`, `fourcc.h` and the error numbers the drivers return.  An `unsigned` is a
`UInt32`; only the fields that a modelled function reads or writes are kept.
-/

namespace Vidix

/-- `vidix_yuv_t`: one number for each of the Y, U and V planes. -/
structure VidixYuv where
  y : UInt32
  u : UInt32
  v : UInt32
  deriving DecidableEq, Repr

/-- `vidix_rect_t`: a rectangle in pixels and the line alignment of its planes in bytes. -/
structure VidixRect where
  x : UInt32
  y : UInt32
  w : UInt32
  h : UInt32
  pitch : VidixYuv
  deriving DecidableEq, Repr

/-- `vidix_playback_t`.  `offsets` holds the entries of the array that belong to a frame. -/
structure VidixPlayback where
  fourcc : UInt32
  src : VidixRect
  dest : VidixRect
  frameSize : UInt32
  numFrames : UInt32
  offsets : List UInt32
  offset : VidixYuv
  dgaAddr : UInt64
  deriving DecidableEq, Repr

/-- `VID_PLAY_MAXFRAMES`. -/
def vidPlayMaxframes : UInt32 := 1024

/-- `if(info->num_frames>VID_PLAY_MAXFRAMES) info->num_frames=VID_PLAY_MAXFRAMES;`. -/
def cappedFrames (numFrames : UInt32) : UInt32 :=
  if numFrames > vidPlayMaxframes then vidPlayMaxframes else numFrames

/-- `vidix_ckey_t`, which is all of a `vidix_grkey_t` that a modelled driver looks at. -/
structure VidixCkey where
  op : UInt32
  red : UInt8
  green : UInt8
  blue : UInt8
  deriving DecidableEq, Repr

/-- `CKEY_FALSE`. -/
def ckeyFalse : UInt32 := 0

/-- `CKEY_TRUE`. -/
def ckeyTrue : UInt32 := 1

/-! ### The equalizer -/

/-- `vidix_video_eq_t`. -/
structure VideoEq where
  cap : UInt32
  brightness : Int32
  contrast : Int32
  saturation : Int32
  hue : Int32
  redIntensity : Int32
  greenIntensity : Int32
  blueIntensity : Int32
  flags : UInt32
  deriving DecidableEq, Repr

def veqCapBrightness : UInt32 := 0x1
def veqCapContrast : UInt32 := 0x2
def veqCapSaturation : UInt32 := 0x4
def veqCapHue : UInt32 := 0x8
def veqCapRgbIntensity : UInt32 := 0x10

/-- What is kept of the fields of `eq` that it claims to use. -/
def VideoEq.take (equal eq : VideoEq) : VideoEq :=
  let rgb := eq.cap &&& veqCapRgbIntensity ≠ 0
  { equal with
    brightness := if eq.cap &&& veqCapBrightness ≠ 0 then eq.brightness else equal.brightness
    contrast := if eq.cap &&& veqCapContrast ≠ 0 then eq.contrast else equal.contrast
    saturation := if eq.cap &&& veqCapSaturation ≠ 0 then eq.saturation else equal.saturation
    hue := if eq.cap &&& veqCapHue ≠ 0 then eq.hue else equal.hue
    redIntensity := if rgb then eq.redIntensity else equal.redIntensity
    greenIntensity := if rgb then eq.greenIntensity else equal.greenIntensity
    blueIntensity := if rgb then eq.blueIntensity else equal.blueIntensity
    flags := eq.flags }

/-- `if (x < low) x = low; if (x > high) x = high;`. -/
def clamp (low high x : Int32) : Int32 :=
  let x := if x < low then low else x
  if x > high then high else x

/-! ### Error numbers -/

def eintr : ℤ := 4
def enxio : ℤ := 6
def einval : ℤ := 22
def enosys : ℤ := 38

/-! ### Four-character codes -/

/-- `vid_fourcc(a, b, c, d)`. -/
def vidFourcc (a b c d : ℕ) : UInt32 :=
  UInt32.ofNat a ||| UInt32.ofNat b <<< 8 ||| UInt32.ofNat c <<< 16 ||| UInt32.ofNat d <<< 24

def imgfmtBGR15 : UInt32 := vidFourcc 'B'.toNat 'G'.toNat 'R'.toNat 15
def imgfmtRGB15 : UInt32 := vidFourcc 'R'.toNat 'G'.toNat 'B'.toNat 15
def imgfmtBGR16 : UInt32 := vidFourcc 'B'.toNat 'G'.toNat 'R'.toNat 16
def imgfmtRGB16 : UInt32 := vidFourcc 'R'.toNat 'G'.toNat 'B'.toNat 16
def imgfmtBGR24 : UInt32 := vidFourcc 'B'.toNat 'G'.toNat 'R'.toNat 24
def imgfmtBGR32 : UInt32 := vidFourcc 'B'.toNat 'G'.toNat 'R'.toNat 32
def imgfmtRGB32 : UInt32 := vidFourcc 'R'.toNat 'G'.toNat 'B'.toNat 32
def imgfmtYVU9 : UInt32 := vidFourcc 'Y'.toNat 'V'.toNat 'U'.toNat '9'.toNat
def imgfmtIF09 : UInt32 := vidFourcc 'I'.toNat 'F'.toNat '0'.toNat '9'.toNat
def imgfmtYV12 : UInt32 := vidFourcc 'Y'.toNat 'V'.toNat '1'.toNat '2'.toNat
def imgfmtI420 : UInt32 := vidFourcc 'I'.toNat '4'.toNat '2'.toNat '0'.toNat
def imgfmtIYUV : UInt32 := vidFourcc 'I'.toNat 'Y'.toNat 'U'.toNat 'V'.toNat
def imgfmtY800 : UInt32 := vidFourcc 'Y'.toNat '8'.toNat '0'.toNat '0'.toNat
def imgfmtUYVY : UInt32 := vidFourcc 'U'.toNat 'Y'.toNat 'V'.toNat 'Y'.toNat
def imgfmtYUY2 : UInt32 := vidFourcc 'Y'.toNat 'U'.toNat 'Y'.toNat '2'.toNat
def imgfmtY211 : UInt32 := vidFourcc 'Y'.toNat '2'.toNat '1'.toNat '1'.toNat
def imgfmtYVYU : UInt32 := vidFourcc 'Y'.toNat 'V'.toNat 'Y'.toNat 'U'.toNat

/-- A request for `numFrames` frames of `w` by `h`, shown as they are. -/
def sampleRequest (fourcc w h numFrames : UInt32) : VidixPlayback where
  fourcc := fourcc
  src := { x := 0, y := 0, w := w, h := h, pitch := ⟨0, 0, 0⟩ }
  dest := { x := 0, y := 0, w := w, h := h, pitch := ⟨0, 0, 0⟩ }
  frameSize := 0
  numFrames := numFrames
  offsets := []
  offset := ⟨0, 0, 0⟩
  dgaAddr := 0

/-- A single frame of `w` by `h` in YUY2. -/
def samplePlayback (w h : UInt32) : VidixPlayback := sampleRequest imgfmtYUY2 w h 1

end Vidix
