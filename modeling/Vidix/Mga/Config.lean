import Vidix.Types
import Mathlib.Data.Int.Notation

/-!
# `mga_vid.c`: configuring playback

The part of `vixConfigPlayback` that lays out the frames.  The base address is chosen with the
`frame_size` that stands in the request when it comes in; the frame size of the request's own
picture is computed afterwards.  The registers that are computed from the layout in the rest of the
function are not part of it.
-/

namespace Vidix.Mga

/-- `ENOTSUP`. -/
def enotsup : ℤ := 95

/-- `MGA_DEFAULT_FRAMES`. -/
def mgaDefaultFrames : UInt32 := 64

/-- `mga_ram_size`, in megabytes; `vixInit` takes no other sizes. -/
structure RamSize where
  mb : UInt32
  four_le : 4 ≤ mb
  le_64 : mb ≤ 64
  deriving DecidableEq, Repr

/-- The check of `vixInit`. -/
def RamSize.check (mb : UInt32) : Option RamSize :=
  if h : 4 ≤ mb ∧ mb ≤ 64 then some ⟨mb, h.1, h.2⟩ else none

/-- The driver's static variables. -/
structure Driver where
  mgaRamSize : RamSize
  mgaMemBase : UInt64
  mgaSrcBase : Int32
  deriving DecidableEq, Repr

/-! ### The base address -/

/-- "illegal num_frames: %d, setting to %d". -/
def checkedFrames (numFrames : UInt32) : UInt32 :=
  if numFrames < 1 || numFrames > mgaDefaultFrames then mgaDefaultFrames else numFrames

/-- `mga_src_base = ((mga_ram_size/2)*0x100000-(config->num_frames+1)*config->frame_size);
mga_src_base &= (~0xFFFF);`: an `unsigned` difference in an `int`, masked. -/
def srcBaseAt (ram : RamSize) (frameSize : UInt32) (n : ℕ) : Int32 :=
  (((ram.mb / 2) * 0x100000 - (UInt32.ofNat n + 1) * frameSize) &&& 0xffff0000).toInt32

/-- `for(;config->num_frames>0;config->num_frames--) { ..; if(mga_src_base>=0) break; }`, with the
counter and `mga_src_base` as the loop leaves them. -/
def baseLoop (ram : RamSize) (frameSize : UInt32) : ℕ → Int32 → ℕ × Int32
  | 0, base => (0, base)
  | n + 1, _ =>
    let base := srcBaseAt ram frameSize (n + 1)
    if 0 ≤ base then (n + 1, base) else baseLoop ram frameSize n base

/-! ### The frames -/

/-- `x += x & 1`. -/
def evenUp (x : Int32) : Int32 := x + (x &&& 1)

/-- `(sw + 31) & ~31`. -/
def planePitch (sw : Int32) : Int32 := (sw + 31) &&& ~~~31

def isPlanar (fourcc : UInt32) : Bool :=
  fourcc == imgfmtI420 || fourcc == imgfmtIYUV || fourcc == imgfmtYV12

def isPacked (fourcc : UInt32) : Bool := fourcc == imgfmtYUY2 || fourcc == imgfmtUYVY

/-- `sw` and `sh` as they are made even. -/
def sourceSize (config : VidixPlayback) : Int32 × Int32 :=
  let sw := evenUp config.src.w.toInt32
  let sh := config.src.h.toInt32
  (sw, if isPlanar config.fourcc then evenUp sh else sh)

/-- `config->frame_size` for the source of the request; all of it is `int` arithmetic. -/
def frameSizeOf (config : VidixPlayback) : UInt32 :=
  let (sw, sh) := sourceSize config
  if isPlanar config.fourcc then
    (planePitch sw * sh + planePitch sw * sh / 2).toUInt32
  else (((sw + 8) &&& ~~~8) * sh * 2).toUInt32

/-- `regs.bespitch`: the length of a row of the luma plane in bytes, or of a packed picture in
pixels. -/
def bespitchOf (config : VidixPlayback) : UInt32 :=
  let (sw, _) := sourceSize config
  if isPlanar config.fourcc then (planePitch sw).toUInt32 else ((sw + 8) &&& ~~~8).toUInt32

/-- `config->offset`. -/
def planeOffsets (config : VidixPlayback) : VidixYuv :=
  let (sw, sh) := sourceSize config
  let first := (planePitch sw * sh).toUInt32
  let second := first + (planePitch sw * sh / 4).toUInt32
  if config.fourcc == imgfmtI420 || config.fourcc == imgfmtIYUV then
    { y := 0, u := first, v := second }
  else { y := 0, u := second, v := first }

/-- `offsets[0] = 0; for (i = 1; i < config->num_frames+2; i++) offsets[i] = i*frame_size;`. -/
def frameOffsets (frameSize numFrames : UInt32) : List UInt32 :=
  (List.range (numFrames.toNat + 2)).map fun i => UInt32.ofNat i * frameSize

/-- Source and destination have four pixels each way at least. -/
def validSizes (config : VidixPlayback) : Bool :=
  4 ≤ config.src.w.toInt32 && 4 ≤ config.src.h.toInt32 && 4 ≤ config.dest.w.toInt32 &&
    4 ≤ config.dest.h.toInt32

/-- `vixConfigPlayback`: the return value, the driver state and the request as they are left. -/
def vixConfigPlayback (d : Driver) (config : VidixPlayback) : ℤ × Driver × VidixPlayback :=
  let placed :=
    baseLoop d.mgaRamSize config.frameSize (checkedFrames config.numFrames).toNat d.mgaSrcBase
  let d := { d with mgaSrcBase := placed.2 }
  let config := { config with
    numFrames := UInt32.ofNat placed.1
    dgaAddr := d.mgaMemBase + placed.2.toInt64.toUInt64 }
  -- "Invalid src/dest dimensions"
  if !validSizes config then (einval, d, config)
  else if !(isPlanar config.fourcc || isPacked config.fourcc) then (enotsup, d, config)
  else
    let frameSize := frameSizeOf config
    let pitch : VidixYuv := if isPlanar config.fourcc then ⟨32, 32, 32⟩ else ⟨16, 0, 0⟩
    (0, d, { config with
      dest.pitch := pitch, frameSize := frameSize
      offsets := frameOffsets frameSize config.numFrames, offset := planeOffsets config })

end Vidix.Mga
