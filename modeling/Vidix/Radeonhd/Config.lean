import Vidix.Radeon.Basic

/-!
# `radeonhd_vid.c`: configuring playback

The counterpart of `Radeon.Config` for the RadeonHD chips: only packed RGB formats, one pitch, and
no bus-mastering (`RADEON_ENABLE_BM` is undefined), so that all of the memory is left to the frames.
-/

namespace Vidix.Radeonhd

/-- The card registers that describe the desktop, read through the routed `ovl` addresses. -/
structure Regs where
  grphContol : UInt32
  crtcHTotal : UInt32
  crtcVTotal : UInt32
  deriving DecidableEq, Repr

/-- The driver's static variables. -/
structure Driver where
  regs : Regs
  /-- `radeon_ram_size`, as `vixInit` probed it. -/
  ramSize : UInt32
  memBase : UInt64
  overlayOff : Int32
  besr : Besr
  deriving DecidableEq, Repr

def radeonVidGetDbpp (r : Regs) : UInt32 :=
  match r.grphContol &&& 3 with
  | 0 => 8
  | 1 => 16
  | 2 => 32
  | 3 => 64
  | _ => 32

def radeonGetXres (r : Regs) : UInt32 := (r.crtcHTotal &&& 0x0fff) + 1

def radeonGetYres (r : Regs) : UInt32 := (r.crtcVTotal &&& 0x0fff) + 1

/-- `rgb_size`. -/
def rgbSize (r : Regs) : UInt32 :=
  radeonGetXres r * radeonGetYres r * ((radeonVidGetDbpp r + 7) / 8)

def supportedFourcc : List UInt32 := [imgfmtRGB16, imgfmtBGR16, imgfmtRGB32, imgfmtBGR32]

def isSupportedFourcc (fourcc : UInt32) : Bool := supportedFourcc.contains fourcc

def radeonQueryPitch (_fourcc : UInt32) (_spitch : VidixYuv) : UInt32 := 256

/-- The byte pitch of a line. -/
def linePitch (info : VidixPlayback) : UInt32 :=
  let mpitch := radeonQueryPitch info.fourcc info.src.pitch - 1
  if info.fourcc == imgfmtRGB32 || info.fourcc == imgfmtBGR32 then alignUp (info.src.w * 4) mpitch
  else alignUp (info.src.w * 2) mpitch

/-- `radeon_compute_framesize`: the value of `info->frame_size`. -/
def radeonComputeFramesize (info : VidixPlayback) : UInt32 :=
  (linePitch info * info.src.h + 4095) &&& ~~~4095

/-- The layout part of `radeon_vid_init_video`. -/
def radeonVidInitVideo (d : Driver) (config : VidixPlayback) : Driver × VidixPlayback :=
  let bestPitch := radeonQueryPitch config.fourcc config.src.pitch
  let pitch := linePitch config
  let destPitch : VidixYuv := { y := bestPitch, u := bestPitch, v := bestPitch }
  let offsets := frameOffsets config.frameSize d.besr.vidNbufs
  let base : UInt32 := d.overlayOff.toUInt32
  let adrsY := offsets.map fun o => (base + o + config.offset.y) &&& ~~~255
  let zeros := offsets.map fun _ => (0 : UInt32)
  let besr := { d.besr with
    vidBufBaseAdrsY := adrsY, vidBufBaseAdrsU := zeros, vidBufBaseAdrsV := zeros
    vidBufPitch0Value := pitch, vidBufPitch1Value := pitch }
  ({ d with besr := besr },
    { config with
      dest.pitch := destPitch, offsets := offsets
      offset := { y := (adrsY.headD 0 &&& ~~~255) - base, u := 0, v := 0 } })

/-- `radeon_video_size`. -/
def radeonVideoSize (d : Driver) : UInt32 := d.ramSize

/-- `vixConfigPlayback`: the return value, the driver state and the request as they are left. -/
def vixConfigPlayback (d : Driver) (info : VidixPlayback) : ℤ × Driver × VidixPlayback :=
  if !isSupportedFourcc info.fourcc then (enosys, d, info)
  else
    let numFrames := cappedFrames info.numFrames
    let frameSize := radeonComputeFramesize info
    let info := { info with numFrames := numFrames, frameSize := frameSize }
    let placed := placeFrames (radeonVideoSize d) frameSize (rgbSize d.regs) numFrames d.overlayOff
    let d := { d with besr.doubleBuff := numFrames != 1, overlayOff := placed.2 }
    if placed.1 = 0 then (einval, d, info)
    else
      let info := { info with
        numFrames := UInt32.ofNat placed.1, dgaAddr := d.memBase + placed.2.toInt64.toUInt64 }
      let d := { d with besr.vidNbufs := UInt32.ofNat placed.1 }
      (0, radeonVidInitVideo d info)

end Vidix.Radeonhd
