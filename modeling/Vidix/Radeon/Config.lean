import Vidix.Radeon.Basic

/-!
# `radeon_vid.c`: configuring playback

`vixConfigPlayback` with everything it computes about video memory: the frame size of the format,
the memory left beside the bus-master descriptors, the number of frames and their place, and from
`radeon_vid_init_video` the offsets of frames and planes and the buffer base addresses.  The
scaler set-up of `radeon_vid_init_video` (floating point) is not modelled.  The build is the one
for Radeon chips (`RAGE128` not defined) with `RADEON_ENABLE_BM`, on a machine whose `size_t` has
64 bits.
-/

namespace Vidix.Radeon

/-- The kind of monitor behind the DVI port, as far as the driver asks. -/
inductive MonType
  | none
  | crt
  | lcd
  | dfp
  | ctv
  | stv
  deriving DecidableEq, Repr

/-- The card registers that describe the desktop, and `rinfo`. -/
structure Regs where
  crtcGenCntl : UInt32
  crtcHTotalDisp : UInt32
  crtcVTotalDisp : UInt32
  crtc2HTotalDisp : UInt32
  crtc2VTotalDisp : UInt32
  hasCRTC2 : Bool
  dviDispType : MonType
  deriving DecidableEq, Repr

/-- The driver's static variables. -/
structure Driver where
  regs : Regs
  /-- `radeon_ram_size`, as `vixInit` probed it. -/
  ramSize : UInt32
  memBase : UInt64
  /-- `pci_info.base0`. -/
  base0 : UInt64
  /-- `def_cap.flags & FLAG_DMA`. -/
  flagDma : Bool
  dmaDescBase : UInt64
  overlayOff : Int32
  besr : Besr
  deriving DecidableEq, Repr

/-! ### The desktop -/

def radeonVidGetDbpp (r : Regs) : UInt32 :=
  match (r.crtcGenCntl >>> 8) &&& 0xF with
  | 2 => 8
  | 3 => 15
  | 4 => 16
  | 5 => 24
  | _ => 32

/-- Whether the second CRTC drives a television. -/
def tvOnCrtc2 (r : Regs) : Bool :=
  r.hasCRTC2 && (r.dviDispType == .ctv || r.dviDispType == .stv)

def radeonGetXres (r : Regs) : UInt32 :=
  let hTotal := if tvOnCrtc2 r then r.crtc2HTotalDisp else r.crtcHTotalDisp
  (((hTotal >>> 16) &&& 0xffff) + 1) * 8

def radeonGetYres (r : Regs) : UInt32 :=
  let vTotal := if tvOnCrtc2 r then r.crtc2VTotalDisp else r.crtcVTotalDisp
  ((vTotal >>> 16) &&& 0xffff) + 1

/-- `rgb_size`. -/
def rgbSize (r : Regs) : UInt32 :=
  radeonGetXres r * radeonGetYres r * ((radeonVidGetDbpp r + 7) / 8)

/-! ### Formats -/

def supportedFourcc : List UInt32 :=
  [imgfmtY800, imgfmtYVU9, imgfmtIF09, imgfmtYV12, imgfmtI420, imgfmtIYUV, imgfmtUYVY, imgfmtYUY2,
    imgfmtYVYU, imgfmtRGB15, imgfmtBGR15, imgfmtRGB16, imgfmtBGR16, imgfmtRGB32, imgfmtBGR32]

def isSupportedFourcc (fourcc : UInt32) : Bool := supportedFourcc.contains fourcc

def is400 (fourcc : UInt32) : Bool := fourcc == imgfmtY800

def is410 (fourcc : UInt32) : Bool := fourcc == imgfmtYVU9 || fourcc == imgfmtIF09

def is420 (fourcc : UInt32) : Bool :=
  fourcc == imgfmtYV12 || fourcc == imgfmtI420 || fourcc == imgfmtIYUV

def isRgb32 (fourcc : UInt32) : Bool := fourcc == imgfmtRGB32 || fourcc == imgfmtBGR32

/-- A source pitch that the hardware can align to, else `0`. -/
def usablePitch (p : UInt32) : UInt32 :=
  if p == 16 || p == 32 || p == 64 || p == 128 || p == 256 then p else 0

def radeonQueryPitch (fourcc : UInt32) (spitch : VidixYuv) : UInt32 :=
  let spy := usablePitch spitch.y
  let spu := usablePitch spitch.u
  let spv := usablePitch spitch.v
  if is420 fourcc then
    if spy > 16 && spu == spy / 2 && spv == spy / 2 then spy else 32
  else if is410 fourcc then
    if spy ≥ 64 && spu == spy / 4 && spv == spy / 4 then spy else 64
  else if spy ≥ 16 then spy else 16

/-- `radeon_compute_framesize`: the value of `info->frame_size`. -/
def radeonComputeFramesize (info : VidixPlayback) : UInt32 :=
  let mpitch := radeonQueryPitch info.fourcc info.src.pitch - 1
  let w := info.src.w
  let h := info.src.h
  let size :=
    if is400 info.fourcc then alignUp w mpitch * h
    else if is410 info.fourcc then alignUp w mpitch * (h + h / 8)
    else if is420 info.fourcc then alignUp w mpitch * (h + h / 2)
    else if isRgb32 info.fourcc then alignUp (w * 4) mpitch * h
    else alignUp (w * 2) mpitch * h
  (size + 4095) &&& ~~~4095

/-! ### `radeon_vid_init_video` -/

/-- `VIF_BUF0_BASE_ADRS_MASK` and its equals for buffers 1 and 2. -/
def vifBufBaseAdrsMask : UInt32 := 0x0ffffff0

/-- `VIF_BUF1_PITCH_SEL` and `VIF_BUF2_PITCH_SEL`. -/
def vifBufPitchSel : UInt32 := 1

/-- The byte pitch of the first plane. -/
def planePitch (config : VidixPlayback) : UInt32 :=
  let mpitch := radeonQueryPitch config.fourcc config.src.pitch - 1
  let w := config.src.w
  if is400 config.fourcc || is410 config.fourcc || is420 config.fourcc then alignUp w mpitch
  else if isRgb32 config.fourcc then alignUp (w * 4) mpitch
  else alignUp (w * 2) mpitch

/-- `config->offset` before the buffer addresses are masked, for the planar formats
(`d1line`, `d3line`, `d2line`). -/
def planeOffsets (config : VidixPlayback) : VidixYuv :=
  let pitch := planePitch config
  let left := config.src.x <<< 16
  let top := config.src.y <<< 16
  let srcH := config.src.h
  let d1line := top * pitch
  let shift : UInt32 := if is420 config.fourcc then 2 else 4
  let d2line :=
    if is400 config.fourcc then 0 else srcH * pitch + (d1line >>> shift)
  let d3line :=
    if is400 config.fourcc then 0 else d2line + ((srcH * pitch) >>> shift)
  let d1line := d1line + ((left >>> 16) &&& ~~~15)
  let leftUV := if is420 config.fourcc then (left >>> 17) &&& ~~~15 else (left >>> 18) &&& ~~~15
  if is400 config.fourcc then { y := d1line &&& vifBufBaseAdrsMask, u := 0, v := 0 }
  else
    { y := d1line &&& vifBufBaseAdrsMask
      u := (d3line + leftUV) &&& vifBufBaseAdrsMask
      v := (d2line + leftUV) &&& vifBufBaseAdrsMask }

/-- The layout part of `radeon_vid_init_video`. -/
def radeonVidInitVideo (d : Driver) (config : VidixPlayback) : Driver × VidixPlayback :=
  let f := config.fourcc
  let bestPitch := radeonQueryPitch f config.src.pitch
  let pitch := planePitch config
  let destPitch : VidixYuv := { y := bestPitch, u := bestPitch, v := bestPitch }
  let offsets := frameOffsets config.frameSize d.besr.vidNbufs
  let base : UInt32 := d.overlayOff.toUInt32
  let config := { config with dest.pitch := destPitch, offsets := offsets }
  if is420 f || is410 f || is400 f then
    let off := planeOffsets config
    let adrsY := offsets.map fun o => (base + o + off.y) &&& vifBufBaseAdrsMask
    let uv (p : UInt32) := offsets.map fun o =>
      if is400 f then 0 else ((base + o + p) &&& vifBufBaseAdrsMask) ||| vifBufPitchSel
    let adrsU := uv off.u
    let adrsV := uv off.v
    -- the offsets reported are those of the first frame's planes
    let first (adrs : List UInt32) := (adrs.headD 0 &&& vifBufBaseAdrsMask) - base
    let u := if is400 f then 0 else first adrsU
    let v := if is400 f then 0 else first adrsV
    -- these two have the U plane before the V plane
    let offset : VidixYuv :=
      if f == imgfmtI420 || f == imgfmtIYUV then { y := first adrsY, u := v, v := u }
      else { y := first adrsY, u := u, v := v }
    let besr := { d.besr with
      vidBufBaseAdrsY := adrsY, vidBufBaseAdrsU := adrsU, vidBufBaseAdrsV := adrsV
      vidBufPitch0Value := pitch
      vidBufPitch1Value :=
        if is410 f then pitch >>> 2 else if is420 f then pitch >>> 1 else pitch }
    ({ d with besr := besr }, { config with offset := offset })
  else
    let y := (((config.src.x <<< 16) &&& ~~~7) <<< 1) &&& vifBufBaseAdrsMask
    let adrs := offsets.map fun o => base + o + y
    let besr := { d.besr with
      vidBufBaseAdrsY := adrs, vidBufBaseAdrsU := adrs, vidBufBaseAdrsV := adrs
      vidBufPitch0Value := pitch, vidBufPitch1Value := pitch }
    ({ d with besr := besr }, { config with offset := { y := y, u := y, v := y } })

/-! ### `vixConfigPlayback` -/

/-- `radeon_ram_size * sizeof(bm_list_descriptor) / 4096`: a descriptor of 16 bytes for each page
of video memory, when the card does DMA. -/
def bmReserve (d : Driver) : UInt32 :=
  if d.flagDma then (d.ramSize.toUInt64 * 16 / 4096).toUInt32 else 0

/-- `radeon_video_size`. -/
def radeonVideoSize (d : Driver) : UInt32 := d.ramSize - bmReserve d

/-- `vixConfigPlayback`: the return value, the driver state and the request as they are left. -/
def vixConfigPlayback (d : Driver) (info : VidixPlayback) : ℤ × Driver × VidixPlayback :=
  if !isSupportedFourcc info.fourcc then (enosys, d, info)
  else
    let numFrames := cappedFrames info.numFrames
    let frameSize := radeonComputeFramesize info
    let info := { info with numFrames := numFrames, frameSize := frameSize }
    let videoSize := radeonVideoSize d
    let placed := placeFrames videoSize frameSize (rgbSize d.regs) numFrames d.overlayOff
    let d := { d with
      besr.doubleBuff := numFrames != 1
      dmaDescBase := if d.flagDma then d.base0 + videoSize.toUInt64 else d.dmaDescBase
      overlayOff := placed.2 }
    if placed.1 = 0 then (einval, d, info)
    else
      let info := { info with
        numFrames := UInt32.ofNat placed.1, dgaAddr := d.memBase + placed.2.toInt64.toUInt64 }
      let d := { d with besr.vidNbufs := UInt32.ofNat placed.1 }
      (0, radeonVidInitVideo d info)

end Vidix.Radeon
