import Vidix.Radeon.Config
import Vidix.Util.Table

/-!
# `mach64_vid.c`: configuring playback

`vixConfigPlayback` and `mach64_vid_init_video` with what they compute: the size of the memory and
of the desktop, the frame size, the number of frames and their place, the rows of
`mach64_buffer_base`, and the scaler registers that are kept in `besr`.  The frame search is the one
of `radeon_vid.c`, but for the test of its second loop.
-/

namespace Vidix.Mach64

open Radeon (usablePitch is420 isRgb32)

/-- The card registers that the functions here read. -/
structure Regs where
  /-- `MEM_CNTL`, as `vixInit` found it. -/
  memCntl : UInt32
  crtcGenCntl : UInt32
  crtcHTotalDisp : UInt32
  crtcVTotalDisp : UInt32
  pllVclkCntl : UInt32
  lcdVertStretching : UInt32
  lcdExtVertStretch : UInt32
  deriving DecidableEq, Repr

/-- The part of `bes_registers_t` that a configuration writes. -/
structure Besr where
  fourcc : UInt32
  scaleInc : UInt32
  yXStart : UInt32
  yXEnd : UInt32
  vidBufPitch : UInt32
  heightWidth : UInt32
  deriving DecidableEq, Repr

/-- A row of `mach64_buffer_base`. -/
structure BufferRow where
  y : UInt32
  u : UInt32
  v : UInt32
  deriving DecidableEq, Repr

/-- The driver's static variables. -/
structure Driver where
  regs : Regs
  memBase : UInt64
  supportsPlanar : Bool
  supportsLcdVStretch : Bool
  overlayOffset : Int32
  numMach64Buffers : UInt32
  bufferBase : Fin 64 → BufferRow
  /-- Memory behind `mach64_buffer_base` has been written. -/
  overrun : Bool
  besr : Besr

/-- The number of rows of `mach64_buffer_base`. -/
def bufferRows : ℕ := 64

/-- `mach64_buffer_base[i]`; behind the table there are no rows. -/
def Driver.row (d : Driver) (i : ℕ) : Option BufferRow := (Util.slot 64 i).map d.bufferBase

/-! ### The card -/

/-- `mach64_ram_size`. -/
def mach64RamSize (r : Regs) : UInt32 :=
  let size := r.memCntl &&& 0xf
  let kb :=
    if size < 8 then (size + 1) * 512
    else if size < 12 then (size - 3) * 1024
    else (size - 7) * 2048
  kb * 0x400

def mach64VidGetDbpp (r : Regs) : UInt32 :=
  match (r.crtcGenCntl >>> 8) &&& 0x7 with
  | 1 => 4
  | 2 => 8
  | 3 => 15
  | 4 => 16
  | 5 => 24
  | _ => 32

def mach64IsDblScan (r : Regs) : Bool := r.crtcGenCntl &&& 0x00000001 != 0

def mach64IsInterlace (r : Regs) : Bool := r.crtcGenCntl &&& 0x00000002 != 0

def mach64GetXres (r : Regs) : UInt32 := (((r.crtcHTotalDisp >>> 16) &&& 0xffff) + 1) * 8

def mach64GetYres (r : Regs) : UInt32 := ((r.crtcVTotalDisp >>> 16) &&& 0xffff) + 1

/-- The vertical stretch factor in 16.16. -/
def mach64GetVertStretch (d : Driver) : Int32 :=
  let one : Int32 := 65536
  if !d.supportsLcdVStretch then one
  else if d.regs.lcdVertStretching &&& 0x80000000 = 0 then one
  else
    let yres := (mach64GetYres d.regs).toInt32
    let panelSize := ((d.regs.lcdExtVertStretch &&& 0x003ff800) >>> 11).toInt32 + 1
    ((yres <<< 16) + (panelSize >>> 1)) / panelSize

/-- `rgb_size`. -/
def rgbSize (r : Regs) : UInt32 :=
  mach64GetXres r * mach64GetYres r * ((mach64VidGetDbpp r + 7) / 8)

/-! ### Formats -/

def isSupportedFourcc (d : Driver) (fourcc : UInt32) : Bool :=
  if is420 fourcc || fourcc == imgfmtYVU9 then d.supportsPlanar
  else [imgfmtYUY2, imgfmtUYVY, imgfmtBGR15, imgfmtBGR16, imgfmtBGR32].contains fourcc

def mach64QueryPitch (fourcc : UInt32) (spitch : VidixYuv) : UInt32 :=
  let spy := usablePitch spitch.y
  let spu := usablePitch spitch.u
  let spv := usablePitch spitch.v
  if is420 fourcc then
    if spy > 16 && spu == spy / 2 && spv == spy / 2 then spy else 32
  else if fourcc == imgfmtYVU9 then
    if spy > 32 && spu == spy / 4 && spv == spy / 4 then spy else 64
  else if spy ≥ 16 then spy else 16

/-- `mach64_compute_framesize`: the value of `info->frame_size`. -/
def mach64ComputeFramesize (info : VidixPlayback) : UInt32 :=
  let mpitch := mach64QueryPitch info.fourcc info.src.pitch - 1
  let w := info.src.w
  let h := info.src.h
  let size :=
    if is420 info.fourcc then alignUp w mpitch * (h + h / 2)
    else if info.fourcc == imgfmtYVU9 then alignUp w mpitch * (h + h / 8)
    else if info.fourcc == imgfmtBGR32 then alignUp (w * 4) mpitch * h
    else alignUp (w * 2) mpitch * h
  -- "so we have some space for alignment & such"
  (size + 256) &&& ~~~16

/-! ### `mach64_vid_init_video` -/

/-- `pitch`, and `besr.vid_buf_pitch`. -/
def linePitch (config : VidixPlayback) : UInt32 × UInt32 :=
  let mpitch := mach64QueryPitch config.fourcc config.src.pitch - 1
  let w := config.src.w
  if is420 config.fourcc || config.fourcc == imgfmtYVU9 then
    let pitch := alignUp w mpitch
    (pitch, pitch)
  else if isRgb32 config.fourcc then
    let pitch := alignUp (w * 4) mpitch
    (pitch, pitch >>> 2)
  else
    let pitch := alignUp (w * 2) mpitch
    (pitch, pitch >>> 1)

/-- `config->offset`, and `src_offset_y`, `src_offset_u`, `src_offset_v`. -/
def planeOffsets (config : VidixPlayback) : VidixYuv × VidixYuv :=
  let pitch := (linePitch config).1
  let left := config.src.x
  let top := config.src.y
  let srcH := config.src.h
  let planar (shift : UInt32) : VidixYuv :=
    let u := (pitch * srcH + 15) &&& ~~~15
    { y := 0, u := u, v := (u + ((pitch * srcH) >>> shift) + 15) &&& ~~~15 }
  let origin (offset : VidixYuv) (shift : UInt32) : VidixYuv :=
    { y := offset.y + top * pitch + left
      u := offset.u + ((top * pitch) >>> shift) + (left >>> 1)
      v := offset.v + ((top * pitch) >>> shift) + (left >>> 1) }
  if is420 config.fourcc then
    let offset := planar 2
    if config.fourcc == imgfmtI420 || config.fourcc == imgfmtIYUV then
      -- the swapped planes are taken without the origin of the picture
      ({ offset with u := offset.v, v := offset.u },
        { y := (origin offset 2).y, u := offset.v, v := offset.u })
    else (offset, origin offset 2)
  else if config.fourcc == imgfmtYVU9 then
    let offset := planar 4
    (offset, origin offset 4)
  else
    let start :=
      if config.fourcc == imgfmtBGR32 then top * pitch + (left <<< 2)
      else top * pitch + (left <<< 1)
    ({ y := 0, u := 0, v := 0 }, { y := start, u := start, v := start })

/-- `v_inc` and `h_inc`, in 4.12. -/
def scaleIncs (d : Driver) (config : VidixPlayback) : UInt32 × UInt32 :=
  let ecp := (d.regs.pllVclkCntl &&& 0x30) >>> 4
  let vInc := config.src.h * (mach64GetVertStretch d).toUInt32
  let vInc := if mach64IsInterlace d.regs then vInc <<< 1 else vInc
  let vInc := if mach64IsDblScan d.regs then vInc >>> 1 else vInc
  ((vInc / config.dest.h) >>> 4, (config.src.w <<< (12 + ecp)) / config.dest.w)

/-- A line of the screen in the mode that is set. -/
def screenLine (d : Driver) (y : UInt32) : UInt32 :=
  if mach64IsDblScan d.regs then y * 2
  else if mach64IsInterlace d.regs then y / 2
  else y

/-- The rows of `mach64_buffer_base` for the frames. -/
def bufferRowsAt (overlayOffset : Int32) (offsets : List UInt32) (start : VidixYuv) :
    List BufferRow :=
  offsets.map fun o =>
    { y := (overlayOffset.toUInt32 + o + start.y) &&& ~~~15
      u := (overlayOffset.toUInt32 + o + start.u) &&& ~~~15
      v := (overlayOffset.toUInt32 + o + start.v) &&& ~~~15 }

/-- The table with rows stored from its beginning on. -/
def storeRows (rows : List BufferRow) (table : Fin 64 → BufferRow) : Fin 64 → BufferRow :=
  fun i => rows.getD i (table i)

/-- `mach64_vid_init_video`.  The program ends in a division by zero (`none`) when the destination
has no width or no height. -/
def mach64VidInitVideo (d : Driver) (config : VidixPlayback) : Option (Driver × VidixPlayback) :=
  if config.dest.h = 0 || config.dest.w = 0 then none
  else
    let bestPitch := mach64QueryPitch config.fourcc config.src.pitch
    let (vInc, hInc) := scaleIncs d config
    let offsets := frameOffsets config.frameSize config.numFrames
    let (offset, start) := planeOffsets config
    let rows := bufferRowsAt d.overlayOffset offsets start
    let left := (config.src.x >>> 16) &&& 15
    let besr : Besr :=
      { fourcc := config.fourcc
        vidBufPitch := (linePitch config).2
        scaleInc := (hInc <<< 16) ||| vInc
        yXStart := screenLine d config.dest.y ||| (config.dest.x <<< 16)
        yXEnd := screenLine d (config.dest.y + config.dest.h) |||
          ((config.dest.x + config.dest.w) <<< 16)
        heightWidth := ((config.src.w - left) <<< 16) ||| (config.src.h - config.src.y) }
    some
      ({ d with
          besr := besr, numMach64Buffers := config.numFrames
          bufferBase := storeRows rows d.bufferBase
          -- the number of frames is not compared with that of the rows
          overrun := d.overrun || bufferRows < rows.length },
        { config with
          dest.pitch := ⟨bestPitch, bestPitch, bestPitch⟩, offsets := offsets
          offset := offset })

/-! ### `vixConfigPlayback` -/

/-- The test of the second loop. -/
def notBelowZero (off : Int32) : Bool := 0 ≤ off

/-- Both loops of `vixConfigPlayback`. -/
def placeFrames (videoSize frameSize rgbSize numFrames : UInt32) (off : Int32) : ℕ × Int32 :=
  let first := placeLoop (aboveDesktop rgbSize) videoSize frameSize numFrames.toNat off
  if first.1 ≤ 3 then placeLoop notBelowZero videoSize frameSize numFrames.toNat first.2
  else first

/-- `vixConfigPlayback`: the return value, the driver state and the request as they are left. -/
def vixConfigPlayback (d : Driver) (info : VidixPlayback) : Option (ℤ × Driver × VidixPlayback) :=
  if !isSupportedFourcc d info.fourcc then some (enosys, d, info)
  else if info.src.h > 720 || info.src.w > 720 then some (einval, d, info)
  else
    let numFrames := cappedFrames info.numFrames
    let frameSize := mach64ComputeFramesize info
    let info := { info with numFrames := numFrames, frameSize := frameSize }
    let placed :=
      placeFrames (mach64RamSize d.regs) frameSize (rgbSize d.regs) numFrames d.overlayOffset
    let d := { d with overlayOffset := placed.2 }
    if placed.1 = 0 then some (einval, d, info)
    else
      let numFrames := UInt32.ofNat placed.1
      let info := { info with
        numFrames := numFrames, dgaAddr := d.memBase + placed.2.toInt64.toUInt64 }
      (mach64VidInitVideo { d with numMach64Buffers := numFrames } info).map fun (d, info) =>
        (0, d, info)

end Vidix.Mach64
