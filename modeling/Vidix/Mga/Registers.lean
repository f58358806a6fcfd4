import Vidix.Mga.Config

/-!
# `mga_vid.c`: the registers of the scaler

What `vixConfigPlayback` computes for the back end scaler once the frames are laid out, how
`mga_vid_write_regs` hands it to the chip, and `vixPlaybackFrameSelect`, in the build that defines
`BES`.  The chip shows one of four buffers, each of which has a start address for every plane.
-/

namespace Vidix.Mga

/-- `bes_registers_t`. -/
structure BesRegisters where
  besctl : UInt32
  besglobctl : UInt32
  beslumactl : UInt32
  bespitch : UInt32
  besa1c3org : UInt32
  besa1corg : UInt32
  besa1org : UInt32
  besa2c3org : UInt32
  besa2corg : UInt32
  besa2org : UInt32
  besb1c3org : UInt32
  besb1corg : UInt32
  besb1org : UInt32
  besb2c3org : UInt32
  besb2corg : UInt32
  besb2org : UInt32
  beshcoord : UInt32
  beshiscal : UInt32
  beshsrcst : UInt32
  beshsrcend : UInt32
  beshsrclst : UInt32
  besvcoord : UInt32
  besviscal : UInt32
  besv1srclst : UInt32
  besv1wght : UInt32
  besv2srclst : UInt32
  besv2wght : UInt32
  deriving DecidableEq, Repr, Inhabited

/-! ### The four buffers -/

/-- The fields 1 and 2 of the buffers A and B, in the order in which frames are put into them. -/
inductive Buffer
  | a1 | a2 | b1 | b2
  deriving DecidableEq, Repr

/-- The frame that is put into a buffer. -/
def Buffer.frame : Buffer → ℕ
  | a1 => 0
  | a2 => 1
  | b1 => 2
  | b2 => 3

/-- The buffer that bits 25 and 26 of `BESCTL` select; `crtc2_frame_sel` has the same order. -/
def selectedBuffer (besctl : UInt32) : Buffer :=
  match besctl.toNat / 2 ^ 25 % 4 with
  | 0 => .a1
  | 1 => .a2
  | 2 => .b1
  | _ => .b2

namespace BesRegisters

/-- The start of the luma plane of a buffer. -/
def org (regs : BesRegisters) : Buffer → UInt32
  | .a1 => regs.besa1org
  | .a2 => regs.besa2org
  | .b1 => regs.besb1org
  | .b2 => regs.besb2org

/-- The start of the chroma plane, or of the first of two. -/
def corg (regs : BesRegisters) : Buffer → UInt32
  | .a1 => regs.besa1corg
  | .a2 => regs.besa2corg
  | .b1 => regs.besb1corg
  | .b2 => regs.besb2corg

/-- The start of the third plane. -/
def c3org (regs : BesRegisters) : Buffer → UInt32
  | .a1 => regs.besa1c3org
  | .a2 => regs.besa2c3org
  | .b1 => regs.besb1c3org
  | .b2 => regs.besb2c3org

def setOrg (regs : BesRegisters) (start : UInt32 → UInt32) : BesRegisters :=
  { regs with
    besa1org := start 0, besa2org := start 1, besb1org := start 2, besb2org := start 3 }

def setCorg (regs : BesRegisters) (start : UInt32 → UInt32) : BesRegisters :=
  { regs with
    besa1corg := start 0, besa2corg := start 1, besb1corg := start 2, besb2corg := start 3 }

def setC3org (regs : BesRegisters) (start : UInt32 → UInt32) : BesRegisters :=
  { regs with
    besa1c3org := start 0, besa2c3org := start 1, besb1c3org := start 2, besb2c3org := start 3 }

end BesRegisters

/-! ### The window -/

/-- `besleft` and `bestop`: `x > 0 ? x : 0`. -/
def onScreen (x : Int32) : Int32 := if x > 0 then x else 0

/-- `ofsleft` and `ofstop`: the part of the window that hangs off the screen. -/
def offScreen (x : Int32) : Int32 := onScreen x - x

/-- `ifactor = ((sw-1)<<14)/(dw-1)`, and the same for the heights. -/
def ifactor (src dest : Int32) : Int32 := ((src - 1) <<< 14) / (dest - 1)

/-- `regs.besviscal`: the source lines for a line of the window, with 16 bits behind the point. -/
def besviscalOf (config : VidixPlayback) : UInt32 :=
  (ifactor (sourceSize config).2 config.dest.h.toInt32 <<< 2).toUInt32

/-- `regs.besctl`. -/
def besctlOf (fourcc : UInt32) : UInt32 :=
  -- enabled, filtering, chroma upsampling, 4:2:0 mode, dithering
  let on : UInt32 := 1
  let planar : UInt32 := if isPlanar fourcc then 1 else 0
  on + (on <<< 10) + (on <<< 11) + (on <<< 16) + (planar <<< 17) + (on <<< 18)

/-- `regs.besglobctl`. -/
def besglobctlOf (fourcc : UInt32) : UInt32 :=
  let on : UInt32 := 1
  -- the format, and contrast and brightness control disabled
  (if fourcc == imgfmtUYVY then on <<< 6 else 0) ||| ((on <<< 5) + (on <<< 7))

/-- The registers of the horizontal scaler. -/
def BesRegisters.setHorizontal (regs : BesRegisters) (config : VidixPlayback) : BesRegisters :=
  let sw := (sourceSize config).1
  let x := config.dest.x.toInt32
  let dw := config.dest.w.toInt32
  let ifactor := ifactor sw dw
  let ofsleft := offScreen x
  let beshsrcst := ((ofsleft * ifactor) <<< 2).toUInt32
  { regs with
    beshcoord := ((onScreen x <<< 16) + (x + dw - 1)).toUInt32
    beshsrclst := ((sw - 1) <<< 16).toUInt32
    bespitch := bespitchOf config
    beshiscal := (ifactor <<< 2).toUInt32
    beshsrcst := beshsrcst
    beshsrcend := beshsrcst + (((dw - ofsleft - 1) * ifactor) <<< 2).toUInt32 }

/-- The registers of the vertical scaler, without the addresses. -/
def BesRegisters.setVertical (regs : BesRegisters) (config : VidixPlayback) : BesRegisters :=
  let sh := (sourceSize config).2
  let y := config.dest.y.toInt32
  let dh := config.dest.h.toInt32
  let ofstop := (offScreen y).toUInt32
  let besviscal := besviscalOf config
  let weight := (ofstop * (besviscal >>> 2)).toInt32
  let weights : UInt32 := if weight < 0 then 1 else 0
  let wght := (weights <<< 16) + ((weight &&& 0x3fff) <<< 2).toUInt32
  let srclst := (sh - 1).toUInt32 - (((ofstop * besviscal) >>> 16) &&& 0x03ff)
  { regs with
    besvcoord := ((onScreen y <<< 16) + (y + dh - 1)).toUInt32
    besviscal := besviscal
    besv1wght := wght
    besv2wght := wght
    besv1srclst := srclst
    besv2srclst := srclst }

/-! ### The start addresses -/

/-- `baseadrofs` of the luma plane. -/
def lumaAdrofs (config : VidixPlayback) : Int32 :=
  let ofstop := (offScreen config.dest.y.toInt32).toUInt32
  (((ofstop * besviscalOf config) >>> 16) * bespitchOf config).toInt32

/-- `baseadrofs` of the chroma planes. -/
def chromaAdrofs (isG400 : Bool) (config : VidixPlayback) : Int32 :=
  let ofstop := (offScreen config.dest.y.toInt32).toUInt32
  let lines := ofstop * besviscalOf config
  (((if isG400 then lines / 4 else lines / 2) >>> 16) * bespitchOf config).toInt32

/-- `(uint32_t) mga_src_base + baseadrofs + i*config->frame_size`. -/
def startAdr (srcBase : Int32) (config : VidixPlayback) (baseadrofs : Int32) (i : UInt32) :
    UInt32 :=
  srcBase.toUInt32 + baseadrofs.toUInt32 + i * frameSizeOf config

/-- `regs.bespitch * sh`. -/
def lumaBytes (config : VidixPlayback) : UInt32 :=
  bespitchOf config * (sourceSize config).2.toUInt32

/-- The start addresses.  Of packed pictures the chroma registers are left as they are. -/
def BesRegisters.setOrgs (regs : BesRegisters) (isG400 : Bool) (srcBase : Int32)
    (config : VidixPlayback) : BesRegisters :=
  let regs := regs.setOrg (startAdr srcBase config (lumaAdrofs config))
  if isPlanar config.fourcc then
    let first i := startAdr srcBase config (chromaAdrofs isG400 config) i + lumaBytes config
    let second i := first i + lumaBytes config / 4
    if config.fourcc == imgfmtYV12 then (regs.setCorg first).setC3org second
    else (regs.setC3org first).setCorg second
  else regs

/-- `regs` as `vixConfigPlayback` leaves them. -/
def besRegisters (regs : BesRegisters) (isG400 : Bool) (srcBase : Int32)
    (config : VidixPlayback) : BesRegisters :=
  let regs := { regs with
    besctl := besctlOf config.fourcc, besglobctl := besglobctlOf config.fourcc }
  ((regs.setHorizontal config).setVertical config).setOrgs isG400 srcBase config

/-! ### The chip -/

/-- `MGA_VSYNC_POS`. -/
def mgaVsyncPos : UInt32 := 2

/-- The bits that `vixPlaybackFrameSelect` clears. -/
def bufferMask : UInt32 := 0x07000000

/-- `is_g400`, `regs` and `mga_next_frame`, and the registers of the chip. -/
structure Scaler where
  isG400 : Bool
  regs : BesRegisters
  mgaNextFrame : Int32
  chip : BesRegisters
  deriving DecidableEq, Repr

namespace Scaler

/-- "Backend Scaler" in `mga_vid_write_regs`, which reads `VCOUNT` to have the registers updated
"somewhere between 1 and 2 frames from now". -/
def mgaVidWriteRegs (s : Scaler) (vcount : UInt32) : Scaler :=
  -- `if (is_g400)`
  let written (val old : UInt32) := if s.isG400 then val else old
  { s with
    chip := { s.regs with
      besglobctl := s.regs.besglobctl + ((vcount + 2) <<< 16)
      beslumactl := written s.regs.beslumactl s.chip.beslumactl
      besa1c3org := written s.regs.besa1c3org s.chip.besa1c3org
      besa2c3org := written s.regs.besa2c3org s.chip.besa2c3org
      besb1c3org := written s.regs.besb1c3org s.chip.besb1c3org
      besb2c3org := written s.regs.besb2c3org s.chip.besb2c3org } }

/-- `vixConfigPlayback`: the layout, and the registers if the request is accepted. -/
def vixConfigPlayback (s : Scaler) (d : Driver) (config : VidixPlayback) (vcount : UInt32) :
    Scaler :=
  let (ret, d, _) := Mga.vixConfigPlayback d config
  if ret = 0 then
    { s with regs := besRegisters s.regs s.isG400 d.mgaSrcBase config }.mgaVidWriteRegs vcount
  else s

/-- `vixPlaybackFrameSelect`. -/
def vixPlaybackFrameSelect (s : Scaler) (frame : UInt32) : Scaler :=
  let mgaNextFrame := frame.toInt32
  let besctl := (s.regs.besctl &&& ~~~bufferMask) + (mgaNextFrame <<< 25).toUInt32
  { s with
    mgaNextFrame := mgaNextFrame
    regs.besctl := besctl
    chip.besctl := besctl
    chip.besglobctl := s.regs.besglobctl + (mgaVsyncPos <<< 16) }

/-- The start of the luma plane of the frame that is shown. -/
def shownOrg (s : Scaler) : UInt32 := s.chip.org (selectedBuffer s.chip.besctl)

end Scaler

end Vidix.Mga
