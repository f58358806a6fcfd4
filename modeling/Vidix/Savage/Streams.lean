import Vidix.Savage.Frame
import Mathlib.Logic.Function.Basic

/-!
# `savage_vid.c` and `s3_vid.c`: the streams engine

What the two drivers compute for the registers of the secondary stream.  The memory-mapped registers
are a map from offsets to words, and those behind `0x3d4` one from indices to bytes.
-/

namespace Vidix.Savage

/-- The memory-mapped registers. -/
abbrev Mmio := UInt32 → UInt32

/-- `OUTREG (addr, val)`. -/
def Mmio.outreg (mmio : Mmio) (addr val : UInt32) : Mmio := Function.update mmio addr val

/-- The registers behind `0x3d4`. -/
abbrev Crtc := UInt8 → UInt8

/-- `VGAOUT8 (vgaCRIndex, index); VGAOUT8 (vgaCRReg, val)`. -/
def Crtc.out (crtc : Crtc) (index val : UInt8) : Crtc := Function.update crtc index val

/-! ### Registers -/

def pstreamControlReg : UInt32 := 0x8180
def colChromaKeyControlReg : UInt32 := 0x8184
def sstreamControlReg : UInt32 := 0x8190
def chromaKeyUpperBoundReg : UInt32 := 0x8194
def sstreamStretchReg : UInt32 := 0x8198
def colorAdjustmentReg : UInt32 := 0x819C
def blendControlReg : UInt32 := 0x81A0
def pstreamFbaddr0Reg : UInt32 := 0x81C0
def pstreamFbaddr1Reg : UInt32 := 0x81C4
def doubleBufferReg : UInt32 := 0x81CC
def sstreamFbaddr0Reg : UInt32 := 0x81D0
def sstreamFbaddr1Reg : UInt32 := 0x81D4
def sstreamStrideReg : UInt32 := 0x81D8
def sstreamVscaleReg : UInt32 := 0x81E0
def sstreamVinitialReg : UInt32 := 0x81E4
def sstreamLinesReg : UInt32 := 0x81E8
def streamsFifoReg : UInt32 := 0x81EC
def pstreamWindowStartReg : UInt32 := 0x81F0
def pstreamWindowSizeReg : UInt32 := 0x81F4
def sstreamWindowStartReg : UInt32 := 0x81F8
def sstreamWindowSizeReg : UInt32 := 0x81FC
def pstreamFbsizeReg : UInt32 := 0x8300
def sstreamFbsizeReg : UInt32 := 0x8304
def sstreamFbaddr2Reg : UInt32 := 0x8308

/-! ### Values -/

/-- `OS_XY`. -/
def osXY (x y : UInt32) : UInt32 := (x + 1) <<< 16 ||| (y + 1)

/-- `OS_WH`. -/
def osWH (x y : UInt32) : UInt32 := (x - 1) <<< 16 ||| y

/-- `VSCALING`.  It is computed with doubles, which are exact enough for the quotient of two words.
-/
def vscaling (h0 h1 : UInt32) : UInt32 :=
  UInt32.ofNat (h0.toNat * 2 ^ 15 / h1.toNat % 2 ^ 20)

/-- `GetBlendForFourCC`. -/
def getBlendForFourCC (id : UInt32) : UInt32 :=
  if id = imgfmtUYVY then 0
  else if id = imgfmtYUY2 then 1
  else if id = imgfmtY211 then 4
  else if id = imgfmtBGR15 then 3
  else if id = imgfmtBGR16 then 5
  else if id = imgfmtBGR24 then 6
  else if id = imgfmtBGR32 then 7
  else 1

/-- `HDM_SHIFT`. -/
def hdmShift : UInt32 := 16

def hdscale4 : UInt32 := 2 <<< hdmShift
def hdscale8 : UInt32 := 3 <<< hdmShift
def hdscale16 : UInt32 := 4 <<< hdmShift
def hdscale32 : UInt32 := 5 <<< hdmShift
def hdscale64 : UInt32 := 6 <<< hdmShift

/-- What is or-ed to `ssControl` to scale down, which is the same in both drivers.
"BUGBUG shouldn't this be >=?" -/
def hdscale (srcW drwW : UInt32) : UInt32 :=
  if srcW > drwW <<< 1 then
    if srcW ≤ drwW <<< 2 then hdscale4
    else if srcW > drwW <<< 3 then hdscale8
    else if srcW > drwW <<< 4 then hdscale16
    else if srcW > drwW <<< 5 then hdscale32
    else if srcW > drwW <<< 6 then hdscale64
    else 0
  else 0

/-- `ssControl`, where it is not computed as before the Savage. -/
def ssControl {Arch : Type} (info : ChipInfo Arch) : UInt32 :=
  (getBlendForFourCC info.format <<< 24 ||| info.srcW) ||| hdscale info.srcW info.drwW

/-- `(cr92 & 0x40) | (info->pitch >> 8) | 0x80`, of which the low byte is written. -/
def pitchHigh (cr92 : UInt8) (pitch : UInt32) : UInt8 :=
  let high : UInt32 := pitch >>> 8
  (cr92 &&& 0x40) ||| high.toUInt8 ||| 0x80

/-- The pitch in `CR92` and `CR93`. -/
def outPitch (crtc : Crtc) (pitch : UInt32) : Crtc :=
  (crtc.out 0x92 (pitchHigh (crtc 0x92) pitch)).out 0x93 pitch.toUInt8

end Vidix.Savage
