import Vidix.S3.Config
import Vidix.Savage.Streams

/-!
# `s3_vid.c`: displaying

`S3DisplayVideoOld`, with the registers of the chips before the Savage and of the Savage.  A
division by zero ends the program: it is `none`.
-/

namespace Vidix.S3

open Savage

/-- The driver and its card. -/
structure Player where
  info : ChipInfo S3Arch
  mmio : Mmio
  crtc : Crtc

/-- `arch < S3_VIRGE_MX`. -/
def S3Arch.beforeVirgeMx : S3Arch → Bool
  | .trio64v | .virge | .virgeVx | .virgeDxgx => true
  | .virgeMx | .virgeGx2 | .trio3d | .trio3d2x | .savage3d | .savageMx | .savage4 | .prosavage
  | .supersavage | .savage2000 => false

def k1VscaleReg : UInt32 := 0x81E0
def k2VscaleReg : UInt32 := 0x81E4
def ddaVertReg : UInt32 := 0x81E8
def fifoControlReg : UInt32 := 0x8200

/-- `ssControl`, as it is computed before the Savage. -/
def ssControlVirge (info : ChipInfo S3Arch) : UInt32 :=
  let control := (((info.srcW - 1) <<< 1) - (info.drwW - 1)) &&& 0xfff
  let control := control ||| getBlendForFourCC info.format <<< 24
  if info.srcW ≠ info.drwW then control ||| (2 : UInt32) <<< 28 else control

/-- "Set surface location and stride", "Set window parameters". -/
def surfaceWrites (info : ChipInfo S3Arch) : List (UInt32 × UInt32) :=
  [(sstreamFbaddr0Reg, info.pictureOffset.toUInt32), (sstreamFbaddr1Reg, 0),
    (sstreamStrideReg, info.pitch), (sstreamWindowStartReg, osXY info.wx info.wy),
    (sstreamWindowSizeReg, osWH info.drwW info.drwH)]

/-- "Set surface format and adjust scaling". -/
def scaleWrites (info : ChipInfo S3Arch) : Option (List (UInt32 × UInt32)) :=
  if info.arch.beforeSavage then
    some [(sstreamControlReg, ssControlVirge info),
      (sstreamStretchReg, ((info.srcW - info.drwW) &&& 0x7ff) <<< 16 ||| (info.srcW - 1)),
      (k1VscaleReg, info.srcH - 1), (k2VscaleReg, (info.srcH - info.drwH) &&& 0x7ff),
      (ddaVertReg, (1 - info.drwH) &&& 0xfff)]
  else if info.drwW = 0 then none
  else
    some [(sstreamControlReg, ssControl info),
      (sstreamStretchReg, (info.srcW <<< 15) / info.drwW), (sstreamLinesReg, info.srcH),
      (sstreamVscaleReg, vscaling info.srcH info.drwH)]

/-- The registers of the FIFO, and the pitch. -/
def setFifo (p : Player) : Player :=
  if p.info.arch = .trio64v then
    let fifo := (6 : UInt32) <<< 10 ||| (14 : UInt32) <<< 5 ||| (0x10 : UInt32)
    { p with mmio := p.mmio.outreg streamsFifoReg fifo }
  else if p.info.arch.beforeVirgeMx then
    let fifo := (4 : UInt32) <<< 12 ||| (8 : UInt32) <<< 6 ||| (0x10 : UInt32)
    { p with mmio := p.mmio.outreg fifoControlReg fifo }
  else if p.info.arch.beforeSavage then { p with crtc := p.crtc.out 0x87 0x10 }
  else
    let fifo := (32 : UInt32) <<< 11 ||| (25 : UInt32) <<< 5 ||| (2 : UInt32)
    { p with
      crtc := outPitch p.crtc p.info.pitch
      mmio := p.mmio.outreg streamsFifoReg fifo }

/-- `S3DisplayVideoOld`. -/
def s3DisplayVideoOld (p : Player) : Option Player := do
  let scale ← scaleWrites p.info
  let mmio := (surfaceWrites p.info ++ scale).foldl (fun mmio w => mmio.outreg w.1 w.2) p.mmio
  some (setFifo { p with mmio := mmio })

end Vidix.S3
