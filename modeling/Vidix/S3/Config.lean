import Vidix.Savage.Config

/-!
# `s3_vid.c`: initializing and configuring

The driver for the older chips too.  `vixInit` gives up, through `vixDestroy`, when it does not know
how much memory there is.  What the control registers take is smaller before the Savage.
-/

namespace Vidix.S3

open Savage

/-- `enum S3CHIPTAGS` of `s3_regs.h`. -/
inductive S3Arch where
  | trio64v
  | virge
  | virgeVx
  | virgeDxgx
  | virgeMx
  | virgeGx2
  | trio3d
  | trio3d2x
  | savage3d
  | savageMx
  | savage4
  | prosavage
  | supersavage
  | savage2000
  deriving DecidableEq, Repr

/-- `arch < S3_SAVAGE3D`. -/
def S3Arch.beforeSavage : S3Arch → Bool
  | .trio64v | .virge | .virgeVx | .virgeDxgx | .virgeMx | .virgeGx2 | .trio3d | .trio3d2x => true
  | .savage3d | .savageMx | .savage4 | .prosavage | .supersavage | .savage2000 => false

/-- `S3_NEWMMIO_REGBASE`. -/
def s3NewmmioRegbase : UInt64 := 0x1000000

/-- `S3_NEWMMIO_REGSIZE` and `S3_NEWMMIO_REGSIZE_SAVAGE`. -/
def s3NewmmioRegsize (arch : S3Arch) : UInt64 := if arch.beforeSavage then 0x0010000 else 0x0080000

/-! ### The memory of the card -/

def ramTrio64V : List UInt32 := [4, 0, 3, 8, 2, 6, 1, 0]
def ramVirge : List UInt32 := [4, 0, 0, 0, 2, 0, 1, 0]
def ramVirgeGX2 : List UInt32 := [0, 4, 0, 2]
def ramTrio3D : List UInt32 := [4, 0, 4, 0, 2, 0, 0, 0]
def ramTrio3D2X : List UInt32 := [8, 4, 4, 0, 0, 0, 2, 0]

/-- `videoRam`, in kilobytes.  `corrected` says that an earlier `vixInit` has corrected
`RamSavage4`. -/
def videoRam (arch : S3Arch) (corrected : Bool) (cr : UInt8 → UInt8) : UInt32 :=
  let cr36 := cr 0x36
  match arch with
  | .trio64v => ramOf ramTrio64V ((cr36 &&& 0xE0) >>> 5)
  | .virge | .virgeDxgx => ramOf ramVirge ((cr36 &&& 0xE0) >>> 5)
  -- the case of `S3_VIRGE_VX`, which has a table of its own, falls through
  | .virgeVx | .virgeGx2 | .virgeMx => ramOf ramVirgeGX2 ((cr36 &&& 0xC0) >>> 6)
  | .trio3d => ramOf ramTrio3D ((cr36 &&& 0xE0) >>> 5)
  | .trio3d2x => ramOf ramTrio3D2X ((cr36 &&& 0xE0) >>> 5)
  | .savage3d => ramOf ramSavage3D ((cr36 &&& 0xC0) >>> 6)
  | .savage4 => ramOf (ramSavage4 (corrected || fourBanks cr)) ((cr36 &&& 0xE0) >>> 5)
  | .savage2000 => ramOf (ramSavage4 corrected) ((cr36 &&& 0xE0) >>> 5)
  | .savageMx => ramOf ramSavageMX ((cr36 &&& 0x0E) >>> 1)
  | .prosavage => ramOf ramSavageNB ((cr36 &&& 0xE0) >>> 5)
  -- "How did we get here?"
  | .supersavage => 0

/-! ### The entry points -/

/-- `vixDestroy`. -/
def vixDestroy (info : ChipInfo S3Arch) : List PhysOp :=
  [.unmap info.videoBase info.fbsize, .unmap info.controlBase (s3NewmmioRegsize info.arch)]

/-- Where the control registers are. -/
def controlAt (arch : S3Arch) (pci : PciInfo) : UInt64 :=
  if arch.beforeSavage ∨ arch = .savage3d then pci.base0 + s3NewmmioRegbase else pci.base0

/-- `vixInit`.  A mapping of the control registers that has failed is used all the same, which ends
the program. -/
def vixInit (arch : S3Arch) (corrected : Bool) (cr : UInt8 → UInt8) (pci : PciInfo)
    (answer : Answer) : Option (InitOutcome S3Arch) :=
  if answer.ptr = mapFailed then none
  else
    let info := { ChipInfo.calloc arch with controlBase := answer.ptr }
    let ops := [.map (controlAt arch pci) (s3NewmmioRegsize arch) answer.ptr]
    let videoRam := videoRam arch corrected cr
    if videoRam = 0 then
      -- "Unsupported configuration, aborting"
      some { ret := -1, info := info, ops := ops ++ vixDestroy info }
    else
      some {
        ret := 0
        info := screenProperties cr { info with fbsize := (videoRam * 1024).toUInt64 }
        ops := ops }

/-- `is_supported_fourcc`. -/
def isSupportedFourcc (arch : S3Arch) (fourcc : UInt32) : Bool :=
  (fourcc == imgfmtUYVY && !arch.beforeSavage) || fourcc == imgfmtYUY2 || fourcc == imgfmtY211 ||
    fourcc == imgfmtBGR15 || fourcc == imgfmtBGR16 || fourcc == imgfmtBGR24 ||
    fourcc == imgfmtBGR32

/-- Where the memory of the card is. -/
def videoAt (arch : S3Arch) (pci : PciInfo) : UInt64 :=
  if arch.beforeSavage ∨ arch = .savage3d then pci.base0 else pci.base1

/-- `vixConfigPlayback`. -/
def vixConfigPlayback (pci : PciInfo) (info : ChipInfo S3Arch) (vinfo : VidixPlayback)
    (answer : Answer) : Option (Outcome S3Arch) :=
  if !isSupportedFourcc info.arch vinfo.fourcc then
    some { ret := -1, info := info, vinfo := vinfo, ops := [] }
  else configFrames info vinfo (videoAt info.arch pci) answer

/-- `vixInit`, configurations, and `vixDestroy`: what is mapped and unmapped. -/
def session (arch : S3Arch) (corrected : Bool) (cr : UInt8 → UInt8) (pci : PciInfo)
    (control : Answer) (requests : List (VidixPlayback × Answer)) : Option (List PhysOp) := do
  let init ← vixInit arch corrected cr pci control
  -- `info` has been freed
  if init.ret ≠ 0 then some init.ops
  else
    let (info, ops) ← configs (vixConfigPlayback pci) init.info requests
    some (init.ops ++ ops ++ vixDestroy info)

end Vidix.S3
