import Vidix.Savage.Frame

/-!
# `savage_vid.c`: initializing and configuring

`vixInit`, which maps the control registers and finds out how much memory there is,
`vixConfigPlayback` and `vixDestroy`.
-/

namespace Vidix.Savage

/-- `enum S3CHIPTAGS` of `savage_regs.h`. -/
inductive SavageArch where
  | savage3d
  | savageMx
  | savage4
  | prosavage
  | supersavage
  | savage2000
  deriving DecidableEq, Repr

/-- `SAVAGE_NEWMMIO_REGSIZE`. -/
def savageNewmmioRegsize : UInt64 := 0x0080000

/-- `SAVAGE_NEWMMIO_REGBASE_S3`; `SAVAGE_NEWMMIO_REGBASE_S4` is zero. -/
def savageNewmmioRegbaseS3 : UInt64 := 0x1000000

/-! ### The memory of the card -/

def ramSavage3D : List UInt32 := [8, 4, 4, 2]

/-- `RamSavage4`, whose second entry may have been corrected. -/
def ramSavage4 (corrected : Bool) : List UInt32 :=
  [2, if corrected then 8 else 4, 8, 12, 16, 32, 64, 32]

def ramSavageMX : List UInt32 := [2, 8, 4, 16, 8, 16, 4, 16]
def ramSavageNB : List UInt32 := [0, 2, 4, 8, 16, 32, 16, 2]

/-- `table[index] * 1024`. -/
def ramOf (table : List UInt32) (index : UInt8) : UInt32 := table.getD index.toNat 0 * 1024

/-- "On systems with 4 banks of 2Mx32 SDRAM, the BIOS says 4MB when it really means 8MB." -/
def fourBanks (cr : UInt8 → UInt8) : Bool := (cr 0x68 &&& 0xC0) == 0x40

/-- `videoRam`, in kilobytes.  `corrected` says that an earlier `vixInit` has corrected
`RamSavage4`. -/
def videoRam (arch : SavageArch) (corrected : Bool) (cr : UInt8 → UInt8) : UInt32 :=
  let config1 := cr 0x36
  match arch with
  | .savage3d => ramOf ramSavage3D ((config1 &&& 0xC0) >>> 6)
  | .savage4 => ramOf (ramSavage4 (corrected || fourBanks cr)) ((config1 &&& 0xE0) >>> 5)
  | .savage2000 => ramOf (ramSavage4 corrected) ((config1 &&& 0xE0) >>> 5)
  | .savageMx => ramOf ramSavageMX ((config1 &&& 0x0E) >>> 1)
  | .prosavage => ramOf ramSavageNB ((config1 &&& 0xE0) >>> 5)
  -- "How did we get here?"
  | .supersavage => 0

/-! ### The entry points -/

/-- Where the control registers are. -/
def controlAt (arch : SavageArch) (pci : PciInfo) : UInt64 :=
  if arch = .savage3d then pci.base0 + savageNewmmioRegbaseS3 else pci.base0

/-- `vixInit`.  A mapping of the control registers that has failed is used all the same, which ends
the program. -/
def vixInit (arch : SavageArch) (corrected : Bool) (cr : UInt8 → UInt8) (pci : PciInfo)
    (answer : Answer) : Option (InitOutcome SavageArch) :=
  if answer.ptr = mapFailed then none
  else
    let info := { ChipInfo.calloc arch with
      controlBase := answer.ptr
      fbsize := (videoRam arch corrected cr * 1024).toUInt64 }
    some {
      ret := 0
      info := screenProperties cr info
      ops := [.map (controlAt arch pci) savageNewmmioRegsize answer.ptr] }

/-- `is_supported_fourcc`. -/
def isSupportedFourcc (fourcc : UInt32) : Bool :=
  fourcc == imgfmtUYVY || fourcc == imgfmtYUY2 || fourcc == imgfmtY211 ||
    fourcc == imgfmtRGB15 || fourcc == imgfmtRGB16 || fourcc == imgfmtBGR24 ||
    fourcc == imgfmtBGR32

/-- Where the memory of the card is. -/
def videoAt (arch : SavageArch) (pci : PciInfo) : UInt64 :=
  if arch = .savage3d then pci.base0 else pci.base1

/-- `vixConfigPlayback`. -/
def vixConfigPlayback (pci : PciInfo) (info : ChipInfo SavageArch) (vinfo : VidixPlayback)
    (answer : Answer) : Option (Outcome SavageArch) :=
  if !isSupportedFourcc vinfo.fourcc then
    some { ret := -1, info := info, vinfo := vinfo, ops := [] }
  else configFrames info vinfo (videoAt info.arch pci) answer

/-- `vixDestroy`. -/
def vixDestroy (info : ChipInfo SavageArch) : List PhysOp :=
  [.unmap info.videoBase info.fbsize, .unmap info.controlBase savageNewmmioRegsize]

/-- `vixInit`, configurations, and `vixDestroy`: what is mapped and unmapped. -/
def session (arch : SavageArch) (corrected : Bool) (cr : UInt8 → UInt8) (pci : PciInfo)
    (control : Answer) (requests : List (VidixPlayback × Answer)) : Option (List PhysOp) := do
  let init ← vixInit arch corrected cr pci control
  let (info, ops) ← configs (vixConfigPlayback pci) init.info requests
  some (init.ops ++ ops ++ vixDestroy info)

end Vidix.Savage
