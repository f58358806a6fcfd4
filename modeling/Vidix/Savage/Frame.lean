import Vidix.Types

/-!
# `savage_vid.c` and `s3_vid.c`: what they share

The two drivers lay out their frames by the same statements, behind the desktop.  The memory of the
card is mapped anew by each configuration that finds room.  What `map_phys_mem` answers is an
argument; a division by zero ends the program, which is `none`.
-/

namespace Vidix.Savage

/-! ### Mappings -/

/-- `MAP_FAILED`. -/
def mapFailed : UInt64 := 0xffffffffffffffff

/-- An answer of `map_phys_mem`, which is one of `mmap`: never `NULL`. -/
structure Answer where
  ptr : UInt64
  ne_null : ptr ≠ 0
  deriving DecidableEq

/-- The calls of `map_phys_mem`, with their answers, and of `unmap_phys_mem`. -/
inductive PhysOp where
  | map (base size ptr : UInt64)
  | unmap (ptr size : UInt64)
  deriving DecidableEq, Repr

/-! ### The driver -/

/-- `pciinfo_t`. -/
structure PciInfo where
  base0 : UInt64
  base1 : UInt64
  deriving DecidableEq, Repr

/-- `struct savage_info` and `struct s3_info`, for chips that are told apart by `Arch`. -/
structure ChipInfo (Arch : Type) where
  depth : UInt32
  bpp : UInt32
  format : UInt32
  pitch : UInt32
  srcW : UInt32
  srcH : UInt32
  drwW : UInt32
  drwH : UInt32
  wx : UInt32
  wy : UInt32
  screenX : UInt32
  screenY : UInt32
  frameSize : UInt64
  arch : Arch
  fbsize : UInt64
  videoBase : UInt64
  controlBase : UInt64
  pictureBase : UInt64
  pictureOffset : UInt64
  deriving DecidableEq, Repr

variable {Arch : Type}

/-- `calloc (1, sizeof (..))`, and the chip. -/
def ChipInfo.calloc (arch : Arch) : ChipInfo Arch where
  depth := 0
  bpp := 0
  format := 0
  pitch := 0
  srcW := 0
  srcH := 0
  drwW := 0
  drwH := 0
  wx := 0
  wy := 0
  screenX := 0
  screenY := 0
  frameSize := 0
  arch := arch
  fbsize := 0
  videoBase := 0
  controlBase := 0
  pictureBase := 0
  pictureOffset := 0

/-- `savage_getscreenproperties` and `S3GetScrProp`; `cr` are the registers behind `0x3d4`. -/
def screenProperties (cr : UInt8 → UInt8) (info : ChipInfo Arch) : ChipInfo Arch :=
  let mode := cr 0x67 &&& 0xf0
  let (depth, bpp) : UInt32 × UInt32 :=
    if mode = 0x00 ∨ mode = 0x10 then (8, 8)
    else if mode = 0x20 ∨ mode = 0x30 then (15, 16)
    else if mode = 0x40 ∨ mode = 0x50 then (16, 16)
    else if mode = 0x70 ∨ mode = 0xd0 then (24, 32)
    else (info.depth, info.bpp)
  let screenY := (cr 0x12).toUInt32 ||| ((cr 0x07).toUInt32 &&& 0x02) <<< 7 |||
    ((cr 0x07).toUInt32 &&& 0x40) <<< 3
  { info with
    depth := depth, bpp := bpp, screenX := (1 + (cr 0x1).toUInt32) <<< 3, screenY := screenY + 1 }

/-! ### Configuring playback -/

/-- `switch (vinfo->fourcc)`: the bytes of a pixel. -/
def bytesPerPixel (fourcc : UInt32) : UInt32 :=
  if fourcc = imgfmtY211 then 1
  else if fourcc = imgfmtBGR24 then 3
  else if fourcc = imgfmtBGR32 then 4
  else 2

/-- `info->pitch`, with the row in pixels above the row in bytes. -/
def pitchOf (srcW bpp : UInt32) : UInt32 :=
  let pitch := (srcW * bpp + 15) &&& ~~~15
  pitch ||| (pitch / bpp) <<< 16

/-- `vinfo->frame_size`. -/
def frameSizeOf (vinfo : VidixPlayback) : UInt32 :=
  (pitchOf vinfo.src.w (bytesPerPixel vinfo.fourcc) &&& 0xffff) * vinfo.src.h

/-- `info->picture_offset`. -/
def pictureOffsetOf (info : ChipInfo Arch) : UInt64 :=
  (info.screenX * info.screenY * (info.bpp >>> 3)).toUInt64

/-- The test for "not enough memory for overlay". -/
def noMemory (info : ChipInfo Arch) (vinfo : VidixPlayback) : Bool :=
  pictureOffsetOf info > info.fbsize - (frameSizeOf vinfo).toUInt64

/-- What `vixInit` leaves: its return value, `info`, and what was mapped and unmapped. -/
structure InitOutcome (Arch : Type) where
  ret : ℤ
  info : ChipInfo Arch
  ops : List PhysOp
  deriving DecidableEq, Repr

/-- What a configuration leaves: its return value, `info` and the request, and what was mapped. -/
structure Outcome (Arch : Type) where
  ret : ℤ
  info : ChipInfo Arch
  vinfo : VidixPlayback
  ops : List PhysOp
  deriving DecidableEq, Repr

/-- `vixConfigPlayback` on a fourcc that is supported; `base` is where the memory of the card is. -/
def configFrames (info : ChipInfo Arch) (vinfo : VidixPlayback) (base : UInt64) (answer : Answer) :
    Option (Outcome Arch) :=
  let frameSize := frameSizeOf vinfo
  let pictureOffset := pictureOffsetOf info
  let rejected := noMemory info vinfo
  let vinfo := { vinfo with
    offset := ⟨0, 0, 0⟩, dest.pitch := ⟨32, 32, 32⟩, frameSize := frameSize }
  let info := { info with
    srcW := vinfo.src.w, srcH := vinfo.src.h, drwW := vinfo.dest.w, drwH := vinfo.dest.h
    wx := vinfo.dest.x, wy := vinfo.dest.y, format := vinfo.fourcc
    pitch := pitchOf vinfo.src.w (bytesPerPixel vinfo.fourcc)
    frameSize := frameSize.toUInt64, pictureOffset := pictureOffset }
  if rejected then some { ret := -1, info := info, vinfo := vinfo, ops := [] }
  else
    let info := { info with videoBase := answer.ptr }
    let ops := [.map base info.fbsize answer.ptr]
    -- a mapping that has failed is not `NULL`
    if answer.ptr = 0 then some { ret := -1, info := info, vinfo := vinfo, ops := ops }
    else if frameSize = 0 then none
    else
      let pictureBase := answer.ptr.toUInt32.toUInt64 + pictureOffset
      let numFrames := ((info.fbsize - pictureOffset) / frameSize.toUInt64).toUInt32
      let numFrames := if numFrames > vidPlayMaxframes then vidPlayMaxframes else numFrames
      some {
        ret := 0
        info := { info with pictureBase := pictureBase }
        vinfo := { vinfo with
          dgaAddr := pictureBase, numFrames := numFrames
          offsets := (List.range numFrames.toNat).map fun i => frameSize * UInt32.ofNat i }
        ops := ops }

/-- Configurations one after the other: `info` in the end, and what they have mapped. -/
def configs (config : ChipInfo Arch → VidixPlayback → Answer → Option (Outcome Arch)) :
    ChipInfo Arch → List (VidixPlayback × Answer) → Option (ChipInfo Arch × List PhysOp)
  | info, [] => some (info, [])
  | info, (vinfo, answer) :: requests => do
    let o ← config info vinfo answer
    let (info, ops) ← configs config o.info requests
    some (info, o.ops ++ ops)

end Vidix.Savage
