import Vidix.Types

/-!
# `nvidia_vid.c`: the card and its frames

The families of chips, the size of the memory and the part of it that is for frames, as `vixInit`
finds them, and `vixConfigPlayback`.  A division by zero ends the program: it is `none`.
-/

namespace Vidix.Nvidia

/-- `NV_ARCH_03` and so on, the values that `nvidia_card_ids` has for `arch`. -/
inductive Arch where
  | nv03
  | nv04
  | nv10
  | nv20
  | nv30
  deriving DecidableEq, Repr

/-- The registers that are only read.  `crtc` are the ones behind `0x3D4` and `0x3D5`, and `general`
is the register `0x600` of `PVIDEO`. -/
structure Card where
  pfb : UInt32 → UInt32
  pmc : UInt32 → UInt32
  crtc : UInt8 → UInt8
  general : UInt32

/-- `struct rivatv_info`, with the fields of `struct rivatv_chip` that are in use. -/
structure RivatvInfo where
  useColorkey : Bool
  /-- The key that was in force before, "saved xv colorkey". -/
  colorkey : UInt32
  vidixcolorkey : UInt32
  depth : UInt32
  format : UInt32
  pitch : UInt32
  width : UInt32
  height : UInt32
  dWidth : UInt32
  dHeight : UInt32
  wx : UInt32
  wy : UInt32
  screenX : UInt32
  screenY : UInt32
  bufferSize : UInt64
  arch : Arch
  fbsize : UInt64
  pictureBase : UInt64
  pictureOffset : UInt64
  curFrame : UInt32
  numFrames : UInt32
  /-- Bytes per line of the screen. -/
  bps : Int32
  deriving DecidableEq, Repr

/-! ### The size of the memory -/

/-- `rivatv_fbsize_nv03`. -/
def rivatvFbsizeNv03 (card : Card) : UInt64 :=
  if card.pfb 0 &&& 0x00000020 ≠ 0 then
    if card.pmc 0 &&& 0xF0 = 0x20 ∧ card.pmc 0 &&& 0x0F ≥ 0x02 then
      -- "SDRAM 128 ZX."
      (((1 : UInt32) <<< (card.pfb 0 &&& 0x03)) * 1024 * 1024).toUInt64
    else 1024 * 1024 * 8
  else
    -- "SGRAM 128."
    if card.pfb 0 &&& 0x00000003 = 0 then 1024 * 1024 * 8
    else if card.pfb 0 &&& 0x00000003 = 2 then 1024 * 1024 * 4
    else 1024 * 1024 * 2

/-- `rivatv_fbsize_nv04`. -/
def rivatvFbsizeNv04 (card : Card) : UInt64 :=
  if card.pfb 0 &&& 0x00000100 ≠ 0 then
    (((card.pfb 0 >>> 12) &&& 0x0F) * 1024 * 1024 * 2 + 1024 * 1024 * 2).toUInt64
  else if card.pfb 0 &&& 0x00000003 = 0 then 1024 * 1024 * 32
  else if card.pfb 0 &&& 0x00000003 = 1 then 1024 * 1024 * 4
  else if card.pfb 0 &&& 0x00000003 = 2 then 1024 * 1024 * 8
  else 1024 * 1024 * 16

/-- `rivatv_fbsize_nv10`. -/
def rivatvFbsizeNv10 (card : Card) : UInt64 := (card.pfb 0x20C &&& 0xFFF00000).toUInt64

/-- `info->chip.fbsize`. -/
def fbsizeOf (arch : Arch) (card : Card) : UInt64 :=
  match arch with
  | .nv03 => rivatvFbsizeNv03 card
  | .nv04 => rivatvFbsizeNv04 card
  | .nv10 | .nv20 | .nv30 => rivatvFbsizeNv10 card

/-- `NV04_BES_SIZE`. -/
def nv04BesSize : UInt64 := 1024 * 2000 * 4

/-- `info->picture_offset`. -/
def pictureOffsetOf (arch : Arch) (fbsize : UInt64) : UInt64 :=
  match arch with
  -- "This may trash your screen for resolutions greater than 1024x768, sorry."
  | .nv03 => 1024 * 768 * 4 * (if fbsize > 4194304 then 2 else 1)
  | .nv04 | .nv10 | .nv20 | .nv30 =>
    if fbsize > 16 * 1024 * 1024 then fbsize - nv04BesSize - nv04BesSize
    else fbsize - nv04BesSize

/-! ### The screen -/

/-- `nv_getscreenproperties`. -/
def nvGetscreenproperties (card : Card) (info : RivatvInfo) : RivatvInfo :=
  let bpp := (card.crtc 0x28).toUInt32 &&& 0x3
  let depth : UInt32 := if bpp = 2 ∧ card.general &&& 0x00001000 = 0 then 15 else 0x04 <<< bpp
  let screenX := (1 + (card.crtc 0x1).toUInt32) * 8
  let screenY := (card.crtc 0x12).toUInt32 ||| ((card.crtc 0x07).toUInt32 &&& 0x02) <<< 7 |||
    ((card.crtc 0x07).toUInt32 &&& 0x40) <<< 3
  let x := (card.crtc 0x13).toUInt32 ||| ((card.crtc 0x19).toUInt32 &&& 0xE0) <<< 3 |||
    ((card.crtc 0x25).toUInt32 &&& 0x20) <<< 6
  { info with
    depth := depth, screenX := screenX, screenY := screenY + 1
    bps := ((x <<< 3) * bpp).toInt32 }

/-- The register with the colour key. -/
def colorKeyReg : Arch → UInt32
  | .nv03 | .nv04 => 0x240
  | .nv10 | .nv20 | .nv30 => 0xB00

/-- What `vixInit` makes of `info` on a chip of this family; `videoBase` is where `map_phys_mem` has
mapped the memory of the card, and `pvideo` is what the overlay registers hold. -/
def vixInit (arch : Arch) (card : Card) (videoBase : UInt64) (pvideo : UInt32 → UInt32) :
    RivatvInfo :=
  let fbsize := fbsizeOf arch card
  let pictureOffset := pictureOffsetOf arch fbsize
  nvGetscreenproperties card
    { useColorkey := false, colorkey := pvideo (colorKeyReg arch), vidixcolorkey := 0, depth := 0
      format := 0, pitch := 0, width := 0, height := 0, dWidth := 0, dHeight := 0, wx := 0, wy := 0
      screenX := 0, screenY := 0, bufferSize := 0, arch := arch, fbsize := fbsize
      pictureBase := videoBase + pictureOffset, pictureOffset := pictureOffset, curFrame := 0
      numFrames := 0, bps := 0 }

/-! ### Configuring playback -/

/-- `MAX_FRAMES`. -/
def maxFrames : UInt32 := 3

/-- `is_supported_fourcc`. -/
def isSupportedFourcc (fourcc : UInt32) : Bool := fourcc == imgfmtUYVY || fourcc == imgfmtYUY2

/-- `info->pitch`. -/
def pitchOf (width : UInt32) : UInt32 := ((width <<< 1) + (64 - 1)) &&& ~~~(64 - 1)

/-- `vixConfigPlayback`: the return value, `info` and the request as they are left. -/
def vixConfigPlayback (info : RivatvInfo) (vinfo : VidixPlayback) :
    Option (ℤ × RivatvInfo × VidixPlayback) :=
  if !isSupportedFourcc vinfo.fourcc then some (enosys, info, vinfo)
  else
    let pitch := pitchOf vinfo.src.w
    let frameSize := pitch * vinfo.src.h
    if frameSize = 0 then none
    else
      let numFrames := ((info.fbsize - info.pictureOffset) / frameSize.toUInt64).toUInt32
      let granted := if numFrames > maxFrames then maxFrames else numFrames
      some (0,
        { info with
          width := vinfo.src.w, height := vinfo.src.h, dWidth := vinfo.dest.w
          dHeight := vinfo.dest.h, wx := vinfo.dest.x, wy := vinfo.dest.y, format := vinfo.fourcc
          pitch := pitch, bufferSize := frameSize.toUInt64, numFrames := numFrames },
        { vinfo with
          dgaAddr := info.pictureBase, dest.pitch := ⟨64, 0, 0⟩, offset := ⟨0, 0, 0⟩
          frameSize := frameSize, numFrames := granted
          offsets := (List.range granted.toNat).map fun i => frameSize * UInt32.ofNat i })

end Vidix.Nvidia
