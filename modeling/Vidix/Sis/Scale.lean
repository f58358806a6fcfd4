import Vidix.Sis.Config
import Vidix.Sis.Probe

/-!
# `sis_vid.c`: scaling the overlay

`calc_scale_factor` and `set_line_buf_size`, which fill in the rest of the overlay.  A picture that
is shown narrower than it is is first halved as often as it can be, and a lower one is made so by
leaving out lines.  The flag for the scaling of a flat panel is never set, so that what the source
does under it is left out.  A loop that does not end is `none`, as is a division that is not
defined.
-/

namespace Vidix.Sis

open Util

/-- `SISOverlayRec`. -/
structure SISOverlayRec extends Overlay where
  keyOP : UInt8
  husf : UInt16
  vusf : UInt16
  intBit : UInt8
  wHPre : UInt8
  psy : UInt32
  psv : UInt32
  psu : UInt32
  bobEnable : UInt8
  lineBufSize : UInt8
  deriving DecidableEq, Repr

/-- `OVERLAY_MIN_WIDTH`. -/
def overlayMinWidth : Int32 := 32

/-- `OVERLAY_MIN_HEIGHT`. -/
def overlayMinHeight : Int32 := 24

/-! ### `calc_scale_factor` -/

/-- `while (srcW >= tmpW) { tmpW <<= 1; i++; }`.  There is nothing left of `tmpW` after 32 rounds,
and the loop goes on for ever. -/
def prescale : ℕ → Int32 → Int32 → UInt32 → Option UInt32
  | 0, _, _, _ => none
  | rounds + 1, srcW, tmpW, i =>
    if srcW ≥ tmpW then prescale rounds srcW (tmpW <<< 1) (i + 1) else some i

/-- "It seems, the hardware can't scale below factor .125 (=1/8) if the pitch isn't a multiple of
256." -/
def limitedWidth (srcPitch srcW dstW : Int32) : Option Int32 :=
  if srcPitch % 256 ≠ 0 ∨ srcPitch < 256 then do
    let part ← quotient (dstW * 1000) srcW
    some (if part < 125 then srcW * 125 / 1000 + 1 else dstW)
  else some dstW

/-- `HUSF`, before it is cut to 16 bits, `IntBit` and `wHPre`. -/
structure HorScale where
  husf : Int32
  intBit : UInt8
  wHPre : UInt8
  deriving DecidableEq, Repr

def scaleWidth (srcPitch srcW dstW : Int32) : Option HorScale :=
  if dstW = srcW then some { husf := 0, intBit := 0x05, wHPre := 0 }
  else if dstW > srcW then do
    let husf ← quotient (srcW <<< 16) (dstW + 2)
    some { husf, intBit := 0x04, wHPre := 0 }
  else do
    let dstW ← limitedWidth srcPitch srcW dstW
    let i ← prescale 33 srcW dstW 0
    let dstW := dstW <<< (i - 1).toInt32
    let rest ← remainder srcW dstW
    let husf ← if rest ≠ 0 then quotient ((srcW - dstW) <<< 16) dstW else some 0
    some { husf, intBit := 0x01, wHPre := (i - 1).toUInt8 }

/-- `VUSF`, before it is cut to 16 bits, the bits that are added to `IntBit`, and `pitch` when it
is changed, before it is cut to 16 bits as well. -/
structure VerScale where
  vusf : Int32
  intBit : UInt8
  pitch : Option UInt32
  deriving DecidableEq, Repr

/-- What is done when the picture is at least twice as high as the window. -/
def skipLines (srcPitch srcH dstH : Int32) (i : UInt32) : Option VerScale :=
  if (srcPitch.toUInt32 * i) >>> 2 > 0xFFF then do
    let i ← quotient (0xFFF * 2) srcPitch
    some { vusf := 0xFFFF, intBit := 0x02, pitch := some (srcPitch.toUInt32 * i.toUInt32) }
  else do
    let dstH := (i * dstH.toUInt32).toInt32
    let rest ← remainder srcH dstH
    let vusf ← if rest ≠ 0 then quotient ((srcH - dstH) <<< 16) dstH else some 0
    some { vusf, intBit := 0x02, pitch := some (srcPitch.toUInt32 * i) }

def scaleHeight (srcPitch srcH dstH : Int32) : Option VerScale :=
  if dstH = srcH then some { vusf := 0, intBit := 0x0A, pitch := none }
  else if dstH > srcH then do
    let vusf ← quotient (srcH <<< 16) (dstH + 2)
    some { vusf, intBit := 0x08, pitch := none }
  else do
    let i ← quotient srcH dstH
    if i.toUInt32 < 2 then do
      let vusf ← quotient ((srcH - dstH) <<< 16) dstH
      some { vusf, intBit := 0x02, pitch := none }
    else skipLines srcPitch srcH dstH i.toUInt32

/-- `dstW`: "on 310/325 series, we need to double the width as well". -/
def scaledWidth (engine : VgaEngine) (vmode : UInt32) (box : BoxRec) : Int32 :=
  let dstW := box.x2.toInt32 - box.x1.toInt32
  let dstW := if vmode &&& vmodeDoublescan ≠ 0 ∧ engine = .sis315 then dstW <<< 1 else dstW
  if dstW < overlayMinWidth then overlayMinWidth else dstW

/-- `dstH`. -/
def scaledHeight (vmode : UInt32) (box : BoxRec) : Int32 :=
  let origdstH := box.y2.toInt32 - box.y1.toInt32
  let dstH := if vmode &&& vmodeDoublescan ≠ 0 then origdstH <<< 1 else origdstH
  let dstH := if vmode &&& vmodeInterlaced ≠ 0 then origdstH >>> 1 else dstH
  if dstH < overlayMinHeight then overlayMinHeight else dstH

/-- `calc_scale_factor`. -/
def calcScaleFactor (engine : VgaEngine) (vmode : UInt32) (o : SISOverlayRec) :
    Option SISOverlayRec := do
  let srcPitch := o.origPitch.toUInt32.toInt32
  let hor ← scaleWidth srcPitch o.srcW.toUInt32.toInt32 (scaledWidth engine vmode o.dstBox)
  let ver ← scaleHeight srcPitch o.srcH.toUInt32.toInt32 (scaledHeight vmode o.dstBox)
  some { o with
    husf := hor.husf.toUInt32.toUInt16
    wHPre := hor.wHPre
    vusf := ver.vusf.toUInt32.toUInt16
    intBit := hor.intBit ||| ver.intBit
    pitch := ver.pitch.elim o.pitch UInt32.toUInt16 }

/-! ### `set_line_buf_size` -/

/-- `(line & mask) == line ? line >> k : (line >> k) + 1`. -/
def lineBlocks (line mask : UInt32) (k : UInt32) : UInt32 :=
  if line &&& mask = line then line >>> k else (line >>> k) + 1

/-- The size before it is cut to eight bits. -/
def lineBufSizeOf (pixelFormat : UInt32) (wHPre : UInt8) (line : UInt32) : UInt32 :=
  if isPlanar pixelFormat then
    let preHIDF := wHPre &&& 0x07
    if preHIDF = 3 then lineBlocks line 0xffffff00 8 * 32 - 1
    else if preHIDF = 4 then lineBlocks line 0xfffffe00 9 * 64 - 1
    else if preHIDF = 5 then lineBlocks line 0xfffffc00 10 * 128 - 1
    else if preHIDF = 6 then lineBlocks line 0xfffff800 11 * 256 - 1
    else lineBlocks line 0xffffff80 7 * 16 - 1
  else lineBlocks line 0xffffff8 3 - 1

/-- `set_line_buf_size`. -/
def setLineBufSize (o : SISOverlayRec) : SISOverlayRec :=
  { o with lineBufSize := (lineBufSizeOf o.pixelFormat o.wHPre o.srcW.toUInt32).toUInt8 }

end Vidix.Sis
