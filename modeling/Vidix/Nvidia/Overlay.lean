import Vidix.Nvidia.Basic
import Mathlib.Logic.Function.Basic

/-!
# `nvidia_vid.c`: the overlay

`rivatv_overlay_start` and `rivatv_overlay_stop`, and the calls of an application that lead to them.
The registers of `PVIDEO` are a map from offsets to words.  Locking the extended registers is left
out, and so is the equalizer, whose values are only written to the card.  A division by zero ends
the program: it is `none`.
-/

namespace Vidix.Nvidia

/-- The static `eq`, without the values of the application. -/
structure Equalizer where
  lum : UInt32
  chrom : UInt32
  redOff : UInt8
  greenOff : UInt8
  blueOff : UInt8
  deriving DecidableEq, Repr

/-- The registers of `PVIDEO`. -/
abbrev Pvideo := UInt32 → UInt32

/-- `VID_WR32 (info->chip.PVIDEO, reg, val)`. -/
def Pvideo.write (pvideo : Pvideo) (reg val : UInt32) : Pvideo := Function.update pvideo reg val

/-- `VID_AND32`. -/
def Pvideo.and (pvideo : Pvideo) (reg val : UInt32) : Pvideo :=
  pvideo.write reg (pvideo reg &&& val)

/-- `VID_OR32`. -/
def Pvideo.or (pvideo : Pvideo) (reg val : UInt32) : Pvideo :=
  pvideo.write reg (pvideo reg ||| val)

/-- `VID_XOR32`. -/
def Pvideo.xor (pvideo : Pvideo) (reg val : UInt32) : Pvideo :=
  pvideo.write reg (pvideo reg ^^^ val)

/-- The driver and its overlay. -/
structure State where
  info : RivatvInfo
  eq : Equalizer
  pvideo : Pvideo

/-- A division, which a divisor of zero does not survive. -/
def div? (a b : UInt32) : Option UInt32 := if b = 0 then none else some (a / b)

/-! ### Stopping -/

/-- `rivatv_overlay_stop`. -/
def rivatvOverlayStop (s : State) : State :=
  match s.info.arch with
  | .nv10 | .nv20 | .nv30 =>
    -- "Xv-Extension-Hack: Restore previously saved value."
    let pvideo := s.pvideo.write 0xB00 s.info.colorkey
    { s with pvideo := (pvideo.or 0x704 0x11).and 0x700 (~~~0x11) }
  | .nv03 | .nv04 =>
    let pvideo := (s.pvideo.write 0x240 s.info.colorkey).and 0x244 (~~~0x01)
    { s with pvideo := ((pvideo.write 0x224 0).write 0x228 0).write 0x22C 0 }

/-! ### Where the window is -/

/-- `rivatv_overlay_pan`. -/
def rivatvOverlayPan (card : Card) : UInt32 :=
  let pan := (card.crtc 0x0D).toUInt32
  let pan := pan ||| (card.crtc 0x0C).toUInt32 <<< 8
  let pan := pan ||| ((card.crtc 0x19).toUInt32 &&& 0x1F) <<< 16
  let pan := pan ||| ((card.crtc 0x2D).toUInt32 &&& 0x60) <<< 16
  pan <<< 2

/-- The position of the window on the screen, "depending on the pan offset". -/
def windowPos (card : Card) (info : RivatvInfo) : Int32 × Int32 :=
  if info.depth ≠ 0 then
    let pan := rivatvOverlayPan card
    if info.bps ≠ 0 then
      ((info.wx - pan % info.bps.toUInt32 * 8 / info.depth).toInt32,
        (info.wy - pan / info.bps.toUInt32).toInt32)
    else (info.wx.toInt32, info.wy.toInt32)
  else
    let y := info.wy.toInt32
    let early := match info.arch with
      | .nv03 | .nv04 => true
      | .nv10 | .nv20 | .nv30 => false
    -- "setting y to 8 seems to work ok, though"
    (info.wx.toInt32, if early && y < 8 then 8 else y)

/-- The part of the window that is shown, and where in the picture it begins. -/
structure Window where
  x : Int32
  y : Int32
  lwidth : Int32
  lheight : Int32
  offset : UInt32
  deriving DecidableEq, Repr

/-- `if (x < 0) { .. }`. -/
def Window.cutLeft (info : RivatvInfo) (w : Window) : Option Window :=
  if w.x < 0 then do
    let skipped ← div? ((-w.x).toUInt32 * info.width) info.dWidth
    some { w with
      lwidth := (info.dWidth + w.x.toUInt32).toInt32, offset := w.offset + skipped <<< 1, x := 0 }
  else some w

/-- `if (y < 0) { .. }`. -/
def Window.cutTop (info : RivatvInfo) (w : Window) : Option Window :=
  if w.y < 0 then do
    let skipped ← div? ((-w.y).toUInt32 * info.height) info.dHeight
    some { w with
      lheight := (info.dHeight + w.y.toUInt32).toInt32
      offset := w.offset + (skipped * info.width) <<< 1, y := 0 }
  else some w

/-- The window for buffer `bufno`. -/
def windowOf (card : Card) (info : RivatvInfo) (bufno : UInt32) : Option Window := do
  let (x, y) := windowPos card info
  let w ← Window.cutLeft info
    { x := x, y := y, lwidth := info.dWidth.toInt32, lheight := info.dHeight.toInt32
      offset := bufno * info.bufferSize.toUInt32 }
  w.cutTop info

/-! ### Starting -/

/-- The window's corner, and its size, in one word. -/
def packed (high low : Int32) : UInt32 := high.toUInt32 <<< 16 ||| low.toUInt32

/-- The registers of the overlay from `NV_ARCH_10` on. -/
def programNv10 (s : State) (w : Window) : Option Pvideo := do
  let info := s.info
  let size := info.bufferSize.toUInt32
  let base := info.pictureOffset.toUInt32
  let pvideo := s.pvideo.write 0x900 (base + w.offset)
  let pvideo := pvideo.write 0x908 (base + w.offset + size - 1)
  -- "extra code for NV20 && NV30 architectures"
  let pvideo :=
    if info.arch = .nv20 ∨ info.arch = .nv30 then
      (pvideo.write 0x800 (base + w.offset)).write 0x808 (base + w.offset + size - 1)
    else pvideo
  let pvideo := (pvideo.write 0x910 s.eq.lum).write 0x918 s.eq.chrom
  let pvideo := (pvideo.write 0x920 0).write 0x928 (info.height <<< 16 ||| info.width)
  let pvideo := pvideo.write 0x930 0
  let dx ← div? (info.width <<< 20) info.dWidth
  let pvideo := pvideo.write 0x938 dx
  let dy ← div? (info.height <<< 20) info.dHeight
  let pvideo := pvideo.write 0x940 dy
  let pvideo := (pvideo.write 0x948 (packed w.y w.x)).write 0x950 (packed w.lheight w.lwidth)
  let value := info.pitch
  let value := if info.useColorkey then value ||| (1 : UInt32) <<< 20 else value
  let value := if info.format = imgfmtYUY2 then value ||| (1 : UInt32) <<< 16 else value
  let pvideo := pvideo.write 0x958 value
  some ((pvideo.write 0x704 0).write 0x700 0x01)

/-- The registers of the overlay before `NV_ARCH_10`. -/
def programNv03 (s : State) (w : Window) : Option Pvideo := do
  let info := s.info
  let base := info.pictureOffset.toUInt32
  let pvideo := ((s.pvideo.write 0x224 0).write 0x228 0).write 0x22C 0
  let pvideo := (pvideo.write 0x20C (base + w.offset)).write 0x210 (base + w.offset)
  let pvideo := (pvideo.write 0x214 info.pitch).write 0x218 info.pitch
  let pvideo := (pvideo.write 0x230 (packed w.y w.x)).write 0x234 (packed w.lheight w.lwidth)
  let yscale ← div? ((info.height - 1) <<< 11) (info.dHeight - 1)
  let xscale ← div? ((info.width - 1) <<< 11) (info.dWidth - 1)
  let pvideo := pvideo.write 0x200 (yscale <<< 16 ||| xscale)
  let pvideo := (pvideo.write 0x280 s.eq.redOff.toUInt32).write 0x284 s.eq.greenOff.toUInt32
  let pvideo := (pvideo.write 0x288 s.eq.blueOff.toUInt32).write 0x28C 0
  let pvideo := (pvideo.write 0x204 0x001).write 0x208 0x111
  let pvideo := (pvideo.write 0x23C 0x03).write 0x238 0x38
  let pvideo := (pvideo.write 0x21C 0).write 0x220 0
  let value : UInt32 := 0x1
  let value := if info.format = imgfmtYUY2 then value ||| 0x100 else value
  let value := if info.useColorkey then value ||| 0x10 else value
  let pvideo := pvideo.write 0x244 value
  some (pvideo.xor 0x228 ((1 : UInt32) <<< 16))

/-- `switch (info->chip.arch)`. -/
def program (s : State) (w : Window) : Option Pvideo :=
  match s.info.arch with
  | .nv10 | .nv20 | .nv30 => programNv10 s w
  | .nv03 | .nv04 => programNv03 s w

/-- The key in the format of the screen. -/
def colorkeyOf (depth chromakey : UInt32) : UInt32 :=
  let r := (chromakey &&& 0x00FF0000) >>> 16
  let g := (chromakey &&& 0x0000FF00) >>> 8
  let b := chromakey &&& 0x000000FF
  if depth = 15 then (r >>> 3) <<< 10 ||| (g >>> 3) <<< 5 ||| b >>> 3 ||| 0x00008000
  else if depth = 16 then (r >>> 3) <<< 11 ||| (g >>> 2) <<< 5 ||| b >>> 3 ||| 0x00008000
  else if depth = 24 then chromakey &&& 0x00FFFFFF ||| 0x00800000
  else if depth = 32 then chromakey ||| 0x80000000
  else 0

/-- `rivatv_overlay_colorkey`. -/
def rivatvOverlayColorkey (info : RivatvInfo) (pvideo : Pvideo) (chromakey : UInt32) : Pvideo :=
  pvideo.write (colorKeyReg info.arch) (colorkeyOf info.depth chromakey)

/-- `rivatv_overlay_start`. -/
def rivatvOverlayStart (card : Card) (s : State) (bufno : UInt32) : Option State := do
  let s := { s with info := nvGetscreenproperties card s.info }
  let w ← windowOf card s.info bufno
  let pvideo ← program s w
  some { s with pvideo := rivatvOverlayColorkey s.info pvideo s.info.vidixcolorkey }

/-! ### The calls -/

/-- `vixPlaybackOn`. -/
def vixPlaybackOn (card : Card) (s : State) : Option State :=
  rivatvOverlayStart card s s.info.curFrame

/-- `vixPlaybackOff`. -/
def vixPlaybackOff (s : State) : State := rivatvOverlayStop s

/-- `info->use_colorkey` and `info->vidixcolorkey` for the key of the application. -/
def setKey (info : RivatvInfo) (ckey : VidixCkey) : RivatvInfo :=
  if ckey.op = ckeyFalse then { info with useColorkey := false }
  else
    { info with
      useColorkey := true
      vidixcolorkey :=
        ckey.red.toUInt32 <<< 16 ||| ckey.green.toUInt32 <<< 8 ||| ckey.blue.toUInt32 }

/-- `vixSetGrKeys`. -/
def vixSetGrKeys (card : Card) (s : State) (ckey : VidixCkey) : Option State :=
  let s := { s with info := setKey s.info ckey }
  if s.info.dWidth ≠ 0 ∧ s.info.dHeight ≠ 0 then rivatvOverlayStart card s 0 else some s

/-- `vixPlaybackFrameSelect`. -/
def vixPlaybackFrameSelect (card : Card) (s : State) (frame : UInt32) : Option State := do
  let s ← rivatvOverlayStart card s frame
  some (if s.info.numFrames ≥ 1 then { s with info.curFrame := frame } else s)

/-- The calls of an application after `vixConfigPlayback`, each with what the card answers then. -/
inductive Call where
  | playbackOn (card : Card)
  | playbackOff
  | playbackFrameSelect (card : Card) (frame : UInt32)
  | setGrKeys (card : Card) (ckey : VidixCkey)

def State.call (s : State) : Call → Option State
  | .playbackOn card => vixPlaybackOn card s
  | .playbackOff => some (vixPlaybackOff s)
  | .playbackFrameSelect card frame => vixPlaybackFrameSelect card s frame
  | .setGrKeys card ckey => vixSetGrKeys card s ckey

end Vidix.Nvidia
