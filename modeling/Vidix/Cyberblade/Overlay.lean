import Vidix.Cyberblade.Config
import Mathlib.Logic.Function.Basic

/-!
# `cyberblade_vid.c`: the overlay

What `vixConfigPlayback` does with the registers and with the static variables, and
`vixPlaybackFrameSelect`.  The registers that are reached with `CROUTB` and with `SROUTB` are maps
from indices to bytes.  Messages are left out, and so is what the driver computes and does not use.
-/

namespace Vidix.Cyberblade

open Util

/-! ### Registers -/

/-- The registers behind a pair of ports. -/
abbrev Ports := UInt8 → UInt8

/-- `CROUTB` and `SROUTB`. -/
def outb (reg val : UInt8) (ports : Ports) : Ports := Function.update ports reg val

/-- The low byte of an `int`. -/
def lowByte (x : Int32) : UInt8 := x.toUInt32.toUInt8

/-- `CROUTW` and `SROUTW`. -/
def outw (reg : UInt8) (val : Int32) (ports : Ports) : Ports :=
  outb (reg + 1) (lowByte (val >>> 8)) (outb reg (lowByte val) ports)

/-- What is done between `SROUTB(0x11, 0x92)` and `SROUTB(0x11, protect)`. -/
def unprotected (f : Ports → Ports) (sr : Ports) : Ports :=
  outb 0x11 (sr 0x11) (f (outb 0x11 0x92 sr))

/-! ### The parts of `vixConfigPlayback` -/

/-- `vixSetGrKeys` for a screen of the format that is in the register 0x38. -/
def setGrKeys (ckey : VidixCkey) (pixfmt : UInt8) : Ports → Ports :=
  unprotected fun sr =>
    let blue := ckey.blue.toUInt32
    let green := ckey.green.toUInt32
    let red := ckey.red.toUInt32
    if pixfmt &&& 0x28 ≠ 0 then
      let sr := outb 0x50 ckey.blue sr
      let sr := outb 0x51 ckey.green sr
      let sr := outb 0x52 ckey.red sr
      let sr := outb 0x54 0xff sr
      let sr := outb 0x55 0xff sr
      outb 0x56 0xff sr
    else
      let tmp := (blue &&& 0xF8) >>> 3 ||| (green &&& 0xfc) <<< 3 ||| (red &&& 0xf8) <<< 8
      let sr := outb 0x50 tmp.toUInt8 sr
      let sr := outb 0x51 (tmp >>> 8).toUInt8 sr
      let sr := outb 0x52 0 sr
      let sr := outb 0x54 0xff sr
      let sr := outb 0x55 0xff sr
      outb 0x56 0x00 sr

/-- `vixPlaybackSetEq` for the values that `equal` has already. -/
def setEq (brightness contrast : Int32) : Ports → Ports :=
  let cr := contrast * 31 / 2000 + 16
  let cr := if cr < 0 then 0 else cr
  let cr := if cr > 7 then 7 else cr
  let br := (brightness + 1000) * 63 / 2000
  let br := if br < 0 then 0 else br
  let br := if br > 63 then 63 else br
  let br := if br > 32 then br - 32 else br + 32
  unprotected fun sr => outw 0xB0 (br <<< 10 ||| 4) (outb 0xBC (lowByte (cr <<< 4 ||| cr)) sr)

/-- A register of the display as an `int`. -/
def crtc (cr : Ports) (reg : UInt8) : Int32 := (cr reg).toUInt32.toInt32

/-- `HWinStart`, for a television set or for a monitor. -/
def hWinStart (cr : Ports) : Int32 :=
  let hTotal := crtc cr 0x00 <<< 3
  let hSync := crtc cr 0x04 <<< 3
  if cr 0xd1 &&& 0x80 ≠ 0 then
    let hDisp := (1 + crtc cr 0x01) * 8
    let tvHTotal := crtc cr 0xe0 * 8 + 40
    let tvHSyncStart := crtc cr 0xe4 * 8
    (((tvHTotal - hDisp) &&& 15) ||| ((hTotal - hDisp) &&& 15)) + ((tvHTotal - tvHSyncStart) - 49)
  else (hTotal - hSync) + 15

/-- `VWinStart`. -/
def vWinStart (cr : Ports) : Int32 :=
  let overflow := crtc cr 0x07
  let vTotal :=
    (crtc cr 0x06 ||| (overflow &&& 1) <<< 8 ||| (overflow &&& 0x20) <<< 4) + 4
  let vSync := crtc cr 0x10 ||| (overflow &&& 4) <<< 6 ||| (overflow &&& 0x80) <<< 2
  (vTotal - vSync) - 8

/-- The place of the window on the screen. -/
def setWindow (dest : VidixRect) (cr : Ports) : Ports :=
  let tx1 := hWinStart cr + dest.x.toInt32
  let ty1 := vWinStart cr + dest.y.toInt32
  let tx2 := tx1 + dest.w.toInt32
  let ty2 := ty1 + dest.h.toInt32
  let cr := outw 0x86 tx1 cr
  let cr := outw 0x88 ty1 cr
  let cr := outw 0x8a tx2 cr
  outw 0x8c (ty2 + 3) cr

/-- The three registers of a "start address", which leave out its lower three bits. -/
def setStart (low middle high : UInt8) (start : Int64) (ports : Ports) : Ports :=
  let ports := outb low ((start >>> 3) &&& 0xff).toUInt64.toUInt8 ports
  let ports := outb middle ((start >>> 11) &&& 0xff).toUInt64.toUInt8 ports
  outb high ((start >>> 19) &&& 0xf).toUInt64.toUInt8 ports

/-- The start addresses of V and U. -/
def setChromaStarts (v u : Int64) (sr : Ports) : Ports :=
  setStart 0x83 0x84 0x85 u (setStart 0x80 0x81 0x82 v sr)

/-! ### The whole calls -/

/-- The static variables, of which `frames` is an array and `equal` is here the two values that are
used, and the registers. -/
structure State where
  cyberbladeMem : UInt64
  frames : ℕ → Int32
  grkey : VidixCkey
  brightness : Int32
  contrast : Int32
  yOffs : Int32
  uOffs : Int32
  vOffs : Int32
  cr : Ports
  sr : Ports

/-- "Now set the start address and data layout": the registers that are written with `CROUTB`.  The
`long` that an address is computed in is wider than what the registers take of it. -/
def setLayoutCr (fourcc : UInt32) (planes : Planes) (cr : Ports) : Ports :=
  let lb := (planes.yPitch + 2) >>> 2
  let bgr16 := fourcc == imgfmtBGR16
  let cr := outb 0x95 (lowByte ((lb &&& 0x100) >>> 1 ||| 0x08)) cr
  let cr := outb 0x96 (lowByte (lb &&& 0xFF)) cr
  let cr := outb 0x97 0x00 cr
  let cr := outb 0xBA 0x00 cr
  let cr := outb 0xBB 0x00 cr
  let cr := outb 0xBC 0xFF cr
  let cr := outb 0xBD 0xFF cr
  let cr := outb 0xBE 0x04 cr
  let cr := outw 0x90 planes.yPitch cr
  let cr := outb 0x8F (if bgr16 then 0x24 else 0x20) cr
  let cr := outb 0xBF (if bgr16 then 0x02 else 0x00) cr
  setStart 0x92 0x93 0x94 (base0.toUInt64 + planes.offset.y.toUInt64).toInt64 cr

/-- The registers that are written with `SROUTB`. -/
def setLayoutSr (planes : Planes) (layout : Int32) (sr : Ports) : Ports :=
  let sr := outb 0x97 (lowByte layout) sr
  let sr := outw 0x9A planes.uvPitch sr
  let sr := outb 0xBE 0x00 sr
  setChromaStarts (base0.toUInt64 + planes.offset.v.toUInt64).toInt64
    (base0.toUInt64 + planes.offset.u.toUInt64).toInt64 sr

/-- What a call that succeeds leaves. -/
def State.program (s : State) (info : VidixPlayback) (settings : Settings) : State :=
  let planes := settings.planes
  let cr := outb 0x39 (s.cr 0x39 ||| 1) s.cr
  let pixfmt := cr 0x38
  let cr := setWindow info.dest cr
  let cr := outw 0x82 settings.vscale (outw 0x80 settings.hscale cr)
  let sr := s.sr |> unprotected fun sr =>
    let sr := outb 0x57 0xc0 sr
    let sr := outb 0x21 0x34 sr
    let sr := outb 0x37 0x30 sr
    let sr := setGrKeys s.grkey pixfmt sr
    let sr := setLayoutSr planes settings.layout sr
    setEq s.brightness s.contrast sr
  { s with
    frames := fun i => (settings.frames[i]?).elim (s.frames i) UInt32.toInt32
    yOffs := planes.offset.y.toInt32
    uOffs := planes.offset.u.toInt32
    vOffs := planes.offset.v.toInt32
    cr := setLayoutCr info.fourcc planes cr
    sr := sr }

/-- The whole of `vixConfigPlayback`. -/
def configure (s : State) (info : VidixPlayback) : Option (ℤ × VidixPlayback × State) := do
  let (ret, info', settings) ← vixConfigPlayback s.cyberbladeMem info
  some (ret, info', settings.elim s (s.program info'))

/-- `vixPlaybackFrameSelect`, which returns zero. -/
def vixPlaybackFrameSelect (s : State) (frame : ℕ) : State :=
  { s with
    cr := setStart 0x92 0x93 0x94 (s.frames frame + s.yOffs).toInt64 s.cr
    sr := s.sr |> unprotected (setChromaStarts (s.frames frame + s.vOffs).toInt64
      (s.frames frame + s.uOffs).toInt64) }

end Vidix.Cyberblade
