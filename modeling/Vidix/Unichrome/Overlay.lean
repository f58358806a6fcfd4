import Vidix.Unichrome.Config
import Mathlib.Logic.Function.Basic

/-!
# `unichrome_vid.c`: the overlay

What `vixConfigPlayback` does with the registers and with the static variables, and
`vixPlaybackFrameSelect`.  The registers behind `VIDEO_OUT` are a map from offsets to words, and
those of the sequencer one from indices to bytes.  Messages are left out, also the one for a layer
that is too large, which is configured all the same; and the driver is taken to find that the chip
has done its last command.
-/

namespace Vidix.Unichrome

open Util

/-! ### Registers -/

/-- The registers of the overlay, by their offset. -/
abbrev Video := UInt8 → UInt32

/-- `VIDEO_OUT`. -/
def videoOut (reg : UInt8) (val : UInt32) (vio : Video) : Video := Function.update vio reg val

/-- The sequencer. -/
abbrev Ports := UInt8 → UInt8

/-- `outb(reg, 0x3c4); outb(val, 0x3c5);`. -/
def outb (reg val : UInt8) (sr : Ports) : Ports := Function.update sr reg val

def v1ControlReg : UInt8 := 0x30
def v12QwordPerLine : UInt8 := 0x34
def v1Stride : UInt8 := 0x3C
def v1WinStartY : UInt8 := 0x40
def v1WinEndY : UInt8 := 0x44
def v1ZoomControl : UInt8 := 0x4C
def v1MiniControl : UInt8 := 0x50
def v1StartaddrY0 : UInt8 := 0x54
def vFifoControl : UInt8 := 0x58
def v1SourceHeight : UInt8 := 0x6C
def v1ColorSpaceReg1 : UInt8 := 0x84
def v1ColorSpaceReg2 : UInt8 := 0x88
def v1StartaddrCB0 : UInt8 := 0x8C
def vComposeMode : UInt8 := 0x98
def v1StartaddrCR0 : UInt8 := 0xF0

/-- `V1_STRIDE_YMASK`. -/
def v1StrideYmask : UInt32 := 0x00001fff

/-- `V1_STRIDE_UVMASK`. -/
def v1StrideUvmask : UInt32 := 0x1ff00000

/-- `V1_FETCH_COUNT`. -/
def v1FetchCount : UInt32 := 0x3ff00000

/-! ### The parts of `vixConfigPlayback` -/

/-- `ALIGN_TO(v, 16)`. -/
def alignTo16 (v : Int32) : Int32 := (v + 15) &&& ~~~15

def isPlanar (fourcc : UInt32) : Bool := fourcc == imgfmtYV12 || fourcc == imgfmtI420

/-- `uc_ovl_map_qwfetch` for a format that is supported. -/
def ucOvlMapQwfetch (format : UInt32) (sw : Int32) : UInt32 :=
  let fetch :=
    if isPlanar format then (alignTo32 sw >>> 4).toUInt32
    else if format == imgfmtBGR32 then (alignTo16 (sw <<< 2) >>> 4 + 1).toUInt32
    else (alignTo16 (sw <<< 1) >>> 4 + 1).toUInt32
  if fetch < 4 then 4 else fetch

def v1ColorspaceSign : UInt32 := 0x00000080
def v1CommandFire : UInt32 := 0x80000000

/-- `uc_ovl_map_format` for a format that is supported. -/
def ucOvlMapFormat (format : UInt32) : UInt32 :=
  if format == imgfmtUYVY || format == imgfmtYVYU || format == imgfmtYUY2 then
    v1ColorspaceSign ||| 0x00000000
  else if isPlanar format then v1ColorspaceSign ||| 0x00000010
  else if format == imgfmtBGR15 then 0x00000008
  else if format == imgfmtBGR16 then 0x0000000C
  else 0x00000004

/-- `UC_MAP_V1_FIFO_CONTROL`. -/
def ucMapV1FifoControl (depth preThr thr : UInt32) : UInt32 :=
  (depth - 1) ||| thr <<< (8 : UInt32) ||| preThr <<< (24 : UInt32)

/-- `uc_ovl_map_v1_control`: the values for `V1_CONTROL` and `V_FIFO_CONTROL`. -/
def ucOvlMapV1Control (format : UInt32) (sw : Int32) (hwrev : UInt8) (extfifoOn : Bool) :
    UInt32 × UInt32 :=
  let control :=
    (0x00400000 ||| ucOvlMapFormat format) |||
      if hwrev = 0x10 then 0x000f0000
      else if extfifoOn then 0x000a0000 ||| 0x00200000 else 0x00050000
  let fifo :=
    if isPlanar format then
      -- "Minified video will be skewed without this workaround."
      if sw ≤ 80 then ucMapV1FifoControl 16 0 0
      else if hwrev = 0x10 then ucMapV1FifoControl 64 56 56 else ucMapV1FifoControl 16 12 8
    else if hwrev = 0x10 then ucMapV1FifoControl 64 56 56
    else if extfifoOn then ucMapV1FifoControl 48 40 40 else ucMapV1FifoControl 32 29 16
  (control, fifo)

/-- The static variables, of which `frames` is an array and `mclk_save` has three bytes, and the
registers. -/
structure State where
  ucMem : UInt64
  hwrev : UInt8
  mclkSave : Fin 3 → UInt8
  frames : ℕ → Int32
  yOffs : Int32
  uOffs : Int32
  vOffs : Int32
  sr : Ports
  vio : Video

/-- `uc_ovl_setup_fifo`, and whether the extended FIFO is on. -/
def ucOvlSetupFifo (mclkSave : Fin 3 → UInt8) (dstW : Int32) (sr : Ports) : Ports × Bool :=
  if dstW ≤ 1024 then
    let sr := outb 0x16 (mclkSave 0) sr
    let sr := outb 0x17 (mclkSave 1) sr
    (outb 0x18 (mclkSave 2) sr, false)
  else
    let sr := outb 0x17 0x2f sr
    let sr := outb 0x16 ((mclkSave 0 &&& 0xf0) ||| 0x14) sr
    (outb 0x18 0x56 sr, true)

/-- "Configure diy_pitchlay parameters now". -/
def setColorSpace (hwrev : UInt8) (vCtrl : UInt32) (vio : Video) : Video :=
  if vCtrl &&& v1ColorspaceSign ≠ 0 then
    if hwrev ≥ 0x10 then
      videoOut v1ColorSpaceReg1 0x13000DED (videoOut v1ColorSpaceReg2 0x13171000 vio)
    else videoOut v1ColorSpaceReg1 0x140020f2 (videoOut v1ColorSpaceReg2 0x0a0a2c00 vio)
  else vio

/-! ### The whole calls -/

/-- `vixPlaybackFrameSelect`, which returns zero. -/
def vixPlaybackFrameSelect (s : State) (frame : ℕ) : State :=
  let vio := s.vio
  let vio := videoOut v1StartaddrY0 (s.frames frame + s.yOffs).toUInt32 vio
  let vio := videoOut v1StartaddrCB0 (s.frames frame + s.uOffs).toUInt32 vio
  let vio := videoOut v1StartaddrCR0 (s.frames frame + s.vOffs).toUInt32 vio
  { s with vio := videoOut vComposeMode (vio vComposeMode ||| v1CommandFire) vio }

/-- The registers that are written before the first frame is selected. -/
def writeOverlay (hwrev : UInt8) (extfifoOn : Bool) (info : VidixPlayback) (settings : Settings)
    (vio : Video) : Video :=
  let srcW := info.src.w.toInt32
  let srcH := info.src.h.toInt32
  let (vCtrl, fifoCtrl) := ucOvlMapV1Control info.fourcc srcW hwrev extfifoOn
  let winStart := info.dest.x <<< 16 ||| info.dest.y
  let winEnd :=
    (info.dest.x + info.dest.w - 1) <<< 16 ||| (info.dest.y + info.dest.h - 1)
  let qwfetch := ucOvlMapQwfetch info.fourcc srcW
  let vio := setColorSpace hwrev vCtrl vio
  let vio := videoOut v1ControlReg vCtrl vio
  let vio := videoOut vFifoControl fifoCtrl vio
  let vio := videoOut v1WinStartY winStart vio
  let vio := videoOut v1WinEndY winEnd vio
  let vio := videoOut v1SourceHeight ((srcH <<< 16).toUInt32 ||| settings.dcount.toUInt32) vio
  let vio := videoOut v12QwordPerLine (qwfetch <<< 20) vio
  let vio := videoOut v1Stride
    (settings.pitch ||| (settings.pitch >>> 1) <<< 16).toUInt64.toUInt32 vio
  let vio := videoOut v1MiniControl settings.mini vio
  videoOut v1ZoomControl settings.zoom vio

/-- What a call that succeeds leaves. -/
def State.program (s : State) (info : VidixPlayback) (settings : Settings) : State :=
  let (sr, extfifoOn) := ucOvlSetupFifo s.mclkSave info.src.w.toInt32 s.sr
  vixPlaybackFrameSelect
    { s with
      frames := fun i => (settings.frames[i]?).elim (s.frames i) UInt32.toInt32
      yOffs := settings.yOffs.toInt32
      uOffs := settings.uOffs.toInt32
      vOffs := settings.vOffs.toInt32
      sr := sr
      vio := writeOverlay s.hwrev extfifoOn info settings s.vio } 0

/-- The whole of `vixConfigPlayback`. -/
def configure (s : State) (info : VidixPlayback) : Option (ℤ × VidixPlayback × State) := do
  let (ret, info', settings) ← vixConfigPlayback s.ucMem info
  some (ret, info', settings.elim s (s.program info'))

end Vidix.Unichrome
