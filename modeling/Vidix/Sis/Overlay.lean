import Vidix.Sis.Scale
import Mathlib.Logic.Function.Basic

/-!
# `sis_vid.c`: the overlay

What `vixConfigPlayback` does with the registers and with the static variables, and
`vixPlaybackFrameSelect`.  The registers behind `SISVID` and `SISSR` are maps from indices to bytes.
On chips with two overlays a bit of `Index_VI_Control_Misc2` selects which of them is meant; the map
holds what was written last.  Messages are left out, and so are the fields of the overlay that
nothing reads.
-/

namespace Vidix.Sis

open Util

/-! ### Registers -/

/-- The registers behind a pair of ports. -/
abbrev Ports := UInt8 → UInt8

/-- `setvideoreg`. -/
def setvideoreg (reg data : UInt8) (vid : Ports) : Ports := Function.update vid reg data

/-- `setvideoregmask` and `setsrregmask`. -/
def setregmask (reg data mask : UInt8) (ports : Ports) : Ports :=
  Function.update ports reg ((data &&& mask) ||| (ports reg &&& ~~~mask))

def indexViWinHorDispStartLow : UInt8 := 0x01
def indexViWinHorDispEndLow : UInt8 := 0x02
def indexViWinHorOver : UInt8 := 0x03
def indexViWinVerDispStartLow : UInt8 := 0x04
def indexViWinVerDispEndLow : UInt8 := 0x05
def indexViWinVerOver : UInt8 := 0x06
def indexViDispYBufStartLow : UInt8 := 0x07
def indexViDispYBufStartMiddle : UInt8 := 0x08
def indexViDispYBufStartHigh : UInt8 := 0x09
def indexViUBufStartLow : UInt8 := 0x0A
def indexViUBufStartMiddle : UInt8 := 0x0B
def indexViUBufStartHigh : UInt8 := 0x0C
def indexViVBufStartLow : UInt8 := 0x0D
def indexViVBufStartMiddle : UInt8 := 0x0E
def indexViVBufStartHigh : UInt8 := 0x0F
def indexViDispYBufPitchLow : UInt8 := 0x10
def indexViDispUVBufPitchLow : UInt8 := 0x11
def indexViDispYUVBufPitchMiddle : UInt8 := 0x12
def indexViDispYBufPresetLow : UInt8 := 0x13
def indexViDispYBufPresetMiddle : UInt8 := 0x14
def indexViUVBufPresetLow : UInt8 := 0x15
def indexViUVBufPresetMiddle : UInt8 := 0x16
def indexViDispYUVBufPresetHigh : UInt8 := 0x17
def indexViHorPostUpScaleLow : UInt8 := 0x18
def indexViHorPostUpScaleHigh : UInt8 := 0x19
def indexViVerUpScaleLow : UInt8 := 0x1A
def indexViVerUpScaleHigh : UInt8 := 0x1B
def indexViScaleControl : UInt8 := 0x1C
def indexViPlayThresholdLow : UInt8 := 0x1D
def indexViPlayThresholdHigh : UInt8 := 0x1E
def indexViLineBufferSize : UInt8 := 0x1F
def indexViOverlayColorKeyRedMin : UInt8 := 0x20
def indexViOverlayColorKeyGreenMin : UInt8 := 0x21
def indexViOverlayColorKeyBlueMin : UInt8 := 0x22
def indexViOverlayColorKeyRedMax : UInt8 := 0x23
def indexViOverlayColorKeyGreenMax : UInt8 := 0x24
def indexViOverlayColorKeyBlueMax : UInt8 := 0x25
def indexViBrightness : UInt8 := 0x2D
def indexViContrastEnhCtrl : UInt8 := 0x2E
def indexViKeyOverlayOP : UInt8 := 0x2F
def indexViControlMisc0 : UInt8 := 0x30
def indexViControlMisc1 : UInt8 := 0x31
def indexViControlMisc2 : UInt8 := 0x32
def indexViYBufStartOver : UInt8 := 0x6B
def indexViUBufStartOver : UInt8 := 0x6C
def indexViVBufStartOver : UInt8 := 0x6D
def indexViDispYBufPitchHigh : UInt8 := 0x6E
def indexViDispUVBufPitchHigh : UInt8 := 0x6F
def indexViHue : UInt8 := 0x70
def indexViSaturation : UInt8 := 0x71
def indexViControlMisc3 : UInt8 := 0x74

/-! ### The equalizer -/

/-- `set_brightness`. -/
def setBrightness (brightness : UInt8) : Ports → Ports := setvideoreg indexViBrightness brightness

/-- `set_contrast`. -/
def setContrast (contrast : UInt8) : Ports → Ports :=
  setregmask indexViContrastEnhCtrl contrast 0x07

/-- `set_saturation`. -/
def setSaturation (saturation : Int8) : Ports → Ports :=
  let temp : UInt8 := if saturation < 0 then 0x88 else 0
  let saturation := if saturation < 0 then -saturation else saturation
  let low := (saturation &&& 0x07).toUInt8
  setvideoreg indexViSaturation (temp ||| low ||| low <<< 4)

/-- `set_hue`. -/
def setHue (hue : UInt8) : Ports → Ports :=
  setvideoreg indexViHue (if hue &&& 0x08 ≠ 0 then hue ^^^ 0x07 else hue)

/-- The registers that `vixPlaybackSetEq` sets for `sis_equal`. -/
def equalize (engine : VgaEngine) (sisEqual : VideoEq) (vid : Ports) : Ports :=
  let cr := clamp 0 7 ((sisEqual.contrast + 1000) * 7 / 2000)
  let br := clamp (-128) 127 (sisEqual.brightness * 127 / 1000)
  let sat := clamp (-7) 7 (sisEqual.saturation * 7 / 1000)
  let hue := clamp (-8) 7 (sisEqual.hue * 7 / 1000)
  let vid := setBrightness br.toUInt32.toUInt8 vid
  let vid := setContrast cr.toUInt32.toUInt8 vid
  if engine = .sis315 then setHue hue.toUInt32.toUInt8 (setSaturation sat.toInt8 vid) else vid

/-! ### The state -/

/-- The static variables, of which `sis_frames` is an array, and the registers. -/
structure State where
  driver : Driver
  sisShiftValue : UInt32
  sisBridgeIsSlave : Bool
  sisFormat : UInt32
  sisYoff : Int32
  sisVoff : Int32
  sisUoff : Int32
  sisFrames : ℕ → Int32
  sisGrkey : VidixCkey
  sisEqual : VideoEq
  vid : Ports
  sr : Ports
  part1 : Ports

/-! ### The display mode -/

/-- `VB_VIDEOBRIDGE`. -/
def vbVideobridge : UInt32 := 0x07DC0000

/-- `VB_DISPMODE_MIRROR`. -/
def vbDispmodeMirror : UInt32 := 0x10000000

/-- `DISPTYPE_DISP1`. -/
def disptypeDisp1 : UInt32 := disptypeCrt1

/-- `DISPTYPE_DISP2`. -/
def disptypeDisp2 : UInt32 := 0x0000000E

/-- `bridge_in_slave_mode`. -/
def bridgeInSlaveMode (d : Driver) (part1 : Ports) : Bool :=
  if d.sisVbflags &&& vbVideobridge = 0 then false
  else (d.sisVgaEngine == .sis300 && part1 0x00 &&& 0xa0 == 0x20) ||
    (d.sisVgaEngine == .sis315 && part1 0x00 &&& 0x50 == 0x10)

/-- `set_dispmode`. -/
def setDispmode (d : Driver) (slave : Bool) : DispMode :=
  if d.sisVbflags &&& vbDispmodeMirror ≠ 0 ∨ slave = true ∧ d.sisVbflags &&& disptypeDisp2 ≠ 0 then
    if d.sisHasTwoOverlays then .mirror else if !d.sisOverlayOnCrt1 then .single2 else .single1
  else if d.sisVbflags &&& disptypeDisp1 ≠ 0 then .single1
  else .single2

/-- `set_disptype_regs`. -/
def setDisptypeRegs (mode : DispMode) (two : Bool) (sr : Ports) : Ports :=
  let data : UInt8 :=
    match mode with
    | .single1 => 0x00
    | .single2 => if two then 0x80 else 0x40
    | .mirror => 0x80
  setregmask 0x32 data 0xc0 (setregmask 0x06 data 0xc0 sr)

/-- What `init_overlay` does for each of the overlays, of which `select` is the number. -/
def initOne (engine : VgaEngine) (select : UInt8) (vid : Ports) : Ports :=
  let vid := setregmask indexViControlMisc2 (0x80 ||| select) 0x81 vid
  let vid := setregmask indexViControlMisc0 0x00 0x02 vid
  let vid := setregmask indexViControlMisc1 0x02 0x02 vid
  let vid := setregmask indexViScaleControl 0x60 0x60 vid
  let vid := setregmask indexViContrastEnhCtrl 0x04 0x1F vid
  let vid := setvideoreg indexViDispYBufPresetLow 0x00 vid
  let vid := setvideoreg indexViDispYBufPresetMiddle 0x00 vid
  let vid := setvideoreg indexViUVBufPresetLow 0x00 vid
  let vid := setvideoreg indexViUVBufPresetMiddle 0x00 vid
  let vid := setvideoreg indexViDispYUVBufPresetHigh 0x00 vid
  let vid := setvideoreg indexViPlayThresholdLow 0x00 vid
  let vid := setvideoreg indexViPlayThresholdHigh 0x00 vid
  let vid := setregmask indexViControlMisc2 select 0x01 vid
  let vid := setregmask indexViContrastEnhCtrl 0x04 0x07 vid
  let vid := setvideoreg indexViBrightness 0x20 vid
  if engine = .sis315 then
    setvideoreg indexViSaturation 0x00 (setvideoreg indexViHue 0x00 vid)
  else vid

/-- `init_overlay`. -/
def initOverlay (engine : VgaEngine) (two : Bool) (vid : Ports) : Ports :=
  let vid := initOne engine 0 vid
  if two then initOne engine 1 vid else vid

/-! ### The parts of `vixConfigPlayback` -/

/-- `setvideoregmask(Index_VI_Control_Misc2, misc2, 0x11)` and
`setvideoregmask(Index_VI_Control_Misc1, misc1, 0x04)`. -/
def mergeBits (misc2 misc1 : UInt8) (vid : Ports) : Ports :=
  setregmask indexViControlMisc1 misc1 0x04 (setregmask indexViControlMisc2 misc2 0x11 vid)

/-- `merge_line_buf`. -/
def mergeLineBuf (enable : Bool) (mode : DispMode) (two : Bool) (vid : Ports) : Ports :=
  if enable then
    match mode with
    | .single1 => mergeBits 0x10 0x00 vid
    | .single2 => if two then mergeBits 0x01 0x04 vid else mergeBits 0x10 0x00 vid
    | .mirror =>
      let vid := mergeBits 0x00 0x04 vid
      if two then mergeBits 0x01 0x04 vid else vid
  else
    match mode with
    | .single1 => mergeBits 0x00 0x00 vid
    | .single2 => if two then mergeBits 0x01 0x00 vid else mergeBits 0x00 0x00 vid
    | .mirror =>
      let vid := mergeBits 0x00 0x00 vid
      if two then mergeBits 0x01 0x00 vid else vid

/-- `set_format`. -/
def setFormat (pixelFormat : UInt32) : Ports → Ports :=
  setregmask indexViControlMisc0
    (if isPlanar pixelFormat then 0x0c
      else if pixelFormat = imgfmtYUY2 then 0x28
      else if pixelFormat = imgfmtUYVY then 0x08
      else if pixelFormat = imgfmtRGB15 then 0x00
      else if pixelFormat = imgfmtRGB16 then 0x10
      else 0x00) 0x7c

/-- `VI_ROP_DestKey` or `VI_ROP_Always`. -/
def keyOPOf (ckey : VidixCkey) : UInt8 := if ckey.op = ckeyTrue then 0x03 else 0x0F

/-- `set_colorkey`. -/
def setColorkey (ckey : VidixCkey) (vid : Ports) : Ports :=
  let vid := setregmask indexViKeyOverlayOP (keyOPOf ckey) 0x0F vid
  let vid := setvideoreg indexViOverlayColorKeyBlueMin ckey.blue vid
  let vid := setvideoreg indexViOverlayColorKeyGreenMin ckey.green vid
  let vid := setvideoreg indexViOverlayColorKeyRedMin ckey.red vid
  let vid := setvideoreg indexViOverlayColorKeyBlueMax ckey.blue vid
  let vid := setvideoreg indexViOverlayColorKeyGreenMax ckey.green vid
  setvideoreg indexViOverlayColorKeyRedMax ckey.red vid

/-- "Unlock address registers". -/
def unlock (engine : VgaEngine) (vid : Ports) : Ports :=
  let data := vid indexViControlMisc1
  let vid := setvideoreg indexViControlMisc1 (data ||| 0x20) vid
  -- "TEST: Is this required?"
  let vid := setvideoreg indexViControlMisc1 (data ||| 0x20) vid
  if engine = .sis315 then setvideoreg indexViControlMisc3 0x00 vid else vid

/-- "Trigger register copy for 310 series". -/
def trigger (engine : VgaEngine) (index : UInt8) (vid : Ports) : Ports :=
  if engine = .sis315 then setvideoreg indexViControlMisc3 (1 <<< index) vid else vid

/-- "Set Y start address". -/
def setYStart (psy : UInt32) (vid : Ports) : Ports :=
  let vid := setvideoreg indexViDispYBufStartLow psy.toUInt8 vid
  let vid := setvideoreg indexViDispYBufStartMiddle (psy >>> 8).toUInt8 vid
  setvideoreg indexViDispYBufStartHigh (psy >>> 16).toUInt8 vid

/-- "310/325 series overflow bits for Y plane". -/
def setYOver (psy : UInt32) : Ports → Ports :=
  setvideoreg indexViYBufStartOver ((psy >>> 24).toUInt8 &&& 0x01)

/-- "Set U/V start address". -/
def setUVStart (psu psv : UInt32) (vid : Ports) : Ports :=
  let vid := setvideoreg indexViUBufStartLow psu.toUInt8 vid
  let vid := setvideoreg indexViUBufStartMiddle (psu >>> 8).toUInt8 vid
  let vid := setvideoreg indexViUBufStartHigh (psu >>> 16).toUInt8 vid
  let vid := setvideoreg indexViVBufStartLow psv.toUInt8 vid
  let vid := setvideoreg indexViVBufStartMiddle (psv >>> 8).toUInt8 vid
  setvideoreg indexViVBufStartHigh (psv >>> 16).toUInt8 vid

/-- "310/325 series overflow bits". -/
def setUVOver (psu psv : UInt32) (vid : Ports) : Ports :=
  let vid := setvideoreg indexViUBufStartOver ((psu >>> 24).toUInt8 &&& 0x01) vid
  setvideoreg indexViVBufStartOver ((psv >>> 24).toUInt8 &&& 0x01) vid

/-- The edges of the window, doubled and halved as `sis_vmode` wants them. -/
def verEdge (vmode : UInt32) (y : UInt16) : UInt16 :=
  let y := if vmode &&& vmodeDoublescan ≠ 0 then y <<< 1 else y
  if vmode &&& vmodeInterlaced ≠ 0 then y >>> 1 else y

/-- `set_overlay`, as far as the trigger. -/
def setAddresses (d : Driver) (shiftValue : UInt32) (o : SISOverlayRec) (vid : Ports) : Ports :=
  let pitch := o.pitch >>> shiftValue.toUInt16
  let vid := setvideoreg indexViDispYBufPitchLow pitch.toUInt8 vid
  let vid := setregmask indexViDispYUVBufPitchMiddle (pitch >>> 8).toUInt8 0x0f vid
  let vid := setYStart o.psy vid
  let vid :=
    if d.sisVgaEngine = .sis315 then
      setYOver o.psy (setvideoreg indexViDispYBufPitchHigh (pitch >>> 12).toUInt8 vid)
    else vid
  if isPlanar o.pixelFormat then
    let vid := setvideoreg indexViDispUVBufPitchLow (pitch >>> 1).toUInt8 vid
    let vid := setregmask indexViDispYUVBufPitchMiddle (pitch >>> 5).toUInt8 0xf0 vid
    let vid := setUVStart o.psu o.psv vid
    if d.sisVgaEngine = .sis315 then
      setUVOver o.psu o.psv (setvideoreg indexViDispUVBufPitchHigh (pitch >>> 13).toUInt8 vid)
    else vid
  else vid

/-- `set_overlay`. -/
def setOverlay (d : Driver) (shiftValue : UInt32) (o : SISOverlayRec) (index : UInt8)
    (vid : Ports) : Ports :=
  let screenX := d.sisScreenWidth.toUInt16
  let screenY := d.sisScreenHeight.toUInt16
  let bottom := min o.dstBox.y2.toUInt16 screenY
  let right := min o.dstBox.x2.toUInt16 screenX
  let left := o.dstBox.x1.toUInt16
  let top := verEdge d.sisVmode o.dstBox.y1.toUInt16
  let bottom := verEdge d.sisVmode bottom
  let hOver := ((left >>> (8 : UInt16)) &&& 0x0f ||| (right >>> (4 : UInt16)) &&& 0xf0).toUInt8
  let vOver := ((top >>> (8 : UInt16)) &&& 0x0f ||| (bottom >>> (4 : UInt16)) &&& 0xf0).toUInt8
  let vid := setvideoreg indexViLineBufferSize o.lineBufSize vid
  let vid := setregmask indexViKeyOverlayOP o.keyOP 0x0F vid
  let vid := setAddresses d shiftValue o (unlock d.sisVgaEngine vid)
  let vid := trigger d.sisVgaEngine index vid
  let vid := setvideoreg indexViHorPostUpScaleLow o.husf.toUInt8 vid
  let vid := setvideoreg indexViHorPostUpScaleHigh (o.husf >>> 8).toUInt8 vid
  let vid := setvideoreg indexViVerUpScaleLow o.vusf.toUInt8 vid
  let vid := setvideoreg indexViVerUpScaleHigh (o.vusf >>> 8).toUInt8 vid
  let vid := setregmask indexViScaleControl (o.intBit <<< 3 ||| o.wHPre) 0x7f vid
  let vid := setvideoreg indexViWinHorDispStartLow left.toUInt8 vid
  let vid := setvideoreg indexViWinHorDispEndLow right.toUInt8 vid
  let vid := setvideoreg indexViWinHorOver hOver vid
  let vid := setvideoreg indexViWinVerDispStartLow top.toUInt8 vid
  let vid := setvideoreg indexViWinVerDispEndLow bottom.toUInt8 vid
  let vid := setvideoreg indexViWinVerOver vOver vid
  let vid := setregmask indexViControlMisc1 o.bobEnable 0x1a vid
  setregmask indexViControlMisc1 0x00 0x20 vid

/-! ### The whole calls -/

/-- `(sis_frames[frame] + offset) >> sis_shift_value`. -/
def startOf (frame offset : Int32) (shiftValue : UInt32) : UInt32 :=
  ((frame + offset) >>> shiftValue.toInt32).toUInt32

/-- What is done before the frames are laid out. -/
def State.prepare (s : State) : State :=
  let engine := s.driver.sisVgaEngine
  let cap := s.sisEqual.cap
  let slave := bridgeInSlaveMode s.driver s.part1
  let mode := setDispmode s.driver slave
  { s with
    driver := { s.driver with sisDisplaymode := mode }
    sisShiftValue := if engine = .sis315 then 1 else 2
    sisEqual :=
      { s.sisEqual with
        cap := if engine = .sis315 then cap ||| (veqCapSaturation ||| veqCapHue) else cap }
    sisBridgeIsSlave := slave
    sr := setDisptypeRegs mode s.driver.sisHasTwoOverlays s.sr
    vid := initOverlay engine s.driver.sisHasTwoOverlays s.vid }

/-- The frames are stored, also by a call that fails afterwards. -/
def State.storeFrames (s : State) (info : VidixPlayback) : State :=
  { s with
    sisFrames := fun i => (info.offsets[i]?).elim (s.sisFrames i) fun o => dgaOffset + o.toInt32
    sisFormat := info.fourcc }

/-- `sis_Yoff`, `sis_Voff` and `sis_Uoff`; the last two are left alone by a packed format. -/
def State.storeOffsets (s : State) (offset : VidixYuv) : State :=
  let planar := isPlanar s.sisFormat
  { s with
    sisYoff := offset.y.toInt32
    sisVoff := if planar then offset.u.toInt32 else s.sisVoff
    sisUoff := if planar then offset.v.toInt32 else s.sisUoff }

/-- The overlay before it is scaled. -/
def State.overlayOf (s : State) (o : Overlay) : SISOverlayRec :=
  let planar := isPlanar o.pixelFormat
  { o with
    keyOP := keyOPOf s.sisGrkey
    husf := 0, vusf := 0, intBit := 0, wHPre := 0, bobEnable := 0, lineBufSize := 0
    psy := startOf (s.sisFrames 0) s.sisYoff s.sisShiftValue
    psv := if planar then startOf (s.sisFrames 0) s.sisVoff s.sisShiftValue else 0
    psu := if planar then startOf (s.sisFrames 0) s.sisUoff s.sisShiftValue else 0 }

/-- The number of the overlay that is used. -/
def overlayIndex (mode : DispMode) (two : Bool) : UInt8 :=
  if mode = .single2 ∧ two = true then 1 else 0

/-- The registers that are written once the overlay is scaled. -/
def State.writeOverlay (s : State) (o : SISOverlayRec) (vid : Ports) : State :=
  let index := overlayIndex s.driver.sisDisplaymode s.driver.sisHasTwoOverlays
  let sisEqual := s.sisEqual.take s.sisEqual
  let vid := setregmask indexViControlMisc2 index 0x01 vid
  let vid := setColorkey s.sisGrkey (setFormat o.pixelFormat vid)
  let vid := equalize s.driver.sisVgaEngine sisEqual vid
  let vid := setOverlay s.driver s.sisShiftValue o index vid
  -- "prevent badness if bits are not at default setting"
  let vid := setregmask indexViControlMisc1 0x00 0x01 vid
  { s with sisEqual, vid := setregmask indexViControlMisc2 0x00 0x04 vid }

/-- The whole of `vixConfigPlayback`. -/
def configure (s : State) (info : VidixPlayback) : Option (ℤ × VidixPlayback × State) := do
  let (ret, info', overlay) ← vixConfigPlayback s.driver.sisMemBase info
  if !isSupportedFourcc info.fourcc then some (ret, info', s)
  else
    let s := s.prepare.storeFrames info'
    match overlay with
    | none => some (ret, info', s)
    | some overlay => do
      let s := s.storeOffsets info'.offset
      let o := s.overlayOf overlay
      let vid :=
        mergeLineBuf (o.srcW > 384) s.driver.sisDisplaymode s.driver.sisHasTwoOverlays s.vid
      let o ← calcScaleFactor s.driver.sisVgaEngine s.driver.sisVmode (setLineBufSize o)
      some (ret, info', s.writeOverlay o vid)

/-- `vixPlaybackFrameSelect`, which returns zero. -/
def vixPlaybackFrameSelect (s : State) (frame : ℕ) : State :=
  let engine := s.driver.sisVgaEngine
  let psy := startOf (s.sisFrames frame) s.sisYoff s.sisShiftValue
  let index := overlayIndex s.driver.sisDisplaymode s.driver.sisHasTwoOverlays
  let vid := setYStart psy (unlock engine s.vid)
  let vid := if engine = .sis315 then setYOver psy vid else vid
  let vid :=
    if isPlanar s.sisFormat then
      let psu := startOf (s.sisFrames frame) s.sisUoff s.sisShiftValue
      let psv := startOf (s.sisFrames frame) s.sisVoff s.sisShiftValue
      let vid := setUVStart psu psv vid
      if engine = .sis315 then setUVOver psu psv vid else vid
    else vid
  { s with vid := setregmask indexViControlMisc1 0x00 0x20 (trigger engine index vid) }

end Vidix.Sis
