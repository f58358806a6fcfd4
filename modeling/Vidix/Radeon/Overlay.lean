import Vidix.Radeon.Config
import Vidix.Radeon.FrameSelect

/-!
# `radeon_vid.c`: the overlay

What `radeon_vid_init_video` notes about the format, and the calls that follow a configuration:
`vixPlaybackOn`, `vixPlaybackOff`, `vixPlaybackFrameSelect`, the colour key and the deinterlacing.
Of the registers there are those that say whether and from where a picture is fetched, and those of
the key and of the deinterlacing; the window, the scaler and its filters, whose values are computed
in floating point, are left out, and so are the waits and the lock of the registers.
-/

namespace Vidix.Radeon

/-! ### The registers -/

def scalerPixExpand : UInt32 := 0x00000001
def scalerY2rTemp : UInt32 := 0x00000002
def scalerSurfacFormat : UInt32 := 0x00000f00
def scalerAdaptiveDeint : UInt32 := 0x00001000
def scalerUseOv1 : UInt32 := 0x00004000
def scalerSmartSwitch : UInt32 := 0x00008000
def scalerDoubleBuffer : UInt32 := 0x01000000
def scalerPrgLoadStart : UInt32 := 0x10000000
def scalerEnable : UInt32 := 0x40000000
def scalerSoftReset : UInt32 := 0x80000000

def videoKeyFnTrue : UInt32 := 0x00000001
def graphicKeyFnTrue : UInt32 := 0x00000010
def graphicKeyFnEq : UInt32 := 0x00000020
def cmpMixAnd : UInt32 := 0x00000100

/-- `OV0_SWAP_UV`. -/
def ov0SwapUv : UInt32 := 0x00000020

/-- The registers `OV0_SCALE_CNTL`, `OV0_VID_BUF0_BASE_ADRS` and so on, and `DISP_MERGE_CNTL`. -/
structure Ov0 where
  scaleCntl : UInt32
  vidBufBaseAdrs : Ov0BaseAdrs
  vidBufPitch0Value : UInt32
  vidBufPitch1Value : UInt32
  deinterlacePattern : UInt32
  graphicsKeyMsk : UInt32
  graphicsKeyClr : UInt32
  keyCntl : UInt32
  dispMergeCntl : UInt32
  test : UInt32
  deriving DecidableEq, Repr

/-! ### The static variables -/

/-- The rest of `bes_registers_t`, as far as it is used here. -/
structure Bes where
  surfId : UInt32
  loadPrgStart : Bool
  swapUv : Bool
  deinterlaceOn : Bool
  deinterlacePattern : UInt32
  ckeyOn : Bool
  graphicsKeyMsk : UInt32
  graphicsKeyClr : UInt32
  ckeyCntl : UInt32
  mergeCntl : UInt32
  deriving DecidableEq, Repr

/-- `SCALER_SOURCE_32BPP>>8` and so on. -/
def surfIdOf (fourcc : UInt32) : UInt32 :=
  if fourcc == imgfmtRGB15 || fourcc == imgfmtBGR15 then 3
  else if fourcc == imgfmtRGB16 || fourcc == imgfmtBGR16 then 4
  else if isRgb32 fourcc then 6
  else if is410 fourcc then 9
  else if is400 fourcc || is420 fourcc then 10
  else if fourcc == imgfmtYVYU || fourcc == imgfmtUYVY then 12
  else 11

/-- The formats whose red and blue are exchanged. -/
def isSwapped (fourcc : UInt32) : Bool :=
  fourcc == imgfmtRGB15 || fourcc == imgfmtRGB16 || fourcc == imgfmtRGB32

/-- What `radeon_vid_init_video` notes about the format. -/
def Bes.noteFormat (bes : Bes) (fourcc : UInt32) : Bes :=
  let surfId := surfIdOf fourcc
  { bes with
    surfId := surfId
    loadPrgStart := surfId == 3 || surfId == 4 || surfId == 6
    swapUv := isSwapped fourcc }

/-- The static variables, the chip flag `R_1X0` and the registers.  `left` is what the tables of
base addresses hold behind the frames. -/
structure State where
  driver : Driver
  left : ℕ → PlaneAdrs
  bes : Bes
  radeonGrkey : VidixCkey
  r1x0 : Bool
  regs : Ov0

/-! ### On and off -/

/-- `radeon_vid_stop_video`. -/
def radeonVidStopVideo (regs : Ov0) : Ov0 :=
  { regs with scaleCntl := scalerSoftReset, keyCntl := graphicKeyFnEq, test := 0 }

/-- `bes_flags`.  `besr.horz_pick_nearest` and `besr.vert_pick_nearest` are always zero. -/
def besFlags (doubleBuff : Bool) (bes : Bes) : UInt32 :=
  let flags := scalerEnable ||| scalerSmartSwitch ||| scalerY2rTemp ||| scalerPixExpand
  let flags := if doubleBuff then flags ||| scalerDoubleBuffer else flags
  let flags := if bes.deinterlaceOn then flags ||| scalerAdaptiveDeint else flags
  let flags := flags ||| (bes.surfId <<< 8 &&& scalerSurfacFormat)
  let flags := if bes.loadPrgStart then flags ||| scalerPrgLoadStart else flags
  flags &&& ~~~scalerUseOv1

/-- `radeon_vid_display_video`. -/
def radeonVidDisplayVideo (s : State) : Ov0 :=
  let besr := s.driver.besr
  let first := (frameTable besr s.left).vidBufBaseAdrs 0
  { s.regs with
    scaleCntl := besFlags besr.doubleBuff s.bes
    vidBufBaseAdrs :=
      { vidBuf0 := first.y, vidBuf1 := first.v, vidBuf2 := first.u
        vidBuf3 := first.y, vidBuf4 := first.v, vidBuf5 := first.u }
    vidBufPitch0Value := besr.vidBufPitch0Value
    vidBufPitch1Value := besr.vidBufPitch1Value
    deinterlacePattern :=
      if s.bes.deinterlaceOn then s.bes.deinterlacePattern else s.regs.deinterlacePattern
    graphicsKeyMsk := s.bes.graphicsKeyMsk
    graphicsKeyClr := s.bes.graphicsKeyClr
    keyCntl := s.bes.ckeyCntl
    test := if s.bes.swapUv then s.regs.test ||| ov0SwapUv else s.regs.test }

/-- The whole of `vixConfigPlayback`. -/
def configure (s : State) (info : VidixPlayback) : ℤ × State × VidixPlayback :=
  let r := vixConfigPlayback s.driver info
  if r.1 = 0 then
    (r.1, { s with
      driver := r.2.1
      bes := s.bes.noteFormat info.fourcc
      regs := radeonVidStopVideo s.regs }, r.2.2)
  else (r.1, { s with driver := r.2.1 }, r.2.2)

def vixPlaybackOn (s : State) : State := { s with regs := radeonVidDisplayVideo s }

def vixPlaybackOff (s : State) : State := { s with regs := radeonVidStopVideo s.regs }

/-- `vixPlaybackFrameSelect`; `none` is a division by zero. -/
def selectFrame (s : State) (frame : UInt32) : Option State :=
  (vixPlaybackFrameSelect (frameTable s.driver.besr s.left) frame).map fun
    | .untouched => s
    | .written adrs => { s with regs := { s.regs with vidBufBaseAdrs := adrs } }

/-! ### The colour key -/

/-- `CKEY_ALPHA`. -/
def ckeyAlpha : UInt32 := 4

/-- `besr.graphics_key_clr` on a desktop of `dbpp` bits; the chips of the R100 family want the pixel
of the desktop, the others its colours. -/
def keyClrOf (r1x0 : Bool) (dbpp : UInt32) (ckey : VidixCkey) : Option UInt32 :=
  let red : UInt32 := ckey.red.toUInt32
  let green : UInt32 := ckey.green.toUInt32
  let blue : UInt32 := ckey.blue.toUInt32
  let red5 : UInt32 := red &&& 0xF8
  let green5 : UInt32 := green &&& 0xF8
  let green6 : UInt32 := green &&& 0xFC
  let blue5 : UInt32 := blue &&& 0xF8
  match dbpp.toNat with
  | 15 =>
    if !r1x0 then some (blue5 ||| green5 <<< 8 ||| red5 <<< 16)
    else some (blue5 >>> 3 ||| green5 <<< 2 ||| red5 <<< 7)
  | 16 =>
    if !r1x0 then some (blue5 ||| green6 <<< 8 ||| red5 <<< 16)
    else some (blue5 >>> 3 ||| green6 <<< 3 ||| red5 <<< 8)
  -- `& 0xFF` leaves a byte as it is
  | 24 => some (blue ||| green <<< 8 ||| red <<< 16)
  | 32 => some (blue ||| green <<< 8 ||| red <<< 16)
  | _ => none

/-- The overlay is in front of everything. -/
def Bes.withoutKey (bes : Bes) (mergeCntl : UInt32) : Bes :=
  { bes with
    ckeyOn := false, graphicsKeyMsk := 0, graphicsKeyClr := 0
    ckeyCntl := videoKeyFnTrue ||| graphicKeyFnTrue ||| cmpMixAnd, mergeCntl }

/-- What `set_gr_key` makes of the key, and the result. -/
def Bes.setGrKey (bes : Bes) (r1x0 : Bool) (dbpp : UInt32) (ckey : VidixCkey) : ℤ × Bes :=
  let mergeCntl : UInt32 := 0xff000000 ||| 0x00ff0000
  if ckey.op = ckeyTrue then
    let clr := keyClrOf r1x0 dbpp ckey
    (0, { bes with
      ckeyOn := clr.isSome
      graphicsKeyMsk := clr.getD 0, graphicsKeyClr := clr.getD 0
      ckeyCntl := videoKeyFnTrue ||| cmpMixAnd ||| graphicKeyFnEq, mergeCntl })
  else if ckey.op = ckeyAlpha then
    if dbpp = 32 then
      (0, { bes.withoutKey (mergeCntl ||| 0x00000001) with ckeyOn := true })
    else (1, bes.withoutKey mergeCntl)
  else (0, bes.withoutKey mergeCntl)

/-- `vixSetGrKeys`. -/
def vixSetGrKeys (s : State) (ckey : VidixCkey) : ℤ × State :=
  let r := s.bes.setGrKey s.r1x0 (radeonVidGetDbpp s.driver.regs) ckey
  (r.1, { s with
    radeonGrkey := ckey
    bes := r.2
    regs := { s.regs with
      graphicsKeyMsk := r.2.graphicsKeyMsk, graphicsKeyClr := r.2.graphicsKeyClr
      keyCntl := r.2.ckeyCntl, dispMergeCntl := r.2.mergeCntl } })

/-- `vixGetGrKeys`. -/
def vixGetGrKeys (s : State) : VidixCkey := s.radeonGrkey

/-! ### Deinterlacing -/

/-- `vidix_deinterlace_t`. -/
structure VidixDeinterlace where
  flags : UInt32
  deinterlacePattern : UInt32
  deriving DecidableEq, Repr

def cfgNonInterlaced : UInt32 := 0
def cfgInterlaced : UInt32 := 1
def cfgEvenOddInterlacing : UInt32 := 2
def cfgOddEvenInterlacing : UInt32 := 4
def cfgUniqueInterlacing : UInt32 := 8

/-- The pattern that is asked for, if any. -/
def patternOf (info : VidixDeinterlace) : Option UInt32 :=
  if info.flags = cfgEvenOddInterlacing ∨ info.flags = cfgInterlaced then some 0x900AAAAA
  else if info.flags = cfgOddEvenInterlacing then some 0x00055555
  else if info.flags = cfgUniqueInterlacing then some info.deinterlacePattern
  else none

/-- `vixPlaybackSetDeint`. -/
def vixPlaybackSetDeint (s : State) (info : VidixDeinterlace) : State :=
  let sflg := s.regs.scaleCntl
  match patternOf info with
  | some pattern =>
    { s with
      bes := { s.bes with deinterlaceOn := true, deinterlacePattern := pattern }
      regs := { s.regs with
        scaleCntl := sflg ||| scalerAdaptiveDeint, deinterlacePattern := pattern } }
  | none =>
    { s with
      bes := { s.bes with deinterlaceOn := false }
      regs := { s.regs with scaleCntl := sflg &&& ~~~scalerAdaptiveDeint } }

/-- `vixPlaybackGetDeint`. -/
def vixPlaybackGetDeint (s : State) (info : VidixDeinterlace) : VidixDeinterlace :=
  if s.bes.deinterlaceOn then
    { flags := cfgUniqueInterlacing, deinterlacePattern := s.bes.deinterlacePattern }
  else { info with flags := cfgNonInterlaced }

/-! ### The calls -/

/-- A call after the configuration; `ι` numbers the frames. -/
inductive Call (ι : Type*)
  | playbackOn
  | playbackOff
  | frameSelect (frame : ι)
  | setGrKeys (ckey : VidixCkey)
  | setDeint (info : VidixDeinterlace)
  deriving DecidableEq, Repr

/-- The state that a call leaves; where there are no frames, selecting one ends the program. -/
def callStep (s : State) : Call UInt32 → State
  | .playbackOn => vixPlaybackOn s
  | .playbackOff => vixPlaybackOff s
  | .frameSelect frame => (selectFrame s frame).getD s
  | .setGrKeys ckey => (vixSetGrKeys s ckey).2
  | .setDeint info => vixPlaybackSetDeint s info

/-- The call with the number of a granted frame in an `unsigned`. -/
def Call.toWord {n : ℕ} : Call (Fin n) → Call UInt32
  | .playbackOn => .playbackOn
  | .playbackOff => .playbackOff
  | .frameSelect frame => .frameSelect (UInt32.ofNat frame)
  | .setGrKeys ckey => .setGrKeys ckey
  | .setDeint info => .setDeint info

end Vidix.Radeon
