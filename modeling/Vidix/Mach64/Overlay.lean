import Vidix.Mach64.Config

/-!
# `mach64_vid.c`: the overlay

The calls that follow a configuration: `vixPlaybackOn` and `vixPlaybackOff`, with the screen around
the movie, `vixPlaybackFrameSelect`, the equalizer and the colour key.  The registers of the overlay
are those that these calls write, but for the coefficients of the filter, which are constants; the
waits for the engine and for the retrace are left out.
-/

namespace Vidix.Mach64

/-! ### The registers -/

def scalePixExpand : UInt32 := 0x00000001
def scaleY2rTemp : UInt32 := 0x00000002
def scaleGammaSelMsk : UInt32 := 0x00000060
def scaleGammaSelBright : UInt32 := 0x00000000
def scaleGammaSelG22 : UInt32 := 0x00000020
def scaleGammaSelG18 : UInt32 := 0x00000040
def scaleGammaSelG14 : UInt32 := 0x00000060
def scaleBandwidth : UInt32 := 0x04000000
def scaleClkForceOn : UInt32 := 0x20000000
def overlayEn : UInt32 := 0x40000000
def scaleEn : UInt32 := 0x80000000

def scalerInRgb15 : UInt32 := 0x00030000
def scalerInRgb16 : UInt32 := 0x00040000
def scalerInRgb32 : UInt32 := 0x00060000
def scalerInYuv9 : UInt32 := 0x00090000
def scalerInYuv12 : UInt32 := 0x000A0000
def scalerInVyuy422 : UInt32 := 0x000B0000
def scalerInYvyu422 : UInt32 := 0x000C0000

def videoKeyFnTrue : UInt32 := 0x00000001
def graphicKeyFnTrue : UInt32 := 0x00000010
def graphicKeyFnEq : UInt32 := 0x00000050
def cmpMixAnd : UInt32 := 0x00000100

def exclusiveHorzEnd : UInt32 := 0x0000FF00
def exclusiveVertEnd : UInt32 := 0x07FF0000
def exclusiveEn : UInt32 := 0x80000000

/-- The registers `OVERLAY_SCALE_CNTL` and so on.  A row has the three registers of a buffer,
`SCALER_BUF0_OFFSET`, `SCALER_BUF0_OFFSET_U` and `SCALER_BUF0_OFFSET_V`. -/
structure Overlay where
  scaleCntl : UInt32
  exclusiveHorz : UInt32
  exclusiveVert : UInt32
  yXStart : UInt32
  yXEnd : UInt32
  scaleInc : UInt32
  scalerBufPitch : UInt32
  scalerHeightWidth : UInt32
  scalerBuf0 : BufferRow
  scalerBuf1 : BufferRow
  videoFormat : UInt32
  scalerColourCntl : UInt32
  graphicsKeyMsk : UInt32
  graphicsKeyClr : UInt32
  keyCntl : UInt32
  test : UInt32
  deriving DecidableEq, Repr

/-- The fields of `besr` for the colour key. -/
structure Key where
  ckeyOn : Bool
  graphicsKeyMsk : UInt32
  graphicsKeyClr : UInt32
  deriving DecidableEq, Repr

/-- The static variables and the registers. -/
structure State where
  driver : Driver
  supportsColourAdj : Bool
  key : Key
  mach64Grkey : VidixCkey
  equal : VideoEq
  regs : Overlay

/-! ### On and off -/

/-- `mach64_vid_stop_video`. -/
def mach64VidStopVideo (regs : Overlay) : Overlay :=
  { regs with
    scaleCntl := 0x80000000, exclusiveHorz := 0, exclusiveVert := 0
    videoFormat := 0xB000B, test := 0 }

/-- `sc`. -/
def scaleCntlOf (d : Driver) : UInt32 :=
  let width := (d.besr.heightWidth >>> 16) &&& 0x03FF
  let sc := scaleEn ||| overlayEn ||| scaleBandwidth ||| scalePixExpand ||| scaleY2rTemp
  -- the clocks of the scaler are forced
  if width > 360 && !d.supportsPlanar && !mach64IsInterlace d.regs then sc ||| scaleClkForceOn
  else sc

/-- `vf`. -/
def videoFormatOf (fourcc : UInt32) : UInt32 :=
  if fourcc == imgfmtBGR15 then scalerInRgb15
  else if fourcc == imgfmtBGR16 then scalerInRgb16
  else if fourcc == imgfmtBGR32 then scalerInRgb32
  else if Radeon.is420 fourcc then scalerInYuv12
  else if fourcc == imgfmtYVU9 then scalerInYuv9
  else if fourcc == imgfmtYVYU || fourcc == imgfmtUYVY then scalerInYvyu422
  else scalerInVyuy422

/-- `mach64_vid_display_video`: both buffers get the first row. -/
def mach64VidDisplayVideo (s : State) : Overlay :=
  let besr := s.driver.besr
  { s.regs with
    yXStart := besr.yXStart
    yXEnd := besr.yXEnd
    scaleInc := besr.scaleInc
    scalerBufPitch := besr.vidBufPitch
    scalerHeightWidth := besr.heightWidth
    scalerBuf0 := s.driver.bufferBase 0
    scalerBuf1 := s.driver.bufferBase 0
    scaleCntl := scaleCntlOf s.driver
    videoFormat := videoFormatOf besr.fourcc }

/-- `mach64_vid_exclusive`: a black screen around the movie. -/
def mach64VidExclusive (r : Regs) (regs : Overlay) : Overlay :=
  let screenw := mach64GetXres r
  let screenh := mach64GetYres r
  { regs with
    exclusiveVert := (screenh - 1) <<< 16 &&& exclusiveVertEnd
    exclusiveHorz := ((screenw / 8 + 1) <<< 8 &&& exclusiveHorzEnd) ||| exclusiveEn }

/-- `mach64_vid_non_exclusive`. -/
def mach64VidNonExclusive (regs : Overlay) : Overlay := { regs with exclusiveHorz := 0 }

/-- The window is as wide or as high as the screen. -/
def coversScreen (d : Driver) : Bool :=
  let dw := (d.besr.yXEnd >>> 16) - (d.besr.yXStart >>> 16)
  let dh := (d.besr.yXEnd &&& 0xFFFF) - (d.besr.yXStart &&& 0xFFFF)
  dw == mach64GetXres d.regs || dh == mach64GetYres d.regs

/-- `vixPlaybackOn`: the pitch is read back. -/
def vixPlaybackOn (s : State) : ℤ × State :=
  let regs :=
    if coversScreen s.driver then mach64VidExclusive s.driver.regs s.regs
    else mach64VidNonExclusive s.regs
  let s := { s with regs := regs }
  let s := { s with regs := mach64VidDisplayVideo s }
  (if s.regs.scalerBufPitch = s.driver.besr.vidBufPitch then 0 else eintr, s)

/-- `vixPlaybackOff`. -/
def vixPlaybackOff (s : State) : State := { s with regs := mach64VidStopVideo s.regs }

/-- The whole of `vixConfigPlayback`; `none` is a division by zero. -/
def configure (s : State) (info : VidixPlayback) : Option (ℤ × State × VidixPlayback) :=
  (vixConfigPlayback s.driver info).map fun (r : ℤ × Driver × VidixPlayback) =>
    (r.1, { s with
      driver := r.2.1, regs := if r.1 = 0 then mach64VidStopVideo s.regs else s.regs }, r.2.2)

/-- `vixPlaybackFrameSelect`; `none` is a division by zero, or a row behind the table. -/
def vixPlaybackFrameSelect (s : State) (frame : UInt32) : Option State :=
  let n := s.driver.numMach64Buffers
  if n = 0 then none
  else
    let lastFrame := (frame - 1 + n) % n
    if n = 1 then some s
    else do
      let buf0 ← s.driver.row frame.toNat
      -- the second buffer is for deinterlacing
      let buf1 ← s.driver.row lastFrame.toNat
      some { s with regs := { s.regs with scalerBuf0 := buf0, scalerBuf1 := buf1 } }

/-! ### The equalizer -/

/-- What `equal` keeps of `eq`; the flags are kept where colours can be adjusted. -/
def takeEq (supportsColourAdj : Bool) (equal eq : VideoEq) : VideoEq :=
  { equal.take eq with flags := if supportsColourAdj then eq.flags else equal.flags }

/-- What is written to `SCALER_COLOUR_CNTL`. -/
def colourCntlOf (equal : VideoEq) : UInt32 :=
  let br : UInt32 := (clamp (-64) 63 (equal.brightness * 64 / 1000)).toUInt32
  let sat : UInt32 := (clamp 0 31 ((equal.saturation + 1000) * 16 / 1000)).toUInt32
  (br &&& (0x7f : UInt32)) ||| sat <<< 8 ||| sat <<< 16

/-- `gamma`. -/
def gammaOf (equal : VideoEq) : UInt32 :=
  let br := equal.brightness * 3 / 1000
  let br := if br < 0 then 0 else br
  if br = 1 then scaleGammaSelG14
  else if br = 2 then scaleGammaSelG18
  else if br = 3 then scaleGammaSelG22
  else scaleGammaSelBright

/-- `vixPlaybackSetEq`. -/
def vixPlaybackSetEq (s : State) (eq : VideoEq) : State :=
  let equal := takeEq s.supportsColourAdj s.equal eq
  let regs :=
    if s.supportsColourAdj then { s.regs with scalerColourCntl := colourCntlOf equal }
    else { s.regs with
      scaleCntl := (s.regs.scaleCntl &&& ~~~scaleGammaSelMsk) ||| gammaOf equal }
  { s with equal := equal, regs := regs }

/-- `vixPlaybackGetEq`. -/
def vixPlaybackGetEq (s : State) : VideoEq :=
  if s.supportsColourAdj then s.equal else { s.equal with cap := veqCapBrightness }

/-! ### The colour key -/

/-- `besr` for a key on a desktop of `dbpp` bits. -/
def keyOf (dbpp : UInt32) (ckey : VidixCkey) : Key :=
  let red : UInt32 := ckey.red.toUInt32
  let green : UInt32 := ckey.green.toUInt32
  let blue : UInt32 := ckey.blue.toUInt32
  let red5 : UInt32 := red &&& 0xF8
  let green5 : UInt32 := green &&& 0xF8
  let green6 : UInt32 := green &&& 0xFC
  let blue5 : UInt32 := blue &&& 0xF8
  if ckey.op = ckeyTrue then
    match dbpp.toNat with
    | 15 => ⟨true, 0x7FFF, blue5 >>> 3 ||| green5 <<< 2 ||| red5 <<< 7⟩
    | 16 => ⟨true, 0xFFFF, blue5 >>> 3 ||| green6 <<< 3 ||| red5 <<< 8⟩
    -- `& 0xFF` leaves a byte as it is
    | 24 => ⟨true, 0xFFFFFF, blue ||| green <<< 8 ||| red <<< 16⟩
    | 32 => ⟨true, 0xFFFFFF, blue ||| green <<< 8 ||| red <<< 16⟩
    | _ => ⟨false, 0, 0⟩
  else ⟨false, 0, 0⟩

/-- What is written to `OVERLAY_KEY_CNTL`. -/
def keyCntlOf (key : Key) : UInt32 :=
  videoKeyFnTrue ||| (if key.ckeyOn then graphicKeyFnEq else graphicKeyFnTrue) ||| cmpMixAnd

/-- `vixSetGrKeys`. -/
def vixSetGrKeys (s : State) (ckey : VidixCkey) : State :=
  let key := keyOf (mach64VidGetDbpp s.driver.regs) ckey
  { s with
    mach64Grkey := ckey, key := key
    regs := { s.regs with
      graphicsKeyMsk := key.graphicsKeyMsk, graphicsKeyClr := key.graphicsKeyClr
      keyCntl := keyCntlOf key } }

/-- `vixGetGrKeys`. -/
def vixGetGrKeys (s : State) : VidixCkey := s.mach64Grkey

/-! ### The calls -/

/-- A call after the configuration; `ι` numbers the frames. -/
inductive OverlayCall (ι : Type*)
  | playbackOn
  | playbackOff
  | frameSelect (frame : ι)
  | setGrKeys (ckey : VidixCkey)
  | setEq (eq : VideoEq)
  deriving DecidableEq, Repr

/-- The state that a call leaves. -/
def callStep (s : State) : OverlayCall UInt32 → Option State
  | .playbackOn => some (vixPlaybackOn s).2
  | .playbackOff => some (vixPlaybackOff s)
  | .frameSelect frame => vixPlaybackFrameSelect s frame
  | .setGrKeys ckey => some (vixSetGrKeys s ckey)
  | .setEq eq => some (vixPlaybackSetEq s eq)

/-- The call with the number of a granted frame in an `unsigned`. -/
def OverlayCall.toWord {n : ℕ} : OverlayCall (Fin n) → OverlayCall UInt32
  | .playbackOn => .playbackOn
  | .playbackOff => .playbackOff
  | .frameSelect frame => .frameSelect (UInt32.ofNat frame)
  | .setGrKeys ckey => .setGrKeys ckey
  | .setEq eq => .setEq eq

end Vidix.Mach64
