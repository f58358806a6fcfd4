import Vidix.Savage.Config
import Vidix.Savage.Streams

/-!
# `savage_vid.c`: turning playback on and off

Waiting for the retrace is left out, and so is opening the ports.  The equalizer has the values that
`vixConfigPlayback` gives it.  A division by zero ends the program: it is `none`.
-/

namespace Vidix.Savage

/-- The driver and its card.  `videoFlags` and `vidixcolorkey` are fields of `info` too. -/
structure Player where
  info : ChipInfo SavageArch
  videoFlags : UInt32
  vidixcolorkey : UInt32
  mmio : Mmio
  crtc : Crtc

/-- `VF_STREAMS_ON`. -/
def vfStreamsOn : UInt32 := 0x0001

/-- `EXT_MISC_CTRL2`. -/
def extMiscCtrl2 : UInt8 := 0x67

/-- `S3_SAVAGE_MOBILE_SERIES`. -/
def SavageArch.mobileSeries (arch : SavageArch) : Bool := arch == .savageMx || arch == .supersavage

/-! ### Colours -/

/-- `SavageSetColorOld`, with a brightness and a hue of zero, and a contrast and a saturation of
128. -/
def savageSetColorOld (p : Player) : Player :=
  if p.info.format = imgfmtBGR15 ∨ p.info.format = imgfmtBGR16 then
    { p with mmio := p.mmio.outreg colorAdjustmentReg 0 }
  else
    let brightness : UInt32 := 0 + 128
    let contrast : UInt32 := 128 &&& 0xf8
    let contrast : UInt32 := contrast <<< 5
    let sat : UInt32 := 128 * 16 / 256
    -- the cosine of the hue is one, and its sine is zero
    let hs1 : UInt32 := sat &&& 0x1f
    let hs1 : UInt32 := hs1 <<< 16
    { p with
      mmio := p.mmio.outreg colorAdjustmentReg (0x80008000 ||| brightness ||| contrast ||| hs1) }

/-- The key in the two registers for it. -/
def Mmio.outKey (mmio : Mmio) (control upper : UInt32) : Mmio :=
  (mmio.outreg colChromaKeyControlReg control).outreg chromaKeyUpperBoundReg upper

/-- `SavageSetColorKeyOld`. -/
def savageSetColorKeyOld (p : Player) : Player :=
  let red := (p.vidixcolorkey &&& 0x00FF0000) >>> 16
  let green := (p.vidixcolorkey &&& 0x0000FF00) >>> 8
  let blue := p.vidixcolorkey &&& 0x000000FF
  if p.vidixcolorkey = 0 then
    { p with mmio := (p.mmio.outKey 0 0).outreg blendControlReg 0 }
  else
    let mmio :=
      if p.info.depth = 8 then
        p.mmio.outKey (0x37000000 ||| (p.vidixcolorkey &&& 0xFF)) (p.vidixcolorkey &&& 0xFF)
      else if p.info.depth = 15 then
        let key := (red &&& 0x1f) <<< 19 ||| (green &&& 0x1f) <<< 11 ||| (blue &&& 0x1f) <<< 3
        p.mmio.outKey (0x05000000 ||| key) key
      else if p.info.depth = 16 then
        let key := (red &&& 0x1f) <<< 19 ||| (green &&& 0x3f) <<< 10 ||| (blue &&& 0x1f) <<< 3
        p.mmio.outKey (0x16000000 ||| key) (0x00020002 ||| key)
      else if p.info.depth = 24 then
        let key := red <<< 16 ||| green <<< 8 ||| blue
        p.mmio.outKey (0x17000000 ||| key) key
      else p.mmio
    -- "We use destination colorkey"
    { p with mmio := mmio.outreg blendControlReg 0x05000000 }

/-! ### The streams -/

/-- `format`, the format of the primary stream. -/
def pstreamFormat (depth : UInt32) : UInt32 :=
  if depth = 15 then (3 : UInt32) <<< 24
  else if depth = 16 then (5 : UInt32) <<< 24
  else if depth = 24 then (7 : UInt32) <<< 24
  else 0

/-- `SavageInitStreamsOld`. -/
def savageInitStreamsOld (p : Player) : Player :=
  let info := p.info
  let writes : List (UInt32 × UInt32) :=
    [(pstreamFbsizeReg, info.screenY * info.screenX * (info.bpp >>> 3)),
      (pstreamWindowStartReg, osXY 0 0),
      (pstreamWindowSizeReg, osWH info.screenX info.screenY),
      (pstreamFbaddr1Reg, 0), (pstreamControlReg, pstreamFormat info.depth),
      (pstreamFbaddr0Reg, 0), (colChromaKeyControlReg, 0), (sstreamControlReg, 0),
      (chromaKeyUpperBoundReg, 0), (sstreamStretchReg, 0), (colorAdjustmentReg, 0),
      (blendControlReg, (1 : UInt32) <<< 24), (doubleBufferReg, 0), (sstreamFbaddr0Reg, 0),
      (sstreamFbaddr1Reg, 0), (sstreamFbaddr2Reg, 0), (sstreamFbsizeReg, 0),
      (sstreamStrideReg, 0), (sstreamVscaleReg, 0), (sstreamLinesReg, 0),
      (sstreamVinitialReg, 0), (sstreamWindowStartReg, osXY 0xfffe 0xfffe),
      (sstreamWindowSizeReg, osWH 10 2)]
  { p with mmio := writes.foldl (fun mmio w => mmio.outreg w.1 w.2) p.mmio }

/-- `SavageStreamsOn`. -/
def savageStreamsOn (p : Player) : Player :=
  let control := p.crtc extMiscCtrl2
  let p :=
    if p.info.arch.mobileSeries then
      -- `SEC_STREAM_COLOR_CONVERT1` and so on
      { p with
        crtc := p.crtc.out extMiscCtrl2 (control ||| 0x04)
        mmio := ((p.mmio.outreg 0x8198 0x0000C892).outreg 0x819c 0x00039F9A).outreg 0x81e4
          0x01F1547E }
    else if p.info.arch = .savage2000 then
      -- `SEC_STREAM_COLOR_CONVERT0_2000` and so on
      { p with
        crtc := p.crtc.out extMiscCtrl2 (control ||| 0x04)
        mmio := (((p.mmio.outreg 0x8198 0x0000C892).outreg 0x819c 0x00033400).outreg 0x81e0
          0x000001CF).outreg 0x81e4 0x01F1547E }
    else savageInitStreamsOld { p with crtc := p.crtc.out extMiscCtrl2 (control ||| 0x0c) }
  { p with videoFlags := p.videoFlags ||| vfStreamsOn }

/-- `SavageStreamsOff`. -/
def savageStreamsOff (p : Player) : Player :=
  let control := p.crtc extMiscCtrl2
  let keep : UInt8 :=
    if p.info.arch.mobileSeries || p.info.arch == .supersavage || p.info.arch == .savage2000 then
      0xF9
    else 0xf3
  let crtc := (p.crtc.out extMiscCtrl2 (control &&& keep)).out 0x93 0
  { p with
    crtc := crtc.out 0x92 (crtc 0x92 &&& 0x40), videoFlags := p.videoFlags &&& ~~~vfStreamsOn }

/-! ### Displaying -/

/-- `!info->videoFlags & VF_STREAMS_ON`, in which `!` comes first. -/
def streamsAreOff (videoFlags : UInt32) : Bool :=
  (if videoFlags = 0 then 1 else 0) &&& vfStreamsOn != 0

/-- What `SavageDisplayVideoOld` writes to the registers of the secondary stream; `stretch` is the
factor for the width. -/
def streamWrites (info : ChipInfo SavageArch) (stretch : UInt32) : List (UInt32 × UInt32) :=
  [(sstreamStretchReg, stretch), (sstreamLinesReg, info.srcH), (sstreamVinitialReg, 0),
    (sstreamVscaleReg, vscaling info.srcH info.drwH),
    (sstreamFbaddr0Reg, info.pictureOffset.toUInt32), (sstreamFbaddr1Reg, 0),
    (sstreamStrideReg, info.pitch), (sstreamWindowStartReg, osXY info.wx info.wy),
    (sstreamWindowSizeReg, osWH info.drwW info.drwH), (sstreamControlReg, ssControl info),
    (streamsFifoReg, (2 : UInt32) ||| (25 : UInt32) <<< 5 ||| (32 : UInt32) <<< 11)]

/-- `info->pitch = (info->pitch + 7) / 8`. -/
def quadwords (pitch : UInt32) : UInt32 := (pitch + 7) / 8

/-- `SavageDisplayVideoOld`. -/
def savageDisplayVideoOld (p : Player) : Option Player :=
  let p :=
    if streamsAreOff p.videoFlags then savageSetColorKeyOld (savageSetColorOld (savageStreamsOn p))
    else p
  if p.info.drwW = 0 then none
  else
    let writes := streamWrites p.info ((p.info.srcW <<< 15) / p.info.drwW)
    -- "FIXME: this should actually be enabled"
    let pitch := quadwords p.info.pitch
    some { p with
      info := { p.info with pitch := pitch }
      mmio := writes.foldl (fun mmio w => mmio.outreg w.1 w.2) p.mmio
      crtc := outPitch p.crtc pitch }

/-! ### The calls -/

/-- `vixPlaybackOn`. -/
def vixPlaybackOn (p : Player) : Option Player := savageDisplayVideoOld p

/-- `vixPlaybackOff`. -/
def vixPlaybackOff (p : Player) : Player := savageStreamsOff p

/-- The calls that turn playback on and off. -/
inductive Call where
  | playbackOn
  | playbackOff
  deriving DecidableEq, Repr

def Player.call (p : Player) : Call → Option Player
  | .playbackOn => vixPlaybackOn p
  | .playbackOff => some (vixPlaybackOff p)

/-- Calls one after the other. -/
def Player.run : Player → List Call → Option Player
  | p, [] => some p
  | p, call :: calls => do (← p.call call).run calls

end Vidix.Savage
