import Vidix.Sis.Overlay

/-!
# `sis_bridge.c`: the video bridge

`sis_init_video_bridge`, which finds out which bridge there is and what is attached to it, and
decides which of the two heads, CRT1 and CRT2, is used.  The registers are maps from indices to
bytes, but for `PART4` 0x03: what it answers depends on the cables, and is taken from a sequence.
The reads that only pass the time (`sis_ddc2_delay`) and the messages are left out.
-/

namespace Vidix.Sis

/-! ### Flags -/

def crt2Default : UInt32 := 0x00000001
def crt2Lcd : UInt32 := 0x00000002
def crt2Tv : UInt32 := 0x00000004
def crt2Vga : UInt32 := 0x00000008
def tvNtsc : UInt32 := 0x00000010
def tvPal : UInt32 := 0x00000020
def tvHivision : UInt32 := 0x00000040
def tvHivisionLv : UInt32 := 0x00000080
def tvAvideo : UInt32 := 0x00000100
def tvSvideo : UInt32 := 0x00000200
def tvScart : UInt32 := 0x00000400
def vbUselcda : UInt32 := 0x00000800
def tvPalm : UInt32 := 0x00001000
def tvPaln : UInt32 := 0x00002000
def tvChscart : UInt32 := 0x00004000
def tvChhdtv : UInt32 := 0x00008000
def vga2Connected : UInt32 := 0x00010000
def vb301 : UInt32 := 0x00040000
def vb301B : UInt32 := 0x00080000
def vb302B : UInt32 := 0x00100000
def vb30xBdh : UInt32 := 0x00200000
def vbLvds : UInt32 := 0x00400000
def vbChrontel : UInt32 := 0x00800000
def vb301Lv : UInt32 := 0x01000000
def vb302Lv : UInt32 := 0x02000000
def vbDispmodeSingle : UInt32 := 0x08000000

/-- `VB_SISBRIDGE`. -/
def vbSisbridge : UInt32 := vb301 ||| vb301B ||| vb302B ||| vb301Lv ||| vb302Lv

/-- `VB_301LV | VB_302LV`. -/
def vb30xLv : UInt32 := vb301Lv ||| vb302Lv

/-- `flags & mask` as a condition. -/
def has (flags mask : UInt32) : Bool := flags &&& mask != 0

/-! ### The state -/

/-- The registers; `sensor` has what is read from `PART4` 0x03, and `reads` counts the reads. -/
structure Chip where
  sr : Ports
  cr : Ports
  part1 : Ports
  part2 : Ports
  part4 : Ports
  sensor : ℕ → UInt8
  reads : ℕ

/-- The registers and the static variables. -/
structure Bridge where
  chip : Chip
  sisVbflags : UInt32
  sisCrt1Off : ℤ
  sisOverlayOnCrt1 : Bool
  sisForceCrt2Type : UInt32
  sisDetectedCrt2Devices : UInt32

/-- `setSISIDXREG`; `andSISIDXREG` and `orSISIDXREG` are it with nothing to set or to clear. -/
def setIdx (idx keep bits : UInt8) (ports : Ports) : Ports :=
  Function.update ports idx ((ports idx &&& keep) ||| bits)

/-! ### Sensing -/

/-- One of the three tests of `sis_do_sense`: whether the sensor answers as `test` says. -/
def senseOnce (type test : UInt16) (c : Chip) : Bool × Chip :=
  let part4 := Function.update c.part4 0x11 type.toUInt8
  let part4 := setIdx 0x10 0xe0 ((type >>> 8).toUInt8 ||| test.toUInt8) part4
  let mytest := (test >>> 8).toUInt8 &&& 0x7f
  let temp := (c.sensor c.reads ^^^ 0x0e) &&& mytest
  let part4 := setIdx 0x10 0xe0 0x00 (Function.update part4 0x11 0x00)
  (temp == mytest, { c with part4 := part4, reads := c.reads + 1 })

/-- The three tests, with the number of those that succeed. -/
def senseRound (type test : UInt16) (c : Chip) : ℕ × Chip :=
  let first := senseOnce type test c
  let second := senseOnce type test first.2
  let third := senseOnce type test second.2
  (first.1.toNat + second.1.toNat + third.1.toNat, third.2)

/-- The rounds of `sis_do_sense`, which are repeated as long as just one test succeeds, but no more
than the given number of times. -/
def senseLoop (type test : UInt16) : ℕ → Chip → ℕ × Chip
  | 0, c => senseRound type test c
  | j + 1, c =>
    let r := senseRound type test c
    if r.1 = 0 ∨ 2 ≤ r.1 then r else senseLoop type test j r.2

/-- `sis_do_sense`. -/
def sisDoSense (type test : UInt16) (c : Chip) : ℕ × Chip := senseLoop type test 9 c

/-- `svhs`, `cvbs` and `vga2`. -/
structure SenseCodes where
  svhs : UInt16
  cvbs : UInt16
  vga2 : UInt16
  deriving DecidableEq, Repr

/-- The codes for the bridge. -/
def senseCodes (vbflags : UInt32) (part4 : Ports) : Option SenseCodes :=
  if has vbflags vb301 then
    if part4 0x01 &&& 0x04 ≠ 0 then some ⟨0x00dd, 0x00ee, 0x00fd⟩
    else some ⟨0x00b9, 0x00b3, 0x00d1⟩
  else if has vbflags (vb301B ||| vb302B) then some ⟨0x016b, 0x0174, 0x0190⟩
  else if has vbflags vb30xLv then some ⟨0x0200, 0x0100, 0⟩
  else none

/-- Senses for one device: if it answers, `flag` is set, and `bits` in `CR` 0x32. -/
def senseFor (type test : UInt16) (flag : UInt32) (bits : UInt8) (b : Bridge) : Bridge :=
  let r := sisDoSense type test b.chip
  if r.1 ≠ 0 then
    { b with
      chip := { r.2 with cr := setIdx 0x32 0xff bits r.2.cr }
      sisVbflags := b.sisVbflags ||| flag }
  else { b with chip := r.2 }

/-- `sis_do_sense(0, 0)`, whose result is not looked at. -/
def senseNothing (b : Bridge) : Bridge := { b with chip := (sisDoSense 0 0 b.chip).2 }

/-- `andSISIDXREG(SISCR, 0x32, keep)`. -/
def keepCr32 (keep : UInt8) (b : Bridge) : Bridge :=
  { b with chip.cr := setIdx 0x32 keep 0x00 b.chip.cr }

/-- Senses for a second VGA connector, if there may be one. -/
def senseVga2 (vga2 vga2C : UInt16) (b : Bridge) : Bridge :=
  if vga2C ≠ 0 ∨ vga2 ≠ 0 then senseFor vga2 vga2C vga2Connected 0x10 b else b

/-- The part of `sis_sense_30x` between saving and restoring registers.  `biosflag` is 2, so that
SCART is never sensed for, and composite is sensed for whatever S-video has answered. -/
def senseDevices (svhs svhsC cvbs cvbsC vga2 vga2C : UInt16) (b : Bridge) : Bridge :=
  let b := keepCr32 (~~~0x14) (senseNothing b)
  let b := keepCr32 (~~~0x03) (keepCr32 0x3f (senseVga2 vga2 vga2C b))
  let b := senseFor svhs svhsC tvSvideo 0x02 b
  senseNothing (senseFor cvbs cvbsC tvAvideo 0x01 b)

/-- The registers that are changed for sensing. -/
def startSensing (b : Bridge) : Bridge :=
  { b with
    chip.sr := setIdx 0x1e 0xff 0x20 b.chip.sr
    chip.part4 :=
      if has b.sisVbflags vb301 then setIdx 0x0d (~~~0x07) 0x05 b.chip.part4
      else setIdx 0x0d 0xff 0x04 b.chip.part4
    chip.part2 := Function.update b.chip.part2 0x00 ((b.chip.part2 0x00 ||| 0x3c) &&& 0xfc) }

/-- What these registers had in `c` is written back. -/
def endSensing (c : Chip) (b : Bridge) : Bridge :=
  { b with
    chip.part2 := Function.update b.chip.part2 0x00 (c.part2 0x00)
    chip.part4 := Function.update b.chip.part4 0x0d (c.part4 0x0d)
    chip.sr := Function.update b.chip.sr 0x1e (c.sr 0x1e) }

/-- `sis_sense_30x`. -/
def sisSense30x (engine : VgaEngine) (b : Bridge) : Bridge :=
  if !has b.sisVbflags vbSisbridge then b
  else
    match senseCodes b.sisVbflags b.chip.part4 with
    | none => b
    | some codes =>
      let lv := has b.sisVbflags vb30xLv
      let svhsC : UInt16 := if lv then 0x0408 else 0x0404
      let cvbsC : UInt16 := if lv then 0x0808 else 0x0804
      let noVga2 := engine == .sis300 && b.chip.sr 0x3b &&& 0x01 == 0
      let vga2 := if noVga2 then 0 else codes.vga2
      let vga2C : UInt16 := if noVga2 then 0 else 0x0e08
      endSensing b.chip
        (senseDevices codes.svhs svhsC codes.cvbs cvbsC vga2 vga2C (startSensing b))

/-! ### The bridge -/

/-- The bridge, as the ID and the revision in `PART4` say. -/
def bridgeFlags (part4 : Ports) : UInt32 :=
  let temp := part4 0x00 &&& 0x0f
  let temp1 := part4 0x01 &&& 0xf0
  if temp = 1 then
    if temp1 = 0xe0 then if part4 0x39 = 0xff then vb302Lv else 0
    else if temp1 = 0xd0 then vb301Lv
    else if temp1 = 0xb0 then
      if part4 0x23 &&& 0x02 = 0 then vb301B ||| vb30xBdh else vb301B
    else if temp1 ≤ 0xa0 then vb301
    else 0
  else if temp = 2 then
    if temp1 = 0xe0 then vb302Lv
    else if temp1 = 0xd0 then vb301Lv
    else if temp1 ≤ 0xc0 then
      -- it is the ID that is tested here, not what is read from 0x23
      if temp &&& 0x02 = 0 then vb302B ||| vb30xBdh else vb302B
    else 0
  else 0

/-- Whether the bridge uses LCDA for text modes. -/
def usesLcda (engine : VgaEngine) (vbflags : UInt32) (c : Chip) : Bool :=
  engine == .sis315 && has vbflags (vb302B ||| vb30xLv) && decide (c.cr 0x34 ≤ 0x13) &&
    (c.cr 0x38 &&& 0x03 == 0x03 || (c.cr 0x30 &&& 0x20 != 0 && c.part1 0x13 &&& 0x40 != 0))

/-- `sis_detect_video_bridge`. -/
def sisDetectVideoBridge (engine : VgaEngine) (b : Bridge) : Bridge :=
  let b := { b with sisVbflags := 0 }
  if engine = .unknown then b
  else
    let b := sisSense30x engine { b with sisVbflags := bridgeFlags b.chip.part4 }
    if usesLcda engine b.sisVbflags b.chip then { b with sisVbflags := b.sisVbflags ||| vbUselcda }
    else b

/-! ### The heads -/

/-- `sis_detect_crt1`. -/
def sisDetectCrt1 (b : Bridge) : Bridge :=
  if !has b.sisVbflags vbVideobridge then { b with sisCrt1Off := 0 }
  else
    let cr32 := b.chip.cr 0x32
    let crt1Detected := cr32 &&& 0x20 != 0
    let otherDevices := cr32 &&& 0x5F != 0
    if b.sisCrt1Off = -1 then
      { b with sisCrt1Off := if !crt1Detected && otherDevices then 1 else 0 }
    else b

/-- `CR38` of `sis_detect_tv`. -/
def cr38Of (engine : VgaEngine) (deviceId : UInt16) (cr : Ports) : UInt8 :=
  match engine with
  | .sis300 => if deviceId = deviceSis630Vga then cr 0x35 else 0
  | .sis315 => cr 0x38
  | .unknown => 0

/-- Where the TV is attached. -/
def tvInterface (vbflags : UInt32) (cr32 cr38 : UInt8) : UInt32 :=
  if cr32 &&& 0x04 ≠ 0 then tvScart
  else if cr32 &&& 0x02 ≠ 0 then tvSvideo
  else if cr32 &&& 0x01 ≠ 0 then tvAvideo
  else if cr32 &&& 0x40 ≠ 0 then tvSvideo ||| tvHivision
  else if cr38 &&& 0x04 ≠ 0 ∧ has vbflags vb30xLv = true then tvHivisionLv
  else if cr38 &&& 0x04 ≠ 0 ∧ has vbflags vbChrontel = true then tvChscart ||| tvPal
  else if cr38 &&& 0x08 ≠ 0 ∧ has vbflags vbChrontel = true then tvChhdtv ||| tvNtsc
  else 0

/-- `TV_PAL` with its variants, or `TV_NTSC`. -/
def palOrNtsc (pal : Bool) (cr38 : UInt8) : UInt32 :=
  if pal then
    if cr38 &&& 0x40 ≠ 0 then tvPal ||| tvPalm
    else if cr38 &&& 0x80 ≠ 0 then tvPal ||| tvPaln
    else tvPal
  else tvNtsc

/-- The standard of the TV. -/
def tvStandard (engine : VgaEngine) (deviceId : UInt16) (c : Chip) (cr38 : UInt8) : UInt32 :=
  if engine = .sis300 then if c.sr 0x16 &&& 0x20 ≠ 0 then tvPal else tvNtsc
  else if deviceId = deviceSis550Vga then
    let cr79 := if c.cr 0x79 &&& 0x08 ≠ 0 then c.cr 0x79 >>> 5 else c.cr 0x79
    palOrNtsc (cr79 &&& 0x01 != 0) cr38
  else if deviceId = deviceSis650Vga then palOrNtsc (c.cr 0x79 &&& 0x20 != 0) cr38
  else palOrNtsc (c.sr 0x38 &&& 0x01 != 0) cr38

/-- `sis_detect_tv`. -/
def sisDetectTv (engine : VgaEngine) (deviceId : UInt16) (b : Bridge) : Bridge :=
  if !has b.sisVbflags vbVideobridge then b
  else
    let cr32 := b.chip.cr 0x32
    let cr38 := cr38Of engine deviceId b.chip.cr
    let vbflags := if cr32 &&& 0x47 ≠ 0 then b.sisVbflags ||| crt2Tv else b.sisVbflags
    let vbflags := vbflags ||| tvInterface vbflags cr32 cr38
    if has vbflags (tvScart ||| tvSvideo ||| tvAvideo ||| tvHivision) then
      { b with sisVbflags := vbflags ||| tvStandard engine deviceId b.chip cr38 }
    else { b with sisVbflags := vbflags }

/-- `sis_detect_crt2`. -/
def sisDetectCrt2 (b : Bridge) : Bridge :=
  if !has b.sisVbflags vbVideobridge then b
  else if has b.sisVbflags (vbLvds ||| vb30xLv) then b
  else if b.chip.cr 0x32 &&& 0x10 ≠ 0 then { b with sisVbflags := b.sisVbflags ||| crt2Vga }
  else b

/-- The type that `sis_init_video_bridge` takes when none is asked for. -/
def chooseCrt2 (force vbflags : UInt32) : UInt32 :=
  if force = crt2Default then
    if has vbflags crt2Vga then crt2Vga
    else if has vbflags crt2Lcd then crt2Lcd
    else if has vbflags crt2Tv then crt2Tv
    else force
  else force

/-- `vbflags` with one type of CRT2, if there is a bridge, and without the others. -/
def withCrt2 (vbflags type others : UInt32) : UInt32 :=
  let vbflags := vbflags &&& ~~~others
  if has vbflags vbVideobridge then vbflags ||| type else vbflags &&& ~~~type

/-- `switch (sis_force_crt2_type)`. -/
def forceCrt2 (force vbflags : UInt32) : UInt32 :=
  if force = crt2Tv then withCrt2 vbflags crt2Tv (crt2Lcd ||| crt2Vga)
  else if force = crt2Lcd then withCrt2 vbflags crt2Lcd (crt2Tv ||| crt2Vga)
  else if force = crt2Vga then
    if has vbflags vbLvds then vbflags
    else if has vbflags vb30xLv then vbflags
    else withCrt2 vbflags crt2Vga (crt2Tv ||| crt2Lcd)
  else vbflags &&& ~~~disptypeDisp2

/-- Whether CRT1 is off, when there is a bridge. -/
def neededCrt1Off (engine : VgaEngine) (vbflags : UInt32) (crt1Off : ℤ) : ℤ :=
  if !has vbflags disptypeDisp2 ||
    (has vbflags (vbLvds ||| vbChrontel) || (engine == .sis300 && has vbflags vb301B)) then 0
  else crt1Off

/-- The rest of `sis_init_video_bridge`: which of the heads are used, and for which of them the
overlay is. -/
def chooseHeads (engine : VgaEngine) (b : Bridge) : Bridge :=
  let b :=
    if has b.sisVbflags vbVideobridge then
      { b with
        sisCrt1Off := neededCrt1Off engine b.sisVbflags b.sisCrt1Off
        sisOverlayOnCrt1 := !has b.sisVbflags disptypeDisp2 || b.sisOverlayOnCrt1 }
    else { b with sisCrt1Off := 0, sisOverlayOnCrt1 := true }
  if has b.sisVbflags disptypeDisp2 then
    if b.sisCrt1Off ≠ 0 then
      { b with sisVbflags := b.sisVbflags ||| vbDispmodeSingle, sisOverlayOnCrt1 := false }
    else { b with sisVbflags := b.sisVbflags ||| (vbDispmodeMirror ||| disptypeCrt1) }
  else { b with sisVbflags := b.sisVbflags ||| (vbDispmodeSingle ||| disptypeCrt1) }

/-- `sis_init_video_bridge`. -/
def sisInitVideoBridge (engine : VgaEngine) (deviceId : UInt16) (b : Bridge) : Bridge :=
  let b := sisDetectVideoBridge engine b
  let b := sisDetectCrt1 b
  let b := sisDetectTv engine deviceId b
  let b := sisDetectCrt2 b
  let force := chooseCrt2 b.sisForceCrt2Type b.sisVbflags
  chooseHeads engine { b with
    sisDetectedCrt2Devices := b.sisVbflags &&& disptypeDisp2
    sisForceCrt2Type := force
    sisVbflags := forceCrt2 force b.sisVbflags }

/-! ### `vixInit` -/

/-- `vixInit` with the bridge: where the overlay is, is found out before `VIDIX_CRT` is looked
at. -/
def vixInitBridge (a : InitAnswer) (b : Bridge) (d : Driver) : ℤ × Driver × Bridge :=
  if (vixInit a d).1 ≠ 0 then ((vixInit a d).1, d, b)
  else
    let b := sisInitVideoBridge d.sisVgaEngine d.sisDeviceId.toUInt16 b
    let r := vixInit { a with vbflags := b.sisVbflags }
      { d with sisOverlayOnCrt1 := b.sisOverlayOnCrt1 }
    (r.1, r.2, { b with sisOverlayOnCrt1 := r.2.sisOverlayOnCrt1 })

end Vidix.Sis
