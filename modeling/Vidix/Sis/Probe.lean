import Vidix.Types

/-!
# `sis_vid.c`: probing and initializing

The static variables of the driver, `vixProbe` and `vixInit`.  What the hardware and the system
answer are arguments: the devices that `pci_scan` has found, whether the ports can be opened, and
what is read from the registers.  `sis_init_video_bridge` only finds out what is attached to the
second head; its results are an argument too.
-/

namespace Vidix.Sis

/-- `UNKNOWN_VGA`, `SIS_300_VGA` and `SIS_315_VGA`. -/
inductive VgaEngine where
  | unknown
  | sis300
  | sis315
  deriving DecidableEq, Repr

/-- `DISPMODE_SINGLE1`, `DISPMODE_SINGLE2` and `DISPMODE_MIRROR`. -/
inductive DispMode where
  | single1
  | single2
  | mirror
  deriving DecidableEq, Repr

/-- `pciinfo_t`. -/
structure PciDevice where
  vendor : UInt16
  device : UInt16
  base0 : UInt64
  base2 : UInt64
  deriving DecidableEq, Repr

/-- The static variables that `vixProbe`, `vixInit` and `vixConfigPlayback` use.  `sisVmode` has the
bits `VMODE_INTERLACED` and `VMODE_DOUBLESCAN`. -/
structure Driver where
  sisProbed : Bool
  pciInfo : PciDevice
  sisVerbose : UInt32
  sisDeviceId : UInt32
  capDeviceId : UInt16
  sisMemBase : UInt64
  sisIobase : UInt16
  sisVgaEngine : VgaEngine
  sisDisplaymode : DispMode
  sisHasTwoOverlays : Bool
  sisVmode : UInt32
  sisVbflags : UInt32
  sisOverlayOnCrt1 : Bool
  sisScreenWidth : UInt32
  sisScreenHeight : UInt32
  deriving DecidableEq, Repr

/-- `DISPTYPE_CRT1`. -/
def disptypeCrt1 : UInt32 := 0x00020000

/-- The static variables as they are initialized. -/
def Driver.initial : Driver where
  sisProbed := false
  pciInfo := ⟨0, 0, 0, 0⟩
  sisVerbose := 0
  sisDeviceId := 0xffffffff
  capDeviceId := 0xffff
  sisMemBase := 0
  sisIobase := 0
  sisVgaEngine := .unknown
  sisDisplaymode := .single1
  sisHasTwoOverlays := false
  sisVmode := 0
  sisVbflags := disptypeCrt1
  sisOverlayOnCrt1 := true
  sisScreenWidth := 640
  sisScreenHeight := 480

/-! ### Probing -/

/-- `VENDOR_SIS`. -/
def vendorSis : UInt16 := 0x1039

def deviceSis300 : UInt16 := 0x0300
def deviceSis315H : UInt16 := 0x0310
def deviceSis315 : UInt16 := 0x0315
def deviceSis315Pro : UInt16 := 0x0325
def deviceSis330 : UInt16 := 0x0330
def deviceSis540Vga : UInt16 := 0x5300
def deviceSis550Vga : UInt16 := 0x5315
def deviceSis630Vga : UInt16 := 0x6300
def deviceSis650Vga : UInt16 := 0x6325

def sisCardIds : List UInt16 :=
  [deviceSis300, deviceSis315H, deviceSis315, deviceSis315Pro, deviceSis330, deviceSis540Vga,
    deviceSis550Vga, deviceSis630Vga, deviceSis650Vga]

/-- `find_chip`; `none` is `-1`. -/
def findChip (chipId : UInt16) : Option ℕ := sisCardIds.findIdx? (· == chipId)

/-- What `enable_app_io` returns, and what is read from `CR5F` and, twice, from `CR5C`. -/
structure ChipAnswer where
  appIo : ℤ
  cr5f : UInt8
  tempreg1 : UInt8
  tempreg2 : UInt8
  deriving DecidableEq, Repr

/-- "M650 & 651 have 2 overlays". -/
def ChipAnswer.twoOverlays (a : ChipAnswer) : Bool :=
  if a.tempreg1 &&& 0xf8 = 0 ∨ a.tempreg2 &&& 0xf8 ≠ 0 then (a.cr5f &&& 0xf0) &&& 0x80 != 0
  else true

/-- `sis_has_two_overlays` and `sis_vga_engine` for a chip of the 315 series. -/
def Driver.probe315 (d : Driver) (a : ChipAnswer) : Driver :=
  let two := d.sisHasTwoOverlays || (a.appIo == 0 && a.twoOverlays)
  { d with sisHasTwoOverlays := two, sisVgaEngine := .sis315 }

/-- `switch (sis_cap.device_id)`. -/
def Driver.probeChip (d : Driver) (a : ChipAnswer) : Driver :=
  let id := d.capDeviceId
  let d := { d with sisHasTwoOverlays := false }
  if id = deviceSis300 ∨ id = deviceSis630Vga then
    { d with sisHasTwoOverlays := true, sisVgaEngine := .sis300 }
  else if id = deviceSis540Vga then { d with sisVgaEngine := .sis300 }
  else if id = deviceSis330 ∨ id = deviceSis550Vga then
    { d with sisHasTwoOverlays := true }.probe315 a
  else if id = deviceSis315H ∨ id = deviceSis315 ∨ id = deviceSis315Pro ∨
      id = deviceSis650Vga then
    d.probe315 a
  -- "should never get here"
  else { d with sisVgaEngine := .unknown }

/-- A device that the driver supports. -/
def PciDevice.isSupported (dev : PciDevice) : Bool :=
  dev.vendor == vendorSis && (findChip dev.device).isSome

/-- One round of the loop over the devices, with `err` and what the chip answers. -/
def probeDevice (s : ℤ × Driver) (x : PciDevice × ChipAnswer) : ℤ × Driver :=
  let (dev, answer) := x
  if dev.isSupported then
    let d := { s.2 with
      sisDeviceId := dev.device.toUInt32, capDeviceId := dev.device, pciInfo := dev }
    (0, d.probeChip answer)
  else s

/-- `vixProbe`; `scan` is what `pci_scan` answers, an error or the devices. -/
def vixProbe (verbose : UInt32) (scan : ℤ × List (PciDevice × ChipAnswer)) (d : Driver) :
    ℤ × Driver :=
  let (err, lst) := scan
  let d := { d with sisVerbose := verbose }
  if err ≠ 0 then (err, d)
  else
    let (err, d) := lst.foldl probeDevice (enxio, d)
    if err ≠ 0 ∧ d.sisVerbose ≠ 0 then (err, d) else (err, { d with sisProbed := true })

/-! ### Initializing -/

/-- `VMODE_INTERLACED`. -/
def vmodeInterlaced : UInt32 := 0x1

/-- `VMODE_DOUBLESCAN`. -/
def vmodeDoublescan : UInt32 := 0x2

/-- What `vixInit` is answered: by `enable_app_io` and `map_phys_mem`, by the registers `SISCR` and
`SISSR`, by `sis_init_video_bridge`, and the number in `VIDIX_CRT`, if there is one. -/
structure InitAnswer where
  appIo : ℤ
  mem : UInt64
  cr : UInt8 → UInt8
  sr : UInt8 → UInt8
  vbflags : UInt32
  crt : Option ℤ

/-- `sis_screen_height`. -/
def screenHeightOf (cr : UInt8 → UInt8) : UInt32 :=
  let crData := (cr 0x12).toUInt32
  let crData2 := (cr 0x07).toUInt32
  (crData ||| (crData2 &&& 0x02) <<< 7 ||| (crData2 &&& 0x40) <<< 3 |||
    (crData &&& 0x02) <<< 9) + 1

/-- `sis_screen_width`. -/
def screenWidthOf (cr sr : UInt8 → UInt8) : UInt32 :=
  (((cr 0x01).toUInt32 ||| ((sr 0x0b).toUInt32 &&& 0x0C) <<< 6) + 1) * 8

/-- `vixInit`. -/
def vixInit (a : InitAnswer) (d : Driver) : ℤ × Driver :=
  -- "driver was not probed but is being initialized"
  if d.sisProbed = false then (eintr, d)
  else if a.appIo ≠ 0 then (eintr, d)
  else
    let vmode := if a.sr 0x06 &&& 0x20 ≠ 0 then d.sisVmode ||| vmodeInterlaced else d.sisVmode
    (0, { d with
      sisMemBase := a.mem
      sisIobase := d.pciInfo.base2.toUInt16 &&& 0xFFFC
      sisScreenHeight := screenHeightOf a.cr
      sisScreenWidth := screenWidthOf a.cr a.sr
      sisVmode := vmode
      sisVbflags := a.vbflags
      sisOverlayOnCrt1 :=
        if a.crt = some 1 then true else if a.crt = some 2 then false else d.sisOverlayOnCrt1 })

end Vidix.Sis
