import Vidix.Libdha.ConfigSpace
import Vidix.Util.Worklist

/-!
# `pci.c`: the bus scan

`__pci_scan` over an arbitrary back end (`sysdep/pci_*.c`): the loop over the buses found so far,
the cards of a bus and the functions of a card, for configuration type 1, and the loop over the
sixteen port windows for type 2.  `unsigned long` is `UInt64`; the fields of `struct pci_config_reg`
that are shorter are read out of it as on a little-endian machine.

The table `_pcibuses` has 16 entries.  The source does not check its index, so that a write past
the end is a fault here (`none`).
-/

namespace Vidix.Libdha

/-- The functions of a back end, and what the ports of mechanism 2 answer (`inport32`, with the bus
that the forward register holds). -/
structure Backend where
  enableAppIo : ℤ
  pciConfigType : UInt16
  pciGetVendor : UInt8 → UInt8 → UInt32 → UInt32
  pciConfigReadLong : UInt8 → UInt8 → UInt32 → UInt32 → UInt64
  inport32 : UInt8 → UInt16 → UInt32

/-- `struct pci_config_reg`, as far as the scan reads it. -/
structure PciConfigReg where
  deviceVendor : UInt32
  statusCommand : UInt64
  classRevision : UInt64
  bistHeaderLatencyCache : UInt64
  base0 : UInt64
  base1 : UInt64
  base2 : UInt64
  base3 : UInt64
  base4 : UInt64
  base5 : UInt64
  baserom : UInt64
  maxMinIpinIline : UInt64
  deriving DecidableEq, Repr

namespace PciConfigReg

def vendor (r : PciConfigReg) : UInt16 := r.deviceVendor.toUInt16
def device (r : PciConfigReg) : UInt16 := (r.deviceVendor >>> 16).toUInt16
def headerType (r : PciConfigReg) : UInt8 := (r.bistHeaderLatencyCache >>> 16).toUInt8

/-- `_secondary_bus_number` is byte 1 of the word that a device uses as `_base2`. -/
def secondaryBusNumber (r : PciConfigReg) : UInt8 := (r.base2 >>> 8).toUInt8

def intLine (r : PciConfigReg) : UInt8 := r.maxMinIpinIline.toUInt8
def intPin (r : PciConfigReg) : UInt8 := (r.maxMinIpinIline >>> 8).toUInt8
def minGnt (r : PciConfigReg) : UInt8 := (r.maxMinIpinIline >>> 16).toUInt8
def maxLat (r : PciConfigReg) : UInt8 := (r.maxMinIpinIline >>> 24).toUInt8

end PciConfigReg

/-- `pciinfo_t`. -/
structure Pciinfo where
  bus : UInt8
  /-- The device number, or the port of the device for mechanism 2. -/
  card : UInt16
  func : UInt32
  command : UInt16
  vendor : UInt16
  device : UInt16
  base0 : UInt64
  base1 : UInt64
  base2 : UInt64
  baserom : UInt64
  base3 : UInt64
  base4 : UInt64
  base5 : UInt64
  irq : UInt8
  ipin : UInt8
  gnt : UInt8
  lat : UInt8
  deriving DecidableEq, Repr

/-- `(bus, card, func)`: which function an entry is about. -/
def Pciinfo.key (e : Pciinfo) : UInt8 × UInt16 × UInt32 := (e.bus, e.card, e.func)

/-- `MAX_PCI_DEVICES`. -/
def maxPciDevices : ℕ := 64

/-- The length of `_pcibuses`. -/
def maxPciBuses : ℕ := 16

/-- The variables of `__pci_scan`: `_pcibuses` up to `_pcinumbus`, and `pci_lst` up to
`pcicards`. -/
structure ScanState where
  idx : ℕ
  hostbridges : ℕ
  pcibuses : List UInt8
  pciLst : List Pciinfo
  deriving DecidableEq, Repr

/-- A base address as `identify_card` reports it; `kind` is the register whose bit 0 it takes for
the kind of address space. -/
def baseAddr (base kind : UInt64) : UInt64 :=
  if base = 0 then 0xFFFFFFFF
  else base &&& (if kind &&& 1 = 0 then 0xFFFFFFF0 else 0xFFFFFFFC)

/-- The entry that `identify_card` writes. -/
def identifyEntry (bus : UInt8) (card : UInt16) (func : UInt32) (pcr : PciConfigReg) : Pciinfo where
  bus := bus
  card := card
  func := func
  command := (pcr.statusCommand &&& 0xFFFF).toUInt16
  vendor := pcr.vendor
  device := pcr.device
  base0 := baseAddr pcr.base0 pcr.base0
  base1 := baseAddr pcr.base1 pcr.base1
  base2 := baseAddr pcr.base2 pcr.base2
  -- the last three look at the kind of the first three
  base3 := baseAddr pcr.base3 pcr.base0
  base4 := baseAddr pcr.base4 pcr.base1
  base5 := baseAddr pcr.base5 pcr.base2
  baserom := if pcr.baserom = 0 then 0x000C0000 else pcr.baserom
  irq := pcr.intLine
  ipin := pcr.intPin
  gnt := pcr.minGnt
  lat := pcr.maxLat

/-- `identify_card`. -/
def identifyCard (e : Pciinfo) (s : ScanState) : ScanState :=
  if maxPciDevices ≤ s.pciLst.length then s else { s with pciLst := s.pciLst ++ [e] }

/-- `if (idx++ >= MAX_PCI_DEVICES) continue; identify_card(&pcr);`. -/
def countCard (e : Pciinfo) (s : ScanState) : ScanState :=
  let counted := { s with idx := s.idx + 1 }
  if maxPciDevices ≤ s.idx then counted else identifyCard e counted

/-- `_pcibuses[_pcinumbus++] = n`. -/
def pushBus (n : UInt8) (s : ScanState) : Option ScanState :=
  if s.pcibuses.length < maxPciBuses then some { s with pcibuses := s.pcibuses ++ [n] } else none

/-- "nothing there". -/
def nothingThere (deviceVendor : UInt32) : Bool :=
  deviceVendor.toUInt16 == 0xFFFF || (deviceVendor >>> 16).toUInt16 == 0xFFFF

/-! ### Configuration type 1 -/

/-- The registers that the scan reads of a function. -/
def readConfigReg (b : Backend) (bus card : UInt8) (func deviceVendor : UInt32) :
    PciConfigReg where
  deviceVendor := deviceVendor
  statusCommand := b.pciConfigReadLong bus card func 0x04
  classRevision := b.pciConfigReadLong bus card func 0x08
  bistHeaderLatencyCache := b.pciConfigReadLong bus card func 0x0C
  base0 := b.pciConfigReadLong bus card func 0x10
  base1 := b.pciConfigReadLong bus card func 0x14
  base2 := b.pciConfigReadLong bus card func 0x18
  base3 := b.pciConfigReadLong bus card func 0x1C
  base4 := b.pciConfigReadLong bus card func 0x20
  base5 := b.pciConfigReadLong bus card func 0x24
  baserom := b.pciConfigReadLong bus card func 0x30
  maxMinIpinIline := b.pciConfigReadLong bus card func 0x3C

/-- "check for pci-pci bridges": the `switch` over class and subclass. -/
def checkBridges (pcr : PciConfigReg) (s : ScanState) : Option ScanState :=
  let cls := pcr.classRevision &&& 0xffff0000
  if cls = 0x06040000 then
    if 0 < pcr.secondaryBusNumber then pushBus pcr.secondaryBusNumber s else some s
  else if cls = 0x06000000 then
    let s := { s with hostbridges := s.hostbridges + 1 }
    -- every further host bridge gets the next free index as the number of its bus
    if 1 < s.hostbridges then pushBus (UInt8.ofNat s.pcibuses.length) s else some s
  else some s

/-- Whether a function is the only one of its card. -/
def singleFunction (func : UInt32) (pcr : PciConfigReg) : Bool :=
  func == 0 && pcr.headerType &&& 0x80 == 0

/-- "loop over the different functions, if present": the functions of a card from one on. -/
def scanFunctions (b : Backend) (bus card : UInt8) : List UInt32 → ScanState → Option ScanState
  | [], s => some s
  | func :: funcs, s =>
    let deviceVendor := b.pciGetVendor bus card func
    -- `break`: the function numbers above this one are not asked for
    if nothingThere deviceVendor then some s
    else
      let pcr := readConfigReg b bus card func deviceVendor
      match checkBridges pcr s with
      | none => none
      | some s =>
        let s := countCard (identifyEntry bus card.toUInt16 func pcr) s
        if singleFunction func pcr then some s else scanFunctions b bus card funcs s

/-- The function numbers `0` to `7`. -/
def funcNumbers : List UInt32 := (List.range 8).map UInt32.ofNat

/-- The card numbers below `MAX_PCI_DEVICES_PER_BUS`. -/
def cardNumbers : List UInt8 := (List.range 32).map UInt8.ofNat

/-- The cards of a bus. -/
def scanBus1 (b : Backend) (bus : UInt8) (s : ScanState) : Option ScanState :=
  cardNumbers.foldlM (fun s card => scanFunctions b bus card funcNumbers s) s

/-! ### Configuration type 2 -/

/-- The registers of a device behind a port window; of the last one only a byte is read. -/
def readConfigReg2 (b : Backend) (bus : UInt8) (ioaddr : UInt16) (deviceVendor : UInt32) :
    PciConfigReg where
  deviceVendor := deviceVendor
  statusCommand := (b.inport32 bus (ioaddr + 0x04)).toUInt64
  classRevision := (b.inport32 bus (ioaddr + 0x08)).toUInt64
  bistHeaderLatencyCache := (b.inport32 bus (ioaddr + 0x0C)).toUInt64
  base0 := (b.inport32 bus (ioaddr + 0x10)).toUInt64
  base1 := (b.inport32 bus (ioaddr + 0x14)).toUInt64
  base2 := (b.inport32 bus (ioaddr + 0x18)).toUInt64
  base3 := (b.inport32 bus (ioaddr + 0x1C)).toUInt64
  base4 := (b.inport32 bus (ioaddr + 0x20)).toUInt64
  base5 := (b.inport32 bus (ioaddr + 0x24)).toUInt64
  baserom := (b.inport32 bus (ioaddr + 0x30)).toUInt64
  maxMinIpinIline := (b.inport32 bus (ioaddr + 0x3C)).toUInt8.toUInt64

/-- "catch ASUS P55TP4XE motherboards". -/
def asusEcho (deviceVendor : UInt32) : Bool :=
  deviceVendor.toUInt16 == 0xF0F0 || (deviceVendor >>> 16).toUInt16 == 0xF0F0

/-- "check for pci-pci bridges (currently we only know Digital)". -/
def checkBridges2 (pcr : PciConfigReg) (s : ScanState) : Option ScanState :=
  if pcr.vendor = 0x1011 ∧ pcr.device = 0x0001 ∧ 0 < pcr.secondaryBusNumber then
    pushBus pcr.secondaryBusNumber s
  else some s

/-- One port window. -/
def scanWindow (b : Backend) (bus : UInt8) (ioaddr : UInt16) (s : ScanState) : Option ScanState :=
  let deviceVendor := b.inport32 bus ioaddr
  if nothingThere deviceVendor || asusEcho deviceVendor then some s
  else
    let pcr := readConfigReg2 b bus ioaddr deviceVendor
    (checkBridges2 pcr s).map (countCard (identifyEntry bus ioaddr 0 pcr))

/-- The ports `0xC000`, `0xC100`, .., `0xCF00`. -/
def windowPorts : List UInt16 := (List.range 16).map fun i => 0xC000 + 0x0100 * UInt16.ofNat i

def scanBus2 (b : Backend) (bus : UInt8) (s : ScanState) : Option ScanState :=
  windowPorts.foldlM (fun s ioaddr => scanWindow b bus ioaddr s) s

/-! ### The bus loop -/

/-- The state before the first bus. -/
def scanStart : ScanState where
  idx := 0
  hostbridges := 0
  pcibuses := [0]
  pciLst := []

/-- `do { .. } while (++pcr._pcibusidx < pcr._pcinumbus)`. -/
def busLoop (scanBus : UInt8 → ScanState → Option ScanState) (fuel : ℕ) : Util.Walk ScanState :=
  Util.walk scanBus ScanState.pcibuses fuel 0 scanStart

/-- `ENODEV`. -/
def enodev : ℤ := 19

/-- A scan that has looked at no bus. -/
def noBuses : ScanState := { scanStart with pcibuses := [] }

/-- `__pci_scan`: the return value, and the buses and devices found. -/
def pciScan (b : Backend) (fuel : ℕ) : Util.Walk (ℤ × ScanState) :=
  if b.enableAppIo ≠ 0 then .done (b.enableAppIo, noBuses)
  else if b.pciConfigType = 0xFFFF then .done (enodev, noBuses)
  else if b.pciConfigType = 1 then (busLoop (scanBus1 b) fuel).map (0, ·)
  else if b.pciConfigType = 2 then (busLoop (scanBus2 b) fuel).map (0, ·)
  else .done (0, noBuses)

end Vidix.Libdha
