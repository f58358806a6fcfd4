import Vidix.Dhahelper.Basic
import Vidix.Libdha.Pci

/-!
# `DHAHELPER_PCI_FIND` and its clients

The handler `dhahelper_pci_find` of the kernel helper, and the loop of `pci_scan` that asks it for
one device after the other.  The handler keeps its place in the kernel's device list in the static
variable `pdev`, so that the state has one `pdev` for all clients.

The kernel's list is fixed; a device is known by its index.  The table `pci_list` of a client is as
long as needed here (the source does not check its 64 entries).
-/

namespace Vidix.Dhahelper

open Libdha

/-- `struct pci_dev`, as far as the handler reads it, with the configuration values it asks for. -/
structure PciDev where
  busNumber : UInt8
  devfn : UInt8
  vendor : UInt16
  device : UInt16
  resourceStart : Fin 6 → UInt64
  /-- The double word at `rom_base_reg`. -/
  romBase : UInt32
  interruptLine : UInt8
  interruptPin : UInt8
  minGnt : UInt8
  maxLat : UInt8

/-- `dhahelper_pci_device_t`. -/
structure DhahelperPciDevice where
  bus : UInt8
  card : UInt8
  func : UInt8
  vendor : UInt16
  device : UInt16
  base0 : UInt64
  base1 : UInt64
  base2 : UInt64
  baserom : UInt64
  base3 : UInt64
  base4 : UInt64
  base5 : UInt64
  irq : UInt8
  ipin : UInt8
  gnt : UInt8
  lat : UInt8
  deriving DecidableEq, Repr

/-! ### The handler -/

/-- The reply about a device.  Only the low half of `baserom` is written: `stack` is what the
uninitialised variable held. -/
def deviceReply (stack : UInt64) (d : PciDev) : DhahelperPciDevice where
  bus := d.busNumber
  card := (d.devfn >>> 3) &&& 0x1f
  func := d.devfn &&& 0x07
  vendor := d.vendor
  device := d.device
  base0 := d.resourceStart 0
  base1 := d.resourceStart 1
  base2 := d.resourceStart 2
  baserom := (stack &&& 0xffffffff00000000) ||| d.romBase.toUInt64
  base3 := d.resourceStart 3
  base4 := d.resourceStart 4
  base5 := d.resourceStart 5
  irq := d.interruptLine
  ipin := d.interruptPin
  gnt := d.minGnt
  lat := d.maxLat

/-- `memset(&this_dev,0,sizeof(dhahelper_pci_device_t))`. -/
def emptyReply : DhahelperPciDevice where
  bus := 0
  card := 0
  func := 0
  vendor := 0
  device := 0
  base0 := 0
  base1 := 0
  base2 := 0
  baserom := 0
  base3 := 0
  base4 := 0
  base5 := 0
  irq := 0
  ipin := 0
  gnt := 0
  lat := 0

/-- `pci_find_device(PCI_ANY_ID, PCI_ANY_ID, from)`: the successor in the kernel's list. -/
def pciFindDevice (devs : List PciDev) (pdev : Option ℕ) : Option (ℕ × PciDev) :=
  let next := match pdev with
    | none => 0
    | some i => i + 1
  devs[next]?.map fun d => (next, d)

/-- `dhahelper_pci_find`, when the reply can be copied: the result, the reply and `pdev`. -/
def dhahelperPciFind (devs : List PciDev) (stack : UInt64) (pdev : Option ℕ) :
    ℤ × DhahelperPciDevice × Option ℕ :=
  match pciFindDevice devs pdev with
  | some (i, d) => (0, deviceReply stack d, some i)
  | none => (-enodata, emptyReply, none)

/-! ### The clients -/

/-- `x ? x : otherwise`. -/
def orElse (x otherwise : UInt64) : UInt64 := if x = 0 then otherwise else x

/-- The entry that `pci_scan` makes of a reply; its `command` is not written. -/
def listEntry (command : UInt16) (r : DhahelperPciDevice) : Pciinfo where
  bus := r.bus
  card := r.card.toUInt16
  func := r.func.toUInt32
  command := command
  vendor := r.vendor
  device := r.device
  base0 := orElse r.base0 0xFFFFFFFF
  base1 := orElse r.base1 0xFFFFFFFF
  base2 := orElse r.base2 0xFFFFFFFF
  baserom := orElse r.baserom 0x000C0000
  base3 := orElse r.base3 0xFFFFFFFF
  base4 := orElse r.base4 0xFFFFFFFF
  base5 := orElse r.base5 0xFFFFFFFF
  irq := r.irq
  ipin := r.ipin
  gnt := r.gnt
  lat := r.lat

/-- A client in `pci_scan`: its table so far, and whether its loop has ended. -/
structure Client where
  pciList : List Pciinfo
  done : Bool

/-- The helper and two clients of it. -/
structure FindState where
  pdev : Option ℕ
  clients : Bool → Client

/-- What a request finds in memory that nobody wrote: `command` in the next entry of the client's
table, and the kernel's stack. -/
structure Leftover where
  command : UInt16
  stack : UInt64

/-- One round of `while(ioctl(libdha_fd, DHAHELPER_PCI_FIND, &pci_dev)==0)` in client `c`; a client
whose loop has ended asks no more. -/
def findStep (devs : List PciDev) (s : FindState) (r : Bool × Leftover) : FindState :=
  let c := s.clients r.1
  if c.done then s
  else
    let (ret, reply, pdev) := dhahelperPciFind devs r.2.stack s.pdev
    let c' :=
      if ret = 0 then { c with pciList := c.pciList ++ [listEntry r.2.command reply] }
      else { c with done := true }
    ⟨pdev, Function.update s.clients r.1 c'⟩

/-- The helper just loaded, and both clients before their first request. -/
def findStart : FindState := ⟨none, fun _ => ⟨[], false⟩⟩

/-- A schedule of requests. -/
def findRun (devs : List PciDev) (requests : List (Bool × Leftover)) : FindState :=
  requests.foldl (findStep devs) findStart

end Vidix.Dhahelper
