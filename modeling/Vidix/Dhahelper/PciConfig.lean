import Vidix.Dhahelper.Basic
import Vidix.Libdha.PciX86

/-!
# `DHAHELPER_PCI_CONFIG` and its clients

The handler `dhahelper_pci_config` of the kernel helper, and `pci_config_read` and
`pci_config_write` of libdha with both their ways: through the helper, and through the ports.  The
machine is one whose `long` has 32 bits.

The functions of the kernel that the handler calls are a parameter (`KernelPci`).
-/

namespace Vidix.Dhahelper

open Libdha

/-- `dhahelper_pci_config_t`. -/
structure DhahelperPciConfig where
  operation : Int32
  bus : Int32
  dev : Int32
  func : Int32
  cmd : Int32
  size : Int32
  ret : UInt32
  deriving DecidableEq, Repr

/-- `PCI_OP_READ`. -/
def pciOpRead : Int32 := 0

/-- `PCI_OP_WRITE`. -/
def pciOpWrite : Int32 := 1

/-- The kernel's access to configuration space: `pci_find_slot(bus, devfn)`, and
`pci_read_config_byte`, `_word` and `_dword` and their writing counterparts, by operand size and
register.  A read that the kernel refuses leaves the caller's variable alone (`none`). -/
structure KernelPci where
  findSlot : ConfigSpace → Int32 → UInt8 → Option Slot
  readConfig : ConfigSpace → Slot → ℕ → Int32 → Option UInt32
  writeConfig : ConfigSpace → Slot → ℕ → Int32 → UInt32 → ConfigSpace

/-- The low `size` bytes of a variable replaced. -/
def storeLow (size : ℕ) (old v : UInt32) : UInt32 :=
  match size with
  | 1 => (old &&& 0xffffff00) ||| (v &&& 0xff)
  | 2 => (old &&& 0xffff0000) ||| (v &&& 0xffff)
  | _ => v

/-- The operand sizes that the `switch` statements know. -/
def legalSize (size : Int32) : Option ℕ :=
  if size = 1 then some 1 else if size = 2 then some 2 else if size = 4 then some 4 else none

/-- `case PCI_OP_WRITE:` and what follows it.  The case has no `break`, so that after the write
control falls into `default:`, which reports an unknown operation. -/
def configWrite (k : KernelPci) (cs : ConfigSpace) (pdev : Slot) (op : DhahelperPciConfig) :
    ℤ × ConfigSpace :=
  match legalSize op.size with
  | none => (-efault, cs)
  | some size => (-efault, k.writeConfig cs pdev size op.cmd op.ret)

/-- `case PCI_OP_READ:` and what follows it: without a `break`, a write of the value just read. -/
def configRead (k : KernelPci) (cs : ConfigSpace) (pdev : Slot) (op : DhahelperPciConfig) :
    ℤ × ConfigSpace :=
  match legalSize op.size with
  | none => (-efault, cs)
  | some size =>
    match k.readConfig cs pdev size op.cmd with
    | none => configWrite k cs pdev op
    | some v => configWrite k cs pdev { op with ret := storeLow size op.ret v }

/-- `dhahelper_pci_config`: the result, the configuration space and the caller's argument.  Every
way through the `switch` ends in a `return`, so that the copy to user space behind it is never
reached and the argument stays as it was. -/
def dhahelperPciConfig (k : KernelPci) (readable : Readable) (cs : ConfigSpace)
    (arg : DhahelperPciConfig) : ℤ × ConfigSpace × DhahelperPciConfig :=
  if !readable then (-efault, cs, arg)
  else
    match k.findSlot cs arg.bus (pciDevfn arg.dev arg.func) with
    | none => (-efault, cs, arg)
    | some pdev =>
      let (ret, cs) :=
        if arg.operation = pciOpRead then configRead k cs pdev arg
        else if arg.operation = pciOpWrite then configWrite k cs pdev arg
        else (-efault, cs)
      (ret, cs, arg)

/-! ### libdha -/

/-- The request of `pci_config_read` and `pci_config_write`; `ret` is what the caller's variable
holds. -/
def configRequest (operation : Int32) (bus dev func cmd : UInt8) (len : Int32) (ret : UInt32) :
    DhahelperPciConfig where
  operation := operation
  bus := bus.toUInt32.toInt32
  dev := dev.toUInt32.toInt32
  func := func.toUInt32.toInt32
  cmd := cmd.toUInt32.toInt32
  size := len
  ret := ret

/-- `pci_config_read` through the helper: the result, `*val` and the configuration space; `junk` is
the uninitialised `pcic.ret`. -/
def pciConfigReadHelper (k : KernelPci) (junk : UInt32) (cs : ConfigSpace)
    (bus dev func cmd : UInt8) (len : Int32) : ℤ × UInt32 × ConfigSpace :=
  let (ret, cs, pcic) :=
    dhahelperPciConfig k true cs (configRequest pciOpRead bus dev func cmd len junk)
  (ioctlResult ret, pcic.ret, cs)

/-- `pci_config_write` through the helper. -/
def pciConfigWriteHelper (k : KernelPci) (cs : ConfigSpace) (bus dev func cmd : UInt8)
    (len : Int32) (val : UInt32) : ℤ × ConfigSpace :=
  let (ret, cs, _) :=
    dhahelperPciConfig k true cs (configRequest pciOpWrite bus dev func cmd len val)
  (ioctlResult ret, cs)

/-- `pci_config_read` through the ports, with the result `io` of `enable_app_io`; when it fails,
`*val` keeps its value `old`. -/
def pciConfigReadDirect (io : ℤ) (old : UInt32) (cs : ConfigSpace) (bus dev func cmd : UInt8)
    (len : Int32) : ℤ × UInt32 × ConfigSpace :=
  if io ≠ 0 then (io, old, cs)
  else
    let val :=
      if len = 4 then (X86.pciConfigReadLong cs bus dev func.toUInt32 cmd.toUInt32).toUInt32
      else if len = 2 then X86.pciConfigReadWord cs bus dev func.toUInt32 cmd.toUInt32
      else if len = 1 then X86.pciConfigReadByte cs bus dev func.toUInt32 cmd.toUInt32
      else 0
    (0, val, cs)

/-- `pci_config_write` through the ports. -/
def pciConfigWriteDirect (io : ℤ) (cs : ConfigSpace) (bus dev func cmd : UInt8) (len : Int32)
    (val : UInt32) : ℤ × ConfigSpace :=
  if io ≠ 0 then (io, cs)
  else if len = 4 then (0, X86.pciConfigWriteLong cs bus dev func.toUInt32 cmd.toUInt32 val)
  else if len = 2 then (0, X86.pciConfigWriteWord cs bus dev func.toUInt32 cmd.toUInt32 val)
  else if len = 1 then (0, X86.pciConfigWriteByte cs bus dev func.toUInt32 cmd.toUInt32 val)
  else (0, cs)

end Vidix.Dhahelper
