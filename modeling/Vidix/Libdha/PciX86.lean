import Vidix.Libdha.Pci

/-!
# `sysdep/pci_x86.c`: the ports

Direct access through configuration mechanism 1, on a machine whose `unsigned long` has 32 bits.
-/

namespace Vidix.Libdha

/-- `PCI_EN | (bus<<16) | (dev<<11) | (func<<8)`. -/
def configCmd (bus dev : UInt8) (func : UInt32) : UInt32 :=
  (0x80000000 : UInt32) ||| bus.toUInt32 <<< 16 ||| dev.toUInt32 <<< 11 ||| func <<< 8

namespace X86

def pciGetVendor (cs : ConfigSpace) (bus dev : UInt8) (func : UInt32) : UInt32 :=
  cs.mode1In32 (configCmd bus dev func)

def pciConfigReadLong (cs : ConfigSpace) (bus dev : UInt8) (func cmd : UInt32) : UInt64 :=
  (cs.mode1In32 (configCmd bus dev func ||| cmd)).toUInt64

def pciConfigReadWord (cs : ConfigSpace) (bus dev : UInt8) (func cmd : UInt32) : UInt32 :=
  (cs.mode1In16 (configCmd bus dev func ||| cmd)).toUInt32

def pciConfigReadByte (cs : ConfigSpace) (bus dev : UInt8) (func cmd : UInt32) : UInt32 :=
  (cs.mode1In8 (configCmd bus dev func ||| cmd)).toUInt32

def pciConfigWriteLong (cs : ConfigSpace) (bus dev : UInt8) (func cmd val : UInt32) : ConfigSpace :=
  cs.mode1Out (configCmd bus dev func ||| cmd) 4 val

def pciConfigWriteWord (cs : ConfigSpace) (bus dev : UInt8) (func cmd val : UInt32) : ConfigSpace :=
  cs.mode1Out (configCmd bus dev func ||| cmd) 2 val

def pciConfigWriteByte (cs : ConfigSpace) (bus dev : UInt8) (func cmd val : UInt32) : ConfigSpace :=
  cs.mode1Out (configCmd bus dev func ||| cmd) 1 val

end X86

/-- The back end of a machine with ports, whose `pci_config_type` finds mechanism `configType`. -/
def x86Backend (cs : ConfigSpace) (configType : UInt16) : Backend where
  enableAppIo := 0
  pciConfigType := configType
  pciGetVendor := X86.pciGetVendor cs
  pciConfigReadLong := X86.pciConfigReadLong cs
  inport32 := cs.mode2In32

end Vidix.Libdha
