import Mathlib.Data.UInt
import Mathlib.Logic.Function.Basic

/-!
# PCI configuration space

The hardware under both back ends: 256 configuration bytes for each function that is there, and the
two configuration mechanisms that reach them through I/O ports.
-/

namespace Vidix.Libdha

/-- A function of a device on a bus. -/
structure Slot where
  bus : Fin 256
  dev : Fin 32
  func : Fin 8
  deriving DecidableEq, Repr

/-- The 256 configuration bytes of a function. -/
abbrev ConfigBytes := UInt8 → UInt8

/-- All configuration bytes of a machine; an absent function has none. -/
abbrev ConfigSpace := Slot → Option ConfigBytes

/-- The 16-bit little-endian value at an offset. -/
def ConfigBytes.word (c : ConfigBytes) (o : UInt8) : UInt16 :=
  (c o).toUInt16 ||| (c (o + 1)).toUInt16 <<< 8

/-- The 32-bit little-endian value at an offset. -/
def ConfigBytes.dword (c : ConfigBytes) (o : UInt8) : UInt32 :=
  (c.word o).toUInt32 ||| (c.word (o + 2)).toUInt32 <<< 16

/-- The slot with the low bits of three numbers. -/
def Slot.ofNat (bus dev func : ℕ) : Slot where
  bus := Fin.ofNat 256 bus
  dev := Fin.ofNat 32 dev
  func := Fin.ofNat 8 func

/-- The arguments that name a slot to the functions of a back end. -/
def Slot.busArg (slot : Slot) : UInt8 := UInt8.ofNat slot.bus.val
def Slot.devArg (slot : Slot) : UInt8 := UInt8.ofNat slot.dev.val
def Slot.funcArg (slot : Slot) : UInt32 := UInt32.ofNat slot.func.val

/-! ### Configuration mechanism 1 -/

/-- What port `0xCF8` selects: bits 23..16, 15..11 and 10..8 of the address. -/
def mode1Slot (addr : UInt32) : Slot :=
  Slot.ofNat (addr >>> 16).toNat (addr >>> 11).toNat (addr >>> 8).toNat

/-- The register it selects; the hardware ignores the two low bits. -/
def mode1Reg (addr : UInt32) : UInt8 := (addr &&& 0xfc).toUInt8

/-- `INPORT32(0xCFC)`: a read that nobody answers, or one that is not enabled, gives all ones. -/
def ConfigSpace.mode1In32 (cs : ConfigSpace) (addr : UInt32) : UInt32 :=
  if addr &&& 0x80000000 = 0 then 0xffffffff
  else ((cs (mode1Slot addr)).map fun c => c.dword (mode1Reg addr)).getD 0xffffffff

/-- `INPORT16(0xCFC)`: the low half of the register. -/
def ConfigSpace.mode1In16 (cs : ConfigSpace) (addr : UInt32) : UInt16 :=
  (cs.mode1In32 addr).toUInt16

/-- `INPORT8(0xCFC)`: the low byte of the register. -/
def ConfigSpace.mode1In8 (cs : ConfigSpace) (addr : UInt32) : UInt8 := (cs.mode1In32 addr).toUInt8

/-- `size` bytes at an offset replaced by the low bytes of a value, little endian. -/
def ConfigBytes.patch (c : ConfigBytes) (o : UInt8) (size : ℕ) (v : UInt32) : ConfigBytes :=
  fun i =>
  if (i - o).toNat < size then (v >>> ((i - o).toUInt32 * 8)).toUInt8 else c i

/-- The configuration space with other bytes in a slot that has some. -/
def ConfigSpace.patch (cs : ConfigSpace) (slot : Slot) (o : UInt8) (size : ℕ) (v : UInt32) :
    ConfigSpace :=
  Function.update cs slot ((cs slot).map fun c => c.patch o size v)

/-- `OUTPORT32(0xCFC, v)`, `OUTPORT16` and `OUTPORT8`: the low `size` bytes of the register. -/
def ConfigSpace.mode1Out (cs : ConfigSpace) (addr : UInt32) (size : ℕ) (v : UInt32) :
    ConfigSpace :=
  if addr &&& 0x80000000 = 0 then cs else cs.patch (mode1Slot addr) (mode1Reg addr) size v

/-! ### Configuration mechanism 2 -/

/-- `INPORT32(port)` with the bus in the forward register: ports `0xC000` to `0xCFFF` show function
0 of sixteen devices, 256 bytes each. -/
def ConfigSpace.mode2In32 (cs : ConfigSpace) (bus : UInt8) (port : UInt16) : UInt32 :=
  ((cs (Slot.ofNat bus.toNat ((port >>> 8) &&& 0xf).toNat 0)).map fun c =>
    c.dword (port &&& 0xfc).toUInt8).getD 0xffffffff

end Vidix.Libdha
