import Vidix.Dhahelper.PciConfig

/-!
# `DHAHELPER_PORT`

The handler `dhahelper_port` of the kernel helper, which makes port accesses for a program that may
not make them.  The accesses that reach the hardware are recorded in their order; what a read
delivers may depend on all accesses before it (`PortHardware`).
-/

namespace Vidix.Dhahelper

/-- An access of 1, 2 or 4 bytes to a port. -/
inductive PortAccess
  | read (size : ℕ) (port : UInt16)
  | write (size : ℕ) (port : UInt16) (value : UInt32)
  deriving DecidableEq, Repr

/-- What the hardware delivers when a port is read after some accesses. -/
abbrev PortHardware := List PortAccess → ℕ → UInt16 → UInt32

/-- The low `size` bytes of a word. -/
def lowBytes (size : ℕ) (v : UInt32) : UInt32 :=
  match size with
  | 1 => v.toUInt8.toUInt32
  | 2 => v.toUInt16.toUInt32
  | _ => v

/-- `inb`, `inw` and `inl`. -/
def portIn (hw : PortHardware) (size : ℕ) (port : UInt16) (trace : List PortAccess) :
    UInt32 × List PortAccess :=
  (lowBytes size (hw trace size port), trace ++ [.read size port])

/-- `outb`, `outw` and `outl`. -/
def portOut (size : ℕ) (port : UInt16) (value : UInt32) (trace : List PortAccess) :
    List PortAccess :=
  trace ++ [.write size port (lowBytes size value)]

/-- `dhahelper_port_t`. -/
structure DhahelperPort where
  operation : Int32
  size : Int32
  addr : Int32
  value : Int32
  deriving DecidableEq, Repr

/-- `PORT_OP_READ`. -/
def portOpRead : Int32 := 1

/-- `PORT_OP_WRITE`. -/
def portOpWrite : Int32 := 2

/-- The number of the port that is accessed, which has 16 bits. -/
def DhahelperPort.port (arg : DhahelperPort) : UInt16 := arg.addr.toUInt32.toUInt16

/-- `dhahelper_port`: the result, the accesses and the caller's argument. -/
def dhahelperPort (hw : PortHardware) (readable writable : Readable) (trace : List PortAccess)
    (arg : DhahelperPort) : ℤ × List PortAccess × DhahelperPort :=
  if !readable then (-efault, trace, arg)
  else if arg.operation = portOpRead then
    match legalSize arg.size with
    | none => (-einval, trace, arg)
    | some size =>
      let (value, trace) := portIn hw size arg.port trace
      -- by now the port has been read
      if !writable then (-efault, trace, arg)
      else (0, trace, { arg with value := value.toInt32 })
  else if arg.operation = portOpWrite then
    match legalSize arg.size with
    | none => (-einval, trace, arg)
    | some size => (0, portOut size arg.port arg.value.toUInt32 trace, arg)
  else (-einval, trace, arg)

end Vidix.Dhahelper
