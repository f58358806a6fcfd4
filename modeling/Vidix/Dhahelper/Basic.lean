import Vidix.Types
import Mathlib.Data.Int.Notation

/-!
# What the requests of the kernel helper share

Error numbers of `dhahelper.c`, the kernel's number for a function of a card, and the way from a
handler's result to that of `ioctl`.
-/

namespace Vidix.Dhahelper

/-- `EPERM`. -/
def eperm : ℤ := 1

/-- `EFAULT`. -/
def efault : ℤ := 14

/-- `EBUSY`. -/
def ebusy : ℤ := 16

/-- `ENODATA`. -/
def enodata : ℤ := 61

/-- Whether the argument of a request can be copied from user space. -/
abbrev Readable := Bool

/-- `PCI_DEVFN(dev, func)`. -/
def pciDevfn (dev func : Int32) : UInt8 :=
  ((dev.toUInt32 &&& 0x1f) <<< 3 ||| (func.toUInt32 &&& 0x07)).toUInt8

/-- What `ioctl` returns for the result of a handler. -/
def ioctlResult (ret : ℤ) : ℤ := if ret < 0 then -1 else ret

end Vidix.Dhahelper
