import Vidix.Dhahelper.Basic
import Mathlib.Data.UInt

/-!
# The device file of the kernel helper

`dhahelper_lseek`, `dhahelper_read` and `dhahelper_write`: the file `/dev/dhahelper` is the physical
memory, from address 0 to the end of what the kernel has mapped.  A `long` has 64 bits.  Whether a
copy to or from user space succeeds is an argument.
-/

namespace Vidix.Dhahelper

/-- An open file: its position, and the memory, which all of them share. -/
structure DeviceFile where
  fPos : Int64
  memory : ℕ → UInt8

/-- A buffer in user space. -/
structure UserBuffer where
  bytes : List UInt8
  length_lt : bytes.length < 2 ^ 64

/-- `size_t count`. -/
def UserBuffer.count (buf : UserBuffer) : UInt64 := UInt64.ofNat buf.bytes.length

/-- What a call returns, and what it has put into the caller's buffer. -/
inductive FileAnswer
  | moved (pos : Int64)
  | data (bytes : List UInt8)
  | written (count : ℕ)
  | error (errno : ℤ)
  deriving DecidableEq, Repr

/-- `dhahelper_lseek`. -/
def dhahelperLseek (offset : Int64) (orig : Int32) (f : DeviceFile) : FileAnswer × DeviceFile :=
  if orig = 0 then (.moved offset, { f with fPos := offset })
  else if orig = 1 then (.moved (f.fPos + offset), { f with fPos := f.fPos + offset })
  else (.error (-einval), f)

/-- How much of the memory a transfer comes to, from `p` on. -/
def clipCount (endMem p count : UInt64) : UInt64 :=
  if count > endMem - p then endMem - p else count

/-- `copy_to_user(buf, __va(p), count)`. -/
def copyToUser (memory : ℕ → UInt8) (p count : UInt64) : List UInt8 :=
  (List.range count.toNat).map fun i => memory (p.toNat + i)

/-- `dhahelper_read`, on a machine that maps its page 0. -/
def dhahelperRead (endMem : UInt64) (count : UInt64) (copied : Bool) (f : DeviceFile) :
    FileAnswer × DeviceFile :=
  let p := f.fPos.toUInt64
  if p ≥ endMem then (.data [], f)
  else
    let count := clipCount endMem p count
    if !copied then (.error (-efault), f)
    else (.data (copyToUser f.memory p count), { f with fPos := f.fPos + count.toInt64 })

/-- The memory with `bytes` at `p`. -/
def storeBytes (memory : ℕ → UInt8) (p : ℕ) (bytes : List UInt8) : ℕ → UInt8 := fun a =>
  if p ≤ a then (bytes[a - p]?).getD (memory a) else memory a

/-- What `copy_from_user(p, buf, count)` puts into the memory: all of it, or, where it cannot read
on after some bytes, those bytes and zeros. -/
def copyFromUser (bytes : List UInt8) : Option ℕ → List UInt8
  | none => bytes
  | some n => bytes.take n ++ List.replicate (bytes.length - n) 0

/-- `do_write_mem`. -/
def doWriteMem (fault : Option ℕ) (realp : UInt64) (bytes : List UInt8) (f : DeviceFile) :
    FileAnswer × DeviceFile :=
  let memory := storeBytes f.memory realp.toNat (copyFromUser bytes fault)
  match fault with
  | some _ => (.error (-efault), { f with memory })
  | none =>
    (.written bytes.length,
      { fPos := f.fPos + (UInt64.ofNat bytes.length).toInt64, memory })

/-- `dhahelper_write`. -/
def dhahelperWrite (endMem : UInt64) (buf : UserBuffer) (fault : Option ℕ) (f : DeviceFile) :
    FileAnswer × DeviceFile :=
  let p := f.fPos.toUInt64
  if p ≥ endMem then (.written 0, f)
  else doWriteMem fault p (buf.bytes.take (clipCount endMem p buf.count).toNat) f

/-- The calls for a file. -/
inductive FileRequest
  | lseek (offset : Int64) (orig : Int32)
  | read (count : UInt64) (copied : Bool)
  | write (buf : UserBuffer) (fault : Option ℕ)

def deviceStep (endMem : UInt64) (f : DeviceFile) : FileRequest → FileAnswer × DeviceFile
  | .lseek offset orig => dhahelperLseek offset orig f
  | .read count copied => dhahelperRead endMem count copied f
  | .write buf fault => dhahelperWrite endMem buf fault f

end Vidix.Dhahelper
