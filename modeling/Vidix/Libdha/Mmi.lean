import Vidix.Dhahelper.Memory

/-!
# `mmi.c`: the memory manager interface

`bm_virt_to_bus` and `bm_lock_mem`, which hand a request to the kernel helper when its device is
open.  What the kernel knows when a call is made is an argument (`Helper`).
-/

namespace Vidix.Libdha

open Dhahelper

/-- The device of the helper and what stands behind it. -/
structure Helper where
  libdhaFd : ℤ
  machine : Machine
  mem : MemState
  /-- Whether the kernel gets at the requests. -/
  readable : Readable

/-- `bm_virt_to_bus`: the return value, and what was written to `barray`; `writable i` says whether
its entry `i` can be written. -/
def bmVirtToBus (h : Helper) (writable : ℕ → Bool) (virtAddr length : UInt64) : ℤ × List UInt64 :=
  if h.libdhaFd > 0 then
    let (ret, barray) := dhahelperVirtToBus h.machine h.readable writable h.mem virtAddr length
    (ioctlResult ret, barray)
  else (enxio, [])

/-- `bm_lock_mem`: the return value and the page tables; `mlock` is what the call of that name
answers. -/
def bmLockMem (h : Helper) (mlock : ℤ) (addr length : UInt64) : ℤ × Helper :=
  if h.libdhaFd > 0 then
    let (ret, mem) := dhahelperLockMem h.machine h.readable h.mem addr length
    (ioctlResult ret, { h with mem := mem })
  else (mlock, h)

end Vidix.Libdha
