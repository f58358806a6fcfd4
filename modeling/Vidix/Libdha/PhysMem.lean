import Mathlib.Data.UInt
import Mathlib.Data.Int.Notation

/-!
# `libdha.c`: mapping physical memory

`map_phys_mem` and `unmap_phys_mem` of the generic version.  All mappings go through one descriptor
for `/dev/dhahelper` or `/dev/mem`, which is opened for the first of them and closed after the last.
What the kernel answers to `open`, `mmap` and `munmap` is an argument.
-/

namespace Vidix.Libdha

/-- `devmem_fd` and `devmem_locks`, and the descriptors that are open. -/
structure Devmem where
  devmemFd : ℤ
  devmemLocks : UInt32
  openFds : List ℕ
  deriving DecidableEq, Repr

def Devmem.start : Devmem := ⟨-1, 0, []⟩

/-- The part of `map_phys_mem` that opens the device: `/dev/dhahelper`, or else `/dev/mem`.  If
neither can be opened the program ends (`none`). -/
def openDevmem (helper devmem : Option ℕ) (st : Devmem) : Option Devmem :=
  if st.devmemFd = -1 then
    (helper.or devmem).map fun (fd : ℕ) => { st with devmemFd := fd, openFds := fd :: st.openFds }
  else some st

/-- `map_phys_mem`: the address of the mapping (`none` for `MAP_FAILED`) and the state. -/
def mapPhysMem (helper devmem mmap : Option ℕ) (st : Devmem) : Option (Option ℕ × Devmem) :=
  (openDevmem helper devmem st).map fun st =>
    -- counted before the outcome of `mmap` is known
    (mmap, { st with devmemLocks := st.devmemLocks + 1 })

/-- `unmap_phys_mem`; the program ends when `munmap` fails. -/
def unmapPhysMem (munmap : Bool) (st : Devmem) : Option Devmem :=
  if !munmap then none
  else
    let locks := st.devmemLocks - 1
    if locks = 0 then
      some { devmemFd := -1, devmemLocks := locks,
             openFds := st.openFds.filter fun fd => (fd : ℤ) ≠ st.devmemFd }
    else some { st with devmemLocks := locks }

end Vidix.Libdha
