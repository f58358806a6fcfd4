import Vidix.Dhahelper.Basic
import Mathlib.Data.UInt
import Mathlib.Logic.Function.Basic

/-!
# The memory requests of the kernel helper

`dhahelper_lock_mem`, `dhahelper_unlock_mem` and `dhahelper_virt_to_bus`.  The page tables of the
calling process map page numbers to page frames, and each frame has the two flags that locking
sets; addresses are 64-bit.  What an access to an absent page leads to, and where the kernel and the
bus see a frame, is up to the machine (`Machine`).
-/

namespace Vidix.Dhahelper

/-- `PAGE_SIZE`. -/
def pageSize : UInt64 := 4096

/-- `PG_locked` and `PG_reserved`. -/
structure PageFlags where
  locked : Bool
  reserved : Bool
  deriving DecidableEq, Repr

def PageFlags.set : PageFlags := ⟨true, true⟩
def PageFlags.clear : PageFlags := ⟨false, false⟩

/-- What an access to an absent page comes to. -/
inductive Touch
  | fault
  | absent
  | mapped (frame : ℕ)
  deriving DecidableEq, Repr

/-- What the kernel and the hardware do. -/
structure Machine where
  /-- The access to a page that is not present. -/
  touch : ℕ → Touch
  /-- `page_address`. -/
  pageAddress : ℕ → UInt64
  /-- Every frame has an address in the kernel. -/
  pageAddress_ne : ∀ f, pageAddress f ≠ 0
  /-- `virt_to_bus`. -/
  virtToBus : UInt64 → UInt64

/-- The page tables of the process, and the flags of the frames. -/
structure MemState where
  frame : ℕ → Option ℕ
  flags : ℕ → PageFlags

/-- The page number of an address. -/
def pageOf (addr : UInt64) : ℕ := addr.toNat / 4096

def MemState.setFlags (st : MemState) (f : ℕ) (flags : PageFlags) : MemState :=
  { st with flags := Function.update st.flags f flags }

def MemState.mapPage (st : MemState) (p f : ℕ) : MemState :=
  { st with frame := Function.update st.frame p (some f) }

/-! ### Single pages -/

/-- `pag_lock`, which returns `EPERM` without a sign. -/
def pagLock (m : Machine) (st : MemState) (addr : UInt64) : ℤ × MemState :=
  -- the source asks whether `uvirt_to_kva` is 0
  match st.frame (pageOf addr) with
  | some f => (0, st.setFlags f .set)
  | none =>
    -- "try access it"
    match m.touch (pageOf addr) with
    | .fault => (eperm, st)
    | .absent => (eperm, st)
    | .mapped f => (0, (st.mapPage (pageOf addr) f).setFlags f .set)

/-- `pag_unlock`. -/
def pagUnlock (st : MemState) (addr : UInt64) : ℤ × MemState :=
  match st.frame (pageOf addr) with
  | some f => (0, st.setFlags f .clear)
  | none => (eperm, st)

/-- `uvirt_to_kva`: 0 for an absent page. -/
def uvirtToKva (m : Machine) (st : MemState) (addr : UInt64) : UInt64 :=
  match st.frame (pageOf addr) with
  | some f => m.pageAddress f ||| (addr &&& (pageSize - 1))
  | none => 0

def uvirtToBus (m : Machine) (st : MemState) (addr : UInt64) : UInt64 :=
  m.virtToBus (uvirtToKva m st addr)

/-! ### Requests -/

/-- `nitems = length / PAGE_SIZE; if(length % PAGE_SIZE) nitems++;`. -/
def nitems (length : UInt64) : ℕ :=
  let n := length / pageSize
  (if length % pageSize = 0 then n else n + 1).toNat

/-- `addr` in round `i` of a loop. -/
def pageAddr (addr : UInt64) (i : ℕ) : UInt64 := addr + UInt64.ofNat i * pageSize

/-- `for(j=0;j<i;j++) { pag_unlock(addr); addr += PAGE_SIZE; }`. -/
def unlockPrefix (addr : UInt64) (i : ℕ) (st : MemState) : MemState :=
  (List.range i).foldl (fun st j => (pagUnlock st (pageAddr addr j)).2) st

/-- The loop of `dhahelper_lock_mem`, from round `i` on. -/
def lockPages (m : Machine) (addr : UInt64) : ℕ → ℕ → MemState → ℤ × MemState
  | _, 0, st => (0, st)
  | i, n + 1, st =>
    let (retval, st) := pagLock m st (pageAddr addr i)
    -- the roll-back does not ask which of the pages were locked before the request
    if retval ≠ 0 then (retval, unlockPrefix addr i st) else lockPages m addr (i + 1) n st

/-- `dhahelper_lock_mem`; `readable` says whether the argument can be copied from user space. -/
def dhahelperLockMem (m : Machine) (readable : Readable) (st : MemState) (addr length : UInt64) :
    ℤ × MemState :=
  if !readable then (-efault, st) else lockPages m addr 0 (nitems length) st

/-- The loop of `dhahelper_unlock_mem`. -/
def unlockPages (addr : UInt64) : ℕ → ℕ → MemState → ℤ × MemState
  | _, 0, st => (0, st)
  | i, n + 1, st =>
    let (retval, st) := pagUnlock st (pageAddr addr i)
    if retval ≠ 0 then (retval, st) else unlockPages addr (i + 1) n st

/-- `dhahelper_unlock_mem`. -/
def dhahelperUnlockMem (readable : Readable) (st : MemState) (addr length : UInt64) :
    ℤ × MemState :=
  if !readable then (-efault, st) else unlockPages addr 0 (nitems length) st

/-- The loop of `dhahelper_virt_to_bus`: the result, and what was written to `realaddr[i]` and
behind; `writable i` says whether entry `i` can be written. -/
def virtToBusPages (m : Machine) (writable : ℕ → Bool) (st : MemState) (addr : UInt64) :
    ℕ → ℕ → ℤ × List UInt64
  | _, 0 => (0, [])
  | i, n + 1 =>
    if !writable i then (-efault, [])
    else
      let (ret, rest) := virtToBusPages m writable st addr (i + 1) n
      (ret, uvirtToBus m st (pageAddr addr i) :: rest)

/-- `dhahelper_virt_to_bus`. -/
def dhahelperVirtToBus (m : Machine) (readable : Readable) (writable : ℕ → Bool) (st : MemState)
    (addr length : UInt64) : ℤ × List UInt64 :=
  if !readable then (-efault, []) else virtToBusPages m writable st addr 0 (nitems length)

end Vidix.Dhahelper
