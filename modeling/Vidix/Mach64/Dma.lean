import Vidix.Mach64.Config
import Vidix.BusMaster.Descriptor
import Vidix.Libdha.Mmi
import Mathlib.Logic.Function.Basic

/-!
# `mach64_vid.c`: copying a frame

`mach64_setup_frame` and `vixPlaybackCopyFrame`.  The driver has a descriptor table for each of 64
source buffers; a table of fixed buffers is filled once, which the application's `vidix_dma_t`
remembers in `internal[]`.  Waiting for the card and its interrupt is not modelled.
-/

namespace Vidix.Mach64

open Libdha

/-- `BM_CMD_BYTE_COUNT`. -/
def bmCmdByteCount : UInt32 := 0x00001fff

/-- The number of descriptor tables. -/
def descTables : ℕ := 64

/-- The entries of each descriptor table, and of `dma_phys_addrs`. -/
def descEntries (d : Driver) : ℕ := (mach64RamSize d.regs).toNat / 4096

/-- The static variables for bus mastering.  The tables and `dma_phys_addrs` are as long as needed
here, and there is a table for every index. -/
structure Bm where
  /-- `mach64_dma_desc_base`: where the tables are. -/
  dmaDescBase : ℕ → UInt64
  /-- Without one of its tables `vixInit` gives up bus mastering. -/
  dmaDescBase_ne : ∀ i < descTables, dmaDescBase i ≠ 0
  /-- What is in them. -/
  tables : ℕ → List BmListDescriptor
  dmaPhysAddrs : List UInt64
  busAddrDmaDesc : UInt64

/-- `if(dmai->idx > VID_PLAY_MAXFRAMES-1) dmai->idx=0;`. -/
def clampIdx (dmai : VidixDma) : VidixDma :=
  if dmai.idx > vidPlayMaxframes - 1 then { dmai with idx := 0 } else dmai

/-- Whether the table of a fixed buffer has been filled before. -/
def reusesTable (dmai : VidixDma) : Bool := dmai.internal dmai.idx.toNat != 0 && dmai.fixedBuffs

/-- `mach64_setup_frame`; `writable` is about the entries of `dma_phys_addrs`. -/
def mach64SetupFrame (h : Helper) (writable : ℕ → Bool) (d : Driver) (bm : Bm) (dmai : VidixDma) :
    ℤ × Bm × VidixDma :=
  if d.overlayOffset.toUInt32 + dmai.destOffset + dmai.size > mach64RamSize d.regs then
    (e2big, bm, dmai)
  else
    let dmai := clampIdx dmai
    if reusesTable dmai then (0, bm, dmai)
    else
      let i := dmai.idx.toNat
      let (retval, addrs) := bmVirtToBus h writable dmai.src dmai.size.toUInt64
      let bm := { bm with dmaPhysAddrs := storeFront addrs bm.dmaPhysAddrs }
      if retval ≠ 0 then (retval, bm, dmai)
      else
        let filled := frameList d.overlayOffset bm.dmaPhysAddrs dmai
        (0, { bm with tables := Function.update bm.tables i (storeFront filled (bm.tables i)) },
          { dmai with internal := Function.update dmai.internal i (bm.dmaDescBase i) })

/-- What the outside answers to a frame copy. -/
structure Outside where
  helper : Helper
  /-- Which entries of `dma_phys_addrs` the kernel can write. -/
  writable : ℕ → Bool
  /-- The answer of `mlock`. -/
  mlock : ℤ
  /-- `errno` after a lock that failed. -/
  errno : ℤ

/-- What a frame copy leaves; `handed` is what it wrote to `BM_SYSTEM_TABLE`, which starts the
card. -/
structure CopyResult where
  ret : ℤ
  bm : Bm
  dmai : VidixDma
  handed : Option UInt32

/-- `if(!(dmai->flags & BM_DMA_FIXED_BUFFS)) bm_lock_mem(..)`. -/
def lockSource (o : Outside) (dmai : VidixDma) : ℤ × Helper :=
  if dmai.fixedBuffs then (0, o.helper)
  else bmLockMem o.helper o.mlock dmai.src dmai.size.toUInt64

/-- `vixPlaybackCopyFrame`. -/
def vixPlaybackCopyFrame (o : Outside) (d : Driver) (bm : Bm) (dmai : VidixDma) : CopyResult :=
  let (locked, h) := lockSource o dmai
  if locked ≠ 0 then { ret := o.errno, bm := bm, dmai := dmai, handed := none }
  else
    let (retval, bm, dmai) := mach64SetupFrame h o.writable d bm dmai
    -- nobody asks whether this one succeeded
    let table := bmVirtToBus h (fun _ => true) (bm.dmaDescBase dmai.idx.toNat) 1
    let bm := { bm with busAddrDmaDesc := table.2.headD bm.busAddrDmaDesc }
    if retval = 0 then
      { ret := 0, bm := bm, dmai := dmai, handed := some bm.busAddrDmaDesc.toUInt32 }
    else { ret := retval, bm := bm, dmai := dmai, handed := none }

end Vidix.Mach64
