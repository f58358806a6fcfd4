import Vidix.Radeon.Config
import Vidix.BusMaster.Descriptor
import Vidix.Libdha.Mmi

/-!
# `radeon_vid.c`: copying a frame

`radeon_setup_frame`, which describes the source of a frame copy to the card, page by page, in the
build for Radeon chips (`RAGE128` not defined).
-/

namespace Vidix.Radeon

open Libdha

/-- `DMA_GUI_COMMAND__BYTE_COUNT_MASK`. -/
def dmaGuiCommandByteCountMask : UInt32 := 0x001fffff

/-- `radeon_ram_size`, as `vixInit` gets it from `CONFIG_MEMSIZE`; some Mobility M6 say 0 there. -/
def radeonRamSize (configMemsize : UInt32) (mobilityM6 : Bool) : UInt32 :=
  let ramSize := configMemsize &&& 0xff000000
  if ramSize == 0 && mobilityM6 then 8192 * 1024 else ramSize

/-- The entries of `dma_phys_addrs`, and the descriptors that `vixConfigPlayback` sets memory aside
for. -/
def descEntries (d : Driver) : ℕ := d.ramSize.toNat / 4096

/-- `dma_phys_addrs`, and the descriptors at `radeon_dma_desc_base`; both lists are as long as
needed here. -/
structure Bm where
  dmaPhysAddrs : List UInt64
  descList : List BmListDescriptor
  deriving DecidableEq, Repr

/-- `radeon_setup_frame`; `writable` is about the entries of `dma_phys_addrs`. -/
def radeonSetupFrame (h : Helper) (writable : ℕ → Bool) (d : Driver) (bm : Bm) (dmai : VidixDma) :
    ℤ × Bm :=
  -- the frames start at `radeon_overlay_off`, which the bound leaves out
  if dmai.destOffset + dmai.size > d.ramSize then (e2big, bm)
  else
    let (retval, addrs) := bmVirtToBus h writable dmai.src dmai.size.toUInt64
    let bm := { bm with dmaPhysAddrs := storeFront addrs bm.dmaPhysAddrs }
    if retval ≠ 0 then (retval, bm)
    else
      let filled := frameList d.overlayOff bm.dmaPhysAddrs dmai
      (0, { bm with descList := storeFront filled bm.descList })

end Vidix.Radeon
