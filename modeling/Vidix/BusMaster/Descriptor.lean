import Vidix.Types

/-!
# Bus-master descriptors

What the frame copies of `radeon_vid.c` and `mach64_vid.c` share: the request of the application,
the descriptor that the cards read from memory, and the loop that fills a list of them, one for each
page of 4096 bytes.
-/

namespace Vidix

/-- `E2BIG`. -/
def e2big : ℤ := 7

/-- `vidix_dma_t`. -/
structure VidixDma where
  src : UInt64
  destOffset : UInt32
  size : UInt32
  flags : UInt32
  idx : UInt32
  /-- `internal[]`, with 0 for `NULL`. -/
  internal : ℕ → UInt64

/-- `BM_DMA_FIXED_BUFFS`. -/
def bmDmaFixedBuffs : UInt32 := 2

def VidixDma.fixedBuffs (dmai : VidixDma) : Bool := dmai.flags &&& bmDmaFixedBuffs != 0

/-- `bm_list_descriptor`. -/
structure BmListDescriptor where
  framebufOffset : UInt32
  sysAddr : UInt32
  command : UInt32
  reserved : UInt32
  deriving DecidableEq, Repr

/-- `DMA_GUI_COMMAND__EOL`, the same for both cards. -/
def dmaGuiCommandEol : UInt32 := 0x80000000

/-- `n = size / 4096; if(size % 4096) n++;`. -/
def pageCount (size : UInt32) : UInt32 :=
  let n := size / 4096
  if size % 4096 != 0 then n + 1 else n

/-- `count > 4096 ? 4096 : count | DMA_GUI_COMMAND__EOL`. -/
def listCommand (count : UInt32) : UInt32 :=
  if count > 4096 then 4096 else count ||| dmaGuiCommandEol

/-- The loop over the descriptors, from descriptor `i` on. -/
def fillList (overlayOff : Int32) (physAddrs : ℕ → UInt64) :
    ℕ → ℕ → UInt64 → UInt32 → List BmListDescriptor
  | _, 0, _, _ => []
  | i, n + 1, destPtr, count =>
    -- an `int32_t` and an `unsigned long`, cut to 32 bits
    { framebufOffset := (overlayOff.toInt64.toUInt64 + destPtr).toUInt32
      sysAddr := (physAddrs i).toUInt32
      command := listCommand count
      reserved := 0 } ::
        fillList overlayOff physAddrs (i + 1) n (destPtr + 4096) (count - 4096)

/-- The list of a request, when `physAddrs` has the bus addresses of its pages. -/
def frameList (overlayOff : Int32) (physAddrs : List UInt64) (dmai : VidixDma) :
    List BmListDescriptor :=
  fillList overlayOff (fun i => physAddrs.getD i 0) 0 (pageCount dmai.size).toNat
    dmai.destOffset.toUInt64 dmai.size

/-- An array whose first entries have been written. -/
def storeFront {α : Type*} (new old : List α) : List α := new ++ old.drop new.length

end Vidix
