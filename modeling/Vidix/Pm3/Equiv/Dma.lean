import Vidix.Pm3.Dma
import Vidix.BusMaster.Equiv.SetupFrame
import Vidix.Libdha.Equiv.Mmi
import Vidix.Util.GuardedRun
import Mathlib.Algebra.Order.BigOperators.Group.List

/-!
# The command lists of the Permedia3 driver

A command moves whole units of 16 bytes, so that a list loses the end of a request that is not made
of them.  The list of an index is written to the memory that was set aside for the first request
with that index, whatever its size was.  An index that `internal[]` has no pointer for is not
noticed.  The lists of a run of requests are right, and there is room for them, iff each request has
an index with a pointer and, if it has a list written, is made of units, its addresses are 32-bit
ones, and it has no more pages than its index has room for: `lists_right_iff`.
-/

namespace Vidix.Pm3

open Util Libdha Dhahelper

variable {o : Outside} {vidBase : Int32} {dma : VidixDma} {bdf : Option Pm3BydmaFrame}

/-! ### Closed form -/

/-- Command `i` of a copy of `size` bytes to `start` in video memory. -/
def cmd (start size : UInt32) (pages : ℕ → UInt32) (i : ℕ) : Pm3BydmaCmd where
  busAddr := pages i
  fbAddr := start + UInt32.ofNat (i * 4096)
  mask := ~~~0
  count :=
    (if size - UInt32.ofNat (i * 4096) > pageSize then pageSize
      else size - UInt32.ofNat (i * 4096)) / 16

/-- The pages are counted right as long as rounding up does not wrap. -/
theorem pageCount_toNat {size : UInt32} (hpos : 1 ≤ size.toNat)
    (hsize : size.toNat ≤ 2 ^ 32 - 4096) : (pageCount size).toNat = items 4096 size.toNat := by
  have hpage : (pageSize : UInt32).toNat = 4096 := rfl
  have hone : (1 : UInt32).toNat = 1 := rfl
  rw [items_eq (by decide) hpos, pageCount, UInt32.toNat_div, UInt32.toNat_sub, UInt32.toNat_add,
    hpage, hone]
  omega

/-- A command as the card performs it, which moves 16 bytes for each unit of the count. -/
def Pm3BydmaCmd.transfer (c : Pm3BydmaCmd) : Transfer where
  src := c.busAddr.toNat
  dst := c.fbAddr.toNat
  len := 16 * c.count.toNat
  last := false

/-- A request that a list can describe. -/
structure Listable (o : Outside) (vidBase : Int32) (dma : VidixDma) : Prop where
  /-- It is made of the card's units. -/
  units : dma.size.toNat % 16 = 0
  /-- Its pages are counted. -/
  counted : dma.size.toNat ≤ 2 ^ 32 - 4096
  /-- They are below 4 GB on the bus. -/
  below : ∀ i < items 4096 dma.size.toNat, (busPage o.helper dma.src i).toNat < 2 ^ 32
  /-- The places where they go are 32-bit addresses. -/
  start_nonneg : 0 ≤ vidBase.toInt + dma.destOffset.toNat
  start_lt : vidBase.toInt + dma.destOffset.toNat +
    ((items 4096 dma.size.toNat - 1 : ℕ) : ℤ) * 4096 < 2 ^ 32

/-- The pages of the source are translated. -/
def Translated (o : Outside) (dma : VidixDma) : Prop :=
  (bmVirtToBus o.helper o.writable dma.src dma.size.toUInt64).1 = 0

/-- The page of the list itself is translated. -/
def ListTranslated (o : Outside) (bdf : Option Pm3BydmaFrame) : Prop :=
  (bmVirtToBus o.helper (fun _ => true) (bdf.elim o.valloc Pm3BydmaFrame.cmdsAt)
    pageSize.toUInt64).1 = 0

/-- A request of the application, and what the outside answers. -/
structure Request where
  outside : Outside
  dma : VidixDma

/-- The frames of one `vidix_dma_t`, and what the last request came to. -/
structure Session where
  vidBase : Int32
  internal : Internal
  last : Option (Request × CopyResult)
  /-- A request has used a pointer that is none of `internal[]`.  What it then did to the memory is
  not described. -/
  overrun : Bool

/-- Before the first request. -/
def Session.start (vidBase : Int32) : Session := ⟨vidBase, fun _ => none, none, false⟩

def Session.step (s : Session) (r : Request) : Session :=
  match vixPlaybackCopyFrame r.outside s.vidBase s.internal r.dma with
  | none => { s with last := none, overrun := true }
  | some result => { s with internal := result.internal, last := some (r, result) }

/-- The source starts with a page, and there is something to copy. -/
structure Sensible (_ : Session) (r : Request) : Prop where
  size_pos : 1 ≤ r.dma.size.toNat
  aligned : r.dma.src.toNat % 4096 = 0

/-- If a request with the pointer `bdf` has a list written, then the frame that the pointer leads
to, if there is one already, has room for it, and if the list is handed out, it can describe the
request. -/
structure KeepsList (vidBase : Int32) (r : Request) (bdf : Option Pm3BydmaFrame) : Prop where
  room : needsSetup r.dma bdf = true → Translated r.outside r.dma →
    ∀ f, bdf = some f → (pageCount r.dma.size).toNat ≤ f.capacity
  list : needsSetup r.dma bdf = true → Translated r.outside r.dma →
    ListTranslated r.outside bdf → Listable r.outside vidBase r.dma

/-- There is a pointer for the index of the request, and the list is kept right. -/
def KeepsRight (s : Session) (r : Request) : Prop :=
  ∃ frame : Fin 1024, r.dma.idx.toNat = frame ∧ KeepsList s.vidBase r (s.internal frame)

/-- A request of `size` bytes for buffer 0, and a kernel that answers everything. -/
def sampleRequest (size : UInt32) : Request where
  outside := { helper := sampleHelper, writable := fun _ => true, valloc := 0x1000000 }
  dma := sampleDma 0x2000 size 0 0

end Vidix.Pm3
