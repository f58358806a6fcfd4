import Vidix.BusMaster.Descriptor
import Vidix.Libdha.Mmi
import Vidix.Util.Table
import Mathlib.Logic.Function.Basic

/-!
# `pm3_vid.c`: copying a frame

`pm3_setup_bydma`, which writes a list of commands for the card, one for each page of the source,
and `vixPlaybackCopyFrame`, which keeps the lists in the `internal[]` of the application's
`vidix_dma_t`.  `internal[]` points to frames; here it holds the frames themselves, and the field of
that name of the request is not used.  The index of a request is not compared with the
`VID_PLAY_MAXFRAMES` pointers that there are: with an index from there on `vixPlaybackCopyFrame`
takes for a pointer what lies behind the structure, and there is no result.  Waiting for the card's
interrupt and locking the list are not modelled.
-/

namespace Vidix.Pm3

open Libdha

/-- `page_size`, which `vixInit` gets from `sysconf(_SC_PAGESIZE)`. -/
def pageSize : UInt32 := 4096

/-- `struct pm3_bydma_cmd`. -/
structure Pm3BydmaCmd where
  busAddr : UInt32
  fbAddr : UInt32
  mask : UInt32
  count : UInt32
  deriving DecidableEq, Repr

/-- `struct pm3_bydma_frame`.  The list at `cmds` is as long as needed here. -/
structure Pm3BydmaFrame where
  /-- The pointer `cmds`. -/
  cmdsAt : UInt64
  /-- The commands that memory has been set aside for there; none after it has been freed. -/
  capacity : ℕ
  /-- What is there. -/
  cmds : List Pm3BydmaCmd
  busAddr : UInt64
  count : UInt32
  deriving DecidableEq, Repr

/-- `pages = (size + page_size-1) / page_size`. -/
def pageCount (size : UInt32) : UInt32 := (size + pageSize - 1) / pageSize

/-- The loop over the commands, from command `i` on. -/
def fillCmds (baddr : ℕ → UInt64) : ℕ → ℕ → UInt32 → UInt32 → List Pm3BydmaCmd
  | _, 0, _, _ => []
  | i, n + 1, dest, size =>
    { busAddr := (baddr i).toUInt32
      fbAddr := dest
      mask := ~~~0
      -- the card counts in units of 16 bytes
      count := (if size > pageSize then pageSize else size) / 16 } ::
        fillCmds baddr (i + 1) n (dest + pageSize) (size - pageSize)

/-- What the outside answers to a frame copy. -/
structure Outside where
  helper : Helper
  /-- Which entries of `baddr` the kernel can write. -/
  writable : ℕ → Bool
  /-- The address that `valloc` answers. -/
  valloc : UInt64

/-- The commands that were written, and the number that there was room for. -/
structure Written where
  cmds : List Pm3BydmaCmd
  capacity : ℕ
  deriving DecidableEq, Repr

/-- What `pm3_setup_bydma` leaves: the return value (`none` for `NULL`), what its argument `bdf`
points to, and what it wrote. -/
structure Setup where
  ret : Option Pm3BydmaFrame
  bdf : Option Pm3BydmaFrame
  written : Option Written
  deriving DecidableEq, Repr

/-- `bdf = malloc(..); bdf->cmds = valloc(pages * sizeof(struct pm3_bydma_cmd));`. -/
def newFrame (valloc : UInt64) (pages : UInt32) : Pm3BydmaFrame where
  cmdsAt := valloc
  capacity := pages.toNat
  cmds := []
  busAddr := 0
  count := 0

/-- `free(bdf->cmds); free(bdf);`. -/
def Pm3BydmaFrame.freed (bdf : Pm3BydmaFrame) : Pm3BydmaFrame :=
  { bdf with capacity := 0, cmds := [] }

/-- `pm3_setup_bydma`. -/
def pm3SetupBydma (o : Outside) (vidBase : Int32) (dma : VidixDma) (bdf : Option Pm3BydmaFrame) :
    Setup :=
  let pages := pageCount dma.size
  let (err, baddr) := bmVirtToBus o.helper o.writable dma.src dma.size.toUInt64
  if err ≠ 0 then { ret := none, bdf := bdf, written := none }
  else
    -- a frame that is there already is taken as it is, however many commands it has room for
    let frame := bdf.getD (newFrame o.valloc pages)
    let dest := vidBase.toUInt32 + dma.destOffset
    let cmds := fillCmds (fun i => baddr.getD i 0) 0 pages.toNat dest dma.size
    let written : Written := { cmds := cmds, capacity := frame.capacity }
    let (err, own) := bmVirtToBus o.helper (fun _ => true) frame.cmdsAt pageSize.toUInt64
    let frame := { frame with
      cmds := storeFront cmds frame.cmds, count := pages, busAddr := own.headD frame.busAddr }
    if err ≠ 0 then
      { ret := none, bdf := bdf.map fun _ => frame.freed, written := some written }
    else { ret := some frame, bdf := bdf.map fun _ => frame, written := some written }

/-- `internal[VID_PLAY_MAXFRAMES]`. -/
abbrev Internal := Fin 1024 → Option Pm3BydmaFrame

/-- What a frame copy leaves; `started` is the frame whose address and count were written to
`PM3ByDMAReadCommandBase` and `PM3ByDMAReadCommandCount`, which starts the card. -/
structure CopyResult where
  ret : ℤ
  internal : Internal
  setup : Option Setup
  started : Option Pm3BydmaFrame

/-- `!bdf || !(dma->flags & BM_DMA_FIXED_BUFFS)`. -/
def needsSetup (dma : VidixDma) (bdf : Option Pm3BydmaFrame) : Bool :=
  bdf.isNone || !dma.fixedBuffs

/-- `vixPlaybackCopyFrame` with the pointer of its frame. -/
def copyFrameAt (o : Outside) (vidBase : Int32) (internal : Internal) (dma : VidixDma)
    (frame : Fin 1024) : CopyResult :=
  let bdf := internal frame
  if needsSetup dma bdf then
    let setup := pm3SetupBydma o vidBase dma bdf
    match setup.ret with
    | none =>
      -- `internal[frame]` still points to a frame that has been freed
      { ret := -1, internal := Function.update internal frame setup.bdf, setup := some setup
        started := none }
    | some new =>
      { ret := 0, internal := Function.update internal frame (some new), setup := some setup
        started := some new }
  else { ret := 0, internal := internal, setup := none, started := bdf }

/-- `vixPlaybackCopyFrame`; `none` if there is no pointer for the index. -/
def vixPlaybackCopyFrame (o : Outside) (vidBase : Int32) (internal : Internal) (dma : VidixDma) :
    Option CopyResult :=
  (Util.slot 1024 dma.idx.toNat).map (copyFrameAt o vidBase internal dma)

end Vidix.Pm3
