import Vidix.Mach64.Dma

/-!
# `mach64_vid.c`: the card and the frames that are copied

`vixPlaybackCopyFrame` and `vixQueryDMAStatus` with what they do to the card, which reads a table in
memory by itself, one descriptor after the other, while the driver goes on.

Of the card there is what the driver goes by: a bit of `CRTC_INT_CNTL` that is set with the end of a
table and cleared by writing it, and the engine reset, which stops the card.  A call that finds the
status not as it wants it is still in its loop, and the event says so by changing nothing else; it
comes again as the next round.  The waits for the FIFO and the interrupt itself are left out.
-/

namespace Vidix.Mach64

open Libdha

/-- `BM_DMA_SYNC`. -/
def bmDmaSync : UInt32 := 1

def busMasterDis : UInt32 := 0x00000040
def busExtRegEn : UInt32 := 0x08000000

def crtcBusmasterEolIntEn : UInt32 := 0x01000000
def crtcBusmasterEolInt : UInt32 := 0x02000000

/-- `CRTC_INT_ACKS`: the bits of `CRTC_INT_CNTL` that are cleared by writing them. -/
def crtcIntAcks : UInt32 := 0xCAAAA514

/-- The card, as far as bus mastering goes. -/
structure Card where
  busCntl : UInt32
  crtcIntCntl : UInt32
  /-- The bus address of the table that is read, and the number of the next descriptor. -/
  reading : Option (UInt32 × ℕ)
  /-- The descriptors that have been carried out, in order. -/
  moved : List BmListDescriptor
  deriving DecidableEq, Repr

/-- `OUTREG(CRTC_INT_CNTL, v)`. -/
def Card.writeIntCntl (c : Card) (v : UInt32) : Card :=
  { c with
    crtcIntCntl := (v &&& ~~~crtcIntAcks) ||| (c.crtcIntCntl &&& crtcIntAcks &&& ~~~v) }

/-- `mach64_engine_reset`; the pulse in `GEN_TEST_CNTL` stops whatever the card is doing. -/
def mach64EngineReset (c : Card) : Card :=
  let c := { c with busCntl := c.busCntl ||| busMasterDis }
  let c := c.writeIntCntl (c.crtcIntCntl &&& ~~~(crtcBusmasterEolInt ||| crtcBusmasterEolIntEn))
  { c with reading := none }

/-- `mach64_wait_for_idle`; `hung` when the card has not become idle in all the rounds. -/
def mach64WaitForIdle (hung : Bool) (c : Card) : Card := if hung then mach64EngineReset c else c

/-- `mach64_transfer_frame`. -/
def mach64TransferFrame (hung : Bool) (baDmaDesc : UInt32) (syncMode canUseIrq : Bool) (c : Card) :
    Card :=
  let c := mach64WaitForIdle hung c
  let c := { c with busCntl := (c.busCntl ||| busExtRegEn) &&& ~~~busMasterDis }
  let c :=
    if syncMode && canUseIrq then
      c.writeIntCntl (c.crtcIntCntl ||| crtcBusmasterEolInt ||| crtcBusmasterEolIntEn)
    else c.writeIntCntl (c.crtcIntCntl ||| crtcBusmasterEolInt)
  -- `OUTREG(BM_SYSTEM_TABLE, ..)`
  { c with reading := some (baDmaDesc, 0) }

/-- `vixQueryDMAStatus`. -/
def vixQueryDmaStatus (hung : Bool) (c : Card) : ℤ × Card :=
  let c := mach64WaitForIdle hung c
  (if c.crtcIntCntl &&& crtcBusmasterEolInt ≠ 0 then 0 else 1, c)

/-! ### The card by itself -/

/-- Table `i` is at `place i` on the bus. -/
def tableAt (place : ℕ → UInt32) (addr : UInt32) : Option ℕ :=
  (List.range descTables).find? fun i => place i == addr

/-- What the card has before it in the table that it reads. -/
def Card.rest (place : ℕ → UInt32) (tables : ℕ → List BmListDescriptor) (c : Card) :
    List BmListDescriptor :=
  match c.reading with
  | none => []
  | some (addr, n) =>
    match tableAt place addr with
    | none => []
    | some i => (tables i).drop n

/-- The card carries out the next descriptor, if it may, and says so when that is the last one. -/
def Card.tick (place : ℕ → UInt32) (tables : ℕ → List BmListDescriptor) (c : Card) : Card :=
  if c.busCntl &&& busMasterDis ≠ 0 then c
  else
    match c.rest place tables with
    | [] => c
    | d :: _ =>
      if d.command &&& dmaGuiCommandEol ≠ 0 then
        { c with
          moved := c.moved ++ [d]
          reading := none
          crtcIntCntl := c.crtcIntCntl ||| crtcBusmasterEolInt }
      else
        { c with
          moved := c.moved ++ [d]
          reading := c.reading.map fun (addr, n) => (addr, n + 1) }

/-! ### Runs -/

/-- The driver, the application's `internal[]` and the card. -/
structure Transfers where
  driver : Driver
  bm : Bm
  internal : ℕ → UInt64
  card : Card
  irqInstalled : Bool
  canUseIrq : Bool

/-- What a frame copy is answered besides: whether the card hangs where the driver asks for its
status and where it starts the transfer, and what `hwirq_install` returns. -/
structure CardAnswers where
  hung : Bool
  hungAgain : Bool
  irq : ℤ
  deriving DecidableEq, Repr

/-- `if(!irq_installed) init_irq();`. -/
def Transfers.initIrq (answer : ℤ) (s : Transfers) : Transfers :=
  if s.irqInstalled then s
  else { s with irqInstalled := true, canUseIrq := s.canUseIrq || answer = 0 }

/-- `sync_mode`. -/
def VidixDma.syncMode (dmai : VidixDma) : Bool := dmai.flags &&& bmDmaSync == bmDmaSync

/-- The request that the driver gets: what the application has set, and `internal[]`. -/
def Transfers.request (s : Transfers) (dmai : VidixDma) : VidixDma :=
  { dmai with internal := s.internal }

/-- `vixPlaybackCopyFrame` from `mach64_engine_reset` on. -/
def Transfers.transfer (o : Outside) (a : CardAnswers) (dmai : VidixDma) (s : Transfers) :
    Transfers :=
  let card := mach64EngineReset s.card
  let r := vixPlaybackCopyFrame o s.driver s.bm (s.request dmai)
  { s with
    bm := r.bm
    internal := r.dmai.internal
    card :=
      match r.handed with
      | none => card
      | some addr =>
        mach64TransferFrame a.hungAgain addr (VidixDma.syncMode dmai) s.canUseIrq card }

/-- `vixPlaybackCopyFrame`. -/
def Transfers.copy (o : Outside) (a : CardAnswers) (dmai : VidixDma) (s : Transfers) : Transfers :=
  if (lockSource o (s.request dmai)).1 ≠ 0 then s
  else if VidixDma.syncMode dmai then
    let s := s.initIrq a.irq
    let (busy, card) := vixQueryDmaStatus a.hung s.card
    let s := { s with card := card }
    -- `while(vixQueryDMAStatus()!=0)`
    if busy ≠ 0 then s else s.transfer o a dmai
  else s.transfer o a dmai

/-- What happens to the driver and the card. -/
inductive TransferEvent
  | config (info : VidixPlayback)
  | copy (o : Outside) (a : CardAnswers) (dmai : VidixDma)
  | query (hung : Bool)
  /-- The card reads a descriptor. -/
  | tick
  /-- The card has other interrupts. -/
  | raise (bits : UInt32)

def Transfers.step (place : ℕ → UInt32) (s : Transfers) : TransferEvent → Transfers
  | .config info =>
    match vixConfigPlayback s.driver info with
    | some (_, d, _) => { s with driver := d }
    -- the program has ended
    | none => s
  | .copy o a dmai => s.copy o a dmai
  | .query hung => { s with card := (vixQueryDmaStatus hung s.card).2 }
  | .tick => { s with card := s.card.tick place s.bm.tables }
  | .raise bits => { s with card := { s.card with crtcIntCntl := s.card.crtcIntCntl ||| bits } }

/-- The application has a cleared `vidix_dma_t`, and the card is in some state. -/
def Transfers.start (d : Driver) (bm : Bm) (card : Card) : Transfers where
  driver := d
  bm := bm
  internal _ := 0
  card := card
  irqInstalled := false
  canUseIrq := false

end Vidix.Mach64
