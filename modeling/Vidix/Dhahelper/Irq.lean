import Vidix.Dhahelper.Basic
import Vidix.Util.Table
import Mathlib.Data.PNat.Notation
import Mathlib.Logic.Function.Basic

/-!
# The interrupt requests of the kernel helper

`dhahelper_install_irq`, `dhahelper_free_irq`, the interrupt handler and the module's exit.  The
table `dha_irqs` has 256 entries, for the interrupt lines from 0 on; the kernel keeps, for each
line, the handlers that the module has registered, each known by its `dev_id`, the device.

The devices, and what the kernel knows about them, are a parameter (`IrqKernel`), and so is the
outcome of each call on the way.  Neither request compares the line of its device with the length
of the table.  A request for a line from 256 on works on memory behind the table; what that memory
is and what then becomes of it is not described, only that it happened (`IrqState.overrun`).
-/

namespace Vidix.Dhahelper

/-- `dhahelper_irq_t`. -/
structure DhahelperIrq where
  num : UInt32
  bus : Int32
  dev : Int32
  func : Int32
  ackRegion : Int32
  ackOffset : UInt64
  ackData : UInt32
  deriving DecidableEq, Repr

/-- What the kernel knows about its devices `δ`. -/
structure IrqKernel (δ : Type*) where
  /-- `pci_find_slot`. -/
  findSlot : Int32 → UInt8 → Option δ
  /-- `pci->irq`. -/
  irq : δ → ℕ
  /-- `pci_resource_start`. -/
  resourceStart : δ → Int32 → UInt64
  /-- `pci_resource_len`. -/
  resourceLen : δ → Int32 → UInt64
  /-- `phys_to_virt`. -/
  physToVirt : UInt64 → UInt64

/-- What `request_irq` comes to: 0, or the negative of an error number. -/
inductive RequestIrq
  | registered
  | refused (errno : ℕ+)

/-- The outcomes of the calls of an install request. -/
structure InstallCalls where
  /-- The first `copy_from_user` succeeds. -/
  readable : Readable
  request : RequestIrq
  /-- `copy_to_user(&arg->num, &irqn, sizeof(irqn))` succeeds. -/
  replied : Bool

/-- `struct dha_irq`. -/
structure DhaIrq (δ : Type*) where
  handled : Bool
  rcvd : Bool
  ackAddr : UInt64
  ackData : UInt32
  dev : Option δ
  count : UInt64

/-- The table `dha_irqs[256]`, and the module's handlers on its lines. -/
structure IrqState (δ : Type*) where
  dhaIrqs : Fin 256 → DhaIrq δ
  handlers : Fin 256 → List δ
  /-- A request has worked on memory behind the table. -/
  overrun : Bool

variable {δ : Type*}

/-- The entry of a line, if the table has one for it. -/
abbrev entryOf (irqn : ℕ) : Option (Fin 256) := Util.slot 256 irqn

/-- `memset(dha_irqs, 0, sizeof(dha_irqs))`. -/
def initDhahelper : IrqState δ where
  dhaIrqs _ :=
    { handled := false, rcvd := false, ackAddr := 0, ackData := 0, dev := none, count := 0 }
  handlers _ := []
  overrun := false

/-- A new entry and new handlers for a line. -/
def IrqState.setLine (st : IrqState δ) (irqn : Fin 256) (e : DhaIrq δ) (hs : List δ) :
    IrqState δ :=
  { st with
    dhaIrqs := Function.update st.dhaIrqs irqn e
    handlers := Function.update st.handlers irqn hs }

/-- `dhahelper_irq_handler`, as far as the table goes.  The kernel calls it for the lines that it is
registered for. -/
def dhahelperIrqHandler (irqn : Fin 256) (st : IrqState δ) : IrqState δ :=
  let e := st.dhaIrqs irqn
  if e.handled then
    st.setLine irqn { e with rcvd := true, count := e.count + 1 } (st.handlers irqn)
  else st

/-- Where the handler writes, and what: `*dha_irqs[irq].ack_addr = dha_irqs[irq].ack_data`. -/
def ackWrite (st : IrqState δ) (irqn : Fin 256) : Option (UInt64 × UInt32) :=
  let e := st.dhaIrqs irqn
  if e.handled ∧ e.ackAddr ≠ 0 then some (e.ackAddr, e.ackData) else none

/-- The device of a request. -/
def findDevice (k : IrqKernel δ) (irq : DhahelperIrq) : Option δ :=
  k.findSlot irq.bus (pciDevfn irq.dev irq.func)

/-- The entry as it is when `request_irq` is called. -/
def installEntry (k : IrqKernel δ) (irq : DhahelperIrq) (pci : δ) (old : DhaIrq δ) : DhaIrq δ where
  handled := old.handled
  rcvd := false
  ackAddr :=
    if 0 ≤ irq.ackRegion then k.physToVirt (k.resourceStart pci irq.ackRegion + irq.ackOffset)
    else 0
  ackData := if 0 ≤ irq.ackRegion then irq.ackData else old.ackData
  dev := some pci
  count := 0

/-- `dhahelper_install_irq` for a device that is there and an offset that is accepted, with the
entry of the device's line. -/
def installAt (k : IrqKernel δ) (calls : InstallCalls) (st : IrqState δ) (irq : DhahelperIrq)
    (pci : δ) (irqn : Fin 256) : ℤ × DhahelperIrq × IrqState δ :=
  if (st.dhaIrqs irqn).handled then (-ebusy, irq, st)
  else
    -- the entry is rewritten before the two calls that may still fail
    let e := installEntry k irq pci (st.dhaIrqs irqn)
    match calls.request with
    | .refused errno => (-errno, irq, st.setLine irqn e (st.handlers irqn))
    | .registered =>
      let hs := st.handlers irqn ++ [pci]
      -- `goto fail`, with the result of `request_irq` in `retval`
      if !calls.replied then (0, irq, st.setLine irqn e hs)
      else
        (0, { irq with num := UInt32.ofNat irqn }, st.setLine irqn { e with handled := true } hs)

/-- `dhahelper_install_irq`: the result, the caller's argument and the table, or `none` where the
table has no entry for the line. -/
def dhahelperInstallIrq (k : IrqKernel δ) (calls : InstallCalls) (st : IrqState δ)
    (irq : DhahelperIrq) : Option (ℤ × DhahelperIrq × IrqState δ) :=
  if !calls.readable then some (-efault, irq, st)
  else
    match findDevice k irq with
    | none => some (-einval, irq, st)
    | some pci =>
      -- without a sign: a region of less than 4 bytes lets nearly every offset pass
      if irq.ackOffset > k.resourceLen pci irq.ackRegion - 4 then some (-einval, irq, st)
      else (entryOf (k.irq pci)).map (installAt k calls st irq pci)

variable [DecidableEq δ]

/-- `dhahelper_free_irq`; `free_irq` leaves the other devices' handlers alone.  `none` is as for an
install request. -/
def dhahelperFreeIrq (k : IrqKernel δ) (readable : Readable) (st : IrqState δ)
    (irq : DhahelperIrq) : Option (ℤ × IrqState δ) :=
  if !readable then some (-efault, st)
  else
    match findDevice k irq with
    | none => some (-einval, st)
    | some pci =>
      (entryOf (k.irq pci)).map fun irqn =>
        let e := st.dhaIrqs irqn
        if e.handled then
          -- `free_irq(irqn, pci)`: the device of the request, not that of the entry
          (0, st.setLine irqn { e with handled := false } ((st.handlers irqn).erase pci))
        else (0, st)

/-- `free_irq(i, dha_irqs[i].dev)` for a line that is handled. -/
def exitLine (st : IrqState δ) (i : Fin 256) : IrqState δ :=
  let e := st.dhaIrqs i
  match e.handled, e.dev with
  | true, some pci => st.setLine i e ((st.handlers i).erase pci)
  | _, _ => st

/-- `exit_dhahelper`. -/
def exitDhahelper (st : IrqState δ) : IrqState δ := (List.finRange 256).foldl exitLine st

/-! ### Runs -/

/-- What happens to the module. -/
inductive IrqEvent
  | install (irq : DhahelperIrq) (calls : InstallCalls)
  | free (irq : DhahelperIrq) (readable : Readable)
  | interrupt (irqn : Fin 256)

/-- The state after a request. -/
def IrqState.after (st : IrqState δ) : Option (IrqState δ) → IrqState δ
  | some st' => st'
  | none => { st with overrun := true }

def irqStep (k : IrqKernel δ) (st : IrqState δ) : IrqEvent → IrqState δ
  | .install irq calls => st.after ((dhahelperInstallIrq k calls st irq).map fun r => r.2.2)
  | .free irq readable => st.after ((dhahelperFreeIrq k readable st irq).map fun r => r.2)
  | .interrupt irqn => dhahelperIrqHandler irqn st

def irqRun (k : IrqKernel δ) (evs : List IrqEvent) : IrqState δ :=
  evs.foldl (irqStep k) initDhahelper

end Vidix.Dhahelper
