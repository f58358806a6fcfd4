import Vidix.Dhahelper.Irq

/-!
# The requests of the kernel helper

The numbers of `dhahelper.h`, the table of `dhahelper_ioctl`, and the two handlers that a request
about memory types can come to: `dhahelper_mtrr` and `dhahelper_ack_irq`.  The machine is one whose
`long` has 64 bits.

The outcomes of the kernel's functions are arguments.
-/

namespace Vidix.Dhahelper

/-- `ESRCH`. -/
def esrch : ℤ := 3

/-- `ERESTARTSYS`. -/
def erestartsys : ℤ := 512

/-! ### The table -/

/-- The handlers, in the order of the `switch`. -/
inductive Handler
  | getVersion
  | port
  | mtrr
  | pciConfig
  | virtToPhys
  | virtToBus
  | allocPa
  | freePa
  | lockMem
  | unlockMem
  | installIrq
  | ackIrq
  | freeIrq
  | cpuFlush
  | pciFind
  deriving DecidableEq, Repr

def Handler.all : List Handler :=
  [getVersion, port, mtrr, pciConfig, virtToPhys, virtToBus, allocPa, freePa, lockMem, unlockMem,
    installIrq, ackIrq, freeIrq, cpuFlush, pciFind]

/-- `_IOC(dir, 'D', nr, size)`. -/
def ioc (dir nr size : ℕ) : UInt32 :=
  UInt32.ofNat (dir * 2 ^ 30 + size * 2 ^ 16 + 'D'.toNat * 2 ^ 8 + nr)

/-- `_IOW` and `_IOWR` for the letter of the helper. -/
def iow (nr size : ℕ) : UInt32 := ioc 1 nr size
def iowr (nr size : ℕ) : UInt32 := ioc 3 nr size

/-- The numbers `DHAHELPER_*`, with the sizes of their arguments. -/
def Handler.number : Handler → UInt32
  | getVersion => iow 0 4
  | port => iowr 1 16
  | mtrr => iowr 2 32
  | pciConfig => iowr 3 32
  | virtToPhys => iowr 4 24
  | virtToBus => iowr 5 24
  | allocPa => iowr 6 16
  | freePa => iowr 7 16
  | lockMem => iowr 8 16
  | unlockMem => iowr 9 16
  | installIrq => iowr 10 40
  | ackIrq => iowr 11 40
  | freeIrq => iowr 12 40
  | cpuFlush => iowr 13 16
  | pciFind => iowr 14 80

/-- `dhahelper_ioctl`: the handler that a request is routed to, or the error it ends with. -/
def dhahelperIoctl (minor : ℕ) (cmd : UInt32) : Except ℤ Handler :=
  if minor ≠ 0 then .error (-enxio)
  else
    match Handler.all.find? (fun h => h.number = cmd) with
    | some h => .ok h
    | none => .error (-einval)

/-! ### `DHAHELPER_MTRR` -/

/-- `dhahelper_mtrr_t`. -/
structure DhahelperMtrr where
  operation : Int32
  start : UInt64
  size : UInt64
  type : Int32
  privat : Int32
  deriving DecidableEq, Repr

/-- `MTRR_OP_ADD`. -/
def mtrrOpAdd : Int32 := 1

/-- `MTRR_OP_DEL`. -/
def mtrrOpDel : Int32 := 2

/-- The calls of `mtrr_add` and `mtrr_del`. -/
inductive MtrrCall
  | add (base size : UInt64) (type : UInt32)
  | del (reg : Int32) (base size : UInt64)
  deriving DecidableEq, Repr

/-- `dhahelper_mtrr`: the result, the calls and the caller's argument.  `mtrrAdd` is what
`mtrr_add` returns: the register used, or a negative number. -/
def dhahelperMtrr (configMtrr : Bool) (mtrrAdd : UInt64 → UInt64 → UInt32 → Int32)
    (readable writable : Readable) (arg : DhahelperMtrr) :
    ℤ × List MtrrCall × DhahelperMtrr :=
  if !configMtrr then (0, [], arg)
  else if !readable then (-efault, [], arg)
  else if arg.operation = mtrrOpAdd then
    let type := arg.type.toUInt32
    let calls := [.add arg.start arg.size type]
    if !writable then (-efault, calls, arg)
    -- also when `mtrr_add` fails
    else (0, calls, { arg with privat := mtrrAdd arg.start arg.size type })
  else if arg.operation = mtrrOpDel then
    let calls := [.del arg.privat arg.start arg.size]
    if !writable then (-efault, calls, arg) else (0, calls, arg)
  else (-efault, [], arg)

/-! ### `DHAHELPER_ACK_IRQ` -/

/-- What ends the wait for an interrupt. -/
inductive Wake
  | interrupt
  | signal
  deriving DecidableEq, Repr

variable {δ : Type*}

/-- `dhahelper_ack_irq` for a line of the table. -/
def ackIrqAt (wake : Wake) (st : IrqState δ) (irqn : Fin 256) : ℤ × IrqState δ :=
  if !(st.dhaIrqs irqn).handled then (-esrch, st)
  else
    let received := (st.dhaIrqs irqn).rcvd
    if !received && wake = .signal then (-erestartsys, st)
    else
      let st := if received then st else dhahelperIrqHandler irqn st
      (0, st.setLine irqn { st.dhaIrqs irqn with rcvd := false } (st.handlers irqn))

/-- `dhahelper_ack_irq`, which uses the first word of its argument only, `irq.num`. -/
def dhahelperAckIrq (readable : Readable) (wake : Wake) (st : IrqState δ) (num : UInt32) :
    ℤ × IrqState δ :=
  if !readable then (-efault, st)
  else
    match entryOf num.toNat with
    -- `irq.num > 255`
    | none => (-einval, st)
    | some irqn => ackIrqAt wake st irqn

end Vidix.Dhahelper
