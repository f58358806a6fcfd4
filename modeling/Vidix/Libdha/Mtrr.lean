import Vidix.Dhahelper.Ioctl
import Vidix.Util.Digits

/-!
# `mtrr.c`: the type of a range of memory

`mtrr_set_type` of a Linux library that is built with `CONFIG_LINUXHELPER`: through the kernel
helper if `/dev/dhahelper` can be opened, else through a line written to `/proc/mtrr`.  What the
kernel answers is an argument (`MtrrSystem`).

`readMtrrLine` is the kernel's documented reading of such a line: a base and a size in hexadecimal
and the name of a type.
-/

namespace Vidix.Libdha

open Dhahelper Util

/-- The types `MTRR_TYPE_*`. -/
inductive MtrrType
  | uncachable
  | wrcomb
  | wrthrough
  | wrprot
  | wrback
  deriving DecidableEq, Repr

def MtrrType.all : List MtrrType := [uncachable, wrcomb, wrthrough, wrprot, wrback]

def MtrrType.value : MtrrType → Int32
  | uncachable => 0
  | wrcomb => 1
  | wrthrough => 4
  | wrprot => 5
  | wrback => 6

/-- `stype`. -/
def MtrrType.stype : MtrrType → List Char
  | uncachable => ['u', 'n', 'c', 'a', 'c', 'h', 'a', 'b', 'l', 'e']
  | wrcomb => ['w', 'r', 'i', 't', 'e', '-', 'c', 'o', 'm', 'b', 'i', 'n', 'i', 'n', 'g']
  | wrthrough => ['w', 'r', 'i', 't', 'e', '-', 't', 'h', 'r', 'o', 'u', 'g', 'h']
  | wrprot => ['w', 'r', 'i', 't', 'e', '-', 'p', 'r', 'o', 't', 'e', 'c', 't']
  | wrback => ['w', 'r', 'i', 't', 'e', '-', 'b', 'a', 'c', 'k']

/-- `switch(type)`. -/
def mtrrTypeOf (type : Int32) : Option MtrrType :=
  MtrrType.all.find? fun t => t.value = type

/-! ### Lines of `/proc/mtrr` -/

def basePart : List Char := ['b', 'a', 's', 'e', '=', '0', 'x']
def sizePart : List Char := [' ', 's', 'i', 'z', 'e', '=', '0', 'x']
def typePart : List Char := [' ', 't', 'y', 'p', 'e', '=']

/-- `sprintf(sout,"base=0x%08X size=0x%08X type=%s\n",base,size,stype)`. -/
def mtrrLine (base size : UInt32) (type : MtrrType) : List Char :=
  basePart ++ (fixedHex 8 base.toNat ++ (sizePart ++ (fixedHex 8 size.toNat ++
    (typePart ++ (type.stype ++ ['\n'])))))

/-- The text behind `part`. -/
def readPart (part s : List Char) : Option (List Char) :=
  if part.isPrefixOf s then some (s.drop part.length) else none

/-- A hexadecimal number and the text behind it. -/
def readHex (s : List Char) : ℕ × List Char :=
  (digitsValue 16 (s.takeWhile (isDigitOf 16)), s.dropWhile (isDigitOf 16))

/-- The request that a line stands for. -/
def readMtrrLine (line : List Char) : Option (ℕ × ℕ × MtrrType) := do
  let (base, s) := readHex (← readPart basePart line)
  let (size, s) := readHex (← readPart sizePart s)
  let s ← readPart typePart s
  let type ← MtrrType.all.find? fun t => t.stype ++ ['\n'] = s
  return (base, size, type)

/-! ### `mtrr_set_type` -/

/-- What the system answers, and the state of the helper. -/
structure MtrrSystem (δ : Type*) where
  /-- `open("/dev/dhahelper",O_RDWR)`, and the minor number of the device. -/
  opened : Option ℕ
  minor : ℕ
  /-- The kernel is built with `CONFIG_MTRR`. -/
  configMtrr : Bool
  /-- The argument of `ioctl` can be copied from user space, and back. -/
  readable : Readable
  writable : Readable
  /-- What is in `mtrrs.privat`, which is not set. -/
  privat : Int32
  mtrrAdd : UInt64 → UInt64 → UInt32 → Int32
  irqs : IrqState δ
  wake : Wake
  /-- What the other handlers make of the argument. -/
  otherHandler : Handler → DhahelperMtrr → ℤ
  /-- `fopen("/proc/mtrr","wt")` succeeds, and what `fprintf` returns. -/
  procOpened : Bool
  printed : ℤ

/-- The value returned, and what has been asked of the kernel: the handler that a request of the
helper was routed to and its calls, and the lines written to `/proc/mtrr`. -/
structure MtrrOutcome where
  ret : ℤ
  handler : Option Handler
  calls : List MtrrCall
  lines : List (List Char)

variable {δ : Type*}

/-- `ioctl(dhahelper_fd, cmd, &mtrrs)`. -/
def mtrrIoctl (sys : MtrrSystem δ) (cmd : UInt32) (mtrrs : DhahelperMtrr) : MtrrOutcome :=
  match dhahelperIoctl sys.minor cmd with
  | .error ret => ⟨ioctlResult ret, none, [], []⟩
  | .ok .mtrr =>
    let (ret, calls, _) :=
      dhahelperMtrr sys.configMtrr sys.mtrrAdd sys.readable sys.writable mtrrs
    ⟨ioctlResult ret, some .mtrr, calls, []⟩
  | .ok .ackIrq =>
    -- the handler takes the first word of the argument for `irq.num`
    let (ret, _) := dhahelperAckIrq sys.readable sys.wake sys.irqs mtrrs.operation.toUInt32
    ⟨ioctlResult ret, some .ackIrq, [], []⟩
  | .ok h => ⟨ioctlResult (sys.otherHandler h mtrrs), some h, [], []⟩

/-- The part of `mtrr_set_type` that writes to `/proc/mtrr`. -/
def procMtrr (sys : MtrrSystem δ) (base size : UInt32) (type : Int32) : MtrrOutcome :=
  match mtrrTypeOf type with
  | none => ⟨einval, none, [], []⟩
  | some t =>
    if sys.procOpened then
      let sout := mtrrLine base size t
      ⟨if sys.printed = sout.length then 0 else eperm, none, [], [sout]⟩
    else ⟨enosys, none, [], []⟩

/-- `mtrr_set_type`. -/
def mtrrSetType (sys : MtrrSystem δ) (base size : UInt32) (type : Int32) : MtrrOutcome :=
  match sys.opened with
  | none => procMtrr sys base size type
  | some dhahelperFd =>
    if 0 < dhahelperFd then
      mtrrIoctl sys Handler.ackIrq.number
        { operation := mtrrOpAdd, start := base.toUInt64, size := size.toUInt64, type := type
          privat := sys.privat }
    else procMtrr sys base size type

/-- What is asked of the kernel for a range and a type, on the way that is open. -/
structure Requested (sys : MtrrSystem δ) (base size : UInt32) (type : MtrrType)
    (o : MtrrOutcome) : Prop where
  /-- With the helper open its handler adds the range, and the caller is told whether it could. -/
  helper : sys.opened.isSome →
    o.handler = some .mtrr ∧
      o.calls = [.add base.toUInt64 size.toUInt64 type.value.toUInt32] ∧
      (o.ret = 0 ↔ 0 ≤ sys.mtrrAdd base.toUInt64 size.toUInt64 type.value.toUInt32)
  /-- With the helper closed the line written to `/proc/mtrr` stands for the range. -/
  proc : sys.opened = none → sys.procOpened →
    ∃ line, o.lines = [line] ∧ readMtrrLine line = some (base.toNat, size.toNat, type)

end Vidix.Libdha
