import Vidix.Libdha.Mmi
import Vidix.Types
import Mathlib.Logic.Function.Basic

/-!
# `mmi.c` and `irq.c`: the descriptors of the helper

Each of the two files keeps a descriptor of `/dev/dhahelper` in a static `libdha_fd` of its own:
`bm_open`, `bm_close` and the requests of `mmi.c`, and `hwirq_install`, `hwirq_wait` and
`hwirq_uninstall` (built with `CONFIG_LINUXHELPER`).  The numbers come from the kernel and go back
to it, and the rest of the program opens and closes files of its own.  What a request asks of the
helper is left out here; it matters which descriptor it goes to.
-/

namespace Vidix.Libdha

/-- Who has opened a descriptor: `mmi.c`, `irq.c`, or the rest of the program. -/
inductive Owner where
  | mmi
  | irq
  | program
  deriving DecidableEq, Repr

/-- The open descriptors of the process. -/
abbrev Files := ℕ → Option Owner

/-- The static variables of both files, and the descriptors. -/
structure Process where
  files : Files
  mmiFd : ℤ
  irqFd : ℤ
  hwirqLocks : Int32

/-- Nothing of the library has been called yet. -/
def Process.start (taken : ℕ → Bool) : Process where
  files fd := if taken fd then some .program else none
  mmiFd := -1
  irqFd := -1
  hwirqLocks := 0

/-- What `open` returns. -/
def fdOf : Option ℕ → ℤ
  | some fd => fd
  | none => -1

/-- `open` for one of the owners; the kernel chooses the number, or refuses. -/
def Files.opened (files : Files) (owner : Owner) : Option ℕ → Files
  | some fd => Function.update files fd (some owner)
  | none => files

/-- `close`. -/
def Files.closed (files : Files) (fd : ℤ) : Files :=
  if 0 ≤ fd then Function.update files fd.toNat none else files

/-! ### `mmi.c` -/

/-- `ALLOWED_VER`. -/
def allowedVer : Int32 := 0x10

/-- `bm_open`; `ver` is what the helper says about its version. -/
def bmOpen (opened : Option ℕ) (ver : Int32) (p : Process) : ℤ × Process :=
  let p := { p with mmiFd := fdOf opened, files := p.files.opened .mmi opened }
  let retv := if p.mmiFd > 0 then 0 else enxio
  if retv = 0 then
    -- "You have wrong version of /dev/dhahelper"
    if ver < allowedVer then (einval, { p with files := p.files.closed p.mmiFd })
    else (retv, p)
  else (retv, p)

/-- `bm_close`. -/
def bmClose (p : Process) : Process := { p with files := p.files.closed p.mmiFd }

/-! ### `irq.c` -/

/-- `hwirq_install`; `opened` is only used when there is no descriptor. -/
def hwirqInstall (opened : Option ℕ) (p : Process) : Process :=
  let p :=
    if p.irqFd = -1 then { p with irqFd := fdOf opened, files := p.files.opened .irq opened }
    else p
  { p with hwirqLocks := p.hwirqLocks + 1 }

/-- `hwirq_uninstall`. -/
def hwirqUninstall (p : Process) : Process :=
  if p.hwirqLocks = 0 then { p with files := p.files.closed p.irqFd, irqFd := -1 } else p

/-! ### Runs -/

/-- The calls of the library.  `bmRequest` stands for each of `bm_virt_to_phys`, `bm_virt_to_bus`,
`bm_lock_mem` and `bm_unlock_mem`. -/
inductive HelperCall where
  | bmOpen (opened : Option ℕ) (ver : Int32)
  | bmClose
  | bmRequest
  | hwirqInstall (opened : Option ℕ)
  | hwirqWait
  | hwirqUninstall
  deriving DecidableEq, Repr

/-- What the rest of the program does with its own descriptors. -/
inductive OwnAct where
  | opened (fd : ℕ)
  | closed (fd : ℕ)
  deriving DecidableEq, Repr

def Process.step (p : Process) : HelperCall ⊕ OwnAct → Process
  | .inl (.bmOpen opened ver) => (bmOpen opened ver p).2
  | .inl .bmClose => bmClose p
  | .inl .bmRequest => p
  | .inl (.hwirqInstall opened) => hwirqInstall opened p
  | .inl .hwirqWait => p
  | .inl .hwirqUninstall => hwirqUninstall p
  | .inr (.opened fd) => { p with files := Function.update p.files fd (some .program) }
  | .inr (.closed fd) => { p with files := Function.update p.files fd none }

/-- The descriptor that a call closes or sends a request to, and whose it takes it to be.  One that
it has just opened itself is not counted. -/
def Process.reaches (p : Process) : HelperCall → Option (Owner × ℤ)
  | .bmOpen _ _ => none
  | .bmClose => some (.mmi, p.mmiFd)
  | .bmRequest => if p.mmiFd > 0 then some (.mmi, p.mmiFd) else none
  | .hwirqInstall _ => if p.irqFd > 0 then some (.irq, p.irqFd) else none
  | .hwirqWait => if p.irqFd > 0 then some (.irq, p.irqFd) else none
  | .hwirqUninstall => if p.irqFd > 0 ∨ p.hwirqLocks = 0 then some (.irq, p.irqFd) else none

/-! ### Drivers -/

/-- What a driver does with the helper between `vixInit` and `vixDestroy`. -/
inductive Use where
  | request
  | install (opened : Option ℕ)
  | wait
  | uninstall
  deriving DecidableEq, Repr

def Use.call : Use → HelperCall
  | .request => .bmRequest
  | .install opened => .hwirqInstall opened
  | .wait => .hwirqWait
  | .uninstall => .hwirqUninstall

/-- `vixInit` calls `bm_open`, and `vixDestroy` calls `bm_close`, as in `radeon_vid.c`,
`mach64_vid.c` and `pm3_vid.c`. -/
structure Session where
  opened : Option ℕ
  ver : Int32
  uses : List Use
  deriving DecidableEq, Repr

/-- `bm_open` returns zero. -/
def Session.hasHelper (s : Session) : Bool := 0 < fdOf s.opened && !(s.ver < allowedVer)

/-- Requests are only made when `bm_open` has returned zero; `bm_close` is called in any case. -/
def Session.calls (s : Session) : List HelperCall :=
  .bmOpen s.opened s.ver ::
    ((s.uses.filter fun use => use != .request || s.hasHelper).map Use.call ++ [.bmClose])

end Vidix.Libdha
