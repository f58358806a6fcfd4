import Vidix.Dhahelper.Ioctl

/-!
# Waiting for an interrupt

`dhahelper_ack_irq`, one step for each access to what it shares with the interrupt handler and with
the other processes that wait.  The handler, which holds the lock of the line throughout, is one
step, and so are `dhahelper_install_irq` and `dhahelper_free_irq`.

The processes `ι` and the kernel's side of them are as in `schedule`: a process that calls it in the
state `TASK_INTERRUPTIBLE`, with no signal pending, does not run again before it is woken.
-/

namespace Vidix.Dhahelper

/-- Where a process is in `dhahelper_ack_irq`. -/
inductive WaitPc
  /-- Not in the function. -/
  | out
  /-- At `add_wait_queue`. -/
  | enqueue
  /-- At `set_current_state(TASK_INTERRUPTIBLE)`. -/
  | prepare
  /-- At the top of the loop, where `rcvd` is read. -/
  | test
  /-- At `rcvd = 0`. -/
  | take
  /-- At `signal_pending`. -/
  | signalled
  /-- At `schedule`. -/
  | schedule
  /-- In `schedule`, asleep. -/
  | asleep
  /-- After the loop, at `set_current_state(TASK_RUNNING)`. -/
  | wake (retval : ℤ)
  /-- At `remove_wait_queue`, the last thing before `return retval`. -/
  | dequeue (retval : ℤ)
  deriving DecidableEq, Repr

/-- A process. -/
structure Waiter where
  pc : WaitPc
  /-- `irq.num`. -/
  num : Fin 256
  /-- The state is `TASK_INTERRUPTIBLE`, not `TASK_RUNNING`. -/
  interruptible : Bool
  /-- `signal_pending(current)`. -/
  signal : Bool
  deriving DecidableEq, Repr

/-- The table, the processes and the wait queue of each line. -/
structure WaitState (δ ι : Type*) where
  irqs : IrqState δ
  waiters : ι → Waiter
  wait : Fin 256 → List ι

variable {δ ι : Type*} [DecidableEq ι]

/-- There is a line 0. -/
theorem lines_pos : 0 < 256 := by decide

/-- After `init_dhahelper`. -/
def initWait : WaitState δ ι where
  irqs := initDhahelper
  waiters _ := { pc := .out, num := ⟨0, lines_pos⟩, interruptible := false, signal := false }
  wait _ := []

/-- A process moves on. -/
def WaitState.setWaiter (s : WaitState δ ι) (w : ι) (p : Waiter) : WaitState δ ι :=
  { s with waiters := Function.update s.waiters w p }

/-- `dha_irqs[irqn].rcvd = 0`. -/
def clearRcvd (st : IrqState δ) (irqn : Fin 256) : IrqState δ :=
  st.setLine irqn { st.dhaIrqs irqn with rcvd := false } (st.handlers irqn)

/-- The checks at the beginning of `dhahelper_ack_irq`: the line that is waited for, or the
error. -/
def ackIrqCheck (st : IrqState δ) (irq : DhahelperIrq) (readable : Readable) :
    Except ℤ (Fin 256) :=
  if !readable then .error (-efault)
  else
    match entryOf irq.num.toNat with
    -- `irq.num > 255`
    | none => .error (-einval)
    | some irqn => if !(st.dhaIrqs irqn).handled then .error (-esrch) else .ok irqn

/-- `dhahelper_ack_irq` is called; a process that is in it cannot. -/
def ackIrqCall (s : WaitState δ ι) (w : ι) (irq : DhahelperIrq) (readable : Readable) :
    WaitState δ ι :=
  let p := s.waiters w
  match p.pc, ackIrqCheck s.irqs irq readable with
  | .out, .ok irqn => s.setWaiter w { p with pc := .enqueue, num := irqn }
  | _, _ => s

/-- The next step of a process in `dhahelper_ack_irq`. -/
def ackIrqStep (s : WaitState δ ι) (w : ι) : WaitState δ ι :=
  let p := s.waiters w
  match p.pc with
  | .out => s
  | .enqueue =>
    { s with
      waiters := Function.update s.waiters w { p with pc := .prepare }
      wait := Function.update s.wait p.num (w :: s.wait p.num) }
  -- once, before the loop: a process that was woken stays `TASK_RUNNING` in its further rounds
  | .prepare => s.setWaiter w { p with pc := .test, interruptible := true }
  | .test =>
    s.setWaiter w { p with pc := if (s.irqs.dhaIrqs p.num).rcvd then .take else .signalled }
  | .take =>
    { s with
      irqs := clearRcvd s.irqs p.num
      waiters := Function.update s.waiters w { p with pc := .wake 0 } }
  | .signalled =>
    s.setWaiter w { p with pc := if p.signal then .wake (-erestartsys) else .schedule }
  | .schedule =>
    if p.interruptible && !p.signal then s.setWaiter w { p with pc := .asleep }
    else s.setWaiter w { p with pc := .test, interruptible := false }
  -- it does not run before it is woken
  | .asleep => if p.interruptible then s else s.setWaiter w { p with pc := .test }
  | .wake retval => s.setWaiter w { p with pc := .dequeue retval, interruptible := false }
  | .dequeue _ =>
    { s with
      waiters := Function.update s.waiters w { p with pc := .out }
      wait := Function.update s.wait p.num ((s.wait p.num).erase w) }

/-- `wake_up_interruptible`. -/
def wakeUpInterruptible (q : List ι) (ws : ι → Waiter) : ι → Waiter := fun w =>
  if w ∈ q then { ws w with interruptible := false } else ws w

/-- `dhahelper_irq_handler`. -/
def irqHandler (s : WaitState δ ι) (irqn : Fin 256) : WaitState δ ι :=
  { s with
    irqs := dhahelperIrqHandler irqn s.irqs
    waiters :=
      if (s.irqs.dhaIrqs irqn).handled then wakeUpInterruptible (s.wait irqn) s.waiters
      else s.waiters }

/-! ### Runs -/

/-- What happens to the module and its processes. -/
inductive WaitEvent (ι : Type*)
  | call (w : ι) (irq : DhahelperIrq) (readable : Readable)
  | step (w : ι)
  /-- A signal is sent to a process. -/
  | signal (w : ι)
  /-- A process that is back in user mode has handled its signals. -/
  | handled (w : ι)
  | interrupt (irqn : Fin 256)
  | install (irq : DhahelperIrq) (calls : InstallCalls)
  | free (irq : DhahelperIrq) (readable : Readable)

/-- The line whose entry an install request writes anew, its wait queue with it. -/
def rewrittenLine (k : IrqKernel δ) (calls : InstallCalls) (st : IrqState δ)
    (irq : DhahelperIrq) : Option (Fin 256) :=
  if !calls.readable then none
  else
    match findDevice k irq with
    | none => none
    | some pci =>
      if irq.ackOffset > k.resourceLen pci irq.ackRegion - 4 then none
      else (entryOf (k.irq pci)).filter fun irqn => !(st.dhaIrqs irqn).handled

variable [DecidableEq δ]

def waitStep (k : IrqKernel δ) (s : WaitState δ ι) : WaitEvent ι → WaitState δ ι
  | .call w irq readable => ackIrqCall s w irq readable
  | .step w => ackIrqStep s w
  | .signal w => s.setWaiter w { s.waiters w with signal := true, interruptible := false }
  | .handled w =>
    if (s.waiters w).pc = .out then s.setWaiter w { s.waiters w with signal := false } else s
  | .interrupt irqn => irqHandler s irqn
  | .install irq calls =>
    { s with
      irqs := irqStep k s.irqs (.install irq calls)
      -- `init_waitqueue_head`
      wait :=
        match rewrittenLine k calls s.irqs irq with
        | some irqn => Function.update s.wait irqn []
        | none => s.wait }
  | .free irq readable => { s with irqs := irqStep k s.irqs (.free irq readable) }

def waitRun (k : IrqKernel δ) (evs : List (WaitEvent ι)) : WaitState δ ι :=
  evs.foldl (waitStep k) initWait

/-- No install request initializes a wait queue that has processes in it. -/
def QueueFree (k : IrqKernel δ) (s : WaitState δ ι) : WaitEvent ι → Prop
  | .install irq calls =>
    ∀ irqn, rewrittenLine k calls s.irqs irq = some irqn → s.wait irqn = []
  | _ => True

end Vidix.Dhahelper
