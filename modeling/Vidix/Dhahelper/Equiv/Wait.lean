import Vidix.Dhahelper.Wait
import Vidix.Dhahelper.Equiv.Irq
import Vidix.Util.Account

/-!
# What a wait for an interrupt comes to

A process that has found `rcvd` clear and is still `TASK_INTERRUPTIBLE` has been on the wait queue
ever since, so an interrupt would have woken it: such a process sees `rcvd` clear until it is woken
(`Placed`).  No process sleeps through an interrupt, then, and one for which an interrupt is there
needs no other to get out of the function.

The other results are accounts: a process cannot come back from more waits than there were
interrupts, and in one call it sleeps once at most, since its state is set before the loop.
-/

namespace Vidix.Dhahelper

open Util

variable {δ ι : Type*} {s s' : WaitState δ ι} {w : ι} {irqn : Fin 256}

/-! ### Processes -/

/-- The process is on the wait queue of its line. -/
def WaitPc.Queued : WaitPc → Prop
  | .out | .enqueue => False
  | _ => True

/-- The process has found `rcvd` clear in this round. -/
def WaitPc.Idle : WaitPc → Prop
  | .signalled | .schedule | .asleep => True
  | _ => False

/-- `dha_irqs[irqn].rcvd`. -/
def WaitState.rcvd (s : WaitState δ ι) (irqn : Fin 256) : Bool := (s.irqs.dhaIrqs irqn).rcvd

/-- What holds of a process at each place of the function. -/
structure Placed (s : WaitState δ ι) (w : ι) : Prop where
  queued : (s.waiters w).pc.Queued → w ∈ s.wait (s.waiters w).num
  idle : (s.waiters w).pc.Idle → (s.waiters w).interruptible = true →
    s.rcvd (s.waiters w).num = false

/-- A process that has not moved stays placed, as long as no interrupt arrives. -/
theorem Placed.of_eq (h : Placed s w) (hw : s'.waiters w = s.waiters w)
    (hwait : w ∈ s.wait (s.waiters w).num → w ∈ s'.wait (s.waiters w).num)
    (hrcvd : s'.rcvd (s.waiters w).num = true → s.rcvd (s.waiters w).num = true) :
    Placed s' w where
  queued hq := by
    rw [hw] at hq ⊢
    exact hwait (h.queued hq)
  idle hi hint := by
    rw [hw] at hi hint ⊢
    have hclear := h.idle hi hint
    by_contra hset
    rw [hrcvd (by simpa using hset)] at hclear
    cases hclear

theorem clearRcvd_rcvd {st : IrqState δ} {i : Fin 256}
    (h : ((clearRcvd st i).dhaIrqs irqn).rcvd = true) : (st.dhaIrqs irqn).rcvd = true := by
  unfold clearRcvd at h
  by_cases hi : irqn = i
  · rw [hi, setLine_dhaIrqs_self] at h
    cases h
  · rwa [setLine_dhaIrqs_of_ne hi] at h

/-! ### The other processes -/

variable [DecidableEq ι]

@[simp] theorem setWaiter_self (p : Waiter) : (s.setWaiter w p).waiters w = p :=
  Function.update_self _ _ _

theorem setWaiter_of_ne {w' : ι} (h : w' ≠ w) (p : Waiter) :
    (s.setWaiter w p).waiters w' = s.waiters w' :=
  Function.update_of_ne h _ _

@[simp] theorem setWaiter_irqs (p : Waiter) : (s.setWaiter w p).irqs = s.irqs := rfl

@[simp] theorem setWaiter_wait (p : Waiter) : (s.setWaiter w p).wait = s.wait := rfl

@[simp] theorem setWaiter_rcvd (p : Waiter) : (s.setWaiter w p).rcvd irqn = s.rcvd irqn := rfl

theorem ackIrqCall_of_ne {w' : ι} (h : w' ≠ w) (irq : DhahelperIrq) (readable : Readable) :
    (ackIrqCall s w irq readable).waiters w' = s.waiters w' := by
  unfold ackIrqCall
  dsimp only
  split
  · exact setWaiter_of_ne h _
  · rfl

@[simp] theorem ackIrqCall_irqs (irq : DhahelperIrq) (readable : Readable) :
    (ackIrqCall s w irq readable).irqs = s.irqs := by
  unfold ackIrqCall
  dsimp only
  split <;> rfl

@[simp] theorem ackIrqCall_wait (irq : DhahelperIrq) (readable : Readable) :
    (ackIrqCall s w irq readable).wait = s.wait := by
  unfold ackIrqCall
  dsimp only
  split <;> rfl

/-! ### Steps -/

/-- The steps that change the process alone: its place and its state afterwards. -/
inductive Moves (s : WaitState δ ι) (w : ι) : WaitPc → Bool → Prop
  | prepares (hpc : (s.waiters w).pc = .prepare) : Moves s w .test true
  | finds (hpc : (s.waiters w).pc = .test) (hrcvd : s.rcvd (s.waiters w).num = true) :
    Moves s w .take (s.waiters w).interruptible
  | misses (hpc : (s.waiters w).pc = .test) (hrcvd : s.rcvd (s.waiters w).num = false) :
    Moves s w .signalled (s.waiters w).interruptible
  | givesUp (hpc : (s.waiters w).pc = .signalled) (hsignal : (s.waiters w).signal = true) :
    Moves s w (.wake (-erestartsys)) (s.waiters w).interruptible
  | goesOn (hpc : (s.waiters w).pc = .signalled) (hsignal : (s.waiters w).signal = false) :
    Moves s w .schedule (s.waiters w).interruptible
  | sleeps (hpc : (s.waiters w).pc = .schedule) (hint : (s.waiters w).interruptible = true)
    (hsignal : (s.waiters w).signal = false) : Moves s w .asleep (s.waiters w).interruptible
  | yields (hpc : (s.waiters w).pc = .schedule)
    (hrun : (s.waiters w).interruptible = false ∨ (s.waiters w).signal = true) :
    Moves s w .test false
  | resumes (hpc : (s.waiters w).pc = .asleep) (hint : (s.waiters w).interruptible = false) :
    Moves s w .test (s.waiters w).interruptible
  | runs (retval : ℤ) (hpc : (s.waiters w).pc = .wake retval) : Moves s w (.dequeue retval) false

/-- The ways in which a process takes its next step. -/
inductive StepResult (s : WaitState δ ι) (w : ι) : WaitState δ ι → Prop
  | stays (hpc : (s.waiters w).pc = .out ∨
      (s.waiters w).pc = .asleep ∧ (s.waiters w).interruptible = true) : StepResult s w s
  | moves (pc : WaitPc) (interruptible : Bool) (hmove : Moves s w pc interruptible) :
    StepResult s w (s.setWaiter w { s.waiters w with pc, interruptible })
  | enqueues (hpc : (s.waiters w).pc = .enqueue) :
    StepResult s w
      { s with
        waiters := Function.update s.waiters w { s.waiters w with pc := .prepare }
        wait := Function.update s.wait (s.waiters w).num (w :: s.wait (s.waiters w).num) }
  | takes (hpc : (s.waiters w).pc = .take) :
    StepResult s w
      { s with
        irqs := clearRcvd s.irqs (s.waiters w).num
        waiters := Function.update s.waiters w { s.waiters w with pc := .wake 0 } }
  | leaves (retval : ℤ) (hpc : (s.waiters w).pc = .dequeue retval) :
    StepResult s w
      { s with
        waiters := Function.update s.waiters w { s.waiters w with pc := .out }
        wait :=
          Function.update s.wait (s.waiters w).num ((s.wait (s.waiters w).num).erase w) }

theorem stepResult (s : WaitState δ ι) (w : ι) : StepResult s w (ackIrqStep s w) := by
  simp only [ackIrqStep]
  cases hpc : (s.waiters w).pc <;> dsimp only
  case out => exact .stays (.inl hpc)
  case enqueue => exact .enqueues hpc
  case prepare => exact .moves _ _ (.prepares hpc)
  case test =>
    cases hrcvd : (s.irqs.dhaIrqs (s.waiters w).num).rcvd with
    | true => exact .moves _ _ (.finds hpc hrcvd)
    | false => exact .moves _ _ (.misses hpc hrcvd)
  case take => exact .takes hpc
  case signalled =>
    by_cases hsignal : (s.waiters w).signal = true
    · rw [if_pos hsignal]
      exact .moves _ _ (.givesUp hpc hsignal)
    · rw [if_neg hsignal]
      exact .moves _ _ (.goesOn hpc (Bool.eq_false_iff.mpr hsignal))
  case schedule =>
    by_cases hsleep : ((s.waiters w).interruptible && !(s.waiters w).signal) = true
    · rw [if_pos hsleep]
      rw [Bool.and_eq_true, Bool.not_eq_true'] at hsleep
      exact .moves _ _ (.sleeps hpc hsleep.1 hsleep.2)
    · rw [if_neg hsleep]
      refine .moves _ _ (.yields hpc ?_)
      simpa [or_iff_not_imp_left] using hsleep
  case asleep =>
    by_cases hint : (s.waiters w).interruptible = true
    · rw [if_pos hint]
      exact .stays (.inr ⟨hpc, hint⟩)
    · rw [if_neg hint]
      exact .moves _ _ (.resumes hpc (Bool.eq_false_iff.mpr hint))
  case wake retval => exact .moves _ _ (.runs retval hpc)
  case dequeue retval => exact .leaves retval hpc

theorem ackIrqStep_of_ne {w' : ι} (h : w' ≠ w) :
    (ackIrqStep s w).waiters w' = s.waiters w' := by
  have hres := stepResult s w
  generalize ackIrqStep s w = s' at hres ⊢
  cases hres with
  | stays => rfl
  | moves => exact setWaiter_of_ne h _
  | _ => exact Function.update_of_ne h _ _

/-- No step of a process sets `rcvd`. -/
theorem ackIrqStep_rcvd (h : (ackIrqStep s w).rcvd irqn = true) : s.rcvd irqn = true := by
  have hres := stepResult s w
  generalize ackIrqStep s w = s' at hres h
  cases hres with
  | takes hpc => exact clearRcvd_rcvd h
  | _ => exact h

/-- No step of a process takes another one off a queue. -/
theorem ackIrqStep_wait {w' : ι} (hne : w' ≠ w) (h : w' ∈ s.wait irqn) :
    w' ∈ (ackIrqStep s w).wait irqn := by
  have hres := stepResult s w
  generalize ackIrqStep s w = s' at hres ⊢
  cases hres with
  | enqueues =>
    dsimp only
    by_cases hi : irqn = (s.waiters w).num
    · rw [hi, Function.update_self]
      exact List.mem_cons_of_mem _ (hi ▸ h)
    · rwa [Function.update_of_ne hi]
  | leaves =>
    dsimp only
    by_cases hi : irqn = (s.waiters w).num
    · rw [hi, Function.update_self]
      exact (List.mem_erase_of_ne hne).mpr (hi ▸ h)
    · rwa [Function.update_of_ne hi]
  | _ => exact h

/-! ### Placed processes -/

theorem Placed.call (h : Placed s w) (w' : ι) (irq : DhahelperIrq) (readable : Readable) :
    Placed (ackIrqCall s w' irq readable) w := by
  by_cases hw : w = w'
  · subst hw
    unfold ackIrqCall
    dsimp only
    split
    · constructor <;> rw [setWaiter_self] <;> exact False.elim
    · exact h
  · refine h.of_eq (ackIrqCall_of_ne hw irq readable) ?_ ?_
    · rw [ackIrqCall_wait]
      exact id
    · unfold WaitState.rcvd
      rw [ackIrqCall_irqs]
      exact id

omit [DecidableEq ι] in
/-- Only processes on the queue take such steps. -/
theorem Moves.queued {pc : WaitPc} {interruptible : Bool} (h : Moves s w pc interruptible) :
    (s.waiters w).pc.Queued := by
  cases h with
  | prepares hpc | finds hpc | misses hpc | givesUp hpc | goesOn hpc | sleeps hpc | yields hpc
  | resumes hpc | runs _ hpc =>
    rw [hpc]
    trivial

omit [DecidableEq ι] in
theorem Moves.idle {pc : WaitPc} {interruptible : Bool} (h : Moves s w pc interruptible)
    (hplaced : Placed s w) (hidle : pc.Idle) (hint : interruptible = true) :
    s.rcvd (s.waiters w).num = false := by
  cases h with
  | misses hpc hrcvd => exact hrcvd
  | goesOn hpc | sleeps hpc => exact hplaced.idle (by rw [hpc]; trivial) hint
  | _ => exact hidle.elim

/-- The step of a process leaves it placed: when it finds `rcvd` clear it is on the queue. -/
theorem Placed.step_self (h : Placed s w) : Placed (ackIrqStep s w) w := by
  have hres := stepResult s w
  generalize ackIrqStep s w = s' at hres ⊢
  cases hres with
  | stays => exact h
  | enqueues hpc =>
    constructor <;> dsimp only <;> rw [Function.update_self]
    · intro _
      rw [Function.update_self]
      exact List.mem_cons_self
    · exact False.elim
  | takes hpc =>
    constructor <;> dsimp only <;> rw [Function.update_self]
    · intro _
      exact h.queued (by rw [hpc]; trivial)
    · exact False.elim
  | leaves retval hpc =>
    constructor <;> dsimp only <;> rw [Function.update_self] <;> exact False.elim
  | moves pc interruptible hmove =>
    constructor <;> rw [setWaiter_self] <;> dsimp only [setWaiter_wait, setWaiter_rcvd]
    · exact fun _ => h.queued hmove.queued
    · exact hmove.idle h

theorem Placed.step (h : Placed s w) (w' : ι) : Placed (ackIrqStep s w') w := by
  by_cases hw : w = w'
  · subst hw
    exact h.step_self
  · exact h.of_eq (ackIrqStep_of_ne hw) (ackIrqStep_wait hw) ackIrqStep_rcvd

/-- A process that is running, with or without a signal, may see `rcvd` set at any place. -/
theorem Placed.setWaiter (h : Placed s w) (w' : ι) {p : Waiter} (hpc : p.pc = (s.waiters w').pc)
    (hnum : p.num = (s.waiters w').num)
    (hint : p.interruptible = true → (s.waiters w').interruptible = true) :
    Placed (s.setWaiter w' p) w := by
  by_cases hw : w = w'
  · subst hw
    constructor <;> rw [setWaiter_self] <;> dsimp only [setWaiter_wait, setWaiter_rcvd] <;>
      rw [hpc, hnum]
    · exact h.queued
    · exact fun hidle hp => h.idle hidle (hint hp)
  · exact h.of_eq (setWaiter_of_ne hw p) id id

theorem rcvd_interrupt_of_ne {i : Fin 256} (h : i ≠ irqn) :
    (irqHandler s irqn).rcvd i = s.rcvd i := by
  unfold irqHandler WaitState.rcvd dhahelperIrqHandler
  dsimp only
  split
  · rw [setLine_dhaIrqs_of_ne h]
  · rfl

theorem WaitPc.Idle.queued {pc : WaitPc} (h : pc.Idle) : pc.Queued := by
  cases pc <;> trivial

/-- The handler sets `rcvd` and wakes the processes that have seen it clear. -/
theorem Placed.interrupt (h : Placed s w) (irqn : Fin 256) : Placed (irqHandler s irqn) w := by
  by_cases hhandled : (s.irqs.dhaIrqs irqn).handled = true
  · have hwaiters : (irqHandler s irqn).waiters w =
        wakeUpInterruptible (s.wait irqn) s.waiters w := by
      unfold irqHandler
      dsimp only
      rw [if_pos hhandled]
    by_cases hqueue : w ∈ s.wait irqn
    · rw [wakeUpInterruptible, if_pos hqueue] at hwaiters
      constructor <;> rw [hwaiters]
      · exact h.queued
      · intro _ hint
        cases hint
    · rw [wakeUpInterruptible, if_neg hqueue] at hwaiters
      constructor <;> rw [hwaiters]
      · exact h.queued
      · intro hidle hint
        have hmem := h.queued hidle.queued
        have hline : (s.waiters w).num ≠ irqn := fun heq => hqueue (heq ▸ hmem)
        rw [rcvd_interrupt_of_ne hline]
        exact h.idle hidle hint
  · have hsame : irqHandler s irqn = s := by
      unfold irqHandler dhahelperIrqHandler
      simp [hhandled]
    rw [hsame]
    exact h

/-- No install request sets `rcvd`. -/
theorem install_rcvd {k : IrqKernel δ} {calls : InstallCalls} {st : IrqState δ}
    {irq : DhahelperIrq}
    (h : ((st.after ((dhahelperInstallIrq k calls st irq).map fun r => r.2.2)).dhaIrqs
      irqn).rcvd = true) : (st.dhaIrqs irqn).rcvd = true := by
  have hline : ∀ (i : Fin 256) (e : DhaIrq δ) (hs : List δ), e.rcvd = false →
      ((st.setLine i e hs).dhaIrqs irqn).rcvd = true → (st.dhaIrqs irqn).rcvd = true := by
    intro i e hs he hset
    by_cases hi : irqn = i
    · rw [hi, setLine_dhaIrqs_self, he] at hset
      cases hset
    · rwa [setLine_dhaIrqs_of_ne hi] at hset
  have hres := installResult k calls st irq
  generalize dhahelperInstallIrq k calls st irq = r at hres h
  cases hres with
  | rejected | overruns => exact h
  | refused pci => exact hline _ _ _ rfl h
  | unreplied pci => exact hline _ _ _ rfl h
  | installed pci => exact hline _ _ _ rfl h

variable [DecidableEq δ] {k : IrqKernel δ} {evs : List (WaitEvent ι)}

theorem free_rcvd {readable : Readable} {st : IrqState δ} {irq : DhahelperIrq}
    (h : ((st.after ((dhahelperFreeIrq k readable st irq).map fun r => r.2)).dhaIrqs
      irqn).rcvd = true) : (st.dhaIrqs irqn).rcvd = true := by
  have hres := freeResult k readable st irq
  generalize dhahelperFreeIrq k readable st irq = r at hres h
  cases hres with
  | nothing | overruns => exact h
  | freed pci i =>
    dsimp only [Option.map_some, IrqState.after] at h
    by_cases hi : irqn = i
    · rw [hi, setLine_dhaIrqs_self] at h
      rw [hi]
      exact h
    · rwa [setLine_dhaIrqs_of_ne hi] at h

/-- An install request that initializes an empty queue leaves the queues as they are. -/
theorem install_wait {irq : DhahelperIrq} {calls : InstallCalls}
    (hok : QueueFree k s (.install irq calls)) :
    (waitStep k s (.install irq calls)).wait = s.wait := by
  unfold waitStep
  dsimp only
  cases hline : rewrittenLine k calls s.irqs irq with
  | none => rfl
  | some irqn =>
    dsimp only
    rw [← hok irqn hline]
    exact Function.update_eq_self _ _

theorem Placed.waitStep (h : Placed s w) {ev : WaitEvent ι} (hok : QueueFree k s ev) :
    Placed (waitStep k s ev) w := by
  cases ev with
  | call w' irq readable => exact h.call w' irq readable
  | step w' => exact h.step w'
  | signal w' =>
    refine h.setWaiter w' rfl rfl fun hint => ?_
    cases hint
  | handled w' =>
    unfold Dhahelper.waitStep
    dsimp only
    split
    · exact h.setWaiter w' rfl rfl id
    · exact h
  | interrupt irqn => exact h.interrupt irqn
  | install irq calls =>
    refine h.of_eq rfl ?_ install_rcvd
    rw [install_wait hok]
    exact id
  | free irq readable => exact h.of_eq rfl id free_rcvd

/-- All processes are placed. -/
def Waiting (s : WaitState δ ι) : Prop := ∀ w, Placed s w

theorem waiting_of_run (h : Guarded (waitStep k) (QueueFree k) initWait evs) :
    Waiting (waitRun k evs) := by
  refine h.invariant (fun s ev hs hok w => (hs w).waitStep hok) fun w => ?_
  constructor <;> exact False.elim

/-- **No process sleeps through an interrupt.** -/
theorem asleep_rcvd (h : Guarded (waitStep k) (QueueFree k) initWait evs) (w : ι)
    (hasleep : ((waitRun k evs).waiters w).pc = .asleep)
    (hint : ((waitRun k evs).waiters w).interruptible = true) :
    ((waitRun k evs).irqs.dhaIrqs ((waitRun k evs).waiters w).num).rcvd = false :=
  (waiting_of_run h w).idle (by rw [hasleep]; trivial) hint

/-- A process goes to sleep on line 10. -/
def sleepEvents : List (WaitEvent Unit) :=
  [.install (slotIrq 0) ⟨true, .registered, true⟩, .call () { slotIrq 0 with num := 10 } true] ++
    List.replicate 5 (.step ())

theorem sleepEvents_guarded :
    Guarded (waitStep sharedLine) (QueueFree sharedLine) initWait sleepEvents :=
  ⟨fun _ _ => rfl, trivial, trivial, trivial, trivial, trivial, trivial, trivial⟩

theorem asleep_rcvd_sleepEvents :
    ((waitRun sharedLine sleepEvents).waiters ()).pc = .asleep ∧
      ((waitRun sharedLine sleepEvents).irqs.dhaIrqs 10).rcvd = false :=
  ⟨by decide, asleep_rcvd sleepEvents_guarded () (by decide) (by decide)⟩

/-! ### A process by itself -/

/-- A process that has not come out of the loop yet. -/
def WaitPc.Waits : WaitPc → Prop
  | .out | .wake _ | .dequeue _ => False
  | _ => True

/-- Within `n` steps of its own the process is about to return: 0, or for a signal. -/
def Ends (s : WaitState δ ι) (w : ι) (n : ℕ) : Prop :=
  ∃ m ≤ n, ∃ retval,
    let p := (((ackIrqStep · w)^[m]) s).waiters w
    p.pc = .dequeue retval ∧ (retval = 0 ∨ retval = -erestartsys ∧ p.signal = true)

omit [DecidableEq δ] in
theorem Ends.of_step {n : ℕ} (h : Ends (ackIrqStep s w) w n) : Ends s w (n + 1) := by
  obtain ⟨m, hm, retval, hpc⟩ := h
  exact ⟨m + 1, Nat.succ_le_succ hm, retval, hpc⟩

omit [DecidableEq δ] in
theorem Ends.mono {n n' : ℕ} (h : Ends s w n) (hn : n ≤ n') : Ends s w n' := by
  obtain ⟨m, hm, hrest⟩ := h
  exact ⟨m, hm.trans hn, hrest⟩

omit [DecidableEq δ] in
theorem ends_wake (retval : ℤ) (hpc : (s.waiters w).pc = .wake retval)
    (hret : retval = 0 ∨ retval = -erestartsys ∧ (s.waiters w).signal = true) : Ends s w 1 := by
  refine ⟨1, le_rfl, retval, ?_⟩
  simpa [ackIrqStep, hpc] using hret

omit [DecidableEq δ] in
theorem ends_take (hpc : (s.waiters w).pc = .take) : Ends s w 2 := by
  apply Ends.of_step
  refine ends_wake 0 ?_ (.inl rfl)
  simp [ackIrqStep, hpc]

omit [DecidableEq δ] in
theorem ends_test (hpc : (s.waiters w).pc = .test) (hrcvd : s.rcvd (s.waiters w).num = true) :
    Ends s w 3 := by
  apply Ends.of_step
  apply ends_take
  rw [WaitState.rcvd] at hrcvd
  simp [ackIrqStep, hpc, hrcvd]

omit [DecidableEq δ] in
/-- With an interrupt there, a placed process does not sleep. -/
theorem Placed.ends (h : Placed s w) (hwaits : (s.waiters w).pc.Waits)
    (hrcvd : s.rcvd (s.waiters w).num = true) : Ends s w 5 := by
  have hrun : (s.waiters w).pc.Idle → (s.waiters w).interruptible = false := by
    intro hidle
    by_contra hint
    rw [h.idle hidle (by simpa using hint)] at hrcvd
    cases hrcvd
  have hset : (s.irqs.dhaIrqs (s.waiters w).num).rcvd = true := hrcvd
  cases hpc : (s.waiters w).pc with
  | out | wake | dequeue =>
    rw [hpc] at hwaits
    exact hwaits.elim
  | take => exact (ends_take hpc).mono (by omega)
  | test => exact (ends_test hpc hrcvd).mono (by omega)
  | enqueue =>
    refine Ends.of_step (Ends.of_step (ends_test ?_ ?_)) <;>
      simp [ackIrqStep, hpc, WaitState.rcvd, hset]
  | prepare =>
    refine (Ends.of_step (ends_test ?_ ?_)).mono (by omega : 4 ≤ 5) <;>
      simp [ackIrqStep, hpc, WaitState.rcvd, hset]
  | asleep =>
    have hint := hrun (by rw [hpc]; trivial)
    refine (Ends.of_step (ends_test ?_ ?_)).mono (by omega : 4 ≤ 5) <;>
      simp [ackIrqStep, hpc, hint, WaitState.rcvd, hset]
  | schedule =>
    have hint := hrun (by rw [hpc]; trivial)
    refine (Ends.of_step (ends_test ?_ ?_)).mono (by omega : 4 ≤ 5) <;>
      simp [ackIrqStep, hpc, hint, WaitState.rcvd, hset]
  | signalled =>
    have hint := hrun (by rw [hpc]; trivial)
    by_cases hsignal : (s.waiters w).signal = true
    · refine (Ends.of_step (ends_wake _ ?_ (.inr ⟨rfl, ?_⟩))).mono (by omega : 2 ≤ 5) <;>
        simp [ackIrqStep, hpc, hsignal]
    · rw [Bool.not_eq_true] at hsignal
      refine Ends.of_step (Ends.of_step (ends_test ?_ ?_)) <;>
        simp [ackIrqStep, hpc, hint, hsignal, WaitState.rcvd, hset]

/-- **A process for which an interrupt is there gets out of the loop by itself,** with 0 or for a
signal, wherever it is in the function. -/
theorem ends_of_rcvd (h : Guarded (waitStep k) (QueueFree k) initWait evs) (w : ι)
    (hwaits : ((waitRun k evs).waiters w).pc.Waits)
    (hrcvd : (waitRun k evs).rcvd ((waitRun k evs).waiters w).num = true) :
    Ends (waitRun k evs) w 5 :=
  (waiting_of_run h w).ends hwaits hrcvd

/-- The interrupt arrives after the process has found `rcvd` clear, before it calls `schedule`. -/
theorem ends_of_rcvd_late :
    Ends (waitRun sharedLine (sleepEvents.take 6 ++ [.interrupt 10])) () 5 := by
  have hok : Guarded (waitStep sharedLine) (QueueFree sharedLine) initWait
      (sleepEvents.take 6 ++ [.interrupt 10]) :=
    guarded_append.mpr ⟨sleepEvents_guarded.of_prefix (List.take_prefix _ _), trivial, trivial⟩
  refine ends_of_rcvd hok () ?_ (by decide)
  have hpc : ((waitRun sharedLine (sleepEvents.take 6 ++ [.interrupt 10])).waiters ()).pc =
      .schedule := by decide
  rw [hpc]
  trivial

/-! ### Interrupts and waits -/

/-- A process returns 0 from a wait for the line. -/
def returnsZero (w : ι) (irqn : Fin 256) (s : WaitState δ ι) : WaitEvent ι → ℕ
  | .step w' =>
    if w' = w ∧ (s.waiters w).pc = .dequeue 0 ∧ (s.waiters w).num = irqn then 1 else 0
  | _ => 0

/-- The handler accepts an interrupt of the line. -/
def handlesIrq (irqn : Fin 256) (s : WaitState δ ι) : WaitEvent ι → ℕ
  | .interrupt i => if i = irqn ∧ (s.irqs.dhaIrqs irqn).handled = true then 1 else 0
  | _ => 0

/-- How many waits a process may still come back from: one when the line has an interrupt for it,
that is when `rcvd` is set or was when the process read it, and one when it is on its way out with
an interrupt that it has taken. -/
def dueAt (rcvd onLine : Bool) : WaitPc → ℕ
  | .take => if onLine then 1 else rcvd.toNat
  | .wake retval | .dequeue retval => rcvd.toNat + if onLine ∧ retval = 0 then 1 else 0
  | _ => rcvd.toNat

def due (w : ι) (irqn : Fin 256) (s : WaitState δ ι) : ℕ :=
  dueAt (s.rcvd irqn) ((s.waiters w).num = irqn) (s.waiters w).pc

theorem dueAt_mono {rcvd rcvd' : Bool} (h : rcvd' = true → rcvd = true) (onLine : Bool)
    (pc : WaitPc) : dueAt rcvd' onLine pc ≤ dueAt rcvd onLine pc := by
  have hle : rcvd'.toNat ≤ rcvd.toNat := Bool.toNat_le_toNat h
  cases pc with
  | take =>
    dsimp only [dueAt]
    split
    · exact le_rfl
    · exact hle
  | wake | dequeue => exact Nat.add_le_add_right hle _
  | _ => exact hle

/-- An interrupt makes one more wait due at most. -/
theorem dueAt_true_le (rcvd onLine : Bool) (pc : WaitPc) :
    dueAt true onLine pc ≤ dueAt rcvd onLine pc + 1 := by
  cases pc with
  | take => cases onLine <;> simp [dueAt]
  | wake | dequeue =>
    simp only [dueAt, Bool.toNat_true]
    omega
  | _ => simp [dueAt]

omit [DecidableEq δ] [DecidableEq ι] in
/-- Only an interrupt makes more waits due to a process that stays where it is. -/
theorem due_le_of_eq (hpc : (s'.waiters w).pc = (s.waiters w).pc)
    (hnum : (s'.waiters w).num = (s.waiters w).num)
    (hrcvd : s'.rcvd irqn = true → s.rcvd irqn = true) : due w irqn s' ≤ due w irqn s := by
  unfold due
  rw [hpc, hnum]
  exact dueAt_mono hrcvd _ _

omit [DecidableEq δ] [DecidableEq ι] in
/-- A step that changes the process alone leaves as many waits due. -/
theorem Moves.due_eq {pc : WaitPc} {interruptible : Bool} (h : Moves s w pc interruptible) :
    dueAt (s.rcvd irqn) ((s.waiters w).num = irqn) pc = due w irqn s := by
  unfold due
  cases h with
  | finds hpc hrcvd =>
    rw [hpc]
    by_cases hnum : (s.waiters w).num = irqn
    · rw [hnum] at hrcvd
      simp [dueAt, hnum, hrcvd]
    · simp [dueAt, hnum]
  | givesUp hpc =>
    rw [hpc]
    simp [dueAt, erestartsys]
  | prepares hpc | misses hpc | goesOn hpc | sleeps hpc | yields hpc | resumes hpc
  | runs _ hpc =>
    rw [hpc]
    rfl

omit [DecidableEq δ] in
/-- A step of the process itself pays a return with a wait that was due. -/
theorem due_step_self (w : ι) (irqn : Fin 256) (s : WaitState δ ι) :
    due w irqn (ackIrqStep s w) + returnsZero w irqn s (.step w) ≤ due w irqn s := by
  have hnot : (∀ retval, (s.waiters w).pc ≠ .dequeue retval) →
      returnsZero w irqn s (.step w) = 0 := fun h => if_neg fun h' => h 0 h'.2.1
  have hres := stepResult s w
  generalize ackIrqStep s w = s' at hres ⊢
  cases hres with
  | stays hpc =>
    rw [hnot fun retval => by rcases hpc with hpc | ⟨hpc, -⟩ <;> simp [hpc]]
    exact le_rfl
  | enqueues hpc =>
    rw [hnot fun retval => by simp [hpc]]
    unfold due
    simp [hpc, dueAt, WaitState.rcvd]
  | takes hpc =>
    rw [hnot fun retval => by simp [hpc]]
    by_cases hnum : (s.waiters w).num = irqn
    · simp [due, dueAt, hpc, hnum, WaitState.rcvd, clearRcvd]
    · have hrcvd : ((clearRcvd s.irqs (s.waiters w).num).dhaIrqs irqn).rcvd =
          (s.irqs.dhaIrqs irqn).rcvd := by
        rw [clearRcvd, setLine_dhaIrqs_of_ne (Ne.symm hnum)]
      simp [due, dueAt, hpc, hnum, WaitState.rcvd, hrcvd]
  | leaves retval hpc =>
    by_cases hreturn : retval = 0 ∧ (s.waiters w).num = irqn
    · obtain ⟨rfl, hnum⟩ := hreturn
      simp [due, dueAt, returnsZero, hpc, hnum, WaitState.rcvd]
    · have hzero : returnsZero w irqn s (.step w) = 0 := by
        refine if_neg fun h => hreturn ⟨?_, h.2.2⟩
        simpa [hpc] using h.2.1
      rw [hzero]
      simp [due, dueAt, hpc, WaitState.rcvd]
  | moves pc interruptible hmove =>
    rw [hnot fun retval hpc => ?_]
    · rw [← hmove.due_eq]
      simp [due]
    · cases hmove <;> simp_all

omit [DecidableEq δ] in
theorem due_setWaiter {w' : ι} {p : Waiter} (hpc : p.pc = (s.waiters w').pc)
    (hnum : p.num = (s.waiters w').num) : due w irqn (s.setWaiter w' p) ≤ due w irqn s := by
  by_cases hw : w = w'
  · subst hw
    refine due_le_of_eq ?_ ?_ id <;> rw [setWaiter_self]
    · exact hpc
    · exact hnum
  · have heq := setWaiter_of_ne (s := s) hw p
    exact due_le_of_eq (by rw [heq]) (by rw [heq]) id

omit [DecidableEq δ] in
theorem due_call (w : ι) (irqn : Fin 256) (s : WaitState δ ι) (w' : ι) (irq : DhahelperIrq)
    (readable : Readable) : due w irqn (ackIrqCall s w' irq readable) ≤ due w irqn s := by
  unfold ackIrqCall
  dsimp only
  split
  next i hpc _ =>
    by_cases hw : w = w'
    · subst hw
      unfold due
      rw [setWaiter_self, hpc]
      exact le_rfl
    · have heq := setWaiter_of_ne (s := s) hw
        { s.waiters w' with pc := .enqueue, num := i }
      exact due_le_of_eq (by rw [heq]) (by rw [heq]) id
  next => exact le_rfl

omit [DecidableEq δ] in
theorem due_interrupt (w : ι) (irqn : Fin 256) (s : WaitState δ ι) (i : Fin 256) :
    due w irqn (irqHandler s i) ≤ due w irqn s + handlesIrq irqn s (.interrupt i) := by
  have hwaiter : ((irqHandler s i).waiters w).pc = (s.waiters w).pc ∧
      ((irqHandler s i).waiters w).num = (s.waiters w).num := by
    unfold irqHandler wakeUpInterruptible
    dsimp only
    split
    · dsimp only
      split <;> exact ⟨rfl, rfl⟩
    · exact ⟨rfl, rfl⟩
  obtain ⟨hpc, hnum⟩ := hwaiter
  by_cases hi : i = irqn ∧ (s.irqs.dhaIrqs irqn).handled = true
  · have hone : handlesIrq irqn s (.interrupt i) = 1 := if_pos hi
    rw [hone]
    unfold due
    rw [hpc, hnum]
    refine (dueAt_mono (fun _ => rfl) _ _).trans (dueAt_true_le _ _ _)
  · refine (due_le_of_eq hpc hnum fun hset => ?_).trans (Nat.le_add_right _ _)
    by_cases hne : irqn = i
    · have hhandled : (s.irqs.dhaIrqs i).handled ≠ true := fun h => hi ⟨hne.symm, hne ▸ h⟩
      rw [WaitState.rcvd, irqHandler, dhahelperIrqHandler, if_neg hhandled] at hset
      exact hset
    · rwa [rcvd_interrupt_of_ne hne] at hset

/-- What the events of a run do to the waits that are due. -/
theorem due_covers (w : ι) (irqn : Fin 256) :
    Covers (waitStep k) (fun _ _ => True) (fun _ => True) (due w irqn) (returnsZero w irqn)
      (handlesIrq irqn) := by
  rintro s ev - -
  cases ev with
  | step w' =>
    by_cases hw : w' = w
    · subst hw
      exact due_step_self w' irqn s
    · have hzero : returnsZero w irqn s (.step w') = 0 := if_neg fun h => hw h.1
      rw [hzero]
      have heq := ackIrqStep_of_ne (s := s) (Ne.symm hw)
      exact due_le_of_eq (by rw [← heq]; rfl) (by rw [← heq]; rfl) ackIrqStep_rcvd
  | interrupt i => exact due_interrupt w irqn s i
  | call w' irq readable => exact due_call w irqn s w' irq readable
  | signal w' => exact due_setWaiter rfl rfl
  | handled w' =>
    unfold waitStep
    dsimp only
    split
    · exact due_setWaiter rfl rfl
    · exact le_rfl
  | install irq calls => exact due_le_of_eq rfl rfl install_rcvd
  | free irq readable => exact due_le_of_eq rfl rfl free_rcvd

/-- **A process comes back from a line's wait no more often than the line has had interrupts,** in
any run, with any number of processes that wait for the same line. -/
theorem returnsZero_le (k : IrqKernel δ) (evs : List (WaitEvent ι)) (w : ι) (irqn : Fin 256) :
    runTotal (waitStep k) (returnsZero w irqn) initWait evs ≤
      runTotal (waitStep k) (handlesIrq irqn) initWait evs := by
  have hall : Guarded (waitStep k) (fun _ _ => True) initWait evs := guarded_true initWait evs
  have h := runTotal_le (due_covers w irqn) (fun _ _ _ _ => trivial) trivial hall
  have hinit : due w irqn (initWait : WaitState δ ι) = 0 := rfl
  omega

/-! ### Sleeping -/

/-- The process falls asleep. -/
def fallsAsleep (w : ι) (s : WaitState δ ι) : WaitEvent ι → ℕ
  | .step w' =>
    if w' = w ∧ (s.waiters w).pc = .schedule ∧ (s.waiters w).interruptible = true ∧
      (s.waiters w).signal = false then 1
    else 0
  | _ => 0

/-- A call of the function that gets past its checks. -/
def entersWait (w : ι) (s : WaitState δ ι) : WaitEvent ι → ℕ
  | .call w' irq readable =>
    if w' = w ∧ (s.waiters w).pc = .out ∧ (ackIrqCheck s.irqs irq readable).isOk then 1 else 0
  | _ => 0

/-- Whether the process may still fall asleep in this call: it has yet to become
`TASK_INTERRUPTIBLE`, or is in the loop and has not been woken. -/
def maySleepAt (interruptible : Bool) : WaitPc → ℕ
  | .enqueue | .prepare => 1
  | .test | .signalled | .schedule => interruptible.toNat
  | _ => 0

def maySleep (w : ι) (s : WaitState δ ι) : ℕ :=
  maySleepAt (s.waiters w).interruptible (s.waiters w).pc

theorem maySleepAt_false_le (interruptible : Bool) (pc : WaitPc) :
    maySleepAt false pc ≤ maySleepAt interruptible pc := by
  cases pc <;> simp [maySleepAt]

omit [DecidableEq δ] in
theorem maySleep_step_self (w : ι) (s : WaitState δ ι) :
    maySleep w (ackIrqStep s w) + fallsAsleep w s (.step w) ≤ maySleep w s := by
  have hnot : (s.waiters w).pc ≠ .schedule → fallsAsleep w s (.step w) = 0 :=
    fun h => if_neg fun h' => h h'.2.1
  have hres := stepResult s w
  generalize ackIrqStep s w = s' at hres ⊢
  cases hres with
  | stays hpc =>
    rw [hnot (by rcases hpc with hpc | ⟨hpc, -⟩ <;> simp [hpc])]
    exact le_rfl
  | enqueues hpc | takes hpc | leaves _ hpc =>
    rw [hnot (by simp [hpc])]
    simp [maySleep, maySleepAt, hpc]
  | moves pc interruptible hmove =>
    cases hmove with
    | sleeps hpc hint hsignal => simp [maySleep, maySleepAt, fallsAsleep, hpc, hint, hsignal]
    | yields hpc hrun =>
      have hzero : fallsAsleep w s (.step w) = 0 := by
        refine if_neg fun h => ?_
        rcases hrun with hrun | hrun <;> simp [hrun] at h
      simp [maySleep, maySleepAt, hpc, hzero]
    | prepares hpc | finds hpc | misses hpc | givesUp hpc | goesOn hpc | resumes hpc
    | runs _ hpc =>
      rw [hnot (by simp [hpc])]
      simp [maySleep, maySleepAt, *]

omit [DecidableEq δ] [DecidableEq ι] in
theorem maySleep_of_eq (h : s'.waiters w = s.waiters w) : maySleep w s' = maySleep w s := by
  unfold maySleep
  rw [h]

omit [DecidableEq δ] in
theorem maySleep_setWaiter {w' : ι} {p : Waiter} (hpc : p.pc = (s.waiters w').pc)
    (hint : p.interruptible = false ∨ p.interruptible = (s.waiters w').interruptible) :
    maySleep w (s.setWaiter w' p) ≤ maySleep w s := by
  by_cases hw : w = w'
  · subst hw
    unfold maySleep
    rw [setWaiter_self, hpc]
    rcases hint with hint | hint <;> rw [hint]
    exact maySleepAt_false_le _ _
  · exact (maySleep_of_eq (setWaiter_of_ne hw p)).le

omit [DecidableEq δ] in
theorem maySleep_call (w : ι) (s : WaitState δ ι) (w' : ι) (irq : DhahelperIrq)
    (readable : Readable) :
    maySleep w (ackIrqCall s w' irq readable) ≤
      maySleep w s + entersWait w s (.call w' irq readable) := by
  by_cases hw : w = w'
  · subst hw
    unfold ackIrqCall
    dsimp only
    split
    next i hpc hcheck =>
      have hone : entersWait w s (.call w irq readable) = 1 := by
        refine if_pos ⟨rfl, hpc, ?_⟩
        rw [hcheck]
        rfl
      rw [hone]
      simp [maySleep, maySleepAt]
    next => exact Nat.le_add_right _ _
  · rw [maySleep_of_eq (ackIrqCall_of_ne hw irq readable)]
    exact Nat.le_add_right _ _

omit [DecidableEq δ] in
theorem maySleep_interrupt (w : ι) (s : WaitState δ ι) (irqn : Fin 256) :
    maySleep w (irqHandler s irqn) ≤ maySleep w s := by
  unfold maySleep irqHandler wakeUpInterruptible
  dsimp only
  split
  · dsimp only
    split
    · exact maySleepAt_false_le _ _
    · exact le_rfl
  · exact le_rfl

theorem maySleep_covers (w : ι) :
    Covers (waitStep k) (fun _ _ => True) (fun _ => True) (maySleep w) (fallsAsleep w)
      (entersWait w) := by
  rintro s ev - -
  cases ev with
  | step w' =>
    by_cases hw : w' = w
    · subst hw
      exact maySleep_step_self w' s
    · have hzero : fallsAsleep w s (.step w') = 0 := if_neg fun h => hw h.1
      rw [hzero]
      exact (maySleep_of_eq (ackIrqStep_of_ne (Ne.symm hw))).le
  | call w' irq readable => exact maySleep_call w s w' irq readable
  | signal w' => exact maySleep_setWaiter rfl (.inl rfl)
  | handled w' =>
    unfold waitStep
    dsimp only
    split
    · exact maySleep_setWaiter rfl (.inr rfl)
    · exact le_rfl
  | interrupt irqn => exact maySleep_interrupt w s irqn
  | install irq calls => exact le_rfl
  | free irq readable => exact le_rfl

/-- **A process sleeps once in a call at most.**  Once it has been woken, for whatever reason, it
stays `TASK_RUNNING` in the loop and asks for `rcvd` again and again. -/
theorem fallsAsleep_le (k : IrqKernel δ) (evs : List (WaitEvent ι)) (w : ι) :
    runTotal (waitStep k) (fallsAsleep w) initWait evs ≤
      runTotal (waitStep k) (entersWait w) initWait evs := by
  have hall : Guarded (waitStep k) (fun _ _ => True) initWait evs := guarded_true initWait evs
  have h := runTotal_le (maySleep_covers w) (fun _ _ _ _ => trivial) trivial hall
  have hinit : maySleep w (initWait : WaitState δ ι) = 0 := rfl
  omega

end Vidix.Dhahelper
