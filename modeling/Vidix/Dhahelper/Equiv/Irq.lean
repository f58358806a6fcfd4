import Vidix.Dhahelper.Irq
import Vidix.Util.GuardedRun
import Mathlib.Data.List.Basic
import Mathlib.Tactic.Push

/-!
# Whose interrupt handlers are registered

Each request ends in one of a few ways, which `InstallResult` and `FreeResult` list with what
they do to the line of the device.  As long as an entry says `handled` exactly when its device has
the line's only handler (`Consistent`), three things can go wrong: the table has no entry for the
line of a device; the reply of an install request cannot be copied after the handler was
registered; and the line is freed by a device that shares it with the one whose handler is there.
The last two leave a handler behind that no request can remove.  The table is right throughout a
run iff none of them happens in it (`irqRegistry_iff`).
-/

namespace Vidix.Dhahelper

open Util

variable {δ : Type*} {k : IrqKernel δ} {calls : InstallCalls} {readable : Readable}
  {st : IrqState δ} {irq : DhahelperIrq} {irqn : Fin 256} {e : DhaIrq δ} {hs : List δ}

/-! ### Lines -/

@[simp] theorem setLine_dhaIrqs_self : (st.setLine irqn e hs).dhaIrqs irqn = e :=
  Function.update_self _ _ _

@[simp] theorem setLine_handlers_self : (st.setLine irqn e hs).handlers irqn = hs :=
  Function.update_self _ _ _

theorem setLine_dhaIrqs_of_ne {i : Fin 256} (h : i ≠ irqn) :
    (st.setLine irqn e hs).dhaIrqs i = st.dhaIrqs i :=
  Function.update_of_ne h _ _

theorem setLine_handlers_of_ne {i : Fin 256} (h : i ≠ irqn) :
    (st.setLine irqn e hs).handlers i = st.handlers i :=
  Function.update_of_ne h _ _

@[simp] theorem setLine_overrun : (st.setLine irqn e hs).overrun = st.overrun := rfl

/-- The entry of a line and its handlers agree: there are none, or only that of the entry's
device. -/
inductive LineConsistent (e : DhaIrq δ) (hs : List δ) : Prop
  | idle (hhandled : e.handled = false) (hhandlers : hs = [])
  | busy (pci : δ) (hhandled : e.handled = true) (hdev : e.dev = some pci)
    (hhandlers : hs = [pci])

/-- The invariant of the table. -/
structure Consistent (st : IrqState δ) : Prop where
  inTable : st.overrun = false
  line : ∀ irqn, LineConsistent (st.dhaIrqs irqn) (st.handlers irqn)

theorem initDhahelper_consistent : Consistent (initDhahelper : IrqState δ) :=
  ⟨rfl, fun _ => .idle rfl rfl⟩

theorem Consistent.setLine (h : Consistent st) (hl : LineConsistent e hs) :
    Consistent (st.setLine irqn e hs) := by
  refine ⟨h.inTable, fun i => ?_⟩
  by_cases hi : i = irqn
  · rw [hi, setLine_dhaIrqs_self, setLine_handlers_self]
    exact hl
  · rw [setLine_dhaIrqs_of_ne hi, setLine_handlers_of_ne hi]
    exact h.line i

theorem Consistent.handlers_of_idle (h : Consistent st)
    (hhandled : (st.dhaIrqs irqn).handled = false) : st.handlers irqn = [] := by
  rcases h.line irqn with ⟨-, hhandlers⟩ | ⟨pci, hbusy, -, -⟩
  · exact hhandlers
  · rw [hhandled] at hbusy
    cases hbusy

theorem Consistent.handlers_of_busy (h : Consistent st)
    (hhandled : (st.dhaIrqs irqn).handled = true) :
    ∃ pci, (st.dhaIrqs irqn).dev = some pci ∧ st.handlers irqn = [pci] := by
  rcases h.line irqn with ⟨hidle, -⟩ | ⟨pci, -, hdev, hhandlers⟩
  · rw [hhandled] at hidle
    cases hidle
  · exact ⟨pci, hdev, hhandlers⟩

/-- Each entry says `handled` iff its line has exactly one handler, and no request has worked on an
entry that is not there. -/
structure HandledExact (st : IrqState δ) : Prop where
  inTable : st.overrun = false
  line : ∀ irqn, (st.dhaIrqs irqn).handled = true ↔ (st.handlers irqn).length = 1

theorem Consistent.handledExact (h : Consistent st) : HandledExact st := by
  refine ⟨h.inTable, fun irqn => ?_⟩
  rcases h.line irqn with ⟨hidle, hhandlers⟩ | ⟨pci, hbusy, -, hhandlers⟩
  · simp [hidle, hhandlers]
  · simp [hbusy, hhandlers]

/-! ### Install requests -/

/-- The request gets as far as the entry of the line, for the device `pci`. -/
structure Reaches (k : IrqKernel δ) (calls : InstallCalls) (irq : DhahelperIrq) (pci : δ) :
    Prop where
  readable : calls.readable = true
  device : findDevice k irq = some pci
  offset : ¬ irq.ackOffset > k.resourceLen pci irq.ackRegion - 4

/-- The request gets as far as `request_irq`, for the device `pci` and its line `irqn`. -/
structure Attempts (k : IrqKernel δ) (calls : InstallCalls) (st : IrqState δ)
    (irq : DhahelperIrq) (pci : δ) (irqn : Fin 256) : Prop extends Reaches k calls irq pci where
  line : entryOf (k.irq pci) = some irqn
  idle : (st.dhaIrqs irqn).handled = false

theorem Reaches.unique {pci pci' : δ} (h : Reaches k calls irq pci)
    (h' : Reaches k calls irq pci') : pci = pci' :=
  Option.some.inj (h.device.symm.trans h'.device)

theorem Attempts.unique {pci pci' : δ} {irqn' : Fin 256} (h : Attempts k calls st irq pci irqn)
    (h' : Attempts k calls st irq pci' irqn') : pci = pci' ∧ irqn = irqn' := by
  obtain rfl := h.toReaches.unique h'.toReaches
  exact ⟨rfl, Option.some.inj (h.line.symm.trans h'.line)⟩

/-- The ways in which an install request ends. -/
inductive InstallResult (k : IrqKernel δ) (calls : InstallCalls) (st : IrqState δ)
    (irq : DhahelperIrq) : Option (ℤ × DhahelperIrq × IrqState δ) → Prop
  | rejected (ret : ℤ) (hret : ret ≠ 0) (hnot : ∀ pci irqn, ¬ Attempts k calls st irq pci irqn)
    (hline : ∀ pci, Reaches k calls irq pci → k.irq pci < 256) :
    InstallResult k calls st irq (some (ret, irq, st))
  | overruns (pci : δ) (hpci : Reaches k calls irq pci) (hline : 256 ≤ k.irq pci) :
    InstallResult k calls st irq none
  | refused (pci : δ) (irqn : Fin 256) (hpci : Attempts k calls st irq pci irqn) (errno : ℕ+)
    (hrequest : calls.request = .refused errno) :
    InstallResult k calls st irq (some (-errno, irq, st.setLine irqn
      (installEntry k irq pci (st.dhaIrqs irqn)) (st.handlers irqn)))
  | unreplied (pci : δ) (irqn : Fin 256) (hpci : Attempts k calls st irq pci irqn)
    (hrequest : calls.request = .registered) (hreplied : calls.replied = false) :
    InstallResult k calls st irq (some (0, irq, st.setLine irqn
      (installEntry k irq pci (st.dhaIrqs irqn)) (st.handlers irqn ++ [pci])))
  | installed (pci : δ) (irqn : Fin 256) (hpci : Attempts k calls st irq pci irqn)
    (hrequest : calls.request = .registered) (hreplied : calls.replied = true) :
    InstallResult k calls st irq (some
      (0, { irq with num := UInt32.ofNat irqn }, st.setLine irqn
        { installEntry k irq pci (st.dhaIrqs irqn) with handled := true }
        (st.handlers irqn ++ [pci])))

/-- A request that does not get as far as the entry is refused. -/
theorem InstallResult.of_not_reaches {ret : ℤ} (hret : ret ≠ 0)
    (hnot : ∀ pci, ¬ Reaches k calls irq pci) :
    InstallResult k calls st irq (some (ret, irq, st)) :=
  .rejected ret hret (fun pci _ h => hnot pci h.toReaches) fun pci h => absurd h (hnot pci)

/-- A request that gets as far as the entry of a line. -/
theorem installResult_at {pci : δ} (hpci : Reaches k calls irq pci)
    (hline : entryOf (k.irq pci) = some irqn) :
    InstallResult k calls st irq (some (installAt k calls st irq pci irqn)) := by
  unfold installAt
  by_cases hhandled : (st.dhaIrqs irqn).handled = true
  · rw [if_pos hhandled]
    refine .rejected _ (by decide) (fun pci' irqn' h => ?_) fun pci' h => ?_
    · obtain rfl := hpci.unique h.toReaches
      obtain rfl := Option.some.inj (hline.symm.trans h.line)
      rw [h.idle] at hhandled
      cases hhandled
    · obtain rfl := hpci.unique h
      exact lt_of_slot hline
  · rw [if_neg hhandled]
    have hattempts : Attempts k calls st irq pci irqn :=
      ⟨hpci, hline, Bool.eq_false_iff.mpr hhandled⟩
    cases hrequest : calls.request with
    | refused errno => exact .refused pci irqn hattempts errno hrequest
    | registered =>
      cases hreplied : calls.replied with
      | false => exact .unreplied pci irqn hattempts hrequest hreplied
      | true => exact .installed pci irqn hattempts hrequest hreplied

theorem installResult (k : IrqKernel δ) (calls : InstallCalls) (st : IrqState δ)
    (irq : DhahelperIrq) :
    InstallResult k calls st irq (dhahelperInstallIrq k calls st irq) := by
  unfold dhahelperInstallIrq
  by_cases hread : calls.readable = true
  · rw [hread, if_neg (by decide)]
    cases hdev : findDevice k irq with
    | none =>
      refine .of_not_reaches (by decide) fun pci h => ?_
      cases hdev.symm.trans h.device
    | some pci =>
      dsimp only
      by_cases hoff : irq.ackOffset > k.resourceLen pci irq.ackRegion - 4
      · rw [if_pos hoff]
        refine .of_not_reaches (by decide) fun pci' h => ?_
        obtain rfl := Option.some.inj (hdev.symm.trans h.device)
        exact h.offset hoff
      · rw [if_neg hoff]
        have hpci : Reaches k calls irq pci := ⟨hread, hdev, hoff⟩
        cases hline : entryOf (k.irq pci) with
        | none => exact .overruns pci hpci (slot_eq_none_iff.mp hline)
        | some irqn => exact installResult_at hpci hline
  · rw [Bool.eq_false_iff.mpr hread]
    exact .of_not_reaches (by decide) fun pci h => hread h.readable

/-- The request leaves one more handler on the line of its device, and that for the device. -/
def LeavesHandler (k : IrqKernel δ) (irq : DhahelperIrq) (st st' : IrqState δ) : Prop :=
  ∃ pci irqn, findDevice k irq = some pci ∧ entryOf (k.irq pci) = some irqn ∧
    st'.handlers irqn = st.handlers irqn ++ [pci]

theorem not_leavesHandler {st' : IrqState δ} (h : st'.handlers = st.handlers) :
    ¬ LeavesHandler k irq st st' := by
  rintro ⟨pci, irqn, -, -, hpci⟩
  rw [h] at hpci
  simpa using congrArg List.length hpci

/-- An install request returns 0 iff it left a handler, in whatever state it finds the table. -/
theorem install_eq_zero_iff (k : IrqKernel δ) (calls : InstallCalls) (st : IrqState δ)
    (irq : DhahelperIrq) :
    (dhahelperInstallIrq k calls st irq).map Prod.fst = some 0 ↔
      LeavesHandler k irq st
        (st.after ((dhahelperInstallIrq k calls st irq).map fun r => r.2.2)) := by
  have hres := installResult k calls st irq
  generalize dhahelperInstallIrq k calls st irq = r at hres ⊢
  cases hres with
  | rejected ret hret _ _ =>
    exact iff_of_false (fun h => hret (Option.some.inj h)) (not_leavesHandler rfl)
  | overruns pci _ _ => exact iff_of_false (Option.some_ne_none _).symm (not_leavesHandler rfl)
  | refused pci irqn hpci errno _ =>
    refine iff_of_false (fun h => ?_) (not_leavesHandler (Function.update_eq_self _ _))
    have hpos : 0 < (errno : ℕ) := errno.2
    have hzero : -((errno : ℕ) : ℤ) = 0 := Option.some.inj h
    omega
  | unreplied pci irqn hpci _ _ =>
    exact iff_of_true rfl ⟨pci, irqn, hpci.device, hpci.line, setLine_handlers_self⟩
  | installed pci irqn hpci _ _ =>
    exact iff_of_true rfl ⟨pci, irqn, hpci.device, hpci.line, setLine_handlers_self⟩

/-! ### Interrupts -/

theorem Consistent.interrupt (h : Consistent st) (irqn : Fin 256) :
    Consistent (dhahelperIrqHandler irqn st) := by
  unfold dhahelperIrqHandler
  by_cases hhandled : (st.dhaIrqs irqn).handled = true
  · rw [if_pos hhandled]
    obtain ⟨pci, hdev, hhandlers⟩ := h.handlers_of_busy hhandled
    exact h.setLine (.busy pci hhandled hdev hhandlers)
  · rw [if_neg hhandled]
    exact h

/-! ### Free requests -/

variable [DecidableEq δ]

/-- The ways in which a free request ends. -/
inductive FreeResult (k : IrqKernel δ) (readable : Readable) (st : IrqState δ)
    (irq : DhahelperIrq) : Option (ℤ × IrqState δ) → Prop
  | nothing (ret : ℤ)
    (hnot : ∀ pci, readable = true → findDevice k irq = some pci →
      ∃ irqn, entryOf (k.irq pci) = some irqn ∧ (st.dhaIrqs irqn).handled = false) :
    FreeResult k readable st irq (some (ret, st))
  | overruns (pci : δ) (hread : readable = true) (hdev : findDevice k irq = some pci)
    (hline : entryOf (k.irq pci) = none) : FreeResult k readable st irq none
  | freed (pci : δ) (irqn : Fin 256) (hread : readable = true)
    (hdev : findDevice k irq = some pci) (hline : entryOf (k.irq pci) = some irqn)
    (hhandled : (st.dhaIrqs irqn).handled = true) :
    FreeResult k readable st irq (some (0, st.setLine irqn
      { st.dhaIrqs irqn with handled := false } ((st.handlers irqn).erase pci)))

theorem freeResult (k : IrqKernel δ) (readable : Readable) (st : IrqState δ)
    (irq : DhahelperIrq) : FreeResult k readable st irq (dhahelperFreeIrq k readable st irq) := by
  unfold dhahelperFreeIrq
  cases readable with
  | false => exact .nothing _ fun pci h => absurd h (by decide)
  | true =>
    rw [Bool.not_true, if_neg (by decide)]
    cases hdev : findDevice k irq with
    | none =>
      refine .nothing _ fun pci _ h => ?_
      rw [hdev] at h
      cases h
    | some pci =>
      dsimp only
      cases hline : entryOf (k.irq pci) with
      | none => exact .overruns pci rfl hdev hline
      | some irqn =>
        rw [Option.map_some]
        by_cases hhandled : (st.dhaIrqs irqn).handled = true
        · rw [if_pos hhandled]
          exact .freed pci irqn rfl hdev hline hhandled
        · rw [if_neg hhandled]
          refine .nothing _ fun pci' _ h => ?_
          obtain rfl := Option.some.inj (hdev.symm.trans h)
          exact ⟨irqn, hline, Bool.eq_false_iff.mpr hhandled⟩

/-- A handler that a free request removes was that of its device, in whatever state it finds the
table. -/
theorem free_removes_own (k : IrqKernel δ) (readable : Readable) (st : IrqState δ)
    (irq : DhahelperIrq) (irqn : Fin 256) (pci : δ)
    (h : ((st.after ((dhahelperFreeIrq k readable st irq).map fun r => r.2)).handlers irqn).count
      pci < (st.handlers irqn).count pci) : findDevice k irq = some pci := by
  have hres := freeResult k readable st irq
  generalize dhahelperFreeIrq k readable st irq = r at hres h
  cases hres with
  | nothing ret _ => exact absurd h (Nat.lt_irrefl _)
  | overruns pci' _ _ _ => exact absurd h (Nat.lt_irrefl _)
  | freed pci' irqn' _ hdev _ _ =>
    dsimp only [Option.map_some, IrqState.after] at h
    by_cases hi : irqn = irqn'
    · rw [hi, setLine_handlers_self] at h
      by_cases hpci : pci = pci'
      · rw [hpci]
        exact hdev
      · rw [List.count_erase_of_ne hpci] at h
        exact absurd h (Nat.lt_irrefl _)
    · rw [setLine_handlers_of_ne hi] at h
      exact absurd h (Nat.lt_irrefl _)

/-! ### Steps -/

/-- The event does no damage: a request that gets as far as the entry of its line finds one in the
table; the reply of an install request that registers its handler is copied, and a line is freed by
the device that it was installed for. -/
def IrqEventOk (k : IrqKernel δ) (st : IrqState δ) : IrqEvent → Prop
  | .install irq calls =>
    (∀ pci, Reaches k calls irq pci → k.irq pci < 256) ∧
      ∀ pci irqn, Attempts k calls st irq pci irqn → calls.request = .registered →
        calls.replied = true
  | .free irq readable => ∀ pci, readable = true → findDevice k irq = some pci →
      ∃ irqn, entryOf (k.irq pci) = some irqn ∧
        ((st.dhaIrqs irqn).handled = true → (st.dhaIrqs irqn).dev = some pci)
  | .interrupt _ => True

/-- **One event keeps the table right.** -/
theorem Consistent.step (h : Consistent st) {ev : IrqEvent} (hev : IrqEventOk k st ev) :
    Consistent (irqStep k st ev) := by
  cases ev with
  | install irq calls =>
    have hres := installResult k calls st irq
    rw [irqStep]
    generalize dhahelperInstallIrq k calls st irq = r at hres ⊢
    cases hres with
    | rejected ret hret _ _ => exact h
    | overruns pci hpci hline => exact absurd (hev.1 pci hpci) (Nat.not_lt.mpr hline)
    | refused pci irqn hpci errno _ =>
      exact h.setLine (.idle hpci.idle (h.handlers_of_idle hpci.idle))
    | unreplied pci irqn hpci hrequest hreplied =>
      -- the event is one whose reply is copied
      rw [hev.2 pci irqn hpci hrequest] at hreplied
      cases hreplied
    | installed pci irqn hpci _ _ =>
      refine h.setLine (.busy pci rfl rfl ?_)
      rw [h.handlers_of_idle hpci.idle, List.nil_append]
  | free irq readable =>
    have hres := freeResult k readable st irq
    rw [irqStep]
    generalize dhahelperFreeIrq k readable st irq = r at hres ⊢
    cases hres with
    | nothing ret _ => exact h
    | overruns pci hread hdev hline =>
      obtain ⟨irqn, hline', -⟩ := hev pci hread hdev
      cases hline.symm.trans hline'
    | freed pci irqn hread hdev hline hhandled =>
      -- the only handler of the line is that of the recorded device, which is the one that frees
      obtain ⟨pci', hdev', hhandlers⟩ := h.handlers_of_busy hhandled
      obtain ⟨irqn', hline', hown⟩ := hev pci hread hdev
      obtain rfl := Option.some.inj (hline.symm.trans hline')
      obtain rfl := Option.some.inj (hdev'.symm.trans (hown hhandled))
      refine h.setLine (.idle rfl ?_)
      rw [hhandlers, List.erase_cons_head]
  | interrupt irqn => exact h.interrupt irqn

/-- **Any other event works on memory behind the table, or leaves a handler behind on a line that is
not handled.** -/
theorem Consistent.ok_of_step (h : Consistent st) {ev : IrqEvent}
    (hstep : HandledExact (irqStep k st ev)) : IrqEventOk k st ev := by
  cases ev with
  | install irq calls =>
    have hres := installResult k calls st irq
    rw [irqStep] at hstep
    generalize dhahelperInstallIrq k calls st irq = r at hres hstep
    have hline : ∀ {pci irqn}, Attempts k calls st irq pci irqn →
        ∀ pci', Reaches k calls irq pci' → k.irq pci' < 256 := by
      intro pci irqn hpci pci' hpci'
      obtain rfl := hpci.toReaches.unique hpci'
      exact lt_of_slot hpci.line
    cases hres with
    | rejected ret hret hnot hreach =>
      exact ⟨hreach, fun pci irqn hpci => absurd hpci (hnot pci irqn)⟩
    | overruns pci _ _ => cases hstep.inTable
    | refused pci irqn hpci errno hrefused =>
      refine ⟨hline hpci, fun _ _ _ hrequest => ?_⟩
      rw [hrequest] at hrefused
      cases hrefused
    | unreplied pci irqn hpci _ _ =>
      -- one handler, on a line that is not handled
      have hexact := hstep.line irqn
      dsimp only [Option.map_some, IrqState.after] at hexact
      rw [setLine_dhaIrqs_self, setLine_handlers_self, h.handlers_of_idle hpci.idle] at hexact
      have hhandled := hexact.mpr rfl
      rw [show (installEntry k irq pci _).handled = _ from hpci.idle] at hhandled
      cases hhandled
    | installed pci irqn hpci _ hreplied => exact ⟨hline hpci, fun _ _ _ _ => hreplied⟩
  | free irq readable =>
    intro pci hread hdev
    have hres := freeResult k readable st irq
    rw [irqStep] at hstep
    generalize dhahelperFreeIrq k readable st irq = r at hres hstep
    cases hres with
    | nothing ret hnot =>
      obtain ⟨irqn, hline, hidle⟩ := hnot pci hread hdev
      refine ⟨irqn, hline, fun hhandled => ?_⟩
      rw [hidle] at hhandled
      cases hhandled
    | overruns pci' _ _ _ => cases hstep.inTable
    | freed pci' irqn _ hdev' hline hhandled =>
      obtain rfl := Option.some.inj (hdev.symm.trans hdev')
      refine ⟨irqn, hline, fun _ => ?_⟩
      obtain ⟨owner, howner, hhandlers⟩ := h.handlers_of_busy hhandled
      by_cases heq : owner = pci
      · rw [howner, heq]
      · -- the owner's handler survives
        have hexact := hstep.line irqn
        have herase : [owner].erase pci = [owner] :=
          List.erase_of_not_mem fun hmem => heq (List.mem_singleton.mp hmem).symm
        dsimp only [Option.map_some, IrqState.after] at hexact
        rw [setLine_dhaIrqs_self, setLine_handlers_self, hhandlers, herase] at hexact
        cases hexact.mpr rfl
  | interrupt irqn => trivial

/-! ### Runs -/

/-- What the registry owes, at every point of the run. -/
structure IrqRegistry (k : IrqKernel δ) (evs : List IrqEvent) : Prop where
  /-- A line is handled iff exactly one handler is registered for it, and no request works on memory
  behind the table. -/
  handled_iff : ∀ pre, pre <+: evs → HandledExact (irqRun k pre)
  /-- An install request returns 0 iff it left a handler for its device. -/
  install_iff : ∀ pre irq calls, pre ++ [.install irq calls] <+: evs →
    ((dhahelperInstallIrq k calls (irqRun k pre) irq).map Prod.fst = some 0 ↔
      LeavesHandler k irq (irqRun k pre) (irqRun k (pre ++ [.install irq calls])))
  /-- A free request removes no handler but its own device's. -/
  free_own : ∀ pre irq readable, pre ++ [.free irq readable] <+: evs → ∀ irqn pci,
    ((irqRun k (pre ++ [.free irq readable])).handlers irqn).count pci <
      ((irqRun k pre).handlers irqn).count pci → findDevice k irq = some pci

theorem irqRun_concat (k : IrqKernel δ) (evs : List IrqEvent) (ev : IrqEvent) :
    irqRun k (evs ++ [ev]) = irqStep k (irqRun k evs) ev := by
  unfold irqRun
  rw [List.foldl_append, List.foldl_cons, List.foldl_nil]

/-- **The registry keeps what it owes throughout a run iff none of its events does damage.** -/
theorem irqRegistry_iff (k : IrqKernel δ) (evs : List IrqEvent) :
    IrqRegistry k evs ↔ Guarded (irqStep k) (IrqEventOk k) initDhahelper evs := by
  rw [← forall_prefix_iff_guarded Consistent HandledExact
    (fun _ h => h.handledExact) (fun _ _ h => h.step) (fun _ _ h => h.ok_of_step)
    initDhahelper_consistent]
  constructor
  · exact fun h => h.handled_iff
  · intro h
    refine ⟨h, fun pre irq calls _ => ?_, fun pre irq readable _ irqn pci hlt => ?_⟩
    · rw [irqRun_concat]
      exact install_eq_zero_iff k calls _ irq
    · rw [irqRun_concat] at hlt
      exact free_removes_own k readable _ irq irqn pci hlt

/-! ### A shared line -/

/-- Two devices, in slots 0 and 1 of bus 0, on line 10. -/
def sharedLine : IrqKernel Bool where
  findSlot bus devfn :=
    if bus = 0 ∧ devfn = 0 then some false else if bus = 0 ∧ devfn = 8 then some true else none
  irq _ := 10
  resourceStart pci _ := if pci then 0xe1000000 else 0xe0000000
  resourceLen _ _ := 0x1000
  physToVirt addr := addr + 0xffff880000000000

/-- A request about the function 0 of slot `dev` of bus 0. -/
def slotIrq (dev : Int32) : DhahelperIrq where
  num := 0
  bus := 0
  dev := dev
  func := 0
  ackRegion := 2
  ackOffset := 0x44
  ackData := 1

/-- **The card in slot 1 frees the line that was installed for the card in slot 0, whose handler
stays; and a reply that cannot be copied leaves the handler behind as well.** -/
theorem irqRegistry_sharedLine :
    ¬ IrqRegistry sharedLine
        [.install (slotIrq 0) ⟨true, .registered, true⟩, .free (slotIrq 1) true] ∧
      ¬ IrqRegistry sharedLine [.install (slotIrq 0) ⟨true, .registered, false⟩] := by
  constructor
  · exact fun h => absurd ((h.handled_iff _ (List.prefix_refl _)).line 10) (by decide)
  · exact fun h => absurd ((h.handled_iff _ (List.prefix_refl _)).line 10) (by decide)

/-! ### The module's exit -/

theorem exitLine_of_idle (h : (st.dhaIrqs irqn).handled = false) : exitLine st irqn = st := by
  unfold exitLine
  dsimp only
  rw [h]

theorem exitLine_of_busy {pci : δ} (h : (st.dhaIrqs irqn).handled = true)
    (hdev : (st.dhaIrqs irqn).dev = some pci) :
    exitLine st irqn =
      st.setLine irqn (st.dhaIrqs irqn) ((st.handlers irqn).erase pci) := by
  unfold exitLine
  dsimp only
  rw [h, hdev]

/-- The exit goes by the table, which it leaves as it is. -/
theorem foldl_exitLine (h : Consistent st) (lines : List (Fin 256)) :
    (lines.foldl exitLine st).dhaIrqs = st.dhaIrqs ∧
      ∀ i, (lines.foldl exitLine st).handlers i = if i ∈ lines then [] else st.handlers i := by
  induction lines using List.reverseRecOn with
  | nil => exact ⟨rfl, fun i => (if_neg List.not_mem_nil).symm⟩
  | append_singleton lines n ih =>
    rw [List.foldl_append, List.foldl_cons, List.foldl_nil]
    obtain ⟨htable, hhandlers⟩ := ih
    generalize lines.foldl exitLine st = st' at htable hhandlers ⊢
    -- whatever line `n` is, its handlers go
    have hline : (exitLine st' n).dhaIrqs = st.dhaIrqs ∧ (exitLine st' n).handlers n = [] ∧
        ∀ i, i ≠ n → (exitLine st' n).handlers i = st'.handlers i := by
      rcases h.line n with ⟨hidle, hnone⟩ | ⟨pci, hbusy, hdev, hown⟩
      · rw [← htable] at hidle
        rw [exitLine_of_idle hidle]
        refine ⟨htable, ?_, fun i _ => rfl⟩
        rw [hhandlers, hnone, ite_self]
      · rw [← htable] at hbusy hdev
        rw [exitLine_of_busy hbusy hdev]
        refine ⟨?_, ?_, fun i hi => setLine_handlers_of_ne hi⟩
        · rw [← htable]
          exact Function.update_eq_self _ _
        · rw [setLine_handlers_self, hhandlers, hown]
          split
          · exact List.erase_nil _
          · exact List.erase_cons_head _ _
    refine ⟨hline.1, fun i => ?_⟩
    by_cases hi : i = n
    · rw [hi, hline.2.1, if_pos List.mem_append_cons_self]
    · rw [hline.2.2 i hi, hhandlers i]
      simp only [List.mem_append, List.mem_singleton, hi, or_false]

/-- **After a run without damage the module leaves no handler behind** on the lines of its
table. -/
theorem exitDhahelper_handlers {evs : List IrqEvent}
    (h : Guarded (irqStep k) (IrqEventOk k) initDhahelper evs) (irqn : Fin 256) :
    (exitDhahelper (irqRun k evs)).handlers irqn = [] := by
  have hconsistent : Consistent (irqRun k evs) :=
    h.invariant (fun _ _ hst hev => hst.step hev) initDhahelper_consistent
  unfold exitDhahelper
  rw [(foldl_exitLine hconsistent _).2 irqn, if_pos (List.mem_finRange irqn)]

end Vidix.Dhahelper
