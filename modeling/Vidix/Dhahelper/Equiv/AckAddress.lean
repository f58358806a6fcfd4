import Vidix.Dhahelper.Equiv.Irq

/-!
# Where an interrupt is acknowledged

An install request names a register of its device by a region and an offset, and the handler
writes four bytes there at each interrupt, as long as the line stays handled (`Stays.ack`).  The
offset is compared with the length of the region less four, without a sign, so that a region of
less than four bytes admits nearly every offset.  A device whose line has no entry in the table is
not looked at before it is installed.

`ackSafe_iff` says when a request does no harm by that, and `ackWrite_inside` what holds in every
state of a run whose requests do none.
-/

namespace Vidix.Dhahelper

open Util

variable {δ : Type*} {k : IrqKernel δ} {calls : InstallCalls} {readable : Readable}
  {st : IrqState δ} {irq : DhahelperIrq} {irqn : Fin 256} {pci : δ}

/-! ### Offsets -/

/-- The four bytes at the offset of a request lie inside its region. -/
def OffsetFits (k : IrqKernel δ) (irq : DhahelperIrq) (pci : δ) : Prop :=
  irq.ackOffset.toNat + 4 ≤ (k.resourceLen pci irq.ackRegion).toNat

/-- The address of the register that a request names. -/
def ackRegister (k : IrqKernel δ) (irq : DhahelperIrq) (pci : δ) : UInt64 :=
  k.physToVirt (k.resourceStart pci irq.ackRegion + irq.ackOffset)

/-- The check is right for regions of at least four bytes. -/
theorem offset_check_iff {off len : UInt64} (hlen : 4 ≤ len.toNat) :
    ¬ off > len - 4 ↔ off.toNat + 4 ≤ len.toNat := by
  have hsub : (len - 4).toNat = len.toNat - 4 :=
    UInt64.toNat_sub_of_le _ _ (UInt64.le_iff_toNat_le.mpr hlen)
  rw [gt_iff_lt, UInt64.lt_iff_toNat_lt, hsub]
  omega

/-- An attempt on a region of at least four bytes is one with an offset that fits. -/
theorem Attempts.offsetFits (h : Attempts k calls st irq pci irqn)
    (hlen : 4 ≤ (k.resourceLen pci irq.ackRegion).toNat) : OffsetFits k irq pci :=
  (offset_check_iff hlen).mp h.offset

theorem not_offsetFits (hlen : (k.resourceLen pci irq.ackRegion).toNat < 4) :
    ¬ OffsetFits k irq pci := by
  unfold OffsetFits
  omega

/-! ### How an install request ends -/

theorem ackWrite_eq_some {w : UInt64 × UInt32} (h : ackWrite st irqn = some w) :
    (st.dhaIrqs irqn).handled = true ∧ (st.dhaIrqs irqn).ackAddr ≠ 0 ∧
      w = ((st.dhaIrqs irqn).ackAddr, (st.dhaIrqs irqn).ackData) := by
  unfold ackWrite at h
  dsimp only at h
  split_ifs at h with hcond
  exact ⟨hcond.1, hcond.2, (Option.some.inj h).symm⟩

/-- The entry that an attempt writes has the old flag. -/
theorem setLine_installEntry_handled (hs : List δ) (i : Fin 256) :
    ((st.setLine irqn (installEntry k irq pci (st.dhaIrqs irqn)) hs).dhaIrqs i).handled =
      (st.dhaIrqs i).handled := by
  by_cases hi : i = irqn
  · rw [hi, setLine_dhaIrqs_self]
    rfl
  · rw [setLine_dhaIrqs_of_ne hi]

/-- The request works on memory behind the table. -/
def Overruns (k : IrqKernel δ) (calls : InstallCalls) (irq : DhahelperIrq) (pci : δ) : Prop :=
  Reaches k calls irq pci ∧ 256 ≤ k.irq pci

theorem install_eq_none_iff (hdev : findDevice k irq = some pci) :
    dhahelperInstallIrq k calls st irq = none ↔ Overruns k calls irq pci := by
  have hres := installResult k calls st irq
  generalize dhahelperInstallIrq k calls st irq = r at hres ⊢
  have hline : ∀ {pci' irqn}, Attempts k calls st irq pci' irqn → ¬ Overruns k calls irq pci := by
    rintro pci' irqn hpci' ⟨hpci, hge⟩
    obtain rfl := hpci'.toReaches.unique hpci
    exact absurd (lt_of_slot hpci'.line) (Nat.not_lt.mpr hge)
  cases hres with
  | rejected ret _ _ hreach =>
    exact iff_of_false (Option.some_ne_none _) fun h => absurd (hreach pci h.1) h.2.not_gt
  | overruns pci' hpci' hge =>
    obtain rfl := Option.some.inj (hdev.symm.trans hpci'.device)
    exact iff_of_true rfl ⟨hpci', hge⟩
  | refused _ _ hpci' _ _ => exact iff_of_false (Option.some_ne_none _) (hline hpci')
  | unreplied _ _ hpci' _ _ => exact iff_of_false (Option.some_ne_none _) (hline hpci')
  | installed _ _ hpci' _ _ => exact iff_of_false (Option.some_ne_none _) (hline hpci')

/-- A request is accepted iff its handler is registered. -/
theorem install_accepted_iff (hdev : findDevice k irq = some pci) :
    (dhahelperInstallIrq k calls st irq).map Prod.fst = some 0 ↔
      (∃ irqn, Attempts k calls st irq pci irqn) ∧ calls.request = .registered := by
  have hres := installResult k calls st irq
  generalize dhahelperInstallIrq k calls st irq = r at hres ⊢
  cases hres with
  | rejected ret hret hnot _ =>
    exact iff_of_false (fun h => hret (Option.some.inj h)) fun ⟨⟨irqn, h⟩, _⟩ => hnot pci irqn h
  | overruns pci' hpci' hge =>
    refine iff_of_false (Option.some_ne_none _).symm ?_
    rintro ⟨⟨irqn, h⟩, -⟩
    obtain rfl := hpci'.unique h.toReaches
    exact absurd (lt_of_slot h.line) (Nat.not_lt.mpr hge)
  | refused pci' irqn _ errno hrefused =>
    have hpos : 0 < (errno : ℕ) := errno.2
    refine iff_of_false (fun h => ?_) fun h => ?_
    · have hzero : -((errno : ℕ) : ℤ) = 0 := Option.some.inj h
      omega
    · rw [h.2] at hrefused
      cases hrefused
  | unreplied pci' irqn hpci' hrequest _ =>
    obtain rfl := Option.some.inj (hdev.symm.trans hpci'.device)
    exact iff_of_true rfl ⟨⟨irqn, hpci'⟩, hrequest⟩
  | installed pci' irqn hpci' hrequest _ =>
    obtain rfl := Option.some.inj (hdev.symm.trans hpci'.device)
    exact iff_of_true rfl ⟨⟨irqn, hpci'⟩, hrequest⟩

/-- A request that is not accepted registers nothing. -/
theorem install_refused {ret : ℤ} {arg : DhahelperIrq} {st' : IrqState δ}
    (h : dhahelperInstallIrq k calls st irq = some (ret, arg, st')) (hret : ret ≠ 0) :
    st'.handlers = st.handlers ∧ ∀ i, (st'.dhaIrqs i).handled = (st.dhaIrqs i).handled := by
  have hres := installResult k calls st irq
  rw [h] at hres
  cases hres with
  | rejected _ _ _ _ => exact ⟨rfl, fun _ => rfl⟩
  | refused pci' irqn hpci' errno _ =>
    exact ⟨Function.update_eq_self _ _, setLine_installEntry_handled _⟩
  | unreplied _ _ _ _ _ => exact absurd rfl hret
  | installed _ _ _ _ _ => exact absurd rfl hret

/-- An install request leaves the entry of a handled line alone. -/
theorem install_handled (hhandled : (st.dhaIrqs irqn).handled = true) :
    (st.after ((dhahelperInstallIrq k calls st irq).map fun r => r.2.2)).dhaIrqs irqn =
      st.dhaIrqs irqn := by
  have hres := installResult k calls st irq
  generalize dhahelperInstallIrq k calls st irq = r at hres ⊢
  have hother : ∀ {pci i}, Attempts k calls st irq pci i → irqn ≠ i := by
    rintro pci i hpci rfl
    rw [hpci.idle] at hhandled
    cases hhandled
  cases hres with
  | rejected _ _ _ _ => rfl
  | overruns _ _ _ => rfl
  | refused _ _ hpci _ _ => exact setLine_dhaIrqs_of_ne (hother hpci)
  | unreplied _ _ hpci _ _ => exact setLine_dhaIrqs_of_ne (hother hpci)
  | installed _ _ hpci _ _ => exact setLine_dhaIrqs_of_ne (hother hpci)

/-- After an install request that registers its handler, the handler's write is the register
named. -/
theorem ackWrite_installed (hregion : 0 ≤ irq.ackRegion)
    (hpci : Attempts k calls st irq pci irqn) (hrequest : calls.request = .registered)
    {ret : ℤ} {arg : DhahelperIrq} {st' : IrqState δ}
    (h : dhahelperInstallIrq k calls st irq = some (ret, arg, st'))
    {w : UInt64 × UInt32} (hw : ackWrite st' irqn = some w) :
    w = (ackRegister k irq pci, irq.ackData) := by
  have hres := installResult k calls st irq
  rw [h] at hres
  obtain ⟨hnow, -, rfl⟩ := ackWrite_eq_some hw
  cases hres with
  | rejected _ _ hnot _ => exact absurd hpci (hnot pci irqn)
  | refused _ _ _ errno hrefused =>
    rw [hrequest] at hrefused
    cases hrefused
  | unreplied pci' _ hpci' _ _ =>
    obtain ⟨rfl, rfl⟩ := hpci.unique hpci'
    have hidle := (setLine_installEntry_handled _ _).symm.trans hnow
    rw [hpci.idle] at hidle
    cases hidle
  | installed pci' _ hpci' _ _ =>
    obtain ⟨rfl, rfl⟩ := hpci.unique hpci'
    rw [setLine_dhaIrqs_self]
    simp only [installEntry, if_pos hregion, ackRegister]

/-! ### The entry of a line that stays handled -/

variable [DecidableEq δ]

/-- A line is handled before and after each of the events, and none of them works on memory behind
the table. -/
def Stays (k : IrqKernel δ) (irqn : Fin 256) (st : IrqState δ) (evs : List IrqEvent) : Prop :=
  ∀ pre, pre <+: evs → ((pre.foldl (irqStep k) st).dhaIrqs irqn).handled = true ∧
    (pre.foldl (irqStep k) st).overrun = false

theorem Stays.head {evs : List IrqEvent} (h : Stays k irqn st evs) :
    (st.dhaIrqs irqn).handled = true :=
  (h [] List.nil_prefix).1

theorem Stays.tail {ev : IrqEvent} {evs : List IrqEvent} (h : Stays k irqn st (ev :: evs)) :
    Stays k irqn (irqStep k st ev) evs :=
  fun pre hpre => h (ev :: pre) (List.cons_prefix_cons.mpr ⟨rfl, hpre⟩)

/-- An event other than an install request leaves the entry of a line alone, or the line was
handled and keeps its acknowledge fields and its device. -/
theorem irqStep_entry (k : IrqKernel δ) (st : IrqState δ) {ev : IrqEvent}
    (hev : ∀ irq calls, ev ≠ .install irq calls) (irqn : Fin 256) :
    (irqStep k st ev).dhaIrqs irqn = st.dhaIrqs irqn ∨
      (st.dhaIrqs irqn).handled = true ∧
        ((irqStep k st ev).dhaIrqs irqn).ackAddr = (st.dhaIrqs irqn).ackAddr ∧
        ((irqStep k st ev).dhaIrqs irqn).ackData = (st.dhaIrqs irqn).ackData ∧
        ((irqStep k st ev).dhaIrqs irqn).dev = (st.dhaIrqs irqn).dev := by
  cases ev with
  | install irq calls => exact absurd rfl (hev irq calls)
  | free irq readable =>
    have hres := freeResult k readable st irq
    rw [irqStep]
    generalize dhahelperFreeIrq k readable st irq = r at hres ⊢
    cases hres with
    | nothing ret _ => exact .inl rfl
    | overruns _ _ _ _ => exact .inl rfl
    | freed pci i _ _ _ hhandled =>
      dsimp only [Option.map_some, IrqState.after]
      by_cases hi : irqn = i
      · rw [hi, setLine_dhaIrqs_self]
        exact .inr ⟨hhandled, rfl, rfl, rfl⟩
      · exact .inl (setLine_dhaIrqs_of_ne hi)
  | interrupt i =>
    rw [irqStep, dhahelperIrqHandler]
    split_ifs with hhandled
    · by_cases hi : irqn = i
      · rw [hi, setLine_dhaIrqs_self]
        exact .inr ⟨hhandled, rfl, rfl, rfl⟩
      · exact .inl (setLine_dhaIrqs_of_ne hi)
    · exact .inl rfl

/-- An event other than an install request handles no line anew. -/
theorem handled_of_step {ev : IrqEvent} (hev : ∀ irq calls, ev ≠ .install irq calls)
    (h : ((irqStep k st ev).dhaIrqs irqn).handled = true) :
    (st.dhaIrqs irqn).handled = true := by
  rcases irqStep_entry k st hev irqn with heq | ⟨hhandled, -⟩
  · rwa [heq] at h
  · exact hhandled

/-- No event writes the acknowledge fields of a line that is handled before it. -/
theorem irqStep_ack (ev : IrqEvent) (hhandled : (st.dhaIrqs irqn).handled = true) :
    ((irqStep k st ev).dhaIrqs irqn).ackAddr = (st.dhaIrqs irqn).ackAddr ∧
      ((irqStep k st ev).dhaIrqs irqn).ackData = (st.dhaIrqs irqn).ackData ∧
      ((irqStep k st ev).dhaIrqs irqn).dev = (st.dhaIrqs irqn).dev := by
  by_cases hev : ∃ irq calls, ev = .install irq calls
  · obtain ⟨irq, calls, rfl⟩ := hev
    rw [irqStep, install_handled hhandled]
    exact ⟨rfl, rfl, rfl⟩
  · simp only [not_exists] at hev
    rcases irqStep_entry k st hev irqn with heq | ⟨-, hack⟩
    · rw [heq]
      exact ⟨rfl, rfl, rfl⟩
    · exact hack

/-- **The handler of a line that stays handled writes where it wrote.** -/
theorem Stays.ack {evs : List IrqEvent} (h : Stays k irqn st evs) :
    ackWrite (evs.foldl (irqStep k) st) irqn = ackWrite st irqn := by
  induction evs generalizing st with
  | nil => rfl
  | cons ev evs ih =>
    obtain ⟨haddr, hdata, -⟩ := irqStep_ack (k := k) ev h.head
    rw [List.foldl_cons, ih h.tail, ackWrite, ackWrite, h.tail.head, h.head, haddr, hdata]

/-! ### Install requests -/

/-- What an install request owes for a device that it finds. -/
structure AckSafe (k : IrqKernel δ) (calls : InstallCalls) (st : IrqState δ)
    (irq : DhahelperIrq) (pci : δ) : Prop where
  /-- The request does not work on memory behind the table. -/
  inTable : dhahelperInstallIrq k calls st irq ≠ none
  /-- If the request is accepted, then whatever the handler writes, as long as the line stays
  handled, are the four bytes at the offset, and they lie inside the region. -/
  inside : ∀ arg st' irqn, dhahelperInstallIrq k calls st irq = some (0, arg, st') →
    entryOf (k.irq pci) = some irqn → ∀ evs, Stays k irqn st' evs →
    ∀ w, ackWrite (evs.foldl (irqStep k) st') irqn = some w →
      w = (ackRegister k irq pci, irq.ackData) ∧ OffsetFits k irq pci
  /-- A request whose offset does not fit is refused, and no handler is registered. -/
  refused : ¬ OffsetFits k irq pci → ∃ ret arg st',
    dhahelperInstallIrq k calls st irq = some (ret, arg, st') ∧ ret ≠ 0 ∧
      st'.handlers = st.handlers ∧ ∀ i, (st'.dhaIrqs i).handled = (st.dhaIrqs i).handled

/-- The request is registered for a region that holds no register. -/
def Overlooked (k : IrqKernel δ) (calls : InstallCalls) (st : IrqState δ) (irq : DhahelperIrq)
    (pci : δ) : Prop :=
  (∃ irqn, Attempts k calls st irq pci irqn) ∧ calls.request = .registered ∧
    (k.resourceLen pci irq.ackRegion).toNat < 4

/-- **When the acknowledge write stays inside its region.**  For every kernel, every state of the
table and every request with an acknowledge region for a device that is there: the request keeps to
the table, the handler's later writes stay inside the region and an offset that does not fit is
refused with nothing registered iff the line of the device has an entry, unless the request is
refused before that is asked for, and the request is not registered for a region of less than four
bytes. -/
theorem ackSafe_iff (hregion : 0 ≤ irq.ackRegion) (hdev : findDevice k irq = some pci) :
    AckSafe k calls st irq pci ↔
      ¬ Overruns k calls irq pci ∧ ¬ Overlooked k calls st irq pci := by
  constructor
  · intro h
    refine ⟨fun hover => h.inTable ((install_eq_none_iff hdev).mpr hover), ?_⟩
    rintro ⟨hpci, hrequest, hlen⟩
    obtain ⟨ret, arg, st', hr, hret, -⟩ := h.refused (not_offsetFits hlen)
    have hzero : (dhahelperInstallIrq k calls st irq).map Prod.fst = some 0 :=
      (install_accepted_iff hdev).mpr ⟨hpci, hrequest⟩
    rw [hr] at hzero
    exact hret (Option.some.inj hzero)
  · rintro ⟨hover, hnot⟩
    have haccepted : ∀ {arg st'}, dhahelperInstallIrq k calls st irq = some (0, arg, st') →
        (∃ irqn, Attempts k calls st irq pci irqn) ∧ calls.request = .registered := by
      intro arg st' hr
      refine (install_accepted_iff hdev).mp ?_
      rw [hr]
      rfl
    have hfits : ∀ {arg st'}, dhahelperInstallIrq k calls st irq = some (0, arg, st') →
        OffsetFits k irq pci := by
      intro arg st' hr
      obtain ⟨⟨irqn, hpci⟩, hrequest⟩ := haccepted hr
      exact hpci.offsetFits (Nat.not_lt.mp fun hlt => hnot ⟨⟨irqn, hpci⟩, hrequest, hlt⟩)
    refine ⟨fun hnone => hover ((install_eq_none_iff hdev).mp hnone), ?_, fun hno => ?_⟩
    · intro arg st' irqn hr hline evs hstays w hw
      obtain ⟨⟨irqn', hpci⟩, hrequest⟩ := haccepted hr
      obtain rfl := Option.some.inj (hline.symm.trans hpci.line)
      rw [hstays.ack] at hw
      exact ⟨ackWrite_installed hregion hpci hrequest hr hw, hfits hr⟩
    · cases hr : dhahelperInstallIrq k calls st irq with
      | none => exact absurd ((install_eq_none_iff hdev).mp hr) hover
      | some r =>
        obtain ⟨ret, arg, st'⟩ := r
        have hret : ret ≠ 0 := by
          rintro rfl
          exact hno (hfits hr)
        exact ⟨ret, arg, st', rfl, hret, install_refused hr hret⟩

/-- A register at the end of a region of four bytes. -/
theorem ackSafe_sharedLine :
    AckSafe { sharedLine with resourceLen := fun _ _ => 4 } ⟨true, .registered, true⟩
      initDhahelper { slotIrq 0 with ackOffset := 0 } false :=
  (ackSafe_iff (by decide) (by decide)).mpr
    ⟨fun h => absurd h.2 (by decide), fun h => absurd h.2.2 (by decide)⟩

/-- **An empty region admits a register at its offset 0**: the request is accepted, and from then
on each interrupt writes to an address that is not the device's. -/
theorem ackWrite_empty :
    let k : IrqKernel Bool := { sharedLine with resourceLen := fun _ _ => 0 }
    let irq := { slotIrq 0 with ackOffset := 0 }
    let r := dhahelperInstallIrq k ⟨true, .registered, true⟩ initDhahelper irq
    findDevice k irq = some false ∧ r.map Prod.fst = some 0 ∧
      r.map (fun r => ackWrite r.2.2 10) = some (some (0xffff8800e0000000, 1)) ∧
      ¬ AckSafe k ⟨true, .registered, true⟩ initDhahelper irq false := by
  refine ⟨by decide, by decide, by decide, fun h => ?_⟩
  obtain ⟨ret, arg, st', hr, hret, -⟩ := h.refused (not_offsetFits (by decide))
  have hzero : (some (ret, arg, st')).map Prod.fst = some 0 := by
    rw [← hr]
    decide
  exact hret (Option.some.inj hzero)

/-! ### Runs -/

/-- The event works on the table only, and is not an install request that is registered for a region
without a register. -/
def AckEventOk (k : IrqKernel δ) (st : IrqState δ) : IrqEvent → Prop
  | .install irq calls =>
    ∀ pci, ¬ Overruns k calls irq pci ∧ ¬ Overlooked k calls st irq pci
  | .free irq readable =>
    ∀ pci, readable = true → findDevice k irq = some pci → entryOf (k.irq pci) ≠ none
  | .interrupt _ => True

/-- The handler of each handled line writes to a register of the line's device, or not at all. -/
structure AckInside (k : IrqKernel δ) (st : IrqState δ) : Prop where
  inTable : st.overrun = false
  line : ∀ irqn w, ackWrite st irqn = some w →
    ∃ pci irq, (st.dhaIrqs irqn).dev = some pci ∧ OffsetFits k irq pci ∧
      w = (ackRegister k irq pci, irq.ackData)

/-- A line that was handled before the event, and still is, writes what it wrote for the same
device. -/
theorem AckInside.of_handled (h : AckInside k st) {ev : IrqEvent}
    (hhandled : (st.dhaIrqs irqn).handled = true) {w : UInt64 × UInt32}
    (hw : ackWrite (irqStep k st ev) irqn = some w) :
    ∃ pci irq, ((irqStep k st ev).dhaIrqs irqn).dev = some pci ∧ OffsetFits k irq pci ∧
      w = (ackRegister k irq pci, irq.ackData) := by
  obtain ⟨haddr, hdata, hdev⟩ := irqStep_ack (k := k) ev hhandled
  obtain ⟨-, hne, rfl⟩ := ackWrite_eq_some hw
  rw [haddr] at hne
  rw [hdev]
  refine h.line irqn _ ?_
  rw [ackWrite, if_pos ⟨hhandled, hne⟩, haddr, hdata]

/-- Such an event keeps to the table. -/
theorem AckEventOk.inTable {ev : IrqEvent} (hev : AckEventOk k st ev) (h : st.overrun = false) :
    (irqStep k st ev).overrun = false := by
  cases ev with
  | install irq calls =>
    have hres := installResult k calls st irq
    rw [irqStep]
    generalize dhahelperInstallIrq k calls st irq = r at hres ⊢
    cases hres with
    | overruns pci hpci hge => exact absurd ⟨hpci, hge⟩ (hev pci).1
    | rejected _ _ _ _ => exact h
    | refused _ _ _ _ _ => exact h
    | unreplied _ _ _ _ _ => exact h
    | installed _ _ _ _ _ => exact h
  | free irq readable =>
    have hres := freeResult k readable st irq
    rw [irqStep]
    generalize dhahelperFreeIrq k readable st irq = r at hres ⊢
    cases hres with
    | overruns pci hread hdev hline => exact absurd hline (hev pci hread hdev)
    | nothing _ _ => exact h
    | freed _ _ _ _ _ _ => exact h
  | interrupt irqn =>
    rw [irqStep, dhahelperIrqHandler]
    split
    · exact h
    · exact h

/-- **One event keeps the writes inside.** -/
theorem AckInside.step (h : AckInside k st) {ev : IrqEvent} (hev : AckEventOk k st ev) :
    AckInside k (irqStep k st ev) := by
  refine ⟨hev.inTable h.inTable, fun i w hw => ?_⟩
  by_cases hhandled : (st.dhaIrqs i).handled = true
  · exact h.of_handled hhandled hw
  obtain ⟨hnow, hne, rfl⟩ := ackWrite_eq_some hw
  cases ev with
  | install irq calls =>
    have hres := installResult k calls st irq
    rw [irqStep] at hnow hne ⊢
    generalize dhahelperInstallIrq k calls st irq = r at hres hnow hne ⊢
    dsimp only [Option.map, IrqState.after] at hnow hne ⊢
    cases hres with
    | rejected _ _ _ _ => exact absurd hnow hhandled
    | overruns _ _ _ => exact absurd hnow hhandled
    | refused _ _ _ _ _ =>
      exact absurd ((setLine_installEntry_handled _ i).symm.trans hnow) hhandled
    | unreplied _ _ _ _ _ =>
      exact absurd ((setLine_installEntry_handled _ i).symm.trans hnow) hhandled
    | installed pci irqn hpci hrequest _ =>
      dsimp only at hnow hne ⊢
      by_cases hi : i = irqn
      · subst hi
        rw [setLine_dhaIrqs_self] at hne ⊢
        have hfits : OffsetFits k irq pci :=
          hpci.offsetFits (Nat.not_lt.mp fun hlt => (hev pci).2 ⟨⟨i, hpci⟩, hrequest, hlt⟩)
        -- without a region there is no address to write to
        have hregion : 0 ≤ irq.ackRegion := by
          by_contra hneg
          exact hne (if_neg hneg)
        refine ⟨pci, irq, rfl, hfits, ?_⟩
        simp only [installEntry, if_pos hregion, ackRegister]
      · rw [setLine_dhaIrqs_of_ne hi] at hnow
        exact absurd hnow hhandled
  | free irq readable => exact absurd (handled_of_step (by simp) hnow) hhandled
  | interrupt n => exact absurd (handled_of_step (by simp) hnow) hhandled

/-- **Throughout every run** whose requests keep to the table and whose install requests are not
registered for regions of less than four bytes, each handler writes to a register of its line's
device, or not at all. -/
theorem ackWrite_inside {evs : List IrqEvent}
    (h : Guarded (irqStep k) (AckEventOk k) initDhahelper evs) {pre : List IrqEvent}
    (hpre : pre <+: evs) : AckInside k (irqRun k pre) := by
  refine (h.of_prefix hpre).invariant (fun _ _ hst hev => hst.step hev) ⟨rfl, fun i w hw => ?_⟩
  exact absurd (ackWrite_eq_some hw).1 (by simp [initDhahelper])

end Vidix.Dhahelper
