import Vidix.Sis.Probe
import Vidix.Util.Simulation
import Mathlib.Tactic.Common

/-!
# The probe of the sis driver and its messages

`vixProbe` tells that it has found no chip only when it is verbose.  The test for that is also the
one that decides whether the driver has been probed: a driver that says nothing is marked as probed
although there is no chip, and `vixInit` goes on.  In a run of these calls from the beginning, the
verbosity changes nothing and the mark stands for a chip that has been found iff each probe finds a
chip, or its scan fails, or a probe before it has found one: `probedRightly_iff`.
-/

namespace Vidix.Sis

open Util

variable {d : Driver} {lst : List (PciDevice × ChipAnswer)} {err : ℤ}

/-- The driver with another verbosity. -/
def Driver.verbosity (d : Driver) (verbose : UInt32) : Driver := { d with sisVerbose := verbose }

/-! ### Runs -/

/-- A call, with what it is answered. -/
inductive Call where
  | probe (verbose : UInt32) (scan : ℤ × List (PciDevice × ChipAnswer))
  | init (a : InitAnswer)

/-- What a call returns and leaves. -/
def callStep (d : Driver) : Call → ℤ × Driver
  | .probe verbose scan => vixProbe verbose scan d
  | .init a => vixInit a d

/-- The driver that a call leaves. -/
def callNext (d : Driver) (call : Call) : Driver := (callStep d call).2

/-- The driver after a run of calls. -/
def reached (calls : List Call) : Driver := calls.foldl callNext Driver.initial

/-- The same call with any two verbosities. -/
inductive Call.Alike : Call → Call → Prop
  | probe (v w : UInt32) (scan : ℤ × List (PciDevice × ChipAnswer)) :
    Alike (.probe v scan) (.probe w scan)
  | init (a : InitAnswer) : Alike (.init a) (.init a)

/-- A device of the list is a chip that the driver supports. -/
def HasChip (lst : List (PciDevice × ChipAnswer)) : Prop := ∃ x ∈ lst, x.1.isSupported = true

/-- A probe of the run has found a chip. -/
def Found (calls : List Call) : Prop := ∃ verbose lst, .probe verbose (0, lst) ∈ calls ∧ HasChip lst

/-- With other verbosities, the calls return the same and leave the same driver; it is marked as
probed only by a probe that returned 0, and `vixInit` gives up while no chip has been found. -/
structure ProbedRightly (calls : List Call) : Prop where
  same : ∀ calls', List.Forall₂ Call.Alike calls calls' →
    (answers callStep Driver.initial calls').1 = (answers callStep Driver.initial calls).1 ∧
      (reached calls').verbosity 0 = (reached calls).verbosity 0
  marked : (reached calls).sisProbed = true → ∃ pre verbose scan,
    pre ++ [.probe verbose scan] <+: calls ∧ (vixProbe verbose scan (reached pre)).1 = 0
  refuses : ¬ Found calls → ∀ a, (vixInit a (reached calls)).1 = eintr

/-! ### The loop over the devices -/

theorem probeChip_verbosity (d : Driver) (v : UInt32) (a : ChipAnswer) :
    (d.verbosity v).probeChip a = (d.probeChip a).verbosity v := by
  unfold Driver.probeChip Driver.probe315 Driver.verbosity
  dsimp only
  split_ifs <;> rfl

theorem probeChip_sisProbed (d : Driver) (a : ChipAnswer) :
    (d.probeChip a).sisProbed = d.sisProbed := by
  unfold Driver.probeChip Driver.probe315
  dsimp only
  split_ifs <;> rfl

theorem probeDevice_verbosity (err : ℤ) (d : Driver) (v : UInt32) (x : PciDevice × ChipAnswer) :
    probeDevice (err, d.verbosity v) x =
      ((probeDevice (err, d) x).1, (probeDevice (err, d) x).2.verbosity v) := by
  unfold probeDevice
  dsimp only
  split_ifs
  · let found : Driver :=
      { d with sisDeviceId := x.1.device.toUInt32, capDeviceId := x.1.device, pciInfo := x.1 }
    exact congrArg (Prod.mk 0) (probeChip_verbosity found v x.2)
  · rfl

theorem probeDevice_sisProbed (err : ℤ) (d : Driver) (x : PciDevice × ChipAnswer) :
    (probeDevice (err, d) x).2.sisProbed = d.sisProbed := by
  unfold probeDevice
  dsimp only
  split_ifs
  · exact probeChip_sisProbed _ x.2
  · rfl

/-- The verbosity goes through the loop. -/
theorem foldl_probeDevice_verbosity (err : ℤ) (d : Driver)
    (lst : List (PciDevice × ChipAnswer)) (v : UInt32) :
    lst.foldl probeDevice (err, d.verbosity v) =
      ((lst.foldl probeDevice (err, d)).1, (lst.foldl probeDevice (err, d)).2.verbosity v) := by
  induction lst generalizing err d with
  | nil => rfl
  | cons x lst ih =>
    rw [List.foldl_cons, probeDevice_verbosity, ih]
    rfl

theorem foldl_probeDevice_sisProbed (err : ℤ) (d : Driver)
    (lst : List (PciDevice × ChipAnswer)) :
    (lst.foldl probeDevice (err, d)).2.sisProbed = d.sisProbed := by
  induction lst generalizing err d with
  | nil => rfl
  | cons x lst ih =>
    rw [List.foldl_cons]
    exact (ih _ _).trans (probeDevice_sisProbed err d x)

/-- The loop is left with 0 iff there is a chip, or `err` has been 0 before. -/
theorem foldl_probeDevice_eq_zero_iff :
    (lst.foldl probeDevice (err, d)).1 = 0 ↔ err = 0 ∨ HasChip lst := by
  unfold HasChip
  induction lst generalizing err d with
  | nil => simp
  | cons x lst ih =>
    have hx : (probeDevice (err, d) x).1 = 0 ↔ err = 0 ∨ x.1.isSupported = true := by
      unfold probeDevice
      dsimp only
      split_ifs with hsupported
      · simp [hsupported]
      · simp [hsupported]
    rw [List.foldl_cons, ih, hx, or_assoc]
    simp only [List.mem_cons, exists_eq_or_imp]

/-! ### The probe -/

/-- What a probe whose scan succeeds returns and leaves. -/
theorem vixProbe_zero (v : UInt32) (lst : List (PciDevice × ChipAnswer)) (d : Driver) :
    vixProbe v (0, lst) d =
      ((lst.foldl probeDevice (enxio, d)).1,
        { (lst.foldl probeDevice (enxio, d)).2.verbosity v with
          sisProbed :=
            if (lst.foldl probeDevice (enxio, d)).1 ≠ 0 ∧ v ≠ 0 then d.sisProbed else true }) := by
  have hfold := foldl_probeDevice_verbosity enxio d lst v
  have hprobed := foldl_probeDevice_sisProbed enxio d lst
  unfold vixProbe
  dsimp only
  rw [if_neg (by decide)]
  unfold Driver.verbosity at hfold
  rw [hfold]
  dsimp only
  split_ifs with h
  · rw [← hprobed]
    rfl
  · rfl

theorem vixProbe_error (v : UInt32) (lst : List (PciDevice × ChipAnswer)) (d : Driver)
    (herr : err ≠ 0) : vixProbe v (err, lst) d = (err, d.verbosity v) := by
  unfold vixProbe
  dsimp only
  rw [if_pos herr]
  rfl

/-- Without the messages, the driver is always marked as probed. -/
theorem vixProbe_silent (lst : List (PciDevice × ChipAnswer)) (d : Driver) :
    (vixProbe 0 (0, lst) d).2.sisProbed = true := by
  rw [vixProbe_zero]
  exact if_neg fun h => h.2 rfl

/-- A probe returns 0 iff it has found a chip. -/
theorem vixProbe_eq_zero_iff (v : UInt32) (scan : ℤ × List (PciDevice × ChipAnswer))
    (d : Driver) : (vixProbe v scan d).1 = 0 ↔ scan.1 = 0 ∧ HasChip scan.2 := by
  obtain ⟨err, lst⟩ := scan
  by_cases herr : err = 0
  · subst herr
    rw [vixProbe_zero, foldl_probeDevice_eq_zero_iff]
    exact ⟨fun h => ⟨rfl, h.resolve_left (by decide)⟩, fun h => .inr h.2⟩
  · rw [vixProbe_error v lst d herr]
    exact iff_of_false herr fun h => herr h.1

/-- With the messages, a driver that has found no chip is left as it was. -/
theorem vixProbe_verbose (hnone : ¬ HasChip lst) (d : Driver) :
    (vixProbe 1 (0, lst) d).2.sisProbed = d.sisProbed := by
  have hne : (lst.foldl probeDevice (enxio, d)).1 ≠ 0 := by
    rw [Ne, foldl_probeDevice_eq_zero_iff]
    rintro (h | h)
    · exact absurd h (by decide)
    · exact hnone h
  rw [vixProbe_zero]
  exact if_pos ⟨hne, by decide⟩

theorem vixInit_of_not_probed (a : InitAnswer) (hd : d.sisProbed = false) :
    vixInit a d = (eintr, d) := by
  unfold vixInit
  exact if_pos hd

theorem vixInit_sisProbed (a : InitAnswer) (d : Driver) :
    (vixInit a d).2.sisProbed = d.sisProbed := by
  unfold vixInit
  split_ifs <;> rfl

theorem vixInit_verbosity (a : InitAnswer) (d : Driver) (v : UInt32) :
    vixInit a (d.verbosity v) = ((vixInit a d).1, (vixInit a d).2.verbosity v) := by
  unfold vixInit Driver.verbosity
  dsimp only
  split_ifs <;> rfl

/-- When there is a chip, or the driver has been probed before, it is marked as probed whatever the
verbosity. -/
theorem vixProbe_marks (h : HasChip lst ∨ d.sisProbed = true) (v : UInt32) :
    vixProbe v (0, lst) d =
      ((lst.foldl probeDevice (enxio, d)).1,
        { (lst.foldl probeDevice (enxio, d)).2.verbosity v with sisProbed := true }) := by
  have hmark : (if (lst.foldl probeDevice (enxio, d)).1 ≠ 0 ∧ v ≠ 0 then d.sisProbed else true) =
      true := by
    rcases h with hfound | hprobed
    · exact if_neg fun hne => hne.1 (foldl_probeDevice_eq_zero_iff.mpr (.inr hfound))
    · rw [hprobed, ite_self]
  rw [vixProbe_zero, hmark]

/-! ### Steps -/

/-- A probe finds a chip, or its scan fails, or the driver has been probed before. -/
def ProbeOk (d : Driver) : Call → Prop
  | .probe _ scan => scan.1 ≠ 0 ∨ HasChip scan.2 ∨ d.sisProbed = true
  | .init _ => True

/-- **Such a call does not depend on the verbosities,** neither on its own nor on the one before. -/
theorem callStep_alike {d' : Driver} {call call' : Call} (hok : ProbeOk d call)
    (hcall : call.Alike call') (hd : d'.verbosity 0 = d.verbosity 0) :
    (callStep d' call').1 = (callStep d call).1 ∧
      (callStep d' call').2.verbosity 0 = (callStep d call).2.verbosity 0 := by
  obtain ⟨u, rfl⟩ : ∃ u, d' = d.verbosity u := by
    have hverbose : (d'.verbosity 0).verbosity d'.sisVerbose =
        (d.verbosity 0).verbosity d'.sisVerbose := by rw [hd]
    exact ⟨d'.sisVerbose, hverbose⟩
  cases hcall with
  | probe v w scan =>
    obtain ⟨err, lst⟩ := scan
    -- a probe sets the verbosity before anything else
    show (vixProbe w (err, lst) d).1 = (vixProbe v (err, lst) d).1 ∧ _
    by_cases herr : err = 0
    · subst herr
      have hmarks := vixProbe_marks (hok.resolve_left fun hne => hne rfl)
      refine ⟨by rw [hmarks, hmarks], ?_⟩
      show (vixProbe w (0, lst) d).2.verbosity 0 = (vixProbe v (0, lst) d).2.verbosity 0
      rw [hmarks, hmarks]
      rfl
    · refine ⟨by rw [vixProbe_error w lst d herr, vixProbe_error v lst d herr], ?_⟩
      show (vixProbe w (err, lst) d).2.verbosity 0 = (vixProbe v (err, lst) d).2.verbosity 0
      rw [vixProbe_error w lst d herr, vixProbe_error v lst d herr]
      rfl
  | init a =>
    show (vixInit a (d.verbosity u)).1 = _ ∧ (vixInit a (d.verbosity u)).2.verbosity 0 = _
    rw [vixInit_verbosity]
    exact ⟨rfl, rfl⟩

/-- Nor does a run of such calls. -/
theorem answers_alike {d' : Driver} {calls calls' : List Call}
    (hok : Guarded callNext ProbeOk d calls)
    (hcalls : List.Forall₂ Call.Alike calls calls') (hd : d'.verbosity 0 = d.verbosity 0) :
    (answers callStep d' calls').1 = (answers callStep d calls).1 ∧
      (calls'.foldl callNext d').verbosity 0 = (calls.foldl callNext d).verbosity 0 := by
  induction hcalls generalizing d d' with
  | nil => exact ⟨rfl, hd⟩
  | cons hcall _ ih =>
    obtain ⟨hresult, hnext⟩ := callStep_alike hok.1 hcall hd
    obtain ⟨hresults, hlast⟩ := ih hok.2 hnext
    rw [answers_cons, answers_cons, hresult, hresults]
    exact ⟨rfl, hlast⟩

/-! ### The run -/

theorem reached_append (pre : List Call) (call : Call) :
    reached (pre ++ [call]) = callNext (reached pre) call := List.foldl_concat ..

theorem found_append_probe_iff {pre : List Call} {verbose : UInt32}
    {scan : ℤ × List (PciDevice × ChipAnswer)} :
    Found (pre ++ [.probe verbose scan]) ↔ Found pre ∨ scan.1 = 0 ∧ HasChip scan.2 := by
  constructor
  · rintro ⟨v, lst, hmem, hchip⟩
    rcases List.mem_append.mp hmem with hpre | hlast
    · exact .inl ⟨v, lst, hpre, hchip⟩
    · cases List.mem_singleton.mp hlast
      exact .inr ⟨rfl, hchip⟩
  · rintro (⟨v, lst, hpre, hchip⟩ | ⟨hzero, hchip⟩)
    · exact ⟨v, lst, List.mem_append_left _ hpre, hchip⟩
    · obtain ⟨err, lst⟩ := scan
      obtain rfl : err = 0 := hzero
      exact ⟨verbose, lst, List.mem_append_right _ (List.mem_singleton.mpr rfl), hchip⟩

theorem found_append_init_iff {pre : List Call} {a : InitAnswer} :
    Found (pre ++ [.init a]) ↔ Found pre := by
  simp [Found]

/-- **In a run of such calls the driver is marked as probed iff a chip has been found.** -/
theorem sisProbed_iff_found {calls : List Call}
    (h : Guarded callNext ProbeOk Driver.initial calls) :
    (reached calls).sisProbed = true ↔ Found calls := by
  induction calls using List.reverseRecOn with
  | nil => exact iff_of_false (by decide) fun ⟨_, _, hmem, _⟩ => List.not_mem_nil hmem
  | append_singleton pre call ih =>
    obtain ⟨hpre, hok, -⟩ := guarded_append.mp h
    have ih := ih hpre
    rw [reached_append]
    cases call with
    | probe verbose scan =>
      obtain ⟨err, lst⟩ := scan
      rw [found_append_probe_iff, ← ih]
      show (vixProbe verbose (err, lst) (reached pre)).2.sisProbed = true ↔ _
      by_cases herr : err = 0
      · subst herr
        have hmark : HasChip lst ∨ (reached pre).sisProbed = true :=
          hok.resolve_left fun hne => hne rfl
        rw [vixProbe_marks hmark]
        exact iff_of_true rfl (hmark.symm.imp_right fun hchip => ⟨rfl, hchip⟩)
      · rw [vixProbe_error verbose lst _ herr]
        exact (or_iff_left fun hzero => herr hzero.1).symm
    | init a =>
      rw [found_append_init_iff, ← ih]
      show (vixInit a (reached pre)).2.sisProbed = true ↔ _
      rw [vixInit_sisProbed]

/-- Whether a driver has been probed before is a matter of the devices that have been found. -/
theorem guarded_iff (calls : List Call) :
    Guarded callNext ProbeOk Driver.initial calls ↔
      ∀ pre verbose scan, pre ++ [.probe verbose scan] <+: calls →
        scan.1 ≠ 0 ∨ HasChip scan.2 ∨ Found pre := by
  induction calls using List.reverseRecOn with
  | nil =>
    refine iff_of_true trivial fun pre verbose scan hpre => ?_
    simp at hpre
  | append_singleton pre call ih =>
    rw [guarded_append, ih]
    simp only [List.prefix_concat_iff, or_imp, forall_and]
    rw [and_comm]
    refine and_congr_left fun hpre => ?_
    have hfound := sisProbed_iff_found (ih.mpr hpre)
    constructor
    · rintro ⟨hok, -⟩ q verbose scan heq
      obtain ⟨rfl, hlast⟩ := List.append_inj' heq rfl
      obtain rfl : Call.probe verbose scan = call := List.singleton_injective hlast
      rw [← hfound]
      exact hok
    · intro hall
      refine ⟨?_, trivial⟩
      cases call with
      | probe verbose scan =>
        have hok := hall pre verbose scan rfl
        rw [← hfound] at hok
        exact hok
      | init a => trivial

theorem alike_refl (calls : List Call) : List.Forall₂ Call.Alike calls calls :=
  List.forall₂_same.mpr fun call _ => by
    cases call with
    | probe verbose scan => exact .probe verbose verbose scan
    | init a => exact .init a

/-- **In a run of probes and initializations, the verbosity changes nothing and the mark stands for
a chip that has been found iff each probe finds a chip, or its scan fails, or a probe before it has
found one.** -/
theorem probedRightly_iff (calls : List Call) :
    (∀ pre, pre <+: calls → ProbedRightly pre) ↔
      ∀ pre verbose scan, pre ++ [.probe verbose scan] <+: calls →
        scan.1 ≠ 0 ∨ HasChip scan.2 ∨ Found pre := by
  constructor
  · intro h pre verbose scan hpre
    by_contra! hnot
    obtain ⟨hzero, hnone, hfound⟩ := hnot
    obtain ⟨err, lst⟩ := scan
    obtain rfl : err = 0 := hzero
    -- nothing has marked the driver before this probe
    have hunmarked : (reached pre).sisProbed = false := by
      by_contra hmarked
      obtain ⟨q, v, scan, hq, hret⟩ :=
        (h pre ((List.prefix_append ..).trans hpre)).marked (Bool.eq_true_of_not_eq_false hmarked)
      obtain ⟨herr, hchip⟩ := (vixProbe_eq_zero_iff _ _ _).mp hret
      obtain ⟨err, lst⟩ := scan
      obtain rfl : err = 0 := herr
      exact hfound ⟨v, lst, hq.subset (List.mem_append_right _ List.mem_cons_self), hchip⟩
    have hother : ∀ v, (callNext (reached pre) (.probe v (0, lst))).sisProbed =
        (reached (pre ++ [.probe verbose (0, lst)])).sisProbed := by
      intro v
      have hsame := ((h _ hpre).same (pre ++ [.probe v (0, lst)])
        (List.rel_append (alike_refl pre) (.cons (.probe verbose v _) .nil))).2
      rw [reached_append pre (.probe v _)] at hsame
      have hprobed := congrArg Driver.sisProbed hsame
      exact hprobed
    have hsilent : (vixProbe 0 (0, lst) (reached pre)).2.sisProbed = true := vixProbe_silent _ _
    have hverbose := vixProbe_verbose hnone (reached pre)
    have hboth := (hother 0).trans (hother 1).symm
    change (vixProbe 0 (0, lst) (reached pre)).2.sisProbed =
      (vixProbe 1 (0, lst) (reached pre)).2.sisProbed at hboth
    rw [hsilent, hverbose, hunmarked] at hboth
    cases hboth
  · intro h pre hpre
    have hguarded := Guarded.of_prefix ((guarded_iff calls).mpr h) hpre
    have hiff := sisProbed_iff_found hguarded
    refine ⟨fun calls' hcalls => answers_alike hguarded hcalls rfl, fun hmarked => ?_,
      fun hnone a => ?_⟩
    · obtain ⟨verbose, lst, hmem, hchip⟩ := hiff.mp hmarked
      obtain ⟨q, post, rfl⟩ := List.append_of_mem hmem
      exact ⟨q, verbose, (0, lst), ⟨post, by simp⟩,
        (vixProbe_eq_zero_iff _ _ _).mpr ⟨rfl, hchip⟩⟩
    · exact congrArg Prod.fst
        (vixInit_of_not_probed a (Bool.eq_false_of_not_eq_true fun hmark => hnone (hiff.mp hmark)))

/-- **No device at all, and no messages: the probe fails, the driver is marked as probed, and
`vixInit` succeeds. With messages it gives up.** -/
theorem probed_without_chip :
    ¬ ProbedRightly [.probe 0 (0, [])] ∧
      (vixProbe 0 (0, []) Driver.initial).1 = enxio ∧
      (vixProbe 0 (0, []) Driver.initial).2.sisProbed = true ∧
      (vixProbe 1 (0, []) Driver.initial).1 = enxio ∧
      (vixProbe 1 (0, []) Driver.initial).2.sisProbed = false ∧
      (∀ a : InitAnswer, a.appIo = 0 → (vixInit a (vixProbe 0 (0, []) Driver.initial).2).1 = 0) ∧
      ∀ a : InitAnswer, (vixInit a (vixProbe 1 (0, []) Driver.initial).2).1 = eintr := by
  refine ⟨fun h => ?_, rfl, rfl, rfl, rfl, fun a ha => ?_, fun a => rfl⟩
  · obtain ⟨q, v, scan, hq, hret⟩ := h.marked rfl
    obtain ⟨hzero, x, hx, -⟩ := (vixProbe_eq_zero_iff _ _ _).mp hret
    have hmem := hq.subset (List.mem_append_right q List.mem_cons_self)
    cases List.mem_singleton.mp hmem
    exact List.not_mem_nil hx
  · unfold vixInit
    rw [if_neg (by decide), if_neg (not_not_intro ha)]

end Vidix.Sis
