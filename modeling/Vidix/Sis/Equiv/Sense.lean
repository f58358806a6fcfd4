import Vidix.Sis.Equiv.Bridge

/-!
# What sensing leaves behind

`sis_init_video_bridge` looks for devices by driving the connectors of the bridge, and keeps what
it has found in `CR` 0x32.  Of the other registers only the two that drive the connectors are not
as they were before (`Restored`), and what is kept agrees with the flags (`Kept`): both are so for
every answer of the sensor (`sisInitVideoBridge_sensed`).
-/

namespace Vidix.Sis

open Util

/-! ### `sis_do_sense` -/

/-- All registers are the same but for those of `PART4` that drive the connectors. -/
structure SameButDriven (c c' : Chip) : Prop where
  sr : c'.sr = c.sr
  cr : c'.cr = c.cr
  part1 : c'.part1 = c.part1
  part2 : c'.part2 = c.part2
  part4 : ∀ i, i ≠ 0x10 → i ≠ 0x11 → c'.part4 i = c.part4 i

theorem SameButDriven.trans {c c' c'' : Chip} (h : SameButDriven c c')
    (h' : SameButDriven c' c'') : SameButDriven c c'' :=
  ⟨h'.sr.trans h.sr, h'.cr.trans h.cr, h'.part1.trans h.part1, h'.part2.trans h.part2,
    fun i h0 h1 => (h'.part4 i h0 h1).trans (h.part4 i h0 h1)⟩

theorem setIdx_of_ne {idx i : UInt8} (h : i ≠ idx) (keep bits : UInt8) (ports : Ports) :
    setIdx idx keep bits ports i = ports i :=
  Function.update_of_ne h _ _

@[simp] theorem setIdx_same (idx keep bits : UInt8) (ports : Ports) :
    setIdx idx keep bits ports idx = (ports idx &&& keep) ||| bits :=
  Function.update_self _ _ _

theorem senseOnce_same (type test : UInt16) (c : Chip) :
    SameButDriven c (senseOnce type test c).2 := by
  refine ⟨rfl, rfl, rfl, rfl, fun i h0 h1 => ?_⟩
  unfold senseOnce
  dsimp only
  rw [setIdx_of_ne h0, Function.update_of_ne h1, setIdx_of_ne h0, Function.update_of_ne h1]

theorem senseRound_same (type test : UInt16) (c : Chip) :
    SameButDriven c (senseRound type test c).2 :=
  ((senseOnce_same type test c).trans (senseOnce_same type test _)).trans
    (senseOnce_same type test _)

theorem senseLoop_same (type test : UInt16) (j : ℕ) (c : Chip) :
    SameButDriven c (senseLoop type test j c).2 := by
  induction j generalizing c with
  | zero => exact senseRound_same type test c
  | succ j ih =>
    unfold senseLoop
    dsimp only
    split
    · exact senseRound_same type test c
    · exact (senseRound_same type test c).trans (ih _)

theorem sisDoSense_same (type test : UInt16) (c : Chip) :
    SameButDriven c (sisDoSense type test c).2 :=
  senseLoop_same type test 9 c

/-! ### What is restored -/

/-- All registers are the same but for `CR` 0x32 and for those that drive the connectors. -/
structure Restored (c c' : Chip) : Prop where
  sr : c'.sr = c.sr
  cr : ∀ i, i ≠ 0x32 → c'.cr i = c.cr i
  part1 : c'.part1 = c.part1
  part2 : c'.part2 = c.part2
  part4 : ∀ i, i ≠ 0x10 → i ≠ 0x11 → c'.part4 i = c.part4 i

theorem Restored.refl (c : Chip) : Restored c c :=
  ⟨rfl, fun _ _ => rfl, rfl, rfl, fun _ _ _ => rfl⟩

theorem Restored.trans {c c' c'' : Chip} (h : Restored c c') (h' : Restored c' c'') :
    Restored c c'' :=
  ⟨h'.sr.trans h.sr, fun i hi => (h'.cr i hi).trans (h.cr i hi), h'.part1.trans h.part1,
    h'.part2.trans h.part2, fun i h0 h1 => (h'.part4 i h0 h1).trans (h.part4 i h0 h1)⟩

theorem SameButDriven.restored {c c' : Chip} (h : SameButDriven c c') : Restored c c' :=
  ⟨h.sr, fun i _ => congrFun h.cr i, h.part1, h.part2, h.part4⟩

theorem restored_setIdx (keep bits : UInt8) (c : Chip) :
    Restored c { c with cr := setIdx 0x32 keep bits c.cr } :=
  ⟨rfl, fun _ hi => setIdx_of_ne hi _ _ _, rfl, rfl, fun _ _ _ => rfl⟩

theorem senseNothing_restored (b : Bridge) : Restored b.chip (senseNothing b).chip :=
  (sisDoSense_same 0 0 b.chip).restored

theorem keepCr32_restored (keep : UInt8) (b : Bridge) : Restored b.chip (keepCr32 keep b).chip :=
  restored_setIdx keep 0x00 b.chip

theorem senseFor_restored (type test : UInt16) (flag : UInt32) (bits : UInt8) (b : Bridge) :
    Restored b.chip (senseFor type test flag bits b).chip := by
  have hsense := (sisDoSense_same type test b.chip).restored
  unfold senseFor
  dsimp only
  split
  · exact hsense.trans (restored_setIdx _ _ _)
  · exact hsense

theorem senseVga2_restored (vga2 vga2C : UInt16) (b : Bridge) :
    Restored b.chip (senseVga2 vga2 vga2C b).chip := by
  unfold senseVga2
  split
  · exact senseFor_restored _ _ _ _ _
  · exact .refl _

theorem senseDevices_restored (svhs svhsC cvbs cvbsC vga2 vga2C : UInt16) (b : Bridge) :
    Restored b.chip (senseDevices svhs svhsC cvbs cvbsC vga2 vga2C b).chip := by
  have hvga2 : Restored b.chip (senseVga2 vga2 vga2C (keepCr32 (~~~0x14) (senseNothing b))).chip :=
    ((senseNothing_restored b).trans (keepCr32_restored _ _)).trans (senseVga2_restored _ _ _)
  have hkept := (hvga2.trans (keepCr32_restored 0x3f _)).trans (keepCr32_restored (~~~0x03) _)
  have hsvhs := hkept.trans (senseFor_restored svhs svhsC tvSvideo 0x02 _)
  have hcvbs := hsvhs.trans (senseFor_restored cvbs cvbsC tvAvideo 0x01 _)
  exact hcvbs.trans (senseNothing_restored _)

/-- A register that is changed and put back. -/
theorem update_of_eq {ports ports' : Ports} {idx : UInt8} (h : ∀ i, i ≠ idx → ports' i = ports i) :
    Function.update ports' idx (ports idx) = ports := by
  funext i
  by_cases hi : i = idx
  · rw [hi, Function.update_self]
  · rw [Function.update_of_ne hi, h i hi]

theorem startSensing_eq (b : Bridge) :
    (∀ i, i ≠ 0x1e → (startSensing b).chip.sr i = b.chip.sr i) ∧
      (∀ i, i ≠ 0x0d → (startSensing b).chip.part4 i = b.chip.part4 i) ∧
      ∀ i, i ≠ 0x00 → (startSensing b).chip.part2 i = b.chip.part2 i := by
  refine ⟨fun i hi => setIdx_of_ne hi _ _ _, fun i hi => ?_, fun i hi => ?_⟩
  · unfold startSensing
    dsimp only
    split <;> exact setIdx_of_ne hi _ _ _
  · exact Function.update_of_ne hi _ _

/-- Whatever leaves the registers alone between the two changes leaves them alone. -/
theorem endSensing_restored {b b' : Bridge} (h : Restored (startSensing b).chip b'.chip) :
    Restored b.chip (endSensing b.chip b').chip := by
  obtain ⟨hsr, hpart4, hpart2⟩ := startSensing_eq b
  refine ⟨update_of_eq fun i hi => ?_, h.cr, h.part1, update_of_eq fun i hi => ?_,
    fun i h0 h1 => ?_⟩
  · rw [h.sr, hsr i hi]
  · rw [h.part2, hpart2 i hi]
  · by_cases hi : i = 0x0d
    · subst hi
      exact Function.update_self (0x0d : UInt8) (b.chip.part4 0x0d) b'.chip.part4
    · exact (Function.update_of_ne hi _ _).trans ((h.part4 i h0 h1).trans (hpart4 i hi))

theorem sisSense30x_restored (engine : VgaEngine) (b : Bridge) :
    Restored b.chip (sisSense30x engine b).chip := by
  unfold sisSense30x
  split
  · exact .refl _
  · split
    · exact .refl _
    · exact endSensing_restored (senseDevices_restored _ _ _ _ _ _ _)

/-! ### What is kept of the devices -/

/-- A fact about all bytes. -/
theorem forall_byte {P : UInt8 → Prop} (h : ∀ v : BitVec 8, P (.ofBitVec v)) (x : UInt8) : P x :=
  h x.toBitVec

/-- What is made of `CR` 0x32 when the three connectors are sensed. -/
def scratchOf (old : UInt8) (vga2 svideo avideo : Bool) : UInt8 :=
  let x := (old &&& ~~~0x14) ||| (if vga2 then 0x10 else 0)
  let x := ((x &&& 0x3f) &&& ~~~0x03) ||| (if svideo then 0x02 else 0)
  x ||| (if avideo then 0x01 else 0)

theorem scratchOf_bits (vga2 svideo avideo : Bool) (old : UInt8) :
    (scratchOf old vga2 svideo avideo &&& 0x10 != 0) = vga2 ∧
      (scratchOf old vga2 svideo avideo &&& 0x02 != 0) = svideo ∧
      (scratchOf old vga2 svideo avideo &&& 0x01 != 0) = avideo ∧
      scratchOf old vga2 svideo avideo &&& 0xec = old &&& 0x28 := by
  revert old
  apply forall_byte
  revert vga2 svideo avideo
  decide +kernel

theorem and_ff (x : UInt8) : x &&& 0xff = x := by
  revert x
  apply forall_byte
  decide +kernel

/-- What `senseFor` does with a device that answers, or not. -/
theorem senseFor_eq (type test : UInt16) (flag : UInt32) (bits : UInt8) (b : Bridge) :
    ∃ found : Bool,
      (senseFor type test flag bits b).sisVbflags = b.sisVbflags ||| (if found then flag else 0) ∧
        (senseFor type test flag bits b).chip.cr 0x32 =
          b.chip.cr 0x32 ||| (if found then bits else 0) := by
  have hcr := congrFun (sisDoSense_same type test b.chip).cr 0x32
  refine ⟨decide ((sisDoSense type test b.chip).1 ≠ 0), ?_⟩
  unfold senseFor
  dsimp only
  by_cases h : (sisDoSense type test b.chip).1 ≠ 0
  · simp only [decide_eq_true h, if_pos h, if_true]
    rw [setIdx_same, and_ff, hcr]
    exact ⟨trivial, rfl⟩
  · simp only [decide_eq_false h, if_neg h]
    rw [hcr]
    simp

theorem senseVga2_eq (vga2 vga2C : UInt16) (b : Bridge) :
    ∃ found : Bool,
      (senseVga2 vga2 vga2C b).sisVbflags =
          b.sisVbflags ||| (if found then vga2Connected else 0) ∧
        (senseVga2 vga2 vga2C b).chip.cr 0x32 =
          b.chip.cr 0x32 ||| (if found then 0x10 else 0) := by
  unfold senseVga2
  split
  · exact senseFor_eq _ _ _ _ _
  · exact ⟨false, by simp⟩

/-- The flags of the devices that are found. -/
def foundFlags (vga2 svideo avideo : Bool) : UInt32 :=
  (if vga2 then vga2Connected else 0) ||| (if svideo then tvSvideo else 0) |||
    (if avideo then tvAvideo else 0)

theorem senseDevices_eq (svhs svhsC cvbs cvbsC vga2 vga2C : UInt16) (b : Bridge) :
    ∃ found svideo avideo : Bool,
      (senseDevices svhs svhsC cvbs cvbsC vga2 vga2C b).sisVbflags =
          b.sisVbflags ||| foundFlags found svideo avideo ∧
        (senseDevices svhs svhsC cvbs cvbsC vga2 vga2C b).chip.cr 0x32 =
          scratchOf (b.chip.cr 0x32) found svideo avideo := by
  obtain ⟨found, hflags, hcr⟩ :=
    senseVga2_eq vga2 vga2C (keepCr32 (~~~0x14) (senseNothing b))
  obtain ⟨svideo, hflags', hcr'⟩ := senseFor_eq svhs svhsC tvSvideo 0x02
    (keepCr32 (~~~0x03) (keepCr32 0x3f (senseVga2 vga2 vga2C
      (keepCr32 (~~~0x14) (senseNothing b)))))
  obtain ⟨avideo, hflags'', hcr''⟩ := senseFor_eq cvbs cvbsC tvAvideo 0x01
    (senseFor svhs svhsC tvSvideo 0x02 (keepCr32 (~~~0x03) (keepCr32 0x3f (senseVga2 vga2 vga2C
      (keepCr32 (~~~0x14) (senseNothing b))))))
  have hnothing : ∀ c : Bridge, (senseNothing c).chip.cr 0x32 = c.chip.cr 0x32 := fun c =>
    congrFun (sisDoSense_same 0 0 c.chip).cr 0x32
  have hkeep : ∀ keep (c : Bridge), (keepCr32 keep c).chip.cr 0x32 = c.chip.cr 0x32 &&& keep :=
    fun keep c => (setIdx_same 0x32 keep 0x00 c.chip.cr).trans UInt8.or_zero
  refine ⟨found, svideo, avideo, ?_, ?_⟩
  · refine hflags''.trans ?_
    rw [hflags']
    unfold foundFlags
    rw [show (keepCr32 (~~~0x03) (keepCr32 0x3f (senseVga2 vga2 vga2C
      (keepCr32 (~~~0x14) (senseNothing b))))).sisVbflags = _ from hflags, UInt32.or_assoc,
      UInt32.or_assoc, UInt32.or_assoc]
    rfl
  · refine (hnothing _).trans (hcr''.trans ?_)
    rw [hcr', hkeep, hkeep, hcr, hkeep, hnothing]
    rfl

/-- A bridge of SiS is one of those for which there are codes. -/
theorem senseCodes_isSome {vbflags : UInt32} (h : has vbflags vbSisbridge = true) (part4 : Ports) :
    ∃ codes, senseCodes vbflags part4 = some codes := by
  unfold senseCodes
  split_ifs with h301 _ hB hLv
  · exact ⟨_, rfl⟩
  · exact ⟨_, rfl⟩
  · exact ⟨_, rfl⟩
  · exact ⟨_, rfl⟩
  · rw [Bool.not_eq_true, has_eq_false_iff] at h301 hB hLv
    have hall : vbSisbridge = vb301 ||| (vb301B ||| vb302B) ||| vb30xLv := by decide
    rw [has_eq_true_iff, hall, and_or_distrib, and_or_distrib, h301, hB, hLv] at h
    exact absurd rfl h

theorem sisSense30x_eq (engine : VgaEngine) {b : Bridge}
    (h : has b.sisVbflags vbSisbridge = true) :
    ∃ vga2 svideo avideo : Bool,
      (sisSense30x engine b).sisVbflags = b.sisVbflags ||| foundFlags vga2 svideo avideo ∧
        (sisSense30x engine b).chip.cr 0x32 =
          scratchOf (b.chip.cr 0x32) vga2 svideo avideo := by
  obtain ⟨codes, hcodes⟩ := senseCodes_isSome h b.chip.part4
  unfold sisSense30x
  rw [h, hcodes]
  exact senseDevices_eq _ _ _ _ _ _ (startSensing b)

/-! ### The flags of the devices -/

/-- The flags that say what is connected. -/
def deviceFlags : UInt32 :=
  vga2Connected ||| tvSvideo ||| tvAvideo ||| tvScart ||| tvHivision ||| tvPal ||| tvNtsc |||
    crt2Tv ||| crt2Lcd ||| crt2Vga

/-- These flags, when the three connectors have been sensed, with the standard of the TV. -/
def connectedFlags (vga2 svideo avideo pal crt2 : Bool) : UInt32 :=
  foundFlags vga2 svideo avideo |||
    (if svideo || avideo then crt2Tv ||| (if pal then tvPal else tvNtsc) else 0) |||
    (if crt2 then crt2Vga else 0)

theorem bridgeFlags_devices (part4 : Ports) : bridgeFlags part4 &&& deviceFlags = 0 := by
  unfold bridgeFlags
  dsimp only
  split_ifs <;> decide

theorem foundFlags_devices (vga2 svideo avideo : Bool) :
    foundFlags vga2 svideo avideo &&& deviceFlags = foundFlags vga2 svideo avideo := by
  revert vga2 svideo avideo
  decide

/-- Only the flags of the devices matter to a condition on one of them. -/
theorem has_and {flags f mask : UInt32} (hf : f &&& mask = f) :
    has (flags &&& mask) f = has flags f := by
  unfold has
  rw [UInt32.and_assoc, UInt32.and_comm mask, hf]

/-- What the bridge leaves, when it is one of SiS. -/
theorem sisDetectVideoBridge_eq {engine : VgaEngine} {b : Bridge} (hengine : engine ≠ .unknown)
    (h : has (bridgeFlags b.chip.part4) vbSisbridge = true) :
    ∃ vga2 svideo avideo : Bool,
      (sisDetectVideoBridge engine b).sisVbflags &&& deviceFlags = foundFlags vga2 svideo avideo ∧
        (sisDetectVideoBridge engine b).chip.cr 0x32 =
          scratchOf (b.chip.cr 0x32) vga2 svideo avideo := by
  obtain ⟨vga2, svideo, avideo, hflags, hcr⟩ :=
    sisSense30x_eq engine (b := { b with sisVbflags := bridgeFlags b.chip.part4 }) h
  refine ⟨vga2, svideo, avideo, ?_⟩
  have hdevices : (sisSense30x engine
      { b with sisVbflags := bridgeFlags b.chip.part4 }).sisVbflags &&& deviceFlags =
        foundFlags vga2 svideo avideo := by
    rw [hflags, or_and_distrib, bridgeFlags_devices, UInt32.zero_or, foundFlags_devices]
  unfold sisDetectVideoBridge
  dsimp only
  rw [if_neg hengine]
  split
  · exact ⟨(or_and_of_disjoint (by decide)).trans hdevices, hcr⟩
  · exact ⟨hdevices, hcr⟩

theorem palOrNtsc_devices (pal : Bool) (cr38 : UInt8) :
    palOrNtsc pal cr38 &&& deviceFlags = if pal then tvPal else tvNtsc := by
  unfold palOrNtsc
  split_ifs <;> decide

/-- There is one standard. -/
theorem tvStandard_devices (engine : VgaEngine) (deviceId : UInt16) (c : Chip) (cr38 : UInt8) :
    ∃ pal : Bool,
      tvStandard engine deviceId c cr38 &&& deviceFlags = if pal then tvPal else tvNtsc := by
  unfold tvStandard
  split_ifs
  · exact ⟨true, by decide⟩
  · exact ⟨false, by decide⟩
  · exact ⟨_, palOrNtsc_devices _ _⟩
  · exact ⟨_, palOrNtsc_devices _ _⟩
  · exact ⟨_, palOrNtsc_devices _ _⟩
  · exact ⟨_, palOrNtsc_devices _ _⟩

/-- The bits of `CR` 0x32 that are looked at for a TV. -/
theorem scratchOf_tv (vga2 svideo avideo : Bool) (old : UInt8) :
    scratchOf old vga2 svideo avideo &&& 0x04 = 0 ∧
      scratchOf old vga2 svideo avideo &&& 0x40 = 0 ∧
      (scratchOf old vga2 svideo avideo &&& 0x47 != 0) = (svideo || avideo) := by
  revert old
  apply forall_byte
  revert vga2 svideo avideo
  decide +kernel

/-- The connector of the TV, when the devices have been sensed. -/
theorem tvInterface_devices {vbflags : UInt32} (hchrontel : has vbflags vbChrontel = false)
    (vga2 svideo avideo : Bool) (old cr38 : UInt8) :
    tvInterface vbflags (scratchOf old vga2 svideo avideo) cr38 &&& deviceFlags =
      if svideo then tvSvideo else if avideo then tvAvideo else 0 := by
  obtain ⟨-, hsvideo, havideo, -⟩ := scratchOf_bits vga2 svideo avideo old
  obtain ⟨hscart, hhivision, -⟩ := scratchOf_tv vga2 svideo avideo old
  unfold tvInterface
  simp only [hscart, hhivision, hchrontel, ne_eq, ← bne_iff_ne, hsvideo, havideo]
  cases svideo <;> cases avideo <;> simp <;> (try split_ifs) <;> decide

/-- The connector is one that has been found. -/
theorem foundFlags_interface : ∀ vga2 svideo avideo : Bool,
    (foundFlags vga2 svideo avideo ||| (if svideo || avideo then crt2Tv else 0)) |||
        (if svideo then tvSvideo else if avideo then tvAvideo else 0) =
      foundFlags vga2 svideo avideo ||| (if svideo || avideo then crt2Tv else 0) := by
  decide

theorem has_foundFlags : ∀ vga2 svideo avideo : Bool,
    has (foundFlags vga2 svideo avideo ||| (if svideo || avideo then crt2Tv else 0))
      (tvScart ||| tvSvideo ||| tvAvideo ||| tvHivision) = (svideo || avideo) := by
  decide

theorem sisDetectTv_devices (engine : VgaEngine) (deviceId : UInt16) {b : Bridge}
    {vga2 svideo avideo : Bool} {old : UInt8} (hbridge : has b.sisVbflags vbVideobridge = true)
    (hchrontel : has b.sisVbflags vbChrontel = false)
    (hflags : b.sisVbflags &&& deviceFlags = foundFlags vga2 svideo avideo)
    (hcr : b.chip.cr 0x32 = scratchOf old vga2 svideo avideo) :
    ∃ pal, (sisDetectTv engine deviceId b).sisVbflags &&& deviceFlags =
      connectedFlags vga2 svideo avideo pal false := by
  obtain ⟨-, -, hany⟩ := scratchOf_tv vga2 svideo avideo old
  obtain ⟨pal, hpal⟩ :=
    tvStandard_devices engine deviceId b.chip (cr38Of engine deviceId b.chip.cr)
  -- the flags after CRT2_TV, and after the connector
  have htv : ∃ f, (if b.chip.cr 0x32 &&& 0x47 ≠ 0 then b.sisVbflags ||| crt2Tv
        else b.sisVbflags) = f ∧ has f vbChrontel = false ∧
      f &&& deviceFlags =
        foundFlags vga2 svideo avideo ||| (if svideo || avideo then crt2Tv else 0) := by
    refine ⟨_, rfl, ?_⟩
    rw [hcr]
    simp only [← bne_iff_ne, hany]
    cases svideo || avideo with
    | false => exact ⟨hchrontel, hflags.trans UInt32.or_zero.symm⟩
    | true =>
      refine ⟨(has_or_of_disjoint (by decide)).trans hchrontel, ?_⟩
      rw [if_pos rfl, or_and_distrib, hflags]
      rfl
  obtain ⟨f, hf, hfchrontel, hfdevices⟩ := htv
  have hinterface := tvInterface_devices hfchrontel vga2 svideo avideo old
    (cr38Of engine deviceId b.chip.cr)
  have hdevices : (f ||| tvInterface f (b.chip.cr 0x32) (cr38Of engine deviceId b.chip.cr)) &&&
      deviceFlags = foundFlags vga2 svideo avideo ||| (if svideo || avideo then crt2Tv else 0) := by
    rw [hcr, or_and_distrib, hfdevices, hinterface]
    exact foundFlags_interface vga2 svideo avideo
  have hhas : has (f ||| tvInterface f (b.chip.cr 0x32) (cr38Of engine deviceId b.chip.cr))
      (tvScart ||| tvSvideo ||| tvAvideo ||| tvHivision) = (svideo || avideo) := by
    rw [← has_and (show (tvScart ||| tvSvideo ||| tvAvideo ||| tvHivision) &&& deviceFlags = _ by
      decide), hdevices]
    exact has_foundFlags vga2 svideo avideo
  refine ⟨pal, ?_⟩
  unfold sisDetectTv
  dsimp only
  rw [hbridge, if_neg (by decide), hf, hhas]
  cases hsome : svideo || avideo with
  | false =>
    rw [hsome] at hdevices
    refine hdevices.trans ?_
    unfold connectedFlags
    rw [hsome]
    simp
  | true =>
    rw [hsome] at hdevices
    rw [if_pos rfl, or_and_distrib, hdevices, hpal]
    unfold connectedFlags
    rw [hsome, if_pos rfl, if_pos rfl, UInt32.or_assoc, if_neg Bool.false_ne_true, UInt32.or_zero]

theorem connectedFlags_vga : ∀ svideo avideo pal : Bool,
    connectedFlags true svideo avideo pal false ||| (crt2Vga &&& deviceFlags) =
      connectedFlags true svideo avideo pal true := by
  decide

theorem sisDetectCrt2_devices {b : Bridge} {vga2 svideo avideo pal : Bool} {old : UInt8}
    (hbridge : has b.sisVbflags vbVideobridge = true) (hlvds : b.sisVbflags &&& vbLvds = 0)
    (hflags : b.sisVbflags &&& deviceFlags = connectedFlags vga2 svideo avideo pal false)
    (hcr : b.chip.cr 0x32 = scratchOf old vga2 svideo avideo) :
    (sisDetectCrt2 b).sisVbflags &&& deviceFlags =
      connectedFlags vga2 svideo avideo pal (vga2 && !has b.sisVbflags vb30xLv) := by
  obtain ⟨hvga2, -⟩ := scratchOf_bits vga2 svideo avideo old
  have hlv : has b.sisVbflags (vbLvds ||| vb30xLv) = has b.sisVbflags vb30xLv := by
    unfold has
    rw [and_or_distrib, hlvds, UInt32.zero_or]
  unfold sisDetectCrt2
  rw [hbridge, hlv, hcr, if_neg (by decide)]
  simp only [← bne_iff_ne, hvga2]
  cases has b.sisVbflags vb30xLv with
  | true =>
    rw [if_pos rfl, hflags]
    simp
  | false =>
    rw [if_neg Bool.false_ne_true]
    cases vga2 with
    | false => exact hflags
    | true =>
      rw [if_pos rfl, or_and_distrib, hflags]
      exact connectedFlags_vga svideo avideo pal

/-! ### All of it -/

@[simp] theorem sisDetectCrt1_chip (b : Bridge) : (sisDetectCrt1 b).chip = b.chip := by
  unfold sisDetectCrt1
  dsimp only
  split
  · rfl
  · split <;> rfl

@[simp] theorem sisDetectTv_chip (engine : VgaEngine) (deviceId : UInt16) (b : Bridge) :
    (sisDetectTv engine deviceId b).chip = b.chip := by
  unfold sisDetectTv
  dsimp only
  split_ifs <;> rfl

@[simp] theorem sisDetectCrt2_chip (b : Bridge) : (sisDetectCrt2 b).chip = b.chip := by
  unfold sisDetectCrt2
  split_ifs <;> rfl

theorem detected_chip (engine : VgaEngine) (deviceId : UInt16) (b : Bridge) :
    (detected engine deviceId b).chip = (sisDetectVideoBridge engine b).chip := by
  unfold detected
  rw [sisDetectCrt2_chip, sisDetectTv_chip, sisDetectCrt1_chip]

theorem sisDetectVideoBridge_chip (engine : VgaEngine) (b : Bridge) :
    (sisDetectVideoBridge engine b).chip = if engine = .unknown then b.chip
      else (sisSense30x engine { b with sisVbflags := bridgeFlags b.chip.part4 }).chip := by
  unfold sisDetectVideoBridge
  dsimp only
  split
  · rfl
  · split <;> rfl

/-- The choice of the heads is only about the heads. -/
theorem chooseHeads_eq (engine : VgaEngine) (b : Bridge) :
    (chooseHeads engine b).chip = b.chip ∧
      (chooseHeads engine b).sisDetectedCrt2Devices = b.sisDetectedCrt2Devices ∧
      ∀ m, headFlags &&& m = 0 → (chooseHeads engine b).sisVbflags &&& m = b.sisVbflags &&& m := by
  have hflags : ∀ f, f &&& headFlags = f → ∀ m, headFlags &&& m = 0 →
      (b.sisVbflags ||| f) &&& m = b.sisVbflags &&& m := fun f hf m hm =>
    or_and_of_disjoint (and_eq_zero_of_subset hf hm)
  have hsingle := hflags vbDispmodeSingle (by decide)
  have hmirror := hflags (vbDispmodeMirror ||| disptypeCrt1) (by decide)
  have hcrt1 := hflags (vbDispmodeSingle ||| disptypeCrt1) (by decide)
  unfold chooseHeads
  dsimp only
  split_ifs <;> first
    | exact ⟨rfl, rfl, hsingle⟩
    | exact ⟨rfl, rfl, hmirror⟩
    | exact ⟨rfl, rfl, hcrt1⟩

/-- What the end of `sis_init_video_bridge` leaves of the detection. -/
theorem sisInitVideoBridge_eq (engine : VgaEngine) (deviceId : UInt16) (b : Bridge) :
    let r := sisInitVideoBridge engine deviceId b
    r.chip = (detected engine deviceId b).chip ∧
      r.sisDetectedCrt2Devices = (detected engine deviceId b).sisVbflags &&& disptypeDisp2 ∧
      ∀ m, headFlags &&& m = 0 → ~~~disptypeDisp2 &&& m = m →
        r.sisVbflags &&& m = (detected engine deviceId b).sisVbflags &&& m := by
  unfold sisInitVideoBridge
  obtain ⟨hchip, hdevices, hflags⟩ := chooseHeads_eq engine
    { detected engine deviceId b with
      sisDetectedCrt2Devices := (detected engine deviceId b).sisVbflags &&& disptypeDisp2
      sisForceCrt2Type := chooseCrt2 (detected engine deviceId b).sisForceCrt2Type
        (detected engine deviceId b).sisVbflags
      sisVbflags := forceCrt2 (chooseCrt2 (detected engine deviceId b).sisForceCrt2Type
        (detected engine deviceId b).sisVbflags) (detected engine deviceId b).sisVbflags }
  exact ⟨hchip, hdevices, fun m hm hm' => (hflags m hm).trans (forceCrt2_and hm')⟩

/-- Flags without a bridge of SiS are none. -/
theorem bridgeFlags_eq_zero {part4 : Ports} (h : has (bridgeFlags part4) vbSisbridge = false) :
    bridgeFlags part4 = 0 := by
  unfold bridgeFlags at h ⊢
  dsimp only at h ⊢
  split_ifs at h ⊢ <;> first | rfl | exact absurd h (by decide)

/-- What is kept in `CR` 0x32 is what the flags say: which connectors have a device, which of them
is a second head, and that a TV has one standard.  The two bits that are not about connectors are as
they were. -/
structure Kept (old : UInt8) (b : Bridge) : Prop where
  vga2 : has b.sisVbflags vga2Connected = (b.chip.cr 0x32 &&& 0x10 != 0)
  svideo : has b.sisVbflags tvSvideo = (b.chip.cr 0x32 &&& 0x02 != 0)
  avideo : has b.sisVbflags tvAvideo = (b.chip.cr 0x32 &&& 0x01 != 0)
  others : b.chip.cr 0x32 &&& 0xec = old &&& 0x28
  standard : (has b.sisVbflags tvPal != has b.sisVbflags tvNtsc) =
    (has b.sisVbflags tvSvideo || has b.sisVbflags tvAvideo)
  crt2Tv : has b.sisDetectedCrt2Devices crt2Tv =
    (has b.sisVbflags tvSvideo || has b.sisVbflags tvAvideo)
  crt2Vga : has b.sisDetectedCrt2Devices crt2Vga =
    (has b.sisVbflags vga2Connected && !has b.sisVbflags vb30xLv)

theorem has_connectedFlags : ∀ vga2 svideo avideo pal crt2 : Bool,
    has (connectedFlags vga2 svideo avideo pal crt2) vga2Connected = vga2 ∧
      has (connectedFlags vga2 svideo avideo pal crt2) tvSvideo = svideo ∧
      has (connectedFlags vga2 svideo avideo pal crt2) tvAvideo = avideo ∧
      has (connectedFlags vga2 svideo avideo pal crt2) tvPal = ((svideo || avideo) && pal) ∧
      has (connectedFlags vga2 svideo avideo pal crt2) tvNtsc = ((svideo || avideo) && !pal) ∧
      has (connectedFlags vga2 svideo avideo pal crt2) Sis.crt2Tv = (svideo || avideo) ∧
      has (connectedFlags vga2 svideo avideo pal crt2) Sis.crt2Vga = crt2 := by
  decide

/-- Without a bridge nothing is detected. -/
theorem sisDetectVideoBridge_of_none {engine : VgaEngine} {b : Bridge}
    (h : engine = .unknown ∨ bridgeFlags b.chip.part4 = 0) :
    sisDetectVideoBridge engine b = { b with sisVbflags := 0 } := by
  have hlcda : ∀ c, usesLcda engine 0 c = false := by
    intro c
    unfold usesLcda
    rw [show has 0 (vb302B ||| vb30xLv) = false by decide]
    simp
  unfold sisDetectVideoBridge
  dsimp only
  split
  · rfl
  · rename_i hengine
    have hsense : sisSense30x engine { b with sisVbflags := 0 } = { b with sisVbflags := 0 } :=
      if_pos (show (!has 0 vbSisbridge) = true by decide)
    rw [h.resolve_left hengine, hsense, hlcda]
    rfl

theorem detected_of_none {engine : VgaEngine} (deviceId : UInt16) {b : Bridge}
    (h : engine = .unknown ∨ bridgeFlags b.chip.part4 = 0) :
    (detected engine deviceId b).sisVbflags = 0 := by
  have hno : (!has 0 vbVideobridge) = true := by decide
  unfold detected
  rw [sisDetectVideoBridge_of_none h]
  unfold sisDetectCrt1 sisDetectTv sisDetectCrt2
  simp only [hno, if_true]

theorem kept_of_bridge {engine : VgaEngine} {deviceId : UInt16} {b : Bridge}
    (hengine : engine ≠ .unknown) (h : has (bridgeFlags b.chip.part4) vbSisbridge = true) :
    Kept (b.chip.cr 0x32) (sisInitVideoBridge engine deviceId b) := by
  obtain ⟨hchip, hdevices, hflags⟩ := sisInitVideoBridge_eq engine deviceId b
  obtain ⟨vga2, svideo, avideo, hfound, hcr⟩ := sisDetectVideoBridge_eq hengine h
  have hvideo : has (bridgeFlags b.chip.part4) vbVideobridge = true := has_of_has (by decide) h
  have hnone : ∀ x, x &&& undetectedFlags = x → bridgeFlags b.chip.part4 &&& x = 0 := by
    intro x hx
    rw [← hx, UInt32.and_comm x, ← UInt32.and_assoc, bridgeFlags_undetected, UInt32.zero_and]
  -- no flag of the bridge is changed by what is detected
  have hbridge : ∀ x, (sensedFlags ||| vbUselcda) &&& x = 0 →
      has (sisDetectCrt1 (sisDetectVideoBridge engine b)).sisVbflags x =
        has (bridgeFlags b.chip.part4) x := by
    intro x hx
    unfold has
    rw [sisDetectCrt1_vbflags, sisDetectVideoBridge_and engine b hx, if_neg hengine]
  have hfound' : (sisDetectCrt1 (sisDetectVideoBridge engine b)).sisVbflags &&& deviceFlags =
      foundFlags vga2 svideo avideo := by
    rw [sisDetectCrt1_vbflags]
    exact hfound
  have hcr' : (sisDetectCrt1 (sisDetectVideoBridge engine b)).chip.cr 0x32 =
      scratchOf (b.chip.cr 0x32) vga2 svideo avideo := by
    rw [sisDetectCrt1_chip]
    exact hcr
  obtain ⟨pal, hpal⟩ := sisDetectTv_devices engine deviceId
    ((hbridge _ (by decide)).trans hvideo)
    ((hbridge _ (by decide)).trans (has_eq_false_iff.mpr (hnone _ (by decide)))) hfound' hcr'
  have htv : ∀ x, tvFlags &&& x = 0 → (sensedFlags ||| vbUselcda) &&& x = 0 →
      (sisDetectTv engine deviceId (sisDetectCrt1 (sisDetectVideoBridge engine b))).sisVbflags &&&
        x = bridgeFlags b.chip.part4 &&& x := by
    intro x hx hx'
    rw [sisDetectTv_and _ _ _ hx, sisDetectCrt1_vbflags, sisDetectVideoBridge_and engine b hx',
      if_neg hengine]
  have hdetected := sisDetectCrt2_devices
    (has_eq_true_iff.mpr ((htv _ (by decide) (by decide)).trans_ne (has_eq_true_iff.mp hvideo)))
    ((htv _ (by decide) (by decide)).trans (hnone _ (by decide))) hpal
    (by rw [sisDetectTv_chip]; exact hcr')
  have hlv : has (sisDetectTv engine deviceId
      (sisDetectCrt1 (sisDetectVideoBridge engine b))).sisVbflags vb30xLv =
      has (sisInitVideoBridge engine deviceId b).sisVbflags vb30xLv := by
    unfold has
    rw [htv _ (by decide) (by decide), hflags _ (by decide) (by decide),
      detected_and engine deviceId b (by decide), if_neg hengine]
  obtain ⟨lv, hlv'⟩ :
      ∃ lv, has (sisInitVideoBridge engine deviceId b).sisVbflags vb30xLv = lv := ⟨_, rfl⟩
  rw [hlv, hlv'] at hdetected
  -- every flag is one of those that have been found
  have hhas : ∀ x, headFlags &&& x = 0 → ~~~disptypeDisp2 &&& x = x → x &&& deviceFlags = x →
      has (sisInitVideoBridge engine deviceId b).sisVbflags x =
        has (connectedFlags vga2 svideo avideo pal (vga2 && !lv)) x := by
    intro x h1 h2 h3
    rw [← hdetected, has_and h3]
    unfold has
    rw [hflags x h1 h2]
    rfl
  have hcrt2 : ∀ x, x &&& disptypeDisp2 = x → x &&& deviceFlags = x →
      has (sisInitVideoBridge engine deviceId b).sisDetectedCrt2Devices x =
        has (connectedFlags vga2 svideo avideo pal (vga2 && !lv)) x := by
    intro x h1 h2
    rw [← hdetected, has_and h2, hdevices, has_and h1]
    rfl
  have hcr32 : (sisInitVideoBridge engine deviceId b).chip.cr 0x32 =
      scratchOf (b.chip.cr 0x32) vga2 svideo avideo := by
    rw [hchip, detected_chip]
    exact hcr
  obtain ⟨hbit10, hbit02, hbit01, hothers⟩ := scratchOf_bits vga2 svideo avideo (b.chip.cr 0x32)
  obtain ⟨hvga2, hsvideo, havideo, hispal, hisntsc, htvs, hvgas⟩ :=
    has_connectedFlags vga2 svideo avideo pal (vga2 && !lv)
  refine ⟨?_, ?_, ?_, ?_, ?_, ?_, ?_⟩
  · rw [hhas _ (by decide) (by decide) (by decide), hvga2, hcr32, hbit10]
  · rw [hhas _ (by decide) (by decide) (by decide), hsvideo, hcr32, hbit02]
  · rw [hhas _ (by decide) (by decide) (by decide), havideo, hcr32, hbit01]
  · rw [hcr32, hothers]
  · rw [hhas tvPal (by decide) (by decide) (by decide),
      hhas tvNtsc (by decide) (by decide) (by decide),
      hhas tvSvideo (by decide) (by decide) (by decide),
      hhas tvAvideo (by decide) (by decide) (by decide), hispal, hisntsc, hsvideo, havideo]
    cases svideo || avideo <;> cases pal <;> rfl
  · rw [hcrt2 _ (by decide) (by decide), hhas tvSvideo (by decide) (by decide) (by decide),
      hhas tvAvideo (by decide) (by decide) (by decide), htvs, hsvideo, havideo]
  · rw [hcrt2 _ (by decide) (by decide), hhas vga2Connected (by decide) (by decide) (by decide),
      hvgas, hvga2, hlv']

/-- **What has been sensed is kept, and the rest of the chip is as it was,** whatever the sensor
answers. -/
theorem sisInitVideoBridge_sensed (engine : VgaEngine) (deviceId : UInt16) (b : Bridge) :
    let r := sisInitVideoBridge engine deviceId b
    Restored b.chip r.chip ∧
      if has r.sisVbflags vbSisbridge then Kept (b.chip.cr 0x32) r
      else r.chip = b.chip ∧ r.sisDetectedCrt2Devices = 0 := by
  obtain ⟨hchip, hdevices, hflags⟩ := sisInitVideoBridge_eq engine deviceId b
  dsimp only
  rw [detected_chip] at hchip
  have hsis : has (sisInitVideoBridge engine deviceId b).sisVbflags vbSisbridge =
      has (if engine = .unknown then 0 else bridgeFlags b.chip.part4) vbSisbridge := by
    unfold has
    rw [hflags _ (by decide) (by decide), detected_and engine deviceId b (by decide)]
  refine ⟨?_, ?_⟩
  · rw [hchip, sisDetectVideoBridge_chip]
    split
    · exact .refl _
    · exact sisSense30x_restored engine { b with sisVbflags := bridgeFlags b.chip.part4 }
  · rw [hsis]
    by_cases hbridge : has (if engine = .unknown then 0 else bridgeFlags b.chip.part4)
      vbSisbridge = true
    · have hengine : engine ≠ .unknown := by
        intro hunknown
        rw [if_pos hunknown] at hbridge
        exact absurd hbridge (by decide)
      rw [if_pos hbridge]
      rw [if_neg hengine] at hbridge
      exact kept_of_bridge hengine hbridge
    · have hzero : engine = .unknown ∨ bridgeFlags b.chip.part4 = 0 := by
        by_cases hengine : engine = .unknown
        · exact .inl hengine
        · rw [if_neg hengine, Bool.not_eq_true] at hbridge
          exact .inr (bridgeFlags_eq_zero hbridge)
      rw [if_neg hbridge, hchip, hdevices, detected_of_none deviceId hzero,
        sisDetectVideoBridge_of_none hzero]
      exact ⟨rfl, UInt32.zero_and⟩

end Vidix.Sis
