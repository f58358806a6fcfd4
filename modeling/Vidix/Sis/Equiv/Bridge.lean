import Vidix.Sis.Bridge
import Vidix.Util.Flags

/-!
# The heads of a SiS card

Whatever the bridge answers and whatever the static variables had before, `sis_init_video_bridge`
leaves them in agreement: one type of CRT2 at most, one display mode, and the overlay on a head
that is used (`sisInitVideoBridge_heads`).  What `set_dispmode` makes of this, with `VIDIX_CRT` and
with a bridge in slave mode, is seen on some head but in one case (`overlay_visible_iff`).
-/

namespace Vidix.Sis

open Util

variable {m : UInt32}

/-! ### Conditions on flags -/

theorem has_eq_true_iff {flags mask : UInt32} : has flags mask = true ↔ flags &&& mask ≠ 0 :=
  bne_iff_ne

theorem has_eq_false_iff {flags mask : UInt32} : has flags mask = false ↔ flags &&& mask = 0 :=
  bne_eq_false_iff_eq

theorem has_or_of_disjoint {flags b : UInt32} (h : b &&& m = 0) :
    has (flags ||| b) m = has flags m := by
  unfold has
  rw [or_and_of_disjoint h]

/-! ### What the detection sets -/

/-- The flags that sensing may set. -/
def sensedFlags : UInt32 := vga2Connected ||| tvSvideo ||| tvAvideo

/-- The flags that looking for a TV may set. -/
def tvFlags : UInt32 :=
  crt2Tv ||| tvNtsc ||| tvPal ||| tvHivision ||| tvHivisionLv ||| tvAvideo ||| tvSvideo |||
    tvScart ||| tvPalm ||| tvPaln ||| tvChscart ||| tvChhdtv

theorem senseFor_and {type test : UInt16} {flag : UInt32} {bits : UInt8} (b : Bridge)
    (h : flag &&& m = 0) :
    (senseFor type test flag bits b).sisVbflags &&& m = b.sisVbflags &&& m := by
  unfold senseFor
  dsimp only
  split
  · exact or_and_of_disjoint h
  · rfl

theorem senseVga2_and {vga2 vga2C : UInt16} (b : Bridge) (h : vga2Connected &&& m = 0) :
    (senseVga2 vga2 vga2C b).sisVbflags &&& m = b.sisVbflags &&& m := by
  unfold senseVga2
  split
  · exact senseFor_and _ h
  · rfl

theorem senseDevices_and {svhs svhsC cvbs cvbsC vga2 vga2C : UInt16} (b : Bridge)
    (h : sensedFlags &&& m = 0) :
    (senseDevices svhs svhsC cvbs cvbsC vga2 vga2C b).sisVbflags &&& m = b.sisVbflags &&& m := by
  have hflag : ∀ c, c &&& sensedFlags = c → c &&& m = 0 := fun c hc => and_eq_zero_of_subset hc h
  calc (senseDevices svhs svhsC cvbs cvbsC vga2 vga2C b).sisVbflags &&& m
      = (keepCr32 (~~~0x03) (keepCr32 0x3f (senseVga2 vga2 vga2C
          (keepCr32 (~~~0x14) (senseNothing b))))).sisVbflags &&& m :=
        (senseFor_and _ (hflag _ (by decide))).trans (senseFor_and _ (hflag _ (by decide)))
    _ = b.sisVbflags &&& m := senseVga2_and _ (hflag _ (by decide))

theorem sisSense30x_and (engine : VgaEngine) (b : Bridge) (h : sensedFlags &&& m = 0) :
    (sisSense30x engine b).sisVbflags &&& m = b.sisVbflags &&& m := by
  unfold sisSense30x
  split
  · rfl
  · split
    · rfl
    · exact senseDevices_and _ h

theorem sisDetectVideoBridge_and (engine : VgaEngine) (b : Bridge)
    (h : (sensedFlags ||| vbUselcda) &&& m = 0) :
    (sisDetectVideoBridge engine b).sisVbflags &&& m =
      (if engine = .unknown then 0 else bridgeFlags b.chip.part4) &&& m := by
  have hsensed : sensedFlags &&& m = 0 := and_eq_zero_of_subset (by decide) h
  have hlcda : vbUselcda &&& m = 0 := and_eq_zero_of_subset (by decide) h
  unfold sisDetectVideoBridge
  dsimp only
  split
  · rfl
  · split
    · rw [or_and_of_disjoint hlcda, sisSense30x_and _ _ hsensed]
    · exact sisSense30x_and _ _ hsensed

@[simp] theorem sisDetectCrt1_vbflags (b : Bridge) :
    (sisDetectCrt1 b).sisVbflags = b.sisVbflags := by
  unfold sisDetectCrt1
  dsimp only
  split
  · rfl
  · split <;> rfl

theorem tvInterface_subset (vbflags : UInt32) (cr32 cr38 : UInt8) :
    tvInterface vbflags cr32 cr38 &&& tvFlags = tvInterface vbflags cr32 cr38 := by
  unfold tvInterface
  split_ifs <;> decide

theorem palOrNtsc_subset (pal : Bool) (cr38 : UInt8) :
    palOrNtsc pal cr38 &&& tvFlags = palOrNtsc pal cr38 := by
  unfold palOrNtsc
  split_ifs <;> decide

theorem tvStandard_subset (engine : VgaEngine) (deviceId : UInt16) (c : Chip) (cr38 : UInt8) :
    tvStandard engine deviceId c cr38 &&& tvFlags = tvStandard engine deviceId c cr38 := by
  unfold tvStandard
  split
  · split <;> decide
  · split
    · exact palOrNtsc_subset _ _
    · split <;> exact palOrNtsc_subset _ _

theorem sisDetectTv_and (engine : VgaEngine) (deviceId : UInt16) (b : Bridge)
    (h : tvFlags &&& m = 0) :
    (sisDetectTv engine deviceId b).sisVbflags &&& m = b.sisVbflags &&& m := by
  have htv : crt2Tv &&& m = 0 := and_eq_zero_of_subset (by decide) h
  have hinterface : ∀ f x y, tvInterface f x y &&& m = 0 := fun f x y =>
    and_eq_zero_of_subset (tvInterface_subset f x y) h
  have hstandard : ∀ c y, tvStandard engine deviceId c y &&& m = 0 := fun c y =>
    and_eq_zero_of_subset (tvStandard_subset engine deviceId c y) h
  unfold sisDetectTv
  dsimp only
  split
  · rfl
  · have hcrt2 : (if b.chip.cr 0x32 &&& 0x47 ≠ 0 then b.sisVbflags ||| crt2Tv
        else b.sisVbflags) &&& m = b.sisVbflags &&& m := by
      split
      · exact or_and_of_disjoint htv
      · rfl
    generalize (if b.chip.cr 0x32 &&& 0x47 ≠ 0 then b.sisVbflags ||| crt2Tv
      else b.sisVbflags) = vbflags at hcrt2 ⊢
    split
    · rw [or_and_of_disjoint (hstandard _ _), or_and_of_disjoint (hinterface _ _ _), hcrt2]
    · rw [or_and_of_disjoint (hinterface _ _ _), hcrt2]

theorem sisDetectCrt2_and (b : Bridge) (h : crt2Vga &&& m = 0) :
    (sisDetectCrt2 b).sisVbflags &&& m = b.sisVbflags &&& m := by
  unfold sisDetectCrt2
  split_ifs
  · rfl
  · rfl
  · exact or_and_of_disjoint h
  · rfl

/-- The bridge with everything detected. -/
def detected (engine : VgaEngine) (deviceId : UInt16) (b : Bridge) : Bridge :=
  sisDetectCrt2 (sisDetectTv engine deviceId (sisDetectCrt1 (sisDetectVideoBridge engine b)))

/-- The flags that are not detected: the modes, a panel, and bridges of others. -/
def undetectedFlags : UInt32 :=
  vbDispmodeSingle ||| vbDispmodeMirror ||| disptypeCrt1 ||| crt2Lcd ||| vbLvds ||| vbChrontel

theorem bridgeFlags_undetected (part4 : Ports) : bridgeFlags part4 &&& undetectedFlags = 0 := by
  unfold bridgeFlags
  dsimp only
  split_ifs <;> decide

/-- The flags of the detection, through a mask that nothing but the bridge is in. -/
theorem detected_and (engine : VgaEngine) (deviceId : UInt16) (b : Bridge)
    (h : (sensedFlags ||| vbUselcda ||| tvFlags ||| crt2Vga) &&& m = 0) :
    (detected engine deviceId b).sisVbflags &&& m =
      (if engine = .unknown then 0 else bridgeFlags b.chip.part4) &&& m := by
  unfold detected
  rw [sisDetectCrt2_and _ (and_eq_zero_of_subset (by decide) h),
    sisDetectTv_and _ _ _ (and_eq_zero_of_subset (by decide) h), sisDetectCrt1_vbflags,
    sisDetectVideoBridge_and _ _ (and_eq_zero_of_subset (by decide) h)]

theorem detected_undetected (engine : VgaEngine) (deviceId : UInt16) (b : Bridge) :
    (detected engine deviceId b).sisVbflags &&& undetectedFlags = 0 := by
  rw [detected_and engine deviceId b (by decide)]
  split
  · rfl
  · exact bridgeFlags_undetected _

/-- A bridge of the LV kind has no second VGA connector. -/
theorem detected_vga_of_lv (engine : VgaEngine) (deviceId : UInt16) (b : Bridge)
    (hlv : has (detected engine deviceId b).sisVbflags vb30xLv = true) :
    (detected engine deviceId b).sisVbflags &&& crt2Vga = 0 := by
  have hbefore : ∀ c : Bridge, c = sisDetectTv engine deviceId (sisDetectCrt1
      (sisDetectVideoBridge engine b)) → c.sisVbflags &&& crt2Vga = 0 := by
    rintro c rfl
    rw [sisDetectTv_and _ _ _ (by decide), sisDetectCrt1_vbflags,
      sisDetectVideoBridge_and _ _ (by decide)]
    split
    · rfl
    · unfold bridgeFlags
      dsimp only
      split_ifs <;> decide
  unfold detected at hlv ⊢
  generalize sisDetectTv engine deviceId (sisDetectCrt1 (sisDetectVideoBridge engine b)) = c
    at hbefore hlv ⊢
  have hlv' : has c.sisVbflags vb30xLv = true := by
    unfold has at hlv ⊢
    rwa [sisDetectCrt2_and c (by decide)] at hlv
  have hmask : has c.sisVbflags (vbLvds ||| vb30xLv) = true := by
    rw [has_eq_true_iff] at hlv' ⊢
    intro h0
    rw [and_or_distrib, UInt32.or_eq_zero_iff] at h0
    exact hlv' h0.2
  unfold sisDetectCrt2
  rw [if_pos hmask, ite_self]
  exact hbefore c rfl

/-! ### The type of CRT2 -/

/-- Flags with one type of CRT2 at most, and with none where there is no bridge. -/
structure OneCrt2 (vbflags : UInt32) : Prop where
  one : vbflags &&& disptypeDisp2 = 0 ∨ vbflags &&& disptypeDisp2 = crt2Lcd ∨
    vbflags &&& disptypeDisp2 = crt2Tv ∨ vbflags &&& disptypeDisp2 = crt2Vga
  bridge : has vbflags disptypeDisp2 = true → has vbflags vbVideobridge = true

/-- The flags of the three types are those of CRT2. -/
theorem and_disp2 (x : UInt32) :
    x &&& disptypeDisp2 = (x &&& crt2Lcd) ||| (x &&& crt2Tv) ||| (x &&& crt2Vga) := by
  rw [show disptypeDisp2 = crt2Lcd ||| crt2Tv ||| crt2Vga by decide, and_or_distrib, and_or_distrib]

/-- What remains with one type, whose flag is none of the others, is that flag or nothing. -/
theorem withCrt2_and_disp2 {vbflags type others : UInt32}
    (hothers : ~~~others &&& disptypeDisp2 = type)
    (htype : type &&& disptypeDisp2 = type) (hnot : ~~~others &&& (~~~type &&& disptypeDisp2) = 0) :
    withCrt2 vbflags type others &&& disptypeDisp2 =
      if has (vbflags &&& ~~~others) vbVideobridge then type else 0 := by
  unfold withCrt2
  dsimp only
  split
  · rw [or_and_distrib, UInt32.and_assoc, hothers, htype]
    apply UInt32.toBitVec_inj.mp
    ext i
    simp only [UInt32.toBitVec_and, UInt32.toBitVec_or, BitVec.getElem_and, BitVec.getElem_or]
    cases type.toBitVec[i] <;> simp
  · rw [UInt32.and_assoc, UInt32.and_assoc, hnot, UInt32.and_zero]

theorem withCrt2_and {vbflags type others m : UInt32} (hothers : ~~~others &&& m = m)
    (htype : type &&& m = 0) (hnot : ~~~type &&& m = m) :
    withCrt2 vbflags type others &&& m = vbflags &&& m := by
  unfold withCrt2
  dsimp only
  split
  · rw [or_and_of_disjoint htype, and_not_and_of_disjoint hothers]
  · rw [and_not_and_of_disjoint hnot, and_not_and_of_disjoint hothers]

/-- Flags in a larger mask. -/
theorem has_of_has {flags m' : UInt32} (hm : m &&& m' = m) (h : has flags m = true) :
    has flags m' = true := by
  rw [has_eq_true_iff] at h ⊢
  intro h0
  apply h
  rw [← hm, UInt32.and_comm m, ← UInt32.and_assoc, h0, UInt32.zero_and]

theorem withCrt2_oneCrt2 {vbflags type others : UInt32}
    (hmem : type = crt2Lcd ∨ type = crt2Tv ∨ type = crt2Vga)
    (hothers : others = disptypeDisp2 &&& ~~~type) : OneCrt2 (withCrt2 vbflags type others) := by
  have hsame : ∀ f g : UInt32, f &&& vbVideobridge = g &&& vbVideobridge →
      has f vbVideobridge = has g vbVideobridge := by
    intro f g hfg
    unfold has
    rw [hfg]
  have hcrt2 : withCrt2 vbflags type others &&& disptypeDisp2 =
      if has vbflags vbVideobridge then type else 0 := by
    rw [withCrt2_and_disp2 (by subst hothers; rcases hmem with rfl | rfl | rfl <;> decide)
      (by rcases hmem with rfl | rfl | rfl <;> decide)
      (by subst hothers; rcases hmem with rfl | rfl | rfl <;> decide)]
    rw [hsame (vbflags &&& ~~~others) vbflags (and_not_and_of_disjoint
      (by subst hothers; rcases hmem with rfl | rfl | rfl <;> decide))]
  have hbridge : has (withCrt2 vbflags type others) vbVideobridge = has vbflags vbVideobridge :=
    hsame _ _ (withCrt2_and (by subst hothers; rcases hmem with rfl | rfl | rfl <;> decide)
      (by rcases hmem with rfl | rfl | rfl <;> decide)
      (by rcases hmem with rfl | rfl | rfl <;> decide))
  refine ⟨?_, fun hdisp2 => ?_⟩
  · rw [hcrt2]
    split
    · exact .inr hmem
    · exact .inl rfl
  · rw [has_eq_true_iff, hcrt2] at hdisp2
    rw [hbridge]
    by_contra hno
    exact hdisp2 (if_neg hno)

theorem forceCrt2_oneCrt2 {force vbflags : UInt32} (h0 : vbflags &&& undetectedFlags = 0)
    (hlv : has vbflags vb30xLv = true → vbflags &&& crt2Vga = 0) :
    OneCrt2 (forceCrt2 force vbflags) := by
  have hnone : ∀ c, c &&& undetectedFlags = c → vbflags &&& c = 0 := by
    intro c hc
    rw [← hc, UInt32.and_comm c, ← UInt32.and_assoc, h0, UInt32.zero_and]
  unfold forceCrt2
  split_ifs with htv hlcd hvga hlvds hlv'
  · exact withCrt2_oneCrt2 (.inr (.inl rfl)) (by decide)
  · exact withCrt2_oneCrt2 (.inl rfl) (by decide)
  · exact absurd (hnone vbLvds (by decide)) (has_eq_true_iff.mp hlvds)
  · -- the types are left as they were detected: there is a TV, or nothing
    refine ⟨?_, fun _ => has_of_has (by decide) hlv'⟩
    rw [and_disp2, hnone crt2Lcd (by decide), hlv hlv', UInt32.zero_or, UInt32.or_zero]
    rcases and_single vbflags (show crt2Tv.toNat = 2 ^ 2 by decide) with h | h
    · exact .inl h
    · exact .inr (.inr (.inl h))
  · exact withCrt2_oneCrt2 (.inr (.inr rfl)) (by decide)
  · have hcrt2 : vbflags &&& ~~~disptypeDisp2 &&& disptypeDisp2 = 0 :=
      and_not_and_eq_zero (by decide)
    exact ⟨.inl hcrt2, fun h => absurd hcrt2 (has_eq_true_iff.mp h)⟩

/-- The types of CRT2 are all that is forced. -/
theorem forceCrt2_and {force vbflags : UInt32} (h : ~~~disptypeDisp2 &&& m = m) :
    forceCrt2 force vbflags &&& m = vbflags &&& m := by
  have hdisp2 : disptypeDisp2 &&& m = 0 := by
    rw [← h, ← UInt32.and_assoc, show disptypeDisp2 &&& ~~~disptypeDisp2 = 0 by decide,
      UInt32.zero_and]
  have hclear : ∀ c, c &&& disptypeDisp2 = c → ~~~c &&& m = m := fun c hc =>
    not_and_of_subset hc h
  have hwith : ∀ type others, type &&& disptypeDisp2 = type → others &&& disptypeDisp2 = others →
      withCrt2 vbflags type others &&& m = vbflags &&& m := fun type others htype hothers =>
    withCrt2_and (hclear others hothers) (and_eq_zero_of_subset htype hdisp2) (hclear type htype)
  unfold forceCrt2
  split_ifs
  · exact hwith _ _ (by decide) (by decide)
  · exact hwith _ _ (by decide) (by decide)
  · rfl
  · rfl
  · exact hwith _ _ (by decide) (by decide)
  · exact and_not_and_of_disjoint h

/-! ### The heads -/

/-- The static variables agree on which heads are used: what is off is not used, the mode says
whether there are two, and the overlay is for one that is used. -/
structure HeadsOk (b : Bridge) : Prop where
  crt2 : OneCrt2 b.sisVbflags
  crt1 : has b.sisVbflags disptypeCrt1 = decide (b.sisCrt1Off = 0)
  mirror : has b.sisVbflags vbDispmodeMirror =
    (has b.sisVbflags disptypeCrt1 && has b.sisVbflags disptypeDisp2)
  single : has b.sisVbflags vbDispmodeSingle = !has b.sisVbflags vbDispmodeMirror
  overlay : (if b.sisOverlayOnCrt1 then has b.sisVbflags disptypeCrt1
    else has b.sisVbflags disptypeDisp2) = true

/-- The modes and CRT1. -/
def headFlags : UInt32 := vbDispmodeSingle ||| vbDispmodeMirror ||| disptypeCrt1

theorem OneCrt2.or {vbflags f : UInt32} (h : OneCrt2 vbflags) (hf : f &&& headFlags = f) :
    OneCrt2 (vbflags ||| f) := by
  have hdisp2 : f &&& disptypeDisp2 = 0 := and_eq_zero_of_subset hf (by decide)
  have hbridge : f &&& vbVideobridge = 0 := and_eq_zero_of_subset hf (by decide)
  refine ⟨?_, ?_⟩
  · rw [or_and_of_disjoint hdisp2]
    exact h.one
  · rw [has_or_of_disjoint hdisp2, has_or_of_disjoint hbridge]
    exact h.bridge

/-- The flags of the heads are what is added in the end. -/
theorem headsOk_of_flags {b : Bridge} {vbflags g : UInt32} (hone : OneCrt2 vbflags)
    (h0 : vbflags &&& headFlags = 0) (hflags : b.sisVbflags = vbflags ||| g)
    (hg : g &&& headFlags = g) (hcrt1 : has g disptypeCrt1 = decide (b.sisCrt1Off = 0))
    (hmirror : has g vbDispmodeMirror = (has g disptypeCrt1 && has vbflags disptypeDisp2))
    (hsingle : has g vbDispmodeSingle = !has g vbDispmodeMirror)
    (hoverlay : (if b.sisOverlayOnCrt1 then has g disptypeCrt1
      else has vbflags disptypeDisp2) = true) : HeadsOk b := by
  have hhead : ∀ f, f &&& headFlags = f → has (vbflags ||| g) f = has g f := by
    intro f hf
    have hnone : vbflags &&& f = 0 := by
      rw [← hf, UInt32.and_comm f, ← UInt32.and_assoc, h0, UInt32.zero_and]
    unfold has
    rw [or_and_distrib, hnone, UInt32.zero_or]
  have hdisp2 : has (vbflags ||| g) disptypeDisp2 = has vbflags disptypeDisp2 :=
    has_or_of_disjoint (and_eq_zero_of_subset hg (by decide))
  have hcrt1' := hhead disptypeCrt1 (by decide)
  have hmirror' := hhead vbDispmodeMirror (by decide)
  have hsingle' := hhead vbDispmodeSingle (by decide)
  refine ⟨?_, ?_, ?_, ?_, ?_⟩ <;> rw [hflags]
  · exact hone.or hg
  · rw [hcrt1', hcrt1]
  · rw [hmirror', hcrt1', hdisp2, hmirror]
  · rw [hsingle', hmirror', hsingle]
  · rw [hcrt1', hdisp2, hoverlay]

theorem chooseHeads_ok (engine : VgaEngine) {b : Bridge} (hone : OneCrt2 b.sisVbflags)
    (h0 : b.sisVbflags &&& headFlags = 0) : HeadsOk (chooseHeads engine b) := by
  cases hdisp2 : has b.sisVbflags disptypeDisp2 with
  | false =>
    -- CRT1 is needed, whether there is a bridge or not
    have hchosen : (chooseHeads engine b).sisVbflags =
          b.sisVbflags ||| (vbDispmodeSingle ||| disptypeCrt1) ∧
        (chooseHeads engine b).sisCrt1Off = 0 ∧ (chooseHeads engine b).sisOverlayOnCrt1 = true := by
      unfold chooseHeads neededCrt1Off
      dsimp only
      split <;> simp [hdisp2]
    obtain ⟨hflags, hoff, hoverlay⟩ := hchosen
    refine headsOk_of_flags hone h0 hflags (by decide) ?_ ?_ (by decide) ?_
    · rw [hoff]
      decide
    · rw [hdisp2]
      decide
    · rw [hoverlay, if_pos rfl]
      decide
  | true =>
    have hbridge := hone.bridge hdisp2
    by_cases hoff : neededCrt1Off engine b.sisVbflags b.sisCrt1Off = 0
    · -- both heads are used
      have hchosen : (chooseHeads engine b).sisVbflags =
            b.sisVbflags ||| (vbDispmodeMirror ||| disptypeCrt1) ∧
          (chooseHeads engine b).sisCrt1Off = 0 := by
        unfold chooseHeads
        simp [hbridge, hdisp2, hoff]
      obtain ⟨hflags, hoff'⟩ := hchosen
      refine headsOk_of_flags hone h0 hflags (by decide) ?_ ?_ (by decide) ?_
      · rw [hoff']
        decide
      · rw [hdisp2]
        decide
      · rw [hdisp2]
        split <;> decide
    · -- CRT1 is off, so that the overlay is on CRT2
      have hchosen : (chooseHeads engine b).sisVbflags = b.sisVbflags ||| vbDispmodeSingle ∧
          (chooseHeads engine b).sisCrt1Off ≠ 0 ∧
          (chooseHeads engine b).sisOverlayOnCrt1 = false := by
        unfold chooseHeads
        simp [hbridge, hdisp2, hoff]
      obtain ⟨hflags, hoff', hoverlay⟩ := hchosen
      refine headsOk_of_flags hone h0 hflags (by decide) ?_ ?_ (by decide) ?_
      · rw [decide_eq_false hoff']
        decide
      · rw [hdisp2]
        decide
      · rw [hoverlay, if_neg Bool.false_ne_true, hdisp2]

/-- **The static variables agree after `sis_init_video_bridge`,** whatever they had before and
whatever the chip answers. -/
theorem sisInitVideoBridge_heads (engine : VgaEngine) (deviceId : UInt16) (b : Bridge) :
    HeadsOk (sisInitVideoBridge engine deviceId b) := by
  have h0 := detected_undetected engine deviceId b
  have hlv := detected_vga_of_lv engine deviceId b
  unfold sisInitVideoBridge
  refine chooseHeads_ok engine (forceCrt2_oneCrt2 h0 hlv) ?_
  dsimp only
  rw [forceCrt2_and (by decide)]
  have hsubset : headFlags &&& undetectedFlags = headFlags := by decide
  rw [← hsubset, UInt32.and_comm headFlags, ← UInt32.and_assoc]
  exact (congrArg (· &&& headFlags) h0).trans UInt32.zero_and

/-! ### What is seen -/

/-- The overlay is on CRT1 and CRT1 is used, or it is on CRT2 and there is one. -/
def Visible (mode : DispMode) (b : Bridge) : Prop :=
  (mode ≠ .single2 ∧ b.sisCrt1Off = 0) ∨
    (mode ≠ .single1 ∧ has b.sisVbflags disptypeDisp2 = true)

/-- The display mode for what the bridge has left, if the overlay is to be on CRT1 or not. -/
theorem HeadsOk.visible_iff {b : Bridge} (h : HeadsOk b) {d : Driver}
    (hflags : d.sisVbflags = b.sisVbflags) (slave : Bool) :
    Visible (setDispmode d slave) b ↔
      ¬ (b.sisCrt1Off ≠ 0 ∧ slave = true ∧ d.sisHasTwoOverlays = false ∧
        d.sisOverlayOnCrt1 = true) := by
  have hcrt1 := h.crt1
  have hmirror := h.mirror
  -- a head is used in any case
  have hsome : b.sisCrt1Off ≠ 0 → has b.sisVbflags disptypeDisp2 = true := by
    intro hoff
    have hoverlay := h.overlay
    rw [hcrt1, decide_eq_false hoff] at hoverlay
    split at hoverlay
    · exact absurd hoverlay Bool.false_ne_true
    · exact hoverlay
  unfold setDispmode
  rw [hflags, show disptypeDisp1 = disptypeCrt1 from rfl]
  simp only [← has_eq_true_iff, hmirror, hcrt1, Visible]
  by_cases hoff : b.sisCrt1Off = 0
  · cases has b.sisVbflags disptypeDisp2 <;> cases slave <;> cases d.sisHasTwoOverlays <;>
      cases d.sisOverlayOnCrt1 <;> simp [hoff]
  · rw [hsome hoff]
    cases slave <;> cases d.sisHasTwoOverlays <;> cases d.sisOverlayOnCrt1 <;> simp [hoff]

/-- What `vixInit` leaves, when it succeeds. -/
theorem vixInitBridge_of_ret {a : InitAnswer} {b : Bridge} {d : Driver}
    (hret : (vixInitBridge a b d).1 = 0) :
    let b' := sisInitVideoBridge d.sisVgaEngine d.sisDeviceId.toUInt16 b
    (vixInitBridge a b d).2.1.sisVbflags = b'.sisVbflags ∧
      (vixInitBridge a b d).2.2.sisVbflags = b'.sisVbflags ∧
      (vixInitBridge a b d).2.2.sisCrt1Off = b'.sisCrt1Off ∧
      (vixInitBridge a b d).2.1.sisHasTwoOverlays = d.sisHasTwoOverlays ∧
      (vixInitBridge a b d).2.1.sisOverlayOnCrt1 =
        (if a.crt = some 1 then true else if a.crt = some 2 then false
          else b'.sisOverlayOnCrt1) := by
  have hfails : eintr ≠ 0 := by decide
  unfold vixInitBridge at hret ⊢
  by_cases h : (vixInit a d).1 = 0
  · have hprobed : d.sisProbed ≠ false := fun hno => by
      unfold vixInit at h
      rw [if_pos hno] at h
      exact hfails h
    have hio : ¬ a.appIo ≠ 0 := fun hno => by
      unfold vixInit at h
      rw [if_neg hprobed, if_pos hno] at h
      exact hfails h
    rw [if_neg (not_not.mpr h)]
    unfold vixInit
    dsimp only
    rw [if_neg hprobed, if_neg hio]
    exact ⟨rfl, rfl, rfl, rfl, rfl⟩
  · rw [if_pos h] at hret
    exact absurd hret h

/-- **The overlay is seen, but in one case:** the bridge is in slave mode, CRT1 is off, there is
only one overlay, and `VIDIX_CRT` has it on CRT1. -/
theorem overlay_visible_iff (a : InitAnswer) (b : Bridge) (d : Driver)
    (hret : (vixInitBridge a b d).1 = 0) (part1 : Ports) :
    let r := (vixInitBridge a b d).2
    Visible (setDispmode r.1 (bridgeInSlaveMode r.1 part1)) r.2 ↔
      ¬ (r.2.sisCrt1Off ≠ 0 ∧ bridgeInSlaveMode r.1 part1 = true ∧ d.sisHasTwoOverlays = false ∧
        a.crt = some 1) := by
  obtain ⟨hflags, hflags', hoff, htwo, hcrt⟩ := vixInitBridge_of_ret hret
  have hok := sisInitVideoBridge_heads d.sisVgaEngine d.sisDeviceId.toUInt16 b
  dsimp only
  generalize sisInitVideoBridge d.sisVgaEngine d.sisDeviceId.toUInt16 b = b' at *
  have hvisible := hok.visible_iff hflags (bridgeInSlaveMode (vixInitBridge a b d).2.1 part1)
  unfold Visible at hvisible ⊢
  rw [hflags', hoff, hvisible, htwo, hcrt]
  have honly : b'.sisCrt1Off ≠ 0 → b'.sisOverlayOnCrt1 = false := by
    intro hne
    have hoverlay := hok.overlay
    rw [hok.crt1, decide_eq_false hne] at hoverlay
    cases hon : b'.sisOverlayOnCrt1 with
    | false => rfl
    | true =>
      rw [hon] at hoverlay
      exact absurd hoverlay Bool.false_ne_true
  apply not_congr
  constructor
  · rintro ⟨hne, hslave, hone, hon⟩
    refine ⟨hne, hslave, hone, ?_⟩
    rw [honly hne] at hon
    split_ifs at hon with h1
    exact h1
  · rintro ⟨hne, hslave, hone, h1⟩
    exact ⟨hne, hslave, hone, if_pos h1⟩

/-- A SiS301LV in slave mode with a TV at the S-video connector and nothing else. -/
def sampleBridge : Bridge where
  chip :=
    { sr := fun _ => 0, cr := fun _ => 0, part2 := fun _ => 0
      part1 := fun i => if i = 0x00 then 0x10 else 0
      part4 := fun i => if i = 0x00 then 0x01 else if i = 0x01 then 0xd0 else 0
      sensor := fun _ => 0x0a, reads := 0 }
  sisVbflags := disptypeCrt1
  sisCrt1Off := -1
  sisOverlayOnCrt1 := true
  sisForceCrt2Type := crt2Default
  sisDetectedCrt2Devices := 0

/-- A driver for one overlay, and the answers with which it is initialized. -/
def sampleInit (crt : Option ℤ) : InitAnswer where
  appIo := 0
  mem := 0xe0000000
  cr _ := 0
  sr _ := 0
  vbflags := 0
  crt := crt

def sampleProbed : Driver := { Driver.initial with
  sisProbed := true, sisDeviceId := 0x6325, sisVgaEngine := .sis315 }

/-- The TV is in use and CRT1 is not, and the bridge is a slave. -/
def SampleVisible (crt : Option ℤ) : Prop :=
  let r := (vixInitBridge (sampleInit crt) sampleBridge sampleProbed).2
  Visible (setDispmode r.1 (bridgeInSlaveMode r.1 sampleBridge.chip.part1)) r.2

/-- The TV shows the overlay, unless `VIDIX_CRT` asks for CRT1. -/
theorem overlay_visible_sample : SampleVisible none ∧ ¬ SampleVisible (some 1) := by
  have hall : ∀ crt, SampleVisible crt ↔ crt ≠ some 1 := by
    intro crt
    have hret : (vixInitBridge (sampleInit crt) sampleBridge sampleProbed).1 = 0 := rfl
    obtain ⟨hflags, -, hoff, -, -⟩ := vixInitBridge_of_ret hret
    have hcrt1 : (sisInitVideoBridge sampleProbed.sisVgaEngine
        sampleProbed.sisDeviceId.toUInt16 sampleBridge).sisCrt1Off = 1 := by decide +kernel
    have hbridge : (sisInitVideoBridge sampleProbed.sisVgaEngine
        sampleProbed.sisDeviceId.toUInt16 sampleBridge).sisVbflags &&& vbVideobridge ≠ 0 := by
      decide +kernel
    have hslave : bridgeInSlaveMode (vixInitBridge (sampleInit crt) sampleBridge sampleProbed).2.1
        sampleBridge.chip.part1 = true := by
      unfold bridgeInSlaveMode
      rw [hflags, if_neg hbridge]
      rfl
    have htwo : sampleProbed.sisHasTwoOverlays = false := rfl
    have hcrt : (sampleInit crt).crt = crt := rfl
    have h := overlay_visible_iff (sampleInit crt) sampleBridge sampleProbed hret
      sampleBridge.chip.part1
    simpa [SampleVisible, hoff, hcrt1, hslave, htwo, hcrt] using h
  exact ⟨(hall none).mpr (by simp), fun h => (hall (some 1)).mp h rfl⟩

end Vidix.Sis
