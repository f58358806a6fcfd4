import Vidix.Mach64.Equiv.Config
import Vidix.Util.Halves
import Vidix.Util.Signed

/-!
# The scale increments of the Mach64 driver

`mach64_vid_init_video` computes both increments of the scaler in 4.12 fixed point and packs them
into one register.  `ScaleExact` says that this goes as meant: no product on the way wraps around,
both increments have 16 bits, and the register gives them back.  That is so iff neither direction is
shrunk too much for its increment and the lines of the picture are not too many for the stretch
factor (`scaleExact_iff`).
-/

namespace Vidix.Mach64

open Util

/-! ### The factors -/

/-- `ecp`, the binary logarithm of the divider of the overlay clock. -/
def ecp (d : Driver) : UInt32 := (d.regs.pllVclkCntl &&& 0x30) >>> 4

/-- The panel stretches the picture. -/
def stretched (d : Driver) : Bool :=
  d.supportsLcdVStretch && d.regs.lcdVertStretching &&& 0x80000000 != 0

/-- The lines of the panel. -/
def panelSize (d : Driver) : ℕ := ((d.regs.lcdExtVertStretch &&& 0x003ff800) >>> 11).toNat + 1

/-- The stretch factor in 16.16, rounded to the nearest, over the true integers. -/
def stretchFactor (d : Driver) : ℕ :=
  if stretched d then ((mach64GetYres d.regs).toNat * 2 ^ 16 + panelSize d / 2) / panelSize d
  else 2 ^ 16

/-- The height of the source on the panel, in 16.16. -/
def stretchedHeight (d : Driver) (config : VidixPlayback) : ℕ :=
  config.src.h.toNat * stretchFactor d * if mach64IsInterlace d.regs then 2 else 1

/-- The increments are computed without a wrap around, fit their halves of the register, and can be
read back from it. -/
structure ScaleExact (d : Driver) (config : VidixPlayback) (scaleInc : UInt32) : Prop where
  lines : stretched d = true →
    ((mach64GetYres d.regs).toInt32 <<< 16).toInt = (mach64GetYres d.regs).toNat * 2 ^ 16
  vertical : (config.src.h * (mach64GetVertStretch d).toUInt32).toNat =
    config.src.h.toNat * stretchFactor d
  doubled : mach64IsInterlace d.regs = true →
    ((config.src.h * (mach64GetVertStretch d).toUInt32) <<< 1).toNat =
      config.src.h.toNat * stretchFactor d * 2
  horizontal : (config.src.w <<< (12 + ecp d)).toNat =
    config.src.w.toNat * 2 ^ (12 + (ecp d).toNat)
  fits : (scaleIncs d config).2.toNat < 2 ^ 16 ∧ (scaleIncs d config).1.toNat < 2 ^ 16
  unpacks : scaleInc >>> 16 = (scaleIncs d config).2 ∧ scaleInc &&& 0xffff = (scaleIncs d config).1

/-- What the picture, the screen and the destination have to meet. -/
structure ScaleFits (d : Driver) (config : VidixPlayback) : Prop where
  /-- A stretched screen has less than 32768 lines. -/
  lines : stretched d = true → (mach64GetYres d.regs).toNat < 2 ^ 15
  vertical : stretchedHeight d config < 2 ^ 32
  /-- The width is shrunk by less than 16, or less with a divided clock. -/
  width : config.src.w.toNat * 2 ^ (12 + (ecp d).toNat) < 2 ^ 16 * config.dest.w.toNat
  /-- The height on the panel is shrunk by less than 16. -/
  height : stretchedHeight d config / (if mach64IsDblScan d.regs then 2 else 1) <
    2 ^ 20 * config.dest.h.toNat

/-! ### The stretch factor -/

variable {d : Driver} {config : VidixPlayback}

theorem panelSize_le (d : Driver) : panelSize d ≤ 2048 := by
  have hand : (d.regs.lcdExtVertStretch &&& 0x003ff800).toNat ≤ 0x003ff800 := by
    rw [UInt32.toNat_and]
    exact Nat.and_le_right
  have hshift : ((d.regs.lcdExtVertStretch &&& 0x003ff800) >>> 11).toNat =
      (d.regs.lcdExtVertStretch &&& 0x003ff800).toNat / 2 ^ 11 := by
    rw [UInt32.toNat_shiftRight, Nat.shiftRight_eq_div_pow]
    rfl
  unfold panelSize
  rw [hshift]
  omega

/-- Shifting the lines of the screen is exact below 32768 of them. -/
theorem shiftLeft_lines_iff (yres : UInt32) :
    (yres.toInt32 <<< 16).toInt = yres.toNat * 2 ^ 16 ↔ yres.toNat < 2 ^ 15 := by
  have hmod : (yres.toInt32 <<< 16).toUInt32.toNat = yres.toNat * 2 ^ 16 % 2 ^ 32 := by
    show (yres.toBitVec <<< (16 : ℕ)).toNat = _
    rw [BitVec.toNat_shiftLeft, Nat.shiftLeft_eq]
    rfl
  have hint := toInt_eq (yres.toInt32 <<< 16)
  rw [hmod] at hint
  rw [hint]
  split_ifs <;> omega

theorem toInt_panelSize (d : Driver) :
    (((d.regs.lcdExtVertStretch &&& 0x003ff800) >>> 11).toInt32 + 1).toInt = panelSize d := by
  have hle := panelSize_le d
  unfold panelSize at hle ⊢
  rw [Int32.toInt_add, toInt_toInt32, if_pos (by omega), show (1 : Int32).toInt = 1 from rfl]
  exact Int.bmod_eq_of_le (by omega) (by omega)

/-- The stretch factor is the true one when the shift is exact. -/
theorem toInt_vertStretch (hlines : stretched d = true → (mach64GetYres d.regs).toNat < 2 ^ 15) :
    (mach64GetVertStretch d).toInt = stretchFactor d ∧ stretchFactor d < 2 ^ 31 := by
  unfold mach64GetVertStretch stretchFactor
  unfold stretched at hlines ⊢
  dsimp only
  by_cases hsupports : d.supportsLcdVStretch = true
  · by_cases henabled : d.regs.lcdVertStretching &&& 0x80000000 = 0
    · simp [hsupports, henabled]
    · have hyres := hlines (by simp [hsupports, henabled])
      have hpanel := toInt_panelSize d
      have hpos : 0 < panelSize d := Nat.succ_pos _
      have hle := panelSize_le d
      have hnum : (mach64GetYres d.regs).toNat * 2 ^ 16 + panelSize d / 2 < 2 ^ 31 := by omega
      have hdiv :
          ((mach64GetYres d.regs).toNat * 2 ^ 16 + panelSize d / 2) / panelSize d < 2 ^ 31 :=
        lt_of_le_of_lt (Nat.div_le_self _ _) hnum
      have hsum : ((mach64GetYres d.regs).toInt32 <<< 16 +
          (((d.regs.lcdExtVertStretch &&& 0x003ff800) >>> 11).toInt32 + 1) >>> 1).toInt =
          ((mach64GetYres d.regs).toNat * 2 ^ 16 + panelSize d / 2 : ℕ) := by
        rw [Int32.toInt_add, (shiftLeft_lines_iff _).mpr hyres, toInt_shiftRight_one, hpanel]
        push_cast
        exact Int.bmod_eq_of_le (by omega) (by omega)
      rw [if_neg (by simp [hsupports]), if_neg henabled, if_pos (by simp [hsupports, henabled])]
      refine ⟨?_, hdiv⟩
      rw [Int32.toInt_div, hsum, hpanel, ← Int.ofNat_tdiv]
      generalize ((mach64GetYres d.regs).toNat * 2 ^ 16 + panelSize d / 2) / panelSize d = factor
        at hdiv ⊢
      exact Int.bmod_eq_of_le (by omega) (by omega)
  · simp [hsupports]

/-! ### The products -/

theorem toNat_ecp_le (d : Driver) : (ecp d).toNat ≤ 3 := by
  have hand : (d.regs.pllVclkCntl &&& 0x30).toNat ≤ 0x30 := by
    rw [UInt32.toNat_and]
    exact Nat.and_le_right
  unfold ecp
  rw [UInt32.toNat_shiftRight, Nat.shiftRight_eq_div_pow, show (4 : UInt32).toNat % 32 = 4 from rfl]
  omega

/-- The width in 4.12, shifted by the divider, is always exact. -/
theorem toNat_shiftedWidth (hw : config.src.w.toNat ≤ 720) :
    (config.src.w <<< (12 + ecp d)).toNat = config.src.w.toNat * 2 ^ (12 + (ecp d).toNat) := by
  have hecp := toNat_ecp_le d
  have hshift : (12 + ecp d).toNat = 12 + (ecp d).toNat := by
    rw [UInt32.toNat_add, show (12 : UInt32).toNat = 12 from rfl]
    omega
  have hpow : 2 ^ (12 + (ecp d).toNat) ≤ 2 ^ 15 := Nat.pow_le_pow_right (by decide) (by omega)
  have hle := Nat.mul_le_mul hw hpow
  rw [toNat_shiftLeft_of_lt _ hshift (by omega), Nat.mod_eq_of_lt (by omega)]

theorem toNat_hInc (hw : config.src.w.toNat ≤ 720) :
    (scaleIncs d config).2.toNat =
      config.src.w.toNat * 2 ^ (12 + (ecp d).toNat) / config.dest.w.toNat := by
  rw [← toNat_shiftedWidth hw, ← UInt32.toNat_div]
  rfl

/-- The height on the panel is exact when it is a 32-bit number. -/
theorem toNat_stretchedHeight (config : VidixPlayback)
    (hlines : stretched d = true → (mach64GetYres d.regs).toNat < 2 ^ 15) :
    (config.src.h * (mach64GetVertStretch d).toUInt32).toNat =
      config.src.h.toNat * stretchFactor d % 2 ^ 32 := by
  obtain ⟨hint, hlt⟩ := toInt_vertStretch hlines
  have hword := toNat_toUInt32 (mach64GetVertStretch d)
  rw [hint] at hword
  have hstretch : (mach64GetVertStretch d).toUInt32.toNat = stretchFactor d := by omega
  rw [UInt32.toNat_mul, hstretch]

theorem toNat_shiftLeft_one (x : UInt32) : (x <<< 1).toNat = x.toNat * 2 % 2 ^ 32 :=
  toNat_shiftLeft_of_lt (n := 1) x rfl (by decide)

theorem toNat_vInc (hlines : stretched d = true → (mach64GetYres d.regs).toNat < 2 ^ 15)
    (hvertical : stretchedHeight d config < 2 ^ 32) :
    (scaleIncs d config).1.toNat =
      stretchedHeight d config / (if mach64IsDblScan d.regs then 2 else 1) /
        config.dest.h.toNat / 2 ^ 4 := by
  have hprod := toNat_stretchedHeight config hlines
  have hheight : (if mach64IsInterlace d.regs then
      (config.src.h * (mach64GetVertStretch d).toUInt32) <<< 1
      else config.src.h * (mach64GetVertStretch d).toUInt32).toNat = stretchedHeight d config := by
    unfold stretchedHeight at hvertical ⊢
    split_ifs at hvertical ⊢
    · rw [toNat_shiftLeft_one, hprod]
      omega
    · rw [hprod]
      omega
  have hscan : ∀ x : UInt32, (if mach64IsDblScan d.regs then x >>> 1 else x).toNat =
      x.toNat / (if mach64IsDblScan d.regs then 2 else 1) := by
    intro x
    split_ifs
    · rw [UInt32.toNat_shiftRight, Nat.shiftRight_eq_div_pow]
      rfl
    · rw [Nat.div_one]
  unfold scaleIncs
  dsimp only
  rw [UInt32.toNat_shiftRight, UInt32.toNat_div, hscan, hheight, Nat.shiftRight_eq_div_pow]
  rfl

/-! ### The increments -/

/-- **The increments are exact iff the picture fits the scaler.** -/
theorem scaleExact_iff (hw : config.src.w.toNat ≤ 720) (hdw : config.dest.w ≠ 0)
    (hdh : config.dest.h ≠ 0) :
    ScaleExact d config (packHalves (scaleIncs d config).2 (scaleIncs d config).1) ↔
      ScaleFits d config := by
  have hdw' : 0 < config.dest.w.toNat := Nat.pos_of_ne_zero fun h => hdw (UInt32.toNat_inj.mp h)
  have hdh' : 0 < config.dest.h.toNat := Nat.pos_of_ne_zero fun h => hdh (UInt32.toNat_inj.mp h)
  have hwidth : (scaleIncs d config).2.toNat < 2 ^ 16 ↔
      config.src.w.toNat * 2 ^ (12 + (ecp d).toNat) < 2 ^ 16 * config.dest.w.toNat := by
    rw [toNat_hInc hw, Nat.div_lt_iff_lt_mul hdw']
  constructor
  · intro h
    have hlines : stretched d = true → (mach64GetYres d.regs).toNat < 2 ^ 15 :=
      fun hs => (shiftLeft_lines_iff _).mp (h.lines hs)
    -- a product that is exact is a 32-bit number
    have hvertical : stretchedHeight d config < 2 ^ 32 := by
      unfold stretchedHeight
      split_ifs with hi
      · rw [← h.doubled hi]
        exact UInt32.toNat_lt _
      · rw [← h.vertical, Nat.mul_one]
        exact UInt32.toNat_lt _
    refine ⟨hlines, hvertical, hwidth.mp h.fits.1, ?_⟩
    have hheight := h.fits.2
    rwa [toNat_vInc hlines hvertical, ratio_lt_iff hdh'] at hheight
  · rintro ⟨hlines, hvertical, hw16, hheight⟩
    have hprod : config.src.h.toNat * stretchFactor d < 2 ^ 32 := by
      unfold stretchedHeight at hvertical
      split_ifs at hvertical <;> omega
    have hexact : (config.src.h * (mach64GetVertStretch d).toUInt32).toNat =
        config.src.h.toNat * stretchFactor d := by
      rw [toNat_stretchedHeight config hlines, Nat.mod_eq_of_lt hprod]
    have hfits : (scaleIncs d config).2.toNat < 2 ^ 16 ∧ (scaleIncs d config).1.toNat < 2 ^ 16 := by
      refine ⟨hwidth.mpr hw16, ?_⟩
      rw [toNat_vInc hlines hvertical, ratio_lt_iff hdh']
      exact hheight
    refine ⟨fun hs => (shiftLeft_lines_iff _).mpr (hlines hs), hexact, fun hi => ?_,
      toNat_shiftedWidth hw, hfits, unpack_iff.mpr hfits⟩
    unfold stretchedHeight at hvertical
    rw [if_pos hi] at hvertical
    rw [toNat_shiftLeft_one, hexact, Nat.mod_eq_of_lt hvertical]

/-- **The register of an accepted configuration is exact iff the picture fits the scaler.** -/
theorem vixConfigPlayback_scaleExact_iff (d d' : Driver) (info info' : VidixPlayback)
    (h : vixConfigPlayback d info = some (0, d', info')) :
    ScaleExact d info d'.besr.scaleInc ↔ ScaleFits d info := by
  have hacc := vixConfigPlayback_accepted h
  rw [hacc.scaleInc]
  exact scaleExact_iff hacc.small.width_le hacc.dest_w hacc.dest_h

/-- A picture that is shown in its own size. -/
theorem vixConfigPlayback_scaleExact_sample :
    ∃ d' info', vixConfigPlayback sampleDriver (sampleRequest imgfmtYUY2 640 480 2) =
        some (0, d', info') ∧
      ScaleExact sampleDriver (sampleRequest imgfmtYUY2 640 480 2) d'.besr.scaleInc := by
  have hsearch : Searches sampleDriver (sampleRequest imgfmtYUY2 640 480 2) :=
    ⟨by decide, by decide, by decide, by decide, by decide⟩
  obtain ⟨d', info', h, -⟩ := vixConfigPlayback_of_searches hsearch (by decide)
  exact ⟨d', info', h, (vixConfigPlayback_scaleExact_iff sampleDriver d' _ info' h).mpr
    ⟨fun hs => absurd hs (by decide), by decide, by decide, by decide⟩⟩

/-- The same picture in a window of `w` by `h`. -/
def shrunkRequest (w h : UInt32) : VidixPlayback :=
  { sampleRequest imgfmtYUY2 640 480 2 with dest.w := w, dest.h := h }

/-- **A height of 480 lines on 20 has an increment of 17 bits,** whose uppermost bit falls into the
horizontal increment: 1.0 becomes 1.000244, and the height is shrunk by 8 instead of 24. -/
theorem vixConfigPlayback_scale_overflows :
    ∃ d' info', vixConfigPlayback sampleDriver (shrunkRequest 640 20) = some (0, d', info') ∧
      scaleIncs sampleDriver (shrunkRequest 640 20) = (0x18000, 0x1000) ∧
      d'.besr.scaleInc = 0x10018000 ∧
      ¬ ScaleExact sampleDriver (shrunkRequest 640 20) d'.besr.scaleInc := by
  have hsearch : Searches sampleDriver (shrunkRequest 640 20) :=
    ⟨by decide, by decide, by decide, by decide, by decide⟩
  obtain ⟨d', info', h, -⟩ := vixConfigPlayback_of_searches hsearch (by decide)
  have hincs : scaleIncs sampleDriver (shrunkRequest 640 20) = (0x18000, 0x1000) := by decide
  have hreg : d'.besr.scaleInc = 0x10018000 := by
    rw [(vixConfigPlayback_accepted h).scaleInc, hincs]
    decide
  refine ⟨d', info', h, hincs, hreg, fun hexact => ?_⟩
  have hfits := hexact.fits.2
  rw [hincs] at hfits
  revert hfits
  decide

end Vidix.Mach64
