import Vidix.Pm3.Config
import Vidix.Util.Holds

/-!
# The scale factors of the pm3 driver

The delta of a direction is the quotient of the extents in sixteenths of `2 ^ 12`, rounded up.  The
source that it stands for may then be one pixel short, which shows in its low bits, since extents
are multiples of four; one more sixteenth makes up for that.  So it stands for the source exactly,
as long as sixteen windows are less than `2 ^ 16` (`exactDelta_mul_div`).

`computeScaleFactor_adjusted` says that nothing overflows on the way.
-/

namespace Vidix.Pm3

open Util

/-! ### The numbers -/

/-- The quotient of the extents, rounded up to sixteen. -/
def roundedQuotient (s d : ℕ) : ℕ := (s * 2 ^ 16 / d + 15) / 16 * 16

/-- The delta, with its correction. -/
def exactDelta (s d : ℕ) : ℕ :=
  if roundedQuotient s d * d / 2 ^ 16 % 4 ≠ 0 then roundedQuotient s d + 16
  else roundedQuotient s d

variable {s d : ℕ}

theorem roundedQuotient_bounds (hd : 0 < d) :
    s * 2 ^ 16 < roundedQuotient s d * d + d ∧ roundedQuotient s d * d ≤ s * 2 ^ 16 + 15 * d := by
  have hfloor : s * 2 ^ 16 / d * d ≤ s * 2 ^ 16 := Nat.div_mul_le_self _ _
  have hnext : s * 2 ^ 16 < s * 2 ^ 16 / d * d + d := Nat.lt_div_mul_add hd
  have hlow : s * 2 ^ 16 / d * d ≤ roundedQuotient s d * d :=
    Nat.mul_le_mul_right d (by unfold roundedQuotient; omega)
  have hhigh : roundedQuotient s d * d ≤ (s * 2 ^ 16 / d + 15) * d :=
    Nat.mul_le_mul_right d (by unfold roundedQuotient; omega)
  rw [Nat.add_mul] at hhigh
  constructor <;> omega

/-- A product that is not the source is one pixel short. -/
theorem exactDelta_mul (hd : 0 < d) (hd' : 16 * d < 2 ^ 16) (hs : s % 4 = 0) :
    s * 2 ^ 16 ≤ exactDelta s d * d ∧ exactDelta s d * d < (s + 1) * 2 ^ 16 := by
  obtain ⟨hlow, hhigh⟩ := roundedQuotient_bounds (s := s) hd
  unfold exactDelta
  generalize roundedQuotient s d = r at hlow hhigh ⊢
  split_ifs with hshort
  · -- the product lies between one window and none below the source
    have hbelow : r * d < s * 2 ^ 16 := by
      by_contra! hge
      have hquot : r * d / 2 ^ 16 = s := by omega
      exact hshort (hquot ▸ hs)
    rw [Nat.add_mul]
    constructor <;> omega
  · have hreached : s * 2 ^ 16 ≤ r * d := by
      by_contra! hlt
      have hquot : r * d / 2 ^ 16 = s - 1 := by omega
      omega
    exact ⟨hreached, by omega⟩

/-- **The delta stands for the source exactly.** -/
theorem exactDelta_mul_div (hd : 0 < d) (hd' : 16 * d < 2 ^ 16) (hs : s % 4 = 0) :
    exactDelta s d * d / 2 ^ 16 = s := by
  obtain ⟨hlow, hhigh⟩ := exactDelta_mul hd hd' hs
  omega

theorem exactDelta_mod (s d : ℕ) : exactDelta s d % 16 = 0 := by
  unfold exactDelta roundedQuotient
  split_ifs <;> omega

theorem exactDelta_le (s d : ℕ) : exactDelta s d ≤ s * 2 ^ 16 / d + 31 := by
  unfold exactDelta roundedQuotient
  split_ifs <;> omega

/-! ### The words -/

/-- What a delta owes for extents of `s` and `d`: it is held by the bits of its register, it stands
for the source exactly, and nothing on the way to it was larger than its word. -/
structure Adjusted (mask : UInt32) (s d : ℕ) (delta : UInt32) : Prop where
  held : delta &&& mask = delta
  exact : delta.toNat * d / 2 ^ 16 = s
  shifted_lt : s * 2 ^ 16 < 2 ^ 31
  rounded_lt : s * 2 ^ 16 / d + 15 < 2 ^ 31
  checked_lt : roundedQuotient s d * d < 2 ^ 32
  product_lt : delta.toNat * d < 2 ^ 32

variable {srcW dstW mask : Int32} {w : ℕ}

/-- The word before the correction. -/
theorem rounded_toNat {q : Int32} (hq : Holds q (s * 2 ^ 16 / d))
    (hmask : mask.toUInt32.toNat = (2 ^ w - 1) * 2 ^ 4) (hw : w ≤ 24)
    (hfit : s * 2 ^ 16 / d + 31 < 2 ^ (w + 4)) :
    ((q + 0x0f) &&& mask).toUInt32.toNat = roundedQuotient s d := by
  have hpow : 2 ^ (w + 4) ≤ 2 ^ 28 := Nat.pow_le_pow_right (by decide) (by omega)
  have hsum : Holds (q + 0x0f) (s * 2 ^ 16 / d + 15) :=
    hq.add (show Holds 0x0f 15 from rfl) (by omega)
  have hsplit : 2 ^ (w + 4) = 2 ^ w * 16 := pow_add 2 w 4
  have hroom : (s * 2 ^ 16 / d + 15) / 16 < 2 ^ w := Nat.div_lt_of_lt_mul (by omega)
  rw [Int32.toUInt32_and, toNat_and_field hmask, hsum.toNat_toUInt32, roundedQuotient]
  show _ / 16 % 2 ^ w * 16 = _
  rw [Nat.mod_eq_of_lt hroom]

/-- The word with the correction. -/
theorem scaleDelta_toNat (hs : Holds srcW s) (hd : Holds dstW d)
    (hmask : mask.toUInt32.toNat = (2 ^ w - 1) * 2 ^ 4) (hw : w ≤ 24)
    (hfit : s * 2 ^ 16 / d + 31 < 2 ^ (w + 4)) (hs' : s < 2 ^ 14) (hd0 : 0 < d)
    (hd' : 16 * d < 2 ^ 16) :
    ∃ delta, scaleDelta mask srcW dstW = some delta ∧ delta.toNat = exactDelta s d := by
  have hpow : 2 ^ (w + 4) ≤ 2 ^ 28 := Nat.pow_le_pow_right (by decide) (by omega)
  obtain ⟨-, hchecked⟩ := roundedQuotient_bounds (s := s) hd0
  have hle := exactDelta_le s d
  have hshift : Holds (srcW <<< 16) (s * 2 ^ 16) :=
    hs.shiftLeft (show Holds 16 16 from rfl) (by decide) (by omega)
  obtain ⟨q, hq, hquot⟩ := hshift.quotient hd hd0
  have hrounded := rounded_toNat hquot hmask hw hfit
  unfold scaleDelta
  rw [hq]
  refine ⟨_, rfl, ?_⟩
  generalize ((q + 0x0f) &&& mask).toUInt32 = delta at hrounded ⊢
  -- the test is that of the numbers
  have hlow : ((delta * dstW.toUInt32) >>> 16 &&& 0x03).toNat =
      roundedQuotient s d * d / 2 ^ 16 % 4 := by
    rw [UInt32.toNat_and, UInt32.toNat_shiftRight, UInt32.toNat_mul, hrounded, hd.toNat_toUInt32,
      Nat.mod_eq_of_lt (by omega), Nat.shiftRight_eq_div_pow]
    exact Nat.and_two_pow_sub_one_eq_mod _ 2
  have htest : (delta * dstW.toUInt32) >>> 16 &&& 0x03 ≠ 0 ↔
      roundedQuotient s d * d / 2 ^ 16 % 4 ≠ 0 := by
    rw [← hlow, Ne, Ne, ← UInt32.toNat_inj]
    rfl
  unfold exactDelta at hle ⊢
  simp only [htest]
  split_ifs at hle ⊢
  · rw [UInt32.toNat_add, hrounded]
    show (_ + 16) % 2 ^ 32 = _
    exact Nat.mod_eq_of_lt (by omega)
  · exact hrounded

theorem scaleDelta_adjusted (hs : Holds srcW s) (hd : Holds dstW d)
    (hmask : mask.toUInt32.toNat = (2 ^ w - 1) * 2 ^ 4) (hw : w ≤ 24)
    (hfit : s * 2 ^ 16 / d + 31 < 2 ^ (w + 4)) (hs4 : s % 4 = 0) (hs' : s < 2 ^ 14) (hd0 : 0 < d)
    (hd' : 16 * d < 2 ^ 16) :
    ∃ delta, scaleDelta mask srcW dstW = some delta ∧ Adjusted mask.toUInt32 s d delta := by
  have hpow : 2 ^ (w + 4) ≤ 2 ^ 28 := Nat.pow_le_pow_right (by decide) (by omega)
  have hsplit : 2 ^ (w + 4) = 2 ^ w * 16 := pow_add 2 w 4
  obtain ⟨delta, hdelta, hvalue⟩ := scaleDelta_toNat hs hd hmask hw hfit hs' hd0 hd'
  obtain ⟨-, hchecked⟩ := roundedQuotient_bounds (s := s) hd0
  obtain ⟨-, hproduct⟩ := exactDelta_mul hd0 hd' hs4
  have hle := exactDelta_le s d
  have hmod := exactDelta_mod s d
  have hroom : exactDelta s d / 16 < 2 ^ w := Nat.div_lt_of_lt_mul (by omega)
  refine ⟨delta, hdelta, ?_, ?_, by omega, by omega, by omega, by rw [hvalue]; omega⟩
  · apply UInt32.toNat_inj.mp
    rw [toNat_and_field hmask, hvalue]
    show _ / 16 % 2 ^ w * 16 = _
    rw [Nat.mod_eq_of_lt hroom]
    omega
  · rw [hvalue]
    exact exactDelta_mul_div hd0 hd' hs4

/-! ### `compute_scale_factor` -/

/-- What `compute_scale_factor` owes: extents that are multiples of four, and the delta of the
direction that the picture is scaled in, the other one being one. -/
structure ScaleAdjusted (s d : ℕ) (f : ScaleFactor) : Prop where
  srcW : Holds f.srcW (s / 4 * 4)
  dstW : Holds f.dstW (d / 4 * 4)
  shrink : d ≤ s → Adjusted 0x0ffffff0 (s / 4 * 4) (d / 4 * 4) f.shrinkDelta ∧
    f.zoomDelta.toNat = 2 ^ 16
  zoom : s < d → Adjusted 0x0001fff0 (s / 4 * 4) (d / 4 * 4) f.zoomDelta ∧
    f.shrinkDelta.toNat = 2 ^ 16

/-- **The scale factors stand for the extents exactly.**  For every source below `2 ^ 14` and every
window from 4 to 4095: there is no division by zero, nothing overflows, and the delta, within the
bits of its register, takes the window to the source. -/
theorem computeScaleFactor_adjusted (hs : Holds srcW s) (hd : Holds dstW d) (hs' : s ≤ 16383)
    (hd4 : 4 ≤ d) (hd' : d ≤ 4095) :
    ∃ f, computeScaleFactor srcW dstW = some f ∧ ScaleAdjusted s d f := by
  have hsrc : Holds (srcW &&& ~~~0x3) (s / 4 * 4) := hs.clearLow (k := 2) rfl (by decide)
  have hdst : Holds (dstW &&& ~~~0x3) (d / 4 * 4) := hd.clearLow (k := 2) rfl (by decide)
  have hd0 : 0 < d / 4 * 4 := by omega
  have hge := hd.le_iff hs
  unfold computeScaleFactor
  dsimp only
  by_cases hle : d ≤ s
  · have hquot : s / 4 * 4 * 2 ^ 16 / (d / 4 * 4) ≤ 4095 * 2 ^ 16 :=
      Nat.div_le_of_le_mul (calc s / 4 * 4 * 2 ^ 16 ≤ 4 * (4095 * 2 ^ 16) := by omega
        _ ≤ d / 4 * 4 * (4095 * 2 ^ 16) := Nat.mul_le_mul_right _ (by omega))
    obtain ⟨delta, hdelta, hadjusted⟩ := scaleDelta_adjusted (w := 24) hsrc hdst
      (show (0x0ffffff0 : Int32).toUInt32.toNat = (2 ^ 24 - 1) * 2 ^ 4 from rfl) le_rfl (by omega)
      (by omega) (by omega) hd0 (by omega)
    rw [if_pos (hge.mpr hle), hdelta]
    exact ⟨_, rfl, hsrc, hdst, fun _ => ⟨hadjusted, rfl⟩, fun hlt => by omega⟩
  · have hquot : s / 4 * 4 * 2 ^ 16 / (d / 4 * 4) ≤ 2 ^ 16 :=
      Nat.div_le_of_le_mul (Nat.mul_le_mul_right _ (by omega))
    obtain ⟨delta, hdelta, hadjusted⟩ := scaleDelta_adjusted (w := 13) hsrc hdst
      (show (0x0001fff0 : Int32).toUInt32.toNat = (2 ^ 13 - 1) * 2 ^ 4 from rfl) (by decide)
      (by omega) (by omega) (by omega) hd0 (by omega)
    rw [if_neg fun h => hle (hge.mp h), hdelta]
    exact ⟨_, rfl, hsrc, hdst, fun h => absurd h hle, fun _ => ⟨hadjusted, rfl⟩⟩

/-- A source of 720 in a window of 1001. -/
theorem computeScaleFactor_adjusted_sample :
    ∃ f, computeScaleFactor 720 1001 = some f ∧ ScaleAdjusted 720 1001 f :=
  computeScaleFactor_adjusted (s := 720) (d := 1001) rfl rfl (by decide) (by decide) (by decide)

end Vidix.Pm3
