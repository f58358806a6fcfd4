import Vidix.Sis.Equiv.Overlay
import Vidix.Util.Holds

/-!
# The scale factors of the sis driver

For a picture of at most 2048 pixels each way, nothing overflows: the loop ends with the largest
power of two by which the picture can be halved, the two factors fit in their 16 bits, and the
length of a line is a multiple of that of the picture (`calcScaleFactor_scaled`).
-/

namespace Vidix.Sis

open Util

variable {engine : VgaEngine} {vmode : UInt32}

/-! ### The numbers -/

/-- The columns of the window, as the chip sees them. -/
def windowWidth (engine : VgaEngine) (vmode : UInt32) (box : BoxRec) : ℕ :=
  let width := (box.x2.toInt - box.x1.toInt).toNat
  max 32 (if vmode &&& vmodeDoublescan ≠ 0 ∧ engine = .sis315 then width * 2 else width)

/-- The lines of the window. -/
def windowHeight (vmode : UInt32) (box : BoxRec) : ℕ :=
  let height := (box.y2.toInt - box.y1.toInt).toNat
  max 24 (if vmode &&& vmodeInterlaced ≠ 0 then height / 2
    else if vmode &&& vmodeDoublescan ≠ 0 then height * 2 else height)

/-- The columns that a picture is scaled to, which are at least an eighth of it for most pitches. -/
def effectiveWidth (srcPitch srcW width : ℕ) : ℕ :=
  if width < srcW ∧ (srcPitch % 256 ≠ 0 ∨ srcPitch < 256) ∧ width * 1000 / srcW < 125 then
    srcW * 125 / 1000 + 1
  else width

/-- The horizontal factor after the picture has been halved `k` times. -/
def horFactor (srcW width k : ℕ) : ℕ :=
  if width = srcW then 0
  else if srcW < width then srcW * 2 ^ 16 / (width + 2)
  else (srcW - width * 2 ^ k) * 2 ^ 16 / (width * 2 ^ k)

/-- The line that follows one that is shown is so many lines below it. -/
def lineStep (srcPitch srcH height : ℕ) : ℕ :=
  if srcH / height < 2 then 1
  else if 0xFFF < srcPitch * (srcH / height) / 4 then 0xFFF * 2 / srcPitch
  else srcH / height

def verFactor (srcPitch srcH height : ℕ) : ℕ :=
  if height = srcH then 0
  else if srcH < height then srcH * 2 ^ 16 / (height + 2)
  else if 2 ≤ srcH / height ∧ 0xFFF < srcPitch * (srcH / height) / 4 then 0xFFFF
  else (srcH - height * (srcH / height)) * 2 ^ 16 / (height * (srcH / height))

/-! ### The loop -/

/-- **The loop ends, and the width before its last round is the last that is not too large.** -/
theorem prescale_spec (rounds : ℕ) {srcW tmpW : Int32} {s t : ℕ} (i : UInt32)
    (hs : Holds srcW s) (ht : Holds tmpW t) (hend : s < 2 ^ rounds * t) (hsmall : s < 2 ^ 30) :
    ∃ k, prescale (rounds + 1) srcW tmpW i = some (i + UInt32.ofNat k) ∧ k ≤ rounds ∧
      s < 2 ^ k * t ∧ (0 < k → 2 ^ (k - 1) * t ≤ s) := by
  induction rounds generalizing tmpW t i with
  | zero =>
    have hlt : ¬ srcW ≥ tmpW := fun hge => by
      have hle := (ht.le_iff hs).mp hge
      omega
    refine ⟨0, ?_, le_rfl, hend, fun h => absurd h (lt_irrefl 0)⟩
    unfold prescale
    rw [if_neg hlt]
    exact congrArg some (UInt32.add_zero i).symm
  | succ rounds ih =>
    by_cases hge : srcW ≥ tmpW
    · have hle : t ≤ s := (ht.le_iff hs).mp hge
      have hdouble : Holds (tmpW <<< 1) (2 * t) := by
        rw [shiftLeft_one, mul_comm 2 t]
        exact ht.mul (show Holds 2 2 from rfl) (by omega)
      have hend' : s < 2 ^ rounds * (2 * t) := by
        rw [← mul_assoc, ← pow_succ]
        exact hend
      obtain ⟨k, hk, hrounds, hlt, hlow⟩ := ih (i + 1) hdouble hend'
      refine ⟨k + 1, ?_, Nat.succ_le_succ hrounds, ?_, fun _ => ?_⟩
      · unfold prescale
        rw [if_pos hge, hk, UInt32.add_assoc, UInt32.ofNat_add, UInt32.add_comm 1]
        rfl
      · rwa [pow_succ, mul_assoc]
      · rw [Nat.add_sub_cancel]
        cases k with
        | zero => simpa using hle
        | succ k =>
          have hlow' := hlow (Nat.succ_pos k)
          rw [Nat.succ_sub_one] at hlow'
          rwa [pow_succ, mul_assoc]
    · have hlt : s < t := by
        have hnot := mt (ht.le_iff hs).mpr hge
        omega
      refine ⟨0, ?_, Nat.zero_le _, by omega, fun h => absurd h (lt_irrefl 0)⟩
      unfold prescale
      rw [if_neg hge]
      exact congrArg some (UInt32.add_zero i).symm

/-! ### The width -/

/-- The distance between two edges of a box. -/
theorem span_toInt (x y : Int16) : (y.toInt32 - x.toInt32).toInt = y.toInt - x.toInt ∧
    -2 ^ 16 < y.toInt - x.toInt ∧ y.toInt - x.toInt < 2 ^ 16 := by
  have hx := Int16.le_toInt x
  have hx' := Int16.toInt_lt x
  have hy := Int16.le_toInt y
  have hy' := Int16.toInt_lt y
  refine ⟨toInt_eq_of_modEq ?_ (by omega) (by omega), by omega, by omega⟩
  rw [Int32.toInt_sub, Int16.toInt_toInt32, Int16.toInt_toInt32]
  exact Int.bmod_emod

theorem span_double_toInt (x y : Int16) :
    ((y.toInt32 - x.toInt32) <<< 1).toInt = (y.toInt - x.toInt) * 2 := by
  obtain ⟨hspan, hlow, hhigh⟩ := span_toInt x y
  rw [shiftLeft_one]
  exact toInt_eq_of_modEq (toInt_mul_modEq (by rw [hspan]) rfl) (by omega) (by omega)

theorem scaledWidth_holds (engine : VgaEngine) (vmode : UInt32) (box : BoxRec) :
    Holds (scaledWidth engine vmode box) (windowWidth engine vmode box) ∧
      windowWidth engine vmode box < 2 ^ 18 := by
  have hmin : overlayMinWidth.toInt = 32 := rfl
  obtain ⟨hspan, hlow, hhigh⟩ := span_toInt box.x1 box.x2
  have hdouble := span_double_toInt box.x1 box.x2
  unfold scaledWidth windowWidth Holds
  dsimp only
  split_ifs with hscan hlt hlt
  all_goals rw [Int32.lt_iff_toInt_lt, hmin] at hlt
  all_goals omega

theorem scaledHeight_holds (vmode : UInt32) (box : BoxRec) :
    Holds (scaledHeight vmode box) (windowHeight vmode box) ∧ windowHeight vmode box < 2 ^ 18 := by
  have hmin : overlayMinHeight.toInt = 24 := rfl
  obtain ⟨hspan, hlow, hhigh⟩ := span_toInt box.y1 box.y2
  have hdouble := span_double_toInt box.y1 box.y2
  have hhalf : ((box.y2.toInt32 - box.y1.toInt32) >>> 1).toInt =
      (box.y2.toInt - box.y1.toInt) / 2 := by
    rw [toInt_shiftRight_one, hspan]
  unfold scaledHeight windowHeight Holds
  dsimp only
  split_ifs with hlaced hlt hscan hlt hlt
  all_goals rw [Int32.lt_iff_toInt_lt, hmin] at hlt
  all_goals omega

theorem limitedWidth_spec {srcPitch srcW dstW : Int32} {p s w : ℕ} (hp : Holds srcPitch p)
    (hs : Holds srcW s) (hw : Holds dstW w) (hs1 : 0 < s) (hs2 : s ≤ 2048) (hlt : w < s) :
    ∃ d, limitedWidth srcPitch srcW dstW = some d ∧ Holds d (effectiveWidth p s w) := by
  have hrest := hp.mod (show Holds 256 256 from rfl)
  have hcond : srcPitch % 256 ≠ 0 ∨ srcPitch < 256 ↔ p % 256 ≠ 0 ∨ p < 256 :=
    or_congr (not_congr (hrest.eq_iff (show Holds 0 0 from rfl)))
      (hp.lt_iff (show Holds 256 256 from rfl))
  unfold limitedWidth effectiveWidth
  by_cases hpitch : p % 256 ≠ 0 ∨ p < 256
  · obtain ⟨q, hq, hpart⟩ := (hw.mul (show Holds 1000 1000 from rfl) (by omega)).quotient hs hs1
    have hsmall : q < 125 ↔ w * 1000 / s < 125 := hpart.lt_iff (show Holds 125 125 from rfl)
    have heighth := (hs.mul (show Holds 125 125 from rfl) (by omega)).div
      (show Holds 1000 1000 from rfl)
    rw [if_pos (hcond.mpr hpitch), hq]
    refine ⟨_, rfl, ?_⟩
    by_cases hpart' : w * 1000 / s < 125
    · rw [if_pos (hsmall.mpr hpart'), if_pos ⟨hlt, hpitch, hpart'⟩]
      exact heighth.add (show Holds 1 1 from rfl) (by omega)
    · rw [if_neg (mt hsmall.mp hpart'), if_neg fun h => hpart' h.2.2]
      exact hw
  · rw [if_neg (mt hcond.mp hpitch), if_neg fun h => hpitch h.2.1]
    exact ⟨dstW, rfl, hw⟩

/-- What is left of a number after the largest multiple of another by a power of two that is not
above it is taken away. -/
theorem scaled_lt {s d : ℕ} (hd : 0 < d) (hlt : s < d * 2) : (s - d) * 2 ^ 16 / d < 2 ^ 16 := by
  rw [Nat.div_lt_iff_lt_mul hd]
  calc (s - d) * 2 ^ 16 < d * 2 ^ 16 := Nat.mul_lt_mul_of_pos_right (by omega) (by decide)
    _ = 2 ^ 16 * d := Nat.mul_comm _ _

/-- `(src << 16) / (dst + 2)`. -/
theorem widen_spec {src dst : Int32} {s d : ℕ} (hs : Holds src s) (hdst : Holds dst d)
    (hsmall : s < 2 ^ 15) (hd : d + 2 < 2 ^ 31) :
    ∃ f, quotient (src <<< 16) (dst + 2) = some f ∧ Holds f (s * 2 ^ 16 / (d + 2)) := by
  have hshift : Holds (src <<< 16) (s * 2 ^ 16) :=
    hs.shiftLeft (show Holds 16 16 from rfl) (by decide) (by omega)
  exact hshift.quotient (hdst.add (show Holds 2 2 from rfl) hd) (Nat.succ_pos _)

/-- `((src - dst) << 16) / dst`, unless `dst` is a divisor of `src`. -/
theorem rest_spec {src dst : Int32} {s d : ℕ} (hs : Holds src s) (hdst : Holds dst d) (hd : 0 < d)
    (hle : d ≤ s) (hlt : s < d * 2) (hsmall : s < 2 ^ 15) :
    ∃ rest f, remainder src dst = some rest ∧ Holds f ((s - d) * 2 ^ 16 / d) ∧
      (rest = 0 → f = 0) ∧ (rest ≠ 0 → quotient ((src - dst) <<< 16) dst = some f) := by
  obtain ⟨rest, hrest, hmod⟩ := hs.remainder hdst hd
  have hsub : s % d = s - d := by
    rw [Nat.mod_eq_sub_mod hle, Nat.mod_eq_of_lt (by omega)]
  rw [hsub] at hmod
  by_cases hzero : rest = 0
  · have hsame : s - d = 0 := (hmod.eq_iff (show Holds 0 0 from rfl)).mp hzero
    refine ⟨rest, 0, hrest, ?_, fun _ => rfl, fun h => absurd hzero h⟩
    rw [hsame, Nat.zero_mul, Nat.zero_div]
    rfl
  · have hshift : Holds ((src - dst) <<< 16) ((s - d) * 2 ^ 16) :=
      (hs.sub hdst hle).shiftLeft (show Holds 16 16 from rfl) (by decide) (by omega)
    obtain ⟨f, hf, hvalue⟩ := hshift.quotient hdst hd
    exact ⟨rest, f, hrest, hvalue, fun h => absurd h hzero, fun _ => hf⟩

/-- **A picture of at most 2048 columns is halved at most six times.** -/
theorem halvings_spec {srcW dstW : Int32} {s e : ℕ} (hs : Holds srcW s) (hdst : Holds dstW e)
    (hs2 : s ≤ 2048) (hlt : e < s) (hwide : 32 ≤ e ∨ s < e * 8) :
    ∃ k, k ≤ 6 ∧ prescale 33 srcW dstW 0 = some (UInt32.ofNat k + 1) ∧ 2 ^ k * e ≤ s ∧
      s < 2 ^ (k + 1) * e := by
  obtain ⟨k, hk, -, hend, hlow⟩ := prescale_spec 32 0 hs hdst (by omega) (by omega)
  have hpos : 0 < k := by
    rcases Nat.eq_zero_or_pos k with hzero | hpos
    · rw [hzero] at hend
      omega
    · exact hpos
  obtain ⟨k, rfl⟩ := Nat.exists_eq_succ_of_ne_zero hpos.ne'
  have hle : 2 ^ k * e ≤ s := hlow hpos
  refine ⟨k, ?_, ?_, hle, hend⟩
  · by_contra hlarge
    have hpow : 2 ^ 7 * e ≤ 2 ^ k * e :=
      Nat.mul_le_mul_right _ (Nat.pow_le_pow_right (by decide) (by omega))
    omega
  · rw [hk, UInt32.zero_add]
    exact congrArg some (UInt32.ofNat_add k 1)

/-- A picture that is wider than its window. -/
theorem scaleWidth_narrow {srcPitch srcW dstW : Int32} {p s w : ℕ} (hp : Holds srcPitch p)
    (hs : Holds srcW s) (hw : Holds dstW w) (hs1 : 0 < s) (hs2 : s ≤ 2048) (hw1 : 32 ≤ w)
    (hlt : w < s) :
    ∃ hor k, scaleWidth srcPitch srcW dstW = some hor ∧ hor.wHPre.toNat = k ∧ k ≤ 6 ∧
      Holds hor.husf (horFactor s (effectiveWidth p s w) k) ∧
      horFactor s (effectiveWidth p s w) k < 2 ^ 16 ∧ effectiveWidth p s w < s ∧
      2 ^ k * effectiveWidth p s w ≤ s ∧ s < 2 ^ (k + 1) * effectiveWidth p s w := by
  obtain ⟨d, hd, hwidth⟩ := limitedWidth_spec hp hs hw hs1 hs2 hlt
  have hwide : 32 ≤ effectiveWidth p s w ∨ s < effectiveWidth p s w * 8 := by
    unfold effectiveWidth
    split_ifs <;> omega
  have hefflt : effectiveWidth p s w < s := by
    unfold effectiveWidth
    split_ifs <;> omega
  generalize effectiveWidth p s w = e at *
  obtain ⟨k, hk6, hk, hle, hend⟩ := halvings_spec hs hwidth hs2 hefflt hwide
  have hword : (UInt32.ofNat k).toNat = k := by
    rw [UInt32.toNat_ofNat']
    exact Nat.mod_eq_of_lt (by omega)
  have hexp : Holds (UInt32.ofNat k).toInt32 k := Holds.of_toUInt32 hword (by omega)
  have hhalved : Holds (d <<< (UInt32.ofNat k).toInt32) (e * 2 ^ k) :=
    hwidth.shiftLeft hexp (by omega) (by rw [Nat.mul_comm]; omega)
  have hend' : s < e * 2 ^ k * 2 := by
    rw [pow_succ] at hend
    linarith
  obtain ⟨rest, f, hrest, hvalue, hf0, hf⟩ := rest_spec hs hhalved (by omega)
    (by rw [Nat.mul_comm]; exact hle) hend' (by omega)
  have hfactor : horFactor s e k = (s - e * 2 ^ k) * 2 ^ 16 / (e * 2 ^ k) := by
    unfold horFactor
    rw [if_neg (by omega), if_neg (by omega)]
  have hscaled : scaleWidth srcPitch srcW dstW =
      some ⟨f, 0x01, (UInt32.ofNat k).toUInt8⟩ := by
    unfold scaleWidth
    rw [if_neg (mt (hw.eq_iff hs).mp hlt.ne), if_neg (mt (hs.lt_iff hw).mp hlt.asymm)]
    simp only [hd, hk, Option.bind_eq_bind, Option.bind_some, UInt32.add_sub_cancel, hrest]
    by_cases hzero : rest = 0
    · rw [if_neg (not_not_intro hzero), hf0 hzero]
    · rw [if_pos hzero, hf hzero]
      rfl
  refine ⟨_, k, hscaled, ?_, hk6, ?_, ?_, hefflt, hle, hend⟩
  · show (UInt32.ofNat k).toUInt8.toNat = k
    rw [UInt32.toNat_toUInt8, hword]
    exact Nat.mod_eq_of_lt (by omega)
  · rw [hfactor]
    exact hvalue
  · rw [hfactor]
    exact scaled_lt (by omega) hend'

/-- **The width of a picture of at most 2048 columns.** -/
theorem scaleWidth_spec {srcPitch srcW dstW : Int32} {p s w : ℕ} (hp : Holds srcPitch p)
    (hs : Holds srcW s) (hw : Holds dstW w) (hs1 : 0 < s) (hs2 : s ≤ 2048) (hw1 : 32 ≤ w)
    (hw2 : w < 2 ^ 18) :
    ∃ hor k, scaleWidth srcPitch srcW dstW = some hor ∧ hor.wHPre.toNat = k ∧ k ≤ 6 ∧
      Holds hor.husf (horFactor s (effectiveWidth p s w) k) ∧
      horFactor s (effectiveWidth p s w) k < 2 ^ 16 ∧
      (effectiveWidth p s w < s → 2 ^ k * effectiveWidth p s w ≤ s ∧
        s < 2 ^ (k + 1) * effectiveWidth p s w) ∧ (s ≤ effectiveWidth p s w → k = 0) := by
  have hne : ∀ h : s ≤ w, effectiveWidth p s w = w := fun h => if_neg fun hc => by omega
  rcases lt_trichotomy w s with hlt | heq | hgt
  · obtain ⟨hor, k, hhor, hpre, hk6, hhusf, hhusf', hefflt, hhalved⟩ :=
      scaleWidth_narrow hp hs hw hs1 hs2 hw1 hlt
    exact ⟨hor, k, hhor, hpre, hk6, hhusf, hhusf', fun _ => hhalved,
      fun hle => absurd hefflt (Nat.not_lt.mpr hle)⟩
  · have hzero : horFactor s w 0 = 0 := if_pos heq
    unfold scaleWidth
    rw [if_pos ((hw.eq_iff hs).mpr heq), hne heq.ge]
    refine ⟨_, 0, rfl, rfl, by decide, ?_, ?_, fun h => absurd h (Nat.not_lt.mpr heq.ge),
      fun _ => rfl⟩
    all_goals rw [hzero]
    · rfl
    · decide
  · obtain ⟨f, hf, hvalue⟩ := widen_spec hs hw (by omega) (by omega)
    have hfactor : horFactor s w 0 = s * 2 ^ 16 / (w + 2) := by
      unfold horFactor
      rw [if_neg hgt.ne', if_pos hgt]
    unfold scaleWidth
    rw [if_neg (mt (hw.eq_iff hs).mp hgt.ne'),
      if_pos (show dstW > srcW from (hs.lt_iff hw).mpr hgt), hne hgt.le, hf]
    refine ⟨_, 0, rfl, rfl, by decide, ?_, ?_, fun h => absurd h hgt.asymm, fun _ => rfl⟩
    all_goals rw [hfactor]
    · exact hvalue
    · rw [Nat.div_lt_iff_lt_mul (by omega)]
      omega

/-! ### The height -/

theorem lineStep_spec {p s h : ℕ} (hp1 : 4 ≤ p) (hp2 : p ≤ 8190) :
    0 < lineStep p s h ∧ p * lineStep p s h < 2 ^ 14 := by
  unfold lineStep
  split_ifs with hlow hlong
  · omega
  · have hpos : 0 < 0xFFF * 2 / p := Nat.div_pos (by omega) (by omega)
    have hmul := Nat.mul_div_le (0xFFF * 2) p
    omega
  · omega

theorem verFactor_lt {p s h : ℕ} (hh : 0 < h) : verFactor p s h < 2 ^ 16 := by
  have hdiv := Nat.div_add_mod s h
  have hmod := Nat.mod_lt s hh
  unfold verFactor
  split_ifs with heq hlt hlong
  · decide
  · rw [Nat.div_lt_iff_lt_mul (by omega)]
    omega
  · decide
  · have hpos : 0 < s / h := Nat.div_pos (by omega) hh
    have hle : h * 1 ≤ h * (s / h) := Nat.mul_le_mul_left _ hpos
    exact scaled_lt (by omega) (by omega)

/-- The length of a line in bytes, times some. -/
theorem pitch_mul {srcPitch : Int32} {p m : ℕ} {i : UInt32} (hp : Holds srcPitch p)
    (hi : i.toNat = m) (hlt : p * m < 2 ^ 32) : (srcPitch.toUInt32 * i).toNat = p * m := by
  rw [UInt32.toNat_mul, hp.toNat_toUInt32, hi, Nat.mod_eq_of_lt hlt]

theorem skipLines_spec {srcPitch srcH dstH : Int32} {p s h : ℕ} {i : UInt32}
    (hp : Holds srcPitch p) (hs : Holds srcH s) (hdst : Holds dstH h) (hi : i.toNat = s / h)
    (hp1 : 4 ≤ p) (hp2 : p ≤ 8190) (hs2 : s ≤ 2048) (hh : 24 ≤ h) (htwo : 2 ≤ s / h) :
    ∃ ver, skipLines srcPitch srcH dstH i = some ver ∧ Holds ver.vusf (verFactor p s h) ∧
      ver.pitch.elim p UInt32.toNat = p * lineStep p s h := by
  have hle : h ≤ s := by
    by_contra hlt
    rw [Nat.div_eq_of_lt (by omega)] at htwo
    omega
  have hcount : s / h ≤ 2048 := (Nat.div_le_self s h).trans hs2
  have hmul : p * (s / h) ≤ 8190 * 2048 := Nat.mul_le_mul hp2 hcount
  have hline := pitch_mul hp hi (by omega)
  have hshift : ((srcPitch.toUInt32 * i) >>> 2).toNat = p * (s / h) / 4 := by
    rw [UInt32.toNat_shiftRight, hline, Nat.shiftRight_eq_div_pow]
    rfl
  have hcond : (srcPitch.toUInt32 * i) >>> 2 > 0xFFF ↔ 0xFFF < p * (s / h) / 4 := by
    rw [gt_iff_lt, UInt32.lt_iff_toNat_lt, hshift]
    rfl
  have hnlt : ¬ s / h < 2 := by omega
  have hne : h ≠ s := by
    rintro rfl
    rw [Nat.div_self (by omega)] at htwo
    omega
  unfold skipLines verFactor lineStep
  rw [if_neg hnlt]
  by_cases hlong : 0xFFF < p * (s / h) / 4
  · obtain ⟨q, hq, hvalue⟩ :=
      (show Holds (0xFFF * 2) (0xFFF * 2) from rfl).quotient hp (by omega)
    have hstep := pitch_mul (m := 0xFFF * 2 / p) hp hvalue.toNat_toUInt32
      (by have := Nat.mul_div_le (0xFFF * 2) p; omega)
    rw [if_pos (hcond.mpr hlong), hq, if_neg hne, if_neg (by omega), if_pos ⟨htwo, hlong⟩,
      if_pos hlong]
    exact ⟨_, rfl, rfl, hstep⟩
  · have hdiv := Nat.div_add_mod s h
    have hmod := Nat.mod_lt s (show 0 < h by omega)
    have hfirst : h * 1 ≤ h * (s / h) := Nat.mul_le_mul_left _ (by omega)
    have hlines : Holds (i * dstH.toUInt32).toInt32 (h * (s / h)) := by
      have hword : (i * dstH.toUInt32).toNat = h * (s / h) := by
        rw [UInt32.toNat_mul, hi, hdst.toNat_toUInt32, Nat.mul_comm, Nat.mod_eq_of_lt (by omega)]
      have hint := Holds.toInt32 (w := i * dstH.toUInt32) (by omega)
      rwa [hword] at hint
    obtain ⟨rest, f, hrest, hvalue, hf0, hf⟩ := rest_spec hs hlines (by omega) (by omega) (by omega)
      (by omega)
    rw [if_neg (mt hcond.mp hlong), if_neg hne, if_neg (by omega), if_neg fun h => hlong h.2,
      if_neg hlong]
    simp only [hrest, Option.bind_eq_bind, Option.bind_some]
    by_cases hzero : rest = 0
    · rw [if_neg (not_not_intro hzero), ← hf0 hzero]
      exact ⟨_, rfl, hvalue, hline⟩
    · rw [if_pos hzero, hf hzero]
      exact ⟨_, rfl, hvalue, hline⟩

/-- **The height of a picture of at most 2048 lines.** -/
theorem scaleHeight_spec {srcPitch srcH dstH : Int32} {p s h : ℕ} (hp : Holds srcPitch p)
    (hs : Holds srcH s) (hdst : Holds dstH h) (hp1 : 4 ≤ p) (hp2 : p ≤ 8190) (hs2 : s ≤ 2048)
    (hh : 24 ≤ h) (hh2 : h < 2 ^ 18) :
    ∃ ver, scaleHeight srcPitch srcH dstH = some ver ∧ Holds ver.vusf (verFactor p s h) ∧
      ver.pitch.elim p UInt32.toNat = p * lineStep p s h := by
  have hstep : ∀ hlow : s / h < 2, lineStep p s h = 1 := fun hlow => if_pos hlow
  unfold scaleHeight
  by_cases heq : h = s
  · have hone : s / h < 2 := by
      rw [heq, Nat.div_self (by omega)]
      decide
    rw [if_pos ((hdst.eq_iff hs).mpr heq), hstep hone]
    refine ⟨_, rfl, ?_, (Nat.mul_one p).symm⟩
    rw [show verFactor p s h = 0 from if_pos heq]
    rfl
  · rw [if_neg (mt (hdst.eq_iff hs).mp heq)]
    by_cases hgt : s < h
    · have hzero : s / h < 2 := by
        rw [Nat.div_eq_of_lt hgt]
        decide
      obtain ⟨f, hf, hvalue⟩ := widen_spec hs hdst (by omega) (by omega)
      have hfactor : verFactor p s h = s * 2 ^ 16 / (h + 2) := by
        unfold verFactor
        rw [if_neg heq, if_pos hgt]
      rw [if_pos (show dstH > srcH from (hs.lt_iff hdst).mpr hgt), hf, hstep hzero, hfactor]
      exact ⟨_, rfl, hvalue, (Nat.mul_one p).symm⟩
    · obtain ⟨i, hi, hcount⟩ := hs.quotient hdst (by omega)
      have hword := hcount.toNat_toUInt32
      have hcond : i.toUInt32 < 2 ↔ s / h < 2 := by
        rw [UInt32.lt_iff_toNat_lt, hword]
        rfl
      rw [if_neg (show ¬ dstH > srcH from mt (hs.lt_iff hdst).mp hgt), hi]
      simp only [Option.bind_eq_bind, Option.bind_some]
      by_cases htwo : s / h < 2
      · have hone : s / h = 1 := by
          have hpos : 0 < s / h := Nat.div_pos (by omega) (by omega)
          omega
        have hrest := Nat.mod_lt s (show 0 < h by omega)
        have hdiv := Nat.div_add_mod s h
        rw [hone] at hdiv
        have hshift : Holds ((srcH - dstH) <<< 16) ((s - h) * 2 ^ 16) :=
          (hs.sub hdst (by omega)).shiftLeft (show Holds 16 16 from rfl) (by decide) (by omega)
        obtain ⟨f, hf, hvalue⟩ := hshift.quotient hdst (by omega)
        have hfactor : verFactor p s h = (s - h) * 2 ^ 16 / h := by
          unfold verFactor
          rw [if_neg heq, if_neg hgt, if_neg fun hc => by omega, hone, Nat.mul_one]
        rw [if_pos (hcond.mpr htwo), hf, hstep htwo, hfactor]
        exact ⟨_, rfl, hvalue, (Nat.mul_one p).symm⟩
      · rw [if_neg (mt hcond.mp htwo)]
        exact skipLines_spec hp hs hdst hword hp1 hp2 hs2 hh (by omega)

/-! ### Both -/

/-- The columns that the picture is scaled to. -/
def shownWidth (engine : VgaEngine) (vmode : UInt32) (o : Overlay) : ℕ :=
  effectiveWidth o.origPitch.toNat o.srcW.toNat (windowWidth engine vmode o.dstBox)

/-- What `calc_scale_factor` leaves.  The factors and the pitch are those of true integers, so that
nothing is lost in their 16 bits. -/
structure Scaled (engine : VgaEngine) (vmode : UInt32) (o o' : SISOverlayRec) : Prop where
  wHPre : shownWidth engine vmode o.toOverlay < o.srcW.toNat →
    2 ^ o'.wHPre.toNat * shownWidth engine vmode o.toOverlay ≤ o.srcW.toNat ∧
      o.srcW.toNat < 2 ^ (o'.wHPre.toNat + 1) * shownWidth engine vmode o.toOverlay
  wHPre_zero : o.srcW.toNat ≤ shownWidth engine vmode o.toOverlay → o'.wHPre.toNat = 0
  wHPre_le : o'.wHPre.toNat ≤ 7
  husf : o'.husf.toNat =
    horFactor o.srcW.toNat (shownWidth engine vmode o.toOverlay) o'.wHPre.toNat
  vusf : o'.vusf.toNat =
    verFactor o.origPitch.toNat o.srcH.toNat (windowHeight vmode o.dstBox)
  pitch : o'.pitch.toNat =
    o.origPitch.toNat * lineStep o.origPitch.toNat o.srcH.toNat (windowHeight vmode o.dstBox)
  pitch_pos : 0 < o'.pitch.toNat

/-- The fields of the registers that `set_overlay` writes. -/
structure ScaleWritten (vid : Ports) (o : SISOverlayRec) : Prop where
  hor : (vid indexViHorPostUpScaleLow).toNat + (vid indexViHorPostUpScaleHigh).toNat * 2 ^ 8 =
    o.husf.toNat
  ver : (vid indexViVerUpScaleLow).toNat + (vid indexViVerUpScaleHigh).toNat * 2 ^ 8 =
    o.vusf.toNat
  wHPre : vid indexViScaleControl &&& 0x07 = o.wHPre

theorem scaleWritten {o : SISOverlayRec} (h : o.wHPre.toNat ≤ 7) (d : Driver)
    (shiftValue : UInt32) (index : UInt8) (vid : Ports) :
    ScaleWritten (setOverlay d shiftValue o index vid) o := by
  obtain ⟨hlow, hhigh, vlow, vhigh⟩ := setOverlay_factors d shiftValue o index vid
  refine ⟨?_, ?_, setOverlay_scaleControl h⟩
  · rw [hlow, hhigh]
    exact word_bytes o.husf
  · rw [vlow, vhigh]
    exact word_bytes o.vusf

/-- How often a picture is halved by a call that returns. -/
theorem calcScaleFactor_wHPre {o o' : SISOverlayRec}
    (h : calcScaleFactor engine vmode o = some o') (hw1 : 1 ≤ o.srcW.toNat)
    (hw2 : o.srcW.toNat ≤ 2048) :
    o'.wHPre.toNat ≤ 6 ∧
      (shownWidth engine vmode o.toOverlay < o.srcW.toNat →
        2 ^ o'.wHPre.toNat * shownWidth engine vmode o.toOverlay ≤ o.srcW.toNat ∧
          o.srcW.toNat < 2 ^ (o'.wHPre.toNat + 1) * shownWidth engine vmode o.toOverlay) ∧
      (o.srcW.toNat ≤ shownWidth engine vmode o.toOverlay → o'.wHPre.toNat = 0) := by
  obtain ⟨hwidth, hwidth'⟩ := scaledWidth_holds engine vmode o.dstBox
  obtain ⟨hor, k, hhor, rfl, hk6, -, -, hk, hk0⟩ := scaleWidth_spec
    (Holds.toInt32_toUInt32 o.origPitch) (Holds.toInt32_toUInt32 o.srcW) hwidth hw1 hw2
    (Nat.le_max_left _ _) hwidth'
  unfold calcScaleFactor at h
  obtain ⟨hor', hhor', h⟩ := Option.bind_eq_some_iff.mp h
  obtain ⟨ver, -, h⟩ := Option.bind_eq_some_iff.mp h
  obtain rfl := Option.some.inj (hhor.symm.trans hhor')
  obtain rfl := Option.some.inj h
  exact ⟨hk6, hk, hk0⟩

/-- The low half of a word that is small enough. -/
theorem toUInt16_holds {x : Int32} {n : ℕ} (hx : Holds x n) (hn : n < 2 ^ 16) :
    x.toUInt32.toUInt16.toNat = n := by
  rw [UInt32.toNat_toUInt16, hx.toNat_toUInt32, Nat.mod_eq_of_lt hn]

/-- **`calc_scale_factor` returns, and what it leaves goes into the registers whole.** -/
theorem calcScaleFactor_scaled (engine : VgaEngine) (vmode : UInt32) (o : SISOverlayRec)
    (hw1 : 1 ≤ o.srcW.toNat) (hw2 : o.srcW.toNat ≤ 2048) (hh2 : o.srcH.toNat ≤ 2048)
    (hp1 : 4 ≤ o.origPitch.toNat) (hp2 : o.origPitch.toNat ≤ 8190)
    (hpitch : o.pitch = o.origPitch) :
    ∃ o', calcScaleFactor engine vmode o = some o' ∧ Scaled engine vmode o o' ∧
      ∀ d shiftValue index vid, ScaleWritten (setOverlay d shiftValue o' index vid) o' := by
  have hp := Holds.toInt32_toUInt32 o.origPitch
  obtain ⟨hwidth, hwidth'⟩ := scaledWidth_holds engine vmode o.dstBox
  obtain ⟨hheight, hheight'⟩ := scaledHeight_holds vmode o.dstBox
  have hmin : 32 ≤ windowWidth engine vmode o.dstBox := Nat.le_max_left _ _
  have hmin' : 24 ≤ windowHeight vmode o.dstBox := Nat.le_max_left _ _
  obtain ⟨hor, k, hhor, rfl, hk6, hhusf, hhusf', hk, hk0⟩ := scaleWidth_spec hp
    (Holds.toInt32_toUInt32 o.srcW) hwidth hw1 hw2 hmin hwidth'
  obtain ⟨ver, hver, hvusf, hline⟩ := scaleHeight_spec hp (Holds.toInt32_toUInt32 o.srcH) hheight
    hp1 hp2 hh2 hmin' hheight'
  obtain ⟨hstep, hlong⟩ := lineStep_spec (s := o.srcH.toNat) (h := windowHeight vmode o.dstBox)
    hp1 hp2
  have hlast : (ver.pitch.elim o.pitch UInt32.toUInt16).toNat = o.origPitch.toNat *
      lineStep o.origPitch.toNat o.srcH.toNat (windowHeight vmode o.dstBox) := by
    cases hcase : ver.pitch with
    | none =>
      rw [hcase] at hline
      rw [hpitch]
      exact hline
    | some p =>
      rw [hcase] at hline
      have hvalue : p.toNat = _ := hline
      show p.toUInt16.toNat = _
      rw [UInt32.toNat_toUInt16, hvalue, Nat.mod_eq_of_lt (by omega)]
  refine ⟨_, by unfold calcScaleFactor; dsimp only; rw [hhor, hver]; rfl, ?_,
    fun d shiftValue index vid =>
      scaleWritten (show hor.wHPre.toNat ≤ 7 by omega) d shiftValue index vid⟩
  refine ⟨hk, hk0, by show hor.wHPre.toNat ≤ 7; omega, toUInt16_holds hhusf hhusf',
    toUInt16_holds hvusf (verFactor_lt (by omega)), hlast, ?_⟩
  rw [hlast]
  exact Nat.mul_pos (by omega) hstep

/-- 720 by 576 pixels in a window of 80 by 60. -/
def sampleOverlay : SISOverlayRec where
  pixelFormat := imgfmtYV12
  pitch := 720
  origPitch := 720
  dstBox := { x1 := 0, y1 := 0, x2 := 80, y2 := 60 }
  srcW := 720
  srcH := 576
  frames := []
  keyOP := 0
  husf := 0
  vusf := 0
  intBit := 0
  wHPre := 0
  psy := 0
  psv := 0
  psu := 0
  bobEnable := 0
  lineBufSize := 0

theorem sampleOverlay_scaled :
    ∃ o', calcScaleFactor .sis300 0 sampleOverlay = some o' ∧ Scaled .sis300 0 sampleOverlay o' ∧
      ∀ d shiftValue index vid, ScaleWritten (setOverlay d shiftValue o' index vid) o' :=
  calcScaleFactor_scaled .sis300 0 sampleOverlay (by decide) (by decide) (by decide) (by decide)
    (by decide) rfl

/-- It is halved twice, after the window has been widened to 91 columns, and shows one line of nine.
-/
example : shownWidth .sis300 0 sampleOverlay.toOverlay = 91 ∧
    lineStep 720 576 (windowHeight 0 sampleOverlay.dstBox) = 9 := by decide

end Vidix.Sis
