import Vidix.Radeon.Equiv.VideoBuffers

/-!
# The sizes of Radeon planes

A frame of `radeon_vid.c` is as large as its lines are counted by `radeon_compute_framesize`
(`pictureBytes`), rounded up to pages; the place of the second chroma plane is rounded down to 16
bytes.  Below 4 GB the true integers are what the driver computes (`sizes_of_small`).
-/

namespace Vidix.Radeon

open Util

/-- By how much the chroma planes are smaller than the luma plane, each way. -/
def chromaDiv (fourcc : UInt32) : Option ℕ :=
  if is400 fourcc then none else if is410 fourcc then some 4 else some 2

/-- The bytes of a luma line. -/
def pitchBytes (info : VidixPlayback) : ℕ :=
  lumaPitch info.src.w.toNat (radeonQueryPitch info.fourcc info.src.pitch).toNat

variable {info : VidixPlayback}

/-! ### Pages -/

/-- The rest of the last page. -/
def pageRest (n : ℕ) : ℕ := (4096 - n % 4096) % 4096

/-- The frame size: whole pages. -/
def wholePages (n : ℕ) : ℕ := (n + 4095) / 4096 * 4096

theorem wholePages_eq (n : ℕ) : wholePages n = n + pageRest n := by
  unfold wholePages pageRest
  omega

theorem pitchBytes_pos (hw : 1 ≤ info.src.w.toNat) : 0 < pitchBytes info := by
  obtain ⟨k, -, -, hk, -⟩ := radeonQueryPitch_eq info.fourcc info.src.pitch
  refine lt_of_lt_of_le hw (le_lumaPitch ?_)
  rw [hk]
  exact Nat.two_pow_pos k

/-! ### The machine's sizes -/

/-- The three kinds of planar formats. -/
theorem planar_cases {fourcc : UInt32} (hf : isPlanar fourcc = true) :
    (is420 fourcc = true ∧ is410 fourcc = false ∧ is400 fourcc = false) ∨
      (is420 fourcc = false ∧ is410 fourcc = true ∧ is400 fourcc = false) ∨
      (is420 fourcc = false ∧ is410 fourcc = false ∧ is400 fourcc = true) := by
  unfold isPlanar is420 is410 is400 at *
  simp only [Bool.or_eq_true, beq_iff_eq] at hf
  rcases hf with (((h | h) | h) | h | h) | h <;> rw [h] <;> decide

/-- A picture's lines as multiples of its chroma lines. -/
theorem exists_shape {s : ℕ} (hf : isPlanar info.fourcc = true) (hs : s ∈ chromaDiv info.fourcc) :
    ∃ t p j r, 0 < t ∧ t ≤ 2 ∧ r < 2 * t ∧ s = 2 * t ∧
      (is420 info.fourcc = true ↔ t = 1) ∧
      pitchBytes info = 2 * t * (16 * p) ∧ info.src.h.toNat = 2 * t * j + r := by
  obtain ⟨k, -, -, hk, h420, h410⟩ := radeonQueryPitch_eq info.fourcc info.src.pitch
  have hshape : ∀ t, 0 < t → t ≤ 2 → s = 2 * t → (is420 info.fourcc = true ↔ t = 1) →
      2 * t * 16 ∣ 2 ^ k → ∃ t p j r, 0 < t ∧ t ≤ 2 ∧ r < 2 * t ∧ s = 2 * t ∧
        (is420 info.fourcc = true ↔ t = 1) ∧
        pitchBytes info = 2 * t * (16 * p) ∧ info.src.h.toNat = 2 * t * j + r := by
    intro t ht ht2 hst hiff hdvd
    have hpitch : 2 * t * 16 ∣ pitchBytes info := by
      refine hdvd.trans ?_
      rw [← hk]
      exact dvd_lumaPitch _ _
    obtain ⟨p, hp⟩ := hpitch
    exact ⟨t, p, info.src.h.toNat / (2 * t), info.src.h.toNat % (2 * t), ht, ht2,
      Nat.mod_lt _ (by omega), hst, hiff, by rw [hp, Nat.mul_assoc], (Nat.div_add_mod _ _).symm⟩
  unfold chromaDiv at hs
  rcases planar_cases hf with ⟨h2, h1, h0⟩ | ⟨h2, h1, h0⟩ | ⟨h2, h1, h0⟩
  · simp only [h1, h0, Bool.false_eq_true, if_false, Option.mem_some_iff] at hs
    exact hshape 1 (by decide) (by decide) hs.symm (by simp [h2])
      (pow_dvd_pow 2 (m := 5) (h420 h2))
  · simp only [h1, h0, Bool.false_eq_true, if_false, if_true, Option.mem_some_iff] at hs
    exact hshape 2 (by decide) (by decide) hs.symm (by simp [h2])
      (pow_dvd_pow 2 (m := 6) (h410 h2 h1))
  · simp [h0] at hs

/-- The lines of a frame. -/
theorem radeonComputeFramesize_of_planar (hf : isPlanar info.fourcc = true) :
    radeonComputeFramesize info =
      ((alignUp info.src.w (radeonQueryPitch info.fourcc info.src.pitch - 1) *
        (match chromaDiv info.fourcc with
          | none => info.src.h
          | some s => info.src.h + info.src.h / UInt32.ofNat (s * s / 2))) + 4095) &&&
            ~~~4095 := by
  unfold radeonComputeFramesize chromaDiv
  dsimp only
  rcases planar_cases hf with ⟨h2, h1, h0⟩ | ⟨h2, h1, h0⟩ | ⟨h2, h1, h0⟩
  · simp only [h2, h1, h0, Bool.false_eq_true, if_false, if_true]
    rfl
  · simp only [h1, h0, Bool.false_eq_true, if_false, if_true]
    rfl
  · simp only [h0, if_true]

theorem planePitch_of_planar (hf : isPlanar info.fourcc = true) :
    planePitch info =
      alignUp info.src.w (radeonQueryPitch info.fourcc info.src.pitch - 1) := by
  unfold planePitch
  dsimp only
  rw [if_pos]
  unfold isPlanar at hf
  simp only [Bool.or_eq_true] at hf ⊢
  tauto

theorem toNat_wholePages (n : UInt32) (h : n.toNat + 4095 < 2 ^ 32) :
    ((n + 4095) &&& ~~~4095).toNat = wholePages n.toNat := by
  rw [toNat_and_not_mask (k := 12) rfl (by decide), UInt32.toNat_add]
  show (n.toNat + 4095) % 2 ^ 32 / 2 ^ 12 * 2 ^ 12 = _
  rw [Nat.mod_eq_of_lt h]
  rfl

/-- A frame size is a number of pages. -/
theorem radeonComputeFramesize_pages (info : VidixPlayback) :
    (radeonComputeFramesize info).toNat % 4096 = 0 := by
  unfold radeonComputeFramesize
  dsimp only
  rw [toNat_and_not_mask (k := 12) rfl (by decide)]
  exact Nat.mul_mod_left _ _

/-- The bytes of a picture below 4 GB, as the driver multiplies them out. -/
theorem toNat_pictureBytes (pitch h : UInt32) {div : Option ℕ}
    (hdiv : ∀ s ∈ div, s * s / 2 < 2 ^ 32)
    (hsmall : pictureBytes div pitch.toNat h.toNat < 2 ^ 32) :
    (pitch * match div with
      | none => h
      | some s => h + h / UInt32.ofNat (s * s / 2)).toNat =
      pictureBytes div pitch.toNat h.toNat := by
  unfold pictureBytes at hsmall ⊢
  rcases div with _ | s
  · rw [UInt32.toNat_mul]
    exact Nat.mod_eq_of_lt hsmall
  · have hs : (UInt32.ofNat (s * s / 2)).toNat = s * s / 2 := by
      rw [UInt32.toNat_ofNat']
      exact Nat.mod_eq_of_lt (hdiv s rfl)
    dsimp only at hsmall ⊢
    rw [UInt32.toNat_mul, UInt32.toNat_add, UInt32.toNat_div, hs, Nat.mul_mod_mod]
    exact Nat.mod_eq_of_lt hsmall

theorem chromaDiv_le {fourcc : UInt32} {s : ℕ} (hs : s ∈ chromaDiv fourcc) : s ≤ 4 := by
  unfold chromaDiv at hs
  split_ifs at hs <;> cases hs <;> decide

/-- The pitch of a planar format, modulo `2 ^ 32`. -/
theorem toNat_alignUp_pitch (info : VidixPlayback) :
    (alignUp info.src.w (radeonQueryPitch info.fourcc info.src.pitch - 1)).toNat =
      pitchBytes info % 2 ^ 32 := by
  obtain ⟨k, -, hk8, hk, -⟩ := radeonQueryPitch_eq info.fourcc info.src.pitch
  have hpow : 0 < 2 ^ k := Nat.two_pow_pos k
  have hpow32 : 2 ^ k < 2 ^ 32 := Nat.pow_lt_pow_right (by decide) (by omega)
  have hmask : (radeonQueryPitch info.fourcc info.src.pitch - 1).toNat = 2 ^ k - 1 := by
    rw [UInt32.toNat_sub, hk, show (1 : UInt32).toNat = 1 from rfl]
    omega
  unfold pitchBytes
  rw [toNat_alignUp_mod hmask (by omega), hk]

/-- The luma plane, modulo `2 ^ 32`. -/
theorem toNat_firstPlane (hf : isPlanar info.fourcc = true) :
    (firstPlane info).toNat = pitchBytes info * info.src.h.toNat % 2 ^ 32 := by
  unfold firstPlane
  rw [UInt32.toNat_mul, planePitch_of_planar hf, toNat_alignUp_pitch, Nat.mul_mod_mod,
    Nat.mul_comm]

/-- The second chroma plane, by what the first comes to. -/
theorem toNat_secondPlane {s : ℕ} (hf : isPlanar info.fourcc = true)
    (hs : s ∈ chromaDiv info.fourcc) :
    (secondPlane info).toNat =
      ((firstPlane info).toNat + (firstPlane info).toNat / (s * s)) % 2 ^ 32 := by
  obtain ⟨t, -, -, -, ht, ht2, -, hst, hiff, -, -⟩ := exists_shape hf hs
  have hshift : (firstPlane info >>> (if is420 info.fourcc then 2 else 4 : UInt32)).toNat =
      (firstPlane info).toNat / (s * s) := by
    obtain rfl | rfl : t = 1 ∨ t = 2 := by omega
    · rw [if_pos (hiff.mpr rfl), UInt32.toNat_shiftRight, Nat.shiftRight_eq_div_pow, hst]
      rfl
    · rw [if_neg (fun h => absurd (hiff.mp h) (by decide)), UInt32.toNat_shiftRight,
        Nat.shiftRight_eq_div_pow, hst]
      rfl
  show (firstPlane info + firstPlane info >>> (if is420 info.fourcc then 2 else 4 : UInt32)).toNat =
    _
  rw [UInt32.toNat_add, hshift]

theorem is400_of_chromaDiv_none {fourcc : UInt32} (h : chromaDiv fourcc = none) :
    is400 fourcc = true := by
  unfold chromaDiv at h
  split_ifs at h with h400
  exact h400

theorem is400_of_chromaDiv_some {fourcc : UInt32} {s : ℕ} (h : chromaDiv fourcc = some s) :
    is400 fourcc = false := by
  unfold chromaDiv at h
  split_ifs at h with h400 <;> exact Bool.eq_false_iff.mpr h400

/-- Below 4 GB nothing wraps around: the luma plane and the frame size are the true ones. -/
theorem sizes_of_small (hf : isPlanar info.fourcc = true) (hh : 1 ≤ info.src.h.toNat)
    (hsmall : pictureBytes (chromaDiv info.fourcc) (pitchBytes info) info.src.h.toNat + 4095 <
      2 ^ 32) :
    (firstPlane info).toNat = pitchBytes info * info.src.h.toNat ∧
      (radeonComputeFramesize info).toNat =
        wholePages (pictureBytes (chromaDiv info.fourcc) (pitchBytes info) info.src.h.toNat) := by
  have hluma : pitchBytes info * info.src.h.toNat ≤
      pictureBytes (chromaDiv info.fourcc) (pitchBytes info) info.src.h.toNat := by
    unfold pictureBytes
    split
    · exact le_rfl
    · exact Nat.mul_le_mul_left _ (Nat.le_add_right _ _)
  have hpitch : pitchBytes info ≤ pitchBytes info * info.src.h.toNat := Nat.le_mul_of_pos_right _ hh
  have halign : (alignUp info.src.w (radeonQueryPitch info.fourcc info.src.pitch - 1)).toNat =
      pitchBytes info := by
    rw [toNat_alignUp_pitch, Nat.mod_eq_of_lt (by omega)]
  refine ⟨by rw [toNat_firstPlane hf, Nat.mod_eq_of_lt (by omega)], ?_⟩
  have hdiv : ∀ s ∈ chromaDiv info.fourcc, s * s / 2 < 2 ^ 32 := by
    intro s hs
    have hle := chromaDiv_le hs
    have hmul := Nat.mul_le_mul hle hle
    omega
  rw [← halign] at hsmall ⊢
  have hbytes := toNat_pictureBytes
    (alignUp info.src.w (radeonQueryPitch info.fourcc info.src.pitch - 1)) info.src.h hdiv
    (by omega)
  rw [← hbytes] at hsmall ⊢
  rw [radeonComputeFramesize_of_planar hf]
  exact toNat_wholePages _ hsmall

/-- How the sizes of a picture with chroma lines compare. -/
structure ChromaSizes (s pitch h : ℕ) : Prop where
  luma16 : pitch * h % 16 = 0
  pos : 0 < chromaSize pitch h s
  le_step : chromaSize pitch h s ≤ chromaStep down16 s pitch h
  quarter : 4 * chromaStep down16 s pitch h ≤ pitch * h
  most : pitch * h ≤ 28 * chromaSize pitch h s
  bytes_le : pictureBytes (some s) pitch h ≤ pitch * h + 2 * chromaSize pitch h s
  ends : pitch * h + chromaStep down16 s pitch h + chromaSize pitch h s =
    pictureBytes (some s) pitch h + overhang down16 s pitch h

theorem chromaSizes {s : ℕ} (hf : isPlanar info.fourcc = true) (hs : s ∈ chromaDiv info.fourcc)
    (hw : 1 ≤ info.src.w.toNat) (hrows : info.src.h.toNat / s ≠ 0) :
    ChromaSizes s (pitchBytes info) info.src.h.toNat := by
  have hpitch := pitchBytes_pos hw
  obtain ⟨t, p, j, r, ht, ht2, hr, rfl, -, hp, hh⟩ := exists_shape hf hs
  rw [hp] at hpitch ⊢
  rw [hh] at hrows ⊢
  have hsize := chromaSize_eq (p := p) (j := j) ht hr
  have hstep := chromaStep_eq (p := p) (j := j) (r := r) roundsBy16_down16 ht
  have hj : j ≠ 0 := by
    rintro rfl
    apply hrows
    rw [Nat.mul_zero, Nat.zero_add, Nat.div_eq_of_lt hr]
  have hp0 : p ≠ 0 := by
    rintro rfl
    exact absurd hpitch (by simp)
  have hpj : 0 < p * j := Nat.mul_pos (Nat.pos_of_ne_zero hp0) (Nat.pos_of_ne_zero hj)
  refine ⟨?_, by omega, by omega, ?_, ?_, pictureBytes_le ht hr,
    step_add_chromaSize roundsBy16_down16 ht hr⟩
  · rw [show 2 * t * (16 * p) * (2 * t * j + r) = 16 * (2 * t * p * (2 * t * j + r)) by ring]
    exact Nat.mul_mod_right _ _
  · have hsquare : 4 ≤ 2 * t * (2 * t) := Nat.mul_le_mul (show 2 ≤ 2 * t by omega)
      (show 2 ≤ 2 * t by omega)
    have hdiv := Nat.div_le_div_left (a := 2 * t * (16 * p) * (2 * t * j + r)) hsquare (by decide)
    unfold chromaStep down16
    omega
  · have h28 : 2 * t * (4 * t - 1) ≤ 28 := by
      obtain rfl | rfl : t = 1 ∨ t = 2 := by omega
      · decide
      · decide
    rw [hsize]
    exact (luma_le hj hr).trans (Nat.mul_le_mul_right _ h28)

/-- Fewer lines than one chroma line stands for are counted as they are. -/
theorem pictureBytes_of_no_chroma {s : ℕ} (hs : s ∈ chromaDiv info.fourcc)
    (hrows : info.src.h.toNat / s = 0) (pitch : ℕ) :
    pictureBytes (some s) pitch info.src.h.toNat = pitch * info.src.h.toNat := by
  have hs24 : s = 2 ∨ s = 4 := by
    unfold chromaDiv at hs
    split_ifs at hs <;> cases hs <;> decide
  have hlines : info.src.h.toNat / (s * s / 2) = 0 := by
    rcases hs24 with rfl | rfl
    · exact hrows
    · omega
  show pitch * (info.src.h.toNat + info.src.h.toNat / (s * s / 2)) = _
  rw [hlines, Nat.add_zero]

end Vidix.Radeon
