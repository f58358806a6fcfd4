import Vidix.Mach64.Equiv.Config
import Vidix.Radeon.Equiv.PlaneSizes

/-!
# The planes of a Mach64 frame

`mach64_vid.c` rounds the place of the second chroma plane up to 16 bytes and gives every frame 256
bytes more than its counted lines, "so we have some space for alignment & such".  With sources of
at most 720 by 720 nothing wraps around, and what is stored for the scaler is what is reported for
every frame that the table has a row for (`rowsAgree`).  The planes are apart iff the `overhang`
fits in the 256 bytes (`planes_agree_iff`): for 4:2:0 it always does (`overhang_420_le`), for YVU9
it does not where the chroma lines are an odd number of wide ones.
-/

namespace Vidix.Mach64

open Radeon (is420)
open Util

/-- The planar formats. -/
def isPlanar (fourcc : UInt32) : Bool := is420 fourcc || fourcc == imgfmtYVU9

/-- By how much the chroma planes are smaller than the luma plane, each way. -/
def chromaDiv (fourcc : UInt32) : ℕ := if is420 fourcc then 2 else 4

/-- The bytes of a luma line. -/
def pitchBytes (info : VidixPlayback) : ℕ :=
  lumaPitch info.src.w.toNat (mach64QueryPitch info.fourcc info.src.pitch).toNat

/-- The planes that a request tells of lie in a frame, apart from each other. -/
def PlanesApart (info : VidixPlayback) : Prop :=
  PackedIn info.frameSize.toNat
    (framePlanes info.offset (pitchBytes info) info.src.h.toNat (some (chromaDiv info.fourcc)))

/-- What the scaler reads of a plane is where it is reported, at a multiple of 16: in the words of
the driver and, unless the overlay is below zero, over the true integers. -/
structure StoredAt (overlay : Int32) (frame plane stored : UInt32) : Prop where
  eq : stored = overlay.toUInt32 + frame + plane
  aligned : stored.toNat % 16 = 0
  sum : 0 ≤ overlay.toInt → (stored.toNat : ℤ) = overlay.toInt + frame.toNat + plane.toNat

/-- Every granted frame has a row with the reported places of its planes. -/
def RowsAgree (d : Driver) (info : VidixPlayback) : Prop :=
  ∀ i < info.numFrames.toNat, ∃ o row, info.offsets[i]? = some o ∧ d.row i = some row ∧
    StoredAt d.overlayOffset o info.offset.y row.y ∧
    StoredAt d.overlayOffset o info.offset.u row.u ∧
    StoredAt d.overlayOffset o info.offset.v row.v

/-! ### The sizes -/

variable {info : VidixPlayback}

/-- The pitch of a planar format has at least 16 bytes for a chroma line. -/
theorem dvd_mach64QueryPitch {fourcc : UInt32} (spitch : VidixYuv) (hf : isPlanar fourcc = true) :
    ∃ k, k ≤ 8 ∧ (mach64QueryPitch fourcc spitch).toNat = 2 ^ k ∧
      chromaDiv fourcc * 16 ∣ (mach64QueryPitch fourcc spitch).toNat := by
  have hy : ∀ m, 2 ^ m < (Radeon.usablePitch spitch.y).toNat →
      ∃ k, k ≤ 8 ∧ (Radeon.usablePitch spitch.y).toNat = 2 ^ k ∧
        2 ^ (m + 1) ∣ (Radeon.usablePitch spitch.y).toNat := by
    intro m hm
    rcases Radeon.usablePitch_eq spitch.y with h0 | ⟨k, -, h8, hk⟩
    · rw [h0] at hm
      exact absurd hm (Nat.not_lt_zero _)
    · rw [hk] at hm ⊢
      have hlt : m < k := (Nat.pow_lt_pow_iff_right (by decide)).mp hm
      exact ⟨k, h8, rfl, pow_dvd_pow 2 hlt⟩
  unfold mach64QueryPitch chromaDiv
  dsimp only
  by_cases h420 : is420 fourcc = true
  · rw [if_pos h420, if_pos h420]
    split_ifs with h
    · simp only [Bool.and_eq_true, decide_eq_true_eq] at h
      exact hy 4 (UInt32.lt_iff_toNat_lt.mp h.1.1)
    · exact ⟨5, by decide, rfl, dvd_rfl⟩
  · have hcode : (fourcc == imgfmtYVU9) = true := by
      rw [isPlanar, Bool.or_eq_true] at hf
      exact hf.resolve_left h420
    rw [if_neg h420, if_neg h420, if_pos hcode]
    split_ifs with h
    · simp only [Bool.and_eq_true, decide_eq_true_eq] at h
      exact hy 5 (UInt32.lt_iff_toNat_lt.mp h.1.1)
    · exact ⟨6, by decide, rfl, dvd_rfl⟩

/-- A picture's lines as multiples of its chroma lines. -/
theorem exists_shape (hf : isPlanar info.fourcc = true) :
    ∃ t p j r, 0 < t ∧ t ≤ 2 ∧ r < 2 * t ∧ chromaDiv info.fourcc = 2 * t ∧
      pitchBytes info = 2 * t * (16 * p) ∧ info.src.h.toNat = 2 * t * j + r := by
  obtain ⟨k, -, hk, hdvd⟩ := dvd_mach64QueryPitch info.src.pitch hf
  obtain ⟨p, hp⟩ := hdvd.trans (dvd_lumaPitch info.src.w.toNat _)
  have ht : ∃ t, 0 < t ∧ t ≤ 2 ∧ chromaDiv info.fourcc = 2 * t := by
    unfold chromaDiv
    split_ifs
    · exact ⟨1, by decide, by decide, rfl⟩
    · exact ⟨2, by decide, by decide, rfl⟩
  obtain ⟨t, ht0, ht2, ht⟩ := ht
  refine ⟨t, p, info.src.h.toNat / (2 * t), info.src.h.toNat % (2 * t), ht0, ht2,
    Nat.mod_lt _ (by omega), ht, ?_, (Nat.div_add_mod _ _).symm⟩
  rw [ht, Nat.mul_assoc] at hp
  exact hp

theorem Small.pitchBytes_le (h : Small info) (hf : isPlanar info.fourcc = true) :
    pitchBytes info ≤ 975 := by
  obtain ⟨k, hk8, hk, -⟩ := dvd_mach64QueryPitch info.src.pitch hf
  have hpow : 2 ^ k ≤ 2 ^ 8 := Nat.pow_le_pow_right (by decide) hk8
  have hpos := Nat.two_pow_pos k
  have hdiv := Nat.div_mul_le_self (info.src.w.toNat + (2 ^ k - 1)) (2 ^ k)
  have hw := h.width_le
  unfold pitchBytes lumaPitch
  rw [hk]
  omega

/-- The bytes of a small picture. -/
theorem Small.bytes_le (h : Small info) (hf : isPlanar info.fourcc = true) :
    pitchBytes info * info.src.h.toNat ≤ 975 * 720 ∧
      pictureBytes (some (chromaDiv info.fourcc)) (pitchBytes info) info.src.h.toNat ≤
        975 * 1080 := by
  have hpitch := h.pitchBytes_le hf
  have hh := h.height_le
  have hhalf : 2 ≤ chromaDiv info.fourcc * chromaDiv info.fourcc / 2 := by
    unfold chromaDiv
    split_ifs <;> decide
  have hdiv := Nat.div_le_div_left (a := info.src.h.toNat) hhalf (by decide)
  exact ⟨Nat.mul_le_mul hpitch hh, Nat.mul_le_mul hpitch (by omega)⟩

/-- The driver's pitch is the true one. -/
theorem Small.toNat_alignUp (h : Small info) (hf : isPlanar info.fourcc = true) :
    (alignUp info.src.w (mach64QueryPitch info.fourcc info.src.pitch - 1)).toNat =
      pitchBytes info := by
  have hpitch := h.pitchBytes_le hf
  obtain ⟨k, hk8, hk, -⟩ := dvd_mach64QueryPitch info.src.pitch hf
  have hpow : 2 ^ k ≤ 2 ^ 8 := Nat.pow_le_pow_right (by decide) hk8
  have hpos := Nat.two_pow_pos k
  have hmask : (mach64QueryPitch info.fourcc info.src.pitch - 1).toNat = 2 ^ k - 1 := by
    rw [UInt32.toNat_sub, hk, show (1 : UInt32).toNat = 1 from rfl]
    omega
  unfold pitchBytes at hpitch ⊢
  rw [hk] at hpitch ⊢
  exact Vidix.toNat_alignUp hmask (by omega) (by omega)

theorem pictureBytes_mod (hf : isPlanar info.fourcc = true) :
    pictureBytes (some (chromaDiv info.fourcc)) (pitchBytes info) info.src.h.toNat % 32 = 0 := by
  obtain ⟨t, p, -, -, -, -, -, -, hp, -⟩ := exists_shape hf
  unfold pictureBytes
  dsimp only
  rw [hp, show ∀ m, 2 * t * (16 * p) * m = 32 * (t * p * m) by intro m; ring]
  exact Nat.mul_mod_right _ _

/-- The frame size: the counted bytes and the space for alignment.  Clearing bit 4 changes nothing,
since no part of the sum is an odd multiple of 16. -/
theorem Small.toNat_frameSize (h : Small info) (hf : isPlanar info.fourcc = true) :
    (mach64ComputeFramesize info).toNat =
      pictureBytes (some (chromaDiv info.fourcc)) (pitchBytes info) info.src.h.toNat + 256 := by
  have hbytes := (h.bytes_le hf).2
  have hh := h.height_le
  have halign := h.toNat_alignUp hf
  have hplane : ∀ k : UInt32, k.toNat = chromaDiv info.fourcc * chromaDiv info.fourcc / 2 →
      (alignUp info.src.w (mach64QueryPitch info.fourcc info.src.pitch - 1) *
        (info.src.h + info.src.h / k)).toNat =
          pictureBytes (some (chromaDiv info.fourcc)) (pitchBytes info) info.src.h.toNat := by
    intro k hk
    have hle : info.src.h.toNat / k.toNat ≤ info.src.h.toNat := Nat.div_le_self _ _
    unfold pictureBytes at hbytes ⊢
    dsimp only at hbytes ⊢
    rw [UInt32.toNat_mul, UInt32.toNat_add, UInt32.toNat_div, halign, ← hk,
      Nat.mod_eq_of_lt (by omega : info.src.h.toNat + info.src.h.toNat / k.toNat < 2 ^ 32)]
    rw [← hk] at hbytes
    exact Nat.mod_eq_of_lt (by omega)
  have heven := pictureBytes_mod hf
  have hslack : ∀ size : UInt32, size.toNat = pictureBytes (some (chromaDiv info.fourcc))
      (pitchBytes info) info.src.h.toNat → ((size + 256) &&& ~~~16).toNat =
        pictureBytes (some (chromaDiv info.fourcc)) (pitchBytes info) info.src.h.toNat + 256 := by
    intro size hsize
    have hsum : (size + 256).toNat = size.toNat + 256 := by
      rw [UInt32.toNat_add, show (256 : UInt32).toNat = 256 from rfl]
      omega
    rw [toNat_and_not_bit (k := 4) rfl, hsum, hsize]
    omega
  unfold mach64ComputeFramesize
  dsimp only
  by_cases h420 : is420 info.fourcc = true
  · rw [if_pos h420]
    exact hslack _ (hplane 2 (by rw [chromaDiv, if_pos h420]; rfl))
  · have hcode : (info.fourcc == imgfmtYVU9) = true := by
      rw [isPlanar, Bool.or_eq_true] at hf
      exact hf.resolve_left h420
    rw [if_neg h420, if_pos hcode]
    exact hslack _ (hplane 8 (by rw [chromaDiv, if_neg h420]; rfl))

/-! ### The places -/

/-- The first chroma plane, as the driver places it. -/
def firstPlane (config : VidixPlayback) : UInt32 :=
  ((linePitch config).1 * config.src.h + 15) &&& ~~~15

/-- The second chroma plane. -/
def secondPlane (config : VidixPlayback) : UInt32 :=
  (firstPlane config +
    (((linePitch config).1 * config.src.h) >>> if is420 config.fourcc then 2 else 4) + 15) &&& ~~~15

/-- The reported places of a picture that is shown from its first pixel on. -/
def reportedOffset (config : VidixPlayback) : VidixYuv :=
  if Radeon.isI420 config.fourcc then
    { y := 0, u := secondPlane config, v := firstPlane config }
  else { y := 0, u := firstPlane config, v := secondPlane config }

/-- The scaler starts where the planes are reported. -/
theorem planeOffsets_of_origin (hf : isPlanar info.fourcc = true) (hx : info.src.x = 0)
    (hy : info.src.y = 0) : planeOffsets info = (reportedOffset info, reportedOffset info) := by
  unfold planeOffsets reportedOffset secondPlane firstPlane Radeon.isI420
  by_cases h420 : is420 info.fourcc = true
  · simp only [h420, if_true, hx, hy]
    split_ifs <;> simp
  · have hcode : (info.fourcc == imgfmtYVU9) = true := by
      rw [isPlanar, Bool.or_eq_true] at hf
      exact hf.resolve_left h420
    have hnot : (info.fourcc == imgfmtI420 || info.fourcc == imgfmtIYUV) = false := by
      rw [eq_of_beq hcode]
      decide
    simp [h420, hcode, hnot, hx, hy]

theorem Small.toNat_linePitch (h : Small info) (hf : isPlanar info.fourcc = true) :
    (linePitch info).1.toNat = pitchBytes info := by
  unfold linePitch
  dsimp only
  rw [if_pos (show (is420 info.fourcc || info.fourcc == imgfmtYVU9) = true from hf)]
  exact h.toNat_alignUp hf

theorem Small.toNat_luma (h : Small info) (hf : isPlanar info.fourcc = true) :
    ((linePitch info).1 * info.src.h).toNat = pitchBytes info * info.src.h.toNat := by
  have hbytes := (h.bytes_le hf).1
  rw [UInt32.toNat_mul, h.toNat_linePitch hf, Nat.mod_eq_of_lt (by omega)]

/-- The luma plane is a multiple of 16. -/
theorem luma_mod (hf : isPlanar info.fourcc = true) :
    pitchBytes info * info.src.h.toNat % 16 = 0 := by
  obtain ⟨t, p, -, -, -, -, -, -, hp, -⟩ := exists_shape hf
  rw [hp, show 2 * t * (16 * p) * info.src.h.toNat = 16 * (2 * t * p * info.src.h.toNat) by ring]
  exact Nat.mul_mod_right _ _

theorem Small.toNat_firstPlane (h : Small info) (hf : isPlanar info.fourcc = true) :
    (firstPlane info).toNat = pitchBytes info * info.src.h.toNat := by
  have hbytes := (h.bytes_le hf).1
  have h16 := luma_mod hf
  unfold firstPlane
  rw [toNat_and_not_mask (k := 4) rfl (by decide), UInt32.toNat_add, h.toNat_luma hf,
    show (15 : UInt32).toNat = 15 from rfl]
  omega

theorem Small.toNat_secondPlane (h : Small info) (hf : isPlanar info.fourcc = true) :
    (secondPlane info).toNat = pitchBytes info * info.src.h.toNat +
      chromaStep up16 (chromaDiv info.fourcc) (pitchBytes info) info.src.h.toNat := by
  have hbytes := (h.bytes_le hf).1
  have h16 := luma_mod hf
  have hshift : (((linePitch info).1 * info.src.h) >>>
      (if is420 info.fourcc then 2 else 4 : UInt32)).toNat = pitchBytes info * info.src.h.toNat /
        (chromaDiv info.fourcc * chromaDiv info.fourcc) := by
    rw [UInt32.toNat_shiftRight, h.toNat_luma hf, Nat.shiftRight_eq_div_pow]
    unfold chromaDiv
    split_ifs <;> rfl
  have hle := Nat.div_le_self (pitchBytes info * info.src.h.toNat)
    (chromaDiv info.fourcc * chromaDiv info.fourcc)
  unfold secondPlane chromaStep up16
  rw [toNat_and_not_mask (k := 4) rfl (by decide), UInt32.toNat_add, UInt32.toNat_add, hshift,
    h.toNat_firstPlane hf, show (15 : UInt32).toNat = 15 from rfl]
  generalize pitchBytes info * info.src.h.toNat /
    (chromaDiv info.fourcc * chromaDiv info.fourcc) = step at hle ⊢
  omega

theorem Small.firstPlane_le (h : Small info) (hf : isPlanar info.fourcc = true) :
    (firstPlane info).toNat % 16 = 0 ∧ (firstPlane info).toNat ≤ 2 * (975 * 720) := by
  have hbytes := (h.bytes_le hf).1
  have h16 := luma_mod hf
  rw [h.toNat_firstPlane hf]
  omega

theorem Small.secondPlane_le (h : Small info) (hf : isPlanar info.fourcc = true) :
    (secondPlane info).toNat % 16 = 0 ∧ (secondPlane info).toNat ≤ 2 * (975 * 720) := by
  have hbytes := (h.bytes_le hf).1
  have h16 := luma_mod hf
  have hdiv : pitchBytes info * info.src.h.toNat / (chromaDiv info.fourcc * chromaDiv info.fourcc) ≤
      pitchBytes info * info.src.h.toNat / 4 := by
    apply Nat.div_le_div_left _ (by decide)
    unfold chromaDiv
    split_ifs <;> decide
  rw [h.toNat_secondPlane hf]
  unfold chromaStep up16
  omega

/-! ### The layout -/

/-- Fewer lines than one chroma line stands for leave no large overhang. -/
theorem Small.overhang_le_of_flat (h : Small info) (hf : isPlanar info.fourcc = true)
    (hrows : info.src.h.toNat / chromaDiv info.fourcc = 0) :
    overhang up16 (chromaDiv info.fourcc) (pitchBytes info) info.src.h.toNat ≤ 256 := by
  have hpitch := h.pitchBytes_le hf
  have hdiv : ∀ s a, s = 2 ∨ s = 4 → a < s → a * pitchBytes info / (s * s) ≤ 243 := by
    rintro s a (rfl | rfl) ha
    · have hmul := Nat.mul_le_mul (show a ≤ 1 by omega) hpitch
      omega
    · have hmul := Nat.mul_le_mul (show a ≤ 3 by omega) hpitch
      omega
  have hs : chromaDiv info.fourcc = 2 ∨ chromaDiv info.fourcc = 4 := by
    unfold chromaDiv
    split_ifs <;> decide
  have hrest := hdiv _ (info.src.h.toNat % chromaDiv info.fourcc) hs
    (Nat.mod_lt _ (by omega))
  unfold overhang up16
  rw [hrows, Nat.zero_mod, Nat.mul_zero, Nat.add_zero]
  omega

/-- For 4:2:0 the space for alignment is always enough. -/
theorem Small.overhang_420_le (h : Small info) (h420 : is420 info.fourcc = true) :
    overhang up16 (chromaDiv info.fourcc) (pitchBytes info) info.src.h.toNat ≤ 256 := by
  have hf : isPlanar info.fourcc = true := by
    unfold isPlanar
    rw [h420, Bool.true_or]
  have hpitch := h.pitchBytes_le hf
  have hmul := Nat.mul_le_mul (show info.src.h.toNat % 2 ≤ 1 by omega) hpitch
  unfold overhang up16 chromaDiv
  rw [if_pos h420, show 2 / 2 = 1 from rfl, Nat.mod_one, Nat.mul_zero, Nat.add_zero]
  omega

/-- Planes at the reported places are apart iff the overhang fits in the space for alignment. -/
theorem Small.packedIn_iff (h : Small info) (hf : isPlanar info.fourcc = true)
    (hw : 1 ≤ info.src.w.toNat) (hh : 1 ≤ info.src.h.toNat) :
    PackedIn (mach64ComputeFramesize info).toNat (framePlanes (reportedOffset info)
        (pitchBytes info) info.src.h.toNat (some (chromaDiv info.fourcc))) ↔
      overhang up16 (chromaDiv info.fourcc) (pitchBytes info) info.src.h.toNat ≤ 256 := by
  have hswap : PackedIn (mach64ComputeFramesize info).toNat (framePlanes (reportedOffset info)
        (pitchBytes info) info.src.h.toNat (some (chromaDiv info.fourcc))) ↔
      PackedIn (mach64ComputeFramesize info).toNat
        [⟨0, pitchBytes info * info.src.h.toNat⟩,
          ⟨(firstPlane info).toNat,
            chromaSize (pitchBytes info) info.src.h.toNat (chromaDiv info.fourcc)⟩,
          ⟨(secondPlane info).toNat,
            chromaSize (pitchBytes info) info.src.h.toNat (chromaDiv info.fourcc)⟩] := by
    unfold reportedOffset
    split_ifs
    · exact packedIn_framePlanes_swap
    · exact Iff.rfl
  rw [hswap, packedIn_three_iff, h.toNat_frameSize hf, h.toNat_firstPlane hf,
    h.toNat_secondPlane hf]
  obtain ⟨t, p, j, r, ht, -, hr, hs, hp, hlines⟩ := exists_shape hf
  have hends := step_add_chromaSize (p := p) (j := j) roundsBy16_up16 ht hr
  have hstep := chromaStep_eq (p := p) (j := j) (r := r) roundsBy16_up16 ht
  have hsize := chromaSize_eq (p := p) (j := j) ht hr
  rw [← hp, ← hlines, ← hs] at hends hstep hsize
  have hluma : pitchBytes info * info.src.h.toNat ≤
      pictureBytes (some (chromaDiv info.fourcc)) (pitchBytes info) info.src.h.toNat :=
    Nat.mul_le_mul_left _ (Nat.le_add_right _ _)
  by_cases hrows : info.src.h.toNat / chromaDiv info.fourcc = 0
  · have hzero : chromaSize (pitchBytes info) info.src.h.toNat (chromaDiv info.fourcc) = 0 := by
      unfold chromaSize
      rw [hrows, Nat.mul_zero]
    refine iff_of_true ?_ (h.overhang_le_of_flat hf hrows)
    omega
  · have hpitch : 0 < pitchBytes info := by
      obtain ⟨k, -, hk, -⟩ := dvd_mach64QueryPitch info.src.pitch hf
      refine lt_of_lt_of_le hw (le_lumaPitch ?_)
      rw [hk]
      exact Nat.two_pow_pos k
    have hlumapos : 0 < pitchBytes info * info.src.h.toNat := Nat.mul_pos hpitch hh
    have hpos : 0 < chromaSize (pitchBytes info) info.src.h.toNat (chromaDiv info.fourcc) := by
      have hdvd : chromaDiv info.fourcc ≤ pitchBytes info := by
        rw [hp, hs]
        have hp0 : 0 < p := Nat.pos_of_ne_zero fun h0 => by
          rw [hp, h0] at hpitch
          exact absurd hpitch (by simp)
        exact Nat.le_mul_of_pos_right _ (by omega)
      exact Nat.mul_pos (Nat.div_pos hdvd (by omega)) (Nat.pos_of_ne_zero hrows)
    omega

/-! ### `vixConfigPlayback` -/

variable {d d' : Driver} {info' : VidixPlayback}

/-- The overlay begins at a multiple of 64 KB. -/
theorem search_aligned (h0 : (search d info).1 ≠ 0) :
    (search d info).2.toUInt32.toNat % 2 ^ 16 = 0 := by
  have hplace : (search d info).2 = overlayOffAt _ _ _ := placeFrames_snd (Nat.pos_of_ne_zero h0)
  rw [hplace, overlayOffAt, UInt32.toUInt32_toInt32, toNat_and_high]
  exact Nat.mul_mod_left _ _

/-- The place of a plane of a frame, both at multiples of 16, is stored as it is reported. -/
theorem storedAt_of_aligned {overlay : Int32} {frame plane : UInt32}
    (hoverlay : overlay.toUInt32.toNat % 16 = 0) (hframe : frame.toNat % 16 = 0)
    (hplane : plane.toNat % 16 = 0) (hsum : frame.toNat + plane.toNat < 2 ^ 31) :
    StoredAt overlay frame plane ((overlay.toUInt32 + frame + plane) &&& ~~~15) := by
  have hmask : ((overlay.toUInt32 + frame + plane) &&& ~~~15).toNat =
      (overlay.toUInt32.toNat + frame.toNat + plane.toNat) % 2 ^ 32 := by
    rw [toNat_and_not_mask (k := 4) rfl (by decide), UInt32.toNat_add, UInt32.toNat_add]
    omega
  refine ⟨?_, by rw [hmask]; omega, ?_⟩
  · apply UInt32.toNat_inj.mp
    rw [hmask, UInt32.toNat_add, UInt32.toNat_add]
    omega
  · intro hnonneg
    rw [hmask]
    rw [toInt_eq] at hnonneg ⊢
    have hlt := UInt32.toNat_lt overlay.toUInt32
    split_ifs at hnonneg ⊢ <;> omega

/-- Rows that agree are rows of the table. -/
theorem RowsAgree.le_rows (h : RowsAgree d info) : info.numFrames.toNat ≤ bufferRows := by
  by_contra hmany
  obtain ⟨-, row, -, hrow, -⟩ := h bufferRows (Nat.not_le.mp hmany)
  have hnone : d.row bufferRows = none :=
    congrArg (Option.map d.bufferBase) (slot_eq_none_iff.mpr le_rfl)
  rw [hnone] at hrow
  cases hrow

/-- **Every granted frame has its planes stored where they are reported,** if the table has a row
for each. -/
theorem rowsAgree (hf : isPlanar info.fourcc = true) (hx : info.src.x = 0) (hy : info.src.y = 0)
    (h : Accepted d info d' info') (hrows : info'.numFrames.toNat ≤ bufferRows) :
    RowsAgree d' info' := by
  intro i hi
  have hrows' : bufferRows = 64 := rfl
  have ho := frameOffsets_getElem info'.frameSize info'.numFrames hi
  rw [← h.offsets] at ho
  have hplaces := planeOffsets_of_origin hf hx hy
  have hrow : d'.row i = some
      { y := (d'.overlayOffset.toUInt32 + info'.frameSize * UInt32.ofNat i + info'.offset.y) &&&
          ~~~15
        u := (d'.overlayOffset.toUInt32 + info'.frameSize * UInt32.ofNat i + info'.offset.u) &&&
          ~~~15
        v := (d'.overlayOffset.toUInt32 + info'.frameSize * UInt32.ofNat i + info'.offset.v) &&&
          ~~~15 } := by
    rw [h.row_eq hi (by omega), bufferRowsAt, List.getElem?_map, ho, h.offset, hplaces]
    rfl
  -- frames and planes are multiples of 16, and too small to wrap around
  have hbytes := (h.small.bytes_le hf).2
  have hmod := pictureBytes_mod hf
  have hsize := h.small.toNat_frameSize hf
  rw [← h.frameSize] at hsize
  have hframe : (info'.frameSize * UInt32.ofNat i).toNat = i * info'.frameSize.toNat := by
    have hmul := Nat.mul_le_mul (show i ≤ 1024 by omega)
      (show info'.frameSize.toNat ≤ 975 * 1080 + 256 by omega)
    rw [UInt32.toNat_mul, UInt32.toNat_ofNat', Nat.mod_eq_of_lt (by omega : i < 2 ^ 32),
      Nat.mul_comm, Nat.mod_eq_of_lt (by omega)]
  have hframe16 : (info'.frameSize * UInt32.ofNat i).toNat % 16 = 0 := by
    obtain ⟨m, hm⟩ := Nat.dvd_of_mod_eq_zero (show info'.frameSize.toNat % 16 = 0 by omega)
    rw [hframe, hm, show i * (16 * m) = 16 * (i * m) by ring]
    exact Nat.mul_mod_right _ _
  have hframele : (info'.frameSize * UInt32.ofNat i).toNat ≤ 1024 * (975 * 1080 + 256) := by
    rw [hframe]
    exact Nat.mul_le_mul (by omega) (by omega)
  have hoverlay : d'.overlayOffset.toUInt32.toNat % 16 = 0 := by
    have haligned := search_aligned h.found
    rw [h.overlayOffset]
    omega
  have hstored : ∀ p : UInt32, p.toNat % 16 = 0 → p.toNat ≤ 2 * (975 * 720) →
      StoredAt d'.overlayOffset (info'.frameSize * UInt32.ofNat i) p
        ((d'.overlayOffset.toUInt32 + info'.frameSize * UInt32.ofNat i + p) &&& ~~~15) :=
    fun p hp hple => storedAt_of_aligned hoverlay hframe16 hp (by omega)
  have hfirst := h.small.firstPlane_le hf
  have hsecond := h.small.secondPlane_le hf
  refine ⟨_, _, ho, hrow, ?_⟩
  rw [h.offset, hplaces]
  unfold reportedOffset
  split_ifs
  · exact ⟨hstored _ rfl (Nat.zero_le _), hstored _ hsecond.1 hsecond.2,
      hstored _ hfirst.1 hfirst.2⟩
  · exact ⟨hstored _ rfl (Nat.zero_le _), hstored _ hfirst.1 hfirst.2,
      hstored _ hsecond.1 hsecond.2⟩

/-- **The planes of an accepted request lie in their frame and apart, and are stored where they are
reported, iff the overhang of the second chroma plane fits in the space for alignment** and the
tests of the search let through only numbers of frames for which the table has rows. -/
theorem planes_agree_iff (d d' : Driver) (info info' : VidixPlayback)
    (hf : isPlanar info.fourcc = true) (hx : info.src.x = 0) (hy : info.src.y = 0)
    (hw : 1 ≤ info.src.w.toNat) (hh : 1 ≤ info.src.h.toNat)
    (h : vixConfigPlayback d info = some (0, d', info')) :
    PlanesApart info' ∧ RowsAgree d' info' ↔
      overhang up16 (chromaDiv info.fourcc) (pitchBytes info) info.src.h.toNat ≤ 256 ∧
        RowsSuffice (mach64RamSize d.regs) (mach64ComputeFramesize info) (rgbSize d.regs)
          (cappedFrames info.numFrames).toNat := by
  have hacc := vixConfigPlayback_accepted h
  have hapart : PlanesApart info' ↔
      overhang up16 (chromaDiv info.fourcc) (pitchBytes info) info.src.h.toNat ≤ 256 := by
    rw [← hacc.small.packedIn_iff hf hw hh]
    unfold PlanesApart pitchBytes
    rw [hacc.frameSize, hacc.offset, hacc.fourcc, hacc.src, planeOffsets_of_origin hf hx hy]
  have hrows : RowsAgree d' info' ↔
      RowsSuffice (mach64RamSize d.regs) (mach64ComputeFramesize info) (rgbSize d.regs)
        (cappedFrames info.numFrames).toNat := by
    rw [rowsSuffice_iff (cappedFrames info.numFrames) d.overlayOffset]
    show RowsAgree d' info' ↔ (search d info).1 ≤ bufferRows
    rw [← hacc.toNat_numFrames]
    exact ⟨RowsAgree.le_rows, rowsAgree hf hx hy hacc⟩
  rw [hapart, hrows]

/-- Two pictures of 352x288 are laid out and stored on the sample card. -/
theorem planes_agree_sample :
    ∃ d' info', vixConfigPlayback sampleDriver (sampleRequest imgfmtI420 352 288 2) =
        some (0, d', info') ∧ PlanesApart info' ∧ RowsAgree d' info' := by
  have hsearch : Searches sampleDriver (sampleRequest imgfmtI420 352 288 2) :=
    ⟨by decide, by decide, by decide, by decide, by decide⟩
  obtain ⟨d', info', h, -⟩ := vixConfigPlayback_of_searches hsearch (by decide)
  refine ⟨d', info', h, (planes_agree_iff sampleDriver d' (sampleRequest imgfmtI420 352 288 2) info'
    (by decide) rfl rfl (by decide) (by decide) h).mpr ⟨?_, RowsSuffice.of_le ?_⟩⟩
  · decide
  · decide

/-- **Seven lines of 720 pixels in YVU9 have one chroma line that the frame size does not count:**
the second chroma plane begins 80 bytes behind the frame. -/
theorem vixConfigPlayback_chroma_outside :
    ∃ d' info', vixConfigPlayback sampleDriver (sampleRequest imgfmtYVU9 720 7 2) =
        some (0, d', info') ∧ info'.frameSize = 5632 ∧ info'.offset = ⟨0, 5376, 5712⟩ ∧
      ¬ PlanesApart info' := by
  have hsearch : Searches sampleDriver (sampleRequest imgfmtYVU9 720 7 2) :=
    ⟨by decide, by decide, by decide, by decide, by decide⟩
  obtain ⟨d', info', h, -⟩ := vixConfigPlayback_of_searches hsearch (by decide)
  have hacc := vixConfigPlayback_accepted h
  have hsize : info'.frameSize = 5632 := by
    rw [hacc.frameSize]
    decide
  have hoffset : info'.offset = ⟨0, 5376, 5712⟩ := by
    rw [hacc.offset]
    decide
  refine ⟨d', info', h, hsize, hoffset, fun hapart => ?_⟩
  unfold PlanesApart pitchBytes at hapart
  rw [hsize, hoffset, hacc.fourcc, hacc.src] at hapart
  have hplanes := packedIn_three_iff.mp hapart
  revert hplanes
  decide

end Vidix.Mach64
