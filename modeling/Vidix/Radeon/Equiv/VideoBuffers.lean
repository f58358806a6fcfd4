import Vidix.Planes
import Vidix.Radeon.Equiv.Config

/-!
# The buffer addresses of a Radeon configuration

`radeon_vid_init_video` keeps the bits 4 to 27 of every address it stores
(`toNat_and_adrsMask`), and takes the offsets it reports from the addresses of the first frame
(`radeonVidInitVideo_offset`).  For an overlay and a plane that begin at multiples of 16 the
reported offset is the plane's own place, as long as no bit above the mask is lost
(`toNat_reportedOffset`, `toNat_reportedOffset_of_lt`).
-/

namespace Vidix.Radeon

open Util

/-- The planar formats. -/
def isPlanar (fourcc : UInt32) : Bool := is420 fourcc || is410 fourcc || is400 fourcc

/-- The formats whose U plane comes before the V plane. -/
def isI420 (fourcc : UInt32) : Bool := fourcc == imgfmtI420 || fourcc == imgfmtIYUV

/-- `radeon_overlay_off` as an `unsigned`. -/
def overlayBase (d : Driver) : UInt32 := d.overlayOff.toUInt32

/-- What is reported for a plane at `p` of the first frame. -/
def reportedOffset (base p : UInt32) : UInt32 := ((base + p) &&& vifBufBaseAdrsMask) - base

/-! ### The address mask -/

theorem toNat_and_adrsMask (x : UInt32) :
    (x &&& vifBufBaseAdrsMask).toNat = x.toNat % 2 ^ 28 / 16 * 16 := by
  have hmask : vifBufBaseAdrsMask.toNat = (2 ^ 28 - 1) &&& ((2 ^ 24 - 1) * 2 ^ 4) := by decide
  rw [UInt32.toNat_and, hmask, ← Nat.and_assoc, Nat.and_two_pow_sub_one_eq_mod]
  exact and_high_bits (Nat.mod_lt _ (by decide))

/-- The flag bit beside an address does not reach into it. -/
theorem or_pitchSel_and_adrsMask (x : UInt32) :
    ((x &&& vifBufBaseAdrsMask) ||| vifBufPitchSel) &&& vifBufBaseAdrsMask =
      x &&& vifBufBaseAdrsMask := by
  apply UInt32.toBitVec_inj.mp
  show (x.toBitVec &&& 0x0ffffff0#32 ||| 1#32) &&& 0x0ffffff0#32 = x.toBitVec &&& 0x0ffffff0#32
  rw [BitVec.and_comm, BitVec.and_or_distrib_left, BitVec.and_comm, BitVec.and_assoc,
    BitVec.and_self]
  simp

theorem and_adrsMask_and_adrsMask (x : UInt32) :
    (x &&& vifBufBaseAdrsMask) &&& vifBufBaseAdrsMask = x &&& vifBufBaseAdrsMask := by
  rw [UInt32.and_assoc, UInt32.and_self]

theorem toNat_reportedOffset {base p : UInt32} (hbase : base.toNat % 16 = 0)
    (hp : p.toNat % 16 = 0) :
    (reportedOffset base p).toNat =
      ((base.toNat + p.toNat) % 2 ^ 28 + (2 ^ 32 - base.toNat)) % 2 ^ 32 := by
  have hlt : base.toNat < 2 ^ 32 := base.toNat_lt
  unfold reportedOffset
  rw [UInt32.toNat_sub, toNat_and_adrsMask, UInt32.toNat_add]
  omega

/-- An overlay from 256 MB on is reported far from its planes. -/
theorem le_toNat_reportedOffset {base p : UInt32} (hbase : base.toNat % 2 ^ 16 = 0)
    (hp : p.toNat % 16 = 0) (hhigh : 2 ^ 28 ≤ base.toNat) :
    2 ^ 16 ≤ (reportedOffset base p).toNat := by
  have hlt : base.toNat < 2 ^ 32 := base.toNat_lt
  rw [toNat_reportedOffset (by omega) hp]
  omega

/-- Below 256 MB a plane is reported where it is, or 256 MB below that, modulo `2 ^ 32`. -/
theorem toNat_reportedOffset_low {base p : UInt32} (hbase : base.toNat % 16 = 0)
    (hp : p.toNat % 16 = 0) (hp28 : p.toNat < 2 ^ 28) (hlow : base.toNat < 2 ^ 28) :
    (reportedOffset base p).toNat =
      if base.toNat + p.toNat < 2 ^ 28 then p.toNat else p.toNat + 15 * 2 ^ 28 := by
  rw [toNat_reportedOffset hbase hp]
  split_ifs <;> omega

/-- A plane that ends up below 256 MB is reported where it is. -/
theorem toNat_reportedOffset_of_lt {base p : UInt32} (hbase : base.toNat % 16 = 0)
    (hp : p.toNat % 16 = 0) (h : base.toNat + p.toNat < 2 ^ 28) :
    (reportedOffset base p).toNat = p.toNat := by
  rw [toNat_reportedOffset hbase hp]
  omega

/-! ### The pitch -/

/-- The pitches that the hardware can align to are the powers of two from 16 to 256. -/
theorem usablePitch_eq (p : UInt32) :
    usablePitch p = 0 ∨
      ∃ k, 4 ≤ k ∧ k ≤ 8 ∧ (usablePitch p).toNat = 2 ^ k := by
  unfold usablePitch
  split_ifs with h
  · simp only [Bool.or_eq_true, beq_iff_eq] at h
    rcases h with (((rfl | rfl) | rfl) | rfl) | rfl
    · exact Or.inr ⟨4, by decide, by decide, rfl⟩
    · exact Or.inr ⟨5, by decide, by decide, rfl⟩
    · exact Or.inr ⟨6, by decide, by decide, rfl⟩
    · exact Or.inr ⟨7, by decide, by decide, rfl⟩
    · exact Or.inr ⟨8, by decide, by decide, rfl⟩
  · exact Or.inl rfl

/-- The pitch is a power of two, and the chroma planes have at least 16 bytes of it. -/
theorem radeonQueryPitch_eq (fourcc : UInt32) (spitch : VidixYuv) :
    ∃ k, 4 ≤ k ∧ k ≤ 8 ∧ (radeonQueryPitch fourcc spitch).toNat = 2 ^ k ∧
      (is420 fourcc = true → 5 ≤ k) ∧ (is420 fourcc = false → is410 fourcc = true → 6 ≤ k) := by
  have hpos : ∀ m < 2 ^ 8, m < (usablePitch spitch.y).toNat →
      ∃ k, 4 ≤ k ∧ k ≤ 8 ∧ (usablePitch spitch.y).toNat = 2 ^ k ∧ m < 2 ^ k := by
    intro m _ hm
    rcases usablePitch_eq spitch.y with h0 | ⟨k, h4, h8, hk⟩
    · rw [h0] at hm
      exact absurd hm (Nat.not_lt_zero _)
    · exact ⟨k, h4, h8, hk, hk ▸ hm⟩
  unfold radeonQueryPitch
  dsimp only
  split_ifs with h420 hy h410 hy hy
  · simp only [Bool.and_eq_true, decide_eq_true_eq] at hy
    obtain ⟨k, h4, h8, hk, hlt⟩ := hpos 16 (by decide) (UInt32.lt_iff_toNat_lt.mp hy.1.1)
    have h5 : 4 < k := (Nat.pow_lt_pow_iff_right (a := 2) (n := 4) (by decide)).mp hlt
    exact ⟨k, h4, h8, hk, fun _ => h5, fun h => absurd h420 (by simp [h])⟩
  · exact ⟨5, by decide, by decide, rfl, fun _ => le_rfl, fun h => absurd h420 (by simp [h])⟩
  · simp only [Bool.and_eq_true, decide_eq_true_eq] at hy
    obtain ⟨k, h4, h8, hk, hlt⟩ := hpos 63 (by decide)
      (Nat.lt_of_succ_le (UInt32.le_iff_toNat_le.mp hy.1.1))
    have h6 : 5 < k := by
      by_contra hnot
      have := Nat.pow_le_pow_right (n := 2) (by decide) (Nat.not_lt.mp hnot)
      omega
    exact ⟨k, h4, h8, hk, fun h => absurd h h420, fun _ _ => h6⟩
  · exact ⟨6, by decide, by decide, rfl, fun h => absurd h h420, fun _ _ => le_rfl⟩
  · obtain ⟨k, h4, h8, hk, -⟩ := hpos 0 (by decide)
      (Nat.lt_of_lt_of_le (by decide) (UInt32.le_iff_toNat_le.mp hy))
    exact ⟨k, h4, h8, hk, fun h => absurd h h420, fun _ h => absurd h h410⟩
  · exact ⟨4, by decide, by decide, rfl, fun h => absurd h h420, fun _ h => absurd h h410⟩

/-! ### What is reported -/

variable {d : Driver} {config : VidixPlayback}

@[simp] theorem radeonVidInitVideo_fourcc (d : Driver) (config : VidixPlayback) :
    (radeonVidInitVideo d config).2.fourcc = config.fourcc := by
  unfold radeonVidInitVideo
  dsimp only
  split_ifs <;> rfl

@[simp] theorem radeonVidInitVideo_src (d : Driver) (config : VidixPlayback) :
    (radeonVidInitVideo d config).2.src = config.src := by
  unfold radeonVidInitVideo
  dsimp only
  split_ifs <;> rfl

/-- Where the planes lie depends on the format and the source rectangle alone. -/
theorem planeOffsets_congr (p : VidixYuv) (offsets : List UInt32) :
    planeOffsets { config with dest.pitch := p, offsets := offsets } = planeOffsets config := rfl

/-- `config->offset` of a planar configuration. -/
def reportedOffsets (d : Driver) (config : VidixPlayback) : VidixYuv :=
  let off := planeOffsets config
  let y := reportedOffset (overlayBase d) off.y
  let u := reportedOffset (overlayBase d) off.u
  let v := reportedOffset (overlayBase d) off.v
  if is400 config.fourcc then { y := y, u := 0, v := 0 }
  else if isI420 config.fourcc then { y := y, u := v, v := u }
  else { y := y, u := u, v := v }

theorem radeonVidInitVideo_offset (hf : isPlanar config.fourcc = true)
    (hn : d.besr.vidNbufs ≠ 0) :
    (radeonVidInitVideo d config).2.offset = reportedOffsets d config := by
  obtain ⟨m, hm⟩ : ∃ m, d.besr.vidNbufs.toNat = m + 1 := by
    apply Nat.exists_eq_succ_of_ne_zero
    intro h0
    exact hn (UInt32.toNat_inj.mp h0)
  -- the list of offsets begins with that of frame 0
  have hhead : frameOffsets config.frameSize d.besr.vidNbufs =
      0 :: List.iterate (· + config.frameSize) config.frameSize m := by
    unfold frameOffsets
    rw [hm, List.iterate]
    simp
  -- a grey picture is not one of the swapped formats
  have hgrey : is400 config.fourcc = true →
      (config.fourcc == imgfmtI420 || config.fourcc == imgfmtIYUV) = false := by
    intro h400
    have hcode : config.fourcc = imgfmtY800 := eq_of_beq h400
    rw [hcode]
    decide
  unfold radeonVidInitVideo reportedOffsets isI420 reportedOffset overlayBase
  unfold isPlanar at hf
  dsimp only
  rw [if_pos hf, hhead, planeOffsets_congr]
  by_cases h400 : is400 config.fourcc = true
  · simp [h400, hgrey h400, and_adrsMask_and_adrsMask]
  · simp only [h400, List.map_cons, List.headD_cons, UInt32.add_zero, and_adrsMask_and_adrsMask,
      or_pitchSel_and_adrsMask, Bool.false_eq_true, if_false]

/-- The first chroma plane, as the driver places it. -/
def firstPlane (config : VidixPlayback) : UInt32 := config.src.h * planePitch config

/-- The second chroma plane. -/
def secondPlane (config : VidixPlayback) : UInt32 :=
  config.src.h * planePitch config +
    ((config.src.h * planePitch config) >>> if is420 config.fourcc then 2 else 4)

/-- The planes of a picture that is shown from its first pixel on. -/
theorem planeOffsets_of_origin (hx : config.src.x = 0) (hy : config.src.y = 0)
    (h400 : is400 config.fourcc = false) :
    planeOffsets config =
      { y := 0
        u := secondPlane config &&& vifBufBaseAdrsMask
        v := firstPlane config &&& vifBufBaseAdrsMask } := by
  unfold planeOffsets firstPlane secondPlane
  rcases is420 config.fourcc <;> simp [hx, hy, h400]

theorem planeOffsets_of_grey (hx : config.src.x = 0) (hy : config.src.y = 0)
    (h400 : is400 config.fourcc = true) : planeOffsets config = ⟨0, 0, 0⟩ := by
  unfold planeOffsets
  simp [hx, hy, h400]

end Vidix.Radeon
