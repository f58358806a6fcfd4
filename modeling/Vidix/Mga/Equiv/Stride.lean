import Vidix.Mga.Config
import Vidix.Equiv.Negotiation

/-!
# The stride of the mga driver

The rows of planes are rounded up to the 32 bytes that are reported.  Rows of packed pictures are
meant to be rounded up to eight pixels, but `(sw + 8) & ~8` adds eight pixels and clears a single
bit: what comes out is a multiple of the 16 bytes that are reported, and the right one, only for
widths next to a multiple of 16.
-/

namespace Vidix.Mga

open Util

variable {config : VidixPlayback}

/-- The bytes of a row of the first plane. -/
def rowBytes (config : VidixPlayback) : ℕ :=
  if isPlanar config.fourcc then config.src.w.toNat else config.src.w.toNat * 2

/-- The bytes between two rows, as the chip is told. -/
def chipStride (config : VidixPlayback) : ℤ :=
  if isPlanar config.fourcc then (bespitchOf config).toNat else (bespitchOf config).toNat * 2

/-- The bytes of a row in `frame_size`. -/
def sizeStride (config : VidixPlayback) : ℤ :=
  let sw := (sourceSize config).1
  if isPlanar config.fourcc then (planePitch sw).toInt else ((sw + 8) &&& ~~~8).toInt * 2

/-- The width with which the strides agree. -/
def StrideFits (config : VidixPlayback) : Prop :=
  if isPlanar config.fourcc then roundUp config.src.w.toNat 32 < 2 ^ 31
  else (config.src.w.toNat % 16 = 0 ∨ config.src.w.toNat % 16 = 15) ∧
    config.src.w.toNat + 1 < 2 ^ 31

/-! ### The words -/

theorem evenUp_toNat {x : UInt32} (hx : x.toNat < 2 ^ 31) :
    (evenUp x.toInt32).toUInt32.toNat = x.toNat + x.toNat % 2 := by
  have hbit : (x &&& 1).toNat = x.toNat % 2 := by
    rw [UInt32.toNat_and, UInt32.toNat_one, Nat.and_one_is_mod]
  show (x + (x &&& 1)).toNat = _
  rw [UInt32.toNat_add, hbit]
  omega

theorem sourceSize_fst_toNat (hw : config.src.w.toNat < 2 ^ 31) :
    (sourceSize config).1.toUInt32.toNat = config.src.w.toNat + config.src.w.toNat % 2 :=
  evenUp_toNat hw

theorem planePitch_toNat {sw : Int32} (hsw : sw.toUInt32.toNat ≤ 2 ^ 31) :
    (planePitch sw).toUInt32.toNat = (sw.toUInt32.toNat + 31) / 32 * 32 := by
  unfold planePitch
  rw [Int32.toUInt32_and, Int32.toUInt32_not, Int32.toUInt32_add,
    toNat_and_not_mask (k := 5) rfl (by decide), UInt32.toNat_add]
  show (sw.toUInt32.toNat + 31) % 2 ^ 32 / 32 * 32 = _
  omega

theorem packedPitch_toNat {sw : Int32} (hsw : sw.toUInt32.toNat ≤ 2 ^ 31) :
    ((sw + 8) &&& ~~~8).toUInt32.toNat =
      sw.toUInt32.toNat + 8 - (sw.toUInt32.toNat + 8) / 8 % 2 * 8 := by
  rw [Int32.toUInt32_and, Int32.toUInt32_not, Int32.toUInt32_add,
    toNat_and_not_bit (k := 3) rfl, UInt32.toNat_add]
  show (sw.toUInt32.toNat + 8) % 2 ^ 32 - (sw.toUInt32.toNat + 8) % 2 ^ 32 / 8 % 2 * 8 = _
  omega

/-! ### The strides -/

theorem stridesAgree_iff (hw : config.src.w.toNat < 2 ^ 31) :
    StridesAgree (chipStride config) (sizeStride config) (rowBytes config)
        (if isPlanar config.fourcc then 32 else 16) ↔ StrideFits config := by
  have hsw := sourceSize_fst_toNat hw
  have hle : (sourceSize config).1.toUInt32.toNat ≤ 2 ^ 31 := by omega
  rw [Vidix.stridesAgree_iff]
  unfold chipStride sizeStride rowBytes StrideFits bespitchOf roundUp
  cases hplanar : isPlanar config.fourcc with
  | true =>
    have hpitch := planePitch_toNat hle
    have hint := toInt_eq (planePitch (sourceSize config).1)
    have halign : (32 : UInt32).toNat = 32 := rfl
    simp only [if_true, halign]
    split_ifs at hint <;> omega
  | false =>
    have hpitch := packedPitch_toNat hle
    have hint := toInt_eq (((sourceSize config).1 + 8) &&& ~~~8)
    have halign : (16 : UInt32).toNat = 16 := rfl
    simp only [Bool.false_eq_true, if_false, halign]
    split_ifs at hint <;> omega

theorem validSizes_iff :
    validSizes config = true ↔
      4 ≤ config.src.w.toInt32.toInt ∧ 4 ≤ config.src.h.toInt32.toInt ∧
        4 ≤ config.dest.w.toInt32.toInt ∧ 4 ≤ config.dest.h.toInt32.toInt := by
  unfold validSizes
  simp only [Bool.and_eq_true, decide_eq_true_eq, Int32.le_iff_toInt_le, and_assoc]
  rfl

/-- A size that is four at least as an `int`. -/
theorem size_bounds {x : UInt32} (h : 4 ≤ x.toInt32.toInt) : 4 ≤ x.toNat ∧ x.toNat < 2 ^ 31 := by
  have hlt : x.toNat < 2 ^ 32 := x.toNat_lt
  rw [toInt_toInt32] at h
  split_ifs at h <;> omega

theorem validSizes_lt (hvalid : validSizes config = true) : config.src.w.toNat < 2 ^ 31 :=
  (size_bounds (validSizes_iff.mp hvalid).1).2

theorem vixConfigPlayback_ret (d : Driver) (config : VidixPlayback) :
    (vixConfigPlayback d config).1 =
      if !validSizes config then einval
      else if !(isPlanar config.fourcc || isPacked config.fourcc) then enotsup else 0 := by
  unfold vixConfigPlayback
  rw [apply_ite Prod.fst, apply_ite Prod.fst]
  rfl

theorem vixConfigPlayback_pitch (d : Driver) (hvalid : validSizes config = true)
    (hfourcc : (isPlanar config.fourcc || isPacked config.fourcc) = true) :
    (vixConfigPlayback d config).2.2.dest.pitch.y =
      if isPlanar config.fourcc then 32 else 16 := by
  have h : (vixConfigPlayback d config).2.2.dest.pitch =
      if isPlanar config.fourcc then ⟨32, 32, 32⟩ else ⟨16, 0, 0⟩ := by
    unfold vixConfigPlayback
    dsimp only
    have hsame : ∀ n a, validSizes { config with numFrames := n, dgaAddr := a } = true :=
      fun _ _ => hvalid
    rw [hsame, hfourcc]
    rfl
  rw [h]
  split_ifs <;> rfl

/-- What a request that is accepted is like. -/
theorem accepted (d : Driver) (h : (vixConfigPlayback d config).1 = 0) :
    config.src.w.toNat < 2 ^ 31 ∧
      (vixConfigPlayback d config).2.2.dest.pitch.y =
        if isPlanar config.fourcc then 32 else 16 := by
  rw [vixConfigPlayback_ret] at h
  split_ifs at h with hvalid hfourcc
  · exact absurd h (by decide)
  · exact absurd h (by decide)
  · rw [Bool.not_eq_true, Bool.not_eq_false'] at hvalid hfourcc
    exact ⟨validSizes_lt hvalid, vixConfigPlayback_pitch d hvalid hfourcc⟩

end Vidix.Mga
