import Vidix.Radeon.Basic
import Vidix.Util.Region
import Vidix.Util.Word
import Mathlib.Tactic.Positivity

/-!
# The planes of a planar picture

A planar picture of `w` by `h` pixels has a luma plane of `h` lines and, unless it is grey, two
chroma planes with a `div`-th of the lines, each a `div`-th as long.  A driver rounds the length of
a line up to a power of two and tells its caller where in a frame each plane begins.

The frame size counts whole chroma lines, in pairs of pairs for `div = 4` (`pictureBytes`).  The
second chroma plane follows the first after a `div * div`-th of the luma plane, rounded to 16 bytes
(`chromaStep`), lines that no chroma line stands for included.  What this has more than the counted
lines is the `overhang` (`step_add_chromaSize`).

All sizes here are true integers; `toNat_alignUp` connects the rounding to that of the drivers.
-/

namespace Vidix

open Util

/-- The bytes of a line of `w` pixels, rounded up to a multiple of `align`. -/
def lumaPitch (w align : ℕ) : ℕ := (w + (align - 1)) / align * align

/-- The bytes of a chroma plane beside a luma plane of `h` lines of `pitch` bytes. -/
def chromaSize (pitch h div : ℕ) : ℕ := pitch / div * (h / div)

/-- The bytes of a picture, as the drivers count them. -/
def pictureBytes (div : Option ℕ) (pitch h : ℕ) : ℕ :=
  match div with
  | none => pitch * h
  | some s => pitch * (h + h / (s * s / 2))

/-- The distance from the first chroma plane to the second. -/
def chromaStep (round : ℕ → ℕ) (s pitch h : ℕ) : ℕ := round (pitch * h / (s * s))

/-- How far the second chroma plane reaches beyond the bytes of the picture. -/
def overhang (round : ℕ → ℕ) (s pitch h : ℕ) : ℕ :=
  round (h % s * pitch / (s * s)) + 2 * pitch / s * (h / s % (s / 2))

/-- Down to a multiple of 16. -/
def down16 (n : ℕ) : ℕ := n / 16 * 16

/-- Up to a multiple of 16. -/
def up16 (n : ℕ) : ℕ := (n + 15) / 16 * 16

/-- The planes of a frame at the places `offset`; `div` is `none` for a grey picture. -/
def framePlanes (offset : VidixYuv) (pitch h : ℕ) (div : Option ℕ) : List Region :=
  ⟨offset.y.toNat, pitch * h⟩ ::
    match div with
    | none => []
    | some s => [⟨offset.u.toNat, chromaSize pitch h s⟩, ⟨offset.v.toNat, chromaSize pitch h s⟩]

/-- The chroma planes may stand in either order. -/
theorem packedIn_framePlanes_swap {n pitch h s : ℕ} {y u v : UInt32} :
    PackedIn n (framePlanes ⟨y, u, v⟩ pitch h (some s)) ↔
      PackedIn n (framePlanes ⟨y, v, u⟩ pitch h (some s)) :=
  packedIn_perm_iff ((List.Perm.swap _ _ _).cons _)

/-! ### The pitch -/

theorem le_lumaPitch {w align : ℕ} (halign : 0 < align) : w ≤ lumaPitch w align := by
  have hdiv := Nat.div_add_mod (w + (align - 1)) align
  have hmod := Nat.mod_lt (w + (align - 1)) halign
  unfold lumaPitch
  rw [Nat.mul_comm]
  omega

theorem dvd_lumaPitch (w align : ℕ) : align ∣ lumaPitch w align :=
  Nat.dvd_mul_left _ _

/-- The rounding of the drivers is that of the true integers, modulo `2 ^ 32`. -/
theorem toNat_alignUp_mod {x mask : UInt32} {k : ℕ} (hmask : mask.toNat = 2 ^ k - 1)
    (hk : k ≤ 32) : (alignUp x mask).toNat = lumaPitch x.toNat (2 ^ k) % 2 ^ 32 := by
  have hsplit : 2 ^ 32 = 2 ^ k * 2 ^ (32 - k) := by rw [← pow_add, Nat.add_sub_cancel' hk]
  unfold alignUp lumaPitch
  rw [toNat_and_not_mask hmask hk, UInt32.toNat_add, hmask, hsplit, Nat.mod_mul_right_div_self,
    Nat.mul_comm (2 ^ k), Nat.mul_mod_mul_right]

/-- The rounding of the drivers, when it does not wrap around. -/
theorem toNat_alignUp {x mask : UInt32} {k : ℕ} (hmask : mask.toNat = 2 ^ k - 1) (hk : k ≤ 32)
    (h : lumaPitch x.toNat (2 ^ k) < 2 ^ 32) :
    (alignUp x mask).toNat = lumaPitch x.toNat (2 ^ k) := by
  rw [toNat_alignUp_mod hmask hk, Nat.mod_eq_of_lt h]

/-! ### The sizes -/

/-- A rounding that leaves multiples of 16 alone, whatever is added to them. -/
def RoundsBy16 (round : ℕ → ℕ) : Prop := ∀ k m, round (16 * k + m) = 16 * k + round m

theorem roundsBy16_down16 : RoundsBy16 down16 := by
  intro k m
  unfold down16
  omega

theorem down16_mod (n : ℕ) : down16 n % 16 = 0 := Nat.mul_mod_left _ _

theorem roundsBy16_up16 : RoundsBy16 up16 := by
  intro k m
  unfold up16
  omega

section Sizes

variable {round : ℕ → ℕ} {p t j r : ℕ}

/-- A luma plane by its chroma lines `j` and the `r` lines beside them. -/
theorem chromaStep_eq (hround : RoundsBy16 round) (ht : 0 < t) :
    chromaStep round (2 * t) (2 * t * (16 * p)) (2 * t * j + r) =
      16 * (p * j) + round (r * (2 * t * (16 * p)) / (2 * t * (2 * t))) := by
  have hsplit : 2 * t * (16 * p) * (2 * t * j + r) =
      r * (2 * t * (16 * p)) + 2 * t * (2 * t) * (16 * (p * j)) := by ring
  have hpos : 0 < 2 * t * (2 * t) := by positivity
  unfold chromaStep
  rw [hsplit, Nat.add_mul_div_left _ _ hpos, Nat.add_comm, hround]

theorem chromaSize_eq (ht : 0 < t) (hr : r < 2 * t) :
    chromaSize (2 * t * (16 * p)) (2 * t * j + r) (2 * t) = 16 * (p * j) := by
  have hpos : 0 < 2 * t := by omega
  unfold chromaSize
  rw [Nat.mul_div_cancel_left _ hpos, Nat.mul_add_div hpos, Nat.div_eq_of_lt hr, Nat.add_zero,
    Nat.mul_assoc]

/-- **Where the second chroma plane ends,** beside where the picture ends. -/
theorem step_add_chromaSize (hround : RoundsBy16 round) (ht : 0 < t) (hr : r < 2 * t) :
    2 * t * (16 * p) * (2 * t * j + r) +
        chromaStep round (2 * t) (2 * t * (16 * p)) (2 * t * j + r) +
        chromaSize (2 * t * (16 * p)) (2 * t * j + r) (2 * t) =
      pictureBytes (some (2 * t)) (2 * t * (16 * p)) (2 * t * j + r) +
        overhang round (2 * t) (2 * t * (16 * p)) (2 * t * j + r) := by
  have hpos : 0 < 2 * t := by omega
  have hlines : (2 * t * j + r) / (2 * t) = j := by
    rw [Nat.mul_add_div hpos, Nat.div_eq_of_lt hr, Nat.add_zero]
  have hrest : (2 * t * j + r) % (2 * t) = r := by
    rw [Nat.mul_add_mod, Nat.mod_eq_of_lt hr]
  have hhalf : 2 * t * (2 * t) / 2 = 2 * t * t := by
    rw [show 2 * t * (2 * t) = 2 * (2 * t * t) by ring, Nat.mul_div_cancel_left _ (by decide)]
  have hpaired : (2 * t * j + r) / (2 * t * t) = j / t := by
    rw [← Nat.div_div_eq_div_mul, hlines]
  have hdouble : 2 * (2 * t * (16 * p)) / (2 * t) = 32 * p := by
    rw [show 2 * (2 * t * (16 * p)) = 2 * t * (32 * p) by ring, Nat.mul_div_cancel_left _ hpos]
  -- the chroma lines in pairs of pairs, and the odd ones
  have hpairs : 32 * (p * j) = 2 * t * (16 * p) * (j / t) + 32 * p * (j % t) := by
    calc 32 * (p * j) = 32 * (p * (t * (j / t) + j % t)) := by rw [Nat.div_add_mod]
      _ = 2 * t * (16 * p) * (j / t) + 32 * p * (j % t) := by ring
  rw [chromaStep_eq hround ht, chromaSize_eq ht hr]
  unfold pictureBytes overhang
  dsimp only
  rw [hhalf, hpaired, hlines, hrest, hdouble, Nat.mul_div_cancel_left t (by decide),
    Nat.mul_add _ (2 * t * j + r) (j / t)]
  omega

/-- The frame size counts no more than the planes have. -/
theorem pictureBytes_le (ht : 0 < t) (hr : r < 2 * t) :
    pictureBytes (some (2 * t)) (2 * t * (16 * p)) (2 * t * j + r) ≤
      2 * t * (16 * p) * (2 * t * j + r) +
        2 * chromaSize (2 * t * (16 * p)) (2 * t * j + r) (2 * t) := by
  have hsum := step_add_chromaSize (p := p) (j := j) roundsBy16_down16 ht hr
  have hover : down16 (r * (2 * t * (16 * p)) / (2 * t * (2 * t))) ≤
      overhang down16 (2 * t) (2 * t * (16 * p)) (2 * t * j + r) := by
    unfold overhang
    rw [Nat.mul_add_mod, Nat.mod_eq_of_lt hr]
    exact Nat.le_add_right _ _
  have hstep := chromaStep_eq (p := p) (j := j) (r := r) roundsBy16_down16 ht
  have hsize := chromaSize_eq (p := p) (j := j) ht hr
  omega

/-- The luma plane is not many times larger than a chroma plane that is not empty. -/
theorem luma_le (hj : j ≠ 0) (hr : r < 2 * t) :
    2 * t * (16 * p) * (2 * t * j + r) ≤ 2 * t * (4 * t - 1) * (16 * (p * j)) := by
  have hlines : 2 * t * j + r ≤ (4 * t - 1) * j := by
    have hj1 : (2 * t - 1) * 1 ≤ (2 * t - 1) * j := Nat.mul_le_mul_left _ (by omega)
    calc 2 * t * j + r ≤ 2 * t * j + (2 * t - 1) * j := by omega
      _ = (2 * t + (2 * t - 1)) * j := (Nat.add_mul _ _ _).symm
      _ = (4 * t - 1) * j := by rw [show 2 * t + (2 * t - 1) = 4 * t - 1 by omega]
  calc 2 * t * (16 * p) * (2 * t * j + r) ≤ 2 * t * (16 * p) * ((4 * t - 1) * j) :=
        Nat.mul_le_mul_left _ hlines
    _ = 2 * t * (4 * t - 1) * (16 * (p * j)) := by ring

end Sizes

end Vidix
