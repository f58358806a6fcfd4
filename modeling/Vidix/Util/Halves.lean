import Vidix.Util.Word

/-!
# Two halves of a word

A register that holds two 16-bit fields is written as one word.  Both fields can be read back iff
both are below `2 ^ 16` (`unpack_iff`); otherwise the upper one is cut off, or the lower one runs
into it.  A fixed-point ratio is such a field iff its numerator is small for its denominator
(`ratio_lt_iff`).
-/

namespace Vidix.Util

/-- Two fields of 16 bits. -/
def packHalves (high low : UInt32) : UInt32 := (high <<< 16) ||| low

theorem toNat_packHalves {high low : UInt32} (hhigh : high.toNat < 2 ^ 16)
    (hlow : low.toNat < 2 ^ 16) :
    (packHalves high low).toNat = high.toNat * 2 ^ 16 + low.toNat := by
  have hshift : (high <<< 16).toNat = high.toNat <<< 16 := by
    rw [toNat_shiftLeft_of_lt (n := 16) _ rfl (by decide), Nat.shiftLeft_eq]
    exact Nat.mod_eq_of_lt (by omega)
  unfold packHalves
  rw [UInt32.toNat_or, hshift, ← Nat.shiftLeft_add_eq_or_of_lt hlow, Nat.shiftLeft_eq]

/-- **Both fields can be read back iff both fit.** -/
theorem unpack_iff {high low : UInt32} :
    packHalves high low >>> 16 = high ∧ packHalves high low &&& 0xffff = low ↔
      high.toNat < 2 ^ 16 ∧ low.toNat < 2 ^ 16 := by
  have hhalf : ∀ x : UInt32, (x >>> 16).toNat = x.toNat / 2 ^ 16 := by
    intro x
    rw [UInt32.toNat_shiftRight, show (16 : UInt32).toNat % 32 = 16 from rfl,
      Nat.shiftRight_eq_div_pow]
  have hmask : ∀ x : UInt32, (x &&& 0xffff).toNat = x.toNat % 2 ^ 16 := by
    intro x
    rw [UInt32.toNat_and]
    exact Nat.and_two_pow_sub_one_eq_mod _ 16
  constructor
  · rintro ⟨hhigh, hlow⟩
    have hlt := UInt32.toNat_lt (packHalves high low)
    rw [← UInt32.toNat_inj, hhalf] at hhigh
    rw [← UInt32.toNat_inj, hmask] at hlow
    omega
  · rintro ⟨hhigh, hlow⟩
    have hpack := toNat_packHalves hhigh hlow
    rw [← UInt32.toNat_inj, ← UInt32.toNat_inj, hhalf, hmask, hpack]
    omega

/-- A ratio with `k` bits dropped has `w` bits iff the numerator is small for the denominator. -/
theorem ratio_lt_iff {x d : ℕ} (hd : 0 < d) (k w : ℕ) :
    x / d / 2 ^ k < 2 ^ w ↔ x < 2 ^ (w + k) * d := by
  rw [Nat.div_lt_iff_lt_mul (Nat.two_pow_pos k), Nat.div_lt_iff_lt_mul hd, ← pow_add]

end Vidix.Util
