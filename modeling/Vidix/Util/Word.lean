import Mathlib.Data.UInt
import Mathlib.Data.Nat.Bitwise
import Mathlib.Tactic.Ring
import Mathlib.Tactic.NormNum

/-!
# 32-bit words

The integers behind unsigned 32-bit arithmetic: what a wrapping difference is worth, how large a
wrapping sum or product can be, and what a word means when it is stored in a signed 32-bit
variable.
-/

namespace Vidix.Util

/-- A word read as a signed 32-bit integer. -/
theorem toInt_toInt32 (x : UInt32) :
    x.toInt32.toInt = if x.toNat < 2 ^ 31 then (x.toNat : ℤ) else (x.toNat : ℤ) - 2 ^ 32 := by
  show x.toBitVec.toInt = _
  rw [BitVec.toInt_eq_toNat_cond]
  have hx : x.toBitVec.toNat = x.toNat := rfl
  rw [hx]
  split_ifs <;> omega

/-- A signed word by its unsigned value. -/
theorem toInt_eq (x : Int32) :
    x.toInt = if x.toUInt32.toNat < 2 ^ 31 then (x.toUInt32.toNat : ℤ)
      else (x.toUInt32.toNat : ℤ) - 2 ^ 32 := by
  have h := toInt_toInt32 x.toUInt32
  rwa [Int32.toInt32_toUInt32] at h

theorem toNat_ofNat_of_lt {n : ℕ} (h : n < 2 ^ 32) : (UInt32.ofNat n).toNat = n :=
  UInt32.toNat_ofNat_of_lt' h

/-- One more step of `k`. -/
theorem ofNat_succ_mul (j k : ℕ) :
    UInt32.ofNat ((j + 1) * k) = UInt32.ofNat k + UInt32.ofNat (j * k) := by
  rw [Nat.succ_mul, Nat.add_comm, UInt32.ofNat_add]

/-- Keeping the `w` bits from bit `k` on. -/
theorem and_field (n k w : ℕ) : n &&& (2 ^ w - 1) * 2 ^ k = n / 2 ^ k % 2 ^ w * 2 ^ k := by
  apply Nat.eq_of_testBit_eq
  intro i
  rw [Nat.testBit_and, Nat.testBit_mul_two_pow, Nat.testBit_mul_two_pow, Nat.testBit_mod_two_pow,
    Nat.testBit_div_two_pow, Nat.testBit_two_pow_sub_one]
  by_cases hk : k ≤ i
  · rw [show i - k + k = i by omega, Bool.and_comm, Bool.and_assoc]
  · simp [hk]

/-- Keeping the upper `w` of `w + k` bits rounds down to a multiple of `2 ^ k`. -/
theorem and_high_bits {n k w : ℕ} (hn : n < 2 ^ (w + k)) :
    n &&& (2 ^ w - 1) * 2 ^ k = n / 2 ^ k * 2 ^ k := by
  rw [pow_add] at hn
  rw [and_field, Nat.mod_eq_of_lt (Nat.div_lt_of_lt_mul (Nat.mul_comm (2 ^ k) _ ▸ hn))]

/-- Clearing the low half of a word rounds it down to a multiple of `2 ^ 16`. -/
theorem toNat_and_high (x : UInt32) : (x &&& 0xffff0000).toNat = x.toNat / 2 ^ 16 * 2 ^ 16 := by
  rw [UInt32.toNat_and, show (0xffff0000 : UInt32).toNat = (2 ^ 16 - 1) * 2 ^ 16 from rfl]
  exact and_high_bits x.toNat_lt

/-- Clearing the low `k` bits of a word rounds it down to a multiple of `2 ^ k`. -/
theorem toNat_and_not_mask {x mask : UInt32} {k : ℕ} (hmask : mask.toNat = 2 ^ k - 1)
    (hk : k ≤ 32) : (x &&& ~~~mask).toNat = x.toNat / 2 ^ k * 2 ^ k := by
  have hnot : (~~~mask).toNat = (2 ^ (32 - k) - 1) * 2 ^ k := by
    rw [UInt32.toNat_not, hmask, Nat.sub_mul, ← pow_add, Nat.sub_add_cancel hk, Nat.one_mul]
    have hpow : 1 ≤ 2 ^ k := Nat.one_le_two_pow
    have hle : 2 ^ k ≤ 2 ^ 32 := Nat.pow_le_pow_right (by decide) hk
    show 2 ^ 32 - 1 - (2 ^ k - 1) = 2 ^ 32 - 2 ^ k
    omega
  rw [UInt32.toNat_and, hnot]
  refine and_high_bits ?_
  rw [Nat.sub_add_cancel hk]
  exact x.toNat_lt

/-- A field of a word, where it stands. -/
theorem toNat_and_field {x mask : UInt32} {k w : ℕ} (hmask : mask.toNat = (2 ^ w - 1) * 2 ^ k) :
    (x &&& mask).toNat = x.toNat / 2 ^ k % 2 ^ w * 2 ^ k := by
  rw [UInt32.toNat_and, hmask, and_field]

theorem or_and_distrib (x y z : UInt32) : (x ||| y) &&& z = (x &&& z) ||| (y &&& z) :=
  UInt32.toBitVec_inj.mp BitVec.and_or_distrib_right

/-- Clearing bits takes them away. -/
theorem toNat_and_not (x mask : UInt32) :
    (x &&& ~~~mask).toNat = x.toNat - (x &&& mask).toNat := by
  have hsplit : x.toBitVec &&& mask.toBitVec ||| x.toBitVec &&& ~~~mask.toBitVec = x.toBitVec := by
    rw [← BitVec.and_or_distrib_left, BitVec.or_not_self, BitVec.and_allOnes]
  have hdisjoint :
      (x.toBitVec &&& mask.toBitVec) &&& (x.toBitVec &&& ~~~mask.toBitVec) = 0#32 := by
    rw [BitVec.and_comm x.toBitVec (~~~_), BitVec.and_assoc, ← BitVec.and_assoc mask.toBitVec,
      BitVec.and_not_self]
    simp
  have hsum := BitVec.toNat_add_of_and_eq_zero hdisjoint
  rw [BitVec.add_eq_or_of_and_eq_zero _ _ hdisjoint, hsplit] at hsum
  change x.toNat = (x &&& mask).toNat + (x &&& ~~~mask).toNat at hsum
  omega

/-- Clearing one bit of a word. -/
theorem toNat_and_not_bit {x bit : UInt32} {k : ℕ} (hbit : bit.toNat = 2 ^ k) :
    (x &&& ~~~bit).toNat = x.toNat - x.toNat / 2 ^ k % 2 * 2 ^ k := by
  have hmask : bit.toNat = (2 ^ 1 - 1) * 2 ^ k := by rw [hbit]; ring
  rw [toNat_and_not, toNat_and_field hmask, pow_one]

/-- Shifting by less than a word multiplies. -/
theorem toNat_shiftLeft_of_lt (x : UInt32) {k : UInt32} {n : ℕ} (hk : k.toNat = n) (hn : n < 32) :
    (x <<< k).toNat = x.toNat * 2 ^ n % 2 ^ 32 := by
  rw [UInt32.toNat_shiftLeft, hk, Nat.mod_eq_of_lt hn, Nat.shiftLeft_eq]

/-- A wrapping difference `v - s * n` whose product does not exceed `v` is the true one. -/
theorem toNat_sub_mul_of_le {v s : UInt32} {n : ℕ} (hn : n < 2 ^ 32)
    (h : n * s.toNat ≤ v.toNat) : (v - s * UInt32.ofNat n).toNat = v.toNat - n * s.toNat := by
  have hv : v.toNat < 2 ^ 32 := v.toNat_lt
  have hmul : (s * UInt32.ofNat n).toNat = n * s.toNat := by
    rw [UInt32.toNat_mul, UInt32.toNat_ofNat', Nat.mod_eq_of_lt hn, Nat.mul_comm,
      Nat.mod_eq_of_lt (by omega)]
  rw [UInt32.toNat_sub, hmul]
  omega

/-- Wrapping makes sums and products smaller, if it changes them. -/
theorem toNat_add_le (a b : UInt32) : (a + b).toNat ≤ a.toNat + b.toNat := by
  rw [UInt32.toNat_add]
  exact Nat.mod_le _ _

theorem toNat_mul_le (a b : UInt32) : (a * b).toNat ≤ a.toNat * b.toNat := by
  rw [UInt32.toNat_mul]
  exact Nat.mod_le _ _

/-- A word is what is left of it when it is widened and cut again. -/
theorem toUInt32_toInt64 (x : Int32) : x.toInt64.toUInt64.toUInt32 = x.toUInt32 := by
  have hcut := congrArg Int32.toUInt32 (Int32.toInt32_toInt64 x)
  rw [← hcut]
  apply UInt32.toBitVec_inj.mp
  show x.toInt64.toBitVec.setWidth 32 = x.toInt64.toBitVec.signExtend 32
  exact (BitVec.signExtend_eq_setWidth_of_le _ (by decide)).symm

/-- A number below the top bit is not changed by setting that bit and masking it out. -/
theorem toNat_or_top_and_mask {x mask : UInt32} {k : ℕ} (hmask : mask.toNat = 2 ^ k - 1)
    (hk : k ≤ 31) (hx : x.toNat < 2 ^ k) : ((x ||| 0x80000000) &&& mask).toNat = x.toNat := by
  have hpow : 2 ^ k ≤ 2 ^ 31 := Nat.pow_le_pow_right (by decide) hk
  have hdvd : 2 ^ k ∣ 2 ^ 31 := pow_dvd_pow 2 hk
  have hor : (x ||| 0x80000000).toNat = x.toNat + 2 ^ 31 := by
    rw [UInt32.toNat_or]
    exact Nat.or_two_pow_eq_add_of_lt (lt_of_lt_of_le hx hpow)
  rw [UInt32.toNat_and, hor, hmask, Nat.and_two_pow_sub_one_eq_mod, Nat.add_mod,
    Nat.mod_eq_zero_of_dvd hdvd, Nat.add_zero, Nat.mod_mod, Nat.mod_eq_of_lt hx]

/-- The top bit tells words from `2 ^ 31` on. -/
theorem and_top_ne_zero_iff (x : UInt32) : x &&& 0x80000000 ≠ 0 ↔ 2 ^ 31 ≤ x.toNat := by
  have hx : x.toNat < 2 ^ 32 := x.toNat_lt
  have hand : (x &&& 0x80000000).toNat = x.toNat / 2 ^ 31 * 2 ^ 31 := by
    rw [UInt32.toNat_and, show (0x80000000 : UInt32).toNat = (2 ^ 1 - 1) * 2 ^ 31 from rfl]
    exact and_high_bits (by omega)
  rw [Ne, ← UInt32.toNat_inj, hand, UInt32.toNat_zero]
  omega

/-- A signed half word widened to a word. -/
theorem toNat_signExtend (x : UInt16) :
    x.toInt16.toInt32.toUInt32.toNat =
      if x.toNat < 2 ^ 15 then x.toNat else x.toNat + (2 ^ 32 - 2 ^ 16) := by
  show (x.toBitVec.signExtend 32).toNat = _
  have hx : x.toBitVec.toNat = x.toNat := rfl
  have hlt : x.toNat < 2 ^ 16 := x.toNat_lt
  rw [BitVec.toNat_signExtend, BitVec.toNat_setWidth, BitVec.msb_eq_decide, hx]
  split_ifs with h1 h2 h2
  · rw [decide_eq_true_eq] at h1
    omega
  · rw [decide_eq_true_eq] at h1
    omega
  · omega
  · rw [decide_eq_true_eq] at h1
    omega

/-- A double word whose low half is `x` is `y` iff its upper half is zero and `x` is `y`. -/
theorem high_or_eq_iff (s : UInt64) (x y : UInt32) :
    (s &&& 0xffffffff00000000) ||| x.toUInt64 = y.toUInt64 ↔ s >>> 32 = 0 ∧ x = y := by
  have hx : x.toNat < 2 ^ 32 := x.toNat_lt
  have hy : y.toNat < 2 ^ 32 := y.toNat_lt
  have hs : s.toNat < 2 ^ 64 := s.toNat_lt
  have hor : ((s &&& 0xffffffff00000000) ||| x.toUInt64).toNat =
      s.toNat / 2 ^ 32 * 2 ^ 32 + x.toNat := by
    rw [UInt64.toNat_or, UInt64.toNat_and,
      show (0xffffffff00000000 : UInt64).toNat = (2 ^ 32 - 1) * 2 ^ 32 from rfl,
      and_high_bits hs, UInt32.toNat_toUInt64, Nat.mul_comm, ← Nat.two_pow_add_eq_or_of_lt hx]
  rw [← UInt64.toNat_inj, ← UInt64.toNat_inj, ← UInt32.toNat_inj, hor, UInt32.toNat_toUInt64,
    UInt64.toNat_shiftRight, Nat.shiftRight_eq_div_pow]
  show _ ↔ s.toNat / 2 ^ 32 = 0 ∧ _
  omega

end Vidix.Util
