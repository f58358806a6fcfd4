import Vidix.Util.Signed

/-!
# Signed words that hold natural numbers

`Holds x n` says that the `int` `x` is worth the natural number `n`.  As long as nothing overflows,
sums, products, shifts and divisions of such words hold what they should, and comparisons are those
of the numbers.
-/

namespace Vidix.Util

/-- The word is worth the number. -/
def Holds (x : Int32) (n : ℕ) : Prop := x.toInt = n

instance (x : Int32) (n : ℕ) : Decidable (Holds x n) := inferInstanceAs (Decidable (_ = _))

namespace Holds

variable {x y : Int32} {n m : ℕ}

theorem lt_two_pow (hx : Holds x n) : n < 2 ^ 31 := by
  have hlt := Int32.toInt_lt x
  unfold Holds at hx
  omega

theorem of_modEq {a : ℤ} (h : x.toInt ≡ a [ZMOD 2 ^ 32]) (ha : a = n) (hn : n < 2 ^ 31) :
    Holds x n := by
  have hlow := Int32.le_toInt x
  have hhigh := Int32.toInt_lt x
  unfold Int.ModEq at h
  unfold Holds
  omega

/-! ### Arithmetic -/

theorem add (hx : Holds x n) (hy : Holds y m) (h : n + m < 2 ^ 31) : Holds (x + y) (n + m) :=
  of_modEq (toInt_add_modEq (by rw [hx]) (by rw [hy])) (Nat.cast_add n m).symm h

theorem mul (hx : Holds x n) (hy : Holds y m) (h : n * m < 2 ^ 31) : Holds (x * y) (n * m) :=
  of_modEq (toInt_mul_modEq (by rw [hx]) (by rw [hy])) (Nat.cast_mul n m).symm h

theorem sub (hx : Holds x n) (hy : Holds y m) (h : m ≤ n) : Holds (x - y) (n - m) := by
  have hlt := hx.lt_two_pow
  refine of_modEq (a := (n : ℤ) - m) ?_ (Nat.cast_sub h).symm (by omega)
  rw [Int32.toInt_sub, hx, hy]
  exact Int.bmod_emod

/-- The unsigned word. -/
theorem toNat_toUInt32 (hx : Holds x n) : x.toUInt32.toNat = n := by
  have hlt := hx.lt_two_pow
  have h := Vidix.Util.toNat_toUInt32 x
  rw [hx] at h
  omega

theorem toUInt32_eq (hx : Holds x n) : x.toUInt32 = UInt32.ofNat n := by
  have hlt := hx.lt_two_pow
  apply UInt32.toNat_inj.mp
  rw [hx.toNat_toUInt32, toNat_ofNat_of_lt (by omega)]

theorem of_toUInt32 (h : x.toUInt32.toNat = n) (hn : n < 2 ^ 31) : Holds x n := by
  have hx := toInt_toInt32 x.toUInt32
  rw [Int32.toInt32_toUInt32, h, if_pos (by omega)] at hx
  exact hx

theorem toInt32 {w : UInt32} (h : w.toNat < 2 ^ 31) : Holds w.toInt32 w.toNat :=
  of_toUInt32 rfl h

theorem toInt32_toUInt32 (w : UInt16) : Holds w.toUInt32.toInt32 w.toNat := by
  have hlt := w.toNat_lt
  exact of_toUInt32 (UInt16.toNat_toUInt32 w) (by omega)

theorem shiftLeft (hx : Holds x n) (hy : Holds y m) (hm : m < 32) (h : n * 2 ^ m < 2 ^ 31) :
    Holds (x <<< y) (n * 2 ^ m) := by
  refine of_toUInt32 ?_ h
  have hmod : (y.toBitVec.smod 32).toNat = m := by
    have hint : (y.toBitVec.smod 32).toInt = m := by
      rw [BitVec.toInt_smod]
      show y.toInt.fmod 32 = m
      rw [hy, Int.fmod_eq_emod_of_nonneg _ (by decide)]
      omega
    rw [BitVec.toInt_eq_toNat_cond] at hint
    split_ifs at hint <;> omega
  show (x.toBitVec <<< (y.toBitVec.smod 32)).toNat = n * 2 ^ m
  rw [BitVec.shiftLeft_eq', BitVec.toNat_shiftLeft, hmod, Nat.shiftLeft_eq]
  show x.toUInt32.toNat * 2 ^ m % 2 ^ 32 = n * 2 ^ m
  rw [hx.toNat_toUInt32, Nat.mod_eq_of_lt (by omega)]

theorem shiftRight (hx : Holds x n) {k : ℕ} (hy : (y.toBitVec.smod 32).toNat = k) :
    Holds (x >>> y) (n / 2 ^ k) := by
  unfold Holds
  rw [toInt_shiftRight x hy, hx]
  norm_cast

/-- Clearing the low `k` bits. -/
theorem clearLow (hx : Holds x n) {mask : Int32} {k : ℕ} (hmask : mask.toUInt32.toNat = 2 ^ k - 1)
    (hk : k ≤ 32) : Holds (x &&& ~~~mask) (n / 2 ^ k * 2 ^ k) := by
  have hle : n / 2 ^ k * 2 ^ k ≤ n := Nat.div_mul_le_self _ _
  have hlt := hx.lt_two_pow
  refine of_toUInt32 ?_ (by omega)
  rw [Int32.toUInt32_and, Int32.toUInt32_not, toNat_and_not_mask hmask hk, hx.toNat_toUInt32]

/-! ### Comparisons -/

theorem lt_iff (hx : Holds x n) (hy : Holds y m) : x < y ↔ n < m := by
  rw [Int32.lt_iff_toInt_lt, hx, hy]
  exact Int.ofNat_lt

theorem le_iff (hx : Holds x n) (hy : Holds y m) : x ≤ y ↔ n ≤ m := by
  rw [Int32.le_iff_toInt_le, hx, hy]
  exact Int.ofNat_le

theorem eq_iff (hx : Holds x n) (hy : Holds y m) : x = y ↔ n = m := by
  rw [← Int32.toInt_inj, hx, hy]
  exact Int.ofNat_inj

/-! ### Division -/

theorem divides (x : Int32) (hy : Holds y m) (hm : 0 < m) : Divides x y := by
  refine ⟨fun hzero => ?_, fun hmin => ?_⟩
  · exact absurd ((hy.eq_iff (show Holds 0 0 from rfl)).mp hzero) hm.ne'
  · have hneg : Holds (-1) m := hmin.2 ▸ hy
    unfold Holds at hneg
    have hminus : (-1 : Int32).toInt = -1 := rfl
    omega

theorem div (hx : Holds x n) (hy : Holds y m) : Holds (x / y) (n / m) := by
  have hne : x ≠ Int32.minValue := by
    intro hmin
    have hint : x.toInt = -2 ^ 31 := by
      rw [hmin]
      rfl
    rw [hx] at hint
    omega
  unfold Holds
  rw [Int32.toInt_div_of_ne_left _ _ hne, hx, hy]
  exact (Int.ofNat_tdiv n m).symm

theorem mod (hx : Holds x n) (hy : Holds y m) : Holds (x % y) (n % m) := by
  unfold Holds
  rw [Int32.toInt_mod, hx, hy]
  exact (Int.ofNat_tmod n m).symm

theorem quotient (hx : Holds x n) (hy : Holds y m) (hm : 0 < m) :
    ∃ q, quotient x y = some q ∧ Holds q (n / m) :=
  ⟨x / y, if_pos (hy.divides x hm), hx.div hy⟩

theorem remainder (hx : Holds x n) (hy : Holds y m) (hm : 0 < m) :
    ∃ r, remainder x y = some r ∧ Holds r (n % m) :=
  ⟨x % y, if_pos (hy.divides x hm), hx.mod hy⟩

end Holds

end Vidix.Util
