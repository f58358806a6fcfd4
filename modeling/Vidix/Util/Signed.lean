import Vidix.Util.Word
import Mathlib.Data.Int.ModEq

/-!
# Signed 32-bit arithmetic modulo `2 ^ 32`

Sums, products and roundings of signed words wrap, but they are what they should be modulo
`2 ^ 32`, and that is all that is left of a result which is stored in an unsigned word
(`toNat_toUInt32`).  Divisions are not like that, and there are two of them that C leaves
undefined: `quotient` is `none` there.
-/

namespace Vidix.Util

/-! ### Congruences -/

theorem toNat_toUInt32 (x : Int32) : (x.toUInt32.toNat : ℤ) = x.toInt % 2 ^ 32 := by
  have h := toInt_toInt32 x.toUInt32
  have hlt := x.toUInt32.toNat_lt
  rw [Int32.toInt32_toUInt32] at h
  split_ifs at h <;> omega

/-- The unsigned word of an expression that is worth `a` modulo `2 ^ 32`. -/
theorem toNat_eq_of_modEq {x : Int32} {a : ℤ} (h : x.toInt ≡ a [ZMOD 2 ^ 32]) :
    x.toUInt32.toNat = (a % 2 ^ 32).toNat := by
  rw [← h, ← toNat_toUInt32]
  rfl

/-- A signed word that is a small number modulo `2 ^ 32` is that number. -/
theorem toInt_eq_of_modEq {x : Int32} {a : ℤ} (h : x.toInt ≡ a [ZMOD 2 ^ 32]) (hlow : -2 ^ 31 ≤ a)
    (hhigh : a < 2 ^ 31) : x.toInt = a := by
  have hx := Int32.le_toInt x
  have hx' := Int32.toInt_lt x
  unfold Int.ModEq at h
  omega

theorem toInt_add_modEq {x y : Int32} {a b : ℤ} (hx : x.toInt ≡ a [ZMOD 2 ^ 32])
    (hy : y.toInt ≡ b [ZMOD 2 ^ 32]) : (x + y).toInt ≡ a + b [ZMOD 2 ^ 32] := by
  rw [Int32.toInt_add]
  exact (Int.bmod_emod (m := 2 ^ 32)).trans (hx.add hy)

theorem toInt_mul_modEq {x y : Int32} {a b : ℤ} (hx : x.toInt ≡ a [ZMOD 2 ^ 32])
    (hy : y.toInt ≡ b [ZMOD 2 ^ 32]) : (x * y).toInt ≡ a * b [ZMOD 2 ^ 32] := by
  rw [Int32.toInt_mul]
  exact (Int.bmod_emod (m := 2 ^ 32)).trans (hx.mul hy)

/-- A product of `long`s that is stored in a word. -/
theorem toInt_mul_modEq_long {x y : Int64} {a b : ℤ} (hx : x.toInt ≡ a [ZMOD 2 ^ 32])
    (hy : y.toInt ≡ b [ZMOD 2 ^ 32]) : (x * y).toInt ≡ a * b [ZMOD 2 ^ 32] := by
  rw [Int64.toInt_mul]
  have hlong : (x.toInt * y.toInt).bmod (2 ^ 64) ≡ x.toInt * y.toInt [ZMOD 2 ^ 64] :=
    Int.bmod_emod
  exact (hlong.of_dvd (by decide)).trans (hx.mul hy)

theorem toInt_toInt32_modEq {x : Int64} {a : ℤ} (hx : x.toInt ≡ a [ZMOD 2 ^ 32]) :
    x.toInt32.toInt ≡ a [ZMOD 2 ^ 32] := by
  rw [Int64.toInt_toInt32]
  exact (Int.bmod_emod (m := 2 ^ 32)).trans hx

/-- Cutting a `long` to a word goes through an `int`. -/
theorem toUInt32_toInt32 (x : Int64) : x.toUInt64.toUInt32 = x.toInt32.toUInt32 := by
  apply UInt32.toBitVec_inj.mp
  show x.toBitVec.setWidth 32 = x.toBitVec.signExtend 32
  exact (BitVec.signExtend_eq_setWidth_of_le _ (by decide)).symm

theorem toNat_toUInt32_modEq (x : Int32) : (x.toUInt32.toNat : ℤ) ≡ x.toInt [ZMOD 2 ^ 32] := by
  rw [toNat_toUInt32]
  exact Int.mod_modEq _ _

theorem toInt32_modEq (x : UInt32) : x.toInt32.toInt ≡ x.toNat [ZMOD 2 ^ 32] := by
  have h := toNat_toUInt32_modEq x.toInt32
  rw [UInt32.toUInt32_toInt32] at h
  exact h.symm

/-- An unsigned word that is a small number modulo `2 ^ 32` is that number. -/
theorem toNat_eq_of_modEq_of_lt {x : UInt32} {n : ℕ} (h : (x.toNat : ℤ) ≡ n [ZMOD 2 ^ 32])
    (hn : n < 2 ^ 32) : x.toNat = n := by
  have hlt := x.toNat_lt
  unfold Int.ModEq at h
  omega

theorem toNat_add_modEq {x y : UInt32} {a b : ℤ} (hx : (x.toNat : ℤ) ≡ a [ZMOD 2 ^ 32])
    (hy : (y.toNat : ℤ) ≡ b [ZMOD 2 ^ 32]) : ((x + y).toNat : ℤ) ≡ a + b [ZMOD 2 ^ 32] := by
  rw [UInt32.toNat_add]
  push_cast
  exact (Int.mod_modEq _ _).trans (hx.add hy)

theorem toNat_mul_modEq {x y : UInt32} {a b : ℤ} (hx : (x.toNat : ℤ) ≡ a [ZMOD 2 ^ 32])
    (hy : (y.toNat : ℤ) ≡ b [ZMOD 2 ^ 32]) : ((x * y).toNat : ℤ) ≡ a * b [ZMOD 2 ^ 32] := by
  rw [UInt32.toNat_mul]
  push_cast
  exact (Int.mod_modEq _ _).trans (hx.mul hy)

/-- A word is a number iff it is congruent to it and the number is one of a word. -/
theorem toNat_eq_iff_modEq (x : UInt32) (a : ℤ) :
    (x.toNat : ℤ) = a ↔ (x.toNat : ℤ) ≡ a [ZMOD 2 ^ 32] ∧ 0 ≤ a ∧ a < 2 ^ 32 := by
  have hlt : x.toNat < 2 ^ 32 := x.toNat_lt
  constructor
  · rintro rfl
    exact ⟨Int.ModEq.refl _, by omega, by omega⟩
  · rintro ⟨hmod, hnonneg, hword⟩
    unfold Int.ModEq at hmod
    omega

/-! ### Shifts -/

theorem shiftLeft_one (x : Int32) : x <<< 1 = x * 2 := by
  apply Int32.toBitVec_inj.mp
  show x.toBitVec <<< 1 = x.toBitVec * 2#32
  rw [BitVec.shiftLeft_eq_mul_twoPow]
  rfl

theorem shiftLeft_two (x : Int32) : x <<< 2 = x * 4 := by
  apply Int32.toBitVec_inj.mp
  show x.toBitVec <<< 2 = x.toBitVec * 4#32
  rw [BitVec.shiftLeft_eq_mul_twoPow]
  rfl

theorem toInt_shiftRight (x : Int32) {n : Int32} {k : ℕ} (hn : (n.toBitVec.smod 32).toNat = k) :
    (x >>> n).toInt = x.toInt / 2 ^ k := by
  show (x.toBitVec.sshiftRight' _).toInt = _
  rw [BitVec.sshiftRight', BitVec.toInt_sshiftRight]
  show x.toInt >>> (n.toBitVec.smod 32).toNat = _
  rw [hn, Int.shiftRight_eq_div_pow, Nat.cast_pow, Nat.cast_ofNat]

theorem toInt_shiftRight_long (x : Int64) {n : Int64} {k : ℕ}
    (hn : (n.toBitVec.smod 64).toNat = k) : (x >>> n).toInt = x.toInt / 2 ^ k := by
  show (x.toBitVec.sshiftRight' _).toInt = _
  rw [BitVec.sshiftRight', BitVec.toInt_sshiftRight]
  show x.toInt >>> (n.toBitVec.smod 64).toNat = _
  rw [hn, Int.shiftRight_eq_div_pow, Nat.cast_pow, Nat.cast_ofNat]

theorem toInt_shiftRight_one (x : Int32) : (x >>> 1).toInt = x.toInt / 2 :=
  toInt_shiftRight x (k := 1) rfl

theorem toInt_shiftRight_two (x : Int32) : (x >>> 2).toInt = x.toInt / 4 :=
  toInt_shiftRight x (k := 2) rfl

theorem toInt_shiftRight_one_long (x : Int64) : (x >>> 1).toInt = x.toInt / 2 :=
  toInt_shiftRight_long x (k := 1) rfl

/-- A `long` in an unsigned one. -/
theorem toNat_toUInt64 (x : Int64) : (x.toUInt64.toNat : ℤ) = x.toInt % 2 ^ 64 := by
  have hx := BitVec.toInt_eq_toNat_cond x.toBitVec
  have hlt := x.toBitVec.isLt
  show (x.toBitVec.toNat : ℤ) = x.toBitVec.toInt % 2 ^ 64
  rw [hx]
  split_ifs <;> omega

/-! ### Rounding -/

/-- The least multiple of `k` that is not below `x`. -/
def roundUp (x k : ℤ) : ℤ := (x + (k - 1)) / k * k

theorem div_mul_modEq {a b k m : ℤ} (hk : k ∣ m) (h : a ≡ b [ZMOD m]) :
    a / k * k ≡ b / k * k [ZMOD m] := by
  have hsplit : ∀ c : ℤ, c / k * k = c - c % k := fun c =>
    eq_sub_of_add_eq (Int.ediv_mul_add_emod c k)
  rw [hsplit, hsplit, show a % k = b % k from h.of_dvd hk]
  exact h.sub_right _

/-- `(x + mask) & ~mask`. -/
theorem toInt_alignUp_modEq {x mask : Int32} {a m : ℤ} {k : ℕ} (hm : m = 2 ^ k)
    (hmask : mask.toInt = m - 1) (hk : k ≤ 31) (hx : x.toInt ≡ a [ZMOD 2 ^ 32]) :
    ((x + mask) &&& ~~~mask).toInt ≡ roundUp a m [ZMOD 2 ^ 32] := by
  subst hm
  have hpow : (2 : ℤ) ^ k ≤ 2 ^ 31 := by exact_mod_cast Nat.pow_le_pow_right (by decide) hk
  have hone : (1 : ℤ) ≤ 2 ^ k := by exact_mod_cast Nat.one_le_two_pow
  have hunsigned : mask.toUInt32.toNat = 2 ^ k - 1 := by
    have h := toNat_toUInt32 mask
    rw [hmask, Int.emod_eq_of_lt (by omega) (by omega)] at h
    have hcast : ((2 ^ k - 1 : ℕ) : ℤ) = 2 ^ k - 1 := by
      rw [Nat.cast_sub Nat.one_le_two_pow]
      norm_num
    omega
  have hclear : ((((x + mask) &&& ~~~mask).toUInt32.toNat : ℕ) : ℤ) =
      ((x + mask).toUInt32.toNat : ℤ) / 2 ^ k * 2 ^ k := by
    rw [Int32.toUInt32_and, Int32.toUInt32_not, toNat_and_not_mask hunsigned (by omega)]
    push_cast
    rfl
  have hdvd : (2 : ℤ) ^ k ∣ 2 ^ 32 := pow_dvd_pow 2 (by omega)
  have hsum : (((x + mask).toUInt32.toNat : ℕ) : ℤ) ≡ a + (2 ^ k - 1) [ZMOD 2 ^ 32] := by
    rw [toNat_toUInt32]
    refine (Int.mod_modEq _ _).trans (toInt_add_modEq hx ?_)
    rw [hmask]
  calc ((x + mask) &&& ~~~mask).toInt
      ≡ ((((x + mask) &&& ~~~mask).toUInt32.toNat : ℕ) : ℤ) [ZMOD 2 ^ 32] := by
        rw [toNat_toUInt32]
        exact (Int.mod_modEq _ _).symm
    _ = ((x + mask).toUInt32.toNat : ℤ) / 2 ^ k * 2 ^ k := hclear
    _ ≡ roundUp a (2 ^ k) [ZMOD 2 ^ 32] := div_mul_modEq hdvd hsum

/-! ### Division -/

/-- `a / b` is defined. -/
def Divides (a b : Int32) : Prop := b ≠ 0 ∧ ¬ (a = Int32.minValue ∧ b = -1)

instance (a b : Int32) : Decidable (Divides a b) := inferInstanceAs (Decidable (_ ∧ _))

/-- `a / b` in C; a division that is not defined ends the program. -/
def quotient (a b : Int32) : Option Int32 := if Divides a b then some (a / b) else none

/-- `a % b` in C, which is defined where `a / b` is. -/
def remainder (a b : Int32) : Option Int32 := if Divides a b then some (a % b) else none

theorem quotient_isSome_iff (a b : Int32) : (quotient a b).isSome ↔ Divides a b := by
  unfold quotient
  split_ifs with h
  · exact iff_of_true rfl h
  · exact iff_of_false Bool.false_ne_true h

/-- What follows a division is reached iff the division is defined. -/
theorem isSome_quotient_bind_iff {α : Type*} (a b : Int32) (f : Int32 → Option α) :
    ((quotient a b).bind f).isSome ↔ Divides a b ∧ (f (a / b)).isSome := by
  unfold quotient
  split_ifs with h
  · exact (and_iff_right h).symm
  · exact iff_of_false Bool.false_ne_true fun hand => h hand.1

end Vidix.Util
