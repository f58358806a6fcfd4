import Mathlib.Algebra.Group.Nat.Defs
import Mathlib.Data.List.TakeWhile
import Mathlib.Data.Nat.Notation

/-!
# Numbers as digits

The value of a digit in bases up to sixteen and of a sequence of digits, and hexadecimal numbers of
a fixed width, which have the value they were made from (`digitsValue_fixedHex`).
-/

namespace Vidix.Util

/-- The value of a digit, in bases up to sixteen. -/
def digitValue (c : Char) : Option ℕ :=
  if c.isDigit then some (c.toNat - '0'.toNat)
  else if 'a' ≤ c ∧ c ≤ 'f' then some (c.toNat - 'a'.toNat + 10)
  else if 'A' ≤ c ∧ c ≤ 'F' then some (c.toNat - 'A'.toNat + 10)
  else none

def isDigitOf (base : ℕ) (c : Char) : Bool :=
  (digitValue c).any (· < base)

/-- The number that digits write. -/
def digitsValue (base : ℕ) (digits : List Char) : ℕ :=
  digits.foldl (fun n c => base * n + (digitValue c).getD 0) 0

theorem digitsValue_concat (base : ℕ) (digits : List Char) (c : Char) :
    digitsValue base (digits ++ [c]) =
      base * digitsValue base digits + (digitValue c).getD 0 := by
  rw [digitsValue, List.foldl_append]
  rfl

/-! ### Hexadecimal numbers -/

/-- A hexadecimal digit, in upper case. -/
def upperHexDigit (n : ℕ) : Char :=
  if n < 10 then Char.ofNat ('0'.toNat + n) else Char.ofNat ('A'.toNat + (n - 10))

theorem digitValue_upperHexDigit {n : ℕ} (hn : n < 16) :
    digitValue (upperHexDigit n) = some n := by
  have hall : ∀ m < 16, digitValue (upperHexDigit m) = some m := by decide
  exact hall n hn

/-- The last `k` digits of a number. -/
def fixedHex : ℕ → ℕ → List Char
  | 0, _ => []
  | k + 1, n => fixedHex k (n / 16) ++ [upperHexDigit (n % 16)]

theorem isDigitOf_of_mem_fixedHex {k n : ℕ} {c : Char} (hc : c ∈ fixedHex k n) :
    isDigitOf 16 c = true := by
  induction k generalizing n with
  | zero => cases hc
  | succ k ih =>
    rcases List.mem_append.1 hc with hc | hc
    · exact ih hc
    · have hlt : n % 16 < 16 := Nat.mod_lt n (by decide)
      rw [List.mem_singleton.1 hc, isDigitOf, digitValue_upperHexDigit hlt]
      exact decide_eq_true hlt

/-- **A number is what its digits say, if there are enough of them.** -/
theorem digitsValue_fixedHex {k n : ℕ} (hn : n < 16 ^ k) : digitsValue 16 (fixedHex k n) = n := by
  induction k generalizing n with
  | zero =>
    rw [Nat.pow_zero, Nat.lt_one_iff] at hn
    rw [hn]
    rfl
  | succ k ih =>
    have hdiv : n / 16 < 16 ^ k := by
      rw [Nat.pow_succ] at hn
      exact Nat.div_lt_of_lt_mul (by rwa [Nat.mul_comm])
    rw [fixedHex, digitsValue_concat, ih hdiv,
      digitValue_upperHexDigit (Nat.mod_lt n (by decide))]
    exact Nat.div_add_mod n 16

end Vidix.Util
