import Mathlib.Algebra.Order.Ring.Nat
import Mathlib.Tactic.Ring

/-!
# Cutting a scaled picture

A picture of `src` pixels is shown in a window of `dst` pixels, the first `cut` of which are not
seen.  Then the first `cut * src / dst` pixels of the picture are not seen either.  The facts here
are about computing this number modulo the size of a word, and about the place of a pixel in a
picture whose lines are `pitch` bytes apart.
-/

namespace Vidix.Util

/-- The pixels of the picture that are left out with the first `cut` pixels of the window. -/
def skipped (cut src dst : ℕ) : ℕ := cut * src / dst

theorem skipped_eq_zero_iff {cut src dst : ℕ} (hdst : 0 < dst) :
    skipped cut src dst = 0 ↔ cut * src < dst := Nat.div_eq_zero_iff_lt hdst

/-- A product that wraps makes the quotient smaller. -/
theorem mod_div_eq_div_iff {n m d : ℕ} (hd : 0 < d) (hdm : d ≤ m) :
    n % m / d = n / d ↔ n < m := by
  constructor
  · intro h
    by_contra hlt
    have hwrap : n % m + d ≤ n := by
      have hm : 1 ≤ n / m := (Nat.one_le_div_iff (by omega)).mpr (by omega)
      have hsplit := Nat.div_add_mod n m
      have hmul : m * 1 ≤ m * (n / m) := Nat.mul_le_mul_left m hm
      omega
    have hsucc : n % m / d + 1 ≤ n / d := by
      rw [← Nat.add_div_right _ hd]
      exact Nat.div_le_div_right hwrap
    omega
  · intro h
    rw [Nat.mod_eq_of_lt h]

/-- Neither factor of `b * d` can be smaller than `b` and `d` if the product is not. -/
theorem mul_eq_mul_iff_of_le {a b c d : ℕ} (hab : a ≤ b) (hcd : c ≤ d) (hd : 0 < d) :
    a * c = b * d ↔ b = 0 ∨ a = b ∧ c = d := by
  constructor
  · intro h
    by_cases hb : b = 0
    · exact .inl hb
    · have hmid : a * c ≤ a * d := Nat.mul_le_mul_left a hcd
      have hle : a * d ≤ b * d := Nat.mul_le_mul_right d hab
      obtain rfl : a = b := Nat.eq_of_mul_eq_mul_right hd (by omega)
      exact .inr ⟨rfl, Nat.eq_of_mul_eq_mul_left (Nat.pos_of_ne_zero hb) h⟩
  · rintro (rfl | ⟨rfl, rfl⟩)
    · rw [Nat.le_zero.mp hab, Nat.zero_mul, Nat.zero_mul]
    · rfl

/-- The place of a pixel with two bytes, computed from lower numbers of pixels and lines and with a
smaller pitch. -/
theorem place_eq_iff {cols cols' lines lines' pitch pitch' : ℕ} (hcols : cols' ≤ cols)
    (hlines : lines' ≤ lines) (hpitch : pitch' ≤ pitch) (hpos : 0 < pitch) :
    2 * cols' + lines' * pitch' = lines * pitch + 2 * cols ↔
      cols' = cols ∧ (lines = 0 ∨ lines' = lines ∧ pitch' = pitch) := by
  have hle : lines' * pitch' ≤ lines * pitch := Nat.mul_le_mul hlines hpitch
  rw [← mul_eq_mul_iff_of_le hlines hpitch hpos]
  omega

/-- An address in a register of `word` values, which is computed as the place above `base`. -/
theorem address_eq_iff {base place place' word : ℕ} (hword : 0 < word) (hle : place' ≤ place) :
    (base + place') % word = base + place ↔ base + place < word ∧ place' = place := by
  constructor
  · intro h
    have hlt : base + place < word := h ▸ Nat.mod_lt _ hword
    rw [Nat.mod_eq_of_lt (by omega)] at h
    exact ⟨hlt, by omega⟩
  · rintro ⟨hlt, rfl⟩
    exact Nat.mod_eq_of_lt hlt

end Vidix.Util
