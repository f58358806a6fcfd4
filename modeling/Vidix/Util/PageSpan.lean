import Mathlib.Data.List.Range
import Mathlib.Data.Nat.Basic

/-!
# The pages of a range of bytes

A range of `n` bytes from `a` on touches the pages from that of its first byte to that of its last.
When `n` is rounded up to pages without looking at `a`, the count is right iff the offset of `a` in
its page leaves room for the rest of `n` (`items_eq_length_pages_iff`); otherwise it is one too
small.
-/

namespace Vidix.Util

variable {P a n : ℕ}

/-- The pages, of `P` bytes each, that hold a byte of `[a, a + n)`, in order. -/
def pages (P a n : ℕ) : List ℕ := List.range' (a / P) ((a + n - 1) / P - a / P + 1)

/-- `n` in pages, rounded up. -/
def items (P n : ℕ) : ℕ := if n % P = 0 then n / P else n / P + 1

theorem mem_pages (hP : 0 < P) (hn : 1 ≤ n) {p : ℕ} :
    p ∈ pages P a n ↔ ∃ b, a ≤ b ∧ b < a + n ∧ b / P = p := by
  have hle : a / P ≤ (a + n - 1) / P := Nat.div_le_div_right (by omega)
  rw [pages, List.mem_range'_1]
  constructor
  · rintro ⟨hlo, hhi⟩
    -- the first byte of the page, or the first of the range
    by_cases h : p = a / P
    · exact ⟨a, le_rfl, by omega, h.symm⟩
    · refine ⟨p * P, ?_, ?_, Nat.mul_div_cancel p hP⟩
      · have hlt : a < (a / P + 1) * P := by
          have := Nat.lt_mul_div_succ a hP
          rwa [Nat.mul_comm] at this
        have := Nat.mul_le_mul_right P (show a / P + 1 ≤ p by omega)
        omega
      · have h1 := Nat.mul_le_mul_right P (show p ≤ (a + n - 1) / P by omega)
        have h2 := Nat.div_mul_le_self (a + n - 1) P
        omega
  · rintro ⟨b, hlo, hhi, rfl⟩
    have h1 : a / P ≤ b / P := Nat.div_le_div_right hlo
    have h2 : b / P ≤ (a + n - 1) / P := Nat.div_le_div_right (by omega)
    omega

theorem items_eq (hP : 0 < P) (hn : 1 ≤ n) : items P n = (n - 1) / P + 1 := by
  have hdiv := Nat.div_add_mod (n - 1) P
  have hmod := Nat.mod_lt (n - 1) hP
  unfold items
  by_cases hlast : (n - 1) % P + 1 = P
  · -- the last page is full
    have hn' : n = P * ((n - 1) / P + 1) := by
      rw [Nat.mul_succ]
      omega
    have h0 : n % P = 0 := by
      rw [hn']
      exact Nat.mul_mod_right P _
    rw [if_pos h0]
    conv_lhs => rw [hn']
    exact Nat.mul_div_cancel_left _ hP
  · have hn' : n = (n - 1) % P + 1 + P * ((n - 1) / P) := by omega
    have h1 : n % P = (n - 1) % P + 1 := by
      conv_lhs => rw [hn']
      rw [Nat.add_mul_mod_self_left, Nat.mod_eq_of_lt (by omega)]
    have h2 : n / P = (n - 1) / P := by
      conv_lhs => rw [hn']
      rw [Nat.add_mul_div_left _ _ hP, Nat.div_eq_of_lt (by omega), Nat.zero_add]
    rw [if_neg (by omega), h2]

/-- The two remainders carry into one more page, or not. -/
theorem length_pages (hP : 0 < P) (hn : 1 ≤ n) :
    (pages P a n).length = (n - 1) / P + 1 + (a % P + (n - 1) % P) / P := by
  have hsum : a + n - 1 = a % P + (n - 1) % P + P * (a / P + (n - 1) / P) := by
    have h1 := Nat.div_add_mod a P
    have h2 := Nat.div_add_mod (n - 1) P
    rw [Nat.mul_add]
    omega
  have hcarry : (a + n - 1) / P = (a % P + (n - 1) % P) / P + (a / P + (n - 1) / P) := by
    conv_lhs => rw [hsum]
    exact Nat.add_mul_div_left _ _ hP
  rw [pages, List.length_range', hcarry]
  generalize (a % P + (n - 1) % P) / P = carry
  generalize (n - 1) / P = rest
  generalize a / P = first
  omega

/-- **Rounding up the length counts the pages iff nothing is carried.** -/
theorem items_eq_length_pages_iff (hP : 0 < P) (hn : 1 ≤ n) :
    items P n = (pages P a n).length ↔ a % P + (n - 1) % P < P := by
  rw [items_eq hP hn, length_pages hP hn]
  constructor
  · intro h
    have h0 : (a % P + (n - 1) % P) / P = 0 := by omega
    exact (Nat.div_eq_zero_iff_lt hP).mp h0
  · intro h
    rw [Nat.div_eq_of_lt h]

end Vidix.Util
