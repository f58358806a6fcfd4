import Mathlib.Data.Int.Basic
import Mathlib.Data.Nat.ModEq
import Mathlib.Tactic.Linarith

/-!
# Addresses in registers

A chip is told where something is by a number that is split over registers of a byte or less, with
the low bits of the address left out: they are taken to be zero.  The address survives that iff the
low bits are zero and the others fit (`survives_iff`).
-/

namespace Vidix.Util

/-- A number from its low byte, the one above it and the rest. -/
def fromBytes (low middle high : ℕ) : ℕ := low + middle * 2 ^ 8 + high * 2 ^ 16

/-- A number of which the registers have `16 + w` bits. -/
theorem fromBytes_mod (n w : ℕ) :
    fromBytes (n % 2 ^ 8) (n / 2 ^ 8 % 2 ^ 8) (n / 2 ^ 16 % 2 ^ w) = n % 2 ^ (16 + w) := by
  have hlow : n % 2 ^ 16 = n % 2 ^ 8 + 2 ^ 8 * (n / 2 ^ 8 % 2 ^ 8) := by omega
  rw [pow_add, Nat.mod_mul, hlow]
  unfold fromBytes
  rw [Nat.mul_comm (2 ^ 8), Nat.mul_comm (2 ^ 16)]

/-- A byte and the field above it. -/
theorem byte_add_field (n w : ℕ) :
    n % 2 ^ 8 + n / 2 ^ 8 % 2 ^ w * 2 ^ 8 = n % 2 ^ (8 + w) := by
  rw [pow_add, Nat.mod_mul, Nat.mul_comm (2 ^ 8)]

/-- The address is a multiple of `2 ^ s`, and what is stored is the rest of it. -/
structure Survives (s stored : ℕ) (a : ℤ) : Prop where
  aligned : (2 : ℤ) ^ s ∣ a
  rebuilt : (stored : ℤ) * 2 ^ s = a

/-- **An address whose quotient by `2 ^ s` is stored in `w` bits.** -/
theorem survives_iff {s w n : ℕ} {a : ℤ}
    (hn : 0 ≤ a → a < 2 ^ (w + s) → (n : ℤ) = a / 2 ^ s) :
    Survives s (n % 2 ^ w) a ↔ (0 ≤ a ∧ a < 2 ^ (w + s)) ∧ (2 : ℤ) ^ s ∣ a := by
  have hpos : (0 : ℤ) < 2 ^ s := pow_pos (by decide) s
  constructor
  · rintro ⟨haligned, hrebuilt⟩
    have hlt : ((n % 2 ^ w : ℕ) : ℤ) < 2 ^ w := by
      exact_mod_cast Nat.mod_lt n (Nat.two_pow_pos w)
    refine ⟨⟨?_, ?_⟩, haligned⟩
    · rw [← hrebuilt]
      positivity
    · rw [← hrebuilt, pow_add]
      exact mul_lt_mul_of_pos_right hlt hpos
  · rintro ⟨⟨hlow, hhigh⟩, haligned⟩
    have hquotient := hn hlow hhigh
    have hlt : (n : ℤ) < 2 ^ w := by
      rw [hquotient, Int.ediv_lt_iff_lt_mul hpos, ← pow_add]
      exact hhigh
    have hlt' : n < 2 ^ w := by exact_mod_cast hlt
    refine ⟨haligned, ?_⟩
    rw [Nat.mod_eq_of_lt hlt', hquotient]
    exact Int.ediv_mul_cancel haligned

end Vidix.Util
