import Vidix.Util.Word

/-!
# Flags in a word

A word of flags is changed by setting and clearing some of them, and read through a mask.  Bits that
are not in the mask do not matter (`or_and_of_disjoint`, `and_not_and_of_disjoint`).
-/

namespace Vidix.Util

variable {x b m : UInt32}

theorem and_or_distrib (x b m : UInt32) : x &&& (b ||| m) = (x &&& b) ||| (x &&& m) := by
  rw [UInt32.and_comm, or_and_distrib, UInt32.and_comm b, UInt32.and_comm m]

/-- Flags among others that are not in the mask. -/
theorem and_eq_zero_of_subset {c : UInt32} (hc : c &&& b = c) (h : b &&& m = 0) : c &&& m = 0 := by
  rw [← hc, UInt32.and_assoc, h, UInt32.and_zero]

/-- A single flag is set or not. -/
theorem and_single (x : UInt32) {k : ℕ} (hb : b.toNat = 2 ^ k) : x &&& b = 0 ∨ x &&& b = b := by
  have hbit : (x &&& b).toNat = (x.toNat.testBit k).toNat * b.toNat := by
    rw [UInt32.toNat_and, hb, Nat.and_two_pow]
  cases htest : x.toNat.testBit k with
  | false =>
    rw [htest, Bool.toNat_false, Nat.zero_mul] at hbit
    exact .inl (UInt32.toNat_inj.mp hbit)
  | true =>
    rw [htest, Bool.toNat_true, Nat.one_mul] at hbit
    exact .inr (UInt32.toNat_inj.mp hbit)

/-! ### Setting -/

theorem or_and_of_disjoint (h : b &&& m = 0) : (x ||| b) &&& m = x &&& m := by
  rw [or_and_distrib, h, UInt32.or_zero]

theorem or_and_self (x b : UInt32) : (x ||| b) &&& b = b := by
  apply UInt32.toBitVec_inj.mp
  ext i
  simp only [UInt32.toBitVec_and, UInt32.toBitVec_or, BitVec.getElem_and, BitVec.getElem_or]
  cases x.toBitVec[i] <;> simp

/-! ### Clearing -/

/-- Clearing some of the flags only leaves a mask alone that clearing all of them leaves alone. -/
theorem not_and_of_subset {c : UInt32} (hc : c &&& b = c) (h : ~~~b &&& m = m) :
    ~~~c &&& m = m := by
  have hbits : ~~~c &&& ~~~b = ~~~b := by
    have hc' := congrArg UInt32.toBitVec hc
    apply UInt32.toBitVec_inj.mp
    ext i hi
    have hbit := congrArg (fun v : BitVec 32 => v[i]) hc'
    simp only [UInt32.toBitVec_and, UInt32.toBitVec_not, BitVec.getElem_and,
      BitVec.getElem_not] at hbit ⊢
    cases hb : b.toBitVec[i] <;> simp_all
  rw [← h, ← UInt32.and_assoc, hbits]

theorem not_and_of_and_eq_zero (h : x &&& m = 0) : ~~~x &&& m = m := by
  have h' := congrArg UInt32.toBitVec h
  apply UInt32.toBitVec_inj.mp
  ext i hi
  have hbit := congrArg (fun v : BitVec 32 => v[i]) h'
  simp only [UInt32.toBitVec_and, UInt32.toBitVec_not, BitVec.getElem_and,
    BitVec.getElem_not] at hbit ⊢
  cases hx : x.toBitVec[i] <;> simp_all

theorem not_and_eq_zero (h : x &&& m = m) : ~~~x &&& m = 0 := by
  rw [← h, ← UInt32.and_assoc, UInt32.and_comm (~~~x)]
  simp

theorem and_not_and_of_disjoint (h : ~~~b &&& m = m) : x &&& ~~~b &&& m = x &&& m := by
  rw [UInt32.and_assoc, h]

theorem and_not_and_eq_zero (h : ~~~b &&& m = 0) : x &&& ~~~b &&& m = 0 := by
  rw [UInt32.and_assoc, h, UInt32.and_zero]

end Vidix.Util
