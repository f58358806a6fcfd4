import Mathlib.Data.List.Pairwise
import Mathlib.Order.CompletePartialOrder
import Mathlib.Order.Interval.Set.Disjoint
import Mathlib.Order.Interval.Set.LinearOrder

/-!
# Regions of a block of memory

A region is a run of bytes given by its start and its size; one of size zero has no bytes and is
nowhere.  Slots of one size, one behind the other, are apart (`slots_apart`).  `PackedIn n rs` says
that the regions `rs` lie within the first `n` bytes and that no two of them have a byte in common.
The order of the regions does not matter (`packedIn_perm_iff`), and for one and for three regions
the statement is spelled out in numbers (`packedIn_one_iff`, `packedIn_three_iff`), where `omega`
can take it up.
-/

namespace Vidix.Util

/-- `size` bytes from `start` on. -/
structure Region where
  start : ℕ
  size : ℕ
  deriving DecidableEq, Repr

namespace Region

/-- The addresses of the bytes. -/
def bytes (r : Region) : Set ℕ := Set.Ico r.start (r.start + r.size)

theorem bytes_eq_empty {r : Region} (h : r.size = 0) : r.bytes = ∅ := by
  unfold bytes
  rw [h, Nat.add_zero, Set.Ico_self]

theorem bytes_subset_Iio_iff {r : Region} {n : ℕ} :
    r.bytes ⊆ Set.Iio n ↔ r.size = 0 ∨ r.start + r.size ≤ n := by
  by_cases h0 : r.size = 0
  · simp [bytes_eq_empty h0, h0]
  · have hlt : r.start < r.start + r.size := by omega
    constructor
    · intro h
      have hlast : r.start + r.size - 1 ∈ r.bytes := ⟨by omega, by omega⟩
      have hn : r.start + r.size - 1 < n := h hlast
      exact Or.inr (by omega)
    · rintro (h | h)
      · exact absurd h h0
      · exact fun x hx => lt_of_lt_of_le hx.2 h

theorem disjoint_bytes_iff {r s : Region} :
    Disjoint r.bytes s.bytes ↔
      r.size = 0 ∨ s.size = 0 ∨ r.start + r.size ≤ s.start ∨ s.start + s.size ≤ r.start := by
  unfold bytes
  rw [Set.Ico_disjoint_Ico]
  omega

end Region

/-! ### Slots -/

/-- The slots before the `n`-th end where that one begins. -/
theorem slot_le {i n : ℕ} (hi : i < n) (size : ℕ) : i * size + size ≤ n * size := by
  rw [← Nat.succ_mul]
  exact Nat.mul_le_mul_right _ hi

theorem slots_apart {i j : ℕ} (hij : i ≠ j) (base size : ℕ) :
    base + i * size + size ≤ base + j * size ∨ base + j * size + size ≤ base + i * size := by
  rcases Nat.lt_or_gt_of_ne hij with hlt | hlt
  · have := slot_le hlt size
    omega
  · have := slot_le hlt size
    omega

/-! ### Regions apart -/

/-- The regions lie within the first `n` bytes, and no two of them share a byte. -/
structure PackedIn (n : ℕ) (rs : List Region) : Prop where
  inside : ∀ r ∈ rs, r.bytes ⊆ Set.Iio n
  disjoint : rs.Pairwise fun r s => Disjoint r.bytes s.bytes

theorem PackedIn.perm {n : ℕ} {rs ss : List Region} (h : PackedIn n rs) (hperm : rs.Perm ss) :
    PackedIn n ss :=
  ⟨fun r hr => h.inside r (hperm.mem_iff.mpr hr), h.disjoint.perm hperm fun hd => hd.symm⟩

theorem packedIn_perm_iff {n : ℕ} {rs ss : List Region} (hperm : rs.Perm ss) :
    PackedIn n rs ↔ PackedIn n ss :=
  ⟨fun h => h.perm hperm, fun h => h.perm hperm.symm⟩

theorem packedIn_one_iff {n : ℕ} {r : Region} :
    PackedIn n [r] ↔ r.size = 0 ∨ r.start + r.size ≤ n := by
  rw [← Region.bytes_subset_Iio_iff]
  constructor
  · exact fun h => h.inside r (List.mem_singleton_self r)
  · intro h
    refine ⟨fun s hs => ?_, List.pairwise_singleton _ r⟩
    rw [List.mem_singleton] at hs
    exact hs ▸ h

/-- A region and two of one size. -/
theorem packedIn_three_iff {n a b c k m : ℕ} :
    PackedIn n [⟨a, k⟩, ⟨b, m⟩, ⟨c, m⟩] ↔
      (k = 0 ∨ a + k ≤ n) ∧
        (m = 0 ∨ b + m ≤ n ∧ c + m ≤ n ∧ (b + m ≤ c ∨ c + m ≤ b) ∧
          (k = 0 ∨ (a + k ≤ b ∨ b + m ≤ a) ∧ (a + k ≤ c ∨ c + m ≤ a))) := by
  have hinside : (∀ r ∈ [(⟨a, k⟩ : Region), ⟨b, m⟩, ⟨c, m⟩], r.bytes ⊆ Set.Iio n) ↔
      (k = 0 ∨ a + k ≤ n) ∧ (m = 0 ∨ b + m ≤ n) ∧ (m = 0 ∨ c + m ≤ n) := by
    simp only [List.forall_mem_cons, Region.bytes_subset_Iio_iff]
    simp
  have hdisjoint : [(⟨a, k⟩ : Region), ⟨b, m⟩, ⟨c, m⟩].Pairwise
      (fun r s => Disjoint r.bytes s.bytes) ↔
      (k = 0 ∨ m = 0 ∨ a + k ≤ b ∨ b + m ≤ a) ∧ (k = 0 ∨ m = 0 ∨ a + k ≤ c ∨ c + m ≤ a) ∧
        (m = 0 ∨ b + m ≤ c ∨ c + m ≤ b) := by
    simp only [List.pairwise_cons, List.forall_mem_cons, Region.disjoint_bytes_iff]
    simp [and_assoc]
  constructor
  · intro h
    have hi := hinside.mp h.inside
    have hd := hdisjoint.mp h.disjoint
    omega
  · intro h
    exact ⟨hinside.mpr (by omega), hdisjoint.mpr (by omega)⟩

end Vidix.Util
