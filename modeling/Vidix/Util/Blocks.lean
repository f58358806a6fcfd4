import Vidix.Util.ScatterList
import Mathlib.Data.List.Nodup
import Mathlib.Data.List.Pairwise

/-!
# A picture block by block

`blockPixels bw bh W H` are the pixels of a `W` × `H` picture in the order of a program that goes
through it in blocks of `bw` × `bh`, and through each block line by line; the blocks at the right
and at the bottom are cut.  Each pixel comes once: `mem_blockPixels`, `nodup_blockPixels`.
-/

namespace Vidix.Util

/-- A list put together from parts that have nothing in common, as each element knows its part. -/
theorem nodup_flatMap_of_key {α β : Type*} {l : List α} {f : α → List β} (key : β → α)
    (hl : l.Nodup) (hf : ∀ a ∈ l, (f a).Nodup) (hkey : ∀ a ∈ l, ∀ b ∈ f a, key b = a) :
    (l.flatMap f).Nodup := by
  rw [List.nodup_flatMap]
  refine ⟨hf, hl.imp_of_mem fun {a b} ha hb hab => ?_⟩
  intro x hxa hxb
  exact hab ((hkey a ha x hxa).symm.trans (hkey b hb x hxb))

variable {bw bh W H : ℕ}

/-- The pixels of the block in column `c` and row `r` of the blocks, line by line. -/
def blockAt (bw bh W H r c : ℕ) : List (ℕ × ℕ) :=
  (List.range (pieceLen bh H r)).flatMap fun i =>
    (List.range (pieceLen bw W c)).map fun j => (c * bw + j, r * bh + i)

/-- The pixels of the picture, block by block. -/
def blockPixels (bw bh W H : ℕ) : List (ℕ × ℕ) :=
  (List.range (items bh H)).flatMap fun r =>
    (List.range (items bw W)).flatMap fun c => blockAt bw bh W H r c

/-- A number below `n` in its piece. -/
theorem lt_iff_exists_piece {P n x : ℕ} (hP : 0 < P) :
    x < n ↔ ∃ k < items P n, ∃ j < pieceLen P n k, k * P + j = x := by
  rw [← List.mem_range, ← flatMap_pieces hP n]
  simp only [List.mem_flatMap, List.mem_map, List.mem_range]

theorem mem_blockAt {r c : ℕ} {p : ℕ × ℕ} :
    p ∈ blockAt bw bh W H r c ↔ ∃ i < pieceLen bh H r, ∃ j < pieceLen bw W c,
      (c * bw + j, r * bh + i) = p := by
  simp only [blockAt, List.mem_flatMap, List.mem_map, List.mem_range]

/-- **The pixels of the picture.** -/
theorem mem_blockPixels (hbw : 0 < bw) (hbh : 0 < bh) {p : ℕ × ℕ} :
    p ∈ blockPixels bw bh W H ↔ p.1 < W ∧ p.2 < H := by
  simp only [blockPixels, List.mem_flatMap, List.mem_range, mem_blockAt]
  rw [lt_iff_exists_piece hbw, lt_iff_exists_piece hbh]
  constructor
  · rintro ⟨r, hr, c, hc, i, hi, j, hj, rfl⟩
    exact ⟨⟨c, hc, j, hj, rfl⟩, r, hr, i, hi, rfl⟩
  · rintro ⟨⟨c, hc, j, hj, hx⟩, r, hr, i, hi, hy⟩
    exact ⟨r, hr, c, hc, i, hi, j, hj, Prod.ext hx hy⟩

/-- The block of a number. -/
theorem mul_add_div_of_lt_pieceLen {P n k j : ℕ} (hj : j < pieceLen P n k) :
    (k * P + j) / P = k := by
  have hlt : j < P := hj.trans_le (pieceLen_le P n k)
  rw [Nat.add_comm, Nat.add_mul_div_right _ _ (by omega), Nat.div_eq_of_lt hlt, Nat.zero_add]

/-- The place in the block. -/
theorem mul_add_mod_of_lt_pieceLen {P n k j : ℕ} (hj : j < pieceLen P n k) :
    (k * P + j) % P = j := by
  rw [Nat.add_comm, Nat.add_mul_mod_self_right]
  exact Nat.mod_eq_of_lt (hj.trans_le (pieceLen_le P n k))

theorem nodup_blockAt (r c : ℕ) : (blockAt bw bh W H r c).Nodup := by
  refine nodup_flatMap_of_key (fun p => p.2 % bh) List.nodup_range (fun i _ => ?_) ?_
  · refine List.nodup_range.map fun j j' h => ?_
    exact Nat.add_left_cancel (congrArg Prod.fst h)
  · intro i hi p hp
    obtain ⟨j, -, rfl⟩ := List.mem_map.mp hp
    exact mul_add_mod_of_lt_pieceLen (List.mem_range.mp hi)

/-- **No pixel comes twice.** -/
theorem nodup_blockPixels : (blockPixels bw bh W H).Nodup := by
  refine nodup_flatMap_of_key (fun p => p.2 / bh) List.nodup_range (fun r _ => ?_) ?_
  · refine nodup_flatMap_of_key (fun p => p.1 / bw) List.nodup_range
      (fun c _ => nodup_blockAt r c) ?_
    intro c _ p hp
    obtain ⟨i, -, j, hj, rfl⟩ := mem_blockAt.mp hp
    exact mul_add_div_of_lt_pieceLen hj
  · intro r _ p hp
    obtain ⟨c, -, hp⟩ := List.mem_flatMap.mp hp
    obtain ⟨i, hi, j, -, rfl⟩ := mem_blockAt.mp hp
    exact mul_add_div_of_lt_pieceLen hi

end Vidix.Util
