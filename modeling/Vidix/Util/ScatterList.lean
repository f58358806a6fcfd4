import Vidix.Util.PageSpan
import Mathlib.Algebra.BigOperators.Group.List.Basic
import Mathlib.Algebra.GroupWithZero.Nat
import Mathlib.Data.List.Chain

/-!
# Scatter lists

An engine copies what a table of transfers says, one after the other, up to the one with the end
mark; a table without an end mark leads it out of the table.  `scatter` is the list that copies a
range of `n` bytes, of which each page of `P` bytes has an address of its own, to consecutive
addresses: all pages but the last are full, and the last has the mark.

* The engine copies each byte of the range to its place and nothing else, whatever stands in the
  table behind the list: `run_scatter`.
* The places are consecutive and disjoint, and the lengths add up to `n`:
  `isChain_scatter`, `pairwise_scatter`, `sum_len_scatter`.
* When the places are words that wrap, all of them lie below a bound iff the end of the range does:
  `forall_piece_le_iff`.
-/

namespace Vidix.Util

/-- `len` bytes from `src` on go to `dst` and behind; `last` is the end mark. -/
structure Transfer where
  src : ℕ
  dst : ℕ
  len : ℕ
  last : Bool
  deriving DecidableEq, Repr

/-- The bytes of a transfer, each with its place. -/
def Transfer.moves (t : Transfer) : List (ℕ × ℕ) :=
  (List.range t.len).map fun k => (t.src + k, t.dst + k)

/-- What the engine copies, in order; `none` if it does not find an end mark. -/
def run : List Transfer → Option (List (ℕ × ℕ))
  | [] => none
  | t :: ts => if t.last then some t.moves else (run ts).map (t.moves ++ ·)

variable {P n : ℕ} {bus : ℕ → ℕ} {dst : ℕ}

/-- The length of piece `i`. -/
def pieceLen (P n i : ℕ) : ℕ := min P (n - i * P)

/-- Transfer `i` of the list. -/
def piece (P : ℕ) (bus : ℕ → ℕ) (dst n i : ℕ) : Transfer where
  src := bus i
  dst := dst + i * P
  len := pieceLen P n i
  last := i + 1 = items P n

/-- The list that copies `n` bytes, page `i` of them at `bus i`, to `dst` and behind. -/
def scatter (P : ℕ) (bus : ℕ → ℕ) (dst n : ℕ) : List Transfer :=
  (List.range (items P n)).map (piece P bus dst n)

@[simp] theorem length_scatter : (scatter P bus dst n).length = items P n := by
  rw [scatter, List.length_map, List.length_range]

/-! ### Pieces -/

theorem items_zero (P : ℕ) : items P 0 = 0 := by
  unfold items
  rw [Nat.zero_mod, if_pos rfl, Nat.zero_div]

/-- The pieces before the last are full. -/
theorem pieceLen_of_lt (hP : 0 < P) {i : ℕ} (hi : i + 1 < items P n) : pieceLen P n i = P := by
  have hn : 1 ≤ n := by
    by_contra h0
    rw [Nat.lt_one_iff.mp (not_le.mp h0), items_zero] at hi
    exact absurd hi (Nat.not_lt_zero _)
  rw [items_eq hP hn] at hi
  have hdiv : (i + 1) * P ≤ (n - 1) / P * P := Nat.mul_le_mul_right P (by omega)
  have hle := Nat.div_mul_le_self (n - 1) P
  rw [Nat.succ_mul] at hdiv
  exact Nat.min_eq_left (by omega)

/-- The last piece is what is left. -/
theorem pieceLen_last (hP : 0 < P) (hn : 1 ≤ n) {i : ℕ} (hi : i + 1 = items P n) :
    i * P < n ∧ pieceLen P n i = n - i * P := by
  rw [items_eq hP hn] at hi
  have hi' : i = (n - 1) / P := by omega
  have hle := Nat.div_mul_le_self (n - 1) P
  have hlt := Nat.lt_mul_div_succ (n - 1) hP
  rw [Nat.mul_succ, Nat.mul_comm] at hlt
  rw [hi']
  exact ⟨by omega, Nat.min_eq_right (by omega)⟩

theorem pieceLen_le (P n i : ℕ) : pieceLen P n i ≤ P := Nat.min_le_left _ _

/-- Each piece starts in the range. -/
theorem mul_lt_of_lt_items (hP : 0 < P) {i : ℕ} (hi : i < items P n) : i * P < n := by
  have hn : 1 ≤ n := by
    by_contra h0
    rw [Nat.lt_one_iff.mp (not_le.mp h0), items_zero] at hi
    exact absurd hi (Nat.not_lt_zero _)
  rw [items_eq hP hn] at hi
  have hmul := Nat.mul_le_mul_right P (show i ≤ (n - 1) / P by omega)
  have hle := Nat.div_mul_le_self (n - 1) P
  omega

/-- Each byte of the range is in a piece. -/
theorem div_lt_items (hP : 0 < P) {j : ℕ} (hj : j < n) : j / P < items P n := by
  rw [items_eq hP (by omega)]
  exact Nat.lt_succ_of_le (Nat.div_le_div_right (by omega))

/-- The pieces reach to the end of the range, and less than a piece further. -/
theorem items_mul_bounds (hP : 0 < P) (n : ℕ) : n ≤ items P n * P ∧ items P n * P < n + P := by
  rcases Nat.eq_zero_or_pos n with rfl | hn
  · rw [items_zero]
    omega
  · have hle := Nat.div_mul_le_self (n - 1) P
    have hlt := Nat.lt_mul_div_succ (n - 1) hP
    rw [Nat.mul_succ, Nat.mul_comm] at hlt
    rw [items_eq hP hn, Nat.succ_mul]
    omega

/-- A range that fits into whole pages has no more pieces than these. -/
theorem items_le_div (hP : 0 < P) {R : ℕ} (hR : P ∣ R) (hn : n ≤ R) : items P n ≤ R / P := by
  rcases Nat.eq_zero_or_pos n with rfl | hpos
  · rw [items_zero]
    exact Nat.zero_le _
  · obtain ⟨k, rfl⟩ := hR
    rw [items_eq hP hpos, Nat.mul_div_cancel_left k hP]
    have hlt : (n - 1) / P < k := by
      rw [Nat.div_lt_iff_lt_mul hP, Nat.mul_comm]
      omega
    omega

/-- The pieces cut the range into consecutive parts. -/
theorem flatMap_pieces (hP : 0 < P) (n : ℕ) :
    (List.range (items P n)).flatMap
      (fun i => (List.range (pieceLen P n i)).map (i * P + ·)) = List.range n := by
  -- the full pieces first
  have hfull : ∀ k, k < items P n → (List.range k).flatMap
      (fun i => (List.range (pieceLen P n i)).map (i * P + ·)) = List.range (k * P) := by
    intro k hk
    induction k with
    | zero => rw [Nat.zero_mul, List.range_zero, List.flatMap_nil]
    | succ k ih =>
      rw [List.range_succ, List.flatMap_append, ih (by omega), List.flatMap_singleton,
        pieceLen_of_lt hP hk, Nat.succ_mul, List.range_add]
  by_cases hn : 1 ≤ n
  · obtain ⟨k, hk⟩ : ∃ k, items P n = k + 1 := ⟨_, items_eq hP hn⟩
    obtain ⟨hlt, hlen⟩ := pieceLen_last hP hn hk.symm
    rw [hk, List.range_succ, List.flatMap_append, hfull k (by omega), List.flatMap_singleton,
      hlen, ← List.range_add, Nat.add_sub_cancel' hlt.le]
  · obtain rfl : n = 0 := by omega
    rw [items_zero]
    rfl

/-! ### What the engine copies -/

theorem run_append_last {ts rest : List Transfer} {t : Transfer}
    (hts : ∀ t' ∈ ts, t'.last = false) (ht : t.last = true) :
    run (ts ++ t :: rest) = some ((ts ++ [t]).flatMap Transfer.moves) := by
  induction ts with
  | nil =>
    rw [List.nil_append, List.nil_append, run, if_pos ht, List.flatMap_singleton]
  | cons t' ts ih =>
    have ht' : t'.last = false := hts t' List.mem_cons_self
    have ih' := ih fun t'' h => hts t'' (List.mem_cons_of_mem _ h)
    rw [List.cons_append, run, ht', if_neg Bool.false_ne_true, ih', List.cons_append,
      List.flatMap_cons]
    rfl

/-- The bytes of the pieces, wherever each page comes from and goes to. -/
theorem flatMap_moves_pages (hP : 0 < P) (n : ℕ) (bus place : ℕ → ℕ) :
    (List.range (items P n)).flatMap
        (fun i => (List.range (pieceLen P n i)).map fun k => (bus i + k, place i + k)) =
      (List.range n).map fun j => (bus (j / P) + j % P, place (j / P) + j % P) := by
  rw [← flatMap_pieces hP n, List.map_flatMap]
  congr 1
  funext i
  rw [List.map_map]
  refine List.map_congr_left fun k hk => ?_
  have hkP : k < P := lt_of_lt_of_le (List.mem_range.mp hk) (pieceLen_le P n i)
  have hdiv : (i * P + k) / P = i := by
    rw [Nat.mul_comm, Nat.mul_add_div hP, Nat.div_eq_of_lt hkP, Nat.add_zero]
  have hmod : (i * P + k) % P = k := by
    rw [Nat.mul_comm, Nat.mul_add_mod, Nat.mod_eq_of_lt hkP]
  rw [Function.comp_apply, hdiv, hmod]

/-- The bytes of the list, which go to consecutive places. -/
theorem flatMap_moves_scatter (hP : 0 < P) :
    (scatter P bus dst n).flatMap Transfer.moves =
      (List.range n).map fun j => (bus (j / P) + j % P, dst + j) := by
  have hmoves := flatMap_moves_pages hP n bus fun i => dst + i * P
  rw [scatter, List.flatMap_map]
  refine Eq.trans hmoves (List.map_congr_left fun j _ => ?_)
  rw [Nat.add_assoc, Nat.div_add_mod']

/-- **The engine copies byte `j` of the range to `dst + j`, and nothing else,** whatever stands
behind the list. -/
theorem run_scatter (hP : 0 < P) (hn : 1 ≤ n) (rest : List Transfer) :
    run (scatter P bus dst n ++ rest) =
      some ((List.range n).map fun j => (bus (j / P) + j % P, dst + j)) := by
  obtain ⟨k, hk⟩ : ∃ k, items P n = k + 1 := ⟨_, items_eq hP hn⟩
  have hsplit : scatter P bus dst n =
      (List.range k).map (piece P bus dst n) ++ [piece P bus dst n k] := by
    rw [scatter, hk, List.range_succ, List.map_append]
    rfl
  have hlast : (piece P bus dst n k).last = true := decide_eq_true hk.symm
  have hother : ∀ t ∈ (List.range k).map (piece P bus dst n), t.last = false := by
    intro t ht
    obtain ⟨i, hi, rfl⟩ := List.mem_map.mp ht
    have hik := List.mem_range.mp hi
    exact decide_eq_false (by omega)
  rw [hsplit, List.append_assoc, List.singleton_append, run_append_last hother hlast, ← hsplit,
    flatMap_moves_scatter hP]

/-! ### Tables tell their lists -/

/-- The last entry has the mark, and no other. -/
def Marked {α : Type*} (last : α → Bool) (ts : List α) : Prop :=
  ts ≠ [] ∧ ∀ (i : ℕ) (hi : i < ts.length), last ts[i] = true ↔ i + 1 = ts.length

theorem Marked.length_le {α : Type*} {last : α → Bool} {ts ts' us : List α} (h : Marked last ts)
    (h' : Marked last ts') (hp : ts <+: us) (hp' : ts' <+: us) : ts'.length ≤ ts.length := by
  by_contra hlt
  have hpos : 0 < ts.length := List.length_pos_iff.mpr h.1
  have hi : ts.length - 1 < ts.length := by omega
  have hi' : ts.length - 1 < ts'.length := by omega
  -- the end mark of the shorter list stands within the longer one
  have heq : ts[ts.length - 1] = ts'[ts.length - 1] := (hp.getElem hi).trans (hp'.getElem hi').symm
  have hlast := (h.2 _ hi).mpr (by omega)
  rw [heq] at hlast
  have hend := (h'.2 _ hi').mp hlast
  omega

/-- **A table starts with one marked list at most.** -/
theorem Marked.eq_of_prefix {α : Type*} {last : α → Bool} {ts ts' us : List α}
    (h : Marked last ts) (h' : Marked last ts') (hp : ts <+: us) (hp' : ts' <+: us) : ts = ts' := by
  have hle := h.length_le h' hp hp'
  have hge := h'.length_le h hp' hp
  have hpre := List.prefix_of_prefix_length_le hp hp' hge
  exact hpre.eq_of_length (Nat.le_antisymm hge hle)

/-! ### Where the pieces go -/

theorem sum_len_scatter (hP : 0 < P) : ((scatter P bus dst n).map Transfer.len).sum = n := by
  have h := congrArg List.length (flatMap_pieces hP n)
  simp only [List.length_flatMap, List.length_map, List.length_range] at h
  rw [scatter, List.map_map]
  exact h

theorem getElem_scatter {i : ℕ} (hi : i < (scatter P bus dst n).length) :
    (scatter P bus dst n)[i] = piece P bus dst n i := by
  simp only [scatter, List.getElem_map, List.getElem_range]

/-- Each piece but the first goes behind the one before it. -/
theorem isChain_scatter (hP : 0 < P) :
    (scatter P bus dst n).IsChain fun t t' => t'.dst = t.dst + t.len := by
  rw [List.isChain_iff_getElem]
  intro i hi
  have hi' : i + 1 < items P n := by
    rw [length_scatter] at hi
    exact hi
  rw [getElem_scatter, getElem_scatter]
  show dst + (i + 1) * P = dst + i * P + pieceLen P n i
  rw [pieceLen_of_lt hP hi', Nat.succ_mul, Nat.add_assoc]

/-- No two pieces go to the same place. -/
theorem pairwise_scatter :
    (scatter P bus dst n).Pairwise fun t t' => t.dst + t.len ≤ t'.dst := by
  rw [List.pairwise_iff_getElem]
  intro i j hi hj hij
  rw [getElem_scatter, getElem_scatter]
  show dst + i * P + pieceLen P n i ≤ dst + j * P
  have hlen := pieceLen_le P n i
  have hmul := Nat.mul_le_mul_right P (show i + 1 ≤ j by omega)
  rw [Nat.succ_mul] at hmul
  omega

/-- **The pieces all end below a bound iff the range does,** also when their places are words that
wrap at `M`. -/
theorem forall_piece_le_iff (hP : 0 < P) {M u R : ℕ} (hu : u < M) (hR : R < M) :
    (∀ i < items P n, (u + i * P) % M + pieceLen P n i ≤ R) ↔ n = 0 ∨ u + n ≤ R := by
  constructor
  · intro h
    rcases Nat.eq_zero_or_pos n with h0 | hn
    · exact Or.inl h0
    · -- no piece starts behind the wrap, since the one before it ends below the bound
      have hnowrap : ∀ i < items P n, u + i * P < M := by
        intro i hi
        induction i with
        | zero => rwa [Nat.zero_mul, Nat.add_zero]
        | succ i ih =>
          have hend := h i (by omega)
          rw [Nat.mod_eq_of_lt (ih (by omega)), pieceLen_of_lt hP hi] at hend
          rw [Nat.succ_mul]
          omega
      obtain ⟨k, hk⟩ : ∃ k, items P n = k + 1 := ⟨_, items_eq hP hn⟩
      obtain ⟨hlt, hlen⟩ := pieceLen_last hP hn hk.symm
      have hend := h k (by omega)
      rw [Nat.mod_eq_of_lt (hnowrap k (by omega)), hlen] at hend
      exact Or.inr (by omega)
  · intro h i hi
    have hlt := mul_lt_of_lt_items hP hi
    have hlen : pieceLen P n i ≤ n - i * P := Nat.min_le_right _ _
    rcases h with rfl | h
    · exact absurd hlt (Nat.not_lt_zero _)
    · rw [Nat.mod_eq_of_lt (by omega)]
      omega

end Vidix.Util
