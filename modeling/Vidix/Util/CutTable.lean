import Mathlib.Data.List.Nodup
import Mathlib.Data.List.Flatten
import Mathlib.Data.List.Induction
import Mathlib.Data.List.Perm.Subperm

/-!
# A table that is filled in pieces and cut off

Pieces `q b`, for the `b` of a list `Q`, are written one after the other into a table of `N`
entries; what does not fit is dropped.  Pieces of different `b` are disjoint, but a `b` may come
again.  When there are at most `N` entries to write at all, each is in the table exactly once iff
no piece is repeated while the table has room (`count_take_flatMap_iff`).

Besides, a search that stops at the first failure finds what a complete one finds iff nothing
comes after a failure (`takeWhile_eq_filter`, `of_mem_takeWhile`).
-/

namespace Vidix.Util

/-! ### Stopping at the first failure -/

section

variable {α : Type*} {p : α → Bool} {l : List α}

theorem takeWhile_eq_filter (h : l.Pairwise fun x y => p y = true → p x = true) :
    l.takeWhile p = l.filter p := by
  induction l with
  | nil => rfl
  | cons x xs ih =>
    obtain ⟨hx, hxs⟩ := List.pairwise_cons.mp h
    by_cases hp : p x = true
    · rw [List.takeWhile_cons_of_pos hp, List.filter_cons_of_pos hp, ih hxs]
    · have hnone : ∀ y ∈ xs, ¬ p y = true := fun y hy hpy => hp (hx y hy hpy)
      rw [List.takeWhile_cons_of_neg hp, List.filter_cons_of_neg hp,
        List.filter_eq_nil_iff.mpr hnone]

/-- In a sorted list, all that is below a found element passed the test. -/
theorem of_mem_takeWhile {r : α → α → Prop} (hr : ∀ x y, r x y → ¬ r y x) (hl : l.Pairwise r)
    {x y : α} (hx : x ∈ l.takeWhile p) (hy : y ∈ l) (hyx : r y x) : p y = true := by
  induction l with
  | nil => exact absurd hy List.not_mem_nil
  | cons z zs ih =>
    obtain ⟨hz, hzs⟩ := List.pairwise_cons.mp hl
    by_cases hp : p z = true
    · rw [List.takeWhile_cons_of_pos hp] at hx
      rcases List.mem_cons.mp hy with rfl | hy'
      · exact hp
      · rcases List.mem_cons.mp hx with rfl | hx'
        · exact absurd hyx (hr x y (hz y hy'))
        · exact ih hzs hx' hy'
    · rw [List.takeWhile_cons_of_neg hp] at hx
      exact absurd hx List.not_mem_nil

end

/-! ### Filling the table -/

variable {β κ : Type*} {q : β → List κ} {N : ℕ} {l : List κ}

/-- `N` different entries out of at most `N` are all of them. -/
theorem subset_of_nodup_of_length {m : List κ} (hm : m.Nodup) (hN : N ≤ m.length)
    (hl : l.length ≤ N) (hsub : m ⊆ l) : l ⊆ m :=
  ((List.subperm_of_subset hm hsub).perm_of_length_le (by omega)).symm.subset

/-- When no piece is repeated while there is room, the table has no entry twice and drops none. -/
theorem take_flatMap_covers (hnodup : ∀ b, (q b).Nodup)
    (hdisj : ∀ b b', b ≠ b' → List.Disjoint (q b) (q b')) (hl : l.length ≤ N) (Q : List β)
    (hsub : ∀ b ∈ Q, ∀ k ∈ q b, k ∈ l)
    (hrep : ∀ A b B, Q = A ++ b :: B → b ∈ A → q b ≠ [] → N ≤ (A.flatMap q).length) :
    ((Q.flatMap q).take N).Nodup ∧ Q.flatMap q ⊆ (Q.flatMap q).take N := by
  induction Q using List.reverseRecOn with
  | nil =>
    rw [List.flatMap_nil, List.take_nil]
    exact ⟨List.nodup_nil, List.Subset.refl _⟩
  | append_singleton Q b ih =>
    obtain ⟨hnd, hcov⟩ := ih (fun b' hb' => hsub b' (List.mem_append_left _ hb'))
      (fun A b' B h => hrep A b' (B ++ [b]) (by rw [h]; simp))
    have hQ : Q.flatMap q ⊆ l := by
      intro k hk
      obtain ⟨b', hb', hk'⟩ := List.mem_flatMap.mp hk
      exact hsub b' (List.mem_append_left _ hb') k hk'
    have hb : q b ⊆ l := hsub b (List.mem_append_right _ (List.mem_singleton_self b))
    rw [List.flatMap_append, List.flatMap_singleton]
    by_cases hfull : N ≤ (Q.flatMap q).length
    · -- the table is full, and full of everything there is
      rw [List.take_append_of_le_length hfull]
      refine ⟨hnd, ?_⟩
      have hall : l ⊆ (Q.flatMap q).take N := by
        refine subset_of_nodup_of_length hnd ?_ hl (List.Subset.trans (List.take_subset _ _) hQ)
        rw [List.length_take]
        omega
      exact List.append_subset.mpr ⟨hcov, List.Subset.trans hb hall⟩
    · rw [List.take_of_length_le (by omega)] at hnd
      -- there is room, so that the piece is new or empty
      have hnew : List.Disjoint (Q.flatMap q) (q b) := by
        intro k hk hkb
        obtain ⟨b', hb', hk'⟩ := List.mem_flatMap.mp hk
        by_cases hbb : b' = b
        · exact hfull (hrep Q b [] (by simp) (hbb ▸ hb') (List.ne_nil_of_mem hkb))
        · exact hdisj b' b hbb hk' hkb
      have hboth : (Q.flatMap q ++ q b).Nodup := List.Nodup.append hnd (hnodup b) hnew
      have hlen : (Q.flatMap q ++ q b).length ≤ N :=
        Nat.le_trans (List.subperm_of_subset hboth (List.append_subset.mpr ⟨hQ, hb⟩)).length_le hl
      rw [List.take_of_length_le hlen]
      exact ⟨hboth, List.Subset.refl _⟩

/-- **Each entry is in the table exactly once iff no piece is repeated while there is room.** -/
theorem count_take_flatMap_iff [BEq κ] [LawfulBEq κ] (hnodup : ∀ b, (q b).Nodup)
    (hdisj : ∀ b b', b ≠ b' → List.Disjoint (q b) (q b')) (hl : l.length ≤ N) {Q : List β}
    (hsub : ∀ b ∈ Q, ∀ k ∈ q b, k ∈ l) :
    (∀ k ∈ Q.flatMap q, ((Q.flatMap q).take N).count k = 1) ↔
      ∀ A b B, Q = A ++ b :: B → b ∈ A → q b ≠ [] → N ≤ (A.flatMap q).length := by
  constructor
  · intro hcount A b B hQ hbA hne
    by_contra hroom
    obtain ⟨k, ks, hks⟩ := List.exists_cons_of_ne_nil hne
    have hkb : k ∈ q b := by rw [hks]; exact List.mem_cons_self
    have hkA : k ∈ A.flatMap q := List.mem_flatMap.mpr ⟨b, hbA, hkb⟩
    have hkQ : k ∈ Q.flatMap q := by
      rw [hQ, List.flatMap_append]
      exact List.mem_append_left _ hkA
    -- the first entry of the repeated piece is written again, in the room left
    have hsplit : Q.flatMap q = (A.flatMap q ++ [k]) ++ (ks ++ B.flatMap q) := by
      rw [hQ, List.flatMap_append, List.flatMap_cons, hks]
      simp
    have hpre : A.flatMap q ++ [k] <+: (Q.flatMap q).take N := by
      refine List.prefix_take_iff.mpr ⟨⟨_, hsplit.symm⟩, ?_⟩
      rw [List.length_append, List.length_singleton]
      omega
    have htwo : 2 ≤ (A.flatMap q ++ [k]).count k := by
      rw [List.count_append, List.count_singleton_self]
      have := List.count_pos_iff.mpr hkA
      omega
    have hle := hpre.sublist.count_le k
    have hone := hcount k hkQ
    omega
  · intro hrep k hk
    obtain ⟨hnd, hcov⟩ := take_flatMap_covers hnodup hdisj hl Q hsub hrep
    exact List.count_eq_one_of_mem hnd (hcov hk)

end Vidix.Util
