import Mathlib.Data.List.Basic
import Mathlib.Order.Nat

/-!
# Compacting an array in place

A loop goes over an array with a second cursor, which stays behind: an element that is kept is
copied to the second cursor, one that is not is passed over.  After `i` rounds the array begins with
what was kept of its first `i` elements, and is as before from the second cursor on (`compacted`).
-/

namespace Vidix.Util

variable {α : Type*} (keep : α → Bool) (l : List α)

/-- The second cursor after `i` rounds. -/
def keptCount (i : ℕ) : ℕ := ((l.take i).filter keep).length

/-- The array after `i` rounds. -/
def compacted (i : ℕ) : List α := (l.take i).filter keep ++ l.drop (keptCount keep l i)

variable {keep l} {i : ℕ} {a : α}

@[simp] theorem keptCount_zero : keptCount keep l 0 = 0 := rfl

@[simp] theorem compacted_zero : compacted keep l 0 = l := rfl

theorem keptCount_le (keep : α → Bool) (l : List α) (i : ℕ) : keptCount keep l i ≤ i :=
  (List.length_filter_le _ _).trans (List.length_take_le _ _)

theorem keptCount_length : keptCount keep l l.length = (l.filter keep).length := by
  rw [keptCount, List.take_length]

theorem keptCount_succ_of_keep (h : l[i]? = some a) (hkeep : keep a = true) :
    keptCount keep l (i + 1) = keptCount keep l i + 1 := by
  simp [keptCount, List.take_add_one, h, hkeep]

theorem keptCount_succ_of_drop (h : l[i]? = some a) (hkeep : keep a = false) :
    keptCount keep l (i + 1) = keptCount keep l i := by
  simp [keptCount, List.take_add_one, h, hkeep]

/-- The second cursor keeps up as long as everything is kept. -/
theorem keptCount_eq_iff (hi : i ≤ l.length) :
    keptCount keep l i = i ↔ ∀ b ∈ l.take i, keep b = true := by
  have hlen : (l.take i).length = i := List.length_take_of_le hi
  rw [← List.length_filter_eq_length_iff, hlen, keptCount]

@[simp] theorem length_compacted (i : ℕ) : (compacted keep l i).length = l.length := by
  have hle : keptCount keep l i ≤ l.length :=
    (List.length_filter_le _ _).trans (List.length_take_le' _ _)
  rw [compacted, List.length_append, List.length_drop, ← keptCount]
  exact Nat.add_sub_cancel' hle

/-- What the first cursor reads is still as it was. -/
theorem getElem?_compacted {j : ℕ} (hj : i ≤ j) : (compacted keep l i)[j]? = l[j]? := by
  have hle := (keptCount_le keep l i).trans hj
  unfold compacted
  rw [List.getElem?_append_right (by exact hle), List.getElem?_drop]
  congr 1
  exact Nat.add_sub_cancel' hle

/-- An element that is kept is copied to the second cursor. -/
theorem compacted_succ_of_keep (h : l[i]? = some a) (hkeep : keep a = true) :
    compacted keep l (i + 1) = (compacted keep l i).set (keptCount keep l i) a := by
  have hlt : keptCount keep l i < l.length :=
    (keptCount_le keep l i).trans_lt (List.getElem?_eq_some_iff.mp h).1
  have hset : (l.drop (keptCount keep l i)).set 0 a = a :: l.drop (keptCount keep l i + 1) := by
    rw [List.drop_eq_getElem_cons hlt, List.set_cons_zero]
  unfold compacted
  rw [keptCount_succ_of_keep h hkeep, List.take_add_one, h, Option.toList_some, List.filter_append,
    List.set_append_right _ _ (by exact le_rfl), ← keptCount, Nat.sub_self, hset]
  simp [hkeep]

/-- The copy does nothing where the two cursors are at the same place. -/
theorem compacted_succ_of_eq (h : l[i]? = some a) (hkeep : keep a = true)
    (heq : keptCount keep l i = i) : compacted keep l (i + 1) = compacted keep l i := by
  have hget : (compacted keep l i)[i]? = some a := (getElem?_compacted le_rfl).trans h
  obtain ⟨hlt, rfl⟩ := List.getElem?_eq_some_iff.mp hget
  rw [compacted_succ_of_keep h hkeep, heq]
  exact List.set_getElem_self hlt

/-- An element that is not kept is passed over. -/
theorem compacted_succ_of_drop (h : l[i]? = some a) (hkeep : keep a = false) :
    compacted keep l (i + 1) = compacted keep l i := by
  unfold compacted
  rw [keptCount_succ_of_drop h hkeep, List.take_add_one, h, Option.toList_some]
  simp [hkeep]

/-- **At the end the array begins with what was kept,** in the order in which it was. -/
theorem take_compacted_length :
    (compacted keep l l.length).take (keptCount keep l l.length) = l.filter keep := by
  unfold compacted
  rw [keptCount_length, List.take_length]
  exact List.take_left

end Vidix.Util
