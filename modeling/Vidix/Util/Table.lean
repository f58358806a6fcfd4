import Mathlib.Data.List.Basic

/-!
# Tables of a fixed length

A program that keeps a table of `n` entries may be asked for an entry by any number.  `slot n i` is
the entry of the number `i`, where the table has one; an index that is not compared with the length
of the table leads behind it.

That all entries of a table have a decidable property is decided entry by entry.  Where the type is
finite as well, an instance search may choose to go through the whole type (`forall_mem_of_all`).
-/

namespace Vidix.Util

/-- The entry of the number `i` in a table of `n` entries. -/
def slot (n i : ℕ) : Option (Fin n) := if h : i < n then some ⟨i, h⟩ else none

variable {n i : ℕ} {k : Fin n}

theorem slot_of_lt (h : i < n) : slot n i = some ⟨i, h⟩ := dif_pos h

theorem slot_eq_none_iff : slot n i = none ↔ n ≤ i := by
  unfold slot
  rw [dite_eq_right_iff, ← Nat.not_lt]
  exact ⟨fun h hlt => Option.some_ne_none _ (h hlt), fun h hlt => absurd hlt h⟩

theorem slot_eq_some_iff : slot n i = some k ↔ i = k := by
  constructor
  · intro h
    unfold slot at h
    split at h
    · cases h
      rfl
    · cases h
  · rintro rfl
    exact slot_of_lt k.isLt

/-- An entry that is there has a number below the length. -/
theorem lt_of_slot (h : slot n i = some k) : i < n := by
  rw [slot_eq_some_iff.mp h]
  exact k.isLt

theorem forall_mem_of_all {α : Type*} {p : α → Prop} [DecidablePred p] {l : List α}
    (h : (l.all fun a => decide (p a)) = true) : ∀ a ∈ l, p a :=
  fun a ha => of_decide_eq_true (List.all_eq_true.mp h a ha)

end Vidix.Util
