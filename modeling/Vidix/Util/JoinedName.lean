import Mathlib.Data.List.Nodup

/-!
# Names joined by a separator

Two parts written with a separator between them, `v ++ sep :: d`, cannot always be told from two
others: where the separator may stand inside a part, a piece `x` can belong to the end of the
first part or to the start of the second.  That is the only ambiguity (`joined_eq_iff`), so
different pairs have different joined names exactly when no two of them straddle
(`nodup_joined_iff`).
-/

namespace Vidix.Util

variable {α : Type*} {sep : α}

/-- The first part of `q` is longer than that of `p` by a piece that the second part of `p`
starts with. -/
def Straddle (sep : α) (p q : List α × List α) : Prop :=
  ∃ x, q.1 = p.1 ++ sep :: x ∧ p.2 = x ++ sep :: q.2

/-- The two parts with the separator between them. -/
def joined (sep : α) (p : List α × List α) : List α :=
  p.1 ++ sep :: p.2

theorem joined_eq_of_straddle {p q : List α × List α} (h : Straddle sep p q) :
    joined sep p = joined sep q := by
  obtain ⟨x, hq, hp⟩ := h
  rw [joined, joined, hq, hp, List.append_assoc, List.cons_append]

/-- A part is not longer than itself. -/
theorem not_straddle_self (p : List α × List α) : ¬ Straddle sep p p := by
  rintro ⟨x, h, -⟩
  exact absurd (List.self_eq_append_right.1 h) (List.cons_ne_nil _ _)

theorem joined_eq_iff {p q : List α × List α} :
    joined sep p = joined sep q ↔ p = q ∨ Straddle sep p q ∨ Straddle sep q p := by
  constructor
  · intro h
    rcases List.append_eq_append_iff.1 h with ⟨y, hq, hrest⟩ | ⟨y, hp, hrest⟩
    · cases y with
      | nil =>
        rw [List.append_nil] at hq
        rw [List.nil_append, List.cons.injEq] at hrest
        exact .inl (Prod.ext hq.symm hrest.2)
      | cons c x =>
        rw [List.cons_append, List.cons.injEq] at hrest
        obtain ⟨rfl, hrest⟩ := hrest
        exact .inr (.inl ⟨x, hq, hrest⟩)
    · cases y with
      | nil =>
        rw [List.append_nil] at hp
        rw [List.nil_append, List.cons.injEq] at hrest
        exact .inl (Prod.ext hp hrest.2.symm)
      | cons c x =>
        rw [List.cons_append, List.cons.injEq] at hrest
        obtain ⟨rfl, hrest⟩ := hrest
        exact .inr (.inr ⟨x, hp, hrest⟩)
  · rintro (rfl | h | h)
    · rfl
    · exact joined_eq_of_straddle h
    · exact (joined_eq_of_straddle h).symm

/-- **Different pairs have different joined names iff no two of them straddle.** -/
theorem nodup_joined_iff {ps : List (List α × List α)} (hps : ps.Nodup) :
    (ps.map (joined sep)).Nodup ↔ ∀ p ∈ ps, ∀ q ∈ ps, ¬ Straddle sep p q := by
  rw [List.nodup_map_iff_inj_on hps]
  constructor
  · intro hinj p hp q hq h
    obtain rfl := hinj p hp q hq (joined_eq_of_straddle h)
    exact not_straddle_self p h
  · intro h p hp q hq heq
    rcases joined_eq_iff.1 heq with heq | hpq | hqp
    · exact heq
    · exact absurd hpq (h p hp q hq)
    · exact absurd hqp (h q hq p hp)

end Vidix.Util
