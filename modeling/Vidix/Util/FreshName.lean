import Mathlib.Data.List.Nodup
import Mathlib.Data.List.Perm.Subperm

/-!
# Fresh names

A loop `name = base; while (name in used) name = base + counter++;` runs through the candidates
`candidate 0`, `candidate 1`, … and stops at the first that is not in `used`.  Where the
candidates differ from each other, `used` can hold no more of them than it has entries, so
`used.length` failed tests are enough (`fresh_not_mem`).

`assign` names the members of a list in turn, each name going into `used`.  The names given are
new and differ from each other, whatever the bases (`assign_nodup`, `not_mem_of_mem_assign`).

`numbered` are the candidates of a decimal counter that starts at two.
-/

namespace Vidix.Util

variable {α β : Type*}

/-- A list holds at most as many different candidates as it has entries. -/
theorem le_length_of_forall_mem {candidate : ℕ → α} (hinj : Function.Injective candidate)
    {used : List α} {n : ℕ} (h : ∀ i < n, candidate i ∈ used) : n ≤ used.length := by
  have hnodup : ((List.range n).map candidate).Nodup := List.nodup_range.map hinj
  have hsub : (List.range n).map candidate ⊆ used := by
    intro a ha
    obtain ⟨i, hi, rfl⟩ := List.mem_map.1 ha
    exact h i (List.mem_range.1 hi)
  calc n = ((List.range n).map candidate).length := by simp
    _ ≤ used.length := (hnodup.subperm hsub).length_le

variable [DecidableEq α]

/-! ### The search -/

/-- The first of `candidate k`, `candidate (k + 1)`, … that is not in `used`, with `fuel` the
number of them that may be. -/
def seek (candidate : ℕ → α) (used : List α) : ℕ → ℕ → α
  | 0, k => candidate k
  | fuel + 1, k => if candidate k ∈ used then seek candidate used fuel (k + 1) else candidate k

/-- The first candidate that is not in `used`. -/
def fresh (candidate : ℕ → α) (used : List α) : α :=
  seek candidate used used.length 0

/-- The search stops at a candidate, with all before it in `used`; at one that is in `used` it
stops for want of fuel only. -/
theorem seek_spec (candidate : ℕ → α) (used : List α) (fuel k : ℕ) :
    ∃ j, seek candidate used fuel k = candidate (k + j) ∧
      (∀ i < j, candidate (k + i) ∈ used) ∧ (candidate (k + j) ∈ used → j = fuel) := by
  induction fuel generalizing k with
  | zero =>
    refine ⟨0, rfl, ?_, fun _ => rfl⟩
    intro i hi
    exact absurd hi (Nat.not_lt_zero i)
  | succ fuel ih =>
    rw [seek]
    by_cases hk : candidate k ∈ used
    · obtain ⟨j, hseek, hbefore, hfuel⟩ := ih (k + 1)
      have hshift : ∀ i, k + 1 + i = k + (i + 1) := fun i => by omega
      rw [if_pos hk]
      refine ⟨j + 1, ?_, ?_, ?_⟩
      · rw [hseek, hshift]
      · rintro (_ | i) hi
        · exact hk
        · rw [← hshift]
          exact hbefore i (by omega)
      · intro hmem
        rw [← hshift] at hmem
        rw [hfuel hmem]
    · rw [if_neg hk]
      refine ⟨0, rfl, ?_, fun hmem => absurd hmem hk⟩
      intro i hi
      exact absurd hi (Nat.not_lt_zero i)

/-- **The name found is a new one.** -/
theorem fresh_not_mem {candidate : ℕ → α} (hinj : Function.Injective candidate)
    (used : List α) : fresh candidate used ∉ used := by
  obtain ⟨j, hseek, hbefore, hfuel⟩ := seek_spec candidate used used.length 0
  simp only [Nat.zero_add] at hseek hbefore hfuel
  intro hmem
  rw [fresh, hseek] at hmem
  have hall : ∀ i < used.length + 1, candidate i ∈ used := by
    intro i hi
    rcases Nat.lt_or_ge i j with hij | hij
    · exact hbefore i hij
    · obtain rfl : i = j := by have := hfuel hmem; omega
      exact hmem
  have := le_length_of_forall_mem hinj hall
  omega

/-- The name found is a candidate. -/
theorem exists_fresh_eq (candidate : ℕ → α) (used : List α) :
    ∃ j, fresh candidate used = candidate j := by
  obtain ⟨j, hseek, -⟩ := seek_spec candidate used used.length 0
  exact ⟨0 + j, hseek⟩

/-! ### Naming a list -/

/-- The names of `bases`, given in turn, each put into `used` for those after it. -/
def assign (candidate : β → ℕ → α) (used : List α) : List β → List α
  | [] => []
  | b :: bs =>
    fresh (candidate b) used :: assign candidate (fresh (candidate b) used :: used) bs

variable {candidate : β → ℕ → α}

theorem length_assign (used : List α) (bs : List β) :
    (assign candidate used bs).length = bs.length := by
  induction bs generalizing used with
  | nil => rfl
  | cons b bs ih => rw [assign, List.length_cons, List.length_cons, ih]

/-- A name given was not used before. -/
theorem not_mem_of_mem_assign (hinj : ∀ b, Function.Injective (candidate b)) {a : α}
    {used : List α} {bs : List β} (ha : a ∈ assign candidate used bs) : a ∉ used := by
  induction bs generalizing used with
  | nil => cases ha
  | cons b bs ih =>
    rcases List.mem_cons.1 ha with rfl | ha
    · exact fresh_not_mem (hinj b) used
    · exact fun hmem => ih ha (List.mem_cons_of_mem _ hmem)

/-- **The names given differ from each other.** -/
theorem assign_nodup (hinj : ∀ b, Function.Injective (candidate b)) (used : List α)
    (bs : List β) : (assign candidate used bs).Nodup := by
  induction bs generalizing used with
  | nil => exact List.nodup_nil
  | cons b bs ih =>
    refine List.nodup_cons.2 ⟨?_, ih _⟩
    intro hmem
    exact not_mem_of_mem_assign hinj hmem List.mem_cons_self

/-- A name given is a candidate for the member it was given to. -/
theorem exists_of_mem_assign {a : α} {used : List α} {bs : List β}
    (ha : a ∈ assign candidate used bs) : ∃ b ∈ bs, ∃ k, a = candidate b k := by
  induction bs generalizing used with
  | nil => cases ha
  | cons b bs ih =>
    rcases List.mem_cons.1 ha with rfl | ha
    · exact ⟨b, List.mem_cons_self, exists_fresh_eq (candidate b) used⟩
    · obtain ⟨b', hb', k, hk⟩ := ih ha
      exact ⟨b', List.mem_cons_of_mem b hb', k, hk⟩

/-! ### A decimal counter -/

/-- `base`, `base2`, `base3`, …. -/
def numbered (base : List Char) : ℕ → List Char
  | 0 => base
  | k + 1 => base ++ Nat.toDigits 10 (k + 2)

theorem numbered_injective (base : List Char) : Function.Injective (numbered base) := by
  intro i j h
  match i, j with
  | 0, 0 => rfl
  | 0, j + 1 => exact absurd (List.self_eq_append_right.1 h) Nat.toDigits_ne_nil
  | i + 1, 0 => exact absurd (List.self_eq_append_right.1 h.symm) Nat.toDigits_ne_nil
  | i + 1, j + 1 =>
    have hdigits := List.append_cancel_left h
    have hvalue := congrArg (Nat.ofDigitChars 10 · 0) hdigits
    simp only [Nat.ofDigitChars_ten_toDigits] at hvalue
    omega

/-- The counter writes decimal digits. -/
theorem mem_numbered {base : List Char} {c : Char} {k : ℕ} (h : c ∈ numbered base k) :
    c ∈ base ∨ c.isDigit = true := by
  cases k with
  | zero => exact .inl h
  | succ k =>
    rcases List.mem_append.1 h with h | h
    · exact .inl h
    · exact .inr (Nat.isDigit_of_mem_toDigits (by decide) (by decide) h)

end Vidix.Util
