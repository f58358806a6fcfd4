import Mathlib.Order.Basic
import Mathlib.Data.Nat.Basic
import Mathlib.Tactic.SplitIfs

/-!
# Descending first-match search

`descend p n` is what a loop `for (; n > 0; n--) if (p n) break;` leaves in its counter: the
largest positive `k ≤ n` that `p` accepts, and `0` when it accepts none.

The main fact is `descend_iff_of_antitone`: for a property `Q` that passes from a number to every
smaller one (such as "this many items fit"), the number found has `Q` iff **every** accepted
number has it.  A property of the result is thereby a property of the test alone.

`descendWith` is the same search in a loop that keeps what it computes for the test.
-/

namespace Vidix.Util

/-- The largest `k` with `0 < k ≤ n` and `p k`, or `0`. -/
def descend (p : ℕ → Bool) : ℕ → ℕ
  | 0 => 0
  | n + 1 => if p (n + 1) then n + 1 else descend p n

variable {p : ℕ → Bool}

theorem descend_le (n : ℕ) : descend p n ≤ n := by
  induction n with
  | zero => exact le_rfl
  | succ n ih =>
    rw [descend]
    split_ifs
    · exact le_rfl
    · omega

/-- A positive result is accepted. -/
theorem descend_accepted {n : ℕ} (h : 0 < descend p n) : p (descend p n) = true := by
  induction n with
  | zero => exact absurd h (lt_irrefl 0)
  | succ n ih =>
    rw [descend] at h ⊢
    split_ifs at h ⊢ with hp
    · exact hp
    · exact ih h

/-- No accepted number is above the result. -/
theorem le_descend {n k : ℕ} (hk : 0 < k) (hkn : k ≤ n) (hp : p k = true) : k ≤ descend p n := by
  induction n with
  | zero => omega
  | succ n ih =>
    rw [descend]
    split_ifs with hn
    · exact hkn
    · have hne : k ≠ n + 1 := fun h => hn (h ▸ hp)
      exact ih (by omega)

/-- The search ends above `m` iff some number above `m` is accepted. -/
theorem lt_descend_iff {n m : ℕ} : m < descend p n ↔ ∃ k, m < k ∧ k ≤ n ∧ p k = true := by
  constructor
  · intro h
    exact ⟨descend p n, h, descend_le n, descend_accepted (by omega)⟩
  · rintro ⟨k, hmk, hkn, hp⟩
    exact lt_of_lt_of_le hmk (le_descend (by omega) hkn hp)

/-- **A downward-closed property of the number found is a property of the test.** -/
theorem descend_iff_of_antitone {Q : ℕ → Prop} (hQ : ∀ a b, a ≤ b → Q b → Q a) {n m : ℕ}
    (h : m < descend p n) :
    Q (descend p n) ↔ ∀ k, m < k → k ≤ n → p k = true → Q k := by
  constructor
  · intro hq k hmk hkn hp
    exact hQ k _ (le_descend (by omega) hkn hp) hq
  · intro hall
    exact hall _ h (descend_le n) (descend_accepted (by omega))

/-! ### A search that keeps a value -/

variable {σ : Type*} {value : ℕ → σ} {accept : σ → Bool}

/-- The search of a loop that computes a value for each number and tests it: the number found, and
the value computed last. -/
def descendWith (value : ℕ → σ) (accept : σ → Bool) : ℕ → σ → ℕ × σ
  | 0, x => (0, x)
  | n + 1, _ =>
    if accept (value (n + 1)) then (n + 1, value (n + 1))
    else descendWith value accept n (value (n + 1))

theorem descendWith_fst (n : ℕ) (x : σ) :
    (descendWith value accept n x).1 = descend (fun k => accept (value k)) n := by
  induction n generalizing x with
  | zero => rfl
  | succ n ih =>
    rw [descendWith, descend]
    split_ifs
    · rfl
    · exact ih _

/-- The value kept is that of the number found. -/
theorem descendWith_snd {n : ℕ} {x : σ} (h : 0 < (descendWith value accept n x).1) :
    (descendWith value accept n x).2 = value (descendWith value accept n x).1 := by
  induction n generalizing x with
  | zero => exact absurd h (lt_irrefl 0)
  | succ n ih =>
    rw [descendWith] at h ⊢
    split_ifs at h ⊢
    · rfl
    · exact ih h

end Vidix.Util
