import Vidix.Util.ScatterList
import Vidix.Util.Word

/-!
# Counting loops over words

`for (x = 0; x < bound; x += step)` need not end: where the counter passes the largest word it
starts again.  A run with `fuel` rounds therefore says what was done and whether the end was
reached (`Trace`).  More fuel only carries a run on (`forLoop_mono`), rounds that do not wrap can be
taken off one by one (`forLoop_rounds`), which gives the whole run where the counter gets past the
bound without wrapping (`forLoop_eq`), and a counter that keeps an invariant below the bound never
leaves the loop (`forLoop_not_ended`).
-/

namespace Vidix.Util

variable {σ μ : Type*}

/-! ### Traces -/

/-- What was done, in order, and whether the program got to the end. -/
structure Trace (μ : Type*) where
  moves : List μ
  ended : Bool
  deriving DecidableEq, Repr

namespace Trace

/-- `t` after `s`, which is not reached if `s` does not end. -/
def andThen (s t : Trace μ) : Trace μ := if s.ended then ⟨s.moves ++ t.moves, t.ended⟩ else s

/-- `t` is `s` or goes on where `s` was cut short. -/
def Extends (t s : Trace μ) : Prop := t = s ∨ (s.ended = false ∧ s.moves <+: t.moves)

theorem andThen_of_ended {s : Trace μ} (h : s.ended = true) (t : Trace μ) :
    s.andThen t = ⟨s.moves ++ t.moves, t.ended⟩ := if_pos h

theorem andThen_of_not_ended {s : Trace μ} (h : s.ended = false) (t : Trace μ) :
    s.andThen t = s := by
  unfold andThen
  rw [h, if_neg Bool.false_ne_true]

@[simp] theorem mk_andThen_mk (ms ns : List μ) (b : Bool) :
    (⟨ms, true⟩ : Trace μ).andThen ⟨ns, b⟩ = ⟨ms ++ ns, b⟩ := rfl

theorem andThen_assoc (s t u : Trace μ) : (s.andThen t).andThen u = s.andThen (t.andThen u) := by
  cases hs : s.ended with
  | false => rw [andThen_of_not_ended hs, andThen_of_not_ended hs, andThen_of_not_ended hs]
  | true =>
    rw [andThen_of_ended hs, andThen_of_ended hs]
    cases ht : t.ended with
    | false => rw [andThen_of_not_ended ht, andThen_of_not_ended rfl, ht]
    | true => rw [andThen_of_ended ht, andThen_of_ended rfl, List.append_assoc]

theorem mem_andThen_left {s : Trace μ} {m : μ} (h : m ∈ s.moves) (t : Trace μ) :
    m ∈ (s.andThen t).moves := by
  cases hs : s.ended with
  | false => rwa [andThen_of_not_ended hs]
  | true =>
    rw [andThen_of_ended hs]
    exact List.mem_append_left _ h

theorem forall_mem_andThen {s t : Trace μ} {P : μ → Prop} :
    (∀ m ∈ (s.andThen t).moves, P m) ↔
      (∀ m ∈ s.moves, P m) ∧ (s.ended = true → ∀ m ∈ t.moves, P m) := by
  cases hs : s.ended with
  | false =>
    rw [andThen_of_not_ended hs]
    exact ⟨fun h => ⟨h, fun h' => absurd h' Bool.false_ne_true⟩, fun h => h.1⟩
  | true =>
    rw [andThen_of_ended hs]
    simp only [List.mem_append, forall_true_left]
    exact ⟨fun h => ⟨fun m hm => h m (.inl hm), fun m hm => h m (.inr hm)⟩,
      fun h m hm => hm.elim (h.1 m) (h.2 m)⟩

theorem Extends.refl (s : Trace μ) : s.Extends s := .inl rfl

/-- A trace that got to its end is not carried on. -/
theorem Extends.eq {s t : Trace μ} (h : t.Extends s) (hs : s.ended = true) : t = s :=
  h.elim id fun ⟨h', _⟩ => absurd (hs.symm.trans h') (Bool.false_ne_true ∘ Eq.symm)

theorem Extends.moves {s t : Trace μ} (h : t.Extends s) : s.moves <+: t.moves := by
  rcases h with rfl | ⟨-, h⟩
  · exact List.prefix_rfl
  · exact h

theorem Extends.andThen {s s' t t' : Trace μ} (hs : s'.Extends s) (ht : t'.Extends t) :
    (s'.andThen t').Extends (s.andThen t) := by
  cases h : s.ended with
  | true =>
    rw [hs.eq h, andThen_of_ended h, andThen_of_ended h]
    rcases ht with rfl | ⟨hend, hpre⟩
    · exact .refl _
    · exact .inr ⟨hend, (List.prefix_append_right_inj _).mpr hpre⟩
  | false =>
    rw [andThen_of_not_ended h]
    refine .inr ⟨h, hs.moves.trans ?_⟩
    cases h' : s'.ended with
    | true =>
      rw [andThen_of_ended h']
      exact List.prefix_append _ _
    | false => rw [andThen_of_not_ended h']

end Trace

/-! ### The loop -/

/-- `for (; x < bound; x += step)`, for at most `fuel` rounds.  A round gets the counter and what
the rounds before left behind, and says what it does and leaves behind itself. -/
def forLoop (bound step : UInt32) (body : UInt32 → σ → Trace μ × σ) : ℕ → UInt32 → σ → Trace μ
  | 0, _, _ => ⟨[], false⟩
  | fuel + 1, x, s =>
    if x < bound then
      (body x s).1.andThen (forLoop bound step body fuel (x + step) (body x s).2)
    else ⟨[], true⟩

variable {bound step : UInt32} {body body' : UInt32 → σ → Trace μ × σ}

theorem forLoop_of_lt {x : UInt32} (h : x < bound) (fuel : ℕ) (s : σ) :
    forLoop bound step body (fuel + 1) x s =
      (body x s).1.andThen (forLoop bound step body fuel (x + step) (body x s).2) := if_pos h

theorem forLoop_of_not_lt {x : UInt32} (h : ¬ x < bound) (fuel : ℕ) (s : σ) :
    forLoop bound step body (fuel + 1) x s = ⟨[], true⟩ := if_neg h

/-- **More fuel carries a run on**, also where its rounds are loops with fuel of their own. -/
theorem forLoop_mono (hbody : ∀ x s, (body' x s).1.Extends (body x s).1)
    (hstate : ∀ x s, (body' x s).2 = (body x s).2) {n m : ℕ} (h : n ≤ m) (x : UInt32) (s : σ) :
    (forLoop bound step body' m x s).Extends (forLoop bound step body n x s) := by
  induction n generalizing m x s with
  | zero => exact .inr ⟨rfl, List.nil_prefix⟩
  | succ n ih =>
    obtain ⟨m, rfl⟩ : ∃ k, m = k + 1 := ⟨m - 1, by omega⟩
    by_cases hx : x < bound
    · rw [forLoop_of_lt hx, forLoop_of_lt hx, hstate]
      exact (hbody x s).andThen (ih (by omega) _ _)
    · rw [forLoop_of_not_lt hx, forLoop_of_not_lt hx]
      exact .refl _

/-- **`k` rounds of the loop**, with what each of them does and leaves behind. -/
theorem forLoop_rounds {b k : ℕ} {state : ℕ → σ} {out : ℕ → List μ}
    (hbound : ∀ j < k, UInt32.ofNat (j * b) < bound)
    (hbody : ∀ j < k, body (UInt32.ofNat (j * b)) (state j) = (⟨out j, true⟩, state (j + 1)))
    (fuel : ℕ) :
    forLoop bound (UInt32.ofNat b) body (k + fuel) 0 (state 0) =
      (⟨(List.range k).flatMap out, true⟩ : Trace μ).andThen
        (forLoop bound (UInt32.ofNat b) body fuel (UInt32.ofNat (k * b)) (state k)) := by
  induction k generalizing fuel with
  | zero =>
    rw [Nat.zero_mul, Nat.zero_add]
    rfl
  | succ k ih =>
    have hrounds := ih (fun j hj => hbound j (by omega)) (fun j hj => hbody j (by omega)) (fuel + 1)
    rw [show k + 1 + fuel = k + (fuel + 1) by omega, hrounds,
      forLoop_of_lt (hbound k (Nat.lt_succ_self k)), hbody k (Nat.lt_succ_self k),
      ← Trace.andThen_assoc, Trace.mk_andThen_mk, List.range_succ, List.flatMap_append,
      List.flatMap_singleton, ofNat_succ_mul, UInt32.add_comm (UInt32.ofNat b)]

/-- A counter that does not wrap, compared with the bound. -/
theorem ofNat_lt_iff {n : ℕ} (hn : n < 2 ^ 32) (w : UInt32) : UInt32.ofNat n < w ↔ n < w.toNat := by
  rw [UInt32.lt_iff_toNat_lt, toNat_ofNat_of_lt hn]

/-- What round `k` does is done, if the rounds before it end. -/
theorem mem_forLoop {b k : ℕ} (state : ℕ → σ) (out : ℕ → List μ) {m : μ} (hk : k * b < bound.toNat)
    (hbody : ∀ j < k, body (UInt32.ofNat (j * b)) (state j) = (⟨out j, true⟩, state (j + 1)))
    (hm : m ∈ (body (UInt32.ofNat (k * b)) (state k)).1.moves) {fuel : ℕ} (hfuel : k < fuel) :
    m ∈ (forLoop bound (UInt32.ofNat b) body fuel 0 (state 0)).moves := by
  have hbound : ∀ j ≤ k, UInt32.ofNat (j * b) < bound := fun j hj => by
    have hle := Nat.mul_le_mul_right b hj
    have hlt := bound.toNat_lt
    exact (ofNat_lt_iff (by omega) _).mpr (by omega)
  obtain ⟨fuel, rfl⟩ : ∃ n, fuel = k + (n + 1) := ⟨fuel - k - 1, by omega⟩
  rw [forLoop_rounds (fun j hj => hbound j hj.le) hbody, forLoop_of_lt (hbound k le_rfl),
    Trace.andThen_of_ended rfl]
  exact List.mem_append_right _ (Trace.mem_andThen_left hm _)

/-- **The whole loop**, where the counter gets past the bound. -/
theorem forLoop_eq {b : ℕ} (state : ℕ → σ) {out : ℕ → List μ} (hb : 0 < b)
    (hbound : bound.toNat + b ≤ 2 ^ 32)
    (hbody : ∀ j < items b bound.toNat,
      body (UInt32.ofNat (j * b)) (state j) = (⟨out j, true⟩, state (j + 1)))
    {fuel : ℕ} (hfuel : items b bound.toNat < fuel) :
    forLoop bound (UInt32.ofNat b) body fuel 0 (state 0) =
      ⟨(List.range (items b bound.toNat)).flatMap out, true⟩ := by
  have hlt : ∀ j < items b bound.toNat, UInt32.ofNat (j * b) < bound := fun j hj => by
    have hj := mul_lt_of_lt_items hb hj
    exact (ofNat_lt_iff (by omega) _).mpr hj
  obtain ⟨hle, hend⟩ := items_mul_bounds hb bound.toNat
  have hnot : ¬ UInt32.ofNat (items b bound.toNat * b) < bound := by
    rw [ofNat_lt_iff (by omega)]
    omega
  obtain ⟨fuel, rfl⟩ : ∃ n, fuel = items b bound.toNat + (n + 1) :=
    ⟨fuel - items b bound.toNat - 1, by omega⟩
  rw [forLoop_rounds hlt hbody, forLoop_of_not_lt hnot, Trace.mk_andThen_mk, List.append_nil]

/-- What holds of all that a round can do holds of all that the loop does. -/
theorem forall_mem_forLoop {P : μ → Prop} (h : ∀ x s, x < bound → ∀ m ∈ (body x s).1.moves, P m)
    (fuel : ℕ) (x : UInt32) (s : σ) : ∀ m ∈ (forLoop bound step body fuel x s).moves, P m := by
  induction fuel generalizing x s with
  | zero => exact fun m hm => absurd hm List.not_mem_nil
  | succ fuel ih =>
    by_cases hx : x < bound
    · rw [forLoop_of_lt hx, Trace.forall_mem_andThen]
      exact ⟨h x s hx, fun _ => ih _ _⟩
    · rw [forLoop_of_not_lt hx]
      exact fun m hm => absurd hm List.not_mem_nil

/-- **A loop that does not end**: the counter keeps below the bound. -/
theorem forLoop_not_ended {I : UInt32 → Prop} (hlt : ∀ x, I x → x < bound)
    (hstep : ∀ x, I x → I (x + step)) (fuel : ℕ) {x : UInt32} (hx : I x) (s : σ) :
    (forLoop bound step body fuel x s).ended = false := by
  induction fuel generalizing x s with
  | zero => rfl
  | succ fuel ih =>
    rw [forLoop_of_lt (hlt x hx)]
    cases h : (body x s).1.ended with
    | false => rw [Trace.andThen_of_not_ended h, h]
    | true =>
      rw [Trace.andThen_of_ended h]
      exact ih (hstep x hx) _

end Vidix.Util
