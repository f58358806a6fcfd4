import Mathlib.Data.List.Infix
import Mathlib.Tactic.SplitIfs

/-!
# Walking a list that grows while it is walked

`walk visit queue` is the loop

```
i = 0; do { visit(queue[i]); } while (++i < length(queue));
```

where a visit may append to the queue, and fails when the queue outgrows its array.  A `Summary`
says what a state is after a list of visits (`after`), so that the loop can be judged without its
state: it ends iff some list of at most `cap` entries is *closed*, that is, announces exactly
itself, and the walk then visits the least such list (`walk_done_iff`, `IsOrder.prefix_of_closed`).
-/

namespace Vidix.Util

/-- How a walk ends. -/
inductive Walk (σ : Type*)
  | fuelOut
  | overrun
  | done (s : σ)

/-- A function of the state that a walk ends in. -/
def Walk.map {σ τ : Type*} (f : σ → τ) : Walk σ → Walk τ
  | .fuelOut => .fuelOut
  | .overrun => .overrun
  | .done s => .done (f s)

theorem Walk.map_eq_done {σ τ : Type*} {f : σ → τ} {w : Walk σ} {t : τ} :
    w.map f = .done t ↔ ∃ s, w = .done s ∧ f s = t := by
  cases w <;> simp [Walk.map]

section

variable {α σ : Type*} (visit : α → σ → Option σ) (queue : σ → List α)

/-- The loop, from index `i` on.  The queue is read at `i` before the first test, as in the source
of any `do .. while`. -/
def walk : ℕ → ℕ → σ → Walk σ
  | 0, _, _ => .fuelOut
  | fuel + 1, i, s =>
    match (queue s)[i]? with
    | none => .overrun
    | some a =>
      match visit a s with
      | none => .overrun
      | some s' => if i + 1 < (queue s').length then walk fuel (i + 1) s' else .done s'

/-- `after A` is the state after the visits `A`: a visit extends it, unless the queue would then
have more than `cap` entries. -/
structure Summary (after : List α → σ) (cap : ℕ) : Prop where
  visit_after : ∀ A a, (queue (after A)).length ≤ cap →
    visit a (after A) =
      if (queue (after (A ++ [a]))).length ≤ cap then some (after (A ++ [a])) else none
  queue_prefix : ∀ A a, queue (after A) <+: queue (after (A ++ [a]))
  init_ne : queue (after []) ≠ []
  init_le : (queue (after [])).length ≤ cap

/-- `Q` is an order in which everything announced is visited once and in turn: it announces
itself, and no visit comes before its announcement. -/
structure IsOrder (after : List α → σ) (Q : List α) : Prop where
  closed : queue (after Q) = Q
  announced : ∀ i < Q.length, i < (queue (after (Q.take i))).length

/-- The loop is about to make its next visit after the visits `A`. -/
structure AtHead (after : List α → σ) (cap : ℕ) (A : List α) : Prop where
  visited : A <+: queue (after A)
  more : A.length < (queue (after A)).length
  fits : (queue (after A)).length ≤ cap
  announced : ∀ i < A.length, i < (queue (after (A.take i))).length

end

variable {α σ : Type*} {visit : α → σ → Option σ} {queue : σ → List α} {after : List α → σ}
  {cap : ℕ}

/-- Two prefixes of one list: the one that is not longer is a prefix of the other. -/
theorem take_eq_of_prefix {l m : List α} (h : l <+: m) {n : ℕ} (hn : n ≤ l.length) :
    l.take n = m.take n := by
  obtain ⟨t, rfl⟩ := h
  rw [List.take_append_of_le_length hn]

/-! ### Queues only grow -/

theorem Summary.queue_mono (h : Summary visit queue after cap) {A B : List α} (hAB : A <+: B) :
    queue (after A) <+: queue (after B) := by
  obtain ⟨t, rfl⟩ := hAB
  induction t using List.reverseRecOn with
  | nil => rw [List.append_nil]
  | append_singleton t a ih =>
    rw [← List.append_assoc]
    exact ih.trans (h.queue_prefix _ _)

theorem Summary.atHead_nil (h : Summary visit queue after cap) : AtHead queue after cap [] where
  visited := List.nil_prefix
  more := List.length_pos_iff.mpr h.init_ne
  fits := h.init_le
  announced := fun _ hi => absurd hi (Nat.not_lt_zero _)

/-! ### One turn of the loop -/

/-- The next visit: the queue names it, and the visits made stay a prefix of the queue. -/
theorem AtHead.next (h : Summary visit queue after cap) {A : List α}
    (hA : AtHead queue after cap A) :
    ∃ a, (queue (after A))[A.length]? = some a ∧ A ++ [a] <+: queue (after A) ∧
      A ++ [a] <+: queue (after (A ++ [a])) ∧
      ∀ i < (A ++ [a]).length, i < (queue (after ((A ++ [a]).take i))).length := by
  obtain ⟨t, ht⟩ := hA.visited
  cases t with
  | nil =>
    -- the queue is longer than the visits made
    have hmore := hA.more
    rw [← ht] at hmore
    simp at hmore
  | cons a t =>
    have hpre : A ++ [a] <+: queue (after A) := ⟨t, by rw [List.append_assoc]; exact ht⟩
    refine ⟨a, ?_, hpre, hpre.trans (h.queue_prefix A a), ?_⟩
    · rw [← ht]
      simp
    · intro i hi
      rw [List.length_append, List.length_singleton] at hi
      rw [List.take_append_of_le_length (by omega)]
      rcases Nat.lt_or_ge i A.length with hlt | hge
      · exact hA.announced i hlt
      · rw [List.take_of_length_le hge]
        have hmore := hA.more
        omega

/-- One turn: a visit, then the loop's test. -/
theorem walk_step (h : Summary visit queue after cap) {A : List α} {a : α} (fuel : ℕ)
    (hA : AtHead queue after cap A) (ha : (queue (after A))[A.length]? = some a) :
    walk visit queue (fuel + 1) A.length (after A) =
      if (queue (after (A ++ [a]))).length ≤ cap then
        if (A ++ [a]).length < (queue (after (A ++ [a]))).length then
          walk visit queue fuel (A ++ [a]).length (after (A ++ [a]))
        else .done (after (A ++ [a]))
      else .overrun := by
  rw [walk, ha]
  dsimp only
  rw [h.visit_after A a hA.fits, List.length_append, List.length_singleton]
  by_cases hcap : (queue (after (A ++ [a]))).length ≤ cap
  · rw [if_pos hcap, if_pos hcap]
  · rw [if_neg hcap, if_neg hcap]

/-- The loop stops when every entry of the queue has been visited. -/
theorem isOrder_of_length_le {A : List α} (hpre : A <+: queue (after A))
    (hle : (queue (after A)).length ≤ A.length)
    (hann : ∀ i < A.length, i < (queue (after (A.take i))).length) : IsOrder queue after A :=
  ⟨(hpre.eq_of_length_le hle).symm, hann⟩

/-! ### Whole walks -/

/-- Every turn uses up an entry of the array, so `cap` turns are enough for the loop to end. -/
theorem walk_ne_fuelOut (h : Summary visit queue after cap) {fuel : ℕ} {A : List α}
    (hA : AtHead queue after cap A) (hfuel : cap ≤ fuel + A.length) :
    walk visit queue fuel A.length (after A) ≠ .fuelOut := by
  induction fuel generalizing A with
  | zero =>
    have hmore := hA.more
    have hfits := hA.fits
    omega
  | succ fuel ih =>
    obtain ⟨a, ha, -, hpre, hann⟩ := hA.next h
    rw [walk_step h fuel hA ha]
    split_ifs with hcap hmore
    · refine ih ⟨hpre, hmore, hcap, hann⟩ ?_
      rw [List.length_append, List.length_singleton]
      omega
    · exact nofun
    · exact nofun

/-- A walk that ends has visited an order. -/
theorem walk_sound (h : Summary visit queue after cap) {fuel : ℕ} {A : List α} {s : σ}
    (hA : AtHead queue after cap A) (hs : walk visit queue fuel A.length (after A) = .done s) :
    ∃ Q, IsOrder queue after Q ∧ Q.length ≤ cap ∧ s = after Q := by
  induction fuel generalizing A with
  | zero => exact absurd hs nofun
  | succ fuel ih =>
    obtain ⟨a, ha, -, hpre, hann⟩ := hA.next h
    rw [walk_step h fuel hA ha] at hs
    split_ifs at hs with hcap hmore
    · exact ih ⟨hpre, hmore, hcap, hann⟩ hs
    · obtain rfl := Walk.done.inj hs
      exact ⟨A ++ [a], isOrder_of_length_le hpre (not_lt.mp hmore) hann,
        le_trans hpre.length_le hcap, rfl⟩

/-- When a closed list fits into the array, the walk never leaves it and ends. -/
theorem walk_complete (h : Summary visit queue after cap) {L : List α}
    (hL : queue (after L) = L) (hcap : L.length ≤ cap) (fuel : ℕ) {A : List α}
    (hA : AtHead queue after cap A) (hAL : queue (after A) <+: L)
    (hfuel : L.length ≤ fuel + A.length) :
    ∃ Q, IsOrder queue after Q ∧ walk visit queue fuel A.length (after A) = .done (after Q) := by
  induction fuel generalizing A with
  | zero =>
    have hmore := hA.more
    have hle := hAL.length_le
    omega
  | succ fuel ih =>
    obtain ⟨a, ha, hpreA, hpre, hann⟩ := hA.next h
    -- what is announced by a part of `L` is part of what `L` announces, which is `L`
    have hsub : queue (after (A ++ [a])) <+: L := by
      have := h.queue_mono (hpreA.trans hAL)
      rwa [hL] at this
    have hfits : (queue (after (A ++ [a]))).length ≤ cap := le_trans hsub.length_le hcap
    rw [walk_step h fuel hA ha, if_pos hfits]
    split_ifs with hmore
    · refine ih ⟨hpre, hmore, hfits, hann⟩ hsub ?_
      rw [List.length_append, List.length_singleton]
      omega
    · exact ⟨A ++ [a], isOrder_of_length_le hpre (not_lt.mp hmore) hann, rfl⟩

/-- The order of a walk is the least closed list. -/
theorem IsOrder.prefix_of_closed (h : Summary visit queue after cap) {Q L : List α}
    (hQ : IsOrder queue after Q) (hL : queue (after L) = L) : Q <+: L := by
  have hall : ∀ i ≤ Q.length, Q.take i <+: L := by
    intro i hi
    induction i with
    | zero => exact List.nil_prefix
    | succ i ih =>
      -- entry `i` has been announced by the visits before it, which are visits of `L` as well
      have hsub : queue (after (Q.take i)) <+: Q := by
        have := h.queue_mono (List.take_prefix i Q)
        rwa [hQ.closed] at this
      have hsubL : queue (after (Q.take i)) <+: L := by
        have := h.queue_mono (ih (by omega))
        rwa [hL] at this
      rw [← take_eq_of_prefix hsub (hQ.announced i (by omega))]
      exact (List.take_prefix _ _).trans hsubL
  have := hall Q.length le_rfl
  rwa [List.take_length] at this

/-- There is at most one order. -/
theorem IsOrder.unique (h : Summary visit queue after cap) {Q Q' : List α}
    (hQ : IsOrder queue after Q) (hQ' : IsOrder queue after Q') : Q = Q' := by
  have hle := hQ.prefix_of_closed h hQ'.closed
  exact hle.eq_of_length_le (hQ'.prefix_of_closed h hQ.closed).length_le

/-- **The walk ends in a state with `P` iff the order fits into the array and its state has
`P`.** -/
theorem walk_done_iff (h : Summary visit queue after cap) {P : σ → Prop} :
    (∃ fuel s, walk visit queue fuel 0 (after []) = .done s ∧ P s) ↔
      ∃ Q, IsOrder queue after Q ∧ Q.length ≤ cap ∧ P (after Q) := by
  constructor
  · rintro ⟨fuel, s, hs, hP⟩
    obtain ⟨Q, hQ, hcap, rfl⟩ := walk_sound h h.atHead_nil hs
    exact ⟨Q, hQ, hcap, hP⟩
  · rintro ⟨Q, hQ, hcap, hP⟩
    have hsub : queue (after []) <+: Q := by
      have := h.queue_mono (List.nil_prefix (l := Q))
      rwa [hQ.closed] at this
    obtain ⟨Q', hQ', hs⟩ := walk_complete h hQ.closed hcap Q.length h.atHead_nil hsub
      (Nat.le_add_right _ _)
    obtain rfl := hQ.unique h hQ'
    exact ⟨_, _, hs, hP⟩

/-- For a property of states that shrinks with the list of visits, any closed list will do. -/
theorem walk_done_iff_closed (h : Summary visit queue after cap) {P : σ → Prop}
    (hP : ∀ A B, A <+: B → P (after B) → P (after A)) :
    (∃ fuel s, walk visit queue fuel 0 (after []) = .done s ∧ P s) ↔
      ∃ L, queue (after L) = L ∧ L.length ≤ cap ∧ P (after L) := by
  rw [walk_done_iff h]
  constructor
  · rintro ⟨Q, hQ, hcap, hPQ⟩
    exact ⟨Q, hQ.closed, hcap, hPQ⟩
  · rintro ⟨L, hL, hcap, hPL⟩
    have hsub : queue (after []) <+: L := by
      have := h.queue_mono (List.nil_prefix (l := L))
      rwa [hL] at this
    obtain ⟨Q, hQ, -⟩ := walk_complete h hL hcap L.length h.atHead_nil hsub
      (Nat.le_add_right _ _)
    have hQL := hQ.prefix_of_closed h hL
    exact ⟨Q, hQ, le_trans hQL.length_le hcap, hP _ _ hQL hPL⟩

end Vidix.Util
