import Mathlib.Data.List.Perm.Basic
import Mathlib.Logic.Function.Basic
import Mathlib.Tactic.SplitIfs

/-!
# Two readers of one cursor

A server walks a list `l` and hands out one item for each request, the end of the list once, and
then begins anew; it has a single cursor for all its readers.  Each of two readers asks until it is
told the end.

Of the two ends handed out, the first closes the first pass over `l` and goes to some reader `x`;
the whole second pass goes to the other.  What the other had taken of the first pass before (`p` in
`Phase`) is missing from `x` and is too much for the other, so that both have `l` exactly once iff
`p` is empty: iff no reader asked while the other was between its first request and its end
(`eachOnce_iff_exclusive`).
-/

namespace Vidix.Util

variable {α : Type*}

/-- A reader: the items it was handed, and whether it has been told the end. -/
structure Reader (α : Type*) where
  seen : List α
  done : Bool

/-- The cursor, and both readers. -/
structure Shared (α : Type*) where
  cursor : ℕ
  readers : Bool → Reader α

namespace Shared

/-- Nobody has asked yet. -/
def start : Shared α := ⟨0, fun _ => ⟨[], false⟩⟩

/-- The state with another cursor and another record of reader `c`. -/
def answer (s : Shared α) (cursor : ℕ) (c : Bool) (r : Reader α) : Shared α :=
  ⟨cursor, Function.update s.readers c r⟩

/-- A request of reader `c`; a reader that has been told the end does not ask again. -/
def request (l : List α) (s : Shared α) (c : Bool) : Shared α :=
  if (s.readers c).done then s
  else
    match l[s.cursor]? with
    | some a => s.answer (s.cursor + 1) c ⟨(s.readers c).seen ++ [a], false⟩
    | none => s.answer 0 c ⟨(s.readers c).seen, true⟩

/-- Reader `c` may ask without getting into the other's way. -/
def Free (s : Shared α) (c : Bool) : Prop :=
  (s.readers c).done = true ∨ (s.readers !c).done = true ∨ (s.readers !c).seen = []

/-- No request of a schedule gets into the way of the other reader. -/
def Exclusive (l : List α) : Shared α → List Bool → Prop
  | _, [] => True
  | s, c :: cs => s.Free c ∧ Exclusive l (s.request l c) cs

/-- Where the two readers are, with `excl` for "so far they kept out of each other's way". -/
inductive Phase (l : List α) (excl : Prop) (s : Shared α) : Prop
  /-- Nobody has been told the end: both have parts of the first pass. -/
  | first (hdone : ∀ c, (s.readers c).done = false)
      (hperm : ∀ c, ((s.readers c).seen ++ (s.readers !c).seen).Perm (l.take s.cursor))
      (hexcl : excl ↔ ∃ c, (s.readers c).seen = [])
  /-- Reader `x` has been told the end; the other has `p` of the first pass and a part of the
  second. -/
  | second (x : Bool) (p : List α) (hx : (s.readers x).done = true)
      (hy : (s.readers !x).done = false)
      (hseen : (s.readers !x).seen = p ++ l.take s.cursor)
      (hperm : ((s.readers x).seen ++ p).Perm l) (hexcl : excl ↔ p = [])
  /-- Both have been told the end. -/
  | ended (x : Bool) (p : List α) (hdone : ∀ c, (s.readers c).done = true)
      (hseen : (s.readers !x).seen = p ++ l) (hperm : ((s.readers x).seen ++ p).Perm l)
      (hexcl : excl ↔ p = [])

theorem phase_start (l : List α) : Phase l True (start (α := α)) :=
  .first (fun _ => rfl) (fun _ => List.Perm.refl _)
    (iff_of_true trivial ⟨true, rfl⟩)

/-! ### One request -/

@[simp] theorem answer_self (s : Shared α) (k : ℕ) (c : Bool) (r : Reader α) :
    (s.answer k c r).readers c = r :=
  Function.update_self _ _ _

theorem answer_of_ne (s : Shared α) (k : ℕ) {b c : Bool} (r : Reader α) (h : b ≠ c) :
    (s.answer k c r).readers b = s.readers b :=
  Function.update_of_ne h _ _

theorem eq_not_of_ne {b c : Bool} (h : b ≠ c) : b = !c := by
  revert h
  cases b <;> cases c <;> decide

theorem request_of_done {l : List α} {s : Shared α} {c : Bool} (h : (s.readers c).done = true) :
    s.request l c = s :=
  if_pos h

theorem request_of_item {l : List α} {s : Shared α} {c : Bool} (h : (s.readers c).done = false)
    {a : α} (ha : l[s.cursor]? = some a) :
    s.request l c = s.answer (s.cursor + 1) c ⟨(s.readers c).seen ++ [a], false⟩ := by
  rw [request, if_neg (by rw [h]; decide), ha]

theorem request_of_end {l : List α} {s : Shared α} {c : Bool} (h : (s.readers c).done = false)
    (ha : l[s.cursor]? = none) :
    s.request l c = s.answer 0 c ⟨(s.readers c).seen, true⟩ := by
  rw [request, if_neg (by rw [h]; decide), ha]

/-- A request in the first pass. -/
theorem phase_first_request {l : List α} {excl : Prop} {s : Shared α} (c : Bool)
    (hdone : ∀ c, (s.readers c).done = false)
    (hperm : ∀ c, ((s.readers c).seen ++ (s.readers !c).seen).Perm (l.take s.cursor))
    (hexcl : excl ↔ ∃ c, (s.readers c).seen = []) :
    Phase l (excl ∧ s.Free c) (s.request l c) := by
  have hfree : s.Free c ↔ (s.readers !c).seen = [] := by
    rw [Free, hdone c, hdone !c]
    simp
  -- that the other has nothing yet is also what kept the two apart until now
  have hboth : excl ∧ s.Free c ↔ (s.readers !c).seen = [] := by
    rw [hfree, hexcl]
    exact ⟨fun h => h.2, fun h => ⟨⟨!c, h⟩, h⟩⟩
  have hne : ∀ b : Bool, (!b) ≠ b := by decide
  cases ha : l[s.cursor]? with
  | some a =>
    rw [request_of_item (hdone c) ha]
    have hc : ((s.readers c).seen ++ [a] ++ (s.readers !c).seen).Perm
        (l.take (s.cursor + 1)) := by
      rw [List.take_add_one, ha, Option.toList_some, List.append_assoc]
      refine (List.Perm.append_left _ List.perm_append_comm).trans ?_
      rw [← List.append_assoc]
      exact (hperm c).append_right [a]
    refine .first (fun b => ?_) (fun b => ?_) ?_
    · by_cases hb : b = c
      · rw [hb, answer_self]
      · rw [answer_of_ne _ _ _ hb]
        exact hdone b
    · by_cases hb : b = c
      · rw [hb, answer_self, answer_of_ne _ _ _ (hne c)]
        exact hc
      · rw [eq_not_of_ne hb, Bool.not_not, answer_self, answer_of_ne _ _ _ (hne c)]
        exact List.perm_append_comm.trans hc
    · rw [hboth]
      constructor
      · intro h
        exact ⟨!c, by rw [answer_of_ne _ _ _ (hne c)]; exact h⟩
      · rintro ⟨b, hb⟩
        by_cases hbc : b = c
        · rw [hbc, answer_self] at hb
          exact absurd hb (by simp)
        · rw [answer_of_ne _ _ _ hbc, eq_not_of_ne hbc] at hb
          exact hb
  | none =>
    rw [request_of_end (hdone c) ha]
    have hlen : l.length ≤ s.cursor := List.getElem?_eq_none_iff.mp ha
    -- `c` is told the end; what the other has so far is `p`
    refine .second c (s.readers !c).seen ?_ ?_ ?_ ?_ hboth
    · rw [answer_self]
    · rw [answer_of_ne _ _ _ (hne c)]
      exact hdone _
    · rw [answer_of_ne _ _ _ (hne c)]
      exact (List.append_nil _).symm
    · rw [answer_self]
      have := hperm c
      rwa [List.take_of_length_le hlen] at this

/-- A request of the reader that is still asking in the second pass. -/
theorem phase_second_request {l : List α} {excl : Prop} {s : Shared α} {x : Bool} {p : List α}
    (hx : (s.readers x).done = true) (hy : (s.readers !x).done = false)
    (hseen : (s.readers !x).seen = p ++ l.take s.cursor)
    (hperm : ((s.readers x).seen ++ p).Perm l) (hexcl : excl ↔ p = []) :
    Phase l excl (s.request l !x) := by
  have hne : x ≠ !x := by cases x <;> decide
  cases ha : l[s.cursor]? with
  | some a =>
    rw [request_of_item hy ha]
    refine .second x p ?_ ?_ ?_ ?_ hexcl
    · rw [answer_of_ne _ _ _ hne]
      exact hx
    · rw [answer_self]
    · rw [answer_self, hseen, List.append_assoc]
      have htake : l.take (s.cursor + 1) = l.take s.cursor ++ [a] := by
        rw [List.take_add_one, ha, Option.toList_some]
      exact congrArg (p ++ ·) htake.symm
    · rw [answer_of_ne _ _ _ hne]
      exact hperm
  | none =>
    rw [request_of_end hy ha]
    have hlen : l.length ≤ s.cursor := List.getElem?_eq_none_iff.mp ha
    refine .ended x p (fun b => ?_) ?_ ?_ hexcl
    · by_cases hb : b = !x
      · rw [hb, answer_self]
      · rw [eq_not_of_ne hb, Bool.not_not, answer_of_ne _ _ _ hne]
        exact hx
    · rw [answer_self, hseen, List.take_of_length_le hlen]
    · rw [answer_of_ne _ _ _ hne]
      exact hperm

/-- **One request keeps the readers in a phase.** -/
theorem Phase.request {l : List α} {excl : Prop} {s : Shared α}
    (h : Phase l excl s) (c : Bool) : Phase l (excl ∧ s.Free c) (s.request l c) := by
  cases h with
  | first hdone hperm hexcl => exact phase_first_request c hdone hperm hexcl
  | second x p hx hy hseen hperm hexcl =>
    by_cases hc : c = x
    · -- a reader that has been told the end does not ask
      have hfree : s.Free c := .inl (hc ▸ hx)
      rw [request_of_done (hc ▸ hx)]
      exact .second x p hx hy hseen hperm (by rw [and_iff_left hfree]; exact hexcl)
    · have hc' := eq_not_of_ne hc
      have hfree : s.Free c := .inr (.inl (by rw [hc', Bool.not_not]; exact hx))
      rw [hc']
      refine phase_second_request hx hy hseen hperm ?_
      rw [hc'] at hfree
      rw [and_iff_left hfree]
      exact hexcl
  | ended x p hdone hseen hperm hexcl =>
    rw [request_of_done (hdone c)]
    refine .ended x p hdone hseen hperm ?_
    rw [and_iff_left (.inl (hdone c))]
    exact hexcl

/-! ### Schedules -/

theorem Phase.run {l : List α} {excl : Prop} {s : Shared α} (h : Phase l excl s)
    (cs : List Bool) : Phase l (excl ∧ Exclusive l s cs) (cs.foldl (Shared.request l) s) := by
  induction cs generalizing excl s with
  | nil =>
    rw [Exclusive, and_true]
    exact h
  | cons c cs ih =>
    rw [Exclusive, List.foldl_cons, ← and_assoc]
    exact ih (h.request c)

/-- Readers that have as many items as there are kept out of each other's way. -/
theorem exclusive_of_length {l : List α} (cs : List Bool)
    (hdone : ∀ c, ((cs.foldl (Shared.request l) start).readers c).done = true)
    (hlen : ∀ c, ((cs.foldl (Shared.request l) start).readers c).seen.length = l.length) :
    Exclusive l start cs := by
  have h := (phase_start l).run cs
  rw [true_and] at h
  generalize cs.foldl (Shared.request l) start = s at h hdone hlen
  cases h with
  | first hdone' _ _ => exact absurd ((hdone true).symm.trans (hdone' true)) (by decide)
  | second x p _ hy _ _ _ => exact absurd ((hdone !x).symm.trans hy) (by decide)
  | ended x p _ hseen hperm hexcl =>
    -- `x` alone has as many items as `l`, which leaves none for `p`
    have hsum := hperm.length_eq
    rw [List.length_append, hlen x] at hsum
    exact hexcl.mpr (List.length_eq_zero_iff.mp (by omega))

/-- **Each reader has every item exactly once iff neither got into the other's way.** -/
theorem eachOnce_iff_exclusive {l : List α} (cs : List Bool)
    (hdone : ∀ c, ((cs.foldl (Shared.request l) start).readers c).done = true) :
    (∀ c, ((cs.foldl (Shared.request l) start).readers c).seen.Perm l) ↔
      Exclusive l start cs := by
  refine ⟨fun h => exclusive_of_length cs hdone fun c => (h c).length_eq, fun hcs => ?_⟩
  have h := (phase_start l).run cs
  rw [true_and] at h
  generalize cs.foldl (Shared.request l) start = s at h hdone ⊢
  cases h with
  | first hdone' _ _ => exact absurd ((hdone true).symm.trans (hdone' true)) (by decide)
  | second x p _ hy _ _ _ => exact absurd ((hdone !x).symm.trans hy) (by decide)
  | ended x p _ hseen hperm hexcl =>
    obtain rfl := hexcl.mp hcs
    rw [List.append_nil] at hperm
    intro c
    by_cases hc : c = x
    · rw [hc]
      exact hperm
    · rw [eq_not_of_ne hc, hseen]
      exact List.Perm.refl _

end Shared

end Vidix.Util
