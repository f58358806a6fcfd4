import Mathlib.Data.List.Infix

/-!
# Runs whose steps are guarded

A system takes the inputs of a list one after the other.  A guard says of a state and an input
whether the step may be taken.  An invariant that the guarded steps keep holds throughout every
guarded run; when each unguarded step also breaks a property that the invariant implies, then the
guarded runs are exactly those throughout which the property holds (`forall_prefix_iff_guarded`).
The inputs may be held to a second guard, which says that they make sense in the state that they
meet (`forall_prefix_iff_guarded_of_wf`).
-/

namespace Vidix.Util

variable {σ ι : Type*} {step : σ → ι → σ} {ok : σ → ι → Prop} {Inv : σ → Prop}
  {s : σ} {xs ys : List ι}

/-- All inputs pass the guard in the state that they meet. -/
def Guarded (step : σ → ι → σ) (ok : σ → ι → Prop) : σ → List ι → Prop
  | _, [] => True
  | s, x :: xs => ok s x ∧ Guarded step ok (step s x) xs

theorem guarded_append :
    Guarded step ok s (xs ++ ys) ↔
      Guarded step ok s xs ∧ Guarded step ok (xs.foldl step s) ys := by
  induction xs generalizing s with
  | nil => exact ⟨fun h => ⟨trivial, h⟩, fun h => h.2⟩
  | cons x xs ih =>
    rw [List.cons_append, Guarded, Guarded, ih, and_assoc, List.foldl_cons]

theorem Guarded.invariant (h : Guarded step ok s xs)
    (hstep : ∀ s x, Inv s → ok s x → Inv (step s x)) (hs : Inv s) : Inv (xs.foldl step s) := by
  induction xs generalizing s with
  | nil => exact hs
  | cons x xs ih => exact ih h.2 (hstep s x hs h.1)

/-- A value that no guarded step changes is that of the first state. -/
theorem Guarded.unchanged {α : Type*} (f : σ → α) (h : Guarded step ok s xs)
    (hstep : ∀ s x, ok s x → f (step s x) = f s) : f (xs.foldl step s) = f s := by
  induction xs generalizing s with
  | nil => rfl
  | cons x xs ih => exact (ih h.2).trans (hstep s x h.1)

theorem Guarded.of_prefix (h : Guarded step ok s ys) (hpre : xs <+: ys) :
    Guarded step ok s xs := by
  obtain ⟨zs, rfl⟩ := hpre
  exact (guarded_append.mp h).1

theorem guarded_true (s : σ) (xs : List ι) : Guarded step (fun _ _ => True) s xs := by
  induction xs generalizing s with
  | nil => trivial
  | cons x xs ih => exact ⟨trivial, ih _⟩

/-- A guard that looks at the inputs only. -/
theorem guarded_of_forall_mem {p : ι → Prop} (s : σ) (h : ∀ x ∈ xs, p x) :
    Guarded step (fun _ x => p x) s xs := by
  induction xs generalizing s with
  | nil => trivial
  | cons x xs ih =>
    rw [List.forall_mem_cons] at h
    exact ⟨h.1, ih _ h.2⟩

theorem Guarded.and {ok' : σ → ι → Prop} (h : Guarded step ok s xs)
    (h' : Guarded step ok' s xs) : Guarded step (fun s x => ok s x ∧ ok' s x) s xs := by
  induction xs generalizing s with
  | nil => trivial
  | cons x xs ih => exact ⟨⟨h.1, h'.1⟩, ih h.2 h'.2⟩

/-- Two guards that agree wherever an invariant of all steps holds admit the same runs. -/
theorem guarded_congr {ok' : σ → ι → Prop} (hstep : ∀ s x, Inv s → Inv (step s x))
    (h : ∀ s x, Inv s → (ok s x ↔ ok' s x)) (hs : Inv s) :
    Guarded step ok s xs ↔ Guarded step ok' s xs := by
  induction xs generalizing s with
  | nil => exact Iff.rfl
  | cons x xs ih => exact and_congr (h s x hs) (ih (hstep s x hs))

/-- A property holds throughout a run of inputs that make sense (`wf`) iff the run is guarded, when
the guarded steps keep an invariant that implies it and no other step does. -/
theorem forall_prefix_iff_guarded_of_wf {wf : σ → ι → Prop} (Inv Good : σ → Prop)
    (hgood : ∀ s, Inv s → Good s)
    (hstep : ∀ s x, Inv s → wf s x → ok s x → Inv (step s x))
    (hbreak : ∀ s x, Inv s → wf s x → Good (step s x) → ok s x) (hs : Inv s)
    (hwf : Guarded step wf s xs) :
    (∀ pre, pre <+: xs → Good (pre.foldl step s)) ↔ Guarded step ok s xs := by
  constructor
  · intro h
    induction xs generalizing s with
    | nil => trivial
    | cons x xs ih =>
      have hx : ok s x :=
        hbreak s x hs hwf.1 (h [x] ((List.prefix_cons_inj x).mpr List.nil_prefix))
      refine ⟨hx, ih (hstep s x hs hwf.1 hx) hwf.2 fun pre hpre => ?_⟩
      exact h (x :: pre) ((List.prefix_cons_inj x).mpr hpre)
  · intro h pre hpre
    have hboth := hwf.and h
    exact hgood _ ((hboth.of_prefix hpre).invariant
      (fun s x hinv hx => hstep s x hinv hx.1 hx.2) hs)

/-- **A property holds throughout a run iff the run is guarded,** when the guarded steps keep an
invariant that implies it and no other step does. -/
theorem forall_prefix_iff_guarded (Inv Good : σ → Prop)
    (hgood : ∀ s, Inv s → Good s)
    (hstep : ∀ s x, Inv s → ok s x → Inv (step s x))
    (hbreak : ∀ s x, Inv s → Good (step s x) → ok s x) (hs : Inv s) :
    (∀ pre, pre <+: xs → Good (pre.foldl step s)) ↔ Guarded step ok s xs :=
  forall_prefix_iff_guarded_of_wf Inv Good hgood (fun s x h _ => hstep s x h)
    (fun s x h _ => hbreak s x h) hs (guarded_true s xs)

end Vidix.Util
