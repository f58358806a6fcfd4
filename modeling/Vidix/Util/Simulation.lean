import Vidix.Util.GuardedRun

/-!
# Two systems that give the same results

A system answers the requests of a list one after the other.  Where a relation between the states of
two systems is kept by each request, and related states give the same answer, the two give the same
answers to every list of requests (`answers_eq`).

A system may also drive another, when each of its steps comes to some operations of the other one,
which depend on its state.  Where the two states stay related, they are so after a whole run
(`Drives.trace`), and what is asked of the operations can be asked of the steps
(`Drives.guarded_trace_iff`).
-/

namespace Vidix.Util

variable {σ τ ι α : Type*}

/-- The answers to the requests, and the state that they leave. -/
def answers (step : σ → ι → α × σ) : σ → List ι → List α × σ
  | s, [] => ([], s)
  | s, x :: xs =>
    let r := answers step (step s x).2 xs
    ((step s x).1 :: r.1, r.2)

theorem answers_cons (step : σ → ι → α × σ) (s : σ) (x : ι) (xs : List ι) :
    answers step s (x :: xs) =
      ((step s x).1 :: (answers step (step s x).2 xs).1, (answers step (step s x).2 xs).2) :=
  rfl

theorem answers_append (step : σ → ι → α × σ) (s : σ) (xs ys : List ι) :
    answers step s (xs ++ ys) =
      ((answers step s xs).1 ++ (answers step (answers step s xs).2 ys).1,
        (answers step (answers step s xs).2 ys).2) := by
  induction xs generalizing s with
  | nil => rfl
  | cons x xs ih => rw [List.cons_append, answers_cons, ih, answers_cons, List.cons_append]

/-- Each request keeps the relation, and is answered in the same way. -/
def Simulates (R : σ → τ → Prop) (step : σ → ι → α × σ) (step' : τ → ι → α × τ) : Prop :=
  ∀ s t x, R s t → (step s x).1 = (step' t x).1 ∧ R (step s x).2 (step' t x).2

/-- **Systems that simulate each other give the same answers.** -/
theorem answers_eq {R : σ → τ → Prop} {step : σ → ι → α × σ} {step' : τ → ι → α × τ} {s : σ}
    {t : τ} (hsim : Simulates R step step') (h : R s t) (xs : List ι) :
    (answers step s xs).1 = (answers step' t xs).1 ∧
      R (answers step s xs).2 (answers step' t xs).2 := by
  induction xs generalizing s t with
  | nil => exact ⟨rfl, h⟩
  | cons x xs ih =>
    obtain ⟨hfirst, hnext⟩ := hsim s t x h
    obtain ⟨hrest, hlast⟩ := ih hnext
    rw [answers_cons, answers_cons, hfirst, hrest]
    exact ⟨rfl, hlast⟩

/-! ### Systems that drive others -/

variable {ο : Type*} {step : σ → ι → σ} {step' : τ → ο → τ} {ops : σ → ι → List ο}
  {wf ok : σ → ι → Prop} {ok' : τ → ο → Prop} {R : σ → τ → Prop} {s : σ} {t : τ} {xs : List ι}

/-- The operations that a run comes to. -/
def trace (step : σ → ι → σ) (ops : σ → ι → List ο) : σ → List ι → List ο
  | _, [] => []
  | s, x :: xs => ops s x ++ trace step ops (step s x) xs

theorem flatMap_trace {ο' : Type*} (f : ο → List ο') (s : σ) (xs : List ι) :
    (trace step ops s xs).flatMap f = trace step (fun s x => (ops s x).flatMap f) s xs := by
  induction xs generalizing s with
  | nil => rfl
  | cons x xs ih => rw [trace, List.flatMap_append, ih, trace]

/-- The operations of each step keep the relation. -/
def Drives (step : σ → ι → σ) (wf : σ → ι → Prop) (ops : σ → ι → List ο) (step' : τ → ο → τ)
    (R : σ → τ → Prop) : Prop :=
  ∀ s t x, R s t → wf s x → R (step s x) ((ops s x).foldl step' t)

/-- **The system that is driven is where the other one has brought it.** -/
theorem Drives.trace (h : Drives step wf ops step' R) (hR : R s t) (hwf : Guarded step wf s xs) :
    R (xs.foldl step s) ((trace step ops s xs).foldl step' t) := by
  induction xs generalizing s t with
  | nil => exact hR
  | cons x xs ih =>
    rw [Util.trace, List.foldl_append]
    exact ih (h s t x hR hwf.1) hwf.2

/-- A guard on the operations is one on the steps, if it is so for the operations of one step. -/
theorem Drives.guarded_trace_iff (h : Drives step wf ops step' R)
    (hok : ∀ s t x, R s t → wf s x → (Guarded step' ok' t (ops s x) ↔ ok s x)) (hR : R s t)
    (hwf : Guarded step wf s xs) :
    Guarded step' ok' t (Util.trace step ops s xs) ↔ Guarded step ok s xs := by
  induction xs generalizing s t with
  | nil => exact Iff.rfl
  | cons x xs ih =>
    rw [Util.trace, guarded_append, hok s t x hR hwf.1, ih (h s t x hR hwf.1) hwf.2]
    rfl

end Vidix.Util
