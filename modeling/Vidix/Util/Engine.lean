import Vidix.Util.GuardedRun
import Vidix.Util.ScatterList

/-!
# An engine with a completion flag

An engine does the pieces of a job one after the other, and sets a flag with the last one.
Starting a job clears the flag and drops what is left of the job before; stopping the engine drops
it too, but does not set the flag.

* Nothing is lost iff the engine is idle whenever a job is started or it is stopped:
  `moved_append_left_iff`.
* The flag goes on telling whether the engine is idle iff it is idle whenever it is stopped, and
  there is something to do in every job: `Engine.Right.step_iff`.
* Left to itself, the engine sets the flag iff it is set already or there is something left to do:
  `Engine.exists_ticks_iff`.

Engines that read their jobs from tables do what stands there up to the first entry with an end mark
(`upTo`).
-/

namespace Vidix.Util

variable {β : Type*}

structure Engine (β : Type*) where
  /-- What is left to do. -/
  left : List β
  done : Bool
  /-- What has been done, in order. -/
  moved : List β
  deriving DecidableEq, Repr

inductive EngineOp (β : Type*)
  | start (job : List β)
  | stop
  | tick
  deriving DecidableEq, Repr

def Engine.step (e : Engine β) : EngineOp β → Engine β
  | .start job => { e with left := job, done := false }
  | .stop => { e with left := [] }
  | .tick =>
    match e.left with
    | [] => e
    | piece :: left => { left, done := e.done || left.isEmpty, moved := e.moved ++ [piece] }

/-- The job that an operation starts. -/
def EngineOp.job : EngineOp β → List β
  | .start job => job
  | .stop | .tick => []

/-- The pieces of all jobs that are started. -/
def allJobs (ops : List (EngineOp β)) : List β := ops.flatMap EngineOp.job

theorem allJobs_cons (op : EngineOp β) (ops : List (EngineOp β)) :
    allJobs (op :: ops) = op.job ++ allJobs ops :=
  List.flatMap_cons

variable {e : Engine β}

theorem Engine.step_tick_of_nil (h : e.left = []) : e.step .tick = e := by
  unfold Engine.step
  rw [h]

theorem Engine.step_tick_of_cons {piece : β} {left : List β} (h : e.left = piece :: left) :
    e.step .tick = ⟨left, e.done || left.isEmpty, e.moved ++ [piece]⟩ := by
  unfold Engine.step
  rw [h]

/-! ### What is lost -/

/-- What has been done and what is left. -/
def Engine.total (e : Engine β) : List β := e.moved ++ e.left

/-- The operation leaves no work undone. -/
def Undisturbed (e : Engine β) : EngineOp β → Prop
  | .start _ | .stop => e.left = []
  | .tick => True

theorem Engine.total_start (e : Engine β) (job : List β) :
    (e.step (.start job)).total = e.moved ++ job :=
  rfl

theorem Engine.total_stop (e : Engine β) : (e.step .stop).total = e.moved := List.append_nil _

theorem Engine.total_tick (e : Engine β) : (e.step .tick).total = e.total := by
  cases hleft : e.left with
  | nil => rw [step_tick_of_nil hleft]
  | cons piece left =>
    rw [step_tick_of_cons hleft]
    unfold total
    rw [hleft, List.append_assoc, List.singleton_append]

theorem Engine.length_total (e : Engine β) : e.total.length = e.moved.length + e.left.length :=
  List.length_append

theorem Engine.total_step (op : EngineOp β) (h : Undisturbed e op) :
    (e.step op).total = e.total ++ op.job := by
  have hmoved : e.left = [] → e.total = e.moved := by
    intro hleft
    unfold total
    rw [hleft, List.append_nil]
  cases op with
  | start job => rw [total_start, hmoved h, EngineOp.job]
  | stop => rw [total_stop, hmoved h, EngineOp.job, List.append_nil]
  | tick => rw [total_tick, EngineOp.job, List.append_nil]

theorem Engine.length_total_step_le (e : Engine β) (op : EngineOp β) :
    (e.step op).total.length ≤ e.total.length + op.job.length := by
  have hlength := e.length_total
  cases op with
  | start job =>
    rw [total_start, EngineOp.job, List.length_append]
    omega
  | stop =>
    rw [total_stop]
    omega
  | tick =>
    rw [total_tick]
    exact Nat.le_add_right _ _

/-- What is dropped once does not come back. -/
theorem Engine.length_total_le (e : Engine β) (ops : List (EngineOp β)) :
    (ops.foldl Engine.step e).total.length ≤ e.total.length + (allJobs ops).length := by
  induction ops generalizing e with
  | nil => exact le_rfl
  | cons op ops ih =>
    have hfirst := e.length_total_step_le op
    have hrest := ih (e.step op)
    rw [allJobs_cons, List.length_append, List.foldl_cons]
    omega

theorem Engine.length_total_lt {op : EngineOp β} (h : ¬ Undisturbed e op) :
    (e.step op).total.length < e.total.length + op.job.length := by
  have hlength := e.length_total
  cases op with
  | start job =>
    have hleft := List.length_pos_iff.mpr h
    rw [total_start, EngineOp.job, List.length_append]
    omega
  | stop =>
    have hleft := List.length_pos_iff.mpr h
    rw [total_stop]
    omega
  | tick => exact absurd trivial h

/-- **Nothing of any job is lost iff no operation disturbs the engine.** -/
theorem moved_append_left_iff (e : Engine β) (ops : List (EngineOp β)) :
    (ops.foldl Engine.step e).total = e.total ++ allJobs ops ↔
      Guarded Engine.step Undisturbed e ops := by
  induction ops generalizing e with
  | nil => exact iff_of_true (List.append_nil _).symm trivial
  | cons op ops ih =>
    rw [List.foldl_cons, allJobs_cons, Guarded, ← ih (e.step op), ← List.append_assoc]
    constructor
    · intro h
      have hop : Undisturbed e op := by
        by_contra hnot
        have hlt := e.length_total_lt hnot
        have hle := (e.step op).length_total_le ops
        have hlength := congrArg List.length h
        rw [List.length_append, List.length_append] at hlength
        omega
      rw [Engine.total_step op hop]
      exact ⟨hop, h⟩
    · rintro ⟨hop, h⟩
      rw [h, Engine.total_step op hop]

/-! ### What the flag tells -/

/-- The flag is set iff there is nothing left to do. -/
def Engine.Right (e : Engine β) : Prop := e.done = true ↔ e.left = []

/-- A job has something in it, and the engine is only stopped when it is idle. -/
def KeepsRight (e : Engine β) : EngineOp β → Prop
  | .start job => job ≠ []
  | .stop => e.left = []
  | .tick => True

theorem Engine.Right.step_iff (h : e.Right) (op : EngineOp β) :
    (e.step op).Right ↔ KeepsRight e op := by
  unfold Right at h ⊢
  cases op with
  | start job => exact ⟨fun hright hnil => absurd (hright.mpr hnil) Bool.false_ne_true,
      fun hjob => iff_of_false Bool.false_ne_true hjob⟩
  | stop => exact ⟨fun hright => h.mp (hright.mpr rfl), fun hleft => iff_of_true (h.mpr hleft) rfl⟩
  | tick =>
    refine iff_of_true ?_ trivial
    cases hleft : e.left with
    | nil =>
      rw [step_tick_of_nil hleft]
      exact h
    | cons piece left =>
      have hdone : e.done = false := by
        rw [← Bool.not_eq_true, h, hleft]
        exact List.cons_ne_nil _ _
      rw [step_tick_of_cons hleft, hdone, Bool.false_or]
      exact List.isEmpty_iff

/-! ### Waiting for it -/

/-- The engine does what is left, and sets the flag. -/
theorem Engine.ticks_left (h : e.left ≠ []) :
    (((·.step .tick))^[e.left.length] e).done = true := by
  induction hlength : e.left.length generalizing e with
  | zero => exact absurd (List.length_eq_zero_iff.mp hlength) h
  | succ n ih =>
    obtain ⟨piece, left, hleft⟩ := List.exists_cons_of_ne_nil h
    have hstep := step_tick_of_cons hleft
    rw [hleft, List.length_cons, Nat.succ_inj] at hlength
    rw [Function.iterate_succ_apply, hstep]
    cases left with
    | nil =>
      rw [← hlength]
      simp
    | cons piece' left => exact ih (List.cons_ne_nil _ _) hlength

/-- **An engine that is left to itself sets the flag iff it is set or something is left to do.** -/
theorem Engine.exists_ticks_iff (e : Engine β) :
    (∃ n, (((·.step .tick))^[n] e).done = true) ↔ e.done = true ∨ e.left ≠ [] := by
  constructor
  · rintro ⟨n, hn⟩
    by_contra hnot
    obtain ⟨hdone, hleft⟩ := not_or.mp hnot
    rw [Function.iterate_fixed (step_tick_of_nil (not_not.mp hleft))] at hn
    exact hdone hn
  · rintro (hdone | hleft)
    · exact ⟨0, hdone⟩
    · exact ⟨_, e.ticks_left hleft⟩

/-! ### Jobs in tables -/

variable {last : β → Bool} {piece : β} {table job : List β}

/-- A table up to the first entry with the end mark. -/
def upTo (last : β → Bool) : List β → List β
  | [] => []
  | piece :: table => if last piece then [piece] else piece :: upTo last table

theorem upTo_cons_of_last (h : last piece = true) (table : List β) :
    upTo last (piece :: table) = [piece] :=
  if_pos h

theorem upTo_cons_of_not_last (h : last piece = false) (table : List β) :
    upTo last (piece :: table) = piece :: upTo last table :=
  if_neg (ne_true_of_eq_false h)

theorem upTo_ne_nil (h : table ≠ []) : upTo last table ≠ [] := by
  cases table with
  | nil => exact absurd rfl h
  | cons piece table =>
    unfold upTo
    split_ifs <;> exact List.cons_ne_nil _ _

theorem Marked.exists_last (h : Marked last job) : ∃ piece ∈ job, last piece = true := by
  have hpos : 0 < job.length := List.length_pos_iff.mpr h.1
  exact ⟨_, List.getElem_mem (show job.length - 1 < job.length by omega),
    (h.2 _ (by omega)).mpr (by omega)⟩

end Vidix.Util
