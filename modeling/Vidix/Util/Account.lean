import Vidix.Util.GuardedRun

/-!
# Accounts of a run

A run is charged for some of its steps and paid for others.  When a balance that each state has
covers the charge of each step with what the step is paid (`Covers`), the charges of a whole run
come to no more than the balance at its beginning and all that it was paid (`runTotal_le`).
-/

namespace Vidix.Util

variable {σ ι : Type*} {step : σ → ι → σ} {ok : σ → ι → Prop} {Inv : σ → Prop}
  {s : σ} {xs : List ι}

/-- What the steps of a run come to. -/
def runTotal (step : σ → ι → σ) (f : σ → ι → ℕ) : σ → List ι → ℕ
  | _, [] => 0
  | s, x :: xs => f s x + runTotal step f (step s x) xs

/-- The balance covers the charge of each guarded step. -/
def Covers (step : σ → ι → σ) (ok : σ → ι → Prop) (Inv : σ → Prop) (balance : σ → ℕ)
    (charge pay : σ → ι → ℕ) : Prop :=
  ∀ s x, Inv s → ok s x → balance (step s x) + charge s x ≤ balance s + pay s x

/-- **A run is charged no more than it had and was paid.** -/
theorem runTotal_le {balance : σ → ℕ} {charge pay : σ → ι → ℕ}
    (hcovers : Covers step ok Inv balance charge pay)
    (hstep : ∀ s x, Inv s → ok s x → Inv (step s x)) (hs : Inv s) (h : Guarded step ok s xs) :
    balance (xs.foldl step s) + runTotal step charge s xs ≤
      balance s + runTotal step pay s xs := by
  induction xs generalizing s with
  | nil => exact le_rfl
  | cons x xs ih =>
    have hfirst := hcovers s x hs h.1
    have hrest := ih (hstep s x hs h.1) h.2
    rw [List.foldl_cons, runTotal, runTotal]
    omega

end Vidix.Util
