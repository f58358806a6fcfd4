import Vidix.Util.GuardedRun
import Mathlib.Data.Sum.Basic

/-!
# Calls among the acts of others

A system takes the calls of a client, in the order in which the client makes them, and between them
the acts of others, any that make sense (`wf`).  Something goes wrong at a step when `bad` says so.
A discipline is an automaton that sees the calls only.  It is exact when, in the states that go with
its own (`Inv`), calls that keep to it and acts of others never go wrong and others can make a call
that does not keep to it go wrong, without a trace.  Then the calls that are safe among whatever
others do are those that keep to the discipline (`safe_iff_disciplined`).
-/

namespace Vidix.Util

variable {σ τ γ α : Type*} {step : σ → γ ⊕ α → σ} {wf bad : σ → γ ⊕ α → Prop}
  {turn : τ → γ → τ} {ok : τ → γ → Prop} {Inv : σ → τ → Prop} {s : σ} {t : τ}

/-- The calls of a run. -/
def callsOf (run : List (γ ⊕ α)) : List γ := run.filterMap Sum.getLeft?

@[simp] theorem callsOf_nil : callsOf ([] : List (γ ⊕ α)) = [] := rfl

@[simp] theorem callsOf_inl (c : γ) (run : List (γ ⊕ α)) :
    callsOf (.inl c :: run) = c :: callsOf run := rfl

@[simp] theorem callsOf_inr (a : α) (run : List (γ ⊕ α)) :
    callsOf (.inr a :: run) = callsOf run := rfl

@[simp] theorem callsOf_append (run run' : List (γ ⊕ α)) :
    callsOf (run ++ run') = callsOf run ++ callsOf run' := List.filterMap_append

@[simp] theorem callsOf_map_inr (acts : List α) :
    callsOf (acts.map Sum.inr : List (γ ⊕ α)) = [] := by
  induction acts with
  | nil => rfl
  | cons a acts ih => exact ih

@[simp] theorem callsOf_map_inl (calls : List γ) :
    callsOf (calls.map Sum.inl : List (γ ⊕ α)) = calls := by
  induction calls with
  | nil => rfl
  | cons c calls ih => exact congrArg (c :: ·) ih

/-- Whatever the others do between the calls, nothing goes wrong. -/
def Safe (step : σ → γ ⊕ α → σ) (wf bad : σ → γ ⊕ α → Prop) (s : σ) (calls : List γ) : Prop :=
  ∀ run, callsOf run = calls → Guarded step wf s run → Guarded step (fun s x => ¬ bad s x) s run

/-- The discipline tells exactly which calls others can make go wrong. -/
structure Exact (step : σ → γ ⊕ α → σ) (wf bad : σ → γ ⊕ α → Prop) (turn : τ → γ → τ)
    (ok : τ → γ → Prop) (Inv : σ → τ → Prop) : Prop where
  call : ∀ s t c, Inv s t → ok t c → wf s (.inl c) →
    ¬ bad s (.inl c) ∧ Inv (step s (.inl c)) (turn t c)
  act : ∀ s t a, Inv s t → wf s (.inr a) → ¬ bad s (.inr a) ∧ Inv (step s (.inr a)) t
  /-- Some acts around the call make it go wrong, and then all is as after the call alone. -/
  trap : ∀ s t c, Inv s t → ¬ ok t c → wf s (.inl c) → ∃ before after : List α,
    let run := before.map Sum.inr ++ .inl c :: after.map Sum.inr
    Guarded step wf s run ∧ ¬ Guarded step (fun s x => ¬ bad s x) s run ∧
      run.foldl step s = step s (.inl c)

/-- Calls that keep to the discipline are safe. -/
theorem Exact.safe (h : Exact step wf bad turn ok Inv) (hinv : Inv s t) {calls : List γ}
    (hcalls : Guarded turn ok t calls) : Safe step wf bad s calls := by
  intro run hrun hwf
  induction run generalizing s t calls with
  | nil => trivial
  | cons x run ih =>
    cases x with
    | inl c =>
      rw [callsOf_inl] at hrun
      subst hrun
      obtain ⟨hgood, hinv'⟩ := h.call s t c hinv hcalls.1 hwf.1
      exact ⟨hgood, ih hinv' hcalls.2 rfl hwf.2⟩
    | inr a =>
      obtain ⟨hgood, hinv'⟩ := h.act s t a hinv hwf.1
      exact ⟨hgood, ih hinv' hcalls hrun hwf.2⟩

/-- Safe calls keep to the discipline, if they can be made at all. -/
theorem Exact.disciplined (h : Exact step wf bad turn ok Inv) (hinv : Inv s t) {calls : List γ}
    (hwf : Guarded step wf s (calls.map Sum.inl)) (hsafe : Safe step wf bad s calls) :
    Guarded turn ok t calls := by
  induction calls generalizing s t with
  | nil => trivial
  | cons c calls ih =>
    have hok : ok t c := by
      by_contra hnot
      obtain ⟨before, after, hrun, hbad, hsame⟩ := h.trap s t c hinv hnot hwf.1
      -- the trap, and then the other calls by themselves
      refine hbad (guarded_append.mp (hsafe (_ ++ calls.map Sum.inl) ?_ ?_)).1
      · simp
      · exact guarded_append.mpr ⟨hrun, hsame ▸ hwf.2⟩
    refine ⟨hok, ih (h.call s t c hinv hok hwf.1).2 hwf.2 fun run hrun hwf' => ?_⟩
    exact (hsafe (.inl c :: run) (by rw [callsOf_inl, hrun]) ⟨hwf.1, hwf'⟩).2

/-- **Calls are safe among whatever others do iff they keep to the discipline.** -/
theorem safe_iff_disciplined (h : Exact step wf bad turn ok Inv) (hinv : Inv s t) {calls : List γ}
    (hwf : Guarded step wf s (calls.map Sum.inl)) :
    Safe step wf bad s calls ↔ Guarded turn ok t calls :=
  ⟨h.disciplined hinv hwf, h.safe hinv⟩

end Vidix.Util
