import Mathlib.Data.List.Basic
import Mathlib.Logic.Function.Basic
import Mathlib.Tactic.SplitIfs

/-!
# Writes to a table

`overwrite m ks v` is the map `m` after `v` was written to each key of `ks`.  What a loop of writes
does to a table is said with it, and what a second loop over the same keys undoes: `v` and then `w`
is just `w` (`overwrite_overwrite`), which restores the table iff all its keys had `w` before
(`overwrite_eq_self_iff`).

`writeAll m ws` is the map `m` after each key of `ws` got its own value.  A key that comes once
keeps what it got (`writeAll_of_mem`), and what is no key is left alone (`writeAll_of_not_mem`).
-/

namespace Vidix.Util

variable {κ ν : Type*} [DecidableEq κ]

/-- The map `m` with `v` at the keys `ks`. -/
def overwrite (m : κ → ν) (ks : List κ) (v : ν) : κ → ν := fun k => if k ∈ ks then v else m k

@[simp] theorem overwrite_nil (m : κ → ν) (v : ν) : overwrite m [] v = m := by
  funext k
  exact if_neg List.not_mem_nil

theorem overwrite_singleton (m : κ → ν) (k : κ) (v : ν) :
    overwrite m [k] v = Function.update m k v := by
  funext k'
  unfold overwrite
  by_cases h : k' = k
  · rw [h, if_pos (List.mem_singleton_self k), Function.update_self]
  · rw [if_neg (fun hk => h (List.mem_singleton.mp hk)), Function.update_of_ne h]

theorem overwrite_append (m : κ → ν) (ks ks' : List κ) (v : ν) :
    overwrite m (ks ++ ks') v = overwrite (overwrite m ks v) ks' v := by
  funext k
  unfold overwrite
  by_cases h : k ∈ ks'
  · rw [if_pos (List.mem_append_right _ h), if_pos h]
  · rw [if_neg h]
    by_cases h' : k ∈ ks
    · rw [if_pos (List.mem_append_left _ h'), if_pos h']
    · rw [if_neg (fun hk => (List.mem_append.mp hk).elim h' h), if_neg h']

/-- A second loop over the same keys hides the first. -/
theorem overwrite_overwrite (m : κ → ν) (ks : List κ) (v w : ν) :
    overwrite (overwrite m ks v) ks w = overwrite m ks w := by
  funext k
  unfold overwrite
  split_ifs <;> rfl

/-- **Writing `w` changes nothing iff `w` was there.** -/
theorem overwrite_eq_self_iff {m : κ → ν} {ks : List κ} {w : ν} :
    overwrite m ks w = m ↔ ∀ k ∈ ks, m k = w := by
  constructor
  · intro h k hk
    rw [← congrFun h k]
    exact if_pos hk
  · intro h
    funext k
    unfold overwrite
    split_ifs with hk
    · exact (h k hk).symm
    · rfl

/-! ### A value for each key -/

/-- The map `m` after the writes `ws`, one after the other. -/
def writeAll (m : κ → ν) (ws : List (κ × ν)) : κ → ν :=
  ws.foldl (fun m w => Function.update m w.1 w.2) m

@[simp] theorem writeAll_cons (m : κ → ν) (w : κ × ν) (ws : List (κ × ν)) :
    writeAll m (w :: ws) = writeAll (Function.update m w.1 w.2) ws := rfl

theorem writeAll_of_not_mem {ws : List (κ × ν)} {k : κ} (h : k ∉ ws.map Prod.fst) (m : κ → ν) :
    writeAll m ws k = m k := by
  induction ws generalizing m with
  | nil => rfl
  | cons w ws ih =>
    rw [List.map_cons, List.mem_cons, not_or] at h
    rw [writeAll_cons, ih h.2, Function.update_of_ne h.1]

/-- **No write is lost** when the keys are different. -/
theorem writeAll_of_mem {ws : List (κ × ν)} (hnodup : (ws.map Prod.fst).Nodup) {k : κ} {v : ν}
    (h : (k, v) ∈ ws) (m : κ → ν) : writeAll m ws k = v := by
  induction ws generalizing m with
  | nil => exact absurd h List.not_mem_nil
  | cons w ws ih =>
    rw [List.map_cons, List.nodup_cons] at hnodup
    rw [writeAll_cons]
    rcases List.mem_cons.mp h with rfl | h
    · rw [writeAll_of_not_mem hnodup.1, Function.update_self]
    · exact ih hnodup.2 h _

end Vidix.Util
