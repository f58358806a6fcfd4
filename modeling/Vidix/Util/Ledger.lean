import Mathlib.Data.List.Count
import Mathlib.Data.List.Infix
import Mathlib.Data.List.Perm.Basic

/-!
# What has been opened and not closed

A run opens and closes things, each known by a key, among other events.  `Open entry evs ks` says
that the events `evs` closed nothing that was not open and that `ks` is what they left open, with
each key as often as it is open; `entry` tells the openings and the closings among the events.
With `ks` empty, everything that was opened has been closed, exactly once for each time.
-/

namespace Vidix.Util

/-- An opening or a closing. -/
inductive Entry (κ : Type*)
  | opened (key : κ)
  | closed (key : κ)
  deriving DecidableEq

variable {ε κ : Type*} {entry : ε → Option (Entry κ)}

/-! ### The keys of a run -/

/-- The keys that have been opened, as often as they have. -/
def openedKeys (entry : ε → Option (Entry κ)) (evs : List ε) : List κ :=
  evs.filterMap fun ev =>
    match entry ev with
    | some (.opened key) => some key
    | _ => none

/-- The keys that have been closed, as often as they have. -/
def closedKeys (entry : ε → Option (Entry κ)) (evs : List ε) : List κ :=
  evs.filterMap fun ev =>
    match entry ev with
    | some (.closed key) => some key
    | _ => none

@[simp] theorem openedKeys_nil : openedKeys entry [] = [] := rfl

@[simp] theorem closedKeys_nil : closedKeys entry [] = [] := rfl

@[simp] theorem openedKeys_append (evs evs' : List ε) :
    openedKeys entry (evs ++ evs') = openedKeys entry evs ++ openedKeys entry evs' :=
  List.filterMap_append

@[simp] theorem closedKeys_append (evs evs' : List ε) :
    closedKeys entry (evs ++ evs') = closedKeys entry evs ++ closedKeys entry evs' :=
  List.filterMap_append

theorem openedKeys_cons (ev : ε) (evs : List ε) :
    openedKeys entry (ev :: evs) =
      match entry ev with
      | some (.opened key) => key :: openedKeys entry evs
      | _ => openedKeys entry evs := by
  unfold openedKeys
  rw [List.filterMap_cons]
  rcases entry ev with _ | key | key <;> rfl

theorem closedKeys_cons (ev : ε) (evs : List ε) :
    closedKeys entry (ev :: evs) =
      match entry ev with
      | some (.closed key) => key :: closedKeys entry evs
      | _ => closedKeys entry evs := by
  unfold closedKeys
  rw [List.filterMap_cons]
  rcases entry ev with _ | key | key <;> rfl

/-! ### What is open -/

variable [DecidableEq κ] {evs : List ε} {ks : List κ} {ev : ε}

/-- How many events make a certain entry. -/
def tally (entry : ε → Option (Entry κ)) (x : Entry κ) (evs : List ε) : ℕ :=
  (evs.map entry).count (some x)

theorem tally_concat (x : Entry κ) :
    tally entry x (evs ++ [ev]) = tally entry x evs + if entry ev = some x then 1 else 0 := by
  unfold tally
  rw [List.map_append, List.count_append, List.map_singleton, List.count_singleton]
  by_cases h : entry ev = some x
  · rw [if_pos (beq_iff_eq.mpr h), if_pos h]
  · rw [if_neg (fun h' => h (beq_iff_eq.mp h')), if_neg h]

/-- The events `evs` leave `ks` open. -/
structure Open (entry : ε → Option (Entry κ)) (evs : List ε) (ks : List κ) : Prop where
  /-- At no time has a key been closed more often than opened. -/
  closed_le : ∀ pre, pre <+: evs → ∀ key,
    tally entry (.closed key) pre ≤ tally entry (.opened key) pre
  /-- In the end what has not been closed is `ks`. -/
  opened_eq : ∀ key,
    tally entry (.opened key) evs = tally entry (.closed key) evs + ks.count key

theorem open_nil : Open entry ([] : List ε) [] where
  closed_le pre hpre key := by
    rw [List.prefix_nil.mp hpre]
    exact le_rfl
  opened_eq _ := rfl

/-- One more event keeps a ledger right when the balance is. -/
theorem Open.concat (h : Open entry evs ks) {ks' : List κ}
    (heq : ∀ key, tally entry (.opened key) (evs ++ [ev]) =
      tally entry (.closed key) (evs ++ [ev]) + ks'.count key) :
    Open entry (evs ++ [ev]) ks' where
  closed_le pre hpre key := by
    rcases List.prefix_concat_iff.mp hpre with rfl | hpre
    · rw [heq]
      exact Nat.le_add_right _ _
    · exact h.closed_le pre hpre key
  opened_eq := heq

theorem Open.concat_opened (h : Open entry evs ks) {key : κ} (hev : entry ev = some (.opened key)) :
    Open entry (evs ++ [ev]) (key :: ks) := by
  refine h.concat fun key' => ?_
  have hopened := h.opened_eq key'
  rw [tally_concat, tally_concat, hev, List.count_cons]
  by_cases hkey : key = key'
  · simp [hkey]
    omega
  · simp [hkey]
    omega

theorem Open.concat_closed {key : κ} (h : Open entry evs (key :: ks))
    (hev : entry ev = some (.closed key)) : Open entry (evs ++ [ev]) ks := by
  refine h.concat fun key' => ?_
  have hopened := h.opened_eq key'
  rw [List.count_cons] at hopened
  rw [tally_concat, tally_concat, hev]
  by_cases hkey : key = key'
  · simp [hkey] at hopened ⊢
    omega
  · simp [hkey] at hopened ⊢
    omega

theorem Open.concat_other (h : Open entry evs ks) (hev : entry ev = none) :
    Open entry (evs ++ [ev]) ks := by
  refine h.concat fun key => ?_
  have hopened := h.opened_eq key
  rw [tally_concat, tally_concat, hev]
  simp
  omega

/-- What is open is so in any order. -/
theorem Open.of_perm (h : Open entry evs ks) {ks' : List κ} (hperm : ks.Perm ks') :
    Open entry evs ks' where
  closed_le := h.closed_le
  opened_eq key := by rw [h.opened_eq, hperm.count_eq]

/-! ### All keys at once -/

theorem tally_opened (key : κ) (evs : List ε) :
    tally entry (.opened key) evs = (openedKeys entry evs).count key := by
  induction evs with
  | nil => rfl
  | cons ev evs ih =>
    unfold tally at ih ⊢
    rw [List.map_cons, List.count_cons, ih, openedKeys_cons]
    rcases entry ev with _ | key' | key'
    · simp
    · simp [List.count_cons]
    · simp

theorem tally_closed (key : κ) (evs : List ε) :
    tally entry (.closed key) evs = (closedKeys entry evs).count key := by
  induction evs with
  | nil => rfl
  | cons ev evs ih =>
    unfold tally at ih ⊢
    rw [List.map_cons, List.count_cons, ih, closedKeys_cons]
    rcases entry ev with _ | key' | key'
    · simp
    · simp
    · simp [List.count_cons]

/-- What has been opened is what has been closed and what is left open, up to order. -/
theorem Open.perm (h : Open entry evs ks) :
    (openedKeys entry evs).Perm (closedKeys entry evs ++ ks) := by
  rw [List.perm_iff_count]
  intro key
  rw [List.count_append, ← tally_opened, ← tally_closed]
  exact h.opened_eq key

/-- What further events open is what they close and the change in what is open, up to order. -/
theorem Open.perm_of_append (h : Open entry evs ks) {evs' : List ε} {ks' : List κ}
    (h' : Open entry (evs ++ evs') ks') :
    (openedKeys entry evs' ++ ks).Perm (closedKeys entry evs' ++ ks') := by
  have hbefore := h.perm
  have hafter := h'.perm
  rw [List.perm_iff_count] at hbefore hafter ⊢
  intro key
  have hb := hbefore key
  have ha := hafter key
  simp only [openedKeys_append, closedKeys_append, List.count_append] at ha hb ⊢
  omega

end Vidix.Util
