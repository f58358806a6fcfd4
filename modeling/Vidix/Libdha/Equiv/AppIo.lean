import Vidix.Libdha.Ports
import Vidix.Util.GuardedRun
import Mathlib.Data.List.Perm.Basic

/-!
# The account of the I/O permission

Every `enable_app_io` opens the helper anew and forgets the descriptor it had.  `disable_app_io`
counts down whatever the enable was that it undoes, and takes the descriptor as the sign of how to
undo it.  So the permission is right throughout a run iff no enable meets a helper that is open, and
every disable undoes the one enable that the helper has answered: `appIo_balanced_iff`.  The
descriptor 0, which `disable_app_io` takes for none, is the exception.

A run says of each disable which of the enables it undoes; the last one is only a special case.
-/

namespace Vidix.Libdha

open Util Dhahelper

/-- What has answered an enable. -/
inductive Backing
  | helper
  | direct
  deriving DecidableEq, Repr

/-- The state of libdha with the enables that have succeeded and not been undone, and whether the
counter has ever been counted down at zero. -/
structure IoAccount extends AppIo where
  outstanding : List Backing
  wrapped : Bool
  deriving DecidableEq, Repr

inductive IoCall
  | enable (opened : Option ℕ) (privileged : Bool)
  | disable (which : ℕ) (privileged : Bool)
  deriving DecidableEq, Repr

/-- What answers an enable that succeeds. -/
def backing (opened : Option ℕ) : Backing := if opened.isSome then .helper else .direct

def ioStep (a : IoAccount) : IoCall → IoAccount
  | .enable opened privileged =>
    let (ret, st) := enableAppIo opened privileged a.toAppIo
    { toAppIo := st, wrapped := a.wrapped
      outstanding := if ret = 0 then backing opened :: a.outstanding else a.outstanding }
  | .disable which privileged =>
    { toAppIo := (disableAppIo privileged a.toAppIo).2
      outstanding := a.outstanding.eraseIdx which
      wrapped := a.wrapped || a.dhahelperCounter == 0 }

/-- A new descriptor is none that is open, and each disable undoes an enable. -/
def IoSensible (a : IoAccount) : IoCall → Prop
  | .enable opened _ => ∀ fd, opened = some fd → fd ∉ a.openFds
  | .disable which _ => which < a.outstanding.length

/-- `dhahelper_fd` is a descriptor that is open. -/
def AppIo.IsOpen (st : AppIo) : Prop := ∃ fd ∈ st.openFds, st.dhahelperFd = fd

/-- The permission is what the enables ask for. -/
structure Balanced (a : IoAccount) : Prop where
  open_iff : a.IsOpen ↔ .helper ∈ a.outstanding
  /-- No descriptor has been overwritten while it was open. -/
  kept : ∀ fd ∈ a.openFds, a.dhahelperFd = fd
  no_wrap : a.wrapped = false
  released : a.outstanding = [] → a.openFds = [] ∧ a.ioplLevel = 0

/-- An enable meets no helper that is open; a disable undoes the enable that the helper answered.
While the helper has the descriptor 0 one enable of the other kind may be undone. -/
def Straight (a : IoAccount) : IoCall → Prop
  | .enable _ _ => .helper ∉ a.outstanding
  | .disable which _ =>
    a.outstanding[which]? = some .helper ∧ 0 < a.dhahelperFd ∨
      a.outstanding[which]? = some .direct ∧ a.dhahelperFd = 0 ∧ a.dhahelperCounter ≠ 0

/-! ### What the calls do -/

/-- Without the helper the level is raised, or the enable fails. -/
theorem enableAppIo_none (privileged : Bool) (st : AppIo) :
    enableAppIo none privileged st = (0, { st with dhahelperFd := -1, ioplLevel := 3 }) ∨
      enableAppIo none privileged st = (eperm, { st with dhahelperFd := -1 }) := by
  unfold enableAppIo enableOsIo iopl
  by_cases hlevel : (st.ioplLevel < 3 && !privileged) = true
  · rw [if_pos hlevel]
    exact Or.inr rfl
  · rw [if_neg hlevel]
    exact Or.inl rfl

/-- Lowering the level needs no privilege. -/
theorem disableOsIo_eq (privileged : Bool) (st : AppIo) :
    disableOsIo privileged st = (0, { st with ioplLevel := 0 }) := by
  unfold disableOsIo iopl
  simp

theorem disableAppIo_of_pos {st : AppIo} (privileged : Bool) (hfd : 0 < st.dhahelperFd)
    (hcount : st.dhahelperCounter = 1) :
    (disableAppIo privileged st).2 =
      { st with
        dhahelperFd := -1, dhahelperCounter := 0
        openFds := st.openFds.filter fun fd => (fd : ℤ) ≠ st.dhahelperFd } := by
  have hzero : st.dhahelperCounter - 1 = 0 := by rw [hcount]; rfl
  unfold disableAppIo
  rw [hzero, if_pos hfd, if_pos rfl]

theorem disableAppIo_of_not_pos {st : AppIo} (privileged : Bool) (hfd : ¬ 0 < st.dhahelperFd) :
    (disableAppIo privileged st).2 =
      { st with dhahelperCounter := st.dhahelperCounter - 1, ioplLevel := 0 } := by
  unfold disableAppIo
  rw [if_neg hfd, disableOsIo_eq]

theorem ioStep_disable (a : IoAccount) (which : ℕ) (privileged : Bool) :
    ioStep a (.disable which privileged) =
      { toAppIo := (disableAppIo privileged a.toAppIo).2
        outstanding := a.outstanding.eraseIdx which
        wrapped := a.wrapped || a.dhahelperCounter == 0 } := rfl

/-! ### Straight runs -/

/-- What holds between the calls of a straight run. -/
structure Tidy (a : IoAccount) : Prop where
  no_wrap : a.wrapped = false
  count_le : a.outstanding.count .helper ≤ 1
  idle : .helper ∉ a.outstanding →
    a.dhahelperFd = -1 ∧ a.openFds = [] ∧ a.dhahelperCounter = 0
  busy : .helper ∈ a.outstanding →
    ∃ fd : ℕ, a.dhahelperFd = fd ∧ a.openFds = [fd] ∧ (0 < fd → a.dhahelperCounter = 1)
  level : .direct ∉ a.outstanding → a.ioplLevel = 0

theorem Tidy.balanced {a : IoAccount} (h : Tidy a) : Balanced a := by
  by_cases hmem : .helper ∈ a.outstanding
  · obtain ⟨fd, hfd, hopen, -⟩ := h.busy hmem
    refine ⟨iff_of_true ⟨fd, ?_, hfd⟩ hmem, fun fd' hfd' => ?_, h.no_wrap, fun hnil => ?_⟩
    · rw [hopen]
      exact List.mem_cons_self
    · rw [hopen] at hfd'
      rw [List.mem_singleton.mp hfd']
      exact hfd
    · rw [hnil] at hmem
      exact absurd hmem List.not_mem_nil
  · obtain ⟨hfd, hopen, -⟩ := h.idle hmem
    refine ⟨iff_of_false ?_ hmem, ?_, h.no_wrap, fun hnil => ⟨hopen, h.level ?_⟩⟩
    · rintro ⟨fd, hfd', -⟩
      rw [hopen] at hfd'
      exact absurd hfd' List.not_mem_nil
    · rw [hopen]
      exact fun fd hfd' => absurd hfd' List.not_mem_nil
    · rw [hnil]
      exact List.not_mem_nil

theorem Tidy.enable {a : IoAccount} (h : Tidy a) (opened : Option ℕ) (privileged : Bool)
    (hidle : .helper ∉ a.outstanding) : Tidy (ioStep a (.enable opened privileged)) := by
  obtain ⟨hfd, hopen, hcount⟩ := h.idle hidle
  have hzero : a.outstanding.count .helper = 0 := List.count_eq_zero.mpr hidle
  rcases opened with _ | fd
  · unfold ioStep
    rcases enableAppIo_none privileged a.toAppIo with hst | hst
    · simp only [hst, if_pos]
      refine ⟨h.no_wrap, ?_, fun _ => ⟨rfl, hopen, hcount⟩, fun hmem => ?_, fun hmem => ?_⟩
      · show (Backing.direct :: a.outstanding).count .helper ≤ 1
        rw [List.count_cons_of_ne (by decide), hzero]
        omega
      · rcases List.mem_cons.mp hmem with hmem | hmem
        · cases hmem
        · exact absurd hmem hidle
      · exact absurd List.mem_cons_self hmem
    · simp only [hst]
      exact ⟨h.no_wrap, h.count_le, fun _ => ⟨rfl, hopen, hcount⟩,
        fun hmem => absurd hmem hidle, fun hmem => h.level hmem⟩
  · refine ⟨h.no_wrap, ?_, fun hmem => ?_, fun _ => ⟨fd, rfl, ?_, fun _ => ?_⟩, fun hmem => ?_⟩
    · show (Backing.helper :: a.outstanding).count .helper ≤ 1
      rw [List.count_cons_self, hzero]
    · exact absurd List.mem_cons_self hmem
    · show fd :: a.openFds = [fd]
      rw [hopen]
    · show a.dhahelperCounter + 1 = 1
      rw [hcount]
      rfl
    · exact h.level fun hdirect => hmem (List.mem_cons_of_mem _ hdirect)

/-- The enables with the one that is undone in front. -/
theorem outstanding_perm {a : IoAccount} {which : ℕ} {b : Backing}
    (hb : a.outstanding[which]? = some b) :
    (b :: a.outstanding.eraseIdx which).Perm a.outstanding := by
  obtain ⟨hlt, rfl⟩ := List.getElem?_eq_some_iff.mp hb
  exact List.getElem_cons_eraseIdx_perm hlt

theorem Tidy.disable_helper {a : IoAccount} {which : ℕ} (h : Tidy a) (privileged : Bool)
    (hb : a.outstanding[which]? = some .helper) (hpos : 0 < a.dhahelperFd) :
    Tidy (ioStep a (.disable which privileged)) := by
  have hperm := outstanding_perm hb
  have hmem : .helper ∈ a.outstanding := List.mem_of_getElem? hb
  obtain ⟨fd, hfd, hopen, hcount⟩ := h.busy hmem
  have hone : a.dhahelperCounter = 1 := hcount (by omega)
  -- the only helper is gone
  have hzero : (a.outstanding.eraseIdx which).count .helper = 0 := by
    have hle := h.count_le
    rw [← hperm.count_eq, List.count_cons_self] at hle
    omega
  have hidle : .helper ∉ a.outstanding.eraseIdx which := List.count_eq_zero.mp hzero
  rw [ioStep_disable, disableAppIo_of_pos privileged hpos hone]
  refine ⟨?_, ?_, fun _ => ⟨rfl, ?_, rfl⟩, fun hmem' => absurd hmem' hidle, fun hdirect => ?_⟩
  · show (a.wrapped || a.dhahelperCounter == 0) = false
    rw [h.no_wrap, hone]
    rfl
  · show (a.outstanding.eraseIdx which).count .helper ≤ 1
    omega
  · show a.openFds.filter _ = []
    rw [hopen, hfd]
    simp
  · refine h.level fun hdirect' => ?_
    rcases List.mem_cons.mp (hperm.mem_iff.mpr hdirect') with hne | hdirect'
    · cases hne
    · exact hdirect hdirect'

theorem Tidy.disable_direct {a : IoAccount} {which : ℕ} (h : Tidy a) (privileged : Bool)
    (hb : a.outstanding[which]? = some .direct) (hfd0 : a.dhahelperFd = 0)
    (hcount : a.dhahelperCounter ≠ 0) : Tidy (ioStep a (.disable which privileged)) := by
  have hperm := outstanding_perm hb
  have hmem : .helper ∈ a.outstanding := by
    by_contra hidle
    have hfd := (h.idle hidle).1
    omega
  obtain ⟨fd, hfd, hopen, -⟩ := h.busy hmem
  have hle := h.count_le
  rw [← hperm.count_eq, List.count_cons_of_ne (by decide)] at hle
  have hmem' : .helper ∈ a.outstanding.eraseIdx which := by
    rcases List.mem_cons.mp (hperm.mem_iff.mpr hmem) with hne | hmem'
    · cases hne
    · exact hmem'
  rw [ioStep_disable, disableAppIo_of_not_pos privileged (by omega)]
  refine ⟨?_, hle, fun hidle => absurd hmem' hidle, fun _ => ⟨fd, hfd, hopen, fun hpos => ?_⟩,
    fun _ => rfl⟩
  · show (a.wrapped || a.dhahelperCounter == 0) = false
    rw [h.no_wrap, beq_eq_false_iff_ne.mpr hcount]
    rfl
  · omega

theorem Tidy.step {a : IoAccount} {call : IoCall} (h : Tidy a) (hstraight : Straight a call) :
    Tidy (ioStep a call) := by
  rcases call with ⟨opened, privileged⟩ | ⟨which, privileged⟩
  · exact h.enable opened privileged hstraight
  · rcases hstraight with ⟨hb, hpos⟩ | ⟨hb, hfd, hcount⟩
    · exact h.disable_helper privileged hb hpos
    · exact h.disable_direct privileged hb hfd hcount

/-! ### The other calls -/

/-- An enable while the helper is open loses its descriptor. -/
theorem Tidy.not_balanced_enable {a : IoAccount} {opened : Option ℕ} (privileged : Bool)
    (h : Tidy a) (hsens : IoSensible a (.enable opened privileged))
    (hmem : .helper ∈ a.outstanding) : ¬ Balanced (ioStep a (.enable opened privileged)) := by
  obtain ⟨fd, -, hopen, -⟩ := h.busy hmem
  intro hbal
  have hkept := hbal.kept fd
  rcases opened with _ | fd'
  · have hfd : (ioStep a (.enable none privileged)).openFds = a.openFds ∧
        (ioStep a (.enable none privileged)).dhahelperFd = -1 := by
      unfold ioStep
      rcases enableAppIo_none privileged a.toAppIo with hst | hst <;> simp only [hst, and_self]
    rw [hfd.1, hfd.2, hopen] at hkept
    have := hkept List.mem_cons_self
    omega
  · have hfd : (fd' : ℤ) = fd := by
      refine hkept ?_
      show fd ∈ fd' :: a.openFds
      rw [hopen]
      exact List.mem_cons_of_mem _ List.mem_cons_self
    obtain rfl : fd' = fd := by omega
    refine hsens fd' rfl ?_
    rw [hopen]
    exact List.mem_cons_self

/-- A disable that leaves the account balanced is straight. -/
theorem Tidy.straight_disable {a : IoAccount} {which : ℕ} {privileged : Bool} (h : Tidy a)
    (hsens : IoSensible a (.disable which privileged))
    (hbal : Balanced (ioStep a (.disable which privileged))) :
    Straight a (.disable which privileged) := by
  obtain ⟨b, hb⟩ : ∃ b, a.outstanding[which]? = some b :=
    ⟨_, List.getElem?_eq_getElem hsens⟩
  have hperm := outstanding_perm hb
  have hwrap : (a.wrapped || a.dhahelperCounter == 0) = false := hbal.no_wrap
  have hcount : a.dhahelperCounter ≠ 0 := by
    rw [h.no_wrap, Bool.false_or] at hwrap
    exact beq_eq_false_iff_ne.mp hwrap
  have hmem : .helper ∈ a.outstanding := by
    by_contra hidle
    exact hcount (h.idle hidle).2.2
  obtain ⟨fd, hfd, hopen, hone⟩ := h.busy hmem
  have hiff := hbal.open_iff
  rw [ioStep_disable] at hiff
  rcases b with _ | _
  · refine Or.inl ⟨hb, ?_⟩
    by_contra hpos
    -- the descriptor 0 stays open although nobody wants it any more
    rw [disableAppIo_of_not_pos privileged hpos] at hiff
    have hmem' : .helper ∈ a.outstanding.eraseIdx which :=
      hiff.mp ⟨fd, by rw [hopen]; exact List.mem_cons_self, hfd⟩
    have hle := h.count_le
    rw [← hperm.count_eq, List.count_cons_self] at hle
    have := List.count_pos_iff.mpr hmem'
    omega
  · refine Or.inr ⟨hb, ?_, hcount⟩
    by_contra hne
    -- the helper is closed although one enable still wants it
    have hmem' : .helper ∈ a.outstanding.eraseIdx which := by
      rcases List.mem_cons.mp (hperm.mem_iff.mpr hmem) with hne | hmem'
      · cases hne
      · exact hmem'
    rw [disableAppIo_of_pos privileged (by omega) (hone (by omega))] at hiff
    obtain ⟨fd', hfd', -⟩ := hiff.mpr hmem'
    obtain ⟨hopen', hne'⟩ := List.mem_filter.mp hfd'
    rw [hopen] at hopen'
    rw [List.mem_singleton.mp hopen', hfd] at hne'
    exact of_decide_eq_true hne' rfl

theorem Tidy.straight {a : IoAccount} {call : IoCall} (h : Tidy a) (hsens : IoSensible a call)
    (hbal : Balanced (ioStep a call)) : Straight a call := by
  rcases call with ⟨opened, privileged⟩ | ⟨which, privileged⟩
  · exact fun hmem => h.not_balanced_enable privileged hsens hmem hbal
  · exact h.straight_disable hsens hbal

/-! ### Runs -/

/-- Before the first call. -/
def IoAccount.start : IoAccount := ⟨.start, [], false⟩

theorem tidy_start : Tidy .start :=
  ⟨rfl, Nat.zero_le _, fun _ => ⟨rfl, rfl, rfl⟩, fun h => absurd h List.not_mem_nil, fun _ => rfl⟩

/-- **The permission is right throughout a run iff the run is straight.** -/
theorem appIo_balanced_iff (calls : List IoCall) (hsens : Guarded ioStep IoSensible .start calls) :
    (∀ pre, pre <+: calls → Balanced (pre.foldl ioStep .start)) ↔
      Guarded ioStep Straight .start calls :=
  forall_prefix_iff_guarded_of_wf Tidy Balanced (fun _ h => h.balanced)
    (fun _ _ h _ hstraight => h.step hstraight) (fun _ _ h hsens hbal => h.straight hsens hbal)
    tidy_start hsens

/-- The helper is opened twice, one time after the other. -/
def twoTurns : List IoCall :=
  [.enable (some 3) false, .disable 0 false, .enable (some 3) false, .disable 0 false]

/-- Enables that are not nested keep the permission right. -/
theorem appIo_balanced_twoTurns :
    Guarded ioStep Straight .start twoTurns ∧
      ∀ pre, pre <+: twoTurns → Balanced (pre.foldl ioStep .start) := by
  have hsens : Guarded ioStep IoSensible .start twoTurns := by
    refine ⟨fun fd _ => List.not_mem_nil, ?_, fun fd _ => List.not_mem_nil, ?_, trivial⟩
    · show 0 < 1
      decide
    · show 0 < 1
      decide
  have hstraight : Guarded ioStep Straight .start twoTurns := by
    refine ⟨List.not_mem_nil, Or.inl ⟨rfl, ?_⟩, List.not_mem_nil, Or.inl ⟨rfl, ?_⟩, trivial⟩
    · decide
    · decide
  exact ⟨hstraight, (appIo_balanced_iff twoTurns hsens).mpr hstraight⟩

/-- **A second enable loses the first descriptor,** which stays open after both have been undone. -/
theorem appIo_nested_leaks :
    Guarded ioStep IoSensible .start
        [.enable (some 3) false, .enable (some 4) false, .disable 0 false, .disable 0 false] ∧
      ([.enable (some 3) false, .enable (some 4) false, .disable 0 false,
        .disable 0 false].foldl ioStep .start).openFds = [3] ∧
      ¬ ∀ pre, pre <+: [.enable (some 3) false, .enable (some 4) false, .disable 0 false,
        .disable 0 false] → Balanced (pre.foldl ioStep .start) := by
  refine ⟨⟨?_, ?_, ?_, ?_, trivial⟩, by decide, fun h => ?_⟩
  · exact fun fd _ => List.not_mem_nil
  · intro fd hfd
    obtain rfl := Option.some.inj hfd
    decide
  · show 0 < 2
    decide
  · show 0 < 1
    decide
  · obtain ⟨hopen, -⟩ := (h _ (List.prefix_refl _)).released (by decide)
    revert hopen
    decide

end Vidix.Libdha
