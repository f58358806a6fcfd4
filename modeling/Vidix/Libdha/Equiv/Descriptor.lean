import Vidix.Libdha.Descriptor
import Vidix.Util.Interleaving

/-!
# The library keeps to its own descriptors

`bm_close` leaves `libdha_fd` as it is, and so does `bm_open` when it does not like the version of
the helper and closes the descriptor again.  The number may then be given to a file of the program,
which a further `bm_close` would close and to which a further request would go.  `Held` sees what
the calls hold: they are safe, whatever the rest of the program opens and closes in between, iff
nothing is closed or asked for after that without another `bm_open` (`safe_iff_held`).  For a
driver, which closes what its `vixInit` opened in `vixDestroy` whether or not that went well, this
means that no helper has been too old (`sessions_safe_iff`).  The interrupts have no part in this:
their descriptor is never closed.
-/

namespace Vidix.Libdha

open Util

/-! ### What a call reaches -/

/-- A descriptor that somebody else has opened is closed, or a request goes to it. -/
def Foreign (p : Process) : HelperCall ⊕ OwnAct → Prop
  | .inl call => ∃ owner fd, p.reaches call = some (owner, fd) ∧ 0 ≤ fd ∧
      ∃ other ∈ p.files fd.toNat, other ≠ owner
  | .inr _ => False

/-- The kernel gives away numbers that are free, the program closes what it has opened, and
`hwirq_locks` does not overflow. -/
def GrantsFree (p : Process) : HelperCall ⊕ OwnAct → Prop
  | .inl (.bmOpen opened _) => ∀ fd ∈ opened, p.files fd = none
  | .inl (.hwirqInstall opened) =>
    (p.irqFd = -1 → ∀ fd ∈ opened, p.files fd = none) ∧ p.hwirqLocks.toInt + 1 < 2 ^ 31
  | .inr (.opened fd) => p.files fd = none
  | .inr (.closed fd) => p.files fd = some .program
  | .inl .bmClose | .inl .bmRequest | .inl .hwirqWait | .inl .hwirqUninstall => True

/-! ### The discipline -/

/-- The number in `libdha_fd` of `mmi.c`, and whether it is still open. -/
structure Held where
  fd : ℤ
  live : Bool
  deriving DecidableEq, Repr

def Held.start : Held := ⟨-1, false⟩

/-- The helper is there but too old. -/
def Refused (opened : Option ℕ) (ver : Int32) : Bool := 0 < fdOf opened && ver < allowedVer

def Held.turn (h : Held) : HelperCall → Held
  | .bmOpen opened ver => ⟨fdOf opened, opened.isSome && !Refused opened ver⟩
  | .bmClose => { h with live := false }
  | .bmRequest | .hwirqInstall _ | .hwirqWait | .hwirqUninstall => h

/-- What is closed is open, if there is anything, and so is what a request goes to. -/
def Held.Ok (h : Held) : HelperCall → Prop
  | .bmClose => h.live = true ∨ h.fd = -1
  | .bmRequest => h.live = true ∨ h.fd ≤ 0
  | .bmOpen _ _ | .hwirqInstall _ | .hwirqWait | .hwirqUninstall => True

/-! ### The invariant -/

/-- What the process has for what the calls hold. -/
structure Holds (p : Process) (h : Held) : Prop where
  fd : p.mmiFd = h.fd
  fd_cases : h.fd = -1 ∨ 0 ≤ h.fd
  live : h.live = true → 0 ≤ h.fd ∧ p.files h.fd.toNat = some .mmi
  stale : h.live = false → 0 ≤ h.fd → p.files h.fd.toNat ≠ some .mmi
  irq : p.irqFd = -1 ∨ 0 ≤ p.irqFd ∧ p.files p.irqFd.toNat = some .irq
  locks : 0 ≤ p.hwirqLocks.toInt
  unlocked : p.hwirqLocks = 0 → p.irqFd = -1

variable {p : Process} {h : Held}

theorem Holds.start (taken : ℕ → Bool) : Holds (.start taken) .start :=
  ⟨rfl, .inl rfl, fun hno => absurd hno Bool.false_ne_true, fun _ hno => absurd hno (by decide),
    .inl rfl, le_rfl, fun _ => rfl⟩

theorem fdOf_cases (opened : Option ℕ) : fdOf opened = -1 ∨ 0 ≤ fdOf opened := by
  cases opened with
  | none => exact .inl rfl
  | some fd => exact .inr (Int.natCast_nonneg fd)

/-- Only the number that is given away changes its owner. -/
theorem opened_apply (files : Files) (owner : Owner) {opened : Option ℕ} {fd : ℕ}
    (hfree : ∀ n ∈ opened, files n = none) (h : files fd ≠ none) :
    files.opened owner opened fd = files fd := by
  cases opened with
  | none => rfl
  | some n =>
    refine Function.update_of_ne ?_ _ _
    rintro rfl
    exact h (hfree _ rfl)

/-- Nobody gets a descriptor of another owner. -/
theorem opened_ne (files : Files) {owner owner' : Owner} (hne : owner ≠ owner') {fd : ℕ}
    (opened : Option ℕ) (h : files fd ≠ some owner') :
    files.opened owner opened fd ≠ some owner' := by
  cases opened with
  | none => exact h
  | some n =>
    show Function.update files n (some owner) fd ≠ some owner'
    rw [Function.update_apply]
    split_ifs
    · exact fun heq => hne (Option.some.inj heq)
    · exact h

theorem closed_apply (files : Files) {closing : ℤ} {fd : ℕ} (h : 0 ≤ closing → closing.toNat ≠ fd) :
    files.closed closing fd = files fd := by
  unfold Files.closed
  split_ifs with hpos
  · exact Function.update_of_ne (h hpos).symm _ _
  · rfl

theorem closed_self (files : Files) {closing : ℤ} (h : 0 ≤ closing) :
    files.closed closing closing.toNat = none := by
  unfold Files.closed
  rw [if_pos h, Function.update_self]

/-! ### The calls, one by one -/

theorem Holds.bmOpen (hold : Holds p h) {opened : Option ℕ} {ver : Int32}
    (hfree : ∀ fd ∈ opened, p.files fd = none) :
    Holds (bmOpen opened ver p).2 (h.turn (.bmOpen opened ver)) := by
  have hfresh : ∀ fd ∈ opened, p.files.opened .mmi opened fd = some .mmi := by
    rintro fd rfl
    exact Function.update_self _ _ _
  -- what `irq.c` has opened is not given away
  have hirq : p.irqFd = -1 ∨
      0 ≤ p.irqFd ∧ p.files.opened .mmi opened p.irqFd.toNat = some .irq := by
    refine hold.irq.imp_right fun ⟨hpos, hown⟩ => ⟨hpos, ?_⟩
    rw [opened_apply _ _ hfree (by rw [hown]; exact Option.some_ne_none _), hown]
  unfold Libdha.bmOpen Held.turn
  dsimp only
  by_cases hpos : fdOf opened > 0
  · rw [if_pos hpos, if_pos rfl]
    by_cases hver : ver < allowedVer
    · have hrefused : Refused opened ver = true := by
        unfold Refused
        rw [Bool.and_eq_true, decide_eq_true_eq, decide_eq_true_eq]
        exact ⟨hpos, hver⟩
      rw [if_pos hver, hrefused]
      refine ⟨rfl, fdOf_cases opened, fun hno => ?_, fun _ hfd => ?_, ?_, hold.locks,
        hold.unlocked⟩
      · simp at hno
      · dsimp only
        rw [closed_self _ hfd]
        exact fun hno => absurd hno.symm (Option.some_ne_none _)
      · refine hirq.imp_right fun ⟨hnn, hown⟩ => ⟨hnn, ?_⟩
        dsimp only
        rw [closed_apply _ fun _ heq => ?_, hown]
        obtain ⟨fd, rfl⟩ : ∃ fd, opened = some fd := by
          cases opened with
          | none => exact absurd hpos (by decide)
          | some fd => exact ⟨fd, rfl⟩
        have hmmi := hfresh fd rfl
        rw [← heq] at hown
        exact absurd (hmmi.symm.trans hown) (by decide)
    · have hrefused : Refused opened ver = false := by
        unfold Refused
        rw [decide_eq_false hver, Bool.and_false]
      rw [if_neg hver, hrefused]
      refine ⟨rfl, fdOf_cases opened, fun _ => ⟨le_of_lt hpos, ?_⟩, fun hno => ?_, hirq,
        hold.locks, hold.unlocked⟩
      · obtain ⟨fd, rfl⟩ : ∃ fd, opened = some fd := by
          cases opened with
          | none => exact absurd hpos (by decide)
          | some fd => exact ⟨fd, rfl⟩
        exact hfresh fd rfl
      · cases opened with
        | none => exact absurd hpos (by decide)
        | some fd => simp at hno
  · have hrefused : Refused opened ver = false := by
      unfold Refused
      rw [decide_eq_false hpos, Bool.false_and]
    rw [if_neg hpos, if_neg (by decide), hrefused]
    refine ⟨rfl, fdOf_cases opened, fun hlive => ?_, fun hno hfd => ?_, hirq, hold.locks,
      hold.unlocked⟩
    · cases opened with
      | none => simp at hlive
      | some fd => exact ⟨Int.natCast_nonneg fd, hfresh fd rfl⟩
    · cases opened with
      | none => exact absurd hfd (by decide)
      | some fd => simp at hno

theorem Holds.bmClose (hold : Holds p h) (hok : h.Ok .bmClose) :
    Holds (bmClose p) (h.turn .bmClose) := by
  have hfiles : (Libdha.bmClose p).files = p.files.closed h.fd := by
    unfold Libdha.bmClose
    rw [hold.fd]
  refine ⟨hold.fd, hold.fd_cases, fun hno => absurd hno Bool.false_ne_true, fun _ hfd => ?_, ?_,
    hold.locks, hold.unlocked⟩
  · rw [hfiles]
    show p.files.closed h.fd h.fd.toNat ≠ _
    rw [closed_self p.files (show 0 ≤ h.fd from hfd)]
    exact fun hno => absurd hno.symm (Option.some_ne_none _)
  · refine hold.irq.imp_right fun ⟨hpos, hown⟩ => ⟨hpos, ?_⟩
    rw [hfiles]
    show p.files.closed h.fd p.irqFd.toNat = _
    rw [closed_apply _ fun hfd heq => ?_, hown]
    -- what is closed is not the descriptor of `irq.c`
    rcases hok with hlive | hminus
    · rw [← heq, (hold.live hlive).2] at hown
      exact absurd hown (by decide)
    · rw [hminus] at hfd
      exact absurd hfd (by decide)

theorem toInt_locks_succ {locks : Int32} (hpos : 0 ≤ locks.toInt) (hlt : locks.toInt + 1 < 2 ^ 31) :
    (locks + 1).toInt = locks.toInt + 1 := by
  rw [Int32.toInt_add, show (1 : Int32).toInt = 1 from rfl]
  exact Int.bmod_eq_of_le (by omega) (by omega)

theorem Holds.hwirqInstall (hold : Holds p h) {opened : Option ℕ}
    (hfree : p.irqFd = -1 → ∀ fd ∈ opened, p.files fd = none)
    (hlt : p.hwirqLocks.toInt + 1 < 2 ^ 31) :
    Holds (hwirqInstall opened p) (h.turn (.hwirqInstall opened)) := by
  have hlocks := toInt_locks_succ hold.locks hlt
  have hnonneg := hold.locks
  have hne : p.hwirqLocks + 1 ≠ 0 := by
    intro h0
    rw [h0, show (0 : Int32).toInt = 0 from rfl] at hlocks
    omega
  unfold Libdha.hwirqInstall
  by_cases hfd : p.irqFd = -1
  · rw [if_pos hfd]
    refine ⟨hold.fd, hold.fd_cases, fun hlive => ⟨(hold.live hlive).1, ?_⟩, fun hstale hpos => ?_,
      ?_, ?_, fun h0 => absurd h0 hne⟩
    · have hown := (hold.live hlive).2
      dsimp only [Held.turn]
      rw [opened_apply _ _ (hfree hfd) (by rw [hown]; exact Option.some_ne_none _), hown]
    · exact opened_ne _ (by decide) _ (hold.stale hstale hpos)
    · cases opened with
      | none => exact .inl rfl
      | some fd => exact .inr ⟨Int.natCast_nonneg fd, Function.update_self _ _ _⟩
    · dsimp only
      omega
  · rw [if_neg hfd]
    refine ⟨hold.fd, hold.fd_cases, hold.live, hold.stale, hold.irq, ?_, fun h0 => absurd h0 hne⟩
    dsimp only
    omega

theorem Holds.hwirqUninstall (hold : Holds p h) : hwirqUninstall p = p := by
  unfold Libdha.hwirqUninstall
  split_ifs with h0
  · have hfd := hold.unlocked h0
    rw [hfd]
    cases p
    cases hfd
    rfl
  · rfl

/-- What the rest of the program does leaves both descriptors alone. -/
theorem Holds.own (hold : Holds p h) (a : OwnAct) (hsens : GrantsFree p (.inr a)) :
    Holds (p.step (.inr a)) h := by
  -- the number is not one that the library has opened
  have hother : ∃ fd value, p.step (.inr a) = { p with files := Function.update p.files fd value } ∧
      (∀ owner, owner ≠ .program → p.files fd ≠ some owner) ∧ value ≠ some .mmi := by
    cases a with
    | opened fd =>
      refine ⟨fd, _, rfl, fun owner _ heq => ?_, by decide⟩
      rw [show p.files fd = none from hsens] at heq
      exact absurd heq.symm (Option.some_ne_none _)
    | closed fd =>
      refine ⟨fd, _, rfl, fun owner hne heq => ?_, by decide⟩
      rw [show p.files fd = some .program from hsens] at heq
      exact hne (Option.some.inj heq).symm
  obtain ⟨fd, value, hstep, hfd, hvalue⟩ := hother
  have hkeep : ∀ n owner, owner ≠ .program → p.files n = some owner →
      Function.update p.files fd value n = some owner := by
    intro n owner hne hn
    rw [Function.update_of_ne (fun heq : n = fd => hfd owner hne (heq ▸ hn)), hn]
  rw [hstep]
  refine ⟨hold.fd, hold.fd_cases, fun hlive => ?_, fun hstale hpos => ?_, ?_, hold.locks,
    hold.unlocked⟩
  · exact ⟨(hold.live hlive).1, hkeep _ _ (by decide) (hold.live hlive).2⟩
  · dsimp only
    rw [Function.update_apply]
    split_ifs
    · exact hvalue
    · exact hold.stale hstale hpos
  · exact hold.irq.imp_right fun ⟨hpos, hown⟩ => ⟨hpos, hkeep _ _ (by decide) hown⟩

/-! ### Right and wrong -/

theorem Holds.not_foreign_irq (hold : Holds p h) {call : HelperCall}
    (hreach : ∀ o ∈ p.reaches call, o = (.irq, p.irqFd)) : ¬ Foreign p (.inl call) := by
  rintro ⟨owner, fd, hr, hpos, other, hother, hne⟩
  obtain ⟨rfl, rfl⟩ := Prod.mk.inj (hreach _ hr)
  rcases hold.irq with hminus | ⟨-, hown⟩
  · rw [hminus] at hpos
    exact absurd hpos (by decide)
  · exact hne (Option.some.inj (hother.symm.trans hown))

theorem Holds.not_foreign_mmi (hold : Holds p h) {call : HelperCall}
    (hreach : ∀ o ∈ p.reaches call, o = (.mmi, p.mmiFd))
    (hok : h.live = true ∨ ∀ o ∈ p.reaches call, ¬ 0 ≤ o.2) : ¬ Foreign p (.inl call) := by
  rintro ⟨owner, fd, hr, hpos, other, hother, hne⟩
  rcases hok with hlive | hnone
  · obtain ⟨rfl, rfl⟩ := Prod.mk.inj (hreach _ hr)
    rw [hold.fd, (hold.live hlive).2] at hother
    exact hne (Option.some.inj hother).symm
  · exact hnone _ hr hpos

/-- A call that keeps to the discipline reaches no descriptor of others. -/
theorem Holds.not_foreign (hold : Holds p h) {call : HelperCall} (hok : h.Ok call) :
    ¬ Foreign p (.inl call) := by
  have hreach : ∀ {b : Prop} [Decidable b] {x o : Owner × ℤ},
      o ∈ (if b then some x else none) → o = x ∧ b := by
    intro b _ x o ho
    split_ifs at ho with hb
    · exact ⟨(Option.some.inj ho).symm, hb⟩
    · cases ho
  cases call with
  | bmOpen opened ver =>
    rintro ⟨owner, fd, hr, -⟩
    cases hr
  | bmClose =>
    refine hold.not_foreign_mmi (fun o ho => (Option.some.inj ho).symm) (hok.imp_right ?_)
    rintro hminus o ho
    cases ho
    rw [hold.fd, hminus]
    decide
  | bmRequest =>
    refine hold.not_foreign_mmi (fun o ho => (hreach ho).1) (hok.imp_right ?_)
    intro hle o ho
    have hpos := (hreach ho).2
    rw [hold.fd] at hpos
    omega
  | hwirqInstall opened => exact hold.not_foreign_irq fun o ho => (hreach ho).1
  | hwirqWait => exact hold.not_foreign_irq fun o ho => (hreach ho).1
  | hwirqUninstall => exact hold.not_foreign_irq fun o ho => (hreach ho).1

theorem Holds.call (hold : Holds p h) {call : HelperCall} (hok : h.Ok call)
    (hsens : GrantsFree p (.inl call)) : Holds (p.step (.inl call)) (h.turn call) := by
  cases call with
  | bmOpen opened ver => exact hold.bmOpen hsens
  | bmClose => exact hold.bmClose hok
  | bmRequest => exact hold
  | hwirqInstall opened => exact hold.hwirqInstall hsens.1 hsens.2
  | hwirqWait => exact hold
  | hwirqUninstall =>
    show Holds (Libdha.hwirqUninstall p) h
    rw [hold.hwirqUninstall]
    exact hold

/-- A call that does not keep to the discipline reaches a number that has been closed. -/
theorem Holds.stale_of_not_ok (hold : Holds p h) {call : HelperCall} (hnot : ¬ h.Ok call) :
    (call = .bmClose ∨ call = .bmRequest) ∧ p.reaches call = some (.mmi, h.fd) ∧ 0 ≤ h.fd ∧
      h.live = false := by
  cases call with
  | bmClose =>
    obtain ⟨hlive, hfd⟩ := not_or.mp hnot
    refine ⟨.inl rfl, ?_, hold.fd_cases.resolve_left hfd, Bool.eq_false_of_not_eq_true hlive⟩
    unfold Process.reaches
    rw [hold.fd]
  | bmRequest =>
    obtain ⟨hlive, hfd⟩ := not_or.mp hnot
    refine ⟨.inr rfl, ?_, by omega, Bool.eq_false_of_not_eq_true hlive⟩
    unfold Process.reaches
    rw [hold.fd, if_pos (by omega)]
  | bmOpen | hwirqInstall | hwirqWait | hwirqUninstall => exact absurd trivial hnot

/-- Another file that gets the number is closed, or gets the request. -/
theorem Holds.trap (hold : Holds p h) {call : HelperCall} (hnot : ¬ h.Ok call) :
    ∃ before after : List OwnAct,
      let run := before.map Sum.inr ++ .inl call :: after.map Sum.inr
      Guarded Process.step GrantsFree p run ∧
        ¬ Guarded Process.step (fun p x => ¬ Foreign p x) p run ∧
        run.foldl Process.step p = p.step (.inl call) := by
  obtain ⟨hcall, hreach, hpos, hstale⟩ := hold.stale_of_not_ok hnot
  have hreaches : ∀ files : Files, ({ p with files := files } : Process).reaches call =
      some (.mmi, h.fd) := by
    intro files
    rw [← hreach]
    rcases hcall with rfl | rfl <;> rfl
  have hsens : ∀ q : Process, GrantsFree q (.inl call) := by
    intro q
    rcases hcall with rfl | rfl <;> trivial
  cases hfile : p.files h.fd.toNat with
  | some owner =>
    refine ⟨[], [], ⟨hsens p, trivial⟩, fun hgood => hgood.1 ?_, rfl⟩
    refine ⟨.mmi, h.fd, hreach, hpos, owner, hfile, fun heq => ?_⟩
    exact hold.stale hstale hpos (heq ▸ hfile)
  | none =>
    have hforeign : Foreign (p.step (.inr (.opened h.fd.toNat))) (.inl call) :=
      ⟨.mmi, h.fd, hreaches _, hpos, .program, Function.update_self _ _ _, by decide⟩
    rcases hcall with rfl | rfl
    · -- the file of the program is closed, and the number is free again
      refine ⟨[.opened h.fd.toNat], [], ⟨hfile, trivial, trivial⟩,
        fun hgood => hgood.2.1 hforeign, ?_⟩
      show Libdha.bmClose (p.step (.inr (.opened h.fd.toNat))) = Libdha.bmClose p
      unfold Libdha.bmClose Process.step Files.closed
      dsimp only
      rw [hold.fd, if_pos hpos, if_pos hpos, Function.update_idem]
    · refine ⟨[.opened h.fd.toNat], [.closed h.fd.toNat],
        ⟨hfile, trivial, Function.update_self _ _ _, trivial⟩,
        fun hgood => hgood.2.1 hforeign, ?_⟩
      have hfiles : Function.update (Function.update p.files h.fd.toNat (some .program))
          h.fd.toNat none = p.files := by
        rw [Function.update_idem, ← hfile, Function.update_eq_self]
      exact congrArg (fun files => ({ p with files := files } : Process)) hfiles

theorem exact_held :
    Exact Process.step GrantsFree Foreign Held.turn Held.Ok Holds where
  call _ _ _ hold hok hsens := ⟨hold.not_foreign hok, hold.call hok hsens⟩
  act _ _ a hold hsens := ⟨id, hold.own a hsens⟩
  trap _ _ _ hold hnot _ := hold.trap hnot

/-- **The library keeps to its own descriptors, whatever the rest of the program opens and closes
between its calls, iff nothing is closed or asked for that is not held.** -/
theorem safe_iff_held (taken : ℕ → Bool) (calls : List HelperCall)
    (hcalls : Guarded Process.step GrantsFree (.start taken) (calls.map Sum.inl)) :
    Safe Process.step GrantsFree Foreign (.start taken) calls ↔
      Guarded Held.turn Held.Ok .start calls :=
  safe_iff_disciplined exact_held (Holds.start taken) hcalls

/-- A request, a wait and the same again after another opening, which gets the same number. -/
theorem safe_iff_held_sample :
    Safe Process.step GrantsFree Foreign (.start (· < 3))
      [.bmOpen (some 3) 0x10, .bmRequest, .hwirqInstall (some 4), .bmClose, .hwirqWait,
        .bmOpen (some 3) 0x10, .bmRequest, .hwirqUninstall, .bmClose] := by
  refine (safe_iff_held _ _ ?_).mpr ?_
  · simp [Guarded, GrantsFree, Process.step, Process.start, bmOpen, bmClose, hwirqInstall, fdOf,
      allowedVer, Files.opened, Files.closed, Function.update_apply]
  · simp [Guarded, Held.turn, Held.Ok, Refused, fdOf, allowedVer]

/-! ### Drivers -/

theorem bmOpen_eq_zero_iff (s : Session) (p : Process) :
    (bmOpen s.opened s.ver p).1 = 0 ↔ s.hasHelper = true := by
  unfold bmOpen Session.hasHelper
  dsimp only
  rw [Bool.and_eq_true, decide_eq_true_eq, Bool.not_eq_true', decide_eq_false_iff_not]
  by_cases hpos : fdOf s.opened > 0
  · rw [if_pos hpos, if_pos rfl]
    split_ifs with hver
    · exact iff_of_false (by simp [einval]) fun hand => hand.2 hver
    · exact iff_of_true rfl ⟨hpos, hver⟩
  · rw [if_neg hpos, if_neg (by simp [enxio])]
    exact iff_of_false (by simp [enxio]) fun hand => hpos hand.1

/-- What is done with the helper changes nothing that is held. -/
theorem Held.guarded_uses (h : Held) {uses : List Use} (hlive : .request ∈ uses → h.live = true) :
    Guarded Held.turn Held.Ok h (uses.map Use.call) ∧
      (uses.map Use.call).foldl Held.turn h = h := by
  induction uses with
  | nil => exact ⟨trivial, rfl⟩
  | cons use uses ih =>
    obtain ⟨hguarded, hfold⟩ := ih fun hmem => hlive (List.mem_cons_of_mem _ hmem)
    cases use with
    | request => exact ⟨⟨.inl (hlive List.mem_cons_self), hguarded⟩, hfold⟩
    | install | wait | uninstall => exact ⟨⟨trivial, hguarded⟩, hfold⟩

/-- A session keeps to the discipline iff its helper is not too old. -/
theorem Session.guarded_iff (s : Session) (h : Held) :
    Guarded Held.turn Held.Ok h s.calls ↔ Refused s.opened s.ver = false := by
  have hlive : .request ∈ s.uses.filter (fun use => use != .request || s.hasHelper) →
      (h.turn (.bmOpen s.opened s.ver)).live = true := by
    intro hmem
    have hhelper : s.hasHelper = true := by simpa using (List.mem_filter.mp hmem).2
    unfold Session.hasHelper at hhelper
    rw [Bool.and_eq_true, decide_eq_true_eq, Bool.not_eq_true'] at hhelper
    unfold Held.turn Refused
    dsimp only
    rw [hhelper.2, Bool.and_false, Bool.not_false, Bool.and_true]
    cases hopened : s.opened with
    | none =>
      rw [hopened] at hhelper
      exact absurd hhelper.1 (by decide)
    | some fd => rfl
  obtain ⟨huses, hfold⟩ := Held.guarded_uses _ hlive
  have hclose : (h.turn (.bmOpen s.opened s.ver)).Ok .bmClose ↔
      Refused s.opened s.ver = false := by
    unfold Held.Ok Held.turn
    dsimp only
    cases hopened : s.opened with
    | none => exact iff_of_true (.inr rfl) rfl
    | some fd =>
      have hfd : fdOf (some fd) ≠ -1 := by
        have hnonneg := Int.natCast_nonneg fd
        show (fd : ℤ) ≠ -1
        omega
      rw [or_iff_left hfd, Option.isSome_some, Bool.true_and, Bool.not_eq_true']
  unfold Session.calls
  rw [Guarded, guarded_append, hfold, Guarded, Guarded]
  constructor
  · exact fun hall => hclose.mp hall.2.2.1
  · exact fun hok => ⟨trivial, huses, hclose.mpr hok, trivial⟩

/-- **Sessions of a driver keep to the descriptors of the library, whatever the program opens and
closes meanwhile, iff no helper is too old for them.** -/
theorem sessions_safe_iff (taken : ℕ → Bool) (sessions : List Session)
    (hcalls : Guarded Process.step GrantsFree (.start taken)
      ((sessions.flatMap Session.calls).map Sum.inl)) :
    Safe Process.step GrantsFree Foreign (.start taken) (sessions.flatMap Session.calls) ↔
      ∀ s ∈ sessions, Refused s.opened s.ver = false := by
  have hall : ∀ h : Held, Guarded Held.turn Held.Ok h (sessions.flatMap Session.calls) ↔
      ∀ s ∈ sessions, Refused s.opened s.ver = false := by
    clear hcalls
    induction sessions with
    | nil => exact fun _ => iff_of_true trivial fun _ hno => absurd hno List.not_mem_nil
    | cons s sessions ih =>
      intro h
      rw [List.flatMap_cons, guarded_append, s.guarded_iff, ih, List.forall_mem_cons]
  rw [safe_iff_disciplined exact_held (Holds.start taken) hcalls, hall]

/-- A helper that says that its version is 15 has a file of the program closed for it. -/
theorem sessions_safe_iff_refused :
    ¬ Safe Process.step GrantsFree Foreign (.start (· < 3))
      ([⟨some 3, 0x0F, []⟩].flatMap Session.calls) := by
  intro hsafe
  have hcalls : Guarded Process.step GrantsFree (.start (· < 3))
      (([⟨some 3, 0x0F, []⟩].flatMap Session.calls).map Sum.inl) := by
    simp [Session.calls, Guarded, GrantsFree, Process.start]
  have hall := (sessions_safe_iff _ _ hcalls).mp hsafe ⟨some 3, 0x0F, []⟩ List.mem_cons_self
  revert hall
  decide

end Vidix.Libdha
