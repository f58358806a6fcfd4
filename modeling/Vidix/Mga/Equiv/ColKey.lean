import Vidix.Mga.ColKey
import Vidix.Util.GuardedRun
import Mathlib.Tactic.IntervalCases

/-!
# Saving and restoring the colour key

Within a session, `K` is what the key registers held at its beginning, and either it has not been
saved and is still there, or it has been saved (`Held K`).  `vixDestroy` restores a key that was
saved in the session; but when nothing was saved it saves what it finds, and leaves the flag set.  A
session that begins with the flag set restores what the one before it has left (`Fresh`), so that it
restores the registers iff nobody has changed them between the two: `restores_iff`.
-/

namespace Vidix.Mga

open Util

/-! ### The registers -/

@[simp] theorem Dac.read_write (dac : Dac) (reg reg' val : UInt8) :
    (dac.write reg val).read reg' = if reg' = reg then val else dac.read reg' :=
  Function.update_apply dac.regs reg val reg'

@[simp] theorem Dac.colKey_select (dac : Dac) (reg : UInt8) :
    (dac.select reg).colKey = dac.colKey := rfl

/-- `colkey_on` is one bit. -/
def ColKey.Proper (key : ColKey) : Prop := key.on &&& 1 = key.on

theorem Dac.colKey_proper (dac : Dac) : dac.colKey.Proper := by
  show dac.read xkeyopmode &&& 1 &&& 1 = dac.read xkeyopmode &&& 1
  rw [UInt8.and_assoc, UInt8.and_self]

/-- What has been restored is there. -/
theorem Dac.colKey_setColKey (dac : Dac) {key : ColKey} (hproper : key.Proper) :
    (dac.setColKey key).colKey = key := by
  unfold ColKey.Proper at hproper
  obtain ⟨on, color, mask⟩ := key
  have heta : ∀ xs : Vector UInt8 4, #v[xs[0], xs[1], xs[2], xs[3]] = xs := fun xs => by
    refine Vector.ext fun i hi => ?_
    interval_cases i <;> rfl
  simp +decide [Dac.setColKey, Dac.colKey, hproper, heta]

/-! ### One session -/

/-- The key that the registers held at the beginning of the session, and where it is now. -/
def Held (key : ColKey) (s : State) : Prop :=
  if s.colkeySaved then s.colkey = key else s.dac.colKey = key

theorem held_writeRegs {key : ColKey} {s : State} (h : Held key s) :
    Held key (s.mgaVidWriteRegs false) := by
  unfold Held at h ⊢
  cases hsaved : s.colkeySaved with
  | true => simpa [State.mgaVidWriteRegs, hsaved] using h
  | false => simpa [State.mgaVidWriteRegs, hsaved] using h

theorem held_call {key : ColKey} {s : State} (h : Held key s) (call : Call) :
    Held key (s.call call) := by
  cases call with
  | configPlayback config =>
    unfold State.call
    dsimp only
    split_ifs
    · exact held_writeRegs h
    · exact h
  | setGrKeys grkey => exact held_writeRegs h
  | playbackOn =>
    unfold State.call
    split_ifs
    · exact held_writeRegs h
    · exact h
  | playbackOff => exact held_writeRegs h
  | playbackFrameSelect frame => exact h

theorem held_calls {key : ColKey} {s : State} (h : Held key s) (calls : List Call) :
    Held key (calls.foldl State.call s) := by
  induction calls generalizing s with
  | nil => exact h
  | cons call calls ih => exact ih (held_call h call)

/-- The end of a session puts the key back. -/
theorem held_destroy {key : ColKey} {s : State} (hproper : key.Proper) (h : Held key s) :
    s.vixDestroy.dac.colKey = key := by
  unfold Held at h
  cases hsaved : s.colkeySaved with
  | true =>
    rw [hsaved, if_pos rfl] at h
    simp [State.vixDestroy, State.mgaVidWriteRegs, hsaved, h, Dac.colKey_setColKey _ hproper]
  | false =>
    rw [hsaved, if_neg Bool.false_ne_true] at h
    simp [State.vixDestroy, State.mgaVidWriteRegs, hsaved, h]

/-! ### Sequences of sessions -/

/-- Between two sessions: when the flag is set, the saved key is what the registers were left with.
-/
def Fresh (s : State) : Prop := s.colkeySaved → s.colkey = s.dac.colKey

theorem fresh_destroy (s : State) : Fresh s.vixDestroy := by
  unfold Fresh
  cases hsaved : s.colkeySaved with
  | true => simp [State.vixDestroy, State.mgaVidWriteRegs, hsaved]
  | false => simp [State.vixDestroy, State.mgaVidWriteRegs, hsaved]

theorem fresh_session (s : State) (session : Session) : Fresh (s.session session) :=
  fresh_destroy _

/-- What the registers hold after a session. -/
theorem session_colKey {s : State} (hfresh : Fresh s) (session : Session) :
    (s.session session).dac.colKey =
      if s.colkeySaved then s.dac.colKey else session.dac.colKey := by
  cases hsaved : s.colkeySaved with
  | true =>
    have hheld : Held s.dac.colKey (s.vixInit session) := by
      unfold Held
      rw [show (s.vixInit session).colkeySaved = true from hsaved, if_pos rfl]
      exact hfresh hsaved
    exact held_destroy s.dac.colKey_proper (held_calls hheld session.calls)
  | false =>
    have hheld : Held session.dac.colKey (s.vixInit session) := by
      unfold Held
      rw [show (s.vixInit session).colkeySaved = false from hsaved, if_neg Bool.false_ne_true]
      rfl
    exact held_destroy session.dac.colKey_proper (held_calls hheld session.calls)

/-- After `vixDestroy` the eight registers and the bit that enables the key are as they were when
the session began. -/
def Restores (s : State) (session : Session) : Prop :=
  (s.session session).dac.colKey = session.dac.colKey

/-- A session that begins with the flag set finds the registers as the last one has left them. -/
def Undisturbed (s : State) (session : Session) : Prop :=
  s.colkeySaved → session.dac.colKey = s.dac.colKey

/-- **One session.** -/
theorem restores_step_iff {s : State} (hfresh : Fresh s) (session : Session) :
    Restores s session ↔ Undisturbed s session := by
  unfold Restores Undisturbed
  rw [session_colKey hfresh]
  cases hsaved : s.colkeySaved with
  | true => exact ⟨fun h _ => h.symm, fun h => (h rfl).symm⟩
  | false => exact iff_of_true rfl fun h => absurd h Bool.false_ne_true

/-- **Every session restores the key registers iff none that begins with the flag set finds them
changed.** -/
theorem restores_iff (driver : Driver) (dac : Dac) (sessions : List Session) :
    Guarded State.session Restores (.loaded driver dac) sessions ↔
      Guarded State.session Undisturbed (.loaded driver dac) sessions :=
  guarded_congr (fun s session _ => fresh_session s session)
    (fun _ session hfresh => restores_step_iff hfresh session)
    (fun hsaved => absurd hsaved Bool.false_ne_true)

/-- A session without calls, begun with `val` in every register of the DAC. -/
def idleSession (val : UInt8) : Session where
  mgaRamSize := ⟨8, by decide, by decide⟩
  mgaMemBase := 0
  dac := { index := 0, regs := fun _ => val }
  calls := []

def idleDriver : Driver where
  mgaRamSize := ⟨8, by decide, by decide⟩
  mgaMemBase := 0
  mgaSrcBase := 0

/-- **Two sessions without calls, and other registers at the beginning of the second: it leaves them
as they were in the first.** -/
theorem restores_wrong :
    ¬ Guarded State.session Restores (.loaded idleDriver ⟨0, fun _ => 0⟩)
      [idleSession 1, idleSession 2] := by
  rintro ⟨-, h, -⟩
  revert h
  unfold Restores
  decide

end Vidix.Mga
