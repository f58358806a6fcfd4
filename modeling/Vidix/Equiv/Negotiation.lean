import Vidix.Types
import Vidix.Util.Signed
import Mathlib.Data.UInt
import Mathlib.Tactic.Linarith
import Mathlib.Tactic.MkIffOfInductiveProp

/-!
# What an application is granted

An application asks for a number of frames, and a driver writes back how many there are.  Drivers
that fill the end of the eight megabytes they have mapped with frames, whatever they were asked for,
grant what they should iff one frame fits and no more than the frames asked for do
(`Filled.negotiated_iff`).

A driver also tells the chip how far apart the rows of a plane are, and reserves memory for the
frame by a length of its rows; an application rounds the length of its rows up to the alignment that
the driver reports.  The picture is sheared where the two are not the same (`StridesAgree`).
-/

namespace Vidix

/-- The memory that the drivers map, in bytes. -/
def mappedBytes : ℤ := 2 ^ 23

/-- One frame is granted at least, and no more than were asked for; each frame that is granted has
its entry in `offsets` and lies between `start` and the end of the memory, and no two overlap. -/
structure Negotiated (requested : UInt32) (start : ℤ) (info : VidixPlayback) : Prop where
  one : 1 ≤ info.numFrames.toNat
  asked : info.numFrames.toNat ≤ requested.toNat
  start_nonneg : 0 ≤ start
  inside : ∀ i < info.numFrames.toNat, ∃ o, info.offsets[i]? = some o ∧
    start + o.toNat + info.frameSize.toNat ≤ mappedBytes
  disjoint : ∀ i j oi oj, i < j → j < info.numFrames.toNat → info.offsets[i]? = some oi →
    info.offsets[j]? = some oj →
      oi.toNat + info.frameSize.toNat ≤ oj.toNat ∨ oj.toNat + info.frameSize.toNat ≤ oi.toNat

/-- As many frames as a window of `window` bytes has room for, one after the other. -/
structure Filled (window : ℕ) (info : VidixPlayback) : Prop where
  frame_ne_zero : info.frameSize.toNat ≠ 0
  numFrames : info.numFrames.toNat = min (window / info.frameSize.toNat) 1024
  offsets : info.offsets =
    (List.range info.numFrames.toNat).map fun i => info.frameSize * UInt32.ofNat i

theorem cappedFrames_toNat (numFrames : UInt32) :
    (cappedFrames numFrames).toNat = min numFrames.toNat 1024 := by
  unfold cappedFrames
  have hmax : vidPlayMaxframes.toNat = 1024 := rfl
  split_ifs with h
  · have : vidPlayMaxframes.toNat < numFrames.toNat := UInt32.lt_iff_toNat_lt.mp h
    omega
  · have : ¬ vidPlayMaxframes.toNat < numFrames.toNat := fun hlt =>
      h (UInt32.lt_iff_toNat_lt.mpr hlt)
    omega

variable {window : ℕ} {info : VidixPlayback}

theorem Filled.mul_le (h : Filled window info) :
    info.frameSize.toNat * info.numFrames.toNat ≤ window := by
  rw [h.numFrames]
  calc info.frameSize.toNat * min (window / info.frameSize.toNat) 1024
      ≤ info.frameSize.toNat * (window / info.frameSize.toNat) :=
        Nat.mul_le_mul_left _ (Nat.min_le_left _ _)
    _ ≤ window := Nat.mul_div_le _ _

/-- No offset wraps. -/
theorem Filled.getElem (h : Filled window info) (hlt : window < 2 ^ 32) {i : ℕ}
    (hi : i < info.numFrames.toNat) :
    ∃ o, info.offsets[i]? = some o ∧ o.toNat = info.frameSize.toNat * i := by
  refine ⟨info.frameSize * UInt32.ofNat i, ?_, ?_⟩
  · rw [h.offsets, List.getElem?_map, List.getElem?_range hi]
    rfl
  · have hnum := info.numFrames.toNat_lt
    have hmul : info.frameSize.toNat * i ≤ info.frameSize.toNat * info.numFrames.toNat :=
      Nat.mul_le_mul_left _ hi.le
    have hle := h.mul_le
    rw [UInt32.toNat_mul, UInt32.toNat_ofNat', Nat.mod_eq_of_lt (show i < 2 ^ 32 by omega),
      Nat.mod_eq_of_lt (by omega)]

theorem Filled.disjoint (h : Filled window info) (hlt : window < 2 ^ 32) {i j : ℕ} {oi oj : UInt32}
    (hij : i < j) (hj : j < info.numFrames.toNat) (hoi : info.offsets[i]? = some oi)
    (hoj : info.offsets[j]? = some oj) : oi.toNat + info.frameSize.toNat ≤ oj.toNat := by
  obtain ⟨oi', hoi', hi'⟩ := h.getElem hlt (hij.trans hj)
  obtain ⟨oj', hoj', hj'⟩ := h.getElem hlt hj
  obtain rfl := Option.some.inj (hoi.symm.trans hoi')
  obtain rfl := Option.some.inj (hoj.symm.trans hoj')
  calc oi.toNat + info.frameSize.toNat = info.frameSize.toNat * (i + 1) := by
        rw [hi', Nat.mul_succ]
    _ ≤ info.frameSize.toNat * j := Nat.mul_le_mul_left _ hij
    _ = oj.toNat := hj'.symm

/-- **A window that is filled holds what was asked for iff one frame fits and no more than the
frames asked for do**, and all of them lie in the memory. -/
theorem Filled.negotiated_iff (h : Filled window info) (hlt : window < 2 ^ 32)
    (requested : UInt32) (start : ℤ) :
    Negotiated requested start info ↔
      info.frameSize.toNat ≤ window ∧
        min (window / info.frameSize.toNat) 1024 ≤ requested.toNat ∧
        0 ≤ start ∧ start + info.frameSize.toNat * info.numFrames.toNat ≤ mappedBytes := by
  have hpos := Nat.pos_of_ne_zero h.frame_ne_zero
  have hone : 1 ≤ info.numFrames.toNat ↔ info.frameSize.toNat ≤ window := by
    rw [h.numFrames, ← Nat.one_le_div_iff hpos]
    omega
  rw [← hone, ← h.numFrames]
  constructor
  · intro hn
    refine ⟨hn.one, hn.asked, hn.start_nonneg, ?_⟩
    -- the last frame ends where all of them end
    obtain ⟨n, hnum⟩ := Nat.exists_eq_succ_of_ne_zero (Nat.one_le_iff_ne_zero.mp hn.one)
    obtain ⟨o, ho, hinside⟩ := hn.inside n (by omega)
    obtain ⟨o', ho', hvalue⟩ := h.getElem hlt (show n < info.numFrames.toNat by omega)
    obtain rfl := Option.some.inj (ho.symm.trans ho')
    rw [hvalue] at hinside
    rw [hnum]
    push_cast at hinside ⊢
    linarith
  · rintro ⟨hone', hasked, hstart, hend⟩
    refine ⟨hone', hasked, hstart, fun i hi => ?_, fun i j oi oj hij hj hoi hoj =>
      Or.inl (h.disjoint hlt hij hj hoi hoj)⟩
    obtain ⟨o, ho, hvalue⟩ := h.getElem hlt hi
    refine ⟨o, ho, ?_⟩
    have hmul : info.frameSize.toNat * (i + 1) ≤ info.frameSize.toNat * info.numFrames.toNat :=
      Nat.mul_le_mul_left _ hi
    rw [Nat.mul_succ, ← hvalue] at hmul
    have hcast : ((o.toNat + info.frameSize.toNat : ℕ) : ℤ) ≤
        ((info.frameSize.toNat * info.numFrames.toNat : ℕ) : ℤ) := Int.ofNat_le.mpr hmul
    push_cast at hcast
    linarith

/-! ### Calls of a driver -/

/-- When `ok` holds, the call succeeds and has filled a window with frames of `frame` bytes;
otherwise it does not succeed.  `accepts` are the requests that it can leave with success. -/
def Fills (window frame : ℕ) (ok : Prop) (accepts : VidixPlayback → Prop) : Prop :=
  ∃ info, Filled window info ∧ info.frameSize.toNat = frame ∧
    ∀ info', accepts info' ↔ ok ∧ info' = info

theorem Fills.forall_negotiated_iff {frame : ℕ} {ok : Prop} {accepts : VidixPlayback → Prop}
    (h : Fills window frame ok accepts) (hlt : window < 2 ^ 32) (requested : UInt32) (start : ℤ) :
    (∀ info', accepts info' → Negotiated requested start info') ↔
      (ok → frame ≤ window ∧ min (window / frame) 1024 ≤ requested.toNat ∧
        0 ≤ start ∧ start + frame * (min (window / frame) 1024 : ℕ) ≤ mappedBytes) := by
  obtain ⟨info, hfilled, rfl, haccepts⟩ := h
  have hiff := hfilled.negotiated_iff hlt requested start
  rw [hfilled.numFrames] at hiff
  rw [← hiff]
  exact ⟨fun hall hok => hall info ((haccepts info).mpr ⟨hok, rfl⟩), fun hn info' hinfo' => by
    obtain ⟨hok, rfl⟩ := (haccepts info').mp hinfo'
    exact hn hok⟩

/-- The same for a window that is in the memory. -/
theorem Fills.forall_negotiated_iff_of_inside {frame : ℕ} {ok : Prop}
    {accepts : VidixPlayback → Prop} (h : Fills window frame ok accepts) (hlt : window < 2 ^ 32)
    (requested : UInt32) {start : ℤ} (hstart : 0 ≤ start) (hend : start + window ≤ mappedBytes) :
    (∀ info', accepts info' → Negotiated requested start info') ↔
      (ok → frame ≤ window ∧ min (window / frame) 1024 ≤ requested.toNat) := by
  have hmul : frame * min (window / frame) 1024 ≤ window :=
    (Nat.mul_le_mul_left _ (Nat.min_le_left _ _)).trans (Nat.mul_div_le _ _)
  have hcast : ((frame * min (window / frame) 1024 : ℕ) : ℤ) ≤ window := Int.ofNat_le.mpr hmul
  rw [Nat.cast_mul] at hcast
  have hinside : 0 ≤ start ∧ start + frame * (min (window / frame) 1024 : ℕ) ≤ mappedBytes :=
    ⟨hstart, by linarith⟩
  rw [h.forall_negotiated_iff hlt]
  simp only [hinside, and_true]

/-- **A driver that turns some requests down, divides by the size of a frame and fills a window in
the memory.** -/
theorem forall_negotiated_iff {supported ok : Prop} {frame : ℕ} {accepts : VidixPlayback → Prop}
    (hlt : window < 2 ^ 32) (requested : UInt32) {start : ℤ} (hstart : 0 ≤ start)
    (hend : start + window ≤ mappedBytes)
    (hunsupported : ¬ supported → ∀ info', ¬ accepts info')
    (hempty : supported → frame = 0 → ∀ info', ¬ accepts info')
    (hfills : supported → frame ≠ 0 → Fills window frame ok accepts) :
    (∀ info', accepts info' → Negotiated requested start info') ↔
      (supported → frame ≠ 0 → ok →
        frame ≤ window ∧ min (window / frame) 1024 ≤ requested.toNat) := by
  by_cases hs : supported
  · by_cases hne : frame = 0
    · exact iff_of_true (fun info' h => absurd h (hempty hs hne info')) fun _ h => absurd hne h
    · rw [(hfills hs hne).forall_negotiated_iff_of_inside hlt requested hstart hend]
      exact ⟨fun h _ _ => h, fun h => h hs hne⟩
  · exact iff_of_true (fun info' h => absurd h (hunsupported hs info')) fun h => absurd h hs

/-! ### Strides -/

/-- The stride that the chip is told and the one that the frame is sized by are both that of rows of
`row` bytes, rounded up to the alignment that is reported. -/
@[mk_iff]
structure StridesAgree (chip size : ℤ) (row : ℕ) (align : UInt32) : Prop where
  chip : chip = Util.roundUp row align.toNat
  size : size = Util.roundUp row align.toNat

end Vidix
