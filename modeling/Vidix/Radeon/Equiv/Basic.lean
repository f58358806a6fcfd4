import Vidix.Radeon.Basic
import Vidix.Util.DescendingSearch
import Vidix.Util.Word
import Mathlib.Data.List.Iterate

/-!
# The frame search of the Radeon drivers

`placeFrames` looks for the largest number of frames by comparing a 32-bit remainder.  A number `n`
of frames of `frameSize` bytes really fits when `n * frameSize ≤ videoSize` (`FramesFit`), and the
place found for it is good when it is not negative and the frames end inside the memory
(`WellPlaced`).  `wellPlaced_iff` says which remainders are good; since fitting passes from a number
to every smaller one, `Util.descend_iff_of_antitone` turns the question about the number found into
one about the tests: `placeFrames_wellPlaced_iff` says that the result is good exactly when the
tests are honest (`TestsHonest`), that is when they let no number through that does not fit.
-/

namespace Vidix

open Util

/-- `n` frames fit, over the true integers. -/
def FramesFit (videoSize frameSize : UInt32) (n : ℕ) : Prop :=
  n * frameSize.toNat ≤ videoSize.toNat

theorem FramesFit.anti {videoSize frameSize : UInt32} {a b : ℕ} (h : a ≤ b)
    (hb : FramesFit videoSize frameSize b) : FramesFit videoSize frameSize a :=
  (Nat.mul_le_mul_right _ h).trans hb

/-- `n` frames at `off` lie inside the memory, over the true integers. -/
def WellPlaced (videoSize frameSize : UInt32) (r : ℕ × Int32) : Prop :=
  0 ≤ r.2.toInt ∧ r.2.toInt + r.1 * frameSize.toNat ≤ videoSize.toNat

/-! ### The remainder -/

/-- The place computed for `n` frames is good iff they fit and leave less than 2 GB. -/
theorem wellPlaced_iff {videoSize frameSize : UInt32} {n : ℕ} (hn : n < 2 ^ 32) :
    WellPlaced videoSize frameSize (n, overlayOffAt videoSize frameSize n) ↔
      FramesFit videoSize frameSize n ∧
        videoSize.toNat - n * frameSize.toNat < 2 ^ 31 := by
  unfold WellPlaced FramesFit overlayOffAt
  dsimp only
  rw [toInt_toInt32, toNat_and_high]
  have hprod : (n : ℤ) * frameSize.toNat = ((n * frameSize.toNat : ℕ) : ℤ) := by push_cast; rfl
  rw [hprod]
  have hlt : (videoSize - frameSize * UInt32.ofNat n).toNat < 2 ^ 32 := UInt32.toNat_lt _
  constructor
  · rintro ⟨hnonneg, hle⟩
    split_ifs at hnonneg hle with hsmall
    · have hfit : n * frameSize.toNat ≤ videoSize.toNat := by omega
      rw [toNat_sub_mul_of_le hn hfit] at hsmall
      exact ⟨hfit, by omega⟩
    · omega
  · rintro ⟨hfit, hsmall⟩
    rw [toNat_sub_mul_of_le hn hfit, if_pos (by omega)]
    constructor <;> omega

theorem aboveZero_iff (off : Int32) : aboveZero off = true ↔ 0 < off.toInt := by
  unfold aboveZero
  rw [decide_eq_true_eq, Int32.lt_iff_toInt_lt]
  rfl

theorem aboveDesktop_iff (rgbSize : UInt32) (off : Int32) :
    aboveDesktop rgbSize off = true ↔ rgbSize.toInt32.toInt ≤ off.toInt := by
  unfold aboveDesktop
  rw [decide_eq_true_eq, Int32.le_iff_toInt_le]

/-- A remainder that is not negative is good iff the frames fit. -/
theorem wellPlaced_iff_of_nonneg {videoSize frameSize : UInt32} {n : ℕ} (hn : n < 2 ^ 32)
    (h : 0 ≤ (overlayOffAt videoSize frameSize n).toInt) :
    WellPlaced videoSize frameSize (n, overlayOffAt videoSize frameSize n) ↔
      FramesFit videoSize frameSize n := by
  rw [wellPlaced_iff hn]
  refine ⟨And.left, fun hfit => ⟨hfit, ?_⟩⟩
  unfold FramesFit at hfit
  unfold overlayOffAt at h
  have hlt : videoSize.toNat < 2 ^ 32 := videoSize.toNat_lt
  rw [toInt_toInt32, toNat_and_high, toNat_sub_mul_of_le hn hfit] at h
  split_ifs at h <;> omega

/-! ### One loop -/

variable {accept : Int32 → Bool} {videoSize frameSize : UInt32}

/-- A loop is a descending search that keeps `radeon_overlay_off`. -/
theorem placeLoop_eq (n : ℕ) (off : Int32) :
    placeLoop accept videoSize frameSize n off =
      descendWith (overlayOffAt videoSize frameSize) accept n off := by
  induction n generalizing off with
  | zero => rfl
  | succ n ih => rw [placeLoop, descendWith, ih]

theorem placeLoop_fst (n : ℕ) (off : Int32) :
    (placeLoop accept videoSize frameSize n off).1 =
      descend (fun k => accept (overlayOffAt videoSize frameSize k)) n := by
  rw [placeLoop_eq, descendWith_fst]

/-- `radeon_overlay_off` is the place of the number found. -/
theorem placeLoop_snd {n : ℕ} {off : Int32}
    (h : 0 < (placeLoop accept videoSize frameSize n off).1) :
    (placeLoop accept videoSize frameSize n off).2 =
      overlayOffAt videoSize frameSize (placeLoop accept videoSize frameSize n off).1 := by
  rw [placeLoop_eq] at h ⊢
  exact descendWith_snd h

/-! ### Both loops -/

section TwoLoops

variable (first second : Int32 → Bool) (n : ℕ) (off : Int32)

/-- The second loop runs from where the first has stopped, when that found three frames at most. -/
theorem twoLoops_fst :
    (if (placeLoop first videoSize frameSize n off).1 ≤ 3
      then placeLoop second videoSize frameSize n (placeLoop first videoSize frameSize n off).2
      else placeLoop first videoSize frameSize n off).1 =
      if 3 < descend (fun k => first (overlayOffAt videoSize frameSize k)) n
      then descend (fun k => first (overlayOffAt videoSize frameSize k)) n
      else descend (fun k => second (overlayOffAt videoSize frameSize k)) n := by
  rw [placeLoop_fst]
  split_ifs with h1 h2 h2
  · omega
  · exact placeLoop_fst _ _
  · exact placeLoop_fst _ _
  · omega

variable {first second n off} in
theorem twoLoops_snd {r : ℕ × Int32}
    (hr : (if (placeLoop first videoSize frameSize n off).1 ≤ 3
      then placeLoop second videoSize frameSize n (placeLoop first videoSize frameSize n off).2
      else placeLoop first videoSize frameSize n off) = r) (h : 0 < r.1) :
    r.2 = overlayOffAt videoSize frameSize r.1 := by
  subst hr
  split_ifs at h ⊢ <;> exact placeLoop_snd h

end TwoLoops

/-- The first loop's test at `n` frames. -/
def firstTest (videoSize frameSize rgbSize : UInt32) (n : ℕ) : Bool :=
  aboveDesktop rgbSize (overlayOffAt videoSize frameSize n)

/-- The second loop's test at `n` frames. -/
def secondTest (videoSize frameSize : UInt32) (n : ℕ) : Bool :=
  aboveZero (overlayOffAt videoSize frameSize n)

/-- The tests of the two loops let through only what fits. -/
structure TestsHonest (videoSize frameSize rgbSize : UInt32) (numFrames : ℕ) : Prop where
  /-- More than three frames above the desktop fit. -/
  first_fits : ∀ n, 3 < n → n ≤ numFrames → firstTest videoSize frameSize rgbSize n = true →
    FramesFit videoSize frameSize n
  /-- Below a desktop of 2 GB or more, the largest number above it leaves less than 2 GB. -/
  first_signed : rgbSize.toInt32.toInt < 0 → ∀ n, 3 < n → n ≤ numFrames →
    firstTest videoSize frameSize rgbSize n = true →
    (∀ m, n < m → m ≤ numFrames → ¬ firstTest videoSize frameSize rgbSize m = true) →
    videoSize.toNat - n * frameSize.toNat < 2 ^ 31
  /-- When the desktop is given up, what stays above address zero fits. -/
  second_fits :
    (∀ n, 3 < n → n ≤ numFrames → ¬ firstTest videoSize frameSize rgbSize n = true) →
    ∀ n, 0 < n → n ≤ numFrames → secondTest videoSize frameSize n = true →
    FramesFit videoSize frameSize n

/-- The number of frames found: the first loop's if it exceeds three, else the second's. -/
theorem placeFrames_fst (rgbSize numFrames : UInt32) (off : Int32) :
    (placeFrames videoSize frameSize rgbSize numFrames off).1 =
      if 3 < descend (firstTest videoSize frameSize rgbSize) numFrames.toNat
      then descend (firstTest videoSize frameSize rgbSize) numFrames.toNat
      else descend (secondTest videoSize frameSize) numFrames.toNat :=
  twoLoops_fst (aboveDesktop rgbSize) aboveZero numFrames.toNat off

theorem placeFrames_fst_le (videoSize frameSize rgbSize numFrames : UInt32) (off : Int32) :
    (placeFrames videoSize frameSize rgbSize numFrames off).1 ≤ numFrames.toNat := by
  rw [placeFrames_fst]
  split_ifs <;> exact descend_le _

/-- `radeon_overlay_off` is the place of the number found. -/
theorem placeFrames_snd {rgbSize numFrames : UInt32} {off : Int32}
    (h : 0 < (placeFrames videoSize frameSize rgbSize numFrames off).1) :
    (placeFrames videoSize frameSize rgbSize numFrames off).2 = overlayOffAt videoSize frameSize
      (placeFrames videoSize frameSize rgbSize numFrames off).1 :=
  twoLoops_snd rfl h

/-- The first loop's result is good iff its test is honest. -/
theorem wellPlaced_first_iff {rgbSize : UInt32} {N : ℕ} (hN : N < 2 ^ 32)
    (h3 : 3 < descend (firstTest videoSize frameSize rgbSize) N) :
    WellPlaced videoSize frameSize (descend (firstTest videoSize frameSize rgbSize) N,
        overlayOffAt videoSize frameSize (descend (firstTest videoSize frameSize rgbSize) N)) ↔
      TestsHonest videoSize frameSize rgbSize N := by
  set n := descend (firstTest videoSize frameSize rgbSize) N with hn
  have hle : n ≤ N := descend_le _
  have hacc : firstTest videoSize frameSize rgbSize n = true := descend_accepted (by omega)
  have hlast : ∀ m, n < m → m ≤ N → ¬ firstTest videoSize frameSize rgbSize m = true := by
    intro m hm hmN hp
    have := le_descend (by omega) hmN hp
    omega
  rw [wellPlaced_iff (by omega), hn,
    descend_iff_of_antitone (fun _ _ => FramesFit.anti) (hn ▸ h3), ← hn]
  constructor
  · rintro ⟨hall, hsmall⟩
    refine ⟨hall, ?_, fun hnone => absurd hacc (hnone n h3 hle)⟩
    intro _ k hk hkN hp hmax
    -- the largest accepted number is the one found
    have hkn : k = n := by
      rcases Nat.lt_or_eq_of_le (le_descend (by omega) hkN hp) with hlt | heq
      · exact absurd hacc (hmax n hlt hle)
      · exact heq
    rw [hkn]
    exact hsmall
  · intro h
    refine ⟨h.first_fits, ?_⟩
    rcases lt_or_ge rgbSize.toInt32.toInt 0 with hneg | hpos
    · exact h.first_signed hneg n h3 hle hacc hlast
    · -- a desktop below 2 GB keeps the remainder from being negative
      have hnonneg := hpos.trans ((aboveDesktop_iff _ _).mp hacc)
      have hgood := (wellPlaced_iff_of_nonneg (by omega) hnonneg).mpr (h.first_fits n h3 hle hacc)
      exact ((wellPlaced_iff (by omega)).mp hgood).2

/-- The second loop's result, if any, is good iff the tests are honest. -/
theorem wellPlaced_second_iff {rgbSize : UInt32} {N : ℕ} (hN : N < 2 ^ 32)
    (h3 : ¬ 3 < descend (firstTest videoSize frameSize rgbSize) N) :
    (0 < descend (secondTest videoSize frameSize) N →
        WellPlaced videoSize frameSize (descend (secondTest videoSize frameSize) N,
          overlayOffAt videoSize frameSize (descend (secondTest videoSize frameSize) N))) ↔
      TestsHonest videoSize frameSize rgbSize N := by
  have hnone : ∀ n, 3 < n → n ≤ N → ¬ firstTest videoSize frameSize rgbSize n = true :=
    fun n hn hnN hp => h3 (lt_descend_iff.mpr ⟨n, hn, hnN, hp⟩)
  have hsnd : TestsHonest videoSize frameSize rgbSize N ↔ ∀ n, 0 < n → n ≤ N →
      secondTest videoSize frameSize n = true → FramesFit videoSize frameSize n := by
    refine ⟨fun h => h.second_fits hnone, fun h => ⟨?_, ?_, fun _ => h⟩⟩
    · exact fun n hn hnN hp => absurd hp (hnone n hn hnN)
    · exact fun _ n hn hnN hp => absurd hp (hnone n hn hnN)
  rw [hsnd]
  by_cases h0 : 0 < descend (secondTest videoSize frameSize) N
  · have hle : descend (secondTest videoSize frameSize) N ≤ N := descend_le _
    have hpos := (aboveZero_iff _).mp (descend_accepted h0)
    rw [wellPlaced_iff_of_nonneg (by omega) hpos.le,
      descend_iff_of_antitone (fun _ _ => FramesFit.anti) h0]
    exact ⟨fun h => h h0, fun h _ => h⟩
  · constructor
    · exact fun _ n hn hnN hp => absurd (lt_descend_iff.mpr ⟨n, hn, hnN, hp⟩) h0
    · exact fun _ h => absurd h h0

/-- **The number of frames found is well placed iff the tests are honest.** -/
theorem placeFrames_wellPlaced_iff (rgbSize numFrames : UInt32) (off : Int32) :
    (0 < (placeFrames videoSize frameSize rgbSize numFrames off).1 →
        WellPlaced videoSize frameSize (placeFrames videoSize frameSize rgbSize numFrames off)) ↔
      TestsHonest videoSize frameSize rgbSize numFrames.toNat := by
  have hN : numFrames.toNat < 2 ^ 32 := numFrames.toNat_lt
  have heta : (0 < (placeFrames videoSize frameSize rgbSize numFrames off).1 →
        WellPlaced videoSize frameSize (placeFrames videoSize frameSize rgbSize numFrames off)) ↔
      (0 < (placeFrames videoSize frameSize rgbSize numFrames off).1 →
        WellPlaced videoSize frameSize ((placeFrames videoSize frameSize rgbSize numFrames off).1,
          overlayOffAt videoSize frameSize
            (placeFrames videoSize frameSize rgbSize numFrames off).1)) :=
    forall_congr' fun h => by rw [← placeFrames_snd h]
  rw [heta, placeFrames_fst]
  -- the second loop runs when the first has found three frames at most
  split_ifs with h3
  · rw [← wellPlaced_first_iff hN h3]
    exact ⟨fun h => h (by omega), fun h _ => h⟩
  · exact wellPlaced_second_iff hN h3

end Vidix
