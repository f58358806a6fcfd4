import Vidix.Mach64.Config
import Vidix.Radeon.Equiv.VideoBuffers

/-!
# Frame placement of the Mach64 driver

`vixConfigPlayback` grants up to 1024 frames, but `mach64_vid_init_video` has 64 rows for them.
Fitting into the memory and fitting into the table both pass from a number of frames to every
smaller one, so that the frames granted are safe iff the tests of the search let only safe numbers
through: `vixConfigPlayback_safe_iff`.  Up to 64 frames no product wraps
(`framesFit_of_nonneg`), and what the tests let through there does fit.
-/

namespace Vidix.Mach64

open Util

/-! ### Sizes -/

theorem toNat_alignUp_le (x mask : UInt32) : (alignUp x mask).toNat ≤ x.toNat + mask.toNat := by
  unfold alignUp
  rw [UInt32.toNat_and]
  exact Nat.and_le_left.trans (toNat_add_le x mask)

/-- The card has 16 MB at most. -/
theorem mach64RamSize_le (r : Regs) : (mach64RamSize r).toNat ≤ 2 ^ 24 := by
  unfold mach64RamSize
  have hsize : (r.memCntl &&& 0xf).toNat ≤ 15 := by
    rw [UInt32.toNat_and]
    exact Nat.and_le_right
  generalize r.memCntl &&& 0xf = size at hsize
  have hkb : ∀ kb : UInt32, kb.toNat ≤ 2 ^ 14 → (kb * 0x400).toNat ≤ 2 ^ 24 := by
    intro kb hkb
    refine (toNat_mul_le kb 0x400).trans ?_
    rw [show (0x400 : UInt32).toNat = 2 ^ 10 from rfl]
    omega
  apply hkb
  split_ifs with h8 h12
  · have h8' : size.toNat < 8 := UInt32.lt_iff_toNat_lt.mp h8
    have hadd := toNat_add_le size 1
    refine (toNat_mul_le (size + 1) 512).trans ?_
    rw [show (512 : UInt32).toNat = 512 from rfl]
    rw [show (1 : UInt32).toNat = 1 from rfl] at hadd
    omega
  · have h12' : size.toNat < 12 := UInt32.lt_iff_toNat_lt.mp h12
    have h8' : ¬ size.toNat < 8 := fun h => h8 (UInt32.lt_iff_toNat_lt.mpr h)
    refine (toNat_mul_le (size - 3) 1024).trans ?_
    rw [UInt32.toNat_sub, show (1024 : UInt32).toNat = 1024 from rfl,
      show (3 : UInt32).toNat = 3 from rfl]
    omega
  · have h12' : ¬ size.toNat < 12 := fun h => h12 (UInt32.lt_iff_toNat_lt.mpr h)
    refine (toNat_mul_le (size - 7) 2048).trans ?_
    rw [UInt32.toNat_sub, show (2048 : UInt32).toNat = 2048 from rfl,
      show (7 : UInt32).toNat = 7 from rfl]
    omega

theorem mach64QueryPitch_eq (fourcc : UInt32) (spitch : VidixYuv) :
    ∃ k, 4 ≤ k ∧ k ≤ 8 ∧ (mach64QueryPitch fourcc spitch).toNat = 2 ^ k := by
  have hy := Radeon.usablePitch_eq spitch.y
  have hpos : ∀ k : UInt32, k < Radeon.usablePitch spitch.y →
      ∃ k, 4 ≤ k ∧ k ≤ 8 ∧ (Radeon.usablePitch spitch.y).toNat = 2 ^ k := by
    intro k hk
    rcases hy with hy | hy
    · rw [hy] at hk
      exact absurd (UInt32.lt_iff_toNat_lt.mp hk) (Nat.not_lt_zero _)
    · exact hy
  unfold mach64QueryPitch
  dsimp only
  split_ifs with h1 h2 h3 h4 h5
  · simp only [Bool.and_eq_true, decide_eq_true_eq] at h2
    exact hpos 16 h2.1.1
  · exact ⟨5, by decide, by decide, rfl⟩
  · simp only [Bool.and_eq_true, decide_eq_true_eq] at h4
    exact hpos 32 h4.1.1
  · exact ⟨6, by decide, by decide, rfl⟩
  · refine hpos 0 ?_
    have h16 := UInt32.le_iff_toNat_le.mp h5
    exact UInt32.lt_iff_toNat_lt.mpr (lt_of_lt_of_le (by decide) h16)
  · exact ⟨4, by decide, by decide, rfl⟩

theorem toNat_mpitch_le (fourcc : UInt32) (spitch : VidixYuv) :
    (mach64QueryPitch fourcc spitch - 1).toNat ≤ 255 := by
  obtain ⟨k, -, hk8, hk⟩ := mach64QueryPitch_eq fourcc spitch
  have hpow : 2 ^ k ≤ 2 ^ 8 := Nat.pow_le_pow_right (by decide) hk8
  have hpos : 0 < 2 ^ k := Nat.two_pow_pos k
  rw [UInt32.toNat_sub, hk, show (1 : UInt32).toNat = 1 from rfl]
  omega

/-- A frame of at most 720 by 720 pixels has less than 32 MB. -/
theorem mach64ComputeFramesize_le {info : VidixPlayback} (hw : info.src.w.toNat ≤ 720)
    (hh : info.src.h.toNat ≤ 720) : (mach64ComputeFramesize info).toNat ≤ 2 ^ 25 := by
  have hpitch := toNat_mpitch_le info.fourcc info.src.pitch
  -- four bytes a pixel and one and a half times the height are an upper bound for all formats
  have hplane : ∀ x y : UInt32, x.toNat ≤ 2880 → y.toNat ≤ 1080 →
      (alignUp x (mach64QueryPitch info.fourcc info.src.pitch - 1) * y).toNat ≤ 3135 * 1080 := by
    intro x y hx hy
    have halign := toNat_alignUp_le x (mach64QueryPitch info.fourcc info.src.pitch - 1)
    exact (toNat_mul_le _ _).trans (Nat.mul_le_mul (by omega) hy)
  have hscaled : ∀ k : UInt32, k.toNat ≤ 4 → (info.src.w * k).toNat ≤ 2880 := fun k hk =>
    (toNat_mul_le _ _).trans (Nat.mul_le_mul hw hk)
  have hhalf : ∀ k : UInt32, 2 ≤ k.toNat → (info.src.h + info.src.h / k).toNat ≤ 1080 := by
    intro k hk
    have hadd := toNat_add_le info.src.h (info.src.h / k)
    have hdiv : (info.src.h / k).toNat ≤ info.src.h.toNat / 2 := by
      rw [UInt32.toNat_div]
      exact Nat.div_le_div_left hk (by decide)
    omega
  unfold mach64ComputeFramesize
  dsimp only
  rw [UInt32.toNat_and]
  refine Nat.and_le_left.trans ((toNat_add_le _ _).trans ?_)
  have hsize : ∀ size : UInt32, size.toNat ≤ 3135 * 1080 →
      size.toNat + (256 : UInt32).toNat ≤ 2 ^ 25 := by
    intro size hsize
    rw [show (256 : UInt32).toNat = 256 from rfl]
    omega
  apply hsize
  split_ifs
  · exact hplane _ _ (by omega) (hhalf 2 (by decide))
  · exact hplane _ _ (by omega) (hhalf 8 (by decide))
  · exact hplane _ _ (hscaled 4 (by decide)) (by omega)
  · exact hplane _ _ (hscaled 2 (by decide)) (by omega)

/-! ### The search -/

variable {videoSize frameSize desktop : UInt32}

/-- Without a wrap of the product, what is not below zero fits. -/
theorem framesFit_of_nonneg {n : ℕ} (hprod : n * frameSize.toNat ≤ 2 ^ 31)
    (h : 0 ≤ (overlayOffAt videoSize frameSize n).toInt) : FramesFit videoSize frameSize n := by
  unfold FramesFit
  by_contra hnot
  have hn : n ≤ 2 ^ 31 := by
    have hfs : 1 ≤ frameSize.toNat := by
      by_contra hzero
      obtain hzero : frameSize.toNat = 0 := by omega
      rw [hzero] at hnot
      omega
    exact (Nat.le_mul_of_pos_right n hfs).trans hprod
  have hmul : (frameSize * UInt32.ofNat n).toNat = n * frameSize.toNat := by
    have hn32 : n % 2 ^ 32 = n := Nat.mod_eq_of_lt (by omega)
    rw [UInt32.toNat_mul, UInt32.toNat_ofNat', hn32, Nat.mul_comm, Nat.mod_eq_of_lt (by omega)]
  have hdiff : (videoSize - frameSize * UInt32.ofNat n).toNat =
      2 ^ 32 + videoSize.toNat - n * frameSize.toNat := by
    rw [UInt32.toNat_sub, hmul]
    omega
  -- the difference is above 2 GB, which is below zero in an `int32_t`
  unfold overlayOffAt at h
  rw [toInt_toInt32, toNat_and_high, hdiff] at h
  split_ifs at h <;> omega

theorem notBelowZero_iff (off : Int32) : notBelowZero off = true ↔ 0 ≤ off.toInt := by
  unfold notBelowZero
  rw [decide_eq_true_eq, Int32.le_iff_toInt_le]
  rfl

/-- The second loop's test at `n` frames. -/
def secondTest (videoSize frameSize : UInt32) (n : ℕ) : Bool :=
  notBelowZero (overlayOffAt videoSize frameSize n)

/-- The tests of the search let through only what the table of rows can hold, and a first loop
whose desktop is negative lets through only what fits. -/
structure SearchSafe (videoSize frameSize desktop : UInt32) (numFrames : ℕ) : Prop where
  first : ∀ n, 3 < n → n ≤ numFrames → firstTest videoSize frameSize desktop n = true →
    n ≤ bufferRows ∧ (desktop.toInt32.toInt < 0 → FramesFit videoSize frameSize n)
  second :
    (∀ n, 3 < n → n ≤ numFrames → ¬ firstTest videoSize frameSize desktop n = true) →
    ∀ n, 0 < n → n ≤ numFrames → secondTest videoSize frameSize n = true → n ≤ bufferRows

/-- The frames found can be held by the table and by the memory. -/
def Holds (videoSize frameSize : UInt32) (n : ℕ) : Prop :=
  n ≤ bufferRows ∧ FramesFit videoSize frameSize n

theorem Holds.anti {a b : ℕ} (h : a ≤ b) (hb : Holds videoSize frameSize b) :
    Holds videoSize frameSize a :=
  ⟨h.trans hb.1, FramesFit.anti h hb.2⟩

/-- The number of frames found: the first loop's if it exceeds three, else the second's. -/
theorem placeFrames_fst (numFrames : UInt32) (off : Int32) :
    (placeFrames videoSize frameSize desktop numFrames off).1 =
      if 3 < descend (firstTest videoSize frameSize desktop) numFrames.toNat
      then descend (firstTest videoSize frameSize desktop) numFrames.toNat
      else descend (secondTest videoSize frameSize) numFrames.toNat :=
  twoLoops_fst (aboveDesktop desktop) notBelowZero numFrames.toNat off

/-- `mach64_overlay_offset` is the place of the number found. -/
theorem placeFrames_snd {numFrames : UInt32} {off : Int32}
    (h : 0 < (placeFrames videoSize frameSize desktop numFrames off).1) :
    (placeFrames videoSize frameSize desktop numFrames off).2 = overlayOffAt videoSize frameSize
      (placeFrames videoSize frameSize desktop numFrames off).1 :=
  twoLoops_snd rfl h

theorem placeFrames_fst_le (numFrames : UInt32) (off : Int32) :
    (placeFrames videoSize frameSize desktop numFrames off).1 ≤ numFrames.toNat := by
  rw [placeFrames_fst]
  split_ifs <;> exact descend_le _

/-- **A downward-closed property of the number of frames found is one of the tests:** of the first
loop's where it lets some number above three through, else of the second's. -/
theorem placeFrames_iff {Q : ℕ → Prop} (hQ : ∀ a b, a ≤ b → Q b → Q a) (numFrames : UInt32)
    (off : Int32) :
    (0 < (placeFrames videoSize frameSize desktop numFrames off).1 →
        Q (placeFrames videoSize frameSize desktop numFrames off).1) ↔
      (∀ n, 3 < n → n ≤ numFrames.toNat → firstTest videoSize frameSize desktop n = true → Q n) ∧
        ((∀ n, 3 < n → n ≤ numFrames.toNat → ¬ firstTest videoSize frameSize desktop n = true) →
          ∀ n, 0 < n → n ≤ numFrames.toNat → secondTest videoSize frameSize n = true → Q n) := by
  rw [placeFrames_fst]
  split_ifs with h3
  · have hpos : 0 < descend (firstTest videoSize frameSize desktop) numFrames.toNat := by omega
    obtain ⟨n, h3n, hn, hp⟩ := lt_descend_iff.mp h3
    rw [forall_prop_of_true hpos, descend_iff_of_antitone hQ h3]
    exact ⟨fun hall => ⟨hall, fun hnone => absurd hp (hnone n h3n hn)⟩, fun hall => hall.1⟩
  · have hnone : ∀ n, 3 < n → n ≤ numFrames.toNat →
        ¬ firstTest videoSize frameSize desktop n = true :=
      fun n h3n hn hp => h3 (lt_descend_iff.mpr ⟨n, h3n, hn, hp⟩)
    constructor
    · intro hholds
      refine ⟨fun n h3n hn hp => absurd hp (hnone n h3n hn), fun _ n hpos hn hp => ?_⟩
      have h0 : 0 < descend (secondTest videoSize frameSize) numFrames.toNat :=
        lt_descend_iff.mpr ⟨n, hpos, hn, hp⟩
      exact (descend_iff_of_antitone hQ h0).mp (hholds h0) n hpos hn hp
    · exact fun hall h0 => (descend_iff_of_antitone hQ h0).mpr (hall.2 hnone)

/-- **The number of frames found can be held iff the tests are safe.** -/
theorem placeFrames_holds_iff (numFrames : UInt32) (off : Int32)
    (hfs : frameSize.toNat ≤ 2 ^ 25) :
    (0 < (placeFrames videoSize frameSize desktop numFrames off).1 →
        Holds videoSize frameSize (placeFrames videoSize frameSize desktop numFrames off).1) ↔
      SearchSafe videoSize frameSize desktop numFrames.toNat := by
  -- up to 64 frames a remainder that is not negative is a true one
  have hfit : ∀ n, n ≤ bufferRows → 0 ≤ (overlayOffAt videoSize frameSize n).toInt →
      FramesFit videoSize frameSize n := by
    intro n hn hnonneg
    have hrows : bufferRows * frameSize.toNat ≤ 64 * 2 ^ 25 := Nat.mul_le_mul_left _ hfs
    have hprod := Nat.mul_le_mul_right frameSize.toNat hn
    exact framesFit_of_nonneg (by omega) hnonneg
  rw [placeFrames_iff (fun _ _ => Holds.anti)]
  constructor
  · rintro ⟨hfirst, hsecond⟩
    exact ⟨fun n h3n hn hp => (hfirst n h3n hn hp).imp_right fun hholds _ => hholds,
      fun hnone n hpos hn hp => (hsecond hnone n hpos hn hp).1⟩
  · intro hsafe
    refine ⟨fun n h3n hn hp => ?_, fun hnone n hpos hn hp => ?_⟩
    · obtain ⟨hrows, hneg⟩ := hsafe.first n h3n hn hp
      refine ⟨hrows, ?_⟩
      rcases lt_or_ge desktop.toInt32.toInt 0 with hlt | hge
      · exact hneg hlt
      · exact hfit n hrows (hge.trans ((aboveDesktop_iff _ _).mp hp))
    · have hrows := hsafe.second hnone n hpos hn hp
      exact ⟨hrows, hfit n hrows ((notBelowZero_iff _).mp hp)⟩

/-- The tests of the search let through only what the table of rows can hold. -/
structure RowsSuffice (videoSize frameSize desktop : UInt32) (numFrames : ℕ) : Prop where
  first : ∀ n, 3 < n → n ≤ numFrames → firstTest videoSize frameSize desktop n = true →
    n ≤ bufferRows
  second :
    (∀ n, 3 < n → n ≤ numFrames → ¬ firstTest videoSize frameSize desktop n = true) →
    ∀ n, 0 < n → n ≤ numFrames → secondTest videoSize frameSize n = true → n ≤ bufferRows

theorem RowsSuffice.of_le {numFrames : ℕ} (h : numFrames ≤ bufferRows) :
    RowsSuffice videoSize frameSize desktop numFrames :=
  ⟨fun _ _ hn _ => hn.trans h, fun _ _ _ hn _ => hn.trans h⟩

theorem rowsSuffice_iff (numFrames : UInt32) (off : Int32) :
    RowsSuffice videoSize frameSize desktop numFrames.toNat ↔
      (placeFrames videoSize frameSize desktop numFrames off).1 ≤ bufferRows := by
  have hiff := @placeFrames_iff videoSize frameSize desktop (fun n => n ≤ bufferRows)
    (fun _ _ => le_trans) numFrames off
  constructor
  · intro h
    rcases Nat.eq_zero_or_pos (placeFrames videoSize frameSize desktop numFrames off).1 with h0 | h0
    · rw [h0]
      exact Nat.zero_le _
    · exact hiff.mpr ⟨h.first, h.second⟩ h0
  · intro h
    obtain ⟨hfirst, hsecond⟩ := hiff.mp fun _ => h
    exact ⟨hfirst, hsecond⟩

/-! ### `vixConfigPlayback` -/

/-- What a configuration owes its caller, for the driver and the request as it leaves them. -/
structure FramesSafe (d : Driver) (r : Driver × VidixPlayback) : Prop where
  /-- One row is written for each frame, and the table has them. -/
  rows : ∃ rows, r.1.bufferBase = storeRows rows d.bufferBase ∧
    rows.length = r.2.numFrames.toNat ∧ rows.length ≤ bufferRows
  overrun : r.1.overrun = d.overrun
  off_nonneg : 0 ≤ r.1.overlayOffset.toInt
  end_le : r.1.overlayOffset.toInt + r.2.numFrames.toNat * r.2.frameSize.toNat ≤
    (mach64RamSize d.regs).toNat

/-- A call that returns 0 has kept to the table and to the memory. -/
def SafePlayback (d : Driver) (info : VidixPlayback) : Prop :=
  ∀ d' info', vixConfigPlayback d info = some (0, d', info') → FramesSafe d (d', info')

/-- The call gets to its search and, if that finds anything, to its end. -/
structure Searches (d : Driver) (info : VidixPlayback) : Prop where
  supported : isSupportedFourcc d info.fourcc = true
  width_le : info.src.w.toNat ≤ 720
  height_le : info.src.h.toNat ≤ 720
  dest_w : info.dest.w ≠ 0
  dest_h : info.dest.h ≠ 0

/-- The frame search `vixConfigPlayback` runs for a request. -/
def search (d : Driver) (info : VidixPlayback) : ℕ × Int32 :=
  placeFrames (mach64RamSize d.regs) (mach64ComputeFramesize info) (rgbSize d.regs)
    (cappedFrames info.numFrames) d.overlayOffset

theorem mach64VidInitVideo_none {config : VidixPlayback} (d : Driver)
    (h : config.dest.h = 0 ∨ config.dest.w = 0) : mach64VidInitVideo d config = none := by
  unfold mach64VidInitVideo
  rw [if_pos (by simpa using h)]

/-- A row is stored for each of `n` frames, behind the table where it has none. -/
def StoresRows (d d' : Driver) (n : ℕ) : Prop :=
  ∃ rows, d'.bufferBase = storeRows rows d.bufferBase ∧
    d'.overrun = (d.overrun || decide (bufferRows < rows.length)) ∧ rows.length = n

/-- What `mach64_vid_init_video` does to the frames. -/
theorem mach64VidInitVideo_some {config : VidixPlayback} (d : Driver) (hh : config.dest.h ≠ 0)
    (hw : config.dest.w ≠ 0) :
    ∃ d' config', mach64VidInitVideo d config = some (d', config') ∧
      d'.overlayOffset = d.overlayOffset ∧ config'.numFrames = config.numFrames ∧
      config'.frameSize = config.frameSize ∧
      StoresRows d d' config.numFrames.toNat := by
  unfold mach64VidInitVideo
  rw [if_neg (by simp [hh, hw])]
  refine ⟨_, _, rfl, rfl, rfl, rfl, _, rfl, rfl, ?_⟩
  rw [bufferRowsAt, List.length_map, frameOffsets, List.length_iterate]

theorem tooLarge_iff (src : VidixRect) :
    (src.h > 720 || src.w > 720) = true ↔ ¬ (src.w.toNat ≤ 720 ∧ src.h.toNat ≤ 720) := by
  have h720 : (720 : UInt32).toNat = 720 := rfl
  rw [Bool.or_eq_true, decide_eq_true_eq, decide_eq_true_eq, gt_iff_lt, gt_iff_lt,
    UInt32.lt_iff_toNat_lt, UInt32.lt_iff_toNat_lt, h720]
  omega

/-- A call that gets to its search and finds nothing fails. -/
theorem vixConfigPlayback_of_none {d : Driver} {info : VidixPlayback}
    (hsup : isSupportedFourcc d info.fourcc = true)
    (hsize : ¬ (info.src.h > 720 || info.src.w > 720) = true) (h0 : (search d info).1 = 0) :
    ∃ d' info', vixConfigPlayback d info = some (einval, d', info') := by
  unfold search at h0
  unfold vixConfigPlayback
  rw [hsup, if_neg (by simp), if_neg hsize]
  dsimp only
  rw [if_pos h0]
  exact ⟨_, _, rfl⟩

/-- What a call comes to when its search finds some frames. -/
theorem vixConfigPlayback_of_found {d : Driver} {info : VidixPlayback}
    (hsup : isSupportedFourcc d info.fourcc = true)
    (hsize : ¬ (info.src.h > 720 || info.src.w > 720) = true) (h0 : (search d info).1 ≠ 0) :
    ∃ d₁ info₁, vixConfigPlayback d info =
        (mach64VidInitVideo d₁ info₁).map (fun r => (0, r.1, r.2)) ∧
      d₁.overlayOffset = (search d info).2 ∧
      d₁.bufferBase = d.bufferBase ∧ d₁.overrun = d.overrun ∧
      info₁.dest = info.dest ∧ info₁.numFrames = UInt32.ofNat (search d info).1 ∧
      info₁.frameSize = mach64ComputeFramesize info := by
  unfold search at h0 ⊢
  unfold vixConfigPlayback
  rw [hsup, if_neg (by simp), if_neg hsize]
  dsimp only
  rw [if_neg h0]
  exact ⟨_, _, rfl, rfl, rfl, rfl, rfl, rfl, rfl⟩

/-- A call that does not get to its end does not return 0. -/
theorem vixConfigPlayback_of_not_searches {d : Driver} {info : VidixPlayback}
    (h : ¬ Searches d info) (d' : Driver) (info' : VidixPlayback) :
    vixConfigPlayback d info ≠ some (0, d', info') := by
  have henosys : enosys ≠ 0 := by decide
  have heinval : einval ≠ 0 := by decide
  intro hret
  by_cases hsup : isSupportedFourcc d info.fourcc = true
  · by_cases hsize : (info.src.h > 720 || info.src.w > 720) = true
    · unfold vixConfigPlayback at hret
      rw [hsup, if_neg (by simp), if_pos hsize] at hret
      exact heinval (Prod.mk.inj (Option.some.inj hret)).1
    · by_cases h0 : (search d info).1 = 0
      · obtain ⟨d'', info'', hnone⟩ := vixConfigPlayback_of_none hsup hsize h0
        rw [hnone] at hret
        exact heinval (Prod.mk.inj (Option.some.inj hret)).1
      · obtain ⟨d₁, info₁, hrun, -, -, -, hdest, -, -⟩ := vixConfigPlayback_of_found hsup hsize h0
        have hzero : info₁.dest.h = 0 ∨ info₁.dest.w = 0 := by
          rw [hdest]
          by_contra hne
          obtain ⟨hh, hw⟩ := not_or.mp hne
          have hle := not_not.mp (fun hn => hsize ((tooLarge_iff info.src).mpr hn))
          exact h ⟨hsup, hle.1, hle.2, hw, hh⟩
        rw [hrun, mach64VidInitVideo_none d₁ hzero] at hret
        cases hret
  · unfold vixConfigPlayback at hret
    rw [if_pos (by simpa using hsup)] at hret
    exact henosys (Prod.mk.inj (Option.some.inj hret)).1

/-- What a call that gets to its end returns and stores. -/
theorem vixConfigPlayback_of_searches {d : Driver} {info : VidixPlayback} (h : Searches d info)
    (h0 : (search d info).1 ≠ 0) :
    ∃ d' info', vixConfigPlayback d info = some (0, d', info') ∧
      d'.overlayOffset = (search d info).2 ∧
      info'.numFrames = UInt32.ofNat (search d info).1 ∧
      info'.frameSize = mach64ComputeFramesize info ∧
      StoresRows d d' info'.numFrames.toNat := by
  have hsize : ¬ (info.src.h > 720 || info.src.w > 720) = true :=
    fun hlarge => (tooLarge_iff info.src).mp hlarge ⟨h.width_le, h.height_le⟩
  obtain ⟨d₁, info₁, hrun, hoff, hbase, hover, hdest, hn, hfs⟩ :=
    vixConfigPlayback_of_found h.supported hsize h0
  have hh : info₁.dest.h ≠ 0 := hdest ▸ h.dest_h
  have hw : info₁.dest.w ≠ 0 := hdest ▸ h.dest_w
  obtain ⟨d', info', hinit, hoff', hn', hfs', rows, hrows, hover', hlen⟩ :=
    mach64VidInitVideo_some d₁ hh hw
  refine ⟨d', info', ?_, hoff'.trans hoff, hn'.trans hn, hfs'.trans hfs, rows, ?_, ?_, ?_⟩
  · rw [hrun, hinit]
    rfl
  · rw [hrows, hbase]
  · rw [hover', hover]
  · rw [hlen, hn']

/-- A line of at most 720 pixels, and a picture of at most 720 lines. -/
structure Small (info : VidixPlayback) : Prop where
  width_le : info.src.w.toNat ≤ 720
  height_le : info.src.h.toNat ≤ 720

/-- What an accepted request comes to. -/
structure Accepted (d : Driver) (info : VidixPlayback) (d' : Driver) (info' : VidixPlayback) :
    Prop where
  small : Small info
  dest_w : info.dest.w ≠ 0
  dest_h : info.dest.h ≠ 0
  found : (search d info).1 ≠ 0
  fourcc : info'.fourcc = info.fourcc
  src : info'.src = info.src
  numFrames : info'.numFrames = UInt32.ofNat (search d info).1
  frameSize : info'.frameSize = mach64ComputeFramesize info
  offsets : info'.offsets = frameOffsets info'.frameSize info'.numFrames
  offset : info'.offset = (planeOffsets info).1
  overlayOffset : d'.overlayOffset = (search d info).2
  bufferBase : d'.bufferBase =
    storeRows (bufferRowsAt d'.overlayOffset info'.offsets (planeOffsets info).2) d.bufferBase
  overrun : d'.overrun = (d.overrun || decide (bufferRows < info'.numFrames.toNat))
  scaleInc : d'.besr.scaleInc = ((scaleIncs d info).2 <<< 16) ||| (scaleIncs d info).1

theorem vixConfigPlayback_accepted {d d' : Driver} {info info' : VidixPlayback}
    (h : vixConfigPlayback d info = some (0, d', info')) :
    Accepted d info d' info' := by
  have hs : Searches d info := by
    by_contra hnot
    exact vixConfigPlayback_of_not_searches hnot d' info' h
  have hsize : ¬ (info.src.h > 720 || info.src.w > 720) = true :=
    fun hlarge => (tooLarge_iff info.src).mp hlarge ⟨hs.width_le, hs.height_le⟩
  have h0 : (search d info).1 ≠ 0 := by
    intro h0
    obtain ⟨_, _, hnone⟩ := vixConfigPlayback_of_none hs.supported hsize h0
    rw [hnone] at h
    exact absurd (Prod.mk.inj (Option.some.inj h)).1 (by decide)
  have hfound := h0
  unfold search at h0
  unfold vixConfigPlayback at h
  rw [hs.supported, if_neg (by simp), if_neg hsize] at h
  dsimp only at h
  rw [if_neg h0] at h
  unfold mach64VidInitVideo at h
  rw [if_neg (by simp [hs.dest_h, hs.dest_w])] at h
  dsimp only [Option.map_some] at h
  obtain ⟨-, h⟩ := Prod.mk.inj (Option.some.inj h)
  obtain ⟨rfl, rfl⟩ := Prod.mk.inj h
  refine ⟨⟨hs.width_le, hs.height_le⟩, hs.dest_w, hs.dest_h, hfound, rfl, rfl, rfl, rfl, rfl, rfl,
    rfl, rfl, ?_, rfl⟩
  dsimp only
  rw [bufferRowsAt, List.length_map, frameOffsets, List.length_iterate]

theorem Accepted.toNat_numFrames {d d' : Driver} {info info' : VidixPlayback}
    (h : Accepted d info d' info') : info'.numFrames.toNat = (search d info).1 := by
  have hle : (search d info).1 ≤ (cappedFrames info.numFrames).toNat := placeFrames_fst_le _ _
  have hlt := UInt32.toNat_lt (cappedFrames info.numFrames)
  rw [h.numFrames, UInt32.toNat_ofNat', Nat.mod_eq_of_lt (by omega)]

theorem Driver.row_of_lt (d : Driver) {i : ℕ} (hi : i < bufferRows) :
    d.row i = some (d.bufferBase ⟨i, hi⟩) :=
  congrArg (Option.map d.bufferBase) (slot_of_lt hi)

/-- The row of a frame, if the table has one for it. -/
theorem Accepted.row_eq {d d' : Driver} {info info' : VidixPlayback}
    (h : Accepted d info d' info') {i : ℕ} (hi : i < info'.numFrames.toNat)
    (hrow : i < bufferRows) :
    d'.row i = (bufferRowsAt d'.overlayOffset info'.offsets (planeOffsets info).2)[i]? := by
  have hlen : i < (bufferRowsAt d'.overlayOffset info'.offsets (planeOffsets info).2).length := by
    rw [bufferRowsAt, List.length_map, h.offsets, frameOffsets, List.length_iterate]
    exact hi
  rw [d'.row_of_lt hrow, h.bufferBase, storeRows, List.getD_eq_getElem?_getD,
    List.getElem?_eq_getElem hlen]
  rfl

/-- The frames of a call that returns 0 are safe iff they can be held. -/
theorem framesSafe_iff {d d' : Driver} {info info' : VidixPlayback}
    (hoff : d'.overlayOffset = (search d info).2)
    (hn : info'.numFrames = UInt32.ofNat (search d info).1)
    (hfs : info'.frameSize = mach64ComputeFramesize info)
    (hrows : StoresRows d d' info'.numFrames.toNat) (h0 : 0 < (search d info).1) :
    FramesSafe d (d', info') ↔
      Holds (mach64RamSize d.regs) (mach64ComputeFramesize info) (search d info).1 := by
  have hle : (search d info).1 ≤ (cappedFrames info.numFrames).toNat := placeFrames_fst_le _ _
  have hlt : (search d info).1 < 2 ^ 32 := lt_of_le_of_lt hle (UInt32.toNat_lt _)
  have hnat : info'.numFrames.toNat = (search d info).1 := by
    rw [hn, UInt32.toNat_ofNat', Nat.mod_eq_of_lt hlt]
  have hplace : (search d info).2 = overlayOffAt (mach64RamSize d.regs)
      (mach64ComputeFramesize info) (search d info).1 := placeFrames_snd h0
  have hgood := @wellPlaced_iff (mach64RamSize d.regs) (mach64ComputeFramesize info) _ hlt
  have hram := mach64RamSize_le d.regs
  unfold WellPlaced at hgood
  rw [← hplace] at hgood
  constructor
  · rintro ⟨⟨rows, -, hlen, hmax⟩, -, hnonneg, hend⟩
    dsimp only at hlen hnonneg hend
    rw [hoff] at hnonneg
    rw [hoff, hnat, hfs] at hend
    refine ⟨by omega, (hgood.mp ⟨hnonneg, hend⟩).1⟩
  · rintro ⟨hmax, hfit⟩
    obtain ⟨hnonneg, hend⟩ := hgood.mpr ⟨hfit, by omega⟩
    obtain ⟨rows, hbase, hover, hlen⟩ := hrows
    have hmax' : rows.length ≤ bufferRows := by omega
    refine ⟨⟨rows, hbase, hlen, hmax'⟩, ?_, ?_, ?_⟩
    · dsimp only
      rw [hover, decide_eq_false (Nat.not_lt.mpr hmax'), Bool.or_false]
    · dsimp only
      rw [hoff]
      exact hnonneg
    · dsimp only
      rw [hoff, hnat, hfs]
      exact hend

/-- A configuration keeps to the table and to the memory iff the tests of its search are safe, if it
gets so far at all. -/
theorem safePlayback_iff (d : Driver) (info : VidixPlayback) :
    SafePlayback d info ↔
      (Searches d info → SearchSafe (mach64RamSize d.regs) (mach64ComputeFramesize info)
        (rgbSize d.regs) (cappedFrames info.numFrames).toNat) := by
  by_cases h : Searches d info
  · have hfs := mach64ComputeFramesize_le h.width_le h.height_le
    rw [forall_prop_of_true h, ← placeFrames_holds_iff (cappedFrames info.numFrames)
      d.overlayOffset hfs]
    show SafePlayback d info ↔ (0 < (search d info).1 → Holds _ _ (search d info).1)
    by_cases h0 : (search d info).1 = 0
    · have hsize : ¬ (info.src.h > 720 || info.src.w > 720) = true :=
        fun hlarge => (tooLarge_iff info.src).mp hlarge ⟨h.width_le, h.height_le⟩
      obtain ⟨d'', info'', hnone⟩ := vixConfigPlayback_of_none h.supported hsize h0
      refine iff_of_true (fun d' info' hret => ?_) (fun hpos => by omega)
      rw [hnone] at hret
      exact absurd (Prod.mk.inj (Option.some.inj hret)).1 (by decide)
    · have hpos : 0 < (search d info).1 := Nat.pos_of_ne_zero h0
      obtain ⟨d', info', hrun, hoff, hn, hfs', hrows⟩ := vixConfigPlayback_of_searches h h0
      rw [forall_prop_of_true hpos, ← framesSafe_iff hoff hn hfs' hrows hpos]
      constructor
      · exact fun hsafe => hsafe d' info' hrun
      · intro hsafe d'' info'' hret
        rw [hrun] at hret
        obtain ⟨-, hret⟩ := Prod.mk.inj (Option.some.inj hret)
        obtain ⟨rfl, rfl⟩ := Prod.mk.inj hret
        exact hsafe
  · refine iff_of_true (fun d' info' hret => ?_) fun hs => absurd hs h
    exact absurd hret (vixConfigPlayback_of_not_searches h d' info')

/-- Requests for 64 frames at most are safe under any desktop of less than 2 GB. -/
theorem safePlayback_of_le {d : Driver} {info : VidixPlayback}
    (hn : info.numFrames.toNat ≤ bufferRows) (hdesktop : 0 ≤ (rgbSize d.regs).toInt32.toInt) :
    SafePlayback d info := by
  have hcap : (cappedFrames info.numFrames).toNat ≤ bufferRows := by
    rw [cappedFrames_toNat]
    exact (Nat.min_le_left _ _).trans hn
  refine (safePlayback_iff d info).mpr fun _ => ⟨?_, ?_⟩
  · exact fun n _ hle _ => ⟨hle.trans hcap, fun hneg => absurd hdesktop (not_le.mpr hneg)⟩
  · exact fun _ n _ hle _ => hle.trans hcap

/-- **A configuration keeps to the table and to the memory iff the tests of its search are safe,**
if it gets so far at all; for 64 frames at most they are. -/
theorem vixConfigPlayback_safe_iff (d : Driver) (info : VidixPlayback) :
    (SafePlayback d info ↔
        (Searches d info → SearchSafe (mach64RamSize d.regs) (mach64ComputeFramesize info)
          (rgbSize d.regs) (cappedFrames info.numFrames).toNat)) ∧
      (info.numFrames.toNat ≤ bufferRows → 0 ≤ (rgbSize d.regs).toInt32.toInt →
        SafePlayback d info) :=
  ⟨safePlayback_iff d info, safePlayback_of_le⟩

/-- A card with 16 MB under a desktop of 640x480 at 8 bits. -/
def sampleDriver : Driver where
  regs := { memCntl := 0xf, crtcGenCntl := 0x200, crtcHTotalDisp := 0x4f0000,
            crtcVTotalDisp := 0x1df0000, pllVclkCntl := 0, lcdVertStretching := 0,
            lcdExtVertStretch := 0 }
  memBase := 0x7f0000000000
  supportsPlanar := true
  supportsLcdVStretch := false
  overlayOffset := 0
  numMach64Buffers := 0
  bufferBase _ := ⟨0, 0, 0⟩
  overrun := false
  besr := { fourcc := 0, scaleInc := 0, yXStart := 0, yXEnd := 0, vidBufPitch := 0,
            heightWidth := 0 }

/-- **100 frames of 352x288 are all granted,** 36 more than there are rows. -/
theorem vixConfigPlayback_overruns_table :
    isSupportedFourcc sampleDriver imgfmtYV12 = true ∧
      ¬ SafePlayback sampleDriver (sampleRequest imgfmtYV12 352 288 100) := by
  refine ⟨by decide, fun hsafe => ?_⟩
  have hsearch : Searches sampleDriver (sampleRequest imgfmtYV12 352 288 100) :=
    ⟨by decide, by decide, by decide, by decide, by decide⟩
  have htests := (safePlayback_iff _ _).mp hsafe hsearch
  have hrows := (htests.first 100 (by decide) (by decide) (by decide)).1
  exact absurd hrows (by decide)

end Vidix.Mach64
