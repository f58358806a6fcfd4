import Vidix.Savage.Frame
import Vidix.Equiv.Negotiation
import Vidix.Util.Word

/-!
# The layout of frames behind the desktop

The length of a row is kept in 16 bits, and the test for enough memory subtracts the frame from the
memory: a frame that is larger than the memory passes it.  When a configuration succeeds, its frames
are placed as they should be iff the rows fit into their 16 bits and one frame fits behind the
desktop: `framesPlaced_iff`.
-/

namespace Vidix.Savage

open Util

variable {Arch : Type} {info : ChipInfo Arch} {vinfo : VidixPlayback}

/-! ### The size of a frame -/

/-- The bytes of a row of the source. -/
def rowBytes (vinfo : VidixPlayback) : ℕ :=
  vinfo.src.w.toNat * (bytesPerPixel vinfo.fourcc).toNat

/-- The row, padded to 16 bytes. -/
def paddedRow (vinfo : VidixPlayback) : ℕ := (rowBytes vinfo + 15) / 16 * 16

/-- The bytes of a frame as the driver has them: the row in 16 bits, and their product with the
height in 32. -/
def frameBytes (vinfo : VidixPlayback) : ℕ :=
  (rowBytes vinfo % 2 ^ 32 + 15) % 2 ^ 32 / 16 * 16 % 2 ^ 16 * vinfo.src.h.toNat % 2 ^ 32

theorem pitchOf_low (srcW bpp : UInt32) :
    (pitchOf srcW bpp &&& 0xffff).toNat =
      (srcW.toNat * bpp.toNat % 2 ^ 32 + 15) % 2 ^ 32 / 16 * 16 % 2 ^ 16 := by
  have hrow : ((srcW * bpp + 15) &&& ~~~15).toNat =
      (srcW.toNat * bpp.toNat % 2 ^ 32 + 15) % 2 ^ 32 / 16 * 16 := by
    rw [toNat_and_not_mask (k := 4) rfl (by decide), UInt32.toNat_add, UInt32.toNat_mul]
    rfl
  have hmask : (0xffff : UInt32).toNat = 2 ^ 16 - 1 := rfl
  have hhigh : ∀ x : UInt32, (x <<< 16).toNat % 2 ^ 16 = 0 := by
    intro x
    rw [toNat_shiftLeft_of_lt (n := 16) _ rfl (by decide)]
    omega
  unfold pitchOf
  dsimp only
  rw [UInt32.toNat_and, hmask, Nat.and_two_pow_sub_one_eq_mod, UInt32.toNat_or,
    Nat.or_mod_two_pow, hhigh, Nat.or_zero, hrow]

theorem frameSizeOf_toNat (vinfo : VidixPlayback) :
    (frameSizeOf vinfo).toNat = frameBytes vinfo := by
  unfold frameSizeOf
  rw [UInt32.toNat_mul, pitchOf_low]
  rfl

/-! ### The card -/

/-- The bytes of the desktop. -/
def desktopBytes (info : ChipInfo Arch) : ℕ :=
  info.screenX.toNat * info.screenY.toNat * (info.bpp.toNat / 8)

/-- What `vixInit` has found out: at most 64 megabytes, and a desktop whose size can be computed. -/
structure Probed (info : ChipInfo Arch) : Prop where
  fbsize_le : info.fbsize.toNat ≤ 2 ^ 26
  offset_eq : (pictureOffsetOf info).toNat = desktopBytes info

theorem toNat_masked_shift_lt (x mask shift : UInt32) {k : ℕ} (hshift : shift.toNat < 32)
    (hmask : mask.toNat * 2 ^ shift.toNat < 2 ^ k) : ((x &&& mask) <<< shift).toNat < 2 ^ k := by
  have hand : (x &&& mask).toNat ≤ mask.toNat := by
    rw [UInt32.toNat_and]
    exact Nat.and_le_right
  rw [toNat_shiftLeft_of_lt _ rfl hshift]
  calc (x &&& mask).toNat * 2 ^ shift.toNat % 2 ^ 32
      ≤ (x &&& mask).toNat * 2 ^ shift.toNat := Nat.mod_le _ _
    _ ≤ mask.toNat * 2 ^ shift.toNat := Nat.mul_le_mul_right _ hand
    _ < 2 ^ k := hmask

theorem screenProperties_screenX (cr : UInt8 → UInt8) (info : ChipInfo Arch) :
    (screenProperties cr info).screenX.toNat ≤ 2 ^ 11 := by
  show ((1 + (cr 0x1).toUInt32) <<< 3).toNat ≤ _
  have hlt := (cr 0x1).toNat_lt
  rw [toNat_shiftLeft_of_lt (n := 3) _ rfl (by decide), UInt32.toNat_add, UInt8.toNat_toUInt32]
  show (1 + (cr 0x1).toNat) % 2 ^ 32 * 2 ^ 3 % 2 ^ 32 ≤ _
  omega

theorem screenProperties_screenY (cr : UInt8 → UInt8) (info : ChipInfo Arch) :
    (screenProperties cr info).screenY.toNat ≤ 2 ^ 10 := by
  have hlines : ((cr 0x12).toUInt32 ||| ((cr 0x07).toUInt32 &&& 0x02) <<< 7 |||
      ((cr 0x07).toUInt32 &&& 0x40) <<< 3).toNat < 2 ^ 10 := by
    rw [UInt32.toNat_or, UInt32.toNat_or]
    refine Nat.or_lt_two_pow (Nat.or_lt_two_pow ?_ ?_) ?_
    · rw [UInt8.toNat_toUInt32]
      exact lt_of_lt_of_le (cr 0x12).toNat_lt (by decide)
    · exact toNat_masked_shift_lt _ _ _ (by decide) (by decide)
    · exact toNat_masked_shift_lt _ _ _ (by decide) (by decide)
  show (_ + 1 : UInt32).toNat ≤ _
  rw [UInt32.toNat_add, UInt32.toNat_one]
  omega

theorem screenProperties_bpp (cr : UInt8 → UInt8) (info : ChipInfo Arch) (hbpp : info.bpp = 0) :
    (screenProperties cr info).bpp.toNat ≤ 32 := by
  unfold screenProperties
  dsimp only
  split_ifs
  · decide
  · decide
  · decide
  · decide
  · show info.bpp.toNat ≤ 32
    rw [hbpp]
    decide

theorem screenProperties_offset (cr : UInt8 → UInt8) (info : ChipInfo Arch) (hbpp : info.bpp = 0) :
    (pictureOffsetOf (screenProperties cr info)).toNat =
      desktopBytes (screenProperties cr info) := by
  have hx := screenProperties_screenX cr info
  have hy := screenProperties_screenY cr info
  have hb := screenProperties_bpp cr info hbpp
  generalize screenProperties cr info = info at hx hy hb
  have hxy : info.screenX.toNat * info.screenY.toNat ≤ 2 ^ 21 :=
    (Nat.mul_le_mul hx hy).trans (by decide)
  have hbytes : info.bpp.toNat / 8 ≤ 4 := by omega
  have hall : info.screenX.toNat * info.screenY.toNat * (info.bpp.toNat / 8) ≤ 2 ^ 23 :=
    (Nat.mul_le_mul hxy hbytes).trans (by decide)
  have hshift : (info.bpp >>> 3).toNat = info.bpp.toNat / 8 := by
    rw [UInt32.toNat_shiftRight, Nat.shiftRight_eq_div_pow]
    rfl
  unfold pictureOffsetOf desktopBytes
  rw [UInt32.toNat_toUInt64, UInt32.toNat_mul, UInt32.toNat_mul, hshift,
    Nat.mod_eq_of_lt (lt_of_le_of_lt hxy (by decide)),
    Nat.mod_eq_of_lt (lt_of_le_of_lt hall (by decide))]

/-! ### The frames -/

/-- At least one frame is granted; the frames lie behind the desktop and inside the memory, and are
large enough for their rows. -/
structure FramesPlaced (info : ChipInfo Arch) (vinfo : VidixPlayback) : Prop where
  granted : 1 ≤ vinfo.numFrames.toNat
  behind : desktopBytes info ≤ info.pictureOffset.toNat
  inside : info.pictureOffset.toNat + vinfo.numFrames.toNat * vinfo.frameSize.toNat ≤
    info.fbsize.toNat
  rows : vinfo.src.h.toNat * rowBytes vinfo ≤ vinfo.frameSize.toNat

/-- The test for enough memory turns the request down. -/
def Rejected (info : ChipInfo Arch) (vinfo : VidixPlayback) : Prop :=
  frameBytes vinfo ≤ info.fbsize.toNat ∧
    info.fbsize.toNat < desktopBytes info + frameBytes vinfo

/-- The length of a row fits into its 16 bits, and a frame behind the desktop. -/
structure Fits (info : ChipInfo Arch) (vinfo : VidixPlayback) : Prop where
  row : paddedRow vinfo < 2 ^ 16
  room : desktopBytes info + paddedRow vinfo * vinfo.src.h.toNat ≤ info.fbsize.toNat

theorem noMemory_iff (hprobed : Probed info) (vinfo : VidixPlayback) :
    noMemory info vinfo = true ↔ Rejected info vinfo := by
  have hsize : (frameSizeOf vinfo).toUInt64.toNat = frameBytes vinfo := by
    rw [UInt32.toNat_toUInt64, frameSizeOf_toNat]
  have hlt : frameBytes vinfo < 2 ^ 32 := Nat.mod_lt _ (by decide)
  have hoffset : (pictureOffsetOf info).toNat < 2 ^ 32 := by
    unfold pictureOffsetOf
    rw [UInt32.toNat_toUInt64]
    exact UInt32.toNat_lt _
  have hfbsize := hprobed.fbsize_le
  unfold noMemory Rejected
  rw [decide_eq_true_eq, gt_iff_lt, UInt64.lt_iff_toNat_lt, UInt64.toNat_sub, hsize,
    ← hprobed.offset_eq]
  omega

/-- Without overflow, a frame is its rows with 16 bits of their length. -/
theorem frameBytes_eq (vinfo : VidixPlayback) (hrow : rowBytes vinfo < 2 ^ 32 - 15) :
    frameBytes vinfo = paddedRow vinfo % 2 ^ 16 * vinfo.src.h.toNat % 2 ^ 32 := by
  unfold frameBytes paddedRow
  rw [Nat.mod_eq_of_lt (show rowBytes vinfo < 2 ^ 32 by omega),
    Nat.mod_eq_of_lt (show rowBytes vinfo + 15 < 2 ^ 32 by omega)]

theorem rowBytes_le_paddedRow (vinfo : VidixPlayback) : rowBytes vinfo ≤ paddedRow vinfo := by
  unfold paddedRow
  omega

/-- A frame that has room for its rows is one whose row fits. -/
theorem paddedRow_lt_of_rows (hne : frameBytes vinfo ≠ 0) (hle : frameBytes vinfo ≤ 2 ^ 26)
    (hrows : vinfo.src.h.toNat * rowBytes vinfo ≤ frameBytes vinfo) :
    paddedRow vinfo < 2 ^ 16 ∧ frameBytes vinfo = paddedRow vinfo * vinfo.src.h.toNat := by
  have hh : 1 ≤ vinfo.src.h.toNat := by
    by_contra hzero
    rw [Nat.not_le, Nat.lt_one_iff] at hzero
    exact hne (by unfold frameBytes; rw [hzero, Nat.mul_zero, Nat.zero_mod])
  have hrow : rowBytes vinfo ≤ 2 ^ 26 :=
    calc rowBytes vinfo ≤ vinfo.src.h.toNat * rowBytes vinfo := Nat.le_mul_of_pos_left _ hh
      _ ≤ 2 ^ 26 := hrows.trans hle
  have heq := frameBytes_eq vinfo (by omega)
  rcases Nat.lt_or_ge (paddedRow vinfo) (2 ^ 16) with hlt | hge
  · refine ⟨hlt, ?_⟩
    have hpad : paddedRow vinfo ≤ 16 * rowBytes vinfo := by
      have hpos : 1 ≤ rowBytes vinfo := by
        by_contra hzero
        have hpadded : paddedRow vinfo = 0 := by unfold paddedRow; omega
        rw [hpadded, Nat.zero_mod, Nat.zero_mul, Nat.zero_mod] at heq
        exact hne heq
      unfold paddedRow
      omega
    have hproduct : paddedRow vinfo * vinfo.src.h.toNat < 2 ^ 32 :=
      calc paddedRow vinfo * vinfo.src.h.toNat
          ≤ 16 * rowBytes vinfo * vinfo.src.h.toNat := Nat.mul_le_mul_right _ hpad
        _ = 16 * (vinfo.src.h.toNat * rowBytes vinfo) := by ring
        _ ≤ 16 * 2 ^ 26 := Nat.mul_le_mul_left _ (hrows.trans hle)
        _ < 2 ^ 32 := by decide
    rw [heq, Nat.mod_eq_of_lt hlt, Nat.mod_eq_of_lt hproduct]
  · exfalso
    rcases Nat.lt_or_ge (rowBytes vinfo) (2 ^ 16) with hlt' | hge'
    · -- the padding alone reaches `2 ^ 16`, and nothing is left of the row
      have hpadded : paddedRow vinfo = 2 ^ 16 := by unfold paddedRow at hge ⊢; omega
      rw [hpadded, Nat.mod_self, Nat.zero_mul, Nat.zero_mod] at heq
      exact hne heq
    · have hcut : paddedRow vinfo % 2 ^ 16 < 2 ^ 16 := Nat.mod_lt _ (by decide)
      have hless : frameBytes vinfo < vinfo.src.h.toNat * rowBytes vinfo :=
        calc frameBytes vinfo ≤ paddedRow vinfo % 2 ^ 16 * vinfo.src.h.toNat := by
              rw [heq]
              exact Nat.mod_le _ _
          _ < 2 ^ 16 * vinfo.src.h.toNat := Nat.mul_lt_mul_of_pos_right hcut hh
          _ ≤ rowBytes vinfo * vinfo.src.h.toNat := Nat.mul_le_mul_right _ hge'
          _ = vinfo.src.h.toNat * rowBytes vinfo := Nat.mul_comm _ _
      omega

/-- The frame of a row that fits. -/
theorem frameBytes_of_fits (hprobed : Probed info) (hfits : Fits info vinfo) :
    frameBytes vinfo = paddedRow vinfo * vinfo.src.h.toNat := by
  have hpadded := rowBytes_le_paddedRow vinfo
  have hrow := hfits.row
  have hroom := hfits.room
  have hfbsize := hprobed.fbsize_le
  rw [frameBytes_eq vinfo (by omega), Nat.mod_eq_of_lt hrow]
  exact Nat.mod_eq_of_lt (by omega)

/-- The number of frames that is granted. -/
theorem granted_toNat {frames : UInt64} (hframes : frames.toNat < 2 ^ 32) :
    (if frames.toUInt32 > vidPlayMaxframes then vidPlayMaxframes else frames.toUInt32).toNat =
      min frames.toNat 1024 := by
  have hcapped := cappedFrames_toNat frames.toUInt32
  rwa [UInt64.toNat_toUInt32, Nat.mod_eq_of_lt hframes] at hcapped

/-- What a configuration that succeeds has made. -/
structure Accepted (info : ChipInfo Arch) (vinfo : VidixPlayback) (o : Outcome Arch) : Prop where
  ret : o.ret = 0
  pictureOffset : o.info.pictureOffset = pictureOffsetOf info
  fbsize : o.info.fbsize = info.fbsize
  desktop : desktopBytes o.info = desktopBytes info
  src : o.vinfo.src = vinfo.src
  fourcc : o.vinfo.fourcc = vinfo.fourcc
  frameSize : o.vinfo.frameSize = frameSizeOf vinfo
  numFrames : o.vinfo.numFrames =
    (let frames := (info.fbsize - pictureOffsetOf info) / (frameSizeOf vinfo).toUInt64
    if frames.toUInt32 > vidPlayMaxframes then vidPlayMaxframes else frames.toUInt32)

theorem configFrames_of_accepted (base : UInt64) (hprobed : Probed info)
    (hnot : ¬ Rejected info vinfo) (hne : frameBytes vinfo ≠ 0) (answer : Answer) :
    ∃ o, configFrames info vinfo base answer = some o ∧ Accepted info vinfo o := by
  have hmemory : noMemory info vinfo ≠ true := fun h => hnot ((noMemory_iff hprobed vinfo).mp h)
  have hsize : frameSizeOf vinfo ≠ 0 := by
    intro h
    rw [← frameSizeOf_toNat, h] at hne
    exact hne rfl
  unfold configFrames
  dsimp only
  rw [if_neg hmemory, if_neg answer.ne_null, if_neg hsize]
  exact ⟨_, rfl, rfl, rfl, rfl, rfl, rfl, rfl, rfl, rfl⟩

theorem configFrames_of_rejected (base : UInt64) (hprobed : Probed info)
    (h : Rejected info vinfo) (answer : Answer) :
    ∃ o, configFrames info vinfo base answer = some o ∧ o.ret = -1 := by
  have hmemory : noMemory info vinfo = true := (noMemory_iff hprobed vinfo).mpr h
  unfold configFrames
  dsimp only
  rw [if_pos hmemory]
  exact ⟨_, rfl, rfl⟩

theorem configFrames_of_empty (base : UInt64) (hprobed : Probed info)
    (hnot : ¬ Rejected info vinfo) (hzero : frameBytes vinfo = 0) (answer : Answer) :
    configFrames info vinfo base answer = none := by
  have hmemory : noMemory info vinfo ≠ true := fun h => hnot ((noMemory_iff hprobed vinfo).mp h)
  have hsize : frameSizeOf vinfo = 0 :=
    UInt32.toNat_inj.mp ((frameSizeOf_toNat vinfo).trans hzero)
  unfold configFrames
  dsimp only
  rw [if_neg hmemory, if_neg answer.ne_null, if_pos hsize]

variable {o : Outcome Arch}

theorem Accepted.frameSize_toNat (h : Accepted info vinfo o) :
    o.vinfo.frameSize.toNat = frameBytes vinfo := by
  rw [h.frameSize, frameSizeOf_toNat]

/-- The length of a row is that of the request. -/
theorem Accepted.rowBytes (h : Accepted info vinfo o) : rowBytes o.vinfo = rowBytes vinfo := by
  unfold Savage.rowBytes
  rw [h.src, h.fourcc]

/-- As many frames are granted as there is room for behind the desktop. -/
theorem Accepted.numFrames_toNat (h : Accepted info vinfo o) (hprobed : Probed info)
    (hle : desktopBytes info ≤ info.fbsize.toNat) :
    o.vinfo.numFrames.toNat =
      min ((info.fbsize.toNat - desktopBytes info) / frameBytes vinfo) 1024 := by
  have hframes : ((info.fbsize - pictureOffsetOf info) /
      (frameSizeOf vinfo).toUInt64).toNat =
        (info.fbsize.toNat - desktopBytes info) / frameBytes vinfo := by
    have hoff := hprobed.offset_eq
    have hfb := hprobed.fbsize_le
    rw [UInt64.toNat_div, UInt64.toNat_sub, UInt32.toNat_toUInt64, frameSizeOf_toNat]
    congr 1
    omega
  rw [h.numFrames, ← hframes]
  refine granted_toNat ?_
  have hfb := hprobed.fbsize_le
  rw [hframes]
  exact lt_of_le_of_lt (Nat.div_le_self _ _) (by omega)

/-- Frames that are placed fit. -/
theorem Accepted.fits_of_placed (h : Accepted info vinfo o) (hprobed : Probed info)
    (hne : frameBytes vinfo ≠ 0) (hplaced : FramesPlaced o.info o.vinfo) : Fits info vinfo := by
  have hinside := hplaced.inside
  rw [h.pictureOffset, hprobed.offset_eq, h.fbsize, h.frameSize_toNat] at hinside
  have hone : frameBytes vinfo ≤ o.vinfo.numFrames.toNat * frameBytes vinfo :=
    Nat.le_mul_of_pos_left _ hplaced.granted
  have hfb := hprobed.fbsize_le
  have hrows := hplaced.rows
  rw [h.frameSize_toNat, h.src, h.rowBytes] at hrows
  obtain ⟨hrow, heq⟩ := paddedRow_lt_of_rows hne (by omega) hrows
  exact ⟨hrow, by omega⟩

/-- Frames that fit are placed. -/
theorem Accepted.placed_of_fits (h : Accepted info vinfo o) (hprobed : Probed info)
    (hne : frameBytes vinfo ≠ 0) (hfits : Fits info vinfo) : FramesPlaced o.info o.vinfo := by
  have heq := frameBytes_of_fits hprobed hfits
  have hroom := hfits.room
  rw [← heq] at hroom
  have hnum := h.numFrames_toNat hprobed (by omega)
  have hone : 1 ≤ (info.fbsize.toNat - desktopBytes info) / frameBytes vinfo := by
    rw [Nat.one_le_div_iff (Nat.pos_of_ne_zero hne)]
    omega
  have hmul : o.vinfo.numFrames.toNat * frameBytes vinfo ≤
      info.fbsize.toNat - desktopBytes info :=
    (Nat.mul_le_mul_right _ (by rw [hnum]; exact Nat.min_le_left _ _)).trans
      (Nat.div_mul_le_self _ _)
  refine ⟨by omega, ?_, ?_, ?_⟩
  · rw [h.desktop, h.pictureOffset, hprobed.offset_eq]
  · rw [h.pictureOffset, hprobed.offset_eq, h.fbsize, h.frameSize_toNat]
    omega
  · rw [h.frameSize_toNat, heq, h.src, h.rowBytes, Nat.mul_comm (paddedRow vinfo)]
    exact Nat.mul_le_mul_left _ (rowBytes_le_paddedRow vinfo)

/-- **A configuration that succeeds has placed its frames iff they fit.** -/
theorem framesPlaced_iff (hprobed : Probed info) (vinfo : VidixPlayback) (base : UInt64)
    (answer : Answer) :
    (∀ o, configFrames info vinfo base answer = some o → o.ret = 0 →
        FramesPlaced o.info o.vinfo) ↔
      (frameBytes vinfo ≠ 0 → ¬ Rejected info vinfo → Fits info vinfo) := by
  by_cases hreject : Rejected info vinfo
  · obtain ⟨o, ho, hret⟩ := configFrames_of_rejected base hprobed hreject answer
    refine iff_of_true (fun o' ho' hret' => ?_) fun _ h => absurd hreject h
    rw [ho] at ho'
    obtain rfl := Option.some.inj ho'
    rw [hret] at hret'
    exact absurd hret' (by decide)
  · by_cases hne : frameBytes vinfo = 0
    · rw [configFrames_of_empty base hprobed hreject hne]
      exact iff_of_true (fun _ h => by cases h) fun h => absurd hne h
    · obtain ⟨o, ho, haccepted⟩ := configFrames_of_accepted base hprobed hreject hne answer
      constructor
      · exact fun h _ _ => haccepted.fits_of_placed hprobed hne (h o ho haccepted.ret)
      · intro h o' ho' _
        rw [ho] at ho'
        obtain rfl := Option.some.inj ho'
        exact haccepted.placed_of_fits hprobed hne (h hne hreject)

end Vidix.Savage
