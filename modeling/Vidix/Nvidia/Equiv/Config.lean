import Vidix.Nvidia.Basic
import Vidix.Util.Word

/-!
# Frame placement of the nvidia driver

The frames are at the end of the memory, in an area whose size depends on the chip.  On a card with
less memory than the area has, the subtraction that places it wraps.  The number of frames that fit
is kept by the driver as it is, but the application is granted three of them at most.  So the frames
are placed as they should be iff the area is inside the memory and has room for one frame and not
for four: `frames_in_area_iff`.
-/

namespace Vidix.Nvidia

open Util

/-! ### The memory -/

theorem fbsizeOf_lt (arch : Arch) (card : Card) : (fbsizeOf arch card).toNat < 2 ^ 32 := by
  have hword : ∀ x : UInt32, x.toUInt64.toNat < 2 ^ 32 := fun x => by
    rw [UInt32.toNat_toUInt64]
    exact x.toNat_lt
  cases arch with
  | nv03 =>
    unfold fbsizeOf rivatvFbsizeNv03
    dsimp only
    split_ifs
    · exact hword _
    all_goals decide
  | nv04 =>
    unfold fbsizeOf rivatvFbsizeNv04
    dsimp only
    split_ifs
    · exact hword _
    all_goals decide
  | nv10 => exact hword _
  | nv20 => exact hword _
  | nv30 => exact hword _

/-- `picture_offset`, with its subtractions done over the integers. -/
def pictureOffsetInt (arch : Arch) (fbsize : ℕ) : ℤ :=
  match arch with
  | .nv03 => if 4194304 < fbsize then 6291456 else 3145728
  | .nv04 | .nv10 | .nv20 | .nv30 =>
    if 16777216 < fbsize then (fbsize : ℤ) - 16384000 else (fbsize : ℤ) - 8192000

/-- The subtraction does not wrap as long as its result is not negative. -/
theorem pictureOffsetOf_toNat {arch : Arch} {fbsize : UInt64}
    (hnonneg : 0 ≤ pictureOffsetInt arch fbsize.toNat) :
    ((pictureOffsetOf arch fbsize).toNat : ℤ) = pictureOffsetInt arch fbsize.toNat := by
  have hlt : fbsize.toNat < 2 ^ 64 := fbsize.toNat_lt
  have hbes : nv04BesSize.toNat = 8192000 := rfl
  cases arch with
  | nv03 =>
    unfold pictureOffsetOf pictureOffsetInt
    have hiff : fbsize > 4194304 ↔ 4194304 < fbsize.toNat := UInt64.lt_iff_toNat_lt
    simp only [hiff]
    split_ifs <;> rfl
  | nv04 | nv10 | nv20 | nv30 =>
    unfold pictureOffsetOf
    unfold pictureOffsetInt at hnonneg ⊢
    have hiff : fbsize > 16 * 1024 * 1024 ↔ 16777216 < fbsize.toNat := UInt64.lt_iff_toNat_lt
    simp only [hiff] at hnonneg ⊢
    split_ifs at hnonneg ⊢ with hlarge
    · rw [UInt64.toNat_sub, UInt64.toNat_sub, hbes]
      omega
    · rw [UInt64.toNat_sub, hbes]
      omega

/-! ### The frames -/

/-- The bytes of a frame, which the driver keeps in 32 bits. -/
def frameBytes (src : VidixRect) : ℕ :=
  (src.w.toNat * 2 % 2 ^ 32 + 63) % 2 ^ 32 / 64 * 64 * src.h.toNat % 2 ^ 32

theorem pitchOf_toNat (width : UInt32) :
    (pitchOf width).toNat = (width.toNat * 2 % 2 ^ 32 + 63) % 2 ^ 32 / 64 * 64 := by
  unfold pitchOf
  rw [toNat_and_not_mask (k := 6) rfl (by decide), UInt32.toNat_add,
    toNat_shiftLeft_of_lt (n := 1) _ rfl (by decide)]
  rfl

theorem frameSize_toNat (src : VidixRect) : (pitchOf src.w * src.h).toNat = frameBytes src := by
  rw [UInt32.toNat_mul, pitchOf_toNat]
  rfl

/-- One frame is granted at least, the driver has the same number as the application, and the frames
are inside the memory. -/
structure FramesPlaced (info : RivatvInfo) (vinfo : VidixPlayback) : Prop where
  granted : 1 ≤ vinfo.numFrames.toNat
  agree : info.numFrames = vinfo.numFrames
  offset_nonneg : 0 ≤ pictureOffsetInt info.arch info.fbsize.toNat
  inside : pictureOffsetInt info.arch info.fbsize.toNat +
    vinfo.numFrames.toNat * vinfo.frameSize.toNat ≤ info.fbsize.toNat

/-- The area for the frames is inside the memory, and has room for one to three frames of `frame`
bytes. -/
structure FitsArea (arch : Arch) (fbsize frame : ℕ) : Prop where
  offset_nonneg : 0 ≤ pictureOffsetInt arch fbsize
  one : pictureOffsetInt arch fbsize + frame ≤ fbsize
  not_four : fbsize < pictureOffsetInt arch fbsize + 4 * frame

/-- The number of frames as the driver computes it, when the area is inside the memory. -/
theorem numFrames_toNat {arch : Arch} {fbsize : UInt64} (frameSize : UInt32)
    (hlt : fbsize.toNat < 2 ^ 32) (hnonneg : 0 ≤ pictureOffsetInt arch fbsize.toNat)
    (hle : pictureOffsetInt arch fbsize.toNat ≤ fbsize.toNat) :
    (((fbsize - pictureOffsetOf arch fbsize) / frameSize.toUInt64).toUInt32).toNat =
      (fbsize.toNat - (pictureOffsetInt arch fbsize.toNat).toNat) / frameSize.toNat := by
  have hoff := pictureOffsetOf_toNat hnonneg
  have hsub : (fbsize - pictureOffsetOf arch fbsize).toNat =
      fbsize.toNat - (pictureOffsetInt arch fbsize.toNat).toNat := by
    rw [UInt64.toNat_sub]
    omega
  rw [UInt64.toNat_toUInt32, UInt64.toNat_div, hsub, UInt32.toNat_toUInt64]
  refine Nat.mod_eq_of_lt (lt_of_le_of_lt (Nat.div_le_self _ _) ?_)
  omega

theorem granted_toNat (num : UInt32) :
    (if num > maxFrames then maxFrames else num).toNat = min num.toNat 3 := by
  have hmax : maxFrames.toNat = 3 := rfl
  split_ifs with h
  · have hlt := UInt32.lt_iff_toNat_lt.mp h
    omega
  · have hle := UInt32.lt_iff_toNat_lt.not.mp h
    omega

/-- **The frames of a configuration.** -/
theorem framesPlaced_iff (info : RivatvInfo) (vinfo : VidixPlayback) {num : UInt32}
    (hlt : info.fbsize.toNat < 2 ^ 32) (hpos : vinfo.frameSize.toNat ≠ 0)
    (hinfo : info.numFrames = num)
    (hgranted : vinfo.numFrames = if num > maxFrames then maxFrames else num)
    (hnum : num = ((info.fbsize - pictureOffsetOf info.arch info.fbsize) /
      vinfo.frameSize.toUInt64).toUInt32) :
    FramesPlaced info vinfo ↔ FitsArea info.arch info.fbsize.toNat vinfo.frameSize.toNat := by
  have hmin : vinfo.numFrames.toNat = min num.toNat 3 := by rw [hgranted, granted_toNat]
  have hagree : info.numFrames = vinfo.numFrames ↔ num.toNat ≤ 3 := by
    rw [hinfo, ← UInt32.toNat_inj, hmin]
    omega
  constructor
  · intro h
    have hle : pictureOffsetInt info.arch info.fbsize.toNat ≤ info.fbsize.toNat := by
      have := h.inside
      have hnonneg : (0 : ℤ) ≤ (vinfo.numFrames.toNat : ℤ) * vinfo.frameSize.toNat := by positivity
      omega
    have hcount := numFrames_toNat vinfo.frameSize hlt h.offset_nonneg hle
    rw [← hnum] at hcount
    have hone : 1 ≤ num.toNat := by have := h.granted; omega
    have hfour : num.toNat < 4 := Nat.lt_succ_of_le (hagree.mp h.agree)
    rw [hcount] at hone hfour
    rw [Nat.one_le_div_iff (Nat.pos_of_ne_zero hpos)] at hone
    rw [Nat.div_lt_iff_lt_mul (Nat.pos_of_ne_zero hpos)] at hfour
    have hnonneg := h.offset_nonneg
    exact ⟨hnonneg, by omega, by omega⟩
  · rintro ⟨hnonneg, hone, hfour⟩
    have hle : pictureOffsetInt info.arch info.fbsize.toNat ≤ info.fbsize.toNat := by omega
    have hcount := numFrames_toNat vinfo.frameSize hlt hnonneg hle
    rw [← hnum] at hcount
    have hpos' := Nat.pos_of_ne_zero hpos
    have hone' : 1 ≤ num.toNat := by
      rw [hcount, Nat.one_le_div_iff hpos']
      omega
    have hfour' : num.toNat < 4 := by
      rw [hcount, Nat.div_lt_iff_lt_mul hpos']
      omega
    have hmul : num.toNat * vinfo.frameSize.toNat ≤
        info.fbsize.toNat - (pictureOffsetInt info.arch info.fbsize.toNat).toNat := by
      rw [hcount]
      exact Nat.div_mul_le_self _ _
    have hsame : vinfo.numFrames.toNat = num.toNat := by omega
    refine ⟨by omega, hagree.mpr (by omega), hnonneg, ?_⟩
    rw [hsame]
    have hmul' := Int.ofNat_le.mpr hmul
    push_cast at hmul'
    omega

/-! ### Configuring playback -/

variable {info : RivatvInfo} {vinfo : VidixPlayback}

theorem vixConfigPlayback_of_unsupported (hfourcc : ¬ isSupportedFourcc vinfo.fourcc) :
    vixConfigPlayback info vinfo = some (enosys, info, vinfo) := by
  unfold vixConfigPlayback
  rw [Bool.eq_false_of_not_eq_true hfourcc, Bool.not_false, if_pos rfl]

/-- A frame without bytes is divided by. -/
theorem vixConfigPlayback_of_empty (hfourcc : isSupportedFourcc vinfo.fourcc)
    (hzero : frameBytes vinfo.src = 0) : vixConfigPlayback info vinfo = none := by
  have hsize : pitchOf vinfo.src.w * vinfo.src.h = 0 :=
    UInt32.toNat_inj.mp ((frameSize_toNat vinfo.src).trans hzero)
  unfold vixConfigPlayback
  rw [hfourcc, Bool.not_true, if_neg Bool.false_ne_true]
  dsimp only
  rw [if_pos hsize]

theorem vixConfigPlayback_of_supported (info : RivatvInfo)
    (hfourcc : isSupportedFourcc vinfo.fourcc)
    (hne : frameBytes vinfo.src ≠ 0) :
    ∃ info' vinfo', vixConfigPlayback info vinfo = some (0, info', vinfo') ∧
      info'.arch = info.arch ∧ info'.fbsize = info.fbsize ∧
      vinfo'.frameSize.toNat = frameBytes vinfo.src ∧
      info'.numFrames =
        ((info.fbsize - info.pictureOffset) / vinfo'.frameSize.toUInt64).toUInt32 ∧
      vinfo'.numFrames = if info'.numFrames > maxFrames then maxFrames else info'.numFrames := by
  have hsize : pitchOf vinfo.src.w * vinfo.src.h ≠ 0 := by
    intro h
    rw [← frameSize_toNat, h] at hne
    exact hne rfl
  unfold vixConfigPlayback
  rw [hfourcc, Bool.not_true, if_neg Bool.false_ne_true]
  dsimp only
  rw [if_neg hsize]
  exact ⟨_, _, rfl, rfl, rfl, frameSize_toNat vinfo.src, rfl, rfl⟩

/-- The application is told of no frames that the driver does not know. -/
theorem granted_le {info' : RivatvInfo} {vinfo' : VidixPlayback}
    (h : vixConfigPlayback info vinfo = some (0, info', vinfo')) :
    vinfo'.numFrames ≤ info'.numFrames := by
  by_cases hfourcc : isSupportedFourcc vinfo.fourcc = true
  · by_cases hzero : frameBytes vinfo.src = 0
    · rw [vixConfigPlayback_of_empty hfourcc hzero] at h
      cases h
    · obtain ⟨info'', vinfo'', hconfig, -, -, -, -, hgranted⟩ :=
        vixConfigPlayback_of_supported info hfourcc hzero
      obtain ⟨rfl, rfl⟩ : info'' = info' ∧ vinfo'' = vinfo' := by
        simpa using Option.some.inj (hconfig.symm.trans h)
      rw [hgranted, UInt32.le_iff_toNat_le, granted_toNat]
      exact Nat.min_le_left _ _
  · rw [vixConfigPlayback_of_unsupported hfourcc] at h
    have herr : enosys = 0 := congrArg (fun r => r.elim 0 Prod.fst) h
    exact absurd herr (by decide)

/-- **The frames of every configuration that succeeds are placed iff the area has room for one to
three of them.** -/
theorem frames_in_area_iff (arch : Arch) (card : Card) (videoBase : UInt64)
    (pvideo : UInt32 → UInt32) (vinfo : VidixPlayback) :
    (∀ info' vinfo', vixConfigPlayback (vixInit arch card videoBase pvideo) vinfo =
        some (0, info', vinfo') → FramesPlaced info' vinfo') ↔
      (isSupportedFourcc vinfo.fourcc → frameBytes vinfo.src ≠ 0 →
        FitsArea arch (fbsizeOf arch card).toNat (frameBytes vinfo.src)) := by
  by_cases hfourcc : isSupportedFourcc vinfo.fourcc = true
  · by_cases hzero : frameBytes vinfo.src = 0
    · rw [vixConfigPlayback_of_empty hfourcc hzero]
      exact iff_of_true (fun _ _ h => by cases h) fun _ hne => absurd hzero hne
    · obtain ⟨info', vinfo', hconfig, harch, hfbsize, hframe, hnum, hgranted⟩ :=
        vixConfigPlayback_of_supported (vixInit arch card videoBase pvideo) hfourcc hzero
      have hplaced : FramesPlaced info' vinfo' ↔
          FitsArea arch (fbsizeOf arch card).toNat (frameBytes vinfo.src) := by
        have hiff := framesPlaced_iff info' vinfo'
          (by rw [hfbsize]; exact fbsizeOf_lt arch card) (by rwa [hframe]) rfl hgranted
          (by rw [hnum, harch, hfbsize]; rfl)
        rwa [harch, hfbsize, hframe] at hiff
      rw [hconfig]
      constructor
      · intro h _ _
        exact hplaced.mp (h info' vinfo' rfl)
      · intro h info'' vinfo'' heq
        obtain ⟨rfl, rfl⟩ : info' = info'' ∧ vinfo' = vinfo'' := by
          simpa using Option.some.inj heq
        exact hplaced.mpr (h hfourcc hzero)
  · rw [vixConfigPlayback_of_unsupported hfourcc]
    refine iff_of_true (fun _ _ h => ?_) fun h => absurd h hfourcc
    have herr : enosys = 0 := congrArg (fun r => r.elim 0 Prod.fst) h
    exact absurd herr (by decide)

/-- A chip of the NV04 family with the memory that `pfb` tells. -/
def sampleCard (pfb : UInt32) : Card where
  pfb := fun _ => pfb
  pmc := fun _ => 0
  crtc := fun _ => 0
  general := 0

/-- **Small frames on a card of 16 megabytes: the driver keeps 53 as their number. On a card of four
megabytes, the frames begin below the start of the memory.** -/
theorem frames_outside_area :
    (¬ ∀ info' vinfo', vixConfigPlayback (vixInit .nv04 (sampleCard 3) 0 fun _ => 0)
        (samplePlayback 320 240) = some (0, info', vinfo') → FramesPlaced info' vinfo') ∧
      ¬ ∀ info' vinfo', vixConfigPlayback (vixInit .nv04 (sampleCard 1) 0 fun _ => 0)
        (samplePlayback 1024 1024) = some (0, info', vinfo') → FramesPlaced info' vinfo' := by
  constructor
  · intro h
    have hagree := (h _ _ rfl).agree
    revert hagree
    decide
  · intro h
    have hnonneg := (h _ _ rfl).offset_nonneg
    revert hnonneg
    decide

end Vidix.Nvidia
