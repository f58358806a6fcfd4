import Vidix.Sis.Probe
import Vidix.Sis.Equiv.Stride
import Vidix.Equiv.Negotiation
import Vidix.Planes
import Mathlib.Algebra.Order.Ring.Abs

/-!
# Where the frames of the sis driver are

The driver fills the seven megabytes from eight megabytes on with frames, without a look at the
number of frames that it is asked for, and succeeds also when not one of them fits.  Its sizes are
`int`s made of `short`s.  The frames are where they should be iff the picture has a size that is
kept in a `short`, at least one frame fits, and no more than were asked for do (`placed_iff`).
-/

namespace Vidix.Sis

open Util

variable {mem : UInt64} {info info' : VidixPlayback} {overlay : Overlay}

/-! ### The areas of a call that succeeds -/

def pitch (info : VidixPlayback) : Int32 := pitchOf info.fourcc (short info.src.w)

def totalSize (info : VidixPlayback) : Int32 :=
  totalSizeOf info.fourcc (pitch info) (short info.src.h)

/-- `sx` and `sy` for what is cut off of the source. -/
def startX (info : VidixPlayback) (srcOffsetX : Int32) : Int32 :=
  if isPlanar info.fourcc then (short info.src.x + srcOffsetX) &&& ~~~7
  else (short info.src.x + srcOffsetX) &&& ~~~1

def startY (info : VidixPlayback) (srcOffsetY : Int32) : Int32 :=
  if isPlanar info.fourcc then (short info.src.y + srcOffsetY) &&& ~~~1
  else short info.src.y + srcOffsetY

/-- What a call that succeeds has found, and what it leaves. -/
structure Configured (mem : UInt64) (info info' : VidixPlayback) (overlay : Overlay)
    (srcOffsetX srcOffsetY : Int32) : Prop where
  supported : isSupportedFourcc info.fourcc = true
  size_ne_zero : totalSize info * 2 ≠ 0
  valid : (dstBoxOf info.dest).isValid = true
  offsetX : srcOffsetOf (short info.src.w) (short info.dest.w) (dstBoxOf info.dest).x1 =
    some srcOffsetX
  offsetY : srcOffsetOf (short info.src.h) (short info.dest.h) (dstBoxOf info.dest).y1 =
    some srcOffsetY
  request : info' = { laidOut mem (totalSize info) info with
    offset := planeOffsets info.fourcc (pitch info) (short info.src.h)
      (startX info srcOffsetX) (startY info srcOffsetY) }
  overlay : overlay = {
    pixelFormat := info.fourcc
    pitch := (pitch info).toUInt32.toUInt16, origPitch := (pitch info).toUInt32.toUInt16
    dstBox := { dstBoxOf info.dest with
      x1 := if (dstBoxOf info.dest).x1 < 0 then 0 else (dstBoxOf info.dest).x1
      y1 := if (dstBoxOf info.dest).y1 < 0 then 0 else (dstBoxOf info.dest).y1 }
    srcW := (short info.src.w - (startX info srcOffsetX - short info.src.x)).toUInt32.toUInt16
    srcH := (short info.src.h - (startY info srcOffsetY - short info.src.y)).toUInt32.toUInt16
    frames := info'.offsets.map fun o => dgaOffset + o.toInt32 }

theorem laidOut_fourcc (size : Int32) : (laidOut mem size info).fourcc = info.fourcc := rfl

/-- **A call that succeeds.** -/
theorem configured (h : vixConfigPlayback mem info = some (0, info', some overlay)) :
    ∃ srcOffsetX srcOffsetY, Configured mem info info' overlay srcOffsetX srcOffsetY := by
  have hne : ∀ i : VidixPlayback, some ((-1 : ℤ), i, (none : Option Overlay)) ≠
      some (0, info', some overlay) := by
    intro i heq
    have herr : (-1 : ℤ) = 0 := congrArg (fun r => r.elim 0 Prod.fst) heq
    exact absurd herr (by decide)
  unfold vixConfigPlayback at h
  dsimp only at h
  split at h
  · exact absurd h (hne _)
  · rename_i hsupported
    split at h
    · cases h
    · rename_i hsize
      split at h
      · exact absurd h (hne _)
      · rename_i hvalid
        obtain ⟨srcOffsetX, hx, h⟩ := Option.bind_eq_some_iff.mp h
        obtain ⟨srcOffsetY, hy, h⟩ := Option.bind_eq_some_iff.mp h
        simp only [Option.some.injEq, Prod.mk.injEq, true_and] at h
        obtain ⟨rfl, rfl⟩ := h
        refine ⟨srcOffsetX, srcOffsetY, by simpa using hsupported, hsize,
          (Bool.not_eq_false _).mp fun hno => hvalid (congrArg (!·) hno), hx, hy, ?_, ?_⟩
        all_goals cases hplanar : isPlanar info.fourcc
        all_goals simp only [startX, startY, laidOut_fourcc, hplanar]
        all_goals rfl

/-! ### A window inside the screen -/

/-- The destination lies in a screen of `width` by `height` pixels. -/
def InsideScreen (width height : UInt32) (dest : VidixRect) : Prop :=
  dest.x.toNat + dest.w.toNat ≤ width.toNat ∧ dest.y.toNat + dest.h.toNat ≤ height.toNat

instance (width height : UInt32) (dest : VidixRect) :
    Decidable (InsideScreen width height dest) :=
  inferInstanceAs (Decidable (_ ∧ _))

/-- Some bits of a register, moved up. -/
theorem field_lt (b : UInt8) {mask : UInt32} {k m : ℕ} (hmask : mask.toNat * 2 ^ k < 2 ^ m)
    (hk : k < 32) (hm : m ≤ 32) :
    ((b.toUInt32 &&& mask) <<< UInt32.ofNat k).toNat < 2 ^ m := by
  have hand : (b.toUInt32 &&& mask).toNat ≤ mask.toNat := by
    rw [UInt32.toNat_and]
    exact Nat.and_le_right
  have hmul : (b.toUInt32 &&& mask).toNat * 2 ^ k ≤ mask.toNat * 2 ^ k :=
    Nat.mul_le_mul_right _ hand
  have hpow : 2 ^ m ≤ 2 ^ 32 := Nat.pow_le_pow_right (by decide) hm
  have hshift : (UInt32.ofNat k).toNat = k := by
    rw [UInt32.toNat_ofNat']
    exact Nat.mod_eq_of_lt (by omega)
  rw [toNat_shiftLeft_of_lt _ hshift hk, Nat.mod_eq_of_lt (by omega)]
  omega

theorem screenWidthOf_le (cr sr : UInt8 → UInt8) : (screenWidthOf cr sr).toNat ≤ 2 ^ 13 := by
  have hlow : (cr 0x01).toUInt32.toNat < 2 ^ 10 := by
    rw [UInt8.toNat_toUInt32]
    exact (cr 0x01).toNat_lt.trans (by decide)
  have hhigh : (((sr 0x0b).toUInt32 &&& 0x0C) <<< 6).toNat < 2 ^ 10 :=
    field_lt (k := 6) _ (by decide) (by decide) (by decide)
  have hor := Nat.or_lt_two_pow hlow hhigh
  rw [← UInt32.toNat_or] at hor
  have hmul : _ ≤ _ * 8 :=
    toNat_mul_le (((cr 0x01).toUInt32 ||| ((sr 0x0b).toUInt32 &&& 0x0C) <<< 6) + 1) 8
  have hadd := toNat_add_le ((cr 0x01).toUInt32 ||| ((sr 0x0b).toUInt32 &&& 0x0C) <<< 6) 1
  have hone : (1 : UInt32).toNat = 1 := rfl
  unfold screenWidthOf
  omega

theorem screenHeightOf_le (cr : UInt8 → UInt8) : (screenHeightOf cr).toNat ≤ 2 ^ 11 := by
  have hlow : (cr 0x12).toUInt32.toNat < 2 ^ 11 := by
    rw [UInt8.toNat_toUInt32]
    exact (cr 0x12).toNat_lt.trans (by decide)
  have hmiddle : (((cr 0x07).toUInt32 &&& 0x02) <<< 7).toNat < 2 ^ 11 :=
    field_lt (k := 7) _ (by decide) (by decide) (by decide)
  have hhigh : (((cr 0x07).toUInt32 &&& 0x40) <<< 3).toNat < 2 ^ 11 :=
    field_lt (k := 3) _ (by decide) (by decide) (by decide)
  have hover : (((cr 0x12).toUInt32 &&& 0x02) <<< 9).toNat < 2 ^ 11 :=
    field_lt (k := 9) _ (by decide) (by decide) (by decide)
  have hor := Nat.or_lt_two_pow (Nat.or_lt_two_pow (Nat.or_lt_two_pow hlow hmiddle) hhigh) hover
  rw [← UInt32.toNat_or, ← UInt32.toNat_or, ← UInt32.toNat_or] at hor
  have hone : (1 : UInt32).toNat = 1 := rfl
  unfold screenHeightOf
  exact (toNat_add_le _ _).trans (by omega)

/-- A coordinate on a screen is not negative as a `short`. -/
theorem not_neg_of_lt {x : UInt32} (hx : x.toNat < 2 ^ 15) : ¬ x.toUInt16.toInt16 < 0 := by
  have hshort := short_toInt x
  unfold short at hshort
  rw [Int16.toInt_toInt32] at hshort
  rw [Int16.lt_iff_toInt_lt]
  show ¬ x.toUInt16.toInt16.toInt < 0
  split_ifs at hshort <;> omega

/-- **Nothing is cut off of the source.** -/
theorem Configured.uncut {srcOffsetX srcOffsetY : Int32}
    (hc : Configured mem info info' overlay srcOffsetX srcOffsetY) {cr sr : UInt8 → UInt8}
    (hin : InsideScreen (screenWidthOf cr sr) (screenHeightOf cr) info.dest) :
    srcOffsetX = 0 ∧ srcOffsetY = 0 := by
  have hwidth := screenWidthOf_le cr sr
  have hheight := screenHeightOf_le cr
  obtain ⟨hx, hy⟩ := hin
  have hoffsetX := hc.offsetX
  have hoffsetY := hc.offsetY
  unfold srcOffsetOf at hoffsetX hoffsetY
  have hleft : ¬ (dstBoxOf info.dest).x1 < 0 := not_neg_of_lt (by omega)
  have htop : ¬ (dstBoxOf info.dest).y1 < 0 := not_neg_of_lt (by omega)
  rw [if_neg hleft] at hoffsetX
  rw [if_neg htop] at hoffsetY
  exact ⟨(Option.some.inj hoffsetX).symm, (Option.some.inj hoffsetY).symm⟩

/-! ### The sizes -/

/-- The bytes of a row of the first plane, padded. -/
def rowStride (info : VidixPlayback) : ℕ :=
  if isPlanar info.fourcc then lumaPitch info.src.w.toNat 8 else lumaPitch (info.src.w.toNat * 2) 4

/-- The bytes of the first plane. -/
def lumaBytes (info : VidixPlayback) : ℕ := rowStride info * info.src.h.toNat

/-- The bytes of a frame: twice those of a picture. -/
def frameBytes (info : VidixPlayback) : ℕ :=
  if isPlanar info.fourcc then 3 * lumaBytes info else 2 * lumaBytes info

theorem pitch_toInt (info : VidixPlayback) :
    (pitch info).toInt = if isPlanar info.fourcc then roundUp (short info.src.w).toInt 8
      else roundUp ((short info.src.w).toInt * 2) 4 := sizeStride_eq info

/-- The pitch is the length of a row, or much too short for it. -/
theorem pitch_cases (info : VidixPlayback) :
    (-(rowStride info : ℤ) ≤ (pitch info).toInt ∧ (pitch info).toInt ≤ rowStride info) ∧
      (info.src.w.toNat < 2 ^ 15 ∧ (pitch info).toInt = rowStride info ∨
        2 ^ 15 ≤ info.src.w.toNat ∧ 2 ^ 15 ≤ rowStride info ∧
          2 * (pitch info).toInt < rowStride info) := by
  have hpitch := pitch_toInt info
  have hshort := short_toInt info.src.w
  unfold rowStride lumaPitch
  unfold roundUp at hpitch
  split_ifs at hpitch hshort ⊢ <;> omega

theorem height_cases (info : VidixPlayback) :
    (-(info.src.h.toNat : ℤ) ≤ (short info.src.h).toInt ∧
        (short info.src.h).toInt ≤ info.src.h.toNat) ∧
      (info.src.h.toNat < 2 ^ 15 ∧ (short info.src.h).toInt = info.src.h.toNat ∨
        2 ^ 15 ≤ info.src.h.toNat ∧ 2 * (short info.src.h).toInt < info.src.h.toNat) := by
  have hshort := short_toInt info.src.h
  split_ifs at hshort <;> omega

theorem rowStride_pos (hw : 0 < info.src.w.toNat) : 0 < rowStride info := by
  unfold rowStride
  split_ifs
  · exact hw.trans_le (le_lumaPitch (by decide))
  · exact (Nat.mul_pos hw (by decide)).trans_le (le_lumaPitch (by decide))

/-- The product of two numbers of which one may be much too small for its word. -/
theorem mul_abs_le {a b x y : ℤ} (hx : -a ≤ x ∧ x ≤ a) (hy : -b ≤ y ∧ y ≤ b) :
    -(a * b) ≤ x * y ∧ x * y ≤ a * b := by
  have habs : |x * y| ≤ a * b := by
    rw [abs_mul]
    exact mul_le_mul (abs_le.mpr hx) (abs_le.mpr hy) (abs_nonneg y) ((abs_nonneg x).trans
      (abs_le.mpr hx))
  exact abs_le.mp habs

/-- **The sizes are those of the picture when the first plane is as long as it should be.** -/
theorem small_of_luma_le (hw : 0 < info.src.w.toNat) (hh : 0 < info.src.h.toNat)
    (hlt : lumaBytes info < 2 ^ 30)
    (hle : (lumaBytes info : ℤ) ≤ 2 * ((pitch info).toInt * (short info.src.h).toInt)) :
    info.src.w.toNat < 2 ^ 15 ∧ info.src.h.toNat < 2 ^ 15 := by
  have hrow : (0 : ℤ) < rowStride info := by exact_mod_cast rowStride_pos hw
  have hlines : (0 : ℤ) < info.src.h.toNat := by exact_mod_cast hh
  have hlt' : (rowStride info : ℤ) * info.src.h.toNat < 2 ^ 30 := by exact_mod_cast hlt
  have hle' : (rowStride info : ℤ) * info.src.h.toNat ≤
      2 * ((pitch info).toInt * (short info.src.h).toInt) := by exact_mod_cast hle
  obtain ⟨-, ⟨hw', hp⟩ | ⟨-, hrow', hp⟩⟩ := pitch_cases info
  all_goals obtain ⟨-, ⟨hh', hs⟩ | ⟨hlines', hs⟩⟩ := height_cases info
  · exact ⟨hw', hh'⟩
  · rw [hp] at hle'
    have hmul := mul_lt_mul_of_pos_left hs hrow
    linarith
  · rw [hs] at hle'
    have hmul := mul_lt_mul_of_pos_right hp hlines
    linarith
  · have hmul : (2 : ℤ) ^ 15 * 2 ^ 15 ≤ rowStride info * info.src.h.toNat :=
      mul_le_mul (by exact_mod_cast hrow') (by exact_mod_cast hlines') (by decide) hrow.le
    linarith

/-- What is written to `frame_size`, before it is cut to a word. -/
def frameValue (info : VidixPlayback) : ℤ :=
  if isPlanar info.fourcc then 3 * ((pitch info).toInt * (short info.src.h).toInt)
  else 2 * ((pitch info).toInt * (short info.src.h).toInt)

theorem totalSize_modEq (info : VidixPlayback) :
    (totalSize info * 2).toInt ≡ frameValue info [ZMOD 2 ^ 32] := by
  have hmul : (pitch info * short info.src.h).toInt ≡
      (pitch info).toInt * (short info.src.h).toInt [ZMOD 2 ^ 32] := toInt_mul_modEq rfl rfl
  unfold totalSize totalSizeOf frameValue
  split_ifs with hplanar
  · -- nothing is lost by the shift, since the pitch is even
    have hthree : (pitch info * short info.src.h * 3).toInt ≡
        (pitch info).toInt * (short info.src.h).toInt * 3 [ZMOD 2 ^ 32] := toInt_mul_modEq hmul rfl
    have hpitch := pitch_toInt info
    rw [if_pos hplanar] at hpitch
    have heven : (2 : ℤ) ∣ (pitch info).toInt * (short info.src.h).toInt * 3 := by
      refine Dvd.dvd.mul_right (Dvd.dvd.mul_right ?_ _) _
      rw [hpitch]
      exact Dvd.dvd.mul_left (by decide) _
    have heven' : (2 : ℤ) ∣ (pitch info * short info.src.h * 3).toInt :=
      (hthree.of_dvd (by decide)).dvd_iff.mpr heven
    have hhalf : ((pitch info * short info.src.h * 3) >>> 1 * 2).toInt ≡
        (pitch info * short info.src.h * 3).toInt / 2 * 2 [ZMOD 2 ^ 32] :=
      toInt_mul_modEq (by rw [toInt_shiftRight_one]) rfl
    rw [Int.ediv_mul_cancel heven'] at hhalf
    rw [mul_comm 3]
    exact hhalf.trans hthree
  · rw [mul_comm (2 : ℤ)]
    exact toInt_mul_modEq hmul rfl

/-! ### The frames -/

/-- The bytes that the driver has for frames. -/
def areaBytes : ℕ := 0x700000

/-- The planes of a picture at the offsets that the application is told. -/
def planes (info : VidixPlayback) (offset : VidixYuv) : List Region :=
  if isPlanar info.fourcc then
    [⟨offset.y.toNat, lumaBytes info⟩, ⟨offset.u.toNat, lumaBytes info / 4⟩,
      ⟨offset.v.toNat, lumaBytes info / 4⟩]
  else [⟨offset.y.toNat, lumaBytes info⟩]

/-- One frame is granted at least, and no more than were asked for; the frames lie in the seven
megabytes and do not overlap, and each has room for its planes, which do not overlap either. -/
structure Placed (info info' : VidixPlayback) (frames : List Int32) : Prop where
  one : 1 ≤ info'.numFrames.toNat
  asked : info'.numFrames.toNat ≤ info.numFrames.toNat
  inside : ∀ i < info'.numFrames.toNat, ∃ f, frames[i]? = some f ∧ 0x800000 ≤ f.toInt ∧
    f.toInt + info'.frameSize.toNat ≤ 0x800000 + areaBytes
  disjoint : ∀ i j fi fj, i < j → j < info'.numFrames.toNat → frames[i]? = some fi →
    frames[j]? = some fj →
      fi.toInt + info'.frameSize.toNat ≤ fj.toInt ∨ fj.toInt + info'.frameSize.toNat ≤ fi.toInt
  planes : PackedIn info'.frameSize.toNat (planes info info'.offset)

/-- The size of the picture is kept in two `short`s, one frame fits, and no more than the frames
asked for do. -/
structure FramesFit (info : VidixPlayback) : Prop where
  width : info.src.w.toNat < 2 ^ 15
  height : info.src.h.toNat < 2 ^ 15
  fits : frameBytes info ≤ areaBytes
  asked : min (areaBytes / frameBytes info) 1024 ≤ info.numFrames.toNat

/-- The offsets of a picture that is shown from its first pixel on. -/
theorem planeOffsets_zero (fourcc : UInt32) (pitch srcH : Int32) :
    planeOffsets fourcc pitch srcH 0 0 =
      if fourcc == imgfmtYV12 then
        ⟨0, (srcH * pitch).toUInt32, (srcH * pitch * 5 / 4).toUInt32⟩
      else if fourcc == imgfmtI420 then
        ⟨0, (srcH * pitch * 5 / 4).toUInt32, (srcH * pitch).toUInt32⟩
      else ⟨0, 0, 0⟩ := by
  have hchroma : (0 + 0 / 2 : Int32) >>> (1 : Int32) = 0 := rfl
  unfold planeOffsets
  simp only [Int32.zero_mul, hchroma, Int32.add_zero]
  rfl

/-- The two chroma planes may stand in either order. -/
theorem packedIn_planes_iff {n : ℕ} (hplanar : isPlanar info.fourcc = true) :
    PackedIn n (planes info (planeOffsets info.fourcc (pitch info) (short info.src.h) 0 0)) ↔
      PackedIn n [⟨0, lumaBytes info⟩,
        ⟨(short info.src.h * pitch info).toUInt32.toNat, lumaBytes info / 4⟩,
        ⟨(short info.src.h * pitch info * 5 / 4).toUInt32.toNat, lumaBytes info / 4⟩] := by
  unfold planes
  rw [if_pos hplanar, planeOffsets_zero]
  split_ifs with hyv12 hi420
  · rfl
  · exact packedIn_perm_iff ((List.Perm.swap _ _ _).cons _)
  · unfold isPlanar at hplanar
    simp [hyv12, hi420] at hplanar

theorem packedIn_planes_packed_iff {n : ℕ} (hpacked : isPlanar info.fourcc = false) :
    PackedIn n (planes info (planeOffsets info.fourcc (pitch info) (short info.src.h) 0 0)) ↔
      PackedIn n [⟨0, lumaBytes info⟩] := by
  unfold isPlanar at hpacked
  obtain ⟨hyv12, hi420⟩ := Bool.or_eq_false_iff.mp hpacked
  unfold planes isPlanar
  rw [hpacked, planeOffsets_zero, hyv12, hi420]
  rfl

/-- What a picture that is shown from its first pixel on is told. -/
theorem Configured.offset_eq {srcOffsetX srcOffsetY : Int32}
    (hc : Configured mem info info' overlay srcOffsetX srcOffsetY) (hx : info.src.x = 0)
    (hy : info.src.y = 0) (hcut : srcOffsetX = 0 ∧ srcOffsetY = 0) :
    info'.offset = planeOffsets info.fourcc (pitch info) (short info.src.h) 0 0 := by
  obtain ⟨rfl, rfl⟩ := hcut
  have hstart : startX info 0 = 0 ∧ startY info 0 = 0 := by
    unfold startX startY
    rw [hx, hy]
    split_ifs <;> exact ⟨rfl, rfl⟩
  rw [hc.request, hstart.1, hstart.2]

/-! ### The law -/

section Law

variable {srcOffsetX srcOffsetY : Int32}

theorem Configured.frameSize_toNat
    (hc : Configured mem info info' overlay srcOffsetX srcOffsetY) :
    (info'.frameSize.toNat : ℤ) = frameValue info % 2 ^ 32 := by
  have hsize : info'.frameSize = (totalSize info * 2).toUInt32 := congrArg (·.frameSize) hc.request
  rw [hsize, toNat_toUInt32]
  exact totalSize_modEq info

/-- The first plane is in the first frame. -/
theorem lumaBytes_le {n : ℕ} {offset : VidixYuv} (hpos : 0 < lumaBytes info)
    (h : PackedIn n (planes info offset)) : lumaBytes info ≤ n := by
  have hmem : ⟨offset.y.toNat, lumaBytes info⟩ ∈ planes info offset := by
    unfold planes
    split_ifs <;> exact List.mem_cons_self
  rcases Region.bytes_subset_Iio_iff.mp (h.inside _ hmem) with hzero | hle
  · exact absurd hzero hpos.ne'
  · exact (Nat.le_add_left _ _).trans hle

/-- A picture whose planes are where they should be has the size that the driver took it for. -/
theorem Configured.small (hc : Configured mem info info' overlay srcOffsetX srcOffsetY)
    (hw : 0 < info.src.w.toNat) (hh : 0 < info.src.h.toNat)
    (hoffset : info'.offset = planeOffsets info.fourcc (pitch info) (short info.src.h) 0 0)
    (harea : info'.frameSize.toNat ≤ areaBytes)
    (hplanes : PackedIn info'.frameSize.toNat (planes info info'.offset)) :
    info.src.w.toNat < 2 ^ 15 ∧ info.src.h.toNat < 2 ^ 15 := by
  have hpos : 0 < lumaBytes info := Nat.mul_pos (rowStride_pos hw) hh
  have hluma := lumaBytes_le hpos hplanes
  have hcast : (lumaBytes info : ℤ) = rowStride info * info.src.h.toNat := by
    unfold lumaBytes
    push_cast
    rfl
  -- nothing wraps, since the pitch and the height are no larger than those of the picture
  have habs := mul_abs_le (pitch_cases info).1 (height_cases info).1
  rw [← hcast] at habs
  have hsize := hc.frameSize_toNat
  unfold areaBytes at harea
  unfold frameValue at hsize
  refine small_of_luma_le hw hh (by omega) ?_
  rw [hoffset] at hplanes
  cases hplanar : isPlanar info.fourcc with
  | false =>
    rw [if_neg (by simp [hplanar])] at hsize
    omega
  | true =>
    rw [if_pos hplanar] at hsize
    have hstride : 8 ∣ rowStride info := by
      unfold rowStride
      rw [if_pos hplanar]
      exact dvd_lumaPitch _ _
    have height : 8 ≤ lumaBytes info :=
      Nat.le_of_dvd hpos (Dvd.dvd.mul_right hstride _)
    have hfirst : ((short info.src.h * pitch info).toUInt32.toNat : ℤ) =
        (pitch info).toInt * (short info.src.h).toInt % 2 ^ 32 := by
      rw [toNat_toUInt32, mul_comm (pitch info).toInt]
      exact toInt_mul_modEq rfl rfl
    have hthree := packedIn_three_iff.mp ((packedIn_planes_iff hplanar).mp hplanes)
    omega

/-- The values of a picture that is kept in two `short`s. -/
theorem frameValue_eq (hw : info.src.w.toNat < 2 ^ 15) (hh : info.src.h.toNat < 2 ^ 15) :
    (pitch info).toInt * (short info.src.h).toInt = lumaBytes info ∧
      frameValue info = frameBytes info := by
  have hpitch : (pitch info).toInt = rowStride info := by
    rcases (pitch_cases info).2 with ⟨-, h⟩ | ⟨hge, -⟩
    · exact h
    · omega
  have hheight : (short info.src.h).toInt = info.src.h.toNat := by
    rcases (height_cases info).2 with ⟨-, h⟩ | ⟨hge, -⟩
    · exact h
    · omega
  have hmul : (pitch info).toInt * (short info.src.h).toInt = lumaBytes info := by
    rw [hpitch, hheight]
    exact (Nat.cast_mul _ _).symm
  refine ⟨hmul, ?_⟩
  unfold frameValue frameBytes
  rw [hmul]
  split_ifs <;> push_cast <;> rfl

/-- **The frames of a picture that fits fill the area.** -/
theorem Configured.filled (hc : Configured mem info info' overlay srcOffsetX srcOffsetY)
    (hw : info.src.w.toNat < 2 ^ 15) (hh : info.src.h.toNat < 2 ^ 15)
    (hfits : frameBytes info ≤ areaBytes) :
    info'.frameSize.toNat = frameBytes info ∧ Filled areaBytes info' := by
  have hvalue := (frameValue_eq hw hh).2
  have hfits' : frameBytes info ≤ 7340032 := hfits
  have hframe : info'.frameSize.toNat = frameBytes info := by
    have hsize := hc.frameSize_toNat
    omega
  have htotal : (totalSize info * 2).toInt = frameBytes info := by
    rw [← hvalue]
    exact toInt_eq_of_modEq (totalSize_modEq info) (by omega) (by omega)
  have hne : frameBytes info ≠ 0 := by
    intro hzero
    refine hc.size_ne_zero (Int32.toInt_inj.mp ?_)
    rw [htotal, hzero]
    rfl
  have hquotient : ((0x700000 / (totalSize info * 2)).toUInt32).toNat =
      areaBytes / frameBytes info := by
    have hdiv : (0x700000 / (totalSize info * 2)).toInt =
        ((7340032 / frameBytes info : ℕ) : ℤ) := by
      rw [Int32.toInt_div_of_ne_left _ _ (by decide), htotal]
      exact (Int.ofNat_tdiv 7340032 _).symm
    have hword := toNat_toUInt32 (0x700000 / (totalSize info * 2))
    have hle : 7340032 / frameBytes info ≤ 7340032 := Nat.div_le_self _ _
    rw [hdiv] at hword
    show _ = 7340032 / frameBytes info
    generalize 7340032 / frameBytes info = q at hle hword ⊢
    omega
  refine ⟨hframe, ?_, ?_, ?_⟩
  · rw [hframe]
    exact hne
  · rw [hframe, hc.request]
    show (cappedFrames _).toNat = _
    rw [cappedFrames_toNat, hquotient]
  · rw [hc.request]
    rfl

/-- Where a frame that is granted begins. -/
theorem Configured.getElem_frames (hc : Configured mem info info' overlay srcOffsetX srcOffsetY)
    (hfilled : Filled areaBytes info') {i : ℕ} (hi : i < info'.numFrames.toNat) :
    ∃ f, overlay.frames[i]? = some f ∧ f.toInt = 0x800000 + info'.frameSize.toNat * i := by
  obtain ⟨o, ho, hvalue⟩ := hfilled.getElem (by decide) hi
  have hframes : overlay.frames = info'.offsets.map fun o => dgaOffset + o.toInt32 :=
    congrArg (·.frames) hc.overlay
  have hle : o.toNat ≤ 7340032 := by
    rw [hvalue]
    exact (Nat.mul_le_mul_left _ hi.le).trans hfilled.mul_le
  refine ⟨dgaOffset + o.toInt32, by rw [hframes, List.getElem?_map, ho]; rfl, ?_⟩
  have hword := toInt_toInt32 o
  rw [if_pos (by omega)] at hword
  have hsum : (dgaOffset + o.toInt32).toInt ≡ 0x800000 + o.toNat [ZMOD 2 ^ 32] :=
    toInt_add_modEq rfl (by rw [hword])
  rw [toInt_eq_of_modEq hsum (by omega) (by omega), hvalue]
  push_cast
  rfl

/-- Where the chroma planes of a picture that fits begin. -/
theorem chroma_toNat (hw : info.src.w.toNat < 2 ^ 15) (hh : info.src.h.toNat < 2 ^ 15)
    (hluma : 5 * lumaBytes info < 2 ^ 31) :
    (short info.src.h * pitch info).toUInt32.toNat = lumaBytes info ∧
      (short info.src.h * pitch info * 5 / 4).toUInt32.toNat = lumaBytes info * 5 / 4 := by
  have hproduct := (frameValue_eq hw hh).1
  have hfirst : (short info.src.h * pitch info).toInt = lumaBytes info :=
    toInt_eq_of_modEq ((toInt_mul_modEq rfl rfl).trans (by rw [mul_comm, hproduct])) (by omega)
      (by omega)
  have hfive : (short info.src.h * pitch info * 5).toInt = lumaBytes info * 5 :=
    toInt_eq_of_modEq (toInt_mul_modEq (by rw [hfirst]) rfl) (by omega) (by omega)
  have hsecond : (short info.src.h * pitch info * 5 / 4).toInt =
      ((lumaBytes info * 5 / 4 : ℕ) : ℤ) := by
    rw [Int32.toInt_div_of_ne_right _ _ (by decide), hfive]
    exact (Int.ofNat_tdiv (lumaBytes info * 5) 4).symm
  have hu := toNat_toUInt32 (short info.src.h * pitch info)
  have hv := toNat_toUInt32 (short info.src.h * pitch info * 5 / 4)
  rw [hfirst, Int.emod_eq_of_lt (by omega) (by omega)] at hu
  rw [hsecond, Int.emod_eq_of_lt (by omega) (by omega)] at hv
  exact ⟨Int.ofNat_inj.mp hu, Int.ofNat_inj.mp hv⟩

/-- The planes of a picture that fits. -/
theorem packedIn_planes (hw : info.src.w.toNat < 2 ^ 15) (hh : info.src.h.toNat < 2 ^ 15)
    (hfits : frameBytes info ≤ areaBytes) :
    PackedIn (frameBytes info)
      (planes info (planeOffsets info.fourcc (pitch info) (short info.src.h) 0 0)) := by
  have hfits' : frameBytes info ≤ 7340032 := hfits
  unfold frameBytes at hfits' ⊢
  cases hplanar : isPlanar info.fourcc with
  | false =>
    rw [packedIn_planes_packed_iff hplanar, packedIn_one_iff, if_neg (by decide)]
    exact .inr (by dsimp only; omega)
  | true =>
    rw [packedIn_planes_iff hplanar, packedIn_three_iff]
    rw [hplanar, if_pos rfl] at hfits'
    obtain ⟨hu, hv⟩ := chroma_toNat hw hh (by omega)
    rw [if_pos rfl]
    omega

/-- **The frames are where they should be iff the picture fits.** -/
theorem Configured.placed_iff (hc : Configured mem info info' overlay srcOffsetX srcOffsetY)
    (hw : 0 < info.src.w.toNat) (hh : 0 < info.src.h.toNat)
    (hoffset : info'.offset = planeOffsets info.fourcc (pitch info) (short info.src.h) 0 0) :
    Placed info info' overlay.frames ↔ FramesFit info := by
  constructor
  · intro h
    have harea : info'.frameSize.toNat ≤ areaBytes := by
      obtain ⟨f, -, hlow, hhigh⟩ := h.inside 0 h.one
      omega
    obtain ⟨hwidth, hheight⟩ := hc.small hw hh hoffset harea h.planes
    have hsize := hc.frameSize_toNat
    have hfits : frameBytes info ≤ areaBytes := by
      rw [(frameValue_eq hwidth hheight).2] at hsize
      have hluma := lumaBytes_le (Nat.mul_pos (rowStride_pos hw) hh) h.planes
      have hle : lumaBytes info ≤ 7340032 := hluma.trans harea
      have hword : (frameBytes info : ℤ) < 2 ^ 32 := by
        unfold frameBytes
        split_ifs <;> omega
      rw [Int.emod_eq_of_lt (by omega) hword] at hsize
      exact (Int.ofNat_inj.mp hsize) ▸ harea
    obtain ⟨hframe, hfilled⟩ := hc.filled hwidth hheight hfits
    have hasked := h.asked
    rw [hfilled.numFrames, hframe] at hasked
    exact ⟨hwidth, hheight, hfits, hasked⟩
  · intro h
    obtain ⟨hframe, hfilled⟩ := hc.filled h.width h.height h.fits
    have hpos := Nat.pos_of_ne_zero hfilled.frame_ne_zero
    have hnum := hfilled.numFrames
    rw [hframe] at hnum hpos
    have hone : 1 ≤ areaBytes / frameBytes info := (Nat.one_le_div_iff hpos).mpr h.fits
    refine ⟨by omega, hnum ▸ h.asked, fun i hi => ?_, fun i j fi fj hij hj hfi hfj => ?_, ?_⟩
    · obtain ⟨f, hf, hvalue⟩ := hc.getElem_frames hfilled hi
      have hend := (Nat.mul_le_mul_left info'.frameSize.toNat hi).trans hfilled.mul_le
      have hcast : (info'.frameSize.toNat : ℤ) * (i + 1) ≤ areaBytes := by exact_mod_cast hend
      have hstart : (0 : ℤ) ≤ info'.frameSize.toNat * i := by positivity
      rw [mul_add, mul_one] at hcast
      exact ⟨f, hf, by linarith, by linarith⟩
    · obtain ⟨fi', hfi', hvalue⟩ := hc.getElem_frames hfilled (hij.trans hj)
      obtain ⟨fj', hfj', hvalue'⟩ := hc.getElem_frames hfilled hj
      obtain rfl := Option.some.inj (hfi.symm.trans hfi')
      obtain rfl := Option.some.inj (hfj.symm.trans hfj')
      have hmul : (info'.frameSize.toNat : ℤ) * (i + 1) ≤ info'.frameSize.toNat * j := by
        exact_mod_cast Nat.mul_le_mul_left _ hij
      rw [mul_add, mul_one] at hmul
      exact .inl (by linarith)
    · rw [hoffset, hframe]
      exact packedIn_planes h.width h.height h.fits

end Law

/-- **The frames of a whole picture in a window inside the screen.** -/
theorem accepted_placed_iff (cr sr : UInt8 → UInt8)
    (h : vixConfigPlayback mem info = some (0, info', some overlay)) (hx : info.src.x = 0)
    (hy : info.src.y = 0) (hw : 0 < info.src.w.toNat) (hh : 0 < info.src.h.toNat)
    (hin : InsideScreen (screenWidthOf cr sr) (screenHeightOf cr) info.dest) :
    Placed info info' overlay.frames ↔ FramesFit info := by
  obtain ⟨srcOffsetX, srcOffsetY, hc⟩ := configured h
  exact hc.placed_iff hw hh (hc.offset_eq hx hy (hc.uncut hin))

/-- 352 by 288 pixels in YUY2, of which 18 frames fit. -/
def manyFrames : VidixPlayback := { samplePlayback 352 288 with numFrames := 18 }

theorem manyFrames_placed :
    ∃ info' overlay, vixConfigPlayback 0 manyFrames = some (0, info', some overlay) ∧
      Placed manyFrames info' overlay.frames := by
  obtain ⟨info', overlay, h⟩ : ∃ info' overlay,
      vixConfigPlayback 0 manyFrames = some (0, info', some overlay) := ⟨_, _, rfl⟩
  have hplaced := accepted_placed_iff (fun _ => 0x7f) (fun _ => 0x7f) h rfl rfl (by decide)
    (by decide) (by decide)
  exact ⟨info', overlay, h, hplaced.mpr ⟨by decide, by decide, by decide, by decide⟩⟩

/-- A picture of four megabytes. -/
def largePicture : VidixPlayback := { samplePlayback 2048 288 with src.h := 1024 }

/-- **An application that asks for one frame is granted 18 of them, and one with a picture of four
megabytes none; both calls succeed.** -/
theorem frames_miscounted :
    (∃ info' overlay, vixConfigPlayback 0 (samplePlayback 352 288) = some (0, info', some overlay) ∧
      info'.numFrames = 18 ∧ ¬ Placed (samplePlayback 352 288) info' overlay.frames) ∧
    ∃ info' overlay, vixConfigPlayback 0 largePicture = some (0, info', some overlay) ∧
      info'.numFrames = 0 ∧ ¬ Placed largePicture info' overlay.frames := by
  refine ⟨⟨_, _, rfl, rfl, fun h => ?_⟩, _, _, rfl, rfl, fun h => ?_⟩
  · exact absurd h.asked (by decide)
  · exact absurd h.one (by decide)

end Vidix.Sis
