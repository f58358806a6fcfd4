import Vidix.Sis.Equiv.Frames
import Vidix.Sis.Equiv.LineBuffer
import Vidix.Util.SplitAddress

/-!
# The plane addresses of the sis driver

The chip is told the start of a plane without its low bit, or without its low two on the 300 series.
All that an address is made of is a multiple of four but the place of the last plane, which is at
5/4 of the first: of a picture of odd height whose rows are an odd number of eight bytes long, it is
two bytes beyond a multiple of four.  Otherwise an address is what the registers hold, both after
the configuration and after a frame has been selected, as long as it is below 64 megabytes
(`addresses_iff`); that is so for every picture that is shown whole (`Configured.reach`).
-/

namespace Vidix.Sis

open Util

variable {s s' : State} {info info' : VidixPlayback} {engine : VgaEngine}

/-! ### The registers of one plane -/

/-- `sis_shift_value`. -/
def shiftOf (engine : VgaEngine) : ℕ := if engine = .sis315 then 1 else 2

/-- The number in the registers of a start, of which only the 315 series has the last one. -/
def stored (engine : VgaEngine) (vid : Ports) (low middle high overflow : UInt8) : ℕ :=
  fromBytes (vid low).toNat (vid middle).toNat
    ((vid high).toNat + if engine = .sis315 then (vid overflow).toNat * 2 ^ 8 else 0)

theorem HoldsStart.stored_eq {vid : Ports} {low middle high overflow : UInt8} {start : UInt32}
    (h : HoldsStart engine vid low middle high overflow start) :
    stored engine vid low middle high overflow = start.toNat % 2 ^ (26 - shiftOf engine) := by
  have hmiddle : (vid middle).toNat = start.toNat / 2 ^ 8 % 2 ^ 8 := by
    rw [h.middle, UInt32.toNat_toUInt8, UInt32.toNat_shiftRight, Nat.shiftRight_eq_div_pow]
    rfl
  have hhigh : (vid high).toNat = start.toNat / 2 ^ 16 % 2 ^ 8 := by
    rw [h.high, UInt32.toNat_toUInt8, UInt32.toNat_shiftRight, Nat.shiftRight_eq_div_pow]
    rfl
  have hlow : (vid low).toNat = start.toNat % 2 ^ 8 := by
    rw [h.low, UInt32.toNat_toUInt8]
  unfold stored shiftOf
  rw [hlow, hmiddle, hhigh]
  by_cases h315 : engine = .sis315
  · have hover : (vid overflow).toNat = start.toNat / 2 ^ 16 / 2 ^ 8 % 2 ^ 1 := by
      rw [h.overflow h315, UInt8.toNat_and, UInt32.toNat_toUInt8, UInt32.toNat_shiftRight,
        Nat.shiftRight_eq_div_pow, Nat.div_div_eq_div_mul]
      show start.toNat / 2 ^ 24 % 2 ^ 8 &&& 2 ^ 1 - 1 = _
      rw [Nat.and_two_pow_sub_one_eq_mod]
      omega
    rw [if_pos h315, if_pos h315, hover, byte_add_field]
    exact fromBytes_mod start.toNat 9
  · rw [if_neg h315, if_neg h315]
    exact fromBytes_mod start.toNat 8

/-- `(frame + offset) >> sis_shift_value` for an address that is not too high. -/
theorem startOf_toNat {frame : Int32} {offset : UInt32}
    (hlow : 0 ≤ frame.toInt + offset.toNat) (hhigh : frame.toInt + offset.toNat < 2 ^ 26) :
    ((startOf frame offset.toInt32 (UInt32.ofNat (shiftOf engine))).toNat : ℤ) =
      (frame.toInt + offset.toNat) / 2 ^ shiftOf engine := by
  have hsum : (frame + offset.toInt32).toInt = frame.toInt + offset.toNat :=
    toInt_eq_of_modEq (toInt_add_modEq rfl (toInt32_modEq offset)) (by omega) (by omega)
  unfold startOf shiftOf
  rw [toNat_toUInt32]
  split_ifs
  · have hshift : ((frame + offset.toInt32) >>> (UInt32.ofNat 1).toInt32).toInt =
        (frame.toInt + offset.toNat) / 2 := by
      rw [← hsum]
      exact toInt_shiftRight_one _
    rw [hshift]
    omega
  · have hshift : ((frame + offset.toInt32) >>> (UInt32.ofNat 2).toInt32).toInt =
        (frame.toInt + offset.toNat) / 4 := by
      rw [← hsum]
      exact toInt_shiftRight_two _
    rw [hshift]
    omega

/-- **The registers of a plane hold its address iff that is in reach and a multiple of what is left
out.** -/
theorem HoldsStart.survives_iff {vid : Ports} {low middle high overflow : UInt8} {frame : Int32}
    {offset : UInt32} (h : HoldsStart engine vid low middle high overflow
      (startOf frame offset.toInt32 (UInt32.ofNat (shiftOf engine)))) :
    Survives (shiftOf engine) (stored engine vid low middle high overflow)
        (frame.toInt + offset.toNat) ↔
      (0 ≤ frame.toInt + offset.toNat ∧ frame.toInt + offset.toNat < 2 ^ 26) ∧
        (2 : ℤ) ^ shiftOf engine ∣ frame.toInt + offset.toNat := by
  have hwidth : 26 - shiftOf engine + shiftOf engine = 26 := by
    unfold shiftOf
    split_ifs <;> rfl
  rw [h.stored_eq, Util.survives_iff, hwidth]
  rw [hwidth]
  exact startOf_toNat

/-! ### The planes of one frame -/

/-- Where the application is told that the planes of a frame begin. -/
def toldOffsets (info : VidixPlayback) : List UInt32 :=
  if isPlanar info.fourcc then [info.offset.y, info.offset.u, info.offset.v] else [info.offset.y]

/-- The registers hold the addresses of the planes of `frame`.  "NOTE reversed u & v here": what the
chip takes for V is the application's U. -/
structure PlanesSurvive (engine : VgaEngine) (vid : Ports) (info : VidixPlayback)
    (frame : Int32) : Prop where
  y : Survives (shiftOf engine) (stored engine vid indexViDispYBufStartLow
    indexViDispYBufStartMiddle indexViDispYBufStartHigh indexViYBufStartOver)
    (frame.toInt + info.offset.y.toNat)
  u : isPlanar info.fourcc = true → Survives (shiftOf engine) (stored engine vid
    indexViVBufStartLow indexViVBufStartMiddle indexViVBufStartHigh indexViVBufStartOver)
    (frame.toInt + info.offset.u.toNat)
  v : isPlanar info.fourcc = true → Survives (shiftOf engine) (stored engine vid
    indexViUBufStartLow indexViUBufStartMiddle indexViUBufStartHigh indexViUBufStartOver)
    (frame.toInt + info.offset.v.toNat)

/-- The starts of the planes of `frame` have been written. -/
structure PlanesWritten (engine : VgaEngine) (vid : Ports) (info : VidixPlayback)
    (frame : Int32) : Prop where
  y : HoldsY engine vid
    (startOf frame info.offset.y.toInt32 (UInt32.ofNat (shiftOf engine)))
  u : isPlanar info.fourcc = true → HoldsV engine vid
    (startOf frame info.offset.u.toInt32 (UInt32.ofNat (shiftOf engine)))
  v : isPlanar info.fourcc = true → HoldsU engine vid
    (startOf frame info.offset.v.toInt32 (UInt32.ofNat (shiftOf engine)))

theorem PlanesWritten.survive_iff {vid : Ports} {frame : Int32}
    (h : PlanesWritten engine vid info frame) :
    PlanesSurvive engine vid info frame ↔ ∀ o ∈ toldOffsets info,
      (0 ≤ frame.toInt + o.toNat ∧ frame.toInt + o.toNat < 2 ^ 26) ∧
        (2 : ℤ) ^ shiftOf engine ∣ frame.toInt + o.toNat := by
  have hy := HoldsStart.survives_iff h.y
  unfold toldOffsets
  cases hplanar : isPlanar info.fourcc with
  | false =>
    rw [if_neg (by decide), List.forall_mem_singleton, ← hy]
    have hno : isPlanar info.fourcc ≠ true := by rw [hplanar]; decide
    exact ⟨fun hs => hs.y, fun hs => ⟨hs, fun hp => absurd hp hno, fun hp => absurd hp hno⟩⟩
  | true =>
    have hu := HoldsStart.survives_iff (h.u hplanar)
    have hv := HoldsStart.survives_iff (h.v hplanar)
    rw [if_pos rfl, List.forall_mem_cons, List.forall_mem_cons, List.forall_mem_singleton, ← hy,
      ← hu, ← hv]
    exact ⟨fun hs => ⟨hs.y, hs.u hplanar, hs.v hplanar⟩,
      fun hs => ⟨hs.1, fun _ => hs.2.1, fun _ => hs.2.2⟩⟩

/-! ### What has been written -/

/-- The static variables are those of a configuration that has left `info`. -/
structure Told (s : State) (info : VidixPlayback) : Prop where
  shift : s.sisShiftValue = UInt32.ofNat (shiftOf s.driver.sisVgaEngine)
  format : s.sisFormat = info.fourcc
  y : s.sisYoff = info.offset.y.toInt32
  u : isPlanar info.fourcc = true → s.sisVoff = info.offset.u.toInt32
  v : isPlanar info.fourcc = true → s.sisUoff = info.offset.v.toInt32

theorem State.laidOut_told (s : State) (info' : VidixPlayback) : Told (s.laidOut info') info' := by
  refine ⟨?_, rfl, rfl, fun hplanar => ?_, fun hplanar => ?_⟩
  · show (if s.driver.sisVgaEngine = .sis315 then (1 : UInt32) else 2) =
      UInt32.ofNat (if s.driver.sisVgaEngine = .sis315 then 1 else 2)
    split_ifs <;> rfl
  · exact if_pos hplanar
  · exact if_pos hplanar

/-- A frame that is selected. -/
theorem Told.selected (h : Told s info) (frame : ℕ) :
    PlanesWritten s.driver.sisVgaEngine (vixPlaybackFrameSelect s frame).vid info
      (s.sisFrames frame) := by
  have hwritten : HoldsY s.driver.sisVgaEngine (vixPlaybackFrameSelect s frame).vid
        (startOf (s.sisFrames frame) s.sisYoff s.sisShiftValue) ∧
      (isPlanar s.sisFormat = true →
        HoldsU s.driver.sisVgaEngine (vixPlaybackFrameSelect s frame).vid
          (startOf (s.sisFrames frame) s.sisUoff s.sisShiftValue) ∧
        HoldsV s.driver.sisVgaEngine (vixPlaybackFrameSelect s frame).vid
          (startOf (s.sisFrames frame) s.sisVoff s.sisShiftValue)) := by
    unfold vixPlaybackFrameSelect setYStart setYOver setUVStart setUVOver
    dsimp only
    refine ⟨⟨?_, ?_, ?_, ?_⟩, fun hplanar => ⟨⟨?_, ?_, ?_, ?_⟩, ?_, ?_, ?_, ?_⟩⟩
    all_goals try rw [if_pos hplanar]
    all_goals split_ifs
    all_goals
      simp (disch := first | decide | assumption) [setvideoreg, setregmask, Function.update_of_ne,
        trigger_of_ne, Function.update_self, *]
  rw [h.format, h.shift, h.y] at hwritten
  refine ⟨hwritten.1, fun hplanar => ?_, fun hplanar => ?_⟩
  · rw [← h.u hplanar]
    exact (hwritten.2 hplanar).2
  · rw [← h.v hplanar]
    exact (hwritten.2 hplanar).1

/-- The configuration has written the first frame. -/
theorem Shown.written {overlay : Overlay} {o : SISOverlayRec}
    (h : Shown s info info' s' overlay o) :
    PlanesWritten s.driver.sisVgaEngine s'.vid info' (s'.sisFrames 0) := by
  obtain ⟨vid, rfl⟩ := h.state
  obtain ⟨srcOffsetX, srcOffsetY, hc⟩ := configured h.layout
  obtain ⟨hformat, hpsy, hpsu, hpsv, -, -⟩ := calcScaleFactor_keeps h.scaled
  have hfourcc : overlay.pixelFormat = info'.fourcc :=
    (congrArg (·.pixelFormat) hc.overlay).trans (congrArg (·.fourcc) hc.request).symm
  have htold := s.laidOut_told info'
  have hshift : (s.laidOut info').sisShiftValue =
    UInt32.ofNat (shiftOf s.driver.sisVgaEngine) := htold.shift
  obtain ⟨hy, huv⟩ := writeOverlay_holds (s.laidOut info') o vid
  refine ⟨?_, fun hplanar => ?_, fun hplanar => ?_⟩
  · rw [hpsy] at hy
    rw [← htold.y, ← hshift]
    exact hy
  · have hpixel : isPlanar overlay.pixelFormat = true := hfourcc ▸ hplanar
    have hv := (huv (hformat ▸ hpixel)).2
    have hvalue : (setLineBufSize ((s.laidOut info').overlayOf overlay)).psv =
        startOf ((s.laidOut info').sisFrames 0) (s.laidOut info').sisVoff
          (s.laidOut info').sisShiftValue := if_pos hpixel
    rw [hpsv, hvalue] at hv
    rw [← htold.u hplanar, ← hshift]
    exact hv
  · have hpixel : isPlanar overlay.pixelFormat = true := hfourcc ▸ hplanar
    have hu := (huv (hformat ▸ hpixel)).1
    have hvalue : (setLineBufSize ((s.laidOut info').overlayOf overlay)).psu =
        startOf ((s.laidOut info').sisFrames 0) (s.laidOut info').sisUoff
          (s.laidOut info').sisShiftValue := if_pos hpixel
    rw [hpsu, hvalue] at hu
    rw [← htold.v hplanar, ← hshift]
    exact hu

/-! ### What an address is made of -/

section Divisibility

variable {srcOffsetX srcOffsetY : Int32} {mem : UInt64} {overlay : Overlay}

/-- A divisor of the values of two words divides that of their sum, which may wrap. -/
theorem dvd_toInt_add {k : ℤ} (hk : k ∣ 2 ^ 32) {x y : Int32} (hx : k ∣ x.toInt)
    (hy : k ∣ y.toInt) : k ∣ (x + y).toInt :=
  ((toInt_add_modEq rfl rfl).of_dvd hk).dvd_iff.mpr (dvd_add hx hy)

theorem dvd_toInt_mul_iff {k : ℤ} (hk : k ∣ 2 ^ 32) (x y : Int32) :
    k ∣ (x * y).toInt ↔ k ∣ x.toInt * y.toInt :=
  ((toInt_mul_modEq rfl rfl).of_dvd hk).dvd_iff

theorem dvd_toNat_iff {k : ℤ} (hk : k ∣ 2 ^ 32) (x : Int32) :
    k ∣ (x.toUInt32.toNat : ℤ) ↔ k ∣ x.toInt :=
  ((toNat_toUInt32_modEq x).of_dvd hk).dvd_iff

/-- `x & ~mask`. -/
theorem dvd_and_not (x : Int32) {mask : Int32} {m : ℤ} {k : ℕ} (hm : m = 2 ^ k)
    (hmask : mask.toInt = m - 1) (hk : k ≤ 31) : m ∣ (x &&& ~~~mask).toInt := by
  have hround := toInt_alignUp_modEq hm hmask hk (x := x - mask) rfl
  rw [Int32.sub_add_cancel] at hround
  have hdvd : m ∣ 2 ^ 32 := hm ▸ pow_dvd_pow 2 (by omega)
  exact (hround.of_dvd hdvd).dvd_iff.mpr (Dvd.intro_left _ rfl)

/-- `x / 2` is exact for an even number. -/
theorem toInt_div_eq {x : Int32} {y : Int32} (hy : y ≠ -1) (hdvd : y.toInt ∣ x.toInt) :
    (x / y).toInt = x.toInt / y.toInt := by
  rw [Int32.toInt_div_of_ne_right _ _ hy]
  exact Int.tdiv_eq_ediv_of_dvd hdvd

theorem pitch_dvd (info : VidixPlayback) :
    (if isPlanar info.fourcc then 8 else 4 : ℤ) ∣ (pitch info).toInt := by
  rw [pitch_toInt]
  split_ifs <;> exact Dvd.intro_left _ rfl

theorem startX_dvd (info : VidixPlayback) (srcOffsetX : Int32) :
    (if isPlanar info.fourcc then 8 else 2 : ℤ) ∣ (startX info srcOffsetX).toInt := by
  unfold startX
  split_ifs
  · exact dvd_and_not (k := 3) _ rfl rfl (by decide)
  · exact dvd_and_not (k := 1) _ rfl rfl (by decide)

/-- What is added to the place of a chroma plane for the pixels that are not shown. -/
theorem chroma_dvd (srcOffsetX srcOffsetY : Int32) (hplanar : isPlanar info.fourcc = true) :
    (4 : ℤ) ∣ ((startX info srcOffsetX + startY info srcOffsetY * pitch info / 2) >>> 1).toInt := by
  have hpitch := pitch_dvd info
  have hx := startX_dvd info srcOffsetX
  have hy : (2 : ℤ) ∣ (startY info srcOffsetY).toInt := by
    unfold startY
    rw [if_pos hplanar]
    exact dvd_and_not (k := 1) _ rfl rfl (by decide)
  rw [if_pos hplanar] at hpitch hx
  have hmul : (16 : ℤ) ∣ (startY info srcOffsetY * pitch info).toInt :=
    (dvd_toInt_mul_iff (by decide) _ _).mpr (mul_dvd_mul hy hpitch)
  have hhalf : (8 : ℤ) ∣ (startY info srcOffsetY * pitch info / 2).toInt := by
    rw [toInt_div_eq (by decide) (Dvd.dvd.trans (by decide) hmul)]
    show (8 : ℤ) ∣ _ / 2
    omega
  have hsum := dvd_toInt_add (by decide) hx hhalf
  rw [toInt_shiftRight_one]
  omega

/-- **Where the planes are, but the last of three.** -/
theorem offsets_dvd (info : VidixPlayback) (srcOffsetX srcOffsetY : Int32) :
    (4 : ℤ) ∣ (if isPlanar info.fourcc then
        startX info srcOffsetX + startY info srcOffsetY * pitch info
      else startX info srcOffsetX * 2 + startY info srcOffsetY * pitch info).toInt ∧
    (isPlanar info.fourcc = true → (4 : ℤ) ∣ (short info.src.h * pitch info +
      (startX info srcOffsetX + startY info srcOffsetY * pitch info / 2) >>> 1).toInt) := by
  have hpitch := pitch_dvd info
  have hx := startX_dvd info srcOffsetX
  have hpitch4 : (4 : ℤ) ∣ (pitch info).toInt := by
    refine Dvd.dvd.trans ?_ hpitch
    split_ifs <;> decide
  have hlines : ∀ y : Int32, (4 : ℤ) ∣ (y * pitch info).toInt := fun y =>
    (dvd_toInt_mul_iff (by decide) _ _).mpr (Dvd.dvd.mul_left hpitch4 _)
  refine ⟨?_, fun hplanar => dvd_toInt_add (by decide) (hlines _) (chroma_dvd _ _ hplanar)⟩
  split_ifs at hx ⊢
  · exact dvd_toInt_add (by decide) (Dvd.dvd.trans (by decide) hx) (hlines _)
  · refine dvd_toInt_add (by decide) ((dvd_toInt_mul_iff (by decide) _ _).mpr ?_) (hlines _)
    exact mul_dvd_mul (show (2 : ℤ) ∣ _ from hx) (show (2 : ℤ) ∣ 2 from dvd_rfl)

/-- The height is even, or a row is an even number of eight bytes long. -/
def RowsPaired (info : VidixPlayback) : Prop :=
  info.src.h.toNat % 2 = 0 ∨ info.src.w.toNat % 16 = 0 ∨ 8 < info.src.w.toNat % 16

/-- The first plane is a multiple of 16 bytes long. -/
theorem luma_dvd_iff (hplanar : isPlanar info.fourcc = true) :
    (16 : ℤ) ∣ (short info.src.h * pitch info).toInt ↔ RowsPaired info := by
  have hpitch := pitch_toInt info
  have hwidth := short_toInt info.src.w
  have hheight := short_toInt info.src.h
  obtain ⟨p, hp⟩ : (8 : ℤ) ∣ (pitch info).toInt := by
    have hdvd := pitch_dvd info
    rw [if_pos hplanar] at hdvd
    exact hdvd
  have hlines : (2 : ℤ) ∣ (short info.src.h).toInt ↔ info.src.h.toNat % 2 = 0 := by
    split_ifs at hheight <;> omega
  have hrow : (2 : ℤ) ∣ p ↔ info.src.w.toNat % 16 = 0 ∨ 8 < info.src.w.toNat % 16 := by
    rw [if_pos hplanar, hp] at hpitch
    unfold roundUp at hpitch
    split_ifs at hwidth <;> omega
  have hsixteen : (16 : ℤ) = 8 * 2 := rfl
  unfold RowsPaired
  rw [dvd_toInt_mul_iff (by decide), hp, mul_left_comm, hsixteen,
    mul_dvd_mul_iff_left (by decide), ← even_iff_two_dvd, Int.even_mul, even_iff_two_dvd,
    even_iff_two_dvd, hlines, hrow]

/-- **Where the last of three planes is.** -/
theorem second_dvd (hplanar : isPlanar info.fourcc = true) {chroma : Int32}
    (hchroma : (4 : ℤ) ∣ chroma.toInt) :
    (2 : ℤ) ∣ (short info.src.h * pitch info * 5 / 4 + chroma).toInt ∧
      ((4 : ℤ) ∣ (short info.src.h * pitch info * 5 / 4 + chroma).toInt ↔ RowsPaired info) := by
  have hpitch := pitch_dvd info
  rw [if_pos hplanar] at hpitch
  have hluma : (8 : ℤ) ∣ (short info.src.h * pitch info).toInt :=
    (dvd_toInt_mul_iff (by decide) _ _).mpr (Dvd.dvd.mul_left hpitch _)
  have hpaired := luma_dvd_iff hplanar
  have hfive8 : (8 : ℤ) ∣ (short info.src.h * pitch info * 5).toInt :=
    (dvd_toInt_mul_iff (by decide) _ 5).mpr (Dvd.dvd.mul_right hluma _)
  have hfive16 : (16 : ℤ) ∣ (short info.src.h * pitch info * 5).toInt ↔
      (16 : ℤ) ∣ (short info.src.h * pitch info).toInt := by
    rw [dvd_toInt_mul_iff (by decide)]
    show 16 ∣ _ * 5 ↔ _
    omega
  have hquarter : (short info.src.h * pitch info * 5 / 4).toInt =
      (short info.src.h * pitch info * 5).toInt / 4 :=
    toInt_div_eq (by decide) (Dvd.dvd.trans (by decide) hfive8)
  have hsum : (short info.src.h * pitch info * 5 / 4 + chroma).toInt ≡
      (short info.src.h * pitch info * 5).toInt / 4 + chroma.toInt [ZMOD 2 ^ 32] :=
    toInt_add_modEq (by rw [hquarter]) rfl
  rw [(hsum.of_dvd (show (2 : ℤ) ∣ 2 ^ 32 by decide)).dvd_iff,
    (hsum.of_dvd (show (4 : ℤ) ∣ 2 ^ 32 by decide)).dvd_iff, ← hpaired, ← hfive16]
  omega

end Divisibility

/-! ### The request -/

/-- `num_frames`. -/
def granted (info : VidixPlayback) : ℕ :=
  (cappedFrames (0x700000 / (totalSize info * 2)).toUInt32).toNat

/-- `dga_offset + info->offsets[i]`. -/
def frameOf (info : VidixPlayback) (i : ℕ) : Int32 :=
  dgaOffset + ((totalSize info * 2).toUInt32 * UInt32.ofNat i).toInt32

/-- What is cut off of the source on the left, and at its top. -/
def cutX (info : VidixPlayback) : Int32 :=
  (srcOffsetOf (short info.src.w) (short info.dest.w) (dstBoxOf info.dest).x1).getD 0

def cutY (info : VidixPlayback) : Int32 :=
  (srcOffsetOf (short info.src.h) (short info.dest.h) (dstBoxOf info.dest).y1).getD 0

/-- Where the planes begin in a frame. -/
def planeStarts (info : VidixPlayback) : List UInt32 :=
  toldOffsets { info with
    offset := planeOffsets info.fourcc (pitch info) (short info.src.h) (startX info (cutX info))
      (startY info (cutY info)) }

/-- Every plane begins below 64 megabytes; and the rows of a planar picture are paired when the chip
leaves out two bits. -/
structure AddressesFit (engine : VgaEngine) (info : VidixPlayback) : Prop where
  reach : ∀ i < granted info, ∀ o ∈ planeStarts info,
    0 ≤ (frameOf info i).toInt + o.toNat ∧ (frameOf info i).toInt + o.toNat < 2 ^ 26
  paired : 0 < granted info → engine ≠ .sis315 → isPlanar info.fourcc = true → RowsPaired info

/-- A frame is a multiple of eight bytes long. -/
theorem frameOf_dvd (info : VidixPlayback) (i : ℕ) : (8 : ℤ) ∣ (frameOf info i).toInt := by
  have hpitch := pitch_dvd info
  have hvalue : (8 : ℤ) ∣ frameValue info := by
    unfold frameValue
    split_ifs at hpitch ⊢
    · exact Dvd.dvd.mul_left (Dvd.dvd.mul_right hpitch _) _
    · exact mul_dvd_mul (show (2 : ℤ) ∣ 2 from dvd_rfl) (Dvd.dvd.mul_right hpitch _)
  have hsize : (8 : ℤ) ∣ ((totalSize info * 2).toUInt32.toNat : ℤ) :=
    (dvd_toNat_iff (by decide) _).mpr
      (((totalSize_modEq info).of_dvd (by decide)).dvd_iff.mpr hvalue)
  have hmul : (((totalSize info * 2).toUInt32 * UInt32.ofNat i).toNat : ℤ) ≡
      (totalSize info * 2).toUInt32.toNat * (UInt32.ofNat i).toNat [ZMOD 2 ^ 32] :=
    toNat_mul_modEq rfl rfl
  refine dvd_toInt_add (by decide) (by decide) ?_
  rw [← dvd_toNat_iff (by decide)]
  exact (hmul.of_dvd (by decide)).dvd_iff.mpr (Dvd.dvd.mul_right hsize _)

/-- The places of the three planes, whichever of the two formats it is. -/
theorem forall_mem_planeStarts_planar (hplanar : isPlanar info.fourcc = true)
    {p : UInt32 → Prop} :
    (∀ o ∈ planeStarts info, p o) ↔
      p (startX info (cutX info) + startY info (cutY info) * pitch info).toUInt32 ∧
        p (short info.src.h * pitch info + (startX info (cutX info) +
          startY info (cutY info) * pitch info / 2) >>> (1 : Int32)).toUInt32 ∧
        p (short info.src.h * pitch info * (5 : Int32) / (4 : Int32) + (startX info (cutX info) +
          startY info (cutY info) * pitch info / 2) >>> (1 : Int32)).toUInt32 := by
  unfold planeStarts toldOffsets planeOffsets
  dsimp only
  rw [if_pos hplanar, List.forall_mem_cons, List.forall_mem_cons, List.forall_mem_singleton]
  split_ifs with hyv12 hi420
  · rfl
  · exact and_congr_right fun _ => and_comm
  · unfold isPlanar at hplanar
    simp [hyv12, hi420] at hplanar

theorem forall_mem_planeStarts_packed (hpacked : isPlanar info.fourcc = false)
    {p : UInt32 → Prop} :
    (∀ o ∈ planeStarts info, p o) ↔
      p (startX info (cutX info) * 2 + startY info (cutY info) * pitch info).toUInt32 := by
  have hno : ¬ isPlanar info.fourcc = true := by rw [hpacked]; decide
  unfold isPlanar at hpacked
  obtain ⟨hyv12, hi420⟩ := Bool.or_eq_false_iff.mp hpacked
  unfold planeStarts toldOffsets planeOffsets
  dsimp only
  rw [if_neg hno, List.forall_mem_singleton, if_neg (by rw [hyv12]; decide),
    if_neg (by rw [hi420]; decide)]

/-- **What the places of the planes in a frame are multiples of.** -/
theorem planeStarts_dvd_iff (engine : VgaEngine) (info : VidixPlayback) :
    (∀ o ∈ planeStarts info, (2 : ℤ) ^ shiftOf engine ∣ o.toNat) ↔
      (engine ≠ .sis315 → isPlanar info.fourcc = true → RowsPaired info) := by
  have hword : (2 : ℤ) ^ shiftOf engine ∣ 2 ^ 32 := by
    unfold shiftOf
    split_ifs <;> decide
  have hfour : ∀ {x : ℤ}, 4 ∣ x → (2 : ℤ) ^ shiftOf engine ∣ x := by
    intro x hx
    refine Dvd.dvd.trans ?_ hx
    unfold shiftOf
    split_ifs <;> decide
  obtain ⟨hy, hfirst⟩ := offsets_dvd info (cutX info) (cutY info)
  cases hplanar : isPlanar info.fourcc with
  | false =>
    rw [forall_mem_planeStarts_packed hplanar, dvd_toNat_iff hword]
    rw [hplanar] at hy
    exact iff_of_true (hfour hy) fun _ hno => absurd hno (by decide)
  | true =>
    rw [forall_mem_planeStarts_planar hplanar, dvd_toNat_iff hword, dvd_toNat_iff hword,
      dvd_toNat_iff hword, and_iff_right (hfour (by rwa [hplanar] at hy)),
      and_iff_right (hfour (hfirst hplanar))]
    obtain ⟨htwo, hpaired⟩ := second_dvd hplanar (chroma_dvd (cutX info) (cutY info) hplanar)
    unfold shiftOf
    split_ifs with h315
    · exact iff_of_true htwo fun hne => absurd h315 hne
    · exact hpaired.trans ⟨fun h _ _ => h, fun h => h h315 rfl⟩

/-- No frame of a picture that is longer than the area is granted. -/
theorem frameBytes_le (hw : info.src.w.toNat < 2 ^ 15) (hh : info.src.h.toNat < 2 ^ 15)
    (hframe : frameBytes info < 2 ^ 31) (hpos : 0 < granted info) :
    frameBytes info ≤ areaBytes := by
  by_contra hlong
  have hlong' : 7340032 < frameBytes info := not_le.mp hlong
  have htotal : (totalSize info * 2).toInt = frameBytes info := by
    rw [← (frameValue_eq hw hh).2]
    exact toInt_eq_of_modEq (totalSize_modEq info) (by rw [(frameValue_eq hw hh).2]; omega)
      (by rw [(frameValue_eq hw hh).2]; omega)
  have hquotient : (0x700000 / (totalSize info * 2)).toInt = 0 := by
    rw [Int32.toInt_div_of_ne_left _ _ (by decide), htotal]
    exact Int.tdiv_eq_zero_of_lt (by decide) (Int.ofNat_lt.mpr hlong')
  have hword := toNat_toUInt32 (0x700000 / (totalSize info * 2))
  unfold granted at hpos
  rw [cappedFrames_toNat] at hpos
  omega

section Whole

variable {overlay : Overlay} {mem : UInt64} {srcOffsetX srcOffsetY : Int32}

/-- The address of a frame that is granted. -/
theorem Configured.frameOf_toInt (hc : Configured mem info info' overlay srcOffsetX srcOffsetY)
    (hfilled : Filled areaBytes info') {i : ℕ} (hi : i < granted info) :
    (frameOf info i).toInt = 0x800000 + info'.frameSize.toNat * i := by
  have hnum : info'.numFrames.toNat = granted info := congrArg (·.numFrames.toNat) hc.request
  obtain ⟨f, hf, hvalue⟩ := hc.getElem_frames hfilled (hnum ▸ hi)
  have hframes : overlay.frames[i]? = some (frameOf info i) := by
    have hlist : overlay.frames = (List.range (granted info)).map (frameOf info) := by
      rw [hc.overlay, hc.request]
      exact List.map_map
    rw [hlist, List.getElem?_map, List.getElem?_range hi]
    rfl
  rw [Option.some.inj (hframes.symm.trans hf)]
  exact hvalue

/-- The source is shown from its first pixel on. -/
theorem Configured.start_eq_zero (hc : Configured mem info info' overlay srcOffsetX srcOffsetY)
    (hx : info.src.x = 0) (hy : info.src.y = 0) (hcut : srcOffsetX = 0 ∧ srcOffsetY = 0) :
    startX info (cutX info) = 0 ∧ startY info (cutY info) = 0 := by
  have hcutX : cutX info = srcOffsetX := congrArg (·.getD 0) hc.offsetX
  have hcutY : cutY info = srcOffsetY := congrArg (·.getD 0) hc.offsetY
  rw [hcutX, hcutY, hcut.1, hcut.2]
  unfold startX startY
  rw [hx, hy]
  split_ifs <;> exact ⟨rfl, rfl⟩

/-- **A picture that is shown whole is in reach.** -/
theorem Configured.reach (hc : Configured mem info info' overlay srcOffsetX srcOffsetY)
    (cr sr : UInt8 → UInt8) (hx : info.src.x = 0) (hy : info.src.y = 0)
    (hin : InsideScreen (screenWidthOf cr sr) (screenHeightOf cr) info.dest)
    (hw : info.src.w.toNat < 2 ^ 15) (hh : info.src.h.toNat < 2 ^ 15)
    (hframe : frameBytes info < 2 ^ 31) :
    ∀ i < granted info, ∀ o ∈ planeStarts info,
      0 ≤ (frameOf info i).toInt + o.toNat ∧ (frameOf info i).toInt + o.toNat < 2 ^ 26 := by
  intro i hi
  have hfits : frameBytes info ≤ 7340032 := frameBytes_le hw hh hframe (by omega)
  obtain ⟨hsize, hfilled⟩ := hc.filled hw hh hfits
  have hvalue := hc.frameOf_toInt hfilled hi
  have hlow : (0 : ℤ) ≤ info'.frameSize.toNat * i := by positivity
  have hhigh : (info'.frameSize.toNat : ℤ) * i ≤ 7340032 := by
    have hnum : info'.numFrames.toNat = granted info := congrArg (·.numFrames.toNat) hc.request
    have hmul := (Nat.mul_le_mul_left info'.frameSize.toNat (hnum ▸ hi.le)).trans hfilled.mul_le
    exact_mod_cast hmul
  obtain ⟨hstartX, hstartY⟩ := hc.start_eq_zero hx hy (hc.uncut hin)
  have hstarts : ∀ o ∈ planeStarts info, o.toNat ≤ 7340032 := by
    cases hplanar : isPlanar info.fourcc with
    | false =>
      rw [forall_mem_planeStarts_packed hplanar, hstartX, hstartY, Int32.zero_mul, Int32.zero_mul]
      exact Nat.zero_le _
    | true =>
      unfold frameBytes at hfits
      rw [if_pos hplanar] at hfits
      obtain ⟨hu, hv⟩ := chroma_toNat hw hh (by omega)
      have hchroma : (0 + 0 / 2 : Int32) >>> (1 : Int32) = 0 := rfl
      rw [forall_mem_planeStarts_planar hplanar, hstartX, hstartY, Int32.zero_mul, hchroma]
      simp only [Int32.add_zero]
      rw [hu, hv]
      exact ⟨Nat.zero_le _, by omega, by omega⟩
  intro o ho
  have hle := hstarts o ho
  rw [hvalue]
  omega

end Whole

/-! ### The law -/

/-- What a call leaves for the request `info`. -/
structure Answered (info info' : VidixPlayback) (s' : State) : Prop where
  told : Told s' info'
  fourcc : info'.fourcc = info.fourcc
  starts : toldOffsets info' = planeStarts info
  numFrames : info'.numFrames.toNat = granted info
  frames : ∀ i < granted info, s'.sisFrames i = frameOf info i

theorem Shown.answered {overlay : Overlay} {o : SISOverlayRec}
    (h : Shown s info info' s' overlay o) : Answered info info' s' := by
  obtain ⟨vid, rfl⟩ := h.state
  obtain ⟨srcOffsetX, srcOffsetY, hc⟩ := configured h.layout
  have hcutX : cutX info = srcOffsetX := congrArg (·.getD 0) hc.offsetX
  have hcutY : cutY info = srcOffsetY := congrArg (·.getD 0) hc.offsetY
  have hnum : info'.numFrames.toNat = granted info := congrArg (·.numFrames.toNat) hc.request
  have htold := s.laidOut_told info'
  refine ⟨⟨htold.shift, htold.format, htold.y, htold.u, htold.v⟩, congrArg (·.fourcc) hc.request,
    ?_, hnum, fun i hi => ?_⟩
  · unfold planeStarts
    rw [hcutX, hcutY, hc.request]
    rfl
  · have hoffsets : info'.offsets = (List.range (granted info)).map fun i =>
        (totalSize info * 2).toUInt32 * UInt32.ofNat i := congrArg (·.offsets) hc.request
    show (info'.offsets[i]?).elim (s.prepare.sisFrames i) (fun o => dgaOffset + o.toInt32) = _
    rw [hoffsets, List.getElem?_map, List.getElem?_range hi]
    rfl

/-- The registers hold the addresses of the planes: those of the first frame after the
configuration, and those of a frame that is granted after that has been selected. -/
structure AddressesRight (s' : State) (info' : VidixPlayback) : Prop where
  configured : 0 < info'.numFrames.toNat →
    PlanesSurvive s'.driver.sisVgaEngine s'.vid info' (s'.sisFrames 0)
  selected : ∀ (before : List ℕ), ∀ i < info'.numFrames.toNat,
    PlanesSurvive s'.driver.sisVgaEngine
      (vixPlaybackFrameSelect (before.foldl vixPlaybackFrameSelect s') i).vid info' (s'.sisFrames i)

/-- The planes of a frame that is granted. -/
theorem Answered.survive_iff (h : Answered info info' s') {vid : Ports} {i : ℕ}
    (hi : i < granted info) (hwritten : PlanesWritten engine vid info' (s'.sisFrames i)) :
    PlanesSurvive engine vid info' (s'.sisFrames i) ↔
      (∀ o ∈ planeStarts info, 0 ≤ (frameOf info i).toInt + o.toNat ∧
        (frameOf info i).toInt + o.toNat < 2 ^ 26) ∧
      (engine ≠ .sis315 → isPlanar info.fourcc = true → RowsPaired info) := by
  have hframe : (2 : ℤ) ^ shiftOf engine ∣ (frameOf info i).toInt := by
    refine Dvd.dvd.trans ?_ (frameOf_dvd info i)
    unfold shiftOf
    split_ifs <;> decide
  rw [hwritten.survive_iff, h.starts, h.frames i hi, ← planeStarts_dvd_iff]
  simp only [dvd_add_right hframe]
  exact forall₂_and

/-- **The addresses survive the registers iff they are in reach and the rows are paired where they
have to be.** -/
theorem addresses_iff (h : configure s info = some (0, info', s')) :
    AddressesRight s' info' ↔ AddressesFit s.driver.sisVgaEngine info := by
  obtain ⟨overlay, o, hshown⟩ := shown h
  have hanswer := hshown.answered
  have hconfigured := hshown.written
  have hengine : s.driver.sisVgaEngine = s'.driver.sisVgaEngine := by
    obtain ⟨vid, rfl⟩ := hshown.state
    rfl
  rw [hengine] at hconfigured ⊢
  have hselected : ∀ (before : List ℕ) (i : ℕ), PlanesWritten s'.driver.sisVgaEngine
      (vixPlaybackFrameSelect (before.foldl vixPlaybackFrameSelect s') i).vid info'
      (s'.sisFrames i) := by
    intro before i
    -- the selections before have changed nothing but registers
    obtain ⟨vid, hvid⟩ : ∃ vid, before.foldl vixPlaybackFrameSelect s' = { s' with vid } := by
      refine List.foldlRecOn (motive := fun t => ∃ vid, t = { s' with vid }) before _
        ⟨s'.vid, rfl⟩ ?_
      rintro _ ⟨vid, rfl⟩ frame -
      exact ⟨_, rfl⟩
    rw [hvid]
    have htold : Told { s' with vid } info' := ⟨hanswer.told.shift, hanswer.told.format,
      hanswer.told.y, hanswer.told.u, hanswer.told.v⟩
    exact htold.selected i
  constructor
  · intro hright
    have hsurvive := fun i hi => (hanswer.survive_iff hi (hselected [] i)).mp
      (hright.selected [] i (hanswer.numFrames ▸ hi))
    exact ⟨fun i hi => (hsurvive i hi).1, fun hpos => (hsurvive 0 hpos).2⟩
  · intro hfit
    refine ⟨fun hpos => ?_, fun before i hi => ?_⟩
    · rw [hanswer.numFrames] at hpos
      exact (hanswer.survive_iff hpos hconfigured).mpr ⟨hfit.reach 0 hpos, hfit.paired hpos⟩
    · rw [hanswer.numFrames] at hi
      exact (hanswer.survive_iff hi (hselected before i)).mpr
        ⟨hfit.reach i hi, hfit.paired (by omega)⟩

/-- 352 by 288 pixels in YV12 on the 300 series. -/
theorem sampleState_addresses :
    ∃ info' s', configure sampleState (shrunkPicture 352 288 352 288) = some (0, info', s') ∧
      0 < info'.numFrames ∧ AddressesRight s' info' := by
  obtain ⟨info', s', h⟩ : ∃ info' s',
      configure sampleState (shrunkPicture 352 288 352 288) = some (0, info', s') := ⟨_, _, rfl⟩
  obtain ⟨overlay, o, hshown⟩ := shown h
  obtain ⟨srcOffsetX, srcOffsetY, hc⟩ := configured hshown.layout
  have hreach := hc.reach (fun _ => 0x7f) (fun _ => 0x7f) rfl rfl (by decide) (by decide)
    (by decide) (by decide)
  refine ⟨info', s', h, ?_, (addresses_iff h).mpr ⟨hreach, fun _ _ _ => .inl rfl⟩⟩
  have hnum : info'.numFrames = (laidOut sampleState.driver.sisMemBase
      (totalSize (shrunkPicture 352 288 352 288)) (shrunkPicture 352 288 352 288)).numFrames :=
    congrArg (·.numFrames) hc.request
  rw [hnum]
  decide

/-- **A row of 360 pixels is 45 times eight bytes long, and there are 287 of them: the last plane
begins two bytes beyond a multiple of four, and the chip begins two bytes before it.** -/
theorem plane_misplaced :
    ∃ info' s', configure sampleState (shrunkPicture 360 287 360 287) = some (0, info', s') ∧
      s'.sisFrames 0 = 0x800000 ∧ info'.offset.v = 129150 ∧
      stored .sis300 s'.vid indexViUBufStartLow indexViUBufStartMiddle indexViUBufStartHigh
        indexViUBufStartOver * 2 ^ 2 = 0x800000 + 129148 ∧
      ¬ AddressesRight s' info' := by
  refine ⟨_, _, rfl, rfl, rfl, by decide, fun h => ?_⟩
  have haligned := ((h.configured (by decide)).v (by decide)).aligned
  exact absurd haligned (by decide)

end Vidix.Sis
