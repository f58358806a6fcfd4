import Vidix.Mach64.Equiv.Overlay
import Vidix.Mach64.Equiv.Planes
import Vidix.Util.LinedPlane

/-!
# What the Mach64 overlay shows

As for the Radeon chips, an application draws pictures into the frames that a configuration has
told it of, and the scaler fetches lines from the addresses in its registers.  Here there is one
pitch, in pixels, and the format says how many bytes a pixel has and how much shorter the lines of
the chroma planes are.  For a picture that is shown whole (`ShownWhole`), what is fetched from the
first buffer is what was last drawn into the frame that is shown, whatever else is drawn or called
(`shown_refines`).  Pictures of at most 720 by 720 pixels need nothing more than room for their
chroma planes, and at most 64 frames under a desktop of less than 2 GB.
-/

namespace Vidix.Mach64

open Util

/-! ### What the application is told -/

/-- The bytes of a pixel of the first plane. -/
def pixelBytes (fourcc : UInt32) : ℕ :=
  if isPlanar fourcc then 1 else if fourcc == imgfmtBGR32 then 4 else 2

/-- A line of a picture, aligned to `align` bytes. -/
def strideOf (info : VidixPlayback) (align : UInt32) : ℕ :=
  lumaPitch (info.src.w.toNat * pixelBytes info.fourcc) align.toNat

/-- The planes of a picture, at the offsets and with the alignment that the application has been
told. -/
def toldPlanes (info : VidixPlayback) : List LinedPlane :=
  let stride := strideOf info info.dest.pitch.y
  let lines := info.src.h.toNat
  let s := chromaDiv info.fourcc
  ⟨info.offset.y.toNat, stride, lines⟩ ::
    if isPlanar info.fourcc then
      [⟨info.offset.u.toNat, stride / s, lines / s⟩, ⟨info.offset.v.toNat, stride / s, lines / s⟩]
    else []

/-- Where a frame begins in the video memory. -/
def frameBase (d : Driver) (info : VidixPlayback) (i : ℕ) : ℕ :=
  d.overlayOffset.toUInt32.toNat + (info.offsets.getD i 0).toNat

/-- Where the application draws a sample of a frame. -/
def place {n : ℕ} (d : Driver) (info : VidixPlayback) (i : Fin n) : Sample → ℕ :=
  samplePlace (toldPlanes info) (frameBase d info i)

/-! ### What the scaler fetches -/

/-- The bytes of a pixel, and by how much the chroma lines are shorter. -/
def scalerFormat (videoFormat : UInt32) : ℕ × ℕ :=
  if videoFormat = scalerInYuv12 then (1, 2)
  else if videoFormat = scalerInYuv9 then (1, 4)
  else if videoFormat = scalerInRgb32 then (4, 1)
  else (2, 1)

/-- Where the samples come from while the overlay is on. -/
def fetch (s : State) : Option (Sample → ℕ) :=
  if s.regs.isOn then
    let format := scalerFormat s.regs.videoFormat
    let pitch := s.regs.scalerBufPitch.toNat * format.1
    let buf := s.regs.scalerBuf0
    some fun k =>
      match k.plane with
      | 0 => buf.y.toNat + k.line * pitch + k.column
      | 1 => buf.u.toNat + k.line * (pitch / format.2) + k.column
      | _ => buf.v.toNat + k.line * (pitch / format.2) + k.column
  else none

/-- The picture is shown from its first pixel on, the rows of its frames are in the table, and its
chroma planes have room. -/
structure ShownWhole (d : Driver) (info : VidixPlayback) : Prop where
  x : info.src.x = 0
  y : info.src.y = 0
  w : 1 ≤ info.src.w.toNat
  h : 1 ≤ info.src.h.toNat
  frames : info.numFrames.toNat ≤ bufferRows
  desktop : 0 ≤ (rgbSize d.regs).toInt32.toInt
  room : isPlanar info.fourcc = true →
    overhang up16 (chromaDiv info.fourcc) (pitchBytes info) info.src.h.toNat ≤ 256

/-! ### Formats -/

section Sizes

variable {d : Driver} {info : VidixPlayback}

/-- The formats of the driver, one by one. -/
theorem supported_cases {fourcc : UInt32} (h : isSupportedFourcc d fourcc = true) :
    fourcc ∈ [imgfmtYV12, imgfmtI420, imgfmtIYUV, imgfmtYVU9, imgfmtYUY2, imgfmtUYVY, imgfmtBGR15,
      imgfmtBGR16, imgfmtBGR32] := by
  unfold isSupportedFourcc Radeon.is420 at h
  split_ifs at h with hplanar
  · simp only [Bool.or_eq_true, beq_iff_eq] at hplanar
    rcases hplanar with ((h | h) | h) | h <;> simp [h]
  · rw [List.contains_iff_mem] at h
    exact List.mem_append_right [imgfmtYV12, imgfmtI420, imgfmtIYUV, imgfmtYVU9] h

/-- The scaler is told of the format as it is drawn. -/
theorem scalerFormat_videoFormatOf {fourcc : UInt32} (h : isSupportedFourcc d fourcc = true) :
    scalerFormat (videoFormatOf fourcc) =
      (pixelBytes fourcc, if isPlanar fourcc then chromaDiv fourcc else 1) := by
  have hcases := supported_cases h
  simp only [List.mem_cons, List.not_mem_nil, or_false] at hcases
  rcases hcases with rfl | rfl | rfl | rfl | rfl | rfl | rfl | rfl | rfl <;> decide

/-- `IMGFMT_RGB32`, which is treated like `IMGFMT_BGR32`, is not supported. -/
theorem isRgb32_eq {fourcc : UInt32} (h : isSupportedFourcc d fourcc = true) :
    Radeon.isRgb32 fourcc = (fourcc == imgfmtBGR32) := by
  have hcases := supported_cases h
  simp only [List.mem_cons, List.not_mem_nil, or_false] at hcases
  rcases hcases with rfl | rfl | rfl | rfl | rfl | rfl | rfl | rfl | rfl <;> decide

/-! ### Lines -/

/-- A line, as the driver aligns it. -/
def lineStride (info : VidixPlayback) : ℕ :=
  strideOf info (mach64QueryPitch info.fourcc info.src.pitch)

theorem lineStride_of_planar (hf : isPlanar info.fourcc = true) :
    lineStride info = pitchBytes info := by
  unfold lineStride strideOf pixelBytes pitchBytes
  rw [if_pos hf, Nat.mul_one]

/-- Lines are multiples of 16 and not long. -/
theorem Small.lineStride_spec (h : Small info) :
    lineStride info % 16 = 0 ∧ lineStride info ≤ 3135 := by
  obtain ⟨k, hk4, hk8, hk⟩ := mach64QueryPitch_eq info.fourcc info.src.pitch
  have hpow : 2 ^ k ≤ 2 ^ 8 := Nat.pow_le_pow_right (by decide) hk8
  have hpos := Nat.two_pow_pos k
  have hbytes : pixelBytes info.fourcc ≤ 4 := by
    unfold pixelBytes
    split_ifs <;> decide
  have hline : info.src.w.toNat * pixelBytes info.fourcc ≤ 720 * 4 :=
    Nat.mul_le_mul h.width_le hbytes
  have hdvd : 16 ∣ lineStride info := by
    unfold lineStride strideOf
    rw [hk]
    exact (pow_dvd_pow 2 hk4).trans (dvd_lumaPitch _ _)
  refine ⟨Nat.mod_eq_zero_of_dvd hdvd, ?_⟩
  unfold lineStride strideOf lumaPitch
  rw [hk]
  have hdiv := Nat.div_mul_le_self
    (info.src.w.toNat * pixelBytes info.fourcc + (2 ^ k - 1)) (2 ^ k)
  omega

/-- The rounding of the driver for a line of bytes. -/
theorem Small.toNat_alignLine (h : Small info) {x : UInt32}
    (hx : x.toNat = info.src.w.toNat * pixelBytes info.fourcc) :
    (alignUp x (mach64QueryPitch info.fourcc info.src.pitch - 1)).toNat = lineStride info := by
  obtain ⟨k, -, hk8, hk⟩ := mach64QueryPitch_eq info.fourcc info.src.pitch
  have hle := h.lineStride_spec.2
  have hpow : 2 ^ k ≤ 2 ^ 8 := Nat.pow_le_pow_right (by decide) hk8
  have hpos := Nat.two_pow_pos k
  have hmask : (mach64QueryPitch info.fourcc info.src.pitch - 1).toNat = 2 ^ k - 1 := by
    rw [UInt32.toNat_sub, hk, show (1 : UInt32).toNat = 1 from rfl]
    omega
  unfold lineStride strideOf at hle ⊢
  rw [← hx, hk] at hle ⊢
  exact Vidix.toNat_alignUp hmask (by omega) (by omega)

/-- The bytes of a line of a packed format, in a word. -/
theorem Small.toNat_packedLine (h : Small info) (hf : isPlanar info.fourcc = false) :
    (if info.fourcc == imgfmtBGR32 then info.src.w * 4 else info.src.w * 2).toNat =
      info.src.w.toNat * pixelBytes info.fourcc := by
  have hw := h.width_le
  unfold pixelBytes
  rw [hf, if_neg Bool.false_ne_true]
  split_ifs
  · rw [UInt32.toNat_mul, show (4 : UInt32).toNat = 4 from rfl]
    omega
  · rw [UInt32.toNat_mul, show (2 : UInt32).toNat = 2 from rfl]
    omega

/-- The pitch register counts pixels. -/
theorem Small.toNat_vidBufPitch (h : Small info) (hsup : isSupportedFourcc d info.fourcc = true) :
    (linePitch info).2.toNat * pixelBytes info.fourcc = lineStride info := by
  obtain ⟨h16, -⟩ := h.lineStride_spec
  have halign : ∀ x : UInt32, x.toNat = info.src.w.toNat * pixelBytes info.fourcc →
      (alignUp x (mach64QueryPitch info.fourcc info.src.pitch - 1)).toNat = lineStride info :=
    fun x hx => h.toNat_alignLine hx
  cases hf : isPlanar info.fourcc with
  | true =>
    have hbytes : pixelBytes info.fourcc = 1 := if_pos hf
    unfold linePitch
    dsimp only
    rw [if_pos (show (Radeon.is420 info.fourcc || info.fourcc == imgfmtYVU9) = true from hf)]
    rw [halign info.src.w (by rw [hbytes, Nat.mul_one]), hbytes, Nat.mul_one]
  | false =>
    have hline := h.toNat_packedLine hf
    have hnot : ¬ (Radeon.is420 info.fourcc || info.fourcc == imgfmtYVU9) = true := by
      rw [show (Radeon.is420 info.fourcc || info.fourcc == imgfmtYVU9) = false from hf]
      exact Bool.false_ne_true
    unfold linePitch
    dsimp only
    rw [if_neg hnot, isRgb32_eq hsup]
    unfold pixelBytes at hline halign ⊢
    rw [hf, if_neg Bool.false_ne_true] at hline halign ⊢
    split_ifs at hline halign ⊢
    · rw [UInt32.toNat_shiftRight, halign _ hline, Nat.shiftRight_eq_div_pow]
      show lineStride info / 2 ^ 2 * 4 = lineStride info
      omega
    · rw [UInt32.toNat_shiftRight, halign _ hline, Nat.shiftRight_eq_div_pow]
      show lineStride info / 2 ^ 1 * 2 = lineStride info
      omega

/-! ### Frames -/

/-- A frame of a packed picture has room for its lines, and its size is a multiple of 16. -/
theorem Small.packedFrame (h : Small info) (hf : isPlanar info.fourcc = false) :
    lineStride info * info.src.h.toNat ≤ (mach64ComputeFramesize info).toNat ∧
      (mach64ComputeFramesize info).toNat % 16 = 0 := by
  obtain ⟨h16, hle⟩ := h.lineStride_spec
  have hh := h.height_le
  have hmul : lineStride info * info.src.h.toNat ≤ 3135 * 720 := Nat.mul_le_mul hle hh
  have hmul16 : lineStride info * info.src.h.toNat % 16 = 0 := by
    rw [Nat.mul_mod, h16, Nat.zero_mul, Nat.zero_mod]
  have hline := h.toNat_alignLine (h.toNat_packedLine hf)
  have hsize : mach64ComputeFramesize info = (alignUp
      (if info.fourcc == imgfmtBGR32 then info.src.w * 4 else info.src.w * 2)
      (mach64QueryPitch info.fourcc info.src.pitch - 1) * info.src.h + 256) &&& ~~~16 := by
    unfold isPlanar at hf
    rw [Bool.or_eq_false_iff] at hf
    unfold mach64ComputeFramesize
    dsimp only
    rw [hf.1, hf.2, if_neg Bool.false_ne_true, if_neg Bool.false_ne_true]
    split_ifs <;> rfl
  have hsum : (alignUp (if info.fourcc == imgfmtBGR32 then info.src.w * 4 else info.src.w * 2)
      (mach64QueryPitch info.fourcc info.src.pitch - 1) * info.src.h + 256).toNat =
        lineStride info * info.src.h.toNat + 256 := by
    rw [UInt32.toNat_add, UInt32.toNat_mul, hline, show (256 : UInt32).toNat = 256 from rfl]
    omega
  rw [hsize, toNat_and_not_bit (k := 4) rfl, hsum]
  omega

end Sizes

/-! ### An accepted configuration -/

section Accepted

variable {d d' : Driver} {info told : VidixPlayback}

theorem toldPlanes_eq (h : vixConfigPlayback d info = some (0, d', told)) :
    toldPlanes told =
      ⟨told.offset.y.toNat, lineStride info, info.src.h.toNat⟩ ::
        if isPlanar info.fourcc then
          [⟨told.offset.u.toNat, lineStride info / chromaDiv info.fourcc,
              info.src.h.toNat / chromaDiv info.fourcc⟩,
            ⟨told.offset.v.toNat, lineStride info / chromaDiv info.fourcc,
              info.src.h.toNat / chromaDiv info.fourcc⟩]
        else [] := by
  have hacc := vixConfigPlayback_accepted h
  have hstride : strideOf told told.dest.pitch.y = lineStride info := by
    unfold lineStride strideOf
    rw [(vixConfigPlayback_noted h).destPitch, hacc.fourcc, hacc.src]
  unfold toldPlanes
  dsimp only
  rw [hstride, hacc.fourcc, hacc.src]

/-- A packed picture begins with its frame. -/
theorem planeOffsets_of_packed (hf : isPlanar info.fourcc = false) (hx : info.src.x = 0)
    (hy : info.src.y = 0) : planeOffsets info = (⟨0, 0, 0⟩, ⟨0, 0, 0⟩) := by
  unfold isPlanar at hf
  rw [Bool.or_eq_false_iff] at hf
  unfold planeOffsets
  simp [hf.1, hf.2, hx, hy]

/-- **The planes that the application is told of lie in a frame, apart from each other.** -/
theorem ShownWhole.toldPlanes_packedIn (hwhole : ShownWhole d info)
    (h : vixConfigPlayback d info = some (0, d', told)) :
    PackedIn (mach64ComputeFramesize info).toNat
      ((toldPlanes told).map LinedPlane.region) := by
  have hacc := vixConfigPlayback_accepted h
  rw [toldPlanes_eq h, hacc.offset]
  cases hf : isPlanar info.fourcc with
  | true =>
    have hpacked := (hacc.small.packedIn_iff hf hwhole.w hwhole.h).mpr (hwhole.room hf)
    rw [planeOffsets_of_origin hf hwhole.x hwhole.y, lineStride_of_planar hf]
    exact hpacked
  | false =>
    rw [planeOffsets_of_packed hf hwhole.x hwhole.y]
    refine packedIn_one_iff.mpr (.inr ?_)
    show 0 + lineStride info * info.src.h.toNat ≤ _
    rw [Nat.zero_add]
    exact (hacc.small.packedFrame hf).1

/-- The number of frames, and where they begin. -/
theorem ShownWhole.numFrames_le (hwhole : ShownWhole d info)
    (h : vixConfigPlayback d info = some (0, d', told)) :
    told.numFrames.toNat = (search d info).1 ∧ (search d info).1 ≤ bufferRows := by
  have hle : (search d info).1 ≤ (cappedFrames info.numFrames).toNat := placeFrames_fst_le _ _
  rw [cappedFrames_toNat] at hle
  exact ⟨(vixConfigPlayback_accepted h).toNat_numFrames,
    hle.trans ((Nat.min_le_left _ _).trans hwhole.frames)⟩

/-- The offset of a frame, without a wrap. -/
theorem ShownWhole.toNat_offset (hwhole : ShownWhole d info)
    (h : vixConfigPlayback d info = some (0, d', told)) {i : ℕ} (hi : i < (search d info).1) :
    told.offsets[i]? = some (told.frameSize * UInt32.ofNat i) ∧
      (told.frameSize * UInt32.ofNat i).toNat = i * (mach64ComputeFramesize info).toNat := by
  have hacc := vixConfigPlayback_accepted h
  obtain ⟨hn, hle⟩ := hwhole.numFrames_le h
  have hrows : bufferRows = 64 := rfl
  have hfs := mach64ComputeFramesize_le hacc.small.width_le hacc.small.height_le
  have hmul := Nat.mul_le_mul (show i ≤ 63 by omega) hfs
  refine ⟨?_, ?_⟩
  · rw [hacc.offsets]
    exact frameOffsets_getElem _ _ (by omega)
  · rw [UInt32.toNat_mul, toNat_ofNat_of_lt (by omega), hacc.frameSize, Nat.mul_comm,
      Nat.mod_eq_of_lt (by omega)]

theorem ShownWhole.frameBase_eq (hwhole : ShownWhole d info)
    (h : vixConfigPlayback d info = some (0, d', told)) {i : ℕ} (hi : i < (search d info).1) :
    frameBase d' told i =
      d'.overlayOffset.toUInt32.toNat + i * (mach64ComputeFramesize info).toNat := by
  obtain ⟨ho, hoff⟩ := hwhole.toNat_offset h hi
  unfold frameBase
  rw [List.getD_eq_getElem?_getD, ho, Option.getD_some, hoff]

/-- The frames are apart. -/
theorem ShownWhole.frameBase_apart (hwhole : ShownWhole d info)
    (h : vixConfigPlayback d info = some (0, d', told)) {i j : Fin (search d info).1}
    (hij : i ≠ j) :
    frameBase d' told i + (mach64ComputeFramesize info).toNat ≤ frameBase d' told j ∨
      frameBase d' told j + (mach64ComputeFramesize info).toNat ≤ frameBase d' told i := by
  rw [hwhole.frameBase_eq h i.isLt, hwhole.frameBase_eq h j.isLt]
  exact slots_apart (fun heq => hij (Fin.ext heq)) _ _

/-- The rows of packed frames, too, are stored where they are reported. -/
theorem ShownWhole.rowsAgree_of_packed (hwhole : ShownWhole d info)
    (h : vixConfigPlayback d info = some (0, d', told)) (hf : isPlanar info.fourcc = false) :
    RowsAgree d' told := by
  have hacc := vixConfigPlayback_accepted h
  obtain ⟨hn, hle⟩ := hwhole.numFrames_le h
  have hrows : bufferRows = 64 := rfl
  have hfs := mach64ComputeFramesize_le hacc.small.width_le hacc.small.height_le
  have hplaces := planeOffsets_of_packed hf hwhole.x hwhole.y
  have hoffset : told.offset = ⟨0, 0, 0⟩ := by rw [hacc.offset, hplaces]
  have hoverlay : d'.overlayOffset.toUInt32.toNat % 16 = 0 := by
    have haligned := search_aligned hacc.found
    rw [hacc.overlayOffset]
    omega
  intro i hi
  rw [hn] at hi
  obtain ⟨ho, hoff⟩ := hwhole.toNat_offset h hi
  have hmul := Nat.mul_le_mul (show i ≤ 63 by omega) hfs
  have hframe16 : (told.frameSize * UInt32.ofNat i).toNat % 16 = 0 := by
    rw [hoff, Nat.mul_mod, (hacc.small.packedFrame hf).2, Nat.mul_zero, Nat.zero_mod]
  have hstored : StoredAt d'.overlayOffset (told.frameSize * UInt32.ofNat i) 0
      ((d'.overlayOffset.toUInt32 + told.frameSize * UInt32.ofNat i + 0) &&& ~~~15) :=
    storedAt_of_aligned hoverlay hframe16 rfl (by
      rw [hoff, show (0 : UInt32).toNat = 0 from rfl]
      omega)
  have hrow : d'.row i = some
      { y := (d'.overlayOffset.toUInt32 + told.frameSize * UInt32.ofNat i + 0) &&& ~~~15
        u := (d'.overlayOffset.toUInt32 + told.frameSize * UInt32.ofNat i + 0) &&& ~~~15
        v := (d'.overlayOffset.toUInt32 + told.frameSize * UInt32.ofNat i + 0) &&& ~~~15 } := by
    rw [hacc.row_eq (by omega) (by omega), bufferRowsAt, List.getElem?_map, ho, hplaces]
    rfl
  refine ⟨_, _, ho, hrow, ?_⟩
  rw [hoffset]
  exact ⟨hstored, hstored, hstored⟩

/-- **The rows of the frames are where the application fills them.** -/
theorem ShownWhole.row_eq (hwhole : ShownWhole d info)
    (h : vixConfigPlayback d info = some (0, d', told)) {i : ℕ} (hi : i < (search d info).1) :
    ∃ row, d'.row i = some row ∧
      row.y.toNat = frameBase d' told i + told.offset.y.toNat ∧
      row.u.toNat = frameBase d' told i + told.offset.u.toNat ∧
      row.v.toNat = frameBase d' told i + told.offset.v.toNat := by
  have hacc := vixConfigPlayback_accepted h
  obtain ⟨hn, hle⟩ := hwhole.numFrames_le h
  have hagree : RowsAgree d' told := by
    cases hf : isPlanar info.fourcc with
    | true => exact rowsAgree hf hwhole.x hwhole.y hacc (hn.trans_le hle)
    | false => exact hwhole.rowsAgree_of_packed h hf
  have hsafe := safePlayback_of_le hwhole.frames hwhole.desktop d' told h
  have hnonneg := hsafe.off_nonneg
  obtain ⟨o, row, ho, hrow, hy, hu, hv⟩ := hagree i (by rw [hn]; exact hi)
  have hoverlay := toInt_eq d'.overlayOffset
  have hlt := d'.overlayOffset.toUInt32.toNat_lt
  have hsum : ∀ plane stored, StoredAt d'.overlayOffset o plane stored →
      stored.toNat = frameBase d' told i + plane.toNat := by
    intro plane stored hstored
    have htrue := hstored.sum hnonneg
    dsimp only at hnonneg
    unfold frameBase
    rw [List.getD_eq_getElem?_getD, ho, Option.getD_some]
    split_ifs at hoverlay <;> omega
  exact ⟨row, hrow, hsum _ _ hy, hsum _ _ hu, hsum _ _ hv⟩

/-- **The frame that is shown is fetched where it has been filled.** -/
theorem ShownWhole.fetchesFrame (hwhole : ShownWhole d info)
    (h : vixConfigPlayback d info = some (0, d', told)) {s : State} {i j : ℕ}
    (hi : i < (search d info).1) (hdriver : s.driver = d') (hs : Shown s i j) :
    ∃ adrs, fetch s = some adrs ∧ ∀ k ∈ pictureSamples (toldPlanes told),
      adrs k = samplePlace (toldPlanes told) (frameBase d' told i) k := by
  have hacc := vixConfigPlayback_accepted h
  have hsup := (searches_of_accepted h).supported
  have hnoted := vixConfigPlayback_noted h
  obtain ⟨row, hrow, hy, hu, hv⟩ := hwhole.row_eq h hi
  have hbuf : s.regs.scalerBuf0 = row := by
    have hbuf0 := hs.buf0
    rw [hdriver, hrow] at hbuf0
    exact (Option.some.inj hbuf0).symm
  have hformat : scalerFormat s.regs.videoFormat =
      (pixelBytes info.fourcc, if isPlanar info.fourcc then chromaDiv info.fourcc else 1) := by
    rw [hs.format, hdriver, hnoted.fourcc]
    exact scalerFormat_videoFormatOf hsup
  have hpitch : s.regs.scalerBufPitch.toNat * pixelBytes info.fourcc = lineStride info := by
    rw [hs.pitch, hdriver, hnoted.vidBufPitch]
    exact hacc.small.toNat_vidBufPitch hsup
  refine ⟨_, if_pos hs.on, fun k hk => ?_⟩
  obtain ⟨p, hp, -, -⟩ := mem_pictureSamples_iff.mp hk
  rw [samplePlace, hp, Option.elim_some, hformat, hbuf]
  dsimp only
  rw [hpitch]
  obtain ⟨plane, line, column⟩ := k
  rw [toldPlanes_eq h] at hp
  unfold LinedPlane.adrs
  cases hf : isPlanar info.fourcc with
  | true =>
    rw [hf] at hp
    rcases plane with _ | _ | _ | plane
    · cases hp
      show row.y.toNat + line * lineStride info + column = _
      dsimp only
      omega
    · cases hp
      show row.u.toNat + line * (lineStride info / chromaDiv info.fourcc) + column = _
      dsimp only
      omega
    · cases hp
      show row.v.toNat + line * (lineStride info / chromaDiv info.fourcc) + column = _
      dsimp only
      omega
    · simp at hp
  | false =>
    -- there is only the first plane
    rw [hf] at hp
    cases plane with
    | zero =>
      cases hp
      show row.y.toNat + line * lineStride info + column = _
      dsimp only
      omega
    | succ m => simp at hp

end Accepted

/-! ### Runs -/

/-- **What is fetched is the picture last drawn into the frame that is shown,** for any order of
drawings, calls and scans after an accepted configuration. -/
theorem shown_refines {β : Type*} (s c : State) (info told : VidixPlayback)
    (h : configure s info = some (0, c, told)) (hwhole : ShownWhole s.driver info)
    (memory : ℕ → β)
    (requests : List (DisplayRequest (Fin (search s.driver info).1) Sample β
      (OverlayCall (Fin (search s.driver info).1)))) :
    ∃ hn : 0 < (search s.driver info).1,
      let samples := pictureSamples (toldPlanes told)
      (answers (displayStep samples (place c.driver told)
          (fun s call => (callStep s (OverlayCall.toWord call)).getD s) fetch)
            ⟨memory, c⟩ requests).1 =
        (answers (framesStep samples (Asked.turn s.supportsColourAdj hn)
            fun a => a.shown.map Prod.fst)
          ⟨fun i k => memory (place c.driver told i k), Asked.none s.equal⟩ requests).1 := by
  obtain ⟨hd, hc⟩ := configure_eq_some h
  have hready := configure_ready h (hwhole.numFrames_le hd).2
  have hequal : c.equal = s.equal := by rw [hc]
  have hchip : c.supportsColourAdj = s.supportsColourAdj := by rw [hc]
  have hcall : ∀ s' a call, Follows c s' a →
      Follows c ((callStep s' (OverlayCall.toWord call)).getD s')
        (a.turn s.supportsColourAdj hready.pos call) := by
    intro s' a call hfollows
    obtain ⟨s'', hstep, hs''⟩ := hfollows.step hready call
    rw [hstep, ← hchip]
    exact hs''
  have hfollows : Follows c c (Asked.none (n := (search s.driver info).1) s.equal) :=
    hequal ▸ hready.follows
  refine ⟨hready.pos, display_refines (placesApart (hwhole.toldPlanes_packedIn hd)
    fun i j hij => hwhole.frameBase_apart hd hij) hcall (fun s' a hs' => ?_) hfollows requests⟩
  -- the overlay is off, or it shows a frame
  have hregs := hs'.regs
  unfold FetchesFront
  cases hshown : a.shown with
  | none =>
    rw [hshown] at hregs
    have hoff : fetch s' = none := if_neg (by rw [hregs.1]; decide)
    rw [hoff]
    exact Option.Rel.none
  | some ij =>
    rw [hshown] at hregs
    obtain ⟨adrs, hadrs, hplace⟩ := hwhole.fetchesFrame hd ij.1.isLt hs'.driver hregs
    rw [hadrs]
    exact Option.Rel.some hplace

/-- A picture that is drawn into the second frame is fetched when that frame is selected. -/
theorem shown_refines_sample :
    ∃ c told, configure sampleState (sampleRequest imgfmtYV12 352 288 3) = some (0, c, told) ∧
      ∃ h : 1 < (search sampleDriver (sampleRequest imgfmtYV12 352 288 3)).1,
        let samples := pictureSamples (toldPlanes told)
        (answers (displayStep samples
            (place (n := (search sampleDriver (sampleRequest imgfmtYV12 352 288 3)).1)
              c.driver told)
            (fun s call => (callStep s (OverlayCall.toWord call)).getD s) fetch) ⟨fun _ => 0, c⟩
            [.scan, .draw ⟨1, h⟩ Sample.line, .call .playbackOn, .call (.frameSelect ⟨1, h⟩),
              .call (.setEq sampleEq), .scan]).1 =
          [none, none, none, none, none, some (samples.map Sample.line)] := by
  have hlt : 1 < (search sampleDriver (sampleRequest imgfmtYV12 352 288 3)).1 := by decide
  have hwhole : ShownWhole sampleDriver (sampleRequest imgfmtYV12 352 288 3) :=
    ⟨rfl, rfl, by decide, by decide, by decide, by decide, fun _ => by decide⟩
  obtain ⟨c, told, h, -⟩ := configure_sample
  obtain ⟨hn, heq⟩ := shown_refines sampleState c (sampleRequest imgfmtYV12 352 288 3) told h hwhole
    (fun _ => 0) [.scan, .draw ⟨1, hlt⟩ Sample.line, .call .playbackOn,
      .call (.frameSelect ⟨1, hlt⟩), .call (.setEq sampleEq), .scan]
  refine ⟨c, told, h, hlt, heq.trans ?_⟩
  simp [answers, framesStep, Asked.turn, Asked.none]

end Vidix.Mach64
