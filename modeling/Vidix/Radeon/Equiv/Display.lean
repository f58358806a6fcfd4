import Vidix.Radeon.Equiv.Overlay
import Vidix.Radeon.Equiv.Addresses
import Vidix.Util.LinedPlane

/-!
# What the Radeon overlay shows

An application draws a picture into the frames of a configuration, at the offsets and with the
alignment of lines that it has been told, and turns the overlay on and off, selects frames and sets
keys.  The scaler fetches lines from the addresses and with the pitches in its registers.  For a
picture that is shown whole (`ShownWhole`), what it fetches is the picture that was last drawn into
the frame that is shown, whatever else has been drawn or called (`overlay_refines`).
-/

namespace Vidix.Radeon

open Util

/-! ### What the application is told -/

/-- By how much the chroma planes are smaller, for the formats that have any. -/
def planeDiv (fourcc : UInt32) : Option ℕ := if isPlanar fourcc then chromaDiv fourcc else none

/-- The bytes of a line of the first plane. -/
def lineBytes (info : VidixPlayback) : ℕ :=
  if isPlanar info.fourcc then info.src.w.toNat
  else if isRgb32 info.fourcc then info.src.w.toNat * 4
  else info.src.w.toNat * 2

/-- A line, aligned as the application has been told. -/
def toldStride (info : VidixPlayback) : ℕ := lumaPitch (lineBytes info) info.dest.pitch.y.toNat

/-- The planes of a picture, at the offsets that the application has been told, in the order in
which the chip has them. -/
def toldPlanes (info : VidixPlayback) : List LinedPlane :=
  let stride := toldStride info
  let lines := info.src.h.toNat
  ⟨info.offset.y.toNat, stride, lines⟩ ::
    match planeDiv info.fourcc with
    | none => []
    | some s =>
      [⟨(if isI420 info.fourcc then info.offset.u else info.offset.v).toNat, stride / s, lines / s⟩,
        ⟨(if isI420 info.fourcc then info.offset.v else info.offset.u).toNat, stride / s,
          lines / s⟩]

/-- Where a frame begins in the video memory. -/
def frameBase (d : Driver) (info : VidixPlayback) (i : ℕ) : ℕ :=
  (overlayBase d).toNat + (info.offsets.getD i 0).toNat

/-! ### What the scaler fetches -/

/-- The address of a byte of a line; the lowest bit of a base address says which pitch is used. -/
def lineAdrs (regs : Ov0) (buf : UInt32) (line column : ℕ) : ℕ :=
  (adrsBits buf).toNat + line *
    (if buf &&& vifBufPitchSel = 0 then regs.vidBufPitch0Value else regs.vidBufPitch1Value).toNat +
      column

/-- Where the samples come from while the overlay is on. -/
def fetch (s : State) : Option (Sample → ℕ) :=
  if s.regs.isOn then
    some fun k =>
      match k.plane with
      | 0 => lineAdrs s.regs s.regs.vidBufBaseAdrs.vidBuf0 k.line k.column
      | 1 => lineAdrs s.regs s.regs.vidBufBaseAdrs.vidBuf1 k.line k.column
      | _ => lineAdrs s.regs s.regs.vidBufBaseAdrs.vidBuf2 k.line k.column
  else none

/-- The picture is shown from its first pixel on, its frames lie below 256 MB, and so does what they
are made of. -/
structure ShownWhole (base n : ℕ) (info : VidixPlayback) : Prop where
  x : info.src.x = 0
  y : info.src.y = 0
  w : 1 ≤ info.src.w.toNat
  h : 1 ≤ info.src.h.toNat
  below : FramesBelow base n (radeonComputeFramesize info)
  planar : isPlanar info.fourcc = true → LayoutFits base info ∧ AddressesFit base n info
  packed : isPlanar info.fourcc = false →
    lumaPitch (lineBytes info) (radeonQueryPitch info.fourcc info.src.pitch).toNat *
      info.src.h.toNat + 4095 < 2 ^ 32

/-! ### The sizes of a line -/

section Sizes

variable {d : Driver} {info : VidixPlayback}

/-- A line, as the driver aligns it. -/
def lineStride (info : VidixPlayback) : ℕ :=
  lumaPitch (lineBytes info) (radeonQueryPitch info.fourcc info.src.pitch).toNat

theorem lineStride_of_planar (hf : isPlanar info.fourcc = true) :
    lineStride info = pitchBytes info := by
  unfold lineStride lineBytes pitchBytes
  rw [if_pos hf]

theorem initVideo_pitch (d : Driver) (info : VidixPlayback) :
    (initVideo d info).2.dest.pitch.y = radeonQueryPitch info.fourcc info.src.pitch ∧
      (initVideo d info).1.besr.vidBufPitch0Value = planePitch info ∧
      (initVideo d info).1.besr.vidBufPitch1Value =
        if is410 info.fourcc then planePitch info >>> 2
        else if is420 info.fourcc then planePitch info >>> 1 else planePitch info := by
  cases hplanar : isPlanar info.fourcc with
  | true =>
    unfold isPlanar at hplanar
    unfold initVideo radeonVidInitVideo
    dsimp only
    rw [if_pos hplanar]
    exact ⟨rfl, rfl, rfl⟩
  | false =>
    unfold isPlanar at hplanar
    unfold initVideo radeonVidInitVideo
    dsimp only
    rw [if_neg (by rw [hplanar]; decide)]
    simp only [Bool.or_eq_false_iff] at hplanar
    rw [hplanar.1.1, hplanar.1.2]
    exact ⟨rfl, rfl, rfl⟩

theorem toldStride_initVideo (d : Driver) (info : VidixPlayback) :
    toldStride (initVideo d info).2 = lineStride info := by
  unfold toldStride lineStride lineBytes
  rw [(initVideo_pitch d info).1, initVideo_fourcc, initVideo_src]

/-- The pitch of the driver, when it does not wrap. -/
theorem toNat_planePitch (h : lineStride info < 2 ^ 32) :
    (planePitch info).toNat = lineStride info := by
  obtain ⟨k, -, hk8, hk, -⟩ := radeonQueryPitch_eq info.fourcc info.src.pitch
  have hpow32 : 2 ^ k < 2 ^ 32 := Nat.pow_lt_pow_right (by decide) (by omega)
  have hpow : 0 < 2 ^ k := Nat.two_pow_pos k
  have hmask : (radeonQueryPitch info.fourcc info.src.pitch - 1).toNat = 2 ^ k - 1 := by
    rw [UInt32.toNat_sub, hk, show (1 : UInt32).toNat = 1 from rfl]
    omega
  have hle : lineBytes info ≤ lineStride info := by
    unfold lineStride
    rw [hk]
    exact le_lumaPitch hpow
  -- each of the three products is a line that does not wrap
  have hround : ∀ x : UInt32, x.toNat = lineBytes info →
      (alignUp x (radeonQueryPitch info.fourcc info.src.pitch - 1)).toNat = lineStride info := by
    intro x hx
    have hstride : lumaPitch x.toNat (2 ^ k) = lineStride info := by
      unfold lineStride
      rw [hx, hk]
    rw [← hstride]
    exact toNat_alignUp hmask (by omega) (hstride ▸ h)
  have hplanar : (is400 info.fourcc || is410 info.fourcc || is420 info.fourcc) =
      isPlanar info.fourcc := by
    unfold isPlanar
    cases is400 info.fourcc <;> cases is410 info.fourcc <;> cases is420 info.fourcc <;> rfl
  unfold planePitch
  dsimp only
  rw [hplanar]
  unfold lineBytes at hle hround
  split_ifs at hle hround ⊢
  · exact hround _ rfl
  · exact hround _ (by rw [UInt32.toNat_mul, show (4 : UInt32).toNat = 4 from rfl]; omega)
  · exact hround _ (by rw [UInt32.toNat_mul, show (2 : UInt32).toNat = 2 from rfl]; omega)

end Sizes

/-! ### The planes of a frame -/

section Planes

variable {d : Driver} {info : VidixPlayback}

theorem ShownWhole.lineStride_lt {base n : ℕ} (h : ShownWhole base n info) :
    lineStride info < 2 ^ 32 := by
  have hle : lineStride info ≤ lineStride info * info.src.h.toNat := Nat.le_mul_of_pos_right _ h.h
  cases hf : isPlanar info.fourcc with
  | true =>
    have hsmall := (h.planar hf).1.small
    have hluma : pitchBytes info * info.src.h.toNat ≤
        pictureBytes (chromaDiv info.fourcc) (pitchBytes info) info.src.h.toNat := by
      unfold pictureBytes
      split
      · exact le_rfl
      · exact Nat.mul_le_mul_left _ (Nat.le_add_right _ _)
    rw [lineStride_of_planar hf] at hle ⊢
    omega
  | false =>
    have hsmall : lineStride info * info.src.h.toNat + 4095 < 2 ^ 32 := h.packed hf
    omega

/-- The frame of a packed picture has room for its lines. -/
theorem ShownWhole.lines_le {base n : ℕ} (h : ShownWhole base n info)
    (hf : isPlanar info.fourcc = false) :
    lineStride info * info.src.h.toNat ≤ (radeonComputeFramesize info).toNat := by
  have hsmall : lineStride info * info.src.h.toNat + 4095 < 2 ^ 32 := h.packed hf
  have hsize : radeonComputeFramesize info =
      (planePitch info * info.src.h + 4095) &&& ~~~4095 := by
    unfold isPlanar at hf
    simp only [Bool.or_eq_false_iff] at hf
    unfold radeonComputeFramesize planePitch
    dsimp only
    rw [hf.1.1, hf.1.2, hf.2]
    cases isRgb32 info.fourcc <;> rfl
  have hlines : (planePitch info * info.src.h).toNat = lineStride info * info.src.h.toNat := by
    rw [UInt32.toNat_mul, toNat_planePitch h.lineStride_lt, Nat.mod_eq_of_lt (by omega)]
  rw [hsize, toNat_wholePages _ (hlines ▸ hsmall), hlines, wholePages_eq]
  exact Nat.le_add_right _ _

/-- **The planes that the application is told of lie in a frame, apart from each other.** -/
theorem ShownWhole.toldPlanes_packedIn
    (h : ShownWhole (overlayBase d).toNat d.besr.vidNbufs.toNat info) (hn : d.besr.vidNbufs ≠ 0) :
    PackedIn (radeonComputeFramesize info).toNat
      ((toldPlanes (initVideo d info).2).map LinedPlane.region) := by
  unfold toldPlanes planeDiv
  rw [toldStride_initVideo, initVideo_fourcc, initVideo_src]
  cases hf : isPlanar info.fourcc with
  | true =>
    have hapart := planesApart_advertised_iff.mp
      ((advertised_planesApart_iff d info hf h.x h.y h.w h.h h.below.aligned hn).mpr
        (h.planar hf).1)
    rw [lineStride_of_planar hf]
    cases hdiv : chromaDiv info.fourcc with
    | none =>
      rw [hdiv] at hapart
      exact hapart
    | some s =>
      rw [hdiv] at hapart
      cases hi420 : isI420 info.fourcc with
      | true => exact hapart
      | false => exact packedIn_framePlanes_swap.mp hapart
  | false =>
    have hpos : 0 < d.besr.vidNbufs.toNat :=
      Nat.pos_of_ne_zero fun h0 => hn (UInt32.toNat_inj.mp h0)
    rw [(initVideo_of_packed hf h.x hpos).1]
    refine packedIn_one_iff.mpr (Or.inr ?_)
    show 0 + lineStride info * info.src.h.toNat ≤ _
    rw [Nat.zero_add]
    exact h.lines_le hf

/-- Where the frames begin. -/
theorem frameBase_eq {i : ℕ} (hi : i < d.besr.vidNbufs.toNat)
    (h : ShownWhole (overlayBase d).toNat d.besr.vidNbufs.toNat info) :
    frameBase (initVideo d info).1 (initVideo d info).2 i =
      (overlayBase d).toNat + i * (radeonComputeFramesize info).toNat := by
  obtain ⟨hoff, -, -⟩ :=
    h.below.toNat_offset (radeonComputeFramesize_pages info) hi d.besr.vidNbufs.toNat_lt
  unfold frameBase
  rw [overlayBase_initVideo, initVideo_offsets, List.getD_eq_getElem?_getD,
    frameOffsets_getElem _ _ hi, Option.getD_some, hoff]

/-- The frames are apart. -/
theorem frameBase_apart {n : ℕ} (hn : d.besr.vidNbufs.toNat = n)
    (h : ShownWhole (overlayBase d).toNat d.besr.vidNbufs.toNat info) {i j : Fin n} (hij : i ≠ j) :
    frameBase (initVideo d info).1 (initVideo d info).2 i + (radeonComputeFramesize info).toNat ≤
        frameBase (initVideo d info).1 (initVideo d info).2 j ∨
      frameBase (initVideo d info).1 (initVideo d info).2 j + (radeonComputeFramesize info).toNat ≤
        frameBase (initVideo d info).1 (initVideo d info).2 i := by
  rw [frameBase_eq (hn ▸ i.isLt) h, frameBase_eq (hn ▸ j.isLt) h]
  exact slots_apart (fun heq => hij (Fin.ext heq)) _ _

/-! ### The lines of a frame -/

/-- The base addresses of a frame that begins at `base` have the planes that the application has
been told of, and each says which pitch belongs to it. -/
structure RowPlaced (info : VidixPlayback) (base : ℕ) (row : PlaneAdrs) : Prop where
  luma : (adrsBits row.y).toNat = base + info.offset.y.toNat
  lumaSel : row.y &&& vifBufPitchSel = 0
  chroma : ∀ s ∈ planeDiv info.fourcc,
    (adrsBits row.v).toNat =
        base + (if isI420 info.fourcc then info.offset.u else info.offset.v).toNat ∧
      (adrsBits row.u).toNat =
        base + (if isI420 info.fourcc then info.offset.v else info.offset.u).toNat ∧
      row.v &&& vifBufPitchSel ≠ 0 ∧ row.u &&& vifBufPitchSel ≠ 0

/-- The row of a frame, whatever lies behind the frames. -/
theorem frameTable_row {besr : Besr} {left : ℕ → PlaneAdrs} {i : ℕ} {y u v : UInt32}
    (hy : besr.vidBufBaseAdrsY[i]? = some y) (hu : besr.vidBufBaseAdrsU[i]? = some u)
    (hv : besr.vidBufBaseAdrsV[i]? = some v) :
    (frameTable besr left).vidBufBaseAdrs i = ⟨y, u, v⟩ := by
  simp only [frameTable, List.getD_eq_getElem?_getD, hy, hu, hv, Option.getD_some]

theorem and_one_eq_zero {x : UInt32} (hx : x.toNat % 2 = 0) : x &&& vifBufPitchSel = 0 := by
  apply UInt32.toNat_inj.mp
  rw [UInt32.toNat_and, show vifBufPitchSel.toNat = 1 from rfl, Nat.and_one_is_mod, hx]
  rfl

/-- An address that says that the second pitch is used. -/
theorem or_pitchSel_ne_zero (x : UInt32) : (x ||| vifBufPitchSel) &&& vifBufPitchSel ≠ 0 := by
  rw [or_and_self]
  decide

theorem masked_and_pitchSel (x : UInt32) : x &&& vifBufBaseAdrsMask &&& vifBufPitchSel = 0 := by
  rw [UInt32.and_assoc, show vifBufBaseAdrsMask &&& vifBufPitchSel = 0 by decide, UInt32.and_zero]

theorem planeDiv_eq_some {fourcc : UInt32} {s : ℕ} (hs : s ∈ planeDiv fourcc) :
    isPlanar fourcc = true ∧ chromaDiv fourcc = some s ∧ is400 fourcc = false := by
  unfold planeDiv at hs
  split at hs
  · rename_i hf
    exact ⟨hf, hs, is400_of_chromaDiv_some hs⟩
  · cases hs

/-- **The rows of the frames are where the application fills them.** -/
theorem ShownWhole.rowPlaced
    (h : ShownWhole (overlayBase d).toNat d.besr.vidNbufs.toNat info) (hn : d.besr.vidNbufs ≠ 0)
    {i : ℕ} (hi : i < d.besr.vidNbufs.toNat) (left : ℕ → PlaneAdrs) :
    RowPlaced (initVideo d info).2 (frameBase (initVideo d info).1 (initVideo d info).2 i)
      ((frameTable (initVideo d info).1.besr left).vidBufBaseAdrs i) := by
  have hfit : AddressesFit (overlayBase d).toNat d.besr.vidNbufs.toNat info :=
    fun hf => (h.planar hf).2 hf
  have hagree := (addressesAgree_iff h.x h.y hn h.below).mpr hfit
  have hi' : i < (initVideo d info).1.besr.vidNbufs.toNat := by
    rw [initVideo_vidNbufs]
    exact hi
  obtain ⟨o, y, u, v, ho, hy, hu, hv, hluma, hchroma⟩ := hagree i hi'
  have hbase : frameBase (initVideo d info).1 (initVideo d info).2 i =
      (overlayBase (initVideo d info).1).toNat + o.toNat := by
    unfold frameBase
    rw [List.getD_eq_getElem?_getD, ho, Option.getD_some]
  rw [frameTable_row hy hu hv, hbase]
  cases hf : isPlanar info.fourcc with
  | true =>
    obtain ⟨hY, hUV, -⟩ := initVideo_of_planar hf h.x h.y hi
    refine ⟨hluma, ?_, fun s hs => ?_⟩
    · rw [Option.some.inj (hy.symm.trans hY)]
      exact masked_and_pitchSel _
    · rw [initVideo_fourcc] at hs
      have h400 := (planeDiv_eq_some hs).2.2
      obtain ⟨hU, hV⟩ := hUV h400
      obtain ⟨hu', hv'⟩ := hchroma (by rw [initVideo_fourcc]; exact h400)
      refine ⟨hv', hu', ?_, ?_⟩
      · rw [Option.some.inj (hv.symm.trans hV)]
        exact or_pitchSel_ne_zero _
      · rw [Option.some.inj (hu.symm.trans hU)]
        exact or_pitchSel_ne_zero _
  | false =>
    obtain ⟨-, hY, -, -⟩ := @initVideo_of_packed d info hf h.x i hi
    obtain ⟨-, ho16, hlow⟩ :=
      h.below.toNat_offset (radeonComputeFramesize_pages info) hi d.besr.vidNbufs.toNat_lt
    have haligned := h.below.aligned
    refine ⟨hluma, ?_, fun s hs => ?_⟩
    · rw [Option.some.inj (hy.symm.trans hY)]
      apply and_one_eq_zero
      rw [UInt32.toNat_add]
      omega
    · rw [initVideo_fourcc] at hs
      exact absurd ((planeDiv_eq_some hs).1.symm.trans hf) (by decide)

/-- A line is fetched from where its plane has it, if address and pitch are those of the plane. -/
theorem lineAdrs_eq {regs : Ov0} {buf : UInt32} {p : LinedPlane} {base : ℕ} {pitch : UInt32}
    (hadrs : (adrsBits buf).toNat = base + p.start)
    (hpitch : (if buf &&& vifBufPitchSel = 0 then regs.vidBufPitch0Value
      else regs.vidBufPitch1Value) = pitch)
    (hstride : pitch.toNat = p.stride) (line column : ℕ) :
    lineAdrs regs buf line column = base + p.adrs line column := by
  unfold lineAdrs LinedPlane.adrs
  rw [hadrs, hpitch, hstride]
  omega

/-- The second pitch is that of the chroma planes. -/
theorem ShownWhole.toNat_pitch1
    (h : ShownWhole (overlayBase d).toNat d.besr.vidNbufs.toNat info) {s : ℕ}
    (hs : s ∈ planeDiv info.fourcc) :
    (initVideo d info).1.besr.vidBufPitch1Value.toNat = lineStride info / s := by
  obtain ⟨hf, hdiv, h400⟩ := planeDiv_eq_some hs
  have hpitch := toNat_planePitch h.lineStride_lt
  rw [(initVideo_pitch d info).2.2, ← hpitch]
  unfold chromaDiv at hdiv
  rw [h400] at hdiv
  rcases planar_cases hf with ⟨h420, h410, -⟩ | ⟨h420, h410, -⟩ | ⟨-, -, h400'⟩
  · rw [h410] at hdiv ⊢
    rw [h420]
    obtain rfl : 2 = s := Option.some.inj hdiv
    rw [if_neg Bool.false_ne_true, if_pos rfl, UInt32.toNat_shiftRight,
      Nat.shiftRight_eq_div_pow]
    rfl
  · rw [h410] at hdiv ⊢
    obtain rfl : 4 = s := Option.some.inj hdiv
    rw [if_pos rfl, UInt32.toNat_shiftRight, Nat.shiftRight_eq_div_pow]
    rfl
  · exact absurd (h400'.symm.trans h400) (by decide)

/-- **The frame that is shown is fetched where it has been filled.** -/
theorem ShownWhole.fetchesFrame
    (h : ShownWhole (overlayBase d).toNat d.besr.vidNbufs.toNat info) (hn : d.besr.vidNbufs ≠ 0)
    {s : State} {i j : ℕ} (hi : i < d.besr.vidNbufs.toNat)
    (hdriver : s.driver = (initVideo d info).1) (hs : Shown s i j) :
    ∃ adrs, fetch s = some adrs ∧ ∀ k ∈ pictureSamples (toldPlanes (initVideo d info).2),
      adrs k = samplePlace (toldPlanes (initVideo d info).2)
        (frameBase (initVideo d info).1 (initVideo d info).2 i) k := by
  have hrow := h.rowPlaced hn hi s.left
  rw [← hdriver] at hrow ⊢
  have hpitch0 : s.regs.vidBufPitch0Value.toNat = lineStride info := by
    rw [hs.pitch0, hdriver, (initVideo_pitch d info).2.1, toNat_planePitch h.lineStride_lt]
  refine ⟨_, if_pos hs.on, fun k hk => ?_⟩
  obtain ⟨p, hp, -, -⟩ := mem_pictureSamples_iff.mp hk
  rw [samplePlace, hp, Option.elim_some]
  obtain ⟨plane, line, column⟩ := k
  have hluma : lineAdrs s.regs s.regs.vidBufBaseAdrs.vidBuf0 line column = _ :=
    lineAdrs_eq (p := ⟨(initVideo d info).2.offset.y.toNat, lineStride info, info.src.h.toNat⟩)
      (by rw [hs.adrs]; exact hrow.luma) (by rw [hs.adrs]; exact if_pos hrow.lumaSel) hpitch0
      line column
  unfold toldPlanes at hp
  rw [toldStride_initVideo, initVideo_src] at hp
  cases hdiv : planeDiv info.fourcc with
  | none =>
    -- there is only the first plane
    rw [initVideo_fourcc, hdiv] at hp
    cases plane with
    | zero =>
      cases hp
      exact hluma
    | succ m => simp at hp
  | some t =>
    have hmem : t ∈ planeDiv (initVideo d info).2.fourcc := by
      rw [initVideo_fourcc]
      exact hdiv
    obtain ⟨hv, hu, hvSel, huSel⟩ := hrow.chroma t hmem
    have hpitch1 : s.regs.vidBufPitch1Value.toNat = lineStride info / t := by
      rw [hs.pitch1, hdriver, h.toNat_pitch1 hdiv]
    rw [show planeDiv (initVideo d info).2.fourcc = some t from hmem] at hp
    rcases plane with _ | _ | _ | plane
    · cases hp
      exact hluma
    · cases hp
      exact lineAdrs_eq (by rw [hs.adrs]; exact hv) (by rw [hs.adrs]; exact if_neg hvSel) hpitch1
        line column
    · cases hp
      exact lineAdrs_eq (by rw [hs.adrs]; exact hu) (by rw [hs.adrs]; exact if_neg huSel) hpitch1
        line column
    · simp at hp

end Planes

/-! ### Runs -/

section Runs

variable {β : Type*} {s : State} {info info' : VidixPlayback}

/-- Only the format and the picture matter. -/
theorem ShownWhole.congr {base n : ℕ} (h : ShownWhole base n info)
    (hfourcc : info'.fourcc = info.fourcc) (hsrc : info'.src = info.src) :
    ShownWhole base n info' := by
  have hsize : radeonComputeFramesize info' = radeonComputeFramesize info := by
    unfold radeonComputeFramesize
    rw [hfourcc, hsrc]
  have hpitch : pitchBytes info' = pitchBytes info := by
    unfold pitchBytes
    rw [hfourcc, hsrc]
  have hbytes : lineBytes info' = lineBytes info := by
    unfold lineBytes
    rw [hfourcc, hsrc]
  have hbelow : FramesBelow base n (radeonComputeFramesize info') := by
    rw [hsize]
    exact h.below
  refine ⟨hsrc ▸ h.x, hsrc ▸ h.y, hsrc ▸ h.w, hsrc ▸ h.h, hbelow, fun hf => ?_, fun hf => ?_⟩
  · rw [hfourcc] at hf
    obtain ⟨⟨hsmall, hluma, hchroma⟩, hfit⟩ := h.planar hf
    refine ⟨⟨?_, ?_, ?_⟩, ?_⟩
    · rw [hfourcc, hpitch, hsrc]
      exact hsmall
    · rw [hfourcc, hsrc]
      exact hluma
    · rw [hfourcc, hpitch, hsrc]
      exact hchroma
    · unfold AddressesFit
      rw [hfourcc, hpitch, hsrc, hsize]
      exact hfit
  · rw [hfourcc] at hf
    rw [hbytes, hfourcc, hsrc]
    exact h.packed hf

/-- Where the application draws a sample of a frame. -/
def place {n : ℕ} (d : Driver) (told : VidixPlayback) (i : Fin n) : Sample → ℕ :=
  samplePlace (toldPlanes told) (frameBase d told i)

/-- **What is fetched is the picture last drawn into the frame that is shown,** for any order of
drawings, calls and scans after an accepted configuration. -/
theorem overlay_refines (s : State) (info : VidixPlayback)
    (hf : isSupportedFourcc info.fourcc = true) (hret : (configure s info).1 = 0)
    (hwhole : ShownWhole (search s.driver info).2.toUInt32.toNat (search s.driver info).1 info)
    (memory : ℕ → β)
    (requests : List (DisplayRequest (Fin (search s.driver info).1) Sample β
      (Call (Fin (search s.driver info).1)))) :
    ∃ hn : 0 < (search s.driver info).1,
      let c := (configure s info).2.1
      let told := (configure s info).2.2
      let samples := pictureSamples (toldPlanes told)
      (answers (displayStep samples (place c.driver told)
          (fun s call => callStep s (Call.toWord call)) fetch) ⟨memory, c⟩ requests).1 =
        (answers (framesStep samples (Asked.turn hn) fun a => a.shown.map Prod.fst)
          ⟨fun i k => memory (place c.driver told i k), Asked.none c.bes⟩ requests).1 := by
  have hc := configure_ready hf hret
  refine ⟨hc.pos, ?_⟩
  rw [configure_ret] at hret
  obtain ⟨d', info', h⟩ := vixConfigPlayback_handedOn hf hret
  have hdriver : (configure s info).2.1.driver = (initVideo d' info').1 := by
    rw [configure_of_ret hret]
    exact congrArg Prod.fst h.result
  have htold : (configure s info).2.2 = (initVideo d' info').2 := by
    rw [configure_of_ret hret]
    exact congrArg Prod.snd h.result
  have hwhole' : ShownWhole (overlayBase d').toNat d'.besr.vidNbufs.toNat info' := by
    rw [h.base, h.vidNbufs]
    exact hwhole.congr h.fourcc h.src
  have hplanes := hwhole'.toldPlanes_packedIn h.vidNbufs_ne
  dsimp only
  rw [htold, hdriver]
  unfold place
  have hcall : ∀ s' a call, Follows (configure s info).2.1 s' a →
      Follows (configure s info).2.1 (callStep s' (Call.toWord call)) (a.turn hc.pos call) :=
    fun s' a call hfollows => hfollows.step hc call
  refine display_refines (placesApart hplanes fun i j hij => frameBase_apart h.vidNbufs hwhole' hij)
    hcall (fun s' a hfollows => ?_) hc.follows requests
  -- the overlay is off, or it shows a frame
  have hregs := hfollows.regs
  unfold FetchesFront
  cases hshown : a.shown with
  | none =>
    rw [hshown] at hregs
    have hoff : fetch s' = none := if_neg (by rw [hregs]; decide)
    rw [hoff]
    exact Option.Rel.none
  | some ij =>
    rw [hshown] at hregs
    obtain ⟨adrs, hadrs, hplace⟩ := hwhole'.fetchesFrame h.vidNbufs_ne
      (by rw [h.vidNbufs]; exact ij.1.isLt) (hfollows.driver.trans hdriver) hregs
    rw [hadrs]
    exact Option.Rel.some hplace

end Runs

/-- A picture that is drawn into the second frame is fetched when that frame is selected. -/
theorem overlay_refines_sample :
    ∃ h : 1 < (search sampleState.driver (sampleRequest imgfmtYV12 352 288 3)).1,
      let c := (configure sampleState (sampleRequest imgfmtYV12 352 288 3)).2
      let samples := pictureSamples (toldPlanes c.2)
      (answers (displayStep samples
          (place (n := (search sampleState.driver (sampleRequest imgfmtYV12 352 288 3)).1)
            c.1.driver c.2)
          (fun s call => callStep s (Call.toWord call)) fetch) ⟨fun _ => 0, c.1⟩
          [.scan, .draw ⟨1, h⟩ Sample.line, .call .playbackOn, .call (.frameSelect ⟨1, h⟩),
            .scan]).1 =
        [none, none, none, none, some (samples.map Sample.line)] := by
  have h : 1 < (search sampleState.driver (sampleRequest imgfmtYV12 352 288 3)).1 := by decide
  have hwhole : ShownWhole
      (search sampleState.driver (sampleRequest imgfmtYV12 352 288 3)).2.toUInt32.toNat
      (search sampleState.driver (sampleRequest imgfmtYV12 352 288 3)).1
      (sampleRequest imgfmtYV12 352 288 3) := by
    refine ⟨rfl, rfl, by decide, by decide, ⟨by decide, by decide, by decide⟩,
      fun _ => ⟨⟨by decide, fun _ => by decide, fun s hs _ => ?_⟩, fun _ s hs => ?_⟩,
      fun hf => absurd hf (by decide)⟩ <;>
    · cases hs
      decide
  obtain ⟨hn, heq⟩ := overlay_refines sampleState (sampleRequest imgfmtYV12 352 288 3) (by decide)
    (by decide) hwhole (fun _ => 0)
    [.scan, .draw ⟨1, h⟩ Sample.line, .call .playbackOn, .call (.frameSelect ⟨1, h⟩), .scan]
  refine ⟨h, heq.trans ?_⟩
  simp [answers, framesStep, Asked.turn, Asked.none]

end Vidix.Radeon
