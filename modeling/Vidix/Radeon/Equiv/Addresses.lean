import Vidix.Radeon.Equiv.Planes

/-!
# The two addresses of a Radeon plane

The application finds a plane at `radeon_overlay_off + offsets[i] + offset`, the scaler at the
address `radeon_vid_init_video` has stored for it.  The two are derived along different paths: the
stored one is masked for every frame, the reported one is taken from frame 0.  Below 256 MB they
agree for a frame iff the mask has nothing to drop there (`stored_eq_iff`), so for all
frames iff that is so for the last one (`addressesAgree_iff`).  The last frame may end below 256 MB
and still lose a bit, since a chroma plane without counted lines begins at the end of the frame or
beyond it; with enough lines it does not (`addressesFit_of_lines`).
-/

namespace Vidix.Radeon

open Util

/-- A stored address without the flags in its low bits. -/
def adrsBits (a : UInt32) : UInt32 := a &&& ~~~15

/-- What the scaler reads of frame `i` is where the application fills it.  The formats with U before
V have these two exchanged in what is reported; a grey picture has luma only. -/
def FrameAgrees (r : Driver × VidixPlayback) (i : ℕ) : Prop :=
  ∃ o y u v, r.2.offsets[i]? = some o ∧ r.1.besr.vidBufBaseAdrsY[i]? = some y ∧
    r.1.besr.vidBufBaseAdrsU[i]? = some u ∧ r.1.besr.vidBufBaseAdrsV[i]? = some v ∧
    (adrsBits y).toNat = (overlayBase r.1).toNat + o.toNat + r.2.offset.y.toNat ∧
    (is400 r.2.fourcc = false →
      (adrsBits u).toNat = (overlayBase r.1).toNat + o.toNat +
          (if isI420 r.2.fourcc then r.2.offset.v else r.2.offset.u).toNat ∧
        (adrsBits v).toNat = (overlayBase r.1).toNat + o.toNat +
          (if isI420 r.2.fourcc then r.2.offset.u else r.2.offset.v).toNat)

/-- All granted frames agree. -/
def AddressesAgree (r : Driver × VidixPlayback) : Prop :=
  ∀ i < r.1.besr.vidNbufs.toNat, FrameAgrees r i

/-! ### One plane of one frame -/

theorem adrsBits_and_adrsMask (x : UInt32) :
    adrsBits (x &&& vifBufBaseAdrsMask) = x &&& vifBufBaseAdrsMask := by
  unfold adrsBits
  rw [UInt32.and_assoc]
  rfl

theorem adrsBits_or_pitchSel (x : UInt32) :
    adrsBits ((x &&& vifBufBaseAdrsMask) ||| vifBufPitchSel) = x &&& vifBufBaseAdrsMask := by
  apply UInt32.toBitVec_inj.mp
  show (x.toBitVec &&& 0x0ffffff0#32 ||| 1#32) &&& 0xfffffff0#32 = x.toBitVec &&& 0x0ffffff0#32
  rw [BitVec.and_comm, BitVec.and_or_distrib_left, BitVec.and_comm, BitVec.and_assoc]
  simp

/-- **A stored address is the reported one iff the mask drops nothing.** -/
theorem stored_eq_iff {base o p : UInt32} (hbase : base.toNat % 16 = 0) (ho : o.toNat % 16 = 0)
    (hp : p.toNat % 16 = 0) (hp28 : p.toNat < 2 ^ 28) (hframe : base.toNat + o.toNat < 2 ^ 28) :
    ((base + o + p) &&& vifBufBaseAdrsMask).toNat =
        base.toNat + o.toNat + (reportedOffset base p).toNat ↔
      base.toNat + o.toNat + p.toNat < 2 ^ 28 := by
  have hsum : (base + o + p).toNat = base.toNat + o.toNat + p.toNat := by
    rw [UInt32.toNat_add, UInt32.toNat_add]
    omega
  rw [toNat_and_adrsMask, hsum, toNat_reportedOffset_low hbase hp hp28 (by omega)]
  split_ifs <;> omega

/-- Luma is stored where it is reported. -/
theorem stored_luma {base o : UInt32} (hbase : base.toNat % 16 = 0) (ho : o.toNat % 16 = 0)
    (hframe : base.toNat + o.toNat < 2 ^ 28) :
    ((base + o + 0) &&& vifBufBaseAdrsMask).toNat =
      base.toNat + o.toNat + (reportedOffset base 0).toNat :=
  (stored_eq_iff hbase ho rfl (by decide) hframe).mpr hframe

/-! ### The frames -/

variable {d : Driver} {info : VidixPlayback}

/-- The frames lie below 256 MB, from a multiple of 64 KB on. -/
structure FramesBelow (base n : ℕ) (frameSize : UInt32) : Prop where
  aligned : base % 2 ^ 16 = 0
  low : base < 2 ^ 28
  end_le : base + n * frameSize.toNat ≤ 2 ^ 28

/-- Where frame `i` begins. -/
theorem FramesBelow.toNat_offset {base n i : ℕ} {frameSize : UInt32}
    (h : FramesBelow base n frameSize) (hpages : frameSize.toNat % 4096 = 0) (hi : i < n)
    (hn : n < 2 ^ 32) :
    (frameSize * UInt32.ofNat i).toNat = i * frameSize.toNat ∧
      (frameSize * UInt32.ofNat i).toNat % 16 = 0 ∧
      base + (frameSize * UInt32.ofNat i).toNat < 2 ^ 28 := by
  have hend := h.end_le
  have hlow := h.low
  have hle := slot_le hi frameSize.toNat
  have hoff : (frameSize * UInt32.ofNat i).toNat = i * frameSize.toNat := by
    rw [UInt32.toNat_mul, UInt32.toNat_ofNat', Nat.mod_eq_of_lt (by omega : i < 2 ^ 32),
      Nat.mul_comm, Nat.mod_eq_of_lt (by omega)]
  have h16 : i * frameSize.toNat % 16 = 0 := by
    obtain ⟨m, hm⟩ := Nat.dvd_of_mod_eq_zero hpages
    rw [hm, show i * (4096 * m) = 16 * (i * (256 * m)) by ring]
    exact Nat.mul_mod_right _ _
  rw [hoff]
  refine ⟨rfl, h16, ?_⟩
  rcases Nat.eq_zero_or_pos frameSize.toNat with h0 | hpos
  · rw [h0]
    omega
  · omega

/-- Packed formats have one plane, at the beginning of the frame. -/
theorem initVideo_of_packed (hf : isPlanar info.fourcc = false) (hx : info.src.x = 0) {i : ℕ}
    (hi : i < d.besr.vidNbufs.toNat) :
    (initVideo d info).2.offset = ⟨0, 0, 0⟩ ∧
      (initVideo d info).1.besr.vidBufBaseAdrsY[i]? =
        some (overlayBase d + radeonComputeFramesize info * UInt32.ofNat i) ∧
      (initVideo d info).1.besr.vidBufBaseAdrsU[i]? =
        some (overlayBase d + radeonComputeFramesize info * UInt32.ofNat i) ∧
      (initVideo d info).1.besr.vidBufBaseAdrsV[i]? =
        some (overlayBase d + radeonComputeFramesize info * UInt32.ofNat i) := by
  have ho := frameOffsets_getElem (radeonComputeFramesize info) d.besr.vidNbufs hi
  unfold isPlanar at hf
  unfold initVideo radeonVidInitVideo overlayBase
  dsimp only
  rw [if_neg (by simp [hf])]
  simp [hx, ho]

/-- A planar picture that is shown from its first pixel on. -/
theorem initVideo_of_planar (hf : isPlanar info.fourcc = true) (hx : info.src.x = 0)
    (hy : info.src.y = 0) {i : ℕ} (hi : i < d.besr.vidNbufs.toNat) :
    (initVideo d info).1.besr.vidBufBaseAdrsY[i]? =
        some ((overlayBase d + radeonComputeFramesize info * UInt32.ofNat i + 0) &&&
          vifBufBaseAdrsMask) ∧
      (is400 info.fourcc = false →
        (initVideo d info).1.besr.vidBufBaseAdrsU[i]? =
            some (((overlayBase d + radeonComputeFramesize info * UInt32.ofNat i +
              (secondPlane info &&& vifBufBaseAdrsMask)) &&& vifBufBaseAdrsMask) |||
                vifBufPitchSel) ∧
          (initVideo d info).1.besr.vidBufBaseAdrsV[i]? =
            some (((overlayBase d + radeonComputeFramesize info * UInt32.ofNat i +
              (firstPlane info &&& vifBufBaseAdrsMask)) &&& vifBufBaseAdrsMask) |||
                vifBufPitchSel)) ∧
      (is400 info.fourcc = true →
        (initVideo d info).1.besr.vidBufBaseAdrsU[i]? = some 0 ∧
          (initVideo d info).1.besr.vidBufBaseAdrsV[i]? = some 0) := by
  have ho := frameOffsets_getElem (radeonComputeFramesize info) d.besr.vidNbufs hi
  have hcongr : ∀ p offsets, planeOffsets { info with
      dest.pitch := p, offsets := offsets, frameSize := radeonComputeFramesize info } =
        planeOffsets info := fun _ _ => rfl
  unfold isPlanar at hf
  unfold initVideo radeonVidInitVideo overlayBase
  dsimp only
  rw [if_pos hf, hcongr]
  rcases h400 : is400 info.fourcc with _ | _
  · rw [planeOffsets_of_origin hx hy h400]
    simp [ho]
  · rw [planeOffsets_of_grey hx hy h400]
    simp only [if_true, List.getElem?_map, ho]
    simp

/-! ### All frames -/

/-- The mask drops nothing of the chroma planes of the last frame.  `luma` is the size of the luma
plane as a 32-bit number. -/
def AddressesFit (base n : ℕ) (info : VidixPlayback) : Prop :=
  isPlanar info.fourcc = true → ∀ s ∈ chromaDiv info.fourcc,
    let luma := pitchBytes info * info.src.h.toNat % 2 ^ 32
    let last := base + (n - 1) * (radeonComputeFramesize info).toNat
    last + luma % 2 ^ 28 < 2 ^ 28 ∧ last + (luma + luma / (s * s)) % 2 ^ 28 / 16 * 16 < 2 ^ 28

/-- A coloured frame agrees iff the mask drops nothing of its chroma planes. -/
theorem frameAgrees_iff (hf : isPlanar info.fourcc = true) (h400 : is400 info.fourcc = false)
    (hx : info.src.x = 0) (hy : info.src.y = 0)
    (hb : FramesBelow (overlayBase d).toNat d.besr.vidNbufs.toNat (radeonComputeFramesize info))
    {i : ℕ} (hi : i < d.besr.vidNbufs.toNat) :
    FrameAgrees (initVideo d info) i ↔
      (overlayBase d).toNat + i * (radeonComputeFramesize info).toNat +
          (secondPlane info &&& vifBufBaseAdrsMask).toNat < 2 ^ 28 ∧
        (overlayBase d).toNat + i * (radeonComputeFramesize info).toNat +
          (firstPlane info &&& vifBufBaseAdrsMask).toNat < 2 ^ 28 := by
  have hn : d.besr.vidNbufs ≠ 0 := by
    rintro h0
    rw [h0] at hi
    exact absurd hi (Nat.not_lt_zero _)
  have hbase : (overlayBase d).toNat % 16 = 0 := by
    have := hb.aligned
    omega
  obtain ⟨hoff, ho16, hframe⟩ :=
    hb.toNat_offset (radeonComputeFramesize_pages info) hi d.besr.vidNbufs.toNat_lt
  obtain ⟨hY, hUV, -⟩ := initVideo_of_planar hf hx hy hi
  obtain ⟨hU, hV⟩ := hUV h400
  have ho := frameOffsets_getElem (radeonComputeFramesize info) d.besr.vidNbufs hi
  have hmask : ∀ p : UInt32, (p &&& vifBufBaseAdrsMask).toNat % 16 = 0 ∧
      (p &&& vifBufBaseAdrsMask).toNat < 2 ^ 28 := by
    intro p
    rw [toNat_and_adrsMask]
    omega
  have hu := stored_eq_iff hbase ho16 (hmask (secondPlane info)).1 (hmask (secondPlane info)).2
    hframe
  have hv := stored_eq_iff hbase ho16 (hmask (firstPlane info)).1 (hmask (firstPlane info)).2
    hframe
  have hoffset : (initVideo d info).2.offset = reportedOffsets d info := advertised_offset hf hn
  rw [hoff] at hu hv
  rw [← hu, ← hv]
  -- with the exchange undone, each chroma plane is compared with its own place
  have hswap : (if isI420 info.fourcc then (reportedOffsets d info).v
        else (reportedOffsets d info).u) =
        reportedOffset (overlayBase d) (secondPlane info &&& vifBufBaseAdrsMask) ∧
      (if isI420 info.fourcc then (reportedOffsets d info).u
        else (reportedOffsets d info).v) =
        reportedOffset (overlayBase d) (firstPlane info &&& vifBufBaseAdrsMask) ∧
      (reportedOffsets d info).y = reportedOffset (overlayBase d) 0 := by
    unfold reportedOffsets
    rw [planeOffsets_of_origin hx hy h400]
    split_ifs <;> simp_all
  unfold FrameAgrees
  rw [initVideo_offsets, hY, hU, hV, ho, initVideo_fourcc, overlayBase_initVideo, hoffset,
    hswap.1, hswap.2.1, hswap.2.2]
  constructor
  · rintro ⟨o, y, u, v, ⟨⟩, ⟨⟩, ⟨⟩, ⟨⟩, -, huv⟩
    have := huv h400
    rwa [adrsBits_or_pitchSel, adrsBits_or_pitchSel, hoff] at this
  · intro huv
    refine ⟨_, _, _, _, rfl, rfl, rfl, rfl, ?_, fun _ => ?_⟩
    · rw [adrsBits_and_adrsMask]
      exact stored_luma hbase ho16 hframe
    · rwa [adrsBits_or_pitchSel, adrsBits_or_pitchSel, hoff]

/-- A frame of a packed or grey picture always agrees. -/
theorem frameAgrees_of_one_plane
    (hf : isPlanar info.fourcc = false ∨ is400 info.fourcc = true)
    (hx : info.src.x = 0) (hy : info.src.y = 0)
    (hb : FramesBelow (overlayBase d).toNat d.besr.vidNbufs.toNat (radeonComputeFramesize info))
    {i : ℕ} (hi : i < d.besr.vidNbufs.toNat) : FrameAgrees (initVideo d info) i := by
  have hbase : (overlayBase d).toNat % 16 = 0 := by
    have := hb.aligned
    omega
  obtain ⟨-, ho16, hframe⟩ :=
    hb.toNat_offset (radeonComputeFramesize_pages info) hi d.besr.vidNbufs.toNat_lt
  have ho := frameOffsets_getElem (radeonComputeFramesize info) d.besr.vidNbufs hi
  unfold FrameAgrees
  rw [initVideo_offsets, ho, initVideo_fourcc, overlayBase_initVideo]
  rcases hf with hf | h400
  · obtain ⟨hoffset, hY, hU, hV⟩ := @initVideo_of_packed d info hf hx i hi
    have hstored : (adrsBits (overlayBase d + radeonComputeFramesize info * UInt32.ofNat i)).toNat =
        (overlayBase d).toNat + (radeonComputeFramesize info * UInt32.ofNat i).toNat := by
      unfold adrsBits
      rw [toNat_and_not_mask (k := 4) rfl (by decide), UInt32.toNat_add]
      omega
    rw [hY, hU, hV, hoffset]
    refine ⟨_, _, _, _, rfl, rfl, rfl, rfl, hstored, fun _ => ?_⟩
    rw [ite_self]
    exact ⟨hstored, hstored⟩
  · have hf : isPlanar info.fourcc = true := by
      unfold isPlanar
      rw [h400, Bool.or_true]
    have hn : d.besr.vidNbufs ≠ 0 := by
      rintro h0
      rw [h0] at hi
      exact absurd hi (Nat.not_lt_zero _)
    obtain ⟨hY, -, hUV⟩ := initVideo_of_planar hf hx hy hi
    obtain ⟨hU, hV⟩ := hUV h400
    have hoffset : (initVideo d info).2.offset =
        { y := reportedOffset (overlayBase d) 0, u := 0, v := 0 } :=
      advertised_offset_of_grey hf h400 hx hy hn
    rw [hY, hU, hV, hoffset]
    refine ⟨_, _, _, _, rfl, rfl, rfl, rfl, ?_, fun h => absurd (h.symm.trans h400) (by decide)⟩
    rw [adrsBits_and_adrsMask]
    exact stored_luma hbase ho16 hframe

/-- A bound for every frame is one for the last. -/
theorem forall_frame_lt_iff {base n size p limit : ℕ} (hn : 0 < n) :
    (∀ i < n, base + i * size + p < limit) ↔ base + (n - 1) * size + p < limit := by
  constructor
  · exact fun h => h (n - 1) (by omega)
  · intro h i hi
    have hle := Nat.mul_le_mul_right size (show i ≤ n - 1 by omega)
    omega

/-- The chroma planes of a coloured picture, as the mask leaves them. -/
theorem toNat_chroma_masked {s : ℕ} (hf : isPlanar info.fourcc = true)
    (hs : s ∈ chromaDiv info.fourcc) :
    (firstPlane info &&& vifBufBaseAdrsMask).toNat =
        pitchBytes info * info.src.h.toNat % 2 ^ 32 % 2 ^ 28 ∧
      (secondPlane info &&& vifBufBaseAdrsMask).toNat =
        (pitchBytes info * info.src.h.toNat % 2 ^ 32 +
          pitchBytes info * info.src.h.toNat % 2 ^ 32 / (s * s)) % 2 ^ 28 / 16 * 16 := by
  have h16 : pitchBytes info * info.src.h.toNat % 16 = 0 := by
    obtain ⟨t, p, -, -, -, -, -, -, -, hp, -⟩ := exists_shape hf hs
    rw [hp, show 2 * t * (16 * p) * info.src.h.toNat = 16 * (2 * t * p * info.src.h.toNat) by ring]
    exact Nat.mul_mod_right _ _
  rw [toNat_and_adrsMask, toNat_and_adrsMask, toNat_secondPlane hf hs, toNat_firstPlane hf]
  refine ⟨by omega, by omega⟩

theorem addressesAgree_iff (hx : info.src.x = 0) (hy : info.src.y = 0)
    (hn : d.besr.vidNbufs ≠ 0)
    (hb : FramesBelow (overlayBase d).toNat d.besr.vidNbufs.toNat (radeonComputeFramesize info)) :
    AddressesAgree (initVideo d info) ↔
      AddressesFit (overlayBase d).toNat d.besr.vidNbufs.toNat info := by
  have hpos : 0 < d.besr.vidNbufs.toNat :=
    Nat.pos_of_ne_zero fun h0 => hn (UInt32.toNat_inj.mp h0)
  unfold AddressesAgree AddressesFit
  rw [initVideo_vidNbufs]
  rcases hf : isPlanar info.fourcc with _ | _
  · refine iff_of_true (fun i hi => frameAgrees_of_one_plane (Or.inl hf) hx hy hb hi) ?_
    exact fun h => absurd h (by decide)
  · rw [forall_prop_of_true rfl]
    rcases hdiv : chromaDiv info.fourcc with _ | s
    · have h400 := is400_of_chromaDiv_none hdiv
      refine iff_of_true (fun i hi => frameAgrees_of_one_plane (Or.inr h400) hx hy hb hi) ?_
      exact fun s hs => by cases hs
    · have h400 := is400_of_chromaDiv_some hdiv
      obtain ⟨hfirst, hsecond⟩ := toNat_chroma_masked hf hdiv
      simp only [Option.mem_some_iff, forall_eq']
      rw [← hfirst, ← hsecond, ← forall_frame_lt_iff hpos, ← forall_frame_lt_iff hpos]
      have hframe := fun i hi => @frameAgrees_iff d info hf h400 hx hy hb i hi
      constructor
      · intro h
        exact ⟨fun i hi => ((hframe i hi).mp (h i hi)).2, fun i hi => ((hframe i hi).mp (h i hi)).1⟩
      · intro h i hi
        exact (hframe i hi).mpr ⟨h.2 i hi, h.1 i hi⟩

/-- **Where enough lines are counted, no bit is lost:** from two lines on for 4:2:0 and eight for
4:1:0, the second chroma plane begins inside the frame. -/
theorem addressesFit_of_lines {base n : ℕ} (hw : 1 ≤ info.src.w.toNat) (hn : 0 < n)
    (hb : FramesBelow base n (radeonComputeFramesize info))
    (hsmall : pictureBytes (chromaDiv info.fourcc) (pitchBytes info) info.src.h.toNat + 4095 <
      2 ^ 32)
    (hlines : ∀ s ∈ chromaDiv info.fourcc, s * s / 2 ≤ info.src.h.toNat) :
    AddressesFit base n info := by
  intro hf s hs
  obtain ⟨t, -, -, -, ht, -, -, hst, -, -, -⟩ := exists_shape hf hs
  have hhalf : s * s = 2 * (s * s / 2) := by
    rw [hst, show 2 * t * (2 * t) = 2 * (2 * t * t) by ring, Nat.mul_div_cancel_left _ (by decide)]
  have hpos : 0 < s * s / 2 := by
    rw [hst, show 2 * t * (2 * t) = 2 * (2 * t * t) by ring, Nat.mul_div_cancel_left _ (by decide)]
    positivity
  have hh : 1 ≤ info.src.h.toNat := hpos.trans_le (hlines s hs)
  have hframe := (sizes_of_small hf hh hsmall).2
  rw [wholePages_eq, Option.mem_def.mp hs] at hframe
  rw [Option.mem_def.mp hs] at hsmall
  -- an `s * s`-th of the luma plane is less than the chroma lines counted
  have hstep : pitchBytes info * info.src.h.toNat / (s * s) <
      pitchBytes info * (info.src.h.toNat / (s * s / 2)) := by
    have hdiv := Nat.div_add_mod info.src.h.toNat (s * s / 2)
    have hmod := Nat.mod_lt info.src.h.toNat hpos
    have hone : s * s / 2 * 1 ≤ s * s / 2 * (info.src.h.toNat / (s * s / 2)) :=
      Nat.mul_le_mul_left _ (Nat.div_pos (hlines s hs) hpos)
    have hlt : info.src.h.toNat < s * s * (info.src.h.toNat / (s * s / 2)) := by
      rw [hhalf, Nat.mul_div_cancel_left _ (by decide : 0 < 2), Nat.mul_assoc]
      omega
    apply Nat.div_lt_of_lt_mul
    calc pitchBytes info * info.src.h.toNat
        < pitchBytes info * (s * s * (info.src.h.toNat / (s * s / 2))) :=
          Nat.mul_lt_mul_of_pos_left hlt (pitchBytes_pos hw)
      _ = s * s * (pitchBytes info * (info.src.h.toNat / (s * s / 2))) := by ring
  have hbytes : pictureBytes (some s) (pitchBytes info) info.src.h.toNat =
      pitchBytes info * info.src.h.toNat +
        pitchBytes info * (info.src.h.toNat / (s * s / 2)) := Nat.mul_add _ _ _
  have hend := hb.end_le
  have hlast : n * (radeonComputeFramesize info).toNat =
      (n - 1) * (radeonComputeFramesize info).toNat + (radeonComputeFramesize info).toNat := by
    rw [← Nat.succ_mul, Nat.succ_eq_add_one, Nat.sub_add_cancel hn]
  dsimp only
  rw [Nat.mod_eq_of_lt (by omega : pitchBytes info * info.src.h.toNat < 2 ^ 32)]
  generalize pitchBytes info * info.src.h.toNat / (s * s) = step at hstep ⊢
  omega

/-- **The two addresses agree iff the mask drops nothing of the last frame,** wherever
`radeon_vid_init_video` is given whole 64 KB below 256 MB, and for every accepted request whose
frames end below 256 MB. -/
theorem addresses_agree_iff (d : Driver) (info : VidixPlayback) (hx : info.src.x = 0)
    (hy : info.src.y = 0) :
    (d.besr.vidNbufs ≠ 0 →
        FramesBelow (overlayBase d).toNat d.besr.vidNbufs.toNat (radeonComputeFramesize info) →
        (AddressesAgree (initVideo d info) ↔
          AddressesFit (overlayBase d).toNat d.besr.vidNbufs.toNat info)) ∧
      (isSupportedFourcc info.fourcc = true → (vixConfigPlayback d info).1 = 0 →
        FramesBelow (search d info).2.toUInt32.toNat (search d info).1
          (radeonComputeFramesize info) →
        (AddressesAgree (vixConfigPlayback d info).2 ↔
          AddressesFit (search d info).2.toUInt32.toNat (search d info).1 info)) := by
  refine ⟨addressesAgree_iff hx hy, fun hf hret hb => ?_⟩
  obtain ⟨d', info', h⟩ := vixConfigPlayback_handedOn hf hret
  have hsize : radeonComputeFramesize info' = radeonComputeFramesize info := by
    unfold radeonComputeFramesize
    rw [h.fourcc, h.src]
  have hfit : AddressesFit (search d info).2.toUInt32.toNat (search d info).1 info' ↔
      AddressesFit (search d info).2.toUInt32.toNat (search d info).1 info := by
    unfold AddressesFit pitchBytes
    rw [hsize, h.fourcc, h.src]
  rw [h.result, addressesAgree_iff (h.src ▸ hx) (h.src ▸ hy) h.vidNbufs_ne, h.base, h.vidNbufs,
    hfit]
  rw [h.base, h.vidNbufs, hsize]
  exact hb

/-- Three frames of 352x288 agree on the sample card. -/
theorem addresses_agree_sample :
    AddressesAgree (vixConfigPlayback sampleDriver (sampleRequest imgfmtI420 352 288 3)).2 := by
  refine ((addresses_agree_iff sampleDriver (sampleRequest imgfmtI420 352 288 3) rfl rfl).2
    (by decide) (by decide) ⟨by decide, by decide, by decide⟩).mpr ?_
  intro _ s hs
  cases hs
  decide

/-- A card with 256 MB and no descriptors. -/
def largeDriver : Driver := { sampleDriver with ramSize := 0x10000000, flagDma := false }

/-- **Of seven lines of 4:1:0 no chroma line is counted,** so that the chroma planes begin behind
the frame; for the last frame, which ends 4096 bytes below 256 MB, the U plane begins beyond them,
and the scaler is pointed to the beginning of the video memory. -/
theorem vixConfigPlayback_address_lost :
    (vixConfigPlayback largeDriver (sampleRequest imgfmtYVU9 12288 7 3)).1 = 0 ∧
      FramesBelow (search largeDriver (sampleRequest imgfmtYVU9 12288 7 3)).2.toUInt32.toNat
        (search largeDriver (sampleRequest imgfmtYVU9 12288 7 3)).1
        (radeonComputeFramesize (sampleRequest imgfmtYVU9 12288 7 3)) ∧
      (vixConfigPlayback largeDriver
        (sampleRequest imgfmtYVU9 12288 7 3)).2.1.besr.vidBufBaseAdrsU[2]? = some 1281 ∧
      ¬ AddressesAgree (vixConfigPlayback largeDriver (sampleRequest imgfmtYVU9 12288 7 3)).2 := by
  have hu : (vixConfigPlayback largeDriver
      (sampleRequest imgfmtYVU9 12288 7 3)).2.1.besr.vidBufBaseAdrsU[2]? = some 1281 := by decide
  have hbase : overlayBase (vixConfigPlayback largeDriver
      (sampleRequest imgfmtYVU9 12288 7 3)).2.1 = 0xffc0000 := by decide
  refine ⟨by decide, ⟨by decide, by decide, by decide⟩, hu, fun h => ?_⟩
  obtain ⟨o, y, u, v, -, -, hu', -, -, huv⟩ := h 2 (by decide)
  rw [hu] at hu'
  cases hu'
  have hplane := (huv (by decide)).1
  rw [hbase] at hplane
  have hsmall : (adrsBits 1281).toNat = 1280 := by decide
  have hlarge : (0xffc0000 : UInt32).toNat = 268173312 := rfl
  omega

end Vidix.Radeon
