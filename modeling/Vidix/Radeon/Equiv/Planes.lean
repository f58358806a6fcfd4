import Vidix.Radeon.Equiv.PlaneSizes

/-!
# The planes of a Radeon frame

Two things can put a plane of `radeon_vid_init_video` outside its frame: the frame size and the
plane offsets do not count the lines alike, so that the `overhang` has to fit in the rest of the
last page, and the address mask drops what lies above 256 MB (`packedIn_reported_iff`).
`planes_apart_iff` says that nothing else can.
-/

namespace Vidix.Radeon

open Util

/-- The driver and the request after `radeon_vid_init_video`, with the frame size computed for the
request. -/
def initVideo (d : Driver) (info : VidixPlayback) : Driver × VidixPlayback :=
  radeonVidInitVideo d { info with frameSize := radeonComputeFramesize info }

/-- The request as the driver gives it back. -/
def advertised (d : Driver) (info : VidixPlayback) : VidixPlayback := (initVideo d info).2

@[simp] theorem initVideo_fourcc (d : Driver) (info : VidixPlayback) :
    (initVideo d info).2.fourcc = info.fourcc :=
  radeonVidInitVideo_fourcc d _

@[simp] theorem initVideo_src (d : Driver) (info : VidixPlayback) :
    (initVideo d info).2.src = info.src :=
  radeonVidInitVideo_src d _

@[simp] theorem initVideo_frameSize (d : Driver) (info : VidixPlayback) :
    (initVideo d info).2.frameSize = radeonComputeFramesize info :=
  radeonVidInitVideo_frameSize d _

@[simp] theorem initVideo_offsets (d : Driver) (info : VidixPlayback) :
    (initVideo d info).2.offsets =
      frameOffsets (radeonComputeFramesize info) d.besr.vidNbufs :=
  radeonVidInitVideo_offsets d _

@[simp] theorem initVideo_vidNbufs (d : Driver) (info : VidixPlayback) :
    (initVideo d info).1.besr.vidNbufs = d.besr.vidNbufs := by
  unfold initVideo radeonVidInitVideo
  dsimp only
  split_ifs <;> rfl

@[simp] theorem overlayBase_initVideo (d : Driver) (info : VidixPlayback) :
    overlayBase (initVideo d info).1 = overlayBase d :=
  congrArg Int32.toUInt32 (radeonVidInitVideo_overlayOff d _)

/-- The planes that a request tells of lie in a frame, apart from each other. -/
def PlanesApart (info : VidixPlayback) : Prop :=
  PackedIn info.frameSize.toNat
    (framePlanes info.offset (pitchBytes info) info.src.h.toNat (chromaDiv info.fourcc))

/-! ### The masked places -/

/-- The two chroma planes stand behind the luma plane, in `size` bytes with less than a page to
spare, only if neither place has lost a bit to the mask. -/
theorem below_mask_of_apart {base luma chroma step size v u : ℕ}
    (hv : v = if base + luma % 2 ^ 28 < 2 ^ 28 then luma % 2 ^ 28
      else luma % 2 ^ 28 + 15 * 2 ^ 28)
    (hu : u = if base + (luma + step) % 2 ^ 28 < 2 ^ 28 then (luma + step) % 2 ^ 28
      else (luma + step) % 2 ^ 28 + 15 * 2 ^ 28)
    (hquarter : 4 * step ≤ luma) (hstep : chroma ≤ step) (hmost : luma ≤ 28 * chroma)
    (hsize : size < luma + 2 * chroma + 4096) (hsize32 : size + 4096 ≤ 2 ^ 32)
    (hlv : luma ≤ v) (hlu : luma ≤ u) (hvn : v + chroma ≤ size) (hun : u + chroma ≤ size)
    (hvu : v + chroma ≤ u ∨ u + chroma ≤ v) : base + luma + step < 2 ^ 28 := by
  have hfirst : v < luma + 4096 ∨ u < luma + 4096 := by omega
  by_cases hluma : luma < 2 ^ 28
  · rw [Nat.mod_eq_of_lt hluma] at hv
    have hbelow : base + luma < 2 ^ 28 := by
      by_contra hnot
      rw [if_neg hnot] at hv
      omega
    by_cases hsum : luma + step < 2 ^ 28
    · rw [Nat.mod_eq_of_lt hsum] at hu
      by_contra hnot
      rw [if_neg (by omega)] at hu
      omega
    · -- the second plane would be reported inside the luma plane
      have hmod : (luma + step) % 2 ^ 28 = luma + step - 2 ^ 28 := by omega
      rw [hmod, if_pos (by omega)] at hu
      omega
  · -- the planes are beyond 15 * 256 MB, where there is no room for chroma of this size
    have hmodv : luma % 2 ^ 28 < 2 ^ 28 := Nat.mod_lt _ (by decide)
    have hmodu : (luma + step) % 2 ^ 28 < 2 ^ 28 := Nat.mod_lt _ (by decide)
    have hv15 : 15 * 2 ^ 28 ≤ v := by
      split_ifs at hv <;> omega
    have hu15 : 15 * 2 ^ 28 ≤ u := by
      split_ifs at hu <;> omega
    omega

/-- Planes at `0`, `luma` and `luma + step` of a frame, reported through the address mask, lie in
the frame and apart iff they are below 256 MB and the last one ends in the frame. -/
theorem packedIn_reported_iff {base p q : UInt32} {luma chroma step size : ℕ}
    (hbase : base.toNat % 2 ^ 16 = 0) (hp : p.toNat = luma % 2 ^ 28)
    (hq : q.toNat = (luma + step) % 2 ^ 28) (hluma16 : luma % 16 = 0) (hstep16 : step % 16 = 0)
    (hchroma : 0 < chroma) (hstep : chroma ≤ step) (hquarter : 4 * step ≤ luma)
    (hmost : luma ≤ 28 * chroma) (hsize : size < luma + 2 * chroma + 4096)
    (hsize32 : size + 4096 ≤ 2 ^ 32) :
    PackedIn size [⟨(reportedOffset base 0).toNat, luma⟩, ⟨(reportedOffset base q).toNat, chroma⟩,
        ⟨(reportedOffset base p).toNat, chroma⟩] ↔
      base.toNat + luma + step < 2 ^ 28 ∧ luma + step + chroma ≤ size := by
  have hbase16 : base.toNat % 16 = 0 := by omega
  have hp16 : p.toNat % 16 = 0 := by omega
  have hq16 : q.toNat % 16 = 0 := by omega
  have hp28 : p.toNat < 2 ^ 28 := hp ▸ Nat.mod_lt _ (by decide)
  have hq28 : q.toNat < 2 ^ 28 := hq ▸ Nat.mod_lt _ (by decide)
  rw [packedIn_three_iff]
  constructor
  · rintro ⟨hy, huv⟩
    have hy' := hy.resolve_left (by omega)
    obtain ⟨hun, hvn, hvu, hapart⟩ := huv.resolve_left (by omega)
    obtain ⟨hyu, hyv⟩ := hapart.resolve_left (by omega)
    have hlow : base.toNat < 2 ^ 28 := by
      by_contra hhigh
      -- all three are far up, but the frame has less than a page to spare
      have h0 := le_toNat_reportedOffset hbase (p := 0) rfl (by omega)
      have h1 := le_toNat_reportedOffset hbase hp16 (by omega)
      have h2 := le_toNat_reportedOffset hbase hq16 (by omega)
      omega
    have hzero : (reportedOffset base 0).toNat = 0 :=
      toNat_reportedOffset_of_lt hbase16 rfl (by simpa using hlow)
    have hv := toNat_reportedOffset_low hbase16 hp16 hp28 hlow
    have hu := toNat_reportedOffset_low hbase16 hq16 hq28 hlow
    rw [hp] at hv
    rw [hq] at hu
    rw [hzero] at hyu hyv
    have hbelow := below_mask_of_apart hv hu hquarter hstep hmost hsize hsize32 (by omega)
      (by omega) hvn hun (by omega)
    rw [Nat.mod_eq_of_lt (by omega), if_pos (by omega)] at hu
    exact ⟨hbelow, by omega⟩
  · rintro ⟨hbelow, hend⟩
    rw [Nat.mod_eq_of_lt (by omega)] at hp hq
    have hzero : (reportedOffset base 0).toNat = 0 :=
      toNat_reportedOffset_of_lt hbase16 rfl (by rw [UInt32.toNat_zero]; omega)
    rw [hzero, toNat_reportedOffset_of_lt hbase16 hp16 (by omega),
      toNat_reportedOffset_of_lt hbase16 hq16 (by omega), hp, hq]
    omega

/-! ### The layout -/

variable {d : Driver} {info : VidixPlayback}

/-- Planes that lie in a frame and apart have as many bytes as the picture. -/
theorem pictureBytes_le_of_packedIn {n : ℕ} {offset : VidixYuv}
    (hf : isPlanar info.fourcc = true)
    (h : PackedIn n (framePlanes offset (pitchBytes info) info.src.h.toNat
      (chromaDiv info.fourcc))) :
    pictureBytes (chromaDiv info.fourcc) (pitchBytes info) info.src.h.toNat ≤ n := by
  rcases hdiv : chromaDiv info.fourcc with _ | s
  · rw [hdiv] at h
    have hluma := packedIn_one_iff.mp h
    unfold pictureBytes
    dsimp only at hluma ⊢
    omega
  · rw [hdiv] at h
    have hplanes := packedIn_three_iff.mp h
    obtain ⟨t, p, j, r, ht, -, hr, hst, -, hp, hh⟩ := exists_shape hf hdiv
    have hle := pictureBytes_le (p := p) (j := j) ht hr
    rw [← hp, ← hh, ← hst] at hle
    omega

theorem planesApart_advertised_iff :
    PlanesApart (advertised d info) ↔
      PackedIn (radeonComputeFramesize info).toNat
        (framePlanes (advertised d info).offset (pitchBytes info) info.src.h.toNat
          (chromaDiv info.fourcc)) := by
  unfold PlanesApart pitchBytes advertised
  simp

theorem advertised_offset (hf : isPlanar info.fourcc = true) (hn : d.besr.vidNbufs ≠ 0) :
    (advertised d info).offset = reportedOffsets d info :=
  @radeonVidInitVideo_offset d { info with frameSize := radeonComputeFramesize info } hf hn

/-- Where the planes of a grey picture are reported. -/
theorem advertised_offset_of_grey (hf : isPlanar info.fourcc = true)
    (h400 : is400 info.fourcc = true) (hx : info.src.x = 0) (hy : info.src.y = 0)
    (hn : d.besr.vidNbufs ≠ 0) :
    (advertised d info).offset = { y := reportedOffset (overlayBase d) 0, u := 0, v := 0 } := by
  rw [advertised_offset hf hn, reportedOffsets, planeOffsets_of_grey hx hy h400]
  exact if_pos h400

/-- The planes of a coloured picture, up to the order of the chroma planes. -/
theorem packedIn_advertised_iff {n s : ℕ} (hf : isPlanar info.fourcc = true)
    (h400 : is400 info.fourcc = false) (hx : info.src.x = 0) (hy : info.src.y = 0)
    (hn : d.besr.vidNbufs ≠ 0) (pitch h : ℕ) :
    PackedIn n (framePlanes (advertised d info).offset pitch h (some s)) ↔
      PackedIn n [⟨(reportedOffset (overlayBase d) 0).toNat, pitch * h⟩,
        ⟨(reportedOffset (overlayBase d) (secondPlane info &&& vifBufBaseAdrsMask)).toNat,
          chromaSize pitch h s⟩,
        ⟨(reportedOffset (overlayBase d)
          (firstPlane info &&& vifBufBaseAdrsMask)).toNat, chromaSize pitch h s⟩] := by
  rw [advertised_offset hf hn, reportedOffsets, planeOffsets_of_origin hx hy h400]
  dsimp only
  rw [if_neg (by simp [h400])]
  split_ifs
  · exact packedIn_framePlanes_swap
  · exact Iff.rfl

/-- A luma plane alone lies in its frame iff the overlay is below 256 MB. -/
theorem luma_inside_iff {base : UInt32} {luma : ℕ} (hbase : base.toNat % 2 ^ 16 = 0)
    (hluma : 0 < luma) :
    luma = 0 ∨ (reportedOffset base 0).toNat + luma ≤ wholePages luma ↔ base.toNat < 2 ^ 28 := by
  have hpages := wholePages_eq luma
  have hrest : pageRest luma < 4096 := Nat.mod_lt _ (by decide)
  constructor
  · intro h
    by_contra hhigh
    have hfar := le_toNat_reportedOffset hbase (p := 0) rfl (by omega)
    omega
  · intro hlow
    have hzero : (reportedOffset base 0).toNat = 0 :=
      toNat_reportedOffset_of_lt (by omega) rfl (by simpa using hlow)
    omega

/-- What a picture at a place has to meet for its planes to be laid out. -/
structure LayoutFits (base : ℕ) (info : VidixPlayback) : Prop where
  /-- The rounded size is a 32-bit number. -/
  small : pictureBytes (chromaDiv info.fourcc) (pitchBytes info) info.src.h.toNat + 4095 < 2 ^ 32
  /-- Without chroma lines, the luma plane begins below 256 MB. -/
  luma : (∀ s ∈ chromaDiv info.fourcc, info.src.h.toNat / s = 0) → base < 2 ^ 28
  /-- With chroma lines, the second chroma plane begins below 256 MB, and what it has beyond the
  picture fits in the last page. -/
  chroma : ∀ s ∈ chromaDiv info.fourcc, info.src.h.toNat / s ≠ 0 →
    base + pitchBytes info * info.src.h.toNat +
        chromaStep down16 s (pitchBytes info) info.src.h.toNat < 2 ^ 28 ∧
      overhang down16 s (pitchBytes info) info.src.h.toNat ≤
        pageRest (pictureBytes (some s) (pitchBytes info) info.src.h.toNat)

/-- A coloured picture without a chroma line. -/
theorem packedIn_flat_iff {n a b c k s pitch h : ℕ} (hrows : h / s = 0) :
    PackedIn n [⟨a, k⟩, ⟨b, chromaSize pitch h s⟩, ⟨c, chromaSize pitch h s⟩] ↔
      k = 0 ∨ a + k ≤ n := by
  have hsize : chromaSize pitch h s = 0 := by
    unfold chromaSize
    rw [hrows, Nat.mul_zero]
  rw [packedIn_three_iff]
  omega

/-- A coloured picture below 4 GB, with at least one chroma line. -/
theorem packedIn_coloured_iff {s : ℕ} (hf : isPlanar info.fourcc = true)
    (hs : s ∈ chromaDiv info.fourcc) (hw : 1 ≤ info.src.w.toNat) (hh : 1 ≤ info.src.h.toNat)
    (hbase : (overlayBase d).toNat % 2 ^ 16 = 0) (hrows : info.src.h.toNat / s ≠ 0)
    (hsmall : pictureBytes (some s) (pitchBytes info) info.src.h.toNat + 4095 < 2 ^ 32) :
    PackedIn (wholePages (pictureBytes (some s) (pitchBytes info) info.src.h.toNat))
        [⟨(reportedOffset (overlayBase d) 0).toNat, pitchBytes info * info.src.h.toNat⟩,
          ⟨(reportedOffset (overlayBase d) (secondPlane info &&& vifBufBaseAdrsMask)).toNat,
            chromaSize (pitchBytes info) info.src.h.toNat s⟩,
          ⟨(reportedOffset (overlayBase d) (firstPlane info &&& vifBufBaseAdrsMask)).toNat,
            chromaSize (pitchBytes info) info.src.h.toNat s⟩] ↔
      (overlayBase d).toNat + pitchBytes info * info.src.h.toNat +
          chromaStep down16 s (pitchBytes info) info.src.h.toNat < 2 ^ 28 ∧
        overhang down16 s (pitchBytes info) info.src.h.toNat ≤
          pageRest (pictureBytes (some s) (pitchBytes info) info.src.h.toNat) := by
  have hsmall' : pictureBytes (chromaDiv info.fourcc) (pitchBytes info) info.src.h.toNat + 4095 <
      2 ^ 32 := by
    rw [Option.mem_def.mp hs]
    exact hsmall
  have hsizes := chromaSizes hf hs hw hrows
  have hluma := (sizes_of_small hf hh hsmall').1
  have hluma16 := hsizes.luma16
  have hfirst : (firstPlane info &&& vifBufBaseAdrsMask).toNat =
      pitchBytes info * info.src.h.toNat % 2 ^ 28 := by
    rw [toNat_and_adrsMask, hluma]
    omega
  have hsecond : (secondPlane info &&& vifBufBaseAdrsMask).toNat =
      (pitchBytes info * info.src.h.toNat +
        chromaStep down16 s (pitchBytes info) info.src.h.toNat) % 2 ^ 28 := by
    rw [toNat_and_adrsMask, toNat_secondPlane hf hs, hluma]
    unfold chromaStep down16
    omega
  have hpages := wholePages_eq (pictureBytes (some s) (pitchBytes info) info.src.h.toNat)
  have hrest : pageRest (pictureBytes (some s) (pitchBytes info) info.src.h.toNat) < 4096 :=
    Nat.mod_lt _ (by decide)
  have hpages32 : wholePages (pictureBytes (some s) (pitchBytes info) info.src.h.toNat) + 4096 ≤
      2 ^ 32 := by
    unfold wholePages
    omega
  have hbytes := hsizes.bytes_le
  have hends := hsizes.ends
  rw [packedIn_reported_iff hbase hfirst hsecond hluma16 (down16_mod _) hsizes.pos
    hsizes.le_step hsizes.quarter hsizes.most (by omega) hpages32]
  omega

/-- The planes of a picture shown from its first pixel on, at an overlay of whole 64 KB. -/
theorem advertised_planesApart_iff (d : Driver) (info : VidixPlayback)
    (hf : isPlanar info.fourcc = true) (hx : info.src.x = 0) (hy : info.src.y = 0)
    (hw : 1 ≤ info.src.w.toNat) (hh : 1 ≤ info.src.h.toNat)
    (hbase : (overlayBase d).toNat % 2 ^ 16 = 0) (hn : d.besr.vidNbufs ≠ 0) :
    PlanesApart (advertised d info) ↔ LayoutFits (overlayBase d).toNat info := by
  rw [planesApart_advertised_iff]
  by_cases hsmall :
      pictureBytes (chromaDiv info.fourcc) (pitchBytes info) info.src.h.toNat + 4095 < 2 ^ 32
  · rw [(sizes_of_small hf hh hsmall).2]
    have hluma : 0 < pitchBytes info * info.src.h.toNat := Nat.mul_pos (pitchBytes_pos hw) hh
    rcases hdiv : chromaDiv info.fourcc with _ | s
    · have h400 := is400_of_chromaDiv_none hdiv
      rw [advertised_offset_of_grey hf h400 hx hy hn]
      show PackedIn (wholePages (pitchBytes info * info.src.h.toNat)) [⟨_, _⟩] ↔ _
      rw [packedIn_one_iff, luma_inside_iff hbase hluma]
      rw [hdiv] at hsmall
      constructor
      · intro hlow
        exact ⟨by rw [hdiv]; exact hsmall, fun _ => hlow, fun s hs => by simp [hdiv] at hs⟩
      · intro h
        exact h.luma fun s hs => by simp [hdiv] at hs
    · have h400 := is400_of_chromaDiv_some hdiv
      rw [packedIn_advertised_iff hf h400 hx hy hn]
      rw [hdiv] at hsmall
      by_cases hrows : info.src.h.toNat / s = 0
      · rw [packedIn_flat_iff hrows, pictureBytes_of_no_chroma hdiv hrows,
          luma_inside_iff hbase hluma]
        have hflat : ∀ s' ∈ chromaDiv info.fourcc, info.src.h.toNat / s' = 0 := by
          intro s' hs'
          rw [hdiv] at hs'
          cases hs'
          exact hrows
        constructor
        · intro hlow
          exact ⟨by rw [hdiv]; exact hsmall, fun _ => hlow,
            fun s' hs' hne => absurd (hflat s' hs') hne⟩
        · exact fun h => h.luma hflat
      · rw [packedIn_coloured_iff hf hdiv hw hh hbase hrows hsmall]
        constructor
        · intro h
          refine ⟨by rw [hdiv]; exact hsmall, fun h0 => absurd (h0 s hdiv) hrows, ?_⟩
          intro s' hs' _
          rw [hdiv] at hs'
          cases hs'
          exact h
        · exact fun h => h.chroma s hdiv hrows
  · refine iff_of_false (fun h => hsmall ?_) (fun h => hsmall h.small)
    have hle := pictureBytes_le_of_packedIn hf h
    have hpages := radeonComputeFramesize_pages info
    have hlt : (radeonComputeFramesize info).toNat < 2 ^ 32 := UInt32.toNat_lt _
    omega

/-- What `vixConfigPlayback` hands to `radeon_vid_init_video` for a request it accepts. -/
structure HandedOn (d : Driver) (info : VidixPlayback) (d' : Driver) (info' : VidixPlayback) :
    Prop where
  result : (vixConfigPlayback d info).2 = initVideo d' info'
  base : overlayBase d' = (search d info).2.toUInt32
  aligned : (overlayBase d').toNat % 2 ^ 16 = 0
  vidNbufs : d'.besr.vidNbufs.toNat = (search d info).1
  vidNbufs_ne : d'.besr.vidNbufs ≠ 0
  fourcc : info'.fourcc = info.fourcc
  src : info'.src = info.src

theorem vixConfigPlayback_handedOn (hf : isSupportedFourcc info.fourcc = true)
    (hret : (vixConfigPlayback d info).1 = 0) : ∃ d' info', HandedOn d info d' info' := by
  have h0 : (search d info).1 ≠ 0 := fun h0 =>
    absurd (((vixConfigPlayback_answered hf).of_none h0).symm.trans hret) (by decide)
  have hle : (search d info).1 ≤ (cappedFrames info.numFrames).toNat := placeFrames_fst_le _ _ _ _ _
  have hlt : (cappedFrames info.numFrames).toNat < 2 ^ 32 := UInt32.toNat_lt _
  have hn : (UInt32.ofNat (search d info).1).toNat = (search d info).1 := by
    rw [UInt32.toNat_ofNat', Nat.mod_eq_of_lt (by omega)]
  have haligned : (search d info).2.toUInt32.toNat % 2 ^ 16 = 0 := by
    have hplace : (search d info).2 = overlayOffAt _ _ _ :=
      placeFrames_snd (Nat.pos_of_ne_zero h0)
    rw [hplace, overlayOffAt, UInt32.toUInt32_toInt32, toNat_and_high]
    exact Nat.mul_mod_left _ _
  have hne : UInt32.ofNat (search d info).1 ≠ 0 := by
    rw [Ne, ← UInt32.toNat_inj, hn]
    exact h0
  have hresult : ∃ d' info', (vixConfigPlayback d info).2 = initVideo d' info' ∧
      d'.overlayOff = (search d info).2 ∧ d'.besr.vidNbufs = UInt32.ofNat (search d info).1 ∧
      info'.fourcc = info.fourcc ∧ info'.src = info.src := by
    unfold search placing Placing.found at h0 ⊢
    unfold vixConfigPlayback
    rw [hf, if_neg (by simp)]
    dsimp only
    rw [if_neg h0]
    exact ⟨_, { info with
      numFrames := UInt32.ofNat (placeFrames _ _ _ _ _).1
      dgaAddr := d.memBase + (placeFrames _ _ _ _ _).2.toInt64.toUInt64 }, rfl, rfl, rfl, rfl, rfl⟩
  obtain ⟨d', info', hresult, hoff, hbufs, hcode, hsrc⟩ := hresult
  exact ⟨d', info', hresult, congrArg Int32.toUInt32 hoff,
    by rw [overlayBase, hoff]; exact haligned, by rw [hbufs, hn], by rw [hbufs]; exact hne,
    hcode, hsrc⟩

/-- The planes of an accepted request are apart iff the picture fits the place of the frames. -/
theorem vixConfigPlayback_planesApart_iff (hf : isPlanar info.fourcc = true)
    (hx : info.src.x = 0) (hy : info.src.y = 0) (hw : 1 ≤ info.src.w.toNat)
    (hh : 1 ≤ info.src.h.toNat) (hret : (vixConfigPlayback d info).1 = 0) :
    PlanesApart (vixConfigPlayback d info).2.2 ↔
      LayoutFits (search d info).2.toUInt32.toNat info := by
  have hsupported : isSupportedFourcc info.fourcc = true := by
    unfold isPlanar is420 is410 is400 at hf
    simp only [Bool.or_eq_true, beq_iff_eq] at hf
    rcases hf with (((h | h) | h) | h | h) | h <;> rw [h] <;> decide
  obtain ⟨d', info', h⟩ := vixConfigPlayback_handedOn hsupported hret
  have hiff := advertised_planesApart_iff d' info' (h.fourcc ▸ hf) (h.src ▸ hx) (h.src ▸ hy)
    (h.src ▸ hw) (h.src ▸ hh) h.aligned h.vidNbufs_ne
  rw [advertised, h.base] at hiff
  rw [h.result, hiff]
  have hpitch : pitchBytes info' = pitchBytes info := by
    unfold pitchBytes
    rw [h.fourcc, h.src]
  have hcode := h.fourcc
  have hsrc := h.src
  constructor
  · rintro ⟨hsmall, hluma, hchroma⟩
    rw [hpitch, hcode, hsrc] at *
    exact ⟨hsmall, hluma, hchroma⟩
  · rintro ⟨hsmall, hluma, hchroma⟩
    rw [← hpitch, ← hcode, ← hsrc] at *
    exact ⟨hsmall, hluma, hchroma⟩

/-- **The planes are apart iff the picture fits its place,** wherever `radeon_vid_init_video` is
given whole 64 KB for the overlay, and for every request that `vixConfigPlayback` accepts. -/
theorem planes_apart_iff (d : Driver) (info : VidixPlayback) (hf : isPlanar info.fourcc = true)
    (hx : info.src.x = 0) (hy : info.src.y = 0) (hw : 1 ≤ info.src.w.toNat)
    (hh : 1 ≤ info.src.h.toNat) :
    ((overlayBase d).toNat % 2 ^ 16 = 0 → d.besr.vidNbufs ≠ 0 →
        (PlanesApart (advertised d info) ↔ LayoutFits (overlayBase d).toNat info)) ∧
      ((vixConfigPlayback d info).1 = 0 →
        (PlanesApart (vixConfigPlayback d info).2.2 ↔
          LayoutFits (search d info).2.toUInt32.toNat info)) :=
  ⟨advertised_planesApart_iff d info hf hx hy hw hh,
    vixConfigPlayback_planesApart_iff hf hx hy hw hh⟩

/-- Two pictures of 352x288 are laid out on the sample card. -/
theorem planes_apart_sample :
    PlanesApart (vixConfigPlayback sampleDriver (sampleRequest imgfmtYV12 352 288 2)).2.2 := by
  refine ((planes_apart_iff sampleDriver (sampleRequest imgfmtYV12 352 288 2) (by decide) rfl rfl
    (by decide) (by decide)).2 (by decide)).mpr ⟨by decide, fun _ => by decide, ?_⟩
  intro s hs _
  cases hs
  decide

/-- **Of 43 lines the 43rd is counted for the distance of the chroma planes only:** the U plane of
21 lines of 32 bytes begins 688 bytes after the V plane, not 672, and ends 16 bytes beyond the
page of the frame. -/
theorem vixConfigPlayback_planes_overlap :
    (vixConfigPlayback sampleDriver (sampleRequest imgfmtYV12 64 43 2)).1 = 0 ∧
      (vixConfigPlayback sampleDriver (sampleRequest imgfmtYV12 64 43 2)).2.2.frameSize = 4096 ∧
      (vixConfigPlayback sampleDriver (sampleRequest imgfmtYV12 64 43 2)).2.2.offset =
        ⟨0, 3440, 2752⟩ ∧
      ¬ PlanesApart (vixConfigPlayback sampleDriver (sampleRequest imgfmtYV12 64 43 2)).2.2 := by
  have hsize :
      (vixConfigPlayback sampleDriver (sampleRequest imgfmtYV12 64 43 2)).2.2.frameSize = 4096 := by
    decide
  have hoffset : (vixConfigPlayback sampleDriver (sampleRequest imgfmtYV12 64 43 2)).2.2.offset =
      ⟨0, 3440, 2752⟩ := by decide
  refine ⟨by decide, hsize, hoffset, fun h => ?_⟩
  unfold PlanesApart at h
  rw [hsize, hoffset] at h
  have hplanes := packedIn_three_iff.mp h
  revert hplanes
  decide

end Vidix.Radeon
