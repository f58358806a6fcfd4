import Vidix.Radeon.Config
import Vidix.Radeon.Equiv.Basic
import Vidix.Equiv.Negotiation
import Vidix.Radeonhd.Config
import Vidix.Util.Region

/-!
# Frame placement of the Radeon drivers

`FramesPlaced` is what a successful `vixConfigPlayback` owes its caller: between one and the
requested number of frames, at an address that is not negative, all inside the video memory left
beside the descriptors (`usableMemory`).  `vixConfigPlayback` of either driver is the frame search
`placeFrames` with its own formats around it: it answers what the search finds
(`Radeon.vixConfigPlayback_answered`, `Radeonhd.vixConfigPlayback_answered`), so that the debt is
met exactly when the 32-bit tests of the search are honest: `vixConfigPlayback_framesPlaced_iff`.
-/

namespace Vidix

open Util

/-- The frames a driver advertises lie inside `usable` bytes of video memory. -/
structure FramesPlaced (usable : ℕ) (requested : UInt32) (off : Int32) (info : VidixPlayback) :
    Prop where
  numFrames_pos : 1 ≤ info.numFrames.toNat
  numFrames_le : info.numFrames.toNat ≤ requested.toNat
  off_nonneg : 0 ≤ off.toInt
  end_le : off.toInt + info.numFrames.toNat * info.frameSize.toNat ≤ usable

/-- The frames of a layout, one by one: frame `i` begins `i * frameSize` above the first. -/
theorem frameOffsets_getElem (frameSize nbufs : UInt32) {i : ℕ} (hi : i < nbufs.toNat) :
    (frameOffsets frameSize nbufs)[i]? = some (frameSize * UInt32.ofNat i) := by
  unfold frameOffsets
  rw [List.getElem?_iterate _ _ _ _ hi]
  congr 1
  induction i with
  | zero => simp
  | succ i ih =>
    rw [Function.iterate_succ_apply', ih (by omega), UInt32.ofNat_add, mul_add]
    simp

/-- **No advertised frame reaches past the usable memory.** -/
theorem FramesPlaced.frame_le {usable : ℕ} {requested : UInt32} {off : Int32}
    {info : VidixPlayback} (h : FramesPlaced usable requested off info)
    (husable : usable < 2 ^ 32) (hoff : info.offsets = frameOffsets info.frameSize info.numFrames)
    {i : ℕ} (hi : i < info.numFrames.toNat) :
    ∃ o, info.offsets[i]? = some o ∧
      off.toInt + o.toNat + info.frameSize.toNat ≤ usable := by
  refine ⟨info.frameSize * UInt32.ofNat i, by rw [hoff, frameOffsets_getElem _ _ hi], ?_⟩
  have hend := h.end_le
  have hnonneg := h.off_nonneg
  have hprod := slot_le hi info.frameSize.toNat
  have hcast : (info.numFrames.toNat : ℤ) * info.frameSize.toNat =
      ((info.numFrames.toNat * info.frameSize.toNat : ℕ) : ℤ) := by push_cast; rfl
  have hn : info.numFrames.toNat < 2 ^ 32 := info.numFrames.toNat_lt
  have hi32 : i % 2 ^ 32 = i := Nat.mod_eq_of_lt (by omega)
  rw [UInt32.toNat_mul, UInt32.toNat_ofNat', hi32, Nat.mul_comm, Nat.mod_eq_of_lt (by omega)]
  omega

/-! ### What both drivers do -/

/-- What the search of a configuration goes by. -/
structure Placing where
  videoSize : UInt32
  frameSize : UInt32
  rgbSize : UInt32
  numFrames : UInt32
  off : Int32

namespace Placing

/-- What the search finds. -/
def found (p : Placing) : ℕ × Int32 :=
  placeFrames p.videoSize p.frameSize p.rgbSize (cappedFrames p.numFrames) p.off

/-- The tests of the search are honest. -/
def Honest (p : Placing) : Prop :=
  TestsHonest p.videoSize p.frameSize p.rgbSize (cappedFrames p.numFrames).toNat

/-- A call answers what the search finds. -/
structure Answered (p : Placing) (ret : ℤ) (off : Int32) (info : VidixPlayback) : Prop where
  of_none : p.found.1 = 0 → ret = einval
  of_some : p.found.1 ≠ 0 →
    ret = 0 ∧ off = p.found.2 ∧ info.numFrames = UInt32.ofNat p.found.1 ∧
      info.frameSize = p.frameSize ∧
      info.offsets = frameOffsets p.frameSize (UInt32.ofNat p.found.1)

variable {p : Placing} {ret : ℤ} {off : Int32} {info : VidixPlayback}

/-- The frames that were found are placed iff what was found is. -/
theorem framesPlaced_iff_wellPlaced (hpos : 0 < p.found.1)
    (hn : info.numFrames = UInt32.ofNat p.found.1) (hs : info.frameSize = p.frameSize) :
    FramesPlaced p.videoSize.toNat p.numFrames p.found.2 info ↔
      WellPlaced p.videoSize p.frameSize p.found := by
  have hle := placeFrames_fst_le p.videoSize p.frameSize p.rgbSize (cappedFrames p.numFrames) p.off
  change p.found.1 ≤ _ at hle
  rw [cappedFrames_toNat] at hle
  have hn' : info.numFrames.toNat = p.found.1 := by
    rw [hn, UInt32.toNat_ofNat', Nat.mod_eq_of_lt (by omega)]
  constructor
  · intro h
    have hend := h.end_le
    rw [hn', hs] at hend
    exact ⟨h.off_nonneg, hend⟩
  · rintro ⟨hnonneg, hend⟩
    exact ⟨by omega, by omega, hnonneg, by rw [hn', hs]; exact hend⟩

/-- A driver that answers what the search found owes its caller nothing more than honest tests. -/
theorem Answered.framesPlaced_iff (h : p.Answered ret off info) :
    (ret = 0 → FramesPlaced p.videoSize.toNat p.numFrames off info) ↔ p.Honest := by
  unfold Honest
  rw [← placeFrames_wellPlaced_iff p.rgbSize (cappedFrames p.numFrames) p.off]
  change _ ↔ (0 < p.found.1 → WellPlaced p.videoSize p.frameSize p.found)
  by_cases h0 : p.found.1 = 0
  · rw [h.of_none h0]
    exact iff_of_true (fun h => absurd h (by decide)) (fun h => absurd h0 (Nat.ne_of_gt h))
  · obtain ⟨hret, hoff, hn, hs, -⟩ := h.of_some h0
    have hpos := Nat.pos_of_ne_zero h0
    rw [hret, hoff, framesPlaced_iff_wellPlaced hpos hn hs]
    exact ⟨fun h _ => h rfl, fun h _ => h hpos⟩

/-- When the tests are honest, no frame that a successful call advertises reaches past the
memory. -/
theorem Answered.frame_le (h : p.Answered ret off info) (hhonest : p.Honest) (hret : ret = 0)
    {i : ℕ} (hi : i < info.numFrames.toNat) :
    ∃ o, info.offsets[i]? = some o ∧
      off.toInt + o.toNat + info.frameSize.toNat ≤ p.videoSize.toNat := by
  have h0 : p.found.1 ≠ 0 := fun h0 => absurd ((h.of_none h0).symm.trans hret) (by decide)
  obtain ⟨-, -, hn, hs, ho⟩ := h.of_some h0
  refine (h.framesPlaced_iff.mpr hhonest hret).frame_le (UInt32.toNat_lt _) ?_ hi
  rw [ho, hn, hs]

end Placing

/-! ### `radeon_vid.c` -/

namespace Radeon

/-- The video memory left after the descriptor area is reserved, over the true integers. -/
def usableMemory (d : Driver) : ℕ :=
  d.ramSize.toNat - if d.flagDma then d.ramSize.toNat * 16 / 4096 else 0

theorem radeonVideoSize_toNat (d : Driver) : (radeonVideoSize d).toNat = usableMemory d := by
  have hlt : d.ramSize.toNat < 2 ^ 32 := d.ramSize.toNat_lt
  unfold radeonVideoSize usableMemory bmReserve
  split_ifs
  · have hres : (d.ramSize.toUInt64 * 16 / 4096).toUInt32.toNat = d.ramSize.toNat * 16 / 4096 := by
      rw [UInt64.toNat_toUInt32, UInt64.toNat_div, UInt64.toNat_mul, UInt32.toNat_toUInt64,
        show (16 : UInt64).toNat = 16 from rfl, show (4096 : UInt64).toNat = 4096 from rfl]
      omega
    rw [UInt32.toNat_sub, hres]
    omega
  · simp

@[simp] theorem radeonVidInitVideo_overlayOff (d : Driver) (config : VidixPlayback) :
    (radeonVidInitVideo d config).1.overlayOff = d.overlayOff := by
  unfold radeonVidInitVideo
  dsimp only
  split_ifs <;> rfl

@[simp] theorem radeonVidInitVideo_numFrames (d : Driver) (config : VidixPlayback) :
    (radeonVidInitVideo d config).2.numFrames = config.numFrames := by
  unfold radeonVidInitVideo
  dsimp only
  split_ifs <;> rfl

@[simp] theorem radeonVidInitVideo_frameSize (d : Driver) (config : VidixPlayback) :
    (radeonVidInitVideo d config).2.frameSize = config.frameSize := by
  unfold radeonVidInitVideo
  dsimp only
  split_ifs <;> rfl

@[simp] theorem radeonVidInitVideo_offsets (d : Driver) (config : VidixPlayback) :
    (radeonVidInitVideo d config).2.offsets = frameOffsets config.frameSize d.besr.vidNbufs := by
  unfold radeonVidInitVideo
  dsimp only
  split_ifs <;> rfl

/-- What `vixConfigPlayback` searches with. -/
def placing (d : Driver) (info : VidixPlayback) : Placing :=
  ⟨radeonVideoSize d, radeonComputeFramesize info, rgbSize d.regs, info.numFrames, d.overlayOff⟩

/-- The frame search `vixConfigPlayback` runs for a request. -/
def search (d : Driver) (info : VidixPlayback) : ℕ × Int32 := (placing d info).found

theorem vixConfigPlayback_answered {d : Driver} {info : VidixPlayback}
    (hf : isSupportedFourcc info.fourcc = true) :
    (placing d info).Answered (vixConfigPlayback d info).1
      (vixConfigPlayback d info).2.1.overlayOff (vixConfigPlayback d info).2.2 := by
  unfold vixConfigPlayback
  rw [hf, if_neg (by simp)]
  constructor
  · exact fun h0 => congrArg Prod.fst (if_pos h0)
  · intro h0
    unfold placing Placing.found at h0 ⊢
    dsimp only at h0 ⊢
    rw [if_neg h0]
    simp

/-- What a call of `vixConfigPlayback` owes its caller. -/
def PlacementHolds (d : Driver) (info : VidixPlayback) : Prop :=
  (vixConfigPlayback d info).1 = 0 →
    FramesPlaced (usableMemory d) info.numFrames (vixConfigPlayback d info).2.1.overlayOff
      (vixConfigPlayback d info).2.2

/-- The tests of the search are honest for a request. -/
def HonestFor (d : Driver) (info : VidixPlayback) : Prop := (placing d info).Honest

end Radeon

/-! ### `radeonhd_vid.c` -/

namespace Radeonhd

/-- What `vixConfigPlayback` searches with. -/
def placing (d : Driver) (info : VidixPlayback) : Placing :=
  ⟨radeonVideoSize d, radeonComputeFramesize info, rgbSize d.regs, info.numFrames, d.overlayOff⟩

theorem vixConfigPlayback_answered {d : Driver} {info : VidixPlayback}
    (hf : isSupportedFourcc info.fourcc = true) :
    (placing d info).Answered (vixConfigPlayback d info).1
      (vixConfigPlayback d info).2.1.overlayOff (vixConfigPlayback d info).2.2 := by
  unfold vixConfigPlayback
  rw [hf, if_neg (by simp)]
  constructor
  · exact fun h0 => congrArg Prod.fst (if_pos h0)
  · intro h0
    unfold placing Placing.found at h0 ⊢
    dsimp only at h0 ⊢
    rw [if_neg h0]
    exact ⟨rfl, rfl, rfl, rfl, rfl⟩

/-- What a call of `vixConfigPlayback` owes its caller. -/
def PlacementHolds (d : Driver) (info : VidixPlayback) : Prop :=
  (vixConfigPlayback d info).1 = 0 →
    FramesPlaced d.ramSize.toNat info.numFrames (vixConfigPlayback d info).2.1.overlayOff
      (vixConfigPlayback d info).2.2

/-- The tests of the search are honest for a request. -/
def HonestFor (d : Driver) (info : VidixPlayback) : Prop := (placing d info).Honest

end Radeonhd

/-! ### The placement of both drivers -/

/-- **A successful configuration places its frames iff the 32-bit tests are honest.**  The sum on
the left is over the true integers; on the right stands, for the frame size of the request, that no
number of frames up to `min num_frames 1024` passes a test of the search without fitting. -/
theorem vixConfigPlayback_framesPlaced_iff (d : Radeon.Driver) (dhd : Radeonhd.Driver)
    (info : VidixPlayback) :
    (Radeon.isSupportedFourcc info.fourcc = true →
        (Radeon.PlacementHolds d info ↔ Radeon.HonestFor d info)) ∧
      (Radeonhd.isSupportedFourcc info.fourcc = true →
        (Radeonhd.PlacementHolds dhd info ↔ Radeonhd.HonestFor dhd info)) := by
  constructor
  · intro hf
    rw [Radeon.PlacementHolds, ← Radeon.radeonVideoSize_toNat]
    exact (Radeon.vixConfigPlayback_answered hf).framesPlaced_iff
  · exact fun hf => (Radeonhd.vixConfigPlayback_answered hf).framesPlaced_iff

/-- A card with 64 MB and descriptors, under a desktop of 1024x768 at 32 bits. -/
def sampleDriver : Radeon.Driver where
  regs := { crtcGenCntl := 0x600, crtcHTotalDisp := 0x7f0000, crtcVTotalDisp := 0x2ff0000,
            crtc2HTotalDisp := 0, crtc2VTotalDisp := 0, hasCRTC2 := false, dviDispType := .none }
  ramSize := 0x4000000
  memBase := 0x7f0000000000
  base0 := 0xd0000000
  flagDma := true
  dmaDescBase := 0
  overlayOff := 0
  besr := { doubleBuff := true, vidNbufs := 0, vidBufBaseAdrsY := [], vidBufBaseAdrsU := [],
            vidBufBaseAdrsV := [], vidBufPitch0Value := 0, vidBufPitch1Value := 0 }

/-- A RadeonHD card under the same desktop. -/
def sampleDriverHd : Radeonhd.Driver where
  regs := { grphContol := 2, crtcHTotal := 1023, crtcVTotal := 767 }
  ramSize := 0x4000000
  memBase := 0x7f0000000000
  overlayOff := 0
  besr := sampleDriver.besr

/-- Ten small frames on those cards: every number up to ten fits, so the frames are placed. -/
theorem vixConfigPlayback_framesPlaced_sample :
    Radeon.PlacementHolds sampleDriver (sampleRequest imgfmtRGB32 352 288 10) ∧
      Radeonhd.PlacementHolds sampleDriverHd (sampleRequest imgfmtRGB32 352 288 10) := by
  have h := vixConfigPlayback_framesPlaced_iff sampleDriver sampleDriverHd
    (sampleRequest imgfmtRGB32 352 288 10)
  refine ⟨(h.1 (by decide)).mpr ⟨?_, ?_, ?_⟩, (h.2 (by decide)).mpr ⟨?_, ?_, ?_⟩⟩
  · exact fun _ _ hn _ => FramesFit.anti hn (by unfold FramesFit; decide)
  · exact fun hneg => absurd hneg (by decide)
  · exact fun _ _ _ hn _ => FramesFit.anti hn (by unfold FramesFit; decide)
  · exact fun _ _ hn _ => FramesFit.anti hn (by unfold FramesFit; decide)
  · exact fun hneg => absurd hneg (by decide)
  · exact fun _ _ _ hn _ => FramesFit.anti hn (by unfold FramesFit; decide)

/-- **1024 frames of 4 MB wrap around to nothing** and are all granted on the card of 64 MB. -/
theorem vixConfigPlayback_overruns :
    Radeon.isSupportedFourcc (sampleRequest imgfmtYUY2 1024 2048 1024).fourcc = true ∧
      1 ≤ (sampleRequest imgfmtYUY2 1024 2048 1024).numFrames.toNat ∧
      ¬ Radeon.PlacementHolds sampleDriver (sampleRequest imgfmtYUY2 1024 2048 1024) := by
  refine ⟨by decide, by decide, fun h => ?_⟩
  have hend := (h (by decide)).end_le
  revert hend
  decide

end Vidix
