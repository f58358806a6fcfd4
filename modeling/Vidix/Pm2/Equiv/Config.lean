import Vidix.Pm2.Config
import Vidix.Cyberblade.Equiv.Config
import Vidix.Unichrome.Equiv.Config
import Vidix.Util.Table

/-!
# What the pm2 driver grants

The number of frames is that of the megabytes which the driver has been told to use.  They are the
end of the memory as long as there are no more than eight of them.  None of the three drivers that
fill a window looks at the number of frames it is asked for: `drivers_negotiate_iff`.
-/

namespace Vidix.Pm2

open Util

/-! ### Widths -/

/-- The width of the rows of a source: the least one in the table that is wide enough. -/
def strideOf (srcW : UInt32) : Option UInt32 :=
  (ppcodes.tail.map Prod.fst).find? fun width => decide (width ≥ srcW)

theorem widthsStep_stride (srcW sstr prev : UInt32) (entry : UInt32 × UInt32) (s : Widths) :
    (widthsStep srcW sstr prev entry s).stride =
      if s.stride = 0 ∧ entry.1 ≥ srcW then entry.1 else s.stride := by
  unfold widthsStep
  dsimp only
  split_ifs <;> rfl

theorem widthsLoop_stride_of_ne_zero (srcW sstr : UInt32) (entries : List (UInt32 × UInt32)) :
    ∀ (prev : UInt32) (s : Widths), s.stride ≠ 0 →
      (widthsLoop srcW sstr prev entries s).stride = s.stride := by
  induction entries with
  | nil => exact fun _ _ _ => rfl
  | cons entry entries ih =>
    intro prev s hne
    have hstep : (widthsStep srcW sstr prev entry s).stride = s.stride := by
      rw [widthsStep_stride, if_neg fun h => hne h.1]
    rw [widthsLoop, ih _ _ (by rwa [hstep]), hstep]

/-- The loop finds the first width that is wide enough. -/
theorem widthsLoop_stride (srcW sstr : UInt32) (entries : List (UInt32 × UInt32))
    (hne : ∀ entry ∈ entries, entry.1 ≠ 0) :
    ∀ (prev : UInt32) (s : Widths), s.stride = 0 →
      (widthsLoop srcW sstr prev entries s).stride =
        ((entries.map Prod.fst).find? fun width => decide (width ≥ srcW)).getD 0 := by
  induction entries with
  | nil => exact fun _ _ hzero => hzero
  | cons entry entries ih =>
    intro prev s hzero
    have hstep := widthsStep_stride srcW sstr prev entry s
    rw [widthsLoop, List.map_cons, List.find?_cons]
    by_cases hwide : entry.1 ≥ srcW
    · rw [if_pos ⟨hzero, hwide⟩] at hstep
      have hfirst : entry.1 ≠ 0 := hne entry List.mem_cons_self
      rw [widthsLoop_stride_of_ne_zero _ _ _ _ _ (by rwa [hstep]), hstep, decide_eq_true hwide]
      rfl
    · rw [if_neg fun h => hwide h.2] at hstep
      rw [ih (fun e he => hne e (List.mem_cons_of_mem _ he)) _ _ (hstep.trans hzero),
        decide_eq_false hwide]

theorem widths_stride (srcW sstr : UInt32) : (widths srcW sstr).stride = (strideOf srcW).getD 0 :=
  widthsLoop_stride srcW sstr _ (forall_mem_of_all (by decide)) _ _ rfl

theorem strideOf_ne_zero {srcW stride : UInt32} (h : strideOf srcW = some stride) : stride ≠ 0 := by
  have hmem := List.mem_of_find?_eq_some h
  have hall : ∀ width ∈ ppcodes.tail.map Prod.fst, width ≠ 0 :=
    forall_mem_of_all (by decide)
  exact hall stride hmem

/-! ### The window -/

/-- The bytes of a frame, in the 32 bits of `frame_size`. -/
def frameBytes (stride srcH : UInt32) : ℕ := stride.toNat * srcH.toNat * 2 % 2 ^ 32

theorem frameSize_toNat (stride srcH : UInt32) :
    (stride * srcH * 2).toNat = frameBytes stride srcH := by
  unfold frameBytes
  rw [UInt32.toNat_mul, UInt32.toNat_mul, Nat.mod_mul_mod]
  rfl

/-- The bytes of a number of megabytes, in 32 bits. -/
def vidmemBytes (pm2Vidmem : Int32) : ℕ := (pm2Vidmem.toInt % 4096).toNat * 2 ^ 20

theorem windowBytes_toNat (pm2Vidmem : Int32) :
    (windowBytes pm2Vidmem).toNat = vidmemBytes pm2Vidmem := by
  have hmul : (pm2Vidmem * 1024 * 1024).toInt ≡ pm2Vidmem.toInt * 1024 * 1024 [ZMOD 2 ^ 32] :=
    toInt_mul_modEq (toInt_mul_modEq rfl rfl) rfl
  unfold windowBytes vidmemBytes
  rw [toNat_eq_of_modEq hmul]
  omega

theorem vidmemBytes_lt (pm2Vidmem : Int32) : vidmemBytes pm2Vidmem < 2 ^ 32 := by
  unfold vidmemBytes
  omega

/-- The window is the end of the memory when there are at most eight megabytes in it, and otherwise
it begins before the memory or behind it. -/
theorem base0_inside_iff (pm2Vidmem : Int32) {n : ℕ} (hle : n ≤ vidmemBytes pm2Vidmem) :
    0 ≤ (base0 pm2Vidmem).toInt ∧ (base0 pm2Vidmem).toInt + n ≤ mappedBytes ↔
      pm2Vidmem.toInt % 4096 ≤ 8 := by
  have hsub : (8 - pm2Vidmem).toInt ≡ 8 - pm2Vidmem.toInt [ZMOD 2 ^ 32] := by
    rw [Int32.toInt_sub]
    exact Int.bmod_emod
  have hbase : (base0 pm2Vidmem).toInt ≡ (8 - pm2Vidmem.toInt) * 1024 * 1024 [ZMOD 2 ^ 32] :=
    toInt_mul_modEq (toInt_mul_modEq hsub rfl) rfl
  have hlow := Int32.le_toInt (base0 pm2Vidmem)
  have hhigh := Int32.toInt_lt (base0 pm2Vidmem)
  unfold vidmemBytes at hle
  unfold Int.ModEq at hbase
  unfold mappedBytes
  omega

/-! ### `vixConfigPlayback` -/

variable {vidmem : Int32} {mem : UInt64} {screenStride : UInt32} {info : VidixPlayback}

theorem vixConfigPlayback_of_unsupported (hfourcc : info.fourcc ≠ imgfmtYUY2) :
    vixConfigPlayback vidmem mem screenStride info = some (-1, info, none) := by
  unfold vixConfigPlayback
  exact if_pos (bne_iff_ne.mpr hfourcc)

theorem vixConfigPlayback_of_wide (hfourcc : info.fourcc = imgfmtYUY2)
    (hstride : strideOf info.src.w = none) :
    vixConfigPlayback vidmem mem screenStride info = some (-1, info, none) := by
  unfold vixConfigPlayback
  rw [if_neg (by rw [hfourcc, bne_self_eq_false]; exact Bool.false_ne_true)]
  dsimp only
  rw [widths_stride, hstride]
  exact if_pos rfl

/-- A width that the chip can have. -/
theorem vixConfigPlayback_of_stride (vidmem : Int32) (mem : UInt64) (screenStride : UInt32)
    (hfourcc : info.fourcc = imgfmtYUY2) {stride : UInt32}
    (hstride : strideOf info.src.w = some stride) :
    ∃ w : Widths, vixConfigPlayback vidmem mem screenStride info =
      if stride * info.src.h * 2 = 0 then none
      else if info.dest.w = 0 then none
      else if info.dest.h = 0 then none
      else
        let info' := laidOut vidmem mem w.pitch (stride * info.src.h * 2) info
        some (0, info', some ⟨w.ppcode, w.sppc, (info.src.w <<< 20) / info.dest.w,
          (info.src.h <<< 20) / info.dest.h, info'.offsets.map (frameAt vidmem)⟩) := by
  refine ⟨widths info.src.w (screenStride * 2), ?_⟩
  have hw := widths_stride info.src.w (screenStride * 2)
  rw [hstride, Option.getD_some] at hw
  unfold vixConfigPlayback
  rw [if_neg (by rw [hfourcc, bne_self_eq_false]; exact Bool.false_ne_true)]
  dsimp only
  rw [hw, if_neg (strideOf_ne_zero hstride)]
  rfl

/-- A frame that has bytes. -/
theorem vixConfigPlayback_fills (vidmem : Int32) (mem : UInt64) (screenStride : UInt32)
    (hfourcc : info.fourcc = imgfmtYUY2) {stride : UInt32}
    (hstride : strideOf info.src.w = some stride) (hne : frameBytes stride info.src.h ≠ 0) :
    Fills (vidmemBytes vidmem) (frameBytes stride info.src.h)
      (info.dest.w ≠ 0 ∧ info.dest.h ≠ 0) fun info' =>
        ∃ settings, vixConfigPlayback vidmem mem screenStride info =
          some (0, info', settings) := by
  obtain ⟨w, hconfig⟩ := vixConfigPlayback_of_stride vidmem mem screenStride hfourcc hstride
  have hsize := frameSize_toNat stride info.src.h
  have hzero : stride * info.src.h * 2 ≠ 0 := by
    intro h
    rw [← hsize, h] at hne
    exact hne rfl
  rw [hconfig, if_neg hzero]
  refine ⟨laidOut vidmem mem w.pitch (stride * info.src.h * 2) info,
    ⟨fun h => hne (hsize ▸ h), ?_, rfl⟩, hsize, fun info' => ?_⟩
  · refine (cappedFrames_toNat _).trans ?_
    rw [UInt32.toNat_div, windowBytes_toNat]
    rfl
  · by_cases hw : info.dest.w = 0
    · simp [hw]
    · by_cases hh : info.dest.h = 0
      · simp [hh]
      · simpa [hw, hh] using eq_comm

/-- **The pm2 driver.** -/
theorem negotiated_iff (vidmem : Int32) (mem : UInt64) (screenStride : UInt32)
    (info : VidixPlayback) :
    (∀ info', (∃ settings, vixConfigPlayback vidmem mem screenStride info =
        some (0, info', settings)) →
        Negotiated info.numFrames (base0 vidmem).toInt info') ↔
      (info.fourcc = imgfmtYUY2 → ∀ stride, strideOf info.src.w = some stride →
        frameBytes stride info.src.h ≠ 0 → info.dest.w ≠ 0 ∧ info.dest.h ≠ 0 →
        frameBytes stride info.src.h ≤ vidmemBytes vidmem ∧
          min (vidmemBytes vidmem / frameBytes stride info.src.h) 1024 ≤ info.numFrames.toNat ∧
          vidmem.toInt % 4096 ≤ 8) := by
  have herr : (-1 : ℤ) ≠ 0 := by decide
  by_cases hfourcc : info.fourcc = imgfmtYUY2
  · cases hstride : strideOf info.src.w with
    | none =>
      rw [vixConfigPlayback_of_wide hfourcc hstride]
      refine iff_of_true (fun _ ⟨_, h⟩ => ?_) fun _ _ h => by cases h
      exact absurd (congrArg Prod.fst (Option.some.inj h)) herr
    | some stride =>
      simp only [hfourcc, true_imp_iff, Option.some.injEq, forall_eq']
      by_cases hne : frameBytes stride info.src.h = 0
      · obtain ⟨w, hconfig⟩ := vixConfigPlayback_of_stride vidmem mem screenStride hfourcc hstride
        have hzero : stride * info.src.h * 2 = 0 :=
          UInt32.toNat_inj.mp ((frameSize_toNat stride info.src.h).trans hne)
        rw [hconfig, if_pos hzero]
        exact iff_of_true (fun _ ⟨_, h⟩ => by cases h) fun h => absurd hne h
      · have hfills := vixConfigPlayback_fills vidmem mem screenStride hfourcc hstride hne
        have hmul : frameBytes stride info.src.h *
            min (vidmemBytes vidmem / frameBytes stride info.src.h) 1024 ≤ vidmemBytes vidmem :=
          (Nat.mul_le_mul_left _ (Nat.min_le_left _ _)).trans (Nat.mul_div_le _ _)
        have hinside := base0_inside_iff vidmem hmul
        rw [Nat.cast_mul] at hinside
        rw [hfills.forall_negotiated_iff (vidmemBytes_lt vidmem), hinside]
        exact ⟨fun h _ => h, fun h => h hne⟩
  · rw [vixConfigPlayback_of_unsupported hfourcc]
    refine iff_of_true (fun _ ⟨_, h⟩ => ?_) fun h => absurd h hfourcc
    exact absurd (congrArg Prod.fst (Option.some.inj h)) herr

/-! ### The three drivers -/

/-- **A request that one of the drivers accepts is granted what it should be iff one frame fits into
the window and no more frames than the request asks for do**, at most `VID_PLAY_MAXFRAMES` of them
counted (and the pm2 driver uses eight megabytes at most). -/
theorem drivers_negotiate_iff (mem : UInt64) (vidmem : Int32) (screenStride : UInt32)
    (info : VidixPlayback) :
    ((∀ info', (∃ settings, Cyberblade.vixConfigPlayback mem info = some (0, info', settings)) →
        Negotiated info.numFrames Cyberblade.base0.toNat info') ↔
      (Cyberblade.isSupportedFourcc info.fourcc → Cyberblade.frameBytes info ≠ 0 →
        Cyberblade.Scales info.src.w.toInt32 info.src.h.toInt32 info.dest.w.toInt32
          info.dest.h.toInt32 →
        Cyberblade.frameBytes info ≤ 2 ^ 21 ∧
          min (2 ^ 21 / Cyberblade.frameBytes info) 1024 ≤ info.numFrames.toNat)) ∧
    ((∀ info', (∃ settings, Unichrome.vixConfigPlayback mem info = some (0, info', settings)) →
        Negotiated info.numFrames Unichrome.framebufferStart.toNat info') ↔
      (Unichrome.isSupportedFourcc info.fourcc → Unichrome.frameBytes info ≠ 0 →
        Unichrome.Zooms info.src.w.toInt32 info.src.h.toInt32 info.dest.w.toInt32
          info.dest.h.toInt32 →
        Unichrome.frameBytes info ≤ 2 ^ 21 ∧
          min (2 ^ 21 / Unichrome.frameBytes info) 1024 ≤ info.numFrames.toNat)) ∧
    ((∀ info', (∃ settings, vixConfigPlayback vidmem mem screenStride info =
        some (0, info', settings)) →
        Negotiated info.numFrames (base0 vidmem).toInt info') ↔
      (info.fourcc = imgfmtYUY2 → ∀ stride, strideOf info.src.w = some stride →
        frameBytes stride info.src.h ≠ 0 → info.dest.w ≠ 0 ∧ info.dest.h ≠ 0 →
        frameBytes stride info.src.h ≤ vidmemBytes vidmem ∧
          min (vidmemBytes vidmem / frameBytes stride info.src.h) 1024 ≤ info.numFrames.toNat ∧
          vidmem.toInt % 4096 ≤ 8)) :=
  ⟨Cyberblade.negotiated_iff mem info, Unichrome.negotiated_iff mem info,
    negotiated_iff vidmem mem screenStride info⟩

/-- **A request for one frame: the cyberblade and unichrome drivers grant three, and the pm2 driver
grants ten.** -/
theorem drivers_grant_more :
    (∃ info' settings,
      Cyberblade.vixConfigPlayback 0 (samplePlayback 640 480) = some (0, info', settings) ∧
      info'.numFrames = 3 ∧
      ¬ Negotiated (samplePlayback 640 480).numFrames Cyberblade.base0.toNat info') ∧
    (∃ info' settings,
      Unichrome.vixConfigPlayback 0 (samplePlayback 640 480) = some (0, info', settings) ∧
      info'.numFrames = 3 ∧
      ¬ Negotiated (samplePlayback 640 480).numFrames Unichrome.framebufferStart.toNat info') ∧
    ∃ info' settings,
      vixConfigPlayback 6 0 640 (samplePlayback 640 480) = some (0, info', settings) ∧
      info'.numFrames = 10 ∧
      ¬ Negotiated (samplePlayback 640 480).numFrames (base0 6).toInt info' := by
  refine ⟨⟨_, _, rfl, by decide, fun h => ?_⟩, ⟨_, _, rfl, by decide, fun h => ?_⟩,
    ⟨_, _, rfl, by decide, fun h => ?_⟩⟩
  · exact absurd h.asked (by decide)
  · exact absurd h.asked (by decide)
  · exact absurd h.asked (by decide)

end Vidix.Pm2
