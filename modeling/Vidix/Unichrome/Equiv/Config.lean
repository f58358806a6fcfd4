import Vidix.Unichrome.Config
import Vidix.Equiv.Negotiation

/-!
# What the unichrome driver grants

As for the cyberblade driver, the number of frames is that of the two megabytes at the end of the
memory, whatever the request asks for.  The scaling down never divides by zero, since it divides by
a number that is above another.
-/

namespace Vidix.Unichrome

open Util

/-! ### The size of a frame -/

/-- The bytes of a frame as integer arithmetic, in the 32 bits of `frame_size`. -/
def frameBytes (info : VidixPlayback) : ℕ :=
  let w := info.src.w.toInt32.toInt
  let h := info.src.h.toInt32.toInt
  let bytes :=
    if info.fourcc = imgfmtYV12 ∨ info.fourcc = imgfmtI420 ∨ info.fourcc = imgfmtUYVY ∨
        info.fourcc = imgfmtYVYU then roundUp w 32 * (h + h / 2)
    else if info.fourcc = imgfmtBGR32 then roundUp (w * 4) 32 * h
    else roundUp (w * 2) 32 * h
  (bytes % 2 ^ 32).toNat

theorem alignTo32_modEq {v : Int32} {a : ℤ} (hv : v.toInt ≡ a [ZMOD 2 ^ 32]) :
    (alignTo32 v).toInt ≡ roundUp a 32 [ZMOD 2 ^ 32] :=
  toInt_alignUp_modEq (k := 5) rfl rfl (by decide) hv

/-- The two chroma planes of a picture whose rows are `p` bytes, together. -/
theorem two_mul_uv_modEq {p a h : ℤ} (hp : p ≡ roundUp a 32 [ZMOD 2 ^ 32]) :
    p / 2 * (h / 2) + p / 2 * (h / 2) ≡ roundUp a 32 * (h / 2) [ZMOD 2 ^ 32] := by
  have hround : (2 : ℤ) ∣ roundUp a 32 := by
    unfold roundUp
    exact Dvd.dvd.mul_left (by decide) _
  have heven : (2 : ℤ) ∣ p := by
    have hmod : p ≡ roundUp a 32 [ZMOD 2] := hp.of_dvd (by decide)
    exact Int.dvd_of_emod_eq_zero (Eq.trans hmod (Int.emod_eq_zero_of_dvd hround))
  calc p / 2 * (h / 2) + p / 2 * (h / 2) = p / 2 * 2 * (h / 2) := by ring
    _ = p * (h / 2) := by rw [Int.ediv_mul_cancel heven]
    _ ≡ roundUp a 32 * (h / 2) [ZMOD 2 ^ 32] := hp.mul_right _

/-- A frame is its first plane and twice a chroma plane. -/
theorem planesOf_frameSize_of_modEq {fourcc : UInt32} {srcW srcH : Int32} {first uv : ℤ}
    (hfirst : (pitchOf fourcc srcW * srcH.toInt64).toInt ≡ first [ZMOD 2 ^ 32])
    (huv : (uvSizeOf fourcc srcW srcH).toInt ≡ uv [ZMOD 2 ^ 32]) :
    (planesOf fourcc srcW srcH).2.toNat = ((first + uv + uv) % 2 ^ 32).toNat := by
  unfold planesOf
  dsimp only
  rw [toUInt32_toInt32, ← Int32.toUInt32_add, ← Int32.toUInt32_add]
  exact toNat_eq_of_modEq
    (toInt_add_modEq (toInt_add_modEq (toInt_toInt32_modEq hfirst) huv) huv)

theorem pitchOf_mul_modEq {fourcc : UInt32} {srcW : Int32} {p : ℤ}
    (hp : (pitchOf fourcc srcW).toInt ≡ p [ZMOD 2 ^ 32]) (srcH : Int32) :
    (pitchOf fourcc srcW * srcH.toInt64).toInt ≡ p * srcH.toInt [ZMOD 2 ^ 32] :=
  toInt_mul_modEq_long hp (by rw [Int32.toInt_toInt64])

theorem planesOf_frameSize_of_yuv {fourcc : UInt32} (hyuv : isYuv fourcc = true)
    (srcW srcH : Int32) :
    (planesOf fourcc srcW srcH).2.toNat =
      (roundUp srcW.toInt 32 * (srcH.toInt + srcH.toInt / 2) % 2 ^ 32).toNat := by
  have hpitch : pitchOf fourcc srcW = (alignTo32 srcW).toInt64 := by
    unfold pitchOf
    rw [if_pos hyuv]
  have hp : (pitchOf fourcc srcW).toInt ≡ roundUp srcW.toInt 32 [ZMOD 2 ^ 32] := by
    rw [hpitch, Int32.toInt_toInt64]
    exact alignTo32_modEq rfl
  have huv : (uvSizeOf fourcc srcW srcH).toInt ≡
      (pitchOf fourcc srcW).toInt / 2 * (srcH.toInt / 2) [ZMOD 2 ^ 32] := by
    unfold uvSizeOf
    rw [if_pos hyuv]
    refine toInt_toInt32_modEq (toInt_mul_modEq_long ?_ ?_)
    · rw [toInt_shiftRight_one_long]
    · rw [Int32.toInt_toInt64, toInt_shiftRight_one]
  rw [planesOf_frameSize_of_modEq (pitchOf_mul_modEq hp srcH) huv, mul_add, add_assoc]
  exact congrArg Int.toNat ((two_mul_uv_modEq hp).add_left _)

theorem planesOf_frameSize_of_packed {fourcc : UInt32} (hyuv : ¬ isYuv fourcc = true)
    {srcW : Int32} {p : ℤ} (hp : (pitchOf fourcc srcW).toInt ≡ p [ZMOD 2 ^ 32]) (srcH : Int32) :
    (planesOf fourcc srcW srcH).2.toNat = (p * srcH.toInt % 2 ^ 32).toNat := by
  have huv : (uvSizeOf fourcc srcW srcH).toInt ≡ 0 [ZMOD 2 ^ 32] := by
    unfold uvSizeOf
    rw [if_neg hyuv]
    rfl
  rw [planesOf_frameSize_of_modEq (pitchOf_mul_modEq hp srcH) huv, add_zero, add_zero]

theorem isYuv_iff (fourcc : UInt32) :
    isYuv fourcc = true ↔ fourcc = imgfmtYV12 ∨ fourcc = imgfmtI420 ∨ fourcc = imgfmtUYVY ∨
      fourcc = imgfmtYVYU := by
  unfold isYuv
  simp only [Bool.or_eq_true, beq_iff_eq, or_assoc]

theorem planesOf_frameSize (info : VidixPlayback) :
    (planesOf info.fourcc info.src.w.toInt32 info.src.h.toInt32).2.toNat = frameBytes info := by
  unfold frameBytes
  simp only [← isYuv_iff]
  split_ifs with hyuv hfour
  · exact planesOf_frameSize_of_yuv hyuv _ _
  · refine planesOf_frameSize_of_packed hyuv ?_ _
    unfold pitchOf
    rw [if_neg hyuv, if_pos (beq_iff_eq.mpr hfour), Int32.toInt_toInt64, shiftLeft_two]
    exact alignTo32_modEq (toInt_mul_modEq rfl rfl)
  · refine planesOf_frameSize_of_packed hyuv ?_ _
    unfold pitchOf
    rw [if_neg hyuv, if_neg (fun h => hfour (beq_iff_eq.mp h)), Int32.toInt_toInt64, shiftLeft_one]
    exact alignTo32_modEq (toInt_mul_modEq rfl rfl)

/-! ### Zoom -/

/-- The divisions that scale a source of `w` by `h` up to `dw` by `dh` are defined. -/
structure Zooms (w h dw dh : Int32) : Prop where
  vertical : h < dh → Divides (h * 0x400) dh
  horizontal : w < dw → Divides (w * 0x800) dw

/-- One direction of a scaling, which divides only where the picture is enlarged. -/
theorem isSome_zoom_iff {α : Type*} {a b n d : Int32} {same : α} {enlarged : Int32 → Option α}
    {reduced : Option α} (henlarged : ∀ q, (enlarged q).isSome) (hreduced : reduced.isSome) :
    (if a = b then some same else if a < b then (quotient n d).bind enlarged
      else reduced).isSome ↔ (a < b → Divides n d) := by
  split_ifs with heq hlt
  · subst heq
    exact iff_of_true rfl fun h => absurd h Int32.lt_irrefl
  · rw [isSome_quotient_bind_iff, forall_prop_of_true hlt]
    exact and_iff_left (henlarged _)
  · exact iff_of_true hreduced fun h => absurd h hlt

theorem ucOvlMapVzoom_isSome_iff (h dh : Int32) :
    (ucOvlMapVzoom h dh).isSome ↔ (h < dh → Divides (h * 0x400) dh) := by
  unfold ucOvlMapVzoom
  refine isSome_zoom_iff (fun _ => rfl) ?_
  dsimp only
  split_ifs <;> rfl

theorem ucOvlMapHzoom_isSome_iff (w dw : Int32) :
    (ucOvlMapHzoom w dw).isSome ↔ (w < dw → Divides (w * 0x800) dw) := by
  unfold ucOvlMapHzoom
  refine isSome_zoom_iff (fun _ => rfl) ?_
  dsimp only
  split_ifs <;> rfl

/-! ### `vixConfigPlayback` -/

variable {mem : UInt64} {info : VidixPlayback}

theorem vixConfigPlayback_of_unsupported (hfourcc : ¬ isSupportedFourcc info.fourcc) :
    vixConfigPlayback mem info = some (-1, info, none) := by
  unfold vixConfigPlayback
  rw [Bool.eq_false_of_not_eq_true hfourcc, Bool.not_false, if_pos rfl]

/-- A frame without bytes is divided by. -/
theorem vixConfigPlayback_of_empty (hfourcc : isSupportedFourcc info.fourcc)
    (hzero : frameBytes info = 0) : vixConfigPlayback mem info = none := by
  have hsize : (planesOf info.fourcc info.src.w.toInt32 info.src.h.toInt32).2 = 0 :=
    UInt32.toNat_inj.mp ((planesOf_frameSize info).trans hzero)
  unfold vixConfigPlayback
  rw [hfourcc, Bool.not_true, if_neg Bool.false_ne_true]
  dsimp only
  cases ucOvlMapVzoom info.src.h.toInt32 info.dest.h.toInt32 with
  | none => rfl
  | some vertical =>
    cases ucOvlMapHzoom info.src.w.toInt32 info.dest.w.toInt32 with
    | none => rfl
    | some horizontal => exact if_pos hsize

/-- A frame that has bytes. -/
theorem vixConfigPlayback_fills (mem : UInt64) (hfourcc : isSupportedFourcc info.fourcc)
    (hne : frameBytes info ≠ 0) :
    Fills (2 ^ 21) (frameBytes info)
      (Zooms info.src.w.toInt32 info.src.h.toInt32 info.dest.w.toInt32 info.dest.h.toInt32)
      fun info' => ∃ settings, vixConfigPlayback mem info = some (0, info', settings) := by
  have hsize := planesOf_frameSize info
  have hzero : (planesOf info.fourcc info.src.w.toInt32 info.src.h.toInt32).2 ≠ 0 := by
    intro h
    rw [← hsize, h] at hne
    exact hne rfl
  have hzooms : Zooms info.src.w.toInt32 info.src.h.toInt32 info.dest.w.toInt32
      info.dest.h.toInt32 ↔ (ucOvlMapVzoom info.src.h.toInt32 info.dest.h.toInt32).isSome ∧
        (ucOvlMapHzoom info.src.w.toInt32 info.dest.w.toInt32).isSome := by
    rw [ucOvlMapVzoom_isSome_iff, ucOvlMapHzoom_isSome_iff]
    exact ⟨fun z => ⟨z.vertical, z.horizontal⟩, fun z => ⟨z.1, z.2⟩⟩
  unfold vixConfigPlayback
  rw [hfourcc, Bool.not_true, if_neg Bool.false_ne_true, hzooms]
  dsimp only
  refine ⟨laidOut mem (planesOf info.fourcc info.src.w.toInt32 info.src.h.toInt32).1
    (planesOf info.fourcc info.src.w.toInt32 info.src.h.toInt32).2 info,
    ⟨fun h => hne (hsize ▸ h), ?_, rfl⟩, hsize, fun info' => ?_⟩
  · exact (cappedFrames_toNat _).trans (by rw [UInt32.toNat_div]; rfl)
  · cases ucOvlMapVzoom info.src.h.toInt32 info.dest.h.toInt32 with
    | none => simp
    | some vertical =>
      cases ucOvlMapHzoom info.src.w.toInt32 info.dest.w.toInt32 with
      | none => simp
      | some horizontal => simpa [hzero] using eq_comm

/-- **The unichrome driver.** -/
theorem negotiated_iff (mem : UInt64) (info : VidixPlayback) :
    (∀ info', (∃ settings, vixConfigPlayback mem info = some (0, info', settings)) →
        Negotiated info.numFrames framebufferStart.toNat info') ↔
      (isSupportedFourcc info.fourcc → frameBytes info ≠ 0 →
        Zooms info.src.w.toInt32 info.src.h.toInt32 info.dest.w.toInt32 info.dest.h.toInt32 →
        frameBytes info ≤ 2 ^ 21 ∧ min (2 ^ 21 / frameBytes info) 1024 ≤ info.numFrames.toNat) := by
  refine forall_negotiated_iff (by decide) _ (by decide) (by decide) ?_ ?_
    (vixConfigPlayback_fills mem)
  · rintro hfourcc info' ⟨settings, h⟩
    rw [vixConfigPlayback_of_unsupported hfourcc] at h
    have herr : (-1 : ℤ) = 0 := congrArg (fun r => r.elim 0 Prod.fst) h
    exact absurd herr (by decide)
  · rintro hfourcc hzero info' ⟨settings, h⟩
    rw [vixConfigPlayback_of_empty hfourcc hzero] at h
    cases h

end Vidix.Unichrome
