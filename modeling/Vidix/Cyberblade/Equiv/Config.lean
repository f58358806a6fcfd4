import Vidix.Cyberblade.Config
import Vidix.Equiv.Negotiation

/-!
# What the cyberblade driver grants

The number of frames is that of the two megabytes at the end of the memory; the number that the
request asks for is not looked at.
-/

namespace Vidix.Cyberblade

open Util

/-! ### The size of a frame -/

/-- The bytes of a frame as integer arithmetic, in the 32 bits of `frame_size`. -/
def frameBytes (info : VidixPlayback) : ℕ :=
  let w := info.src.w.toInt32.toInt
  let h := info.src.h.toInt32.toInt
  let bytes :=
    if info.fourcc = imgfmtYUY2 ∨ info.fourcc = imgfmtBGR16 then roundUp (w * 2) 16 * h
    else if info.fourcc = imgfmtYV12 ∨ info.fourcc = imgfmtI420 then
      roundUp w 16 * h + 2 * roundUp (w.tdiv 2) 8 * h.tdiv 2
    else roundUp w 16 * h + 2 * roundUp (w.tdiv 4) 4 * h.tdiv 4
  (bytes % 2 ^ 32).toNat

theorem packedPlanes_frameSize (srcW srcH : Int32) :
    (packedPlanes srcW srcH).frameSize.toNat =
      (roundUp (srcW.toInt * 2) 16 * srcH.toInt % 2 ^ 32).toNat := by
  have hwidth : (srcW * 2).toInt ≡ srcW.toInt * 2 [ZMOD 2 ^ 32] := toInt_mul_modEq rfl rfl
  have hpitch : (packedPlanes srcW srcH).yPitch.toInt ≡ roundUp (srcW.toInt * 2) 16
      [ZMOD 2 ^ 32] := toInt_alignUp_modEq (k := 4) rfl rfl (by decide) hwidth
  exact toNat_eq_of_modEq (toInt_mul_modEq hpitch rfl)

/-- The luma plane. -/
theorem luma_modEq (srcW srcH : Int32) :
    (((srcW + 15) &&& ~~~15) * srcH).toInt ≡ roundUp srcW.toInt 16 * srcH.toInt [ZMOD 2 ^ 32] :=
  toInt_mul_modEq (toInt_alignUp_modEq (k := 4) rfl rfl (by decide) rfl) rfl

/-- The rows of a chroma plane, and their length. -/
theorem chroma_modEq {d mask : Int32} {m : ℤ} {k : ℕ} (hd : d ≠ -1) (hm : m = 2 ^ k)
    (hmask : mask.toInt = m - 1) (hk : k ≤ 31) (srcW srcH : Int32) :
    ((srcW / d + mask) &&& ~~~mask).toInt ≡ roundUp (srcW.toInt.tdiv d.toInt) m [ZMOD 2 ^ 32] ∧
      (srcH / d).toInt ≡ srcH.toInt.tdiv d.toInt [ZMOD 2 ^ 32] := by
  have hdiv : ∀ x : Int32, (x / d).toInt ≡ x.toInt.tdiv d.toInt [ZMOD 2 ^ 32] := fun x => by
    rw [Int32.toInt_div_of_ne_right _ _ hd]
  exact ⟨toInt_alignUp_modEq hm hmask hk (hdiv srcW), hdiv srcH⟩

theorem planarPlanes_frameSize {d mask : Int32} {m : ℤ} {k : ℕ} (hd : d ≠ -1) (hm : m = 2 ^ k)
    (hmask : mask.toInt = m - 1) (hk : k ≤ 31) (layout srcW srcH : Int32) :
    (planarPlanes d mask layout srcW srcH).frameSize.toNat =
      ((roundUp srcW.toInt 16 * srcH.toInt +
        2 * roundUp (srcW.toInt.tdiv d.toInt) m * srcH.toInt.tdiv d.toInt) % 2 ^ 32).toNat := by
  obtain ⟨hpitch, hrows⟩ := chroma_modEq hd hm hmask hk srcW srcH
  have hchroma := toInt_mul_modEq (toInt_mul_modEq (x := 2) rfl hpitch) hrows
  exact toNat_eq_of_modEq (toInt_add_modEq (luma_modEq srcW srcH) hchroma)

theorem planesOf_frameSize (info : VidixPlayback) :
    (planesOf info.fourcc info.src.w.toInt32 info.src.h.toInt32).frameSize.toNat =
      frameBytes info := by
  unfold planesOf frameBytes
  simp only [Bool.or_eq_true, beq_iff_eq]
  split_ifs
  · exact packedPlanes_frameSize _ _
  · exact planarPlanes_frameSize (k := 3) (by decide) rfl rfl (by decide) _ _ _
  · exact planarPlanes_frameSize (k := 2) (by decide) rfl rfl (by decide) _ _ _

/-! ### The scale factors -/

/-- The divisions that scale a source of `w` by `h` to `dw` by `dh` are defined. -/
structure Scales (w h dw dh : Int32) : Prop where
  widen : w < dw → Divides (w <<< 10) (dw - 2)
  narrow : dw < w → Divides w dw ∧ Divides (dw <<< 10) w
  vertical : Divides (h <<< 10) dh
  lower : dh < h → Divides (dh <<< 10) h

theorem hscaleOf_isSome_iff (w dw : Int32) :
    (hscaleOf w dw).isSome ↔ (w < dw → Divides (w <<< 10) (dw - 2)) ∧
      (dw < w → Divides w dw ∧ Divides (dw <<< 10) w) := by
  unfold hscaleOf
  split_ifs with heq hlt
  · subst heq
    exact iff_of_true rfl ⟨fun h => absurd h Int32.lt_irrefl, fun h => absurd h Int32.lt_irrefl⟩
  · have hnot : ¬ dw < w := Int32.not_lt.mpr (Int32.le_of_lt hlt)
    simp [hlt, hnot, isSome_quotient_bind_iff]
  · have hgt : dw < w := Int32.lt_of_le_of_ne (Int32.not_lt.mp hlt) (Ne.symm heq)
    simp [hlt, hgt, isSome_quotient_bind_iff]

theorem vscaleOf_isSome_iff (h dh : Int32) :
    (vscaleOf h dh).isSome ↔ Divides (h <<< 10) dh ∧ (dh < h → Divides (dh <<< 10) h) := by
  unfold vscaleOf
  by_cases hlt : dh < h
  · simp [hlt, isSome_quotient_bind_iff]
  · simp [hlt, quotient_isSome_iff]

theorem scales_iff (w h dw dh : Int32) :
    Scales w h dw dh ↔ (hscaleOf w dw).isSome ∧ (vscaleOf h dh).isSome := by
  rw [hscaleOf_isSome_iff, vscaleOf_isSome_iff]
  exact ⟨fun s => ⟨⟨s.widen, s.narrow⟩, s.vertical, s.lower⟩,
    fun s => ⟨s.1.1, s.1.2, s.2.1, s.2.2⟩⟩

/-! ### `vixConfigPlayback` -/

variable {mem : UInt64} {info : VidixPlayback}

theorem vixConfigPlayback_of_unsupported (hfourcc : ¬ isSupportedFourcc info.fourcc) :
    vixConfigPlayback mem info = some (-1, info, none) := by
  unfold vixConfigPlayback
  rw [Bool.eq_false_of_not_eq_true hfourcc, Bool.not_false, if_pos rfl]

/-- A frame without bytes is divided by. -/
theorem vixConfigPlayback_of_empty (hfourcc : isSupportedFourcc info.fourcc)
    (hzero : frameBytes info = 0) : vixConfigPlayback mem info = none := by
  have hsize : (planesOf info.fourcc info.src.w.toInt32 info.src.h.toInt32).frameSize = 0 :=
    UInt32.toNat_inj.mp ((planesOf_frameSize info).trans hzero)
  unfold vixConfigPlayback
  rw [hfourcc, Bool.not_true, if_neg Bool.false_ne_true]
  dsimp only
  rw [if_pos hsize]

/-- A frame that has bytes. -/
theorem vixConfigPlayback_fills (mem : UInt64) (hfourcc : isSupportedFourcc info.fourcc)
    (hne : frameBytes info ≠ 0) :
    Fills (2 ^ 21) (frameBytes info)
      (Scales info.src.w.toInt32 info.src.h.toInt32 info.dest.w.toInt32 info.dest.h.toInt32)
      fun info' => ∃ settings, vixConfigPlayback mem info = some (0, info', settings) := by
  have hsize := planesOf_frameSize info
  have hzero : (planesOf info.fourcc info.src.w.toInt32 info.src.h.toInt32).frameSize ≠ 0 := by
    intro h
    rw [← hsize, h] at hne
    exact hne rfl
  unfold vixConfigPlayback
  rw [hfourcc, Bool.not_true, if_neg Bool.false_ne_true, scales_iff]
  dsimp only
  rw [if_neg hzero]
  refine ⟨laidOut mem (planesOf info.fourcc info.src.w.toInt32 info.src.h.toInt32) info,
    ⟨fun h => hne (hsize ▸ h), ?_, rfl⟩, hsize, fun info' => ?_⟩
  · exact (cappedFrames_toNat _).trans (by rw [UInt32.toNat_div]; rfl)
  · rw [show (laidOut mem _ info).dest.w = info.dest.w from rfl,
      show (laidOut mem _ info).dest.h = info.dest.h from rfl]
    cases hscaleOf info.src.w.toInt32 info.dest.w.toInt32 with
    | none => simp
    | some hscale =>
      cases vscaleOf info.src.h.toInt32 info.dest.h.toInt32 with
      | none => simp
      | some vscale => simpa using eq_comm

/-- **The cyberblade driver.** -/
theorem negotiated_iff (mem : UInt64) (info : VidixPlayback) :
    (∀ info', (∃ settings, vixConfigPlayback mem info = some (0, info', settings)) →
        Negotiated info.numFrames base0.toNat info') ↔
      (isSupportedFourcc info.fourcc → frameBytes info ≠ 0 →
        Scales info.src.w.toInt32 info.src.h.toInt32 info.dest.w.toInt32 info.dest.h.toInt32 →
        frameBytes info ≤ 2 ^ 21 ∧ min (2 ^ 21 / frameBytes info) 1024 ≤ info.numFrames.toNat) := by
  refine forall_negotiated_iff (by decide) _ (by decide) (by decide) ?_ ?_
    (vixConfigPlayback_fills mem)
  · rintro hfourcc info' ⟨settings, h⟩
    rw [vixConfigPlayback_of_unsupported hfourcc] at h
    have herr : (-1 : ℤ) = 0 := congrArg (fun r => r.elim 0 Prod.fst) h
    exact absurd herr (by decide)
  · rintro hfourcc hzero info' ⟨settings, h⟩
    rw [vixConfigPlayback_of_empty hfourcc hzero] at h
    cases h

end Vidix.Cyberblade
