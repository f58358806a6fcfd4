import Vidix.Unichrome.Equiv.Geometry

/-!
# What the unichrome driver rejects

The zoom mappings say whether their factor is in range, and `vixConfigPlayback` tests the size of
the layer.  It looks at neither of the answers, and only prints a message about the size: a format
that is not supported is all that it rejects (`configure_error_iff`), so that a request out of range
is rejected only by that (`rejects_iff`).
-/

namespace Vidix.Unichrome

open Util

variable {s s' : State} {info info' : VidixPlayback} {ret : ℤ}

/-- A verdict of the driver against a request: a zoom factor out of range, or a layer of a size that
it does not take. -/
def OutOfRange (info : VidixPlayback) : Prop :=
  (∃ z, ucOvlMapVzoom info.src.h.toInt32 info.dest.h.toInt32 = some z ∧ z.zoomOk = false) ∨
    (∃ z, ucOvlMapHzoom info.src.w.toInt32 info.dest.w.toInt32 = some z ∧ z.1.zoomOk = false) ∨
    layerOutOfBounds info.fourcc info.src.w.toInt32 info.src.h.toInt32 = true

/-- The registers of the overlay and the places of the frames and planes are those from before. -/
structure Untouched (s s' : State) : Prop where
  vio : s'.vio = s.vio
  frames : s'.frames = s.frames
  yOffs : s'.yOffs = s.yOffs
  uOffs : s'.uOffs = s.uOffs
  vOffs : s'.vOffs = s.vOffs

/-- A request against which there is a verdict returns an error and touches nothing. -/
def Rejects (s : State) (info : VidixPlayback) : Prop :=
  OutOfRange info →
    ∃ ret info' s', configure s info = some (ret, info', s') ∧ ret ≠ 0 ∧ Untouched s s'

theorem configure_of_unsupported (hfourcc : ¬ isSupportedFourcc info.fourcc) :
    configure s info = some (-1, info, s) := by
  unfold configure
  rw [vixConfigPlayback_of_unsupported hfourcc]
  rfl

/-- A format that is supported is never an error. -/
theorem configure_of_supported (hfourcc : isSupportedFourcc info.fourcc)
    (h : configure s info = some (ret, info', s')) : ret = 0 := by
  unfold configure at h
  obtain ⟨⟨ret', info₁, settings⟩, hconfig, h⟩ := Option.bind_eq_some_iff.mp h
  simp only [Option.some.injEq, Prod.mk.injEq] at h
  obtain ⟨rfl, -, -⟩ := h
  unfold vixConfigPlayback at hconfig
  dsimp only at hconfig
  rw [hfourcc, Bool.not_true, if_neg Bool.false_ne_true] at hconfig
  obtain ⟨vertical, -, hconfig⟩ := Option.bind_eq_some_iff.mp hconfig
  obtain ⟨horizontal, -, hconfig⟩ := Option.bind_eq_some_iff.mp hconfig
  split at hconfig
  · cases hconfig
  · exact (Prod.mk.inj (Option.some.inj hconfig)).1.symm

/-- **The only errors are those of the format.** -/
theorem configure_error_iff (s : State) (info : VidixPlayback) :
    (∃ ret info' s', configure s info = some (ret, info', s') ∧ ret ≠ 0) ↔
      ¬ isSupportedFourcc info.fourcc := by
  constructor
  · rintro ⟨ret, info', s', h, hret⟩ hfourcc
    exact hret (configure_of_supported hfourcc h)
  · intro hfourcc
    exact ⟨-1, info, s, configure_of_unsupported hfourcc, by decide⟩

/-- **What is out of range is rejected iff its format is not supported**, or there is nothing to
reject: for every state of the driver and every request. -/
theorem rejects_iff (s : State) (info : VidixPlayback) :
    Rejects s info ↔ ¬ isSupportedFourcc info.fourcc ∨ ¬ OutOfRange info := by
  constructor
  · intro h
    by_cases hrange : OutOfRange info
    · obtain ⟨ret, info', s', hconfig, hret, -⟩ := h hrange
      exact .inl ((configure_error_iff s info).mp ⟨ret, info', s', hconfig, hret⟩)
    · exact .inr hrange
  · rintro (hfourcc | hrange) hout
    · exact ⟨-1, info, s, configure_of_unsupported hfourcc, by decide, ⟨rfl, rfl, rfl, rfl, rfl⟩⟩
    · exact absurd hout hrange

/-- 352 by 288 in YUY2, in a window of 352 by 10. -/
def flatPicture : VidixPlayback :=
  { samplePlayback 352 288 with
    dest := { x := 0, y := 0, w := 352, h := 10, pitch := ⟨0, 0, 0⟩ } }

/-- **288 lines in a window of 10** are more than a sixteenth can make up for, and are programmed
all the same. -/
theorem configure_flatPicture :
    (∃ z, ucOvlMapVzoom 288 10 = some z ∧ z.zoomOk = false) ∧
      (∃ info' s', configure sampleState flatPicture = some (0, info', s') ∧
        sampleState.vio v1MiniControl = 0 ∧ s'.vio v1MiniControl = 0x00070000) ∧
      ¬ Rejects sampleState flatPicture := by
  have hrange : ∃ z, ucOvlMapVzoom 288 10 = some z ∧ z.zoomOk = false :=
    ⟨⟨false, 0, 0x00070000⟩, by decide, rfl⟩
  refine ⟨hrange, ⟨_, _, rfl, by decide, by decide⟩, fun h => ?_⟩
  obtain ⟨ret, info', s', hconfig, hret, -⟩ := h (.inl hrange)
  exact hret (configure_of_supported rfl hconfig)

end Vidix.Unichrome
