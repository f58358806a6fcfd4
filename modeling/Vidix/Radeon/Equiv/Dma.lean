import Vidix.Radeon.Dma
import Vidix.BusMaster.Equiv.Copy

/-!
# Frame copies of the Radeon driver

`radeon_setup_frame` returns 0 when its bound lets the request through and the source can be
translated (`radeonSetupFrame_ok_iff`), and has then filled the list of the request
(`radeonSetupFrame_of_translated`).
-/

namespace Vidix.Radeon

open Util Libdha

variable {h : Helper} {writable : ℕ → Bool} {d : Driver} {dmai : VidixDma}

theorem countMask : CountMask dmaGuiCommandByteCountMask := ⟨21, by decide, by decide, rfl⟩

/-- The bound of `radeon_setup_frame`. -/
def WithinBound (d : Driver) (dmai : VidixDma) : Prop :=
  (dmai.destOffset + dmai.size).toNat ≤ d.ramSize.toNat

theorem radeonSetupFrame_of_not_within (bm : Bm) (hb : ¬ WithinBound d dmai) :
    radeonSetupFrame h writable d bm dmai = (e2big, bm) := by
  have hgt : dmai.destOffset + dmai.size > d.ramSize := UInt32.lt_iff_toNat_lt.mpr (not_le.mp hb)
  rw [radeonSetupFrame, if_pos hgt]

theorem not_gt_of_within (hb : WithinBound d dmai) : ¬ dmai.destOffset + dmai.size > d.ramSize :=
  fun hgt => not_lt.mpr hb (UInt32.lt_iff_toNat_lt.mp hgt)

theorem radeonSetupFrame_of_failed (bm : Bm) (hb : WithinBound d dmai)
    (hret : (bmVirtToBus h writable dmai.src dmai.size.toUInt64).1 ≠ 0) :
    (radeonSetupFrame h writable d bm dmai).1 =
      (bmVirtToBus h writable dmai.src dmai.size.toUInt64).1 := by
  rw [radeonSetupFrame, if_neg (not_gt_of_within hb)]
  dsimp only
  rw [if_pos hret]

/-- A request that gets to its loop has its list at the front of the memory for descriptors. -/
theorem radeonSetupFrame_of_translated (bm : Bm) (hb : WithinBound d dmai)
    (hret : (bmVirtToBus h writable dmai.src dmai.size.toUInt64).1 = 0) :
    (radeonSetupFrame h writable d bm dmai).1 = 0 ∧
      (radeonSetupFrame h writable d bm dmai).2.descList =
        storeFront (descriptors (d.overlayOff.toUInt32 + dmai.destOffset) dmai.size
          fun i => (busPage h dmai.src i).toUInt32) bm.descList := by
  rw [radeonSetupFrame, if_neg (not_gt_of_within hb)]
  dsimp only
  rw [if_neg (not_not.mpr hret), bmVirtToBus_eq hret, UInt32.toNat_toUInt64, frameList_of_pages]
  exact ⟨rfl, rfl⟩

theorem radeonSetupFrame_ok_iff {bm : Bm} :
    (radeonSetupFrame h writable d bm dmai).1 = 0 ↔
      WithinBound d dmai ∧ (bmVirtToBus h writable dmai.src dmai.size.toUInt64).1 = 0 := by
  by_cases hb : WithinBound d dmai
  · rw [and_iff_right hb]
    by_cases hret : (bmVirtToBus h writable dmai.src dmai.size.toUInt64).1 = 0
    · exact iff_of_true (radeonSetupFrame_of_translated bm hb hret).1 hret
    · rw [radeonSetupFrame_of_failed bm hb hret]
  · rw [radeonSetupFrame_of_not_within bm hb]
    exact iff_of_false (show e2big ≠ 0 by decide) fun hall => hb hall.1

end Vidix.Radeon
