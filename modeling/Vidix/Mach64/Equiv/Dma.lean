import Vidix.Mach64.Dma
import Vidix.BusMaster.Equiv.Copy

/-!
# Frame copies of the Mach64 driver

`mach64_setup_frame` returns 0 when its bound lets the request through and the table is reused or
the source can be translated (`mach64SetupFrame_ok_iff`).  Reusing a table changes nothing
(`mach64SetupFrame_of_reuse`), and filling it puts the list of the request at its front
(`mach64SetupFrame_of_translated`).
-/

namespace Vidix.Mach64

open Util Libdha

variable {h : Helper} {writable : ℕ → Bool} {d : Driver} {dmai : VidixDma}

theorem countMask : CountMask bmCmdByteCount := ⟨13, by decide, by decide, rfl⟩

/-- The bound of `mach64_setup_frame`. -/
def WithinBound (d : Driver) (dmai : VidixDma) : Prop :=
  (d.overlayOffset.toUInt32 + dmai.destOffset + dmai.size).toNat ≤ (mach64RamSize d.regs).toNat

/-- The index of the table that a request selects. -/
def tableIdx (dmai : VidixDma) : ℕ := (clampIdx dmai).idx.toNat

@[simp] theorem clampIdx_src (dmai : VidixDma) : (clampIdx dmai).src = dmai.src := by
  unfold clampIdx
  split_ifs <;> rfl

@[simp] theorem clampIdx_destOffset (dmai : VidixDma) :
    (clampIdx dmai).destOffset = dmai.destOffset := by
  unfold clampIdx
  split_ifs <;> rfl

@[simp] theorem clampIdx_size (dmai : VidixDma) : (clampIdx dmai).size = dmai.size := by
  unfold clampIdx
  split_ifs <;> rfl

theorem tableIdx_eq (dmai : VidixDma) :
    tableIdx dmai = if 1023 < dmai.idx.toNat then 0 else dmai.idx.toNat := by
  have hgt : dmai.idx > vidPlayMaxframes - 1 ↔ 1023 < dmai.idx.toNat := UInt32.lt_iff_toNat_lt
  unfold tableIdx clampIdx
  by_cases hidx : 1023 < dmai.idx.toNat
  · rw [if_pos hidx, if_pos (hgt.mpr hidx)]
    rfl
  · rw [if_neg hidx, if_neg (fun h => hidx (hgt.mp h))]

theorem mach64SetupFrame_of_not_within (bm : Bm) (hb : ¬ WithinBound d dmai) :
    mach64SetupFrame h writable d bm dmai = (e2big, bm, dmai) := by
  have hgt : d.overlayOffset.toUInt32 + dmai.destOffset + dmai.size > mach64RamSize d.regs :=
    UInt32.lt_iff_toNat_lt.mpr (not_le.mp hb)
  rw [mach64SetupFrame, if_pos hgt]

theorem not_gt_of_within (hb : WithinBound d dmai) :
    ¬ d.overlayOffset.toUInt32 + dmai.destOffset + dmai.size > mach64RamSize d.regs :=
  fun hgt => not_lt.mpr hb (UInt32.lt_iff_toNat_lt.mp hgt)

theorem mach64SetupFrame_of_reuse (bm : Bm) (hb : WithinBound d dmai)
    (hreuse : reusesTable (clampIdx dmai) = true) :
    mach64SetupFrame h writable d bm dmai = (0, bm, clampIdx dmai) := by
  rw [mach64SetupFrame, if_neg (not_gt_of_within hb)]
  dsimp only
  rw [if_pos hreuse]

theorem mach64SetupFrame_of_failed (bm : Bm) (hb : WithinBound d dmai)
    (hreuse : ¬ reusesTable (clampIdx dmai) = true)
    (hret : (bmVirtToBus h writable dmai.src dmai.size.toUInt64).1 ≠ 0) :
    ∃ physAddrs, mach64SetupFrame h writable d bm dmai =
      ((bmVirtToBus h writable dmai.src dmai.size.toUInt64).1,
        { bm with dmaPhysAddrs := physAddrs }, clampIdx dmai) := by
  rw [mach64SetupFrame, if_neg (not_gt_of_within hb)]
  dsimp only
  rw [if_neg hreuse, clampIdx_src, clampIdx_size, if_pos hret]
  exact ⟨_, rfl⟩

/-- A request that gets to its loop has its list at the front of its table, and the table is taken
as filled from then on. -/
theorem mach64SetupFrame_of_translated (bm : Bm) (hb : WithinBound d dmai)
    (hreuse : ¬ reusesTable (clampIdx dmai) = true)
    (hret : (bmVirtToBus h writable dmai.src dmai.size.toUInt64).1 = 0) :
    ∃ physAddrs, mach64SetupFrame h writable d bm dmai =
      (0,
        { bm with
          dmaPhysAddrs := physAddrs
          tables := Function.update bm.tables (tableIdx dmai)
            (storeFront (descriptors (d.overlayOffset.toUInt32 + dmai.destOffset) dmai.size
              fun i => (busPage h dmai.src i).toUInt32) (bm.tables (tableIdx dmai))) },
        { clampIdx dmai with
          internal := Function.update (clampIdx dmai).internal (tableIdx dmai)
            (bm.dmaDescBase (tableIdx dmai)) }) := by
  have hlist := frameList_of_pages d.overlayOffset (busPage h dmai.src) bm.dmaPhysAddrs
    (clampIdx dmai)
  rw [clampIdx_size, clampIdx_destOffset] at hlist
  rw [mach64SetupFrame, if_neg (not_gt_of_within hb)]
  dsimp only
  rw [if_neg hreuse, clampIdx_src, clampIdx_size, if_neg (not_not.mpr hret), bmVirtToBus_eq hret,
    UInt32.toNat_toUInt64, hlist]
  exact ⟨_, rfl⟩

/-- The table of such a request. -/
theorem mach64SetupFrame_table (bm : Bm) (hb : WithinBound d dmai)
    (hreuse : ¬ reusesTable (clampIdx dmai) = true)
    (hret : (bmVirtToBus h writable dmai.src dmai.size.toUInt64).1 = 0) :
    (mach64SetupFrame h writable d bm dmai).2.1.tables (tableIdx dmai) =
      storeFront (descriptors (d.overlayOffset.toUInt32 + dmai.destOffset) dmai.size
        fun i => (busPage h dmai.src i).toUInt32) (bm.tables (tableIdx dmai)) := by
  obtain ⟨physAddrs, heq⟩ := mach64SetupFrame_of_translated bm hb hreuse hret
  rw [heq]
  exact Function.update_self _ _ _

theorem mach64SetupFrame_ok_iff {bm : Bm} :
    (mach64SetupFrame h writable d bm dmai).1 = 0 ↔
      WithinBound d dmai ∧ (reusesTable (clampIdx dmai) = true ∨
        (bmVirtToBus h writable dmai.src dmai.size.toUInt64).1 = 0) := by
  by_cases hb : WithinBound d dmai
  · rw [and_iff_right hb]
    by_cases hreuse : reusesTable (clampIdx dmai) = true
    · rw [mach64SetupFrame_of_reuse bm hb hreuse]
      exact iff_of_true rfl (Or.inl hreuse)
    · rw [or_iff_right hreuse]
      by_cases hret : (bmVirtToBus h writable dmai.src dmai.size.toUInt64).1 = 0
      · obtain ⟨physAddrs, heq⟩ := mach64SetupFrame_of_translated bm hb hreuse hret
        rw [heq]
        exact iff_of_true rfl hret
      · obtain ⟨physAddrs, heq⟩ := mach64SetupFrame_of_failed bm hb hreuse hret
        rw [heq]
  · rw [mach64SetupFrame_of_not_within bm hb]
    exact iff_of_false (show e2big ≠ 0 by decide) fun hall => hb hall.1

end Vidix.Mach64
