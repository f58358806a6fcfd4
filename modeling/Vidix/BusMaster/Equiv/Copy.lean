import Vidix.BusMaster.Equiv.Descriptor
import Vidix.Libdha.Equiv.Mmi

/-!
# What a filled table copies

A table that starts with the list of a request copies the bytes of the request to their places
(`CopiesFrame`), when the source starts with a page, its pages are below 4 GB on the bus, and no
place lies behind the last 32-bit address: `copiesFrame_of`.
-/

namespace Vidix

open Util Dhahelper Libdha

variable {h : Helper} {off : Int32} {dmai : VidixDma} {mask : UInt32}
  {table old : List BmListDescriptor}

/-- The place of the first byte, `overlay_offset + dest_offset`. -/
def frameStart (off : Int32) (dmai : VidixDma) : ℕ := off.toUInt32.toNat + dmai.destOffset.toNat

/-- `overlay_offset + dest_offset`, as the first descriptor has it. -/
def startWord (off : Int32) (dmai : VidixDma) : UInt32 := off.toUInt32 + dmai.destOffset

/-- The descriptors of a request in a table, as a card reads them. -/
def requestTransfers (mask : UInt32) (dmai : VidixDma) (table : List BmListDescriptor) :
    List Transfer :=
  (table.take (items 4096 dmai.size.toNat)).map (BmListDescriptor.transfer mask)

/-- A card that is given the table copies the source of the request and nothing else. -/
structure CopiesFrame (h : Helper) (off : Int32) (dmai : VidixDma) (mask : UInt32)
    (table : List BmListDescriptor) : Prop where
  /-- Byte `j` of the source goes to `overlay_offset + dest_offset + j`. -/
  copies : run (table.map (BmListDescriptor.transfer mask)) =
    some ((List.range dmai.size.toNat).map fun j =>
      (busOf h (dmai.src + UInt64.ofNat j), frameStart off dmai + j))
  consecutive : (requestTransfers mask dmai table).IsChain fun t t' => t'.dst = t.dst + t.len
  disjoint : (requestTransfers mask dmai table).Pairwise fun t t' => t.dst + t.len ≤ t'.dst
  sum_len : ((requestTransfers mask dmai table).map Transfer.len).sum = dmai.size.toNat
  len_le : ∀ t ∈ requestTransfers mask dmai table, t.len ≤ 4096
  length_eq : (requestTransfers mask dmai table).length = items 4096 dmai.size.toNat
  src_eq : ∀ (i : ℕ) (hi : i < (requestTransfers mask dmai table).length),
    (requestTransfers mask dmai table)[i].src = busOf h (pageAddr dmai.src i)
  last_iff : ∀ (i : ℕ) (hi : i < (requestTransfers mask dmai table).length),
    (requestTransfers mask dmai table)[i].last = true ↔ i + 1 = items 4096 dmai.size.toNat

theorem take_storeFront_descriptors {start size : UInt32} {pages : ℕ → UInt32} :
    (storeFront (descriptors start size pages) old).take (items 4096 size.toNat) =
      descriptors start size pages := by
  have hlen : (descriptors start size pages).length = items 4096 size.toNat := length_descriptors
  rw [storeFront, ← hlen, List.take_left]

/-- **The table that a request fills copies it.** -/
theorem copiesFrame_of (hmask : CountMask mask) (hsize : 1 ≤ dmai.size.toNat)
    (halign : dmai.src.toNat % 4096 = 0)
    (hbus : ∀ i < items 4096 dmai.size.toNat, (busPage h dmai.src i).toNat < 2 ^ 32)
    (hwrap : frameStart off dmai + dmai.size.toNat < 2 ^ 32)
    (htable : table = storeFront
      (descriptors (off.toUInt32 + dmai.destOffset) dmai.size
        fun i => (busPage h dmai.src i).toUInt32) old) :
    CopiesFrame h off dmai mask table := by
  have hP : 0 < 4096 := by decide
  have hstart : (off.toUInt32 + dmai.destOffset).toNat = frameStart off dmai := by
    rw [UInt32.toNat_add]
    exact Nat.mod_eq_of_lt (by unfold frameStart at hwrap; omega)
  have hpage : ∀ i < items 4096 dmai.size.toNat,
      ((busPage h dmai.src i).toUInt32).toNat = (busPage h dmai.src i).toNat := by
    intro i hi
    rw [UInt64.toNat_toUInt32, Nat.mod_eq_of_lt (hbus i hi)]
  have hlist : ∀ ts, ts = descriptors (off.toUInt32 + dmai.destOffset) dmai.size
        (fun i => (busPage h dmai.src i).toUInt32) →
      ts.map (BmListDescriptor.transfer mask) =
        scatter 4096 (fun i => ((busPage h dmai.src i).toUInt32).toNat) (frameStart off dmai)
          dmai.size.toNat := by
    rintro ts rfl
    rw [map_transfer_descriptors hmask (by omega), hstart]
  have htransfers : requestTransfers mask dmai table = _ :=
    hlist _ (htable ▸ take_storeFront_descriptors)
  refine ⟨?_, ?_, ?_, ?_, ?_, ?_, ?_, ?_⟩
  · rw [htable, storeFront, List.map_append, hlist _ rfl, run_scatter hP hsize]
    refine congrArg some (List.map_congr_left fun j hj => ?_)
    have hj' := div_lt_items hP (List.mem_range.mp hj)
    rw [busOf_add halign, hpage _ hj']
  · rw [htransfers]
    exact isChain_scatter hP
  · rw [htransfers]
    exact pairwise_scatter
  · rw [htransfers]
    exact sum_len_scatter hP
  · rw [htransfers]
    intro t ht
    obtain ⟨i, -, rfl⟩ := List.mem_map.mp ht
    exact pieceLen_le _ _ _
  · rw [htransfers, length_scatter]
  · intro i hi
    simp only [htransfers] at hi ⊢
    rw [getElem_scatter, busOf_pageAddr halign]
    rw [length_scatter] at hi
    exact hpage i hi
  · intro i hi
    simp only [htransfers] at hi ⊢
    rw [getElem_scatter]
    exact decide_eq_true_iff

end Vidix
