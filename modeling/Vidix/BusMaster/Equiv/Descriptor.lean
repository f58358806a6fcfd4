import Vidix.BusMaster.Descriptor
import Vidix.Util.ScatterList
import Vidix.Util.Word

/-!
# The lists that frame copies build

The loop counts its `unsigned` down past zero in its last round, but the count that a descriptor
gets is right as long as the descriptor has something to copy, so that descriptor `i` is in closed
form (`descriptor`, `frameList_eq`).  Read as transfers, the descriptors are a scatter list, except
that the places are words that may wrap (`transfer_descriptor`, `map_transfer_descriptors`).  A list
tells its request: `descriptors_inj`.
-/

namespace Vidix

open Util

variable {start size mask : UInt32} {pages : ℕ → UInt32}

/-! ### Closed form -/

/-- Descriptor `i` of a copy of `size` bytes to `start` in video memory. -/
def descriptor (start size : UInt32) (pages : ℕ → UInt32) (i : ℕ) : BmListDescriptor where
  framebufOffset := start + UInt32.ofNat (i * 4096)
  sysAddr := pages i
  command := listCommand (size - UInt32.ofNat (i * 4096))
  reserved := 0

def descriptors (start size : UInt32) (pages : ℕ → UInt32) : List BmListDescriptor :=
  (List.range (items 4096 size.toNat)).map (descriptor start size pages)

@[simp] theorem length_descriptors :
    (descriptors start size pages).length = items 4096 size.toNat := by
  rw [descriptors, List.length_map, List.length_range]

theorem pageCount_toNat (size : UInt32) : (pageCount size).toNat = items 4096 size.toNat := by
  have hlt : size.toNat < 2 ^ 32 := size.toNat_lt
  have hdiv : (size / 4096).toNat = size.toNat / 4096 := UInt32.toNat_div _ _
  have hmod : (size % 4096 != 0) = true ↔ ¬ size.toNat % 4096 = 0 := by
    rw [bne_iff_ne, Ne, ← UInt32.toNat_inj, UInt32.toNat_mod]
    rfl
  unfold pageCount items
  dsimp only
  by_cases h : size.toNat % 4096 = 0
  · rw [if_pos h, if_neg (fun hne => hmod.mp hne h), hdiv]
  · rw [if_neg h, if_pos (hmod.mpr h), UInt32.toNat_add, hdiv,
      show (1 : UInt32).toNat = 1 from rfl]
    omega

theorem fillList_eq (overlayOff : Int32) (physAddrs : ℕ → UInt64) (i n : ℕ) (destPtr : UInt64)
    (count : UInt32) :
    fillList overlayOff physAddrs i n destPtr count =
      (List.range n).map fun j =>
        descriptor (overlayOff.toUInt32 + destPtr.toUInt32) count
          (fun k => (physAddrs (i + k)).toUInt32) j := by
  induction n generalizing i destPtr count with
  | zero => rw [fillList, List.range_zero, List.map_nil]
  | succ n ih =>
    have hadd : ∀ j : ℕ, UInt32.ofNat ((j + 1) * 4096) = 4096 + UInt32.ofNat (j * 4096) :=
      fun j => ofNat_succ_mul j 4096
    rw [List.range_succ_eq_map, List.map_cons, List.map_map, fillList, ih]
    refine List.cons_eq_cons.mpr ⟨?_, ?_⟩
    · have hzero : UInt32.ofNat (0 * 4096) = 0 := by rw [Nat.zero_mul]; rfl
      rw [descriptor, hzero, UInt64.toUInt32_add, toUInt32_toInt64, UInt32.add_zero,
        UInt32.sub_zero, Nat.add_zero]
    · refine List.map_congr_left fun j _ => ?_
      simp only [Function.comp_apply, descriptor, Nat.succ_eq_add_one, hadd]
      have hpage : (4096 : UInt64).toUInt32 = 4096 := rfl
      rw [UInt64.toUInt32_add, hpage, ← sub_sub, ← add_assoc, ← add_assoc, Nat.add_right_comm,
        Nat.add_assoc]

/-- The list of a request. -/
theorem frameList_eq (overlayOff : Int32) (physAddrs : List UInt64) (dmai : VidixDma) :
    frameList overlayOff physAddrs dmai =
      descriptors (overlayOff.toUInt32 + dmai.destOffset) dmai.size
        fun i => (physAddrs.getD i 0).toUInt32 := by
  rw [frameList, fillList_eq, pageCount_toNat, UInt32.toUInt32_toUInt64, descriptors]
  simp only [Nat.zero_add]

theorem getD_map_range {α : Type*} (page : ℕ → α) (x : α) {n i : ℕ} (hi : i < n) :
    ((List.range n).map page).getD i x = page i := by
  have hlen : i < ((List.range n).map page).length := by
    rw [List.length_map, List.length_range]
    exact hi
  rw [List.getD_eq_getElem _ _ hlen, List.getElem_map, List.getElem_range]

theorem getD_storeFront {α : Type*} (page : ℕ → α) (old : List α) (x : α) {n i : ℕ}
    (hi : i < n) : (storeFront ((List.range n).map page) old).getD i x = page i := by
  have hlen : i < ((List.range n).map page).length := by
    rw [List.length_map, List.length_range]
    exact hi
  rw [storeFront, List.getD_append _ _ _ _ hlen, getD_map_range page x hi]

/-- The list of a request whose pages have been translated. -/
theorem frameList_of_pages (overlayOff : Int32) (page : ℕ → UInt64) (old : List UInt64)
    (dmai : VidixDma) :
    frameList overlayOff (storeFront ((List.range (items 4096 dmai.size.toNat)).map page) old)
        dmai =
      descriptors (overlayOff.toUInt32 + dmai.destOffset) dmai.size
        fun i => (page i).toUInt32 := by
  rw [frameList_eq]
  refine List.map_congr_left fun i hi => ?_
  unfold descriptor
  dsimp only
  rw [getD_storeFront page _ _ (List.mem_range.mp hi)]

/-! ### As transfers -/

/-- A descriptor as a card reads it that takes the byte count from the bits of `mask`. -/
def BmListDescriptor.transfer (mask : UInt32) (d : BmListDescriptor) : Transfer where
  src := d.sysAddr.toNat
  dst := d.framebufOffset.toNat
  len := (d.command &&& mask).toNat
  last := d.command &&& dmaGuiCommandEol != 0

/-- The byte count has room for a page and does not reach the end mark. -/
def CountMask (mask : UInt32) : Prop := ∃ k, 13 ≤ k ∧ k ≤ 31 ∧ mask.toNat = 2 ^ k - 1

theorem listCommand_len (hmask : CountMask mask) (count : UInt32) :
    (listCommand count &&& mask).toNat = min 4096 count.toNat := by
  obtain ⟨k, hk13, hk31, hmask⟩ := hmask
  have hpow : 2 ^ 13 ≤ 2 ^ k := Nat.pow_le_pow_right (by decide) hk13
  have hpage : (4096 : UInt32).toNat = 4096 := rfl
  unfold listCommand
  split_ifs with h
  · have hlt : 4096 < count.toNat := UInt32.lt_iff_toNat_lt.mp h
    rw [UInt32.toNat_and, hmask, hpage, Nat.and_two_pow_sub_one_eq_mod,
      Nat.mod_eq_of_lt (by omega), Nat.min_eq_left hlt.le]
  · have hle : ¬ 4096 < count.toNat := fun hlt => h (UInt32.lt_iff_toNat_lt.mpr hlt)
    rw [dmaGuiCommandEol, toNat_or_top_and_mask hmask hk31 (by omega),
      Nat.min_eq_right (by omega)]

/-- The end mark stands where no more than a page is left. -/
theorem listCommand_last (count : UInt32) :
    (listCommand count &&& dmaGuiCommandEol != 0) = true ↔ count.toNat ≤ 4096 := by
  rw [bne_iff_ne, dmaGuiCommandEol, and_top_ne_zero_iff]
  unfold listCommand
  split_ifs with h
  · have hlt : 4096 < count.toNat := UInt32.lt_iff_toNat_lt.mp h
    have hpage : (4096 : UInt32).toNat = 4096 := rfl
    omega
  · have hle : ¬ 4096 < count.toNat := fun hlt => h (UInt32.lt_iff_toNat_lt.mpr hlt)
    have hor : dmaGuiCommandEol.toNat ≤ (count ||| dmaGuiCommandEol).toNat := by
      rw [UInt32.toNat_or]
      exact Nat.right_le_or
    have heol : dmaGuiCommandEol.toNat = 2 ^ 31 := rfl
    omega

/-- The count has not wrapped where there is something left. -/
theorem toNat_left {i : ℕ} (hi : i < items 4096 size.toNat) :
    (size - UInt32.ofNat (i * 4096)).toNat = size.toNat - i * 4096 := by
  have hlt := mul_lt_of_lt_items (by decide) hi
  have hsize : size.toNat < 2 ^ 32 := size.toNat_lt
  have hmod : i * 4096 % 2 ^ 32 = i * 4096 := Nat.mod_eq_of_lt (by omega)
  rw [UInt32.toNat_sub, UInt32.toNat_ofNat', hmod]
  omega

/-- No more than a page is left for the last piece only. -/
theorem left_le_iff {n i : ℕ} (hi : i < items 4096 n) :
    n - i * 4096 ≤ 4096 ↔ i + 1 = items 4096 n := by
  have hlt := mul_lt_of_lt_items (by decide) hi
  rw [items_eq (by decide) (by omega)] at hi ⊢
  omega

theorem transfer_descriptor (hmask : CountMask mask) {i : ℕ} (hi : i < items 4096 size.toNat) :
    (descriptor start size pages i).transfer mask =
      { piece 4096 (fun k => (pages k).toNat) start.toNat size.toNat i with
        dst := (start.toNat + i * 4096) % 2 ^ 32 } := by
  have hlen := listCommand_len hmask (size - UInt32.ofNat (i * 4096))
  have hlast := listCommand_last (size - UInt32.ofNat (i * 4096))
  have hdst : (start + UInt32.ofNat (i * 4096)).toNat = (start.toNat + i * 4096) % 2 ^ 32 := by
    rw [UInt32.toNat_add, UInt32.toNat_ofNat', Nat.add_mod_mod]
  rw [toNat_left hi] at hlen hlast
  rw [left_le_iff hi] at hlast
  unfold BmListDescriptor.transfer descriptor piece
  rw [hlen, hdst, Transfer.mk.injEq]
  refine ⟨rfl, rfl, rfl, ?_⟩
  rw [Bool.eq_iff_iff, hlast, decide_eq_true_eq]

/-- **A list whose places do not wrap is a scatter list.** -/
theorem map_transfer_descriptors (hmask : CountMask mask)
    (hwrap : start.toNat + size.toNat ≤ 2 ^ 32) :
    (descriptors start size pages).map (BmListDescriptor.transfer mask) =
      scatter 4096 (fun k => (pages k).toNat) start.toNat size.toNat := by
  rw [descriptors, List.map_map, scatter]
  refine List.map_congr_left fun i hi => ?_
  have hi' := List.mem_range.mp hi
  have hlt := mul_lt_of_lt_items (by decide) hi'
  rw [Function.comp_apply, transfer_descriptor hmask hi', Nat.mod_eq_of_lt (by omega)]
  rfl

/-- **The places of a list are all below a bound iff the last is,** and the bound is below the
wrap. -/
theorem forall_place_le_iff (hmask : CountMask mask) {ram : ℕ} (hram : ram < 2 ^ 32) :
    (∀ t ∈ (descriptors start size pages).map (BmListDescriptor.transfer mask),
        t.dst + t.len ≤ ram) ↔
      size.toNat = 0 ∨ start.toNat + size.toNat ≤ ram := by
  have hP : 0 < 4096 := by decide
  rw [← forall_piece_le_iff hP start.toNat_lt hram, descriptors, List.map_map]
  constructor
  · intro h i hi
    have ht := h _ (List.mem_map_of_mem (List.mem_range.mpr hi))
    rw [Function.comp_apply, transfer_descriptor hmask hi] at ht
    exact ht
  · intro h t ht
    obtain ⟨i, hi, rfl⟩ := List.mem_map.mp ht
    have hi' := List.mem_range.mp hi
    rw [Function.comp_apply, transfer_descriptor hmask hi']
    exact h i hi'

/-! ### Requests from lists -/

/-- The end mark of a descriptor. -/
def BmListDescriptor.last (d : BmListDescriptor) : Bool := d.command &&& dmaGuiCommandEol != 0

theorem marked_descriptors (hsize : 1 ≤ size.toNat) :
    Marked BmListDescriptor.last (descriptors start size pages) := by
  have hitems := items_eq (show 0 < 4096 by decide) hsize
  constructor
  · rw [← List.length_pos_iff, length_descriptors]
    omega
  · intro i hi
    rw [length_descriptors] at hi ⊢
    simp only [descriptors, List.getElem_map, List.getElem_range]
    have hlast := listCommand_last (size - UInt32.ofNat (i * 4096))
    rw [toNat_left hi, left_le_iff hi] at hlast
    exact hlast

theorem sum_len_descriptors (hmask : CountMask mask) :
    ((descriptors start size pages).map fun d => (d.transfer mask).len).sum = size.toNat := by
  have hsum := @sum_len_scatter 4096 size.toNat (fun k => (pages k).toNat) start.toNat (by decide)
  rw [scatter, List.map_map] at hsum
  rw [descriptors, List.map_map]
  refine Eq.trans (congrArg List.sum (List.map_congr_left fun i hi => ?_)) hsum
  rw [Function.comp_apply, transfer_descriptor hmask (List.mem_range.mp hi)]
  rfl

/-- **The list at the front of a table tells its request.** -/
theorem descriptors_inj {start' size' : UInt32} {pages' : ℕ → UInt32}
    {table : List BmListDescriptor} (hsize : 1 ≤ size.toNat) (hsize' : 1 ≤ size'.toNat)
    (hp : descriptors start size pages <+: table)
    (hp' : descriptors start' size' pages' <+: table) :
    start = start' ∧ size = size' ∧ ∀ i < items 4096 size.toNat, pages i = pages' i := by
  have hlist : descriptors start size pages = descriptors start' size' pages' :=
    Marked.eq_of_prefix (marked_descriptors hsize) (marked_descriptors hsize') hp hp'
  have hmask : CountMask 0x1fff := ⟨13, by decide, by decide, rfl⟩
  have hlen := @sum_len_descriptors start size 0x1fff pages hmask
  have hlen' := @sum_len_descriptors start' size' 0x1fff pages' hmask
  rw [hlist, hlen'] at hlen
  obtain rfl : size = size' := UInt32.toNat_inj.mp hlen.symm
  have helem : ∀ i < items 4096 size.toNat,
      descriptor start size pages i = descriptor start' size pages' i :=
    fun i hi => List.map_inj_left.mp hlist i (List.mem_range.mpr hi)
  have hpos : 0 < items 4096 size.toNat := by
    rw [items_eq (by decide) hsize]
    exact Nat.succ_pos _
  refine ⟨?_, rfl, fun i hi => congrArg BmListDescriptor.sysAddr (helem i hi)⟩
  have hfirst := congrArg BmListDescriptor.framebufOffset (helem 0 hpos)
  exact add_right_cancel hfirst

end Vidix
