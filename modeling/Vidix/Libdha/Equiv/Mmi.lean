import Vidix.Libdha.Mmi
import Vidix.Dhahelper.Equiv.Memory

/-!
# What the memory manager interface answers

A translation that succeeds has written an address for each page of the range
(`bmVirtToBus_eq`).  Pages keep together on the bus, so that the addresses of the pages give one for
each byte of a range that starts with a page: `busOf_add`.
-/

namespace Vidix.Libdha

open Dhahelper Util

variable {h : Helper} {writable : ℕ → Bool} {addr length : UInt64}

/-- The bus address of page `i` of the range at `addr`. -/
def busPage (h : Helper) (addr : UInt64) (i : ℕ) : UInt64 :=
  uvirtToBus h.machine h.mem (pageAddr addr i)

theorem ioctlResult_eq_zero_iff (ret : ℤ) : ioctlResult ret = 0 ↔ ret = 0 := by
  unfold ioctlResult
  split_ifs with hneg
  · exact iff_of_false (by decide) (ne_of_lt hneg)
  · exact Iff.rfl

/-- What a translation that succeeds has written. -/
theorem bmVirtToBus_eq (hret : (bmVirtToBus h writable addr length).1 = 0) :
    (bmVirtToBus h writable addr length).2 =
      (List.range (items 4096 length.toNat)).map (busPage h addr) := by
  unfold bmVirtToBus at hret ⊢
  split_ifs at hret ⊢ with hfd
  · dsimp only at hret ⊢
    rw [ioctlResult_eq_zero_iff] at hret
    unfold dhahelperVirtToBus at hret ⊢
    split_ifs at hret ⊢ with hread
    · exact absurd hret (by decide)
    · rw [virtToBusPages_eq _ _ _ _ _ _ hret, nitems_eq, List.range_eq_range']
      rfl
  · exact absurd hret (by decide)

/-- A translation whose answers can all be written fails without an answer. -/
theorem bmVirtToBus_of_failed (hret : (bmVirtToBus h (fun _ => true) addr length).1 ≠ 0) :
    (bmVirtToBus h (fun _ => true) addr length).2 = [] := by
  unfold bmVirtToBus at hret ⊢
  split_ifs at hret ⊢ with hfd
  · dsimp only at hret ⊢
    rw [Ne, ioctlResult_eq_zero_iff] at hret
    unfold dhahelperVirtToBus at hret ⊢
    split_ifs at hret ⊢ with hread
    · rfl
    · exact absurd (virtToBusPages_ok _ _ _ _ _) hret
  · rfl

/-! ### Bytes -/

/-- The bus address of a byte, from that of its page. -/
def busOf (h : Helper) (addr : UInt64) : ℕ :=
  (uvirtToBus h.machine h.mem (addr - UInt64.ofNat (addr.toNat % 4096))).toNat + addr.toNat % 4096

/-- Byte `j` of a range that starts with a page. -/
theorem busOf_add (haddr : addr.toNat % 4096 = 0) (j : ℕ) :
    busOf h (addr + UInt64.ofNat j) = (busPage h addr (j / 4096)).toNat + j % 4096 := by
  have hmod : (addr + UInt64.ofNat j).toNat % 4096 = j % 4096 := by
    rw [UInt64.toNat_add, UInt64.toNat_ofNat']
    omega
  have hsplit : UInt64.ofNat j = UInt64.ofNat (j / 4096) * pageSize + UInt64.ofNat (j % 4096) := by
    conv_lhs => rw [← Nat.div_add_mod' j 4096, UInt64.ofNat_add, UInt64.ofNat_mul]
    rfl
  have hpage : addr + UInt64.ofNat j - UInt64.ofNat (j % 4096) = pageAddr addr (j / 4096) := by
    rw [hsplit, ← add_assoc, add_sub_cancel_right]
    rfl
  rw [busOf, hmod, hpage]
  rfl

/-- The first byte of page `i` of such a range. -/
theorem busOf_pageAddr (haddr : addr.toNat % 4096 = 0) (i : ℕ) :
    busOf h (pageAddr addr i) = (busPage h addr i).toNat := by
  have hoffset : (pageAddr addr i).toNat % 4096 = 0 := by
    rw [toNat_pageAddr]
    omega
  rw [busOf, hoffset, Nat.add_zero, show UInt64.ofNat 0 = 0 from rfl, UInt64.sub_zero]
  rfl

end Vidix.Libdha
