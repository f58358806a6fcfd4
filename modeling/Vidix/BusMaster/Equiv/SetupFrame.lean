import Vidix.Radeon.Equiv.Dma
import Vidix.Mach64.Equiv.Dma
import Vidix.Radeon.Equiv.Config
import Vidix.Mach64.Equiv.Config

/-!
# The set-up routines of both drivers

What `radeon_setup_frame` and `mach64_setup_frame` leave in the descriptor table of a request.

* It copies the source of the request to its place, byte by byte, and nothing else:
  `setupFrame_copies`.
* It stays in the memory of the card and in the table iff the bound of the routine, which compares a
  32-bit sum and in one driver not the right one, means what it should:
  `setupFrame_staysInCard_iff`.
-/

namespace Vidix

open Util Libdha Dhahelper

variable {h : Helper} {writable : ℕ → Bool} {dmai : VidixDma}

/-! ### What is copied -/

/-- **A table that was filled copies the source of the request,** each byte to its place.  The
source starts with a page, its pages are below 4 GB on the bus, and
`overlay_offset + dest_offset + size` does not wrap. -/
theorem setupFrame_copies (hsize : 1 ≤ dmai.size.toNat) (halign : dmai.src.toNat % 4096 = 0)
    (hbus : ∀ i < items 4096 dmai.size.toNat, (busPage h dmai.src i).toNat < 2 ^ 32) :
    (∀ (d : Radeon.Driver) (bm : Radeon.Bm),
        frameStart d.overlayOff dmai + dmai.size.toNat < 2 ^ 32 →
        (Radeon.radeonSetupFrame h writable d bm dmai).1 = 0 →
        CopiesFrame h d.overlayOff dmai Radeon.dmaGuiCommandByteCountMask
          (Radeon.radeonSetupFrame h writable d bm dmai).2.descList) ∧
      ∀ (d : Mach64.Driver) (bm : Mach64.Bm),
        frameStart d.overlayOffset dmai + dmai.size.toNat < 2 ^ 32 →
        ¬ Mach64.reusesTable (Mach64.clampIdx dmai) = true →
        (Mach64.mach64SetupFrame h writable d bm dmai).1 = 0 →
        CopiesFrame h d.overlayOffset dmai Mach64.bmCmdByteCount
          ((Mach64.mach64SetupFrame h writable d bm dmai).2.1.tables (Mach64.tableIdx dmai)) := by
  constructor
  · intro d bm hwrap hret
    obtain ⟨hb, htrans⟩ := Radeon.radeonSetupFrame_ok_iff.mp hret
    have hlist := (Radeon.radeonSetupFrame_of_translated bm hb htrans).2
    exact copiesFrame_of Radeon.countMask hsize halign hbus hwrap hlist
  · intro d bm hwrap hreuse hret
    obtain ⟨hb, htrans⟩ := Mach64.mach64SetupFrame_ok_iff.mp hret
    have htable := Mach64.mach64SetupFrame_table bm hb hreuse (htrans.resolve_left hreuse)
    exact copiesFrame_of Mach64.countMask hsize halign hbus hwrap htable

/-- A kernel under which each page is in the frame of its number. -/
def sampleHelper : Helper where
  libdhaFd := 3
  machine := faultingMachine
  mem := presentPages
  readable := true

/-- A request for buffer `idx`, with the source at 64 kB and nothing filled yet. -/
def sampleDma (destOffset size flags idx : UInt32) : VidixDma where
  src := 0x10000
  destOffset := destOffset
  size := size
  flags := flags
  idx := idx
  internal _ := 0

/-- Tables at 16 MB and behind. -/
def sampleBm : Mach64.Bm where
  dmaDescBase i := 0x1000000 ||| UInt64.ofNat (i * 4096)
  dmaDescBase_ne _ _ := or_ne_zero _ (by decide)
  tables _ := []
  dmaPhysAddrs := []
  busAddrDmaDesc := 0

/-- Three pages, of which the last is short. -/
theorem setupFrame_copies_sample :
    CopiesFrame sampleHelper 0x3000000 (sampleDma 0x2000 10000 0 5)
        Radeon.dmaGuiCommandByteCountMask
        (Radeon.radeonSetupFrame sampleHelper (fun _ => true)
          { sampleDriver with overlayOff := 0x3000000 } ⟨[], []⟩
          (sampleDma 0x2000 10000 0 5)).2.descList ∧
      CopiesFrame sampleHelper 0x800000 (sampleDma 0x2000 10000 0 5) Mach64.bmCmdByteCount
        ((Mach64.mach64SetupFrame sampleHelper (fun _ => true)
          { Mach64.sampleDriver with overlayOffset := 0x800000 } sampleBm
          (sampleDma 0x2000 10000 0 5)).2.1.tables
          (Mach64.tableIdx (sampleDma 0x2000 10000 0 5))) :=
  have h := @setupFrame_copies sampleHelper (fun _ => true) (sampleDma 0x2000 10000 0 5)
    (by decide) (by decide) (by decide)
  ⟨h.1 { sampleDriver with overlayOff := 0x3000000 } ⟨[], []⟩ (by decide) (by decide),
    h.2 { Mach64.sampleDriver with overlayOffset := 0x800000 } sampleBm (by decide) (by decide)
      (by decide)⟩

/-! ### What is kept -/

/-- `overlay_offset + dest_offset + size`, over the integers. -/
def frameEnd (off : Int32) (dmai : VidixDma) : ℤ :=
  off.toInt + dmai.destOffset.toNat + dmai.size.toNat

/-- The table that a request has filled stays in `ram` bytes of memory and in `entries` entries. -/
structure WritesWithin (ram entries : ℕ) (mask : UInt32) (dmai : VidixDma)
    (table : List BmListDescriptor) : Prop where
  place_le : ∀ t ∈ requestTransfers mask dmai table, t.dst + t.len ≤ ram
  count_le : items 4096 dmai.size.toNat ≤ entries

theorem writesWithin_iff {ram : ℕ} {mask start : UInt32} {pages : ℕ → UInt32}
    {table old : List BmListDescriptor} (hmask : CountMask mask) (hram : ram < 2 ^ 32)
    (hdvd : 4096 ∣ ram)
    (htable : table = storeFront (descriptors start dmai.size pages) old) :
    WritesWithin ram (ram / 4096) mask dmai table ↔
      dmai.size.toNat = 0 ∨ start.toNat + dmai.size.toNat ≤ ram := by
  have hplace := @forall_place_le_iff start dmai.size mask pages hmask ram hram
  have htransfers : requestTransfers mask dmai table =
      (descriptors start dmai.size pages).map (BmListDescriptor.transfer mask) := by
    rw [requestTransfers, htable, take_storeFront_descriptors]
  constructor
  · intro hwithin
    exact hplace.mp (htransfers ▸ hwithin.place_le)
  · intro hfits
    have hsize : dmai.size.toNat ≤ ram := by omega
    exact ⟨htransfers ▸ hplace.mpr hfits, items_le_div (by decide) hdvd hsize⟩

/-- The word that is compared with the size of the memory. -/
theorem toNat_startWord_add (off : Int32) (dmai : VidixDma) :
    ((startWord off dmai + dmai.size).toNat : ℤ) = frameEnd off dmai % 2 ^ 32 := by
  have hoff := toInt_toInt32 off.toUInt32
  rw [show off.toUInt32.toInt32 = off from rfl] at hoff
  unfold frameEnd startWord
  rw [UInt32.toNat_add, UInt32.toNat_add, hoff]
  split_ifs <;> omega

namespace Radeon

/-- What `radeon_setup_frame` owes for a request when it returns 0. -/
def StaysInCard (h : Helper) (writable : ℕ → Bool) (d : Driver) (bm : Bm) (dmai : VidixDma) :
    Prop :=
  (radeonSetupFrame h writable d bm dmai).1 = 0 →
    frameEnd d.overlayOff dmai ≤ d.ramSize.toNat ∧
      WritesWithin d.ramSize.toNat (descEntries d) dmaGuiCommandByteCountMask dmai
        (radeonSetupFrame h writable d bm dmai).2.descList

theorem dvd_radeonRamSize (configMemsize : UInt32) (mobilityM6 : Bool) :
    4096 ∣ (radeonRamSize configMemsize mobilityM6).toNat := by
  have hlt : configMemsize.toNat < 2 ^ (8 + 24) := configMemsize.toNat_lt
  have hmask : (configMemsize &&& 0xff000000).toNat = configMemsize.toNat / 2 ^ 24 * 2 ^ 24 := by
    rw [UInt32.toNat_and, show (0xff000000 : UInt32).toNat = (2 ^ 8 - 1) * 2 ^ 24 from rfl]
    exact and_high_bits hlt
  unfold radeonRamSize
  dsimp only
  split_ifs
  · decide
  · rw [hmask]
    exact Dvd.dvd.mul_left (by decide) _

/-- The request is refused, or it keeps behind the overlay offset by itself. -/
def HarmlessRequest (h : Helper) (writable : ℕ → Bool) (d : Driver) (dmai : VidixDma) : Prop :=
  ¬ WithinBound d dmai ∨ (bmVirtToBus h writable dmai.src dmai.size.toUInt64).1 ≠ 0 ∨
    (frameEnd d.overlayOff dmai ≤ d.ramSize.toNat ∧
      -- the first descriptor has the sum as a word, which counts when the offset is negative
      (dmai.size.toNat = 0 ∨
        (startWord d.overlayOff dmai).toNat + dmai.size.toNat ≤ d.ramSize.toNat))

theorem staysInCard_iff {d : Driver} (bm : Bm) (hram : 4096 ∣ d.ramSize.toNat) :
    StaysInCard h writable d bm dmai ↔ HarmlessRequest h writable d dmai := by
  unfold StaysInCard HarmlessRequest
  rw [radeonSetupFrame_ok_iff]
  by_cases hb : WithinBound d dmai
  · by_cases hret : (bmVirtToBus h writable dmai.src dmai.size.toUInt64).1 = 0
    · have hlist := (radeonSetupFrame_of_translated bm hb hret).2
      have hwithin := writesWithin_iff countMask d.ramSize.toNat_lt hram hlist
      rw [forall_prop_of_true ⟨hb, hret⟩, or_iff_right (not_not.mpr hb),
        or_iff_right (not_not.mpr hret), descEntries, hwithin, startWord]
    · exact iff_of_true (fun hok => absurd hok.2 hret) (Or.inr (Or.inl hret))
  · exact iff_of_true (fun hok => absurd hok.1 hb) (Or.inl hb)

end Radeon

namespace Mach64

/-- What `mach64_setup_frame` owes for a request when it returns 0. -/
def StaysInCard (h : Helper) (writable : ℕ → Bool) (d : Driver) (bm : Bm) (dmai : VidixDma) :
    Prop :=
  (mach64SetupFrame h writable d bm dmai).1 = 0 →
    frameEnd d.overlayOffset dmai ≤ (mach64RamSize d.regs).toNat ∧
      (¬ reusesTable (clampIdx dmai) = true →
        WritesWithin (mach64RamSize d.regs).toNat (descEntries d) bmCmdByteCount dmai
          ((mach64SetupFrame h writable d bm dmai).2.1.tables (tableIdx dmai))) ∧
      tableIdx dmai < descTables

theorem dvd_mach64RamSize (r : Regs) : 4096 ∣ (mach64RamSize r).toNat := by
  have hkb : ∀ x k : UInt32, 512 ∣ k.toNat → 4096 ∣ (x * k * 0x400).toNat := by
    rintro x k ⟨c, hc⟩
    rw [UInt32.toNat_mul, UInt32.toNat_mul, hc, show (0x400 : UInt32).toNat = 1024 from rfl]
    have hword : x.toNat * (512 * c) = 512 * (x.toNat * c) := Nat.mul_left_comm _ _ _
    rw [hword]
    omega
  unfold mach64RamSize
  dsimp only
  split_ifs
  · exact hkb _ _ (by decide)
  · exact hkb _ _ (by decide)
  · exact hkb _ _ (by decide)

theorem tableIdx_lt_iff (dmai : VidixDma) :
    tableIdx dmai < descTables ↔ dmai.idx.toNat < 64 ∨ 1023 < dmai.idx.toNat := by
  rw [tableIdx_eq, descTables]
  split_ifs with hidx
  · exact iff_of_true (by decide) (Or.inr hidx)
  · rw [or_iff_left hidx]

/-- What the bound lets through has its end in the memory iff its sum does not wrap. -/
theorem frameEnd_le_iff {d : Driver} (hb : WithinBound d dmai) :
    frameEnd d.overlayOffset dmai ≤ (mach64RamSize d.regs).toNat ↔
      frameEnd d.overlayOffset dmai < 2 ^ 32 := by
  have hram : (mach64RamSize d.regs).toNat < 2 ^ 32 := (mach64RamSize d.regs).toNat_lt
  have hword := toNat_startWord_add d.overlayOffset dmai
  have hle : ((startWord d.overlayOffset dmai + dmai.size).toNat : ℤ) ≤
      (mach64RamSize d.regs).toNat := Int.ofNat_le.mpr hb
  omega

theorem startWord_le_iff {d : Driver} (hb : WithinBound d dmai) :
    (startWord d.overlayOffset dmai).toNat + dmai.size.toNat ≤ (mach64RamSize d.regs).toNat ↔
      (startWord d.overlayOffset dmai).toNat + dmai.size.toNat < 2 ^ 32 := by
  have hram : (mach64RamSize d.regs).toNat < 2 ^ 32 := (mach64RamSize d.regs).toNat_lt
  have hle : (startWord d.overlayOffset dmai + dmai.size).toNat ≤ (mach64RamSize d.regs).toNat := hb
  rw [UInt32.toNat_add] at hle
  omega

/-- The request is refused, or its sum does not wrap and there is a table for its index. -/
def HarmlessRequest (h : Helper) (writable : ℕ → Bool) (d : Driver) (dmai : VidixDma) : Prop :=
  ¬ WithinBound d dmai ∨
    (¬ reusesTable (clampIdx dmai) = true ∧
      (bmVirtToBus h writable dmai.src dmai.size.toUInt64).1 ≠ 0) ∨
    (frameEnd d.overlayOffset dmai < 2 ^ 32 ∧
      (reusesTable (clampIdx dmai) = true ∨ dmai.size.toNat = 0 ∨
        (startWord d.overlayOffset dmai).toNat + dmai.size.toNat < 2 ^ 32) ∧
      (dmai.idx.toNat < 64 ∨ 1023 < dmai.idx.toNat))

theorem staysInCard_iff {d : Driver} (bm : Bm) :
    StaysInCard h writable d bm dmai ↔ HarmlessRequest h writable d dmai := by
  unfold StaysInCard HarmlessRequest
  rw [mach64SetupFrame_ok_iff, tableIdx_lt_iff]
  by_cases hb : WithinBound d dmai
  · rw [or_iff_right (not_not.mpr hb), frameEnd_le_iff hb]
    by_cases hreuse : reusesTable (clampIdx dmai) = true
    · rw [forall_prop_of_true ⟨hb, Or.inl hreuse⟩]
      simp only [hreuse, not_true_eq_false, false_and, false_or, true_or, true_and,
        false_imp_iff]
    · by_cases hret : (bmVirtToBus h writable dmai.src dmai.size.toUInt64).1 = 0
      · have hwithin := writesWithin_iff countMask (mach64RamSize d.regs).toNat_lt
          (dvd_mach64RamSize d.regs) (mach64SetupFrame_table bm hb hreuse hret)
        have hstart := startWord_le_iff hb
        have hfilled : ¬ (¬ reusesTable (clampIdx dmai) = true ∧
            (bmVirtToBus h writable dmai.src dmai.size.toUInt64).1 ≠ 0) := fun hfail => hfail.2 hret
        unfold startWord at hstart ⊢
        rw [forall_prop_of_true ⟨hb, Or.inr hret⟩, forall_prop_of_true hreuse, descEntries,
          hwithin, hstart, or_iff_right hfilled, or_iff_right hreuse]
      · refine iff_of_true (fun hok => ?_) (Or.inl ⟨hreuse, hret⟩)
        exact absurd (hok.2.resolve_left hreuse) hret
  · exact iff_of_true (fun hok => absurd hok.1 hb) (Or.inl hb)

end Mach64

/-- **A request that is set up stays in the card iff it is harmless,** in both drivers.  The memory
of the Radeon is what `vixInit` takes from the card. -/
theorem setupFrame_staysInCard_iff (h : Helper) (writable : ℕ → Bool) (dmai : VidixDma) :
    (∀ (d : Radeon.Driver) (bm : Radeon.Bm) (configMemsize : UInt32) (mobilityM6 : Bool),
        d.ramSize = Radeon.radeonRamSize configMemsize mobilityM6 →
        (Radeon.StaysInCard h writable d bm dmai ↔ Radeon.HarmlessRequest h writable d dmai)) ∧
      ∀ (d : Mach64.Driver) (bm : Mach64.Bm),
        (Mach64.StaysInCard h writable d bm dmai ↔ Mach64.HarmlessRequest h writable d dmai) := by
  refine ⟨fun d bm configMemsize mobilityM6 hram => ?_, fun d bm => Mach64.staysInCard_iff bm⟩
  refine Radeon.staysInCard_iff bm ?_
  rw [hram]
  exact Radeon.dvd_radeonRamSize configMemsize mobilityM6

/-- Ten thousand bytes not far behind the overlay offset. -/
theorem setupFrame_staysInCard_sample :
    Radeon.StaysInCard sampleHelper (fun _ => true)
        { sampleDriver with overlayOff := 0x3000000 } ⟨[], []⟩ (sampleDma 0x2000 10000 0 5) ∧
      Mach64.StaysInCard sampleHelper (fun _ => true)
        { Mach64.sampleDriver with overlayOffset := 0x800000 } sampleBm
        (sampleDma 0x2000 10000 0 5) :=
  have h := setupFrame_staysInCard_iff sampleHelper (fun _ => true) (sampleDma 0x2000 10000 0 5)
  ⟨(h.1 { sampleDriver with overlayOff := 0x3000000 } ⟨[], []⟩ 0x4000000 false (by decide)).mpr
      (Or.inr (Or.inr (by decide))),
    (h.2 { Mach64.sampleDriver with overlayOffset := 0x800000 } sampleBm).mpr
      (Or.inr (Or.inr (by decide)))⟩

/-- **Three requests leave the card or the tables,** each after a configuration that succeeded: a
page at the end of the memory for the Radeon, whose bound does not know of the overlay offset; a
sum that wraps for the Mach64; and its buffer 64. -/
theorem setupFrame_leaves_card :
    (Radeon.vixConfigPlayback sampleDriver (sampleRequest imgfmtRGB32 352 288 10)).1 = 0 ∧
      ¬ Radeon.StaysInCard sampleHelper (fun _ => true)
        (Radeon.vixConfigPlayback sampleDriver (sampleRequest imgfmtRGB32 352 288 10)).2.1 ⟨[], []⟩
        (sampleDma 0x3fff000 4096 0 0) ∧
      ∃ d info, Mach64.vixConfigPlayback Mach64.sampleDriver (sampleRequest imgfmtYV12 352 288 2) =
          some (0, d, info) ∧
        ¬ Mach64.StaysInCard sampleHelper (fun _ => true) d sampleBm
          (sampleDma 0xff04f000 8192 0 0) ∧
        ¬ Mach64.StaysInCard sampleHelper (fun _ => true) d sampleBm (sampleDma 0 4096 0 64) := by
  refine ⟨by decide, fun hstays => ?_, ?_⟩
  · have hram : 4096 ∣ (Radeon.vixConfigPlayback sampleDriver
        (sampleRequest imgfmtRGB32 352 288 10)).2.1.ramSize.toNat := by decide
    rcases (Radeon.staysInCard_iff _ hram).mp hstays with hb | hret | ⟨hend, -⟩
    · exact hb (by unfold Radeon.WithinBound; decide)
    · exact hret (by decide)
    · exact absurd hend (by decide)
  · have hconfig : (Mach64.vixConfigPlayback Mach64.sampleDriver
          (sampleRequest imgfmtYV12 352 288 2)).map
          (fun r => (r.1, r.2.1.overlayOffset, r.2.1.regs)) =
        some (0, 0xfb0000, Mach64.sampleDriver.regs) := by decide
    obtain ⟨⟨ret, d, info⟩, hrun, hd⟩ := Option.map_eq_some_iff.mp hconfig
    obtain ⟨hret, hoff, hregs⟩ : ret = 0 ∧ d.overlayOffset = 0xfb0000 ∧
        d.regs = Mach64.sampleDriver.regs := by simpa using hd
    refine ⟨d, info, hret ▸ hrun, fun hstays => ?_, fun hstays => ?_⟩
    · rcases (Mach64.staysInCard_iff sampleBm).mp hstays with hb | hfail | ⟨hend, -⟩
      · refine hb ?_
        unfold Mach64.WithinBound
        rw [hoff, hregs]
        decide
      · exact hfail.2 (by decide)
      · rw [hoff] at hend
        exact absurd hend (by decide)
    · rcases (Mach64.staysInCard_iff sampleBm).mp hstays with hb | hfail | ⟨-, -, hidx⟩
      · refine hb ?_
        unfold Mach64.WithinBound
        rw [hoff, hregs]
        decide
      · exact hfail.2 (by decide)
      · exact absurd hidx (by decide)

end Vidix
