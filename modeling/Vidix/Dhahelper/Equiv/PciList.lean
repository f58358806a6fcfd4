import Vidix.Dhahelper.PciList
import Vidix.Libdha.Equiv.PciScan

/-!
# How many entries `pci_scan` writes

The bus scan stops writing at `MAX_PCI_DEVICES` (`after_pciLst_length`).  The other way has no such
test: it writes an entry for each device behind the helper's place (`findAll_eq`).  So the array is
large enough, and its entries are counted right, iff the scan does not go through the helper or no
more than 64 devices stand behind that place: `pciScanList_bounded_iff`.
-/

namespace Vidix.Dhahelper

open Libdha Util

/-- The place in the kernel's list after which the helper goes on. -/
def findPos (pdev : Option ℕ) : ℕ :=
  match pdev with
  | none => 0
  | some i => i + 1

/-- The number of devices that the helper has still to name. -/
def Finder.behind (f : Finder) : ℕ := f.devs.length - findPos f.pdev

/-- Every scan that ends has kept to the array and reports how many entries it has written. -/
def ListBounded (helper : Option Finder) (b : Backend) : Prop :=
  ∀ fuel r, pciScanList helper b fuel = .done r →
    r.written.length ≤ maxPciDevices ∧ ∀ n, r.numPci = some n → n.toNat = r.written.length

/-! ### Through the helper -/

/-- At the end of the kernel's list the request fails. -/
theorem findAll_done {devs : List PciDev} {pdev : Option ℕ} (left : UInt32 → Leftover)
    (fuel : ℕ) (idx : UInt32) (h : devs.length ≤ findPos pdev) :
    findAll devs left (fuel + 1) idx pdev = .done ([], idx) := by
  have hnone : pciFindDevice devs pdev = none := by
    unfold pciFindDevice
    rw [Option.map_eq_none_iff]
    exact List.getElem?_eq_none h
  unfold findAll dhahelperPciFind
  rw [hnone]
  rfl

/-- Before its end the request names the next device. -/
theorem findAll_next {devs : List PciDev} {pdev : Option ℕ} (left : UInt32 → Leftover)
    (fuel : ℕ) (idx : UInt32) (h : findPos pdev < devs.length) :
    ∃ e, findAll devs left (fuel + 1) idx pdev =
      (findAll devs left fuel (idx + 1) (some (findPos pdev))).map fun r => (e :: r.1, r.2) := by
  have hsome : pciFindDevice devs pdev = some (findPos pdev, devs[findPos pdev]) := by
    unfold pciFindDevice
    rw [Option.map_eq_some_iff]
    exact ⟨devs[findPos pdev], List.getElem?_eq_getElem h, rfl⟩
  refine ⟨listEntry (left idx).command (deviceReply (left idx).stack devs[findPos pdev]), ?_⟩
  rw [findAll]
  unfold dhahelperPciFind
  rw [hsome]
  rfl

/-- **One entry for each device that is left,** if the loop is given the time to end. -/
theorem findAll_eq {devs : List PciDev} (left : UInt32 → Leftover) {fuel : ℕ} {pdev : Option ℕ}
    (idx : UInt32) (hfuel : devs.length - findPos pdev < fuel) :
    ∃ entries, entries.length = devs.length - findPos pdev ∧
      findAll devs left fuel idx pdev = .done (entries, idx + UInt32.ofNat entries.length) := by
  induction fuel generalizing idx pdev with
  | zero => exact absurd hfuel (Nat.not_lt_zero _)
  | succ fuel ih =>
    by_cases h : findPos pdev < devs.length
    · have hpos : findPos (some (findPos pdev)) = findPos pdev + 1 := rfl
      obtain ⟨e, he⟩ := findAll_next left fuel idx h
      obtain ⟨entries, hlen, hrest⟩ := @ih (some (findPos pdev)) (idx + 1) (by omega)
      refine ⟨e :: entries, ?_, ?_⟩
      · rw [List.length_cons, hlen]
        omega
      · have hidx : idx + 1 + UInt32.ofNat entries.length =
            idx + UInt32.ofNat (entries.length + 1) := by
          rw [UInt32.ofNat_add, add_assoc, add_comm (UInt32.ofNat entries.length)]
          rfl
        rw [he, hrest, List.length_cons, ← hidx]
        rfl
    · refine ⟨[], ?_, ?_⟩
      · rw [List.length_nil]
        omega
      · rw [findAll_done left fuel idx (not_lt.mp h)]
        simp

/-- Without the time to end there is no result at all. -/
theorem findAll_of_le {devs : List PciDev} (left : UInt32 → Leftover) {fuel : ℕ}
    {pdev : Option ℕ} (idx : UInt32) (hfuel : fuel ≤ devs.length - findPos pdev) :
    findAll devs left fuel idx pdev = .fuelOut := by
  induction fuel generalizing idx pdev with
  | zero => rfl
  | succ fuel ih =>
    have hpos : findPos (some (findPos pdev)) = findPos pdev + 1 := rfl
    obtain ⟨e, he⟩ := findAll_next left fuel idx (show findPos pdev < devs.length by omega)
    rw [he, ih (idx + 1) (by omega)]
    rfl

/-- What a scan through the helper comes to. -/
theorem pciScanList_helper (f : Finder) (b : Backend) {fuel : ℕ} (hfuel : f.behind < fuel) :
    ∃ entries, entries.length = f.behind ∧
      pciScanList (some f) b fuel = .done ⟨0, entries, some (UInt32.ofNat entries.length)⟩ := by
  obtain ⟨entries, hlen, hrun⟩ := findAll_eq f.left 0 hfuel
  refine ⟨entries, hlen, ?_⟩
  unfold pciScanList
  dsimp only
  rw [hrun, zero_add]
  rfl

theorem listBounded_helper_iff (f : Finder) (b : Backend) :
    ListBounded (some f) b ↔ f.behind ≤ maxPciDevices := by
  constructor
  · intro h
    obtain ⟨entries, hlen, hrun⟩ := pciScanList_helper f b (Nat.lt_succ_self f.behind)
    rw [← hlen]
    exact (h _ _ hrun).1
  · intro h fuel r hr
    by_cases hfuel : f.behind < fuel
    · obtain ⟨entries, hlen, hrun⟩ := pciScanList_helper f b hfuel
      obtain rfl := Walk.done.inj (hrun.symm.trans hr)
      have hmax : maxPciDevices = 64 := rfl
      refine ⟨hlen.trans_le h, fun n hn => ?_⟩
      rw [← Option.some.inj hn, UInt32.toNat_ofNat', Nat.mod_eq_of_lt (by omega)]
    · have hout := findAll_of_le f.left 0 (not_lt.mp hfuel)
      unfold pciScanList at hr
      dsimp only at hr
      rw [hout] at hr
      cases hr

/-! ### Through the bus scan -/

/-- At no time has the bus scan written more entries than the array has places. -/
theorem after_pciLst_length (b : Backend) (A : List UInt8) :
    (after b A).pciLst.length ≤ maxPciDevices := by
  rw [after_pciLst]
  exact List.length_take_le _ _

theorem pciScan_length {b : Backend} {fuel : ℕ} {ret : ℤ} {s : ScanState}
    (h : pciScan b fuel = .done (ret, s)) : s.pciLst.length ≤ maxPciDevices := by
  by_cases hscans : Scans b
  · obtain ⟨scanBus, hsum, heq⟩ := pciScan_of_scans hscans
    rw [heq, Walk.map_eq_done] at h
    obtain ⟨s', hs', hrs⟩ := h
    obtain ⟨-, rfl⟩ := Prod.mk.inj hrs
    obtain ⟨Q, -, -, rfl⟩ := walk_sound hsum hsum.atHead_nil hs'
    exact after_pciLst_length b Q
  · obtain ⟨r, hr⟩ := pciScan_of_not_scans hscans fuel
    obtain ⟨-, rfl⟩ := Prod.mk.inj (Walk.done.inj (hr.symm.trans h))
    exact Nat.zero_le _

theorem listBounded_direct (b : Backend) : ListBounded none b := by
  intro fuel r hr
  obtain ⟨⟨ret, s⟩, hs, rfl⟩ := Walk.map_eq_done.mp hr
  have hlen := pciScan_length hs
  have hmax : maxPciDevices = 64 := rfl
  refine ⟨hlen, fun n hn => ?_⟩
  dsimp only at hn ⊢
  split_ifs at hn
  rw [← Option.some.inj hn, UInt32.toNat_ofNat', Nat.mod_eq_of_lt (by omega)]

/-! ### Both ways -/

theorem pciScanList_ne_fuelOut (helper : Option Finder) (b : Backend) :
    ∃ fuel, pciScanList helper b fuel ≠ .fuelOut := by
  rcases helper with _ | f
  · refine ⟨maxPciBuses, fun hout => ?_⟩
    have hscan := pciScan_ne_fuelOut b
    unfold pciScanList at hout
    generalize pciScan b maxPciBuses = w at hscan hout
    rcases w with _ | _ | s
    · exact hscan rfl
    · cases hout
    · cases hout
  · obtain ⟨entries, -, hrun⟩ := pciScanList_helper f b (Nat.lt_succ_self f.behind)
    refine ⟨f.behind + 1, ?_⟩
    rw [hrun]
    exact nofun

/-- **The array is large enough iff the scan does not go through the helper, or at most 64 devices
stand behind the helper's place.**  Every scan comes to an end, and the bus scan keeps to the array
at every moment. -/
theorem pciScanList_bounded_iff (helper : Option Finder) (b : Backend) :
    (ListBounded helper b ↔ ∀ f, helper = some f → f.behind ≤ maxPciDevices) ∧
      (∃ fuel, pciScanList helper b fuel ≠ .fuelOut) ∧
      ∀ A, (after b A).pciLst.length ≤ maxPciDevices := by
  refine ⟨?_, pciScanList_ne_fuelOut helper b, after_pciLst_length b⟩
  rcases helper with _ | f
  · exact iff_of_true (listBounded_direct b) nofun
  · rw [listBounded_helper_iff]
    exact ⟨fun h f' hf' => Option.some.inj hf' ▸ h, fun h => h f rfl⟩

/-- A device without resources. -/
def plainDev : PciDev where
  busNumber := 0
  devfn := 0
  vendor := 0x1002
  device := 0x4742
  resourceStart _ := 0
  romBase := 0
  interruptLine := 0
  interruptPin := 0
  minGnt := 0
  maxLat := 0

/-- The helper on a machine with 65 devices, before its first request. -/
def crowdedFinder : Finder where
  devs := List.replicate 65 plainDev
  pdev := none
  left _ := ⟨0, 0⟩

/-- **65 devices do not fit:** the last entry is written past the end of the array. -/
theorem pciScanList_overruns :
    (∃ r, pciScanList (some crowdedFinder) (x86Backend (fun _ => none) 1) 66 = .done r ∧
        r.written.length = 65) ∧
      ¬ ListBounded (some crowdedFinder) (x86Backend (fun _ => none) 1) := by
  have hbehind : crowdedFinder.behind = 65 := by decide
  constructor
  · obtain ⟨entries, hlen, hrun⟩ := pciScanList_helper crowdedFinder (x86Backend (fun _ => none) 1)
      (show crowdedFinder.behind < 66 by rw [hbehind]; decide)
    exact ⟨_, hrun, hlen.trans hbehind⟩
  · intro h
    have hle := (listBounded_helper_iff crowdedFinder _).mp h
    rw [hbehind] at hle
    exact absurd hle (by decide)

end Vidix.Dhahelper
