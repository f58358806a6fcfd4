import Vidix.Dhahelper.PciFind

/-!
# `pci_scan` and the caller's array

`pci_scan` of libdha with both its ways: through `DHAHELPER_PCI_FIND` when `/dev/dhahelper` can be
opened, and through the bus scan when it cannot.  The entries are kept in the order in which they
are written into the caller's array, which has `MAX_PCI_DEVICES` places.
-/

namespace Vidix.Dhahelper

open Libdha Util

/-- What a call of `pci_scan` returns, writes into the array, and reports in `num_pci`. -/
structure PciList where
  ret : ℤ
  written : List Pciinfo
  numPci : Option UInt32
  deriving DecidableEq, Repr

/-- The helper as a call finds it: the kernel's devices, the place where the last client stopped,
and what is left in memory for each entry. -/
structure Finder where
  devs : List PciDev
  pdev : Option ℕ
  left : UInt32 → Leftover

/-- `while(ioctl(libdha_fd, DHAHELPER_PCI_FIND, &pci_dev)==0)`: the entries written from `idx` on,
and the last value of `idx`. -/
def findAll (devs : List PciDev) (left : UInt32 → Leftover) :
    ℕ → UInt32 → Option ℕ → Walk (List Pciinfo × UInt32)
  | 0, _, _ => .fuelOut
  | fuel + 1, idx, pdev =>
    let (ret, reply, pdev) := dhahelperPciFind devs (left idx).stack pdev
    if ioctlResult ret = 0 then
      (findAll devs left fuel (idx + 1) pdev).map fun (entries, idx') =>
        (listEntry (left idx).command reply :: entries, idx')
    else .done ([], idx)

/-- `pci_scan`; `helper` is what answers behind `/dev/dhahelper` if it can be opened. -/
def pciScanList (helper : Option Finder) (b : Backend) (fuel : ℕ) : Walk PciList :=
  match helper with
  | none =>
    (pciScan b fuel).map fun (ret, s) =>
      -- the ways out with an error do not come to `*num_pci = pcicards`
      { ret := ret, written := s.pciLst
        numPci := if ret = 0 then some (UInt32.ofNat s.pciLst.length) else none }
  | some f =>
    (findAll f.devs f.left fuel 0 f.pdev).map fun (entries, idx) =>
      { ret := 0, written := entries, numPci := some idx }

end Vidix.Dhahelper
