import Vidix.Libdha.PciLiteral
import Vidix.Util.CToken

/-!
# pci_names.c

What a C compiler reads in pci_dev_ids.c and in the table of pci_names.c, as the generator has
written them, and the two lookup functions that `print_func_bodies` puts after the table.  The heads
of the files are left out.  A name is kept as it is spelled between the quotes of its literal; what
the literal stands for is what `readLiteral` makes of that.

A lookup gives `none` where it reads outside a table, and `some none` for `NULL`.
-/

namespace Vidix.Libdha.PciNames

open PciDb2c Util

/-- `struct device_id_s`. -/
structure DeviceIdS where
  id : UInt16
  name : Option Text
  deriving DecidableEq

/-- `struct vendor_id_s`, with the list that `dev_list` points to. -/
structure VendorIdS where
  id : UInt16
  name : Option Text
  devList : List DeviceIdS
  deriving DecidableEq

/-! ### The text -/

/-- `static const struct device_id_s dev_lst_<list>[]={`. -/
def listStart (list : Text) : Text :=
  "static const struct device_id_s dev_lst_".toList ++ list ++ "[]=\x7b\n".toList

/-- `{ 0xFFFF,  NULL }` and `};`. -/
def listEnd : Text :=
  "\x7b 0xFFFF,  NULL \x7d\n\x7d;\n".toList

/-- `static struct vendor_id_s vendor_ids[] = {`. -/
def vendorsStart : Text :=
  "static struct vendor_id_s vendor_ids[] = \x7b\n".toList

/-- `};`. -/
def vendorsEnd : Text :=
  "\x7d;\n".toList

/-- The text of what is written to the tables. -/
def tableText : Write → Text
  | .openList list => listStart list
  | .closeList => listEnd
  | .closeVendors => vendorsEnd
  | w => w.row?.getD []

/-- pci_dev_ids.c. -/
def devIdsC (ws : List Write) : Text :=
  (contents .pciDevIds ws).flatMap tableText

/-- The table of pci_names.c. -/
def namesC (ws : List Write) : Text :=
  vendorsStart ++ (contents .pciNames ws).flatMap tableText

/-! ### The tables -/

/-- `0x<digits>`, stored in an `unsigned short`. -/
def hexConstant : Text → Option UInt16
  | '0' :: 'x' :: digits =>
    if digits ≠ [] ∧ digits.all (isDigitOf 16) then some (.ofNat (digitsValue 16 digits)) else none
  | _ => none

/-- What stands before the name of a list. -/
def listWords : List Text :=
  ["static".toList, "const".toList, "struct".toList, "device_id_s".toList]

mutual

/-- The rows of a list, up to the one with `NULL` at its end, and the lists behind it. -/
def readRows : List Token → Option (List DeviceIdS × List (Text × List DeviceIdS))
  | .openBrace :: .word id :: .comma :: .literal name :: .closeBrace :: .comma :: ts => do
    let id ← hexConstant id
    let (rows, lists) ← readRows ts
    some (⟨id, some name⟩ :: rows, lists)
  | .openBrace :: .word id :: .comma :: .word null :: .closeBrace :: .closeBrace :: .semicolon ::
      ts => do
    let id ← hexConstant id
    let lists ← readLists ts
    if null = "NULL".toList then some ([⟨id, none⟩], lists) else none
  | _ => none

/-- The lists of pci_dev_ids.c with their names. -/
def readLists : List Token → Option (List (Text × List DeviceIdS))
  | [] => some []
  | .word a :: .word b :: .word c :: .word d :: .word list :: .openBracket :: .closeBracket ::
      .assign :: .openBrace :: ts => do
    let (rows, lists) ← readRows ts
    if [a, b, c, d] = listWords then some ((list, rows) :: lists) else none
  | _ => none

end

/-- The rows of `vendor_ids`, which name lists that are declared. -/
def readVendors (lists : List (Text × List DeviceIdS)) : List Token → Option (List VendorIdS)
  | [.closeBrace, .semicolon] => some []
  | .openBrace :: .word id :: .comma :: .literal name :: .comma :: .word list :: .closeBrace ::
      .comma :: ts => do
    let id ← hexConstant id
    let devList ← lists.lookup list
    let vendorIds ← readVendors lists ts
    some (⟨id, some name, devList⟩ :: vendorIds)
  | _ => none

/-- The beginning of the declaration of `vendor_ids`. -/
def vendorsHead : List Token :=
  [.word "static".toList, .word "struct".toList, .word "vendor_id_s".toList,
    .word "vendor_ids".toList, .openBracket, .closeBracket, .assign, .openBrace]

/-- `vendor_ids`, where no list is declared twice. -/
def compile (devIds names : Text) : Option (List VendorIdS) := do
  let lists ← readLists (← tokens devIds)
  let ts ← tokens names
  if (lists.map Prod.fst).Nodup ∧ vendorsHead <+: ts then
    readVendors lists (ts.drop vendorsHead.length)
  else none

/-! ### The functions -/

/-- The loop over `vendor_ids` of both functions; `found` is what follows a match. -/
def vendorLoop (vendorIds : List VendorIdS) (id : UInt16)
    (found : VendorIdS → Option (Option Text)) (i : ℕ) : Option (Option Text) :=
  if i < vendorIds.length then
    match vendorIds[i]? with
    | none => none
    | some vendor =>
      if vendor.id = id then found vendor else vendorLoop vendorIds id found (i + 1)
  else some none
termination_by vendorIds.length - i

/-- `pci_vendor_name`. -/
def pciVendorName (vendorIds : List VendorIdS) (id : UInt16) : Option (Option Text) :=
  vendorLoop vendorIds id (fun vendor => some vendor.name) 0

/-- `while(dev_list[j].id != 0xFFFF) …`, with the `return NULL` that comes after the `break`. -/
def deviceLoop (devList : List DeviceIdS) (deviceId : UInt16) (j : ℕ) : Option (Option Text) :=
  if hj : j < devList.length then
    if devList[j].id = 0xFFFF then some none
    else if devList[j].id = deviceId then some devList[j].name
    else deviceLoop devList deviceId (j + 1)
  else none
termination_by devList.length - j

/-- `pci_device_name`. -/
def pciDeviceName (vendorIds : List VendorIdS) (vendorId deviceId : UInt16) :
    Option (Option Text) :=
  vendorLoop vendorIds vendorId (fun vendor => deviceLoop vendor.devList deviceId 0) 0

/-- The lookups in `vendorIds` give the names of the database, as they are written between the
quotes of their rows, and `NULL` for what is not in it. -/
structure Answers (vendorIds : List VendorIdS) (db : Database) : Prop where
  vendor : ∀ v ∈ db.vendors, pciVendorName vendorIds v.id.value = some (some (escapeQuotes v.name))
  no_vendor : ∀ id, (∀ v ∈ db.vendors, v.id.value ≠ id) → pciVendorName vendorIds id = some none
  device : ∀ v ∈ db.vendors, ∀ p ∈ v.devices,
    pciDeviceName vendorIds v.id.value p.1.value = some (some (escapeQuotes p.2))
  no_device : ∀ vendorId deviceId,
    (∀ v ∈ db.vendors, v.id.value = vendorId → ∀ p ∈ v.devices, p.1.value ≠ deviceId) →
      pciDeviceName vendorIds vendorId deviceId = some none
  inside : ∀ vendorId deviceId, (pciVendorName vendorIds vendorId).isSome ∧
    (pciDeviceName vendorIds vendorId deviceId).isSome

end Vidix.Libdha.PciNames
