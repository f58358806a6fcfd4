import Vidix.Libdha.PciDb2c
import Vidix.Util.CToken

/-!
# pci.ids as a database

The entries of pci.ids in sections: a vendor with the devices and subdevices up to the next one.
The names that the headers define are told here from the sections alone.  The vendors of the file
are named in turn, and so are the devices, and the subdevices, of each vendor; a counter tells a
name from the earlier ones of its list.

`Database` is the file as its own header describes it, before it is read: vendors and what is
listed under them, written as lines of text.
-/

namespace Vidix.Libdha.PciDb2c

open Util

structure Section where
  vendor : Item
  devices : List Item
  subdevices : List Item

/-- The devices before the next vendor. -/
def devicesUnder : List Entry → List Item
  | .device item :: es => item :: devicesUnder es
  | .subdevice _ :: es => devicesUnder es
  | _ => []

/-- The subdevices before the next vendor. -/
def subdevicesUnder : List Entry → List Item
  | .subdevice item :: es => item :: subdevicesUnder es
  | .device _ :: es => subdevicesUnder es
  | _ => []

/-- The sections, up to a vendor `ffff` and without what stands under it. -/
def sections : List Entry → List Section
  | [] => []
  | .vendor item :: es =>
    if (Entry.vendor item).stops then [⟨item, [], []⟩]
    else ⟨item, devicesUnder es, subdevicesUnder es⟩ :: sections es
  | _ :: es => sections es

/-- Nothing stands before the first vendor. -/
def StartsWithVendor : List Entry → Prop
  | .device _ :: _ => False
  | .subdevice _ :: _ => False
  | _ => True

instance : DecidablePred StartsWithVendor
  | [] => .isTrue trivial
  | .vendor _ :: _ => .isTrue trivial
  | .device _ :: _ => .isFalse id
  | .subdevice _ :: _ => .isFalse id

/-! ### The names of a database -/

/-- What the counter makes of an abbreviated name. -/
def vendorCandidate (sec : Section) : ℕ → Text :=
  numbered (vendorAbbreviation sec.vendor.field)

def deviceCandidate (item : Item) : ℕ → Text :=
  numbered (deviceAbbreviation item.field)

def subdeviceCandidate (item : Item) : ℕ → Text :=
  numbered (subdeviceAbbreviation item.field)

/-- The short names of the devices of a vendor. -/
def Section.deviceNames (sec : Section) : List Text :=
  assign deviceCandidate initNames sec.devices

/-- The short names of the subdevices of a vendor. -/
def Section.subdeviceNames (sec : Section) : List Text :=
  assign subdeviceCandidate initNames sec.subdevices

/-- The short names of the vendors, where those in `used` are taken. -/
def vendorNames (used : List Text) (secs : List Section) : List Text :=
  assign vendorCandidate used secs

/-- The short name of a vendor with each of the `names` in its section. -/
def namePairs (names : Section → List Text) (used : List Text) (secs : List Section) :
    List (Text × Text) :=
  ((vendorNames used secs).zip secs).flatMap fun p => (names p.2).map (Prod.mk p.1)

/-- Two vendors of the database are called `V` and `V_X`, one name in the section of the first is
`X_E`, and `E` is one in that of the second. -/
def Straddles (names : Section → List Text) (secs : List Section) : Prop :=
  ∃ p ∈ namePairs names initNames secs, ∃ q ∈ namePairs names initNames secs, Straddle '_' p q

/-! ### The names of the headers -/

/-- The names that the loop defines. -/
def loopNames (es : List Entry) : List MacroName :=
  definedNames (run State.init es)

/-- The short name in a vendor's macro. -/
def MacroName.vendor? : MacroName → Option Text
  | vendor svendName => some svendName
  | _ => none

/-- The two names in a device's macro. -/
def MacroName.device? : MacroName → Option (Text × Text)
  | device svendName sdevName => some (svendName, sdevName)
  | _ => none

/-- The two names in a subdevice's macro. -/
def MacroName.subdevice? : MacroName → Option (Text × Text)
  | subdevice svendName subdevName => some (svendName, subdevName)
  | _ => none

/-- A C identifier: letters, digits and underscores, with no digit in front. -/
def IsIdentifier : Text → Prop
  | [] => False
  | c :: t => (c.isAlpha = true ∨ c = '_') ∧ ∀ c ∈ t, isWordChar c = true

/-- What a header must be: no name but an identifier, and none defined twice. -/
def Unambiguous (names : List Text) : Prop :=
  (∀ t ∈ names, IsIdentifier t) ∧ names.Nodup

/-! ### The file -/

/-- An id of the file: four hexadecimal digits. -/
structure Id where
  text : Text
  length_text : text.length = 4
  hex : ∀ c ∈ text, isDigitOf 16 c = true

def Id.value (id : Id) : UInt16 :=
  .ofNat (digitsValue 16 id.text)

/-- A line that says nothing. -/
inductive Filler where
  | comment (text : Text)
  | blank

def Filler.line : Filler → Text
  | comment text => '#' :: text
  | blank => []

/-- A line under a vendor. -/
inductive BodyLine where
  | device (id : Id) (name : Text)
  | subdevice (vendorId deviceId : Id) (name : Text)
  | filler (f : Filler)

def BodyLine.line : BodyLine → Text
  | device id name => tab :: (id.text ++ ' ' :: ' ' :: name)
  | subdevice vendorId deviceId name =>
    tab :: tab :: (vendorId.text ++ ' ' :: (deviceId.text ++ ' ' :: ' ' :: name))
  | filler f => f.line

/-- A vendor with the lines up to the next one.  A tab would end the field of its name. -/
structure Vendor where
  id : Id
  name : Text
  tab_notMem : tab ∉ name
  body : List BodyLine

def Vendor.line (v : Vendor) : Text :=
  v.id.text ++ ' ' :: ' ' :: v.name

def BodyLine.device? : BodyLine → Option (Id × Text)
  | device id name => some (id, name)
  | _ => none

/-- The devices listed under a vendor. -/
def Vendor.devices (v : Vendor) : List (Id × Text) :=
  v.body.filterMap BodyLine.device?

/-- A pci.ids file. -/
structure Database where
  header : List Filler
  vendors : List Vendor

def Database.lines (db : Database) : List Text :=
  db.header.map Filler.line ++ db.vendors.flatMap fun v => v.line :: v.body.map BodyLine.line

/-- What a well-formed file holds: vendors, with ids that differ from each other and from `ffff`,
and under each vendor devices of which the same is true. -/
structure Database.WellFormed (db : Database) : Prop where
  vendors_ne_nil : db.vendors ≠ []
  vendors_nodup : (db.vendors.map (·.id.value)).Nodup
  vendor_ne : ∀ v ∈ db.vendors, v.id.value ≠ 0xFFFF
  devices_nodup : ∀ v ∈ db.vendors, (v.devices.map (·.1.value)).Nodup
  device_ne : ∀ v ∈ db.vendors, ∀ p ∈ v.devices, p.1.value ≠ 0xFFFF

end Vidix.Libdha.PciDb2c
