import Vidix.Util.CLiteral
import Vidix.Util.FreshName
import Vidix.Util.JoinedName

/-!
# `pci_db2c.awk`: from pci.ids to C

The generator reads pci.ids a line at a time and writes the macros of pci_vendors.h and pci_ids.h
and the tables of pci_names.c and pci_dev_ids.c.  A text is a list of its bytes, as awk sees it
with `LC_ALL=C`.

`substr(field[1], 0, 1)`, by which the loop finds a comment, is the first byte in some awks and the
empty text in others; `zeroIsFirst` says which one is used.
-/

namespace Vidix.Libdha.PciDb2c

open Util

abbrev Text := List Char

/-! ### awk -/

def tab : Char := Char.ofNat 9

/-- `substr(s, m)`. -/
def substrFrom (s : Text) (m : ℕ) : Text :=
  s.drop (m - 1)

/-- `substr(s, m, n)`, for a positive `m`. -/
def substr (s : Text) (m n : ℕ) : Text :=
  (substrFrom s m).take n

/-- `split(s, …, sep)`: an empty text has no pieces. -/
def split (s : Text) (sep : Char → Bool) : List Text :=
  if s.isEmpty then [] else s.splitOnP sep

/-- `pieces[i]`, which is empty where there is no such piece. -/
def piece (pieces : List Text) (i : ℕ) : Text :=
  pieces.getD (i - 1) []

def toupper (s : Text) : Text :=
  s.map Char.toUpper

/-- `kill_double_quoting`: a backslash before each double quote. -/
def killDoubleQuoting (fld : Text) : Text :=
  let phrases := split fld (· == quoteChar)
  phrases.tail.foldl (fun newFld phrase => newFld ++ backslashChar :: quoteChar :: phrase)
    (piece phrases 1)

/-! ### Short names -/

/-- The pieces between what is no letter and no digit, with one underscore between two of them. -/
def clean (newName : Text) : Text :=
  let name := split newName (fun c => !c.isAlphanum)
  name.tail.foldl (fun s p => s ++ (if p.isEmpty then [] else ['_']) ++ p) (piece name 1)

/-- The first word of a vendor's name, with the second where the first is short. -/
def vendorAbbreviation (fromName : Text) : Text :=
  let name := split (substrFrom fromName 7) (· == ' ')
  let newName := toupper (piece name 1)
  clean (if newName.length < 3 then newName ++ '_' :: toupper (piece name 2) else newName)

/-- The first three words. -/
def threeWords (names : Text) : Text :=
  let name := split names (· == ' ')
  let add (newName word : Text) := if word.isEmpty then newName else newName ++ '_' :: toupper word
  clean (add (add (toupper (piece name 1)) (piece name 2)) (piece name 3))

def deviceAbbreviation (fromName : Text) : Text :=
  threeWords (substrFrom fromName 7)

def subdeviceAbbreviation (fromName : Text) : Text :=
  threeWords (substrFrom (substrFrom fromName 7) 6)

/-- `while(new_name in names) new_name = sprintf("%s%u", short, suffix++)`. -/
def unique (names : List Text) (short : Text) : Text :=
  fresh (numbered short) names

/-- `get_short_vendor_name`, with the names in `vendor_names`. -/
def getShortVendorName (vendorNames : List Text) (fromName : Text) : Text :=
  unique vendorNames (vendorAbbreviation fromName)

/-- `get_short_device_name`, with the names in `device_names`. -/
def getShortDeviceName (deviceNames : List Text) (fromName : Text) : Text :=
  unique deviceNames (deviceAbbreviation fromName)

/-- `get_short_subdevice_name`, with the names in `subdevice_names`. -/
def getShortSubdeviceName (subdeviceNames : List Text) (fromName : Text) : Text :=
  unique subdeviceNames (subdeviceAbbreviation fromName)

/-! ### Lines -/

/-- What the loop reads off a field: the text after `0x`, the text of the comment and of the string
literal, and the field. -/
structure Item where
  id : Text
  name : Text
  field : Text
  deriving DecidableEq

inductive Entry where
  | vendor (item : Item)
  | device (item : Item)
  | subdevice (item : Item)
  deriving DecidableEq

/-- `if(length(field[i])>0)`. -/
def whenFilled (field : Text) (e : Entry) : List Entry :=
  if 0 < field.length then [e] else []

/-- The entries of one line, in the order in which the loop comes to them. -/
def entries (zeroIsFirst : Bool) (line : Text) : List Entry :=
  let nameField := killDoubleQuoting line
  let field := split nameField (· == tab)
  let field1 := piece field 1
  let field2 := piece field 2
  let field3 := piece field 3
  if zeroIsFirst && substr field1 1 1 == ['#'] then []
  else
    whenFilled field1 (.vendor ⟨substr field1 1 4, substrFrom nameField 7, field1⟩) ++
    whenFilled field2 (.device ⟨substr field2 1 4, substrFrom nameField 8, field2⟩) ++
    whenFilled field3
      (.subdevice ⟨substr field3 1 4 ++ substr field3 6 4, substrFrom nameField 14, field3⟩)

/-- `if(substr(field[1],1,4)=="ffff") break`. -/
def Entry.stops : Entry → Bool
  | .vendor item => item.id == ['f', 'f', 'f', 'f']
  | _ => false

/-! ### Output -/

inductive MacroName where
  | vendor (svendName : Text)
  | device (svendName sdevName : Text)
  | subdevice (svendName subdevName : Text)
  deriving DecidableEq

def MacroName.text : MacroName → Text
  | vendor svendName => ['V', 'E', 'N', 'D', 'O', 'R', '_'] ++ svendName
  | device svendName sdevName =>
    ['D', 'E', 'V', 'I', 'C', 'E', '_'] ++ joined '_' (svendName, sdevName)
  | subdevice svendName subdevName =>
    ['S', 'U', 'B', 'D', 'E', 'V', 'I', 'C', 'E', '_'] ++ joined '_' (svendName, subdevName)

/-- What one step writes, to one of the four files (`Write.file`). -/
inductive Write where
  /-- `#define <macro> 0x<value> /*<comment>*/` -/
  | define (macroName : MacroName) (value comment : Text)
  /-- `/* Vendor: <id>: <name> */` -/
  | vendorComment (id name : Text)
  /-- `{ 0x<id>, "<name>", dev_lst_<list> },` -/
  | vendorRow (id name list : Text)
  /-- `};` -/
  | closeVendors
  /-- `static const struct device_id_s dev_lst_<list>[]={` -/
  | openList (list : Text)
  /-- `{ 0x<id>, "<name>" },` -/
  | deviceRow (id name : Text)
  /-- `{ 0xFFFF,  NULL }` and `};` -/
  | closeList
  deriving DecidableEq

/-! ### The loop -/

/-- The variables that live from one line to the next. -/
structure State where
  firstPass : Bool
  svendName : Text
  vendorNames : List Text
  deviceNames : List Text
  subdeviceNames : List Text
  deriving DecidableEq

/-- The keys of `vendor_names` after `init_name_db`, and of the other two after `init_device_db`,
which set the entry `1`. -/
def initNames : List Text :=
  [['1']]

/-- The state before the loop. -/
def State.init : State where
  firstPass := true
  svendName := []
  vendorNames := initNames
  deviceNames := []
  subdeviceNames := []

/-- What the loop does with one entry. -/
def emit (s : State) : Entry → State × List Write
  | .vendor ⟨id, name, field⟩ =>
    let svendName := getShortVendorName s.vendorNames field
    ({ firstPass := false
       svendName := svendName
       vendorNames := svendName :: s.vendorNames
       deviceNames := initNames
       subdeviceNames := initNames },
     [.define (.vendor svendName) id name, .vendorRow id name id, .vendorComment id name] ++
       (if s.firstPass then [] else [.closeList]) ++ [.openList id])
  | .device ⟨id, name, field⟩ =>
    let sdevName := getShortDeviceName s.deviceNames field
    ({ s with deviceNames := sdevName :: s.deviceNames },
     [.define (.device s.svendName sdevName) id name, .deviceRow id name])
  | .subdevice ⟨id, name, field⟩ =>
    let subdevName := getShortSubdeviceName s.subdeviceNames field
    ({ s with subdeviceNames := subdevName :: s.subdeviceNames },
     [.define (.subdevice s.svendName subdevName) id name])

/-- The loop, which leaves at a vendor `ffff`. -/
def run (s : State) : List Entry → List Write
  | [] => []
  | e :: es => (emit s e).2 ++ if e.stops then [] else run (emit s e).1 es

/-- What is written for the lines of the file. -/
def generate (zeroIsFirst : Bool) (lines : List Text) : List Write :=
  run State.init (lines.flatMap (entries zeroIsFirst)) ++ [.closeVendors, .closeList]

inductive File where
  | pciVendors
  | pciIds
  | pciNames
  | pciDevIds
  deriving DecidableEq

/-- The file that is written to. -/
def Write.file : Write → File
  | define (.vendor _) _ _ => .pciVendors
  | define _ _ _ => .pciIds
  | vendorComment _ _ => .pciIds
  | vendorRow _ _ _ => .pciNames
  | closeVendors => .pciNames
  | openList _ => .pciDevIds
  | deviceRow _ _ => .pciDevIds
  | closeList => .pciDevIds

/-- What is in a file at the end. -/
def contents (file : File) (ws : List Write) : List Write :=
  ws.filter (·.file = file)

/-- The macro of a `#define`. -/
def Write.definedName : Write → Option MacroName
  | define m _ _ => some m
  | _ => none

/-- The macros defined, in the order of their definitions in the two headers. -/
def definedNames (ws : List Write) : List MacroName :=
  ws.filterMap Write.definedName

/-- The names of the macros that the two headers define. -/
def headerNames (zeroIsFirst : Bool) (lines : List Text) : List Text :=
  (definedNames (generate zeroIsFirst lines)).map MacroName.text

end Vidix.Libdha.PciDb2c
