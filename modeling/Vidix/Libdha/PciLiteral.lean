import Vidix.Libdha.PciIds
import Vidix.Util.CLiteral

/-!
# The names in pci_names.c and pci_dev_ids.c

The rows of the two tables as text, and what a C compiler reads from the string literal in a row.
-/

namespace Vidix.Libdha.PciDb2c

open Util

/-- A line of the file that names a vendor or a device. -/
inductive NameLine where
  | vendor (v : Vendor)
  | device (id : Id) (name : Text)

def NameLine.line : NameLine → Text
  | vendor v => v.line
  | device id name => (BodyLine.device id name).line

def NameLine.name : NameLine → Text
  | vendor v => v.name
  | device _ name => name

/-! ### Rows -/

/-- `{ 0x<id>, ` -/
def rowStart (id : Text) : Text :=
  ['{', ' ', '0', 'x'] ++ id ++ [',', ' ']

/-- ` },` and the end of the line. -/
def rowEnd : Text :=
  [' ', '}', ',', newlineChar]

/-- `, dev_lst_<list> },` -/
def vendorRowEnd (list : Text) : Text :=
  [',', ' ', 'd', 'e', 'v', '_', 'l', 's', 't', '_'] ++ list ++ rowEnd

/-- The text of a row of one of the tables. -/
def Write.row? : Write → Option Text
  | vendorRow id name list =>
    some (rowStart id ++ quoteChar :: (name ++ quoteChar :: vendorRowEnd list))
  | deviceRow id name => some (rowStart id ++ quoteChar :: (name ++ quoteChar :: rowEnd))
  | _ => none

/-- The rows that are written. -/
def rows (ws : List Write) : List Text :=
  ws.filterMap Write.row?

/-- What is to stand behind the literal in the row of a line. -/
def NameLine.rest : NameLine → Text
  | vendor v => vendorRowEnd v.id.text
  | device _ _ => rowEnd

/-! ### Literals -/

/-- What the first string literal of a row stands for, and the text behind it. -/
def literalOf (row : Text) : Option (Text × Text) :=
  readLiteral (row.dropWhile (· ≠ quoteChar)).tail

/-- One row is written for the line; its literal stands for the name of the line, and what is to
stand behind it does. -/
def RoundTrips (zeroIsFirst : Bool) (s : State) (l : NameLine) : Prop :=
  ∃ row, rows (run s (entries zeroIsFirst l.line)) = [row] ∧
    literalOf row = some (l.name, l.rest)

end Vidix.Libdha.PciDb2c
