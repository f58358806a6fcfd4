import Vidix.Libdha.Pci

/-!
# `sysdep/pci_linux.c`: the files under `/proc`

The back end of a 64-bit Linux, on a little-endian machine (`le2me_16` and `le2me_32` do nothing).
The kernel shows function `F` of device `DD` on bus `BB` as the file `/proc/bus/pci/BB/DD.F`, both
numbers in two hexadecimal digits; the file has the 256 configuration bytes.
-/

namespace Vidix.Libdha

/-! ### The file system -/

/-- A hexadecimal digit, in lower case. -/
def hexValue (c : Char) : Option ℕ :=
  if '0' ≤ c ∧ c ≤ '9' then some (c.toNat - 48)
  else if 'a' ≤ c ∧ c ≤ 'f' then some (c.toNat - 87)
  else none

def hexValue2 (c1 c0 : Char) : Option ℕ := do return (← hexValue c1) * 16 + (← hexValue c0)

/-- `/proc/bus/pci/`. -/
def procDir : List Char := "/proc/bus/pci/".toList

/-- The function that a path below `/proc/bus/pci` names. -/
def procSlot : List Char → Option Slot
  | [b1, b0, '/', d1, d0, '.', f] => do
    let bus ← hexValue2 b1 b0
    let dev ← hexValue2 d1 d0
    let func ← hexValue f
    if dev < 32 ∧ func < 8 then some (Slot.ofNat bus dev func) else none
  | _ => none

/-- `open(path)`: the configuration bytes that the file shows, or no such file. -/
def ConfigSpace.openProc (cs : ConfigSpace) (path : List Char) : Option ConfigBytes :=
  if procDir.isPrefixOf path then (procSlot (path.drop procDir.length)).bind cs else none

namespace Linux

/-! ### Paths -/

def digitChar (n : ℕ) : Char := Char.ofNat (48 + n)

def hexDigitChar (n : ℕ) : Char := if n < 10 then digitChar n else Char.ofNat (87 + n)

/-- `%02d`. -/
def format02d (n : UInt8) : List Char :=
  let last := [digitChar (n.toNat / 10 % 10), digitChar (n.toNat % 10)]
  if n.toNat < 100 then last else digitChar (n.toNat / 100) :: last

/-- `%02x`. -/
def format02x (n : UInt8) : List Char :=
  [hexDigitChar (n.toNat / 16), hexDigitChar (n.toNat % 16)]

/-- `sprintf(path,"/proc/bus/pci/%02d/%02x.0", bus, dev)`. -/
def procPath (bus dev : UInt8) : List Char :=
  procDir ++ (format02d bus ++ ['/'] ++ format02x dev ++ ['.', '0'])

/-! ### The back end -/

/-- A `short` in an `int`. -/
def promoteShort (x : UInt16) : UInt32 := x.toInt16.toInt32.toUInt32

def pciGetVendor (cs : ConfigSpace) (bus dev : UInt8) (_func : UInt32) : UInt32 :=
  match cs.openProc (procPath bus dev) with
  | none => 0xFFFF
  | some c => promoteShort (c.word 0) + promoteShort (c.word 2) <<< 16

/-- `pread` puts four bytes into the `long` variable `retval`; `stack` is what was there before. -/
def pciConfigReadLong (cs : ConfigSpace) (stack : UInt64) (bus dev : UInt8) (_func cmd : UInt32) :
    UInt64 :=
  match cs.openProc (procPath bus dev) with
  | none => 0
  | some c =>
    if cmd ≤ 252 then (stack &&& 0xffffffff00000000) ||| (c.dword cmd.toUInt8).toUInt64
    else 0

end Linux

end Vidix.Libdha
