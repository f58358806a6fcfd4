import Vidix.Libdha.PciLinux
import Vidix.Libdha.Equiv.PciX86
import Vidix.Util.Word

/-!
# The `/proc` files against the ports

The path of the `/proc` back end has the bus in decimal, where the kernel's names are hexadecimal,
and always function 0, so that the file opened (`opened`) is in general not that of the function
asked for.  From the file the back end packs the two ids with a signed addition, which takes one
from the device id when the vendor id has its top bit set, and returns a `long` whose upper half it
never writes.

`linux_agrees_iff` says when all this does not show, and `linux_agrees_regular_iff` says it for the
functions whose file is opened.
-/

namespace Vidix.Libdha

open Util

/-! ### The file that is opened -/

/-- The configuration bytes in the file that the back end opens for a function. -/
def opened (cs : ConfigSpace) (slot : Slot) : Option ConfigBytes :=
  if slot.bus.val < 100 then
    cs (Slot.ofNat (slot.bus.val / 10 * 16 + slot.bus.val % 10) slot.dev.val 0)
  else none

theorem hexValue_digitChar {n : ℕ} (hn : n < 10) : hexValue (Linux.digitChar n) = some n := by
  have hall : ∀ n < 10, hexValue (Linux.digitChar n) = some n := by decide
  exact hall n hn

theorem hexValue_hexDigitChar {n : ℕ} (hn : n < 16) :
    hexValue (Linux.hexDigitChar n) = some n := by
  have hall : ∀ n < 16, hexValue (Linux.hexDigitChar n) = some n := by decide
  exact hall n hn

/-- The kernel's names have seven characters. -/
theorem procSlot_of_length {path : List Char} (h : path.length ≠ 7) : procSlot path = none := by
  unfold procSlot
  split
  · exact absurd rfl h
  · rfl

/-- A path of the back end names a file below bus 100 only, by the decimal digits of the bus. -/
theorem procSlot_path (bus : UInt8) {dev : UInt8} (hdev : dev.toNat < 32) :
    procSlot (Linux.format02d bus ++ ['/'] ++ Linux.format02x dev ++ ['.', '0']) =
      if bus.toNat < 100 then
        some (Slot.ofNat (bus.toNat / 10 * 16 + bus.toNat % 10) dev.toNat 0)
      else none := by
  unfold Linux.format02d Linux.format02x
  dsimp only
  by_cases hbus : bus.toNat < 100
  · have hdev' : dev.toNat / 16 * 16 + dev.toNat % 16 = dev.toNat := by omega
    have hten : bus.toNat / 10 % 10 = bus.toNat / 10 := by omega
    rw [if_pos hbus, if_pos hbus]
    simp only [List.cons_append, List.nil_append, procSlot, hexValue2]
    rw [hexValue_digitChar (by omega), hexValue_digitChar (by omega),
      hexValue_hexDigitChar (by omega), hexValue_hexDigitChar (by omega),
      show hexValue '0' = some 0 from by decide, hten]
    simp only [Option.bind_eq_bind, Option.bind_some, Option.pure_def, hdev']
    rw [if_pos ⟨hdev, by decide⟩]
  · -- three decimal digits make the name too long
    rw [if_neg hbus, if_neg hbus]
    exact procSlot_of_length (by simp)

theorem openProc_path (cs : ConfigSpace) (slot : Slot) :
    cs.openProc (Linux.procPath slot.busArg slot.devArg) = opened cs slot := by
  unfold ConfigSpace.openProc Linux.procPath opened
  have hdir : ∀ l : List Char, procDir.isPrefixOf (procDir ++ l) = true := fun l =>
    List.isPrefixOf_iff_prefix.mpr (List.prefix_append _ _)
  rw [if_pos (hdir _), List.drop_left, procSlot_path _ (by simp), slot.busArg_toNat,
    slot.devArg_toNat]
  split_ifs <;> rfl

/-! ### What it says -/

/-- The unit that a vendor id with its top bit set takes from the device id. -/
def borrow (vendor : UInt16) : UInt16 := if vendor < 0x8000 then 0 else 1

theorem packed_toNat (v d : UInt16) :
    (Linux.promoteShort v + Linux.promoteShort d <<< 16).toNat =
      ((if v.toNat < 2 ^ 15 then v.toNat else v.toNat + (2 ^ 32 - 2 ^ 16)) +
        d.toNat * 2 ^ 16) % 2 ^ 32 := by
  have hd : (Linux.promoteShort d <<< 16).toNat = d.toNat * 2 ^ 16 := by
    have hlt : d.toNat < 2 ^ 16 := d.toNat_lt
    have hp : (Linux.promoteShort d).toNat = _ := toNat_signExtend d
    rw [UInt32.toNat_shiftLeft, hp, Nat.shiftLeft_eq]
    show _ * 2 ^ 16 % 2 ^ 32 = _
    split_ifs <;> omega
  have hv : (Linux.promoteShort v).toNat = _ := toNat_signExtend v
  rw [UInt32.toNat_add, hd, hv]

/-- The vendor id survives the packing. -/
theorem packed_vendor (v d : UInt16) :
    (Linux.promoteShort v + Linux.promoteShort d <<< 16).toUInt16 = v := by
  have hv : v.toNat < 2 ^ 16 := v.toNat_lt
  apply UInt16.toNat_inj.mp
  rw [UInt32.toNat_toUInt16, packed_toNat]
  split_ifs <;> omega

/-- The device id comes out of the packing less the unit borrowed. -/
theorem packed_device (v d : UInt16) :
    ((Linux.promoteShort v + Linux.promoteShort d <<< 16) >>> 16).toUInt16 = d - borrow v := by
  have hv : v.toNat < 2 ^ 16 := v.toNat_lt
  have hd : d.toNat < 2 ^ 16 := d.toNat_lt
  have hlt : v < 0x8000 ↔ v.toNat < 2 ^ 15 := UInt16.lt_iff_toNat_lt
  apply UInt16.toNat_inj.mp
  rw [UInt32.toNat_toUInt16, UInt32.toNat_shiftRight, packed_toNat, UInt16.toNat_sub, borrow,
    Nat.shiftRight_eq_div_pow]
  -- a sign extension is `2 ^ 32 - 2 ^ 16` too much, which is one unit too few above bit 16
  show _ / 2 ^ 16 % 2 ^ 16 = _
  by_cases h : v.toNat < 2 ^ 15
  · rw [if_pos h, if_pos (hlt.mpr h)]
    show _ = (2 ^ 16 - 0 + _) % 2 ^ 16
    omega
  · rw [if_neg h, if_neg (fun h' => h (hlt.mp h'))]
    show _ = (2 ^ 16 - 1 + _) % 2 ^ 16
    omega

/-! ### The two back ends -/

/-- The vendor id behind some configuration bytes, if any. -/
def vendorId (o : Option ConfigBytes) : UInt16 := (o.map fun c => c.word 0).getD 0xFFFF

section

variable (cs : ConfigSpace) (stack : UInt64) (slot : Slot) (cmd : UInt8)

/-- Both back ends give the scan the same for a register of a function: the same vendor id, and
unless that is the one of an absent function the same device id and register value. -/
def Agree : Prop :=
  let proc := Linux.pciGetVendor cs slot.busArg slot.devArg slot.funcArg
  let port := X86.pciGetVendor cs slot.busArg slot.devArg slot.funcArg
  proc.toUInt16 = 0xFFFF ∧ port.toUInt16 = 0xFFFF ∨
    proc.toUInt16 = port.toUInt16 ∧ (proc >>> 16).toUInt16 = (port >>> 16).toUInt16 ∧
      Linux.pciConfigReadLong cs stack slot.busArg slot.devArg slot.funcArg cmd.toUInt32 =
        X86.pciConfigReadLong cs slot.busArg slot.devArg slot.funcArg cmd.toUInt32

/-- Four bytes at a register, and nothing above them, are what the ports read at it. -/
def SameRegister (file addressed : ConfigBytes) : Prop :=
  if cmd ≤ 252 then stack >>> 32 = 0 ∧ file.dword cmd = addressed.dword (cmd &&& 0xfc)
  else addressed.dword (cmd &&& 0xfc) = 0

/-- The file opened stands for the function addressed: both are absent, or both are there and the
file has the same vendor id, the same register, and the device id that makes up for the borrow. -/
def StandsFor : Prop :=
  vendorId (opened cs slot) = 0xFFFF ∧ vendorId (cs slot) = 0xFFFF ∨
    ∃ file addressed, opened cs slot = some file ∧ cs slot = some addressed ∧
      file.word 0 = addressed.word 0 ∧ file.word 2 - borrow (file.word 0) = addressed.word 2 ∧
      SameRegister stack cmd file addressed

end

theorem linux_pciGetVendor (cs : ConfigSpace) (slot : Slot) :
    Linux.pciGetVendor cs slot.busArg slot.devArg slot.funcArg =
      ((opened cs slot).map fun c =>
        Linux.promoteShort (c.word 0) + Linux.promoteShort (c.word 2) <<< 16).getD 0xFFFF := by
  rw [Linux.pciGetVendor, openProc_path]
  cases opened cs slot <;> rfl

/-- The register of an opened file, as a `long`, is a register of 32 bits. -/
theorem linux_pciConfigReadLong_eq_iff {cs : ConfigSpace} {slot : Slot} {file : ConfigBytes}
    (hfile : opened cs slot = some file) (stack : UInt64) (cmd : UInt8) (x : UInt32) :
    Linux.pciConfigReadLong cs stack slot.busArg slot.devArg slot.funcArg cmd.toUInt32 =
        x.toUInt64 ↔
      if cmd ≤ 252 then stack >>> 32 = 0 ∧ file.dword cmd = x else x = 0 := by
  rw [Linux.pciConfigReadLong, openProc_path, hfile]
  dsimp only
  have hle : cmd.toUInt32 ≤ 252 ↔ cmd ≤ 252 := by
    rw [UInt32.le_iff_toNat_le, UInt8.le_iff_toNat_le, UInt8.toNat_toUInt32]
    rfl
  by_cases h : cmd ≤ 252
  · rw [if_pos (hle.mpr h), if_pos h, UInt8.toUInt8_toUInt32]
    exact high_or_eq_iff stack _ _
  · rw [if_neg (fun h' => h (hle.mp h')), if_neg h]
    constructor
    · intro h0
      apply UInt32.toNat_inj.mp
      have := congrArg UInt64.toNat h0
      rw [UInt32.toNat_toUInt64] at this
      exact this.symm
    · rintro rfl
      rfl

theorem linux_vendor (cs : ConfigSpace) (slot : Slot) :
    (Linux.pciGetVendor cs slot.busArg slot.devArg slot.funcArg).toUInt16 =
      vendorId (opened cs slot) := by
  rw [linux_pciGetVendor]
  cases opened cs slot with
  | none => rfl
  | some file => exact packed_vendor _ _

theorem x86_vendor (cs : ConfigSpace) (slot : Slot) :
    (X86.pciGetVendor cs slot.busArg slot.devArg slot.funcArg).toUInt16 = vendorId (cs slot) := by
  rw [X86.pciGetVendor_slot]
  cases cs slot with
  | none => rfl
  | some addressed => exact addressed.dword_low 0

/-- A vendor id other than `0xFFFF` comes from a function that is there. -/
theorem exists_of_vendorId {o : Option ConfigBytes} (h : vendorId o ≠ 0xFFFF) :
    ∃ c, o = some c := by
  cases o with
  | none => exact absurd rfl h
  | some c => exact ⟨c, rfl⟩

/-- For a file and a function that are there, the ids and the registers agree when they do. -/
theorem agree_some_iff {cs : ConfigSpace} {slot : Slot} {file addressed : ConfigBytes}
    (hfile : opened cs slot = some file) (haddr : cs slot = some addressed) (stack : UInt64)
    (cmd : UInt8) :
    (Linux.pciGetVendor cs slot.busArg slot.devArg slot.funcArg >>> 16).toUInt16 =
          (X86.pciGetVendor cs slot.busArg slot.devArg slot.funcArg >>> 16).toUInt16 ∧
        Linux.pciConfigReadLong cs stack slot.busArg slot.devArg slot.funcArg cmd.toUInt32 =
          X86.pciConfigReadLong cs slot.busArg slot.devArg slot.funcArg cmd.toUInt32 ↔
      file.word 2 - borrow (file.word 0) = addressed.word 2 ∧
        SameRegister stack cmd file addressed := by
  rw [linux_pciGetVendor, X86.pciGetVendor_slot, X86.pciConfigReadLong_slot, hfile, haddr]
  refine and_congr ?_ (linux_pciConfigReadLong_eq_iff hfile stack cmd _)
  rw [Option.map_some, Option.getD_some, Option.map_some, Option.getD_some, packed_device,
    ConfigBytes.dword_high]
  rfl

/-- Where the back ends agree, the file opened stands for the function. -/
theorem Agree.standsFor {cs : ConfigSpace} {stack : UInt64} {slot : Slot} {cmd : UInt8}
    (h : Agree cs stack slot cmd) : StandsFor cs stack slot cmd := by
  unfold Agree at h
  dsimp only at h
  rw [linux_vendor, x86_vendor] at h
  rcases h with habsent | ⟨hvendor, hrest⟩
  · exact .inl habsent
  · -- the same vendor id may still be that of an absent function
    by_cases hff : vendorId (cs slot) = 0xFFFF
    · exact .inl ⟨hvendor.trans hff, hff⟩
    · obtain ⟨addressed, haddr⟩ := exists_of_vendorId hff
      obtain ⟨file, hfile⟩ := exists_of_vendorId (hvendor ▸ hff)
      rw [hfile, haddr] at hvendor
      obtain ⟨hdevice, hreg⟩ := (agree_some_iff hfile haddr stack cmd).mp hrest
      exact .inr ⟨file, addressed, hfile, haddr, hvendor, hdevice, hreg⟩

/-- Where the file opened stands for the function, the back ends agree. -/
theorem StandsFor.agree {cs : ConfigSpace} {stack : UInt64} {slot : Slot} {cmd : UInt8}
    (h : StandsFor cs stack slot cmd) : Agree cs stack slot cmd := by
  unfold Agree
  dsimp only
  rw [linux_vendor, x86_vendor]
  rcases h with habsent | ⟨file, addressed, hfile, haddr, hvendor, hrest⟩
  · exact .inl habsent
  · refine .inr ⟨?_, (agree_some_iff hfile haddr stack cmd).mpr hrest⟩
    rw [hfile, haddr]
    exact hvendor

/-- **The `/proc` back end refines the ports exactly where the file opened stands for the
function.** -/
theorem linux_agrees_iff (cs : ConfigSpace) (stack : UInt64) (slot : Slot) (cmd : UInt8) :
    Agree cs stack slot cmd ↔ StandsFor cs stack slot cmd :=
  ⟨Agree.standsFor, StandsFor.agree⟩

/-- The file of function 0 of a device on one of the first ten buses is the right one. -/
theorem opened_of_bus_lt {cs : ConfigSpace} {slot : Slot} (hbus : slot.bus.val < 10)
    (hfunc : slot.func = 0) : opened cs slot = cs slot := by
  have hten : slot.bus.val / 10 * 16 + slot.bus.val % 10 = slot.bus.val := by omega
  rw [opened, if_pos (by omega), hten]
  have hzero : slot.func.val = 0 := by rw [hfunc]; rfl
  rw [← hzero, Slot.ofNat_val]

/-- Where the right file is opened, an aligned register agrees unless the vendor id has its top bit
set or the stack had something above it. -/
theorem linux_agrees_regular_iff (cs : ConfigSpace) (stack : UInt64) {slot : Slot} {cmd : UInt8}
    (hbus : slot.bus.val < 10) (hfunc : slot.func = 0) (hcmd : cmd &&& 0xfc = cmd) :
    Agree cs stack slot cmd ↔
      vendorId (cs slot) = 0xFFFF ∨ vendorId (cs slot) < 0x8000 ∧ stack >>> 32 = 0 := by
  have hle : cmd ≤ 252 := hcmd ▸ UInt8.and_le_right
  have hzero : ∀ v d : UInt16, d - borrow v = d ↔ v < 0x8000 := by
    intro v d
    unfold borrow
    split_ifs with h
    · exact iff_of_true (UInt16.sub_zero d) h
    · refine iff_of_false (fun h1 => ?_) h
      have h2 := congrArg UInt16.toNat h1
      have hd : d.toNat < 2 ^ 16 := d.toNat_lt
      rw [UInt16.toNat_sub, show (1 : UInt16).toNat = 1 from rfl] at h2
      omega
  rw [show Agree cs stack slot cmd ↔ _ from ⟨Agree.standsFor, StandsFor.agree⟩, StandsFor,
    opened_of_bus_lt hbus hfunc]
  by_cases hff : vendorId (cs slot) = 0xFFFF
  · exact iff_of_true (.inl ⟨hff, hff⟩) (.inl hff)
  · obtain ⟨c, hc⟩ := exists_of_vendorId hff
    rw [or_iff_right (fun h => hff h.1), or_iff_right hff, hc]
    constructor
    · rintro ⟨file, addressed, hf, ha, -, hdev, hreg⟩
      obtain rfl := Option.some.inj hf
      obtain rfl := Option.some.inj ha
      rw [SameRegister, if_pos hle] at hreg
      exact ⟨(hzero _ _).mp hdev, hreg.1⟩
    · rintro ⟨hvendor, hstack⟩
      refine ⟨c, c, rfl, rfl, rfl, (hzero _ _).mpr hvendor, ?_⟩
      rw [SameRegister, if_pos hle, hcmd]
      exact ⟨hstack, rfl⟩

/-- **The device id `0x2448` of an Intel bridge is read as `0x2447` from `/proc`.** -/
theorem linux_intelBridge : ¬ Agree intelBridge 0 ⟨0, 0, 0⟩ 0x08 ∧
    (Linux.pciGetVendor intelBridge 0 0 0 >>> 16).toUInt16 = 0x2447 ∧
    (X86.pciGetVendor intelBridge 0 0 0 >>> 16).toUInt16 = 0x2448 := by
  unfold Agree
  decide +kernel

end Vidix.Libdha
