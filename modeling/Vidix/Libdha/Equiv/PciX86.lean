import Vidix.Libdha.PciX86
import Mathlib.Data.Nat.Bitwise

/-!
# What the ports answer

The address that `pci_x86.c` writes to port `0xCF8` selects the function it was built from
(`mode1Slot_configAddr`), so that the back end reads the configuration bytes of that function
(`pciGetVendor_eq`, `pciConfigReadLong_eq`), and all ones when there is none.
-/

namespace Vidix.Libdha

/-! ### Slots -/

@[simp] theorem Slot.busArg_toNat (slot : Slot) : slot.busArg.toNat = slot.bus.val :=
  Nat.mod_eq_of_lt slot.bus.isLt

@[simp] theorem Slot.devArg_toNat (slot : Slot) : slot.devArg.toNat = slot.dev.val :=
  Nat.mod_eq_of_lt (Nat.lt_trans slot.dev.isLt (by decide))

@[simp] theorem Slot.funcArg_toNat (slot : Slot) : slot.funcArg.toNat = slot.func.val :=
  Nat.mod_eq_of_lt (Nat.lt_trans slot.func.isLt (by decide))

@[simp] theorem Slot.ofNat_val (slot : Slot) :
    Slot.ofNat slot.bus.val slot.dev.val slot.func.val = slot := by
  unfold Slot.ofNat
  rw [Fin.ofNat_val_eq_self, Fin.ofNat_val_eq_self, Fin.ofNat_val_eq_self]

/-! ### Addresses -/

/-- The fields of an address do not overlap. -/
theorem configCmd_toNat (bus : UInt8) {dev : UInt8} {func : UInt32} (hdev : dev.toNat < 32)
    (hfunc : func.toNat < 8) :
    (configCmd bus dev func).toNat =
      2 ^ 31 + (bus.toNat * 2 ^ 16 + (dev.toNat * 2 ^ 11 + func.toNat * 2 ^ 8)) := by
  have hbus : bus.toNat < 256 := bus.toNat_lt
  have hb : (bus.toUInt32 <<< 16).toNat = 2 ^ 16 * bus.toNat := by
    simp [UInt32.toNat_shiftLeft, Nat.shiftLeft_eq]
    omega
  have hd : (dev.toUInt32 <<< 11).toNat = 2 ^ 11 * dev.toNat := by
    simp [UInt32.toNat_shiftLeft, Nat.shiftLeft_eq]
    omega
  have hf : (func <<< 8).toNat = 2 ^ 8 * func.toNat := by
    simp [UInt32.toNat_shiftLeft, Nat.shiftLeft_eq]
    omega
  unfold configCmd
  rw [UInt32.toNat_or, UInt32.toNat_or, UInt32.toNat_or, hb, hd, hf, Nat.or_assoc, Nat.or_assoc,
    ← Nat.two_pow_add_eq_or_of_lt (by omega : 2 ^ 8 * func.toNat < 2 ^ 11) dev.toNat,
    ← Nat.two_pow_add_eq_or_of_lt
      (by omega : 2 ^ 11 * dev.toNat + 2 ^ 8 * func.toNat < 2 ^ 16) bus.toNat,
    show (0x80000000 : UInt32).toNat = 2 ^ 31 * 1 from rfl,
    ← Nat.two_pow_add_eq_or_of_lt
      (by omega : 2 ^ 16 * bus.toNat + (2 ^ 11 * dev.toNat + 2 ^ 8 * func.toNat) < 2 ^ 31) 1]
  omega

/-- A register number goes into the bits below. -/
theorem configAddr_toNat (bus : UInt8) {dev : UInt8} {func : UInt32} (hdev : dev.toNat < 32)
    (hfunc : func.toNat < 8) (cmd : UInt8) :
    (configCmd bus dev func ||| cmd.toUInt32).toNat =
      2 ^ 31 + (bus.toNat * 2 ^ 16 + (dev.toNat * 2 ^ 11 + (func.toNat * 2 ^ 8 + cmd.toNat))) := by
  have hcmd : cmd.toNat < 2 ^ 8 := cmd.toNat_lt
  rw [UInt32.toNat_or, configCmd_toNat bus hdev hfunc, UInt8.toNat_toUInt32,
    show 2 ^ 31 + (bus.toNat * 2 ^ 16 + (dev.toNat * 2 ^ 11 + func.toNat * 2 ^ 8)) =
      2 ^ 8 * (2 ^ 23 + (bus.toNat * 2 ^ 8 + (dev.toNat * 2 ^ 3 + func.toNat))) by omega,
    ← Nat.two_pow_add_eq_or_of_lt hcmd]
  omega

theorem mode1Slot_configAddr (bus : UInt8) {dev : UInt8} {func : UInt32} (hdev : dev.toNat < 32)
    (hfunc : func.toNat < 8) (cmd : UInt8) :
    mode1Slot (configCmd bus dev func ||| cmd.toUInt32) =
      Slot.ofNat bus.toNat dev.toNat func.toNat := by
  have hcmd : cmd.toNat < 2 ^ 8 := cmd.toNat_lt
  have haddr := configAddr_toNat bus hdev hfunc cmd
  unfold mode1Slot Slot.ofNat
  rw [UInt32.toNat_shiftRight, UInt32.toNat_shiftRight, UInt32.toNat_shiftRight, haddr]
  simp only [Slot.mk.injEq, Fin.ofNat, Fin.mk.injEq, Nat.shiftRight_eq_div_pow]
  refine ⟨?_, ?_, ?_⟩
  · show _ / 2 ^ 16 % 256 = _
    omega
  · show _ / 2 ^ 11 % 32 = _
    omega
  · show _ / 2 ^ 8 % 8 = _
    omega

theorem mode1Reg_configAddr (bus : UInt8) {dev : UInt8} {func : UInt32} (hdev : dev.toNat < 32)
    (hfunc : func.toNat < 8) (cmd : UInt8) :
    mode1Reg (configCmd bus dev func ||| cmd.toUInt32) = cmd &&& 0xfc := by
  have hlow : (configCmd bus dev func ||| cmd.toUInt32).toUInt8 = cmd := by
    apply UInt8.toNat_inj.mp
    rw [UInt32.toNat_toUInt8, configAddr_toNat bus hdev hfunc]
    have hcmd : cmd.toNat < 2 ^ 8 := cmd.toNat_lt
    omega
  rw [mode1Reg, UInt32.toUInt8_and, hlow]
  rfl

/-- Every address that the back end builds is enabled. -/
theorem configAddr_enabled (bus dev : UInt8) (func cmd : UInt32) :
    ¬ (configCmd bus dev func ||| cmd) &&& 0x80000000 = 0 := by
  have habsorb : ∀ x : UInt32, (0x80000000 ||| x) &&& 0x80000000 = 0x80000000 := by
    intro x
    apply UInt32.toBitVec_inj.mp
    ext i hi
    simp only [UInt32.toBitVec_and, UInt32.toBitVec_or, BitVec.getElem_and, BitVec.getElem_or]
    cases (0x80000000 : UInt32).toBitVec[i] <;> simp
  unfold configCmd
  rw [UInt32.or_assoc, UInt32.or_assoc, UInt32.or_assoc, habsorb]
  decide

/-! ### Reads -/

/-- The registers of the function that an address was built from. -/
theorem mode1In32_configAddr (cs : ConfigSpace) (bus : UInt8) {dev : UInt8} {func : UInt32}
    (hdev : dev.toNat < 32) (hfunc : func.toNat < 8) (cmd : UInt8) :
    cs.mode1In32 (configCmd bus dev func ||| cmd.toUInt32) =
      ((cs (Slot.ofNat bus.toNat dev.toNat func.toNat)).map fun c =>
        c.dword (cmd &&& 0xfc)).getD 0xffffffff := by
  rw [ConfigSpace.mode1In32, if_neg (configAddr_enabled _ _ _ _),
    mode1Slot_configAddr bus hdev hfunc, mode1Reg_configAddr bus hdev hfunc]

theorem X86.pciGetVendor_eq (cs : ConfigSpace) (bus : UInt8) {dev : UInt8} {func : UInt32}
    (hdev : dev.toNat < 32) (hfunc : func.toNat < 8) :
    pciGetVendor cs bus dev func =
      ((cs (Slot.ofNat bus.toNat dev.toNat func.toNat)).map fun c => c.dword 0).getD
        0xffffffff := by
  have h := mode1In32_configAddr cs bus hdev hfunc 0
  rw [show (0 : UInt8).toUInt32 = 0 from rfl, UInt32.or_zero] at h
  exact h

theorem X86.pciConfigReadLong_eq (cs : ConfigSpace) (bus : UInt8) {dev : UInt8} {func : UInt32}
    (hdev : dev.toNat < 32) (hfunc : func.toNat < 8) (cmd : UInt8) :
    pciConfigReadLong cs bus dev func cmd.toUInt32 =
      (((cs (Slot.ofNat bus.toNat dev.toNat func.toNat)).map fun c : ConfigBytes =>
        c.dword (cmd &&& 0xfc)).getD 0xffffffff).toUInt64 := by
  rw [pciConfigReadLong, mode1In32_configAddr cs bus hdev hfunc]

theorem X86.pciGetVendor_slot (cs : ConfigSpace) (slot : Slot) :
    pciGetVendor cs slot.busArg slot.devArg slot.funcArg =
      ((cs slot).map fun c => c.dword 0).getD 0xffffffff := by
  rw [pciGetVendor_eq cs slot.busArg (by simp) (by simp)]
  simp

theorem X86.pciConfigReadLong_slot (cs : ConfigSpace) (slot : Slot) (cmd : UInt8) :
    pciConfigReadLong cs slot.busArg slot.devArg slot.funcArg cmd.toUInt32 =
      (((cs slot).map fun c : ConfigBytes => c.dword (cmd &&& 0xfc)).getD
        0xffffffff).toUInt64 := by
  rw [pciConfigReadLong_eq cs slot.busArg (by simp) (by simp)]
  simp

/-! ### Ids -/

@[simp] theorem ConfigBytes.dword_low (c : ConfigBytes) (o : UInt8) :
    (c.dword o).toUInt16 = c.word o := by
  apply UInt16.toBitVec_inj.mp
  ext i hi
  simp [ConfigBytes.dword]

@[simp] theorem ConfigBytes.dword_high (c : ConfigBytes) (o : UInt8) :
    (c.dword o >>> 16).toUInt16 = c.word (o + 2) := by
  apply UInt16.toBitVec_inj.mp
  ext i hi
  have h1 : 16 + i < 32 := by omega
  have h2 : i < 32 := by omega
  simp [ConfigBytes.dword, h1, h2, BitVec.getLsbD_eq_getElem hi]

/-! ### Sample bytes -/

/-- The configuration bytes with the given values, and zeros. -/
def configBytes (l : List (UInt8 × UInt8)) : ConfigBytes := fun o => (l.lookup o).getD 0

/-- A PCI-PCI bridge that claims the secondary bus `n`. -/
def bridgeTo (n : UInt8) : ConfigBytes :=
  configBytes [(0x00, 0x86), (0x01, 0x80), (0x02, 0x48), (0x03, 0x24), (0x0a, 0x04), (0x0b, 0x06),
    (0x0e, 0x01), (0x19, n)]

/-- An Intel bridge in slot 0 of bus 0: its vendor id, `0x8086`, has the top bit set. -/
def intelBridge : ConfigSpace := fun slot =>
  if slot = Slot.ofNat 0 0 0 then some (bridgeTo 1) else none

end Vidix.Libdha
