import Vidix.Libdha.Equiv.PciScan
import Vidix.Util.Word
import Mathlib.Data.Fin.VecNotation
import Mathlib.Tactic.FinCases

/-!
# The base addresses of the scan

A base address register says by its bit 0 which space it decodes, and by that how many of its low
bits are flags.  `identify_card` clears the flags of each of the six registers, but takes the kind
of the last three from the first three.

`identifyCard_bases_iff` says when all six addresses are right all the same, and `pciScan_bases`
carries it to the list that a scan returns.
-/

namespace Vidix.Libdha

open Util

/-! ### Base address registers -/

/-- The space that a base address register decodes. -/
inductive SpaceKind
  | io
  | memory
  deriving DecidableEq, Repr

/-- How many of the low bits are flags. -/
def SpaceKind.flagBits : SpaceKind → ℕ
  | .io => 2
  | .memory => 4

/-- The kind of a register, by its bit 0. -/
def spaceKind (register : UInt32) : SpaceKind := if register.toNat % 2 = 1 then .io else .memory

/-- The address in a register: all ones when the register is not there, and else what is left
without the flags. -/
def decodedBase (register : UInt32) : ℕ :=
  if register = 0 then 0xFFFFFFFF
  else
    register.toNat / 2 ^ (spaceKind register).flagBits * 2 ^ (spaceKind register).flagBits

/-- The six registers as the scan has them, in words that are longer than a register. -/
def PciConfigReg.base (r : PciConfigReg) : Fin 6 → UInt64 :=
  ![r.base0, r.base1, r.base2, r.base3, r.base4, r.base5]

/-- The six addresses of an entry. -/
def Pciinfo.base (e : Pciinfo) : Fin 6 → UInt64 :=
  ![e.base0, e.base1, e.base2, e.base3, e.base4, e.base5]

/-- The register that `identify_card` asks for the kind of register `k`. -/
def kindSource (k : Fin 6) : Fin 6 := ⟨k.val % 3, by omega⟩

/-- Register `k` is read for what it is: a word that holds zero is zero in its upper half too, and
the register asked for the kind is of the same kind, or bits 2 and 3 do not matter. -/
def KindAgrees (r : PciConfigReg) (k : Fin 6) : Prop :=
  ((r.base k).toUInt32 = 0 → r.base k = 0) ∧
    (spaceKind (r.base (kindSource k)).toUInt32 = spaceKind (r.base k).toUInt32 ∨
      (r.base k).toNat / 4 % 4 = 0)

instance (r : PciConfigReg) (k : Fin 6) : Decidable (KindAgrees r k) :=
  inferInstanceAs (Decidable (_ ∧ _))

/-! ### One register -/

theorem toNat_and_flagMask (base : UInt64) (kind : SpaceKind) :
    (base &&& (if kind = .memory then 0xFFFFFFF0 else 0xFFFFFFFC)).toNat =
      base.toNat % 2 ^ 32 / 2 ^ kind.flagBits * 2 ^ kind.flagBits := by
  cases kind with
  | io =>
    rw [if_neg (by decide), UInt64.toNat_and,
      show (0xFFFFFFFC : UInt64).toNat = (2 ^ 30 - 1) * 2 ^ 2 from rfl, and_field]
    show _ = _ / 2 ^ 2 * 2 ^ 2
    omega
  | memory =>
    rw [if_pos rfl, UInt64.toNat_and,
      show (0xFFFFFFF0 : UInt64).toNat = (2 ^ 28 - 1) * 2 ^ 4 from rfl, and_field]
    show _ = _ / 2 ^ 4 * 2 ^ 4
    omega

theorem and_one_eq_zero_iff (kind : UInt64) :
    kind &&& 1 = 0 ↔ spaceKind kind.toUInt32 = .memory := by
  have hand : (kind &&& 1).toNat = kind.toNat % 2 := by
    rw [UInt64.toNat_and]
    exact Nat.and_one_is_mod _
  have hlow : kind.toUInt32.toNat = kind.toNat % 2 ^ 32 := UInt64.toNat_toUInt32 kind
  rw [← UInt64.toNat_inj, hand, spaceKind, hlow]
  show kind.toNat % 2 = 0 ↔ _
  split_ifs with h
  · exact iff_of_false (by omega) (by decide)
  · exact iff_of_true (by omega) rfl

/-- What `identify_card` reports of a register that is not zero. -/
theorem toNat_baseAddr {base : UInt64} (kind : UInt64) (hbase : base ≠ 0) :
    (baseAddr base kind).toNat =
      base.toNat % 2 ^ 32 / 2 ^ (spaceKind kind.toUInt32).flagBits *
        2 ^ (spaceKind kind.toUInt32).flagBits := by
  rw [← toNat_and_flagMask, baseAddr, if_neg hbase]
  simp only [and_one_eq_zero_iff]

/-- The two masks differ in bits 2 and 3 only. -/
theorem clearFlags_eq_iff (n : ℕ) (x y : SpaceKind) :
    n / 2 ^ x.flagBits * 2 ^ x.flagBits = n / 2 ^ y.flagBits * 2 ^ y.flagBits ↔
      x = y ∨ n / 4 % 4 = 0 := by
  cases x <;> cases y <;> simp only [SpaceKind.flagBits, true_or, reduceCtorEq, false_or] <;> omega

/-- **An address is right iff the kind is**, up to flags that are clear. -/
theorem baseAddr_eq_iff (base kind : UInt64) :
    (baseAddr base kind).toNat = decodedBase base.toUInt32 ↔
      (base.toUInt32 = 0 → base = 0) ∧
        (spaceKind kind.toUInt32 = spaceKind base.toUInt32 ∨ base.toNat / 4 % 4 = 0) := by
  have hlow : base.toUInt32.toNat = base.toNat % 2 ^ 32 := UInt64.toNat_toUInt32 base
  by_cases hbase : base = 0
  · subst hbase
    exact iff_of_true rfl ⟨fun _ => rfl, .inr rfl⟩
  by_cases hreg : base.toUInt32 = 0
  · -- the upper half makes a register that is not there look like one at address 0
    have hzero : base.toNat % 2 ^ 32 = 0 := by rw [← hlow, hreg]; rfl
    rw [toNat_baseAddr kind hbase, decodedBase, if_pos hreg, hzero, Nat.zero_div, Nat.zero_mul]
    exact iff_of_false (by decide) fun h => hbase (h.1 hreg)
  · rw [toNat_baseAddr kind hbase, decodedBase, if_neg hreg, hlow, clearFlags_eq_iff]
    have hbits : base.toNat % 2 ^ 32 / 4 % 4 = base.toNat / 4 % 4 := by omega
    rw [hbits]
    exact ⟨fun h => ⟨fun h0 => absurd h0 hreg, h⟩, fun h => h.2⟩

/-! ### The six registers of a card -/

theorem identifyEntry_base (bus : UInt8) (card : UInt16) (func : UInt32) (pcr : PciConfigReg)
    (k : Fin 6) :
    (identifyEntry bus card func pcr).base k =
      baseAddr (pcr.base k) (pcr.base (kindSource k)) := by
  fin_cases k <;> rfl

/-- The addresses of an entry are those in the registers. -/
def RightBases (pcr : PciConfigReg) (e : Pciinfo) : Prop :=
  ∀ k, (e.base k).toNat = decodedBase (pcr.base k).toUInt32

theorem rightBases_iff (bus : UInt8) (card : UInt16) (func : UInt32) (pcr : PciConfigReg) :
    RightBases pcr (identifyEntry bus card func pcr) ↔ ∀ k, KindAgrees pcr k := by
  refine forall_congr' fun k => ?_
  rw [identifyEntry_base]
  exact baseAddr_eq_iff _ _

/-- **When the six addresses are right.**  For every card, all contents of its registers and every
list with room: `identify_card` appends an entry whose six addresses are each decoded from its own
register iff each register is read for what it is. -/
theorem identifyCard_bases_iff (bus : UInt8) (card : UInt16) (func : UInt32) (pcr : PciConfigReg)
    {s : ScanState} (hroom : s.pciLst.length < maxPciDevices) :
    (∃ e, (identifyCard (identifyEntry bus card func pcr) s).pciLst = s.pciLst ++ [e] ∧
        RightBases pcr e) ↔ ∀ k, KindAgrees pcr k := by
  have hlst : (identifyCard (identifyEntry bus card func pcr) s).pciLst =
      s.pciLst ++ [identifyEntry bus card func pcr] := by
    rw [identifyCard, if_neg (Nat.not_le.mpr hroom)]
  rw [hlst, ← rightBases_iff bus card func]
  constructor
  · rintro ⟨e, he, hbases⟩
    obtain ⟨rfl⟩ := List.singleton_inj.mp (List.append_cancel_left he)
    exact hbases
  · exact fun h => ⟨_, rfl, h⟩

/-- A card with an I/O register first and a memory register as its fourth. -/
def mixedCard : PciConfigReg where
  deviceVendor := 0x47521002
  statusCommand := 0x02900007
  classRevision := 0x03000000
  bistHeaderLatencyCache := 0x00004008
  base0 := 0xC001
  base1 := 0
  base2 := 0
  base3 := 0xE0000008
  base4 := 0
  base5 := 0
  baserom := 0
  maxMinIpinIline := 0x0000010B

/-- A card with memory registers only. -/
theorem identifyCard_bases_memory :
    scanStart.pciLst.length < maxPciDevices ∧
      ∃ e, (identifyCard (identifyEntry 1 0 0 { mixedCard with base0 := 0xD0000008 })
          scanStart).pciLst = [e] ∧
        RightBases { mixedCard with base0 := 0xD0000008 } e :=
  ⟨by decide, (identifyCard_bases_iff 1 0 0 { mixedCard with base0 := 0xD0000008 }
    (s := scanStart) (by decide)).mpr (by decide)⟩

/-- **The fourth register loses too few bits** when the first one is an I/O register: the prefetch
flag stays in the address. -/
theorem identifyCard_mixed :
    (identifyCard (identifyEntry 1 0 0 mixedCard) scanStart).pciLst.map Pciinfo.base3 =
        [0xE0000008] ∧
      decodedBase mixedCard.base3.toUInt32 = 0xE0000000 ∧
      ¬ ∃ e, (identifyCard (identifyEntry 1 0 0 mixedCard) scanStart).pciLst = [e] ∧
        RightBases mixedCard e := by
  refine ⟨by decide, by decide, ?_⟩
  rintro ⟨e, he, hbases⟩
  obtain ⟨rfl⟩ := List.singleton_inj.mp he
  exact absurd (hbases 3) (by decide)

/-! ### The list of a scan -/

/-- The registers that the scan reads for the function of an entry. -/
def registersOf (b : Backend) (e : Pciinfo) : PciConfigReg :=
  if b.pciConfigType = 1 then
    readConfigReg b e.bus e.card.toUInt8 e.func (b.pciGetVendor e.bus e.card.toUInt8 e.func)
  else readConfigReg2 b e.bus e.card (b.inport32 e.bus e.card)

theorem foundFunctions_entry {b : Backend} {bus card : UInt8} {funcs : List UInt32} {f : Found}
    (hf : f ∈ foundFunctions b bus card funcs) :
    ∃ func, f.entry = identifyEntry bus card.toUInt16 func
      (readConfigReg b bus card func (b.pciGetVendor bus card func)) := by
  induction funcs with
  | nil => exact absurd hf List.not_mem_nil
  | cons func funcs ih =>
    unfold foundFunctions at hf
    dsimp only at hf
    split_ifs at hf
    · exact absurd hf List.not_mem_nil
    · rw [List.mem_singleton.mp hf]
      exact ⟨func, rfl⟩
    · rcases List.mem_cons.mp hf with rfl | hf
      · exact ⟨func, rfl⟩
      · exact ih hf

/-- An entry of a bus is what `identify_card` makes of the registers of its function. -/
theorem found_entry {b : Backend} {bus : UInt8} {f : Found} (hf : f ∈ found b bus) :
    f.entry =
      identifyEntry f.entry.bus f.entry.card f.entry.func (registersOf b f.entry) := by
  unfold found at hf
  unfold registersOf
  split_ifs at hf ⊢
  · obtain ⟨card, -, hf⟩ := List.mem_flatMap.mp hf
    obtain ⟨func, hentry⟩ := foundFunctions_entry hf
    have hcard : card.toUInt16.toUInt8 = card := UInt8.toUInt8_toUInt16 card
    rw [hentry]
    simp only [identifyEntry, hcard]
  · obtain ⟨ioaddr, -, hf⟩ := List.mem_flatMap.mp hf
    unfold foundWindow at hf
    dsimp only at hf
    split_ifs at hf
    · exact absurd hf List.not_mem_nil
    · rw [List.mem_singleton.mp hf]
      rfl

/-- What a scan that ends lists was found on some bus. -/
theorem pciScan_found {b : Backend} {fuel : ℕ} {r : ℤ} {s : ScanState}
    (hs : pciScan b fuel = .done (r, s)) {e : Pciinfo} (he : e ∈ s.pciLst) :
    ∃ bus, ∃ f ∈ found b bus, f.entry = e := by
  by_cases h : Scans b
  · obtain ⟨scanBus, hsum, heq⟩ := pciScan_of_scans h
    rw [heq, Walk.map_eq_done] at hs
    obtain ⟨s', hs', hrs⟩ := hs
    obtain ⟨Q, -, -, rfl⟩ := walk_sound hsum hsum.atHead_nil hs'
    obtain ⟨-, rfl⟩ := Prod.mk.inj hrs
    rw [after_pciLst] at he
    obtain ⟨f, hf, rfl⟩ := List.mem_map.mp (List.mem_of_mem_take he)
    obtain ⟨bus, -, hf⟩ := List.mem_flatMap.mp hf
    exact ⟨bus, f, hf, rfl⟩
  · obtain ⟨r', hr'⟩ := pciScan_of_not_scans h fuel
    rw [hr'] at hs
    obtain ⟨-, rfl⟩ := Prod.mk.inj (Walk.done.inj hs)
    exact absurd he List.not_mem_nil

/-- **The addresses in the list of a scan.**  On every machine each function that a scan lists has
its right addresses iff each of its registers is read for what it is. -/
theorem pciScan_bases {b : Backend} {fuel : ℕ} {r : ℤ} {s : ScanState}
    (hs : pciScan b fuel = .done (r, s)) {e : Pciinfo} (he : e ∈ s.pciLst) :
    RightBases (registersOf b e) e ↔ ∀ k, KindAgrees (registersOf b e) k := by
  obtain ⟨bus, f, hf, rfl⟩ := pciScan_found hs he
  have hentry := found_entry hf
  generalize registersOf b f.entry = pcr at hentry ⊢
  rw [hentry]
  exact rightBases_iff _ _ _ pcr

end Vidix.Libdha
