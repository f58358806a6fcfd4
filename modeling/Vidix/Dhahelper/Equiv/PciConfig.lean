import Vidix.Dhahelper.PciConfig
import Vidix.Libdha.Equiv.PciX86

/-!
# What `DHAHELPER_PCI_CONFIG` does for its clients

`Serves` is what the request is for: a read delivers the bytes and changes nothing, a write changes
the bytes, and a request that cannot be served changes nothing and reports an error.  Since no case
of the handler's `switch` ends in a `break`, every request runs into the report of an unknown
operation (`dhahelperPciConfig_fails`).  The handler serves exactly the requests that it has to
reject: `dhahelperPciConfig_serves_iff`.
-/

namespace Vidix.Dhahelper

open Libdha

/-! ### What a request is for -/

/-- The bytes at an offset, zero-extended. -/
def valueAt (c : ConfigBytes) (o : UInt8) : ℕ → UInt32
  | 1 => (c o).toUInt32
  | 2 => (c.word o).toUInt32
  | _ => c.dword o

/-- The device that a request is about. -/
def requestedSlot (k : KernelPci) (cs : ConfigSpace) (arg : DhahelperPciConfig) : Option Slot :=
  k.findSlot cs arg.bus (pciDevfn arg.dev arg.func)

/-- The register that a request is about. -/
def requestedReg (arg : DhahelperPciConfig) : UInt8 := arg.cmd.toUInt32.toUInt8

/-- The device is missing, or the operation or the size is none of those defined. -/
def MustReject (k : KernelPci) (cs : ConfigSpace) (arg : DhahelperPciConfig) : Prop :=
  requestedSlot k cs arg = none ∨ legalSize arg.size = none ∨
    arg.operation ≠ pciOpRead ∧ arg.operation ≠ pciOpWrite

/-- The result `r` of a request is the one it asks for. -/
structure Serves (k : KernelPci) (cs : ConfigSpace) (arg : DhahelperPciConfig)
    (r : ℤ × ConfigSpace × DhahelperPciConfig) : Prop where
  read : ∀ slot size, requestedSlot k cs arg = some slot → legalSize arg.size = some size →
    arg.operation = pciOpRead →
      r.1 = 0 ∧ r.2.1 = cs ∧
        ∃ c, cs slot = some c ∧ r.2.2.ret = valueAt c (requestedReg arg) size
  write : ∀ slot size, requestedSlot k cs arg = some slot → legalSize arg.size = some size →
    arg.operation = pciOpWrite →
      r.1 = 0 ∧ r.2.1 = cs.patch slot (requestedReg arg) size arg.ret
  reject : MustReject k cs arg → r.1 < 0 ∧ r.2.1 = cs

/-! ### What the handler does -/

variable (k : KernelPci) (readable : Readable) (cs : ConfigSpace) (arg : DhahelperPciConfig)

theorem configWrite_fails (pdev : Slot) : (configWrite k cs pdev arg).1 = -efault := by
  unfold configWrite
  cases legalSize arg.size <;> rfl

theorem configRead_fails (pdev : Slot) : (configRead k cs pdev arg).1 = -efault := by
  unfold configRead
  cases legalSize arg.size with
  | none => rfl
  | some size =>
    dsimp only
    cases k.readConfig cs pdev size arg.cmd with
    | none => exact configWrite_fails k cs arg pdev
    | some v => exact configWrite_fails k cs _ pdev

/-- **Every request fails.** -/
theorem dhahelperPciConfig_fails : (dhahelperPciConfig k readable cs arg).1 = -efault := by
  unfold dhahelperPciConfig
  cases readable with
  | false => rfl
  | true =>
    rw [Bool.not_true, if_neg (by decide)]
    cases k.findSlot cs arg.bus (pciDevfn arg.dev arg.func) with
    | none => rfl
    | some pdev =>
      -- the operations that are known and `default:` all come to the last `return`
      dsimp only
      split_ifs
      · exact configRead_fails k cs arg pdev
      · exact configWrite_fails k cs arg pdev
      · rfl

/-- No request delivers anything. -/
theorem dhahelperPciConfig_arg : (dhahelperPciConfig k readable cs arg).2.2 = arg := by
  unfold dhahelperPciConfig
  cases readable with
  | false => rfl
  | true =>
    rw [Bool.not_true, if_neg (by decide)]
    cases k.findSlot cs arg.bus (pciDevfn arg.dev arg.func) <;> rfl

/-- A request that must be rejected changes nothing. -/
theorem dhahelperPciConfig_reject (h : MustReject k cs arg) :
    (dhahelperPciConfig k readable cs arg).2.1 = cs := by
  unfold dhahelperPciConfig
  cases readable with
  | false => rfl
  | true =>
    rw [Bool.not_true, if_neg (by decide)]
    unfold MustReject requestedSlot at h
    cases hslot : k.findSlot cs arg.bus (pciDevfn arg.dev arg.func) with
    | none => rfl
    | some pdev =>
      rw [hslot] at h
      dsimp only
      rcases h with hnone | hsize | ⟨hnr, hnw⟩
      · cases hnone
      · -- both cases look at the size first
        have hw : configWrite k cs pdev arg = (-efault, cs) := by rw [configWrite, hsize]
        have hr : configRead k cs pdev arg = (-efault, cs) := by rw [configRead, hsize]
        rw [hw, hr]
        split_ifs <;> rfl
      · rw [if_neg hnr, if_neg hnw]

/-- A write that is reported as failed has been made all the same. -/
theorem dhahelperPciConfig_write {slot : Slot} {size : ℕ}
    (hslot : requestedSlot k cs arg = some slot) (hsize : legalSize arg.size = some size)
    (hop : arg.operation = pciOpWrite) :
    (dhahelperPciConfig k true cs arg).2.1 = k.writeConfig cs slot size arg.cmd arg.ret := by
  unfold requestedSlot at hslot
  unfold dhahelperPciConfig
  rw [if_neg (by decide), hslot]
  dsimp only
  rw [if_neg (by rw [hop]; decide), if_pos hop, configWrite, hsize]

/-- A read writes back what it has read. -/
theorem dhahelperPciConfig_read {slot : Slot} {size : ℕ} {v : UInt32}
    (hslot : requestedSlot k cs arg = some slot) (hsize : legalSize arg.size = some size)
    (hop : arg.operation = pciOpRead) (hv : k.readConfig cs slot size arg.cmd = some v) :
    (dhahelperPciConfig k true cs arg).2.1 =
      k.writeConfig cs slot size arg.cmd (storeLow size arg.ret v) := by
  unfold requestedSlot at hslot
  unfold dhahelperPciConfig
  rw [if_neg (by decide), hslot]
  dsimp only
  rw [if_pos hop, configRead, hsize]
  dsimp only
  rw [hv]
  dsimp only
  rw [configWrite, hsize]

/-- Through the helper, every access of libdha ends with `-1`. -/
theorem pciConfigReadHelper_fails (junk : UInt32) (bus dev func cmd : UInt8) (len : Int32) :
    (pciConfigReadHelper k junk cs bus dev func cmd len).1 = -1 := by
  unfold pciConfigReadHelper
  dsimp only
  rw [dhahelperPciConfig_fails]
  rfl

theorem pciConfigWriteHelper_fails (bus dev func cmd : UInt8) (len : Int32) (val : UInt32) :
    (pciConfigWriteHelper k cs bus dev func cmd len val).1 = -1 := by
  unfold pciConfigWriteHelper
  dsimp only
  rw [dhahelperPciConfig_fails]
  rfl

/-- Through the ports, every access ends with 0. -/
theorem pciConfigReadDirect_ret (old : UInt32) (bus dev func cmd : UInt8) (len : Int32) :
    (pciConfigReadDirect 0 old cs bus dev func cmd len).1 = 0 := by
  rw [pciConfigReadDirect, if_neg (by decide)]

theorem pciConfigWriteDirect_ret (bus dev func cmd : UInt8) (len : Int32) (val : UInt32) :
    (pciConfigWriteDirect 0 cs bus dev func cmd len val).1 = 0 := by
  unfold pciConfigWriteDirect
  split_ifs
  · contradiction
  all_goals rfl

/-- **A request is served iff it has to be rejected**, whatever the kernel's functions do; and no
access of libdha has the same outcome through the helper and through the ports. -/
theorem dhahelperPciConfig_serves_iff :
    (Serves k cs arg (dhahelperPciConfig k readable cs arg) ↔ MustReject k cs arg) ∧
      ∀ (bus dev func cmd : UInt8) (len : Int32) (junk old val : UInt32),
        pciConfigReadHelper k junk cs bus dev func cmd len ≠
            pciConfigReadDirect 0 old cs bus dev func cmd len ∧
          pciConfigWriteHelper k cs bus dev func cmd len val ≠
            pciConfigWriteDirect 0 cs bus dev func cmd len val := by
  have hfail := dhahelperPciConfig_fails k readable cs arg
  refine ⟨⟨fun h => ?_, fun h => ⟨?_, ?_, ?_⟩⟩, ?_⟩
  · -- a legal request would have to report success
    by_contra hlegal
    unfold MustReject at hlegal
    push Not at hlegal
    obtain ⟨hslot, hsize, hop⟩ := hlegal
    obtain ⟨slot, hslot⟩ := Option.ne_none_iff_exists'.mp hslot
    obtain ⟨size, hsize⟩ := Option.ne_none_iff_exists'.mp hsize
    by_cases hr : arg.operation = pciOpRead
    · exact absurd (hfail.symm.trans (h.read slot size hslot hsize hr).1) (by decide)
    · exact absurd (hfail.symm.trans (h.write slot size hslot hsize (hop hr)).1) (by decide)
  · intro slot size hslot hsize hop
    rcases h with hnone | hnone | ⟨hne, -⟩
    · rw [hslot] at hnone
      cases hnone
    · rw [hsize] at hnone
      cases hnone
    · exact absurd hop hne
  · intro slot size hslot hsize hop
    rcases h with hnone | hnone | ⟨-, hne⟩
    · rw [hslot] at hnone
      cases hnone
    · rw [hsize] at hnone
      cases hnone
    · exact absurd hop hne
  · intro hrej
    exact ⟨by rw [hfail]; decide, dhahelperPciConfig_reject k readable cs arg hrej⟩
  · -- the two ways differ in the result already
    intro bus dev func cmd len junk old val
    constructor
    · intro heq
      have := congrArg Prod.fst heq
      rw [pciConfigReadHelper_fails, pciConfigReadDirect_ret] at this
      exact absurd this (by decide)
    · intro heq
      have := congrArg Prod.fst heq
      rw [pciConfigWriteHelper_fails, pciConfigWriteDirect_ret] at this
      exact absurd this (by decide)

/-- The functions of a kernel that refuses a register which is not aligned to the operand. -/
def plainKernel : KernelPci where
  findSlot cs bus devfn :=
    let slot := Slot.ofNat bus.toUInt32.toNat (devfn >>> 3).toNat (devfn &&& 0x07).toNat
    if bus.toUInt32 < 256 then (cs slot).map fun _ => slot else none
  readConfig cs slot size cmd :=
    if cmd.toUInt32.toNat % size = 0 then
      (cs slot).map fun c => valueAt c cmd.toUInt32.toUInt8 size
    else none
  writeConfig cs slot size cmd v :=
    if cmd.toUInt32.toNat % size = 0 then cs.patch slot cmd.toUInt32.toUInt8 size v else cs

/-- **A read of the vendor id of a card that is there is not served.** -/
theorem dhahelperPciConfig_sample :
    requestedSlot plainKernel intelBridge (configRequest pciOpRead 0 0 0 0 2 0) = some ⟨0, 0, 0⟩ ∧
      ¬ Serves plainKernel intelBridge (configRequest pciOpRead 0 0 0 0 2 0)
        (dhahelperPciConfig plainKernel true intelBridge
          (configRequest pciOpRead 0 0 0 0 2 0)) := by
  refine ⟨by decide +kernel, fun h => ?_⟩
  have hret := (h.read ⟨0, 0, 0⟩ 2 (by decide +kernel) (by decide) (by decide)).1
  rw [dhahelperPciConfig_fails] at hret
  exact absurd hret (by decide)

end Vidix.Dhahelper
