import Vidix.Libdha.Mtrr

/-!
# Correctness of `mtrr_set_type`

The numbers of the requests are different, so `dhahelper_ioctl` routes each to its own handler
(`dhahelperIoctl_number`).  With the helper open `mtrr_set_type` issues `DHAHELPER_ACK_IRQ`, which
adds no range at all; the line that it writes to `/proc/mtrr` otherwise is right
(`readMtrrLine_mtrrLine`).  So the kernel is asked for what the caller wants iff the helper cannot
be opened: `mtrrSetType_requested_iff`.
-/

namespace Vidix.Libdha

open Dhahelper Util

/-! ### Lines of `/proc/mtrr` -/

theorem readPart_append (part s : List Char) : readPart part (part ++ s) = some s := by
  rw [readPart, if_pos (List.isPrefixOf_iff_prefix.2 (List.prefix_append part s)),
    List.drop_left]

/-- A number of eight digits is read up to the space behind it. -/
theorem readHex_fixedHex (n : UInt32) (s : List Char) :
    readHex (fixedHex 8 n.toNat ++ ' ' :: s) = (n.toNat, ' ' :: s) := by
  have hdigits : ∀ c ∈ fixedHex 8 n.toNat, isDigitOf 16 c = true :=
    fun c hc => isDigitOf_of_mem_fixedHex hc
  have hspace : ¬ isDigitOf 16 ' ' = true := by decide
  have hlt : n.toNat < 16 ^ 8 := n.toNat_lt
  rw [readHex, List.takeWhile_append_of_pos hdigits, List.dropWhile_append_of_pos hdigits,
    List.takeWhile_cons, if_neg hspace, List.dropWhile_cons, if_neg hspace, List.append_nil,
    digitsValue_fixedHex hlt]

/-- The kernel reads the range and the type that the line was made from. -/
theorem readMtrrLine_mtrrLine (base size : UInt32) (type : MtrrType) :
    readMtrrLine (mtrrLine base size type) = some (base.toNat, size.toNat, type) := by
  have htype : (MtrrType.all.find? fun t => t.stype ++ ['\n'] = type.stype ++ ['\n']) =
      some type := by
    cases type <;> rfl
  have hsize : ∀ s, sizePart ++ s = ' ' :: (sizePart.tail ++ s) := fun _ => rfl
  have htypePart : ∀ s, typePart ++ s = ' ' :: (typePart.tail ++ s) := fun _ => rfl
  simp only [readMtrrLine, mtrrLine, readPart_append, Option.bind_eq_bind, Option.bind_some]
  rw [hsize, readHex_fixedHex, ← hsize]
  simp only [readPart_append, Option.bind_some]
  rw [htypePart, readHex_fixedHex, ← htypePart]
  simp only [readPart_append, Option.bind_some, htype]
  rfl

/-! ### Requests of the helper -/

/-- **Every request is routed to its own handler.** -/
theorem dhahelperIoctl_number (h : Handler) : dhahelperIoctl 0 h.number = .ok h := by
  cases h <;> rfl

/-- Another device has no requests. -/
theorem dhahelperIoctl_of_minor {minor : ℕ} (hminor : minor ≠ 0) (cmd : UInt32) :
    dhahelperIoctl minor cmd = .error (-enxio) :=
  if_pos hminor

section

variable {δ : Type*} (sys : MtrrSystem δ)

/-- `DHAHELPER_ACK_IRQ` adds nothing. -/
theorem mtrrIoctl_ackIrq_calls (mtrrs : DhahelperMtrr) :
    (mtrrIoctl sys Handler.ackIrq.number mtrrs).calls = [] := by
  rw [mtrrIoctl]
  by_cases hminor : sys.minor = 0
  · rw [hminor, dhahelperIoctl_number]
  · rw [dhahelperIoctl_of_minor hminor]

/-! ### `mtrr_set_type` -/

theorem mtrrTypeOf_value (type : MtrrType) : mtrrTypeOf type.value = some type := by
  cases type <;> rfl

theorem procMtrr_calls (base size : UInt32) (type : Int32) :
    (procMtrr sys base size type).calls = [] := by
  rw [procMtrr]
  split
  · rfl
  · split_ifs <;> rfl

/-- No call of `mtrr_set_type` adds a range through the helper. -/
theorem mtrrSetType_calls (base size : UInt32) (type : Int32) :
    (mtrrSetType sys base size type).calls = [] := by
  rw [mtrrSetType]
  split
  · exact procMtrr_calls sys base size type
  · split_ifs
    · exact mtrrIoctl_ackIrq_calls sys _
    · exact procMtrr_calls sys base size type

/-- **The kernel is asked for what the caller wants iff the helper cannot be opened.** -/
theorem mtrrSetType_requested_iff (base size : UInt32) (type : MtrrType) :
    Requested sys base size type (mtrrSetType sys base size type.value) ↔ sys.opened = none := by
  constructor
  · intro h
    rw [← Option.not_isSome_iff_eq_none]
    intro hopened
    obtain ⟨-, hcalls, -⟩ := h.helper hopened
    rw [mtrrSetType_calls] at hcalls
    cases hcalls
  · intro hopened
    refine ⟨fun hsome => ?_, fun _ hproc => ⟨mtrrLine base size type, ?_, ?_⟩⟩
    · rw [hopened] at hsome
      cases hsome
    · rw [mtrrSetType, hopened]
      dsimp only
      rw [procMtrr, mtrrTypeOf_value]
      dsimp only
      rw [if_pos hproc]
    · exact readMtrrLine_mtrrLine base size type

end

/-- A system with the helper, where nothing fails and no interrupt is installed. -/
def helperSystem : MtrrSystem ℕ where
  opened := some 3
  minor := 0
  configMtrr := true
  readable := true
  writable := true
  privat := 0
  mtrrAdd _ _ _ := 1
  irqs := initDhahelper
  wake := .signal
  otherHandler _ _ := 0
  procOpened := true
  printed := 0

/-- The request is taken for one about an interrupt. -/
theorem mtrrSetType_acks_irq :
    (mtrrSetType helperSystem 0xe0000000 0x1000000 MtrrType.wrcomb.value).handler = some .ackIrq ∧
      (mtrrSetType helperSystem 0xe0000000 0x1000000 MtrrType.wrcomb.value).ret = -1 ∧
      ¬ Requested helperSystem 0xe0000000 0x1000000 .wrcomb
        (mtrrSetType helperSystem 0xe0000000 0x1000000 MtrrType.wrcomb.value) := by
  refine ⟨rfl, by decide, fun h => ?_⟩
  obtain ⟨hhandler, -⟩ := h.helper rfl
  exact absurd hhandler (by decide)

end Vidix.Libdha
