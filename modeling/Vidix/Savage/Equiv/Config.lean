import Vidix.Savage.Config
import Vidix.Savage.Equiv.Frame
import Vidix.Util.Table

/-!
# Frame placement of the savage driver

What `vixInit` finds out about the card bounds the sizes that a configuration computes with, and no
configuration changes it.
-/

namespace Vidix.Savage

open Util

variable {Arch : Type} {info : ChipInfo Arch} {vinfo : VidixPlayback}

/-! ### What configurations leave alone -/

/-- What `vixInit` has found out is still there. -/
structure SameCard (info info' : ChipInfo Arch) : Prop where
  arch : info'.arch = info.arch
  fbsize : info'.fbsize = info.fbsize
  controlBase : info'.controlBase = info.controlBase
  bpp : info'.bpp = info.bpp
  screenX : info'.screenX = info.screenX
  screenY : info'.screenY = info.screenY

theorem SameCard.refl (info : ChipInfo Arch) : SameCard info info := ⟨rfl, rfl, rfl, rfl, rfl, rfl⟩

theorem SameCard.trans {info₁ info₂ info₃ : ChipInfo Arch} (h : SameCard info₁ info₂)
    (h' : SameCard info₂ info₃) : SameCard info₁ info₃ :=
  ⟨h'.arch.trans h.arch, h'.fbsize.trans h.fbsize, h'.controlBase.trans h.controlBase,
    h'.bpp.trans h.bpp, h'.screenX.trans h.screenX, h'.screenY.trans h.screenY⟩

theorem SameCard.pictureOffsetOf {info' : ChipInfo Arch} (h : SameCard info info') :
    pictureOffsetOf info' = Savage.pictureOffsetOf info := by
  unfold Savage.pictureOffsetOf
  rw [h.bpp, h.screenX, h.screenY]

theorem SameCard.desktopBytes {info' : ChipInfo Arch} (h : SameCard info info') :
    desktopBytes info' = Savage.desktopBytes info := by
  unfold Savage.desktopBytes
  rw [h.bpp, h.screenX, h.screenY]

theorem SameCard.probed {info' : ChipInfo Arch} (h : SameCard info info') (hprobed : Probed info) :
    Probed info' := by
  refine ⟨?_, ?_⟩
  · rw [h.fbsize]
    exact hprobed.fbsize_le
  · rw [h.pictureOffsetOf, h.desktopBytes]
    exact hprobed.offset_eq

theorem configFrames_sameCard {base : UInt64} {answer : Answer} {o : Outcome Arch}
    (h : configFrames info vinfo base answer = some o) : SameCard info o.info := by
  unfold configFrames at h
  dsimp only at h
  split_ifs at h
  all_goals
    obtain rfl := Option.some.inj h
    exact ⟨rfl, rfl, rfl, rfl, rfl, rfl⟩

/-- Configurations that leave the card alone do so one after the other. -/
theorem configs_sameCard
    {config : ChipInfo Arch → VidixPlayback → Answer → Option (Outcome Arch)}
    (hconfig : ∀ info vinfo answer o, config info vinfo answer = some o → SameCard info o.info)
    {requests : List (VidixPlayback × Answer)} {info' : ChipInfo Arch} {ops : List PhysOp}
    (h : configs config info requests = some (info', ops)) : SameCard info info' := by
  induction requests generalizing info ops with
  | nil =>
    obtain ⟨rfl, -⟩ := Prod.mk.inj (Option.some.inj h)
    exact SameCard.refl info
  | cons request requests ih =>
    obtain ⟨o, ho, hrest⟩ := Option.bind_eq_some_iff.mp h
    obtain ⟨⟨info'', ops''⟩, hrun, heq⟩ := Option.bind_eq_some_iff.mp hrest
    obtain ⟨rfl, -⟩ := Prod.mk.inj (Option.some.inj heq)
    exact (hconfig _ _ _ _ ho).trans (ih hrun)

/-! ### Both drivers -/

/-- `vixConfigPlayback` of a driver that turns some fourccs down and maps the memory of the card at
`base`. -/
def configSupported (supported : Arch → UInt32 → Bool) (base : Arch → UInt64)
    (info : ChipInfo Arch) (vinfo : VidixPlayback) (answer : Answer) : Option (Outcome Arch) :=
  if !supported info.arch vinfo.fourcc then
    some { ret := -1, info := info, vinfo := vinfo, ops := [] }
  else configFrames info vinfo (base info.arch) answer

variable (supported : Arch → UInt32 → Bool) (base : Arch → UInt64) {answer : Answer}
  {o : Outcome Arch}

theorem configSupported_of_supported (h : supported info.arch vinfo.fourcc = true) :
    configSupported supported base info vinfo answer =
      configFrames info vinfo (base info.arch) answer := by
  unfold configSupported
  rw [h, Bool.not_true, if_neg Bool.false_ne_true]

theorem configSupported_of_unsupported (h : supported info.arch vinfo.fourcc = false) :
    configSupported supported base info vinfo answer =
      some { ret := -1, info := info, vinfo := vinfo, ops := [] } := by
  unfold configSupported
  rw [h, Bool.not_false, if_pos rfl]

theorem configSupported_sameCard
    (h : configSupported supported base info vinfo answer = some o) : SameCard info o.info := by
  cases hfourcc : supported info.arch vinfo.fourcc with
  | true =>
    rw [configSupported_of_supported supported base hfourcc] at h
    exact configFrames_sameCard h
  | false =>
    rw [configSupported_of_unsupported supported base hfourcc] at h
    obtain rfl := Option.some.inj h
    exact SameCard.refl _

theorem configSupported_fits_iff (hprobed : Probed info) (vinfo : VidixPlayback)
    (answer : Answer) :
    (∀ o, configSupported supported base info vinfo answer = some o → o.ret = 0 →
        FramesPlaced o.info o.vinfo) ↔
      (supported info.arch vinfo.fourcc → frameBytes vinfo ≠ 0 → ¬ Rejected info vinfo →
        Fits info vinfo) := by
  cases hfourcc : supported info.arch vinfo.fourcc with
  | true =>
    rw [configSupported_of_supported supported base hfourcc, framesPlaced_iff hprobed]
    exact ⟨fun h _ => h, fun h => h rfl⟩
  | false =>
    rw [configSupported_of_unsupported supported base hfourcc]
    refine iff_of_true (fun o ho hret => ?_) fun h => absurd h Bool.false_ne_true
    obtain rfl := Option.some.inj ho
    exact absurd (show (-1 : ℤ) = 0 from hret) (by decide)

/-! ### The savage driver -/

theorem ramOf_le {table : List UInt32} (htable : ∀ entry ∈ table, entry.toNat ≤ 64)
    (index : UInt8) : (ramOf table index).toNat ≤ 2 ^ 16 := by
  have hentry : (table.getD index.toNat 0).toNat ≤ 64 := by
    rcases Nat.lt_or_ge index.toNat table.length with hlt | hge
    · rw [List.getD_eq_getElem _ _ hlt]
      exact htable _ (List.getElem_mem hlt)
    · rw [List.getD_eq_default _ _ hge]
      decide
  unfold ramOf
  rw [UInt32.toNat_mul]
  show (table.getD index.toNat 0).toNat * 1024 % 2 ^ 32 ≤ _
  omega

theorem ramSavage4_le (corrected : Bool) : ∀ entry ∈ ramSavage4 corrected, entry.toNat ≤ 64 := by
  cases corrected <;> exact forall_mem_of_all (by decide)

theorem videoRam_le (arch : SavageArch) (corrected : Bool) (cr : UInt8 → UInt8) :
    (videoRam arch corrected cr).toNat ≤ 2 ^ 16 := by
  cases arch with
  | savage3d => exact ramOf_le (forall_mem_of_all (by decide)) _
  | savageMx => exact ramOf_le (forall_mem_of_all (by decide)) _
  | savage4 => exact ramOf_le (ramSavage4_le _) _
  | prosavage => exact ramOf_le (forall_mem_of_all (by decide)) _
  | supersavage => exact Nat.zero_le _
  | savage2000 => exact ramOf_le (ramSavage4_le _) _

/-- Kilobytes, as bytes. -/
theorem fbsize_le {ram : UInt32} (hram : ram.toNat ≤ 2 ^ 16) :
    (ram * 1024).toUInt64.toNat ≤ 2 ^ 26 := by
  rw [UInt32.toNat_toUInt64, UInt32.toNat_mul]
  show ram.toNat * 1024 % 2 ^ 32 ≤ _
  omega

variable {arch : SavageArch} {corrected : Bool} {cr : UInt8 → UInt8} {pci : PciInfo}

theorem vixInit_probed {init : InitOutcome SavageArch}
    (h : vixInit arch corrected cr pci answer = some init) : Probed init.info := by
  unfold vixInit at h
  dsimp only at h
  split_ifs at h
  obtain rfl := Option.some.inj h
  exact ⟨fbsize_le (videoRam_le arch corrected cr), screenProperties_offset cr _ rfl⟩

theorem vixConfigPlayback_sameCard {info : ChipInfo SavageArch} {o : Outcome SavageArch}
    (h : vixConfigPlayback pci info vinfo answer = some o) : SameCard info o.info :=
  configSupported_sameCard (fun _ => isSupportedFourcc) (videoAt · pci) h

/-- **The savage driver.** -/
theorem vixConfigPlayback_fits_iff {info : ChipInfo SavageArch} (hprobed : Probed info)
    (vinfo : VidixPlayback) (answer : Answer) :
    (∀ o, vixConfigPlayback pci info vinfo answer = some o → o.ret = 0 →
        FramesPlaced o.info o.vinfo) ↔
      (isSupportedFourcc vinfo.fourcc → frameBytes vinfo ≠ 0 → ¬ Rejected info vinfo →
        Fits info vinfo) :=
  configSupported_fits_iff (fun _ => isSupportedFourcc) (videoAt · pci) hprobed vinfo answer

end Vidix.Savage
