import Vidix.Mga.Registers

/-!
# The registers of the mga driver after a configuration

What the chip holds once `vixConfigPlayback` has accepted a request: the start addresses of the
planes of the four buffers, and the last line.
-/

namespace Vidix.Mga

variable {s : Scaler} {d : Driver} {config : VidixPlayback} {vcount : UInt32}

/-- The word that is multiplied by the frame size is the number of the frame. -/
theorem BesRegisters.org_setOrg (regs : BesRegisters) (start : UInt32 → UInt32) (b : Buffer) :
    (regs.setOrg start).org b = start (UInt32.ofNat b.frame) := by
  cases b <;> rfl

theorem BesRegisters.corg_setCorg (regs : BesRegisters) (start : UInt32 → UInt32) (b : Buffer) :
    (regs.setCorg start).corg b = start (UInt32.ofNat b.frame) := by
  cases b <;> rfl

theorem BesRegisters.c3org_setC3org (regs : BesRegisters) (start : UInt32 → UInt32) (b : Buffer) :
    (regs.setC3org start).c3org b = start (UInt32.ofNat b.frame) := by
  cases b <;> rfl

/-- Setting the starts of one plane leaves the other planes alone. -/
theorem BesRegisters.org_setCorg (regs : BesRegisters) (start : UInt32 → UInt32) (b : Buffer) :
    (regs.setCorg start).org b = regs.org b := by
  cases b <;> rfl

theorem BesRegisters.org_setC3org (regs : BesRegisters) (start : UInt32 → UInt32) (b : Buffer) :
    (regs.setC3org start).org b = regs.org b := by
  cases b <;> rfl

theorem BesRegisters.corg_setC3org (regs : BesRegisters) (start : UInt32 → UInt32) (b : Buffer) :
    (regs.setC3org start).corg b = regs.corg b := by
  cases b <;> rfl

theorem BesRegisters.c3org_setCorg (regs : BesRegisters) (start : UInt32 → UInt32) (b : Buffer) :
    (regs.setCorg start).c3org b = regs.c3org b := by
  cases b <;> rfl

/-! ### `besRegisters` -/

section BesRegisters

variable (regs : BesRegisters) (isG400 : Bool) (srcBase : Int32) (config : VidixPlayback)

/-- The start of the first of the chroma planes in memory. -/
def firstStart (isG400 : Bool) (srcBase : Int32) (config : VidixPlayback) (b : Buffer) : UInt32 :=
  startAdr srcBase config (chromaAdrofs isG400 config) (UInt32.ofNat b.frame) + lumaBytes config

theorem besRegisters_org (b : Buffer) :
    (besRegisters regs isG400 srcBase config).org b =
      startAdr srcBase config (lumaAdrofs config) (UInt32.ofNat b.frame) := by
  unfold besRegisters BesRegisters.setOrgs
  dsimp only
  split_ifs
  · rw [BesRegisters.org_setC3org, BesRegisters.org_setCorg, BesRegisters.org_setOrg]
  · rw [BesRegisters.org_setCorg, BesRegisters.org_setC3org, BesRegisters.org_setOrg]
  · rw [BesRegisters.org_setOrg]

theorem besRegisters_corg (hplanar : isPlanar config.fourcc = true) (b : Buffer) :
    (besRegisters regs isG400 srcBase config).corg b =
      if config.fourcc == imgfmtYV12 then firstStart isG400 srcBase config b
      else firstStart isG400 srcBase config b + lumaBytes config / 4 := by
  unfold besRegisters BesRegisters.setOrgs firstStart
  dsimp only
  rw [if_pos hplanar]
  split_ifs
  · rw [BesRegisters.corg_setC3org, BesRegisters.corg_setCorg]
  · rw [BesRegisters.corg_setCorg]

theorem besRegisters_c3org (hplanar : isPlanar config.fourcc = true) (b : Buffer) :
    (besRegisters regs isG400 srcBase config).c3org b =
      if config.fourcc == imgfmtYV12 then firstStart isG400 srcBase config b + lumaBytes config / 4
      else firstStart isG400 srcBase config b := by
  unfold besRegisters BesRegisters.setOrgs firstStart
  dsimp only
  rw [if_pos hplanar]
  split_ifs
  · rw [BesRegisters.c3org_setC3org]
  · rw [BesRegisters.c3org_setCorg, BesRegisters.c3org_setC3org]

/-- The last line does not depend on what is done about the addresses. -/
theorem besRegisters_besv1srclst :
    (besRegisters regs isG400 srcBase config).besv1srclst =
      ((sourceSize config).2 - 1).toUInt32 -
        ((((offScreen config.dest.y.toInt32).toUInt32 * besviscalOf config) >>> 16) &&&
          0x03ff) := by
  unfold besRegisters BesRegisters.setOrgs
  dsimp only
  split_ifs <;> rfl

end BesRegisters

/-! ### The chip -/

theorem mgaVidWriteRegs_org (s : Scaler) (vcount : UInt32) (b : Buffer) :
    (s.mgaVidWriteRegs vcount).chip.org b = s.regs.org b := by
  cases b <;> simp only [Scaler.mgaVidWriteRegs, BesRegisters.org]

theorem mgaVidWriteRegs_corg (s : Scaler) (vcount : UInt32) (b : Buffer) :
    (s.mgaVidWriteRegs vcount).chip.corg b = s.regs.corg b := by
  cases b <;> simp only [Scaler.mgaVidWriteRegs, BesRegisters.corg]

/-- Only the G400 has a third plane. -/
theorem mgaVidWriteRegs_c3org (s : Scaler) (h : s.isG400 = true) (vcount : UInt32) (b : Buffer) :
    (s.mgaVidWriteRegs vcount).chip.c3org b = s.regs.c3org b := by
  cases b <;> simp only [Scaler.mgaVidWriteRegs, BesRegisters.c3org, if_pos h]

theorem mgaVidWriteRegs_besv1srclst (s : Scaler) (vcount : UInt32) :
    (s.mgaVidWriteRegs vcount).chip.besv1srclst = s.regs.besv1srclst := by
  simp only [Scaler.mgaVidWriteRegs]

/-- An accepted request sets the registers from the layout. -/
theorem Scaler.vixConfigPlayback_of_accepted (h : (Mga.vixConfigPlayback d config).1 = 0) :
    s.vixConfigPlayback d config vcount =
      { s with
        regs := besRegisters s.regs s.isG400
          (Mga.vixConfigPlayback d config).2.1.mgaSrcBase config }.mgaVidWriteRegs vcount := by
  unfold Scaler.vixConfigPlayback
  exact if_pos h

theorem Scaler.chip_org (h : (Mga.vixConfigPlayback d config).1 = 0) (b : Buffer) :
    (s.vixConfigPlayback d config vcount).chip.org b =
      startAdr (Mga.vixConfigPlayback d config).2.1.mgaSrcBase config (lumaAdrofs config)
        (UInt32.ofNat b.frame) := by
  rw [Scaler.vixConfigPlayback_of_accepted h, mgaVidWriteRegs_org, besRegisters_org]

theorem Scaler.chip_corg (h : (Mga.vixConfigPlayback d config).1 = 0)
    (hplanar : isPlanar config.fourcc = true) (b : Buffer) :
    (s.vixConfigPlayback d config vcount).chip.corg b =
      firstStart s.isG400 (Mga.vixConfigPlayback d config).2.1.mgaSrcBase config b +
        if config.fourcc = imgfmtYV12 then 0 else lumaBytes config / 4 := by
  rw [Scaler.vixConfigPlayback_of_accepted h, mgaVidWriteRegs_corg,
    besRegisters_corg _ _ _ _ hplanar]
  by_cases hfmt : config.fourcc = imgfmtYV12
  · simp [hfmt]
  · simp [hfmt]

theorem Scaler.chip_c3org (h : (Mga.vixConfigPlayback d config).1 = 0)
    (hplanar : isPlanar config.fourcc = true) (hg400 : s.isG400 = true) (b : Buffer) :
    (s.vixConfigPlayback d config vcount).chip.c3org b =
      firstStart s.isG400 (Mga.vixConfigPlayback d config).2.1.mgaSrcBase config b +
        if config.fourcc = imgfmtYV12 then lumaBytes config / 4 else 0 := by
  rw [Scaler.vixConfigPlayback_of_accepted h, mgaVidWriteRegs_c3org]
  · rw [besRegisters_c3org _ _ _ _ hplanar]
    by_cases hfmt : config.fourcc = imgfmtYV12
    · simp [hfmt]
    · simp [hfmt]
  · exact hg400

/-- A G400 before its first configuration. -/
def sampleScaler : Scaler where
  isG400 := true
  regs := default
  mgaNextFrame := 0
  chip := default

end Vidix.Mga
