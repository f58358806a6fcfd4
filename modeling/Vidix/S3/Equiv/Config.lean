import Vidix.S3.Config
import Vidix.Savage.Equiv.Config

/-!
# Frame placement of the savage and s3 drivers

The s3 driver computes with the same bounds as the savage driver.  After any configurations, each of
the two places the frames of the next one as it should iff they fit: `frames_placed_iff`.
-/

namespace Vidix.S3

open Util Savage

variable {arch : S3Arch} {corrected : Bool} {cr : UInt8 → UInt8} {pci : PciInfo}
  {answer : Answer} {vinfo : VidixPlayback} {info : ChipInfo S3Arch}

theorem videoRam_le (arch : S3Arch) (corrected : Bool) (cr : UInt8 → UInt8) :
    (videoRam arch corrected cr).toNat ≤ 2 ^ 16 := by
  cases arch with
  | savage4 => exact ramOf_le (ramSavage4_le _) _
  | savage2000 => exact ramOf_le (ramSavage4_le _) _
  | supersavage => exact Nat.zero_le _
  | _ => exact ramOf_le (forall_mem_of_all (by decide)) _

theorem vixInit_probed {init : InitOutcome S3Arch}
    (h : vixInit arch corrected cr pci answer = some init) (hret : init.ret = 0) :
    Probed init.info := by
  unfold vixInit at h
  dsimp only at h
  split_ifs at h
  all_goals obtain rfl := Option.some.inj h
  · exact absurd (show (-1 : ℤ) = 0 from hret) (by decide)
  · exact ⟨fbsize_le (videoRam_le arch corrected cr), screenProperties_offset cr _ rfl⟩

theorem vixConfigPlayback_sameCard {o : Outcome S3Arch}
    (h : vixConfigPlayback pci info vinfo answer = some o) : SameCard info o.info :=
  configSupported_sameCard isSupportedFourcc (videoAt · pci) h

/-- **The s3 driver.** -/
theorem vixConfigPlayback_fits_iff (hprobed : Probed info) (vinfo : VidixPlayback)
    (answer : Answer) :
    (∀ o, vixConfigPlayback pci info vinfo answer = some o → o.ret = 0 →
        Savage.FramesPlaced o.info o.vinfo) ↔
      (isSupportedFourcc info.arch vinfo.fourcc → frameBytes vinfo ≠ 0 →
        ¬ Rejected info vinfo → Fits info vinfo) :=
  configSupported_fits_iff isSupportedFourcc (videoAt · pci) hprobed vinfo answer

/-- **After any configurations, each of the two drivers places the frames of the next one that
succeeds as it should iff they fit.** -/
theorem frames_placed_iff (corrected : Bool) (cr : UInt8 → UInt8) (pci : PciInfo)
    (control answer : Answer) (earlier : List (VidixPlayback × Answer)) (vinfo : VidixPlayback) :
    (∀ arch init info ops, Savage.vixInit arch corrected cr pci control = some init →
        configs (Savage.vixConfigPlayback pci) init.info earlier = some (info, ops) →
        ((∀ o, Savage.vixConfigPlayback pci info vinfo answer = some o → o.ret = 0 →
            Savage.FramesPlaced o.info o.vinfo) ↔
          (Savage.isSupportedFourcc vinfo.fourcc → frameBytes vinfo ≠ 0 →
            ¬ Rejected info vinfo → Fits info vinfo))) ∧
      ∀ arch init info ops, vixInit arch corrected cr pci control = some init → init.ret = 0 →
        configs (vixConfigPlayback pci) init.info earlier = some (info, ops) →
        ((∀ o, vixConfigPlayback pci info vinfo answer = some o → o.ret = 0 →
            Savage.FramesPlaced o.info o.vinfo) ↔
          (isSupportedFourcc info.arch vinfo.fourcc → frameBytes vinfo ≠ 0 →
            ¬ Rejected info vinfo → Fits info vinfo)) := by
  constructor
  · intro arch init info ops hinit hconfigs
    have hsame := configs_sameCard (fun _ _ _ _ => Savage.vixConfigPlayback_sameCard) hconfigs
    exact Savage.vixConfigPlayback_fits_iff
      (hsame.probed (Savage.vixInit_probed hinit)) vinfo answer
  · intro arch init info ops hinit hret hconfigs
    have hsame := configs_sameCard (fun _ _ _ _ => vixConfigPlayback_sameCard) hconfigs
    exact vixConfigPlayback_fits_iff (hsame.probed (vixInit_probed hinit hret)) vinfo answer

/-- The registers of a card with two megabytes and a desktop of 640 by 480 pixels with 16 bits. -/
def sampleCr : UInt8 → UInt8 := fun reg =>
  if reg = 0x36 then 0xC0 else if reg = 0x67 then 0x50 else if reg = 0x1 then 0x4F
  else if reg = 0x12 then 0xDF else if reg = 0x07 then 0x02 else 0

def samplePci : PciInfo where
  base0 := 0xe0000000
  base1 := 0xe8000000

/-- A small picture after a larger one. -/
theorem frames_placed_sample :
    (∃ init info ops,
      Savage.vixInit .savage3d false sampleCr samplePci ⟨0x1000, by decide⟩ =
        some init ∧
      configs (Savage.vixConfigPlayback samplePci) init.info
        [(samplePlayback 640 480, ⟨0x2000, by decide⟩)] = some (info, ops) ∧
      ∀ o, Savage.vixConfigPlayback samplePci info (samplePlayback 320 240)
        ⟨0x3000, by decide⟩ = some o → o.ret = 0 → Savage.FramesPlaced o.info o.vinfo) ∧
    ∃ init info ops,
      vixInit .savage3d false sampleCr samplePci ⟨0x1000, by decide⟩ = some init ∧
      init.ret = 0 ∧
      configs (vixConfigPlayback samplePci) init.info
        [(samplePlayback 640 480, ⟨0x2000, by decide⟩)] = some (info, ops) ∧
      ∀ o, vixConfigPlayback samplePci info (samplePlayback 320 240)
        ⟨0x3000, by decide⟩ = some o → o.ret = 0 → Savage.FramesPlaced o.info o.vinfo := by
  have hboth := frames_placed_iff false sampleCr samplePci ⟨0x1000, by decide⟩
    ⟨0x3000, by decide⟩ [(samplePlayback 640 480, ⟨0x2000, by decide⟩)]
    (samplePlayback 320 240)
  refine ⟨⟨_, _, _, rfl, rfl, (hboth.1 .savage3d _ _ _ rfl rfl).mpr fun _ _ _ => ?_⟩,
    ⟨_, _, _, rfl, rfl, rfl, (hboth.2 .savage3d _ _ _ rfl rfl rfl).mpr fun _ _ _ => ?_⟩⟩
  · exact ⟨by decide, by decide⟩
  · exact ⟨by decide, by decide⟩

/-- **On a card with two megabytes, a picture of four gets no frame, and a row of 40000 pixels gets
14464 bytes.** -/
theorem frames_misplaced :
    (∃ init,
      Savage.vixInit .savage3d false sampleCr samplePci ⟨0x1000, by decide⟩ =
        some init ∧
      ¬ ∀ o, Savage.vixConfigPlayback samplePci init.info (samplePlayback 2048 1024)
        ⟨0x2000, by decide⟩ = some o → o.ret = 0 → Savage.FramesPlaced o.info o.vinfo) ∧
    ∃ init,
      vixInit .savage3d false sampleCr samplePci ⟨0x1000, by decide⟩ = some init ∧
      init.ret = 0 ∧
      ¬ ∀ o, vixConfigPlayback samplePci init.info (samplePlayback 40000 1)
        ⟨0x2000, by decide⟩ = some o → o.ret = 0 → Savage.FramesPlaced o.info o.vinfo := by
  refine ⟨⟨_, rfl, fun h => ?_⟩, ⟨_, rfl, rfl, fun h => ?_⟩⟩
  · have hgranted := (h _ rfl rfl).granted
    revert hgranted
    decide
  · have hrows := (h _ rfl rfl).rows
    revert hrows
    decide

end Vidix.S3
