import Vidix.Savage.Playback
import Vidix.Savage.Equiv.Stride

/-!
# Turning playback of the savage driver on again

The pitch of the frames is kept in bytes.  The registers for it want eights of bytes, and the driver
divides what it keeps: each time playback is turned on, the stored pitch is the eighth part of what
it was before, and so is the stride that is programmed the next time (`stride_run`).  So no run of
calls in which playback is turned on leaves the configuration alone: `repeatable_iff`.
-/

namespace Vidix.Savage

open Util

variable {p p' : Player} {calls : List Call}

/-! ### The registers -/

/-- The registers of the secondary stream. -/
def streamRegs : List UInt32 :=
  [sstreamStretchReg, sstreamLinesReg, sstreamVinitialReg, sstreamVscaleReg, sstreamFbaddr0Reg,
    sstreamFbaddr1Reg, sstreamStrideReg, sstreamWindowStartReg, sstreamWindowSizeReg,
    sstreamControlReg, streamsFifoReg]

/-- Turning playback on from `p` has led to `p'`: the registers are as the first time, with the
configured pitch in them, and the configuration is as it was. -/
structure Repeated (p p' : Player) : Prop where
  info : p'.info = p.info
  stride : p'.mmio sstreamStrideReg = p.info.pitch
  regs : ∀ first, vixPlaybackOn p = some first → ∀ reg ∈ streamRegs, p'.mmio reg = first.mmio reg
  pitch : ∀ first, vixPlaybackOn p = some first →
    p'.crtc 0x92 = first.crtc 0x92 ∧ p'.crtc 0x93 = first.crtc 0x93

/-- Each time playback is turned on, it is as it was the first time. -/
def Repeatable (p : Player) (calls : List Call) : Prop :=
  ∀ pre, pre ++ [.playbackOn] <+: calls →
    ∃ p', p.run (pre ++ [.playbackOn]) = some p' ∧ Repeated p p'

/-! ### The pitch -/

theorem quadwords_toNat {pitch : UInt32} (h : pitch.toNat + 7 < 2 ^ 32) :
    (quadwords pitch).toNat = (pitch.toNat + 7) / 8 := by
  unfold quadwords
  rw [UInt32.toNat_div, UInt32.toNat_add]
  show (pitch.toNat + 7) % 2 ^ 32 / 8 = _
  rw [Nat.mod_eq_of_lt h]

theorem quadwords_ne {pitch : UInt32} (h : 2 ≤ pitch.toNat) : quadwords pitch ≠ pitch := by
  intro heq
  have hnat := congrArg UInt32.toNat heq
  unfold quadwords at hnat
  rw [UInt32.toNat_div, UInt32.toNat_add] at hnat
  change (pitch.toNat + 7) % 2 ^ 32 / 8 = pitch.toNat at hnat
  have hle : (pitch.toNat + 7) % 2 ^ 32 ≤ pitch.toNat + 7 := Nat.mod_le _ _
  generalize (pitch.toNat + 7) % 2 ^ 32 = sum at hnat hle
  omega

/-- Dividing by eight, and rounding up, `n` times. -/
theorem iterate_quadwords_toNat {pitch : UInt32} (h : pitch.toNat + 7 < 2 ^ 32) (n : ℕ) :
    (quadwords^[n] pitch).toNat = (pitch.toNat + (8 ^ n - 1)) / 8 ^ n := by
  induction n with
  | zero => simp
  | succ n ih =>
    have hpos : 0 < 8 ^ n := by positivity
    have hle : (pitch.toNat + (8 ^ n - 1)) / 8 ^ n ≤ pitch.toNat := by
      rw [Nat.div_le_iff_le_mul_add_pred hpos]
      nlinarith
    rw [Function.iterate_succ_apply', quadwords_toNat (by omega), ih,
      ← Nat.add_mul_div_left _ _ hpos, Nat.div_div_eq_div_mul, pow_succ]
    congr 1
    omega

/-! ### A run -/

/-- The fields of the driver that the streams and the colours leave alone. -/
theorem savageStreamsOn_info (p : Player) : (savageStreamsOn p).info = p.info := by
  unfold savageStreamsOn savageInitStreamsOld
  dsimp only
  split_ifs <;> rfl

theorem savageSetColorOld_info (p : Player) : (savageSetColorOld p).info = p.info := by
  unfold savageSetColorOld
  split_ifs <;> rfl

theorem savageSetColorKeyOld_info (p : Player) : (savageSetColorKeyOld p).info = p.info := by
  unfold savageSetColorKeyOld
  dsimp only
  split_ifs <;> rfl

theorem vixPlaybackOff_info (p : Player) : (vixPlaybackOff p).info = p.info := rfl

/-- What turning playback on does. -/
structure TurnedOn (p p' : Player) : Prop where
  info : p'.info = { p.info with pitch := quadwords p.info.pitch }
  stride : p'.mmio sstreamStrideReg = p.info.pitch
  control : p'.mmio sstreamControlReg = ssControl p.info

theorem vixPlaybackOn_some (h : vixPlaybackOn p = some p') : TurnedOn p p' := by
  unfold vixPlaybackOn savageDisplayVideoOld at h
  generalize hshown : (if streamsAreOff p.videoFlags then
    savageSetColorKeyOld (savageSetColorOld (savageStreamsOn p)) else p) = shown at h
  have hinfo : shown.info = p.info := by
    rw [← hshown]
    split_ifs
    · rw [savageSetColorKeyOld_info, savageSetColorOld_info, savageStreamsOn_info]
    · rfl
  dsimp only at h
  split_ifs at h with hdrw
  obtain rfl := Option.some.inj h
  refine ⟨?_, ?_, ?_⟩
  · rw [hinfo]
  · rw [← hinfo]
    simp +decide [streamWrites, Mmio.outreg]
  · rw [← hinfo]
    simp +decide [streamWrites, Mmio.outreg]

theorem run_append (p : Player) (pre post : List Call) :
    p.run (pre ++ post) = (p.run pre).bind (·.run post) := by
  induction pre generalizing p with
  | nil => rfl
  | cons call pre ih =>
    show (p.call call).bind (·.run (pre ++ post)) = ((p.call call).bind (·.run pre)).bind _
    rw [Option.bind_assoc]
    congr 1
    exact funext fun p' => ih p'

/-- **After a run in which playback has been turned on `n` times, an eighth of the pitch has been
taken `n` times.** -/
theorem pitch_run (h : p.run calls = some p') :
    p'.info.pitch = quadwords^[calls.count .playbackOn] p.info.pitch := by
  induction calls generalizing p with
  | nil =>
    obtain rfl := Option.some.inj h
    rfl
  | cons call calls ih =>
    obtain ⟨next, hcall, hrun⟩ := Option.bind_eq_some_iff.mp h
    rw [ih hrun]
    cases call with
    | playbackOn =>
      rw [List.count_cons_self, (vixPlaybackOn_some hcall).info, Function.iterate_succ_apply]
    | playbackOff =>
      obtain rfl := Option.some.inj hcall
      rw [List.count_cons_of_ne (by decide), vixPlaybackOff_info]

/-- The stride that is programmed is the pitch that has been stored until then. -/
theorem stride_run (pre : List Call) (h : p.run (pre ++ [.playbackOn]) = some p') :
    p'.mmio sstreamStrideReg = quadwords^[pre.count .playbackOn] p.info.pitch := by
  rw [run_append] at h
  obtain ⟨before, hpre, hlast⟩ := Option.bind_eq_some_iff.mp h
  obtain ⟨after, hon, hrun⟩ := Option.bind_eq_some_iff.mp hlast
  obtain rfl := Option.some.inj hrun
  rw [(vixPlaybackOn_some hon).stride, pitch_run hpre]

/-! ### After a configuration -/

/-- A configuration that succeeds stores a pitch of 16 bytes at least, and a multiple of 16. -/
theorem pitch_of_config {pci : PciInfo} {info : ChipInfo SavageArch} {vinfo : VidixPlayback}
    {answer : Answer} {o : Outcome SavageArch}
    (h : vixConfigPlayback pci info vinfo answer = some o) (hret : o.ret = 0) :
    16 ≤ o.info.pitch.toNat ∧ 16 ∣ o.info.pitch.toNat := by
  unfold vixConfigPlayback at h
  split_ifs at h with hfourcc
  · obtain rfl := Option.some.inj h
    exact absurd (show (-1 : ℤ) = 0 from hret) (by decide)
  · have hsize : frameSizeOf vinfo ≠ 0 := by
      intro hzero
      unfold configFrames at h
      dsimp only at h
      split_ifs at h
      · obtain rfl := Option.some.inj h
        exact absurd (show (-1 : ℤ) = 0 from hret) (by decide)
      · obtain rfl := Option.some.inj h
        exact absurd (show (-1 : ℤ) = 0 from hret) (by decide)
    obtain ⟨hpitch, -, -⟩ := configFrames_frameSize h
    have hlow := pitchOf_low vinfo.src.w (bytesPerPixel vinfo.fourcc)
    have hne : (o.info.pitch &&& 0xffff).toNat ≠ 0 := by
      intro hzero
      refine hsize ?_
      unfold frameSizeOf
      rw [← hpitch, UInt32.toNat_inj.mp (show (o.info.pitch &&& 0xffff).toNat =
        (0 : UInt32).toNat from hzero), UInt32.zero_mul]
    have hmod : (o.info.pitch &&& 0xffff).toNat = o.info.pitch.toNat % 2 ^ 16 := by
      rw [UInt32.toNat_and]
      exact Nat.and_two_pow_sub_one_eq_mod _ 16
    rw [hpitch] at hne hmod ⊢
    omega

/-- After a configuration and a run in which playback has been turned on `n` times, the stored pitch
is the configured one divided by `8 ^ n` and rounded up. -/
theorem pitch_run_toNat {pci : PciInfo} {info : ChipInfo SavageArch} {vinfo : VidixPlayback}
    {answer : Answer} {o : Outcome SavageArch}
    (hconfig : vixConfigPlayback pci info vinfo answer = some o) (hret : o.ret = 0)
    (hinfo : p.info = o.info) (h : p.run calls = some p') :
    p'.info.pitch.toNat =
      (o.info.pitch.toNat + (8 ^ calls.count .playbackOn - 1)) / 8 ^ calls.count .playbackOn := by
  obtain ⟨-, hdvd⟩ := pitch_of_config hconfig hret
  have hlt := o.info.pitch.toNat_lt
  rw [pitch_run h, hinfo]
  exact iterate_quadwords_toNat (by omega) _

/-- The first time already, the pitch is divided. -/
theorem not_repeated {pre : List Call} (hpitch : 2 ≤ p.info.pitch.toNat)
    (hpre : Call.playbackOn ∉ pre) (h : p.run (pre ++ [.playbackOn]) = some p') :
    ¬ Repeated p p' := by
  intro hrepeated
  have hrun := pitch_run h
  rw [List.count_append, List.count_eq_zero_of_not_mem hpre, hrepeated.info] at hrun
  exact quadwords_ne hpitch hrun.symm

/-- **After a configuration, a run of calls repeats what the first `vixPlaybackOn` does and leaves
the configuration alone iff it has no `vixPlaybackOn`.** -/
theorem repeatable_iff {pci : PciInfo} {info : ChipInfo SavageArch} {vinfo : VidixPlayback}
    {answer : Answer} {o : Outcome SavageArch}
    (hconfig : vixConfigPlayback pci info vinfo answer = some o) (hret : o.ret = 0)
    (hinfo : p.info = o.info) (calls : List Call) :
    Repeatable p calls ↔ Call.playbackOn ∉ calls := by
  have hpitch : 16 ≤ p.info.pitch.toNat := hinfo ▸ (pitch_of_config hconfig hret).1
  constructor
  · intro h hmem
    obtain ⟨pre, post, rfl, hpre⟩ := List.eq_append_cons_of_mem hmem
    obtain ⟨p', hrun, hrepeated⟩ := h pre ⟨post, by rw [List.append_assoc]; rfl⟩
    exact not_repeated (by omega) hpre hrun hrepeated
  · intro h pre hpre
    exact absurd (hpre.subset (List.mem_append_right pre List.mem_cons_self)) h

/-- A Savage4 with eight megabytes, a desktop of 640 by 480 pixels with 16 bits each, and the
streams on. -/
def samplePlayer : Player where
  info := { ChipInfo.calloc SavageArch.savage4 with
    depth := 16, bpp := 16, screenX := 640, screenY := 480, fbsize := 8388608 }
  videoFlags := vfStreamsOn
  vidixcolorkey := 0
  mmio := fun _ => 0
  crtc := fun _ => 0

/-- What the configuration leaves. -/
def sampleOutcome : Option (Outcome SavageArch) :=
  vixConfigPlayback ⟨0xe0000000, 0xe8000000⟩ samplePlayer.info (samplePlayback 320 240)
    ⟨0x1000, by decide⟩

/-- The driver after the configuration. -/
def configuredPlayer : Player :=
  { samplePlayer with info := (sampleOutcome.map Outcome.info).getD samplePlayer.info }

theorem repeatable_off : Repeatable configuredPlayer [.playbackOff, .playbackOff] :=
  (repeatable_iff (Option.some_get (x := sampleOutcome) rfl).symm rfl rfl _).mpr (by decide)

/-- **With rows of 640 bytes, the stride is programmed with 640 bytes first and with 80 bytes the
second time.** -/
theorem second_stride :
    (∃ o, sampleOutcome = some o ∧ o.ret = 0 ∧ configuredPlayer.info = o.info) ∧
      ¬ Repeatable configuredPlayer [.playbackOn, .playbackOff, .playbackOn] ∧
      ∃ first second,
        configuredPlayer.run [.playbackOn] = some first ∧
        configuredPlayer.run [.playbackOn, .playbackOff, .playbackOn] = some second ∧
        first.mmio sstreamStrideReg &&& 0xffff = 640 ∧
        second.mmio sstreamStrideReg &&& 0xffff = 80 := by
  have hfirst : (configuredPlayer.run [.playbackOn]).isSome := rfl
  have hsecond : (configuredPlayer.run [.playbackOn, .playbackOff, .playbackOn]).isSome := rfl
  obtain ⟨first, hfirst⟩ := Option.isSome_iff_exists.mp hfirst
  obtain ⟨second, hsecond⟩ := Option.isSome_iff_exists.mp hsecond
  have hpitch : 2 ≤ configuredPlayer.info.pitch.toNat := by decide
  refine ⟨⟨_, rfl, rfl, rfl⟩, fun h => ?_, first, second, hfirst, hsecond, ?_, ?_⟩
  · obtain ⟨p', hrun, hrepeated⟩ := h [] ⟨_, rfl⟩
    exact not_repeated hpitch List.not_mem_nil hrun hrepeated
  · rw [stride_run [] hfirst]
    decide
  · rw [stride_run [.playbackOn, .playbackOff] hsecond]
    decide

end Vidix.Savage
