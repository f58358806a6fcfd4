import Vidix.Mga.Equiv.Registers
import Vidix.Mga.Equiv.Config
import Vidix.Util.GuardedRun

/-!
# The frames of the Matrox driver

A configuration grants up to 64 frames, but the chip has four buffers, which two bits of `besctl`
select.  The bits of a larger index are carried out of the field that is cleared before the next
one: they stay in the register, and the field wraps.  So frame selection is right iff at most four
frames have been granted (`vixPlaybackFrameSelect_selects_iff`), or, of one run of calls, iff no
index is above three.
-/

namespace Vidix.Mga

open Util

/-- The scaler after a run of selections. -/
def Scaler.select (s : Scaler) (frames : List UInt32) : Scaler :=
  frames.foldl Scaler.vixPlaybackFrameSelect s

theorem Scaler.select_concat (s : Scaler) (frames : List UInt32) (frame : UInt32) :
    s.select (frames ++ [frame]) = (s.select frames).vixPlaybackFrameSelect frame :=
  List.foldl_concat _ _ _ _

/-- The field holds `frame`, and the other bits of `besctl` are those of `configured`. -/
structure Shows (configured s : Scaler) (frame : UInt32) : Prop where
  field : (s.regs.besctl &&& bufferMask).toNat = frame.toNat * 2 ^ 25
  rest : s.regs.besctl &&& ~~~bufferMask = configured.regs.besctl &&& ~~~bufferMask
  written : s.chip.besctl = s.regs.besctl

/-- What runs of selections owe after a configuration with `n` frames. -/
structure SelectsFrames (configured : Scaler) (n : ℕ) : Prop where
  shows : ∀ frames frame, (∀ f ∈ frames ++ [frame], f.toNat < n) →
    Shows configured (configured.select (frames ++ [frame])) frame
  apart : ∀ frames frame frames' frame', (∀ f ∈ frames ++ [frame], f.toNat < n) →
    (∀ f ∈ frames' ++ [frame'], f.toNat < n) → frame ≠ frame' →
    (configured.select (frames ++ [frame])).shownOrg ≠
      (configured.select (frames' ++ [frame'])).shownOrg

/-! ### One selection -/

theorem and_bufferMask_toNat (x : UInt32) :
    (x &&& bufferMask).toNat = x.toNat / 2 ^ 24 % 8 * 2 ^ 24 :=
  toNat_and_field (w := 3) rfl

theorem and_not_bufferMask_toNat (x : UInt32) :
    (x &&& ~~~bufferMask).toNat = x.toNat - x.toNat / 2 ^ 24 % 8 * 2 ^ 24 := by
  rw [toNat_and_not, and_bufferMask_toNat]

variable {s configured : Scaler} {frame : UInt32}

/-- The word that a selection writes. -/
def selectWord (besctl frame : UInt32) : UInt32 := (besctl &&& ~~~bufferMask) + frame <<< 25

theorem frameSelect_regs_besctl (s : Scaler) (frame : UInt32) :
    (s.vixPlaybackFrameSelect frame).regs.besctl = selectWord s.regs.besctl frame := rfl

theorem frameSelect_chip_besctl (s : Scaler) (frame : UInt32) :
    (s.vixPlaybackFrameSelect frame).chip.besctl = selectWord s.regs.besctl frame := rfl

theorem selectWord_toNat (besctl frame : UInt32) :
    (selectWord besctl frame).toNat =
      (besctl.toNat - besctl.toNat / 2 ^ 24 % 8 * 2 ^ 24 + frame.toNat * 2 ^ 25 % 2 ^ 32) %
        2 ^ 32 := by
  unfold selectWord
  rw [UInt32.toNat_add, and_not_bufferMask_toNat, toNat_shiftLeft_of_lt (n := 25) _ rfl (by decide)]

/-- Whatever the register holds, the buffer is that of the last two bits of the index. -/
theorem selectedBuffer_frameSelect (s : Scaler) (frame : UInt32) :
    (selectedBuffer (s.vixPlaybackFrameSelect frame).chip.besctl).frame = frame.toNat % 4 := by
  have hbits : ∀ besctl, (selectedBuffer besctl).frame = besctl.toNat / 2 ^ 25 % 4 := by
    intro besctl
    have hfour : besctl.toNat / 2 ^ 25 % 4 = 0 ∨ besctl.toNat / 2 ^ 25 % 4 = 1 ∨
        besctl.toNat / 2 ^ 25 % 4 = 2 ∨ besctl.toNat / 2 ^ 25 % 4 = 3 := by omega
    unfold selectedBuffer
    rcases hfour with h | h | h | h <;> rw [h] <;> rfl
  have hword := selectWord_toNat s.regs.besctl frame
  rw [hbits, frameSelect_chip_besctl]
  omega

/-- Four indices fit into the field, -/
theorem field_frameSelect (s : Scaler) (hframe : frame.toNat < 4) :
    ((s.vixPlaybackFrameSelect frame).regs.besctl &&& bufferMask).toNat =
      frame.toNat * 2 ^ 25 := by
  have hword := selectWord_toNat s.regs.besctl frame
  rw [frameSelect_regs_besctl, and_bufferMask_toNat]
  omega

/-- and leave the other bits alone. -/
theorem rest_frameSelect (s : Scaler) (hframe : frame.toNat < 4) :
    (s.vixPlaybackFrameSelect frame).regs.besctl &&& ~~~bufferMask =
      s.regs.besctl &&& ~~~bufferMask := by
  have hword := selectWord_toNat s.regs.besctl frame
  have hlt : s.regs.besctl.toNat < 2 ^ 32 := UInt32.toNat_lt _
  rw [frameSelect_regs_besctl, ← UInt32.toNat_inj, and_not_bufferMask_toNat,
    and_not_bufferMask_toNat]
  omega

/-- No larger index does. -/
theorem Shows.lt (h : Shows configured s frame) : frame.toNat < 4 := by
  have hfield := h.field
  rw [and_bufferMask_toNat] at hfield
  omega

/-! ### A run of selections -/

/-- **Throughout a run the register shows the last selection iff no index is above three.** -/
theorem forall_prefix_shows_iff (configured : Scaler) (frames : List UInt32) :
    (∀ pre frame, pre ++ [frame] <+: frames →
        Shows configured (configured.select (pre ++ [frame])) frame) ↔
      ∀ f ∈ frames, f.toNat < 4 := by
  constructor
  · intro h f hf
    obtain ⟨pre, post, rfl⟩ := List.append_of_mem hf
    refine (h pre f ⟨post, ?_⟩).lt
    rw [List.append_assoc, List.singleton_append]
  · intro h pre frame hpre
    have hmem : ∀ f ∈ pre ++ [frame], f.toNat < 4 := fun f hf => h f (hpre.subset hf)
    -- the other bits are kept by each of the calls before
    have hguarded : Guarded Scaler.vixPlaybackFrameSelect (fun _ f => f.toNat < 4) configured pre :=
      guarded_of_forall_mem configured fun f hf => hmem f (List.mem_append_left _ hf)
    have hrest : (configured.select pre).regs.besctl &&& ~~~bufferMask =
        configured.regs.besctl &&& ~~~bufferMask := by
      refine hguarded.unchanged (fun s => s.regs.besctl &&& ~~~bufferMask) fun s f hf => ?_
      rw [rest_frameSelect s hf]
    have hlast : frame.toNat < 4 := hmem frame (by simp)
    rw [Scaler.select_concat]
    refine ⟨field_frameSelect _ hlast, ?_, ?_⟩
    · rw [rest_frameSelect _ hlast, hrest]
    · rw [frameSelect_regs_besctl, frameSelect_chip_besctl]

/-! ### The buffers -/

/-- The addresses of the buffers are not touched. -/
theorem Scaler.org_select (s : Scaler) (frames : List UInt32) (b : Buffer) :
    (s.select frames).chip.org b = s.chip.org b := by
  have hguarded : Guarded Scaler.vixPlaybackFrameSelect (fun _ _ => True) s frames :=
    guarded_true s frames
  refine hguarded.unchanged (fun t => t.chip.org b) fun t f _ => ?_
  cases b <;> simp only [Scaler.vixPlaybackFrameSelect, BesRegisters.org]

variable {d : Driver} {config : VidixPlayback} {vcount : UInt32}

/-- What is shown after a selection is the buffer of the last two bits of the index. -/
theorem shownOrg_select (h : (vixConfigPlayback d config).1 = 0) (frames : List UInt32)
    (frame : UInt32) :
    ((s.vixConfigPlayback d config vcount).select (frames ++ [frame])).shownOrg =
      startAdr (vixConfigPlayback d config).2.1.mgaSrcBase config (lumaAdrofs config)
        (UInt32.ofNat (frame.toNat % 4)) := by
  unfold Scaler.shownOrg
  rw [Scaler.org_select, Scaler.chip_org h, Scaler.select_concat, selectedBuffer_frameSelect]

/-- Two of the four buffers have one start iff the frames between them wrap to nothing. -/
theorem startAdr_ne_iff {srcBase baseadrofs : Int32} {i j : ℕ} (hij : i < j) :
    startAdr srcBase config baseadrofs (UInt32.ofNat j) ≠
        startAdr srcBase config baseadrofs (UInt32.ofNat i) ↔
      UInt32.ofNat (j - i) * frameSizeOf config ≠ 0 := by
  have hsum : UInt32.ofNat j = UInt32.ofNat i + UInt32.ofNat (j - i) := by
    rw [← UInt32.ofNat_add, Nat.add_sub_cancel' hij.le]
  unfold startAdr
  rw [Ne, add_right_inj, hsum, add_mul, add_eq_left]

/-- Up to four frames have starts of their own iff no distance between two of them wraps. -/
theorem selectsFrames_iff (h : (vixConfigPlayback d config).1 = 0) {n : ℕ} (hn : n < 2 ^ 32) :
    SelectsFrames (s.vixConfigPlayback d config vcount) n ↔
      n ≤ 4 ∧ ∀ k, 0 < k → k < n → UInt32.ofNat k * frameSizeOf config ≠ 0 := by
  have hone : ∀ k < n, ∀ f ∈ [] ++ [UInt32.ofNat k], f.toNat < n := by
    intro k hk f hf
    rw [List.nil_append, List.mem_singleton] at hf
    rwa [hf, UInt32.toNat_ofNat', Nat.mod_eq_of_lt (by omega)]
  constructor
  · intro hsel
    have hfour : n ≤ 4 := by
      by_contra hlarge
      have hshows := hsel.shows [] (UInt32.ofNat 4) (hone 4 (by omega))
      exact absurd hshows.lt (by decide)
    refine ⟨hfour, fun k hpos hk => ?_⟩
    have hmod : (UInt32.ofNat k).toNat % 4 = k := by
      rw [UInt32.toNat_ofNat', Nat.mod_eq_of_lt (show k < 2 ^ 32 by omega),
        Nat.mod_eq_of_lt (by omega)]
    have hne : UInt32.ofNat k ≠ UInt32.ofNat 0 := fun heq => by
      have := congrArg UInt32.toNat heq
      rw [UInt32.toNat_ofNat', UInt32.toNat_ofNat'] at this
      omega
    have hstart := hsel.apart [] _ [] _ (hone k hk) (hone 0 (by omega)) hne
    rw [shownOrg_select h, shownOrg_select h, hmod] at hstart
    exact (startAdr_ne_iff hpos).mp hstart
  · rintro ⟨hfour, hsizes⟩
    have hstarts : ∀ i j, i < j → j < n →
        startAdr (vixConfigPlayback d config).2.1.mgaSrcBase config (lumaAdrofs config)
            (UInt32.ofNat j) ≠
          startAdr (vixConfigPlayback d config).2.1.mgaSrcBase config (lumaAdrofs config)
            (UInt32.ofNat i) :=
      fun i j hij hj => (startAdr_ne_iff hij).mpr (hsizes (j - i) (by omega) (by omega))
    refine ⟨fun frames frame hmem => ?_, fun frames frame frames' frame' hmem hmem' hne => ?_⟩
    · refine (forall_prefix_shows_iff _ (frames ++ [frame])).mpr (fun f hf => ?_) frames frame
        (List.prefix_refl _)
      have := hmem f hf
      omega
    · have hlt : frame.toNat < n := hmem frame (by simp)
      have hlt' : frame'.toNat < n := hmem' frame' (by simp)
      rw [shownOrg_select h, shownOrg_select h, Nat.mod_eq_of_lt (show frame.toNat < 4 by omega),
        Nat.mod_eq_of_lt (show frame'.toNat < 4 by omega)]
      rcases Nat.lt_or_gt_of_ne fun heq => hne (UInt32.toNat_inj.mp heq) with hless | hmore
      · exact (hstarts _ _ hless hlt').symm
      · exact hstarts _ _ hmore hlt

/-- **Frame selection is right iff at most four frames have been granted,** and no distance between
two of them wraps to nothing.  One run of calls shows what it selects iff no index is above
three. -/
theorem vixPlaybackFrameSelect_selects_iff (s : Scaler) (d : Driver) (config : VidixPlayback)
    (vcount : UInt32) (h : (vixConfigPlayback d config).1 = 0) :
    (SelectsFrames (s.vixConfigPlayback d config vcount)
        (vixConfigPlayback d config).2.2.numFrames.toNat ↔
      (vixConfigPlayback d config).2.2.numFrames.toNat ≤ 4 ∧
        ∀ k, 0 < k → k < (vixConfigPlayback d config).2.2.numFrames.toNat →
          UInt32.ofNat k * frameSizeOf config ≠ 0) ∧
      ∀ frames, (∀ pre frame, pre ++ [frame] <+: frames →
          Shows (s.vixConfigPlayback d config vcount)
            ((s.vixConfigPlayback d config vcount).select (pre ++ [frame])) frame) ↔
        ∀ f ∈ frames, f.toNat < 4 :=
  ⟨selectsFrames_iff h (UInt32.toNat_lt _), forall_prefix_shows_iff _⟩

/-- Two frames are told apart. -/
theorem vixPlaybackFrameSelect_selects_two :
    SelectsFrames
      (sampleScaler.vixConfigPlayback sampleDriver { sampleFrames with numFrames := 2 } 0) 2 := by
  refine (vixPlaybackFrameSelect_selects_iff sampleScaler sampleDriver
    { sampleFrames with numFrames := 2 } 0 (by decide)).1.mpr ⟨by decide, fun k hpos hk => ?_⟩
  have hlt : k < 2 := hk
  obtain rfl : k = 1 := by omega
  decide

/-- **Of eleven frames the fifth is shown from the buffer of the first,** and leaves a bit behind
that the next selection does not clear. -/
theorem vixPlaybackFrameSelect_reuses_buffer :
    (vixConfigPlayback sampleDriver sampleFrames).1 = 0 ∧
      (vixConfigPlayback sampleDriver sampleFrames).2.2.numFrames = 11 ∧
      ((sampleScaler.vixConfigPlayback sampleDriver sampleFrames 0).select [4]).shownOrg =
        ((sampleScaler.vixConfigPlayback sampleDriver sampleFrames 0).select [0]).shownOrg ∧
      ((sampleScaler.vixConfigPlayback sampleDriver sampleFrames 0).select [4, 1]).regs.besctl &&&
          0x08000000 ≠ 0 ∧
      ¬ SelectsFrames (sampleScaler.vixConfigPlayback sampleDriver sampleFrames 0) 11 := by
  refine ⟨by decide, by decide, by decide, by decide, fun hsel => ?_⟩
  have hfour := ((selectsFrames_iff (by decide) (by decide)).mp hsel).1
  exact absurd hfour (by decide)

end Vidix.Mga
