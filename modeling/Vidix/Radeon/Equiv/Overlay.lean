import Vidix.Radeon.Overlay
import Vidix.Radeon.Equiv.FrameSelect
import Vidix.Util.Flags

/-!
# The overlay of the Radeon driver follows its calls

After a configuration the overlay is off.  Turning it on shows the first frame in both buffers,
whatever was selected before; while it is on, a frame that is selected is shown, with the one before
it in the second buffer, and the key and the deinterlacing are in the registers as they were last
set, before or after the overlay was turned on.  What is asked for by a run of calls is written down
in `Asked`, and the state follows it (`overlay_follows`).
-/

namespace Vidix.Radeon

open Util

variable {n : ℕ}

/-! ### What is asked for -/

/-- The frame before another in the ring. -/
def before (i : Fin n) : Fin n := ⟨cyclicPred n i, cyclicPred_lt i.pos i⟩

/-- The frames in the two buffers, if the overlay is to be shown, and the key and the pattern that
were last set. -/
structure Asked (n : ℕ) where
  shown : Option (Fin n × Fin n)
  ckey : Option VidixCkey
  pattern : Option UInt32
  deriving DecidableEq, Repr

/-- What a call asks for. -/
def Asked.turn (hn : 0 < n) (a : Asked n) : Call (Fin n) → Asked n
  | .playbackOn => { a with shown := some (⟨0, hn⟩, ⟨0, hn⟩) }
  | .playbackOff => { a with shown := none }
  | .frameSelect frame => { a with shown := a.shown.map fun _ => (frame, before frame) }
  | .setGrKeys ckey => { a with ckey := some ckey }
  | .setDeint info => { a with pattern := patternOf info }

/-- Nothing has been asked for yet; the pattern is that of earlier calls. -/
def Asked.none (bes : Bes) : Asked n where
  shown := .none
  ckey := .none
  pattern := if bes.deinterlaceOn then some bes.deinterlacePattern else .none

/-- What `vixPlaybackGetDeint` reports of a pattern. -/
def reportOf (pattern : Option UInt32) (info : VidixDeinterlace) : VidixDeinterlace :=
  match pattern with
  | some pattern => { flags := cfgUniqueInterlacing, deinterlacePattern := pattern }
  | .none => { info with flags := cfgNonInterlaced }

/-! ### What follows it -/

/-- The scaler is enabled. -/
def Ov0.isOn (regs : Ov0) : Bool := regs.scaleCntl &&& scalerEnable != 0

/-- The bit of the deinterlacing. -/
def Ov0.isAdaptive (regs : Ov0) : Bool := regs.scaleCntl &&& scalerAdaptiveDeint != 0

/-- The address of the planes of a frame. -/
def State.row (s : State) (i : ℕ) : PlaneAdrs := (frameTable s.driver.besr s.left).vidBufBaseAdrs i

/-- The overlay is on, and its registers have what the static variables have. -/
structure Shown (s : State) (i j : ℕ) : Prop where
  on : s.regs.isOn = true
  adrs : s.regs.vidBufBaseAdrs = baseAdrs s.row i j
  pitch0 : s.regs.vidBufPitch0Value = s.driver.besr.vidBufPitch0Value
  pitch1 : s.regs.vidBufPitch1Value = s.driver.besr.vidBufPitch1Value
  keyMsk : s.regs.graphicsKeyMsk = s.bes.graphicsKeyMsk
  keyClr : s.regs.graphicsKeyClr = s.bes.graphicsKeyClr
  keyCntl : s.regs.keyCntl = s.bes.ckeyCntl
  adaptive : s.regs.isAdaptive = s.bes.deinterlaceOn
  pattern : s.bes.deinterlaceOn = true → s.regs.deinterlacePattern = s.bes.deinterlacePattern

/-- The overlay is off, or it shows the frames. -/
def RegsFollow (s : State) : Option (Fin n × Fin n) → Prop
  | .none => s.regs.isOn = false
  | some (i, j) => Shown s i j

/-- The static variables have the same key. -/
structure SameKey (bes bes' : Bes) : Prop where
  ckeyOn : bes.ckeyOn = bes'.ckeyOn
  msk : bes.graphicsKeyMsk = bes'.graphicsKeyMsk
  clr : bes.graphicsKeyClr = bes'.graphicsKeyClr
  cntl : bes.ckeyCntl = bes'.ckeyCntl
  merge : bes.mergeCntl = bes'.mergeCntl

theorem SameKey.trans {bes bes' bes'' : Bes} (h : SameKey bes bes') (h' : SameKey bes' bes'') :
    SameKey bes bes'' :=
  ⟨h.ckeyOn.trans h'.ckeyOn, h.msk.trans h'.msk, h.clr.trans h'.clr, h.cntl.trans h'.cntl,
    h.merge.trans h'.merge⟩

/-- The state follows what has been asked for since `c` was configured. -/
structure Follows (c s : State) (a : Asked n) : Prop where
  driver : s.driver = c.driver
  left : s.left = c.left
  chip : s.r1x0 = c.r1x0
  deint : (if s.bes.deinterlaceOn then some s.bes.deinterlacePattern else .none) = a.pattern
  grkey : s.radeonGrkey = a.ckey.getD c.radeonGrkey
  key : ∀ ckey ∈ a.ckey, SameKey s.bes
    (c.bes.setGrKey c.r1x0 (radeonVidGetDbpp c.driver.regs) ckey).2
  merge : ∀ ckey ∈ a.ckey, s.regs.dispMergeCntl = s.bes.mergeCntl
  regs : RegsFollow s a.shown

/-- A configuration that has been accepted: the overlay is off, and there are `n` frames. -/
structure Ready (c : State) (n : ℕ) : Prop where
  vidNbufs : c.driver.besr.vidNbufs.toNat = n
  pos : 0 < n
  le_max : n ≤ vidPlayMaxframes.toNat
  single : c.driver.besr.doubleBuff = false → n = 1
  stopped : c.regs.isOn = false

/-! ### Bits of `OV0_SCALE_CNTL` -/

/-- A bit that is neither in the format nor the one that is cleared in the end. -/
theorem besFlags_and {m : UInt32} (doubleBuff : Bool) (bes : Bes)
    (hformat : scalerSurfacFormat &&& m = 0) (hclear : ~~~scalerUseOv1 &&& m = m) :
    besFlags doubleBuff bes &&& m =
      ((scalerEnable ||| scalerSmartSwitch ||| scalerY2rTemp ||| scalerPixExpand) &&& m) |||
        (if doubleBuff then scalerDoubleBuffer &&& m else 0) |||
        (if bes.deinterlaceOn then scalerAdaptiveDeint &&& m else 0) |||
        (if bes.loadPrgStart then scalerPrgLoadStart &&& m else 0) := by
  have hsurf : bes.surfId <<< 8 &&& scalerSurfacFormat &&& m = 0 := by
    rw [UInt32.and_assoc, hformat, UInt32.and_zero]
  unfold besFlags
  dsimp only
  rw [UInt32.and_assoc, hclear]
  split_ifs <;> simp only [or_and_distrib, hsurf, UInt32.or_zero]

theorem isOn_besFlags (doubleBuff : Bool) (bes : Bes) :
    besFlags doubleBuff bes &&& scalerEnable = scalerEnable := by
  rw [besFlags_and doubleBuff bes (by decide) (by decide)]
  cases doubleBuff <;> cases bes.deinterlaceOn <;> cases bes.loadPrgStart <;> decide

theorem isAdaptive_besFlags (doubleBuff : Bool) (bes : Bes) :
    besFlags doubleBuff bes &&& scalerAdaptiveDeint =
      if bes.deinterlaceOn then scalerAdaptiveDeint else 0 := by
  rw [besFlags_and doubleBuff bes (by decide) (by decide)]
  cases doubleBuff <;> cases bes.deinterlaceOn <;> cases bes.loadPrgStart <;> decide

/-! ### The calls, one by one -/

theorem besFlags_isOn (s : State) : (radeonVidDisplayVideo s).isOn = true := by
  have h : (radeonVidDisplayVideo s).scaleCntl &&& scalerEnable = scalerEnable :=
    isOn_besFlags _ _
  unfold Ov0.isOn
  rw [h]
  decide

theorem besFlags_isAdaptive (s : State) :
    (radeonVidDisplayVideo s).isAdaptive = s.bes.deinterlaceOn := by
  have h : (radeonVidDisplayVideo s).scaleCntl &&& scalerAdaptiveDeint =
      if s.bes.deinterlaceOn then scalerAdaptiveDeint else 0 := isAdaptive_besFlags _ _
  unfold Ov0.isAdaptive
  rw [h]
  cases s.bes.deinterlaceOn <;> decide

theorem stopVideo_isOn (regs : Ov0) : (radeonVidStopVideo regs).isOn = false := by
  have h : (radeonVidStopVideo regs).scaleCntl &&& scalerEnable = 0 := by
    show scalerSoftReset &&& scalerEnable = 0
    decide
  unfold Ov0.isOn
  rw [h]
  decide

section Steps

variable {c s : State} {a : Asked n}

theorem Follows.playbackOn (h : Follows c s a) (hn : 0 < n) :
    Follows c (vixPlaybackOn s) (a.turn hn .playbackOn) := by
  refine ⟨h.driver, h.left, h.chip, h.deint, h.grkey, h.key, h.merge, ?_⟩
  exact ⟨besFlags_isOn s, rfl, rfl, rfl, rfl, rfl, rfl, besFlags_isAdaptive s,
    fun hon => if_pos hon⟩

theorem Follows.playbackOff (h : Follows c s a) (hn : 0 < n) :
    Follows c (vixPlaybackOff s) (a.turn hn .playbackOff) :=
  ⟨h.driver, h.left, h.chip, h.deint, h.grkey, h.key, h.merge, stopVideo_isOn s.regs⟩

/-- The registers of a frame that is selected; with one buffer there is only one frame. -/
theorem selectFrame_regs (hc : Ready c n) (hdriver : s.driver = c.driver) (i : Fin n) :
    ∃ adrs : Ov0BaseAdrs,
      (selectFrame s (UInt32.ofNat i)).getD s =
        { s with regs := { s.regs with vidBufBaseAdrs := adrs } } ∧
      ((adrs = s.regs.vidBufBaseAdrs ∧ n = 1) ∨ adrs = baseAdrs s.row i (before i)) := by
  have hi := i.isLt
  have hmax := hc.le_max
  have hmax' : vidPlayMaxframes.toNat = 1024 := rfl
  have hnum : s.driver.besr.vidNbufs.toNat = n := by rw [hdriver, hc.vidNbufs]
  have hne : s.driver.besr.vidNbufs ≠ 0 := by
    rintro h0
    rw [h0] at hnum
    exact hc.pos.ne hnum
  have hword : (UInt32.ofNat i).toNat = i := toNat_ofNat_of_lt (by omega)
  unfold selectFrame
  cases hdouble : s.driver.besr.doubleBuff with
  | false =>
    have huntouched : vixPlaybackFrameSelect (frameTable s.driver.besr s.left) (UInt32.ofNat i) =
        some .untouched := by
      unfold vixPlaybackFrameSelect frameTable
      simp [hne, hdouble]
    rw [huntouched]
    exact ⟨s.regs.vidBufBaseAdrs, rfl, .inl ⟨rfl, hc.single (hdriver ▸ hdouble)⟩⟩
  | true =>
    have htable : frameTable s.driver.besr s.left =
        tableOf true s.driver.besr.vidNbufs (frameTable s.driver.besr s.left).vidBufBaseAdrs := by
      unfold tableOf
      rw [← hdouble]
      rfl
    have hpred : (i + (2 ^ 32 + n - 1)) % 2 ^ 32 % n = cyclicPred n i := by
      unfold cyclicPred
      congr 1
      omega
    rw [htable, vixPlaybackFrameSelect_eq hne (by omega), toNat_clampedFrame hne,
      if_neg (by omega), hword, hnum, hpred]
    exact ⟨_, rfl, .inr rfl⟩

theorem Follows.frameSelect (h : Follows c s a) (hc : Ready c n) (i : Fin n) :
    Follows c ((selectFrame s (UInt32.ofNat i)).getD s) (a.turn hc.pos (.frameSelect i)) := by
  obtain ⟨adrs, hs, hadrs⟩ := selectFrame_regs hc h.driver i
  rw [hs]
  refine ⟨h.driver, h.left, h.chip, h.deint, h.grkey, h.key, h.merge, ?_⟩
  have hregs := h.regs
  cases hshown : a.shown with
  | none =>
    rw [hshown] at hregs
    simp only [Asked.turn, hshown]
    exact hregs
  | some j =>
    rw [hshown] at hregs
    simp only [Asked.turn, hshown]
    obtain ⟨hon, hold, hpitch0, hpitch1, hmsk, hclr, hcntl, had, hpat⟩ := hregs
    rcases hadrs with ⟨rfl, hone⟩ | hnew
    · -- with one frame, both buffers have it already
      have hsame : ∀ k : Fin n, k = i := fun k => Fin.ext (by omega)
      have hadrs : s.regs.vidBufBaseAdrs = baseAdrs s.row i (before i) := by
        rw [hold, hsame j.1, hsame j.2, hsame (before i)]
      exact ⟨hon, hadrs, hpitch0, hpitch1, hmsk, hclr, hcntl, had, hpat⟩
    · exact ⟨hon, hnew, hpitch0, hpitch1, hmsk, hclr, hcntl, had, hpat⟩

/-- The key does not depend on what was there before. -/
theorem setGrKey_sameKey (bes bes' : Bes) (r1x0 : Bool) (dbpp : UInt32) (ckey : VidixCkey) :
    SameKey (bes.setGrKey r1x0 dbpp ckey).2 (bes'.setGrKey r1x0 dbpp ckey).2 := by
  unfold Bes.setGrKey Bes.withoutKey
  dsimp only
  split_ifs <;> exact ⟨rfl, rfl, rfl, rfl, rfl⟩

theorem setGrKey_deint (bes : Bes) (r1x0 : Bool) (dbpp : UInt32) (ckey : VidixCkey) :
    (bes.setGrKey r1x0 dbpp ckey).2.deinterlaceOn = bes.deinterlaceOn ∧
      (bes.setGrKey r1x0 dbpp ckey).2.deinterlacePattern = bes.deinterlacePattern := by
  unfold Bes.setGrKey Bes.withoutKey
  dsimp only
  split_ifs <;> exact ⟨rfl, rfl⟩

theorem Follows.setGrKeys (h : Follows c s a) (hn : 0 < n) (ckey : VidixCkey) :
    Follows c (vixSetGrKeys s ckey).2 (a.turn hn (.setGrKeys ckey)) := by
  obtain ⟨hdeint, hpattern⟩ :=
    setGrKey_deint s.bes s.r1x0 (radeonVidGetDbpp s.driver.regs) ckey
  refine ⟨h.driver, h.left, h.chip, ?_, rfl, ?_, fun _ _ => rfl, ?_⟩
  · have hold := h.deint
    rw [← hdeint, ← hpattern] at hold
    exact hold
  · intro k hk
    obtain rfl : ckey = k := Option.some.inj hk
    rw [← h.chip, ← h.driver]
    exact setGrKey_sameKey _ _ _ _ _
  · have hregs := h.regs
    cases hshown : a.shown with
    | none =>
      rw [hshown] at hregs
      simp only [Asked.turn, hshown]
      exact hregs
    | some j =>
      rw [hshown] at hregs
      simp only [Asked.turn, hshown]
      exact ⟨hregs.on, hregs.adrs, hregs.pitch0, hregs.pitch1, rfl, rfl, rfl,
        hregs.adaptive.trans hdeint.symm, fun hon =>
          (hregs.pattern (hdeint.symm.trans hon)).trans hpattern.symm⟩

/-- What the registers show is the same with another deinterlacing. -/
theorem RegsFollow.withDeint {shown : Option (Fin n × Fin n)} (h : RegsFollow s shown)
    {scale : UInt32} {on : Bool} {pattern pattern' : UInt32}
    (henable : scale &&& scalerEnable = s.regs.scaleCntl &&& scalerEnable)
    (hadaptive : (scale &&& scalerAdaptiveDeint != 0) = on)
    (hpattern : on = true → pattern' = pattern) :
    RegsFollow { s with
      bes := { s.bes with deinterlaceOn := on, deinterlacePattern := pattern }
      regs := { s.regs with scaleCntl := scale, deinterlacePattern := pattern' } } shown := by
  have hon : ∀ b, s.regs.isOn = b → (scale &&& scalerEnable != 0) = b := by
    intro b hb
    rw [henable]
    exact hb
  cases shown with
  | none => exact hon _ h
  | some i =>
    exact ⟨hon _ h.on, h.adrs, h.pitch0, h.pitch1, h.keyMsk, h.keyClr, h.keyCntl, hadaptive,
      hpattern⟩

theorem Follows.setDeint (h : Follows c s a) (hn : 0 < n) (info : VidixDeinterlace) :
    Follows c (vixPlaybackSetDeint s info) (a.turn hn (.setDeint info)) := by
  have hkey : ∀ ckey ∈ a.ckey, ∀ bes : Bes, SameKey bes s.bes →
      SameKey bes (c.bes.setGrKey c.r1x0 (radeonVidGetDbpp c.driver.regs) ckey).2 :=
    fun ckey hckey bes hbes => hbes.trans (h.key ckey hckey)
  unfold vixPlaybackSetDeint
  dsimp only [Asked.turn]
  cases patternOf info with
  | some pattern =>
    refine ⟨h.driver, h.left, h.chip, if_pos rfl, h.grkey,
      fun ckey hckey => hkey ckey hckey _ ⟨rfl, rfl, rfl, rfl, rfl⟩, h.merge, ?_⟩
    refine h.regs.withDeint (or_and_of_disjoint (by decide)) ?_ fun _ => rfl
    rw [or_and_self]
    decide
  | none =>
    refine ⟨h.driver, h.left, h.chip, if_neg Bool.false_ne_true, h.grkey,
      fun ckey hckey => hkey ckey hckey _ ⟨rfl, rfl, rfl, rfl, rfl⟩, h.merge, ?_⟩
    refine h.regs.withDeint (and_not_and_of_disjoint (by decide)) ?_
      fun hno => absurd hno Bool.false_ne_true
    have hclear : ~~~scalerAdaptiveDeint &&& scalerAdaptiveDeint = 0 := by decide
    rw [UInt32.and_assoc, hclear, UInt32.and_zero]
    decide

/-- **Each call is followed.** -/
theorem Follows.step (h : Follows c s a) (hc : Ready c n) (call : Call (Fin n)) :
    Follows c (callStep s call.toWord) (a.turn hc.pos call) := by
  cases call with
  | playbackOn => exact h.playbackOn hc.pos
  | playbackOff => exact h.playbackOff hc.pos
  | frameSelect frame => exact h.frameSelect hc frame
  | setGrKeys ckey => exact h.setGrKeys hc.pos ckey
  | setDeint info => exact h.setDeint hc.pos info

end Steps

/-! ### Runs of calls -/

theorem Ready.follows {c : State} (hc : Ready c n) : Follows c c (Asked.none (n := n) c.bes) :=
  ⟨rfl, rfl, rfl, rfl, rfl, fun _ h => absurd h (Option.not_mem_none _),
    fun _ h => absurd h (Option.not_mem_none _), hc.stopped⟩

theorem Follows.foldl {c s : State} {a : Asked n} (h : Follows c s a) (hc : Ready c n)
    (calls : List (Call (Fin n))) :
    Follows c ((calls.map Call.toWord).foldl callStep s) (calls.foldl (Asked.turn hc.pos) a) := by
  induction calls generalizing s a with
  | nil => exact h
  | cons call calls ih => exact ih (h.step hc call)

/-! ### After a configuration -/

section Configured

variable {s : State} {info : VidixPlayback}

/-- A call that succeeds has configured the driver and stopped the overlay. -/
theorem configure_of_ret (hret : (vixConfigPlayback s.driver info).1 = 0) :
    configure s info = (0, { s with
      driver := (vixConfigPlayback s.driver info).2.1
      bes := s.bes.noteFormat info.fourcc
      regs := radeonVidStopVideo s.regs }, (vixConfigPlayback s.driver info).2.2) := by
  unfold configure
  dsimp only
  rw [if_pos hret, hret]

theorem configure_ret (s : State) (info : VidixPlayback) :
    (configure s info).1 = (vixConfigPlayback s.driver info).1 := by
  unfold configure
  dsimp only
  split_ifs <;> rfl

/-- One buffer is used for one frame only. -/
theorem doubleBuff_eq {d : Driver} (hf : isSupportedFourcc info.fourcc = true)
    (h0 : (search d info).1 ≠ 0) :
    (vixConfigPlayback d info).2.1.besr.doubleBuff = (cappedFrames info.numFrames != 1) := by
  unfold search placing Placing.found at h0
  unfold vixConfigPlayback
  rw [hf, if_neg (by simp)]
  dsimp only
  rw [if_neg h0]
  unfold radeonVidInitVideo
  dsimp only
  split_ifs <;> rfl

theorem configure_ready (hf : isSupportedFourcc info.fourcc = true)
    (hret : (configure s info).1 = 0) :
    Ready (configure s info).2.1 (search s.driver info).1 := by
  rw [configure_ret] at hret
  obtain ⟨d', info', h⟩ := vixConfigPlayback_handedOn hf hret
  have h0 : (search s.driver info).1 ≠ 0 := fun h0 =>
    absurd (((vixConfigPlayback_answered hf).of_none h0).symm.trans hret) (by decide)
  have hle : (search s.driver info).1 ≤ (cappedFrames info.numFrames).toNat :=
    placeFrames_fst_le _ _ _ _ _
  rw [configure_of_ret hret]
  refine ⟨?_, Nat.pos_of_ne_zero h0, ?_, fun hdouble => ?_, stopVideo_isOn s.regs⟩
  · show (vixConfigPlayback s.driver info).2.1.besr.vidNbufs.toNat = _
    rw [h.result, initVideo_vidNbufs, h.vidNbufs]
  · rw [cappedFrames_toNat] at hle
    exact hle.trans (Nat.min_le_right _ _)
  · have hone := (doubleBuff_eq hf h0).symm.trans hdouble
    rw [bne_eq_false_iff_eq] at hone
    rw [hone] at hle
    have : (1 : UInt32).toNat = 1 := rfl
    omega

/-- **The overlay follows the calls,** whatever they are and in whatever order they come, and the
key and the deinterlacing are reported as they were last set. -/
theorem overlay_follows (s : State) (info : VidixPlayback)
    (hf : isSupportedFourcc info.fourcc = true) (hret : (configure s info).1 = 0)
    (calls : List (Call (Fin (search s.driver info).1))) :
    ∃ hn : 0 < (search s.driver info).1,
      let c := (configure s info).2.1
      let s' := (calls.map Call.toWord).foldl callStep c
      let a := calls.foldl (Asked.turn hn) (Asked.none c.bes)
      Follows c s' a ∧ vixGetGrKeys s' = a.ckey.getD s.radeonGrkey ∧
        ∀ info', vixPlaybackGetDeint s' info' = reportOf a.pattern info' := by
  have hc := configure_ready hf hret
  have hfollows := hc.follows.foldl hc calls
  have hgrkey : (configure s info).2.1.radeonGrkey = s.radeonGrkey := by
    rw [configure_ret] at hret
    rw [configure_of_ret hret]
  refine ⟨hc.pos, hfollows, ?_, fun info' => ?_⟩
  · rw [← hgrkey]
    exact hfollows.grkey
  · unfold vixPlaybackGetDeint reportOf
    rw [← hfollows.deint]
    split_ifs <;> rfl

end Configured

/-- The driver before anything was configured, in front of a desktop of 32 bits. -/
def sampleState : State where
  driver := sampleDriver
  left _ := ⟨0, 0, 0⟩
  bes := { surfId := 0, loadPrgStart := false, swapUv := false, deinterlaceOn := true
           deinterlacePattern := 0x900AAAAA, ckeyOn := false, graphicsKeyMsk := 0
           graphicsKeyClr := 0, ckeyCntl := 0, mergeCntl := 0 }
  radeonGrkey := ⟨0, 0, 0, 0⟩
  r1x0 := false
  regs := ⟨0, ⟨0, 0, 0, 0, 0, 0⟩, 0, 0, 0, 0, 0, 0, 0, 0⟩

/-- A frame is selected before the overlay is turned on, which shows the first one, and another
after that, which is shown. -/
theorem overlay_follows_sample :
    ∃ h : 2 < (search sampleState.driver (sampleRequest imgfmtYV12 352 288 3)).1,
      Shown (([.frameSelect ⟨1, by omega⟩, .playbackOn, .setDeint ⟨cfgNonInterlaced, 0⟩,
        .frameSelect ⟨2, h⟩].map Call.toWord).foldl callStep
          (configure sampleState (sampleRequest imgfmtYV12 352 288 3)).2.1) 2 1 := by
  have h : 2 < (search sampleState.driver (sampleRequest imgfmtYV12 352 288 3)).1 := by decide
  obtain ⟨hn, hfollows, -, -⟩ := overlay_follows sampleState (sampleRequest imgfmtYV12 352 288 3)
    (by decide) (by decide) [.frameSelect ⟨1, by omega⟩, .playbackOn,
      .setDeint ⟨cfgNonInterlaced, 0⟩, .frameSelect ⟨2, h⟩]
  have hregs : Shown _ 2 (cyclicPred _ 2) := hfollows.regs
  rw [cyclicPred_eq h] at hregs
  exact ⟨h, hregs⟩

end Vidix.Radeon
