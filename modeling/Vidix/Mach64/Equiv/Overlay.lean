import Vidix.Mach64.Overlay
import Vidix.Mach64.Equiv.Config
import Vidix.Util.Flags

/-!
# The overlay of the Mach64 driver follows its calls

After a configuration the overlay is off.  Turning it on shows the first frame in both buffers;
while it is on, a frame that is selected is shown with the one before it.  The key stays in the
registers as it was last set, and so do the colours on a chip that can adjust them.  On the others
the brightness is a gamma correction in the register that turns the overlay on and off, so that it
is gone after each of these calls, though it is still reported.  What is asked for by a run of
calls is written down in `Asked`, and the state follows it (`calls_followed`).
-/

namespace Vidix.Mach64

open Util

variable {n : ℕ}

/-! ### What is asked for -/

/-- The frame before another in the ring. -/
def before (i : Fin n) : Fin n := ⟨(i + (n - 1)) % n, Nat.mod_lt _ i.pos⟩

/-- The frames in the two buffers, if the overlay is to be shown, and the key and the equalizer. -/
structure Asked (n : ℕ) where
  shown : Option (Fin n × Fin n)
  ckey : Option VidixCkey
  equal : VideoEq
  /-- The equalizer has been set. -/
  adjusted : Bool
  /-- It has been set since the overlay was last turned on or off. -/
  corrected : Bool
  deriving DecidableEq, Repr

/-- What a call asks for. -/
def Asked.turn (supportsColourAdj : Bool) (hn : 0 < n) (a : Asked n) :
    OverlayCall (Fin n) → Asked n
  | .playbackOn => { a with shown := some (⟨0, hn⟩, ⟨0, hn⟩), corrected := false }
  | .playbackOff => { a with shown := none, corrected := false }
  | .frameSelect frame => { a with shown := a.shown.map fun _ => (frame, before frame) }
  | .setGrKeys ckey => { a with ckey := some ckey }
  | .setEq eq =>
    { a with equal := takeEq supportsColourAdj a.equal eq, adjusted := true, corrected := true }

/-- Nothing has been asked for yet; the equalizer is that of earlier calls. -/
def Asked.none (equal : VideoEq) : Asked n where
  shown := .none
  ckey := .none
  equal := equal
  adjusted := false
  corrected := false

/-! ### What follows it -/

/-- The overlay is enabled. -/
def Overlay.isOn (regs : Overlay) : Bool := regs.scaleCntl &&& overlayEn != 0

/-- The screen around the movie is black. -/
def Overlay.isExclusive (regs : Overlay) : Bool := regs.exclusiveHorz &&& exclusiveEn != 0

/-- The overlay is on, and its registers have what the static variables have. -/
structure Shown (s : State) (i j : ℕ) : Prop where
  on : s.regs.isOn = true
  buf0 : s.driver.row i = some s.regs.scalerBuf0
  buf1 : s.driver.row j = some s.regs.scalerBuf1
  pitch : s.regs.scalerBufPitch = s.driver.besr.vidBufPitch
  size : s.regs.scalerHeightWidth = s.driver.besr.heightWidth
  start : s.regs.yXStart = s.driver.besr.yXStart
  stop : s.regs.yXEnd = s.driver.besr.yXEnd
  scale : s.regs.scaleInc = s.driver.besr.scaleInc
  format : s.regs.videoFormat = videoFormatOf s.driver.besr.fourcc
  exclusive : s.regs.isExclusive = coversScreen s.driver

/-- The overlay is off, or it shows the frames. -/
def RegsFollow (s : State) : Option (Fin n × Fin n) → Prop
  | .none => s.regs.isOn = false ∧ s.regs.isExclusive = false
  | some (i, j) => Shown s i j

/-- The registers have the key. -/
structure HasKey (regs : Overlay) (key : Key) : Prop where
  msk : regs.graphicsKeyMsk = key.graphicsKeyMsk
  clr : regs.graphicsKeyClr = key.graphicsKeyClr
  cntl : regs.keyCntl = keyCntlOf key

/-- The state follows what has been asked for since `c` was configured. -/
structure Follows (c s : State) (a : Asked n) : Prop where
  driver : s.driver = c.driver
  chip : s.supportsColourAdj = c.supportsColourAdj
  grkey : s.mach64Grkey = a.ckey.getD c.mach64Grkey
  key : ∀ ckey ∈ a.ckey, s.key = keyOf (mach64VidGetDbpp c.driver.regs) ckey ∧ HasKey s.regs s.key
  equal : s.equal = a.equal
  colour : s.supportsColourAdj = true → a.adjusted = true →
    s.regs.scalerColourCntl = colourCntlOf a.equal
  gamma : s.regs.scaleCntl &&& scaleGammaSelMsk =
    if s.supportsColourAdj = false ∧ a.corrected = true then gammaOf a.equal
    else scaleGammaSelBright
  regs : RegsFollow s a.shown

/-- A configuration that has been accepted: the overlay is off, and there are `n` frames, each with
a row in the table. -/
structure Ready (c : State) (n : ℕ) : Prop where
  numBuffers : c.driver.numMach64Buffers.toNat = n
  pos : 0 < n
  le_rows : n ≤ bufferRows
  stopped : c.regs.isOn = false ∧ c.regs.isExclusive = false
  bright : c.regs.scaleCntl &&& scaleGammaSelMsk = scaleGammaSelBright

/-! ### Bits of `OVERLAY_SCALE_CNTL` -/

theorem scaleCntlOf_and (d : Driver) :
    scaleCntlOf d &&& overlayEn = overlayEn ∧
      scaleCntlOf d &&& scaleGammaSelMsk = scaleGammaSelBright := by
  unfold scaleCntlOf
  dsimp only
  split_ifs
  · exact ⟨by decide, by decide⟩
  · exact ⟨by decide, by decide⟩

theorem gammaOf_and (equal : VideoEq) :
    gammaOf equal &&& overlayEn = 0 ∧ gammaOf equal &&& scaleGammaSelMsk = gammaOf equal := by
  unfold gammaOf
  dsimp only
  split_ifs <;> exact ⟨by decide, by decide⟩

/-- Another gamma leaves the overlay on or off. -/
theorem withGamma_and (sc : UInt32) (equal : VideoEq) :
    ((sc &&& ~~~scaleGammaSelMsk) ||| gammaOf equal) &&& overlayEn = sc &&& overlayEn ∧
      ((sc &&& ~~~scaleGammaSelMsk) ||| gammaOf equal) &&& scaleGammaSelMsk = gammaOf equal := by
  obtain ⟨hon, hgamma⟩ := gammaOf_and equal
  constructor
  · rw [or_and_of_disjoint hon]
    exact and_not_and_of_disjoint (by decide)
  · rw [or_and_distrib, hgamma, and_not_and_eq_zero (by decide), UInt32.zero_or]

/-! ### The calls, one by one -/

/-- The registers that stop the overlay. -/
theorem stopVideo_off (regs : Overlay) :
    ((mach64VidStopVideo regs).isOn = false ∧ (mach64VidStopVideo regs).isExclusive = false) ∧
      (mach64VidStopVideo regs).scaleCntl &&& scaleGammaSelMsk = scaleGammaSelBright := by
  have hon : (mach64VidStopVideo regs).scaleCntl &&& overlayEn = 0 := by
    show (0x80000000 : UInt32) &&& overlayEn = 0
    decide
  have hexclusive : (mach64VidStopVideo regs).exclusiveHorz &&& exclusiveEn = 0 :=
    UInt32.zero_and
  refine ⟨⟨?_, ?_⟩, ?_⟩
  · unfold Overlay.isOn
    rw [hon]
    decide
  · unfold Overlay.isExclusive
    rw [hexclusive]
    decide
  · show (0x80000000 : UInt32) &&& scaleGammaSelMsk = scaleGammaSelBright
    decide

theorem playbackOn_exclusive (s : State) :
    (vixPlaybackOn s).2.regs.isExclusive = coversScreen s.driver := by
  have hhorz : (vixPlaybackOn s).2.regs.exclusiveHorz =
      if coversScreen s.driver then
        (((mach64GetXres s.driver.regs / 8 + 1) <<< 8) &&& exclusiveHorzEnd) ||| exclusiveEn
      else 0 := by
    unfold vixPlaybackOn
    dsimp only
    split_ifs <;> rfl
  unfold Overlay.isExclusive
  rw [hhorz]
  cases coversScreen s.driver with
  | true =>
    rw [if_pos rfl, or_and_self]
    decide
  | false =>
    rw [if_neg Bool.false_ne_true, UInt32.zero_and]
    decide

section Steps

variable {c s : State} {a : Asked n} {adj : Bool}

theorem Follows.playbackOn (h : Follows c s a) (hn : 0 < n) :
    Follows c (vixPlaybackOn s).2 (a.turn adj hn .playbackOn) := by
  have hon : (vixPlaybackOn s).2.regs.isOn = true := by
    have hset : (vixPlaybackOn s).2.regs.scaleCntl &&& overlayEn = overlayEn :=
      (scaleCntlOf_and s.driver).1
    unfold Overlay.isOn
    rw [hset]
    decide
  have hother : ∀ {α : Type} (f : Overlay → α),
      (∀ regs : Overlay, f (mach64VidExclusive s.driver.regs regs) = f regs) →
      (∀ regs : Overlay, f (mach64VidNonExclusive regs) = f regs) →
      f (if coversScreen s.driver then mach64VidExclusive s.driver.regs s.regs
        else mach64VidNonExclusive s.regs) = f s.regs := by
    intro α f hex hnon
    split_ifs
    · exact hex _
    · exact hnon _
  refine ⟨h.driver, h.chip, h.grkey, fun ckey hckey => ⟨(h.key ckey hckey).1, ?_⟩,
    h.equal, fun hadj hadjusted => ?_, ?_, ?_⟩
  · obtain ⟨hmsk, hclr, hcntl⟩ := (h.key ckey hckey).2
    refine ⟨Eq.trans ?_ hmsk, Eq.trans ?_ hclr, Eq.trans ?_ hcntl⟩
    · exact hother (·.graphicsKeyMsk) (fun _ => rfl) fun _ => rfl
    · exact hother (·.graphicsKeyClr) (fun _ => rfl) fun _ => rfl
    · exact hother (·.keyCntl) (fun _ => rfl) fun _ => rfl
  · refine Eq.trans ?_ (h.colour hadj hadjusted)
    exact hother (·.scalerColourCntl) (fun _ => rfl) fun _ => rfl
  · rw [if_neg (by simp [Asked.turn])]
    exact (scaleCntlOf_and s.driver).2
  · exact ⟨hon, rfl, rfl, rfl, rfl, rfl, rfl, rfl, rfl, playbackOn_exclusive s⟩

theorem Follows.playbackOff (h : Follows c s a) (hn : 0 < n) :
    Follows c (vixPlaybackOff s) (a.turn adj hn .playbackOff) := by
  refine ⟨h.driver, h.chip, h.grkey,
    fun ckey hckey => (h.key ckey hckey).imp_right fun hkey => ⟨hkey.msk, hkey.clr, hkey.cntl⟩,
    h.equal, h.colour, ?_, (stopVideo_off s.regs).1⟩
  rw [if_neg (by simp [Asked.turn])]
  exact (stopVideo_off s.regs).2

/-- The rows of a frame that is selected; of a single frame there is nothing to select. -/
theorem frameSelect_regs (hc : Ready c n) (hdriver : s.driver = c.driver) (i : Fin n) :
    ∃ buf0 buf1 : BufferRow,
      vixPlaybackFrameSelect s (UInt32.ofNat i) =
        some { s with regs := { s.regs with scalerBuf0 := buf0, scalerBuf1 := buf1 } } ∧
      ((buf0 = s.regs.scalerBuf0 ∧ buf1 = s.regs.scalerBuf1 ∧ n = 1) ∨
        s.driver.row i = some buf0 ∧ s.driver.row (before i) = some buf1) := by
  have hi := i.isLt
  have hmax := hc.le_rows
  have hmax' : bufferRows = 64 := rfl
  have hnum : s.driver.numMach64Buffers.toNat = n := by rw [hdriver, hc.numBuffers]
  have hne : s.driver.numMach64Buffers ≠ 0 := by
    intro h0
    rw [h0] at hnum
    exact hc.pos.ne hnum
  have hword : (UInt32.ofNat i).toNat = i := toNat_ofNat_of_lt (by omega)
  have hrow : ∀ j : Fin n, ∃ buf, s.driver.row j = some buf := by
    intro j
    exact ⟨_, s.driver.row_of_lt (by omega)⟩
  unfold vixPlaybackFrameSelect
  dsimp only
  rw [if_neg hne]
  by_cases hone : s.driver.numMach64Buffers = 1
  · rw [if_pos hone]
    rw [hone] at hnum
    exact ⟨s.regs.scalerBuf0, s.regs.scalerBuf1, rfl, .inl ⟨rfl, rfl, hnum.symm⟩⟩
  · have hbefore : ((UInt32.ofNat i - 1 + s.driver.numMach64Buffers) %
        s.driver.numMach64Buffers).toNat = before i := by
      have hsum : (UInt32.ofNat i - 1 + s.driver.numMach64Buffers).toNat = i + (n - 1) := by
        rw [UInt32.toNat_add, UInt32.toNat_sub, hword, hnum, show (1 : UInt32).toNat = 1 from rfl]
        omega
      rw [UInt32.toNat_mod, hsum, hnum]
      rfl
    obtain ⟨buf0, hbuf0⟩ := hrow i
    obtain ⟨buf1, hbuf1⟩ := hrow (before i)
    rw [if_neg hone, hword, hbefore, hbuf0, hbuf1]
    exact ⟨buf0, buf1, rfl, .inr ⟨rfl, rfl⟩⟩

theorem Follows.frameSelect (h : Follows c s a) (hc : Ready c n) (i : Fin n) :
    ∃ s', vixPlaybackFrameSelect s (UInt32.ofNat i) = some s' ∧
      Follows c s' (a.turn adj hc.pos (.frameSelect i)) := by
  obtain ⟨buf0, buf1, hs, hbufs⟩ := frameSelect_regs hc h.driver i
  refine ⟨_, hs, ?_⟩
  refine ⟨h.driver, h.chip, h.grkey,
    fun ckey hckey => (h.key ckey hckey).imp_right fun hkey => ⟨hkey.msk, hkey.clr, hkey.cntl⟩,
    h.equal, h.colour, h.gamma, ?_⟩
  have hregs := h.regs
  cases hshown : a.shown with
  | none =>
    rw [hshown] at hregs
    simp only [Asked.turn, hshown]
    exact hregs
  | some ij =>
    rw [hshown] at hregs
    simp only [Asked.turn, hshown]
    obtain ⟨hon, h0, h1, hpitch, hsize, hstart, hstop, hscale, hformat, hexclusive⟩ := hregs
    rcases hbufs with ⟨rfl, rfl, hone⟩ | ⟨hbuf0, hbuf1⟩
    · -- there is only one frame
      subst hone
      rw [Subsingleton.elim ij.1 i] at h0
      rw [Subsingleton.elim ij.2 (before i)] at h1
      exact ⟨hon, h0, h1, hpitch, hsize, hstart, hstop, hscale, hformat, hexclusive⟩
    · exact ⟨hon, hbuf0, hbuf1, hpitch, hsize, hstart, hstop, hscale, hformat, hexclusive⟩

theorem Follows.setGrKeys (h : Follows c s a) (hn : 0 < n) (ckey : VidixCkey) :
    Follows c (vixSetGrKeys s ckey) (a.turn adj hn (.setGrKeys ckey)) := by
  refine ⟨h.driver, h.chip, rfl, ?_, h.equal, h.colour, h.gamma, ?_⟩
  · intro k hk
    obtain rfl : ckey = k := Option.some.inj hk
    rw [← h.driver]
    exact ⟨rfl, rfl, rfl, rfl⟩
  · have hregs := h.regs
    cases hshown : a.shown with
    | none =>
      rw [hshown] at hregs
      simp only [Asked.turn, hshown]
      exact hregs
    | some ij =>
      rw [hshown] at hregs
      simp only [Asked.turn, hshown]
      obtain ⟨hon, h0, h1, hpitch, hsize, hstart, hstop, hscale, hformat, hexclusive⟩ := hregs
      exact ⟨hon, h0, h1, hpitch, hsize, hstart, hstop, hscale, hformat, hexclusive⟩

/-- What the registers show does not depend on the equalizer. -/
theorem RegsFollow.withEq {shown : Option (Fin n × Fin n)} (h : RegsFollow s shown)
    {equal : VideoEq} {sc colour : UInt32}
    (hsc : sc &&& overlayEn = s.regs.scaleCntl &&& overlayEn) :
    RegsFollow { s with
      equal := equal
      regs := { s.regs with scaleCntl := sc, scalerColourCntl := colour } } shown := by
  have hon : ∀ b, s.regs.isOn = b → (sc &&& overlayEn != 0) = b := by
    intro b hb
    rw [hsc]
    exact hb
  rcases shown with _ | ⟨i, j⟩
  · exact ⟨hon _ h.1, h.2⟩
  · obtain ⟨hs, h0, h1, hpitch, hsize, hstart, hstop, hscale, hformat, hexclusive⟩ := h
    exact ⟨hon _ hs, h0, h1, hpitch, hsize, hstart, hstop, hscale, hformat, hexclusive⟩

theorem Follows.setEq (h : Follows c s a) (hn : 0 < n) (eq : VideoEq) :
    Follows c (vixPlaybackSetEq s eq) (a.turn c.supportsColourAdj hn (.setEq eq)) := by
  have hequal : takeEq s.supportsColourAdj s.equal eq =
      takeEq c.supportsColourAdj a.equal eq := by rw [h.chip, h.equal]
  have hkey : ∀ ckey ∈ a.ckey, ∀ sc colour : UInt32,
      s.key = keyOf (mach64VidGetDbpp c.driver.regs) ckey ∧
        HasKey { s.regs with scaleCntl := sc, scalerColourCntl := colour } s.key :=
    fun ckey hckey _ _ =>
      (h.key ckey hckey).imp_right fun hkey => ⟨hkey.msk, hkey.clr, hkey.cntl⟩
  unfold vixPlaybackSetEq
  dsimp only [Asked.turn]
  rw [hequal]
  by_cases hadj : s.supportsColourAdj = true
  · rw [if_pos hadj]
    refine ⟨h.driver, h.chip, h.grkey, fun ckey hckey => hkey ckey hckey _ _, rfl,
      fun _ _ => rfl, ?_, h.regs.withEq rfl⟩
    have hgamma := h.gamma
    rw [if_neg (by simp [hadj])] at hgamma ⊢
    exact hgamma
  · rw [if_neg hadj]
    obtain ⟨hon, hgamma⟩ := withGamma_and s.regs.scaleCntl (takeEq c.supportsColourAdj a.equal eq)
    refine ⟨h.driver, h.chip, h.grkey, fun ckey hckey => hkey ckey hckey _ _, rfl,
      fun hyes => absurd hyes hadj, ?_, h.regs.withEq hon⟩
    rw [if_pos ⟨Bool.eq_false_of_not_eq_true hadj, rfl⟩]
    exact hgamma

/-- **Each call comes to its end and is followed.** -/
theorem Follows.step (h : Follows c s a) (hc : Ready c n) (call : OverlayCall (Fin n)) :
    ∃ s', callStep s call.toWord = some s' ∧
      Follows c s' (a.turn c.supportsColourAdj hc.pos call) := by
  cases call with
  | playbackOn => exact ⟨_, rfl, h.playbackOn hc.pos⟩
  | playbackOff => exact ⟨_, rfl, h.playbackOff hc.pos⟩
  | frameSelect frame => exact h.frameSelect hc frame
  | setGrKeys ckey => exact ⟨_, rfl, h.setGrKeys hc.pos ckey⟩
  | setEq eq => exact ⟨_, rfl, h.setEq hc.pos eq⟩

/-- **So is a run of calls.** -/
theorem Follows.run (h : Follows c s a) (hc : Ready c n) (calls : List (OverlayCall (Fin n))) :
    ∃ s', (calls.map OverlayCall.toWord).foldlM callStep s = some s' ∧
      Follows c s' (calls.foldl (Asked.turn c.supportsColourAdj hc.pos) a) := by
  induction calls generalizing s a with
  | nil => exact ⟨s, rfl, h⟩
  | cons call calls ih =>
    obtain ⟨s₁, hstep, hfollows⟩ := h.step hc call
    obtain ⟨s', hrun, hs'⟩ := ih hfollows
    refine ⟨s', ?_, hs'⟩
    rw [List.map_cons, List.foldlM_cons, hstep]
    exact hrun

end Steps

/-! ### After a configuration -/

section Configured

variable {s c : State} {info told : VidixPlayback}

theorem Ready.follows (hc : Ready c n) : Follows c c (Asked.none (n := n) c.equal) := by
  refine ⟨rfl, rfl, rfl, fun _ h => absurd h (Option.not_mem_none _), rfl,
    fun _ hno => absurd hno Bool.false_ne_true, ?_, hc.stopped⟩
  rw [if_neg (by simp [Asked.none])]
  exact hc.bright

/-- What an accepted configuration makes of the state. -/
theorem configure_eq_some (h : configure s info = some (0, c, told)) :
    vixConfigPlayback s.driver info = some (0, c.driver, told) ∧
      c = { s with driver := c.driver, regs := mach64VidStopVideo s.regs } := by
  unfold configure at h
  obtain ⟨⟨ret, d', info'⟩, hd, heq⟩ := Option.map_eq_some_iff.mp h
  simp only [Prod.mk.injEq] at heq
  obtain ⟨rfl, rfl, rfl⟩ := heq
  exact ⟨hd, rfl⟩

/-- What a configuration leaves for the registers, and the alignment that it tells of. -/
structure Noted (info : VidixPlayback) (d : Driver) (told : VidixPlayback) : Prop where
  numBuffers : d.numMach64Buffers = told.numFrames
  fourcc : d.besr.fourcc = info.fourcc
  vidBufPitch : d.besr.vidBufPitch = (linePitch info).2
  destPitch : told.dest.pitch.y = mach64QueryPitch info.fourcc info.src.pitch

theorem searches_of_accepted {d d' : Driver}
    (h : vixConfigPlayback d info = some (0, d', told)) : Searches d info := by
  by_contra hnot
  exact vixConfigPlayback_of_not_searches hnot d' told h

theorem vixConfigPlayback_noted {d d' : Driver}
    (h : vixConfigPlayback d info = some (0, d', told)) : Noted info d' told := by
  have hs := searches_of_accepted h
  have hsize : ¬ (info.src.h > 720 || info.src.w > 720) = true :=
    fun hlarge => (tooLarge_iff info.src).mp hlarge ⟨hs.width_le, hs.height_le⟩
  have h0 := (vixConfigPlayback_accepted h).found
  unfold search at h0
  unfold vixConfigPlayback at h
  rw [hs.supported, if_neg (by simp), if_neg hsize] at h
  dsimp only at h
  rw [if_neg h0] at h
  unfold mach64VidInitVideo at h
  rw [if_neg (by simp [hs.dest_h, hs.dest_w])] at h
  dsimp only [Option.map_some] at h
  obtain ⟨-, h⟩ := Prod.mk.inj (Option.some.inj h)
  obtain ⟨rfl, rfl⟩ := Prod.mk.inj h
  exact ⟨rfl, rfl, rfl, rfl⟩

/-- A configuration that has written nothing behind the table has a row for each frame. -/
theorem configure_le_rows (h : configure s info = some (0, c, told))
    (hin : c.driver.overrun = false) : (search s.driver info).1 ≤ bufferRows := by
  have hacc := vixConfigPlayback_accepted (configure_eq_some h).1
  rw [hacc.overrun, Bool.or_eq_false_iff, decide_eq_false_iff_not, hacc.toNat_numFrames] at hin
  exact Nat.not_lt.mp hin.2

theorem configure_ready (h : configure s info = some (0, c, told))
    (hrows : (search s.driver info).1 ≤ bufferRows) : Ready c (search s.driver info).1 := by
  obtain ⟨hd, hc⟩ := configure_eq_some h
  have hacc := vixConfigPlayback_accepted hd
  have hregs : c.regs = mach64VidStopVideo s.regs := by rw [hc]
  obtain ⟨hstopped, hbright⟩ := stopVideo_off s.regs
  refine ⟨?_, Nat.pos_of_ne_zero hacc.found, hrows, hregs ▸ hstopped,
    hregs ▸ hbright⟩
  rw [(vixConfigPlayback_noted hd).numBuffers, hacc.toNat_numFrames]

/-- **The overlay follows the calls,** whatever they are and in whatever order they come, and the
key and the equalizer are reported as they were last set, if no row behind the table has been
written. -/
theorem calls_followed (s c : State) (info told : VidixPlayback)
    (h : configure s info = some (0, c, told)) (hin : c.driver.overrun = false)
    (calls : List (OverlayCall (Fin (search s.driver info).1))) :
    ∃ (hn : 0 < (search s.driver info).1) (s' : State),
      (calls.map OverlayCall.toWord).foldlM callStep c = some s' ∧
      let a := calls.foldl (Asked.turn s.supportsColourAdj hn) (Asked.none s.equal)
      Follows c s' a ∧ vixGetGrKeys s' = a.ckey.getD s.mach64Grkey ∧
        vixPlaybackGetEq s' =
          if s.supportsColourAdj then a.equal else { a.equal with cap := veqCapBrightness } := by
  have hready := configure_ready h (configure_le_rows h hin)
  obtain ⟨-, hc⟩ := configure_eq_some h
  have hequal : c.equal = s.equal := by rw [hc]
  have hchip : c.supportsColourAdj = s.supportsColourAdj := by rw [hc]
  have hgrkey : c.mach64Grkey = s.mach64Grkey := by rw [hc]
  obtain ⟨s', hrun, hfollows⟩ := hready.follows.run hready calls
  rw [hchip, hequal] at hfollows
  refine ⟨hready.pos, s', hrun, hfollows, ?_, ?_⟩
  · rw [← hgrkey]
    exact hfollows.grkey
  · unfold vixPlaybackGetEq
    rw [hfollows.chip, hchip, hfollows.equal]

end Configured

/-- The driver before anything was configured, on a chip that cannot adjust colours. -/
def sampleState : State where
  driver := sampleDriver
  supportsColourAdj := false
  key := ⟨false, 0, 0⟩
  mach64Grkey := ⟨0, 0, 0, 0⟩
  equal := ⟨0, 0, 0, 0, 0, 0, 0, 0, 0⟩
  regs := ⟨0, 0, 0, 0, 0, 0, 0, 0, ⟨0, 0, 0⟩, ⟨0, 0, 0⟩, 0, 0, 0, 0, 0, 0⟩

/-- Full brightness. -/
def sampleEq : VideoEq := ⟨veqCapBrightness, 1000, 0, 0, 0, 0, 0, 0, 0⟩

theorem configure_sample :
    ∃ c told, configure sampleState (sampleRequest imgfmtYV12 352 288 3) = some (0, c, told) ∧
      c.driver.overrun = false := by
  have hsearch : Searches sampleDriver (sampleRequest imgfmtYV12 352 288 3) :=
    ⟨by decide, by decide, by decide, by decide, by decide⟩
  obtain ⟨d', info', h, -⟩ := vixConfigPlayback_of_searches hsearch (by decide)
  have hrows : d'.overrun = false := by
    rw [(vixConfigPlayback_accepted h).overrun, (vixConfigPlayback_accepted h).toNat_numFrames]
    decide
  unfold configure
  rw [show sampleState.driver = sampleDriver from rfl, h]
  exact ⟨_, _, rfl, hrows⟩

/-- Full brightness that is set before the overlay is turned on is reported but gone. -/
theorem calls_followed_sample :
    ∃ c told s', configure sampleState (sampleRequest imgfmtYV12 352 288 3) = some (0, c, told) ∧
      (([.setEq sampleEq, .playbackOn] : List (OverlayCall UInt32))).foldlM callStep c = some s' ∧
      (vixPlaybackGetEq s').brightness = 1000 ∧ gammaOf sampleEq = scaleGammaSelG22 ∧
        s'.regs.scaleCntl &&& scaleGammaSelMsk = scaleGammaSelBright := by
  obtain ⟨c, told, h, hin⟩ := configure_sample
  obtain ⟨hn, s', hrun, hfollows, -, heq⟩ := calls_followed sampleState c
    (sampleRequest imgfmtYV12 352 288 3) told h hin [.setEq sampleEq, .playbackOn]
  have hgamma := hfollows.gamma
  rw [if_neg (by simp [Asked.turn])] at hgamma
  exact ⟨c, told, s', h, hrun, congrArg VideoEq.brightness heq, by decide, hgamma⟩

end Vidix.Mach64
