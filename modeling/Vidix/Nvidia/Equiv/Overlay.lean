import Vidix.Nvidia.Overlay
import Vidix.Nvidia.Equiv.Config
import Vidix.Util.GuardedRun
import Vidix.Util.Table

/-!
# The displayed frame of the nvidia driver

Turning the overlay on and selecting a frame show the frame that was selected last.  Setting the
graphic keys restarts the overlay, but with frame 0, so that the frame on the screen is another one
unless the two begin at the same place.  Throughout a run of calls the overlay shows the frame that
was selected last iff each call that restarts it in this way comes at such a time:
`shows_selected_iff`.
-/

namespace Vidix.Nvidia

open Util

variable {card : Card} {info : RivatvInfo} {s s' : State} {bufno : UInt32}

/-! ### The registers -/

@[simp] theorem Pvideo.write_apply (pvideo : Pvideo) (reg val reg' : UInt32) :
    pvideo.write reg val reg' = if reg' = reg then val else pvideo reg' :=
  Function.update_apply pvideo reg val reg'

@[simp] theorem Pvideo.xor_apply (pvideo : Pvideo) (reg val reg' : UInt32) :
    pvideo.xor reg val reg' = if reg' = reg then pvideo reg ^^^ val else pvideo reg' :=
  Pvideo.write_apply pvideo reg _ reg'

@[simp] theorem Pvideo.and_apply (pvideo : Pvideo) (reg val reg' : UInt32) :
    pvideo.and reg val reg' = if reg' = reg then pvideo reg &&& val else pvideo reg' :=
  Pvideo.write_apply pvideo reg _ reg'

@[simp] theorem Pvideo.or_apply (pvideo : Pvideo) (reg val reg' : UInt32) :
    pvideo.or reg val reg' = if reg' = reg then pvideo reg ||| val else pvideo reg' :=
  Pvideo.write_apply pvideo reg _ reg'

/-- The registers that hold the address of the picture. -/
def startRegs : Arch → List UInt32
  | .nv03 | .nv04 => [0x20C, 0x210]
  | .nv10 => [0x900]
  | .nv20 | .nv30 => [0x900, 0x800]

/-- The register whose lowest bit is set while the overlay is on. -/
def onReg : Arch → UInt32
  | .nv03 | .nv04 => 0x244
  | .nv10 | .nv20 | .nv30 => 0x700

/-- The overlay is on. -/
def OverlayOn (s : State) : Prop := s.pvideo (onReg s.info.arch) &&& 1 = 1

/-- The address programmed last. -/
def StartsAt (s : State) (address : UInt32) : Prop :=
  ∀ reg ∈ startRegs s.info.arch, s.pvideo reg = address

/-- Where a frame begins in the memory of the card. -/
def frameAddress (info : RivatvInfo) (frame : UInt32) : UInt32 :=
  info.pictureOffset.toUInt32 + frame * info.bufferSize.toUInt32

/-! ### Starting the overlay -/

/-- The window is not cut at the left or at the top, as no window is that is inside the screen. -/
def Uncut (card : Card) (info : RivatvInfo) : Prop :=
  0 ≤ (windowPos card (nvGetscreenproperties card info)).1 ∧
    0 ≤ (windowPos card (nvGetscreenproperties card info)).2

/-- The window has a size that the scaling factors can be computed for. -/
def Scalable (info : RivatvInfo) : Prop :=
  match info.arch with
  | .nv03 | .nv04 => info.dWidth ≠ 1 ∧ info.dHeight ≠ 1
  | .nv10 | .nv20 | .nv30 => info.dWidth ≠ 0 ∧ info.dHeight ≠ 0

theorem div?_eq_some_iff {a b q : UInt32} : div? a b = some q ↔ b ≠ 0 ∧ a / b = q := by
  unfold div?
  split_ifs with h
  · simp [h]
  · simp [h]

theorem Window.cutLeft_of_nonneg {w : Window} (h : 0 ≤ w.x) : w.cutLeft info = some w := by
  unfold Window.cutLeft
  rw [if_neg (Int32.not_lt.mpr h)]

theorem Window.cutTop_of_nonneg {w : Window} (h : 0 ≤ w.y) : w.cutTop info = some w := by
  unfold Window.cutTop
  rw [if_neg (Int32.not_lt.mpr h)]

theorem windowOf_of_uncut (h : Uncut card info) (bufno : UInt32) :
    ∃ w, windowOf card (nvGetscreenproperties card info) bufno = some w ∧
      w.offset = bufno * info.bufferSize.toUInt32 := by
  obtain ⟨hx, hy⟩ := h
  unfold windowOf
  generalize windowPos card (nvGetscreenproperties card info) = pos at hx hy
  obtain ⟨x, y⟩ := pos
  let w : Window :=
    { x := x, y := y, lwidth := info.dWidth.toInt32, lheight := info.dHeight.toInt32
      offset := bufno * info.bufferSize.toUInt32 }
  have hleft : w.cutLeft (nvGetscreenproperties card info) = some w :=
    Window.cutLeft_of_nonneg hx
  have htop : w.cutTop (nvGetscreenproperties card info) = some w := Window.cutTop_of_nonneg hy
  exact ⟨w, (congrArg (Option.bind · _) hleft).trans htop, rfl⟩

/-- What the registers that matter hold when the overlay has been programmed for `w`. -/
structure Programmed (info : RivatvInfo) (w : Window) (pvideo : Pvideo) : Prop where
  start : ∀ reg ∈ startRegs info.arch, pvideo reg = info.pictureOffset.toUInt32 + w.offset
  on : pvideo (onReg info.arch) &&& 1 = 1

theorem programNv10_eq {w : Window} (harch : s.info.arch = .nv10 ∨ s.info.arch = .nv20 ∨
    s.info.arch = .nv30) (hw : s.info.dWidth ≠ 0) (hh : s.info.dHeight ≠ 0) :
    ∃ pvideo, programNv10 s w = some pvideo ∧ Programmed s.info w pvideo := by
  unfold programNv10
  simp only [div?, if_neg hw, if_neg hh, Option.bind_eq_bind, Option.bind_some]
  refine ⟨_, rfl, ?_, ?_⟩
  · rcases harch with harch | harch | harch
    · simp +decide [harch, startRegs]
    · simp +decide [harch, startRegs]
    · simp +decide [harch, startRegs]
  · rcases harch with harch | harch | harch
    · simp +decide [harch, onReg]
    · simp +decide [harch, onReg]
    · simp +decide [harch, onReg]

theorem programNv03_eq {w : Window} (harch : s.info.arch = .nv03 ∨ s.info.arch = .nv04)
    (hw : s.info.dWidth ≠ 1) (hh : s.info.dHeight ≠ 1) :
    ∃ pvideo, programNv03 s w = some pvideo ∧ Programmed s.info w pvideo := by
  have hw' : s.info.dWidth - 1 ≠ 0 := fun h => hw (sub_eq_zero.mp h)
  have hh' : s.info.dHeight - 1 ≠ 0 := fun h => hh (sub_eq_zero.mp h)
  unfold programNv03
  simp only [div?, if_neg hw', if_neg hh', Option.bind_eq_bind, Option.bind_some]
  refine ⟨_, rfl, ?_, ?_⟩
  · rcases harch with harch | harch
    · simp +decide [harch, startRegs]
    · simp +decide [harch, startRegs]
  · have hreg : onReg s.info.arch = 0x244 := by
      rcases harch with harch | harch <;> rw [harch] <;> rfl
    rw [hreg]
    split_ifs <;> simp +decide

theorem program_of_scalable (h : Scalable s.info) (w : Window) :
    ∃ pvideo, program s w = some pvideo ∧ Programmed s.info w pvideo := by
  unfold Scalable at h
  unfold program
  cases harch : s.info.arch <;> rw [harch] at h
  case nv03 => exact programNv03_eq (.inl harch) h.1 h.2
  case nv04 => exact programNv03_eq (.inr harch) h.1 h.2
  case nv10 => exact programNv10_eq (.inl harch) h.1 h.2
  case nv20 => exact programNv10_eq (.inr (.inl harch)) h.1 h.2
  case nv30 => exact programNv10_eq (.inr (.inr harch)) h.1 h.2

theorem programNv10_scalable {w : Window} {pvideo : Pvideo} (h : programNv10 s w = some pvideo) :
    s.info.dWidth ≠ 0 ∧ s.info.dHeight ≠ 0 := by
  simp only [programNv10, Option.bind_eq_bind, Option.bind_eq_some_iff, div?_eq_some_iff] at h
  obtain ⟨_, ⟨hw, -⟩, _, ⟨hh, -⟩, -⟩ := h
  exact ⟨hw, hh⟩

theorem programNv03_scalable {w : Window} {pvideo : Pvideo} (h : programNv03 s w = some pvideo) :
    s.info.dWidth ≠ 1 ∧ s.info.dHeight ≠ 1 := by
  simp only [programNv03, Option.bind_eq_bind, Option.bind_eq_some_iff, div?_eq_some_iff] at h
  obtain ⟨_, ⟨hh, -⟩, _, ⟨hw, -⟩, -⟩ := h
  exact ⟨fun heq => hw (sub_eq_zero.mpr heq), fun heq => hh (sub_eq_zero.mpr heq)⟩

theorem scalable_of_program {w : Window} {pvideo : Pvideo} (h : program s w = some pvideo) :
    Scalable s.info := by
  unfold program at h
  unfold Scalable
  cases harch : s.info.arch <;> rw [harch] at h
  case nv03 => exact programNv03_scalable h
  case nv04 => exact programNv03_scalable h
  case nv10 => exact programNv10_scalable h
  case nv20 => exact programNv10_scalable h
  case nv30 => exact programNv10_scalable h

/-- The overlay shows the buffer `bufno` of the state `s`, of which the screen has been looked up.
-/
structure Started (card : Card) (s : State) (bufno : UInt32) (s' : State) : Prop where
  info : s'.info = nvGetscreenproperties card s.info
  on : OverlayOn s'
  start : StartsAt s' (frameAddress s.info bufno)

/-- The registers of the colour key are others. -/
theorem Programmed.colorkey {w : Window} {pvideo : Pvideo} (h : Programmed info w pvideo)
    (chromakey : UInt32) : Programmed info w (rivatvOverlayColorkey info pvideo chromakey) := by
  have hother : ∀ reg ∈ onReg info.arch :: startRegs info.arch, reg ≠ colorKeyReg info.arch := by
    cases info.arch <;> exact forall_mem_of_all (by decide)
  unfold rivatvOverlayColorkey
  refine ⟨fun reg hreg => ?_, ?_⟩
  · rw [Pvideo.write_apply, if_neg (hother reg (List.mem_cons_of_mem _ hreg))]
    exact h.start reg hreg
  · rw [Pvideo.write_apply, if_neg (hother _ List.mem_cons_self)]
    exact h.on

theorem rivatvOverlayStart_of_scalable (huncut : Uncut card s.info) (hscale : Scalable s.info)
    (bufno : UInt32) :
    ∃ s', rivatvOverlayStart card s bufno = some s' ∧ Started card s bufno s' := by
  obtain ⟨w, hw, hoffset⟩ := windowOf_of_uncut huncut bufno
  obtain ⟨pvideo, hpvideo, hprogrammed⟩ := program_of_scalable
    (s := { s with info := nvGetscreenproperties card s.info }) hscale w
  have hkey := hprogrammed.colorkey s.info.vidixcolorkey
  let new := rivatvOverlayColorkey (nvGetscreenproperties card s.info) pvideo s.info.vidixcolorkey
  refine ⟨{ s with info := nvGetscreenproperties card s.info, pvideo := new }, ?_, rfl, hkey.on,
    ?_⟩
  · exact (congrArg (Option.bind · _) hw).trans (congrArg (Option.bind · _) hpvideo)
  · intro reg hreg
    rw [frameAddress, ← hoffset]
    exact hkey.start reg hreg

theorem rivatvOverlayStart_some (huncut : Uncut card s.info)
    (h : rivatvOverlayStart card s bufno = some s') :
    Scalable s.info ∧ Started card s bufno s' := by
  have hscale : Scalable s.info := by
    obtain ⟨w, -, hw⟩ := Option.bind_eq_some_iff.mp h
    obtain ⟨pvideo, hpvideo, -⟩ := Option.bind_eq_some_iff.mp hw
    exact scalable_of_program (s := { s with info := nvGetscreenproperties card s.info }) hpvideo
  obtain ⟨s'', hstart, hstarted⟩ := rivatvOverlayStart_of_scalable huncut hscale bufno
  rw [h] at hstart
  obtain rfl := Option.some.inj hstart
  exact ⟨hscale, hstarted⟩

/-! ### The calls -/

theorem overlayOn_stop (s : State) : ¬ OverlayOn (vixPlaybackOff s) := by
  have hclear : ∀ x : UInt32, x &&& ~~~0x11 &&& 1 ≠ 1 ∧ x &&& ~~~0x01 &&& 1 ≠ 1 := by
    intro x
    rw [UInt32.and_assoc, UInt32.and_assoc]
    have hmask : (~~~0x11 &&& 1 : UInt32) = 0 ∧ (~~~0x01 &&& 1 : UInt32) = 0 := by decide
    rw [hmask.1, hmask.2, UInt32.and_zero]
    decide
  unfold OverlayOn vixPlaybackOff rivatvOverlayStop
  cases harch : s.info.arch
  case nv03 => simpa +decide [harch, onReg] using (hclear _).2
  case nv04 => simpa +decide [harch, onReg] using (hclear _).2
  case nv10 => simpa +decide [harch, onReg] using (hclear _).1
  case nv20 => simpa +decide [harch, onReg] using (hclear _).1
  case nv30 => simpa +decide [harch, onReg] using (hclear _).1

/-- The driver, unless it has ended, and the frame that was selected last. -/
structure Watched where
  state : Option State
  selected : UInt32

/-- One call. -/
def Watched.step (w : Watched) (call : Call) : Watched where
  state := w.state.bind (·.call call)
  selected :=
    match call with
    | .playbackFrameSelect _ frame => frame
    | _ => w.selected

/-- While the overlay is on, it shows the frame that was selected last. -/
def ShowsSelected (w : Watched) : Prop :=
  ∀ s, w.state = some s → OverlayOn s → StartsAt s (frameAddress s.info w.selected)

/-- The calls of an application that has been granted `granted` frames: it selects only such frames,
and the window is inside the screen whenever the overlay is started. -/
def Sensible (granted : UInt32) (w : Watched) (call : Call) : Prop :=
  ∀ s, w.state = some s →
    match call with
    | .playbackOn card => Uncut card s.info
    | .playbackOff => True
    | .playbackFrameSelect card frame => frame < granted ∧ Uncut card s.info
    | .setGrKeys card _ => Uncut card s.info

/-- A call that sets the keys comes when the overlay is not restarted, or when the frame that was
selected last begins where frame 0 does. -/
def KeepsFrame (w : Watched) (call : Call) : Prop :=
  ∀ s, w.state = some s →
    match call with
    | .setGrKeys _ _ =>
      s.info.dWidth ≠ 0 → s.info.dHeight ≠ 0 → Scalable s.info →
        w.selected * s.info.bufferSize.toUInt32 = 0
    | _ => True

/-- The frame that the driver keeps is the one that was selected last. -/
structure Inv (granted : UInt32) (w : Watched) : Prop where
  curFrame : ∀ s, w.state = some s → s.info.curFrame = w.selected
  granted_le : ∀ s, w.state = some s → granted ≤ s.info.numFrames
  shows : ShowsSelected w

variable {granted : UInt32} {w : Watched} {call : Call}

/-- After the start of the overlay with the frame that was selected last. -/
theorem inv_of_started (hstarted : Started card s bufno s') (hstate : w.state = some s')
    (hcur : s.info.curFrame = w.selected) (hgranted : granted ≤ s.info.numFrames)
    (hframe : frameAddress s.info bufno = frameAddress s.info w.selected) : Inv granted w := by
  refine ⟨fun t ht => ?_, fun t ht => ?_, fun t ht _ => ?_⟩
  all_goals
    rw [hstate] at ht
    obtain rfl := Option.some.inj ht
  · rw [hstarted.info]
    exact hcur
  · rw [hstarted.info]
    exact hgranted
  · have haddress : frameAddress s'.info w.selected = frameAddress s.info w.selected := by
      rw [hstarted.info]
      rfl
    rw [haddress, ← hframe]
    exact hstarted.start

theorem inv_none (hstate : w.state = none) : Inv granted w := by
  refine ⟨fun t ht => ?_, fun t ht => ?_, fun t ht => ?_⟩
  all_goals
    rw [hstate] at ht
    cases ht

theorem inv_playbackOn (hinv : Inv granted w) (hsens : Sensible granted w (.playbackOn card)) :
    Inv granted (w.step (.playbackOn card)) := by
  cases hnext : (w.step (.playbackOn card)).state with
  | none => exact inv_none hnext
  | some s' =>
    obtain ⟨s, hs, hstart⟩ := Option.bind_eq_some_iff.mp hnext
    have hcur := hinv.curFrame s hs
    refine inv_of_started (rivatvOverlayStart_some (hsens s hs) hstart).2 hnext hcur
      (hinv.granted_le s hs) ?_
    rw [hcur]
    rfl

theorem inv_playbackOff (hinv : Inv granted w) : Inv granted (w.step .playbackOff) := by
  cases hnext : (w.step .playbackOff).state with
  | none => exact inv_none hnext
  | some s' =>
    obtain ⟨s, hs, hstop⟩ := Option.bind_eq_some_iff.mp hnext
    obtain rfl := Option.some.inj hstop
    have hinfo : (vixPlaybackOff s).info = s.info := by
      unfold vixPlaybackOff rivatvOverlayStop
      split <;> rfl
    refine ⟨fun t ht => ?_, fun t ht => ?_, fun t ht hon => ?_⟩
    all_goals
      rw [hnext] at ht
      obtain rfl := Option.some.inj ht
    · rw [hinfo]
      exact hinv.curFrame s hs
    · rw [hinfo]
      exact hinv.granted_le s hs
    · exact absurd hon (overlayOn_stop s)

theorem inv_playbackFrameSelect {frame : UInt32} (hinv : Inv granted w)
    (hsens : Sensible granted w (.playbackFrameSelect card frame)) :
    Inv granted (w.step (.playbackFrameSelect card frame)) := by
  cases hnext : (w.step (.playbackFrameSelect card frame)).state with
  | none => exact inv_none hnext
  | some s' =>
    obtain ⟨s, hs, hselect⟩ := Option.bind_eq_some_iff.mp hnext
    obtain ⟨hlt, huncut⟩ := hsens s hs
    obtain ⟨t, hstart, ht⟩ := Option.bind_eq_some_iff.mp hselect
    have hstarted := (rivatvOverlayStart_some huncut hstart).2
    have hnum : t.info.numFrames = s.info.numFrames := by
      rw [hstarted.info]
      rfl
    have hgranted := hinv.granted_le s hs
    have hpos : t.info.numFrames ≥ 1 := by
      rw [UInt32.lt_iff_toNat_lt] at hlt
      rw [UInt32.le_iff_toNat_le] at hgranted
      rw [hnum, ge_iff_le, UInt32.le_iff_toNat_le, UInt32.toNat_one]
      omega
    rw [if_pos hpos] at ht
    obtain rfl := Option.some.inj ht
    have hnew : Started card { s with info.curFrame := frame } frame
        { t with info.curFrame := frame } := by
      refine ⟨?_, hstarted.on, hstarted.start⟩
      show { t.info with curFrame := frame } = _
      rw [hstarted.info]
      rfl
    exact inv_of_started hnew hnext rfl hgranted rfl

/-- Setting the keys leaves everything else alone. -/
theorem setKey_eq (info : RivatvInfo) (ckey : VidixCkey) :
    ∃ use key, setKey info ckey = { info with useColorkey := use, vidixcolorkey := key } := by
  unfold setKey
  split_ifs
  · exact ⟨_, _, rfl⟩
  · exact ⟨_, _, rfl⟩

theorem inv_setGrKeys {ckey : VidixCkey} (hinv : Inv granted w)
    (hsens : Sensible granted w (.setGrKeys card ckey))
    (hok : KeepsFrame w (.setGrKeys card ckey)) :
    Inv granted (w.step (.setGrKeys card ckey)) := by
  cases hnext : (w.step (.setGrKeys card ckey)).state with
  | none => exact inv_none hnext
  | some s' =>
    obtain ⟨s, hs, hset⟩ := Option.bind_eq_some_iff.mp hnext
    obtain ⟨use, key, hkey⟩ := setKey_eq s.info ckey
    have huncut := hsens s hs
    have hkeeps := hok s hs
    have hset' : vixSetGrKeys card s ckey = some s' := hset
    unfold vixSetGrKeys at hset'
    rw [hkey] at hset'
    dsimp only at hset'
    split_ifs at hset' with hsize
    · obtain ⟨hscale, hstarted⟩ := rivatvOverlayStart_some (s := { s with info := _ })
        (by exact huncut) hset'
      have hzero := hkeeps hsize.1 hsize.2 hscale
      refine inv_of_started hstarted hnext (hinv.curFrame s hs) (hinv.granted_le s hs) ?_
      show s.info.pictureOffset.toUInt32 + 0 * s.info.bufferSize.toUInt32 =
        s.info.pictureOffset.toUInt32 + w.selected * s.info.bufferSize.toUInt32
      rw [hzero, UInt32.zero_mul]
    · obtain rfl := Option.some.inj hset'
      refine ⟨fun t ht => ?_, fun t ht => ?_, fun t ht => ?_⟩
      all_goals
        rw [hnext] at ht
        obtain rfl := Option.some.inj ht
      · exact hinv.curFrame s hs
      · exact hinv.granted_le s hs
      · exact hinv.shows s hs

theorem inv_step (hinv : Inv granted w) (hsens : Sensible granted w call)
    (hok : KeepsFrame w call) : Inv granted (w.step call) := by
  cases call with
  | playbackOn card => exact inv_playbackOn hinv hsens
  | playbackOff => exact inv_playbackOff hinv
  | playbackFrameSelect card frame => exact inv_playbackFrameSelect hinv hsens
  | setGrKeys card ckey => exact inv_setGrKeys hinv hsens hok

/-- A call after which the right frame is shown is one that the condition admits. -/
theorem keepsFrame_of_shows (hsens : Sensible granted w call)
    (hshows : ShowsSelected (w.step call)) : KeepsFrame w call := by
  intro s hs
  cases call with
  | playbackOn card => trivial
  | playbackOff => trivial
  | playbackFrameSelect card frame => trivial
  | setGrKeys card ckey =>
    intro hwidth hheight hscale
    obtain ⟨use, key, hkey⟩ := setKey_eq s.info ckey
    have huncut : Uncut card s.info := hsens s hs
    obtain ⟨s', hstart, hstarted⟩ := rivatvOverlayStart_of_scalable
      (s := { s with info := setKey s.info ckey }) (by rw [hkey]; exact huncut)
      (by rw [hkey]; exact hscale) 0
    have hset : vixSetGrKeys card s ckey = some s' := by
      unfold vixSetGrKeys
      dsimp only
      rw [if_pos (by rw [hkey]; exact ⟨hwidth, hheight⟩)]
      exact hstart
    have hnext : (w.step (.setGrKeys card ckey)).state = some s' := by
      show w.state.bind _ = _
      rw [hs]
      exact hset
    have hshown := hshows s' hnext hstarted.on
    obtain ⟨reg, hreg⟩ : ∃ reg, reg ∈ startRegs s'.info.arch := by
      cases s'.info.arch
      all_goals exact ⟨_, List.mem_cons_self⟩
    have haddress := (hshown reg hreg).symm.trans (hstarted.start reg hreg)
    rw [hstarted.info, hkey] at haddress
    have hzero : s.info.pictureOffset.toUInt32 + w.selected * s.info.bufferSize.toUInt32 =
        s.info.pictureOffset.toUInt32 + 0 * s.info.bufferSize.toUInt32 := haddress
    rw [UInt32.zero_mul] at hzero
    exact add_left_cancel hzero

/-- The state from which the calls start: a configuration has succeeded, and no frame has been
selected since. -/
def Watched.start (s : State) : Watched where
  state := some s
  selected := s.info.curFrame

/-- **After a configuration, the overlay shows the frame that was selected last throughout a run of
calls iff it does at the beginning and each call keeps it.** -/
theorem shows_selected_iff (s : State) (info : RivatvInfo) (vinfo vinfo' : VidixPlayback)
    (hconfig : vixConfigPlayback s.info vinfo = some (0, info, vinfo')) (calls : List Call)
    (hsens : Guarded Watched.step (Sensible vinfo'.numFrames) (.start { s with info := info })
      calls) :
    (∀ pre, pre <+: calls →
        ShowsSelected (pre.foldl Watched.step (.start { s with info := info }))) ↔
      ShowsSelected (.start { s with info := info }) ∧
        Guarded Watched.step KeepsFrame (.start { s with info := info }) calls := by
  have hinv : ShowsSelected (.start { s with info := info }) →
      Inv vinfo'.numFrames (.start { s with info := info }) := by
    intro hshows
    refine ⟨fun t ht => ?_, fun t ht => ?_, hshows⟩
    all_goals obtain rfl := Option.some.inj ht
    · rfl
    · exact granted_le hconfig
  have hiff := fun h => forall_prefix_iff_guarded_of_wf (Inv vinfo'.numFrames) ShowsSelected
    (fun _ hinv => hinv.shows) (fun _ _ => inv_step) (fun _ _ _ => keepsFrame_of_shows) (hinv h)
    hsens
  constructor
  · intro h
    have hstart := h [] List.nil_prefix
    exact ⟨hstart, (hiff hstart).mp h⟩
  · rintro ⟨hstart, hkeeps⟩
    exact (hiff hstart).mpr hkeeps

/-- A card of 16 megabytes, and a screen of 1024 by 1024 pixels with 16 bits each. -/
def screenCard : Card where
  pfb := fun _ => 0x01000000
  pmc := fun _ => 0
  crtc := fun reg =>
    if reg = 0x28 then 2 else if reg = 0x1 then 0x7F else if reg = 0x12 then 0xFF
    else if reg = 0x07 then 0x42 else if reg = 0x13 then 0x80 else 0
  general := 0x00001000

def sampleState : State where
  info := vixInit .nv10 screenCard 0 fun _ => 0
  eq := { lum := 0x1000, chrom := 0x1000, redOff := 0x69, greenOff := 0x3e, blueOff := 0x89 }
  pvideo := fun _ => 0

/-- `info` and the request after a configuration for frames of 320 by 240 pixels. -/
def sampleConfig : RivatvInfo × VidixPlayback :=
  ((vixConfigPlayback sampleState.info (samplePlayback 320 240)).map Prod.snd).getD
    (sampleState.info, samplePlayback 320 240)

def sampleKey : VidixCkey where
  op := ckeyTrue
  red := 0
  green := 0
  blue := 255

/-- The keys are set before another frame than the first is selected. -/
def sampleCalls : List Call :=
  [.setGrKeys screenCard sampleKey, .playbackFrameSelect screenCard 1, .playbackOff]

theorem shows_selected_sample :
    Guarded Watched.step KeepsFrame (.start { sampleState with info := sampleConfig.1 })
        sampleCalls ∧
      ∀ pre, pre <+: sampleCalls → ShowsSelected
        (pre.foldl Watched.step (.start { sampleState with info := sampleConfig.1 })) := by
  have hsens : Guarded Watched.step (Sensible sampleConfig.2.numFrames)
      (.start { sampleState with info := sampleConfig.1 }) sampleCalls := by
    refine ⟨fun s hs => ?_, fun s hs => ?_, fun s hs => trivial, trivial⟩
    · obtain rfl := Option.some.inj hs
      exact ⟨by decide, by decide⟩
    · obtain rfl := Option.some.inj hs
      exact ⟨by decide, by decide, by decide⟩
  have hkeeps : Guarded Watched.step KeepsFrame
      (.start { sampleState with info := sampleConfig.1 }) sampleCalls := by
    refine ⟨fun s hs _ _ _ => UInt32.zero_mul, fun s hs => trivial, fun s hs => trivial, trivial⟩
  have hoff : ShowsSelected (.start { sampleState with info := sampleConfig.1 }) := by
    intro s hs hon
    obtain rfl := Option.some.inj hs
    have hzero : (0 : UInt32) &&& 1 = 1 := hon
    exact absurd hzero (by decide)
  refine ⟨hkeeps, (shows_selected_iff sampleState sampleConfig.1 (samplePlayback 320 240)
    sampleConfig.2 rfl sampleCalls hsens).mpr ⟨hoff, hkeeps⟩⟩

/-- **Frame 1 is selected, and then the keys are set: frame 0 is shown.** -/
theorem shows_other :
    Guarded Watched.step (Sensible sampleConfig.2.numFrames)
        (.start { sampleState with info := sampleConfig.1 })
        [.playbackFrameSelect screenCard 1, .setGrKeys screenCard sampleKey] ∧
      vixConfigPlayback sampleState.info (samplePlayback 320 240) =
        some (0, sampleConfig.1, sampleConfig.2) ∧
      ¬ ∀ pre, pre <+: [.playbackFrameSelect screenCard 1, .setGrKeys screenCard sampleKey] →
        ShowsSelected (pre.foldl Watched.step
          (.start { sampleState with info := sampleConfig.1 })) := by
  have hsens : Guarded Watched.step (Sensible sampleConfig.2.numFrames)
      (.start { sampleState with info := sampleConfig.1 })
      [.playbackFrameSelect screenCard 1, .setGrKeys screenCard sampleKey] := by
    refine ⟨fun s hs => ?_, fun s hs => ?_, trivial⟩
    · obtain rfl := Option.some.inj hs
      exact ⟨by decide, by decide, by decide⟩
    · obtain rfl := Option.some.inj hs
      exact ⟨by decide, by decide⟩
  refine ⟨hsens, rfl, fun h => ?_⟩
  have hkeeps := keepsFrame_of_shows hsens.2.1 (h _ (List.prefix_refl _)) _ rfl (by decide)
    (by decide) ⟨by decide, by decide⟩
  revert hkeeps
  decide

end Vidix.Nvidia
