import Vidix.Sis.Overlay
import Vidix.Sis.Equiv.Stride
import Vidix.Util.Table
import Mathlib.Tactic.IntervalCases

/-!
# What the registers of the sis driver hold

After `set_overlay` each of the registers that it writes holds what it was written last, whatever
was in it before; the same goes for the registers of the addresses after a frame has been selected.
-/

namespace Vidix.Sis

/-! ### One register -/

variable {r reg : UInt8} {vid : Ports}

theorem unlock_of_ne (engine : VgaEngine) (h1 : r ≠ indexViControlMisc1)
    (h3 : r ≠ indexViControlMisc3) : unlock engine vid r = vid r := by
  unfold unlock setvideoreg
  split_ifs
  · rw [Function.update_of_ne h3, Function.update_of_ne h1, Function.update_of_ne h1]
  · rw [Function.update_of_ne h1, Function.update_of_ne h1]

theorem trigger_of_ne (engine : VgaEngine) (index : UInt8) (h3 : r ≠ indexViControlMisc3) :
    trigger engine index vid r = vid r := by
  unfold trigger
  split_ifs
  · exact Function.update_of_ne h3 _ _
  · rfl

/-! ### `set_overlay` -/

/-- The registers of the addresses and of the pitch. -/
def addressRegs : List UInt8 :=
  [indexViDispYBufStartLow, indexViDispYBufStartMiddle, indexViDispYBufStartHigh,
    indexViUBufStartLow, indexViUBufStartMiddle, indexViUBufStartHigh, indexViVBufStartLow,
    indexViVBufStartMiddle, indexViVBufStartHigh, indexViDispYBufPitchLow,
    indexViDispUVBufPitchLow, indexViDispYUVBufPitchMiddle, indexViYBufStartOver,
    indexViUBufStartOver, indexViVBufStartOver, indexViDispYBufPitchHigh,
    indexViDispUVBufPitchHigh]

variable {d : Driver} {shiftValue : UInt32} {o : SISOverlayRec} {index : UInt8}

theorem setAddresses_of_not_mem (h : r ∉ addressRegs) :
    setAddresses d shiftValue o vid r = vid r := by
  simp only [addressRegs, List.mem_cons, List.not_mem_nil, or_false, not_or] at h
  unfold setAddresses setYStart setYOver setUVStart setUVOver
  split_ifs <;>
    simp only [setvideoreg, setregmask, Function.update_of_ne, h, ne_eq, not_false_eq_true]

/-- The registers that are written after the addresses. -/
def lateRegs : List UInt8 :=
  [indexViControlMisc3, indexViHorPostUpScaleLow, indexViHorPostUpScaleHigh, indexViVerUpScaleLow,
    indexViVerUpScaleHigh, indexViScaleControl, indexViWinHorDispStartLow, indexViWinHorDispEndLow,
    indexViWinHorOver, indexViWinVerDispStartLow, indexViWinVerDispEndLow, indexViWinVerOver,
    indexViControlMisc1]

/-- A register that is not written after the addresses. -/
theorem setOverlay_of_not_mem (h : r ∉ lateRegs) :
    setOverlay d shiftValue o index vid r =
      setAddresses d shiftValue o (unlock d.sisVgaEngine
        (setregmask indexViKeyOverlayOP o.keyOP 0x0F
          (setvideoreg indexViLineBufferSize o.lineBufSize vid))) r := by
  simp only [lateRegs, List.mem_cons, List.not_mem_nil, or_false, not_or] at h
  unfold setOverlay
  simp only [setvideoreg, setregmask, Function.update_of_ne, trigger_of_ne, h, ne_eq,
    not_false_eq_true]

theorem setOverlay_lineBufferSize :
    setOverlay d shiftValue o index vid indexViLineBufferSize = o.lineBufSize := by
  rw [setOverlay_of_not_mem (by decide), setAddresses_of_not_mem (by decide),
    unlock_of_ne _ (by decide) (by decide), setregmask, Function.update_of_ne (by decide),
    setvideoreg, Function.update_self]

/-- The two scale factors. -/
theorem setOverlay_factors (d : Driver) (shiftValue : UInt32) (o : SISOverlayRec) (index : UInt8)
    (vid : Ports) :
    setOverlay d shiftValue o index vid indexViHorPostUpScaleLow = o.husf.toUInt8 ∧
      setOverlay d shiftValue o index vid indexViHorPostUpScaleHigh = (o.husf >>> 8).toUInt8 ∧
      setOverlay d shiftValue o index vid indexViVerUpScaleLow = o.vusf.toUInt8 ∧
      setOverlay d shiftValue o index vid indexViVerUpScaleHigh = (o.vusf >>> 8).toUInt8 := by
  unfold setOverlay
  refine ⟨?_, ?_, ?_, ?_⟩
  all_goals
    simp (disch := decide) only [setvideoreg, setregmask, Function.update_of_ne,
      Function.update_self]

/-- The two bytes of a word. -/
theorem word_bytes (w : UInt16) : w.toUInt8.toNat + (w >>> 8).toUInt8.toNat * 2 ^ 8 = w.toNat := by
  have hlt := w.toNat_lt
  rw [UInt16.toNat_toUInt8, UInt16.toNat_toUInt8, UInt16.toNat_shiftRight,
    Nat.shiftRight_eq_div_pow]
  show w.toNat % 256 + w.toNat / 256 % 256 * 256 = _
  omega

/-- The low field of `Index_VI_Scale_Control`, which has three bits. -/
theorem scaleControl_low {intBit wHPre before : UInt8} (h : wHPre.toNat ≤ 7) :
    (((intBit <<< 3 ||| wHPre) &&& 0x7f) ||| (before &&& ~~~0x7f)) &&& 0x07 = wHPre := by
  have hand : wHPre &&& 0x07 = wHPre := by
    apply UInt8.toNat_inj.mp
    rw [UInt8.toNat_and]
    exact Nat.and_two_pow_sub_one_of_lt_two_pow (n := 3) (by omega)
  calc (((intBit <<< 3 ||| wHPre) &&& 0x7f) ||| (before &&& ~~~0x7f)) &&& 0x07
      = wHPre &&& 0x07 := by
        apply UInt8.toBitVec_inj.mp
        ext i hi
        simp
        interval_cases i <;> simp
    _ = wHPre := hand

theorem setOverlay_scaleControl (h : o.wHPre.toNat ≤ 7) :
    setOverlay d shiftValue o index vid indexViScaleControl &&& 0x07 = o.wHPre := by
  unfold setOverlay
  simp (disch := decide) only [setvideoreg, setregmask, Function.update_of_ne,
    Function.update_self]
  exact scaleControl_low h

/-! ### The addresses -/

/-- The bytes of an address in its registers. -/
structure HoldsStart (engine : VgaEngine) (vid : Ports) (low middle high overflow : UInt8)
    (start : UInt32) : Prop where
  low : vid low = start.toUInt8
  middle : vid middle = (start >>> 8).toUInt8
  high : vid high = (start >>> 16).toUInt8
  overflow : engine = .sis315 → vid overflow = (start >>> 24).toUInt8 &&& 0x01

/-- The Y plane. -/
def HoldsY (engine : VgaEngine) (vid : Ports) (start : UInt32) : Prop :=
  HoldsStart engine vid indexViDispYBufStartLow indexViDispYBufStartMiddle
    indexViDispYBufStartHigh indexViYBufStartOver start

def HoldsU (engine : VgaEngine) (vid : Ports) (start : UInt32) : Prop :=
  HoldsStart engine vid indexViUBufStartLow indexViUBufStartMiddle indexViUBufStartHigh
    indexViUBufStartOver start

def HoldsV (engine : VgaEngine) (vid : Ports) (start : UInt32) : Prop :=
  HoldsStart engine vid indexViVBufStartLow indexViVBufStartMiddle indexViVBufStartHigh
    indexViVBufStartOver start

/-- The registers of the addresses do not depend on the others. -/
theorem HoldsStart.congr {engine : VgaEngine} {vid' : Ports} {low middle high overflow : UInt8}
    {start : UInt32} (h : HoldsStart engine vid low middle high overflow start)
    (hsame : ∀ r ∈ [low, middle, high, overflow], vid' r = vid r) :
    HoldsStart engine vid' low middle high overflow start := by
  simp only [List.forall_mem_cons] at hsame
  obtain ⟨hlow, hmiddle, hhigh, hoverflow, -⟩ := hsame
  exact ⟨hlow.trans h.low, hmiddle.trans h.middle, hhigh.trans h.high,
    fun h315 => hoverflow.trans (h.overflow h315)⟩

theorem setAddresses_holds (d : Driver) (shiftValue : UInt32) (o : SISOverlayRec) (vid : Ports) :
    HoldsY d.sisVgaEngine (setAddresses d shiftValue o vid) o.psy ∧
      (isPlanar o.pixelFormat = true →
        HoldsU d.sisVgaEngine (setAddresses d shiftValue o vid) o.psu ∧
        HoldsV d.sisVgaEngine (setAddresses d shiftValue o vid) o.psv) := by
  have h315 : ∀ {p : Prop}, d.sisVgaEngine ≠ .sis315 → d.sisVgaEngine = .sis315 → p :=
    fun hne heq => absurd heq hne
  unfold setAddresses setYStart setYOver setUVStart setUVOver
  dsimp only
  refine ⟨⟨?_, ?_, ?_, ?_⟩, fun hplanar => ⟨⟨?_, ?_, ?_, ?_⟩, ?_, ?_, ?_, ?_⟩⟩
  all_goals try rw [if_pos hplanar]
  all_goals split_ifs
  all_goals
    simp (disch := first | decide | assumption) [setvideoreg, setregmask, Function.update_of_ne,
      Function.update_self, *]

/-! ### A call that succeeds -/

variable {s s' : State} {info info' : VidixPlayback}

/-- The state in which the overlay is scaled. -/
def State.laidOut (s : State) (info' : VidixPlayback) : State :=
  (s.prepare.storeFrames info').storeOffsets info'.offset

/-- What is done to the state by a call that succeeds. -/
structure Shown (s : State) (info info' : VidixPlayback) (s' : State) (overlay : Overlay)
    (o : SISOverlayRec) : Prop where
  layout : vixConfigPlayback s.driver.sisMemBase info = some (0, info', some overlay)
  scaled : calcScaleFactor s.driver.sisVgaEngine s.driver.sisVmode
    (setLineBufSize ((s.laidOut info').overlayOf overlay)) = some o
  state : ∃ vid, s' = (s.laidOut info').writeOverlay o vid

theorem shown (h : configure s info = some (0, info', s')) :
    ∃ overlay o, Shown s info info' s' overlay o := by
  unfold configure at h
  obtain ⟨⟨ret, info₁, overlay⟩, hlayout, h⟩ := Option.bind_eq_some_iff.mp h
  dsimp only at h
  by_cases hsupported : isSupportedFourcc info.fourcc = true
  · rw [if_neg (by rw [hsupported]; decide)] at h
    have hret : ret = 0 ∧ info₁ = info' := by
      cases overlay with
      | none =>
        simp only [Option.some.injEq, Prod.mk.injEq] at h
        exact ⟨h.1, h.2.1⟩
      | some overlay =>
        obtain ⟨o, -, h⟩ := Option.bind_eq_some_iff.mp h
        simp only [Option.some.injEq, Prod.mk.injEq] at h
        exact ⟨h.1, h.2.1⟩
    obtain ⟨rfl, rfl⟩ := hret
    obtain ⟨overlay, rfl, -⟩ := accepted hlayout
    obtain ⟨o, ho, h⟩ := Option.bind_eq_some_iff.mp h
    simp only [Option.some.injEq, Prod.mk.injEq, true_and] at h
    exact ⟨overlay, o, hlayout, ho, _, h.symm⟩
  · unfold vixConfigPlayback at hlayout
    have hno : (!isSupportedFourcc info.fourcc) = true := by
      rw [Bool.not_eq_true _ |>.mp hsupported]
      rfl
    rw [if_pos hno] at h hlayout
    simp only [Option.some.injEq, Prod.mk.injEq] at h hlayout
    exact absurd (hlayout.1.trans h.1) (by decide)

/-- Scaling changes the factors and the pitch. -/
theorem calcScaleFactor_keeps {engine : VgaEngine} {vmode : UInt32} {o o' : SISOverlayRec}
    (h : calcScaleFactor engine vmode o = some o') :
    o'.pixelFormat = o.pixelFormat ∧ o'.psy = o.psy ∧ o'.psu = o.psu ∧ o'.psv = o.psv ∧
      o'.lineBufSize = o.lineBufSize ∧ o'.srcW = o.srcW := by
  unfold calcScaleFactor at h
  obtain ⟨hor, -, h⟩ := Option.bind_eq_some_iff.mp h
  obtain ⟨ver, -, h⟩ := Option.bind_eq_some_iff.mp h
  obtain rfl := Option.some.inj h
  exact ⟨rfl, rfl, rfl, rfl, rfl, rfl⟩

/-- The last registers are the mode bits. -/
theorem writeOverlay_vid (o : SISOverlayRec) (vid : Ports) :
    ∃ vid', ∀ r, r ≠ indexViControlMisc1 → r ≠ indexViControlMisc2 →
      (s.writeOverlay o vid).vid r =
        setOverlay s.driver s.sisShiftValue o
          (overlayIndex s.driver.sisDisplaymode s.driver.sisHasTwoOverlays) vid' r := by
  let index := overlayIndex s.driver.sisDisplaymode s.driver.sisHasTwoOverlays
  refine ⟨equalize s.driver.sisVgaEngine (s.sisEqual.take s.sisEqual) (setColorkey s.sisGrkey
    (setFormat o.pixelFormat (setregmask indexViControlMisc2 index 0x01 vid))), fun r h1 h2 => ?_⟩
  exact (Function.update_of_ne h2 _ _).trans (Function.update_of_ne h1 _ _)

/-- The registers of the addresses are not written again. -/
theorem writeOverlay_holds (s : State) (o : SISOverlayRec) (vid : Ports) :
    HoldsY s.driver.sisVgaEngine (s.writeOverlay o vid).vid o.psy ∧
      (isPlanar o.pixelFormat = true →
        HoldsU s.driver.sisVgaEngine (s.writeOverlay o vid).vid o.psu ∧
        HoldsV s.driver.sisVgaEngine (s.writeOverlay o vid).vid o.psv) := by
  obtain ⟨vid', hvid⟩ := writeOverlay_vid (s := s) o vid
  have hsame : ∀ regs : List UInt8, (∀ r ∈ regs, r ∉ lateRegs ∧ r ≠ indexViControlMisc2) →
      ∀ r ∈ regs, (s.writeOverlay o vid).vid r =
        setAddresses s.driver s.sisShiftValue o (unlock s.driver.sisVgaEngine
          (setregmask indexViKeyOverlayOP o.keyOP 0x0F
            (setvideoreg indexViLineBufferSize o.lineBufSize vid'))) r := by
    intro regs hregs r hr
    obtain ⟨hlate, h2⟩ := hregs r hr
    rw [hvid r (fun h1 => hlate (h1 ▸ by decide)) h2]
    exact setOverlay_of_not_mem hlate
  obtain ⟨hy, huv⟩ := setAddresses_holds s.driver s.sisShiftValue o (unlock s.driver.sisVgaEngine
    (setregmask indexViKeyOverlayOP o.keyOP 0x0F
      (setvideoreg indexViLineBufferSize o.lineBufSize vid')))
  refine ⟨hy.congr (hsame _ (Util.forall_mem_of_all (by decide))), fun hplanar => ?_⟩
  obtain ⟨hu, hv⟩ := huv hplanar
  exact ⟨hu.congr (hsame _ (Util.forall_mem_of_all (by decide))),
    hv.congr (hsame _ (Util.forall_mem_of_all (by decide)))⟩

end Vidix.Sis
