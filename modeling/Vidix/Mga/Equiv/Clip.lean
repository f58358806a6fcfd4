import Vidix.Mga.Equiv.Registers
import Vidix.Mga.Equiv.Config
import Vidix.Mga.Equiv.Stride
import Vidix.Util.Signed

/-!
# The clipped window of the Matrox driver

When the window hangs off the top of the screen, the scaler starts so many lines further down in
each plane as are hidden there.  The rows of a packed picture have twice as many bytes as the pitch
that the lines are multiplied by, so that only a window with no whole line hidden starts where it
should.  On the G400 the lines of a chroma plane are half as long as those of the luma plane and
half as many; the driver divides the hidden luma lines by four at once, and loses a chroma line of
every other pair.  The last line is counted with ten bits only.  `vixConfigPlayback_clipped_iff` has
the exact condition.
-/

namespace Vidix.Mga

open Util

/-! ### The planes -/

/-- The planes that the chip has a start address for. -/
inductive Plane
  | luma | chroma | chroma3
  deriving DecidableEq, Repr

/-- The planes of a format.  The G200 has U and V interleaved in one. -/
def planes (isG400 : Bool) (fourcc : UInt32) : List Plane :=
  if isPlanar fourcc then
    if isG400 then [.luma, .chroma, .chroma3] else [.luma, .chroma]
  else [.luma]

/-- The lines of the source. -/
def sourceLines (config : VidixPlayback) : ℕ := (sourceSize config).2.toUInt32.toNat

/-- The source lines that are hidden above the screen, with 16 bits behind the point. -/
def hiddenScaled (config : VidixPlayback) : ℕ :=
  (-config.dest.y.toInt32.toInt).toNat * (besviscalOf config).toNat

namespace Plane

/-- Where the application finds a plane in its frame. -/
def offset (config : VidixPlayback) : Plane → UInt32
  | luma => (planeOffsets config).y
  | chroma => (planeOffsets config).v
  | chroma3 => (planeOffsets config).u

/-- The bytes between two rows. -/
def stride (isG400 : Bool) (config : VidixPlayback) : Plane → ℤ
  | luma => chipStride config
  | chroma | chroma3 => if isG400 then chipStride config / 2 else chipStride config

def lines (config : VidixPlayback) : Plane → ℕ
  | luma => sourceLines config
  | chroma | chroma3 => sourceLines config / 2

/-- The whole lines that are hidden. -/
def hidden (config : VidixPlayback) : Plane → ℕ
  | luma => hiddenScaled config / 2 ^ 16
  | chroma | chroma3 => hiddenScaled config / 2 / 2 ^ 16

/-- The start address in the registers of the chip. -/
def start (chip : BesRegisters) : Plane → Buffer → UInt32
  | luma => chip.org
  | chroma => chip.corg
  | chroma3 => chip.c3org

/-- The lines from the start to the last one; two luma lines share one of chroma. -/
def fetched (chip : BesRegisters) : Plane → ℕ
  | luma => chip.besv1srclst.toNat + 1
  | chroma | chroma3 => (chip.besv1srclst.toNat + 1 + 1) / 2

end Plane

/-- The address of a line of a plane, in the frame of a buffer. -/
def lineAddress (isG400 : Bool) (srcBase : Int32) (config : VidixPlayback) (p : Plane) (b : Buffer)
    (line : ℕ) : ℤ :=
  srcBase.toInt + (UInt32.ofNat b.frame * frameSizeOf config).toNat + (p.offset config).toNat +
    line * p.stride isG400 config

/-- A plane is started at its first line that is not hidden, and fetched to its end at most. -/
structure PlaneClipped (s : Scaler) (srcBase : Int32) (config : VidixPlayback) (p : Plane)
    (b : Buffer) : Prop where
  start_eq : ((p.start s.chip b).toNat : ℤ) =
    lineAddress s.isG400 srcBase config p b (p.hidden config)
  inside : (p.start s.chip b).toNat + p.fetched s.chip * p.stride s.isG400 config ≤
    lineAddress s.isG400 srcBase config p b (p.lines config)

/-- All planes of the four buffers are. -/
def WindowClipped (s : Scaler) (srcBase : Int32) (config : VidixPlayback) : Prop :=
  ∀ p ∈ planes s.isG400 config.fourcc, ∀ b, PlaneClipped s srcBase config p b

/-- A chroma plane that lies behind the other one, in the order of the format. -/
def Plane.isSecond (config : VidixPlayback) : Plane → Bool
  | luma => false
  | chroma => config.fourcc != imgfmtYV12
  | chroma3 => config.fourcc == imgfmtYV12

/-- The windows that are clipped as they should be. -/
structure ClipFits (isG400 : Bool) (srcBase : Int32) (config : VidixPlayback) : Prop where
  /-- The hidden lines are counted with ten bits. -/
  hidden_lt : Plane.luma.hidden config < 2 ^ 10
  /-- Not all of the source is hidden. -/
  hidden_lt_lines : Plane.luma.hidden config < sourceLines config
  packed : isPlanar config.fourcc = false → Plane.luma.hidden config = 0
  threePlanes : isPlanar config.fourcc = true → isG400 = true → Plane.luma.hidden config % 4 < 2
  /-- A quarter of the luma plane is taken of an `int` in the layout, and of an `unsigned` for the
  chip. -/
  second : ∀ p ∈ planes isG400 config.fourcc, p.isSecond config = true →
    (lumaBytes config).toNat < 2 ^ 31
  /-- The addresses are words. -/
  addresses : ∀ p ∈ planes isG400 config.fourcc, ∀ b,
    0 ≤ lineAddress isG400 srcBase config p b (p.hidden config) ∧
      lineAddress isG400 srcBase config p b (p.hidden config) < 2 ^ 32

variable {s : Scaler} {d : Driver} {config : VidixPlayback} {vcount : UInt32} {srcBase : Int32}
  {isG400 : Bool} {b : Buffer} {p : Plane}

theorem mem_planes_iff {fourcc : UInt32} :
    p ∈ planes isG400 fourcc ↔
      p = .luma ∨ isPlanar fourcc = true ∧ (p = .chroma ∨ p = .chroma3 ∧ isG400 = true) := by
  unfold planes
  cases isPlanar fourcc with
  | false => simp
  | true => cases isG400 <;> simp

/-! ### The hidden lines -/

theorem offScreen_toNat (y : Int32) : (offScreen y).toUInt32.toNat = (-y.toInt).toNat := by
  have hint := toInt_eq y
  have hlt : y.toUInt32.toNat < 2 ^ 32 := UInt32.toNat_lt _
  unfold offScreen onScreen
  split_ifs with hpos
  · have hpos' : 0 < y.toInt := Int32.lt_iff_toInt_lt.mp hpos
    rw [Int32.sub_self, Int.toNat_of_nonpos (by omega)]
    rfl
  · have hneg : y.toInt ≤ 0 := not_lt.mp fun h => hpos (Int32.lt_iff_toInt_lt.mpr h)
    rw [Int32.zero_sub, Int32.toUInt32_neg, UInt32.toNat_neg]
    show (2 ^ 32 - y.toUInt32.toNat) % 2 ^ 32 = _
    split_ifs at hint <;> omega

/-- The product that the registers are computed from. -/
theorem scaled_toNat (config : VidixPlayback) :
    ((offScreen config.dest.y.toInt32).toUInt32 * besviscalOf config).toNat =
      hiddenScaled config % 2 ^ 32 := by
  rw [UInt32.toNat_mul, offScreen_toNat]
  rfl

/-- Two luma lines share one of chroma. -/
theorem hidden_chroma (config : VidixPlayback) :
    Plane.chroma.hidden config = Plane.luma.hidden config / 2 := by
  show hiddenScaled config / 2 / 2 ^ 16 = hiddenScaled config / 2 ^ 16 / 2
  omega

theorem lumaAdrofs_modEq (h : Plane.luma.hidden config < 2 ^ 10) :
    ((lumaAdrofs config).toUInt32.toNat : ℤ) ≡
      (Plane.luma.hidden config : ℕ) * ((bespitchOf config).toNat : ℤ) [ZMOD 2 ^ 32] := by
  have hlines : (((offScreen config.dest.y.toInt32).toUInt32 * besviscalOf config) >>> 16).toNat =
      Plane.luma.hidden config := by
    change hiddenScaled config / 2 ^ 16 < 2 ^ 10 at h
    rw [UInt32.toNat_shiftRight, scaled_toNat, Nat.shiftRight_eq_div_pow]
    show hiddenScaled config % 2 ^ 32 / 2 ^ 16 = hiddenScaled config / 2 ^ 16
    omega
  unfold lumaAdrofs
  rw [UInt32.toUInt32_toInt32]
  refine toNat_mul_modEq ?_ (Int.ModEq.refl _)
  rw [hlines]

/-- On the G400 the hidden luma lines are divided by four. -/
theorem chromaAdrofs_modEq (isG400 : Bool) (h : Plane.luma.hidden config < 2 ^ 10) :
    ((chromaAdrofs isG400 config).toUInt32.toNat : ℤ) ≡
      ((if isG400 then Plane.luma.hidden config / 4 else Plane.luma.hidden config / 2 : ℕ) : ℤ) *
        ((bespitchOf config).toNat : ℤ) [ZMOD 2 ^ 32] := by
  change hiddenScaled config / 2 ^ 16 < 2 ^ 10 at h
  have hlines : ∀ k : UInt32, k = 2 ∨ k = 4 →
      (((offScreen config.dest.y.toInt32).toUInt32 * besviscalOf config / k) >>> 16).toNat =
        hiddenScaled config / 2 ^ 16 / k.toNat := by
    intro k hk
    rw [UInt32.toNat_shiftRight, UInt32.toNat_div, scaled_toNat, Nat.shiftRight_eq_div_pow]
    show hiddenScaled config % 2 ^ 32 / k.toNat / 2 ^ 16 = _
    rw [Nat.mod_eq_of_lt (by omega), Nat.div_div_eq_div_mul, Nat.div_div_eq_div_mul, Nat.mul_comm]
  unfold chromaAdrofs
  dsimp only
  rw [UInt32.toUInt32_toInt32]
  refine toNat_mul_modEq ?_ (Int.ModEq.refl _)
  cases isG400 with
  | true => exact congrArg (Nat.cast (R := ℤ)) (hlines 4 (Or.inr rfl)) ▸ Int.ModEq.refl _
  | false => exact congrArg (Nat.cast (R := ℤ)) (hlines 2 (Or.inl rfl)) ▸ Int.ModEq.refl _

/-- The last line, counted from the start. -/
theorem chip_besv1srclst (s : Scaler) (vcount : UInt32) (h : (vixConfigPlayback d config).1 = 0) :
    ((s.vixConfigPlayback d config vcount).chip.besv1srclst.toNat : ℤ) =
      ((sourceLines config : ℤ) - 1 - (Plane.luma.hidden config % 2 ^ 10 : ℕ)) % 2 ^ 32 := by
  rw [Scaler.vixConfigPlayback_of_accepted h, mgaVidWriteRegs_besv1srclst]
  dsimp only
  rw [besRegisters_besv1srclst]
  have hmask : (((offScreen config.dest.y.toInt32).toUInt32 * besviscalOf config) >>> 16 &&&
      0x03ff).toNat = Plane.luma.hidden config % 2 ^ 10 := by
    rw [toNat_and_field (w := 10) (k := 0) rfl, UInt32.toNat_shiftRight, scaled_toNat,
      Nat.shiftRight_eq_div_pow]
    show hiddenScaled config % 2 ^ 32 / 2 ^ 16 / 2 ^ 0 % 2 ^ 10 * 2 ^ 0 =
      hiddenScaled config / 2 ^ 16 % 2 ^ 10
    omega
  have hlt : sourceLines config < 2 ^ 32 := UInt32.toNat_lt _
  have hone : ((sourceSize config).2 - 1).toUInt32 = (sourceSize config).2.toUInt32 - 1 := by
    rw [Int32.toUInt32_sub]
    rfl
  rw [hone, UInt32.toNat_sub, UInt32.toNat_sub, hmask]
  show (((2 ^ 32 - Plane.luma.hidden config % 2 ^ 10 +
    (2 ^ 32 - 1 + sourceLines config) % 2 ^ 32) % 2 ^ 32 : ℕ) : ℤ) = _
  omega

/-! ### The rows -/

theorem validSizes_of_accepted (h : (vixConfigPlayback d config).1 = 0) :
    validSizes config = true := by
  by_contra hsizes
  exact vixConfigPlayback_of_not_accepted d (fun hacc => hsizes hacc.1) h

/-- The width of an accepted request. -/
theorem sourceWidth_bounds (hvalid : validSizes config = true) :
    4 ≤ (sourceSize config).1.toUInt32.toNat ∧
      (sourceSize config).1.toUInt32.toNat ≤ 2 ^ 31 := by
  obtain ⟨hfour, hlt⟩ := size_bounds (validSizes_iff.mp hvalid).1
  rw [sourceSize_fst_toNat hlt]
  omega

/-- The rows of planes are multiples of 32 bytes. -/
theorem exists_bespitchOf_planar (hvalid : validSizes config = true)
    (hplanar : isPlanar config.fourcc = true) :
    ∃ m, 0 < m ∧ m ≤ 2 ^ 26 ∧ (bespitchOf config).toNat = 32 * m := by
  obtain ⟨hfour, hle⟩ := sourceWidth_bounds hvalid
  have hpitch := planePitch_toNat hle
  refine ⟨((sourceSize config).1.toUInt32.toNat + 31) / 32, by omega, by omega, ?_⟩
  unfold bespitchOf
  dsimp only
  rw [if_pos hplanar, hpitch, Nat.mul_comm]

theorem bespitchOf_packed_pos (hvalid : validSizes config = true)
    (hpacked : isPlanar config.fourcc = false) : 0 < (bespitchOf config).toNat := by
  obtain ⟨hfour, hle⟩ := sourceWidth_bounds hvalid
  have hpitch := packedPitch_toNat hle
  unfold bespitchOf
  dsimp only
  rw [if_neg (by simp [hpacked]), hpitch]
  omega

theorem chipStride_planar (hplanar : isPlanar config.fourcc = true) :
    chipStride config = (bespitchOf config).toNat := if_pos hplanar

theorem chipStride_packed (hpacked : isPlanar config.fourcc = false) :
    chipStride config = (bespitchOf config).toNat * 2 := if_neg (by simp [hpacked])

/-- The hidden chroma rows are the right ones iff the luma lines come in whole pairs of pairs, or
in no more than one line beyond. -/
theorem chromaRows_modEq_iff (isG400 : Bool) (hvalid : validSizes config = true)
    (hplanar : isPlanar config.fourcc = true) :
    ((if isG400 then Plane.luma.hidden config / 4 else Plane.luma.hidden config / 2 : ℕ) : ℤ) *
          ((bespitchOf config).toNat : ℤ) ≡
        (Plane.luma.hidden config / 2 : ℕ) * Plane.chroma.stride isG400 config [ZMOD 2 ^ 32] ↔
      (isG400 = true → Plane.luma.hidden config % 4 < 2) := by
  obtain ⟨m, hpos, hle, hpitch⟩ := exists_bespitchOf_planar hvalid hplanar
  have hstride := chipStride_planar hplanar
  unfold Plane.stride
  cases isG400 with
  | false => exact iff_of_true (by rw [hstride]; exact Int.ModEq.refl _) (by simp)
  | true =>
    have hhalf : chipStride config / 2 = 16 * m := by omega
    simp only [if_true, forall_const]
    rw [hhalf, hpitch, Int.modEq_iff_dvd]
    generalize Plane.luma.hidden config = l
    have hquarter : l / 2 = 2 * (l / 4) + (if l % 4 < 2 then 0 else 1) := by split_ifs <;> omega
    rw [hquarter]
    split_ifs with hpair
    · refine iff_of_true ⟨0, ?_⟩ hpair
      push_cast
      ring
    · refine iff_of_false (fun hdvd => ?_) hpair
      have hdiff :
          ((2 * (l / 4) + 1 : ℕ) : ℤ) * (16 * m) - (l / 4 : ℕ) * (32 * m : ℕ) = 16 * m := by
        push_cast
        ring
      rw [hdiff] at hdvd
      have := Int.le_of_dvd (by omega) hdvd
      omega

/-- A quarter of an `int` is one of an `unsigned` iff it is not negative. -/
theorem quarter_modEq_iff (x : Int32) :
    ((x.toUInt32.toNat / 4 : ℕ) : ℤ) ≡ ((x / 4).toUInt32.toNat : ℤ) [ZMOD 2 ^ 32] ↔
      x.toUInt32.toNat < 2 ^ 31 := by
  have hint := toInt_eq x
  have hlt : x.toUInt32.toNat < 2 ^ 32 := UInt32.toNat_lt _
  have hquot := toNat_toUInt32_modEq (x / 4)
  rw [Int32.toInt_div_of_ne_right _ _ (by decide), show (4 : Int32).toInt = 4 from rfl] at hquot
  by_cases hsmall : x.toUInt32.toNat < 2 ^ 31
  · rw [if_pos hsmall] at hint
    rw [hint, Int.tdiv_eq_ediv_of_nonneg (by omega)] at hquot
    refine iff_of_true (Int.ModEq.trans ?_ hquot.symm) hsmall
    rw [Int.natCast_div]
    exact Int.ModEq.refl _
  · rw [if_neg hsmall] at hint
    refine iff_of_false (fun hmod => ?_) hsmall
    have hneg : x.toInt.tdiv 4 = -(-x.toInt / 4) := by
      rw [← Int.tdiv_eq_ediv_of_nonneg (by omega), Int.neg_tdiv, neg_neg]
    have hboth := hmod.trans hquot
    rw [hneg, Int.modEq_iff_dvd] at hboth
    omega

/-! ### The start addresses -/

/-- The beginning of the frame of a buffer. -/
def frameStart (srcBase : Int32) (config : VidixPlayback) (b : Buffer) : ℤ :=
  srcBase.toInt + (UInt32.ofNat b.frame * frameSizeOf config).toNat

theorem startAdr_modEq (srcBase : Int32) (config : VidixPlayback) (b : Buffer)
    {baseadrofs : Int32} {rows : ℤ}
    (h : (baseadrofs.toUInt32.toNat : ℤ) ≡ rows [ZMOD 2 ^ 32]) :
    ((startAdr srcBase config baseadrofs (UInt32.ofNat b.frame)).toNat : ℤ) ≡
      frameStart srcBase config b + rows [ZMOD 2 ^ 32] := by
  have hsum := toNat_add_modEq (toNat_add_modEq (toNat_toUInt32_modEq srcBase) h)
    (Int.ModEq.refl (UInt32.ofNat b.frame * frameSizeOf config).toNat)
  unfold frameStart
  rw [add_right_comm]
  exact hsum

/-- What is added for a second chroma plane: a quarter of the luma plane, for the chip and in the
layout. -/
def chipQuarter (config : VidixPlayback) (p : Plane) : UInt32 :=
  if p.isSecond config then lumaBytes config / 4 else 0

def layoutQuarter (config : VidixPlayback) (p : Plane) : UInt32 :=
  if p.isSecond config then (planePitch (sourceSize config).1 * (sourceSize config).2 / 4).toUInt32
  else 0

theorem lumaBytes_planar (hplanar : isPlanar config.fourcc = true) :
    lumaBytes config = (planePitch (sourceSize config).1 * (sourceSize config).2).toUInt32 := by
  rw [Int32.toUInt32_mul]
  unfold lumaBytes bespitchOf
  dsimp only
  rw [if_pos hplanar]

/-- The layout puts the two chroma planes behind the luma plane, V first in YV12. -/
theorem planeOffsets_planar (hplanar : isPlanar config.fourcc = true) (p : Plane)
    (hp : p ≠ .luma) :
    p.offset config = lumaBytes config + layoutQuarter config p := by
  have hformat : (config.fourcc == imgfmtI420 || config.fourcc == imgfmtIYUV) =
      (config.fourcc != imgfmtYV12) := by
    by_cases h : config.fourcc = imgfmtYV12
    · rw [h]
      decide
    · unfold isPlanar at hplanar
      rw [beq_eq_false_iff_ne.mpr h, Bool.or_false] at hplanar
      rw [hplanar, bne_iff_ne.mpr h]
  unfold Plane.offset layoutQuarter Plane.isSecond planeOffsets
  dsimp only
  rw [lumaBytes_planar hplanar, hformat]
  cases p with
  | luma => exact absurd rfl hp
  | chroma =>
    by_cases h : config.fourcc = imgfmtYV12
    · simp [h]
    · simp [h]
  | chroma3 =>
    by_cases h : config.fourcc = imgfmtYV12
    · simp [h]
    · simp [h]

/-- The registers of the chroma planes are set in the same order. -/
theorem chip_start_chroma (h : (vixConfigPlayback d config).1 = 0)
    (hp : p ∈ planes s.isG400 config.fourcc) (hne : p ≠ .luma) :
    p.start (s.vixConfigPlayback d config vcount).chip b =
      firstStart s.isG400 (vixConfigPlayback d config).2.1.mgaSrcBase config b +
        chipQuarter config p := by
  obtain ⟨hplanar, hthird⟩ := (mem_planes_iff.mp hp).resolve_left hne
  unfold Plane.start chipQuarter Plane.isSecond
  cases p with
  | luma => exact absurd rfl hne
  | chroma =>
    dsimp only
    rw [Scaler.chip_corg h hplanar]
    by_cases hfmt : config.fourcc = imgfmtYV12
    · simp [hfmt]
    · simp [hfmt]
  | chroma3 =>
    have hg400 : s.isG400 = true := (hthird.resolve_left (by decide)).2
    dsimp only
    rw [Scaler.chip_c3org h hplanar hg400]
    by_cases hfmt : config.fourcc = imgfmtYV12
    · simp [hfmt]
    · simp [hfmt]

theorem isG400_vixConfigPlayback (s : Scaler) (d : Driver) (config : VidixPlayback)
    (vcount : UInt32) : (s.vixConfigPlayback d config vcount).isG400 = s.isG400 := by
  unfold Scaler.vixConfigPlayback
  dsimp only
  split_ifs
  · rfl
  · rfl

/-! ### One plane -/

theorem stride_pos (hvalid : validSizes config = true) (p : Plane)
    (hp : p ∈ planes isG400 config.fourcc) : 0 < p.stride isG400 config := by
  cases hplanar : isPlanar config.fourcc with
  | true =>
    obtain ⟨m, hpos, -, hpitch⟩ := exists_bespitchOf_planar hvalid hplanar
    have hchip := chipStride_planar hplanar
    unfold Plane.stride
    cases p with
    | luma =>
      dsimp only
      omega
    | chroma =>
      dsimp only
      split_ifs <;> omega
    | chroma3 =>
      dsimp only
      split_ifs <;> omega
  | false =>
    have hpos := bespitchOf_packed_pos hvalid hplanar
    have hluma : p = .luma := (mem_planes_iff.mp hp).resolve_right (by simp [hplanar])
    rw [hluma]
    show 0 < chipStride config
    rw [chipStride_packed hplanar]
    omega

/-- Once the start is right, the lines have to fit. -/
theorem planeClipped_iff (hstride : 0 < p.stride s.isG400 config) :
    PlaneClipped s srcBase config p b ↔
      ((p.start s.chip b).toNat : ℤ) ≡
          lineAddress s.isG400 srcBase config p b (p.hidden config) [ZMOD 2 ^ 32] ∧
        (0 ≤ lineAddress s.isG400 srcBase config p b (p.hidden config) ∧
          lineAddress s.isG400 srcBase config p b (p.hidden config) < 2 ^ 32) ∧
        p.hidden config + p.fetched s.chip ≤ p.lines config := by
  rw [← and_assoc, ← toNat_eq_iff_modEq]
  have hlines : ∀ start : ℤ, start = lineAddress s.isG400 srcBase config p b (p.hidden config) →
      (start + p.fetched s.chip * p.stride s.isG400 config ≤
          lineAddress s.isG400 srcBase config p b (p.lines config) ↔
        p.hidden config + p.fetched s.chip ≤ p.lines config) := by
    rintro _ rfl
    unfold lineAddress
    rw [add_assoc, ← add_mul, add_le_add_iff_left, mul_le_mul_iff_left₀ hstride]
    norm_cast
  constructor
  · intro h
    exact ⟨h.start_eq, (hlines _ h.start_eq).mp h.inside⟩
  · rintro ⟨hstart, hinside⟩
    exact ⟨hstart, (hlines _ hstart).mpr hinside⟩

/-- The lines of the luma plane fit iff all of the hidden ones have been counted, and some are
left. -/
theorem luma_fetched_iff (h : (vixConfigPlayback d config).1 = 0) :
    Plane.luma.hidden config +
          Plane.luma.fetched (s.vixConfigPlayback d config vcount).chip ≤
        Plane.luma.lines config ↔
      Plane.luma.hidden config < 2 ^ 10 ∧ Plane.luma.hidden config < sourceLines config := by
  have hlast := chip_besv1srclst s vcount h
  have hlt : sourceLines config < 2 ^ 32 := UInt32.toNat_lt _
  show Plane.luma.hidden config +
    ((s.vixConfigPlayback d config vcount).chip.besv1srclst.toNat + 1) ≤ sourceLines config ↔ _
  omega

/-- With an even number of lines those of the chroma planes do as well. -/
theorem chroma_fetched_le (s : Scaler) (vcount : UInt32) (h : (vixConfigPlayback d config).1 = 0)
    (hhidden : Plane.luma.hidden config < 2 ^ 10)
    (hlines : Plane.luma.hidden config < sourceLines config)
    (heven : sourceLines config % 2 = 0) :
    Plane.chroma.hidden config + Plane.chroma.fetched (s.vixConfigPlayback d config vcount).chip ≤
      Plane.chroma.lines config := by
  have hlast := chip_besv1srclst s vcount h
  have hlt : sourceLines config < 2 ^ 32 := UInt32.toNat_lt _
  rw [hidden_chroma]
  show _ + ((s.vixConfigPlayback d config vcount).chip.besv1srclst.toNat + 1 + 1) / 2 ≤
    sourceLines config / 2
  omega

/-- The height of an accepted request, which planar formats make even. -/
theorem sourceLines_eq (hvalid : validSizes config = true) :
    sourceLines config =
      if isPlanar config.fourcc then config.src.h.toNat + config.src.h.toNat % 2
      else config.src.h.toNat := by
  obtain ⟨-, hlt⟩ := size_bounds (validSizes_iff.mp hvalid).2.1
  unfold sourceLines sourceSize
  dsimp only
  split_ifs
  · exact evenUp_toNat hlt
  · rfl

theorem sourceLines_even (hvalid : validSizes config = true)
    (hplanar : isPlanar config.fourcc = true) : sourceLines config % 2 = 0 := by
  rw [sourceLines_eq hvalid, if_pos hplanar]
  omega

theorem lineAddress_eq (line : ℕ) :
    lineAddress isG400 srcBase config p b line =
      frameStart srcBase config b + ((p.offset config).toNat + line * p.stride isG400 config) :=
  add_assoc _ _ _

theorem luma_start_modEq_iff (h : (vixConfigPlayback d config).1 = 0)
    (hhidden : Plane.luma.hidden config < 2 ^ 10) :
    ((Plane.luma.start (s.vixConfigPlayback d config vcount).chip b).toNat : ℤ) ≡
        lineAddress isG400 (vixConfigPlayback d config).2.1.mgaSrcBase config .luma b
          (Plane.luma.hidden config) [ZMOD 2 ^ 32] ↔
      (Plane.luma.hidden config : ℕ) * ((bespitchOf config).toNat : ℤ) ≡
        (Plane.luma.hidden config : ℕ) * chipStride config [ZMOD 2 ^ 32] := by
  have hstart := startAdr_modEq (vixConfigPlayback d config).2.1.mgaSrcBase config b
    (lumaAdrofs_modEq hhidden)
  have hzero : ((Plane.luma.offset config).toNat : ℤ) = 0 := by
    unfold Plane.offset planeOffsets
    dsimp only
    split_ifs <;> rfl
  have hchip : Plane.luma.start (s.vixConfigPlayback d config vcount).chip b = _ :=
    Scaler.chip_org h b
  rw [hchip, lineAddress_eq, hzero, zero_add]
  constructor
  · intro hmod
    exact (hstart.symm.trans hmod).add_left_cancel' _
  · intro hrows
    exact hstart.trans (hrows.add_left _)

theorem chroma_start_modEq_iff (h : (vixConfigPlayback d config).1 = 0)
    (hhidden : Plane.luma.hidden config < 2 ^ 10) (hplanar : isPlanar config.fourcc = true)
    (hp : p ∈ planes s.isG400 config.fourcc) (hne : p ≠ .luma) :
    ((p.start (s.vixConfigPlayback d config vcount).chip b).toNat : ℤ) ≡
        lineAddress s.isG400 (vixConfigPlayback d config).2.1.mgaSrcBase config p b
          (p.hidden config) [ZMOD 2 ^ 32] ↔
      ((if s.isG400 then Plane.luma.hidden config / 4 else Plane.luma.hidden config / 2 : ℕ) : ℤ) *
            ((bespitchOf config).toNat : ℤ) + (chipQuarter config p).toNat ≡
        (Plane.luma.hidden config / 2 : ℕ) * Plane.chroma.stride s.isG400 config +
          (layoutQuarter config p).toNat [ZMOD 2 ^ 32] := by
  have hstart : ((p.start (s.vixConfigPlayback d config vcount).chip b).toNat : ℤ) ≡
      frameStart (vixConfigPlayback d config).2.1.mgaSrcBase config b + (lumaBytes config).toNat +
        (((if s.isG400 then Plane.luma.hidden config / 4
            else Plane.luma.hidden config / 2 : ℕ) : ℤ) *
          ((bespitchOf config).toNat : ℤ) + (chipQuarter config p).toNat) [ZMOD 2 ^ 32] := by
    have hfirst := startAdr_modEq (vixConfigPlayback d config).2.1.mgaSrcBase config b
      (chromaAdrofs_modEq s.isG400 hhidden)
    have hsum := toNat_add_modEq (toNat_add_modEq hfirst (Int.ModEq.refl (lumaBytes config).toNat))
      (Int.ModEq.refl (chipQuarter config p).toNat)
    rw [chip_start_chroma h hp hne, add_add_add_comm, ← add_assoc]
    exact hsum
  have haddress : lineAddress s.isG400 (vixConfigPlayback d config).2.1.mgaSrcBase config p b
        (p.hidden config) ≡
      frameStart (vixConfigPlayback d config).2.1.mgaSrcBase config b + (lumaBytes config).toNat +
        ((Plane.luma.hidden config / 2 : ℕ) * Plane.chroma.stride s.isG400 config +
          (layoutQuarter config p).toNat) [ZMOD 2 ^ 32] := by
    have hoffset : ((p.offset config).toNat : ℤ) ≡
        (lumaBytes config).toNat + (layoutQuarter config p).toNat [ZMOD 2 ^ 32] := by
      rw [planeOffsets_planar hplanar p hne]
      exact toNat_add_modEq (Int.ModEq.refl _) (Int.ModEq.refl _)
    have hrows : (p.hidden config : ℤ) * p.stride s.isG400 config =
        (Plane.luma.hidden config / 2 : ℕ) * Plane.chroma.stride s.isG400 config := by
      rw [← hidden_chroma]
      cases p with
      | luma => exact absurd rfl hne
      | chroma => rfl
      | chroma3 => rfl
    have hsum := (hoffset.add_right ((Plane.luma.hidden config / 2 : ℕ) *
      Plane.chroma.stride s.isG400 config)).add_left
        (frameStart (vixConfigPlayback d config).2.1.mgaSrcBase config b)
    rw [lineAddress_eq, hrows]
    calc _ ≡ _ [ZMOD 2 ^ 32] := hsum
      _ = _ := by ring
  constructor
  · intro hmod
    exact ((hstart.symm.trans hmod).trans haddress).add_left_cancel' _
  · intro hrows
    exact (hstart.trans (hrows.add_left _)).trans haddress.symm

/-! ### The window -/

/-- What is owed for one plane, by what has been shown about starts and lines. -/
theorem planeClipped_configured_iff (h : (vixConfigPlayback d config).1 = 0)
    (hp : p ∈ planes s.isG400 config.fourcc) :
    PlaneClipped (s.vixConfigPlayback d config vcount)
        (vixConfigPlayback d config).2.1.mgaSrcBase config p b ↔
      ((p.start (s.vixConfigPlayback d config vcount).chip b).toNat : ℤ) ≡
          lineAddress s.isG400 (vixConfigPlayback d config).2.1.mgaSrcBase config p b
            (p.hidden config) [ZMOD 2 ^ 32] ∧
        (0 ≤ lineAddress s.isG400 (vixConfigPlayback d config).2.1.mgaSrcBase config p b
            (p.hidden config) ∧
          lineAddress s.isG400 (vixConfigPlayback d config).2.1.mgaSrcBase config p b
            (p.hidden config) < 2 ^ 32) ∧
        p.hidden config + p.fetched (s.vixConfigPlayback d config vcount).chip ≤
          p.lines config := by
  have hvalid := validSizes_of_accepted h
  have hstride : 0 < p.stride (s.vixConfigPlayback d config vcount).isG400 config := by
    rw [isG400_vixConfigPlayback]
    exact stride_pos hvalid p hp
  rw [planeClipped_iff hstride, isG400_vixConfigPlayback]

/-- A packed picture that starts where it should starts with its first line. -/
theorem hidden_eq_zero_of_packed (hvalid : validSizes config = true)
    (hpacked : isPlanar config.fourcc = false)
    (hrows : (Plane.luma.hidden config : ℕ) * ((bespitchOf config).toNat : ℤ) ≡
      (Plane.luma.hidden config : ℕ) * chipStride config [ZMOD 2 ^ 32])
    (haddress : lineAddress isG400 srcBase config .luma b (Plane.luma.hidden config) < 2 ^ 32) :
    Plane.luma.hidden config = 0 := by
  have hpos := bespitchOf_packed_pos hvalid hpacked
  have hbase : -2 ^ 31 ≤ srcBase.toInt := srcBase.minValue_le_toInt
  rw [lineAddress_eq] at haddress
  unfold frameStart at haddress
  change _ + (_ + _ * chipStride config) < _ at haddress
  rw [chipStride_packed hpacked] at hrows haddress
  rw [← mul_assoc] at hrows haddress
  have hbytes : ((Plane.luma.hidden config : ℕ) : ℤ) * ((bespitchOf config).toNat : ℤ) =
      ((Plane.luma.hidden config * (bespitchOf config).toNat : ℕ) : ℤ) := by push_cast; rfl
  rw [hbytes] at hrows haddress
  rw [Int.modEq_iff_dvd] at hrows
  have hzero : Plane.luma.hidden config * (bespitchOf config).toNat = 0 := by omega
  exact (Nat.mul_eq_zero.mp hzero).resolve_right hpos.ne'

/-- A second plane that starts in the right row is not confused by the two quarters. -/
theorem quarters_modEq_iff (hplanar : isPlanar config.fourcc = true) (p : Plane) :
    ((chipQuarter config p).toNat : ℤ) ≡ (layoutQuarter config p).toNat [ZMOD 2 ^ 32] ↔
      (p.isSecond config = true → (lumaBytes config).toNat < 2 ^ 31) := by
  unfold chipQuarter layoutQuarter
  cases p.isSecond config with
  | false => simp
  | true =>
    simp only [if_true, forall_const]
    rw [lumaBytes_planar hplanar, UInt32.toNat_div]
    exact quarter_modEq_iff _

/-- The chroma planes start where they should iff the rows and the quarters are right: of the two
planes of the G400, one has no quarter. -/
theorem chroma_starts_iff (h : (vixConfigPlayback d config).1 = 0)
    (hhidden : Plane.luma.hidden config < 2 ^ 10) (hplanar : isPlanar config.fourcc = true) :
    (∀ p ∈ planes s.isG400 config.fourcc, p ≠ .luma → ∀ b,
        ((p.start (s.vixConfigPlayback d config vcount).chip b).toNat : ℤ) ≡
          lineAddress s.isG400 (vixConfigPlayback d config).2.1.mgaSrcBase config p b
            (p.hidden config) [ZMOD 2 ^ 32]) ↔
      (s.isG400 = true → Plane.luma.hidden config % 4 < 2) ∧
        ∀ p ∈ planes s.isG400 config.fourcc, p.isSecond config = true →
          (lumaBytes config).toNat < 2 ^ 31 := by
  have hvalid := validSizes_of_accepted h
  have hrows := chromaRows_modEq_iff s.isG400 hvalid hplanar
  constructor
  · intro hall
    have hpair : s.isG400 = true → Plane.luma.hidden config % 4 < 2 := by
      intro hg400
      refine hrows.mp ?_ hg400
      -- the plane that comes first
      obtain ⟨p, hp, hne, hfirst⟩ : ∃ p ∈ planes s.isG400 config.fourcc,
          p ≠ .luma ∧ p.isSecond config = false := by
        by_cases hfmt : config.fourcc = imgfmtYV12
        · exact ⟨.chroma, mem_planes_iff.mpr (Or.inr ⟨hplanar, Or.inl rfl⟩), by decide,
            by simp [Plane.isSecond, hfmt]⟩
        · exact ⟨.chroma3, mem_planes_iff.mpr (Or.inr ⟨hplanar, Or.inr ⟨rfl, hg400⟩⟩), by decide,
            by simp [Plane.isSecond, hfmt]⟩
      have hmod := (chroma_start_modEq_iff h hhidden hplanar hp hne).mp (hall p hp hne .a1)
      unfold chipQuarter layoutQuarter at hmod
      rw [hfirst, if_neg Bool.false_ne_true, if_neg Bool.false_ne_true] at hmod
      exact hmod.add_right_cancel' _
    refine ⟨hpair, fun p hp hsecond => ?_⟩
    have hne : p ≠ .luma := by
      rintro rfl
      cases hsecond
    have hmod := (chroma_start_modEq_iff h hhidden hplanar hp hne).mp (hall p hp hne .a1)
    exact (quarters_modEq_iff hplanar p).mp
      (Int.ModEq.add_left_cancel (hrows.mpr hpair) hmod) hsecond
  · rintro ⟨hpair, hsecond⟩ p hp hne b
    refine (chroma_start_modEq_iff h hhidden hplanar hp hne).mpr ?_
    exact (hrows.mpr hpair).add ((quarters_modEq_iff hplanar p).mpr (hsecond p hp))

/-- The window of an accepted request is clipped as it should be iff it is one of those. -/
theorem windowClipped_iff (h : (vixConfigPlayback d config).1 = 0) :
    WindowClipped (s.vixConfigPlayback d config vcount)
        (vixConfigPlayback d config).2.1.mgaSrcBase config ↔
      ClipFits s.isG400 (vixConfigPlayback d config).2.1.mgaSrcBase config := by
  have hvalid := validSizes_of_accepted h
  have hluma : Plane.luma ∈ planes s.isG400 config.fourcc := mem_planes_iff.mpr (Or.inl rfl)
  have hchroma : ∀ p ∈ planes s.isG400 config.fourcc, p ≠ .luma →
      isPlanar config.fourcc = true := fun p hp hne =>
    ((mem_planes_iff.mp hp).resolve_left hne).1
  unfold WindowClipped
  rw [isG400_vixConfigPlayback]
  constructor
  · intro hall
    have hplane := fun p hp b =>
      (planeClipped_configured_iff (p := p) (b := b) h hp).mp (hall p hp b)
    obtain ⟨hstart, haddress, hlines⟩ := hplane .luma hluma .a1
    obtain ⟨hhidden, hlt⟩ := (luma_fetched_iff h).mp hlines
    have hstarts := fun hplanar => (chroma_starts_iff h hhidden hplanar).mp
      fun p hp _ b => (hplane p hp b).1
    refine ⟨hhidden, hlt, fun hpacked => ?_, fun hplanar => (hstarts hplanar).1,
      fun p hp hsecond => ?_, fun p hp b => (hplane p hp b).2.1⟩
    · exact hidden_eq_zero_of_packed hvalid hpacked ((luma_start_modEq_iff h hhidden).mp hstart)
        haddress.2
    · have hne : p ≠ .luma := by
        rintro rfl
        cases hsecond
      exact (hstarts (hchroma p hp hne)).2 p hp hsecond
  · intro hfits p hp b
    rw [planeClipped_configured_iff h hp]
    refine ⟨?_, hfits.addresses p hp b, ?_⟩
    · by_cases hne : p = .luma
      · subst hne
        rw [luma_start_modEq_iff h hfits.hidden_lt]
        cases hplanar : isPlanar config.fourcc with
        | true => rw [chipStride_planar hplanar]
        | false => rw [hfits.packed hplanar, Nat.cast_zero, zero_mul, zero_mul]
      · have hplanar := hchroma p hp hne
        exact (chroma_starts_iff h hfits.hidden_lt hplanar).mpr
          ⟨hfits.threePlanes hplanar, hfits.second⟩ p hp hne b
    · have hchromaLines : isPlanar config.fourcc = true → _ := fun hplanar =>
        chroma_fetched_le s vcount h hfits.hidden_lt hfits.hidden_lt_lines
          (sourceLines_even hvalid hplanar)
      cases p with
      | luma => exact (luma_fetched_iff h).mpr ⟨hfits.hidden_lt, hfits.hidden_lt_lines⟩
      | chroma => exact hchromaLines (hchroma _ hp (by decide))
      | chroma3 => exact hchromaLines (hchroma _ hp (by decide))

/-! ### The scale -/

/-- The step from line to line, while the shift of the source lines does not overflow. -/
theorem besviscalOf_toNat {dh : ℕ} (hdh : config.dest.h.toInt32.toInt = dh) (hfour : 4 ≤ dh)
    (hpos : 0 < sourceLines config) (hsmall : sourceLines config ≤ 2 ^ 17) :
    (besviscalOf config).toNat = (sourceLines config - 1) * 2 ^ 14 / (dh - 1) * 4 := by
  have hlast : ((sourceSize config).2 - 1).toUInt32.toNat = sourceLines config - 1 := by
    rw [Int32.toUInt32_sub, UInt32.toNat_sub_of_le]
    · rfl
    · exact UInt32.le_iff_toNat_le.mpr hpos
  have hnum : (((sourceSize config).2 - 1) <<< 14).toInt =
      ((sourceLines config - 1) * 2 ^ 14 : ℕ) := by
    have hword : (((sourceSize config).2 - 1) <<< 14).toUInt32.toNat =
        (sourceLines config - 1) * 2 ^ 14 := by
      show (((sourceSize config).2 - 1).toUInt32 <<< 14).toNat = _
      rw [toNat_shiftLeft_of_lt (n := 14) _ rfl (by decide), hlast, Nat.mod_eq_of_lt (by omega)]
    rw [toInt_eq, hword, if_pos (by omega)]
  have hden : (config.dest.h.toInt32 - 1).toInt = (dh - 1 : ℕ) := by
    have hlt := config.dest.h.toInt32.toInt_lt
    rw [Int32.toInt_sub, hdh, show (1 : Int32).toInt = 1 from rfl,
      Int.bmod_eq_of_le (by omega) (by omega)]
    omega
  have hquot : (ifactor (sourceSize config).2 config.dest.h.toInt32).toInt =
      ((sourceLines config - 1) * 2 ^ 14 / (dh - 1) : ℕ) := by
    have hne : config.dest.h.toInt32 - 1 ≠ -1 := by
      intro hminus
      rw [hminus, show (-1 : Int32).toInt = -1 from rfl] at hden
      omega
    unfold ifactor
    rw [Int32.toInt_div_of_ne_right _ _ hne, hnum, hden, Int.ofNat_tdiv]
  have hle : (sourceLines config - 1) * 2 ^ 14 / (dh - 1) < 2 ^ 30 := by
    rw [Nat.div_lt_iff_lt_mul (by omega)]
    omega
  have hfactor := toNat_toUInt32 (ifactor (sourceSize config).2 config.dest.h.toInt32)
  rw [hquot] at hfactor
  unfold besviscalOf
  show ((ifactor (sourceSize config).2 config.dest.h.toInt32).toUInt32 <<< 2).toNat = _
  rw [toNat_shiftLeft_of_lt (n := 2) _ rfl (by decide)]
  omega

/-- While the window hangs off by less than its height, there are lines left. -/
theorem hidden_lt_sourceLines (hvalid : validSizes config = true)
    (hclip : -config.dest.h.toInt32.toInt < config.dest.y.toInt32.toInt)
    (hsmall : sourceLines config ≤ 2 ^ 17) : Plane.luma.hidden config < sourceLines config := by
  obtain ⟨-, hheight, -, hfour⟩ := validSizes_iff.mp hvalid
  have hpos : 0 < sourceLines config := by
    have := size_bounds hheight
    rw [sourceLines_eq hvalid]
    split_ifs <;> omega
  obtain ⟨dh, hdh⟩ := Int.eq_ofNat_of_zero_le (by omega : 0 ≤ config.dest.h.toInt32.toInt)
  have hstep := besviscalOf_toNat hdh (by omega) hpos hsmall
  have hrows : (-config.dest.y.toInt32.toInt).toNat ≤ dh - 1 := by omega
  have hscaled : hiddenScaled config ≤ (sourceLines config - 1) * 2 ^ 16 := by
    calc hiddenScaled config
        ≤ (dh - 1) * ((sourceLines config - 1) * 2 ^ 14 / (dh - 1) * 4) := by
          unfold hiddenScaled
          rw [hstep]
          exact Nat.mul_le_mul_right _ hrows
      _ = (dh - 1) * ((sourceLines config - 1) * 2 ^ 14 / (dh - 1)) * 4 := by ring
      _ ≤ (sourceLines config - 1) * 2 ^ 14 * 4 := Nat.mul_le_mul_right _ (Nat.mul_div_le _ _)
      _ = (sourceLines config - 1) * 2 ^ 16 := by ring
  show hiddenScaled config / 2 ^ 16 < _
  omega

/-- **A window is clipped as it should be iff no line of a packed picture is hidden, and of the luma
lines of three planes a multiple of four or one more;** fewer than 1024 in any case, with lines left
and no address beyond 32 bits.  There are lines left while a window of a source of up to 131072
lines hangs off by less than its height. -/
theorem vixConfigPlayback_clipped_iff (s : Scaler) (d : Driver) (config : VidixPlayback)
    (vcount : UInt32) (h : (vixConfigPlayback d config).1 = 0) :
    (WindowClipped (s.vixConfigPlayback d config vcount)
        (vixConfigPlayback d config).2.1.mgaSrcBase config ↔
      ClipFits s.isG400 (vixConfigPlayback d config).2.1.mgaSrcBase config) ∧
      (-config.dest.h.toInt32.toInt < config.dest.y.toInt32.toInt →
        sourceLines config ≤ 2 ^ 17 → Plane.luma.hidden config < sourceLines config) :=
  ⟨windowClipped_iff h, fun hclip hsmall =>
    hidden_lt_sourceLines (validSizes_of_accepted h) hclip hsmall⟩

/-- A window of 320x240, unscaled, that hangs off the top of the screen. -/
def sampleWindow (fourcc : UInt32) (lines : UInt32) : VidixPlayback :=
  { sampleFrames with
    fourcc := fourcc
    numFrames := 4
    src := { x := 0, y := 0, w := 320, h := 240, pitch := ⟨0, 0, 0⟩ }
    dest := { x := 0, y := -lines, w := 320, h := 240, pitch := ⟨0, 0, 0⟩ } }

/-- Four lines of three planes are hidden. -/
theorem vixConfigPlayback_clipped_four :
    WindowClipped (sampleScaler.vixConfigPlayback sampleDriver (sampleWindow imgfmtYV12 4) 0)
      (vixConfigPlayback sampleDriver (sampleWindow imgfmtYV12 4)).2.1.mgaSrcBase
      (sampleWindow imgfmtYV12 4) := by
  refine (vixConfigPlayback_clipped_iff sampleScaler sampleDriver (sampleWindow imgfmtYV12 4) 0
    (by decide)).1.mpr ⟨by decide, by decide, by decide, by decide, ?_, ?_⟩
  · intro p hp hsecond
    decide
  · intro p hp b
    cases p <;> cases b <;> decide

/-- **Half a row of a packed picture is skipped for a hidden line,** and the first chroma line is
not skipped for two. -/
theorem vixConfigPlayback_clips_short :
    (vixConfigPlayback sampleDriver (sampleWindow imgfmtYUY2 1)).1 = 0 ∧
      ¬ WindowClipped (sampleScaler.vixConfigPlayback sampleDriver (sampleWindow imgfmtYUY2 1) 0)
        (vixConfigPlayback sampleDriver (sampleWindow imgfmtYUY2 1)).2.1.mgaSrcBase
        (sampleWindow imgfmtYUY2 1) ∧
      (vixConfigPlayback sampleDriver (sampleWindow imgfmtYV12 2)).1 = 0 ∧
      ¬ WindowClipped (sampleScaler.vixConfigPlayback sampleDriver (sampleWindow imgfmtYV12 2) 0)
        (vixConfigPlayback sampleDriver (sampleWindow imgfmtYV12 2)).2.1.mgaSrcBase
        (sampleWindow imgfmtYV12 2) := by
  refine ⟨by decide, ?_, by decide, ?_⟩
  · intro hclipped
    have hfits := (windowClipped_iff (by decide)).mp hclipped
    exact absurd (hfits.packed (by decide)) (by decide)
  · intro hclipped
    have hfits := (windowClipped_iff (by decide)).mp hclipped
    exact absurd (hfits.threePlanes (by decide) rfl) (by decide)

end Vidix.Mga
