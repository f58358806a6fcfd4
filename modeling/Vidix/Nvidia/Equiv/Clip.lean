import Vidix.Nvidia.Equiv.Config
import Vidix.Nvidia.Equiv.Overlay
import Vidix.Util.CutPicture
import Vidix.Util.Signed

/-!
# Clipping of the nvidia driver

A window that begins left of the screen or above it is cut, and the picture with it: the address
that is programmed skips the lines and columns which are not seen.  The driver takes a line to be as
long as its pixels, although the lines are a pitch apart, and where the chip has a register for the
limit it adds the whole frame to the address that skips.  So from NV10 on the window has to begin
inside the first line and column of the picture, and before that the lines have to be as long as
the pitch: `clipped_iff`.
-/

namespace Vidix.Nvidia

open Util

variable {card : Card} {info : RivatvInfo} {s s' : State} {base frame : UInt32}

/-! ### What should be programmed -/

/-- The registers that hold the address of the last byte of the picture. -/
def limitRegs : Arch → List UInt32
  | .nv03 | .nv04 => []
  | .nv10 => [0x908]
  | .nv20 | .nv30 => [0x908, 0x808]

/-- The corner of the window on the screen. -/
def cornerOf (card : Card) (info : RivatvInfo) : Int32 × Int32 :=
  windowPos card (nvGetscreenproperties card info)

/-- How many pixels of the window are before the screen. -/
def hidden (pos : Int32) : ℕ := (-pos.toInt).toNat

/-- A part of the window is on the screen. -/
structure Visible (card : Card) (info : RivatvInfo) : Prop where
  cols : max 0 (cornerOf card info).1.toInt <
    min ((cornerOf card info).1.toInt + info.dWidth.toNat)
      (nvGetscreenproperties card info).screenX.toNat
  lines : max 0 (cornerOf card info).2.toInt <
    min ((cornerOf card info).2.toInt + info.dHeight.toNat)
      (nvGetscreenproperties card info).screenY.toNat

/-- The columns of the picture that are not seen. -/
def skippedCols (card : Card) (info : RivatvInfo) : ℕ :=
  skipped (hidden (cornerOf card info).1) info.width.toNat info.dWidth.toNat

/-- The lines of the picture that are not seen. -/
def skippedLines (card : Card) (info : RivatvInfo) : ℕ :=
  skipped (hidden (cornerOf card info).2) info.height.toNat info.dHeight.toNat

/-- Where the first pixel that is seen is in its frame. -/
def firstSeen (card : Card) (info : RivatvInfo) : ℕ :=
  skippedLines card info * info.pitch.toNat + 2 * skippedCols card info

/-- The overlay reads the frame at `base` from the first pixel that is seen to the last byte. -/
structure Clipped (card : Card) (info : RivatvInfo) (base : UInt32) (s : State) : Prop where
  start : ∀ reg ∈ startRegs info.arch, (s.pvideo reg).toNat = base.toNat + firstSeen card info
  limit : ∀ reg ∈ limitRegs info.arch, s.pvideo reg = base + info.bufferSize.toUInt32 - 1

/-- The products of the hidden pixels with the size of the picture do not wrap, and the lines that
are skipped are as long as the pitch.  From NV10 on no line or column is skipped at all. -/
def ClipsRight (card : Card) (info : RivatvInfo) (base : UInt32) : Prop :=
  match info.arch with
  | .nv03 | .nv04 =>
    (info.dWidth ≠ 1 ∧ info.dHeight ≠ 1) ∧
      base.toNat + firstSeen card info < 2 ^ 32 ∧
      hidden (cornerOf card info).1 * info.width.toNat < 2 ^ 32 ∧
      (hidden (cornerOf card info).2 * info.height.toNat < info.dHeight.toNat ∨
        hidden (cornerOf card info).2 * info.height.toNat < 2 ^ 32 ∧ info.width.toNat % 32 = 0)
  | .nv10 | .nv20 | .nv30 =>
    hidden (cornerOf card info).1 * info.width.toNat < info.dWidth.toNat ∧
      hidden (cornerOf card info).2 * info.height.toNat < info.dHeight.toNat

/-! ### What is programmed -/

/-- The lines or columns that the driver skips. -/
def cutWord (pos : Int32) (src dst : UInt32) : UInt32 :=
  if pos < 0 then (-pos).toUInt32 * src / dst else 0

theorem toNat_neg_of_neg {pos : Int32} (h : pos < 0) : (-pos).toUInt32.toNat = hidden pos := by
  have hneg : pos.toInt < 0 := Int32.lt_iff_toInt_lt.mp h
  have hlow : -2 ^ 31 ≤ pos.toInt := pos.le_toInt
  have hmod := toNat_toUInt32 (-pos)
  rw [Int32.toInt_neg] at hmod
  unfold hidden
  have hbmod : (-pos.toInt).bmod (2 ^ 32) % 2 ^ 32 = -pos.toInt % 2 ^ 32 := Int.bmod_emod
  rw [hbmod, Int.emod_eq_of_lt (by omega) (by omega)] at hmod
  omega

theorem hidden_of_nonneg {pos : Int32} (h : ¬ pos < 0) : hidden pos = 0 := by
  have hpos : ¬ pos.toInt < 0 := fun hlt => h (Int32.lt_iff_toInt_lt.mpr hlt)
  unfold hidden
  omega

theorem cutWord_toNat (pos : Int32) (src dst : UInt32) :
    (cutWord pos src dst).toNat = hidden pos * src.toNat % 2 ^ 32 / dst.toNat := by
  unfold cutWord
  split_ifs with h
  · rw [UInt32.toNat_div, UInt32.toNat_mul, toNat_neg_of_neg h]
  · rw [hidden_of_nonneg h, Nat.zero_mul, Nat.zero_mod, Nat.zero_div]
    rfl

theorem Window.cutLeft_eq (info : RivatvInfo) (w : Window) (hwidth : info.dWidth ≠ 0) :
    ∃ w', w.cutLeft info = some w' ∧ w'.y = w.y ∧
      w'.offset = w.offset + cutWord w.x info.width info.dWidth <<< 1 := by
  unfold Window.cutLeft cutWord
  split_ifs with h
  · rw [div?, if_neg hwidth]
    exact ⟨_, rfl, rfl, rfl⟩
  · exact ⟨w, rfl, rfl, (UInt32.add_zero _).symm⟩

theorem Window.cutTop_eq (info : RivatvInfo) (w : Window) (hheight : info.dHeight ≠ 0) :
    ∃ w', w.cutTop info = some w' ∧
      w'.offset = w.offset + (cutWord w.y info.height info.dHeight * info.width) <<< 1 := by
  unfold Window.cutTop cutWord
  split_ifs with h
  · rw [div?, if_neg hheight]
    exact ⟨_, rfl, rfl⟩
  · refine ⟨w, rfl, ?_⟩
    rw [UInt32.zero_mul]
    exact (UInt32.add_zero _).symm

/-- The bytes that the driver skips. -/
def cutBytes (card : Card) (info : RivatvInfo) : UInt32 :=
  cutWord (cornerOf card info).1 info.width info.dWidth <<< 1 +
    (cutWord (cornerOf card info).2 info.height info.dHeight * info.width) <<< 1

theorem windowOf_eq (card : Card) (hwidth : info.dWidth ≠ 0) (hheight : info.dHeight ≠ 0)
    (bufno : UInt32) :
    ∃ w, windowOf card (nvGetscreenproperties card info) bufno = some w ∧
      w.offset = bufno * info.bufferSize.toUInt32 + cutBytes card info := by
  unfold windowOf cutBytes cornerOf
  generalize windowPos card (nvGetscreenproperties card info) = pos
  obtain ⟨x, y⟩ := pos
  let w : Window :=
    { x := x, y := y, lwidth := info.dWidth.toInt32, lheight := info.dHeight.toInt32
      offset := bufno * info.bufferSize.toUInt32 }
  obtain ⟨w', hleft, hy, hoffset⟩ :=
    Window.cutLeft_eq (nvGetscreenproperties card info) w hwidth
  obtain ⟨w'', htop, hoffset'⟩ :=
    Window.cutTop_eq (nvGetscreenproperties card info) w' hheight
  refine ⟨w'', (congrArg (Option.bind · _) hleft).trans htop, ?_⟩
  rw [hoffset', hoffset, hy, UInt32.add_assoc]
  rfl

theorem program_limit {w : Window} {pvideo : Pvideo} (h : program s w = some pvideo) :
    ∀ reg ∈ limitRegs s.info.arch, pvideo reg =
      s.info.pictureOffset.toUInt32 + w.offset + s.info.bufferSize.toUInt32 - 1 := by
  cases harch : s.info.arch
  case nv03 | nv04 => exact fun _ hreg => absurd hreg List.not_mem_nil
  all_goals
    unfold program at h
    rw [harch] at h
    simp only [programNv10, Option.bind_eq_bind, Option.bind_eq_some_iff] at h
    obtain ⟨_, -, _, -, h⟩ := h
    obtain rfl := Option.some.inj h
    simp +decide [harch, limitRegs]

/-- The overlay starts iff the scaling factors can be computed, and then it is programmed for the
window. -/
theorem rivatvOverlayStart_eq_some (hwidth : s.info.dWidth ≠ 0) (hheight : s.info.dHeight ≠ 0)
    (h : rivatvOverlayStart card s frame = some s') :
    Scalable s.info ∧
      (∀ reg ∈ startRegs s.info.arch,
        s'.pvideo reg = frameAddress s.info frame + cutBytes card s.info) ∧
      ∀ reg ∈ limitRegs s.info.arch, s'.pvideo reg =
        frameAddress s.info frame + cutBytes card s.info + s.info.bufferSize.toUInt32 - 1 := by
  obtain ⟨w, hw, hoffset⟩ := windowOf_eq card hwidth hheight frame
  obtain ⟨w', hw', hprogram⟩ := Option.bind_eq_some_iff.mp h
  obtain rfl := Option.some.inj (hw.symm.trans hw')
  obtain ⟨pvideo, hpvideo, hs'⟩ := Option.bind_eq_some_iff.mp hprogram
  obtain rfl := Option.some.inj hs'
  have hscale := scalable_of_program hpvideo
  obtain ⟨pvideo', hpvideo', hprogrammed⟩ := program_of_scalable hscale w
  obtain rfl := Option.some.inj (hpvideo.symm.trans hpvideo')
  have haddress : s.info.pictureOffset.toUInt32 + w.offset =
      frameAddress s.info frame + cutBytes card s.info := by
    rw [hoffset, frameAddress, UInt32.add_assoc]
  have hlimit := program_limit hpvideo
  refine ⟨hscale, fun reg hreg => ?_, fun reg hreg => ?_⟩
  · rw [← haddress]
    exact (hprogrammed.colorkey s.info.vidixcolorkey).start reg hreg
  · have hother : reg ≠ colorKeyReg s.info.arch := by
      revert reg
      cases s.info.arch <;> exact forall_mem_of_all (by decide)
    rw [← haddress]
    exact (Pvideo.write_apply _ _ _ reg).trans ((if_neg hother).trans (hlimit reg hreg))

theorem rivatvOverlayStart_isSome (card : Card) (frame : UInt32) (hwidth : s.info.dWidth ≠ 0)
    (hheight : s.info.dHeight ≠ 0) (hscale : Scalable s.info) :
    ∃ s', rivatvOverlayStart card s frame = some s' := by
  obtain ⟨w, hw, -⟩ := windowOf_eq card hwidth hheight frame
  obtain ⟨pvideo, hpvideo, -⟩ := program_of_scalable
    (s := { s with info := nvGetscreenproperties card s.info }) hscale w
  exact ⟨_, (congrArg (Option.bind · _) hw).trans (congrArg (Option.bind · _) hpvideo)⟩

/-! ### The configuration -/

/-- The pitch is the length of a line in the driver's arithmetic, rounded up. -/
structure Pitched (info : RivatvInfo) : Prop where
  pos : 0 < info.pitch.toNat
  line_le : info.width.toNat * 2 % 2 ^ 32 ≤ info.pitch.toNat
  line_eq_iff : info.width.toNat * 2 % 2 ^ 32 = info.pitch.toNat ↔ info.width.toNat % 32 = 0

theorem vixConfigPlayback_eq {info' : RivatvInfo} {vinfo vinfo' : VidixPlayback}
    (h : vixConfigPlayback info vinfo = some (0, info', vinfo')) :
    pitchOf vinfo.src.w * vinfo.src.h ≠ 0 ∧ info'.width = vinfo.src.w ∧
      info'.pitch = pitchOf vinfo.src.w ∧
      info'.bufferSize = (pitchOf vinfo.src.w * vinfo.src.h).toUInt64 ∧
      vinfo'.offsets = (List.range vinfo'.numFrames.toNat).map fun i =>
        pitchOf vinfo.src.w * vinfo.src.h * UInt32.ofNat i := by
  unfold vixConfigPlayback at h
  by_cases hfourcc : (!isSupportedFourcc vinfo.fourcc) = true
  · rw [if_pos hfourcc] at h
    have herr : enosys = 0 := congrArg (fun r => r.elim 0 Prod.fst) h
    exact absurd herr (by decide)
  · rw [if_neg hfourcc] at h
    dsimp only at h
    by_cases hsize : pitchOf vinfo.src.w * vinfo.src.h = 0
    · rw [if_pos hsize] at h
      cases h
    · rw [if_neg hsize] at h
      have hinfo := congrArg (fun r => r.elim info' (Prod.fst ∘ Prod.snd)) h
      have hvinfo := congrArg (fun r => r.elim vinfo' (Prod.snd ∘ Prod.snd)) h
      rw [← show _ = info' from hinfo, ← show _ = vinfo' from hvinfo]
      exact ⟨hsize, rfl, rfl, rfl, rfl⟩

theorem pitched_of_config {info' : RivatvInfo} {vinfo vinfo' : VidixPlayback}
    (h : vixConfigPlayback info vinfo = some (0, info', vinfo')) : Pitched info' := by
  obtain ⟨hsize, hwidth, hpitch, -, -⟩ := vixConfigPlayback_eq h
  have hpos : 0 < info'.pitch.toNat := by
    refine Nat.pos_of_ne_zero fun hzero => hsize ?_
    rw [← hpitch, UInt32.toNat_inj.mp (show info'.pitch.toNat = (0 : UInt32).toNat from hzero),
      UInt32.zero_mul]
  have hnat := congrArg UInt32.toNat hpitch
  rw [pitchOf_toNat, ← hwidth] at hnat
  exact ⟨hpos, by omega, by omega⟩

/-- A frame begins where the application has been told. -/
theorem frameAddress_eq {info' : RivatvInfo} {vinfo vinfo' : VidixPlayback} {offset : UInt32}
    (h : vixConfigPlayback info vinfo = some (0, info', vinfo'))
    (hoffset : vinfo'.offsets[frame.toNat]? = some offset) :
    frameAddress info' frame = info'.pictureOffset.toUInt32 + offset := by
  obtain ⟨-, -, -, hbuffer, hoffsets⟩ := vixConfigPlayback_eq h
  rw [hoffsets, List.getElem?_map] at hoffset
  obtain ⟨i, hi, rfl⟩ := Option.map_eq_some_iff.mp hoffset
  obtain ⟨hlt, rfl⟩ := List.getElem?_eq_some_iff.mp hi
  rw [frameAddress, hbuffer, List.getElem_range, UInt32.toUInt32_toUInt64, UInt32.ofNat_toNat,
    UInt32.mul_comm]

/-! ### The law -/

/-- The bytes that are skipped, in the driver's arithmetic. -/
theorem cutBytes_toNat (card : Card) (info : RivatvInfo) :
    (cutBytes card info).toNat =
      (2 * (cutWord (cornerOf card info).1 info.width info.dWidth).toNat +
        (cutWord (cornerOf card info).2 info.height info.dHeight).toNat *
          (info.width.toNat * 2 % 2 ^ 32)) % 2 ^ 32 := by
  unfold cutBytes
  generalize cutWord (cornerOf card info).1 info.width info.dWidth = cols
  generalize cutWord (cornerOf card info).2 info.height info.dHeight = lines
  have hlines : (lines * info.width).toNat * 2 ^ 1 ≡
      lines.toNat * (info.width.toNat * 2 % 2 ^ 32) [MOD 2 ^ 32] := by
    rw [UInt32.toNat_mul, pow_one]
    calc lines.toNat * info.width.toNat % 2 ^ 32 * 2
        ≡ lines.toNat * info.width.toNat * 2 [MOD 2 ^ 32] := (Nat.mod_modEq _ _).mul_right 2
      _ = lines.toNat * (info.width.toNat * 2) := Nat.mul_assoc _ _ _
      _ ≡ lines.toNat * (info.width.toNat * 2 % 2 ^ 32) [MOD 2 ^ 32] :=
        (Nat.mod_modEq _ _).symm.mul_left lines.toNat
  rw [UInt32.toNat_add, toNat_shiftLeft_of_lt (n := 1) _ rfl (by decide),
    toNat_shiftLeft_of_lt (n := 1) _ rfl (by decide), ← Nat.add_mod, Nat.mul_comm 2]
  exact hlines.add_left _

theorem address_toNat (card : Card) (info : RivatvInfo) (base : UInt32) :
    (base + cutBytes card info).toNat =
      (base.toNat +
        (2 * (cutWord (cornerOf card info).1 info.width info.dWidth).toNat +
          (cutWord (cornerOf card info).2 info.height info.dHeight).toNat *
            (info.width.toNat * 2 % 2 ^ 32))) % 2 ^ 32 := by
  rw [UInt32.toNat_add, cutBytes_toNat, Nat.add_mod_mod]

/-- The driver never skips more than it should. -/
theorem cutWord_le (pos : Int32) (src dst : UInt32) :
    (cutWord pos src dst).toNat ≤ skipped (hidden pos) src.toNat dst.toNat := by
  rw [cutWord_toNat]
  exact Nat.div_le_div_right (Nat.mod_le _ _)

theorem cutWord_eq_iff (pos : Int32) (src : UInt32) {dst : UInt32} (hdst : 0 < dst.toNat) :
    (cutWord pos src dst).toNat = skipped (hidden pos) src.toNat dst.toNat ↔
      hidden pos * src.toNat < 2 ^ 32 := by
  rw [cutWord_toNat]
  exact mod_div_eq_div_iff hdst dst.toNat_lt.le

/-- Where the address that is programmed is the right one. -/
theorem start_iff (card : Card) (base : UInt32) (hpitched : Pitched info)
    (hwidth : 0 < info.dWidth.toNat) (hheight : 0 < info.dHeight.toNat) :
    (base + cutBytes card info).toNat = base.toNat + firstSeen card info ↔
      base.toNat + firstSeen card info < 2 ^ 32 ∧
        hidden (cornerOf card info).1 * info.width.toNat < 2 ^ 32 ∧
        (hidden (cornerOf card info).2 * info.height.toNat < info.dHeight.toNat ∨
          hidden (cornerOf card info).2 * info.height.toNat < 2 ^ 32 ∧
            info.width.toNat % 32 = 0) := by
  have hcols := cutWord_le (cornerOf card info).1 info.width info.dWidth
  have hlines := cutWord_le (cornerOf card info).2 info.height info.dHeight
  have hmul := Nat.mul_le_mul hlines hpitched.line_le
  rw [address_toNat, firstSeen, skippedCols, skippedLines, address_eq_iff (by decide) (by omega),
    place_eq_iff hcols hlines hpitched.line_le hpitched.pos, cutWord_eq_iff _ _ hwidth,
    cutWord_eq_iff _ _ hheight, hpitched.line_eq_iff, skipped_eq_zero_iff hheight]

/-- The whole frame is above an address iff nothing has been added to the address. -/
theorem limit_iff (base size cut : UInt32) :
    base + cut + size - 1 = base + size - 1 ↔ cut = 0 := by
  constructor
  · intro h
    have hsum : base + cut + size = base + size := sub_left_injective h
    rw [UInt32.add_assoc, UInt32.add_comm cut, ← UInt32.add_assoc] at hsum
    exact left_eq_add.mp hsum.symm
  · rintro rfl
    rw [UInt32.add_zero]

theorem cutBytes_eq_zero (hcols : hidden (cornerOf card info).1 * info.width.toNat <
    info.dWidth.toNat) (hlines : hidden (cornerOf card info).2 * info.height.toNat <
    info.dHeight.toNat) : cutBytes card info = 0 := by
  apply UInt32.toNat_inj.mp
  rw [cutBytes_toNat, cutWord_toNat, cutWord_toNat,
    Nat.mod_eq_of_lt (hcols.trans info.dWidth.toNat_lt),
    Nat.mod_eq_of_lt (hlines.trans info.dHeight.toNat_lt), Nat.div_eq_of_lt hcols,
    Nat.div_eq_of_lt hlines, Nat.mul_zero, Nat.zero_mul]
  rfl

theorem firstSeen_eq_zero_iff (hpitched : Pitched info) (hwidth : 0 < info.dWidth.toNat)
    (hheight : 0 < info.dHeight.toNat) :
    firstSeen card info = 0 ↔
      hidden (cornerOf card info).1 * info.width.toNat < info.dWidth.toNat ∧
        hidden (cornerOf card info).2 * info.height.toNat < info.dHeight.toNat := by
  have hpos := hpitched.pos
  rw [← skipped_eq_zero_iff hwidth, ← skipped_eq_zero_iff hheight]
  show skippedLines card info * info.pitch.toNat + 2 * skippedCols card info = 0 ↔
    skippedCols card info = 0 ∧ skippedLines card info = 0
  rw [Nat.add_eq_zero_iff, Nat.mul_eq_zero, or_iff_left hpos.ne']
  omega

/-- Both the address and the limit are right iff nothing is skipped. -/
theorem start_limit_iff (card : Card) (base : UInt32) (hpitched : Pitched info)
    (hwidth : 0 < info.dWidth.toNat) (hheight : 0 < info.dHeight.toNat) :
    ((base + cutBytes card info).toNat = base.toNat + firstSeen card info ∧
        base + cutBytes card info + info.bufferSize.toUInt32 - 1 =
          base + info.bufferSize.toUInt32 - 1) ↔
      hidden (cornerOf card info).1 * info.width.toNat < info.dWidth.toNat ∧
        hidden (cornerOf card info).2 * info.height.toNat < info.dHeight.toNat := by
  rw [limit_iff, ← firstSeen_eq_zero_iff hpitched hwidth hheight]
  constructor
  · rintro ⟨hstart, hcut⟩
    rw [hcut, UInt32.add_zero] at hstart
    omega
  · intro h
    obtain ⟨hcols, hlines⟩ := (firstSeen_eq_zero_iff hpitched hwidth hheight).mp h
    have hcut := cutBytes_eq_zero hcols hlines
    rw [hcut, h, UInt32.add_zero]
    exact ⟨rfl, rfl⟩

/-- What the registers of a chip hold is right iff the condition of its family is met. -/
theorem registers_iff (hpitched : Pitched info) (hwidth : 0 < info.dWidth.toNat)
    (hheight : 0 < info.dHeight.toNat) :
    (Scalable info ∧
        (∀ reg ∈ startRegs info.arch,
          (base + cutBytes card info).toNat = base.toNat + firstSeen card info) ∧
        ∀ reg ∈ limitRegs info.arch, base + cutBytes card info + info.bufferSize.toUInt32 - 1 =
          base + info.bufferSize.toUInt32 - 1) ↔
      ClipsRight card info base := by
  have hstart := start_iff card base hpitched hwidth hheight
  have hboth := start_limit_iff card base hpitched hwidth hheight
  have hscale : info.dWidth ≠ 0 ∧ info.dHeight ≠ 0 :=
    ⟨fun h => hwidth.ne' (congrArg UInt32.toNat h), fun h => hheight.ne' (congrArg UInt32.toNat h)⟩
  unfold Scalable ClipsRight
  cases info.arch
  case nv03 | nv04 =>
    dsimp only [startRegs, limitRegs]
    rw [← hstart]
    simp
  all_goals
    dsimp only [startRegs, limitRegs]
    rw [← hboth]
    simp [hscale]

theorem Visible.size_pos (h : Visible card info) :
    0 < info.dWidth.toNat ∧ 0 < info.dHeight.toNat := by
  have hcols := h.cols
  have hlines := h.lines
  omega

/-- **The overlay shows the part of a granted frame that is on the screen iff the condition of the
chip's family is met.** -/
theorem clipped_iff (card : Card) (s : State) (info : RivatvInfo) (vinfo vinfo' : VidixPlayback)
    (hconfig : vixConfigPlayback s.info vinfo = some (0, info, vinfo'))
    (hvisible : Visible card info) (frame offset : UInt32)
    (hoffset : vinfo'.offsets[frame.toNat]? = some offset) :
    (∃ s', rivatvOverlayStart card { s with info := info } frame = some s' ∧
        Clipped card info (info.pictureOffset.toUInt32 + offset) s') ↔
      ClipsRight card info (info.pictureOffset.toUInt32 + offset) := by
  obtain ⟨hwidth, hheight⟩ := hvisible.size_pos
  have hpitched := pitched_of_config hconfig
  have hdw : info.dWidth ≠ 0 := fun h => hwidth.ne' (congrArg UInt32.toNat h)
  have hdh : info.dHeight ≠ 0 := fun h => hheight.ne' (congrArg UInt32.toNat h)
  rw [← frameAddress_eq hconfig hoffset, ← registers_iff hpitched hwidth hheight]
  constructor
  · rintro ⟨s', hstart, hclipped⟩
    obtain ⟨hscale, haddress, hlimit⟩ := rivatvOverlayStart_eq_some hdw hdh hstart
    refine ⟨hscale, fun reg hreg => ?_, fun reg hreg => ?_⟩
    · rw [← hclipped.start reg hreg]
      exact congrArg UInt32.toNat (haddress reg hreg).symm
    · rw [← hclipped.limit reg hreg]
      exact (hlimit reg hreg).symm
  · rintro ⟨hscale, haddress, hlimit⟩
    obtain ⟨s', hstart⟩ := rivatvOverlayStart_isSome (s := { s with info := info }) card frame
      hdw hdh hscale
    obtain ⟨-, haddress', hlimit'⟩ := rivatvOverlayStart_eq_some hdw hdh hstart
    refine ⟨s', hstart, fun reg hreg => ?_, fun reg hreg => ?_⟩
    · rw [haddress' reg hreg]
      exact haddress reg hreg
    · rw [hlimit' reg hreg]
      exact hlimit reg hreg

/-- A window that begins `above` lines above the screen, for a picture of the same size. -/
def highPlayback (w h above : UInt32) : VidixPlayback :=
  { samplePlayback w h with dest := { x := 0, y := -above, w := w, h := h, pitch := ⟨0, 0, 0⟩ } }

/-- The driver on a chip of the family `arch`, and what `vixConfigPlayback` makes of it for such a
window. -/
def highConfig (arch : Arch) (w h above : UInt32) : State × RivatvInfo × VidixPlayback :=
  let s := { sampleState with info := vixInit arch screenCard 0 fun _ => 0 }
  (s, ((vixConfigPlayback s.info (highPlayback w h above)).map Prod.snd).getD
    (s.info, highPlayback w h above))

/-- Before NV10, lines of 640 bytes are as long as the pitch. -/
theorem clipped_high :
    ∃ s', rivatvOverlayStart screenCard
        { sampleState with info := (highConfig .nv04 320 240 64).2.1 } 1 = some s' ∧
      Clipped screenCard (highConfig .nv04 320 240 64).2.1
        ((highConfig .nv04 320 240 64).2.1.pictureOffset.toUInt32 + 153600) s' :=
  (clipped_iff screenCard (highConfig .nv04 320 240 64).1 (highConfig .nv04 320 240 64).2.1
    (highPlayback 320 240 64) (highConfig .nv04 320 240 64).2.2 rfl ⟨by decide, by decide⟩ 1 153600
    (by decide)).mpr ⟨by decide, by decide, by decide, .inr ⟨by decide, by decide⟩⟩

/-- **64 lines are above the screen. On a chip of the NV10 family the limit is 64 lines too far, and
before NV10 lines of 200 bytes are skipped in a picture whose pitch is 256.** -/
theorem clipped_wrong :
    (vixConfigPlayback (highConfig .nv10 320 240 64).1.info (highPlayback 320 240 64) =
        some (0, (highConfig .nv10 320 240 64).2) ∧
      Visible screenCard (highConfig .nv10 320 240 64).2.1 ∧
      (highConfig .nv10 320 240 64).2.2.offsets[0]? = some 0 ∧
      ¬ ∃ s', rivatvOverlayStart screenCard
          { sampleState with info := (highConfig .nv10 320 240 64).2.1 } 0 = some s' ∧
        Clipped screenCard (highConfig .nv10 320 240 64).2.1
          ((highConfig .nv10 320 240 64).2.1.pictureOffset.toUInt32 + 0) s') ∧
      vixConfigPlayback (highConfig .nv04 100 240 64).1.info (highPlayback 100 240 64) =
        some (0, (highConfig .nv04 100 240 64).2) ∧
      Visible screenCard (highConfig .nv04 100 240 64).2.1 ∧
      (highConfig .nv04 100 240 64).2.2.offsets[0]? = some 0 ∧
      ¬ ∃ s', rivatvOverlayStart screenCard
          { sampleState with info := (highConfig .nv04 100 240 64).2.1 } 0 = some s' ∧
        Clipped screenCard (highConfig .nv04 100 240 64).2.1
          ((highConfig .nv04 100 240 64).2.1.pictureOffset.toUInt32 + 0) s' := by
  refine ⟨⟨rfl, ⟨by decide, by decide⟩, by decide, ?_⟩, rfl, ⟨by decide, by decide⟩, by decide, ?_⟩
  · rintro ⟨s', hstart, hclipped⟩
    obtain ⟨-, -, hlimit⟩ := rivatvOverlayStart_eq_some (by decide) (by decide) hstart
    have hright := (hlimit 0x908 (by decide)).symm.trans (hclipped.limit 0x908 (by decide))
    revert hright
    decide
  · rintro ⟨s', hstart, hclipped⟩
    obtain ⟨-, hstart', -⟩ := rivatvOverlayStart_eq_some (by decide) (by decide) hstart
    have hright := (congrArg UInt32.toNat (hstart' 0x20C (by decide))).symm.trans
      (hclipped.start 0x20C (by decide))
    revert hright
    decide

end Vidix.Nvidia
