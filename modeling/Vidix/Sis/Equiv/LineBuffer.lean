import Vidix.Sis.Equiv.Scale
import Vidix.Planes

/-!
# The line buffer of the sis driver

`set_line_buf_size` depends on how often the picture is halved, and is called before that has been
computed: it takes it for zero.  The size that it writes is right all the same for packed formats,
and for planar ones when the width rounded up to 128 columns is rounded up as the chip wants it.
-/

namespace Vidix.Sis

open Util

variable {s s' : State} {info info' : VidixPlayback} {overlay : Overlay}

/-! ### The size -/

/-- The blocks of `2 ^ k` columns in a line. -/
theorem lineBlocks_toNat {line mask shift : UInt32} {k w : ℕ}
    (hmask : mask.toNat = (2 ^ w - 1) * 2 ^ k) (hshift : shift.toNat = k) (hk : k < 32)
    (hline : line.toNat < 2 ^ (w + k)) (hsmall : line.toNat < 2 ^ 16) :
    (lineBlocks line mask shift).toNat = (line.toNat + (2 ^ k - 1)) / 2 ^ k := by
  have hpos : 0 < 2 ^ k := Nat.two_pow_pos k
  have hdiv : (line >>> shift).toNat = line.toNat / 2 ^ k := by
    rw [UInt32.toNat_shiftRight, hshift, Nat.mod_eq_of_lt hk, Nat.shiftRight_eq_div_pow]
  have hand : (line &&& mask).toNat = line.toNat / 2 ^ k * 2 ^ k := by
    have hlt : line.toNat / 2 ^ k < 2 ^ w := by
      rw [Nat.div_lt_iff_lt_mul hpos, ← pow_add]
      exact hline
    rw [toNat_and_field hmask, Nat.mod_eq_of_lt hlt]
  have hmul := Nat.div_add_mod line.toNat (2 ^ k)
  have hmod := Nat.mod_lt line.toNat hpos
  have hcond : line &&& mask = line ↔ line.toNat % 2 ^ k = 0 := by
    rw [← UInt32.toNat_inj, hand, Nat.mul_comm]
    omega
  have hsmall' : line.toNat / 2 ^ k ≤ line.toNat := Nat.div_le_self _ _
  unfold lineBlocks
  by_cases hzero : line.toNat % 2 ^ k = 0
  · rw [if_pos (hcond.mpr hzero), hdiv]
    refine (Nat.div_eq_of_lt_le ?_ ?_).symm
    · rw [Nat.mul_comm]
      omega
    · rw [Nat.add_mul, Nat.mul_comm (line.toNat / 2 ^ k)]
      omega
  · rw [if_neg (mt hcond.mp hzero), UInt32.toNat_add, hdiv]
    have hword : (1 : UInt32).toNat = 1 := rfl
    rw [hword, Nat.mod_eq_of_lt (by omega)]
    refine (Nat.div_eq_of_lt_le ?_ ?_).symm
    · rw [Nat.add_mul, Nat.mul_comm (line.toNat / 2 ^ k)]
      omega
    · rw [Nat.add_mul, Nat.add_mul, Nat.mul_comm (line.toNat / 2 ^ k)]
      omega

/-- A buffer of whole blocks, in units of eight columns and less one. -/
theorem blocks_mul (line mask shift m : UInt32) {k w : ℕ}
    (hmask : mask.toNat = (2 ^ w - 1) * 2 ^ k) (hshift : shift.toNat = k)
    (hm : m.toNat * 8 = 2 ^ k) (hk : k ≤ 11) (hwide : 16 ≤ w + k) (h1 : 1 ≤ line.toNat)
    (h2 : line.toNat < 2 ^ 16) :
    (lineBlocks line mask shift * m - 1).toNat + 1 = lumaPitch line.toNat (2 ^ k) / 8 := by
  have hpos : 0 < 2 ^ k := Nat.two_pow_pos k
  have hpow : 2 ^ k ≤ 2 ^ 11 := Nat.pow_le_pow_right (by decide) hk
  have hline : line.toNat < 2 ^ (w + k) :=
    h2.trans_le (Nat.pow_le_pow_right (by decide) hwide)
  have hblocks := lineBlocks_toNat hmask hshift (by omega) hline h2
  have hfirst : 1 ≤ (line.toNat + (2 ^ k - 1)) / 2 ^ k := Nat.div_pos (by omega) hpos
  have hlast : (line.toNat + (2 ^ k - 1)) / 2 ^ k ≤ 2 ^ 17 :=
    (Nat.div_le_self _ _).trans (by omega)
  unfold lumaPitch
  rw [← hm, ← Nat.mul_assoc, Nat.mul_div_cancel _ (by decide), hm]
  generalize (line.toNat + (2 ^ k - 1)) / 2 ^ k = n at *
  have hmul : (lineBlocks line mask shift * m).toNat = n * m.toNat := by
    rw [UInt32.toNat_mul, hblocks]
    refine Nat.mod_eq_of_lt ?_
    calc n * m.toNat ≤ 2 ^ 17 * 2 ^ 8 := Nat.mul_le_mul hlast (by omega)
      _ < 2 ^ 32 := by decide
  have hne : 1 ≤ n * m.toNat := Nat.mul_pos hfirst (by omega)
  have hword : (1 : UInt32).toNat = 1 := rfl
  rw [UInt32.toNat_sub_of_le _ _ (UInt32.le_iff_toNat_le.mpr (by rw [hmul, hword]; exact hne)),
    hmul, hword]
  exact Nat.sub_add_cancel hne

/-- The columns to a multiple of which the chip wants a line rounded up, when the picture has been
halved `k` times. -/
def bufferUnit (planar : Bool) (k : ℕ) : ℕ :=
  if planar then if 3 ≤ k ∧ k ≤ 6 then 2 ^ (k + 5) else 2 ^ 7 else 2 ^ 3

/-- **What `set_line_buf_size` computes.** -/
theorem lineBufSizeOf_toNat (pixelFormat line : UInt32) {k : ℕ} (hk : k ≤ 7)
    (h1 : 1 ≤ line.toNat) (h2 : line.toNat < 2 ^ 16) :
    (lineBufSizeOf pixelFormat (UInt8.ofNat k) line).toNat + 1 =
      lumaPitch line.toNat (bufferUnit (isPlanar pixelFormat) k) / 8 := by
  unfold lineBufSizeOf bufferUnit
  cases isPlanar pixelFormat with
  | false =>
    have hpacked := blocks_mul line 0xffffff8 3 1 (k := 3) (w := 25) rfl rfl rfl
      (by decide) (by decide) h1 h2
    rw [UInt32.mul_one] at hpacked
    exact hpacked
  | true =>
    have hdefault := blocks_mul line 0xffffff80 7 16 (k := 7) (w := 25) rfl rfl rfl
      (by decide) (by decide) h1 h2
    interval_cases k
    · exact hdefault
    · exact hdefault
    · exact hdefault
    · exact blocks_mul line 0xffffff00 8 32 (k := 8) (w := 24) rfl rfl rfl
        (by decide) (by decide) h1 h2
    · exact blocks_mul line 0xfffffe00 9 64 (k := 9) (w := 23) rfl rfl rfl
        (by decide) (by decide) h1 h2
    · exact blocks_mul line 0xfffffc00 10 128 (k := 10) (w := 22) rfl rfl rfl
        (by decide) (by decide) h1 h2
    · exact blocks_mul line 0xfffff800 11 256 (k := 11) (w := 21) rfl rfl rfl
        (by decide) (by decide) h1 h2
    · exact hdefault

/-! ### The law -/

/-- The size that `set_line_buf_size` computes for the overlay `o` fits in its register, and is the
one that it has for the number of times that the chip is told to halve the picture. -/
structure LineBufferRight (o : SISOverlayRec) (vid : Ports) : Prop where
  fits : (lineBufSizeOf o.pixelFormat o.wHPre o.srcW.toUInt32).toNat < 2 ^ 8
  right : (vid indexViLineBufferSize).toNat =
    (lineBufSizeOf o.pixelFormat (vid indexViScaleControl &&& 0x07) o.srcW.toUInt32).toNat

/-- The picture is not too wide, and if it is planar and halved three times or more, its width
rounded up to 128 columns is rounded up as far as the chip wants it. -/
structure LineBufferFits (engine : VgaEngine) (vmode : UInt32) (o : Overlay) : Prop where
  columns : 1 ≤ o.srcW.toNat ∧ o.srcW.toNat ≤ 2048
  rounded : isPlanar o.pixelFormat = true → ∀ k, 3 ≤ k →
    2 ^ k * shownWidth engine vmode o ≤ o.srcW.toNat →
    o.srcW.toNat < 2 ^ (k + 1) * shownWidth engine vmode o →
      lumaPitch o.srcW.toNat (2 ^ (k + 5)) = lumaPitch o.srcW.toNat (2 ^ 7)

/-- The exponent of the largest power of two by which a number can be multiplied. -/
theorem exponent_unique {d n k j : ℕ} (hk : 2 ^ k * d ≤ n) (hk' : n < 2 ^ (k + 1) * d)
    (hj : 2 ^ j * d ≤ n) (hj' : n < 2 ^ (j + 1) * d) : k = j := by
  have hle : ∀ {a b : ℕ}, 2 ^ a * d ≤ n → n < 2 ^ (b + 1) * d → a ≤ b := by
    intro a b ha hb
    have hlt : 2 ^ a < 2 ^ (b + 1) := Nat.lt_of_mul_lt_mul_right (ha.trans_lt hb)
    have hexp := (Nat.pow_lt_pow_iff_right (by decide)).mp hlt
    omega
  exact le_antisymm (hle hk hj') (hle hj hk')

/-- A size fits iff the line is neither empty nor too long. -/
theorem lineBufSizeOf_lt_iff (pixelFormat : UInt32) (line : UInt16) :
    (lineBufSizeOf pixelFormat 0 line.toUInt32).toNat < 2 ^ 8 ↔
      1 ≤ line.toNat ∧ line.toNat ≤ 2048 := by
  have hlt := line.toNat_lt
  rcases Nat.eq_zero_or_pos line.toNat with hzero | hpos
  · obtain rfl : line = 0 := UInt16.toNat_inj.mp hzero
    refine iff_of_false ?_ (by decide)
    unfold lineBufSizeOf
    cases isPlanar pixelFormat <;> decide
  · have hsize := lineBufSizeOf_toNat pixelFormat line.toUInt32 (k := 0) (by decide)
      (by rw [UInt16.toNat_toUInt32]; omega) (by rw [UInt16.toNat_toUInt32]; omega)
    rw [UInt16.toNat_toUInt32] at hsize
    have hzero : UInt8.ofNat 0 = 0 := rfl
    rw [hzero] at hsize
    unfold lumaPitch bufferUnit at hsize
    split_ifs at hsize <;> omega

/-- What the registers hold after a call that succeeds. -/
theorem Shown.registers {o : SISOverlayRec} (h : Shown s info info' s' overlay o)
    (hwHPre : o.wHPre.toNat ≤ 7) :
    s'.vid indexViLineBufferSize =
        (lineBufSizeOf overlay.pixelFormat 0 overlay.srcW.toUInt32).toUInt8 ∧
      s'.vid indexViScaleControl &&& 0x07 = o.wHPre := by
  obtain ⟨vid, rfl⟩ := h.state
  obtain ⟨vid', hvid⟩ := writeOverlay_vid (s := s.laidOut info') o vid
  obtain ⟨-, -, -, -, hsize, -⟩ := calcScaleFactor_keeps h.scaled
  rw [hvid _ (by decide) (by decide), hvid _ (by decide) (by decide), setOverlay_lineBufferSize,
    setOverlay_scaleControl hwHPre, hsize]
  exact ⟨rfl, rfl⟩

/-- Two roundings are told apart by their eighths. -/
theorem lumaPitch_eq_iff {n j k : ℕ} (hj : 3 ≤ j) (hk : 3 ≤ k) :
    lumaPitch n (2 ^ j) / 8 = lumaPitch n (2 ^ k) / 8 ↔
      lumaPitch n (2 ^ j) = lumaPitch n (2 ^ k) := by
  have hdvd : ∀ {i : ℕ}, 3 ≤ i → 8 ∣ lumaPitch n (2 ^ i) := fun hi =>
    (pow_dvd_pow 2 hi).trans (dvd_lumaPitch _ _)
  have hj' := hdvd hj
  have hk' := hdvd hk
  omega

/-- Only for a planar picture that has been halved three times or more does the size depend on how
often that was. -/
theorem rounded_iff {planar : Bool} {n d w : ℕ} (hn : 1 ≤ n) (hw : w ≤ 6)
    (hhalved : d < n → 2 ^ w * d ≤ n ∧ n < 2 ^ (w + 1) * d) (hwhole : n ≤ d → w = 0) :
    lumaPitch n (bufferUnit planar 0) / 8 = lumaPitch n (bufferUnit planar w) / 8 ↔
      (planar = true → ∀ k, 3 ≤ k → 2 ^ k * d ≤ n → n < 2 ^ (k + 1) * d →
        lumaPitch n (2 ^ (k + 5)) = lumaPitch n (2 ^ 7)) := by
  cases planar with
  | false => exact iff_of_true rfl fun hno => absurd hno (by decide)
  | true =>
    by_cases hw3 : 3 ≤ w
    · have hlt : d < n := by
        by_contra hle
        rw [hwhole (by omega)] at hw3
        omega
      obtain ⟨hlow, hhigh⟩ := hhalved hlt
      have hunit : bufferUnit true w = 2 ^ (w + 5) := by
        unfold bufferUnit
        rw [if_pos rfl, if_pos ⟨hw3, hw⟩]
      have hunit' : bufferUnit true 0 = 2 ^ 7 := rfl
      rw [hunit, hunit', lumaPitch_eq_iff (by decide) (by omega)]
      constructor
      · intro heq _ k _ hk hk'
        obtain rfl := exponent_unique hk hk' hlow hhigh
        exact heq.symm
      · exact fun hall => (hall rfl w hw3 hlow hhigh).symm
    · have hunit : bufferUnit true w = 2 ^ 7 := by
        unfold bufferUnit
        rw [if_pos rfl, if_neg fun h => hw3 h.1]
      refine iff_of_true (by rw [hunit]; rfl) fun _ k hk3 hk hk' => ?_
      have hpow : 2 ^ 3 * d ≤ 2 ^ k * d :=
        Nat.mul_le_mul_right _ (Nat.pow_le_pow_right (by decide) hk3)
      have hd : d ≠ 0 := by
        rintro rfl
        omega
      obtain ⟨hlow, hhigh⟩ := hhalved (by omega)
      exact absurd (exponent_unique hk hk' hlow hhigh) (by omega)

/-- When the size fits, it is right iff the width is rounded up as far as the chip wants it. -/
theorem Shown.right_iff {o : SISOverlayRec} (h : Shown s info info' s' overlay o)
    (hcolumns : 1 ≤ overlay.srcW.toNat ∧ overlay.srcW.toNat ≤ 2048) :
    (s'.vid indexViLineBufferSize).toNat =
        (lineBufSizeOf overlay.pixelFormat (s'.vid indexViScaleControl &&& 0x07)
          overlay.srcW.toUInt32).toNat ↔
      (isPlanar overlay.pixelFormat = true → ∀ k, 3 ≤ k →
        2 ^ k * shownWidth s.driver.sisVgaEngine s.driver.sisVmode overlay ≤ overlay.srcW.toNat →
        overlay.srcW.toNat <
          2 ^ (k + 1) * shownWidth s.driver.sisVgaEngine s.driver.sisVmode overlay →
          lumaPitch overlay.srcW.toNat (2 ^ (k + 5)) = lumaPitch overlay.srcW.toNat (2 ^ 7)) := by
  obtain ⟨h1, h2⟩ := hcolumns
  have hscaled := calcScaleFactor_wHPre h.scaled h1 h2
  obtain ⟨hline, hcontrol⟩ := h.registers (by omega)
  have hfits := (lineBufSizeOf_lt_iff overlay.pixelFormat overlay.srcW).mpr ⟨h1, h2⟩
  have hwHPre : o.wHPre = UInt8.ofNat o.wHPre.toNat := UInt8.ofNat_toNat.symm
  have hword : overlay.srcW.toUInt32.toNat = overlay.srcW.toNat := UInt16.toNat_toUInt32 _
  have hsize := lineBufSizeOf_toNat overlay.pixelFormat overlay.srcW.toUInt32 (k := 0) (by decide)
    (by omega) (by omega)
  have hsize' := lineBufSizeOf_toNat overlay.pixelFormat overlay.srcW.toUInt32
    (k := o.wHPre.toNat) (by omega) (by omega) (by omega)
  rw [← hwHPre, hword] at hsize'
  rw [hword] at hsize
  rw [hline, hcontrol, UInt32.toNat_toUInt8, Nat.mod_eq_of_lt hfits]
  have hiff : (lineBufSizeOf overlay.pixelFormat 0 overlay.srcW.toUInt32).toNat =
      (lineBufSizeOf overlay.pixelFormat o.wHPre overlay.srcW.toUInt32).toNat ↔
      lumaPitch overlay.srcW.toNat (bufferUnit (isPlanar overlay.pixelFormat) 0) / 8 =
        lumaPitch overlay.srcW.toNat
          (bufferUnit (isPlanar overlay.pixelFormat) o.wHPre.toNat) / 8 := by
    rw [← hsize, ← hsize']
    exact (Nat.add_right_cancel_iff).symm
  rw [hiff]
  obtain ⟨hk6, hk, hk0⟩ := hscaled
  change shownWidth _ _ overlay < overlay.srcW.toNat → _ at hk
  change overlay.srcW.toNat ≤ shownWidth _ _ overlay → _ at hk0
  exact rounded_iff h1 hk6 hk hk0

/-- **The size of the line buffer is right iff the width is rounded up as the chip wants it.** -/
theorem lineBuffer_iff (h : configure s info = some (0, info', s'))
    (hlayout : vixConfigPlayback s.driver.sisMemBase info = some (0, info', some overlay)) :
    LineBufferRight ((s.laidOut info').overlayOf overlay) s'.vid ↔
      LineBufferFits s.driver.sisVgaEngine s.driver.sisVmode overlay := by
  obtain ⟨overlay', o, hshown⟩ := shown h
  obtain rfl : overlay = overlay' := by
    have hsame := hlayout.symm.trans hshown.layout
    simpa using hsame
  have hfits := lineBufSizeOf_lt_iff overlay.pixelFormat overlay.srcW
  have hright := hshown.right_iff
  exact ⟨fun hr => ⟨hfits.mp hr.fits, (hright (hfits.mp hr.fits)).mp hr.right⟩,
    fun hf => ⟨hfits.mpr hf.columns, (hright hf.columns).mpr hf.rounded⟩⟩

/-- A chip of the 300 series that has just been initialized. -/
def sampleState : State where
  driver := { Driver.initial with
    sisProbed := true, sisVgaEngine := .sis300, sisScreenWidth := 1024, sisScreenHeight := 768 }
  sisShiftValue := 1
  sisBridgeIsSlave := false
  sisFormat := 0
  sisYoff := 0
  sisVoff := 0
  sisUoff := 0
  sisFrames := fun _ => 0
  sisGrkey := { op := ckeyFalse, red := 0, green := 0, blue := 0 }
  sisEqual :=
    { cap := veqCapBrightness ||| veqCapContrast, brightness := 200, contrast := 0, saturation := 0
      hue := 0, redIntensity := 0, greenIntensity := 0, blueIntensity := 0, flags := 0 }
  vid := fun _ => 0
  sr := fun _ => 0
  part1 := fun _ => 0

/-- A picture in YV12, in a window of another size. -/
def shrunkPicture (w h drwW drwH : UInt32) : VidixPlayback where
  fourcc := imgfmtYV12
  src := { x := 0, y := 0, w := w, h := h, pitch := ⟨0, 0, 0⟩ }
  dest := { x := 0, y := 0, w := drwW, h := drwH, pitch := ⟨0, 0, 0⟩ }
  frameSize := 0
  numFrames := 1
  offsets := []
  offset := ⟨0, 0, 0⟩
  dgaAddr := 0

/-- 512 columns in 64. -/
theorem lineBuffer_sample :
    ∃ info' s' overlay, configure sampleState (shrunkPicture 512 288 64 36) = some (0, info', s') ∧
      LineBufferRight ((sampleState.laidOut info').overlayOf overlay) s'.vid := by
  obtain ⟨info', s', h⟩ : ∃ info' s',
      configure sampleState (shrunkPicture 512 288 64 36) = some (0, info', s') := ⟨_, _, rfl⟩
  obtain ⟨overlay, o, hshown⟩ := shown h
  have hlayout := hshown.layout
  have hoverlay := congrArg (fun r => r.bind (Prod.snd ∘ Prod.snd)) hlayout
  obtain rfl := Option.some.inj hoverlay.symm
  refine ⟨info', s', _, h, (lineBuffer_iff h hlayout).mpr ⟨by decide, fun _ k hk3 hk _ => ?_⟩⟩
  have hk' : 2 ^ k ≤ 2 ^ 3 := by
    have hwidth : 2 ^ k * 64 ≤ 512 := hk
    omega
  obtain rfl : k = 3 := le_antisymm ((Nat.pow_le_pow_iff_right (by decide)).mp hk') hk3
  decide

/-- **384 columns in 48: the chip halves them three times, and is given a line buffer of 384 columns
instead of 512.** -/
theorem lineBuffer_short :
    ∃ info' s' overlay, configure sampleState (shrunkPicture 384 288 48 36) = some (0, info', s') ∧
      vixConfigPlayback sampleState.driver.sisMemBase (shrunkPicture 384 288 48 36) =
        some (0, info', some overlay) ∧
      s'.vid indexViScaleControl &&& 0x07 = 3 ∧ s'.vid indexViLineBufferSize = 47 ∧
      lineBufSizeOf overlay.pixelFormat 3 overlay.srcW.toUInt32 = 63 ∧
      ¬ LineBufferRight ((sampleState.laidOut info').overlayOf overlay) s'.vid := by
  refine ⟨_, _, _, rfl, rfl, by decide, by decide, by decide, fun h => ?_⟩
  exact absurd h.right (by decide)

end Vidix.Sis
