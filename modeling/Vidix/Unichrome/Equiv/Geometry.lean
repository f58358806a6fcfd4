import Vidix.Unichrome.Overlay
import Vidix.Unichrome.Equiv.Config
import Vidix.Planes
import Vidix.Util.Holds

/-!
# The geometry of a frame of the unichrome driver

Two of the packed formats are laid out with the stride of a plane, which has one byte for each
pixel instead of two: only the padding makes up for that, in pictures of at most 16 pixels.  Of the
other formats a row fits its stride as long as the stride fits its register; the driver says so when
it does not, and goes on (`geometry_iff`).
-/

namespace Vidix.Unichrome

open Util

variable {s s' : State} {info info' : VidixPlayback}

/-! ### What the registers hold -/

/-- The stride in `V1_STRIDE`. -/
def strideOf (vio : Video) : ℕ := (vio v1Stride &&& v1StrideYmask).toNat

/-- The stride of the chroma planes in `V1_STRIDE`, which is half the other and stands 16 bits above
it. -/
def uvStrideOf (vio : Video) : ℕ := ((vio v1Stride &&& v1StrideUvmask) >>> 16).toNat

/-- The bytes that are fetched for a line: `V1_FETCH_COUNT` counts 16 of them. -/
def fetchBytes (vio : Video) : ℕ :=
  ((vio v12QwordPerLine &&& v1FetchCount) >>> 20).toNat * 16

/-! ### The law -/

/-- The bytes of a row of the first plane. -/
def rowBytes (info : VidixPlayback) : ℕ :=
  if isPlanar info.fourcc then info.src.w.toNat
  else if info.fourcc = imgfmtBGR32 then info.src.w.toNat * 4
  else info.src.w.toNat * 2

/-- The planes of a picture of which the rows are `stride` bytes apart. -/
def planes (info : VidixPlayback) (offset : VidixYuv) (stride : ℕ) : List Region :=
  if isPlanar info.fourcc then
    [⟨offset.y.toNat, stride * info.src.h.toNat⟩,
      ⟨offset.v.toNat, stride / 2 * (info.src.h.toNat / 2)⟩,
      ⟨offset.u.toNat, stride / 2 * (info.src.h.toNat / 2)⟩]
  else [⟨offset.y.toNat, stride * info.src.h.toNat⟩]

/-- A row fits the strides and the fetch, and a frame has room for its planes. -/
structure GeometryRight (info info' : VidixPlayback) (vio : Video) : Prop where
  stride : rowBytes info ≤ strideOf vio
  uvStride : isPlanar info.fourcc = true → (info.src.w.toNat + 1) / 2 ≤ uvStrideOf vio
  fetch : rowBytes info ≤ fetchBytes vio
  frame : PackedIn info'.frameSize.toNat (planes info info'.offset (strideOf vio))

/-- The pixels of a row in bytes as the stride has them. -/
def strideBytes (info : VidixPlayback) : ℕ :=
  if isYuv info.fourcc then info.src.w.toNat else rowBytes info

/-- The lines of a frame: the chroma planes are half as long as the first one, also in the two
packed formats that are laid out as if they had them. -/
def frameLines (info : VidixPlayback) : ℕ :=
  if isYuv info.fourcc then info.src.h.toNat + info.src.h.toNat / 2 else info.src.h.toNat

/-- A row with its padding fits 13 bits, a row of the two formats its padding, and the frame its
32 bits. -/
structure GeometryFits (info : VidixPlayback) : Prop where
  row : rowBytes info ≤ 8160
  narrow : info.fourcc = imgfmtUYVY ∨ info.fourcc = imgfmtYVYU → info.src.w.toNat ≤ 16
  frame : lumaPitch (strideBytes info) 32 * frameLines info < 2 ^ 32

/-! ### What has been written -/

theorem program_vio (s : State) (info : VidixPlayback) (settings : Settings) :
    (s.program info settings).vio v12QwordPerLine =
        ucOvlMapQwfetch info.fourcc info.src.w.toInt32 <<< 20 ∧
      (s.program info settings).vio v1Stride =
        (settings.pitch ||| (settings.pitch >>> 1) <<< 16).toUInt64.toUInt32 := by
  unfold State.program vixPlaybackFrameSelect writeOverlay videoOut
  constructor
  · simp (disch := decide) only [Function.update_of_ne, Function.update_self]
  · simp (disch := decide) only [Function.update_of_ne, Function.update_self]

/-- What a call that succeeds leaves. -/
structure Configured (info info' : VidixPlayback) (vio : Video) : Prop where
  supported : isSupportedFourcc info.fourcc = true
  size_ne_zero : frameBytes info ≠ 0
  frameSize : info'.frameSize.toNat = frameBytes info
  offset : info'.offset = (planesOf info.fourcc info.src.w.toInt32 info.src.h.toInt32).1
  qwfetch : vio v12QwordPerLine = ucOvlMapQwfetch info.fourcc info.src.w.toInt32 <<< 20
  stride : vio v1Stride = (pitchOf info.fourcc info.src.w.toInt32 |||
    (pitchOf info.fourcc info.src.w.toInt32 >>> 1) <<< 16).toUInt64.toUInt32

theorem configured (h : configure s info = some (0, info', s')) : Configured info info' s'.vio := by
  unfold configure at h
  obtain ⟨⟨ret, info₁, settings⟩, hlayout, h⟩ := Option.bind_eq_some_iff.mp h
  simp only [Option.some.injEq, Prod.mk.injEq] at h
  obtain ⟨rfl, rfl, rfl⟩ := h
  have hframe := planesOf_frameSize info
  unfold vixConfigPlayback at hlayout
  dsimp only at hlayout
  split at hlayout
  · simp at hlayout
  · rename_i hsupported
    obtain ⟨vertical, -, hlayout⟩ := Option.bind_eq_some_iff.mp hlayout
    obtain ⟨⟨horizontal, falign, dcount⟩, -, hlayout⟩ := Option.bind_eq_some_iff.mp hlayout
    dsimp only at hlayout
    split at hlayout
    · cases hlayout
    · rename_i hsize
      simp only [Option.some.injEq, Prod.mk.injEq, true_and] at hlayout
      obtain ⟨rfl, rfl⟩ := hlayout
      obtain ⟨hfetch, hstride⟩ := program_vio s _ _
      refine ⟨by simpa using hsupported, fun hzero => ?_, hframe, rfl, hfetch, hstride⟩
      exact hsize (UInt32.toNat_inj.mp (hframe.trans hzero))

/-! ### The stride -/

theorem roundUp_natCast (n : ℕ) {k : ℕ} (hk : 1 ≤ k) : roundUp n k = lumaPitch n k := by
  unfold roundUp lumaPitch
  push_cast [hk]
  rfl

theorem isYuv_of_isPlanar {fourcc : UInt32} (h : isPlanar fourcc = true) : isYuv fourcc = true := by
  unfold isPlanar at h
  unfold isYuv
  rw [h]
  rfl

/-- `pitch`, which is an `int` in a `long`. -/
theorem pitchOf_eq (info : VidixPlayback) : ∃ x : Int32,
    pitchOf info.fourcc info.src.w.toInt32 = x.toInt64 ∧
      x.toInt ≡ lumaPitch (strideBytes info) 32 [ZMOD 2 ^ 32] := by
  have hw := toInt32_modEq info.src.w
  have halign : ∀ {v : Int32} {n : ℕ}, v.toInt ≡ n [ZMOD 2 ^ 32] →
      (alignTo32 v).toInt ≡ lumaPitch n 32 [ZMOD 2 ^ 32] := fun {_ n} hv => by
    rw [← roundUp_natCast n (by decide)]
    exact alignTo32_modEq hv
  unfold pitchOf strideBytes rowBytes
  by_cases hyuv : isYuv info.fourcc = true
  · rw [if_pos hyuv, if_pos hyuv]
    exact ⟨_, rfl, halign hw⟩
  · rw [if_neg hyuv, if_neg hyuv, if_neg (mt isYuv_of_isPlanar hyuv)]
    by_cases hfour : info.fourcc = imgfmtBGR32
    · rw [if_pos (beq_iff_eq.mpr hfour), if_pos hfour, shiftLeft_two]
      exact ⟨_, rfl, halign (toInt_mul_modEq hw rfl)⟩
    · rw [if_neg (fun h => hfour (beq_iff_eq.mp h)), if_neg hfour, shiftLeft_one]
      exact ⟨_, rfl, halign (toInt_mul_modEq hw rfl)⟩

/-- A number and another above its low 16 bits. -/
theorem toNat_or_shiftLeft (p q : Int64) :
    (p ||| q <<< 16).toUInt64.toUInt32.toNat =
      (p.toUInt64.toNat ||| q.toUInt64.toNat <<< 16) % 2 ^ 32 := by
  rw [UInt64.toNat_toUInt32]
  show ((p.toUInt64 ||| q.toUInt64 <<< 16).toNat) % 2 ^ 32 = _
  rw [UInt64.toNat_or, UInt64.toNat_shiftLeft]
  show (_ ||| q.toUInt64.toNat <<< 16 % 2 ^ 64) % 2 ^ 32 = _
  rw [Nat.or_mod_two_pow, Nat.or_mod_two_pow, Nat.mod_mod_of_dvd _ (by decide)]

/-- **The stride is cut to 13 bits.** -/
theorem Configured.strideOf_eq {vio : Video} (hc : Configured info info' vio) :
    strideOf vio = lumaPitch (strideBytes info) 32 % 2 ^ 13 := by
  obtain ⟨x, hpitch, hx⟩ := pitchOf_eq info
  have hmask : v1StrideYmask.toNat = 2 ^ 13 - 1 := rfl
  have hlong := toNat_toUInt64 x.toInt64
  rw [Int32.toInt_toInt64] at hlong
  unfold Int.ModEq at hx
  unfold strideOf
  rw [UInt32.toNat_and, hmask, Nat.and_two_pow_sub_one_eq_mod, hc.stride, toNat_or_shiftLeft,
    Nat.mod_mod_of_dvd _ (by decide), Nat.or_mod_two_pow, Nat.shiftLeft_eq, hpitch]
  have hhigh : (x.toInt64 >>> 1).toUInt64.toNat * 2 ^ 16 % 2 ^ 13 = 0 := by omega
  rw [hhigh, Nat.or_zero]
  omega

/-- The stride of a chroma plane, when that of the first one fits. -/
theorem Configured.uvStrideOf_eq {vio : Video} (hc : Configured info info' vio)
    (hfits : lumaPitch (strideBytes info) 32 < 2 ^ 13) :
    uvStrideOf vio = lumaPitch (strideBytes info) 32 / 2 := by
  obtain ⟨x, hpitch, hx⟩ := pitchOf_eq info
  have hdvd : 32 ∣ lumaPitch (strideBytes info) 32 := dvd_lumaPitch _ _
  have hholds : Holds x (lumaPitch (strideBytes info) 32) := Holds.of_modEq hx rfl (by omega)
  have hlong := toNat_toUInt64 x.toInt64
  have hhalf := toNat_toUInt64 (x.toInt64 >>> 1)
  rw [toInt_shiftRight_one_long, Int32.toInt_toInt64, hholds] at hhalf
  rw [Int32.toInt_toInt64, hholds] at hlong
  have hmask : v1StrideUvmask.toNat = (2 ^ 9 - 1) * 2 ^ 20 := rfl
  have hword : (vio v1Stride).toNat = lumaPitch (strideBytes info) 32 / 2 * 2 ^ 16 +
      lumaPitch (strideBytes info) 32 := by
    have hfirst : x.toInt64.toUInt64.toNat = lumaPitch (strideBytes info) 32 := by omega
    have hsecond : (x.toInt64 >>> 1).toUInt64.toNat = lumaPitch (strideBytes info) 32 / 2 := by
      omega
    rw [hc.stride, toNat_or_shiftLeft, hpitch, hfirst, hsecond, Nat.or_comm,
      ← Nat.shiftLeft_add_eq_or_of_lt (by omega), Nat.shiftLeft_eq, Nat.mod_eq_of_lt (by omega)]
  have hshift : (16 : UInt32).toNat % 32 = 16 := rfl
  unfold uvStrideOf
  rw [UInt32.toNat_shiftRight, hshift, Nat.shiftRight_eq_div_pow, toNat_and_field hmask, hword]
  obtain ⟨k, hk⟩ := hdvd
  have hhalf : 32 * k / 2 = 16 * k := by omega
  have hfield : (16 * k * 2 ^ 16 + 32 * k) / 2 ^ 20 = k := by omega
  have hsplit : k * 2 ^ 20 = 16 * k * 2 ^ 16 := by omega
  rw [hk, hhalf, hfield, Nat.mod_eq_of_lt (by omega), hsplit, Nat.mul_div_cancel _ (by decide)]

/-! ### The fetch -/

/-- `ALIGN_TO(v, m) >> 4`. -/
theorem holds_align_shiftRight {v mask : Int32} {n k : ℕ} (hv : Holds v n) (hn : n ≤ 8160)
    (hmask : mask.toInt = (2 ^ k : ℕ) - 1) (hk : k ≤ 5) :
    Holds (((v + mask) &&& ~~~mask) >>> 4) (lumaPitch n (2 ^ k) / 16) := by
  have halign : ((v + mask) &&& ~~~mask).toInt ≡ roundUp n (2 ^ k : ℕ) [ZMOD 2 ^ 32] :=
    toInt_alignUp_modEq (Nat.cast_pow 2 k) hmask (by omega) (by rw [hv])
  have hle : lumaPitch n (2 ^ k) ≤ n + (2 ^ k - 1) := Nat.div_mul_le_self _ _
  have hpow : 2 ^ k ≤ 2 ^ 5 := Nat.pow_le_pow_right (by decide) hk
  exact (Holds.of_modEq halign (roundUp_natCast n Nat.one_le_two_pow) (by omega)).shiftRight
    (k := 4) rfl

/-- The count for a row that fits. -/
theorem qwfetch_toNat (hrow : rowBytes info ≤ 8160) :
    (ucOvlMapQwfetch info.fourcc info.src.w.toInt32).toNat =
      max 4 (if isPlanar info.fourcc then lumaPitch (rowBytes info) 32 / 16
        else lumaPitch (rowBytes info) 16 / 16 + 1) := by
  have hmax : ∀ {f : UInt32} {n : ℕ}, f.toNat = n → (if f < 4 then 4 else f).toNat = max 4 n := by
    rintro f _ rfl
    have hlt : f < 4 ↔ f.toNat < 4 := UInt32.lt_iff_toNat_lt
    by_cases h : f < 4
    · rw [if_pos h, max_eq_left (hlt.mp h).le]
      rfl
    · rw [if_neg h, max_eq_right (not_lt.mp fun h' => h (hlt.mpr h'))]
  have hpacked : ∀ {v : Int32} {n : ℕ}, Holds v n → n ≤ 8160 →
      (alignTo16 v >>> 4 + 1).toUInt32.toNat = lumaPitch n 16 / 16 + 1 := by
    intro v n hv hn
    have hle : lumaPitch n (2 ^ 4) ≤ n + (2 ^ 4 - 1) := Nat.div_mul_le_self _ _
    exact ((holds_align_shiftRight (k := 4) hv hn rfl (by decide)).add
      (show Holds 1 1 from rfl) (by omega)).toNat_toUInt32
  have hwidth : info.src.w.toNat ≤ rowBytes info := by
    unfold rowBytes
    split_ifs <;> omega
  have hw : Holds info.src.w.toInt32 info.src.w.toNat := Holds.toInt32 (by omega)
  unfold ucOvlMapQwfetch
  unfold rowBytes at hrow ⊢
  dsimp only
  by_cases hplanar : isPlanar info.fourcc = true
  · rw [if_pos hplanar] at hrow
    rw [if_pos hplanar, if_pos hplanar, if_pos hplanar]
    exact hmax (holds_align_shiftRight (k := 5) hw hrow rfl (by decide)).toNat_toUInt32
  · rw [if_neg hplanar] at hrow
    rw [if_neg hplanar, if_neg hplanar, if_neg hplanar]
    by_cases hfour : info.fourcc = imgfmtBGR32
    · rw [if_pos hfour] at hrow
      rw [if_pos (beq_iff_eq.mpr hfour), if_pos hfour, shiftLeft_two]
      exact hmax (hpacked (hw.mul (show Holds 4 4 from rfl) (by omega)) hrow)
    · rw [if_neg hfour] at hrow
      rw [if_neg (fun h => hfour (beq_iff_eq.mp h)), if_neg hfour, shiftLeft_one]
      exact hmax (hpacked (hw.mul (show Holds 2 2 from rfl) (by omega)) hrow)

/-- **A row that fits is fetched.** -/
theorem Configured.le_fetchBytes {vio : Video} (hc : Configured info info' vio)
    (hrow : rowBytes info ≤ 8160) : rowBytes info ≤ fetchBytes vio := by
  have hvalue := qwfetch_toNat hrow
  obtain ⟨hlt, hle⟩ : (ucOvlMapQwfetch info.fourcc info.src.w.toInt32).toNat < 2 ^ 10 ∧
      rowBytes info ≤ (ucOvlMapQwfetch info.fourcc info.src.w.toInt32).toNat * 16 := by
    rw [hvalue]
    unfold lumaPitch
    split_ifs <;> omega
  have hmask : v1FetchCount.toNat = (2 ^ 10 - 1) * 2 ^ 20 := rfl
  have hshift : (20 : UInt32).toNat % 32 = 20 := rfl
  unfold fetchBytes
  rw [UInt32.toNat_shiftRight, hshift, Nat.shiftRight_eq_div_pow, toNat_and_field hmask,
    hc.qwfetch, toNat_shiftLeft_of_lt (n := 20) _ rfl (by decide), Nat.mod_eq_of_lt (by omega),
    Nat.mul_div_cancel _ (by decide), Nat.mod_eq_of_lt (by omega), Nat.mul_div_cancel _ (by decide)]
  exact hle

/-! ### The frame -/

/-- The rows of a picture are those of the words that it is given in. -/
theorem roundUp_modEq {a : ℤ} {n : ℕ} (h : a ≡ n [ZMOD 2 ^ 32]) :
    roundUp a 32 ≡ lumaPitch n 32 [ZMOD 2 ^ 32] := by
  rw [← roundUp_natCast n (by decide)]
  exact div_mul_modEq (by decide) (h.add_right _)

/-- The lines of a frame with chroma planes, of which the rows are even. -/
theorem mul_lines_modEq {p : ℤ} {h : Int32} {n : ℕ} (hp : 2 ∣ p)
    (hh : h.toInt ≡ n [ZMOD 2 ^ 32]) :
    p * (h.toInt + h.toInt / 2) ≡ p * ((n + n / 2 : ℕ) : ℤ) [ZMOD 2 ^ 32] := by
  have hlines : h.toInt + h.toInt / 2 ≡ ((n + n / 2 : ℕ) : ℤ) [ZMOD 2 ^ 31] := by
    unfold Int.ModEq at hh ⊢
    omega
  have hmul := hlines.mul_left' (c := p)
  exact hmul.of_dvd (mul_dvd_mul (a := (2 : ℤ)) hp (dvd_refl (2 ^ 31)))

/-- **The bytes of a frame are those of its lines, in 32 bits.** -/
theorem frameBytes_eq (info : VidixPlayback) :
    frameBytes info = lumaPitch (strideBytes info) 32 * frameLines info % 2 ^ 32 := by
  have hw := toInt32_modEq info.src.w
  have hh := toInt32_modEq info.src.h
  have hnat : ∀ {bytes : ℤ} {n : ℕ}, bytes ≡ n [ZMOD 2 ^ 32] →
      (bytes % 2 ^ 32).toNat = n % 2 ^ 32 := by
    intro bytes n h
    unfold Int.ModEq at h
    omega
  unfold frameBytes strideBytes frameLines rowBytes
  simp only [← isYuv_iff]
  by_cases hyuv : isYuv info.fourcc = true
  · rw [if_pos hyuv, if_pos hyuv, if_pos hyuv]
    refine hnat ?_
    have hround : (2 : ℤ) ∣ roundUp info.src.w.toInt32.toInt 32 := by
      unfold roundUp
      exact Dvd.dvd.mul_left (by decide) _
    rw [Nat.cast_mul]
    exact (mul_lines_modEq hround hh).trans ((roundUp_modEq hw).mul_right _)
  · rw [if_neg hyuv, if_neg hyuv, if_neg hyuv,
      if_neg (mt isYuv_of_isPlanar hyuv)]
    refine hnat ?_
    rw [Nat.cast_mul]
    by_cases hfour : info.fourcc = imgfmtBGR32
    · rw [if_pos hfour, if_pos hfour]
      exact (roundUp_modEq (hw.mul_right 4)).mul hh
    · rw [if_neg hfour, if_neg hfour]
      exact (roundUp_modEq (hw.mul_right 2)).mul hh

/-- Where the planes of a planar picture are, when nothing wraps. -/
theorem planesOf_offset (hplanar : isPlanar info.fourcc = true)
    (hfits : lumaPitch (strideBytes info) 32 * info.src.h.toNat +
      lumaPitch (strideBytes info) 32 / 2 * (info.src.h.toNat / 2) < 2 ^ 32)
    (hsmall : lumaPitch (strideBytes info) 32 < 2 ^ 31) (hh : info.src.h.toNat < 2 ^ 31) :
    (planesOf info.fourcc info.src.w.toInt32 info.src.h.toInt32).1.v.toNat =
        lumaPitch (strideBytes info) 32 * info.src.h.toNat ∧
      (planesOf info.fourcc info.src.w.toInt32 info.src.h.toInt32).1.u.toNat =
        lumaPitch (strideBytes info) 32 * info.src.h.toNat +
          lumaPitch (strideBytes info) 32 / 2 * (info.src.h.toNat / 2) := by
  obtain ⟨x, hpitch, hx⟩ := pitchOf_eq info
  have hrow : Holds x (lumaPitch (strideBytes info) 32) := Holds.of_modEq hx rfl hsmall
  have hlines : Holds info.src.h.toInt32 info.src.h.toNat := Holds.toInt32 hh
  have hluma : ((x.toInt64 * info.src.h.toInt32.toInt64).toUInt64.toUInt32.toNat : ℤ) ≡
      ((lumaPitch (strideBytes info) 32 * info.src.h.toNat : ℕ) : ℤ) [ZMOD 2 ^ 32] := by
    rw [toUInt32_toInt32, Nat.cast_mul]
    refine (toNat_toUInt32_modEq _).trans (toInt_toInt32_modEq (toInt_mul_modEq_long ?_ ?_))
    · rw [Int32.toInt_toInt64]
      exact hx
    · rw [Int32.toInt_toInt64, hlines]
  have huv : ((uvSizeOf info.fourcc info.src.w.toInt32 info.src.h.toInt32).toUInt32.toNat : ℤ) ≡
      ((lumaPitch (strideBytes info) 32 / 2 * (info.src.h.toNat / 2) : ℕ) : ℤ) [ZMOD 2 ^ 32] := by
    unfold uvSizeOf
    rw [if_pos (isYuv_of_isPlanar hplanar), hpitch, Nat.cast_mul]
    refine (toNat_toUInt32_modEq _).trans (toInt_toInt32_modEq (toInt_mul_modEq_long ?_ ?_))
    · rw [toInt_shiftRight_one_long, Int32.toInt_toInt64, hrow]
      rfl
    · rw [Int32.toInt_toInt64, toInt_shiftRight_one, hlines]
      rfl
  have hsum := toNat_add_modEq hluma huv
  rw [← Nat.cast_add] at hsum
  unfold planesOf
  dsimp only
  rw [hpitch]
  exact ⟨toNat_eq_of_modEq_of_lt hluma (by omega), toNat_eq_of_modEq_of_lt hsum hfits⟩

/-! ### The law -/

/-- The two formats whose stride is not that of their rows. -/
theorem strideBytes_cases (info : VidixPlayback) :
    (info.fourcc = imgfmtUYVY ∨ info.fourcc = imgfmtYVYU) ∧
        rowBytes info = info.src.w.toNat * 2 ∧ strideBytes info = info.src.w.toNat ∨
      ¬ (info.fourcc = imgfmtUYVY ∨ info.fourcc = imgfmtYVYU) ∧
        strideBytes info = rowBytes info := by
  by_cases h : info.fourcc = imgfmtUYVY ∨ info.fourcc = imgfmtYVYU
  · refine .inl ⟨h, ?_, ?_⟩
    · unfold rowBytes
      rcases h with h | h <;> rw [h] <;> rfl
    · unfold strideBytes
      rcases h with h | h <;> rw [h] <;> rfl
  · refine .inr ⟨h, ?_⟩
    unfold strideBytes rowBytes
    have hplanar : isYuv info.fourcc = true → isPlanar info.fourcc = true := by
      intro hyuv
      rcases (isYuv_iff _).mp hyuv with h' | h' | h' | h'
      · rw [h']
        rfl
      · rw [h']
        rfl
      · exact absurd (.inl h') h
      · exact absurd (.inr h') h
    by_cases hyuv : isYuv info.fourcc = true
    · rw [if_pos hyuv, if_pos (hplanar hyuv)]
    · rw [if_neg hyuv]

/-- A row fits its stride iff the stride fits its register and the padding is enough. -/
theorem rowBytes_le_iff (info : VidixPlayback) :
    rowBytes info ≤ lumaPitch (strideBytes info) 32 % 2 ^ 13 ↔
      rowBytes info ≤ 8160 ∧
        (info.fourcc = imgfmtUYVY ∨ info.fourcc = imgfmtYVYU → info.src.w.toNat ≤ 16) := by
  unfold lumaPitch
  rcases strideBytes_cases info with ⟨hnarrow, hrow, hstride⟩ | ⟨hnarrow, hstride⟩
  · rw [forall_prop_of_true hnarrow, hrow, hstride]
    omega
  · rw [hstride]
    have hfits : rowBytes info ≤ (rowBytes info + (32 - 1)) / 32 * 32 % 2 ^ 13 ↔
        rowBytes info ≤ 8160 := by omega
    exact hfits.trans ⟨fun h => ⟨h, fun hno => absurd hno hnarrow⟩, fun h => h.1⟩

/-- The first plane fits a frame iff all its lines do. -/
theorem mul_le_mod_iff {p h l : ℕ} (hl : l = h ∨ l = h + h / 2) :
    p * h ≤ p * l % 2 ^ 32 ↔ p * l < 2 ^ 32 := by
  rcases hl with rfl | rfl
  · exact ⟨fun hle => hle.trans_lt (Nat.mod_lt _ (by decide)), fun hlt => (Nat.mod_eq_of_lt hlt).ge⟩
  · have hhalf : p * (h / 2) ≤ p * h := Nat.mul_le_mul_left p (Nat.div_le_self h 2)
    rw [Nat.mul_add]
    omega

/-- The stride of a row that fits. -/
theorem lumaPitch_le_of_row (hrow : rowBytes info ≤ 8160) :
    lumaPitch (strideBytes info) 32 ≤ 8160 := by
  have hle : strideBytes info ≤ rowBytes info := by
    rcases strideBytes_cases info with ⟨-, hpacked, hstride⟩ | ⟨-, hstride⟩ <;> omega
  unfold lumaPitch
  omega

theorem frameLines_cases (info : VidixPlayback) :
    frameLines info = info.src.h.toNat ∨
      frameLines info = info.src.h.toNat + info.src.h.toNat / 2 := by
  unfold frameLines
  split_ifs
  · exact .inr rfl
  · exact .inl rfl

/-- The first plane is in the frame. -/
theorem luma_le_of_packedIn {n stride : ℕ} {offset : VidixYuv}
    (h : PackedIn n (planes info offset stride)) : stride * info.src.h.toNat ≤ n := by
  have hmem : ⟨offset.y.toNat, stride * info.src.h.toNat⟩ ∈ planes info offset stride := by
    unfold planes
    split_ifs <;> exact List.mem_cons_self
  rcases Region.bytes_subset_Iio_iff.mp (h.inside _ hmem) with hzero | hle
  · exact (show stride * info.src.h.toNat = 0 from hzero) ▸ Nat.zero_le n
  · exact (Nat.le_add_left _ _).trans hle

/-- The planes of a frame that fits. -/
theorem Configured.packedIn_planes {vio : Video} (hc : Configured info info' vio)
    (hfits : GeometryFits info) :
    PackedIn info'.frameSize.toNat
      (planes info info'.offset (lumaPitch (strideBytes info) 32)) := by
  have hpitch := lumaPitch_le_of_row hfits.row
  have hdvd : 32 ∣ lumaPitch (strideBytes info) 32 := dvd_lumaPitch _ _
  have hy : info'.offset.y.toNat = 0 := by
    rw [hc.offset]
    rfl
  have hluma := (mul_le_mod_iff (frameLines_cases info)).mpr hfits.frame
  rw [← frameBytes_eq, ← hc.frameSize] at hluma
  unfold planes
  split_ifs with hplanar
  · have hframe := hc.frameSize
    have hlines : frameLines info = info.src.h.toNat + info.src.h.toNat / 2 := by
      unfold frameLines
      rw [if_pos (isYuv_of_isPlanar hplanar)]
    have hne := hc.size_ne_zero
    have hfits' := hfits.frame
    rw [frameBytes_eq, Nat.mod_eq_of_lt hfits'] at hframe hne
    have hpos : 32 ≤ lumaPitch (strideBytes info) 32 :=
      Nat.le_of_dvd (Nat.pos_of_ne_zero (Nat.ne_zero_of_mul_ne_zero_left hne)) hdvd
    have hhalves : lumaPitch (strideBytes info) 32 * (info.src.h.toNat / 2) =
        2 * (lumaPitch (strideBytes info) 32 / 2 * (info.src.h.toNat / 2)) := by
      rw [← Nat.mul_assoc, Nat.mul_div_cancel' (Dvd.dvd.trans (by decide) hdvd)]
    rw [hlines, Nat.mul_add, hhalves] at hframe hfits'
    have hshort : 32 * info.src.h.toNat ≤ lumaPitch (strideBytes info) 32 * info.src.h.toNat :=
      Nat.mul_le_mul_right _ hpos
    obtain ⟨hv, hu⟩ := planesOf_offset hplanar (by omega) (by omega) (by omega)
    rw [packedIn_three_iff, hy, hc.offset, hv, hu]
    omega
  · rw [packedIn_one_iff, hy, Nat.zero_add]
    exact .inr hluma

/-- **The geometry is right iff the stride fits its register, the padding is enough for two of the
formats, and the frame fits 32 bits.** -/
theorem geometry_iff (h : configure s info = some (0, info', s')) :
    GeometryRight info info' s'.vio ↔ GeometryFits info := by
  have hc := configured h
  have hstride := hc.strideOf_eq
  constructor
  · intro hright
    have hroom := hright.stride
    rw [hstride] at hroom
    obtain ⟨hrow, hnarrow⟩ := (rowBytes_le_iff info).mp hroom
    have hpitch := lumaPitch_le_of_row hrow
    have hluma := luma_le_of_packedIn hright.frame
    rw [hstride, Nat.mod_eq_of_lt (by omega), hc.frameSize, frameBytes_eq] at hluma
    exact ⟨hrow, hnarrow, (mul_le_mod_iff (frameLines_cases info)).mp hluma⟩
  · intro hfits
    have hpitch := lumaPitch_le_of_row hfits.row
    refine ⟨?_, fun hplanar => ?_, hc.le_fetchBytes hfits.row, ?_⟩
    · rw [hstride]
      exact (rowBytes_le_iff info).mpr ⟨hfits.row, hfits.narrow⟩
    · have hwidth : strideBytes info = info.src.w.toNat := if_pos (isYuv_of_isPlanar hplanar)
      rw [hc.uvStrideOf_eq (by omega), hwidth]
      unfold lumaPitch
      omega
    · rw [hstride, Nat.mod_eq_of_lt (by omega)]
      exact hc.packedIn_planes hfits

/-- A chip whose registers are all zero. -/
def sampleState : State where
  ucMem := 0
  hwrev := 0x11
  mclkSave := fun _ => 0
  frames := fun _ => 0
  yOffs := 0
  uOffs := 0
  vOffs := 0
  sr := fun _ => 0
  vio := fun _ => 0

theorem geometry_sample :
    ∃ info' s', configure sampleState (sampleRequest imgfmtYV12 352 288 1) = some (0, info', s') ∧
      GeometryRight (sampleRequest imgfmtYV12 352 288 1) info' s'.vio := by
  obtain ⟨info', s', h⟩ : ∃ info' s',
      configure sampleState (sampleRequest imgfmtYV12 352 288 1) = some (0, info', s') :=
    ⟨_, _, rfl⟩
  exact ⟨info', s', h, (geometry_iff h).mpr ⟨by decide, by decide, by decide⟩⟩

/-- **352 pixels in UYVY are 704 bytes, and the chip is told that rows are 352 bytes apart; 5000
pixels in YUY2 are 10000, and it is told 1824.** -/
theorem stride_short :
    (∃ info' s', configure sampleState (sampleRequest imgfmtUYVY 352 288 1) = some (0, info', s') ∧
      strideOf s'.vio = 352 ∧ rowBytes (sampleRequest imgfmtUYVY 352 288 1) = 704 ∧
      ¬ GeometryRight (sampleRequest imgfmtUYVY 352 288 1) info' s'.vio) ∧
    ∃ info' s', configure sampleState (samplePlayback 5000 100) = some (0, info', s') ∧
      strideOf s'.vio = 1824 ∧ rowBytes (samplePlayback 5000 100) = 10000 ∧
      ¬ GeometryRight (samplePlayback 5000 100) info' s'.vio := by
  refine ⟨⟨_, _, rfl, by decide, by decide, fun h => ?_⟩,
    ⟨_, _, rfl, by decide, by decide, fun h => ?_⟩⟩
  · exact absurd h.stride (by decide)
  · exact absurd h.stride (by decide)

end Vidix.Unichrome
