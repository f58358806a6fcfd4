import Vidix.Ivtv.Config
import Vidix.Ivtv.Equiv.Tiling

/-!
# Where the conversion of a frame reads and writes

`vixConfigPlayback` accepts every request, but the buffer for the tiles has the size of one frame of
720 × 576 pixels, and the conversion goes by the size and the origin of the request alone.

* A plane stays inside the two buffers iff it is empty or its last pixel has a place and is in the
  frame: `yBlocks_within_iff`, `uvBlocks_within_iff`.
* After any requests before it, the frames of a request are converted without leaving the buffers
  iff both of its planes stay inside: `conversion_inside_iff`.
* Pictures without an origin that are at most as large as the frame do: `requestFits_of_whole`.
  Larger ones can write beyond the end: `conversion_outside`.
-/

namespace Vidix.Ivtv

open Util

/-- A move that is allowed by `G`, writes to the first `room` bytes and reads `len` bytes from
`base` on. -/
structure Within (G : Prop) (room : ℕ) (base : ℤ) (len : ℕ) (m : Move) : Prop where
  granted : G
  dst_nonneg : 0 ≤ m.dst
  dst_lt : m.dst < room
  le_src : base ≤ m.src
  src_lt : m.src < base + len

/-! ### The luma plane -/

/-- The place of a pixel grows with its column and its line. -/
theorem tile_le {p q : ℕ × ℕ} (hx : p.1 ≤ q.1) (hy : p.2 ≤ q.2) : tile p ≤ tile q := by
  unfold tile
  omega

section Luma

variable {G : Prop} {base : ℤ} {len : ℕ} {w h stride : UInt32} {srcX srcY : Int32}

/-- A picture fits: its last pixel has a place, and is in the frame. -/
structure LumaFits (G : Prop) (len W H : ℕ) (stride : UInt32) (srcX srcY : Int32) : Prop where
  granted : G
  place_nonneg : 0 ≤ yPlace srcX srcY
  place_lt : yPlace srcX srcY + tile (W - 1, H - 1) < outbufSize
  start_nonneg : 0 ≤ yStart srcX srcY stride.toInt32
  start_lt : yStart srcX srcY stride.toInt32 + ((H - 1) * stride.toNat + (W - 1) : ℕ) < len

theorem LumaFits.bounds {W H : ℕ} (h : LumaFits G len W H stride srcX srcY) :
    W ≤ 38880 ∧ H ≤ 864 := by
  have hnonneg := h.place_nonneg
  have hlt := h.place_lt
  simp only [tile, outbufSize, ivtvMaxHeight, ivtvMaxWidth] at hlt
  constructor <;> omega

theorem yMove_dst (base : ℤ) (srcX srcY : Int32) (stride : UInt32) (p : ℕ × ℕ) :
    (yMove base 0 srcX srcY stride.toInt32 p).dst = yPlace srcX srcY + tile p := by
  rw [yMove, zero_add]

/-- The place that is read, when the line does not wrap. -/
theorem yMove_src (base : ℤ) (srcX srcY : Int32) (stride : UInt32) {p : ℕ × ℕ}
    (hline : p.2 < 2 ^ 32) (hwrap : p.2 * stride.toNat < 2 ^ 32) :
    (yMove base 0 srcX srcY stride.toInt32 p).src =
      base + (yStart srcX srcY stride.toInt32 + (p.2 * stride.toNat + p.1 : ℕ)) := by
  have hrow : (UInt32.ofNat p.2 * stride.toInt32.toUInt32).toNat = p.2 * stride.toNat := by
    rw [UInt32.toUInt32_toInt32, UInt32.toNat_mul, toNat_ofNat_of_lt hline]
    exact Nat.mod_eq_of_lt hwrap
  rw [yMove, hrow]
  push_cast
  ring

/-- In a picture that fits, all pixels do. -/
theorem LumaFits.within {W H : ℕ} (h : LumaFits G len W H stride srcX srcY) (hlen : len < 2 ^ 32)
    {p : ℕ × ℕ} (hx : p.1 < W) (hy : p.2 < H) :
    Within G outbufSize base len (yMove base 0 srcX srcY stride.toInt32 p) := by
  have hline : p.2 * stride.toNat ≤ (H - 1) * stride.toNat := Nat.mul_le_mul_right _ (by omega)
  have htile := tile_le (p := p) (q := (W - 1, H - 1)) (by simp only; omega) (by simp only; omega)
  obtain ⟨hG, hplace, hplace', hstart, hstart'⟩ := h
  have hbounds := LumaFits.bounds ⟨hG, hplace, hplace', hstart, hstart'⟩
  have hsrc := yMove_src base srcX srcY stride (p := p) (by omega) (by omega)
  have hdst := yMove_dst base srcX srcY stride p
  exact ⟨hG, by omega, by omega, by omega, by omega⟩

/-- When all pixels do, the picture fits. -/
theorem lumaFits_of_within (hlen : w.toNat ≤ 38880 → h.toNat ≤ 864 → len < 2 ^ 31)
    (hstride : w.toNat ≤ 38880 → stride.toNat ≤ 38880 ∨ 2 ^ 31 ≤ stride.toNat)
    (hw : w.toNat ≠ 0) (hh : h.toNat ≠ 0) (hwmax : w.toNat ≤ 38880) (hhmax : h.toNat ≤ 864)
    (hall : ∀ p : ℕ × ℕ, p.1 < w.toNat → p.2 < h.toNat →
      Within G outbufSize base len (yMove base 0 srcX srcY stride.toInt32 p)) :
    LumaFits G len w.toNat h.toNat stride srcX srcY := by
  have hlen := hlen hwmax hhmax
  have hfirst := hall (0, 0) (by simp only; omega) (by simp only; omega)
  have hlast := hall (w.toNat - 1, h.toNat - 1) (by simp only; omega) (by simp only; omega)
  have hsrc0 := yMove_src base srcX srcY stride (p := (0, 0)) (by simp only; omega)
    (by simp only; omega)
  have hstart : 0 ≤ yStart srcX srcY stride.toInt32 := by
    have hle := hfirst.le_src
    simp only [Nat.zero_mul, Nat.cast_zero, add_zero] at hsrc0
    omega
  -- the lines of a picture that is so wide that a line wraps are not in the frame
  have hwrap : (h.toNat - 1) * stride.toNat < 2 ^ 32 := by
    rcases hstride hwmax with hsmall | hlarge
    · have hmul := Nat.mul_le_mul (show h.toNat - 1 ≤ 863 by omega) hsmall
      omega
    · have hone : h.toNat = 1 := by
        by_contra hne
        have hsecond := (hall (0, 1) (by simp only; omega) (by simp only; omega)).src_lt
        have hlt := stride.toNat_lt
        rw [yMove_src _ _ _ _ (by simp only; omega) (by simp only; omega)] at hsecond
        simp only [Nat.one_mul, Nat.add_zero] at hsecond
        omega
      rw [hone, Nat.sub_self, Nat.zero_mul]
      decide
  have hdst0 := hfirst.dst_nonneg
  have hdst := hlast.dst_lt
  have hsrc := hlast.src_lt
  rw [yMove_dst] at hdst0 hdst
  rw [yMove_src _ _ _ _ (by simp only; omega) hwrap] at hsrc
  simp only at hsrc
  simp only [tile, Nat.zero_div, Nat.zero_mod, Nat.mul_zero, Nat.cast_zero, add_zero] at hdst0
  exact ⟨hfirst.granted, hdst0, hdst, hstart, by omega⟩

/-- When the first pixel has a place, those that are a whole buffer behind it have none. -/
theorem not_within_of_tile {p : ℕ × ℕ} (hp : outbufSize ≤ tile p)
    (hfirst : Within G outbufSize base len (yMove base 0 srcX srcY stride.toInt32 (0, 0))) :
    ¬ Within G outbufSize base len (yMove base 0 srcX srcY stride.toInt32 p) := by
  intro hout
  have hnonneg := hfirst.dst_nonneg
  have hlt := hout.dst_lt
  rw [yMove_dst, show tile (0, 0) = 0 from rfl] at hnonneg
  rw [yMove_dst] at hlt
  omega

/-- **The luma plane stays inside iff the picture fits.** -/
theorem yBlocks_within_iff (hlen : w.toNat ≤ 38880 → h.toNat ≤ 864 → len < 2 ^ 31)
    (hstride : w.toNat ≤ 38880 → stride.toNat ≤ 38880 ∨ 2 ^ 31 ≤ stride.toNat)
    (hword : len < 2 ^ 32) :
    (∀ fuel, ∀ m ∈ (overBlocks fuel 16 w h
        (yBlock base 0 w srcX srcY stride.toInt32)).moves, Within G outbufSize base len m) ↔
      w.toNat = 0 ∨ h.toNat = 0 ∨ LumaFits G len w.toNat h.toNat stride srcX srcY := by
  have hsingle : ∀ p, (∀ m ∈ [yMove base 0 srcX srcY stride.toInt32 p],
      Within G outbufSize base len m) ↔
        Within G outbufSize base len (yMove base 0 srcX srcY stride.toInt32 p) := fun p =>
    List.forall_mem_singleton
  have hall := overBlocks_forall_iff (b := 16) (w := w) (h := h)
    (yBlock base 0 w srcX srcY stride.toInt32)
    (fun p => [yMove base 0 srcX srcY stride.toInt32 p]) (Within G outbufSize base len) 2430 54
    (by decide) (by decide) (by decide)
    (fun c r hc hcmax hrmax => yBlock_eq hc (by omega) (by omega))
    (by
      rw [hsingle, hsingle]
      exact not_within_of_tile (by decide))
    (by
      rw [hsingle, hsingle]
      exact not_within_of_tile (by decide))
  simp only [hsingle] at hall
  refine hall.trans ⟨?_, ?_⟩
  · rintro (hw | hh | ⟨hwmax, hhmax, hpixels⟩)
    · exact .inl hw
    · exact .inr (.inl hh)
    · rw [or_iff_not_imp_left, or_iff_not_imp_left]
      exact fun hw hh => lumaFits_of_within hlen hstride hw hh hwmax hhmax hpixels
  · rintro (hw | hh | hfits)
    · exact .inl hw
    · exact .inr (.inl hh)
    · exact .inr (.inr ⟨hfits.bounds.1, hfits.bounds.2, fun p hx hy => hfits.within hword hx hy⟩)

end Luma

/-! ### The chroma planes -/

/-- Where a plane begins for an origin that is rounded. -/
def uvStart (srcX srcY width : Int32) : ℤ := (srcX + srcY * width).toInt

/-- A picture fits: its last pixel has a place, the first of its V and the last of its U samples are
in the frame, and so is the first sample of the block that is cut, whose index is unsigned. -/
structure ChromaFits (G : Prop) (len W H luma quarter n : ℕ) (srcX srcY width : Int32) : Prop where
  granted : G
  place_nonneg : 0 ≤ (ivtvMaxHeight * ivtvMaxWidth : ℕ) + uvPlace srcX srcY
  place_lt : (ivtvMaxHeight * ivtvMaxWidth : ℕ) + uvPlace srcX srcY + uvTile (W - 1, H - 1) + 1 <
    outbufSize
  first_nonneg : 0 ≤ luma + uvStart srcX srcY width
  last_lt : luma + quarter + (uvStart srcX srcY width + ((H - 1) * n + (W - 1) : ℕ)) < len
  cut_nonneg : W % 8 ≠ 0 → 0 ≤ uvStart srcX srcY width + (W - W % 8 : ℕ)

section Chroma

variable {G : Prop} {base : ℤ} {len luma quarter n : ℕ} {w h : UInt32} {srcX srcY width : Int32}

theorem ChromaFits.bounds {W H : ℕ} (h : ChromaFits G len W H luma quarter n srcX srcY width) :
    W ≤ 19440 ∧ H ≤ 864 := by
  have hnonneg := h.place_nonneg
  have hlt := h.place_lt
  simp only [uvTile, outbufSize, ivtvMaxHeight, ivtvMaxWidth] at hlt hnonneg
  constructor <;> omega

/-- The index is that of the pixel, as far as 32 bits can say. -/
theorem uvIndex_modEq (w : UInt32) (srcX srcY : Int32) (hn : Holds width n) (p : ℕ × ℕ) :
    uvIndex w srcX srcY width p ≡ uvStart srcX srcY width + (p.2 * n + p.1 : ℕ) [ZMOD 2 ^ 32] := by
  have hsum : uvWord srcX srcY width p =
      (srcX + srcY * width).toUInt32 + UInt32.ofNat (p.2 * n + p.1) := by
    rw [uvWord, hn.toUInt32_eq, Int32.toUInt32_add, UInt32.ofNat_add, UInt32.ofNat_mul]
    ac_rfl
  have hword : ((uvWord srcX srcY width p).toNat : ℤ) ≡
      uvStart srcX srcY width + (p.2 * n + p.1 : ℕ) [ZMOD 2 ^ 32] := by
    rw [hsum]
    refine toNat_add_modEq (toNat_toUInt32_modEq _) ?_
    rw [UInt32.toNat_ofNat']
    push_cast
    exact Int.mod_modEq _ _
  unfold uvIndex
  split_ifs
  · exact (toInt32_modEq _).trans hword
  · exact hword

/-- The index of a block that is cut is unsigned, and the others are signed. -/
theorem uvIndex_range (w : UInt32) (srcX srcY width : Int32) (p : ℕ × ℕ) :
    (p.1 / 8 * 8 + 8 ≤ w.toNat → -2 ^ 31 ≤ uvIndex w srcX srcY width p ∧
      uvIndex w srcX srcY width p < 2 ^ 31) ∧
    (¬ p.1 / 8 * 8 + 8 ≤ w.toNat → 0 ≤ uvIndex w srcX srcY width p ∧
      uvIndex w srcX srcY width p < 2 ^ 32) := by
  constructor
  · intro h
    rw [uvIndex, if_pos h]
    exact ⟨Int32.le_toInt _, Int32.toInt_lt _⟩
  · intro h
    have hlt := (uvWord srcX srcY width p).toNat_lt
    rw [uvIndex, if_neg h]
    omega

/-- Where the index is that of the pixel. -/
theorem uvIndex_eq (w : UInt32) (srcX srcY : Int32) (hn : Holds width n) {p : ℕ × ℕ}
    (hlow : -2 ^ 31 ≤ uvStart srcX srcY width + (p.2 * n + p.1 : ℕ))
    (hhigh : uvStart srcX srcY width + (p.2 * n + p.1 : ℕ) < 2 ^ 31)
    (hcut : ¬ p.1 / 8 * 8 + 8 ≤ w.toNat → 0 ≤ uvStart srcX srcY width + (p.2 * n + p.1 : ℕ)) :
    uvIndex w srcX srcY width p = uvStart srcX srcY width + (p.2 * n + p.1 : ℕ) := by
  have hmod := uvIndex_modEq w srcX srcY hn p
  obtain ⟨hwhole, hrest⟩ := uvIndex_range w srcX srcY width p
  unfold Int.ModEq at hmod
  by_cases h : p.1 / 8 * 8 + 8 ≤ w.toNat
  · have hrange := hwhole h
    omega
  · have hrange := hrest h
    have hnonneg := hcut h
    omega

/-- An index that is neither far below nor far above zero is that of the pixel. -/
theorem uvIndex_eq_of_near (hn : Holds width n) {p : ℕ × ℕ} (hpixel : p.2 * n + p.1 < 2 ^ 27)
    (hlow : -2 ^ 30 ≤ uvIndex w srcX srcY width p) (hhigh : uvIndex w srcX srcY width p < 2 ^ 30) :
    uvIndex w srcX srcY width p = uvStart srcX srcY width + (p.2 * n + p.1 : ℕ) := by
  have hmod := uvIndex_modEq w srcX srcY hn p
  have hleast : -2 ^ 31 ≤ uvStart srcX srcY width := Int32.le_toInt _
  have hmost : uvStart srcX srcY width < 2 ^ 31 := Int32.toInt_lt _
  unfold Int.ModEq at hmod
  omega

/-- Both samples of a pixel stay inside. -/
theorem within_uvMoves_iff (p : ℕ × ℕ) :
    (∀ m ∈ uvMoves (base + luma + quarter) (base + luma) (ivtvMaxHeight * ivtvMaxWidth : ℕ) w srcX
        srcY width p, Within G outbufSize base len m) ↔
      G ∧ 0 ≤ (ivtvMaxHeight * ivtvMaxWidth : ℕ) + uvPlace srcX srcY + uvTile p ∧
        (ivtvMaxHeight * ivtvMaxWidth : ℕ) + uvPlace srcX srcY + uvTile p + 1 < outbufSize ∧
        0 ≤ luma + uvIndex w srcX srcY width p ∧
        luma + quarter + uvIndex w srcX srcY width p < len := by
  rw [uvMoves, List.forall_mem_cons, List.forall_mem_singleton]
  constructor
  · rintro ⟨hu, hv⟩
    have hdst := hv.dst_lt
    have hsrc := hv.le_src
    have hsrc' := hu.src_lt
    have hdst' := hu.dst_nonneg
    simp only at hdst hsrc hsrc' hdst'
    exact ⟨hu.granted, hdst', hdst, by omega, by omega⟩
  · rintro ⟨hG, hdst, hdst', hsrc, hsrc'⟩
    exact ⟨⟨hG, hdst, by simp only; omega, by simp only; omega, by simp only; omega⟩,
      ⟨hG, by simp only; omega, hdst', by simp only; omega, by simp only; omega⟩⟩

/-- In a picture that fits, all pixels do. -/
theorem ChromaFits.within {W H : ℕ} (hW : w.toNat = W)
    (h : ChromaFits G len W H luma quarter n srcX srcY width) (hn : Holds width n)
    (hlen : len < 2 ^ 30) (hluma : luma < 2 ^ 30)
    {p : ℕ × ℕ} (hx : p.1 < W) (hy : p.2 < H) :
    ∀ m ∈ uvMoves (base + luma + quarter) (base + luma) (ivtvMaxHeight * ivtvMaxWidth : ℕ) w srcX
      srcY width p, Within G outbufSize base len m := by
  have hline : p.2 * n ≤ (H - 1) * n := Nat.mul_le_mul_right _ (by omega)
  have htile := uvTile_le (p := p) (q := (W - 1, H - 1)) (by simp only; omega) (by simp only; omega)
  obtain ⟨hG, hplace, hplace', hfirst, hlast, hcut⟩ := h
  have hindex := uvIndex_eq w srcX srcY hn (p := p) (by omega) (by omega)
    (fun hpart => by
      have hcut := hcut (by omega)
      omega)
  rw [within_uvMoves_iff, hindex]
  exact ⟨hG, by omega, by omega, by omega, by omega⟩

/-- When all pixels do, the picture fits. -/
theorem chromaFits_of_within (hn : Holds width n) (hnmax : n ≤ 19440)
    (hlen : len < 2 ^ 30) (hluma : luma < 2 ^ 30)
    (hw : w.toNat ≠ 0) (hh : h.toNat ≠ 0) (hwmax : w.toNat ≤ 19440) (hhmax : h.toNat ≤ 864)
    (hall : ∀ p : ℕ × ℕ, p.1 < w.toNat → p.2 < h.toNat →
      ∀ m ∈ uvMoves (base + luma + quarter) (base + luma) (ivtvMaxHeight * ivtvMaxWidth : ℕ) w srcX
        srcY width p, Within G outbufSize base len m) :
    ChromaFits G len w.toNat h.toNat luma quarter n srcX srcY width := by
  simp only [within_uvMoves_iff] at hall
  -- every index that is read is that of its pixel
  have hindex : ∀ p : ℕ × ℕ, p.1 < w.toNat → p.2 < h.toNat → uvIndex w srcX srcY width p =
      uvStart srcX srcY width + (p.2 * n + p.1 : ℕ) := fun p hx hy => by
    obtain ⟨-, -, -, hlow, hhigh⟩ := hall p hx hy
    have hmul := Nat.mul_le_mul (show p.2 ≤ 863 by omega) hnmax
    exact uvIndex_eq_of_near hn (by omega) (by omega) (by omega)
  obtain ⟨hG, hplace, -, hfirst, -⟩ := hall (0, 0) (by simp only; omega) (by simp only; omega)
  obtain ⟨-, -, hplace', -, hlast⟩ := hall (w.toNat - 1, h.toNat - 1) (by simp only; omega)
    (by simp only; omega)
  rw [hindex _ (by simp only; omega) (by simp only; omega)] at hfirst hlast
  simp only [uvTile, Nat.zero_div, Nat.zero_mod, Nat.mul_zero, Nat.zero_mul, Nat.cast_zero,
    add_zero] at hplace hfirst
  refine ⟨hG, hplace, hplace', hfirst, hlast, fun hpart => ?_⟩
  have hcut := ((uvIndex_range w srcX srcY width (w.toNat - w.toNat % 8, 0)).2
    (by simp only; omega)).1
  rw [hindex _ (by simp only; omega) (by simp only; omega)] at hcut
  simp only [Nat.zero_mul, Nat.zero_add] at hcut
  exact hcut

/-- When the first pixel has a place, those that are a whole buffer behind it have none. -/
theorem not_within_of_uvTile {p : ℕ × ℕ} (hp : outbufSize ≤ uvTile p)
    (hfirst : ∀ m ∈ uvMoves (base + luma + quarter) (base + luma)
      (ivtvMaxHeight * ivtvMaxWidth : ℕ) w srcX srcY width (0, 0),
        Within G outbufSize base len m) :
    ¬ ∀ m ∈ uvMoves (base + luma + quarter) (base + luma) (ivtvMaxHeight * ivtvMaxWidth : ℕ) w srcX
      srcY width p, Within G outbufSize base len m := by
  rw [within_uvMoves_iff] at hfirst ⊢
  rintro ⟨-, -, hlt, -⟩
  obtain ⟨-, hnonneg, -⟩ := hfirst
  rw [show uvTile (0, 0) = 0 from rfl] at hnonneg
  omega

/-- **The chroma planes stay inside iff the picture fits.** -/
theorem uvBlocks_within_iff
    (hsmall : w.toNat ≤ 19440 → h.toNat ≤ 864 →
      Holds width n ∧ n ≤ 19440 ∧ len < 2 ^ 30 ∧ luma < 2 ^ 30) :
    (∀ fuel, ∀ m ∈ (overBlocks fuel 8 w h (uvBlock (base + luma + quarter) (base + luma)
        (ivtvMaxHeight * ivtvMaxWidth : ℕ) w srcX srcY width)).moves,
          Within G outbufSize base len m) ↔
      w.toNat = 0 ∨ h.toNat = 0 ∨
        ChromaFits G len w.toNat h.toNat luma quarter n srcX srcY width := by
  have hall := overBlocks_forall_iff (b := 8) (w := w) (h := h)
    (uvBlock (base + luma + quarter) (base + luma) (ivtvMaxHeight * ivtvMaxWidth : ℕ) w srcX srcY
      width)
    (uvMoves (base + luma + quarter) (base + luma) (ivtvMaxHeight * ivtvMaxWidth : ℕ) w srcX srcY
      width) (Within G outbufSize base len) 2430 54 (by decide) (by decide) (by decide)
    (fun c r hc hcmax hrmax => uvBlock_eq hc (by omega) (by omega))
    (not_within_of_uvTile (by decide)) (not_within_of_uvTile (by decide))
  refine hall.trans ⟨?_, ?_⟩
  · rintro (hw | hh | ⟨hwmax, hhmax, hpixels⟩)
    · exact .inl hw
    · exact .inr (.inl hh)
    · rw [or_iff_not_imp_left, or_iff_not_imp_left]
      obtain ⟨hn, hnmax, hlen, hluma⟩ := hsmall hwmax hhmax
      exact fun hw hh => chromaFits_of_within hn hnmax hlen hluma hw hh hwmax hhmax hpixels
  · rintro (hw | hh | hfits)
    · exact .inl hw
    · exact .inr (.inl hh)
    · obtain ⟨hwmax, hhmax⟩ := hfits.bounds
      obtain ⟨hn, -, hlen, hluma⟩ := hsmall hwmax hhmax
      exact .inr (.inr ⟨hwmax, hhmax, fun p hx hy => hfits.within rfl hn hlen hluma hx hy⟩)

end Chroma

/-! ### Requests -/

/-- The columns that the loops of `de_macro_y` go through for a request. -/
def lumaW (src : VidixRect) : UInt32 := roundedSize 15 src.w src.x.toInt32

/-- The lines that the loops of `de_macro_y` go through for a request. -/
def lumaH (src : VidixRect) : UInt32 := roundedSize 15 src.h src.y.toInt32

/-- The columns that the loops of `de_macro_uv` go through for a request. -/
def chromaW (src : VidixRect) : UInt32 := roundedSize 7 (src.w / 2) (src.x.toInt32 / 2)

/-- The lines that the loops of `de_macro_uv` go through for a request. -/
def chromaH (src : VidixRect) : UInt32 := roundedSize 15 (src.h / 2) (src.y.toInt32 / 2)

/-- The size of a frame of a request. -/
def frameWord (src : VidixRect) : UInt32 := src.w * src.h + src.w * src.h / 2

section Requests

variable {src : VidixRect} {G : Prop}

theorem toNat_and_fifteen_le (o : Int32) : (o &&& 15).toUInt32.toNat ≤ 15 := by
  rw [Int32.toUInt32_and, UInt32.toNat_and]
  exact Nat.and_le_right

theorem toNat_and_seven_le (o : Int32) : (o &&& 7).toUInt32.toNat ≤ 7 := by
  rw [Int32.toUInt32_and, UInt32.toNat_and]
  exact Nat.and_le_right

/-- A size that is small when it is enlarged is small, or so large that it wraps. -/
theorem size_of_roundedSize_le {size : UInt32} {o : Int32} {n : ℕ} (hn : n < 2 ^ 31)
    (h : (roundedSize 15 size o).toNat ≤ n) :
    size.toNat ≤ n ∨ 2 ^ 32 - 15 ≤ size.toNat := by
  have hle := toNat_and_fifteen_le o
  have hlt := size.toNat_lt
  rw [roundedSize, UInt32.toNat_add] at h
  omega

/-- A size that is small or wraps, as a signed number. -/
theorem exists_signed_size {size : UInt32} {n : ℕ} (hn : 15 ≤ n)
    (h : size.toNat ≤ n ∨ 2 ^ 32 - 15 ≤ size.toNat) :
    ∃ i : ℤ, (size.toNat : ℤ) ≡ i [ZMOD 2 ^ 32] ∧ i.natAbs ≤ n := by
  have hlt := size.toNat_lt
  rcases h with hsmall | hlarge
  · exact ⟨size.toNat, rfl, hsmall⟩
  · refine ⟨size.toNat - 2 ^ 32, ?_, by omega⟩
    unfold Int.ModEq
    omega

/-- The size of a frame with sides that are small or wrap. -/
theorem frameWord_lt (hw : (lumaW src).toNat ≤ 38880) (hh : (lumaH src).toNat ≤ 864) :
    (frameWord src).toNat < 2 ^ 31 := by
  obtain ⟨i, hi, hi'⟩ := exists_signed_size (by decide) (size_of_roundedSize_le (by decide) hw)
  obtain ⟨j, hj, hj'⟩ := exists_signed_size (by decide) (size_of_roundedSize_le (by decide) hh)
  have hmod := toNat_mul_modEq hi hj
  have habs : (i * j).natAbs ≤ 38880 * 864 := by
    rw [Int.natAbs_mul]
    exact Nat.mul_le_mul hi' hj'
  have hlt := (src.w * src.h).toNat_lt
  have hhalf : (src.w * src.h / 2).toNat = (src.w * src.h).toNat / 2 := UInt32.toNat_div _ 2
  rw [frameWord, UInt32.toNat_add, hhalf]
  unfold Int.ModEq at hmod
  by_cases hp : 0 ≤ i * j
  · have hword : ((src.w * src.h).toNat : ℤ) = i * j := by omega
    rw [Nat.mod_eq_of_lt (by omega)]
    omega
  · have hword : ((src.w * src.h).toNat : ℤ) = i * j + 2 ^ 32 := by omega
    rw [Nat.mod_eq_sub_mod (by omega), Nat.mod_eq_of_lt (by omega)]
    omega

/-- What the chroma planes of a small picture are worth. -/
theorem chroma_small (hw : (chromaW src).toNat ≤ 19440) (hh : (chromaH src).toNat ≤ 864) :
    Holds (src.w.toInt32 / 2) (src.w.toNat / 2) ∧ src.w.toNat / 2 ≤ 19440 ∧
      (frameWord src).toNat < 2 ^ 30 ∧ (src.w * src.h).toNat < 2 ^ 30 := by
  have hw2 : (src.w / 2).toNat = src.w.toNat / 2 := UInt32.toNat_div src.w 2
  have hh2 : (src.h / 2).toNat = src.h.toNat / 2 := UInt32.toNat_div src.h 2
  have hwlt := src.w.toNat_lt
  have hhlt := src.h.toNat_lt
  have hround := toNat_and_seven_le (src.x.toInt32 / 2)
  have hround' := toNat_and_fifteen_le (src.y.toInt32 / 2)
  rw [chromaW, roundedSize, UInt32.toNat_add, hw2, Nat.mod_eq_of_lt (by omega)] at hw
  rw [chromaH, roundedSize, UInt32.toNat_add, hh2, Nat.mod_eq_of_lt (by omega)] at hh
  have hmul := Nat.mul_le_mul (show src.w.toNat ≤ 38881 by omega) (show src.h.toNat ≤ 1729 by omega)
  have hluma : (src.w * src.h).toNat = src.w.toNat * src.h.toNat := by
    rw [UInt32.toNat_mul]
    exact Nat.mod_eq_of_lt (by omega)
  have hhalf : (src.w * src.h / 2).toNat = (src.w * src.h).toNat / 2 := UInt32.toNat_div _ 2
  have hframe : (frameWord src).toNat < 2 ^ 30 := by
    rw [frameWord, UInt32.toNat_add, hhalf, Nat.mod_eq_of_lt (by omega)]
    omega
  exact ⟨(Holds.toInt32 (by omega)).div (show Holds 2 2 from rfl), by omega, hframe, by omega⟩

/-- An empty picture whose height makes `y` wrap: the loop over `y` never ends. -/
def LumaHangs (src : VidixRect) : Prop :=
  (lumaW src).toNat = 0 ∧ 2 ^ 32 - 16 < (lumaH src).toNat

/-- The luma plane of a request is empty or fits. -/
def LumaInside (G : Prop) (src : VidixRect) : Prop :=
  (lumaW src).toNat = 0 ∨ (lumaH src).toNat = 0 ∨
    LumaFits G (frameWord src).toNat (lumaW src).toNat (lumaH src).toNat src.w
      (roundedOrigin 15 src.x.toInt32) (roundedOrigin 15 src.y.toInt32)

/-- The chroma planes of a request are empty or fit. -/
def ChromaInside (G : Prop) (src : VidixRect) : Prop :=
  (chromaW src).toNat = 0 ∨ (chromaH src).toNat = 0 ∨
    ChromaFits G (frameWord src).toNat (chromaW src).toNat (chromaH src).toNat
      (src.w * src.h).toNat (src.w * src.h / 4).toNat (src.w.toNat / 2)
      (roundedOrigin 7 (src.x.toInt32 / 2)) (roundedOrigin 15 (src.y.toInt32 / 2))
      (src.w.toInt32 / 2)

/-- `de_macro_y` for a request. -/
def lumaRun (fuel : ℕ) (base : ℤ) (src : VidixRect) : Trace Move :=
  deMacroY fuel base 0 src.w src.h src.x.toInt32 src.y.toInt32 src.h.toInt32 src.w.toInt32

/-- `de_macro_uv` for a request. -/
def chromaRun (fuel : ℕ) (base : ℤ) (src : VidixRect) : Trace Move :=
  deMacroUv fuel (base + (src.w * src.h).toNat + (src.w * src.h / 4).toNat)
    (base + (src.w * src.h).toNat) (ivtvMaxHeight * ivtvMaxWidth : ℕ) src.w src.h src.x.toInt32
    src.y.toInt32 src.h.toInt32 src.w.toInt32

theorem lumaRun_eq (fuel : ℕ) (base : ℤ) (src : VidixRect) :
    lumaRun fuel base src = overBlocks fuel 16 (lumaW src) (lumaH src)
      (yBlock base 0 (lumaW src) (roundedOrigin 15 src.x.toInt32) (roundedOrigin 15 src.y.toInt32)
        src.w.toInt32) := by
  unfold lumaRun deMacroY
  simp only [roundOrigin_eq]
  rfl

theorem chromaRun_eq (fuel : ℕ) (base : ℤ) (src : VidixRect) :
    chromaRun fuel base src = overBlocks fuel 8 (chromaW src) (chromaH src)
      (uvBlock (base + (src.w * src.h).toNat + (src.w * src.h / 4).toNat)
        (base + (src.w * src.h).toNat) (ivtvMaxHeight * ivtvMaxWidth : ℕ) (chromaW src)
        (roundedOrigin 7 (src.x.toInt32 / 2)) (roundedOrigin 15 (src.y.toInt32 / 2))
        (src.w.toInt32 / 2)) := by
  unfold chromaRun deMacroUv
  simp only [roundOrigin_eq]
  rfl

theorem lumaRun_within_iff (base : ℤ) :
    (∀ fuel, ∀ m ∈ (lumaRun fuel base src).moves,
      Within G outbufSize base (frameWord src).toNat m) ↔ LumaInside G src := by
  simp only [lumaRun_eq]
  refine yBlocks_within_iff frameWord_lt (fun hw => ?_) (frameWord src).toNat_lt
  rcases size_of_roundedSize_le (by decide) hw with h | h
  · exact .inl h
  · exact .inr (by omega)

theorem chromaRun_within_iff (base : ℤ) :
    (∀ fuel, ∀ m ∈ (chromaRun fuel base src).moves,
      Within G outbufSize base (frameWord src).toNat m) ↔ ChromaInside G src := by
  simp only [chromaRun_eq]
  exact uvBlocks_within_iff chroma_small

theorem lumaRun_mono {n m : ℕ} (h : n ≤ m) (base : ℤ) (src : VidixRect) :
    (lumaRun m base src).Extends (lumaRun n base src) := by
  rw [lumaRun_eq, lumaRun_eq]
  exact overBlocks_mono 16 h

theorem chromaRun_mono {n m : ℕ} (h : n ≤ m) (base : ℤ) (src : VidixRect) :
    (chromaRun m base src).Extends (chromaRun n base src) := by
  rw [chromaRun_eq, chromaRun_eq]
  exact overBlocks_mono 8 h

theorem lumaRun_not_ended (h : LumaHangs src) (fuel : ℕ) (base : ℤ) :
    (lumaRun fuel base src).ended = false := by
  rw [lumaRun_eq]
  refine forLoop_not_ended (I := fun y => y.toNat % 16 = 0) (fun y hy => ?_) (fun y hy => ?_) fuel
    rfl 16
  · have hlt := y.toNat_lt
    have hhigh := h.2
    exact UInt32.lt_iff_toNat_lt.mpr (by omega)
  · rw [UInt32.toNat_add, show (16 : UInt32).toNat = 16 from rfl]
    omega

/-- The conversion of the luma plane ends unless it hangs. -/
theorem lumaRun_ended (hinside : LumaInside G src) (hhangs : ¬ LumaHangs src) (base : ℤ) :
    ∃ fuel, (lumaRun fuel base src).ended = true := by
  simp only [lumaRun_eq]
  rcases Nat.eq_zero_or_pos (lumaH src).toNat with hh | hh
  · refine ⟨1, ?_⟩
    have hnot : ¬ (0 : UInt32) < lumaH src := by
      rw [UInt32.lt_iff_toNat_lt, hh]
      exact Nat.not_lt_zero _
    unfold overBlocks
    rw [forLoop_of_not_lt hnot]
  · have hbounds : (lumaW src).toNat ≤ 38880 ∧ (lumaH src).toNat ≤ 2 ^ 32 - 16 := by
      rcases hinside with hw | hh' | hfits
      · refine ⟨by omega, ?_⟩
        by_contra hlarge
        exact hhangs ⟨hw, by omega⟩
      · omega
      · have := hfits.bounds
        omega
    refine ⟨items 16 (lumaW src).toNat + items 16 (lumaH src).toNat + 1, ?_⟩
    rw [show (16 : UInt32) = UInt32.ofNat 16 from rfl,
      overBlocks_eq (by decide) (by omega) (by omega) (by omega) (by omega)]

end Requests

/-! ### Frames -/

/-- Where a frame begins in the application's buffer. -/
def frameStart (info : VidixPlayback) (frame : UInt32) : ℤ :=
  (info.offsets.getD frame.toNat 0).toNat

/-- A move writes to the buffer for the tiles and reads the frame of the application's buffer. -/
structure InsideFrame (d : Driver) (info : VidixPlayback) (frame : UInt32) (m : Move) : Prop where
  dst : ∃ b, d.outbuf = some b ∧ 0 ≤ m.dst ∧ m.dst < b.size
  src : ∃ b, d.memBase = some b ∧ m.src < b.size
  le_src : frameStart info frame ≤ m.src
  src_lt : m.src < frameStart info frame + info.frameSize.toNat

/-- Every frame that is granted is converted without leaving the two buffers. -/
def FramesInside (d : Driver) (info : VidixPlayback) : Prop :=
  ∀ frame < info.numFrames, ∀ fuel, ∀ m ∈ (vixPlaybackFrameSelect fuel d frame).moves,
    InsideFrame d info frame m

/-- `vixInit` has allocated the buffer for the tiles. -/
def Initialised (d : Driver) : Prop := ∃ b, d.outbuf = some b ∧ b.size = outbufSize

/-- There is room for the two frames of a request. -/
def Granted (malloc : ℕ → Option UInt64) (src : VidixRect) : Prop :=
  (malloc (2 * frameWord src).toNat).isSome = true

/-- When the conversion stays inside: what is copied of each plane fits, and where the first loop
does not end, the second is never reached. -/
def RequestFits (G : Prop) (src : VidixRect) : Prop :=
  LumaInside G src ∧ (LumaHangs src ∨ ChromaInside G src)

theorem initialised_of_vixInit {malloc : ℕ → Option UInt64} {d : Driver}
    (h : (vixInit malloc d).1 = 0) : Initialised (vixInit malloc d).2 := by
  have hne : ¬ eintr = 0 := by decide
  by_cases hprobed : d.probed = 0
  · rw [vixInit, if_pos hprobed] at h
    exact absurd h hne
  · cases hm : malloc outbufSize with
    | none =>
      have hinit : vixInit malloc d = (eintr, { d with outbuf := none }) := by
        simp [vixInit, allocate, hprobed, hm]
      rw [hinit] at h
      exact absurd h hne
    | some addr =>
      have hinit : vixInit malloc d = (0, { d with outbuf := some ⟨addr, outbufSize⟩ }) := by
        simp [vixInit, allocate, hprobed, hm]
      rw [hinit]
      exact ⟨_, rfl, rfl⟩

theorem initialised_of_config {d : Driver} (h : Initialised d) (malloc : ℕ → Option UInt64)
    (info : VidixPlayback) : Initialised (vixConfigPlayback malloc d info).2.1 := h

section Frames

variable {malloc : ℕ → Option UInt64} {d : Driver} {info : VidixPlayback} {frame : UInt32}

/-- The frame that is selected is that at its offset. -/
theorem frame_offset (hframe : frame < 2) :
    ((frame * frameWord info.src).toNat : ℤ) =
      frameStart (vixConfigPlayback malloc d info).2.2 frame := by
  have hlt := UInt32.lt_iff_toNat_lt.mp hframe
  have hword : (frameWord info.src).toInt32.toUInt32 = frameWord info.src :=
    UInt32.toUInt32_toInt32 _
  show _ = (([0, (frameWord info.src).toInt32.toUInt32].getD frame.toNat 0).toNat : ℤ)
  obtain hn | hn : frame.toNat = 0 ∨ frame.toNat = 1 := by
    have htwo : frame.toNat < 2 := hlt
    omega
  · rw [hn, show frame = 0 from UInt32.toNat_inj.mp hn, UInt32.zero_mul]
    rfl
  · rw [hn, show frame = 1 from UInt32.toNat_inj.mp hn, UInt32.one_mul, hword]
    rfl

theorem select_eq (hframe : frame < 2) (fuel : ℕ) :
    vixPlaybackFrameSelect fuel (vixConfigPlayback malloc d info).2.1 frame =
      (lumaRun fuel (frameStart (vixConfigPlayback malloc d info).2.2 frame) info.src).andThen
      (chromaRun fuel (frameStart (vixConfigPlayback malloc d info).2.2 frame) info.src) := by
  rw [← frame_offset hframe, ← UInt32.toUInt32_toInt32 (frameWord info.src)]
  rfl

theorem memBase_eq : (vixConfigPlayback malloc d info).2.1.memBase =
    allocate malloc (2 * frameWord info.src).toNat := by
  rw [← UInt32.toUInt32_toInt32 (frameWord info.src)]
  rfl

theorem within_of_insideFrame (hd : Initialised d) {m : Move}
    (h : InsideFrame (vixConfigPlayback malloc d info).2.1 (vixConfigPlayback malloc d info).2.2
      frame m) :
    Within (Granted malloc info.src) outbufSize
      (frameStart (vixConfigPlayback malloc d info).2.2 frame) (frameWord info.src).toNat m := by
  obtain ⟨out, hout, hsize⟩ := hd
  obtain ⟨⟨b, hb, hdst, hdst'⟩, ⟨b', hb', -⟩, hsrc, hsrc'⟩ := h
  have hbout : b = out := Option.some.inj (hb.symm.trans hout)
  rw [memBase_eq, allocate, Option.map_eq_some_iff] at hb'
  obtain ⟨addr, haddr, -⟩ := hb'
  have hframe : (vixConfigPlayback malloc d info).2.2.frameSize = frameWord info.src :=
    UInt32.toUInt32_toInt32 _
  rw [hframe] at hsrc'
  rw [hbout, hsize] at hdst'
  exact ⟨by rw [Granted, haddr]; rfl, hdst, hdst', hsrc, hsrc'⟩

/-- Conversely, when two frames are less than `2 ^ 32` bytes. -/
theorem insideFrame_of_within (hd : Initialised d) (hframe : frame < 2)
    (hlt : (frameWord info.src).toNat < 2 ^ 31) {m : Move}
    (h : Within (Granted malloc info.src) outbufSize
      (frameStart (vixConfigPlayback malloc d info).2.2 frame) (frameWord info.src).toNat m) :
    InsideFrame (vixConfigPlayback malloc d info).2.1 (vixConfigPlayback malloc d info).2.2
      frame m := by
  obtain ⟨out, hout, hsize⟩ := hd
  obtain ⟨hgranted, hdst, hdst', hsrc, hsrc'⟩ := h
  obtain ⟨addr, haddr⟩ := Option.isSome_iff_exists.mp hgranted
  have hframeSize : (vixConfigPlayback malloc d info).2.2.frameSize = frameWord info.src :=
    UInt32.toUInt32_toInt32 _
  have hroom : (2 * frameWord info.src).toNat = 2 * (frameWord info.src).toNat := by
    rw [UInt32.toNat_mul]
    exact Nat.mod_eq_of_lt (by rw [show (2 : UInt32).toNat = 2 from rfl]; omega)
  have hoffset : (frame * frameWord info.src).toNat ≤ (frameWord info.src).toNat := by
    have hone : frame.toNat ≤ 1 := Nat.lt_succ_iff.mp (UInt32.lt_iff_toNat_lt.mp hframe)
    have hmul := Nat.mul_le_mul_right (frameWord info.src).toNat hone
    have hle := toNat_mul_le frame (frameWord info.src)
    omega
  have hstart : ((frame * frameWord info.src).toNat : ℤ) =
      frameStart (vixConfigPlayback malloc d info).2.2 frame := frame_offset hframe
  refine ⟨⟨out, hout, hdst, hsize ▸ hdst'⟩, ⟨⟨addr, (2 * frameWord info.src).toNat⟩, ?_, ?_⟩, hsrc,
    hframeSize ▸ hsrc'⟩
  · rw [memBase_eq, allocate, haddr]
    rfl
  · rw [hroom]
    push_cast
    omega

/-- **The conversion of a request stays inside iff the request fits.** -/
theorem framesInside_iff (hd : Initialised d) (malloc : ℕ → Option UInt64) (info : VidixPlayback) :
    FramesInside (vixConfigPlayback malloc d info).2.1 (vixConfigPlayback malloc d info).2.2 ↔
      RequestFits (Granted malloc info.src) info.src := by
  constructor
  · intro h
    have hzero := h 0 (show (0 : UInt32) < 2 by decide)
    simp only [select_eq (show (0 : UInt32) < 2 by decide), Trace.forall_mem_andThen] at hzero
    have hluma := (lumaRun_within_iff _).mp fun fuel m hm =>
      within_of_insideFrame hd ((hzero fuel).1 m hm)
    refine ⟨hluma, or_iff_not_imp_left.mpr fun hhangs => ?_⟩
    -- with enough fuel the first conversion has ended
    obtain ⟨enough, hended⟩ := lumaRun_ended hluma hhangs
      (frameStart (vixConfigPlayback malloc d info).2.2 0)
    refine (chromaRun_within_iff (frameStart (vixConfigPlayback malloc d info).2.2 0)).mp
      fun fuel m hm => ?_
    have hmore := (chromaRun_mono (Nat.le_add_right fuel enough) _ info.src).moves.subset hm
    have hended' := (lumaRun_mono (Nat.le_add_left enough fuel) _ info.src).eq hended
    exact within_of_insideFrame hd ((hzero (fuel + enough)).2 (by rw [hended', hended]) m hmore)
  · rintro ⟨hluma, hchroma⟩ frame hframe fuel
    rw [select_eq hframe, Trace.forall_mem_andThen]
    constructor
    · intro m hm
      have hwithin := (lumaRun_within_iff _).mpr hluma fuel m hm
      rcases hluma with hw | hh | hfits
      · rw [lumaRun_eq] at hm
        exact (overBlocks_empty (.inl hw) _ fuel m hm).elim
      · rw [lumaRun_eq] at hm
        exact (overBlocks_empty (.inr hh) _ fuel m hm).elim
      · exact insideFrame_of_within hd hframe (frameWord_lt hfits.bounds.1 hfits.bounds.2) hwithin
    · intro hended m hm
      rcases hchroma with hhangs | hchroma
      · rw [lumaRun_not_ended hhangs] at hended
        exact absurd hended Bool.false_ne_true
      have hwithin := (chromaRun_within_iff _).mpr hchroma fuel m hm
      rcases hchroma with hw | hh | hfits
      · rw [chromaRun_eq] at hm
        exact (overBlocks_empty (.inl hw) _ fuel m hm).elim
      · rw [chromaRun_eq] at hm
        exact (overBlocks_empty (.inr hh) _ fuel m hm).elim
      · obtain ⟨-, -, hlt, -⟩ := chroma_small hfits.bounds.1 hfits.bounds.2
        exact insideFrame_of_within hd hframe (by omega) hwithin

end Frames

/-! ### Pictures of the whole frame -/

section Whole

variable {src : VidixRect} {G : Prop}

/-- Without an origin nothing is rounded. -/
theorem roundedSize_zero (mask : Int32) (size : UInt32) : roundedSize mask size 0 = size := by
  rw [roundedSize, Int32.zero_and]
  exact UInt32.add_zero size

theorem lumaFits_of_whole (hw : 0 < src.w.toNat) (hh : 0 < src.h.toNat) (hw' : src.w.toNat ≤ 720)
    (hh' : src.h.toNat ≤ 576) (hG : G) {len : ℕ} (hlen : src.w.toNat * src.h.toNat ≤ len) :
    LumaFits G len src.w.toNat src.h.toNat src.w 0 0 := by
  have hplace : yPlace 0 0 = 0 := by decide
  have hstart : yStart 0 0 src.w.toInt32 = 0 := by
    rw [yStart, Int32.zero_mul]
    rfl
  have hlast : (src.h.toNat - 1) * src.w.toNat + src.w.toNat = src.w.toNat * src.h.toNat := by
    rw [← Nat.succ_mul, Nat.succ_eq_add_one, Nat.sub_add_cancel hh, Nat.mul_comm]
  refine ⟨hG, hplace.ge, ?_, hstart.ge, ?_⟩
  · rw [hplace]
    simp only [tile, outbufSize, ivtvMaxHeight, ivtvMaxWidth]
    omega
  · rw [hstart]
    omega

theorem chromaFits_of_whole (hw : 0 < src.w.toNat / 2) (hh : 0 < src.h.toNat / 2)
    (hw' : src.w.toNat ≤ 720) (hh' : src.h.toNat ≤ 576) (hG : G) {luma : ℕ}
    (hluma : luma = src.w.toNat * src.h.toNat) :
    ChromaFits G (luma + luma / 2) (src.w.toNat / 2) (src.h.toNat / 2) luma (luma / 4)
      (src.w.toNat / 2) 0 0 (src.w.toInt32 / 2) := by
  have hplace : uvPlace 0 0 = 0 := by decide
  have hstart : uvStart 0 0 (src.w.toInt32 / 2) = 0 := by
    rw [uvStart, Int32.zero_mul]
    rfl
  have hlast : (src.h.toNat / 2 - 1) * (src.w.toNat / 2) + src.w.toNat / 2 ≤ luma / 4 := by
    rw [← Nat.succ_mul, Nat.succ_eq_add_one, Nat.sub_add_cancel hh, Nat.mul_comm, hluma]
    exact Nat.div_mul_div_le _ _ _ _
  refine ⟨hG, by rw [hplace]; decide, ?_, ?_, ?_, fun _ => ?_⟩
  · rw [hplace]
    simp only [uvTile, outbufSize, ivtvMaxHeight, ivtvMaxWidth]
    omega
  · rw [hstart]
    omega
  · rw [hstart]
    omega
  · rw [hstart]
    omega

/-- **Every picture that is at most as large as the frame and has no origin fits.** -/
theorem requestFits_of_whole (hx : src.x = 0) (hy : src.y = 0) (hw : src.w.toNat ≤ 720)
    (hh : src.h.toNat ≤ 576) (hG : G) : RequestFits G src := by
  have hmul := Nat.mul_le_mul hw hh
  have hluma : (src.w * src.h).toNat = src.w.toNat * src.h.toNat := by
    rw [UInt32.toNat_mul]
    exact Nat.mod_eq_of_lt (by omega)
  have hframe : (frameWord src).toNat =
      src.w.toNat * src.h.toNat + src.w.toNat * src.h.toNat / 2 := by
    rw [frameWord, UInt32.toNat_add, UInt32.toNat_div, hluma,
      show (2 : UInt32).toNat = 2 from rfl]
    exact Nat.mod_eq_of_lt (by omega)
  have hquarter : (src.w * src.h / 4).toNat = (src.w * src.h).toNat / 4 := UInt32.toNat_div _ 4
  have hw2 : (src.w / 2).toNat = src.w.toNat / 2 := UInt32.toNat_div _ 2
  have hh2 : (src.h / 2).toNat = src.h.toNat / 2 := UInt32.toNat_div _ 2
  have hzero : (0 : UInt32).toInt32 = 0 := rfl
  have hzero2 : (0 : Int32) / 2 = 0 := by decide
  have hround : ∀ mask, roundedOrigin mask 0 = 0 := fun mask => Int32.zero_and
  constructor
  · rw [LumaInside, lumaW, lumaH, hx, hy, hzero, roundedSize_zero, roundedSize_zero, hround,
      or_iff_not_imp_left, or_iff_not_imp_left]
    intro hw0 hh0
    exact lumaFits_of_whole (by omega) (by omega) hw hh hG (by omega)
  · refine .inr ?_
    rw [ChromaInside, chromaW, chromaH, hx, hy, hzero, hzero2, roundedSize_zero, roundedSize_zero,
      hround, hround, hw2, hh2, hquarter, hluma, hframe, or_iff_not_imp_left, or_iff_not_imp_left]
    intro hw0 hh0
    exact chromaFits_of_whole (by omega) (by omega) hw hh hG rfl

end Whole

/-! ### Every request -/

/-- The driver after requests that came one after the other. -/
def afterRequests (d : Driver) (requests : List ((ℕ → Option UInt64) × VidixPlayback)) : Driver :=
  requests.foldl (fun d r => (vixConfigPlayback r.1 d r.2).2.1) d

theorem initialised_afterRequests {d : Driver} (hd : Initialised d)
    (requests : List ((ℕ → Option UInt64) × VidixPlayback)) :
    Initialised (afterRequests d requests) := by
  induction requests generalizing d with
  | nil => exact hd
  | cons r requests ih => exact ih (initialised_of_config hd r.1 r.2)

/-- A rectangle without an origin. -/
def wholeRect (w h : UInt32) : VidixRect := ⟨0, 0, w, h, ⟨0, 0, 0⟩⟩

/-- A request for a picture of `w` × `h` pixels. -/
def wholeRequest (w h : UInt32) : VidixPlayback where
  fourcc := imgfmtYV12
  src := wholeRect w h
  dest := wholeRect w h
  frameSize := 0
  numFrames := 2
  offsets := []
  offset := ⟨0, 0, 0⟩
  dgaAddr := 0

/-- A driver that has found its card. -/
def probedDriver : Driver where
  probed := 1
  outbuf := none
  memBase := none
  frameSize := 0
  destVideo := wholeRect 0 0
  srcVideo := wholeRect 0 0

/-- The driver after `vixInit` and a request, with room for all that is asked for. -/
def configured (info : VidixPlayback) : ℤ × Driver × VidixPlayback :=
  vixConfigPlayback (fun _ => some 4096) (vixInit (fun _ => some 4096) probedDriver).2 info

/-- **When the conversion of the frames of a request stays inside.** `vixConfigPlayback` accepts
every request, whatever was requested before; the frames are converted without leaving the buffer
for the tiles and that of the application exactly when the request fits. -/
theorem conversion_inside_iff {malloc₀ : ℕ → Option UInt64} {d : Driver}
    (hinit : (vixInit malloc₀ d).1 = 0)
    (earlier : List ((ℕ → Option UInt64) × VidixPlayback)) (malloc : ℕ → Option UInt64)
    (info : VidixPlayback) :
    let before := afterRequests (vixInit malloc₀ d).2 earlier
    let answer := vixConfigPlayback malloc before info
    answer.1 = 0 ∧
      (FramesInside answer.2.1 answer.2.2 ↔ RequestFits (Granted malloc info.src) info.src) :=
  ⟨rfl, framesInside_iff (initialised_afterRequests (initialised_of_vixInit hinit) earlier) malloc
    info⟩

/-- Witness for `conversion_inside_iff`: a picture of the whole frame. -/
theorem conversion_inside_sample :
    (vixInit (fun _ => some 4096) probedDriver).1 = 0 ∧
      FramesInside (configured (wholeRequest 720 576)).2.1
        (configured (wholeRequest 720 576)).2.2 :=
  ⟨rfl, (conversion_inside_iff rfl [] (fun _ => some 4096) (wholeRequest 720 576)).2.mpr
    (requestFits_of_whole rfl rfl (by decide) (by decide) rfl)⟩

/-- A picture of 1280 × 1024 pixels is accepted, and its luma plane alone is converted beyond the
end of the buffer. -/
theorem conversion_outside :
    (configured (wholeRequest 1280 1024)).1 = 0 ∧
      ∃ fuel, ∃ m ∈ (vixPlaybackFrameSelect fuel (configured (wholeRequest 1280 1024)).2.1 0).moves,
        (outbufSize : ℤ) ≤ m.dst := by
  refine ⟨rfl, 100, yMove 0 0 0 0 1280 (1279, 1023), ?_, by decide⟩
  unfold configured
  rw [select_eq (by decide)]
  refine Trace.mem_andThen_left ?_ _
  rw [lumaRun_eq, yBlocks_eq (by decide) (by decide) (by decide) (by decide)]
  exact List.mem_map.mpr ⟨(1279, 1023), (mem_blockPixels (by decide) (by decide)).mpr
    ⟨by decide, by decide⟩, rfl⟩

end Vidix.Ivtv
