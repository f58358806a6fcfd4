import Vidix.Ivtv.Equiv.Blocks
import Vidix.Util.Holds
import Vidix.Util.Overwrite

/-!
# The tiles that the conversion fills

For a picture in the frame, the conversion puts each pixel to its place in the tiles and writes
nothing else.

* The luma plane of every rectangle that lies in the frame of 720 × 576 pixels:
  `deMacroY_tiles`.
* The chroma planes of every picture whose origin lies in the frame, whether the picture does or
  not: `deMacroUv_tiles`.  They stay in the buffer of 720 × 288 bytes iff the last pixel does, so a
  picture that sticks out of the frame can get out of it (`deMacroUv_outside`).
-/

namespace Vidix.Ivtv

open Util

/-! ### What the moves do to a buffer -/

/-- The buffer after the moves, which read the picture. -/
def perform (picture buffer : ℤ → UInt8) (ms : List Move) : ℤ → UInt8 :=
  writeAll buffer (ms.map fun m => (m.dst, picture m.src))

variable {picture buffer : ℤ → UInt8} {ms : List Move}

theorem map_fst_writes (picture : ℤ → UInt8) (ms : List Move) :
    (ms.map fun m => (m.dst, picture m.src)).map Prod.fst = ms.map Move.dst := by
  rw [List.map_map]
  rfl

theorem perform_of_mem (hnodup : (ms.map Move.dst).Nodup) {m : Move} (hm : m ∈ ms) :
    perform picture buffer ms m.dst = picture m.src := by
  refine writeAll_of_mem (v := picture m.src) ?_ (List.mem_map.mpr ⟨m, hm, rfl⟩) buffer
  rw [map_fst_writes]
  exact hnodup

theorem perform_of_not_mem {k : ℤ} (hk : ∀ m ∈ ms, m.dst ≠ k) :
    perform picture buffer ms k = buffer k := by
  refine writeAll_of_not_mem ?_ buffer
  rw [map_fst_writes]
  intro h
  obtain ⟨m, hm, hdst⟩ := List.mem_map.mp h
  exact hk m hm hdst

/-! ### Rounded rectangles -/

/-- The pixels of a rectangle whose origin is rounded down: `bw` and `bh` are the sizes of a tile,
`(x, y)` is the origin and `(right, bottom)` the corner behind the last pixel. -/
def InRounded (bw bh x y right bottom : ℕ) (p : ℕ × ℕ) : Prop :=
  x / bw * bw ≤ p.1 ∧ p.1 < right ∧ y / bh * bh ≤ p.2 ∧ p.2 < bottom

theorem toNat_roundedSize {mask o : Int32} {size : UInt32} {k x : ℕ} (ho : Holds o x)
    (hmask : mask.toUInt32.toNat = 2 ^ k - 1) (hsize : size.toNat + x < 2 ^ 32) :
    (roundedSize mask size o).toNat = size.toNat + x % 2 ^ k := by
  have hand : ((o &&& mask).toUInt32).toNat = x % 2 ^ k := by
    rw [Int32.toUInt32_and, UInt32.toNat_and, hmask, ho.toNat_toUInt32,
      Nat.and_two_pow_sub_one_eq_mod]
  have hmod : x % 2 ^ k ≤ x := Nat.mod_le _ _
  rw [roundedSize, UInt32.toNat_add, hand]
  exact Nat.mod_eq_of_lt (by omega)

theorem holds_roundedOrigin {mask o : Int32} {k x : ℕ} (ho : Holds o x)
    (hmask : mask.toUInt32.toNat = 2 ^ k - 1) (hk : k ≤ 32) :
    Holds (roundedOrigin mask o) (x / 2 ^ k * 2 ^ k) := ho.clearLow hmask hk

/-- The pixels of the rectangle in the order of the code. -/
def roundedPixels (bw bh x y m n : ℕ) : List (ℕ × ℕ) :=
  (blockPixels bw bh (m + x % bw) (n + y % bh)).map fun q => (x / bw * bw + q.1, y / bh * bh + q.2)

theorem mem_roundedPixels {bw bh x y m n : ℕ} (hbw : 0 < bw) (hbh : 0 < bh) {p : ℕ × ℕ} :
    p ∈ roundedPixels bw bh x y m n ↔ InRounded bw bh x y (x + m) (y + n) p := by
  have hx := Nat.div_add_mod' x bw
  have hy := Nat.div_add_mod' y bh
  simp only [roundedPixels, List.mem_map, mem_blockPixels hbw hbh, InRounded]
  constructor
  · rintro ⟨q, ⟨h1, h2⟩, rfl⟩
    exact ⟨by omega, by omega, by omega, by omega⟩
  · rintro ⟨h1, h2, h3, h4⟩
    exact ⟨(p.1 - x / bw * bw, p.2 - y / bh * bh), ⟨by omega, by omega⟩,
      Prod.ext (by simp only; omega) (by simp only; omega)⟩

theorem nodup_roundedPixels (bw bh x y m n : ℕ) : (roundedPixels bw bh x y m n).Nodup := by
  refine nodup_blockPixels.map fun q q' h => ?_
  rw [Prod.mk.injEq] at h
  exact Prod.ext (Nat.add_left_cancel h.1) (Nat.add_left_cancel h.2)

/-! ### The luma plane -/

/-- The plain conversion: pixel `p` of a picture of lines of `n` bytes to its tile. -/
def yPlain (src dst : ℤ) (n : ℕ) (p : ℕ × ℕ) : Move where
  dst := dst + tile p
  src := src + (p.2 * n + p.1 : ℕ)

/-- Different pixels of a line of 720 have different places. -/
theorem tile_injOn {p q : ℕ × ℕ} (hp : p.1 < 720) (hq : q.1 < 720) (h : tile p = tile q) :
    p = q := by
  unfold tile at h
  have hmod : p.1 % 16 = q.1 % 16 := by omega
  have hrow : p.2 % 16 = q.2 % 16 := by omega
  have hcolumn : p.1 / 16 = q.1 / 16 := by omega
  have hband : p.2 / 16 = q.2 / 16 := by omega
  exact Prod.ext (by omega) (by omega)

/-- The places of a frame. -/
theorem tile_lt {p : ℕ × ℕ} (hx : p.1 < 720) (hy : p.2 < 576) : tile p < 720 * 576 := by
  unfold tile
  omega

/-- The tiles of a picture whose origin is that of a tile. -/
theorem tile_add {x y : ℕ} (p : ℕ × ℕ) (hx : x % 16 = 0) (hy : y % 16 = 0) :
    tile (x + p.1, y + p.2) = 720 * y + 256 * (x / 16) + tile p := by
  simp only [tile]
  omega

section Luma

variable {src dst : ℤ} {srcX srcY width : Int32} {x y n : ℕ}

/-- What is copied for a pixel is the plain conversion, moved to the origin. -/
theorem yMove_eq_plain (hx : Holds srcX x) (hy : Holds srcY y) (hn : Holds width n)
    (hx16 : x % 16 = 0) (hy16 : y % 16 = 0) {p : ℕ × ℕ} (hcolumn : x ≤ 720)
    (hline : y + p.2 ≤ 576) (hwrap : 576 * n < 2 ^ 31) :
    yMove src dst srcX srcY width p = yPlain src dst n (x + p.1, y + p.2) := by
  have hmul : (y + p.2) * n ≤ 576 * n := Nat.mul_le_mul_right n hline
  rw [Nat.add_mul] at hmul
  have hplace : yPlace srcX srcY = (720 * y + 256 * (x / 16) : ℕ) := by
    have h720 := (show Holds 720 720 from rfl).mul hy (by omega)
    have h256 := (show Holds 256 256 from rfl).mul (hx.shiftRight (y := 4) (k := 4) (by decide))
      (by omega)
    unfold Holds at h720 h256
    rw [yPlace, h720, h256]
    norm_cast
  have hstart : yStart srcX srcY width = (x + y * n : ℕ) := by
    have hyn := hy.mul hn (by omega)
    unfold Holds at hx hyn
    rw [yStart, hx, hyn]
    norm_cast
  have hrow : (UInt32.ofNat p.2 * width.toUInt32).toNat = p.2 * n := by
    rw [UInt32.toNat_mul, toNat_ofNat_of_lt (by omega), hn.toNat_toUInt32]
    exact Nat.mod_eq_of_lt (by omega)
  rw [yMove, yPlain, tile_add p hx16 hy16, hplace, hstart, hrow, Move.mk.injEq]
  push_cast
  constructor <;> ring

/-- The whole conversion of a rectangle in the frame. -/
theorem deMacroY_eq {w h : UInt32} (hx : Holds srcX x) (hy : Holds srcY y) (hn : Holds width n)
    (hright : x + w.toNat ≤ 720) (hbottom : y + h.toNat ≤ 576) (hwrap : 576 * n < 2 ^ 31)
    (height : Int32) {fuel : ℕ} (hfuel : 45 < fuel) :
    deMacroY fuel src dst w h srcX srcY height width =
      ⟨(roundedPixels 16 16 x y w.toNat h.toNat).map (yPlain src dst n), true⟩ := by
  have hW : (roundedSize 15 w srcX).toNat = w.toNat + x % 2 ^ 4 :=
    toNat_roundedSize hx rfl (by omega)
  have hH : (roundedSize 15 h srcY).toNat = h.toNat + y % 2 ^ 4 :=
    toNat_roundedSize hy rfl (by omega)
  have hitemsW := items_le_div (P := 16) (by decide) (R := 720) ⟨45, rfl⟩
    (show (roundedSize 15 w srcX).toNat ≤ 720 by omega)
  have hitemsH := items_le_div (P := 16) (by decide) (R := 576) ⟨36, rfl⟩
    (show (roundedSize 15 h srcY).toNat ≤ 576 by omega)
  unfold deMacroY
  simp only [roundOrigin_eq]
  rw [yBlocks_eq (by omega) (by omega) (by omega) (by omega), hW, hH, roundedPixels, List.map_map]
  congr 1
  refine List.map_congr_left fun p hp => ?_
  obtain ⟨-, hp2⟩ := (mem_blockPixels (by decide) (by decide)).mp hp
  exact yMove_eq_plain (holds_roundedOrigin (k := 4) hx rfl (by decide))
    (holds_roundedOrigin (k := 4) hy rfl (by decide)) hn (by omega) (by omega) (by omega)
    (by omega) hwrap

/-- **The luma plane is put into its tiles.** Every rectangle in the frame, rounded as the code does
it, is copied pixel by pixel: pixel `(px, py)`, which is read at `py * n + px`, goes to its tile, no
other place and no place twice is written, and the places are those of the frame.  So the buffer has
the pixel there in the end, and is as before elsewhere. -/
theorem deMacroY_tiles {w h : UInt32} (hx : Holds srcX x) (hy : Holds srcY y) (hn : Holds width n)
    (hright : x + w.toNat ≤ 720) (hbottom : y + h.toNat ≤ 576) (hwrap : 576 * n < 2 ^ 31)
    (src dst : ℤ) (height : Int32) (fuel : ℕ) (hfuel : 45 < fuel) (picture buffer : ℤ → UInt8) :
    let t := deMacroY fuel src dst w h srcX srcY height width
    t.ended = true ∧
    (∀ m, m ∈ t.moves ↔
      ∃ p, InRounded 16 16 x y (x + w.toNat) (y + h.toNat) p ∧ m = yPlain src dst n p) ∧
    (t.moves.map Move.dst).Nodup ∧
    (∀ m ∈ t.moves, dst ≤ m.dst ∧ m.dst < dst + 720 * 576) ∧
    (∀ p, InRounded 16 16 x y (x + w.toNat) (y + h.toNat) p →
      perform picture buffer t.moves (dst + tile p) = picture (src + (p.2 * n + p.1 : ℕ))) ∧
    (∀ k, (∀ p, InRounded 16 16 x y (x + w.toNat) (y + h.toNat) p → k ≠ dst + tile p) →
      perform picture buffer t.moves k = buffer k) := by
  rw [deMacroY_eq hx hy hn hright hbottom hwrap height hfuel]
  have hmem : ∀ m, m ∈ (roundedPixels 16 16 x y w.toNat h.toNat).map (yPlain src dst n) ↔
      ∃ p, InRounded 16 16 x y (x + w.toNat) (y + h.toNat) p ∧ m = yPlain src dst n p := fun m => by
    simp only [List.mem_map, mem_roundedPixels (show 0 < 16 by decide) (show 0 < 16 by decide),
      eq_comm]
  have hnodup : (((roundedPixels 16 16 x y w.toNat h.toNat).map (yPlain src dst n)).map
      Move.dst).Nodup := by
    rw [List.map_map]
    refine (nodup_roundedPixels _ _ _ _ _ _).map_on fun p hp q hq hpq => ?_
    obtain ⟨-, hp, -⟩ := (mem_roundedPixels (by decide) (by decide)).mp hp
    obtain ⟨-, hq, -⟩ := (mem_roundedPixels (by decide) (by decide)).mp hq
    simp only [Function.comp_apply, yPlain, add_right_inj, Nat.cast_inj] at hpq
    exact tile_injOn (by omega) (by omega) hpq
  refine ⟨rfl, hmem, hnodup, ?_, ?_, ?_⟩
  · intro m hm
    obtain ⟨p, ⟨-, hp1, -, hp2⟩, rfl⟩ := (hmem m).mp hm
    have hlt := tile_lt (p := p) (by omega) (by omega)
    simp only [yPlain]
    omega
  · intro p hp
    exact perform_of_mem hnodup ((hmem _).mpr ⟨p, hp, rfl⟩)
  · intro k hk
    refine perform_of_not_mem fun m hm hdst => ?_
    obtain ⟨p, hp, rfl⟩ := (hmem m).mp hm
    exact hk p hp hdst.symm

/-- Witness for `deMacroY_tiles`: a picture of odd size in the frame, which is rounded in both
directions. -/
theorem deMacroY_tiles_sample :
    tile (20, 40) = 23428 ∧
      perform (fun a => UInt8.ofNat (a.toNat % 251)) (fun _ => 0)
        (deMacroY 50 0 0 23 39 5 7 39 60).moves 23428 = 161 := by
  obtain ⟨-, -, -, -, hplaces, -⟩ := deMacroY_tiles (w := 23) (h := 39)
    (show Holds 5 5 from rfl) (show Holds 7 7 from rfl) (show Holds 60 60 from rfl) (by decide)
    (by decide) (by decide) 0 0 39 50 (by decide) (fun a => UInt8.ofNat (a.toNat % 251))
    (fun _ => 0)
  have hplace := hplaces (20, 40) (by unfold InRounded; decide)
  rw [show (0 : ℤ) + tile (20, 40) = 23428 by decide] at hplace
  exact ⟨by decide, hplace.trans (by decide)⟩

end Luma

/-! ### The chroma planes -/

/-- The plain conversion: both samples of pixel `p`, which planes of lines of `n` bytes have, to its
tile. -/
def uvPlain (srcu srcv dst : ℤ) (n : ℕ) (p : ℕ × ℕ) : List Move :=
  [⟨dst + uvTile p, srcu + (p.2 * n + p.1 : ℕ)⟩, ⟨dst + uvTile p + 1, srcv + (p.2 * n + p.1 : ℕ)⟩]

/-- The place of a pixel grows with its column and its line. -/
theorem uvTile_le {p q : ℕ × ℕ} (hx : p.1 ≤ q.1) (hy : p.2 ≤ q.2) : uvTile p ≤ uvTile q := by
  unfold uvTile
  omega

/-- Different pixels of a line of 360 have different places. -/
theorem uvTile_injOn {p q : ℕ × ℕ} (hp : p.1 < 360) (hq : q.1 < 360)
    (h : uvTile p / 2 = uvTile q / 2) : p = q := by
  unfold uvTile at h
  have hmod : p.1 % 8 = q.1 % 8 := by omega
  have hrow : p.2 % 16 = q.2 % 16 := by omega
  have hcolumn : p.1 / 8 = q.1 / 8 := by omega
  have hband : p.2 / 16 = q.2 / 16 := by omega
  exact Prod.ext (by omega) (by omega)

theorem uvTile_even (p : ℕ × ℕ) : uvTile p % 2 = 0 := by
  unfold uvTile
  omega

/-- The places of the half of a frame. -/
theorem uvTile_lt {p : ℕ × ℕ} (hx : p.1 < 360) (hy : p.2 < 288) : uvTile p + 1 < 720 * 288 := by
  unfold uvTile
  omega

/-- The tiles of a picture whose origin is that of a tile. -/
theorem uvTile_add {x y : ℕ} (p : ℕ × ℕ) (hx : x % 8 = 0) (hy : y % 16 = 0) :
    uvTile (x + p.1, y + p.2) = 720 * y + 256 * (x / 8) + uvTile p := by
  simp only [uvTile]
  omega

section Chroma

variable {srcu srcv dst : ℤ} {srcX srcY width : Int32} {x y n : ℕ} {w h : UInt32}

/-- What is copied for a pixel is the plain conversion, moved to the origin, on the unrolled path
and on the other. -/
theorem uvMoves_eq_plain (hx : Holds srcX x) (hy : Holds srcY y) (hn : Holds width n)
    (hx8 : x % 8 = 0) (hy16 : y % 16 = 0) {p : ℕ × ℕ} (hcolumn : x + p.1 ≤ 720)
    (hline : y + p.2 ≤ 576) (hwrap : 576 * n < 2 ^ 30) :
    uvMoves srcu srcv dst w srcX srcY width p = uvPlain srcu srcv dst n (x + p.1, y + p.2) := by
  have hmul : (y + p.2) * n ≤ 576 * n := Nat.mul_le_mul_right n hline
  have hplace : uvPlace srcX srcY = (720 * y + 256 * (x / 8) : ℕ) := by
    have h720 := (show Holds 720 720 from rfl).mul hy (by omega)
    have h256 := (show Holds 256 256 from rfl).mul
      (hx.shiftRight (y := 3) (k := 3) (by decide)) (by omega)
    unfold Holds at h720 h256
    rw [uvPlace, h720, h256]
    norm_cast
  have hword : uvWord srcX srcY width p = UInt32.ofNat ((y + p.2) * n + (x + p.1)) := by
    rw [uvWord, Int32.toUInt32_mul, hx.toUInt32_eq, hy.toUInt32_eq, hn.toUInt32_eq,
      ← UInt32.ofNat_mul, ← UInt32.ofNat_mul, ← UInt32.ofNat_add, ← UInt32.ofNat_add,
      ← UInt32.ofNat_add]
    congr 1
    ring
  have hindex : uvIndex w srcX srcY width p = ((y + p.2) * n + (x + p.1) : ℕ) := by
    rw [uvIndex, hword]
    have hnat := toNat_ofNat_of_lt (n := (y + p.2) * n + (x + p.1)) (by omega)
    split_ifs
    · rw [toInt_toInt32, hnat, if_pos (by omega)]
    · rw [hnat]
  rw [uvMoves, uvPlain, uvTile_add p hx8 hy16, hplace, hindex]
  push_cast
  simp only [add_assoc]

/-- The whole conversion of a picture whose origin is in the frame. -/
theorem deMacroUv_eq (hx : Holds srcX x) (hy : Holds srcY y) (hn : Holds width n)
    (hcolumn : x < 720) (hline : y < 576) (hw : w.toNat ≤ 720) (hh : h.toNat ≤ 576)
    (hwrap : 576 * n < 2 ^ 31) (height : Int32) {fuel : ℕ} (hfuel : 46 < fuel) :
    deMacroUv fuel srcu srcv dst w h srcX srcY height width =
      ⟨(roundedPixels 8 16 (x / 2) (y / 2) (w.toNat / 2) (h.toNat / 2)).flatMap
        (uvPlain srcu srcv dst (n / 2)), true⟩ := by
  have htwo : Holds 2 2 := rfl
  have hw2 : (w / 2).toNat = w.toNat / 2 := UInt32.toNat_div w 2
  have hh2 : (h / 2).toNat = h.toNat / 2 := UInt32.toNat_div h 2
  have hx2 := hx.div htwo
  have hy2 := hy.div htwo
  have hW : (roundedSize 7 (w / 2) (srcX / 2)).toNat = (w / 2).toNat + x / 2 % 2 ^ 3 :=
    toNat_roundedSize hx2 rfl (by omega)
  have hH : (roundedSize 15 (h / 2) (srcY / 2)).toNat = (h / 2).toNat + y / 2 % 2 ^ 4 :=
    toNat_roundedSize hy2 rfl (by omega)
  have hitemsW := items_le_div (P := 8) (by decide) (R := 368) ⟨46, rfl⟩
    (show (roundedSize 7 (w / 2) (srcX / 2)).toNat ≤ 368 by omega)
  have hitemsH := items_le_div (P := 16) (by decide) (R := 304) ⟨19, rfl⟩
    (show (roundedSize 15 (h / 2) (srcY / 2)).toNat ≤ 304 by omega)
  unfold deMacroUv
  simp only [roundOrigin_eq]
  rw [uvBlocks_eq (by omega) (by omega) (by omega) (by omega), hW, hH, roundedPixels,
    List.flatMap_map, hw2, hh2]
  congr 1
  refine List.flatMap_congr fun p hp => ?_
  obtain ⟨hp1, hp2⟩ := (mem_blockPixels (by decide) (by decide)).mp hp
  exact uvMoves_eq_plain (holds_roundedOrigin (k := 3) hx2 rfl (by decide))
    (holds_roundedOrigin (k := 4) hy2 rfl (by decide)) (hn.div htwo) (by omega) (by omega)
    (by omega) (by omega) (by omega)

/-- The two places of a pixel. -/
theorem dst_of_mem_uvPlain {m : Move} {p : ℕ × ℕ} (hm : m ∈ uvPlain srcu srcv dst n p) :
    m.dst = dst + uvTile p ∨ m.dst = dst + uvTile p + 1 := by
  rcases List.mem_pair.mp hm with rfl | rfl
  · exact .inl rfl
  · exact .inr rfl

variable {m k : ℕ}

/-- No place is written twice where lines have 360 pixels. -/
theorem nodup_uvPlain (hright : x + m ≤ 360) :
    (((roundedPixels 8 16 x y m k).flatMap (uvPlain srcu srcv dst n)).map Move.dst).Nodup := by
  rw [List.map_flatMap, List.nodup_flatMap]
  refine ⟨fun p _ => ?_, ?_⟩
  · rw [uvPlain, List.map_cons, List.map_singleton, List.nodup_cons]
    refine ⟨fun h => ?_, List.nodup_singleton _⟩
    have heq : dst + (uvTile p : ℤ) = dst + uvTile p + 1 := List.mem_singleton.mp h
    omega
  refine (nodup_roundedPixels 8 16 x y m k).imp_of_mem fun {p q} hp hq hpq => ?_
  obtain ⟨-, hp, -⟩ := (mem_roundedPixels (by decide) (by decide)).mp hp
  obtain ⟨-, hq, -⟩ := (mem_roundedPixels (by decide) (by decide)).mp hq
  intro d hd hd'
  obtain ⟨a, ha, rfl⟩ := List.mem_map.mp hd
  obtain ⟨b, hb, hab⟩ := List.mem_map.mp hd'
  refine hpq (uvTile_injOn (by omega) (by omega) ?_)
  have hp2 := uvTile_even p
  have hq2 := uvTile_even q
  rcases dst_of_mem_uvPlain ha with h1 | h1 <;> rcases dst_of_mem_uvPlain hb with h2 | h2 <;> omega

/-- **All of a plane stays inside iff its last pixel does.** -/
theorem uvPlain_inside_iff {size : ℕ} :
    (∀ a ∈ (roundedPixels 8 16 x y m k).flatMap (uvPlain srcu srcv dst n),
      dst ≤ a.dst ∧ a.dst < dst + size) ↔
    m + x % 8 = 0 ∨ k + y % 16 = 0 ∨ uvTile (x + m - 1, y + k - 1) + 1 < size := by
  have hmem : ∀ p, p ∈ roundedPixels 8 16 x y m k ↔ InRounded 8 16 x y (x + m) (y + k) p :=
    fun p => mem_roundedPixels (by decide) (by decide)
  constructor
  · intro h
    rw [or_iff_not_imp_left, or_iff_not_imp_left]
    intro hm hk
    have hlast : (x + m - 1, y + k - 1) ∈ roundedPixels 8 16 x y m k :=
      (hmem _).mpr ⟨by simp only; omega, by simp only; omega, by simp only; omega,
        by simp only; omega⟩
    have hlt := (h _ (List.mem_flatMap.mpr ⟨_, hlast, List.mem_cons_of_mem _
      (List.mem_singleton_self _)⟩)).2
    simp only at hlt
    omega
  · intro h a ha
    obtain ⟨p, hp, ha⟩ := List.mem_flatMap.mp ha
    obtain ⟨h1, h2, h3, h4⟩ := (hmem p).mp hp
    have hle := uvTile_le (p := p) (q := (x + m - 1, y + k - 1)) (by simp only; omega)
      (by simp only; omega)
    rcases dst_of_mem_uvPlain ha with hdst | hdst <;> omega

/-- **The chroma planes are put into their tiles.** For every picture of at most 720 × 576 pixels
whose origin is in the frame, the samples of pixel `(cx, cy)` of the half-size rectangle, rounded as
the code does it, go to the two places of its tile, on the unrolled path and on the other, and no
other place is written.  They stay in the buffer iff those of the last pixel do.  In a rectangle
that lies in the half-size frame no place is written twice, and the buffer has the samples there in
the end and is as before elsewhere. -/
theorem deMacroUv_tiles (hx : Holds srcX x) (hy : Holds srcY y) (hn : Holds width n)
    (hcolumn : x < 720) (hline : y < 576) (hw : w.toNat ≤ 720) (hh : h.toNat ≤ 576)
    (hwrap : 576 * n < 2 ^ 31) (srcu srcv dst : ℤ) (height : Int32) (fuel : ℕ) (hfuel : 46 < fuel)
    (picture buffer : ℤ → UInt8) :
    let t := deMacroUv fuel srcu srcv dst w h srcX srcY height width
    let right := x / 2 + w.toNat / 2
    let bottom := y / 2 + h.toNat / 2
    let inside := ∀ a ∈ t.moves, dst ≤ a.dst ∧ a.dst < dst + (720 * 288 : ℕ)
    t.ended = true ∧
    (∀ a, a ∈ t.moves ↔
      ∃ p, InRounded 8 16 (x / 2) (y / 2) right bottom p ∧
        a ∈ uvPlain srcu srcv dst (n / 2) p) ∧
    (inside ↔ w.toNat / 2 + x / 2 % 8 = 0 ∨ h.toNat / 2 + y / 2 % 16 = 0 ∨
      uvTile (right - 1, bottom - 1) + 1 < 720 * 288) ∧
    (right ≤ 360 → bottom ≤ 288 →
      inside ∧ (t.moves.map Move.dst).Nodup ∧
      (∀ p, InRounded 8 16 (x / 2) (y / 2) right bottom p →
        perform picture buffer t.moves (dst + uvTile p) =
          picture (srcu + (p.2 * (n / 2) + p.1 : ℕ)) ∧
        perform picture buffer t.moves (dst + uvTile p + 1) =
          picture (srcv + (p.2 * (n / 2) + p.1 : ℕ))) ∧
      (∀ d, (∀ p, InRounded 8 16 (x / 2) (y / 2) right bottom p →
          d ≠ dst + uvTile p ∧ d ≠ dst + uvTile p + 1) →
        perform picture buffer t.moves d = buffer d)) := by
  rw [deMacroUv_eq hx hy hn hcolumn hline hw hh hwrap height hfuel]
  intro t right bottom inside
  have hmem : ∀ a, a ∈ t.moves ↔ ∃ p, InRounded 8 16 (x / 2) (y / 2) right bottom p ∧
      a ∈ uvPlain srcu srcv dst (n / 2) p := fun a => by
    simp only [t, List.mem_flatMap, right, bottom,
      mem_roundedPixels (show 0 < 8 by decide) (show 0 < 16 by decide)]
  have hinside : inside ↔ _ := uvPlain_inside_iff
  refine ⟨rfl, hmem, hinside, fun hright hbottom => ?_⟩
  have hnodup : (t.moves.map Move.dst).Nodup := nodup_uvPlain hright
  refine ⟨fun a ha => ?_, hnodup, fun p hp => ⟨?_, ?_⟩, fun d hd => ?_⟩
  · obtain ⟨p, ⟨-, h1, -, h2⟩, ha⟩ := (hmem a).mp ha
    have hlt := uvTile_lt (p := p) (by omega) (by omega)
    rcases dst_of_mem_uvPlain ha with hdst | hdst <;> omega
  · exact perform_of_mem hnodup ((hmem _).mpr ⟨p, hp, List.mem_cons_self⟩)
  · exact perform_of_mem hnodup
      ((hmem _).mpr ⟨p, hp, List.mem_cons_of_mem _ (List.mem_singleton_self _)⟩)
  · refine perform_of_not_mem fun a ha hdst => ?_
    obtain ⟨p, hp, ha⟩ := (hmem a).mp ha
    obtain ⟨h1, h2⟩ := hd p hp
    rcases dst_of_mem_uvPlain ha with h | h
    · exact h1 (hdst.symm.trans h)
    · exact h2 (hdst.symm.trans h)

/-- Witness for `deMacroUv_tiles`: a picture of odd size in the frame, which is rounded in both
directions. -/
theorem deMacroUv_tiles_sample :
    uvTile (11, 20) = 11846 ∧
      perform (fun a => UInt8.ofNat (a.toNat % 251)) (fun _ => 0)
        (deMacroUv 50 0 5000 0 23 39 5 7 39 60).moves 11846 = 109 := by
  obtain ⟨-, -, -, h⟩ := deMacroUv_tiles (w := 23) (h := 39)
    (show Holds 5 5 from rfl) (show Holds 7 7 from rfl) (show Holds 60 60 from rfl) (by decide)
    (by decide) (by decide) (by decide) (by decide) 0 5000 0 39 50 (by decide)
    (fun a => UInt8.ofNat (a.toNat % 251)) (fun _ => 0)
  obtain ⟨-, -, hplaces, -⟩ := h (by decide) (by decide)
  have hplace := (hplaces (11, 20) (by unfold InRounded; decide)).1
  rw [show (0 : ℤ) + uvTile (11, 20) = 11846 by decide] at hplace
  exact ⟨by decide, hplace.trans (by decide)⟩

/-- A picture whose origin is in the frame and whose size is that of the frame is converted out of
the buffer when it does not begin at the left. -/
theorem deMacroUv_outside :
    ∃ a ∈ (deMacroUv 50 0 0 0 720 576 16 0 576 720).moves, a.dst = 720 * 288 + 255 := by
  have hlast : (367, 287) ∈ roundedPixels 8 16 (16 / 2) (0 / 2) (720 / 2) (576 / 2) :=
    (mem_roundedPixels (by decide) (by decide)).mpr
      ⟨by simp only; omega, by simp only; omega, by simp only; omega, by simp only; omega⟩
  rw [deMacroUv_eq (show Holds 16 16 from rfl) (show Holds 0 0 from rfl)
    (show Holds 720 720 from rfl) (by decide) (by decide) (by decide) (by decide) (by decide) 576
    (by decide)]
  refine ⟨_, List.mem_flatMap.mpr ⟨_, hlast, List.mem_cons_of_mem _ (List.mem_singleton_self _)⟩,
    ?_⟩
  decide

end Chroma

end Vidix.Ivtv
