import Vidix.Ivtv.Convert
import Vidix.Util.Blocks
import Vidix.Util.Signed

/-!
# The conversion, pixel by pixel

The loops of `de_macro_y` and `de_macro_uv` go through the picture block by block, and the blocks
at the right and the bottom are cut (`overBlocks_eq`).  What a block copies is said by the tile of
each of its pixels: `deMacroY_eq` and `deMacroUv_eq` are the whole conversion for pictures that a
place in the buffer is not too small a word for.
-/

namespace Vidix.Ivtv

open Util

/-! ### Rounding the origin -/

/-- The size of a line or column, enlarged by as much as its origin is rounded down. -/
def roundedSize (mask : Int32) (size : UInt32) (o : Int32) : UInt32 := size + (o &&& mask).toUInt32

/-- The origin, rounded down. -/
def roundedOrigin (mask o : Int32) : Int32 := o &&& ~~~mask

theorem and_not_of_and_eq_zero {x m : Int32} (h : x &&& m = 0) : x &&& ~~~m = x := by
  have hbits : x.toBitVec &&& m.toBitVec = 0 := congrArg Int32.toBitVec h
  apply Int32.toBitVec_inj.mp
  show x.toBitVec &&& ~~~m.toBitVec = x.toBitVec
  apply BitVec.eq_of_getLsbD_eq
  intro i hi
  have hbit := congrArg (fun v => v.getLsbD i) hbits
  simp only [BitVec.getLsbD_and, BitVec.ofNat_eq_ofNat, BitVec.getLsbD_zero] at hbit
  rw [BitVec.getLsbD_and, BitVec.getLsbD_not, decide_eq_true hi, Bool.true_and]
  cases hx : x.toBitVec.getLsbD i with
  | false => rfl
  | true =>
    rw [hx, Bool.true_and] at hbit
    rw [hbit]
    rfl

theorem roundOrigin_eq (mask : Int32) (size : UInt32) (o : Int32) :
    roundOrigin mask size o = (roundedSize mask size o, roundedOrigin mask o) := by
  unfold roundOrigin roundedSize roundedOrigin
  by_cases h : o &&& mask = 0
  · rw [if_neg (not_not.mpr h), h, and_not_of_and_eq_zero h, show (0 : Int32).toUInt32 = 0 from rfl,
      UInt32.add_zero]
  · rw [if_pos h]

/-! ### The loops -/

/-- The lines of a block, when each moves the pointer on by 16. -/
theorem overLines_eq {line : UInt32 → ℤ → List Move × ℤ} (hline : ∀ i p, (line i p).2 = p + 16)
    (n : ℕ) (i : UInt32) (dst2 : ℤ) :
    overLines line n i dst2 =
      (List.range n).flatMap fun k => (line (i + UInt32.ofNat k) (dst2 + 16 * k)).1 := by
  induction n generalizing i dst2 with
  | zero => rfl
  | succ n ih =>
    rw [overLines, ih, hline, List.range_succ_eq_map, List.flatMap_cons, List.flatMap_map]
    congr 1
    · rw [Nat.cast_zero, mul_zero, add_zero]
      exact congrArg (fun i => (line i dst2).1) (UInt32.add_zero i).symm
    · congr 1
      funext k
      have hi : i + 1 + UInt32.ofNat k = i + UInt32.ofNat (k + 1) := by
        rw [Nat.add_comm k, UInt32.ofNat_add, ← UInt32.add_assoc]
        rfl
      have hp : dst2 + 16 + 16 * (k : ℤ) = dst2 + 16 * ((k + 1 : ℕ) : ℤ) := by
        push_cast
        ring
      rw [hi, hp]

/-- `if (x + b > w) .. = w & (b - 1); else .. = b;`: how much of a block is inside. -/
theorem cut_eq {b x : ℕ} {w bw mask : UInt32} {k : ℕ} (hb : b = 2 ^ k) (hbw : bw = UInt32.ofNat b)
    (hmask : mask.toNat = 2 ^ k - 1) {c : ℕ} (hx : x = c * b) (hlt : x < w.toNat)
    (hwrap : x + b < 2 ^ 32) :
    (if UInt32.ofNat x + bw > w then w &&& mask else bw) = UInt32.ofNat (pieceLen b w.toNat c) := by
  have hsum : (UInt32.ofNat x + bw).toNat = x + b := by
    rw [hbw, ← UInt32.ofNat_add, UInt32.toNat_ofNat_of_lt' hwrap]
  unfold pieceLen
  rw [← hx]
  by_cases h : UInt32.ofNat x + bw > w
  · have hcut : w.toNat < x + b := by
      rw [← hsum]
      exact UInt32.lt_iff_toNat_lt.mp h
    have hsplit : b * c + (w.toNat - x) = w.toNat := by
      rw [Nat.mul_comm]
      omega
    have hmod : w.toNat % b = w.toNat - x := by
      rw [← hsplit, Nat.mul_add_mod, hsplit]
      exact Nat.mod_eq_of_lt (by omega)
    rw [if_pos h, Nat.min_eq_right (by omega)]
    apply UInt32.toNat_inj.mp
    rw [UInt32.toNat_and, hmask, Nat.and_two_pow_sub_one_eq_mod, ← hb, hmod,
      UInt32.toNat_ofNat_of_lt' (lt_of_le_of_lt (Nat.sub_le _ _) w.toNat_lt)]
  · have hfull : x + b ≤ w.toNat := by
      rw [← hsum]
      exact UInt32.le_iff_toNat_le.mp (UInt32.not_lt.mp h)
    rw [if_neg h, Nat.min_eq_left (by omega), hbw]

/-- `h_size` before round `r`. -/
def hSizeBefore (H : ℕ) : ℕ → UInt32
  | 0 => 16
  | r + 1 => UInt32.ofNat (pieceLen 16 H r)

variable {b : ℕ} {w h : UInt32} {block : UInt32 → UInt32 → UInt32 → List Move}

theorem hSizeBefore_eq {H r : ℕ} (hr : r * 16 < H) : hSizeBefore H r = 16 := by
  cases r with
  | zero => rfl
  | succ r => rw [hSizeBefore, pieceLen, Nat.min_eq_left (by omega)]; rfl

/-- `h_size` in round `r`. -/
theorem hSize_eq {r : ℕ} (hr : r * 16 < h.toNat) (hwrap : r * 16 + 16 < 2 ^ 32) :
    (if UInt32.ofNat (r * 16) + 16 > h then h &&& 15 else hSizeBefore h.toNat r) =
      UInt32.ofNat (pieceLen 16 h.toNat r) := by
  rw [hSizeBefore_eq hr]
  exact cut_eq (k := 4) rfl rfl rfl rfl hr hwrap

/-- The blocks of one row. -/
theorem blockRow_eq (hb : 0 < b) (hw : w.toNat + b ≤ 2 ^ 32) (y hSize : UInt32) {fuel : ℕ}
    (hfuel : items b w.toNat < fuel) :
    forLoop w (UInt32.ofNat b) (fun x (_ : Unit) => (⟨block x y hSize, true⟩, ())) fuel 0 () =
      ⟨(List.range (items b w.toNat)).flatMap fun c => block (UInt32.ofNat (c * b)) y hSize,
        true⟩ :=
  forLoop_eq (fun _ => ()) hb hw (fun _ _ => rfl) hfuel

/-- **The blocks in order**, where the counters do not wrap. -/
theorem overBlocks_eq (hb : 0 < b) (hw : w.toNat + b ≤ 2 ^ 32) (hh : h.toNat + 16 ≤ 2 ^ 32)
    {fuel : ℕ} (hfuelw : items b w.toNat < fuel) (hfuelh : items 16 h.toNat < fuel) :
    overBlocks fuel (UInt32.ofNat b) w h block =
      ⟨(List.range (items 16 h.toNat)).flatMap fun r =>
        (List.range (items b w.toNat)).flatMap fun c =>
          block (UInt32.ofNat (c * b)) (UInt32.ofNat (r * 16))
            (UInt32.ofNat (pieceLen 16 h.toNat r)), true⟩ := by
  refine forLoop_eq (hSizeBefore h.toNat) (by decide) hh (fun r hr => ?_) hfuelh
  have hlt := mul_lt_of_lt_items (by decide) hr
  simp only [hSize_eq hlt (by omega), blockRow_eq hb hw _ _ hfuelw]
  rfl

/-- A block of the first row is copied, however wide the picture is. -/
theorem mem_overBlocks_row {c : ℕ} (hc : c * b < w.toNat) (hh : 0 < h.toNat) {m : Move}
    (hm : m ∈ block (UInt32.ofNat (c * b)) 0 (UInt32.ofNat (pieceLen 16 h.toNat 0))) :
    ∃ fuel, m ∈ (overBlocks fuel (UInt32.ofNat b) w h block).moves := by
  refine ⟨c + 1, mem_forLoop (b := 16) (k := 0) (hSizeBefore h.toNat) (fun _ => []) (by omega)
    (fun _ hj => absurd hj (Nat.not_lt_zero _)) ?_ (Nat.succ_pos c)⟩
  have hsize := hSize_eq (r := 0) (h := h) (by omega) (by omega)
  simp only [hsize]
  exact mem_forLoop (fun _ => ()) _ hc (fun _ _ => rfl) hm (Nat.lt_succ_self c)

/-- A block of the first column is copied, however high the picture is. -/
theorem mem_overBlocks_column {r : ℕ} (hb : 0 < b) (hw : w.toNat + b ≤ 2 ^ 32)
    (hr : r * 16 < h.toNat) (hwrap : r * 16 + 16 < 2 ^ 32) (hpos : 0 < w.toNat) {m : Move}
    (hm : m ∈ block 0 (UInt32.ofNat (r * 16)) (UInt32.ofNat (pieceLen 16 h.toNat r))) :
    ∃ fuel, m ∈ (overBlocks fuel (UInt32.ofNat b) w h block).moves := by
  have hrow : ∀ y hSize, forLoop w (UInt32.ofNat b)
      (fun x (_ : Unit) => (⟨block x y hSize, true⟩, ())) (r + items b w.toNat + 1) 0 () = _ :=
    fun y hSize => blockRow_eq hb hw y hSize (by omega)
  refine ⟨r + items b w.toNat + 1, mem_forLoop (b := 16) (k := r) (hSizeBefore h.toNat)
    (fun r => (List.range (items b w.toNat)).flatMap fun c =>
      block (UInt32.ofNat (c * b)) (UInt32.ofNat (r * 16)) (UInt32.ofNat (pieceLen 16 h.toNat r)))
    (by omega) (fun j hj => ?_) ?_ (by omega)⟩
  · simp only [hSize_eq (r := j) (h := h) (by omega) (by omega), hrow]
    rfl
  · simp only [hSize_eq hr hwrap, hrow]
    refine List.mem_flatMap.mpr ⟨0, List.mem_range.mpr ?_, ?_⟩
    · have hitems := div_lt_items hb hpos
      rwa [Nat.zero_div] at hitems
    · rw [Nat.zero_mul]
      exact hm

/-- More fuel carries the conversion on. -/
theorem overBlocks_mono (bw : UInt32) {n m : ℕ} (hnm : n ≤ m) :
    (overBlocks m bw w h block).Extends (overBlocks n bw w h block) := by
  unfold overBlocks
  refine forLoop_mono (fun y hSize => ?_) (fun y hSize => ?_) hnm _ _
  · exact forLoop_mono (fun _ _ => .refl _) (fun _ _ => rfl) hnm _ _
  · rfl

/-- A picture without columns or without lines is not copied. -/
theorem overBlocks_empty (hempty : w.toNat = 0 ∨ h.toNat = 0) (bw : UInt32) (fuel : ℕ) :
    ∀ m ∈ (overBlocks fuel bw w h block).moves, False := by
  refine forall_mem_forLoop (fun y hSize hy => ?_) fuel 0 16
  refine forall_mem_forLoop (fun x _ hx => ?_) fuel 0 ()
  have hy := UInt32.lt_iff_toNat_lt.mp hy
  have hx := UInt32.lt_iff_toNat_lt.mp hx
  exact absurd hempty (by omega)

/-- The first pixel of a block is one of the block. -/
theorem corner_mem_blockAt {r c : ℕ} (hb : 0 < b) (hc : c * b < w.toNat) (hr : r * 16 < h.toNat) :
    (c * b, r * 16) ∈ blockAt b 16 w.toNat h.toNat r c := by
  refine mem_blockAt.mpr ⟨0, ?_, 0, ?_, rfl⟩
  · unfold pieceLen
    omega
  · unfold pieceLen
    omega

section Pixels

variable {moves : ℕ × ℕ → List Move}

/-- **The pixels in order**, for a block that is said by its pixels. -/
theorem overBlocks_pixels (hb : 0 < b) (hw : w.toNat + b ≤ 2 ^ 32) (hh : h.toNat + 16 ≤ 2 ^ 32)
    (hblock : ∀ c r, c * b < w.toNat → r * 16 < h.toNat →
      block (UInt32.ofNat (c * b)) (UInt32.ofNat (r * 16))
        (UInt32.ofNat (pieceLen 16 h.toNat r)) =
          (blockAt b 16 w.toNat h.toNat r c).flatMap moves)
    {fuel : ℕ} (hfuelw : items b w.toNat < fuel) (hfuelh : items 16 h.toNat < fuel) :
    overBlocks fuel (UInt32.ofNat b) w h block =
      ⟨(blockPixels b 16 w.toNat h.toNat).flatMap moves, true⟩ := by
  rw [overBlocks_eq hb hw hh hfuelw hfuelh, blockPixels, List.flatMap_assoc]
  congr 1
  refine List.flatMap_congr fun r hr => ?_
  have hr := mul_lt_of_lt_items (by decide) (List.mem_range.mp hr)
  rw [List.flatMap_assoc]
  refine List.flatMap_congr fun c hc => ?_
  exact hblock c r (mul_lt_of_lt_items hb (List.mem_range.mp hc)) hr

/-- The first pixel of a block of the first row is copied. -/
theorem mem_overBlocks_of_top {c : ℕ} (hb : 0 < b) (hc : c * b < w.toNat) (hh : 0 < h.toNat)
    (hblock : block (UInt32.ofNat (c * b)) (UInt32.ofNat (0 * 16))
      (UInt32.ofNat (pieceLen 16 h.toNat 0)) =
        (blockAt b 16 w.toNat h.toNat 0 c).flatMap moves) :
    ∀ m ∈ moves (c * b, 0), ∃ fuel, m ∈ (overBlocks fuel (UInt32.ofNat b) w h block).moves := by
  intro m hm
  rw [Nat.zero_mul] at hblock
  refine mem_overBlocks_row hc hh ?_
  rw [show (0 : UInt32) = UInt32.ofNat 0 from rfl, hblock]
  have hcorner := corner_mem_blockAt (r := 0) (h := h) hb hc (by omega)
  rw [Nat.zero_mul] at hcorner
  exact List.mem_flatMap.mpr ⟨_, hcorner, hm⟩

/-- The first pixel of a block of the first column is copied. -/
theorem mem_overBlocks_of_left {r : ℕ} (hb : 0 < b) (hw : w.toNat + b ≤ 2 ^ 32)
    (hpos : 0 < w.toNat) (hr : r * 16 < h.toNat) (hwrap : r * 16 + 16 < 2 ^ 32)
    (hblock : block (UInt32.ofNat (0 * b)) (UInt32.ofNat (r * 16))
      (UInt32.ofNat (pieceLen 16 h.toNat r)) =
        (blockAt b 16 w.toNat h.toNat r 0).flatMap moves) :
    ∀ m ∈ moves (0, r * 16), ∃ fuel, m ∈ (overBlocks fuel (UInt32.ofNat b) w h block).moves := by
  intro m hm
  rw [Nat.zero_mul] at hblock
  refine mem_overBlocks_column hb hw hr hwrap hpos ?_
  rw [show (0 : UInt32) = UInt32.ofNat 0 from rfl, hblock]
  have hcorner := corner_mem_blockAt (c := 0) (w := w) (h := h) hb (by omega) hr
  rw [Nat.zero_mul] at hcorner
  exact List.mem_flatMap.mpr ⟨_, hcorner, hm⟩

/-- **What all of a conversion does**, for any fuel, is what is done for the pixels, if a picture of
more than `cmax` columns or `rmax` rows of blocks does what is not wanted. -/
theorem overBlocks_forall_iff (block : UInt32 → UInt32 → UInt32 → List Move)
    (moves : ℕ × ℕ → List Move) (Q : Move → Prop) (cmax rmax : ℕ) (hb : 0 < b)
    (hcmax : cmax * b + b ≤ 2 ^ 32) (hrmax : rmax * 16 + 16 < 2 ^ 32)
    (hblock : ∀ c r, c * b < w.toNat → c ≤ cmax → r ≤ rmax →
      block (UInt32.ofNat (c * b)) (UInt32.ofNat (r * 16))
        (UInt32.ofNat (pieceLen 16 h.toNat r)) =
          (blockAt b 16 w.toNat h.toNat r c).flatMap moves)
    (hcolumn : (∀ m ∈ moves (0, 0), Q m) → ¬ ∀ m ∈ moves (cmax * b, 0), Q m)
    (hrow : (∀ m ∈ moves (0, 0), Q m) → ¬ ∀ m ∈ moves (0, rmax * 16), Q m) :
    (∀ fuel, ∀ m ∈ (overBlocks fuel (UInt32.ofNat b) w h block).moves, Q m) ↔
      w.toNat = 0 ∨ h.toNat = 0 ∨ (w.toNat ≤ cmax * b ∧ h.toNat ≤ rmax * 16 ∧
        ∀ p : ℕ × ℕ, p.1 < w.toNat → p.2 < h.toNat → ∀ m ∈ moves p, Q m) := by
  have hpixels : w.toNat ≤ cmax * b → h.toNat ≤ rmax * 16 → ∀ fuel, items b w.toNat < fuel →
      items 16 h.toNat < fuel → overBlocks fuel (UInt32.ofNat b) w h block =
        ⟨(blockPixels b 16 w.toNat h.toNat).flatMap moves, true⟩ := fun hW hH fuel hw hh =>
    overBlocks_pixels hb (by omega) (by omega) (fun c r hc hr => hblock c r hc
      (Nat.le_of_lt (Nat.lt_of_mul_lt_mul_right (hc.trans_le hW))) (by omega)) hw hh
  constructor
  · intro hall
    rw [or_iff_not_imp_left, or_iff_not_imp_left]
    intro hw hh
    have htop : ∀ c ≤ cmax, c * b < w.toNat → ∀ m ∈ moves (c * b, 0), Q m := fun c hc hlt m hm => by
      obtain ⟨fuel, hmem⟩ := mem_overBlocks_of_top hb hlt (by omega)
        (hblock c 0 hlt hc (Nat.zero_le _)) m hm
      exact hall fuel m hmem
    have hfirst : ∀ m ∈ moves (0, 0), Q m := by
      have hzero := htop 0 (Nat.zero_le _) (by omega)
      rwa [Nat.zero_mul] at hzero
    have hW : w.toNat ≤ cmax * b := by
      by_contra hlt
      exact hcolumn hfirst (htop cmax le_rfl (by omega))
    have hH : h.toNat ≤ rmax * 16 := by
      by_contra hlt
      refine hrow hfirst fun m hm => ?_
      obtain ⟨fuel, hmem⟩ := mem_overBlocks_of_left hb (by omega) (by omega)
        (show rmax * 16 < h.toNat by omega) hrmax
        (hblock 0 rmax (by omega) (Nat.zero_le _) le_rfl) m hm
      exact hall fuel m hmem
    refine ⟨hW, hH, fun p hp1 hp2 m hm => ?_⟩
    refine hall (items b w.toNat + items 16 h.toNat + 1) m ?_
    rw [hpixels hW hH _ (by omega) (by omega)]
    exact List.mem_flatMap.mpr ⟨p, (mem_blockPixels hb (by decide)).mpr ⟨hp1, hp2⟩, hm⟩
  · rintro (hw | hh | ⟨hW, hH, hall⟩) fuel m hm
    · exact (overBlocks_empty (.inl hw) _ fuel m hm).elim
    · exact (overBlocks_empty (.inr hh) _ fuel m hm).elim
    · -- a run with more fuel does all of the pixels
      have hmore := (overBlocks_mono (UInt32.ofNat b)
        (show fuel ≤ fuel + items b w.toNat + items 16 h.toNat + 1 by omega)).moves.subset hm
      rw [hpixels hW hH _ (by omega) (by omega)] at hmore
      obtain ⟨p, hp, hm⟩ := List.mem_flatMap.mp hmore
      obtain ⟨hp1, hp2⟩ := (mem_blockPixels hb (by decide)).mp hp
      exact hall p hp1 hp2 m hm

end Pixels

/-! ### The luma plane -/

/-- The place of a pixel in the tiles of the luma plane: tiles of 16 × 16 pixels, 45 of them next to
each other. -/
def tile (p : ℕ × ℕ) : ℕ := 720 * 16 * (p.2 / 16) + 256 * (p.1 / 16) + 16 * (p.2 % 16) + p.1 % 16

/-- Where the tiles begin for an origin that is rounded. -/
def yPlace (srcX srcY : Int32) : ℤ := (720 * srcY).toInt + ((256 : Int32) * (srcX >>> 4)).toInt

/-- Where the picture begins for an origin that is rounded. -/
def yStart (srcX srcY width : Int32) : ℤ := srcX.toInt + (srcY * width).toInt

/-- What is copied for a pixel. -/
def yMove (src dst : ℤ) (srcX srcY width : Int32) (p : ℕ × ℕ) : Move where
  dst := dst + yPlace srcX srcY + tile p
  src := src + yStart srcX srcY width + p.1 + (UInt32.ofNat p.2 * width.toUInt32).toNat

section Luma

variable {src dst : ℤ} {w h : UInt32} {srcX srcY width : Int32} {r c : ℕ}

theorem pieceLen_lt_word {b : ℕ} (hb : b < 2 ^ 32) (n k : ℕ) :
    (UInt32.ofNat (pieceLen b n k)).toNat = pieceLen b n k :=
  UInt32.toNat_ofNat_of_lt' (lt_of_le_of_lt (pieceLen_le b n k) hb)

/-- The block in column `c` and row `r`. -/
theorem yBlock_eq (hc : c * 16 < w.toNat) (hcw : c < 2 ^ 24) (hrw : r < 2 ^ 18) :
    yBlock src dst w srcX srcY width (UInt32.ofNat (c * 16)) (UInt32.ofNat (r * 16))
        (UInt32.ofNat (pieceLen 16 h.toNat r)) =
      (blockAt 16 16 w.toNat h.toNat r c).flatMap
        (fun p => [yMove src dst srcX srcY width p]) := by
  have hx : (UInt32.ofNat (c * 16)).toNat = c * 16 := toNat_ofNat_of_lt (by omega)
  have hx16 : (UInt32.ofNat (c * 16) * 16).toNat = c * 16 * 16 := by
    rw [show UInt32.ofNat (c * 16) * 16 = UInt32.ofNat (c * 16 * 16) from
      (UInt32.ofNat_mul _ _).symm, toNat_ofNat_of_lt (by omega)]
  have hy720 : (720 * UInt32.ofNat (r * 16)).toNat = 720 * (r * 16) := by
    rw [show 720 * UInt32.ofNat (r * 16) = UInt32.ofNat (720 * (r * 16)) from
      (UInt32.ofNat_mul _ _).symm, toNat_ofNat_of_lt (by omega)]
  have hcut : (if UInt32.ofNat (c * 16) + 16 > w then w &&& 15 else 16) = _ :=
    cut_eq (k := 4) rfl rfl rfl rfl hc (by omega)
  rw [← List.map_eq_flatMap]
  unfold yBlock blockAt
  simp only [hcut]
  rw [overLines_eq fun _ _ => rfl, pieceLen_lt_word (by decide), List.map_flatMap]
  refine List.flatMap_congr fun i hi => ?_
  have hi := (List.mem_range.mp hi).trans_le (pieceLen_le 16 _ _)
  have hrow : UInt32.ofNat (r * 16) + (0 + UInt32.ofNat i) = UInt32.ofNat (r * 16 + i) := by
    rw [UInt32.zero_add, ← UInt32.ofNat_add]
  simp only [memcpy, List.map_map]
  rw [pieceLen_lt_word (by decide)]
  refine List.map_congr_left fun j hj => ?_
  have hj := (List.mem_range.mp hj).trans_le (pieceLen_le 16 _ _)
  have htile : tile (c * 16 + j, r * 16 + i) = 720 * (r * 16) + c * 16 * 16 + 16 * i + j := by
    simp only [tile]
    omega
  simp only [Function.comp_apply, yMove, yPlace, yStart, Move.mk.injEq]
  rw [hx16, hy720, htile, hrow, hx]
  push_cast
  constructor <;> ring

/-- **The luma plane**, pixel by pixel, of a picture that is rounded to `w` × `h`. -/
theorem yBlocks_eq (hw : w.toNat ≤ 2 ^ 28) (hh : h.toNat ≤ 2 ^ 22) {fuel : ℕ}
    (hfuelw : items 16 w.toNat < fuel) (hfuelh : items 16 h.toNat < fuel) :
    overBlocks fuel 16 w h (yBlock src dst w srcX srcY width) =
      ⟨(blockPixels 16 16 w.toNat h.toNat).map (yMove src dst srcX srcY width), true⟩ := by
  rw [List.map_eq_flatMap]
  exact overBlocks_pixels (by decide) (by omega) (by omega)
    (fun c r hc hr => yBlock_eq hc (by omega) (by omega)) hfuelw hfuelh

end Luma

/-! ### The chroma planes -/

/-- The place of a pixel in the tiles of the chroma planes, which have its two samples next to each
other. -/
def uvTile (p : ℕ × ℕ) : ℕ :=
  720 * 16 * (p.2 / 16) + 256 * (p.1 / 8) + 16 * (p.2 % 16) + 2 * (p.1 % 8)

/-- Where the tiles begin for an origin that is rounded. -/
def uvPlace (srcX srcY : Int32) : ℤ := (720 * srcY).toInt + ((256 : Int32) * (srcX >>> 3)).toInt

/-- `idx` with the number of the pixel in its block added to it, as a word. -/
def uvWord (srcX srcY width : Int32) (p : ℕ × ℕ) : UInt32 :=
  srcX.toUInt32 + UInt32.ofNat p.1 + UInt32.ofNat p.2 * width.toUInt32 + (srcY * width).toUInt32

/-- The index that is read: signed in a whole block, unsigned in one that is cut. -/
def uvIndex (w : UInt32) (srcX srcY width : Int32) (p : ℕ × ℕ) : ℤ :=
  if p.1 / 8 * 8 + 8 ≤ w.toNat then (uvWord srcX srcY width p).toInt32.toInt
  else (uvWord srcX srcY width p).toNat

/-- What is copied for a pixel. -/
def uvMoves (srcu srcv dst : ℤ) (w : UInt32) (srcX srcY width : Int32) (p : ℕ × ℕ) : List Move :=
  [⟨dst + uvPlace srcX srcY + uvTile p, srcu + uvIndex w srcX srcY width p⟩,
   ⟨dst + uvPlace srcX srcY + uvTile p + 1, srcv + uvIndex w srcX srcY width p⟩]

section Chroma

variable {srcu srcv dst : ℤ} {w h : UInt32} {srcX srcY width : Int32} {r c : ℕ}

theorem eightPixels_eq (idx : Int32) (dst2 : ℤ) :
    eightPixels srcu srcv idx dst2 = (List.range 8).flatMap fun j =>
      [⟨dst2 + 2 * j, srcu + (idx + (UInt32.ofNat j).toInt32).toInt⟩,
       ⟨dst2 + 2 * j + 1, srcv + (idx + (UInt32.ofNat j).toInt32).toInt⟩] := by
  rw [show List.range 8 = [0, 1, 2, 3, 4, 5, 6, 7] from rfl]
  simp only [List.flatMap_cons, List.flatMap_nil, List.cons_append, List.nil_append, eightPixels]
  norm_num [add_assoc]
  exact ⟨rfl, rfl, rfl, rfl, rfl, rfl⟩

theorem tailPixels_eq (idx : Int32) (n : ℕ) (f : UInt32) (dst2 : ℤ) :
    tailPixels srcu srcv idx n f dst2 = ((List.range n).flatMap fun j =>
      [⟨dst2 + 2 * j, srcu + (idx.toUInt32 + (f + UInt32.ofNat j)).toNat⟩,
       ⟨dst2 + 2 * j + 1, srcv + (idx.toUInt32 + (f + UInt32.ofNat j)).toNat⟩],
      dst2 + 2 * n) := by
  induction n generalizing f dst2 with
  | zero => simp [tailPixels]
  | succ n ih =>
    have hf : ∀ k, f + 1 + UInt32.ofNat k = f + UInt32.ofNat (k + 1) := fun k => by
      rw [Nat.add_comm k, UInt32.ofNat_add, ← UInt32.add_assoc]
      rfl
    have hp : ∀ k : ℕ, dst2 + 2 + 2 * (k : ℤ) = dst2 + 2 * ((k + 1 : ℕ) : ℤ) := fun k => by
      push_cast
      ring
    have h0 : f + UInt32.ofNat 0 = f := UInt32.add_zero f
    rw [tailPixels, ih, List.range_succ_eq_map, List.flatMap_cons, List.flatMap_map, h0,
      Nat.cast_zero, mul_zero]
    simp only [hf, hp, add_zero]
    rfl

/-- The pixels that are left of a line that is cut. -/
theorem toNat_and_seven (w : UInt32) : (w &&& 7).toNat = w.toNat % 8 := by
  rw [UInt32.toNat_and]
  exact Nat.and_two_pow_sub_one_eq_mod w.toNat 3

/-- After a line that is cut, `dst_2` is where it is after a whole one. -/
theorem tail_back (w : UInt32) (p : ℤ) :
    p + 2 * (w.toNat % 8 : ℕ) + ((16 : UInt32) - ((w &&& 7) <<< 1)).toNat = p + 16 := by
  have hshift : ((w &&& 7) <<< 1).toNat = w.toNat % 8 * 2 := by
    rw [toNat_shiftLeft_of_lt (n := 1) _ rfl (by decide), toNat_and_seven]
    exact Nat.mod_eq_of_lt (by omega)
  have hle : (w &&& 7) <<< 1 ≤ 16 := by
    rw [UInt32.le_iff_toNat_le, hshift, show (16 : UInt32).toNat = 16 from rfl]
    omega
  rw [UInt32.toNat_sub_of_le _ _ hle, hshift, show (16 : UInt32).toNat = 16 from rfl]
  omega

/-- `idx` of line `y` of the block at `x`, and the number of a pixel in it. -/
theorem uvWord_eq (x y j : ℕ) :
    srcX.toUInt32 + UInt32.ofNat x + UInt32.ofNat y * width.toUInt32 +
        (srcY * width).toUInt32 + UInt32.ofNat j = uvWord srcX srcY width (x + j, y) := by
  simp only [uvWord, UInt32.ofNat_add]
  ac_rfl

/-- What is copied for a pixel, by its block and its place there. -/
theorem uvMoves_eq {i j : ℕ} (hi : i < 16) (hj : j < 8) :
    uvMoves srcu srcv dst w srcX srcY width (c * 8 + j, r * 16 + i) =
      [⟨dst + (720 * (r * 16) : ℕ) + (720 * srcY).toInt + ((256 : Int32) * (srcX >>> 3)).toInt +
          (c * 8 * 32 : ℕ) + 16 * i + 2 * j,
        srcu + uvIndex w srcX srcY width (c * 8 + j, r * 16 + i)⟩,
       ⟨dst + (720 * (r * 16) : ℕ) + (720 * srcY).toInt + ((256 : Int32) * (srcX >>> 3)).toInt +
          (c * 8 * 32 : ℕ) + 16 * i + 2 * j + 1,
        srcv + uvIndex w srcX srcY width (c * 8 + j, r * 16 + i)⟩] := by
  have htile : uvTile (c * 8 + j, r * 16 + i) =
      720 * (r * 16) + c * 8 * 32 + 16 * i + 2 * j := by
    simp only [uvTile]
    omega
  have hplace : dst + uvPlace srcX srcY + uvTile (c * 8 + j, r * 16 + i) =
      dst + (720 * (r * 16) : ℕ) + (720 * srcY).toInt + ((256 : Int32) * (srcX >>> 3)).toInt +
        (c * 8 * 32 : ℕ) + 16 * i + 2 * j := by
    rw [htile, uvPlace]
    push_cast
    ring
  rw [uvMoves, hplace]

/-- The block in column `c` and row `r`. -/
theorem uvBlock_eq (hc : c * 8 < w.toNat) (hcw : c < 2 ^ 24) (hrw : r < 2 ^ 18) :
    uvBlock srcu srcv dst w srcX srcY width (UInt32.ofNat (c * 8)) (UInt32.ofNat (r * 16))
        (UInt32.ofNat (pieceLen 16 h.toNat r)) =
      (blockAt 8 16 w.toNat h.toNat r c).flatMap (uvMoves srcu srcv dst w srcX srcY width) := by
  have hx : (UInt32.ofNat (c * 8)).toNat = c * 8 := toNat_ofNat_of_lt (by omega)
  have hx8 : (UInt32.ofNat (c * 8) + 8).toNat = c * 8 + 8 := by
    rw [show UInt32.ofNat (c * 8) + 8 = UInt32.ofNat (c * 8 + 8) from
      (UInt32.ofNat_add _ _).symm, toNat_ofNat_of_lt (by omega)]
  have hx32 : (UInt32.ofNat (c * 8) * 32).toNat = c * 8 * 32 := by
    rw [show UInt32.ofNat (c * 8) * 32 = UInt32.ofNat (c * 8 * 32) from
      (UInt32.ofNat_mul _ _).symm, toNat_ofNat_of_lt (by omega)]
  have hy720 : (720 * UInt32.ofNat (r * 16)).toNat = 720 * (r * 16) := by
    rw [show 720 * UInt32.ofNat (r * 16) = UInt32.ofNat (720 * (r * 16)) from
      (UInt32.ofNat_mul _ _).symm, toNat_ofNat_of_lt (by omega)]
  have hrow : ∀ i, UInt32.ofNat (r * 16) + (0 + UInt32.ofNat i) = UInt32.ofNat (r * 16 + i) :=
    fun i => by rw [UInt32.zero_add, ← UInt32.ofNat_add]
  unfold uvBlock blockAt
  rw [List.flatMap_assoc]
  by_cases hfull : c * 8 + 8 ≤ w.toNat
  · -- the unrolled lines
    have hle : UInt32.ofNat (c * 8) + 8 ≤ w := UInt32.le_iff_toNat_le.mpr (hx8 ▸ hfull)
    simp only [if_pos hle]
    rw [overLines_eq fun _ _ => rfl, pieceLen_lt_word (by decide)]
    refine List.flatMap_congr fun i hi => ?_
    have hi := (List.mem_range.mp hi).trans_le (pieceLen_le 16 _ _)
    rw [show pieceLen 8 w.toNat c = 8 from Nat.min_eq_left (by omega), List.flatMap_map]
    simp only [eightPixels_eq, hrow]
    refine List.flatMap_congr fun j hj => ?_
    have hj := List.mem_range.mp hj
    have hindex : uvIndex w srcX srcY width (c * 8 + j, r * 16 + i) =
        (uvWord srcX srcY width (c * 8 + j, r * 16 + i)).toInt32.toInt := if_pos (by omega)
    rw [uvMoves_eq hi hj, hindex, ← uvWord_eq, ← UInt32.toInt32_add, hx32, hy720]
  · -- the lines that are cut
    have hle : ¬ UInt32.ofNat (c * 8) + 8 ≤ w := fun h =>
      hfull (hx8 ▸ UInt32.le_iff_toNat_le.mp h)
    have hcut : w.toNat % 8 = w.toNat - c * 8 := by omega
    simp only [if_neg hle, tailPixels_eq, toNat_and_seven]
    rw [overLines_eq fun _ _ => tail_back w _, pieceLen_lt_word (by decide)]
    refine List.flatMap_congr fun i hi => ?_
    have hi := (List.mem_range.mp hi).trans_le (pieceLen_le 16 _ _)
    rw [show pieceLen 8 w.toNat c = w.toNat % 8 by rw [pieceLen, Nat.min_eq_right] <;> omega,
      List.flatMap_map]
    simp only [hrow]
    refine List.flatMap_congr fun j hj => ?_
    have hj := List.mem_range.mp hj
    have hindex : uvIndex w srcX srcY width (c * 8 + j, r * 16 + i) =
        (uvWord srcX srcY width (c * 8 + j, r * 16 + i)).toNat := if_neg (by omega)
    rw [uvMoves_eq hi (by omega), hindex, ← uvWord_eq, UInt32.zero_add, UInt32.toUInt32_toInt32,
      hx32, hy720]

/-- **The chroma planes**, pixel by pixel, of a picture that is rounded to `w` × `h`. -/
theorem uvBlocks_eq (hw : w.toNat ≤ 2 ^ 27) (hh : h.toNat ≤ 2 ^ 22) {fuel : ℕ}
    (hfuelw : items 8 w.toNat < fuel) (hfuelh : items 16 h.toNat < fuel) :
    overBlocks fuel 8 w h (uvBlock srcu srcv dst w srcX srcY width) =
      ⟨(blockPixels 8 16 w.toNat h.toNat).flatMap (uvMoves srcu srcv dst w srcX srcY width),
        true⟩ :=
  overBlocks_pixels (by decide) (by omega) (by omega)
    (fun c r hc hr => uvBlock_eq hc (by omega) (by omega)) hfuelw hfuelh

end Chroma

end Vidix.Ivtv
