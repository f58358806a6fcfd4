import Vidix.Util.CountedLoop

/-!
# `ivtv_vid.c`: conversion to the tiles of the decoder

`de_macro_y` and `de_macro_uv`, which copy the planes of a picture to the tiles that the decoder
wants.  A pointer is a place in the buffer that it points into, and what the functions do is the
list of the bytes they copy; the loops over the blocks have fuel, since their counters are words
that can wrap.  An `int` that overflows wraps as well.
-/

namespace Vidix.Ivtv

open Util

/-- A byte that is copied from `src` to `dst`. -/
structure Move where
  dst : ℤ
  src : ℤ
  deriving DecidableEq, Repr

/-- `memcpy(dst, src, n)`. -/
def memcpy (dst src : ℤ) (n : UInt32) : List Move :=
  (List.range n.toNat).map fun k : ℕ => ⟨dst + k, src + k⟩

/-- `if (o & mask) { size += o & mask; o &= ~mask; }`. -/
def roundOrigin (mask : Int32) (size : UInt32) (o : Int32) : UInt32 × Int32 :=
  if o &&& mask ≠ 0 then (size + (o &&& mask).toUInt32, o &&& ~~~mask) else (size, o)

/-- `for (i = 0; i < h_size; i++)`, where a line moves `dst_2` on; `h_size` is at most 16. -/
def overLines (line : UInt32 → ℤ → List Move × ℤ) : ℕ → UInt32 → ℤ → List Move
  | 0, _, _ => []
  | n + 1, i, dst2 => (line i dst2).1 ++ overLines line n (i + 1) (line i dst2).2

/-- The loops over `y` and `x`, which both functions have.  `h_size` keeps its value from one round
to the next. -/
def overBlocks (fuel : ℕ) (bw w h : UInt32) (block : UInt32 → UInt32 → UInt32 → List Move) :
    Trace Move :=
  forLoop h 16 (fun y hSize =>
    let hSize := if y + 16 > h then h &&& 15 else hSize
    (forLoop w bw (fun x _ => (⟨block x y hSize, true⟩, ())) fuel 0 (), hSize)) fuel 0 16

/-- The body of the loop over `x` in `de_macro_y`. -/
def yBlock (src dst : ℤ) (w : UInt32) (srcX srcY width : Int32) (x y hSize : UInt32) : List Move :=
  let wSize := if x + 16 > w then w &&& 15 else 16
  let dst2 := dst + (720 * y).toNat + (720 * srcY).toInt + ((256 : Int32) * (srcX >>> 4)).toInt +
    (x * 16).toNat
  overLines (fun i dst2 =>
    (memcpy dst2 (src + srcX.toInt + x.toNat + ((y + i) * width.toUInt32).toNat +
      (srcY * width).toInt) wSize, dst2 + 16)) hSize.toNat 0 dst2

/-- `de_macro_y`. -/
def deMacroY (fuel : ℕ) (src dst : ℤ) (w h : UInt32) (srcX srcY _height width : Int32) :
    Trace Move :=
  let (w, srcX) := roundOrigin 15 w srcX
  let (h, srcY) := roundOrigin 15 h srcY
  overBlocks fuel 16 w h (yBlock src dst w srcX srcY width)

/-- The sixteen assignments for eight pixels. -/
def eightPixels (srcu srcv : ℤ) (idx : Int32) (dst2 : ℤ) : List Move :=
  [⟨dst2 + 0, srcu + (idx + 0).toInt⟩, ⟨dst2 + 1, srcv + (idx + 0).toInt⟩,
   ⟨dst2 + 2, srcu + (idx + 1).toInt⟩, ⟨dst2 + 3, srcv + (idx + 1).toInt⟩,
   ⟨dst2 + 4, srcu + (idx + 2).toInt⟩, ⟨dst2 + 5, srcv + (idx + 2).toInt⟩,
   ⟨dst2 + 6, srcu + (idx + 3).toInt⟩, ⟨dst2 + 7, srcv + (idx + 3).toInt⟩,
   ⟨dst2 + 8, srcu + (idx + 4).toInt⟩, ⟨dst2 + 9, srcv + (idx + 4).toInt⟩,
   ⟨dst2 + 10, srcu + (idx + 5).toInt⟩, ⟨dst2 + 11, srcv + (idx + 5).toInt⟩,
   ⟨dst2 + 12, srcu + (idx + 6).toInt⟩, ⟨dst2 + 13, srcv + (idx + 6).toInt⟩,
   ⟨dst2 + 14, srcu + (idx + 7).toInt⟩, ⟨dst2 + 15, srcv + (idx + 7).toInt⟩]

/-- `for (f = 0; f < w_tail; f++)`, where `idx + f` is unsigned, and `dst_2` after it; `w_tail` is
at most 7. -/
def tailPixels (srcu srcv : ℤ) (idx : Int32) : ℕ → UInt32 → ℤ → List Move × ℤ
  | 0, _, dst2 => ([], dst2)
  | n + 1, f, dst2 =>
    let (ms, dst2') := tailPixels srcu srcv idx n (f + 1) (dst2 + 2)
    (⟨dst2 + 0, srcu + (idx.toUInt32 + f).toNat⟩ :: ⟨dst2 + 1, srcv + (idx.toUInt32 + f).toNat⟩ ::
      ms, dst2')

/-- The body of the loop over `x` in `de_macro_uv`. -/
def uvBlock (srcu srcv dst : ℤ) (w : UInt32) (srcX srcY width : Int32) (x y hSize : UInt32) :
    List Move :=
  let wTail := w &&& 7
  let dst2 := dst + (720 * y).toNat + (720 * srcY).toInt + ((256 : Int32) * (srcX >>> 3)).toInt +
    (x * 32).toNat
  let idx (i : UInt32) : Int32 := (srcX.toUInt32 + x + (y + i) * width.toUInt32 +
    (srcY * width).toUInt32).toInt32
  if x + 8 ≤ w then
    overLines (fun i dst2 => (eightPixels srcu srcv (idx i) dst2, dst2 + 16)) hSize.toNat 0 dst2
  else
    overLines (fun i dst2 =>
      let (ms, dst2) := tailPixels srcu srcv (idx i) wTail.toNat 0 dst2
      (ms, dst2 + ((16 : UInt32) - (wTail <<< 1)).toNat)) hSize.toNat 0 dst2

/-- `de_macro_uv`. -/
def deMacroUv (fuel : ℕ) (srcu srcv dst : ℤ) (w h : UInt32) (srcX srcY _height width : Int32) :
    Trace Move :=
  let w := w / 2
  let h := h / 2
  let srcX := srcX / 2
  let srcY := srcY / 2
  let width := width / 2
  let (w, srcX) := roundOrigin 7 w srcX
  let (h, srcY) := roundOrigin 15 h srcY
  overBlocks fuel 8 w h (uvBlock srcu srcv dst w srcX srcY width)

end Vidix.Ivtv
