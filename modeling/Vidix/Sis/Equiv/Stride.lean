import Vidix.Sis.Config
import Vidix.Mga.Equiv.Stride
import Vidix.Savage.Equiv.Stride

/-!
# The stride of the sis driver

Rows are padded to eight bytes in a plane and to four in a packed picture, and an alignment of 16
is reported.  The width is a `short`, and the overlay has 16 bits for the length of a row.  With
that, each of four drivers reports an alignment that is not the one it uses:
`drivers_stridesAgree_iff`.
-/

namespace Vidix.Sis

open Util

variable {mem : UInt64} {info info' : VidixPlayback} {overlay : Overlay}

/-- The bytes of a row of the first plane. -/
def rowBytes (info : VidixPlayback) : ℕ :=
  if isPlanar info.fourcc then info.src.w.toNat else info.src.w.toNat * 2

/-- The bytes of a row in `frame_size`. -/
def sizeStride (info : VidixPlayback) : ℤ := (pitchOf info.fourcc (short info.src.w)).toInt

/-- The width with which the strides agree. -/
def StrideFits (info : VidixPlayback) : Prop :=
  if isPlanar info.fourcc then
    (info.src.w.toNat % 16 = 0 ∨ 8 < info.src.w.toNat % 16) ∧ info.src.w.toNat < 2 ^ 15
  else (info.src.w.toNat % 8 = 0 ∨ info.src.w.toNat % 8 = 7) ∧ info.src.w.toNat + 1 < 2 ^ 15

/-! ### The words -/

/-- The value of a `short`. -/
theorem short_toInt (x : UInt32) :
    (short x).toInt =
      if x.toNat % 2 ^ 16 < 2 ^ 15 then ((x.toNat % 2 ^ 16 : ℕ) : ℤ)
      else ((x.toNat % 2 ^ 16 : ℕ) : ℤ) - 2 ^ 16 := by
  unfold short
  rw [Int16.toInt_toInt32]
  show x.toUInt16.toBitVec.toInt = _
  have hx : x.toUInt16.toBitVec.toNat = x.toNat % 2 ^ 16 := UInt32.toNat_toUInt16 x
  rw [BitVec.toInt_eq_toNat_cond, hx]
  split_ifs <;> omega

theorem sizeStride_eq (info : VidixPlayback) :
    sizeStride info = if isPlanar info.fourcc then roundUp (short info.src.w).toInt 8
      else roundUp ((short info.src.w).toInt * 2) 4 := by
  have hlow : -2 ^ 15 ≤ (short info.src.w).toInt := by
    rw [short_toInt]
    split_ifs <;> omega
  have hhigh : (short info.src.w).toInt < 2 ^ 15 := by
    rw [short_toInt]
    split_ifs <;> omega
  unfold sizeStride pitchOf
  split_ifs
  · have hpitch : ((short info.src.w + 7) &&& ~~~7).toInt ≡
        roundUp (short info.src.w).toInt 8 [ZMOD 2 ^ 32] :=
      toInt_alignUp_modEq (k := 3) rfl rfl (by decide) rfl
    refine toInt_eq_of_modEq hpitch ?_ ?_
    all_goals unfold roundUp
    all_goals omega
  · have hwidth : (short info.src.w <<< 1).toInt ≡ (short info.src.w).toInt * 2 [ZMOD 2 ^ 32] := by
      rw [shiftLeft_one]
      exact toInt_mul_modEq rfl rfl
    have hpitch : ((short info.src.w <<< 1 + 3) &&& ~~~3).toInt ≡
        roundUp ((short info.src.w).toInt * 2) 4 [ZMOD 2 ^ 32] :=
      toInt_alignUp_modEq (k := 2) rfl rfl (by decide) hwidth
    refine toInt_eq_of_modEq hpitch ?_ ?_
    all_goals unfold roundUp
    all_goals omega

/-- The overlay has the low half of the length of a row. -/
theorem toUInt16_toNat (x : Int32) : (x.toUInt32.toUInt16.toNat : ℤ) = x.toInt % 2 ^ 16 := by
  have h := toNat_toUInt32 x
  rw [UInt32.toNat_toUInt16]
  omega

/-! ### The strides -/

theorem stridesAgree_iff (info : VidixPlayback) :
    StridesAgree (pitchOf info.fourcc (short info.src.w)).toUInt32.toUInt16.toNat
      (sizeStride info) (rowBytes info) 16 ↔ StrideFits info := by
  have hchip := toUInt16_toNat (pitchOf info.fourcc (short info.src.w))
  have hsize := sizeStride_eq info
  have hshort := short_toInt info.src.w
  have halign : (16 : UInt32).toNat = 16 := rfl
  rw [show (pitchOf info.fourcc (short info.src.w)).toInt = sizeStride info from rfl] at hchip
  rw [Vidix.stridesAgree_iff, hchip, hsize, halign]
  unfold rowBytes StrideFits roundUp
  split_ifs at hshort ⊢ <;> omega

/-- What a call that succeeds has told the overlay and the application. -/
theorem accepted {o : Option Overlay} (h : vixConfigPlayback mem info = some (0, info', o)) :
    ∃ overlay, o = some overlay ∧
      overlay.pitch = (pitchOf info.fourcc (short info.src.w)).toUInt32.toUInt16 ∧
      info'.frameSize = (totalSizeOf info.fourcc (pitchOf info.fourcc (short info.src.w))
        (short info.src.h) * 2).toUInt32 ∧
      info'.dest.pitch.y = 16 := by
  have hne : ∀ i : VidixPlayback, some ((-1 : ℤ), i, (none : Option Overlay)) ≠
      some (0, info', o) := by
    intro i heq
    have herr : (-1 : ℤ) = 0 := congrArg (fun r => r.elim 0 Prod.fst) heq
    exact absurd herr (by decide)
  unfold vixConfigPlayback at h
  dsimp only at h
  split at h
  · exact absurd h (hne _)
  · split at h
    · cases h
    · split at h
      · exact absurd h (hne _)
      · obtain ⟨srcOffsetX, -, h⟩ := Option.bind_eq_some_iff.mp h
        obtain ⟨srcOffsetY, -, h⟩ := Option.bind_eq_some_iff.mp h
        simp only [Option.some.injEq, Prod.mk.injEq, true_and] at h
        obtain ⟨rfl, rfl⟩ := h
        exact ⟨_, rfl, rfl, rfl, rfl⟩

end Vidix.Sis
