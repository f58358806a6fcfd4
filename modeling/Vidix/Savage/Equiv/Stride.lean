import Vidix.Savage.Equiv.Frame
import Vidix.Savage.Config
import Vidix.S3.Config
import Vidix.Equiv.Negotiation

/-!
# The stride of the savage and s3 drivers

Rows are padded to 16 bytes and kept in 16 bits, and an alignment of 32 bytes is reported.
-/

namespace Vidix.Savage

open Util

variable {Arch : Type} {info : ChipInfo Arch} {vinfo : VidixPlayback} {o : Outcome Arch}

/-- The bytes between two rows: the low half of the register that the chip has for them. -/
def stride (info : ChipInfo Arch) : ℤ := (info.pitch &&& 0xffff).toNat

/-- A row whose length, padded to 16 bytes, is also padded to 32 and fits into 16 bits. -/
def StrideFits (row : ℕ) : Prop := (row % 32 = 0 ∨ 16 < row % 32) ∧ row + 32 ≤ 2 ^ 16

/-- The frame is sized by rows of `stride` bytes. -/
theorem configFrames_frameSize {base : UInt64} {answer : Answer}
    (h : configFrames info vinfo base answer = some o) :
    o.info.pitch = pitchOf vinfo.src.w (bytesPerPixel vinfo.fourcc) ∧
      o.vinfo.frameSize = (o.info.pitch &&& 0xffff) * vinfo.src.h ∧
      o.vinfo.dest.pitch.y = 32 := by
  unfold configFrames at h
  dsimp only at h
  split_ifs at h
  all_goals obtain rfl := Option.some.inj h
  all_goals exact ⟨rfl, rfl, rfl⟩

end Vidix.Savage

namespace Vidix.S3

open Util Savage

end Vidix.S3
