import Vidix.Types

/-!
# What the two Radeon drivers share

`radeon_vid.c` and `radeonhd_vid.c` lay out their frames with the same text: the two descending
loops of `vixConfigPlayback` and the running `offsets[]`.  Both are here; everything that differs
(formats, pitches, the screen registers, the descriptor reserve) is in `Radeon.Config` and
`Radeonhd.Config`.
-/

namespace Vidix

/-- The part of `bes_registers_t` that `vixConfigPlayback` derives from the memory layout. -/
structure Besr where
  doubleBuff : Bool
  vidNbufs : UInt32
  vidBufBaseAdrsY : List UInt32
  vidBufBaseAdrsU : List UInt32
  vidBufBaseAdrsV : List UInt32
  vidBufPitch0Value : UInt32
  vidBufPitch1Value : UInt32
  deriving DecidableEq, Repr

/-- `radeon_overlay_off = radeon_video_size - info->frame_size*nfr; radeon_overlay_off &=
0xffff0000;`: an `unsigned` difference, masked, in an `int32_t`. -/
def overlayOffAt (videoSize frameSize : UInt32) (nfr : ℕ) : Int32 :=
  ((videoSize - frameSize * UInt32.ofNat nfr) &&& 0xffff0000).toInt32

/-- `for(;nfr>0; nfr--) { radeon_overlay_off = ..; if(accept) break; }`, with the counter and
`radeon_overlay_off` as the loop leaves them. -/
def placeLoop (accept : Int32 → Bool) (videoSize frameSize : UInt32) : ℕ → Int32 → ℕ × Int32
  | 0, off => (0, off)
  | nfr + 1, _ =>
    let off := overlayOffAt videoSize frameSize (nfr + 1)
    if accept off then (nfr + 1, off) else placeLoop accept videoSize frameSize nfr off

/-- The test of the first loop: the frames stay above the desktop. -/
def aboveDesktop (rgbSize : UInt32) (off : Int32) : Bool := rgbSize.toInt32 ≤ off

/-- The test of the second loop. -/
def aboveZero (off : Int32) : Bool := 0 < off

/-- Both loops of `vixConfigPlayback`: when at most three frames fit above the desktop, the desktop
is given up. -/
def placeFrames (videoSize frameSize rgbSize numFrames : UInt32) (off : Int32) : ℕ × Int32 :=
  let first := placeLoop (aboveDesktop rgbSize) videoSize frameSize numFrames.toNat off
  if first.1 ≤ 3 then placeLoop aboveZero videoSize frameSize numFrames.toNat first.2
  else first

/-- `offsets[0] = 0; offsets[i] = offsets[i-1] + frame_size` for the `nbufs` granted frames. -/
def frameOffsets (frameSize nbufs : UInt32) : List UInt32 :=
  List.iterate (· + frameSize) 0 nbufs.toNat

/-- `(x + mask) & ~mask`. -/
def alignUp (x mask : UInt32) : UInt32 := (x + mask) &&& ~~~mask

end Vidix
