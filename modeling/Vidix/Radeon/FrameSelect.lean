import Vidix.Radeon.Basic

/-!
# Selecting a frame on the Radeon chips

`vixPlaybackFrameSelect` of `radeon_vid.c` and of `radeonhd_vid.c`.  The tables of base addresses
are arrays of `VID_PLAY_MAXFRAMES` words, of which a configuration fills the first `vid_nbufs`; here
they are functions, so that a read beyond those has a value too: what an earlier configuration left
there, or what lies behind the array.
-/

namespace Vidix

/-- The base addresses of the planes of one frame. -/
structure PlaneAdrs where
  y : UInt32
  u : UInt32
  v : UInt32
  deriving DecidableEq, Repr

/-- The part of `besr` that a frame selection reads. -/
structure FrameTable where
  doubleBuff : Bool
  vidNbufs : UInt32
  /-- `vid_buf_base_adrs_y[i]`, `.._u[i]` and `.._v[i]`. -/
  vidBufBaseAdrs : ℕ → PlaneAdrs

/-- `besr` after a configuration; `left` is what the arrays hold behind the frames. -/
def frameTable (besr : Besr) (left : ℕ → PlaneAdrs) : FrameTable where
  doubleBuff := besr.doubleBuff
  vidNbufs := besr.vidNbufs
  vidBufBaseAdrs i :=
    { y := besr.vidBufBaseAdrsY.getD i (left i).y
      u := besr.vidBufBaseAdrsU.getD i (left i).u
      v := besr.vidBufBaseAdrsV.getD i (left i).v }

namespace Radeon

/-- The registers `OV0_VID_BUF0_BASE_ADRS` to `OV0_VID_BUF5_BASE_ADRS`. -/
structure Ov0BaseAdrs where
  vidBuf0 : UInt32
  vidBuf1 : UInt32
  vidBuf2 : UInt32
  vidBuf3 : UInt32
  vidBuf4 : UInt32
  vidBuf5 : UInt32
  deriving DecidableEq, Repr

/-- What a call does to the buffer registers. -/
inductive Selection
  | untouched
  | written (adrs : Ov0BaseAdrs)
  deriving DecidableEq, Repr

/-- `vixPlaybackFrameSelect`.  Without any buffer the program ends in a division by zero
(`none`). -/
def vixPlaybackFrameSelect (besr : FrameTable) (frame : UInt32) : Option Selection :=
  if besr.vidNbufs = 0 then none
  else
    let prevFrame := ((frame - 1 + besr.vidNbufs) % besr.vidNbufs).toInt32
    if !besr.doubleBuff then some .untouched
    else
      let frame := if frame > besr.vidNbufs then besr.vidNbufs - 1 else frame
      let prevFrame :=
        if prevFrame > besr.vidNbufs.toInt32 then (besr.vidNbufs - 1).toInt32 else prevFrame
      let off := besr.vidBufBaseAdrs frame.toNat
      -- buffers 3 to 5 always point to the second buffer, for deinterlacing
      let prev := besr.vidBufBaseAdrs prevFrame.toUInt32.toNat
      some <| .written
        { vidBuf0 := off.y, vidBuf1 := off.v, vidBuf2 := off.u
          vidBuf3 := prev.y, vidBuf4 := prev.v, vidBuf5 := prev.u }

end Radeon

namespace Radeonhd

/-- `vixPlaybackFrameSelect`: what is written to `OVL_SURFACE_ADDRESS`, if anything. -/
def vixPlaybackFrameSelect (besr : FrameTable) (frame : UInt32) : Option UInt32 :=
  if !besr.doubleBuff then none
  else
    let frame := if frame > besr.vidNbufs then besr.vidNbufs - 1 else frame
    some (besr.vidBufBaseAdrs frame.toNat).y

end Radeonhd

end Vidix
