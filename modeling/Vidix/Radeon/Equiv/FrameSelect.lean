import Vidix.Radeon.FrameSelect
import Vidix.Radeon.Equiv.Planes

/-!
# The ring of frames of the Radeon drivers

The frames of a configuration are shown in a ring: the frame that was shown before frame `c` is its
cyclic predecessor.  `vixPlaybackFrameSelect` lets any index up to and including the number of
frames through, where the last one that has a row in the table is one less, and takes the
predecessor of an index that is too large before it is clamped.  `frameSelect_inRing_iff` says for
which indices the registers get the addresses of configured frames, one after the other.

As for the tables, a call is right when it is right whatever the addresses in them are.
-/

namespace Vidix

/-- The frame before `c` in a ring of `n`. -/
def cyclicPred (n c : ℕ) : ℕ := (c + n - 1) % n

theorem cyclicPred_lt {n : ℕ} (hn : 0 < n) (c : ℕ) : cyclicPred n c < n := Nat.mod_lt _ hn

/-- One step back, from the first frame to the last. -/
theorem cyclicPred_eq {n c : ℕ} (hc : c < n) :
    cyclicPred n c = if c = 0 then n - 1 else c - 1 := by
  unfold cyclicPred
  split_ifs with h0
  · rw [h0, Nat.zero_add, Nat.mod_eq_of_lt (by omega)]
  · rw [show c + n - 1 = c - 1 + n by omega, Nat.add_mod_right, Nat.mod_eq_of_lt (by omega)]

/-- A table of `n` frames with the addresses `rows`. -/
def tableOf (doubleBuff : Bool) (n : UInt32) (rows : ℕ → PlaneAdrs) : FrameTable where
  doubleBuff := doubleBuff
  vidNbufs := n
  vidBufBaseAdrs := rows

/-- Addresses that tell the rows of a table apart. -/
def distinctRows (i : ℕ) : PlaneAdrs := ⟨UInt32.ofNat i, UInt32.ofNat i, UInt32.ofNat i⟩

theorem toNat_distinctRows {i : ℕ} (hi : i < 2 ^ 32) : (distinctRows i).y.toNat = i := by
  show (UInt32.ofNat i).toNat = i
  rw [UInt32.toNat_ofNat', Nat.mod_eq_of_lt hi]

/-- The row that a frame index is clamped to. -/
def clampedFrame (n frame : UInt32) : UInt32 := if frame > n then n - 1 else frame

theorem toNat_clampedFrame {n frame : UInt32} (hn : n ≠ 0) :
    (clampedFrame n frame).toNat = if n.toNat < frame.toNat then n.toNat - 1 else frame.toNat := by
  have hpos : n.toNat ≠ 0 := fun h0 => hn (UInt32.toNat_inj.mp h0)
  unfold clampedFrame
  by_cases h : frame > n
  · rw [if_pos h, if_pos (UInt32.lt_iff_toNat_lt.mp h), UInt32.toNat_sub_of_le]
    · rfl
    · rw [UInt32.le_iff_toNat_le, show (1 : UInt32).toNat = 1 from rfl]
      omega
  · rw [if_neg h, if_neg fun hlt => h (UInt32.lt_iff_toNat_lt.mpr hlt)]

/-! ### `radeon_vid.c` -/

namespace Radeon

/-- The registers for frame `c` with frame `p` before it. -/
def baseAdrs (rows : ℕ → PlaneAdrs) (c p : ℕ) : Ov0BaseAdrs where
  vidBuf0 := (rows c).y
  vidBuf1 := (rows c).v
  vidBuf2 := (rows c).u
  vidBuf3 := (rows p).y
  vidBuf4 := (rows p).v
  vidBuf5 := (rows p).u

/-- The registers are left alone, or get the addresses of a configured frame and of the one before
it in the ring. -/
def InRing (doubleBuff : Bool) (n frame : UInt32) : Prop :=
  ∀ rows, vixPlaybackFrameSelect (tableOf doubleBuff n rows) frame = some .untouched ∨
    ∃ c < n.toNat, vixPlaybackFrameSelect (tableOf doubleBuff n rows) frame =
      some (.written (baseAdrs rows c (cyclicPred n.toNat c)))

/-- The row that the previous frame is read from: the index is taken before it is clamped. -/
theorem vixPlaybackFrameSelect_eq {n frame : UInt32} {rows : ℕ → PlaneAdrs} (hn : n ≠ 0)
    (hmax : n.toNat ≤ vidPlayMaxframes.toNat) :
    vixPlaybackFrameSelect (tableOf true n rows) frame =
      some (.written (baseAdrs rows (clampedFrame n frame).toNat
        ((frame.toNat + (2 ^ 32 + n.toNat - 1)) % 2 ^ 32 % n.toNat))) := by
  have hpos : 0 < n.toNat := Nat.pos_of_ne_zero fun h0 => hn (UInt32.toNat_inj.mp h0)
  have hmax' : n.toNat ≤ 1024 := hmax
  have hprev : ((frame - 1 + n) % n).toNat =
      (frame.toNat + (2 ^ 32 + n.toNat - 1)) % 2 ^ 32 % n.toNat := by
    rw [UInt32.toNat_mod, UInt32.toNat_add, UInt32.toNat_sub, show (1 : UInt32).toNat = 1 from rfl,
      Nat.mod_add_mod]
    congr 2
    omega
  have hlt : ((frame - 1 + n) % n).toNat < n.toNat := by
    rw [UInt32.toNat_mod]
    exact Nat.mod_lt _ hpos
  -- a remainder is never above the number of buffers
  have hnot : ¬ ((frame - 1 + n) % n).toInt32 > n.toInt32 := by
    intro hgt
    have hint := Int32.lt_iff_toInt_lt.mp hgt
    rw [Util.toInt_toInt32, Util.toInt_toInt32, if_pos (by omega), if_pos (by omega)] at hint
    omega
  unfold vixPlaybackFrameSelect tableOf
  dsimp only
  rw [if_neg hn, if_neg hnot, UInt32.toUInt32_toInt32, hprev]
  rfl

/-- Registers that hold the ring's addresses for every content of the table hold those of these two
rows. -/
theorem forall_baseAdrs_iff {n a b : ℕ} (hn : n < 2 ^ 32) (ha : a < 2 ^ 32) (hb : b < 2 ^ 32) :
    (∀ rows, ∃ c < n, baseAdrs rows a b = baseAdrs rows c (cyclicPred n c)) ↔
      a < n ∧ b = cyclicPred n a := by
  constructor
  · intro h
    obtain ⟨c, hc, hrows⟩ := h distinctRows
    have hpred := cyclicPred_lt (by omega : 0 < n) c
    have hcur := congrArg (fun r => r.vidBuf0.toNat) hrows
    have hprev := congrArg (fun r => r.vidBuf3.toNat) hrows
    simp only [baseAdrs] at hcur hprev
    rw [toNat_distinctRows ha, toNat_distinctRows (by omega)] at hcur
    rw [toNat_distinctRows hb, toNat_distinctRows (by omega)] at hprev
    rw [hcur]
    exact ⟨hc, hprev⟩
  · rintro ⟨ha, rfl⟩ rows
    exact ⟨a, ha, rfl⟩

/-- **Which indices stay in the ring:** those of configured frames, and of the larger ones those
whose predecessor, as it is computed, is the last frame but one. -/
theorem inRing_iff (doubleBuff : Bool) {n : UInt32} (frame : UInt32) (hn : n ≠ 0)
    (hmax : n.toNat ≤ vidPlayMaxframes.toNat) :
    InRing doubleBuff n frame ↔
      doubleBuff = false ∨ frame.toNat < n.toNat ∨
        (n.toNat < frame.toNat ∧
          (frame.toNat + n.toNat - 1) % 2 ^ 32 % n.toNat = cyclicPred n.toNat (n.toNat - 1)) := by
  have hpos : 0 < n.toNat := Nat.pos_of_ne_zero fun h0 => hn (UInt32.toNat_inj.mp h0)
  have hmax' : n.toNat ≤ 1024 := hmax
  rcases doubleBuff with _ | _
  · refine iff_of_true (fun rows => Or.inl ?_) (Or.inl rfl)
    unfold vixPlaybackFrameSelect tableOf
    dsimp only
    rw [if_neg hn]
    rfl
  · have hring : InRing true n frame ↔ ∀ rows, ∃ c < n.toNat,
        baseAdrs rows (clampedFrame n frame).toNat
            ((frame.toNat + (2 ^ 32 + n.toNat - 1)) % 2 ^ 32 % n.toNat) =
          baseAdrs rows c (cyclicPred n.toNat c) := by
      unfold InRing
      simp only [vixPlaybackFrameSelect_eq hn hmax, Option.some.injEq, Selection.written.injEq,
        reduceCtorEq, false_or]
    have hlt : (frame.toNat + (2 ^ 32 + n.toNat - 1)) % 2 ^ 32 % n.toNat < n.toNat :=
      Nat.mod_lt _ hpos
    rw [hring, forall_baseAdrs_iff n.toNat_lt (UInt32.toNat_lt _) (by omega),
      toNat_clampedFrame hn]
    rcases Nat.lt_trichotomy frame.toNat n.toNat with h | h | h
    · -- one turn of the ring, without a wrap around
      have hpred : (frame.toNat + (2 ^ 32 + n.toNat - 1)) % 2 ^ 32 % n.toNat =
          cyclicPred n.toNat frame.toNat := by
        unfold cyclicPred
        congr 1
        omega
      rw [if_neg (by omega), hpred]
      exact iff_of_true ⟨h, rfl⟩ (Or.inr (Or.inl h))
    · rw [if_neg (by omega)]
      refine iff_of_false (fun hand => absurd hand.1 (by omega)) ?_
      rintro (hfalse | hless | ⟨hmore, -⟩)
      · cases hfalse
      · omega
      · omega
    · have hwrap : (frame.toNat + (2 ^ 32 + n.toNat - 1)) % 2 ^ 32 =
          (frame.toNat + n.toNat - 1) % 2 ^ 32 := by omega
      rw [if_pos h, hwrap]
      constructor
      · exact fun hand => Or.inr (Or.inr ⟨h, hand.2⟩)
      · rintro (hfalse | hless | ⟨-, hprev⟩)
        · cases hfalse
        · omega
        · exact ⟨by omega, hprev⟩

/-- A configuration fills a row for each of its frames. -/
theorem initVideo_rows (d : Driver) (info : VidixPlayback) :
    (initVideo d info).1.besr.vidBufBaseAdrsY.length = d.besr.vidNbufs.toNat ∧
      (initVideo d info).1.besr.vidBufBaseAdrsU.length = d.besr.vidNbufs.toNat ∧
      (initVideo d info).1.besr.vidBufBaseAdrsV.length = d.besr.vidNbufs.toNat := by
  unfold initVideo radeonVidInitVideo
  dsimp only
  split_ifs <;> simp [frameOffsets, List.length_iterate]

/-- After an accepted configuration an index below the number of frames reads nothing but what that
configuration has written. -/
theorem vixConfigPlayback_frameSelect {d : Driver} {info : VidixPlayback}
    (hf : isSupportedFourcc info.fourcc = true) (hret : (vixConfigPlayback d info).1 = 0)
    {frame : UInt32} (hframe : frame.toNat < (search d info).1) (left left' : ℕ → PlaneAdrs) :
    vixPlaybackFrameSelect (frameTable (vixConfigPlayback d info).2.1.besr left) frame =
      vixPlaybackFrameSelect (frameTable (vixConfigPlayback d info).2.1.besr left') frame := by
  obtain ⟨d', info', h⟩ := vixConfigPlayback_handedOn hf hret
  rw [h.result]
  have hmax : d'.besr.vidNbufs.toNat ≤ vidPlayMaxframes.toNat := by
    have hle : (search d info).1 ≤ (cappedFrames info.numFrames).toNat :=
      placeFrames_fst_le _ _ _ _ _
    rw [cappedFrames_toNat] at hle
    rw [h.vidNbufs]
    exact hle.trans (Nat.min_le_right _ _)
  obtain ⟨hY, hU, hV⟩ := initVideo_rows d' info'
  -- the rows read are that of the index and that of its predecessor
  have hrows : ∀ i < d'.besr.vidNbufs.toNat,
      (frameTable (initVideo d' info').1.besr left).vidBufBaseAdrs i =
        (frameTable (initVideo d' info').1.besr left').vidBufBaseAdrs i := by
    intro i hi
    simp only [frameTable, List.getD_eq_getElem?_getD]
    rw [List.getElem?_eq_getElem (hY ▸ hi), List.getElem?_eq_getElem (hU ▸ hi),
      List.getElem?_eq_getElem (hV ▸ hi)]
    rfl
  rcases hdouble : (initVideo d' info').1.besr.doubleBuff with _ | _
  · unfold vixPlaybackFrameSelect frameTable
    simp [hdouble]
  · have htable : ∀ left, frameTable (initVideo d' info').1.besr left =
        tableOf true d'.besr.vidNbufs
          (frameTable (initVideo d' info').1.besr left).vidBufBaseAdrs := by
      intro left
      unfold tableOf
      rw [← hdouble, ← initVideo_vidNbufs d' info']
      rfl
    have hpos : 0 < d'.besr.vidNbufs.toNat :=
      Nat.pos_of_ne_zero fun h0 => h.vidNbufs_ne (UInt32.toNat_inj.mp h0)
    rw [htable left, htable left', vixPlaybackFrameSelect_eq h.vidNbufs_ne hmax,
      vixPlaybackFrameSelect_eq h.vidNbufs_ne hmax]
    unfold baseAdrs
    rw [hrows _ (Nat.mod_lt _ hpos), hrows]
    rw [toNat_clampedFrame h.vidNbufs_ne, if_neg (by rw [h.vidNbufs]; omega), h.vidNbufs]
    exact hframe

end Radeon

/-! ### `radeonhd_vid.c` -/

namespace Radeonhd

/-- The register is left alone, or gets the address of a configured frame. -/
def InRing (doubleBuff : Bool) (n frame : UInt32) : Prop :=
  ∀ rows, vixPlaybackFrameSelect (tableOf doubleBuff n rows) frame = none ∨
    ∃ c < n.toNat, vixPlaybackFrameSelect (tableOf doubleBuff n rows) frame = some (rows c).y

/-- Only the index that is one too large is not clamped. -/
theorem inRing_iff (doubleBuff : Bool) {n : UInt32} (frame : UInt32) (hn : n ≠ 0) :
    InRing doubleBuff n frame ↔ doubleBuff = false ∨ frame ≠ n := by
  have hpos : 0 < n.toNat := Nat.pos_of_ne_zero fun h0 => hn (UInt32.toNat_inj.mp h0)
  have hlt : n.toNat < 2 ^ 32 := n.toNat_lt
  rcases doubleBuff with _ | _
  · exact iff_of_true (fun rows => Or.inl rfl) (Or.inl rfl)
  · have hrow : ∀ rows, vixPlaybackFrameSelect (tableOf true n rows) frame =
        some (rows (clampedFrame n frame).toNat).y := fun rows => rfl
    constructor
    · intro h
      refine Or.inr fun heq => ?_
      rcases h distinctRows with hnone | ⟨c, hc, hsome⟩
      · rw [hrow] at hnone
        cases hnone
      · rw [hrow, Option.some.injEq] at hsome
        have hrows := congrArg UInt32.toNat hsome
        rw [toNat_distinctRows (UInt32.toNat_lt _), toNat_distinctRows (by omega),
          toNat_clampedFrame hn, heq, if_neg (by omega)] at hrows
        omega
    · rintro (hfalse | hne) rows
      · cases hfalse
      · have hne' : frame.toNat ≠ n.toNat := fun h => hne (UInt32.toNat_inj.mp h)
        refine Or.inr ⟨(clampedFrame n frame).toNat, ?_, hrow rows⟩
        rw [toNat_clampedFrame hn]
        split_ifs <;> omega

end Radeonhd

/-! ### Both drivers -/

/-- **A frame selection stays in the ring iff the index does,** or is so large that its predecessor
comes out as if it had been clamped.  The number of frames is one that a configuration grants. -/
theorem frameSelect_inRing_iff (doubleBuff : Bool) (n frame : UInt32) (hn : n ≠ 0)
    (hmax : n.toNat ≤ vidPlayMaxframes.toNat) :
    (Radeon.InRing doubleBuff n frame ↔
        doubleBuff = false ∨ frame.toNat < n.toNat ∨
          (n.toNat < frame.toNat ∧
            (frame.toNat + n.toNat - 1) % 2 ^ 32 % n.toNat =
              cyclicPred n.toNat (n.toNat - 1))) ∧
      (Radeonhd.InRing doubleBuff n frame ↔ doubleBuff = false ∨ frame ≠ n) :=
  ⟨Radeon.inRing_iff doubleBuff frame hn hmax, Radeonhd.inRing_iff doubleBuff frame hn⟩

/-- The first of three frames, whose predecessor is the last. -/
theorem frameSelect_inRing_first : Radeon.InRing true 3 0 ∧ Radeonhd.InRing true 3 0 := by
  have h := frameSelect_inRing_iff true 3 0 (by decide) (by decide)
  exact ⟨h.1.mpr (Or.inr (Or.inl (by decide))), h.2.mpr (Or.inr (by decide))⟩

/-- **Index 2 of two frames is not clamped:** both drivers read the row behind the last. -/
theorem frameSelect_leaves_ring :
    Radeon.vixPlaybackFrameSelect (tableOf true 2 distinctRows) 2 =
        some (.written (Radeon.baseAdrs distinctRows 2 1)) ∧
      Radeonhd.vixPlaybackFrameSelect (tableOf true 2 distinctRows) 2 = some 2 ∧
      ¬ Radeon.InRing true 2 2 ∧ ¬ Radeonhd.InRing true 2 2 := by
  refine ⟨by decide, by decide, fun h => ?_, fun h => ?_⟩
  · rcases h distinctRows with hnone | ⟨c, hc, hsome⟩
    · revert hnone
      decide
    · revert c
      decide
  · rcases h distinctRows with hnone | ⟨c, hc, hsome⟩
    · revert hnone
      decide
    · revert c
      decide

end Vidix
