import Vidix.Mga.Config
import Vidix.Util.DescendingSearch
import Vidix.Util.Region
import Vidix.Util.Word

/-!
# Frame placement of the Matrox driver

The base address leaves room for one frame more than are granted, but of the size that the request
brought along.  What is laid out behind it are frames of the size of the request's own picture.  So
the frames are well placed iff they fit into what lies behind the base
(`vixConfigPlayback_placed_iff`).  A fresh request, with zero in the field, gets the upper half of
the memory for all its frames.
-/

namespace Vidix.Mga

open Util

/-- The bytes of video memory. -/
def RamSize.bytes (ram : RamSize) : ℕ := ram.mb.toNat * 2 ^ 20

theorem RamSize.bytes_le (ram : RamSize) : ram.bytes ≤ 2 ^ 26 := by
  have hmb : ram.mb.toNat ≤ 64 := UInt32.le_iff_toNat_le.mp ram.le_64
  unfold RamSize.bytes
  omega

/-- The frames that are reported lie inside the memory and do not overlap. -/
structure FramesPlaced (ram : RamSize) (requested : UInt32) (base : Int32)
    (config : VidixPlayback) : Prop where
  numFrames_pos : 1 ≤ config.numFrames.toNat
  numFrames_le : config.numFrames.toNat ≤ requested.toNat
  base_nonneg : 0 ≤ base.toInt
  inside : ∀ i < config.numFrames.toNat, ∃ o, config.offsets[i]? = some o ∧
    base.toInt + o.toNat + config.frameSize.toNat ≤ ram.bytes
  disjoint : ∀ i j o o', i < j → j < config.numFrames.toNat → config.offsets[i]? = some o →
    config.offsets[j]? = some o' → o.toNat + config.frameSize.toNat ≤ o'.toNat

/-! ### The base address -/

/-- The test of the loop at `n` frames. -/
def baseTest (ram : RamSize) (frameSize : UInt32) (n : ℕ) : Bool := 0 ≤ srcBaseAt ram frameSize n

variable {ram : RamSize} {frameSize stale : UInt32}

theorem baseTest_iff {n : ℕ} : baseTest ram stale n = true ↔ 0 ≤ (srcBaseAt ram stale n).toInt := by
  unfold baseTest
  rw [decide_eq_true_eq, Int32.le_iff_toInt_le]
  rfl

/-- The loop is a descending search that keeps `mga_src_base`. -/
theorem baseLoop_eq (n : ℕ) (base : Int32) :
    baseLoop ram stale n base =
      descendWith (srcBaseAt ram stale) (fun base => 0 ≤ base) n base := by
  induction n generalizing base with
  | zero => rfl
  | succ n ih =>
    rw [baseLoop, descendWith, ih]
    simp only [decide_eq_true_eq]

theorem baseLoop_fst (n : ℕ) (base : Int32) :
    (baseLoop ram stale n base).1 = descend (baseTest ram stale) n := by
  rw [baseLoop_eq, descendWith_fst]
  rfl

/-- `mga_src_base` is the base of the number found. -/
theorem baseLoop_snd {n : ℕ} {base : Int32} (h : 0 < (baseLoop ram stale n base).1) :
    (baseLoop ram stale n base).2 = srcBaseAt ram stale (baseLoop ram stale n base).1 := by
  rw [baseLoop_eq] at h ⊢
  exact descendWith_snd h

/-- `n` is the largest number up to `numFrames` that the test accepts for the size `stale`, and
behind its base is room for `n` frames of `frameSize` bytes. -/
def RoomBehind (ram : RamSize) (stale frameSize : UInt32) (numFrames n : ℕ) : Prop :=
  1 ≤ n ∧ n ≤ numFrames ∧ baseTest ram stale n = true ∧
    (∀ m, n < m → m ≤ numFrames → ¬ baseTest ram stale m = true) ∧
    (srcBaseAt ram stale n).toInt + n * frameSize.toNat ≤ ram.bytes

/-- The number that has room is the one that the loop finds. -/
theorem exists_roomBehind_iff {numFrames : ℕ} :
    (∃ n, RoomBehind ram stale frameSize numFrames n) ↔
      0 < descend (baseTest ram stale) numFrames ∧
        (srcBaseAt ram stale (descend (baseTest ram stale) numFrames)).toInt +
          descend (baseTest ram stale) numFrames * frameSize.toNat ≤ ram.bytes := by
  constructor
  · rintro ⟨n, hpos, hle, hp, hlast, hroom⟩
    have hn : n ≤ descend (baseTest ram stale) numFrames := le_descend hpos hle hp
    have heq : descend (baseTest ram stale) numFrames = n := by
      by_contra hne
      have hacc : baseTest ram stale (descend (baseTest ram stale) numFrames) = true :=
        descend_accepted (by omega)
      exact hlast _ (by omega) (descend_le _) hacc
    rw [heq]
    exact ⟨hpos, hroom⟩
  · rintro ⟨hpos, hroom⟩
    refine ⟨_, hpos, descend_le _, descend_accepted hpos, fun m hm hmN hp => ?_, hroom⟩
    have := le_descend (by omega) hmN hp
    omega

/-! ### The frames -/

theorem frameOffsets_getElem {numFrames : UInt32} {i : ℕ} (hi : i < numFrames.toNat) :
    (frameOffsets frameSize numFrames)[i]? = some (UInt32.ofNat i * frameSize) := by
  unfold frameOffsets
  rw [List.getElem?_map, List.getElem?_range (by omega)]
  rfl

/-- Up to 64 frames that are not larger than the memory begin where they should. -/
theorem toNat_offset {i : ℕ} (hi : i < 64) (hsize : frameSize.toNat ≤ 2 ^ 26) :
    (UInt32.ofNat i * frameSize).toNat = i * frameSize.toNat := by
  have hprod : i * frameSize.toNat ≤ 63 * 2 ^ 26 := Nat.mul_le_mul (by omega) hsize
  rw [UInt32.toNat_mul, UInt32.toNat_ofNat', Nat.mod_eq_of_lt (show i < 2 ^ 32 by omega),
    Nat.mod_eq_of_lt (by omega)]

/-- The layout is well placed iff its end is inside the memory. -/
theorem framesPlaced_iff {requested : UInt32} {base : Int32} {config : VidixPlayback}
    (hpos : 1 ≤ config.numFrames.toNat) (hle : config.numFrames.toNat ≤ requested.toNat)
    (h64 : config.numFrames.toNat ≤ 64) (hbase : 0 ≤ base.toInt)
    (hoff : config.offsets = frameOffsets config.frameSize config.numFrames) :
    FramesPlaced ram requested base config ↔
      base.toInt + config.numFrames.toNat * config.frameSize.toNat ≤ ram.bytes := by
  have hbytes := ram.bytes_le
  have hget : ∀ i < config.numFrames.toNat,
      config.offsets[i]? = some (UInt32.ofNat i * config.frameSize) := fun i hi => by
    rw [hoff, frameOffsets_getElem hi]
  have hprod : (config.numFrames.toNat : ℤ) * config.frameSize.toNat =
      ((config.numFrames.toNat * config.frameSize.toNat : ℕ) : ℤ) := by push_cast; rfl
  rw [hprod]
  constructor
  · intro h
    obtain ⟨o, ho, hin⟩ := h.inside (config.numFrames.toNat - 1) (by omega)
    rw [hget _ (by omega)] at ho
    obtain rfl := Option.some.inj ho
    rw [toNat_offset (by omega) (by omega)] at hin
    have hlast : (config.numFrames.toNat - 1) * config.frameSize.toNat + config.frameSize.toNat =
        config.numFrames.toNat * config.frameSize.toNat := by
      rw [← Nat.succ_mul]
      congr 1
      omega
    omega
  · intro hend
    have hsize : config.frameSize.toNat ≤ 2 ^ 26 := by
      have := Nat.le_mul_of_pos_left config.frameSize.toNat hpos
      omega
    refine ⟨hpos, hle, hbase, fun i hi => ⟨_, hget i hi, ?_⟩, ?_⟩
    · have := slot_le hi config.frameSize.toNat
      rw [toNat_offset (by omega) hsize]
      omega
    · intro i j o o' hij hj ho ho'
      rw [hget i (by omega)] at ho
      rw [hget j hj] at ho'
      obtain rfl := Option.some.inj ho
      obtain rfl := Option.some.inj ho'
      rw [toNat_offset (by omega) hsize, toNat_offset (by omega) hsize]
      exact slot_le hij _

/-! ### `vixConfigPlayback` -/

/-- What a call owes its caller, if at least one frame was asked for. -/
def PlacementHolds (d : Driver) (config : VidixPlayback) : Prop :=
  1 ≤ config.numFrames.toNat → (vixConfigPlayback d config).1 = 0 →
    FramesPlaced d.mgaRamSize config.numFrames (vixConfigPlayback d config).2.1.mgaSrcBase
      (vixConfigPlayback d config).2.2

/-- Source and destination are large enough, and the format is supported. -/
def Accepted (config : VidixPlayback) : Prop :=
  validSizes config = true ∧ (isPlanar config.fourcc || isPacked config.fourcc) = true

/-- The base and the number of frames that a call chooses. -/
def chosen (d : Driver) (config : VidixPlayback) : ℕ × Int32 :=
  baseLoop d.mgaRamSize config.frameSize (checkedFrames config.numFrames).toNat d.mgaSrcBase

theorem vixConfigPlayback_of_accepted {config : VidixPlayback} (d : Driver)
    (h : Accepted config) :
    (vixConfigPlayback d config).1 = 0 ∧
      (vixConfigPlayback d config).2.1.mgaSrcBase = (chosen d config).2 ∧
      (vixConfigPlayback d config).2.2.numFrames = UInt32.ofNat (chosen d config).1 ∧
      (vixConfigPlayback d config).2.2.frameSize = frameSizeOf config ∧
      (vixConfigPlayback d config).2.2.offsets =
        frameOffsets (frameSizeOf config) (UInt32.ofNat (chosen d config).1) := by
  obtain ⟨hsizes, hformat⟩ := h
  have hsizes' : ∀ n dga, validSizes { config with numFrames := n, dgaAddr := dga } = true :=
    fun _ _ => hsizes
  unfold vixConfigPlayback chosen
  dsimp only
  rw [hsizes', hformat]
  exact ⟨rfl, rfl, rfl, rfl, rfl⟩

theorem vixConfigPlayback_of_not_accepted {config : VidixPlayback} (d : Driver)
    (h : ¬ Accepted config) : (vixConfigPlayback d config).1 ≠ 0 := by
  have hsizes' : ∀ n dga, validSizes { config with numFrames := n, dgaAddr := dga } =
      validSizes config := fun _ _ => rfl
  unfold vixConfigPlayback
  dsimp only
  rw [hsizes']
  by_cases hsizes : validSizes config = true
  · have hformat : ¬ (isPlanar config.fourcc || isPacked config.fourcc) = true :=
      fun hformat => h ⟨hsizes, hformat⟩
    rw [hsizes, if_neg (by decide), if_pos (by simpa using hformat)]
    show enotsup ≠ 0
    decide
  · rw [if_pos (by simpa using hsizes)]
    show einval ≠ 0
    decide

/-- The number of frames that the loop begins with. -/
theorem checkedFrames_bounds {numFrames : UInt32} (hpos : 1 ≤ numFrames.toNat) :
    1 ≤ (checkedFrames numFrames).toNat ∧ (checkedFrames numFrames).toNat ≤ 64 ∧
      (checkedFrames numFrames).toNat ≤ numFrames.toNat := by
  have hdefault : mgaDefaultFrames.toNat = 64 := rfl
  have hone : (1 : UInt32).toNat = 1 := rfl
  unfold checkedFrames
  split_ifs with h
  · rw [Bool.or_eq_true, decide_eq_true_eq, decide_eq_true_eq, gt_iff_lt, UInt32.lt_iff_toNat_lt,
      UInt32.lt_iff_toNat_lt, hdefault, hone] at h
    omega
  · rw [Bool.or_eq_true, decide_eq_true_eq, decide_eq_true_eq, gt_iff_lt, UInt32.lt_iff_toNat_lt,
      UInt32.lt_iff_toNat_lt, hdefault, hone] at h
    omega

/-- The frames are well placed iff, behind the base that the stale size gives, there is room for
frames of the new size. -/
theorem placementHolds_iff (d : Driver) (config : VidixPlayback) :
    PlacementHolds d config ↔
      (1 ≤ config.numFrames.toNat → Accepted config →
        ∃ n, RoomBehind d.mgaRamSize config.frameSize (frameSizeOf config)
          (checkedFrames config.numFrames).toNat n) := by
  unfold PlacementHolds
  refine forall_congr' fun hreq => ?_
  by_cases h : Accepted config
  · obtain ⟨hret, hbase, hn, hsize, hoff⟩ := vixConfigPlayback_of_accepted d h
    obtain ⟨-, h64, hle⟩ := checkedFrames_bounds hreq
    rw [forall_prop_of_true hret, forall_prop_of_true h, exists_roomBehind_iff]
    have hfst : descend (baseTest d.mgaRamSize config.frameSize)
        (checkedFrames config.numFrames).toNat = (chosen d config).1 := (baseLoop_fst _ _).symm
    have hfound : (chosen d config).1 ≤ (checkedFrames config.numFrames).toNat :=
      hfst ▸ descend_le _
    have hnat : (vixConfigPlayback d config).2.2.numFrames.toNat = (chosen d config).1 := by
      rw [hn, UInt32.toNat_ofNat', Nat.mod_eq_of_lt (by omega)]
    rw [hfst, hbase]
    by_cases hpos : 0 < (chosen d config).1
    · have hsnd : (chosen d config).2 =
          srcBaseAt d.mgaRamSize config.frameSize (chosen d config).1 := baseLoop_snd hpos
      have hnonneg : 0 ≤ (chosen d config).2.toInt := by
        rw [hsnd, ← baseTest_iff, ← hfst]
        exact descend_accepted (hfst ▸ hpos)
      rw [framesPlaced_iff (by omega) (by omega) (by omega) hnonneg (by rw [hoff, hsize, hn]),
        hnat, hsize, hsnd]
      exact ⟨fun hend => ⟨hpos, hend⟩, And.right⟩
    · refine iff_of_false (fun hplaced => ?_) (fun hroom => hpos hroom.1)
      have := hplaced.numFrames_pos
      omega
  · refine iff_of_true (fun hret => ?_) fun hacc => absurd hacc h
    exact absurd hret (vixConfigPlayback_of_not_accepted d h)

/-! ### Fresh requests -/

/-- Zero in the field puts the base at half of the memory. -/
theorem srcBaseAt_zero (ram : RamSize) (n : ℕ) :
    (srcBaseAt ram 0 n).toInt = ram.mb.toNat / 2 * 2 ^ 20 := by
  have hmb : ram.mb.toNat ≤ 64 := UInt32.le_iff_toNat_le.mp ram.le_64
  have hhalf : (ram.mb / 2 * 0x100000).toNat = ram.mb.toNat / 2 * 2 ^ 20 := by
    rw [UInt32.toNat_mul, UInt32.toNat_div, show (2 : UInt32).toNat = 2 from rfl,
      show (0x100000 : UInt32).toNat = 2 ^ 20 from rfl, Nat.mod_eq_of_lt (by omega)]
  unfold srcBaseAt
  rw [mul_zero, sub_zero, toInt_toInt32, toNat_and_high, hhalf, if_pos (by omega)]
  push_cast
  omega

/-- A request with zero in the field is placed well iff all its frames fit into the upper half of
the memory. -/
theorem placementHolds_fresh_iff {d : Driver} {config : VidixPlayback}
    (hfresh : config.frameSize = 0) (hreq : 1 ≤ config.numFrames.toNat) (h : Accepted config) :
    PlacementHolds d config ↔
      d.mgaRamSize.mb.toNat / 2 * 2 ^ 20 +
        (checkedFrames config.numFrames).toNat * (frameSizeOf config).toNat ≤
          d.mgaRamSize.bytes := by
  obtain ⟨hpos, -, -⟩ := checkedFrames_bounds hreq
  have hall : ∀ n, baseTest d.mgaRamSize 0 n = true := by
    intro n
    rw [baseTest_iff, srcBaseAt_zero]
    omega
  rw [placementHolds_iff, forall_prop_of_true hreq, forall_prop_of_true h, hfresh]
  constructor
  · rintro ⟨n, -, hle, -, hlast, hroom⟩
    -- every number passes the test, so that none is given up
    have hn : n = (checkedFrames config.numFrames).toNat := by
      by_contra hne
      exact hlast _ (by omega) le_rfl (hall _)
    rw [srcBaseAt_zero, hn] at hroom
    exact_mod_cast hroom
  · intro hroom
    refine ⟨_, hpos, le_rfl, hall _, fun m hm hle => absurd hle (not_le.mpr hm), ?_⟩
    rw [srcBaseAt_zero]
    exact_mod_cast hroom

/-- **The frames are well placed iff, behind the base that the stale size gives, there is room for
frames of the new size.**  With zero in the field that is the upper half of the memory. -/
theorem vixConfigPlayback_placed_iff (d : Driver) (config : VidixPlayback) :
    (PlacementHolds d config ↔
        (1 ≤ config.numFrames.toNat → Accepted config →
          ∃ n, RoomBehind d.mgaRamSize config.frameSize (frameSizeOf config)
            (checkedFrames config.numFrames).toNat n)) ∧
      (config.frameSize = 0 → 1 ≤ config.numFrames.toNat → Accepted config →
        (PlacementHolds d config ↔
          d.mgaRamSize.mb.toNat / 2 * 2 ^ 20 +
            (checkedFrames config.numFrames).toNat * (frameSizeOf config).toNat ≤
              d.mgaRamSize.bytes)) :=
  ⟨placementHolds_iff d config, fun hfresh hreq h => placementHolds_fresh_iff hfresh hreq h⟩

/-- A card with 16 MB. -/
def sampleDriver : Driver where
  mgaRamSize := ⟨16, by decide, by decide⟩
  mgaMemBase := 0x7f0000000000
  mgaSrcBase := 0

/-- Eleven frames of 720x576 in YUY2, with zero in the field for their size. -/
def sampleFrames : VidixPlayback := sampleRequest imgfmtYUY2 720 576 11

/-- **Eleven frames of 810 KB are laid out in the upper 8 MB,** where ten have room. -/
theorem vixConfigPlayback_overruns_ram :
    (vixConfigPlayback sampleDriver sampleFrames).1 = 0 ∧
      ¬ PlacementHolds sampleDriver sampleFrames := by
  refine ⟨by decide, fun h => ?_⟩
  have hroom := (placementHolds_fresh_iff rfl (by decide) ⟨by decide, by decide⟩).mp h
  revert hroom
  decide

end Vidix.Mga
