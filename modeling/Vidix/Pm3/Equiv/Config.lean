import Vidix.Pm3.Config
import Vidix.Equiv.Negotiation
import Vidix.Util.Table
import Vidix.Util.Holds

/-!
# Where the pm3 driver puts the frames

The frames are the end of the 32 megabytes that `vixInit` maps, and as many are granted as have room
in the megabytes that the driver has been told to use.  Nothing checks that these are 32 at most, or
that there is room for one frame: `memoryPlacement_iff`.
-/

namespace Vidix.Pm3

open Util

/-- The memory that `vixInit` maps, in bytes. -/
def mappedBytes : ℤ := 2 ^ 25

/-- One frame is granted at least and no more than were asked for, and all of them lie in the
memory that is mapped. -/
structure Placed (requested : UInt32) (info : VidixPlayback) (vidBase : Int32) : Prop where
  one : 1 ≤ info.numFrames.toNat
  asked : info.numFrames.toNat ≤ requested.toNat
  base_nonneg : 0 ≤ vidBase.toInt
  inside : vidBase.toInt + (info.numFrames.toNat * info.frameSize.toNat : ℕ) ≤ mappedBytes

/-! ### The divisions -/

/-- The divisions that scale a request are defined. -/
structure Scales (info : VidixPlayback) : Prop where
  width : 4 ≤ info.dest.w.toNat
  height : info.src.h.toInt32 - 1 = info.dest.h.toInt32 ∨
    Divides ((info.src.h.toInt32 - 1) <<< 16) info.dest.h.toInt32

/-- A width that is rounded down to a multiple of four can be divided by unless it is zero. -/
theorem divides_rounded_iff (a d : Int32) :
    Divides a (d &&& ~~~0x3) ↔ 4 ≤ d.toUInt32.toNat := by
  have hround : (d &&& ~~~0x3).toUInt32.toNat = d.toUInt32.toNat / 2 ^ 2 * 2 ^ 2 := by
    rw [Int32.toUInt32_and, Int32.toUInt32_not]
    exact toNat_and_not_mask rfl (by decide)
  have hzero : d &&& ~~~0x3 = 0 ↔ d.toUInt32.toNat / 2 ^ 2 * 2 ^ 2 = 0 := by
    rw [← hround]
    constructor
    · intro h
      rw [h]
      rfl
    · intro h
      have hword : (d &&& ~~~0x3).toUInt32 = 0 := UInt32.toNat_inj.mp h
      rw [← Int32.toInt32_toUInt32 (d &&& ~~~0x3), hword]
      rfl
  have hminus : d &&& ~~~0x3 ≠ -1 := by
    intro h
    have hword : (d &&& ~~~0x3).toUInt32.toNat = 2 ^ 32 - 1 := by
      rw [h]
      rfl
    omega
  unfold Divides
  rw [Ne, hzero]
  constructor
  · intro h
    have hne := h.1
    omega
  · exact fun h => ⟨by omega, fun hmin => hminus hmin.2⟩

theorem scaleDelta_isSome_iff (mask srcW dstW : Int32) :
    (scaleDelta mask srcW dstW).isSome ↔ Divides (srcW <<< 16) dstW := by
  unfold scaleDelta
  exact (isSome_quotient_bind_iff _ _ _).trans (and_iff_left rfl)

theorem computeScaleFactor_isSome_iff (srcW dstW : Int32) :
    (computeScaleFactor srcW dstW).isSome ↔ 4 ≤ dstW.toUInt32.toNat := by
  unfold computeScaleFactor
  dsimp only
  split_ifs
  · rw [Option.isSome_map, scaleDelta_isSome_iff, divides_rounded_iff]
  · rw [Option.isSome_map, scaleDelta_isSome_iff, divides_rounded_iff]

theorem yDelta_isSome_iff (srcH drwH : Int32) :
    (yDelta srcH drwH).isSome ↔ srcH = drwH ∨ Divides (srcH <<< 16) drwH := by
  unfold yDelta
  split_ifs with h
  · exact iff_of_true rfl (.inl h)
  · rw [Option.isSome_map, quotient_isSome_iff, or_iff_right h]

theorem pm3SetupOverlay_isSome_iff (info : VidixPlayback) (vidBase : Int32) :
    (pm3SetupOverlay info.fourcc info.src.w.toInt32 (info.src.h.toInt32 - 1) info.dest.w.toInt32
      info.dest.h.toInt32 vidBase).isSome ↔ Scales info := by
  have hwidth := computeScaleFactor_isSome_iff info.src.w.toInt32 info.dest.w.toInt32
  have hheight := yDelta_isSome_iff (info.src.h.toInt32 - 1) info.dest.h.toInt32
  rw [UInt32.toUInt32_toInt32] at hwidth
  rw [show Scales info ↔ _ ∧ _ from ⟨fun h => ⟨h.width, h.height⟩, fun h => ⟨h.1, h.2⟩⟩,
    ← hwidth, ← hheight]
  unfold pm3SetupOverlay
  cases computeScaleFactor info.src.w.toInt32 info.dest.w.toInt32 with
  | none => simp
  | some scale =>
    cases yDelta (info.src.h.toInt32 - 1) info.dest.h.toInt32 with
    | none => simp
    | some y => simp

/-! ### The frames -/

/-- The bytes of a frame, in the 32 bits of `frame_size`. -/
def frameBytes (info : VidixPlayback) : ℕ := info.src.w.toNat * info.src.h.toNat * 2 % 2 ^ 32

theorem frameSize_toNat (info : VidixPlayback) :
    (info.src.w.toInt32 * info.src.h.toInt32 * 2).toUInt32.toNat = frameBytes info := by
  unfold frameBytes
  rw [Int32.toUInt32_mul, Int32.toUInt32_mul, UInt32.toUInt32_toInt32, UInt32.toUInt32_toInt32,
    UInt32.toNat_mul, UInt32.toNat_mul, Nat.mod_mul_mod]
  rfl

theorem grantedFrames_toNat (vidmem : Int32) (frameSize numFrames : UInt32) :
    (grantedFrames vidmem frameSize numFrames).toNat =
      min numFrames.toNat (min ((windowBytes vidmem).toNat / frameSize.toNat) 1024) := by
  have hcapped := cappedFrames_toNat (windowBytes vidmem / frameSize)
  rw [UInt32.toNat_div] at hcapped
  unfold grantedFrames
  dsimp only
  rw [← hcapped]
  have hlt := UInt32.lt_iff_toNat_lt (a := cappedFrames (windowBytes vidmem / frameSize))
    (b := numFrames)
  split_ifs with h
  · have hle := hlt.mp h
    omega
  · have hnot : ¬ _ := fun h' => h (hlt.mpr h')
    omega

/-- The frames granted have room in the megabytes that the driver uses. -/
theorem granted_mul_le (n v f : ℕ) : min n (min (v / f) 1024) * f ≤ v :=
  (Nat.mul_le_mul_right f ((Nat.min_le_right _ _).trans (Nat.min_le_left _ _))).trans
    (Nat.div_mul_le_self v f)

/-- The frames are at the end of the memory iff they are no larger than it. -/
theorem vidBaseOf_inside_iff (size : UInt32) :
    0 ≤ (vidBaseOf size).toInt ∧ (vidBaseOf size).toInt + size.toNat ≤ mappedBytes ↔
      size.toNat ≤ 2 ^ 25 := by
  have hsize := size.toNat_lt
  have hbase := toInt_toInt32 (32 * 1024 * 1024 - size)
  have hsub : (32 * 1024 * 1024 - size).toNat = (2 ^ 32 - size.toNat + 2 ^ 25) % 2 ^ 32 := by
    rw [UInt32.toNat_sub]
    rfl
  rw [hsub] at hbase
  unfold vidBaseOf mappedBytes
  rw [hbase]
  split_ifs <;> omega

/-! ### `vixConfigPlayback` -/

variable {vidmem : Int32} {mem : UInt64} {info info' : VidixPlayback} {settings : Settings}

/-- What a call that returns has granted. -/
theorem vixConfigPlayback_granted
    (h : vixConfigPlayback vidmem mem info = some (0, info', settings)) :
    info'.frameSize.toNat = frameBytes info ∧
      info'.numFrames.toNat = min info.numFrames.toNat
        (min ((windowBytes vidmem).toNat / frameBytes info) 1024) ∧
      settings.vidBase = vidBaseOf (info'.numFrames * info'.frameSize) := by
  have hframe := frameSize_toNat info
  unfold vixConfigPlayback at h
  dsimp only at h
  split at h
  · cases h
  · obtain ⟨overlay, -, h⟩ := Option.map_eq_some_iff.mp h
    simp only [Prod.mk.injEq, true_and] at h
    obtain ⟨rfl, rfl⟩ := h
    refine ⟨hframe, ?_, rfl⟩
    rw [← hframe]
    exact grantedFrames_toNat _ _ _

/-- A call returns iff nothing divides by zero. -/
theorem vixConfigPlayback_returns_iff (vidmem : Int32) (mem : UInt64) (info : VidixPlayback) :
    (∃ info' settings, vixConfigPlayback vidmem mem info = some (0, info', settings)) ↔
      frameBytes info ≠ 0 ∧ Scales info := by
  have hframe := frameSize_toNat info
  unfold vixConfigPlayback
  dsimp only
  split
  · rename_i hzero
    rw [hzero] at hframe
    refine iff_of_false ?_ fun h => h.1 hframe.symm
    rintro ⟨info', settings, h⟩
    cases h
  · rename_i hne
    have hbytes : frameBytes info ≠ 0 := by
      rw [← hframe]
      exact fun h => hne (UInt32.toNat_inj.mp h)
    rw [← pm3SetupOverlay_isSome_iff info (vidBaseOf _), and_iff_right hbytes,
      Option.isSome_iff_exists]
    constructor
    · rintro ⟨info', settings, h⟩
      obtain ⟨overlay, hoverlay, -⟩ := Option.map_eq_some_iff.mp h
      exact ⟨overlay, hoverlay⟩
    · rintro ⟨overlay, hoverlay⟩
      exact ⟨_, _, by rw [hoverlay]; rfl⟩

/-- What a call that returns has granted is right iff one frame has room in the megabytes that the
driver uses and the frames granted have room in the memory that is mapped. -/
theorem placed_iff (h : vixConfigPlayback vidmem mem info = some (0, info', settings))
    (hnum : 1 ≤ info.numFrames.toNat) (hne : frameBytes info ≠ 0) :
    Placed info.numFrames info' settings.vidBase ↔
      frameBytes info ≤ (windowBytes vidmem).toNat ∧
        min info.numFrames.toNat (min ((windowBytes vidmem).toNat / frameBytes info) 1024) *
          frameBytes info ≤ 2 ^ 25 := by
  obtain ⟨hframe, hgranted, hbase⟩ := vixConfigPlayback_granted h
  have hroom := granted_mul_le info.numFrames.toNat (windowBytes vidmem).toNat (frameBytes info)
  have hwindow := (windowBytes vidmem).toNat_lt
  have hsize : (info'.numFrames * info'.frameSize).toNat =
      info'.numFrames.toNat * info'.frameSize.toNat := by
    rw [UInt32.toNat_mul, hgranted, hframe, Nat.mod_eq_of_lt (by omega)]
  have hinside := vidBaseOf_inside_iff (info'.numFrames * info'.frameSize)
  rw [← hbase, hsize, hframe, hgranted] at hinside
  have hone : 1 ≤ info'.numFrames.toNat ↔ frameBytes info ≤ (windowBytes vidmem).toNat := by
    rw [hgranted, ← Nat.one_le_div_iff (Nat.pos_of_ne_zero hne)]
    omega
  rw [← hone, ← hinside]
  constructor
  · intro hp
    have hend := hp.inside
    rw [hframe, hgranted] at hend
    exact ⟨hp.one, hp.base_nonneg, hend⟩
  · rintro ⟨hfirst, hnonneg, hend⟩
    refine ⟨hfirst, by rw [hgranted]; omega, hnonneg, ?_⟩
    rw [hframe, hgranted]
    exact hend

/-- What is granted is right whenever the call returns iff it does not return or there is room. -/
theorem forall_placed_iff (vidmem : Int32) (mem : UInt64) (info : VidixPlayback)
    (hnum : 1 ≤ info.numFrames.toNat) :
    (∀ info' settings, vixConfigPlayback vidmem mem info = some (0, info', settings) →
        Placed info.numFrames info' settings.vidBase) ↔
      (frameBytes info ≠ 0 → Scales info →
        frameBytes info ≤ (windowBytes vidmem).toNat ∧
          min info.numFrames.toNat (min ((windowBytes vidmem).toNat / frameBytes info) 1024) *
            frameBytes info ≤ 2 ^ 25) := by
  have hreturns := vixConfigPlayback_returns_iff vidmem mem info
  constructor
  · intro h hne hscales
    obtain ⟨info', settings, hconfig⟩ := hreturns.mpr ⟨hne, hscales⟩
    exact (placed_iff hconfig hnum hne).mp (h info' settings hconfig)
  · intro h info' settings hconfig
    obtain ⟨hne, hscales⟩ := hreturns.mp ⟨info', settings, hconfig⟩
    exact (placed_iff hconfig hnum hne).mpr (h hne hscales)

/-- **Where the frames are placed.**  For every argument of `vixInit`, whatever the options were
before it, and every request for at least one frame of a source that is not empty: what is granted
is right whenever the call returns iff it does not return, or one frame has room in the megabytes
that the driver uses and the frames granted have room in the memory that is mapped. -/
theorem memoryPlacement_iff (o : Options) (args : Option (List Char)) (mem : UInt64)
    (info : VidixPlayback) (hnum : 1 ≤ info.numFrames.toNat) :
    (∀ info' settings, vixConfigPlayback (vixInit o args).pm3Vidmem mem info =
        some (0, info', settings) → Placed info.numFrames info' settings.vidBase) ↔
      (frameBytes info ≠ 0 → Scales info →
        frameBytes info ≤ (windowBytes (vixInit o args).pm3Vidmem).toNat ∧
          min info.numFrames.toNat
            (min ((windowBytes (vixInit o args).pm3Vidmem).toNat / frameBytes info) 1024) *
              frameBytes info ≤ 2 ^ 25) :=
  forall_placed_iff (vixInit o args).pm3Vidmem mem info hnum

/-- A request for some frames of 1024 by 1024 pixels in YUY2, shown as they are. -/
def squareRequest (numFrames : UInt32) : VidixPlayback where
  fourcc := imgfmtYUY2
  src := { x := 0, y := 0, w := 1024, h := 1024, pitch := ⟨0, 0, 0⟩ }
  dest := { x := 0, y := 0, w := 1024, h := 1024, pitch := ⟨0, 0, 0⟩ }
  frameSize := 0
  numFrames := numFrames
  offsets := []
  offset := ⟨0, 0, 0⟩
  dgaAddr := 0

/-- Sixteen frames of two megabytes are the whole memory. -/
theorem memoryPlacement_sample : 1 ≤ (squareRequest 16).numFrames.toNat ∧
    ∀ info' settings,
      vixConfigPlayback (vixInit defaultOptions (some "mem=32".toList)).pm3Vidmem 0
          (squareRequest 16) = some (0, info', settings) →
        Placed 16 info' settings.vidBase :=
  ⟨by decide, (memoryPlacement_iff defaultOptions (some "mem=32".toList) 0 (squareRequest 16)
    (by decide)).mpr fun _ _ => by decide⟩

/-- **Told to use 64 megabytes, the driver grants thirty frames of two megabytes**, which begin
before the memory that is mapped. -/
theorem vidBase_negative :
    ∃ info' settings,
      vixConfigPlayback (vixInit defaultOptions (some "mem=64".toList)).pm3Vidmem 0
          (squareRequest 30) = some (0, info', settings) ∧
        info'.numFrames = 30 ∧ settings.vidBase.toInt = -29360128 ∧
        ¬ Placed 30 info' settings.vidBase := by
  refine ⟨_, _, rfl, by decide, by decide, fun h => ?_⟩
  exact absurd h.base_nonneg (by decide)

/-! ### The options -/

/-- The megabytes that the driver uses are 32 at most. -/
theorem windowBytes_toNat {n : ℕ} (hn : Holds vidmem n) (hle : n ≤ 32) :
    (windowBytes vidmem).toNat = n * 2 ^ 20 := by
  have hone : Holds (vidmem * 1024) (n * 1024) :=
    hn.mul (show Holds 1024 1024 from rfl) (by omega)
  have htwo : Holds (vidmem * 1024 * 1024) (n * 1024 * 1024) :=
    hone.mul (show Holds 1024 1024 from rfl) (by omega)
  rw [windowBytes, htwo.toNat_toUInt32]
  omega

/-- **With 32 megabytes at most, as with the 24 of a driver without arguments,** only a frame that
is larger than these is not placed right. -/
theorem memoryPlacement_of_le {o : Options} {args : Option (List Char)} {n : ℕ}
    (hn : Holds (vixInit o args).pm3Vidmem n) (hle : n ≤ 32) (mem : UInt64)
    (hnum : 1 ≤ info.numFrames.toNat) :
    (∀ info' settings, vixConfigPlayback (vixInit o args).pm3Vidmem mem info =
        some (0, info', settings) → Placed info.numFrames info' settings.vidBase) ↔
      (frameBytes info ≠ 0 → Scales info → frameBytes info ≤ n * 2 ^ 20) := by
  have hroom := granted_mul_le info.numFrames.toNat (n * 2 ^ 20) (frameBytes info)
  rw [forall_placed_iff _ mem info hnum, windowBytes_toNat hn hle]
  refine forall_congr' fun _ => forall_congr' fun _ => and_iff_left ?_
  omega

/-- A hexadecimal number is read as what it says. -/
theorem strtol_hex {k n : ℕ} (hk : 0 < k) (hn : n < 16 ^ k) (hlong : n < 2 ^ 63) :
    strtol ('0' :: 'x' :: fixedHex k n) = n := by
  have hdigit : ∀ c ∈ fixedHex k n, isDigitOf 16 c = true := fun _ => isDigitOf_of_mem_fixedHex
  have hvalue := digitsValue_fixedHex hn
  have hne : fixedHex k n ≠ [] := by
    obtain ⟨k, rfl⟩ := Nat.exists_eq_succ_of_ne_zero hk.ne'
    exact List.append_ne_nil_of_right_ne_nil _ (List.cons_ne_nil _ _)
  generalize fixedHex k n = digits at hdigit hvalue hne ⊢
  obtain ⟨c, digits, rfl⟩ := List.exists_cons_of_ne_nil hne
  have hbase : readBase ('0' :: 'x' :: c :: digits) = (16, c :: digits) := by
    have hc := hdigit c List.mem_cons_self
    simp [readBase, hc]
  have hall : (c :: digits).takeWhile (isDigitOf 16) = c :: digits :=
    List.takeWhile_eq_self_iff.mpr hdigit
  have hsign : readSign (('0' :: 'x' :: c :: digits).dropWhile isSpace) =
      (false, '0' :: 'x' :: c :: digits) := rfl
  unfold strtol
  rw [hsign]
  dsimp only
  rw [hbase]
  dsimp only
  rw [hall, hvalue, if_neg Bool.false_ne_true]
  omega

/-- **Every number of megabytes can be asked for.** -/
theorem vixInit_mem (o : Options) {k n : ℕ} (hk : 0 < k) (hn : n < 16 ^ k) (hint : n < 2 ^ 31) :
    Holds (vixInit o (some ("mem=0x".toList ++ fixedHex k n))).pm3Vidmem n := by
  have hcomma : ∀ c ∈ "mem=0x".toList ++ fixedHex k n, (c == ',') = false := by
    have hname : ∀ c ∈ "mem=0x".toList, (c == ',') = false :=
      forall_mem_of_all (by decide)
    intro c hc
    rcases List.mem_append.mp hc with hc | hc
    · exact hname c hc
    · have hdigit := isDigitOf_of_mem_fixedHex hc
      by_contra hcomma
      obtain rfl := beq_iff_eq.mp (Bool.eq_true_of_not_eq_false hcomma)
      exact absurd hdigit (by decide)
  have htokens : tokens ("mem=0x".toList ++ fixedHex k n) = ["mem=0x".toList ++ fixedHex k n] := by
    rw [tokens, List.splitOnP_eq_singleton hcomma]
    rfl
  have hoption : splitOption ("mem=0x".toList ++ fixedHex k n) =
      ("mem".toList, some ('0' :: 'x' :: fixedHex k n)) := rfl
  rw [vixInit, htokens, List.foldl_cons, List.foldl_nil, readOption, hoption]
  dsimp only
  rw [if_pos rfl, strtol_hex hk hn (by omega)]
  exact Int32.toInt_ofInt_of_le (by omega) (by omega)

end Vidix.Pm3
