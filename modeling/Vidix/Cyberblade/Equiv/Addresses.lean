import Vidix.Cyberblade.Overlay
import Vidix.Cyberblade.Equiv.Config
import Vidix.Util.Table
import Vidix.Util.SplitAddress

/-!
# The plane addresses of the cyberblade driver

The chip has 20 bits for the start of a plane, and takes the three below them to be zero.  What the
driver computes is a multiple of eight but the place of the last plane of YVU9, whose chroma rows
are padded to four bytes; and it is below eight megabytes but when a frame ends with a chroma plane
that has no bytes at all and the frames fill their two megabytes (`startAddresses_iff`,
`begins_iff`).
-/

namespace Vidix.Cyberblade

open Util

/-! ### One register -/

variable {r reg : UInt8} {ports : Ports}

theorem outw_of_ne (h : r ≠ reg) (hnext : r ≠ reg + 1) (val : Int32) :
    outw reg val ports r = ports r := by
  unfold outw outb
  rw [Function.update_of_ne hnext, Function.update_of_ne h]

theorem setStart_of_not_mem {low middle high : UInt8} (h : r ∉ [low, middle, high])
    (start : Int64) : setStart low middle high start ports r = ports r := by
  simp only [List.mem_cons, List.not_mem_nil, or_false, not_or] at h
  unfold setStart outb
  rw [Function.update_of_ne h.2.2, Function.update_of_ne h.2.1, Function.update_of_ne h.1]

/-! ### The registers of one plane -/

/-- The number in the three registers of a start address. -/
def stored (ports : Ports) (low middle high : UInt8) : ℕ :=
  fromBytes (ports low).toNat (ports middle).toNat (ports high).toNat

theorem stored_congr {ports' : Ports} {low middle high : UInt8}
    (h : ∀ r ∈ [low, middle, high], ports' r = ports r) :
    stored ports' low middle high = stored ports low middle high := by
  simp only [List.forall_mem_cons] at h
  unfold stored
  rw [h.1, h.2.1, h.2.2.1]

/-- `(x >> k) & mask` in a byte. -/
theorem toNat_field (x n mask : Int64) {k w : ℕ} (hn : (n.toBitVec.smod 64).toNat = k)
    (hmask : mask.toUInt64.toNat = 2 ^ w - 1) (hw : w ≤ 8) :
    (((x >>> n) &&& mask).toUInt64.toUInt8.toNat : ℤ) = x.toInt / 2 ^ k % 2 ^ w := by
  have hbyte : (2 : ℕ) ^ w ≤ 2 ^ 8 := Nat.pow_le_pow_right (by decide) hw
  have hlong : (2 : ℤ) ^ w ∣ 2 ^ 64 := pow_dvd_pow 2 (by omega)
  have hlt : (x >>> n).toUInt64.toNat % 2 ^ w < 2 ^ w := Nat.mod_lt _ (by positivity)
  rw [UInt64.toNat_toUInt8]
  show ((((x >>> n).toUInt64 &&& mask.toUInt64).toNat % 2 ^ 8 : ℕ) : ℤ) = _
  rw [UInt64.toNat_and, hmask, Nat.and_two_pow_sub_one_eq_mod, Nat.mod_eq_of_lt (by omega)]
  push_cast
  rw [toNat_toUInt64, toInt_shiftRight_long x hn, Int.emod_emod_of_dvd _ hlong]

/-- **What the three registers hold of a start address.** -/
theorem stored_setStart {low middle high : UInt8} (hlow : low ∉ [middle, high])
    (hmiddle : middle ≠ high) {start : Int64} {a : ℤ} (hstart : start.toInt ≡ a [ZMOD 2 ^ 32])
    (ports : Ports) :
    (stored (setStart low middle high start ports) low middle high : ℤ) = a / 2 ^ 3 % 2 ^ 20 := by
  simp only [List.mem_cons, List.not_mem_nil, or_false, not_or] at hlow
  have h3 := toNat_field start 3 0xff (k := 3) (w := 8) rfl rfl (by decide)
  have h11 := toNat_field start 11 0xff (k := 11) (w := 8) rfl rfl (by decide)
  have h19 := toNat_field start 19 0xf (k := 19) (w := 4) rfl rfl (by decide)
  unfold Int.ModEq at hstart
  unfold stored setStart outb fromBytes
  simp only [Function.update_self, Function.update_of_ne hlow.1, Function.update_of_ne hlow.2,
    Function.update_of_ne hmiddle]
  omega

/-- **The registers of a plane hold its address iff that is in reach and a multiple of eight.** -/
theorem survives_iff_of_stored {n : ℕ} {a : ℤ} (hn : (n : ℤ) = a / 2 ^ 3 % 2 ^ 20) :
    Survives 3 n a ↔ (0 ≤ a ∧ a < 2 ^ 23) ∧ 8 ∣ a := by
  have hlt : n % 2 ^ 20 = n := Nat.mod_eq_of_lt (by omega)
  have hiff : Survives 3 (n % 2 ^ 20) a ↔ (0 ≤ a ∧ a < 2 ^ 23) ∧ 8 ∣ a :=
    survives_iff fun h0 hlt => by omega
  rwa [hlt] at hiff

/-! ### The planes of one frame -/

/-- The registers hold the addresses of the planes of the frame that begins at `frame`. -/
structure PlanesSurvive (s : State) (frame : ℕ) (offset : VidixYuv) : Prop where
  below : ∀ o ∈ [offset.y, offset.v, offset.u], frame + o.toNat < 2 ^ 23
  y : Survives 3 (stored s.cr 0x92 0x93 0x94) (frame + offset.y.toNat)
  v : Survives 3 (stored s.sr 0x80 0x81 0x82) (frame + offset.v.toNat)
  u : Survives 3 (stored s.sr 0x83 0x84 0x85) (frame + offset.u.toNat)

/-- The starts of the planes of `frame` have been written. -/
structure PlanesWritten (s : State) (frame : ℤ) (offset : VidixYuv) : Prop where
  y : (stored s.cr 0x92 0x93 0x94 : ℤ) = (frame + offset.y.toNat) / 2 ^ 3 % 2 ^ 20
  v : (stored s.sr 0x80 0x81 0x82 : ℤ) = (frame + offset.v.toNat) / 2 ^ 3 % 2 ^ 20
  u : (stored s.sr 0x83 0x84 0x85 : ℤ) = (frame + offset.u.toNat) / 2 ^ 3 % 2 ^ 20

variable {s s' : State} {frame : ℕ} {offset : VidixYuv}

theorem PlanesWritten.survive_iff (h : PlanesWritten s frame offset) :
    PlanesSurvive s frame offset ↔ ∀ o ∈ [offset.y, offset.v, offset.u],
      frame + o.toNat < 2 ^ 23 ∧ 8 ∣ frame + o.toNat := by
  have hy := survives_iff_of_stored h.y
  have hv := survives_iff_of_stored h.v
  have hu := survives_iff_of_stored h.u
  simp only [List.forall_mem_cons]
  constructor
  · rintro ⟨-, hsy, hsv, hsu⟩
    have hy' := hy.mp hsy
    have hv' := hv.mp hsv
    have hu' := hu.mp hsu
    exact ⟨by omega, by omega, by omega, List.forall_mem_nil _⟩
  · rintro ⟨hy', hv', hu', -⟩
    refine ⟨?_, hy.mpr (by omega), hv.mpr (by omega), hu.mpr (by omega)⟩
    simp only [List.forall_mem_cons]
    exact ⟨hy'.1, hv'.1, hu'.1, List.forall_mem_nil _⟩

/-! ### What has been written -/

theorem unprotected_of_ne (h : r ≠ 0x11) (f : Ports → Ports) :
    unprotected f ports r = f (outb 0x11 0x92 ports) r := by
  unfold unprotected
  exact Function.update_of_ne h _ _

theorem setEq_of_not_mem (h : r ∉ [0x11, 0xB0, 0xB1, 0xBC]) (brightness contrast : Int32) :
    setEq brightness contrast ports r = ports r := by
  simp only [List.mem_cons, List.not_mem_nil, or_false, not_or] at h
  unfold setEq
  rw [unprotected_of_ne h.1, outw_of_ne h.2.1 h.2.2.1, outb, Function.update_of_ne h.2.2.2, outb,
    Function.update_of_ne h.1]

/-- The chroma registers. -/
theorem setChromaStarts_stored {v u : Int64} {a b : ℤ} (hv : v.toInt ≡ a [ZMOD 2 ^ 32])
    (hu : u.toInt ≡ b [ZMOD 2 ^ 32]) (sr : Ports) :
    (stored (setChromaStarts v u sr) 0x80 0x81 0x82 : ℤ) = a / 2 ^ 3 % 2 ^ 20 ∧
      (stored (setChromaStarts v u sr) 0x83 0x84 0x85 : ℤ) = b / 2 ^ 3 % 2 ^ 20 := by
  unfold setChromaStarts
  have hfirst : (stored (setStart 0x80 0x81 0x82 v sr) 0x80 0x81 0x82 : ℤ) = a / 2 ^ 3 % 2 ^ 20 :=
    stored_setStart (by decide) (by decide) hv sr
  have hsame : stored (setStart 0x83 0x84 0x85 u (setStart 0x80 0x81 0x82 v sr)) 0x80 0x81 0x82 =
      stored (setStart 0x80 0x81 0x82 v sr) 0x80 0x81 0x82 := by
    refine stored_congr fun r hr => setStart_of_not_mem ?_ u
    simp only [List.mem_cons, List.not_mem_nil, or_false] at hr
    rcases hr with rfl | rfl | rfl <;> decide
  rw [hsame]
  exact ⟨hfirst, stored_setStart (by decide) (by decide) hu _⟩

/-- A frame that is selected. -/
theorem select_written (i : ℕ) {frame : ℤ} (hframe : (s.frames i).toInt ≡ frame [ZMOD 2 ^ 32])
    (hy : s.yOffs = offset.y.toInt32) (hv : s.vOffs = offset.v.toInt32)
    (hu : s.uOffs = offset.u.toInt32) :
    PlanesWritten (vixPlaybackFrameSelect s i) frame offset := by
  have hstart : ∀ {offs : Int32} {o : UInt32}, offs = o.toInt32 →
      (s.frames i + offs).toInt64.toInt ≡ frame + o.toNat [ZMOD 2 ^ 32] := by
    rintro _ o rfl
    rw [Int32.toInt_toInt64]
    exact toInt_add_modEq hframe (toInt32_modEq o)
  obtain ⟨hv', hu'⟩ := setChromaStarts_stored (hstart hv) (hstart hu) (outb 0x11 0x92 s.sr)
  have hsr : ∀ r ≠ 0x11, (vixPlaybackFrameSelect s i).sr r =
      setChromaStarts (s.frames i + s.vOffs).toInt64 (s.frames i + s.uOffs).toInt64
        (outb 0x11 0x92 s.sr) r := fun r hr => unprotected_of_ne hr _
  refine ⟨stored_setStart (by decide) (by decide) (hstart hy) _, ?_, ?_⟩
  · rw [← hv']
    exact congrArg _ (stored_congr fun r hr => hsr r (by rintro rfl; revert hr; decide))
  · rw [← hu']
    exact congrArg _ (stored_congr fun r hr => hsr r (by rintro rfl; revert hr; decide))

/-- `base0 + offset` as a `long`. -/
def startAt (offset : UInt32) : Int64 := (base0.toUInt64 + offset.toUInt64).toInt64

theorem startAt_modEq (o : UInt32) :
    (startAt o).toInt ≡ base0.toNat + o.toNat [ZMOD 2 ^ 32] := by
  have hlt := o.toNat_lt
  have hsum : (base0.toUInt64 + o.toUInt64).toNat = base0.toNat + o.toNat := by
    have hbase : base0.toUInt64.toNat = 6291456 := rfl
    have hbase' : base0.toNat = 6291456 := rfl
    rw [UInt64.toNat_add, UInt32.toNat_toUInt64 o, hbase, hbase', Nat.mod_eq_of_lt (by omega)]
  have hvalue : ((base0.toUInt64 + o.toUInt64).toNat : ℤ) = (startAt o).toInt % 2 ^ 64 :=
    toNat_toUInt64 (startAt o)
  rw [hsum] at hvalue
  unfold Int.ModEq
  omega

/-- What is done with the chroma registers. -/
theorem program_sr (s : State) (info : VidixPlayback) (settings : Settings) :
    ∃ sr, ∀ r ∉ [0x11, 0xB0, 0xB1, 0xBC], (s.program info settings).sr r =
      setChromaStarts (startAt settings.planes.offset.v) (startAt settings.planes.offset.u) sr
        r := by
  have h11 : ∀ {r : UInt8}, r ∉ [0x11, 0xB0, 0xB1, 0xBC] → r ≠ 0x11 :=
    fun hr h => hr (h ▸ List.mem_cons_self)
  unfold State.program setLayoutSr
  dsimp only
  exact ⟨_, fun r hr => (unprotected_of_ne (h11 hr) _).trans (setEq_of_not_mem hr _ _)⟩

theorem program_cr (s : State) (info : VidixPlayback) (settings : Settings) :
    ∃ cr, (s.program info settings).cr =
      setStart 0x92 0x93 0x94 (startAt settings.planes.offset.y) cr := by
  unfold State.program setLayoutCr
  exact ⟨_, rfl⟩

/-- The configuration has written the first frame. -/
theorem program_written (s : State) (info : VidixPlayback) (settings : Settings) :
    PlanesWritten (s.program info settings) base0.toNat settings.planes.offset := by
  obtain ⟨cr, hcr⟩ := program_cr s info settings
  obtain ⟨sr, hsr⟩ := program_sr s info settings
  obtain ⟨hv, hu⟩ := setChromaStarts_stored (startAt_modEq settings.planes.offset.v)
    (startAt_modEq settings.planes.offset.u) sr
  have hsame : ∀ low middle high : UInt8,
      (∀ r ∈ [low, middle, high], r ∉ [0x11, 0xB0, 0xB1, 0xBC]) →
      stored (s.program info settings).sr low middle high = stored (setChromaStarts
        (startAt settings.planes.offset.v) (startAt settings.planes.offset.u) sr) low middle high :=
    fun _ _ _ h => stored_congr fun r hr => hsr r (h r hr)
  refine ⟨?_, ?_, ?_⟩
  · rw [hcr]
    exact stored_setStart (by decide) (by decide) (startAt_modEq _) cr
  · rw [hsame 0x80 0x81 0x82 (forall_mem_of_all (by decide))]
    exact hv
  · rw [hsame 0x83 0x84 0x85 (forall_mem_of_all (by decide))]
    exact hu

/-! ### Where the planes begin -/

variable {info info' : VidixPlayback}

/-- One plane holds the whole picture. -/
def IsPacked (fourcc : UInt32) : Prop := fourcc = imgfmtYUY2 ∨ fourcc = imgfmtBGR16

instance (fourcc : UInt32) : Decidable (IsPacked fourcc) := inferInstanceAs (Decidable (_ ∨ _))

/-- The bytes of the first of three planes. -/
def lumaBytes (info : VidixPlayback) : ℤ :=
  roundUp info.src.w.toInt32.toInt 16 * info.src.h.toInt32.toInt

/-- The bytes of a row of a chroma plane. -/
def chromaPitch (info : VidixPlayback) : ℤ :=
  if info.fourcc = imgfmtYVU9 then roundUp (info.src.w.toInt32.toInt.tdiv 4) 4
  else roundUp (info.src.w.toInt32.toInt.tdiv 2) 8

/-- The rows of a chroma plane. -/
def chromaRows (info : VidixPlayback) : ℤ :=
  if info.fourcc = imgfmtYVU9 then info.src.h.toInt32.toInt.tdiv 4
  else info.src.h.toInt32.toInt.tdiv 2

/-- Where the planes begin in a frame, in the 32 bits of an offset. -/
def planeStarts (info : VidixPlayback) : List ℕ :=
  if IsPacked info.fourcc then [0]
  else [0, (lumaBytes info % 2 ^ 32).toNat,
    ((lumaBytes info + chromaPitch info * chromaRows info) % 2 ^ 32).toNat]

/-- The offsets of three planes. -/
theorem planarPlanes_offset (d mask : Int32) {m : ℤ} {k : ℕ} (hd : d ≠ -1) (hm : m = 2 ^ k)
    (hmask : mask.toInt = m - 1) (hk : k ≤ 31) (layout srcW srcH : Int32) :
    (planarPlanes d mask layout srcW srcH).offset.y.toNat = 0 ∧
      (planarPlanes d mask layout srcW srcH).offset.v.toNat =
        (roundUp srcW.toInt 16 * srcH.toInt % 2 ^ 32).toNat ∧
      (planarPlanes d mask layout srcW srcH).offset.u.toNat =
        ((roundUp srcW.toInt 16 * srcH.toInt +
          roundUp (srcW.toInt.tdiv d.toInt) m * srcH.toInt.tdiv d.toInt) % 2 ^ 32).toNat := by
  obtain ⟨hpitch, hrows⟩ := chroma_modEq hd hm hmask hk srcW srcH
  have hluma := luma_modEq srcW srcH
  refine ⟨rfl, toNat_eq_of_modEq hluma, ?_⟩
  exact toNat_eq_of_modEq (toInt_add_modEq hluma (toInt_mul_modEq hpitch hrows))

/-- The three kinds of format. -/
theorem planesOf_cases (hsupported : isSupportedFourcc info.fourcc = true) :
    (IsPacked info.fourcc ∧ ∀ w h, planesOf info.fourcc w h = packedPlanes w h) ∨
      (¬ IsPacked info.fourcc ∧ info.fourcc ≠ imgfmtYVU9 ∧
        ∀ w h, planesOf info.fourcc w h = planar411 w h) ∨
      (¬ IsPacked info.fourcc ∧ info.fourcc = imgfmtYVU9 ∧
        ∀ w h, planesOf info.fourcc w h = planar1611 w h) := by
  unfold isSupportedFourcc at hsupported
  simp only [Bool.or_eq_true, beq_iff_eq] at hsupported
  unfold planesOf
  rcases hsupported with (((h | h) | h) | h) | h <;> rw [h]
  · exact .inl ⟨by decide, fun _ _ => rfl⟩
  · exact .inr (.inl ⟨by decide, by decide, fun _ _ => rfl⟩)
  · exact .inr (.inl ⟨by decide, by decide, fun _ _ => rfl⟩)
  · exact .inr (.inr ⟨by decide, rfl, fun _ _ => rfl⟩)
  · exact .inl ⟨by decide, fun _ _ => rfl⟩

/-- **Where the planes of a frame are.** -/
theorem forall_offset_iff (hsupported : isSupportedFourcc info.fourcc = true) {p : ℕ → Prop} :
    (∀ o ∈ [(planesOf info.fourcc info.src.w.toInt32 info.src.h.toInt32).offset.y,
      (planesOf info.fourcc info.src.w.toInt32 info.src.h.toInt32).offset.v,
      (planesOf info.fourcc info.src.w.toInt32 info.src.h.toInt32).offset.u], p o.toNat) ↔
      ∀ o ∈ planeStarts info, p o := by
  unfold planeStarts lumaBytes chromaPitch chromaRows
  rw [List.forall_mem_cons, List.forall_mem_cons, List.forall_mem_singleton]
  rcases planesOf_cases hsupported with ⟨hpacked, h⟩ | ⟨hplanar, hyvu9, h⟩ | ⟨hplanar, hyvu9, h⟩
  · rw [if_pos hpacked, h, List.forall_mem_singleton]
    exact ⟨fun hall => hall.1, fun h0 => ⟨h0, h0, h0⟩⟩
  · obtain ⟨hy, hv, hu⟩ := planarPlanes_offset 2 7 (k := 3) (by decide) rfl rfl (by decide) 0x1
      info.src.w.toInt32 info.src.h.toInt32
    rw [if_neg hplanar, if_neg hyvu9, if_neg hyvu9, h]
    unfold planar411
    rw [hy, hv, hu, List.forall_mem_cons, List.forall_mem_cons, List.forall_mem_singleton]
    rfl
  · obtain ⟨hy, hv, hu⟩ := planarPlanes_offset 4 3 (k := 2) (by decide) rfl rfl (by decide) 0x51
      info.src.w.toInt32 info.src.h.toInt32
    rw [if_neg hplanar, if_pos hyvu9, if_pos hyvu9, h]
    unfold planar1611
    rw [hy, hv, hu, List.forall_mem_cons, List.forall_mem_cons, List.forall_mem_singleton]
    rfl

/-- The chroma planes of YVU9 are a multiple of eight bytes long. -/
def ChromaPaired (info : VidixPlayback) : Prop := 2 ∣ chromaRows info ∨ 8 ∣ chromaPitch info

/-- A row of a chroma plane is padded to eight bytes, or to four. -/
theorem chromaPitch_dvd (info : VidixPlayback) :
    4 ∣ chromaPitch info ∧ (info.fourcc ≠ imgfmtYVU9 → 8 ∣ chromaPitch info) := by
  unfold chromaPitch roundUp
  split_ifs with hyvu9
  · exact ⟨Dvd.intro_left _ rfl, fun h => absurd hyvu9 h⟩
  · exact ⟨Dvd.dvd.mul_left (by decide) _, fun _ => Dvd.intro_left _ rfl⟩

theorem lumaBytes_dvd (info : VidixPlayback) : 8 ∣ lumaBytes info := by
  unfold lumaBytes roundUp
  exact Dvd.dvd.mul_right (Dvd.dvd.mul_left (by decide) _) _

/-- **What the places of the planes in a frame are multiples of.** -/
theorem planeStarts_dvd_iff (info : VidixPlayback) :
    (∀ o ∈ planeStarts info, 8 ∣ o) ↔
      (¬ IsPacked info.fourcc → info.fourcc = imgfmtYVU9 → ChromaPaired info) := by
  have hluma := lumaBytes_dvd info
  obtain ⟨⟨p, hp⟩, hpitch⟩ := chromaPitch_dvd info
  have hchroma : 8 ∣ chromaPitch info * chromaRows info ↔
      (info.fourcc = imgfmtYVU9 → ChromaPaired info) := by
    unfold ChromaPaired
    by_cases hyvu9 : info.fourcc = imgfmtYVU9
    · have height : (8 : ℤ) = 4 * 2 := rfl
      rw [forall_prop_of_true hyvu9, hp, mul_assoc, height, mul_dvd_mul_iff_left (by decide),
        mul_dvd_mul_iff_left (by decide), ← even_iff_two_dvd, Int.even_mul, even_iff_two_dvd,
        even_iff_two_dvd, or_comm]
    · exact iff_of_true (Dvd.dvd.mul_right (hpitch hyvu9) _) fun h => absurd h hyvu9
  unfold planeStarts
  split_ifs with hpacked
  · rw [List.forall_mem_singleton]
    exact iff_of_true (dvd_zero 8) fun h => absurd hpacked h
  · rw [forall_prop_of_true hpacked, ← hchroma]
    rw [List.forall_mem_cons, List.forall_mem_cons, List.forall_mem_singleton]
    omega

/-- A frame is a multiple of eight bytes long. -/
theorem frameBytes_dvd (info : VidixPlayback) : 8 ∣ frameBytes info := by
  have hround : ∀ x : ℤ, ∃ k, roundUp x 4 = 4 * k := fun x => ⟨_, Int.mul_comm _ _⟩
  have hluma := lumaBytes_dvd info
  unfold lumaBytes at hluma
  unfold frameBytes
  dsimp only
  split_ifs
  · have hrow : 8 ∣ roundUp (info.src.w.toInt32.toInt * 2) 16 * info.src.h.toInt32.toInt :=
      Dvd.dvd.mul_right (Dvd.dvd.mul_left (by decide) _) _
    omega
  · have hchroma : 8 ∣ 2 * roundUp (info.src.w.toInt32.toInt.tdiv 2) 8 *
        info.src.h.toInt32.toInt.tdiv 2 :=
      Dvd.dvd.mul_right (Dvd.dvd.mul_left (Dvd.intro_left _ rfl) _) _
    omega
  · obtain ⟨k, hk⟩ := hround (info.src.w.toInt32.toInt.tdiv 4)
    have hchroma : 8 ∣ 2 * roundUp (info.src.w.toInt32.toInt.tdiv 4) 4 *
        info.src.h.toInt32.toInt.tdiv 4 :=
      Dvd.dvd.mul_right (by rw [hk]; omega) _
    omega

/-! ### The law -/

/-- The frames that are granted. -/
def granted (info : VidixPlayback) : ℕ := min (2 ^ 21 / frameBytes info) 1024

/-- A plane begins in its frame, or in the bytes behind the last frame that are left over; and the
chroma planes of YVU9 are paired. -/
structure AddressesFit (info : VidixPlayback) : Prop where
  begins : 0 < granted info → ∀ o ∈ planeStarts info,
    o < frameBytes info + (2 ^ 21 - granted info * frameBytes info)
  paired : 0 < granted info → info.fourcc = imgfmtYVU9 → ChromaPaired info

/-- The registers hold the addresses of the planes: those of the first frame after the
configuration, and those of a frame that is granted after that has been selected. -/
structure AddressesRight (s' : State) (info' : VidixPlayback) : Prop where
  configured : ∀ o, 0 < info'.numFrames.toNat → info'.offsets[0]? = some o →
    PlanesSurvive s' (base0.toNat + o.toNat) info'.offset
  selected : ∀ (before : List ℕ) (i : ℕ) (o : UInt32), i < info'.numFrames.toNat →
    info'.offsets[i]? = some o →
      PlanesSurvive (vixPlaybackFrameSelect (before.foldl vixPlaybackFrameSelect s') i)
        (base0.toNat + o.toNat) info'.offset

/-- What a call that succeeds leaves. -/
structure Configured (s : State) (info info' : VidixPlayback) (s' : State) : Prop where
  supported : isSupportedFourcc info.fourcc = true
  size_ne_zero : (planesOf info.fourcc info.src.w.toInt32 info.src.h.toInt32).frameSize ≠ 0
  request : info' = laidOut s.cyberbladeMem
    (planesOf info.fourcc info.src.w.toInt32 info.src.h.toInt32) info
  state : ∃ settings : Settings, s' = s.program info' settings ∧
    settings.planes = planesOf info.fourcc info.src.w.toInt32 info.src.h.toInt32 ∧
    settings.frames = info'.offsets.map (base0 + ·)

theorem configured (h : configure s info = some (0, info', s')) : Configured s info info' s' := by
  unfold configure at h
  obtain ⟨⟨ret, info₁, settings⟩, hlayout, h⟩ := Option.bind_eq_some_iff.mp h
  simp only [Option.some.injEq, Prod.mk.injEq] at h
  obtain ⟨rfl, rfl, rfl⟩ := h
  unfold vixConfigPlayback at hlayout
  dsimp only at hlayout
  split at hlayout
  · simp at hlayout
  · rename_i hsupported
    split at hlayout
    · cases hlayout
    · rename_i hsize
      obtain ⟨hscale, -, hlayout⟩ := Option.bind_eq_some_iff.mp hlayout
      obtain ⟨vscale, -, hlayout⟩ := Option.bind_eq_some_iff.mp hlayout
      simp only [Option.some.injEq, Prod.mk.injEq, true_and] at hlayout
      obtain ⟨rfl, rfl⟩ := hlayout
      exact ⟨by simpa using hsupported, hsize, rfl, _, rfl, rfl, rfl⟩

/-- The frames fill their two megabytes. -/
theorem Configured.filled (hc : Configured s info info' s') :
    info'.frameSize.toNat = frameBytes info ∧ Filled (2 ^ 21) info' ∧
      info'.numFrames.toNat = granted info := by
  have hframe : info'.frameSize.toNat = frameBytes info := by
    rw [hc.request]
    exact planesOf_frameSize info
  have hnum : info'.numFrames.toNat = min (2 ^ 21 / info'.frameSize.toNat) 1024 := by
    rw [hc.request]
    exact (cappedFrames_toNat _).trans (by rw [UInt32.toNat_div]; rfl)
  refine ⟨hframe, ⟨fun hzero => ?_, hnum, by rw [hc.request]; rfl⟩,
    by rw [hnum, hframe]; rfl⟩
  rw [hc.request] at hzero
  exact hc.size_ne_zero (UInt32.toNat_inj.mp hzero)

/-- The planes of a frame that is granted. -/
theorem Configured.survive_iff (hc : Configured s info info' s') {t : State} {i : ℕ} {o : UInt32}
    (ho : o.toNat = frameBytes info * i)
    (hwritten : PlanesWritten t (base0.toNat + o.toNat : ℕ) info'.offset) :
    PlanesSurvive t (base0.toNat + o.toNat) info'.offset ↔
      (∀ p ∈ planeStarts info, frameBytes info * i + p < 2 ^ 21) ∧
        (info.fourcc = imgfmtYVU9 → ChromaPaired info) := by
  have hbase : base0.toNat = 6291456 := rfl
  have hframe : 8 ∣ frameBytes info * i := Dvd.dvd.mul_right (frameBytes_dvd info) i
  have hoffset : info'.offset =
      (planesOf info.fourcc info.src.w.toInt32 info.src.h.toInt32).offset :=
    congrArg (·.offset) hc.request
  have hyvu9 : (info.fourcc = imgfmtYVU9 → ChromaPaired info) ↔ ∀ p ∈ planeStarts info, 8 ∣ p := by
    rw [planeStarts_dvd_iff]
    exact ⟨fun h _ => h, fun h h9 => h (by rw [h9]; decide) h9⟩
  rw [hwritten.survive_iff, hoffset, forall_offset_iff (p := fun p =>
    base0.toNat + o.toNat + p < 2 ^ 23 ∧ 8 ∣ base0.toNat + o.toNat + p) hc.supported, hyvu9,
    ← forall₂_and, ho, hbase]
  refine forall₂_congr fun p _ => ?_
  omega

/-- What has been written, after the configuration and after a frame has been selected. -/
theorem Configured.written (hc : Configured s info info' s') :
    PlanesWritten s' base0.toNat info'.offset ∧
      ∀ (before : List ℕ) (i : ℕ) (o : UInt32), info'.offsets[i]? = some o →
        PlanesWritten (vixPlaybackFrameSelect (before.foldl vixPlaybackFrameSelect s') i)
          (base0.toNat + o.toNat : ℕ) info'.offset := by
  obtain ⟨settings, rfl, hplanes, hframes⟩ := hc.state
  have hoffset : info'.offset = settings.planes.offset := by
    rw [hplanes]
    exact congrArg (·.offset) hc.request
  rw [hoffset]
  refine ⟨program_written s info' settings, fun before i o ho => ?_⟩
  -- the selections before have changed nothing but registers
  let t := s.program info' settings
  obtain ⟨cr, sr, hbefore⟩ : ∃ cr sr, before.foldl vixPlaybackFrameSelect t =
      { t with cr, sr } := by
    refine List.foldlRecOn (motive := fun t' => ∃ cr sr, t' = { t with cr, sr }) before _
      ⟨t.cr, t.sr, rfl⟩ ?_
    rintro _ ⟨cr, sr, rfl⟩ frame -
    exact ⟨_, _, rfl⟩
  rw [hbefore]
  refine select_written i ?_ rfl rfl rfl
  show ((settings.frames[i]?).elim (s.frames i) UInt32.toInt32).toInt ≡ _ [ZMOD _]
  rw [hframes, List.getElem?_map, ho]
  refine (toInt32_modEq (base0 + o)).trans ?_
  push_cast
  exact toNat_add_modEq rfl rfl

/-- The last frame reaches farthest. -/
theorem begins_of_last {n f p : ℕ} (hn : 0 < n) (hfill : n * f ≤ 2 ^ 21) :
    (∀ i < n, f * i + p < 2 ^ 21) ↔ p < f + (2 ^ 21 - n * f) := by
  obtain ⟨m, rfl⟩ : ∃ m, n = m + 1 := Nat.exists_eq_succ_of_ne_zero hn.ne'
  have hsucc : (m + 1) * f = f * m + f := by rw [Nat.succ_mul, Nat.mul_comm]
  constructor
  · intro h
    have hlast := h m (Nat.lt_succ_self m)
    omega
  · intro h i hi
    have hle : f * i ≤ f * m := Nat.mul_le_mul_left f (Nat.le_of_lt_succ hi)
    omega

/-- **When nothing wraps, a plane begins where it should but when the chroma planes are empty and
the frames fill their two megabytes.** -/
theorem begins_iff (info : VidixPlayback) (hpos : 0 < granted info)
    (hplanar : ¬ IsPacked info.fourcc) (hluma : 0 ≤ lumaBytes info)
    (hchroma : 0 ≤ chromaPitch info * chromaRows info)
    (hframe : (frameBytes info : ℤ) = lumaBytes info + 2 * (chromaPitch info * chromaRows info)) :
    (∀ o ∈ planeStarts info, o < frameBytes info + (2 ^ 21 - granted info * frameBytes info)) ↔
      ¬ (chromaPitch info * chromaRows info = 0 ∧ granted info * frameBytes info = 2 ^ 21) := by
  have hquotient : 0 < 2 ^ 21 / frameBytes info := hpos.trans_le (Nat.min_le_left _ _)
  have hframe0 : 0 < frameBytes info := by
    by_contra hzero
    rw [Nat.eq_zero_of_not_pos hzero, Nat.div_zero] at hquotient
    exact absurd hquotient (lt_irrefl 0)
  have hframe21 : frameBytes info ≤ 2 ^ 21 := (Nat.div_pos_iff.mp hquotient).2
  have hfill : granted info * frameBytes info ≤ 2 ^ 21 :=
    (Nat.mul_le_mul_right _ (Nat.min_le_left _ _)).trans (Nat.div_mul_le_self _ _)
  unfold planeStarts
  rw [if_neg hplanar, List.forall_mem_cons, List.forall_mem_cons, List.forall_mem_singleton]
  omega

/-- **The addresses survive the registers iff the planes begin where they should and the chroma
planes of YVU9 are paired.** -/
theorem startAddresses_iff (h : configure s info = some (0, info', s')) :
    AddressesRight s' info' ↔ AddressesFit info := by
  have hc := configured h
  obtain ⟨hframe, hfilled, hnum⟩ := hc.filled
  obtain ⟨hfirst, hselected⟩ := hc.written
  have hfill : granted info * frameBytes info ≤ 2 ^ 21 := by
    rw [Nat.mul_comm, ← hframe, ← hnum]
    exact hfilled.mul_le
  have hplace : ∀ {i : ℕ} {o : UInt32}, i < granted info → info'.offsets[i]? = some o →
      o.toNat = frameBytes info * i := by
    intro i o hi ho
    obtain ⟨o', ho', hvalue⟩ := hfilled.getElem (by decide) (hnum ▸ hi)
    rw [Option.some.inj (ho.symm.trans ho'), hvalue, hframe]
  constructor
  · intro hright
    have hsurvive : ∀ i < granted info, (∀ p ∈ planeStarts info,
        frameBytes info * i + p < 2 ^ 21) ∧ (info.fourcc = imgfmtYVU9 → ChromaPaired info) := by
      intro i hi
      obtain ⟨o, ho, -⟩ := hfilled.getElem (by decide) (hnum ▸ hi)
      exact (hc.survive_iff (hplace hi ho) (hselected [] i o ho)).mp
        (hright.selected [] i o (hnum ▸ hi) ho)
    refine ⟨fun hpos p hp => ?_, fun hpos => (hsurvive 0 hpos).2⟩
    exact (begins_of_last hpos hfill).mp fun i hi => (hsurvive i hi).1 p hp
  · intro hfit
    have hlaw : ∀ i < granted info, (∀ p ∈ planeStarts info,
        frameBytes info * i + p < 2 ^ 21) ∧ (info.fourcc = imgfmtYVU9 → ChromaPaired info) := by
      intro i hi
      have hpos : 0 < granted info := by omega
      exact ⟨fun p hp => (begins_of_last hpos hfill).mpr (hfit.begins hpos p hp) i hi,
        hfit.paired hpos⟩
    refine ⟨fun o hpos ho => ?_, fun before i o hi ho => ?_⟩
    · rw [hnum] at hpos
      have hzero := hplace hpos ho
      refine (hc.survive_iff hzero ?_).mpr (hlaw 0 hpos)
      rw [hzero, Nat.mul_zero, Nat.add_zero]
      exact hfirst
    · rw [hnum] at hi
      exact (hc.survive_iff (hplace hi ho) (hselected before i o ho)).mpr (hlaw i hi)

/-- A chip that shows 16 bits for each pixel. -/
def sampleState : State where
  cyberbladeMem := 0
  frames := fun _ => 0
  grkey := { op := ckeyFalse, red := 0, green := 0, blue := 0 }
  brightness := 300
  contrast := 100
  yOffs := 0
  uOffs := 0
  vOffs := 0
  cr := fun _ => 0
  sr := fun _ => 0

theorem startAddresses_sample :
    ∃ info' s', configure sampleState (sampleRequest imgfmtYV12 352 288 1) = some (0, info', s') ∧
      info'.numFrames = 13 ∧ AddressesRight s' info' := by
  obtain ⟨info', s', h, hnum⟩ : ∃ info' s',
      configure sampleState (sampleRequest imgfmtYV12 352 288 1) = some (0, info', s') ∧
        info'.numFrames = 13 := ⟨_, _, rfl, by decide⟩
  have hbegins := begins_iff (sampleRequest imgfmtYV12 352 288 1) (by decide) (by decide)
    (by decide) (by decide) (by decide)
  exact ⟨info', s', h, hnum, (startAddresses_iff h).mpr
    ⟨fun _ => hbegins.mpr (by decide), fun _ hyvu9 => absurd hyvu9 (by decide)⟩⟩

/-- **80 by 60 pixels in YVU9: the chroma planes have 15 rows of 20 bytes, and the chip begins four
bytes before the second of them.** -/
theorem startAddress_misplaced :
    ∃ info' s', configure sampleState (sampleRequest imgfmtYVU9 80 60 1) = some (0, info', s') ∧
      info'.offsets[0]? = some 0 ∧ info'.offset.u = 5100 ∧
      stored s'.sr 0x83 0x84 0x85 * 2 ^ 3 = base0.toNat + 5096 ∧ ¬ AddressesRight s' info' := by
  refine ⟨_, _, rfl, by decide, by decide, by decide, fun h => ?_⟩
  have haligned := (h.configured 0 (by decide) (by decide)).u.aligned
  exact absurd haligned (by decide)

end Vidix.Cyberblade
