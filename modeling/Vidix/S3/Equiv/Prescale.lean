import Vidix.S3.Playback
import Vidix.Savage.Equiv.Playback
import Mathlib.Order.Bounds.Basic
import Mathlib.Tactic.IntervalCases

/-!
# Scaling down in the savage and s3 drivers

A picture that is more than twice as wide as its window is scaled down before it is stretched, by
the smallest of the factors 4 to 64 that suffices.  The ladder of tests that chooses the factor goes
the right way for 4 only: from 8 on it asks whether the factor does not suffice.  Moreover, the
whole width of the picture is or-ed to the same word, so that pictures from 65536 pixels on reach
into the field of the factor.  So the field that is written is the right one for pictures up to four
times as wide as the window and of less than 65536 pixels, and for hardly any others:
`prescaled_iff`.
-/

namespace Vidix.S3

open Util Savage

/-! ### The field -/

/-- The field for the factor `2 ^ k`. -/
def hdscaleField : ℕ → UInt32
  | 2 => hdscale4
  | 3 => hdscale8
  | 4 => hdscale16
  | 5 => hdscale32
  | 6 => hdscale64
  | _ => 0

/-- What stands in the three bits of the field. -/
def hdmField (word : UInt32) : ℕ := word.toNat / 2 ^ 16 % 2 ^ 3

/-- The factors `2 ^ k` that suffice. -/
def Suffices (srcW drwW : ℕ) : Set ℕ := {k | 2 ≤ k ∧ k ≤ 6 ∧ srcW ≤ drwW * 2 ^ k}

/-- The field for the smallest factor that suffices, and none for a picture which is at most twice
as wide as the window. -/
structure Prescaled (srcW drwW field : ℕ) : Prop where
  narrow : srcW ≤ 2 * drwW → field = 0
  wide : 2 * drwW < srcW → srcW ≤ 64 * drwW →
    ∃ k, IsLeast (Suffices srcW drwW) k ∧ field = hdmField (hdscaleField k)

/-- No test of the ladder succeeds. -/
def NoRung (srcW drwW : UInt32) : Prop :=
  srcW ≤ drwW <<< 1 ∨
    drwW <<< 2 < srcW ∧ srcW ≤ drwW <<< 3 ∧ srcW ≤ drwW <<< 4 ∧ srcW ≤ drwW <<< 5 ∧
      srcW ≤ drwW <<< 6

/-- A picture that is at most four times as wide as the window, and whose width leaves the field
alone or has the same bits there.  Shifting the width of the window wraps for windows from `2 ^ 26`
on: then the tests may fail for a picture that is at most twice as wide, and succeed for one that is
at most eight times as wide. -/
inductive LadderRight (srcW drwW : UInt32) : Prop where
  | none : srcW.toNat ≤ 2 * drwW.toNat → NoRung srcW drwW → hdmField srcW = 0 →
    LadderRight srcW drwW
  | four : 2 * drwW.toNat < srcW.toNat → srcW.toNat ≤ 4 * drwW.toNat → drwW.toNat < 2 ^ 30 →
    hdmField srcW = 0 ∨ hdmField srcW = 2 → LadderRight srcW drwW
  | eight : 4 * drwW.toNat < srcW.toNat → 2 ^ 29 ≤ drwW.toNat → hdmField srcW ≤ 3 →
    LadderRight srcW drwW
  -- no test succeeds, but the width has the bits of the factor
  | width : 2 * drwW.toNat < srcW.toNat → NoRung srcW drwW →
    IsLeast (Suffices srcW.toNat drwW.toNat) (hdmField srcW) → LadderRight srcW drwW
  | beyond : 64 * drwW.toNat < srcW.toNat → LadderRight srcW drwW

theorem isLeast_suffices_iff {srcW drwW k : ℕ} (hk : 2 ≤ k) (hk' : k ≤ 6) :
    IsLeast (Suffices srcW drwW) k ↔
      srcW ≤ drwW * 2 ^ k ∧ (k = 2 ∨ drwW * 2 ^ (k - 1) < srcW) := by
  constructor
  · rintro ⟨⟨-, -, hle⟩, hleast⟩
    refine ⟨hle, ?_⟩
    by_contra! h
    have hless := hleast (show k - 1 ∈ Suffices srcW drwW from ⟨by omega, by omega, h.2⟩)
    omega
  · rintro ⟨hle, hless⟩
    refine ⟨⟨hk, hk', hle⟩, fun j hj => ?_⟩
    by_contra! hlt
    obtain ⟨hj2, -, hj⟩ := hj
    have hpow : drwW * 2 ^ j ≤ drwW * 2 ^ (k - 1) :=
      Nat.mul_le_mul_left _ (Nat.pow_le_pow_right (by decide) (by omega))
    omega

theorem hdmField_hdscaleField {k : ℕ} (hk : 2 ≤ k) (hk' : k ≤ 6) :
    hdmField (hdscaleField k) = k := by
  interval_cases k <;> decide

theorem hdmField_lt (word : UInt32) : hdmField word < 8 := Nat.mod_lt _ (by decide)

theorem hdmField_or (a b : UInt32) : hdmField (a ||| b) = hdmField a ||| hdmField b := by
  unfold hdmField
  rw [UInt32.toNat_or, Nat.or_div_two_pow, Nat.or_mod_two_pow]

/-- The format of the picture stands above the field. -/
theorem hdmField_blend (id : UInt32) : hdmField (getBlendForFourCC id <<< 24) = 0 := by
  unfold getBlendForFourCC
  split_ifs <;> decide

/-- The width of the picture is or-ed to the field. -/
theorem hdmField_ssControl {Arch : Type} (info : ChipInfo Arch) :
    hdmField (ssControl info) = hdmField info.srcW ||| hdmField (hdscale info.srcW info.drwW) := by
  unfold ssControl
  rw [hdmField_or, hdmField_or, hdmField_blend, Nat.zero_or]

/-- The field as a number: what it is in the three ranges of a picture's width. -/
theorem prescaled_field_iff {srcW drwW field : ℕ} :
    Prescaled srcW drwW field ↔
      64 * drwW < srcW ∨ srcW ≤ 2 * drwW ∧ field = 0 ∨
        2 * drwW < srcW ∧ IsLeast (Suffices srcW drwW) field := by
  constructor
  · intro h
    rcases Nat.lt_or_ge (64 * drwW) srcW with hbeyond | hle
    · exact .inl hbeyond
    rcases Nat.lt_or_ge (2 * drwW) srcW with hwide | hnarrow
    · obtain ⟨k, hleast, hfield⟩ := h.wide hwide hle
      rw [hdmField_hdscaleField hleast.1.1 hleast.1.2.1] at hfield
      exact .inr (.inr ⟨hwide, hfield ▸ hleast⟩)
    · exact .inr (.inl ⟨hnarrow, h.narrow hnarrow⟩)
  · rintro (hbeyond | ⟨hnarrow, hzero⟩ | ⟨hwide, hleast⟩)
    · exact ⟨fun hnarrow => by omega, fun _ hle => by omega⟩
    · exact ⟨fun _ => hzero, fun hwide => by omega⟩
    · exact ⟨fun hnarrow => by omega,
        fun _ _ => ⟨field, hleast, (hdmField_hdscaleField hleast.1.1 hleast.1.2.1).symm⟩⟩

/-! ### Bits of the width in the field -/

theorem or_two_eq_iff {b : ℕ} (hb : b < 8) : b ||| 2 = 2 ↔ b = 0 ∨ b = 2 := by
  interval_cases b <;> decide

theorem or_three_eq_iff {b : ℕ} (hb : b < 8) : b ||| 3 = 3 ↔ b ≤ 3 := by
  interval_cases b <;> decide

theorem or_three_eq_three {b : ℕ} (hb : b < 8) : b ||| 3 ≤ 6 → b ||| 3 = 3 := by
  interval_cases b <;> decide

/-! ### The ladder -/

/-- The rung of a factor is a comparison with the width of the window, shifted. -/
theorem le_shift_iff (srcW drwW : UInt32) {k : UInt32} {n : ℕ} (hk : k.toNat = n) (hn : n < 32) :
    srcW ≤ drwW <<< k ↔ srcW.toNat ≤ drwW.toNat * 2 ^ n % 2 ^ 32 := by
  rw [UInt32.le_iff_toNat_le, toNat_shiftLeft_of_lt _ hk hn]

theorem lt_shift_iff (srcW drwW : UInt32) {k : UInt32} {n : ℕ} (hk : k.toNat = n) (hn : n < 32) :
    drwW <<< k < srcW ↔ drwW.toNat * 2 ^ n % 2 ^ 32 < srcW.toNat := by
  rw [UInt32.lt_iff_toNat_lt, toNat_shiftLeft_of_lt _ hk hn]

variable {srcW drwW : UInt32}

/-- The first rung, on which the field is the one for 4. -/
theorem four_iff (h2 : drwW <<< 1 < srcW) (h4 : srcW ≤ drwW <<< 2) :
    Prescaled srcW.toNat drwW.toNat (hdmField srcW ||| 2) ↔ LadderRight srcW drwW := by
  have hrung : ¬ NoRung srcW drwW := by
    rintro (h | ⟨h, -⟩)
    · exact UInt32.not_le.mpr h2 h
    · exact UInt32.not_le.mpr h h4
  have hbits := or_two_eq_iff (hdmField_lt srcW)
  rw [lt_shift_iff _ _ (n := 1) rfl (by decide)] at h2
  rw [le_shift_iff _ _ (n := 2) rfl (by decide)] at h4
  have hsrc := srcW.toNat_lt
  rw [prescaled_field_iff]
  constructor
  · rintro (hbeyond | ⟨-, hzero⟩ | ⟨hwide, hleast⟩)
    · omega
    · have hle : 2 ≤ hdmField srcW ||| 2 := Nat.right_le_or
      omega
    · refine .four hwide (by omega) (by omega) (hbits.mp ?_)
      have htwo : 2 ∈ Suffices srcW.toNat drwW.toNat := ⟨le_rfl, by decide, by omega⟩
      exact le_antisymm (hleast.2 htwo) Nat.right_le_or
  · rintro (⟨-, h, -⟩ | ⟨hlt, hle, -, hfield⟩ | ⟨hlt, -⟩ | ⟨-, h, -⟩ | hbeyond)
    · exact absurd h hrung
    · rw [hbits.mpr hfield]
      exact .inr (.inr ⟨hlt, (isLeast_suffices_iff le_rfl (by decide)).mpr ⟨by omega, .inl rfl⟩⟩)
    · omega
    · exact absurd h hrung
    · omega

/-- The second rung, which succeeds when 8 does not suffice. -/
theorem eight_iff (h2 : drwW <<< 1 < srcW) (h4 : drwW <<< 2 < srcW) (h8 : drwW <<< 3 < srcW) :
    Prescaled srcW.toNat drwW.toNat (hdmField srcW ||| 3) ↔ LadderRight srcW drwW := by
  have hrung : ¬ NoRung srcW drwW := by
    rintro (h | ⟨-, h, -⟩)
    · exact UInt32.not_le.mpr h2 h
    · exact UInt32.not_le.mpr h8 h
  have hbits := or_three_eq_iff (hdmField_lt srcW)
  have hge : 3 ≤ hdmField srcW ||| 3 := Nat.right_le_or
  rw [lt_shift_iff _ _ (n := 2) rfl (by decide)] at h4
  rw [lt_shift_iff _ _ (n := 3) rfl (by decide)] at h8
  have hsrc := srcW.toNat_lt
  rw [prescaled_field_iff]
  constructor
  · rintro (hbeyond | ⟨-, hzero⟩ | ⟨hwide, hleast⟩)
    · exact .beyond hbeyond
    · omega
    · -- four does not suffice, and of the other fields only three has these bits
      have hfour : 4 * drwW.toNat < srcW.toNat := by
        by_contra! hle
        have htwo := hleast.2 (show 2 ∈ Suffices srcW.toNat drwW.toNat from
          ⟨le_rfl, by decide, by omega⟩)
        omega
      have hfield : hdmField srcW ||| 3 = 3 := or_three_eq_three (hdmField_lt srcW) hleast.1.2.1
      rw [hfield, isLeast_suffices_iff (by decide) (by decide)] at hleast
      exact .eight hfour (by omega) (hbits.mp hfield)
  · rintro (⟨-, h, -⟩ | ⟨hlt, hle, hsmall, -⟩ | ⟨hlt, hlarge, hfield⟩ | ⟨-, h, -⟩ | hbeyond)
    · exact absurd h hrung
    · omega
    · rw [hbits.mpr hfield, isLeast_suffices_iff (by decide) (by decide)]
      exact .inr (.inr ⟨by omega, by omega, .inr (by omega)⟩)
    · exact absurd h hrung
    · exact .inl hbeyond

/-- A rung from the third on, which succeeds when 8 suffices: what is or-ed to the width is too
much. -/
theorem upper_iff {k : ℕ} (hk : 4 ≤ k) (h4 : drwW <<< 2 < srcW) (h8 : srcW ≤ drwW <<< 3)
    (hrung : ¬ NoRung srcW drwW) :
    Prescaled srcW.toNat drwW.toNat (hdmField srcW ||| k) ↔ LadderRight srcW drwW := by
  have hge : k ≤ hdmField srcW ||| k := Nat.right_le_or
  rw [lt_shift_iff _ _ (n := 2) rfl (by decide)] at h4
  rw [le_shift_iff _ _ (n := 3) rfl (by decide)] at h8
  have hsrc := srcW.toNat_lt
  rw [prescaled_field_iff]
  refine iff_of_false ?_ ?_
  · rintro (hbeyond | ⟨-, hzero⟩ | ⟨-, hleast⟩)
    · omega
    · omega
    · have hthree := hleast.2 (show 3 ∈ Suffices srcW.toNat drwW.toNat from
        ⟨by decide, by decide, by omega⟩)
      omega
  · rintro (⟨-, h, -⟩ | ⟨hlt, hle, hsmall, -⟩ | ⟨hlt, hlarge, -⟩ | ⟨-, h, -⟩ | hbeyond)
    · exact hrung h
    · omega
    · omega
    · exact hrung h
    · omega

/-- No rung: what stands in the field are the bits of the width. -/
theorem none_iff (hrung : NoRung srcW drwW) :
    Prescaled srcW.toNat drwW.toNat (hdmField srcW) ↔ LadderRight srcW drwW := by
  have hsrc := srcW.toNat_lt
  have htests : srcW.toNat ≤ drwW.toNat * 2 ^ 1 % 2 ^ 32 ∨
      drwW.toNat * 2 ^ 2 % 2 ^ 32 < srcW.toNat ∧ srcW.toNat ≤ drwW.toNat * 2 ^ 3 % 2 ^ 32 := by
    refine hrung.imp (fun h => ?_) fun h => ⟨?_, ?_⟩
    · exact (le_shift_iff _ _ (n := 1) rfl (by decide)).mp h
    · exact (lt_shift_iff _ _ (n := 2) rfl (by decide)).mp h.1
    · exact (le_shift_iff _ _ (n := 3) rfl (by decide)).mp h.2.1
  rw [prescaled_field_iff]
  constructor
  · rintro (hbeyond | ⟨hnarrow, hzero⟩ | ⟨hwide, hleast⟩)
    · exact .beyond hbeyond
    · exact .none hnarrow hrung hzero
    · exact .width hwide hrung hleast
  · rintro (⟨hle, -, hzero⟩ | ⟨hlt, hle, hsmall, -⟩ | ⟨hlt, hlarge, -⟩ | ⟨hlt, -, hleast⟩ | hbeyond)
    · exact .inr (.inl ⟨hle, hzero⟩)
    · omega
    · omega
    · exact .inr (.inr ⟨hlt, hleast⟩)
    · exact .inl hbeyond

/-- **The field is the right one iff the ladder goes the right way.** -/
theorem prescaled_ladder_iff (srcW drwW : UInt32) :
    Prescaled srcW.toNat drwW.toNat (hdmField srcW ||| hdmField (hdscale srcW drwW)) ↔
      LadderRight srcW drwW := by
  have hzero : hdmField srcW ||| hdmField 0 = hdmField srcW := Nat.or_zero _
  unfold hdscale
  by_cases h2 : srcW > drwW <<< 1
  swap
  · rw [if_neg h2, hzero]
    exact none_iff (.inl (UInt32.not_lt.mp h2))
  rw [if_pos h2]
  by_cases h4 : srcW ≤ drwW <<< 2
  · rw [if_pos h4]
    exact four_iff h2 h4
  rw [if_neg h4]
  have h4' := UInt32.not_le.mp h4
  by_cases h8 : srcW > drwW <<< 3
  · rw [if_pos h8]
    exact eight_iff h2 h4' h8
  rw [if_neg h8]
  have h8' := UInt32.not_lt.mp h8
  have hupper : NoRung srcW drwW → srcW ≤ drwW <<< 4 ∧ srcW ≤ drwW <<< 5 ∧ srcW ≤ drwW <<< 6 := by
    rintro (h | ⟨-, -, h⟩)
    · exact absurd h (UInt32.not_le.mpr h2)
    · exact h
  by_cases h16 : srcW > drwW <<< 4
  · rw [if_pos h16]
    exact upper_iff (k := 4) le_rfl h4' h8' fun h => UInt32.not_le.mpr h16 (hupper h).1
  rw [if_neg h16]
  by_cases h32 : srcW > drwW <<< 5
  · rw [if_pos h32]
    exact upper_iff (k := 5) (by decide) h4' h8' fun h => UInt32.not_le.mpr h32 (hupper h).2.1
  rw [if_neg h32]
  by_cases h64 : srcW > drwW <<< 6
  · rw [if_pos h64]
    exact upper_iff (k := 6) (by decide) h4' h8' fun h => UInt32.not_le.mpr h64 (hupper h).2.2
  rw [if_neg h64, hzero]
  exact none_iff (.inr ⟨h4', h8', UInt32.not_lt.mp h16, UInt32.not_lt.mp h32, UInt32.not_lt.mp h64⟩)

/-- While no shift wraps and the width does not reach into the field, the ladder goes the right way
up to four times the width of the window. -/
theorem ladderRight_iff_of_lt (hsrc : srcW.toNat < 2 ^ 16) (hdrw : drwW.toNat < 2 ^ 26) :
    LadderRight srcW drwW ↔
      srcW.toNat ≤ 4 * drwW.toNat ∨ 64 * drwW.toNat < srcW.toNat := by
  have hzero : hdmField srcW = 0 := by
    unfold hdmField
    omega
  constructor
  · rintro (⟨hle, -⟩ | ⟨-, hle, -⟩ | ⟨-, hlarge, -⟩ | ⟨-, -, hleast⟩ | hbeyond)
    · exact .inl (by omega)
    · exact .inl hle
    · omega
    · have htwo := hleast.1.1
      omega
    · exact .inr hbeyond
  · rintro (hle | hbeyond)
    · rcases Nat.lt_or_ge (2 * drwW.toNat) srcW.toNat with hlt | hge
      · exact .four hlt hle (by omega) (.inl hzero)
      · refine .none hge (.inl ?_) hzero
        rw [le_shift_iff _ _ (n := 1) rfl (by decide)]
        omega
    · exact .beyond hbeyond

/-! ### The drivers -/

/-- What the s3 driver writes to the control register of the secondary stream on a Savage. -/
theorem s3_control {p p' : Player} (h : s3DisplayVideoOld p = some p')
    (harch : p.info.arch.beforeSavage = false) :
    p'.mmio sstreamControlReg = ssControl p.info := by
  have hvirge : p.info.arch.beforeVirgeMx = false ∧ p.info.arch ≠ .trio64v := by
    revert harch
    cases p.info.arch <;> decide
  unfold s3DisplayVideoOld scaleWrites at h
  rw [harch, if_neg Bool.false_ne_true] at h
  by_cases hdrw : p.info.drwW = 0
  · rw [if_pos hdrw] at h
    cases h
  · rw [if_neg hdrw] at h
    obtain rfl := Option.some.inj h
    simp +decide [setFifo, hvirge, harch, surfaceWrites, Mmio.outreg]

/-- **In both drivers the field that is written to the control register is the right one iff the
ladder goes the right way** for the widths of the picture and of the window. -/
theorem prescaled_iff (p p' : Savage.Player) (h : Savage.vixPlaybackOn p = some p')
    (q q' : Player) (hq : s3DisplayVideoOld q = some q')
    (harch : q.info.arch.beforeSavage = false) :
    (Prescaled p.info.srcW.toNat p.info.drwW.toNat (hdmField (p'.mmio sstreamControlReg)) ↔
        LadderRight p.info.srcW p.info.drwW) ∧
      (Prescaled q.info.srcW.toNat q.info.drwW.toNat (hdmField (q'.mmio sstreamControlReg)) ↔
        LadderRight q.info.srcW q.info.drwW) := by
  rw [(vixPlaybackOn_some h).control, s3_control hq harch, hdmField_ssControl, hdmField_ssControl]
  exact ⟨prescaled_ladder_iff _ _, prescaled_ladder_iff _ _⟩

/-- A chip that shows a picture of `srcW` pixels in a window of `drwW`. -/
def sampleInfo {Arch : Type} (arch : Arch) (srcW drwW : UInt32) : ChipInfo Arch :=
  { ChipInfo.calloc arch with
    format := imgfmtYUY2, srcW := srcW, srcH := 1, drwW := drwW, drwH := 1 }

/-- A Savage4 in the hands of the s3 driver. -/
def sampleS3 (srcW drwW : UInt32) : Player where
  info := sampleInfo .savage4 srcW drwW
  mmio := fun _ => 0
  crtc := fun _ => 0

/-- A picture of 720 pixels in a window of 240 is scaled down to a quarter by both drivers. -/
theorem prescaled_sample :
    ∃ p' q',
      Savage.vixPlaybackOn { samplePlayer with info := sampleInfo .savage4 720 240 } = some p' ∧
      s3DisplayVideoOld (sampleS3 720 240) = some q' ∧
      Prescaled 720 240 (hdmField (p'.mmio sstreamControlReg)) ∧
      Prescaled 720 240 (hdmField (q'.mmio sstreamControlReg)) := by
  have hright : LadderRight 720 240 :=
    (ladderRight_iff_of_lt (by decide) (by decide)).mpr (.inl (by decide))
  obtain ⟨p', hp⟩ : ∃ p', Savage.vixPlaybackOn
      { samplePlayer with info := sampleInfo .savage4 720 240 } = some p' := ⟨_, rfl⟩
  obtain ⟨q', hq⟩ : ∃ q', s3DisplayVideoOld (sampleS3 720 240) = some q' := ⟨_, rfl⟩
  obtain ⟨hsavage, hs3⟩ := prescaled_iff _ p' hp _ q' hq rfl
  exact ⟨p', q', hp, hq, hsavage.mpr hright, hs3.mpr hright⟩

/-- What both drivers write into the field for a picture. -/
def WritesField (srcW drwW : UInt32) (field : ℕ) : Prop :=
  (∃ p', Savage.vixPlaybackOn { samplePlayer with info := sampleInfo .savage4 srcW drwW } =
      some p' ∧ hdmField (p'.mmio sstreamControlReg) = field) ∧
    ∃ q', s3DisplayVideoOld (sampleS3 srcW drwW) = some q' ∧
      hdmField (q'.mmio sstreamControlReg) = field

theorem writesField {field : ℕ} (hdrw : drwW ≠ 0)
    (h : hdmField srcW ||| hdmField (hdscale srcW drwW) = field) : WritesField srcW drwW field := by
  obtain ⟨p', hp⟩ : ∃ p', Savage.vixPlaybackOn
      { samplePlayer with info := sampleInfo .savage4 srcW drwW } = some p' := by
    have hon : streamsAreOff samplePlayer.videoFlags = false := rfl
    unfold Savage.vixPlaybackOn savageDisplayVideoOld
    simp only [hon]
    exact ⟨_, if_neg hdrw⟩
  obtain ⟨q', hq⟩ : ∃ q', s3DisplayVideoOld (sampleS3 srcW drwW) = some q' :=
    ⟨_, congrArg (Option.bind · _) (if_neg hdrw)⟩
  refine ⟨⟨p', hp, ?_⟩, q', hq, ?_⟩
  · rw [(vixPlaybackOn_some hp).control, hdmField_ssControl]
    exact h
  · rw [s3_control hq rfl, hdmField_ssControl]
    exact h

/-- **A picture of 1920 pixels in a window of 320 gets no field, one of 3200 the field for 8, and
one of 131080 in a window of its width the field for 4.** -/
theorem prescaled_wrong :
    (WritesField 1920 320 0 ∧ ¬ Prescaled 1920 320 0) ∧
      (WritesField 3200 320 3 ∧ ¬ Prescaled 3200 320 3) ∧
      (WritesField 131080 131080 2 ∧ ¬ Prescaled 131080 131080 2) := by
  refine ⟨⟨writesField (by decide) (by decide), fun h => ?_⟩,
    ⟨writesField (by decide) (by decide), fun h => ?_⟩,
    ⟨writesField (by decide) (by decide), fun h => absurd (h.narrow (by decide)) (by decide)⟩⟩
  · obtain hleast := (prescaled_field_iff.mp h).resolve_left (by decide)
    rcases hleast with ⟨hle, -⟩ | ⟨-, hleast⟩
    · exact absurd hle (by decide)
    · exact absurd hleast.1.1 (by decide)
  · obtain hleast := (prescaled_field_iff.mp h).resolve_left (by decide)
    rcases hleast with ⟨hle, -⟩ | ⟨-, hleast⟩
    · exact absurd hle (by decide)
    · exact absurd hleast.1.2.2 (by decide)

end Vidix.S3
