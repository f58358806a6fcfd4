import Vidix.Unichrome.Config
import Vidix.Util.Holds
import Mathlib.Order.Bounds.Basic
import Mathlib.Tactic.IntervalCases

/-!
# The zoom of the unichrome driver

Both directions share a word for the fractions and one for the minification, each in its own fields
(`Axis`).  A source that is larger than the window is halved until it is not, four times at most,
and what is left is stretched by a fraction in fixed point.

`zoom_mapped` says what the two mappings encode.  Horizontally two pixels are taken off a source
that was halved ("CLE bug"), so that the fraction is not that of the source that is left.  Where
only one pixel is left, which is so in a window of two only, the difference wraps around, and
nothing is said of the fraction.
-/

namespace Vidix.Unichrome

open Util

/-! ### The shared words -/

/-- A direction of the zoom. -/
inductive Axis
  | vertical
  | horizontal

namespace Axis

/-- One, in the fixed point of the fractions. -/
def unit : Axis → ℕ
  | vertical => 2 ^ 10
  | horizontal => 2 ^ 11

/-- The bits of the zoom word that belong to a direction: its fraction and its enable bit. -/
def zoomField : Axis → UInt32
  | vertical => 0x000083ff
  | horizontal => 0x87ff0000

/-- The bits of the mini word that belong to a direction: its divider and its interpolation. -/
def miniField : Axis → UInt32
  | vertical => 0x00070005
  | horizontal => 0x07000002

/-- The fraction in a zoom word. -/
def fraction (zoom : UInt32) : Axis → ℕ
  | vertical => zoom.toNat % 2 ^ 10
  | horizontal => zoom.toNat / 2 ^ 16 % 2 ^ 11

/-- Whether a zoom word has the fraction used. -/
def enabled (zoom : UInt32) : Axis → Bool
  | vertical => zoom.toNat.testBit 15
  | horizontal => zoom.toNat.testBit 31

/-- The divider of a mini word as a power of two: `DIV_2`, `DIV_4`, `DIV_8` and `DIV_16` are 1, 3, 5
and 7 in the field, and 0 is none. -/
def exponent (mini : UInt32) : Axis → ℕ
  | vertical => (mini.toNat / 2 ^ 16 % 8 + 1) / 2
  | horizontal => (mini.toNat / 2 ^ 24 % 8 + 1) / 2

end Axis

/-- The exponents by which a source of `s` is brought down to `d`. -/
def Suffices (s d : ℕ) : Set ℕ := {k | 1 ≤ k ∧ k ≤ 4 ∧ s / 2 ^ k ≤ d}

/-- What a mapping owes for a source of `s` and a window of `d`, when `lost` pixels are taken off a
source that was halved. -/
structure Mapped (a : Axis) (lost s d : ℕ) (z : Zoom) : Prop where
  /-- It returns 0 when a sixteenth of the source is still too large. -/
  returned : z.zoomOk = false ↔ d < s / 2 ^ 4
  /-- A source that is not larger is not halved. -/
  whole : s ≤ d → a.exponent z.mini = 0
  /-- Any other is halved as often as is needed. -/
  least : d < s → s / 2 ^ 4 ≤ d → IsLeast (Suffices s d) (a.exponent z.mini)
  /-- There is a fraction when what is left is smaller than the window. -/
  enabled : a.enabled z.zoom = true ↔ s / 2 ^ a.exponent z.mini < d
  /-- The fraction is the quotient of a source that was not halved. -/
  stretched : s < d → a.fraction z.zoom = s * a.unit / d ∧ s * a.unit / d < a.unit
  /-- The fraction is the quotient of what is left of any other, less what is taken off, if no
  fewer pixels are left than that: nothing wraps, and it has room in its field. -/
  fraction : d < s → s / 2 ^ a.exponent z.mini < d → lost ≤ s / 2 ^ a.exponent z.mini →
    a.fraction z.zoom = (s / 2 ^ a.exponent z.mini - lost) * a.unit / d ∧
      (s / 2 ^ a.exponent z.mini - lost) * a.unit / d < a.unit
  /-- In the words of both directions no bit of the other direction changes. -/
  zoomOutside : ∀ word, (word ||| z.zoom) &&& ~~~a.zoomField = word &&& ~~~a.zoomField
  miniOutside : ∀ word, (word ||| z.mini) &&& ~~~a.miniField = word &&& ~~~a.miniField

/-- A word within a field leaves the other bits alone. -/
theorem or_outside {x field : UInt32} (h : x &&& field = x) (word : UInt32) :
    (word ||| x) &&& ~~~field = word &&& ~~~field := by
  have hx : x &&& ~~~field = 0 := by
    rw [← h, UInt32.and_assoc, UInt32.and_not_self, UInt32.and_zero]
  rw [or_and_distrib, hx, UInt32.or_zero]

/-! ### Fractions -/

/-- A fraction as a mapping writes it. -/
def Axis.zoomWord (tmp : UInt32) : Axis → UInt32
  | vertical => (tmp &&& 0x3ff) ||| v1YZoomEnable
  | horizontal => ((tmp &&& 0x7ff) <<< 16) ||| v1XZoomEnable

theorem zoomWord_toNat (a : Axis) (tmp : UInt32) :
    (a.zoomWord tmp).toNat = match a with
      | .vertical => tmp.toNat % 2 ^ 10 + 2 ^ 15
      | .horizontal => tmp.toNat % 2 ^ 11 * 2 ^ 16 + 2 ^ 31 := by
  cases a with
  | vertical =>
    have hlow : (tmp &&& 0x3ff).toNat = tmp.toNat % 2 ^ 10 := by
      rw [UInt32.toNat_and]
      exact Nat.and_two_pow_sub_one_eq_mod tmp.toNat 10
    show ((tmp &&& 0x3ff) ||| v1YZoomEnable).toNat = _
    rw [UInt32.toNat_or, hlow]
    exact Nat.or_two_pow_eq_add_of_lt (n := 15) (by omega)
  | horizontal =>
    have hlow : (tmp &&& 0x7ff).toNat = tmp.toNat % 2 ^ 11 := by
      rw [UInt32.toNat_and]
      exact Nat.and_two_pow_sub_one_eq_mod tmp.toNat 11
    have hlt : tmp.toNat % 2 ^ 11 < 2 ^ 11 := Nat.mod_lt _ (by decide)
    show (((tmp &&& 0x7ff) <<< 16) ||| v1XZoomEnable).toNat = _
    rw [UInt32.toNat_or, toNat_shiftLeft_of_lt _ (n := 16) rfl (by decide), hlow,
      Nat.mod_eq_of_lt (by omega)]
    exact Nat.or_two_pow_eq_add_of_lt (n := 31) (by omega)

theorem fraction_zoomWord (a : Axis) {tmp : UInt32} (h : tmp.toNat < a.unit) :
    a.fraction (a.zoomWord tmp) = tmp.toNat := by
  have hword := zoomWord_toNat a tmp
  cases a with
  | vertical =>
    replace h : tmp.toNat < 2 ^ 10 := h
    show (Axis.zoomWord tmp .vertical).toNat % 2 ^ 10 = _
    rw [hword]
    dsimp only
    omega
  | horizontal =>
    replace h : tmp.toNat < 2 ^ 11 := h
    show (Axis.zoomWord tmp .horizontal).toNat / 2 ^ 16 % 2 ^ 11 = _
    rw [hword]
    dsimp only
    omega

theorem enabled_zoomWord (a : Axis) (tmp : UInt32) : a.enabled (a.zoomWord tmp) = true := by
  cases a with
  | vertical =>
    show (Axis.zoomWord tmp .vertical).toNat.testBit 15 = true
    rw [zoomWord_toNat, Nat.testBit_eq_decide_div_mod_eq]
    simp only [decide_eq_true_eq]
    omega
  | horizontal =>
    show (Axis.zoomWord tmp .horizontal).toNat.testBit 31 = true
    rw [zoomWord_toNat, Nat.testBit_eq_decide_div_mod_eq]
    simp only [decide_eq_true_eq]
    omega

theorem enabled_zero (a : Axis) : a.enabled 0 = false := by cases a <;> rfl

theorem zoomWord_and_field (a : Axis) (tmp : UInt32) :
    a.zoomWord tmp &&& a.zoomField = a.zoomWord tmp := by
  cases a with
  | vertical =>
    show ((tmp &&& 0x3ff) ||| v1YZoomEnable) &&& 0x000083ff = (tmp &&& 0x3ff) ||| v1YZoomEnable
    rw [or_and_distrib, UInt32.and_assoc]
    rfl
  | horizontal =>
    show (((tmp &&& 0x7ff) <<< (16 : UInt32)) ||| v1XZoomEnable) &&& 0x87ff0000 =
      ((tmp &&& 0x7ff) <<< (16 : UInt32)) ||| v1XZoomEnable
    rw [UInt32.shiftLeft_and, or_and_distrib, UInt32.and_assoc]
    rfl

/-! ### Halving -/

/-- The loop stops at the least exponent that suffices, and otherwise at 5. -/
theorem divider_cases {dst : UInt32} {s d : ℕ} (hd : dst.toNat = d) (n j : ℕ) {t : UInt32}
    (hj : j + n = 4) (ht : t.toNat = s / 2 ^ j) (hnot : ∀ i, 1 ≤ i → i ≤ j → d < s / 2 ^ i) :
    ∃ k x, divider dst n (UInt32.ofNat (j + 1)) t = (UInt32.ofNat k, x) ∧
      (IsLeast (Suffices s d) k ∧ x.toNat = s / 2 ^ k ∨
        k = 5 ∧ d < s / 2 ^ 4 ∧ x.toNat = s / 2 ^ 4) := by
  induction n generalizing j t with
  | zero =>
    obtain rfl : j = 4 := by omega
    exact ⟨5, t, rfl, .inr ⟨rfl, hnot 4 (by decide) le_rfl, ht⟩⟩
  | succ n ih =>
    have hhalf : (t >>> 1).toNat = s / 2 ^ (j + 1) := by
      rw [UInt32.toNat_shiftRight, ht, pow_succ, ← Nat.div_div_eq_div_mul]
      rfl
    unfold divider
    by_cases hle : t >>> 1 ≤ dst
    · rw [if_pos hle]
      rw [UInt32.le_iff_toNat_le, hhalf, hd] at hle
      refine ⟨j + 1, _, rfl, .inl ⟨⟨⟨by omega, by omega, hle⟩, fun i hi => ?_⟩, hhalf⟩⟩
      by_contra! hlt
      have hbefore := hnot i hi.1 (by omega)
      have hafter := hi.2.2
      omega
    · rw [if_neg hle, show UInt32.ofNat (j + 1) + 1 = UInt32.ofNat (j + 1 + 1) by
        rw [UInt32.ofNat_add (j + 1) 1]; rfl]
      rw [UInt32.le_iff_toNat_le, hhalf, hd, Nat.not_le] at hle
      refine ih (j + 1) (by omega) hhalf fun i hi hij => ?_
      rcases Nat.lt_or_eq_of_le hij with hlt | rfl
      · exact hnot i hi (by omega)
      · exact hle

/-- "Find a suitable divider". -/
theorem minify_cases {src dst : UInt32} {s d : ℕ} (hs : src.toNat = s) (hd : dst.toNat = d) :
    (∃ k x, IsLeast (Suffices s d) k ∧ minify src dst = (UInt32.ofNat k, x, true) ∧
        x.toNat = s / 2 ^ k) ∨
      d < s / 2 ^ 4 ∧ ∃ x, minify src dst = (4, x, false) ∧ x.toNat = s / 2 ^ 4 := by
  obtain ⟨k, x, hdiv, hcase⟩ := divider_cases (s := s) hd 4 0 (t := src) rfl
    (by rw [hs, pow_zero, Nat.div_one]) fun i hi hi' => by omega
  replace hdiv : divider dst 4 1 src = (UInt32.ofNat k, x) := hdiv
  unfold minify
  rw [hdiv]
  dsimp only
  rcases hcase with ⟨hk, hx⟩ | ⟨rfl, hlt, hx⟩
  · refine .inl ⟨k, x, hk, if_neg fun h5 => ?_, hx⟩
    have hnat := congrArg UInt32.toNat h5
    have hle := hk.1.2.1
    rw [UInt32.toNat_ofNat', Nat.mod_eq_of_lt (by omega)] at hnat
    replace hnat : k = 5 := hnat
    omega
  · exact .inr ⟨hlt, x, if_pos rfl, hx⟩

/-! ### The mappings -/

/-- A source that some exponent brings down is brought down by 4. -/
theorem sixteenth_le {s d e : ℕ} (he : IsLeast (Suffices s d) e) : s / 2 ^ 4 ≤ d := by
  have hanti : s / 2 ^ 4 ≤ s / 2 ^ e :=
    Nat.div_le_div_left (Nat.pow_le_pow_right (by decide) he.1.2.1) (by positivity)
  exact hanti.trans he.1.2.2

/-- How often a source of `s` is halved for a window of `d`. -/
inductive Halved (s d : ℕ) : ℕ → Prop
  | whole (h : s ≤ d) : Halved s d 0
  | least {e : ℕ} (h : d < s) (he : IsLeast (Suffices s d) e) : Halved s d e
  | tooSmall (h : d < s / 2 ^ 4) : Halved s d 4

/-- A mapping owes no more than the right exponent and the right fraction, in its own bits. -/
theorem Mapped.of_halved {a : Axis} {lost s d e : ℕ} {z : Zoom} (he : Halved s d e)
    (hok : z.zoomOk = false ↔ d < s / 2 ^ 4) (hexp : a.exponent z.mini = e)
    (hmini : z.mini &&& a.miniField = z.mini)
    (hzoom : (∃ tmp, s / 2 ^ e < d ∧ z.zoom = a.zoomWord tmp ∧
        (s < d → tmp.toNat = s * a.unit / d) ∧
        (d < s → lost ≤ s / 2 ^ e → tmp.toNat = (s / 2 ^ e - lost) * a.unit / d)) ∨
      ¬ s / 2 ^ e < d ∧ z.zoom = 0) : Mapped a lost s d z := by
  have hsmall : s / 2 ^ 4 ≤ s := Nat.div_le_self _ _
  have hunit : 0 < a.unit := by cases a <;> decide
  have hroom : ∀ {n}, n < d → n * a.unit / d < a.unit := fun hn =>
    Nat.div_lt_of_lt_mul (Nat.mul_lt_mul_of_pos_right hn hunit)
  subst hexp
  refine ⟨hok, fun hle => ?_, fun hlt hle => ?_, ?_, fun hlt => ?_, fun hlt hleft hlost => ?_, ?_,
    or_outside hmini⟩
  · generalize hexp : a.exponent z.mini = e at he
    cases he with
    | whole h => rfl
    | least h _ => omega
    | tooSmall h => omega
  · generalize hexp : a.exponent z.mini = e at he
    cases he with
    | whole h => omega
    | least _ h => exact h
    | tooSmall h => omega
  · rcases hzoom with ⟨tmp, hleft, hword, -⟩ | ⟨hleft, hword⟩
    · exact iff_of_true (by rw [hword, enabled_zoomWord]) hleft
    · exact iff_of_false (by rw [hword, enabled_zero]; decide) hleft
  · have hquot := hroom hlt
    rcases hzoom with ⟨tmp, -, hword, htmp, -⟩ | ⟨hleft, -⟩
    · rw [hword, fraction_zoomWord a (by rw [htmp hlt]; exact hquot), htmp hlt]
      exact ⟨rfl, hquot⟩
    · exact absurd ((Nat.div_le_self _ _).trans_lt hlt) hleft
  · have hquot := hroom ((Nat.sub_le _ lost).trans_lt hleft)
    rcases hzoom with ⟨tmp, -, hword, -, htmp⟩ | ⟨hnot, -⟩
    · rw [hword, fraction_zoomWord a (by rw [htmp hlt hlost]; exact hquot), htmp hlt hlost]
      exact ⟨rfl, hquot⟩
    · exact absurd hleft hnot
  · rcases hzoom with ⟨tmp, -, hword, -⟩ | ⟨-, hword⟩
    · rw [hword]
      exact or_outside (zoomWord_and_field a tmp)
    · rw [hword]
      exact or_outside (UInt32.zero_and)

/-- The words of a source that was halved: the divider with or without interpolation. -/
theorem verticalMini (e : ℕ) (he : 1 ≤ e) (he' : e ≤ 4) {mini : UInt32}
    (h : mini = ((UInt32.ofNat e <<< 1) - 1) <<< 16 ∨
      mini = ((UInt32.ofNat e <<< 1) - 1) <<< 16 ||| v1YInterpoly ||| v1YcbcrInterpoly) :
    Axis.vertical.exponent mini = e ∧ mini &&& Axis.vertical.miniField = mini := by
  rcases h with rfl | rfl <;> interval_cases e <;> decide

theorem horizontalMini (e : ℕ) (he : 1 ≤ e) (he' : e ≤ 4) :
    Axis.horizontal.exponent (v1XInterpoly ||| ((UInt32.ofNat e <<< 1) - 1) <<< 24) = e ∧
      (v1XInterpoly ||| ((UInt32.ofNat e <<< 1) - 1) <<< 24) &&& Axis.horizontal.miniField =
        v1XInterpoly ||| ((UInt32.ofNat e <<< 1) - 1) <<< 24 := by
  interval_cases e <;> decide

variable {src dst : Int32} {s d : ℕ}

/-- The fraction of a source that is smaller than the window. -/
theorem stretch_quotient (hs : Holds src s) (hd : Holds dst d) {one : Int32} {unit : ℕ}
    (hone : Holds one unit) (hs' : s ≤ 4096) (hunit : unit ≤ 2 ^ 11) (hlt : s < d) :
    ∃ q, quotient (src * one) dst = some q ∧ q.toUInt32.toNat = s * unit / d := by
  have hprod : s * unit ≤ 4096 * 2 ^ 11 := Nat.mul_le_mul hs' hunit
  obtain ⟨q, hq, hholds⟩ := (hs.mul hone (by omega)).quotient hd (by omega)
  exact ⟨q, hq, hholds.toNat_toUInt32⟩

/-- The fraction of what is left of a source. -/
theorem left_quotient {x dst one : UInt32} {t d unit : ℕ} (hx : x.toNat = t) (hd : dst.toNat = d)
    (hone : one.toNat = unit) (ht : t ≤ 4096) (hunit : unit ≤ 2 ^ 11) :
    (x * one / dst).toNat = t * unit / d := by
  have hprod : t * unit ≤ 4096 * 2 ^ 11 := Nat.mul_le_mul ht hunit
  rw [UInt32.toNat_div, UInt32.toNat_mul, hx, hd, hone, Nat.mod_eq_of_lt (by omega)]

section Cases

variable {a : Axis} {lost e : ℕ} {tmp mini : UInt32}

/-- A source that is as large as the window is taken as it is. -/
theorem Mapped.of_eq (h : s = d) : Mapped a lost s d ⟨true, 0, 0⟩ := by
  have hsmall : s / 2 ^ 4 ≤ s := Nat.div_le_self _ _
  have hexp : a.exponent 0 = 0 := by cases a <;> rfl
  refine .of_halved (.whole h.le) (iff_of_false (by decide) (by omega)) hexp UInt32.zero_and
    (.inr ⟨?_, rfl⟩)
  rw [pow_zero, Nat.div_one]
  omega

/-- A smaller source is stretched by a fraction that has room. -/
theorem Mapped.of_stretched {most : UInt32} (hmost : most.toNat + 1 = a.unit) (hlt : s < d)
    (htmp : tmp.toNat = s * a.unit / d)
    (hmini : a.exponent mini = 0 ∧ mini &&& a.miniField = mini) :
    Mapped a lost s d ⟨!decide (tmp > most), a.zoomWord tmp, mini⟩ := by
  have hsmall : s / 2 ^ 4 ≤ s := Nat.div_le_self _ _
  have hunit : 0 < a.unit := by cases a <;> decide
  have hfits : s * a.unit / d < a.unit :=
    Nat.div_lt_of_lt_mul (Nat.mul_lt_mul_of_pos_right hlt hunit)
  have hin : ¬ tmp > most := by
    rw [gt_iff_lt, UInt32.lt_iff_toNat_lt, htmp]
    omega
  refine .of_halved (.whole hlt.le) (iff_of_false (by simp [hin]) (by omega)) hmini.1 hmini.2
    (.inl ⟨tmp, ?_, rfl, fun _ => htmp, fun hgt => by omega⟩)
  rwa [pow_zero, Nat.div_one]

/-- A larger source is halved, and what is left is stretched. -/
theorem Mapped.of_left (hgt : d < s) (he : IsLeast (Suffices s d) e) (hleft : s / 2 ^ e < d)
    (htmp : lost ≤ s / 2 ^ e → tmp.toNat = (s / 2 ^ e - lost) * a.unit / d)
    (hmini : a.exponent mini = e ∧ mini &&& a.miniField = mini) :
    Mapped a lost s d ⟨true, a.zoomWord tmp, mini⟩ :=
  .of_halved (.least hgt he) (iff_of_false (by simp) (Nat.not_lt.mpr (sixteenth_le he))) hmini.1
    hmini.2 (.inl ⟨tmp, hleft, rfl, fun hlt => by omega, fun _ => htmp⟩)

/-- What is left of it is as large as the window. -/
theorem Mapped.of_exact (hgt : d < s) (he : IsLeast (Suffices s d) e) (hleft : ¬ s / 2 ^ e < d)
    (hmini : a.exponent mini = e ∧ mini &&& a.miniField = mini) :
    Mapped a lost s d ⟨true, 0, mini⟩ :=
  .of_halved (.least hgt he) (iff_of_false (by simp) (Nat.not_lt.mpr (sixteenth_le he))) hmini.1
    hmini.2 (.inr ⟨hleft, rfl⟩)

/-- A sixteenth of it is still too large. -/
theorem Mapped.of_tooLarge (h : d < s / 2 ^ 4)
    (hmini : a.exponent mini = 4 ∧ mini &&& a.miniField = mini) :
    Mapped a lost s d ⟨false, 0, mini⟩ :=
  .of_halved (.tooSmall h) (iff_of_true rfl h) hmini.1 hmini.2 (.inr ⟨by omega, rfl⟩)

end Cases

theorem ucOvlMapVzoom_mapped (hs : Holds src s) (hd : Holds dst d) (hs' : s ≤ 4096) :
    ∃ z, ucOvlMapVzoom src dst = some z ∧ Mapped .vertical 0 s d z := by
  have hone : Holds 0x0400 (2 ^ 10) := rfl
  have hlt_iff := hs.lt_iff hd
  have heq_iff := hs.eq_iff hd
  unfold ucOvlMapVzoom
  rcases Nat.lt_trichotomy s d with hlt | heq | hgt
  · obtain ⟨q, hq, htmp⟩ := stretch_quotient hs hd hone hs' (by decide) hlt
    rw [if_neg (by rw [heq_iff]; omega), if_pos (hlt_iff.mpr hlt), hq]
    exact ⟨_, rfl, .of_stretched rfl hlt htmp (by decide)⟩
  · rw [if_pos (heq_iff.mpr heq)]
    exact ⟨_, rfl, .of_eq heq⟩
  · rw [if_neg (by rw [heq_iff]; omega), if_neg (by rw [hlt_iff]; omega)]
    have hdst := hd.toNat_toUInt32
    rcases minify_cases hs.toNat_toUInt32 hdst with ⟨e, x, he, hmin, hx⟩ | ⟨htoo, x, hmin, hx⟩
    · rw [hmin]
      dsimp only
      by_cases hleft : x < dst.toUInt32
      · rw [if_pos hleft]
        rw [UInt32.lt_iff_toNat_lt, hx, hdst] at hleft
        refine ⟨_, rfl, .of_left hgt he hleft (fun _ => ?_)
          (verticalMini e he.1.1 he.1.2.1 (.inr rfl))⟩
        exact left_quotient hx hdst rfl ((Nat.div_le_self _ _).trans hs') (by decide)
      · rw [if_neg hleft]
        rw [UInt32.lt_iff_toNat_lt, hx, hdst] at hleft
        exact ⟨_, rfl, .of_exact hgt he hleft (verticalMini e he.1.1 he.1.2.1 (.inl rfl))⟩
    · rw [hmin]
      dsimp only
      rw [if_neg (by rw [UInt32.lt_iff_toNat_lt, hx, hdst]; omega)]
      exact ⟨_, rfl, .of_tooLarge htoo (verticalMini 4 (by decide) le_rfl (.inl rfl))⟩

theorem ucOvlMapHzoom_mapped (hs : Holds src s) (hd : Holds dst d) (hs' : s ≤ 4096) :
    ∃ z falign dcount, ucOvlMapHzoom src dst = some (z, falign, dcount) ∧
      Mapped .horizontal 2 s d z := by
  have hone : Holds 0x0800 (2 ^ 11) := rfl
  have hlt_iff := hs.lt_iff hd
  have heq_iff := hs.eq_iff hd
  unfold ucOvlMapHzoom
  rcases Nat.lt_trichotomy s d with hlt | heq | hgt
  · obtain ⟨q, hq, htmp⟩ := stretch_quotient hs hd hone hs' le_rfl hlt
    rw [if_neg (by rw [heq_iff]; omega), if_pos (hlt_iff.mpr hlt), hq]
    exact ⟨_, _, _, rfl, .of_stretched rfl hlt htmp (by decide)⟩
  · rw [if_pos (heq_iff.mpr heq)]
    exact ⟨_, _, _, rfl, .of_eq heq⟩
  · rw [if_neg (by rw [heq_iff]; omega), if_neg (by rw [hlt_iff]; omega)]
    have hdst := hd.toNat_toUInt32
    rcases minify_cases hs.toNat_toUInt32 hdst with ⟨e, x, he, hmin, hx⟩ | ⟨htoo, x, hmin, hx⟩
    · rw [hmin]
      dsimp only
      by_cases hleft : x < dst.toUInt32
      · rw [if_pos hleft]
        rw [UInt32.lt_iff_toNat_lt, hx, hdst] at hleft
        refine ⟨_, _, _, rfl, .of_left hgt he hleft (fun hlost => ?_)
          (horizontalMini e he.1.1 he.1.2.1)⟩
        have hsub : (x - 2).toNat = s / 2 ^ e - 2 := by
          rw [UInt32.toNat_sub_of_le _ _ (UInt32.le_iff_toNat_le.mpr (by rw [hx]; exact hlost)), hx]
          rfl
        have hle : s / 2 ^ e - 2 ≤ 4096 :=
          (Nat.sub_le _ _).trans ((Nat.div_le_self _ _).trans hs')
        exact left_quotient hsub hdst rfl hle le_rfl
      · rw [if_neg hleft]
        rw [UInt32.lt_iff_toNat_lt, hx, hdst] at hleft
        exact ⟨_, _, _, rfl, .of_exact hgt he hleft (horizontalMini e he.1.1 he.1.2.1)⟩
    · rw [hmin]
      dsimp only
      rw [if_neg (by rw [UInt32.lt_iff_toNat_lt, hx, hdst]; omega)]
      exact ⟨_, _, _, rfl, .of_tooLarge htoo (horizontalMini 4 (by decide) le_rfl)⟩

/-- Fewer than two pixels are left only of a source in a window of two, and then it is one. -/
theorem eq_one_of_left_lt_two {s d e : ℕ} (he : IsLeast (Suffices s d) e) (hgt : d < s)
    (hleft : s / 2 ^ e < d) (hfew : s / 2 ^ e < 2) : s / 2 ^ e = 1 ∧ d = 2 := by
  obtain ⟨⟨h1, h4, -⟩, hleast⟩ := he
  have hbefore : d < s / 2 ^ (e - 1) := by
    rcases Nat.lt_or_eq_of_le h1 with hlt | rfl
    · by_contra! hle
      have hless := hleast ⟨by omega, by omega, hle⟩
      omega
    · rwa [Nat.sub_self, pow_zero, Nat.div_one]
  have hhalf : s / 2 ^ e = s / 2 ^ (e - 1) / 2 := by
    rw [Nat.div_div_eq_div_mul, ← pow_succ, Nat.sub_add_cancel h1]
  omega

/-- **What the two mappings encode.**  For every source of up to 4096 and every window: each halves
the source as often as is needed, says whether four times is enough, and writes, in its own bits
only, the quotient of what is left by the window, horizontally less two pixels if that many are
left.  Fewer are left only of a source in a window of two, and then it is one. -/
theorem zoom_mapped (hs : Holds src s) (hd : Holds dst d) (hs' : s ≤ 4096) :
    (∃ z, ucOvlMapVzoom src dst = some z ∧ Mapped .vertical 0 s d z) ∧
      (∃ z falign dcount, ucOvlMapHzoom src dst = some (z, falign, dcount) ∧
        Mapped .horizontal 2 s d z) ∧
      ∀ e, IsLeast (Suffices s d) e → d < s → s / 2 ^ e < d → s / 2 ^ e < 2 →
        s / 2 ^ e = 1 ∧ d = 2 :=
  ⟨ucOvlMapVzoom_mapped hs hd hs', ucOvlMapHzoom_mapped hs hd hs',
    fun _ he hgt hleft hfew => eq_one_of_left_lt_two he hgt hleft hfew⟩

/-- 352 in a window of 100. -/
theorem zoom_mapped_sample :
    (∃ z, ucOvlMapVzoom 352 100 = some z ∧ Mapped .vertical 0 352 100 z) ∧
      ∃ z falign dcount, ucOvlMapHzoom 352 100 = some (z, falign, dcount) ∧
        Mapped .horizontal 2 352 100 z :=
  have h := zoom_mapped (show Holds 352 352 from rfl) (show Holds 100 100 from rfl) (by decide)
  ⟨h.1, h.2.1⟩

/-- **The fraction of a source that was halved is not its quotient**: 100 in a window of 60 leaves
50, and the fraction is that of 48. -/
theorem fraction_of_halved :
    ∃ z, ucOvlMapHzoom 100 60 = some (z, 3, 98) ∧ Axis.horizontal.exponent z.mini = 1 ∧
      Axis.horizontal.fraction z.zoom = 1638 ∧ 50 * Axis.horizontal.unit / 60 = 1706 ∧
      ¬ Mapped .horizontal 0 100 60 z :=
  ⟨_, rfl, by decide, by decide, by decide, fun h => absurd
    (h.fraction (by decide) (by decide) (Nat.zero_le _)).1 (by decide)⟩

end Vidix.Unichrome
