import Vidix.Util.Display
import Vidix.Util.Region
import Mathlib.Data.List.ProdSigma

/-!
# Planes made of lines

A plane has its lines one behind the other in a memory, each as long as the stride.  A picture is
made of some planes, and its samples are the bytes of their lines.  Two samples of pictures in
different frames are in different places when the frames are apart and the planes lie in their frame
without a byte in common (`placesApart`).
-/

namespace Vidix.Util

/-- `lines` lines of `stride` bytes each, from `start` on. -/
structure LinedPlane where
  start : ℕ
  stride : ℕ
  lines : ℕ
  deriving DecidableEq, Repr

/-- A byte of a picture: the number of its plane, its line, and its place in the line. -/
structure Sample where
  plane : ℕ
  line : ℕ
  column : ℕ
  deriving DecidableEq, Repr

namespace LinedPlane

/-- The bytes of the plane. -/
def region (p : LinedPlane) : Region := ⟨p.start, p.stride * p.lines⟩

/-- Where a byte of a line is. -/
def adrs (p : LinedPlane) (line column : ℕ) : ℕ := p.start + line * p.stride + column

/-- The samples of the plane with the number `i`. -/
def samples (p : LinedPlane) (i : ℕ) : List Sample :=
  (List.range p.lines ×ˢ List.range p.stride).map fun lc => ⟨i, lc.1, lc.2⟩

theorem mem_samples_iff {p : LinedPlane} {i : ℕ} {s : Sample} :
    s ∈ p.samples i ↔ s.plane = i ∧ s.line < p.lines ∧ s.column < p.stride := by
  obtain ⟨plane, line, column⟩ := s
  simp only [samples, List.mem_map, Prod.exists, List.mem_product, List.mem_range,
    Sample.mk.injEq]
  constructor
  · rintro ⟨l, c, ⟨hl, hc⟩, rfl, rfl, rfl⟩
    exact ⟨rfl, hl, hc⟩
  · rintro ⟨rfl, hl, hc⟩
    exact ⟨line, column, ⟨hl, hc⟩, rfl, rfl, rfl⟩

theorem nodup_samples (p : LinedPlane) (i : ℕ) : (p.samples i).Nodup := by
  refine (List.nodup_range.product List.nodup_range).map ?_
  intro a b h
  rw [Sample.mk.injEq] at h
  exact Prod.ext h.2.1 h.2.2

theorem adrs_mem_region {p : LinedPlane} {line column : ℕ} (hl : line < p.lines)
    (hc : column < p.stride) : p.adrs line column ∈ p.region.bytes := by
  have hline := slot_le hl p.stride
  rw [Nat.mul_comm p.lines] at hline
  unfold adrs
  refine ⟨?_, ?_⟩
  · show p.start ≤ _
    omega
  · show _ < p.start + p.stride * p.lines
    omega

/-- The bytes of the lines are different bytes. -/
theorem eq_of_adrs_eq {p : LinedPlane} {l l' c c' : ℕ} (hc : c < p.stride) (hc' : c' < p.stride)
    (h : p.adrs l c = p.adrs l' c') : l = l' ∧ c = c' := by
  have hpos : 0 < p.stride := by omega
  have hsum : c + p.stride * l = c' + p.stride * l' := by
    unfold adrs at h
    rw [Nat.mul_comm p.stride, Nat.mul_comm p.stride]
    omega
  have hdiv := congrArg (· / p.stride) hsum
  have hmod := congrArg (· % p.stride) hsum
  simp only [Nat.add_mul_div_left _ _ hpos, Nat.div_eq_of_lt hc, Nat.div_eq_of_lt hc',
    Nat.zero_add] at hdiv
  simp only [Nat.add_mul_mod_self_left, Nat.mod_eq_of_lt hc, Nat.mod_eq_of_lt hc'] at hmod
  exact ⟨hdiv, hmod⟩

end LinedPlane

/-! ### Pictures -/

/-- The samples of a picture, plane after plane. -/
def pictureSamples (planes : List LinedPlane) : List Sample :=
  (List.range planes.length).flatMap fun i => (planes[i]?).elim [] (·.samples i)

/-- Where a sample of a frame is that begins at `base`. -/
def samplePlace (planes : List LinedPlane) (base : ℕ) (s : Sample) : ℕ :=
  base + (planes[s.plane]?).elim 0 (·.adrs s.line s.column)

variable {planes : List LinedPlane}

theorem mem_pictureSamples_iff {s : Sample} :
    s ∈ pictureSamples planes ↔
      ∃ p, planes[s.plane]? = some p ∧ s.line < p.lines ∧ s.column < p.stride := by
  rw [pictureSamples, List.mem_flatMap]
  constructor
  · rintro ⟨i, hi, hs⟩
    rw [List.getElem?_eq_getElem (List.mem_range.mp hi)] at hs
    obtain ⟨hplane, hl, hc⟩ := LinedPlane.mem_samples_iff.mp hs
    exact ⟨_, hplane ▸ List.getElem?_eq_getElem (List.mem_range.mp hi), hl, hc⟩
  · rintro ⟨p, hp, hl, hc⟩
    obtain ⟨hlt, -⟩ := List.getElem?_eq_some_iff.mp hp
    refine ⟨s.plane, List.mem_range.mpr hlt, ?_⟩
    rw [hp]
    exact LinedPlane.mem_samples_iff.mpr ⟨rfl, hl, hc⟩

theorem nodup_pictureSamples (planes : List LinedPlane) : (pictureSamples planes).Nodup := by
  have hplane : ∀ (i : ℕ) (s : Sample), s ∈ (planes[i]?).elim [] (·.samples i) →
      s.plane = i := by
    intro i s hs
    cases hp : planes[i]? with
    | none =>
      rw [hp] at hs
      exact absurd hs List.not_mem_nil
    | some p =>
      rw [hp] at hs
      exact (LinedPlane.mem_samples_iff.mp hs).1
  refine List.nodup_flatMap.mpr ⟨fun i _ => ?_, ?_⟩
  · cases planes[i]? with
    | none => exact List.nodup_nil
    | some p => exact p.nodup_samples i
  · refine List.nodup_range.imp fun {i j} hij s hi hj => ?_
    exact hij ((hplane i s hi).symm.trans (hplane j s hj))

/-- Two bytes of planes without a byte in common. -/
theorem eq_of_adrs_eq {n : ℕ} (h : PackedIn n (planes.map LinedPlane.region)) {i j l l' c c' : ℕ}
    {p q : LinedPlane} (hp : planes[i]? = some p) (hq : planes[j]? = some q) (hl : l < p.lines)
    (hc : c < p.stride) (hl' : l' < q.lines) (hc' : c' < q.stride)
    (heq : p.adrs l c = q.adrs l' c') : i = j ∧ l = l' ∧ c = c' := by
  obtain ⟨hi, rfl⟩ := List.getElem?_eq_some_iff.mp hp
  obtain ⟨hj, rfl⟩ := List.getElem?_eq_some_iff.mp hq
  have hmem := LinedPlane.adrs_mem_region hl hc
  have hmem' := LinedPlane.adrs_mem_region hl' hc'
  -- a byte of two different planes would be common to both
  have hapart : ∀ a b (ha : a < planes.length) (hb : b < planes.length), a < b →
      Disjoint planes[a].region.bytes planes[b].region.bytes := by
    intro a b ha hb hab
    have hpair := List.pairwise_iff_getElem.mp h.disjoint a b (by rwa [List.length_map])
      (by rwa [List.length_map]) hab
    rwa [List.getElem_map, List.getElem_map] at hpair
  rcases lt_trichotomy i j with hlt | rfl | hlt
  · exact absurd (heq ▸ hmem') (Set.disjoint_left.mp (hapart i j hi hj hlt) hmem)
  · exact ⟨rfl, LinedPlane.eq_of_adrs_eq hc hc' heq⟩
  · exact absurd (heq ▸ hmem) (Set.disjoint_left.mp (hapart j i hj hi hlt) hmem')

/-- **No two samples share a place** when the frames are apart, and the planes in each of them. -/
theorem placesApart {ι : Type*} {n : ℕ} {base : ι → ℕ}
    (hplanes : PackedIn n (planes.map LinedPlane.region))
    (hbase : ∀ i j, i ≠ j → base i + n ≤ base j ∨ base j + n ≤ base i) :
    PlacesApart (pictureSamples planes) fun i => samplePlace planes (base i) := by
  refine ⟨nodup_pictureSamples planes, fun i j k hk l hl heq => ?_⟩
  obtain ⟨p, hp, hpl, hpc⟩ := mem_pictureSamples_iff.mp hk
  obtain ⟨q, hq, hql, hqc⟩ := mem_pictureSamples_iff.mp hl
  have hinside : ∀ {r : LinedPlane} {m line column : ℕ}, planes[m]? = some r → line < r.lines →
      column < r.stride → r.adrs line column < n := by
    intro r m line column hr hline hcolumn
    have hmem := List.mem_map_of_mem (f := LinedPlane.region) (List.mem_of_getElem? hr)
    exact hplanes.inside _ hmem (LinedPlane.adrs_mem_region hline hcolumn)
  have hk' := hinside hp hpl hpc
  have hl' := hinside hq hql hqc
  simp only [samplePlace, hp, hq, Option.elim_some] at heq
  by_cases hij : i = j
  · subst hij
    obtain ⟨hplane, hline, hcolumn⟩ :=
      eq_of_adrs_eq hplanes hp hq hpl hpc hql hqc (Nat.add_left_cancel heq)
    refine ⟨rfl, ?_⟩
    cases k
    cases l
    exact Sample.mk.injEq .. ▸ ⟨hplane, hline, hcolumn⟩
  · have hsep := hbase i j hij
    omega

end Vidix.Util
