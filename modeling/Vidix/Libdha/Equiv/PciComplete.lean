import Vidix.Libdha.Equiv.PciScan
import Vidix.Util.CutTable

/-!
# Whether the bus scan misses a function

On a card the scan stops at the first function number that does not answer, so that it finds the
functions below the first gap (`foundFunctions_eq`).  The device list is a table of 64 entries that
the visited buses fill in turn (`Util.CutTable`).  Together with the order of the walk this gives
`pciScan_complete_iff`: among at most 64 functions none is missed or repeated iff the buses fit into
their table, no card has a gap below one of its functions, and no bus with a device is announced
again before all 64 functions are listed.
-/

namespace Vidix.Libdha

open Util

/-! ### The functions to be found -/

/-- A function answers with vendor and device ids different from `0xFFFF`. -/
def answers (b : Backend) (bus card : UInt8) (func : UInt32) : Bool :=
  !nothingThere (b.pciGetVendor bus card func)

/-- Function 0 of a card is present and declares the card to be multi-function. -/
def multiFunction (b : Backend) (bus card : UInt8) : Bool :=
  answers b bus card 0 &&
    !singleFunction 0 (readConfigReg b bus card 0 (b.pciGetVendor bus card 0))

/-- A function that the scan should list. -/
def expected (b : Backend) (bus card : UInt8) (func : UInt32) : Bool :=
  answers b bus card func && (func == 0 || multiFunction b bus card)

def expectedKeys (b : Backend) (bus : UInt8) : List (UInt8 × UInt16 × UInt32) :=
  cardNumbers.flatMap fun card =>
    (funcNumbers.filter (expected b bus card)).map fun func => (bus, card.toUInt16, func)

/-- No card of a bus has a function above a number that does not answer. -/
def NoGap (b : Backend) (bus : UInt8) : Prop :=
  ∀ card ∈ cardNumbers, ∀ func ∈ funcNumbers, expected b bus card func = true →
    ∀ func' < func, answers b bus card func' = true

/-- At most 64 functions answer. -/
def AtMost64 (b : Backend) : Prop :=
  ∃ l : List (UInt8 × UInt16 × UInt32), l.length ≤ 64 ∧
    ∀ bus, ∀ card ∈ cardNumbers, ∀ func ∈ funcNumbers, answers b bus card func = true →
      (bus, card.toUInt16, func) ∈ l

/-- The scan ends, and lists every function of a visited bus exactly once. -/
def Complete (b : Backend) : Prop :=
  EndsWith b fun s =>
    ∀ bus ∈ s.pcibuses, ∀ card ∈ cardNumbers, ∀ func ∈ funcNumbers,
      expected b bus card func = true →
        (s.pciLst.map Pciinfo.key).count (bus, card.toUInt16, func) = 1

/-! ### A card -/

/-- The function numbers after 0. -/
def laterFuncs : List UInt32 := [1, 2, 3, 4, 5, 6, 7]

/-- The functions that the scan finds on a card. -/
def cardFuncs (b : Backend) (bus card : UInt8) : List UInt32 :=
  if answers b bus card 0 then
    0 :: if multiFunction b bus card then laterFuncs.takeWhile (answers b bus card) else []
  else []

theorem mem_cardNumbers {card : UInt8} : card ∈ cardNumbers ↔ card.toNat < 32 := by
  rw [cardNumbers, List.mem_map]
  constructor
  · rintro ⟨n, hn, rfl⟩
    rw [List.mem_range] at hn
    rw [UInt8.toNat_ofNat']
    omega
  · exact fun h => ⟨card.toNat, List.mem_range.mpr h, UInt8.ofNat_toNat⟩

theorem mem_funcNumbers {func : UInt32} : func ∈ funcNumbers ↔ func.toNat < 8 := by
  rw [funcNumbers, List.mem_map]
  constructor
  · rintro ⟨n, hn, rfl⟩
    rw [List.mem_range] at hn
    rw [UInt32.toNat_ofNat']
    omega
  · exact fun h => ⟨func.toNat, List.mem_range.mpr h, UInt32.ofNat_toNat⟩

theorem funcNumbers_eq : funcNumbers = 0 :: laterFuncs := by decide

theorem foundFunctions_later (b : Backend) (bus card : UInt8) {funcs : List UInt32}
    (h0 : (0 : UInt32) ∉ funcs) :
    (foundFunctions b bus card funcs).map (fun f => f.entry.key) =
      (funcs.takeWhile (answers b bus card)).map fun func => (bus, card.toUInt16, func) := by
  induction funcs with
  | nil => rfl
  | cons func funcs ih =>
    obtain ⟨hne, h0'⟩ := not_or.mp (fun h => h0 (List.mem_cons.mpr h))
    have hmulti : ∀ pcr, singleFunction func pcr = false := by
      intro pcr
      rw [singleFunction, beq_eq_false_iff_ne.mpr (Ne.symm hne), Bool.false_and]
    unfold foundFunctions
    dsimp only
    by_cases hno : nothingThere (b.pciGetVendor bus card func) = true
    · have hans : ¬ answers b bus card func = true := by rw [answers, hno]; decide
      rw [if_pos hno, List.takeWhile_cons_of_neg hans]
      rfl
    · have hans : answers b bus card func = true := by
        rw [answers, Bool.eq_false_iff.mpr hno]
        rfl
      rw [if_neg hno, hmulti, List.takeWhile_cons_of_pos hans, List.map_cons, List.map_cons,
        ← ih h0']
      rfl

theorem foundFunctions_eq (b : Backend) (bus card : UInt8) :
    (foundFunctions b bus card funcNumbers).map (fun f => f.entry.key) =
      (cardFuncs b bus card).map fun func => (bus, card.toUInt16, func) := by
  rw [funcNumbers_eq, foundFunctions, cardFuncs, multiFunction]
  dsimp only
  by_cases hno : nothingThere (b.pciGetVendor bus card 0) = true
  · have hans : answers b bus card 0 = false := by rw [answers, hno]; rfl
    rw [if_pos hno, hans]
    rfl
  · have hans : answers b bus card 0 = true := by
      rw [answers, Bool.eq_false_iff.mpr hno]
      rfl
    rw [if_neg hno, hans, Bool.true_and, if_pos rfl, List.map_cons, List.map_cons]
    congr 1
    cases singleFunction 0 (readConfigReg b bus card 0 (b.pciGetVendor bus card 0)) with
    | true => rfl
    | false => exact foundFunctions_later b bus card (by decide)

/-- All numbers below one that is found answer. -/
theorem answers_of_mem_cardFuncs {b : Backend} {bus card : UInt8} {func func' : UInt32}
    (h : func ∈ cardFuncs b bus card) (hlt : func' < func) : answers b bus card func' = true := by
  unfold cardFuncs at h
  split_ifs at h with h0 hm
  · rcases List.mem_cons.mp h with rfl | hlater
    · exact absurd hlt (UInt32.not_lt_zero)
    · have hfunc : func ∈ funcNumbers := by
        rw [funcNumbers_eq]
        exact List.mem_cons_of_mem _ ((List.takeWhile_prefix _).subset hlater)
      have hmem : func' = 0 ∨ func' ∈ laterFuncs := by
        rw [← List.mem_cons, ← funcNumbers_eq, mem_funcNumbers]
        exact (UInt32.lt_iff_toNat_lt.mp hlt).trans (mem_funcNumbers.mp hfunc)
      rcases hmem with rfl | hmem
      · exact h0
      · have hsorted : laterFuncs.Pairwise (· < ·) := by decide
        exact of_mem_takeWhile (fun _ _ => UInt32.lt_asymm) hsorted hlater hmem hlt
  · obtain rfl := List.mem_singleton.mp h
    exact absurd hlt (UInt32.not_lt_zero)
  · exact absurd h List.not_mem_nil

/-- Without gaps, the scan finds on a card what it should. -/
theorem cardFuncs_eq_filter {b : Backend} {bus card : UInt8} (hgap : NoGap b bus)
    (hcard : card ∈ cardNumbers) :
    cardFuncs b bus card = funcNumbers.filter (expected b bus card) := by
  rw [funcNumbers_eq, cardFuncs]
  have hlater0 : ∀ f ∈ laterFuncs, (f == 0) = false := by simp [laterFuncs]
  by_cases h0 : answers b bus card 0 = true
  · have hexp0 : expected b bus card 0 = true := by rw [expected, h0]; rfl
    rw [if_pos h0, List.filter_cons_of_pos hexp0]
    congr 1
    by_cases hm : multiFunction b bus card = true
    · -- the functions that answer are the expected ones, and none comes after one that does not
      have hexp : ∀ f ∈ laterFuncs, expected b bus card f = answers b bus card f := by
        intro f _
        rw [expected, hm, Bool.or_true, Bool.and_true]
      rw [if_pos hm, List.filter_congr hexp]
      have hsorted : laterFuncs.Pairwise (· < ·) := by decide
      refine takeWhile_eq_filter (hsorted.imp_of_mem fun {x y} _ hy hxy hans => ?_)
      have hmem : y ∈ funcNumbers := by rw [funcNumbers_eq]; exact List.mem_cons_of_mem _ hy
      exact hgap card hcard y hmem (by rw [hexp y hy]; exact hans) x hxy
    · rw [if_neg hm, eq_comm, List.filter_eq_nil_iff]
      intro f hf hexp
      rw [expected, hlater0 f hf, Bool.false_or, Bool.and_eq_true] at hexp
      exact hm hexp.2
  · rw [if_neg h0, eq_comm, List.filter_eq_nil_iff]
    have hm : multiFunction b bus card = false := by
      rw [multiFunction, Bool.eq_false_iff.mpr h0, Bool.false_and]
    intro f _ hexp
    rw [expected, hm, Bool.or_false, Bool.and_eq_true, beq_iff_eq] at hexp
    exact h0 (hexp.2 ▸ hexp.1)

/-! ### A bus -/

theorem foundKeys_eq {b : Backend} (h1 : b.pciConfigType = 1) (bus : UInt8) :
    foundKeys b bus = cardNumbers.flatMap fun card =>
      (cardFuncs b bus card).map fun func => (bus, card.toUInt16, func) := by
  unfold foundKeys found found1
  rw [if_pos h1, List.map_flatMap]
  exact List.flatMap_congr fun card _ => foundFunctions_eq b bus card

theorem mem_expectedKeys {b : Backend} {bus : UInt8} {k : UInt8 × UInt16 × UInt32} :
    k ∈ expectedKeys b bus ↔ ∃ card ∈ cardNumbers, ∃ func ∈ funcNumbers,
      expected b bus card func = true ∧ (bus, card.toUInt16, func) = k := by
  unfold expectedKeys
  simp only [List.mem_flatMap, List.mem_map, List.mem_filter, and_assoc]

theorem foundKeys_eq_expectedKeys {b : Backend} (h1 : b.pciConfigType = 1) {bus : UInt8}
    (hgap : NoGap b bus) : foundKeys b bus = expectedKeys b bus := by
  rw [foundKeys_eq h1, expectedKeys]
  exact List.flatMap_congr fun card hcard => by rw [cardFuncs_eq_filter hgap hcard]

/-- A bus whose functions are all found has no gap. -/
theorem noGap_of_subset {b : Backend} (h1 : b.pciConfigType = 1) {bus : UInt8}
    (hsub : expectedKeys b bus ⊆ foundKeys b bus) : NoGap b bus := by
  intro card hcard func hfunc hexp func' hlt
  have hmem := hsub (mem_expectedKeys.mpr ⟨card, hcard, func, hfunc, hexp, rfl⟩)
  rw [foundKeys_eq h1] at hmem
  obtain ⟨card', hcard', hmem'⟩ := List.mem_flatMap.mp hmem
  obtain ⟨func'', hf, heq⟩ := List.mem_map.mp hmem'
  obtain ⟨-, hk⟩ := Prod.mk.inj heq
  obtain ⟨hc, rfl⟩ := Prod.mk.inj hk
  obtain rfl := UInt8.toUInt16_inj.mp hc
  exact answers_of_mem_cardFuncs hf hlt

theorem expectedKeys_bus {b : Backend} {bus : UInt8} {k : UInt8 × UInt16 × UInt32}
    (hk : k ∈ expectedKeys b bus) : k.1 = bus := by
  obtain ⟨_, _, _, _, _, rfl⟩ := mem_expectedKeys.mp hk
  rfl

/-! ### The whole scan -/

/-- The visits of the scan, in order: the buses announce exactly themselves, each before its
visit. -/
structure ScanOrder (b : Backend) (Q : List UInt8) : Prop where
  numbering : Numbering b Q
  announced : ∀ i < Q.length, i < (busNumbers ((Q.take i).flatMap (announcements b))).length

theorem isOrder_iff {b : Backend} {Q : List UInt8} :
    IsOrder ScanState.pcibuses (after b) Q ↔ ScanOrder b Q := by
  constructor
  · rintro ⟨hclosed, hann⟩
    simp only [after_pcibuses] at hclosed hann
    exact ⟨hclosed, hann⟩
  · rintro ⟨hclosed, hann⟩
    refine ⟨by rw [after_pcibuses]; exact hclosed, fun i hi => ?_⟩
    rw [after_pcibuses]
    exact hann i hi

/-- What the scan must meet to miss nothing. -/
structure NothingHidden (b : Backend) (Q : List UInt8) : Prop where
  order : ScanOrder b Q
  fits : Q.length ≤ 16
  noGap : ∀ bus ∈ Q, NoGap b bus
  noRepeat : ∀ A bus B, Q = A ++ bus :: B → bus ∈ A → expectedKeys b bus ≠ [] →
    64 ≤ (A.flatMap (expectedKeys b)).length

/-- The list after the visits `Q` is complete iff every expected function is in it once. -/
theorem listed_iff {b : Backend} {Q : List UInt8} (hQ : (after b Q).pcibuses = Q) :
    (∀ bus ∈ (after b Q).pcibuses, ∀ card ∈ cardNumbers, ∀ func ∈ funcNumbers,
        expected b bus card func = true →
          ((after b Q).pciLst.map Pciinfo.key).count (bus, card.toUInt16, func) = 1) ↔
      ∀ k ∈ Q.flatMap (expectedKeys b),
        ((Q.flatMap (foundKeys b)).take maxPciDevices).count k = 1 := by
  rw [hQ, after_keys]
  constructor
  · intro h k hk
    obtain ⟨bus, hbus, hk'⟩ := List.mem_flatMap.mp hk
    obtain ⟨card, hcard, func, hfunc, hexp, rfl⟩ := mem_expectedKeys.mp hk'
    exact h bus hbus card hcard func hfunc hexp
  · intro h bus hbus card hcard func hfunc hexp
    exact h _ (List.mem_flatMap.mpr
      ⟨bus, hbus, mem_expectedKeys.mpr ⟨card, hcard, func, hfunc, hexp, rfl⟩⟩)

theorem listed_iff_nothingHidden {b : Backend} (h1 : b.pciConfigType = 1) (h64 : AtMost64 b)
    {Q : List UInt8} :
    (∀ k ∈ Q.flatMap (expectedKeys b),
        ((Q.flatMap (foundKeys b)).take maxPciDevices).count k = 1) ↔
      (∀ bus ∈ Q, NoGap b bus) ∧
        ∀ A bus B, Q = A ++ bus :: B → bus ∈ A → expectedKeys b bus ≠ [] →
          64 ≤ (A.flatMap (expectedKeys b)).length := by
  obtain ⟨l, hl, hall⟩ := h64
  have hsub : ∀ bus ∈ Q, ∀ k ∈ expectedKeys b bus, k ∈ l := by
    intro bus _ k hk
    obtain ⟨card, hcard, func, hfunc, hexp, rfl⟩ := mem_expectedKeys.mp hk
    exact hall bus card hcard func hfunc (Bool.and_eq_true_iff.mp hexp).1
  have hdisj : ∀ x y, x ≠ y → List.Disjoint (expectedKeys b x) (expectedKeys b y) :=
    fun x y hxy k hx hy => hxy ((expectedKeys_bus hx).symm.trans (expectedKeys_bus hy))
  have hsame : (∀ bus ∈ Q, NoGap b bus) →
      Q.flatMap (foundKeys b) = Q.flatMap (expectedKeys b) := fun hgap =>
    List.flatMap_congr fun bus hbus => foundKeys_eq_expectedKeys h1 (hgap bus hbus)
  have hnodup : ∀ bus, (expectedKeys b bus).Nodup := fun bus =>
    cardKeys_nodup bus fun card => List.Nodup.filter _ (by decide)
  have hiff := count_take_flatMap_iff hnodup hdisj hl hsub
  constructor
  · intro h
    -- every expected function is listed, so it was found, and that on a visit of its own bus
    have hgap : ∀ bus ∈ Q, NoGap b bus := by
      intro bus hbus
      refine noGap_of_subset h1 fun k hk => ?_
      have hone := h k (List.mem_flatMap.mpr ⟨bus, hbus, hk⟩)
      have hmem : k ∈ (Q.flatMap (foundKeys b)).take maxPciDevices :=
        List.count_pos_iff.mp (by omega)
      obtain ⟨bus', -, hk'⟩ := List.mem_flatMap.mp (List.take_subset _ _ hmem)
      rwa [← foundKeys_bus hk', expectedKeys_bus hk] at hk'
    rw [hsame hgap] at h
    exact ⟨hgap, hiff.mp h⟩
  · rintro ⟨hgap, hrep⟩
    rw [hsame hgap]
    exact hiff.mpr hrep

theorem complete_iff_of_scans {b : Backend} (hio : b.enableAppIo = 0) (h1 : b.pciConfigType = 1)
    (h64 : AtMost64 b) : Complete b ↔ ∃ Q, NothingHidden b Q := by
  obtain ⟨scanBus, hsum, heq⟩ := pciScan_of_scans ⟨hio, .inl h1⟩
  rw [Complete, endsWith_of_scans heq, walk_done_iff hsum]
  constructor
  · rintro ⟨Q, hQ, hfits, hlist⟩
    obtain ⟨hgap, hrep⟩ := (listed_iff_nothingHidden h1 h64).mp ((listed_iff hQ.closed).mp hlist)
    exact ⟨Q, isOrder_iff.mp hQ, hfits, hgap, hrep⟩
  · rintro ⟨Q, hQ⟩
    have hord := isOrder_iff.mpr hQ.order
    refine ⟨Q, hord, hQ.fits, (listed_iff hord.closed).mpr ?_⟩
    exact (listed_iff_nothingHidden h1 h64).mpr ⟨hQ.noGap, hQ.noRepeat⟩

/-- **The scan misses nothing iff nothing is hidden from it.**  On a machine with at most 64
functions, the scan of configuration type 1 ends and lists every function of the visited buses that
it should exactly once, iff its buses fit into the table, no card on them has a gap below a
function, and no bus with a function comes again before 64 functions are listed. -/
theorem pciScan_complete_iff (b : Backend) (h1 : b.pciConfigType = 1) (h64 : AtMost64 b) :
    Complete b ↔ (b.enableAppIo = 0 → ∃ Q, NothingHidden b Q) := by
  by_cases hio : b.enableAppIo = 0
  · rw [complete_iff_of_scans hio h1 h64]
    exact ⟨fun h _ => h, fun h => h hio⟩
  · rw [Complete, endsWith_of_not_scans fun h => hio h.1]
    exact iff_of_true (fun bus hbus => absurd hbus List.not_mem_nil) fun h => absurd h hio

/-! ### Configuration spaces -/

/-- What answers on the ports is a function that is there, with proper ids. -/
theorem answers_x86_iff (cs : ConfigSpace) (t : UInt16) (bus : UInt8) {card : UInt8}
    {func : UInt32} (hcard : card ∈ cardNumbers) (hfunc : func ∈ funcNumbers) :
    answers (x86Backend cs t) bus card func = true ↔
      ∃ c, cs (Slot.ofNat bus.toNat card.toNat func.toNat) = some c ∧
        c.word 0 ≠ 0xFFFF ∧ c.word 2 ≠ 0xFFFF := by
  rw [answers, show (x86Backend cs t).pciGetVendor bus card func =
    X86.pciGetVendor cs bus card func from rfl,
    X86.pciGetVendor_eq cs bus (mem_cardNumbers.mp hcard) (mem_funcNumbers.mp hfunc)]
  cases cs (Slot.ofNat bus.toNat card.toNat func.toNat) with
  | none => exact iff_of_false (by decide) (by rintro ⟨c, hc, -⟩; cases hc)
  | some c => simp [nothingThere]

/-- At most 64 functions in configuration space are at most 64 that answer. -/
theorem atMost64_x86 {cs : ConfigSpace} (t : UInt16) {l : List Slot} (hl : l.length ≤ 64)
    (h : ∀ slot c, cs slot = some c → slot ∈ l) : AtMost64 (x86Backend cs t) := by
  refine ⟨l.map fun slot =>
    (UInt8.ofNat slot.bus.val, UInt16.ofNat slot.dev.val, UInt32.ofNat slot.func.val), ?_, ?_⟩
  · rw [List.length_map]
    exact hl
  · intro bus card hcard func hfunc hans
    obtain ⟨c, hc, -⟩ := (answers_x86_iff cs t bus hcard hfunc).mp hans
    have hcards : UInt16.ofNat (Fin.ofNat 32 card.toNat).val = card.toUInt16 := by
      have : (Fin.ofNat 32 card.toNat).val = card.toNat :=
        Nat.mod_eq_of_lt (mem_cardNumbers.mp hcard)
      rw [this, UInt16.ofNat_uInt8ToNat]
    have hfuncs : UInt32.ofNat (Fin.ofNat 8 func.toNat).val = func := by
      have : (Fin.ofNat 8 func.toNat).val = func.toNat :=
        Nat.mod_eq_of_lt (mem_funcNumbers.mp hfunc)
      rw [this, UInt32.ofNat_toNat]
    have hbus : UInt8.ofNat (Fin.ofNat 256 bus.toNat).val = bus := by
      have : (Fin.ofNat 256 bus.toNat).val = bus.toNat := Nat.mod_eq_of_lt bus.toNat_lt
      rw [this, UInt8.ofNat_toNat]
    refine List.mem_map.mpr ⟨_, h _ c hc, ?_⟩
    rw [Slot.ofNat]
    dsimp only
    rw [hcards, hfuncs, hbus]

/-- A card with two functions in slot 0 of bus 0, a bridge to bus 1 in slot 2, and a graphics card
in slot 0 of bus 1. -/
def bridgedMachine : ConfigSpace := fun slot =>
  if slot = Slot.ofNat 0 0 0 ∨ slot = Slot.ofNat 0 0 1 then
    some (configBytes [(0x00, 0x86), (0x01, 0x80), (0x02, 0x10), (0x03, 0x70), (0x0e, 0x80)])
  else if slot = Slot.ofNat 0 2 0 then some (bridgeTo 1)
  else if slot = Slot.ofNat 1 0 0 then
    some (configBytes [(0x00, 0x02), (0x01, 0x10), (0x02, 0x59), (0x03, 0x51), (0x0b, 0x03)])
  else none

/-- The scan of that machine misses none of its four functions. -/
theorem pciScan_bridgedMachine_complete : Complete (x86Backend bridgedMachine 1) := by
  have h64 : AtMost64 (x86Backend bridgedMachine 1) := by
    refine atMost64_x86 1 (l := [.ofNat 0 0 0, .ofNat 0 0 1, .ofNat 0 2 0, .ofNat 1 0 0])
      (by decide) fun slot c hc => ?_
    unfold bridgedMachine at hc
    simp only [List.mem_cons, List.not_mem_nil, or_false]
    split_ifs at hc with htwo hbridge hcard
    · exact htwo.imp_right .inl
    · exact .inr (.inr (.inl hbridge))
    · exact .inr (.inr (.inr hcard))
  have hfound : ∀ bus ∈ [0, 1], expectedKeys (x86Backend bridgedMachine 1) bus ⊆
      foundKeys (x86Backend bridgedMachine 1) bus := by
    decide +kernel
  have hnumbering : Numbering (x86Backend bridgedMachine 1) [0, 1] := by
    unfold Numbering
    decide +kernel
  refine (pciScan_complete_iff (x86Backend bridgedMachine 1) rfl h64).mpr fun _ => ⟨[0, 1], ?_⟩
  refine ⟨⟨hnumbering, by decide +kernel⟩, by decide, ?_, ?_⟩
  · exact fun bus hbus => noGap_of_subset rfl (hfound bus hbus)
  · intro A bus B hsplit hbus _
    have hnodup : (A ++ bus :: B).Nodup := hsplit ▸ by decide
    exact absurd List.mem_cons_self (List.disjoint_of_nodup_append hnodup hbus)

/-- A card that says it has several functions, and has functions 0 and 2. -/
def sparseCard : ConfigSpace := fun slot =>
  if slot = Slot.ofNat 0 0 0 ∨ slot = Slot.ofNat 0 0 2 then
    some (configBytes [(0x00, 0x02), (0x01, 0x10), (0x02, 0x59), (0x03, 0x51), (0x0b, 0x03),
      (0x0e, 0x80)])
  else none

/-- **Function 2 of that card is missed**: the scan stops at the number 1, which does not answer. -/
theorem pciScan_sparseCard : AtMost64 (x86Backend sparseCard 1) ∧
    ¬ Complete (x86Backend sparseCard 1) := by
  have h64 : AtMost64 (x86Backend sparseCard 1) := by
    refine atMost64_x86 1 (l := [.ofNat 0 0 0, .ofNat 0 0 2]) (by decide) fun slot c hc => ?_
    unfold sparseCard at hc
    split_ifs at hc with hslot
    simpa using hslot
  refine ⟨h64, ?_⟩
  rw [complete_iff_of_scans rfl rfl h64]
  rintro ⟨Q, hQ⟩
  have hbus : (0 : UInt8) ∈ Q :=
    (hQ.order.numbering.announced List.nil_prefix).subset List.mem_cons_self
  have hexp : expected (x86Backend sparseCard 1) 0 0 2 = true := by decide +kernel
  have hans := hQ.noGap 0 hbus 0 (by decide) 2 (by decide) hexp 1 (by decide)
  exact absurd hans (by decide +kernel)

end Vidix.Libdha
