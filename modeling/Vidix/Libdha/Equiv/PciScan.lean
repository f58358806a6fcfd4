import Vidix.Libdha.Equiv.PciVisit
import Vidix.Libdha.Equiv.PciX86
import Mathlib.Data.List.Nodup
import Mathlib.Data.List.Flatten

/-!
# The bus scan as a whole

The bus loop is a walk of `Util.Worklist` (`scanSummary`), so that what it does is told by lists of
buses alone.  A list is a consistent numbering when the functions on its buses announce exactly
that list.

The headline is `pciScan_bounded_iff`: the scan ends inside its tables and repeats nothing iff at
most 16 buses have a consistent numbering without repetition.
-/

namespace Vidix.Libdha

open Util

/-! ### The loop as a walk -/

/-- What a visit of a bus notes, by the mechanism that the scan uses. -/
def found (b : Backend) : UInt8 → List Found :=
  if b.pciConfigType = 1 then found1 b else found2 b

/-- The buses that the functions of a bus announce. -/
def announcements (b : Backend) (bus : UInt8) : List Announce := (found b bus).map Found.announce

/-- The buses `L` announce `L`. -/
def Numbering (b : Backend) (L : List UInt8) : Prop := busNumbers (L.flatMap (announcements b)) = L

/-- The state after some visits, were the bus table as long as needed. -/
def after (b : Backend) (A : List UInt8) : ScanState := (A.flatMap (found b)).foldl note scanStart

theorem after_append (b : Backend) (A C : List UInt8) :
    after b (A ++ C) = (C.flatMap (found b)).foldl note (after b A) := by
  unfold after
  rw [List.flatMap_append, List.foldl_append]

theorem after_pcibuses (b : Backend) (A : List UInt8) :
    (after b A).pcibuses = busNumbers (A.flatMap (announcements b)) := by
  unfold after announcements
  rw [foldl_note_pcibuses, List.map_flatMap]
  rfl

theorem after_pciLst (b : Backend) (A : List UInt8) :
    (after b A).pciLst = ((A.flatMap (found b)).map Found.entry).take maxPciDevices := by
  unfold after
  rw [foldl_note_pciLst (l := []) _ rfl rfl, List.nil_append]

/-- A list of visits says what the bus loop has done. -/
theorem scanSummary {b : Backend} {scanBus : UInt8 → ScanState → Option ScanState}
    (hscan : ∀ bus s, s.pcibuses.length ≤ maxPciBuses →
      scanBus bus s = noteAll (found b bus) s) :
    Summary scanBus ScanState.pcibuses (after b) maxPciBuses where
  visit_after A bus hA := by rw [hscan bus _ hA, noteAll, after_append, List.flatMap_singleton]
  queue_prefix A bus := by
    rw [after_append]
    exact foldl_note_extends _ _
  init_ne := List.cons_ne_nil _ _
  init_le := Nat.succ_le_succ (Nat.zero_le _)

/-- The scan runs its bus loop. -/
def Scans (b : Backend) : Prop :=
  b.enableAppIo = 0 ∧ (b.pciConfigType = 1 ∨ b.pciConfigType = 2)

/-- A scan that does not run its loop has looked at nothing. -/
theorem pciScan_of_not_scans {b : Backend} (h : ¬ Scans b) (fuel : ℕ) :
    ∃ r, pciScan b fuel = .done (r, noBuses) := by
  unfold pciScan
  by_cases hio : b.enableAppIo = 0
  · have h1 : b.pciConfigType ≠ 1 := fun h1 => h ⟨hio, .inl h1⟩
    have h2 : b.pciConfigType ≠ 2 := fun h2 => h ⟨hio, .inr h2⟩
    rw [if_neg (not_not.mpr hio), if_neg h1, if_neg h2]
    split_ifs
    · exact ⟨_, rfl⟩
    · exact ⟨_, rfl⟩
  · rw [if_pos hio]
    exact ⟨_, rfl⟩

/-- A scan that runs its loop ends as the loop does. -/
theorem pciScan_of_scans {b : Backend} (h : Scans b) :
    ∃ scanBus, Summary scanBus ScanState.pcibuses (after b) maxPciBuses ∧
      ∀ fuel, pciScan b fuel =
        (walk scanBus ScanState.pcibuses fuel 0 (after b [])).map (0, ·) := by
  obtain ⟨hio, h1 | h2⟩ := h
  · have hfound : found b = found1 b := if_pos h1
    refine ⟨scanBus1 b, scanSummary fun bus s hs => by rw [hfound, scanBus1_eq b bus hs], ?_⟩
    intro fuel
    rw [pciScan, if_neg (not_not.mpr hio), h1]
    rfl
  · have hfound : found b = found2 b := if_neg (by rw [h2]; decide)
    refine ⟨scanBus2 b, scanSummary fun bus s hs => by rw [hfound, scanBus2_eq b bus hs], ?_⟩
    intro fuel
    rw [pciScan, if_neg (not_not.mpr hio), h2]
    rfl

/-- **The bus loop always ends**, within its table or by leaving it: sixteen turns are enough. -/
theorem pciScan_ne_fuelOut (b : Backend) : pciScan b maxPciBuses ≠ .fuelOut := by
  by_cases h : Scans b
  · obtain ⟨scanBus, hsum, heq⟩ := pciScan_of_scans h
    have hwalk : walk scanBus ScanState.pcibuses maxPciBuses 0 (after b []) ≠ .fuelOut :=
      walk_ne_fuelOut hsum hsum.atHead_nil (Nat.le_add_right _ _)
    rw [heq]
    intro hmap
    cases hw : walk scanBus ScanState.pcibuses maxPciBuses 0 (after b []) with
    | fuelOut => exact hwalk hw
    | overrun => rw [hw] at hmap; cases hmap
    | done s => rw [hw] at hmap; cases hmap
  · obtain ⟨r, hr⟩ := pciScan_of_not_scans h maxPciBuses
    rw [hr]
    exact nofun

/-- The scan ends inside its tables in a state with `P`. -/
def EndsWith (b : Backend) (P : ScanState → Prop) : Prop :=
  ∃ fuel r s, pciScan b fuel = .done (r, s) ∧ P s

theorem endsWith_of_not_scans {b : Backend} (h : ¬ Scans b) (P : ScanState → Prop) :
    EndsWith b P ↔ P noBuses := by
  constructor
  · rintro ⟨fuel, r, s, hs, hP⟩
    obtain ⟨r', hr'⟩ := pciScan_of_not_scans h fuel
    rw [hr'] at hs
    obtain ⟨-, rfl⟩ := Prod.mk.inj (Walk.done.inj hs)
    exact hP
  · intro hP
    obtain ⟨r, hr⟩ := pciScan_of_not_scans h 0
    exact ⟨0, r, noBuses, hr, hP⟩

theorem endsWith_of_scans {b : Backend} {scanBus : UInt8 → ScanState → Option ScanState}
    (heq : ∀ fuel, pciScan b fuel =
      (walk scanBus ScanState.pcibuses fuel 0 (after b [])).map (0, ·)) (P : ScanState → Prop) :
    EndsWith b P ↔
      ∃ fuel s, walk scanBus ScanState.pcibuses fuel 0 (after b []) = .done s ∧ P s := by
  constructor
  · rintro ⟨fuel, r, s, hs, hP⟩
    rw [heq, Walk.map_eq_done] at hs
    obtain ⟨s', hs', hrs⟩ := hs
    obtain ⟨-, rfl⟩ := Prod.mk.inj hrs
    exact ⟨fuel, s', hs', hP⟩
  · rintro ⟨fuel, s, hs, hP⟩
    exact ⟨fuel, 0, s, by rw [heq, Walk.map_eq_done]; exact ⟨s, hs, rfl⟩, hP⟩

/-! ### Keys -/

/-- The functions noted on a bus, as `(bus, card, func)`. -/
def foundKeys (b : Backend) (bus : UInt8) : List (UInt8 × UInt16 × UInt32) :=
  (found b bus).map fun f => f.entry.key

theorem after_keys (b : Backend) (A : List UInt8) :
    (after b A).pciLst.map Pciinfo.key = (A.flatMap (foundKeys b)).take maxPciDevices := by
  rw [after_pciLst, List.map_take, List.map_map, List.map_flatMap]
  rfl

/-- The functions that are noted on a card come in the order in which they are asked for. -/
theorem foundFunctions_keys (b : Backend) (bus card : UInt8) (funcs : List UInt32) :
    ∃ fs, fs <+: funcs ∧ (foundFunctions b bus card funcs).map (fun f => f.entry.key) =
      fs.map fun func => (bus, card.toUInt16, func) := by
  induction funcs with
  | nil => exact ⟨[], List.prefix_rfl, rfl⟩
  | cons func funcs ih =>
    obtain ⟨fs, hfs, heq⟩ := ih
    unfold foundFunctions
    dsimp only
    split_ifs
    · exact ⟨[], List.nil_prefix, rfl⟩
    · exact ⟨[func], ⟨funcs, rfl⟩, rfl⟩
    · exact ⟨func :: fs, List.cons_prefix_cons.mpr ⟨rfl, hfs⟩, by rw [List.map_cons, heq]; rfl⟩

/-- Functions without repetition on each card are functions without repetition on the bus. -/
theorem cardKeys_nodup (bus : UInt8) {fs : UInt8 → List UInt32} (hfs : ∀ card, (fs card).Nodup) :
    (cardNumbers.flatMap fun card =>
      (fs card).map fun func => (bus, card.toUInt16, func)).Nodup := by
  rw [List.nodup_flatMap]
  constructor
  · intro card _
    refine (hfs card).map fun x y hxy => ?_
    exact (Prod.mk.inj (Prod.mk.inj hxy).2).2
  · -- functions of different cards differ in the card
    have hcards : cardNumbers.Pairwise fun x y => x.toUInt16 ≠ y.toUInt16 := by decide
    refine hcards.imp fun {x y} hxy => ?_
    show List.Disjoint _ _
    intro k hk hk'
    obtain ⟨f, -, rfl⟩ := List.mem_map.mp hk
    obtain ⟨g, -, hg⟩ := List.mem_map.mp hk'
    exact hxy (Prod.mk.inj (Prod.mk.inj hg).2).1.symm

theorem found1_keys_nodup (b : Backend) (bus : UInt8) :
    ((found1 b bus).map fun f => f.entry.key).Nodup := by
  choose fs hfs heq using fun card => foundFunctions_keys b bus card funcNumbers
  unfold found1
  rw [List.map_flatMap, List.flatMap_congr fun card _ => heq card]
  exact cardKeys_nodup bus fun card => (hfs card).sublist.nodup (by decide)

theorem foundWindow_keys (b : Backend) (bus : UInt8) (ioaddr : UInt16) :
    ∀ f ∈ foundWindow b bus ioaddr, f.entry.key = (bus, ioaddr, 0) := by
  intro f hf
  unfold foundWindow at hf
  dsimp only at hf
  split_ifs at hf
  · exact absurd hf List.not_mem_nil
  · rw [List.mem_singleton.mp hf]
    rfl

theorem found2_keys_nodup (b : Backend) (bus : UInt8) :
    ((found2 b bus).map fun f => f.entry.key).Nodup := by
  unfold found2
  rw [List.map_flatMap, List.nodup_flatMap]
  constructor
  · intro ioaddr _
    unfold foundWindow
    dsimp only
    split_ifs
    · exact List.nodup_nil
    · exact List.nodup_singleton _
  · have hports : windowPorts.Pairwise (· ≠ ·) := by decide
    refine hports.imp fun {x y} hxy => ?_
    show List.Disjoint _ _
    intro k hk hk'
    obtain ⟨f, hf, rfl⟩ := List.mem_map.mp hk
    obtain ⟨g, hg, hfg⟩ := List.mem_map.mp hk'
    rw [foundWindow_keys b bus x f hf, foundWindow_keys b bus y g hg] at hfg
    exact hxy (Prod.mk.inj (Prod.mk.inj hfg).2).1.symm

theorem foundKeys_nodup (b : Backend) (bus : UInt8) : (foundKeys b bus).Nodup := by
  unfold foundKeys found
  split_ifs
  · exact found1_keys_nodup b bus
  · exact found2_keys_nodup b bus

theorem foundKeys_bus {b : Backend} {bus : UInt8} {k : UInt8 × UInt16 × UInt32}
    (hk : k ∈ foundKeys b bus) : k.1 = bus := by
  unfold foundKeys found at hk
  obtain ⟨f, hf, rfl⟩ := List.mem_map.mp hk
  split_ifs at hf
  · obtain ⟨card, -, hf'⟩ := List.mem_flatMap.mp hf
    obtain ⟨fs, -, heq⟩ := foundFunctions_keys b bus card funcNumbers
    have hmem := List.mem_map_of_mem (f := fun f : Found => f.entry.key) hf'
    rw [heq] at hmem
    obtain ⟨g, -, hg⟩ := List.mem_map.mp hmem
    exact (congrArg Prod.fst hg).symm
  · obtain ⟨ioaddr, -, hf'⟩ := List.mem_flatMap.mp hf
    rw [foundWindow_keys b bus ioaddr f hf']

/-- Buses without repetition have functions without repetition. -/
theorem foundKeys_flatMap_nodup (b : Backend) {A : List UInt8} (hA : A.Nodup) :
    (A.flatMap (foundKeys b)).Nodup := by
  rw [List.nodup_flatMap]
  refine ⟨fun bus _ => foundKeys_nodup b bus, hA.imp fun {x y} hxy => ?_⟩
  show List.Disjoint _ _
  intro k hk hk'
  exact hxy ((foundKeys_bus hk).symm.trans (foundKeys_bus hk'))

/-! ### Termination within the tables -/

/-- No bus was visited twice and no function is listed twice. -/
def NoRepetition (s : ScanState) : Prop := s.pcibuses.Nodup ∧ (s.pciLst.map Pciinfo.key).Nodup

theorem noRepetition_after_iff {b : Backend} {L : List UInt8} (hL : (after b L).pcibuses = L) :
    NoRepetition (after b L) ↔ L.Nodup := by
  rw [NoRepetition, hL, after_keys]
  constructor
  · exact fun h => h.1
  · exact fun h => ⟨h, (List.take_sublist _ _).nodup (foundKeys_flatMap_nodup b h)⟩

theorem noRepetition_anti {b : Backend} {A B : List UInt8} (hAB : A <+: B)
    (hB : NoRepetition (after b B)) : NoRepetition (after b A) := by
  obtain ⟨C, rfl⟩ := hAB
  obtain ⟨hbuses, hkeys⟩ := hB
  constructor
  · rw [after_append] at hbuses
    exact (foldl_note_extends _ _).sublist.nodup hbuses
  · rw [after_keys, List.flatMap_append] at hkeys
    rw [after_keys]
    exact ((List.prefix_append _ _).take _).sublist.nodup hkeys

/-- The buses that a part of a consistent numbering announces belong to it. -/
theorem Numbering.announced {b : Backend} {L A : List UInt8} (hL : Numbering b L) (hA : A <+: L) :
    busNumbers (A.flatMap (announcements b)) <+: L := by
  obtain ⟨C, rfl⟩ := hA
  have hpre := foldl_note_extends (C.flatMap (found b)) (after b A)
  rw [← after_append, after_pcibuses, after_pcibuses, hL] at hpre
  exact hpre

/-- A scan that runs its loop. -/
theorem endsWith_noRepetition_iff {b : Backend} (h : Scans b) :
    EndsWith b NoRepetition ↔ ∃ L : List UInt8, L.Nodup ∧ L.length ≤ 16 ∧ Numbering b L := by
  obtain ⟨scanBus, hsum, heq⟩ := pciScan_of_scans h
  rw [endsWith_of_scans heq, walk_done_iff_closed hsum fun _ _ => noRepetition_anti]
  constructor
  · rintro ⟨L, hL, hlen, hrep⟩
    refine ⟨L, (noRepetition_after_iff hL).mp hrep, hlen, ?_⟩
    rwa [after_pcibuses] at hL
  · rintro ⟨L, hnodup, hlen, hnum⟩
    have hL : (after b L).pcibuses = L := by rw [after_pcibuses]; exact hnum
    exact ⟨L, hL, hlen, (noRepetition_after_iff hL).mpr hnodup⟩

/-- **The scan stays in its tables iff the buses are numbered consistently.**  For every machine
and both mechanisms: the bus loop ends without an index past `_pcibuses`, visits no bus twice and
lists no function twice iff at most 16 buses, all different, announce exactly themselves. -/
theorem pciScan_bounded_iff (b : Backend) :
    EndsWith b NoRepetition ↔
      (Scans b → ∃ L : List UInt8, L.Nodup ∧ L.length ≤ 16 ∧ Numbering b L) := by
  by_cases h : Scans b
  · rw [endsWith_noRepetition_iff h]
    exact ⟨fun hL _ => hL, fun hL => hL h⟩
  · rw [endsWith_of_not_scans h]
    exact iff_of_true ⟨List.nodup_nil, List.nodup_nil⟩ fun h' => absurd h' h

/-- A bridge to bus 1, and on bus 1 a bridge that claims to lead to bus 1 again. -/
def selfBridge : ConfigSpace := fun slot =>
  if slot.dev.val = 0 ∧ slot.func.val = 0 ∧ slot.bus.val ≤ 1 then some (bridgeTo 1) else none

/-- **A bridge that names its own bus** is followed again and again: the scan never ends within its
tables without repetition. -/
theorem pciScan_selfBridge : ¬ EndsWith (x86Backend selfBridge 1) NoRepetition := by
  rw [endsWith_noRepetition_iff ⟨rfl, .inl rfl⟩]
  rintro ⟨L, hnodup, -, hnum⟩
  -- each visit of bus 1 announces bus 1, so that a consistent numbering has it twice
  have h0 : [0] <+: L := hnum.announced List.nil_prefix
  have h1 : [0, 1] <+: L := by
    have hann : busNumbers ([0].flatMap (announcements (x86Backend selfBridge 1))) = [0, 1] := by
      decide +kernel
    exact hann ▸ hnum.announced h0
  have h2 : [0, 1, 1] <+: L := by
    have hann : busNumbers ([0, 1].flatMap (announcements (x86Backend selfBridge 1))) =
        [0, 1, 1] := by
      decide +kernel
    exact hann ▸ hnum.announced h1
  exact absurd (h2.sublist.nodup hnodup) (by decide)

end Vidix.Libdha
