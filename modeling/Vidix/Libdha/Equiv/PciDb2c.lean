import Vidix.Libdha.PciIds
import Vidix.Util.Table

/-!
# Correctness of the macro names

`headerNames_unambiguous_iff`: a macro is defined twice exactly where two devices, or two
subdevices, of a database straddle.

What the loop names is told by the sections: `vendors_run`, `devices_run` and `subdevices_run`
carry the three arrays of names through the loop, as the names that `assign` has to avoid.  So the
short names of one list differ from each other, and the pairs of a vendor's name and one of its
devices' names differ too (`namePairs_nodup`).  The pairs are written with an underscore between
them, which may also stand inside a name, and there `nodup_joined_iff` leaves one case
(`nodup_joined_namePairs_iff`).  Nothing but letters, digits and underscores gets into a name
(`isWordChar_of_mem_clean`), the first characters of the macros are letters, and they tell the
three kinds from each other (`nodup_texts_iff`).
-/

namespace Vidix.Libdha.PciDb2c

open Util

/-! ### Characters -/

theorem mem_of_mem_splitOnP {sep : Char → Bool} {s p : Text} {c : Char}
    (hp : p ∈ s.splitOnP sep) (hc : c ∈ p) : sep c = false := by
  induction s generalizing p with
  | nil =>
    rw [List.splitOnP_nil, List.mem_singleton] at hp
    rw [hp] at hc
    cases hc
  | cons a s ih =>
    rw [List.splitOnP_cons_eq_if_modifyHead] at hp
    split_ifs at hp with ha
    · rcases List.mem_cons.1 hp with rfl | hp
      · cases hc
      · exact ih hp hc
    · cases hs : s.splitOnP sep with
      | nil => exact absurd hs (List.splitOnP_ne_nil sep s)
      | cons q qs =>
        rw [hs, List.modifyHead_cons] at hp
        rcases List.mem_cons.1 hp with rfl | hp
        · rcases List.mem_cons.1 hc with rfl | hc
          · simpa using ha
          · exact ih (hs ▸ List.mem_cons_self) hc
        · exact ih (hs ▸ List.mem_cons_of_mem q hp) hc

theorem isWordChar_of_mem_split {s p : Text} {c : Char}
    (hp : p ∈ split s (fun c => !c.isAlphanum)) (hc : c ∈ p) : isWordChar c = true := by
  rw [split] at hp
  split_ifs at hp
  · cases hp
  · have := mem_of_mem_splitOnP hp hc
    exact isWordChar_of_isAlphanum (by simpa using this)

theorem isWordChar_of_mem_clean {s : Text} {c : Char} (hc : c ∈ clean s) : isWordChar c = true := by
  simp only [clean, List.append_assoc] at hc
  rw [List.foldl_append_eq_append, ← List.flatMap_def] at hc
  rcases List.mem_append.1 hc with hc | hc
  · cases hs : split s (fun c => !c.isAlphanum) with
    | nil =>
      rw [hs] at hc
      cases hc
    | cons p ps =>
      rw [hs] at hc
      exact isWordChar_of_mem_split (hs ▸ List.mem_cons_self) hc
  · obtain ⟨p, hp, hc⟩ := List.mem_flatMap.1 hc
    rcases List.mem_append.1 hc with hc | hc
    · split_ifs at hc
      · cases hc
      · rw [List.mem_singleton.1 hc]
        rfl
    · exact isWordChar_of_mem_split (List.mem_of_mem_tail hp) hc

theorem isWordChar_of_mem_numbered {base : Text} (hbase : ∀ c ∈ base, isWordChar c = true) {k : ℕ}
    {c : Char} (hc : c ∈ numbered base k) : isWordChar c = true := by
  rcases mem_numbered hc with hc | hc
  · exact hbase c hc
  · exact isWordChar_of_isAlphanum (by rw [Char.isAlphanum, hc, Bool.or_true])

/-- A name is made of what its base is made of, and digits. -/
theorem isWordChar_of_mem_assign {β : Type*} {base : β → Text}
    (hbase : ∀ b, ∀ c ∈ base b, isWordChar c = true) {used : List Text} {bs : List β} {a : Text}
    (ha : a ∈ assign (fun b => numbered (base b)) used bs) {c : Char} (hc : c ∈ a) :
    isWordChar c = true := by
  obtain ⟨b, -, k, rfl⟩ := exists_of_mem_assign ha
  exact isWordChar_of_mem_numbered (hbase b) hc

/-! ### The names of the sections -/

theorem vendorCandidate_injective (sec : Section) : Function.Injective (vendorCandidate sec) :=
  numbered_injective _

theorem deviceCandidate_injective (item : Item) : Function.Injective (deviceCandidate item) :=
  numbered_injective _

theorem subdeviceCandidate_injective (item : Item) :
    Function.Injective (subdeviceCandidate item) :=
  numbered_injective _

theorem vendorNames_nodup (used : List Text) (secs : List Section) :
    (vendorNames used secs).Nodup :=
  assign_nodup vendorCandidate_injective used secs

/-- The pairs of two vendors differ in the vendor, and those of one in the other name. -/
theorem namePairs_nodup {names : Section → List Text} (hnames : ∀ sec, (names sec).Nodup)
    (used : List Text) (secs : List Section) : (namePairs names used secs).Nodup := by
  refine List.nodup_flatMap.2 ⟨?_, ?_⟩
  · intro p _
    exact (hnames p.2).map fun _ _ heq => congrArg Prod.snd heq
  · have hzip : (((vendorNames used secs).zip secs).map Prod.fst).Nodup := by
      rw [vendorNames, List.map_fst_zip (Nat.le_of_eq (length_assign used secs))]
      exact vendorNames_nodup used secs
    refine (List.pairwise_map.1 hzip).imp ?_
    intro p q hpq x hx hy
    obtain ⟨_, _, rfl⟩ := List.mem_map.1 hx
    obtain ⟨_, _, heq⟩ := List.mem_map.1 hy
    exact hpq (congrArg Prod.fst heq).symm

/-! ### The names of a run -/

theorem definedNames_append (ws vs : List Write) :
    definedNames (ws ++ vs) = definedNames ws ++ definedNames vs :=
  List.filterMap_append

/-- What is read off the writes piece by piece is read off those of a run an entry at a time. -/
theorem run_cons {β : Type*} {f : List Write → List β} (hnil : f [] = [])
    (happ : ∀ ws vs, f (ws ++ vs) = f ws ++ f vs) (s : State) (e : Entry) (es : List Entry) :
    f (run s (e :: es)) = f (emit s e).2 ++ if e.stops then [] else f (run (emit s e).1 es) := by
  rw [PciDb2c.run, happ]
  split_ifs
  · rw [hnil]
  · rfl

/-- An entry defines one macro. -/
theorem definedNames_emit_vendor (s : State) (item : Item) :
    definedNames (emit s (.vendor item)).2 =
      [.vendor (getShortVendorName s.vendorNames item.field)] := by
  cases h : s.firstPass <;> simp [emit, h, definedNames, Write.definedName]

theorem definedNames_emit_device (s : State) (item : Item) :
    definedNames (emit s (.device item)).2 =
      [.device s.svendName (getShortDeviceName s.deviceNames item.field)] :=
  rfl

theorem definedNames_emit_subdevice (s : State) (item : Item) :
    definedNames (emit s (.subdevice item)).2 =
      [.subdevice s.svendName (getShortSubdeviceName s.subdeviceNames item.field)] :=
  rfl

theorem stops_device (item : Item) : (Entry.device item).stops = false :=
  rfl

theorem stops_subdevice (item : Item) : (Entry.subdevice item).stops = false :=
  rfl

/-- The macros of a run, an entry at a time. -/
theorem definedNames_run_cons (s : State) (e : Entry) (es : List Entry) :
    definedNames (run s (e :: es)) = definedNames (emit s e).2 ++
      if e.stops then [] else definedNames (run (emit s e).1 es) :=
  run_cons (f := definedNames) rfl definedNames_append s e es

/-- The vendors are named in turn. -/
theorem vendors_run (s : State) (es : List Entry) :
    (definedNames (run s es)).filterMap MacroName.vendor? =
      vendorNames s.vendorNames (sections es) := by
  induction es generalizing s with
  | nil => rfl
  | cons e es ih =>
    rw [definedNames_run_cons, List.filterMap_append]
    cases e with
    | vendor item =>
      rw [definedNames_emit_vendor, sections]
      split_ifs with hstop
      · rfl
      · rw [ih]
        rfl
    | device item => exact ih _
    | subdevice item => exact ih _

/-- The devices under a vendor are named in turn, and those of the next vendors from the start. -/
theorem devices_run (s : State) (es : List Entry) :
    (definedNames (run s es)).filterMap MacroName.device? =
      (assign deviceCandidate s.deviceNames (devicesUnder es)).map (Prod.mk s.svendName) ++
        namePairs Section.deviceNames s.vendorNames (sections es) := by
  induction es generalizing s with
  | nil => rfl
  | cons e es ih =>
    rw [definedNames_run_cons, List.filterMap_append]
    cases e with
    | vendor item =>
      rw [definedNames_emit_vendor, sections]
      split_ifs with hstop
      · rfl
      · rw [ih]
        rfl
    | device item =>
      rw [definedNames_emit_device, stops_device, if_neg Bool.false_ne_true, ih]
      rfl
    | subdevice item => exact ih _

/-- The same of the subdevices. -/
theorem subdevices_run (s : State) (es : List Entry) :
    (definedNames (run s es)).filterMap MacroName.subdevice? =
      (assign subdeviceCandidate s.subdeviceNames (subdevicesUnder es)).map (Prod.mk s.svendName) ++
        namePairs Section.subdeviceNames s.vendorNames (sections es) := by
  induction es generalizing s with
  | nil => rfl
  | cons e es ih =>
    rw [definedNames_run_cons, List.filterMap_append]
    cases e with
    | vendor item =>
      rw [definedNames_emit_vendor, sections]
      split_ifs with hstop
      · rfl
      · rw [ih]
        rfl
    | device item => exact ih _
    | subdevice item =>
      rw [definedNames_emit_subdevice, stops_subdevice, if_neg Bool.false_ne_true, ih]
      rfl

/-! ### The texts -/

/-- The texts of the macros, the vendors' first, then the devices' and the subdevices'. -/
theorem texts_perm (ms : List MacroName) :
    (ms.map MacroName.text).Perm
      (((ms.filterMap MacroName.vendor?).map (['V', 'E', 'N', 'D', 'O', 'R', '_'] ++ ·)) ++
        (((ms.filterMap MacroName.device?).map (joined '_')).map
            (['D', 'E', 'V', 'I', 'C', 'E', '_'] ++ ·) ++
          ((ms.filterMap MacroName.subdevice?).map (joined '_')).map
            (['S', 'U', 'B', 'D', 'E', 'V', 'I', 'C', 'E', '_'] ++ ·))) := by
  induction ms with
  | nil => exact .nil
  | cons m ms ih =>
    cases m with
    | vendor v => exact ih.cons _
    | device v d => exact (ih.cons _).trans List.perm_middle.symm
    | subdevice v d =>
      refine (ih.cons _).trans ?_
      rw [← List.append_assoc]
      refine List.perm_middle.symm.trans ?_
      rw [List.append_assoc]
      exact .refl _

/-- Texts that start with different letters are different. -/
theorem disjoint_of_ne {a b : Char} (hab : a ≠ b) (p q : Text) (xs ys : List Text) :
    (xs.map (a :: p ++ ·)).Disjoint (ys.map (b :: q ++ ·)) := by
  intro t hx hy
  obtain ⟨x, _, rfl⟩ := List.mem_map.1 hx
  obtain ⟨y, _, heq⟩ := List.mem_map.1 hy
  exact hab (List.cons.inj heq).1.symm

/-- The three kinds of macro start with different letters, so a macro is defined twice only by two
lines of one kind. -/
theorem nodup_texts_iff (ms : List MacroName) :
    (ms.map MacroName.text).Nodup ↔
      (ms.filterMap MacroName.vendor?).Nodup ∧
      ((ms.filterMap MacroName.device?).map (joined '_')).Nodup ∧
      ((ms.filterMap MacroName.subdevice?).map (joined '_')).Nodup := by
  rw [(texts_perm ms).nodup_iff, List.nodup_append', List.nodup_append',
    List.nodup_map_iff (List.append_right_injective _),
    List.nodup_map_iff (List.append_right_injective _),
    List.nodup_map_iff (List.append_right_injective _)]
  constructor
  · rintro ⟨hv, ⟨hd, hs, -⟩, -⟩
    exact ⟨hv, hd, hs⟩
  · rintro ⟨hv, hd, hs⟩
    refine ⟨hv, ⟨hd, hs, disjoint_of_ne (by decide) _ _ _ _⟩, ?_⟩
    exact List.disjoint_append_right.2
      ⟨disjoint_of_ne (by decide) _ _ _ _, disjoint_of_ne (by decide) _ _ _ _⟩

/-! ### Identifiers -/

theorem isWordChar_of_mem_joined {p : Text × Text} (hfst : ∀ c ∈ p.1, isWordChar c = true)
    (hsnd : ∀ c ∈ p.2, isWordChar c = true) : ∀ c ∈ joined '_' p, isWordChar c = true := by
  intro c hc
  rcases List.mem_append.1 hc with hc | hc
  · exact hfst c hc
  · rcases List.mem_cons.1 hc with rfl | hc
    · rfl
    · exact hsnd c hc

theorem isWordChar_of_mem_vendorNames {used : List Text} {secs : List Section} {v : Text}
    (hv : v ∈ vendorNames used secs) : ∀ c ∈ v, isWordChar c = true := by
  intro c hc
  exact isWordChar_of_mem_assign (fun _ _ => isWordChar_of_mem_clean) hv hc

theorem isWordChar_of_mem_deviceNames {sec : Section} {d : Text} (hd : d ∈ sec.deviceNames) :
    ∀ c ∈ d, isWordChar c = true := by
  intro c hc
  exact isWordChar_of_mem_assign (fun _ _ => isWordChar_of_mem_clean) hd hc

theorem isWordChar_of_mem_subdeviceNames {sec : Section} {d : Text}
    (hd : d ∈ sec.subdeviceNames) : ∀ c ∈ d, isWordChar c = true := by
  intro c hc
  exact isWordChar_of_mem_assign (fun _ _ => isWordChar_of_mem_clean) hd hc

theorem isWordChar_of_mem_namePairs {names : Section → List Text}
    (hnames : ∀ sec, ∀ d ∈ names sec, ∀ c ∈ d, isWordChar c = true) {used : List Text}
    {secs : List Section} {p : Text × Text} (hp : p ∈ namePairs names used secs) :
    ∀ c ∈ joined '_' p, isWordChar c = true := by
  obtain ⟨⟨v, sec⟩, hzip, hp⟩ := List.mem_flatMap.1 hp
  obtain ⟨d, hd, rfl⟩ := List.mem_map.1 hp
  exact isWordChar_of_mem_joined (isWordChar_of_mem_vendorNames (List.of_mem_zip hzip).1)
    (hnames sec d hd)

/-- A word after some letters and an underscore is an identifier. -/
theorem isIdentifier_append {c : Char} {p t : Text} (hc : c.isAlpha = true)
    (hp : ∀ c ∈ p, isWordChar c = true) (ht : ∀ c ∈ t, isWordChar c = true) :
    IsIdentifier (c :: p ++ t) :=
  ⟨.inl hc, fun c hmem => (List.mem_append.1 hmem).elim (hp c) (ht c)⟩

/-! ### The headers -/

theorem devicesUnder_of_startsWithVendor {es : List Entry} (h : StartsWithVendor es) :
    devicesUnder es = [] := by
  match es, h with
  | [], _ => rfl
  | .vendor _ :: _, _ => rfl

theorem subdevicesUnder_of_startsWithVendor {es : List Entry} (h : StartsWithVendor es) :
    subdevicesUnder es = [] := by
  match es, h with
  | [], _ => rfl
  | .vendor _ :: _, _ => rfl

section

variable {es : List Entry}

theorem vendors_loop (es : List Entry) :
    (loopNames es).filterMap MacroName.vendor? = vendorNames initNames (sections es) :=
  vendors_run State.init es

/-- With nothing before the first vendor, the devices named are those of the sections. -/
theorem devices_loop (h : StartsWithVendor es) :
    (loopNames es).filterMap MacroName.device? =
      namePairs Section.deviceNames initNames (sections es) := by
  rw [loopNames, devices_run, devicesUnder_of_startsWithVendor h]
  rfl

theorem subdevices_loop (h : StartsWithVendor es) :
    (loopNames es).filterMap MacroName.subdevice? =
      namePairs Section.subdeviceNames initNames (sections es) := by
  rw [loopNames, subdevices_run, subdevicesUnder_of_startsWithVendor h]
  rfl

/-- Every macro is an identifier. -/
theorem isIdentifier_of_mem_loopNames (h : StartsWithVendor es) {m : MacroName}
    (hm : m ∈ loopNames es) : IsIdentifier m.text := by
  cases m with
  | vendor v =>
    have hv : v ∈ vendorNames initNames (sections es) := by
      rw [← vendors_loop]
      exact List.mem_filterMap.2 ⟨_, hm, rfl⟩
    exact isIdentifier_append (by decide) (forall_mem_of_all (by decide))
      (isWordChar_of_mem_vendorNames hv)
  | device v d =>
    have hp : (v, d) ∈ namePairs Section.deviceNames initNames (sections es) := by
      rw [← devices_loop h]
      exact List.mem_filterMap.2 ⟨_, hm, rfl⟩
    exact isIdentifier_append (by decide) (forall_mem_of_all (by decide))
      (isWordChar_of_mem_namePairs (fun _ _ => isWordChar_of_mem_deviceNames) hp)
  | subdevice v d =>
    have hp : (v, d) ∈ namePairs Section.subdeviceNames initNames (sections es) := by
      rw [← subdevices_loop h]
      exact List.mem_filterMap.2 ⟨_, hm, rfl⟩
    exact isIdentifier_append (by decide) (forall_mem_of_all (by decide))
      (isWordChar_of_mem_namePairs (fun _ _ => isWordChar_of_mem_subdeviceNames) hp)

/-- The joined names of a kind are told apart iff no two pairs straddle. -/
theorem nodup_joined_namePairs_iff {names : Section → List Text}
    (hnames : ∀ sec, (names sec).Nodup) (secs : List Section) :
    ((namePairs names initNames secs).map (joined '_')).Nodup ↔ ¬ Straddles names secs := by
  rw [nodup_joined_iff (namePairs_nodup hnames initNames secs), Straddles]
  push Not
  rfl

theorem deviceNames_nodup (sec : Section) : sec.deviceNames.Nodup :=
  assign_nodup deviceCandidate_injective initNames sec.devices

theorem subdeviceNames_nodup (sec : Section) : sec.subdeviceNames.Nodup :=
  assign_nodup subdeviceCandidate_injective initNames sec.subdevices

end

theorem headerNames_eq (zeroIsFirst : Bool) (lines : List Text) :
    headerNames zeroIsFirst lines =
      (loopNames (lines.flatMap (entries zeroIsFirst))).map MacroName.text := by
  rw [headerNames, generate, definedNames_append]
  exact congrArg _ (List.append_nil _)

/-- **The macros of a database are unambiguous iff neither its devices nor its subdevices
straddle.** -/
theorem headerNames_unambiguous_iff (zeroIsFirst : Bool) (lines : List Text)
    (h : StartsWithVendor (lines.flatMap (entries zeroIsFirst))) :
    Unambiguous (headerNames zeroIsFirst lines) ↔
      ¬ Straddles Section.deviceNames (sections (lines.flatMap (entries zeroIsFirst))) ∧
      ¬ Straddles Section.subdeviceNames (sections (lines.flatMap (entries zeroIsFirst))) := by
  have hident : ∀ t ∈ headerNames zeroIsFirst lines, IsIdentifier t := by
    intro t ht
    rw [headerNames_eq] at ht
    obtain ⟨m, hm, rfl⟩ := List.mem_map.1 ht
    exact isIdentifier_of_mem_loopNames h hm
  calc Unambiguous (headerNames zeroIsFirst lines)
      ↔ (headerNames zeroIsFirst lines).Nodup := and_iff_right hident
    _ ↔ _ := by
      rw [headerNames_eq, nodup_texts_iff, vendors_loop, devices_loop h, subdevices_loop h,
        nodup_joined_namePairs_iff deviceNames_nodup,
        nodup_joined_namePairs_iff subdeviceNames_nodup]
      exact and_iff_right (vendorNames_nodup initNames _)

/-- A vendor with a device, and one whose name ends with the first word of that device's. -/
def abcLines : List Text :=
  [['1', '0', '0', '4', ' ', ' ', 'A', 'B', 'C'],
   [tab, '0', '0', '0', '1', ' ', ' ', 'D', ' ', 'E'],
   ['1', '0', '0', '5', ' ', ' ', 'A', 'B', 'C', '-', 'D'],
   [tab, '0', '0', '0', '2', ' ', ' ', 'E']]

theorem headerNames_unambiguous_abc :
    Unambiguous (headerNames true abcLines) ↔
      ¬ Straddles Section.deviceNames (sections (abcLines.flatMap (entries true))) ∧
      ¬ Straddles Section.subdeviceNames (sections (abcLines.flatMap (entries true))) :=
  headerNames_unambiguous_iff true abcLines (by decide)

/-- `DEVICE_ABC_D_E` is defined twice for a file with distinct ids, in every awk. -/
theorem headerNames_ambiguous :
    StartsWithVendor (abcLines.flatMap (entries true)) ∧
    ((sections (abcLines.flatMap (entries true))).map (·.vendor.id)).Nodup ∧
    (∀ sec ∈ sections (abcLines.flatMap (entries true)), (sec.devices.map Item.id).Nodup) ∧
    ∀ zeroIsFirst, ¬ Unambiguous (headerNames zeroIsFirst abcLines) := by
  refine ⟨by decide, by decide, by decide, ?_⟩
  rintro zeroIsFirst ⟨-, hnodup⟩
  revert hnodup
  cases zeroIsFirst <;> decide

end Vidix.Libdha.PciDb2c
