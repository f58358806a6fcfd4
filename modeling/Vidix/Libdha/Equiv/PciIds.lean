import Vidix.Libdha.PciIds

/-!
# The reading of pci.ids

What `entries` reads off the lines of a well-formed file: a vendor's line gives the vendor, a
device's line the device and perhaps something that counts as a subdevice, and the other lines
nothing but subdevices (`entries_bodyLine`).  So the sections of the file are its vendors with
their devices (`sections_lines`).
-/

namespace Vidix.Libdha.PciDb2c

open Util

/-! ### `split` -/

/-- The first piece goes to the first separator. -/
theorem piece_one_splitOnP (sep : Char → Bool) (s : Text) :
    piece (s.splitOnP sep) 1 = s.takeWhile fun c => !sep c := by
  induction s with
  | nil => rfl
  | cons c s ih =>
    rw [List.splitOnP_cons_eq_if_modifyHead]
    cases hc : sep c with
    | true => simp [piece, hc]
    | false =>
      obtain ⟨p, ps, hps⟩ := List.exists_cons_of_ne_nil (List.splitOnP_ne_nil sep s)
      rw [hps] at ih ⊢
      simpa [piece, hc] using ih

/-- `kill_double_quoting` puts a backslash before each double quote. -/
theorem killDoubleQuoting_eq (s : Text) : killDoubleQuoting s = escapeQuotes s := by
  have hjoin : ∀ s : Text, piece (s.splitOnP (· == quoteChar)) 1 ++
      (s.splitOnP (· == quoteChar)).tail.flatMap (backslashChar :: quoteChar :: ·) =
        escapeQuotes s := by
    intro s
    induction s with
    | nil => rfl
    | cons c s ih =>
      rw [List.splitOnP_cons_eq_if_modifyHead]
      obtain ⟨p, ps, hps⟩ := List.exists_cons_of_ne_nil (List.splitOnP_ne_nil (· == quoteChar) s)
      rw [hps] at ih ⊢
      by_cases hc : c = quoteChar
      · simpa [piece, escapeQuotes, hc] using ih
      · simpa [piece, escapeQuotes, hc] using ih
  rw [killDoubleQuoting, List.foldl_append_eq_append, ← List.flatMap_def, split]
  cases s with
  | nil => rfl
  | cons c s => exact hjoin (c :: s)

/-! ### The ids -/

/-- The characters that the file format uses are no digits. -/
theorem Id.notMem (id : Id) {c : Char} (hc : isDigitOf 16 c = false) : c ∉ id.text :=
  fun hmem => Bool.false_ne_true (hc.symm.trans (id.hex c hmem))

theorem Id.text_ne_nil (id : Id) : id.text ≠ [] := by
  intro h
  have := id.length_text
  rw [h] at this
  cases this

/-- An id is written as it is. -/
theorem escapeQuotes_id (id : Id) (name : Text) :
    escapeQuotes (id.text ++ ' ' :: ' ' :: name) = id.text ++ ' ' :: ' ' :: escapeQuotes name := by
  rw [escapeQuotes_append, escapeQuotes_of_notMem (id.notMem (by decide)),
    escapeQuotes_cons (by decide), escapeQuotes_cons (by decide)]

/-- The id is what `substr` reads off a field that starts with it. -/
theorem substr_id (id : Id) (t : Text) : substr (id.text ++ t) 1 4 = id.text := by
  rw [substr, substrFrom, List.drop_zero, ← id.length_text, List.take_left]

theorem substrFrom_seven_id (id : Id) (name : Text) :
    substrFrom (id.text ++ ' ' :: ' ' :: name) 7 = name := by
  rw [substrFrom, List.drop_append, id.length_text,
    List.drop_of_length_le (by rw [id.length_text]; omega)]
  rfl

/-! ### The lines -/

theorem whenFilled_of_ne_nil {field : Text} (h : field ≠ []) (e : Entry) :
    whenFilled field e = [e] :=
  if_pos (List.length_pos_of_ne_nil h)

/-- Entries that are no vendors and no devices. -/
def OnlySubdevices (es : List Entry) : Prop :=
  ∀ e ∈ es, ∃ item, e = .subdevice item

theorem onlySubdevices_whenFilled (field : Text) (item : Item) :
    OnlySubdevices (whenFilled field (.subdevice item)) := by
  intro e he
  rw [whenFilled] at he
  split_ifs at he
  · exact ⟨item, List.mem_singleton.1 he⟩
  · cases he

/-- What is read off a vendor's line. -/
def Vendor.item (v : Vendor) : Item :=
  ⟨v.id.text, escapeQuotes v.name, v.id.text ++ ' ' :: ' ' :: escapeQuotes v.name⟩

/-- The second field of a line that starts with a tab. -/
def secondField (x : Text) : Text :=
  (escapeQuotes x).takeWhile fun c => !(c == tab)

/-- Its third field. -/
def thirdField (x : Text) : Text :=
  piece ([] :: (escapeQuotes x).splitOnP (· == tab)) 3

def subdeviceItem (x : Text) : Item :=
  ⟨substr (thirdField x) 1 4 ++ substr (thirdField x) 6 4, substrFrom (tab :: escapeQuotes x) 14,
    thirdField x⟩

/-- What is read off a device's line. -/
def deviceItem (p : Id × Text) : Item :=
  ⟨p.1.text, escapeQuotes p.2, secondField (p.1.text ++ ' ' :: ' ' :: p.2)⟩

/-- The field of a vendor is the whole line. -/
theorem Vendor.killDoubleQuoting_line (v : Vendor) :
    killDoubleQuoting v.line = v.item.field := by
  rw [killDoubleQuoting_eq, Vendor.line, escapeQuotes_id]
  rfl

theorem Vendor.field_ne_nil (v : Vendor) : v.item.field ≠ [] :=
  List.append_ne_nil_of_left_ne_nil v.id.text_ne_nil _

theorem Vendor.split_field (v : Vendor) : split v.item.field (· == tab) = [v.item.field] := by
  have htab : tab ∉ v.item.field := by
    rw [Vendor.item, List.mem_append, List.mem_cons, List.mem_cons]
    rintro (h | h | h | h)
    · exact v.id.notMem (by decide) h
    · exact absurd h (by decide)
    · exact absurd h (by decide)
    · exact v.tab_notMem (mem_of_mem_escapeQuotes h (by decide))
  rw [split, if_neg (by rw [List.isEmpty_iff]; exact v.field_ne_nil)]
  refine List.splitOnP_eq_singleton fun c hc => beq_false_of_ne ?_
  rintro rfl
  exact htab hc

/-- A vendor's line is no comment. -/
theorem Vendor.substr_field (v : Vendor) : (substr v.item.field 1 1 == ['#']) = false := by
  obtain ⟨c, cs, hid⟩ := List.exists_cons_of_ne_nil v.id.text_ne_nil
  refine beq_false_of_ne fun h => v.id.notMem (c := '#') (by decide) ?_
  rw [Vendor.item, hid] at h
  rw [hid, ← (List.cons.inj h).1]
  exact List.mem_cons_self

theorem entries_vendor (zeroIsFirst : Bool) (v : Vendor) :
    entries zeroIsFirst v.line = [.vendor v.item] := by
  have hone : piece [v.item.field] 1 = v.item.field := rfl
  have hid : substr v.item.field 1 4 = v.item.id := substr_id v.id _
  have hname : substrFrom v.item.field 7 = v.item.name := substrFrom_seven_id v.id _
  simp only [entries, v.killDoubleQuoting_line, v.split_field, hone, v.substr_field,
    Bool.and_false, whenFilled_of_ne_nil v.field_ne_nil, hid, hname]
  rfl

/-- After a tab the first field is empty. -/
theorem entries_tab (zeroIsFirst : Bool) (x : Text) :
    entries zeroIsFirst (tab :: x) =
      whenFilled (secondField x)
        (.device
          ⟨substr (secondField x) 1 4, substrFrom (tab :: escapeQuotes x) 8, secondField x⟩) ++
      whenFilled (thirdField x) (.subdevice (subdeviceItem x)) := by
  have hline : killDoubleQuoting (tab :: x) = tab :: escapeQuotes x := by
    rw [killDoubleQuoting_eq, escapeQuotes_cons (by decide)]
  have hsplit : split (tab :: escapeQuotes x) (· == tab) =
      [] :: (escapeQuotes x).splitOnP (· == tab) := by
    rw [split, List.isEmpty_cons, if_neg Bool.false_ne_true,
      List.splitOnP_cons_eq_if_modifyHead, if_pos (by decide)]
  have hsecond : piece ([] :: (escapeQuotes x).splitOnP (· == tab)) 2 = secondField x :=
    piece_one_splitOnP (· == tab) (escapeQuotes x)
  have hfirst : (substr (piece ([] :: (escapeQuotes x).splitOnP (· == tab)) 1) 1 1 == ['#']) =
      false := rfl
  simp only [entries, hline, hsplit, hsecond, hfirst, Bool.and_false]
  rfl

theorem secondField_id (id : Id) (name : Text) :
    secondField (id.text ++ ' ' :: ' ' :: name) =
      id.text ++ (' ' :: ' ' :: escapeQuotes name).takeWhile fun c => !(c == tab) := by
  rw [secondField, escapeQuotes_id, List.takeWhile_append_of_pos]
  intro c hc
  have : c ≠ tab := fun h => id.notMem (c := tab) (by decide) (h ▸ hc)
  simpa using this

theorem entries_device (zeroIsFirst : Bool) (id : Id) (name : Text) :
    ∃ es, OnlySubdevices es ∧
      entries zeroIsFirst (BodyLine.device id name).line =
        .device (deviceItem (id, name)) :: es := by
  refine ⟨whenFilled (thirdField (id.text ++ ' ' :: ' ' :: name))
      (.subdevice (subdeviceItem (id.text ++ ' ' :: ' ' :: name))),
    onlySubdevices_whenFilled _ _, (entries_tab _ _).trans ?_⟩
  have hne : secondField (id.text ++ ' ' :: ' ' :: name) ≠ [] := by
    rw [secondField_id]
    exact List.append_ne_nil_of_left_ne_nil id.text_ne_nil _
  have hid : substr (secondField (id.text ++ ' ' :: ' ' :: name)) 1 4 = id.text := by
    rw [secondField_id, substr_id]
  have hname : substrFrom (tab :: escapeQuotes (id.text ++ ' ' :: ' ' :: name)) 8 =
      escapeQuotes name := by
    rw [escapeQuotes_id]
    exact substrFrom_seven_id id (escapeQuotes name)
  rw [whenFilled_of_ne_nil hne, hid, hname]
  rfl

/-- After two tabs the second field is empty too. -/
theorem entries_subdevice (x : Text) : OnlySubdevices (entries true (tab :: tab :: x)) := by
  have hsecond : secondField (tab :: x) = [] := by
    rw [secondField, escapeQuotes_cons (by decide), List.takeWhile_cons, if_neg (by decide)]
  rw [entries_tab, hsecond]
  exact onlySubdevices_whenFilled _ _

/-- Comments and blank lines give nothing. -/
theorem entries_filler (f : Filler) : entries true f.line = [] := by
  cases f with
  | blank => rfl
  | comment text =>
    have hline : killDoubleQuoting ('#' :: text) = '#' :: escapeQuotes text := by
      rw [killDoubleQuoting_eq, escapeQuotes_cons (by decide)]
    have hfirst : piece (split ('#' :: escapeQuotes text) (· == tab)) 1 =
        '#' :: (escapeQuotes text).takeWhile fun c => !(c == tab) := by
      rw [split, List.isEmpty_cons, if_neg Bool.false_ne_true, piece_one_splitOnP,
        List.takeWhile_cons, if_pos (by decide)]
    simp only [entries, Filler.line, hline, hfirst]
    rfl

/-- A line under a vendor gives its device, if it is one, and perhaps a subdevice. -/
theorem entries_bodyLine (b : BodyLine) :
    ∃ es, OnlySubdevices es ∧ entries true b.line =
      b.device?.toList.map (fun p => .device (deviceItem p)) ++ es := by
  cases b with
  | device id name => exact entries_device true id name
  | subdevice vendorId deviceId name => exact ⟨_, entries_subdevice _, rfl⟩
  | filler f => exact ⟨[], fun e he => absurd he List.not_mem_nil, entries_filler f⟩

/-! ### The sections -/

theorem devicesUnder_append_of_onlySubdevices {es : List Entry} (hes : OnlySubdevices es)
    (rest : List Entry) : devicesUnder (es ++ rest) = devicesUnder rest := by
  induction es with
  | nil => rfl
  | cons e es ih =>
    obtain ⟨item, rfl⟩ := hes e List.mem_cons_self
    exact ih fun e he => hes e (List.mem_cons_of_mem _ he)

theorem sections_append_of_onlySubdevices {es : List Entry} (hes : OnlySubdevices es)
    (rest : List Entry) : sections (es ++ rest) = sections rest := by
  induction es with
  | nil => rfl
  | cons e es ih =>
    obtain ⟨item, rfl⟩ := hes e List.mem_cons_self
    exact ih fun e he => hes e (List.mem_cons_of_mem _ he)

/-- The entries of the lines under a vendor. -/
def bodyEntries (body : List BodyLine) : List Entry :=
  body.flatMap fun b => entries true b.line

/-- The devices under a vendor are those listed under it. -/
theorem devicesUnder_body (body : List BodyLine) (rest : List Entry) :
    devicesUnder (bodyEntries body ++ rest) =
      (body.filterMap BodyLine.device?).map deviceItem ++ devicesUnder rest := by
  induction body with
  | nil => rfl
  | cons b body ih =>
    obtain ⟨es, hes, heq⟩ := entries_bodyLine b
    rw [bodyEntries, List.flatMap_cons, heq, List.append_assoc, List.append_assoc,
      List.filterMap_cons]
    cases b.device? with
    | none =>
      exact (devicesUnder_append_of_onlySubdevices hes _).trans ih
    | some p =>
      exact congrArg (deviceItem p :: ·) ((devicesUnder_append_of_onlySubdevices hes _).trans ih)

/-- The lines under a vendor start no section. -/
theorem sections_body (body : List BodyLine) (rest : List Entry) :
    sections (bodyEntries body ++ rest) = sections rest := by
  induction body with
  | nil => rfl
  | cons b body ih =>
    obtain ⟨es, hes, heq⟩ := entries_bodyLine b
    rw [bodyEntries, List.flatMap_cons, heq, List.append_assoc, List.append_assoc]
    cases b.device? with
    | none => exact (sections_append_of_onlySubdevices hes _).trans ih
    | some p => exact (sections_append_of_onlySubdevices hes _).trans ih

/-- The entries of some vendors with what stands under them. -/
def vendorEntries (vs : List Vendor) : List Entry :=
  vs.flatMap fun v => .vendor v.item :: bodyEntries v.body

theorem devicesUnder_vendorEntries (vs : List Vendor) : devicesUnder (vendorEntries vs) = [] := by
  cases vs <;> rfl

/-- The lines of a file give its vendors with what stands under them. -/
theorem Database.entries_lines (db : Database) :
    db.lines.flatMap (entries true) = vendorEntries db.vendors := by
  have hheader : (db.header.map Filler.line).flatMap (entries true) = [] := by
    refine List.flatMap_eq_nil_iff.2 fun line hline => ?_
    obtain ⟨f, -, rfl⟩ := List.mem_map.1 hline
    exact entries_filler f
  rw [Database.lines, List.flatMap_append, hheader, List.nil_append, List.flatMap_assoc]
  refine List.flatMap_congr fun v _ => ?_
  rw [List.flatMap_cons, entries_vendor, List.flatMap_map]
  rfl

/-- **The sections of a file without a vendor `ffff` are its vendors with their devices.** -/
theorem sections_vendorEntries {vs : List Vendor}
    (h : ∀ v ∈ vs, (Entry.vendor v.item).stops = false) :
    (sections (vendorEntries vs)).map (fun sec => (sec.vendor, sec.devices)) =
      vs.map fun v => (v.item, v.devices.map deviceItem) := by
  induction vs with
  | nil => rfl
  | cons v vs ih =>
    have hv : ¬ (Entry.vendor v.item).stops = true := by
      rw [h v List.mem_cons_self]
      exact Bool.false_ne_true
    have hentries : vendorEntries (v :: vs) =
        .vendor v.item :: (bodyEntries v.body ++ vendorEntries vs) := rfl
    have hdevices : devicesUnder (bodyEntries v.body ++ vendorEntries vs) =
        v.devices.map deviceItem := by
      rw [devicesUnder_body, devicesUnder_vendorEntries, List.append_nil]
      rfl
    have hrest := ih fun w hw => h w (List.mem_cons_of_mem v hw)
    rw [hentries, sections, if_neg hv, List.map_cons, sections_body, hrest, hdevices,
      List.map_cons]

end Vidix.Libdha.PciDb2c
