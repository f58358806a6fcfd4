import Vidix.Libdha.PciNames
import Vidix.Libdha.Equiv.PciDb2c
import Vidix.Libdha.Equiv.PciIds
import Vidix.Util.Table

/-!
# Correctness of the lookup functions

`lookups_answer_iff`: for a well-formed file the generated tables compile, and `pci_vendor_name` and
`pci_device_name` give the names of the file, iff the literals of the names end at their own quotes.

The first level is the generator.  Its loop opens a list where the next vendor comes and closes the
one before, and the end of the program closes the last; `contents_devIds_run` adds that last line
to what a run writes, so that with each vendor one whole `block` is written
(`contents_devIds_generate`).  The second level is the text of what is written, which is read token
by token (`reads_blockText`, `reads_vendorText`): the blocks are lists that end with the sentinel
(`readLists_blocks`), the rows find their lists by the ids in their names (`readVendors_rows`), and
each loop finds the first row with an id, the one over devices before it is past the sentinel
(`vendorLoop_eq`, `deviceLoop_rows`).  Where a literal does not end at its own quote, the row that
is read, if any, has another name, and the lookup finds that one (`spells_of_readRows`,
`spells_of_readVendors`).
-/

namespace Vidix.Libdha.PciNames

open PciDb2c Util

/-! ### Lists with different keys -/

section

variable {α κ β : Type*} {key : α → κ}

/-- What stands before a member has another key. -/
theorem key_ne_of_nodup {before after : List α} {a b : α}
    (h : ((before ++ a :: after).map key).Nodup) (hb : b ∈ before) : key b ≠ key a := by
  rw [List.map_append, List.nodup_append] at h
  exact h.2.2 _ (List.mem_map_of_mem hb) _ List.mem_cons_self

/-- A member is found by its key. -/
theorem find?_key [DecidableEq κ] {l : List α} (h : (l.map key).Nodup) {a : α} (ha : a ∈ l) :
    (l.find? fun b => key b = key a) = some a := by
  obtain ⟨before, after, rfl⟩ := List.append_of_mem ha
  refine List.find?_eq_some_iff_append.2 ⟨decide_eq_true rfl, before, after, rfl, ?_⟩
  intro b hb
  simpa using key_ne_of_nodup h hb

theorem lookup_key [BEq κ] [LawfulBEq κ] {l : List α} (h : (l.map key).Nodup) (value : α → β)
    {a : α} (ha : a ∈ l) :
    (l.map fun a => (key a, value a)).lookup (key a) = some (value a) := by
  obtain ⟨before, after, rfl⟩ := List.append_of_mem ha
  refine List.lookup_eq_some_iff.2 ⟨_, _, List.map_append, ?_⟩
  intro p hp
  obtain ⟨b, hb, rfl⟩ := List.mem_map.1 hp
  exact bne_iff_ne.2 (key_ne_of_nodup h hb).symm

end

/-! ### What the loop writes -/

/-- The list of a section, from its first line to its last. -/
def block (sec : Item × List Item) : List Write :=
  .openList sec.1.id :: (sec.2.map (fun item => .deviceRow item.id item.name) ++ [.closeList])

/-- The row of a section in `vendor_ids`. -/
def vendorRow (sec : Item × List Item) : Write :=
  .vendorRow sec.1.id sec.1.name sec.1.id

/-- The vendor and the devices of a section. -/
def table (sec : Section) : Item × List Item :=
  (sec.vendor, sec.devices)

theorem block_append (sec : Item × List Item) (ws : List Write) :
    block sec ++ ws = .openList sec.1.id ::
      (sec.2.map (fun item => .deviceRow item.id item.name) ++ .closeList :: ws) := by
  rw [block, List.cons_append, List.append_assoc]
  rfl

theorem contents_append (file : File) (ws vs : List Write) :
    contents file (ws ++ vs) = contents file ws ++ contents file vs :=
  List.filter_append ws vs

/-- The contents of a file after a run, an entry at a time. -/
theorem contents_run_cons (file : File) (s : State) (e : Entry) (es : List Entry) :
    contents file (run s (e :: es)) = contents file (emit s e).2 ++
      if e.stops then [] else contents file (run (emit s e).1 es) :=
  run_cons (f := contents file) rfl (contents_append file) s e es

theorem contents_names_vendor (s : State) (item : Item) :
    contents .pciNames (emit s (.vendor item)).2 = [.vendorRow item.id item.name item.id] := by
  cases h : s.firstPass <;> simp [emit, h, contents, Write.file]

theorem contents_devIds_vendor (s : State) (item : Item) :
    contents .pciDevIds (emit s (.vendor item)).2 =
      (if s.firstPass then [] else [.closeList]) ++ [.openList item.id] := by
  cases h : s.firstPass <;> simp [emit, h, contents, Write.file]

/-- Every section has its row. -/
theorem contents_names_run (s : State) (es : List Entry) :
    contents .pciNames (run s es) = ((sections es).map table).map vendorRow := by
  induction es generalizing s with
  | nil => rfl
  | cons e es ih =>
    rw [contents_run_cons]
    cases e with
    | vendor item =>
      rw [contents_names_vendor, sections]
      split_ifs with hstop
      · rfl
      · rw [ih]
        rfl
    | device item => exact ih _
    | subdevice item => exact ih _

/-- Where a list is open, the rows of its devices come first and then its end; after that every
section has a list of its own. -/
theorem contents_devIds_run {s : State} (hs : s.firstPass = false) (es : List Entry) :
    contents .pciDevIds (run s es) ++ [.closeList] =
      (devicesUnder es).map (fun item => .deviceRow item.id item.name) ++
        .closeList :: ((sections es).map table).flatMap block := by
  induction es generalizing s with
  | nil => rfl
  | cons e es ih =>
    rw [contents_run_cons]
    cases e with
    | vendor item =>
      rw [contents_devIds_vendor, hs, if_neg Bool.false_ne_true, sections]
      split_ifs with hstop
      · rfl
      · rw [List.append_assoc, ih rfl, List.map_cons, List.flatMap_cons, block_append]
        rfl
    | device item => exact congrArg (Write.deviceRow item.id item.name :: ·) (ih hs)
    | subdevice item => exact ih hs

theorem firstPass_init : State.init.firstPass = true :=
  rfl

/-- **Every vendor opens a list and closes it**, the first as well as the others. -/
theorem contents_devIds_generate {lines : List Text} {item : Item} {es : List Entry}
    (h : lines.flatMap (entries true) = .vendor item :: es) :
    contents .pciDevIds (generate true lines) =
      ((sections (.vendor item :: es)).map table).flatMap block := by
  rw [generate, h, contents_append]
  change contents .pciDevIds (run State.init (.vendor item :: es)) ++ [.closeList] = _
  rw [contents_run_cons, contents_devIds_vendor, if_pos firstPass_init, sections]
  split_ifs with hstop
  · rfl
  · rw [List.append_assoc, contents_devIds_run rfl, List.map_cons, List.flatMap_cons,
      block_append]
    rfl

/-! ### The text that is written -/

/-- The row of a device. -/
def deviceText (p : Id × Text) : Text :=
  rowStart p.1.text ++ quoteChar :: (escapeQuotes p.2 ++ quoteChar :: rowEnd)

/-- The row of a vendor. -/
def vendorText (v : Vendor) : Text :=
  rowStart v.id.text ++ quoteChar :: (escapeQuotes v.name ++ quoteChar :: vendorRowEnd v.id.text)

/-- The list of a vendor. -/
def blockText (v : Vendor) : Text :=
  listStart v.id.text ++ (v.devices.flatMap deviceText ++ listEnd)

/-- What is written for a vendor. -/
def fileTable (v : Vendor) : Item × List Item :=
  (v.item, v.devices.map deviceItem)

theorem flatMap_block (v : Vendor) : (block (fileTable v)).flatMap tableText = blockText v := by
  have hrows : ∀ ps : List (Id × Text), ((ps.map deviceItem).map
      (fun item => Write.deviceRow item.id item.name)).flatMap tableText =
        ps.flatMap deviceText := by
    intro ps
    rw [List.map_map, List.flatMap_map]
    rfl
  rw [block, List.flatMap_cons, List.flatMap_append, fileTable, hrows]
  exact congrArg (fun t => listStart v.id.text ++ (v.devices.flatMap deviceText ++ t))
    (List.append_nil listEnd)

/-! ### The tokens of the text -/

/-- `0x<id>`. -/
def hexWord (id : Id) : Text := '0' :: 'x' :: id.text

/-- `dev_lst_<id>`. -/
def listName (id : Id) : Text := "dev_lst_".toList ++ id.text

theorem hexConstant_hexWord (id : Id) : hexConstant (hexWord id) = some id.value :=
  if_pos ⟨id.text_ne_nil, List.all_eq_true.mpr id.hex⟩

theorem isWordChar_of_mem_hexWord {id : Id} : ∀ c ∈ hexWord id, isWordChar c = true := by
  intro c hc
  rcases List.mem_cons.1 hc with rfl | hc
  · decide
  rcases List.mem_cons.1 hc with rfl | hc
  · decide
  · exact isWordChar_of_isDigitOf (id.hex c hc)

theorem isWordChar_of_mem_listName {id : Id} : ∀ c ∈ listName id, isWordChar c = true := by
  intro c hc
  rcases List.mem_append.1 hc with hc | hc
  · exact forall_mem_of_all (p := fun c => isWordChar c = true) (by decide) c hc
  · exact isWordChar_of_isDigitOf (id.hex c hc)

theorem listName_ne_nil (id : Id) : listName id ≠ [] :=
  List.append_ne_nil_of_left_ne_nil (by decide) _

/-- What stands before the literal in a row. -/
def headTokens (id : Id) : List Token :=
  [.openBrace, .word (hexWord id), .comma]

theorem reads_rowStart (id : Id) : Reads (rowStart id.text) (headTokens id) := by
  have hstart : rowStart id.text = '{' :: ' ' :: (hexWord id ++ ',' :: [' ']) := rfl
  rw [hstart]
  exact .punctuator (by decide) (.blank (by decide) (.word (List.cons_ne_nil _ _)
    isWordChar_of_mem_hexWord (by decide) (.punctuator (by decide) (.blank (by decide) .nil))))

theorem reads_rowEnd : Reads rowEnd [.closeBrace, .comma] :=
  .blank (by decide) (.punctuator (by decide) (.punctuator (by decide)
    (.blank (by decide) .nil)))

theorem reads_vendorRowEnd (id : Id) :
    Reads (vendorRowEnd id.text) [.comma, .word (listName id), .closeBrace, .comma] := by
  have hend : vendorRowEnd id.text = ',' :: ' ' :: (listName id ++ rowEnd) := rfl
  rw [hend]
  exact .punctuator (by decide) (.blank (by decide) (.word (listName_ne_nil id)
    isWordChar_of_mem_listName (by decide) reads_rowEnd))

/-- The declaration of a list. -/
def listTokens (id : Id) : List Token :=
  listWords.map .word ++
    [.word (listName id), .openBracket, .closeBracket, .assign, .openBrace]

theorem reads_listStart (id : Id) : Reads (listStart id.text) (listTokens id) := by
  have hwords : "static const struct device_id_s dev_lst_".toList = "static".toList ++ ' ' ::
      ("const".toList ++ ' ' :: ("struct".toList ++ ' ' :: ("device_id_s".toList ++ ' ' ::
        "dev_lst_".toList))) := by
    decide
  have hname : Reads (listName id ++ '[' :: [']', '=', '{', newlineChar])
      [.word (listName id), .openBracket, .closeBracket, .assign, .openBrace] :=
    .word (listName_ne_nil id) isWordChar_of_mem_listName (by decide) (.punctuator (by decide)
      (.punctuator (by decide) (.punctuator (by decide) (.punctuator (by decide)
        (.blank (by decide) .nil)))))
  have hstart : listStart id.text = "static".toList ++ ' ' :: ("const".toList ++ ' ' ::
      ("struct".toList ++ ' ' :: ("device_id_s".toList ++ ' ' ::
        (listName id ++ "[]=\x7b\n".toList)))) := by
    unfold listStart listName
    rw [hwords]
    simp only [List.append_assoc, List.cons_append]
  rw [hstart]
  exact (((hname.keyword (by decide)).keyword (by decide)).keyword (by decide)).keyword (by decide)

/-- The row at the end of a list, and the end. -/
def endTokens : List Token :=
  [.openBrace, .word "0xFFFF".toList, .comma, .word "NULL".toList, .closeBrace, .closeBrace,
    .semicolon]

theorem reads_listEnd : Reads listEnd endTokens := by
  have hend : listEnd = '{' :: ' ' :: ("0xFFFF".toList ++ ',' :: ' ' :: ' ' ::
      ("NULL".toList ++ ' ' :: ['}', newlineChar, '}', ';', newlineChar])) := by
    decide
  have htail : Reads ['}', newlineChar, '}', ';', newlineChar]
      [.closeBrace, .closeBrace, .semicolon] :=
    .punctuator (by decide) (.blank (by decide) (.punctuator (by decide)
      (.punctuator (by decide) (.blank (by decide) .nil))))
  rw [hend]
  exact .punctuator (by decide) (.blank (by decide) (.word (by decide)
    (List.all_eq_true.1 (by decide)) (by decide) (.punctuator (by decide) (.blank (by decide)
      (.blank (by decide) (htail.keyword (by decide)))))))

theorem reads_vendorsStart : Reads vendorsStart vendorsHead := by
  have hstart : vendorsStart = "static".toList ++ ' ' :: ("struct".toList ++ ' ' ::
      ("vendor_id_s".toList ++ ' ' :: ("vendor_ids".toList ++ '[' ::
        [']', ' ', '=', ' ', '{', newlineChar]))) := by
    decide
  have hname : Reads ("vendor_ids".toList ++ '[' :: [']', ' ', '=', ' ', '{', newlineChar])
      [.word "vendor_ids".toList, .openBracket, .closeBracket, .assign, .openBrace] :=
    .word (by decide) (List.all_eq_true.1 (by decide)) (by decide) (.punctuator (by decide)
      (.punctuator (by decide) (.blank (by decide) (.punctuator (by decide) (.blank (by decide)
        (.punctuator (by decide) (.blank (by decide) .nil)))))))
  rw [hstart]
  exact ((hname.keyword (by decide)).keyword (by decide)).keyword (by decide)

theorem reads_vendorsEnd : Reads vendorsEnd [.closeBrace, .semicolon] :=
  .punctuator (by decide) (.punctuator (by decide) (.blank (by decide) .nil))

/-! ### The tokens of the tables -/

def deviceTokens (p : Id × Text) : List Token :=
  headTokens p.1 ++ [.literal (escapeQuotes p.2), .closeBrace, .comma]

def vendorTokens (v : Vendor) : List Token :=
  headTokens v.id ++
    [.literal (escapeQuotes v.name), .comma, .word (listName v.id), .closeBrace, .comma]

def blockTokens (v : Vendor) : List Token :=
  listTokens v.id ++ (v.devices.flatMap deviceTokens ++ endTokens)

theorem reads_deviceText {p : Id × Text} (hp : SpellsLiteral (escapeQuotes p.2)) :
    Reads (deviceText p) (deviceTokens p) :=
  (reads_rowStart p.1).append (reads_rowEnd.literal hp)

theorem reads_vendorText {v : Vendor} (hv : SpellsLiteral (escapeQuotes v.name)) :
    Reads (vendorText v) (vendorTokens v) :=
  (reads_rowStart v.id).append ((reads_vendorRowEnd v.id).literal hv)

theorem reads_blockText {v : Vendor} (hv : ∀ p ∈ v.devices, SpellsLiteral (escapeQuotes p.2)) :
    Reads (blockText v) (blockTokens v) :=
  (reads_listStart v.id).append
    ((Reads.flatMap fun p hp => reads_deviceText (hv p hp)).append reads_listEnd)

/-! ### The tables -/

/-- The row of a device. -/
def deviceRow (p : Id × Text) : DeviceIdS :=
  ⟨p.1.value, some (escapeQuotes p.2)⟩

/-- The row at the end of a list. -/
def sentinel : DeviceIdS :=
  ⟨0xFFFF, none⟩

/-- The list of a vendor. -/
def devList (v : Vendor) : List DeviceIdS :=
  v.devices.map deviceRow ++ [sentinel]

/-- The row of a vendor. -/
def vendorIdS (v : Vendor) : VendorIdS :=
  ⟨v.id.value, some (escapeQuotes v.name), devList v⟩

theorem readRows_device (p : Id × Text) (ts : List Token) :
    readRows (deviceTokens p ++ ts) = (readRows ts).map fun q => (deviceRow p :: q.1, q.2) := by
  show readRows (.openBrace :: .word (hexWord p.1) :: .comma :: .literal (escapeQuotes p.2) ::
    .closeBrace :: .comma :: ts) = _
  rw [readRows, hexConstant_hexWord]
  cases readRows ts <;> rfl

theorem readRows_end (ts : List Token) :
    readRows (endTokens ++ ts) = (readLists ts).map fun lists => ([sentinel], lists) := by
  show readRows (.openBrace :: .word "0xFFFF".toList :: .comma :: .word "NULL".toList ::
    .closeBrace :: .closeBrace :: .semicolon :: ts) = _
  have hword : hexConstant "0xFFFF".toList = some 0xFFFF := by decide
  rw [readRows, hword, Option.bind_eq_bind, Option.bind_some]
  cases readLists ts <;> rfl

/-- The rows of the devices, and the sentinel behind them. -/
theorem readRows_devices (ps : List (Id × Text)) (ts : List Token) :
    readRows (ps.flatMap deviceTokens ++ (endTokens ++ ts)) =
      (readLists ts).map fun lists => (ps.map deviceRow ++ [sentinel], lists) := by
  induction ps with
  | nil => exact readRows_end ts
  | cons p ps ih =>
    rw [List.flatMap_cons, List.append_assoc, readRows_device, ih, Option.map_map]
    rfl

theorem readLists_list (id : Id) (ts : List Token) :
    readLists (listTokens id ++ ts) =
      (readRows ts).map fun q => ((listName id, q.1) :: q.2) := by
  show readLists (.word "static".toList :: .word "const".toList :: .word "struct".toList ::
    .word "device_id_s".toList :: .word (listName id) :: .openBracket :: .closeBracket ::
      .assign :: .openBrace :: ts) = _
  rw [readLists]
  cases readRows ts <;> rfl

theorem readLists_block (v : Vendor) (ts : List Token) :
    readLists (blockTokens v ++ ts) =
      (readLists ts).map fun lists => (listName v.id, devList v) :: lists := by
  rw [blockTokens, List.append_assoc, List.append_assoc, readLists_list, readRows_devices,
    Option.map_map]
  rfl

/-- The lists that are read are those of the vendors. -/
theorem readLists_blocks (vs : List Vendor) :
    readLists (vs.flatMap blockTokens) = some (vs.map fun v => (listName v.id, devList v)) := by
  induction vs with
  | nil => rw [List.flatMap_nil, readLists]; rfl
  | cons v vs ih =>
    rw [List.flatMap_cons, readLists_block, ih]
    rfl

theorem readVendors_vendor (lists : List (Text × List DeviceIdS)) (v : Vendor)
    (ts : List Token) :
    readVendors lists (vendorTokens v ++ ts) =
      (lists.lookup (listName v.id)).bind fun devList =>
        (readVendors lists ts).map (⟨v.id.value, some (escapeQuotes v.name), devList⟩ :: ·) := by
  show readVendors lists (.openBrace :: .word (hexWord v.id) :: .comma ::
    .literal (escapeQuotes v.name) :: .comma :: .word (listName v.id) :: .closeBrace :: .comma ::
      ts) = _
  rw [readVendors, hexConstant_hexWord]
  cases lists.lookup (listName v.id) with
  | none => rfl
  | some devList => cases readVendors lists ts <;> rfl

/-- The rows that are read are those of the vendors. -/
theorem readVendors_rows {lists : List (Text × List DeviceIdS)} {vs : List Vendor}
    (h : ∀ v ∈ vs, lists.lookup (listName v.id) = some (devList v)) :
    readVendors lists (vs.flatMap vendorTokens ++ [.closeBrace, .semicolon]) =
      some (vs.map vendorIdS) := by
  induction vs with
  | nil => rw [List.flatMap_nil, List.nil_append, readVendors]; rfl
  | cons v vs ih =>
    rw [List.flatMap_cons, List.append_assoc, readVendors_vendor, h v List.mem_cons_self,
      ih fun w hw => h w (List.mem_cons_of_mem v hw)]
    rfl

/-! ### The loops -/

/-- The loop over `vendor_ids` finds the first row with the id. -/
theorem vendorLoop_eq (before after : List VendorIdS) (id : UInt16)
    (found : VendorIdS → Option (Option Text)) :
    vendorLoop (before ++ after) id found before.length =
      (after.find? fun vendor => vendor.id = id).elim (some none) found := by
  induction after generalizing before with
  | nil =>
    rw [vendorLoop, List.append_nil, if_neg (Nat.lt_irrefl _)]
    rfl
  | cons vendor after ih =>
    have hlt : before.length < (before ++ vendor :: after).length := by
      rw [List.length_append, List.length_cons]
      omega
    have hget : (before ++ vendor :: after)[before.length]? = some vendor := by
      rw [List.getElem?_append_right (Nat.le_refl _), Nat.sub_self, List.getElem?_cons_zero]
    have hnext := ih (before ++ [vendor])
    rw [vendorLoop, if_pos hlt, hget]
    by_cases hid : vendor.id = id
    · simp [hid]
    · simpa [hid] using hnext

theorem pciVendorName_eq (vendorIds : List VendorIdS) (id : UInt16) :
    pciVendorName vendorIds id =
      (vendorIds.find? fun vendor => vendor.id = id).elim (some none) fun v => some v.name :=
  vendorLoop_eq [] vendorIds id _

theorem pciDeviceName_eq (vendorIds : List VendorIdS) (vendorId deviceId : UInt16) :
    pciDeviceName vendorIds vendorId deviceId =
      (vendorIds.find? fun vendor => vendor.id = vendorId).elim (some none) fun v =>
        deviceLoop v.devList deviceId 0 :=
  vendorLoop_eq [] vendorIds vendorId _

theorem pciVendorName_cons (vendor : VendorIdS) (vendorIds : List VendorIdS) (id : UInt16) :
    pciVendorName (vendor :: vendorIds) id =
      if vendor.id = id then some vendor.name else pciVendorName vendorIds id := by
  rw [pciVendorName_eq, pciVendorName_eq, List.find?_cons]
  by_cases hid : vendor.id = id <;> simp [hid]

theorem pciDeviceName_cons (vendor : VendorIdS) (vendorIds : List VendorIdS)
    (vendorId deviceId : UInt16) :
    pciDeviceName (vendor :: vendorIds) vendorId deviceId =
      if vendor.id = vendorId then deviceLoop vendor.devList deviceId 0
      else pciDeviceName vendorIds vendorId deviceId := by
  rw [pciDeviceName_eq, pciDeviceName_eq, List.find?_cons]
  by_cases hid : vendor.id = vendorId <;> simp [hid]

/-- The loop over a list is that over its tail, one place further on. -/
theorem deviceLoop_succ (d : DeviceIdS) (l : List DeviceIdS) (deviceId : UInt16) (j : ℕ) :
    deviceLoop (d :: l) deviceId (j + 1) = deviceLoop l deviceId j := by
  induction hn : l.length - j using Nat.strong_induction_on generalizing j with
  | _ n ih =>
  subst hn
  by_cases hj : j < l.length
  · have hnext := ih (l.length - (j + 1)) (by omega) (j + 1) rfl
    have hj' : j + 1 < (d :: l).length := Nat.succ_lt_succ hj
    rw [deviceLoop, dif_pos hj', hnext]
    conv_rhs => rw [deviceLoop, dif_pos hj]
    rfl
  · have hj' : ¬ j + 1 < (d :: l).length := fun h => hj (Nat.lt_of_succ_lt_succ h)
    rw [deviceLoop, dif_neg hj', deviceLoop, dif_neg hj]

/-- The first turn of the loop, and the others. -/
theorem deviceLoop_cons (d : DeviceIdS) (l : List DeviceIdS) (deviceId : UInt16) :
    deviceLoop (d :: l) deviceId 0 =
      if d.id = 0xFFFF then some none
      else if d.id = deviceId then some d.name
      else deviceLoop l deviceId 0 := by
  rw [deviceLoop, dif_pos (show 0 < (d :: l).length from Nat.succ_pos _), deviceLoop_succ]
  rfl

/-- The loop over a list of devices stops at its sentinel at the latest. -/
theorem deviceLoop_rows {rows : List DeviceIdS} (hrows : ∀ d ∈ rows, d.id ≠ 0xFFFF)
    (deviceId : UInt16) :
    deviceLoop (rows ++ [sentinel]) deviceId 0 =
      some ((rows.find? fun d => d.id = deviceId).bind DeviceIdS.name) := by
  induction rows with
  | nil =>
    rw [List.nil_append, deviceLoop_cons, if_pos (show sentinel.id = 0xFFFF from rfl)]
    rfl
  | cons d rows ih =>
    have hnext := ih fun d hd => hrows d (List.mem_cons_of_mem _ hd)
    rw [List.cons_append, deviceLoop_cons, if_neg (hrows d List.mem_cons_self), hnext]
    by_cases hid : d.id = deviceId
    · simp [hid]
    · simp [hid]

/-! ### The lookups -/

section

variable {db : Database}

/-- A vendor `ffff` is told by its value. -/
theorem stops_eq_false {v : Vendor} (hv : v.id.value ≠ 0xFFFF) :
    (Entry.vendor v.item).stops = false := by
  refine beq_false_of_ne fun h => hv ?_
  rw [Id.value, show v.id.text = ['f', 'f', 'f', 'f'] from h]
  decide

/-- The sections of a well-formed file. -/
theorem sections_lines (h : db.WellFormed) :
    (sections (vendorEntries db.vendors)).map table = db.vendors.map fileTable :=
  sections_vendorEntries fun v hv => stops_eq_false (h.vendor_ne v hv)

/-- **The lists that are written**, one a vendor. -/
theorem devIdsC_generate (h : db.WellFormed) :
    devIdsC (generate true db.lines) = db.vendors.flatMap blockText := by
  obtain ⟨v, vs, hvs⟩ := List.exists_cons_of_ne_nil h.vendors_ne_nil
  have hentries : vendorEntries db.vendors =
      .vendor v.item :: (bodyEntries v.body ++ vendorEntries vs) := by
    rw [hvs]
    rfl
  rw [devIdsC, contents_devIds_generate (db.entries_lines.trans hentries), ← hentries,
    sections_lines h, List.flatMap_assoc, List.flatMap_map]
  exact List.flatMap_congr fun v _ => flatMap_block v

/-- **The rows that are written**, one a vendor. -/
theorem namesC_generate (h : db.WellFormed) :
    namesC (generate true db.lines) =
      vendorsStart ++ (db.vendors.flatMap vendorText ++ vendorsEnd) := by
  have hrows : ((db.vendors.map fileTable).map vendorRow).flatMap tableText =
      db.vendors.flatMap vendorText := by
    rw [List.map_map, List.flatMap_map]
    rfl
  rw [namesC, generate, contents_append, contents_names_run, db.entries_lines, sections_lines h,
    List.flatMap_append, hrows]
  rfl

/-- Ids with different values have different texts. -/
theorem texts_nodup (h : db.WellFormed) : (db.vendors.map (·.id.text)).Nodup := by
  have hvalues := h.vendors_nodup
  rw [show (fun v : Vendor => v.id.value) =
      (fun t => .ofNat (digitsValue 16 t)) ∘ fun v => v.id.text from rfl, ← List.map_map] at hvalues
  exact hvalues.of_map _

theorem listNames_nodup (h : db.WellFormed) : (db.vendors.map (listName ·.id)).Nodup := by
  have hnames : db.vendors.map (listName ·.id) =
      (db.vendors.map (·.id.text)).map ("dev_lst_".toList ++ ·) := by
    rw [List.map_map]
    rfl
  rw [hnames]
  exact (texts_nodup h).map (List.append_right_injective _)

/-- The literals of the database end at their own quotes. -/
def LiteralsEnd (db : Database) : Prop :=
  ∀ v ∈ db.vendors, SpellsLiteral (escapeQuotes v.name) ∧
    ∀ p ∈ v.devices, SpellsLiteral (escapeQuotes p.2)

/-- **The tables compile**, to a row a vendor. -/
theorem compile_generate (h : db.WellFormed) (hends : LiteralsEnd db) :
    compile (devIdsC (generate true db.lines)) (namesC (generate true db.lines)) =
      some (db.vendors.map vendorIdS) := by
  have hlists : Reads (db.vendors.flatMap blockText) (db.vendors.flatMap blockTokens) :=
    .flatMap fun v hv => reads_blockText (hends v hv).2
  have hrows : Reads (db.vendors.flatMap vendorText) (db.vendors.flatMap vendorTokens) :=
    .flatMap fun v hv => reads_vendorText (hends v hv).1
  have hnodup : ((db.vendors.map fun v => (listName v.id, devList v)).map Prod.fst).Nodup := by
    rw [List.map_map]
    exact listNames_nodup h
  rw [compile, devIdsC_generate h, hlists.tokens_eq, Option.bind_eq_bind, Option.bind_some,
    readLists_blocks, Option.bind_eq_bind, Option.bind_some, namesC_generate h,
    (reads_vendorsStart.append (hrows.append reads_vendorsEnd)).tokens_eq, Option.bind_some,
    if_pos ⟨hnodup, List.prefix_append _ _⟩, List.drop_left]
  exact readVendors_rows fun v hv => lookup_key (listNames_nodup h) devList hv

/-- The loop over the list of a vendor. -/
theorem deviceLoop_devList {v : Vendor} (hv : ∀ p ∈ v.devices, p.1.value ≠ 0xFFFF)
    (deviceId : UInt16) :
    deviceLoop (devList v) deviceId 0 =
      some ((v.devices.find? fun p => p.1.value = deviceId).map fun p => escapeQuotes p.2) := by
  have hrows : ∀ d ∈ v.devices.map deviceRow, d.id ≠ 0xFFFF := by
    intro d hd
    obtain ⟨p, hp, rfl⟩ := List.mem_map.1 hd
    exact hv p hp
  have hfind : ((v.devices.map deviceRow).find? fun d => d.id = deviceId) =
      (v.devices.find? fun p => p.1.value = deviceId).map deviceRow := List.find?_map
  refine (deviceLoop_rows hrows deviceId).trans (congrArg some ?_)
  rw [hfind]
  cases v.devices.find? fun p => p.1.value = deviceId <;> rfl

/-- **The lookups answer the database**, and stay inside their tables. -/
theorem answers_vendorIdS (h : db.WellFormed) : Answers (db.vendors.map vendorIdS) db := by
  have hfind : ∀ id, ((db.vendors.map vendorIdS).find? fun vendor => vendor.id = id) =
      (db.vendors.find? fun v => v.id.value = id).map vendorIdS := fun id => List.find?_map
  have hvendor : ∀ v ∈ db.vendors, (db.vendors.find? fun w => w.id.value = v.id.value) = some v :=
    fun v hv => find?_key h.vendors_nodup hv
  constructor
  case vendor =>
    intro v hv
    rw [pciVendorName_eq, hfind, hvendor v hv]
    rfl
  case no_vendor =>
    intro id hid
    rw [pciVendorName_eq, hfind, List.find?_eq_none.2 (by simpa using hid)]
    rfl
  case device =>
    intro v hv p hp
    have hdevice : (v.devices.find? fun q => q.1.value = p.1.value) = some p :=
      find?_key (h.devices_nodup v hv) hp
    rw [pciDeviceName_eq, hfind, hvendor v hv]
    exact (deviceLoop_devList (h.device_ne v hv) p.1.value).trans (by rw [hdevice]; rfl)
  case no_device =>
    intro vendorId deviceId hnone
    rw [pciDeviceName_eq, hfind]
    cases hvendorId : db.vendors.find? fun v => v.id.value = vendorId with
    | none => rfl
    | some v =>
      have hv := List.mem_of_find?_eq_some hvendorId
      have hid : v.id.value = vendorId := by simpa using List.find?_some hvendorId
      refine (deviceLoop_devList (h.device_ne v hv) deviceId).trans ?_
      rw [List.find?_eq_none.2 (by simpa using hnone v hv hid)]
      rfl
  case inside =>
    intro vendorId deviceId
    rw [pciVendorName_eq, pciDeviceName_eq, hfind]
    cases hvendorId : db.vendors.find? fun v => v.id.value = vendorId with
    | none => exact ⟨rfl, rfl⟩
    | some v =>
      have hv := List.mem_of_find?_eq_some hvendorId
      exact ⟨rfl, Option.isSome_of_mem (deviceLoop_devList (h.device_ne v hv) deviceId)⟩

end

/-! ### Literals that do not end

Where the files are read and the lookups find the names in them, row after row the literal has been
read as it should be, and then it ends at its own quote.
-/

theorem exists_literal_of_row {id : Id} {name rest : Text} {ts : List Token}
    (h : tokens (rowStart id.text ++ quoteChar :: (escapeQuotes name ++ quoteChar :: rest)) =
      some ts) :
    ∃ spelling ts', ts = headTokens id ++ .literal spelling :: ts' ∧
      (spelling = escapeQuotes name → SpellsLiteral (escapeQuotes name)) := by
  rw [reads_rowStart id] at h
  obtain ⟨us, hus, rfl⟩ := Option.map_eq_some_iff.1 h
  obtain ⟨spelling, ts', rfl, hspells⟩ := exists_literal_of_tokens hus
  exact ⟨spelling, ts', rfl, hspells⟩

/-- The first row has the literal that was read, whatever comes behind it. -/
theorem readRows_literal {id : Id} {name : Text} {ts : List Token} {rows : List DeviceIdS}
    {lists : List (Text × List DeviceIdS)}
    (h : readRows (headTokens id ++ .literal name :: ts) = some (rows, lists)) :
    ∃ rows', rows = ⟨id.value, some name⟩ :: rows' := by
  change readRows (.openBrace :: .word (hexWord id) :: .comma :: .literal name :: ts) = _ at h
  unfold readRows at h
  split at h
  · next heq =>
    cases heq
    rw [hexConstant_hexWord, Option.bind_eq_bind, Option.bind_some] at h
    obtain ⟨q, -, hq⟩ := Option.bind_eq_some_iff.1 h
    exact ⟨q.1, (Prod.mk.inj (Option.some.inj hq)).1.symm⟩
  · next heq => cases heq
  · cases h

theorem readVendors_literal {lists : List (Text × List DeviceIdS)} {id : Id} {name : Text}
    {ts : List Token} {vendorIds : List VendorIdS}
    (h : readVendors lists (headTokens id ++ .literal name :: ts) = some vendorIds) :
    ∃ devList vendorIds', vendorIds = ⟨id.value, some name, devList⟩ :: vendorIds' := by
  change readVendors lists (.openBrace :: .word (hexWord id) :: .comma :: .literal name :: ts) = _
    at h
  unfold readVendors at h
  split at h
  · next heq => cases heq
  · next heq =>
    cases heq
    rw [hexConstant_hexWord, Option.bind_eq_bind, Option.bind_some] at h
    obtain ⟨devList, -, hlists⟩ := Option.bind_eq_some_iff.1 h
    obtain ⟨vendorIds', -, hv⟩ := Option.bind_eq_some_iff.1 hlists
    exact ⟨devList, vendorIds', (Option.some.inj hv).symm⟩
  · cases h

/-- Devices whose names are found in the list that was read. -/
theorem spells_of_readRows {ps : List (Id × Text)} (hnodup : (ps.map (·.1.value)).Nodup)
    (hne : ∀ p ∈ ps, p.1.value ≠ 0xFFFF) {s : Text} {ts : List Token} {rows : List DeviceIdS}
    {lists : List (Text × List DeviceIdS)} (hts : tokens (ps.flatMap deviceText ++ s) = some ts)
    (hread : readRows ts = some (rows, lists))
    (hnamed : ∀ p ∈ ps, deviceLoop rows p.1.value 0 = some (some (escapeQuotes p.2))) :
    ∀ p ∈ ps, SpellsLiteral (escapeQuotes p.2) := by
  induction ps generalizing ts rows with
  | nil => exact fun p hp => absurd hp List.not_mem_nil
  | cons p ps ih =>
    rw [List.map_cons, List.nodup_cons] at hnodup
    have hp : (deviceRow p).id ≠ 0xFFFF := hne p List.mem_cons_self
    rw [List.flatMap_cons, List.append_assoc] at hts
    -- the literal in the row of `p` is what the loop finds for it
    have hends : SpellsLiteral (escapeQuotes p.2) := by
      have hrow : deviceText p ++ (ps.flatMap deviceText ++ s) = rowStart p.1.text ++ quoteChar ::
          (escapeQuotes p.2 ++ quoteChar :: (rowEnd ++ (ps.flatMap deviceText ++ s))) := by
        simp only [deviceText, List.append_assoc, List.cons_append]
      rw [hrow] at hts
      obtain ⟨spelling, ts', rfl, hspells⟩ := exists_literal_of_row hts
      obtain ⟨rows', rfl⟩ := readRows_literal hread
      have hfound := hnamed p List.mem_cons_self
      rw [deviceLoop_cons, if_neg (show ¬ p.1.value = 0xFFFF from hp), if_pos rfl] at hfound
      exact hspells (Option.some.inj (Option.some.inj hfound))
    -- and so the other rows are read as if they stood alone
    rw [reads_deviceText hends] at hts
    obtain ⟨ts', hts', rfl⟩ := Option.map_eq_some_iff.1 hts
    rw [readRows_device] at hread
    obtain ⟨⟨rows', lists'⟩, hread', heq⟩ := Option.map_eq_some_iff.1 hread
    obtain ⟨rfl, rfl⟩ := Prod.mk.inj heq
    have hnamed' : ∀ q ∈ ps, deviceLoop rows' q.1.value 0 = some (some (escapeQuotes q.2)) := by
      intro q hq
      have hfound := hnamed q (List.mem_cons_of_mem p hq)
      have hid : p.1.value ≠ q.1.value := fun h =>
        hnodup.1 (h ▸ List.mem_map_of_mem (f := fun q : Id × Text => q.1.value) hq)
      rwa [deviceLoop_cons, if_neg hp, if_neg (show (deviceRow p).id ≠ q.1.value from hid)]
        at hfound
    intro q hq
    rcases List.mem_cons.1 hq with rfl | hq
    · exact hends
    · exact ih hnodup.2 (fun q hq => hne q (List.mem_cons_of_mem p hq)) hts' hread' hnamed' q hq

/-- Vendors whose lists were read, with the names of their devices. -/
theorem spells_of_readLists {vs : List Vendor} (hlists : (vs.map (listName ·.id)).Nodup)
    (hnodup : ∀ v ∈ vs, (v.devices.map (·.1.value)).Nodup)
    (hne : ∀ v ∈ vs, ∀ p ∈ v.devices, p.1.value ≠ 0xFFFF) {ts : List Token}
    {lists : List (Text × List DeviceIdS)} (hts : tokens (vs.flatMap blockText) = some ts)
    (hread : readLists ts = some lists)
    (hnamed : ∀ v ∈ vs, ∀ l ∈ lists.lookup (listName v.id), ∀ p ∈ v.devices,
      deviceLoop l p.1.value 0 = some (some (escapeQuotes p.2))) :
    ∀ v ∈ vs, ∀ p ∈ v.devices, SpellsLiteral (escapeQuotes p.2) := by
  induction vs generalizing ts lists with
  | nil => exact fun v hv => absurd hv List.not_mem_nil
  | cons v vs ih =>
    rw [List.map_cons, List.nodup_cons] at hlists
    rw [List.flatMap_cons] at hts
    -- the devices of the first vendor are in the first list
    have hends : ∀ p ∈ v.devices, SpellsLiteral (escapeQuotes p.2) := by
      have hblock : blockText v ++ vs.flatMap blockText = listStart v.id.text ++
          (v.devices.flatMap deviceText ++ (listEnd ++ vs.flatMap blockText)) := by
        simp only [blockText, List.append_assoc]
      rw [hblock, reads_listStart] at hts
      obtain ⟨ts', hts', rfl⟩ := Option.map_eq_some_iff.1 hts
      rw [readLists_list] at hread
      obtain ⟨⟨rows, lists'⟩, hrows, rfl⟩ := Option.map_eq_some_iff.1 hread
      have hrow : rows ∈ ((listName v.id, rows) :: lists').lookup (listName v.id) :=
        List.lookup_cons_self
      exact spells_of_readRows (hnodup v List.mem_cons_self) (hne v List.mem_cons_self) hts' hrows
        (hnamed v List.mem_cons_self rows hrow)
    rw [reads_blockText hends] at hts
    obtain ⟨ts', hts', rfl⟩ := Option.map_eq_some_iff.1 hts
    rw [readLists_block] at hread
    obtain ⟨lists', hread', rfl⟩ := Option.map_eq_some_iff.1 hread
    have hnamed' : ∀ w ∈ vs, ∀ l ∈ lists'.lookup (listName w.id), ∀ p ∈ w.devices,
        deviceLoop l p.1.value 0 = some (some (escapeQuotes p.2)) := by
      intro w hw l hl
      refine hnamed w (List.mem_cons_of_mem v hw) l ?_
      have hne : (listName w.id == listName v.id) = false := beq_false_of_ne fun h =>
        hlists.1 (h ▸ List.mem_map_of_mem (f := fun w : Vendor => listName w.id) hw)
      rw [List.lookup_cons, hne]
      exact hl
    intro w hw
    rcases List.mem_cons.1 hw with rfl | hw
    · exact hends
    · exact ih hlists.2 (fun w hw => hnodup w (List.mem_cons_of_mem v hw))
        (fun w hw => hne w (List.mem_cons_of_mem v hw)) hts' hread' hnamed' w hw

/-- Vendors whose names are found in the table that was read: they have their rows, with the lists
that are declared. -/
theorem spells_of_readVendors {vs : List Vendor} (hnodup : (vs.map (·.id.value)).Nodup)
    {lists : List (Text × List DeviceIdS)} {s : Text} {ts : List Token}
    {vendorIds : List VendorIdS} (hts : tokens (vs.flatMap vendorText ++ s) = some ts)
    (hread : readVendors lists ts = some vendorIds)
    (hnamed : ∀ v ∈ vs, pciVendorName vendorIds v.id.value = some (some (escapeQuotes v.name))) :
    ∀ v ∈ vs, SpellsLiteral (escapeQuotes v.name) ∧
      ∀ l ∈ lists.lookup (listName v.id), ∀ deviceId,
        pciDeviceName vendorIds v.id.value deviceId = deviceLoop l deviceId 0 := by
  induction vs generalizing ts vendorIds with
  | nil => exact fun v hv => absurd hv List.not_mem_nil
  | cons v vs ih =>
    rw [List.map_cons, List.nodup_cons] at hnodup
    rw [List.flatMap_cons, List.append_assoc] at hts
    have hends : SpellsLiteral (escapeQuotes v.name) := by
      have hrow : vendorText v ++ (vs.flatMap vendorText ++ s) = rowStart v.id.text ++ quoteChar ::
          (escapeQuotes v.name ++ quoteChar ::
            (vendorRowEnd v.id.text ++ (vs.flatMap vendorText ++ s))) := by
        simp only [vendorText, List.append_assoc, List.cons_append]
      rw [hrow] at hts
      obtain ⟨spelling, ts', rfl, hspells⟩ := exists_literal_of_row hts
      obtain ⟨devList, vendorIds', rfl⟩ := readVendors_literal hread
      have hfound := hnamed v List.mem_cons_self
      rw [pciVendorName_cons, if_pos rfl] at hfound
      exact hspells (Option.some.inj (Option.some.inj hfound))
    rw [reads_vendorText hends] at hts
    obtain ⟨ts', hts', rfl⟩ := Option.map_eq_some_iff.1 hts
    rw [readVendors_vendor] at hread
    obtain ⟨devList, hlist, hread⟩ := Option.bind_eq_some_iff.1 hread
    obtain ⟨vendorIds', hread', rfl⟩ := Option.map_eq_some_iff.1 hread
    have hid : ∀ w ∈ vs, v.id.value ≠ w.id.value := fun w hw h =>
      hnodup.1 (h ▸ List.mem_map_of_mem (f := fun w : Vendor => w.id.value) hw)
    have hnamed' : ∀ w ∈ vs,
        pciVendorName vendorIds' w.id.value = some (some (escapeQuotes w.name)) := by
      intro w hw
      have hfound := hnamed w (List.mem_cons_of_mem v hw)
      rwa [pciVendorName_cons, if_neg (hid w hw)] at hfound
    intro w hw
    rcases List.mem_cons.1 hw with rfl | hw
    · refine ⟨hends, fun l hl deviceId => ?_⟩
      obtain rfl : devList = l := Option.some.inj (hlist.symm.trans hl)
      rw [pciDeviceName_cons, if_pos rfl]
    · obtain ⟨hspells, hdevices⟩ := ih hnodup.2 hts' hread' hnamed' w hw
      refine ⟨hspells, fun l hl deviceId => ?_⟩
      rw [pciDeviceName_cons, if_neg (hid w hw)]
      exact hdevices l hl deviceId

/-- **The generated lookups answer a well-formed database iff each name that is written into a
literal leaves that literal to end at its own quote.** -/
theorem lookups_answer_iff {db : Database} (h : db.WellFormed) :
    (∃ vendorIds, compile (devIdsC (generate true db.lines)) (namesC (generate true db.lines)) =
        some vendorIds ∧ Answers vendorIds db) ↔
      LiteralsEnd db := by
  constructor
  · rintro ⟨vendorIds, hcompile, hanswers⟩
    rw [compile, devIdsC_generate h, namesC_generate h, reads_vendorsStart] at hcompile
    obtain ⟨lts, hlts, hcompile⟩ := Option.bind_eq_some_iff.1 hcompile
    obtain ⟨lists, hlists, hcompile⟩ := Option.bind_eq_some_iff.1 hcompile
    obtain ⟨nts, hnts, hcompile⟩ := Option.bind_eq_some_iff.1 hcompile
    obtain ⟨ts, hts, rfl⟩ := Option.map_eq_some_iff.1 hnts
    split_ifs at hcompile
    rw [List.drop_left] at hcompile
    have hvendors := spells_of_readVendors h.vendors_nodup hts hcompile hanswers.vendor
    have hdevices := spells_of_readLists (listNames_nodup h) h.devices_nodup h.device_ne hlts
      hlists fun v hv l hl p hp =>
        ((hvendors v hv).2 l hl p.1.value).symm.trans (hanswers.device v hv p hp)
    exact fun v hv => ⟨(hvendors v hv).1, hdevices v hv⟩
  · intro hends
    exact ⟨_, compile_generate h hends, answers_vendorIdS h⟩

/-- Names without backslashes leave their literals alone. -/
theorem literalsEnd_of_notMem {db : Database}
    (hvendor : ∀ v ∈ db.vendors, backslashChar ∉ v.name ∧ newlineChar ∉ v.name)
    (hdevice : ∀ v ∈ db.vendors, ∀ p ∈ v.devices, backslashChar ∉ p.2 ∧ newlineChar ∉ p.2) :
    LiteralsEnd db := fun v hv =>
  ⟨spellsLiteral_escapeQuotes (hvendor v hv).1 (hvendor v hv).2, fun p hp =>
    spellsLiteral_escapeQuotes (hdevice v hv p hp).1 (hdevice v hv p hp).2⟩

/-- A vendor without devices, and one with a device under a comment. -/
def alliedTelesyn : Database where
  header := [.comment [], .blank]
  vendors :=
    [{ id := ⟨['0', '0', '0', '0'], by decide, forall_mem_of_all (by decide)⟩
       name := ['G', 'a', 'm', 'm', 'a']
       tab_notMem := by decide
       body := [] },
     { id := ⟨['0', '0', '1', '0'], by decide, forall_mem_of_all (by decide)⟩
       name := ['A', 'l', 'l', 'i', 'e', 'd']
       tab_notMem := by decide
       body := [.filler (.comment [' ', 'R', 'T', 'L']),
         .device ⟨['8', '1', '3', '9'], by decide, forall_mem_of_all (by decide)⟩
           ['A', 'T', '-', '2', '5']] }]

theorem lookups_answer_alliedTelesyn :
    ∃ vendorIds, compile (devIdsC (generate true alliedTelesyn.lines))
      (namesC (generate true alliedTelesyn.lines)) = some vendorIds ∧
        Answers vendorIds alliedTelesyn :=
  (lookups_answer_iff
    { vendors_ne_nil := List.cons_ne_nil _ _
      vendors_nodup := by decide
      vendor_ne := by decide
      devices_nodup := by decide
      device_ne := by decide }).2 (literalsEnd_of_notMem (by decide) (by decide))

def id1004 : Id := ⟨['1', '0', '0', '4'], by decide, forall_mem_of_all (by decide)⟩

/-- A vendor whose name ends with a backslash. -/
def trailingBackslash : Database where
  header := []
  vendors :=
    [{ id := id1004
       name := ['A', backslashChar]
       tab_notMem := by decide
       body := [] }]

theorem trailingBackslash_wellFormed : trailingBackslash.WellFormed where
  vendors_ne_nil := List.cons_ne_nil _ _
  vendors_nodup := by decide
  vendor_ne := by decide
  devices_nodup := by decide
  device_ne := by decide

/-- The literal runs over the end of its line, and there is no table. -/
theorem lookups_unanswered :
    trailingBackslash.WellFormed ∧
      ¬ ∃ vendorIds, compile (devIdsC (generate true trailingBackslash.lines))
        (namesC (generate true trailingBackslash.lines)) = some vendorIds ∧
          Answers vendorIds trailingBackslash := by
  refine ⟨trailingBackslash_wellFormed, ?_⟩
  rintro ⟨vendorIds, hcompile, -⟩
  have hescape : readEscape (quoteChar :: (", dev_lst_1004 \x7d,".toList ++
      newlineChar :: vendorsEnd)) = some ([quoteChar], ", dev_lst_1004 \x7d,".toList ++
        newlineChar :: vendorsEnd) := rfl
  have hliteral : readLiteral ('A' :: backslashChar :: quoteChar ::
      (", dev_lst_1004 \x7d,".toList ++ newlineChar :: vendorsEnd)) = none := by
    rw [readLiteral_cons (by decide) (by decide) (by decide), readLiteral_backslash hescape,
      readLiteral_eq_none_of_line (forall_mem_of_all (by decide))]
    rfl
  have htokens : tokens (namesC (generate true trailingBackslash.lines)) = none := by
    rw [namesC_generate trailingBackslash_wellFormed, reads_vendorsStart, Option.map_eq_none_iff]
    have hrow : trailingBackslash.vendors.flatMap vendorText ++ vendorsEnd =
        rowStart id1004.text ++ quoteChar :: ('A' :: backslashChar :: quoteChar ::
          (", dev_lst_1004 \x7d,".toList ++ newlineChar :: vendorsEnd)) := by
      decide
    rw [hrow, reads_rowStart, tokens_quote_of_none hliteral]
    rfl
  rw [compile] at hcompile
  obtain ⟨lts, -, hcompile⟩ := Option.bind_eq_some_iff.1 hcompile
  obtain ⟨lists, -, hcompile⟩ := Option.bind_eq_some_iff.1 hcompile
  obtain ⟨nts, hnts, -⟩ := Option.bind_eq_some_iff.1 hcompile
  rw [htokens] at hnts
  cases hnts

end Vidix.Libdha.PciNames
