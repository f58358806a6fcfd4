import Vidix.Libdha.PciX86

/-!
# What a visit of a bus notes

A visit of a bus is judged by what it notes: the functions it meets, in order, each with its entry
and with the bus it announces (`found1`, `found2`).  A visit is then a fold over what it notes, as
long as the bus table holds all the numbers announced (`scanBus1_eq`, `scanBus2_eq`), and the state
after any list of notes is known: the bus table is `numberFrom` of the announcements
(`foldl_note_pcibuses`), the device list is the first 64 entries (`foldl_note_pciLst`).
-/

namespace Vidix.Libdha

/-! ### What a visit notes -/

/-- What a function says about further buses. -/
inductive Announce
  | none
  | bus (n : UInt8)
  | hostBridge
  deriving DecidableEq, Repr

/-- A function met by the scan. -/
structure Found where
  entry : Pciinfo
  announce : Announce

/-- The buses that `checkBridges` reads out of a function. -/
def announce1 (pcr : PciConfigReg) : Announce :=
  let cls := pcr.classRevision &&& 0xffff0000
  if cls = 0x06040000 then
    if 0 < pcr.secondaryBusNumber then .bus pcr.secondaryBusNumber else .none
  else if cls = 0x06000000 then .hostBridge
  else .none

/-- The buses that `checkBridges2` reads out of a function. -/
def announce2 (pcr : PciConfigReg) : Announce :=
  if pcr.vendor = 0x1011 ∧ pcr.device = 0x0001 ∧ 0 < pcr.secondaryBusNumber then
    .bus pcr.secondaryBusNumber
  else .none

/-- The functions that the scan meets on a card, from a function number on. -/
def foundFunctions (b : Backend) (bus card : UInt8) : List UInt32 → List Found
  | [] => []
  | func :: funcs =>
    let deviceVendor := b.pciGetVendor bus card func
    if nothingThere deviceVendor then []
    else
      let pcr := readConfigReg b bus card func deviceVendor
      ⟨identifyEntry bus card.toUInt16 func pcr, announce1 pcr⟩ ::
        if singleFunction func pcr then [] else foundFunctions b bus card funcs

def found1 (b : Backend) (bus : UInt8) : List Found :=
  cardNumbers.flatMap fun card => foundFunctions b bus card funcNumbers

/-- The function that the scan meets behind a port window. -/
def foundWindow (b : Backend) (bus : UInt8) (ioaddr : UInt16) : List Found :=
  let deviceVendor := b.inport32 bus ioaddr
  if nothingThere deviceVendor || asusEcho deviceVendor then []
  else
    let pcr := readConfigReg2 b bus ioaddr deviceVendor
    [⟨identifyEntry bus ioaddr 0 pcr, announce2 pcr⟩]

def found2 (b : Backend) (bus : UInt8) : List Found := windowPorts.flatMap (foundWindow b bus)

/-- The numbers of the buses when `es` is announced after `hostbridges` host bridges. -/
def numberFrom : List Announce → ℕ → List UInt8 → List UInt8
  | [], _, buses => buses
  | .none :: es, hostbridges, buses => numberFrom es hostbridges buses
  | .bus n :: es, hostbridges, buses => numberFrom es hostbridges (buses ++ [n])
  | .hostBridge :: es, hostbridges, buses =>
    numberFrom es (hostbridges + 1)
      (if 0 < hostbridges then buses ++ [UInt8.ofNat buses.length] else buses)

/-- The numbers of the buses, from bus 0 on. -/
def busNumbers (es : List Announce) : List UInt8 := numberFrom es 0 [0]

/-! ### States as folds -/

/-- The bus table and the count of host bridges after an announcement, were the table as long as
needed. -/
def hear (s : ScanState) : Announce → ScanState
  | .none => s
  | .bus n => { s with pcibuses := s.pcibuses ++ [n] }
  | .hostBridge =>
    { s with
      hostbridges := s.hostbridges + 1
      pcibuses :=
        if 0 < s.hostbridges then s.pcibuses ++ [UInt8.ofNat s.pcibuses.length] else s.pcibuses }

/-- The state after a function. -/
def note (s : ScanState) (f : Found) : ScanState := countCard f.entry (hear s f.announce)

/-- The state after some functions, if the bus table holds them. -/
def noteAll (fs : List Found) (s : ScanState) : Option ScanState :=
  if (fs.foldl note s).pcibuses.length ≤ maxPciBuses then some (fs.foldl note s) else none

@[simp] theorem countCard_pcibuses (e : Pciinfo) (s : ScanState) :
    (countCard e s).pcibuses = s.pcibuses := by
  unfold countCard identifyCard
  dsimp only
  split_ifs <;> rfl

@[simp] theorem countCard_hostbridges (e : Pciinfo) (s : ScanState) :
    (countCard e s).hostbridges = s.hostbridges := by
  unfold countCard identifyCard
  dsimp only
  split_ifs <;> rfl

@[simp] theorem countCard_idx (e : Pciinfo) (s : ScanState) :
    (countCard e s).idx = s.idx + 1 := by
  unfold countCard identifyCard
  dsimp only
  split_ifs <;> rfl

/-- The entries are the first 64 functions counted. -/
theorem countCard_pciLst {e : Pciinfo} {s : ScanState} {l : List Pciinfo}
    (hlst : s.pciLst = l.take maxPciDevices) (hidx : s.idx = l.length) :
    (countCard e s).pciLst = (l ++ [e]).take maxPciDevices := by
  unfold countCard identifyCard
  dsimp only
  rw [hlst, hidx, List.length_take]
  split_ifs with h1 h2
  · rw [List.take_append_of_le_length h1]
  · omega
  · rw [List.take_of_length_le (by omega), List.take_of_length_le]
    rw [List.length_append, List.length_singleton]
    omega

theorem note_pcibuses_extends (s : ScanState) (f : Found) : s.pcibuses <+: (note s f).pcibuses := by
  rw [note, countCard_pcibuses]
  cases f.announce with
  | none => exact List.prefix_rfl
  | bus n => exact List.prefix_append _ _
  | hostBridge =>
    rw [hear]
    split_ifs
    · exact List.prefix_append _ _
    · exact List.prefix_rfl

theorem foldl_note_extends (fs : List Found) (s : ScanState) :
    s.pcibuses <+: (fs.foldl note s).pcibuses := by
  induction fs generalizing s with
  | nil => exact List.prefix_rfl
  | cons f fs ih => exact (note_pcibuses_extends s f).trans (ih (note s f))

theorem foldl_note_pcibuses (fs : List Found) (s : ScanState) :
    (fs.foldl note s).pcibuses =
      numberFrom (fs.map Found.announce) s.hostbridges s.pcibuses := by
  induction fs generalizing s with
  | nil => rfl
  | cons f fs ih =>
    rw [List.foldl_cons, ih, List.map_cons, note, countCard_pcibuses, countCard_hostbridges]
    cases f.announce <;> rfl

theorem foldl_note_pciLst (fs : List Found) {s : ScanState} {l : List Pciinfo}
    (hlst : s.pciLst = l.take maxPciDevices) (hidx : s.idx = l.length) :
    (fs.foldl note s).pciLst = (l ++ fs.map Found.entry).take maxPciDevices := by
  induction fs generalizing s l with
  | nil =>
    rw [List.map_nil, List.append_nil]
    exact hlst
  | cons f fs ih =>
    rw [List.foldl_cons, List.map_cons, List.append_cons, note]
    have hlst' : (hear s f.announce).pciLst = l.take maxPciDevices := by
      cases f.announce <;> exact hlst
    have hidx' : (hear s f.announce).idx = l.length := by cases f.announce <;> exact hidx
    refine ih (countCard_pciLst hlst' hidx') ?_
    rw [countCard_idx, hidx', List.length_append, List.length_singleton]

/-! ### Visits as folds -/

theorem noteAll_nil {s : ScanState} (hs : s.pcibuses.length ≤ maxPciBuses) :
    noteAll [] s = some s :=
  if_pos hs

theorem noteAll_append (fs gs : List Found) (s : ScanState) :
    noteAll (fs ++ gs) s = (noteAll fs s).bind (noteAll gs) := by
  unfold noteAll
  rw [List.foldl_append]
  by_cases h : (fs.foldl note s).pcibuses.length ≤ maxPciBuses
  · rw [if_pos h, Option.bind_some]
  · have hle := (foldl_note_extends gs (fs.foldl note s)).length_le
    rw [if_neg h, if_neg (by omega), Option.bind_none]

theorem noteAll_cons (f : Found) (fs : List Found) (s : ScanState) :
    noteAll (f :: fs) s = (noteAll [f] s).bind (noteAll fs) :=
  noteAll_append [f] fs s

/-- A visit leaves a bus table that is not overfull. -/
theorem noteAll_fits {fs : List Found} {s s' : ScanState} (h : noteAll fs s = some s') :
    s'.pcibuses.length ≤ maxPciBuses := by
  unfold noteAll at h
  split_ifs at h with hle
  obtain rfl := Option.some.inj h
  exact hle

theorem pushBus_eq (n : UInt8) (s : ScanState) :
    pushBus n s = if (s.pcibuses ++ [n]).length ≤ maxPciBuses then
      some { s with pcibuses := s.pcibuses ++ [n] } else none := by
  unfold pushBus
  rw [List.length_append, List.length_singleton]
  rfl

/-- Hearing an announcement, if the bus table holds what it adds. -/
def hearChecked (s : ScanState) (a : Announce) : Option ScanState :=
  if (hear s a).pcibuses.length ≤ maxPciBuses then some (hear s a) else none

theorem hearChecked_countCard (e : Pciinfo) (a : Announce) (s : ScanState) :
    (hearChecked s a).map (countCard e) = noteAll [⟨e, a⟩] s := by
  unfold hearChecked noteAll
  rw [List.foldl_cons, List.foldl_nil, note, countCard_pcibuses]
  split_ifs <;> rfl

/-- The class codes of mechanism 1 do what their announcement says. -/
theorem checkBridges_eq (pcr : PciConfigReg) {s : ScanState}
    (hs : s.pcibuses.length ≤ maxPciBuses) :
    checkBridges pcr s = hearChecked s (announce1 pcr) := by
  have hsame : some s = hearChecked s .none := (if_pos hs).symm
  have hpush : ∀ n, pushBus n s = hearChecked s (.bus n) := fun n => pushBus_eq n s
  unfold checkBridges announce1
  dsimp only
  generalize pcr.classRevision &&& 0xffff0000 = cls
  by_cases hbridge : cls = 0x06040000
  · rw [if_pos hbridge, if_pos hbridge]
    split_ifs
    · exact hpush _
    · exact hsame
  · rw [if_neg hbridge, if_neg hbridge]
    by_cases hhost : cls = 0x06000000
    · rw [if_pos hhost, if_pos hhost, hearChecked, hear]
      by_cases hmore : 0 < s.hostbridges
      · rw [if_pos (Nat.succ_lt_succ hmore), if_pos hmore, pushBus_eq]
      · rw [if_neg (fun h => hmore (Nat.lt_of_succ_lt_succ h)), if_neg hmore, if_pos hs]
    · rw [if_neg hhost, if_neg hhost]
      exact hsame

/-- The ids of mechanism 2 do what their announcement says. -/
theorem checkBridges2_eq (pcr : PciConfigReg) {s : ScanState}
    (hs : s.pcibuses.length ≤ maxPciBuses) :
    checkBridges2 pcr s = hearChecked s (announce2 pcr) := by
  unfold checkBridges2 announce2
  split_ifs
  · exact pushBus_eq _ s
  · exact (if_pos hs).symm

theorem scanFunctions_eq (b : Backend) (bus card : UInt8) (funcs : List UInt32) {s : ScanState}
    (hs : s.pcibuses.length ≤ maxPciBuses) :
    scanFunctions b bus card funcs s = noteAll (foundFunctions b bus card funcs) s := by
  induction funcs generalizing s with
  | nil => exact (noteAll_nil hs).symm
  | cons func funcs ih =>
    unfold scanFunctions foundFunctions
    dsimp only
    by_cases hno : nothingThere (b.pciGetVendor bus card func) = true
    · rw [if_pos hno, if_pos hno, noteAll_nil hs]
    · rw [if_neg hno, if_neg hno, noteAll_cons, ← hearChecked_countCard, checkBridges_eq _ hs]
      generalize readConfigReg b bus card func _ = pcr
      cases hc : hearChecked s (announce1 pcr) with
      | none => rfl
      | some s' =>
        dsimp only [Option.map_some, Option.bind_some]
        -- the function fitted into the table, so that the rest of the card starts from there
        have hnote := hearChecked_countCard (identifyEntry bus card.toUInt16 func pcr)
          (announce1 pcr) s
        rw [hc] at hnote
        have hs' := noteAll_fits hnote.symm
        split_ifs
        · exact (noteAll_nil hs').symm
        · exact ih hs'

/-- A loop whose body notes `found x` notes all of them. -/
theorem foldlM_eq_noteAll {β : Type*} (body : ScanState → β → Option ScanState)
    (found : β → List Found)
    (hbody : ∀ x s, s.pcibuses.length ≤ maxPciBuses → body s x = noteAll (found x) s)
    (xs : List β) {s : ScanState} (hs : s.pcibuses.length ≤ maxPciBuses) :
    xs.foldlM body s = noteAll (xs.flatMap found) s := by
  induction xs generalizing s with
  | nil => exact (noteAll_nil hs).symm
  | cons x xs ih =>
    rw [List.foldlM_cons, List.flatMap_cons, noteAll_append, hbody x s hs]
    cases hx : noteAll (found x) s with
    | none => rfl
    | some s' => exact ih (noteAll_fits hx)

theorem scanBus1_eq (b : Backend) (bus : UInt8) {s : ScanState}
    (hs : s.pcibuses.length ≤ maxPciBuses) :
    scanBus1 b bus s = noteAll (found1 b bus) s :=
  foldlM_eq_noteAll _ _ (fun card _ hs' => scanFunctions_eq b bus card funcNumbers hs') _ hs

theorem scanWindow_eq (b : Backend) (bus : UInt8) (ioaddr : UInt16) {s : ScanState}
    (hs : s.pcibuses.length ≤ maxPciBuses) :
    scanWindow b bus ioaddr s = noteAll (foundWindow b bus ioaddr) s := by
  unfold scanWindow foundWindow
  dsimp only
  split_ifs
  · exact (noteAll_nil hs).symm
  · rw [checkBridges2_eq _ hs, hearChecked_countCard]

theorem scanBus2_eq (b : Backend) (bus : UInt8) {s : ScanState}
    (hs : s.pcibuses.length ≤ maxPciBuses) :
    scanBus2 b bus s = noteAll (found2 b bus) s :=
  foldlM_eq_noteAll _ _ (fun ioaddr _ hs' => scanWindow_eq b bus ioaddr hs') _ hs

end Vidix.Libdha
