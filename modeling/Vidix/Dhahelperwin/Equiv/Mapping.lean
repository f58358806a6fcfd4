import Vidix.Dhahelperwin.Mapping
import Vidix.Util.Compact
import Vidix.Util.GuardedRun
import Mathlib.Data.List.Nodup

/-!
# What the Windows helper gives back

The loop of `UnmapPhysicalMemory` compacts the list in place and gives the first entry with the
address back (`UnmapResult`).  As long as the list names exactly the kernel's objects that the
driver has (`Sound`), a request keeps it so unless it fails half way, or finds its address twice;
the list is right throughout a run iff no such request is in it (`sound_run_iff`), and unloading
then leaves nothing behind.
-/

namespace Vidix.Dhahelperwin

open Util

variable {d : Driver} {address : UInt32} {l : List AllocPriv} {calls : List KernelCall} {i : ℕ}
  {e : AllocPriv}

/-! ### The loop -/

/-- The entries that stay. -/
def stays (address : UInt32) (e : AllocPriv) : Bool := e.userVirtualAddress ≠ address

/-- The entry that is given back. -/
def firstMatch (address : UInt32) (l : List AllocPriv) : Option AllocPriv :=
  l.find? fun e => e.userVirtualAddress = address

theorem firstMatch_eq_none_iff :
    firstMatch address l = none ↔ ∀ e ∈ l, stays address e = true := by
  simp [firstMatch, stays]

theorem firstMatch_take_succ (h : l[i]? = some e) :
    firstMatch address (l.take (i + 1)) =
      (firstMatch address (l.take i)).or
        (if e.userVirtualAddress = address then some e else none) := by
  unfold firstMatch
  rw [List.take_add_one, h, Option.toList_some, List.find?_append, List.find?_singleton]
  simp

/-- The state of the loop after `i` rounds that raised no exception. -/
def scanAt (address : UInt32) (l : List AllocPriv) (calls : List KernelCall) (i : ℕ) : Scan where
  alloclist := compacted (stays address) l i
  x := keptCount (stays address) l i
  alloccounttmp := l.length - (i - keptCount (stays address) l i)
  calls := calls ++ ((firstMatch address (l.take i)).map releaseCalls).getD []

/-- A round that meets another address. -/
theorem unmapRound_of_ne (raised : Option (Release × NtStatus)) (h : l[i]? = some e)
    (hne : e.userVirtualAddress ≠ address) :
    unmapRound raised address (scanAt address l calls i) i =
      .ok (scanAt address l calls (i + 1)) := by
  have hkeep : stays address e = true := decide_eq_true hne
  have hget : (scanAt address l calls i).alloclist[i]? = some e :=
    (getElem?_compacted le_rfl).trans h
  have hle := keptCount_le (stays address) l i
  unfold unmapRound
  rw [hget]
  dsimp only
  rw [if_pos hne]
  congr 1
  unfold scanAt
  rw [firstMatch_take_succ h, if_neg hne, keptCount_succ_of_keep h hkeep, Option.or_none,
    Nat.add_sub_add_right]
  congr 1
  dsimp only
  split
  · exact (compacted_succ_of_keep h hkeep).symm
  next heq =>
    exact (compacted_succ_of_eq h hkeep (not_not.mp heq)).symm

/-- The cursors are at the same place as long as the address has not been met. -/
theorem keptCount_eq_iff_firstMatch (hi : i ≤ l.length) :
    keptCount (stays address) l i = i ↔ firstMatch address (l.take i) = none := by
  rw [keptCount_eq_iff hi, firstMatch_eq_none_iff]

theorem compacted_of_firstMatch (hi : i ≤ l.length)
    (h : firstMatch address (l.take i) = none) : compacted (stays address) l i = l := by
  have hfilter : (l.take i).filter (stays address) = l.take i :=
    List.filter_eq_self.mpr (firstMatch_eq_none_iff.mp h)
  rw [compacted, keptCount, hfilter, List.length_take_of_le hi, List.take_append_drop]

/-- A round that meets the address, where no exception is raised. -/
theorem unmapRound_of_eq {raised : Option (Release × NtStatus)} (h : l[i]? = some e)
    (heq : e.userVirtualAddress = address)
    (hraised : raised = none ∨ firstMatch address (l.take i) ≠ none) :
    unmapRound raised address (scanAt address l calls i) i =
      .ok (scanAt address l calls (i + 1)) := by
  have hdrop : stays address e = false := decide_eq_false (not_not.mpr heq)
  have hget : (scanAt address l calls i).alloclist[i]? = some e :=
    (getElem?_compacted le_rfl).trans h
  have hi : i < l.length := (List.getElem?_eq_some_iff.mp h).1
  have hle := keptCount_le (stays address) l i
  have hcount : l.length - (i - keptCount (stays address) l i) - 1 =
      l.length - (i + 1 - keptCount (stays address) l i) := by omega
  unfold unmapRound
  rw [hget]
  dsimp only
  rw [if_neg (not_not.mpr heq)]
  unfold scanAt
  dsimp only
  rw [keptCount_succ_of_drop h hdrop, compacted_succ_of_drop h hdrop, firstMatch_take_succ h,
    if_pos heq]
  by_cases hfirst : firstMatch address (l.take i) = none
  · rw [if_pos ((keptCount_eq_iff_firstMatch hi.le).mpr hfirst),
      hraised.resolve_right (not_not.mpr hfirst), hfirst]
    simp [hcount]
  · obtain ⟨e', he'⟩ := Option.ne_none_iff_exists'.mp hfirst
    rw [if_neg (mt (keptCount_eq_iff_firstMatch hi.le).mp hfirst), he']
    simp [hcount]

/-- The loop, as long as nothing raises an exception. -/
theorem unmapLoop_ok {raised : Option (Release × NtStatus)} (hi : i ≤ l.length)
    (hraised : raised = none ∨ firstMatch address (l.take i) = none) :
    (List.range i).foldlM (unmapRound raised address) ⟨l, 0, l.length, calls⟩ =
      .ok (scanAt address l calls i) := by
  induction i with
  | zero => simp [scanAt, firstMatch]; rfl
  | succ i ih =>
    obtain ⟨e, he⟩ : ∃ e, l[i]? = some e := ⟨l[i], List.getElem?_eq_getElem hi⟩
    have hbefore : raised = none ∨ firstMatch address (l.take i) = none := by
      refine hraised.imp_right fun h => ?_
      rw [firstMatch_take_succ he, Option.or_eq_none_iff] at h
      exact h.1
    rw [List.range_succ, List.foldlM_append, ih (by omega) hbefore]
    change unmapRound raised address (scanAt address l calls i) i >>= pure = _
    rw [bind_pure]
    by_cases heq : e.userVirtualAddress = address
    · refine unmapRound_of_eq he heq (hraised.imp_right fun h => ?_)
      rw [firstMatch_take_succ he, if_pos heq, Option.or_eq_none_iff] at h
      cases h.2
    · exact unmapRound_of_ne raised he heq

/-- Where an exception is raised the loop leaves the list as it was. -/
theorem unmapLoop_raised (calls : List KernelCall) (r : Release) (status : NtStatus)
    (hi : i ≤ l.length) (hfirst : firstMatch address (l.take i) = some e) :
    ∃ s, (List.range i).foldlM (unmapRound (some (r, status)) address)
        ⟨l, 0, l.length, calls⟩ = .error (status, s) ∧
      s.alloclist = l ∧ s.calls = calls ++ (releaseCalls e).take r.before := by
  induction i with
  | zero => cases hfirst
  | succ i ih =>
    obtain ⟨e', he'⟩ : ∃ e', l[i]? = some e' := ⟨l[i], List.getElem?_eq_getElem hi⟩
    rw [List.range_succ, List.foldlM_append]
    rw [firstMatch_take_succ he', Option.or_eq_some_iff] at hfirst
    rcases hfirst with hbefore | ⟨hnone, hlast⟩
    · obtain ⟨s, hs, hrest⟩ := ih (by omega) hbefore
      rw [hs]
      exact ⟨s, rfl, hrest⟩
    · have heq : e'.userVirtualAddress = address := by
        by_contra hne
        rw [if_neg hne] at hlast
        cases hlast
      obtain rfl : e' = e := by simpa [heq] using hlast
      rw [unmapLoop_ok (by omega) (.inr hnone)]
      have hget : (scanAt address l calls i).alloclist[i]? = some e' :=
        (getElem?_compacted le_rfl).trans he'
      have hx : (scanAt address l calls i).x = i :=
        (keptCount_eq_iff_firstMatch (by omega)).mpr hnone
      refine ⟨{ scanAt address l calls i with
        calls := (scanAt address l calls i).calls ++ (releaseCalls e').take r.before }, ?_, ?_, ?_⟩
      · change unmapRound _ address (scanAt address l calls i) i >>= pure = _
        rw [bind_pure, unmapRound, hget]
        dsimp only
        rw [if_neg (not_not.mpr heq), if_pos hx]
      · exact compacted_of_firstMatch (by omega) hnone
      · simp [scanAt, hnone]

/-! ### `UnmapPhysicalMemory` -/

/-- At the end `alloccounttmp` is the number of entries that stay. -/
theorem scanAt_alloccounttmp (address : UInt32) (l : List AllocPriv) (calls : List KernelCall) :
    (scanAt address l calls l.length).alloccounttmp = (l.filter (stays address)).length := by
  have hle := List.length_filter_le (stays address) l
  unfold scanAt
  dsimp only
  rw [keptCount_length]
  omega

theorem scanAt_take (address : UInt32) (l : List AllocPriv) (calls : List KernelCall) :
    (scanAt address l calls l.length).alloclist.take
        (scanAt address l calls l.length).alloccounttmp = l.filter (stays address) := by
  rw [scanAt_alloccounttmp, ← keptCount_length]
  exact take_compacted_length

/-- The ways in which `UnmapPhysicalMemory` ends. -/
inductive UnmapResult (answers : UnmapAnswers) (d : Driver) (address : UInt32) :
    NtStatus × Driver → Prop
  | unknown (status : NtStatus) (hnone : firstMatch address d.alloclist = none) :
    UnmapResult answers d address (status, d)
  | raised (e : AllocPriv) (hfirst : firstMatch address d.alloclist = some e) (r : Release)
    (status : NtStatus) (hraised : answers.raised = some (r, status)) :
    UnmapResult answers d address
      (status, ⟨d.alloclist, d.calls ++ (releaseCalls e).take r.before⟩)
  | kept (e : AllocPriv) (hfirst : firstMatch address d.alloclist = some e)
    (hraised : answers.raised = none) (hmemory : answers.listMemory = false)
    (hrest : d.alloclist.filter (stays address) ≠ []) :
    UnmapResult answers d address
      (statusInsufficientResources,
        ⟨compacted (stays address) d.alloclist d.alloclist.length, d.calls ++ releaseCalls e⟩)
  | removed (e : AllocPriv) (hfirst : firstMatch address d.alloclist = some e)
    (hraised : answers.raised = none)
    (hmemory : d.alloclist.filter (stays address) = [] ∨ answers.listMemory = true) :
    UnmapResult answers d address
      (statusSuccess, ⟨d.alloclist.filter (stays address), d.calls ++ releaseCalls e⟩)

theorem unmapResult (answers : UnmapAnswers) (d : Driver) (address : UInt32) :
    UnmapResult answers d address (unmapPhysicalMemory answers d address) := by
  unfold unmapPhysicalMemory
  dsimp only
  by_cases hempty : d.alloclist.length = 0
  · rw [if_pos hempty]
    refine .unknown _ ?_
    rw [List.length_eq_zero_iff.mp hempty]
    rfl
  · rw [if_neg hempty]
    have htake : d.alloclist.take d.alloclist.length = d.alloclist := List.take_length
    cases hfirst : firstMatch address d.alloclist with
    | none =>
      rw [unmapLoop_ok le_rfl (.inr (by rwa [htake]))]
      have hlist : (scanAt address d.alloclist d.calls d.alloclist.length).alloclist =
          d.alloclist := compacted_of_firstMatch le_rfl (by rwa [htake])
      have hcalls : (scanAt address d.alloclist d.calls d.alloclist.length).calls = d.calls := by
        simp [scanAt, hfirst]
      dsimp only
      rw [hcalls]
      split
      · rw [hlist]
        exact .unknown _ hfirst
      · rw [scanAt_take, List.filter_eq_self.mpr (firstMatch_eq_none_iff.mp hfirst)]
        exact .unknown _ hfirst
    | some e =>
      cases hraised : answers.raised with
      | none =>
        rw [unmapLoop_ok le_rfl (.inl rfl)]
        have hcalls : (scanAt address d.alloclist d.calls d.alloclist.length).calls =
            d.calls ++ releaseCalls e := by
          simp [scanAt, hfirst]
        dsimp only
        rw [hcalls]
        split
        next hmemory =>
          rw [scanAt_alloccounttmp, ne_eq, List.length_eq_zero_iff] at hmemory
          exact .kept e hfirst hraised (by simpa using hmemory.2) hmemory.1
        next hmemory =>
          rw [scanAt_take]
          refine .removed e hfirst hraised ?_
          rw [scanAt_alloccounttmp, ne_eq, List.length_eq_zero_iff, not_and_or, not_not] at hmemory
          exact hmemory.imp_right fun h => by simpa using h
      | some r =>
        obtain ⟨r, status⟩ := r
        obtain ⟨s, hs, hlist, hcalls⟩ :=
          unmapLoop_raised d.calls r status le_rfl (by rwa [htake] : firstMatch address _ = some e)
        rw [hs]
        dsimp only
        rw [hlist, hcalls]
        exact .raised e hfirst r status hraised

/-! ### The kernel's objects -/

/-- What the driver gets from the kernel and has to give back. -/
inductive KernelObject
  | ioSpace (system size : UInt32)
  | mdl (mdl : UInt32)
  | pages (user mdl : UInt32)
  deriving DecidableEq

/-- What a call makes or gives back. -/
def ledgerEntry : KernelCall → Option (Entry KernelObject)
  | .mmMapIoSpace system size => some (.opened (.ioSpace system size))
  | .ioAllocateMdl mdl => some (.opened (.mdl mdl))
  | .mmMapLockedPages mdl user => some (.opened (.pages user mdl))
  | .mmUnmapLockedPages user mdl => some (.closed (.pages user mdl))
  | .ioFreeMdl mdl => some (.closed (.mdl mdl))
  | .mmUnmapIoSpace system size => some (.closed (.ioSpace system size))

/-- The objects of an entry. -/
def entryObjects (e : AllocPriv) : List KernelObject :=
  [.pages e.userVirtualAddress e.mdl, .mdl e.mdl,
    .ioSpace e.systemVirtualAddress e.physMemSizeInBytes]

/-- The objects that the list names. -/
def objects (l : List AllocPriv) : List KernelObject := l.flatMap entryObjects

theorem objects_length (l : List AllocPriv) : (objects l).length = 3 * l.length := by
  simp [objects, entryObjects, List.length_flatMap, Nat.mul_comm]

@[simp] theorem objects_append (l l' : List AllocPriv) :
    objects (l ++ l') = objects l ++ objects l' := List.flatMap_append

@[simp] theorem objects_singleton (e : AllocPriv) : objects [e] = entryObjects e :=
  List.flatMap_singleton _ _

@[simp] theorem openedKeys_releaseCalls (e : AllocPriv) :
    openedKeys ledgerEntry (releaseCalls e) = [] := rfl

@[simp] theorem closedKeys_releaseCalls (e : AllocPriv) :
    closedKeys ledgerEntry (releaseCalls e) = entryObjects e := rfl

/-- What is given back before an exception. -/
theorem take_releaseCalls (e : AllocPriv) (r : Release) :
    openedKeys ledgerEntry ((releaseCalls e).take r.before) = [] ∧
      (closedKeys ledgerEntry ((releaseCalls e).take r.before)).length = r.before := by
  cases r <;> exact ⟨rfl, rfl⟩

/-- The driver has exactly the objects that its list names, and has given none back that it did not
have. -/
def Sound (d : Driver) : Prop := Open ledgerEntry d.calls (objects d.alloclist)

theorem driverEntry_sound : Sound driverEntry := open_nil

/-- The calls for an entry that is given back take its objects out of the ledger. -/
theorem open_releaseCalls {ks : List KernelObject}
    (h : Open ledgerEntry calls (entryObjects e ++ ks)) :
    Open ledgerEntry (calls ++ releaseCalls e) ks := by
  have hpages : Open ledgerEntry (calls ++ [.mmUnmapLockedPages e.userVirtualAddress e.mdl])
      (.mdl e.mdl :: .ioSpace e.systemVirtualAddress e.physMemSizeInBytes :: ks) :=
    h.concat_closed rfl
  have hmdl : Open ledgerEntry
      (calls ++ [.mmUnmapLockedPages e.userVirtualAddress e.mdl] ++ [.ioFreeMdl e.mdl])
      (.ioSpace e.systemVirtualAddress e.physMemSizeInBytes :: ks) :=
    hpages.concat_closed rfl
  have hio : Open ledgerEntry
      (calls ++ [.mmUnmapLockedPages e.userVirtualAddress e.mdl] ++ [.ioFreeMdl e.mdl] ++
        [.mmUnmapIoSpace e.systemVirtualAddress e.physMemSizeInBytes]) ks :=
    hmdl.concat_closed rfl
  simpa [releaseCalls] using hio

/-! ### Unmapping -/

/-- How many entries have the address. -/
def addressCount (address : UInt32) (l : List AllocPriv) : ℕ :=
  l.countP fun e => e.userVirtualAddress = address

theorem addressCount_eq (address : UInt32) (l : List AllocPriv) :
    addressCount address l + (l.filter (stays address)).length = l.length := by
  rw [addressCount, ← List.countP_eq_length_filter, Nat.add_comm]
  have h := List.length_eq_countP_add_countP (stays address) (l := l)
  rw [h]
  congr 1
  simp [stays]

/-- The entries besides the only one with the address. -/
theorem perm_of_firstMatch (hfirst : firstMatch address l = some e)
    (hone : addressCount address l = 1) : l.Perm (e :: l.filter (stays address)) := by
  have hmem : e ∈ l.filter fun e => e.userVirtualAddress = address := by
    unfold firstMatch at hfirst
    have haddress := List.find?_some hfirst
    rw [List.mem_filter]
    exact ⟨List.mem_of_find?_eq_some hfirst, haddress⟩
  have hsingle : (l.filter fun e => e.userVirtualAddress = address) = [e] := by
    rw [addressCount, List.countP_eq_length_filter, List.length_eq_one_iff] at hone
    obtain ⟨e', he'⟩ := hone
    rw [he'] at hmem ⊢
    rw [List.mem_singleton.mp hmem]
  have hperm := List.filter_append_perm (fun e : AllocPriv => e.userVirtualAddress = address) l
  rw [hsingle] at hperm
  have hrest : (fun e : AllocPriv => !decide (e.userVirtualAddress = address)) =
      stays address := by
    funext e
    simp [stays]
  rw [hrest] at hperm
  exact hperm.symm

theorem addressCount_eq_zero_iff : addressCount address l = 0 ↔ firstMatch address l = none := by
  simp [addressCount, firstMatch]

/-- What `UnmapPhysicalMemory` must meet with to keep the list right. -/
def UnmapOk (answers : UnmapAnswers) (d : Driver) (address : UInt32) : Prop :=
  addressCount address d.alloclist = 0 ∨
    (∃ status, answers.raised = some (.mmUnmapLockedPages, status)) ∨
    (answers.raised = none ∧ addressCount address d.alloclist = 1 ∧
      (d.alloclist.length = 1 ∨ answers.listMemory = true))

theorem addressCount_ne_zero (hfirst : firstMatch address l = some e) :
    addressCount address l ≠ 0 := by
  intro hzero
  rw [addressCount_eq_zero_iff.mp hzero] at hfirst
  cases hfirst

/-- Memory for a shorter list is there when one is needed. -/
theorem UnmapOk.listMemory {answers : UnmapAnswers} (hok : UnmapOk answers d address)
    (hfirst : firstMatch address d.alloclist = some e) (hraised : answers.raised = none)
    (hrest : d.alloclist.filter (stays address) ≠ []) : answers.listMemory = true := by
  rcases hok with hzero | ⟨status', hstatus⟩ | ⟨-, hone, hlen | hlist⟩
  · exact absurd hzero (addressCount_ne_zero hfirst)
  · rw [hraised] at hstatus
    cases hstatus
  · have hcount := addressCount_eq address d.alloclist
    exact absurd (List.length_eq_zero_iff.mp (by omega)) hrest
  · exact hlist

theorem Sound.unmap {answers : UnmapAnswers} (h : Sound d) (hok : UnmapOk answers d address) :
    Sound (unmapPhysicalMemory answers d address).2 := by
  have hres := unmapResult answers d address
  generalize unmapPhysicalMemory answers d address = r at hres ⊢
  cases hres with
  | unknown => exact h
  | raised e hfirst r status hraised =>
    rcases hok with hzero | ⟨status', hstatus⟩ | ⟨hnone, -⟩
    · exact absurd hzero (addressCount_ne_zero hfirst)
    · rw [hraised] at hstatus
      cases hstatus
      simpa [Sound, Release.before] using h
    · rw [hraised] at hnone
      cases hnone
  | kept e hfirst hraised hmemory hrest =>
    have hlist := hok.listMemory hfirst hraised hrest
    rw [hmemory] at hlist
    cases hlist
  | removed e hfirst hraised hmemory =>
    have hone : addressCount address d.alloclist = 1 := by
      rcases hok with hzero | ⟨status', hstatus⟩ | ⟨-, hone, -⟩
      · exact absurd hzero (addressCount_ne_zero hfirst)
      · rw [hraised] at hstatus
        cases hstatus
      · exact hone
    have hperm : (objects d.alloclist).Perm
        (entryObjects e ++ objects (d.alloclist.filter (stays address))) :=
      (perm_of_firstMatch hfirst hone).flatMap_right _
    exact open_releaseCalls (h.of_perm hperm)

/-- Nothing else keeps it right. -/
theorem unmapOk_of_sound {answers : UnmapAnswers} (h : Sound d)
    (h' : Sound (unmapPhysicalMemory answers d address).2) : UnmapOk answers d address := by
  have hres := unmapResult answers d address
  generalize unmapPhysicalMemory answers d address = r at hres h'
  have hcount := addressCount_eq address d.alloclist
  cases hres with
  | unknown _ hnone => exact .inl (addressCount_eq_zero_iff.mpr hnone)
  | raised e hfirst r status hraised =>
    have hlen := (h.perm_of_append h').length_eq
    obtain ⟨hopened, hclosed⟩ := take_releaseCalls e r
    rw [List.length_append, List.length_append, hopened, hclosed, List.length_nil] at hlen
    cases r with
    | mmUnmapLockedPages => exact .inr (.inl ⟨status, hraised⟩)
    | ioFreeMdl | mmUnmapIoSpace =>
      simp only [Release.before] at hlen
      omega
  | kept e hfirst hraised hmemory hrest =>
    have hlen := (h.perm_of_append h').length_eq
    simp [objects_length, entryObjects] at hlen
    omega
  | removed e hfirst hraised hmemory =>
    have hlen := (h.perm_of_append h').length_eq
    simp [objects_length, entryObjects] at hlen
    refine .inr (.inr ⟨hraised, by omega, hmemory.imp_left fun hrest => ?_⟩)
    rw [hrest] at hcount hlen
    simp only [List.length_nil] at hcount hlen
    omega

/-! ### Mapping -/

/-- Where there is a mapping, what comes after it succeeds. -/
def MapOk (answers : MapAnswers) : Prop :=
  ∀ system, answers.ioSpace = .made system →
    (∃ mdl, answers.mdl = .made mdl) ∧
      (∃ locked, answers.lockedPages = .made locked ∧ userVirtualAddress locked system ≠ 0) ∧
      answers.listMemory = true

/-- The calls of a request that is served. -/
def mapCalls (e : AllocPriv) : List KernelCall :=
  [.mmMapIoSpace e.systemVirtualAddress e.physMemSizeInBytes, .ioAllocateMdl e.mdl,
    .mmMapLockedPages e.mdl e.userVirtualAddress]

theorem open_mapCalls {ks : List KernelObject} (h : Open ledgerEntry calls ks) :
    Open ledgerEntry (calls ++ mapCalls e) (entryObjects e ++ ks) := by
  have hio : Open ledgerEntry
      (calls ++ [.mmMapIoSpace e.systemVirtualAddress e.physMemSizeInBytes])
      (.ioSpace e.systemVirtualAddress e.physMemSizeInBytes :: ks) := h.concat_opened rfl
  have hmdl : Open ledgerEntry
      (calls ++ [.mmMapIoSpace e.systemVirtualAddress e.physMemSizeInBytes] ++
        [.ioAllocateMdl e.mdl])
      (.mdl e.mdl :: .ioSpace e.systemVirtualAddress e.physMemSizeInBytes :: ks) :=
    hio.concat_opened rfl
  have hpages : Open ledgerEntry
      (calls ++ [.mmMapIoSpace e.systemVirtualAddress e.physMemSizeInBytes] ++
        [.ioAllocateMdl e.mdl] ++ [.mmMapLockedPages e.mdl e.userVirtualAddress])
      (entryObjects e ++ ks) := hmdl.concat_opened rfl
  simpa [mapCalls] using hpages

/-- The ways in which `MapPhysicalMemoryToLinearSpace` ends. -/
inductive MapResult (answers : MapAnswers) (d : Driver) (size : UInt32) :
    NtStatus × Driver → Prop
  | failed (status : NtStatus) (hio : ∀ system, answers.ioSpace ≠ .made system) :
    MapResult answers d size (status, d)
  | mapped (e : AllocPriv) (hok : MapOk answers) (locked : UInt32)
    (hio : answers.ioSpace = .made e.systemVirtualAddress)
    (hlocked : answers.lockedPages = .made locked)
    (huser : e.userVirtualAddress = userVirtualAddress locked e.systemVirtualAddress) :
    MapResult answers d size (statusSuccess, ⟨d.alloclist ++ [e], d.calls ++ mapCalls e⟩)
  /-- The mapping stays, and nothing names it. -/
  | lost (status : NtStatus) (hok : ¬ MapOk answers) (system : UInt32) (cs : List KernelCall)
    (hcs : (openedKeys ledgerEntry cs).count (.ioSpace system size) = 1 ∧
      (closedKeys ledgerEntry cs).count (.ioSpace system size) = 0) :
    MapResult answers d size (status, ⟨d.alloclist, d.calls ++ cs⟩)
  /-- The list names pages that have not been mapped. -/
  | unmapped (e : AllocPriv) (hok : ¬ MapOk answers) :
    MapResult answers d size
      (statusSuccess, ⟨d.alloclist ++ [e], d.calls ++ (mapCalls e).take 2⟩)

theorem mapResult (answers : MapAnswers) (d : Driver) (size : UInt32) :
    MapResult answers d size (mapPhysicalMemory answers d size) := by
  unfold mapPhysicalMemory mapObjects
  cases hio : answers.ioSpace with
  | null | raised status =>
    simp only [List.append_nil]
    exact .failed _ (by simp [hio])
  | made system =>
    dsimp only
    cases hmdl : answers.mdl with
    | null | raised status =>
      dsimp only
      refine .lost _ (fun h => ?_) system _ (by simp [openedKeys, closedKeys, ledgerEntry])
      simpa [hmdl] using (h system hio).1
    | made mdl =>
      dsimp only
      cases hlocked : answers.lockedPages with
      | raised status =>
        dsimp only
        refine .lost _ (fun h => ?_) system _ (by simp [openedKeys, closedKeys, ledgerEntry])
        simpa [hlocked] using (h system hio).2.1
      | null =>
        have hnot : ¬ MapOk answers := fun h => by simpa [hlocked] using (h system hio).2.1
        dsimp only
        by_cases huser : userVirtualAddress 0 system = 0
        · rw [if_pos huser]
          exact .lost _ hnot system _ (by simp [openedKeys, closedKeys, ledgerEntry])
        · rw [if_neg huser]
          cases hmemory : answers.listMemory with
          | true => exact .unmapped ⟨mdl, system, _, size⟩ hnot
          | false =>
            dsimp only
            rw [Bool.not_false, if_pos rfl, List.append_assoc]
            exact .lost _ hnot system _ (by simp [openedKeys, closedKeys, ledgerEntry])
      | made locked =>
        dsimp only
        by_cases huser : userVirtualAddress locked system = 0
        · rw [if_pos huser]
          refine .lost _ (fun h => ?_) system _ (by simp [openedKeys, closedKeys, ledgerEntry])
          obtain ⟨-, ⟨locked', hlocked', hne⟩, -⟩ := h system hio
          rw [hlocked] at hlocked'
          cases hlocked'
          exact hne huser
        · rw [if_neg huser]
          cases hmemory : answers.listMemory with
          | true =>
            refine .mapped ⟨mdl, system, _, size⟩ (fun system' hio' => ?_) locked hio hlocked rfl
            rw [hio] at hio'
            cases hio'
            exact ⟨⟨mdl, hmdl⟩, ⟨locked, hlocked, huser⟩, hmemory⟩
          | false =>
            dsimp only
            rw [Bool.not_false, if_pos rfl, List.append_assoc]
            refine .lost _ (fun h => ?_) system _ (by simp [openedKeys, closedKeys, ledgerEntry])
            have hlist := (h system hio).2.2
            rw [hmemory] at hlist
            cases hlist

theorem Sound.map {answers : MapAnswers} (h : Sound d) (hok : MapOk answers) (size : UInt32) :
    Sound (mapPhysicalMemory answers d size).2 := by
  have hres := mapResult answers d size
  generalize mapPhysicalMemory answers d size = r at hres ⊢
  cases hres with
  | failed => exact h
  | mapped e =>
    have hopen := open_mapCalls (e := e) h
    refine hopen.of_perm (List.perm_append_comm.trans ?_)
    rw [objects_append, objects_singleton]
  | lost _ hnot | unmapped _ hnot => exact absurd hok hnot

theorem mapOk_of_sound {answers : MapAnswers} {size : UInt32} (h : Sound d)
    (h' : Sound (mapPhysicalMemory answers d size).2) : MapOk answers := by
  have hres := mapResult answers d size
  generalize mapPhysicalMemory answers d size = r at hres h'
  cases hres with
  | failed _ hio => exact fun system hsystem => absurd hsystem (hio system)
  | mapped _ hok => exact hok
  | lost status _ system cs hcs =>
    have hcount := (h.perm_of_append h').count_eq (.ioSpace system size)
    rw [List.count_append, List.count_append, hcs.1, hcs.2] at hcount
    dsimp only at hcount
    omega
  | unmapped e _ =>
    have hlen := (h.perm_of_append h').length_eq
    have hopened : (openedKeys ledgerEntry ((mapCalls e).take 2)).length = 2 := rfl
    have hclosed : closedKeys ledgerEntry ((mapCalls e).take 2) = [] := rfl
    rw [List.length_append, hopened, hclosed, List.nil_append, objects_length, objects_length,
      List.length_append] at hlen
    dsimp only [List.length_singleton] at hlen
    omega

/-! ### Runs -/

def RequestOk (d : Driver) : Request → Prop
  | .mapPhysToLin _ answers => MapOk answers
  | .unmapPhysAddr address answers => UnmapOk answers d address

theorem Sound.dispatch {r : Request} (h : Sound d) (hok : RequestOk d r) :
    Sound (dispatch d r) := by
  cases r with
  | mapPhysToLin size answers => exact h.map hok size
  | unmapPhysAddr address answers => exact h.unmap hok

/-- **The list names exactly what the driver has, throughout a run, iff no request fails half way**
or takes several entries off for one address. -/
theorem sound_run_iff (rs : List Request) :
    (∀ pre, pre <+: rs → Sound (pre.foldl dispatch driverEntry)) ↔
      Guarded dispatch RequestOk driverEntry rs := by
  refine forall_prefix_iff_guarded Sound Sound (fun _ h => h) (fun _ _ h hok => h.dispatch hok) ?_
    driverEntry_sound
  intro d r h h'
  cases r with
  | mapPhysToLin size answers => exact mapOk_of_sound h h'
  | unmapPhysAddr address answers => exact unmapOk_of_sound h h'

/-! ### Unloading -/

/-- No two entries have an address in common. -/
def Distinct (d : Driver) : Prop := (d.alloclist.map (·.userVirtualAddress)).Nodup

/-- The kernel hands out an address that is not in use. -/
def RequestFresh (d : Driver) : Request → Prop
  | .mapPhysToLin _ answers =>
    ∀ system locked, answers.ioSpace = .made system → answers.lockedPages = .made locked →
      userVirtualAddress locked system ∉ d.alloclist.map (·.userVirtualAddress)
  | .unmapPhysAddr _ _ => True

theorem addressCount_le (h : Distinct d) (address : UInt32) :
    addressCount address d.alloclist ≤ 1 := by
  have hcount := List.nodup_iff_count_le_one.mp h address
  rw [List.count, List.countP_map] at hcount
  refine le_trans (le_of_eq ?_) hcount
  unfold addressCount
  congr 1

/-- The answers of a call in which nothing goes wrong. -/
def UnmapAnswers.Fine (answers : UnmapAnswers) : Prop :=
  answers.raised = none ∧ answers.listMemory = true

theorem unmapOk_of_fine {answers : UnmapAnswers} (hfine : answers.Fine) (h : Distinct d)
    (address : UInt32) : UnmapOk answers d address := by
  have hle := addressCount_le h address
  rcases Nat.le_one_iff_eq_zero_or_eq_one.mp hle with hzero | hone
  · exact .inl hzero
  · exact .inr (.inr ⟨hfine.1, hone, .inr hfine.2⟩)

/-- Where nothing goes wrong the entries with other addresses are left, in their order. -/
theorem unmap_of_fine {answers : UnmapAnswers} (hfine : answers.Fine)
    (he : e ∈ d.alloclist) (haddress : e.userVirtualAddress = address) :
    (unmapPhysicalMemory answers d address).1 = statusSuccess ∧
      (unmapPhysicalMemory answers d address).2.alloclist =
        d.alloclist.filter (stays address) := by
  have hres := unmapResult answers d address
  generalize unmapPhysicalMemory answers d address = r at hres ⊢
  cases hres with
  | unknown status hnone =>
    have hstays := firstMatch_eq_none_iff.mp hnone e he
    simp [stays, haddress] at hstays
  | raised e' _ r status hraised =>
    rw [hfine.1] at hraised
    cases hraised
  | kept e' _ _ hmemory =>
    rw [hfine.2] at hmemory
    cases hmemory
  | removed => exact ⟨rfl, rfl⟩

/-- Unloading takes one entry after the other off, from the end. -/
theorem unloadLoop_spec {answers : ℕ → UnmapAnswers} (hfine : ∀ i, (answers i).Fine) :
    ∀ (fuel i : ℕ) (d : Driver), d.alloclist.length ≤ fuel → Sound d → Distinct d →
      (unloadLoop answers fuel i d).alloclist = [] ∧ Sound (unloadLoop answers fuel i d) := by
  intro fuel
  induction fuel with
  | zero =>
    intro i d hlen h _
    exact ⟨List.length_eq_zero_iff.mp (Nat.le_zero.mp hlen), h⟩
  | succ fuel ih =>
    intro i d hlen h hdistinct
    unfold unloadLoop
    cases hlast : d.alloclist.getLast? with
    | none => exact ⟨List.getLast?_eq_none_iff.mp hlast, h⟩
    | some e =>
      have hmem : e ∈ d.alloclist := List.mem_of_getLast? hlast
      obtain ⟨hstatus, hlist⟩ := unmap_of_fine (hfine i) hmem rfl
      have hcount := addressCount_eq e.userVirtualAddress d.alloclist
      have hpos : 0 < addressCount e.userVirtualAddress d.alloclist :=
        List.countP_pos_iff.mpr ⟨e, hmem, by simp⟩
      dsimp only
      rw [if_pos hstatus]
      refine ih (i + 1) _ ?_ (h.unmap (unmapOk_of_fine (hfine i) hdistinct _)) ?_
      · rw [hlist]
        omega
      · unfold Distinct
        rw [hlist]
        exact hdistinct.sublist (List.filter_sublist.map _)

theorem Distinct.dispatch {r : Request} (h : Distinct d) (hok : RequestOk d r)
    (hfresh : RequestFresh d r) : Distinct (dispatch d r) := by
  cases r with
  | mapPhysToLin size answers =>
    have hres := mapResult answers d size
    change Distinct (mapPhysicalMemory answers d size).2
    generalize mapPhysicalMemory answers d size = r at hres ⊢
    cases hres with
    | failed => exact h
    | mapped e _ locked hio hlocked huser =>
      have hnew : e.userVirtualAddress ∉ d.alloclist.map (·.userVirtualAddress) := by
        rw [huser]
        exact hfresh _ _ hio hlocked
      unfold Distinct at h ⊢
      rw [List.map_append, List.map_singleton, List.nodup_append]
      refine ⟨h, List.nodup_singleton _, fun a ha b hb hab => ?_⟩
      rw [List.mem_singleton.mp hb] at hab
      exact hnew (hab ▸ ha)
    | lost _ hnot | unmapped _ hnot => exact absurd hok hnot
  | unmapPhysAddr address answers =>
    have hres := unmapResult answers d address
    change Distinct (unmapPhysicalMemory answers d address).2
    generalize unmapPhysicalMemory answers d address = r at hres ⊢
    cases hres with
    | unknown | raised => exact h
    | removed => exact h.sublist (List.filter_sublist.map _)
    | kept e hfirst hraised hmemory hrest =>
      have hlist := hok.listMemory hfirst hraised hrest
      rw [hmemory] at hlist
      cases hlist

/-- **A driver that was unloaded has given everything back, and nothing twice,** whatever requests
it has served before. -/
theorem dhahelperunload_spec {rs : List Request} {answers : ℕ → UnmapAnswers}
    (hok : Guarded dispatch (fun d r => RequestOk d r ∧ RequestFresh d r) driverEntry rs)
    (hfine : ∀ i, (answers i).Fine) :
    let d := dhahelperunload answers (rs.foldl dispatch driverEntry)
    d.alloclist = [] ∧ Open ledgerEntry d.calls [] := by
  have hsound : Sound (rs.foldl dispatch driverEntry) :=
    hok.invariant (fun _ _ h hr => h.dispatch hr.1) driverEntry_sound
  have hdistinct : Distinct (rs.foldl dispatch driverEntry) :=
    hok.invariant (fun _ _ h hr => h.dispatch hr.1 hr.2) List.nodup_nil
  obtain ⟨hempty, hall⟩ := unloadLoop_spec hfine _ 0 _ le_rfl hsound hdistinct
  refine ⟨hempty, ?_⟩
  unfold Sound at hall
  rw [hempty] at hall
  exact hall

/-- The answers to a request that is served, with the addresses that the kernel hands out. -/
def served (system mdl locked : UInt32) : MapAnswers :=
  ⟨.made system, .made mdl, .made locked, true⟩

theorem served_mapOk {system mdl locked : UInt32} (h : userVirtualAddress locked system ≠ 0) :
    MapOk (served system mdl locked) := by
  intro system' hio
  cases hio
  exact ⟨⟨mdl, rfl⟩, ⟨locked, rfl, h⟩, rfl⟩

/-- Two mappings, the first of which is given back before the driver is unloaded. -/
theorem dhahelperunload_two :
    let d := dhahelperunload (fun _ => ⟨none, true⟩)
      ([.mapPhysToLin 0x1000 (served 0xf8001000 1 0x10000), .mapPhysToLin 0x2000
        (served 0xf8003080 2 0x20000), .unmapPhysAddr 0x10000 ⟨none, true⟩].foldl dispatch
          driverEntry)
    d.alloclist = [] ∧ Open ledgerEntry d.calls [] := by
  refine dhahelperunload_spec ⟨⟨served_mapOk (by decide), ?_⟩, ⟨served_mapOk (by decide), ?_⟩,
    ⟨.inr (.inr ⟨rfl, by decide, .inr rfl⟩), trivial⟩, trivial⟩ fun _ => ⟨rfl, rfl⟩
  · intro system locked hio hlocked
    cases hio
    cases hlocked
    decide
  · intro system locked hio hlocked
    cases hio
    cases hlocked
    decide

end Vidix.Dhahelperwin
