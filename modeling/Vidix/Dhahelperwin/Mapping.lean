import Vidix.Util.Ledger

/-!
# The mappings of the Windows helper

`MapPhysicalMemoryToLinearSpace`, `UnmapPhysicalMemory` and `dhahelperunload`, which keep the list
`alloclist` of what has been mapped.  The kernel's answers are arguments; what is asked of it is
recorded, since each of its objects must be given back by a call of its own.

Addresses have 32 bits, as they have where the driver runs.  The memory of the list itself is not
recorded: all that the functions ask about it is whether there is any.
-/

namespace Vidix.Dhahelperwin

/-- `NTSTATUS`. -/
abbrev NtStatus := UInt32

def statusSuccess : NtStatus := 0
def statusInvalidParameter : NtStatus := 0xC000000D
def statusInsufficientResources : NtStatus := 0xC000009A

/-- `alloc_priv`. -/
structure AllocPriv where
  mdl : UInt32
  systemVirtualAddress : UInt32
  userVirtualAddress : UInt32
  physMemSizeInBytes : UInt32
  deriving DecidableEq, Repr

/-- The calls that make an object of the kernel, or give it back. -/
inductive KernelCall
  | mmMapIoSpace (system size : UInt32)
  | ioAllocateMdl (mdl : UInt32)
  | mmMapLockedPages (mdl user : UInt32)
  | mmUnmapLockedPages (user mdl : UInt32)
  | ioFreeMdl (mdl : UInt32)
  | mmUnmapIoSpace (system size : UInt32)
  deriving DecidableEq, Repr

/-! ### Mapping -/

/-- What the kernel answers to a call that makes an object. -/
inductive Made (α : Type*)
  | null
  | made (value : α)
  | raised (status : NtStatus)

/-- The answers during a call of `MapPhysicalMemoryToLinearSpace`. -/
structure MapAnswers where
  ioSpace : Made UInt32
  mdl : Made UInt32
  lockedPages : Made UInt32
  /-- There is memory for the list. -/
  listMemory : Bool

/-- `PAGE_ALIGN(locked) + MmGetMdlByteOffset(Mdl)`, with the offset of what the MDL describes. -/
def userVirtualAddress (locked system : UInt32) : UInt32 :=
  (locked &&& 0xfffff000) + (system &&& 0xfff)

/-- The driver's part of a mapping: the new entry, or the status it fails with. -/
def mapObjects (answers : MapAnswers) (size : UInt32) :
    Except NtStatus AllocPriv × List KernelCall :=
  match answers.ioSpace with
  | .null => (.error statusInvalidParameter, [])
  | .raised status => (.error status, [])
  | .made system =>
    let calls := [.mmMapIoSpace system size]
    -- what has been made so far stays when a later call fails
    match answers.mdl with
    | .null => (.error statusInsufficientResources, calls)
    | .raised status => (.error status, calls)
    | .made mdl =>
      let calls := calls ++ [.ioAllocateMdl mdl]
      match answers.lockedPages with
      | .raised status => (.error status, calls)
      | .null =>
        -- the offset is added before the test for 0
        let user := userVirtualAddress 0 system
        if user = 0 then (.error statusInsufficientResources, calls)
        else (.ok ⟨mdl, system, user, size⟩, calls)
      | .made locked =>
        let user := userVirtualAddress locked system
        let calls := calls ++ [.mmMapLockedPages mdl user]
        if user = 0 then (.error statusInsufficientResources, calls)
        else (.ok ⟨mdl, system, user, size⟩, calls)

/-- The list and all calls so far. -/
structure Driver where
  alloclist : List AllocPriv
  calls : List KernelCall
  deriving DecidableEq, Repr

/-- `MapPhysicalMemoryToLinearSpace`. -/
def mapPhysicalMemory (answers : MapAnswers) (d : Driver) (size : UInt32) : NtStatus × Driver :=
  match mapObjects answers size with
  | (.error status, calls) => (status, { d with calls := d.calls ++ calls })
  | (.ok e, calls) =>
    if !answers.listMemory then
      -- the mapping itself, `SystemVirtualAddress`, is not given back
      (statusInsufficientResources,
        { d with
          calls := d.calls ++ calls ++
            [.mmUnmapLockedPages e.userVirtualAddress e.mdl, .ioFreeMdl e.mdl] })
    else (statusSuccess, ⟨d.alloclist ++ [e], d.calls ++ calls⟩)

/-! ### Unmapping -/

/-- The three calls that give a mapping back, in their order. -/
inductive Release
  | mmUnmapLockedPages
  | ioFreeMdl
  | mmUnmapIoSpace
  deriving DecidableEq, Repr

/-- How many calls come before it. -/
def Release.before : Release → ℕ
  | mmUnmapLockedPages => 0
  | ioFreeMdl => 1
  | mmUnmapIoSpace => 2

/-- The answers during a call of `UnmapPhysicalMemory`. -/
structure UnmapAnswers where
  /-- The call that raises an exception, if one does. -/
  raised : Option (Release × NtStatus)
  /-- There is memory for the list. -/
  listMemory : Bool

/-- The calls that give a mapping back. -/
def releaseCalls (e : AllocPriv) : List KernelCall :=
  [.mmUnmapLockedPages e.userVirtualAddress e.mdl, .ioFreeMdl e.mdl,
    .mmUnmapIoSpace e.systemVirtualAddress e.physMemSizeInBytes]

/-- The loop of `UnmapPhysicalMemory`. -/
structure Scan where
  alloclist : List AllocPriv
  x : ℕ
  alloccounttmp : ℕ
  calls : List KernelCall

/-- One round; an exception ends the call of the function. -/
def unmapRound (raised : Option (Release × NtStatus)) (address : UInt32) (s : Scan) (i : ℕ) :
    Except (NtStatus × Scan) Scan :=
  match s.alloclist[i]? with
  | none => .ok s
  | some e =>
    if e.userVirtualAddress ≠ address then
      .ok { s with
        alloclist := if s.x ≠ i then s.alloclist.set s.x e else s.alloclist
        x := s.x + 1 }
    -- only the first of several entries with the address is given back
    else if s.x = i then
      match raised with
      | some (r, status) =>
        .error (status, { s with calls := s.calls ++ (releaseCalls e).take r.before })
      | none =>
        .ok { s with
          alloccounttmp := s.alloccounttmp - 1
          calls := s.calls ++ releaseCalls e }
    else .ok { s with alloccounttmp := s.alloccounttmp - 1 }

/-- `UnmapPhysicalMemory`. -/
def unmapPhysicalMemory (answers : UnmapAnswers) (d : Driver) (address : UInt32) :
    NtStatus × Driver :=
  let alloccount := d.alloclist.length
  if alloccount = 0 then (statusSuccess, d)
  else
    match (List.range alloccount).foldlM (unmapRound answers.raised address)
        ⟨d.alloclist, 0, alloccount, d.calls⟩ with
    | .error (status, s) => (status, ⟨s.alloclist, s.calls⟩)
    | .ok s =>
      -- the list stays as long as it was when there is no memory for a shorter one
      if s.alloccounttmp ≠ 0 ∧ !answers.listMemory then
        (statusInsufficientResources, ⟨s.alloclist, s.calls⟩)
      else (statusSuccess, ⟨s.alloclist.take s.alloccounttmp, s.calls⟩)

/-! ### Unloading -/

/-- The loop of `dhahelperunload`, for at most `fuel` rounds; round `i` has its own answers. -/
def unloadLoop (answers : ℕ → UnmapAnswers) : ℕ → ℕ → Driver → Driver
  | 0, _, d => d
  | fuel + 1, i, d =>
    match d.alloclist.getLast? with
    | none => d
    | some e =>
      let (status, d') := unmapPhysicalMemory (answers i) d e.userVirtualAddress
      if status = statusSuccess then unloadLoop answers fuel (i + 1) d' else d'

/-- `dhahelperunload`, as far as the list goes: a round that does not end the loop takes an entry
off. -/
def dhahelperunload (answers : ℕ → UnmapAnswers) (d : Driver) : Driver :=
  unloadLoop answers d.alloclist.length 0 d

/-! ### Runs -/

/-- The requests that reach the list. -/
inductive Request
  | mapPhysToLin (size : UInt32) (answers : MapAnswers)
  | unmapPhysAddr (address : UInt32) (answers : UnmapAnswers)

/-- `dhahelperdispatch`. -/
def dispatch (d : Driver) : Request → Driver
  | .mapPhysToLin size answers => (mapPhysicalMemory answers d size).2
  | .unmapPhysAddr address answers => (unmapPhysicalMemory answers d address).2

/-- After `DriverEntry`. -/
def driverEntry : Driver := ⟨[], []⟩

end Vidix.Dhahelperwin
