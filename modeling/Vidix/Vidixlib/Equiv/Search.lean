import Vidix.Vidixlib.Equiv.Open
import Mathlib.Data.List.Basic

/-!
# The driver search of the dynamic build

Without drivers in the program (`drv_snames` empty) `dl_idx` is -1 at all times, whatever calls of
the library came before: `libRun_dlIdx`.  So each file that the search tries is opened as a module,
and the search is the first hit of `acceptedModule` in the listing (`findLoop_handle`).  What it has
opened it has closed again, but for the module of that hit: the ledger of `findLoop_found`.
-/

namespace Vidix.Vidixlib

open Util

variable {ld : Loader} {binding : Binding} {st : LibState} {stream : VdlStream}
  {path name file : CString} {cap : UInt32} {verbose : ℤ} {args : Option CString} {drv : Driver}

/-- The library is built without drivers in the program. -/
def Loader.Dynamic (ld : Loader) : Prop := ld.drvSnames = []

/-! ### `dl_idx` between calls -/

theorem locate_dynamic (hdyn : ld.Dynamic) (file : CString) : locate ld none file = none := by
  unfold locate
  rw [hdyn]
  cases afterSlash file <;> rfl

theorem openModule_dlIdx {st' : LibState} {stream' : VdlStream}
    (h : openModule ld binding st stream file = some (st', stream')) : st'.dlIdx = st.dlIdx := by
  unfold openModule at h
  cases hidx : st.dlIdx with
  | some i =>
    rw [hidx] at h
    obtain ⟨rfl, -⟩ := Prod.mk.inj (Option.some.inj h)
    exact hidx
  | none =>
    rw [hidx] at h
    cases hopen : ld.dlopen binding file with
    | none =>
      rw [hopen] at h
      cases h
    | some m =>
      rw [hopen] at h
      obtain ⟨rfl, -⟩ := Prod.mk.inj (Option.some.inj h)
      exact hidx

@[simp] theorem vdlClose_dlIdx (st : LibState) (stream : VdlStream) :
    (vdlClose st stream).dlIdx = none := rfl

theorem fillAndInit_dlIdx (stream : VdlStream) (args : Option CString) (hidx : st.dlIdx = none) :
    (fillAndInit ld st stream args).2.dlIdx = none := by
  unfold fillAndInit
  dsimp only
  split_ifs
  · rfl
  · split
    · exact hidx
    · split_ifs
      · rfl
      · exact hidx

theorem openNamed_dlIdx (hdyn : ld.Dynamic) (path name : CString) (args : Option CString)
    (verbose : ℤ) (hidx : st.dlIdx = none) :
    (openNamed ld st path name args verbose).2.dlIdx = none := by
  unfold openNamed serve
  dsimp only
  rw [hidx, locate_dynamic hdyn]
  split
  · rfl
  · next st' stream' hopen =>
    have hidx' : st'.dlIdx = none := openModule_dlIdx hopen
    split_ifs
    · rfl
    · split
      · rfl
      · split_ifs
        · rfl
        · exact fillAndInit_dlIdx stream' args hidx'

theorem vdlProbeDriver_dlIdx (hdyn : ld.Dynamic) (stream : VdlStream) (path name : CString)
    (cap : UInt32) (verbose : ℤ) (hidx : st.dlIdx = none) :
    (vdlProbeDriver ld st stream path name cap verbose).2.1.dlIdx = none := by
  unfold vdlProbeDriver
  dsimp only
  rw [hidx, locate_dynamic hdyn]
  split
  · rfl
  · next st' stream' hopen =>
    split_ifs
    · exact openModule_dlIdx hopen
    · rfl

theorem findLoop_dlIdx (hdyn : ld.Dynamic) (path : CString) (cap : UInt32) (verbose : ℤ)
    (names : List CString) (stream : VdlStream) (hidx : st.dlIdx = none) :
    (findLoop ld path cap verbose names st stream).2.1.dlIdx = none := by
  induction names generalizing st stream with
  | nil => exact hidx
  | cons name names ih =>
    rw [findLoop]
    split_ifs
    · exact ih stream hidx
    · have hprobe := vdlProbeDriver_dlIdx hdyn stream path name cap verbose hidx
      generalize vdlProbeDriver ld st stream path name cap verbose = r at hprobe ⊢
      obtain ⟨ok, st', stream'⟩ := r
      cases ok with
      | true => exact hprobe
      | false => exact ih stream' hprobe

theorem vdlFindDriver_dlIdx (hdyn : ld.Dynamic) (stream : VdlStream) (path : CString)
    (cap : UInt32) (verbose : ℤ) (hidx : st.dlIdx = none) :
    (vdlFindDriver ld st stream path cap verbose).2.1.dlIdx = none := by
  unfold vdlFindDriver
  split
  · exact hidx
  · next names hnames => exact findLoop_dlIdx hdyn path cap verbose names stream hidx

theorem vdlOpen_dlIdx (hdyn : ld.Dynamic) (memory : Bool) (path : CString) (name : Option CString)
    (cap : UInt32) (verbose : ℤ) (hidx : st.dlIdx = none) :
    (vdlOpen ld memory st path name cap verbose).2.2.dlIdx = none := by
  unfold vdlOpen
  split_ifs
  · exact hidx
  · cases name with
    | some name => exact openNamed_dlIdx hdyn path _ _ verbose hidx
    | none =>
      have hfind := vdlFindDriver_dlIdx hdyn .null path cap verbose hidx
      dsimp only
      generalize vdlFindDriver ld st .null path cap verbose = r at hfind ⊢
      obtain ⟨ok, st', stream'⟩ := r
      cases ok with
      | true => exact fillAndInit_dlIdx stream' none hfind
      | false => rfl

/-! ### Histories -/

/-- A call that changes what the library remembers.  The files may differ from call to call. -/
inductive LibCall
  | open (ld : Loader) (memory : Bool) (path : CString) (name : Option CString) (cap : UInt32)
    (verbose : ℤ)
  | close (stream : VdlStream)

/-- The call is one of a library without drivers in the program. -/
def LibCall.Dynamic : LibCall → Prop
  | .open ld .. => ld.Dynamic
  | .close _ => True

def libCall (st : LibState) : LibCall → LibState
  | .open ld memory path name cap verbose => (vdlOpen ld memory st path name cap verbose).2.2
  | .close stream => vdlClose st stream

/-- The state after some calls; in the beginning `dl_idx` is -1. -/
def libRun (history : List LibCall) : LibState := history.foldl libCall ⟨none, []⟩

theorem libCall_dlIdx {call : LibCall} (hdyn : call.Dynamic) (hidx : st.dlIdx = none) :
    (libCall st call).dlIdx = none := by
  cases call with
  | «open» ld memory path name cap verbose =>
    exact vdlOpen_dlIdx hdyn memory path name cap verbose hidx
  | close stream => rfl

/-- No history makes the library look for a driver in the program. -/
theorem libRun_dlIdx {history : List LibCall} (hhist : ∀ call ∈ history, call.Dynamic) :
    (libRun history).dlIdx = none := by
  unfold libRun
  generalize hst : (⟨none, []⟩ : LibState) = st
  have hidx : st.dlIdx = none := by rw [← hst]
  clear hst
  induction history generalizing st with
  | nil => exact hidx
  | cons call history ih =>
    have hcall := libCall_dlIdx (hhist call List.mem_cons_self) hidx
    exact ih (fun c hc => hhist c (List.mem_cons_of_mem call hc)) _ hcall

/-! ### The search -/

/-- What a file needs to be accepted: the entry points that a probe calls, their version, a probe
that succeeds, and the capabilities that are asked for. -/
structure Usable (drv : Driver) (cap : UInt32) (verbose : ℤ) : Prop where
  version : drv.getVersion = some vidixVersion
  probe : ∃ probe, drv.probe = some probe ∧ probe verbose probeNormal = 0
  covers : ∃ type, drv.getCaps = some (0, type) ∧ type &&& cap = cap

theorem probeOk_iff : probeOk drv cap verbose = true ↔ Usable drv cap verbose := by
  unfold probeOk
  constructor
  · intro h
    split at h
    · cases h
    · next version hversion =>
      split_ifs at h with hv
      split at h
      · cases h
      · next probe hprobe =>
        split_ifs at h with hp
        split at h
        · cases h
        · next ret type hcaps =>
          obtain ⟨hret, hcap⟩ := Bool.and_eq_true_iff.mp h
          obtain rfl : ret = 0 := of_decide_eq_true hret
          refine ⟨?_, ⟨probe, hprobe, not_not.mp hp⟩, ⟨type, hcaps, of_decide_eq_true hcap⟩⟩
          rw [hversion, not_not.mp hv]
  · rintro ⟨hversion, ⟨probe, hprobe, hret⟩, ⟨type, hcaps, hcap⟩⟩
    rw [hversion, hprobe, hcaps]
    simp [hret, hcap]

/-- The file opens as the module `m`, which is accepted.  Names that start with a dot are not
tried. -/
structure Accepted (ld : Loader) (path : CString) (cap : UInt32) (verbose : ℤ) (name : CString)
    (m : Module) : Prop where
  not_hidden : name.head? ≠ some '.'
  opens : ld.dlopen .lazy (drvName path name) = some m
  usable : Usable (m.driver []) cap verbose

/-- The module of a file that is accepted. -/
def acceptedModule (ld : Loader) (path : CString) (cap : UInt32) (verbose : ℤ) (name : CString) :
    Option Module :=
  if name.head? = some '.' then none
  else (ld.dlopen .lazy (drvName path name)).filter fun m => probeOk (m.driver []) cap verbose

theorem acceptedModule_eq_some_iff {name : CString} {m : Module} :
    acceptedModule ld path cap verbose name = some m ↔ Accepted ld path cap verbose name m := by
  unfold acceptedModule
  constructor
  · intro h
    split_ifs at h with hdot
    obtain ⟨hopen, hok⟩ := Option.filter_eq_some_iff.mp h
    exact ⟨hdot, hopen, probeOk_iff.mp hok⟩
  · rintro ⟨hdot, hopen, hok⟩
    rw [if_neg hdot]
    exact Option.filter_eq_some_iff.mpr ⟨hopen, probeOk_iff.mpr hok⟩

/-- A file that is tried is opened as a module. -/
theorem vdlProbeDriver_handle (hdyn : ld.Dynamic) (stream : VdlStream) (path : CString)
    (cap : UInt32) (verbose : ℤ) (hdot : name.head? ≠ some '.') (hidx : st.dlIdx = none) :
    (vdlProbeDriver ld st stream path name cap verbose).1 =
        (acceptedModule ld path cap verbose name).isSome ∧
      (vdlProbeDriver ld st stream path name cap verbose).2.2.handle =
        acceptedModule ld path cap verbose name := by
  unfold vdlProbeDriver acceptedModule openModule
  dsimp only
  rw [hidx, locate_dynamic hdyn, if_neg hdot]
  dsimp only
  cases hopen : ld.dlopen .lazy (drvName path name) with
  | none => exact ⟨rfl, rfl⟩
  | some m =>
    have hsym : dlsymm ld none (some m) = m.driver [] := rfl
    dsimp only [LibState.log]
    rw [hsym, Option.filter_some]
    split_ifs
    · exact ⟨rfl, rfl⟩
    · exact ⟨rfl, rfl⟩

/-- The search stops at the first file that is accepted. -/
theorem findLoop_handle (hdyn : ld.Dynamic) (names : List CString) (hidx : st.dlIdx = none)
    (hhandle : stream.handle = none) :
    (findLoop ld path cap verbose names st stream).1 =
        (names.findSome? (acceptedModule ld path cap verbose)).isSome ∧
      (findLoop ld path cap verbose names st stream).2.2.handle =
        names.findSome? (acceptedModule ld path cap verbose) := by
  induction names generalizing st stream with
  | nil => exact ⟨rfl, hhandle⟩
  | cons name names ih =>
    rw [findLoop]
    by_cases hdot : name.head? = some '.'
    · have hnone : acceptedModule ld path cap verbose name = none := if_pos hdot
      rw [if_pos hdot, List.findSome?_cons_of_isNone (by rw [hnone]; rfl)]
      exact ih hidx hhandle
    · rw [if_neg hdot]
      obtain ⟨hok, hprobe⟩ := vdlProbeDriver_handle hdyn stream path cap verbose hdot hidx
      have hidx' := vdlProbeDriver_dlIdx hdyn stream path name cap verbose hidx
      generalize vdlProbeDriver ld st stream path name cap verbose = r at hok hprobe hidx' ⊢
      obtain ⟨ok, st', stream'⟩ := r
      dsimp only at hok hprobe hidx'
      cases hacc : acceptedModule ld path cap verbose name with
      | some m =>
        rw [hacc] at hok hprobe
        obtain rfl : ok = true := hok
        rw [List.findSome?_cons_of_isSome (by rw [hacc]; rfl), hacc]
        exact ⟨rfl, hprobe⟩
      | none =>
        -- the next file meets the same state: no handle, and `dl_idx` at -1
        rw [hacc] at hok hprobe
        obtain rfl : ok = false := hok
        rw [List.findSome?_cons_of_isNone (by rw [hacc]; rfl)]
        exact ih hidx' hprobe

/-- The names in a directory; a directory that cannot be opened has none. -/
def listing (ld : Loader) (path : CString) : List CString := (ld.opendir path).getD []

theorem vdlFindDriver_handle (hdyn : ld.Dynamic) (st : LibState) (stream : VdlStream)
    (path : CString) (cap : UInt32) (verbose : ℤ) (hidx : st.dlIdx = none)
    (hhandle : stream.handle = none) :
    (vdlFindDriver ld st stream path cap verbose).1 =
        ((listing ld path).findSome? (acceptedModule ld path cap verbose)).isSome ∧
      (vdlFindDriver ld st stream path cap verbose).2.2.handle =
        (listing ld path).findSome? (acceptedModule ld path cap verbose) := by
  unfold vdlFindDriver listing
  cases ld.opendir path with
  | none => exact ⟨rfl, hhandle⟩
  | some names => exact findLoop_handle hdyn names hidx hhandle

/-- What a search owes its caller: the result, the handle and the modules it leaves open. -/
structure Searched (ld : Loader) (path : CString) (cap : UInt32) (verbose : ℤ)
    (r : Bool × LibState × VdlStream) : Prop where
  success_iff : r.1 = true ↔
    ∃ name ∈ listing ld path, ∃ m, Accepted ld path cap verbose name m
  /-- The handle is that of the first file accepted, and no other module is open. -/
  first : r.1 = true → ∃ pre name post m, listing ld path = pre ++ name :: post ∧
    (∀ name' ∈ pre, ∀ m', ¬ Accepted ld path cap verbose name' m') ∧
    Accepted ld path cap verbose name m ∧ r.2.2.handle = some m ∧
    Open moduleEntry r.2.1.events [m.handle]
  nothing : r.1 = false → r.2.2.handle = none ∧ Open moduleEntry r.2.1.events []

/-- **A search finds the first file that is accepted,** and closes all others it has opened, in a
library without drivers in the program, whatever calls of the library came before. -/
theorem vdlFindDriver_searched (ld : Loader) (history : List LibCall) (path : CString)
    (cap : UInt32) (verbose : ℤ) (hdyn : ld.Dynamic)
    (hhist : ∀ call ∈ history, call.Dynamic) :
    Searched ld path cap verbose
      (vdlFindDriver ld ⟨(libRun history).dlIdx, []⟩ .null path cap verbose) := by
  rw [libRun_dlIdx hhist]
  have hledger := (vdlFindDriver_found ld path cap verbose (attached_null none) rfl).attached.ledger
  obtain ⟨hok, hhandle⟩ := vdlFindDriver_handle hdyn ⟨none, []⟩ .null path cap verbose rfl rfl
  generalize vdlFindDriver ld ⟨none, []⟩ .null path cap verbose = r at hledger hok hhandle ⊢
  unfold VdlStream.keys at hledger
  rw [hhandle] at hledger
  cases hfound : (listing ld path).findSome? (acceptedModule ld path cap verbose) with
  | some m =>
    rw [hfound] at hok hhandle hledger
    obtain ⟨pre, name, post, hlist, hname, hpre⟩ := List.findSome?_eq_some_iff.mp hfound
    have hacc := acceptedModule_eq_some_iff.mp hname
    refine ⟨iff_of_true hok ⟨name, ?_, m, hacc⟩, fun _ => ?_, fun hfail => ?_⟩
    · rw [hlist]
      exact List.mem_append_right _ List.mem_cons_self
    · refine ⟨pre, name, post, m, hlist, fun name' hmem m' hacc' => ?_, hacc, hhandle, hledger⟩
      have hnone := hpre name' hmem
      rw [acceptedModule_eq_some_iff.mpr hacc'] at hnone
      cases hnone
    · rw [hok] at hfail
      cases hfail
  | none =>
    rw [hfound] at hok hhandle hledger
    have hnone := List.findSome?_eq_none_iff.mp hfound
    refine ⟨iff_of_false ?_ ?_, fun hsuccess => ?_, fun _ => ⟨hhandle, hledger⟩⟩
    · rw [hok]
      decide
    · rintro ⟨name, hmem, m, hacc⟩
      have hname := hnone name hmem
      rw [acceptedModule_eq_some_iff.mpr hacc] at hname
      cases hname
    · rw [hok] at hsuccess
      cases hsuccess

/-- A directory with a file that is no driver and a driver of an older version before the one that
is accepted. -/
def mixedLoader : Loader where
  dlopen _ file :=
    if file = "/usr/lib/vidix/old_vid.so".toList then
      some ⟨1, fun _ => { s3Driver with getVersion := some 100 }⟩
    else if file = "/usr/lib/vidix/s3_vid.so".toList then some ⟨2, fun _ => s3Driver⟩
    else none
  program _ := { EntryPoints.null with getVersion := none, probe := none }
  drvSnames := []
  opendir _ :=
    some [".".toList, "README".toList, "old_vid.so".toList, "s3_vid.so".toList, "z.so".toList]

/-- The older driver is closed again and the next one is found, also after a stream was closed. -/
theorem vdlFindDriver_searched_mixed :
    Searched mixedLoader "/usr/lib/vidix/".toList 1 0
        (vdlFindDriver mixedLoader ⟨(libRun [.close .null]).dlIdx, []⟩ .null
          "/usr/lib/vidix/".toList 1 0) ∧
      (vdlFindDriver mixedLoader ⟨none, []⟩ .null "/usr/lib/vidix/".toList 1 0).2.1.events =
        [.opened 1, .closed (some 1), .opened 2] := by
  refine ⟨vdlFindDriver_searched mixedLoader [.close .null] _ 1 0 rfl fun call hcall => ?_, ?_⟩
  · rw [List.mem_singleton.mp hcall]
    trivial
  · decide +kernel

end Vidix.Vidixlib
