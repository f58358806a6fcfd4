import Vidix.Vidixlib.Open
import Vidix.Util.Ledger

/-!
# The life cycle of a driver

`vdlOpen` fails at several places, and all but the first of them leave through `vdlClose`.  Up to
the point where the entry points are fetched the stream has none, and the clean-up closes what is
open and nothing else.  From then on it also calls the driver's `vixDestroy`, although the driver
may be one that is not used or one whose `vixInit` has failed.

Which driver that is depends on the call alone (`chosen`).  The life cycle is as it should be iff
this driver has no `vixDestroy`, or has all the features required and an initialisation that
succeeds: `openClose_lifeCycle_iff`.
-/

namespace Vidix.Vidixlib

open Util

variable {ld : Loader} {binding : Binding} {st : LibState} {stream : VdlStream}
  {path name file : CString} {cap : UInt32} {verbose : ℤ} {args : Option CString} {drv : Driver}

/-! ### Events -/

/-- The openings and closings of modules. -/
def moduleEntry : VdlEvent → Option (Entry ℕ)
  | .opened handle => some (.opened handle)
  | .closed (some handle) => some (.closed handle)
  | _ => none

/-- The handle of a stream that has a module. -/
def VdlStream.keys (stream : VdlStream) : List ℕ := (stream.handle.map (·.handle)).toList

/-- The stream has its driver, or none yet: no entry point of the driver has been called, and the
stream's module is the only one that is open. -/
structure Attached (st : LibState) (stream : VdlStream) : Prop where
  ledger : Open moduleEntry st.events stream.keys
  no_init : ∀ errcode, .init errcode ∉ st.events
  no_destroy : .destroy ∉ st.events

theorem attached_null (dlIdx : Option ℕ) : Attached ⟨dlIdx, []⟩ .null where
  ledger := open_nil
  no_init _ := List.not_mem_nil
  no_destroy := List.not_mem_nil

theorem Attached.setIdx (h : Attached st stream) (dlIdx : Option ℕ) :
    Attached { st with dlIdx := dlIdx } stream :=
  ⟨h.ledger, h.no_init, h.no_destroy⟩

/-- One more event that calls no entry point. -/
theorem Attached.log (h : Attached st stream) {ev : VdlEvent} {stream' : VdlStream}
    (hledger : Open moduleEntry (st.events ++ [ev]) stream'.keys)
    (hinit : ∀ errcode, ev ≠ .init errcode) (hdestroy : ev ≠ .destroy) :
    Attached (st.log ev) stream' where
  ledger := hledger
  no_init errcode hmem := by
    rcases List.mem_append.mp hmem with hmem | hmem
    · exact h.no_init errcode hmem
    · exact hinit errcode (List.mem_singleton.mp hmem).symm
  no_destroy hmem := by
    rcases List.mem_append.mp hmem with hmem | hmem
    · exact h.no_destroy hmem
    · exact hdestroy (List.mem_singleton.mp hmem).symm

theorem Attached.opened (h : Attached st stream) (hhandle : stream.handle = none) (m : Module) :
    Attached (st.log (.opened m.handle)) { stream with handle := some m } := by
  have hledger := h.ledger
  rw [VdlStream.keys, hhandle] at hledger
  exact h.log (hledger.concat_opened rfl) nofun nofun

/-- `dlclose`, also of the handle `NULL`. -/
theorem Attached.closed (h : Attached st stream) :
    Attached (st.log (.closed (stream.handle.map (·.handle))))
      { stream with handle := none } := by
  refine h.log ?_ nofun nofun
  have hledger := h.ledger
  unfold VdlStream.keys at hledger
  cases hhandle : stream.handle with
  | none =>
    rw [hhandle] at hledger
    exact hledger.concat_other rfl
  | some m =>
    rw [hhandle] at hledger
    exact hledger.concat_closed rfl

/-! ### The driver of a file -/

/-- What is found under the name of a file, which is a driver of the program or a module. -/
def driverAt (ld : Loader) (binding : Binding) (dlIdx : Option ℕ) (file : CString) :
    Option Driver :=
  match locate ld dlIdx file with
  | some i => some (dlsymm ld (some i) none)
  | none => (ld.dlopen binding file).map fun m => dlsymm ld none (some m)

/-- A module is opened, or the driver is found in the program. -/
theorem openModule_of_some (st : LibState) (h : Attached st stream) (hhandle : stream.handle = none)
    (hdrv : driverAt ld binding st.dlIdx file = some drv) :
    ∃ st' stream',
      openModule ld binding { st with dlIdx := locate ld st.dlIdx file } stream file =
        some (st', stream') ∧
      Attached st' stream' ∧ stream'.entries = stream.entries ∧
      dlsymm ld st'.dlIdx stream'.handle = drv := by
  unfold driverAt at hdrv
  unfold openModule
  cases hloc : locate ld st.dlIdx file with
  | some i =>
    rw [hloc] at hdrv
    refine ⟨_, _, rfl, h.setIdx _, rfl, ?_⟩
    rw [hhandle]
    exact Option.some.inj hdrv
  | none =>
    rw [hloc] at hdrv
    cases hopen : ld.dlopen binding file with
    | none =>
      rw [hopen] at hdrv
      cases hdrv
    | some m =>
      rw [hopen] at hdrv
      exact ⟨_, _, rfl, (h.setIdx _).opened hhandle m, rfl, Option.some.inj hdrv⟩

theorem openModule_of_none (st : LibState) (stream : VdlStream)
    (hdrv : driverAt ld binding st.dlIdx file = none) :
    openModule ld binding { st with dlIdx := locate ld st.dlIdx file } stream file = none ∧
      locate ld st.dlIdx file = none := by
  unfold driverAt at hdrv
  unfold openModule
  cases hloc : locate ld st.dlIdx file with
  | some i =>
    rw [hloc] at hdrv
    cases hdrv
  | none =>
    rw [hloc] at hdrv
    cases hopen : ld.dlopen binding file with
    | none => exact ⟨rfl, rfl⟩
    | some m =>
      rw [hopen] at hdrv
      cases hdrv

/-! ### The search -/

/-- The first file of a directory that is accepted.  `dl_idx` matters to the first file only. -/
def firstAccepted (ld : Loader) (path : CString) (cap : UInt32) (verbose : ℤ) :
    List CString → Option ℕ → Option Driver
  | [], _ => none
  | name :: names, dlIdx =>
    if name.head? = some '.' then firstAccepted ld path cap verbose names dlIdx
    else
      ((driverAt ld .lazy dlIdx (drvName path name)).filter (probeOk · cap verbose)).or
        (firstAccepted ld path cap verbose names none)

/-- What a probe, or a search, leaves behind when it is to find `found`. -/
structure Found (ld : Loader) (stream : VdlStream) (found : Option Driver)
    (r : Bool × LibState × VdlStream) : Prop where
  ok : r.1 = found.isSome
  attached : Attached r.2.1 r.2.2
  entries : r.2.2.entries = stream.entries
  driver : ∀ drv, found = some drv → dlsymm ld r.2.1.dlIdx r.2.2.handle = drv
  nothing : found = none → r.2.2.handle = none

theorem Found.of_none {st' : LibState} {stream' : VdlStream} (h : Attached st' stream')
    (hentries : stream'.entries = stream.entries) (hhandle : stream'.handle = none) :
    Found ld stream none (false, st', stream') where
  ok := rfl
  attached := h
  entries := hentries
  driver _ hfound := nomatch hfound
  nothing _ := hhandle

theorem Found.of_some {st' : LibState} {stream' : VdlStream} (h : Attached st' stream')
    (hentries : stream'.entries = stream.entries)
    (hdrv : dlsymm ld st'.dlIdx stream'.handle = drv) :
    Found ld stream (some drv) (true, st', stream') where
  ok := rfl
  attached := h
  entries := hentries
  driver _ hfound := hdrv.trans (Option.some.inj hfound)
  nothing hfound := nomatch hfound

theorem vdlProbeDriver_found (ld : Loader) (path name : CString) (cap : UInt32) (verbose : ℤ)
    (h : Attached st stream) (hhandle : stream.handle = none) :
    Found ld stream
        ((driverAt ld .lazy st.dlIdx (drvName path name)).filter (probeOk · cap verbose))
        (vdlProbeDriver ld st stream path name cap verbose) ∧
      ((vdlProbeDriver ld st stream path name cap verbose).1 = false →
        (vdlProbeDriver ld st stream path name cap verbose).2.1.dlIdx = none) := by
  unfold vdlProbeDriver
  cases hdrv : driverAt ld .lazy st.dlIdx (drvName path name) with
  | none =>
    obtain ⟨hopen, hloc⟩ := openModule_of_none st stream hdrv
    have hstream : ({ stream with handle := none } : VdlStream) = stream := by
      rw [← hhandle]
    dsimp only
    rw [hopen]
    dsimp only
    rw [hstream]
    exact ⟨.of_none (h.setIdx _) rfl hhandle, fun _ => hloc⟩
  | some drv =>
    obtain ⟨st', stream', hopen, hatt, hentries, hsym⟩ := openModule_of_some st h hhandle hdrv
    dsimp only
    rw [hopen]
    dsimp only
    rw [hsym, Option.filter_some]
    by_cases hok : probeOk drv cap verbose = true
    · rw [if_pos hok, if_pos hok]
      exact ⟨.of_some hatt hentries hsym, fun hfalse => nomatch hfalse⟩
    · rw [if_neg hok, if_neg hok]
      exact ⟨.of_none (hatt.closed.setIdx none) hentries rfl, fun _ => rfl⟩

theorem findLoop_found (names : List CString) (h : Attached st stream)
    (hhandle : stream.handle = none) :
    Found ld stream (firstAccepted ld path cap verbose names st.dlIdx)
      (findLoop ld path cap verbose names st stream) := by
  induction names generalizing st stream with
  | nil => exact .of_none h rfl hhandle
  | cons name names ih =>
    rw [findLoop, firstAccepted]
    by_cases hdot : name.head? = some '.'
    · rw [if_pos hdot, if_pos hdot]
      exact ih h hhandle
    · rw [if_neg hdot, if_neg hdot]
      obtain ⟨hprobe, hidx⟩ := vdlProbeDriver_found ld path name cap verbose h hhandle
      generalize vdlProbeDriver ld st stream path name cap verbose = r at hprobe hidx ⊢
      generalize (driverAt ld .lazy st.dlIdx (drvName path name)).filter
        (probeOk · cap verbose) = found at hprobe ⊢
      obtain ⟨ok, st', stream'⟩ := r
      cases found with
      | some drv =>
        obtain rfl : ok = true := hprobe.ok
        exact hprobe
      | none =>
        -- a file that is not accepted leaves `dl_idx` at -1
        obtain rfl : ok = false := hprobe.ok
        have hrest := ih hprobe.attached (hprobe.nothing rfl)
        rw [show st'.dlIdx = none from hidx rfl] at hrest
        exact ⟨hrest.ok, hrest.attached, hrest.entries.trans hprobe.entries, hrest.driver,
          hrest.nothing⟩

theorem vdlFindDriver_found (ld : Loader) (path : CString) (cap : UInt32) (verbose : ℤ)
    (h : Attached st stream) (hhandle : stream.handle = none) :
    Found ld stream
      ((ld.opendir path).bind fun names => firstAccepted ld path cap verbose names st.dlIdx)
      (vdlFindDriver ld st stream path cap verbose) := by
  unfold vdlFindDriver
  cases ld.opendir path with
  | none => exact .of_none h rfl hhandle
  | some names => exact findLoop_found names h hhandle

/-! ### The clean-up -/

/-- The events of a call of `vdlOpen`, and of `vdlClose` if it succeeded. -/
def finish (r : Option VdlStream × LibState) : Option VdlStream × List VdlEvent :=
  match r.1 with
  | none => (none, r.2.events)
  | some stream => (some stream, (vdlClose r.2 stream).events)

/-- What is owed to the driver and to the loader; `r` is the stream, if `vdlOpen` succeeded, and
the events until then or, if it succeeded, until it has been closed. -/
structure LifeCycle (r : Option VdlStream × List VdlEvent) : Prop where
  /-- Every handle that was opened has been closed, once for each time it was opened. -/
  settled : Open moduleEntry r.2 []
  destroy_once : r.2.count .destroy ≤ 1
  /-- Before `vixDestroy` is called, `vixInit` has returned 0, or a driver without it is in use. -/
  destroy_after_init : ∀ pre, pre ++ [.destroy] <+: r.2 →
    .init 0 ∈ pre ∨ ∃ stream, r.1 = some stream ∧ stream.entries.init = none

/-- The only place of an element. -/
theorem eq_of_append_cons {α : Type*} {x : α} {as bs pre post : List α} (has : x ∉ as)
    (hbs : x ∉ bs) (h : pre ++ x :: post = as ++ x :: bs) : pre = as := by
  rcases List.append_eq_append_iff.mp h with ⟨ys, rfl, hys⟩ | ⟨ys, rfl, hys⟩
  · cases ys with
    | nil => exact (List.append_nil _).symm
    | cons y ys =>
      obtain ⟨rfl, -⟩ := List.cons.inj hys
      exact absurd (List.mem_append_right _ List.mem_cons_self) has
  · cases ys with
    | nil => exact List.append_nil _
    | cons y ys =>
      obtain ⟨rfl, rfl⟩ := List.cons.inj hys
      exact absurd (List.mem_append_right _ List.mem_cons_self) hbs

/-- What `vdlClose` does to the module. -/
def closeEvents (stream : VdlStream) : List VdlEvent :=
  match stream.handle with
  | some m => [.closed (some m.handle)]
  | none => []

theorem destroy_not_mem_closeEvents (stream : VdlStream) : .destroy ∉ closeEvents stream := by
  unfold closeEvents
  cases stream.handle with
  | none => exact List.not_mem_nil
  | some m =>
    intro h
    cases List.mem_singleton.mp h

theorem vdlClose_events (st : LibState) (stream : VdlStream) :
    (vdlClose st stream).events =
      st.events ++ (if stream.entries.destroy then [.destroy] else []) ++ closeEvents stream := by
  unfold vdlClose closeEvents
  cases stream.handle <;> cases stream.entries.destroy <;> simp [LibState.log]

theorem vdlClose_ledger (h : Open moduleEntry st.events stream.keys) :
    Open moduleEntry (vdlClose st stream).events [] := by
  have hdestroy : Open moduleEntry
      (st.events ++ if stream.entries.destroy then [.destroy] else []) stream.keys := by
    cases stream.entries.destroy with
    | false =>
      rw [if_neg (by decide), List.append_nil]
      exact h
    | true => exact h.concat_other rfl
  rw [vdlClose_events]
  unfold closeEvents
  unfold VdlStream.keys at hdestroy
  cases hhandle : stream.handle with
  | none =>
    rw [hhandle] at hdestroy
    rw [List.append_nil]
    exact hdestroy
  | some m =>
    rw [hhandle] at hdestroy
    exact hdestroy.concat_closed rfl

/-- Closing a stream is right iff it has no `vixDestroy`, or `vixInit` has returned 0, or the stream
is in use without one. -/
theorem lifeCycle_close (stream : VdlStream) (ret : Option VdlStream)
    (hledger : Open moduleEntry st.events stream.keys) (hdestroy : .destroy ∉ st.events) :
    LifeCycle (ret, (vdlClose st stream).events) ↔
      (stream.entries.destroy = true →
        .init 0 ∈ st.events ∨ ∃ s, ret = some s ∧ s.entries.init = none) := by
  have hclose := destroy_not_mem_closeEvents stream
  constructor
  · intro h hd
    refine h.destroy_after_init st.events ?_
    rw [vdlClose_events, hd, if_pos rfl]
    exact List.prefix_append _ _
  · intro h
    refine ⟨vdlClose_ledger hledger, ?_, fun pre hpre => ?_⟩
    · dsimp only
      rw [vdlClose_events, List.count_append, List.count_append, List.count_eq_zero.mpr hdestroy,
        List.count_eq_zero.mpr hclose]
      split_ifs <;> decide
    · dsimp only at hpre
      rw [vdlClose_events] at hpre
      cases hd : stream.entries.destroy with
      | true =>
        -- the only `destroy` is the one of `vdlClose`, so that `pre` is what came before
        rw [hd, if_pos rfl, List.append_assoc, List.singleton_append] at hpre
        obtain ⟨post, hpost⟩ := hpre
        rw [List.append_assoc, List.singleton_append] at hpost
        rw [eq_of_append_cons hdestroy hclose hpost]
        exact h hd
      | false =>
        rw [hd, if_neg (by decide), List.append_nil] at hpre
        have hmem := hpre.subset (List.mem_append_right pre List.mem_cons_self)
        rcases List.mem_append.mp hmem with hmem | hmem
        · exact absurd hmem hdestroy
        · exact absurd hmem hclose

/-! ### The life cycle -/

/-- The driver can be closed: it has no `vixDestroy`, or it has all features required and its
initialisation, if any, succeeds. -/
def EntryPoints.Orderly (e : EntryPoints) (args : Option CString) : Prop :=
  e.destroy = true → e.viable = true ∧ ∀ init, e.init = some init → init args = 0

/-- Without entry points there is nothing to go wrong. -/
theorem lifeCycle_failed (h : Attached st stream) (hentries : stream.entries = .null) :
    LifeCycle (finish (none, vdlClose st stream)) := by
  refine (lifeCycle_close stream none h.ledger h.no_destroy).mpr fun hdestroy => ?_
  rw [hentries] at hdestroy
  cases hdestroy

theorem fillAndInit_lifeCycle (h : Attached st stream)
    (hdrv : dlsymm ld st.dlIdx stream.handle = drv) :
    LifeCycle (finish (fillAndInit ld st stream args)) ↔ drv.Orderly args := by
  unfold fillAndInit vdlFillDriver EntryPoints.Orderly
  rw [hdrv]
  dsimp only
  generalize hfilled : ({ stream with entries := drv.toEntryPoints } : VdlStream) = filled
  have hkeys : filled.keys = stream.keys := by rw [← hfilled, VdlStream.keys, VdlStream.keys]
  have hentries : filled.entries = drv.toEntryPoints := by rw [← hfilled]
  have hledger := h.ledger
  rw [← hkeys] at hledger
  cases hviable : drv.viable with
  | false =>
    -- the clean-up comes before `vixInit` has been called
    rw [Bool.not_false, if_pos rfl]
    refine (lifeCycle_close filled none hledger h.no_destroy).trans ?_
    rw [hentries]
    constructor
    · intro hclose hdestroy
      rcases hclose hdestroy with hinit | ⟨s, hs, -⟩
      · exact absurd hinit (h.no_init 0)
      · cases hs
    · intro horderly hdestroy
      cases (horderly hdestroy).1
  | true =>
    rw [Bool.not_true, if_neg (by decide)]
    cases hinit : drv.init with
    | none =>
      refine iff_of_true ?_ fun _ => ⟨rfl, fun init hsome => by cases hsome⟩
      refine (lifeCycle_close filled _ hledger h.no_destroy).mpr fun _ => Or.inr ⟨_, rfl, ?_⟩
      rw [hentries]
      exact hinit
    | some init =>
      dsimp only
      -- the events now end with the result of `vixInit`
      replace hledger : Open moduleEntry (st.log (.init (init args))).events filled.keys :=
        hledger.concat_other rfl
      have hdestroy : .destroy ∉ (st.log (.init (init args))).events := by
        intro hmem
        rcases List.mem_append.mp hmem with hmem | hmem
        · exact h.no_destroy hmem
        · cases List.mem_singleton.mp hmem
      by_cases hret : init args = 0
      · rw [if_neg (not_not_intro hret)]
        refine iff_of_true ?_ fun _ => ⟨rfl, fun init' hsome => ?_⟩
        · refine (lifeCycle_close filled _ hledger hdestroy).mpr fun _ => Or.inl ?_
          rw [← hret]
          exact List.mem_append_right _ List.mem_cons_self
        · rw [← Option.some.inj hsome]
          exact hret
      · rw [if_pos hret]
        refine (lifeCycle_close filled none hledger hdestroy).trans ?_
        rw [hentries]
        constructor
        · intro hclose hd
          rcases hclose hd with hmem | ⟨s, hs, -⟩
          · rcases List.mem_append.mp hmem with hmem | hmem
            · exact absurd hmem (h.no_init 0)
            · exact absurd (VdlEvent.init.inj (List.mem_singleton.mp hmem)).symm hret
          · cases hs
        · intro horderly hd
          exact absurd ((horderly hd).2 init rfl) hret

/-- The checks of `vdlOpen` on a driver that the caller has named. -/
def namedOk (drv : Driver) (verbose : ℤ) : Bool :=
  drv.getVersion = some vidixVersion &&
    match drv.probe with
    | none => false
    | some probe => probe verbose probeForce = 0

/-- The driver whose entry points a call of `vdlOpen` fetches: the one that the caller has named, or
the first in the directory, if it passes the checks. -/
def chosen (ld : Loader) (dlIdx : Option ℕ) (path : CString) (name : Option CString)
    (cap : UInt32) (verbose : ℤ) : Option Driver :=
  match name with
  | some name =>
    (driverAt ld .now dlIdx (drvName path (splitName name).1)).filter (namedOk · verbose)
  | none =>
    (ld.opendir path).bind fun names => firstAccepted ld path cap verbose names dlIdx

/-- What is passed to `vixInit`. -/
def openArgs (name : Option CString) : Option CString := name.bind fun name => (splitName name).2

theorem version_eq_iff (drv : Driver) :
    drv.getVersion.getD 0 = vidixVersion ↔ drv.getVersion = some vidixVersion := by
  cases drv.getVersion with
  | none => decide
  | some version => simp

theorem openNamed_lifeCycle (dlIdx : Option ℕ) :
    LifeCycle (finish (openNamed ld ⟨dlIdx, []⟩ path name args verbose)) ↔
      ∀ drv, (driverAt ld .now dlIdx (drvName path name)).filter (namedOk · verbose) = some drv →
        drv.Orderly args := by
  have hnull := attached_null dlIdx
  unfold openNamed serve
  cases hdrv : driverAt ld .now dlIdx (drvName path name) with
  | none =>
    obtain ⟨hopen, -⟩ := openModule_of_none ⟨dlIdx, []⟩ .null hdrv
    dsimp only at hopen ⊢
    rw [hopen]
    exact iff_of_true (lifeCycle_failed (hnull.setIdx _) rfl) fun drv hsome => by cases hsome
  | some drv =>
    obtain ⟨st, stream, hopen, hatt, hentries, hsym⟩ :=
      openModule_of_some ⟨dlIdx, []⟩ hnull rfl hdrv
    have hfailed := lifeCycle_failed hatt hentries
    dsimp only at hopen ⊢
    rw [hopen]
    dsimp only
    rw [hsym, Option.filter_some, namedOk]
    by_cases hversion : drv.getVersion = some vidixVersion
    · rw [if_neg (not_not_intro ((version_eq_iff drv).mpr hversion)), hversion]
      cases hprobe : drv.probe with
      | none =>
        rw [if_neg (by simp)]
        exact iff_of_true hfailed fun drv hsome => by cases hsome
      | some probe =>
        dsimp only
        by_cases hret : probe verbose probeForce = 0
        · rw [if_neg (not_not_intro hret), if_pos (by simp [hret])]
          refine (fillAndInit_lifeCycle hatt hsym).trans ?_
          exact ⟨fun h drv' hsome => Option.some.inj hsome ▸ h, fun h => h drv rfl⟩
        · rw [if_pos hret, if_neg (by simp [hret])]
          exact iff_of_true hfailed fun drv hsome => by cases hsome
    · rw [if_pos (fun h => hversion ((version_eq_iff drv).mp h)), if_neg (by simp [hversion])]
      exact iff_of_true hfailed fun drv hsome => by cases hsome

/-- `vdlOpen`, and `vdlClose` if it succeeded. -/
def openClose (ld : Loader) (memory : Bool) (dlIdx : Option ℕ) (path : CString)
    (name : Option CString) (cap : UInt32) (verbose : ℤ) : Option VdlStream × List VdlEvent :=
  let (stream, _, st) := vdlOpen ld memory ⟨dlIdx, []⟩ path name cap verbose
  finish (stream, st)

/-- **The life cycle is as it should be iff the driver that is chosen can be closed.** -/
theorem openClose_lifeCycle_iff (ld : Loader) (memory : Bool) (dlIdx : Option ℕ) (path : CString)
    (name : Option CString) (cap : UInt32) (verbose : ℤ) :
    LifeCycle (openClose ld memory dlIdx path name cap verbose) ↔
      (memory = true → ∀ drv, chosen ld dlIdx path name cap verbose = some drv →
        drv.Orderly (openArgs name)) := by
  unfold openClose vdlOpen
  cases memory with
  | false =>
    refine iff_of_true (?_ : LifeCycle (none, [])) fun h => by cases h
    refine ⟨open_nil, Nat.zero_le _, fun pre hpre => ?_⟩
    exact absurd (List.prefix_nil.mp hpre) (List.append_ne_nil_of_right_ne_nil _ (by simp))
  | true =>
    rw [Bool.not_true, if_neg (by decide)]
    simp only [true_implies]
    cases name with
    | some name => exact openNamed_lifeCycle dlIdx
    | none =>
      have hfound := vdlFindDriver_found ld path cap verbose (attached_null dlIdx) rfl
      dsimp only [chosen] at hfound ⊢
      generalize vdlFindDriver ld ⟨dlIdx, []⟩ .null path cap verbose = r at hfound ⊢
      generalize ((ld.opendir path).bind fun names =>
        firstAccepted ld path cap verbose names dlIdx) = found at hfound ⊢
      obtain ⟨ok, st, stream⟩ := r
      cases found with
      | none =>
        obtain rfl : ok = false := hfound.ok
        exact iff_of_true (lifeCycle_failed hfound.attached hfound.entries)
          fun drv hsome => by cases hsome
      | some drv =>
        obtain rfl : ok = true := hfound.ok
        refine (fillAndInit_lifeCycle hfound.attached (hfound.driver drv rfl)).trans ?_
        exact ⟨fun h drv' hsome => Option.some.inj hsome ▸ h, fun h => h drv rfl⟩

/-- A driver as `s3_vid` is on a board whose memory it does not know: `vixInit` has called
`vixDestroy` itself when it returns -1. -/
def s3Driver : Driver where
  init := some fun _ => -1
  destroy := true
  getCaps := some (0, 1)
  queryFourcc := true
  configPlayback := true
  playbackOn := true
  playbackOff := true
  getVersion := some 150
  probe := some fun _ _ => 0

/-- The library is built with shared drivers, and this is the only one. -/
def s3Loader : Loader where
  dlopen _ file :=
    if file = "/usr/lib/vidix/s3_vid.so".toList then some ⟨1, fun _ => s3Driver⟩ else none
  program _ := { EntryPoints.null with getVersion := none, probe := none }
  drvSnames := []
  opendir _ := none

/-- **The driver is destroyed although its initialisation has failed.** -/
theorem openClose_destroys :
    (openClose s3Loader true none "/usr/lib/vidix/".toList (some "s3_vid.so".toList) 0 0).2 =
        [.opened 1, .init (-1), .destroy, .closed (some 1)] ∧
      ¬ LifeCycle
        (openClose s3Loader true none "/usr/lib/vidix/".toList (some "s3_vid.so".toList) 0 0) := by
  have hrun :
      (fun r : Option VdlStream × List VdlEvent => (r.1.isNone, r.2))
          (openClose s3Loader true none "/usr/lib/vidix/".toList (some "s3_vid.so".toList) 0 0) =
        (true, [.opened 1, .init (-1), .destroy, .closed (some 1)]) := by
    decide +kernel
  obtain ⟨hfailed, hevents⟩ := Prod.mk.inj hrun
  refine ⟨hevents, fun h => ?_⟩
  have hpre := h.destroy_after_init [.opened 1, .init (-1)]
  rw [hevents] at hpre
  rcases hpre (by simp) with hinit | ⟨stream, hstream, -⟩
  · exact absurd hinit (by decide)
  · rw [hstream] at hfailed
    cases hfailed

end Vidix.Vidixlib
