import Mathlib.Data.UInt

/-!
# `vidixlib.c`: opening and closing a driver

`vdlOpen` and `vdlClose` with what they call: the driver is named by the caller, or found by a
search of the driver directory.  The driver modules and the dynamic loader are a parameter
(`Loader`), and so are the names of the drivers that are linked into the program (`drv_snames`,
which is empty unless the library is built with `VIDIX_BUILD_STATIC`).

Of the global variables `dl_idx` is kept; `drv_name` is written before each use.  What happens to
modules and drivers is recorded as a list of events.
-/

namespace Vidix.Vidixlib

/-- A string, without its terminator. -/
abbrev CString := List Char

/-- `VIDIX_VERSION`. -/
def vidixVersion : UInt32 := 150

/-- `PROBE_NORMAL` and `PROBE_FORCE`. -/
def probeNormal : ℤ := 0
def probeForce : ℤ := 1

/-- `FILENAME_MAX`. -/
def filenameMax : ℕ := 4096

/-! ### Drivers -/

/-- The entry points that a stream keeps, as far as opening and closing use them. -/
structure EntryPoints where
  init : Option (Option CString → ℤ)
  destroy : Bool
  /-- The result, and the `type` of the capabilities. -/
  getCaps : Option (ℤ × UInt32)
  queryFourcc : Bool
  configPlayback : Bool
  playbackOn : Bool
  playbackOff : Bool

/-- `memset(stream,0,sizeof(vdl_stream_t))`. -/
def EntryPoints.null : EntryPoints where
  init := none
  destroy := false
  getCaps := none
  queryFourcc := false
  configPlayback := false
  playbackOn := false
  playbackOff := false

/-- What a driver exports. -/
structure Driver extends EntryPoints where
  getVersion : Option UInt32
  /-- The result for a verbosity and a kind of probe. -/
  probe : Option (ℤ → ℤ → ℤ)

/-- A module that has been opened: its handle, and what is exported with a prefix of the names. -/
structure Module where
  handle : ℕ
  driver : CString → Driver

/-- `RTLD_LAZY` and `RTLD_NOW`. -/
inductive Binding
  | lazy
  | now

/-- The dynamic loader and the file system. -/
structure Loader where
  dlopen : Binding → CString → Option Module
  /-- What the program itself exports with a prefix of the names. -/
  program : CString → Driver
  /-- `drv_snames`. -/
  drvSnames : List CString
  /-- The listing of a directory, if it can be opened. -/
  opendir : CString → Option (List CString)

inductive VdlEvent
  | opened (handle : ℕ)
  /-- `dlclose`; a driver of the program has the handle `NULL`. -/
  | closed (handle : Option ℕ)
  | init (errcode : ℤ)
  | destroy
  deriving DecidableEq, Repr

/-- `dl_idx` (`none` for -1), and the events so far. -/
structure LibState where
  dlIdx : Option ℕ
  events : List VdlEvent

def LibState.log (st : LibState) (ev : VdlEvent) : LibState :=
  { st with events := st.events ++ [ev] }

/-- `vdl_stream_t`. -/
structure VdlStream where
  handle : Option Module
  entries : EntryPoints

def VdlStream.null : VdlStream := ⟨none, .null⟩

/-! ### Names -/

/-- `strncpy` of the path and `strncat` of the name into `drv_name`. -/
def drvName (path name : CString) : CString := (path ++ name).take (filenameMax - 1)

/-- What follows the last slash. -/
def afterSlash (s : CString) : Option CString :=
  if '/' ∈ s then some (s.reverse.takeWhile (· ≠ '/')).reverse else none

/-- The search for the file's name in `drv_snames`; without a slash `dl_idx` stays. -/
def locate (ld : Loader) (dlIdx : Option ℕ) (file : CString) : Option ℕ :=
  match afterSlash file with
  | none => dlIdx
  | some base => ld.drvSnames.findIdx? fun sname => sname.isPrefixOf base

/-- The name up to the colon, and the arguments behind it. -/
def splitName (name : CString) : CString × Option CString :=
  if ':' ∈ name then (name.takeWhile (· ≠ ':'), some (name.dropWhile (· ≠ ':')).tail)
  else (name, none)

/-! ### Modules -/

/-- The entry points that `dlsymm` finds. -/
def dlsymm (ld : Loader) (dlIdx : Option ℕ) (handle : Option Module) : Driver :=
  let names := (dlIdx.bind (ld.drvSnames[·]?)).getD []
  match handle with
  | some m => m.driver names
  | none => ld.program names

/-- `if (dl_idx < 0) if(!(handle = dlopen(..)))`: the handle and the state, or the failure. -/
def openModule (ld : Loader) (binding : Binding) (st : LibState) (stream : VdlStream)
    (file : CString) : Option (LibState × VdlStream) :=
  match st.dlIdx with
  | some _ => some (st, stream)
  | none =>
    match ld.dlopen binding file with
    | none => none
    | some m => some (st.log (.opened m.handle), { stream with handle := some m })

/-- The checks of `vdl_probe_driver`. -/
def probeOk (drv : Driver) (cap : UInt32) (verbose : ℤ) : Bool :=
  match drv.getVersion with
  | none => false
  | some version =>
    if version ≠ vidixVersion then false
    else
      match drv.probe with
      | none => false
      | some probe =>
        if probe verbose probeNormal ≠ 0 then false
        else
          match drv.getCaps with
          | none => false
          | some (ret, type) => ret = 0 && type &&& cap = cap

/-- `vdl_probe_driver`. -/
def vdlProbeDriver (ld : Loader) (st : LibState) (stream : VdlStream) (path name : CString)
    (cap : UInt32) (verbose : ℤ) : Bool × LibState × VdlStream :=
  let file := drvName path name
  let st := { st with dlIdx := locate ld st.dlIdx file }
  match openModule ld .lazy st stream file with
  | none => (false, st, { stream with handle := none })
  | some (st, stream) =>
    if probeOk (dlsymm ld st.dlIdx stream.handle) cap verbose then (true, st, stream)
    else
      -- `err:`
      let st := st.log (.closed (stream.handle.map (·.handle)))
      (false, { st with dlIdx := none }, { stream with handle := none })

/-- The loop of `vdl_find_driver` over the names of the directory. -/
def findLoop (ld : Loader) (path : CString) (cap : UInt32) (verbose : ℤ) :
    List CString → LibState → VdlStream → Bool × LibState × VdlStream
  | [], st, stream => (false, st, stream)
  | name :: names, st, stream =>
    -- hidden files, and the entries for the directory and its parent
    if name.head? = some '.' then findLoop ld path cap verbose names st stream
    else
      match vdlProbeDriver ld st stream path name cap verbose with
      | (true, st, stream) => (true, st, stream)
      | (false, st, stream) => findLoop ld path cap verbose names st stream

/-- `vdl_find_driver`. -/
def vdlFindDriver (ld : Loader) (st : LibState) (stream : VdlStream) (path : CString)
    (cap : UInt32) (verbose : ℤ) : Bool × LibState × VdlStream :=
  match ld.opendir path with
  | none => (false, st, stream)
  | some names => findLoop ld path cap verbose names st stream

/-! ### Streams -/

/-- The features without which a driver is not used. -/
def EntryPoints.viable (e : EntryPoints) : Bool :=
  e.getCaps.isSome && e.queryFourcc && e.configPlayback && e.playbackOn && e.playbackOff

/-- `vdl_fill_driver`. -/
def vdlFillDriver (ld : Loader) (st : LibState) (stream : VdlStream) : Bool × VdlStream :=
  let entries := (dlsymm ld st.dlIdx stream.handle).toEntryPoints
  (entries.viable, { stream with entries := entries })

/-- `vdlClose`. -/
def vdlClose (st : LibState) (stream : VdlStream) : LibState :=
  let st := if stream.entries.destroy then st.log .destroy else st
  let st := match stream.handle with
    | some m => st.log (.closed (some m.handle))
    | none => st
  { st with dlIdx := none }

/-- `fill:` and `ok:` of `vdlOpen`. -/
def fillAndInit (ld : Loader) (st : LibState) (stream : VdlStream) (args : Option CString) :
    Option VdlStream × LibState :=
  -- from here on `vdlClose` finds the driver's `vixDestroy` in the stream
  let (viable, stream) := vdlFillDriver ld st stream
  if !viable then (none, vdlClose st stream)
  else
    match stream.entries.init with
    | none => (some stream, st)
    | some init =>
      let errcode := init args
      let st := st.log (.init errcode)
      if errcode ≠ 0 then (none, vdlClose st stream) else (some stream, st)

/-- What an open with a name asks for: a driver of the program, by its place in `drv_snames`, or
else the module in a file; and the arguments of `vixInit`. -/
structure Request where
  driver : Option ℕ
  file : CString
  args : Option CString
  deriving DecidableEq, Repr

/-- `vdlOpen` from the point where the request is known. -/
def serve (ld : Loader) (st : LibState) (req : Request) (verbose : ℤ) :
    Option VdlStream × LibState :=
  let st := { st with dlIdx := req.driver }
  match openModule ld .now st .null req.file with
  | none => (none, vdlClose st .null)
  | some (st, stream) =>
    let drv := dlsymm ld st.dlIdx stream.handle
    if drv.getVersion.getD 0 ≠ vidixVersion then (none, vdlClose st stream)
    else
      match drv.probe with
      | none => (none, vdlClose st stream)
      | some probe =>
        if probe verbose probeForce ≠ 0 then (none, vdlClose st stream)
        else fillAndInit ld st stream req.args

/-- `vdlOpen` with a name that has been split. -/
def openNamed (ld : Loader) (st : LibState) (path name : CString) (args : Option CString)
    (verbose : ℤ) : Option VdlStream × LibState :=
  let file := drvName path name
  serve ld st { driver := locate ld st.dlIdx file, file := file, args := args } verbose

/-- `vdlOpen`: the stream, the caller's name, which is cut at its colon, and the state; `memory`
says whether `malloc` succeeds. -/
def vdlOpen (ld : Loader) (memory : Bool) (st : LibState) (path : CString) (name : Option CString)
    (cap : UInt32) (verbose : ℤ) : Option VdlStream × Option CString × LibState :=
  if !memory then (none, name, st)
  else
    match name with
    | some name =>
      let (name, args) := splitName name
      let (stream, st) := openNamed ld st path name args verbose
      (stream, some name, st)
    | none =>
      match vdlFindDriver ld st .null path cap verbose with
      | (false, st, stream) => (none, none, vdlClose st stream)
      | (true, st, stream) =>
        let (stream, st) := fillAndInit ld st stream none
        (stream, none, st)

end Vidix.Vidixlib
