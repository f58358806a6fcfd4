import Vidix.Vidixlib.Open

/-!
# Opening a driver twice

What `vdlOpen` makes of a name: which driver it goes to and which arguments it hands to the
driver's `vixInit`.  A program that opens, closes and opens again does so with the buffer that the
first call has left.
-/

namespace Vidix.Vidixlib

/-- The request that a name stands for. -/
def request (ld : Loader) (dlIdx : Option ℕ) (path name : CString) : Request :=
  let (name, args) := splitName name
  let file := drvName path name
  { driver := locate ld dlIdx file, file := file, args := args }

/-- The state in which the program can open again. -/
def afterClose (r : Option VdlStream × LibState) : LibState :=
  match r.1 with
  | some stream => vdlClose r.2 stream
  | none => r.2

/-- An open that leaves the caller's name as it is, and after which the name that is left stands
for the same request. -/
structure Repeatable (ld : Loader) (memory : Bool) (st : LibState) (path name : CString)
    (cap : UInt32) (verbose : ℤ) : Prop where
  unchanged : (vdlOpen ld memory st path (some name) cap verbose).2.1 = some name
  again : ∀ stream name' st',
    vdlOpen ld memory st path (some name) cap verbose = (stream, some name', st') →
      request ld (afterClose (stream, st')).dlIdx path name' = request ld st.dlIdx path name

end Vidix.Vidixlib
