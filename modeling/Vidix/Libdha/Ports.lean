import Vidix.Dhahelper.Port

/-!
# `ports.c` with the Linux helper

`enable_app_io` and `disable_app_io`, and the port accesses `INPORT8` to `OUTPORT32`, for a library
that is built with `CONFIG_LINUXHELPER`.  While `/dev/dhahelper` is open the accesses go through the
helper; else the process makes them itself, at the I/O privilege level that `iopl` has given it.
-/

namespace Vidix.Libdha

open Dhahelper

/-! ### The permission -/

/-- `dhahelper_fd` and `dhahelper_counter`, the descriptors that are open for the helper, and the
I/O privilege level. -/
structure AppIo where
  dhahelperFd : ℤ
  dhahelperCounter : UInt32
  openFds : List ℕ
  ioplLevel : ℕ
  deriving DecidableEq, Repr

def AppIo.start : AppIo := ⟨-1, 0, [], 0⟩

/-- `iopl`.  The kernel asks for a privilege when the level is raised. -/
def iopl (privileged : Bool) (level : ℕ) (st : AppIo) : ℤ × AppIo :=
  if st.ioplLevel < level && !privileged then (-1, st) else (0, { st with ioplLevel := level })

/-- `enable_os_io`; `errno` is `EPERM`. -/
def enableOsIo (privileged : Bool) (st : AppIo) : ℤ × AppIo :=
  let (ret, st) := iopl privileged 3 st
  if ret ≠ 0 then (eperm, st) else (0, st)

/-- `disable_os_io`. -/
def disableOsIo (privileged : Bool) (st : AppIo) : ℤ × AppIo :=
  let (ret, st) := iopl privileged 0 st
  if ret ≠ 0 then (eperm, st) else (0, st)

/-- `enable_app_io`; `opened` is the descriptor that `open` returns, if it succeeds. -/
def enableAppIo (opened : Option ℕ) (privileged : Bool) (st : AppIo) : ℤ × AppIo :=
  match opened with
  | none => enableOsIo privileged { st with dhahelperFd := -1 }
  | some fd =>
    (0, { st with
      dhahelperFd := fd, openFds := fd :: st.openFds
      dhahelperCounter := st.dhahelperCounter + 1 })

/-- `disable_app_io`. -/
def disableAppIo (privileged : Bool) (st : AppIo) : ℤ × AppIo :=
  let st := { st with dhahelperCounter := st.dhahelperCounter - 1 }
  if 0 < st.dhahelperFd then
    if st.dhahelperCounter = 0 then
      (0, { st with
        dhahelperFd := -1, openFds := st.openFds.filter fun fd => (fd : ℤ) ≠ st.dhahelperFd })
    else (0, st)
  else disableOsIo privileged st

/-! ### The accesses -/

/-- What decides the way of an access. -/
structure HelperLink where
  /-- `dhahelper_fd`. -/
  dhahelperFd : ℤ
  /-- Whether `ioctl` gets as far as the handler. -/
  reached : Bool
  readable : Readable
  writable : Readable
  /-- `_port.value` before it is set. -/
  stack : Int32

/-- `ioctl(dhahelper_fd, DHAHELPER_PORT, &_port)`. -/
def ioctlPort (hw : PortHardware) (h : HelperLink) (trace : List PortAccess)
    (arg : DhahelperPort) : ℤ × List PortAccess × DhahelperPort :=
  if !h.reached then (-1, trace, arg)
  else
    let (ret, trace, arg) := dhahelperPort hw h.readable h.writable trace arg
    (ioctlResult ret, trace, arg)

/-- The request of an `INPORT` of `size` bytes. -/
def inRequest (size : ℕ) (h : HelperLink) (idx : UInt32) : DhahelperPort :=
  { operation := portOpRead, addr := idx.toInt32, size := Int32.ofNat size, value := h.stack }

/-- The request of an `OUTPORT` of `size` bytes. -/
def outRequest (size : ℕ) (idx val : UInt32) : DhahelperPort :=
  { operation := portOpWrite, addr := idx.toInt32, size := Int32.ofNat size,
    value := val.toInt32 }

/-- The `INPORT` functions before the value is cut to the type that they return. -/
def inport (size : ℕ) (hw : PortHardware) (h : HelperLink) (idx : UInt32)
    (trace : List PortAccess) : UInt32 × List PortAccess :=
  if 0 < h.dhahelperFd then
    let (ret, trace, port) := ioctlPort hw h trace (inRequest size h idx)
    if ret = 0 then (port.value.toUInt32, trace) else portIn hw size idx.toUInt16 trace
  else portIn hw size idx.toUInt16 trace

/-- The `OUTPORT` functions with a value that is widened to `int`. -/
def outport (size : ℕ) (hw : PortHardware) (h : HelperLink) (idx val : UInt32)
    (trace : List PortAccess) : List PortAccess :=
  if 0 < h.dhahelperFd then
    -- `if (ioctl(..) == 0) return;`, and the direct access stands in the `else` of the other `if`
    (ioctlPort hw h trace (outRequest size idx val)).2.1
  else portOut size idx.toUInt16 val trace

def inport8 (hw : PortHardware) (h : HelperLink) (idx : UInt32) (trace : List PortAccess) :
    UInt8 × List PortAccess :=
  ((inport 1 hw h idx trace).1.toUInt8, (inport 1 hw h idx trace).2)

def inport16 (hw : PortHardware) (h : HelperLink) (idx : UInt32) (trace : List PortAccess) :
    UInt16 × List PortAccess :=
  ((inport 2 hw h idx trace).1.toUInt16, (inport 2 hw h idx trace).2)

def inport32 (hw : PortHardware) (h : HelperLink) (idx : UInt32) (trace : List PortAccess) :
    UInt32 × List PortAccess :=
  inport 4 hw h idx trace

def outport8 (hw : PortHardware) (h : HelperLink) (idx : UInt32) (val : UInt8)
    (trace : List PortAccess) : List PortAccess :=
  outport 1 hw h idx val.toUInt32 trace

def outport16 (hw : PortHardware) (h : HelperLink) (idx : UInt32) (val : UInt16)
    (trace : List PortAccess) : List PortAccess :=
  outport 2 hw h idx val.toUInt32 trace

def outport32 (hw : PortHardware) (h : HelperLink) (idx val : UInt32)
    (trace : List PortAccess) : List PortAccess :=
  outport 4 hw h idx val trace

end Vidix.Libdha
