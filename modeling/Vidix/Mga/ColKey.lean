import Vidix.Mga.Config
import Mathlib.Logic.Function.Basic

/-!
# `mga_vid.c`: the colour key registers

`mga_vid_write_regs` in the build that defines `BES`, and the calls from which it is reached, from
`vixInit` to `vixDestroy`.  The DAC has an index register and a data port, so that each access to
one of its registers is a pair of accesses to the memory of the card.  The registers of the scaler,
which are not the DAC's, are left out.
-/

namespace Vidix.Mga

/-! ### The DAC -/

/-- The registers of the DAC, and the one that is selected. -/
structure Dac where
  index : UInt8
  regs : UInt8 → UInt8

/-- `writeb(PALWTADD, reg)`. -/
def Dac.select (dac : Dac) (reg : UInt8) : Dac := { dac with index := reg }

/-- `readb(X_DATAREG)`. -/
def Dac.readData (dac : Dac) : UInt8 := dac.regs dac.index

/-- `writeb(X_DATAREG, val)`. -/
def Dac.writeData (dac : Dac) (val : UInt8) : Dac :=
  { dac with regs := Function.update dac.regs dac.index val }

/-- `writeb(PALWTADD, reg); writeb(X_DATAREG, val);`. -/
def Dac.write (dac : Dac) (reg val : UInt8) : Dac := (dac.select reg).writeData val

/-- `writeb(PALWTADD, reg); .. readb(X_DATAREG)`. -/
def Dac.read (dac : Dac) (reg : UInt8) : UInt8 := (dac.select reg).readData

def xmulctrl : UInt8 := 0x19
def xcolmsk : UInt8 := 0x40
def xColkey : UInt8 := 0x42
def xkeyopmode : UInt8 := 0x51
def xcolmsk0red : UInt8 := 0x52
def xcolmsk0green : UInt8 := 0x53
def xcolmsk0blue : UInt8 := 0x54
def xcolkey0red : UInt8 := 0x55
def xcolkey0green : UInt8 := 0x56
def xcolkey0blue : UInt8 := 0x57

/-! ### Saving and restoring -/

/-- `colkey_on`, `colkey_color` and `colkey_mask`. -/
structure ColKey where
  on : UInt8
  color : Vector UInt8 4
  mask : Vector UInt8 4
  deriving DecidableEq, Repr

/-- "Get color key registers". -/
def Dac.colKey (dac : Dac) : ColKey where
  on := dac.read xkeyopmode &&& 1
  color := #v[dac.read xcolkey0red, dac.read xcolkey0green, dac.read xcolkey0blue,
    dac.read xColkey]
  mask := #v[dac.read xcolmsk0red, dac.read xcolmsk0green, dac.read xcolmsk0blue,
    dac.read xcolmsk]

/-- "Set color key registers". -/
def Dac.setColKey (dac : Dac) (key : ColKey) : Dac :=
  let dac := dac.write xkeyopmode key.on
  let dac := dac.write xcolkey0red key.color[0]
  let dac := dac.write xcolkey0green key.color[1]
  let dac := dac.write xcolkey0blue key.color[2]
  let dac := dac.write xColkey key.color[3]
  let dac := dac.write xcolmsk0red key.mask[0]
  let dac := dac.write xcolmsk0green key.mask[1]
  let dac := dac.write xcolmsk0blue key.mask[2]
  dac.write xcolmsk key.mask[3]

/-! ### The key of the application -/

/-- The `switch` over the depth of the screen, a value of `XMULCTRL`. -/
def keyColor (ckey : VidixCkey) (mulctrl : UInt8) : UInt8 × UInt8 × UInt8 :=
  if mulctrl = 1 then (ckey.red >>> 3, ckey.green >>> 3, ckey.blue >>> 3)
  else if mulctrl = 2 then (ckey.red >>> 3, ckey.green >>> 2, ckey.blue >>> 3)
  else if mulctrl = 3 ∨ mulctrl = 4 ∨ mulctrl = 7 then (ckey.red, ckey.green, ckey.blue)
  -- the colour index that `BPP_8` asks for is not looked up
  else (0, 0, 0)

/-- What `if (!restore)` does. -/
def Dac.setKey (dac : Dac) (ckey : VidixCkey) : Dac :=
  let dac := dac.write xkeyopmode (if ckey.op = ckeyTrue then 1 else 0)
  if ckey.op = ckeyTrue then
    let dac := dac.select xmulctrl
    let (r, g, b) := keyColor ckey dac.readData
    -- "Disable color keying on alpha channel"
    let dac := (dac.write xcolmsk 0x00).write xColkey 0x00
    let dac := ((dac.write xcolkey0red r).write xcolkey0green g).write xcolkey0blue b
    ((dac.write xcolmsk0red 0xff).write xcolmsk0green 0xff).write xcolmsk0blue 0xff
  else dac

/-! ### The driver -/

/-- The static variables that the key registers depend on, and the DAC. -/
structure State where
  driver : Driver
  mgaGrkey : VidixCkey
  vidOverlayOn : Bool
  colkeySaved : Bool
  colkey : ColKey
  dac : Dac

/-- `mga_vid_write_regs`. -/
def State.mgaVidWriteRegs (s : State) (restore : Bool) : State :=
  let s :=
    if restore && s.colkeySaved then
      { s with colkeySaved := false, dac := s.dac.setColKey s.colkey }
    else if !s.colkeySaved then
      { s with colkeySaved := true, colkey := s.dac.colKey, dac := s.dac.select xcolmsk }
    else s
  if restore then s else { s with dac := s.dac.setKey s.mgaGrkey }

/-- The calls of an application between `vixInit` and `vixDestroy`. -/
inductive Call where
  | configPlayback (config : VidixPlayback)
  | setGrKeys (grkey : VidixCkey)
  | playbackOn
  | playbackOff
  | playbackFrameSelect (frame : UInt32)
  deriving DecidableEq, Repr

def State.call (s : State) : Call → State
  | .configPlayback config =>
    let (err, driver, _) := vixConfigPlayback s.driver config
    let s := { s with driver := driver }
    if err = 0 then s.mgaVidWriteRegs false else s
  | .setGrKeys grkey => { s with mgaGrkey := grkey }.mgaVidWriteRegs false
  | .playbackOn => if s.vidOverlayOn then s.mgaVidWriteRegs false else s
  | .playbackOff => s.mgaVidWriteRegs false
  -- the frame is written to `BESCTL`
  | .playbackFrameSelect _ => s

/-- A session: what `vixInit` finds, and the calls that are made before `vixDestroy`. -/
structure Session where
  mgaRamSize : RamSize
  mgaMemBase : UInt64
  /-- The DAC as other programs have left it. -/
  dac : Dac
  calls : List Call

/-- `vixInit`, which writes to no register of the DAC. -/
def State.vixInit (s : State) (session : Session) : State :=
  { s with
    driver.mgaRamSize := session.mgaRamSize, driver.mgaMemBase := session.mgaMemBase
    dac := session.dac }

/-- `vixDestroy`. -/
def State.vixDestroy (s : State) : State := s.mgaVidWriteRegs true

def State.session (s : State) (session : Session) : State :=
  (session.calls.foldl State.call (s.vixInit session)).vixDestroy

/-- The driver as it is loaded: its static variables are zero. -/
def State.loaded (driver : Driver) (dac : Dac) : State where
  driver := driver
  mgaGrkey := { op := 0, red := 0, green := 0, blue := 0 }
  vidOverlayOn := false
  colkeySaved := false
  colkey := { on := 0, color := #v[0, 0, 0, 0], mask := #v[0, 0, 0, 0] }
  dac := dac

end Vidix.Mga
