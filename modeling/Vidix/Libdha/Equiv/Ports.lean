import Vidix.Libdha.Ports

/-!
# Port accesses with and without the helper

`PortCall.direct` is what each of the functions `INPORT8` to `OUTPORT32` is for: one access, made by
the process itself.  The way through the helper comes to the same (`ioctlPort_in`, `ioctlPort_out`),
and so does the way back after a request that has failed, but for the writes: there the direct
access belongs to the other `if`, and the value is lost.  A call does what it is
for iff it is a read, or the helper is not open, or the request succeeds: `portCall_direct_iff`.
-/

namespace Vidix.Libdha

open Dhahelper

/-- A call of one of the functions. -/
inductive PortCall
  | in8 (idx : UInt32)
  | in16 (idx : UInt32)
  | in32 (idx : UInt32)
  | out8 (idx : UInt32) (val : UInt8)
  | out16 (idx : UInt32) (val : UInt16)
  | out32 (idx : UInt32) (val : UInt32)
  deriving DecidableEq, Repr

/-- The call as it is: the value returned, with zeros in front, if there is one, and the
accesses. -/
def PortCall.run (hw : PortHardware) (h : HelperLink) (trace : List PortAccess) :
    PortCall → Option UInt32 × List PortAccess
  | .in8 idx => ((inport8 hw h idx trace).1.toUInt32, (inport8 hw h idx trace).2)
  | .in16 idx => ((inport16 hw h idx trace).1.toUInt32, (inport16 hw h idx trace).2)
  | .in32 idx => ((inport32 hw h idx trace).1, (inport32 hw h idx trace).2)
  | .out8 idx val => (none, outport8 hw h idx val trace)
  | .out16 idx val => (none, outport16 hw h idx val trace)
  | .out32 idx val => (none, outport32 hw h idx val trace)

/-- The number of bytes. -/
def PortCall.size : PortCall → ℕ
  | .in8 _ | .out8 _ _ => 1
  | .in16 _ | .out16 _ _ => 2
  | .in32 _ | .out32 _ _ => 4

def PortCall.idx : PortCall → UInt32
  | .in8 idx | .in16 idx | .in32 idx | .out8 idx _ | .out16 idx _ | .out32 idx _ => idx

/-- The value to be written, with zeros in front. -/
def PortCall.val : PortCall → Option UInt32
  | .in8 _ | .in16 _ | .in32 _ => none
  | .out8 _ val => some val.toUInt32
  | .out16 _ val => some val.toUInt32
  | .out32 _ val => some val

/-- What the call is for: one access of its size to its port. -/
def PortCall.direct (hw : PortHardware) (trace : List PortAccess) (c : PortCall) :
    Option UInt32 × List PortAccess :=
  match c.val with
  | none =>
    (some (lowBytes c.size (hw trace c.size c.idx.toUInt16)),
      trace ++ [.read c.size c.idx.toUInt16])
  | some val => (none, trace ++ [.write c.size c.idx.toUInt16 (lowBytes c.size val)])

/-- The request that the call makes of the helper. -/
def PortCall.request (h : HelperLink) (c : PortCall) : DhahelperPort :=
  match c.val with
  | none => inRequest c.size h c.idx
  | some val => outRequest c.size c.idx val

/-- The request succeeds. -/
def HelperLink.Serves (h : HelperLink) : Prop := h.reached = true ∧ h.readable = true

/-! ### The handler -/

/-- Cutting a value to the type that is returned changes nothing. -/
theorem lowBytes_one_toUInt8 (v : UInt32) :
    (lowBytes 1 v).toUInt8.toUInt32 = lowBytes 1 v := by
  show v.toUInt8.toUInt32.toUInt8.toUInt32 = v.toUInt8.toUInt32
  rw [UInt8.toUInt8_toUInt32]

theorem lowBytes_two_toUInt16 (v : UInt32) :
    (lowBytes 2 v).toUInt16.toUInt32 = lowBytes 2 v := by
  show v.toUInt16.toUInt32.toUInt16.toUInt32 = v.toUInt16.toUInt32
  rw [UInt16.toUInt16_toUInt32]

/-- The sizes of the calls are those the handler knows. -/
theorem legalSize_ofNat {size : ℕ} (hsize : size = 1 ∨ size = 2 ∨ size = 4) :
    legalSize (Int32.ofNat size) = some size := by
  rcases hsize with rfl | rfl | rfl <;> rfl

theorem inRequest_port (size : ℕ) (h : HelperLink) (idx : UInt32) :
    (inRequest size h idx).port = idx.toUInt16 := rfl

theorem outRequest_port (size : ℕ) (idx val : UInt32) :
    (outRequest size idx val).port = idx.toUInt16 := rfl

variable (hw : PortHardware) (h : HelperLink) (trace : List PortAccess) {size : ℕ}
  (idx val : UInt32)

/-- A request that does not get to the port. -/
theorem ioctlPort_of_not_serves (hserves : ¬ h.Serves) (arg : DhahelperPort) :
    ioctlPort hw h trace arg = (-1, trace, arg) := by
  unfold ioctlPort
  by_cases hreached : h.reached = true
  · have hreadable : h.readable = false := by
      rw [← Bool.not_eq_true]
      exact fun hr => hserves ⟨hreached, hr⟩
    simp only [hreached, hreadable, dhahelperPort]
    rfl
  · rw [if_pos (by simpa using hreached)]

/-- A read for which the helper answers. -/
theorem ioctlPort_in (hsize : size = 1 ∨ size = 2 ∨ size = 4) (hserves : h.Serves) :
    (ioctlPort hw h trace (inRequest size h idx)).2.1 =
        trace ++ [.read size idx.toUInt16] ∧
      (h.writable = false → (ioctlPort hw h trace (inRequest size h idx)).1 = -1) ∧
      (h.writable = true → (ioctlPort hw h trace (inRequest size h idx)).1 = 0 ∧
        (ioctlPort hw h trace (inRequest size h idx)).2.2.value.toUInt32 =
          lowBytes size (hw trace size idx.toUInt16)) := by
  obtain ⟨hreached, hreadable⟩ := hserves
  have hlegal : legalSize (inRequest size h idx).size = some size := legalSize_ofNat hsize
  have hop : (inRequest size h idx).operation = portOpRead := rfl
  unfold ioctlPort dhahelperPort
  rw [hreached, hreadable, hop, hlegal, inRequest_port]
  cases h.writable with
  | false => exact ⟨rfl, fun _ => rfl, nofun⟩
  | true => exact ⟨rfl, nofun, fun _ => ⟨rfl, rfl⟩⟩

/-- A write for which the helper answers. -/
theorem ioctlPort_out (hsize : size = 1 ∨ size = 2 ∨ size = 4) (hserves : h.Serves) :
    (ioctlPort hw h trace (outRequest size idx val)).2.1 =
      trace ++ [.write size idx.toUInt16 (lowBytes size val)] := by
  obtain ⟨hreached, hreadable⟩ := hserves
  have hlegal : legalSize (outRequest size idx val).size = some size := legalSize_ofNat hsize
  have hop : (outRequest size idx val).operation = portOpWrite := rfl
  have hne : portOpWrite ≠ portOpRead := by decide
  unfold ioctlPort dhahelperPort
  rw [hreached, hreadable, hop, if_neg hne, hlegal, outRequest_port]
  rfl

/-! ### The functions -/

/-- If the request of a call fails, the helper has not touched the port. -/
def PortCall.Untouched (c : PortCall) : Prop :=
  (ioctlPort hw h trace (c.request h)).1 ≠ 0 →
    (ioctlPort hw h trace (c.request h)).2.1 = trace

/-- A read comes back with the value of the port, whichever way it goes. -/
theorem inport_eq (hsize : size = 1 ∨ size = 2 ∨ size = 4)
    (huntouched : (ioctlPort hw h trace (inRequest size h idx)).1 ≠ 0 →
      (ioctlPort hw h trace (inRequest size h idx)).2.1 = trace) :
    inport size hw h idx trace =
      (lowBytes size (hw trace size idx.toUInt16), trace ++ [.read size idx.toUInt16]) := by
  unfold inport
  by_cases hserves : h.Serves
  · obtain ⟨htrace, hfail, hok⟩ := ioctlPort_in hw h trace idx hsize hserves
    have hwritable : h.writable = true := by
      by_contra hnot
      -- the port has been read, but the value cannot be delivered
      have hret := hfail (Bool.not_eq_true _ ▸ hnot)
      have htouched := huntouched (by rw [hret]; decide)
      rw [htrace] at htouched
      simp at htouched
    obtain ⟨hret, hvalue⟩ := hok hwritable
    generalize ioctlPort hw h trace (inRequest size h idx) = r at htrace hret hvalue ⊢
    obtain ⟨ret, trace', port⟩ := r
    dsimp only at htrace hret hvalue ⊢
    rw [if_pos hret, htrace, hvalue]
    split_ifs <;> rfl
  · rw [ioctlPort_of_not_serves hw h trace hserves]
    split_ifs <;> rfl

/-- A write reaches the port iff the helper is not open or serves it. -/
theorem outport_eq_iff (hsize : size = 1 ∨ size = 2 ∨ size = 4) :
    outport size hw h idx val trace =
        trace ++ [.write size idx.toUInt16 (lowBytes size val)] ↔
      ¬ 0 < h.dhahelperFd ∨ h.Serves := by
  unfold outport
  by_cases hfd : 0 < h.dhahelperFd
  · rw [if_pos hfd]
    by_cases hserves : h.Serves
    · exact iff_of_true (ioctlPort_out hw h trace idx val hsize hserves) (Or.inr hserves)
    · rw [ioctlPort_of_not_serves hw h trace hserves]
      refine iff_of_false (fun heq => ?_) (fun hor => ?_)
      · simp at heq
      · rcases hor with hor | hor
        · exact hor hfd
        · exact hserves hor
  · rw [if_neg hfd]
    exact iff_of_true rfl (Or.inl hfd)

/-- **A call makes its one access iff it is a read, or the helper is not open, or the helper serves
it,** if a request that fails leaves the port alone. -/
theorem portCall_direct_iff (hw : PortHardware) (h : HelperLink) (trace : List PortAccess)
    (c : PortCall) (huntouched : c.Untouched hw h trace) :
    c.run hw h trace = c.direct hw trace ↔
      c.val = none ∨ ¬ 0 < h.dhahelperFd ∨ h.Serves := by
  have hwrite (size : ℕ) (hsize : size = 1 ∨ size = 2 ∨ size = 4) (idx val : UInt32) :
      ((none : Option UInt32), outport size hw h idx val trace) =
          (none, trace ++ [.write size idx.toUInt16 (lowBytes size val)]) ↔
        some val = none ∨ ¬ 0 < h.dhahelperFd ∨ h.Serves := by
    rw [Prod.mk_right_inj, outport_eq_iff hw h trace idx val hsize]
    simp
  rcases c with idx | idx | idx | ⟨idx, val⟩ | ⟨idx, val⟩ | ⟨idx, val⟩
  · refine iff_of_true ?_ (Or.inl rfl)
    show (some (inport 1 hw h idx trace).1.toUInt8.toUInt32, (inport 1 hw h idx trace).2) = _
    rw [inport_eq hw h trace idx (Or.inl rfl) huntouched, lowBytes_one_toUInt8]
    rfl
  · refine iff_of_true ?_ (Or.inl rfl)
    show (some (inport 2 hw h idx trace).1.toUInt16.toUInt32, (inport 2 hw h idx trace).2) = _
    rw [inport_eq hw h trace idx (Or.inr (Or.inl rfl)) huntouched, lowBytes_two_toUInt16]
    rfl
  · refine iff_of_true ?_ (Or.inl rfl)
    show (some (inport 4 hw h idx trace).1, (inport 4 hw h idx trace).2) = _
    rw [inport_eq hw h trace idx (Or.inr (Or.inr rfl)) huntouched]
    rfl
  · exact hwrite 1 (Or.inl rfl) idx val.toUInt32
  · exact hwrite 2 (Or.inr (Or.inl rfl)) idx val.toUInt32
  · exact hwrite 4 (Or.inr (Or.inr rfl)) idx val

/-- Hardware that answers every read with the same word. -/
def sampleHardware : PortHardware := fun _ _ _ => 0x12345678

/-- The helper is open and its handler serves every request. -/
def servingLink : HelperLink where
  dhahelperFd := 3
  reached := true
  readable := true
  writable := true
  stack := 0

/-- The helper is open, but `ioctl` fails. -/
def refusingLink : HelperLink := { servingLink with reached := false }

/-- A read of two bytes through the helper. -/
theorem portCall_direct_in16 :
    (PortCall.in16 0x3d4).run sampleHardware servingLink [] =
      (some 0x5678, [.read 2 0x3d4]) :=
  (portCall_direct_iff sampleHardware servingLink [] (.in16 0x3d4)
    (fun hret => absurd rfl hret)).mpr (Or.inl rfl)

/-- **A write that the helper refuses is lost:** the port is not touched at all. -/
theorem portCall_write_lost :
    (PortCall.out8 0x3d4 0x11).Untouched sampleHardware refusingLink [] ∧
      (PortCall.out8 0x3d4 0x11).run sampleHardware refusingLink [] = (none, []) ∧
      (PortCall.out8 0x3d4 0x11).run sampleHardware refusingLink [] ≠
        (PortCall.out8 0x3d4 0x11).direct sampleHardware [] :=
  ⟨fun _ => rfl, rfl, by decide⟩

end Vidix.Libdha
